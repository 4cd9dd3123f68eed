import StructuredOutput.Proofs.Translation.Growth

/-! # The frame of a translation

A translation can end in a fault at any call and at any depth: a node that has no type, a definition
that cannot be resolved, a limit, or a fault that has nothing to do with the schema, such as a host
that runs out of stack. `interrupted` is the translator with faults of the last kind put in wherever
`stop` asks for them. Steps do not care where their faults come from, so the frame of a step carries
over. -/
namespace StructuredOutput.Baml

open Schema (Graph Node)

namespace Translation

open Declarations (Grows)

/-- The translator with interruptions: wherever the translation of a node is about to start, `stop`
can end it, knowing the nesting, the node, the hint and the declarations so far. -/
def interrupted (g : Graph) (s : Settings.Translator)
    (stop : Nat → Node → NameHint → Declarations → Option Fault) :
    Nat → Node → NameHint → Translation String
  | 0, _, _ => throw .endless
  | nesting + 1, node, hint => do
    match stop nesting node hint (← get) with
    | some fault => throw fault
    | none => step g s (interrupted g s stop nesting) node hint

/-- Without interruptions it is the translator. -/
theorem interrupted_never (g : Graph) (s : Settings.Translator) (nesting : Nat) :
    interrupted g s (fun _ _ _ _ => none) nesting = within g s nesting := by
  induction nesting with
  | zero => rfl
  | succ nesting ih =>
    funext node hint
    rw [interrupted, ih]
    rfl

theorem interrupted_steady (g : Graph) (s : Settings.Translator)
    (stop : Nat → Node → NameHint → Declarations → Option Fault) (nesting : Nat) :
    Steady (interrupted g s stop nesting) := by
  induction nesting with
  | zero => intro node hint d; exact .refl d
  | succ nesting ih =>
    intro node hint d
    rw [interrupted]
    refine Grows.bind (.refl d) fun seen d₁ h => ?_
    obtain ⟨rfl, rfl⟩ := returns_get.mp h
    split
    · exact .refl _
    · exact step_steady ih node hint _

end Translation

/-- The frame of a translation, however it ends: with a type or with any fault, one of its own or one
that interrupts it at some call. From any declarations on, for any table, settings, node and hint,
the classes, enums and aliases declared before are there unchanged and in front of the new ones, the
order of completed classes is continued, the counter has not fallen, what was recorded of deferred
nodes is still recorded, and the depth is what it was. -/
theorem translate_frame (g : Graph) (s : Settings.Translator) (node : Node) (hint : NameHint)
    (d : Declarations) :
    d.Grows ((translate g s node hint).run.run d).2 ∧
      ∀ stop nesting, d.Grows
        ((Translation.interrupted g s stop nesting node hint).run.run d).2 := by
  have hframe : ∀ stop nesting, d.Grows
      ((Translation.interrupted g s stop nesting node hint).run.run d).2 :=
    fun stop nesting => Translation.interrupted_steady g s stop nesting node hint d
  refine ⟨?_, hframe⟩
  rw [Translation.run_translate, ← Translation.interrupted_never]
  exact hframe _ _

/-- A class stays with the fields that it has when a later field fails. -/
example : (translate .empty {} (.object .null [("a", .primitive .null (.str "string")),
    ("b", .union .null [])]) .none).run.run {} =
    (.error (.translation .emptyUnion),
      { classes := [("Obj", ⟨"Obj", [⟨"a", "string", false, .null, none⟩]⟩)] }) :=
  rfl

end StructuredOutput.Baml
