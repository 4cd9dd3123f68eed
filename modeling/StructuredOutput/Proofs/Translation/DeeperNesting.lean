import StructuredOutput.Proofs.Translation.Termination

/-! # A deeper nesting

A nesting only decides where a translation that goes on is cut off. Nothing in the translator catches
the fault of a cut, so a translation that was not cut off at one nesting ends the same way, and with the
same declarations, at every deeper one. -/
namespace StructuredOutput.Baml

open Schema (Graph Node Ref)

namespace Translation

variable {α β : Type} {g : Graph} {s : Settings.Translator} {d : Declarations}
  {inside inside' : Node → NameHint → Translation String} {hint : NameHint}

/-- Started with `d`, the first translation is cut off, or both end alike. -/
def Refines (m m' : Translation α) (d : Declarations) : Prop :=
  (m.run.run d).1 = .error .endless ∨ Same m m' d

theorem Refines.refl (m : Translation α) (d : Declarations) : Refines m m d := .inr (.refl m d)

theorem Refines.bind {m m' : Translation α} {f f' : α → Translation β} (hm : Refines m m' d)
    (hf : ∀ a d₁, Refines (f a) (f' a) d₁) : Refines (m >>= f) (m' >>= f') d := by
  unfold Refines Same at *
  rw [run_bind, run_bind]
  rcases hm with hcut | hsame
  · revert hcut
    generalize m.run.run d = outcome
    intro hcut
    obtain ⟨result, d₁⟩ := outcome
    cases hcut
    exact .inl rfl
  · rw [← hsame]
    generalize m.run.run d = outcome
    obtain ⟨result, d₁⟩ := outcome
    cases result with
    | ok a => exact hf a d₁
    | error fault => exact .inr rfl

theorem Refines.deeper {m m' : Translation α} (h : Refines m m' { d with depth := d.depth + 1 }) :
    Refines (deeper m) (deeper m') d := by
  rcases h with hcut | hsame
  · exact .inl hcut
  · exact .inr hsame.deeper

/-! ## One step -/

section

variable (hi : ∀ node hint d, Refines (inside node hint) (inside' node hint) d)
include hi

theorem fields_refines (name : String) (members : List (String × Node)) (used : List String)
    (d : Declarations) :
    Refines (fields s inside name used members) (fields s inside' name used members) d := by
  induction members generalizing used d with
  | nil => exact .refl _ _
  | cons member rest ih =>
    unfold fields
    refine Refines.bind (.refl _ _) fun peeled d₁ => ?_
    refine (hi _ _ d₁).bind fun type d₂ => ?_
    exact Refines.bind (.refl _ _) fun _ d₃ => ih _ d₃

theorem classType_refines (name : String) (members : List (String × Node)) (d : Declarations) :
    Refines (classType s inside name members) (classType s inside' name members) d := by
  unfold classType
  exact (fields_refines hi name members [] d).bind fun _ d₁ => .refl _ _

theorem options_refines (hint : NameHint) (nodes : List Node) (index : Nat) (d : Declarations) :
    Refines (options inside hint index nodes) (options inside' hint index nodes) d := by
  induction nodes generalizing index d with
  | nil => exact .refl _ _
  | cons node rest ih =>
    unfold options
    exact (hi _ _ d).bind fun first d₁ => (ih _ d₁).bind fun others d₂ => .refl _ _

theorem lazyType_refines (ref : Ref) (hint : NameHint) (d : Declarations) :
    Refines (lazyType g s inside ref hint) (lazyType g s inside' ref hint) d := by
  unfold lazyType
  refine Refines.bind (.refl _ _) fun seen d₁ => ?_
  cases seen.lazy? ref with
  | some expr => exact .refl _ _
  | none =>
    refine Refines.bind (.refl _ _) fun resolved d₂ => ?_
    refine Refines.bind (.refl _ _) fun target d₃ => ?_
    split
    · refine Refines.bind (.refl _ _) fun name d₄ => ?_
      refine Refines.bind (.refl _ _) fun _ d₅ => ?_
      exact (classType_refines hi name _ d₅).bind fun _ d₆ => .refl _ _
    · refine Refines.bind (.refl _ _) fun _ d₄ => ?_
      refine Refines.bind (.refl _ _) fun full d₅ => ?_
      cases full with
      | true => exact .refl _ _
      | false => exact (Refines.deeper (hi _ _ _)).bind fun expr d₆ => .refl _ _

theorem core_refines (node : Node) (hint : NameHint) (d : Declarations) :
    Refines (core g s inside node hint) (core g s inside' node hint) d := by
  cases node with
  | object description members =>
    exact Refines.bind (.refl _ _) fun name d₁ => classType_refines hi name members d₁
  | array description candidates low high =>
    refine Refines.bind (.refl _ _) fun element d₁ => ?_
    dsimp only
    split
    · exact .refl _ _
    · exact (hi _ _ _).bind fun inner d₂ => .refl _ _
  | record description key value =>
    simp only [core]
    split
    · exact .refl _ _
    · refine (hi _ _ _).bind fun key d₁ => ?_
      exact (hi _ _ _).bind fun value d₂ => .refl _ _
  | union description nodes =>
    simp only [core]
    split
    · exact .refl _ _
    · exact (options_refines hi hint nodes 0 d).bind fun parts d₁ => .refl _ _
  | lazy description name ref => exact lazyType_refines hi ref _ d
  | bare description inner =>
    simp only [core]
    split
    · exact hi _ _ _
    · exact .refl _ _
  | foreign | thunk | primitive | literal | enumeration | memberEnum | wrapper | pipeline =>
    exact .refl _ _

theorem step_refines (node : Node) (hint : NameHint) (d : Declarations) :
    Refines (step g s inside node hint) (step g s inside' node hint) d := by
  unfold step
  refine Refines.bind (.refl _ _) fun peeled d₁ => ?_
  exact (core_refines hi _ hint d₁).bind fun expr d₂ => .refl _ _

end

/-! ## Down to a nesting -/

theorem within_refines (g : Graph) (s : Settings.Translator) (more n : Nat) (node : Node)
    (hint : NameHint) (d : Declarations) :
    Refines (within g s n node hint) (within g s (n + more) node hint) d := by
  induction n generalizing node hint d with
  | zero => exact .inl rfl
  | succ n ih =>
    rw [Nat.add_right_comm]
    exact step_refines ih node hint d

/-- Whether the nesting that a translation takes decides it: no deeper one would change its outcome. -/
def Decided (g : Graph) (s : Settings.Translator) (node : Node) (hint : NameHint) (d : Declarations) :
    Prop :=
  ∀ nesting, g.reach (maxSteps g s d.depth) node ≤ nesting →
    (within g s nesting node hint).run.run d = (translate g s node hint).run.run d

theorem decided_of_ends {node : Node}
    (hends : ((translate g s node hint).run.run d).1 ≠ .error .endless) :
    Decided g s node hint d := by
  intro nesting hle
  obtain ⟨more, rfl⟩ := Nat.exists_eq_add_of_le hle
  exact ((within_refines g s more _ node hint d).resolve_left hends).symm

/-- What is read from a document is always decided. -/
theorem decided_of_parsed {node : Node} (hg : g.AllParsed) (hp : Schema.Parsed node) {limit : Int}
    (hlimit : s.maxLazyDepth.toInt? = some limit) : Decided g s node hint d :=
  fun _ hle => ((endsWithin hg hlimit hp hint (need_le_reach hlimit d node)).mono hle).2

end Translation

end StructuredOutput.Baml
