import StructuredOutput.Proofs.Agreement.ObjectClasses

/-! # The fields of every class are named after the keys of its object

An object is translated key by key, with whatever its fields declare in between; what becomes of its
keys does not depend on that. The theorem holds for every object that a translation meets, at any depth
and behind any reference, and whatever has been declared before. -/
namespace StructuredOutput.Baml

open Schema (Graph Node)
open Translation (Returns Settles objectClasses)

/-- The objects that a translation meets are named by the classes it declares, and the class of each has
its fields named after the keys: one field for each key in order, with distinct plain names, and with the
key as alias exactly where the name is another text. A key that is a plain name keeps its spelling unless
a field before it has taken it. The search for a name ends whatever names are used. -/
theorem fields_named {g : Graph} {s : Settings.Translator} {node : Node} {hint : NameHint}
    {expr : String} {d d' : Declarations} (hr : Returns (translate g s node hint) d expr d') :
    (∀ description members, node.base = .object description members →
      ∃ name more, objectClasses g s node hint d = ⟨members, name⟩ :: more) ∧
    d'.classNames = d.classNames ++ (objectClasses g s node hint d).map (·.name) ∧
    (∀ o ∈ objectClasses g s node hint d, ∃ c, d'.class? o.name = some c ∧
      NamedAfter (o.members.map (·.1)) c.fields) ∧
    ∀ used base, ∃ name, Settles used base base 1 name := by
  obtain ⟨hnames, hnamed⟩ := Translation.objectClasses_named hr
  refine ⟨fun description members hb => ?_, hnames, hnamed,
    fun used base => ⟨_, Translation.settles_freeField used base⟩⟩
  exact Translation.objectClasses_of_object hr hb

def clashing : Node :=
  .object .null (["a-b", "a_b", "a_b_1"].map fun key => (key, .primitive .null (.str "string")))

theorem fields_named_clashing : ∃ (d : Declarations) (c : Class),
    Returns (translate ⟨[]⟩ {} clashing .none) {} "Obj" d ∧ d.class? "Obj" = some c ∧
      NamedAfter ["a-b", "a_b", "a_b_1"] c.fields ∧
      c.fields.map Field.title =
        [("a_b", some "a-b"), ("a_b_1", some "a_b"), ("a_b_1_1", some "a_b_1")] := by
  have hr : Returns (translate ⟨[]⟩ {} clashing .none) {} "Obj"
    (Translation.after (translate ⟨[]⟩ {} clashing .none) {}) := rfl
  obtain ⟨-, -, hall, -⟩ := fields_named hr
  obtain ⟨c, hc, hnamed⟩ := hall _ List.mem_cons_self
  refine ⟨_, c, hr, hc, hnamed, ?_⟩
  cases hc
  rfl

end StructuredOutput.Baml
