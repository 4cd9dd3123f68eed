import StructuredOutput.Proofs.Agreement.ObjectsMet

/-! # The hint and the classes agree on fields

The translator and the hint go over the same nodes by different ways: the one peels wrappers within a
limit and names fields by sanitized keys, the other looks for an optional wrapper and writes the keys as
they are. For an object that both meet, the fields of the class and those that the description shows have
the same keys in the same order, and the same ones may be left out. -/
namespace StructuredOutput

open Baml (Declarations linkTable link)
open Baml.Translation (Returns objectClasses objectClasses_fields objectClasses_thorough)
open Hint (Shape Part)
open Schema (Graph Node)

/-- The keys of a class and which of them may be left out are those of the members. -/
theorem keys_of_fields {typed : Node → String → Prop} {fields : List Baml.Field}
    {members : List (String × Node)}
    (h : List.Forall₂ (Baml.Translation.FieldFor typed) fields members) :
    fields.map (fun f => (f.source, f.optional)) = members.map fun m => (m.1, m.2.mayBeAbsent) := by
  induction h with
  | nil => rfl
  | cons hf _ ih => rw [List.map_cons, List.map_cons, ih, hf.source, hf.optional]

/-- When a node is translated from nothing declared and described, the description is the rendering of
its shape, the declared classes are those of the objects that were met, every object that the
description shows is one of them, and each class has the fields that any part of the description shows
for its object: the same keys in the same order, with the mark of a field that may be left out at the
same ones. -/
theorem fields_agree {g : Graph} {s : Settings.Translator} {node : Node} {hint : Baml.NameHint}
    {expr : String} {d : Declarations} {value : Json}
    (hr : Returns (Baml.translate g s node hint) {} expr d)
    (hd : Hint.describe g node = .ok value) :
    (Hint.shape g node).render = .ok value ∧
    (objectClasses g s node hint {}).map (·.name) = d.classNames ∧
    (∀ members fields, Part (.object members fields) (Hint.shape g node) →
      ∃ o ∈ objectClasses g s node hint {}, o.members = members) ∧
    ∀ o ∈ objectClasses g s node hint {}, ∃ c, d.class? o.name = some c ∧
      ∀ fields, Part (.object o.members fields) (Hint.shape g node) →
        c.fields.map (fun f => (f.source, f.optional)) = fields.map fun f => (f.1, f.2.1) := by
  obtain ⟨hnames, hfilled⟩ := objectClasses_fields hr
  have hrender : (Hint.shape g node).render = .ok value := (Hint.describe_eq g node).symm.trans hd
  refine ⟨hrender, hnames.symm, fun _ _ hp => objectClasses_thorough hr ⟨value, hrender⟩ hp,
    fun o hm => ?_⟩
  obtain ⟨c, hc, hf, -⟩ := hfilled o hm
  refine ⟨c, hc, fun fields hp => ?_⟩
  rw [keys_of_fields hf, Hint.fields_of_part hd hp]

/-- A recursive object: its class and the text in which it is described. -/
theorem fields_agree_link :
    ∃ (d : Declarations) (c : Baml.Class), Returns (Baml.translate linkTable {} link .none) {} "Obj" d ∧
      Hint.describe linkTable link =
        .ok (.str "\x7b next?: object, kind: \"first\" | \"inner\" | \"last one\" \x7d") ∧
      d.class? "Obj" = some c ∧
      c.fields.map (fun f => (f.source, f.optional)) = [("next", true), ("kind", false)] := by
  have hr : Returns (Baml.translate linkTable {} link .none) {} "Obj"
    (Baml.Translation.after (Baml.translate linkTable {} link .none) {}) := rfl
  have hd : Hint.describe linkTable link =
    .ok (.str "\x7b next?: object, kind: \"first\" | \"inner\" | \"last one\" \x7d") := rfl
  obtain ⟨-, -, -, hall⟩ := fields_agree hr hd
  obtain ⟨c, hc, hfields⟩ := hall _ List.mem_cons_self
  exact ⟨_, c, hr, hd, hc, hfields _ (.described .self)⟩

end StructuredOutput
