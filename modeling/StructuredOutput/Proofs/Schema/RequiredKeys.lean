import StructuredOutput.Proofs.Hint.Parts
import StructuredOutput.Proofs.Schema.Parsed
import StructuredOutput.Proofs.Schema.Wrappers

/-! # Which fields of an object may be left out

Reading a schema never gives a node that may be left out, whatever the schema is made of: alternatives,
null among them, a default and a description add other wrappers only. So the one place where such a
wrapper is put is around the field of a key that is not required. -/
namespace StructuredOutput.Schema.Document

theorem mayBeAbsent_describe (node : Node) (description : Json) :
    (node.describe description).mayBeAbsent = node.mayBeAbsent := by
  cases node <;> rfl

theorem present_kept : Kept fun node => node.mayBeAbsent = false where
  lazy _ _ := rfl
  primitive _ := rfl
  literal _ := rfl
  enumeration _ := rfl
  array _ _ _ := rfl
  object _ := rfl
  record _ _ := rfl
  union _ := rfl
  nullable h := h
  plain _ h := h
  default _ _ h := h
  describe d h := (mayBeAbsent_describe _ d).trans h

theorem mayBeAbsent_node {doc : Document} {path : String} {schema : Json} {n : Node}
    (h : node doc path schema = .ok n) : n.mayBeAbsent = false := by
  have hfair := node_kept present_kept doc path schema
  rwa [h] at hfair

/-! ## Fields -/

theorem asksFor_strings (required : List String) (key : String) :
    asksFor (.arr (required.map .str)) key = .ok (decide (key ∈ required)) := by
  have hany : (required.map Json.str).any (·.isStr key) = decide (key ∈ required) := by
    rw [Bool.eq_iff_iff]
    simp [Json.isStr]
  rw [asksFor, hany]

/-- The fields of an object are its properties in order, and the ones that may be left out are those whose
keys are not required. -/
theorem fieldNodes_required {doc : Document} {path : String} {required : List String}
    {properties : List (String × Json)} : ∀ {fields : List (String × Node)},
      fieldNodes doc path (.arr (required.map .str)) properties = .ok fields →
      fields.map (fun field => (field.1, field.2.mayBeAbsent)) =
        properties.map fun property => (property.1, decide (property.1 ∉ required)) := by
  induction properties with
  | nil =>
    intro fields h
    rw [fieldNodes] at h
    cases h
    rfl
  | cons property rest ih =>
    obtain ⟨key, schema⟩ := property
    intro fields h
    rw [fieldNodes] at h
    obtain ⟨n, hn, h⟩ := Hint.ok_of_bind h
    obtain ⟨asked, hasked, h⟩ := Hint.ok_of_bind h
    obtain ⟨others, hothers, h⟩ := Hint.ok_of_bind h
    cases h
    rw [asksFor_strings] at hasked
    cases hasked
    rw [List.map_cons, List.map_cons, ih hothers]
    congr 2
    by_cases hm : key ∈ required
    · simp [hm, mayBeAbsent_node hn]
    · simp [hm, Node.mayBeAbsent, Wrapper.isOptional]

end StructuredOutput.Schema.Document
