import StructuredOutput.Proofs.Schema.References

/-! # Tables that share what can be reached

A node is confined to references when no others occur in it. Two tables share references when each
leads to the same in both and to nothing that is not confined to them. Whatever else the tables hold
cannot be reached from a node confined to the references that they share. -/
namespace StructuredOutput.Schema

namespace Node

theorem mem_listRefs {ref : Ref} {nodes : List Node} :
    ref ∈ listRefs nodes ↔ ∃ node ∈ nodes, ref ∈ node.refs := by
  induction nodes with
  | nil => simp [listRefs]
  | cons first rest ih => simp [listRefs, ih]

theorem mem_membersRefs {ref : Ref} {members : List (String × Node)} :
    ref ∈ membersRefs members ↔ ∃ member ∈ members, ref ∈ member.2.refs := by
  induction members with
  | nil => simp [membersRefs]
  | cons first rest ih =>
    obtain ⟨key, node⟩ := first
    simp [membersRefs, ih]

end Node

/-- A parsed node in which no other references occur than the known ones. -/
structure Confined (known : Ref → Prop) (node : Node) : Prop where
  parsed : Parsed node
  refs : ∀ ref ∈ node.refs, known ref

/-- Two tables in which known references lead to the same, and to known references only. -/
structure Graph.Shares (g g' : Graph) (known : Ref → Prop) : Prop where
  same : ∀ {ref}, known ref → g.resolve ref = g'.resolve ref
  confined : ∀ {ref node}, known ref → g.resolve ref = .ok node → Confined known node

namespace Confined

variable {known : Ref → Prop} {description : Json} {node : Node}

theorem base (h : Confined known node) : Confined known node.base :=
  ⟨h.parsed.base, h.parsed.refs_base ▸ h.refs⟩

theorem member {members : List (String × Node)} (h : Confined known (.object description members))
    {member : String × Node} (hm : member ∈ members) : Confined known member.2 := by
  cases h.parsed with
  | object hall =>
    exact ⟨hall member hm, fun ref hr => h.refs ref (Node.mem_membersRefs.mpr ⟨member, hm, hr⟩)⟩

theorem option {options : List Node} (h : Confined known (.union description options))
    (hm : node ∈ options) : Confined known node := by
  cases h.parsed with
  | union hall =>
    exact ⟨hall node hm, fun ref hr => h.refs ref (Node.mem_listRefs.mpr ⟨node, hm, hr⟩)⟩

theorem inner {form : Wrapper} (h : Confined known (.wrapper description form node)) :
    Confined known node := by
  cases h.parsed with
  | wrapper hp => exact ⟨hp, h.refs⟩

theorem reference {name : Json} {ref : Ref} (h : Confined known (.lazy description name ref)) :
    known ref :=
  h.refs ref List.mem_cons_self

/-- The element of an array is absent, or one of the candidates and confined as well. -/
theorem element {candidates : List Node} {low high : Json}
    (h : Confined known (.array description candidates low high)) {g : Graph}
    (he : g.element candidates = .ok node) :
    node.isAbsent = true ∨ (node ∈ candidates ∧ Confined known node) := by
  cases h.parsed with
  | anyArray =>
    cases he
    exact .inl rfl
  | array hp =>
    cases hp.element.symm.trans he
    have hm := List.mem_singleton_self node
    exact .inr ⟨hm, hp, fun ref hr => h.refs ref (Node.mem_listRefs.mpr ⟨node, hm, hr⟩)⟩

/-- The key of a record is absent or confined as well, and so is the value. -/
theorem entry {key value : Node} (h : Confined known (.record description key value)) :
    (key.isAbsent = true ∨ Confined known key) ∧ Confined known value := by
  cases h.parsed with
  | anyRecord hv =>
    exact ⟨.inl rfl, hv, fun ref hr => h.refs ref (List.mem_append_right _ hr)⟩
  | record hk hv =>
    exact ⟨.inr ⟨hk, fun ref hr => h.refs ref (List.mem_append_left _ hr)⟩,
      hv, fun ref hr => h.refs ref (List.mem_append_right _ hr)⟩

end Confined

/-- In a parsed array the table is not needed to find the element. -/
theorem Parsed.element_eq {description low high : Json} {candidates : List Node}
    (h : Parsed (.array description candidates low high)) (g g' : Graph) :
    g.element candidates = g'.element candidates := by
  cases h with
  | anyArray => rfl
  | array hp => rw [hp.element, hp.element]

end StructuredOutput.Schema
