import Mathlib.Logic.Function.Iterate
import StructuredOutput.Proofs.Schema.References

/-! # How deep nodes are nested

A part of a node is nested less deep than the node, wrappers only add to the height, and no entry of
a table is nested deeper than the table. So what is left of a path inside one entry is bounded by
the height of the table. -/
namespace StructuredOutput.Schema

/-- What makes one step on each level is the iterate of the step, from the lowest level on. -/
theorem eq_iterate {α : Type} {step : α → α} {level : Nat → α}
    (h : ∀ n, level (n + 1) = step (level n)) (n : Nat) : level n = step^[n] (level 0) := by
  induction n with
  | zero => rfl
  | succ n ih => rw [Function.iterate_succ_apply', ← ih, h]

namespace Node

theorem height_pos (node : Node) : 0 < node.height := by
  cases node <;> simp [height]

theorem height_le_listHeight {node : Node} {nodes : List Node} (h : node ∈ nodes) :
    node.height ≤ listHeight nodes := by
  induction nodes with
  | nil => cases h
  | cons first rest ih =>
    simp only [listHeight]
    rcases List.mem_cons.mp h with rfl | h
    · exact Nat.le_max_left _ _
    · exact (ih h).trans (Nat.le_max_right _ _)

theorem height_le_fieldsHeight {member : String × Node} {members : List (String × Node)}
    (h : member ∈ members) : member.2.height ≤ fieldsHeight members := by
  induction members with
  | nil => cases h
  | cons first rest ih =>
    obtain ⟨key, node⟩ := first
    simp only [fieldsHeight]
    rcases List.mem_cons.mp h with rfl | h
    · exact Nat.le_max_left _ _
    · exact (ih h).trans (Nat.le_max_right _ _)

end Node

theorem Parsed.height_base {node : Node} (h : Parsed node) : node.base.height ≤ node.height := by
  induction h with
  | wrapper _ ih => exact ih.trans (by simp [Node.height])
  | lazy | primitive | literal | enumeration | array | anyArray | object | record | anyRecord
  | union => exact Nat.le_refl _

namespace Graph

variable {g : Graph}

/-- What is gathered by steps that never lower it stays above each part that a step puts in. -/
theorem le_foldl {α : Type} {step : Nat → α → Nat} (hgrow : ∀ high a, high ≤ step high a) {a : α}
    {n : Nat} (hstep : ∀ high, n ≤ step high a) (entries : List α) (start : Nat) :
    start ≤ entries.foldl step start ∧ (a ∈ entries → n ≤ entries.foldl step start) := by
  induction entries generalizing start with
  | nil => exact ⟨Nat.le_refl _, fun hm => absurd hm List.not_mem_nil⟩
  | cons first rest ih =>
    rw [List.foldl_cons]
    refine ⟨(hgrow start first).trans (ih _).1, fun hm => ?_⟩
    rcases List.mem_cons.mp hm with rfl | hm
    · exact (hstep start).trans (ih _).1
    · exact (ih _).2 hm

theorem height_le_of_mem {entry : Ref × Except Fault Node} {node : Node}
    (h : entry ∈ g.entries) (hn : entry.2 = .ok node) : node.height ≤ g.height := by
  unfold height
  refine (le_foldl (fun high entry => ?_) (fun high => ?_) g.entries 0).2 h
  · split
    · exact Nat.le_max_left _ _
    · exact Nat.le_refl _
  · rw [hn]
    exact Nat.le_max_right _ _

theorem height_le_of_resolve {ref : Ref} {node : Node} (h : g.resolve ref = .ok node) :
    node.height ≤ g.height :=
  height_le_of_mem (mem_of_resolve h) rfl

/-- A condition that holds of no more references, and no longer of one that leads to a node, holds of
fewer entries. -/
theorem countP_lt_of_resolve {ref : Ref} {node : Node} (h : g.resolve ref = .ok node)
    (left all : Ref → Bool) (hmono : ∀ ref, left ref = true → all ref = true)
    (hgone : left ref = false) (hthere : all ref = true) :
    (g.entries.countP fun entry => left entry.1) < g.entries.countP fun entry => all entry.1 := by
  obtain ⟨before, behind, he⟩ := List.append_of_mem (mem_of_resolve h)
  have hless (entries : List (Ref × Except Fault Node)) :
      (entries.countP fun entry => left entry.1) ≤ entries.countP fun entry => all entry.1 :=
    List.countP_mono_left fun entry _ => hmono entry.1
  have hb := hless before
  have hh := hless behind
  simp only [he, List.countP_append, List.countP_cons, hgone, hthere, Bool.false_eq_true, if_false,
    if_true]
  omega

/-- A path into an entry is shorter by the entry when it has fewer entries left to go through. -/
theorem path_lt_of_lt {ref : Ref} {node : Node} (h : g.resolve ref = .ok node) {left all : Nat}
    (hless : left < all) {part : Node} (hp : part.height ≤ node.height) {n : Nat} (hn : 0 < n) :
    left * (g.height + 1) + part.height < all * (g.height + 1) + n := by
  have hh := hp.trans (height_le_of_resolve h)
  calc left * (g.height + 1) + part.height
      < left * (g.height + 1) + (g.height + 1) + n := by omega
    _ = (left + 1) * (g.height + 1) + n := by rw [Nat.succ_mul]
    _ ≤ all * (g.height + 1) + n := Nat.add_le_add_right (Nat.mul_le_mul_right _ hless) n

end Graph

end StructuredOutput.Schema
