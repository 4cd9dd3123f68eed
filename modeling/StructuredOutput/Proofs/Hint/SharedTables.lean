import StructuredOutput.Proofs.Hint.Shapes
import StructuredOutput.Proofs.Schema.Heights
import StructuredOutput.Proofs.Schema.SharedTables

/-! # Describing with shared tables

A description goes down in a parsed node until it meets a deferred node. It follows the reference only
where the node is not active, and then it is active for the rest of the path, so what is left of a path
is bounded by the entries that are not active. With two tables that share the references of a node a
description goes the same way, and it ends in both before their sizes could make a difference. -/
namespace StructuredOutput.Hint

open Schema (Confined Graph Node Ref)

/-! ## What is left of a path -/

/-- How deep the shape of a node can still go: through the node, and through one entry of the table
for each reference that is not active. -/
def need (g : Graph) (active : List Ref) (node : Node) : Nat :=
  (g.entries.countP fun entry => !active.contains entry.1) * (g.height + 1) + node.height

variable {g g' : Graph} {active : List Ref} {known : Ref → Prop} {node : Node}

theorem need_part (active : List Ref) {part : Node} (h : part.height < node.height) :
    need g active part < need g active node :=
  Nat.add_lt_add_left h _

/-- Behind a reference that was not active one more entry is. -/
theorem need_behind {ref : Ref} (hnew : active.contains ref = false) {target : Node}
    (h : g.resolve ref = .ok target) (description name : Json) :
    need g (ref :: active) target < need g active (.lazy description name ref) := by
  have hless : (g.entries.countP fun entry => !(ref :: active).contains entry.1) <
      g.entries.countP fun entry => !active.contains entry.1 := by
    refine Graph.countP_lt_of_resolve h (fun other => !(ref :: active).contains other)
      (fun other => !active.contains other) (fun other hn => ?_) (by simp)
      (by simpa using hnew)
    rw [List.contains_cons, Bool.not_or, Bool.and_eq_true] at hn
    exact hn.2
  exact Graph.path_lt_of_lt h hless (Nat.le_refl _) (Node.height_pos _)

/-- The nesting of `shape` is enough. -/
theorem need_le_reach (g : Graph) (node : Node) : need g [] node ≤ g.reach (maxSteps g) node := by
  have hcount : (g.entries.countP fun entry => !([] : List Ref).contains entry.1) ≤ maxSteps g :=
    calc (g.entries.countP fun entry => !([] : List Ref).contains entry.1)
        ≤ g.entries.length + 1 := List.countP_le_length.trans (Nat.le_succ _)
      _ ≤ maxSteps g := Nat.le_mul_of_pos_right _ (Nat.succ_pos _)
  unfold need Graph.reach
  calc (g.entries.countP fun entry => !([] : List Ref).contains entry.1) * (g.height + 1) + node.height
      ≤ maxSteps g * (max g.height node.height + 1) + (max g.height node.height + 1) := by
        gcongr
        · exact Nat.le_max_left _ _
        · omega
    _ = (maxSteps g + 1) * (max g.height node.height + 1) := (Nat.succ_mul _ _).symm

/-! ## Shapes -/

theorem shapeOf_congr {α : Type} {result : Except Fault α} {f f' : α → Shape}
    (h : ∀ a, result = .ok a → f a = f' a) : shapeOf result f = shapeOf result f' := by
  cases result with
  | error fault => rfl
  | ok a => exact h a rfl

section Step

variable {inner inner' : List Ref → Node → Shape} {n n' : Nat}

/-- One step with shared tables, each with enough nesting left for what lies inside the node. -/
theorem shapeStep_shared (hg : g.Shares g' known)
    (hi : ∀ active part, Confined known part → need g active part ≤ n → need g' active part ≤ n' →
      inner active part = inner' active part)
    (h : Confined known node) (hn : need g active node ≤ n + 1) (hn' : need g' active node ≤ n' + 1) :
    shapeStep g inner active node = shapeStep g' inner' active node := by
  have hpart : ∀ part, part.height < node.height → Confined known part →
      inner active part = inner' active part := fun part hlt hc =>
    hi active part hc (Nat.le_of_lt_succ ((need_part active hlt).trans_le hn))
      (Nat.le_of_lt_succ ((need_part active hlt).trans_le hn'))
  cases node with
  | object description members =>
    rw [shapeStep, shapeStep]
    congr 1
    refine List.map_congr_left fun m hm => ?_
    rw [hpart m.2 (Nat.lt_succ_of_le (Node.height_le_fieldsHeight hm)) (h.member hm)]
  | array description candidates low high =>
    rw [shapeStep, shapeStep, h.parsed.element_eq g g']
    refine shapeOf_congr fun element he => ?_
    rcases h.element he with habsent | ⟨hm, hc⟩
    · rw [if_pos habsent, if_pos habsent]
    · rw [hpart element (Nat.lt_succ_of_le (Node.height_le_listHeight hm)) hc]
  | record description key value =>
    rw [shapeStep, shapeStep, hpart value (Nat.lt_succ_of_le (Nat.le_max_right _ _)) h.entry.2]
  | union description options =>
    rw [shapeStep, shapeStep]
    congr 1
    refine List.map_congr_left fun option hm => ?_
    exact hpart option (Nat.lt_succ_of_le (Node.height_le_listHeight hm)) (h.option hm)
  | wrapper description form part =>
    have hp := hpart part (Nat.lt_succ_self _) h.inner
    cases form <;> simp only [shapeStep, hp]
  | lazy description name ref =>
    rw [shapeStep, shapeStep]
    cases hnew : active.contains ref with
    | true => rfl
    | false =>
      have hsame := hg.same h.reference
      rw [if_neg Bool.false_ne_true, if_neg Bool.false_ne_true, ← hsame]
      refine shapeOf_congr fun target ht => ?_
      have hb := need_behind hnew ht description name
      have hb' := need_behind hnew (hsame ▸ ht) description name
      rw [hi _ target (hg.confined h.reference ht) (Nat.le_of_lt_succ (hb.trans_le hn))
        (Nat.le_of_lt_succ (hb'.trans_le hn'))]
  | bare => cases h.parsed
  | pipeline => cases h.parsed
  | foreign | thunk | primitive | literal | enumeration | memberEnum => rfl

end Step

/-- With shared tables and enough nesting in each, the shapes are one. -/
theorem shapeWithin_shared (hg : g.Shares g' known) {n n' : Nat} (h : Confined known node)
    (hn : need g active node ≤ n) (hn' : need g' active node ≤ n') :
    shapeWithin g n active node = shapeWithin g' n' active node := by
  have hpos := node.height_pos
  induction n generalizing n' active node with
  | zero =>
    unfold need at hn
    omega
  | succ n ih =>
    obtain _ | n' := n'
    · unfold need at hn'
      omega
    · exact shapeStep_shared hg
        (fun active part hc hn hn' => ih hc hn hn' part.height_pos) h hn hn'

/-- A description depends on the shared part of a table alone. -/
theorem describe_shared (hg : g.Shares g' known) (h : Confined known node) :
    describe g node = describe g' node := by
  rw [describe_eq, describe_eq, shape, shape,
    shapeWithin_shared hg h (need_le_reach g node) (need_le_reach g' node)]

end StructuredOutput.Hint
