import StructuredOutput.Proofs.Schema.Wrappers

/-! # Stacks of wrappers

A stack is a node that is no wrapper, with wrappers around it. Peeling takes one wrapper off at each
call and needs one more call to see that the node below is none, so a limit lets through exactly the
stacks that have no more wrappers. What comes off says what the wrappers say in any order, but for the
description, which is that of the outermost that has one. -/
namespace StructuredOutput.Schema

namespace Node

def isOptional : Node → Bool
  | wrapper _ form _ => form.isOptional
  | _ => false

def isNullable : Node → Bool
  | wrapper _ form _ => form.isNullable
  | _ => false

def firstSaid (nodes : List Node) : Json := ((nodes.map description).find? Json.truthy).getD .null

theorem firstSaid_cons (node : Node) (rest : List Node) : firstSaid (node :: rest) =
    if node.description.truthy then node.description else firstSaid rest := by
  unfold firstSaid
  rw [List.map_cons, List.find?_cons]
  cases node.description.truthy <;> rfl

/-- What a wrapper adds to what is said inside it. -/
theorem unwrapped_of_target {node inner : Node} (h : node.target? = some inner) :
    node.base = inner.base ∧ node.mayBeAbsent = (node.isOptional || inner.mayBeAbsent) ∧
      node.mayBeNull = (node.isNullable || inner.mayBeNull) ∧
      node.said = if node.description.truthy then node.description else inner.said := by
  cases node with
  | wrapper =>
    cases h
    exact ⟨rfl, rfl, rfl, rfl⟩
  | pipeline description output input =>
    cases h
    simp only [base, mayBeAbsent, mayBeNull, said, isOptional, isNullable, Node.description,
      Bool.false_or, apply_ite Node.base, apply_ite Node.mayBeAbsent, apply_ite Node.mayBeNull,
      apply_ite Node.said, and_self]
  | _ => cases h

theorem unwrapped_of_no_target {node : Node} (h : node.target? = none) :
    node.base = node ∧ node.mayBeAbsent = false ∧ node.mayBeNull = false ∧
      node.said = if node.description.truthy then node.description else .null := by
  cases node with
  | wrapper | pipeline => cases h
  | _ => exact ⟨rfl, rfl, rfl, rfl⟩

theorem height_le_of_target {node inner : Node} (h : node.target? = some inner) :
    inner.height ≤ node.height := by
  cases node with
  | wrapper =>
    cases h
    exact Nat.le_succ _
  | pipeline description output input =>
    cases h
    rw [height]
    split <;> omega
  | _ => cases h

end Node

/-- A node is a stack when wrappers, listed from the outside in, stand around a base that is none. A
pipeline is around its output, or around its input if it has no output. -/
inductive Stack : Node → List Node → Node → Prop
  | base {node : Node} : node.isNode = true → node.target? = none → Stack node [] node
  | wrapped {node inner base : Node} {wrappers : List Node} : node.target? = some inner →
      Stack inner wrappers base → Stack node (node :: wrappers) base

namespace Stack

variable {node base : Node} {wrappers : List Node}

theorem present (h : Stack node wrappers base) : node.isAbsent = false := by
  cases h with
  | base hnode _ =>
    cases node with
    | foreign | thunk => cases hnode
    | _ => rfl
  | wrapped htarget _ =>
    cases node with
    | wrapper | pipeline => rfl
    | _ => cases htarget

/-- The base is a stack without wrappers. -/
theorem bottom (h : Stack node wrappers base) : Stack base [] base := by
  induction h with
  | base hnode htarget => exact .base hnode htarget
  | wrapped _ _ ih => exact ih

theorem unwrapped (h : Stack node wrappers base) :
    node.base = base ∧ node.mayBeAbsent = wrappers.any Node.isOptional ∧
      node.mayBeNull = wrappers.any Node.isNullable ∧
      node.said = Node.firstSaid (wrappers ++ [base]) := by
  induction h with
  | @base node _ htarget =>
    obtain ⟨hbase, habsent, hnull, hsaid⟩ := Node.unwrapped_of_no_target htarget
    exact ⟨hbase, habsent, hnull, hsaid.trans (Node.firstSaid_cons node []).symm⟩
  | wrapped htarget _ ih =>
    obtain ⟨hbase, habsent, hnull, hsaid⟩ := Node.unwrapped_of_target htarget
    obtain ⟨ihbase, ihabsent, ihnull, ihsaid⟩ := ih
    rw [hbase, habsent, hnull, hsaid, ihbase, ihabsent, ihnull, ihsaid, List.any_cons, List.any_cons,
      List.cons_append, Node.firstSaid_cons]
    exact ⟨rfl, rfl, rfl, rfl⟩

theorem height_base (h : Stack node wrappers base) : base.height ≤ node.height := by
  induction h with
  | base => exact Nat.le_refl _
  | wrapped htarget _ ih => exact Nat.le_trans ih (Node.height_le_of_target htarget)

end Stack

/-- One call of peeling takes one wrapper off. -/
theorem peelWithin_target (limit : Json) (budget : Nat) {p : Peeled} {inner : Node}
    (htarget : p.node.target? = some inner) (hpresent : inner.isAbsent = false) :
    ∃ q : Peeled, q.node = inner ∧ peelWithin limit (budget + 1) p = peelWithin limit budget q := by
  rw [peelWithin]
  cases hn : p.node with
  | wrapper description form below =>
    rw [hn] at htarget
    cases htarget
    simp only [hpresent, Bool.false_eq_true, if_false]
    exact ⟨_, rfl, rfl⟩
  | pipeline description output input =>
    rw [hn] at htarget
    cases htarget
    simp only [hpresent, Bool.false_eq_true, if_false]
    exact ⟨_, rfl, rfl⟩
  | _ =>
    rw [hn] at htarget
    cases htarget

/-- A budget of calls is enough for the stacks with fewer wrappers, and for no others. -/
theorem peelWithin_stack (limit : Json) (budget : Nat) {wrappers : List Node} {base : Node}
    {p : Peeled} (h : Stack p.node wrappers base) :
    (wrappers.length < budget → ∃ q, peelWithin limit budget p = .ok q) ∧
      (budget ≤ wrappers.length →
        peelWithin limit budget p = .error (.translation (.tooManyWrappers limit))) := by
  induction budget generalizing p wrappers with
  | zero => exact ⟨fun hless => absurd hless (Nat.not_lt_zero _), fun _ => rfl⟩
  | succ budget ih =>
    cases h with
    | base hnode htarget =>
      refine ⟨fun _ => ?_, fun hle => absurd hle (Nat.not_succ_le_zero _)⟩
      rw [peelWithin]
      cases hn : p.node with
      | foreign | thunk => simp [hn, Node.isNode] at hnode
      | wrapper | pipeline => simp [hn, Node.target?] at htarget
      | _ => exact ⟨_, rfl⟩
    | wrapped htarget hinner =>
      obtain ⟨q, rfl, hstep⟩ := peelWithin_target limit budget htarget hinner.present
      obtain ⟨henough, hshort⟩ := ih hinner
      rw [hstep, List.length_cons]
      exact ⟨fun hless => henough (Nat.lt_of_succ_lt_succ hless),
        fun hle => hshort (Nat.le_of_succ_le_succ hle)⟩

/-- What peeling a stack comes to. -/
theorem peel_stack {unwrapLimit : Json} {limit : Nat} (hlimit : unwrapLimit.toInt? = some (limit : Int))
    {node base : Node} {wrappers : List Node} (h : Stack node wrappers base) :
    peel unwrapLimit node = if wrappers.length ≤ limit then
      .ok ⟨base, wrappers.any Node.isOptional, wrappers.any Node.isNullable,
        Node.firstSaid (wrappers ++ [base])⟩
    else .error (.translation (.tooManyWrappers unwrapLimit)) := by
  have hbudget : peel unwrapLimit node = peelWithin unwrapLimit (limit + 1) (.start node) := by
    rw [peel, hlimit]
    rfl
  have hstart : Stack (Peeled.start node).node wrappers base := h
  obtain ⟨henough, hshort⟩ := peelWithin_stack unwrapLimit (limit + 1) hstart
  split
  · rename_i hle
    obtain ⟨p, hp⟩ := henough (Nat.lt_succ_of_le hle)
    rw [← hbudget] at hp
    obtain ⟨hnode, hoptional, hnullable⟩ := peel_ok hp
    obtain ⟨hbase, habsent, hnull, hsaid⟩ := h.unwrapped
    rw [hp, ← hsaid, ← hbase, ← habsent, ← hnull, ← hnode, ← hoptional, ← hnullable, ← peel_said hp]
  · rename_i hmore
    rw [hbudget]
    exact hshort (Nat.lt_of_not_le hmore)

/-- What unwrapping a stack has to come to: within the limit the base, with what the wrappers say, and
beyond it a refusal. -/
structure Unwraps (unwrapLimit : Json) (limit : Nat) (node : Node) (wrappers : List Node)
    (base : Node) : Prop where
  returns : (∃ p, peel unwrapLimit node = .ok p ∧ p.node = base) ↔ wrappers.length ≤ limit
  refuses : (∃ cause, peel unwrapLimit node = .error (.translation cause)) ↔
    limit < wrappers.length
  optional : ∀ p, peel unwrapLimit node = .ok p →
    (p.optional = true ↔ ∃ wrapper ∈ wrappers, wrapper.isOptional = true)
  nullable : ∀ p, peel unwrapLimit node = .ok p →
    (p.nullable = true ↔ ∃ wrapper ∈ wrappers, wrapper.isNullable = true)
  description : ∀ p, peel unwrapLimit node = .ok p →
    p.description = Node.firstSaid (wrappers ++ [base])

theorem unwraps {unwrapLimit : Json} {limit : Nat} (hlimit : unwrapLimit.toInt? = some (limit : Int))
    {node base : Node} {wrappers : List Node} (h : Stack node wrappers base) :
    Unwraps unwrapLimit limit node wrappers base := by
  have hpeel := peel_stack hlimit h
  by_cases hle : wrappers.length ≤ limit
  · rw [if_pos hle] at hpeel
    refine ⟨⟨fun _ => hle, fun _ => ⟨_, hpeel, rfl⟩⟩, ⟨?_, fun hmore => absurd hle (by omega)⟩,
      ?_, ?_, ?_⟩
    · rintro ⟨cause, hcause⟩
      rw [hpeel] at hcause
      cases hcause
    all_goals
      intro p hp
      rw [hpeel] at hp
      cases hp
    · exact List.any_eq_true
    · exact List.any_eq_true
    · rfl
  · rw [if_neg hle] at hpeel
    have hnone : ∀ p, peel unwrapLimit node ≠ .ok p := by
      intro p hp
      rw [hpeel] at hp
      cases hp
    exact ⟨⟨fun ⟨p, hp, _⟩ => absurd hp (hnone p), fun h => absurd h hle⟩,
      ⟨fun _ => Nat.lt_of_not_le hle, fun _ => ⟨_, hpeel⟩⟩, fun p hp => absurd hp (hnone p),
      fun p hp => absurd hp (hnone p), fun p hp => absurd hp (hnone p)⟩

end StructuredOutput.Schema
