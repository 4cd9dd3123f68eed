import StructuredOutput.Schema.Peel

/-! # What wrappers say

Peeling a node gives the node under its wrappers, and the two flags say whether an optional and a
nullable wrapper is among them. The functions here go down the wrappers without a budget; peeling
agrees with them whenever the budget was enough. -/
namespace StructuredOutput.Schema

namespace Wrapper

def isOptional : Wrapper → Bool
  | optional => true
  | _ => false

def isNullable : Wrapper → Bool
  | nullable => true
  | _ => false

end Wrapper

namespace Node

def base : Node → Node
  | wrapper _ _ inner => inner.base
  | pipeline _ inner source => if inner.isAbsent then source.base else inner.base
  | node => node

def mayBeAbsent : Node → Bool
  | wrapper _ form inner => form.isOptional || inner.mayBeAbsent
  | pipeline _ inner source => if inner.isAbsent then source.mayBeAbsent else inner.mayBeAbsent
  | _ => false

def mayBeNull : Node → Bool
  | wrapper _ form inner => form.isNullable || inner.mayBeNull
  | pipeline _ inner source => if inner.isAbsent then source.mayBeNull else inner.mayBeNull
  | _ => false

/-- The outermost description that is not empty, of a wrapper or of the node itself. -/
def said : Node → Json
  | wrapper description _ inner => if description.truthy then description else inner.said
  | pipeline description inner source =>
    if description.truthy then description
    else if inner.isAbsent then source.said else inner.said
  | node => if node.description.truthy then node.description else .null

end Node

namespace Peeled

theorem mark_optional (p : Peeled) (form : Wrapper) :
    (p.mark form).optional = (p.optional || form.isOptional) := by
  cases form <;> simp [mark, Wrapper.isOptional]

theorem mark_nullable (p : Peeled) (form : Wrapper) :
    (p.mark form).nullable = (p.nullable || form.isNullable) := by
  cases form <;> simp [mark, Wrapper.isNullable]

@[simp] theorem note_node (p : Peeled) (description : Json) :
    (p.note description).node = p.node := by
  unfold note; split <;> rfl

@[simp] theorem note_optional (p : Peeled) (description : Json) :
    (p.note description).optional = p.optional := by
  unfold note; split <;> rfl

@[simp] theorem note_nullable (p : Peeled) (description : Json) :
    (p.note description).nullable = p.nullable := by
  unfold note; split <;> rfl

theorem note_description (p : Peeled) (description : Json) : (p.note description).description =
    if p.description.isNull && description.truthy then description else p.description := by
  unfold note; split <;> rfl

theorem mark_description (p : Peeled) (form : Wrapper) :
    (p.mark form).description = p.description := by
  cases form <;> rfl

/-- What peeling from `start` has found out: the node under the wrappers and both flags. -/
def Agrees (start p : Peeled) : Prop :=
  p.node = start.node.base ∧ p.optional = (start.optional || start.node.mayBeAbsent) ∧
    p.nullable = (start.nullable || start.node.mayBeNull)

end Peeled

theorem peelWithin_agrees {limit : Json} {budget : Nat} {start p : Peeled}
    (h : peelWithin limit budget start = .ok p) : start.Agrees p := by
  induction budget generalizing start with
  | zero => cases h
  | succ budget ih =>
    unfold peelWithin at h
    cases hn : start.node with
    | foreign value => simp [hn] at h
    | thunk ref => simp [hn] at h
    | wrapper d form inner =>
      simp only [hn] at h
      split at h
      · cases h
      · obtain ⟨hb, ho, hu⟩ := ih h
        simp only [Peeled.mark_optional, Peeled.mark_nullable, Peeled.note_optional,
          Peeled.note_nullable, Bool.or_assoc] at hb ho hu
        exact ⟨by rw [hn]; exact hb, by rw [hn]; exact ho, by rw [hn]; exact hu⟩
    | pipeline d inner source =>
      unfold Peeled.Agrees
      rw [hn]
      simp only [hn] at h
      -- the output if there is one, the input otherwise
      cases ha : inner.isAbsent with
      | true =>
        simp only [ha, if_true] at h
        split at h
        · cases h
        · simpa [Peeled.Agrees, Node.base, Node.mayBeAbsent, Node.mayBeNull, ha] using ih h
      | false =>
        simp only [ha, Bool.false_eq_true, if_false] at h
        simpa [Peeled.Agrees, Node.base, Node.mayBeAbsent, Node.mayBeNull, ha] using ih h
    | _ =>
      simp only [hn] at h
      cases h
      simp [Peeled.Agrees, hn, Node.base, Node.mayBeAbsent, Node.mayBeNull]

/-- A node that can be peeled is its base under flags read off its wrappers. -/
theorem peel_ok {limit : Json} {node : Node} {p : Peeled} (h : peel limit node = .ok p) :
    p.node = node.base ∧ p.optional = node.mayBeAbsent ∧ p.nullable = node.mayBeNull := by
  unfold peel at h
  split at h
  · simpa [Peeled.Agrees, Peeled.start] using peelWithin_agrees h
  · cases h

/-- A description is looked for as long as there is none. -/
theorem peelWithin_said {limit : Json} {budget : Nat} {start p : Peeled}
    (h : peelWithin limit budget start = .ok p) :
    p.description = if start.description.isNull then start.node.said else start.description := by
  have hnull {d : Json} (hd : d.truthy = true) : d.isNull = false := by
    cases d with
    | null => cases hd
    | bool | int | float | str | arr | obj => rfl
  have hself (d : Json) : (if d.isNull then .null else d) = d := by cases d <;> rfl
  -- the description of one wrapper, and then those inside
  have hnoted (start : Peeled) (d : Json) (inner : Json) :
      (if (start.note d).description.isNull then inner else (start.note d).description) =
        if start.description.isNull then (if d.truthy then d else inner)
        else start.description := by
    rw [Peeled.note_description]
    cases hs : start.description.isNull with
    | false => simp [hs]
    | true =>
      cases hd : d.truthy with
      | false => simp [hs]
      | true => simp [hnull hd]
  induction budget generalizing start with
  | zero => cases h
  | succ budget ih =>
    unfold peelWithin at h
    cases hn : start.node with
    | foreign value => simp [hn] at h
    | thunk ref => simp [hn] at h
    | wrapper d form inner =>
      simp only [hn] at h
      split at h
      · cases h
      · rw [ih h, Node.said]
        simp only [Peeled.mark_description]
        exact hnoted start d inner.said
    | pipeline d inner source =>
      simp only [hn] at h
      rw [Node.said]
      cases ha : inner.isAbsent with
      | true =>
        simp only [ha, if_true] at h
        split at h
        · cases h
        · rw [ih h]
          exact hnoted start d source.said
      | false =>
        simp only [ha, Bool.false_eq_true, if_false] at h
        rw [ih h]
        exact hnoted start d inner.said
    | _ =>
      simp only [hn] at h
      cases h
      exact (hself _).symm.trans (hnoted start _ .null)

theorem peel_said {limit : Json} {node : Node} {p : Peeled} (h : peel limit node = .ok p) :
    p.description = node.said := by
  unfold peel at h
  split at h
  · simpa [Peeled.start, Json.isNull] using peelWithin_said h
  · cases h

end StructuredOutput.Schema
