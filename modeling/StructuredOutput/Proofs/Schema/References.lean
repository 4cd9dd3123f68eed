import Mathlib.Data.List.Chain
import Mathlib.Data.Set.Card
import Mathlib.Logic.Relation
import StructuredOutput.Proofs.Schema.Parsed
import StructuredOutput.Proofs.Schema.Wrappers

/-! # References between definitions

A definition refers to those whose references occur in its parsed tree. A cycle of references can be
cut where it passes through a definition of an object, because a class has a name before its fields
are known; `Guarded` says that every cycle can be cut. -/
namespace StructuredOutput.Schema

namespace Node

mutual

def refs : Node → List Ref
  | .lazy _ _ ref => [ref]
  | .bare _ inner => inner.refs
  | .object _ members => membersRefs members
  | .array _ candidates _ _ => listRefs candidates
  | .record _ key value => key.refs ++ value.refs
  | .union _ options => listRefs options
  | .wrapper _ _ inner => inner.refs
  | .pipeline _ inner source => inner.refs ++ source.refs
  | _ => []

def listRefs : List Node → List Ref
  | [] => []
  | node :: rest => node.refs ++ listRefs rest

def membersRefs : List (String × Node) → List Ref
  | [] => []
  | (_, node) :: rest => node.refs ++ membersRefs rest

end

end Node

theorem Parsed.not_absent {node : Node} (h : Parsed node) : node.isAbsent = false := by
  cases h <;> rfl

theorem Parsed.element {g : Graph} {node : Node} (h : Parsed node) : g.element [node] = .ok node := by
  cases h <;> rfl

theorem Parsed.base {node : Node} (h : Parsed node) : Parsed node.base := by
  induction h with
  | wrapper _ ih => exact ih
  | lazy => exact .lazy
  | primitive => exact .primitive
  | literal => exact .literal
  | enumeration => exact .enumeration
  | array h _ => exact .array h
  | anyArray => exact .anyArray
  | object h _ => exact .object h
  | record hk hv _ _ => exact .record hk hv
  | anyRecord h _ => exact .anyRecord h
  | union h _ => exact .union h

theorem Parsed.refs_base {node : Node} (h : Parsed node) : node.base.refs = node.refs := by
  induction h with
  | wrapper _ ih => exact ih
  | lazy | primitive | literal | enumeration | array | anyArray | object | record | anyRecord
  | union => rfl

/-- What a parsed object has under its wrappers. -/
theorem Parsed.members {limit description : Json} {node : Node} {target : Peeled}
    {members : List (String × Node)} (h : Parsed node) (hp : peel limit node = .ok target)
    (ho : target.node = .object description members) :
    node.refs = Node.membersRefs members ∧ ∀ member ∈ members, Parsed member.2 := by
  have hbase : node.base = .object description members := by
    rw [← (peel_ok hp).1, ho]
  have hparsed := h.base
  rw [hbase] at hparsed
  cases hparsed with
  | object hm =>
    refine ⟨?_, hm⟩
    rw [← h.refs_base, hbase, Node.refs]

/-! ## Cycles -/

variable (g : Graph) (limit : Json)

def Refers (a b : Ref) : Prop := ∃ node, g.resolve a = .ok node ∧ b ∈ node.refs

/-- Whether references lead from a node to one. -/
def Reachable (root : Node) (ref : Ref) : Prop :=
  ∃ a ∈ root.refs, Relation.ReflTransGen (Refers g) a ref

/-- Whether the definition behind a reference is an object under its wrappers. -/
def ObjectLike (ref : Ref) : Prop :=
  ∃ node target description members, g.resolve ref = .ok node ∧ peel limit node = .ok target ∧
    target.node = .object description members

/-- Whether every cycle of references that can be reached contains a definition of an object. -/
def Guarded (root : Node) : Prop :=
  ∀ ref refs, Reachable g root ref → List.IsChain (Refers g) (ref :: refs ++ [ref]) →
    ∃ r ∈ ref :: refs, ObjectLike g limit r

def objectRefs (root : Node) : Set Ref := {ref | Reachable g root ref ∧ ObjectLike g limit ref}

def otherRefs (root : Node) : Set Ref := {ref | Reachable g root ref ∧ ¬ ObjectLike g limit ref}

variable {g limit} {root : Node}

theorem Reachable.step {a b : Ref} (h : Reachable g root a) (hab : Refers g a b) :
    Reachable g root b := by
  obtain ⟨first, hm, hr⟩ := h
  exact ⟨first, hm, hr.tail hab⟩

/-- All that can be reached occurs in the root or in an entry of the table. -/
theorem finite_reachable (g : Graph) (root : Node) : {ref | Reachable g root ref}.Finite := by
  let entryRefs : Ref × Except Fault Node → List Ref := fun entry =>
    entry.2.toOption.elim [] Node.refs
  refine (List.finite_toSet (root.refs ++ g.entries.flatMap entryRefs)).subset ?_
  rintro ref ⟨first, hm, hr⟩
  cases hr with
  | refl => exact List.mem_append_left _ hm
  | tail _ hab =>
    obtain ⟨node, hn, hb⟩ := hab
    exact List.mem_append_right _
      (List.mem_flatMap.mpr ⟨_, Graph.mem_of_resolve hn, hb⟩)

theorem finite_objectRefs (g : Graph) (limit : Json) (root : Node) :
    (objectRefs g limit root).Finite :=
  (finite_reachable g root).subset fun _ h => h.1

theorem finite_otherRefs (g : Graph) (limit : Json) (root : Node) :
    (otherRefs g limit root).Finite :=
  (finite_reachable g root).subset fun _ h => h.1

/-- One reference followed from a definition that is no object. -/
def Through (g : Graph) (limit : Json) (a b : Ref) : Prop := Refers g a b ∧ ¬ ObjectLike g limit a

theorem exists_chain_of_through {a b : Ref} (h : Relation.TransGen (Through g limit) a b) :
    ∃ refs, List.IsChain (Refers g) (a :: refs ++ [b]) ∧ ∀ r ∈ a :: refs, ¬ ObjectLike g limit r := by
  induction h using Relation.TransGen.head_induction_on with
  | single h => exact ⟨[], by simpa using h.1, by simpa using h.2⟩
  | head h _ ih =>
    obtain ⟨refs, hc, hall⟩ := ih
    refine ⟨_ :: refs, List.IsChain.cons_cons h.1 hc, ?_⟩
    exact List.forall_mem_cons.mpr ⟨h.2, hall⟩

/-- In a guarded schema nothing leads back to itself without passing through an object. -/
theorem Guarded.not_through (h : Guarded g limit root) {ref : Ref} (hr : Reachable g root ref) :
    ¬ Relation.TransGen (Through g limit) ref ref := by
  intro ht
  obtain ⟨refs, hc, hall⟩ := exists_chain_of_through ht
  obtain ⟨r, hm, ho⟩ := h ref refs hr hc
  exact hall r hm ho

/-- References that can be translated one after the other: those of objects, and those whose
definitions refer to such references only. -/
inductive Settles (g : Graph) (limit : Json) : Ref → Prop
  | object {ref : Ref} : ObjectLike g limit ref → Settles g limit ref
  | other {ref : Ref} : (∀ b, Refers g ref b → Settles g limit b) → Settles g limit ref

/-- A cycle through a reference that settles contains an object. -/
theorem Settles.of_cycle {ref : Ref} (h : Settles g limit ref) :
    ∀ refs, List.IsChain (Refers g) (ref :: refs ++ [ref]) →
      ∃ r ∈ ref :: refs, ObjectLike g limit r := by
  induction h with
  | object ho => exact fun _ _ => ⟨_, List.mem_cons_self, ho⟩
  | @other ref _ ih =>
    intro refs hc
    cases refs with
    | nil =>
      have hself : Refers g ref ref := by simpa using hc
      exact ih ref hself [] hc
    | cons next rest =>
      -- the same cycle, entered one reference later
      obtain ⟨hnext, hrest⟩ := List.isChain_cons_cons.mp hc
      have hlast : (next :: (rest ++ [ref])).getLast? = some ref := by
        rw [← List.cons_append, List.getLast?_concat]
      have hturned : List.IsChain (Refers g) (next :: (rest ++ [ref]) ++ [next]) := by
        refine List.IsChain.append hrest (List.isChain_singleton next) fun x hx y hy => ?_
        rw [hlast] at hx
        cases hx
        cases hy
        exact hnext
      obtain ⟨r, hm, ho⟩ := ih next hnext (rest ++ [ref]) hturned
      refine ⟨r, ?_, ho⟩
      simp only [List.mem_cons, List.mem_append, List.not_mem_nil, or_false] at hm ⊢
      tauto

end StructuredOutput.Schema
