import StructuredOutput.Proofs.Json.Members
import StructuredOutput.Proofs.Schema.References

/-! # The texts of references

A document names its definitions by the texts under `$ref`. `refTexts` collects them wherever they
stand in a value, also where a reader never looks, so a part of a value has no texts that the value
has not. `deferred` collects the nodes that a parsed tree has in their places. -/
namespace StructuredOutput

namespace Json

mutual

/-- The texts under `$ref` anywhere in a value. -/
def refTexts : Json → List String
  | .arr items => itemsRefTexts items
  | .obj members => membersRefTexts members
  | _ => []

def itemsRefTexts : List Json → List String
  | [] => []
  | item :: rest => item.refTexts ++ itemsRefTexts rest

/-- The texts under `$ref` anywhere in members, those of the members themselves included. -/
def membersRefTexts : List (String × Json) → List String
  | [] => []
  | (key, value) :: rest =>
    (if key = "$ref" then value.toStr?.toList else []) ++ value.refTexts ++ membersRefTexts rest

end

theorem refTexts_of_member {key : String} {value : Json} {members : List (String × Json)}
    (h : (key, value) ∈ members) : value.refTexts ⊆ membersRefTexts members := by
  induction members with
  | nil => cases h
  | cons first rest ih =>
    obtain ⟨k, v⟩ := first
    rw [membersRefTexts]
    rcases List.mem_cons.mp h with he | h
    · cases he
      exact fun _ hm => List.mem_append_left _ (List.mem_append_right _ hm)
    · exact List.Subset.trans (ih h) (List.subset_append_right _ _)

theorem refText_of_member {text : String} {members : List (String × Json)}
    (h : ("$ref", .str text) ∈ members) : text ∈ membersRefTexts members := by
  induction members with
  | nil => cases h
  | cons first rest ih =>
    obtain ⟨k, v⟩ := first
    rw [membersRefTexts]
    rcases List.mem_cons.mp h with he | h
    · cases he
      exact List.mem_append_left _ (List.mem_append_left _ (by simp [toStr?]))
    · exact List.mem_append_right _ (ih h)

end Json

namespace Schema.Node

mutual

/-- The deferred nodes that occur in a node. -/
def deferred : Node → List Node
  | .lazy description name ref => [.lazy description name ref]
  | .bare _ inner => inner.deferred
  | .object _ members => membersDeferred members
  | .array _ candidates _ _ => listDeferred candidates
  | .record _ key value => key.deferred ++ value.deferred
  | .union _ options => listDeferred options
  | .wrapper _ _ inner => inner.deferred
  | .pipeline _ inner source => inner.deferred ++ source.deferred
  | _ => []

def listDeferred : List Node → List Node
  | [] => []
  | node :: rest => node.deferred ++ listDeferred rest

def membersDeferred : List (String × Node) → List Node
  | [] => []
  | (_, node) :: rest => node.deferred ++ membersDeferred rest

end

theorem mem_listDeferred {node : Node} {nodes : List Node} :
    node ∈ listDeferred nodes ↔ ∃ part ∈ nodes, node ∈ part.deferred := by
  induction nodes with
  | nil => simp [listDeferred]
  | cons first rest ih => simp [listDeferred, ih]

theorem mem_membersDeferred {node : Node} {members : List (String × Node)} :
    node ∈ membersDeferred members ↔ ∃ member ∈ members, node ∈ member.2.deferred := by
  induction members with
  | nil => simp [membersDeferred]
  | cons first rest ih =>
    obtain ⟨key, part⟩ := first
    simp [membersDeferred, ih]

theorem deferred_describe {node : Node} (h : node.isLazy = false) (description : Json) :
    (node.describe description).deferred = node.deferred := by
  cases node with
  | lazy => cases h
  | _ => rfl

def ref? : Node → Option Ref
  | .lazy _ _ ref => some ref
  | _ => none

mutual

/-- The references of a node are those of its deferred nodes. -/
theorem refs_eq : (node : Node) → node.refs = node.deferred.filterMap ref?
  | .lazy .. => rfl
  | .bare _ inner => refs_eq inner
  | .object _ members => membersRefs_eq members
  | .array _ candidates _ _ => listRefs_eq candidates
  | .record _ key value => by rw [refs, deferred, List.filterMap_append, refs_eq key, refs_eq value]
  | .union _ options => listRefs_eq options
  | .wrapper _ _ inner => refs_eq inner
  | .pipeline _ inner source => by
    rw [refs, deferred, List.filterMap_append, refs_eq inner, refs_eq source]
  | .foreign _ | .thunk _ | .primitive .. | .literal .. | .enumeration .. | .memberEnum .. => rfl

theorem listRefs_eq : (nodes : List Node) → listRefs nodes = (listDeferred nodes).filterMap ref?
  | [] => rfl
  | node :: rest => by
    rw [listRefs, listDeferred, List.filterMap_append, refs_eq node, listRefs_eq rest]

theorem membersRefs_eq : (members : List (String × Node)) →
    membersRefs members = (membersDeferred members).filterMap ref?
  | [] => rfl
  | (_, node) :: rest => by
    rw [membersRefs, membersDeferred, List.filterMap_append, refs_eq node, membersRefs_eq rest]

end

end Schema.Node

end StructuredOutput
