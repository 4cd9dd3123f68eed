import Mathlib.Data.List.Forall2
import Mathlib.Tactic.Choose
import StructuredOutput.Proofs.Meaning.Types
import StructuredOutput.Proofs.Translation.ClosedOutput

/-! # Nodes and the types made from them

`Image` relates a node to the alternatives of its type without looking into declarations: a declared
name is related to the node that a roster holds for it. The declarations are tied to the roster
separately, so a class that still misses fields does not stand in the way. When no class is pending
any more, a node and its image admit the same values. -/
namespace StructuredOutput.Baml

open Schema (Graph Node Ref Wrapper)
open Translation (literalType primitiveType)

abbrev Roster := List (String × Node)

/-- The alternatives that a node is translated to, given what the names in a roster stand for. The
wrappers around a node add null once, however many of them allow it. -/
inductive Image (g : Graph) (σ : Roster) : Node → List Alternative → Prop
  | primitive {description name : Json} {type : String} :
      primitiveType name = .ok type → Image g σ (.primitive description name) [.word type]
  | literal {description value : Json} :
      Image g σ (.literal description value) [.word (literalType value)]
  | strings {description low high : Json} {candidates : List Node} {element : Node} :
      g.element candidates = .ok element → element.isAbsent = true →
      Image g σ (.array description candidates low high) [.list [.word "string"]]
  | array {description low high : Json} {candidates : List Node} {element : Node}
      {us : List Alternative} :
      g.element candidates = .ok element → element.isAbsent = false → Image g σ element us →
      Image g σ (.array description candidates low high) [.list us]
  | anyString {node : Node} {values : Json} :
      node.enumValues? = some values → values.truthy = false → Image g σ node [.word "string"]
  | enumeration {node : Node} {values : Json} {name : String} :
      node.enumValues? = some values → (name, node) ∈ σ → Image g σ node [.word name]
  | object {description : Json} {members : List (String × Node)} {name : String} :
      (name, .object description members) ∈ σ → Image g σ (.object description members) [.word name]
  | record {description : Json} {key value : Node} {us ws : List Alternative} :
      Image g σ key.orString us → Image g σ value ws →
      Image g σ (.record description key value) [.map us ws]
  | noOptions {description : Json} : Image g σ (.union description []) []
  | options {description : Json} {node : Node} {rest : List Node} {us ws : List Alternative} :
      Image g σ node us → Image g σ (.union description rest) ws →
      Image g σ (.union description (node :: rest)) (us ++ ws)
  | plain {description : Json} {form : Wrapper} {inner : Node} {us : List Alternative} :
      form.isNullable = false → Image g σ inner us → Image g σ (.wrapper description form inner) us
  | nullThere {description : Json} {form : Wrapper} {inner : Node} {us : List Alternative} :
      form.isNullable = true → inner.mayBeNull = true → Image g σ inner us →
      Image g σ (.wrapper description form inner) us
  | nullAdded {description : Json} {form : Wrapper} {inner : Node} {us : List Alternative} :
      form.isNullable = true → inner.mayBeNull = false → Image g σ inner us →
      Image g σ (.wrapper description form inner) (Alternative.orNull us)
  | pipeline {description : Json} {inner source : Node} {us : List Alternative} :
      Image g σ (if inner.isAbsent then source else inner) us →
      Image g σ (.pipeline description inner source) us
  | lazy {description name : Json} {ref : Ref} {node : Node} {us : List Alternative} :
      g.resolve ref = .ok node → Image g σ node us → Image g σ (.lazy description name ref) us
  | bare {description : Json} {inner : Node} {us : List Alternative} :
      Image g σ inner us → Image g σ (.bare description inner) us

variable {g : Graph} {σ σ' : Roster}

namespace Image

variable {node : Node} {us : List Alternative}

theorem mono (h : Image g σ node us) (hs : σ ⊆ σ') : Image g σ' node us := by
  induction h with
  | primitive hp => exact .primitive hp
  | literal => exact .literal
  | strings he ha => exact .strings he ha
  | array he ha _ ih => exact .array he ha ih
  | anyString hv ht => exact .anyString hv ht
  | enumeration hv hm => exact .enumeration hv (hs hm)
  | object hm => exact .object (hs hm)
  | record _ _ ihk ihv => exact .record ihk ihv
  | noOptions => exact .noOptions
  | options _ _ ih ih' => exact .options ih ih'
  | plain hn _ ih => exact .plain hn ih
  | nullThere hn hi _ ih => exact .nullThere hn hi ih
  | nullAdded hn hi _ ih => exact .nullAdded hn hi ih
  | pipeline _ ih => exact .pipeline ih
  | lazy hr _ ih => exact .lazy hr ih
  | bare _ ih => exact .bare ih

end Image

/-! ## Where an alternative comes from -/

/-- A node that gives rise to an alternative by itself. -/
inductive Leaf (g : Graph) (σ : Roster) : Node → Alternative → Prop
  | primitive {description name : Json} {type : String} :
      primitiveType name = .ok type → Leaf g σ (.primitive description name) (.word type)
  | literal {description value : Json} :
      Leaf g σ (.literal description value) (.word (literalType value))
  | strings {description low high : Json} {candidates : List Node} {element : Node} :
      g.element candidates = .ok element → element.isAbsent = true →
      Leaf g σ (.array description candidates low high) (.list [.word "string"])
  | array {description low high : Json} {candidates : List Node} {element : Node}
      {us : List Alternative} :
      g.element candidates = .ok element → element.isAbsent = false → Image g σ element us →
      Leaf g σ (.array description candidates low high) (.list us)
  | anyString {node : Node} {values : Json} :
      node.enumValues? = some values → values.truthy = false → Leaf g σ node (.word "string")
  | enumeration {node : Node} {values : Json} {name : String} :
      node.enumValues? = some values → (name, node) ∈ σ → Leaf g σ node (.word name)
  | object {description : Json} {members : List (String × Node)} {name : String} :
      (name, .object description members) ∈ σ → Leaf g σ (.object description members) (.word name)
  | record {description : Json} {key value : Node} {us ws : List Alternative} :
      Image g σ key.orString us → Image g σ value ws →
      Leaf g σ (.record description key value) (.map us ws)
  | null {description : Json} {form : Wrapper} {inner : Node} :
      form.isNullable = true → Leaf g σ (.wrapper description form inner) (.word "null")

/-- Every alternative of an image comes from a leaf, and the node admits what the leaf admits. -/
theorem Image.leaf {node : Node} {us : List Alternative} (h : Image g σ node us) :
    ∀ alt ∈ us, ∃ leaf, Leaf g σ leaf alt ∧ ∀ value, leaf.Admits g value → node.Admits g value := by
  induction h with
  | primitive hp =>
    intro alt hm
    exact ⟨_, List.mem_singleton.mp hm ▸ .primitive hp, fun _ hv => hv⟩
  | literal =>
    intro alt hm
    exact ⟨_, List.mem_singleton.mp hm ▸ .literal, fun _ hv => hv⟩
  | strings he ha =>
    intro alt hm
    exact ⟨_, List.mem_singleton.mp hm ▸ .strings he ha, fun _ hv => hv⟩
  | array he ha hi _ =>
    intro alt hm
    exact ⟨_, List.mem_singleton.mp hm ▸ .array he ha hi, fun _ hv => hv⟩
  | anyString hv ht =>
    intro alt hm
    exact ⟨_, List.mem_singleton.mp hm ▸ .anyString hv ht, fun _ hv => hv⟩
  | enumeration hv hr =>
    intro alt hm
    exact ⟨_, List.mem_singleton.mp hm ▸ .enumeration hv hr, fun _ hv => hv⟩
  | object hr =>
    intro alt hm
    exact ⟨_, List.mem_singleton.mp hm ▸ .object hr, fun _ hv => hv⟩
  | record hk hv _ _ =>
    intro alt hm
    exact ⟨_, List.mem_singleton.mp hm ▸ .record hk hv, fun _ hv => hv⟩
  | noOptions => intro alt hm; cases hm
  | options _ _ ih ih' =>
    intro alt hm
    rcases List.mem_append.mp hm with hm | hm
    · obtain ⟨leaf, hl, hv⟩ := ih alt hm
      exact ⟨leaf, hl, fun value h => .union List.mem_cons_self (hv value h)⟩
    · obtain ⟨leaf, hl, hv⟩ := ih' alt hm
      refine ⟨leaf, hl, fun value h => ?_⟩
      cases hv value h with
      | union hm h => exact .union (List.mem_cons_of_mem _ hm) h
      | oneOf hv | anyString hv => cases hv
  | plain _ _ ih | nullThere _ _ _ ih =>
    intro alt hm
    obtain ⟨leaf, hl, hv⟩ := ih alt hm
    exact ⟨leaf, hl, fun value h => .wrapper (hv value h)⟩
  | nullAdded hn _ _ ih =>
    intro alt hm
    rcases Alternative.mem_orNull.mp hm with hm | rfl
    · obtain ⟨leaf, hl, hv⟩ := ih alt hm
      exact ⟨leaf, hl, fun value h => .wrapper (hv value h)⟩
    · exact ⟨_, .null hn, fun _ hv => hv⟩
  | pipeline _ ih =>
    intro alt hm
    obtain ⟨leaf, hl, hv⟩ := ih alt hm
    exact ⟨leaf, hl, fun value h => .pipeline (hv value h)⟩
  | lazy hr _ ih =>
    intro alt hm
    obtain ⟨leaf, hl, hv⟩ := ih alt hm
    exact ⟨leaf, hl, fun value h => .lazy hr (hv value h)⟩
  | bare _ ih =>
    intro alt hm
    obtain ⟨leaf, hl, hv⟩ := ih alt hm
    exact ⟨leaf, hl, fun value h => .bare (hv value h)⟩

end StructuredOutput.Baml
