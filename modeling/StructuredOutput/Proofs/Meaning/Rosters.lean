import StructuredOutput.Proofs.Meaning.Images

/-! # Declarations that stand for nodes

`Rostered` ties declarations to a roster: every name in it is declared for its node, a class with as
many fields as have been translated, and every recorded expression spells an image of what its
reference stands for. Once all classes are completed, declarations and nodes admit the same values;
each direction is an induction on how a value is admitted. -/
namespace StructuredOutput.Baml

open Schema (Graph Node Ref)
open Translation (literalType primitiveType)

namespace Declarations.Tidy

variable {d : Declarations} {name : String}

theorem class_unique (h : d.Tidy) {c c' : Class} (hc : (name, c) ∈ d.classes)
    (hc' : (name, c') ∈ d.classes) : c = c' := by
  have hn : d.classNames.Nodup := h.names.sublist (classNames_sublist d)
  have he := (Json.find?_of_mem hn hc).symm.trans (Json.find?_of_mem hn hc')
  exact Option.some.inj he

/-- No name stands in two of the three tables. -/
theorem apart (h : d.Tidy) (name : String) :
    (∀ c vs, (name, c) ∈ d.classes → (name, vs) ∉ d.enums) ∧
      (∀ c e, (name, c) ∈ d.classes → (name, e) ∉ d.aliases) ∧
        ∀ vs e, (name, vs) ∈ d.enums → (name, e) ∉ d.aliases := by
  have hn := h.names
  unfold Declarations.names at hn
  obtain ⟨hce, -, hne⟩ := List.nodup_append.mp hn
  obtain ⟨-, -, hne'⟩ := List.nodup_append.mp hce
  refine ⟨fun c vs hc hv => ?_, fun c e hc he => ?_, fun vs e hv he => ?_⟩
  · exact hne' _ (List.mem_map_of_mem hc) _ (List.mem_map_of_mem hv) rfl
  · exact hne _ (List.mem_append_left _ (List.mem_map_of_mem hc)) _ (List.mem_map_of_mem he) rfl
  · exact hne _ (List.mem_append_right _ (List.mem_map_of_mem hv)) _ (List.mem_map_of_mem he) rfl

theorem not_builtin (h : d.Tidy) (hn : name ∈ d.names) : name ∉ builtins := by
  intro hb
  have hlow : ∀ word ∈ builtins, Text.isTypeName word.toList = false := by decide
  have ht := h.typeNames name hn
  rw [hlow name hb] at ht
  cases ht

end Declarations.Tidy

theorem Declarations.mem_names {d : Declarations} {name : String} :
    name ∈ d.names ↔ (∃ c, (name, c) ∈ d.classes) ∨ (∃ vs, (name, vs) ∈ d.enums) ∨
      ∃ e, (name, e) ∈ d.aliases := by
  simp [names]

theorem builtin_of_ofPrimitive {type : String} {value : Json} (h : OfPrimitive type value) :
    type ∈ builtins := by
  cases value <;> simp only [OfPrimitive] at h
  case int => rcases h with rfl | rfl <;> decide
  all_goals subst h; decide

/-! ## The invariant -/

/-- A field that stands for a member of an object node. -/
structure Slot (g : Graph) (σ : Roster) (field : Field) (member : String × Node) : Prop where
  source : field.source = member.1
  optional : field.optional = member.2.mayBeAbsent
  type : ∃ us, Spells field.type us ∧ Image g σ member.2 us

/-- What is declared under a name for a node. A class that is not completed has the fields of the
first members only. -/
inductive Stands (g : Graph) (d : Declarations) (σ : Roster) (name : String) : Node → Prop
  | object {description : Json} {c : Class} {done rest : List (String × Node)} :
      (name, c) ∈ d.classes → List.Forall₂ (Slot g σ) c.fields done →
      (name ∈ d.order → rest = []) → Stands g d σ name (.object description (done ++ rest))
  | oneOf {node : Node} {values : Json} {items : List Json} :
      node.enumValues? = some values → values.truthy = true → values.elements? = some items →
      (name, items) ∈ d.enums → Stands g d σ name node
  | behind {node : Node} {values : Json} {items : List Json} :
      node.enumValues? = some values → values.truthy = true → values.elements? = some items →
      items ≠ [] → (name, Json.join " | " (items.map Json.quote)) ∈ d.aliases →
      Stands g d σ name node

/-- Declarations in good order whose names and recorded expressions stand for nodes, each name for one
node with a certain property. -/
structure Rostered (P : Node → Prop) (g : Graph) (d : Declarations) (σ : Roster) : Prop where
  tidy : d.Tidy
  covers : ∀ name ∈ d.names, ∃ node, (name, node) ∈ σ
  holds : ∀ entry ∈ σ, P entry.2
  single : ∀ name a b, (name, a) ∈ σ → (name, b) ∈ σ → a = b
  stands : ∀ entry ∈ σ, Stands g d σ entry.1 entry.2
  lazies : ∀ ref expr, d.lazy? ref = some expr →
    ∃ resolved us, g.resolve ref = .ok resolved ∧ Spells expr us ∧ Image g σ resolved us

variable {P : Node → Prop} {g : Graph} {d : Declarations} {σ σ' : Roster}

theorem Slot.mono {field : Field} {member : String × Node} (h : Slot g σ field member)
    (hs : σ ⊆ σ') : Slot g σ' field member := by
  obtain ⟨us, hr, hi⟩ := h.type
  exact ⟨h.source, h.optional, us, hr, hi.mono hs⟩

theorem forall₂_left {α β : Type} {R : α → β → Prop} {as : List α} {bs : List β}
    (h : List.Forall₂ R as bs) : ∀ a ∈ as, ∃ b ∈ bs, R a b := by
  induction h with
  | nil => intro a ha; cases ha
  | cons hab _ ih =>
    intro a ha
    rcases List.mem_cons.mp ha with rfl | ha
    · exact ⟨_, List.mem_cons_self, hab⟩
    · obtain ⟨b, hb, hr⟩ := ih a ha
      exact ⟨b, List.mem_cons_of_mem _ hb, hr⟩

namespace Rostered

variable {name : String}

theorem mem_names (h : Rostered P g d σ) {node : Node} (hm : (name, node) ∈ σ) : name ∈ d.names := by
  rw [Declarations.mem_names]
  cases h.stands _ hm with
  | object hc => exact .inl ⟨_, hc⟩
  | oneOf _ _ _ hv => exact .inr (.inl ⟨_, hv⟩)
  | behind _ _ _ _ he => exact .inr (.inr ⟨_, he⟩)

theorem not_builtin (h : Rostered P g d σ) {node : Node} (hm : (name, node) ∈ σ) :
    name ∉ builtins :=
  h.tidy.not_builtin (h.mem_names hm)

end Rostered

/-! ## What a type admits is admitted by its node -/

theorem primitive_admits {description name : Json} {type : String} {value : Json}
    (h : primitiveType name = .ok type) :
    (Node.primitive description name).Admits g value ↔ OfPrimitive type value := by
  unfold primitiveType at h
  split at h
  · split at h
    · rename_i hf
      cases h
      obtain ⟨text, ht, hf⟩ := Option.bind_eq_some_iff.mp hf
      have hn : name = .str text := by
        cases name <;> simp [Json.toStr?] at ht
        rw [ht]
      subst hn
      rw [← ofType_iff_ofPrimitive hf]
      constructor
      · intro h
        cases h with
        | primitive h => exact h
        | oneOf hv | anyString hv => cases hv
      · exact .primitive
    · cases h
  · cases h

theorem literal_admits {description literal value : Json} :
    (Node.literal description literal).Admits g value ↔
      OfPrimitive (literalType literal) value := by
  constructor
  · intro h
    cases h with
    | literal h => exact h
    | oneOf hv | anyString hv => cases hv
  · exact .literal

/-- A value of a primitive type is admitted wherever the word of the type comes from. -/
theorem Leaf.primitive_admits (h : Rostered P g d σ) {leaf : Node} {type : String} {value : Json}
    (hl : Leaf g σ leaf (.word type)) (hv : OfPrimitive type value) : leaf.Admits g value := by
  cases hl with
  | primitive hp => exact (Baml.primitive_admits hp).mpr hv
  | literal => exact literal_admits.mpr hv
  | anyString he ht =>
    cases value <;> simp only [OfPrimitive] at hv
    case str text => exact .anyString he ht
    all_goals simp at hv
  | null hn =>
    cases value <;> simp only [OfPrimitive] at hv
    case null => exact .null hn
    all_goals simp at hv
  | enumeration _ hm | object hm => exact absurd (builtin_of_ofPrimitive hv) (h.not_builtin hm)

/-- A declared name comes from the node that it was declared for. -/
theorem Leaf.declared (h : Rostered P g d σ) {leaf : Node} {name : String}
    (hl : Leaf g σ leaf (.word name)) (hn : name ∈ d.names) : (name, leaf) ∈ σ := by
  have hb := h.tidy.not_builtin hn
  cases hl with
  | primitive hp => exact absurd (Translation.primitiveType_builtin hp) hb
  | literal => exact absurd (Translation.literalType_builtin _) hb
  | anyString => exact absurd (by decide) hb
  | null => exact absurd (by decide) hb
  | enumeration _ hm | object hm => exact hm

end StructuredOutput.Baml
