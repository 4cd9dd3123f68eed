import StructuredOutput.Proofs.Translation.DeclaredNames
import StructuredOutput.Proofs.Translation.Outcome

/-! # Declarations only grow

However a translation ends, what was declared before stays as it was and stands in front of what is
new: classes with their fields, enums, aliases and the order of completed classes. The counter does
not fall, a recorded deferred node stays recorded, and the depth comes back to where it was. -/
namespace StructuredOutput.Baml

open Schema (Graph Node Ref)

namespace Declarations

def classNames (d : Declarations) : List String := d.classes.map (·.1)

/-- What `d'` keeps of the declarations `d` that came before it. -/
structure Grows (d d' : Declarations) : Prop where
  classes : d.classes <+: d'.classes
  enums : d.enums <+: d'.enums
  aliases : d.aliases <+: d'.aliases
  order : d.order <+: d'.order
  counter : d.counter ≤ d'.counter
  lazies : ∀ ref, (d.lazy? ref).isSome → (d'.lazy? ref).isSome
  depth : d'.depth = d.depth

namespace Grows

theorem refl (d : Declarations) : Grows d d :=
  ⟨List.prefix_rfl, List.prefix_rfl, List.prefix_rfl, List.prefix_rfl, Int.le_refl _,
    fun _ h => h, rfl⟩

theorem trans {d d₁ d' : Declarations} (h : Grows d d₁) (h' : Grows d₁ d') : Grows d d' :=
  ⟨h.classes.trans h'.classes, h.enums.trans h'.enums, h.aliases.trans h'.aliases,
    h.order.trans h'.order, Int.le_trans h.counter h'.counter,
    fun ref hr => h'.lazies ref (h.lazies ref hr), h'.depth.trans h.depth⟩

end Grows

theorem Gains.grows {d d' : Declarations} {hint : String} (h : Gains d hint d') : Grows d d' := by
  obtain ⟨classes, enums, aliases, hc, he, ha, -, -⟩ := h.tables
  exact ⟨⟨classes, hc.symm⟩, ⟨enums, he.symm⟩, ⟨aliases, ha.symm⟩, h.order ▸ List.prefix_rfl,
    h.counter ▸ uniqueName_counter d hint, fun _ hr => by rwa [lazy?, h.lazies], h.depth⟩

theorem grows_completeClass (d : Declarations) (name : String) : Grows d (d.completeClass name) :=
  ⟨List.prefix_rfl, List.prefix_rfl, List.prefix_rfl, List.prefix_append _ _, Int.le_refl _,
    fun _ h => h, rfl⟩

theorem find?_replaced (entries : List (Ref × String)) (ref ref' : Ref) (expr : String) :
    (entries.filter (fun entry => entry.1 ≠ ref) ++ [(ref, expr)]).find?
        (fun entry => entry.1 = ref') =
      if ref = ref' then some (ref, expr) else entries.find? fun entry => entry.1 = ref' := by
  induction entries with
  | nil => by_cases h : ref = ref' <;> simp [h]
  | cons entry rest ih =>
    obtain ⟨r, e⟩ := entry
    by_cases hr : r = ref
    · subst hr
      simp only [ne_eq, not_true, decide_false, Bool.false_eq_true, not_false_eq_true,
        List.filter_cons_of_neg, List.find?_cons]
      rw [ih]
      by_cases h : r = ref' <;> simp [h]
    · rw [List.filter_cons_of_pos (by simpa using hr), List.cons_append, List.find?_cons,
        List.find?_cons, ih]
      by_cases h : r = ref'
      · subst h; simp [Ne.symm hr]
      · simp [h]

theorem lazy?_recordLazy (d : Declarations) (ref ref' : Ref) (expr : String) :
    (d.recordLazy ref expr).lazy? ref' = if ref = ref' then some expr else d.lazy? ref' := by
  unfold lazy? recordLazy
  rw [find?_replaced]
  split <;> rfl

theorem grows_recordLazy (d : Declarations) (ref : Ref) (expr : String) :
    Grows d (d.recordLazy ref expr) := by
  refine ⟨List.prefix_rfl, List.prefix_rfl, List.prefix_rfl, List.prefix_rfl, Int.le_refl _, ?_,
    rfl⟩
  intro ref' h
  rw [lazy?_recordLazy]
  split
  · rfl
  · exact h

/-- Fields go into one class only, so they leave alone what came before that class. -/
theorem Grows.addField {d₀ d : Declarations} {name : String} (h : Grows d₀ d)
    (hn : name ∉ d₀.classNames) (field : Field) : Grows d₀ (d.addField name field) := by
  refine { h with classes := ?_ }
  obtain ⟨more, hm⟩ := h.classes
  refine ⟨(Declarations.addField { d with classes := more } name field).classes, ?_⟩
  simp only [Declarations.addField]
  rw [← hm, List.map_append]
  congr 1
  have hid : ∀ entry ∈ d₀.classes, (if entry.1 = name then
      (entry.1, { entry.2 with fields := entry.2.fields ++ [field] }) else entry) = id entry := by
    intro entry hc
    have hk : entry.1 ≠ name := fun he => hn (he ▸ List.mem_map_of_mem hc)
    rw [if_neg hk, id]
  rw [List.map_congr_left hid, List.map_id]

theorem declareClass_fresh (d : Declarations) (hint : String) :
    (d.declareClass hint).1 ∉ d.classNames := by
  intro hm
  apply uniqueName_fresh d hint
  simp only [names, List.mem_append]
  exact .inl (.inl hm)

end Declarations

/-! ## Translations -/

namespace Translation

open Declarations (Grows)

def after {α : Type} (m : Translation α) (d : Declarations) : Declarations := (m.run.run d).2

variable {α β : Type} {d d' : Declarations}

theorem Returns.after_eq {m : Translation α} {a : α} (h : Returns m d a d') : after m d = d' := by
  rw [after, h]

theorem after_bind (m : Translation α) (f : α → Translation β) (d : Declarations) :
    (∃ a d₁, Returns m d a d₁ ∧ after (m >>= f) d = after (f a) d₁) ∨
      after (m >>= f) d = after m d := by
  unfold after Returns
  rw [run_bind]
  generalize m.run.run d = outcome
  obtain ⟨result, d₁⟩ := outcome
  cases result with
  | ok a => exact .inl ⟨a, d₁, rfl, rfl⟩
  | error fault => exact .inr rfl

/-- A computation keeps what both of its parts keep. -/
theorem Grows.bind {m : Translation α} {f : α → Translation β} {d₀ d : Declarations}
    (hm : Grows d₀ (after m d)) (hf : ∀ a d₁, Returns m d a d₁ → Grows d₀ (after (f a) d₁)) :
    Grows d₀ (after (m >>= f) d) := by
  rcases after_bind m f d with ⟨a, d₁, hr, he⟩ | he
  · rw [he]; exact hf a d₁ hr
  · rw [he]; exact hm

theorem grows_deeper {m : Translation α} (h : ∀ d, Grows d (after m d)) (d : Declarations) :
    Grows d (after (deeper m) d) := by
  have hm := h { d with depth := d.depth + 1 }
  refine ⟨hm.classes, hm.enums, hm.aliases, hm.order, hm.counter, hm.lazies, ?_⟩
  have hd := hm.depth
  change (after m { d with depth := d.depth + 1 }).depth - 1 = d.depth
  rw [hd]
  exact Int.add_sub_cancel _ _

def Steady (inside : Node → NameHint → Translation String) : Prop :=
  ∀ node hint d, Grows d (after (inside node hint) d)

variable {g : Graph} {s : Settings.Translator} {inside : Node → NameHint → Translation String}

theorem grows_declareClass (hint : NameHint) (d : Declarations) :
    Grows d (after (declareClass hint) d) := by
  unfold declareClass
  refine Grows.bind (.refl d) fun text d₁ h => ?_
  obtain ⟨-, rfl⟩ := returns_lift.mp h
  exact (Declarations.gains_class d text).grows

theorem declareClass_fresh {hint : NameHint} {name : String}
    (h : Returns (declareClass hint) d name d') : name ∉ d.classNames := by
  simp only [declareClass, returns_bind, returns_lift, returns_modifyGet] at h
  obtain ⟨text, _, ⟨-, rfl⟩, hd⟩ := h
  have hf := Declarations.declareClass_fresh d text
  rwa [hd] at hf

theorem grows_fields (hi : Steady inside) {d₀ : Declarations} {name : String}
    (hn : name ∉ d₀.classNames) (members : List (String × Node)) :
    ∀ used d, Grows d₀ d → Grows d₀ (after (fields s inside name used members) d) := by
  induction members with
  | nil => intro used d h; exact h
  | cons member rest ih =>
    obtain ⟨key, node⟩ := member
    intro used d h
    unfold fields
    refine Grows.bind h fun peeled d₁ hp => ?_
    obtain ⟨-, rfl⟩ := returns_lift.mp hp
    refine Grows.bind (h.trans (hi _ _ _)) fun type d₂ ht => ?_
    have h₂ : Grows d₀ d₂ := h.trans (ht.after_eq ▸ hi _ _ _)
    refine Grows.bind (h₂.addField hn _) fun _ d₃ hf => ?_
    rw [returns_modify] at hf
    exact ih _ _ (hf ▸ h₂.addField hn _)

theorem grows_classType (hi : Steady inside) {d₀ : Declarations} {name : String}
    (hn : name ∉ d₀.classNames) (members : List (String × Node)) (h : Grows d₀ d) :
    Grows d₀ (after (classType s inside name members) d) := by
  unfold classType
  have hf := grows_fields (s := s) hi hn members [] d h
  refine Grows.bind hf fun _ d₁ h₁ => ?_
  rw [h₁.after_eq] at hf
  have hc := hf.trans (Declarations.grows_completeClass d₁ name)
  refine Grows.bind hc fun _ d₂ h₂ => ?_
  rw [returns_modify] at h₂
  exact h₂ ▸ hc

theorem grows_options (hi : Steady inside) {hint : NameHint} (nodes : List Node) :
    ∀ index d, Grows d (after (options inside hint index nodes) d) := by
  induction nodes with
  | nil => intro index d; exact .refl d
  | cons node rest ih =>
    intro index d
    unfold options
    refine Grows.bind (hi _ _ d) fun first d₁ h => ?_
    have h₁ : Grows d d₁ := h.after_eq ▸ hi _ _ _
    exact Grows.bind (h₁.trans (ih _ _)) fun others d₂ ho => h₁.trans (ho.after_eq ▸ ih _ _)

theorem grows_enumType (values : Json) (hint : NameHint) (d : Declarations) :
    Grows d (after (enumType values hint) d) := by
  unfold enumType
  split
  · exact .refl d
  refine Grows.bind (.refl d) fun items d₁ h => ?_
  obtain ⟨-, rfl⟩ := returns_lift.mp h
  refine Grows.bind (.refl _) fun plain d₁ h => ?_
  obtain ⟨-, rfl⟩ := returns_lift.mp h
  refine Grows.bind (.refl _) fun text d₁ h => ?_
  obtain ⟨-, rfl⟩ := returns_lift.mp h
  split
  · exact (Declarations.gains_enum _ _ _).grows
  · exact (Declarations.gains_alias _ _ _).grows

theorem grows_lazyType (hi : Steady inside) (ref : Ref) (hint : NameHint) (d : Declarations) :
    Grows d (after (lazyType g s inside ref hint) d) := by
  unfold lazyType
  refine Grows.bind (.refl d) fun _ d₁ h => ?_
  obtain ⟨rfl, rfl⟩ := returns_get.mp h
  split
  · exact .refl _
  refine Grows.bind (.refl _) fun resolved d₁ h => ?_
  obtain ⟨-, rfl⟩ := returns_lift.mp h
  refine Grows.bind (.refl _) fun target d₁ h => ?_
  obtain ⟨-, rfl⟩ := returns_lift.mp h
  split
  · rename_i members _
    refine Grows.bind (grows_declareClass hint _) fun name d₁ h => ?_
    have hn := declareClass_fresh h
    have h₁ := (h.after_eq ▸ grows_declareClass hint _ : Grows _ d₁).trans
      (Declarations.grows_recordLazy d₁ ref
        (if target.nullable = true then name ++ " | null" else name))
    refine Grows.bind h₁ fun _ d₂ h => ?_
    rw [returns_modify] at h
    subst h
    have hc := grows_classType (s := s) hi hn members h₁
    exact Grows.bind hc fun _ d₃ h => h.after_eq ▸ hc
  · refine Grows.bind (.refl _) fun _ d₁ h => ?_
    obtain ⟨rfl, rfl⟩ := returns_get.mp h
    refine Grows.bind (.refl _) fun full d₁ h => ?_
    obtain ⟨-, rfl⟩ := returns_lift.mp h
    split
    · exact Grows.bind (.refl _) fun _ d₁ h => (returns_throw h).elim
    · have hd := grows_deeper (hi resolved hint)
      refine Grows.bind (hd _) fun expr d₁ h => ?_
      have h₁ := (h.after_eq ▸ hd _ : Grows _ d₁).trans
        (Declarations.grows_recordLazy d₁ ref expr)
      refine Grows.bind h₁ fun _ d₂ h => ?_
      rw [returns_modify] at h
      exact h ▸ h₁

theorem grows_core (hi : Steady inside) (node : Node) (hint : NameHint) (d : Declarations) :
    Grows d (after (core g s inside node hint) d) := by
  cases node with
  | object description members =>
    simp only [core]
    refine Grows.bind (grows_declareClass hint d) fun name d₁ h => ?_
    exact grows_classType hi (declareClass_fresh h) members (h.after_eq ▸ grows_declareClass hint d)
  | array description candidates low high =>
    simp only [core]
    refine Grows.bind (.refl d) fun element d₁ h => ?_
    obtain ⟨-, rfl⟩ := returns_lift.mp h
    split
    · exact .refl _
    · exact Grows.bind (hi _ _ _) fun inner d₁ h => h.after_eq ▸ hi _ _ _
  | enumeration description values => exact grows_enumType _ _ _
  | memberEnum description source => exact grows_enumType _ _ _
  | record description key value =>
    simp only [core]
    split
    · exact Grows.bind (.refl d) fun _ d₁ h => (returns_throw h).elim
    · refine Grows.bind (hi _ _ _) fun key d₁ h => ?_
      have h₁ : Grows d d₁ := h.after_eq ▸ hi _ _ _
      exact Grows.bind (h₁.trans (hi _ _ _)) fun value d₂ h => h₁.trans (h.after_eq ▸ hi _ _ _)
  | union description nodes =>
    simp only [core]
    split
    · exact Grows.bind (.refl d) fun _ d₁ h => (returns_throw h).elim
    · have ho : Grows d (after (options inside hint 0 nodes) d) := grows_options hi nodes 0 d
      exact Grows.bind ho fun parts d₁ h => h.after_eq ▸ ho
  | lazy description name ref => exact grows_lazyType hi ref _ d
  | bare description inner =>
    simp only [core]
    split
    · exact hi _ _ _
    · exact .refl d
  | foreign value => exact .refl d
  | thunk ref => exact .refl d
  | primitive description name => exact .refl d
  | literal description value => exact .refl d
  | wrapper description form inner => exact .refl d
  | pipeline description inner source => exact .refl d

theorem step_steady (hi : Steady inside) : Steady (step g s inside) := by
  intro node hint d
  unfold step
  refine Grows.bind (.refl d) fun peeled d₁ h => ?_
  obtain ⟨-, rfl⟩ := returns_lift.mp h
  exact Grows.bind (grows_core hi _ _ _) fun type d₁ h => h.after_eq ▸ grows_core hi _ _ _

/-- The frame of a translation: whatever it ends with, nothing declared before is lost or
changed. -/
theorem within_steady (g : Graph) (s : Settings.Translator) (nesting : Nat) :
    Steady (within g s nesting) := by
  induction nesting with
  | zero => intro node hint d; exact .refl d
  | succ nesting ih => exact step_steady ih

theorem Steady.returns (hi : Steady inside) {node : Node} {hint : NameHint} {type : String}
    (h : Returns (inside node hint) d type d') : Grows d d' :=
  h.after_eq ▸ hi node hint d

end Translation

end StructuredOutput.Baml
