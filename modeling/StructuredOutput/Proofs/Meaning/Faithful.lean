import StructuredOutput.Proofs.Meaning.Rosters

/-! # The translator keeps the meaning

Each step of the translator takes rostered declarations to rostered declarations with a longer
roster, and what it returns spells an image of the node. A class enters the roster when it is
declared, so references to it from inside its own fields already have an image. -/
namespace StructuredOutput.Baml

open Schema (Graph Node Ref)

variable {P : Node → Prop} {g : Graph} {d d' : Declarations} {σ σ' : Roster} {name : String} {node : Node}

theorem Stands.mono (h : Stands g d σ name node) (hc : d.classes ⊆ d'.classes)
    (he : d.enums ⊆ d'.enums) (ha : d.aliases ⊆ d'.aliases)
    (ho : name ∈ d'.order → name ∈ d.order) (hs : σ ⊆ σ') : Stands g d' σ' name node := by
  cases h with
  | object hm hf hr => exact .object (hc hm) (hf.imp fun _ _ h => h.mono hs) fun hn => hr (ho hn)
  | oneOf hv ht hi hm => exact .oneOf hv ht hi (he hm)
  | behind hv ht hi hne hm => exact .behind hv ht hi hne (ha hm)

namespace Rostered

theorem declared (h : Rostered P g d σ) (ht : d'.Tidy) (hf : name ∉ d.names)
    (hc : d.classes ⊆ d'.classes) (he : d.enums ⊆ d'.enums) (ha : d.aliases ⊆ d'.aliases)
    (ho : d'.order = d.order) (hl : d'.lazies = d.lazies)
    (hnames : d'.names.Perm (name :: d.names)) (hP : P node)
    (hn : Stands g d' ((name, node) :: σ) name node) : Rostered P g d' ((name, node) :: σ) := by
  have hs : σ ⊆ (name, node) :: σ := List.subset_cons_self _ _
  have hnew : ∀ a, (name, a) ∉ σ := fun a hm => hf (h.mem_names hm)
  refine ⟨ht, ?_, List.forall_mem_cons.mpr ⟨hP, h.holds⟩, ?_, ?_, ?_⟩
  · intro other hm
    rcases List.mem_cons.mp (hnames.subset hm) with rfl | hm
    · exact ⟨node, List.mem_cons_self⟩
    · obtain ⟨covered, hm⟩ := h.covers other hm
      exact ⟨covered, hs hm⟩
  · intro n a b hma hmb
    rcases List.mem_cons.mp hma with hea | hma <;> rcases List.mem_cons.mp hmb with heb | hmb
    · cases hea; cases heb; rfl
    · cases hea; exact absurd hmb (hnew b)
    · cases heb; exact absurd hma (hnew a)
    · exact h.single n a b hma hmb
  · intro entry hm
    rcases List.mem_cons.mp hm with rfl | hm
    · exact hn
    · exact (h.stands entry hm).mono hc he ha (by rw [ho]; exact id) hs
  · intro ref expr hx
    have hx : d.lazy? ref = some expr := by
      unfold Declarations.lazy? at hx ⊢
      rwa [hl] at hx
    obtain ⟨resolved, us, hr, hsp, hi⟩ := h.lazies ref expr hx
    exact ⟨resolved, us, hr, hsp, hi.mono hs⟩

theorem recordLazy (h : Rostered P g d σ) {ref : Ref} {expr : String} {resolved : Node}
    {us : List Alternative} (ht : (d.recordLazy ref expr).Tidy) (hr : g.resolve ref = .ok resolved)
    (hs : Spells expr us) (hi : Image g σ resolved us) : Rostered P g (d.recordLazy ref expr) σ := by
  refine ⟨ht, h.covers, h.holds, h.single, fun entry hm => ?_, fun ref' expr' hx => ?_⟩
  · exact (h.stands entry hm).mono (List.Subset.refl _) (List.Subset.refl _) (List.Subset.refl _) id
      (List.Subset.refl _)
  · rw [Declarations.lazy?_recordLazy] at hx
    split at hx
    · rename_i he
      cases hx
      exact he ▸ ⟨resolved, us, hr, hs, hi⟩
    · exact h.lazies ref' expr' hx

theorem atDepth (h : Rostered P g d σ) (depth : Int) : Rostered P g { d with depth } σ :=
  ⟨h.tidy.atDepth depth, h.covers, h.holds, h.single,
    fun entry hm => (h.stands entry hm).mono (List.Subset.refl _) (List.Subset.refl _)
      (List.Subset.refl _) id (List.Subset.refl _), h.lazies⟩

/-- What stands for another name is not touched by a field of one class. -/
theorem stands_addField (h : Rostered P g d σ) {other : String} (hne : other ≠ name)
    (hm : (other, node) ∈ σ) (field : Field) : Stands g (d.addField name field) σ other node := by
  cases h.stands _ hm with
  | object hc hf ho =>
    refine .object ?_ hf ho
    exact List.mem_map.mpr ⟨_, hc, by simp [hne]⟩
  | oneOf hv ht hi hd => exact .oneOf hv ht hi hd
  | behind hv ht hi hx hd => exact .behind hv ht hi hx hd

theorem mem_addField {c : Class} (hc : (name, c) ∈ d.classes) (field : Field) :
    (name, { c with fields := c.fields ++ [field] }) ∈ (d.addField name field).classes :=
  List.mem_map.mpr ⟨_, hc, by simp⟩

/-- A pending class gets the field of its next member. -/
theorem addField (h : Rostered P g d σ) {description : Json} {done rest : List (String × Node)}
    {member : String × Node} {c : Class} {field : Field} (hp : name ∈ d.pending)
    (hr : (name, .object description (done ++ member :: rest)) ∈ σ) (hc : (name, c) ∈ d.classes)
    (hf : List.Forall₂ (Slot g σ) c.fields done) (hs : Slot g σ field member)
    (ht : (d.addField name field).Tidy) : Rostered P g (d.addField name field) σ := by
  rw [List.append_cons] at hr
  refine ⟨ht, fun other hm => h.covers other ?_, h.holds, h.single, fun entry hm => ?_, h.lazies⟩
  · rwa [Declarations.names_addField] at hm
  obtain ⟨other, node⟩ := entry
  by_cases hne : other = name
  · subst hne
    cases h.single _ _ _ hm hr
    have hall : List.Forall₂ (Slot g σ) (c.fields ++ [field]) (done ++ [member]) :=
      List.rel_append hf (.cons hs .nil)
    refine .object (mem_addField hc field) hall fun ho => ?_
    simp only [Declarations.pending, List.mem_filter, decide_eq_true_eq] at hp
    exact absurd ho hp.2
  · exact h.stands_addField hne hm field

/-- A class with a field for each member can be completed. -/
theorem completeClass (h : Rostered P g d σ) {description : Json} {members : List (String × Node)}
    {c : Class} (hr : (name, .object description members) ∈ σ) (hc : (name, c) ∈ d.classes)
    (hf : List.Forall₂ (Slot g σ) c.fields members) (ht : (d.completeClass name).Tidy) :
    Rostered P g (d.completeClass name) σ := by
  refine ⟨ht, h.covers, h.holds, h.single, fun entry hm => ?_, h.lazies⟩
  obtain ⟨other, node⟩ := entry
  by_cases hne : other = name
  · subst hne
    cases h.single _ _ _ hm hr
    have hs : Stands g (d.completeClass other) σ other (.object description (members ++ [])) :=
      .object hc hf fun _ => rfl
    rwa [List.append_nil] at hs
  · refine (h.stands _ hm).mono (List.Subset.refl _) (List.Subset.refl _) (List.Subset.refl _) ?_
      (List.Subset.refl _)
    intro ho
    rcases List.mem_append.mp ho with ho | ho
    · exact ho
    · exact absurd (List.mem_singleton.mp ho) hne

end Rostered

/-! ## One step of the translator -/

namespace Translation

open Declarations (Tidy Keeps)

variable {s : Settings.Translator} {inside : Node → NameHint → Translation String}
variable {hint : NameHint} {expr : String}

theorem newField_source {used : List String} {key type : String} {peeled : Schema.Peeled} :
    (newField used key type peeled).source = key := by
  unfold Field.source newField
  simp only
  split
  · rename_i he
    rw [Option.getD_none, he]
  · rfl

end Translation

end StructuredOutput.Baml
