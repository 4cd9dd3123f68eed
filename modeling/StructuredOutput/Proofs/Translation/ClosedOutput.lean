import StructuredOutput.Baml.Source
import StructuredOutput.Proofs.Json.Members
import StructuredOutput.Proofs.Translation.Cases
import StructuredOutput.Proofs.Translation.Growth
import StructuredOutput.Proofs.TypeText.ClosedTypes

/-! # The output of a translation is closed

A class is declared before its fields are translated and put into the order behind them, so while a
translation runs some classes are pending. A translation that returns leaves the pending classes as
it found them: each class that it declares it also completes, once. Between calls no class is
pending, and then the order names exactly the declared classes. -/
namespace StructuredOutput.Baml

open Schema (Graph Node Ref)

namespace Declarations

/-- The classes that are declared and not completed. -/
def pending (d : Declarations) : List String := d.classNames.filter fun name => name ∉ d.order

/-- Declarations in good order, whether or not classes are pending: names are distinct type names,
the order holds declared classes once each, what stands in fields and for deferred nodes is sealed,
and the counter is no number that would spoil the next name. -/
structure Tidy (d : Declarations) : Prop where
  names : d.names.Nodup
  typeNames : ∀ name ∈ d.names, Text.isTypeName name.toList = true
  own : ∀ entry ∈ d.classes, entry.2.name = entry.1
  order : d.order.Nodup
  ordered : d.order ⊆ d.classNames
  fields : ∀ entry ∈ d.classes, ∀ field ∈ entry.2.fields, Sealed d field.type
  lazies : ∀ entry ∈ d.lazies, Sealed d entry.2
  counter : 0 ≤ d.counter

theorem tidy_empty : Tidy {} := by
  constructor <;> simp [Declarations.names]

structure Keeps (d d' : Declarations) : Prop where
  tidy : Tidy d'
  names : d.names ⊆ d'.names
  pending : d'.pending = d.pending

theorem Keeps.refl {d : Declarations} (h : Tidy d) : Keeps d d := ⟨h, List.Subset.refl _, rfl⟩

theorem Keeps.trans {d d₁ d' : Declarations} (h : Keeps d d₁) (h' : Keeps d₁ d') : Keeps d d' :=
  ⟨h'.tidy, fun _ hn => h'.names (h.names hn), h'.pending.trans h.pending⟩

variable {d d' : Declarations}

theorem classNames_sublist (d : Declarations) : d.classNames.Sublist d.names := by
  unfold names
  rw [List.append_assoc]
  exact List.sublist_append_left _ _

/-! ## Single declarations -/

/-- One more name, with at most an empty class behind it. -/
theorem Tidy.gains (h : Tidy d) {hint : String} (hd : Gains d hint d') : Tidy d' := by
  have hn := hd.names
  have hsub : d.names ⊆ d'.names := fun _ hm => hn.symm.subset (List.mem_cons_of_mem _ hm)
  obtain ⟨more, -, -, hcl, -, -, hmore, -⟩ := hd.tables
  refine ⟨?_, ?_, ?_, hd.order ▸ h.order, ?_, ?_, ?_, ?_⟩
  · exact hn.symm.nodup (List.nodup_cons.mpr ⟨uniqueName_fresh d hint, h.names⟩)
  · intro name' hm
    rcases List.mem_cons.mp (hn.subset hm) with rfl | hm
    · exact isTypeName_uniqueName h.counter hint
    · exact h.typeNames name' hm
  · intro entry he
    rw [hcl] at he
    rcases List.mem_append.mp he with he | he
    · exact h.own entry he
    · rw [hmore entry he]
  · rw [hd.order]
    intro name' hm
    have := h.ordered hm
    unfold classNames at *
    rw [hcl, List.map_append]
    exact List.mem_append_left _ this
  · intro entry he field hfield
    rw [hcl] at he
    rcases List.mem_append.mp he with he | he
    · exact (h.fields entry he field hfield).mono hsub
    · rw [hmore entry he] at hfield; cases hfield
  · intro entry he
    exact (h.lazies entry (hd.lazies ▸ he)).mono hsub
  · rw [hd.counter]
    exact Int.le_trans h.counter (uniqueName_counter d hint)

theorem sealed_uniqueName (h : Tidy d) {hint : String} (hn : (d.uniqueName hint).1 ∈ d'.names) :
    Sealed d' (d.uniqueName hint).1 :=
  .declared (isTypeName_uniqueName h.counter hint) hn

/-- An enum or an alias is completed as soon as it is declared. -/
theorem Gains.keeps {hint : String} (hd : Gains d hint d') (h : Tidy d)
    (hc : d'.classes = d.classes) : Keeps d d' ∧ Sealed d' (d.uniqueName hint).1 := by
  have hn := hd.names
  have hp : d'.pending = d.pending := by rw [pending, pending, classNames, classNames, hc, hd.order]
  exact ⟨⟨h.gains hd, fun _ hm => hn.symm.subset (List.mem_cons_of_mem _ hm), hp⟩,
    sealed_uniqueName h (hn.symm.subset List.mem_cons_self)⟩

/-- A declared class is the one that became pending. -/
theorem declareClass_pends (h : Tidy d) {hint name : String}
    (hd : d.declareClass hint = (name, d')) :
    Tidy d' ∧ d.names ⊆ d'.names ∧ d'.pending = d.pending ++ [name] ∧ name ∉ d.names ∧
      Sealed d' name := by
  have hn := (gains_class d hint).names
  have hf := uniqueName_fresh d hint
  have hs := sealed_uniqueName h (hn.symm.subset List.mem_cons_self)
  have ht : Tidy (d.declareClass hint).2 := h.gains (gains_class d hint)
  have hnew : (d.uniqueName hint).1 ∉ d.order :=
    fun hm => hf ((classNames_sublist d).subset (h.ordered hm))
  have hp : (d.declareClass hint).2.pending = d.pending ++ [(d.uniqueName hint).1] := by
    change (List.map _ (d.classes ++ [((d.uniqueName hint).1, _)])).filter _ = _
    rw [List.map_append, List.filter_append]
    congr 1
    exact List.filter_cons_of_pos (decide_eq_true hnew)
  have he : d.declareClass hint = ((d.uniqueName hint).1, (d.declareClass hint).2) := rfl
  rw [he] at hd
  cases hd
  exact ⟨ht, fun _ hm => hn.symm.subset (List.mem_cons_of_mem _ hm), hp, hf, hs⟩

@[simp] theorem classNames_addField (d : Declarations) (name : String) (field : Field) :
    (d.addField name field).classNames = d.classNames := by
  unfold classNames addField
  rw [List.map_map]
  apply List.map_congr_left
  intro entry _
  simp only [Function.comp_apply]
  split <;> rfl

theorem mem_addField {name : String} {field : Field} {entry : String × Class}
    (h : entry ∈ (d.addField name field).classes) : ∃ c, (entry.1, c) ∈ d.classes ∧
      entry.2.name = c.name ∧ ∀ f ∈ entry.2.fields, f ∈ c.fields ∨ f = field := by
  obtain ⟨⟨key, c⟩, hc, he⟩ := List.mem_map.mp h
  simp only at he
  split at he
  · subst he
    exact ⟨c, hc, rfl, fun f hf => by simpa using hf⟩
  · subst he
    exact ⟨c, hc, rfl, fun f hf => .inl hf⟩

theorem addField_keeps (h : Tidy d) {field : Field} (hs : Sealed d field.type) (name : String) :
    Keeps d (d.addField name field) := by
  have hsub : d.names ⊆ (d.addField name field).names := by simp
  refine ⟨⟨?_, ?_, ?_, h.order, ?_, ?_, ?_, h.counter⟩, hsub, ?_⟩
  · rw [names_addField]; exact h.names
  · rw [names_addField]; exact h.typeNames
  · intro entry he
    obtain ⟨c, hc, hn, -⟩ := mem_addField he
    rw [hn]
    exact h.own _ hc
  · rw [classNames_addField]; exact h.ordered
  · intro entry he f hf
    obtain ⟨c, hc, -, hall⟩ := mem_addField he
    rcases hall f hf with hf | rfl
    · exact (h.fields _ hc f hf).mono hsub
    · exact hs.mono hsub
  · exact fun entry he => (h.lazies entry he).mono hsub
  · unfold pending
    rw [classNames_addField]
    rfl

theorem recordLazy_keeps (h : Tidy d) {expr : String} (hs : Sealed d expr) (ref : Ref) :
    Keeps d (d.recordLazy ref expr) := by
  have hsub : d.names ⊆ (d.recordLazy ref expr).names := List.Subset.refl _
  refine ⟨⟨h.names, h.typeNames, h.own, h.order, h.ordered, ?_, ?_, h.counter⟩, hsub, rfl⟩
  · exact fun entry he field hf => (h.fields entry he field hf).mono hsub
  · intro entry he
    rcases List.mem_append.mp he with he | he
    · exact (h.lazies entry (List.mem_filter.mp he).1).mono hsub
    · rw [List.mem_singleton.mp he]; exact hs.mono hsub

theorem lazy?_sealed (h : Tidy d) {ref : Ref} {expr : String} (hl : d.lazy? ref = some expr) :
    Sealed d expr := by
  obtain ⟨entry, he, rfl⟩ := Option.map_eq_some_iff.mp hl
  exact h.lazies entry (List.mem_of_find?_eq_some he)

/-- The class that is completed is no longer pending, and it was not completed before. -/
theorem completeClass_tidy (h : Tidy d) {name : String} (hp : name ∈ d.pending) :
    Tidy (d.completeClass name) ∧
      (d.completeClass name).pending = d.pending.filter fun other => other ≠ name := by
  obtain ⟨hm, ho⟩ := List.mem_filter.mp hp
  have ho : name ∉ d.order := by simpa using ho
  have hsub : d.names ⊆ (d.completeClass name).names := List.Subset.refl _
  refine ⟨⟨h.names, h.typeNames, h.own, ?_, ?_, ?_, ?_, h.counter⟩, ?_⟩
  · rw [completeClass, List.nodup_append]
    exact ⟨h.order, by simp, by rintro a ha b hb rfl; exact ho (List.mem_singleton.mp hb ▸ ha)⟩
  · intro other hother
    rcases List.mem_append.mp hother with hother | hother
    · exact h.ordered hother
    · exact List.mem_singleton.mp hother ▸ hm
  · exact fun entry he field hf => (h.fields entry he field hf).mono hsub
  · exact fun entry he => (h.lazies entry he).mono hsub
  · unfold pending
    rw [List.filter_filter]
    apply List.filter_congr
    intro other _
    simp [completeClass, and_comm]

/-- The depth is no declaration. -/
theorem Tidy.atDepth (h : Tidy d) (depth : Int) : Tidy { d with depth } := by
  have hsub : d.names ⊆ { d with depth }.names := List.Subset.refl _
  exact ⟨h.names, h.typeNames, h.own, h.order, h.ordered,
    fun entry he field hf => (h.fields entry he field hf).mono hsub,
    fun entry he => (h.lazies entry he).mono hsub, h.counter⟩

/-- A class that is declared, filled and completed leaves the pending classes as they were. -/
theorem completed_keeps {d₁ d₂ : Declarations} (h : Tidy d) {hint name : String}
    (hd : d.declareClass hint = (name, d₁)) (hk : Keeps d₁ d₂) :
    Keeps d (d₂.completeClass name) ∧ Sealed (d₂.completeClass name) name := by
  obtain ⟨-, hsub, hp, hf, hs⟩ := declareClass_pends h hd
  have hmem : name ∈ d₂.pending := by rw [hk.pending, hp]; simp
  obtain ⟨ht, hc⟩ := completeClass_tidy hk.tidy hmem
  refine ⟨⟨ht, fun _ hm => hk.names (hsub hm), ?_⟩, hs.mono hk.names⟩
  have hother : ∀ other ∈ d.pending, other ≠ name := by
    rintro other hm rfl
    exact hf ((classNames_sublist d).subset (List.mem_filter.mp hm).1)
  rw [hc, hk.pending, hp, List.filter_append, List.filter_eq_self.mpr (by simpa using hother)]
  simp

end Declarations

/-! ## One step of the translator -/

namespace Translation

open Declarations (Tidy Keeps)

/-- A translation of nodes that returns sealed expressions and completes what it declares. -/
def Completes (inside : Node → NameHint → Translation String) : Prop :=
  ∀ node hint d expr d', Tidy d → Returns (inside node hint) d expr d' →
    Keeps d d' ∧ Sealed d' expr

variable {g : Graph} {s : Settings.Translator} {inside : Node → NameHint → Translation String}
variable {d d' : Declarations} {hint : NameHint} {expr : String}

theorem fields_keeps (hi : Completes inside) {name : String} {members : List (String × Node)} :
    ∀ {used : List String} {d : Declarations}, Tidy d →
      Returns (fields s inside name used members) d () d' → Keeps d d' := by
  induction members with
  | nil =>
    intro used d h hr
    exact returns_fields_nil.mp hr ▸ .refl h
  | cons member rest ih =>
    obtain ⟨key, node⟩ := member
    intro used d h hr
    obtain ⟨peeled, type, d₁, -, hin, hrest⟩ := returns_fields_cons.mp hr
    obtain ⟨hk, hs⟩ := hi _ _ _ _ _ h hin
    have ha : Keeps d₁ (d₁.addField name (newField used key type peeled)) :=
      Declarations.addField_keeps hk.tidy hs name
    exact (hk.trans ha).trans (ih ha.tidy hrest)

theorem options_keeps (hi : Completes inside) {nodes : List Node} :
    ∀ {index : Nat} {parts : List String} {d : Declarations}, Tidy d →
      Returns (options inside hint index nodes) d parts d' →
      Keeps d d' ∧ ∀ part ∈ parts, Sealed d' part := by
  induction nodes with
  | nil =>
    intro index parts d h hr
    obtain ⟨rfl, rfl⟩ := returns_options_nil.mp hr
    exact ⟨.refl h, by simp⟩
  | cons node rest ih =>
    intro index parts d h hr
    obtain ⟨first, others, d₁, hin, hrest, rfl⟩ := returns_options_cons.mp hr
    obtain ⟨hk, hs⟩ := hi _ _ _ _ _ h hin
    obtain ⟨hk', hall⟩ := ih hk.tidy hrest
    refine ⟨hk.trans hk', fun part hp => ?_⟩
    rcases List.mem_cons.mp hp with rfl | hp
    · exact hs.mono hk'.names
    · exact hall part hp

theorem primitiveType_builtin {name : Json} {type : String} (h : primitiveType name = .ok type) :
    type ∈ builtins := by
  unfold primitiveType at h
  split at h
  · split at h
    · rename_i found
      cases h
      obtain ⟨text, -, hf⟩ := Option.bind_eq_some_iff.mp found
      exact List.mem_cons_of_mem _ (List.mem_map.mpr ⟨(text, type), Json.mem_of_find? hf, rfl⟩)
    · cases h
  · cases h

theorem literalType_builtin (value : Json) : literalType value ∈ builtins := by
  unfold literalType
  split
  · decide
  · decide
  · split <;> decide
  · decide

theorem core_completes (hi : Completes inside) {node : Node} (h : Tidy d)
    (hr : Returns (core g s inside node hint) d expr d') : Keeps d d' ∧ Sealed d' expr := by
  cases core_cases hr with
  | object hc hf =>
    obtain ⟨text, -, hd⟩ := returns_declareClass.mp hc
    obtain ⟨ht, -⟩ := Declarations.declareClass_pends h hd
    exact Declarations.completed_keeps h hd (fields_keeps hi ht hf)
  | primitive hp => exact ⟨.refl h, .builtin (primitiveType_builtin hp)⟩
  | literal => exact ⟨.refl h, .builtin (literalType_builtin _)⟩
  | strings => exact ⟨.refl h, (Sealed.builtin (by decide)).group.brackets⟩
  | array _ _ hin =>
    obtain ⟨hk, hs⟩ := hi _ _ _ _ _ h hin
    exact ⟨hk, hs.group.brackets⟩
  | anyString => exact ⟨.refl h, .builtin (by decide)⟩
  | names => exact (Declarations.gains_enum d _ _).keeps h rfl
  | literals => exact (Declarations.gains_alias d _ _).keeps h rfl
  | record _ hkey hvalue =>
    obtain ⟨hk, hs⟩ := hi _ _ _ _ _ h hkey
    obtain ⟨hk', hs'⟩ := hi _ _ _ _ _ hk.tidy hvalue
    exact ⟨hk.trans hk', (hs.mono hk'.names).map hs'⟩
  | union _ ho =>
    obtain ⟨hk, hall⟩ := options_keeps hi h ho
    exact ⟨hk, .join hall⟩
  | bare _ hin => exact hi _ _ _ _ _ h hin
  | reused hl => exact ⟨.refl h, Declarations.lazy?_sealed h hl⟩
  | lazyObject hnone hres hpeel hobj hc htype hf =>
    rename_i ref _ _ _ class_ d₁ d₂
    obtain ⟨text, -, hd⟩ := returns_declareClass.mp hc
    obtain ⟨ht, -, -, -, hs⟩ := Declarations.declareClass_pends h hd
    have hexpr : Sealed d₁ expr := by
      rw [htype]
      split
      · exact hs.withNull
      · exact hs
    have hk := Declarations.recordLazy_keeps ht hexpr ref
    have hk' := hk.trans (fields_keeps hi hk.tidy hf)
    obtain ⟨hdone, -⟩ := Declarations.completed_keeps h hd hk'
    exact ⟨hdone, hexpr.mono hk'.names⟩
  | lazyOther hnone hres hpeel hother hdepth hin =>
    rename_i ref _ _ d₁
    obtain ⟨hk, hs⟩ := hi _ _ _ _ _ (h.atDepth _) hin
    have hl := Declarations.recordLazy_keeps (hk.tidy.atDepth (d₁.depth - 1))
      (hs.mono (List.Subset.refl _)) ref
    exact ⟨⟨hl.tidy, hk.names, hk.pending⟩, hs.mono hl.names⟩

theorem step_completes (hi : Completes inside) : Completes (step g s inside) := by
  intro node hint d expr d' h hr
  obtain ⟨peeled, type, -, hc, rfl⟩ := returns_step.mp hr
  obtain ⟨hk, hs⟩ := core_completes hi h hc
  refine ⟨hk, ?_⟩
  split
  · exact hs.orNull
  · exact hs

theorem within_completes (g : Graph) (s : Settings.Translator) (nesting : Nat) :
    Completes (within g s nesting) := by
  induction nesting with
  | zero => intro node hint d expr d' _ hr; exact (returns_throw hr).elim
  | succ nesting ih => exact step_completes ih

end Translation

/-! ## Runs of calls -/

/-- Declarations that calls of the translator lead to when they start with none and all return. The
calls may translate nodes of different tables under different settings. -/
inductive Reached : Declarations → Prop
  | start : Reached {}
  | call {g : Graph} {s : Settings.Translator} {node : Node} {hint : NameHint}
      {d d' : Declarations} {expr : String} :
      Reached d → Translation.Returns (translate g s node hint) d expr d' → Reached d'

namespace Declarations

variable {d d' : Declarations}

/-- Between calls no class is pending. -/
theorem Tidy.of_reached (h : Reached d) : Tidy d ∧ d.pending = [] := by
  induction h with
  | start => exact ⟨tidy_empty, rfl⟩
  | call _ hr ih =>
    obtain ⟨hk, -⟩ := Translation.within_completes _ _ _ _ _ _ _ _ ih.1
      (Translation.returns_translate.mp hr)
    exact ⟨hk.tidy, hk.pending.trans ih.2⟩

/-- With no class pending the order holds the declared classes and nothing else. -/
theorem Tidy.order_perm (h : Tidy d) (hp : d.pending = []) : d.order.Perm d.classNames := by
  have hn : d.classNames.Nodup := h.names.sublist (classNames_sublist d)
  refine (List.perm_ext_iff_of_nodup h.order hn).mpr fun name => ⟨fun hm => h.ordered hm, ?_⟩
  intro hm
  have := List.filter_eq_nil_iff.mp hp name hm
  simpa using this

theorem completed_eq {class_ : String → Class} {names : List String}
    (h : ∀ name ∈ names, d.class? name = some (class_ name)) :
    (names.mapM fun name => match d.class? name with
      | some c => Except.ok c
      | none => Except.error (Fault.value .missingKey)) = .ok (names.map class_) := by
  induction names with
  | nil => rfl
  | cons name rest ih =>
    rw [List.mapM_cons, h name List.mem_cons_self, ih fun n hn => h n (List.mem_cons_of_mem _ hn)]
    rfl

/-- The classes that are printed: all of them, each under its own name, in the order in which they
were completed. -/
theorem Tidy.completed (h : Tidy d) (hp : d.pending = []) :
    ∃ printed, d.completed = .ok printed ∧ printed.Perm (d.classes.map (·.2)) ∧
      printed.map (·.name) = d.order := by
  have hn : d.classNames.Nodup := h.names.sublist (classNames_sublist d)
  let class_ := fun name => (d.class? name).getD ⟨name, []⟩
  have hall : ∀ entry ∈ d.classes, d.class? entry.1 = some entry.2 :=
    fun entry he => Json.find?_of_mem hn he
  have hfound : ∀ name ∈ d.order,
      d.class? name = some (class_ name) ∧ (class_ name).name = name := by
    intro name hm
    obtain ⟨entry, he, rfl⟩ := List.mem_map.mp (h.ordered hm)
    simp only [class_, hall entry he, Option.getD_some, true_and]
    exact h.own entry he
  refine ⟨d.order.map class_, completed_eq fun name hm => (hfound name hm).1, ?_, ?_⟩
  · have hmap : d.classNames.map class_ = d.classes.map (·.2) := by
      unfold classNames
      rw [List.map_map]
      apply List.map_congr_left
      intro entry he
      simp only [class_, Function.comp_apply, hall entry he, Option.getD_some]
    rw [← hmap]
    exact (h.order_perm hp).map class_
  · rw [List.map_map]
    conv_rhs => rw [← List.map_id d.order]
    exact List.map_congr_left fun name hm => (hfound name hm).2

theorem render_eq {printed : List Class} (h : d.completed = .ok printed) (function root : String)
    (client : Json) : d.render function root client =
      .ok (sourceText (d.enums.map fun e => enumText e.1 (e.2.map Json.display)) d.aliases
        (printed.map fun c => classText c.name (c.fields.map Field.line)) function root client) := by
  rw [render, h]
  rfl

end Declarations

/-- A table with one entry: an object that may hold another of its kind, and one of three texts. -/
def linkTable : Graph :=
  ⟨[(⟨0, "link"⟩, .ok (.object .null
    [("next", .wrapper .null .optional (.lazy .null .null ⟨0, "link"⟩)),
      ("kind", .enumeration .null (.arr [.str "first", .str "inner", .str "last one"]))]))]⟩

def link : Node := .lazy .null .null ⟨0, "link"⟩

end StructuredOutput.Baml
