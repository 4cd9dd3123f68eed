import Mathlib.Logic.Relation
import StructuredOutput.Proofs.Meaning.Rosters

/-! # Which classes the fields of a class mention

A class mentions the words in the types of its fields. The order lists a class when its last field is
there, so a class that is mentioned and not yet in the order is still pending. The pending classes form a
chain of mentions once they are completed: whatever is declared between the start of a class and its end
is reached from its fields. So a class that is mentioned comes before the one that mentions it, or leads
back to it. -/
namespace StructuredOutput.Baml

open Schema (Graph Node Ref)

namespace Declarations

/-- Whether a word stands in the type of a field of a class. -/
def Mentions (d : Declarations) (name word : String) : Prop :=
  ∃ c, (name, c) ∈ d.classes ∧ ∃ field ∈ c.fields, word ∈ identifiers field.type

/-- Whether mentions lead from one class to another. -/
def Leads (d : Declarations) : String → String → Prop := Relation.ReflTransGen d.Mentions

def Other (d : Declarations) (word : String) : Prop :=
  word ∈ builtins ∨ (∃ values, (word, values) ∈ d.enums) ∨ ∃ expr, (word, expr) ∈ d.aliases

/-- Whether one name stands in front of another. -/
def Precedes (order : List String) (first second : String) : Prop := [first, second].Sublist order

/-- Whether a word of a class is no class, or one that comes before the class or leads to it. -/
def Placed (d : Declarations) (word name : String) : Prop :=
  d.Other word ∨ Precedes d.order word name ∨ d.Leads word name

variable {d d₁ d' : Declarations} {name word : String} {opened : List String}

theorem Tidy.not_other (h : d.Tidy) (hn : name ∈ d.classNames) : ¬ d.Other name := by
  obtain ⟨entry, he, rfl⟩ := List.mem_map.mp hn
  obtain ⟨henum, halias, -⟩ := h.apart entry.1
  rintro (hb | ⟨values, hv⟩ | ⟨expr, ha⟩)
  · exact h.not_builtin ((classNames_sublist d).subset hn) hb
  · exact henum _ _ he hv
  · exact halias _ _ he ha

/-- A word of a sealed expression is no class, or a class that is completed or pending. -/
theorem word_cases {expr : String} (h : Sealed d expr) (hw : word ∈ identifiers expr) :
    d.Other word ∨ word ∈ d.order ∨ word ∈ d.pending := by
  rcases h.closed word hw with hb | hn
  · exact .inl (.inl hb)
  rcases mem_names.mp hn with ⟨c, hc⟩ | hv | ha
  · by_cases ho : word ∈ d.order
    · exact .inr (.inl ho)
    · exact .inr (.inr (List.mem_filter.mpr ⟨List.mem_map_of_mem hc, decide_eq_true ho⟩))
  · exact .inl (.inr (.inl hv))
  · exact .inl (.inr (.inr ha))

theorem Tidy.mentions_cases (h : d.Tidy) (hm : d.Mentions name word) :
    d.Other word ∨ word ∈ d.order ∨ word ∈ d.pending := by
  obtain ⟨c, hc, field, hf, hw⟩ := hm
  exact word_cases (h.fields _ hc field hf) hw

theorem mem_classNames_of_pending (h : name ∈ d.pending) : name ∈ d.classNames :=
  (List.mem_filter.mp h).1

theorem mentions_addField {field : Field} {other : String} :
    (d.addField name field).Mentions other word ↔ d.Mentions other word ∨
      other = name ∧ name ∈ d.classNames ∧ word ∈ identifiers field.type := by
  constructor
  · rintro ⟨c, hc, f, hf, hw⟩
    obtain ⟨⟨key, c₀⟩, hc₀, he⟩ := List.mem_map.mp hc
    dsimp only at he
    split at he
    · rename_i hkey
      cases he
      rcases List.mem_append.mp hf with hf | hf
      · exact .inl ⟨c₀, hc₀, f, hf, hw⟩
      · rw [List.mem_singleton.mp hf] at hw
        exact .inr ⟨hkey, hkey ▸ List.mem_map_of_mem hc₀, hw⟩
    · cases he
      exact .inl ⟨_, hc₀, f, hf, hw⟩
  · rintro (⟨c, hc, f, hf, hw⟩ | ⟨rfl, hn, hw⟩)
    · have he := List.mem_map_of_mem (f := fun (entry : String × Class) =>
        if entry.1 = name then (entry.1, { entry.2 with fields := entry.2.fields ++ [field] })
        else (entry.1, entry.2)) hc
      by_cases hkey : other = name
      · rw [if_pos hkey] at he
        exact ⟨_, he, f, List.mem_append_left _ hf, hw⟩
      · rw [if_neg hkey] at he
        exact ⟨_, he, f, hf, hw⟩
    · obtain ⟨entry, hc, rfl⟩ := List.mem_map.mp hn
      have he := List.mem_map_of_mem (f := fun (other : String × Class) =>
        if other.1 = entry.1 then (other.1, { other.2 with fields := other.2.fields ++ [field] })
        else (other.1, other.2)) hc
      rw [if_pos rfl] at he
      exact ⟨_, he, field, List.mem_append_right _ (List.mem_singleton_self _), hw⟩

/-! ## What later declarations keep -/

/-- What later declarations keep of the mentions before them; the classes in `opened` may have got
fields. -/
structure Extends (opened : List String) (d d' : Declarations) : Prop where
  keep : ∀ name word, d.Mentions name word → d'.Mentions name word
  fixed : ∀ name word, name ∈ d.classNames → name ∉ opened → d'.Mentions name word →
    d.Mentions name word
  order : d.order <+: d'.order
  other : ∀ word, d.Other word → d'.Other word
  classNames : d.classNames ⊆ d'.classNames

theorem Extends.refl (opened : List String) (d : Declarations) : Extends opened d d :=
  ⟨fun _ _ h => h, fun _ _ _ _ h => h, List.prefix_rfl, fun _ h => h, List.Subset.refl _⟩

theorem Extends.trans (h : Extends opened d d₁) (h' : Extends opened d₁ d') :
    Extends opened d d' :=
  ⟨fun _ _ hm => h'.keep _ _ (h.keep _ _ hm),
    fun _ _ hn ho hm => h.fixed _ _ hn ho (h'.fixed _ _ (h.classNames hn) ho hm),
    h.order.trans h'.order, fun _ hw => h'.other _ (h.other _ hw),
    fun _ hn => h'.classNames (h.classNames hn)⟩

theorem Extends.mono {more : List String} (h : Extends opened d d') (ho : opened ⊆ more) :
    Extends more d d' :=
  ⟨h.keep, fun _ _ hn hm => h.fixed _ _ hn fun hopen => hm (ho hopen), h.order, h.other,
    h.classNames⟩

theorem Grows.extends (h : Grows d d') (ht : d'.Tidy) (opened : List String) :
    Extends opened d d' := by
  refine ⟨?_, ?_, h.order, ?_, ?_⟩
  · rintro _ _ ⟨c, hc, hm⟩
    exact ⟨c, h.classes.subset hc, hm⟩
  · rintro _ _ hn - ⟨c, hc, hm⟩
    obtain ⟨entry, he, rfl⟩ := List.mem_map.mp hn
    rw [ht.class_unique hc (h.classes.subset he)] at hm
    exact ⟨_, he, hm⟩
  · rintro word (hb | ⟨values, hv⟩ | ⟨expr, ha⟩)
    · exact .inl hb
    · exact .inr (.inl ⟨values, h.enums.subset hv⟩)
    · exact .inr (.inr ⟨expr, h.aliases.subset ha⟩)
  · exact List.map_subset _ h.classes.subset

theorem extends_addField (d : Declarations) (name : String) (field : Field) :
    Extends [name] d (d.addField name field) := by
  refine ⟨fun _ _ h => mentions_addField.mpr (.inl h), fun other word _ hne h => ?_,
    List.prefix_rfl, fun _ h => h, (classNames_addField d name field).symm ▸ List.Subset.refl _⟩
  rcases mentions_addField.mp h with h | ⟨he, -⟩
  · exact h
  · exact absurd (List.mem_singleton.mpr he) hne

theorem Extends.leads (h : Extends opened d d') (hl : d.Leads word name) : d'.Leads word name :=
  Relation.ReflTransGen.mono h.keep _ _ hl

theorem Extends.precedes (h : Extends opened d d') (hp : Precedes d.order word name) :
    Precedes d'.order word name :=
  hp.trans h.order.sublist

theorem Extends.placed (h : Extends opened d d') (hp : d.Placed word name) :
    d'.Placed word name :=
  hp.imp (h.other word) (Or.imp h.precedes h.leads)

/-! ## Classes that were declared on the way -/

/-- Between two states every class that is new is reached from some words, and the words of its fields
are placed, but for the classes that were pending before. -/
structure Placement (d d' : Declarations) (words : List String) : Prop where
  reached : ∀ name ∈ d'.classNames, name ∉ d.classNames → ∃ word ∈ words, d'.Leads word name
  placed : ∀ name ∈ d'.classNames, name ∉ d.classNames → ∀ word, d'.Mentions name word →
    d'.Placed word name ∨ word ∈ d.pending

theorem placement_of_subset (h : d'.classNames ⊆ d.classNames) (words : List String) :
    Placement d d' words :=
  ⟨fun _ hn hnew => absurd (h hn) hnew, fun _ hn hnew => absurd (h hn) hnew⟩

namespace Placement

variable {words more : List String}

theorem mono (h : Placement d d' words) (hw : words ⊆ more) : Placement d d' more := by
  refine ⟨fun name hn hnew => ?_, h.placed⟩
  obtain ⟨word, hm, hl⟩ := h.reached name hn hnew
  exact ⟨word, hw hm, hl⟩

/-- Two pieces behind one another. The second leaves alone what the first has declared, and finds the
same classes pending. -/
theorem append (h : Placement d d₁ words) (h' : Placement d₁ d' more)
    (he : Extends opened d₁ d') (ho : opened ⊆ d.classNames) (hp : d₁.pending = d.pending) :
    Placement d d' (words ++ more) := by
  refine ⟨fun name hn hnew => ?_, fun name hn hnew word hm => ?_⟩
  · by_cases hfirst : name ∈ d₁.classNames
    · obtain ⟨word, hw, hl⟩ := h.reached name hfirst hnew
      exact ⟨word, List.mem_append_left _ hw, he.leads hl⟩
    · obtain ⟨word, hw, hl⟩ := h'.reached name hn hfirst
      exact ⟨word, List.mem_append_right _ hw, hl⟩
  · by_cases hfirst : name ∈ d₁.classNames
    · have hm₁ := he.fixed name word hfirst (fun hm => hnew (ho hm)) hm
      exact (h.placed name hfirst hnew word hm₁).imp_left he.placed
    · exact hp ▸ h'.placed name hn hfirst word hm

/-- A field of a class is translated and added to it: the class leads to all that is new. -/
theorem addField {field : Field} (h : Placement d d₁ (identifiers field.type))
    (hn : name ∈ d.classNames) (hsub : d.classNames ⊆ d₁.classNames) :
    Placement d (d₁.addField name field) [name] := by
  have he := extends_addField d₁ name field
  refine ⟨fun other ho hnew => ?_, fun other ho hnew word hm => ?_⟩
  · rw [classNames_addField] at ho
    obtain ⟨word, hw, hl⟩ := h.reached other ho hnew
    refine ⟨name, List.mem_singleton_self _, .head ?_ (he.leads hl)⟩
    exact mentions_addField.mpr (.inr ⟨rfl, hsub hn, hw⟩)
  · rw [classNames_addField] at ho
    rcases mentions_addField.mp hm with hm | ⟨rfl, -⟩
    · exact (h.placed other ho hnew word hm).imp_left he.placed
    · exact absurd hn hnew

/-- A class is declared, filled and completed. What its fields mention is completed before it, or was
pending when it was declared, but for the class itself. -/
theorem completeClass {d₂ : Declarations} (h : Placement d₁ d₂ [name]) (ht : d₂.Tidy)
    (hnames : d₁.classNames = d.classNames ++ [name]) (hpending : d₁.pending = d.pending ++ [name])
    (hkept : d₂.pending = d₁.pending) : Placement d (d₂.completeClass name) [name] := by
  have hother {other : String} (hnew : other ∉ d.classNames) (hne : other ≠ name) :
      other ∉ d₁.classNames := by
    simp [hnames, hnew, hne]
  have hself {word other : String} (hl : d₂.Leads name other) (hw : word ∈ d₁.pending) :
      (d₂.completeClass name).Placed word other ∨ word ∈ d.pending := by
    rw [hpending] at hw
    rcases List.mem_append.mp hw with hw | hw
    · exact .inr hw
    · exact .inl (.inr (.inr (List.mem_singleton.mp hw ▸ hl)))
  refine ⟨fun other ho hnew => ⟨name, List.mem_singleton_self _, ?_⟩,
    fun other ho hnew word hm => ?_⟩
  · by_cases hne : other = name
    · rw [hne]
      exact .refl
    · obtain ⟨word, hw, hl⟩ := h.reached other ho (hother hnew hne)
      exact List.mem_singleton.mp hw ▸ hl
  · by_cases hne : other = name
    · subst hne
      rcases ht.mentions_cases hm with hw | hw | hw
      · exact .inl (.inl hw)
      · exact .inl (.inr (.inl ((List.singleton_sublist.mpr hw).append (List.Sublist.refl _))))
      · exact hself .refl (hkept ▸ hw)
    · have hnew₁ := hother hnew hne
      rcases h.placed other ho hnew₁ word hm with hp | hw
      · exact .inl (hp.imp_right (Or.imp_left fun hp => hp.trans (List.sublist_append_left _ _)))
      · obtain ⟨first, hfirst, hl⟩ := h.reached other ho hnew₁
        exact hself (List.mem_singleton.mp hfirst ▸ hl) hw

end Placement

end Declarations

/-! ## Words of composed expressions -/

theorem identifiers_group {expr : String} (h : Bare expr) :
    identifiers (group expr) = identifiers expr := by
  unfold group
  split
  · exact identifiers_parentheses h
  · rfl

theorem Bare.group {expr : String} (h : Bare expr) : Bare (group expr) := by
  unfold Baml.group
  split
  · exact (Bare.append (by simp [Bare]) h).append (by simp [Bare])
  · exact h

theorem identifiers_builtin {expr : String} (h : expr ∈ builtins) : identifiers expr = [expr] :=
  identifiers_word (builtin_word h).1 (builtin_word h).2

theorem identifiers_typeName {name : String} (h : Text.isTypeName name.toList = true) :
    identifiers name = [name] :=
  identifiers_word (typeName_word h).1 (typeName_word h).2

theorem mem_identifiers_orNull {expr word : String} (h : Bare expr) :
    word ∈ identifiers (Translation.orNull expr) ↔ word ∈ identifiers expr ∨ word = "null" := by
  have hnull := identifiers_builtin (show "null" ∈ builtins by decide)
  unfold Translation.orNull
  split
  · rename_i he
    rw [he, hnull]
    simp
  · have hbar : identifiers (group expr ++ " | null") = identifiers expr ++ ["null"] := by
      rw [← identifiers_group h, ← hnull, ← identifiers_alternatives h.group, String.append_assoc]
      rfl
    rw [hbar]
    simp

theorem mem_identifiers_join {parts : List String} (h : ∀ part ∈ parts, Bare part) {word : String} :
    word ∈ identifiers (Json.join " | " parts) ↔ ∃ part ∈ parts, word ∈ identifiers part := by
  induction parts with
  | nil => simp [Json.join, identifiers, tokens]
  | cons part rest ih =>
    obtain ⟨hpart, hrest⟩ := List.forall_mem_cons.mp h
    cases rest with
    | nil => simp [Json.join]
    | cons next more =>
      have hjoin : Json.join " | " (part :: next :: more) =
          part ++ " | " ++ Json.join " | " (next :: more) := rfl
      rw [hjoin, identifiers_alternatives hpart, List.mem_append, ih hrest]
      simp

/-! ## One step of the translator -/

namespace Translation

open Declarations (Tidy Keeps Extends Placement placement_of_subset)

/-- A translation of nodes that places what it declares, by way of the expression it returns. -/
def Places (inside : Node → NameHint → Translation String) : Prop :=
  ∀ node hint d expr d', Tidy d → Returns (inside node hint) d expr d' →
    Placement d d' (identifiers expr)

variable {g : Graph} {s : Settings.Translator} {inside : Node → NameHint → Translation String}
variable {d d₁ d' : Declarations} {hint : NameHint} {expr name : String}

/-- What is known of a part that returns. -/
theorem extends_inside (hi : Steady inside) (hc : Completes inside) (ht : Tidy d) {node : Node}
    (hr : Returns (inside node hint) d expr d') :
    Extends [] d d' ∧ Keeps d d' ∧ Sealed d' expr := by
  obtain ⟨hk, hs⟩ := hc _ _ _ _ _ ht hr
  exact ⟨(hi.returns hr).extends hk.tidy [], hk, hs⟩

theorem fields_places (hi : Steady inside) (hc : Completes inside) (hp : Places inside)
    {members : List (String × Node)} :
    ∀ {used : List String} {d : Declarations}, Tidy d → name ∈ d.classNames →
      Returns (fields s inside name used members) d () d' →
      Extends [name] d d' ∧ Keeps d d' ∧ Placement d d' [name] := by
  induction members with
  | nil =>
    intro used d ht _ hr
    cases returns_fields_nil.mp hr
    exact ⟨.refl _ _, .refl ht, placement_of_subset (List.Subset.refl _) _⟩
  | cons member rest ih =>
    obtain ⟨key, node⟩ := member
    intro used d ht hn hr
    obtain ⟨peeled, type, d₁, -, hin, hrest⟩ := returns_fields_cons.mp hr
    obtain ⟨he, hk, hs⟩ := extends_inside hi hc ht hin
    have hone : Placement d (d₁.addField name (newField used key type peeled)) [name] :=
      (hp _ _ _ _ _ ht hin).addField hn he.classNames
    have hadded : Keeps d₁ (d₁.addField name (newField used key type peeled)) :=
      Declarations.addField_keeps hk.tidy hs name
    have he₂ := (he.mono (List.nil_subset _)).trans
      (Declarations.extends_addField d₁ name (newField used key type peeled))
    obtain ⟨he', hk', hmore⟩ := ih hadded.tidy (he₂.classNames hn) hrest
    refine ⟨he₂.trans he', (hk.trans hadded).trans hk', (hone.append hmore he' ?_ ?_).mono ?_⟩
    · simpa using hn
    · exact hadded.pending.trans hk.pending
    · simp

theorem options_places (hi : Steady inside) (hc : Completes inside) (hp : Places inside)
    {nodes : List Node} :
    ∀ {index : Nat} {parts : List String} {d : Declarations}, Tidy d →
      Returns (options inside hint index nodes) d parts d' →
      Extends [] d d' ∧ Placement d d' (parts.flatMap identifiers) := by
  induction nodes with
  | nil =>
    intro index parts d _ hr
    obtain ⟨rfl, rfl⟩ := returns_options_nil.mp hr
    exact ⟨.refl _ d, placement_of_subset (List.Subset.refl _) _⟩
  | cons node rest ih =>
    intro index parts d ht hr
    obtain ⟨first, others, d₁, hin, hrest, rfl⟩ := returns_options_cons.mp hr
    obtain ⟨he, hk, -⟩ := extends_inside hi hc ht hin
    obtain ⟨he', hmore⟩ := ih hk.tidy hrest
    exact ⟨he.trans he', (hp _ _ _ _ _ ht hin).append hmore he' (List.nil_subset _) hk.pending⟩

/-- A class for an object, from its declaration to its completion. -/
theorem object_places (hi : Steady inside) (hc : Completes inside) (hp : Places inside)
    {members : List (String × Node)} (ht : Tidy d) {text : String}
    (hd : d.declareClass text = (name, d₁)) {ready : Declarations} (hready : Keeps d₁ ready)
    (hclasses : ready.classes = d₁.classes) {d₂ : Declarations}
    (hf : Returns (fields s inside name [] members) ready () d₂) :
    Placement d (d₂.completeClass name) [name] := by
  obtain ⟨-, -, hpending, -, -⟩ := Declarations.declareClass_pends ht hd
  have hnames : ready.classNames = d.classNames ++ [name] := by
    rw [Declarations.classNames, hclasses]
    cases hd
    simp [Declarations.classNames]
  have hn : name ∈ ready.classNames := by simp [hnames]
  obtain ⟨-, hk, hplacement⟩ := fields_places hi hc hp hready.tidy hn hf
  exact hplacement.completeClass hk.tidy hnames (hready.pending.trans hpending) hk.pending

/-- The words of what stands for an object: its class, and null if it may be that. -/
theorem identifiers_object (hc : 0 ≤ d.counter) {text : String}
    (hd : d.declareClass text = (name, d₁)) :
    Bare name ∧ identifiers name = [name] ∧ identifiers (name ++ " | null") = [name, "null"] := by
  have htype : Text.isTypeName name.toList = true := by
    cases hd
    exact Declarations.isTypeName_uniqueName hc text
  have hb : Bare name := fun hq => absurd ((typeName_word htype).2 _ hq) (by decide)
  have hname := identifiers_typeName htype
  have hnull := identifiers_builtin (show "null" ∈ builtins by decide)
  refine ⟨hb, hname, ?_⟩
  have hsplit : name ++ " | null" = name ++ " | " ++ "null" := by rw [String.append_assoc]; rfl
  rw [hsplit, identifiers_alternatives hb, hname, hnull]
  rfl

theorem core_places (hi : Steady inside) (hc : Completes inside) (hp : Places inside) {node : Node}
    (ht : Tidy d) (hr : Returns (core g s inside node hint) d expr d') :
    Placement d d' (identifiers expr) := by
  have hsame (words : List String) : Placement d d words :=
    placement_of_subset (List.Subset.refl _) words
  cases core_cases hr with
  | object hd hf =>
    obtain ⟨text, -, hd⟩ := returns_declareClass.mp hd
    obtain ⟨ht₁, -⟩ := Declarations.declareClass_pends ht hd
    obtain ⟨-, hwords, -⟩ := identifiers_object ht.counter hd
    rw [hwords]
    exact object_places hi hc hp ht hd (.refl ht₁) rfl hf
  | primitive | literal | strings | anyString | reused => exact hsame _
  | array _ _ hin =>
    have hb := (hc _ _ _ _ _ ht hin).2.bare
    rw [identifiers_brackets hb.group, identifiers_group hb]
    exact hp _ _ _ _ _ ht hin
  | names | literals =>
    refine placement_of_subset ?_ _
    exact List.Subset.refl d.classNames
  | record _ hkey hvalue =>
    obtain ⟨-, hk, hs⟩ := extends_inside hi hc ht hkey
    obtain ⟨he', -, hs'⟩ := extends_inside hi hc hk.tidy hvalue
    rw [identifiers_map hs.bare hs'.bare]
    exact ((hp _ _ _ _ _ ht hkey).append (hp _ _ _ _ _ hk.tidy hvalue) he' (List.nil_subset _)
      hk.pending).mono (List.subset_cons_self _ _)
  | union _ ho =>
    obtain ⟨-, hall⟩ := options_keeps hc ht ho
    obtain ⟨-, hplacement⟩ := options_places hi hc hp ht ho
    refine hplacement.mono fun word hw => ?_
    obtain ⟨part, hm, hw⟩ := List.mem_flatMap.mp hw
    exact (mem_identifiers_join fun part hm => (hall part hm).bare).mpr ⟨part, hm, hw⟩
  | bare _ hin => exact hp _ _ _ _ _ ht hin
  | @lazyObject _ _ _ ref _ _ _ _ _ d₁ _ _ _ _ _ hd htype hf =>
    obtain ⟨text, -, hd⟩ := returns_declareClass.mp hd
    obtain ⟨ht₁, -, -, -, hs⟩ := Declarations.declareClass_pends ht hd
    obtain ⟨-, hwords, hwithNull⟩ := identifiers_object ht.counter hd
    have hexpr : Sealed d₁ expr := by
      rw [htype]
      split
      · exact hs.withNull
      · exact hs
    have hready := Declarations.recordLazy_keeps ht₁ hexpr ref
    refine (object_places hi hc hp ht hd hready rfl hf).mono ?_
    rw [htype]
    split
    · rw [hwithNull]
      simp
    · rw [hwords]
      simp
  | lazyOther _ _ _ _ _ hin =>
    have hplacement := hp _ _ _ _ _ (ht.atDepth _) hin
    exact ⟨hplacement.reached, hplacement.placed⟩

theorem step_places (hi : Steady inside) (hc : Completes inside) (hp : Places inside) :
    Places (step g s inside) := by
  intro node hint d expr d' ht hr
  obtain ⟨peeled, type, -, hcore, rfl⟩ := returns_step.mp hr
  have hplacement := core_places hi hc hp ht hcore
  split
  · have hb := (core_completes hc ht hcore).2.bare
    exact hplacement.mono fun word hw => (mem_identifiers_orNull hb).mpr (.inl hw)
  · exact hplacement

theorem within_places (g : Graph) (s : Settings.Translator) (nesting : Nat) :
    Places (within g s nesting) := by
  induction nesting with
  | zero => intro node hint d expr d' _ hr; exact (returns_throw hr).elim
  | succ nesting ih =>
    exact step_places (within_steady g s nesting) (within_completes g s nesting) ih

end Translation

end StructuredOutput.Baml
