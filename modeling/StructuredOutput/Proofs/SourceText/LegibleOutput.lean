import StructuredOutput.Proofs.Json.OneLine
import StructuredOutput.Proofs.SourceText.LegibleTypes
import StructuredOutput.Proofs.Translation.ClosedOutput

/-! # What a translation declares is legible

Whatever a translation declares can be told apart in a source text: the values of an enum are
identifiers, an alias stands on one line, a field is named by a word, and its type shows where it
ends. -/
namespace StructuredOutput.Baml

open Schema (Graph Node Ref)
open Text (isFieldChar)

def IsWord (text : String) : Prop := ∀ c ∈ text.toList, isFieldChar c = true

theorem IsWord.append {a b : String} (ha : IsWord a) (hb : IsWord b) : IsWord (a ++ b) := by
  intro c hc
  rw [String.toList_append] at hc
  exact (List.mem_append.mp hc).elim (ha c) (hb c)

theorem isWord_fieldName (key : String) : IsWord (Text.fieldName key) := by
  have hname : ∀ c ∈ key.toList.map (fun c => if isFieldChar c then c else '_'),
      isFieldChar c = true := by
    intro c hc
    obtain ⟨b, -, rfl⟩ := List.mem_map.mp hc
    split
    · assumption
    · decide
  unfold Text.fieldName
  dsimp only
  split
  · refine IsWord.append (fun c hc => ?_) fun c hc => hname c (by simpa using hc)
    exact List.all_eq_true.mp (by decide : ("field_".toList.all isFieldChar) = true) c hc
  · exact fun c hc => hname c (by simpa using hc)

theorem isWord_toString (n : Nat) : IsWord (toString n) := by
  intro c hc
  rw [Nat.toString_eq_ofList_toDigits, String.toList_ofList] at hc
  have hd := Nat.isDigit_of_mem_toDigits (by decide) (by decide) hc
  simp [isFieldChar, Char.isAlphanum, hd]

theorem isWord_freeField (used : List String) {base : String} (h : IsWord base) :
    IsWord (Translation.freeField used base) := by
  unfold Translation.freeField
  split
  · dsimp only
    cases hf : ((List.range (used.length + 1)).map fun n => base ++ "_" ++ toString (n + 1)).find?
        fun name => !used.contains name with
    | none => exact h
    | some name =>
      obtain ⟨n, -, rfl⟩ := List.mem_map.mp (List.mem_of_find?_eq_some hf)
      refine (h.append fun c hc => ?_).append (isWord_toString (n + 1))
      exact List.all_eq_true.mp (by decide : ("_".toList.all isFieldChar) = true) c hc
  · exact h

structure Field.Legible (f : Field) : Prop where
  name : IsWord f.name
  type : Baml.Legible f.type

namespace Declarations

/-- Whether everything that is declared, and whatever is declared next, can be told apart in a source
text. -/
structure Legible (d : Declarations) : Prop where
  values : ∀ entry ∈ d.enums, ∀ value ∈ entry.2, ∃ text, value = .str text ∧
    Text.isIdentifier text = true
  aliases : ∀ entry ∈ d.aliases, OneLine entry.2
  fields : ∀ entry ∈ d.classes, ∀ field ∈ entry.2.fields, field.Legible
  lazies : ∀ entry ∈ d.lazies, Baml.Legible entry.2
  counter : 0 ≤ d.counter

theorem legible_empty : Legible {} := by
  constructor <;> simp

namespace Legible

variable {d : Declarations}

theorem counter_uniqueName (h : d.Legible) (hint : String) : 0 ≤ (d.uniqueName hint).2 :=
  Int.le_trans h.counter (Declarations.uniqueName_counter d hint)

theorem declareClass (h : d.Legible) (hint : String) : (d.declareClass hint).2.Legible := by
  refine ⟨h.values, h.aliases, fun entry he field hf => ?_, h.lazies, h.counter_uniqueName hint⟩
  rcases List.mem_append.mp he with he | he
  · exact h.fields entry he field hf
  · rw [List.mem_singleton.mp he] at hf
    cases hf

theorem declareEnum (h : d.Legible) (hint : String) {values : List Json}
    (hv : ∀ value ∈ values, ∃ text, value = .str text ∧ Text.isIdentifier text = true) :
    (d.declareEnum hint values).2.Legible := by
  refine ⟨fun entry he => ?_, h.aliases, h.fields, h.lazies, h.counter_uniqueName hint⟩
  rcases List.mem_append.mp he with he | he
  · exact h.values entry he
  · rw [List.mem_singleton.mp he]
    exact hv

theorem declareAlias (h : d.Legible) (hint : String) {expr : String} (hl : OneLine expr) :
    (d.declareAlias hint expr).2.Legible := by
  refine ⟨h.values, fun entry he => ?_, h.fields, h.lazies, h.counter_uniqueName hint⟩
  rcases List.mem_append.mp he with he | he
  · exact h.aliases entry he
  · rw [List.mem_singleton.mp he]
    exact hl

theorem addField (h : d.Legible) {field : Field} (hf : field.Legible) (name : String) :
    (d.addField name field).Legible := by
  refine ⟨h.values, h.aliases, fun entry he f hm => ?_, h.lazies, h.counter⟩
  obtain ⟨c, hc, -, hall⟩ := mem_addField he
  rcases hall f hm with hm | rfl
  · exact h.fields _ hc f hm
  · exact hf

theorem recordLazy (h : d.Legible) {expr : String} (hl : Baml.Legible expr) (ref : Ref) :
    (d.recordLazy ref expr).Legible := by
  refine ⟨h.values, h.aliases, h.fields, fun entry he => ?_, h.counter⟩
  rcases List.mem_append.mp he with he | he
  · exact h.lazies entry (List.mem_filter.mp he).1
  · rw [List.mem_singleton.mp he]
    exact hl

/-- Neither the order nor the depth is shown by itself. -/
theorem completeClass (h : d.Legible) (name : String) : (d.completeClass name).Legible :=
  ⟨h.values, h.aliases, h.fields, h.lazies, h.counter⟩

theorem atDepth (h : d.Legible) (depth : Int) : Legible { d with depth } :=
  ⟨h.values, h.aliases, h.fields, h.lazies, h.counter⟩

theorem lazy? (h : d.Legible) {ref : Ref} {expr : String} (hl : d.lazy? ref = some expr) :
    Baml.Legible expr := by
  obtain ⟨entry, he, rfl⟩ := Option.map_eq_some_iff.mp hl
  exact h.lazies entry (List.mem_of_find?_eq_some he)

theorem uniqueName (h : d.Legible) (hint : String) : Baml.Legible (d.uniqueName hint).1 :=
  .typeName (isTypeName_uniqueName h.counter hint)

end Legible

end Declarations

/-! ## One step of the translator -/

namespace Translation

/-- A translation of nodes that declares only what is legible and returns legible types. -/
def Prints (inside : Node → NameHint → Translation String) : Prop :=
  ∀ node hint d expr d', d.Legible → Returns (inside node hint) d expr d' →
    d'.Legible ∧ Legible expr

variable {g : Graph} {s : Settings.Translator} {inside : Node → NameHint → Translation String}
variable {d d' : Declarations} {hint : NameHint} {expr : String}

theorem fields_print (hi : Prints inside) {name : String} {members : List (String × Node)} :
    ∀ {used : List String} {d : Declarations}, d.Legible →
      Returns (fields s inside name used members) d () d' → d'.Legible := by
  induction members with
  | nil =>
    intro used d h hr
    exact returns_fields_nil.mp hr ▸ h
  | cons member rest ih =>
    obtain ⟨key, node⟩ := member
    intro used d h hr
    obtain ⟨peeled, type, d₁, -, hin, hrest⟩ := returns_fields_cons.mp hr
    obtain ⟨h₁, htype⟩ := hi _ _ _ _ _ h hin
    have hfield : (newField used key type peeled).Legible :=
      ⟨isWord_freeField used (isWord_fieldName key), htype⟩
    exact ih (h₁.addField hfield name) hrest

theorem options_print (hi : Prints inside) {nodes : List Node} :
    ∀ {index : Nat} {parts : List String} {d : Declarations}, d.Legible →
      Returns (options inside hint index nodes) d parts d' →
      d'.Legible ∧ (∀ part ∈ parts, Legible part) ∧ parts.length = nodes.length := by
  induction nodes with
  | nil =>
    intro index parts d h hr
    obtain ⟨rfl, rfl⟩ := returns_options_nil.mp hr
    exact ⟨h, by simp, rfl⟩
  | cons node rest ih =>
    intro index parts d h hr
    obtain ⟨first, others, d₁, hin, hrest, rfl⟩ := returns_options_cons.mp hr
    obtain ⟨h₁, hfirst⟩ := hi _ _ _ _ _ h hin
    obtain ⟨h', hothers, hlength⟩ := ih h₁ hrest
    exact ⟨h', List.forall_mem_cons.mpr ⟨hfirst, hothers⟩, by simp [hlength]⟩

theorem class_prints {name : String} (h : d.Legible) (hd : Returns (declareClass hint) d name d') :
    d'.Legible ∧ Legible name := by
  obtain ⟨text, -, hc⟩ := returns_declareClass.mp hd
  have hlegible := h.declareClass text
  have hname := h.uniqueName text
  have he : d.declareClass text = ((d.uniqueName text).1, (d.declareClass text).2) := rfl
  rw [he] at hc
  cases hc
  exact ⟨hlegible, hname⟩

theorem allNames_identifiers {items : List Json} (h : allNames items = .ok true) :
    ∀ value ∈ items, ∃ text, value = .str text ∧ Text.isIdentifier text = true := by
  induction items with
  | nil => exact fun _ hm => nomatch hm
  | cons item rest ih =>
    cases item with
    | str text =>
      simp only [allNames] at h
      split at h
      · rename_i hi
        exact List.forall_mem_cons.mpr ⟨⟨text, rfl, hi⟩, ih h⟩
      · cases h
    | null | bool | int | float | arr | obj => cases h

theorem core_prints (hi : Prints inside) {node : Node} (h : d.Legible)
    (hr : Returns (core g s inside node hint) d expr d') : d'.Legible ∧ Legible expr := by
  cases core_cases hr with
  | object hc hf =>
    obtain ⟨h₁, hname⟩ := class_prints h hc
    exact ⟨(fields_print hi h₁ hf).completeClass _, hname⟩
  | primitive hp => exact ⟨h, .builtin (primitiveType_builtin hp)⟩
  | literal => exact ⟨h, .builtin (literalType_builtin _)⟩
  | strings => exact ⟨h, .brackets (.of_all (by decide))⟩
  | array _ _ hin =>
    obtain ⟨h', hinner⟩ := hi _ _ _ _ _ h hin
    exact ⟨h', .brackets hinner.chars.group⟩
  | anyString => exact ⟨h, .builtin (by decide)⟩
  | names _ _ _ hall =>
    exact ⟨h.declareEnum _ (allNames_identifiers hall), h.uniqueName _⟩
  | literals =>
    refine ⟨h.declareAlias _ (Json.oneLine_join (by simp [OneLine]) fun text hm => ?_),
      h.uniqueName _⟩
    obtain ⟨value, -, rfl⟩ := List.mem_map.mp hm
    exact Json.oneLine_quote value
  | record _ hkey hvalue =>
    obtain ⟨h₁, hk⟩ := hi _ _ _ _ _ h hkey
    obtain ⟨h', hv⟩ := hi _ _ _ _ _ h₁ hvalue
    exact ⟨h', .map hk.chars hv.chars⟩
  | union hne ho =>
    obtain ⟨h', hparts, hlength⟩ := options_print hi h ho
    refine ⟨h', .join (fun he => hne ?_) hparts⟩
    rw [he] at hlength
    exact List.length_eq_zero_iff.mp hlength.symm
  | bare _ hin => exact hi _ _ _ _ _ h hin
  | reused hl => exact ⟨h, h.lazy? hl⟩
  | lazyObject _ _ _ _ hc htype hf =>
    obtain ⟨h₁, hname⟩ := class_prints h hc
    have hexpr : Legible expr := by
      rw [htype]
      split
      · exact .withNull hname.chars
      · exact hname
    exact ⟨(fields_print hi (h₁.recordLazy hexpr _) hf).completeClass _, hexpr⟩
  | lazyOther hnone hres hpeel hother hdepth hin =>
    rename_i ref _ _ d₁
    obtain ⟨h₁, hexpr⟩ := hi _ _ _ _ _ (h.atDepth _) hin
    exact ⟨(h₁.atDepth (d₁.depth - 1)).recordLazy hexpr ref, hexpr⟩

theorem step_prints (hi : Prints inside) : Prints (step g s inside) := by
  intro node hint d expr d' h hr
  obtain ⟨peeled, type, -, hc, rfl⟩ := returns_step.mp hr
  obtain ⟨h', htype⟩ := core_prints hi h hc
  refine ⟨h', ?_⟩
  split
  · exact htype.orNull
  · exact htype

theorem within_prints (g : Graph) (s : Settings.Translator) (nesting : Nat) :
    Prints (within g s nesting) := by
  induction nesting with
  | zero => intro node hint d expr d' _ hr; exact (returns_throw hr).elim
  | succ nesting ih => exact step_prints ih

end Translation

end StructuredOutput.Baml
