import StructuredOutput.Proofs.Json.Literals
import StructuredOutput.Proofs.Translation.Cases

/-! # How an enumeration of strings is declared

Strings that can all stand as names are declared as an enum, any others as a union of literals. What is
written for the union gives the strings back, whatever they hold. -/
namespace StructuredOutput.Baml.Translation

variable {d d' : Declarations} {hint : NameHint} {values : List String}

theorem allNames_strings (values : List String) :
    allNames (values.map .str) = .ok (values.all Text.isIdentifier) := by
  induction values with
  | nil => rfl
  | cons value rest ih =>
    rw [List.map_cons, allNames, ih, List.all_cons]
    cases Text.isIdentifier value <;> rfl

def literalUnion (values : List String) : String := Json.join " | " (values.map Json.quoteString)

/-- The declaration for strings that are some. -/
theorem returns_enumType {name : String} (hne : values ≠ []) :
    Returns (enumType (.arr (values.map .str)) hint) d name d' ↔
      ∃ text, hint.textOr "Enum" = .ok text ∧
        (if values.all Text.isIdentifier then d.declareEnum text (values.map .str)
          else d.declareAlias text (literalUnion values)) = (name, d') := by
  have htruthy : (Json.arr (values.map .str)).truthy = true := by
    simpa [Json.truthy] using hne
  have hunion : Json.join " | " ((values.map Json.str).map Json.quote) = literalUnion values := by
    rw [List.map_map]
    rfl
  simp only [enumType, htruthy, Json.elements?, Bool.not_true, Bool.false_eq_true, if_false,
    returns_bind, returns_lift, Except.ok.injEq]
  constructor
  · rintro ⟨_, _, ⟨rfl, rfl⟩, plain, _, ⟨hp, rfl⟩, text, _, ⟨ht, rfl⟩, hd⟩
    rw [allNames_strings] at hp
    cases hp
    rw [hunion] at hd
    refine ⟨text, ht, ?_⟩
    split at hd
    · exact (if_pos ‹_›).trans (returns_modifyGet.mp hd)
    · exact (if_neg ‹_›).trans (returns_modifyGet.mp hd)
  · rintro ⟨text, ht, hd⟩
    refine ⟨_, d, ⟨rfl, rfl⟩, _, d, ⟨allNames_strings values, rfl⟩, text, d, ⟨ht, rfl⟩, ?_⟩
    rw [hunion]
    split at hd
    · rw [if_pos ‹_›]
      exact returns_modifyGet.mpr hd
    · rw [if_neg ‹_›]
      exact returns_modifyGet.mpr hd

/-- Strings are declared as an enum exactly if all of them are accepted as names. -/
theorem declares_enum_iff {name : String} (hne : values ≠ [])
    (h : Returns (enumType (.arr (values.map .str)) hint) d name d') :
    d'.enums = d.enums ++ [(name, values.map .str)] ↔
      ∀ value ∈ values, Text.isIdentifier value = true := by
  obtain ⟨text, -, hd⟩ := (returns_enumType hne).mp h
  rw [← List.all_eq_true]
  split at hd
  · rename_i hall
    cases hd
    exact ⟨fun _ => hall, fun _ => rfl⟩
  · rename_i hall
    cases hd
    refine ⟨fun he => ?_, fun ha => absurd ha hall⟩
    have := congrArg List.length he
    simp at this

/-- Strings of which some cannot stand as a name become an alias whose expression has no control
character and is cut into string literals in exactly one way: the literals are those of the strings, in
order. -/
theorem alias_reads_back (d : Declarations) (hn : ∃ value ∈ values, Text.isIdentifier value = false)
    (ht : ∀ shown, hint ≠ .shown shown) :
    ∃ name expr d', Returns (enumType (.arr (values.map .str)) hint) d name d' ∧
      d'.aliases = d.aliases ++ [(name, expr)] ∧ d'.enums = d.enums ∧ Json.ControlFree expr ∧
      ∀ literals decoded, Json.Literals " | " expr literals decoded ↔
        literals = values.map Json.quoteString ∧ decoded = values := by
  obtain ⟨text, htext⟩ : ∃ text, hint.textOr "Enum" = .ok text := by
    cases hint with
    | none => exact ⟨_, rfl⟩
    | text name => exact ⟨_, rfl⟩
    | shown value => exact absurd rfl (ht value)
  obtain ⟨value, hm, hv⟩ := hn
  have hne : values ≠ [] := List.ne_nil_of_mem hm
  have hall : values.all Text.isIdentifier = false := List.all_eq_false.mpr ⟨value, hm, by simp [hv]⟩
  have hcut : Json.Literals " | " (literalUnion values) (values.map Json.quoteString) values :=
    Json.literals_join " | " hne
  have hr : Returns (enumType (.arr (values.map .str)) hint) d
      (d.declareAlias text (literalUnion values)).1
      (d.declareAlias text (literalUnion values)).2 := by
    refine (returns_enumType hne).mpr ⟨text, htext, ?_⟩
    rw [hall, if_neg (by simp)]
  refine ⟨_, literalUnion values, _, hr, rfl, rfl, ?_, ?_⟩
  · refine Json.join_controlFree (by simp [Json.ControlFree]) fun text hm => ?_
    obtain ⟨value, -, rfl⟩ := List.mem_map.mp hm
    exact Json.quoteString_controlFree value
  · intro literals decoded
    constructor
    · exact fun h => h.unique hcut
    · rintro ⟨rfl, rfl⟩
      exact hcut

/-- Values with a separator between quotes, a backslash and a line end. -/
theorem alias_reads_back_separated : ∃ (name expr : String) (d : Declarations),
    Returns (enumType (.arr (["a\x22 | \x22b", "\\", "\n"].map .str)) .none) {} name d ∧
      d.aliases = [(name, expr)] ∧
      expr = "\x22a\\\x22 | \\\x22b\x22 | \x22\\\\\x22 | \x22\\n\x22" ∧
      ∀ literals decoded, Json.Literals " | " expr literals decoded ↔
        literals = ["\x22a\\\x22 | \\\x22b\x22", "\x22\\\\\x22", "\x22\\n\x22"] ∧
          decoded = ["a\x22 | \x22b", "\\", "\n"] := by
  have hn : ∃ value ∈ ["a\x22 | \x22b", "\\", "\n"], Text.isIdentifier value = false :=
    ⟨"\\", by simp, by decide⟩
  have ht : ∀ shown, NameHint.none ≠ .shown shown := fun _ h => nomatch h
  obtain ⟨name, expr, d, hr, ha, -, -, hread⟩ := alias_reads_back {} hn ht
  cases hr
  cases ha
  have hquoted : ["a\x22 | \x22b", "\\", "\n"].map Json.quoteString =
      ["\x22a\\\x22 | \\\x22b\x22", "\x22\\\\\x22", "\x22\\n\x22"] := by decide
  exact ⟨_, _, _, rfl, rfl, by decide, hquoted ▸ hread⟩

end StructuredOutput.Baml.Translation
