import StructuredOutput.Proofs.SourceText.FieldLines
import StructuredOutput.Proofs.Translation.Enumerations

/-! # The blocks of enums

An enum is written with one line for each value, holding the value as it is. So the block is well formed
as long as the values are plain names. The test for a name also accepts a plain name with one line feed
behind it, and such a value breaks its line. -/
namespace StructuredOutput

/-- No piece of a text that is cut at a character holds the character. -/
theorem not_mem_splitOn {c : Char} {text piece : List Char} (h : piece ∈ text.splitOn c) :
    c ∉ piece := by
  rw [List.splitOn_eq_splitOnP] at h
  induction text generalizing piece with
  | nil =>
    rw [List.splitOnP_nil, List.mem_singleton] at h
    simp [h]
  | cons b rest ih =>
    rw [List.splitOnP_cons_eq_if_modifyHead] at h
    obtain ⟨first, more, hs⟩ := List.exists_cons_of_ne_nil (List.splitOnP_ne_nil (· == c) rest)
    rw [hs] at h ih
    split at h
    · rcases List.mem_cons.mp h with rfl | h
      · simp
      · exact ih h
    · rename_i hb
      rcases List.mem_cons.mp h with rfl | h
      · rw [List.mem_cons, not_or]
        exact ⟨fun he => hb (by simp [he]), ih List.mem_cons_self⟩
      · exact ih (List.mem_cons_of_mem _ h)

namespace Text

/-- Whether a text is a plain name with one line feed behind it. -/
def IsBrokenName (text : String) : Prop :=
  ∃ name : String, isPlainName name.toList = true ∧ text = name ++ "\n"

theorem isIdentifier_iff {text : String} :
    isIdentifier text = true ↔ isPlainName text.toList = true ∨ IsBrokenName text := by
  simp only [isIdentifier, Bool.or_eq_true, Bool.and_eq_true, decide_eq_true_eq]
  refine or_congr_right ⟨?_, ?_⟩
  · rintro ⟨hlast, hplain⟩
    refine ⟨String.ofList text.toList.dropLast, by simpa using hplain, ?_⟩
    have hsplit := List.dropLast_append_getLast? '\n' hlast
    exact String.toList_inj.mp (by simpa using hsplit.symm)
  · rintro ⟨name, hplain, rfl⟩
    simpa using hplain

theorem oneLine_of_plain {text : String} (h : isPlainName text.toList = true) : OneLine text :=
  fun hm => absurd ((isPlainName_iff.mp h).2.2 _ hm) (by decide)

theorem IsBrokenName.not_oneLine {text : String} (h : IsBrokenName text) : ¬ OneLine text := by
  obtain ⟨name, -, rfl⟩ := h
  simp [OneLine]

end Text

namespace Baml

open Schema (Graph Node)
open Translation (Returns enumType)

theorem oneLine_of_fieldLines {text line : String} (h : line ∈ fieldLines text) : OneLine line := by
  obtain ⟨whole, hw, rfl⟩ := List.mem_map.mp h
  have hcut := List.mem_of_mem_drop (List.mem_of_mem_dropLast (List.mem_of_mem_dropLast hw))
  intro hm
  rw [String.toList_ofList] at hm
  exact not_mem_splitOn hcut (List.mem_of_mem_drop hm)

/-- The block of an enum has one line for each value and nothing else on it exactly if no value has a
line end. -/
theorem fieldLines_enumText {name : String} (hn : OneLine name) {values : List String} :
    fieldLines (enumText name values) = values ↔ ∀ value ∈ values, OneLine value := by
  constructor
  · intro h value hm
    exact oneLine_of_fieldLines (h.symm ▸ hm)
  · exact fieldLines_braced (OneLine.append (by simp [OneLine]) hn)

/-- Among values that are accepted as names, those with a line end are the names with a line feed behind
them. -/
theorem oneLine_values {values : List String}
    (hv : ∀ value ∈ values, Text.isIdentifier value = true) :
    ((∀ value ∈ values, OneLine value) ↔ ∀ value ∈ values, Text.isPlainName value.toList = true) ∧
      ((∀ value ∈ values, OneLine value) ↔ ∀ value ∈ values, ¬ Text.IsBrokenName value) := by
  refine ⟨forall₂_congr fun value hm => ⟨fun hl => ?_, Text.oneLine_of_plain⟩,
    forall₂_congr fun value hm => ⟨fun hl hb => hb.not_oneLine hl, fun hb => ?_⟩⟩
  · exact (Text.isIdentifier_iff.mp (hv value hm)).resolve_right fun hb => hb.not_oneLine hl
  · exact Text.oneLine_of_plain ((Text.isIdentifier_iff.mp (hv value hm)).resolve_right hb)

/-- A list of strings, given as the values of an enum. -/
theorem strings_of_values {items : List Json}
    (h : ∀ value ∈ items, ∃ text, value = .str text ∧ Text.isIdentifier text = true) :
    ∃ values : List String, items = values.map .str ∧
      ∀ value ∈ values, Text.isIdentifier value = true := by
  induction items with
  | nil => exact ⟨[], rfl, by simp⟩
  | cons item rest ih =>
    obtain ⟨⟨text, rfl, ht⟩, hrest⟩ := List.forall_mem_cons.mp h
    obtain ⟨values, rfl, hv⟩ := ih hrest
    exact ⟨text :: values, rfl, List.forall_mem_cons.mpr ⟨ht, hv⟩⟩

/-- The block of each enum stands in the source text. -/
theorem enumText_infix {enums classes : List String} {block function root : String}
    {aliases : List (String × String)} {client : Json} (h : block ∈ enums) :
    ∃ before after, sourceText enums aliases classes function root client =
      before ++ block ++ after := by
  obtain ⟨first, last, rfl⟩ := List.append_of_mem h
  refine ⟨targetText ++ String.join first, String.join last ++ aliasesText aliases ++
    String.join classes ++ functionText function root client, ?_⟩
  simp [← String.toList_inj, sourceText, String.toList_join]

/-- Strings are declared as an enum exactly if each is a plain name, with or without a line feed behind it.
So are the values of every enum that a run of calls has declared; each enum has its block in the source
text, and the lines between the braces are the values, one a line in order, exactly if all of them are
plain names: none of them is a name with a line feed behind it. -/
theorem enum_blocks_iff {g : Graph} {s : Settings.Translator} {node : Node} {hint : NameHint}
    {expr : String} {d d' : Declarations} (hd : Reached d)
    (hr : Returns (translate g s node hint) d expr d') :
    (∀ values hint d₁ name d₂, values ≠ [] →
      Returns (enumType (.arr (values.map .str)) hint) d₁ name d₂ →
        (d₂.enums = d₁.enums ++ [(name, values.map .str)] ↔
          ∀ value ∈ values, Text.isPlainName value.toList = true ∨ Text.IsBrokenName value)) ∧
      ∀ function root client, ∃ text, d'.render function root client = .ok text ∧
        ∀ entry ∈ d'.enums, ∃ values before after, entry.2 = values.map .str ∧
          text = before ++ enumText entry.1 values ++ after ∧
          (∀ value ∈ values, Text.isPlainName value.toList = true ∨ Text.IsBrokenName value) ∧
          (fieldLines (enumText entry.1 values) = values ↔
            ∀ value ∈ values, Text.isPlainName value.toList = true) ∧
          (fieldLines (enumText entry.1 values) = values ↔
            ∀ value ∈ values, ¬ Text.IsBrokenName value) := by
  refine ⟨fun values hint d₁ name d₂ hne h => ?_, fun function root client => ?_⟩
  · simp only [Translation.declares_enum_iff hne h, Text.isIdentifier_iff]
  have hreached := Reached.call hd hr
  obtain ⟨htidy, hpending⟩ := Declarations.Tidy.of_reached hreached
  obtain ⟨printed, hprinted, -⟩ := htidy.completed hpending
  refine ⟨_, Declarations.render_eq hprinted function root client, fun entry he => ?_⟩
  obtain ⟨values, hvalues, hnames⟩ := strings_of_values (hreached.legible.values entry he)
  have hname : OneLine entry.1 := fun hn => by
    have hword := htidy.typeNames _ (Declarations.mem_names.mpr (.inr (.inl ⟨entry.2, he⟩)))
    exact absurd ((typeName_word hword).2 _ hn) (by decide)
  have hblock : enumText entry.1 values = enumText entry.1 (entry.2.map Json.display) := by
    rw [hvalues, List.map_map]
    congr 1
    exact (List.map_id values).symm
  obtain ⟨before, after, htext⟩ := enumText_infix (List.mem_map_of_mem he)
  obtain ⟨hplain, hbroken⟩ := oneLine_values hnames
  refine ⟨values, before, after, hvalues, hblock ▸ htext, fun value hm => ?_, ?_, ?_⟩
  · exact Text.isIdentifier_iff.mp (hnames value hm)
  · exact (fieldLines_enumText hname).trans hplain
  · exact (fieldLines_enumText hname).trans hbroken

def oneOf (values : List String) : Node := .enumeration .null (.arr (values.map .str))

/-- The block of an enum of two names. -/
theorem enum_blocks_two : ∃ d, Returns (translate ⟨[]⟩ {} (oneOf ["a", "b_2"]) .none) {} "Enum" d ∧
    d.enums = [("Enum", [.str "a", .str "b_2"])] ∧
    ∃ text before after, d.render "GenRoot" "Enum" .null = .ok text ∧
      text = before ++ enumText "Enum" ["a", "b_2"] ++ after ∧
      fieldLines (enumText "Enum" ["a", "b_2"]) = ["a", "b_2"] := by
  have hr : Returns (translate ⟨[]⟩ {} (oneOf ["a", "b_2"]) .none) {} "Enum"
    (Translation.after (translate ⟨[]⟩ {} (oneOf ["a", "b_2"]) .none) {}) := rfl
  obtain ⟨-, hblocks⟩ := enum_blocks_iff .start hr
  obtain ⟨text, htext, hall⟩ := hblocks "GenRoot" "Enum" .null
  obtain ⟨values, before, after, hvalues, hin, -, hlines, -⟩ := hall _ List.mem_cons_self
  obtain rfl : ["a", "b_2"] = values :=
    List.map_injective_iff.mpr (fun _ _ h => Json.str.inj h) hvalues
  exact ⟨_, hr, rfl, text, before, after, htext, hin, hlines.mpr (by decide)⟩

def brokenSchema : Json := .obj [("enum", .arr [.str "a\n"])]

/-- The value is no plain name, but it is declared as an enum whose block has a line too many. -/
theorem enum_value_broken : ∃ (root : Node) (g : Graph) (d : Declarations),
    Schema.Document.read 0 brokenSchema = .ok (root, g) ∧
      Returns (translate g {} root (.text "Root")) {} "Root" d ∧
      d.enums = [("Root", [.str "a\n"])] ∧ Text.isPlainName "a\n".toList = false ∧
      fieldLines (enumText "Root" ["a\n"]) = ["a", ""] := by
  have hread : Schema.Document.read 0 brokenSchema = .ok (oneOf ["a\n"], ⟨[]⟩) := by cbv
  exact ⟨_, _, _, hread, rfl, rfl, rfl, by decide⟩

end Baml

end StructuredOutput
