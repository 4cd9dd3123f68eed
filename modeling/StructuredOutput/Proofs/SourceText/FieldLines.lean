import StructuredOutput.Proofs.Agreement.ObjectClasses
import StructuredOutput.Proofs.SourceText.LineTypes
import StructuredOutput.Proofs.SourceText.Unambiguous

/-! # Reading the keys of an object off the lines of its class

A class is written with one line for each field. The key of a line is what its alias quotes, or its name
when it has no alias: the first at sign of a line belongs to the first attribute, because neither a name
nor a type holds one, and what an attribute quotes is escaped. An empty alias is not written, so the empty
key is the one that does not come back. -/
namespace StructuredOutput.Baml

open Schema (Graph Node)
open Translation (Returns objectClasses)

/-! ## Lines of a text -/

theorem splitOn_unlines {lines : List String} (h : ∀ line ∈ lines, OneLine line) :
    (unlines lines).toList.splitOn '\n' = lines.map String.toList ++ [[]] := by
  induction lines with
  | nil => rfl
  | cons line rest ih =>
    obtain ⟨hline, hrest⟩ := List.forall_mem_cons.mp h
    have hchars : (unlines (line :: rest)).toList = line.toList ++ '\n' :: (unlines rest).toList := by
      simp [unlines_chars]
    have hcut : ∀ c ∈ line.toList, (c == '\n') = false := by
      intro c hc
      simpa using fun he : c = '\n' => hline (he ▸ hc)
    rw [hchars, List.splitOn_eq_splitOnP,
      List.splitOnP_append_cons_of_forall_mem hcut _ (by simp), ← List.splitOn_eq_splitOnP,
      ih hrest]
    rfl

def fieldLines (text : String) : List String :=
  ((text.toList.splitOn '\n').drop 2).dropLast.dropLast.map fun line => String.ofList (line.drop 2)

theorem fieldLines_braced {head : String} {lines : List String} (hh : OneLine head)
    (h : ∀ line ∈ lines, OneLine line) : fieldLines (braced head lines) = lines := by
  have hopen : OneLine (head ++ " \x7b") := hh.append (by simp [OneLine])
  have hindent : ∀ line ∈ lines.map ("  " ++ ·), OneLine line := by
    intro line hm
    obtain ⟨inner, hi, rfl⟩ := List.mem_map.mp hm
    exact OneLine.append (by simp [OneLine]) (h inner hi)
  have hall : ∀ line ∈ ["", head ++ " \x7b"] ++ lines.map ("  " ++ ·) ++ ["\x7d"],
      OneLine line := by
    intro line hm
    simp only [List.mem_append, List.mem_cons, List.not_mem_nil, or_false] at hm
    rcases hm with ((rfl | rfl) | hm) | rfl
    · simp [OneLine]
    · exact hopen
    · exact hindent line hm
    · simp [OneLine]
  unfold fieldLines braced
  rw [splitOn_unlines hall]
  simp [Function.comp_def]

theorem fieldLines_classText {name : String} {lines : List String} (hn : OneLine name)
    (h : ∀ line ∈ lines, OneLine line) : fieldLines (classText name lines) = lines :=
  fieldLines_braced (OneLine.append (by simp [OneLine]) hn) h

/-! ## The key of a line -/

def quotedAlias? : List Char → Option String
  | '@' :: 'a' :: 'l' :: 'i' :: 'a' :: 's' :: '(' :: '\x22' :: rest =>
    (Json.decode rest).map fun decoded => String.ofList decoded.1
  | _ => none

/-- The key that the line of a field gives: its alias if it has one, else the name in front of its first
blank. -/
def keyOfLine (line : String) : String :=
  (quotedAlias? (line.toList.dropWhile (· ≠ '@'))).getD
    (String.ofList (line.toList.takeWhile (· ≠ ' ')))

theorem quotedAlias?_alias (key : String) (behind : List Char) :
    quotedAlias? ("@alias(".toList ++ (Json.quoteString key).toList ++ behind) = some key := by
  have hchars : "@alias(".toList ++ (Json.quoteString key).toList ++ behind =
      '@' :: 'a' :: 'l' :: 'i' :: 'a' :: 's' :: '(' :: '\x22' ::
        (Json.encode key.toList ++ '\x22' :: behind) := by
    simp [Json.quoteString]
  rw [hchars, quotedAlias?, Json.decode_encode, Option.map_some, String.ofList_toList]

/-- The type of a field does not hold the sign of an attribute. -/
theorem no_at_shownType {f : Field} (h : f.Legible) : '@' ∉ f.shownType.toList := by
  have htype {expr : String} (he : TypeText expr) : '@' ∉ expr.toList :=
    fun hm => absurd (he _ hm) (by decide)
  unfold Field.shownType
  split
  · rw [String.toList_append, List.mem_append, not_or]
    exact ⟨htype h.type.chars.group, by decide⟩
  · exact htype h.type.chars

/-- Neither the name nor the type of a field holds the sign of an attribute. -/
theorem dropWhile_line {f : Field} (h : f.Legible) (attributes : List Char) :
    (f.name.toList ++ ' ' :: f.shownType.toList ++ attributes).dropWhile (· ≠ '@') =
      attributes.dropWhile (· ≠ '@') := by
  refine List.dropWhile_append_of_pos fun c hc => ?_
  suffices hne : '@' ∉ f.name.toList ++ ' ' :: f.shownType.toList by
    simpa using fun he : c = '@' => hne (he ▸ hc)
  simp only [List.mem_append, List.mem_cons, not_or]
  exact ⟨fun hm => absurd (h.name _ hm) (by decide), by decide, no_at_shownType h⟩

/-- Reading the line of a field gives its alias, unless that is empty, and else its name. -/
theorem keyOfLine_line {f : Field} (h : f.Legible) :
    keyOfLine f.line = f.shownKey.getD f.name := by
  let described := if f.description.truthy then " @description(" ++ f.description.quote ++ ")" else ""
  have hline : f.line.toList = (f.name.toList ++ ' ' :: f.shownType.toList) ++
      (Text.mark " @alias(".toList f.shownKey ++ described.toList) := by
    unfold Field.line fieldText
    simp only [String.toList_append, mark_chars, Field.shownKey, List.append_assoc]
    rfl
  have hname : f.line.toList.takeWhile (· ≠ ' ') = f.name.toList := by
    have hword : ∀ c ∈ f.name.toList, decide (c ≠ ' ') = true :=
      fun c hc => by simpa using fun he : c = ' ' => absurd (h.name _ (he ▸ hc)) (by decide)
    rw [hline, List.append_assoc, List.takeWhile_append_of_pos hword, List.cons_append,
      List.takeWhile_cons_of_neg (by simp), List.append_nil]
  unfold keyOfLine
  rw [hname, hline, dropWhile_line h, String.ofList_toList]
  cases f.shownKey with
  | some key =>
    have halias : (Text.mark " @alias(".toList (some key) ++ described.toList).dropWhile (· ≠ '@') =
        "@alias(".toList ++ (Json.quoteString key).toList ++ (')' :: described.toList) := by
      simp [Text.mark]
    rw [halias, quotedAlias?_alias]
  | none =>
    have hnone : quotedAlias? (described.toList.dropWhile (· ≠ '@')) = none := by
      cases hd : f.description.truthy with
      | true => simp [described, hd, quotedAlias?]
      | false => simp [described, hd, quotedAlias?]
    rw [Text.mark, List.nil_append, hnone]

/-- The line of a field is one line. -/
theorem oneLine_line {f : Field} (h : f.Legible) : OneLine f.line := by
  have hname : OneLine f.name := fun hm => absurd (h.name _ hm) (by decide)
  have htype {expr : String} (he : TypeText expr) : OneLine expr :=
    fun hm => absurd (he _ hm) (by decide)
  have hattribute (word : String) (hw : OneLine word) (value : Json) :
      OneLine (if value.truthy then word ++ value.quote ++ ")" else "") := by
    split
    · exact (hw.append (Json.oneLine_quote value)).append (by simp [OneLine])
    · simp [OneLine]
  refine (((hname.append (by simp [OneLine])).append ?_).append
    (hattribute _ (by simp [OneLine]) _)).append (hattribute _ (by simp [OneLine]) _)
  split
  · exact (htype h.type.chars.group).append (by simp [OneLine])
  · exact htype h.type.chars

/-- A key other than the empty one comes back from the line of a field that is named after it. -/
theorem keyOfLine_iff {f : Field} {key : String} (h : f.Legible)
    (hplain : Text.isPlainName f.name.toList = true)
    (hkey : f.key = if f.name = key then none else some key) :
    keyOfLine f.line = key ↔ key ≠ "" := by
  have hname : f.name ≠ "" := by
    intro he
    rw [he] at hplain
    cases hplain
  rw [keyOfLine_line h, Field.shownKey, hkey]
  by_cases he : f.name = key
  · subst he
    simp [hname]
  · by_cases hempty : key = ""
    · subst hempty
      simp [he, Option.filter]
    · simp [he, hempty, Option.filter]

/-! ## The classes of objects -/

/-- What calls declare one after the other is legible. -/
theorem Reached.legible {d : Declarations} (h : Reached d) : d.Legible := by
  induction h with
  | start => exact Declarations.legible_empty
  | call _ hr ih =>
    exact (Translation.within_prints _ _ _ _ _ _ _ _ ih (Translation.returns_translate.mp hr)).1

/-- A class that some translation declares for an object with the given keys, behind whatever calls have
been made before. -/
inductive ClassOf (keys : List String) (c : Class) : Prop
  | met {g : Graph} {s : Settings.Translator} {node : Node} {hint : NameHint} {expr : String}
      {d d' : Declarations} {o : Translation.ObjectClass} :
      Reached d → Returns (translate g s node hint) d expr d' →
      o ∈ objectClasses g s node hint d → o.members.map (·.1) = keys →
      d'.class? o.name = some c → ClassOf keys c

namespace ClassOf

variable {keys keys' : List String} {c c' : Class}

theorem named (h : ClassOf keys c) : NamedAfter keys c.fields := by
  obtain ⟨-, hr, hm, rfl, hc⟩ := h
  obtain ⟨-, hall⟩ := Translation.objectClasses_named hr
  obtain ⟨c', hc', hnamed⟩ := hall _ hm
  cases hc.symm.trans hc'
  exact hnamed

theorem legible (h : ClassOf keys c) : OneLine c.name ∧ ∀ f ∈ c.fields, f.Legible := by
  obtain ⟨hd, hr, -, -, hc⟩ := h
  have hreached := Reached.call hd hr
  have hmem := Json.mem_of_find? hc
  obtain ⟨htidy, -⟩ := Declarations.Tidy.of_reached hreached
  refine ⟨fun hn => ?_, hreached.legible.fields _ hmem⟩
  have hword := htidy.typeNames _ (Declarations.mem_names.mpr (.inl ⟨c, hmem⟩))
  exact absurd ((typeName_word hword).2 _ (htidy.own _ hmem ▸ hn)) (by decide)

/-- The lines give back every key but the empty one. -/
theorem keys_of_lines (h : ClassOf keys c) :
    List.Forall₂ (fun line key => keyOfLine line = key ↔ key ≠ "") (c.fields.map Field.line)
      keys := by
  have hnamed := h.named
  obtain ⟨hlength, heach⟩ := List.forall₂_iff_zip.mp hnamed.each
  rw [List.forall₂_map_left_iff]
  refine List.forall₂_iff_zip.mpr ⟨hlength, fun {f key} hz => ?_⟩
  have hm : f ∈ c.fields := (List.of_mem_zip hz).1
  exact keyOfLine_iff (h.legible.2 f hm) (hnamed.plain f hm) (heach hz).2

/-- Keys of which none is empty are what the lines give. -/
theorem map_keyOfLine (h : ClassOf keys c) (hne : "" ∉ keys) :
    (c.fields.map Field.line).map keyOfLine = keys := by
  have hforall := h.keys_of_lines
  obtain ⟨hlength, heach⟩ := List.forall₂_iff_zip.mp hforall
  rw [← List.forall₂_eq_eq_eq, List.forall₂_map_left_iff]
  refine List.forall₂_iff_zip.mpr ⟨hlength, fun {line key} hz => ?_⟩
  exact (heach hz).mpr fun he => hne (he ▸ (List.of_mem_zip hz).2)

end ClassOf

/-- For every object that a translation meets, the source text shows its class with exactly one line for
each key, in order, and reading a line gives the key back exactly if that is not the empty text. So two
objects that have no empty key, in one translation or in two, have the same keys if their classes have the
same lines. -/
theorem lines_keep_keys {g : Graph} {s : Settings.Translator} {node : Node} {hint : NameHint}
    {expr : String} {d d' : Declarations} (hd : Reached d)
    (hr : Returns (translate g s node hint) d expr d') {o : Translation.ObjectClass}
    (ho : o ∈ objectClasses g s node hint d) :
    ∃ c printed, d'.class? o.name = some c ∧ d'.completed = .ok printed ∧ c ∈ printed ∧
      fieldLines (classText c.name (c.fields.map Field.line)) = c.fields.map Field.line ∧
      List.Forall₂ (fun line key => keyOfLine line = key ↔ key ≠ "") (c.fields.map Field.line)
        (o.members.map (·.1)) ∧
      ∀ keys' c', ClassOf keys' c' → "" ∉ o.members.map (·.1) → "" ∉ keys' →
        c.fields.map Field.line = c'.fields.map Field.line → o.members.map (·.1) = keys' := by
  obtain ⟨-, hall⟩ := Translation.objectClasses_named hr
  obtain ⟨c, hc, -⟩ := hall o ho
  have hclass : ClassOf (o.members.map (·.1)) c := .met hd hr ho rfl hc
  obtain ⟨htidy, hpending⟩ := Declarations.Tidy.of_reached (.call hd hr)
  obtain ⟨printed, hprinted, hperm, -⟩ := htidy.completed hpending
  have hshown : c ∈ printed := hperm.symm.subset (List.mem_map_of_mem (Json.mem_of_find? hc))
  refine ⟨c, printed, hc, hprinted, hshown, ?_, hclass.keys_of_lines, ?_⟩
  · obtain ⟨hname, hfields⟩ := hclass.legible
    refine fieldLines_classText hname fun line hm => ?_
    obtain ⟨f, hf, rfl⟩ := List.mem_map.mp hm
    exact oneLine_line (hfields f hf)
  · intro keys' c' hclass' hne hne' hsame
    rw [← hclass.map_keyOfLine hne, hsame, hclass'.map_keyOfLine hne']

def textsUnder (keys : List String) : Node :=
  .object .null (keys.map fun key => (key, .primitive .null (.str "string")))

/-- Keys with a quote and with a line end. -/
theorem lines_keep_keys_escaped : ∃ (d : Declarations) (c : Class),
    Returns (translate ⟨[]⟩ {} (textsUnder ["say \x22", "two\nlines"]) .none) {} "Obj" d ∧
      d.class? "Obj" = some c ∧
      c.fields.map Field.line =
        ["say__ string @alias(\x22say \\\x22\x22)", "two_lines string @alias(\x22two\\nlines\x22)"] ∧
      List.Forall₂ (fun line key => keyOfLine line = key ↔ key ≠ "") (c.fields.map Field.line)
        ["say \x22", "two\nlines"] := by
  have hr : Returns (translate ⟨[]⟩ {} (textsUnder ["say \x22", "two\nlines"]) .none) {} "Obj"
    (Translation.after (translate ⟨[]⟩ {} (textsUnder ["say \x22", "two\nlines"]) .none) {}) := rfl
  obtain ⟨c, printed, hc, -, -, -, hkeys, -⟩ := lines_keep_keys .start hr List.mem_cons_self
  refine ⟨_, c, hr, hc, ?_, hkeys⟩
  cases hc
  decide

def emptyKeySchema : Json :=
  .obj [("type", .str "object"), ("properties", .obj [("", .obj [("type", .str "string")])]),
    ("required", .arr [.str ""])]

/-- The empty key is lost: the line of its field has no alias and gives the key `field_`. -/
theorem empty_key_lost : ∃ (root : Node) (g : Graph) (d : Declarations) (c : Class),
    Schema.Document.read 0 emptyKeySchema = .ok (root, g) ∧
      Returns (translate g {} root (.text "Root")) {} "Root" d ∧
      (objectClasses g {} root (.text "Root") {}).map (fun o => (o.name, o.members.map (·.1))) =
        [("Root", [""])] ∧
      d.class? "Root" = some c ∧ c.fields.map Field.key = [some ""] ∧
      c.fields.map Field.line = ["field_ string"] ∧
      (c.fields.map Field.line).map keyOfLine = ["field_"] := by
  have hread : Schema.Document.read 0 emptyKeySchema = .ok (textsUnder [""], ⟨[]⟩) := by cbv
  refine ⟨_, _, _, _, hread, rfl, rfl, rfl, rfl, by decide, by decide⟩

end StructuredOutput.Baml
