import StructuredOutput.Baml.Source
import StructuredOutput.Proofs.Translation.FieldNames
import StructuredOutput.Proofs.TypeText.Trees

/-! # The type in the line of a field

A line is read as a name, a type and attributes, of which the first begins with an at sign. No type holds
an at sign, so there is one place where the type ends, and the question mark of an optional field stands
there for the whole type. -/
namespace StructuredOutput.Baml

/-! ## Parts of a line -/

namespace Field

/-- The type as the line of a field shows it. -/
def shownType (f : Field) : String := if f.optional then group f.type ++ "?" else f.type

def attributes (f : Field) : String :=
  let key := (f.key.map Json.str).getD .null
  (if key.truthy then " @alias(" ++ key.quote ++ ")" else "") ++
    (if f.description.truthy then " @description(" ++ f.description.quote ++ ")" else "")

theorem line_eq (f : Field) : f.line = f.name ++ " " ++ f.shownType ++ f.attributes := by
  unfold line fieldText attributes
  rw [String.append_assoc]
  rfl

theorem attributes_cases (f : Field) :
    f.attributes.toList = [] ∨ ∃ rest, f.attributes.toList = ' ' :: '@' :: rest := by
  unfold attributes
  dsimp only
  split
  · simp only [String.toList_append]
    exact .inr ⟨_, rfl⟩
  · split
    · simp only [String.toList_append]
      exact .inr ⟨_, rfl⟩
    · exact .inl rfl

theorem tokens_line {f : Field} (hn : Text.isPlainName f.name.toList = true)
    (hb : Bare f.shownType) :
    tokens f.line = .word f.name :: (tokens f.shownType ++ tokens f.attributes) := by
  obtain ⟨hne, -, hchars⟩ := Text.isPlainName_iff.mp hn
  have hname : tokens f.name = [.word f.name] := tokens_name (by simpa using hne) hchars
  have hblank (rest : String) : tokens (" " ++ rest) = tokens rest := by
    unfold tokens
    rw [String.toList_append]
    exact Token.lex_blank _
  have hbehind : ∀ c ∈ f.attributes.toList.head?, Text.isFieldChar c = false := by
    rcases f.attributes_cases with h | ⟨rest, h⟩
    · simp [h]
    · rw [h]
      rintro c ⟨⟩
      rfl
  have hbare : Bare f.name := fun hq => absurd (hchars _ hq) (by decide)
  rw [line_eq, String.append_assoc, String.append_assoc,
    tokens_append hbare (by simp [Text.isFieldChar]), hname, hblank, tokens_append hb hbehind]
  rfl

theorem tokens_attributes (f : Field) : ∀ token ∈ (tokens f.attributes).head?,
    token = .sign '@' := by
  unfold tokens
  rcases f.attributes_cases with h | ⟨rest, h⟩
  · simp [h]
  · rw [h, Token.lex_blank, Token.lex_sign (by decide) (by decide) (by decide)]
    rintro token ⟨⟩
    rfl

end Field

/-! ## Reading a line -/

/-- The readings of a line: a name, the tree of a type, and attributes from the first at sign on. -/
inductive ParsesLine (line : String) : String → TypeTree → Prop
  | parts {name : String} {ts attributes : List Token} {t : TypeTree} :
      tokens line = .word name :: (ts ++ attributes) →
      (∀ token ∈ attributes.head?, token = .sign '@') → Parses .whole ts t → ParsesLine line name t

/-- No type holds an at sign. -/
theorem Parses.no_at {level : Level} {ts : List Token} {t : TypeTree} (h : Parses level ts t) :
    .sign '@' ∉ ts := by
  induction h with
  | word => simp
  | list _ ih | optional _ ih | parentheses _ ih => simp [ih]
  | map _ _ ihk ihv => simp [ihk, ihv]
  | single _ ih => exact ih
  | union _ _ ih ih' => simp [ih, ih']

/-- The type ends in front of the first at sign. -/
theorem takeWhile_type {ts attributes : List Token} (h : .sign '@' ∉ ts)
    (ha : ∀ token ∈ attributes.head?, token = .sign '@') :
    (ts ++ attributes).takeWhile (· ≠ .sign '@') = ts := by
  rw [(Token.takeWhile_append ts fun token hm => by simpa using ha token hm).1,
    List.takeWhile_eq_self_iff]
  intro token hm
  simpa using fun he : token = .sign '@' => h (he ▸ hm)

/-- Every reading of the line of a field has its name and a tree of the type that it shows. -/
theorem ParsesLine.shown {f : Field} (hn : Text.isPlainName f.name.toList = true)
    (hb : Bare f.shownType) (hp : ∃ t, Parses .whole (tokens f.shownType) t) {name : String}
    {t : TypeTree} (h : ParsesLine f.line name t) :
    name = f.name ∧ Parses .whole (tokens f.shownType) t := by
  obtain ⟨hline, hattributes, ht⟩ := h
  rw [f.tokens_line hn hb] at hline
  obtain ⟨hname, hrest⟩ := List.cons_eq_cons.mp hline
  obtain ⟨shown, hshown⟩ := hp
  have hsame := congrArg (List.takeWhile (· ≠ .sign '@')) hrest
  rw [takeWhile_type hshown.no_at f.tokens_attributes, takeWhile_type ht.no_at hattributes] at hsame
  exact ⟨(Token.word.inj hname).symm, hsame ▸ ht⟩

end StructuredOutput.Baml
