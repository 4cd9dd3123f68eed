import Mathlib.Data.List.TakeWhile
import StructuredOutput.Baml.TypeText
import StructuredOutput.Proofs.Json.QuotedText
import StructuredOutput.Text.Name

/-! # Tokens of a type expression

A type expression is cut into words, quoted strings and signs; blanks only separate. Of two texts
that stand side by side the tokens are those of the first followed by those of the second, unless a
word or a string runs across the seam. -/
namespace StructuredOutput.Baml

open Text (isFieldChar)

inductive Token where
  | word (text : String)
  | quoted (text : String)
  | sign (c : Char)
deriving DecidableEq

namespace Token

/-- The tokens of a text. A quote that does not close is a sign. -/
def lex : List Char → List Token
  | [] => []
  | c :: rest =>
    if c = '\x22' then
      match h : Json.decode rest with
      | some (text, behind) =>
        have := Json.decode_length h
        quoted (String.ofList text) :: lex behind
      | none => sign c :: lex rest
    else if isFieldChar c then
      word (String.ofList (c :: rest.takeWhile isFieldChar)) :: lex (rest.dropWhile isFieldChar)
    else if c = ' ' then lex rest
    else sign c :: lex rest
termination_by text => text.length
decreasing_by
  · simp; omega
  · simp
  · have := (List.dropWhile_suffix (l := rest) isFieldChar).length_le
    simp; omega
  · simp
  · simp

def word? : Token → Option String
  | word text => some text
  | _ => none

end Token

def tokens (expr : String) : List Token := Token.lex expr.toList

/-- The words of a type expression, quoted strings left out. -/
def identifiers (expr : String) : List String := (tokens expr).filterMap Token.word?

namespace Token

@[simp] theorem lex_nil : lex [] = [] := by rw [lex]

theorem lex_word {c : Char} {rest : List Char} (hc : isFieldChar c = true) :
    lex (c :: rest) = word (String.ofList (c :: rest.takeWhile isFieldChar)) ::
      lex (rest.dropWhile isFieldChar) := by
  have hq : c ≠ '\x22' := by rintro rfl; revert hc; decide
  rw [lex, if_neg hq, if_pos hc]

theorem lex_blank (rest : List Char) : lex (' ' :: rest) = lex rest := by
  rw [lex, if_neg (by decide), if_neg (by decide), if_pos rfl]

theorem lex_sign {c : Char} {rest : List Char} (hc : isFieldChar c = false) (hq : c ≠ '\x22')
    (hb : c ≠ ' ') : lex (c :: rest) = sign c :: lex rest := by
  rw [lex, if_neg hq, if_neg (by simp [hc]), if_neg hb]

theorem lex_quoted {text rest behind : List Char} (h : Json.decode rest = some (text, behind)) :
    lex ('\x22' :: rest) = quoted (String.ofList text) :: lex behind := by
  rw [lex, if_pos rfl]
  split
  · rename_i heq; rw [h] at heq; cases heq; rfl
  · rename_i heq; rw [h] at heq; cases heq

theorem takeWhile_append {α : Type} {p : α → Bool} (first : List α) {second : List α}
    (hs : ∀ c ∈ second.head?, p c = false) :
    (first ++ second).takeWhile p = first.takeWhile p ∧
      (first ++ second).dropWhile p = first.dropWhile p ++ second := by
  induction first with
  | nil =>
    cases second with
    | nil => exact ⟨rfl, rfl⟩
    | cons c rest =>
      have hc : p c = false := hs c rfl
      simp [hc]
  | cons c rest ih =>
    by_cases hc : p c = true
    · simp [hc, ih.1, ih.2]
    · simp [hc]

/-- Tokens of texts side by side, when the first has no quotes and the second does not go on with a
word. -/
theorem lex_append {first second : List Char} (hq : '\x22' ∉ first)
    (hs : ∀ c ∈ second.head?, isFieldChar c = false) :
    lex (first ++ second) = lex first ++ lex second := by
  induction hn : first.length using Nat.strongRecOn generalizing first with
  | ind n ih =>
    subst hn
    cases first with
    | nil => simp
    | cons c rest =>
      have hc : c ≠ '\x22' := fun he => hq (by simp [he])
      have hr : '\x22' ∉ rest := fun hm => hq (List.mem_cons_of_mem _ hm)
      rw [List.cons_append]
      by_cases hw : isFieldChar c = true
      · obtain ⟨ht, hd⟩ := takeWhile_append rest hs
        have hsuf := List.dropWhile_suffix (l := rest) isFieldChar
        have hlen := hsuf.length_le
        rw [lex_word hw, lex_word hw, ht, hd,
          ih _ (by simp; omega) (fun hm => hr (hsuf.mem hm)) rfl, List.cons_append]
      · have hw : isFieldChar c = false := by simpa using hw
        by_cases hb : c = ' '
        · subst hb
          rw [lex_blank, lex_blank, ih _ (by simp) hr rfl]
        · rw [lex_sign hw hc hb, lex_sign hw hc hb, ih _ (by simp) hr rfl, List.cons_append]

/-- A text of word characters is one word. -/
theorem lex_name {text : List Char} (hne : text ≠ []) (h : ∀ c ∈ text, isFieldChar c = true) :
    lex text = [word (String.ofList text)] := by
  obtain ⟨c, rest, rfl⟩ := List.exists_cons_of_ne_nil hne
  have hr : ∀ c ∈ rest, isFieldChar c = true := fun c hc => h c (List.mem_cons_of_mem _ hc)
  rw [lex_word (h c List.mem_cons_self), List.takeWhile_eq_self_iff.mpr hr,
    List.dropWhile_eq_nil_iff.mpr hr, lex_nil]

end Token

/-! ## Expressions put together -/

def Bare (expr : String) : Prop := '\x22' ∉ expr.toList

theorem Bare.append {a b : String} (ha : Bare a) (hb : Bare b) : Bare (a ++ b) := by
  unfold Bare at *
  rw [String.toList_append, List.mem_append]
  exact fun h => h.elim ha hb

theorem tokens_append {a b : String} (ha : Bare a)
    (hb : ∀ c ∈ b.toList.head?, isFieldChar c = false) :
    tokens (a ++ b) = tokens a ++ tokens b := by
  unfold tokens
  rw [String.toList_append, Token.lex_append ha hb]

/-- An alternative behind a bar. -/
theorem tokens_bar (expr : String) :
    tokens (" | " ++ expr) = .sign '|' :: tokens expr := by
  unfold tokens
  rw [String.toList_append]
  change Token.lex (' ' :: '|' :: ' ' :: expr.toList) = _
  rw [Token.lex_blank, Token.lex_sign (by decide) (by decide) (by decide), Token.lex_blank]

theorem tokens_alternatives {a b : String} (ha : Bare a) :
    tokens (a ++ " | " ++ b) = tokens a ++ .sign '|' :: tokens b := by
  rw [String.append_assoc, tokens_append ha (by simp [Text.isFieldChar]), tokens_bar]

theorem tokens_parentheses {expr : String} (h : Bare expr) :
    tokens ("(" ++ expr ++ ")") = .sign '(' :: tokens expr ++ [.sign ')'] := by
  have hopen : tokens ("(" ++ (expr ++ ")")) = .sign '(' :: tokens (expr ++ ")") := by
    unfold tokens
    rw [String.toList_append]
    exact Token.lex_sign (by decide) (by decide) (by decide)
  have hclose : tokens ")" = [.sign ')'] := by
    unfold tokens
    change Token.lex [')'] = _
    rw [Token.lex_sign (by decide) (by decide) (by decide), Token.lex_nil]
  rw [String.append_assoc, hopen, tokens_append h (by simp [Text.isFieldChar]), hclose]
  rfl

theorem tokens_brackets {expr : String} (h : Bare expr) :
    tokens (expr ++ "[]") = tokens expr ++ [.sign '[', .sign ']'] := by
  have hclose : tokens "[]" = [.sign '[', .sign ']'] := by
    unfold tokens
    change Token.lex ['[', ']'] = _
    rw [Token.lex_sign (by decide) (by decide) (by decide),
      Token.lex_sign (by decide) (by decide) (by decide), Token.lex_nil]
  rw [tokens_append h (by simp [Text.isFieldChar]), hclose]

theorem tokens_map {key value : String} (hk : Bare key) (hv : Bare value) :
    tokens ("map<" ++ key ++ ", " ++ value ++ ">") =
      .word "map" :: .sign '<' :: tokens key ++ .sign ',' :: tokens value ++ [.sign '>'] := by
  have hopen (rest : String) : tokens ("map<" ++ rest) =
      .word "map" :: .sign '<' :: tokens rest := by
    unfold tokens
    rw [String.toList_append]
    change Token.lex ('m' :: 'a' :: 'p' :: '<' :: rest.toList) = _
    rw [Token.lex_word (by decide)]
    simp only [List.takeWhile, List.dropWhile, show isFieldChar 'a' = true by decide,
      show isFieldChar 'p' = true by decide, show isFieldChar '<' = false by decide]
    rw [Token.lex_sign (by decide) (by decide) (by decide)]
  have hcomma (rest : String) : tokens (", " ++ rest) = .sign ',' :: tokens rest := by
    unfold tokens
    rw [String.toList_append]
    change Token.lex (',' :: ' ' :: rest.toList) = _
    rw [Token.lex_sign (by decide) (by decide) (by decide), Token.lex_blank]
  have hclose : tokens ">" = [.sign '>'] := by
    unfold tokens
    change Token.lex ['>'] = _
    rw [Token.lex_sign (by decide) (by decide) (by decide), Token.lex_nil]
  rw [String.append_assoc, String.append_assoc, String.append_assoc, hopen,
    tokens_append hk (by simp [Text.isFieldChar]), hcomma,
    tokens_append hv (by simp [Text.isFieldChar]), hclose]
  simp

theorem tokens_name {name : String} (hne : name ≠ "")
    (h : ∀ c ∈ name.toList, isFieldChar c = true) : tokens name = [.word name] := by
  unfold tokens
  rw [Token.lex_name (by simpa using hne) h, String.ofList_toList]

end StructuredOutput.Baml
