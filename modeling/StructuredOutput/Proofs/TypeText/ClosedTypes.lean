import StructuredOutput.Baml.Translation
import StructuredOutput.Proofs.Translation.DeclaredNames
import StructuredOutput.Proofs.TypeText.Tokens

/-! # Closed type expressions

An expression is closed over some declarations when each word outside its quotes is a word of the
type language or a declared name. Each way in which the translator puts expressions together keeps
them closed, and an expression stays closed when more is declared. -/
namespace StructuredOutput.Baml

open Text (isFieldChar)

/-- The words of the type language: the primitive types and the word for maps. -/
def builtins : List String := "map" :: Translation.primitiveTypes.map (·.2)

/-- Whether every word of an expression belongs to the type language or is declared. -/
def Declarations.Closed (d : Declarations) (expr : String) : Prop :=
  ∀ word ∈ identifiers expr, word ∈ builtins ∨ word ∈ d.names

/-! ## Words of composed expressions -/

section Words

variable {a b : String}

theorem identifiers_alternatives (ha : Bare a) :
    identifiers (a ++ " | " ++ b) = identifiers a ++ identifiers b := by
  unfold identifiers
  rw [tokens_alternatives ha, List.filterMap_append]
  rfl

theorem identifiers_parentheses (ha : Bare a) :
    identifiers ("(" ++ a ++ ")") = identifiers a := by
  unfold identifiers
  rw [tokens_parentheses ha, List.filterMap_append]
  simp [List.filterMap_cons, Token.word?]

theorem identifiers_brackets (ha : Bare a) : identifiers (a ++ "[]") = identifiers a := by
  unfold identifiers
  rw [tokens_brackets ha, List.filterMap_append]
  simp [Token.word?]

theorem identifiers_map (ha : Bare a) (hb : Bare b) :
    identifiers ("map<" ++ a ++ ", " ++ b ++ ">") =
      "map" :: (identifiers a ++ identifiers b) := by
  unfold identifiers
  rw [tokens_map ha hb]
  simp [List.filterMap_cons, Token.word?]

theorem identifiers_word (hne : a ≠ "") (h : ∀ c ∈ a.toList, isFieldChar c = true) :
    identifiers a = [a] := by
  unfold identifiers
  rw [tokens_name hne h]
  rfl

/-- The words of the type language are words. -/
theorem builtin_word (h : a ∈ builtins) : a ≠ "" ∧ ∀ c ∈ a.toList, isFieldChar c = true := by
  have hw : a ≠ "" ∧ a.toList.all isFieldChar = true := by
    simp only [builtins, Translation.primitiveTypes, List.map_cons, List.map_nil, List.mem_cons,
      List.not_mem_nil, or_false] at h
    rcases h with rfl | rfl | rfl | rfl | rfl | rfl <;> exact ⟨by decide, by decide⟩
  exact ⟨hw.1, List.all_eq_true.mp hw.2⟩

theorem typeName_word (h : Text.isTypeName a.toList = true) :
    a ≠ "" ∧ ∀ c ∈ a.toList, isFieldChar c = true := by
  have hne : a ≠ "" := by rintro rfl; cases h
  refine ⟨hne, fun c hc => ?_⟩
  cases hl : a.toList with
  | nil => rw [hl] at hc; cases hc
  | cons first rest =>
    rw [hl] at hc
    simp only [hl, Text.isTypeName, Bool.and_eq_true, List.all_eq_true] at h
    rcases List.mem_cons.mp hc with rfl | hc
    · unfold isFieldChar Char.isAlphanum Char.isAlpha
      simp [h.1]
    · simp [isFieldChar, h.2 c hc]

end Words

/-! ## Closed expressions without quotes -/

/-- An expression as it stands in a result or a field: closed and without quotes, so the words of an
expression that it is put into are its words and the others. -/
structure Sealed (d : Declarations) (expr : String) : Prop where
  bare : Bare expr
  closed : d.Closed expr

namespace Sealed

variable {d d' : Declarations} {a b : String}

theorem mono (h : Sealed d a) (hd : d.names ⊆ d'.names) : Sealed d' a :=
  ⟨h.bare, fun word hw => (h.closed word hw).imp_right fun hn => hd hn⟩

theorem word (hne : a ≠ "") (hc : ∀ c ∈ a.toList, isFieldChar c = true)
    (h : a ∈ builtins ∨ a ∈ d.names) : Sealed d a := by
  refine ⟨fun hq => absurd (hc _ hq) (by decide), fun word hw => ?_⟩
  rw [identifiers_word hne hc, List.mem_singleton] at hw
  exact hw ▸ h

theorem builtin (h : a ∈ builtins) : Sealed d a :=
  word (builtin_word h).1 (builtin_word h).2 (.inl h)

theorem declared (ht : Text.isTypeName a.toList = true) (h : a ∈ d.names) : Sealed d a :=
  word (typeName_word ht).1 (typeName_word ht).2 (.inr h)

theorem alternatives (ha : Sealed d a) (hb : Sealed d b) : Sealed d (a ++ " | " ++ b) := by
  refine ⟨(ha.bare.append (by simp [Bare])).append hb.bare, fun word hw => ?_⟩
  rw [identifiers_alternatives ha.bare, List.mem_append] at hw
  exact hw.elim (ha.closed word) (hb.closed word)

theorem group (ha : Sealed d a) : Sealed d (group a) := by
  unfold Baml.group
  split
  · have hp : Bare ("(" ++ a) := Bare.append (by simp [Bare]) ha.bare
    refine ⟨hp.append (by simp [Bare]), fun word hw => ?_⟩
    rw [identifiers_parentheses ha.bare] at hw
    exact ha.closed word hw
  · exact ha

theorem brackets (ha : Sealed d a) : Sealed d (a ++ "[]") := by
  refine ⟨ha.bare.append (by simp [Bare]), fun word hw => ?_⟩
  rw [identifiers_brackets ha.bare] at hw
  exact ha.closed word hw

theorem map (ha : Sealed d a) (hb : Sealed d b) :
    Sealed d ("map<" ++ a ++ ", " ++ b ++ ">") := by
  have hp : Bare ("map<" ++ a) := Bare.append (by simp [Bare]) ha.bare
  refine ⟨((hp.append (by simp [Bare])).append hb.bare).append (by simp [Bare]), fun word hw => ?_⟩
  rw [identifiers_map ha.bare hb.bare, List.mem_cons, List.mem_append] at hw
  rcases hw with rfl | hw | hw
  · exact .inl List.mem_cons_self
  · exact ha.closed word hw
  · exact hb.closed word hw

theorem withNull (ha : Sealed d a) : Sealed d (a ++ " | null") := by
  have hn : Sealed d "null" := builtin (by decide)
  have := ha.alternatives hn
  rwa [String.append_assoc] at this

theorem orNull (ha : Sealed d a) : Sealed d (Translation.orNull a) := by
  unfold Translation.orNull
  split
  · exact ha
  · exact ha.group.withNull

theorem join {parts : List String} (h : ∀ part ∈ parts, Sealed d part) :
    Sealed d (Json.join " | " parts) := by
  induction parts with
  | nil => exact ⟨by simp [Json.join, Bare], by simp [Declarations.Closed, Json.join, identifiers,
      tokens]⟩
  | cons part rest ih =>
    have hr := ih fun p hp => h p (List.mem_cons_of_mem _ hp)
    cases rest with
    | nil => exact h part List.mem_cons_self
    | cons next more => exact (h part List.mem_cons_self).alternatives hr

end Sealed

end StructuredOutput.Baml
