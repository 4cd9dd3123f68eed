import StructuredOutput.Proofs.SourceText.Framing
import StructuredOutput.Proofs.TypeText.ClosedTypes

/-! # Type expressions that show where they end

A type expression holds no sign of what stands behind it in a field, and its last character is
neither a blank nor a closing parenthesis. So the question mark and the attributes of a field cannot
be taken for a part of the type, and the parentheses of a grouped union not for its own. -/
namespace StructuredOutput.Baml

open Text (isFieldChar Framed Starts)

def typeSigns : List Char := [' ', '|', ',', '<', '>', '(', ')', '[', ']']

def isTypeChar (c : Char) : Bool := isFieldChar c || typeSigns.contains c

def TypeText (expr : String) : Prop := ∀ c ∈ expr.toList, isTypeChar c = true

theorem TypeText.append {a b : String} (ha : TypeText a) (hb : TypeText b) :
    TypeText (a ++ b) := by
  intro c hc
  rw [String.toList_append] at hc
  exact (List.mem_append.mp hc).elim (ha c) (hb c)

theorem TypeText.of_all {expr : String} (h : expr.toList.all isTypeChar = true) : TypeText expr :=
  List.all_eq_true.mp h

theorem TypeText.group {a : String} (ha : TypeText a) : TypeText (group a) := by
  unfold Baml.group
  split
  · exact (TypeText.append (.of_all (by decide)) ha).append (.of_all (by decide))
  · exact ha

structure Legible (expr : String) : Prop where
  chars : TypeText expr
  last : ∃ c, expr.toList.getLast? = some c ∧ c ≠ ' ' ∧ c ≠ ')'

namespace Legible

variable {a b : String}

/-- An expression ends as its last part does. -/
theorem behind (ha : TypeText a) (hb : Legible b) : Legible (a ++ b) := by
  obtain ⟨c, hc, hs⟩ := hb.last
  refine ⟨ha.append hb.chars, c, ?_, hs⟩
  rw [String.toList_append, List.getLast?_append, hc]
  rfl

theorem word (hne : a ≠ "") (h : ∀ c ∈ a.toList, isFieldChar c = true) : Legible a := by
  refine ⟨fun c hc => ?_, ?_⟩
  · rw [isTypeChar, h c hc]
    rfl
  · have hlist : a.toList ≠ [] := by simpa using hne
    have hlast := h _ (List.getLast_mem hlist)
    refine ⟨_, List.getLast?_eq_some_getLast hlist, ?_, ?_⟩ <;>
      exact fun he => absurd (he ▸ hlast) (by decide)

theorem builtin (h : a ∈ builtins) : Legible a := word (builtin_word h).1 (builtin_word h).2

theorem typeName (h : Text.isTypeName a.toList = true) : Legible a :=
  word (typeName_word h).1 (typeName_word h).2

theorem brackets (ha : TypeText a) : Legible (a ++ "[]") :=
  behind ha ⟨.of_all (by decide), ']', by decide, by decide, by decide⟩

theorem map (ha : TypeText a) (hb : TypeText b) : Legible ("map<" ++ a ++ ", " ++ b ++ ">") := by
  refine behind ?_ ⟨.of_all (by decide), '>', by decide, by decide, by decide⟩
  exact ((TypeText.append (.of_all (by decide)) ha).append (.of_all (by decide))).append hb

theorem alternatives (ha : TypeText a) (hb : Legible b) : Legible (a ++ " | " ++ b) :=
  behind (ha.append (.of_all (by decide))) hb

theorem withNull (ha : TypeText a) : Legible (a ++ " | null") :=
  behind ha ⟨.of_all (by decide), 'l', by decide, by decide, by decide⟩

theorem orNull (ha : Legible a) : Legible (Translation.orNull a) := by
  unfold Translation.orNull
  split
  · exact ha
  · exact withNull ha.chars.group

theorem join {parts : List String} (hne : parts ≠ []) (h : ∀ part ∈ parts, Legible part) :
    Legible (Json.join " | " parts) := by
  induction parts with
  | nil => exact absurd rfl hne
  | cons part rest ih =>
    obtain ⟨hfirst, hrest⟩ := List.forall_mem_cons.mp h
    cases rest with
    | nil => exact hfirst
    | cons next more => exact alternatives hfirst.chars (ih (by simp) hrest)

/-! ## Grouped expressions -/

/-- The parentheses of a grouped union are none of its own. -/
theorem group_injective (ha : Legible a) (hb : Legible b) (h : group a = group b) : a = b := by
  have hends {x y : String} (hy : Legible y) (he : "(" ++ x ++ ")" = y) : False := by
    obtain ⟨c, hc, -, hp⟩ := hy.last
    rw [← he, String.toList_append, List.getLast?_append] at hc
    exact hp (Option.some.inj hc).symm
  unfold Baml.group at h
  split at h <;> split at h
  · have hinner := (String.append_left_inj ")").mp h
    exact (String.append_right_inj "(").mp hinner
  · exact (hends hb h).elim
  · exact (hends ha h.symm).elim
  · exact h

theorem last_ne_blank (ha : Legible a) : a.toList.getLast? ≠ some ' ' := by
  obtain ⟨c, hc, hb, -⟩ := ha.last
  rw [hc]
  exact fun he => hb (Option.some.inj he)

/-- Where a grouped expression ends, a blank that follows is none of its own. -/
theorem group_last (ha : Legible a) : (group a).toList.getLast? ≠ some ' ' := by
  unfold Baml.group
  split
  · rw [String.toList_append, List.getLast?_append]
    simp
  · exact ha.last_ne_blank

end Legible

/-! ## What stands behind the type of a field -/

/-- A question mark, the end of the line or an attribute. -/
def Trails (r : List Char) : Prop :=
  Starts '?' r ∨ Starts '\n' r ∨ [' ', '@'] <+: r

/-- At most one blank stands between a type and the next character that is not of a type. -/
theorem Trails.split {r : List Char} (h : Trails r) :
    ∃ blank rest, r = blank ++ rest ∧ (blank = [] ∨ blank = [' ']) ∧
      ∀ c ∈ rest.head?, isTypeChar c = false := by
  rcases h with h | h | ⟨rest, rfl⟩
  · exact ⟨[], r, rfl, .inl rfl, h.ends (by decide)⟩
  · exact ⟨[], r, rfl, .inl rfl, h.ends (by decide)⟩
  · exact ⟨[' '], '@' :: rest, rfl, .inr rfl, fun c hc => by cases hc; decide⟩

/-- A type in front of what stands behind it in a field. -/
theorem framed_type :
    Framed (fun expr : String => TypeText expr ∧ expr.toList.getLast? ≠ some ' ') String.toList id
      Trails := by
  intro a b r r' ha hb hr hr' h
  obtain ⟨blank, rest, rfl, hblank, hrest⟩ := hr.split
  obtain ⟨blank', rest', rfl, hblank', hrest'⟩ := hr'.split
  have hchars {expr : String} {blank : List Char} (he : TypeText expr)
      (hs : blank = [] ∨ blank = [' ']) : ∀ c ∈ expr.toList ++ blank, isTypeChar c = true := by
    intro c hc
    rcases List.mem_append.mp hc with hc | hc
    · exact he c hc
    · rcases hs with rfl | rfl
      · cases hc
      · rw [List.mem_singleton.mp hc]
        decide
  rw [← List.append_assoc, ← List.append_assoc] at h
  obtain ⟨he, htail⟩ := Text.framed_span isTypeChar (hchars ha.1 hblank) (hchars hb.1 hblank') hrest
    hrest' h
  simp only [id_eq] at he
  -- a blank at the end of one of them only would be a part of a type
  have hlast {expr other : String} (hn : expr.toList.getLast? ≠ some ' ') :
      expr.toList ≠ other.toList ++ [' '] := by
    intro hs
    rw [hs, List.getLast?_concat] at hn
    exact hn rfl
  rcases hblank with rfl | rfl <;> rcases hblank' with rfl | rfl
  · exact ⟨by simpa [String.toList_inj] using he, by rw [htail]⟩
  · exact absurd (by simpa using he) (hlast ha.2)
  · exact absurd (by simpa using he.symm) (hlast hb.2)
  · exact ⟨by simpa [String.toList_inj] using he, by rw [htail]⟩

end StructuredOutput.Baml
