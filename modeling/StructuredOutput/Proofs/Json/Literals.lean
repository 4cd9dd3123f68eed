import StructuredOutput.Json.Printer
import StructuredOutput.Proofs.Json.QuotedText

/-! # String literals behind one another

A text of string literals with a separator between two of them is read from the left: a literal shows
where it ends, whatever stands behind it and whatever it holds. So what was joined from quoted strings
is cut into literals in one way only, and each literal reads as the string it was made from. -/
namespace StructuredOutput.Json

/-! ## Reading does not look behind the closing quote -/

/-- A text that reads is long enough to hold the escape of a unit that it starts. -/
theorem decode_unit {source more rest : List Char} {a b c d : Char} {read : List Char × List Char}
    (h : decode source = some read)
    (he : source ++ more = '\\' :: 'u' :: a :: b :: c :: d :: rest) :
    ∃ rest', source = '\\' :: 'u' :: a :: b :: c :: d :: rest' := by
  match source, h, he with
  | [], h, _ => simp [decode] at h
  | [_], h, he => simp at he; simp [decode, he] at h
  | [_, _], h, he => simp at he; simp [decode, unescape?, he] at h
  | [_, _, _], h, he => simp at he; simp [decode, unescape?, he] at h
  | [_, _, _, _], h, he => simp at he; simp [decode, unescape?, he] at h
  | [_, _, _, _, _], h, he => simp at he; simp [decode, unescape?, he] at h
  | _ :: _ :: _ :: _ :: _ :: _ :: rest', _, he => simp at he; simp [he]

theorem decode_append {source text behind : List Char} (h : decode source = some (text, behind))
    (more : List Char) : decode (source ++ more) = some (text, behind ++ more) := by
  -- the cases follow `decode`: two units, a unit alone, another escape, the closing quote, a character
  fun_induction decode source generalizing text behind with
  | case1 => cases h
  | case2 a b c d e f g i rest high low hl hh joined hj ih =>
    obtain ⟨t, ht, rfl⟩ := consDecoded_some h
    simp only [List.cons_append]
    rw [decode, hl, hh]
    simp only [hj, ih ht, consDecoded]
  | case3 a b c d e f g i rest high low hl hh hj ih =>
    obtain ⟨t, ht, rfl⟩ := consDecoded_some h
    have := ih ht
    simp only [List.cons_append] at this ⊢
    rw [decode, hl, hh]
    simp only [hj, this, consDecoded]
  | case4 a b c d e f g i rest high hl hh ih =>
    obtain ⟨t, ht, rfl⟩ := consDecoded_some h
    have := ih ht
    simp only [List.cons_append] at this ⊢
    rw [decode, hl, hh]
    simp only [this, consDecoded]
  | case5 => cases h
  | case6 a b c d rest hrest n hn ih =>
    obtain ⟨t, ht, rfl⟩ := consDecoded_some h
    simp only [List.cons_append]
    rw [decode, hn]
    · simp only [ih ht, consDecoded]
    · -- the unit is no first half now either: what it would pair with stood in `rest` already
      intro e f g i rest' he
      obtain ⟨rest'', hr⟩ := decode_unit ht he
      exact hrest e f g i rest'' hr
  | case7 => cases h
  | case8 c rest h1 h2 plain hp ih =>
    obtain ⟨t, ht, rfl⟩ := consDecoded_some h
    have hu : c ≠ 'u' := by rintro rfl; simp [unescape?] at hp
    simp only [List.cons_append]
    rw [decode, hp]
    · simp only [ih ht, consDecoded]
    · intros; contradiction
    · intros; contradiction
  | case9 => cases h
  | case10 => cases h; simp [decode]
  | case11 => cases h
  | case12 c rest h1 h2 h3 h4 h5 ih =>
    obtain ⟨t, ht, rfl⟩ := consDecoded_some h
    have hb : c ≠ '\\' := by rintro rfl; simp at h5
    simp only [List.cons_append]
    rw [decode]
    · simp [ih ht, consDecoded, h4, h5]
    all_goals intros; contradiction

/-! ## Texts cut into literals -/

/-- Whether a text is the literal of a string: behind its quote it reads as the string, and nothing
is left. -/
def LiteralOf (literal value : String) : Prop :=
  ∃ inside, literal.toList = '\x22' :: inside ∧ decode inside = some (value.toList, [])

/-- A text cut into literals with a separator between two of them, and the strings they stand for. -/
inductive Literals (separator : String) : String → List String → List String → Prop
  | last {literal value : String} :
      LiteralOf literal value → Literals separator literal [literal] [value]
  | more {literal value rest : String} {literals values : List String} :
      LiteralOf literal value → Literals separator rest literals values →
      Literals separator (literal ++ separator ++ rest) (literal :: literals) (value :: values)

theorem literalOf_quoteString (value : String) : LiteralOf (quoteString value) value :=
  ⟨encode value.toList ++ ['\x22'], by simp [quoteString], decode_encode _ _⟩

/-- Two literals in front of one text each are the same literal of the same string if the texts with
them are equal. -/
theorem LiteralOf.unique {literal literal' value value' : String} {behind behind' : List Char}
    (h : LiteralOf literal value) (h' : LiteralOf literal' value')
    (he : literal.toList ++ behind = literal'.toList ++ behind') :
    literal = literal' ∧ value = value' ∧ behind = behind' := by
  obtain ⟨inside, hl, hd⟩ := h
  obtain ⟨inside', hl', hd'⟩ := h'
  have hinside : inside ++ behind = inside' ++ behind' := by simpa [hl, hl'] using he
  have hread := decode_append hd behind
  rw [hinside, decode_append hd' behind'] at hread
  simp only [List.nil_append, Option.some.injEq, Prod.mk.injEq, String.toList_inj] at hread
  obtain ⟨rfl, rfl⟩ := hread
  have hsame : inside = inside' := List.append_cancel_right hinside
  exact ⟨String.toList_inj.mp (by rw [hl, hl', hsame]), rfl, rfl⟩

theorem Literals.ne_empty {separator text : String} {literals values : List String}
    (h : Literals separator text literals values) : text.toList ≠ [] := by
  cases h with
  | last hl =>
    obtain ⟨inside, hi, -⟩ := hl
    simp [hi]
  | more hl _ =>
    obtain ⟨inside, hi, -⟩ := hl
    simp [hi]

/-- A text is cut into literals in at most one way. -/
theorem Literals.unique {separator text : String} {literals values literals' values' : List String}
    (h : Literals separator text literals values) (h' : Literals separator text literals' values') :
    literals = literals' ∧ values = values' := by
  induction h generalizing literals' values' with
  | @last literal value hl =>
    generalize ht : literal = text' at h'
    cases h' with
    | last hl' =>
      have he : literal.toList ++ [] = text'.toList ++ [] := by rw [ht]
      obtain ⟨rfl, rfl, -⟩ := hl.unique hl' he
      exact ⟨rfl, rfl⟩
    | @more literal' value' rest' _ _ hl' hr' =>
      have he : literal.toList ++ [] = literal'.toList ++ (separator.toList ++ rest'.toList) := by
        simp [ht]
      obtain ⟨-, -, hnil⟩ := hl.unique hl' he
      exact absurd (List.append_eq_nil_iff.mp hnil.symm).2 hr'.ne_empty
  | @more literal value rest _ _ hl hr ih =>
    generalize ht : literal ++ separator ++ rest = text' at h'
    cases h' with
    | last hl' =>
      have he : literal.toList ++ (separator.toList ++ rest.toList) = text'.toList ++ [] := by
        simp [← ht]
      obtain ⟨-, -, hnil⟩ := hl.unique hl' he
      exact absurd (List.append_eq_nil_iff.mp hnil).2 hr.ne_empty
    | @more literal' value' rest' _ _ hl' hr' =>
      have he : literal.toList ++ (separator.toList ++ rest.toList) =
          literal'.toList ++ (separator.toList ++ rest'.toList) := by
        simpa using congrArg String.toList ht
      obtain ⟨rfl, rfl, hbehind⟩ := hl.unique hl' he
      obtain rfl := String.toList_inj.mp (List.append_cancel_left hbehind)
      obtain ⟨rfl, rfl⟩ := ih hr'
      exact ⟨rfl, rfl⟩

/-- Quoted strings with a separator between them are cut into these. -/
theorem literals_join (separator : String) {values : List String} (h : values ≠ []) :
    Literals separator (join separator (values.map quoteString)) (values.map quoteString) values := by
  induction values with
  | nil => exact absurd rfl h
  | cons value rest ih =>
    cases rest with
    | nil => exact .last (literalOf_quoteString value)
    | cons next more => exact .more (literalOf_quoteString value) (ih (by simp))

/-! ## Control characters -/

def ControlFree (text : String) : Prop := ∀ c ∈ text.toList, 32 ≤ c.toNat

theorem ControlFree.append {a b : String} (ha : ControlFree a) (hb : ControlFree b) :
    ControlFree (a ++ b) := by
  intro c hc
  rw [String.toList_append, List.mem_append] at hc
  exact hc.elim (ha c) (hb c)

theorem quoteString_controlFree (text : String) : ControlFree (quoteString text) := by
  intro b hb
  simp only [quoteString, String.toList_ofList, List.cons_append, List.mem_cons, List.mem_append,
    List.not_mem_nil, or_false] at hb
  rcases hb with rfl | hb | rfl
  · decide
  · obtain ⟨c, -, hc⟩ := List.mem_flatMap.mp hb
    exact escape_controlFree c b hc
  · decide

theorem join_controlFree {separator : String} (hs : ControlFree separator) {texts : List String}
    (h : ∀ text ∈ texts, ControlFree text) : ControlFree (join separator texts) := by
  induction texts with
  | nil => exact fun c hc => absurd hc (by simp [join])
  | cons first rest ih =>
    obtain ⟨hfirst, hrest⟩ := List.forall_mem_cons.mp h
    cases rest with
    | nil => exact hfirst
    | cons next more => exact (hfirst.append hs).append (ih hrest)

end StructuredOutput.Json
