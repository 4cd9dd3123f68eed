import Mathlib.Data.List.Nodup
import Mathlib.Data.List.Perm.Subperm
import StructuredOutput.Baml.Declarations

/-! # Declared names

A name for a declaration is free in all three tables, whatever has been declared before, because the
numbered forms of one base name are distinct and there are more of them than declared names. Unless the
counter is negative, such a name starts with an upper-case letter and goes on with letters and digits,
so it is not the name of a primitive type. -/
namespace StructuredOutput.Text

/-- A type name: an upper-case letter, then letters and digits. -/
def isTypeName : List Char → Bool
  | [] => false
  | c :: rest => c.isUpper && rest.all Char.isAlphanum

theorem mem_splitAll {cut : Char → Bool} {text piece : List Char}
    (h : piece ∈ splitAll cut text) : ∀ c ∈ piece, cut c = false := by
  induction text generalizing piece with
  | nil => simp [splitAll] at h; simp [h]
  | cons c rest ih =>
    unfold splitAll at h
    split at h
    · rcases List.mem_cons.mp h with rfl | h
      · simp
      · exact ih h
    · rename_i hc
      have hc : cut c = false := by simpa using hc
      split at h
      · simp only [List.mem_singleton] at h
        simp [h, hc]
      · rename_i first more hs
        rcases List.mem_cons.mp h with rfl | h
        · have := ih (hs ▸ List.mem_cons_self)
          simpa [hc] using this
        · exact ih (hs ▸ List.mem_cons_of_mem _ h)

theorem isAlphanum_of_mem_words {text word : List Char} (h : word ∈ words text) :
    word ≠ [] ∧ ∀ c ∈ word, c.isAlphanum = true := by
  obtain ⟨hs, hn⟩ := List.mem_filter.mp h
  refine ⟨by simpa using hn, fun c hc => ?_⟩
  simpa using mem_splitAll hs c hc

theorem isAlphanum_toUpper {c : Char} (h : c.isAlphanum = true) :
    c.toUpper.isAlphanum = true := by
  unfold Char.isAlphanum Char.isAlpha Char.isUpper Char.isLower Char.isDigit Char.toUpper at *
  grind

theorem isUpper_toUpper {c : Char} (h : c.isAlphanum = true) (hd : c.toUpper.isDigit = false) :
    c.toUpper.isUpper = true := by
  unfold Char.isAlphanum Char.isAlpha Char.isUpper Char.isLower Char.isDigit Char.toUpper at *
  grind

/-- Joined words start with what upper case makes of a letter or digit. -/
theorem joined_words (text : List Char) :
    (words text).flatMap capitalize = [] ∨
      ∃ (c : Char) (rest : List Char), (words text).flatMap capitalize = c.toUpper :: rest ∧
        c.isAlphanum = true ∧
        ∀ c' ∈ rest, c'.isAlphanum = true := by
  have hw : ∀ word ∈ words text, word ≠ [] ∧ ∀ c ∈ word, c.isAlphanum = true :=
    fun _ h => isAlphanum_of_mem_words h
  revert hw
  generalize words text = ws
  intro hw
  induction ws with
  | nil => exact .inl rfl
  | cons word more ih =>
    obtain ⟨hne, hall⟩ := hw word List.mem_cons_self
    obtain ⟨c, cs, rfl⟩ := List.exists_cons_of_ne_nil hne
    refine .inr ⟨c, cs ++ more.flatMap capitalize, by simp [capitalize], hall c (by simp), ?_⟩
    intro c' hc'
    rcases List.mem_append.mp hc' with hc' | hc'
    · exact hall c' (by simp [hc'])
    · rcases ih (fun w h => hw w (by simp [h])) with he | ⟨b, rest, he, hb, hr⟩
      · rw [he] at hc'; cases hc'
      · rw [he] at hc'
        rcases List.mem_cons.mp hc' with rfl | hc'
        · exact isAlphanum_toUpper hb
        · exact hr c' hc'

/-- A name in Pascal case is empty or a type name. -/
theorem isTypeName_pascalCase (text : String) :
    pascalCase text = "" ∨ isTypeName (pascalCase text).toList = true := by
  rcases joined_words text.toList with he | ⟨c, rest, he, hc, hr⟩
  · left
    simp [pascalCase, he, startsWithDigit]
  · right
    have hrest : rest.all Char.isAlphanum = true := List.all_eq_true.mpr hr
    have hup : c.toUpper.isAlphanum = true := isAlphanum_toUpper hc
    cases hd : c.toUpper.isDigit with
    | true =>
      have : (pascalCase text).toList = 'T' :: 'y' :: 'p' :: 'e' :: c.toUpper :: rest := by
        simp [pascalCase, he, startsWithDigit, hd]
      rw [this]
      simpa [isTypeName, hup] using hr
    | false =>
      have : (pascalCase text).toList = c.toUpper :: rest := by
        simp [pascalCase, he, startsWithDigit, hd]
      rw [this]
      simp [isTypeName, isUpper_toUpper hc hd, hrest]

end StructuredOutput.Text

namespace StructuredOutput.Baml.Declarations

/-! ## The search for a free name -/

theorem isDigit_of_mem_toString {n : Nat} {c : Char} (h : c ∈ (toString n).toList) :
    c.isDigit = true := by
  rw [Nat.toString_eq_ofList_toDigits, String.toList_ofList] at h
  exact Nat.isDigit_of_mem_toDigits (by decide) (by decide) h

theorem toString_injective : Function.Injective fun n : Nat => toString n := by
  intro i j h
  have hdigits : Nat.toDigits 10 i = Nat.toDigits 10 j := by
    simpa [Nat.toString_eq_ofList_toDigits] using congrArg String.toList h
  have hn := congrArg (fun ds => Nat.ofDigitChars 10 ds 0) hdigits
  simpa using hn

theorem toString_negSucc (n : Nat) : toString (Int.negSucc n) = "-" ++ toString (n + 1) := rfl

/-- No digit is a minus sign, so the numeral of a natural number is that of no negative one. -/
theorem toString_natCast_ne_negSucc (i j : Nat) : toString (i : Int) ≠ toString (Int.negSucc j) := by
  intro h
  have hminus : '-' ∈ (toString i).toList := by
    rw [show toString i = "-" ++ toString (j + 1) from h, String.toList_append]
    exact List.mem_cons_self
  exact absurd (isDigit_of_mem_toString hminus) (by decide)

theorem numbered_injective (base : String) : Function.Injective (numbered base) := by
  intro i j h
  have hs : toString i = toString j := (String.append_right_inj base).mp h
  cases i with
  | ofNat i =>
    cases j with
    | ofNat j => exact congrArg Int.ofNat (toString_injective hs)
    | negSucc j => exact absurd hs (toString_natCast_ne_negSucc i j)
  | negSucc i =>
    cases j with
    | ofNat j => exact absurd hs.symm (toString_natCast_ne_negSucc j i)
    | negSucc j =>
      rw [toString_negSucc, toString_negSucc, String.append_right_inj] at hs
      exact congrArg Int.negSucc (Nat.succ.inj (toString_injective hs))

theorem isDeclared_iff {d : Declarations} {name : String} :
    d.isDeclared name = true ↔ name ∈ d.names := by
  simp [isDeclared]

theorem seek_sound {d : Declarations} {base : String} {tries : Nat} {start n : Int}
    (h : d.seek base tries start = some n) : numbered base n ∉ d.names ∧ start ≤ n := by
  induction tries generalizing start with
  | zero => cases h
  | succ tries ih =>
    simp only [seek] at h
    split at h
    · obtain ⟨hn, hle⟩ := ih h
      exact ⟨hn, by omega⟩
    · rename_i hf
      cases h
      exact ⟨fun hm => hf (isDeclared_iff.mpr hm), Int.le_refl _⟩

theorem seek_none {d : Declarations} {base : String} {tries : Nat} {start : Int}
    (h : d.seek base tries start = none) :
    ∀ i : Nat, i < tries → numbered base (start + i) ∈ d.names := by
  induction tries generalizing start with
  | zero => intro i hi; omega
  | succ tries ih =>
    simp only [seek] at h
    split at h
    · rename_i ht
      intro i hi
      cases i with
      | zero => simpa using isDeclared_iff.mp ht
      | succ i =>
        have := ih h i (by omega)
        rwa [show start + (i + 1 : Nat) = start + 1 + i by omega]
    · cases h

/-- One try more than there are declared names is enough. -/
theorem seek_exists (d : Declarations) (base : String) (start : Int) :
    ∃ n, d.seek base (d.names.length + 1) start = some n := by
  cases h : d.seek base (d.names.length + 1) start with
  | some n => exact ⟨n, rfl⟩
  | none =>
    let tried := (List.range (d.names.length + 1)).map fun i : Nat => numbered base (start + i)
    have hnodup : tried.Nodup := by
      refine List.Nodup.map ?_ List.nodup_range
      intro i j hij
      have := numbered_injective base hij
      omega
    have hsub : tried ⊆ d.names := by
      intro name hname
      obtain ⟨i, hi, rfl⟩ := List.mem_map.mp hname
      exact seek_none h i (List.mem_range.mp hi)
    have hle := (List.Nodup.subperm hnodup hsub).length_le
    simp only [tried, List.length_map, List.length_range] at hle
    omega

/-- The name found for a hint, with the counter behind the search: the base name when that is free,
the base name with the counter otherwise. -/
theorem uniqueName_cases (d : Declarations) (hint : String) :
    (baseName hint ∉ d.names ∧ d.uniqueName hint = (baseName hint, d.counter)) ∨
    ∃ n, d.counter < n ∧ numbered (baseName hint) n ∉ d.names ∧
      d.uniqueName hint = (numbered (baseName hint) n, n) := by
  unfold uniqueName
  by_cases hd : d.isDeclared (baseName hint) = true
  · obtain ⟨n, hn⟩ := seek_exists d (baseName hint) (d.counter + 1)
    obtain ⟨hfree, hle⟩ := seek_sound hn
    exact .inr ⟨n, hle, hfree, by simp [hd, hn]⟩
  · exact .inl ⟨fun hm => hd (isDeclared_iff.mpr hm), by simp [hd]⟩

theorem uniqueName_fresh (d : Declarations) (hint : String) : (d.uniqueName hint).1 ∉ d.names := by
  rcases uniqueName_cases d hint with ⟨hf, he⟩ | ⟨n, -, hf, he⟩
  · rw [he]; exact hf
  · rw [he]; exact hf

theorem uniqueName_counter (d : Declarations) (hint : String) :
    d.counter ≤ (d.uniqueName hint).2 := by
  rcases uniqueName_cases d hint with ⟨-, he⟩ | ⟨n, hlt, -, he⟩
  · exact Int.le_of_eq (by rw [he])
  · exact Int.le_of_lt (by rw [he]; exact hlt)

/-! ## One declaration more -/

/-- Declarations with one more at the end of one of the tables, under the free name for a hint. A class
has no fields yet. -/
structure Gains (d : Declarations) (hint : String) (d' : Declarations) : Prop where
  tables : ∃ classes enums aliases, d'.classes = d.classes ++ classes ∧
    d'.enums = d.enums ++ enums ∧ d'.aliases = d.aliases ++ aliases ∧
    (∀ entry ∈ classes, entry.2 = ⟨entry.1, []⟩) ∧
    classes.map (·.1) ++ enums.map (·.1) ++ aliases.map (·.1) = [(d.uniqueName hint).1]
  counter : d'.counter = (d.uniqueName hint).2
  order : d'.order = d.order
  lazies : d'.lazies = d.lazies
  depth : d'.depth = d.depth

theorem gains_class (d : Declarations) (hint : String) : Gains d hint (d.declareClass hint).2 :=
  ⟨⟨[(_, ⟨_, []⟩)], [], [], rfl, (List.append_nil _).symm, (List.append_nil _).symm, by simp, rfl⟩,
    rfl, rfl, rfl, rfl⟩

theorem gains_enum (d : Declarations) (hint : String) (values : List Json) :
    Gains d hint (d.declareEnum hint values).2 :=
  ⟨⟨[], [(_, values)], [], (List.append_nil _).symm, rfl, (List.append_nil _).symm, by simp, rfl⟩,
    rfl, rfl, rfl, rfl⟩

theorem gains_alias (d : Declarations) (hint expr : String) :
    Gains d hint (d.declareAlias hint expr).2 :=
  ⟨⟨[], [], [(_, expr)], (List.append_nil _).symm, (List.append_nil _).symm, rfl, by simp, rfl⟩,
    rfl, rfl, rfl, rfl⟩

/-- The name is one more among the declared ones, in whichever table it stands. -/
theorem Gains.names {d d' : Declarations} {hint : String} (h : Gains d hint d') :
    d'.names.Perm ((d.uniqueName hint).1 :: d.names) := by
  obtain ⟨classes, enums, aliases, hc, he, ha, -, hnew⟩ := h.tables
  rw [← List.singleton_append, ← hnew]
  apply List.perm_iff_count.mpr
  intro name
  simp only [Declarations.names, hc, he, ha, List.map_append, List.count_append]
  omega

@[simp] theorem names_addField (d : Declarations) (name : String) (field : Field) :
    (d.addField name field).names = d.names := by
  unfold names addField
  rw [List.map_map]
  congr 2
  refine List.map_congr_left fun entry _ => ?_
  simp only [Function.comp]
  split <;> rfl

/-! ## The shape of a declared name -/

theorem isTypeName_baseName (hint : String) : Text.isTypeName (baseName hint).toList = true := by
  unfold baseName
  split
  · rfl
  · rename_i hne
    rcases Text.isTypeName_pascalCase hint with he | h
    · exact absurd he hne
    · exact h

theorem isTypeName_append {name more : List Char} (h : Text.isTypeName name = true)
    (hm : ∀ c ∈ more, c.isAlphanum = true) : Text.isTypeName (name ++ more) = true := by
  cases name with
  | nil => cases h
  | cons c rest =>
    simp only [Text.isTypeName, Bool.and_eq_true, List.all_eq_true] at h
    simp only [Text.isTypeName, List.cons_append, Bool.and_eq_true, List.all_eq_true,
      List.mem_append]
    exact ⟨h.1, fun c' hc' => hc'.elim (h.2 c') (hm c')⟩

/-- With a counter that is not negative, what is declared next gets a type name. -/
theorem isTypeName_uniqueName {d : Declarations} (hd : 0 ≤ d.counter) (hint : String) :
    Text.isTypeName (d.uniqueName hint).1.toList = true := by
  have hb := isTypeName_baseName hint
  rcases uniqueName_cases d hint with ⟨-, he⟩ | ⟨n, hlt, -, he⟩
  · rw [he]; exact hb
  · obtain ⟨n, rfl⟩ := Int.eq_ofNat_of_zero_le (Int.le_trans hd (Int.le_of_lt hlt))
    have hname : (numbered (baseName hint) n).toList =
        (baseName hint).toList ++ (toString n).toList := String.toList_append
    rw [he, hname]
    refine isTypeName_append hb fun c hc => ?_
    simp [Char.isAlphanum, isDigit_of_mem_toString hc]

end StructuredOutput.Baml.Declarations
