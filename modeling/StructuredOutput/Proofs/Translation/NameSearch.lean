import Mathlib.Data.Finset.Card
import Mathlib.Data.Nat.Find
import Mathlib.Order.Bounds.Basic
import StructuredOutput.Proofs.Translation.DeclaredNames

/-! # The search for a name

While the name is declared the counter goes up by one, and the name becomes the base name with the
numeral of the counter behind it. The names that are tried are distinct, with numerals below zero as
well, and all but the last are declared. So whatever is declared and wherever the counter stands, the
search goes through no more rounds than there are declared names. -/
namespace StructuredOutput.Baml.Declarations

/-! ## The names that are tried -/

theorem numbered_ne_base (base : String) (n : Int) : numbered base n ≠ base := by
  have hlong (m : Nat) : 0 < (toString m).length := by
    rw [Nat.toString_eq_ofList_toDigits, String.length_ofList]
    exact Nat.length_toDigits_pos
  have hpos : 0 < (toString n).length := by
    cases n with
    | ofNat n => exact hlong n
    | negSucc n =>
      rw [toString_negSucc, String.length_append]
      exact Nat.add_pos_right _ (hlong _)
  intro h
  have hlength := congrArg String.length h
  rw [numbered, String.length_append] at hlength
  omega

/-- The name that a search comes to after some rounds, from a name and a counter on. -/
def tried (base name : String) (counter : Int) : Nat → String
  | 0 => name
  | rounds + 1 => tried base (numbered base (counter + 1)) (counter + 1) rounds

theorem tried_succ (base name : String) (counter : Int) (rounds : Nat) :
    tried base name counter (rounds + 1) = numbered base (counter + rounds + 1) := by
  induction rounds generalizing name counter with
  | zero =>
    rw [Int.natCast_zero, Int.add_zero]
    rfl
  | succ rounds ih =>
    rw [tried, ih]
    congr 1
    omega

theorem tried_injective (base : String) (counter : Int) :
    Function.Injective (tried base base counter) := by
  intro i j h
  cases i with
  | zero =>
    cases j with
    | zero => rfl
    | succ j => exact absurd (h.trans (tried_succ base base counter j)).symm (numbered_ne_base base _)
  | succ i =>
    rw [tried_succ] at h
    cases j with
    | zero => exact absurd h (numbered_ne_base base _)
    | succ j =>
      have hsame := numbered_injective base (h.trans (tried_succ base base counter j))
      omega

/-! ## The search -/

/-- The search as it runs, for any declarations and any whole number as the counter: the name and the
counter it starts with, the rounds it goes through, and the name and the counter it ends with. -/
inductive Seeks (d : Declarations) (base : String) : String → Int → Nat → String → Int → Prop
  | free {name : String} {counter : Int} : name ∉ d.names → Seeks d base name counter 0 name counter
  | next {name final : String} {counter last : Int} {rounds : Nat} : name ∈ d.names →
      Seeks d base (numbered base (counter + 1)) (counter + 1) rounds final last →
      Seeks d base name counter (rounds + 1) final last

variable {d : Declarations} {base name final : String} {counter last : Int} {rounds : Nat}

/-- The names that a search tries are declared up to the last, and that one is free. -/
theorem seeks_iff : Seeks d base name counter rounds final last ↔
    (∀ i < rounds, tried base name counter i ∈ d.names) ∧ final ∉ d.names ∧
      final = tried base name counter rounds ∧ last = counter + rounds := by
  induction rounds generalizing name counter with
  | zero =>
    constructor
    · rintro ⟨hfree⟩
      exact ⟨nofun, hfree, rfl, by omega⟩
    · rintro ⟨-, hfree, rfl, hlast⟩
      rw [Int.natCast_zero, Int.add_zero] at hlast
      rw [hlast]
      exact .free hfree
  | succ rounds ih =>
    constructor
    · intro h
      cases h with
      | next hused hrest =>
        obtain ⟨hall, hfree, hfinal, hlast⟩ := ih.mp hrest
        refine ⟨fun i hi => ?_, hfree, hfinal, by omega⟩
        cases i with
        | zero => exact hused
        | succ i => exact hall i (Nat.lt_of_succ_lt_succ hi)
    · rintro ⟨hall, hfree, hfinal, hlast⟩
      refine .next (hall 0 rounds.succ_pos) (ih.mpr ⟨fun i hi => ?_, hfree, hfinal, by omega⟩)
      exact hall (i + 1) (Nat.succ_lt_succ hi)

/-- Distinct names that are declared are no more than the declared names. -/
theorem le_of_tried (hall : ∀ i < rounds, tried base base counter i ∈ d.names) :
    rounds ≤ d.names.toFinset.card := by
  have hle := Finset.card_le_card_of_injOn (s := Finset.range rounds) (t := d.names.toFinset)
    (tried base base counter) (fun i hi => ?_) (tried_injective base counter).injOn
  · rwa [Finset.card_range] at hle
  · have hlt : i < rounds := by simpa using hi
    simpa using hall i hlt

/-- Every search ends. -/
theorem exists_seeks (d : Declarations) (base : String) (counter : Int) :
    ∃ rounds final last, Seeks d base base counter rounds final last := by
  have hfree : ∃ rounds, tried base base counter rounds ∉ d.names := by
    by_contra hnone
    have hall : ∀ i < d.names.toFinset.card + 1, tried base base counter i ∈ d.names := by
      intro i _
      by_contra hi
      exact hnone ⟨i, hi⟩
    have hle := le_of_tried hall
    omega
  classical
  refine ⟨Nat.find hfree, _, _, seeks_iff.mpr ⟨fun i hi => ?_, Nat.find_spec hfree, rfl, rfl⟩⟩
  simpa using Nat.find_min hfree hi

/-- The numbers in front of the one that `seek` gives belong to declared names. -/
theorem seek_least {tries : Nat} {start n : Int} (h : d.seek base tries start = some n) :
    ∀ i, start ≤ i → i < n → numbered base i ∈ d.names := by
  induction tries generalizing start with
  | zero => cases h
  | succ tries ih =>
    intro i hle hlt
    simp only [seek] at h
    split at h
    · rename_i hused
      rcases hle.eq_or_lt with rfl | hlater
      · exact isDeclared_iff.mp hused
      · exact ih h i hlater hlt
    · cases h
      omega

/-- The name and the counter that `uniqueName` gives are those that the search ends with. -/
theorem seeks_uniqueName (d : Declarations) (hint : String) :
    ∃ rounds, Seeks d (baseName hint) (baseName hint) d.counter rounds (d.uniqueName hint).1
      (d.uniqueName hint).2 := by
  by_cases hbase : d.isDeclared (baseName hint) = true
  · obtain ⟨n, hn⟩ := seek_exists d (baseName hint) (d.counter + 1)
    obtain ⟨hfree, hle⟩ := seek_sound hn
    have hunique : d.uniqueName hint = (numbered (baseName hint) n, n) := by
      simp [uniqueName, hbase, hn]
    obtain ⟨rounds, rfl⟩ := Int.le.dest hle
    have htried (i : Nat) : tried (baseName hint) (baseName hint) d.counter (i + 1) =
        numbered (baseName hint) (d.counter + 1 + i) := by
      rw [tried_succ]
      congr 1
      omega
    rw [hunique]
    refine ⟨rounds + 1, seeks_iff.mpr ⟨fun i hi => ?_, hfree, (htried rounds).symm, by omega⟩⟩
    cases i with
    | zero => exact isDeclared_iff.mp hbase
    | succ i =>
      rw [htried]
      exact seek_least hn _ (by omega) (by omega)
  · have hunique : d.uniqueName hint = (baseName hint, d.counter) := by simp [uniqueName, hbase]
    rw [hunique]
    exact ⟨0, .free fun hmem => hbase (isDeclared_iff.mpr hmem)⟩

/-- What a name and the counter behind it have to be for a base name: the base name itself if that is
free, and otherwise the base name with the least free number above the counter. -/
structure Found (d : Declarations) (base : String) (counter : Int) (name : String) (last : Int) :
    Prop where
  free : name ∉ d.names
  plain : base ∉ d.names → name = base ∧ last = counter
  numbered : base ∈ d.names → name = base ++ toString last
  least : base ∈ d.names → IsLeast { n | counter < n ∧ base ++ toString n ∉ d.names } last

theorem Seeks.found (h : Seeks d base base counter rounds final last) :
    Found d base counter final last := by
  obtain ⟨hall, hfree, hfinal, hlast⟩ := seeks_iff.mp h
  -- a search with rounds starts with a declared name and ends with a number
  cases rounds with
  | zero =>
    cases hfinal
    have hbase : base ∉ d.names := hfree
    exact ⟨hfree, fun _ => ⟨rfl, by omega⟩, fun hused => absurd hused hbase,
      fun hused => absurd hused hbase⟩
  | succ rounds =>
    have hused : base ∈ d.names := hall 0 rounds.succ_pos
    rw [tried_succ] at hfinal
    have hnumber : counter + rounds + 1 = last := by omega
    rw [hnumber] at hfinal
    have hnumbered : numbered base last ∉ d.names := hfinal ▸ hfree
    refine ⟨hfree, fun hbase => absurd hused hbase, fun _ => hfinal,
      fun _ => ⟨⟨by omega, hnumbered⟩, ?_⟩⟩
    rintro n ⟨hlt, hn⟩
    by_contra hless
    have hround := hall ((n - counter).toNat) (by omega)
    obtain ⟨i, hi⟩ : ∃ i : Nat, (n - counter).toNat = i + 1 :=
      Nat.exists_eq_succ_of_ne_zero (by omega)
    rw [hi, tried_succ] at hround
    have hsame : counter + i + 1 = n := by omega
    rw [hsame] at hround
    exact hn hround

/-- Whatever is declared, wherever the counter stands and whatever the hint is, the search for a name
ends, after at most as many rounds as there are declared names. It ends with a name that is not
declared: the one that the hint asks for if that is free, and otherwise that one with the least number
above the counter for which it is free, which is the counter from then on. `uniqueName` gives what the
search ends with. -/
theorem name_search_ends (d : Declarations) (hint : String) :
    (∀ counter : Int, ∃ rounds name last,
      Seeks d (baseName hint) (baseName hint) counter rounds name last ∧
        rounds ≤ d.names.toFinset.card ∧ Found d (baseName hint) counter name last) ∧
    (∃ rounds, Seeks d (baseName hint) (baseName hint) d.counter rounds (d.uniqueName hint).1
      (d.uniqueName hint).2 ∧ rounds ≤ d.names.toFinset.card) ∧
    Found d (baseName hint) d.counter (d.uniqueName hint).1 (d.uniqueName hint).2 := by
  have hrounds {counter last : Int} {rounds : Nat} {name : String}
      (h : Seeks d (baseName hint) (baseName hint) counter rounds name last) :
      rounds ≤ d.names.toFinset.card := le_of_tried (seeks_iff.mp h).1
  obtain ⟨rounds, hseeks⟩ := seeks_uniqueName d hint
  refine ⟨fun counter => ?_, ⟨rounds, hseeks, hrounds hseeks⟩, hseeks.found⟩
  obtain ⟨rounds, name, last, h⟩ := exists_seeks d (baseName hint) counter
  exact ⟨rounds, name, last, h, hrounds h, h.found⟩

example : uniqueName { aliases := [("Item", ""), ("Item4", "")], counter := 3 } "item" =
    ("Item5", 5) := by decide

end StructuredOutput.Baml.Declarations
