import StructuredOutput.Json.Printer
import StructuredOutput.Proofs.Json.QuotedText

/-! # Values on one line

What is written for a value has no line end: in a string it is escaped, and nothing else that is
written contains one. -/
namespace StructuredOutput

def OneLine (text : String) : Prop := '\n' ∉ text.toList

theorem OneLine.append {a b : String} (ha : OneLine a) (hb : OneLine b) : OneLine (a ++ b) := by
  unfold OneLine at *
  rw [String.toList_append, List.mem_append]
  exact fun h => h.elim ha hb

theorem oneLine_toString (n : Nat) : OneLine (toString n) := by
  intro h
  rw [Nat.toString_eq_ofList_toDigits, String.toList_ofList] at h
  have hd := Nat.isDigit_of_mem_toDigits (by decide) (by decide) h
  revert hd
  decide

namespace Numeral.Layout

theorem oneLine_positional {ds : List Char} (h : '\n' ∉ ds) (point : Int) :
    '\n' ∉ positional ds point := by
  have htake (n : Nat) : '\n' ∉ ds.take n := fun hm => h (List.mem_of_mem_take hm)
  have hdrop (n : Nat) : '\n' ∉ ds.drop n := fun hm => h (List.mem_of_mem_drop hm)
  unfold positional
  dsimp only
  split
  · simp [h]
  split
  · simp [h]
  · simp [htake, hdrop]

theorem oneLine_scientific {ds : List Char} (h : '\n' ∉ ds) (point : Int) :
    '\n' ∉ scientific ds point := by
  have htake : '\n' ∉ ds.take 1 := fun hm => h (List.mem_of_mem_take hm)
  have hfraction : '\n' ∉ (if ds.length ≤ 1 then [] else '.' :: ds.drop 1) := by
    split
    · simp
    · exact fun hm => (List.mem_cons.mp hm).elim (by decide) fun hm => h (List.mem_of_mem_drop hm)
  have hsize : ∀ size : List Char, '\n' ∉ size →
      '\n' ∉ (if size.length < 2 then '0' :: size else size) := by
    intro size hs
    split
    · exact fun hm => (List.mem_cons.mp hm).elim (by decide) hs
    · exact hs
  have hsign : '\n' ≠ (if point - 1 < 0 then '-' else '+') := by split <;> decide
  unfold scientific
  dsimp only
  simp only [List.mem_append, List.mem_cons, not_or]
  exact ⟨⟨htake, hfraction⟩, by decide, hsign, hsize _ (oneLine_toString _)⟩

theorem oneLine_text (x : Binary64) : OneLine (json.text x) := by
  have hminus (negative : Bool) : OneLine (if negative then "-" else "") := by
    cases negative <;> simp [OneLine]
  cases x with
  | nan => simp [OneLine, text, json]
  | infinite negative => exact (hminus negative).append (by simp [OneLine, json])
  | finite negative m e =>
    refine (hminus negative).append ?_
    unfold OneLine
    rw [String.toList_ofList]
    split
    · decide
    · dsimp only
      split
      · exact oneLine_positional (oneLine_toString _) _
      · exact oneLine_scientific (oneLine_toString _) _

end Numeral.Layout

namespace Json

theorem oneLine_quoteString (text : String) : OneLine (quoteString text) := by
  have hin : '\n' ∉ encode text.toList := by
    intro h
    obtain ⟨c, -, hc⟩ := List.mem_flatMap.mp h
    exact absurd (escape_controlFree c _ hc) (by decide)
  simp [OneLine, quoteString, hin]

theorem oneLine_join {separator : String} (hs : OneLine separator) {texts : List String}
    (h : ∀ text ∈ texts, OneLine text) : OneLine (join separator texts) := by
  induction texts with
  | nil => simp [OneLine, join]
  | cons first rest ih =>
    obtain ⟨hfirst, hrest⟩ := List.forall_mem_cons.mp h
    cases rest with
    | nil => exact hfirst
    | cons next more => exact (hfirst.append hs).append (ih hrest)

mutual

theorem oneLine_quote (value : Json) : OneLine value.quote := by
  match value with
  | .null => simp [OneLine, quote]
  | .bool b => cases b <;> simp [OneLine, quote]
  | .int n =>
    unfold quote
    cases n with
    | ofNat n => exact oneLine_toString n
    | negSucc n => exact OneLine.append (a := "-") (by simp [OneLine]) (oneLine_toString (n + 1))
  | .float x => exact Numeral.Layout.oneLine_text x
  | .str text => exact oneLine_quoteString text
  | .arr items =>
    have hs : OneLine ", " := by simp [OneLine]
    have hj := oneLine_join hs (oneLine_quoteItems items)
    exact (OneLine.append (by simp [OneLine]) hj).append (by simp [OneLine])
  | .obj members =>
    have hs : OneLine ", " := by simp [OneLine]
    have hj := oneLine_join hs (oneLine_quoteMembers members)
    exact (OneLine.append (by simp [OneLine]) hj).append (by simp [OneLine])

theorem oneLine_quoteItems (items : List Json) : ∀ text ∈ quoteItems items, OneLine text := by
  match items with
  | [] => exact fun _ h => nomatch h
  | item :: rest =>
    exact List.forall_mem_cons.mpr ⟨oneLine_quote item, oneLine_quoteItems rest⟩

theorem oneLine_quoteMembers (members : List (String × Json)) :
    ∀ text ∈ quoteMembers members, OneLine text := by
  match members with
  | [] => exact fun _ h => nomatch h
  | (key, value) :: rest =>
    refine List.forall_mem_cons.mpr ⟨?_, oneLine_quoteMembers rest⟩
    exact ((oneLine_quoteString key).append (by simp [OneLine])).append (oneLine_quote value)

end

end Json

end StructuredOutput
