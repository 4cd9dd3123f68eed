import StructuredOutput.Text.Blank

/-! # The lines of a text

A text has one cutting into lines: each line keeps its end, a carriage return and the line feed behind
it are one end, and only what is left at the end of the text may be a line without one. `lines` is that
cutting, so its lines put together are the text again. -/
namespace StructuredOutput.Text

/-- What ends a line: a character that ends lines, or a carriage return with a line feed. -/
inductive LineEnding : List Char → Prop
  | single {c : Char} : isLineEnd c = true → LineEnding [c]
  | double : LineEnding ['\r', '\n']

/-- A line without its end: no character in it ends a line. -/
def Unended (body : List Char) : Prop := ∀ c ∈ body, isLineEnd c = false

/-- A cutting of a text into lines. A carriage return ends a line on its own only if no line feed is
behind it. -/
inductive Cuts : List Char → List (List Char) → Prop
  | nil : Cuts [] []
  | last {body : List Char} : Unended body → body ≠ [] → Cuts body [body]
  | line {body ending rest : List Char} {pieces : List (List Char)} : Unended body →
      LineEnding ending → (ending = ['\r'] → rest.head? ≠ some '\n') → Cuts rest pieces →
      Cuts (body ++ ending ++ rest) ((body ++ ending) :: pieces)

variable {text rest : List Char} {pieces : List (List Char)} {c : Char}

theorem Cuts.flatten (h : Cuts text pieces) : pieces.flatten = text := by
  induction h with
  | nil => rfl
  | last => exact List.append_nil _
  | line _ _ _ _ ih => rw [List.flatten_cons, ih]

theorem unended_nil : Unended [] := List.forall_mem_nil _

theorem unended_cons {body : List Char} (hc : isLineEnd c = false) (h : Unended body) :
    Unended (c :: body) := List.forall_mem_cons.mpr ⟨hc, h⟩

/-- A line that is nothing but its end. -/
theorem Cuts.ending {ending : List Char} (hending : LineEnding ending)
    (hcut : ending = ['\r'] → rest.head? ≠ some '\n') (h : Cuts rest pieces) :
    Cuts (ending ++ rest) (ending :: pieces) := .line unended_nil hending hcut h

/-- A character that ends no line goes to the first line. -/
theorem Cuts.consLine (h : Cuts text pieces) (hc : isLineEnd c = false) :
    Cuts (c :: text) (Text.consLine c pieces) := by
  cases h with
  | nil => exact .last (unended_cons hc unended_nil) nofun
  | last hbody _ => exact .last (unended_cons hc hbody) nofun
  | line hbody hending hcut hrest => exact .line (unended_cons hc hbody) hending hcut hrest

theorem lines_cuts (text : List Char) : Cuts text (lines text) := by
  fun_induction lines text with
  | case1 => exact .nil
  | case2 rest ih => exact .ending .double nofun ih
  | case3 c rest hcut hc ih =>
    refine .ending (.single hc) (fun hreturn hfeed => ?_) ih
    cases hreturn
    obtain ⟨tail, rfl⟩ := List.head?_eq_some_iff.mp hfeed
    exact hcut tail rfl rfl
  | case4 c rest hcut hc ih => exact ih.consLine (by simpa using hc)

/-- Where a character is no carriage return in front of a line feed, it ends its line or starts one. -/
theorem lines_cons (hcut : c = '\r' → rest.head? ≠ some '\n') :
    lines (c :: rest) = if isLineEnd c then [c] :: lines rest else consLine c (lines rest) := by
  rw [lines.eq_def]
  split
  · contradiction
  · rename_i tail htext
    cases htext
    exact absurd rfl (hcut rfl)
  · rename_i htext
    cases htext
    rfl

theorem lines_of_not_end (hc : isLineEnd c = false) (rest : List Char) :
    lines (c :: rest) = consLine c (lines rest) := by
  have hreturn : c ≠ '\r' := by
    rintro rfl
    cases hc
  rw [lines_cons fun he => absurd he hreturn, hc]
  rfl

theorem lines_ending {ending : List Char} (hending : LineEnding ending)
    (hcut : ending = ['\r'] → rest.head? ≠ some '\n') :
    lines (ending ++ rest) = ending :: lines rest := by
  cases hending with
  | @single c hc =>
    rw [List.singleton_append, lines_cons fun he => hcut (congrArg ([·]) he), if_pos hc]
  | double => rfl

/-- There is one cutting of a text into lines. -/
theorem cuts_iff : Cuts text pieces ↔ pieces = lines text := by
  refine ⟨fun h => ?_, fun h => h ▸ lines_cuts text⟩
  induction h with
  | nil => rfl
  | @last body hbody hne =>
    induction body with
    | nil => exact absurd rfl hne
    | cons c body ih =>
      obtain ⟨hc, hrest⟩ := List.forall_mem_cons.mp hbody
      rw [lines_of_not_end hc]
      cases body with
      | nil => rfl
      | cons c' body => rw [← ih hrest nofun, consLine]
  | @line body ending rest pieces hbody hending hcut _ ih =>
    subst ih
    induction body with
    | nil => exact (lines_ending hending hcut).symm
    | cons c body ih =>
      obtain ⟨hc, hrest⟩ := List.forall_mem_cons.mp hbody
      rw [List.cons_append, List.cons_append, lines_of_not_end hc, ← ih hrest, consLine]

theorem lines_flatten (text : List Char) : (lines text).flatten = text := (lines_cuts text).flatten

/-- A carriage return stays with its line feed, and ends a line on its own elsewhere. -/
example : lines "a\r\n\r\x0cb".toList = ["a\r\n".toList, "\r".toList, "\x0c".toList, "b".toList] := by
  decide

end StructuredOutput.Text
