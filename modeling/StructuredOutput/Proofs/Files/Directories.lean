import StructuredOutput.Proofs.Files.Trees

/-! # Making directories

`Ensures` says how the directories of a path are made, from the path upwards until one can be made or
is there, and then down again. Whatever it comes to, it makes directories only, at places above the
path that were free; and making the same directories again changes nothing, whether they could be made or
not. -/
namespace StructuredOutput.Files

/-! ## Paths and the paths above them -/

namespace Path

variable {p : Path} {part : String}

theorem check_ok : p.check = .ok () ↔ p.hasNull = false ∧ p.text.utf8ByteSize ≤ maxText := by
  unfold check
  cases p.hasNull with
  | true => simp
  | false =>
    by_cases hlong : maxText < p.text.utf8ByteSize
    · simp [hlong]
    · simp [hlong, Nat.not_lt.mp hlong]

theorem check_error {fault : Fault} (h : p.check = .error fault) : fault ≠ .file .notFound := by
  unfold check at h
  split at h
  · cases h
    exact nofun
  · split at h
    · cases h
      exact nofun
    · cases h

theorem join_push_size (parts : List String) (part : String) :
    (Json.join "/" parts).utf8ByteSize ≤ (Json.join "/" (parts ++ [part])).utf8ByteSize := by
  induction parts with
  | nil => simp [Json.join]
  | cons first rest ih =>
    cases rest with
    | nil => simp [Json.join, String.utf8ByteSize_append]; omega
    | cons second rest =>
      simp only [Json.join, List.cons_append, String.utf8ByteSize_append] at ih ⊢
      omega

/-- A path above one that may be looked for may be looked for. -/
theorem check_above (h : (p.push part).check = .ok ()) : p.check = .ok () := by
  obtain ⟨hnull, hsize⟩ := check_ok.mp h
  refine check_ok.mpr ⟨?_, ?_⟩
  · unfold hasNull push at *
    rw [List.any_append, Bool.or_eq_false_iff] at hnull
    exact hnull.1
  · have hpush : (p.push part).text = p.root ++ Json.join "/" (p.parts ++ [part]) := by
      simp [text, push]
    rw [hpush, String.utf8ByteSize_append] at hsize
    have hjoin := join_push_size p.parts part
    unfold text
    split
    · decide
    · rw [String.utf8ByteSize_append]
      omega

theorem push_parent_name (h : p.parts ≠ []) : p.parent.push p.name = p := by
  have hlast : p.name = p.parts.getLast h := by
    rw [name, List.getLast?_eq_some_getLast h, Option.getD_some]
  rw [parent, push, hlast, List.dropLast_concat_getLast h]

theorem reverse_push (root : String) (part : String) (above : List String) :
    (⟨root, (part :: above).reverse⟩ : Path) = push ⟨root, above.reverse⟩ part := by
  rw [push, List.reverse_cons]

end Path

namespace Tree

variable {α : Type} {t t' t₁ : Tree α} {cwd place q : Place} {root part : String}
  {parts above : List String} {p : Path}

/-! ## Looking for the next part -/

theorem follow_append (place : Place) (parts more : List String) :
    t.follow place (parts ++ more) = (do
      let q ← t.follow place parts
      t.follow q more) := by
  induction parts generalizing place with
  | nil => rfl
  | cons first rest ih =>
    simp only [List.cons_append, follow, bind, Except.bind]
    cases t.enter place with
    | error fault => rfl
    | ok entered =>
      dsimp only
      split
      · rfl
      · exact ih _

theorem locate_ok_iff : t.locate cwd p = .ok q ↔
    p.check = .ok () ∧ t.follow (if p.root = "" then cwd else []) p.parts = .ok q := by
  simp only [locate, bind, Except.bind]
  cases p.check <;> simp

/-- What can be located below a path stands below a directory. -/
theorem locate_push (h : t.locate cwd (p.push part) = .ok q) :
    ∃ d, t.locate cwd p = .ok d ∧ t.entry? d = some .directory := by
  obtain ⟨hcheck, hfollow⟩ := locate_ok_iff.mp h
  rw [Path.push, follow_append] at hfollow
  simp only [bind, Except.bind] at hfollow
  split at hfollow
  · cases hfollow
  · rename_i d hd
    refine ⟨d, locate_ok_iff.mpr ⟨Path.check_above hcheck, hd⟩, ?_⟩
    simp only [follow, bind, Except.bind] at hfollow
    split at hfollow
    · cases hfollow
    · rename_i henter
      exact enter_ok.mp henter

theorem isDirectory_iff : t.isDirectory cwd p = true ↔
    ∃ d, t.locate cwd p = .ok d ∧ t.entry? d = some .directory := by
  unfold isDirectory lookUp
  cases t.locate cwd p with
  | error fault => simp
  | ok d =>
    cases hd : t.entry? d with
    | none => simp [hd]
    | some entry => cases entry <;> simp [hd]

theorem isDirectory_keeps (hk : t.Keeps t') (h : t.isDirectory cwd p = true) :
    t'.isDirectory cwd p = true := by
  obtain ⟨d, hl, hd⟩ := isDirectory_iff.mp h
  exact isDirectory_iff.mpr ⟨d, locate_keeps hk hl, hk d hd⟩

/-! ## Making one directory -/

theorem makeDirectory_there (h : t.isDirectory cwd p = true) :
    t.makeDirectory cwd p = .error (.file .exists_) := by
  obtain ⟨d, hl, hd⟩ := isDirectory_iff.mp h
  simp only [makeDirectory, hl, hd, bind, Except.bind]
  rfl

def Above (cwd : Place) (p : Path) (q : Place) : Prop :=
  ∃ parts, parts <+: p.parts ∧ q = plainPlace cwd ⟨p.root, parts⟩

theorem Above.push (h : Above cwd p q) (part : String) : Above cwd (p.push part) q := by
  obtain ⟨parts, hp, rfl⟩ := h
  exact ⟨parts, hp.trans (List.prefix_append _ _), rfl⟩

theorem makeDirectory_ok (h : t.makeDirectory cwd p = .ok t') :
    ∃ d, t.locate cwd p = .ok d ∧ t.entry? d = none ∧ t' = t.put d .directory := by
  simp only [makeDirectory, bind, Except.bind] at h
  split at h
  · cases h
  · rename_i d hl
    split at h
    · cases h
    · rename_i hn
      cases h
      exact ⟨d, hl, hn, rfl⟩

/-- Below a directory something is found, or can be made. -/
theorem makeDirectory_below (h : t.isDirectory cwd p = true) {fault : Fault}
    (hm : t.makeDirectory cwd (p.push part) = .error fault) : fault ≠ .file .notFound := by
  obtain ⟨d, hl, hd⟩ := isDirectory_iff.mp h
  simp only [makeDirectory, locate, bind, Except.bind] at hm
  split at hm
  · rename_i hlocate
    split at hlocate
    · rename_i hcheck
      cases hlocate
      cases hm
      exact Path.check_error hcheck
    · have hfollow := (locate_ok_iff.mp hl).2
      rw [Path.push, follow_append, hfollow] at hlocate
      simp only [bind, Except.bind, follow, enter_ok.mpr hd] at hlocate
      split at hlocate
      · cases hlocate
        cases hm
        intro he
        cases he
      · cases hlocate
  · split at hm
    · cases hm
      intro he
      cases he
    · cases hm

/-! ## Making a directory and those above it -/

/-- How the directory whose parts are given last first is made: it is there, cannot be made, is made
alone, or after the one above it; or that one cannot be made. -/
inductive Ensures (cwd : Place) (root : String) :
    Tree α → List String → Except Fault Unit → Tree α → Prop
  | there {t : Tree α} {parts : List String} : t.isDirectory cwd ⟨root, parts.reverse⟩ = true →
      Ensures cwd root t parts (.ok ()) t
  | stuck {t : Tree α} {parts : List String} {fault : Fault} :
      t.isDirectory cwd ⟨root, parts.reverse⟩ = false →
      t.makeDirectory cwd ⟨root, parts.reverse⟩ = .error fault → fault ≠ .file .notFound →
      Ensures cwd root t parts (.error fault) t
  | made {t : Tree α} {parts : List String} {d : Place} :
      t.locate cwd ⟨root, parts.reverse⟩ = .ok d → t.entry? d = none →
      Ensures cwd root t parts (.ok ()) (t.put d .directory)
  | climbed {t t₁ t' : Tree α} {part : String} {above : List String}
      {outcome : Except Fault Unit} : Ensures cwd root t above (.ok ()) t₁ →
      Ensures cwd root t₁ (part :: above) outcome t' →
      Ensures cwd root t (part :: above) outcome t'
  | fell {t t₁ : Tree α} {part : String} {above : List String} {fault : Fault} :
      Ensures cwd root t above (.error fault) t₁ →
      Ensures cwd root t (part :: above) (.error fault) t₁

variable {outcome : Except Fault Unit}

namespace Ensures

/-- What could be made is there afterwards. -/
theorem isDirectory (h : Ensures cwd root t parts (.ok ()) t') :
    t'.isDirectory cwd ⟨root, parts.reverse⟩ = true := by
  generalize ho : Except.ok () = outcome at h
  induction h with
  | there hd => exact hd
  | stuck | fell => cases ho
  | @made t parts d hl hn =>
    have hd : t.entry? d ≠ some .directory := by rw [hn]; exact nofun
    have hne : d ≠ [] := by rintro rfl; exact hd rfl
    refine isDirectory_iff.mpr ⟨d, locate_keeps (keeps_put hd _) hl, ?_⟩
    rw [entry?_put hne, if_pos rfl]
  | climbed _ _ _ ih => exact ih ho

end Ensures

theorem ensureOne_ensures (t : Tree α) (cwd : Place) (root : String) (parts : List String)
    (hfound : ∀ fault,
      t.makeDirectory cwd ⟨root, parts.reverse⟩ = .error fault → fault ≠ .file .notFound) :
    match t.ensureOne cwd ⟨root, parts.reverse⟩ with
    | .ok t' => Ensures cwd root t parts (.ok ()) t'
    | .error fault => Ensures cwd root t parts (.error fault) t := by
  unfold ensureOne
  cases hm : t.makeDirectory cwd ⟨root, parts.reverse⟩ with
  | ok t' =>
    obtain ⟨d, hl, hn, rfl⟩ := makeDirectory_ok hm
    exact .made hl hn
  | error fault =>
    dsimp only
    cases hd : t.isDirectory cwd ⟨root, parts.reverse⟩ with
    | true => exact .there hd
    | false => exact .stuck hd hm (hfound fault hm)

theorem ensureBack_ensures (h : t.ensureBack cwd root parts = (outcome, t')) :
    Ensures cwd root t parts outcome t' := by
  induction parts generalizing outcome t' with
  | nil =>
    have hone := ensureOne_ensures t cwd root [] fun fault hm => ?_
    · unfold ensureBack at h
      rw [List.reverse_nil] at hone
      split at h
      · rename_i he
        cases h
        rw [he] at hone
        exact hone
      · rename_i he
        cases h
        rw [he] at hone
        exact hone
    · simp only [makeDirectory, locate, List.reverse_nil, follow, bind, Except.bind] at hm
      split at hm
      · rename_i hl
        split at hl
        · rename_i hcheck
          cases hl
          cases hm
          exact Path.check_error hcheck
        · cases hl
      · split at hm
        · cases hm
          intro he
          cases he
        · cases hm
  | cons part above ih =>
    unfold ensureBack at h
    dsimp only at h
    split at h
    · rename_i hm
      cases h
      obtain ⟨d, hl, hn, rfl⟩ := makeDirectory_ok hm
      exact .made hl hn
    · split at h
      · rename_i habove
        cases h
        exact .fell (ih habove)
      · rename_i t₁ habove
        have habove := ih habove
        have hone := ensureOne_ensures t₁ cwd root (part :: above) fun fault hm => by
            rw [Path.reverse_push] at hm
            exact makeDirectory_below habove.isDirectory hm
        split at h
        · rename_i he
          cases h
          rw [he] at hone
          exact .climbed habove hone
        · rename_i he
          cases h
          rw [he] at hone
          exact .climbed habove hone
    · rename_i fault hfound hm
      cases h
      cases hd : t.isDirectory cwd ⟨root, (part :: above).reverse⟩ with
      | true => exact .there hd
      | false => exact .stuck hd hm hfound

namespace Ensures

/-- Only directories are made, above the path and where nothing was. -/
theorem entries (h : Ensures cwd root t parts outcome t') (q : Place) :
    t'.entry? q = t.entry? q ∨
      t.entry? q = none ∧ t'.entry? q = some .directory ∧ Above cwd ⟨root, parts.reverse⟩ q := by
  induction h with
  | there | stuck => exact .inl rfl
  | @made t parts d hl hn =>
    have hne : d ≠ [] := by rintro rfl; cases hn
    rw [entry?_put hne]
    by_cases hq : q = d
    · subst hq
      exact .inr ⟨hn, if_pos rfl, parts.reverse, List.prefix_rfl, (locate_ok hl).1⟩
    · exact .inl (if_neg hq)
  | climbed _ _ ih ih' =>
    rcases ih with he | ⟨hn, hd, habove⟩
    · rw [← he]
      exact ih'
    · refine .inr ⟨hn, ?_, ?_⟩
      · rcases ih' with he | ⟨hn', -, -⟩
        · rw [he, hd]
        · rw [hd] at hn'
          cases hn'
      · rw [Path.reverse_push]
        exact habove.push _
  | fell _ ih =>
    rcases ih with he | ⟨hn, hd, habove⟩
    · exact .inl he
    · rw [Path.reverse_push]
      exact .inr ⟨hn, hd, habove.push _⟩

end Ensures

/-- A directory that is there needs no making. -/
theorem ensureBack_there (h : t.isDirectory cwd ⟨root, parts.reverse⟩ = true) :
    t.ensureBack cwd root parts = (.ok (), t) := by
  have hm := makeDirectory_there h
  cases parts with
  | nil =>
    unfold ensureBack ensureOne
    rw [List.reverse_nil] at hm h
    simp only [hm, h, if_true]
  | cons part above =>
    unfold ensureBack
    simp only [hm, h, if_true]

/-- What could not be made cannot be made the next time either, and nothing more is made. -/
theorem Ensures.again {fault : Fault} (h : Ensures cwd root t parts (.error fault) t') :
    ∃ fault', t'.ensureBack cwd root parts = (.error fault', t') := by
  generalize ho : Except.error fault = outcome at h
  induction h with
  | there | made => cases ho
  | @stuck t parts fault hd hm hfound =>
    refine ⟨fault, ?_⟩
    cases parts with
    | nil =>
      unfold ensureBack ensureOne
      rw [List.reverse_nil] at hm hd
      simp only [hm, hd, Bool.false_eq_true, if_false]
    | cons part above =>
      unfold ensureBack
      simp only [hm, hd, Bool.false_eq_true, if_false]
  | climbed _ _ _ ih => exact ih ho
  | @fell t t₁ part above fault _ ih =>
    obtain ⟨fault', hagain⟩ := ih ho
    -- the directory above is not there, so the path leads nowhere
    have hnothing {d : Place} : t₁.locate cwd ⟨root, (part :: above).reverse⟩ ≠ .ok d := by
      intro hl
      rw [Path.reverse_push] at hl
      have habove := ensureBack_there (isDirectory_iff.mpr (locate_push hl))
      rw [hagain] at habove
      cases habove
    have hd : t₁.isDirectory cwd ⟨root, (part :: above).reverse⟩ = false := by
      rw [Bool.eq_false_iff]
      intro hd
      obtain ⟨d, hl, -⟩ := isDirectory_iff.mp hd
      exact hnothing hl
    unfold ensureBack
    dsimp only
    split
    · rename_i hm
      obtain ⟨d, hl, -⟩ := makeDirectory_ok hm
      exact absurd hl hnothing
    · rw [hagain]
      exact ⟨fault', rfl⟩
    · rename_i other _ _
      refine ⟨other, ?_⟩
      simp only [hd, Bool.false_eq_true, if_false]

/-! ## Directories of a path -/

theorem ensure_ensures (h : t.ensure cwd p = (outcome, t')) :
    Ensures cwd p.root t p.parts.reverse outcome t' :=
  ensureBack_ensures h

theorem reverse_reverse (p : Path) : (⟨p.root, p.parts.reverse.reverse⟩ : Path) = p := by
  rw [List.reverse_reverse]

/-- Making directories once more changes nothing. -/
theorem ensure_again (h : t.ensure cwd p = (outcome, t')) :
    ∃ outcome', t'.ensure cwd p = (outcome', t') ∧ (outcome' = .ok () ↔ outcome = .ok ()) := by
  have hensures := ensure_ensures h
  cases outcome with
  | ok done =>
    exact ⟨.ok (), ensureBack_there hensures.isDirectory, iff_of_true rfl rfl⟩
  | error fault =>
    obtain ⟨fault', hagain⟩ := hensures.again
    exact ⟨.error fault', hagain, iff_of_false nofun nofun⟩

end Tree

end StructuredOutput.Files
