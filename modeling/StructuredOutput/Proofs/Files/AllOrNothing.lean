import StructuredOutput.Proofs.Files.Directories
import StructuredOutput.Proofs.Files.Writing

/-! # Writes that are all or nothing

A write through a new file comes to one of three ends: the directories cannot be made; they can, and
the rest of the tree is exactly as before; or the one file of the path has the text. `Writable` says
when it is the last. The new file itself is never left: put at a free place and taken away again, it
leaves the very same tree. -/
namespace StructuredOutput.Files

namespace Path

variable {p : Path} {part part' : String}

/-- Whether a path can be looked for wherever it leads. -/
structure Fits (p : Path) : Prop where
  check : p.check = .ok ()
  short : ∀ part ∈ p.parts, part.utf8ByteSize ≤ maxPart

theorem join_last_size (parts : List String) (h : part.utf8ByteSize ≤ part'.utf8ByteSize) :
    (Json.join "/" (parts ++ [part])).utf8ByteSize ≤
      (Json.join "/" (parts ++ [part'])).utf8ByteSize := by
  induction parts with
  | nil => simpa [Json.join] using h
  | cons first rest ih =>
    cases rest with
    | nil =>
      simp only [List.cons_append, List.nil_append, Json.join, String.utf8ByteSize_append]
      omega
    | cons second rest =>
      simp only [Json.join, List.cons_append, String.utf8ByteSize_append] at ih ⊢
      omega

/-- A shorter part whose characters are among those of the last one fits in its stead. -/
theorem Fits.swap (h : (p.push part').Fits) (hsub : part.toList ⊆ part'.toList)
    (hsize : part.utf8ByteSize ≤ part'.utf8ByteSize) : (p.push part).Fits := by
  obtain ⟨hnull, htext⟩ := check_ok.mp h.check
  refine ⟨check_ok.mpr ⟨?_, ?_⟩, ?_⟩
  · unfold hasNull push at hnull ⊢
    simp only [List.any_append, List.any_cons, List.any_nil, Bool.or_false, Bool.or_eq_false_iff]
      at hnull ⊢
    have hfree := hnull.2
    rw [Bool.eq_false_iff, ne_eq, List.contains_iff_mem] at hfree
    refine ⟨hnull.1, ?_⟩
    rw [Bool.eq_false_iff, ne_eq, List.contains_iff_mem]
    exact fun hm => hfree (hsub hm)
  · have hpush (part : String) :
        (p.push part).text = p.root ++ Json.join "/" (p.parts ++ [part]) := by simp [text, push]
    rw [hpush, String.utf8ByteSize_append] at htext ⊢
    have := join_last_size p.parts hsize
    omega
  · intro part'' hm
    rcases List.mem_append.mp hm with hm | hm
    · exact h.short _ (List.mem_append_left _ hm)
    · cases List.mem_singleton.mp hm
      exact Nat.le_trans hsize (h.short part' (List.mem_append_right _ (List.mem_singleton_self _)))

end Path

namespace Tree

variable {α : Type} {t t' t₁ : Tree α} {cwd place d q : Place} {p : Path} {part : String}

/-! ## New files that go away again -/

theorem put_put (t : Tree α) (place : Place) (first second : Entry α) :
    (t.put place first).put place second = t.put place second := by
  simp [put, List.filter_append, List.filter_filter]

/-- Whatever is listed in a tree stands in it. -/
theorem entry?_of_mem {e : Place × Entry α} (he : e ∈ t.entries) : t.entry? e.1 ≠ none := by
  unfold entry?
  split
  · exact nofun
  · rw [ne_eq, Option.map_eq_none_iff, List.find?_eq_none]
    intro hnone
    exact hnone e he (by simp)

/-- A new entry that is taken away again leaves the very same tree. -/
theorem erase_put (h : t.Closed) (hn : t.entry? place = none) (entry : Entry α) :
    (t.put place entry).erase place = t := by
  have hfree : ∀ e ∈ t.entries, ¬ place <+: e.1 := by
    intro e he hp
    refine entry?_of_mem he ?_
    by_cases heq : place = e.1
    · rw [← heq, hn]
    · exact h.nothing_below (by rw [hn]; exact nofun) hp heq
  have hkeep : t.entries.filter (fun e => e.1 ≠ place) = t.entries := by
    refine List.filter_eq_self.mpr fun e he => decide_eq_true fun heq => hfree e he ?_
    exact heq ▸ List.prefix_rfl
  have herase : t.entries.filter (fun e => !place.isPrefixOf e.1) = t.entries := by
    refine List.filter_eq_self.mpr fun e he => ?_
    rw [Bool.not_eq_true', Bool.eq_false_iff, ne_eq, List.isPrefixOf_iff_prefix]
    exact hfree e he
  have hself : place.isPrefixOf place = true := List.isPrefixOf_iff_prefix.mpr List.prefix_rfl
  unfold erase put
  simp only [hkeep, List.filter_append, herase, List.filter_cons, hself, Bool.not_true,
    Bool.false_eq_true, if_false, List.filter_nil, List.append_nil]

/-! ## Where a path leads below a directory -/

theorem locate_fits (h : t.locate cwd p = .ok q) : p.Fits :=
  ⟨(locate_ok_iff.mp h).1, (locate_ok h).2.1⟩

theorem locate_below (hl : t.locate cwd p = .ok d) (hd : t.entry? d = some .directory)
    (hfits : (p.push part).Fits) : ∃ q, t.locate cwd (p.push part) = .ok q := by
  have hfollow := (locate_ok_iff.mp hl).2
  have hshort : ¬ Path.maxPart < part.utf8ByteSize :=
    Nat.not_lt.mpr (hfits.short part (List.mem_append_right _ (List.mem_singleton_self _)))
  refine ⟨if part = ".." then d.dropLast else d ++ [part],
    locate_ok_iff.mpr ⟨hfits.check, ?_⟩⟩
  show t.follow (if p.root = "" then cwd else []) (p.parts ++ [part]) = _
  rw [follow_append, hfollow]
  simp only [bind, Except.bind, follow, enter_ok.mpr hd, if_neg hshort]

/-- The name of the new file through which a path is written, once its directories are there. -/
def newName (t : Tree α) (cwd : Place) (p : Path) : String :=
  t.freeName (plainPlace cwd p.parent) p.name

/-- Whether a text can be written at a path whose directories are there: the path ends in a name for
a file, the new file can be looked for, the text fits into the tree, and no directory is in the
way. -/
structure Writable (t : Tree α) (cwd : Place) (p : Path) (text : String) : Prop where
  parts : p.parts ≠ []
  name : p.name ≠ ".."
  fits : (p.parent.push (t.newName cwd p)).Fits
  room : t.full = true → text = ""
  free : t.entry? (plainPlace cwd p) ≠ some .directory

theorem Writable.below_root {text : String} (h : t.Writable cwd p text) : plainPlace cwd p ≠ [] := by
  intro hroot
  have hfree := h.free
  rw [hroot] at hfree
  exact hfree rfl

theorem temporaryName_toList (name : String) (n : Nat) :
    name.toList ⊆ (temporaryName name n).toList := by
  intro c hc
  simp [temporaryName, String.toList_append, hc]

theorem temporaryName_size (name : String) (n : Nat) :
    name.utf8ByteSize ≤ (temporaryName name n).utf8ByteSize := by
  simp only [temporaryName, String.utf8ByteSize_append]
  omega

/-- Where the new file can be looked for, so can the file itself. -/
theorem Writable.locate {text : String} (h : t.Writable cwd p text)
    (hd : t.isDirectory cwd p.parent = true) : t.locate cwd p = .ok (plainPlace cwd p) := by
  obtain ⟨d, hl, he⟩ := isDirectory_iff.mp hd
  obtain ⟨n, hn⟩ := freeName_eq t (plainPlace cwd p.parent) p.name
  have hfits := h.fits
  rw [newName, hn] at hfits
  have hname := hfits.swap (temporaryName_toList p.name n) (temporaryName_size p.name n)
  obtain ⟨q, hq⟩ := locate_below hl he hname
  rw [Path.push_parent_name h.parts] at hq
  rw [hq, (locate_ok hq).1]

/-! ## Writing through a new file -/

variable {ofText : String → α} {text : String} {outcome : Except Fault Unit}

/-- A new file at a free place changes no directory. -/
theorem directories_put (hn : t.entry? place = none) (content : α) :
    t.Keeps (t.put place (.file content)) ∧ Keeps (t.put place (.file content)) t := by
  have hne : place ≠ [] := by rintro rfl; cases hn
  refine ⟨keeps_put (by rw [hn]; exact nofun) _, fun q hq => ?_⟩
  rw [entry?_put hne] at hq
  split at hq
  · cases hq
  · exact hq

/-- The new file takes the place of the path, or the path has no name for a file, cannot be located
or leads to a directory. -/
theorem replace_cases (cwd : Place) (p : Path) (h : t.Closed) (hn : t.entry? place = none)
    (content : α) :
    (∃ q, t.locate cwd p = .ok q ∧ p.name ≠ ".." ∧ p.parts ≠ [] ∧
      t.entry? q ≠ some .directory ∧
      replace (t.put place (.file content)) cwd place p = .ok (t.put q (.file content))) ∨
    ((∀ q, t.locate cwd p = .ok q → p.name ≠ ".." → p.parts ≠ [] →
      t.entry? q = some .directory) ∧
      ∃ fault, replace (t.put place (.file content)) cwd place p = .error fault) := by
  have hne : place ≠ [] := by rintro rfl; cases hn
  have hsource : entry? (t.put place (.file content)) place = some (.file content) := by
    rw [entry?_put hne, if_pos rfl]
  obtain ⟨hkeeps, hkept⟩ := directories_put hn content
  simp only [replace, hsource, bind, Except.bind]
  cases hl : locate (t.put place (.file content)) cwd p with
  | error fault =>
    refine .inr ⟨fun q hq => ?_, fault, rfl⟩
    rw [locate_keeps hkeeps hq] at hl
    cases hl
  | ok q =>
    have hq := locate_keeps hkept hl
    dsimp only
    split
    · rename_i hbusy
      refine .inr ⟨fun _ _ hname hparts => ?_, _, rfl⟩
      simp [hname, hparts] at hbusy
    · rename_i hbusy
      simp only [Bool.or_eq_true, decide_eq_true_eq, List.isEmpty_iff, not_or] at hbusy
      split
      · rename_i hd
        refine .inr ⟨fun q' hq' _ _ => ?_, _, rfl⟩
        cases hq.symm.trans hq'
        exact hkept q hd
      · rename_i hd
        refine .inl ⟨q, hq, hbusy.1, hbusy.2, fun hdir => hd (hkeeps q hdir), ?_⟩
        rw [erase_put h hn]
        rfl

/-- What a write through a new file at a free place comes to. -/
theorem writeThrough_cases (h : t.Closed) (hn : t.entry? place = none)
    (hw : writeThrough ofText t cwd p (.str text) place = (outcome, t')) :
    (∃ q, t.locate cwd p = .ok q ∧ p.name ≠ ".." ∧ p.parts ≠ [] ∧ t.entry? q ≠ some .directory ∧
      (t.full = true → text = "") ∧ outcome = .ok () ∧ t' = t.put q (.file (ofText text))) ∨
    ((∀ q, t.locate cwd p = .ok q → p.name ≠ ".." → p.parts ≠ [] →
      (t.full = true → text = "") → t.entry? q = some .directory) ∧
      (∃ fault, outcome = .error fault) ∧ t' = t) := by
  unfold writeThrough fill at hw
  have hfull : (t.put place (.file (ofText ""))).full = t.full := rfl
  dsimp only at hw
  by_cases hroom : t.full = true ∧ text ≠ ""
  · rw [hfull, if_pos (by simpa using hroom)] at hw
    dsimp only at hw
    rw [erase_put h hn] at hw
    cases hw
    exact .inr ⟨fun _ _ _ _ hfits => absurd (hfits hroom.1) hroom.2, ⟨_, rfl⟩, rfl⟩
  · have hfits : t.full = true → text = "" := fun hf => by
      by_contra hne
      exact hroom ⟨hf, hne⟩
    rw [hfull, if_neg (by simpa using hroom), put_put] at hw
    dsimp only at hw
    rcases replace_cases cwd p h hn (ofText text) with
      ⟨q, hl, hname, hparts, hd, hr⟩ | ⟨hnot, fault, hr⟩
    · rw [hr] at hw
      cases hw
      exact .inl ⟨q, hl, hname, hparts, hd, hfits, rfl, rfl⟩
    · rw [hr] at hw
      dsimp only at hw
      rw [erase_put h hn] at hw
      cases hw
      exact .inr ⟨fun q hl hname hparts _ => hnot q hl hname hparts, ⟨fault, rfl⟩, rfl⟩

/-! ## Atomic writes -/

/-- What an atomic write comes to: nothing but directories when it fails, and the text at the path
when it returns. -/
inductive Wrote (ofText : String → α) (t : Tree α) (cwd : Place) (p : Path) (text : String) :
    Except Fault Unit → Tree α → Prop
  | blocked {fault : Fault} {t₁ : Tree α} : t.ensure cwd p.parent = (.error fault, t₁) →
      Wrote ofText t cwd p text (.error fault) t₁
  | refused {fault : Fault} {t₁ : Tree α} : t.ensure cwd p.parent = (.ok (), t₁) →
      ¬ t₁.Writable cwd p text → Wrote ofText t cwd p text (.error fault) t₁
  | done {t₁ : Tree α} : t.ensure cwd p.parent = (.ok (), t₁) → t₁.Writable cwd p text →
      Wrote ofText t cwd p text (.ok ()) (t₁.put (plainPlace cwd p) (.file (ofText text)))

theorem ensure_isDirectory (h : t.ensure cwd p = (.ok (), t₁)) : t₁.isDirectory cwd p = true := by
  have hd := (ensure_ensures h).isDirectory
  rw [reverse_reverse] at hd
  exact hd

theorem atomicWrite_wrote (h : t.Closed) (hc : t.entry? cwd = some .directory)
    (hw : atomicWrite ofText t cwd p (.str text) = (outcome, t')) :
    Wrote ofText t cwd p text outcome t' := by
  unfold atomicWrite at hw
  split at hw
  · rename_i he
    cases hw
    exact .blocked he
  · rename_i t₁ he
    have hadds : Adds (fun _ _ => False) t t₁ := ensure_adds h hc he
    have hclosed := hadds.closed
    have hdir := ensure_isDirectory he
    obtain ⟨d, hl, hd⟩ := isDirectory_iff.mp hdir
    have hplain := (locate_ok hl).1
    have hnew : t₁.freeName d p.name = t₁.newName cwd p := by rw [newName, hplain]
    dsimp only at hw
    rw [hl] at hw
    simp only [bind, Except.bind, hnew] at hw
    cases hplace : t₁.locate cwd (p.parent.push (t₁.newName cwd p)) with
    | error fault =>
      rw [hplace] at hw
      cases hw
      refine .refused he fun hwritable => ?_
      obtain ⟨q, hq⟩ := locate_below hl hd hwritable.fits
      rw [hplace] at hq
      cases hq
    | ok place =>
      rw [hplace] at hw
      dsimp only at hw
      have hfree : t₁.entry? place = none := by
        obtain ⟨n, hn⟩ := freeName_eq t₁ d p.name
        have hup : t₁.newName cwd p ≠ ".." := by
          rw [← hnew, hn]
          exact temporaryName_ne_up p.name n
        rw [(locate_ok hplace).1, plainPlace_push _ _ hup, ← hplain, ← hnew]
        exact freeName_free t₁ d p.name
      rcases writeThrough_cases hclosed hfree hw with
        ⟨q, hq, hname, hparts, hfile, hroom, rfl, rfl⟩ | ⟨hnot, ⟨fault, rfl⟩, rfl⟩
      · rw [(locate_ok hq).1] at hfile ⊢
        exact .done he ⟨hparts, hname, locate_fits hplace, hroom, hfile⟩
      · refine .refused he fun hwritable => hwritable.free ?_
        exact hnot _ (hwritable.locate hdir) hwritable.name hwritable.parts hwritable.room

/-- What stands at a place is what stood there, or a directory that was missing above the path. -/
def Spares (t t' : Tree α) (cwd : Place) (p : Path) (q : Place) : Prop :=
  t'.entry? q = t.entry? q ∨
    t.entry? q = none ∧ t'.entry? q = some .directory ∧ Above cwd p.parent q

theorem ensure_spares (h : t.ensure cwd p.parent = (outcome, t₁)) (q : Place) :
    t.Spares t₁ cwd p q := by
  have hentries := (ensure_ensures h).entries q
  rw [reverse_reverse] at hentries
  exact hentries

namespace Spares

variable {content : α}

theorem file_iff (h : t.Spares t' cwd p q) :
    t'.entry? q = some (.file content) ↔ t.entry? q = some (.file content) := by
  rcases h with he | ⟨hn, hd, -⟩
  · rw [he]
  · simp [hn, hd]

theorem made (h : t.Spares t' cwd p q) (hd : t'.entry? q = some .directory) :
    t.entry? q = some .directory ∨ t.entry? q = none ∧ Above cwd p.parent q := by
  rcases h with he | ⟨hn, -, habove⟩
  · exact .inl (by rw [← he, hd])
  · exact .inr ⟨hn, habove⟩

end Spares

namespace Wrote

theorem raised {fault : Fault} (h : Wrote ofText t cwd p text (.error fault) t') (q : Place) :
    t.Spares t' cwd p q := by
  cases h with
  | blocked he => exact ensure_spares he q
  | refused he => exact ensure_spares he q

/-- When a write returns, the path leads to the text, and every other place is spared. -/
theorem returned (h : Wrote ofText t cwd p text (.ok ()) t') :
    t'.locate cwd p = .ok (plainPlace cwd p) ∧
      t'.entry? (plainPlace cwd p) = some (.file (ofText text)) ∧
      ∀ q, q ≠ plainPlace cwd p → t.Spares t' cwd p q := by
  cases h with
  | @done t₁ he hwritable =>
    refine ⟨locate_keeps (keeps_put hwritable.free _) (hwritable.locate (ensure_isDirectory he)),
      by rw [entry?_put hwritable.below_root, if_pos rfl], fun q hq => ?_⟩
    unfold Spares
    rw [entry?_put hwritable.below_root, if_neg hq]
    exact ensure_spares he q

/-- Directories come up only above the path. -/
theorem made (h : Wrote ofText t cwd p text outcome t') (hd : t'.entry? q = some .directory) :
    t.entry? q = some .directory ∨ t.entry? q = none ∧ Above cwd p.parent q := by
  cases outcome with
  | error fault => exact (h.raised q).made hd
  | ok done =>
    obtain ⟨-, hfile, hothers⟩ := h.returned
    refine (hothers q ?_).made hd
    rintro rfl
    rw [hfile] at hd
    cases hd

end Wrote

/-- The new file has the same name once the file itself is there. -/
theorem Writable.newName_put (h : t.Writable cwd p text) (content : α) :
    newName (t.put (plainPlace cwd p) (.file content)) cwd p = t.newName cwd p := by
  have hplace : plainPlace cwd p = plainPlace cwd p.parent ++ [p.name] := by
    rw [← plainPlace_push _ _ h.name, Path.push_parent_name h.parts]
  refine freeName_congr fun n => ?_
  rw [entry?_put h.below_root, if_neg]
  intro he
  rw [hplace, List.append_cancel_left_eq, List.cons.injEq] at he
  have hsize := congrArg String.utf8ByteSize he.1
  simp only [temporaryName, String.utf8ByteSize_append] at hsize
  have hdot : ".".utf8ByteSize = 1 := rfl
  omega

/-- Writing the same text once more changes nothing, and returns exactly if it did before. -/
theorem atomicWrite_again (h : t.Closed) (hc : t.entry? cwd = some .directory)
    (hw : atomicWrite ofText t cwd p (.str text) = (outcome, t')) :
    ∃ outcome', atomicWrite ofText t' cwd p (.str text) = (outcome', t') ∧
      (outcome' = .ok () ↔ outcome = .ok ()) := by
  have hwrote := atomicWrite_wrote h hc hw
  have hadds := (atomicWrite_adds h hc hw).1
  have hcwd := hadds.directories cwd hc
  generalize hagain : atomicWrite ofText t' cwd p (.str text) = result
  obtain ⟨outcome', t''⟩ := result
  have hwrote' := atomicWrite_wrote hadds.closed hcwd hagain
  cases hwrote with
  | blocked he =>
    obtain ⟨made, hmade, hsame⟩ := ensure_again he
    cases hwrote' with
    | blocked he' =>
      cases hmade.symm.trans he'
      exact ⟨_, rfl, iff_of_false nofun nofun⟩
    | refused he' | done he' =>
      cases hmade.symm.trans he'
      cases hsame.mp rfl
  | refused he hwritable =>
    have hmade := ensureBack_there (ensure_ensures he).isDirectory
    cases hwrote' with
    | blocked he' => cases hmade.symm.trans he'
    | refused he' =>
      cases hmade.symm.trans he'
      exact ⟨_, rfl, iff_of_false nofun nofun⟩
    | done he' hwritable' =>
      cases hmade.symm.trans he'
      exact absurd hwritable' hwritable
  | @done t₁ he hwritable =>
    have hkeeps := keeps_put hwritable.free (.file (ofText text))
    have hmade := ensureBack_there (isDirectory_keeps hkeeps (ensure_ensures he).isDirectory)
    cases hwrote' with
    | blocked he' => cases hmade.symm.trans he'
    | refused he' hwritable' =>
      cases hmade.symm.trans he'
      refine absurd ⟨hwritable.parts, hwritable.name, ?_, hwritable.room, ?_⟩ hwritable'
      · rw [hwritable.newName_put]
        exact hwritable.fits
      · rw [entry?_put hwritable.below_root, if_pos rfl]
        exact nofun
    | done he' =>
      cases hmade.symm.trans he'
      rw [put_put]
      exact ⟨_, rfl, Iff.rfl⟩

end Tree

end StructuredOutput.Files
