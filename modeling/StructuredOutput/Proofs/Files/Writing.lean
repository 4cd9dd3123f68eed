import Mathlib.Data.List.Nodup
import Mathlib.Data.List.Perm.Subperm
import StructuredOutput.Files.Atomic
import StructuredOutput.Proofs.Files.Directories

/-! # What is written adds to a tree

Making directories adds directories, and writing a file adds its content at the place of its path,
whether or not all of it succeeds. An atomic write goes through a new file whose name is free, as
there are more numbered names than entries; whatever happens, that file is gone afterwards. -/
namespace StructuredOutput.Files.Tree

variable {α : Type} {t t' : Tree α} {cwd place : Place} {written : Place → α → Prop}

theorem locate_grounded (h : t.Closed) (hc : t.entry? cwd = some .directory) {p : Path}
    (hl : t.locate cwd p = .ok place) : t.Grounded place :=
  (locate_ok hl).2.2 (h cwd _ hc)

/-! ## Directories -/

theorem Ensures.adds {root : String} {parts : List String} {outcome : Except Fault Unit}
    (he : Ensures cwd root t parts outcome t') (h : t.Closed)
    (hc : t.entry? cwd = some .directory) : Adds written t t' := by
  induction he with
  | there | stuck => exact .refl h
  | made hl hn => exact adds_put_directory h (locate_grounded h hc hl) hn
  | climbed _ _ ih ih' =>
    have hadds := ih h hc
    exact hadds.trans (ih' hadds.closed (hadds.directories cwd hc))
  | fell _ ih => exact ih h hc

theorem ensure_adds {p : Path} {outcome : Except Fault Unit} (h : t.Closed)
    (hc : t.entry? cwd = some .directory) (hm : t.ensure cwd p = (outcome, t')) :
    Adds written t t' :=
  (ensure_ensures hm).adds h hc

/-! ## Files -/

/-- The one content that a write leaves: at the place where its path leads afterwards. -/
def At (t : Tree α) (cwd : Place) (p : Path) (content : α) (q : Place) (c : α) : Prop :=
  t.locate cwd p = .ok q ∧ c = content

theorem At.keeps {p : Path} {content c : α} {q : Place} (h : t.At cwd p content q c)
    (hk : t.Keeps t') : t'.At cwd p content q c :=
  ⟨locate_keeps hk h.1, h.2⟩

theorem write_adds (h : t.Closed) (hc : t.entry? cwd = some .directory) {p : Path} {content : α}
    (hw : t.write cwd p content = .ok t') : Adds (t'.At cwd p content) t t' := by
  simp only [write, bind, Except.bind] at hw
  split at hw
  · cases hw
  · rename_i place hl
    split at hw
    · cases hw
    · rename_i hd
      cases hw
      exact adds_put_file h (locate_grounded h hc hl) hd ⟨locate_keeps (keeps_put hd _) hl, rfl⟩

/-! ## A name for a new file -/

theorem ofDigitChars_zeros (zeros : Nat) (digits : List Char) :
    Nat.ofDigitChars 10 (List.replicate zeros '0' ++ digits) 0 = Nat.ofDigitChars 10 digits 0 := by
  induction zeros with
  | zero => rfl
  | succ zeros ih =>
    rw [List.replicate_succ, List.cons_append]
    exact ih

theorem tag_injective {i j : Nat} (h : tag i = tag j) : i = j := by
  have hvalue (n : Nat) : Nat.ofDigitChars 10 (tag n).toList 0 = n := by
    unfold tag
    dsimp only
    rw [String.toList_ofList, ofDigitChars_zeros, Nat.toString_eq_ofList_toDigits,
      String.toList_ofList]
    simp
  rw [← hvalue i, ← hvalue j, h]

theorem temporaryName_injective {name : String} {i j : Nat}
    (h : temporaryName name i = temporaryName name j) : i = j := by
  unfold temporaryName at h
  have hprefix := (String.append_left_inj ".tmp").mp h
  exact tag_injective ((String.append_right_inj _).mp hprefix)

theorem temporaryName_ne_up (name : String) (n : Nat) : temporaryName name n ≠ ".." := by
  intro h
  have hlast : (temporaryName name n).toList.getLast? = "..".toList.getLast? := by rw [h]
  have hend : ".tmp".toList.getLast? = some 'p' := by decide
  rw [temporaryName, String.toList_append, List.getLast?_append, hend, Option.some_or] at hlast
  exact absurd hlast (by decide)

theorem freeName_eq (t : Tree α) (directory : Place) (name : String) :
    ∃ n, t.freeName directory name = temporaryName name n := by
  unfold freeName
  dsimp only
  cases hf : ((List.range (t.entries.length + 1)).map (temporaryName name)).find? fun new =>
      (t.entry? (directory ++ [new])).isNone with
  | none => exact ⟨0, rfl⟩
  | some new =>
    obtain ⟨n, -, hn⟩ := List.mem_map.mp (List.mem_of_find?_eq_some hf)
    exact ⟨n, hn.symm⟩

/-- Among more names than there are entries one is free. -/
theorem exists_free (t : Tree α) (directory : Place) (name : String) :
    ∃ new, ((List.range (t.entries.length + 1)).map (temporaryName name)).find?
      (fun new => (t.entry? (directory ++ [new])).isNone) = some new := by
  generalize htries : (List.range (t.entries.length + 1)).map (temporaryName name) = tries
  cases hf : tries.find? fun new => (t.entry? (directory ++ [new])).isNone with
  | some new => exact ⟨new, rfl⟩
  | none =>
    have htaken : tries.map (directory ++ [·]) ⊆ t.entries.map (·.1) := by
      intro q hq
      obtain ⟨new, hm, rfl⟩ := List.mem_map.mp hq
      have hsome := List.find?_eq_none.mp hf new hm
      cases he : t.entry? (directory ++ [new]) with
      | none => exact absurd (by rw [he]; rfl) hsome
      | some entry => exact mem_of_entry? (by simp) he
    have hnodup : (tries.map (directory ++ [·])).Nodup := by
      rw [← htries]
      refine (List.Nodup.map (fun i j hij => temporaryName_injective hij) List.nodup_range).map ?_
      intro a b hab
      simpa using hab
    have hle := (List.Nodup.subperm hnodup htaken).length_le
    rw [List.length_map, List.length_map, ← htries, List.length_map, List.length_range] at hle
    omega

theorem freeName_free (t : Tree α) (directory : Place) (name : String) :
    t.entry? (directory ++ [t.freeName directory name]) = none := by
  obtain ⟨new, hnew⟩ := exists_free t directory name
  unfold freeName
  dsimp only
  rw [hnew]
  simpa using List.find?_some hnew

/-- The free name is the first one, so only the entries under such names matter. -/
theorem freeName_congr {directory : Place} {name : String}
    (h : ∀ n, t'.entry? (directory ++ [temporaryName name n]) =
      t.entry? (directory ++ [temporaryName name n])) :
    t'.freeName directory name = t.freeName directory name := by
  have hsame : ∀ m, ((List.range m).map (temporaryName name)).find?
      (fun new => (t'.entry? (directory ++ [new])).isNone) =
      ((List.range m).map (temporaryName name)).find?
        fun new => (t.entry? (directory ++ [new])).isNone := by
    intro m
    simp only [List.find?_map, Function.comp_def, h]
  have hlonger {m k : Nat} (hle : m ≤ k) : (List.range m).map (temporaryName name) <+:
      (List.range k).map (temporaryName name) := by
    have htake : (List.range k).take m = List.range m := by rw [List.take_range, Nat.min_eq_left hle]
    rw [← htake]
    exact (List.take_prefix m _).map _
  obtain ⟨new, hnew⟩ := exists_free t directory name
  obtain ⟨new', hnew'⟩ := exists_free t' directory name
  unfold freeName
  dsimp only
  rw [hnew, hnew', Option.getD_some, Option.getD_some]
  rw [hsame] at hnew'
  rcases Nat.le_total (t.entries.length + 1) (t'.entries.length + 1) with hle | hle
  · rw [(hlonger hle).find?_eq_some hnew] at hnew'
    exact (Option.some.inj hnew').symm
  · rw [(hlonger hle).find?_eq_some hnew'] at hnew
    exact Option.some.inj hnew

/-! ## Atomic writes -/

theorem plainPlace_push (cwd : Place) (p : Path) {part : String} (h : part ≠ "..") :
    plainPlace cwd (p.push part) = plainPlace cwd p ++ [part] := by
  unfold plainPlace Path.push
  rw [List.foldl_append, List.foldl_cons, List.foldl_nil, if_neg h]

/-- A tree in which the same stands everywhere adds nothing. -/
theorem adds_same (h : t.Closed) (he : ∀ q, t'.entry? q = t.entry? q) : Adds written t t' :=
  ⟨h.congr he, fun q hq => by rw [he, hq], fun q c hq => ⟨c, by rw [he, hq]⟩,
    fun q c hq => .inl (by rw [← he, hq])⟩

/-- A new file at a free place that takes the place of a path. -/
theorem replace_adds {filled : Tree α} {p : Path} {content : α} (h : t.Closed)
    (hc : t.entry? cwd = some .directory) (hg : t.Grounded place) (hn : t.entry? place = none)
    (hfilled : ∀ q, filled.entry? q = entry? (t.put place (.file content)) q)
    (hr : filled.replace cwd place p = .ok t') :
    Adds (t'.At cwd p content) t t' ∧ t'.read cwd p = .ok content := by
  have hne : place ≠ [] := by
    rintro rfl
    cases hn
  have hfree : t.entry? place ≠ some .directory := by rw [hn]; simp
  have hsource : filled.entry? place = some (.file content) := by
    rw [hfilled, entry?_put hne, if_pos rfl]
  simp only [replace, hsource, bind, Except.bind] at hr
  split at hr
  · cases hr
  rename_i target hl
  split at hr
  · cases hr
  split at hr
  · cases hr
  rename_i hnodir
  cases hr
  -- the directories are those of the tree before
  have hdirectory (q : Place) :
      filled.entry? q = some .directory ↔ t.entry? q = some .directory := by
    rw [hfilled, entry?_put hne]
    split
    · rename_i hq
      rw [hq, hn]
      simp
    · rfl
  have hgrounded : t.Grounded target := by
    have hclosed : filled.Closed := (closed_put h hg hfree _).congr hfilled
    intro q hq hqt
    exact (hdirectory q).mp (locate_grounded hclosed ((hdirectory cwd).mpr hc) hl q hq hqt)
  have htarget : t.entry? target ≠ some .directory := fun he => hnodir ((hdirectory target).mpr he)
  have htne : target ≠ [] := by
    rintro rfl
    exact htarget rfl
  have hfinal (q : Place) : entry? ((filled.erase place).put target (.file content)) q =
      entry? (t.put target (.file content)) q := by
    rw [entry?_put htne, entry?_put htne, entry?_erase_put h hn hfilled]
  have hlocate : ((filled.erase place).put target (.file content)).locate cwd p = .ok target := by
    refine locate_keeps (fun q hq => ?_) hl
    rw [hfinal]
    exact keeps_put htarget _ q ((hdirectory q).mp hq)
  refine ⟨(adds_put_file h hgrounded htarget ⟨hlocate, rfl⟩).trans
    (adds_same (closed_put h hgrounded htarget _) hfinal), ?_⟩
  simp only [read, hlocate, bind, Except.bind, entry?_put htne, if_true]
  rfl

/-- What the write of a text through a new file at a free place leaves, and what can be read when it
succeeds. -/
theorem writeThrough_adds {ofText : String → α} {p : Path} {text : String}
    {outcome : Except Fault Unit} (h : t.Closed) (hc : t.entry? cwd = some .directory)
    (hg : t.Grounded place) (hn : t.entry? place = none)
    (hw : writeThrough ofText t cwd p (.str text) place = (outcome, t')) :
    Adds (t'.At cwd p (ofText text)) t t' ∧
      (outcome = .ok () → t'.read cwd p = .ok (ofText text)) := by
  unfold writeThrough at hw
  dsimp only at hw
  split at hw
  · cases hw
    exact ⟨adds_same h (entry?_erase_put h hn fun _ => rfl), fun he => nomatch he⟩
  · rename_i filled hf
    have hfilled (q : Place) :
        filled.entry? q = entry? (t.put place (.file (ofText text))) q := by
      have hne : place ≠ [] := by
        rintro rfl
        cases hn
      unfold fill at hf
      dsimp only at hf
      split at hf
      · cases hf
      · cases hf
        rw [entry?_put hne, entry?_put hne, entry?_put hne]
        split <;> rfl
    split at hw
    · cases hw
      exact ⟨adds_same h (entry?_erase_put h hn hfilled), fun he => nomatch he⟩
    · rename_i final hr
      cases hw
      obtain ⟨hadds, hread⟩ := replace_adds h hc hg hn hfilled hr
      exact ⟨hadds, fun _ => hread⟩

/-- An atomic write of a text adds at most the text at the place of its path, and when it succeeds
the text can be read there. -/
theorem atomicWrite_adds {ofText : String → α} {p : Path} {text : String}
    {outcome : Except Fault Unit} (h : t.Closed) (hc : t.entry? cwd = some .directory)
    (hw : atomicWrite ofText t cwd p (.str text) = (outcome, t')) :
    Adds (t'.At cwd p (ofText text)) t t' ∧
      (outcome = .ok () → t'.read cwd p = .ok (ofText text)) := by
  unfold atomicWrite at hw
  split at hw
  · rename_i he
    cases hw
    exact ⟨ensure_adds h hc he, fun he => nomatch he⟩
  · rename_i t₁ he
    have hensured : Adds (t'.At cwd p (ofText text)) t t₁ := ensure_adds h hc he
    have hc₁ := hensured.directories cwd hc
    dsimp only at hw
    split at hw
    · cases hw
      exact ⟨hensured, fun he => nomatch he⟩
    · rename_i place hplace
      simp only [bind, Except.bind] at hplace
      split at hplace
      · cases hplace
      rename_i directory hdirectory
      have hname : t₁.freeName directory p.name ≠ ".." := by
        obtain ⟨n, hn⟩ := freeName_eq t₁ directory p.name
        rw [hn]
        exact temporaryName_ne_up p.name n
      have hfree : t₁.entry? place = none := by
        rw [(locate_ok hplace).1, plainPlace_push _ _ hname, ← (locate_ok hdirectory).1]
        exact freeName_free t₁ directory p.name
      have hgrounded := locate_grounded hensured.closed hc₁ hplace
      obtain ⟨hadds, hread⟩ := writeThrough_adds hensured.closed hc₁ hgrounded hfree hw
      exact ⟨hensured.trans hadds, hread⟩

end StructuredOutput.Files.Tree
