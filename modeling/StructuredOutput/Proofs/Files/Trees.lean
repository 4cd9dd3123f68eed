import StructuredOutput.Files.Tree

/-! # Trees that only grow

What a tree says is read off its places. A tree is closed when everything in it stands in
directories, and then a path that can be followed leads to a place whose directories are there. One
tree adds to another when directories stay directories and files stay files; new contents stand only
where they may be written. Every operation that puts one entry where no directory stands adds to the
tree, so a path that leads to a file goes on leading to one. -/
namespace StructuredOutput.Files.Tree

variable {α : Type} {t t' : Tree α} {place q : Place}

/-! ## Places -/

theorem find?_filtered (keep : Place → Bool) (entries : List (Place × Entry α)) :
    (entries.filter fun e => keep e.1).find? (fun e => e.1 = q) =
      if keep q then entries.find? fun e => e.1 = q else none := by
  induction entries with
  | nil => simp
  | cons e rest ih =>
    by_cases he : e.1 = q
    · cases hk : keep q with
      | true => simp [he, hk]
      | false => simp [he, hk, ih]
    · cases hk : keep e.1 with
      | true => simp [he, hk, ih]
      | false => simp [he, hk, ih]

theorem entry?_put (hne : place ≠ []) (entry : Entry α) :
    entry? (t.put place entry) q = if q = place then some entry else t.entry? q := by
  unfold entry? put
  by_cases hq : q = []
  · subst hq
    rw [if_neg (Ne.symm hne)]
    rfl
  · have hempty : q.isEmpty = false := by simpa using hq
    have hfiltered := find?_filtered (q := q) (fun p => decide (p ≠ place)) t.entries
    simp only [hempty, Bool.false_eq_true, if_false, List.find?_append, hfiltered,
      List.find?_singleton]
    by_cases he : q = place
    · simp [he]
    · simp [he, Ne.symm he]

theorem entry?_erase (hne : q ≠ []) :
    entry? (t.erase place) q = if place <+: q then none else t.entry? q := by
  have hempty : q.isEmpty = false := by simpa using hne
  have hfiltered := find?_filtered (q := q) (fun p => !place.isPrefixOf p) t.entries
  unfold entry? erase
  simp only [hempty, Bool.false_eq_true, if_false, hfiltered]
  by_cases hp : place <+: q
  · simp [hp, List.isPrefixOf_iff_prefix.mpr hp]
  · have hbool : place.isPrefixOf q = false := by
      rw [Bool.eq_false_iff, ne_eq, List.isPrefixOf_iff_prefix]
      exact hp
    simp [hp, hbool]

theorem mem_of_entry? {entry : Entry α} (hne : place ≠ []) (h : t.entry? place = some entry) :
    place ∈ t.entries.map (·.1) := by
  have hempty : place.isEmpty = false := by simpa using hne
  unfold entry? at h
  rw [hempty] at h
  obtain ⟨e, he, -⟩ := Option.map_eq_some_iff.mp h
  have hp := List.find?_some he
  simp only [decide_eq_true_eq] at hp
  exact List.mem_map.mpr ⟨e, List.mem_of_find?_eq_some he, hp⟩

/-! ## Closed trees -/

def Grounded (t : Tree α) (place : Place) : Prop :=
  ∀ q, q <+: place → q ≠ place → t.entry? q = some .directory

def Closed (t : Tree α) : Prop := ∀ place entry, t.entry? place = some entry → t.Grounded place

theorem grounded_push (h : t.Grounded place) (hd : t.entry? place = some .directory)
    (part : String) : t.Grounded (place ++ [part]) := by
  intro q hq hne
  rcases List.prefix_concat_iff.mp hq with rfl | hq
  · exact absurd rfl hne
  · by_cases he : q = place
    · rw [he]
      exact hd
    · exact h q hq he

theorem grounded_dropLast (h : t.Grounded place) : t.Grounded place.dropLast := by
  intro q hq hne
  refine h q (hq.trans (List.dropLast_prefix place)) ?_
  rintro rfl
  exact hne (hq.eq_of_length_le (List.dropLast_prefix q).length_le)

/-- Nothing stands below a place where no directory is. -/
theorem Closed.nothing_below (h : t.Closed) (hd : t.entry? place ≠ some .directory)
    (hq : place <+: q) (hne : place ≠ q) : t.entry? q = none := by
  cases he : t.entry? q with
  | none => rfl
  | some entry => exact absurd (h q entry he place hq hne) hd

/-! ## Following paths -/

/-- The place that parts lead to from another when nothing on the way is looked at. -/
theorem follow_ok {parts : List String} (h : t.follow place parts = .ok q) :
    q = parts.foldl (fun place part => if part = ".." then place.dropLast else place ++ [part])
      place ∧ (∀ part ∈ parts, part.utf8ByteSize ≤ Path.maxPart) ∧
      (t.Grounded place → t.Grounded q) := by
  induction parts generalizing place with
  | nil =>
    cases h
    exact ⟨rfl, by simp, id⟩
  | cons part rest ih =>
    simp only [follow, bind, Except.bind] at h
    split at h
    · cases h
    · rename_i henter
      split at h
      · cases h
      · rename_i hsize
        obtain ⟨hq, hparts, hground⟩ := ih h
        refine ⟨hq, List.forall_mem_cons.mpr ⟨Nat.le_of_not_lt hsize, hparts⟩, fun hg => hground ?_⟩
        have hd : t.entry? place = some .directory := by
          unfold enter at henter
          split at henter
          · assumption
          · cases henter
          · cases henter
        split
        · exact grounded_dropLast hg
        · exact grounded_push hg hd part

theorem locate_ok {cwd : Place} {p : Path} (h : t.locate cwd p = .ok q) :
    q = plainPlace cwd p ∧ (∀ part ∈ p.parts, part.utf8ByteSize ≤ Path.maxPart) ∧
      (t.Grounded cwd → t.Grounded q) := by
  simp only [locate, bind, Except.bind] at h
  split at h
  · cases h
  · obtain ⟨hq, hparts, hground⟩ := follow_ok h
    refine ⟨hq, hparts, fun hg => hground ?_⟩
    split
    · exact hg
    · intro place hp hne
      exact absurd (List.prefix_nil.mp hp) hne

def Keeps (t t' : Tree α) : Prop :=
  ∀ q, t.entry? q = some .directory → t'.entry? q = some .directory

theorem enter_ok : t.enter place = .ok () ↔ t.entry? place = some .directory := by
  unfold enter
  split <;> simp_all

theorem follow_keeps (hk : t.Keeps t') {parts : List String} (h : t.follow place parts = .ok q) :
    t'.follow place parts = .ok q := by
  induction parts generalizing place with
  | nil => exact h
  | cons part rest ih =>
    simp only [follow, bind, Except.bind] at h ⊢
    split at h
    · cases h
    · rename_i henter
      rw [enter_ok.mpr (hk place (enter_ok.mp henter))]
      split at h
      · cases h
      · rename_i hsize
        simp only [hsize]
        exact ih h

theorem locate_keeps (hk : t.Keeps t') {cwd : Place} {p : Path} (h : t.locate cwd p = .ok q) :
    t'.locate cwd p = .ok q := by
  simp only [locate, bind, Except.bind] at h ⊢
  split at h
  · cases h
  · exact follow_keeps hk h

/-- Looking for a short path fails only where something on the way is missing. -/
theorem follow_short {parts : List String}
    (hshort : ∀ part ∈ parts, part.utf8ByteSize ≤ Path.maxPart) {fault : Fault}
    (h : t.follow place parts = .error fault) : fault ≠ .file .nameTooLong := by
  induction parts generalizing place with
  | nil => cases h
  | cons part rest ih =>
    obtain ⟨hpart, hrest⟩ := List.forall_mem_cons.mp hshort
    simp only [follow, bind, Except.bind] at h
    split at h
    · rename_i henter
      cases h
      unfold enter at henter
      split at henter
      · cases henter
      · cases henter; simp
      · cases henter; simp
    · rw [if_neg (Nat.not_lt.mpr hpart)] at h
      exact ih hrest h

theorem isFile_true {cwd : Place} {p : Path} :
    t.isFile cwd p = .ok true ↔
      ∃ place content, t.locate cwd p = .ok place ∧ t.entry? place = some (.file content) := by
  unfold isFile
  cases hl : t.locate cwd p with
  | ok place =>
    cases he : t.entry? place with
    | none => simp [he]
    | some entry => cases entry <;> simp [he]
  | error fault =>
    simp only [reduceCtorEq, false_and, exists_false, iff_false]
    split <;> simp_all

/-- Whether a short path can be looked for depends on its text alone. -/
theorem isFile_error {cwd : Place} {p : Path} {fault : Fault}
    (h : t.isFile cwd p = .error fault) : fault = .file .nameTooLong := by
  unfold isFile at h
  split at h
  · split at h <;> cases h
  · cases h
    rfl
  · cases h

theorem isFile_short {cwd : Place} {p : Path} {b : Bool}
    (hshort : ∀ part ∈ p.parts, part.utf8ByteSize ≤ Path.maxPart) (h : t.isFile cwd p = .ok b)
    (t' : Tree α) : ∃ b', t'.isFile cwd p = .ok b' := by
  have hcheck : p.check ≠ .error (.file .nameTooLong) := by
    intro hc
    simp [isFile, locate, hc, bind, Except.bind] at h
  unfold isFile
  cases hl : t'.locate cwd p with
  | ok place =>
    cases he : t'.entry? place with
    | none => exact ⟨false, by simp [he]⟩
    | some entry => cases entry <;> exact ⟨_, by simp [he]; rfl⟩
  | error fault =>
    have hfault : fault ≠ .file .nameTooLong := by
      simp only [locate, bind, Except.bind] at hl
      split at hl
      · rename_i hc
        cases hl
        rintro rfl
        exact hcheck hc
      · exact follow_short hshort hl
    refine ⟨false, ?_⟩
    split
    · rename_i he; cases he
    · rename_i he; cases he; exact absurd rfl hfault
    · rfl

/-! ## Trees that add to others -/

/-- Whether a closed tree has all directories and files of another, and new contents only where they
may be written. -/
structure Adds (written : Place → α → Prop) (t t' : Tree α) : Prop where
  closed : t'.Closed
  directories : t.Keeps t'
  files : ∀ q content, t.entry? q = some (.file content) →
    ∃ content', t'.entry? q = some (.file content')
  contents : ∀ q content, t'.entry? q = some (.file content) →
    t.entry? q = some (.file content) ∨ written q content

namespace Adds

variable {written written' : Place → α → Prop}

theorem refl (h : t.Closed) : Adds written t t :=
  ⟨h, fun _ hd => hd, fun _ content hf => ⟨content, hf⟩, fun _ _ hf => .inl hf⟩

theorem trans {t₁ : Tree α} (h : Adds written t t₁) (h' : Adds written t₁ t') :
    Adds written t t' := by
  refine ⟨h'.closed, fun q hd => h'.directories q (h.directories q hd), fun q content hf => ?_,
    fun q content hf => ?_⟩
  · obtain ⟨content₁, hf₁⟩ := h.files q content hf
    exact h'.files q content₁ hf₁
  · rcases h'.contents q content hf with hf | hw
    · exact h.contents q content hf
    · exact .inr hw

theorem mono (h : Adds written t t') (hw : ∀ q content, written q content → written' q content) :
    Adds written' t t' :=
  ⟨h.closed, h.directories, h.files,
    fun q content hf => (h.contents q content hf).imp_right (hw q content)⟩

theorem isFile (h : Adds written t t') {cwd : Place} {p : Path} (hf : t.isFile cwd p = .ok true) :
    t'.isFile cwd p = .ok true := by
  obtain ⟨place, content, hl, he⟩ := isFile_true.mp hf
  obtain ⟨content', he'⟩ := h.files place content he
  exact isFile_true.mpr ⟨place, content', locate_keeps h.directories hl, he'⟩

end Adds

/-- Only what stands at the places of a tree matters. -/
theorem Closed.congr (h : t.Closed) (he : ∀ q, t'.entry? q = t.entry? q) : t'.Closed := by
  intro place entry hp q hq hne
  rw [he] at hp ⊢
  exact h place entry hp q hq hne

theorem closed_put (h : t.Closed) (hg : t.Grounded place) (hd : t.entry? place ≠ some .directory)
    (entry : Entry α) : (t.put place entry).Closed := by
  have hne : place ≠ [] := by rintro rfl; exact hd rfl
  intro q e he r hr hrq
  rw [entry?_put hne] at he
  have hdirectory : t.entry? r = some .directory := by
    split at he
    · rename_i hq
      subst hq
      exact hg r hr hrq
    · exact h q e he r hr hrq
  have hrp : r ≠ place := by
    rintro rfl
    exact hd hdirectory
  rw [entry?_put hne, if_neg hrp, hdirectory]

theorem keeps_put (hd : t.entry? place ≠ some .directory) (entry : Entry α) :
    t.Keeps (t.put place entry) := by
  have hne : place ≠ [] := by rintro rfl; exact hd rfl
  intro q hq
  have hqp : q ≠ place := by
    rintro rfl
    exact hd hq
  rw [entry?_put hne, if_neg hqp, hq]

/-- A file may take a place where no directory stands. -/
theorem adds_put_file {written : Place → α → Prop} (h : t.Closed) (hg : t.Grounded place)
    (hd : t.entry? place ≠ some .directory) {content : α} (hw : written place content) :
    Adds written t (t.put place (.file content)) := by
  have hne : place ≠ [] := by rintro rfl; exact hd rfl
  refine ⟨closed_put h hg hd _, keeps_put hd _, fun q c hc => ?_, fun q c hc => ?_⟩
  · rw [entry?_put hne]
    split
    · exact ⟨content, rfl⟩
    · exact ⟨c, hc⟩
  · rw [entry?_put hne] at hc
    split at hc
    · rename_i hq
      cases hc
      exact .inr (hq ▸ hw)
    · exact .inl hc

/-- A directory may take a free place. -/
theorem adds_put_directory {written : Place → α → Prop} (h : t.Closed) (hg : t.Grounded place)
    (hn : t.entry? place = none) : Adds written t (t.put place .directory) := by
  have hd : t.entry? place ≠ some .directory := by rw [hn]; simp
  have hne : place ≠ [] := by rintro rfl; exact hd rfl
  refine ⟨closed_put h hg hd _, keeps_put hd _, fun q c hc => ?_, fun q c hc => ?_⟩
  · have hqp : q ≠ place := by
      rintro rfl
      rw [hn] at hc
      cases hc
    exact ⟨c, by rw [entry?_put hne, if_neg hqp, hc]⟩
  · rw [entry?_put hne] at hc
    split at hc
    · cases hc
    · exact .inl hc

/-- An entry that is put at a free place and taken away again leaves everything as it was. -/
theorem entry?_erase_put (h : t.Closed) (hn : t.entry? place = none) {entry : Entry α}
    (hput : ∀ q, t'.entry? q = entry? (t.put place entry) q) (q : Place) :
    entry? (t'.erase place) q = t.entry? q := by
  have hne : place ≠ [] := by
    rintro rfl
    cases hn
  by_cases hq : q = []
  · subst hq
    rfl
  · rw [entry?_erase hq, hput, entry?_put hne]
    by_cases hp : place <+: q
    · rw [if_pos hp]
      by_cases he : place = q
      · rw [← he, hn]
      · exact (h.nothing_below (by rw [hn]; simp) hp he).symm
    · have hqp : q ≠ place := by
        rintro rfl
        exact hp List.prefix_rfl
      rw [if_neg hp, if_neg hqp]

end StructuredOutput.Files.Tree
