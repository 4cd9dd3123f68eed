import StructuredOutput.Json.Basic

/-! # Members and items

An entry found under a key is one of the list, and among distinct keys each entry is found under its
own. What is found is found again when entries have come behind it. In a union the members that come
second are found first. Items that are all strings are a list of texts. -/
namespace StructuredOutput.Json

variable {α : Type} {key : String} {value : α} {members : List (String × α)}

theorem mem_of_find? (h : find? key members = some value) : (key, value) ∈ members := by
  induction members with
  | nil => cases h
  | cons member rest ih =>
    obtain ⟨k, v⟩ := member
    simp only [find?] at h
    split at h
    · rename_i hk
      cases h
      exact hk ▸ List.mem_cons_self
    · exact List.mem_cons_of_mem _ (ih h)

theorem find?_of_mem (hn : (members.map (·.1)).Nodup) (h : (key, value) ∈ members) :
    find? key members = some value := by
  induction members with
  | nil => cases h
  | cons member rest ih =>
    obtain ⟨k, v⟩ := member
    obtain ⟨hk, hr⟩ := List.nodup_cons.mp hn
    rcases List.mem_cons.mp h with he | h
    · cases he
      simp [find?]
    · have hne : k ≠ key := by
        rintro rfl
        exact hk (List.mem_map.mpr ⟨_, h, rfl⟩)
      rw [find?, if_neg hne]
      exact ih hr h

/-- Behind entries under other keys. -/
theorem find?_append_of_mem {before : List (String × α)} (hb : key ∉ before.map (·.1))
    (hn : (members.map (·.1)).Nodup) (h : (key, value) ∈ before ++ members) :
    find? key (before ++ members) = some value := by
  induction before with
  | nil => exact find?_of_mem hn h
  | cons member rest ih =>
    obtain ⟨k, v⟩ := member
    simp only [List.map_cons, List.mem_cons, not_or] at hb
    rw [List.cons_append, find?, if_neg (Ne.symm hb.1)]
    refine ih hb.2 ((List.mem_cons.mp h).resolve_left fun he => ?_)
    exact hb.1 (congrArg Prod.fst he)

theorem find?_of_prefix {later : List (String × α)} (h : members <+: later)
    (hf : find? key members = some value) : find? key later = some value := by
  obtain ⟨more, rfl⟩ := h
  induction members with
  | nil => cases hf
  | cons member rest ih =>
    obtain ⟨k, v⟩ := member
    simp only [find?, List.cons_append] at hf ⊢
    split at hf
    · rename_i hk
      rw [if_pos hk]
      exact hf
    · rename_i hk
      rw [if_neg hk]
      exact ih hf

/-- Among distinct keys the order of the entries does not matter, nor do entries under other keys. -/
theorem find?_congr {members' : List (String × α)} (hn : (members.map (·.1)).Nodup)
    (hn' : (members'.map (·.1)).Nodup)
    (h : ∀ value, (key, value) ∈ members ↔ (key, value) ∈ members') :
    find? key members = find? key members' := by
  refine Option.ext fun value => ?_
  exact ⟨fun hf => find?_of_mem hn' ((h value).mp (mem_of_find? hf)),
    fun hf => find?_of_mem hn ((h value).mpr (mem_of_find? hf))⟩

theorem find?_map_values {β : Type} (f : α → β) (key : String) (members : List (String × α)) :
    find? key (members.map fun member => (member.1, f member.2)) = (find? key members).map f := by
  induction members with
  | nil => rfl
  | cons member rest ih =>
    rw [List.map_cons, find?, find?, ih]
    split <;> rfl

theorem mem_insert {k : String} {v : α} {entry : String × α} (h : entry ∈ insert k v members) :
    entry = (k, v) ∨ entry ∈ members := by
  induction members with
  | nil => exact .inl (List.mem_singleton.mp h)
  | cons member rest ih =>
    obtain ⟨k', v'⟩ := member
    rw [insert] at h
    split at h
    · rename_i hk
      subst hk
      exact (List.mem_cons.mp h).imp_right (List.mem_cons_of_mem _)
    · rcases List.mem_cons.mp h with rfl | h
      · exact .inr List.mem_cons_self
      · exact (ih h).imp_right (List.mem_cons_of_mem _)

/-- Every entry of a union comes from one of its parts. -/
theorem mem_union {first second : List (String × α)} {entry : String × α}
    (h : entry ∈ union first second) : entry ∈ first ∨ entry ∈ second := by
  induction second generalizing first with
  | nil => exact .inl h
  | cons member rest ih =>
    rcases ih h with h | h
    · rcases mem_insert h with rfl | h
      · exact .inr List.mem_cons_self
      · exact .inl h
    · exact .inr (List.mem_cons_of_mem _ h)

theorem find?_insert (k : String) (v : α) (members : List (String × α)) :
    find? key (insert k v members) = if k = key then some v else find? key members := by
  induction members with
  | nil => rfl
  | cons member rest ih =>
    obtain ⟨k', v'⟩ := member
    rw [insert]
    by_cases hk : k' = k
    · subst hk
      rw [if_pos rfl, find?, find?]
      split <;> rfl
    · rw [if_neg hk, find?, find?, ih]
      by_cases hkey : k' = key
      · rw [if_pos hkey, if_pos hkey, if_neg fun he => hk (hkey.trans he.symm)]
      · rw [if_neg hkey, if_neg hkey]

theorem find?_union {first second : List (String × α)} (hn : (second.map (·.1)).Nodup) :
    find? key (union first second) = (find? key second).or (find? key first) := by
  induction second generalizing first with
  | nil => rfl
  | cons member rest ih =>
    obtain ⟨k, v⟩ := member
    obtain ⟨hk, hr⟩ := List.nodup_cons.mp hn
    have hunion : union first ((k, v) :: rest) = union (insert k v first) rest := rfl
    rw [hunion, ih hr, find?_insert, find?]
    by_cases he : k = key
    · have hnone : find? key rest = none := by
        refine Option.eq_none_iff_forall_ne_some.mpr fun value hf => hk ?_
        exact List.mem_map.mpr ⟨_, mem_of_find? hf, he.symm⟩
      rw [hnone, if_pos he, if_pos he]
      rfl
    · rw [if_neg he, if_neg he]

theorem exists_texts {items : List Json} (h : ∀ item ∈ items, item.toStr?.isSome = true) :
    ∃ texts : List String, items = texts.map .str := by
  induction items with
  | nil => exact ⟨[], rfl⟩
  | cons item rest ih =>
    obtain ⟨texts, rfl⟩ := ih fun item hm => h item (List.mem_cons_of_mem _ hm)
    have hitem := h item List.mem_cons_self
    cases item with
    | str text => exact ⟨text :: texts, rfl⟩
    | null | bool | int | float | arr | obj => cases hitem

end StructuredOutput.Json
