import StructuredOutput.Proofs.Meaning.Types
import StructuredOutput.Proofs.SourceText.LegibleOutput
import StructuredOutput.Proofs.Translation.Termination

/-! # The names of fields

The fields of a class are named one after the other, each outside the names given before it. The search
for such a name is stated as it runs, candidate by candidate, and `freeField` is where it ends. Names
and keys of a whole class are then one function of the list of keys, `titles`. -/
namespace StructuredOutput

/-! ## Plain names -/

namespace Text

/-- A letter or an underscore is what a name may hold and is no digit. -/
theorem startsName_iff (c : Char) :
    (c.isAlpha || c = '_') = true ↔ c.isDigit = false ∧ isFieldChar c = true := by
  have halpha : c.isAlpha = true → c.isDigit = false := by
    unfold Char.isAlpha Char.isUpper Char.isLower Char.isDigit
    grind
  have hline : c = '_' → c.isDigit = false := by
    rintro rfl
    rfl
  unfold isFieldChar Char.isAlphanum
  grind

theorem isPlainName_iff {text : List Char} : isPlainName text = true ↔
    text ≠ [] ∧ startsWithDigit text = false ∧ ∀ c ∈ text, isFieldChar c = true := by
  cases text with
  | nil => simp [isPlainName]
  | cons c rest =>
    rw [isPlainName, Bool.and_eq_true, startsName_iff, List.all_eq_true, List.forall_mem_cons,
      startsWithDigit, and_assoc]
    exact ⟨fun h => ⟨List.cons_ne_nil _ _, h⟩, fun h => h.2⟩

theorem isPlainName_append {a b : List Char} (ha : isPlainName a = true)
    (hb : ∀ c ∈ b, isFieldChar c = true) : isPlainName (a ++ b) = true := by
  obtain ⟨hne, hdigit, hchars⟩ := isPlainName_iff.mp ha
  cases a with
  | nil => exact absurd rfl hne
  | cons c rest =>
    refine isPlainName_iff.mpr ⟨List.cons_ne_nil _ _, hdigit, fun x hx => ?_⟩
    exact (List.mem_append.mp hx).elim (hchars x) (hb x)

/-- Every key is turned into a plain name. -/
theorem isPlainName_fieldName (key : String) : isPlainName (fieldName key).toList = true := by
  have hword := Baml.isWord_fieldName key
  unfold Baml.IsWord at hword
  unfold fieldName at hword ⊢
  dsimp only at hword ⊢
  split
  · rename_i hbad
    rw [if_pos hbad] at hword
    rw [String.toList_append] at hword ⊢
    exact isPlainName_append (by decide) fun c hc => hword c (List.mem_append_right _ hc)
  · rename_i hgood
    rw [if_neg hgood] at hword
    simp only [Bool.or_eq_true, not_or, Bool.not_eq_true] at hgood
    rw [String.toList_ofList] at hword ⊢
    exact isPlainName_iff.mpr ⟨by simpa using hgood.1, hgood.2, hword⟩

/-- A plain name is left as it is. -/
theorem fieldName_of_plain {key : String} (h : isPlainName key.toList = true) :
    fieldName key = key := by
  obtain ⟨hne, hdigit, hchars⟩ := isPlainName_iff.mp h
  have hsame : (key.toList.map fun c => if isFieldChar c then c else '_') = key.toList := by
    rw [List.map_congr_left fun c hc => if_pos (hchars c hc), List.map_id']
  unfold fieldName
  dsimp only
  rw [hsame, if_neg (by simp [hne, hdigit]), String.ofList_toList]

end Text

namespace Baml.Translation

/-! ## The search -/

/-- The search as it runs: a candidate that is used gives way to the numbered form that is next in turn,
and the first candidate that is not used is the name. -/
inductive Settles (used : List String) (base : String) : String → Nat → String → Prop
  | free {name : String} {n : Nat} : name ∉ used → Settles used base name n name
  | next {name final : String} {n : Nat} : name ∈ used →
      Settles used base (base ++ "_" ++ toString n) (n + 1) final → Settles used base name n final

namespace Settles

variable {used used' : List String} {base name final final' : String} {n : Nat}

theorem unique (h : Settles used base name n final) (h' : Settles used base name n final') :
    final = final' := by
  induction h with
  | free hfree =>
    cases h' with
    | free _ => rfl
    | next hused _ => exact absurd hused hfree
  | next hused _ ih =>
    cases h' with
    | free hfree => exact absurd hused hfree
    | next _ hlater => exact ih hlater

theorem congr (h : Settles used base name n final) (hu : ∀ x, x ∈ used ↔ x ∈ used') :
    Settles used' base name n final := by
  induction h with
  | free hfree => exact .free fun hm => hfree ((hu _).mpr hm)
  | next hused _ ih => exact .next ((hu _).mp hused) ih

theorem fresh (h : Settles used base name n final) : final ∉ used := by
  induction h with
  | free hfree => exact hfree
  | next _ _ ih => exact ih

theorem plain (h : Settles used base name n final) (hb : Text.isPlainName base.toList = true)
    (hn : Text.isPlainName name.toList = true) : Text.isPlainName final.toList = true := by
  induction h with
  | free _ => exact hn
  | @next _ _ n _ _ ih =>
    refine ih ?_
    rw [String.append_assoc, String.toList_append]
    refine Text.isPlainName_append hb fun c hc => ?_
    rw [String.toList_append] at hc
    rcases List.mem_append.mp hc with hc | hc
    · exact List.all_eq_true.mp (by decide : ("_".toList.all Text.isFieldChar) = true) c hc
    · exact isWord_toString n c hc

/-- While the numbered forms in front of a free one are used, the search goes on to the free one. -/
theorem numbered {last : Nat} (hfree : base ++ "_" ++ toString (last + 1) ∉ used)
    (hused : ∀ i < last, base ++ "_" ++ toString (i + 1) ∈ used) {i : Nat} (hi : i ≤ last) :
    Settles used base (base ++ "_" ++ toString (i + 1)) (i + 2)
      (base ++ "_" ++ toString (last + 1)) := by
  induction hi using Nat.decreasingInduction with
  | self => exact .free hfree
  | of_succ i hi ih => exact .next (hused i hi) ih

end Settles

/-- The search always ends, and ends with the name that the translator gives. -/
theorem settles_freeField (used : List String) (base : String) :
    Settles used base base 1 (freeField used base) := by
  have hfresh := freeField_fresh used base
  unfold freeField at hfresh ⊢
  split
  · rename_i hbase
    rw [if_pos hbase] at hfresh
    have hbase : base ∈ used := by simpa using hbase
    dsimp only at hfresh ⊢
    rw [List.find?_map] at hfresh ⊢
    cases hfind : (List.range (used.length + 1)).find?
        ((fun name => !used.contains name) ∘ fun n => base ++ "_" ++ toString (n + 1)) with
    | none =>
      rw [hfind] at hfresh
      exact absurd hbase hfresh
    | some last =>
      obtain ⟨hfree, -, hbefore⟩ := List.find?_range_eq_some.mp hfind
      have hused : ∀ i < last, base ++ "_" ++ toString (i + 1) ∈ used := by
        intro i hi
        simpa using hbefore i hi
      exact .next hbase (.numbered (by simpa using hfree) hused (Nat.zero_le last))
  · rename_i hbase
    exact .free (by simpa using hbase)

/-! ## The names of a whole class -/

/-- The names of the fields for a list of keys, each with the key if that is another text. -/
def titles : List String → List String → List (String × Option String)
  | _, [] => []
  | used, key :: rest =>
    let name := freeField used (Text.fieldName key)
    (name, if name = key then none else some key) :: titles (name :: used) rest

end Baml.Translation

namespace Baml

/-- What a field shows of its key: its name, and the key if that is another text. -/
def Field.title (field : Field) : String × Option String := (field.name, field.key)

structure NamedAfter (keys : List String) (fields : List Field) : Prop where
  /-- One field for each key, in order; it holds the key exactly if its name is another text. -/
  each : List.Forall₂
    (fun f key => f.source = key ∧ f.key = if f.name = key then none else some key) fields keys
  plain : ∀ f ∈ fields, Text.isPlainName f.name.toList = true
  distinct : (fields.map (·.name)).Nodup
  /-- The name is where the search among the fields before it ends. -/
  settled : ∀ before f after, fields = before ++ f :: after →
    Translation.Settles (before.map (·.name)) (Text.fieldName f.source) (Text.fieldName f.source) 1
      f.name
  /-- A key that is a plain name is kept, unless a field before it has that name. -/
  kept : ∀ before f after, fields = before ++ f :: after →
    Text.isPlainName f.source.toList = true → f.source ∉ before.map (·.name) → f.name = f.source

namespace Translation

variable {keys used : List String} {fields : List Field}

/-- The first of some fields with given titles, and the fields behind it. -/
theorem titles_cons {key : String} (h : fields.map Field.title = titles used (key :: keys)) :
    ∃ f rest, fields = f :: rest ∧ f.name = freeField used (Text.fieldName key) ∧ f.source = key ∧
      f.key = (if f.name = key then none else some key) ∧
      rest.map Field.title = titles (f.name :: used) keys := by
  cases fields with
  | nil => cases h
  | cons f rest =>
    obtain ⟨hfirst, hrest⟩ := List.cons.inj h
    obtain ⟨hname, hkey⟩ := Prod.mk.inj hfirst
    rw [← hname] at hkey hrest
    refine ⟨f, rest, rfl, hname, ?_, hkey, hrest⟩
    rw [Field.source, hkey]
    split
    · rename_i he
      exact he
    · rfl

theorem each_of_titles (h : fields.map Field.title = titles used keys) : List.Forall₂
    (fun f key => f.source = key ∧ f.key = if f.name = key then none else some key)
    fields keys := by
  induction keys generalizing used fields with
  | nil =>
    rw [List.map_eq_nil_iff.mp h]
    exact .nil
  | cons key rest ih =>
    obtain ⟨f, fields, rfl, -, hsource, hkey, hrest⟩ := titles_cons h
    exact .cons ⟨hsource, hkey⟩ (ih hrest)

theorem distinct_of_titles (h : fields.map Field.title = titles used keys) :
    (fields.map (·.name)).Nodup ∧ ∀ f ∈ fields, f.name ∉ used := by
  induction keys generalizing used fields with
  | nil => simp [List.map_eq_nil_iff.mp h]
  | cons key rest ih =>
    obtain ⟨f, fields, rfl, hname, -, -, hrest⟩ := titles_cons h
    obtain ⟨hnodup, hfresh⟩ := ih hrest
    have hfirst : f.name ∉ used := hname ▸ freeField_fresh used _
    refine ⟨List.nodup_cons.mpr ⟨fun hm => ?_, hnodup⟩, List.forall_mem_cons.mpr ⟨hfirst, ?_⟩⟩
    · obtain ⟨f', hf', he⟩ := List.mem_map.mp hm
      exact hfresh f' hf' (he ▸ List.mem_cons_self)
    · exact fun f' hf' hm => hfresh f' hf' (List.mem_cons_of_mem _ hm)

theorem settles_of_titles {before : List Field} {f : Field} {after : List Field}
    (h : fields.map Field.title = titles used keys) (hf : fields = before ++ f :: after) :
    Settles (before.map (·.name) ++ used) (Text.fieldName f.source) (Text.fieldName f.source) 1
      f.name := by
  induction keys generalizing used fields before with
  | nil =>
    rw [List.map_eq_nil_iff.mp h] at hf
    simp at hf
  | cons key rest ih =>
    obtain ⟨f', fields, rfl, hname, hsource, -, hrest⟩ := titles_cons h
    cases before with
    | nil =>
      cases hf
      rw [hname, hsource]
      exact settles_freeField used _
    | cons f'' before =>
      obtain ⟨rfl, hbehind⟩ := List.cons.inj hf
      refine (ih hrest hbehind).congr fun x => ?_
      simp only [List.mem_append, List.mem_cons, List.map_cons]
      tauto

theorem namedAfter_of_titles (h : fields.map Field.title = titles [] keys) : NamedAfter keys fields := by
  have hsettled (before : List Field) (f : Field) (after : List Field)
      (hf : fields = before ++ f :: after) : Settles (before.map (·.name))
        (Text.fieldName f.source) (Text.fieldName f.source) 1 f.name := by
    have hs := settles_of_titles h hf
    rwa [List.append_nil] at hs
  refine ⟨each_of_titles h, fun f hm => ?_, (distinct_of_titles h).1, hsettled, ?_⟩
  · obtain ⟨before, after, hf⟩ := List.append_of_mem hm
    have hplain := Text.isPlainName_fieldName f.source
    exact (hsettled before f after hf).plain hplain hplain
  · intro before f after hf hplain hnew
    have hs := hsettled before f after hf
    rw [Text.fieldName_of_plain hplain] at hs
    exact hs.unique (.free hnew)

end Translation

end Baml

end StructuredOutput
