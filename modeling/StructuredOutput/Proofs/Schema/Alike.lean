import StructuredOutput.Proofs.Schema.ReferenceTexts

/-! # Schemas that differ in annotations

A reader looks up keywords and nothing else; every other key is an annotation. `Alike` says of two
schemas that annotations are put in or left out, at every place where a schema can stand. One test of
a reader looks at more than keywords: whether an alternative says null and nothing else. So what two
alternatives in the same place have in common besides is left open as the parameter `keeps`. -/
namespace StructuredOutput.Schema.Document

open Json (find?)

/-! ## Keywords -/

/-- What a keyword holds: a schema, schemas, the alternatives of a union, the schema or the schemas of
items, schemas under names, definitions, or a value without schemas in it. -/
inductive Part where
  | schema
  | schemas
  | alternatives
  | items
  | named
  | definitions
  | value

/-- What stands under a key that a reader looks up. All other keys are annotations. -/
def keyword? : String → Option Part
  | "$ref" | "const" | "enum" | "type" | "required" | "minItems" | "maxItems" | "description"
  | "default" => some .value
  | "oneOf" | "anyOf" => some .alternatives
  | "allOf" => some .schemas
  | "items" | "prefixItems" => some .items
  | "properties" => some .named
  | "additionalProperties" | "propertyNames" => some .schema
  | "definitions" | "$defs" => some .definitions
  | _ => none

/-- Members with the same keywords in the same order, what stands under them related by `under`,
and annotations put in or left out anywhere. -/
inductive SameKeywords (under : Part → Json → Json → Prop) :
    List (String × Json) → List (String × Json) → Prop
  | nil : SameKeywords under [] []
  | added {key : String} {value : Json} {members members' : List (String × Json)} :
      keyword? key = none → SameKeywords under members members' →
      SameKeywords under members ((key, value) :: members')
  | removed {key : String} {value : Json} {members members' : List (String × Json)} :
      keyword? key = none → SameKeywords under members members' →
      SameKeywords under ((key, value) :: members) members'
  | kept {key : String} {part : Part} {value value' : Json}
      {members members' : List (String × Json)} :
      keyword? key = some part → under part value value' → SameKeywords under members members' →
      SameKeywords under ((key, value) :: members) ((key, value') :: members')

/-- The same names in the same order, with related values. -/
inductive SameNames (related : Json → Json → Prop) :
    List (String × Json) → List (String × Json) → Prop
  | nil : SameNames related [] []
  | cons {name : String} {value value' : Json} {members members' : List (String × Json)} :
      related value value' → SameNames related members members' →
      SameNames related ((name, value) :: members) ((name, value') :: members')

mutual

/-- Two values in the place of a schema that differ in annotations only, at any depth, and whose
alternatives in the same place are related by `keeps`. -/
inductive Alike (keeps : Json → Json → Prop) : Json → Json → Prop
  | same (value : Json) : Alike keeps value value
  | schema {members members' : List (String × Json)} :
      SameKeywords (PartAlike keeps) members members' → Alike keeps (.obj members) (.obj members')

/-- Two values under one keyword that differ in annotations only. -/
inductive PartAlike (keeps : Json → Json → Prop) : Part → Json → Json → Prop
  | same {part : Part} (value : Json) : PartAlike keeps part value value
  | schema {value value' : Json} : Alike keeps value value' → PartAlike keeps .schema value value'
  | schemas {items items' : List Json} :
      List.Forall₂ (Alike keeps) items items' → PartAlike keeps .schemas (.arr items) (.arr items')
  | alternatives {items items' : List Json} :
      List.Forall₂ (Alike keeps) items items' → List.Forall₂ keeps items items' →
      PartAlike keeps .alternatives (.arr items) (.arr items')
  | item {value value' : Json} : Alike keeps value value' → PartAlike keeps .items value value'
  | items {items items' : List Json} :
      List.Forall₂ (Alike keeps) items items' → PartAlike keeps .items (.arr items) (.arr items')
  | named {members members' : List (String × Json)} :
      SameNames (Alike keeps) members members' →
      PartAlike keeps .named (.obj members) (.obj members')
  | definitions {members members' : List (String × Json)} :
      SameNames (Alike keeps) members members' →
      PartAlike keeps .definitions (.obj members) (.obj members')

end

/-! ## Looking keywords up -/

variable {keeps : Json → Json → Prop} {texts : String → Prop}

/-- What two lists of members have in common for a reader that leaves definitions alone: under each
keyword the same part, whose references have their texts among the given ones. -/
structure Lookups (keeps : Json → Json → Prop) (texts : String → Prop)
    (members members' : List (String × Json)) : Prop where
  ref : ∀ text, find? "$ref" members = some (.str text) → texts text
  part : ∀ key part, keyword? key = some part → part ≠ .definitions →
    (find? key members = none ∧ find? key members' = none) ∨
      ∃ value value', find? key members = some value ∧ find? key members' = some value' ∧
        PartAlike keeps part value value' ∧ ∀ text ∈ value.refTexts, texts text

theorem SameKeywords.find {under : Part → Json → Json → Prop}
    {members members' : List (String × Json)} (h : SameKeywords under members members')
    {key : String} {part : Part}
    (hk : keyword? key = some part) :
    (find? key members = none ∧ find? key members' = none) ∨
      ∃ value value', find? key members = some value ∧ find? key members' = some value' ∧
        under part value value' := by
  induction h with
  | nil => exact .inl ⟨rfl, rfl⟩
  | @added k value m m' hn _ ih =>
    have hne : k ≠ key := by rintro rfl; rw [hn] at hk; cases hk
    simpa [find?, hne] using ih
  | @removed k value m m' hn _ ih =>
    have hne : k ≠ key := by rintro rfl; rw [hn] at hk; cases hk
    simpa [find?, hne] using ih
  | @kept k p value value' m m' hp hv _ ih =>
    by_cases hne : k = key
    · subst hne
      rw [hk] at hp
      cases hp
      exact .inr ⟨value, value', by simp [find?], by simp [find?], hv⟩
    · simpa [find?, hne] using ih

theorem Alike.lookups {members : List (String × Json)} {schema' : Json}
    (h : Alike keeps (.obj members) schema')
    (ht : ∀ text ∈ (Json.obj members).refTexts, texts text) :
    ∃ members', schema' = .obj members' ∧ Lookups keeps texts members members' := by
  have hfind : ∀ {key value}, find? key members = some value →
      ∀ text ∈ value.refTexts, texts text := fun hf text hm =>
    ht text (Json.refTexts_of_member (Json.mem_of_find? hf) hm)
  have href : ∀ text, find? "$ref" members = some (.str text) → texts text := fun text hf =>
    ht text (Json.refText_of_member (Json.mem_of_find? hf))
  cases h with
  | same =>
    refine ⟨members, rfl, href, fun key part _ _ => ?_⟩
    cases hf : find? key members with
    | none => exact .inl ⟨rfl, rfl⟩
    | some value => exact .inr ⟨value, value, rfl, rfl, .same value, hfind hf⟩
  | @schema _ members' hm =>
    refine ⟨members', rfl, href, fun key part hk _ => ?_⟩
    exact (hm.find hk).imp_right fun ⟨value, value', hf, hf', hp⟩ =>
      ⟨value, value', hf, hf', hp, hfind hf⟩

theorem Lookups.value {members members' : List (String × Json)}
    (h : Lookups keeps texts members members') (key : String) (hk : keyword? key = some .value) :
    find? key members = find? key members' := by
  rcases h.part key .value hk (by simp) with ⟨hf, hf'⟩ | ⟨value, value', hf, hf', hp, -⟩
  · rw [hf, hf']
  · cases hp
    rw [hf, hf']

/-! ## What stands under a keyword -/

theorem SameNames.refl {related : Json → Json → Prop} (hrefl : ∀ value, related value value)
    (members : List (String × Json)) : SameNames related members members := by
  induction members with
  | nil => exact .nil
  | cons member rest ih => exact .cons (hrefl member.2) ih

theorem SameNames.isEmpty {related : Json → Json → Prop} {members members' : List (String × Json)}
    (h : SameNames related members members') : members.isEmpty = members'.isEmpty := by
  cases h <;> rfl

theorem SameNames.insert {related : Json → Json → Prop} {members members' : List (String × Json)}
    (h : SameNames related members members') {value value' : Json} (hv : related value value')
    (name : String) :
    SameNames related (Json.insert name value members) (Json.insert name value' members') := by
  induction h with
  | nil => exact .cons hv .nil
  | cons hfirst hrest ih =>
    rw [Json.insert, Json.insert]
    split
    · exact .cons hv hrest
    · exact .cons hfirst ih

theorem SameNames.union {related : Json → Json → Prop}
    {first first' members members' : List (String × Json)} (hf : SameNames related first first')
    (h : SameNames related members members') :
    SameNames related (Json.union first members) (Json.union first' members') := by
  induction h generalizing first first' with
  | nil => exact hf
  | cons hv _ ih => exact ih (hf.insert hv _)

theorem SameNames.find {related : Json → Json → Prop} {members members' : List (String × Json)}
    (h : SameNames related members members') (name : String) :
    (find? name members = none ∧ find? name members' = none) ∨
      ∃ value value', find? name members = some value ∧ find? name members' = some value' ∧
        related value value' := by
  induction h with
  | nil => exact .inl ⟨rfl, rfl⟩
  | cons hv _ ih =>
    rw [find?, find?]
    split
    · exact .inr ⟨_, _, rfl, rfl, hv⟩
    · exact ih

theorem SameNames.find?_isSome {related : Json → Json → Prop}
    {members members' : List (String × Json)} (h : SameNames related members members')
    (name : String) : (find? name members).isSome = (find? name members').isSome := by
  rcases h.find name with ⟨hf, hf'⟩ | ⟨value, value', hf, hf', -⟩
  · rw [hf, hf']
  · rw [hf, hf']
    rfl

theorem PartAlike.of_schema {value value' : Json} (h : PartAlike keeps .schema value value') :
    Alike keeps value value' := by
  cases h with
  | same => exact .same value
  | schema h => exact h

theorem PartAlike.of_schemas {value value' : Json} (h : PartAlike keeps .schemas value value') :
    (value = value' ∧ ∀ items, value ≠ .arr items) ∨
      ∃ items items', value = .arr items ∧ value' = .arr items' ∧
        List.Forall₂ (Alike keeps) items items' := by
  cases h with
  | schemas h => exact .inr ⟨_, _, rfl, rfl, h⟩
  | same =>
    cases value with
    | arr items =>
      exact .inr ⟨items, items, rfl, rfl, List.forall₂_same.mpr fun item _ => .same item⟩
    | _ => exact .inl ⟨rfl, nofun⟩

/-- Alternatives in the same place are both null only, or neither is. -/
theorem PartAlike.of_alternatives (hkeeps : ∀ v v', keeps v v' → isNullOnly v = isNullOnly v')
    {value value' : Json} (h : PartAlike keeps .alternatives value value') :
    (value = value' ∧ ∀ items, value ≠ .arr items) ∨
      ∃ items items', value = .arr items ∧ value' = .arr items' ∧
        List.Forall₂ (Alike keeps) items items' ∧
        List.Forall₂ (fun v v' => isNullOnly v = isNullOnly v') items items' := by
  cases h with
  | alternatives h hk => exact .inr ⟨_, _, rfl, rfl, h, hk.imp hkeeps⟩
  | same =>
    cases value with
    | arr items =>
      exact .inr ⟨items, items, rfl, rfl, List.forall₂_same.mpr fun item _ => .same item,
        List.forall₂_same.mpr fun _ _ => rfl⟩
    | _ => exact .inl ⟨rfl, nofun⟩

theorem PartAlike.of_items {value value' : Json} (h : PartAlike keeps .items value value') :
    (Alike keeps value value' ∧ ∀ items, value ≠ .arr items) ∨
      ∃ items items', value = .arr items ∧ value' = .arr items' ∧
        List.Forall₂ (Alike keeps) items items' := by
  have hsame : ∀ items : List Json, List.Forall₂ (Alike keeps) items items :=
    fun items => List.forall₂_same.mpr fun item _ => .same item
  cases h with
  | items h => exact .inr ⟨_, _, rfl, rfl, h⟩
  | same =>
    cases value with
    | arr items => exact .inr ⟨items, items, rfl, rfl, hsame items⟩
    | _ => exact .inl ⟨.same _, nofun⟩
  | item h =>
    cases h with
    | schema h => exact .inl ⟨.schema h, nofun⟩
    | same =>
      cases value with
      | arr items => exact .inr ⟨items, items, rfl, rfl, hsame items⟩
      | _ => exact .inl ⟨.same _, nofun⟩

theorem PartAlike.of_named {value value' : Json} (h : PartAlike keeps .named value value') :
    (value = value' ∧ ∀ members, value ≠ .obj members) ∨
      ∃ members members', value = .obj members ∧ value' = .obj members' ∧
        SameNames (Alike keeps) members members' := by
  cases h with
  | named h => exact .inr ⟨_, _, rfl, rfl, h⟩
  | same =>
    cases value with
    | obj members => exact .inr ⟨members, members, rfl, rfl, .refl .same members⟩
    | _ => exact .inl ⟨rfl, nofun⟩

end StructuredOutput.Schema.Document
