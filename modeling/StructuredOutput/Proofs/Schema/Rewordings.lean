import StructuredOutput.Proofs.Schema.Definitions

/-! # Reading two schemas side by side

Two schemas of one form are read side by side, each at its place of its document. They have the same
keywords, and what stands under a keyword may differ at a spot: the properties of an object, which a
relation that stays open says how they may differ. The results agree in every relation of nodes that
each form of node keeps, as soon as they do at the spots; a fault is the same one, only the place that it
names may be another. Without any spots this says that a node does not depend on its place. -/
namespace StructuredOutput.Schema.Document

open Json (find?)

/-! ## Results that agree -/

/-- Two results of reading agree: what was read is related, or both are one fault; if that is about
something unsupported, it may name different places. -/
inductive Agree {α : Type} (related : α → α → Prop) : Except Fault α → Except Fault α → Prop
  | ok {a a' : α} : related a a' → Agree related (.ok a) (.ok a')
  | unsupported (kind path path' : String) :
      Agree related (.error (.unsupported kind path)) (.error (.unsupported kind path'))
  | fault (fault : Fault) : Agree related (.error fault) (.error fault)

theorem Agree.bind {α β : Type} {p : α → α → Prop} {q : β → β → Prop} {r r' : Except Fault α}
    {f f' : α → Except Fault β} (h : Agree p r r') (hf : ∀ a a', p a a' → Agree q (f a) (f' a')) :
    Agree q (r >>= f) (r' >>= f') := by
  cases h with
  | ok h => exact hf _ _ h
  | unsupported kind path path' => exact .unsupported kind path path'
  | fault fault => exact .fault fault

theorem Agree.refl {α : Type} {related : α → α → Prop} (h : ∀ a, related a a)
    (r : Except Fault α) : Agree related r r := by
  cases r with
  | ok a => exact .ok (h a)
  | error fault => exact .fault fault

theorem Agree.imp {α : Type} {p q : α → α → Prop} {r r' : Except Fault α} (h : Agree p r r')
    (hpq : ∀ a a', p a a' → q a a') : Agree q r r' := by
  cases h with
  | ok h => exact .ok (hpq _ _ h)
  | unsupported kind path path' => exact .unsupported kind path path'
  | fault fault => exact .fault fault

/-- Where two results agree, what is related are the results. -/
theorem Agree.results {α : Type} {related : α → α → Prop} {r r' : Except Fault α}
    (h : Agree related r r') :
    Agree (fun a a' => r = .ok a ∧ r' = .ok a' ∧ related a a') r r' := by
  cases h with
  | ok h => exact .ok ⟨rfl, rfl, h⟩
  | unsupported kind path path' => exact .unsupported kind path path'
  | fault fault => exact .fault fault

theorem Agree.trans {α : Type} {r r' r'' : Except Fault α} (h : Agree Eq r r')
    (h' : Agree Eq r' r'') : Agree Eq r r'' := by
  cases h with
  | ok h => exact h ▸ h'
  | unsupported kind path path' =>
    cases h' with
    | unsupported _ _ path'' => exact .unsupported kind path path''
    | fault => exact .unsupported kind path path'
  | fault fault => exact h'

/-- One of two results that agree is a value if the other is, and the values are related. -/
theorem Agree.of_ok {α : Type} {related : α → α → Prop} {r r' : Except Fault α} {a a' : α}
    (h : Agree related r r') (hr : r = .ok a) (hr' : r' = .ok a') : related a a' := by
  cases hr
  cases hr'
  cases h with
  | ok h => exact h

/-! ## Schemas of one form -/

def Part.isOne : Part → Bool
  | .schema | .items => true
  | _ => false

def Part.isMany : Part → Bool
  | .schemas | .alternatives | .items => true
  | _ => false

def Part.isTable : Part → Bool
  | .named | .definitions => true
  | _ => false

/-- Two values under one keyword that differ at spots only, where the properties of an object are
related by `spot`. Annotations may be put in or left out, except beside an alternative that says null
and nothing else. -/
inductive Reworded (spot : List (String × Json) → List (String × Json) → Prop) :
    Part → Json → Json → Prop
  | same {part : Part} (value : Json) : Reworded spot part value value
  | members {part : Part} {members members' : List (String × Json)} : part.isOne = true →
      SameKeywords (Reworded spot) members members' →
      Reworded spot part (.obj members) (.obj members')
  | list {part : Part} {items items' : List Json} : part.isMany = true →
      List.Forall₂ (Reworded spot .schema) items items' →
      List.Forall₂ (fun v v' => isNullOnly v = isNullOnly v') items items' →
      Reworded spot part (.arr items) (.arr items')
  | table {part : Part} {members members' : List (String × Json)} : part.isTable = true →
      SameNames (Reworded spot .schema) members members' →
      Reworded spot part (.obj members) (.obj members')
  | spot {properties properties' : List (String × Json)} : spot properties properties' →
      Reworded spot .named (.obj properties) (.obj properties')

variable {spot : List (String × Json) → List (String × Json) → Prop}
variable {members members' : List (String × Json)}

def RewordedMembers (spot : List (String × Json) → List (String × Json) → Prop)
    (members members' : List (String × Json)) : Prop :=
  ∀ key part, keyword? key = some part →
    (find? key members = none ∧ find? key members' = none) ∨
      ∃ value value', find? key members = some value ∧ find? key members' = some value' ∧
        Reworded spot part value value'

theorem RewordedMembers.refl (members : List (String × Json)) :
    RewordedMembers spot members members := by
  intro key part _
  cases hf : find? key members with
  | none => exact .inl ⟨rfl, rfl⟩
  | some value => exact .inr ⟨value, value, rfl, rfl, .same value⟩

theorem Reworded.of_members {schema' : Json} (h : Reworded spot .schema (.obj members) schema') :
    ∃ members', schema' = .obj members' ∧ RewordedMembers spot members members' := by
  cases h with
  | same => exact ⟨members, rfl, .refl members⟩
  | members _ h => exact ⟨_, rfl, fun _ _ hk => h.find hk⟩
  | table hp => cases hp

theorem Reworded.of_value {value value' : Json} (h : Reworded spot .value value value') :
    value = value' := by
  cases h with
  | same => rfl
  | members hp | list hp | table hp => cases hp

theorem RewordedMembers.value (h : RewordedMembers spot members members') (key : String)
    (hk : keyword? key = some .value) : find? key members = find? key members' := by
  rcases h key .value hk with ⟨hf, hf'⟩ | ⟨value, value', hf, hf', hp⟩
  · rw [hf, hf']
  · rw [hf, hf', hp.of_value]

/-- A value that is no list is itself, where a list of schemas may stand and nothing else. -/
theorem Reworded.of_many {part : Part} (hp : part.isMany = true) {value value' : Json}
    (h : Reworded spot part value value') :
    (value = value' ∧ ∀ items, value ≠ .arr items) ∨
    (part.isOne = true ∧ Reworded spot .schema value value' ∧ ∀ items, value ≠ .arr items) ∨
      ∃ items items', value = .arr items ∧ value' = .arr items' ∧
        List.Forall₂ (Reworded spot .schema) items items' ∧
        List.Forall₂ (fun v v' => isNullOnly v = isNullOnly v') items items' := by
  cases h with
  | same =>
    cases value with
    | arr items =>
      exact .inr (.inr ⟨items, items, rfl, rfl, List.forall₂_same.mpr fun item _ => .same item,
        List.forall₂_same.mpr fun _ _ => rfl⟩)
    | _ => exact .inl ⟨rfl, nofun⟩
  | members hone h => exact .inr (.inl ⟨hone, .members rfl h, nofun⟩)
  | list _ h hn => exact .inr (.inr ⟨_, _, rfl, rfl, h, hn⟩)
  | table ht => cases part <;> simp_all [Part.isMany, Part.isTable]
  | spot => cases hp

/-- Alternatives or parts of one form: the same value that is no list, or lists of schemas of one form. -/
theorem Reworded.of_list {part : Part} (hp : part.isMany = true) (hone : part.isOne = false)
    {value value' : Json} (h : Reworded spot part value value') :
    (value = value' ∧ ∀ items, value ≠ .arr items) ∨
      ∃ items items', value = .arr items ∧ value' = .arr items' ∧
        List.Forall₂ (Reworded spot .schema) items items' ∧
        List.Forall₂ (fun v v' => isNullOnly v = isNullOnly v') items items' := by
  rcases h.of_many hp with h | ⟨hone', -⟩ | h
  · exact .inl h
  · rw [hone] at hone'
    cases hone'
  · exact .inr h

/-- Items of one form: schemas of one form, or lists of them. -/
theorem Reworded.of_items {value value' : Json} (h : Reworded spot .items value value') :
    (Reworded spot .schema value value' ∧ ∀ items, value ≠ .arr items) ∨
      ∃ items items', value = .arr items ∧ value' = .arr items' ∧
        List.Forall₂ (Reworded spot .schema) items items' := by
  rcases h.of_many rfl with ⟨rfl, hno⟩ | ⟨-, h, hno⟩ | ⟨items, items', hv, hv', h, -⟩
  · exact .inl ⟨.same value, hno⟩
  · exact .inl ⟨h, hno⟩
  · exact .inr ⟨items, items', hv, hv', h⟩

/-- Properties of one form: the same value that is no object, the same names with schemas of one form, or
a spot. -/
theorem Reworded.of_named {value value' : Json} (h : Reworded spot .named value value') :
    (value = value' ∧ ∀ members, value ≠ .obj members) ∨
      ∃ members members', value = .obj members ∧ value' = .obj members' ∧
        (SameNames (Reworded spot .schema) members members' ∨ spot members members') := by
  cases h with
  | same =>
    cases value with
    | obj members => exact .inr ⟨members, members, rfl, rfl, .inl (.refl .same members)⟩
    | _ => exact .inl ⟨rfl, nofun⟩
  | members hp | list hp => cases hp
  | table _ h => exact .inr ⟨_, _, rfl, rfl, .inl h⟩
  | spot h => exact .inr ⟨_, _, rfl, rfl, .inr h⟩

/-- A reference is read as the same deferred node. -/
theorem refNode_reworded {doc doc' : Document} (hdoc : SameDefined (fun _ => True) doc doc')
    (path path' : String) (ref : Json) :
    Agree (fun node node' => node = node' ∧ node.isLazy = true) (refNode doc path ref)
      (refNode doc' path' ref) := by
  rw [(refNode_alike hdoc path ref fun _ _ => trivial).1]
  unfold refNode
  split
  · split
    · split
      · exact .ok ⟨rfl, rfl⟩
      · exact .unsupported _ _ _
    · exact .unsupported _ _ _
  all_goals exact .fault _

/-! ## Relations that are kept in reading -/

/-- A relation of nodes that reading keeps: each form of node has it if its parts have it, annotations do
not take it away, and at the spots the objects have it. -/
structure KeptBoth (doc doc' : Document)
    (spot : List (String × Json) → List (String × Json) → Prop) (related : Node → Node → Prop) :
    Prop where
  same : ∀ node, related node node
  array : ∀ {element element'} low high, related element element' →
    related (.array .null [element] low high) (.array .null [element'] low high)
  object : ∀ {fields fields'}, RelatedFields related fields fields' →
    related (.object .null fields) (.object .null fields')
  record : ∀ {key key' value value'}, related key key' → related value value' →
    related (.record .null key value) (.record .null key' value')
  union : ∀ {options options'}, List.Forall₂ related options options' →
    related (.union .null options) (.union .null options')
  nullable : ∀ {inner inner'}, related inner inner' →
    related (.wrapper .null .nullable inner) (.wrapper .null .nullable inner')
  optional : ∀ {inner inner'}, related inner inner' →
    related (.wrapper .null .optional inner) (.wrapper .null .optional inner')
  annotate : ∀ {core core'} members, related core core' →
    related (Document.annotate members core) (Document.annotate members core')
  empty : ∀ {properties properties'}, spot properties properties' →
    properties.isEmpty = properties'.isEmpty
  spot : ∀ {properties properties'}, spot properties properties' → ∀ path path' required,
    Agree (fun fields fields' => related (.object .null fields) (.object .null fields'))
      (fieldNodes doc path required properties) (fieldNodes doc' path' required properties')

/-! ## Schemas of one form are read in step -/

/-- Two faults that are one, but for the place of what is not supported. -/
inductive SameButPlace : Fault → Fault → Prop
  | same (fault : Fault) : SameButPlace fault fault
  | unsupported (kind path path' : String) :
      SameButPlace (.unsupported kind path) (.unsupported kind path')

theorem anyPlaces : Places (fun _ _ => True) SameButPlace where
  below _ _ := trivial
  same := .same
  unsupported kind _ := .unsupported kind _ _

theorem reworded_forms : Forms (Reworded spot) (RewordedMembers spot) spot where
  members h key part hk _ := h key part hk
  value := Reworded.of_value
  schema := by
    intro value value' h
    cases value with
    | obj members =>
      obtain ⟨members', hsame, hm⟩ := h.of_members
      exact .inr ⟨members, members', rfl, hsame, hm⟩
    | arr items =>
      cases h with
      | same => exact .inl ⟨rfl, nofun⟩
      | list hp => cases hp
    | _ =>
      cases h
      exact .inl ⟨rfl, nofun⟩
  schemas h := (h.of_list rfl rfl).imp_right fun ⟨items, items', hv, hv', h, _⟩ =>
    ⟨items, items', hv, hv', h⟩
  alternatives h := h.of_list rfl rfl
  items := Reworded.of_items
  named := Reworded.of_named

theorem agree_iff {α : Type} {related : α → α → Prop} {r r' : Except Fault α} :
    Agree related r r' ↔ InStep SameButPlace related r r' := by
  constructor
  · rintro (h | ⟨kind, path, path'⟩ | fault)
    · exact .ok h
    · exact .error (.unsupported kind path path')
    · exact .error (.same fault)
  · rintro (h | h)
    · exact .ok h
    · cases h with
      | same => exact .fault _
      | unsupported kind path path' => exact .unsupported kind path path'

section

variable {doc doc' : Document} {related : Node → Node → Prop}
variable (hdoc : SameDefined (fun _ => True) doc doc') (hk : KeptBoth doc doc' spot related)

include hdoc hk

theorem KeptBoth.inStep : KeptInStep doc doc' (fun _ _ => True) SameButPlace
    (RewordedMembers spot) spot related where
  reference _ _ _ := agree_iff.mp <|
    (refNode_reworded hdoc _ _ _).imp fun node _ h => h.1 ▸ hk.same node
  leaf _ := hk.same _
  array := hk.array
  object := hk.object
  record := hk.record
  union := hk.union
  nullable := hk.nullable
  optional := hk.optional
  annotate := by
    intro core core' members members' hm h
    have hsame : Document.annotate members core = Document.annotate members' core := by
      unfold Document.annotate
      rw [hm.value "description" rfl, hm.value "default" rfl]
    rw [hsame]
    exact hk.annotate members' h
  empty := hk.empty
  spot h _ required := agree_iff.mp (hk.spot h _ _ required)

theorem node_reworded (path path' : String) (schema schema' : Json)
    (h : Reworded spot .schema schema schema') :
    Agree related (node doc path schema) (node doc' path' schema') :=
  agree_iff.mpr (node_inStep anyPlaces reworded_forms (hk.inStep hdoc) h path path' trivial)

theorem typedNode_reworded (path path' : String) (members members' : List (String × Json))
    (h : RewordedMembers spot members members') (type : Json) :
    Agree related (typedNode doc path members type) (typedNode doc' path' members' type) :=
  agree_iff.mpr <| typedNode_inStep anyPlaces reworded_forms (hk.inStep hdoc)
    (fun _ _ _ hpart => node_inStep anyPlaces reworded_forms (hk.inStep hdoc) hpart)
    le_rfl h trivial type

theorem fieldNodes_reworded (path path' : String) (required : Json)
    (properties properties' : List (String × Json))
    (h : SameNames (Reworded spot .schema) properties properties') :
    Agree (RelatedFields related) (fieldNodes doc path required properties)
      (fieldNodes doc' path' required properties') :=
  have hread := sameNames_inStep
    (fun _ _ _ hpart => node_inStep anyPlaces reworded_forms (hk.inStep hdoc) hpart)
    (le_refl (sizeOf properties)) h
  agree_iff.mpr (fieldNodes_inStep anyPlaces (hk.inStep hdoc) hread trivial required)

end

/-! ## Two documents -/

theorem Reworded.of_definitions {value value' : Json} (h : Reworded spot .definitions value value') :
    value = value' ∨ ∃ entries entries', value = .obj entries ∧ value' = .obj entries' ∧
      SameNames (Reworded spot .schema) entries entries' := by
  cases h with
  | same => exact .inl rfl
  | members hp | list hp => cases hp
  | table _ h => exact .inr ⟨_, _, rfl, rfl, h⟩

theorem definitionsUnder_reworded {key : String} (hk : keyword? key = some .definitions)
    (h : RewordedMembers spot members members') :
    Agree (SameNames (Reworded spot .schema)) (definitionsUnder key members)
      (definitionsUnder key members') := by
  unfold definitionsUnder
  rcases h key .definitions hk with ⟨hf, hf'⟩ | ⟨value, value', hf, hf', hp⟩
  · rw [hf, hf']
    exact .ok .nil
  · rw [hf, hf']
    obtain rfl | ⟨entries, entries', rfl, rfl, h⟩ := hp.of_definitions
    · exact .refl (.refl .same) _
    · exact .ok h

/-- Schemas of one form have definitions of one form. -/
theorem DefinedBy.reworded {doc doc' : Document} {schema schema' : Json} (hd : doc.DefinedBy schema)
    (hd' : doc'.DefinedBy schema') (h : Reworded spot .schema schema schema') :
    SameNames (Reworded spot .schema) doc.definitions doc'.definitions := by
  obtain ⟨members, definitions, defs, rfl, hdefinitions, hdefs, he⟩ := hd
  obtain ⟨members', definitions', defs', rfl, hdefinitions', hdefs', he'⟩ := hd'
  obtain ⟨_, hsame, hmembers⟩ := h.of_members
  cases hsame
  rw [he, he']
  exact ((definitionsUnder_reworded rfl hmembers).of_ok hdefinitions hdefinitions').union
    ((definitionsUnder_reworded rfl hmembers).of_ok hdefs hdefs')

/-- What is kept in reading holds of what the references of both documents stand for. -/
theorem resolve_reworded {doc doc' : Document} {related : Node → Node → Prop}
    (hdoc : SameDefined (fun _ => True) doc doc') (hk : KeptBoth doc doc' spot related)
    (hd : SameNames (Reworded spot .schema) doc.definitions doc'.definitions) {ref : Ref}
    {node node' : Node} (h : doc.table.resolve ref = .ok node)
    (h' : doc'.table.resolve ref = .ok node') : related node node' := by
  obtain ⟨definition, -, hm⟩ := List.mem_flatMap.mp (Graph.mem_of_resolve h)
  obtain ⟨start, hs, he⟩ := List.mem_map.mp hm
  obtain ⟨rfl, -⟩ := Prod.ext_iff.mp he
  rw [resolve_table doc hs] at h
  rw [hdoc.graph, resolve_table doc' hs] at h'
  rcases hd.find definition.1 with ⟨hf, hf'⟩ | ⟨value, value', hf, hf', hv⟩
  · rw [hf] at h
    cases h
  · rw [hf] at h
    rw [hf'] at h'
    exact (node_reworded hdoc hk _ _ value value' hv).of_ok h h'

/-! ## A node does not depend on its place -/

theorem kept_eq (doc doc' : Document) : KeptBoth doc doc' (fun _ _ => False) Eq where
  same _ := rfl
  array _ _ h := h ▸ rfl
  object h := h.eq ▸ rfl
  record h h' := h ▸ h' ▸ rfl
  union h := by
    rw [List.forall₂_eq_eq_eq] at h
    rw [h]
  nullable h := h ▸ rfl
  optional h := h ▸ rfl
  annotate _ h := h ▸ rfl
  empty h := h.elim
  spot h := h.elim

theorem node_place (doc : Document) (path path' : String) (schema : Json) :
    Agree Eq (node doc path schema) (node doc path' schema) :=
  node_reworded ⟨rfl, fun _ _ _ _ => rfl⟩ (kept_eq doc doc) path path' schema schema (.same schema)

end StructuredOutput.Schema.Document
