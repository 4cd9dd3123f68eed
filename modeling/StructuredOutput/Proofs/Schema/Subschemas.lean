import StructuredOutput.Proofs.Agreement.ObjectsMet
import StructuredOutput.Proofs.Schema.Definitions

/-! # The schemas in a schema

Which keyword of a schema is looked at depends on those before it, so a schema stands in another one
only where the kind of the outer one has it looked for. From a document that is read, every schema in it
is read, too, and what is met under the node of the document is met under the node of each. -/
namespace StructuredOutput.Schema.Document

open Baml (Declarations)
open Baml.Translation (AllMet ObjectClass Under)
open Json (find?)

/-! ## Kinds of schemas -/

/-- The keywords that come before the type of a schema, in the order in which they are looked at. -/
def firstKeywords : List String := ["$ref", "const", "enum", "oneOf", "anyOf", "allOf"]

def LooksAt (key : String) (members : List (String × Json)) : Prop :=
  ∀ earlier ∈ firstKeywords.takeWhile (· ≠ key), find? earlier members = none

instance (key : String) (members : List (String × Json)) : Decidable (LooksAt key members) :=
  inferInstanceAs (Decidable (∀ earlier ∈ firstKeywords.takeWhile (· ≠ key),
    find? earlier members = none))

/-- Whether a type is the one of a name, by itself or in a list. -/
inductive HasType (name : String) : Json → Prop
  | here : HasType name (.str name)
  | among {types : List Json} {type : Json} : type ∈ types → HasType name type →
      HasType name (.arr types)

structure OfType (name : String) (members : List (String × Json)) : Prop where
  looksAt : LooksAt "type" members
  type : ∃ type, find? "type" members = some type ∧ HasType name type

/-- Whether a schema is one of an object: by its type, or by its properties if it has no type. -/
inductive IsObject (members : List (String × Json)) : Prop
  | typed : OfType "object" members → IsObject members
  | untyped : LooksAt "type" members → find? "type" members = none →
      (find? "properties" members).isSome = true → IsObject members

/-- The schemas that stand in a schema, references not followed. -/
inductive PartOf (members : List (String × Json)) : Json → Prop
  | variant {key : String} {variants : List Json} {variant : Json} :
      key ∈ ["oneOf", "anyOf", "allOf"] → LooksAt key members →
      find? key members = some (.arr variants) → variant ∈ variants → PartOf members variant
  | items {inner : List (String × Json)} : OfType "array" members →
      itemSchema? members = some (.obj inner) → PartOf members (.obj inner)
  | item {items : List Json} {item : Json} : OfType "array" members →
      itemSchema? members = some (.arr items) → item ∈ items → PartOf members item
  | property {properties : List (String × Json)} {property : String × Json} : IsObject members →
      find? "properties" members = some (.obj properties) → property ∈ properties →
      PartOf members property.2
  | value {value : List (String × Json)} : IsObject members →
      ((find? "properties" members).getD .null).truthy = false →
      find? "additionalProperties" members = some (.obj value) → PartOf members (.obj value)
  | key {value key : List (String × Json)} : IsObject members →
      ((find? "properties" members).getD .null).truthy = false →
      find? "additionalProperties" members = some (.obj value) →
      find? "propertyNames" members = some (.obj key) → PartOf members (.obj key)

/-- The schemas in a schema of a document: itself, the parts of one, and the definition that one refers
to. -/
inductive Subschema (doc : Document) (schema : Json) : Json → Prop
  | whole : Subschema doc schema schema
  | part {members : List (String × Json)} {inner : Json} :
      Subschema doc schema (.obj members) → PartOf members inner → Subschema doc schema inner
  | definition {members : List (String × Json)} {text name : String} {inner : Json} :
      Subschema doc schema (.obj members) → find? "$ref" members = some (.str text) →
      definitionName? text = some name → find? name doc.definitions = some inner →
      Subschema doc schema inner

variable {doc : Document} {g : Graph} {d : Declarations} {met : List ObjectClass}
variable {path : String} {members properties : List (String × Json)} {core : Node}

/-! ## What is met under a node -/

theorem allMet_under {node part : Node} (h : AllMet g d met node) (hu : Under g part node) :
    AllMet g d met part :=
  fun n hn => h n (hn.trans hu)

/-- A description changes nothing of what is met. -/
theorem allMet_describe {node : Node} {description : Json}
    (h : AllMet g d met (node.describe description)) : AllMet g d met node := by
  intro n hn
  cases hn with
  | self =>
    have hself := h _ .self
    cases node <;> exact hself
  | bare hn => exact h n (.bare hn)
  | field hm hn => exact h n (.field hm hn)
  | element he ha hn => exact h n (.element he ha hn)
  | key hn => exact h n (.key hn)
  | value hn => exact h n (.value hn)
  | option hm hn => exact h n (.option hm hn)
  | wrapper hn => exact h n (.wrapper hn)
  | pipeline hn => exact h n (.pipeline hn)

theorem allMet_annotate (h : AllMet g d met (annotate members core)) : AllMet g d met core := by
  have ha := annotated members core
  generalize annotate members core = result at ha h
  induction ha with
  | same => exact h
  | plain => exact fun n hn => h n (.wrapper hn)
  | described => exact allMet_describe h
  | default _ _ _ ih => exact ih fun n hn => h n (.wrapper hn)

theorem under_oneOrUnion {nodes : List Node} {n node : Node} (hm : node ∈ nodes)
    (hn : Under g n node) : Under g n (oneOrUnion nodes) := by
  unfold oneOrUnion
  split
  · rw [List.mem_singleton.mp hm] at hn
    exact hn
  · exact .option hm hn

theorem under_alternatives {nodes : List Node} (nullable : Bool) {n node : Node} (hm : node ∈ nodes)
    (hn : Under g n node) : Under g n (alternatives nullable nodes) := by
  unfold alternatives
  rw [if_neg (by simpa using List.ne_nil_of_mem hm)]
  split
  · exact .wrapper (under_oneOrUnion hm hn)
  · exact under_oneOrUnion hm hn

/-! ## Parts are read -/

/-- A schema that is read somewhere in a document, as a node under which everything was met. -/
def ReadAndMet (doc : Document) (g : Graph) (d : Declarations) (met : List ObjectClass)
    (schema : Json) : Prop :=
  ∃ path n, node doc path schema = .ok n ∧ AllMet g d met n

theorem bareNode_of_node {n : Node} (h : node doc path (.obj members) = .ok n)
    (hall : AllMet g d met n) : ∃ core, bareNode doc path members = .ok core ∧
      AllMet g d met core := by
  rw [node] at h
  obtain ⟨core, hcore, hn⟩ := Hint.ok_of_bind h
  cases hn
  exact ⟨core, hcore, allMet_annotate hall⟩

/-- A schema that says null and nothing else is read as null everywhere. -/
theorem node_nullOnly {schema : Json} (h : isNullOnly schema = true) :
    node doc path schema = .ok (.primitive .null (.str "null")) := by
  unfold isNullOnly at h
  split at h
  · rename_i key value
    simp only [Bool.and_eq_true, decide_eq_true_eq] at h
    obtain ⟨rfl, hvalue⟩ := h
    obtain rfl : value = .str "null" := by
      cases value with
      | str text => simpa [Json.isStr] using hvalue
      | null | bool | int | float | arr | obj => cases hvalue
    rw [node, bareNode_eq]
    simp [find?, typedNode, primitiveTypes, annotate, bind, Except.bind, pure, Except.pure]
  · cases h

theorem readAndMet_null {schema : Json} (h : isNullOnly schema = true) :
    ReadAndMet doc g d met schema := by
  refine ⟨"#", .primitive .null (.str "null"), node_nullOnly h, fun n hn => ?_⟩
  cases hn
  trivial

theorem variantNodes_read {variants : List Json} {variant : Json} (hm : variant ∈ variants)
    (hnull : isNullOnly variant = false) : ∀ {index : Nat} {nodes : List Node},
      variantNodes doc path index variants = .ok nodes →
      ∃ path' n, n ∈ nodes ∧ node doc path' variant = .ok n := by
  induction variants with
  | nil => cases hm
  | cons first rest ih =>
    intro index nodes h
    rw [variantNodes] at h
    split at h
    · rename_i hfirst
      rcases List.mem_cons.mp hm with rfl | hm
      · rw [hnull] at hfirst
        cases hfirst
      · exact ih hm h
    · obtain ⟨n, hn, h⟩ := Hint.ok_of_bind h
      obtain ⟨others, hothers, h⟩ := Hint.ok_of_bind h
      cases h
      rcases List.mem_cons.mp hm with rfl | hm
      · exact ⟨_, n, List.mem_cons_self, hn⟩
      · obtain ⟨path', m, hmem, hread⟩ := ih hm hothers
        exact ⟨path', m, List.mem_cons_of_mem _ hmem, hread⟩

theorem itemNodes_read {items : List Json} {item : Json} (hm : item ∈ items) :
    ∀ {index : Nat} {nodes : List Node}, itemNodes doc path index items = .ok nodes →
      ∃ path' n, n ∈ nodes ∧ node doc path' item = .ok n := by
  induction items with
  | nil => cases hm
  | cons first rest ih =>
    intro index nodes h
    rw [itemNodes] at h
    obtain ⟨n, hn, h⟩ := Hint.ok_of_bind h
    obtain ⟨others, hothers, h⟩ := Hint.ok_of_bind h
    cases h
    rcases List.mem_cons.mp hm with rfl | hm
    · exact ⟨_, n, List.mem_cons_self, hn⟩
    · obtain ⟨path', m, hmem, hread⟩ := ih hm hothers
      exact ⟨path', m, List.mem_cons_of_mem _ hmem, hread⟩

/-- The field of a property is the node of its schema, with an optional wrapper around it if its key is not
asked for. -/
theorem fieldNodes_each {required : Json} : ∀ {fields : List (String × Node)},
    fieldNodes doc path required properties = .ok fields →
      List.Forall₂ (fun property field => field.1 = property.1 ∧ ∃ path' n,
        node doc path' property.2 = .ok n ∧ (field.2 = n ∨ field.2 = .wrapper .null .optional n))
        properties fields := by
  induction properties with
  | nil =>
    intro fields h
    rw [fieldNodes] at h
    cases h
    exact .nil
  | cons first rest ih =>
    obtain ⟨key, schema⟩ := first
    intro fields h
    rw [fieldNodes] at h
    obtain ⟨n, hn, h⟩ := Hint.ok_of_bind h
    obtain ⟨asked, -, h⟩ := Hint.ok_of_bind h
    obtain ⟨others, hothers, h⟩ := Hint.ok_of_bind h
    cases h
    refine .cons ⟨rfl, _, n, hn, ?_⟩ (ih hothers)
    dsimp only
    split
    · exact .inl rfl
    · exact .inr rfl

theorem fieldNodes_read {required : Json} {property : String × Json} (hm : property ∈ properties)
    {fields : List (String × Node)} (h : fieldNodes doc path required properties = .ok fields) :
    ∃ path' field n, field ∈ fields ∧ node doc path' property.2 = .ok n ∧ Under g n field.2 := by
  obtain ⟨field, hf, -, path', n, hn, hfield⟩ := Baml.forall₂_left (fieldNodes_each h) property hm
  refine ⟨path', field, n, hf, hn, ?_⟩
  rcases hfield with he | he
  · rw [he]
    exact .self
  · rw [he]
    exact .wrapper .self

/-! ## Types -/

theorem typeNodes_read {types : List Json} {type : Json} (hm : type ∈ types)
    (hnull : type.isStr "null" = false) : ∀ {path : String} {nodes : List Node},
      typeNodes doc path members types = .ok nodes →
      ∃ path' n, n ∈ nodes ∧ typedNode doc path' members type = .ok n := by
  induction types with
  | nil => cases hm
  | cons first rest ih =>
    intro path nodes h
    rw [typeNodes] at h
    split at h
    · rename_i hfirst
      rcases List.mem_cons.mp hm with rfl | hm
      · rw [hnull] at hfirst
        cases hfirst
      · exact ih hm h
    · obtain ⟨n, hn, h⟩ := Hint.ok_of_bind h
      obtain ⟨others, hothers, h⟩ := Hint.ok_of_bind h
      cases h
      rcases List.mem_cons.mp hm with rfl | hm
      · exact ⟨_, n, List.mem_cons_self, hn⟩
      · obtain ⟨path', m, hmem, hread⟩ := ih hm hothers
        exact ⟨path', m, List.mem_cons_of_mem _ hmem, hread⟩

/-- A schema with several types is read once for each of them but null. -/
theorem typedNode_read {name : String} (hname : name ≠ "null") {type : Json}
    (ht : HasType name type) : ∀ {path : String} {n : Node},
      typedNode doc path members type = .ok n →
      ∃ path' m, typedNode doc path' members (.str name) = .ok m ∧ Under g m n := by
  have hnull {type : Json} (ht : HasType name type) : type.isStr "null" = false := by
    cases ht with
    | here => simpa [Json.isStr] using hname
    | among => rfl
  induction ht with
  | here => exact fun h => ⟨_, _, h, .self⟩
  | among hm ht ih =>
    intro path n h
    rw [typedNode] at h
    obtain ⟨nodes, hnodes, h⟩ := Hint.ok_of_bind h
    cases h
    obtain ⟨path', n', hmem, hread⟩ := typeNodes_read hm (hnull ht) hnodes
    obtain ⟨path'', m, hm', hu⟩ := ih hread
    exact ⟨path'', m, hm', under_alternatives _ hmem hu⟩

theorem LooksAt.first (h : LooksAt "type" members) {key : String} (hk : key ∈ firstKeywords) :
    find? key members = none :=
  h key (by rwa [List.takeWhile_eq_self_iff.mpr (by decide)])

theorem bareNode_typed (h : LooksAt "type" members) {type : Json}
    (ht : find? "type" members = some type) :
    bareNode doc path members = typedNode doc path members type := by
  have hfirst (key : String) (hk : key ∈ firstKeywords) := h.first hk
  simp only [bareNode_eq, hfirst "$ref" (by decide), hfirst "const" (by decide),
    hfirst "enum" (by decide), hfirst "oneOf" (by decide), hfirst "anyOf" (by decide),
    hfirst "allOf" (by decide), ht]

theorem bareNode_untyped (h : LooksAt "type" members) (ht : find? "type" members = none)
    {value : Json} (hp : find? "properties" members = some value) :
    bareNode doc path members = objectNode doc path members := by
  have hfirst (key : String) (hk : key ∈ firstKeywords) := h.first hk
  simp only [bareNode_eq, hfirst "$ref" (by decide), hfirst "const" (by decide),
    hfirst "enum" (by decide), hfirst "oneOf" (by decide), hfirst "anyOf" (by decide),
    hfirst "allOf" (by decide), ht, hp]

theorem bareNode_ofType {name : String} (hname : name ≠ "null") (ht : OfType name members)
    (h : bareNode doc path members = .ok core) :
    ∃ path' m, typedNode doc path' members (.str name) = .ok m ∧ Under g m core := by
  obtain ⟨hlooks, type, hfound, ht⟩ := ht
  rw [bareNode_typed hlooks hfound] at h
  exact typedNode_read hname ht h

theorem bareNode_array (ht : OfType "array" members) (h : bareNode doc path members = .ok core) :
    ∃ path' m, arrayNode doc path' members = .ok m ∧ Under g m core := by
  obtain ⟨path', m, hread, hu⟩ := bareNode_ofType (by decide) ht h
  rw [typedNode] at hread
  exact ⟨path', m, hread, hu⟩

theorem bareNode_object (ho : IsObject members) (h : bareNode doc path members = .ok core) :
    ∃ path' m, objectNode doc path' members = .ok m ∧ Under g m core := by
  cases ho with
  | typed ht =>
    obtain ⟨path', m, hread, hu⟩ := bareNode_ofType (by decide) ht h
    rw [typedNode] at hread
    exact ⟨path', m, hread, hu⟩
  | untyped hlooks hnone hsome =>
    obtain ⟨value, hvalue⟩ := Option.isSome_iff_exists.mp hsome
    rw [bareNode_untyped hlooks hnone hvalue] at h
    exact ⟨path, core, h, .self⟩

/-! ## Objects -/

/-- An object with properties is read as the node of its fields. -/
theorem objectNode_properties (hp : find? "properties" members = some (.obj properties))
    (hne : properties ≠ []) :
    objectNode doc path members =
      (fieldNodes doc path ((find? "required" members).getD (.arr [])) properties >>= fun fields =>
        .ok (.object .null fields)) := by
  rw [objectNode_eq, hp]
  dsimp only
  rw [if_neg (by simpa using hne)]

theorem objectNode_record (hp : ((find? "properties" members).getD .null).truthy = false) :
    objectNode doc path members = recordNode doc path members := by
  rw [objectNode_eq]
  cases hfound : find? "properties" members with
  | none => rfl
  | some value =>
    rw [hfound, Option.getD_some] at hp
    cases value with
    | obj properties =>
      have hempty : properties.isEmpty = true := by simpa [Json.truthy] using hp
      simp only [hempty, if_true]
    | null | bool | int | float | str | arr => simp only [hp, Bool.false_eq_true, if_false]

/-- What is met of an object with properties: its fields are the members of one of the objects. -/
theorem object_met {n : Node} (h : node doc path (.obj members) = .ok n) (hall : AllMet g d met n)
    (ho : IsObject members) (hp : find? "properties" members = some (.obj properties))
    (hne : properties ≠ []) : ∃ o ∈ met, ∃ path',
      fieldNodes doc path' ((find? "required" members).getD (.arr [])) properties = .ok o.members ∧
        ∀ member ∈ o.members, AllMet g d met member.2 := by
  obtain ⟨core, hcore, hall⟩ := bareNode_of_node h hall
  obtain ⟨path', m, hread, hu⟩ := bareNode_object ho hcore
  rw [objectNode_properties hp hne] at hread
  obtain ⟨fields, hfields, hm⟩ := Hint.ok_of_bind hread
  cases hm
  obtain ⟨o, hmem, rfl⟩ := hall _ hu
  exact ⟨o, hmem, path', hfields,
    fun member hm => allMet_under hall ((Under.field hm .self).trans hu)⟩

/-! ## The schemas in a document -/

/-- A schema whose first keyword is one for alternatives. -/
theorem variant_read {key : String} {variants : List Json} {variant : Json}
    (hk : key ∈ ["oneOf", "anyOf", "allOf"]) (hlooks : LooksAt key members)
    (hfound : find? key members = some (.arr variants)) (hm : variant ∈ variants)
    (hcore : bareNode doc path members = .ok core) (hall : AllMet g d met core) :
    ReadAndMet doc g d met variant := by
  have hunion {path : String} (h : unionNode doc path (.arr variants) = .ok core) :
      ReadAndMet doc g d met variant := by
    rw [unionNode] at h
    obtain ⟨nodes, hnodes, h⟩ := Hint.ok_of_bind h
    cases h
    cases hnull : isNullOnly variant with
    | true => exact readAndMet_null hnull
    | false =>
      obtain ⟨path', n, hmem, hread⟩ := variantNodes_read hm hnull hnodes
      exact ⟨path', n, hread, allMet_under hall (under_alternatives _ hmem .self)⟩
  simp only [List.mem_cons, List.not_mem_nil, or_false] at hk
  rw [bareNode_eq] at hcore
  rcases hk with rfl | rfl | rfl
  · rw [hlooks "$ref" (by decide), hlooks "const" (by decide), hlooks "enum" (by decide),
      hfound] at hcore
    exact hunion hcore
  · rw [hlooks "$ref" (by decide), hlooks "const" (by decide), hlooks "enum" (by decide),
      hlooks "oneOf" (by decide), hfound] at hcore
    exact hunion hcore
  · rw [hlooks "$ref" (by decide), hlooks "const" (by decide), hlooks "enum" (by decide),
      hlooks "oneOf" (by decide), hlooks "anyOf" (by decide), hfound] at hcore
    cases variants with
    | nil => cases hm
    | cons first rest =>
      dsimp only at hcore
      unfold singleNode at hcore
      cases rest with
      | nil =>
        rw [List.mem_singleton.mp hm]
        exact ⟨_, core, hcore, hall⟩
      | cons => cases hcore

/-- The items of an array. -/
theorem items_read {inner : List (String × Json)} (ht : OfType "array" members)
    (hfound : itemSchema? members = some (.obj inner))
    (hcore : bareNode doc path members = .ok core) (hall : AllMet g d met core) :
    ReadAndMet doc g d met (.obj inner) := by
  obtain ⟨path', m, hread, hu⟩ := bareNode_array ht hcore
  rw [arrayNode_eq, hfound] at hread
  obtain ⟨n, hn, hm⟩ := Hint.ok_of_bind hread
  cases hm
  dsimp only at hn
  rw [elementNode] at hn
  · have hparsed := node_fair doc (path' ++ "/items") (.obj inner)
    rw [hn] at hparsed
    exact ⟨_, n, hn, allMet_under hall
      ((Under.element (Parsed.element hparsed) (Parsed.not_absent hparsed) .self).trans hu)⟩
  · simp
  · simp

/-- One of a list of items. -/
theorem item_read {items : List Json} {item : Json} (ht : OfType "array" members)
    (hfound : itemSchema? members = some (.arr items)) (hm : item ∈ items)
    (hcore : bareNode doc path members = .ok core) (hall : AllMet g d met core) :
    ReadAndMet doc g d met item := by
  obtain ⟨path', m, hread, hu⟩ := bareNode_array ht hcore
  rw [arrayNode_eq, hfound] at hread
  obtain ⟨n, hn, hm'⟩ := Hint.ok_of_bind hread
  cases hm'
  dsimp only at hn
  rw [elementNode] at hn
  obtain ⟨nodes, hnodes, hn⟩ := Hint.ok_of_bind hn
  cases hn
  have hparsed := itemNodes_kept parsed_kept doc path' 0 items
  rw [hnodes] at hparsed
  obtain ⟨path'', part, hmem, hpart⟩ := itemNodes_read hm hnodes
  have helement := parsed_kept.oneOrUnion hparsed
  exact ⟨path'', part, hpart, allMet_under hall ((Under.element (Parsed.element helement)
    (Parsed.not_absent helement) (under_oneOrUnion hmem .self)).trans hu)⟩

/-- The values of a record, and its keys if there is a schema for them. -/
theorem record_read {value : List (String × Json)} (ho : IsObject members)
    (hp : ((find? "properties" members).getD .null).truthy = false)
    (hfound : find? "additionalProperties" members = some (.obj value))
    (hcore : bareNode doc path members = .ok core) (hall : AllMet g d met core) :
    ReadAndMet doc g d met (.obj value) ∧ ∀ key, find? "propertyNames" members = some (.obj key) →
      ReadAndMet doc g d met (.obj key) := by
  obtain ⟨path', m, hread, hu⟩ := bareNode_object ho hcore
  rw [objectNode_record hp, recordNode_eq, hfound] at hread
  dsimp only at hread
  obtain ⟨keys, hkeys, hread⟩ := Hint.ok_of_bind hread
  obtain ⟨values, hvalues, hm⟩ := Hint.ok_of_bind hread
  cases hm
  refine ⟨⟨_, values, hvalues, allMet_under hall ((Under.value .self).trans hu)⟩, fun key hk => ?_⟩
  rw [hk] at hkeys
  exact ⟨_, keys, hkeys, allMet_under hall ((Under.key .self).trans hu)⟩

/-- The parts of a schema that was read and met were read and met. -/
theorem PartOf.read {schema : Json} (hp : PartOf members schema) {n : Node}
    (h : node doc path (.obj members) = .ok n) (hall : AllMet g d met n) :
    ReadAndMet doc g d met schema := by
  obtain ⟨core, hcore, hmet⟩ := bareNode_of_node h hall
  cases hp with
  | variant hk hlooks hfound hm => exact variant_read hk hlooks hfound hm hcore hmet
  | items ht hfound => exact items_read ht hfound hcore hmet
  | item ht hfound hm => exact item_read ht hfound hm hcore hmet
  | property ho hfound hm =>
    have hne := List.ne_nil_of_mem hm
    obtain ⟨o, -, path', hfields, hmembers⟩ := object_met h hall ho hfound hne
    obtain ⟨path'', field, n', hmem, hread, hu⟩ := fieldNodes_read hm hfields
    exact ⟨path'', n', hread, allMet_under (hmembers field hmem) hu⟩
  | value ho hfalsy hfound => exact (record_read ho hfalsy hfound hcore hmet).1
  | key ho hfalsy hfound hkey => exact (record_read ho hfalsy hfound hcore hmet).2 _ hkey

/-- If a schema was read and met and what is recorded was met behind its references, each schema in it was
read and met. -/
theorem Subschema.read {schema part : Json} (h : Subschema doc schema part)
    (hwhole : ReadAndMet doc doc.table d met schema)
    (hbehind : ∀ ref, d.Recorded ref →
      ∃ target, doc.table.resolve ref = .ok target ∧ AllMet doc.table d met target) :
    ReadAndMet doc doc.table d met part := by
  induction h with
  | whole => exact hwhole
  | part _ hp ih =>
    obtain ⟨path, n, hn, hall⟩ := ih
    exact hp.read hn hall
  | @definition members text name inner _ href hname hfound ih =>
    obtain ⟨path, n, hn, hall⟩ := ih
    rw [node_of_ref hname (Option.isSome_of_eq_some hfound) href] at hn
    cases hn
    obtain ⟨target, htarget, hmet⟩ := hbehind _ (allMet_annotate hall _ .self)
    obtain ⟨start, hstart, rfl⟩ := definitionName?_eq_some.mp hname
    rw [resolve_table doc hstart, hfound] at htarget
    exact ⟨_, target, htarget, hmet⟩

end StructuredOutput.Schema.Document
