import StructuredOutput.Proofs.Schema.Alike

/-! # Reading two schemas in step

Two schemas are read in step: each function of the reader meets counterparts in both, so what it gives
for them goes together as soon as what is read of their parts does. Which values are counterparts, which
places and which faults go together and which nodes are related is left open here. The schemas below are a
hypothesis of the lemma about each function, and the recursion is made once, over the size of the first
schema. -/
namespace StructuredOutput.Schema.Document

open Json (find? sizeOf_find? sizeOf_obj_of_find?)

/-! ## The reader's cases

The functions that call others on parts of the members, without the proofs that the parts are smaller. -/

theorem bareNode_eq (doc : Document) (path : String) (members : List (String × Json)) :
    bareNode doc path members =
      match find? "$ref" members with
      | some ref => refNode doc path ref
      | none =>
      match find? "const" members with
      | some value => .ok (.literal .null value)
      | none =>
      match find? "enum" members with
      | some values => enumNode values
      | none =>
      match find? "oneOf" members with
      | some variants => unionNode doc (path ++ "/oneOf") variants
      | none =>
      match find? "anyOf" members with
      | some variants => unionNode doc (path ++ "/anyOf") variants
      | none =>
      match find? "allOf" members with
      | some parts => singleNode doc path parts
      | none =>
      match find? "type" members with
      | some type => typedNode doc path members type
      | none =>
      match find? "properties" members with
      | some _ => objectNode doc path members
      | none => .error (.unsupported "untyped schema" path) := by
  unfold bareNode
  repeat' split
  all_goals simp_all

theorem arrayNode_eq (doc : Document) (path : String) (members : List (String × Json)) :
    arrayNode doc path members =
      (match itemSchema? members with
        | none => .ok .absent
        | some schema => elementNode doc path schema) >>= fun items =>
      .ok (.array .null [items] ((find? "minItems" members).getD .null)
        ((find? "maxItems" members).getD .null)) := by
  unfold arrayNode
  split <;> simp_all <;> rfl

theorem objectNode_eq (doc : Document) (path : String) (members : List (String × Json)) :
    objectNode doc path members =
      match find? "properties" members with
      | some (.obj properties) =>
        if properties.isEmpty then recordNode doc path members
        else fieldNodes doc path ((find? "required" members).getD (.arr [])) properties >>=
          fun fields => .ok (.object .null fields)
      | some other =>
        if other.truthy then .error (Fault.noMethod other "items") else recordNode doc path members
      | none => recordNode doc path members := by
  unfold objectNode
  split <;> simp_all
  rfl

/-- The key of a record is its own schema if there is one. -/
theorem recordNode_eq (doc : Document) (path : String) (members : List (String × Json)) :
    recordNode doc path members =
      match find? "additionalProperties" members with
      | some (.obj value) =>
        (match find? "propertyNames" members with
          | some (.obj key) => node doc (path ++ "/propertyNames") (.obj key)
          | _ => .ok .absent) >>= fun key =>
        node doc (path ++ "/additionalProperties") (.obj value) >>= fun value =>
        .ok (.record .null key value)
      | _ => .error (.unsupported "free-form object" path) := by
  unfold recordNode
  split
  · split <;> simp_all <;> rfl
  · rename_i hno
    split
    · rename_i value hv
      exact (hno value hv).elim
    · rfl

/-! ## What goes together -/

/-- Two results of reading go together: both are values that are related, or both are faults that are. -/
inductive InStep {α : Type} (faults : Fault → Fault → Prop) (related : α → α → Prop) :
    Except Fault α → Except Fault α → Prop
  | ok {a a' : α} : related a a' → InStep faults related (.ok a) (.ok a')
  | error {fault fault' : Fault} :
      faults fault fault' → InStep faults related (.error fault) (.error fault')

theorem InStep.bind {α β : Type} {faults : Fault → Fault → Prop} {p : α → α → Prop}
    {q : β → β → Prop} {r r' : Except Fault α} {f f' : α → Except Fault β} (h : InStep faults p r r')
    (hf : ∀ a a', p a a' → InStep faults q (f a) (f' a')) :
    InStep faults q (r >>= f) (r' >>= f') := by
  cases h with
  | ok h => exact hf _ _ h
  | error h => exact .error h

/-- Places that go together, and faults: each one with itself, and what is not supported at a place with
the same at a place that goes with it. -/
structure Places (places : String → String → Prop) (faults : Fault → Fault → Prop) : Prop where
  below : ∀ {path path'} (part : String), places path path' → places (path ++ part) (path' ++ part)
  same : ∀ fault, faults fault fault
  unsupported : ∀ {path path'} (kind : String), places path path' →
    faults (.unsupported kind path) (.unsupported kind path')

/-- Members with counterparts under each keyword. Definitions are left alone, as no schema is read by
looking at them. -/
def Counterparts (under : Part → Json → Json → Prop) (members members' : List (String × Json)) : Prop :=
  ∀ key part, keyword? key = some part → part ≠ .definitions →
    (find? key members = none ∧ find? key members' = none) ∨
      ∃ value value', find? key members = some value ∧ find? key members' = some value' ∧
        under part value value'

/-- What counterparts are made of: members that `both` relates, lists of schemas that are counterparts
one by one, and properties of the same names, if they are not related by `spot`. All else is equal. -/
structure Forms (under : Part → Json → Json → Prop)
    (both spot : List (String × Json) → List (String × Json) → Prop) : Prop where
  members : ∀ {members members'}, both members members' → Counterparts under members members'
  value : ∀ {value value'}, under .value value value' → value = value'
  schema : ∀ {value value'}, under .schema value value' →
    (value = value' ∧ ∀ members, value ≠ .obj members) ∨
      ∃ members members', value = .obj members ∧ value' = .obj members' ∧ both members members'
  schemas : ∀ {value value'}, under .schemas value value' →
    (value = value' ∧ ∀ items, value ≠ .arr items) ∨
      ∃ items items', value = .arr items ∧ value' = .arr items' ∧
        List.Forall₂ (under .schema) items items'
  alternatives : ∀ {value value'}, under .alternatives value value' →
    (value = value' ∧ ∀ items, value ≠ .arr items) ∨
      ∃ items items', value = .arr items ∧ value' = .arr items' ∧
        List.Forall₂ (under .schema) items items' ∧
        List.Forall₂ (fun v v' => isNullOnly v = isNullOnly v') items items'
  items : ∀ {value value'}, under .items value value' →
    (under .schema value value' ∧ ∀ items, value ≠ .arr items) ∨
      ∃ items items', value = .arr items ∧ value' = .arr items' ∧
        List.Forall₂ (under .schema) items items'
  named : ∀ {value value'}, under .named value value' →
    (value = value' ∧ ∀ members, value ≠ .obj members) ∨
      ∃ members members', value = .obj members ∧ value' = .obj members' ∧
        (SameNames (under .schema) members members' ∨ spot members members')

namespace Forms

variable {under : Part → Json → Json → Prop}
variable {both spot : List (String × Json) → List (String × Json) → Prop}
variable {members members' : List (String × Json)}

theorem value_eq (hf : Forms under both spot) (h : both members members') (key : String)
    (hkey : keyword? key = some .value) : find? key members = find? key members' := by
  rcases hf.members h key .value hkey (by simp) with ⟨hv, hv'⟩ | ⟨value, value', hv, hv', hsame⟩
  · rw [hv, hv']
  · rw [hv, hv', hf.value hsame]

theorem itemSchema (hf : Forms under both spot) (h : both members members') :
    (itemSchema? members = none ∧ itemSchema? members' = none) ∨
      ∃ value value', itemSchema? members = some value ∧ itemSchema? members' = some value' ∧
        under .items value value' := by
  unfold itemSchema?
  rcases hf.members h "prefixItems" .items rfl (by simp) with ⟨hv, hv'⟩ | ⟨value, value', hv, hv', hpart⟩
  · rw [hv, hv']
    exact hf.members h "items" .items rfl (by simp)
  · rw [hv, hv']
    exact .inr ⟨value, value', rfl, rfl, hpart⟩

end Forms

/-- The same keys in the same order, with related nodes. -/
inductive RelatedFields (related : Node → Node → Prop) :
    List (String × Node) → List (String × Node) → Prop
  | nil : RelatedFields related [] []
  | cons {key : String} {node node' : Node} {fields fields' : List (String × Node)} :
      related node node' → RelatedFields related fields fields' →
      RelatedFields related ((key, node) :: fields) ((key, node') :: fields')

theorem RelatedFields.refl {related : Node → Node → Prop} (hrefl : ∀ node, related node node)
    (fields : List (String × Node)) : RelatedFields related fields fields := by
  induction fields with
  | nil => exact .nil
  | cons field rest ih => exact .cons (hrefl field.2) ih

theorem RelatedFields.imp {related related' : Node → Node → Prop}
    {fields fields' : List (String × Node)} (h : RelatedFields related fields fields')
    (hi : ∀ node node', related node node' → related' node node') :
    RelatedFields related' fields fields' := by
  induction h with
  | nil => exact .nil
  | cons hn _ ih => exact .cons (hi _ _ hn) ih

theorem RelatedFields.append {related : Node → Node → Prop}
    {first first' last last' : List (String × Node)} (h : RelatedFields related first first')
    (h' : RelatedFields related last last') : RelatedFields related (first ++ last) (first' ++ last') := by
  induction h with
  | nil => exact h'
  | cons hn _ ih => exact .cons hn ih

theorem RelatedFields.getElem? {related : Node → Node → Prop} {fields fields' : List (String × Node)}
    (h : RelatedFields related fields fields') {i : Nat} {field field' : String × Node}
    (hf : fields[i]? = some field) (hf' : fields'[i]? = some field') : related field.2 field'.2 := by
  induction h generalizing i with
  | nil => cases hf
  | cons hn _ ih =>
    cases i with
    | zero =>
      cases hf
      cases hf'
      exact hn
    | succ i => exact ih hf hf'

theorem RelatedFields.eq {fields fields' : List (String × Node)} (h : RelatedFields Eq fields fields') :
    fields = fields' := by
  induction h with
  | nil => rfl
  | cons hn _ ih => rw [hn, ih]

/-- A relation of nodes that is kept in reading in step: each form of node has it if its parts have it,
annotations do not take it away, and references and the objects at the spots have it. -/
structure KeptInStep (doc doc' : Document) (places : String → String → Prop)
    (faults : Fault → Fault → Prop) (both spot : List (String × Json) → List (String × Json) → Prop)
    (related : Node → Node → Prop) : Prop where
  reference : ∀ {members members' ref path path'}, both members members' →
    find? "$ref" members = some ref → places path path' →
      InStep faults related (refNode doc path ref) (refNode doc' path' ref)
  leaf : ∀ {node : Node}, node.deferred = [] → related node node
  array : ∀ {element element'} low high, related element element' →
    related (.array .null [element] low high) (.array .null [element'] low high)
  object : ∀ {fields fields'}, RelatedFields related fields fields' →
    related (.object .null fields) (.object .null fields')
  record : ∀ {key key' value value'}, related key key' → related value value' →
    related (.record .null key value) (.record .null key' value')
  union : ∀ {options options'}, List.Forall₂ related options options' →
    related (.union .null options) (.union .null options')
  nullable : ∀ {inner inner'}, related inner inner' →
    related (.wrapper .null .nullable inner) (.wrapper .null .nullable inner')
  optional : ∀ {inner inner'}, related inner inner' →
    related (.wrapper .null .optional inner) (.wrapper .null .optional inner')
  annotate : ∀ {core core' members members'}, both members members' → related core core' →
    related (Document.annotate members core) (Document.annotate members' core')
  empty : ∀ {properties properties'}, spot properties properties' →
    properties.isEmpty = properties'.isEmpty
  spot : ∀ {properties properties' path path'}, spot properties properties' → places path path' →
    ∀ required, InStep faults
      (fun fields fields' => related (.object .null fields) (.object .null fields'))
      (fieldNodes doc path required properties) (fieldNodes doc' path' required properties')

def ReadInStep (doc doc' : Document) (places : String → String → Prop)
    (faults : Fault → Fault → Prop) (related : Node → Node → Prop) (schema schema' : Json) : Prop :=
  ∀ path path', places path path' →
    InStep faults related (node doc path schema) (node doc' path' schema')

variable {doc doc' : Document} {places : String → String → Prop} {faults : Fault → Fault → Prop}
variable {under : Part → Json → Json → Prop}
variable {both spot : List (String × Json) → List (String × Json) → Prop}
variable {related : Node → Node → Prop} {members members' : List (String × Json)}
variable {path path' : String}

namespace KeptInStep

variable (hk : KeptInStep doc doc' places faults both spot related)

include hk

theorem oneOrUnion {nodes nodes' : List Node} (h : List.Forall₂ related nodes nodes') :
    related (oneOrUnion nodes) (oneOrUnion nodes') := by
  match nodes, nodes', h with
  | [], _, .nil => exact hk.union .nil
  | [_], _, .cons h .nil => exact h
  | _ :: _ :: _, _, .cons h (.cons h' hrest) => exact hk.union (.cons h (.cons h' hrest))

theorem alternatives (nullable : Bool) {nodes nodes' : List Node}
    (h : List.Forall₂ related nodes nodes') :
    related (alternatives nullable nodes) (alternatives nullable nodes') := by
  have hone := hk.oneOrUnion h
  have hempty : nodes.isEmpty = nodes'.isEmpty := by cases h <;> rfl
  unfold Document.alternatives
  rw [hempty]
  split
  · exact hk.leaf rfl
  · split
    · exact hk.nullable hone
    · exact hone

end KeptInStep

theorem isNullOnly_any {items items' : List Json}
    (h : List.Forall₂ (fun v v' => isNullOnly v = isNullOnly v') items items') :
    items.any isNullOnly = items'.any isNullOnly := by
  induction h with
  | nil => rfl
  | cons hk _ ih => rw [List.any_cons, List.any_cons, hk, ih]

theorem enumNode_deferred {values : Json} {node : Node} (h : enumNode values = .ok node) :
    node.deferred = [] := by
  unfold enumNode at h
  split at h
  · cases h
  · split at h
    · cases h
      rfl
    · cases h
      rw [List.eq_nil_iff_forall_not_mem]
      intro part hm
      obtain ⟨option, ho, hm⟩ := Node.mem_listDeferred.mp hm
      obtain ⟨value, -, rfl⟩ := List.mem_map.mp ho
      cases hm

/-! ## One function after the other -/

section

variable (hp : Places places faults) (hf : Forms under both spot)
variable (hk : KeptInStep doc doc' places faults both spot related)

section

include hp

theorem variantNodes_inStep {variants variants' : List Json}
    (h : List.Forall₂ (ReadInStep doc doc' places faults related) variants variants')
    (hn : List.Forall₂ (fun v v' => isNullOnly v = isNullOnly v') variants variants')
    (hpath : places path path') (index : Nat) :
    InStep faults (List.Forall₂ related) (variantNodes doc path index variants)
      (variantNodes doc' path' index variants') := by
  induction h generalizing index with
  | nil =>
    rw [variantNodes, variantNodes]
    exact .ok .nil
  | cons h _ ih =>
    obtain ⟨hn, hnrest⟩ := List.forall₂_cons.mp hn
    rw [variantNodes, variantNodes, hn]
    split
    · exact ih hnrest (index + 1)
    · refine (h _ _ (hp.below _ (hp.below _ hpath))).bind fun first first' hf => ?_
      exact (ih hnrest (index + 1)).bind fun others others' ho => .ok (.cons hf ho)

theorem itemNodes_inStep {items items' : List Json}
    (h : List.Forall₂ (ReadInStep doc doc' places faults related) items items')
    (hpath : places path path') (index : Nat) :
    InStep faults (List.Forall₂ related) (itemNodes doc path index items)
      (itemNodes doc' path' index items') := by
  induction h generalizing index with
  | nil =>
    rw [itemNodes, itemNodes]
    exact .ok .nil
  | cons h _ ih =>
    rw [itemNodes, itemNodes]
    refine (h _ _ (hp.below _ (hp.below _ hpath))).bind fun first first' hf => ?_
    exact (ih (index + 1)).bind fun others others' ho => .ok (.cons hf ho)

theorem typeNodes_inStep {types : List Json} (hpath : places path path')
    (h : ∀ type ∈ types, ∀ path path', places path path' → InStep faults related
      (typedNode doc path members type) (typedNode doc' path' members' type)) :
    InStep faults (List.Forall₂ related) (typeNodes doc path members types)
      (typeNodes doc' path' members' types) := by
  induction types with
  | nil =>
    rw [typeNodes, typeNodes]
    exact .ok .nil
  | cons type rest ih =>
    obtain ⟨h, hrest⟩ := List.forall_mem_cons.mp h
    rw [typeNodes, typeNodes]
    split
    · exact ih hrest
    · refine (h _ _ (hp.below _ (hp.below _ hpath))).bind fun first first' hf => ?_
      exact (ih hrest).bind fun others others' ho => .ok (.cons hf ho)

include hk

theorem fieldNodes_inStep {properties properties' : List (String × Json)}
    (h : SameNames (ReadInStep doc doc' places faults related) properties properties')
    (hpath : places path path') (required : Json) :
    InStep faults (RelatedFields related) (fieldNodes doc path required properties)
      (fieldNodes doc' path' required properties') := by
  induction h with
  | nil =>
    rw [fieldNodes, fieldNodes]
    exact .ok .nil
  | @cons key _ _ _ _ h _ ih =>
    rw [fieldNodes, fieldNodes]
    refine (h _ _ (hp.below _ (hp.below _ hpath))).bind fun field field' hf => ?_
    cases asksFor required key with
    | error fault => exact .error (hp.same fault)
    | ok asked =>
      refine ih.bind fun others others' ho => .ok (.cons ?_ ho)
      split
      · exact hf
      · exact hk.optional hf

end

/-! ### With the schemas below read in step -/

variable {size : Nat}
variable (ih : ∀ schema schema', sizeOf schema < size → under .schema schema schema' →
  ReadInStep doc doc' places faults related schema schema')

include ih

theorem forall₂_inStep {items items' : List Json} (hsize : sizeOf items ≤ size)
    (h : List.Forall₂ (under .schema) items items') :
    List.Forall₂ (ReadInStep doc doc' places faults related) items items' := by
  induction h with
  | nil => exact .nil
  | cons h _ ihrest =>
    simp only [List.cons.sizeOf_spec] at hsize
    exact .cons (ih _ _ (by omega) h) (ihrest (by omega))

theorem sameNames_inStep {properties properties' : List (String × Json)}
    (hsize : sizeOf properties ≤ size) (h : SameNames (under .schema) properties properties') :
    SameNames (ReadInStep doc doc' places faults related) properties properties' := by
  induction h with
  | nil => exact .nil
  | cons h _ ihrest =>
    simp only [List.cons.sizeOf_spec, Prod.mk.sizeOf_spec] at hsize
    exact .cons (ih _ _ (by omega) h) (ihrest (by omega))

include hp hf

theorem singleNode_inStep {parts parts' : Json} (hsize : sizeOf parts ≤ size)
    (h : under .schemas parts parts') (hpath : places path path') :
    InStep faults related (singleNode doc path parts) (singleNode doc' path' parts') := by
  obtain ⟨rfl, hno⟩ | ⟨items, items', rfl, rfl, hitems⟩ := hf.schemas h
  · unfold singleNode
    split
    · rename_i part
      exact (hno [part] rfl).elim
    · exact .error (hp.unsupported _ hpath)
    · split
      · exact .error (hp.unsupported _ (hp.below _ hpath))
      · exact .error (hp.unsupported _ hpath)
    · exact .error (hp.same _)
    · exact .error (hp.unsupported _ hpath)
    · exact .error (hp.same _)
  · simp only [Json.arr.sizeOf_spec] at hsize
    rcases forall₂_inStep ih (by omega) hitems with _ | ⟨hpart, _ | _⟩
    case cons.nil =>
      rw [singleNode, singleNode]
      exact hpart _ _ (hp.below _ hpath)
    all_goals
      rw [singleNode, singleNode]
      · exact .error (hp.unsupported _ hpath)
      all_goals simp

include hk

theorem unionNode_inStep {variants variants' : Json} (hsize : sizeOf variants ≤ size)
    (h : under .alternatives variants variants') (hpath : places path path') :
    InStep faults related (unionNode doc path variants) (unionNode doc' path' variants') := by
  obtain ⟨rfl, hno⟩ | ⟨items, items', rfl, rfl, hitems, hn⟩ := hf.alternatives h
  · unfold unionNode
    split
    · rename_i items
      exact (hno items rfl).elim
    · split
      · exact .error (hp.same _)
      · exact .ok (hk.leaf rfl)
      · exact .error (hp.unsupported _ (hp.below _ hpath))
  · simp only [Json.arr.sizeOf_spec] at hsize
    have hread := forall₂_inStep ih (by omega) hitems
    rw [unionNode, unionNode, isNullOnly_any hn]
    exact (variantNodes_inStep hp hread hn hpath 0).bind fun nodes nodes' hnodes =>
      .ok (hk.alternatives _ hnodes)

theorem elementNode_inStep {schema schema' : Json} (hsize : sizeOf schema < size)
    (h : under .items schema schema') (hpath : places path path') :
    InStep faults related (elementNode doc path schema) (elementNode doc' path' schema') := by
  obtain ⟨hschema, hno⟩ | ⟨items, items', rfl, rfl, hitems⟩ := hf.items h
  · have hnode := ih _ _ hsize hschema _ _ (hp.below "/items" hpath)
    obtain ⟨rfl, hobj⟩ | ⟨members, members', rfl, rfl, -⟩ := hf.schema hschema
    · match schema with
      | .null =>
        rw [elementNode, elementNode]
        exact .ok (hk.leaf rfl)
      | .arr items => exact (hno items rfl).elim
      | .obj members => exact (hobj members rfl).elim
      | .bool _ | .int _ | .float _ | .str _ =>
        rw [elementNode, elementNode]
        · exact hnode
        all_goals simp
    · rw [elementNode, elementNode]
      · exact hnode
      all_goals simp
  · simp only [Json.arr.sizeOf_spec] at hsize
    rw [elementNode, elementNode]
    exact (itemNodes_inStep hp (forall₂_inStep ih (by omega) hitems) hpath 0).bind
      fun nodes nodes' hn => .ok (hk.oneOrUnion hn)

theorem arrayNode_inStep (hsize : sizeOf members ≤ size) (h : both members members')
    (hpath : places path path') :
    InStep faults related (arrayNode doc path members) (arrayNode doc' path' members') := by
  rw [arrayNode_eq, arrayNode_eq, ← hf.value_eq h "minItems" rfl, ← hf.value_eq h "maxItems" rfl]
  refine InStep.bind (p := related) ?_ fun items items' hi => .ok (hk.array _ _ hi)
  rcases hf.itemSchema h with ⟨hv, hv'⟩ | ⟨value, value', hv, hv', hpart⟩
  · rw [hv, hv']
    exact .ok (hk.leaf rfl)
  · rw [hv, hv']
    exact elementNode_inStep hp hf hk ih ((sizeOf_itemSchema? hv).trans_le hsize) hpart hpath

theorem recordNode_inStep (hsize : sizeOf members ≤ size) (h : both members members')
    (hpath : places path path') :
    InStep faults related (recordNode doc path members) (recordNode doc' path' members') := by
  have hnone : InStep faults related (.error (.unsupported "free-form object" path))
      (.error (.unsupported "free-form object" path')) := .error (hp.unsupported _ hpath)
  rw [recordNode_eq, recordNode_eq]
  rcases hf.members h "additionalProperties" .schema rfl (by simp) with
    ⟨hv, hv'⟩ | ⟨schema, schema', hv, hv', hvalue⟩
  · rw [hv, hv']
    exact hnone
  have hread := ih _ _ ((sizeOf_find? hv).trans_le hsize) hvalue
  rw [hv, hv']
  obtain ⟨rfl, hno⟩ | ⟨value, value', rfl, rfl, -⟩ := hf.schema hvalue
  · cases schema with
    | obj value => exact (hno value rfl).elim
    | _ => exact hnone
  refine InStep.bind (p := related) ?_ fun keyNode keyNode' hkey =>
    (hread _ _ (hp.below _ hpath)).bind fun valueNode valueNode' hvalue =>
      .ok (hk.record hkey hvalue)
  have habsent : InStep faults related (.ok .absent) (.ok .absent) := .ok (hk.leaf rfl)
  rcases hf.members h "propertyNames" .schema rfl (by simp) with
    ⟨hv, hv'⟩ | ⟨schema, schema', hv, hv', hkey⟩
  · rw [hv, hv']
    exact habsent
  have hread := ih _ _ ((sizeOf_find? hv).trans_le hsize) hkey
  rw [hv, hv']
  obtain ⟨rfl, hno⟩ | ⟨key, key', rfl, rfl, -⟩ := hf.schema hkey
  · cases schema with
    | obj key => exact (hno key rfl).elim
    | _ => exact habsent
  · exact hread _ _ (hp.below _ hpath)

theorem objectNode_inStep (hsize : sizeOf members ≤ size) (h : both members members')
    (hpath : places path path') :
    InStep faults related (objectNode doc path members) (objectNode doc' path' members') := by
  have hrecord := recordNode_inStep hp hf hk ih hsize h hpath
  rw [objectNode_eq, objectNode_eq, ← hf.value_eq h "required" rfl]
  rcases hf.members h "properties" .named rfl (by simp) with
    ⟨hv, hv'⟩ | ⟨value, value', hv, hv', hpart⟩
  · rw [hv, hv']
    exact hrecord
  rw [hv, hv']
  obtain ⟨rfl, hno⟩ | ⟨properties, properties', rfl, rfl, hnames⟩ := hf.named hpart
  · cases value with
    | obj properties => exact (hno properties rfl).elim
    | _ =>
      dsimp only
      split
      · exact .error (hp.same _)
      · exact hrecord
  have hempty : properties.isEmpty = properties'.isEmpty :=
    hnames.elim SameNames.isEmpty hk.empty
  dsimp only
  rw [← hempty]
  split
  · exact hrecord
  rcases hnames with hnames | hspot
  · have hbelow := (sizeOf_obj_of_find? hv).trans_le hsize
    exact (fieldNodes_inStep hp hk (sameNames_inStep ih (by omega) hnames) hpath _).bind
      fun fields fields' hn => .ok (hk.object hn)
  · exact (hk.spot hspot hpath _).bind fun fields fields' hn => .ok hn

theorem typedNode_inStep (hsize : sizeOf members ≤ size) (h : both members members')
    {path path' : String} (hpath : places path path') (type : Json) :
    InStep faults related (typedNode doc path members type)
      (typedNode doc' path' members' type) := by
  unfold typedNode
  split
  · rename_i types
    refine (typeNodes_inStep hp hpath fun type hm path path' hpath => ?_).bind
      fun nodes nodes' hn => .ok (hk.alternatives _ hn)
    have := List.sizeOf_lt_of_mem hm
    exact typedNode_inStep hsize h hpath type
  · exact arrayNode_inStep hp hf hk ih hsize h hpath
  · exact objectNode_inStep hp hf hk ih hsize h hpath
  · split
    · exact .ok (hk.leaf rfl)
    · exact .error (hp.unsupported _ hpath)
  · exact .error (hp.same _)
  · exact .error (hp.unsupported _ hpath)
termination_by sizeOf type
decreasing_by subst_vars; simp; omega

theorem bareNode_inStep (hsize : sizeOf members ≤ size) (h : both members members')
    (hpath : places path path') :
    InStep faults related (bareNode doc path members) (bareNode doc' path' members') := by
  rw [bareNode_eq, bareNode_eq, ← hf.value_eq h "$ref" rfl, ← hf.value_eq h "const" rfl,
    ← hf.value_eq h "enum" rfl, ← hf.value_eq h "type" rfl]
  cases href : find? "$ref" members with
  | some ref => exact hk.reference h href hpath
  | none =>
  cases find? "const" members with
  | some value => exact .ok (hk.leaf rfl)
  | none =>
  cases find? "enum" members with
  | some values =>
    dsimp only
    cases henum : enumNode values with
    | error fault => exact .error (hp.same fault)
    | ok node => exact .ok (hk.leaf (enumNode_deferred henum))
  | none =>
  rcases hf.members h "oneOf" .alternatives rfl (by simp) with
    ⟨hv, hv'⟩ | ⟨variants, variants', hv, hv', hpart⟩
  case inr =>
    simp only [hv, hv']
    exact unionNode_inStep hp hf hk ih ((sizeOf_find? hv).le.trans hsize) hpart (hp.below _ hpath)
  simp only [hv, hv']
  rcases hf.members h "anyOf" .alternatives rfl (by simp) with
    ⟨hv, hv'⟩ | ⟨variants, variants', hv, hv', hpart⟩
  case inr =>
    simp only [hv, hv']
    exact unionNode_inStep hp hf hk ih ((sizeOf_find? hv).le.trans hsize) hpart (hp.below _ hpath)
  simp only [hv, hv']
  rcases hf.members h "allOf" .schemas rfl (by simp) with
    ⟨hv, hv'⟩ | ⟨parts, parts', hv, hv', hpart⟩
  case inr =>
    simp only [hv, hv']
    exact singleNode_inStep hp hf ih ((sizeOf_find? hv).le.trans hsize) hpart hpath
  simp only [hv, hv']
  cases find? "type" members with
  | some type => exact typedNode_inStep hp hf hk ih hsize h hpath type
  | none =>
  rcases hf.members h "properties" .named rfl (by simp) with ⟨hv, hv'⟩ | ⟨value, value', hv, hv', -⟩
  · simp only [hv, hv']
    exact .error (hp.unsupported _ hpath)
  · simp only [hv, hv']
    exact objectNode_inStep hp hf hk ih hsize h hpath

theorem membersNode_inStep (hsize : sizeOf members ≤ size) (h : both members members') :
    ReadInStep doc doc' places faults related (.obj members) (.obj members') := by
  intro path path' hpath
  rw [node, node]
  exact (bareNode_inStep hp hf hk ih hsize h hpath).bind fun core core' hc =>
    .ok (hk.annotate h hc)

omit ih

/-- Counterparts are read in step. -/
theorem node_inStep {schema schema' : Json} (h : under .schema schema schema') :
    ReadInStep doc doc' places faults related schema schema' := by
  obtain ⟨rfl, hno⟩ | ⟨members, members', rfl, rfl, hboth⟩ := hf.schema h
  · cases schema with
    | obj members => exact (hno members rfl).elim
    | _ =>
      intro path path' hpath
      unfold node
      exact .error (hp.unsupported _ hpath)
  · exact membersNode_inStep hp hf hk (fun schema schema' _ h => node_inStep h) le_rfl hboth
termination_by sizeOf schema
decreasing_by subst_vars; simp; omega

end

end StructuredOutput.Schema.Document
