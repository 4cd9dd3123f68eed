import StructuredOutput.Proofs.Schema.Rewordings
import StructuredOutput.Proofs.Schema.Subschemas
import StructuredOutput.Proofs.Schema.Wrappers

/-! # Descriptions of properties

The description of a schema is what its node says first. A deferred node is shared by all uses of its
reference, so it gets none: the description of one use goes into a wrapper of its own.

Documents that differ in the description of one property, whose schema is a reference, are read as nodes
that differ in the members of some objects only. These are the same but for one, and that one is a
deferred node which is the same, too, under wrappers that say the same besides. -/
namespace StructuredOutput.Schema

open Json (find?)

/-! ## What the node of a schema says -/

namespace Node

theorem said_of_description {node : Node} (h : node.description.truthy = true) :
    node.said = node.description := by
  cases node with
  | foreign | thunk => cases h
  | bare | primitive | literal | object | array | enumeration | memberEnum | record | union | lazy
  | wrapper | pipeline => exact if_pos h

theorem description_describe {node : Node} (hn : node.isNode = true) (description : Json) :
    (node.describe description).description = description := by
  cases node with
  | foreign | thunk => cases hn
  | bare | primitive | literal | object | array | enumeration | memberEnum | record | union | lazy
  | wrapper | pipeline => rfl

end Node

theorem Parsed.isNode {node : Node} (h : Parsed node) : node.isNode = true := by cases h <;> rfl

namespace Document

variable {doc doc' : Document} {members : List (String × Json)} {text : String}

/-- A description that is not empty is what the node of the schema says, whatever else the schema says. -/
theorem said_node {path : String} {n : Node} (h : node doc path (.obj members) = .ok n)
    (hd : find? "description" members = some (.str text)) (hne : text ≠ "") : n.said = .str text := by
  have htruthy : (Json.str text).truthy = true := by simpa [Json.truthy] using hne
  rw [node] at h
  obtain ⟨core, hcore, hn⟩ := Hint.ok_of_bind h
  cases hn
  have hfair := bareNode_kept parsed_kept doc path members
  rw [hcore] at hfair
  have hdescribed : (if core.isLazy then .wrapper (.str text) .plain core
      else core.describe (.str text) : Node).description = .str text := by
    split
    · rfl
    · exact Node.description_describe (Parsed.isNode hfair) _
  have hannotated : (annotate members core).description = .str text := by
    unfold annotate
    rw [hd]
    simp only [htruthy, if_true]
    cases find? "default" members with
    | none => exact hdescribed
    | some value => exact hdescribed
  rw [← hannotated]
  exact Node.said_of_description (hannotated ▸ htruthy)

/-- A deferred node has no description of its own. -/
theorem deferred_undescribed {path : String} {schema : Json} {n : Node}
    (h : node doc path schema = .ok n) {part : Node} (hm : part ∈ n.deferred) :
    part.description = .null := by
  obtain ⟨text, -, hcite⟩ := node_cites h part hm
  obtain ⟨name, -, -, rfl⟩ := refNode_ok.mp (hcite path)
  rfl

/-- Nor has any in what is read from a document, in its root and in its table. -/
theorem read_undescribed {number : Nat} {schema : Json} {root : Node} {g : Graph}
    (h : read number schema = .ok (root, g)) :
    (∀ part ∈ root.deferred, part.description = .null) ∧
      ∀ entry ∈ g.entries, ∀ n, entry.2 = .ok n → ∀ part ∈ n.deferred, part.description = .null := by
  obtain ⟨doc, -, -, hroot, rfl⟩ := read_cases h
  refine ⟨fun part hm => deferred_undescribed hroot hm, fun entry he n hn part hm => ?_⟩
  obtain ⟨definition, -, he⟩ := List.mem_flatMap.mp he
  obtain ⟨start, -, rfl⟩ := List.mem_map.mp he
  exact deferred_undescribed hn hm

end Document

/-! ## Nodes that differ in members of objects -/

/-- Nodes with the same flags over nodes that are related, when wrappers are peeled off both. -/
structure PeelAlike (related : Node → Node → Prop) (node node' : Node) : Prop where
  base : related node.base node'.base
  absent : node.mayBeAbsent = node'.mayBeAbsent
  null : node.mayBeNull = node'.mayBeNull

/-- Two nodes that are the same but for the members of some objects, which are related by `apart`. -/
inductive Similar (apart : List (String × Node) → List (String × Node) → Prop) : Node → Node → Prop
  | same (node : Node) : Similar apart node node
  | array {description low high : Json} {element element' : Node} : Similar apart element element' →
      Similar apart (.array description [element] low high) (.array description [element'] low high)
  | object {description : Json} {members members' : List (String × Node)} :
      Document.RelatedFields (Similar apart) members members' →
      Similar apart (.object description members) (.object description members')
  | apart {description : Json} {members members' : List (String × Node)} : apart members members' →
      Similar apart (.object description members) (.object description members')
  | record {description : Json} {key key' value value' : Node} : Similar apart key key' →
      Similar apart value value' →
      Similar apart (.record description key value) (.record description key' value')
  | union {description : Json} {options options' : List Node} :
      List.Forall₂ (Similar apart) options options' →
      Similar apart (.union description options) (.union description options')
  | wrapper {description : Json} {form : Wrapper} {inner inner' : Node} :
      Similar apart inner inner' →
      Similar apart (.wrapper description form inner) (.wrapper description form inner')

namespace Similar

open Document (RelatedFields)

variable {apart : List (String × Node) → List (String × Node) → Prop} {node node' : Node}

theorem of_array {description low high : Json} {element : Node}
    (h : Similar apart (.array description [element] low high) node') :
    ∃ element', node' = .array description [element'] low high ∧ Similar apart element element' := by
  cases h with
  | same => exact ⟨element, rfl, .same element⟩
  | array h => exact ⟨_, rfl, h⟩

theorem of_object {description : Json} {members : List (String × Node)}
    (h : Similar apart (.object description members) node') :
    ∃ members', node' = .object description members' ∧
      (RelatedFields (Similar apart) members members' ∨ apart members members') := by
  cases h with
  | same => exact ⟨members, rfl, .inl (.refl .same members)⟩
  | object h => exact ⟨_, rfl, .inl h⟩
  | apart h => exact ⟨_, rfl, .inr h⟩

/-- What is similar to an object is one. -/
theorem object_of {description : Json} {members' : List (String × Node)}
    (h : Similar apart node (.object description members')) :
    ∃ members, node = .object description members := by
  cases h <;> exact ⟨_, rfl⟩

theorem of_record {description : Json} {key value : Node}
    (h : Similar apart (.record description key value) node') :
    ∃ key' value', node' = .record description key' value' ∧ Similar apart key key' ∧
      Similar apart value value' := by
  cases h with
  | same => exact ⟨key, value, rfl, .same key, .same value⟩
  | record hkey hvalue => exact ⟨_, _, rfl, hkey, hvalue⟩

theorem of_union {description : Json} {options : List Node}
    (h : Similar apart (.union description options) node') :
    ∃ options', node' = .union description options' ∧
      List.Forall₂ (Similar apart) options options' := by
  cases h with
  | same => exact ⟨options, rfl, List.forall₂_same.mpr fun option _ => .same option⟩
  | union h => exact ⟨_, rfl, h⟩

theorem isAbsent (h : Similar apart node node') : node.isAbsent = node'.isAbsent := by
  cases h <;> rfl

theorem isLazy (h : Similar apart node node') : node.isLazy = node'.isLazy := by
  cases h <;> rfl

theorem description (h : Similar apart node node') : node.description = node'.description := by
  cases h <;> rfl

theorem describe (h : Similar apart node node') (description : Json) :
    Similar apart (node.describe description) (node'.describe description) := by
  cases h with
  | same => exact .same _
  | array h => exact .array h
  | object h => exact .object h
  | apart h => exact .apart h
  | record hkey hvalue => exact .record hkey hvalue
  | union h => exact .union h
  | wrapper h => exact .wrapper h

theorem annotate (h : Similar apart node node') (members : List (String × Json)) :
    Similar apart (Document.annotate members node) (Document.annotate members node') := by
  have hdescribed (d : Json) : Similar apart
      (if d.truthy then (if node.isLazy then .wrapper d .plain node else node.describe d) else node)
      (if d.truthy then (if node'.isLazy then .wrapper d .plain node' else node'.describe d)
        else node') := by
    rw [h.isLazy]
    split
    · split
      · exact .wrapper h
      · exact h.describe d
    · exact h
  unfold Document.annotate
  cases find? "description" members with
  | none =>
    cases find? "default" members with
    | none => exact h
    | some value =>
      dsimp only
      rw [h.description]
      exact .wrapper h
  | some d =>
    cases find? "default" members with
    | none => exact hdescribed d
    | some value =>
      dsimp only
      rw [(hdescribed d).description]
      exact .wrapper (hdescribed d)

/-- Similar nodes say the same. -/
theorem said {node node' : Node} : Similar apart node node' → node.said = node'.said
  | .same _ | .array _ | .object _ | .apart _ | .record _ _ | .union _ => rfl
  | .wrapper h => by rw [Node.said, Node.said, h.said]
termination_by structural node

theorem peelAlike {node node' : Node} :
    Similar apart node node' → PeelAlike (Similar apart) node node'
  | .same _ => ⟨.same _, rfl, rfl⟩
  | .array h => ⟨.array h, rfl, rfl⟩
  | .object h => ⟨.object h, rfl, rfl⟩
  | .apart h => ⟨.apart h, rfl, rfl⟩
  | .record hkey hvalue => ⟨.record hkey hvalue, rfl, rfl⟩
  | .union h => ⟨.union h, rfl, rfl⟩
  | .wrapper h => by
    obtain ⟨hbase, habsent, hnull⟩ := h.peelAlike
    exact ⟨hbase, by rw [Node.mayBeAbsent, Node.mayBeAbsent, habsent],
      by rw [Node.mayBeNull, Node.mayBeNull, hnull]⟩
termination_by structural node

end Similar

namespace Document

variable {doc doc' : Document} {members members' : List (String × Json)}

/-! ## One property with two descriptions -/

/-- The properties of an object with two schemas for one of them, which refer to the same definition and
differ in the description only. -/
structure Redescription where
  before : List (String × Json)
  key : String
  members : List (String × Json)
  members' : List (String × Json)
  after : List (String × Json)
  refers : (find? "$ref" members).isSome = true
  rest : ∀ other, other ≠ "description" → find? other members = find? other members'

namespace Redescription

variable (r : Redescription)

def properties : List (String × Json) := r.before ++ (r.key, .obj r.members) :: r.after

def properties' : List (String × Json) := r.before ++ (r.key, .obj r.members') :: r.after

def index : Nat := r.before.length

/-- Two schemas that are of one form, with the two lists of properties at the same places. -/
def Of (schema schema' : Json) : Prop :=
  Reworded (fun properties properties' => properties = r.properties ∧ properties' = r.properties')
    .schema schema schema'

/-- Two lists of members that differ at the place of the property only, and there in descriptions. -/
def SameBut (fields fields' : List (String × Node)) : Prop :=
  ∃ first n n' last, fields = first ++ (r.key, n) :: last ∧ fields' = first ++ (r.key, n') :: last ∧
    first.length = r.index ∧ PeelAlike Eq n n'

/-- What is read from the two lists of properties, with the same keys required. -/
def Apart (doc doc' : Document) (fields fields' : List (String × Node)) : Prop :=
  (∃ path path' required, fieldNodes doc path required r.properties = .ok fields ∧
    fieldNodes doc' path' required r.properties' = .ok fields') ∧ r.SameBut fields fields'

end Redescription

theorem Annotated.of_lazy {core n : Node} (h : Annotated core n) (hl : core.isLazy = true) :
    n.base = core ∧ n.mayBeAbsent = false ∧ n.mayBeNull = false := by
  have hself : core.base = core ∧ core.mayBeAbsent = false ∧ core.mayBeNull = false := by
    cases core with
    | lazy => exact ⟨rfl, rfl, rfl⟩
    | foreign | thunk | bare | primitive | literal | object | array | enumeration | memberEnum | record
    | union | wrapper | pipeline => cases hl
  induction h with
  | same | plain => exact hself
  | described _ hno => rw [hl] at hno; cases hno
  | default _ _ _ ih => exact ih

variable {r : Redescription}

theorem node_redescribed (hdoc : SameDefined (fun _ => True) doc doc') (path path' : String) :
    Agree (PeelAlike Eq) (node doc path (.obj r.members)) (node doc' path' (.obj r.members')) := by
  obtain ⟨ref, href⟩ := Option.isSome_iff_exists.mp r.refers
  have href' : find? "$ref" r.members' = some ref := (r.rest "$ref" (by decide)).symm.trans href
  rw [node, node, bareNode_eq, bareNode_eq, href, href']
  refine (refNode_reworded hdoc path path' ref).bind fun core _ h => .ok ?_
  obtain ⟨hsame, hl⟩ := h
  obtain ⟨hbase, habsent, hnull⟩ := (annotated r.members core).of_lazy hl
  obtain ⟨hbase', habsent', hnull'⟩ := (annotated r.members' core).of_lazy hl
  rw [← hsame]
  exact ⟨hbase.trans hbase'.symm, habsent.trans habsent'.symm, hnull.trans hnull'.symm⟩

/-- The fields before and behind the property do not depend on the document. -/
theorem fieldNodes_redescribed (hdoc : SameDefined (fun _ => True) doc doc') (path path' : String)
    (required : Json) : Agree (r.Apart doc doc') (fieldNodes doc path required r.properties)
      (fieldNodes doc' path' required r.properties') := by
  suffices h : ∀ before, Agree (fun fields fields' => ∃ first n n' last,
      fields = first ++ (r.key, n) :: last ∧ fields' = first ++ (r.key, n') :: last ∧
        first.length = before.length ∧ PeelAlike Eq n n')
      (fieldNodes doc path required (before ++ (r.key, .obj r.members) :: r.after))
      (fieldNodes doc' path' required (before ++ (r.key, .obj r.members') :: r.after)) from
    (h r.before).results.imp fun fields fields' ⟨hf, hf', hsame⟩ =>
      ⟨⟨path, path', required, hf, hf'⟩, hsame⟩
  intro before
  have hasked (key : String) : Agree Eq (asksFor required key) (asksFor required key) :=
    .refl (fun _ => rfl) _
  induction before with
  | nil =>
    rw [List.nil_append, List.nil_append, fieldNodes, fieldNodes]
    refine (node_redescribed hdoc _ _).bind fun n n' hn => (hasked r.key).bind fun asked _ he => ?_
    subst he
    have hafter := fieldNodes_reworded hdoc (kept_eq doc doc') path path' required r.after r.after
      (.refl .same _)
    refine hafter.bind fun last last' hl => .ok ?_
    obtain rfl := hl.eq
    refine ⟨[], _, _, last, rfl, rfl, rfl, ?_⟩
    cases asked with
    | true => exact hn
    | false => exact ⟨hn.base, rfl, hn.null⟩
  | cons property before ih =>
    obtain ⟨key, schema⟩ := property
    rw [List.cons_append, List.cons_append, fieldNodes, fieldNodes]
    have hnode := node_reworded hdoc (kept_eq doc doc') (path ++ "/properties/" ++ key)
      (path' ++ "/properties/" ++ key) schema schema (.same schema)
    refine hnode.bind fun n _ hn => (hasked key).bind fun asked _ he => ih.bind fun others others' ho => ?_
    subst hn he
    obtain ⟨first, n₁, n₂, last, rfl, rfl, hlength, hpeel⟩ := ho
    exact .ok ⟨_ :: first, n₁, n₂, last, rfl, rfl, congrArg (· + 1) hlength, hpeel⟩

/-- Two schemas with a redescription are read as similar nodes. -/
theorem similar_kept (hdoc : SameDefined (fun _ => True) doc doc') (r : Redescription) :
    KeptBoth doc doc' (fun properties properties' => properties = r.properties ∧
      properties' = r.properties') (Similar (r.Apart doc doc')) where
  same := .same
  array _ _ := .array
  object := .object
  record := .record
  union := .union
  nullable := .wrapper
  optional := .wrapper
  annotate members h := h.annotate members
  empty := by
    rintro _ _ ⟨rfl, rfl⟩
    cases hb : r.before <;> simp [Redescription.properties, Redescription.properties', hb]
  spot := by
    rintro _ _ ⟨rfl, rfl⟩ path path' required
    exact (fieldNodes_redescribed hdoc path path' required).imp fun _ _ => .apart

/-- Away from the place of the property the members are the same. -/
theorem Redescription.Apart.getElem? {fields fields' : List (String × Node)}
    (h : r.Apart doc doc' fields fields') {i : Nat} (hi : i ≠ r.index) : fields[i]? = fields'[i]? := by
  obtain ⟨-, first, n, n', last, rfl, rfl, hlength, -⟩ := h
  rw [List.getElem?_append, List.getElem?_append, hlength]
  split
  · rfl
  · obtain ⟨j, hj⟩ : ∃ j, i - r.index = j + 1 := ⟨i - r.index - 1, by omega⟩
    rw [hj, List.getElem?_cons_succ, List.getElem?_cons_succ]

/-- The members that are read from the two lists are peeled alike. -/
theorem Redescription.Apart.peelAlike {fields fields' : List (String × Node)}
    (h : r.Apart doc doc' fields fields') :
    RelatedFields (PeelAlike (Similar (r.Apart doc doc'))) fields fields' := by
  obtain ⟨-, first, n, n', last, rfl, rfl, -, hbase, habsent, hnull⟩ := h
  have hself (members : List (String × Node)) :
      RelatedFields (PeelAlike (Similar (r.Apart doc doc'))) members members :=
    .refl (fun node => ⟨.same _, rfl, rfl⟩) members
  exact (hself first).append (.cons ⟨hbase ▸ .same _, habsent, hnull⟩ (hself last))

end Document

end StructuredOutput.Schema
