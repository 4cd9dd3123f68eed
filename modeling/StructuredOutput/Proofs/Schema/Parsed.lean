import StructuredOutput.Proofs.Json.Members
import StructuredOutput.Schema.Document

/-! # What reading a document gives

The nodes of a document have fewer shapes than nodes in general: an array has one candidate for its
element, an enumeration holds strings, and nothing has to be called. `Parsed` lists the shapes. When
a document is refused, the fault is one of its text or its values, never one of translating it.

The induction over a document is made once, for any property that each form of node has as soon as its
parts have it. -/
namespace StructuredOutput

def Fault.isTooDeep : Fault → Bool
  | .translation (.tooDeep _) => true
  | _ => false

namespace Schema

inductive Parsed : Node → Prop
  | lazy {description name : Json} {ref : Ref} : Parsed (.lazy description name ref)
  | primitive {description name : Json} : Parsed (.primitive description name)
  | literal {description value : Json} : Parsed (.literal description value)
  | enumeration {description : Json} {texts : List String} :
      Parsed (.enumeration description (.arr (texts.map .str)))
  | array {description low high : Json} {element : Node} :
      Parsed element → Parsed (.array description [element] low high)
  | anyArray {description low high : Json} : Parsed (.array description [.absent] low high)
  | object {description : Json} {members : List (String × Node)} :
      (∀ member ∈ members, Parsed member.2) → Parsed (.object description members)
  | record {description : Json} {key value : Node} :
      Parsed key → Parsed value → Parsed (.record description key value)
  | anyRecord {description : Json} {value : Node} :
      Parsed value → Parsed (.record description .absent value)
  | union {description : Json} {options : List Node} :
      (∀ option ∈ options, Parsed option) → Parsed (.union description options)
  | wrapper {description : Json} {form : Wrapper} {inner : Node} :
      Parsed inner → Parsed (.wrapper description form inner)

/-- A result of reading: as asked for, or a fault that is none of the depth. -/
def Fair {α : Type} (holds : α → Prop) : Except Fault α → Prop
  | .ok a => holds a
  | .error fault => fault.isTooDeep = false

theorem Fair.bind {α β : Type} {p : α → Prop} {q : β → Prop} {r : Except Fault α}
    {f : α → Except Fault β} (h : Fair p r) (hf : ∀ a, p a → Fair q (f a)) : Fair q (r >>= f) := by
  cases r with
  | error fault => exact h
  | ok a => exact hf a h

namespace Document

open Json (find? sizeOf_find? sizeOf_obj_of_find?)

/-- What annotations make of a node: another description, or a wrapper with one around a deferred node,
and around it all a wrapper with the default. -/
inductive Annotated (node : Node) : Node → Prop
  | same : Annotated node node
  | plain (description : Json) : Annotated node (.wrapper description .plain node)
  | described (description : Json) : node.isLazy = false →
      Annotated node (node.describe description)
  | default (description value : Json) {inner : Node} : Annotated node inner →
      Annotated node (.wrapper description (.default value) inner)

theorem annotated (members : List (String × Json)) (node : Node) :
    Annotated node (annotate members node) := by
  have hdescribed (d : Json) : Annotated node (if d.truthy then (if node.isLazy then
      .wrapper d .plain node else node.describe d) else node) := by
    split
    · split
      · exact .plain d
      · rename_i hlazy
        exact .described d (by simpa using hlazy)
    · exact .same
  unfold annotate
  cases find? "description" members with
  | none =>
    cases find? "default" members with
    | none => exact .same
    | some value => exact .default _ value .same
  | some d =>
    cases find? "default" members with
    | none => exact hdescribed d
    | some value => exact .default _ value (hdescribed d)

/-- A property of nodes that is kept in reading: each form of node that is read has it if its parts
do, and no description takes it away. Only the fields of an object may have got an optional wrapper. -/
structure Kept (holds : Node → Prop) : Prop where
  lazy : ∀ (name : String) ref, holds (.lazy .null (.str name) ref)
  primitive : ∀ name : String, holds (.primitive .null (.str name))
  literal : ∀ value, holds (.literal .null value)
  enumeration : ∀ texts : List String, holds (.enumeration .null (.arr (texts.map .str)))
  array : ∀ {element} low high, holds element ∨ element = .absent →
    holds (.array .null [element] low high)
  object : ∀ {members}, (∀ member ∈ members, ∃ inner, holds inner ∧
    (member.2 = inner ∨ member.2 = .wrapper .null .optional inner)) → holds (.object .null members)
  record : ∀ {key value}, holds key ∨ key = .absent → holds value → holds (.record .null key value)
  union : ∀ {options}, (∀ option ∈ options, holds option) → holds (.union .null options)
  nullable : ∀ {inner}, holds inner → holds (.wrapper .null .nullable inner)
  plain : ∀ {inner} description, holds inner → holds (.wrapper description .plain inner)
  default : ∀ {inner} description value, holds inner →
    holds (.wrapper description (.default value) inner)
  describe : ∀ {node} description, holds node → holds (node.describe description)

namespace Kept

variable {holds : Node → Prop} (hk : Kept holds)

include hk

theorem annotate {node : Node} (h : holds node) (members : List (String × Json)) :
    holds (annotate members node) := by
  have ha := annotated members node
  generalize Document.annotate members node = result at ha ⊢
  induction ha with
  | same => exact h
  | plain d => exact hk.plain d h
  | described d => exact hk.describe d h
  | default d value _ ih => exact hk.default d value ih

theorem oneOrUnion {nodes : List Node} (h : ∀ node ∈ nodes, holds node) :
    holds (oneOrUnion nodes) := by
  unfold Document.oneOrUnion
  split
  · exact h _ List.mem_cons_self
  · exact hk.union h

theorem alternatives {nodes : List Node} (nullable : Bool) (h : ∀ node ∈ nodes, holds node) :
    holds (alternatives nullable nodes) := by
  unfold Document.alternatives
  split
  · exact hk.primitive _
  · split
    · exact hk.nullable (hk.oneOrUnion h)
    · exact hk.oneOrUnion h

theorem refNode (doc : Document) (path : String) (ref : Json) :
    Fair holds (refNode doc path ref) := by
  unfold Document.refNode
  split
  · split
    · split
      · exact hk.lazy _ _
      · rfl
    · rfl
  · rfl
  · rfl
  · unfold Fault.noMethod
    rfl

theorem enumNode (values : Json) : Fair holds (enumNode values) := by
  unfold Document.enumNode
  split
  · rfl
  · rename_i items _
    split
    · rename_i hall
      obtain ⟨texts, rfl⟩ := Json.exists_texts (List.all_eq_true.mp hall)
      exact hk.enumeration texts
    · refine hk.union fun option hm => ?_
      obtain ⟨value, -, rfl⟩ := List.mem_map.mp hm
      exact hk.literal value

end Kept

theorem asksFor_fair (required : Json) (key : String) :
    Fair (fun _ => True) (asksFor required key) := by
  unfold asksFor
  split <;> first | exact trivial | rfl

/-! ## The recursion over a document

One theorem for each function of the reader, with the measure that the reader itself goes down by. -/

variable {holds : Node → Prop}

mutual

theorem node_kept (hk : Kept holds) (doc : Document) (path : String) (schema : Json) :
    Fair holds (node doc path schema) := by
  match schema with
  | .obj members =>
    unfold node
    exact (bareNode_kept hk doc path members).bind fun core hc => hk.annotate hc members
  | .null | .bool _ | .int _ | .float _ | .str _ | .arr _ => unfold node; rfl
termination_by (sizeOf schema, 0, 0)
decreasing_by all_goals simp [Prod.lex_def]

theorem bareNode_kept (hk : Kept holds) (doc : Document) (path : String)
    (members : List (String × Json)) :
    Fair holds (bareNode doc path members) := by
  unfold bareNode
  split
  · exact hk.refNode doc path _
  split
  · exact hk.literal _
  split
  · exact hk.enumNode _
  split
  · rename_i variants h
    have := sizeOf_find? h
    exact unionNode_kept hk doc _ variants
  split
  · rename_i variants h
    have := sizeOf_find? h
    exact unionNode_kept hk doc _ variants
  split
  · rename_i parts h
    have := sizeOf_find? h
    exact singleNode_kept hk doc path parts
  split
  · rename_i type h
    have := sizeOf_find? h
    exact typedNode_kept hk doc path members type
  split
  · exact objectNode_kept hk doc path members
  · rfl
termination_by (sizeOf members, sizeOf members + 1, 4)
decreasing_by all_goals simp [Prod.lex_def] <;> omega

theorem unionNode_kept (hk : Kept holds) (doc : Document) (path : String) (variants : Json) :
    Fair holds (unionNode doc path variants) := by
  unfold unionNode
  split
  · rename_i items
    exact (variantNodes_kept hk doc path 0 items).bind fun nodes hn => hk.alternatives _ hn
  · split
    · rfl
    · exact hk.primitive _
    · rfl
termination_by (sizeOf variants, 0, 1)
decreasing_by all_goals subst_vars; simp [Prod.lex_def]

theorem variantNodes_kept (hk : Kept holds) (doc : Document) (path : String) (index : Nat)
    (variants : List Json) :
    Fair (∀ node ∈ ·, holds node) (variantNodes doc path index variants) := by
  match variants with
  | [] => unfold variantNodes; exact fun _ hm => nomatch hm
  | variant :: rest =>
    unfold variantNodes
    split
    · exact variantNodes_kept hk doc path (index + 1) rest
    · refine (node_kept hk doc _ variant).bind fun first hf => ?_
      refine (variantNodes_kept hk doc path (index + 1) rest).bind fun others ho => ?_
      exact List.forall_mem_cons.mpr ⟨hf, ho⟩
termination_by (sizeOf variants, 0, 0)
decreasing_by all_goals simp [Prod.lex_def] <;> omega

theorem singleNode_kept (hk : Kept holds) (doc : Document) (path : String) (parts : Json) :
    Fair holds (singleNode doc path parts) := by
  unfold singleNode
  split
  · rename_i part
    exact node_kept hk doc _ part
  · rfl
  · split <;> rfl
  · rfl
  · rfl
  · rfl
termination_by (sizeOf parts, 0, 0)
decreasing_by all_goals subst_vars; simp [Prod.lex_def]; omega

theorem typedNode_kept (hk : Kept holds) (doc : Document) (path : String)
    (members : List (String × Json))
    (type : Json) : Fair holds (typedNode doc path members type) := by
  unfold typedNode
  split
  · rename_i types
    exact (typeNodes_kept hk doc path members types).bind fun nodes hn => hk.alternatives _ hn
  · exact arrayNode_kept hk doc path members
  · exact objectNode_kept hk doc path members
  · split
    · exact hk.primitive _
    · rfl
  · rfl
  · rfl
termination_by (sizeOf members, sizeOf type, 3)
decreasing_by all_goals subst_vars; simp [Prod.lex_def, Nat.pos_iff_ne_zero]

theorem typeNodes_kept (hk : Kept holds) (doc : Document) (path : String)
    (members : List (String × Json))
    (types : List Json) : Fair (∀ node ∈ ·, holds node) (typeNodes doc path members types) := by
  match types with
  | [] => unfold typeNodes; exact fun _ hm => nomatch hm
  | type :: rest =>
    unfold typeNodes
    split
    · exact typeNodes_kept hk doc path members rest
    · refine (typedNode_kept hk doc _ members type).bind fun first hf => ?_
      refine (typeNodes_kept hk doc path members rest).bind fun others ho => ?_
      exact List.forall_mem_cons.mpr ⟨hf, ho⟩
termination_by (sizeOf members, sizeOf types, 1)
decreasing_by all_goals simp [Prod.lex_def] <;> omega

theorem arrayNode_kept (hk : Kept holds) (doc : Document) (path : String)
    (members : List (String × Json)) :
    Fair holds (arrayNode doc path members) := by
  unfold arrayNode
  split
  · exact hk.array _ _ (.inr rfl)
  · rename_i schema h
    have := sizeOf_itemSchema? h
    exact (elementNode_kept hk doc path schema).bind fun items hi => hk.array _ _ hi
termination_by (sizeOf members, 0, 1)
decreasing_by all_goals simp [Prod.lex_def]; omega

theorem elementNode_kept (hk : Kept holds) (doc : Document) (path : String) (schema : Json) :
    Fair (fun items => holds items ∨ items = .absent) (elementNode doc path schema) := by
  match schema with
  | .null => unfold elementNode; exact .inr rfl
  | .arr items =>
    unfold elementNode
    exact (itemNodes_kept hk doc path 0 items).bind fun nodes hn => .inl (hk.oneOrUnion hn)
  | .obj members =>
    unfold elementNode
    have h := node_kept hk doc (path ++ "/items") (.obj members)
    cases hn : node doc (path ++ "/items") (.obj members) with
    | ok n => rw [hn] at h; exact .inl h
    | error fault => rw [hn] at h; exact h
  | .bool _ | .int _ | .float _ | .str _ => unfold elementNode node; rfl
termination_by (sizeOf schema, 0, 1)
decreasing_by all_goals simp [Prod.lex_def]

theorem itemNodes_kept (hk : Kept holds) (doc : Document) (path : String) (index : Nat)
    (items : List Json) :
    Fair (∀ node ∈ ·, holds node) (itemNodes doc path index items) := by
  match items with
  | [] => unfold itemNodes; exact fun _ hm => nomatch hm
  | item :: rest =>
    unfold itemNodes
    refine (node_kept hk doc _ item).bind fun first hf => ?_
    refine (itemNodes_kept hk doc path (index + 1) rest).bind fun others ho => ?_
    exact List.forall_mem_cons.mpr ⟨hf, ho⟩
termination_by (sizeOf items, 0, 0)
decreasing_by all_goals simp [Prod.lex_def] <;> omega

theorem objectNode_kept (hk : Kept holds) (doc : Document) (path : String)
    (members : List (String × Json)) :
    Fair holds (objectNode doc path members) := by
  unfold objectNode
  split
  · rename_i properties h
    have := sizeOf_obj_of_find? h
    split
    · exact recordNode_kept hk doc path members
    · exact (fieldNodes_kept hk doc path _ properties).bind fun fields hf => hk.object hf
  · split
    · unfold Fault.noMethod
      rfl
    · exact recordNode_kept hk doc path members
  · exact recordNode_kept hk doc path members
termination_by (sizeOf members, 0, 2)
decreasing_by all_goals simp [Prod.lex_def] <;> omega

theorem recordNode_kept (hk : Kept holds) (doc : Document) (path : String)
    (members : List (String × Json)) :
    Fair holds (recordNode doc path members) := by
  unfold recordNode
  split
  · rename_i value h
    have := sizeOf_obj_of_find? h
    split
    · rename_i key hkeys
      have := sizeOf_obj_of_find? hkeys
      refine (node_kept hk doc _ (.obj key)).bind fun key hkey => ?_
      exact (node_kept hk doc _ (.obj value)).bind fun value hvalue => hk.record (.inl hkey) hvalue
    · exact (node_kept hk doc _ (.obj value)).bind fun value hvalue => hk.record (.inr rfl) hvalue
  · rfl
termination_by (sizeOf members, 0, 1)
decreasing_by all_goals subst_vars; simp [Prod.lex_def]; omega

theorem fieldNodes_kept (hk : Kept holds) (doc : Document) (path : String) (required : Json)
    (properties : List (String × Json)) :
    Fair (∀ member ∈ ·, ∃ inner, holds inner ∧
      (member.2 = inner ∨ member.2 = .wrapper .null .optional inner))
      (fieldNodes doc path required properties) := by
  match properties with
  | [] => unfold fieldNodes; exact fun _ hm => nomatch hm
  | (key, schema) :: rest =>
    unfold fieldNodes
    refine (node_kept hk doc _ schema).bind fun field hf => ?_
    refine (asksFor_fair required key).bind fun asked _ => ?_
    refine (fieldNodes_kept hk doc path required rest).bind fun others ho => ?_
    refine List.forall_mem_cons.mpr ⟨⟨field, hf, ?_⟩, ho⟩
    split
    · exact .inl rfl
    · exact .inr rfl
termination_by (sizeOf properties, 0, 0)
decreasing_by all_goals simp [Prod.lex_def] <;> omega

end

theorem parsed_describe {node : Node} (h : Parsed node) (d : Json) : Parsed (node.describe d) := by
  cases h with
  | lazy => exact .lazy
  | primitive => exact .primitive
  | literal => exact .literal
  | enumeration => exact .enumeration
  | array h => exact .array h
  | anyArray => exact .anyArray
  | object h => exact .object h
  | record hk hv => exact .record hk hv
  | anyRecord h => exact .anyRecord h
  | union h => exact .union h
  | wrapper h => exact .wrapper h

theorem parsed_kept : Kept Parsed where
  lazy _ _ := .lazy
  primitive _ := .primitive
  literal _ := .literal
  enumeration _ := .enumeration
  array low high h := by
    rcases h with h | rfl
    · exact .array h
    · exact .anyArray
  object h := by
    refine .object fun member hm => ?_
    obtain ⟨inner, hi, he | he⟩ := h member hm
    · exact he ▸ hi
    · exact he ▸ .wrapper hi
  record h hv := by
    rcases h with h | rfl
    · exact .record h hv
    · exact .anyRecord hv
  union := .union
  nullable := .wrapper
  plain _ := .wrapper
  default _ _ := .wrapper
  describe d h := parsed_describe h d

theorem node_fair (doc : Document) (path : String) (schema : Json) :
    Fair Parsed (node doc path schema) :=
  node_kept parsed_kept doc path schema

def DefinedBy (doc : Document) (schema : Json) : Prop :=
  ∃ members definitions defs, schema = .obj members ∧
    definitionsUnder "definitions" members = .ok definitions ∧
    definitionsUnder "$defs" members = .ok defs ∧ doc.definitions = Json.union definitions defs

/-- A schema that is read gives the node of its root and the table of its definitions. -/
theorem read_cases {graph : Nat} {schema : Json} {root : Node} {g : Graph}
    (h : read graph schema = .ok (root, g)) : ∃ doc : Document, doc.graph = graph ∧
      doc.DefinedBy schema ∧ node doc "#" schema = .ok root ∧ g = doc.table := by
  unfold read at h
  split at h
  · rename_i members
    cases h₁ : definitionsUnder "definitions" members with
    | error fault => rw [h₁] at h; cases h
    | ok definitions =>
      cases h₂ : definitionsUnder "$defs" members with
      | error fault => rw [h₁, h₂] at h; cases h
      | ok defs =>
        cases h₃ : node ⟨graph, Json.union definitions defs⟩ "#" (.obj members) with
        | error fault => simp [h₁, h₂, h₃, bind, Except.bind] at h
        | ok root' =>
          simp only [h₁, h₂, h₃, bind, Except.bind, pure, Except.pure, Except.ok.injEq,
            Prod.mk.injEq] at h
          obtain ⟨rfl, rfl⟩ := h
          exact ⟨_, rfl, ⟨members, definitions, defs, rfl, h₁, h₂, rfl⟩, h₃, rfl⟩
  · cases h

end Document

/-- Whether every entry of a table has a parsed node or a fault that is none of the depth. -/
def Graph.AllParsed (g : Graph) : Prop := ∀ entry ∈ g.entries, Fair Parsed entry.2

theorem Document.read_parsed {graph : Nat} {schema : Json} {root : Node} {g : Graph}
    (h : Document.read graph schema = .ok (root, g)) : Parsed root ∧ g.AllParsed := by
  obtain ⟨doc, -, -, hroot, rfl⟩ := Document.read_cases h
  have hr := Document.node_fair doc "#" schema
  rw [hroot] at hr
  refine ⟨hr, fun entry hm => ?_⟩
  obtain ⟨definition, -, hm⟩ := List.mem_flatMap.mp hm
  obtain ⟨start, -, rfl⟩ := List.mem_map.mp hm
  exact Document.node_fair doc _ _

namespace Graph

variable {g : Graph}

theorem mem_of_find? {ref : Ref} {result : Except Fault Node}
    {entries : List (Ref × Except Fault Node)} (h : find? ref entries = some result) :
    (ref, result) ∈ entries := by
  induction entries with
  | nil => cases h
  | cons entry rest ih =>
    obtain ⟨r, node⟩ := entry
    simp only [find?] at h
    split at h
    · rename_i hr
      cases h
      exact hr ▸ List.mem_cons_self
    · exact List.mem_cons_of_mem _ (ih h)

theorem mem_of_resolve {ref : Ref} {node : Node} (h : g.resolve ref = .ok node) :
    (ref, .ok node) ∈ g.entries := by
  unfold resolve at h
  split at h
  · rename_i result hf
    exact h ▸ mem_of_find? hf
  · cases h

theorem AllParsed.resolve (hg : g.AllParsed) (ref : Ref) : Fair Parsed (g.resolve ref) := by
  unfold Graph.resolve
  split
  · rename_i result hf
    exact hg _ (mem_of_find? hf)
  · rfl

theorem AllParsed.resolve_ok (hg : g.AllParsed) {ref : Ref} {node : Node}
    (h : g.resolve ref = .ok node) : Parsed node := by
  have hfair := hg.resolve ref
  rwa [h] at hfair

end Graph

end Schema

end StructuredOutput
