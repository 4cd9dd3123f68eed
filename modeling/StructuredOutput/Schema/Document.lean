import StructuredOutput.Schema.Graph
import StructuredOutput.Text.Name

/-!
Schema nodes of a JSON Schema document. A reference becomes a deferred node named by the whole text
of the reference, so all uses of one text are the same entry of the document's table; an entry is
the parse of the definition that the text names.

Keywords are looked at in a fixed order, and the first that is there decides the kind of the node.
A fault carries the place in the document where it arose.
-/
namespace StructuredOutput.Schema

open Json (find? sizeOf_find? sizeOf_obj_of_find?)

/-- The definitions of a document, those under `$defs` hiding those of the same name under
`definitions`. -/
structure Document where
  graph : Nat
  definitions : List (String × Json)

namespace Document

/-- The schema of an array's items, or the list of them. -/
def itemSchema? (members : List (String × Json)) : Option Json :=
  (find? "prefixItems" members).or (find? "items" members)

theorem sizeOf_itemSchema? {members : List (String × Json)} {value : Json}
    (h : itemSchema? members = some value) : sizeOf value < sizeOf members := by
  unfold itemSchema? at h
  cases hp : find? "prefixItems" members with
  | some v => rw [hp] at h; cases h; exact sizeOf_find? hp
  | none => rw [hp] at h; exact sizeOf_find? h

def refStarts : List String := ["#/$defs/", "#/definitions/"]

def dropStart? (start text : String) : Option String :=
  if start.toList.isPrefixOf text.toList then
    some (String.ofList (text.toList.drop start.toList.length))
  else none

/-- The name of the definition that a reference asks for. -/
def definitionName? (ref : String) : Option String :=
  refStarts.findSome? fun start => dropStart? start ref

/-- The names of the primitive types. -/
def primitiveTypes : List String := ["string", "integer", "number", "boolean", "null"]

def refNode (doc : Document) (path : String) : Json → Except Fault Node
  | .str ref =>
    match definitionName? ref with
    | some name =>
      if (find? name doc.definitions).isSome then .ok (.lazy .null (.str name) ⟨doc.graph, ref⟩)
      else .error (.unsupported ("unresolvable $ref " ++ ref) path)
    | none => .error (.unsupported ("unresolvable $ref " ++ ref) path)
  | .arr _ => .error .wrongType
  | .obj _ => .error .wrongType
  | ref => .error (Fault.noMethod ref "startswith")

/-- An enumeration: strings stay together, other values become a union of literals. -/
def enumNode (values : Json) : Except Fault Node :=
  match values.elements? with
  | none => .error .wrongType
  | some items =>
    if items.all fun v => v.toStr?.isSome then .ok (.enumeration .null (.arr items))
    else .ok (.union .null (items.map (.literal .null)))

/-- Alternatives as one node: a single one stands for itself. -/
def oneOrUnion : List Node → Node
  | [node] => node
  | nodes => .union .null nodes

/-- Alternatives with or without null; null alone is a primitive type. -/
def alternatives (nullable : Bool) (nodes : List Node) : Node :=
  if nodes.isEmpty then .primitive .null (.str "null")
  else if nullable then .wrapper .null .nullable (oneOrUnion nodes)
  else oneOrUnion nodes

def isNullOnly (schema : Json) : Bool :=
  match schema with
  | .obj [(key, value)] => key = "type" && value.isStr "null"
  | _ => false

/-- Whether `required` asks for a key: an item of a list, a part of a string, a key of an object. -/
def asksFor (required : Json) (key : String) : Except Fault Bool :=
  match required with
  | .arr items => .ok (items.any (·.isStr key))
  | .str text => .ok (Text.isPart key.toList text.toList)
  | .obj members => .ok (find? key members).isSome
  | _ => .error .wrongType

/-- A node with the description and the default that stand beside it. Deferred nodes are shared, so
the description of one use goes into a wrapper of its own. -/
def annotate (members : List (String × Json)) (node : Node) : Node :=
  let node := match find? "description" members with
    | none => node
    | some d =>
      if d.truthy then (if node.isLazy then .wrapper d .plain node else node.describe d) else node
  match find? "default" members with
  | none => node
  | some value => .wrapper node.description (.default value) node

mutual

def node (doc : Document) (path : String) : Json → Except Fault Node
  | .obj members => do
    let core ← bareNode doc path members
    pure (annotate members core)
  | schema => .error (.unsupported ("schema " ++ schema.literal) path)
termination_by schema => (sizeOf schema, 0, 0)

/-- The node of a schema without its description and default. -/
def bareNode (doc : Document) (path : String) (members : List (String × Json)) :
    Except Fault Node :=
  match find? "$ref" members with
  | some ref => refNode doc path ref
  | none =>
  match find? "const" members with
  | some value => .ok (.literal .null value)
  | none =>
  match find? "enum" members with
  | some values => enumNode values
  | none =>
  match h : find? "oneOf" members with
  | some variants =>
    have := sizeOf_find? h
    unionNode doc (path ++ "/oneOf") variants
  | none =>
  match h : find? "anyOf" members with
  | some variants =>
    have := sizeOf_find? h
    unionNode doc (path ++ "/anyOf") variants
  | none =>
  match h : find? "allOf" members with
  | some parts =>
    have := sizeOf_find? h
    singleNode doc path parts
  | none =>
  match h : find? "type" members with
  | some type =>
    have := sizeOf_find? h
    typedNode doc path members type
  | none =>
  match find? "properties" members with
  | some _ => objectNode doc path members
  | none => .error (.unsupported "untyped schema" path)
termination_by (sizeOf members, sizeOf members + 1, 4)

def unionNode (doc : Document) (path : String) (variants : Json) : Except Fault Node :=
  match variants with
  | .arr items => do
    let nodes ← variantNodes doc path 0 items
    pure (alternatives (items.any isNullOnly) nodes)
  | other =>
    match other.elements? with
    | none => .error .wrongType
    | some [] => .ok (alternatives false [])
    | some (first :: _) => .error (.unsupported ("schema " ++ first.literal) (path ++ "/0"))
termination_by (sizeOf variants, 0, 1)

/-- The nodes of alternatives, null left out. -/
def variantNodes (doc : Document) (path : String) (index : Nat) :
    List Json → Except Fault (List Node)
  | [] => .ok []
  | variant :: rest =>
    if isNullOnly variant then variantNodes doc path (index + 1) rest
    else do
      let first ← node doc (path ++ "/" ++ toString index) variant
      let others ← variantNodes doc path (index + 1) rest
      pure (first :: others)
termination_by variants => (sizeOf variants, 0, 0)

/-- The node of the only part of an `allOf`. -/
def singleNode (doc : Document) (path : String) (parts : Json) : Except Fault Node :=
  match parts with
  | .arr [part] => node doc (path ++ "/allOf/0") part
  | .arr _ => .error (.unsupported "allOf with several schemas" path)
  | .str text =>
    if text.length = 1 then
      .error (.unsupported ("schema " ++ Json.literalString text) (path ++ "/allOf/0"))
    else .error (.unsupported "allOf with several schemas" path)
  | .obj [_] => .error (.value .missingKey)
  | .obj _ => .error (.unsupported "allOf with several schemas" path)
  | _ => .error .wrongType
termination_by (sizeOf parts, 0, 0)

/-- The node of a schema with a type, or with a list of types. -/
def typedNode (doc : Document) (path : String) (members : List (String × Json)) (type : Json) :
    Except Fault Node :=
  match type with
  | .arr types => do
    let nodes ← typeNodes doc path members types
    pure (alternatives (types.any (·.isStr "null")) nodes)
  | .str "array" => arrayNode doc path members
  | .str "object" => objectNode doc path members
  | .str name =>
    if name ∈ primitiveTypes then .ok (.primitive .null (.str name))
    else .error (.unsupported ("type " ++ Json.literalString name) path)
  | .obj _ => .error .wrongType
  | other => .error (.unsupported ("type " ++ other.literal) path)
termination_by (sizeOf members, sizeOf type, 3)

/-- The nodes of a list of types, null left out. -/
def typeNodes (doc : Document) (path : String) (members : List (String × Json)) :
    List Json → Except Fault (List Node)
  | [] => .ok []
  | type :: rest =>
    if type.isStr "null" then typeNodes doc path members rest
    else do
      let first ← typedNode doc (path ++ "/type/" ++ type.display) members type
      let others ← typeNodes doc path members rest
      pure (first :: others)
termination_by types => (sizeOf members, sizeOf types, 1)

def arrayNode (doc : Document) (path : String) (members : List (String × Json)) :
    Except Fault Node := do
  let items ← match h : itemSchema? members with
    | none => pure Node.absent
    | some schema =>
      have := sizeOf_itemSchema? h
      elementNode doc path schema
  pure (.array .null [items] ((find? "minItems" members).getD .null)
    ((find? "maxItems" members).getD .null))
termination_by (sizeOf members, 0, 1)

/-- The node of an array's items. A list of schemas becomes the union of its items. -/
def elementNode (doc : Document) (path : String) (schema : Json) : Except Fault Node :=
  match schema with
  | .null => .ok .absent
  | .arr items => do
    let nodes ← itemNodes doc path 0 items
    pure (oneOrUnion nodes)
  | other => node doc (path ++ "/items") other
termination_by (sizeOf schema, 0, 1)

def itemNodes (doc : Document) (path : String) (index : Nat) :
    List Json → Except Fault (List Node)
  | [] => .ok []
  | item :: rest => do
    let first ← node doc (path ++ "/items/" ++ toString index) item
    let others ← itemNodes doc path (index + 1) rest
    pure (first :: others)
termination_by items => (sizeOf items, 0, 0)

/-- The node of an object with properties, or of a record. -/
def objectNode (doc : Document) (path : String) (members : List (String × Json)) :
    Except Fault Node :=
  match h : find? "properties" members with
  | some (.obj properties) =>
    have := sizeOf_obj_of_find? h
    if properties.isEmpty then recordNode doc path members
    else do
      let fields ← fieldNodes doc path ((find? "required" members).getD (.arr [])) properties
      pure (.object .null fields)
  | some other =>
    if other.truthy then .error (Fault.noMethod other "items") else recordNode doc path members
  | none => recordNode doc path members
termination_by (sizeOf members, 0, 2)

/-- The node of an object without properties: a record, if there is a schema for its values. -/
def recordNode (doc : Document) (path : String) (members : List (String × Json)) :
    Except Fault Node :=
  match h : find? "additionalProperties" members with
  | some (.obj value) =>
    have := sizeOf_obj_of_find? h
    match hk : find? "propertyNames" members with
    | some (.obj key) => do
      have := sizeOf_obj_of_find? hk
      let key ← node doc (path ++ "/propertyNames") (.obj key)
      let value ← node doc (path ++ "/additionalProperties") (.obj value)
      pure (.record .null key value)
    | _ => do
      let value ← node doc (path ++ "/additionalProperties") (.obj value)
      pure (.record .null .absent value)
  | _ => .error (.unsupported "free-form object" path)
termination_by (sizeOf members, 0, 1)

/-- The fields of an object; one that is not asked for is optional. -/
def fieldNodes (doc : Document) (path : String) (required : Json) :
    List (String × Json) → Except Fault (List (String × Node))
  | [] => .ok []
  | (key, schema) :: rest => do
    let field ← node doc (path ++ "/properties/" ++ key) schema
    let asked ← asksFor required key
    let others ← fieldNodes doc path required rest
    pure ((key, if asked then field else .wrapper .null .optional field) :: others)
termination_by properties => (sizeOf properties, 0, 0)

end

/-- The definitions under a key. They may be left out or be any value that does not count as present;
another value that is no object is refused. -/
def definitionsUnder (key : String) (members : List (String × Json)) :
    Except Fault (List (String × Json)) :=
  match (find? key members).getD .null with
  | .obj found => .ok found
  | other => if other.truthy then .error .wrongType else .ok []

/-- The table of a document: each definition under both texts that can ask for it. -/
def table (doc : Document) : Graph :=
  ⟨doc.definitions.flatMap fun (name, schema) =>
    refStarts.map fun start => (⟨doc.graph, start ++ name⟩, node doc (start ++ name) schema)⟩

/-- Reads a schema: its root node and the table of its definitions. -/
def read (graph : Nat) : Json → Except Fault (Node × Graph)
  | .obj members => do
    let definitions ← definitionsUnder "definitions" members
    let defs ← definitionsUnder "$defs" members
    let doc : Document := ⟨graph, Json.union definitions defs⟩
    let root ← node doc "#" (.obj members)
    pure (root, doc.table)
  | schema => .error (.request (.unsupportedSchema schema.typeName))

end Document

end StructuredOutput.Schema
