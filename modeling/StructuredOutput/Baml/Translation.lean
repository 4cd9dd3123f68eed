import StructuredOutput.Baml.Declarations
import StructuredOutput.Baml.TypeText
import StructuredOutput.Schema.Peel
import StructuredOutput.Settings

/-!
Translation of a schema node to a type expression. What is declared on the way stays declared also
when the translation ends in a fault.

The recursion is open: `step` translates one node with a given translation of the nodes inside it,
and `within` closes it down to a nesting. A path of the translation follows a deferred object at
most once, since the object is recorded before its fields are translated, and other deferred nodes
at most as often as the depth allows; `translate` takes a nesting that no such path exceeds.
-/
namespace StructuredOutput.Baml

open Schema (Graph Node Ref)

/-- A computation that declares and may end in a fault. -/
abbrev Translation := ExceptT Fault (StateM Declarations)

/-- The name wished for a declaration: none, a text, or a value that is no text and can only be shown
inside one. -/
inductive NameHint where
  | none
  | text (name : String)
  | shown (value : Json)

namespace NameHint

/-- The hint of a value; a value that does not count as present is none. -/
def ofJson (value : Json) : NameHint :=
  if value.truthy then
    match value with
    | .str name => text name
    | other => shown other
  else none

/-- The hint for a part: the hint with the part's word behind it. -/
def extend (hint : NameHint) (word : String) : NameHint :=
  match hint with
  | none => none
  | text name => text (name ++ word)
  | shown value => text (value.display ++ word)

/-- The first hint unless it is none. -/
def orElse (first second : NameHint) : NameHint :=
  match first with
  | none => second
  | _ => first

/-- The text to declare under, with a word for no hint. -/
def textOr (hint : NameHint) (word : String) : Except Fault String :=
  match hint with
  | none => .ok word
  | text name => .ok name
  | shown _ => .error .wrongType

end NameHint

namespace Translation

def lift {α : Type} (result : Except Fault α) : Translation α := ExceptT.mk (pure result)

/-- Runs a translation one level of deferred nodes deeper and comes back up, also after a fault. -/
def deeper {α : Type} (inner : Translation α) : Translation α := ExceptT.mk do
  modify fun d => { d with depth := d.depth + 1 }
  let result ← inner.run
  modify fun d => { d with depth := d.depth - 1 }
  pure result

def declareClass (hint : NameHint) : Translation String := do
  let hint ← lift (hint.textOr "Obj")
  modifyGet (·.declareClass hint)

/-- The types of the primitives. -/
def primitiveTypes : List (String × String) :=
  [("string", "string"), ("boolean", "bool"), ("integer", "int"), ("number", "float"),
   ("null", "null")]

def primitiveType (name : Json) : Except Fault String :=
  if name.isScalar then
    match name.toStr?.bind fun name => Json.find? name primitiveTypes with
    | some type => .ok type
    | none => .error (.unsupported ("primitive " ++ name.literal) "")
  else .error .wrongType

/-- The type of a literal is that of its primitive; a fraction without a fractional part is whole. -/
def literalType : Json → String
  | .bool _ => "bool"
  | .int _ => "int"
  | .float x => if x.isWhole then "int" else "float"
  | _ => "string"

def allNames : List Json → Except Fault Bool
  | [] => .ok true
  | .str name :: rest => if Text.isIdentifier name then allNames rest else .ok false
  | _ :: _ => .error .wrongType

/-- Declares an enumeration: as an enum if its values are names, as a union of literals otherwise.
Without values it is any string. -/
def enumType (values : Json) (hint : NameHint) : Translation String := do
  if !values.truthy then return "string"
  let items ← lift (match values.elements? with
    | some items => .ok items
    | none => .error .wrongType)
  let names ← lift (allNames items)
  let hint ← lift (hint.textOr "Enum")
  if names then modifyGet (·.declareEnum hint items)
  else modifyGet (·.declareAlias hint (Json.join " | " (items.map Json.quote)))

/-- The first of a name and its numbered forms that is not used. -/
def freeField (used : List String) (base : String) : String :=
  if used.contains base then
    let tries := (List.range (used.length + 1)).map fun n => base ++ "_" ++ toString (n + 1)
    (tries.find? fun name => !used.contains name).getD base
  else base

def orNull (expr : String) : String := if expr = "null" then expr else group expr ++ " | null"

/-- Whether a depth has reached the limit. -/
def reached (depth : Int) (limit : Json) : Except Fault Bool :=
  match limit with
  | .float x => .ok (x.leInt depth)
  | other =>
    match other.toInt? with
    | some n => .ok (n ≤ depth)
    | none => .error .wrongType

variable (g : Graph) (s : Settings.Translator)

/-- Translates the fields of a declared class in order; `used` are the names of the fields before. -/
def fields (inside : Node → NameHint → Translation String) (name : String) :
    List String → List (String × Node) → Translation Unit
  | _, [] => pure ()
  | used, (key, node) :: rest => do
    let peeled ← lift (Schema.peel s.unwrapLimit node)
    let type ← inside node (.text (name ++ "_" ++ key))
    let field := freeField used (Text.fieldName key)
    modify (·.addField name ⟨field, type, peeled.optional, peeled.description,
      if field = key then none else some key⟩)
    fields inside name (field :: used) rest

/-- Translates the fields of a declared class and completes it. -/
def classType (inside : Node → NameHint → Translation String) (name : String)
    (members : List (String × Node)) : Translation String := do
  fields s inside name [] members
  modify (·.completeClass name)
  pure name

def options (inside : Node → NameHint → Translation String) (hint : NameHint) (index : Nat) :
    List Node → Translation (List String)
  | [] => pure []
  | option :: rest => do
    let first ← inside option (hint.extend ("U" ++ toString index))
    let others ← options inside hint (index + 1) rest
    pure (first :: others)

/-- Translates what a deferred node stands for, unless it is declared already. An object is recorded
before its fields are translated. -/
def lazyType (inside : Node → NameHint → Translation String) (ref : Ref) (hint : NameHint) :
    Translation String := do
  match (← get).lazy? ref with
  | some expr => pure expr
  | none =>
    let resolved ← lift (g.resolve ref)
    let target ← lift (Schema.peel s.unwrapLimit resolved)
    match target.node with
    | .object _ members => do
      let name ← declareClass hint
      let expr := if target.nullable then name ++ " | null" else name
      modify (·.recordLazy ref expr)
      let _ ← classType s inside name members
      pure expr
    | _ => do
      if ← lift (reached (← get).depth s.maxLazyDepth) then
        throw (.translation (.tooDeep s.maxLazyDepth))
      let expr ← deeper (inside resolved hint)
      modify (·.recordLazy ref expr)
      pure expr

/-- Translates a node without wrappers, given the translation of the nodes inside it. -/
def core (inside : Node → NameHint → Translation String) (node : Node) (hint : NameHint) :
    Translation String :=
  match node with
  | .object _ members => do
    let name ← declareClass hint
    classType s inside name members
  | .primitive _ name => lift (primitiveType name)
  | .literal _ value => pure (literalType value)
  | .array _ candidates _ _ => do
    let element ← lift (g.element candidates)
    let inner ← if element.isAbsent then pure "string" else inside element (hint.extend "Item")
    pure (group inner ++ "[]")
  | .enumeration _ values => enumType values hint
  | .memberEnum _ source => enumType (.arr (source.values.map .str)) hint
  | .record _ key value => do
    if value.isAbsent then throw (.translation .recordWithoutValue)
    let key ← inside (if key.isAbsent then .primitive .null (.str "string") else key)
      (hint.extend "Key")
    let value ← inside value (hint.extend "Val")
    pure ("map<" ++ key ++ ", " ++ value ++ ">")
  | .union _ nodes => do
    if nodes.isEmpty then throw (.translation .emptyUnion)
    let parts ← options inside hint 0 nodes
    pure (Json.join " | " parts)
  | .lazy _ name ref => lazyType g s inside ref ((NameHint.ofJson name).orElse hint)
  | .bare _ inner =>
    if inner.isNode then inside inner hint else throw (.unsupported node.kind "")
  | other => throw (.unsupported other.kind "")

/-- Translates a node, given the translation of the nodes inside it. -/
def step (inside : Node → NameHint → Translation String) (node : Node) (hint : NameHint) :
    Translation String := do
  let peeled ← lift (Schema.peel s.unwrapLimit node)
  let expr ← core g s inside peeled.node hint
  pure (if peeled.nullable then orNull expr else expr)

def within : Nat → Node → NameHint → Translation String
  | 0, _, _ => throw .endless
  | nesting + 1, node, hint => step g s (within nesting) node hint

/-- How many deferred nodes a path of the translation can follow that starts at a depth. -/
def maxDeferred (depth : Int) : Nat :=
  g.entries.length + (match s.maxLazyDepth with
    | .float x => (x.ceiling - depth).toNat
    | limit => (limit.toInt?.getD 0 - depth).toNat)

/-- How many references a path of the translation can follow: in front of and behind each deferred
node as many calls as the table has entries. -/
def maxSteps (depth : Int) : Nat := (maxDeferred g s depth + 1) * (g.entries.length + 1)

end Translation

/-- Translates a node to a type expression, declaring what it needs. -/
def translate (g : Graph) (s : Settings.Translator) (node : Node) (hint : NameHint) :
    Translation String := do
  let d ← get
  Translation.within g s (g.reach (Translation.maxSteps g s d.depth) node) node hint

end StructuredOutput.Baml
