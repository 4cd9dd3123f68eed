import StructuredOutput.Files.Tree
import StructuredOutput.Json.Parser

/-!
Generated clients as the loader sees them: where a client keeps its parse functions, and what each
of them gives for a text. Reading a broken client raises.
-/
namespace StructuredOutput

namespace Client

/-- Where a client keeps its parse functions: in the registry of an exported object, as attributes or
as a table; in that object itself; in a registry of the module; or in the module itself. -/
inductive Shape where
  | objectRegistry
  | objectTable
  | object
  | registry
  | table
  | module
  | broken

/-- What stands under a name: a function that gives back its text, one that reads JSON, one that
refuses, one that reads JSON into a model, or a value that is no function. -/
inductive Member where
  | echo
  | json
  | fail
  | model
  | value

end Client

structure Client where
  shape : Client.Shape
  members : List (String × Client.Member)

namespace Client

def has (c : Client) (name : String) : Bool := (Json.find? name c.members).isSome

/-- The names under which parse functions are looked up. A member that has the name of a registry is
taken for it, and has no functions in it. -/
def registered (c : Client) : List (String × Member) :=
  match c.shape with
  | .object => if c.has "parse" then [] else c.members
  | .module => if c.has "b" || c.has "parse" then [] else c.members
  | .broken => []
  | _ => c.members

def readJson (text : Json) : Except Fault Json :=
  match text with
  | .str text =>
    match Json.parse text with
    | .ok value => .ok value
    | .error .malformed => .error .notJson
    | .error .numberTooLong => .error (.value .badValue)
  | _ => .error .wrongType

def call (name : String) (text : Json) : Member → Except Fault Json
  | .json => readJson text
  | .fail => .error (.raised ⟨.ordinary, "ValueError", "invalid"⟩)
  | .model => do
    let value ← readJson text
    pure (.obj [("mode", .str "json"), ("value", value)])
  | _ => .ok (.obj [("fn", .str name), ("text", text)])

def Shape.isTable : Shape → Bool
  | objectTable => true
  | table => true
  | _ => false

/-- The function of a name. A table has no function under a name that is no text, unless the name can be
no key; attributes have texts as names only. -/
def function? (c : Client) (name : Json) : Except Fault (Option (String × Member)) :=
  match name with
  | .str text =>
    match Json.find? text c.registered with
    | none => .ok none
    | some .value => .ok none
    | some member => .ok (some (text, member))
  | other => if c.shape.isTable && other.isScalar then .ok none else .error .wrongType

end Client

/-- The content of a file: text or a generated client. -/
inductive Content where
  | text (text : String)
  | client (client : Client)

namespace Client

/-- What keeps a file from being imported: it cannot be loaded, or its code raises. -/
inductive Failure where
  | unloadable
  | raised (error : Raised)

def Failure.fault : Failure → Fault
  | unloadable => .unloadable
  | raised error => .raised error

/-- The client that a file of a name holds. A file of text is a module without functions, and it cannot
be one that is compiled already. -/
def ofContent (name : String) : Content → Except Failure Client
  | .client client =>
    match client.shape with
    | .broken => .error (.raised ⟨.ordinary, "RuntimeError", "broken client"⟩)
    | _ => .ok client
  | .text _ => if name.endsWith ".pyc" then .error .unloadable else .ok ⟨.module, []⟩

end Client

abbrev FileTree := Files.Tree Content

end StructuredOutput
