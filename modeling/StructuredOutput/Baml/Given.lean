import StructuredOutput.Baml.Source
import StructuredOutput.Json.Call
import StructuredOutput.Json.Mapping

/-!
Declarations whose names, types and values are given as JSON values of any kind. They are rendered as
declarations of texts are: a value in the stead of a text is shown, and one that has to be gone
through is refused when that is not possible.
-/
namespace StructuredOutput.Baml

structure GivenField where
  name : Json := .str ""
  type : Json := .str ""
  optional : Json := .bool false
  description : Json := .null
  key : Json := .null

structure GivenClass where
  name : Json
  fields : List GivenField

structure GivenDeclarations where
  classes : List (Json × GivenClass) := []
  order : Json := .arr []
  enums : List (Json × Json) := []
  aliases : List (Json × Json) := []

namespace GivenField

def set (f : GivenField) (part : String) (value : Json) : Except Fault GivenField :=
  match part with
  | "name" => .ok { f with name := value }
  | "type" => .ok { f with type := value }
  | "optional" => .ok { f with optional := value }
  | "description" => .ok { f with description := value }
  | "alias" => .ok { f with key := value }
  | _ => .error .wrongType

def ofJson : Json → Except Fault GivenField
  | .obj members => members.foldlM (fun f member => f.set member.1 member.2) {}
  | _ => .error .wrongType

def line (f : GivenField) : Except Fault String := do
  let type ← if f.optional.truthy then pure ((← Json.Call.group f.type).display ++ "?")
    else pure f.type.display
  pure (fieldText f.name.display type f.key f.description)

end GivenField

namespace GivenClass

def ofJson (value : Json) : Except Fault GivenClass := do
  let fields ← Json.itemsOf ((value.get? "fields").getD (.arr []))
  pure ⟨(value.get? "name").getD (.str ""), ← fields.mapM GivenField.ofJson⟩

def text (c : GivenClass) : Except Fault String := do
  pure (classText c.name.display (← c.fields.mapM GivenField.line))

end GivenClass

namespace GivenDeclarations

def classTexts (d : GivenDeclarations) : Except Fault (List String) := do
  (← Json.itemsOf d.order).mapM fun name =>
    if name.isScalar then
      match Json.findKey? name d.classes with
      | some c => c.text
      | none => .error (.value .missingKey)
    else .error .wrongType

def enumTexts (d : GivenDeclarations) : Except Fault (List String) :=
  d.enums.mapM fun enum => do
    pure (enumText enum.1.display ((← Json.itemsOf enum.2).map Json.display))

/-- The texts of the declarations with a parse function. -/
def render (d : GivenDeclarations) (function root client : Json) : Except Fault String := do
  let classes ← d.classTexts
  let enums ← d.enumTexts
  let aliases := d.aliases.map fun a => (a.1.display, a.2.display)
  pure (sourceText enums aliases classes function.display root.display client)

end GivenDeclarations

namespace Declarations

/-- The text of a name hint; what does not count as present is the empty text. -/
def hintText (hint : Json) : Except Fault String :=
  if hint.truthy then Json.Call.textOf hint else .ok ""

/-- A free name for a hint. The counter stays where the search has left it. -/
def takeName (d : Declarations) (hint : Json) : Except Fault String × Declarations :=
  match hintText hint with
  | .error fault => (.error fault, d)
  | .ok text =>
    let (name, counter) := d.uniqueName text
    (.ok name, { d with counter })

def holdsName (d : Declarations) (name : Json) : Except Fault Bool :=
  if name.isScalar then .ok ((name.toStr?.map d.isDeclared).getD false) else .error .wrongType

def addClass (d : Declarations) (hint : Json) : Except Fault String × Declarations :=
  match hintText hint with
  | .error fault => (.error fault, d)
  | .ok text =>
    let (name, d) := d.declareClass text
    (.ok name, d)

/-- Declares an enum of the values met in a value. A name that was searched for values that cannot be
gone through has moved the counter. -/
def addEnum (d : Declarations) (hint values : Json) : Except Fault String × Declarations :=
  match hintText hint, Json.itemsOf values with
  | .error fault, _ => (.error fault, d)
  | .ok text, .error fault => (.error fault, { d with counter := (d.uniqueName text).2 })
  | .ok text, .ok items =>
    let (name, d) := d.declareEnum text items
    (.ok name, d)

def addAlias (d : Declarations) (hint : Json) (expr : String) : Except Fault String × Declarations :=
  match hintText hint with
  | .error fault => (.error fault, d)
  | .ok text =>
    let (name, d) := d.declareAlias text expr
    (.ok name, d)

/-- Completes the class of a number, counted from zero in the order of declaration. -/
def completeAt (d : Declarations) (index : Json) : Except Fault Unit × Declarations :=
  if index.isScalar then
    match (d.classes.zipIdx.find? fun entry => Json.sameKey (.int entry.2) index) with
    | some ((name, _), _) => (.ok (), d.completeClass name)
    | none => (.error (.value .missingKey), d)
  else (.error .wrongType, d)

end Declarations

end StructuredOutput.Baml
