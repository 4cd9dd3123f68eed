import StructuredOutput.Baml.TypeText
import StructuredOutput.Digest.Sha256
import StructuredOutput.Fault
import StructuredOutput.Text.Name

/-!
The functions on names and type expressions called with any JSON value. A value of another type than
text is refused, except where it can be gone through like a text.
-/
namespace StructuredOutput.Json.Call

/-- A text, or the refusal of a value that is none. -/
def textOf (value : Json) : Except Fault String :=
  match value with
  | .str text => .ok text
  | _ => .error .wrongType

/-- The Pascal case of a text; a value that does not count as present is the empty text. -/
def pascalCase (value : Json) : Except Fault String :=
  if value.truthy then Text.pascalCase <$> textOf value else .ok ""

def fieldName (value : Json) : Except Fault String := Text.fieldName <$> textOf value

def isIdentifier (value : Json) : Except Fault Bool := Text.isIdentifier <$> textOf value

/-- Whether a bar stands at depth zero among texts. A text of several characters is a bracket if it is
a part of the row of brackets. -/
def barOutside : Int → List Json → Except Fault Bool
  | _, [] => .ok false
  | depth, .str text :: rest =>
    if Text.isPart text.toList Baml.openers then barOutside (depth + 1) rest
    else if Text.isPart text.toList Baml.closers then barOutside (depth - 1) rest
    else if text = "|" && depth = 0 then .ok true
    else barOutside depth rest
  | _, _ :: _ => .error .wrongType

/-- Whether a value that can be gone through has a bar outside all brackets. -/
def isUnion (value : Json) : Except Fault Bool :=
  match value.elements? with
  | some items => barOutside 0 items
  | none => .error .wrongType

/-- A union in parentheses, any other value as it is. -/
def group (value : Json) : Except Fault Json := do
  if ← isUnion value then pure (.str ("(" ++ value.display ++ ")")) else pure value

def digest (value : Json) : Except Fault String :=
  match value with
  | .str text => .ok (Digest.sha256 text)
  | other => .error (Fault.noMethod other "encode")

end StructuredOutput.Json.Call
