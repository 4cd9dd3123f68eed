import StructuredOutput.Fault

/-!
Values read as mappings: an object is one, and so is whatever can be gone through in pairs. Two keys
are one if they are the same number, whether it is written as a whole number, as a fraction or as a
truth value; the key that comes first stays, and the value that comes last.
-/
namespace StructuredOutput.Json

/-- What decides whether two keys are one: numbers without a fractional part are whole numbers. -/
def keyForm (key : Json) : Json :=
  match key with
  | .float x => (x.toInt?.map .int).getD (.float x)
  | other => (other.toInt?.map .int).getD other

def sameKey (first second : Json) : Bool := same first.keyForm second.keyForm

def findKey? {α : Type} (key : Json) (table : List (Json × α)) : Option α :=
  (table.find? fun entry => sameKey entry.1 key).map (·.2)

/-- Sets a key of a table: its value is replaced where it stands, or it is put at the end. -/
def insertKey {α : Type} (key : Json) (value : α) : List (Json × α) → List (Json × α)
  | [] => [(key, value)]
  | (k, v) :: rest =>
    if sameKey k key then (k, value) :: rest else (k, v) :: insertKey key value rest

/-- Entries as a table with each key once, whose keys have to be scalars. -/
def toTable {α : Type} (entries : List (Json × α)) : Except Fault (List (Json × α)) :=
  entries.foldlM
    (fun table entry =>
      if entry.1.isScalar then .ok (insertKey entry.1 entry.2 table) else .error .wrongType) []

/-- A key as the name of a member: a text is its own, any other key is named by its JSON text. -/
def keyText (key : Json) : String :=
  match key with
  | .str text => text
  | other => other.quote

/-- What is met when a value is gone through, which has to be possible. -/
def itemsOf (value : Json) : Except Fault (List Json) :=
  match value.elements? with
  | some items => .ok items
  | none => .error .wrongType

def toPair (value : Json) : Except Fault (Json × Json) := do
  match ← itemsOf value with
  | [key, item] => if key.isScalar then pure (key, item) else throw .wrongType
  | _ => throw (.value .badValue)

def toMapping (value : Json) : Except Fault (List (String × Json)) :=
  match value with
  | .obj members => .ok members
  | other => do
    let table ← toTable (← (← itemsOf other).mapM toPair)
    pure (distinct (table.map fun entry => (keyText entry.1, entry.2)))

/-- Arguments given by name. Every one has to be expected, none can be given twice. -/
def takeArguments (expected : List String) (given : List (String × Json)) :
    Except Fault (String → Json) :=
  if given.all fun argument => expected.contains argument.1 then
    .ok fun name => (find? name given).getD .null
  else .error .wrongType

end StructuredOutput.Json
