import StructuredOutput.Fault

/-!
Responses of a text generator. A response is read by the names of its fields only, so one given as a
mapping and one with attributes are the same; any other value has no fields.
-/
namespace StructuredOutput.Chat

structure Response where
  fields : List (String × Json)

namespace Response

def ofJson (value : Json) : Response :=
  match value with
  | .obj members => ⟨members⟩
  | _ => ⟨[]⟩

/-- A field, `null` when it is not there. -/
def field (r : Response) (name : String) : Json := (Json.find? name r.fields).getD .null

/-- The first field that is not `null`. -/
def firstOf (r : Response) (names : List String) : Json :=
  ((names.map r.field).find? fun value => !value.isNull).getD .null

/-- The first field that is not `null` among names of any kind. A mapping has no field under a name that
is no text, unless the name can be no key; anything else refuses such a name. -/
def firstAmong (r : Response) (isMapping : Bool) : List Json → Except Fault Json
  | [] => .ok .null
  | .str name :: rest =>
    if (r.field name).isNull then firstAmong r isMapping rest else .ok (r.field name)
  | name :: rest =>
    if isMapping && name.isScalar then firstAmong r isMapping rest else .error .wrongType

/-- The text: the first of the two fields for it that counts as present, otherwise empty. -/
def text (r : Response) : Json :=
  ((["text", "output_text"].map r.field).find? Json.truthy).getD (.str "")

end Response

end StructuredOutput.Chat
