import StructuredOutput.Baml.Translation
import StructuredOutput.Digest.Sha256
import StructuredOutput.Schema.Document

/-!
The source file of a translation: enums, aliases and classes in this order, then the parse function.
The text depends on the declarations alone, so its digest names a build of it.
-/
namespace StructuredOutput.Baml

open Schema (Graph Node)

/-- The line of a field with a rendered type: its name and type, then the key it stands for and its
description as far as they count as present. -/
def fieldText (name type : String) (key description : Json) : String :=
  name ++ " " ++ type ++ (if key.truthy then " @alias(" ++ key.quote ++ ")" else "")
    ++ (if description.truthy then " @description(" ++ description.quote ++ ")" else "")

def Field.line (f : Field) : String :=
  fieldText f.name (if f.optional then group f.type ++ "?" else f.type)
    ((f.key.map Json.str).getD .null) f.description

def unlines (lines : List String) : String := String.join (lines.map (· ++ "\n"))

/-- A declaration of several lines between braces, with an empty line in front. -/
def braced (head : String) (lines : List String) : String :=
  unlines (["", head ++ " \x7b"] ++ lines.map ("  " ++ ·) ++ ["\x7d"])

def enumText (name : String) (values : List String) : String := braced ("enum " ++ name) values

/-- The declarations of all aliases, with an empty line in front if there are any. -/
def aliasesText (aliases : List (String × String)) : String :=
  if aliases.isEmpty then ""
  else unlines ("" :: aliases.map fun a => "type " ++ a.1 ++ " = " ++ a.2)

/-- The declaration of a class with the lines of its fields. -/
def classText (name : String) (lines : List String) : String := braced ("class " ++ name) lines

def targetText : String :=
  unlines ["generator target \x7b", "  output_type \x22python/pydantic\x22",
    "  output_dir \x22../\x22", "\x7d"]

def functionText (name root : String) (client : Json) : String :=
  unlines ["", "function " ++ name ++ "(input: string) -> " ++ root ++ " \x7b",
    "  client " ++ client.quote, "  prompt #\x22", "    \x7b\x7b input \x7d\x7d",
    "    \x7b\x7b ctx.output_format \x7d\x7d", "  \x22#", "\x7d"]

/-- A source file from the texts of its enums and classes. -/
def sourceText (enums : List String) (aliases : List (String × String)) (classes : List String)
    (function root : String) (client : Json) : String :=
  targetText ++ String.join enums ++ aliasesText aliases ++ String.join classes
    ++ functionText function root client

namespace Declarations

def class? (d : Declarations) (name : String) : Option Class := Json.find? name d.classes

/-- The classes in the order in which they were completed. -/
def completed (d : Declarations) : Except Fault (List Class) :=
  d.order.mapM fun name =>
    match d.class? name with
    | some c => .ok c
    | none => .error (.value .missingKey)

/-- The source text of declarations with a parse function. -/
def render (d : Declarations) (function root : String) (client : Json) : Except Fault String := do
  let classes ← d.completed
  let enums := d.enums.map fun e => enumText e.1 (e.2.map Json.display)
  pure (sourceText enums d.aliases (classes.map fun c => classText c.name (c.fields.map Field.line))
    function root client)

end Declarations

/-- A rendered source and the names needed to call its parse function. -/
structure Source where
  text : String
  functionName : String
  rootType : String
  key : String

namespace Source

def ofNode (s : Settings.Translator) (g : Graph) (node : Node) : Except Fault Source := do
  let (result, d) := (translate g s node (.ofJson s.rootName)).run.run {}
  let root ← result
  let text ← d.render s.functionName root s.client
  pure ⟨text, s.functionName, root, Digest.sha256 text⟩

def ofSchema (s : Settings.Translator) (schema : Json) : Except Fault Source := do
  let (node, g) ← Schema.Document.read 0 schema
  ofNode s g node

end Source

end StructuredOutput.Baml
