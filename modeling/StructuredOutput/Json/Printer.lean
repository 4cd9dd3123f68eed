import StructuredOutput.Json.Basic
import StructuredOutput.Json.Quoted
import StructuredOutput.Numeral.Shortest

/-!
JSON values as text: `quote` on one line with a blank behind each comma and colon, `pretty` with one
item a line.
-/
namespace StructuredOutput.Json

def join (separator : String) : List String → String
  | [] => ""
  | [text] => text
  | text :: rest => text ++ separator ++ join separator rest

mutual

def quote : Json → String
  | .null => "null"
  | .bool b => if b then "true" else "false"
  | .int n => toString n
  | .float x => Numeral.Layout.json.text x
  | .str s => quoteString s
  | .arr items => "[" ++ join ", " (quoteItems items) ++ "]"
  | .obj members => "\x7b" ++ join ", " (quoteMembers members) ++ "\x7d"

def quoteItems : List Json → List String
  | [] => []
  | item :: rest => quote item :: quoteItems rest

def quoteMembers : List (String × Json) → List String
  | [] => []
  | (key, value) :: rest => (quoteString key ++ ": " ++ quote value) :: quoteMembers rest

end

def newline (depth : Nat) : String := "\n" ++ String.ofList (List.replicate (2 * depth) ' ')

/-- Texts between brackets, one a line. -/
def block (first last : String) (depth : Nat) (texts : List String) : String :=
  if texts.isEmpty then first ++ last
  else first ++ newline (depth + 1) ++ join ("," ++ newline (depth + 1)) texts ++ newline depth
    ++ last

mutual

/-- A value with one item a line, nested items indented by two more blanks. -/
def prettyAt (depth : Nat) : Json → String
  | .arr items => block "[" "]" depth (prettyItems (depth + 1) items)
  | .obj members => block "\x7b" "\x7d" depth (prettyMembers (depth + 1) members)
  | .null => quote .null
  | .bool b => quote (.bool b)
  | .int n => quote (.int n)
  | .float x => quote (.float x)
  | .str s => quote (.str s)

def prettyItems (depth : Nat) : List Json → List String
  | [] => []
  | item :: rest => prettyAt depth item :: prettyItems depth rest

def prettyMembers (depth : Nat) : List (String × Json) → List String
  | [] => []
  | (key, value) :: rest =>
    (quoteString key ++ ": " ++ prettyAt depth value) :: prettyMembers depth rest

end

def pretty (value : Json) : String := prettyAt 0 value

end StructuredOutput.Json
