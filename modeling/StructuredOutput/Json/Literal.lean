import StructuredOutput.Json.Printer
import StructuredOutput.Text.Printable

/-!
Values inside messages. `literal` shows a value so that its type can be told: strings in single
quotes, or in double quotes when that saves an escape, and `None`, `True`, `False` for the three
constants. `display` shows a bare string as itself and everything else as `literal` does.
-/
namespace StructuredOutput.Json

def hexDigits : Nat → Nat → List Char
  | 0, _ => []
  | n + 1, value => Nat.digitChar (value / 16 ^ n % 16) :: hexDigits n value

/-- A character inside a literal with the given quote. -/
def showChar (mark c : Char) : List Char :=
  if c = mark || c = '\\' then ['\\', c]
  else if c = '\n' then ['\\', 'n']
  else if c = '\r' then ['\\', 'r']
  else if c = '\t' then ['\\', 't']
  else if Text.isPrintable c then [c]
  else if c.toNat < 0x100 then '\\' :: 'x' :: hexDigits 2 c.toNat
  else if c.toNat < 0x10000 then '\\' :: 'u' :: hexDigits 4 c.toNat
  else '\\' :: 'U' :: hexDigits 8 c.toNat

/-- A string as a literal. The quote is single unless the string holds single and no double ones. -/
def literalString (text : String) : String :=
  let cs := text.toList
  let mark := if cs.contains '\x27' && !cs.contains '\x22' then '\x22' else '\x27'
  String.ofList (mark :: cs.flatMap (showChar mark) ++ [mark])

mutual

def literal : Json → String
  | .null => "None"
  | .bool b => if b then "True" else "False"
  | .int n => toString n
  | .float x => Numeral.Layout.plain.text x
  | .str s => literalString s
  | .arr items => "[" ++ join ", " (literalItems items) ++ "]"
  | .obj members => "\x7b" ++ join ", " (literalMembers members) ++ "\x7d"

def literalItems : List Json → List String
  | [] => []
  | item :: rest => literal item :: literalItems rest

def literalMembers : List (String × Json) → List String
  | [] => []
  | (key, value) :: rest => (literalString key ++ ": " ++ literal value) :: literalMembers rest

end

def display : Json → String
  | .str s => s
  | value => literal value

end StructuredOutput.Json
