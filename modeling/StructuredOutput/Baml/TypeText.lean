/-!
The text of type expressions. A suffix binds tighter than the bar of a union, so a union is put in
parentheses before it gets one; whether a text is a union is read off its brackets.
-/
namespace StructuredOutput.Baml

def openers : List Char := ['(', '<', '\x7b', '[']

def closers : List Char := [')', '>', '\x7d', ']']

def opens (c : Char) : Bool := openers.contains c

def closes (c : Char) : Bool := closers.contains c

/-- Whether a bar stands at depth zero, counting from the given depth. -/
def barOutside : Int → List Char → Bool
  | _, [] => false
  | depth, c :: rest =>
    if opens c then barOutside (depth + 1) rest
    else if closes c then barOutside (depth - 1) rest
    else if c = '|' && depth = 0 then true
    else barOutside depth rest

/-- Whether a type expression has a bar outside all brackets. -/
def isUnion (expr : String) : Bool := barOutside 0 expr.toList

/-- A union in parentheses, any other expression as it is. -/
def group (expr : String) : String := if isUnion expr then "(" ++ expr ++ ")" else expr

end StructuredOutput.Baml
