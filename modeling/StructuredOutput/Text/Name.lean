/-!
Names made from arbitrary text: type names in Pascal case, field names, and the test for a text
that can stand as a name by itself. All three know the ASCII letters and digits only, because a
declared name may hold nothing else.
-/
namespace StructuredOutput.Text

/-- Cuts a text at every character of a class. The pieces may be empty, and there is one more of
them than there are cuts. -/
def splitAll (cut : Char → Bool) : List Char → List (List Char)
  | [] => [[]]
  | c :: rest =>
    if cut c then [] :: splitAll cut rest
    else match splitAll cut rest with
      | [] => [[c]]
      | piece :: more => (c :: piece) :: more

def isPart (part : List Char) : List Char → Bool
  | [] => part.isEmpty
  | c :: rest => part.isPrefixOf (c :: rest) || isPart part rest

def words (text : List Char) : List (List Char) :=
  (splitAll (fun c => !c.isAlphanum) text).filter fun word => !word.isEmpty

/-- A word with its first letter in upper case and the rest as it was. -/
def capitalize : List Char → List Char
  | [] => []
  | c :: rest => c.toUpper :: rest

def startsWithDigit : List Char → Bool
  | [] => false
  | c :: _ => c.isDigit

/-- The words of a text joined in Pascal case. Inner capitals stay, a leading digit is moved behind
the word `Type`, and a text without letters and digits gives the empty text. -/
def pascalCase (text : String) : String :=
  let joined := (words text.toList).flatMap capitalize
  if startsWithDigit joined then "Type" ++ String.ofList joined else String.ofList joined

def isFieldChar (c : Char) : Bool := c.isAlphanum || c = '_'

/-- A key as a field name: every other character becomes an underscore, and a name that would be
empty or start with a digit is put behind `field_`. -/
def fieldName (key : String) : String :=
  let name := key.toList.map fun c => if isFieldChar c then c else '_'
  if name.isEmpty || startsWithDigit name then "field_" ++ String.ofList name else String.ofList name

/-- Whether a text is a letter or underscore followed by letters, digits and underscores. -/
def isPlainName : List Char → Bool
  | [] => false
  | c :: rest => (c.isAlpha || c = '_') && rest.all isFieldChar

/-- Whether a text is accepted as a name: a plain name, with or without one line feed at its end. -/
def isIdentifier (text : String) : Bool :=
  isPlainName text.toList
    || (text.toList.getLast? = some '\n' && isPlainName text.toList.dropLast)

end StructuredOutput.Text
