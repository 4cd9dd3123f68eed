import StructuredOutput.Fault
import StructuredOutput.Text.Name

/-!
Paths as texts, without a look at the files: repeated slashes and single dots vanish, double dots
stay, and joining an absolute path replaces what is in front of it. A path that starts with exactly
two slashes keeps both.
-/
namespace StructuredOutput.Files

/-- A path: the slashes it starts with, and its parts. -/
structure Path where
  root : String
  parts : List String
deriving DecidableEq

namespace Path

/-- The slashes that a text starts with, as far as a path keeps them. -/
def rootOf : List Char → String
  | '/' :: '/' :: '/' :: _ => "/"
  | '/' :: '/' :: _ => "//"
  | '/' :: _ => "/"
  | _ => ""

def ofString (text : String) : Path :=
  let pieces := (Text.splitAll (· = '/') text.toList).map String.ofList
  ⟨rootOf text.toList, pieces.filter fun part => part ≠ "" && part ≠ "."⟩

/-- The path of a value, which has to be a text. -/
def ofJson (value : Json) : Except Fault Path :=
  match value with
  | .str text => .ok (ofString text)
  | _ => .error .wrongType

/-- The text of a path; the empty path is a dot. -/
def text (p : Path) : String :=
  if p.root = "" && p.parts.isEmpty then "." else p.root ++ Json.join "/" p.parts

def join (p q : Path) : Path :=
  if q.root = "" then ⟨p.root, p.parts ++ q.parts⟩ else q

def push (p : Path) (part : String) : Path := ⟨p.root, p.parts ++ [part]⟩

def parent (p : Path) : Path := ⟨p.root, p.parts.dropLast⟩

/-- The last part, empty if there is none. -/
def name (p : Path) : String := p.parts.getLast?.getD ""

/-- The most bytes that a part may have. -/
def maxPart : Nat := 255

/-- The most bytes that the text of a path may have. -/
def maxText : Nat := 4095

/-- Whether a null character stands in a path, so that it names no place in any tree. -/
def hasNull (p : Path) : Bool := p.parts.any fun part => part.toList.contains '\x00'

/-- Refuses a path with a null character and one whose text is too long. -/
def check (p : Path) : Except Fault Unit :=
  if p.hasNull then .error (.value .badValue)
  else if maxText < p.text.utf8ByteSize then .error (.file .nameTooLong)
  else .ok ()

/-- The length of a name in front of its suffix: the last dot that is neither the first nor the last
character, or the whole name. -/
def stemLength (name : List Char) : Nat :=
  match name.reverse.findIdx? (· = '.') with
  | none => name.length
  | some back =>
    let i := name.length - 1 - back
    if 0 < i && 0 < back then i else name.length

def stem (p : Path) : String :=
  String.ofList (p.name.toList.take (stemLength p.name.toList))

/-- The path with another suffix on its last part; a path without parts has none. -/
def withSuffix (p : Path) (suffix : String) : Except Fault Path :=
  if p.parts.isEmpty then .error (.value .badValue)
  else .ok (p.parent.push (p.stem ++ suffix))

end Path

end StructuredOutput.Files
