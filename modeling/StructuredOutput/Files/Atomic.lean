import StructuredOutput.Files.Tree

/-!
Writing a text so that a reader never sees a part of it: the text goes to a new file beside the
target, which then takes the target's place. When that fails the new file is taken away again.
-/
namespace StructuredOutput.Files.Tree

variable {α : Type}

/-- A number in eight digits at least. -/
def tag (n : Nat) : String :=
  let digits := (toString n).toList
  String.ofList (List.replicate (8 - digits.length) '0' ++ digits)

/-- The name of the new file for a target, with a number that tells it from other files. -/
def temporaryName (name : String) (n : Nat) : String := "." ++ name ++ "." ++ tag n ++ ".tmp"

/-- A name that is free in a directory. Among the names with `n` numbers one is free if the tree has
fewer than `n` entries. -/
def freeName (t : Tree α) (directory : Place) (name : String) : String :=
  let names := (List.range (t.entries.length + 1)).map (temporaryName name)
  (names.find? fun new => (t.entry? (directory ++ [new])).isNone).getD (temporaryName name 0)

/-- Fills a new file. What is no text is refused, and a full tree takes the empty text only. -/
def fill (ofText : String → α) (t : Tree α) (place : Place) (content : Json) :
    Except Fault (Tree α) :=
  match content with
  | .str text =>
    if t.full && text ≠ "" then .error (.file .noSpace)
    else .ok (t.put place (.file (ofText text)))
  | _ => .error .wrongType

/-- Writes a text to a new file at a place, which then takes the place of the target. -/
def writeThrough (ofText : String → α) (t : Tree α) (cwd : Place) (p : Path) (content : Json)
    (place : Place) : Except Fault Unit × Tree α :=
  let made := t.put place (.file (ofText ""))
  match fill ofText made place content with
  | .error fault => (.error fault, made.erase place)
  | .ok filled =>
    match filled.replace cwd place p with
    | .error fault => (.error fault, filled.erase place)
    | .ok written => (.ok (), written)

/-- Writes a text at a path and gives the tree afterwards, also when it fails. -/
def atomicWrite (ofText : String → α) (t : Tree α) (cwd : Place) (p : Path) (content : Json) :
    Except Fault Unit × Tree α :=
  match t.ensure cwd p.parent with
  | (.error fault, t) => (.error fault, t)
  | (.ok (), t) =>
    let place := do
      let directory ← t.locate cwd p.parent
      t.locate cwd (p.parent.push (t.freeName directory p.name))
    match place with
    | .error fault => (.error fault, t)
    | .ok place => writeThrough ofText t cwd p content place

end StructuredOutput.Files.Tree
