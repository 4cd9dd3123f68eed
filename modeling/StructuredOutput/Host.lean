import StructuredOutput.Client

/-!
The computer that the pipeline runs on: its installed packages, the programs that are found by name,
what a program does that is started on it, and what comes of importing a file. What other software
does is left open here and given with the computer; where it may raise, it raises what it likes.
-/
namespace StructuredOutput

open Files (Path Place)

instance {α : Type} : Coe α (Except Raised α) := ⟨.ok⟩

namespace Host

/-- An installed package: its entry points, each with its group, and its recorded files, each with
what a look for it comes to. -/
structure Package where
  entryPoints : List (String × String)
  files : List (Path × Except Raised Bool)

/-- The output of a program: bytes, or a text that stands for them once they have been read. -/
inductive Output where
  | bytes (bytes : List UInt8)
  | text (text : String)

instance : Coe String Output := ⟨.text⟩

/-- What a program leaves behind: its exit status, its output, and the files that it has written below
the directory where it was started. -/
structure Exit where
  status : Int := 0
  out : Output := .text ""
  err : Output := .text ""
  written : List (Path × Content) := []

/-- The bytecode of a module: the file of the module, the mark of the interpreter that made it, and
what the bytecode holds. -/
structure Bytecode where
  module : Path
  mark : String
  code : Content

namespace Bytecode

def name (b : Bytecode) : String := b.module.stem ++ "." ++ b.mark ++ ".pyc"

/-- Bytecode stands in a directory of its own beside the module. -/
def directory (b : Bytecode) : Path := b.module.parent.push "__pycache__"

def path (b : Bytecode) : Path := b.directory.push b.name

end Bytecode

/-- What the import of a file comes to: a client, or what keeps it from being one, and the bytecode of
the modules that were compiled on the way. -/
structure Import where
  outcome : Except Client.Failure Client
  bytecode : List Bytecode := []

/-- An import of a file that holds a client, without bytecode. -/
def plainImport (cwd : Place) (path : Path) (files : FileTree) : Import :=
  match files.read cwd path with
  | .ok content => ⟨Client.ofContent path.name content, []⟩
  | .error _ => ⟨.error .unloadable, []⟩

end Host

/-- A computer: the packages and the directory that their files are recorded from, the programs by
name, what a started program comes to, the working directory and the one for temporary files, the
encoding of texts, what the import of a file comes to among the files that are there, and where a path
leads that goes through symbolic links. -/
structure Host where
  packages : List (String × Except Raised Host.Package) := []
  packageDirectory : Path := .ofString "/"
  programs : List (String × String) := []
  child : Except Fault Host.Exit := .ok {}
  cwd : Place := []
  temporary : Path := .ofString "/tmp"
  decode : List UInt8 → Option String := fun bytes => String.fromUTF8? ⟨bytes.toArray⟩
  imports : Path → FileTree → Host.Import := Host.plainImport cwd
  links : Path → Option (Except Raised Place) := fun _ => none

namespace Host

/-- What a table holds under a name. A value that is no text names nothing, and one that cannot be a
key is refused. -/
def named {α : Type} (name : Json) (table : List (String × α)) : Except Fault (Option α) :=
  if name.isScalar then .ok (name.toStr?.bind fun text => Json.find? text table)
  else .error .wrongType

def package? (h : Host) (name : Json) : Except Fault (Option Package) := do
  match ← named name h.packages with
  | none => pure none
  | some (.ok package) => pure (some package)
  | some (.error error) => throw (.raised error)

def program? (h : Host) (name : Json) : Except Fault (Option String) := do
  pure ((← named name h.programs).filter (· ≠ ""))

/-- The place of a path, behind the links on its way. -/
def place (h : Host) (path : Path) : Except Fault Place :=
  match h.links path with
  | none => Files.Tree.resolve h.cwd path
  | some (.ok place) => .ok place
  | some (.error error) => .error (.raised error)

/-! ## Output -/

/-- A text with one form of line end: a carriage return with the line feed behind it, or alone, is a line
feed. -/
def oneLineEnd : List Char → List Char
  | '\r' :: '\n' :: rest => '\n' :: oneLineEnd rest
  | '\r' :: rest => '\n' :: oneLineEnd rest
  | c :: rest => c :: oneLineEnd rest
  | [] => []

def read (h : Host) : Output → Except Fault String
  | .text text => .ok text
  | .bytes bytes =>
    match h.decode bytes with
    | some text => .ok (String.ofList (oneLineEnd text.toList))
    | none => .error (.raised ⟨.ordinary, "UnicodeDecodeError", "invalid bytes"⟩)

/-! ## Files that other software writes -/

/-- A refusal of the file system as it is reported by the program that meets it. -/
def reported (path : Path) : Fault → Fault
  | .file cause => .raised ⟨.system, "OSError", cause.report path.text⟩
  | other => other

/-- Writes a file that a program leaves, with the directories above it. -/
def writeFile (cwd : Place) (directory : Path) (files : FileTree) (file : Path × Content) :
    Except Fault Unit × FileTree :=
  let target := directory.join file.1
  match files.ensure cwd target.parent with
  | (.error fault, files) => (.error (reported target.parent fault), files)
  | (.ok (), files) =>
    match files.write cwd target file.2 with
    | .ok files => (.ok (), files)
    | .error fault => (.error (reported target fault), files)

/-- Writes files in order, up to the first that cannot be written. -/
def writeFiles (cwd : Place) (directory : Path) : List (Path × Content) → FileTree →
    Except Fault Unit × FileTree
  | [], files => (.ok (), files)
  | file :: rest, files =>
    match writeFile cwd directory files file with
    | (.error fault, files) => (.error fault, files)
    | (.ok (), files) => writeFiles cwd directory rest files

/-- Leaves bytecode as far as it can be written; that it cannot be is not reported. -/
def leaveBytecode (cwd : Place) (bytecode : List Bytecode) (files : FileTree) : FileTree :=
  bytecode.foldl (fun files b => (writeFile cwd b.directory files (⟨"", [b.name]⟩, b.code)).2) files

/-- Imports a file. -/
def importFile (h : Host) (path : Path) (files : FileTree) : Except Fault Client × FileTree :=
  let found := h.imports path files
  (found.outcome.mapError Client.Failure.fault, leaveBytecode h.cwd found.bytecode files)

end Host

end StructuredOutput
