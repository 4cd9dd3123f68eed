import StructuredOutput.CommandLine.Program

/-!
The program on a real computer. The files that the arguments name are read into a tree, the program
runs on the tree, and what it has written there is written out. It starts no other program and opens
no connection, so it finds no compiler and gets no answer from a chat service.
-/
namespace StructuredOutput.CommandLine

open Files (Path)

/-- The words that may name a file in an argument: the argument, and the value in an option. -/
def fileWords (word : String) : List String :=
  let characters := word.toList
  [word, String.ofList (characters.drop 2), String.ofList ((characters.dropWhile (· ≠ '=')).drop 1)]

/-- Puts a place into a tree as far as it is there: the directories that lead to it, and its file. -/
def readInto (files : FileTree) (place : Files.Place) : IO FileTree := do
  let mut files := files
  let mut path := (← IO.currentDir) / "/"
  let mut above := []
  for name in place do
    path := path / name
    above := above ++ [name]
    if ← path.isDir then files := files.put above .directory
    else if ← path.pathExists then
      files := files.put above (.file (.text (← IO.FS.readFile path)))
  return files

def writeOut (path : Path) (content : Content) : IO Unit := do
  IO.FS.createDirAll path.parent.text
  match content with
  | .text text => IO.FS.writeFile path.text text
  | .client _ => pure ()

def holdsText (files : FileTree) (place : Files.Place) (text : String) : Bool :=
  match files.entry? place with
  | some (.file (.text other)) => other = text
  | _ => false

/-- Writes out what is in one tree and not in another. -/
def writeChanges (before after : FileTree) : IO Unit :=
  after.entries.forM fun (place, entry) =>
    match entry with
    | .file (.text text) =>
      if holdsText before place text then pure () else writeOut ⟨"/", place⟩ (.text text)
    | _ => pure ()

/-- The part of the environment that the program looks at. -/
def readEnvironment : IO (List (String × String)) := do
  let found ← ["OPENAI_API_KEY", "OPENAI_BASE_URL", "OPENAI_MODEL_ID"].filterMapM fun name => do
    return (← IO.getEnv name).map (name, ·)
  return found

/-- The last words on a verdict that the program itself says nothing about. -/
def Verdict.remark : Verdict → String
  | usage fault => fault.message ++ "\n"
  | unreported fault => fault.message ++ "\n"
  | _ => ""

def runProgram (words : List String) : IO UInt32 := do
  let cwd := Path.ofString (← IO.currentDir).toString
  let temporary := (← IO.getEnv "TMPDIR").getD "/tmp"
  let named := (words.flatMap fileWords).map fun word =>
    Files.Tree.plainPlace cwd.parts (.ofString word)
  let before ← (cwd.parts :: named).foldlM readInto ({} : FileTree)
  let world : World Unit :=
    { host := { cwd := cwd.parts, temporary := .ofString temporary }
      environment := ← readEnvironment
      answer := fun _ => (.error (.raised ⟨.system, "ConnectionError", "no connection"⟩), ()) }
  let r := run world words () { files := before }
  writeChanges before r.session.files
  (← IO.getStdout).putStr r.out
  (← IO.getStderr).putStr (r.err ++ r.verdict.remark)
  return r.verdict.code.toUInt32

end StructuredOutput.CommandLine

def main (words : List String) : IO UInt32 := StructuredOutput.CommandLine.runProgram words
