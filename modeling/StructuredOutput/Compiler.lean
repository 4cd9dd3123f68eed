import StructuredOutput.Host
import StructuredOutput.Pattern.Match
import StructuredOutput.Pattern.Parser
import StructuredOutput.Session

/-!
The compiler that turns a source into a client. It is looked for in three places: among the files of
its package, among the programs of the host, and as what a runner fetches on demand; the first that is
there is taken. Its output is passed on, the noise of its error output left out, before a failure is
reported.
-/
namespace StructuredOutput

open Files (Path)

/-- A compiler with its settings and the pattern of the lines that are noise. -/
structure Compiler where
  build : Settings.Build
  noise : Option Pattern

namespace Compiler

/-- The pattern of noise that a setting gives; an empty setting gives none. -/
def noiseOf (setting : Json) : Except Fault (Option Pattern) :=
  if setting.truthy then
    match setting with
    | .str text =>
      match Pattern.parse text with
      | .ok pattern => .ok (some pattern)
      | .error cause => .error (.pattern cause)
    | _ => .error .wrongType
  else .ok none

def ofSettings (build : Settings.Build) : Except Fault Compiler := do
  pure ⟨build, ← noiseOf build.noisePattern⟩

/-! ## Finding the compiler -/

/-- Where a compiler was found. -/
inductive Origin where
  | package (script : Path)
  | program (place : String)
  | runner (words : List String)

def Origin.command : Origin → List String
  | package script => [script.text]
  | program place => [place]
  | runner words => words

def Origin.note (build : Settings.Build) : Origin → String
  | package script =>
    "Resolved " ++ build.compilerExecutable.display ++ " from " ++ build.compilerPackage.display
      ++ ": " ++ script.text
  | program place => "Resolved " ++ build.compilerExecutable.display ++ " on PATH: " ++ place
  | runner words => "Falling back to on-demand runner: " ++ Json.join " " words

def scriptDirectories : List String := ["bin", "Scripts"]

/-- Whether a path is recorded where the script of a name is. -/
def isScript (name : String) (path : Path) : Bool :=
  path.stem = name && scriptDirectories.contains path.parent.name

/-- The first of some recorded files that is there and is the script of a name. -/
def firstScript (name : String) : List (Path × Except Raised Bool) → Except Fault (Option Path)
  | [] => .ok none
  | (path, there) :: rest =>
    if isScript name path then
      match there with
      | .ok true => .ok (some path)
      | .ok false => firstScript name rest
      | .error error => .error (.raised error)
    else firstScript name rest

/-- The script of a name that a package declares, if it is there. -/
def scriptIn (h : Host) (package : Host.Package) (name : String) : Except Fault (Option Path) := do
  if package.entryPoints.contains (name, "console_scripts") then
    pure ((← firstScript name package.files).map h.packageDirectory.join)
  else pure none

/-- The script that the package of the compiler declares, if it is there. -/
def script? (build : Settings.Build) (h : Host) : Except Fault (Option Path) := do
  match ← h.package? build.compilerPackage with
  | none => pure none
  | some package =>
    if build.compilerExecutable.isScalar then
      match build.compilerExecutable.toStr? with
      | some name => scriptIn h package name
      | none => pure none
    else throw .wrongType

/-- The first word of a runner, which has to be given as a sequence. -/
def firstWord (runner : Json) : Except Fault Json :=
  match runner with
  | .obj _ => .error (.value .missingKey)
  | other =>
    match other.elements? with
    | some (word :: _) => .ok word
    | _ => .error .wrongType

/-- The words of a runner, which have to be texts. -/
def runnerWords (runner : Json) : Except Fault (List String) :=
  match runner.elements?.bind fun words => words.mapM Json.toStr? with
  | some words => .ok words
  | none => .error .wrongType

/-- What starts the compiler through the runner, if the host has the runner. -/
def runner? (build : Settings.Build) (h : Host) : Except Fault (Option (List String)) := do
  if build.packageRunner.truthy then
    match ← h.program? (← firstWord build.packageRunner) with
    | some _ => some <$> runnerWords build.packageRunner
    | none => pure none
  else pure none

def find (build : Settings.Build) (h : Host) : Except Fault Origin := do
  match ← script? build h with
  | some script => pure (.package script)
  | none =>
    match ← h.program? build.compilerExecutable with
    | some place => pure (.program place)
    | none =>
      match ← runner? build h with
      | some words => pure (.runner words)
      | none => throw (.compile
          (.notInstalled build.compilerExecutable.display build.compilerPackage.display))

/-- The words that start the compiler, with a note of where it was found. -/
def resolve (c : Compiler) (h : Host) : Work (List String) := do
  let origin ← find c.build h
  Work.note (origin.note c.build)
  pure origin.command

/-! ## Running the compiler -/

def isNoise (c : Compiler) (line : List Char) : Bool :=
  match c.noise with
  | some pattern => pattern.found line
  | none => false

/-- What is passed on of an output, line by line; lines that are noise may be dropped. -/
def passOn (c : Compiler) (dropNoise : Bool) (text : String) : String :=
  String.ofList ((Text.lines text.toList).filter fun line => !(dropNoise && c.isNoise line)).flatten

/-- What is passed on of the two outputs of a program. -/
def forwarded (c : Compiler) (out err : String) : List Event :=
  [.out (c.passOn false out), .err (c.passOn true err)]

/-- The fault of a compiler that cannot be started. What is no refusal of the system is passed on. -/
def startFault (command : List String) (fault : Fault) : Fault :=
  if fault.isSystem then .compile (.cannotStart (command.headD "") fault.message) else fault

def start (h : Host) (command : List String) (directory : Path) : Work Host.Exit := do
  Work.record [.start command directory.text]
  match h.child with
  | .error fault => throw (startFault command fault)
  | .ok exit =>
    tryCatch (Work.onFiles (Host.writeFiles h.cwd directory exit.written)) fun fault =>
      throw (startFault command fault)
    pure exit

def compile (c : Compiler) (h : Host) (w : Workspace) : Work Unit := do
  let command := (← c.resolve h) ++ ["generate", "--from", "./" ++ c.build.sourceDir.display]
  Work.record [.log .info .compiler ("Compiling BAML workspace " ++ w.key)]
  Work.note ("Running " ++ Json.join " " command ++ " in " ++ w.path.text)
  let exit ← start h command w.path
  Work.record (c.forwarded (← h.read exit.out) (← h.read exit.err))
  if exit.status ≠ 0 then throw (.compile (.failed exit.status w.path.text))

end Compiler

end StructuredOutput
