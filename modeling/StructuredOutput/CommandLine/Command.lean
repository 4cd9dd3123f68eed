import StructuredOutput.CommandLine.Arguments
import StructuredOutput.Client
import StructuredOutput.Numeral.Entry

/-!
The commands of the program, read from its arguments. The options of the program itself stand in
front of the command's name. A file that is to be read has to be there when the arguments are read.
-/
namespace StructuredOutput.CommandLine

open Files (Path Place)

/-- What the arguments are read against: the files, the working directory, and the environment. -/
structure Surroundings where
  files : FileTree
  cwd : Place
  environment : List (String × String)

structure Preamble where
  settings : Option Path
  verbose : Bool
  rest : List String

structure Request where
  prompt : String
  model : String
  maxTokens : Option Int
  temperature : Option Numeral.Binary64
  topP : Option Numeral.Binary64

/-- A command; help is one that any other can be turned into. -/
inductive Command where
  | help
  | render (schema : Path) (output : Option Path)
  | hint (schema : Path)
  | build (schema : Path)
  | generate (schema : Path) (request : Request)

inductive Name where
  | render
  | hint
  | build
  | generate

def Name.ofString? : String → Option Name
  | "render" => some .render
  | "hint" => some .hint
  | "build" => some .build
  | "generate" => some .generate
  | _ => none

namespace Surroundings

/-- The path of a word, taken from the root. -/
def pathOf (s : Surroundings) (word : String) : Except UsageFault Path :=
  match Files.Tree.resolve s.cwd (.ofString word) with
  | .ok place => .ok ⟨"/", place⟩
  | .error _ => .error (.noPath word)

/-- The path of a word that leads to a file or a directory. -/
def existing (s : Surroundings) (word : String) : Except UsageFault Path := do
  let path ← s.pathOf word
  if (s.files.lookUp s.cwd path).isSome then pure path else throw (.noFile word)

end Surroundings

def programSwitches : List Switch :=
  [⟨"config", some 'c', true⟩, ⟨"verbose", some 'v', false⟩, helpSwitch]

def Name.switches : Name → List Switch
  | generate =>
    [⟨"prompt", some 'p', true⟩, ⟨"model", some 'm', true⟩, ⟨"max-tokens", none, true⟩,
     ⟨"temperature", none, true⟩, ⟨"top-p", none, true⟩, helpSwitch]
  | _ => [helpSwitch]

/-- Reads what stands in front of the command's own arguments; help ends the reading. -/
def readPreamble (s : Surroundings) (words : List String) :
    Except UsageFault (Option (Preamble × Name)) := do
  let a ← readArguments programSwitches false words
  if a.has "help" then pure none
  else
    let settings ← (a.value? "config").mapM s.existing
    match a.words with
    | [] => throw .missingCommand
    | command :: rest =>
      match Name.ofString? command with
      | some name => pure (some (⟨settings, a.has "verbose", rest⟩, name))
      | none => throw (.unknownCommand command)

/-- The value of an option that has to be given. -/
def required (a : Arguments) (name : String) (other : Option String) : Except UsageFault String :=
  match (a.value? name).or other with
  | some value => .ok value
  | none => .error (.missingOption name)

def numeric {α : Type} (a : Arguments) (name : String) (read : String → Option α) :
    Except UsageFault (Option α) :=
  (a.value? name).mapM fun text =>
    match read text with
    | some value => .ok value
    | none => .error (.notNumber text)

/-- The variable that names a model unless an option does. An empty one counts as none. -/
def modelVariable (s : Surroundings) : Option String :=
  (Json.find? "OPENAI_MODEL_ID" s.environment).filter (· ≠ "")

def readRequest (s : Surroundings) (a : Arguments) : Except UsageFault Request := do
  let prompt ← required a "prompt" none
  let model ← required a "model" (modelVariable s)
  let maxTokens ← numeric a "max-tokens" Numeral.intEntry?
  let temperature ← numeric a "temperature" Numeral.floatEntry?
  let topP ← numeric a "top-p" Numeral.floatEntry?
  pure { prompt, model, maxTokens, temperature, topP }

/-- Reads a command from its name and the words behind it. -/
def readCommand (s : Surroundings) (name : Name) (words : List String) : Except UsageFault Command := do
  let a ← readArguments name.switches true words
  if a.has "help" then pure .help
  else
    match name, a.words with
    | _, [] => throw (.missingWord "PATH")
    | .render, [schema] => pure (.render (← s.existing schema) none)
    | .render, [schema, output] => pure (.render (← s.existing schema) (some (← s.pathOf output)))
    | .hint, [schema] => pure (.hint (← s.existing schema))
    | .build, [schema] => pure (.build (← s.existing schema))
    | .generate, [schema] => pure (.generate (← s.existing schema) (← readRequest s a))
    | _, words => throw (.unexpectedWord (words.getLast?.getD ""))

end StructuredOutput.CommandLine
