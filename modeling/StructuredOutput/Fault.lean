import StructuredOutput.Json.Literal

/-!
What can go wrong, as causes. Every wording stands in `Fault.message`; whether an attempt may be
repeated, and which faults count as those of the operating system, is read off the cause.
-/
namespace StructuredOutput

/-- A schema that is understood but has no type. -/
inductive TranslationFault where
  | emptyUnion
  | recordWithoutValue
  | emptyWrapper (kind : String)
  | tooManyWrappers (limit : Json)
  | tooDeep (limit : Json)

/-- A compiler that cannot be found, cannot be started, or fails. -/
inductive CompileFault where
  | notInstalled (executable package : String)
  | cannotStart (command reason : String)
  | failed (status : Int) (workspace : String)

/-- A workspace without a usable client. -/
inductive ArtifactFault where
  | noClient (workspace : String)
  | noFunction (workspace : String) (function : Json)

/-- A text generation request that is refused or answered with an unusable body. -/
inductive GenerationFault where
  | noKey
  | refused (status detail : Json)
  | malformed (body : Json)

/-- A value that does not fit the operation applied to it. -/
inductive ValueFault where
  | wrongType
  | noMethod (typeName method : String)
  | noLength (typeName : String)
  | missingKey
  | badValue
  | tooLarge

/-- A call that lacks what it needs. -/
inductive RequestFault where
  | noResolver
  | noSchema
  | noPrompt
  | unsupportedSchema (typeName : String)

inductive FileFault where
  | notFound
  | exists_
  | notDirectory
  | isDirectory
  | busy
  | noSpace
  | nameTooLong

/-- A pattern that is refused: what is no pattern, a count or a number that is too large, flags that
exclude each other, a look back that is too far. -/
inductive PatternFault where
  | malformed
  | countTooLarge
  | numberTooLong
  | flagsClash
  | lookTooFar

/-- Where a raised error belongs: an interrupt ends the program, a system error comes from the
operating system. -/
inductive Category where
  | interrupt
  | system
  | ordinary
deriving DecidableEq

/-- An error raised by a collaborator: the text generator, a generated client, a child process. -/
structure Raised where
  category : Category
  name : String
  message : String

inductive Fault where
  | unsupported (kind path : String)
  | translation (cause : TranslationFault)
  | compile (cause : CompileFault)
  | artifact (cause : ArtifactFault)
  | generation (cause : GenerationFault)
  | emptyOutput
  | value (cause : ValueFault)
  | request (cause : RequestFault)
  | file (cause : FileFault)
  | pattern (cause : PatternFault)
  | notJson
  | noBody
  | unloadable
  | raised (error : Raised)
  | endless

namespace TranslationFault

def message : TranslationFault → String
  | emptyUnion => "UnionNode has no options"
  | recordWithoutValue => "RecordNode has no value schema"
  | emptyWrapper kind => kind ++ " does not wrap any node"
  | tooManyWrappers limit =>
    "More than " ++ limit.display ++ " modifier wrappers around a schema node"
  | tooDeep limit =>
    "Lazy schema nested deeper than " ++ limit.display ++ " levels (recursive non-object schema?)"

end TranslationFault

namespace CompileFault

def message : CompileFault → String
  | notInstalled executable package =>
    "Unable to find " ++ executable ++ ". Install it with: pip install " ++ package
  | cannotStart command reason => "Failed to start BAML compiler " ++ command ++ ": " ++ reason
  | failed status workspace =>
    "BAML compiler exited with status " ++ toString status ++ " in " ++ workspace

def status? : CompileFault → Option Int
  | failed status _ => some status
  | _ => none

end CompileFault

namespace ArtifactFault

def message : ArtifactFault → String
  | noClient workspace =>
    "Generated client not found in " ++ workspace
      ++ " (no baml_client/__init__.py, __init__.pyc or baml_client.py)"
  | noFunction workspace function =>
    "Generated client in " ++ workspace ++ " has no parse function " ++ function.literal

end ArtifactFault

namespace GenerationFault

def message : GenerationFault → String
  | noKey => "OPENAI_API_KEY not set in environment"
  | refused status detail => "API error " ++ status.display ++ ": " ++ detail.display
  | malformed body => "Malformed completion response: " ++ body.literal

def status? : GenerationFault → Option Json
  | refused status _ => some status
  | _ => none

end GenerationFault

namespace ValueFault

def message : ValueFault → String
  | wrongType => "unsupported operand type"
  | noMethod typeName method => "'" ++ typeName ++ "' object has no attribute '" ++ method ++ "'"
  | noLength typeName => "object of type '" ++ typeName ++ "' has no len()"
  | missingKey => "missing key"
  | badValue => "bad value"
  | tooLarge => "number too large"

end ValueFault

namespace RequestFault

def message : RequestFault → String
  | noResolver => "LazyNode has no resolver"
  | noSchema => "schema is required"
  | noPrompt => "prompt or messages is required"
  | unsupportedSchema typeName => "Unsupported schema representation: " ++ typeName

end RequestFault

namespace FileFault

def message : FileFault → String
  | notFound => "No such file or directory"
  | exists_ => "File exists"
  | notDirectory => "Not a directory"
  | isDirectory => "Is a directory"
  | busy => "Device or resource busy"
  | noSpace => "No space left on device"
  | nameTooLong => "File name too long"

def number : FileFault → Nat
  | notFound => 2
  | busy => 16
  | exists_ => 17
  | notDirectory => 20
  | isDirectory => 21
  | noSpace => 28
  | nameTooLong => 36

/-- A cause with its number and the path that it is about. -/
def report (cause : FileFault) (path : String) : String :=
  "[Errno " ++ toString cause.number ++ "] " ++ cause.message ++ ": " ++ Json.literalString path

end FileFault

namespace PatternFault

def message : PatternFault → String
  | malformed => "malformed pattern"
  | countTooLarge => "the repetition number is too large"
  | numberTooLong => "too many digits"
  | flagsClash => "ASCII and UNICODE flags are incompatible"
  | lookTooFar => "look-behind is too wide"

end PatternFault

namespace Fault

def message : Fault → String
  | unsupported kind path =>
    "Unsupported schema node: " ++ kind ++ (if path = "" then "" else " at " ++ path)
  | translation cause => cause.message
  | compile cause => cause.message
  | artifact cause => cause.message
  | generation cause => cause.message
  | emptyOutput => "Text generation returned empty text"
  | value cause => cause.message
  | request cause => cause.message
  | file cause => cause.message
  | pattern cause => cause.message
  | notJson => "text is not JSON"
  | noBody => "no json"
  | unloadable => "client cannot be loaded"
  | raised error => error.message
  | endless => "nesting without end"

/-- Whether a fault is one of the pipeline itself and not of a collaborator or a caller. -/
def isOwn : Fault → Bool
  | unsupported .. | translation _ | compile _ | artifact _ | generation _ | emptyOutput => true
  | _ => false

/-- Whether a fault ends the program and is never handled. -/
def isInterrupt : Fault → Bool
  | raised error => error.category = .interrupt
  | _ => false

def isSystem : Fault → Bool
  | raised error => error.category = .system
  | file _ => true
  | _ => false

def wrongType : Fault := .value .wrongType

/-- A method looked up on a value that has none of that name. -/
def noMethod (value : Json) (method : String) : Fault := .value (.noMethod value.typeName method)

end Fault

end StructuredOutput
