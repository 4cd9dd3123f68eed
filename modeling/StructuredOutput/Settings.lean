import StructuredOutput.Fault

/-!
Settings in three groups: translation, build and retry. Values are kept as they are given, so that
writing settings gives back what was read; a value that does not fit is refused where it is used. A
group given under an unknown key is passed over, an unknown key inside a group is refused.
-/
namespace StructuredOutput.Settings

open Json (find?)

/-- Settings of the translation and of the rendered source. -/
structure Translator where
  unwrapLimit : Json := .int 50
  maxLazyDepth : Json := .int 32
  rootName : Json := .str "Root"
  functionPrefix : Json := .str "Gen"
  client : Json := .str "openai/gpt-4o"

/-- Settings of the workspace cache and of the compiler. -/
structure Build where
  cacheRoot : Json := .str ""
  compilerPackage : Json := .str "baml-py"
  compilerExecutable : Json := .str "baml-cli"
  packageRunner : Json := .arr [.str "uvx", .str "--from", .str "baml-py", .str "baml-cli"]
  sourceDir : Json := .str "baml_src"
  sourceFile : Json := .str "schema.baml"
  clientDir : Json := .str "baml_client"
  noisePattern : Json :=
    .str "^\\s*(Resolved|Prepared|Installed|Uninstalled|Audited) \\d+ packages? in "

structure Retry where
  maxAttempts : Json := .int 3
  retryDelay : Json := .float (.ofInt 1)

namespace Translator

def set (s : Translator) (key : String) (value : Json) : Except Fault Translator :=
  match key with
  | "unwrap_limit" => .ok { s with unwrapLimit := value }
  | "max_lazy_depth" => .ok { s with maxLazyDepth := value }
  | "root_name" => .ok { s with rootName := value }
  | "function_prefix" => .ok { s with functionPrefix := value }
  | "client" => .ok { s with client := value }
  | _ => .error .wrongType

def ofMembers (members : List (String × Json)) : Except Fault Translator :=
  members.foldlM (fun s m => s.set m.1 m.2) {}

def members (s : Translator) : List (String × Json) :=
  [("unwrap_limit", s.unwrapLimit), ("max_lazy_depth", s.maxLazyDepth), ("root_name", s.rootName),
   ("function_prefix", s.functionPrefix), ("client", s.client)]

def functionName (s : Translator) : String := s.functionPrefix.display ++ s.rootName.display

end Translator

namespace Build

def set (s : Build) (key : String) (value : Json) : Except Fault Build :=
  match key with
  | "cache_root" => .ok { s with cacheRoot := value }
  | "compiler_package" => .ok { s with compilerPackage := value }
  | "compiler_executable" => .ok { s with compilerExecutable := value }
  | "package_runner" => .ok { s with packageRunner := value }
  | "source_dir" => .ok { s with sourceDir := value }
  | "source_file" => .ok { s with sourceFile := value }
  | "client_dir" => .ok { s with clientDir := value }
  | "noise_pattern" => .ok { s with noisePattern := value }
  | _ => .error .wrongType

def ofMembers (members : List (String × Json)) : Except Fault Build :=
  members.foldlM (fun s m => s.set m.1 m.2) {}

def runner (s : Build) : Except Fault (List Json) :=
  match s.packageRunner.elements? with
  | some words => .ok words
  | none => .error .wrongType

/-- All values under their keys, the runner as a list of words. -/
def members (s : Build) : Except Fault (List (String × Json)) := do
  let runner ← s.runner
  pure [("cache_root", s.cacheRoot), ("compiler_package", s.compilerPackage),
    ("compiler_executable", s.compilerExecutable), ("package_runner", .arr runner),
    ("source_dir", s.sourceDir), ("source_file", s.sourceFile), ("client_dir", s.clientDir),
    ("noise_pattern", s.noisePattern)]

end Build

namespace Retry

def set (s : Retry) (key : String) (value : Json) : Except Fault Retry :=
  match key with
  | "max_attempts" => .ok { s with maxAttempts := value }
  | "retry_delay" => .ok { s with retryDelay := value }
  | _ => .error .wrongType

def ofMembers (members : List (String × Json)) : Except Fault Retry :=
  members.foldlM (fun s m => s.set m.1 m.2) {}

def members (s : Retry) : List (String × Json) :=
  [("max_attempts", s.maxAttempts), ("retry_delay", s.retryDelay)]

end Retry

end StructuredOutput.Settings

namespace StructuredOutput

structure Settings where
  translator : Settings.Translator := {}
  build : Settings.Build := {}
  retry : Settings.Retry := {}

namespace Settings

/-- Takes one group, if its key is known and its value an object. -/
def withGroup (s : Settings) (key : String) (value : Json) : Except Fault Settings :=
  match key, value with
  | "translator", .obj members => do pure { s with translator := ← Translator.ofMembers members }
  | "build", .obj members => do pure { s with build := ← Build.ofMembers members }
  | "retry", .obj members => do pure { s with retry := ← Retry.ofMembers members }
  | _, _ => .ok s

def ofJson : Json → Except Fault Settings
  | .obj groups => groups.foldlM (fun s group => s.withGroup group.1 group.2) {}
  | value => .error (Fault.noMethod value "items")

def toJson (s : Settings) : Except Fault Json := do
  let build ← s.build.members
  pure (.obj [("translator", .obj s.translator.members), ("build", .obj build),
    ("retry", .obj s.retry.members)])

def same (s t : Settings) : Bool :=
  Json.sameMembers s.translator.members t.translator.members
    && Json.same s.build.packageRunner t.build.packageRunner
    && (match s.build.members, t.build.members with
      | .ok a, .ok b => Json.sameMembers a b
      | _, _ => false)
    && Json.sameMembers s.retry.members t.retry.members

end Settings

end StructuredOutput
