import StructuredOutput.Chat.Completion
import StructuredOutput.CommandLine.Command
import StructuredOutput.Json.Printer
import StructuredOutput.Pipeline

/-!
Running the program. The settings are read before the arguments behind the command's name, so a bad
settings file is reported before a bad argument there. A fault of the pipeline is reported in one line
and any other is left to the caller.
-/
namespace StructuredOutput.CommandLine

open Files (Path Place)

/-- The world that the program runs in: the computer, its environment, and the chat service with its
state. -/
structure World (σ : Type) where
  host : Host
  environment : List (String × String)
  answer : σ → Except Fault Chat.Answer × σ

/-- What ended the program: nothing in its way, wrong arguments, a reported fault, an interrupt, or a
fault that it does not report. -/
inductive Verdict where
  | done
  | usage (fault : UsageFault)
  | reported (fault : Fault)
  | interrupted
  | unreported (fault : Fault)

namespace Verdict

def code : Verdict → Nat
  | done => 0
  | usage _ => 2
  | _ => 1

def ofFault (fault : Fault) : Verdict :=
  if fault.isOwn then reported fault
  else if fault.isInterrupt then interrupted
  else unreported fault

/-- The verdict on arguments. A text that can be no path is not reported as a wrong argument. -/
def ofUsage (fault : UsageFault) : Verdict :=
  match fault with
  | .noPath _ => unreported (.value .badValue)
  | other => usage other

def events : Verdict → List Event
  | reported fault => [.err ("Error: " ++ fault.message ++ "\n")]
  | interrupted => [.err "\nAborted!\n"]
  | _ => []

end Verdict

structure Run (σ : Type) where
  verdict : Verdict
  verbose : Bool
  session : Session
  next : σ

/-- A log record or note as a line of the error output: with its level and its logger if the program is
verbose, else the bare text of what is a warning at least. -/
def line (verbose : Bool) (level : Level) (logger : Logger) (text : String) : String :=
  if verbose then level.name ++ " " ++ logger.name ++ ": " ++ text ++ "\n"
  else if Level.warning.rank ≤ level.rank then text ++ "\n"
  else ""

def outOf : Event → String
  | .out text => text
  | _ => ""

def errOf (verbose : Bool) : Event → String
  | .err text => text
  | .note text => line verbose .debug .package text
  | .log level logger text => line verbose level logger text
  | _ => ""

namespace Run

variable {σ : Type}

def out (r : Run σ) : String := String.join (r.session.events.map outOf)

def err (r : Run σ) : String := String.join (r.session.events.map (errOf r.verbose))

end Run

def loadJson (h : Host) (path : Path) : Work Json := do
  match ← (← get).files.read h.cwd path with
  | .text text => Client.readJson (.str text)
  | .client _ => throw .notJson

def echo (text : String) : Work Unit := Work.record [.out text]

/-- The pipeline of a settings file, or of the settings that hold without one. -/
def pipelineOf (h : Host) (settings : Option Path) : Work Pipeline := do
  match settings with
  | some path => do
    let s ← Settings.ofJson (← loadJson h path)
    Pipeline.ofSettings s
  | none => Pipeline.ofSettings {}

def writeSource (h : Host) (path : Path) (text : String) : Work Unit := do
  let files ← (← get).files.write h.cwd path (.text text)
  modify fun s => { s with files }

/-- Renders a schema, to the output or to a file. -/
def render (p : Pipeline) (h : Host) (schema : Path) (output : Option Path) : Work Unit := do
  let source ← p.render (.document (← loadJson h schema))
  match output with
  | none => echo source.text
  | some path => writeSource h path source.text

def hint (h : Host) (schema : Path) : Work Unit := do
  let text ← Pipeline.hint (.document (← loadJson h schema))
  echo (text ++ "\n")

/-- Builds the client of a schema and prints where it is. -/
def build (p : Pipeline) (h : Host) (schema : Path) : Work Unit := do
  let (source, client) ← p.build h (.document (← loadJson h schema))
  echo ("workspace: " ++ client.workspace.path.text ++ "\n")
  echo ("key: " ++ source.key ++ "\n")
  echo ("function: " ++ source.functionName ++ "\n")

def Request.arguments (r : Request) : List (String × Json) :=
  [("prompt", .str r.prompt), ("max_tokens", (r.maxTokens.map Json.int).getD .null),
   ("temperature", (r.temperature.map Json.float).getD .null),
   ("top_p", (r.topP.map Json.float).getD .null)]

def generate {σ : Type} (p : Pipeline) (world : World σ) (schema : Path) (request : Request)
    (state : σ) (s : Session) : Except Fault Unit × σ × Session :=
  let first : Work (Json × Chat.Endpoint) := do
    pure (← loadJson world.host schema, ← Chat.Endpoint.ofEnvironment world.environment)
  match first.runIn s with
  | (.error fault, s) => (.error fault, state, s)
  | (.ok (value, endpoint), s) =>
    match p.generate world.host (.document value) (endpoint.generator world.answer)
      (.str request.model) request.arguments state s with
    | (.error fault, state, s) => (.error fault, state, s)
    | (.ok output, state, s) =>
      let (printed, s) := (echo (output.object.pretty ++ "\n")).runIn s
      (printed, state, s)

def perform {σ : Type} (p : Pipeline) (world : World σ) (command : Command) (state : σ)
    (s : Session) : Except Fault Unit × σ × Session :=
  let work (w : Work Unit) : Except Fault Unit × σ × Session :=
    let (outcome, s) := w.runIn s
    (outcome, state, s)
  match command with
  | .help => (.ok (), state, s)
  | .render schema output => work (render p world.host schema output)
  | .hint schema => work (hint world.host schema)
  | .build schema => work (build p world.host schema)
  | .generate schema request => generate p world schema request state s

def finish {σ : Type} (verdict : Verdict) (verbose : Bool) (s : Session) (state : σ) : Run σ :=
  ⟨verdict, verbose, { s with events := s.events ++ verdict.events }, state⟩

def run {σ : Type} (world : World σ) (words : List String) (state : σ) (s : Session) : Run σ :=
  let surroundings (s : Session) : Surroundings := ⟨s.files, world.host.cwd, world.environment⟩
  match readPreamble (surroundings s) words with
  | .error fault => finish (.ofUsage fault) false s state
  | .ok none => finish .done false s state
  | .ok (some (preamble, name)) =>
    match (pipelineOf world.host preamble.settings).runIn s with
    | (.error fault, s) => finish (.ofFault fault) preamble.verbose s state
    | (.ok p, s) =>
      match readCommand (surroundings s) name preamble.rest with
      | .error fault => finish (.ofUsage fault) preamble.verbose s state
      | .ok command =>
        match perform p world command state s with
        | (.ok (), state, s) => finish .done preamble.verbose s state
        | (.error fault, state, s) => finish (.ofFault fault) preamble.verbose s state

end StructuredOutput.CommandLine
