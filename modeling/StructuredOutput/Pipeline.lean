import StructuredOutput.Baml.Source
import StructuredOutput.Compiler
import StructuredOutput.Generation
import StructuredOutput.Hint
import StructuredOutput.Loader
import StructuredOutput.Schema.Given

/-!
The pipeline: a schema is translated to a source, the source is looked up in the build cache and
compiled when it is not there, the client is loaded, and text that a generator gives for the hint is
parsed with the client.
-/
namespace StructuredOutput

open Schema (Given)

structure Pipeline where
  settings : Settings
  compiler : Compiler

namespace Pipeline

def ofSettings (settings : Settings) : Except Fault Pipeline := do
  pure ⟨settings, ← Compiler.ofSettings settings.build⟩

def render (p : Pipeline) (schema : Given) : Except Fault Baml.Source := do
  let (node, graph) ← schema.read 0
  Baml.Source.ofNode p.settings.translator graph node

def hint (schema : Given) : Except Fault String := do
  let (node, graph) ← schema.read 0
  Hint.ofNode graph node

/-- Builds the workspace of a source, unless some form of its client is there. -/
def buildWorkspace (p : Pipeline) (h : Host) (source : Baml.Source) (w : Workspace) : Work Unit := do
  if ← w.isBuilt (← get).files h.cwd then Work.note ("Cache hit for " ++ w.key)
  else
    let path ← w.sourcePath
    Work.note ("Cache miss for " ++ w.key ++ ", writing " ++ path.text)
    Work.onFiles fun files => w.prepare files h.cwd (.str source.text)
    p.compiler.compile h w

def build (p : Pipeline) (h : Host) (schema : Given) : Work (Baml.Source × Loaded) := do
  let source ← p.render schema
  let w ← Workspace.ofSource source.text p.settings.build h.temporary
  p.buildWorkspace h source w
  pure (source, ← Loader.load h w)

def expectedArguments : List String :=
  ["prompt", "messages", "max_tokens", "temperature", "top_p"]

/-- What a request for an object needs first: the source, its client, and the hint. -/
def ready (p : Pipeline) (h : Host) (schema : Given) (arguments : List (String × Json)) :
    Work (Baml.Source × Loaded × String) := do
  let argument ← Json.takeArguments expectedArguments arguments
  if schema.isMissing then throw (.request .noSchema)
  if (argument "prompt").isNull && (argument "messages").isNull then throw (.request .noPrompt)
  let (node, graph) ← schema.read 0
  let (source, client) ← p.build h (.node node graph)
  pure (source, client, ← Hint.ofNode graph node)

/-- Generates an object for a schema; the generator's state afterwards comes with it. -/
def generate {σ : Type} (p : Pipeline) (h : Host) (schema : Given)
    (generator : Generation.Generator σ) (model : Json) (arguments : List (String × Json))
    (state : σ) (s : Session) : Except Fault Generation.Output × σ × Session :=
  match (p.ready h schema arguments).runIn s with
  | (.error fault, s) => (.error fault, state, s)
  | (.ok (source, client, hint), s) =>
    let ended := Generation.run p.settings.retry generator client.parse source.functionName {} model
      (.str hint) arguments state
    (ended.outcome, ended.next, { s with events := s.events ++ ended.events })

end Pipeline

end StructuredOutput
