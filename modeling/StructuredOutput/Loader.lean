import StructuredOutput.Host
import StructuredOutput.Session

/-!
Loading generated clients. A client is loaded once: it is kept under the place of its workspace, and
a later load of the same place gives the client that was loaded first, whatever the files are by then.
A load that fails keeps nothing.
-/
namespace StructuredOutput

open Files (Path Place)

namespace Loaded

def call (l : Loaded) (function text : Json) : Except Fault Json := do
  match ← l.client.function? function with
  | some (name, member) => Client.call name text member
  | none => throw (.artifact (.noFunction l.workspace.path.text function))

def parse (l : Loaded) (function : String) (text : Json) : Except Fault Json :=
  l.call (.str function) text

end Loaded

namespace Loader

def moduleName (w : Workspace) : String := "_schema_to_baml_client_" ++ String.ofList (w.key.toList.take 16)

def loadNew (h : Host) (w : Workspace) (place : Place) : Work Loaded := do
  match ← w.artifact? (← get).files h.cwd with
  | none => throw (.artifact (.noClient w.path.text))
  | some (path, _) =>
    Work.note ("Loading generated client from " ++ path.text)
    let client ← Work.onFiles (h.importFile path)
    let l : Loaded := ⟨w, moduleName w, client⟩
    modify fun s => { s with loaded := s.loaded ++ [(place, l)] }
    pure l

def loaded? (s : Session) (place : Place) : Option Loaded :=
  (s.loaded.find? fun entry => entry.1 = place).map (·.2)

def load (h : Host) (w : Workspace) : Work Loaded := do
  let place ← h.place w.path
  match loaded? (← get) place with
  | some l => pure l
  | none => loadNew h w place

end Loader

end StructuredOutput
