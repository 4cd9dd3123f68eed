import StructuredOutput.Journal
import StructuredOutput.Workspace

/-!
What lasts while the pipeline is used: the files, the clients that have been loaded, and the record of
what was done. Work that fails keeps all it has done up to there.
-/
namespace StructuredOutput

open Files (Place)

/-- A loaded client: the workspace it comes from, and its name as a module. -/
structure Loaded where
  workspace : Workspace
  moduleName : String
  client : Client

/-- The state of a session. Clients are kept under the place of their workspace, first loaded first. -/
structure Session where
  files : FileTree
  loaded : List (Place × Loaded) := []
  events : List Event := []

abbrev Work := ExceptT Fault (StateM Session)

namespace Work

def record (events : List Event) : Work Unit :=
  modify fun s => { s with events := s.events ++ events }

def note (text : String) : Work Unit := record [.note text]

/-- Works on the files, which stay changed also when that fails. -/
def onFiles {α : Type} (change : FileTree → Except Fault α × FileTree) : Work α := do
  let (outcome, files) := change (← get).files
  modify fun s => { s with files }
  outcome

def runIn {α : Type} (work : Work α) (s : Session) : Except Fault α × Session := Id.run (work.run.run s)

end Work

end StructuredOutput
