import StructuredOutput.Client
import StructuredOutput.Digest.Sha256
import StructuredOutput.Files.Atomic
import StructuredOutput.Settings

/-!
Workspaces of the build cache. A workspace is a directory named by the digest of its source, so the
same source always finds the same workspace; it holds the source and, once built, the client.
-/
namespace StructuredOutput

open Files (Path Place)

/-- A workspace: its key, its directory, and the settings that lay it out. -/
structure Workspace where
  key : String
  path : Path
  build : Settings.Build

namespace Settings.Build

/-- The name of the cache below the directory for temporary files. -/
def cacheName : String := "baml-runtime-cache"

/-- The directory of the cache: as set, or below the directory for temporary files. -/
def cachePath (s : Build) (temporary : Path) : Except Fault Path :=
  if s.cacheRoot.truthy then Path.ofJson s.cacheRoot else .ok (temporary.push cacheName)

end Settings.Build

namespace Workspace

def under (root : Path) (key : String) (build : Settings.Build) : Workspace :=
  ⟨key, root.join (.ofString key), build⟩

def ofSource (source : String) (build : Settings.Build) (temporary : Path) :
    Except Fault Workspace := do
  let root ← build.cachePath temporary
  pure (under root (Digest.sha256 source) build)

def sourceDir (w : Workspace) : Except Fault Path := do
  pure (w.path.join (← Path.ofJson w.build.sourceDir))

def sourcePath (w : Workspace) : Except Fault Path := do
  pure ((← w.sourceDir).join (← Path.ofJson w.build.sourceFile))

def clientDir (w : Workspace) : Except Fault Path := do
  pure (w.path.join (← Path.ofJson w.build.clientDir))

/-- The forms of a client in the order in which they are looked for, and whether each is a package. -/
def candidates (w : Workspace) : Except Fault (List (Path × Bool)) := do
  let dir ← w.clientDir
  let module ← dir.withSuffix ".py"
  pure [(dir.push "__init__.py", true), (dir.push "__init__.pyc", true), (module, false)]

/-- The first of some forms of a client that is a file. -/
def firstFile (files : FileTree) (cwd : Place) :
    List (Path × Bool) → Except Fault (Option (Path × Bool))
  | [] => .ok none
  | form :: rest => do
    if ← files.isFile cwd form.1 then pure (some form) else firstFile files cwd rest

def artifact? (w : Workspace) (files : FileTree) (cwd : Place) :
    Except Fault (Option (Path × Bool)) := do
  firstFile files cwd (← w.candidates)

def isBuilt (w : Workspace) (files : FileTree) (cwd : Place) : Except Fault Bool := do
  pure (← w.artifact? files cwd).isSome

def prepare (w : Workspace) (files : FileTree) (cwd : Place) (source : Json) :
    Except Fault Unit × FileTree :=
  match w.sourcePath with
  | .error fault => (.error fault, files)
  | .ok path => files.atomicWrite .text cwd path source

def shown (w : Workspace) : String := "Workspace(" ++ Json.literalString w.path.text ++ ")"

end Workspace

end StructuredOutput
