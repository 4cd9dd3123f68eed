import StructuredOutput.Files.Path

/-!
Directory trees. Every place in a tree is an absolute list of names; the root directory is always
there. A path is followed part by part from a working directory: each part but the last has to lead
to a directory, and double dots lead back. A part that is too long is refused where it would be looked
for, so only behind directories that are there.

A tree can be full. Then files can still be made, but no text fits into them.
-/
namespace StructuredOutput.Files

abbrev Place := List String

inductive Entry (α : Type) where
  | directory
  | file (content : α)

/-- A directory tree with files of some content. -/
structure Tree (α : Type) where
  entries : List (Place × Entry α) := []
  full : Bool := false

namespace Tree

variable {α : Type}

def entry? (t : Tree α) (place : Place) : Option (Entry α) :=
  if place.isEmpty then some .directory
  else (t.entries.find? fun e => e.1 = place).map (·.2)

/-- Puts an entry at a place, in the stead of what is there. -/
def put (t : Tree α) (place : Place) (entry : Entry α) : Tree α :=
  { t with entries := t.entries.filter (fun e => e.1 ≠ place) ++ [(place, entry)] }

def erase (t : Tree α) (place : Place) : Tree α :=
  { t with entries := t.entries.filter fun e => !place.isPrefixOf e.1 }

def enter (t : Tree α) (place : Place) : Except Fault Unit :=
  match t.entry? place with
  | some .directory => .ok ()
  | some (.file _) => .error (.file .notDirectory)
  | none => .error (.file .notFound)

def follow (t : Tree α) (place : Place) : List String → Except Fault Place
  | [] => .ok place
  | part :: rest => do
    t.enter place
    if Path.maxPart < part.utf8ByteSize then throw (.file .nameTooLong)
    t.follow (if part = ".." then place.dropLast else place ++ [part]) rest

def locate (t : Tree α) (cwd : Place) (p : Path) : Except Fault Place := do
  p.check
  t.follow (if p.root = "" then cwd else []) p.parts

/-- What a path leads to, if it leads anywhere. -/
def lookUp (t : Tree α) (cwd : Place) (p : Path) : Option (Entry α) :=
  match t.locate cwd p with
  | .ok place => t.entry? place
  | .error _ => none

/-- Whether a path leads to a file. It leads nowhere if a part of it is missing, but a name that is too
long is refused. -/
def isFile (t : Tree α) (cwd : Place) (p : Path) : Except Fault Bool :=
  match t.locate cwd p with
  | .ok place =>
    match t.entry? place with
    | some (.file _) => .ok true
    | _ => .ok false
  | .error (.file .nameTooLong) => .error (.file .nameTooLong)
  | .error _ => .ok false

def isDirectory (t : Tree α) (cwd : Place) (p : Path) : Bool :=
  match t.lookUp cwd p with
  | some .directory => true
  | _ => false

def makeDirectory (t : Tree α) (cwd : Place) (p : Path) : Except Fault (Tree α) := do
  let place ← t.locate cwd p
  match t.entry? place with
  | some _ => throw (.file .exists_)
  | none => pure (t.put place .directory)

/-- Makes one directory unless it is there. -/
def ensureOne (t : Tree α) (cwd : Place) (p : Path) : Except Fault (Tree α) :=
  match t.makeDirectory cwd p with
  | .ok t => .ok t
  | .error fault => if t.isDirectory cwd p then .ok t else .error fault

/-- Makes the directory whose parts are given last first, with those above it as far as they are
missing. Directories made on the way stay when a later one cannot be made. -/
def ensureBack (t : Tree α) (cwd : Place) (root : String) : List String → Except Fault Unit × Tree α
  | [] =>
    match t.ensureOne cwd ⟨root, []⟩ with
    | .ok t => (.ok (), t)
    | .error fault => (.error fault, t)
  | part :: above =>
    let p : Path := ⟨root, (part :: above).reverse⟩
    match t.makeDirectory cwd p with
    | .ok t => (.ok (), t)
    | .error (.file .notFound) =>
      match t.ensureBack cwd root above with
      | (.error fault, t) => (.error fault, t)
      | (.ok (), t) =>
        match t.ensureOne cwd p with
        | .ok t => (.ok (), t)
        | .error fault => (.error fault, t)
    | .error fault => (if t.isDirectory cwd p then .ok () else .error fault, t)

/-- Makes a directory and those above it, as far as they are missing. -/
def ensure (t : Tree α) (cwd : Place) (p : Path) : Except Fault Unit × Tree α :=
  t.ensureBack cwd p.root p.parts.reverse

/-- Writes a file, whose directory has to be there. -/
def write (t : Tree α) (cwd : Place) (p : Path) (content : α) : Except Fault (Tree α) := do
  let place ← t.locate cwd p
  match t.entry? place with
  | some .directory => throw (.file .isDirectory)
  | _ => pure (t.put place (.file content))

def read (t : Tree α) (cwd : Place) (p : Path) : Except Fault α := do
  match t.entry? (← t.locate cwd p) with
  | some (.file content) => pure content
  | some .directory => throw (.file .isDirectory)
  | none => throw (.file .notFound)

def remove (t : Tree α) (cwd : Place) (p : Path) : Except Fault (Tree α) := do
  let place ← t.locate cwd p
  match t.entry? place with
  | some (.file _) => pure (t.erase place)
  | some .directory => throw (.file .isDirectory)
  | none => throw (.file .notFound)

/-- Moves a file to where a path leads, in the stead of a file there. A path that ends in double dots
or has no parts names no place for a file. -/
def replace (t : Tree α) (cwd : Place) (source : Place) (p : Path) : Except Fault (Tree α) :=
  match t.entry? source with
  | some (.file content) => do
    let place ← t.locate cwd p
    if p.name = ".." || p.parts.isEmpty then throw (.file .busy)
    match t.entry? place with
    | some .directory => throw (.file .isDirectory)
    | _ => pure ((t.erase source).put place (.file content))
  | _ => .error (.file .notFound)

/-- The place that a path leads to when nothing on the way is looked at. -/
def plainPlace (cwd : Place) (p : Path) : Place :=
  p.parts.foldl (fun place part => if part = ".." then place.dropLast else place ++ [part])
    (if p.root = "" then cwd else [])

/-- The place that the text of a path names when nothing on the way is looked at. -/
def resolve (cwd : Place) (p : Path) : Except Fault Place :=
  if p.hasNull then .error (.value .badValue) else .ok (plainPlace cwd p)

/-- The texts of everything below a place, directories with a slash behind. -/
def listing (t : Tree α) (place : Place) : List String :=
  let below := t.entries.filterMap fun e =>
    if place.isPrefixOf e.1 && e.1 ≠ place then
      let text := Json.join "/" (e.1.drop place.length)
      match e.2 with
      | .directory => some (text ++ "/")
      | .file _ => some text
    else none
  below.mergeSort

end Tree

end StructuredOutput.Files
