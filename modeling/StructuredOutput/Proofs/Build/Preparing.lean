import StructuredOutput.Proofs.Build.CacheInvariant
import StructuredOutput.Proofs.Files.AllOrNothing

/-! # Preparing a workspace

Preparing writes the source or leaves all files as they are; in both cases directories are made only
above the path of the source. Doing it once more changes nothing. -/
namespace StructuredOutput.Workspace

open Files (Path Place)
open Files.Tree (Above)

/-- What it is for preparing a workspace to be all or nothing. -/
structure AllOrNothing (w : Workspace) (files : FileTree) (cwd : Place) (text : String)
    (outcome : Except Fault Unit) (files' : FileTree) : Prop where
  returned : outcome = .ok () → ∃ path place, w.sourcePath = .ok path ∧
    files'.locate cwd path = .ok place ∧ files'.entry? place = some (.file (.text text)) ∧
    ∀ q, q ≠ place → ∀ content,
      files'.entry? q = some (.file content) ↔ files.entry? q = some (.file content)
  raised : ∀ fault, outcome = .error fault → ∀ q content,
    files'.entry? q = some (.file content) ↔ files.entry? q = some (.file content)
  kept : ∀ q, files.entry? q = some .directory → files'.entry? q = some .directory
  made : ∀ q, files'.entry? q = some .directory → files.entry? q = some .directory ∨
    files.entry? q = none ∧ ∃ path, w.sourcePath = .ok path ∧ Above cwd path.parent q
  again : ∃ outcome', w.prepare files' cwd (.str text) = (outcome', files') ∧
    (outcome' = .ok () ↔ outcome = .ok ())

variable {w : Workspace} {files : FileTree} {cwd : Place}

/-- Preparing any workspace with any text in any files. -/
theorem prepare_all_or_nothing (w : Workspace) (text : String) (h : files.Closed)
    (hc : files.entry? cwd = some .directory) :
    w.AllOrNothing files cwd text (w.prepare files cwd (.str text)).1
      (w.prepare files cwd (.str text)).2 := by
  cases hpath : w.sourcePath with
  | error fault =>
    have hprepare (files : FileTree) :
        w.prepare files cwd (.str text) = (.error fault, files) := by rw [prepare, hpath]
    rw [hprepare]
    exact {
      returned := by
        intro he
        cases he
      raised := fun _ _ _ _ => Iff.rfl
      kept := fun _ hd => hd
      made := fun _ hd => .inl hd
      again := ⟨_, hprepare files, Iff.rfl⟩ }
  | ok path =>
    have hprepare (files : FileTree) : w.prepare files cwd (.str text) =
        files.atomicWrite .text cwd path (.str text) := by rw [prepare, hpath]
    rw [hprepare]
    generalize hw : files.atomicWrite .text cwd path (.str text) = result
    obtain ⟨outcome, files'⟩ := result
    have hwrote := Files.Tree.atomicWrite_wrote h hc hw
    obtain ⟨outcome', hagain, hsame⟩ := Files.Tree.atomicWrite_again h hc hw
    exact {
      returned := by
        rintro rfl
        obtain ⟨hlocate, hfile, hothers⟩ := hwrote.returned
        exact ⟨path, _, hpath, hlocate, hfile, fun q hq _ => (hothers q hq).file_iff⟩
      raised := by
        rintro fault rfl q content
        exact (hwrote.raised q).file_iff
      kept := (Files.Tree.atomicWrite_adds h hc hw).1.directories
      made := by
        intro q hd
        rcases hwrote.made hd with hthere | ⟨hn, habove⟩
        · exact .inl hthere
        · exact .inr ⟨hn, path, hpath, habove⟩
      again := ⟨outcome', (hprepare files').trans hagain, hsame⟩ }

def sampleWorkspace : Workspace := .under ⟨"/", ["tmp"]⟩ "k" {}

def occupied : FileTree :=
  (emptySession.files.ensure [] ⟨"/", ["tmp", "k", "baml_src", "schema.baml"]⟩).2

theorem occupied_closed : occupied.Closed ∧ occupied.entry? [] = some .directory := by
  have hadds : Files.Tree.Adds (fun _ _ => False) emptySession.files occupied :=
    Files.Tree.ensure_adds emptySession_fresh.closed emptySession_fresh.standing rfl
  exact ⟨hadds.closed, rfl⟩

theorem prepare_all_or_nothing_sample :
    (sampleWorkspace.prepare emptySession.files [] (.str "class A {}")).1 = .ok () ∧
    sampleWorkspace.AllOrNothing emptySession.files [] "class A {}"
      (sampleWorkspace.prepare emptySession.files [] (.str "class A {}")).1
      (sampleWorkspace.prepare emptySession.files [] (.str "class A {}")).2 ∧
    (sampleWorkspace.prepare occupied [] (.str "class A {}")).1 = .error (.file .isDirectory) ∧
    sampleWorkspace.AllOrNothing occupied [] "class A {}"
      (sampleWorkspace.prepare occupied [] (.str "class A {}")).1
      (sampleWorkspace.prepare occupied [] (.str "class A {}")).2 :=
  ⟨rfl, prepare_all_or_nothing _ _ emptySession_fresh.closed emptySession_fresh.standing,
    rfl, prepare_all_or_nothing _ _ occupied_closed.1 occupied_closed.2⟩

end StructuredOutput.Workspace
