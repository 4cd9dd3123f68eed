import StructuredOutput.Proofs.Build.Steps
import StructuredOutput.Proofs.Build.Workspaces

/-! # What a build leaves

Seen from the files, a build leaves them as they are, or writes its source, or writes its source and
starts the compiler there; and where it imports a client, bytecode is left. In each case the tree grows:
what is new is the text of the source at the path of the source, a file that the compiler left, or
bytecode. So what a run of builds leaves can be traced to the build that left it. -/
namespace StructuredOutput

open Files (Path Place)
open Files.Tree (Adds plainPlace)

/-- A program that is started adds at most its files. -/
theorem Compiler.start_adds {h : Host} {command : List String} {directory : Path} {s s' : Session}
    {ran : Except Fault Host.Exit} (hclosed : s.files.Closed)
    (hcwd : s.files.entry? h.cwd = some .directory)
    (hrun : (start h command directory).runIn s = (ran, s')) :
    Adds (fun q content => ∃ exit, h.child = .ok exit ∧ ∃ file ∈ exit.written,
      s'.files.At h.cwd (directory.join file.1) file.2 q content) s.files s'.files := by
  rw [(start_cases hrun).1]
  unfold Host.leave
  split
  · exact .refl hclosed
  · rename_i exit hchild
    refine (Host.writeFiles_adds hclosed hcwd rfl).mono fun q content hq => ?_
    exact ⟨exit, hchild, hq⟩

/-- The work on a workspace leaves the files standing in directories. -/
theorem Worked.standing {p : Pipeline} {h : Host} {source : Baml.Source} {w : Workspace}
    {s s' : Session} {outcome : Except Fault Unit} (hworked : Worked p h source w s outcome s')
    (hclosed : s.files.Closed) (hcwd : s.files.entry? h.cwd = some .directory) :
    s'.files.Closed ∧ s'.files.entry? h.cwd = some .directory := by
  cases hworked with
  | unknown => exact ⟨hclosed, hcwd⟩
  | nowhere => exact ⟨hclosed, hcwd⟩
  | hit _ hquiet =>
    rw [hquiet.files]
    exact ⟨hclosed, hcwd⟩
  | written _ _ hwrite hquiet =>
    rw [hquiet.files]
    have hwritten := (Files.Tree.atomicWrite_adds hclosed hcwd hwrite).1
    exact ⟨hwritten.closed, hwritten.directories _ hcwd⟩
  | started _ _ hwrite hbefore hstart hafter _ =>
    have hwritten := (Files.Tree.atomicWrite_adds hclosed hcwd hwrite).1
    have hfiles := hbefore.files
    have hleft := Compiler.start_adds (hfiles ▸ hwritten.closed)
      (hfiles ▸ hwritten.directories _ hcwd) hstart
    rw [hafter.files]
    exact ⟨hleft.closed, hleft.directories _ (hfiles ▸ hwritten.directories _ hcwd)⟩

namespace Call

def starts (c : Call) (s : Session) : List (List String × String) :=
  ((c.run s).2.events.drop s.events.length).filterMap Event.started?

variable {c : Call} {s s' : Session}

theorem starts_eq {commands : List (List String × String)} (h : s.Starts (c.run s).2 commands) :
    c.starts s = commands := by
  obtain ⟨acts, hacts, rfl⟩ := h
  rw [starts, hacts, List.drop_left]

/-! ## The files -/

/-- Whether the client of a workspace has been loaded among these files, as far as the files tell. -/
def Settles (c : Call) (w : Workspace) (s s' : Session) : Prop :=
  s'.files = s.files ∨ Loader.Imported c.host w s s'.files

/-- What a call comes to as the files and the started programs show it. -/
inductive Effect (c : Call) (s : Session) (outcome : Except Fault (Baml.Source × Loaded))
    (s' : Session) : Prop
  | stopped {fault : Fault} : s'.files = s.files → s.Starts s' [] → outcome = .error fault →
      Effect c s outcome s'
  | hit {w : Workspace} : c.workspace = .ok w → w.isBuilt s.files c.host.cwd = .ok true →
      c.Settles w s s' → s.Starts s' [] → Effect c s outcome s'
  | wrote {source : Baml.Source} {w : Workspace} {path : Path} {fault : Fault}
      {written : Except Fault Unit} : c.source = .ok source → c.workspace = .ok w →
      w.isBuilt s.files c.host.cwd = .ok false → w.sourcePath = .ok path →
      s.files.atomicWrite .text c.host.cwd path (.str source.text) = (written, s'.files) →
      s.Starts s' [] → outcome = .error fault → Effect c s outcome s'
  | ran {source : Baml.Source} {w : Workspace} {path : Path} {command : List String}
      {ran : Except Fault Host.Exit} {s₁ s₂ : Session} :
      c.source = .ok source → c.workspace = .ok w →
      w.isBuilt s.files c.host.cwd = .ok false → w.sourcePath = .ok path →
      s.files.atomicWrite .text c.host.cwd path (.str source.text) = (.ok (), s₁.files) →
      s.Starts s₁ [] → (Compiler.start c.host command w.path).runIn s₁ = (ran, s₂) →
      c.Settles w s₂ s' → s₂.Starts s' [] →
      (∀ result, outcome = .ok result → ∃ exit, ran = .ok exit ∧ exit.status = 0) →
      Effect c s outcome s'

theorem Ends.effect {outcome : Except Fault (Baml.Source × Loaded)} (h : c.Ends s outcome s') :
    c.Effect s outcome s' := by
  cases h with
  | refused => exact .stopped rfl (.refl s) rfl
  | stopped hsource hw hworked =>
    cases hworked with
    | unknown => exact .stopped rfl (.refl s) rfl
    | nowhere => exact .stopped rfl (.refl s) rfl
    | @written path fault wrote files s' hbuilt hpath hwrite hquiet =>
      have hfiles : s'.files = files := hquiet.files
      exact .wrote hsource hw hbuilt hpath (hfiles ▸ hwrite) hquiet.starts rfl
    | started hbuilt hpath hwrite hbefore hstart hafter _ =>
      refine .ran hsource hw hbuilt hpath ?_ hbefore.starts hstart (.inl hafter.files) hafter.starts
        fun _ he => nomatch he
      rw [hbefore.files]
      exact hwrite
  | @loaded source w outcome s₁ s' hsource hw hworked hload =>
    have hloads := Loader.load_cases hload
    have hsettles {s : Session} (hquiet : s.Quiet s₁) : c.Settles w s s' :=
      hloads.files.imp (fun he => he.trans hquiet.files) fun himported =>
        himported.congr hquiet.files hquiet.loaded
    cases hworked with
    | hit hbuilt hquiet => exact .hit hw hbuilt (hsettles hquiet) (hquiet.starts.trans hloads.starts)
    | started hbuilt hpath hwrite hbefore hstart hafter hok =>
      refine .ran hsource hw hbuilt hpath ?_ hbefore.starts hstart (hsettles hafter)
        (hafter.starts.trans hloads.starts) fun _ _ => hok rfl
      rw [hbefore.files]
      exact hwrite

theorem effect (c : Call) (s : Session) : c.Effect s (c.run s).1 (c.run s).2 :=
  (run_cases rfl).effect

/-- Whether a content is the source of a call, at the place of its path. -/
def WroteSource (c : Call) (s : Session) (q : Place) (content : Content) : Prop :=
  ∃ source w path, c.source = .ok source ∧ c.workspace = .ok w ∧ w.sourcePath = .ok path ∧
    (c.run s).2.files.At c.host.cwd path (.text source.text) q content

/-- Whether a content is one that the compiler left which a call started in its workspace. -/
def CompilerLeft (c : Call) (s : Session) (w : Workspace) (q : Place) (content : Content) : Prop :=
  ∃ command exit file, c.workspace = .ok w ∧ c.starts s = [(command, w.path.text)] ∧
    c.host.child = .ok exit ∧ file ∈ exit.written ∧
    (c.run s).2.files.At c.host.cwd (w.path.join file.1) file.2 q content

def LeftBytecode (c : Call) (s : Session) (q : Place) (content : Content) : Prop :=
  ∃ bytecode, Host.BytecodeAt (c.run s).2.files c.host.cwd bytecode q content

theorem Settles.adds {w : Workspace} (h : c.Settles w s (c.run s').2) (hclosed : s.files.Closed)
    (hcwd : s.files.entry? c.host.cwd = some .directory) :
    Adds (c.LeftBytecode s') s.files (c.run s').2.files := by
  rcases h with hsame | ⟨place, form, -, -, -, -, hleft⟩
  · rw [hsame]
    exact .refl hclosed
  · have hadds := Host.leaveBytecode_adds (c.host.imports form.1 s.files).bytecode hclosed hcwd
    rw [← hleft] at hadds
    exact hadds.mono fun q content hat => ⟨_, hat⟩

/-- Whether a call left a content: as its source, through its compiler, or as bytecode. -/
def Left (c : Call) (s : Session) (q : Place) (content : Content) : Prop :=
  c.WroteSource s q content ∨ (∃ w, c.CompilerLeft s w q content) ∨ c.LeftBytecode s q content

/-- A call leaves what was there, and adds its source, what the compiler left, and bytecode. -/
theorem run_adds (h : s.files.Closed) (hcwd : s.files.entry? c.host.cwd = some .directory) :
    Adds (c.Left s) s.files (c.run s).2.files := by
  cases c.effect s with
  | stopped hfiles _ _ =>
    rw [hfiles]
    exact .refl h
  | hit _ _ hsettles _ => exact (hsettles.adds h hcwd).mono fun q content hq => .inr (.inr hq)
  | wrote hsource hw _ hpath hwrite _ _ =>
    exact (Files.Tree.atomicWrite_adds h hcwd hwrite).1.mono fun q content hat =>
      .inl ⟨_, _, _, hsource, hw, hpath, hat⟩
  | @ran source w path command ran s₁ s₂ hsource hw _ hpath hwrite hbefore hstart hsettles hafter _ =>
    obtain ⟨-, -, hstarts, -⟩ := Compiler.start_cases hstart
    have hwritten := (Files.Tree.atomicWrite_adds h hcwd hwrite).1
    have hcommands : c.starts s = [(command, w.path.text)] :=
      starts_eq (hbefore.trans (hstarts.trans hafter))
    -- the compiler works on the files that hold the source, and the import on those it leaves
    have hleft := Compiler.start_adds hwritten.closed (hwritten.directories _ hcwd) hstart
    have hcwd₂ := hleft.directories _ (hwritten.directories _ hcwd)
    have himport := hsettles.adds hleft.closed hcwd₂
    refine Adds.trans (hwritten.mono fun q content hat => .inl ?_)
      (Adds.trans (hleft.mono fun q content hq => .inr (.inl ⟨w, ?_⟩))
        (himport.mono fun q content hq => .inr (.inr hq)))
    · exact ⟨source, w, path, hsource, hw, hpath,
        hat.keeps fun q hd => himport.directories q (hleft.directories q hd)⟩
    · obtain ⟨exit, hchild, file, hmem, hat⟩ := hq
      exact ⟨command, exit, file, hw, hcommands, hchild, hmem, hat.keeps himport.directories⟩

/-! ## The loaded clients -/

/-- A call keeps at most one more client, and that of a workspace that is built then. -/
theorem run_loaded (h : s.files.Closed) (hcwd : s.files.entry? c.host.cwd = some .directory) :
    (c.run s).2.loaded = s.loaded ∨ ∃ w place l files, c.workspace = .ok w ∧
      c.host.place w.path = .ok place ∧ (c.run s).2.loaded = s.loaded ++ [(place, l)] ∧
      w.isBuilt files c.host.cwd = .ok true ∧
      Adds (c.LeftBytecode s) files (c.run s).2.files := by
  generalize hrun : c.run s = result
  obtain ⟨outcome, s'⟩ := result
  cases run_cases hrun with
  | refused => exact .inl rfl
  | stopped _ _ hworked => exact .inl hworked.loaded
  | @loaded source w outcome s₁ s' _ hw hworked hload =>
    have hloads := Loader.load_cases hload
    dsimp only
    rw [← hworked.loaded]
    rcases hloads.loaded with hsame | ⟨place, l, hplace, hnew, hbuilt⟩
    · exact .inl hsame
    · obtain ⟨hclosed, hstanding⟩ := hworked.standing h hcwd
      have hafter : (c.run s).2 = s' := by rw [hrun]
      have hsettles : c.Settles w s₁ (c.run s).2 := by
        rw [hafter]
        exact hloads.files
      refine .inr ⟨w, place, l, s₁.files, hw, hplace, hnew, hbuilt, ?_⟩
      rw [← hafter]
      exact hsettles.adds hclosed hstanding

/-- A call that gives a client keeps it. -/
theorem run_kept {source : Baml.Source} {l : Loaded} (h : (c.run s).1 = .ok (source, l)) :
    c.source = .ok source ∧ ∃ w place, c.workspace = .ok w ∧
      c.host.place w.path = .ok place ∧ (place, l) ∈ (c.run s).2.loaded := by
  generalize hrun : c.run s = result at h ⊢
  obtain ⟨outcome, s'⟩ := result
  dsimp only at h ⊢
  cases run_cases hrun with
  | refused => cases h
  | stopped => cases h
  | @loaded built w outcome s₁ s' hsource hw _ hload =>
    cases outcome with
    | error fault => cases h
    | ok _ =>
      cases h
      obtain ⟨place, hplace, hkept⟩ := (Loader.load_cases hload).kept l rfl
      exact ⟨hsource, w, place, hw, hplace, hkept⟩

end Call

/-! ## Runs of builds -/

def after (calls : List Call) (s : Session) : Session := calls.foldl (fun s c => (c.run s).2) s

theorem after_append (calls later : List Call) (s : Session) :
    after (calls ++ later) s = after later (after calls s) := List.foldl_append

/-- What calls leave can be traced to one of them. -/
theorem after_adds {cwd : Place} {calls : List Call} {s : Session} (h : s.files.Closed)
    (hcwd : s.files.entry? cwd = some .directory) (hcalls : ∀ c ∈ calls, c.host.cwd = cwd) :
    Adds (fun q content => ∃ before c later, calls = before ++ c :: later ∧
        c.Left (after before s) q content)
      s.files (after calls s).files := by
  induction calls generalizing s with
  | nil => exact .refl h
  | cons c rest ih =>
    obtain ⟨hc, hrest⟩ := List.forall_mem_cons.mp hcalls
    have hfirst := Call.run_adds (c := c) h (hc ▸ hcwd)
    have hlater := ih hfirst.closed (hfirst.directories _ hcwd) hrest
    refine (hfirst.mono fun q content hq => ?_).trans (hlater.mono fun q content hq => ?_)
    · exact ⟨[], c, rest, rfl, hq⟩
    · obtain ⟨before, d, later, rfl, hd⟩ := hq
      exact ⟨c :: before, d, later, rfl, hd⟩

/-! ## Builds that share a cache -/

/-- A session that has loaded nothing and whose cache is empty. -/
structure Session.Fresh (cwd : Place) (root : Path) (s : Session) : Prop where
  closed : s.files.Closed
  standing : s.files.entry? cwd = some .directory
  empty : ∀ q, plainPlace cwd root <+: q → q ≠ plainPlace cwd root → s.files.entry? q = none
  unloaded : s.loaded = []

namespace Call

variable {cwd : Place} {root : Path} {c : Call} {source : Baml.Source} {w : Workspace}

structure Shares (cwd : Place) (root : Path) (c : Call) : Prop where
  cwd : c.host.cwd = cwd
  root : c.pipeline.settings.build.cachePath c.host.temporary = .ok root

theorem Shares.workspace (h : c.Shares cwd root) (hsource : c.source = .ok source) :
    c.workspace = .ok (.under root (Digest.sha256 source.text) c.pipeline.settings.build) := by
  simp [Call.workspace, hsource, Workspace.ofSource, h.root, bind, Except.bind, pure, Except.pure]

/-- The workspace of a call is the one that the digest of its source names. -/
theorem Shares.workspace_eq (h : c.Shares cwd root) (hw : c.workspace = .ok w) :
    ∃ source, c.source = .ok source ∧
      w = .under root (Digest.sha256 source.text) c.pipeline.settings.build := by
  cases hsource : c.source with
  | error fault => simp [Call.workspace, hsource, bind, Except.bind] at hw
  | ok source =>
    rw [h.workspace hsource] at hw
    cases hw
    exact ⟨source, rfl, rfl⟩

/-- The place of a path in the workspace of a call, if it can be followed. -/
theorem Shares.locate {p : Path} {files : FileTree} {q : Place} (h : c.Shares cwd root)
    (hw : c.workspace = .ok w) (hp : p.Inside)
    (hl : files.locate c.host.cwd (w.path.join p) = .ok q) :
    ∃ source, c.source = .ok source ∧
      q = plainPlace cwd root ++ Digest.sha256 source.text :: p.parts := by
  obtain ⟨source, hsource, rfl⟩ := h.workspace_eq hw
  refine ⟨source, hsource, ?_⟩
  rw [(Files.Tree.locate_ok hl).1, Files.Tree.plainPlace_join _ hp, Workspace.plainPlace_under,
    h.cwd]
  simp

end Call

end StructuredOutput
