import StructuredOutput.Pipeline
import StructuredOutput.Proofs.Build.Bytecode

/-! # What one build does

A build either learns that its workspace is built, or writes the source and starts the compiler, and
then loads the client. Each of its ends is one case here, with the sessions that it goes through.
Only one step starts a program; the rest records what it does and leaves the files as they are. -/
namespace StructuredOutput

open Files (Path Place)

/-! ## Work -/

namespace Work

variable {α β : Type} {s : Session}

@[simp] theorem runIn_pure (a : α) : (pure a : Work α).runIn s = (.ok a, s) := rfl

@[simp] theorem runIn_throw (fault : Fault) : (throw fault : Work α).runIn s = (.error fault, s) :=
  rfl

@[simp] theorem runIn_lift (x : Except Fault α) : (liftM x : Work α).runIn s = (x, s) := by
  cases x <;> rfl

@[simp] theorem runIn_get : (get : Work Session).runIn s = (.ok s, s) := rfl

@[simp] theorem runIn_modify (change : Session → Session) :
    (modify change : Work Unit).runIn s = (.ok (), change s) := rfl

@[simp] theorem runIn_record (events : List Event) :
    (record events).runIn s = (.ok (), { s with events := s.events ++ events }) := rfl

@[simp] theorem runIn_note (text : String) :
    (note text).runIn s = (.ok (), { s with events := s.events ++ [.note text] }) := rfl

theorem runIn_bind (x : Work α) (f : α → Work β) :
    (x >>= f).runIn s =
      match x.runIn s with
      | (.ok a, s') => (f a).runIn s'
      | (.error fault, s') => (.error fault, s') := by
  cases h : x.runIn s with
  | mk outcome s' =>
    have hx : x s = (outcome, s') := h
    show (match x s with | (outcome, s') => ExceptT.bindCont f outcome s') = _
    rw [hx]
    cases outcome <;> rfl

theorem runIn_tryCatch (x : Work α) (f : Fault → Work α) :
    (tryCatch x f).runIn s =
      match x.runIn s with
      | (.ok a, s') => (.ok a, s')
      | (.error fault, s') => (f fault).runIn s' := by
  cases h : x.runIn s with
  | mk outcome s' =>
    have hx : x s = (outcome, s') := h
    simp only [runIn, ExceptT.run, StateT.run, Id.run, tryCatch, tryCatchThe,
      MonadExceptOf.tryCatch, ExceptT.tryCatch, ExceptT.mk, bind, StateT.bind, hx]
    cases outcome <;> rfl

@[simp] theorem runIn_onFiles (change : FileTree → Except Fault α × FileTree) :
    (onFiles change).runIn s = ((change s.files).1, { s with files := (change s.files).2 }) := by
  cases h : change s.files with
  | mk outcome files =>
    simp only [onFiles, runIn_bind, runIn_get, h, runIn_modify, runIn_lift]

end Work

/-! ## Quiet work -/

def Event.started? : Event → Option (List String × String)
  | .start command directory => some (command, directory)
  | _ => none

namespace Session

def Starts (s s' : Session) (commands : List (List String × String)) : Prop :=
  ∃ acts, s'.events = s.events ++ acts ∧ acts.filterMap Event.started? = commands

/-- Whether a session differs from another only in acts that start nothing. -/
structure Quiet (s s' : Session) : Prop where
  files : s'.files = s.files
  loaded : s'.loaded = s.loaded
  starts : s.Starts s' []

variable {s s' s'' : Session} {commands commands' : List (List String × String)}

theorem Starts.refl (s : Session) : s.Starts s [] := ⟨[], by simp, rfl⟩

theorem Starts.trans (h : s.Starts s' commands) (h' : s'.Starts s'' commands') :
    s.Starts s'' (commands ++ commands') := by
  obtain ⟨acts, hacts, rfl⟩ := h
  obtain ⟨acts', hacts', rfl⟩ := h'
  exact ⟨acts ++ acts', by rw [hacts', hacts, List.append_assoc], List.filterMap_append⟩

theorem Quiet.refl (s : Session) : s.Quiet s := ⟨rfl, rfl, .refl s⟩

theorem Quiet.trans (h : s.Quiet s') (h' : s'.Quiet s'') : s.Quiet s'' :=
  ⟨h'.files.trans h.files, h'.loaded.trans h.loaded, h.starts.trans h'.starts⟩

theorem quiet_record {events : List Event} (h : events.filterMap Event.started? = []) :
    s.Quiet { s with events := s.events ++ events } :=
  ⟨rfl, rfl, events, rfl, h⟩

theorem quiet_note (text : String) : s.Quiet { s with events := s.events ++ [.note text] } :=
  quiet_record rfl

end Session

/-! ## The compiler -/

def Host.leave (h : Host) (directory : Path) (files : FileTree) : FileTree :=
  match h.child with
  | .error _ => files
  | .ok exit => (Host.writeFiles h.cwd directory exit.written files).2

namespace Compiler

variable {c : Compiler} {h : Host} {w : Workspace} {s s' : Session}

theorem start_cases {command : List String} {directory : Path} {ran : Except Fault Host.Exit}
    (hrun : (start h command directory).runIn s = (ran, s')) :
    s'.files = h.leave directory s.files ∧ s'.loaded = s.loaded ∧
      s.Starts s' [(command, directory.text)] ∧ ∀ exit, ran = .ok exit → h.child = .ok exit := by
  have hstarts {files : FileTree} : s.Starts
      { s with files, events := s.events ++ [.start command directory.text] }
      [(command, directory.text)] := ⟨[.start command directory.text], rfl, rfl⟩
  unfold start at hrun
  rw [Work.runIn_bind, Work.runIn_record] at hrun
  dsimp only at hrun
  unfold Host.leave
  split at hrun
  · rename_i fault hchild
    rw [Work.runIn_throw] at hrun
    cases hrun
    rw [hchild]
    exact ⟨rfl, rfl, hstarts, fun _ he => nomatch he⟩
  · rename_i exit hchild
    rw [Work.runIn_bind, Work.runIn_tryCatch, Work.runIn_onFiles] at hrun
    dsimp only at hrun
    rw [hchild]
    cases hwritten : (Host.writeFiles h.cwd directory exit.written s.files).1 with
    | error fault =>
      rw [hwritten] at hrun
      cases hrun
      exact ⟨rfl, rfl, hstarts, fun _ he => nomatch he⟩
    | ok done =>
      rw [hwritten] at hrun
      cases hrun
      exact ⟨rfl, rfl, hstarts, fun exit he => by cases he; rfl⟩

/-- A compilation fails where it looks for the compiler, or starts it once and is quiet
otherwise. -/
theorem compile_cases {outcome : Except Fault Unit}
    (hrun : (c.compile h w).runIn s = (outcome, s')) :
    (∃ fault, outcome = .error fault ∧ s' = s) ∨
      ∃ command s₁ ran s₂, s.Quiet s₁ ∧ (start h command w.path).runIn s₁ = (ran, s₂) ∧
        s₂.Quiet s' ∧ (outcome = .ok () → ∃ exit, ran = .ok exit ∧ exit.status = 0) := by
  simp only [compile, resolve, Work.runIn_bind, Work.runIn_lift, Work.runIn_note, Work.runIn_pure,
    Work.runIn_record] at hrun
  cases hfind : find c.build h with
  | error fault =>
    rw [hfind] at hrun
    cases hrun
    exact .inl ⟨fault, rfl, rfl⟩
  | ok origin =>
    rw [hfind] at hrun
    dsimp only at hrun
    generalize hcommand : origin.command ++ _ = command at hrun
    generalize hs₁ : Session.mk _ _ _ = s₁ at hrun
    have hquiet : s.Quiet s₁ := by
      rw [← hs₁, List.append_assoc, List.append_assoc]
      exact Session.quiet_record rfl
    cases hstart : (start h command w.path).runIn s₁ with
    | mk ran s₂ =>
      rw [hstart] at hrun
      refine .inr ⟨command, s₁, ran, s₂, hquiet, hstart, ?_⟩
      cases ran with
      | error fault =>
        cases hrun
        exact ⟨.refl _, fun he => nomatch he⟩
      | ok exit =>
        dsimp only at hrun
        cases hout : h.read exit.out with
        | error fault =>
          rw [hout] at hrun
          cases hrun
          exact ⟨.refl _, fun he => nomatch he⟩
        | ok out =>
          rw [hout] at hrun
          dsimp only at hrun
          cases herr : h.read exit.err with
          | error fault =>
            rw [herr] at hrun
            cases hrun
            exact ⟨.refl _, fun he => nomatch he⟩
          | ok err =>
            rw [herr] at hrun
            dsimp only at hrun
            have hforwarded : s₂.Quiet { s₂ with events := s₂.events ++ c.forwarded out err } :=
              Session.quiet_record rfl
            split at hrun
            · cases hrun
              exact ⟨hforwarded, fun he => nomatch he⟩
            · rename_i hstatus
              cases hrun
              exact ⟨hforwarded, fun _ => ⟨exit, rfl, Decidable.not_not.mp hstatus⟩⟩

end Compiler

/-! ## The loader -/

namespace Loader

/-- The parser that is kept for a place in a list of loads: that of the first of them. -/
def first? (loads : List (Place × Loaded)) (place : Place) : Option Loaded :=
  (loads.find? fun entry => entry.1 = place).map (·.2)

def importing (p : Path) : Event := .note ("Loading generated client from " ++ p.text)

/-- What a load of a place comes to whose client is not kept: the first form that is a file is imported,
and if none is the client is missed. -/
inductive Probes (h : Host) (w : Workspace) (place : Place) (s : Session) :
    Except Fault Loaded → Session → Prop
  | imported {form : Path × Bool} {client : Client} :
      w.Reaches s.files h.cwd form → s.files.isFile h.cwd form.1 = .ok true →
      (h.imports form.1 s.files).outcome = .ok client →
      Probes h w place s (.ok ⟨w, moduleName w, client⟩) {
        files := Host.leaveBytecode h.cwd (h.imports form.1 s.files).bytecode s.files
        loaded := s.loaded ++ [(place, ⟨w, moduleName w, client⟩)]
        events := s.events ++ [importing form.1] }
  | raised {form : Path × Bool} {failure : Client.Failure} :
      w.Reaches s.files h.cwd form → s.files.isFile h.cwd form.1 = .ok true →
      (h.imports form.1 s.files).outcome = .error failure →
      Probes h w place s (.error failure.fault) { s with
        files := Host.leaveBytecode h.cwd (h.imports form.1 s.files).bytecode s.files
        events := s.events ++ [importing form.1] }
  | absent {forms : List (Path × Bool)} :
      w.candidates = .ok forms → (∀ form ∈ forms, s.files.isFile h.cwd form.1 = .ok false) →
      Probes h w place s (.error (.artifact (.noClient w.path.text))) s

variable {h : Host} {w : Workspace} {s s' : Session} {place : Place}
  {outcome : Except Fault Loaded}

theorem first?_mem {loads : List (Place × Loaded)} {l : Loaded}
    (hfirst : first? loads place = some l) : (place, l) ∈ loads := by
  obtain ⟨entry, hentry, rfl⟩ := Option.map_eq_some_iff.mp hfirst
  have hplace := List.find?_some hentry
  rw [decide_eq_true_eq] at hplace
  subst hplace
  exact List.mem_of_find?_eq_some hentry

/-- A load whose client is not kept probes for it, or is refused by a form that it reaches. -/
theorem loadNew_cases (h : Host) (w : Workspace) (s : Session) (place : Place) :
    Probes h w place s ((loadNew h w place).runIn s).1 ((loadNew h w place).runIn s).2 ∨
      ¬ w.Searchable s.files h.cwd ∧ ∃ fault, (loadNew h w place).runIn s = (.error fault, s) := by
  simp only [loadNew, Work.runIn_bind, Work.runIn_get, Work.runIn_lift, Workspace.artifact?_eq]
  cases hforms : w.candidates with
  | error fault =>
    refine .inr ⟨fun hsearch => ?_, fault, rfl⟩
    obtain ⟨forms, hok⟩ := hsearch.formed
    cases hforms.symm.trans hok
  | ok forms =>
    dsimp only
    rcases Workspace.firstFile_cases s.files h.cwd forms with
      ⟨hnone, hall⟩ | ⟨skipped, form, rest, hsplit, hskipped, ⟨hfile, hfirst⟩ | ⟨hlong, hfirst⟩⟩
    · rw [hnone]
      exact .inl (.absent hforms hall)
    · rw [hfirst]
      have hreaches : w.Reaches s.files h.cwd form := ⟨skipped, rest, hsplit ▸ hforms, hskipped⟩
      simp only [Work.runIn_bind, Work.runIn_note, Work.runIn_onFiles, Work.runIn_modify,
        Work.runIn_pure, Host.importFile]
      cases hclient : (h.imports form.1 s.files).outcome with
      | error failure => exact .inl (.raised hreaches hfile hclient)
      | ok client => exact .inl (.imported hreaches hfile hclient)
    · rw [hfirst]
      refine .inr ⟨fun hsearch => ?_, _, rfl⟩
      obtain ⟨there, hthere⟩ := hsearch.found form ⟨skipped, rest, hsplit ▸ hforms, hskipped⟩
      cases hlong.symm.trans hthere

theorem load_unresolved {fault : Fault} (hplace : h.place w.path = .error fault) :
    (load h w).runIn s = (.error fault, s) := by
  simp only [load, Work.runIn_bind, Work.runIn_lift, hplace]

theorem load_kept {l : Loaded} (hplace : h.place w.path = .ok place)
    (hkept : first? s.loaded place = some l) : (load h w).runIn s = (.ok l, s) := by
  have hl : loaded? s place = some l := hkept
  simp only [load, Work.runIn_bind, Work.runIn_lift, Work.runIn_get, hplace, hl, Work.runIn_pure]

theorem load_new (hplace : h.place w.path = .ok place) (hnew : first? s.loaded place = none) :
    (load h w).runIn s = (loadNew h w place).runIn s := by
  have hnone : loaded? s place = none := hnew
  simp only [load, Work.runIn_bind, Work.runIn_lift, Work.runIn_get, hplace, hnone]

def Imported (h : Host) (w : Workspace) (s : Session) (files : FileTree) : Prop :=
  ∃ place form, h.place w.path = .ok place ∧ first? s.loaded place = none ∧
    w.Reaches s.files h.cwd form ∧ s.files.isFile h.cwd form.1 = .ok true ∧
    files = Host.leaveBytecode h.cwd (h.imports form.1 s.files).bytecode s.files

theorem Imported.congr {files : FileTree} (himported : Imported h w s files)
    (hfiles : s.files = s'.files) (hloaded : s.loaded = s'.loaded) : Imported h w s' files := by
  unfold Imported at himported ⊢
  rw [← hfiles, ← hloaded]
  exact himported

/-- What a load may change and gives: a client that is kept, and new only where one is built. The files
stay as they are unless a client is imported. -/
structure Loads (h : Host) (w : Workspace) (s : Session) (outcome : Except Fault Loaded)
    (s' : Session) : Prop where
  files : s'.files = s.files ∨ Imported h w s s'.files
  starts : s.Starts s' []
  loaded : s'.loaded = s.loaded ∨ ∃ place l, h.place w.path = .ok place ∧
    s'.loaded = s.loaded ++ [(place, l)] ∧ w.isBuilt s.files h.cwd = .ok true
  kept : ∀ l, outcome = .ok l → ∃ place, h.place w.path = .ok place ∧ (place, l) ∈ s'.loaded

theorem loads_error (s : Session) (fault : Fault) : Loads h w s (.error fault) s :=
  ⟨.inl rfl, .refl s, .inl rfl, fun _ he => nomatch he⟩

theorem Probes.loads (hplace : h.place w.path = .ok place) (hnew : first? s.loaded place = none)
    (hprobes : Probes h w place s outcome s') : Loads h w s outcome s' := by
  cases hprobes with
  | imported hreaches hfile =>
    refine ⟨.inr ⟨place, _, hplace, hnew, hreaches, hfile, rfl⟩, ⟨[_], rfl, rfl⟩,
      .inr ⟨place, _, hplace, rfl, hreaches.isBuilt hfile⟩, fun l he => ?_⟩
    cases he
    exact ⟨place, hplace, by simp⟩
  | raised hreaches hfile =>
    exact ⟨.inr ⟨place, _, hplace, hnew, hreaches, hfile, rfl⟩, ⟨[_], rfl, rfl⟩, .inl rfl,
      fun _ he => nomatch he⟩
  | absent => exact loads_error s _

theorem load_cases (hrun : (load h w).runIn s = (outcome, s')) : Loads h w s outcome s' := by
  cases hplace : h.place w.path with
  | error fault =>
    cases (load_unresolved hplace).symm.trans hrun
    exact loads_error s fault
  | ok place =>
    cases hkept : first? s.loaded place with
    | some l =>
      cases (load_kept hplace hkept).symm.trans hrun
      refine ⟨.inl rfl, .refl s, .inl rfl, fun l' he => ?_⟩
      cases he
      exact ⟨place, hplace, first?_mem hkept⟩
    | none =>
      rw [load_new hplace hkept] at hrun
      rcases loadNew_cases h w s place with hprobes | ⟨-, fault, hrefused⟩
      · rw [hrun] at hprobes
        exact hprobes.loads hplace hkept
      · cases hrefused.symm.trans hrun
        exact loads_error s fault

end Loader

/-! ## Builds -/

/-- What the work on a workspace comes to when its client is not loaded yet. -/
inductive Worked (p : Pipeline) (h : Host) (source : Baml.Source) (w : Workspace) (s : Session) :
    Except Fault Unit → Session → Prop
  | unknown {fault : Fault} : w.isBuilt s.files h.cwd = .error fault →
      Worked p h source w s (.error fault) s
  | hit {s' : Session} : w.isBuilt s.files h.cwd = .ok true → s.Quiet s' →
      Worked p h source w s (.ok ()) s'
  | nowhere {fault : Fault} : w.isBuilt s.files h.cwd = .ok false → w.sourcePath = .error fault →
      Worked p h source w s (.error fault) s
  | written {path : Path} {fault : Fault} {wrote : Except Fault Unit} {files : FileTree}
      {s' : Session} : w.isBuilt s.files h.cwd = .ok false → w.sourcePath = .ok path →
      s.files.atomicWrite .text h.cwd path (.str source.text) = (wrote, files) →
      Session.Quiet { s with files } s' → Worked p h source w s (.error fault) s'
  | started {path : Path} {files : FileTree} {command : List String} {ran : Except Fault Host.Exit}
      {outcome : Except Fault Unit} {s₁ s₂ s' : Session} :
      w.isBuilt s.files h.cwd = .ok false → w.sourcePath = .ok path →
      s.files.atomicWrite .text h.cwd path (.str source.text) = (.ok (), files) →
      Session.Quiet { s with files } s₁ → (Compiler.start h command w.path).runIn s₁ = (ran, s₂) →
      s₂.Quiet s' → (outcome = .ok () → ∃ exit, ran = .ok exit ∧ exit.status = 0) →
      Worked p h source w s outcome s'

theorem Worked.loaded {p : Pipeline} {h : Host} {source : Baml.Source} {w : Workspace}
    {s s' : Session} {outcome : Except Fault Unit} (hworked : Worked p h source w s outcome s') :
    s'.loaded = s.loaded := by
  cases hworked with
  | unknown => rfl
  | nowhere => rfl
  | hit _ hquiet => exact hquiet.loaded
  | written _ _ _ hquiet => exact hquiet.loaded
  | started _ _ _ hbefore hstart hafter _ =>
    exact hafter.loaded.trans ((Compiler.start_cases hstart).2.1.trans hbefore.loaded)

theorem Pipeline.buildWorkspace_cases {p : Pipeline} {h : Host} {source : Baml.Source}
    {w : Workspace} {s s' : Session} {outcome : Except Fault Unit}
    (hrun : (p.buildWorkspace h source w).runIn s = (outcome, s')) :
    Worked p h source w s outcome s' := by
  simp only [buildWorkspace, Work.runIn_bind, Work.runIn_get, Work.runIn_lift] at hrun
  cases hbuilt : w.isBuilt s.files h.cwd with
  | error fault =>
    rw [hbuilt] at hrun
    cases hrun
    exact .unknown hbuilt
  | ok built =>
    rw [hbuilt] at hrun
    cases built with
    | true =>
      cases hrun
      exact .hit hbuilt (Session.quiet_note _)
    | false =>
      simp only [Bool.false_eq_true, if_false, Work.runIn_bind, Work.runIn_lift, Work.runIn_note,
        Work.runIn_onFiles, Workspace.prepare] at hrun
      cases hpath : w.sourcePath with
      | error fault =>
        rw [hpath] at hrun
        cases hrun
        exact .nowhere hbuilt hpath
      | ok path =>
        rw [hpath] at hrun
        dsimp only at hrun
        cases hwrite : s.files.atomicWrite .text h.cwd path (.str source.text) with
        | mk wrote files =>
          rw [hwrite] at hrun
          generalize hevents : s.events ++ [Event.note _] = events at hrun
          have hquiet : Session.Quiet { s with files } { s with files, events } := by
            rw [← hevents]
            exact Session.quiet_note (s := { s with files }) _
          cases wrote with
          | error fault =>
            cases hrun
            exact .written hbuilt hpath hwrite hquiet
          | ok done =>
            rcases Compiler.compile_cases hrun with
              ⟨fault, rfl, rfl⟩ | ⟨command, s₁, ran, s₂, hbefore, hstart, hafter, hok⟩
            · exact .written hbuilt hpath hwrite hquiet
            · exact .started hbuilt hpath hwrite (hquiet.trans hbefore) hstart hafter hok

structure Call where
  pipeline : Pipeline
  host : Host
  schema : Schema.Given

namespace Call

def run (c : Call) (s : Session) : Except Fault (Baml.Source × Loaded) × Session :=
  (c.pipeline.build c.host c.schema).runIn s

def source (c : Call) : Except Fault Baml.Source := c.pipeline.render c.schema

def workspace (c : Call) : Except Fault Workspace := do
  Workspace.ofSource (← c.source).text c.pipeline.settings.build c.host.temporary

inductive Ends (c : Call) (s : Session) : Except Fault (Baml.Source × Loaded) → Session → Prop
  | refused {fault : Fault} : c.workspace = .error fault → Ends c s (.error fault) s
  | stopped {source : Baml.Source} {w : Workspace} {fault : Fault} {s' : Session} :
      c.source = .ok source → c.workspace = .ok w →
      Worked c.pipeline c.host source w s (.error fault) s' → Ends c s (.error fault) s'
  | loaded {source : Baml.Source} {w : Workspace} {outcome : Except Fault Loaded}
      {s₁ s' : Session} : c.source = .ok source → c.workspace = .ok w →
      Worked c.pipeline c.host source w s (.ok ()) s₁ →
      (Loader.load c.host w).runIn s₁ = (outcome, s') →
      Ends c s (outcome.map fun l => (source, l)) s'

theorem run_cases {c : Call} {s s' : Session} {outcome : Except Fault (Baml.Source × Loaded)}
    (hrun : c.run s = (outcome, s')) : c.Ends s outcome s' := by
  simp only [run, Pipeline.build, Work.runIn_bind, Work.runIn_lift, Work.runIn_pure] at hrun
  cases hsource : c.pipeline.render c.schema with
  | error fault =>
    rw [hsource] at hrun
    cases hrun
    exact .refused (by simp [workspace, source, hsource, bind, Except.bind])
  | ok source =>
    rw [hsource] at hrun
    dsimp only at hrun
    have hworkspace : c.workspace =
        Workspace.ofSource source.text c.pipeline.settings.build c.host.temporary := by
      simp [workspace, Call.source, hsource, bind, Except.bind]
    cases hw : Workspace.ofSource source.text c.pipeline.settings.build c.host.temporary with
    | error fault =>
      rw [hw] at hrun
      cases hrun
      exact .refused (hworkspace.trans hw)
    | ok w =>
      rw [hw] at hrun
      dsimp only at hrun
      cases hbuild : (c.pipeline.buildWorkspace c.host source w).runIn s with
      | mk worked s₁ =>
        rw [hbuild] at hrun
        have hcases := Pipeline.buildWorkspace_cases hbuild
        cases worked with
        | error fault =>
          cases hrun
          exact .stopped hsource (hworkspace.trans hw) hcases
        | ok done =>
          dsimp only at hrun
          cases hload : (Loader.load c.host w).runIn s₁ with
          | mk loaded s₂ =>
            rw [hload] at hrun
            have hends := Ends.loaded hsource (hworkspace.trans hw) hcases hload
            cases loaded <;> cases hrun <;> exact hends

end Call

end StructuredOutput
