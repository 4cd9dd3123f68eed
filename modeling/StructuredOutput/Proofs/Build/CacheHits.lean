import StructuredOutput.Proofs.Build.CacheInvariant

/-! # Where the client of a cache hit comes from

A build takes a client that is there for a hit, whatever became of the compiler that left it. So a
build that gives a client has compiled it itself, with status zero, or it finds a form of the client
that an earlier build put into the workspace. After a failed compilation the form can only have been
left by that compilation or by a build since. -/
namespace StructuredOutput

open Files (Path Place)
open Files.Tree (Adds plainPlace)

/-! ## Refusals that are no failed compilation -/

def NoCompileFault {α : Type} (outcome : Except Fault α) : Prop :=
  ∀ cause, outcome ≠ .error (.compile cause)

namespace NoCompileFault

variable {α β : Type}

theorem ok (a : α) : NoCompileFault (.ok a) := by
  intro cause h
  cases h

theorem bind {x : Except Fault α} {f : α → Except Fault β} (hx : NoCompileFault x)
    (hf : ∀ a, x = .ok a → NoCompileFault (f a)) : NoCompileFault (x >>= f) := by
  cases x with
  | error fault =>
    intro cause h
    exact hx cause (by cases h; rfl)
  | ok a => exact hf a rfl

theorem ofJson (value : Json) : NoCompileFault (Path.ofJson value) := by
  intro cause h
  unfold Path.ofJson at h
  split at h <;> cases h

theorem isFile (files : FileTree) (cwd : Place) (p : Path) :
    NoCompileFault (files.isFile cwd p) := by
  intro cause h
  unfold Files.Tree.isFile at h
  split at h
  · split at h <;> cases h
  · cases h
  · cases h

theorem artifact? (w : Workspace) (files : FileTree) (cwd : Place) :
    NoCompileFault (w.artifact? files cwd) := by
  have hfirst (forms : List (Path × Bool)) :
      NoCompileFault (Workspace.firstFile files cwd forms) := by
    induction forms with
    | nil => exact ok none
    | cons form rest ih =>
      unfold Workspace.firstFile
      refine bind (isFile files cwd form.1) fun found _ => ?_
      split
      · exact ok _
      · exact ih
  unfold Workspace.artifact? Workspace.candidates Workspace.clientDir
  refine bind (bind (bind (ofJson _) fun _ _ => ok _) fun dir _ =>
    bind (fun cause h => ?_) fun _ _ => ok _) fun forms _ => hfirst forms
  unfold Path.withSuffix at h
  split at h <;> cases h

theorem isBuilt (w : Workspace) (files : FileTree) (cwd : Place) :
    NoCompileFault (w.isBuilt files cwd) :=
  bind (artifact? w files cwd) fun _ _ => ok _

theorem importFile (h : Host) (p : Path) (files : FileTree) :
    NoCompileFault (h.importFile p files).1 := by
  intro cause he
  unfold Host.importFile at he
  dsimp only at he
  cases hout : (h.imports p files).outcome with
  | ok client =>
    rw [hout] at he
    cases he
  | error failure =>
    rw [hout] at he
    cases failure <;> cases he

theorem place (h : Host) (p : Path) : NoCompileFault (h.place p) := by
  intro cause he
  unfold Host.place at he
  split at he
  · unfold Files.Tree.resolve at he
    split at he <;> cases he
  · cases he
  · cases he

theorem runIn_lift {x : Except Fault α} {s : Session} (h : NoCompileFault x) :
    NoCompileFault ((liftM x : Work α).runIn s).1 := by
  rw [Work.runIn_lift]
  exact h

theorem runIn_bind {x : Work α} {f : α → Work β} {s : Session}
    (hx : NoCompileFault (x.runIn s).1) (hf : ∀ a s', NoCompileFault ((f a).runIn s').1) :
    NoCompileFault ((x >>= f).runIn s).1 := by
  rw [Work.runIn_bind]
  cases hrun : x.runIn s with
  | mk outcome s' =>
    rw [hrun] at hx
    cases outcome with
    | error fault =>
      intro cause h
      exact hx cause (by cases h; rfl)
    | ok a => exact hf a s'

/-- A load never fails as a compilation does. -/
theorem load (h : Host) (w : Workspace) (s : Session) :
    NoCompileFault ((Loader.load h w).runIn s).1 := by
  unfold Loader.load
  refine runIn_bind (runIn_lift (place _ _)) fun place s => runIn_bind (ok _)
    fun session s => ?_
  split
  · exact ok _
  unfold Loader.loadNew
  refine runIn_bind (ok _) fun session s =>
    runIn_bind (runIn_lift (artifact? _ _ _)) fun found s => ?_
  split
  · intro cause h
    cases h
  refine runIn_bind (ok _) fun _ s => runIn_bind ?_ fun client s => ok _
  rw [Work.runIn_onFiles]
  exact importFile h _ _

end NoCompileFault

/-! ## Forms that stand in a workspace -/

/-- Whether a content is a form of the client of a workspace that stands at a place. -/
def Workspace.FormAt (w : Workspace) (files : FileTree) (cwd q : Place) (content : Content) :
    Prop :=
  ∃ forms form, w.candidates = .ok forms ∧ form ∈ forms ∧ files.locate cwd form.1 = .ok q ∧
    files.entry? q = some (.file content)

theorem Workspace.exists_formAt {w : Workspace} {files : FileTree} {cwd : Place}
    (h : w.isBuilt files cwd = .ok true) : ∃ q content, w.FormAt files cwd q content := by
  obtain ⟨form, hform⟩ := isBuilt_true.mp h
  obtain ⟨forms, hforms, hfirst⟩ := artifact?_some hform
  obtain ⟨hmem, hfile⟩ := firstFile_some hfirst
  obtain ⟨q, content, hl, he⟩ := Files.Tree.isFile_true.mp hfile
  exact ⟨q, content, forms, form, hforms, hmem, hl, he⟩

/-- Whether a program that is started here writes below its own directory only. -/
def Host.StaysInside (h : Host) : Prop :=
  ∀ exit, h.child = .ok exit → ∀ file ∈ exit.written, file.1.Inside

namespace Call

variable {c : Call} {s : Session}

def ClientInside (c : Call) : Prop :=
  ∀ w forms, c.workspace = .ok w → w.candidates = .ok forms →
    ∀ form ∈ forms, ∃ p : Path, p.Inside ∧ form.1 = w.path.join p

/-- Whether a call ran the compiler in its workspace and it exited with status zero. -/
def Compiled (c : Call) (s : Session) : Prop :=
  ∃ w command exit, c.workspace = .ok w ∧ c.starts s = [(command, w.path.text)] ∧
    c.host.child = .ok exit ∧ exit.status = 0

/-- A call that gives a client has compiled it or finds one. -/
theorem compiled_or_built {result : Baml.Source × Loaded} (h : (c.run s).1 = .ok result) :
    c.Compiled s ∨ c.starts s = [] ∧
      ∃ w, c.workspace = .ok w ∧ w.isBuilt s.files c.host.cwd = .ok true := by
  cases c.effect s with
  | stopped _ _ herror =>
    rw [h] at herror
    cases herror
  | hit hw hhit _ hstarts => exact .inr ⟨starts_eq hstarts, _, hw, hhit⟩
  | wrote _ _ _ _ _ _ herror =>
    rw [h] at herror
    cases herror
  | ran _ hw _ _ _ hbefore hstart _ hafter hok =>
    obtain ⟨exit, rfl, hstatus⟩ := hok result h
    obtain ⟨-, -, hstarts, hchild⟩ := Compiler.start_cases hstart
    exact .inl ⟨_, _, exit, hw, starts_eq (hbefore.trans (hstarts.trans hafter)), hchild exit rfl,
      hstatus⟩

/-- A call finds a client, or it starts the compiler or is refused. -/
theorem tries_or_hits {w : Workspace} (hw : c.workspace = .ok w) :
    w.isBuilt s.files c.host.cwd ≠ .ok true ∧
        (c.starts s ≠ [] ∨ ∃ fault, (c.run s).1 = .error fault) ∨
      c.starts s = [] ∧ w.isBuilt s.files c.host.cwd = .ok true := by
  by_cases hbuilt : w.isBuilt s.files c.host.cwd = .ok true
  · refine .inr ⟨?_, hbuilt⟩
    cases c.effect s with
    | stopped _ hstarts _ => exact starts_eq hstarts
    | hit _ _ _ hstarts => exact starts_eq hstarts
    | wrote _ _ _ _ _ hstarts _ => exact starts_eq hstarts
    | ran _ hw' hmiss _ _ _ _ _ _ _ =>
      cases hw.symm.trans hw'
      rw [hbuilt] at hmiss
      cases hmiss
  · refine .inl ⟨hbuilt, ?_⟩
    cases hrun : (c.run s).1 with
    | error fault => exact .inr ⟨fault, rfl⟩
    | ok result =>
      rcases compiled_or_built hrun with ⟨_, _, _, _, hstarts, -⟩ | ⟨-, w', hw', hhit⟩
      · exact .inl (by rw [hstarts]; simp)
      · cases hw.symm.trans hw'
        exact absurd hhit hbuilt

/-- A call that fails as its compiler does has found no client. -/
theorem missed_of_compileFault {w : Workspace} {cause : CompileFault}
    (h : (c.run s).1 = .error (.compile cause)) (hw : c.workspace = .ok w) :
    w.isBuilt s.files c.host.cwd = .ok false := by
  generalize hrun : c.run s = result at h
  obtain ⟨outcome, s'⟩ := result
  dsimp only at h
  subst h
  have hends := run_cases hrun
  generalize houtcome : Except.error (Fault.compile cause) = outcome at hends
  cases hends with
  | refused hfault =>
    rw [hw] at hfault
    cases hfault
  | stopped _ hw' hworked =>
    cases hw.symm.trans hw'
    cases hworked with
    | unknown hfault =>
      cases houtcome
      exact absurd hfault (NoCompileFault.isBuilt w s.files c.host.cwd cause)
    | nowhere hmiss _ => exact hmiss
    | written hmiss _ _ _ => exact hmiss
    | started hmiss _ _ _ _ _ _ => exact hmiss
  | @loaded source w' loaded s₁ _ _ hw' hworked hload =>
    cases hw.symm.trans hw'
    cases loaded with
    | ok l => cases houtcome
    | error fault =>
      cases houtcome
      have hnot := NoCompileFault.load c.host w s₁ cause
      rw [hload] at hnot
      exact absurd rfl hnot

end Call

/-! ## Where files come from -/

/-- Whether one of some calls wrote a content as its source. -/
def SourceOf (calls : List Call) (s : Session) (q : Place) (content : Content) : Prop :=
  ∃ earlier d rest, calls = earlier ++ d :: rest ∧ d.WroteSource (after earlier s) q content

/-- Whether the compiler left a content which one of some calls started in a directory. -/
def LeftIn (calls : List Call) (s : Session) (directory : Path) (q : Place) (content : Content) :
    Prop :=
  ∃ earlier d rest w, calls = earlier ++ d :: rest ∧ w.path = directory ∧
    d.CompilerLeft (after earlier s) w q content

section

variable {cwd : Place} {root : Path} {calls : List Call} {c : Call} {s : Session}

/-- A workspace of the same key has the same directory. -/
theorem Call.CompilerLeft.directory {w : Workspace} {key : String} {parts : List String}
    {content : Content} (h : c.CompilerLeft s w (plainPlace cwd root ++ key :: parts) content)
    (hc : c.Shares cwd root) (hin : c.host.StaysInside) :
    w.path = root.join (.ofString key) ∧ ∃ file : Path, file.Inside ∧ file.parts = parts ∧
      (c.run s).2.files.locate cwd (w.path.join file) =
        .ok (plainPlace cwd root ++ key :: parts) := by
  obtain ⟨command, exit, file, hw, -, hchild, hmem, hat⟩ := h
  have hfile := hin exit hchild file hmem
  obtain ⟨source, hsource, hplace⟩ := hc.locate hw hfile hat.1
  obtain ⟨rfl, rfl⟩ := List.cons_eq_cons.mp (List.append_cancel_left hplace)
  obtain ⟨source', hsource', rfl⟩ := hc.workspace_eq hw
  cases hsource.symm.trans hsource'
  exact ⟨Workspace.under_path _ _ _, file.1, hfile, rfl, hc.cwd ▸ hat.1⟩

/-- What stands in a workspace of a cache that was empty is a source, or the compiler left it, unless it
is bytecode. -/
theorem origin {key : String} {parts : List String} {content : Content} (hs : s.Fresh cwd root)
    (hcalls : ∀ c ∈ calls, c.Shares cwd root ∧ c.host.StaysInside)
    (hfile : (after calls s).files.entry? (plainPlace cwd root ++ key :: parts) =
      some (.file content)) (hname : ¬ Host.Bytecoded (plainPlace cwd root ++ key :: parts)) :
    SourceOf calls s (plainPlace cwd root ++ key :: parts) content ∨
      LeftIn calls s (root.join (.ofString key)) (plainPlace cwd root ++ key :: parts) content := by
  have hadds := after_adds hs.closed hs.standing fun c hc => (hcalls c hc).1.cwd
  rcases hadds.contents _ _ hfile with
    hold | ⟨earlier, d, rest, rfl, hsource | ⟨w, hleft⟩ | ⟨bytecode, hat⟩⟩
  · have hnone := hs.empty (plainPlace cwd root ++ key :: parts) (List.prefix_append _ _) (by simp)
    rw [hnone] at hold
    cases hold
  · exact .inl ⟨earlier, d, rest, rfl, hsource⟩
  · obtain ⟨hd, hin⟩ := hcalls d (by simp)
    exact .inr ⟨earlier, d, rest, w, rfl, (hleft.directory hd hin).1, hleft⟩
  · exact absurd hat.bytecoded hname

/-- What the compiler left in a workspace can be found there later. -/
theorem LeftIn.isFile {key : String} {p : Path} {content : Content} (hs : s.Fresh cwd root)
    (hcalls : ∀ c ∈ calls, c.Shares cwd root ∧ c.host.StaysInside) (hp : p.Inside)
    (h : LeftIn calls s (root.join (.ofString key)) (plainPlace cwd root ++ key :: p.parts) content)
    (hfile : (after calls s).files.entry? (plainPlace cwd root ++ key :: p.parts) =
      some (.file content)) :
    (after calls s).files.isFile cwd ((root.join (.ofString key)).join p) = .ok true := by
  obtain ⟨earlier, d, rest, w, rfl, hpath, hleft⟩ := h
  obtain ⟨hd, hin⟩ := hcalls d (by simp)
  obtain ⟨-, file, hinside, hparts, hl⟩ := hleft.directory hd hin
  have hsame : file = p := hinside.ext hp hparts
  rw [hsame, hpath] at hl
  -- the calls after it keep the directories on the way
  have hearlier : ∀ c ∈ earlier, c.host.cwd = cwd := fun c hc => (hcalls c (by simp [hc])).1.cwd
  have hlater : ∀ c ∈ rest, c.host.cwd = cwd := fun c hc => (hcalls c (by simp [hc])).1.cwd
  have hbefore := after_adds hs.closed hs.standing hearlier
  have hstanding := hbefore.directories _ hs.standing
  have hrun := Call.run_adds hbefore.closed (hd.cwd ▸ hstanding)
  have hrest := after_adds hrun.closed (hrun.directories _ hstanding) hlater
  rw [after_append] at hfile ⊢
  exact Files.Tree.isFile_true.mpr
    ⟨_, content, Files.Tree.locate_keeps hrest.directories hl, hfile⟩

/-- What stands in a workspace where it was missing before some calls is a source, or the compiler
left it in one of these calls, unless it is bytecode. -/
theorem origin_since {before later : List Call} {key : String} {p : Path} {content : Content}
    (hs : s.Fresh cwd root) (hearlier : ∀ c ∈ before, c.Shares cwd root ∧ c.host.StaysInside)
    (hlater : ∀ c ∈ later, c.Shares cwd root ∧ c.host.StaysInside) (hp : p.Inside)
    (hmissing : (after before s).files.isFile cwd ((root.join (.ofString key)).join p) = .ok false)
    (hfile : (after (before ++ later) s).files.entry? (plainPlace cwd root ++ key :: p.parts) =
      some (.file content)) (hname : ¬ Host.Bytecoded (plainPlace cwd root ++ key :: p.parts)) :
    SourceOf (before ++ later) s (plainPlace cwd root ++ key :: p.parts) content ∨
      LeftIn later (after before s) (root.join (.ofString key))
        (plainPlace cwd root ++ key :: p.parts) content := by
  have hbefore := after_adds hs.closed hs.standing fun c hc => (hearlier c hc).1.cwd
  have hsince := after_adds hbefore.closed (hbefore.directories _ hs.standing) fun c hc =>
    (hlater c hc).1.cwd
  rw [after_append] at hfile
  rcases hsince.contents _ _ hfile with
    hold | ⟨earlier, d, rest, rfl, hsource | ⟨w, hleft⟩ | ⟨bytecode, hat⟩⟩
  · -- what stood there before is no file that the compiler left, as that would have been found
    rcases origin hs hearlier hold hname with ⟨earlier, d, rest, rfl, hsource⟩ | hleft
    · exact .inl ⟨earlier, d, rest ++ later, by simp, hsource⟩
    · have hthere := hleft.isFile hs hearlier hp hold
      rw [hmissing] at hthere
      cases hthere
  · refine .inl ⟨before ++ earlier, d, rest, (List.append_assoc _ _ _).symm, ?_⟩
    rw [after_append]
    exact hsource
  · obtain ⟨hd, hin⟩ := hlater d (by simp)
    exact .inr ⟨earlier, d, rest, w, rfl, (hleft.directory hd hin).1, hleft⟩
  · exact absurd hat.bytecoded hname

/-- A form of a client is never bytecode. -/
theorem Workspace.FormAt.not_bytecoded {w : Workspace} {files : FileTree} {q : Place}
    {content : Content} (h : w.FormAt files cwd q content) : ¬ Host.Bytecoded q := by
  obtain ⟨forms, form, hforms, hmem, hl, -⟩ := h
  exact Workspace.candidates_ne_bytecode hforms hmem hl

/-- The place of a form of a client that lies in its workspace. -/
theorem Workspace.FormAt.inside {w : Workspace} {files : FileTree} {q : Place} {content : Content}
    (h : w.FormAt files cwd q content) (hc : c.Shares cwd root) (hw : c.workspace = .ok w)
    (hin : c.ClientInside) :
    ∃ key p, p.Inside ∧ w.path = root.join (.ofString key) ∧
      q = plainPlace cwd root ++ key :: p.parts ∧
      ∀ files', w.isBuilt files' cwd = .ok false →
        files'.isFile cwd ((root.join (.ofString key)).join p) = .ok false := by
  obtain ⟨forms, form, hforms, hmem, hl, -⟩ := h
  obtain ⟨p, hp, hform⟩ := hin w forms hw hforms form hmem
  rw [hform, ← hc.cwd] at hl
  obtain ⟨source, hsource, hplace⟩ := hc.locate hw hp hl
  obtain ⟨source', hsource', rfl⟩ := hc.workspace_eq hw
  cases hsource.symm.trans hsource'
  refine ⟨_, p, hp, Workspace.under_path _ _ _, hplace, fun files' hmiss => ?_⟩
  rw [← Workspace.under_path root _ c.pipeline.settings.build, ← hform]
  exact Workspace.isBuilt_false hforms hmiss form hmem

/-! ## Hits -/

/-- Builds that share an empty cache give a client only if they have compiled it with status zero,
or if a form of it stands in the workspace: the source of an earlier build, or what an earlier run
of the compiler left in that workspace. A build of a workspace after one that failed there as its
compiler did tries again, unless such a form stands there; if a compiler left it, it was the one
that failed or one since. -/
theorem client_origin (hs : s.Fresh cwd root)
    (hcalls : ∀ c ∈ calls, c.Shares cwd root ∧ c.host.StaysInside) :
    (∀ (before : List Call) (c : Call) (later : List Call) (source : Baml.Source) (l : Loaded),
      calls = before ++ c :: later → c.ClientInside →
      (c.run (after before s)).1 = .ok (source, l) →
      c.Compiled (after before s) ∨ c.starts (after before s) = [] ∧
        ∃ w q content, c.workspace = .ok w ∧ w.FormAt (after before s).files cwd q content ∧
          (SourceOf before s q content ∨ LeftIn before s w.path q content)) ∧
    ∀ (before : List Call) (c : Call) (between : List Call) (d : Call) (later : List Call)
      (cause : CompileFault) (w : Workspace), calls = before ++ c :: (between ++ d :: later) →
      (c.run (after before s)).1 = .error (.compile cause) → c.workspace = .ok w →
      d.workspace = .ok w → d.ClientInside →
      w.isBuilt (after (before ++ c :: between) s).files cwd ≠ .ok true ∧
          (d.starts (after (before ++ c :: between) s) ≠ [] ∨
            ∃ fault, (d.run (after (before ++ c :: between) s)).1 = .error fault) ∨
        d.starts (after (before ++ c :: between) s) = [] ∧
          ∃ q content, w.FormAt (after (before ++ c :: between) s).files cwd q content ∧
            (SourceOf (before ++ c :: between) s q content ∨
              LeftIn (c :: between) (after before s) w.path q content) := by
  refine ⟨fun before c later source l hsplit hinside hrun => ?_,
    fun before c between d later cause w hsplit hfault hcw hdw hinside => ?_⟩
  · subst hsplit
    have hc := (hcalls c (by simp)).1
    refine (Call.compiled_or_built hrun).imp_right fun ⟨hstarts, w, hw, hbuilt⟩ => ⟨hstarts, ?_⟩
    obtain ⟨q, content, hform⟩ := Workspace.exists_formAt (hc.cwd ▸ hbuilt)
    refine ⟨w, q, content, hw, hform, ?_⟩
    have hname := hform.not_bytecoded
    obtain ⟨key, p, -, hpath, rfl, -⟩ := hform.inside hc hw hinside
    obtain ⟨-, -, -, -, -, hfile⟩ := hform
    rw [hpath]
    exact origin hs (fun d hd => hcalls d (List.mem_append_left _ hd)) hfile hname
  · subst hsplit
    have hd := (hcalls d (by simp)).1
    have hc := (hcalls c (by simp)).1
    have htries := Call.tries_or_hits (s := after (before ++ c :: between) s) hdw
    rw [hd.cwd] at htries
    refine htries.imp_right fun ⟨hstarts, hbuilt⟩ => ⟨hstarts, ?_⟩
    obtain ⟨q, content, hform⟩ := Workspace.exists_formAt hbuilt
    refine ⟨q, content, hform, ?_⟩
    have hname := hform.not_bytecoded
    obtain ⟨key, p, hp, hpath, rfl, hmissing⟩ := hform.inside hd hdw hinside
    obtain ⟨-, -, -, -, -, hfile⟩ := hform
    have hmiss := Call.missed_of_compileFault hfault hcw
    rw [hc.cwd] at hmiss
    have hearlier : ∀ e ∈ before, e.Shares cwd root ∧ e.host.StaysInside := fun e he =>
      hcalls e (by simp [he])
    have hlater : ∀ e ∈ c :: between, e.Shares cwd root ∧ e.host.StaysInside := fun e he =>
      hcalls e (List.mem_append_right before (List.mem_append_left (d :: later) he))
    rw [hpath]
    exact origin_since hs hearlier hlater hp (hmissing _ hmiss) hfile hname

end

/-- In the standard layout the client lies in its workspace. -/
theorem Call.Standard.clientInside {cwd base : Place} {root : Path} {c : Call}
    (h : c.Standard cwd root base) : c.ClientInside := by
  intro w forms hw hforms form hform
  rw [Workspace.candidates_standard (h.workspace_layout hw)] at hforms
  cases hforms
  simp only [List.mem_cons, List.not_mem_nil, or_false] at hform
  rcases hform with rfl | rfl | rfl
  · exact ⟨⟨"", ["baml_client", "__init__.py"]⟩, ⟨rfl, by decide⟩, rfl⟩
  · exact ⟨⟨"", ["baml_client", "__init__.pyc"]⟩, ⟨rfl, by decide⟩, rfl⟩
  · exact ⟨⟨"", ["baml_client.py"]⟩, ⟨rfl, by decide⟩, rfl⟩

theorem Host.KeepsSource.staysInside {h : Host} (hkeeps : h.KeepsSource) : h.StaysInside :=
  fun exit hchild file hfile => (hkeeps exit hchild file hfile).1

theorem leftover_never_compiles (s : Session) : ¬ leftover.Compiled s := by
  rintro ⟨w, command, exit, -, -, hchild, hstatus⟩
  cases hchild
  cases hstatus

/-- The client that a failed compilation left is given out, and nothing has ever compiled it. -/
theorem leftover_reused :
    emptySession.Fresh [] temporaryCache ∧ leftover.Shares [] temporaryCache ∧
      leftover.host.StaysInside ∧
      (∃ cause, (leftover.run emptySession).1 = .error (.compile cause)) ∧
      (∃ source l, (leftover.run (after [leftover] emptySession)).1 = .ok (source, l)) ∧
      leftover.starts (after [leftover] emptySession) = [] ∧ ∀ s, ¬ leftover.Compiled s := by
  obtain ⟨source, l, hrun⟩ := leftover_returns
  have hstarts := ((Call.compiled_or_built hrun).resolve_left (leftover_never_compiles _)).1
  exact ⟨emptySession_fresh, leftover_standard.toShares, leftover_standard.keepsSource.staysInside,
    leftover_fails, ⟨source, l, hrun⟩, hstarts, leftover_never_compiles⟩

theorem client_origin_leftover :
    ∃ w q content, leftover.workspace = .ok w ∧
      w.FormAt (after [leftover] emptySession).files [] q content ∧
      (SourceOf [leftover] emptySession q content ∨
        LeftIn [leftover] (after [] emptySession) w.path q content) := by
  obtain ⟨cause, hfault⟩ := leftover_fails
  obtain ⟨source, l, hrun⟩ := leftover_returns
  obtain ⟨-, w, hw, hhit⟩ :=
    (Call.compiled_or_built hrun).resolve_left (leftover_never_compiles _)
  have hcalls : ∀ c ∈ [leftover, leftover], c.Shares [] temporaryCache ∧ c.host.StaysInside := by
    intro c hc
    simp only [List.mem_cons, List.not_mem_nil, or_false, or_self] at hc
    exact hc ▸ ⟨leftover_standard.toShares, leftover_standard.keepsSource.staysInside⟩
  rcases (client_origin emptySession_fresh hcalls).2 [] leftover [] leftover [] cause w rfl hfault
    hw hw leftover_standard.clientInside with ⟨hmiss, -⟩ | ⟨-, q, content, hform, horigin⟩
  · exact absurd hhit hmiss
  · exact ⟨w, q, content, hw, hform, horigin⟩

end StructuredOutput
