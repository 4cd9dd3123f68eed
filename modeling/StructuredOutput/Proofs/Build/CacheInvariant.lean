import StructuredOutput.Proofs.Build.Effects

/-! # The content-addressed cache

Builds that share a cache share its root and lay their workspaces out by default, and their compiler
writes in its own workspace without touching the source there. What such builds leave in an empty
cache is then known by the names of the workspaces: a source stands in the workspace that its digest
names, and a client is kept only for a workspace that is built. As files never go away, a source
whose client was once given is never compiled again. -/
namespace StructuredOutput

open Files (Path Place)
open Files.Tree (Adds plainPlace)

/-- Whether a program that is started here writes in its own directory and not to the source. -/
def Host.KeepsSource (h : Host) : Prop :=
  ∀ exit, h.child = .ok exit → ∀ file ∈ exit.written,
    file.1.Inside ∧ file.1.parts ≠ ["baml_src", "schema.baml"]

/-- Whether a call builds in a cache with the standard layout and a compiler that keeps to it. Links may
lead to the cache, but not from one of its workspaces to another. -/
structure Call.Standard (cwd : Place) (cache : Path) (base : Place) (c : Call) : Prop
    extends c.Shares cwd cache where
  layout : c.pipeline.settings.build.Standard
  keepsSource : c.host.KeepsSource
  apart : ∀ text place, c.host.place (cache.join (.ofString (Digest.sha256 text))) = .ok place →
    place = base ++ [Digest.sha256 text]

variable {cwd base : Place} {root : Path} {calls : List Call} {c : Call} {s : Session}

/-! ## Sources -/

def Addressed (cwd : Place) (root : Path) (files : FileTree) : Prop :=
  ∀ key content,
    files.entry? (plainPlace cwd root ++ [key, "baml_src", "schema.baml"]) = some (.file content) →
      ∃ text, content = .text text ∧ Digest.sha256 text = key

theorem Call.Standard.workspace_layout {w : Workspace} (h : c.Standard cwd root base)
    (hw : c.workspace = .ok w) : w.build.Standard := by
  obtain ⟨source, -, rfl⟩ := h.workspace_eq hw
  exact h.layout

theorem sourceParts_inside : (Files.Path.mk "" ["baml_src", "schema.baml"]).Inside :=
  ⟨rfl, by decide⟩

/-- Builds of the standard layout leave sources only where their digests say. -/
theorem addressed_after (hs : s.Fresh cwd root) (hcalls : ∀ c ∈ calls, c.Standard cwd root base) :
    Addressed cwd root (after calls s).files := by
  intro key content hfile
  have hadds := after_adds hs.closed hs.standing fun c hc => (hcalls c hc).cwd
  rcases hadds.contents _ _ hfile with hold | ⟨before, c, later, rfl, hleft⟩
  · have hnone := hs.empty (plainPlace cwd root ++ [key, "baml_src", "schema.baml"])
      (List.prefix_append _ _) (by simp)
    rw [hnone] at hold
    cases hold
  have hc := hcalls c (by simp)
  rcases hleft with ⟨source, w, path, hsource, hw, hpath, hat⟩ |
    ⟨w, command, exit, file, hw, -, hchild, hmem, hat⟩ | ⟨bytecode, hat⟩
  · rw [Workspace.sourcePath_standard (hc.workspace_layout hw)] at hpath
    cases hpath
    obtain ⟨source', hsource', hplace⟩ := hc.locate hw sourceParts_inside hat.1
    cases hsource.symm.trans hsource'
    obtain ⟨hkey, -⟩ := List.cons_eq_cons.mp (List.append_cancel_left hplace)
    exact ⟨source.text, hat.2, hkey.symm⟩
  · obtain ⟨hinside, hother⟩ := hc.keepsSource exit hchild file hmem
    obtain ⟨source, -, hplace⟩ := hc.locate hw hinside hat.1
    obtain ⟨-, hparts⟩ := List.cons_eq_cons.mp (List.append_cancel_left hplace)
    exact absurd hparts.symm hother
  · obtain ⟨b, hlast⟩ := hat.bytecoded
    have hname : b.name = "schema.baml" := by simpa using hlast.symm
    exact absurd hname (Host.Bytecode.name_ne (by decide))

/-! ## Starts of the compiler -/

/-- How a call goes about the compiler: it starts it once at most, and then after a miss and with
its source in place. A call that has no source writes nothing, and one that finds a client only the
bytecode of a client that it imports. -/
structure Call.Orderly (c : Call) (s : Session) : Prop where
  once : (c.starts s).length ≤ 1
  prepared : c.starts s ≠ [] → ∃ source w path command ran s₁ s₂,
    c.source = .ok source ∧ c.workspace = .ok w ∧ w.isBuilt s.files c.host.cwd = .ok false ∧
    w.sourcePath = .ok path ∧ s.Starts s₁ [] ∧
    s₁.files.read c.host.cwd path = .ok (.text source.text) ∧
    (Compiler.start c.host command w.path).runIn s₁ = (ran, s₂) ∧ s₂.Starts (c.run s).2 [] ∧
    c.Settles w s₂ (c.run s).2
  hit : ∀ w, c.workspace = .ok w → w.isBuilt s.files c.host.cwd = .ok true →
    c.Settles w s (c.run s).2
  unread : ∀ fault, c.source = .error fault → (c.run s).2.files = s.files

theorem Call.orderly (h : s.files.Closed) (hcwd : s.files.entry? c.host.cwd = some .directory) :
    c.Orderly s := by
  have hmissed {w w' : Workspace} (hw : c.workspace = .ok w) (hw' : c.workspace = .ok w')
      (hmiss : w.isBuilt s.files c.host.cwd = .ok false) :
      w'.isBuilt s.files c.host.cwd ≠ .ok true := by
    cases hw.symm.trans hw'
    rw [hmiss]
    simp
  have hread {source : Baml.Source} (hsource : c.source = .ok source) :
      ∀ fault, c.source ≠ .error fault := by
    rw [hsource]
    simp
  cases c.effect s with
  | stopped hfiles hstarts _ =>
    have hnone := Call.starts_eq hstarts
    exact ⟨by simp [hnone], fun hne => absurd hnone hne, fun _ _ _ => .inl hfiles, fun _ _ => hfiles⟩
  | hit hw _ hsettles hstarts =>
    have hnone := Call.starts_eq hstarts
    refine ⟨by simp [hnone], fun hne => absurd hnone hne, fun w' hw' _ => ?_, fun fault hfault => ?_⟩
    · cases hw.symm.trans hw'
      exact hsettles
    · simp [Call.workspace, hfault, bind, Except.bind] at hw
  | wrote hsource hw hmiss _ _ hstarts _ =>
    have hnone := Call.starts_eq hstarts
    exact ⟨by simp [hnone], fun hne => absurd hnone hne,
      fun w' hw' hhit => absurd hhit (hmissed hw hw' hmiss),
      fun fault hfault => absurd hfault (hread hsource fault)⟩
  | ran hsource hw hmiss hpath hwrite hbefore hstart hsettles hafter _ =>
    have hone := Call.starts_eq
      (hbefore.trans ((Compiler.start_cases hstart).2.2.1.trans hafter))
    refine ⟨by simp [hone], fun _ => ?_, fun w' hw' hhit => absurd hhit (hmissed hw hw' hmiss),
      fun fault hfault => absurd hfault (hread hsource fault)⟩
    exact ⟨_, _, _, _, _, _, _, hsource, hw, hmiss, hpath, hbefore,
      (Files.Tree.atomicWrite_adds h hcwd hwrite).2 rfl, hstart, hafter, hsettles⟩

/-! ## Clients that are kept -/

/-- Whether the workspace of a key is built, whatever else is set. -/
def Built (cwd : Place) (root : Path) (files : FileTree) (key : String) : Prop :=
  ∀ build : Settings.Build, build.Standard →
    (Workspace.under root key build).isBuilt files cwd = .ok true

theorem built_of {files : FileTree} {key : String} {build : Settings.Build} (hb : build.Standard)
    (h : (Workspace.under root key build).isBuilt files cwd = .ok true) :
    Built cwd root files key := by
  intro build' hb'
  have hsame : (Workspace.under root key build').candidates =
      (Workspace.under root key build).candidates := by
    rw [Workspace.candidates_standard hb', Workspace.candidates_standard hb]
    rfl
  unfold Workspace.isBuilt Workspace.artifact? at h ⊢
  rw [hsame]
  exact h

/-- What lasts between builds of a cache: the files stand in directories, and a client is kept only
for a workspace that is built. -/
structure Session.Lasting (cwd : Place) (root : Path) (base : Place) (s : Session) : Prop where
  closed : s.files.Closed
  standing : s.files.entry? cwd = some .directory
  kept : ∀ place l, (place, l) ∈ s.loaded →
    ∃ key, place = base ++ [key] ∧ Built cwd root s.files key

theorem Session.Fresh.lasting (h : s.Fresh cwd root) : s.Lasting cwd root base :=
  ⟨h.closed, h.standing, fun place l hl => by rw [h.unloaded] at hl; cases hl⟩

theorem Built.adds {files files' : FileTree} {key : String} {written : Place → Content → Prop}
    (h : Built cwd root files key) (ha : Adds written files files') : Built cwd root files' key :=
  fun build hb => Workspace.isBuilt_adds hb ha (h build hb)

/-- The place under which the client of a call is kept. -/
theorem Call.Standard.place {w : Workspace} {place : Place} (h : c.Standard cwd root base)
    (hw : c.workspace = .ok w) (hplace : c.host.place w.path = .ok place) :
    ∃ source, c.source = .ok source ∧ place = base ++ [Digest.sha256 source.text] := by
  obtain ⟨source, hsource, rfl⟩ := h.workspace_eq hw
  rw [Workspace.under_path] at hplace
  exact ⟨source, hsource, h.apart source.text place hplace⟩

theorem Session.Lasting.run (h : s.Lasting cwd root base) (hc : c.Standard cwd root base) :
    (c.run s).2.Lasting cwd root base := by
  have hadds := Call.run_adds h.closed (hc.cwd ▸ h.standing)
  refine ⟨hadds.closed, hadds.directories _ h.standing, fun place l hl => ?_⟩
  have hold (hl : (place, l) ∈ s.loaded) :
      ∃ key, place = base ++ [key] ∧ Built cwd root (c.run s).2.files key := by
    obtain ⟨key, hplace, hbuilt⟩ := h.kept place l hl
    exact ⟨key, hplace, hbuilt.adds hadds⟩
  rcases Call.run_loaded h.closed (hc.cwd ▸ h.standing) with
    hsame | ⟨w, place', l', files, hw, hplace, hnew, hbuilt, hbytecode⟩
  · exact hold (hsame ▸ hl)
  · rw [hnew, List.mem_append, List.mem_singleton] at hl
    rcases hl with hl | hl
    · exact hold hl
    · cases hl
      obtain ⟨source, hsource, rfl⟩ := hc.workspace_eq hw
      obtain ⟨source', hsource', rfl⟩ := hc.place hw hplace
      cases hsource.symm.trans hsource'
      exact ⟨_, rfl, (built_of hc.layout (hc.cwd ▸ hbuilt)).adds hbytecode⟩

theorem Session.Lasting.after (h : s.Lasting cwd root base) (hcalls : ∀ c ∈ calls, c.Standard cwd root base) :
    (after calls s).Lasting cwd root base := by
  induction calls generalizing s with
  | nil => exact h
  | cons c rest ih =>
    obtain ⟨hc, hrest⟩ := List.forall_mem_cons.mp hcalls
    exact ih (h.run hc) hrest

/-- Once a build has given a client, its workspace is built. -/
theorem Call.Standard.built {source : Baml.Source} {l : Loaded} (hc : c.Standard cwd root base)
    (h : s.Lasting cwd root base) (hrun : (c.run s).1 = .ok (source, l)) :
    Built cwd root (c.run s).2.files (Digest.sha256 source.text) := by
  obtain ⟨hsource, w, place, hw, hplace, hkept⟩ := Call.run_kept hrun
  obtain ⟨source', hsource', rfl⟩ := hc.place hw hplace
  cases hsource.symm.trans hsource'
  obtain ⟨key, hkey, hbuilt⟩ := (h.run hc).kept _ _ hkept
  obtain ⟨rfl, -⟩ := List.cons_eq_cons.mp (List.append_cancel_left hkey)
  exact hbuilt

/-- A build of a source whose workspace is built starts nothing. -/
theorem Call.Standard.starts_nil {source : Baml.Source} (hc : c.Standard cwd root base)
    (hsource : c.source = .ok source)
    (hbuilt : Built cwd root s.files (Digest.sha256 source.text)) : c.starts s = [] := by
  have hhit := hbuilt _ hc.layout
  have hw' := hc.workspace hsource
  cases c.effect s with
  | stopped _ hstarts _ => exact Call.starts_eq hstarts
  | hit _ _ _ hstarts => exact Call.starts_eq hstarts
  | wrote _ _ _ _ _ hstarts _ => exact Call.starts_eq hstarts
  | ran _ hw hmiss _ _ _ _ _ _ _ =>
    cases hw'.symm.trans hw
    rw [hc.cwd, hhit] at hmiss
    cases hmiss

/-! ## The invariant -/

/-- Builds of any schemas that share an empty cache keep each source under its digest, go about the
compiler in order, and never compile a source whose client has been given. -/
theorem cache_invariant (hs : s.Fresh cwd root) (hcalls : ∀ c ∈ calls, c.Standard cwd root base) :
    Addressed cwd root (after calls s).files ∧
    (∀ (before : List Call) (c : Call) (later : List Call), calls = before ++ c :: later →
      c.Orderly (after before s)) ∧
    ∀ (before : List Call) (c : Call) (between : List Call) (d : Call) (later : List Call)
      (source again : Baml.Source) (l : Loaded), calls = before ++ c :: (between ++ d :: later) →
      (c.run (after before s)).1 = .ok (source, l) →
      d.source = .ok again → again.text = source.text →
      d.starts (after (before ++ c :: between) s) = [] := by
  refine ⟨addressed_after hs hcalls, fun before c later hsplit => ?_,
    fun before c between d later source again l hsplit hrun hagain htext => ?_⟩
  · subst hsplit
    have hlasting := hs.lasting.after fun d hd => hcalls d (List.mem_append_left _ hd)
    exact Call.orderly hlasting.closed ((hcalls c (by simp)).cwd ▸ hlasting.standing)
  · subst hsplit
    have hbefore := hs.lasting.after fun d hd => hcalls d (List.mem_append_left _ hd)
    have hc := hcalls c (by simp)
    have hgiven := hc.built hbefore hrun
    have hlasting := hbefore.run hc
    have hcwd : ∀ d ∈ between, d.host.cwd = cwd := fun d hd => (hcalls d (by simp [hd])).cwd
    have hadds := after_adds hlasting.closed hlasting.standing hcwd
    refine (hcalls d (by simp)).starts_nil hagain ?_
    rw [htext, after_append]
    exact hgiven.adds hadds

/-- A build of the type of all strings, on a host whose compiler fails but leaves a client. -/
def leftover : Call where
  pipeline := ⟨{}, ⟨{}, none⟩⟩
  host := {
    programs := [("baml-cli", "/bin/baml-cli")]
    child := .ok {
      status := 1
      written := [(⟨"", ["baml_client", "__init__.py"]⟩, .client ⟨.module, []⟩)] } }
  schema := .node (.primitive .null (.str "string")) .empty

def emptySession : Session := { files := {} }

def temporaryCache : Path := ⟨"/", ["tmp", "baml-runtime-cache"]⟩

theorem emptySession_fresh : emptySession.Fresh [] temporaryCache := by
  have hnone {q : Place} (hq : q ≠ []) : emptySession.files.entry? q = none := by
    have hempty : q.isEmpty = false := by simpa using hq
    simp [emptySession, Files.Tree.entry?, hempty]
  refine ⟨fun place entry he => ?_, rfl, fun q hq _ => hnone ?_, rfl⟩
  · by_cases hplace : place = []
    · subst hplace
      intro q hq hne
      exact absurd (List.prefix_nil.mp hq) hne
    · rw [hnone hplace] at he
      cases he
  · rintro rfl
    exact absurd (List.prefix_nil.mp hq) (by decide)

theorem temporaryCache_apart {h : Host} (hcwd : h.cwd = []) (hlinks : ∀ p, h.links p = none)
    (text : String) (place : Place)
    (hplace : h.place (temporaryCache.join (.ofString (Digest.sha256 text))) = .ok place) :
    place = temporaryCache.parts ++ [Digest.sha256 text] := by
  rw [Host.place, hlinks, hcwd] at hplace
  dsimp only at hplace
  unfold Files.Tree.resolve at hplace
  split at hplace
  · cases hplace
  · rw [← Except.ok.inj hplace, Files.Tree.plainPlace_join _ (Digest.sha256_inside text),
      Digest.ofString_sha256]
    rfl

theorem leftover_standard : leftover.Standard [] temporaryCache temporaryCache.parts where
  cwd := rfl
  root := by
    have htmp : Path.ofString "/tmp" = ⟨"/", ["tmp"]⟩ := by decide
    show Except.ok ((Path.ofString "/tmp").push "baml-runtime-cache") = _
    rw [htmp]
    rfl
  layout := ⟨rfl, rfl, rfl⟩
  keepsSource := by
    intro exit hchild file hfile
    cases hchild
    cases List.mem_singleton.mp hfile
    exact ⟨⟨rfl, by decide⟩, by decide⟩
  apart := temporaryCache_apart (h := leftover.host) rfl fun _ => rfl

def leftoverSource : Baml.Source :=
  let text := Baml.sourceText [] [] [] "GenRoot" "string" (.str "openai/gpt-4o")
  ⟨text, "GenRoot", "string", Digest.sha256 text⟩

def leftoverWorkspace : Workspace :=
  let key := "63c17741dfd4ff8f8255f376b479882ec72a4f31cb029ea2c653932885dd2043"
  ⟨key, ⟨"/", ["tmp", "baml-runtime-cache", key]⟩, {}⟩

theorem leftover_source : leftover.source = .ok leftoverSource := rfl

theorem leftover_digest : Digest.sha256 leftoverSource.text = leftoverWorkspace.key := by
  -- The bytes are taken line by line, as the kernel is slow at reading a whole text back.
  have habsorbed : (Digest.toWords (Digest.pad (Digest.bytes leftoverSource.text))).length / 16 = 4 ∧
      (Digest.absorb 4 .initial
        (Digest.toWords (Digest.pad (Digest.bytes leftoverSource.text)))).words =
          [0x63c17741, 0xdfd4ff8f, 0x8255f376, 0xb479882e,
            0xc72a4f31, 0xcb029ea2, 0xc6539328, 0x85dd2043] := by
    simp only [leftoverSource, Baml.sourceText, Baml.targetText, Baml.functionText, Baml.unlines,
      Digest.bytes_append, Digest.bytes_join, List.map, List.flatMap_cons, List.flatMap_nil]
    decide +kernel
  rw [Digest.sha256_bytes, habsorbed.1, habsorbed.2]
  decide

theorem leftover_workspace : leftover.workspace = .ok leftoverWorkspace := by
  rw [leftover_standard.workspace leftover_source, Workspace.under, Digest.ofString_sha256,
    leftover_digest]
  rfl

/-- A call with a source builds the source's workspace and loads its client. -/
theorem Call.run_eq {source : Baml.Source} {w : Workspace} (hsource : c.source = .ok source)
    (hw : c.workspace = .ok w) : c.run s =
      (do
        c.pipeline.buildWorkspace c.host source w
        pure (source, ← Loader.load c.host w) : Work (Baml.Source × Loaded)).runIn s := by
  have hof : Workspace.ofSource source.text c.pipeline.settings.build c.host.temporary = .ok w := by
    simpa [Call.workspace, hsource, bind, Except.bind] using hw
  unfold Call.source at hsource
  rw [Call.run, Pipeline.build, hsource, Work.runIn_bind, Work.runIn_lift]
  dsimp only
  rw [hof, Work.runIn_bind, Work.runIn_lift]

def isCompileFault {α : Type} : Except Fault α → Bool
  | .error (.compile _) => true
  | _ => false

theorem exists_compileFault {α : Type} {outcome : Except Fault α}
    (h : isCompileFault outcome = true) : ∃ cause, outcome = .error (.compile cause) := by
  unfold isCompileFault at h
  split at h
  · exact ⟨_, rfl⟩
  · cases h

theorem exists_ok {α : Type} {outcome : Except Fault α} (h : outcome.isOk = true) :
    ∃ a, outcome = .ok a := by
  cases outcome with
  | error fault => cases h
  | ok a => exact ⟨a, rfl⟩

/-- The first build fails as its compiler does, the second takes the client that is there. -/
theorem leftover_runs :
    isCompileFault (leftover.run emptySession).1 = true ∧
      (leftover.run (after [leftover] emptySession)).1.isOk = true := by
  rw [after, List.foldl_cons, List.foldl_nil, Call.run_eq leftover_source leftover_workspace,
    Call.run_eq leftover_source leftover_workspace]
  decide +kernel

theorem leftover_fails : ∃ cause, (leftover.run emptySession).1 = .error (.compile cause) :=
  exists_compileFault leftover_runs.1

theorem leftover_returns :
    ∃ source l, (leftover.run (after [leftover] emptySession)).1 = .ok (source, l) := by
  obtain ⟨⟨source, l⟩, hrun⟩ := exists_ok leftover_runs.2
  exact ⟨source, l, hrun⟩

/-- An import by an interpreter that leaves the bytecode of what it imports. -/
def cachingImport (p : Path) (files : FileTree) : Host.Import :=
  match files.read [] p with
  | .ok content => ⟨Client.ofContent p.name content, [⟨p, "cpython-311", content⟩]⟩
  | .error _ => ⟨.error .unloadable, []⟩

def cached : Call := { leftover with host := { leftover.host with imports := cachingImport } }

theorem cached_standard : cached.Standard [] temporaryCache temporaryCache.parts where
  cwd := rfl
  root := leftover_standard.root
  layout := ⟨rfl, rfl, rfl⟩
  keepsSource := leftover_standard.keepsSource
  apart := temporaryCache_apart (h := cached.host) rfl fun _ => rfl

theorem cached_workspace : cached.workspace = .ok leftoverWorkspace := leftover_workspace

def cachedPath : Path :=
  leftoverWorkspace.path.join ⟨"", ["baml_client", "__pycache__", "__init__.cpython-311.pyc"]⟩

/-- The second build imports the client that is there, and leaves bytecode. -/
theorem cached_runs :
    (cached.run (after [cached] emptySession)).1.isOk = true ∧
      (leftoverWorkspace.isBuilt (after [cached] emptySession).files []).toOption = some true ∧
      ((after [cached] emptySession).files.isFile [] cachedPath).toOption = some false ∧
      ((cached.run (after [cached] emptySession)).2.files.isFile [] cachedPath).toOption =
        some true := by
  rw [after, List.foldl_cons, List.foldl_nil, Call.run_eq (c := cached) leftover_source cached_workspace,
    Call.run_eq (c := cached) leftover_source cached_workspace]
  decide +kernel

theorem cache_invariant_cached :
    (∃ source l, (cached.run (after [cached] emptySession)).1 = .ok (source, l)) ∧
      Addressed [] temporaryCache (after [cached, cached, cached] emptySession).files ∧
      cached.Orderly emptySession ∧
      cached.starts (after [cached, cached] emptySession) = [] := by
  obtain ⟨⟨source, l⟩, hrun⟩ := exists_ok cached_runs.1
  have hcalls : ∀ c ∈ [cached, cached, cached],
      c.Standard [] temporaryCache temporaryCache.parts := by
    intro c hc
    simp only [List.mem_cons, List.not_mem_nil, or_false, or_self] at hc
    exact hc ▸ cached_standard
  obtain ⟨haddressed, horderly, hstarts⟩ := cache_invariant emptySession_fresh hcalls
  have hsource := (Call.run_kept hrun).1
  exact ⟨⟨source, l, hrun⟩, haddressed, horderly [] cached [cached, cached] rfl,
    hstarts [cached] cached [] cached [] source source l rfl hrun hsource rfl⟩

/-- The same build on a host whose compiler does not fail. -/
def compiling : Call where
  pipeline := leftover.pipeline
  host := {
    programs := [("baml-cli", "/bin/baml-cli")]
    child := .ok { written := [(⟨"", ["baml_client", "__init__.py"]⟩, .client ⟨.module, []⟩)] } }
  schema := leftover.schema

/-- That build in the same cache, which is reached by way of a directory that is missing. -/
def detour : Call :=
  let settings : Settings := { build := { cacheRoot := .str "/tmp/baml-runtime-cache/x/.." } }
  { compiling with pipeline := ⟨settings, ⟨settings.build, none⟩⟩ }

def detourCache : Path := ⟨"/", ["tmp", "baml-runtime-cache", "x", ".."]⟩

theorem detour_shares : detour.Shares [] detourCache where
  cwd := rfl
  root := by
    have hpath : Path.ofString "/tmp/baml-runtime-cache/x/.." = detourCache := by decide
    rw [← hpath]
    rfl

theorem detour_workspace : detour.workspace =
    .ok ⟨leftoverWorkspace.key, detourCache.push leftoverWorkspace.key, detour.pipeline.settings.build⟩ := by
  rw [detour_shares.workspace leftover_source, Workspace.under, Digest.ofString_sha256,
    leftover_digest]
  rfl

theorem compiling_shares : compiling.Shares [] temporaryCache where
  cwd := rfl
  root := leftover_standard.root

theorem detour_runs :
    (compiling.run emptySession).1.isOk = true ∧
      (detour.starts (after [compiling] emptySession)).isEmpty = false := by
  rw [Call.starts, after, List.foldl_cons, List.foldl_nil,
    Call.run_eq (c := detour) leftover_source detour_workspace,
    Call.run_eq (c := compiling) leftover_source leftover_workspace]
  decide +kernel

/-- A hit leaves bytecode, and a cache that is reached in two ways compiles a source twice. -/
theorem hit_writes_and_detour_recompiles :
    (emptySession.Fresh [] temporaryCache ∧ cached.Standard [] temporaryCache temporaryCache.parts ∧
      leftoverWorkspace.isBuilt (after [cached] emptySession).files [] = .ok true ∧
      (cached.run (after [cached] emptySession)).2.files ≠ (after [cached] emptySession).files) ∧
    plainPlace [] detourCache = plainPlace [] temporaryCache ∧ detour.Shares [] detourCache ∧
      compiling.Shares [] temporaryCache ∧ detour.source = compiling.source ∧
      (∃ source l, (compiling.run emptySession).1 = .ok (source, l)) ∧
      detour.starts (after [compiling] emptySession) ≠ [] := by
  have hwrites : (cached.run (after [cached] emptySession)).2.files ≠
      (after [cached] emptySession).files := by
    intro hsame
    have hthere := cached_runs.2.2.2
    rw [hsame, cached_runs.2.2.1] at hthere
    cases hthere
  have hbuilt : leftoverWorkspace.isBuilt (after [cached] emptySession).files [] = .ok true := by
    have hsome := cached_runs.2.1
    cases hout : leftoverWorkspace.isBuilt (after [cached] emptySession).files [] with
    | error fault =>
      rw [hout] at hsome
      cases hsome
    | ok built =>
      rw [hout] at hsome
      cases hsome
      rfl
  obtain ⟨⟨source, given⟩, hcompiled⟩ := exists_ok detour_runs.1
  refine ⟨⟨emptySession_fresh, cached_standard, hbuilt, hwrites⟩, by decide, detour_shares,
    compiling_shares, rfl, ⟨source, given, hcompiled⟩, fun hnone => ?_⟩
  have hstarts := detour_runs.2
  rw [hnone] at hstarts
  cases hstarts

end StructuredOutput
