import StructuredOutput.Proofs.Build.CacheInvariant

/-! # Clients are loaded once

However loads and changes of the files follow each other, the first successful load of a place
decides what every later load of it gives. All other loads look for the forms of the client in
order, and what they find is kept only if it can be imported. What the import of a file comes to is
left open, so it may also be that of bytecode which stands for what the file held before. -/
namespace StructuredOutput

open Files (Path Place)

namespace Loader

variable {h : Host} {w : Workspace} {s s' : Session} {place : Place} {outcome : Except Fault Loaded}

/-! ## One load -/

/-- A load that fails has found nothing under its place, and keeps nothing there. -/
theorem load_failed {fault : Fault} (hfault : ((load h w).runIn s).1 = .error fault) :
    (∀ place, h.place w.path = .ok place → first? s.loaded place = none) ∧
      ((load h w).runIn s).2.loaded = s.loaded := by
  cases hplace : h.place w.path with
  | error cause =>
    rw [load_unresolved hplace]
    exact ⟨nofun, rfl⟩
  | ok place =>
    cases hkept : first? s.loaded place with
    | some l =>
      rw [load_kept hplace hkept] at hfault
      cases hfault
    | none =>
      refine ⟨fun q hq => ?_, ?_⟩
      · cases hq
        exact hkept
      · rw [load_new hplace hkept] at hfault ⊢
        rcases loadNew_cases h w s place with hprobes | ⟨-, cause, hrefused⟩
        · rw [hfault] at hprobes
          generalize ((loadNew h w place).runIn s).2 = s' at hprobes
          cases hprobes <;> rfl
        · rw [hrefused]

theorem load_probes (hplace : h.place w.path = .ok place) (hnew : first? s.loaded place = none)
    (hsearch : w.Searchable s.files h.cwd) :
    Probes h w place s ((load h w).runIn s).1 ((load h w).runIn s).2 := by
  rw [load_new hplace hnew]
  exact (loadNew_cases h w s place).resolve_right fun hrefused => hrefused.1 hsearch

/-! ## Loads between changes -/

/-- What happens while clients are loaded: the files change, or a workspace is loaded. -/
inductive Step where
  | change (files : FileTree)
  | load (h : Host) (w : Workspace)

namespace Step

def run (s : Session) : Step → Session
  | .change files => { s with files }
  | .load h w => ((Loader.load h w).runIn s).2

def success (s : Session) : Step → List (Place × Loaded)
  | .change _ => []
  | .load h w =>
    match h.place w.path, ((Loader.load h w).runIn s).1 with
    | .ok place, .ok l => [(place, l)]
    | _, _ => []

end Step

def play (steps : List Step) (s : Session) : Session := steps.foldl Step.run s

def successes : List Step → Session → List (Place × Loaded)
  | [], _ => []
  | step :: rest, s => step.success s ++ successes rest (step.run s)

theorem first?_append (loads later : List (Place × Loaded)) (place : Place) :
    first? (loads ++ later) place = (first? loads place).or (first? later place) := by
  unfold first?
  rw [List.find?_append, Option.map_or]

theorem first?_none {loads : List (Place × Loaded)} (hnew : first? loads place = none) :
    place ∉ loads.map (·.1) := by
  unfold first? at hnew
  rw [Option.map_eq_none_iff, List.find?_eq_none] at hnew
  rintro hmem
  obtain ⟨entry, hentry, rfl⟩ := List.mem_map.mp hmem
  exact hnew entry hentry (decide_eq_true rfl)

/-- A step keeps what was loaded, and keeps what it loads under a place that had nothing yet. -/
theorem first?_run (step : Step) (s : Session) (q : Place) :
    first? (step.run s).loaded q = (first? s.loaded q).or (first? (step.success s) q) := by
  cases step with
  | change files => exact (Option.or_none).symm
  | load h w =>
    simp only [Step.run, Step.success]
    cases hplace : h.place w.path with
    | error fault =>
      rw [load_unresolved hplace]
      exact (Option.or_none).symm
    | ok place =>
      cases hkept : first? s.loaded place with
      | some l =>
        rw [load_kept hplace hkept]
        dsimp only
        by_cases hq : place = q
        · rw [← hq, hkept, Option.some_or]
        · have hother : first? [(place, l)] q = none := by simp [first?, hq]
          rw [hother, Option.or_none]
      | none =>
        rw [load_new hplace hkept]
        have hcases := loadNew_cases h w s place
        generalize (loadNew h w place).runIn s = result at hcases
        obtain ⟨outcome, s'⟩ := result
        rcases hcases with hprobes | ⟨-, fault, hrefused⟩
        · dsimp only at hprobes ⊢
          cases hprobes with
          | imported => exact first?_append s.loaded _ q
          | raised | absent => exact (Option.or_none).symm
        · cases hrefused
          exact (Option.or_none).symm

theorem first?_play (steps : List Step) (s : Session) (q : Place) :
    first? (play steps s).loaded q = (first? s.loaded q).or (first? (successes steps s) q) := by
  induction steps generalizing s with
  | nil => exact (Option.or_none).symm
  | cons step rest ih =>
    calc first? (play rest (step.run s)).loaded q
      _ = (first? (step.run s).loaded q).or (first? (successes rest (step.run s)) q) := ih _
      _ = ((first? s.loaded q).or (first? (step.success s) q)).or
          (first? (successes rest (step.run s)) q) := by rw [first?_run]
      _ = (first? s.loaded q).or (first? (successes (step :: rest) s) q) := by
        rw [Option.or_assoc, ← first?_append]
        rfl

def places (s : Session) : List Place := s.loaded.map (·.1)

theorem places_run {step : Step} (hs : (places s).Nodup) : (places (step.run s)).Nodup := by
  cases step with
  | change files => exact hs
  | load h w =>
    simp only [Step.run]
    cases hplace : h.place w.path with
    | error fault =>
      rw [load_unresolved hplace]
      exact hs
    | ok place =>
      cases hkept : first? s.loaded place with
      | some l =>
        rw [load_kept hplace hkept]
        exact hs
      | none =>
        rw [load_new hplace hkept]
        have hcases := loadNew_cases h w s place
        generalize (loadNew h w place).runIn s = result at hcases
        obtain ⟨outcome, s'⟩ := result
        rcases hcases with hprobes | ⟨-, fault, hrefused⟩
        · dsimp only at hprobes ⊢
          cases hprobes with
          | imported =>
            unfold places
            rw [List.map_append]
            exact List.nodup_append'.mpr ⟨hs, List.nodup_singleton _,
              List.disjoint_singleton.mpr (first?_none hkept)⟩
          | raised | absent => exact hs
        · cases hrefused
          exact hs

theorem places_play (steps : List Step) (hs : (places s).Nodup) :
    (places (play steps s)).Nodup := by
  induction steps generalizing s with
  | nil => exact hs
  | cons step rest ih => exact ih (places_run hs)

/-! ## The law of the memo -/

/-- What a load comes to after some successful loads: the parser of the first of them at its place,
with nothing imported, or what it finds among the forms of its client. -/
structure Lawful (before : List (Place × Loaded)) (h : Host) (w : Workspace) (s : Session)
    (outcome : Except Fault Loaded) (s' : Session) : Prop where
  single : (places s).Nodup
  repeated : ∀ place l, h.place w.path = .ok place → first? before place = some l →
    (place, l) ∈ s.loaded ∧ outcome = .ok l ∧ s' = s
  fresh : ∀ place, h.place w.path = .ok place → first? before place = none →
    w.Searchable s.files h.cwd → Probes h w place s outcome s'
  forms : ∀ forms, w.candidates = .ok forms → ∃ dir, w.clientDir = .ok dir ∧
    forms = [(dir.push "__init__.py", true), (dir.push "__init__.pyc", true),
      (dir.parent.push (dir.stem ++ ".py"), false)] ∧
    ('.' ∉ dir.name.toList → dir.stem = dir.name)
  failed : ∀ fault, outcome = .error fault → s'.loaded = s.loaded
  again : ∀ fault, outcome = .error fault → ∀ files h' w' place, h.place w.path = .ok place →
    h'.place w'.path = .ok place → w'.Searchable files h'.cwd →
    Probes h' w' place { s' with files } ((load h' w').runIn { s' with files }).1
      ((load h' w').runIn { s' with files }).2

/-- Loads of any workspaces between any changes of the files, with nothing loaded at first. Each load
has a computer of its own, so that in between links may be set anew, and an import may come to
something else. -/
theorem loaded_once (steps : List Step) (s : Session) (h : Host) (w : Workspace)
    (hempty : s.loaded = []) :
    Lawful (successes steps s) h w (play steps s) ((load h w).runIn (play steps s)).1
      ((load h w).runIn (play steps s)).2 := by
  have hmemo (q : Place) : first? (play steps s).loaded q = first? (successes steps s) q := by
    rw [first?_play, hempty]
    exact Option.none_or
  generalize hs : play steps s = s₁ at hmemo ⊢
  have hsingle : (places s₁).Nodup := by
    rw [← hs]
    exact places_play steps (by rw [places, hempty]; exact List.nodup_nil)
  exact {
    single := hsingle
    repeated := by
      intro place l hplace hfirst
      have hkept := (hmemo place).trans hfirst
      rw [load_kept hplace hkept]
      exact ⟨first?_mem hkept, rfl, rfl⟩
    fresh := fun place hplace hnew => load_probes hplace ((hmemo place).trans hnew)
    forms := by
      intro forms hforms
      obtain ⟨dir, hdir, hlist⟩ := Workspace.candidates_ok hforms
      exact ⟨dir, hdir, hlist, Files.Path.stem_plain⟩
    failed := fun fault hfault => (load_failed hfault).2
    again := by
      intro fault hfault files h' w' place hplace hplace' hsearch
      obtain ⟨hnone, hloaded⟩ := load_failed hfault
      refine load_probes hplace' ?_ hsearch
      show first? ((load h w).runIn s₁).2.loaded place = none
      rw [hloaded]
      exact hnone place hplace }

def sampleDirectory : Place := ["tmp", "baml-runtime-cache", "k"]

def holding (name : String) (client : Client) : FileTree where
  entries := [(["tmp"], .directory), (["tmp", "baml-runtime-cache"], .directory),
    (sampleDirectory, .directory), (sampleDirectory ++ [name], .file (.client client))]

/-- A client that appears after a first load, and is gone again after the second one. -/
def passing : List Step :=
  let w := Workspace.under temporaryCache "k" {}
  [.load {} w, .change (holding "baml_client.py" ⟨.module, [("F", .echo)]⟩), .load {} w,
    .change {}]

theorem loaded_once_passing :
    let w := Workspace.under temporaryCache "k" {}
    let l : Loaded := ⟨w, "_schema_to_baml_client_k", ⟨.module, [("F", .echo)]⟩⟩
    emptySession.loaded = [] ∧ successes passing emptySession = [(sampleDirectory, l)] ∧
      (play passing emptySession).files.entries = [] ∧
      ((load {} w).runIn (play passing emptySession)).1 = .ok l ∧
      Lawful (successes passing emptySession) {} w (play passing emptySession)
        ((load {} w).runIn (play passing emptySession)).1
        ((load {} w).runIn (play passing emptySession)).2 :=
  ⟨rfl, rfl, rfl, rfl, loaded_once passing emptySession {} (.under temporaryCache "k" {}) rfl⟩

/-! ## Forms by the plain name of the directory -/

/-- The forms of a client if the module is named by the whole name of the directory. -/
def plainForms (dir : Path) : List Path :=
  [dir.push "__init__.py", dir.push "__init__.pyc", dir.parent.push (dir.name ++ ".py")]

def plain? (h : Host) (dir : Path) (files : FileTree) : Option Path :=
  (plainForms dir).find? fun p => (files.isFile h.cwd p).toOption == some true

/-- Whether a load imports that form, and misses the client if there is none. -/
structure TakesPlain (h : Host) (w : Workspace) (s : Session) : Prop where
  imports : ∀ dir p, w.clientDir = .ok dir → plain? h dir s.files = some p →
    ((load h w).runIn s).2.events = s.events ++ [importing p]
  misses : ∀ dir, w.clientDir = .ok dir → plain? h dir s.files = none →
    ((load h w).runIn s).1 = .error (.artifact (.noClient w.path.text))

def dotted : Workspace := .under temporaryCache "k" { clientDir := .str "client.v2" }

/-- Where the directory of a client has a dot in its name the module stands elsewhere. -/
theorem plain_forms_missed :
    ¬ TakesPlain {} dotted (play [.change (holding "client.v2.py" ⟨.module, []⟩)] emptySession) := by
  intro hplain
  have hevents := hplain.imports _ ⟨"/", sampleDirectory ++ ["client.v2.py"]⟩ rfl rfl
  have hnothing : [] = [importing ⟨"/", sampleDirectory ++ ["client.v2.py"]⟩] := hevents
  cases hnothing

end Loader

end StructuredOutput
