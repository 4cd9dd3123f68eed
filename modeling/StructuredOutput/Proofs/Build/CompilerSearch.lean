import StructuredOutput.Proofs.Build.Steps
import StructuredOutput.Proofs.Json.Members

/-! # The search for the compiler

The compiler is looked for in three places. Where the first place has none the search goes on to the
second, whichever of its conditions fails, and it gives up only where none of the three has a compiler. A
recorded file that is missing is passed over as if it had not been recorded. But a look at the first place
can also raise, as it asks other software for the package and for its files; then the search ends there. -/
namespace StructuredOutput

open Files (Path)

/-! ## What the three places have -/

namespace Host

/-- Whether a recorded file stands where the script of a name stands. -/
def IsScriptPath (name : String) (file : Path) : Prop :=
  file.stem = name ∧ (file.parent.name = "bin" ∨ file.parent.name = "Scripts")

/-- Among the files that are recorded where a script stands, a file is the first that is not missing, and
this is what a look for it comes to. -/
def FirstScript (name : String) (files : List (Path × Except Raised Bool)) (file : Path)
    (there : Except Raised Bool) : Prop :=
  ∃ skipped rest, files = skipped ++ (file, there) :: rest ∧ IsScriptPath name file ∧
    ∀ other ∈ skipped, IsScriptPath name other.1 → other.2 = .ok false

/-- An installed package has a script of a name: it declares the script, and among the files that are
recorded where such a script stands the first that is not missing is there. -/
inductive HasScript (h : Host) (package : Json) (name : String) : Path → Prop
  | recorded {installed : Package} {file : Path} :
      h.package? package = .ok (some installed) →
      (name, "console_scripts") ∈ installed.entryPoints →
      FirstScript name installed.files file (.ok true) →
      HasScript h package name (h.packageDirectory.join file)

/-- The look for the script of a package raises: the package cannot be looked up, or it declares the
script, and among the files that are recorded where such a script stands the first that is not missing
cannot be looked for. -/
inductive Refuses (h : Host) (package : Json) (name : String) : Fault → Prop
  | lookup {fault : Fault} : h.package? package = .error fault → Refuses h package name fault
  | recorded {installed : Package} {file : Path} {error : Raised} :
      h.package? package = .ok (some installed) →
      (name, "console_scripts") ∈ installed.entryPoints →
      FirstScript name installed.files file (.error error) →
      Refuses h package name (.raised error)

def HasProgram (h : Host) (name place : String) : Prop :=
  Json.find? name h.programs = some place ∧ place ≠ ""

/-- A runner is there: it has a first word, and a program of that name is found. -/
def HasRunner (h : Host) (runner : List String) : Prop :=
  ∃ first rest place, runner = first :: rest ∧ h.HasProgram first place

/-- The first place has no compiler, and the look for it does not raise. -/
structure NoScript (h : Host) (package : Json) (name : String) : Prop where
  absent : ∀ script, ¬ h.HasScript package name script
  quiet : ∀ fault, ¬ h.Refuses package name fault

/-- What the words that start the compiler have to be: those of the first place that has it. -/
inductive Prefers (h : Host) (package : Json) (executable : String) (runner : List String) :
    List String → Prop
  | script {script : Path} : h.HasScript package executable script →
      Prefers h package executable runner [script.text]
  | program {place : String} : h.NoScript package executable → h.HasProgram executable place →
      Prefers h package executable runner [place]
  | runner : h.NoScript package executable → (∀ place, ¬ h.HasProgram executable place) →
      h.HasRunner runner → Prefers h package executable runner runner

def Package.withoutMissing (installed : Package) : Package :=
  { installed with files := installed.files.filter fun file =>
      match file.2 with
      | .ok there => there
      | .error _ => true }

def withoutMissing (h : Host) : Host :=
  { h with packages := h.packages.map fun entry =>
      (entry.1, entry.2.map Package.withoutMissing) }

theorem program?_spec (h : Host) (name : String) :
    ∃ found, h.program? (.str name) = .ok found ∧
      ∀ place, found = some place ↔ h.HasProgram name place := by
  refine ⟨(Json.find? name h.programs).filter (· ≠ ""), rfl, fun place => ?_⟩
  simp [HasProgram, Option.filter_eq_some_iff]

end Host

namespace Compiler

variable {build : Settings.Build} {h : Host} {package : Json} {executable name : String}
  {runner : List String} {files : List (Path × Except Raised Bool)} {file : Path}

/-! ## The recorded files -/

theorem isScript_iff : isScript name file = true ↔ Host.IsScriptPath name file := by
  simp [isScript, scriptDirectories, Host.IsScriptPath]

theorem firstScript_nil {there : Except Raised Bool} : ¬ Host.FirstScript name [] file there := by
  rintro ⟨skipped, rest, hfiles, -⟩
  simp at hfiles

theorem firstScript_skip {first : Path × Except Raised Bool} {there : Except Raised Bool}
    (hthere : there ≠ .ok false) (hfirst : Host.IsScriptPath name first.1 → first.2 = .ok false) :
    Host.FirstScript name (first :: files) file there ↔ Host.FirstScript name files file there := by
  constructor
  · rintro ⟨skipped, rest, hfiles, hpath, hskipped⟩
    cases skipped with
    | nil =>
      cases hfiles
      exact absurd (hfirst hpath) hthere
    | cons other others =>
      obtain ⟨rfl, hrest⟩ := List.cons_eq_cons.mp hfiles
      exact ⟨others, rest, hrest, hpath, fun o ho => hskipped o (List.mem_cons_of_mem _ ho)⟩
  · rintro ⟨skipped, rest, rfl, hpath, hskipped⟩
    exact ⟨first :: skipped, rest, rfl, hpath, List.forall_mem_cons.mpr ⟨hfirst, hskipped⟩⟩

theorem firstScript_stop {first : Path × Except Raised Bool} {there : Except Raised Bool}
    (hpath : Host.IsScriptPath name first.1) (hfirst : first.2 ≠ .ok false) :
    Host.FirstScript name (first :: files) file there ↔ (file, there) = first := by
  constructor
  · rintro ⟨skipped, rest, hfiles, -, hskipped⟩
    cases skipped with
    | nil =>
      cases hfiles
      rfl
    | cons other others =>
      obtain ⟨rfl, -⟩ := List.cons_eq_cons.mp hfiles
      exact absurd (hskipped first List.mem_cons_self hpath) hfirst
  · rintro rfl
    exact ⟨[], files, rfl, hpath, List.forall_mem_nil _⟩

theorem firstScript_passes {first : Path × Except Raised Bool}
    (hfirst : Host.IsScriptPath name first.1 → first.2 = .ok false) :
    firstScript name (first :: files) = firstScript name files := by
  obtain ⟨path, there⟩ := first
  by_cases hscript : isScript name path = true
  · obtain rfl : there = .ok false := hfirst (isScript_iff.mp hscript)
    simp only [firstScript, hscript, if_true]
  · simp only [firstScript, hscript, Bool.false_eq_true, if_false]

/-- The first script is found if it is there, and looking for it raises if it cannot be looked for. -/
theorem firstScript_iff (name : String) (files : List (Path × Except Raised Bool)) :
    (∀ file, firstScript name files = .ok (some file) ↔
      Host.FirstScript name files file (.ok true)) ∧
    ∀ fault, firstScript name files = .error fault ↔
      ∃ file error, Host.FirstScript name files file (.error error) ∧ fault = .raised error := by
  induction files with
  | nil => exact ⟨fun file => by simp [firstScript, firstScript_nil],
      fun fault => by simp [firstScript, firstScript_nil]⟩
  | cons first rest ih =>
    by_cases hfirst : Host.IsScriptPath name first.1 → first.2 = .ok false
    · have hskip {file : Path} {there : Except Raised Bool} (hthere : there ≠ .ok false) :
          Host.FirstScript name (first :: rest) file there ↔ Host.FirstScript name rest file there :=
        firstScript_skip hthere hfirst
      rw [firstScript_passes hfirst]
      refine ⟨fun file => (ih.1 file).trans (hskip (by simp)).symm, fun fault => (ih.2 fault).trans ?_⟩
      exact exists_congr fun file => exists_congr fun error =>
        and_congr_left fun _ => (hskip (by simp)).symm
    · obtain ⟨hpath, hfirst⟩ := Classical.not_imp.mp hfirst
      have hstop {file : Path} {there : Except Raised Bool} :
          Host.FirstScript name (first :: rest) file there ↔ (file, there) = first :=
        firstScript_stop hpath hfirst
      simp only [hstop]
      obtain ⟨path, there⟩ := first
      have hscript := isScript_iff.mpr hpath
      cases there with
      | error error => simp [firstScript, hscript, eq_comm]
      | ok present =>
        cases present with
        | true => simp [firstScript, hscript, eq_comm]
        | false => exact absurd rfl hfirst

/-! ## The places one by one -/

theorem scriptIn_iff (h : Host) (installed : Host.Package) (name : String) :
    (∀ script, scriptIn h installed name = .ok (some script) ↔
      (name, "console_scripts") ∈ installed.entryPoints ∧ ∃ file,
        Host.FirstScript name installed.files file (.ok true) ∧
        h.packageDirectory.join file = script) ∧
    ∀ fault, scriptIn h installed name = .error fault ↔
      (name, "console_scripts") ∈ installed.entryPoints ∧ ∃ file error,
        Host.FirstScript name installed.files file (.error error) ∧ fault = .raised error := by
  obtain ⟨hfound, hraised⟩ := firstScript_iff name installed.files
  unfold scriptIn
  split
  · rename_i hdeclared
    rw [List.contains_iff_mem] at hdeclared
    simp only [← hfound, ← hraised, hdeclared, true_and]
    cases firstScript name installed.files with
    | error fault => simp [bind, Except.bind]
    | ok found => cases found <;> simp [bind, Except.bind, pure, Except.pure]
  · rename_i hundeclared
    rw [List.contains_iff_mem] at hundeclared
    simp [hundeclared, pure, Except.pure]

theorem script?_text (hexecutable : build.compilerExecutable = .str executable) :
    script? build h = match h.package? build.compilerPackage with
      | .ok none => .ok none
      | .ok (some installed) => scriptIn h installed executable
      | .error fault => .error fault := by
  rw [script?, hexecutable]
  cases h.package? build.compilerPackage with
  | error fault => rfl
  | ok found => cases found <;> rfl

/-- The first place gives its script, and raises where the look for it does. -/
theorem script?_iff (hexecutable : build.compilerExecutable = .str executable) :
    (∀ script, script? build h = .ok (some script) ↔
      h.HasScript build.compilerPackage executable script) ∧
    ∀ fault, script? build h = .error fault ↔ h.Refuses build.compilerPackage executable fault := by
  rw [script?_text hexecutable]
  cases hlookup : h.package? build.compilerPackage with
  | error cause =>
    refine ⟨fun script => ⟨nofun, fun hscript => ?_⟩, fun fault => ⟨fun he => ?_, fun hrefuses => ?_⟩⟩
    · cases hscript with
      | recorded hinstalled => cases hlookup.symm.trans hinstalled
    · cases he
      exact .lookup hlookup
    · cases hrefuses with
      | lookup hfault =>
        cases hlookup.symm.trans hfault
        rfl
      | recorded hinstalled => cases hlookup.symm.trans hinstalled
  | ok found =>
    cases found with
    | none =>
      refine ⟨fun script => ⟨nofun, fun hscript => ?_⟩, fun fault => ⟨nofun, fun hrefuses => ?_⟩⟩
      · cases hscript with
        | recorded hinstalled => cases hlookup.symm.trans hinstalled
      · cases hrefuses with
        | lookup hfault => cases hlookup.symm.trans hfault
        | recorded hinstalled => cases hlookup.symm.trans hinstalled
    | some installed =>
      obtain ⟨hfound, hraised⟩ := scriptIn_iff h installed executable
      refine ⟨fun script => (hfound script).trans ⟨?_, fun hscript => ?_⟩,
        fun fault => (hraised fault).trans ⟨?_, fun hrefuses => ?_⟩⟩
      · rintro ⟨hdeclared, file, hfirst, rfl⟩
        exact .recorded hlookup hdeclared hfirst
      · cases hscript with
        | recorded hinstalled hdeclared hfirst =>
          cases hlookup.symm.trans hinstalled
          exact ⟨hdeclared, _, hfirst, rfl⟩
      · rintro ⟨hdeclared, file, error, hfirst, rfl⟩
        exact .recorded hlookup hdeclared hfirst
      · cases hrefuses with
        | lookup hfault => cases hlookup.symm.trans hfault
        | recorded hinstalled hdeclared hfirst =>
          cases hlookup.symm.trans hinstalled
          exact ⟨hdeclared, _, _, hfirst, rfl⟩

theorem runnerWords_texts (words : List String) :
    runnerWords (.arr (words.map .str)) = .ok words := by
  have htexts : (words.map Json.str).mapM Json.toStr? = some words := by
    induction words with
    | nil => rfl
    | cons word rest ih =>
      rw [List.map_cons, List.mapM_cons, ih]
      rfl
  rw [runnerWords, Json.elements?, Option.bind_some, htexts]

theorem runner?_spec (hrunner : build.packageRunner = .arr (runner.map .str)) :
    ∃ found, runner? build h = .ok found ∧
      ∀ words, found = some words ↔ h.HasRunner runner ∧ runner = words := by
  cases runner with
  | nil =>
    refine ⟨none, by rw [runner?, hrunner]; rfl, fun words => ⟨nofun, ?_⟩⟩
    rintro ⟨⟨first, rest, place, hempty, -⟩, -⟩
    cases hempty
  | cons first rest =>
    obtain ⟨found, hfound, hplace⟩ := h.program?_spec first
    have hfirst : firstWord (.arr ((first :: rest).map .str)) = .ok (.str first) := rfl
    have hthere : (Json.arr ((first :: rest).map .str)).truthy = true := rfl
    have hrun : runner? build h = .ok (found.map fun _ => first :: rest) := by
      rw [runner?, hrunner, runnerWords_texts, if_pos hthere, hfirst]
      simp only [bind, Except.bind, hfound]
      cases found <;> rfl
    refine ⟨_, hrun, fun words => ?_⟩
    rw [Option.map_eq_some_iff]
    constructor
    · rintro ⟨place, hsome, rfl⟩
      exact ⟨⟨first, rest, place, rfl, (hplace place).mp hsome⟩, rfl⟩
    · rintro ⟨⟨word, others, place, hcons, hprogram⟩, rfl⟩
      cases hcons
      exact ⟨place, (hplace place).mpr hprogram, rfl⟩

/-! ## The search -/

section

variable (hexecutable : build.compilerExecutable = .str executable)
include hexecutable

/-- The places have at most one command, and none where the look for the first raises. -/
theorem prefers_unique {words words' : List String}
    (hw : h.Prefers build.compilerPackage executable runner words)
    (hw' : h.Prefers build.compilerPackage executable runner words') : words = words' := by
  cases hw with
  | script hscript =>
    cases hw' with
    | script hscript' =>
      have hsome := ((script?_iff hexecutable).1 _).mpr hscript
      cases hsome.symm.trans (((script?_iff hexecutable).1 _).mpr hscript')
      rfl
    | program hnone | runner hnone => exact absurd hscript (hnone.absent _)
  | program hnone hprogram =>
    cases hw' with
    | script hscript => exact absurd hscript (hnone.absent _)
    | program _ hprogram' =>
      cases hprogram.1.symm.trans hprogram'.1
      rfl
    | runner _ hnowhere => exact absurd hprogram (hnowhere _)
  | runner hnone hnowhere =>
    cases hw' with
    | script hscript => exact absurd hscript (hnone.absent _)
    | program _ hprogram => exact absurd hprogram (hnowhere _)
    | runner => rfl

theorem refuses_unique {fault fault' : Fault}
    (hf : h.Refuses build.compilerPackage executable fault)
    (hf' : h.Refuses build.compilerPackage executable fault') : fault = fault' := by
  have herror := ((script?_iff hexecutable).2 _).mpr hf
  cases herror.symm.trans (((script?_iff hexecutable).2 _).mpr hf')
  rfl

theorem prefers_not_refused {words : List String} {fault : Fault}
    (hw : h.Prefers build.compilerPackage executable runner words) :
    ¬ h.Refuses build.compilerPackage executable fault := by
  intro hrefuses
  cases hw with
  | script hscript =>
    have hsome := ((script?_iff hexecutable).1 _).mpr hscript
    cases hsome.symm.trans (((script?_iff hexecutable).2 _).mpr hrefuses)
  | program hnone | runner hnone => exact hnone.quiet _ hrefuses

/-- The search gives what is preferred, or the look for the first place raises, or no place has a
compiler. -/
theorem find_cases (hrunner : build.packageRunner = .arr (runner.map .str)) :
    (∃ origin, find build h = .ok origin ∧
      h.Prefers build.compilerPackage executable runner origin.command) ∨
    (∃ fault, find build h = .error fault ∧ h.Refuses build.compilerPackage executable fault) ∨
    find build h = .error (.compile (.notInstalled executable build.compilerPackage.display)) ∧
      h.NoScript build.compilerPackage executable ∧
      (∀ place, ¬ h.HasProgram executable place) ∧ ¬ h.HasRunner runner := by
  obtain ⟨hscripts, hrefusals⟩ := script?_iff (h := h) hexecutable
  obtain ⟨place, hplace, hplaces⟩ := h.program?_spec executable
  obtain ⟨words, hwords, hrunners⟩ := runner?_spec (h := h) hrunner
  rw [← hexecutable] at hplace
  rw [find]
  cases hscript : script? build h with
  | error fault => exact .inr (.inl ⟨fault, rfl, (hrefusals fault).mp hscript⟩)
  | ok found =>
    cases found with
    | some script => exact .inl ⟨.package script, rfl, .script ((hscripts script).mp hscript)⟩
    | none =>
      have hnone : h.NoScript build.compilerPackage executable := by
        refine ⟨fun script hhas => ?_, fun fault hhas => ?_⟩
        · cases hscript.symm.trans ((hscripts script).mpr hhas)
        · cases hscript.symm.trans ((hrefusals fault).mpr hhas)
      simp only [bind, Except.bind, hplace]
      cases place with
      | some place => exact .inl ⟨.program place, rfl, .program hnone ((hplaces place).mp rfl)⟩
      | none =>
        have hnowhere : ∀ place, ¬ h.HasProgram executable place :=
          fun place hhas => absurd ((hplaces place).mpr hhas) nofun
        simp only [hwords]
        cases words with
        | some words =>
          obtain ⟨hthere, rfl⟩ := (hrunners words).mp rfl
          exact .inl ⟨.runner runner, rfl, .runner hnone hnowhere hthere⟩
        | none =>
          refine .inr (.inr ⟨?_, hnone, hnowhere, fun hthere => ?_⟩)
          · rw [hexecutable]
            rfl
          · exact absurd ((hrunners runner).mpr ⟨hthere, rfl⟩) nofun

end

theorem not_prefers {words : List String} (hscript : h.NoScript package executable)
    (hprogram : ∀ place, ¬ h.HasProgram executable place) (hrunner : ¬ h.HasRunner runner) :
    ¬ h.Prefers package executable runner words := by
  intro hprefers
  cases hprefers with
  | script hhas => exact hscript.absent _ hhas
  | program _ hhas => exact hprogram _ hhas
  | runner _ _ hhas => exact hrunner hhas

theorem resolve_run (c : Compiler) (h : Host) (s : Session) :
    (c.resolve h).runIn s = match find c.build h with
      | .ok origin => (.ok origin.command,
          { s with events := s.events ++ [.note (origin.note c.build)] })
      | .error fault => (.error fault, s) := by
  rw [resolve, Work.runIn_bind, Work.runIn_lift]
  cases find c.build h <;> rfl

/-! ## Missing files -/

theorem package?_withoutMissing (h : Host) (name : Json) : h.withoutMissing.package? name =
    (h.package? name).map (Option.map Host.Package.withoutMissing) := by
  unfold Host.package? Host.named
  split
  · cases name.toStr? with
    | none => rfl
    | some text =>
      have hfind : Json.find? text h.withoutMissing.packages = (Json.find? text h.packages).map
          (Except.map Host.Package.withoutMissing) := Json.find?_map_values _ _ _
      simp only [bind, Except.bind, Option.bind_some, hfind]
      cases Json.find? text h.packages with
      | none => rfl
      | some found => cases found <;> rfl
  · rfl

/-- A missing file is no script, so the first script is the same without it. -/
theorem firstScript_withoutMissing (installed : Host.Package) (name : String) :
    firstScript name installed.withoutMissing.files = firstScript name installed.files := by
  rw [Host.Package.withoutMissing]
  dsimp only
  induction installed.files with
  | nil => rfl
  | cons first rest ih =>
    obtain ⟨path, there⟩ := first
    cases there with
    | error error => simp only [List.filter_cons_of_pos, firstScript, ih]
    | ok present =>
      cases present with
      | true => simp only [List.filter_cons_of_pos, firstScript, ih]
      | false => rw [List.filter_cons_of_neg (by simp), firstScript_passes fun _ => rfl, ih]

/-- The search does not see the recorded files that are missing. -/
theorem resolve_withoutMissing (c : Compiler) (h : Host) :
    c.resolve h.withoutMissing = c.resolve h := by
  have hin (installed : Host.Package) : scriptIn h.withoutMissing installed.withoutMissing =
      scriptIn h installed := by
    funext name
    rw [scriptIn, scriptIn, firstScript_withoutMissing]
    rfl
  have hscript : script? c.build h.withoutMissing = script? c.build h := by
    rw [script?, script?, package?_withoutMissing]
    cases h.package? c.build.compilerPackage with
    | error fault => rfl
    | ok found =>
      cases found with
      | none => rfl
      | some installed => simp only [bind, Except.bind, Except.map, Option.map_some, hin]
  have hfind : find c.build h.withoutMissing = find c.build h := by
    rw [find, find, hscript]
    rfl
  rw [resolve, resolve, hfind]

/-! ## What the search comes to -/

structure Resolves (c : Compiler) (h : Host) (s : Session) (executable : String)
    (runner : List String) : Prop where
  returns : ∀ words, ((c.resolve h).runIn s).1 = .ok words ↔
    h.Prefers c.build.compilerPackage executable runner words
  raises : ∀ fault, ((c.resolve h).runIn s).1 = .error fault ↔
    h.Refuses c.build.compilerPackage executable fault ∨
      fault = .compile (.notInstalled executable c.build.compilerPackage.display) ∧
        h.NoScript c.build.compilerPackage executable ∧
        (∀ place, ¬ h.HasProgram executable place) ∧ ¬ h.HasRunner runner
  missing : (c.resolve h.withoutMissing).runIn s = (c.resolve h).runIn s
  quiet : s.Quiet ((c.resolve h).runIn s).2

/-- The search for the compiler on any host, for any package and settings with texts for the executable and
the runner. It returns the words of the first place that has the compiler: the script that the package
declares and of which a file is recorded and there, the program of that name, or the runner if its first
word is a program. It fails where none of the three has it, or where the look for the first place raises,
and there only; in the second case it gives that fault, even if another place has the compiler. Files that
are recorded and missing change nothing, whichever and however many they are. No program is started and no
file is changed. -/
theorem resolve_first_available (c : Compiler) (h : Host) (s : Session)
    (hexecutable : c.build.compilerExecutable = .str executable)
    (hrunner : c.build.packageRunner = .arr (runner.map .str)) :
    c.Resolves h s executable runner := by
  have hrun := resolve_run c h s
  rcases find_cases (h := h) hexecutable hrunner with
    ⟨origin, hfind, hprefers⟩ | ⟨cause, hfind, hrefuses⟩ | ⟨hfind, hscript, hprogram, hnone⟩
  · rw [hfind] at hrun
    refine ⟨fun words => ?_, fun fault => ?_, by rw [resolve_withoutMissing], ?_⟩
    · rw [hrun]
      refine ⟨fun hok => ?_,
        fun hwords => congrArg Except.ok (prefers_unique hexecutable hprefers hwords)⟩
      cases hok
      exact hprefers
    · rw [hrun]
      refine ⟨nofun, ?_⟩
      rintro (hrefuses | ⟨-, hscript, hprogram, hnone⟩)
      · exact absurd hrefuses (prefers_not_refused hexecutable hprefers)
      · exact absurd hprefers (not_prefers hscript hprogram hnone)
    · rw [hrun]
      exact Session.quiet_note _
  · rw [hfind] at hrun
    refine ⟨fun words => ?_, fun fault => ?_, by rw [resolve_withoutMissing], ?_⟩
    · rw [hrun]
      exact ⟨nofun, fun hprefers => absurd hrefuses (prefers_not_refused hexecutable hprefers)⟩
    · rw [hrun]
      constructor
      · intro herror
        cases herror
        exact .inl hrefuses
      · rintro (hfault | ⟨-, hscript, -⟩)
        · exact congrArg Except.error (refuses_unique hexecutable hrefuses hfault)
        · exact absurd hrefuses (hscript.quiet _)
    · rw [hrun]
      exact .refl s
  · rw [hfind] at hrun
    refine ⟨fun words => ?_, fun fault => ?_, by rw [resolve_withoutMissing], ?_⟩
    · rw [hrun]
      exact ⟨nofun, fun hprefers => absurd hprefers (not_prefers hscript hprogram hnone)⟩
    · rw [hrun]
      constructor
      · intro herror
        exact .inr ⟨(Except.error.inj herror).symm, hscript, hprogram, hnone⟩
      · rintro (hrefuses | ⟨rfl, -⟩)
        · exact absurd hrefuses (hscript.quiet _)
        · rfl
    · rw [hrun]
      exact .refl s

/-- A package that records its script twice, the first time where no file is. -/
def twiceRecorded : Host.Package where
  entryPoints := [("baml-cli", "console_scripts")]
  files := [(⟨"", ["bin", "baml-cli"]⟩, .ok false), (⟨"", ["Scripts", "baml-cli.exe"]⟩, .ok true)]

def unnamed : Raised := ⟨.ordinary, "ValueError", "A distribution name is required."⟩

/-- A host with that package, and with a program of the same name. -/
def twiceRecordedHost : Host where
  packages := [("baml-py", .ok twiceRecorded), ("", .error unnamed)]
  packageDirectory := ⟨"/", ["site"]⟩
  programs := [("baml-cli", "/usr/bin/baml-cli")]

/-- The second of the recorded files is taken, and without the name of a package the search ends. -/
theorem resolve_first_available_second :
    ((resolve ⟨{}, none⟩ twiceRecordedHost).runIn { files := {} }).1 =
        .ok ["/site/Scripts/baml-cli.exe"] ∧
      ((resolve ⟨{ compilerPackage := .str "" }, none⟩ twiceRecordedHost).runIn
        { files := {} }).1 = .error (.raised unnamed) := by
  have hresolves (build : Settings.Build) (hexecutable : build.compilerExecutable = .str "baml-cli")
      (hrunner : build.packageRunner =
        .arr (["uvx", "--from", "baml-py", "baml-cli"].map .str)) :
      Resolves ⟨build, none⟩ twiceRecordedHost { files := {} } "baml-cli"
        ["uvx", "--from", "baml-py", "baml-cli"] := resolve_first_available _ _ _ hexecutable hrunner
  have hfirst : Host.FirstScript "baml-cli" twiceRecorded.files
      ⟨"", ["Scripts", "baml-cli.exe"]⟩ (.ok true) :=
    ⟨[(⟨"", ["bin", "baml-cli"]⟩, .ok false)], [], rfl, ⟨by decide, by decide⟩, by simp⟩
  have hscript : twiceRecordedHost.HasScript (.str "baml-py") "baml-cli"
      ⟨"/", ["site", "Scripts", "baml-cli.exe"]⟩ := .recorded rfl List.mem_cons_self hfirst
  have hrefuses : twiceRecordedHost.Refuses (.str "") "baml-cli" (.raised unnamed) := .lookup rfl
  exact ⟨((hresolves {} rfl rfl).returns _).mpr (.script hscript),
    ((hresolves { compilerPackage := .str "" } rfl rfl).raises _).mpr (.inl hrefuses)⟩

def bareHost : Host where
  packages := [("", .error unnamed)]

/-- Where the name of a package is empty or no name, a compiler that is found by name is not reached, and
where there is none that is not what is reported. -/
theorem raising_lookup_ends_search :
    twiceRecordedHost.HasProgram "baml-cli" "/usr/bin/baml-cli" ∧
      ((resolve ⟨{ compilerPackage := .arr [.str "baml-py"] }, none⟩ twiceRecordedHost).runIn
        { files := {} }).1 = .error .wrongType ∧
      (∀ name place, ¬ bareHost.HasProgram name place) ∧
      ((resolve ⟨{ compilerPackage := .str "" }, none⟩ bareHost).runIn { files := {} }).1 =
        .error (.raised unnamed) := by
  refine ⟨⟨rfl, by decide⟩, rfl, fun name place hprogram => ?_, rfl⟩
  cases hprogram.1

end Compiler

end StructuredOutput
