import StructuredOutput.Proofs.Build.CompilerSearch
import StructuredOutput.Proofs.Text.Lines

/-! # The output of the compiler

What the compiler writes is read as text and passed on line by line before its exit status is looked at.
Reading turns all line ends into one and keeps everything else; lines put together again are the text that
was cut. So the standard output arrives as it was read, and of the error output nothing is missing but the
lines that are noise. -/
namespace StructuredOutput

open Files (Path)

/-- Whether a pattern, given as a text, is found in a line. -/
def Pattern.foundIn (pattern : String) (line : List Char) : Bool :=
  match Pattern.parse pattern with
  | .ok p => p.found line
  | .error _ => false

def Event.isOutput : Event → Bool
  | .out _ | .err _ => true
  | _ => false

/-! ## Reading output -/

namespace Host

/-- Characters read with one form of line end: a carriage return with a line feed behind it is dropped, one
without is a line feed instead, and all else is kept. -/
inductive ReadsAs : List Char → List Char → Prop
  | nil : ReadsAs [] []
  | keep {c : Char} {rest text : List Char} : c ≠ '\r' → ReadsAs rest text →
      ReadsAs (c :: rest) (c :: text)
  | drop {rest text : List Char} : rest.head? = some '\n' → ReadsAs rest text →
      ReadsAs ('\r' :: rest) text
  | turn {rest text : List Char} : rest.head? ≠ some '\n' → ReadsAs rest text →
      ReadsAs ('\r' :: rest) ('\n' :: text)

/-- What an output is as a text: its bytes are decoded, and the characters read with one form of line end.
A text that stands for an output has been read. -/
inductive Reads (h : Host) : Output → String → Prop
  | text (text : String) : Reads h (.text text) text
  | bytes {bytes : List UInt8} {decoded text : String} : h.decode bytes = some decoded →
      ReadsAs decoded.toList text.toList → Reads h (.bytes bytes) text

theorem readsAs_oneLineEnd (chars : List Char) : ReadsAs chars (oneLineEnd chars) := by
  fun_induction oneLineEnd chars with
  | case1 rest ih => exact .drop rfl (.keep (by decide) ih)
  | case2 rest hfeed ih =>
    refine .turn (fun hhead => ?_) ih
    obtain ⟨tail, rfl⟩ := List.head?_eq_some_iff.mp hhead
    exact hfeed tail rfl
  | case3 c rest _ hreturn ih => exact .keep (fun hc => hreturn hc) ih
  | case4 => exact .nil

theorem ReadsAs.unique {chars text text' : List Char} (h : ReadsAs chars text)
    (h' : ReadsAs chars text') : text = text' := by
  induction h generalizing text' with
  | nil =>
    cases h'
    rfl
  | keep hc _ ih =>
    cases h' with
    | keep _ h' => rw [ih h']
    | drop | turn => exact absurd rfl hc
  | drop hfeed _ ih =>
    cases h' with
    | keep hc => exact absurd rfl hc
    | drop _ h' => exact ih h'
    | turn hother => exact absurd hfeed hother
  | turn hother _ ih =>
    cases h' with
    | keep hc => exact absurd rfl hc
    | drop hfeed => exact absurd hfeed hother
    | turn _ h' => rw [ih h']

theorem Reads.read {h : Host} {output : Output} {text : String} (hreads : h.Reads output text) :
    h.read output = .ok text := by
  cases hreads with
  | text => rfl
  | bytes hdecode hline =>
    rw [Host.read]
    simp only [hdecode, (readsAs_oneLineEnd _).unique hline, String.ofList_toList]

end Host

namespace Compiler

variable {build : Settings.Build} {c : Compiler} {h : Host} {w : Workspace} {s : Session}
  {exit : Host.Exit} {out err : String} {origin : Origin}

/-! ## Lines that are passed on -/

/-- A line is noise if the pattern of the settings is found in it; no line is noise for an empty one. -/
theorem isNoise_ofSettings {noise : String} (hc : ofSettings build = .ok c)
    (hnoise : build.noisePattern = .str noise) :
    c.build = build ∧ ∀ line, c.isNoise line = (noise ≠ "" && Pattern.foundIn noise line) := by
  rw [ofSettings, hnoise, noiseOf, Json.truthy] at hc
  by_cases hempty : noise = ""
  · subst hempty
    cases hc
    exact ⟨rfl, fun _ => rfl⟩
  · simp only [hempty, ne_eq, not_false_eq_true, decide_true, if_true, Bool.true_and] at hc ⊢
    unfold Pattern.foundIn
    cases hparse : Pattern.parse noise with
    | error cause =>
      rw [hparse] at hc
      cases hc
    | ok pattern =>
      rw [hparse] at hc
      cases hc
      exact ⟨rfl, fun _ => rfl⟩

theorem passOn_cuts (dropNoise : Bool) {text : String} {pieces : List (List Char)}
    (h : Text.Cuts text.toList pieces) : c.passOn dropNoise text =
      String.ofList (pieces.filter fun line => !(dropNoise && c.isNoise line)).flatten := by
  rw [passOn, Text.cuts_iff.mp h]

/-- An output of which nothing is dropped arrives as it was. -/
theorem passOn_all (text : String) : c.passOn false text = text := by
  simp only [passOn, Bool.false_and, Bool.not_false, List.filter_true, Text.lines_flatten,
    String.ofList_toList]

/-! ## The run of the compiler -/

/-- A program that starts and can write its files comes to its exit. -/
theorem start_run {command : List String} {directory : Path} {files : FileTree}
    {loaded : List (Files.Place × Loaded)} {events : List Event} (hchild : h.child = .ok exit)
    (hwritten : (Host.writeFiles h.cwd directory exit.written files).1 = .ok ()) :
    (start h command directory).runIn ⟨files, loaded, events⟩ =
      (.ok exit, ⟨(Host.writeFiles h.cwd directory exit.written files).2, loaded,
        events ++ [.start command directory.text]⟩) := by
  rw [start, Work.runIn_bind, Work.runIn_record, hchild]
  simp only [Work.runIn_bind, Work.runIn_tryCatch, Work.runIn_onFiles, hwritten, Work.runIn_pure]

/-- What a compiler does that is found and starts, and whose outputs can be read: they are passed on last,
whatever its status is. -/
theorem compile_run (hfind : find c.build h = .ok origin) (hchild : h.child = .ok exit)
    (hwritten : (Host.writeFiles h.cwd w.path exit.written s.files).1 = .ok ())
    (hout : h.read exit.out = .ok out) (herr : h.read exit.err = .ok err) :
    ((c.compile h w).runIn s).1 = (if exit.status = 0 then .ok ()
      else .error (.compile (.failed exit.status w.path.text))) ∧
    ∃ before, (∀ event ∈ before, event.isOutput = false) ∧
      ((c.compile h w).runIn s).2.events = s.events ++ before ++ c.forwarded out err := by
  simp only [compile, Work.runIn_bind, resolve_run, hfind, Work.runIn_note, Work.runIn_record,
    start_run hchild hwritten, Work.runIn_lift, hout, herr]
  generalize origin.command ++ _ = command
  have hstatus (s : Session) : (if exit.status ≠ 0 then
      throw (.compile (.failed exit.status w.path.text)) else pure () : Work Unit).runIn s =
      (if exit.status = 0 then .ok () else .error (.compile (.failed exit.status w.path.text)), s) := by
    by_cases hzero : exit.status = 0
    · rw [if_pos hzero, if_neg (not_not_intro hzero)]
      rfl
    · rw [if_neg hzero, if_pos hzero]
      rfl
  rw [hstatus]
  refine ⟨rfl, [.note (origin.note c.build),
    .log .info .compiler ("Compiling BAML workspace " ++ w.key),
    .note ("Running " ++ Json.join " " command ++ " in " ++ w.path.text),
    .start command w.path.text], ?_, ?_⟩
  · simp only [List.forall_mem_cons, Event.isOutput, true_and]
    exact List.forall_mem_nil _
  · simp only [List.append_assoc, List.cons_append, List.nil_append]

/-! ## What is passed on -/

/-- What becomes of the outputs of a compiler that comes to an exit, when lines are dropped from the
error output: the events in front of them are no output, and a failure is reported behind them. -/
structure Forwards (drop : List Char → Bool) (c : Compiler) (h : Host) (w : Workspace) (s : Session)
    (exit : Host.Exit) (out err : String) : Prop where
  cut : ∃! pieces, Text.Cuts err.toList pieces
  passed : ∀ pieces, Text.Cuts err.toList pieces → ∃ before,
    (∀ event ∈ before, event.isOutput = false) ∧
    ((c.compile h w).runIn s).2.events = s.events ++ before ++
      [.out out, .err (String.ofList (pieces.filter fun line => !drop line).flatten)]
  returns : ((c.compile h w).runIn s).1 = .ok () ↔ exit.status = 0
  raises : ∀ fault, ((c.compile h w).runIn s).1 = .error fault ↔
    exit.status ≠ 0 ∧ fault = .compile (.failed exit.status w.path.text)

/-- Nothing of what a compiler writes is lost. For any settings with a text as the pattern of noise, any
host on which the compiler is found and starts, any outputs that can be decoded and any exit status, the
standard output is passed on as it is read, and of the error output, which has one cutting into lines, the
lines in which the pattern is found are dropped with their ends and the others are passed on in order; an
empty pattern drops none. A failure is reported after that, with the status, and only if that is not
zero. -/
theorem output_forwarded {noise : String} (hc : ofSettings build = .ok c)
    (hnoise : build.noisePattern = .str noise) (hfind : find build h = .ok origin)
    (hchild : h.child = .ok exit)
    (hwritten : (Host.writeFiles h.cwd w.path exit.written s.files).1 = .ok ())
    (hout : h.Reads exit.out out) (herr : h.Reads exit.err err) :
    c.Forwards (fun line => noise ≠ "" && Pattern.foundIn noise line) h w s exit out err := by
  obtain ⟨rfl, hline⟩ := isNoise_ofSettings hc hnoise
  obtain ⟨houtcome, before, hquiet, hevents⟩ :=
    compile_run (w := w) (s := s) hfind hchild hwritten hout.read herr.read
  refine ⟨⟨_, Text.lines_cuts _, fun pieces h => Text.cuts_iff.mp h⟩, fun pieces hcuts => ?_, ?_, ?_⟩
  · refine ⟨before, hquiet, ?_⟩
    rw [hevents, forwarded, passOn_all, passOn_cuts true hcuts]
    simp only [Bool.true_and, hline]
  · rw [houtcome]
    by_cases hzero : exit.status = 0
    · rw [if_pos hzero]
      exact ⟨fun _ => hzero, fun _ => rfl⟩
    · rw [if_neg hzero]
      exact ⟨nofun, fun h => absurd h hzero⟩
  · intro fault
    rw [houtcome]
    by_cases hzero : exit.status = 0
    · rw [if_pos hzero]
      exact ⟨nofun, fun h => absurd hzero h.1⟩
    · rw [if_neg hzero]
      exact ⟨fun h => ⟨hzero, (Except.error.inj h).symm⟩, fun h => congrArg Except.error h.2.symm⟩

def hostWith (exit : Host.Exit) : Host where
  programs := [("baml-cli", "/usr/bin/baml-cli")]
  child := .ok exit

/-- A failure whose error output has a line of noise in front, a line that ends in two characters, and one
without an end behind. -/
def noisyFailure : Host.Exit where
  status := 2
  out := .bytes (Digest.bytes "a\x0cb")
  err := .bytes (Digest.bytes "Resolved 3\nbad\r\nend")

theorem output_forwarded_failure :
    ∃ c, ofSettings { noisePattern := .str "Resolved" } = .ok c ∧
      ((c.compile (hostWith noisyFailure) (.under ⟨"/", ["tmp"]⟩ "k" {})).runIn { files := {} }).1 =
        .error (.compile (.failed 2 "/tmp/k")) ∧
      ∃ before, (∀ event ∈ before, event.isOutput = false) ∧
        ((c.compile (hostWith noisyFailure) (.under ⟨"/", ["tmp"]⟩ "k" {})).runIn
          { files := {} }).2.events = before ++ [.out "a\x0cb", .err "bad\nend"] := by
  obtain ⟨c, hc⟩ : ∃ c, ofSettings { noisePattern := .str "Resolved" } = .ok c := ⟨_, rfl⟩
  have hread (text : String) (hdecode : (hostWith noisyFailure).decode (Digest.bytes text) = some text) :
      (hostWith noisyFailure).Reads (.bytes (Digest.bytes text))
        (String.ofList (Host.oneLineEnd text.toList)) :=
    .bytes hdecode (by rw [String.toList_ofList]; exact Host.readsAs_oneLineEnd _)
  have herr : String.ofList (Host.oneLineEnd "Resolved 3\nbad\r\nend".toList) =
      "Resolved 3\nbad\nend" := by decide
  have hkept : String.ofList ((Text.lines "Resolved 3\nbad\nend".toList).filter fun line =>
      !("Resolved" ≠ "" && Pattern.foundIn "Resolved" line)).flatten = "bad\nend" := by decide
  have hforwards := output_forwarded (w := .under ⟨"/", ["tmp"]⟩ "k" {}) (s := { files := {} }) hc rfl
    (h := hostWith noisyFailure) rfl rfl rfl (hread "a\x0cb" (by decide +kernel))
    (herr ▸ hread "Resolved 3\nbad\r\nend" (by decide +kernel))
  refine ⟨c, hc, (hforwards.raises _).mpr ⟨by decide, rfl⟩, ?_⟩
  obtain ⟨before, hquiet, hevents⟩ := hforwards.passed _ (Text.lines_cuts _)
  rw [hkept] at hevents
  exact ⟨before, hquiet, hevents⟩

def quietSettings : Settings.Build := { noisePattern := .str "" }

/-- A run with a line of error output, and one whose output has a line that ends in two characters. -/
def oneLine : Host.Exit where
  err := .bytes [120, 10]

def twoCharacterEnd : Host.Exit where
  out := .bytes [97, 13, 10]

theorem quiet_run (exit : Host.Exit) (out err : String)
    (hwritten : (Host.writeFiles [] ⟨"/", ["tmp", "k"]⟩ exit.written {}).1 = .ok ())
    (hout : (hostWith exit).read exit.out = .ok out) (herr : (hostWith exit).read exit.err = .ok err) :
    ∃ before, (((compile ⟨quietSettings, none⟩ (hostWith exit) (.under ⟨"/", ["tmp"]⟩ "k" {})).runIn
      { files := {} }).2.events) = before ++ forwarded ⟨quietSettings, none⟩ out err := by
  obtain ⟨-, before, -, hrun⟩ := compile_run (c := ⟨quietSettings, none⟩) (h := hostWith exit)
    (w := .under ⟨"/", ["tmp"]⟩ "k" {}) (s := { files := {} }) rfl rfl hwritten hout herr
  exact ⟨before, hrun⟩

/-- The pattern without any characters is found in every line, and no line is dropped for it; and the two
characters that end a line arrive as one. -/
theorem empty_pattern_drops_nothing :
    ofSettings quietSettings = .ok ⟨quietSettings, none⟩ ∧ Pattern.foundIn "" ['x', '\n'] = true ∧
      ¬ Forwards (Pattern.foundIn "") ⟨quietSettings, none⟩ (hostWith oneLine)
        (.under ⟨"/", ["tmp"]⟩ "k" {}) { files := {} } oneLine "" "x\n" ∧
      (hostWith twoCharacterEnd).decode [97, 13, 10] = some "a\r\n" ∧
      ¬ Forwards (fun _ => false) ⟨quietSettings, none⟩ (hostWith twoCharacterEnd)
        (.under ⟨"/", ["tmp"]⟩ "k" {}) { files := {} } twoCharacterEnd "a\r\n" "" := by
  refine ⟨rfl, by decide, fun hforwards => ?_, by decide +kernel, fun hforwards => ?_⟩
  · obtain ⟨before, -, hevents⟩ := hforwards.passed _ (Text.lines_cuts _)
    obtain ⟨before', hrun⟩ := quiet_run oneLine "" "x\n" rfl rfl rfl
    have hdropped : String.ofList ((Text.lines "x\n".toList).filter fun line =>
        !Pattern.foundIn "" line).flatten = "" := by decide
    have hpassed : passOn ⟨quietSettings, none⟩ true "x\n" = "x\n" := by decide
    have hlast := congrArg List.getLast? (hevents.symm.trans hrun)
    rw [hdropped, forwarded, hpassed] at hlast
    simp at hlast
  · obtain ⟨before, -, hevents⟩ := hforwards.passed _ (Text.lines_cuts _)
    obtain ⟨before', hrun⟩ := quiet_run twoCharacterEnd "a\n" "" rfl rfl rfl
    have hpassed : passOn ⟨quietSettings, none⟩ false "a\n" = "a\n" := by decide
    have hlast := congrArg (fun events => events.dropLast.getLast?) (hevents.symm.trans hrun)
    rw [forwarded, hpassed] at hlast
    simp at hlast

end Compiler

end StructuredOutput
