import StructuredOutput.Host
import StructuredOutput.Proofs.Files.Writing
import StructuredOutput.Workspace

/-! # Where the files of a workspace stand

The digest of a text is one part of a path, so the workspaces of a cache stand side by side below
its root. Whether a workspace is built is read off three paths; once one of them leads to a file it
goes on doing so while the tree only grows. -/
namespace StructuredOutput

open Files (Path Place)

/-! ## Parts of paths -/

namespace Text

theorem splitAll_uncut {cut : Char → Bool} {text : List Char} (h : ∀ c ∈ text, cut c = false) :
    splitAll cut text = [text] := by
  induction text with
  | nil => rfl
  | cons c rest ih =>
    obtain ⟨hc, hrest⟩ := List.forall_mem_cons.mp h
    rw [splitAll, hc, ih hrest]
    rfl

end Text

namespace Files.Path

theorem ofString_part {text : String} (hslash : '/' ∉ text.toList) (hne : text ≠ "")
    (hdot : text ≠ ".") : ofString text = ⟨"", [text]⟩ := by
  have hroot : rootOf text.toList = "" := by
    unfold rootOf
    split
    · rename_i h; simp [h] at hslash
    · rename_i h; simp [h] at hslash
    · rename_i h; simp [h] at hslash
    · rfl
  have hpieces : Text.splitAll (· = '/') text.toList = [text.toList] :=
    Text.splitAll_uncut fun c hc => by
      rw [decide_eq_false_iff_not]
      rintro rfl
      exact hslash hc
  unfold ofString
  rw [hroot, hpieces]
  simp [hne, hdot]

theorem stem_plain {p : Path} (h : '.' ∉ p.name.toList) : p.stem = p.name := by
  have hnone : p.name.toList.reverse.findIdx? (· = '.') = none := by
    rw [List.findIdx?_eq_none_iff]
    intro c hc
    rw [decide_eq_false_iff_not]
    rintro rfl
    exact h (List.mem_reverse.mp hc)
  unfold stem stemLength
  rw [hnone]
  simp

/-- A path that leads to something below where it starts. -/
structure Inside (p : Path) : Prop where
  relative : p.root = ""
  down : ".." ∉ p.parts

theorem Inside.ext {p q : Path} (hp : p.Inside) (hq : q.Inside) (h : p.parts = q.parts) :
    p = q := by
  obtain ⟨root, parts⟩ := p
  obtain ⟨root', parts'⟩ := q
  obtain rfl : root = root' := hp.relative.trans hq.relative.symm
  obtain rfl : parts = parts' := h
  rfl

end Files.Path

namespace Files.Tree

theorem foldl_down {parts : List String} (h : ".." ∉ parts) (place : Place) :
    parts.foldl (fun place part => if part = ".." then place.dropLast else place ++ [part]) place =
      place ++ parts := by
  induction parts generalizing place with
  | nil => simp
  | cons part rest ih =>
    obtain ⟨hpart, hrest⟩ := not_or.mp (List.mem_cons.not.mp h)
    rw [List.foldl_cons, if_neg (Ne.symm hpart), ih hrest]
    simp

theorem plainPlace_join {cwd : Place} (p : Path) {q : Path} (h : q.Inside) :
    plainPlace cwd (p.join q) = plainPlace cwd p ++ q.parts := by
  unfold plainPlace Path.join
  rw [if_pos h.relative, List.foldl_append, foldl_down h.down]

end Files.Tree

namespace Digest

theorem hexDigit_isAlphanum (n : Nat) : (hexDigit n).isAlphanum = true := by
  have hall : ∀ m, m < 16 → (Nat.digitChar m).isAlphanum = true := by decide
  exact hall (n % 16) (Nat.mod_lt n (by decide))

theorem sha256_isAlphanum (text : String) : ∀ c ∈ (sha256 text).toList, c.isAlphanum = true := by
  intro c hc
  unfold sha256 at hc
  rw [String.toList_ofList] at hc
  obtain ⟨w, -, hw⟩ := List.mem_flatMap.mp hc
  obtain ⟨b, -, hb⟩ := List.mem_flatMap.mp hw
  rcases List.mem_pair.mp hb with rfl | rfl <;> exact hexDigit_isAlphanum _

theorem length_bigEndian (n value : Nat) : (bigEndian n value).length = n := by
  induction n with
  | zero => rfl
  | succ n ih =>
    show (_ :: bigEndian n value).length = n + 1
    rw [List.length_cons, ih]

theorem length_hexWord (w : UInt32) : (hexWord w).length = 8 := by
  unfold hexWord
  rw [List.length_flatMap]
  simp only [List.length_cons, List.length_nil, List.map_const', length_bigEndian]
  rfl

theorem sha256_ne_empty (text : String) : sha256 text ≠ "" := by
  intro h
  have hlist := congrArg (fun digest => digest.toList.length) h
  unfold sha256 at hlist
  dsimp only at hlist
  rw [String.toList_ofList, List.length_flatMap, State.words] at hlist
  simp [length_hexWord] at hlist

/-- The digest of a text is one part of a path. -/
theorem ofString_sha256 (text : String) :
    Path.ofString (sha256 text) = ⟨"", [sha256 text]⟩ := by
  refine Path.ofString_part (fun h => ?_) (sha256_ne_empty text) fun h => ?_
  · exact absurd (sha256_isAlphanum text _ h) (by decide)
  · exact absurd (sha256_isAlphanum text '.' (by rw [h]; decide)) (by decide)

theorem sha256_inside (text : String) : (Path.ofString (sha256 text)).Inside := by
  rw [ofString_sha256]
  refine ⟨rfl, fun h => ?_⟩
  have hup : sha256 text = ".." := (List.mem_singleton.mp h).symm
  exact absurd (sha256_isAlphanum text '.' (by rw [hup]; decide)) (by decide)

theorem toList_loop (data : ByteArray) (index : Nat) (found : List UInt8) :
    ByteArray.toList.loop data index found = found.reverse ++ data.data.toList.drop index := by
  induction hn : data.size - index generalizing index found with
  | zero =>
    have hle : data.size ≤ index := Nat.sub_eq_zero_iff_le.mp hn
    rw [ByteArray.toList.loop, if_neg (by omega), List.drop_eq_nil_of_le hle, List.append_nil]
  | succ n ih =>
    have hlt : index < data.size := by omega
    have hget : data.get! index = data.data.toList[index] := getElem!_pos data.data index hlt
    rw [ByteArray.toList.loop, if_pos hlt, ih _ _ (by omega), List.drop_eq_getElem_cons hlt, hget,
      List.reverse_cons, List.append_assoc, List.singleton_append]

def bytes (text : String) : List UInt8 := text.toUTF8.data.toList

/-- The digest of a text, from the list of its bytes. -/
theorem sha256_bytes (text : String) :
    sha256 text = String.ofList ((absorb ((toWords (pad (bytes text))).length / 16) State.initial
      (toWords (pad (bytes text)))).words.flatMap hexWord) := by
  have hbytes : text.toUTF8.toList = bytes text := by
    rw [ByteArray.toList, toList_loop, List.drop_zero, List.reverse_nil, List.nil_append, bytes]
  rw [sha256, hbytes]

theorem bytes_append (a b : String) : bytes (a ++ b) = bytes a ++ bytes b := by
  rw [bytes, String.toUTF8, String.toByteArray_append, ByteArray.toList_data_append]
  rfl

theorem bytes_join (texts : List String) : bytes (String.join texts) = texts.flatMap bytes := by
  have hfold (start : String) : bytes (texts.foldl (· ++ ·) start) =
      bytes start ++ texts.flatMap bytes := by
    induction texts generalizing start with
    | nil => simp
    | cons text rest ih =>
      rw [List.foldl_cons, ih, bytes_append, List.flatMap_cons, List.append_assoc]
  exact hfold ""

end Digest

/-! ## The forms of a client -/

namespace Workspace

/-- Whether some forms of a client are looked for up to this one, and none in front of it is a
file. -/
def Reaches (w : Workspace) (files : FileTree) (cwd : Place) (form : Path × Bool) : Prop :=
  ∃ skipped rest, w.candidates = .ok (skipped ++ form :: rest) ∧
    ∀ other ∈ skipped, files.isFile cwd other.1 = .ok false

/-- Whether the forms of a client can be looked for, as far as that comes to them. -/
structure Searchable (w : Workspace) (files : FileTree) (cwd : Place) : Prop where
  formed : ∃ forms, w.candidates = .ok forms
  found : ∀ form, w.Reaches files cwd form → ∃ there, files.isFile cwd form.1 = .ok there

variable {w : Workspace} {files files' : FileTree} {cwd : Place}

theorem under_path (root : Path) (key : String) (build : Settings.Build) :
    (under root key build).path = root.join (.ofString key) := rfl

theorem plainPlace_under (root : Path) (text : String) (build : Settings.Build) :
    Files.Tree.plainPlace cwd (under root (Digest.sha256 text) build).path =
      Files.Tree.plainPlace cwd root ++ [Digest.sha256 text] := by
  rw [under, Files.Tree.plainPlace_join root (Digest.sha256_inside text), Digest.ofString_sha256]

theorem firstFile_cases (files : FileTree) (cwd : Place) (forms : List (Path × Bool)) :
    (firstFile files cwd forms = .ok none ∧ ∀ form ∈ forms, files.isFile cwd form.1 = .ok false) ∨
      ∃ skipped form rest, forms = skipped ++ form :: rest ∧
        (∀ other ∈ skipped, files.isFile cwd other.1 = .ok false) ∧
        (files.isFile cwd form.1 = .ok true ∧ firstFile files cwd forms = .ok (some form) ∨
          files.isFile cwd form.1 = .error (.file .nameTooLong) ∧
            firstFile files cwd forms = .error (.file .nameTooLong)) := by
  induction forms with
  | nil => exact .inl ⟨rfl, by simp⟩
  | cons first rest ih =>
    simp only [firstFile, bind, Except.bind]
    cases hfile : files.isFile cwd first.1 with
    | error fault =>
      cases Files.Tree.isFile_error hfile
      exact .inr ⟨[], first, rest, rfl, by simp, .inr ⟨hfile, rfl⟩⟩
    | ok found =>
      cases found with
      | true => exact .inr ⟨[], first, rest, rfl, by simp, .inl ⟨hfile, rfl⟩⟩
      | false =>
        rcases ih with ⟨hnone, hall⟩ | ⟨skipped, form, others, rfl, hskipped, hends⟩
        · exact .inl ⟨hnone, List.forall_mem_cons.mpr ⟨hfile, hall⟩⟩
        · exact .inr ⟨first :: skipped, form, others, rfl,
            List.forall_mem_cons.mpr ⟨hfile, hskipped⟩, hends⟩

theorem firstFile_some {forms : List (Path × Bool)} {form : Path × Bool}
    (h : firstFile files cwd forms = .ok (some form)) :
    form ∈ forms ∧ files.isFile cwd form.1 = .ok true := by
  rcases firstFile_cases files cwd forms with
    ⟨hnone, -⟩ | ⟨skipped, first, rest, rfl, -, ⟨hfile, hsome⟩ | ⟨-, hlong⟩⟩
  · cases h.symm.trans hnone
  · cases h.symm.trans hsome
    exact ⟨by simp, hfile⟩
  · cases h.symm.trans hlong

theorem firstFile_none {forms : List (Path × Bool)}
    (h : firstFile files cwd forms = .ok none) :
    ∀ form ∈ forms, files.isFile cwd form.1 = .ok false := by
  rcases firstFile_cases files cwd forms with
    ⟨-, hall⟩ | ⟨skipped, first, rest, -, -, ⟨-, hsome⟩ | ⟨-, hlong⟩⟩
  · exact hall
  · cases h.symm.trans hsome
  · cases h.symm.trans hlong

/-- A form that is found goes on being found, or one before it is, while a tree grows. -/
theorem firstFile_adds {written : Place → Content → Prop} {forms : List (Path × Bool)}
    {form : Path × Bool}
    (hshort : ∀ form ∈ forms, ∀ part ∈ form.1.parts, part.utf8ByteSize ≤ Path.maxPart)
    (ha : Files.Tree.Adds written files files')
    (h : firstFile files cwd forms = .ok (some form)) :
    ∃ form', firstFile files' cwd forms = .ok (some form') := by
  induction forms with
  | nil => cases h
  | cons first rest ih =>
    obtain ⟨hfirst, hrest⟩ := List.forall_mem_cons.mp hshort
    simp only [firstFile, bind, Except.bind] at h ⊢
    split at h
    · cases h
    · rename_i found hfound
      cases found with
      | true =>
        rw [ha.isFile hfound]
        exact ⟨first, rfl⟩
      | false =>
        obtain ⟨b, hb⟩ := Files.Tree.isFile_short hfirst hfound files'
        rw [hb]
        cases b with
        | true => exact ⟨first, rfl⟩
        | false => exact ih hrest h

theorem artifact?_eq : w.artifact? files cwd =
    match w.candidates with
    | .ok forms => firstFile files cwd forms
    | .error fault => .error fault := by
  unfold artifact?
  cases w.candidates <;> rfl

/-- The forms of a client: two files in its directory, and the module beside the directory, which is
named by it without a suffix. -/
theorem candidates_ok {forms : List (Path × Bool)} (h : w.candidates = .ok forms) :
    ∃ dir, w.clientDir = .ok dir ∧ forms =
      [(dir.push "__init__.py", true), (dir.push "__init__.pyc", true),
        (dir.parent.push (dir.stem ++ ".py"), false)] := by
  unfold candidates at h
  cases hdir : w.clientDir with
  | error fault =>
    rw [hdir] at h
    cases h
  | ok dir =>
    rw [hdir] at h
    simp only [Path.withSuffix, bind, Except.bind, pure, Except.pure] at h
    split at h
    · cases h
    · rename_i hmodule
      split at hmodule <;> cases hmodule
      cases h
      exact ⟨dir, rfl, rfl⟩

theorem isBuilt_true :
    w.isBuilt files cwd = .ok true ↔ ∃ form, w.artifact? files cwd = .ok (some form) := by
  unfold isBuilt
  cases w.artifact? files cwd with
  | error fault => simp [bind, Except.bind]
  | ok found => cases found <;> simp [bind, Except.bind, pure, Except.pure]

theorem firstFile_reached {skipped rest : List (Path × Bool)} {form : Path × Bool}
    (hskipped : ∀ other ∈ skipped, files.isFile cwd other.1 = .ok false)
    (hfile : files.isFile cwd form.1 = .ok true) :
    firstFile files cwd (skipped ++ form :: rest) = .ok (some form) := by
  induction skipped with
  | nil => simp only [List.nil_append, firstFile, hfile, bind, Except.bind, pure, Except.pure, if_true]
  | cons other others ih =>
    obtain ⟨hother, hothers⟩ := List.forall_mem_cons.mp hskipped
    simp only [List.cons_append, firstFile, hother, bind, Except.bind, Bool.false_eq_true, if_false]
    exact ih hothers

theorem Reaches.isBuilt {form : Path × Bool} (hreaches : w.Reaches files cwd form)
    (hfile : files.isFile cwd form.1 = .ok true) : w.isBuilt files cwd = .ok true := by
  obtain ⟨skipped, rest, hforms, hskipped⟩ := hreaches
  refine isBuilt_true.mpr ⟨form, ?_⟩
  rw [artifact?_eq, hforms]
  exact firstFile_reached hskipped hfile

theorem artifact?_some {form : Path × Bool} (h : w.artifact? files cwd = .ok (some form)) :
    ∃ forms, w.candidates = .ok forms ∧ firstFile files cwd forms = .ok (some form) := by
  simp only [artifact?, bind, Except.bind] at h
  split at h
  · cases h
  · rename_i forms hforms
    exact ⟨forms, hforms, h⟩

/-- Where nothing is built no form is a file. -/
theorem isBuilt_false {forms : List (Path × Bool)} (hforms : w.candidates = .ok forms)
    (h : w.isBuilt files cwd = .ok false) :
    ∀ form ∈ forms, files.isFile cwd form.1 = .ok false := by
  simp only [isBuilt, artifact?, hforms, bind, Except.bind] at h
  split at h
  · cases h
  · rename_i found hfound
    cases found with
    | none => exact firstFile_none hfound
    | some form => cases h

end Workspace

/-! ## The standard layout -/

structure Settings.Build.Standard (s : Settings.Build) : Prop where
  sourceDir : s.sourceDir = .str "baml_src"
  sourceFile : s.sourceFile = .str "schema.baml"
  clientDir : s.clientDir = .str "baml_client"

namespace Workspace

variable {w : Workspace} {files files' : FileTree} {cwd : Place}

theorem sourcePath_standard (h : w.build.Standard) :
    w.sourcePath = .ok (w.path.join ⟨"", ["baml_src", "schema.baml"]⟩) := by
  have hdir : Path.ofString "baml_src" = ⟨"", ["baml_src"]⟩ :=
    Path.ofString_part (by decide) (by decide) (by decide)
  have hfile : Path.ofString "schema.baml" = ⟨"", ["schema.baml"]⟩ :=
    Path.ofString_part (by decide) (by decide) (by decide)
  simp only [sourcePath, sourceDir, h.sourceDir, h.sourceFile, Path.ofJson, hdir, hfile, bind,
    Except.bind, pure, Except.pure, Path.join, if_true, List.append_assoc, List.cons_append,
    List.nil_append]

theorem candidates_standard (h : w.build.Standard) :
    w.candidates = .ok
      [(w.path.join ⟨"", ["baml_client", "__init__.py"]⟩, true),
        (w.path.join ⟨"", ["baml_client", "__init__.pyc"]⟩, true),
        (w.path.join ⟨"", ["baml_client.py"]⟩, false)] := by
  have hdir : Path.ofString "baml_client" = ⟨"", ["baml_client"]⟩ :=
    Path.ofString_part (by decide) (by decide) (by decide)
  have hmodule : String.ofList ("baml_client".toList.take (Path.stemLength "baml_client".toList)) ++
      ".py" = "baml_client.py" := by decide
  have hlast : (w.path.parts ++ ["baml_client"]).getLast?.getD "" = "baml_client" := by simp
  have hempty : (w.path.parts ++ ["baml_client"]).isEmpty = false := by simp
  simp only [candidates, clientDir, h.clientDir, Path.ofJson, hdir, bind, Except.bind, pure,
    Except.pure, Path.join, if_true, Path.withSuffix, Path.push, Path.parent, Path.stem, Path.name,
    hlast, hempty, hmodule, Bool.false_eq_true, if_false, List.dropLast_concat, List.append_assoc,
    List.cons_append, List.nil_append]

/-- A built workspace in the standard layout stays built while the tree grows. -/
theorem isBuilt_adds {written : Place → Content → Prop} (h : w.build.Standard)
    (ha : Files.Tree.Adds written files files') (hb : w.isBuilt files cwd = .ok true) :
    w.isBuilt files' cwd = .ok true := by
  obtain ⟨form, hform⟩ := isBuilt_true.mp hb
  obtain ⟨forms, hforms, hfirst⟩ := artifact?_some hform
  rw [candidates_standard h, Except.ok.injEq] at hforms
  subst hforms
  -- the form that is there can be followed, so the path of the workspace has short parts
  obtain ⟨hmem, hfile⟩ := firstFile_some hfirst
  obtain ⟨place, content, hl, -⟩ := Files.Tree.isFile_true.mp hfile
  have hparts := (Files.Tree.locate_ok hl).2.1
  have hroot : ∀ part ∈ w.path.parts, part.utf8ByteSize ≤ Path.maxPart := by
    intro part hpart
    refine hparts part ?_
    simp only [List.mem_cons, List.not_mem_nil, or_false] at hmem
    rcases hmem with rfl | rfl | rfl <;> simp [Path.join, hpart]
  have hlast : ∀ part ∈ ["baml_client", "__init__.py", "__init__.pyc", "baml_client.py"],
      part.utf8ByteSize ≤ Path.maxPart := by decide
  refine isBuilt_true.mpr ?_
  simp only [artifact?, candidates_standard h, bind, Except.bind]
  refine firstFile_adds (fun form hform part hpart => ?_) ha hfirst
  simp only [List.mem_cons, List.not_mem_nil, or_false] at hform
  rcases hform with rfl | rfl | rfl <;>
    · simp only [Path.join, if_true, List.mem_append] at hpart
      rcases hpart with hpart | hpart
      · exact hroot part hpart
      · refine hlast part ?_
        simp only [List.mem_cons, List.not_mem_nil, or_false] at hpart ⊢
        tauto

end Workspace

/-! ## What a started program leaves -/

namespace Host

variable {cwd : Place} {directory : Path} {files files' : FileTree}

theorem writeFile_adds {file : Path × Content} {outcome : Except Fault Unit} (h : files.Closed)
    (hc : files.entry? cwd = some .directory)
    (hw : writeFile cwd directory files file = (outcome, files')) :
    Files.Tree.Adds (files'.At cwd (directory.join file.1) file.2) files files' := by
  unfold writeFile at hw
  dsimp only at hw
  split at hw
  · rename_i hensure
    cases hw
    exact Files.Tree.ensure_adds h hc hensure
  · rename_i files₁ hensure
    have hadds : Files.Tree.Adds (files'.At cwd (directory.join file.1) file.2) files files₁ :=
      Files.Tree.ensure_adds h hc hensure
    split at hw
    · rename_i hwrite
      cases hw
      exact hadds.trans (Files.Tree.write_adds hadds.closed (hadds.directories cwd hc) hwrite)
    · cases hw
      exact hadds

/-- The files that a program writes add at most their contents, each where its path leads below the
directory where the program was started. -/
theorem writeFiles_adds {written : List (Path × Content)} {outcome : Except Fault Unit}
    (h : files.Closed) (hc : files.entry? cwd = some .directory)
    (hw : writeFiles cwd directory written files = (outcome, files')) :
    Files.Tree.Adds
      (fun q c => ∃ file ∈ written, files'.At cwd (directory.join file.1) file.2 q c)
      files files' := by
  induction written generalizing files with
  | nil =>
    cases hw
    exact .refl h
  | cons file rest ih =>
    unfold writeFiles at hw
    split at hw
    · rename_i hone
      cases hw
      exact (writeFile_adds h hc hone).mono fun q c hq => ⟨file, List.mem_cons_self, hq⟩
    · rename_i files₁ hone
      have hfirst := writeFile_adds h hc hone
      have hrest := ih hfirst.closed (hfirst.directories cwd hc) hw
      refine (hfirst.mono fun q c hq => ?_).trans (hrest.mono fun q c hq => ?_)
      · exact ⟨file, List.mem_cons_self, hq.keeps hrest.directories⟩
      · obtain ⟨other, hmem, hat⟩ := hq
        exact ⟨other, List.mem_cons_of_mem _ hmem, hat⟩

end Host

end StructuredOutput
