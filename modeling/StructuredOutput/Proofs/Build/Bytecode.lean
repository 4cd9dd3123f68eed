import StructuredOutput.Proofs.Build.Workspaces

/-! # Bytecode

What an import leaves are files of bytecode, as far as they can be written. The name of such a file
ends like that of a compiled client but has one more dot in it, so no form of a client and no source is
ever bytecode, whatever a client imports on the way. -/
namespace StructuredOutput

open Files (Path Place)
open Files.Tree (Adds plainPlace)

theorem Files.Tree.locate_push_last {α : Type} {t : Files.Tree α} {cwd q : Place} {p : Path} {part : String}
    (hup : part ≠ "..") (hl : t.locate cwd (p.push part) = .ok q) : q.getLast? = some part := by
  rw [(locate_ok hl).1, plainPlace_push _ _ hup]
  simp

namespace Host

variable {cwd q : Place} {files : FileTree} {b : Bytecode} {content : Content}

/-- Whether a content is that of bytecode which stands where it belongs. -/
def BytecodeAt (files : FileTree) (cwd : Place) (bytecode : List Bytecode) (q : Place)
    (content : Content) : Prop :=
  ∃ b ∈ bytecode, files.At cwd b.path b.code q content

/-- Bytecode that is left adds at most its files. -/
theorem leaveBytecode_adds (bytecode : List Bytecode) (h : files.Closed)
    (hc : files.entry? cwd = some .directory) :
    Adds (BytecodeAt (leaveBytecode cwd bytecode files) cwd bytecode) files
      (leaveBytecode cwd bytecode files) := by
  induction bytecode generalizing files with
  | nil => exact .refl h
  | cons b rest ih =>
    have htarget : b.directory.join ⟨"", [b.name]⟩ = b.path := if_pos rfl
    have hcons : leaveBytecode cwd (b :: rest) files =
        leaveBytecode cwd rest (writeFile cwd b.directory files (⟨"", [b.name]⟩, b.code)).2 := rfl
    rw [hcons]
    obtain ⟨outcome, files₁, hwrite⟩ : ∃ outcome files₁,
        writeFile cwd b.directory files (⟨"", [b.name]⟩, b.code) = (outcome, files₁) := ⟨_, _, rfl⟩
    have hfirst := writeFile_adds h hc hwrite
    rw [hwrite]
    have hrest := ih hfirst.closed (hfirst.directories cwd hc)
    rw [htarget] at hfirst
    refine (hfirst.mono fun q c hq => ?_).trans (hrest.mono fun q c hq => ?_)
    · exact ⟨b, List.mem_cons_self, hq.keeps hrest.directories⟩
    · obtain ⟨other, hmem, hat⟩ := hq
      exact ⟨other, List.mem_cons_of_mem b hmem, hat⟩

/-! ## Where bytecode stands -/

namespace Bytecode

theorem name_last (b : Bytecode) : b.name.toList.getLast? = some 'c' := by
  have hend : ".pyc".toList.getLast? = some 'c' := by decide
  rw [name, String.toList_append, List.getLast?_append, hend, Option.some_or]

theorem name_ne {name : String} (h : name.toList.getLast? ≠ some 'c') : b.name ≠ name := by
  rintro rfl
  exact h b.name_last

/-- A name with one dot only is not that of bytecode. -/
theorem name_ne_compiled {stem : String} (h : '.' ∉ stem.toList) : b.name ≠ stem ++ ".pyc" := by
  intro he
  rw [name] at he
  have hstem := (String.append_left_inj ".pyc").mp he
  refine h ?_
  rw [← hstem, String.toList_append, String.toList_append]
  simp

theorem locate_path (hl : files.locate cwd b.path = .ok q) : q.getLast? = some b.name :=
  Files.Tree.locate_push_last (name_ne (by decide)) hl

end Bytecode

/-- Whether bytecode can stand at a place, by the last name there. -/
def Bytecoded (q : Place) : Prop := ∃ b : Bytecode, q.getLast? = some b.name

theorem BytecodeAt.bytecoded {bytecode : List Bytecode}
    (h : BytecodeAt files cwd bytecode q content) : Bytecoded q := by
  obtain ⟨b, -, hl, -⟩ := h
  exact ⟨b, Bytecode.locate_path hl⟩

end Host

namespace Workspace

/-- No form of a client is bytecode. -/
theorem candidates_ne_bytecode {w : Workspace} {forms : List (Path × Bool)} {form : Path × Bool}
    {files : FileTree} {cwd q : Place} (hforms : w.candidates = .ok forms) (hform : form ∈ forms)
    (hl : files.locate cwd form.1 = .ok q) : ¬ Host.Bytecoded q := by
  rintro ⟨b, hb⟩
  have hname {dir : Path} {part : String} (hpath : form.1 = dir.push part) (hup : part ≠ "..") :
      b.name = part := by
    rw [hpath] at hl
    exact Option.some.inj (hb.symm.trans (Files.Tree.locate_push_last hup hl))
  have hmodule (stem : String) : (stem ++ ".py").toList.getLast? = some 'y' := by
    have hend : ".py".toList.getLast? = some 'y' := by decide
    rw [String.toList_append, List.getLast?_append, hend, Option.some_or]
  obtain ⟨dir, -, rfl⟩ := candidates_ok hforms
  simp only [List.mem_cons, List.not_mem_nil, or_false] at hform
  rcases hform with rfl | rfl | rfl
  · exact Host.Bytecode.name_ne (by decide) (hname rfl (by decide))
  · exact @Host.Bytecode.name_ne_compiled b "__init__" (by decide) (hname rfl (by decide))
  · refine Host.Bytecode.name_ne (by rw [hmodule]; decide) (hname rfl ?_)
    intro hup
    have hlast := hmodule dir.stem
    rw [hup] at hlast
    exact absurd hlast (by decide)

end Workspace

end StructuredOutput
