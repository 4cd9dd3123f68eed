import Mathlib.Data.List.Permutation
import StructuredOutput.Proofs.Agreement.NullTypes
import StructuredOutput.Proofs.Agreement.ObjectsMet
import StructuredOutput.Proofs.Hint.Alternatives

/-! # The hint and the types agree on null

For a document, the description offers null for a value exactly where its type has null as an
alternative: at the root, and for each property of an object that is both declared and described. Null
literals are left out of account: a literal is described as it is, but typed by its primitive, and the
primitive of null is taken to be a string. -/
namespace StructuredOutput

open Baml (Alternative Declarations NameHint Reads tokens)
open Baml.Translation (FieldFor NullKnown NullTyped Returns knowsObjects_null objectClasses
  objectClasses_filled objectClasses_thorough within_null within_quotes)
open Hint (OffersNull OffersPlainNull Part Shape Shows Whole)
open Schema (Graph Node Parsed)

/-- A shape inside a whole description offers null, other than as a literal, exactly if null is one of
the alternatives of the type. -/
def NullAgrees (d : Declarations) (type : String) (whole s : Shape) : Prop :=
  ∃ us, Reads .whole (tokens type) us ∧ (∀ ws, Reads .whole (tokens type) ws → ws = us) ∧
    (OffersPlainNull whole s ↔ d.HasNull us)

variable {g : Graph} {d : Declarations} {whole : Shape}

theorem nullAgrees_of_shows (hg : g.AllParsed) (hw : Whole g whole) (hd : d.Quoted) {node : Node}
    {type : String} {s : Shape} (hp : Parsed node) (hs : Shows g node.shown s) (hpart : Part s whole)
    (ht : NullTyped g node type) : NullAgrees d type whole s := by
  obtain ⟨us, hspells, hu⟩ := ht hp.textual
  refine ⟨us, hspells.reads, fun ws hws => hws.unique hspells.reads, ?_⟩
  rw [hd.hasNull, hu, Hint.offersPlainNull_iff]
  constructor
  · exact fun ho => Hint.admits_of_shown node (Hint.admits_of_offers hw ho rfl hs)
  · exact fun h => Hint.offers_of_admits hw hg h hp hs hpart

/-- The fields of a class and those shown for the same object agree one by one. -/
theorem nullAgrees_of_fields (hg : g.AllParsed) (hw : Whole g whole) (hd : d.Quoted)
    {fields : List Baml.Field} {members : List (String × Node)}
    (hf : List.Forall₂ (FieldFor (NullTyped g)) fields members)
    {shown : List (String × Bool × Shape)} (hpart : Part (.object members shown) whole)
    {node : Node} (hs : Shows g node (.object members shown)) (hp : Parsed node) :
    List.Forall₂ (fun field f => field.source = f.1 ∧ NullAgrees d field.type whole f.2.2)
      fields shown := by
  cases hs with
  | object shape hall =>
    rw [List.forall₂_map_right_iff]
    rw [List.forall₂_iff_zip] at hf ⊢
    refine ⟨hf.1, fun {field m} hz => ?_⟩
    have hm : m ∈ members := (List.of_mem_zip hz).2
    have hfield := hf.2 hz
    refine ⟨hfield.source, ?_⟩
    have hpm : Parsed m.2 := by
      cases hp with
      | object hp => exact hp m hm
    have hmem : (m.1, Hint.isOptional m.2, shape m.2) ∈
        members.map fun m => (m.1, Hint.isOptional m.2, shape m.2) := List.mem_map_of_mem hm
    exact nullAgrees_of_shows hg hw hd hpm (hall m hm) (Part.trans (.field hmem .self) hpart)
      hfield.type

/-- When the root of a document is translated from nothing declared and described, the description of the
root and its type agree on null. Every object that the description shows has a class, and the fields of
the class agree on null with those that the description shows. -/
theorem null_agrees {number : Nat} {schema : Json} {root : Node} {g : Graph}
    (hread : Schema.Document.read number schema = .ok (root, g)) {s : Settings.Translator}
    {hint : NameHint} {expr : String} {d : Declarations} {value : Json}
    (hr : Returns (Baml.translate g s root hint) {} expr d)
    (hd : Hint.describe g root = .ok value) :
    (Hint.shape g root).render = .ok value ∧
    NullAgrees d expr (Hint.shape g root) (Hint.shape g root) ∧
    (objectClasses g s root hint {}).map (·.name) = d.classNames ∧
    (∀ members shown, Part (.object members shown) (Hint.shape g root) →
      ∃ o ∈ objectClasses g s root hint {}, o.members = members) ∧
    ∀ o ∈ objectClasses g s root hint {}, ∃ c, d.class? o.name = some c ∧
      ∀ shown, Part (.object o.members shown) (Hint.shape g root) →
        List.Forall₂
          (fun field f => field.source = f.1 ∧ NullAgrees d field.type (Hint.shape g root) f.2.2)
          c.fields shown := by
  obtain ⟨hroot, hg⟩ := Schema.Document.read_parsed hread
  have hrender : (Hint.shape g root).render = .ok value := (Hint.describe_eq g root).symm.trans hd
  have hw := Hint.whole_of_renders ⟨value, hrender⟩
  have hshows := Hint.within_shows g _ [] root ⟨value, hrender⟩
  have hempty : Declarations.Quoted {} := fun _ hm => nomatch hm
  have hnotes : Baml.Translation.Notes (NullKnown g) 0 {} := ⟨fun _ _ hx => (nomatch hx), le_rfl⟩
  have hrun := Baml.Translation.returns_translate.mp hr
  have hquoted : d.Quoted := within_quotes hg.textual s _ _ _ _ _ _ hroot.textual hempty hrun
  obtain ⟨-, htyped⟩ := within_null hg.textual s _ _ _ _ _ _ hnotes hrun
  obtain ⟨hnames, hfilled⟩ := objectClasses_filled (within_null hg.textual s) knowsObjects_null hr
  refine ⟨hrender, nullAgrees_of_shows hg hw hquoted hroot hshows .self htyped, hnames,
    fun _ _ hp => objectClasses_thorough hr ⟨value, hrender⟩ hp, fun o hm => ?_⟩
  obtain ⟨c, hc, hf⟩ := hfilled o hm
  refine ⟨c, hc, fun shown hp => ?_⟩
  obtain ⟨node, hs, hparsed⟩ :=
    Shows.part (Hint.inherited_parsed hg) hp hshows (Hint.parsed_shown hroot)
  exact nullAgrees_of_fields hg hw hquoted hf hp hs hparsed

/-- A chain of objects, the last of which has null for the next one, with a note that may be null. -/
def chainSchema : Json :=
  .obj [("$ref", .str "#/$defs/Link"), ("$defs", .obj [
    ("Link", .obj [("type", .str "object"), ("properties", .obj [
      ("next", .obj [("anyOf", .arr [.obj [("$ref", .str "#/$defs/Link")],
        .obj [("type", .str "null")]])]),
      ("note", .obj [("type", .arr [.str "string", .str "null"])]),
      ("size", .obj [("type", .str "integer")])])])])]

def chainRoot : Node := .lazy .null (.str "Link") ⟨0, "#/$defs/Link"⟩

def chainTable : Graph :=
  ⟨Schema.Document.refStarts.map fun start => (⟨0, start ++ "Link"⟩, .ok (.object .null
    [("next", .wrapper .null .optional (.wrapper .null .nullable chainRoot)),
      ("note", .wrapper .null .optional (.wrapper .null .nullable (.primitive .null (.str "string")))),
      ("size", .wrapper .null .optional (.primitive .null (.str "integer")))]))⟩

/-- A link and its class agree on null: the next link and the note may be null, the size may not. -/
theorem null_agrees_chain :
    ∃ (d : Declarations) (c : Baml.Class) (shown : List (String × Bool × Shape)),
      Schema.Document.read 0 chainSchema = .ok (chainRoot, chainTable) ∧
      Returns (Baml.translate chainTable {} chainRoot (.text "Root")) {} "Link" d ∧
      Hint.describe chainTable chainRoot =
        .ok (.str "\x7b next?: Link | null, note?: string | null, size?: number \x7d") ∧
      NullAgrees d "Link" (Hint.shape chainTable chainRoot) (Hint.shape chainTable chainRoot) ∧
      d.class? "Link" = some c ∧ c.fields.map (·.type) = ["Link | null", "string | null", "int"] ∧
      List.Forall₂ (fun field f => field.source = f.1 ∧
        NullAgrees d field.type (Hint.shape chainTable chainRoot) f.2.2) c.fields shown := by
  have hread : Schema.Document.read 0 chainSchema = .ok (chainRoot, chainTable) := by cbv
  have hr : Returns (Baml.translate chainTable {} chainRoot (.text "Root")) {} "Link"
    (Baml.Translation.after (Baml.translate chainTable {} chainRoot (.text "Root")) {}) := rfl
  have hd : Hint.describe chainTable chainRoot =
    .ok (.str "\x7b next?: Link | null, note?: string | null, size?: number \x7d") := rfl
  obtain ⟨-, hroot, -, -, hall⟩ := null_agrees hread hr hd
  obtain ⟨c, hc, hfields⟩ := hall _ List.mem_cons_self
  refine ⟨_, c, _, hread, hr, hd, hroot, hc, ?_, hfields _ (.described .self)⟩
  cases hc
  rfl

/-- A null literal is described as null, which its type does not have. -/
theorem null_literal_disagrees :
    ∃ (root : Node) (g : Graph) (us : List Alternative),
      Schema.Document.read 0 (.obj [("const", .null)]) = .ok (root, g) ∧
      Returns (Baml.translate g {} root (.text "Root")) {} "string" {} ∧
      Hint.describe g root = .ok (.str "null") ∧
      Reads .whole (tokens "string") us ∧ (∀ ws, Reads .whole (tokens "string") ws → ws = us) ∧
      ¬ (OffersNull (Hint.shape g root) (Hint.shape g root) ↔ Declarations.HasNull {} us) := by
  have hw := Baml.builtin_word (show "string" ∈ Baml.builtins by decide)
  have hspells := Baml.Spells.word hw.1 hw.2
  refine ⟨.literal .null .null, ⟨[]⟩, [.word "string"], by cbv, rfl, rfl, hspells.reads,
    fun ws hws => hws.unique hspells.reads, fun h => ?_⟩
  have hoffers : OffersNull (.literal .null) (.literal .null) := ⟨_, .literal, rfl⟩
  have hquoted : Declarations.Quoted {} := fun _ hm => by cases hm
  have hnull := hquoted.hasNull.mp (h.mp hoffers)
  simp at hnull

end StructuredOutput
