import Mathlib.Data.List.DropRight
import StructuredOutput.Proofs.Agreement.Fields
import StructuredOutput.Proofs.Schema.RequiredKeys
import StructuredOutput.Proofs.Schema.Subschemas
import StructuredOutput.Proofs.SourceText.ClassBlocks
import StructuredOutput.Proofs.SourceText.FunctionName

/-! # Question marks and required keys

A question mark stands behind the type of a field exactly if its key is not required. Between the schema
and the line of a field, the reader puts a wrapper around the node, the translator looks for it among the
other wrappers, and the renderer writes the mark: `mayBeAbsent_node` says that nothing else gives such a
wrapper, and no type ends in a question mark of its own. -/
namespace StructuredOutput.Baml

open Json (find?)
open Schema (Node)
open Schema.Document (IsObject Subschema fieldNodes_required objectNode objectNode_properties
  object_met)
open Translation (Returns objectClasses objectClasses_fields objectClasses_met)

/-! ## The mark in a line -/

/-- The type in the line of a field: what stands between its name and its attributes. -/
def typeOfLine (line : String) : List Char :=
  (((line.toList.dropWhile (· ≠ ' ')).drop 1).takeWhile (· ≠ '@')).rdropWhile (· = ' ')

/-- Whether the type in the line of a field carries a question mark. -/
def isMarked (line : String) : Bool := (typeOfLine line).getLast? = some '?'

theorem last_shownType {f : Field} (h : f.Legible) : f.shownType.toList.getLast? ≠ some ' ' := by
  unfold Field.shownType
  split
  · simp [List.getLast?_append]
  · exact h.type.last_ne_blank

theorem typeOfLine_line {f : Field} (h : f.Legible) : typeOfLine f.line = f.shownType.toList := by
  have hname : ∀ c ∈ f.name.toList, decide (c ≠ ' ') = true :=
    fun c hc => by simpa using fun he : c = ' ' => absurd (h.name _ (he ▸ hc)) (by decide)
  have hchars : ∀ c ∈ f.shownType.toList, decide (c ≠ '@') = true :=
    fun c hc => by simpa using fun he : c = '@' => no_at_shownType h (he ▸ hc)
  have hline : f.line.toList =
      f.name.toList ++ ' ' :: (f.shownType.toList ++ f.attributes.toList) := by
    rw [f.line_eq]
    simp
  have hself : f.shownType.toList.rdropWhile (· = ' ') = f.shownType.toList := by
    refine List.rdropWhile_eq_self_iff.mpr fun hne hblank => last_shownType h ?_
    rw [List.getLast?_eq_some_getLast hne, of_decide_eq_true hblank]
  unfold typeOfLine
  rw [hline, List.dropWhile_append_of_pos hname, List.dropWhile_cons_of_neg (by simp),
    List.drop_one, List.tail_cons, List.takeWhile_append_of_pos hchars]
  rcases f.attributes_cases with ha | ⟨rest, ha⟩
  · rw [ha, List.takeWhile_nil, List.append_nil, hself]
  · have hblank : (' ' :: '@' :: rest).takeWhile (· ≠ '@') = [' '] := rfl
    rw [ha, hblank, List.rdropWhile_concat_pos _ _ _ rfl, hself]

theorem isMarked_line {f : Field} (h : f.Legible) : isMarked f.line = f.optional := by
  unfold isMarked
  rw [typeOfLine_line h, Field.shownType]
  cases f.optional with
  | true => simp [List.getLast?_append]
  | false =>
    simp only [Bool.false_eq_true, if_false, decide_eq_false_iff_not]
    exact fun hlast => absurd (h.type.chars _ (List.mem_of_getLast? hlast)) (by decide)

/-! ## The classes of objects -/

/-- A class whose block has a line for each property, in order, of which those carry a question mark whose
keys are not required. -/
structure MarkedFor (properties : List (String × Json)) (required : List String) (c : Class) :
    Prop where
  named : NamedAfter (properties.map (·.1)) c.fields
  lines : fieldLines c.block = c.fields.map Field.line
  marks : (c.fields.map Field.line).map isMarked =
    properties.map fun property => decide (property.1 ∉ required)

theorem markedFor_of_met {g : Schema.Graph} {s : Settings.Translator} {node : Node}
    {hint : NameHint} {expr : String} {d : Declarations}
    (hr : Returns (translate g s node hint) {} expr d) {o : Translation.ObjectClass}
    (ho : o ∈ objectClasses g s node hint {}) {properties : List (String × Json)}
    {required : List String} (hkeys : o.members.map (fun member => (member.1, member.2.mayBeAbsent)) =
      properties.map fun property => (property.1, decide (property.1 ∉ required))) :
    ∃ c, d.class? o.name = some c ∧ MarkedFor properties required c := by
  obtain ⟨c, hc, hfields, hnamed⟩ := (objectClasses_fields hr).2 o ho
  have hsame := (keys_of_fields hfields).trans hkeys
  have hclass : ClassOf (o.members.map (·.1)) c := .met .start hr ho rfl hc
  obtain ⟨hname, hlegible⟩ := hclass.legible
  refine ⟨c, hc, ?_, ?_, ?_⟩
  · have hfirst := congrArg (List.map Prod.fst) hkeys
    simp only [List.map_map, Function.comp_def] at hfirst
    exact hfirst ▸ hnamed
  · refine fieldLines_classText hname fun line hm => ?_
    obtain ⟨f, hf, rfl⟩ := List.mem_map.mp hm
    exact oneLine_line (hlegible f hf)
  · have hsecond := congrArg (List.map Prod.snd) hsame
    have hmark : ∀ f ∈ c.fields, isMarked f.line = f.optional :=
      fun f hf => isMarked_line (hlegible f hf)
    simp only [List.map_map, Function.comp_def] at hsecond ⊢
    rw [List.map_congr_left hmark, hsecond]

/-- The classes of the objects of a schema. When a source is built, each schema in the document that is one
of an object with properties is met by the translation as an object with the fields that are read from it;
and each object that is met with these fields has its class in the source, where the block of the class
stands in the text with one line for each property in order, of which those carry a question mark whose keys
are not required. What the schemas of the properties are does not matter. -/
theorem marked_unless_required {s : Settings.Translator} {schema : Json} {source : Source}
    (h : Source.ofSchema s schema = .ok source) :
    ∃ (doc : Schema.Document) (root : Node) (d : Declarations) (classes : List Class),
      Declares s schema source d classes ∧ doc.DefinedBy schema ∧
      Schema.Document.read 0 schema = .ok (root, doc.table) ∧
      ∀ (part properties : List (String × Json)) (required : List String),
        Subschema doc schema (.obj part) → IsObject part →
        find? "properties" part = some (.obj properties) → properties ≠ [] →
        (find? "required" part).getD (.arr []) = .arr (required.map .str) →
        (∃ o ∈ objectClasses doc.table s root (.ofJson s.rootName) {},
          ∃ path, objectNode doc path part = .ok (.object .null o.members)) ∧
        ∀ o ∈ objectClasses doc.table s root (.ofJson s.rootName) {},
          (∃ path, objectNode doc path part = .ok (.object .null o.members)) →
          ∃ c ∈ classes, c.name = o.name ∧ MarkedFor properties required c ∧
            ∃ before after, source.text = before ++ c.block ++ after := by
  obtain ⟨d, classes, hd⟩ := Declares.of_built h
  obtain ⟨root, g, hread, hr⟩ := hd.translated
  obtain ⟨doc, -, hdoc, hroot, rfl⟩ := Schema.Document.read_cases hread
  obtain ⟨hall, hbehind⟩ := objectClasses_met hr
  refine ⟨doc, root, d, classes, hd, hdoc, hread, fun part properties required hsub ho hp hne hreq =>
    ⟨?_, fun o hm ⟨path, hobject⟩ => ?_⟩⟩
  · obtain ⟨path, n, hn, hmet⟩ := hsub.read ⟨"#", root, hroot, hall⟩ hbehind
    obtain ⟨o, hm, path', hfields, -⟩ := object_met hn hmet ho hp hne
    exact ⟨o, hm, path', by rw [objectNode_properties hp hne, hfields]; rfl⟩
  · rw [objectNode_properties hp hne, hreq] at hobject
    obtain ⟨fields, hfields, hsame⟩ := Hint.ok_of_bind hobject
    cases hsame
    obtain ⟨c, hc, hmarked⟩ := markedFor_of_met hr hm (fieldNodes_required hfields)
    obtain ⟨htidy, hpending⟩ := Declarations.Tidy.of_reached (.call .start hr)
    obtain ⟨printed, hprinted, hperm, -⟩ := htidy.completed hpending
    cases hd.completed.symm.trans hprinted
    have hmem := Json.mem_of_find? hc
    have hshown : c ∈ classes := hperm.symm.subset (List.mem_map_of_mem hmem)
    exact ⟨c, hshown, htidy.own _ hmem, hmarked, hd.text ▸ block_infix hshown⟩

/-- A reference, alternatives with null and a default, and one part of an object, each as a property. -/
def treeProperties : List (String × Json) :=
  [("next", .obj [("$ref", .str "#/$defs/Tree")]),
    ("label", .obj [("anyOf", .arr [.obj [("type", .str "null")], .obj [("type", .str "string")]]),
      ("default", .null)]),
    ("inner", .obj [("allOf", .arr [.obj [("type", .str "object"),
      ("properties", .obj [("word", .obj [("type", .str "string")])])]])])]

def tree : List (String × Json) :=
  [("type", .str "object"), ("properties", .obj treeProperties),
    ("required", .arr [.str "label", .str "inner"])]

def forest : List (String × Json) :=
  [("type", .str "object"), ("properties", .obj [("tree", .obj [("$ref", .str "#/$defs/Tree")])]),
    ("$defs", .obj [("Tree", .obj tree)])]

def treeNode : Node :=
  .object .null [("next", .wrapper .null .optional (.lazy .null (.str "Tree") ⟨0, "#/$defs/Tree"⟩)),
    ("label", .wrapper .null (.default .null)
      (.wrapper .null .nullable (.primitive .null (.str "string")))),
    ("inner", .object .null [("word", .wrapper .null .optional (.primitive .null (.str "string")))])]

def forestNode : Node :=
  .object .null [("tree", .wrapper .null .optional (.lazy .null (.str "Tree") ⟨0, "#/$defs/Tree"⟩))]

def forestTable : Schema.Graph :=
  ⟨Schema.Document.refStarts.map fun start => (⟨0, start ++ "Tree"⟩, .ok treeNode)⟩

/-- Of the fields of the tree, the first is not required. -/
theorem marked_unless_required_tree :
    ∃ (source : Source) (d : Declarations) (classes : List Class) (c : Class),
      Declares {} (.obj forest) source d classes ∧ c ∈ classes ∧
      MarkedFor treeProperties ["label", "inner"] c ∧
      (∃ before after, source.text = before ++ c.block ++ after) ∧
      (c.fields.map Field.line).map isMarked = [true, false, false] := by
  have hread : Schema.Document.read 0 (.obj forest) = .ok (forestNode, forestTable) := by cbv
  have hr : Returns (translate forestTable {} forestNode (.text "Root")) {} "Root"
    (Translation.after (translate forestTable {} forestNode (.text "Root")) {}) := rfl
  obtain ⟨source, _, hbuilt⟩ := Declares.of_translated hread hr
  obtain ⟨doc, root, d, classes, hd, ⟨members, definitions, defs, he, hdefinitions, hdefs, hdoc⟩, -, hall⟩ :=
    marked_unless_required hbuilt.built
  cases he
  cases hdefinitions
  cases hdefs
  have hforest : IsObject forest := .typed ⟨by decide, .str "object", rfl, .here⟩
  have htree : IsObject tree := .typed ⟨by decide, .str "object", rfl, .here⟩
  have hlink : Subschema doc (.obj forest) (.obj [("$ref", .str "#/$defs/Tree")]) :=
    .part .whole (.property hforest rfl List.mem_cons_self)
  have hsub : Subschema doc (.obj forest) (.obj tree) :=
    .definition hlink rfl (by decide : _ = some "Tree") (hdoc ▸ rfl)
  obtain ⟨⟨o, hm, hfrom⟩, hmarked⟩ := hall tree treeProperties ["label", "inner"] hsub htree rfl
    (by simp [treeProperties]) rfl
  obtain ⟨c, hc, -, hfor, hstands⟩ := hmarked o hm hfrom
  exact ⟨source, d, classes, c, hd, hc, hfor, hstands, hfor.marks.trans (by decide)⟩

end StructuredOutput.Baml
