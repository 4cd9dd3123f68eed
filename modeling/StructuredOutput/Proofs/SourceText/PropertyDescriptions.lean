import StructuredOutput.Proofs.SourceText.FieldLines
import StructuredOutput.Proofs.SourceText.FunctionName
import StructuredOutput.Proofs.Translation.SideBySide

/-! # Descriptions stay with their property

The description of a property is that of its field, whatever the schema of the property is. If it is a
reference, the node that the reference stands for is shared by all its uses, and the description of one
use is kept away from it. So two schemas that differ in the description of such a property only have
sources with the same lines, but for the lines of its field. -/
namespace StructuredOutput.Baml

open Json (find?)
open Schema (Node)
open Schema.Document (IsObject Redescription Subschema fieldNodes fieldNodes_each)
open Translation (FieldFor MetAlike ObjectClass Returns objectClasses objectClasses_fields
  objectClasses_met translate_beside)

variable {s : Settings.Translator} {schema schema' : Json} {source source' : Source}

theorem forall₂_getElem? {α β : Type} {R : α → β → Prop} {as : List α} {bs : List β}
    (h : List.Forall₂ R as bs) {i : Nat} {a : α} (ha : as[i]? = some a) :
    ∃ b, bs[i]? = some b ∧ R a b := by
  induction h generalizing i with
  | nil => cases ha
  | @cons a' b' _ _ hab _ ih =>
    cases i with
    | zero =>
      cases ha
      exact ⟨b', rfl, hab⟩
    | succ i => exact ih ha

/-! ## Where a source comes from -/

/-- Where the source of a schema comes from: its document, the node that is read from it, and what the
translation of that node has declared. -/
structure Origin (s : Settings.Translator) (schema : Json) (source : Source) where
  doc : Schema.Document
  root : Node
  declared : Declarations
  classes : List Class
  number : doc.graph = 0
  defined : doc.DefinedBy schema
  rootNode : Schema.Document.node doc "#" schema = .ok root
  declares : Declares s schema source declared classes

namespace Origin

theorem of_built (h : Source.ofSchema s schema = .ok source) : Nonempty (Origin s schema source) := by
  obtain ⟨d, classes, hd⟩ := Declares.of_built h
  obtain ⟨root, g, hread, -⟩ := hd.translated
  obtain ⟨doc, hnumber, hdoc, hroot, -⟩ := Schema.Document.read_cases hread
  exact ⟨⟨doc, root, d, classes, hnumber, hdoc, hroot, hd⟩⟩

variable (m : Origin s schema source)

/-- The objects that the translation meets. -/
def met : List ObjectClass := objectClasses m.doc.table s m.root (.ofJson s.rootName) {}

/-- A field at a place among those of a class, if the class is that of an object which is read from the
given properties. -/
def FieldOf (properties : List (String × Json)) (required : Json) (index : Nat) (name : String)
    (field : Field) : Prop :=
  ∃ o ∈ m.met, (∃ path, fieldNodes m.doc path required properties = .ok o.members) ∧ o.name = name ∧
    ∃ c ∈ m.classes, c.name = name ∧ c.fields[index]? = some field

theorem read : Schema.Document.read 0 schema = .ok (m.root, m.doc.table) := by
  obtain ⟨members, definitions, defs, rfl, hdefinitions, hdefs, he⟩ := m.defined
  have hread := Schema.Document.read_eq hdefinitions hdefs he
  rw [m.number, m.rootNode] at hread
  exact hread

theorem returns : Returns (translate m.doc.table s m.root (.ofJson s.rootName)) {} source.rootType
    m.declared := by
  obtain ⟨root, g, hread, hr⟩ := m.declares.translated
  cases m.read.symm.trans hread
  exact hr

theorem tidy : m.declared.Tidy ∧ m.classes.Perm (m.declared.classes.map (·.2)) ∧
    m.classes.map (·.name) = m.declared.order := by
  obtain ⟨htidy, hpending⟩ := Declarations.Tidy.of_reached (.call .start m.returns)
  obtain ⟨printed, hprinted, hperm, hnames⟩ := htidy.completed hpending
  cases m.declares.completed.symm.trans hprinted
  exact ⟨htidy, hperm, hnames⟩

/-- The classes of a source are found under their names. -/
theorem mem_classes {name : String} {c : Class} :
    c ∈ m.classes ∧ c.name = name ↔ m.declared.class? name = some c := by
  obtain ⟨htidy, hperm, -⟩ := m.tidy
  constructor
  · rintro ⟨hc, rfl⟩
    obtain ⟨entry, he, rfl⟩ := List.mem_map.mp (hperm.subset hc)
    have hdistinct := htidy.names.sublist (Declarations.classNames_sublist m.declared)
    exact htidy.own entry he ▸ Json.find?_of_mem hdistinct he
  · intro hc
    have hm := Json.mem_of_find? hc
    exact ⟨hperm.symm.subset (List.mem_map_of_mem hm), htidy.own _ hm⟩

/-- Each object that is met has its class in the source, with legible fields for its members. -/
theorem class_of_met {o : ObjectClass} (ho : o ∈ m.met) : ∃ c, m.declared.class? o.name = some c ∧
    List.Forall₂ (FieldFor fun _ _ => True) c.fields o.members ∧ ∀ f ∈ c.fields, f.Legible := by
  obtain ⟨c, hc, hfields, -⟩ := (objectClasses_fields m.returns).2 o ho
  have hclass : ClassOf (o.members.map (·.1)) c := .met .start m.returns ho rfl hc
  exact ⟨c, hc, hfields, hclass.legible.2⟩

/-- Each class of the source is that of an object that is met. -/
theorem met_of_class {c : Class} (hc : c ∈ m.classes) : ∃ o ∈ m.met, o.name = c.name := by
  have hnames := (objectClasses_fields m.returns).1
  have hfound := Json.mem_of_find? (m.mem_classes.mp ⟨hc, rfl⟩)
  have hname : c.name ∈ m.declared.classNames := List.mem_map_of_mem hfound
  rw [hnames] at hname
  exact List.mem_map.mp hname

/-! ## The description of a field -/

/-- A property whose schema has a description that is not empty has fields with its key and with this
description. -/
theorem described {part properties members : List (String × Json)} {i : Nat} {key text : String}
    (hsub : Subschema m.doc schema (.obj part)) (ho : IsObject part)
    (hp : find? "properties" part = some (.obj properties))
    (hi : properties[i]? = some (key, .obj members))
    (hd : find? "description" members = some (.str text)) (hne : text ≠ "") :
    (∃ name field, m.FieldOf properties ((find? "required" part).getD (.arr [])) i name field) ∧
      ∀ required name field, m.FieldOf properties required i name field →
        field.source = key ∧ field.description = .str text := by
  have hsaid {required : Json} {o : ObjectClass} {path : String}
      (h : fieldNodes m.doc path required properties = .ok o.members) :
      ∃ member, o.members[i]? = some member ∧ member.1 = key ∧ member.2.said = .str text := by
    obtain ⟨member, hm, hkey, path', n, hn, hnode⟩ := forall₂_getElem? (fieldNodes_each h) hi
    have hn : n.said = .str text := Schema.Document.said_node hn hd hne
    refine ⟨member, hm, hkey, ?_⟩
    rcases hnode with he | he
    · rw [he, hn]
    · rw [he, Node.said, hn]
      rfl
  constructor
  · obtain ⟨hall, hbehind⟩ := objectClasses_met m.returns
    obtain ⟨path, n, hn, hmet⟩ := hsub.read ⟨"#", m.root, m.rootNode, hall⟩ hbehind
    have hsome : properties ≠ [] := List.ne_nil_of_mem (List.mem_of_getElem? hi)
    obtain ⟨o, hm, path', hfields, -⟩ := Schema.Document.object_met hn hmet ho hp hsome
    obtain ⟨c, hc, hfor, -⟩ := m.class_of_met hm
    obtain ⟨member, hmember, -⟩ := hsaid hfields
    obtain ⟨field, hfield, -⟩ := forall₂_getElem? hfor.flip hmember
    obtain ⟨hclass, hname⟩ := m.mem_classes.mpr hc
    exact ⟨o.name, field, o, hm, ⟨path', hfields⟩, rfl, c, hclass, hname, hfield⟩
  · rintro required name field ⟨o, hm, ⟨path, hfields⟩, rfl, c, hclass, hname, hfield⟩
    obtain ⟨c', hc', hfor, -⟩ := m.class_of_met hm
    cases (m.mem_classes.mp ⟨hclass, hname⟩).symm.trans hc'
    obtain ⟨member, hmember, hkey, htext⟩ := hsaid hfields
    obtain ⟨member', hmember', hone⟩ := forall₂_getElem? hfor hfield
    cases hmember.symm.trans hmember'
    exact ⟨hone.source.trans hkey, hone.description.trans htext⟩

/-! ## Two sources line by line -/

/-- Fields for the two descriptions of a property, in classes of one name, which differ in nothing else. -/
def Redescribed (m : Origin s schema source) (m' : Origin s schema' source') (r : Redescription)
    (field field' : Field) : Prop :=
  ∃ required name, m.FieldOf r.properties required r.index name field ∧
    m'.FieldOf r.properties' required r.index name field' ∧ field.undescribed = field'.undescribed

/-- Lines at the same place of two sources: they are equal, or those of fields for the two descriptions. -/
def LineBeside (m : Origin s schema source) (m' : Origin s schema' source') (r : Redescription)
    (line line' : List Char) : Prop :=
  line = line' ∨ ∃ field field', Redescribed m m' r field field' ∧
    line = ("  " ++ field.line).toList ∧ line' = ("  " ++ field'.line).toList

variable {m} {m' : Origin s schema' source'} {r : Redescription}

/-- What two translations that go side by side have declared. -/
theorem beside (m : Origin s schema source) (m' : Origin s schema' source') (h : r.Of schema schema') :
    source.rootType = source'.rootType ∧
      Translation.Beside (r.Apart m.doc m'.doc) m.declared m'.declared m.met m'.met := by
  have hnames := m.defined.reworded m'.defined h
  have hdoc : Schema.Document.SameDefined (fun _ => True) m.doc m'.doc :=
    ⟨m.number.trans m'.number.symm, fun _ name _ _ => hnames.find?_isSome name⟩
  have hkept := Schema.Document.similar_kept hdoc r
  obtain ⟨hroot, htable⟩ := Schema.Document.read_parsed m.read
  obtain ⟨hroot', htable'⟩ := Schema.Document.read_parsed m'.read
  have hsimilar := (Schema.Document.node_reworded hdoc hkept "#" "#" _ _ h).of_ok m.rootNode m'.rootNode
  exact translate_beside ⟨htable, htable',
    fun _ _ _ => Schema.Document.resolve_reworded hdoc hkept hnames, fun _ _ h => h.peelAlike⟩
    hsimilar hroot hroot' m.returns m'.returns

/-- Fields at the same place of two objects that are met at the same point: their members say the same
everywhere but at the place of the property. -/
theorem field_beside {o o' : ObjectClass} (hm : o ∈ m.met) (hm' : o' ∈ m'.met)
    (h : MetAlike (r.Apart m.doc m'.doc) o o') {c c' : Class}
    (hc : m.declared.class? o.name = some c) (hc' : m'.declared.class? o'.name = some c')
    {i : Nat} {f f' : Field} (hf : c.fields[i]? = some f) (hf' : c'.fields[i]? = some f')
    (hsame : f.undescribed = f'.undescribed) : f = f' ∨ Redescribed m m' r f f' := by
  obtain ⟨_, he, hfor, -⟩ := m.class_of_met hm
  cases hc.symm.trans he
  obtain ⟨_, he', hfor', -⟩ := m'.class_of_met hm'
  cases hc'.symm.trans he'
  obtain ⟨member, hmember, hone⟩ := forall₂_getElem? hfor hf
  obtain ⟨member', hmember', hone'⟩ := forall₂_getElem? hfor' hf'
  have hsaid (h : member.2.said = member'.2.said) : f = f' :=
    Field.eq_of_undescribed hsame (hone.description.trans (h.trans hone'.description.symm))
  rcases h.members with hmembers | hapart
  · exact .inl (hsaid (hmembers.getElem? hmember hmember').said)
  by_cases hindex : i = r.index
  · subst hindex
    obtain ⟨path, path', required, hread, hread'⟩ := hapart.1
    obtain ⟨hclass, hname⟩ := m.mem_classes.mpr hc
    obtain ⟨hclass', hname'⟩ := m'.mem_classes.mpr hc'
    have hfield : m.FieldOf r.properties required r.index o.name f :=
      ⟨o, hm, ⟨path, hread⟩, rfl, c, hclass, hname, hf⟩
    have hfield' : m'.FieldOf r.properties' required r.index o'.name f' :=
      ⟨o', hm', ⟨path', hread'⟩, rfl, c', hclass', hname', hf'⟩
    exact .inr ⟨required, o.name, hfield, h.name ▸ hfield', hsame⟩
  · rw [hapart.getElem? hindex, hmember'] at hmember
    cases hmember
    exact .inl (hsaid rfl)

/-- The fields of two objects that are met at the same point, one by one. -/
theorem fields_beside {o o' : ObjectClass} (hm : o ∈ m.met) (hm' : o' ∈ m'.met)
    (h : MetAlike (r.Apart m.doc m'.doc) o o') {c c' : Class}
    (hc : m.declared.class? o.name = some c) (hc' : m'.declared.class? o'.name = some c')
    (hsame : c.undescribed = c'.undescribed) :
    List.Forall₂ (fun f f' => f.Legible ∧ f'.Legible ∧ (f = f' ∨ Redescribed m m' r f f'))
      c.fields c'.fields := by
  obtain ⟨_, he, -, hlegible⟩ := m.class_of_met hm
  cases hc.symm.trans he
  obtain ⟨_, he', -, hlegible'⟩ := m'.class_of_met hm'
  cases hc'.symm.trans he'
  have hfields : c.fields.map Field.undescribed = c'.fields.map Field.undescribed :=
    congrArg Class.fields hsame
  rw [← List.forall₂_eq_eq_eq, List.forall₂_map_left_iff, List.forall₂_map_right_iff] at hfields
  obtain ⟨hlength, heach⟩ := List.forall₂_iff_get.mp hfields
  exact List.forall₂_iff_get.mpr ⟨hlength, fun i hi hi' =>
    ⟨hlegible _ (List.get_mem _ _), hlegible' _ (List.get_mem _ _),
      field_beside hm hm' h hc hc' (List.getElem?_eq_getElem hi) (List.getElem?_eq_getElem hi')
        (heach i hi hi')⟩⟩

/-- The classes of two sources, one by one. -/
theorem classes_beside
    (h : Translation.Beside (r.Apart m.doc m'.doc) m.declared m'.declared m.met m'.met) :
    List.Forall₂ (fun c c' => c.name = c'.name ∧
      List.Forall₂ (fun f f' => f.Legible ∧ f'.Legible ∧ (f = f' ∨ Redescribed m m' r f f'))
        c.fields c'.fields) m.classes m'.classes := by
  have hnames : m.classes.map (·.name) = m'.classes.map (·.name) := by
    rw [m.tidy.2.2, m'.tidy.2.2]
    exact h.declared.order
  rw [← List.forall₂_eq_eq_eq, List.forall₂_map_left_iff, List.forall₂_map_right_iff] at hnames
  obtain ⟨hlength, heach⟩ := List.forall₂_iff_zip.mp hnames
  refine List.forall₂_iff_zip.mpr ⟨hlength, fun {c c'} hz => ⟨heach hz, ?_⟩⟩
  obtain ⟨hc, hc'⟩ := List.of_mem_zip hz
  obtain ⟨o, hm, hname⟩ := m.met_of_class hc
  obtain ⟨o', hm', halike⟩ := forall₂_left h.met o hm
  have hfound : m.declared.class? o.name = some c := m.mem_classes.mp ⟨hc, hname.symm⟩
  have hfound' : m'.declared.class? o'.name = some c' :=
    m'.mem_classes.mp ⟨hc', (heach hz).symm.trans (hname.symm.trans halike.name)⟩
  exact fields_beside hm hm' halike hfound hfound'
    (h.declared.class? hfound (halike.name ▸ hfound'))

end Origin

/-! ## Lines of texts -/

section Lines

variable {beside : List Char → List Char → Prop}

/-- Texts are line by line beside each other if pieces that end in line ends are, and what is behind. -/
theorem unlines_beside (hrefl : ∀ line, beside line line) {pieces pieces' : List String}
    {behind behind' : List Char}
    (h : List.Forall₂ (fun piece piece' => piece = piece' ∨
      OneLine piece ∧ OneLine piece' ∧ beside piece.toList piece'.toList) pieces pieces')
    (hb : List.Forall₂ beside (behind.splitOn '\n') (behind'.splitOn '\n')) :
    List.Forall₂ beside (((unlines pieces).toList ++ behind).splitOn '\n')
      (((unlines pieces').toList ++ behind').splitOn '\n') := by
  have hcut (piece : String) (rest : List String) (behind : List Char) :
      ((unlines (piece :: rest)).toList ++ behind).splitOn '\n' =
        piece.toList.splitOn '\n' ++ ((unlines rest).toList ++ behind).splitOn '\n' := by
    rw [← List.splitOn_append_cons_self]
    simp [unlines_chars]
  have hone {piece : String} (h : OneLine piece) : piece.toList.splitOn '\n' = [piece.toList] :=
    List.splitOn_eq_singleton h
  induction h with
  | nil => exact hb
  | cons hpiece _ ih =>
    rw [hcut, hcut]
    refine List.rel_append ?_ ih
    rcases hpiece with rfl | ⟨hline, hline', hbeside⟩
    · exact List.forall₂_same.mpr fun line _ => hrefl line
    · rw [hone hline, hone hline']
      exact .cons hbeside .nil

/-- The same for sources whose classes have the same lines but for those of some fields. -/
theorem sourceText_beside (hrefl : ∀ line, beside line line) {classes classes' : List Class}
    (h : List.Forall₂ (fun c c' => c.name = c'.name ∧ List.Forall₂ (fun f f' => f = f' ∨
      f.Legible ∧ f'.Legible ∧ beside ("  " ++ f.line).toList ("  " ++ f'.line).toList)
        c.fields c'.fields) classes classes')
    (enums : List String) (aliases : List (String × String)) (function root : String) (client : Json) :
    List.Forall₂ beside
      ((sourceText enums aliases (classes.map fun c => classText c.name (c.fields.map Field.line))
        function root client).toList.splitOn '\n')
      ((sourceText enums aliases (classes'.map fun c => classText c.name (c.fields.map Field.line))
        function root client).toList.splitOn '\n') := by
  let shown (classes : List Class) : String :=
    String.join (classes.map fun c => classText c.name (c.fields.map Field.line))
  let behind : String := functionText function root client
  suffices hall : ∀ front : List Char, List.Forall₂ beside
      ((front ++ ((shown classes).toList ++ behind.toList)).splitOn '\n')
      ((front ++ ((shown classes').toList ++ behind.toList)).splitOn '\n') by
    have hfront := hall (targetText ++ String.join enums ++ aliasesText aliases).toList
    simpa only [sourceText, String.toList_append, List.append_assoc] using hfront
  induction h with
  | nil => exact fun front => List.forall₂_same.mpr fun line _ => hrefl line
  | @cons c c' rest rest' hc _ ih =>
    intro front
    obtain ⟨hname, hfields⟩ := hc
    -- an empty line stands in front of a class, so what is in front of it ends there
    have hcut (c : Class) (rest : List Class) :
        (front ++ ((shown (c :: rest)).toList ++ behind.toList)).splitOn '\n' =
          front.splitOn '\n' ++ ((unlines (["class " ++ c.name ++ " \x7b"] ++
            c.fields.map (fun f => "  " ++ f.line) ++ ["\x7d"])).toList ++
              ((shown rest).toList ++ behind.toList)).splitOn '\n' := by
      rw [← List.splitOn_append_cons_self]
      simp [shown, classText, braced, unlines_chars, List.map_map, Function.comp_def]
    rw [hcut, hcut, hname]
    refine List.rel_append (List.forall₂_same.mpr fun line _ => hrefl line) ?_
    refine unlines_beside hrefl ?_ (ih [])
    refine List.rel_append (List.rel_append (.cons (.inl rfl) .nil) ?_) (.cons (.inl rfl) .nil)
    rw [List.forall₂_map_left_iff, List.forall₂_map_right_iff]
    refine hfields.imp fun f f' hf => ?_
    have hindent {f : Field} (h : f.Legible) : OneLine ("  " ++ f.line) :=
      OneLine.append (by simp [OneLine]) (oneLine_line h)
    rcases hf with rfl | ⟨hl, hl', hbeside⟩
    · exact .inl rfl
    · exact .inr ⟨hindent hl, hindent hl', hbeside⟩

end Lines

/-- Descriptions stay with their property. In the source of a schema the field of a property has the
description of the property's schema, if that is a text and not empty, whatever else the schema says. No
deferred node that is read from a schema has a description. And if two schemas differ in the description of
one property only, whose schema is a reference, their sources have the same lines, but for those of the
field of this property. -/
theorem descriptions_stay :
    (∀ s schema source, Source.ofSchema s schema = .ok source → Nonempty (Origin s schema source) ∧
      ∀ (m : Origin s schema source) (part properties members : List (String × Json)) (i : Nat)
        (key text : String), Subschema m.doc schema (.obj part) → IsObject part →
        find? "properties" part = some (.obj properties) →
        properties[i]? = some (key, .obj members) →
        find? "description" members = some (.str text) → text ≠ "" →
        (∃ name field, m.FieldOf properties ((find? "required" part).getD (.arr [])) i name field) ∧
          ∀ required name field, m.FieldOf properties required i name field →
            field.source = key ∧ field.description = .str text) ∧
    (∀ number schema root g, Schema.Document.read number schema = .ok (root, g) →
      (∀ part ∈ root.deferred, part.description = .null) ∧
        ∀ entry ∈ g.entries, ∀ n, entry.2 = .ok n →
          ∀ part ∈ n.deferred, part.description = .null) ∧
    ∀ s schema schema' source source' (r : Redescription) (m : Origin s schema source)
      (m' : Origin s schema' source'), r.Of schema schema' →
      List.Forall₂ (Origin.LineBeside m m' r) (source.text.toList.splitOn '\n')
        (source'.text.toList.splitOn '\n') := by
  refine ⟨fun s schema source h => ⟨Origin.of_built h, fun m part properties members i key text hsub ho hp hi
    hd hne => m.described hsub ho hp hi hd hne⟩, fun number schema root g h =>
    Schema.Document.read_undescribed h, fun s schema schema' source source' r m m' h => ?_⟩
  obtain ⟨hroot, hbeside⟩ := Origin.beside m m' h
  rw [m.declares.text, m'.declares.text, m.declares.functionName, m'.declares.functionName, ← hroot,
    ← hbeside.declared.enums, ← hbeside.declared.aliases]
  refine sourceText_beside (fun line => .inl rfl) ?_ _ _ _ _ _
  refine (Origin.classes_beside hbeside).imp fun c c' ⟨hname, hfields⟩ => ⟨hname, hfields.imp ?_⟩
  rintro f f' ⟨hl, hl', he | hredescribed⟩
  · exact .inl he
  · exact .inr ⟨hl, hl', .inr ⟨f, f', hredescribed, rfl, rfl⟩⟩

def referring (text : String) : List (String × Json) :=
  [("$ref", .str "#/$defs/Place"), ("description", .str text)]

def moved (text text' : String) : Redescription where
  before := [("home", .obj (referring "Where they live."))]
  key := "work"
  members := referring text
  members' := referring text'
  after := []
  refers := rfl
  rest other h := by simp [referring, find?, Ne.symm h]

def visitMembers (properties : List (String × Json)) : List (String × Json) :=
  [("type", .str "object"), ("properties", .obj properties), ("required", .arr [.str "home"]),
    ("$defs", .obj [("Place", wordObject)])]

def placeNode : Node := .lazy .null (.str "Place") ⟨0, "#/$defs/Place"⟩

def visitNode (text : String) : Node :=
  .object .null [("home", .wrapper (.str "Where they live.") .plain placeNode),
    ("work", .wrapper .null .optional (.wrapper (.str text) .plain placeNode))]

def placeTable : Schema.Graph :=
  ⟨Schema.Document.refStarts.map fun start => (⟨0, start ++ "Place"⟩, .ok wordNode)⟩

/-- Two uses of one definition keep a description each, and changing one of them leaves all lines as they
are but that of its field. -/
theorem descriptions_stay_visit : ∃ (source source' : Source)
    (m : Origin {} (.obj (visitMembers (moved "Their office." "Their desk.").properties)) source)
    (m' : Origin {} (.obj (visitMembers (moved "Their office." "Their desk.").properties')) source'),
    (∃ name field, m.FieldOf (moved "Their office." "Their desk.").properties (.arr [.str "home"]) 1
      name field ∧ field.source = "work" ∧ field.description = .str "Their office.") ∧
    (∀ part ∈ m.root.deferred, part.description = .null) ∧
    List.Forall₂ (Origin.LineBeside m m' (moved "Their office." "Their desk."))
      (source.text.toList.splitOn '\n') (source'.text.toList.splitOn '\n') := by
  let r := moved "Their office." "Their desk."
  have hread : Schema.Document.read 0 (.obj (visitMembers r.properties)) =
    .ok (visitNode "Their office.", placeTable) := by cbv
  have hread' : Schema.Document.read 0 (.obj (visitMembers r.properties')) =
    .ok (visitNode "Their desk.", placeTable) := by cbv
  have hr : Returns (translate placeTable {} (visitNode "Their office.") (.text "Root")) {} "Root"
    (Translation.after (translate placeTable {} (visitNode "Their office.") (.text "Root")) {}) := rfl
  have hr' : Returns (translate placeTable {} (visitNode "Their desk.") (.text "Root")) {} "Root"
    (Translation.after (translate placeTable {} (visitNode "Their desk.") (.text "Root")) {}) := rfl
  obtain ⟨source, _, hbuilt⟩ := Declares.of_translated hread hr
  obtain ⟨source', _, hbuilt'⟩ := Declares.of_translated hread' hr'
  obtain ⟨hall, hundescribed, hlines⟩ := descriptions_stay
  obtain ⟨⟨m⟩, hdescribed⟩ := hall _ _ _ hbuilt.built
  obtain ⟨⟨m'⟩, -⟩ := hall _ _ _ hbuilt'.built
  have hobject : IsObject (visitMembers r.properties) := .typed ⟨by decide, .str "object", rfl, .here⟩
  obtain ⟨⟨name, field, hfield⟩, hof⟩ := hdescribed m _ r.properties (referring "Their office.") 1 "work"
    "Their office." .whole hobject rfl rfl rfl (by decide)
  have hsame : r.Of (.obj (visitMembers r.properties)) (.obj (visitMembers r.properties')) :=
    .members rfl (.kept rfl (.same _) (.kept rfl (.spot ⟨rfl, rfl⟩)
      (.kept rfl (.same _) (.kept rfl (.same _) .nil))))
  exact ⟨source, source', m, m', ⟨name, field, hfield, hof _ _ _ hfield⟩,
    (hundescribed _ _ _ _ m.read).1, hlines _ _ _ _ _ r m m' hsame⟩

end StructuredOutput.Baml
