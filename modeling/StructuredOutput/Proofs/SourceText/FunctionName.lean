import StructuredOutput.Proofs.Schema.Definitions
import StructuredOutput.Proofs.Schema.Heights
import StructuredOutput.Proofs.Translation.NameStems

/-! # The name of the parse function among the declared names

The names of classes, enums and aliases are kept apart by the search for a free name. The name of the
parse function comes from the settings alone and is compared with none of them. It is apart from all of
them, whatever the schema, exactly if it is no type name; and a function named like a type is still apart
from the declarations of a schema unless its name begins as one of the hints does. -/
namespace StructuredOutput.Baml

open Schema (Graph Node Ref)
open Translation (Returns within)

/-- What a source text of a schema is rendered from: what the translation of the schema has declared, with
its classes in the order in which they are printed. -/
structure Declares (s : Settings.Translator) (schema : Json) (source : Source) (d : Declarations)
    (classes : List Class) : Prop where
  built : Source.ofSchema s schema = .ok source
  translated : ∃ root g, Schema.Document.read 0 schema = .ok (root, g) ∧
    Returns (translate g s root (.ofJson s.rootName)) {} source.rootType d
  completed : d.completed = .ok classes
  text : source.text = sourceText (d.enums.map fun e => enumText e.1 (e.2.map Json.display))
    d.aliases (classes.map fun c => classText c.name (c.fields.map Field.line)) source.functionName
    source.rootType s.client

/-- The names of the function and of the types that a source text declares. -/
def topNames (source : Source) (d : Declarations) (classes : List Class) : List String :=
  source.functionName :: (d.enums.map (·.1) ++ d.aliases.map (·.1) ++ classes.map (·.name))

/-- The names that the hints of a document have: the name of the root, and the names of the definitions
that are referred to. -/
def documentStems (s : Settings.Translator) (schema : Json) : List String :=
  (NameHint.ofJson s.rootName).stems ++
    (schema.refTexts.filterMap Schema.Document.definitionName?).map Text.pascalCase

namespace Declares

variable {s : Settings.Translator} {schema : Json} {source : Source} {d : Declarations}
variable {classes : List Class}

theorem ofSchema_eq {root : Node} {g : Graph} {expr : String}
    (hread : Schema.Document.read 0 schema = .ok (root, g))
    (hr : Returns (translate g s root (.ofJson s.rootName)) {} expr d) :
    Source.ofSchema s schema = (d.render s.functionName expr s.client).map
      fun text => ⟨text, s.functionName, expr, Digest.sha256 text⟩ := by
  have hrun : (translate g s root (.ofJson s.rootName)).run.run {} = (.ok expr, d) := hr
  unfold Source.ofSchema
  rw [hread]
  change Source.ofNode s g root = _
  unfold Source.ofNode
  rw [hrun]
  change d.render s.functionName expr s.client >>= _ = _
  cases d.render s.functionName expr s.client <;> rfl

theorem of_translated {root : Node} {g : Graph} {expr : String}
    (hread : Schema.Document.read 0 schema = .ok (root, g))
    (hr : Returns (translate g s root (.ofJson s.rootName)) {} expr d) :
    ∃ source classes, Declares s schema source d classes := by
  obtain ⟨htidy, hpending⟩ := Declarations.Tidy.of_reached (.call .start hr)
  obtain ⟨printed, hprinted, -, -⟩ := htidy.completed hpending
  let text := sourceText (d.enums.map fun e => enumText e.1 (e.2.map Json.display)) d.aliases
    (printed.map fun c => classText c.name (c.fields.map Field.line)) s.functionName expr s.client
  have hrender : d.render s.functionName expr s.client = .ok text :=
    Declarations.render_eq hprinted _ _ _
  have hbuilt : Source.ofSchema s schema =
      .ok ⟨text, s.functionName, expr, Digest.sha256 text⟩ := by
    rw [ofSchema_eq hread hr, hrender]
    rfl
  exact ⟨_, printed, hbuilt, ⟨root, g, hread, hr⟩, hprinted, rfl⟩

/-- Every source is rendered from what the translation of its schema has declared. -/
theorem of_built (h : Source.ofSchema s schema = .ok source) :
    ∃ d classes, Declares s schema source d classes := by
  have hbuilt := h
  unfold Source.ofSchema at h
  cases hread : Schema.Document.read 0 schema with
  | error fault =>
    rw [hread] at h
    cases h
  | ok result =>
    obtain ⟨root, g⟩ := result
    rw [hread] at h
    change Source.ofNode s g root = _ at h
    unfold Source.ofNode at h
    cases hrun : (translate g s root (.ofJson s.rootName)).run.run {} with
    | mk outcome d =>
      rw [hrun] at h
      cases outcome with
      | error fault => cases h
      | ok expr =>
        obtain ⟨source', classes, hd⟩ := of_translated hread hrun
        have hsame : source' = source := Except.ok.inj (hd.built.symm.trans hbuilt)
        exact ⟨d, classes, hsame ▸ hd⟩

theorem functionName (h : Declares s schema source d classes) :
    source.functionName = s.functionName := by
  obtain ⟨root, g, hread, hr⟩ := h.translated
  have hbuilt := h.built
  rw [ofSchema_eq hread hr] at hbuilt
  cases hrender : d.render s.functionName source.rootType s.client with
  | error fault =>
    rw [hrender] at hbuilt
    cases hbuilt
  | ok text =>
    rw [hrender] at hbuilt
    exact (congrArg Source.functionName (Except.ok.inj hbuilt)).symm

/-- The types are declared under type names, each under its own. -/
theorem topNames_perm (h : Declares s schema source d classes) :
    d.Tidy ∧ (topNames source d classes).Perm (s.functionName :: d.names) := by
  obtain ⟨root, g, -, hr⟩ := h.translated
  obtain ⟨htidy, hpending⟩ := Declarations.Tidy.of_reached (.call .start hr)
  obtain ⟨printed, hprinted, -, hnames⟩ := htidy.completed hpending
  have hsame : classes = printed := Except.ok.inj (h.completed.symm.trans hprinted)
  have hclasses : (classes.map (·.name)).Perm d.classNames := by
    rw [hsame, hnames]
    exact htidy.order_perm hpending
  refine ⟨htidy, ?_⟩
  rw [topNames, h.functionName]
  refine List.Perm.cons _ ((hclasses.append_left _).trans ?_)
  have hparts : d.names = d.classNames ++ (d.enums.map (·.1) ++ d.aliases.map (·.1)) :=
    List.append_assoc _ _ _
  rw [hparts]
  exact List.perm_append_comm

theorem topNames_nodup_iff (h : Declares s schema source d classes) :
    (topNames source d classes).Nodup ↔ s.functionName ∉ d.names := by
  obtain ⟨htidy, hperm⟩ := h.topNames_perm
  rw [hperm.nodup_iff, List.nodup_cons]
  exact ⟨fun hn => hn.1, fun hn => ⟨hn, htidy.names⟩⟩

/-- What is declared for a document begins as its hints do. -/
theorem stemmed (h : Declares s schema source d classes) :
    d.Stemmed (documentStems s schema) := by
  obtain ⟨root, g, hread, hr⟩ := h.translated
  obtain ⟨doc, hroot, rfl, htexts⟩ := Schema.Document.read_ok hread
  have hasks {path : String} {part : Json} {node : Node}
      (hnode : Schema.Document.node doc path part = .ok node)
      (hsub : part.refTexts ⊆ schema.refTexts) : Asks (documentStems s schema) node := by
    intro description name ref hm
    obtain ⟨text, ht, hcite⟩ := Schema.Document.node_cites hnode _ hm
    obtain ⟨asked, hasked, -, he⟩ := Schema.Document.refNode_ok.mp (hcite "")
    cases he
    have hstem : Text.pascalCase asked ∈ documentStems s schema := by
      refine List.mem_append_right _ (List.mem_map_of_mem ?_)
      exact List.mem_filterMap.mpr ⟨text, hsub ht, hasked⟩
    unfold NameHint.ofJson
    split
    · exact .inr (NameHint.From.text_iff.mpr ⟨_, hstem, List.prefix_rfl⟩)
    · exact .inl rfl
  have hg (ref : Ref) (node : Node) (hres : doc.table.resolve ref = .ok node) :
      Asks (documentStems s schema) node := by
    obtain ⟨definition, hm, hm'⟩ := List.mem_flatMap.mp (Schema.Graph.mem_of_resolve hres)
    obtain ⟨start, -, he⟩ := List.mem_map.mp hm'
    exact hasks (congrArg Prod.snd he) (htexts definition hm)
  have hhint := (NameHint.from_self (.ofJson s.rootName)).mono
    (List.subset_append_left _ ((schema.refTexts.filterMap
      Schema.Document.definitionName?).map Text.pascalCase))
  exact Translation.within_stemmed hg s _ _ _ _ _ _ (hasks hroot (List.Subset.refl _)) hhint
    ⟨fun _ hm => absurd hm List.not_mem_nil, le_rfl⟩ (Translation.returns_translate.mp hr)

end Declares

/-! ## A definition named like the function -/

def wordObject : Json :=
  .obj [("type", .str "object"), ("properties", .obj [("word", .obj [("type", .str "string")])]),
    ("required", .arr [.str "word"])]

def wordNode : Node := .object .null [("word", .primitive .null (.str "string"))]

theorem node_word (doc : Schema.Document) (path : String) :
    Schema.Document.node doc path (.obj [("type", .str "string")]) =
      .ok (.primitive .null (.str "string")) := by
  rw [Schema.Document.node, Schema.Document.bareNode_eq]
  simp [Json.find?, Schema.Document.typedNode, Schema.Document.primitiveTypes,
    Schema.Document.annotate]

theorem node_wordObject (doc : Schema.Document) (path : String) :
    Schema.Document.node doc path wordObject = .ok wordNode := by
  have hfields : Schema.Document.fieldNodes doc path (.arr [.str "word"])
      [("word", .obj [("type", .str "string")])] =
        .ok [("word", .primitive .null (.str "string"))] := by
    rw [Schema.Document.fieldNodes, node_word, Schema.Document.fieldNodes]
    rfl
  rw [wordObject, Schema.Document.node, Schema.Document.bareNode_eq]
  simp only [Json.find?, String.reduceEq, if_false, if_true, Schema.Document.typedNode]
  rw [Schema.Document.objectNode_eq]
  simp only [Json.find?, String.reduceEq, if_false, if_true, Option.getD_some, hfields]
  rfl

def definedMembers (name : String) : List (String × Json) :=
  [("$ref", .str ("#/$defs/" ++ name)), ("$defs", .obj [(name, wordObject)])]

def definedDocument (name : String) : Schema.Document := ⟨0, [(name, wordObject)]⟩

def definedRoot (name : String) : Node := .lazy .null (.str name) ⟨0, "#/$defs/" ++ name⟩

theorem read_defined (name : String) : Schema.Document.read 0 (.obj (definedMembers name)) =
    .ok (definedRoot name, (definedDocument name).table) := by
  have hname : Schema.Document.definitionName? ("#/$defs/" ++ name) = some name :=
    Schema.Document.definitionName?_eq_some.mpr ⟨_, List.mem_cons_self, rfl⟩
  have hfound : (Json.find? name (definedDocument name).definitions).isSome = true := by
    simp [definedDocument, Json.find?]
  have hdefinitions : Schema.Document.definitionsUnder "definitions" (definedMembers name) =
    .ok [] := rfl
  have hdefs : Schema.Document.definitionsUnder "$defs" (definedMembers name) =
    .ok [(name, wordObject)] := rfl
  have href : Json.find? "$ref" (definedMembers name) = some (.str ("#/$defs/" ++ name)) := rfl
  have hroot : Schema.Document.node (definedDocument name) "#" (.obj (definedMembers name)) =
    .ok (definedRoot name) := Schema.Document.node_of_ref hname hfound href
  have hread : Schema.Document.read 0 (.obj (definedMembers name)) = _ :=
    Schema.Document.read_eq hdefinitions hdefs (rfl : (definedDocument name).definitions = _)
  rw [hread, hroot]
  rfl

theorem resolve_defined (name : String) :
    (definedDocument name).table.resolve ⟨0, "#/$defs/" ++ name⟩ = .ok wordNode := by
  have hfound : Json.find? name (definedDocument name).definitions = some wordObject := by
    simp [definedDocument, Json.find?]
  have hresolve := Schema.Document.resolve_table (definedDocument name) List.mem_cons_self name
  rw [hfound] at hresolve
  exact hresolve.trans (node_wordObject _ _)

variable {s : Settings.Translator} {limit : Int} {name : String}

theorem peel_unwrapped (hlimit : s.unwrapLimit.toInt? = some limit) (hpos : 0 ≤ limit) {node : Node}
    (hd : node.description = .null) (hn : node.isNode = true) (ht : node.target? = none) :
    Schema.peel s.unwrapLimit node = .ok (.start node) := by
  obtain ⟨budget, hb⟩ : ∃ budget, (limit + 1).toNat = budget + 1 := ⟨limit.toNat, by omega⟩
  have hnote : (Schema.Peeled.start node).note Json.null = .start node := rfl
  unfold Schema.peel
  rw [hlimit]
  simp only [hb]
  cases node with
  | foreign | thunk => cases hn
  | wrapper | pipeline => cases ht
  | bare | primitive | literal | object | array | enumeration | memberEnum | record | union | lazy =>
    simp only [Schema.Node.description] at hd
    subst hd
    rfl

theorem uniqueName_first (h : Text.isTypeName name.toList = true) :
    Declarations.uniqueName {} name = (name, 0) := by
  have hne : name ≠ "" := by
    rintro rfl
    cases h
  have hbase : Declarations.baseName name = name := by
    unfold Declarations.baseName
    rw [Text.pascalCase_of_isTypeName h, if_neg hne]
  simp [Declarations.uniqueName, Declarations.isDeclared, Declarations.names, hbase]

/-- A definition that is named like a type gives its class that name. -/
theorem returns_defined (hlimit : s.unwrapLimit.toInt? = some limit) (hpos : 0 ≤ limit)
    (h : Text.isTypeName name.toList = true) (hint : NameHint) :
    ∃ d, Returns (translate (definedDocument name).table s (definedRoot name) hint) {} name d ∧
      d.names = [name] := by
  let g := (definedDocument name).table
  have hne : name ≠ "" := by
    rintro rfl
    cases h
  have hhint : (NameHint.ofJson (.str name)).orElse hint = .text name := by
    simp [NameHint.ofJson, Json.truthy, hne, NameHint.orElse]
  obtain ⟨nesting, hnesting⟩ : ∃ nesting,
      g.reach (Translation.maxSteps g s 0) (definedRoot name) = nesting + 2 := by
    have hheight : 1 ≤ max g.height (definedRoot name).height :=
      le_max_of_le_right (definedRoot name).height_pos
    have hle : 1 * 2 ≤ g.reach (Translation.maxSteps g s 0) (definedRoot name) :=
      Nat.mul_le_mul (Nat.succ_le_succ (Nat.zero_le _)) (Nat.succ_le_succ hheight)
    exact ⟨_, (Nat.sub_add_cancel hle).symm⟩
  have hpeel {node : Node} := @peel_unwrapped s limit hlimit hpos node
  -- the class, the reference to it, and then its field
  have hclass : Returns (Translation.declareClass (.text name)) {} name
      { classes := [(name, ⟨name, []⟩)] } := by
    refine Translation.returns_declareClass.mpr ⟨name, rfl, ?_⟩
    simp [Declarations.declareClass, uniqueName_first h]
  let d₁ : Declarations := Declarations.recordLazy { classes := [(name, ⟨name, []⟩)] }
    ⟨0, "#/$defs/" ++ name⟩ name
  have hword : Returns (within g s (nesting + 1) (.primitive .null (.str "string"))
      (.text (name ++ "_" ++ "word"))) d₁ "string" d₁ :=
    Translation.returns_step.mpr ⟨_, "string", hpeel rfl rfl rfl,
      Translation.returns_lift.mpr ⟨by rfl, rfl⟩, rfl⟩
  obtain ⟨d₂, hfields, hnames⟩ : ∃ d₂,
      Returns (Translation.fields s (within g s (nesting + 1)) name []
        [("word", .primitive .null (.str "string"))]) d₁ () d₂ ∧ d₂.names = d₁.names :=
    ⟨_, Translation.returns_fields_cons.mpr ⟨_, _, _, hpeel rfl rfl rfl, hword,
      Translation.returns_fields_nil.mpr rfl⟩, Declarations.names_addField _ _ _⟩
  have hlazy : Returns (Translation.lazyType g s (within g s (nesting + 1))
      ⟨0, "#/$defs/" ++ name⟩ (.text name)) {} name (d₂.completeClass name) := by
    unfold Translation.lazyType
    refine Translation.returns_bind.mpr ⟨_, _, Translation.returns_get.mpr ⟨rfl, rfl⟩, ?_⟩
    refine Translation.returns_bind.mpr
      ⟨wordNode, _, Translation.returns_lift.mpr ⟨resolve_defined name, rfl⟩, ?_⟩
    refine Translation.returns_bind.mpr
      ⟨.start wordNode, _, Translation.returns_lift.mpr ⟨hpeel rfl rfl rfl, rfl⟩, ?_⟩
    refine Translation.returns_bind.mpr ⟨name, _, hclass, ?_⟩
    refine Translation.returns_bind.mpr ⟨(), d₁, Translation.returns_modify.mpr rfl, ?_⟩
    have hdone := Translation.returns_classType.mpr ⟨d₂, hfields, rfl, rfl⟩
    exact Translation.returns_bind.mpr ⟨name, _, hdone, Translation.returns_pure.mpr ⟨rfl, rfl⟩⟩
  refine ⟨d₂.completeClass name, ?_, ?_⟩
  · rw [Translation.returns_translate, hnesting]
    refine Translation.returns_step.mpr ⟨_, name, hpeel rfl rfl rfl, ?_, rfl⟩
    change Returns (Translation.lazyType g s _ _ ((NameHint.ofJson (.str name)).orElse hint)) _ _ _
    rw [hhint]
    exact hlazy
  · exact hnames

/-- Every source is rendered from what its schema's translation has declared, and the types in it have
distinct names. For all schemas the parse function has a name of its own as well exactly if the settings
do not name it like a type; and whatever they name it, it has one in the source of a schema if no hint of
the document, taken as a name, is the beginning of the function's name. -/
theorem function_apart_iff (hlimit : s.unwrapLimit.toInt? = some limit) (hpos : 0 ≤ limit) :
    (∀ schema source, Source.ofSchema s schema = .ok source →
      ∃ d classes, Declares s schema source d classes) ∧
    (∀ schema source d classes, Declares s schema source d classes →
      (topNames source d classes).tail.Nodup) ∧
    ((∀ schema source d classes, Declares s schema source d classes →
      (topNames source d classes).Nodup) ↔ Text.isTypeName s.functionName.toList = false) ∧
    ∀ schema source d classes, Declares s schema source d classes →
      (∀ stem ∈ documentStems s schema, ¬ stem.toList <+: s.functionName.toList) →
      (topNames source d classes).Nodup := by
  refine ⟨fun _ _ => Declares.of_built, fun schema source d classes h => ?_, ⟨fun hall => ?_, ?_⟩, ?_⟩
  · obtain ⟨htidy, hperm⟩ := h.topNames_perm
    have hfunction : topNames source d classes =
        s.functionName :: (topNames source d classes).tail := by
      rw [topNames, h.functionName, List.tail_cons]
    rw [hfunction] at hperm
    exact (hperm.cons_inv).nodup_iff.mpr htidy.names
  · rw [Bool.eq_false_iff]
    intro htype
    obtain ⟨d, hr, hnames⟩ := returns_defined hlimit hpos htype (.ofJson s.rootName)
    obtain ⟨source, classes, hd⟩ := Declares.of_translated (read_defined s.functionName) hr
    have hapart := hd.topNames_nodup_iff.mp (hall _ _ _ _ hd)
    rw [hnames] at hapart
    exact hapart List.mem_cons_self
  · intro htype schema source d classes h
    refine h.topNames_nodup_iff.mpr fun hm => ?_
    rw [h.topNames_perm.1.typeNames _ hm] at htype
    cases htype
  · intro schema source d classes h hstems
    refine h.topNames_nodup_iff.mpr fun hm => ?_
    obtain ⟨stem, hs, hp⟩ := h.stemmed.names _ hm
    exact hstems stem hs hp

/-- A function whose name starts with a small letter is apart from all types. -/
theorem function_apart_iff_small :
    (Settings.Translator.functionName { functionPrefix := .str "parse" }) = "parseRoot" ∧
      ∀ schema source d classes,
        Declares { functionPrefix := .str "parse" } schema source d classes →
        (topNames source d classes).Nodup := by
  obtain ⟨-, -, hiff, -⟩ :=
    @function_apart_iff { functionPrefix := .str "parse" } 50 rfl (by decide)
  exact ⟨rfl, hiff.mpr (by decide)⟩

/-- By default the function is named like the class of a definition `GenRoot`. -/
theorem function_named_like_class : ∃ source d classes,
    Declares {} (.obj (definedMembers "GenRoot")) source d classes ∧
      topNames source d classes = ["GenRoot", "GenRoot"] := by
  obtain ⟨d, hr, hnames⟩ := @returns_defined {} 50 "GenRoot" rfl (by decide) (by decide)
    (.ofJson (.str "Root"))
  obtain ⟨source, classes, h⟩ := Declares.of_translated (read_defined "GenRoot") hr
  obtain ⟨-, hperm⟩ := h.topNames_perm
  rw [hnames] at hperm
  have htwice : (topNames source d classes).Perm (List.replicate 2 "GenRoot") := hperm
  exact ⟨source, d, classes, h, List.perm_replicate.mp htwice⟩

end StructuredOutput.Baml
