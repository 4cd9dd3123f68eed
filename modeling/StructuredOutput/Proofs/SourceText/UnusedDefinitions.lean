import StructuredOutput.Pipeline
import StructuredOutput.Proofs.Hint.SharedTables
import StructuredOutput.Proofs.Schema.Definitions
import StructuredOutput.Proofs.Translation.SharedTables

/-! # Definitions that no reference names

Documents that differ in the order of their definitions and in definitions that no reference in them
names are read to one root, with tables that share the references of the root. So they have one source
and one hint. -/
namespace StructuredOutput

namespace Schema.Document

open Json (find?)

/-- Whether some reference anywhere in a document names a definition, by either start. -/
def Names (members : List (String × Json)) (name : String) : Prop :=
  ∃ start ∈ refStarts, start ++ name ∈ (Json.obj members).refTexts

/-- Two outcomes of looking for definitions: refused alike, or each name once and the same definitions
in any order, but for those that no reference in their document names. -/
inductive SameUsed (named named' : String → Prop) :
    Except Fault (List (String × Json)) → Except Fault (List (String × Json)) → Prop
  | refused (fault : Fault) : SameUsed named named' (.error fault) (.error fault)
  | found {entries entries' : List (String × Json)} :
      (entries.map (·.1)).Nodup → (entries'.map (·.1)).Nodup →
      (∀ entry ∈ entries, entry ∈ entries' ∨ ¬ named entry.1) →
      (∀ entry ∈ entries', entry ∈ entries ∨ ¬ named' entry.1) →
      SameUsed named named' (.ok entries) (.ok entries')

/-- Documents that differ in the order of their definitions and in definitions that no reference in
them names, and in nothing else. -/
structure DifferUnused (members members' : List (String × Json)) : Prop where
  others : ∀ key, key ≠ "definitions" → key ≠ "$defs" → find? key members = find? key members'
  definitions : SameUsed (Names members) (Names members')
    (definitionsUnder "definitions" members) (definitionsUnder "definitions" members')
  defs : SameUsed (Names members) (Names members')
    (definitionsUnder "$defs" members) (definitionsUnder "$defs" members')

/-! ## What the documents have in common -/

/-- Whether a text is that of a reference in both documents. -/
def Common (members members' : List (String × Json)) (text : String) : Prop :=
  text ∈ (Json.obj members).refTexts ∧ text ∈ (Json.obj members').refTexts

variable {members members' : List (String × Json)}

theorem Common.names {text name : String} (h : Common members members' text)
    (hname : definitionName? text = some name) : Names members name ∧ Names members' name := by
  obtain ⟨start, hs, rfl⟩ := definitionName?_eq_some.mp hname
  exact ⟨⟨start, hs, h.1⟩, ⟨start, hs, h.2⟩⟩

theorem SameUsed.outcomes {named named' : String → Prop}
    {r r' : Except Fault (List (String × Json))} (h : SameUsed named named' r r') :
    (∃ fault, r = .error fault ∧ r' = .error fault) ∨
    ∃ entries entries', r = .ok entries ∧ r' = .ok entries' ∧
      (entries.map (·.1)).Nodup ∧ (entries'.map (·.1)).Nodup ∧
      SameUsed named named' (.ok entries) (.ok entries') := by
  cases h with
  | refused fault => exact .inl ⟨fault, rfl, rfl⟩
  | found hnodup hnodup' hout hback =>
    exact .inr ⟨_, _, rfl, rfl, hnodup, hnodup', .found hnodup hnodup' hout hback⟩

/-- A definition that is named is found on both sides. -/
theorem SameUsed.find {named named' : String → Prop} {entries entries' : List (String × Json)}
    (h : SameUsed named named' (.ok entries) (.ok entries')) {name : String} (hn : named name)
    (hn' : named' name) : find? name entries = find? name entries' := by
  cases h with
  | found hnodup hnodup' hout hback =>
    refine Json.find?_congr hnodup hnodup' fun value => ⟨fun hm => ?_, fun hm => ?_⟩
    · exact (hout _ hm).resolve_right (not_not_intro hn)
    · exact (hback _ hm).resolve_right (not_not_intro hn')

/-- Away from their definitions both documents show a reader the same. -/
theorem DifferUnused.lookups (h : DifferUnused members members') :
    Lookups Eq (Common members members') members members' where
  ref text hf := by
    have hf' := hf
    rw [h.others "$ref" (by decide) (by decide)] at hf'
    exact ⟨Json.refText_of_member (Json.mem_of_find? hf),
      Json.refText_of_member (Json.mem_of_find? hf')⟩
  part key part hk hp := by
    have hne : ∀ container, keyword? container = some .definitions → key ≠ container := by
      rintro container hc rfl
      rw [hc] at hk
      cases hk
      exact hp rfl
    have hsame := h.others key (hne _ rfl) (hne _ rfl)
    cases hf : find? key members with
    | none => exact .inl ⟨rfl, hsame ▸ hf⟩
    | some value =>
      have hf' : find? key members' = some value := hsame ▸ hf
      exact .inr ⟨value, value, rfl, hf', .same value, fun text hm =>
        ⟨Json.refTexts_of_member (Json.mem_of_find? hf) hm,
          Json.refTexts_of_member (Json.mem_of_find? hf') hm⟩⟩

/-! ## Shared tables -/

/-- Whether a reference is the one of a given text that names a definition. -/
def Defined (doc : Document) (texts : String → Prop) (ref : Ref) : Prop :=
  ∃ text name, texts text ∧ definitionName? text = some name ∧
    (find? name doc.definitions).isSome = true ∧ ref = ⟨doc.graph, text⟩

theorem Cites.confined {doc : Document} {texts : String → Prop} {node : Node}
    (h : Cites doc texts node) (hp : Parsed node) : Confined (Defined doc texts) node := by
  refine ⟨hp, fun ref hr => ?_⟩
  rw [Node.refs_eq] at hr
  obtain ⟨part, hm, href⟩ := List.mem_filterMap.mp hr
  obtain ⟨text, ht, hcite⟩ := h part hm
  obtain ⟨name, hname, hd, rfl⟩ := refNode_ok.mp (hcite "")
  cases href
  exact ⟨text, name, ht, hname, hd, rfl⟩

/-- Documents that define the references in a set of texts alike, and through them no others, have
tables that share those references. -/
theorem table_shares {doc doc' : Document} {texts : String → Prop} (hgraph : doc.graph = doc'.graph)
    (hsame : ∀ text name, texts text → definitionName? text = some name →
      find? name doc.definitions = find? name doc'.definitions)
    (hclosed : ∀ text name schema, texts text → definitionName? text = some name →
      find? name doc.definitions = some schema → ∀ inner ∈ schema.refTexts, texts inner) :
    doc.table.Shares doc'.table (Defined doc texts) := by
  have hdoc : SameDefined texts doc doc' :=
    ⟨hgraph, fun text name ht hn => by rw [hsame text name ht hn]⟩
  have hresolve : ∀ text name schema, texts text → definitionName? text = some name →
      find? name doc.definitions = some schema →
      doc.table.resolve ⟨doc.graph, text⟩ = node doc text schema ∧
        doc'.table.resolve ⟨doc.graph, text⟩ = node doc' text schema := by
    intro text name schema ht hname hf
    have hf' : find? name doc'.definitions = some schema := hsame text name ht hname ▸ hf
    obtain ⟨start, hs, rfl⟩ := definitionName?_eq_some.mp hname
    constructor
    · rw [resolve_table doc hs, hf, Option.elim_some]
    · rw [hgraph, resolve_table doc' hs, hf', Option.elim_some]
  constructor
  · rintro _ ⟨text, name, ht, hname, hd, rfl⟩
    obtain ⟨schema, hf⟩ := Option.isSome_iff_exists.mp hd
    obtain ⟨hr, hr'⟩ := hresolve text name schema ht hname hf
    rw [hr, hr']
    exact (node_defined hdoc text (hclosed text name schema ht hname hf)).1
  · rintro _ node ⟨text, name, ht, hname, hd, rfl⟩ hnode
    obtain ⟨schema, hf⟩ := Option.isSome_iff_exists.mp hd
    rw [(hresolve text name schema ht hname hf).1] at hnode
    have hparsed := node_fair doc text schema
    rw [hnode] at hparsed
    exact ((node_defined hdoc text (hclosed text name schema ht hname hf)).2 node hnode).confined
      hparsed

/-- Such documents are refused alike, or read to one root with tables that share its references. -/
theorem read_unused (h : DifferUnused members members') (number : Nat) :
    (∃ fault, read number (.obj members) = .error fault ∧
      read number (.obj members') = .error fault) ∨
    ∃ root g g' known, read number (.obj members) = .ok (root, g) ∧
      read number (.obj members') = .ok (root, g') ∧ g.Shares g' known ∧ Confined known root := by
  rcases h.definitions.outcomes with
    ⟨fault, hd, hd'⟩ | ⟨definitions, definitions', hd, hd', -, -, hdsame⟩
  · exact .inl ⟨fault, by rw [read, hd]; rfl, by rw [read, hd']; rfl⟩
  rcases h.defs.outcomes with ⟨fault, hs, hs'⟩ | ⟨defs, defs', hs, hs', hn, hn', hssame⟩
  · exact .inl ⟨fault, by rw [read, hd, hs]; rfl, by rw [read, hd', hs']; rfl⟩
  let doc : Document := ⟨number, Json.union definitions defs⟩
  let doc' : Document := ⟨number, Json.union definitions' defs'⟩
  have hsame : ∀ text name, Common members members' text → definitionName? text = some name →
      find? name doc.definitions = find? name doc'.definitions := by
    intro text name ht hname
    obtain ⟨hnamed, hnamed'⟩ := ht.names hname
    rw [Json.find?_union hn, Json.find?_union hn', hssame.find hnamed hnamed',
      hdsame.find hnamed hnamed']
  have hclosed : ∀ text name schema, Common members members' text →
      definitionName? text = some name → find? name doc.definitions = some schema →
      ∀ inner ∈ schema.refTexts, Common members members' inner := by
    intro text name schema ht hname hf inner hm
    have hf' := hf
    rw [hsame text name ht hname] at hf'
    exact ⟨refTexts_of_union hd hs (Json.mem_of_find? hf) hm,
      refTexts_of_union hd' hs' (Json.mem_of_find? hf') hm⟩
  have hdoc : SameDefined (Common members members') doc doc' :=
    ⟨rfl, fun text name ht hname => by rw [hsame text name ht hname]⟩
  obtain ⟨hroot, hcites⟩ := membersNode_alike (fun _ _ => congrArg isNullOnly) hdoc "#"
    members members' h.lookups
  have hdefined : doc.definitions = Json.union definitions defs := rfl
  have hdefined' : doc'.definitions = Json.union definitions' defs' := rfl
  have hread : read number (.obj members) = _ := read_eq hd hs hdefined
  have hread' : read number (.obj members') = _ := read_eq hd' hs' hdefined'
  rw [hread, hread', ← hroot]
  have hfair := node_fair doc "#" (.obj members)
  cases hr : node doc "#" (.obj members) with
  | error fault => exact .inl ⟨fault, rfl, rfl⟩
  | ok root =>
    rw [hr] at hfair
    exact .inr ⟨root, doc.table, doc'.table, _, rfl, rfl, table_shares rfl hsame hclosed,
      (hcites root hr).confined hfair⟩

end Schema.Document

namespace Baml

open Schema.Document (DifferUnused)

/-- Definitions that no reference names, and the order of the others, leave the source of a document
as it is, its key included, or its fault, and its hint as well. -/
theorem unused_ignored {members members' : List (String × Json)} (h : DifferUnused members members')
    {s : Settings.Translator} {limit : Int} (hlimit : s.maxLazyDepth.toInt? = some limit) :
    Source.ofSchema s (.obj members) = Source.ofSchema s (.obj members') ∧
      Pipeline.hint (.document (.obj members)) = Pipeline.hint (.document (.obj members')) := by
  have hgiven : ∀ schema, Pipeline.hint (.document schema) =
      Schema.Document.read 0 schema >>= fun result => Hint.ofNode result.2 result.1 := fun _ => rfl
  unfold Source.ofSchema
  rw [hgiven, hgiven]
  rcases Schema.Document.read_unused h 0 with
    ⟨fault, hr, hr'⟩ | ⟨root, g, g', known, hr, hr', hshares, hroot⟩
  · rw [hr, hr']
    exact ⟨rfl, rfl⟩
  · have hrun := translate_shared hshares (Schema.Document.read_parsed hr).2
      (Schema.Document.read_parsed hr').2 hlimit hroot (.ofJson s.rootName) {}
    have hdescribe := Hint.describe_shared hshares hroot
    rw [hr, hr']
    constructor
    · change Source.ofNode s g root = Source.ofNode s g' root
      unfold Source.ofNode
      rw [hrun]
    · change Hint.ofNode g root = Hint.ofNode g' root
      unfold Hint.ofNode
      rw [hdescribe]

def wordsMembers : List (String × Json) :=
  [("$ref", .str "#/$defs/Words"),
    ("$defs", .obj [("Words", .obj [("type", .str "array"),
        ("items", .obj [("$ref", .str "#/$defs/Word")])]),
      ("Word", .obj [("type", .str "string")])])]

/-- The same definitions in the other order, with a number between them and a spare word. -/
def spareMembers : List (String × Json) :=
  [("definitions", .obj [("Spare", .obj [("$ref", .str "#/$defs/Word")])]),
    ("$ref", .str "#/$defs/Words"),
    ("$defs", .obj [("Word", .obj [("type", .str "string")]),
      ("Count", .obj [("type", .str "integer")]),
      ("Words", .obj [("type", .str "array"), ("items", .obj [("$ref", .str "#/$defs/Word")])])])]

/-- With or without what is spare, a list of strings. -/
theorem unused_ignored_spare :
    DifferUnused wordsMembers spareMembers ∧
      (Source.ofSchema {} (.obj wordsMembers)).map (·.rootType) = .ok "string[]" ∧
      Source.ofSchema {} (.obj wordsMembers) = Source.ofSchema {} (.obj spareMembers) ∧
      Pipeline.hint (.document (.obj wordsMembers)) =
        Pipeline.hint (.document (.obj spareMembers)) := by
  let words : String × Json := ("Words", .obj [("type", .str "array"),
    ("items", .obj [("$ref", .str "#/$defs/Word")])])
  let word : String × Json := ("Word", .obj [("type", .str "string")])
  have hunnamed : ¬ Schema.Document.Names spareMembers "Spare" ∧
      ¬ Schema.Document.Names spareMembers "Count" := by
    simp [Schema.Document.Names, Schema.Document.refStarts, spareMembers, Json.refTexts,
      Json.membersRefTexts, Json.toStr?]
  have hdiffer : DifferUnused wordsMembers spareMembers := by
    refine ⟨fun key hd hs => ?_, ?_, ?_⟩
    · simp [wordsMembers, spareMembers, Json.find?, hd.symm, hs.symm]
    · exact .found List.nodup_nil (by decide) (by simp) (by simp [hunnamed.1])
    · change Schema.Document.SameUsed _ _ (.ok [words, word]) (.ok [word, ("Count", _), words])
      exact .found (by decide) (by decide) (by simp) (by simp [hunnamed.2])
  have hlimit : ({} : Settings.Translator).maxLazyDepth.toInt? = some 32 := rfl
  obtain ⟨hsource, hhint⟩ := unused_ignored hdiffer hlimit
  refine ⟨hdiffer, ?_, hsource, hhint⟩
  have hread : Schema.Document.read 0 (.obj wordsMembers) =
      .ok (.lazy .null (.str "Words") ⟨0, "#/$defs/Words"⟩,
        ⟨(Schema.Document.refStarts.map fun start => (⟨0, start ++ "Words"⟩,
            .ok (.array .null [.lazy .null (.str "Word") ⟨0, "#/$defs/Word"⟩] .null .null))) ++
          Schema.Document.refStarts.map fun start =>
            (⟨0, start ++ "Word"⟩, .ok (.primitive .null (.str "string")))⟩) := by cbv
  rw [Source.ofSchema, hread]
  rfl

end Baml

end StructuredOutput
