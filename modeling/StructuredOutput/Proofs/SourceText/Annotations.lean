import StructuredOutput.Baml.Source
import StructuredOutput.Proofs.Schema.Definitions

/-! # Annotations

Schemas that differ in annotations have one source, fault or not, as long as no annotation is put
beside an alternative that says null and nothing else. Such an alternative makes a union nullable;
with an annotation beside it, it is one option of the union, and null comes first in the text. -/
namespace StructuredOutput

namespace Schema.Document

open Json (find?)

variable {keeps : Json → Json → Prop} {members members' : List (String × Json)}

/-- Alike members hold alike definitions, or the same value that is refused. -/
theorem definitionsUnder_alike (key : String) (hk : keyword? key = some .definitions)
    (h : SameKeywords (PartAlike keeps) members members') :
    (∃ fault, definitionsUnder key members = .error fault ∧
      definitionsUnder key members' = .error fault) ∨
    ∃ definitions definitions', definitionsUnder key members = .ok definitions ∧
      definitionsUnder key members' = .ok definitions' ∧
      SameNames (Alike keeps) definitions definitions' := by
  have hsame : ∀ result : Except Fault (List (String × Json)),
      (∃ fault, result = .error fault ∧ result = .error fault) ∨
      ∃ definitions definitions', result = .ok definitions ∧ result = .ok definitions' ∧
        SameNames (Alike keeps) definitions definitions' := fun result => by
    cases result with
    | error fault => exact .inl ⟨fault, rfl, rfl⟩
    | ok definitions => exact .inr ⟨definitions, definitions, rfl, rfl, .refl .same definitions⟩
  unfold definitionsUnder
  rcases h.find hk with ⟨hf, hf'⟩ | ⟨value, value', hf, hf', hp⟩
  · rw [hf, hf']
    exact hsame _
  · rw [hf, hf']
    cases hp with
    | same => exact hsame _
    | definitions h => exact .inr ⟨_, _, rfl, rfl, h⟩

/-- Definitions that are read alike make one table. -/
theorem table_alike (hkeeps : ∀ v v', keeps v v' → isNullOnly v = isNullOnly v') {number : Nat}
    {definitions definitions' : List (String × Json)}
    (h : SameNames (Alike keeps) definitions definitions')
    (hdoc : SameDefined (fun _ => True) ⟨number, definitions⟩ ⟨number, definitions'⟩) :
    table ⟨number, definitions⟩ = table ⟨number, definitions'⟩ := by
  suffices hentries : ∀ defined defined' : List (String × Json),
      SameNames (Alike keeps) defined defined' →
      (defined.flatMap fun entry => refStarts.map fun start =>
        ((⟨number, start ++ entry.1⟩ : Ref),
          node ⟨number, definitions⟩ (start ++ entry.1) entry.2)) =
      defined'.flatMap fun entry => refStarts.map fun start =>
        (⟨number, start ++ entry.1⟩, node ⟨number, definitions'⟩ (start ++ entry.1) entry.2) from
    congrArg Graph.mk (hentries definitions definitions' h)
  intro defined defined' hd
  induction hd with
  | nil => rfl
  | @cons name value value' _ _ hv _ ih =>
    have hnode : ∀ path, node ⟨number, definitions⟩ path value =
        node ⟨number, definitions'⟩ path value' := fun path =>
      (node_alike hkeeps hdoc path value value' hv fun _ _ => trivial).1
    rw [List.flatMap_cons, List.flatMap_cons, ih]
    simp only [hnode]

/-- Schemas that differ in annotations are read as one. -/
theorem read_alike (hkeeps : ∀ v v', keeps v v' → isNullOnly v = isNullOnly v')
    {schema schema' : Json} (h : Alike keeps schema schema') (number : Nat) :
    read number schema = read number schema' := by
  cases h with
  | same => rfl
  | @schema members members' hm =>
    rw [read, read]
    rcases definitionsUnder_alike "definitions" rfl hm with
      ⟨fault, hf, hf'⟩ | ⟨definitions, definitions', hf, hf', hd⟩
    · rw [hf, hf']
      rfl
    rcases definitionsUnder_alike "$defs" rfl hm with
      ⟨fault, hs, hs'⟩ | ⟨defs, defs', hs, hs', hds⟩
    · rw [hf, hf', hs, hs']
      rfl
    have hunion := hd.union hds
    have hdoc : SameDefined (fun _ => True) ⟨number, Json.union definitions defs⟩
        ⟨number, Json.union definitions' defs'⟩ :=
      ⟨rfl, fun _ name _ _ => hunion.find?_isSome name⟩
    have hroot := (node_alike hkeeps hdoc "#" (.obj members) (.obj members') (.schema hm)
      fun _ _ => trivial).1
    simp only [hf, hf', hs, hs', bind, Except.bind, hroot, table_alike hkeeps hunion hdoc]

end Schema.Document

namespace Baml

open Schema.Document (Alike isNullOnly)

/-- Annotations that are put in or left out anywhere leave a source as it is, its key included, and a
fault as well, as long as the same alternatives say null and nothing else. -/
theorem source_unannotated {schema schema' : Json}
    (h : Alike (fun v v' => isNullOnly v = isNullOnly v') schema schema')
    (s : Settings.Translator) : Source.ofSchema s schema = Source.ofSchema s schema' := by
  unfold Source.ofSchema
  rw [Schema.Document.read_alike (fun _ _ h => h) h 0]

def linkDefinition : Json :=
  .obj [("type", .str "object"), ("properties", .obj [("next", .obj [("anyOf",
    .arr [.obj [("$ref", .str "#/$defs/Link")], .obj [("type", .str "null")]])])])]

def linkSchema : Json :=
  .obj [("$ref", .str "#/$defs/Link"), ("$defs", .obj [("Link", linkDefinition)])]

/-- The same schema with annotations at the root, the definition, the property and the alternative
that is a reference. -/
def labelledLinkSchema : Json :=
  .obj [("$schema", .str "https://json-schema.org/draft/2020-12/schema"),
    ("$ref", .str "#/$defs/Link"),
    ("$defs", .obj [("Link", .obj [("title", .str "Link"), ("type", .str "object"),
      ("properties", .obj [("next", .obj [("$comment", .str "the next link"),
        ("anyOf", .arr [.obj [("$ref", .str "#/$defs/Link"), ("examples", .arr [])],
          .obj [("type", .str "null")]])])])])])]

theorem source_unannotated_link :
    Source.ofSchema {} linkSchema = Source.ofSchema {} labelledLinkSchema ∧
      (Source.ofSchema {} linkSchema).map (·.rootType) = .ok "Link" := by
  refine ⟨source_unannotated ?_ {}, ?_⟩
  · refine .schema (.added rfl (.kept rfl (.same _) (.kept rfl (.definitions (.cons ?_ .nil)) .nil)))
    refine .schema (.added rfl (.kept rfl (.same _) (.kept rfl (.named (.cons ?_ .nil)) .nil)))
    refine .schema (.added rfl (.kept rfl (.alternatives (.cons ?_ (.cons (.same _) .nil)) ?_) .nil))
    · exact .schema (.kept rfl (.same _) (.added rfl .nil))
    · exact .cons rfl (.cons rfl .nil)
  · let doc : Schema.Document := ⟨0, [("Link", linkDefinition)]⟩
    have hlink : ∀ start ∈ Schema.Document.refStarts,
        Schema.Document.node doc (start ++ "Link") linkDefinition = .ok (.object .null
          [("next", .wrapper .null .optional (.wrapper .null .nullable
            (.lazy .null (.str "Link") ⟨0, "#/$defs/Link"⟩)))]) := by
      simp only [Schema.Document.refStarts, List.forall_mem_cons]
      exact ⟨by cbv, by cbv, List.forall_mem_nil _⟩
    have hroot : Schema.Document.node doc "#" linkSchema =
        .ok (.lazy .null (.str "Link") ⟨0, "#/$defs/Link"⟩) :=
      Schema.Document.node_of_ref rfl rfl rfl
    have hread : Schema.Document.read 0 linkSchema =
        .ok (.lazy .null (.str "Link") ⟨0, "#/$defs/Link"⟩, doc.table) := by
      have hdoc : doc.definitions = Json.union [] [("Link", linkDefinition)] := rfl
      exact (Schema.Document.read_eq rfl rfl hdoc).trans (congrArg _ hroot)
    rw [Source.ofSchema, hread, Schema.Document.table]
    simp only [List.flatMap_cons, List.flatMap_nil, doc, List.map_congr_left fun start hs =>
      congrArg (Prod.mk (⟨0, start ++ "Link"⟩ : Schema.Ref)) (hlink start hs)]
    rfl

def optionalText : Json :=
  .obj [("anyOf", .arr [.obj [("type", .str "null")], .obj [("type", .str "string")]])]

def labelledText : Json :=
  .obj [("anyOf", .arr [.obj [("type", .str "null"), ("title", .str "None")],
    .obj [("type", .str "string")]])]

/-- A title beside null changes the text. -/
theorem labelled_null_shows :
    Alike (fun _ _ => True) optionalText labelledText ∧
      ∃ text text', (Source.ofSchema {} optionalText).map (·.text) = .ok text ∧
        (Source.ofSchema {} labelledText).map (·.text) = .ok text' ∧ text ≠ text' := by
  have hread : Schema.Document.read 0 optionalText =
      .ok (.wrapper .null .nullable (.primitive .null (.str "string")), ⟨[]⟩) := by cbv
  have hread' : Schema.Document.read 0 labelledText = .ok (.union .null
      [.primitive .null (.str "null"), .primitive .null (.str "string")], ⟨[]⟩) := by cbv
  refine ⟨?_, targetText ++ functionText "GenRoot" "string | null" (.str "openai/gpt-4o"),
    targetText ++ functionText "GenRoot" "null | string" (.str "openai/gpt-4o"), ?_, ?_, by decide⟩
  · refine .schema (.kept rfl (.alternatives (.cons ?_ (.cons (.same _) .nil)) ?_) .nil)
    · exact .schema (.kept rfl (.same _) (.added rfl .nil))
    · exact .cons trivial (.cons trivial .nil)
  · rw [Source.ofSchema, hread]
    rfl
  · rw [Source.ofSchema, hread']
    rfl

end Baml

end StructuredOutput
