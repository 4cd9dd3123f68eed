import StructuredOutput.Proofs.Schema.InStep

/-! # Schemas that read alike

Schemas that differ in annotations only give the same node or the same fault, as long as alternatives
that say null and nothing else do so on both sides and both documents define the same references: they
are read in step, at one place and to one node. With the result it is said where the deferred nodes come
from: each is what the text of a reference in the schema stands for. -/
namespace StructuredOutput.Schema.Document

open Json (find?)

/-! ## Results that agree -/

/-- Two results of reading are one, and what was read holds. -/
def ReadsAs {α : Type} (holds : α → Prop) (r r' : Except Fault α) : Prop :=
  r = r' ∧ ∀ a, r = .ok a → holds a

theorem ReadsAs.fault {α : Type} {holds : α → Prop} (fault : Fault) :
    ReadsAs holds (.error fault) (.error fault) :=
  ⟨rfl, nofun⟩

theorem ReadsAs.value {α : Type} {holds : α → Prop} {a : α} (h : holds a) :
    ReadsAs holds (.ok a) (.ok a) :=
  ⟨rfl, fun _ he => Except.ok.inj he ▸ h⟩

/-- Two documents that define the same references among those with the given texts. -/
structure SameDefined (texts : String → Prop) (doc doc' : Document) : Prop where
  graph : doc.graph = doc'.graph
  defined : ∀ text name, texts text → definitionName? text = some name →
    (find? name doc.definitions).isSome = (find? name doc'.definitions).isSome

/-- Each deferred node of a node is what the text of a reference stands for. -/
def Cites (doc : Document) (texts : String → Prop) (node : Node) : Prop :=
  ∀ part ∈ node.deferred, ∃ text, texts text ∧ ∀ path, refNode doc path (.str text) = .ok part

variable {doc doc' : Document} {texts : String → Prop}

theorem cites_of_no_deferred {node : Node} (h : node.deferred = []) : Cites doc texts node := by
  intro part hm
  rw [h] at hm
  cases hm

theorem cites_list {nodes : List Node} (h : ∀ node ∈ nodes, Cites doc texts node) (d : Json) :
    Cites doc texts (.union d nodes) := by
  intro part hm
  obtain ⟨node, hn, hm⟩ := Node.mem_listDeferred.mp hm
  exact h node hn part hm

theorem cites_array {element : Node} (h : Cites doc texts element) (d low high : Json) :
    Cites doc texts (.array d [element] low high) := by
  intro part hm
  obtain ⟨node, hn, hm⟩ := Node.mem_listDeferred.mp hm
  rw [List.mem_singleton.mp hn] at hm
  exact h part hm

theorem cites_object {members : List (String × Node)}
    (h : ∀ member ∈ members, Cites doc texts member.2) (d : Json) :
    Cites doc texts (.object d members) := by
  intro part hm
  obtain ⟨member, hn, hm⟩ := Node.mem_membersDeferred.mp hm
  exact h member hn part hm

theorem cites_record {key value : Node} (hk : Cites doc texts key) (hv : Cites doc texts value)
    (d : Json) : Cites doc texts (.record d key value) :=
  fun part hm => (List.mem_append.mp hm).elim (hk part) (hv part)

theorem cites_annotate {node : Node} (h : Cites doc texts node) (members : List (String × Json)) :
    Cites doc texts (annotate members node) := by
  have ha := annotated members node
  generalize annotate members node = result at ha ⊢
  induction ha with
  | same => exact h
  | plain => exact h
  | described _ hl =>
    intro part hm
    rw [Node.deferred_describe hl] at hm
    exact h part hm
  | default _ _ _ ih => exact ih

theorem annotate_congr {keeps : Json → Json → Prop} {members members' : List (String × Json)}
    (h : Lookups keeps texts members members') (node : Node) :
    annotate members node = annotate members' node := by
  unfold annotate
  rw [h.value "description" rfl, h.value "default" rfl]

/-! ## References -/

theorem refNode_text (doc : Document) (path text : String) :
    refNode doc path (.str text) = match definitionName? text with
      | some name =>
        if (find? name doc.definitions).isSome then .ok (.lazy .null (.str name) ⟨doc.graph, text⟩)
        else .error (.unsupported ("unresolvable $ref " ++ text) path)
      | none => .error (.unsupported ("unresolvable $ref " ++ text) path) := rfl

/-- A text that names a definition stands for a deferred node, whatever the path. -/
theorem refNode_ok {path text : String} {node : Node} :
    refNode doc path (.str text) = .ok node ↔ ∃ name, definitionName? text = some name ∧
      (find? name doc.definitions).isSome = true ∧
      node = .lazy .null (.str name) ⟨doc.graph, text⟩ := by
  rw [refNode_text]
  cases definitionName? text with
  | none => simp
  | some name =>
    cases hd : (find? name doc.definitions).isSome with
    | false => simp [hd]
    | true =>
      simp only [hd, if_true]
      constructor
      · exact fun h => ⟨name, rfl, hd, (Except.ok.inj h).symm⟩
      · rintro ⟨other, hname, -, rfl⟩
        cases hname
        rfl

theorem refNode_alike (hdoc : SameDefined texts doc doc') (path : String) (ref : Json)
    (h : ∀ text, ref = .str text → texts text) :
    ReadsAs (Cites doc texts) (refNode doc path ref) (refNode doc' path ref) := by
  cases ref with
  | str text =>
    have hcites : ∀ node, refNode doc path (.str text) = .ok node → Cites doc texts node := by
      intro node hn part hm
      obtain ⟨name, hname, hd, rfl⟩ := refNode_ok.mp hn
      rw [List.mem_singleton.mp hm]
      exact ⟨text, h text rfl, fun path => refNode_ok.mpr ⟨name, hname, hd, rfl⟩⟩
    refine ⟨?_, hcites⟩
    rw [refNode_text, refNode_text, hdoc.graph]
    cases hn : definitionName? text with
    | none => rfl
    | some name => simp only [hdoc.defined text name (h text rfl) hn]
  | _ => exact .fault _

/-! ## Alike schemas are read in step -/

section

variable {keeps : Json → Json → Prop}

theorem alike_places : Places Eq Eq where
  below part h := congrArg (· ++ part) h
  same _ := rfl
  unsupported kind h := congrArg (Fault.unsupported kind) h

/-- Two parts under a keyword that differ in annotations only and have the texts of their references
among the given ones. -/
def PartWithin (keeps : Json → Json → Prop) (texts : String → Prop) (part : Part)
    (value value' : Json) : Prop :=
  PartAlike keeps part value value' ∧ ∀ text ∈ value.refTexts, texts text

theorem partWithin_items {items items' : List Json} (h : List.Forall₂ (Alike keeps) items items')
    (ht : ∀ text ∈ (Json.arr items).refTexts, texts text) :
    List.Forall₂ (PartWithin keeps texts .schema) items items' := by
  rw [Json.refTexts] at ht
  induction h with
  | nil => exact .nil
  | cons h _ ih =>
    rw [Json.itemsRefTexts, List.forall_mem_append] at ht
    exact .cons ⟨.schema h, ht.1⟩ (ih ht.2)

theorem partWithin_members {members members' : List (String × Json)}
    (h : SameNames (Alike keeps) members members')
    (ht : ∀ text ∈ (Json.obj members).refTexts, texts text) :
    SameNames (PartWithin keeps texts .schema) members members' := by
  rw [Json.refTexts] at ht
  induction h with
  | nil => exact .nil
  | cons h _ ih =>
    rw [Json.membersRefTexts, List.forall_mem_append, List.forall_mem_append] at ht
    exact .cons ⟨.schema h, ht.1.2⟩ (ih ht.2)

theorem alike_forms (hkeeps : ∀ v v', keeps v v' → isNullOnly v = isNullOnly v') :
    Forms (PartWithin keeps texts) (Lookups keeps texts) fun _ _ => False where
  members h := h.part
  value h := by
    cases h.1
    rfl
  schema := by
    rintro value value' ⟨h, ht⟩
    have halike := h.of_schema
    cases value with
    | obj members =>
      obtain ⟨members', hsame, hl⟩ := halike.lookups ht
      exact .inr ⟨members, members', rfl, hsame, hl⟩
    | _ =>
      cases halike
      exact .inl ⟨rfl, nofun⟩
  schemas := fun ⟨h, ht⟩ => h.of_schemas.imp_right fun ⟨items, items', hv, hv', h⟩ =>
    ⟨items, items', hv, hv', partWithin_items h (hv ▸ ht)⟩
  alternatives := fun ⟨h, ht⟩ =>
    (h.of_alternatives hkeeps).imp_right fun ⟨items, items', hv, hv', h, hn⟩ =>
      ⟨items, items', hv, hv', partWithin_items h (hv ▸ ht), hn⟩
  items := fun ⟨h, ht⟩ => h.of_items.imp (fun ⟨h, hno⟩ => ⟨⟨.schema h, ht⟩, hno⟩)
    fun ⟨items, items', hv, hv', h⟩ => ⟨items, items', hv, hv', partWithin_items h (hv ▸ ht)⟩
  named := fun ⟨h, ht⟩ => h.of_named.imp_right fun ⟨members, members', hv, hv', h⟩ =>
    ⟨members, members', hv, hv', .inl (partWithin_members h (hv ▸ ht))⟩

theorem readsAs_iff {α : Type} {holds : α → Prop} {r r' : Except Fault α} :
    ReadsAs holds r r' ↔ InStep Eq (fun a a' => a = a' ∧ holds a) r r' := by
  constructor
  · rintro ⟨rfl, hholds⟩
    cases r with
    | error fault => exact .error rfl
    | ok a => exact .ok ⟨rfl, hholds a rfl⟩
  · rintro (⟨rfl, hholds⟩ | rfl)
    · exact .value hholds
    · exact .fault _

theorem alike_kept (hdoc : SameDefined texts doc doc') :
    KeptInStep doc doc' Eq Eq (Lookups keeps texts) (fun _ _ => False)
      fun node node' => node = node' ∧ Cites doc texts node where
  reference h href hpath := hpath ▸ readsAs_iff.mp
    (refNode_alike hdoc _ _ fun text he => h.ref text (he ▸ href))
  leaf h := ⟨rfl, cites_of_no_deferred h⟩
  array low high h := ⟨h.1 ▸ rfl, cites_array h.2 .null low high⟩
  object h := by
    refine ⟨(h.imp fun _ _ => And.left).eq ▸ rfl, cites_object ?_ .null⟩
    induction h with
    | nil => exact List.forall_mem_nil _
    | cons h _ ih => exact List.forall_mem_cons.mpr ⟨h.2, ih⟩
  record hkey hvalue := ⟨hkey.1 ▸ hvalue.1 ▸ rfl, cites_record hkey.2 hvalue.2 .null⟩
  union h := by
    have hsame := h.imp fun _ _ => And.left
    rw [List.forall₂_eq_eq_eq] at hsame
    refine ⟨hsame ▸ rfl, cites_list ?_ .null⟩
    induction h with
    | nil => exact List.forall_mem_nil _
    | cons h _ ih => exact List.forall_mem_cons.mpr ⟨h.2, ih (List.cons.inj hsame).2⟩
  nullable h := ⟨h.1 ▸ rfl, h.2⟩
  optional h := ⟨h.1 ▸ rfl, h.2⟩
  annotate hl h := ⟨h.1 ▸ annotate_congr hl _, cites_annotate h.2 _⟩
  empty h := h.elim
  spot h := h.elim

variable (hkeeps : ∀ v v', keeps v v' → isNullOnly v = isNullOnly v')
variable (hdoc : SameDefined texts doc doc')

include hkeeps hdoc

theorem node_alike (path : String) (schema schema' : Json) (h : Alike keeps schema schema')
    (ht : ∀ text ∈ schema.refTexts, texts text) :
    ReadsAs (Cites doc texts) (node doc path schema) (node doc' path schema') :=
  have hpart : PartWithin keeps texts .schema schema schema' := ⟨.schema h, ht⟩
  readsAs_iff.mpr <|
    node_inStep alike_places (alike_forms hkeeps) (alike_kept hdoc) hpart path path rfl

theorem membersNode_alike (path : String) (members members' : List (String × Json))
    (h : Lookups keeps texts members members') :
    ReadsAs (Cites doc texts) (node doc path (.obj members)) (node doc' path (.obj members')) :=
  readsAs_iff.mpr <|
    membersNode_inStep alike_places (alike_forms hkeeps) (alike_kept hdoc)
      (fun _ _ _ hpart => node_inStep alike_places (alike_forms hkeeps) (alike_kept hdoc) hpart)
      le_rfl h path path rfl

end

end StructuredOutput.Schema.Document
