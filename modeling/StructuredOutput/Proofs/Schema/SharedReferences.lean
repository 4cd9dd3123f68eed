import StructuredOutput.Proofs.Schema.Definitions

/-! # What references stand for

All uses of the text of a reference are one deferred node, and its target is the definition that the
text names, except that a definition under `definitions` is hidden by one of the same name under
`$defs`. A reader that keeps what it has made under these texts, whether a deferred node or a definition
it has read, gives the same answers in every order of requests, and keeps one object for each. -/
namespace StructuredOutput.Schema.Document

open Json (find?)

/-! ## A reader that keeps what it has made -/

/-- What a reader is asked for: the node of a reference at a place, or the target of the deferred node
that all uses of a text share. -/
inductive Request where
  | use (path text : String)
  | target (text : String)

/-- Under what an answer is kept: deferred nodes and targets apart, both by the text of the
reference. -/
inductive Slot where
  | shared (text : String)
  | read (text : String)
deriving DecidableEq

namespace Request

def slot : Request → Slot
  | use _ text => .shared text
  | target text => .read text

def answer (doc : Document) : Request → Except Fault Node
  | use path text => refNode doc path (.str text)
  | target text => doc.table.resolve ⟨doc.graph, text⟩

end Request

/-- A node as an object of its own: two objects are one when they have the same number. -/
structure Object where
  number : Nat
  node : Node

/-- The objects that a reader keeps, in the order in which they were made. -/
abbrev Memo := List (Slot × Object)

namespace Memo

def object? (slot : Slot) : Memo → Option Object
  | [] => none
  | (s, object) :: rest => if s = slot then some object else object? slot rest

def number (kept : Memo) (slot : Slot) : Nat := (kept.object? slot).elim 0 Object.number

/-- Answers a request from what is kept, or makes a new object and keeps it. A fault is not kept. -/
def ask (doc : Document) (kept : Memo) (request : Request) : Except Fault Object × Memo :=
  match kept.object? request.slot with
  | some object => (.ok object, kept)
  | none =>
    match request.answer doc with
    | .error fault => (.error fault, kept)
    | .ok node => (.ok ⟨kept.length, node⟩, kept ++ [(request.slot, ⟨kept.length, node⟩)])

def askAll (doc : Document) : Memo → List Request → List (Except Fault Object) × Memo
  | kept, [] => ([], kept)
  | kept, request :: rest =>
    let (answer, kept) := ask doc kept request
    let (answers, kept) := askAll doc kept rest
    (answer :: answers, kept)

variable {doc : Document} {kept later : Memo}

theorem object?_append (slot : Slot) (kept more : Memo) :
    (kept ++ more).object? slot = (kept.object? slot).or (more.object? slot) := by
  induction kept with
  | nil => rfl
  | cons entry rest ih =>
    obtain ⟨s, object⟩ := entry
    rw [List.cons_append, object?, object?]
    split
    · rfl
    · exact ih

theorem object?_later (h : kept <+: later) {slot : Slot} {object : Object}
    (ho : kept.object? slot = some object) : later.object? slot = some object := by
  obtain ⟨more, rfl⟩ := h
  rw [object?_append, ho]
  rfl

theorem mem_of_object? {slot : Slot} {object : Object} (h : kept.object? slot = some object) :
    (slot, object) ∈ kept := by
  induction kept with
  | nil => cases h
  | cons entry rest ih =>
    obtain ⟨s, o⟩ := entry
    rw [object?] at h
    split at h
    · rename_i hs
      cases h
      exact hs ▸ List.mem_cons_self
    · exact List.mem_cons_of_mem _ (ih h)

/-- What a reader keeps is what it would make again, and no two slots hold one object. -/
structure Sound (doc : Document) (kept : Memo) : Prop where
  made : ∀ (request : Request) (object : Object), kept.object? request.slot = some object →
    request.answer doc = .ok object.node
  below : ∀ entry ∈ kept, entry.2.number < kept.length
  apart : ∀ entry ∈ kept, ∀ other ∈ kept, entry.2.number = other.2.number → entry = other

theorem Sound.nil (doc : Document) : Sound doc [] where
  made := fun _ _ h => nomatch h
  below := fun _ h => nomatch h
  apart := fun _ h => nomatch h

/-- The answer to a request depends on its slot alone, as long as there is one. -/
theorem answer_of_slot {request other : Request} {node : Node} (hs : other.slot = request.slot)
    (h : request.answer doc = .ok node) : other.answer doc = .ok node := by
  cases request <;> cases other <;> cases hs
  · exact refNode_ok.mpr (refNode_ok.mp h)
  · exact h

theorem Sound.keep (h : Sound doc kept) {request : Request} {node : Node}
    (ha : request.answer doc = .ok node) :
    Sound doc (kept ++ [(request.slot, ⟨kept.length, node⟩)]) where
  made other object ho := by
    rw [object?_append] at ho
    cases hk : kept.object? other.slot with
    | some found =>
      rw [hk] at ho
      cases ho
      exact h.made other object hk
    | none =>
      rw [hk, Option.none_or, object?] at ho
      split at ho
      · rename_i hs
        cases ho
        exact answer_of_slot hs.symm ha
      · cases ho
  below entry hm := by
    rw [List.length_append, List.length_singleton]
    rcases List.mem_append.mp hm with hm | hm
    · exact Nat.lt_succ_of_lt (h.below entry hm)
    · rw [List.mem_singleton.mp hm]
      exact Nat.lt_succ_self _
  apart entry hm other ho he := by
    rcases List.mem_append.mp hm with hm | hm <;> rcases List.mem_append.mp ho with ho | ho
    · exact h.apart entry hm other ho he
    · -- the new object has a number that no old one has
      rw [List.mem_singleton.mp ho] at he
      exact absurd he (Nat.ne_of_lt (h.below entry hm))
    · rw [List.mem_singleton.mp hm] at he
      exact absurd he.symm (Nat.ne_of_lt (h.below other ho))
    · rw [List.mem_singleton.mp hm, List.mem_singleton.mp ho]

/-- An answer as it would be made anew, given as the object that is kept in a slot. -/
inductive Answers (kept : Memo) (slot : Slot) : Except Fault Node → Except Fault Object → Prop
  | fault (fault : Fault) : Answers kept slot (.error fault) (.error fault)
  | object (object : Object) :
      kept.object? slot = some object → Answers kept slot (.ok object.node) (.ok object)

theorem Answers.mono (hp : kept <+: later) {slot : Slot} {made : Except Fault Node}
    {given : Except Fault Object} (h : Answers kept slot made given) :
    Answers later slot made given := by
  cases h with
  | fault => exact .fault _
  | object object ho => exact .object object (object?_later hp ho)

theorem Answers.given_eq {slot : Slot} {made : Except Fault Node} {given : Except Fault Object}
    (h : Answers kept slot made given) :
    given = made.map (Object.mk (kept.number slot)) := by
  cases h with
  | fault => rfl
  | object object ho => rw [number, ho, Except.map, Option.elim_some]

theorem Answers.kept_of_isOk {slot : Slot} {made : Except Fault Node} {given : Except Fault Object}
    (h : Answers kept slot made given) (hok : made.isOk = true) :
    ∃ object, kept.object? slot = some object := by
  cases h with
  | fault => cases hok
  | object object ho => exact ⟨object, ho⟩

/-- One request keeps what is there. -/
theorem ask_spec (h : Sound doc kept) (request : Request) :
    Sound doc (ask doc kept request).2 ∧ kept <+: (ask doc kept request).2 ∧
      Answers (ask doc kept request).2 request.slot (request.answer doc)
        (ask doc kept request).1 := by
  unfold ask
  cases hk : kept.object? request.slot with
  | some object =>
    rw [h.made request object hk]
    exact ⟨h, List.prefix_rfl, .object object hk⟩
  | none =>
    cases ha : request.answer doc with
    | error fault => exact ⟨h, List.prefix_rfl, .fault fault⟩
    | ok node =>
      refine ⟨h.keep ha, List.prefix_append _ _, .object ⟨kept.length, node⟩ ?_⟩
      rw [object?_append, hk, Option.none_or, object?, if_pos rfl]

/-- So do any requests, and each is answered with what is in its slot at the end. -/
theorem askAll_spec (h : Sound doc kept) (requests : List Request) :
    Sound doc (askAll doc kept requests).2 ∧ kept <+: (askAll doc kept requests).2 ∧
      List.Forall₂ (fun request given =>
          Answers (askAll doc kept requests).2 request.slot (request.answer doc) given)
        requests (askAll doc kept requests).1 := by
  induction requests generalizing kept with
  | nil => exact ⟨h, List.prefix_rfl, .nil⟩
  | cons request rest ih =>
    obtain ⟨hs, hp, ha⟩ := ask_spec h request
    obtain ⟨hs', hp', hall⟩ := ih hs
    exact ⟨hs', hp.trans hp', .cons (ha.mono hp') hall⟩

/-- A reader that keeps what it has made answers as one that makes everything anew. Two answers are one
object exactly when they are for the same text, both deferred nodes or both targets. -/
theorem askAll_numbered (doc : Document) (requests : List Request) :
    ∃ number : Slot → Nat,
      (askAll doc [] requests).1 =
        requests.map (fun request => (request.answer doc).map (Object.mk (number request.slot))) ∧
      ∀ request ∈ requests, ∀ other ∈ requests, (request.answer doc).isOk = true →
        (other.answer doc).isOk = true →
        (number request.slot = number other.slot ↔ request.slot = other.slot) := by
  obtain ⟨hs, -, hall⟩ := askAll_spec (Sound.nil doc) requests
  generalize askAll doc [] requests = outcome at hs hall
  obtain ⟨answers, kept⟩ := outcome
  dsimp only at hs hall ⊢
  have hkept : ∀ request ∈ requests, (request.answer doc).isOk = true →
      ∃ object, kept.object? request.slot = some object :=
    ((List.forall₂_and_left requests answers).mp
      (hall.imp fun _ _ ha => ⟨ha.kept_of_isOk, ha⟩)).1
  refine ⟨kept.number, ?_, fun request hm other hm' hok hok' => ⟨fun he => ?_, congrArg _⟩⟩
  · clear hkept
    induction hall with
    | nil => rfl
    | cons ha _ ih => rw [List.map_cons, ← ih, ha.given_eq]
  · obtain ⟨object, ho⟩ := hkept request hm hok
    obtain ⟨object', ho'⟩ := hkept other hm' hok'
    rw [number, number, ho, ho', Option.elim_some, Option.elim_some] at he
    exact congrArg Prod.fst (hs.apart _ (mem_of_object? ho) _ (mem_of_object? ho') he)

end Memo

/-! ## References of a document -/

/-- A reference to a definition is a deferred node wherever it stands, the same one with every use of
its text, and its target is the definition that the text names, unless that stands under `definitions`
and is hidden by a definition under `$defs` that reads otherwise. -/
theorem references_resolve {members definitions defs : List (String × Json)}
    (hd : definitionsUnder "definitions" members = .ok definitions)
    (hs : definitionsUnder "$defs" members = .ok defs) (hn : (defs.map (·.1)).Nodup)
    {doc : Document} (hdoc : doc.definitions = Json.union definitions defs)
    {start name : String} {container : List (String × Json)} {schema : Json}
    (hc : (start, container) ∈ [("#/$defs/", defs), ("#/definitions/", definitions)])
    (hf : find? name container = some schema) :
    read doc.graph (.obj members) =
      (node doc "#" (.obj members)).map (fun root => (root, doc.table)) ∧
    (∀ path object, find? "$ref" object = some (.str (start ++ name)) →
      node doc path (.obj object) =
        .ok (annotate object (.lazy .null (.str name) ⟨doc.graph, start ++ name⟩))) ∧
    (∀ other, find? name defs = some other →
      doc.table.resolve ⟨doc.graph, start ++ name⟩ = node doc (start ++ name) other) ∧
    (doc.table.resolve ⟨doc.graph, start ++ name⟩ = node doc (start ++ name) schema ↔
      ∀ other, start = "#/definitions/" → find? name defs = some other →
        node doc (start ++ name) other = node doc (start ++ name) schema) ∧
    (∀ path value root, node doc path value = .ok root → ∀ part ∈ root.deferred,
      ∃ text ∈ value.refTexts, ∀ place, (Request.use place text).answer doc = .ok part) ∧
    ∀ requests, ∃ number : Slot → Nat,
      (Memo.askAll doc [] requests).1 =
        requests.map (fun request => (request.answer doc).map (Object.mk (number request.slot))) ∧
      ∀ request ∈ requests, ∀ other ∈ requests, (request.answer doc).isOk = true →
        (other.answer doc).isOk = true →
        (number request.slot = number other.slot ↔ request.slot = other.slot) := by
  simp only [List.mem_cons, Prod.mk.injEq, List.not_mem_nil, or_false] at hc
  have hstart : start ∈ refStarts := by
    rcases hc with ⟨rfl, -⟩ | ⟨rfl, -⟩ <;> simp [refStarts]
  have hfound : find? name doc.definitions = (find? name defs).or (find? name definitions) := by
    rw [hdoc, Json.find?_union hn]
  have hsome : (find? name doc.definitions).isSome = true := by
    rw [hfound, Option.isSome_or]
    rcases hc with ⟨-, rfl⟩ | ⟨-, rfl⟩ <;> simp [hf]
  have hname : definitionName? (start ++ name) = some name :=
    definitionName?_eq_some.mpr ⟨start, hstart, rfl⟩
  refine ⟨read_eq hd hs hdoc, fun path object ho => node_of_ref hname hsome ho, fun other ho => ?_,
    ?_, fun path value root hr => node_cites hr, Memo.askAll_numbered doc⟩
  · rw [resolve_table doc hstart name, hfound, ho]
    rfl
  · rw [resolve_table doc hstart name, hfound]
    rcases hc with ⟨rfl, rfl⟩ | ⟨rfl, rfl⟩
    · simp [hf]
    · cases hh : find? name defs with
      | none => simp [hf]
      | some other => simp

/-- Trees of trees, defined under `definitions` beside an entry of `$defs`. -/
def treeMembers : List (String × Json) :=
  [("$ref", .str "#/definitions/Tree"),
    ("definitions", .obj [("Tree", .obj [("type", .str "array"),
      ("items", .obj [("$ref", .str "#/definitions/Tree")])])]),
    ("$defs", .obj [("Leaf", .obj [("type", .str "string")])])]

def treeDocument : Document :=
  ⟨0, [("Tree", .obj [("type", .str "array"), ("items", .obj [("$ref", .str "#/definitions/Tree")])]),
    ("Leaf", .obj [("type", .str "string")])]⟩

/-- The reference to a tree leads to an array of trees. -/
theorem references_resolve_tree :
    treeDocument.table.resolve ⟨0, "#/definitions/Tree"⟩ =
      .ok (.array .null [.lazy .null (.str "Tree") ⟨0, "#/definitions/Tree"⟩] .null .null) := by
  let tree : Json := .obj [("type", .str "array"),
    ("items", .obj [("$ref", .str "#/definitions/Tree")])]
  let leaves : List (String × Json) := [("Leaf", .obj [("type", .str "string")])]
  have hd : definitionsUnder "definitions" treeMembers = .ok [("Tree", tree)] := rfl
  have hs : definitionsUnder "$defs" treeMembers = .ok leaves := rfl
  have hdoc : treeDocument.definitions = Json.union [("Tree", tree)] leaves := rfl
  have hc : ("#/definitions/", [("Tree", tree)]) ∈
      [("#/$defs/", leaves), ("#/definitions/", [("Tree", tree)])] := .tail _ (.head _)
  have hf : find? "Tree" [("Tree", tree)] = some tree := rfl
  have hname : definitionName? "#/definitions/Tree" = some "Tree" := rfl
  have hnode : node treeDocument "#/definitions/Tree" tree =
      .ok (.array .null [.lazy .null (.str "Tree") ⟨0, "#/definitions/Tree"⟩] .null .null) := by
    simp [tree, node, bareNode_eq, find?, typedNode, arrayNode_eq, itemSchema?, elementNode,
      refNode_text, hname, annotate, treeDocument]
    rfl
  obtain ⟨-, -, -, hresolve, -⟩ := references_resolve hd hs (by decide) hdoc hc hf
  have hnone : find? "Tree" leaves = none := rfl
  exact (hresolve.mpr (by simp [hnone])).trans hnode

def hiddenMembers : List (String × Json) :=
  [("$ref", .str "#/definitions/N"), ("definitions", .obj [("N", .obj [("type", .str "string")])]),
    ("$defs", .obj [("N", .obj [("type", .str "integer")])])]

/-- The reference to the text under `definitions` leads to the integer under `$defs`. -/
theorem hidden_definition :
    ∃ doc : Document, read 0 (.obj hiddenMembers) =
        .ok (.lazy .null (.str "N") ⟨0, "#/definitions/N"⟩, doc.table) ∧
      definitionsUnder "definitions" hiddenMembers = .ok [("N", .obj [("type", .str "string")])] ∧
      node doc "#/definitions/N" (.obj [("type", .str "string")]) =
        .ok (.primitive .null (.str "string")) ∧
      doc.table.resolve ⟨0, "#/definitions/N"⟩ = .ok (.primitive .null (.str "integer")) := by
  let doc : Document := ⟨0, [("N", .obj [("type", .str "integer")])]⟩
  have hd : definitionsUnder "definitions" hiddenMembers =
    .ok [("N", .obj [("type", .str "string")])] := rfl
  have hs : definitionsUnder "$defs" hiddenMembers =
    .ok [("N", .obj [("type", .str "integer")])] := rfl
  have hdoc : doc.definitions = Json.union [("N", .obj [("type", .str "string")])]
    [("N", .obj [("type", .str "integer")])] := rfl
  have hname : definitionName? "#/definitions/N" = some "N" := rfl
  have hstart : "#/definitions/" ∈ refStarts := by decide
  have hinteger : node doc "#/definitions/N" (.obj [("type", .str "integer")]) =
    .ok (.primitive .null (.str "integer")) := by cbv
  refine ⟨doc, ?_, hd, by cbv, (resolve_table doc hstart "N").trans hinteger⟩
  have hroot : node doc "#" (.obj hiddenMembers) =
    .ok (.lazy .null (.str "N") ⟨0, "#/definitions/N"⟩) := node_of_ref hname rfl rfl
  rw [read_eq hd hs hdoc, hroot]
  rfl

end StructuredOutput.Schema.Document
