import StructuredOutput.Proofs.Schema.Rewordings
import StructuredOutput.Proofs.Schema.Subschemas

/-! # Spellings of a union

A list of types and a list of alternatives are read by two functions, the one going back to the types
with the members as they are, the other to the whole schema. For the alternatives that stand for the
types of a list both give one node: the keywords that a type looks at are those of the whole schema, and
the annotations, which an alternative leaves out, are read with the union. -/
namespace StructuredOutput.Schema.Document

open Json (find?)

/-! ## Members that are replaced -/

def replace (key : String) (new : String × Json) (members : List (String × Json)) :
    List (String × Json) :=
  members.map fun member => if member.1 = key then new else member

theorem find?_replace_ne {key other : String} {member : String × Json} (hk : other ≠ key)
    (hm : other ≠ member.1) (members : List (String × Json)) :
    find? other (replace key member members) = find? other members := by
  induction members with
  | nil => rfl
  | cons first rest ih =>
    obtain ⟨name, value⟩ := first
    unfold replace at ih ⊢
    rw [List.map_cons]
    by_cases hf : name = key
    · simp only [hf, if_true, find?, hm.symm, hk.symm, if_false, ih]
    · simp only [hf, if_false, find?, ih]

/-- The new member is found under its key, unless there was one before. -/
theorem find?_replace {key other : String} {value found : Json} {members : List (String × Json)}
    (hf : find? key members = some found) (hnone : other = key ∨ find? other members = none) :
    find? other (replace key (other, value) members) = some value := by
  induction members with
  | nil => cases hf
  | cons first rest ih =>
    obtain ⟨name, first⟩ := first
    unfold replace at ih ⊢
    rw [List.map_cons]
    by_cases hn : name = key
    · simp [hn, find?]
    · have hno : name ≠ other := by
        rintro rfl
        rcases hnone with rfl | hnone
        · exact hn rfl
        · simp [find?] at hnone
      simp only [find?, hn, if_false, hno] at hf hnone ⊢
      exact ih hf hnone

/-! ## The same members for a type -/

def typeKeywords : List String :=
  ["prefixItems", "items", "minItems", "maxItems", "properties", "required", "additionalProperties",
    "propertyNames"]

/-- A type looks at its keywords only. -/
theorem typedNode_congr {doc : Document} {path : String} {members members' : List (String × Json)}
    (h : ∀ key ∈ typeKeywords, find? key members = find? key members') (type : String) :
    typedNode doc path members (.str type) = typedNode doc path members' (.str type) := by
  have hitems : itemSchema? members = itemSchema? members' := by
    unfold itemSchema?
    rw [h "prefixItems" (by decide), h "items" (by decide)]
  have harray : arrayNode doc path members = arrayNode doc path members' := by
    rw [arrayNode_eq, arrayNode_eq, hitems, h "minItems" (by decide), h "maxItems" (by decide)]
  have hrecord : recordNode doc path members = recordNode doc path members' := by
    rw [recordNode_eq, recordNode_eq, h "additionalProperties" (by decide),
      h "propertyNames" (by decide)]
  have hobject : objectNode doc path members = objectNode doc path members' := by
    rw [objectNode_eq, objectNode_eq, h "properties" (by decide), h "required" (by decide), hrecord]
  unfold typedNode
  split
  · rename_i heq
    cases heq
  · exact harray
  · exact hobject
  · rfl
  · rename_i heq
    cases heq
  · rfl

/-! ## A list of types -/

def ofOneType (members : List (String × Json)) (type : String) : List (String × Json) :=
  replace "type" ("type", .str type)
    (members.filter fun member => member.1 ∉ ["description", "default"])

def alternative (members : List (String × Json)) (type : String) : Json :=
  if type = "null" then .obj [("type", .str "null")] else .obj (ofOneType members type)

def spelledOut (members : List (String × Json)) (types : List String) : List (String × Json) :=
  replace "type" ("anyOf", .arr (types.map (alternative members))) members

theorem find?_filter {key : String} {keys : List String} (members : List (String × Json)) :
    find? key (members.filter fun member => member.1 ∉ keys) =
      if key ∈ keys then none else find? key members := by
  induction members with
  | nil => simp [find?]
  | cons first rest ih =>
    obtain ⟨name, value⟩ := first
    by_cases hn : name ∈ keys
    · rw [List.filter_cons_of_neg (by simpa using hn), ih, find?]
      split
      · rfl
      · rename_i hk
        rw [if_neg fun (he : name = key) => hk (he ▸ hn)]
    · rw [List.filter_cons_of_pos (by simpa using hn), find?, ih, find?]
      by_cases he : name = key
      · rw [if_pos he, if_pos he, if_neg (he ▸ hn)]
      · rw [if_neg he, if_neg he]

theorem find?_ofOneType {members : List (String × Json)} {key : String}
    (hk : key ∉ ["type", "description", "default"]) (type : String) :
    find? key (ofOneType members type) = find? key members := by
  simp only [List.mem_cons, List.not_mem_nil, or_false, not_or] at hk
  rw [ofOneType, find?_replace_ne hk.1 hk.1, find?_filter, if_neg (by simp [hk])]

variable {doc : Document} {members : List (String × Json)}

theorem looksAt_ofOneType (h : LooksAt "type" members) (type : String) :
    LooksAt "type" (ofOneType members type) := by
  intro key hk
  have hfirst : key ∈ firstKeywords := (List.takeWhile_sublist _).subset hk
  rw [find?_ofOneType ?_ type]
  · exact h key hk
  · have hnot : ∀ key ∈ firstKeywords, key ∉ ["type", "description", "default"] := by decide
    exact hnot key hfirst

/-- A schema without annotations is read as its core. -/
theorem node_unannotated {path : String} (hd : find? "description" members = none)
    (hv : find? "default" members = none) :
    node doc path (.obj members) = bareNode doc path members := by
  have hself (core : Node) : annotate members core = core := by
    unfold annotate
    rw [hd, hv]
  rw [node]
  cases bareNode doc path members with
  | error fault => rfl
  | ok core => exact congrArg Except.ok (hself core)

/-- A schema for one of its types is read as this type is. -/
theorem node_ofOneType (h : LooksAt "type" members) {found : Json}
    (ht : find? "type" members = some found) (path : String) (type : String) :
    node doc path (.obj (ofOneType members type)) = typedNode doc path members (.str type) := by
  have hkept : find? "type" (members.filter fun member => member.1 ∉ ["description", "default"]) =
      some found := by rw [find?_filter, if_neg (by decide), ht]
  have htype : find? "type" (ofOneType members type) = some (.str type) :=
    find?_replace hkept (.inl rfl)
  have hgone : ∀ key ∈ ["description", "default"], find? key (ofOneType members type) = none := by
    intro key hk
    have hne : key ≠ "type" := by rintro rfl; revert hk; decide
    rw [ofOneType, find?_replace_ne hne hne, find?_filter, if_pos hk]
  rw [node_unannotated (hgone _ (by decide)) (hgone _ (by decide)),
    bareNode_typed (looksAt_ofOneType h type) htype]
  refine typedNode_congr (fun key hk => find?_ofOneType ?_ type) type
  have hnot : ∀ key ∈ typeKeywords, key ∉ ["type", "description", "default"] := by decide
  exact hnot key hk

theorem isNullOnly_ofOneType {type : String} (hne : type ≠ "null") :
    isNullOnly (.obj (ofOneType members type)) = false := by
  have htypes : ∀ member ∈ ofOneType members type, member.1 = "type" → member.2 = .str type := by
    intro member hm hk
    obtain ⟨original, -, rfl⟩ := List.mem_map.mp hm
    split at hk
    · rename_i ho
      simp [ho]
    · rename_i ho
      exact absurd hk ho
  unfold isNullOnly
  split
  · rename_i key value heq
    have hall := htypes (key, value) (by rw [Json.obj.inj heq]; exact List.mem_cons_self)
    by_cases hk : key = "type"
    · have hvalue : value = .str type := hall hk
      simp [hvalue, Json.isStr, hne]
    · simp [hk]
  · rfl

theorem isNullOnly_alternative (type : String) :
    isNullOnly (alternative members type) = (Json.str type).isStr "null" := by
  unfold alternative
  split
  · rename_i h
    subst h
    rfl
  · rename_i h
    rw [isNullOnly_ofOneType h]
    simp [Json.isStr, h]

/-- The types of a list are read as their alternatives are. -/
theorem typeNodes_alternatives (h : LooksAt "type" members) {found : Json}
    (ht : find? "type" members = some found) (path path' : String) (types : List String) :
    ∀ index, Agree Eq (typeNodes doc path members (types.map .str))
      (variantNodes doc path' index (types.map (alternative members))) := by
  induction types with
  | nil =>
    intro index
    rw [List.map_nil, List.map_nil, typeNodes, variantNodes]
    exact .ok rfl
  | cons type rest ih =>
    intro index
    rw [List.map_cons, List.map_cons, typeNodes, variantNodes, isNullOnly_alternative]
    by_cases hnull : (Json.str type).isStr "null" = true
    · rw [if_pos hnull, if_pos hnull]
      exact ih (index + 1)
    · rw [if_neg hnull, if_neg hnull, alternative, if_neg (by simpa [Json.isStr] using hnull),
        node_ofOneType h ht]
      have hplace := typedNode_reworded ⟨rfl, fun _ _ _ _ => rfl⟩ (kept_eq doc doc)
        (path ++ "/type/" ++ (Json.str type).display) (path' ++ "/" ++ toString index) members members
        (.refl members) (.str type)
      refine hplace.bind fun first first' hf => (ih (index + 1)).bind fun others others' ho => ?_
      exact .ok (hf ▸ ho ▸ rfl)

/-- A list of types is read as the alternatives in its place are. -/
theorem bareNode_spelledOut (h : LooksAt "type" members) {types : List String}
    (ht : find? "type" members = some (.arr (types.map .str))) (path path' : String) :
    Agree Eq (bareNode doc path members) (bareNode doc path' (spelledOut members types)) := by
  have hvariants : find? "anyOf" (spelledOut members types) =
      some (.arr (types.map (alternative members))) := find?_replace ht (.inr (h.first (by decide)))
  have hfirst : ∀ key ∈ ["$ref", "const", "enum", "oneOf"],
      find? key (spelledOut members types) = none := by
    intro key hk
    have hsame : key ≠ "type" ∧ key ≠ "anyOf" ∧ key ∈ firstKeywords := by
      revert key
      decide
    rw [spelledOut, find?_replace_ne hsame.1 hsame.2.1]
    exact h.first hsame.2.2
  rw [bareNode_typed h ht, typedNode, bareNode_eq]
  simp only [hfirst "$ref" (by decide), hfirst "const" (by decide), hfirst "enum" (by decide),
    hfirst "oneOf" (by decide), hvariants]
  rw [unionNode]
  have hnull : (types.map Json.str).any (·.isStr "null") =
      (types.map (alternative members)).any isNullOnly := by
    rw [List.any_map, List.any_map]
    exact congrArg types.any (funext fun type => (isNullOnly_alternative type).symm)
  rw [hnull]
  exact (typeNodes_alternatives h ht path (path' ++ "/anyOf") types 0).bind fun nodes nodes' hn =>
    .ok (hn ▸ rfl)

/-! ## A single alternative -/

def listKeywords : List String := ["anyOf", "oneOf", "allOf"]

def onlyUnder (key : String) (schema : Json) : Json := .obj [(key, .arr [schema])]

theorem unionNode_single (path path' : String) (schema : Json) :
    Agree Eq (unionNode doc path (.arr [schema])) (node doc path' schema) := by
  rw [unionNode, variantNodes, variantNodes]
  cases hnull : isNullOnly schema with
  | true =>
    have hnode : node doc path' schema = .ok (.primitive .null (.str "null")) := node_nullOnly hnull
    rw [if_pos rfl, List.any_cons, hnull, hnode]
    exact .ok rfl
  | false =>
    rw [if_neg Bool.false_ne_true, List.any_cons, hnull, ← bind_pure (node doc path' schema)]
    simp only [bind_assoc]
    exact (node_place doc _ path' schema).bind fun first first' hf => .ok hf

/-- A schema that is the only alternative or the only part of another one is read as the other one. -/
theorem node_onlyUnder {key : String} (hk : key ∈ listKeywords) (path path' : String)
    (schema : Json) : Agree Eq (node doc path (onlyUnder key schema)) (node doc path' schema) := by
  have hfind (other : String) : find? other [(key, Json.arr [schema])] =
      if key = other then some (.arr [schema]) else none := rfl
  have hannotations : ∀ key ∈ listKeywords, key ≠ "description" ∧ key ≠ "default" := by decide
  obtain ⟨hd, hv⟩ := hannotations key hk
  rw [onlyUnder, node_unannotated (by rw [hfind, if_neg hd]) (by rw [hfind, if_neg hv]), bareNode_eq]
  simp only [listKeywords, List.mem_cons, List.not_mem_nil, or_false] at hk
  rcases hk with rfl | rfl | rfl
  · exact unionNode_single _ path' schema
  · exact unionNode_single _ path' schema
  · simp only [hfind]
    exact (by unfold singleNode; exact node_place doc _ path' schema)

/-- Both spellings of a union are read as one node, wherever they stand, or are refused for one reason: a
list of types beside any keywords that are looked at later, and one alternative for each of the types;
and a schema that is wrapped, any number of times, as the only alternative or the only part, and itself,
whatever it is. -/
theorem union_spellings_agree (doc : Document) (path path' : String) :
    (∀ (members : List (String × Json)) (types : List String), LooksAt "type" members →
      find? "type" members = some (.arr (types.map .str)) →
      Agree Eq (node doc path (.obj members)) (node doc path' (.obj (spelledOut members types)))) ∧
    ∀ (keys : List String) (schema : Json), (∀ key ∈ keys, key ∈ listKeywords) →
      Agree Eq (node doc path (keys.foldr onlyUnder schema)) (node doc path' schema) := by
  refine ⟨fun members types h ht => ?_, fun keys schema hk => ?_⟩
  · have hsame (core : Node) : annotate (spelledOut members types) core = annotate members core := by
      unfold annotate spelledOut
      rw [find?_replace_ne (by decide) (by simp), find?_replace_ne (by decide) (by simp)]
    rw [node, node]
    refine (bareNode_spelledOut h ht path path').bind fun core core' hc => ?_
    rw [hc, hsame]
    exact .ok rfl
  · induction keys generalizing path with
    | nil => exact node_place doc path path' schema
    | cons key rest ih =>
      rw [List.foldr_cons]
      exact (node_onlyUnder (hk key List.mem_cons_self) path path _).trans
        (ih path fun key hm => hk key (List.mem_cons_of_mem _ hm))

/-- Texts, or a list of them, or null, which is meant if nothing is given. -/
def tagged : List (String × Json) :=
  [("description", .str "tags"), ("type", .arr (["array", "null", "string"].map .str)),
    ("items", .obj [("type", .str "string")]), ("default", .null)]

/-- Both spellings of the tags, and the tags inside two lists. -/
theorem union_spellings_agree_tagged :
    Agree Eq (node ⟨0, []⟩ "#" (.obj tagged))
      (node ⟨0, []⟩ "#" (.obj (spelledOut tagged ["array", "null", "string"]))) ∧
    Agree Eq (node ⟨0, []⟩ "#" (["anyOf", "allOf"].foldr onlyUnder (.obj tagged)))
      (node ⟨0, []⟩ "#" (.obj tagged)) ∧
    node ⟨0, []⟩ "#" (.obj tagged) = .ok (.wrapper (.str "tags") (.default .null)
      (.wrapper (.str "tags") .nullable (.union .null
        [.array .null [.primitive .null (.str "string")] .null .null,
          .primitive .null (.str "string")]))) := by
  obtain ⟨hspelled, hwrapped⟩ := union_spellings_agree ⟨0, []⟩ "#" "#"
  exact ⟨hspelled tagged _ (by decide) rfl, hwrapped _ _ (by decide), by cbv⟩

end StructuredOutput.Schema.Document
