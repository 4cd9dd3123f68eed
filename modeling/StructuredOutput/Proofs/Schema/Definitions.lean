import StructuredOutput.Proofs.Schema.ReadAlike

/-! # Definitions of a document

The text of a reference is a start and a name, in one way only. The table of a document has an entry
for each such text whose name is defined: the node of the definition, read at the place that the text
names. A reference is a deferred node with its text, and nothing else that is read is one. -/
namespace StructuredOutput.Schema.Document

open Json (find?)

theorem eq_of_start_append {start start' name name' : String} (hs : start ∈ refStarts)
    (hs' : start' ∈ refStarts) (h : start ++ name = start' ++ name') :
    start = start' ∧ name = name' := by
  have hlist := congrArg String.toList h
  rw [String.toList_append, String.toList_append] at hlist
  have hsame : start = start' := by
    simp only [refStarts, List.mem_cons, List.not_mem_nil, or_false] at hs hs'
    -- two different starts differ in a letter that both have
    obtain rfl | rfl := hs <;> obtain rfl | rfl := hs' <;> first | rfl | simp at hlist
  subst hsame
  exact ⟨rfl, String.toList_inj.mp (List.append_cancel_left hlist)⟩

theorem dropStart?_eq_some {start text name : String} :
    dropStart? start text = some name ↔ text = start ++ name := by
  unfold dropStart?
  rw [← String.toList_inj, String.toList_append]
  constructor
  · intro h
    split at h
    · rename_i hp
      obtain ⟨rest, hrest⟩ := List.isPrefixOf_iff_prefix.mp hp
      cases h
      rw [← hrest]
      simp
    · cases h
  · intro h
    simp [h]

/-- A reference asks for a name exactly when it is a start followed by the name. -/
theorem definitionName?_eq_some {text name : String} :
    definitionName? text = some name ↔ ∃ start ∈ refStarts, text = start ++ name := by
  unfold definitionName?
  constructor
  · intro h
    obtain ⟨start, hs, hd⟩ := List.exists_of_findSome?_eq_some h
    exact ⟨start, hs, dropStart?_eq_some.mp hd⟩
  · rintro ⟨start, hs, rfl⟩
    cases hf : refStarts.findSome? fun s => dropStart? s (start ++ name) with
    | none =>
      rw [List.findSome?_eq_none_iff] at hf
      have hd := hf start hs
      rw [dropStart?_eq_some.mpr rfl] at hd
      cases hd
    | some name' =>
      obtain ⟨start', hs', hd⟩ := List.exists_of_findSome?_eq_some hf
      rw [(eq_of_start_append hs hs' (dropStart?_eq_some.mp hd)).2]

/-- What the text of a reference stands for is the node of the definition that it asks for. -/
theorem resolve_table (doc : Document) {start : String} (hs : start ∈ refStarts) (name : String) :
    doc.table.resolve ⟨doc.graph, start ++ name⟩ =
      (find? name doc.definitions).elim (.error (.request .noResolver))
        (node doc (start ++ name)) := by
  unfold Graph.resolve table
  suffices hfind : ∀ definitions : List (String × Json),
      Graph.find? ⟨doc.graph, start ++ name⟩ (definitions.flatMap fun entry => refStarts.map
        fun start => (⟨doc.graph, start ++ entry.1⟩, node doc (start ++ entry.1) entry.2)) =
      (find? name definitions).map (node doc (start ++ name)) by
    rw [hfind doc.definitions]
    cases find? name doc.definitions <;> rfl
  intro definitions
  induction definitions with
  | nil => rfl
  | cons definition rest ih =>
    obtain ⟨name', schema⟩ := definition
    rw [List.flatMap_cons, find?]
    by_cases hname : name' = name
    · subst hname
      simp only [refStarts, List.mem_cons, List.not_mem_nil, or_false] at hs
      obtain rfl | rfl := hs <;> simp [refStarts, Graph.find?]
    · have hne : ∀ start' ∈ refStarts,
          (⟨doc.graph, start' ++ name'⟩ : Ref) ≠ ⟨doc.graph, start ++ name⟩ := fun start' hs' h =>
        hname (eq_of_start_append hs' hs (congrArg Ref.path h)).2
      rw [if_neg hname, ← ih]
      simp only [refStarts, List.map_cons, List.map_nil, List.cons_append, List.nil_append,
        Graph.find?]
      rw [if_neg (hne _ (by simp [refStarts])), if_neg (hne _ (by simp [refStarts]))]

/-! ## Reading a document -/

/-- A schema is read alike in documents that define the references in it alike. -/
theorem node_defined {doc doc' : Document} {texts : String → Prop}
    (hdoc : SameDefined texts doc doc') (path : String) {schema : Json}
    (ht : ∀ text ∈ schema.refTexts, texts text) :
    ReadsAs (Cites doc texts) (node doc path schema) (node doc' path schema) :=
  node_alike (fun _ _ => congrArg isNullOnly) hdoc path schema schema (.same schema) ht

/-- Each deferred node of what is read is the node of a reference in it. -/
theorem node_cites {doc : Document} {path : String} {schema : Json} {root : Node}
    (h : node doc path schema = .ok root) : Cites doc (· ∈ schema.refTexts) root :=
  (node_defined ⟨rfl, fun _ _ _ _ => rfl⟩ path fun _ h => h).2 root h

/-- The references in a definition are references in its document. -/
theorem refTexts_of_definition {key : String} {members entries : List (String × Json)}
    {definition : String × Json} (h : definitionsUnder key members = .ok entries)
    (hm : definition ∈ entries) : definition.2.refTexts ⊆ (Json.obj members).refTexts := by
  unfold definitionsUnder at h
  split at h
  · rename_i hfound
    cases h
    have hkey : find? key members = some (.obj entries) := by
      cases hk : find? key members with
      | none => rw [hk] at hfound; cases hfound
      | some value => rw [hk] at hfound; exact congrArg some hfound
    exact List.Subset.trans (Json.refTexts_of_member hm)
      (Json.refTexts_of_member (Json.mem_of_find? hkey))
  · split at h <;> cases h
    cases hm

theorem refTexts_of_union {members definitions defs : List (String × Json)}
    (hd : definitionsUnder "definitions" members = .ok definitions)
    (hs : definitionsUnder "$defs" members = .ok defs) {definition : String × Json}
    (hm : definition ∈ Json.union definitions defs) :
    definition.2.refTexts ⊆ (Json.obj members).refTexts := by
  rcases Json.mem_union hm with hm | hm
  · exact refTexts_of_definition hd hm
  · exact refTexts_of_definition hs hm

theorem read_eq {members definitions defs : List (String × Json)}
    (hd : definitionsUnder "definitions" members = .ok definitions)
    (hs : definitionsUnder "$defs" members = .ok defs) {doc : Document}
    (hdoc : doc.definitions = Json.union definitions defs) :
    read doc.graph (.obj members) =
      (node doc "#" (.obj members)).map (fun root => (root, doc.table)) := by
  obtain ⟨number, found⟩ := doc
  cases hdoc
  rw [read, hd, hs]
  cases node ⟨number, Json.union definitions defs⟩ "#" (.obj members) <;> rfl

/-- What is read is the root of a document and the table of its definitions. -/
theorem read_ok {graph : Nat} {schema : Json} {root : Node} {g : Graph}
    (h : read graph schema = .ok (root, g)) :
    ∃ doc : Document, node doc "#" schema = .ok root ∧ g = doc.table ∧
      ∀ definition ∈ doc.definitions, definition.2.refTexts ⊆ schema.refTexts := by
  obtain ⟨doc, -, ⟨members, definitions, defs, rfl, hd, hs, hdoc⟩, hroot, hg⟩ := read_cases h
  exact ⟨doc, hroot, hg, fun _ hm => refTexts_of_union hd hs (hdoc ▸ hm)⟩

theorem node_of_ref {doc : Document} {text name path : String} {members : List (String × Json)}
    (hname : definitionName? text = some name) (hd : (find? name doc.definitions).isSome = true)
    (h : find? "$ref" members = some (.str text)) :
    node doc path (.obj members) =
      .ok (annotate members (.lazy .null (.str name) ⟨doc.graph, text⟩)) := by
  have href : refNode doc path (.str text) = .ok (.lazy .null (.str name) ⟨doc.graph, text⟩) :=
    refNode_ok.mpr ⟨name, hname, hd, rfl⟩
  rw [node, bareNode_eq, h]
  simp only [href]
  rfl

end StructuredOutput.Schema.Document
