import StructuredOutput.Proofs.Agreement.ObjectClasses

/-! # Null among the alternatives of a type

The type of a node of a document has null as an alternative exactly where the node admits null. This is
an induction over the translation in which only the recorded expressions are carried along: what is
recorded for a reference says the same of its target. A declared name is never null, and an alias is a
union of quoted texts, so expanding aliases brings no null. -/
namespace StructuredOutput.Baml

open Schema (Graph Node Ref)

/-- Whether null is one of some alternatives when aliases among them are expanded. -/
inductive Declarations.HasNull (d : Declarations) : List Alternative → Prop
  | word {us : List Alternative} : .word "null" ∈ us → HasNull d us
  | behind {us ws : List Alternative} {name expr : String} :
      .word name ∈ us → (name, expr) ∈ d.aliases → Reads .whole (tokens expr) ws → HasNull d ws →
      HasNull d us

/-! ## Aliases -/

def Declarations.Quoted (d : Declarations) : Prop :=
  ∀ entry ∈ d.aliases, ∃ texts : List String, texts ≠ [] ∧
    entry.2 = Json.join " | " (texts.map Json.quoteString)

theorem Declarations.Quoted.hasNull {d : Declarations} (h : d.Quoted) {us : List Alternative} :
    d.HasNull us ↔ .word "null" ∈ us := by
  refine ⟨fun hn => ?_, .word⟩
  cases hn with
  | word hm => exact hm
  | behind _ hd hr hn =>
    obtain ⟨texts, hne, rfl⟩ := h _ hd
    obtain rfl := hr.unique (reads_literals hne)
    cases hn with
    | word hm | behind hm =>
      obtain ⟨text, -, he⟩ := List.mem_map.mp hm
      cases he

namespace Translation

variable {g : Graph} {s : Settings.Translator} {inside : Node → NameHint → Translation String}
variable {d d₁ d' : Declarations} {hint : NameHint} {expr name : String} {node : Node}

def Quotes (inside : Node → NameHint → Translation String) : Prop :=
  ∀ node hint d expr d', node.textual = true → d.Quoted → Returns (inside node hint) d expr d' →
    d'.Quoted

theorem quoted_declareClass (h : d.Quoted) (hr : Returns (declareClass hint) d name d') :
    d'.Quoted := by
  obtain ⟨text, -, hd⟩ := returns_declareClass.mp hr
  cases hd
  exact h

theorem fields_quote (hi : Quotes inside) {members : List (String × Node)} :
    ∀ {used : List String} {d : Declarations}, Node.membersTextual members = true → d.Quoted →
      Returns (fields s inside name used members) d () d' → d'.Quoted := by
  induction members with
  | nil =>
    intro used d _ h hr
    cases returns_fields_nil.mp hr
    exact h
  | cons member rest ih =>
    obtain ⟨key, node⟩ := member
    intro used d ht h hr
    rw [Node.membersTextual, Bool.and_eq_true] at ht
    obtain ⟨peeled, type, d₁, -, hin, hrest⟩ := returns_fields_cons.mp hr
    have h₁ : d₁.Quoted := hi _ _ _ _ _ ht.1 h hin
    have h₂ : (d₁.addField name (newField used key type peeled)).Quoted := h₁
    exact ih ht.2 h₂ hrest

theorem options_quote (hi : Quotes inside) {nodes : List Node} :
    ∀ {index : Nat} {parts : List String} {d : Declarations}, Node.listTextual nodes = true →
      d.Quoted → Returns (options inside hint index nodes) d parts d' → d'.Quoted := by
  induction nodes with
  | nil =>
    intro index parts d _ h hr
    obtain ⟨-, rfl⟩ := returns_options_nil.mp hr
    exact h
  | cons node rest ih =>
    intro index parts d ht h hr
    rw [Node.listTextual, Bool.and_eq_true] at ht
    obtain ⟨first, others, d₁, hin, hrest, rfl⟩ := returns_options_cons.mp hr
    exact ih ht.2 (hi _ _ _ _ _ ht.1 h hin) hrest

theorem core_quotes (hi : Quotes inside) (hg : g.Textual) (ht : node.textual = true) (h : d.Quoted)
    (hr : Returns (core g s inside node hint) d expr d') : d'.Quoted := by
  cases core_cases hr with
  | object hd hf =>
    have hq : Declarations.Quoted _ := fields_quote hi ht (quoted_declareClass h hd) hf
    exact hq
  | primitive | literal | strings | anyString | names | reused => exact h
  | array he ha hin => exact hi _ _ _ _ _ (hg.element ht he ha) h hin
  | literals hv hf he hn hh =>
    obtain ⟨texts, rfl⟩ := Node.enum_texts ht hv he
    have hne : texts ≠ [] := by rintro rfl; cases hn
    intro entry hm
    rcases List.mem_append.mp hm with hm | hm
    · exact h entry hm
    · obtain rfl := List.mem_singleton.mp hm
      refine ⟨texts, hne, ?_⟩
      rw [List.map_map]
      rfl
  | record ha hkey hvalue =>
    rw [Node.textual, Bool.and_eq_true] at ht
    exact hi _ _ _ _ _ ht.2 (hi _ _ _ _ _ (Node.textual_orString ht.1) h hkey) hvalue
  | union _ ho => exact options_quote hi ht h ho
  | bare _ hin =>
    rw [Node.textual] at ht
    exact hi _ _ _ _ _ ht h hin
  | @lazyObject _ _ _ ref _ _ _ _ _ d₁ _ _ hres hp hobj hd hexpr hf =>
    have htm := Node.textual_base _ (hg.resolve hres)
    rw [← (Schema.peel_ok hp).1, hobj] at htm
    have h₁ : d₁.Quoted := quoted_declareClass h hd
    have h₂ : (d₁.recordLazy ref expr).Quoted := h₁
    have hq : Declarations.Quoted _ := fields_quote hi htm h₂ hf
    exact hq
  | lazyOther _ hres _ _ _ hin =>
    have h₁ : Declarations.Quoted { d with depth := d.depth + 1 } := h
    have hq : Declarations.Quoted _ := hi _ _ _ _ _ (hg.resolve hres) h₁ hin
    exact hq

theorem within_quotes {g : Graph} (hg : g.Textual) (s : Settings.Translator) (nesting : Nat) :
    Quotes (within g s nesting) := by
  induction nesting with
  | zero => intro node hint d expr d' _ _ hr; exact (returns_throw hr).elim
  | succ nesting ih =>
    intro node hint d expr d' ht h hr
    obtain ⟨peeled, type, hp, hc, -⟩ := returns_step.mp hr
    rw [(Schema.peel_ok hp).1] at hc
    exact core_quotes ih hg (Node.textual_base node ht) h hc

/-! ## Nodes that admit null -/

/-- Only the wrappers of a node, or the node under them, let it be null. -/
theorem admits_null_iff : (node : Node) →
    (node.Admits g .null ↔ node.mayBeNull = true ∨ node.base.Admits g .null)
  | .wrapper _ form inner => by
    rw [Node.mayBeNull, Node.base, Bool.or_eq_true, or_assoc, ← admits_null_iff inner]
    constructor
    · intro h
      cases h with
      | null hn => exact .inl hn
      | wrapper h => exact .inr h
    · rintro (hn | h)
      · exact .null hn
      · exact .wrapper h
  | .pipeline description inner source => by
    have hp : (Node.pipeline description inner source).Admits g .null ↔
        (if inner.isAbsent then source else inner).Admits g .null := by
      refine ⟨fun h => ?_, .pipeline⟩
      cases h with
      | pipeline h => exact h
    rw [hp, Node.mayBeNull, Node.base]
    cases inner.isAbsent with
    | true => exact admits_null_iff source
    | false => exact admits_null_iff inner
  | .foreign _ | .thunk _ | .bare .. | .primitive .. | .literal .. | .object .. | .array ..
  | .enumeration .. | .memberEnum .. | .record .. | .union .. | .lazy .. => by
    simp [Node.mayBeNull, Node.base]

theorem enum_not_null {values : Json} (hv : node.enumValues? = some values) :
    ¬ node.Admits g .null := by
  intro h
  cases h with
  | primitive | literal | union | null | wrapper | pipeline | lazy | bare => cases hv

theorem object_not_null {description : Json} {members : List (String × Node)} :
    ¬ (Node.object description members).Admits g .null := by
  intro h
  cases h

/-- An object behind a reference admits null only if a wrapper lets it. -/
theorem admits_null_object {description : Json} {members : List (String × Node)}
    (hb : node.base = .object description members) :
    node.Admits g .null ↔ node.mayBeNull = true := by
  rw [admits_null_iff, hb]
  exact or_iff_left object_not_null

/-! ## The types of nodes -/

/-- A type that has null as an alternative exactly if its node admits null. -/
def NullTyped (g : Graph) (node : Node) (type : String) : Prop :=
  node.textual = true → ∃ us, Spells type us ∧ (.word "null" ∈ us ↔ node.Admits g .null)

def NullKnown (g : Graph) (ref : Ref) (expr : String) : Prop :=
  ∃ resolved us, g.resolve ref = .ok resolved ∧ Spells expr us ∧
    (.word "null" ∈ us ↔ resolved.Admits g .null)

/-- The word of a primitive type. -/
theorem nullTyped_builtin {type : String} (hb : type ∈ builtins)
    (h : type = "null" ↔ node.Admits g .null) : NullTyped g node type := by
  have hw := builtin_word hb
  refine fun _ => ⟨_, .word hw.1 hw.2, ?_⟩
  rw [← h]
  simp [eq_comm]

/-- A declared name is another word than null. -/
theorem spells_uniqueName (hc : 0 ≤ d.counter) (text : String) :
    Spells (d.uniqueName text).1 [.word (d.uniqueName text).1] ∧
      Alternative.word "null" ∉ [.word (d.uniqueName text).1] := by
  have ht := Declarations.isTypeName_uniqueName hc text
  have hw := typeName_word ht
  refine ⟨.word hw.1 hw.2, fun hm => ?_⟩
  obtain he := Alternative.word.inj (List.mem_singleton.mp hm)
  rw [← he] at ht
  cases ht

theorem spells_declareClass (hc : 0 ≤ d.counter) (hr : Returns (declareClass hint) d name d') :
    Spells name [.word name] ∧ Alternative.word "null" ∉ [.word name] := by
  obtain ⟨text, -, hd⟩ := returns_declareClass.mp hr
  have hname : name = (d.uniqueName text).1 := (congrArg Prod.fst hd).symm
  exact hname ▸ spells_uniqueName hc text

theorem knowsObjects_null : KnowsObjects g (NullKnown g) 0 := by
  intro ref resolved description members hint d name d' hr hb hc hd
  obtain ⟨hs, hn⟩ := spells_declareClass hc hd
  have hadmits := admits_null_object (g := g) hb
  unfold objectExpr
  cases hm : resolved.mayBeNull with
  | true => exact ⟨_, _, hr, hs.withNull, by simp [hadmits, hm]⟩
  | false => exact ⟨_, _, hr, hs, by simpa [hadmits, hm] using hn⟩

/-- The type of alternatives has null if one of them admits it. -/
theorem options_null (hi : Types (NullKnown g) 0 (NullTyped g) inside) {nodes : List Node} :
    ∀ {index : Nat} {parts : List String} {d : Declarations}, Notes (NullKnown g) 0 d →
      Returns (options inside hint index nodes) d parts d' → Notes (NullKnown g) 0 d' ∧
        (nodes ≠ [] → Node.listTextual nodes = true → ∃ us, Spells (Json.join " | " parts) us ∧
          (.word "null" ∈ us ↔ ∃ node ∈ nodes, node.Admits g .null)) := by
  induction nodes with
  | nil =>
    intro index parts d hn hr
    obtain ⟨-, rfl⟩ := returns_options_nil.mp hr
    exact ⟨hn, fun hne => absurd rfl hne⟩
  | cons node rest ih =>
    intro index parts d hn hr
    obtain ⟨first, others, d₁, hin, hrest, rfl⟩ := returns_options_cons.mp hr
    obtain ⟨hn₁, hfirst⟩ := hi _ _ _ _ _ hn hin
    obtain ⟨hn', hothers⟩ := ih hn₁ hrest
    refine ⟨hn', fun _ ht => ?_⟩
    rw [Node.listTextual, Bool.and_eq_true] at ht
    obtain ⟨us, hs, hu⟩ := hfirst ht.1
    cases rest with
    | nil =>
      obtain ⟨rfl, -⟩ := returns_options_nil.mp hrest
      exact ⟨us, hs, by simpa using hu⟩
    | cons next more =>
      obtain ⟨ws, hs', hw⟩ := hothers (by simp) ht.2
      obtain ⟨second, others', _, _, _, rfl⟩ := returns_options_cons.mp hrest
      refine ⟨us ++ ws, hs.alternatives hs', ?_⟩
      rw [List.mem_append, hu, hw]
      simp

theorem fields_note {known : Ref → String → Prop} {least : Int} {typed : Node → String → Prop}
    (hi : Types known least typed inside) {members : List (String × Node)} :
    ∀ {used : List String} {d : Declarations}, Notes known least d →
      Returns (fields s inside name used members) d () d' → Notes known least d' := by
  induction members with
  | nil =>
    intro used d hn hr
    cases returns_fields_nil.mp hr
    exact hn
  | cons member rest ih =>
    obtain ⟨key, node⟩ := member
    intro used d hn hr
    obtain ⟨peeled, type, d₁, -, hin, hrest⟩ := returns_fields_cons.mp hr
    have hn₁ : Notes known least (d₁.addField name (newField used key type peeled)) :=
      (hi _ _ _ _ _ hn hin).1.congr rfl le_rfl
    exact ih hn₁ hrest

/-- A type without null, of a node that does not admit it. -/
theorem nullTyped_none {us : List Alternative} (hs : Spells expr us) (hu : .word "null" ∉ us)
    (hno : ¬ node.Admits g .null) : NullTyped g node expr :=
  fun _ => ⟨us, hs, iff_of_false hu hno⟩

/-- What is recorded for a reference is the type of the deferred node. -/
theorem NullKnown.typed {description lazyName : Json} {ref : Ref} (h : NullKnown g ref expr) :
    NullTyped g (.lazy description lazyName ref) expr := by
  obtain ⟨resolved, us, hr, hs, hu⟩ := h
  refine fun _ => ⟨us, hs, hu.trans ⟨.lazy hr, fun h => ?_⟩⟩
  cases h with
  | lazy hr' h =>
    rw [hr] at hr'
    cases hr'
    exact h

theorem core_null (hi : Types (NullKnown g) 0 (NullTyped g) inside) (hg : g.Textual)
    (hn : Notes (NullKnown g) 0 d) (hr : Returns (core g s inside node hint) d expr d') :
    Notes (NullKnown g) 0 d' ∧ NullTyped g node expr := by
  cases core_cases hr with
  | object hd hf =>
    obtain ⟨hs, hu⟩ := spells_declareClass hn.counter hd
    exact ⟨(fields_note hi (hn.declareClass hd) hf).congr rfl le_rfl,
      nullTyped_none hs hu object_not_null⟩
  | primitive hp =>
    refine ⟨hn, nullTyped_builtin (primitiveType_builtin hp) ?_⟩
    rw [primitive_admits hp]
    rfl
  | literal =>
    refine ⟨hn, nullTyped_builtin (literalType_builtin _) ?_⟩
    rw [literal_admits]
    rfl
  | strings he ha =>
    have hw := builtin_word (show "string" ∈ builtins by decide)
    refine ⟨hn, nullTyped_none (Spells.word hw.1 hw.2).brackets (by simp) fun h => ?_⟩
    cases h
  | array he ha hin =>
    obtain ⟨hn', htyped⟩ := hi _ _ _ _ _ hn hin
    refine ⟨hn', fun ht => ?_⟩
    obtain ⟨us, hs, -⟩ := htyped (hg.element ht he ha)
    refine nullTyped_none hs.brackets (by simp) (fun h => ?_) ht
    cases h
  | anyString hv =>
    refine ⟨hn, nullTyped_builtin (by decide) ?_⟩
    simp [enum_not_null hv]
  | names hv =>
    obtain ⟨hs, hu⟩ := spells_uniqueName hn.counter _
    exact ⟨hn.congr rfl (Declarations.uniqueName_counter d _), nullTyped_none hs hu (enum_not_null hv)⟩
  | literals hv =>
    obtain ⟨hs, hu⟩ := spells_uniqueName hn.counter _
    exact ⟨hn.congr rfl (Declarations.uniqueName_counter d _), nullTyped_none hs hu (enum_not_null hv)⟩
  | record ha hkey hvalue =>
    obtain ⟨hn₁, hk⟩ := hi _ _ _ _ _ hn hkey
    obtain ⟨hn', hv⟩ := hi _ _ _ _ _ hn₁ hvalue
    refine ⟨hn', fun ht => ?_⟩
    have ht' := ht
    rw [Node.textual, Bool.and_eq_true] at ht'
    obtain ⟨us, hs, -⟩ := hk (Node.textual_orString ht'.1)
    obtain ⟨ws, hs', -⟩ := hv ht'.2
    refine nullTyped_none (hs.map hs') (by simp) (fun h => ?_) ht
    cases h
  | union hne ho =>
    obtain ⟨hn', htyped⟩ := options_null hi hn ho
    refine ⟨hn', fun ht => ?_⟩
    obtain ⟨us, hs, hu⟩ := htyped hne ht
    refine ⟨us, hs, hu.trans ?_⟩
    constructor
    · rintro ⟨option, hm, h⟩
      exact .union hm h
    · intro h
      cases h with
      | union hm h => exact ⟨_, hm, h⟩
  | bare _ hin =>
    obtain ⟨hn', htyped⟩ := hi _ _ _ _ _ hn hin
    refine ⟨hn', fun ht => ?_⟩
    rw [Node.textual] at ht
    obtain ⟨us, hs, hu⟩ := htyped ht
    refine ⟨us, hs, hu.trans ⟨.bare, fun h => ?_⟩⟩
    cases h with
    | bare h => exact h
  | reused hl => exact ⟨hn, (hn.recorded _ _ hl).typed⟩
  | @lazyObject _ _ _ ref resolved _ _ class_ _ d₁ _ _ hres hp hobj hd hexpr hf =>
    obtain ⟨hb, -, hu⟩ := Schema.peel_ok hp
    have hk := knowsObjects_null ref _ _ _ _ _ _ _ hres (by rw [← hb, hobj])
      hn.counter hd
    have he : expr = objectExpr resolved class_ := by rw [hexpr, hu]; rfl
    rw [← he] at hk
    have hn₁ : Notes (NullKnown g) 0 (d₁.recordLazy ref expr) :=
      (hn.declareClass hd).recordLazy hk
    exact ⟨(fields_note hi hn₁ hf).congr rfl le_rfl, hk.typed⟩
  | @lazyOther _ _ _ _ _ _ d₁ _ hres _ _ _ hin =>
    have hn₁ : Notes (NullKnown g) 0 { d with depth := d.depth + 1 } := hn.congr rfl le_rfl
    obtain ⟨hn', htyped⟩ := hi _ _ _ _ _ hn₁ hin
    obtain ⟨us, hs, hu⟩ := htyped (hg.resolve hres)
    have hk : NullKnown g _ expr := ⟨_, us, hres, hs, hu⟩
    have hn₂ : Notes (NullKnown g) 0 { d₁ with depth := d₁.depth - 1 } :=
      hn'.congr rfl le_rfl
    exact ⟨hn₂.recordLazy hk, hk.typed⟩

theorem step_null (hi : Types (NullKnown g) 0 (NullTyped g) inside) (hg : g.Textual) :
    Types (NullKnown g) 0 (NullTyped g) (step g s inside) := by
  intro node hint d expr d' hn hr
  obtain ⟨peeled, type, hp, hc, rfl⟩ := returns_step.mp hr
  obtain ⟨hb, -, hu⟩ := Schema.peel_ok hp
  rw [hb] at hc
  obtain ⟨hn', htyped⟩ := core_null hi hg hn hc
  refine ⟨hn', fun ht => ?_⟩
  obtain ⟨us, hs, hus⟩ := htyped (Node.textual_base node ht)
  rw [admits_null_iff, hu]
  cases hm : node.mayBeNull with
  | false => exact ⟨us, hs, by simpa using hus⟩
  | true => exact ⟨_, hs.orNull, by simp [Alternative.mem_orNull]⟩

/-- The type of every node has null as an alternative exactly if the node admits null. -/
theorem within_null {g : Graph} (hg : g.Textual) (s : Settings.Translator) (nesting : Nat) :
    Types (NullKnown g) 0 (NullTyped g) (within g s nesting) := by
  induction nesting with
  | zero => intro node hint d expr d' _ hr; exact (returns_throw hr).elim
  | succ nesting ih => exact step_null ih hg

end Translation

end StructuredOutput.Baml
