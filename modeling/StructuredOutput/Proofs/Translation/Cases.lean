import StructuredOutput.Proofs.Translation.Outcome

/-! # The cases of a translation that returns

`CoreReturns` says once what the translation of a node without wrappers can do when it returns: one
constructor for each way, with every guard that was passed and the declarations between the parts.
The translation of the parts stays a parameter, as in the translator itself, so a property of the
translator is proved for one step from these cases and for all nestings by one induction. -/
namespace StructuredOutput.Baml.Translation

open Schema (Graph Node Ref Peeled)

def newField (used : List String) (key type : String) (peeled : Peeled) : Field :=
  ⟨freeField used (Text.fieldName key), type, peeled.optional, peeled.description,
    if freeField used (Text.fieldName key) = key then none else some key⟩

variable {g : Graph} {s : Settings.Translator} {inside : Node → NameHint → Translation String}
variable {d d' : Declarations} {hint : NameHint} {expr : String}

@[simp] theorem returns_fields_nil {name : String} {used : List String} {u : Unit} :
    Returns (fields s inside name used []) d u d' ↔ d = d' := by
  simp [fields]

theorem returns_fields_cons {name key : String} {used : List String} {node : Node}
    {rest : List (String × Node)} {u : Unit} :
    Returns (fields s inside name used ((key, node) :: rest)) d u d' ↔
      ∃ peeled type d₁, Schema.peel s.unwrapLimit node = .ok peeled ∧
        Returns (inside node (.text (name ++ "_" ++ key))) d type d₁ ∧
        Returns (fields s inside name ((newField used key type peeled).name :: used) rest)
          (d₁.addField name (newField used key type peeled)) u d' := by
  simp only [fields, returns_bind, returns_lift, returns_modify, newField]
  constructor
  · rintro ⟨peeled, _, ⟨hp, rfl⟩, type, d₁, ht, _, _, rfl, hr⟩
    exact ⟨peeled, type, d₁, hp, ht, hr⟩
  · rintro ⟨peeled, type, d₁, hp, ht, hr⟩
    exact ⟨peeled, d, ⟨hp, rfl⟩, type, d₁, ht, (), _, rfl, hr⟩

@[simp] theorem returns_options_nil {index : Nat} {parts : List String} :
    Returns (options inside hint index []) d parts d' ↔ parts = [] ∧ d = d' := by
  simp [options, eq_comm]

theorem returns_options_cons {index : Nat} {option : Node} {rest : List Node}
    {parts : List String} :
    Returns (options inside hint index (option :: rest)) d parts d' ↔
      ∃ first others d₁, Returns (inside option (hint.extend ("U" ++ toString index))) d first d₁ ∧
        Returns (options inside hint (index + 1) rest) d₁ others d' ∧ parts = first :: others := by
  simp only [options, returns_bind, returns_pure]
  constructor
  · rintro ⟨first, d₁, hf, others, _, ho, rfl, rfl⟩
    exact ⟨first, others, d₁, hf, ho, rfl⟩
  · rintro ⟨first, others, d₁, hf, ho, rfl⟩
    exact ⟨first, d₁, hf, others, _, ho, rfl, rfl⟩

/-- A declared class, the declarations behind it, and the text that was asked for. -/
theorem returns_declareClass {name : String} :
    Returns (declareClass hint) d name d' ↔
      ∃ text, hint.textOr "Obj" = .ok text ∧ d.declareClass text = (name, d') := by
  simp only [declareClass, returns_bind, returns_lift, returns_modifyGet]
  constructor
  · rintro ⟨text, _, ⟨ht, rfl⟩, hd⟩; exact ⟨text, ht, hd⟩
  · rintro ⟨text, ht, hd⟩; exact ⟨text, d, ⟨ht, rfl⟩, hd⟩

theorem returns_classType {name : String} {members : List (String × Node)} :
    Returns (classType s inside name members) d expr d' ↔
      ∃ d₁, Returns (fields s inside name [] members) d () d₁ ∧ expr = name ∧
        d' = d₁.completeClass name := by
  simp only [classType, returns_bind, returns_modify, returns_pure]
  constructor
  · rintro ⟨_, d₁, hf, _, _, rfl, rfl, rfl⟩; exact ⟨d₁, hf, rfl, rfl⟩
  · rintro ⟨d₁, hf, rfl, rfl⟩; exact ⟨(), d₁, hf, (), _, rfl, rfl, rfl⟩

/-- What a node without wrappers can do when its translation returns. -/
inductive CoreReturns (g : Graph) (s : Settings.Translator)
    (inside : Node → NameHint → Translation String) (hint : NameHint) (d : Declarations) :
    Node → String → Declarations → Prop
  | object {description : Json} {members : List (String × Node)} {name : String}
      {d₁ d₂ : Declarations} :
      Returns (declareClass hint) d name d₁ → Returns (fields s inside name [] members) d₁ () d₂ →
      CoreReturns g s inside hint d (.object description members) name (d₂.completeClass name)
  | primitive {description name : Json} {type : String} :
      primitiveType name = .ok type →
      CoreReturns g s inside hint d (.primitive description name) type d
  | literal {description value : Json} :
      CoreReturns g s inside hint d (.literal description value) (literalType value) d
  | strings {description low high : Json} {candidates : List Node} {element : Node} :
      g.element candidates = .ok element → element.isAbsent = true →
      CoreReturns g s inside hint d (.array description candidates low high)
        (group "string" ++ "[]") d
  | array {description low high : Json} {candidates : List Node} {element : Node} {inner : String}
      {d₁ : Declarations} :
      g.element candidates = .ok element → element.isAbsent = false →
      Returns (inside element (hint.extend "Item")) d inner d₁ →
      CoreReturns g s inside hint d (.array description candidates low high)
        (group inner ++ "[]") d₁
  | anyString {node : Node} {values : Json} :
      node.enumValues? = some values → values.truthy = false →
      CoreReturns g s inside hint d node "string" d
  | names {node : Node} {values : Json} {items : List Json} {text : String} :
      node.enumValues? = some values → values.truthy = true → values.elements? = some items →
      allNames items = .ok true → hint.textOr "Enum" = .ok text →
      CoreReturns g s inside hint d node (d.declareEnum text items).1 (d.declareEnum text items).2
  | literals {node : Node} {values : Json} {items : List Json} {text : String} :
      node.enumValues? = some values → values.truthy = true → values.elements? = some items →
      allNames items = .ok false → hint.textOr "Enum" = .ok text →
      CoreReturns g s inside hint d node
        (d.declareAlias text (Json.join " | " (items.map Json.quote))).1
        (d.declareAlias text (Json.join " | " (items.map Json.quote))).2
  | record {description : Json} {key value : Node} {keyType valueType : String}
      {d₁ d₂ : Declarations} :
      value.isAbsent = false →
      Returns (inside (if key.isAbsent then .primitive .null (.str "string") else key)
        (hint.extend "Key")) d keyType d₁ →
      Returns (inside value (hint.extend "Val")) d₁ valueType d₂ →
      CoreReturns g s inside hint d (.record description key value)
        ("map<" ++ keyType ++ ", " ++ valueType ++ ">") d₂
  | union {description : Json} {nodes : List Node} {parts : List String} {d₁ : Declarations} :
      nodes ≠ [] → Returns (options inside hint 0 nodes) d parts d₁ →
      CoreReturns g s inside hint d (.union description nodes) (Json.join " | " parts) d₁
  | bare {description : Json} {inner : Node} {type : String} {d₁ : Declarations} :
      inner.isNode = true → Returns (inside inner hint) d type d₁ →
      CoreReturns g s inside hint d (.bare description inner) type d₁
  | reused {description name : Json} {ref : Ref} {type : String} :
      d.lazy? ref = some type → CoreReturns g s inside hint d (.lazy description name ref) type d
  | lazyObject {description description' name : Json} {ref : Ref} {resolved : Node}
      {target : Peeled} {members : List (String × Node)} {class_ type : String}
      {d₁ d₂ : Declarations} :
      d.lazy? ref = none → g.resolve ref = .ok resolved →
      Schema.peel s.unwrapLimit resolved = .ok target →
      target.node = .object description' members →
      Returns (declareClass ((NameHint.ofJson name).orElse hint)) d class_ d₁ →
      type = (if target.nullable then class_ ++ " | null" else class_) →
      Returns (fields s inside class_ [] members) (d₁.recordLazy ref type) () d₂ →
      CoreReturns g s inside hint d (.lazy description name ref) type (d₂.completeClass class_)
  | lazyOther {description name : Json} {ref : Ref} {resolved : Node} {target : Peeled}
      {type : String} {d₁ : Declarations} :
      d.lazy? ref = none → g.resolve ref = .ok resolved →
      Schema.peel s.unwrapLimit resolved = .ok target →
      (∀ description' members, target.node ≠ .object description' members) →
      reached d.depth s.maxLazyDepth = .ok false →
      Returns (inside resolved ((NameHint.ofJson name).orElse hint))
        { d with depth := d.depth + 1 } type d₁ →
      CoreReturns g s inside hint d (.lazy description name ref) type
        (Declarations.recordLazy { d₁ with depth := d₁.depth - 1 } ref type)

theorem enumType_cases {node : Node} {values : Json} (hv : node.enumValues? = some values)
    (h : Returns (enumType values hint) d expr d') :
    CoreReturns g s inside hint d node expr d' := by
  unfold enumType at h
  cases ht : values.truthy with
  | false =>
    rw [ht] at h
    simp only [Bool.not_false, if_true, returns_pure] at h
    obtain ⟨rfl, rfl⟩ := h
    exact .anyString hv ht
  | true =>
    rw [ht] at h
    simp only [Bool.not_true, Bool.false_eq_true, if_false, returns_bind, returns_lift] at h
    obtain ⟨items, _, ⟨hi, rfl⟩, plain, _, ⟨hn, rfl⟩, text, _, ⟨hh, rfl⟩, hd⟩ := h
    have hi : values.elements? = some items := by
      split at hi
      · cases hi; assumption
      · cases hi
    cases plain with
    | true =>
      rw [if_pos rfl, returns_modifyGet] at hd
      have hc : CoreReturns g s inside hint d node _ _ := .names hv ht hi hn hh
      rwa [hd] at hc
    | false =>
      rw [if_neg (by simp), returns_modifyGet] at hd
      have hc : CoreReturns g s inside hint d node _ _ := .literals hv ht hi hn hh
      rwa [hd] at hc

theorem lazyType_cases {description name : Json} {ref : Ref}
    (h : Returns (lazyType g s inside ref ((NameHint.ofJson name).orElse hint)) d expr d') :
    CoreReturns g s inside hint d (.lazy description name ref) expr d' := by
  simp only [lazyType, returns_bind, returns_get] at h
  obtain ⟨_, _, ⟨rfl, rfl⟩, h⟩ := h
  cases hl : d.lazy? ref with
  | some type =>
    rw [hl] at h
    obtain ⟨rfl, rfl⟩ := returns_pure.mp h
    exact .reused hl
  | none =>
    simp only [hl, returns_bind, returns_lift] at h
    obtain ⟨resolved, _, ⟨hr, rfl⟩, target, _, ⟨ht, rfl⟩, h⟩ := h
    split at h
    · rename_i description' members hm
      simp only [returns_bind, returns_modify, returns_pure, returns_classType] at h
      obtain ⟨class_, d₁, hc, _, _, rfl, _, _, ⟨d₂, hf, rfl, rfl⟩, rfl, rfl⟩ := h
      exact .lazyObject hl hr ht hm hc rfl hf
    · rename_i hm
      simp only [returns_bind, returns_get, returns_lift] at h
      obtain ⟨_, _, ⟨rfl, rfl⟩, full, _, ⟨ho, rfl⟩, h⟩ := h
      cases full with
      | true => simp at h
      | false =>
        simp only [Bool.false_eq_true, if_false, returns_bind, returns_deeper, returns_modify,
          returns_pure] at h
        obtain ⟨type, _, ⟨d₁, hi, rfl⟩, _, _, rfl, rfl, rfl⟩ := h
        exact .lazyOther hl hr ht hm ho hi

/-- The inversion of one step behind the wrappers: whatever returns is one of the cases. -/
theorem core_cases {node : Node} (h : Returns (core g s inside node hint) d expr d') :
    CoreReturns g s inside hint d node expr d' := by
  cases node with
  | foreign value => simp [core] at h
  | thunk ref => simp [core] at h
  | wrapper description form inner => simp [core] at h
  | pipeline description inner source => simp [core] at h
  | primitive description name =>
    simp only [core, returns_lift] at h
    obtain ⟨hp, rfl⟩ := h
    exact .primitive hp
  | literal description value =>
    simp only [core, returns_pure] at h
    obtain ⟨rfl, rfl⟩ := h
    exact .literal
  | bare description inner =>
    simp only [core] at h
    split at h
    · exact .bare ‹_› h
    · simp at h
  | object description members =>
    simp only [core, returns_bind, returns_classType] at h
    obtain ⟨name, d₁, hc, d₂, hf, rfl, rfl⟩ := h
    exact .object hc hf
  | array description candidates low high =>
    simp only [core, returns_bind, returns_lift] at h
    obtain ⟨element, _, ⟨he, rfl⟩, h⟩ := h
    cases ha : element.isAbsent with
    | true =>
      simp only [ha, if_true, returns_bind, returns_pure] at h
      obtain ⟨_, _, ⟨rfl, rfl⟩, rfl, rfl⟩ := h
      exact .strings he ha
    | false =>
      simp only [ha, Bool.false_eq_true, if_false, returns_bind, returns_pure] at h
      obtain ⟨inner, _, hi, rfl, rfl⟩ := h
      exact .array he ha hi
  | enumeration description values => exact enumType_cases rfl h
  | memberEnum description source => exact enumType_cases rfl h
  | record description key value =>
    simp only [core] at h
    cases ha : value.isAbsent with
    | true => simp [ha] at h
    | false =>
      simp only [ha, Bool.false_eq_true, if_false, returns_bind, returns_pure] at h
      obtain ⟨keyType, d₁, hk, valueType, _, hv, rfl, rfl⟩ := h
      exact .record ha hk hv
  | union description nodes =>
    simp only [core] at h
    cases hn : nodes with
    | nil => simp [hn] at h
    | cons first rest =>
      subst hn
      simp only [List.isEmpty_cons, Bool.false_eq_true, if_false, returns_bind, returns_pure] at h
      obtain ⟨parts, _, ho, rfl, rfl⟩ := h
      exact .union (by simp) ho
  | lazy description name ref => exact lazyType_cases h

/-- One step: the wrappers are peeled off, and null is added once if one of them allows it. -/
theorem returns_step {node : Node} :
    Returns (step g s inside node hint) d expr d' ↔
      ∃ peeled type, Schema.peel s.unwrapLimit node = .ok peeled ∧
        Returns (core g s inside peeled.node hint) d type d' ∧
        expr = if peeled.nullable then orNull type else type := by
  simp only [step, returns_bind, returns_lift, returns_pure]
  constructor
  · rintro ⟨peeled, _, ⟨hp, rfl⟩, type, _, hc, rfl, rfl⟩
    exact ⟨peeled, type, hp, hc, rfl⟩
  · rintro ⟨peeled, type, hp, hc, rfl⟩
    exact ⟨peeled, d, ⟨hp, rfl⟩, type, d', hc, rfl, rfl⟩

end StructuredOutput.Baml.Translation
