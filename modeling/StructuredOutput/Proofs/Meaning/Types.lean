import StructuredOutput.Proofs.Meaning.Nodes
import StructuredOutput.Proofs.TypeText.Reading

/-! # The values of a type expression

An expression is read over the declarations that it was made with: a class asks for its fields, an
enum is its values and an alias is the expression behind it. -/
namespace StructuredOutput.Baml

def Field.source (field : Field) : String := field.key.getD field.name

/-- The values that one of some alternatives admits. -/
inductive Declarations.Admits (d : Declarations) : List Alternative → Json → Prop
  | primitive {us : List Alternative} {name : String} {value : Json} :
      .word name ∈ us → OfPrimitive name value → Admits d us value
  | literal {us : List Alternative} {text : String} :
      .literal text ∈ us → Admits d us (.str text)
  | list {us ws : List Alternative} {items : List Json} :
      .list ws ∈ us → (∀ item ∈ items, Admits d ws item) → Admits d us (.arr items)
  | map {us ks ws : List Alternative} {members : List (String × Json)} :
      .map ks ws ∈ us → (∀ member ∈ members, Admits d ks (.str member.1)) →
      (∀ member ∈ members, Admits d ws member.2) → Admits d us (.obj members)
  | oneOf {us : List Alternative} {name text : String} {values : List Json} :
      .word name ∈ us → (name, values) ∈ d.enums → .str text ∈ values → Admits d us (.str text)
  | behind {us ws : List Alternative} {name expr : String} {value : Json} :
      .word name ∈ us → (name, expr) ∈ d.aliases → Reads .whole (tokens expr) ws →
      Admits d ws value → Admits d us value
  | object {us : List Alternative} {name : String} {c : Class} {members : List (String × Json)}
      {types : Field → List Alternative} :
      .word name ∈ us → (name, c) ∈ d.classes →
      (∀ field ∈ c.fields, Reads .whole (tokens field.type) (types field)) →
      (∀ field ∈ c.fields, ∀ value, Json.find? field.source members = some value →
        Admits d (types field) value) →
      (∀ field ∈ c.fields, Json.find? field.source members = none → field.optional = true) →
      Admits d us (.obj members)

/-- More alternatives admit more values. -/
theorem Declarations.Admits.mono {d : Declarations} {us ws : List Alternative} {value : Json}
    (h : d.Admits us value) (hsub : us ⊆ ws) : d.Admits ws value := by
  cases h with
  | primitive hm hv => exact .primitive (hsub hm) hv
  | literal hm => exact .literal (hsub hm)
  | list hm hi => exact .list (hsub hm) hi
  | map hm hk hv => exact .map (hsub hm) hk hv
  | oneOf hm hd hv => exact .oneOf (hsub hm) hd hv
  | behind hm hd hr hv => exact .behind (hsub hm) hd hr hv
  | object hm hd hr hv ho => exact .object (hsub hm) hd hr hv ho

/-! ## Unions of literals -/

theorem tokens_quoted (text more : String) :
    tokens (Json.quoteString text ++ more) = .quoted text :: tokens more := by
  unfold tokens Json.quoteString
  rw [String.toList_append, String.toList_ofList, List.cons_append, List.cons_append,
    List.append_assoc, List.singleton_append]
  have hd := Json.decode_encode text.toList more.toList
  rw [Token.lex_quoted hd, String.ofList_toList]

/-- Quoted strings with bars between them are read as those literals. -/
theorem reads_literals {texts : List String} (hne : texts ≠ []) :
    Reads .whole (tokens (Json.join " | " (texts.map Json.quoteString)))
      (texts.map .literal) := by
  induction texts with
  | nil => exact absurd rfl hne
  | cons text rest ih =>
    cases rest with
    | nil =>
      have ht := tokens_quoted text ""
      rw [String.append_empty] at ht
      change Reads .whole (tokens (Json.quoteString text)) [.literal text]
      rw [ht]
      simpa [tokens] using Reads.single (.quoted text)
    | cons next more =>
      change Reads .whole (tokens (Json.quoteString text ++ " | " ++
        Json.join " | " ((next :: more).map Json.quoteString))) _
      rw [String.append_assoc, tokens_quoted, tokens_bar]
      exact (Reads.single (.quoted text)).alternatives (ih (by simp))

end StructuredOutput.Baml
