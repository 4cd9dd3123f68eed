import StructuredOutput.Baml.Translation
import StructuredOutput.Proofs.Json.Members
import StructuredOutput.Proofs.Schema.Parsed
import StructuredOutput.Proofs.Schema.Wrappers

/-! # The values of a schema node

`Admits` reads a node as a set of values. References are followed as often as a value needs it, so a
recursive schema admits the values that some finite derivation accounts for. -/
namespace StructuredOutput

open Baml.Translation (literalType primitiveType primitiveTypes)

/-- Whether a value is of a JSON type; a whole number is a number too. -/
def OfType (name : String) : Json → Prop
  | .str _ => name = "string"
  | .bool _ => name = "boolean"
  | .int _ => name = "integer" ∨ name = "number"
  | .float _ => name = "number"
  | .null => name = "null"
  | .arr _ | .obj _ => False

def OfPrimitive (type : String) : Json → Prop
  | .str _ => type = "string"
  | .bool _ => type = "bool"
  | .int _ => type = "int" ∨ type = "float"
  | .float _ => type = "float"
  | .null => type = "null"
  | .arr _ | .obj _ => False

/-- A JSON type and the primitive type that it is translated to have the same values. -/
theorem ofType_iff_ofPrimitive {name type : String} (h : Json.find? name primitiveTypes = some type)
    (value : Json) : OfType name value ↔ OfPrimitive type value := by
  have hm := Json.mem_of_find? h
  simp only [primitiveTypes, List.mem_cons, Prod.mk.injEq, List.not_mem_nil, or_false] at hm
  rcases hm with ⟨rfl, rfl⟩ | ⟨rfl, rfl⟩ | ⟨rfl, rfl⟩ | ⟨rfl, rfl⟩ | ⟨rfl, rfl⟩ <;>
    cases value <;> simp [OfType, OfPrimitive]

namespace Schema

namespace Node

def orString (key : Node) : Node :=
  if key.isAbsent then .primitive .null (.str "string") else key

mutual

def textual : Node → Bool
  | .enumeration _ values =>
    match values.elements? with
    | some items => items.all fun item => item.toStr?.isSome
    | none => true
  | .bare _ inner => inner.textual
  | .object _ members => membersTextual members
  | .array _ candidates _ _ => listTextual candidates
  | .record _ key value => key.textual && value.textual
  | .union _ options => listTextual options
  | .wrapper _ _ inner => inner.textual
  | .pipeline _ inner source => inner.textual && source.textual
  | _ => true

def listTextual : List Node → Bool
  | [] => true
  | node :: rest => node.textual && listTextual rest

def membersTextual : List (String × Node) → Bool
  | [] => true
  | (_, node) :: rest => node.textual && membersTextual rest

end

theorem listTextual_iff {nodes : List Node} :
    listTextual nodes = true ↔ ∀ node ∈ nodes, node.textual = true := by
  induction nodes with
  | nil => simp [listTextual]
  | cons node rest ih => simp [listTextual, ih]

theorem membersTextual_iff {members : List (String × Node)} :
    membersTextual members = true ↔ ∀ member ∈ members, member.2.textual = true := by
  induction members with
  | nil => simp [membersTextual]
  | cons member rest ih => simp [membersTextual, ih]

theorem textual_base : (node : Node) → node.textual = true → node.base.textual = true
  | .wrapper _ _ inner, h => by
    rw [textual] at h
    rw [base]
    exact textual_base inner h
  | .pipeline _ inner source, h => by
    rw [textual, Bool.and_eq_true] at h
    rw [base]
    split
    · exact textual_base source h.2
    · exact textual_base inner h.1
  | .foreign _, h | .thunk _, h | .bare .., h | .primitive .., h | .literal .., h | .object .., h
  | .array .., h | .enumeration .., h | .memberEnum .., h | .record .., h | .union .., h
  | .lazy .., h => h

theorem textual_orString {key : Node} (h : key.textual = true) : key.orString.textual = true := by
  unfold orString
  split
  · rfl
  · exact h

theorem enum_texts {node : Node} (ht : node.textual = true) {values : Json} {items : List Json}
    (hv : node.enumValues? = some values) (he : values.elements? = some items) :
    ∃ texts : List String, items = texts.map Json.str := by
  cases node with
  | enumeration description values' =>
    cases hv
    simp only [textual, he, List.all_eq_true] at ht
    exact Json.exists_texts ht
  | memberEnum description source =>
    cases hv
    cases he
    exact ⟨_, rfl⟩
  | foreign | thunk | bare | primitive | literal | object | array | record | union | lazy | wrapper
  | pipeline => cases hv

end Node

/-- Whether all enumerations of a table hold strings only. -/
def Graph.Textual (g : Graph) : Prop :=
  ∀ entry ∈ g.entries, ∀ node, entry.2 = .ok node → node.textual = true

namespace Graph

variable {g : Graph}

theorem Textual.resolve (hg : g.Textual) {ref : Ref} {node : Node} (h : g.resolve ref = .ok node) :
    node.textual = true :=
  hg _ (mem_of_resolve h) node rfl

/-- The element of an array is one of the candidates or stands in the table. -/
theorem element_source {candidates : List Node} {element : Node}
    (h : g.element candidates = .ok element) (ha : element.isAbsent = false) :
    element ∈ candidates ∨ ∃ ref, .thunk ref ∈ candidates ∧ g.resolve ref = .ok element := by
  induction candidates with
  | nil =>
    simp only [Graph.element, Except.ok.injEq] at h
    subst h
    cases ha
  | cons first rest ih =>
    have hrest (h : g.element rest = .ok element) :
        element ∈ first :: rest ∨
          ∃ ref, .thunk ref ∈ first :: rest ∧ g.resolve ref = .ok element := by
      rcases ih h with hm | ⟨ref, hm, hr⟩
      · exact .inl (List.mem_cons_of_mem _ hm)
      · exact .inr ⟨ref, List.mem_cons_of_mem _ hm, hr⟩
    unfold Graph.element at h
    split at h
    · cases h; cases ha
    · rename_i ref rest' he
      cases he
      cases hr : g.resolve ref with
      | error fault => rw [hr] at h; cases h
      | ok node =>
        rw [hr] at h
        change (if node.isAbsent = true then g.element rest else .ok node) = _ at h
        split at h
        · exact hrest h
        · cases h
          exact .inr ⟨ref, List.mem_cons_self, hr⟩
    · rename_i node rest' _ he
      cases he
      split at h
      · exact hrest h
      · cases h
        exact .inl List.mem_cons_self

theorem Textual.element (hg : g.Textual) {candidates : List Node} {element : Node}
    (hc : Node.listTextual candidates = true) (h : g.element candidates = .ok element)
    (ha : element.isAbsent = false) : element.textual = true := by
  rcases element_source h ha with hm | ⟨ref, -, hr⟩
  · exact Node.listTextual_iff.mp hc element hm
  · exact hg.resolve hr

end Graph

/-- The enumerations of a document hold strings, since others are read as unions of literals. -/
theorem Parsed.textual {node : Node} (h : Parsed node) : node.textual = true := by
  induction h with
  | lazy | primitive | literal => rfl
  | enumeration => simp [Node.textual, Json.elements?, Json.toStr?]
  | array _ ih => simp [Node.textual, Node.listTextual, ih]
  | anyArray => rfl
  | object _ ih => exact Node.membersTextual_iff.mpr ih
  | record _ _ ihk ihv => simp [Node.textual, ihk, ihv]
  | anyRecord _ ih => simp [Node.textual, Node.absent, ih]
  | union _ ih => exact Node.listTextual_iff.mpr ih
  | wrapper _ ih => exact ih

theorem Graph.AllParsed.textual {g : Graph} (h : g.AllParsed) : g.Textual := by
  intro entry hm node hn
  have hf := h entry hm
  rw [hn] at hf
  exact Parsed.textual hf

inductive Node.Admits (g : Graph) : Node → Json → Prop
  | primitive {description : Json} {name : String} {value : Json} :
      OfType name value → Admits g (.primitive description (.str name)) value
  | literal {description literal value : Json} :
      OfPrimitive (literalType literal) value → Admits g (.literal description literal) value
  | array {description low high : Json} {candidates : List Node} {element : Node}
      {items : List Json} :
      g.element candidates = .ok element → element.isAbsent = false →
      (∀ item ∈ items, Admits g element item) →
      Admits g (.array description candidates low high) (.arr items)
  | strings {description low high : Json} {candidates : List Node} {element : Node}
      {items : List Json} :
      g.element candidates = .ok element → element.isAbsent = true →
      (∀ item ∈ items, OfType "string" item) →
      Admits g (.array description candidates low high) (.arr items)
  | oneOf {node : Node} {values : Json} {items : List Json} {text : String} :
      node.enumValues? = some values → values.elements? = some items → .str text ∈ items →
      Admits g node (.str text)
  | anyString {node : Node} {values : Json} {text : String} :
      node.enumValues? = some values → values.truthy = false → Admits g node (.str text)
  | record {description : Json} {key value : Node} {members : List (String × Json)} :
      (∀ member ∈ members, Admits g key.orString (.str member.1)) →
      (∀ member ∈ members, Admits g value member.2) →
      Admits g (.record description key value) (.obj members)
  | union {description value : Json} {options : List Node} {option : Node} :
      option ∈ options → Admits g option value → Admits g (.union description options) value
  | null {description : Json} {form : Wrapper} {inner : Node} :
      form.isNullable = true → Admits g (.wrapper description form inner) .null
  | wrapper {description value : Json} {form : Wrapper} {inner : Node} :
      Admits g inner value → Admits g (.wrapper description form inner) value
  | pipeline {description value : Json} {inner source : Node} :
      Admits g (if inner.isAbsent then source else inner) value →
      Admits g (.pipeline description inner source) value
  | object {description : Json} {fields : List (String × Node)} {members : List (String × Json)} :
      (∀ field ∈ fields, ∀ value, Json.find? field.1 members = some value →
        Admits g field.2 value) →
      (∀ field ∈ fields, Json.find? field.1 members = none → field.2.mayBeAbsent = true) →
      Admits g (.object description fields) (.obj members)
  | lazy {description name value : Json} {ref : Ref} {node : Node} :
      g.resolve ref = .ok node → Admits g node value → Admits g (.lazy description name ref) value
  | bare {description value : Json} {inner : Node} :
      Admits g inner value → Admits g (.bare description inner) value

end Schema

end StructuredOutput
