import StructuredOutput.Proofs.Json.Members
import StructuredOutput.Proofs.Translation.Growth
import StructuredOutput.Proofs.TypeText.ClosedTypes

/-! # One namespace

Declarations are made by four calls, in any order and under any hints. Whatever was declared before,
a call that declares takes a name that no table holds, so no call can replace an entry, and the
tables never share a name. A class is completed by its name alone, which need not be declared. -/
namespace StructuredOutput.Baml.Declarations

def enumNames (d : Declarations) : List String := d.enums.map (·.1)

def aliasNames (d : Declarations) : List String := d.aliases.map (·.1)

inductive Call where
  | declareClass (hint : String)
  | declareEnum (hint : String) (values : List Json)
  | declareAlias (hint expr : String)
  | completeClass (name : String)

namespace Call

def apply (d : Declarations) : Call → Declarations
  | declareClass hint => (d.declareClass hint).2
  | declareEnum hint values => (d.declareEnum hint values).2
  | declareAlias hint expr => (d.declareAlias hint expr).2
  | completeClass name => d.completeClass name

def declared? (d : Declarations) : Call → Option String
  | declareClass hint => some (d.declareClass hint).1
  | declareEnum hint values => some (d.declareEnum hint values).1
  | declareAlias hint expr => some (d.declareAlias hint expr).1
  | completeClass _ => none

end Call

def afterCalls (d : Declarations) (calls : List Call) : Declarations := calls.foldl Call.apply d

variable {d d' : Declarations} {name : String}

/-! ## One call -/

/-- A declaring call adds one name, the free one for its hint; completing a class adds none. -/
theorem apply_names (d : Declarations) (call : Call) :
    (call.declared? d = none ∧ (call.apply d).names = d.names) ∨
      ∃ hint, call.declared? d = some (d.uniqueName hint).1 ∧
        (call.apply d).names.Perm ((d.uniqueName hint).1 :: d.names) := by
  cases call with
  | declareClass hint => exact .inr ⟨hint, rfl, (gains_class d hint).names⟩
  | declareEnum hint values => exact .inr ⟨hint, rfl, (gains_enum d hint values).names⟩
  | declareAlias hint expr => exact .inr ⟨hint, rfl, (gains_alias d hint expr).names⟩
  | completeClass name => exact .inl ⟨rfl, rfl⟩

theorem apply_grows (d : Declarations) (call : Call) : Grows d (call.apply d) := by
  cases call with
  | declareClass hint => exact (gains_class d hint).grows
  | declareEnum hint values => exact (gains_enum d hint values).grows
  | declareAlias hint expr => exact (gains_alias d hint expr).grows
  | completeClass name => exact grows_completeClass d name

/-- Declarations whose names are distinct type names, as the next one will be, each class under its
own. -/
structure Namespaced (d : Declarations) : Prop where
  names : d.names.Nodup
  typeNames : ∀ name ∈ d.names, Text.isTypeName name.toList = true
  own : ∀ entry ∈ d.classes, entry.2.name = entry.1
  counter : 0 ≤ d.counter

theorem namespaced_empty : Namespaced {} := by
  constructor <;> simp [Declarations.names]

theorem apply_own (h : ∀ entry ∈ d.classes, entry.2.name = entry.1) (call : Call) :
    ∀ entry ∈ (call.apply d).classes, entry.2.name = entry.1 := by
  cases call with
  | declareClass hint =>
    intro entry hm
    rcases List.mem_append.mp hm with hm | hm
    · exact h entry hm
    · rw [List.mem_singleton.mp hm]
  | declareEnum | declareAlias | completeClass => exact h

/-- The step: every call keeps the namespace. -/
theorem Namespaced.apply (h : Namespaced d) (call : Call) : Namespaced (call.apply d) := by
  have hcounter : 0 ≤ (call.apply d).counter :=
    Int.le_trans h.counter (apply_grows d call).counter
  rcases apply_names d call with ⟨-, hn⟩ | ⟨hint, -, hp⟩
  · exact ⟨hn ▸ h.names, hn ▸ h.typeNames, apply_own h.own call, hcounter⟩
  · refine ⟨hp.nodup_iff.mpr (List.nodup_cons.mpr ⟨uniqueName_fresh d hint, h.names⟩),
      fun other hm => ?_, apply_own h.own call, hcounter⟩
    rcases List.mem_cons.mp (hp.subset hm) with rfl | hm
    · exact isTypeName_uniqueName h.counter hint
    · exact h.typeNames other hm

/-! ## Runs of calls -/

theorem Namespaced.afterCalls (h : Namespaced d) (calls : List Call) :
    Namespaced (d.afterCalls calls) := by
  induction calls generalizing d with
  | nil => exact h
  | cons call rest ih => exact ih (h.apply call)

theorem afterCalls_grows (d : Declarations) (calls : List Call) :
    Grows d (d.afterCalls calls) := by
  induction calls generalizing d with
  | nil => exact .refl d
  | cons call rest ih => exact (apply_grows d call).trans (ih (call.apply d))

theorem afterCalls_append (d : Declarations) (calls later : List Call) :
    d.afterCalls (calls ++ later) = (d.afterCalls calls).afterCalls later :=
  List.foldl_append

/-! ## What follows for the tables -/

theorem Namespaced.disjoint (h : Namespaced d) :
    d.classNames.Disjoint d.enumNames ∧ d.classNames.Disjoint d.aliasNames ∧
      d.enumNames.Disjoint d.aliasNames := by
  have hn := h.names
  unfold Declarations.names at hn
  obtain ⟨hfront, -, hlast⟩ := List.nodup_append'.mp hn
  obtain ⟨-, -, hfirst⟩ := List.nodup_append'.mp hfront
  exact ⟨hfirst, fun _ hm => hlast (List.mem_append_left _ hm),
    fun _ hm => hlast (List.mem_append_right _ hm)⟩

/-- No type name is a word of the type language, and none starts with a digit. -/
theorem not_reserved (h : Text.isTypeName name.toList = true) :
    name ∉ builtins ∧ Text.startsWithDigit name.toList = false := by
  constructor
  · intro hb
    have hlow : ∀ word ∈ builtins, Text.isTypeName word.toList = false := by decide
    rw [hlow name hb] at h
    cases h
  · cases hl : name.toList with
    | nil => rfl
    | cons c rest =>
      rw [hl, Text.isTypeName, Bool.and_eq_true] at h
      have hc := h.1
      simp only [Text.startsWithDigit]
      unfold Char.isUpper at hc
      unfold Char.isDigit
      grind

/-- What is found under a name in one of the tables is found there later, unchanged. -/
structure Lasts (d d' : Declarations) : Prop where
  classes : ∀ name c, Json.find? name d.classes = some c → Json.find? name d'.classes = some c
  enums : ∀ name vs, Json.find? name d.enums = some vs → Json.find? name d'.enums = some vs
  aliases : ∀ name e, Json.find? name d.aliases = some e → Json.find? name d'.aliases = some e

theorem Grows.lasts (h : Grows d d') : Lasts d d' :=
  ⟨fun _ _ => Json.find?_of_prefix h.classes, fun _ _ => Json.find?_of_prefix h.enums,
    fun _ _ => Json.find?_of_prefix h.aliases⟩

/-- After any calls from nothing the three tables share no name and hold none twice, every name is a
type name and so neither a word of the type language nor one that starts with a digit, and each class
stands under its own. Whatever is called later leaves the entries as they are and does not lower the
counter, and the name that a further call declares is new. -/
theorem one_namespace (calls later : List Call) :
    let d := afterCalls {} calls
    let d' := afterCalls {} (calls ++ later)
    (d.classNames.Disjoint d.enumNames ∧ d.classNames.Disjoint d.aliasNames ∧
        d.enumNames.Disjoint d.aliasNames) ∧
      d.names.Nodup ∧
      (∀ name ∈ d.names, Text.isTypeName name.toList = true ∧ name ∉ builtins ∧
        Text.startsWithDigit name.toList = false) ∧
      (∀ entry ∈ d.classes, entry.2.name = entry.1) ∧
      Lasts d d' ∧ d.counter ≤ d'.counter ∧
      ∀ call name, Call.declared? d call = some name →
        name ∉ d.names ∧ name ∈ (call.apply d).names := by
  intro d d'
  have h : Namespaced d := namespaced_empty.afterCalls calls
  have hg : Grows d d' := by
    simp only [d, d', afterCalls_append]
    exact afterCalls_grows _ later
  refine ⟨h.disjoint, h.names, fun name hm => ⟨h.typeNames name hm, not_reserved (h.typeNames name hm)⟩,
    h.own, hg.lasts, hg.counter, fun call name hd => ?_⟩
  rcases apply_names d call with ⟨hn, -⟩ | ⟨hint, hn, hp⟩
  · rw [hd] at hn
    cases hn
  · rw [hd] at hn
    cases hn
    exact ⟨uniqueName_fresh d hint, hp.symm.subset List.mem_cons_self⟩

/-- A numbered name and a hint that looks like one. -/
example : (afterCalls {} [.declareClass "item", .declareEnum "Item" [.str "a"],
    .declareAlias "Item1" "\x22b c\x22", .completeClass "Item"]).names =
    ["Item", "Item1", "Item12"] := by
  decide

end StructuredOutput.Baml.Declarations
