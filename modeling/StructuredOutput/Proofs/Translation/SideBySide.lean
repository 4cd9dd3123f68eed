import StructuredOutput.Proofs.Agreement.ObjectClasses
import StructuredOutput.Proofs.Schema.Redescriptions

/-! # Two translations side by side

A description goes into the field of its property and nowhere else: the names of declarations, their order
and the expressions do not look at it. So two similar nodes are translated, when both are, to one
expression, and what they declare differs in the descriptions of fields only. The objects that both meet
correspond to each other: they have the same names, and members that are similar or that are allowed to be
apart. -/
namespace StructuredOutput.Baml

/-! ## Without descriptions -/

def Field.undescribed (f : Field) : Field := { f with description := .null }

theorem Field.eq_of_undescribed {f f' : Field} (h : f.undescribed = f'.undescribed)
    (hd : f.description = f'.description) : f = f' := by
  cases f
  cases f'
  simp only [undescribed, Field.mk.injEq] at h
  simp_all

def Class.undescribed (c : Class) : Class := { c with fields := c.fields.map Field.undescribed }

namespace Declarations

def undescribed (d : Declarations) : Declarations :=
  { d with classes := d.classes.map fun entry => (entry.1, entry.2.undescribed) }

variable {d d' : Declarations}

@[simp] theorem names_undescribed (d : Declarations) : d.undescribed.names = d.names := by
  simp [names, undescribed, Function.comp_def]

theorem seek_undescribed (d : Declarations) (base : String) (tries : Nat) (start : Int) :
    d.undescribed.seek base tries start = d.seek base tries start := by
  induction tries generalizing start with
  | zero => rfl
  | succ tries ih => rw [seek, seek, ih, isDeclared, isDeclared, names_undescribed]

@[simp] theorem uniqueName_undescribed (d : Declarations) (hint : String) :
    d.undescribed.uniqueName hint = d.uniqueName hint := by
  unfold uniqueName
  simp only [isDeclared, names_undescribed, seek_undescribed]
  rfl

/-- Declaring does not look at descriptions. -/
theorem declareClass_undescribed (d : Declarations) (hint : String) :
    d.undescribed.declareClass hint =
      ((d.declareClass hint).1, (d.declareClass hint).2.undescribed) := by
  unfold declareClass
  rw [uniqueName_undescribed]
  simp [undescribed, Class.undescribed]

theorem declareEnum_undescribed (d : Declarations) (hint : String) (values : List Json) :
    d.undescribed.declareEnum hint values =
      ((d.declareEnum hint values).1, (d.declareEnum hint values).2.undescribed) := by
  unfold declareEnum
  rw [uniqueName_undescribed]
  rfl

theorem declareAlias_undescribed (d : Declarations) (hint expr : String) :
    d.undescribed.declareAlias hint expr =
      ((d.declareAlias hint expr).1, (d.declareAlias hint expr).2.undescribed) := by
  unfold declareAlias
  rw [uniqueName_undescribed]
  rfl

theorem addField_undescribed (d : Declarations) (name : String) (field : Field) :
    (d.addField name field).undescribed = d.undescribed.addField name field.undescribed := by
  simp only [addField, undescribed, List.map_map]
  congr 1
  refine List.map_congr_left fun entry _ => ?_
  simp only [Function.comp_apply]
  split
  · simp [Class.undescribed]
  · rfl

theorem class?_undescribed (d : Declarations) (name : String) :
    d.undescribed.class? name = (d.class? name).map Class.undescribed := by
  unfold class? undescribed
  induction d.classes with
  | nil => rfl
  | cons entry rest ih =>
    rw [List.map_cons, Json.find?, Json.find?, ih]
    split <;> rfl

/-- Two declarations that differ in descriptions of fields only. -/
def SameUndescribed (d d' : Declarations) : Prop := d.undescribed = d'.undescribed

namespace SameUndescribed

variable {name name' : String} {e e' : Declarations}

theorem lazy? (h : SameUndescribed d d') (ref : Schema.Ref) : d.lazy? ref = d'.lazy? ref := by
  change d.undescribed.lazy? ref = d'.undescribed.lazy? ref
  rw [show d.undescribed = d'.undescribed from h]

theorem order (h : SameUndescribed d d') : d.order = d'.order := (congrArg Declarations.order h :)

theorem enums (h : SameUndescribed d d') : d.enums = d'.enums := (congrArg Declarations.enums h :)

theorem aliases (h : SameUndescribed d d') : d.aliases = d'.aliases :=
  (congrArg Declarations.aliases h :)

/-- Classes of one name differ in descriptions only. -/
theorem class? (h : SameUndescribed d d') {c c' : Class} (hc : d.class? name = some c)
    (hc' : d'.class? name = some c') : c.undescribed = c'.undescribed := by
  have hboth := congrArg (fun d => Declarations.class? d name) h
  simpa only [class?_undescribed, hc, hc', Option.map_some, Option.some.injEq] using hboth

theorem declareClass (h : SameUndescribed d d') {hint : String} (hd : d.declareClass hint = (name, e))
    (hd' : d'.declareClass hint = (name', e')) : name = name' ∧ SameUndescribed e e' := by
  have hboth := congrArg (fun d => Declarations.declareClass d hint) h
  simp only [declareClass_undescribed, hd, hd', Prod.mk.injEq] at hboth
  exact hboth

theorem declareEnum (h : SameUndescribed d d') (hint : String) (values : List Json) :
    (d.declareEnum hint values).1 = (d'.declareEnum hint values).1 ∧
      SameUndescribed (d.declareEnum hint values).2 (d'.declareEnum hint values).2 := by
  have hboth := congrArg (fun d => Declarations.declareEnum d hint values) h
  simp only [declareEnum_undescribed, Prod.mk.injEq] at hboth
  exact hboth

theorem declareAlias (h : SameUndescribed d d') (hint expr : String) :
    (d.declareAlias hint expr).1 = (d'.declareAlias hint expr).1 ∧
      SameUndescribed (d.declareAlias hint expr).2 (d'.declareAlias hint expr).2 := by
  have hboth := congrArg (fun d => Declarations.declareAlias d hint expr) h
  simp only [declareAlias_undescribed, Prod.mk.injEq] at hboth
  exact hboth

theorem addField (h : SameUndescribed d d') {field field' : Field}
    (hf : field.undescribed = field'.undescribed) :
    SameUndescribed (d.addField name field) (d'.addField name field') := by
  unfold SameUndescribed at h ⊢
  rw [addField_undescribed, addField_undescribed, h, hf]

theorem completeClass (h : SameUndescribed d d') (name : String) :
    SameUndescribed (d.completeClass name) (d'.completeClass name) :=
  congrArg (fun d => Declarations.completeClass d name) h

theorem recordLazy (h : SameUndescribed d d') (ref : Schema.Ref) (expr : String) :
    SameUndescribed (d.recordLazy ref expr) (d'.recordLazy ref expr) :=
  congrArg (fun d => Declarations.recordLazy d ref expr) h

theorem atDepth (h : SameUndescribed d d') (change : Int → Int) : SameUndescribed
    { d with depth := change d.depth } { d' with depth := change d'.depth } := by
  let moved (d : Declarations) : Declarations := { d with depth := change d.depth }
  exact congrArg moved h

end SameUndescribed

end Declarations

namespace Translation

open Declarations (SameUndescribed)
open Schema (Graph Node Parsed PeelAlike Ref Similar)
open Schema.Document (RelatedFields)

/-! ## What one node returns

`core_cases` has the cases of all nodes. For two runs over one node, those of this node are enough. -/

section Inversions

variable {g : Graph} {s : Settings.Translator} {inside : Node → NameHint → Translation String}
variable {d e : Declarations} {hint : NameHint} {expr : String} {description : Json}

theorem core_object {members : List (String × Node)}
    (hr : Returns (core g s inside (.object description members) hint) d expr e) :
    ∃ d₁ d₂, Returns (declareClass hint) d expr d₁ ∧
      Returns (fields s inside expr [] members) d₁ () d₂ ∧ e = d₂.completeClass expr := by
  cases core_cases hr with
  | object hc hf => exact ⟨_, _, hc, hf, rfl⟩
  | anyString hv | names hv | literals hv => cases hv

theorem core_record {key value : Node}
    (hr : Returns (core g s inside (.record description key value) hint) d expr e) :
    ∃ keyType valueType d₁,
      Returns (inside (if key.isAbsent then .primitive .null (.str "string") else key)
        (hint.extend "Key")) d keyType d₁ ∧
      Returns (inside value (hint.extend "Val")) d₁ valueType e ∧
      expr = "map<" ++ keyType ++ ", " ++ valueType ++ ">" := by
  cases core_cases hr with
  | record _ hkey hvalue => exact ⟨_, _, _, hkey, hvalue, rfl⟩
  | anyString hv | names hv | literals hv => cases hv

theorem core_union {nodes : List Node}
    (hr : Returns (core g s inside (.union description nodes) hint) d expr e) :
    ∃ parts, Returns (options inside hint 0 nodes) d parts e ∧ expr = Json.join " | " parts := by
  cases core_cases hr with
  | union _ ho => exact ⟨_, ho, rfl⟩
  | anyString hv | names hv | literals hv => cases hv

theorem core_array {element : Node} {low high : Json} (he : g.element [element] = .ok element)
    (hr : Returns (core g s inside (.array description [element] low high) hint) d expr e) :
    (element.isAbsent = true ∧ expr = group "string" ++ "[]" ∧ e = d) ∨
      element.isAbsent = false ∧ ∃ inner, Returns (inside element (hint.extend "Item")) d inner e ∧
        expr = group inner ++ "[]" := by
  cases core_cases hr with
  | strings hfound ha =>
    cases he.symm.trans hfound
    exact .inl ⟨ha, rfl, rfl⟩
  | array hfound ha hin =>
    cases he.symm.trans hfound
    exact .inr ⟨ha, _, hin, rfl⟩
  | anyString hv | names hv | literals hv => cases hv

/-- What a reference gives: the expression that is recorded for it, or the one of its object, or that of
what else stands behind it. -/
inductive LazyReturns (g : Graph) (s : Settings.Translator)
    (inside : Node → NameHint → Translation String) (ref : Ref) (hint : NameHint) (d : Declarations) :
    String → Declarations → Prop
  | reused {expr : String} : d.lazy? ref = some expr → LazyReturns g s inside ref hint d expr d
  | object {resolved : Node} {description : Json} {members : List (String × Node)} {name : String}
      {d₁ d₂ : Declarations} : d.lazy? ref = none → g.resolve ref = .ok resolved →
      resolved.base = .object description members → Returns (declareClass hint) d name d₁ →
      Returns (fields s inside name [] members) (d₁.recordLazy ref (objectExpr resolved name)) () d₂ →
      LazyReturns g s inside ref hint d (objectExpr resolved name) (d₂.completeClass name)
  | other {resolved : Node} {expr : String} {d₁ : Declarations} : d.lazy? ref = none →
      g.resolve ref = .ok resolved →
      (∀ description members, resolved.base ≠ .object description members) →
      Returns (inside resolved hint) { d with depth := d.depth + 1 } expr d₁ →
      LazyReturns g s inside ref hint d expr
        (Declarations.recordLazy { d₁ with depth := d₁.depth - 1 } ref expr)

theorem core_lazy {name : Json} {ref : Ref}
    (hr : Returns (core g s inside (.lazy description name ref) hint) d expr e) :
    LazyReturns g s inside ref ((NameHint.ofJson name).orElse hint) d expr e := by
  cases core_cases hr with
  | reused hl => exact .reused hl
  | lazyObject hnone hres hpeel hobj hc hexpr hf =>
    obtain ⟨hbase, -, hnull⟩ := Schema.peel_ok hpeel
    rw [hnull] at hexpr
    subst hexpr
    exact .object hnone hres (hbase.symm.trans hobj) hc hf
  | lazyOther hnone hres hpeel hother _ hin =>
    obtain ⟨hbase, -, -⟩ := Schema.peel_ok hpeel
    exact .other hnone hres (hbase ▸ hother) hin
  | anyString hv | names hv | literals hv => cases hv

end Inversions

/-! ## Runs side by side -/

variable {apart : List (String × Node) → List (String × Node) → Prop}

/-- Objects that two runs meet at the same point: they have one name, and their members are similar or
allowed to be apart. -/
structure MetAlike (apart : List (String × Node) → List (String × Node) → Prop) (o o' : ObjectClass) :
    Prop where
  name : o.name = o'.name
  members : RelatedFields (Similar apart) o.members o'.members ∨ apart o.members o'.members

structure Beside (apart : List (String × Node) → List (String × Node) → Prop) (d d' : Declarations)
    (met met' : List ObjectClass) : Prop where
  declared : SameUndescribed d d'
  met : List.Forall₂ (MetAlike apart) met met'

def SideBySide (apart : List (String × Node) → List (String × Node) → Prop)
    (inside inside' : Node → NameHint → Translation String)
    (meets meets' : Node → NameHint → Declarations → List ObjectClass) : Prop :=
  ∀ node node' hint d d' expr expr' e e', PeelAlike (Similar apart) node node' → Parsed node →
    Parsed node' → SameUndescribed d d' → Returns (inside node hint) d expr e →
    Returns (inside' node' hint) d' expr' e' →
    expr = expr' ∧ Beside apart e e' (meets node hint d) (meets' node' hint d')

variable {g g' : Graph} {s : Settings.Translator}
variable {inside inside' : Node → NameHint → Translation String}
variable {meets meets' : Node → NameHint → Declarations → List ObjectClass}
variable {d d' e e' : Declarations} {hint : NameHint} {name expr expr' : String}

theorem Beside.none (h : SameUndescribed d d') : Beside apart d d' [] [] := ⟨h, .nil⟩

theorem Beside.append {met met' more more' : List ObjectClass} (h : Beside apart d d' met met')
    (h' : Beside apart e e' more more') : Beside apart e e' (met ++ more) (met' ++ more') :=
  ⟨h'.declared, List.rel_append h.met h'.met⟩

theorem fields_beside (hi : SideBySide apart inside inside' meets meets')
    {members members' : List (String × Node)}
    (hm : RelatedFields (PeelAlike (Similar apart)) members members')
    (hp : ∀ member ∈ members, Parsed member.2) (hp' : ∀ member ∈ members', Parsed member.2) :
    ∀ {used : List String} {d d' : Declarations}, SameUndescribed d d' →
      Returns (fields s inside name used members) d () e →
      Returns (fields s inside' name used members') d' () e' →
      Beside apart e e' (fieldsMeet s inside meets name used members d)
        (fieldsMeet s inside' meets' name used members' d') := by
  induction hm with
  | nil =>
    intro used d d' hd hr hr'
    cases returns_fields_nil.mp hr
    cases returns_fields_nil.mp hr'
    exact .none hd
  | @cons key node node' rest rest' hnode _ ih =>
    intro used d d' hd hr hr'
    obtain ⟨hparsed, hrest⟩ := List.forall_mem_cons.mp hp
    obtain ⟨hparsed', hrest'⟩ := List.forall_mem_cons.mp hp'
    obtain ⟨peeled, type, d₁, hpeel, hin, hmore⟩ := returns_fields_cons.mp hr
    obtain ⟨peeled', type', d₁', hpeel', hin', hmore'⟩ := returns_fields_cons.mp hr'
    have hone : Returns (fields s inside name used [(key, node)]) d ()
        (d₁.addField name (newField used key type peeled)) :=
      returns_fields_cons.mpr ⟨peeled, type, d₁, hpeel, hin, returns_fields_nil.mpr rfl⟩
    have hone' : Returns (fields s inside' name used [(key, node')]) d' ()
        (d₁'.addField name (newField used key type' peeled')) :=
      returns_fields_cons.mpr ⟨peeled', type', d₁', hpeel', hin', returns_fields_nil.mpr rfl⟩
    obtain ⟨rfl, hbeside⟩ := hi _ _ _ _ _ _ _ _ _ hnode hparsed hparsed' hd hin hin'
    have hoptional : peeled.optional = peeled'.optional :=
      (Schema.peel_ok hpeel).2.1.trans (hnode.absent.trans (Schema.peel_ok hpeel').2.1.symm)
    have hfield : (newField used key type peeled).undescribed =
        (newField used key type peeled').undescribed := by
      simp [Field.undescribed, newField, hoptional]
    rw [fieldsMeet, fieldsMeet, hone.after_eq, hone'.after_eq]
    exact hbeside.append (ih hrest hrest' (hbeside.declared.addField hfield) hmore hmore')

theorem options_beside (hi : SideBySide apart inside inside' meets meets')
    {options options' : List Node} (ho : List.Forall₂ (Similar apart) options options')
    (hp : ∀ option ∈ options, Parsed option) (hp' : ∀ option ∈ options', Parsed option) :
    ∀ {index : Nat} {parts parts' : List String} {d d' : Declarations}, SameUndescribed d d' →
      Returns (Translation.options inside hint index options) d parts e →
      Returns (Translation.options inside' hint index options') d' parts' e' →
      parts = parts' ∧ Beside apart e e' (optionsMeet inside meets hint index options d)
        (optionsMeet inside' meets' hint index options' d') := by
  induction ho with
  | nil =>
    intro index parts parts' d d' hd hr hr'
    obtain ⟨rfl, rfl⟩ := returns_options_nil.mp hr
    obtain ⟨rfl, rfl⟩ := returns_options_nil.mp hr'
    exact ⟨rfl, .none hd⟩
  | cons hnode _ ih =>
    intro index parts parts' d d' hd hr hr'
    obtain ⟨hparsed, hrest⟩ := List.forall_mem_cons.mp hp
    obtain ⟨hparsed', hrest'⟩ := List.forall_mem_cons.mp hp'
    obtain ⟨first, others, d₁, hin, hmore, rfl⟩ := returns_options_cons.mp hr
    obtain ⟨first', others', d₁', hin', hmore', rfl⟩ := returns_options_cons.mp hr'
    obtain ⟨rfl, hbeside⟩ := hi _ _ _ _ _ _ _ _ _ hnode.peelAlike hparsed hparsed' hd hin hin'
    obtain ⟨rfl, hothers⟩ := ih hrest hrest' hbeside.declared hmore hmore'
    rw [optionsMeet, optionsMeet, hin.after_eq, hin'.after_eq]
    exact ⟨rfl, hbeside.append hothers⟩

theorem enumType_beside {values : Json} (hd : SameUndescribed d d')
    (hr : Returns (enumType values hint) d expr e) (hr' : Returns (enumType values hint) d' expr' e') :
    expr = expr' ∧ SameUndescribed e e' := by
  unfold enumType at hr hr'
  cases ht : values.truthy with
  | false =>
    simp only [ht, Bool.not_false, if_true, returns_pure] at hr hr'
    obtain ⟨rfl, rfl⟩ := hr
    obtain ⟨rfl, rfl⟩ := hr'
    exact ⟨rfl, hd⟩
  | true =>
    simp only [ht, Bool.not_true, Bool.false_eq_true, if_false, returns_bind, returns_lift] at hr hr'
    obtain ⟨items, _, ⟨hitems, rfl⟩, plain, _, ⟨hplain, rfl⟩, text, _, ⟨htext, rfl⟩, hr⟩ := hr
    obtain ⟨items', _, ⟨hitems', rfl⟩, plain', _, ⟨hplain', rfl⟩, text', _, ⟨htext', rfl⟩, hr'⟩ := hr'
    cases hitems.symm.trans hitems'
    cases hplain.symm.trans hplain'
    cases htext.symm.trans htext'
    cases plain with
    | true =>
      simp only [if_true, returns_modifyGet] at hr hr'
      have hboth := hd.declareEnum text items
      rw [hr, hr'] at hboth
      exact hboth
    | false =>
      simp only [Bool.false_eq_true, if_false, returns_modifyGet] at hr hr'
      have hboth := hd.declareAlias text (Json.join " | " (items.map Json.quote))
      rw [hr, hr'] at hboth
      exact hboth

/-- What has to be known of two tables for runs to go side by side. -/
structure TablesAlike (apart : List (String × Node) → List (String × Node) → Prop) (g g' : Graph) :
    Prop where
  parsed : g.AllParsed
  parsed' : g'.AllParsed
  resolve : ∀ ref node node', g.resolve ref = .ok node → g'.resolve ref = .ok node' →
    Similar apart node node'
  peel : ∀ members members', apart members members' →
    RelatedFields (PeelAlike (Similar apart)) members members'

/-- The members of an object behind a reference are parsed. -/
theorem parsed_members (h : g.AllParsed) {ref : Ref} {resolved : Node} {description : Json}
    {members : List (String × Node)} (hres : g.resolve ref = .ok resolved)
    (hobj : resolved.base = .object description members) :
    ∀ member ∈ members, Parsed member.2 := by
  have hbase := (h.resolve_ok hres).base
  rw [hobj] at hbase
  cases hbase with
  | object hm => exact hm

theorem TablesAlike.members (ht : TablesAlike apart g g') {members members' : List (String × Node)}
    (h : RelatedFields (Similar apart) members members' ∨ apart members members') :
    RelatedFields (PeelAlike (Similar apart)) members members' :=
  h.elim (fun h => h.imp fun _ _ hn => hn.peelAlike) (ht.peel members members')

theorem declareClass_beside {name' : String} (hd : SameUndescribed d d')
    (hc : Returns (declareClass hint) d name e) (hc' : Returns (declareClass hint) d' name' e') :
    name = name' ∧ SameUndescribed e e' := by
  obtain ⟨text, ht, hc⟩ := returns_declareClass.mp hc
  obtain ⟨text', ht', hc'⟩ := returns_declareClass.mp hc'
  cases ht.symm.trans ht'
  exact hd.declareClass hc hc'

/-- The classes of two objects, once they are declared. -/
theorem object_beside (hi : SideBySide apart inside inside' meets meets')
    (ht : TablesAlike apart g g') {members members' : List (String × Node)}
    (hm : RelatedFields (Similar apart) members members' ∨ apart members members')
    (hp : ∀ member ∈ members, Parsed member.2) (hp' : ∀ member ∈ members', Parsed member.2)
    {ready ready' : String → Declarations → Declarations} {d₁ d₁' e e' : Declarations}
    (hc : Returns (declareClass hint) d name d₁) (hc' : Returns (declareClass hint) d' name d₁')
    (hd : SameUndescribed (ready name d₁) (ready' name d₁'))
    (hf : Returns (fields s inside name [] members) (ready name d₁) () e)
    (hf' : Returns (fields s inside' name [] members') (ready' name d₁') () e') :
    Beside apart (e.completeClass name) (e'.completeClass name)
      (objectMeets s inside meets members hint ready d)
      (objectMeets s inside' meets' members' hint ready' d') := by
  obtain ⟨hdone, hmet⟩ := fields_beside hi (ht.members hm) hp hp' hd hf hf'
  unfold objectMeets
  rw [hc.outcome_eq, hc'.outcome_eq]
  exact ⟨hdone.completeClass name, .cons ⟨rfl, hm⟩ hmet⟩

/-- A reference is in both runs reused, an object, or neither. -/
theorem lazy_beside (hi : SideBySide apart inside inside' meets meets')
    (ht : TablesAlike apart g g') {description lazyName : Json} {ref : Ref}
    (hd : SameUndescribed d d')
    (hr : Returns (core g s inside (.lazy description lazyName ref) hint) d expr e)
    (hr' : Returns (core g' s inside' (.lazy description lazyName ref) hint) d' expr' e') :
    expr = expr' ∧ Beside apart e e'
      (coreMeets g s inside meets (.lazy description lazyName ref) hint d)
      (coreMeets g' s inside' meets' (.lazy description lazyName ref) hint d') := by
  have hlazy := hd.lazy? ref
  rw [coreMeets, coreMeets]
  cases core_lazy hr with
  | reused hl =>
    cases core_lazy hr' with
    | reused hl' =>
      rw [lazyMeets, lazyMeets, hl, hl']
      exact ⟨Option.some.inj (hl.symm.trans (hlazy.trans hl')), .none hd⟩
    | object hnone | other hnone =>
      rw [← hlazy, hl] at hnone
      cases hnone
  | @object resolved _ members _ _ _ hnone hres hobj hc hf =>
    cases core_lazy hr' with
    | reused hl =>
      rw [← hlazy, hnone] at hl
      cases hl
    | @object resolved' _ members' _ _ _ hnone' hres' hobj' hc' hf' =>
      have hpeeled := (ht.resolve ref _ _ hres hres').peelAlike
      have hbase := hpeeled.base
      rw [hobj, hobj'] at hbase
      obtain ⟨_, hsame, hmembers⟩ := hbase.of_object
      cases hsame
      obtain ⟨rfl, hdeclared⟩ := declareClass_beside hd hc hc'
      have hexpr : objectExpr resolved = objectExpr resolved' := by
        unfold objectExpr
        rw [hpeeled.null]
      rw [← hexpr] at hf' ⊢
      rw [lazyMeets_object hnone hres hobj, lazyMeets_object hnone' hres' hobj', ← hexpr]
      exact ⟨rfl, object_beside hi ht hmembers (parsed_members ht.parsed hres hobj)
        (parsed_members ht.parsed' hres' hobj') hc hc' (hdeclared.recordLazy ref _) hf hf'⟩
    | other _ hres' hother' =>
      have hbase := (ht.resolve ref _ _ hres hres').peelAlike.base
      rw [hobj] at hbase
      obtain ⟨members', hobj', -⟩ := hbase.of_object
      exact absurd hobj' (hother' _ _)
  | other hnone hres hother hin =>
    cases core_lazy hr' with
    | reused hl =>
      rw [← hlazy, hnone] at hl
      cases hl
    | object _ hres' hobj' =>
      have hbase := (ht.resolve ref _ _ hres hres').peelAlike.base
      rw [hobj'] at hbase
      obtain ⟨members, hobj⟩ := hbase.object_of
      exact absurd hobj (hother _ _)
    | other hnone' hres' hother' hin' =>
      rw [lazyMeets_other hnone hres hother, lazyMeets_other hnone' hres' hother']
      obtain ⟨rfl, hbeside⟩ := hi _ _ _ _ _ _ _ _ _ (ht.resolve ref _ _ hres hres').peelAlike
        (ht.parsed.resolve_ok hres) (ht.parsed'.resolve_ok hres') (hd.atDepth (· + 1)) hin hin'
      exact ⟨rfl, (hbeside.declared.atDepth (· - 1)).recordLazy ref _, hbeside.met⟩

/-- Two arrays whose elements are similar. -/
theorem array_beside (hi : SideBySide apart inside inside' meets meets') {description low high : Json}
    {element element' : Node} (hn : Similar apart element element')
    (hp : element.isAbsent = false → Parsed element ∧ Parsed element')
    (he : g.element [element] = .ok element) (he' : g'.element [element'] = .ok element')
    (hd : SameUndescribed d d')
    (hr : Returns (core g s inside (.array description [element] low high) hint) d expr e)
    (hr' : Returns (core g' s inside' (.array description [element'] low high) hint) d' expr' e') :
    expr = expr' ∧ Beside apart e e'
      (coreMeets g s inside meets (.array description [element] low high) hint d)
      (coreMeets g' s inside' meets' (.array description [element'] low high) hint d') := by
  rw [coreMeets, coreMeets, he, he']
  dsimp only
  rw [← hn.isAbsent]
  rcases core_array he hr with ⟨ha, rfl, rfl⟩ | ⟨ha, inner, hin, rfl⟩ <;>
    rcases core_array he' hr' with ⟨ha', rfl, rfl⟩ | ⟨ha', inner', hin', rfl⟩
  · refine ⟨rfl, ?_⟩
    simp only [ha, if_true]
    exact .none hd
  · exact absurd (ha.symm.trans (hn.isAbsent.trans ha')) (by decide)
  · exact absurd (ha.symm.trans (hn.isAbsent.trans ha')) (by decide)
  · obtain ⟨hparsed, hparsed'⟩ := hp ha
    obtain ⟨rfl, hbeside⟩ := hi _ _ _ _ _ _ _ _ _ hn.peelAlike hparsed hparsed' hd hin hin'
    refine ⟨rfl, ?_⟩
    simp only [ha, Bool.false_eq_true, if_false]
    exact hbeside

def keyOf (key : Node) : Node := if key.isAbsent then .primitive .null (.str "string") else key

theorem keyOf_parsed {key : Node} (h : Parsed key) : Parsed (keyOf key) := by
  unfold keyOf
  rw [h.not_absent]
  exact h

theorem keyOf_similar {key key' : Node} (h : Similar apart key key') :
    Similar apart (keyOf key) (keyOf key') := by
  unfold keyOf
  rw [h.isAbsent]
  split
  · exact .same _
  · exact h

/-- Two records whose keys and values are similar. -/
theorem record_beside (hi : SideBySide apart inside inside' meets meets') {description : Json}
    {key key' value value' : Node} (hkey : Similar apart key key')
    (hvalue : Similar apart value value') (hk : Parsed (keyOf key)) (hk' : Parsed (keyOf key'))
    (hv : Parsed value) (hv' : Parsed value') (hd : SameUndescribed d d')
    (hr : Returns (core g s inside (.record description key value) hint) d expr e)
    (hr' : Returns (core g' s inside' (.record description key' value') hint) d' expr' e') :
    expr = expr' ∧ Beside apart e e'
      (coreMeets g s inside meets (.record description key value) hint d)
      (coreMeets g' s inside' meets' (.record description key' value') hint d') := by
  obtain ⟨keyType, valueType, d₁, hinKey, hinValue, rfl⟩ := core_record hr
  obtain ⟨keyType', valueType', d₁', hinKey', hinValue', rfl⟩ := core_record hr'
  obtain ⟨rfl, hkeys⟩ := hi _ _ _ _ _ _ _ _ _ (keyOf_similar hkey).peelAlike hk hk' hd hinKey hinKey'
  obtain ⟨rfl, hvalues⟩ :=
    hi _ _ _ _ _ _ _ _ _ hvalue.peelAlike hv hv' hkeys.declared hinValue hinValue'
  refine ⟨rfl, ?_⟩
  rw [coreMeets, coreMeets]
  simp only [hinKey.after_eq, hinKey'.after_eq]
  exact hkeys.append hvalues

theorem core_beside (hi : SideBySide apart inside inside' meets meets')
    (ht : TablesAlike apart g g') {node node' : Node} (hn : Similar apart node node')
    (hp : Parsed node) (hp' : Parsed node') (hd : SameUndescribed d d')
    (hr : Returns (core g s inside node hint) d expr e)
    (hr' : Returns (core g' s inside' node' hint) d' expr' e') :
    expr = expr' ∧ Beside apart e e' (coreMeets g s inside meets node hint d)
      (coreMeets g' s inside' meets' node' hint d') := by
  have hstring : Parsed (keyOf .absent) := .primitive
  cases hp with
  | lazy =>
    cases hn
    exact lazy_beside hi ht hd hr hr'
  | primitive =>
    cases hn
    obtain ⟨htype, rfl⟩ := returns_lift.mp hr
    obtain ⟨htype', rfl⟩ := returns_lift.mp hr'
    exact ⟨Except.ok.inj (htype.symm.trans htype'), .none hd⟩
  | literal =>
    cases hn
    obtain ⟨rfl, rfl⟩ := returns_pure.mp hr
    obtain ⟨rfl, rfl⟩ := returns_pure.mp hr'
    exact ⟨rfl, .none hd⟩
  | enumeration =>
    cases hn
    obtain ⟨hexpr, hdone⟩ := enumType_beside hd hr hr'
    exact ⟨hexpr, .none hdone⟩
  | array hp =>
    obtain ⟨element', rfl, helement⟩ := hn.of_array
    cases hp' with
    | array hp' =>
      exact array_beside hi helement (fun _ => ⟨hp, hp'⟩) hp.element hp'.element hd hr hr'
    | anyArray => exact absurd (helement.isAbsent.symm.trans hp.not_absent) (by decide)
  | anyArray =>
    obtain ⟨element', rfl, helement⟩ := hn.of_array
    cases helement
    exact array_beside hi (.same .absent) nofun rfl rfl hd hr hr'
  | object hm =>
    obtain ⟨members', rfl, hmembers⟩ := hn.of_object
    cases hp' with
    | object hm' =>
      obtain ⟨d₁, d₂, hc, hf, rfl⟩ := core_object hr
      obtain ⟨d₁', d₂', hc', hf', rfl⟩ := core_object hr'
      obtain ⟨rfl, hdeclared⟩ := declareClass_beside hd hc hc'
      exact ⟨rfl, object_beside hi ht hmembers hm hm' hc hc' hdeclared hf hf'⟩
  | record hk hv =>
    obtain ⟨key', value', rfl, hkey, hvalue⟩ := hn.of_record
    cases hp' with
    | record hk' hv' =>
      exact record_beside hi hkey hvalue (keyOf_parsed hk) (keyOf_parsed hk') hv hv' hd hr hr'
    | anyRecord => exact absurd (hkey.isAbsent.symm.trans hk.not_absent) (by decide)
  | anyRecord hv =>
    obtain ⟨key', value', rfl, hkey, hvalue⟩ := hn.of_record
    cases hkey
    cases hp' with
    | record hk' => exact absurd hk'.not_absent (by decide)
    | anyRecord hv' => exact record_beside hi (.same _) hvalue hstring hstring hv hv' hd hr hr'
  | union ho =>
    obtain ⟨options', rfl, hoptions⟩ := hn.of_union
    cases hp' with
    | union ho' =>
      obtain ⟨parts, hin, rfl⟩ := core_union hr
      obtain ⟨parts', hin', rfl⟩ := core_union hr'
      obtain ⟨rfl, hbeside⟩ := options_beside hi hoptions ho ho' hd hin hin'
      exact ⟨rfl, hbeside⟩
  | wrapper => exact (returns_throw hr).elim

theorem step_beside (hi : SideBySide apart inside inside' meets meets')
    (ht : TablesAlike apart g g') : SideBySide apart (step g s inside) (step g' s inside')
      (fun node hint d => coreMeets g s inside meets node.base hint d)
      fun node hint d => coreMeets g' s inside' meets' node.base hint d := by
  intro node node' hint d d' expr expr' e e' hn hp hp' hd hr hr'
  obtain ⟨peeled, type, hpeel, hcore, rfl⟩ := returns_step.mp hr
  obtain ⟨peeled', type', hpeel', hcore', rfl⟩ := returns_step.mp hr'
  obtain ⟨hbase, -, hnull⟩ := Schema.peel_ok hpeel
  obtain ⟨hbase', -, hnull'⟩ := Schema.peel_ok hpeel'
  rw [hbase] at hcore
  rw [hbase'] at hcore'
  obtain ⟨rfl, hbeside⟩ := core_beside hi ht hn.base hp.base hp'.base hd hcore hcore'
  rw [hnull, hnull', hn.null]
  exact ⟨rfl, hbeside⟩

/-- Down to any two nestings: how deep the nodes are does not matter as long as both runs return. -/
theorem within_beside (ht : TablesAlike apart g g') (s : Settings.Translator) (nesting nesting' : Nat) :
    SideBySide apart (within g s nesting) (within g' s nesting') (withinMeets g s nesting)
      (withinMeets g' s nesting') := by
  induction nesting generalizing nesting' with
  | zero =>
    intro node node' hint d d' expr expr' e e' _ _ _ _ hr
    exact (returns_throw hr).elim
  | succ nesting ih =>
    cases nesting' with
    | zero =>
      intro node node' hint d d' expr expr' e e' _ _ _ _ _ hr'
      exact (returns_throw hr').elim
    | succ nesting' => exact step_beside (ih nesting') ht

/-- From nothing declared: both roots have one expression, the declarations differ in descriptions of
fields only, and the objects that are met correspond to each other. -/
theorem translate_beside (ht : TablesAlike apart g g') {root root' : Node}
    (hn : Similar apart root root') (hp : Parsed root) (hp' : Parsed root')
    (hr : Returns (translate g s root hint) {} expr d)
    (hr' : Returns (translate g' s root' hint) {} expr' d') :
    expr = expr' ∧ Beside apart d d' (objectClasses g s root hint {}) (objectClasses g' s root' hint {}) :=
  within_beside ht s _ _ _ _ _ _ _ _ _ _ _ hn.peelAlike hp hp' rfl (returns_translate.mp hr)
    (returns_translate.mp hr')

end Translation

end StructuredOutput.Baml
