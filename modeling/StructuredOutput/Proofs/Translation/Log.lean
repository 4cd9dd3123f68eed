import StructuredOutput.Proofs.Schema.References
import StructuredOutput.Proofs.Translation.Cases
import StructuredOutput.Proofs.Translation.Growth

/-! # What a translation does, event by event

`log` writes down, for a translation that returns, which node gave rise to which declaration, when
the definition behind a reference was begun and ended, and which expression each reference
contributed. Every state it passes through is one that the translator itself leaves. `Logs` gives
the same events as a derivation, on which the proofs go by induction; `logs_of_returns` derives the
log of every run over a document. -/
namespace StructuredOutput.Baml.Translation

open Schema (Graph Node Ref Parsed)

/-- Where a node stands: in the root or in the definition behind a reference, and under which
parts. -/
structure Place where
  entry : Option Ref
  path : List Nat
deriving DecidableEq

namespace Place

def root : Place := ⟨none, []⟩

def ofRef (ref : Ref) : Place := ⟨some ref, []⟩

def child (place : Place) (index : Nat) : Place := ⟨place.entry, place.path ++ [index]⟩

end Place

/-- One event of a translation. A reference contributes its expression when its definition has been
translated, or when it is met again. -/
inductive Event where
  | declares (place : Place) (name : String)
  | enters (ref : Ref)
  | leaves (ref : Ref) (expr : String)
  | reuses (ref : Ref) (expr : String)
deriving DecidableEq

def outcome? {α : Type} (m : Translation α) (d : Declarations) : Option (α × Declarations) :=
  match m.run.run d with
  | (.ok a, d') => some (a, d')
  | (.error _, _) => none

theorem Returns.outcome_eq {α : Type} {m : Translation α} {d d' : Declarations} {a : α}
    (h : Returns m d a d') : outcome? m d = some (a, d') := by
  unfold outcome?
  rw [h]

/-! ## The log -/

section Log

variable (g : Graph) (s : Settings.Translator) (inside : Node → NameHint → Translation String)
variable (watch : Place → Node → NameHint → Declarations → List Event)

def fieldsLog (place : Place) (name : String) :
    List String → List (String × Node) → Declarations → List Event
  | _, [], _ => []
  | used, (key, node) :: rest, d =>
    watch (place.child used.length) node (.text (name ++ "_" ++ key)) d ++
      fieldsLog place name (freeField used (Text.fieldName key) :: used) rest
        (after (fields s inside name used [(key, node)]) d)

def optionsLog (place : Place) (hint : NameHint) : Nat → List Node → Declarations → List Event
  | _, [], _ => []
  | index, option :: rest, d =>
    watch (place.child index) option (hint.extend ("U" ++ toString index)) d ++
      optionsLog place hint (index + 1) rest
        (after (inside option (hint.extend ("U" ++ toString index))) d)

/-- The events of an enumeration, which declares unless it has no values. -/
def enumLog (place : Place) (values : Json) (hint : NameHint) (d : Declarations) : List Event :=
  if values.truthy then
    match outcome? (enumType values hint) d with
    | some (name, _) => [.declares place name]
    | none => []
  else []

def targetLog (ref : Ref) (resolved : Node) (hint : NameHint) (expr : String) (d : Declarations) :
    List Event :=
  match resolved.base with
  | .object _ members =>
    match outcome? (declareClass hint) d with
    | some (name, d₁) =>
      .declares (.ofRef ref) name ::
        fieldsLog s inside watch (.ofRef ref) name [] members (d₁.recordLazy ref expr)
    | none => []
  | _ => watch (.ofRef ref) resolved hint { d with depth := d.depth + 1 }

def lazyLog (ref : Ref) (hint : NameHint) (d : Declarations) : List Event :=
  match d.lazy? ref, g.resolve ref, outcome? (lazyType g s inside ref hint) d with
  | some expr, _, _ => [.reuses ref expr]
  | none, .ok resolved, some (expr, _) =>
    .enters ref :: targetLog s inside watch ref resolved hint expr d ++ [.leaves ref expr]
  | _, _, _ => []

def coreLog (place : Place) (node : Node) (hint : NameHint) (d : Declarations) : List Event :=
  match node with
  | .object _ members =>
    match outcome? (declareClass hint) d with
    | some (name, d₁) =>
      .declares place name :: fieldsLog s inside watch place name [] members d₁
    | none => []
  | .array _ candidates _ _ =>
    match g.element candidates with
    | .ok element =>
      if element.isAbsent then [] else watch (place.child 0) element (hint.extend "Item") d
    | .error _ => []
  | .enumeration _ values => enumLog place values hint d
  | .memberEnum _ source => enumLog place (.arr (source.values.map .str)) hint d
  | .record _ key value =>
    let key := if key.isAbsent then .primitive .null (.str "string") else key
    watch (place.child 0) key (hint.extend "Key") d ++
      watch (place.child 1) value (hint.extend "Val") (after (inside key (hint.extend "Key")) d)
  | .union _ nodes => optionsLog inside watch place hint 0 nodes d
  | .lazy _ name ref => lazyLog g s inside watch ref ((NameHint.ofJson name).orElse hint) d
  | .bare _ inner => watch place inner hint d
  | _ => []

def stepLog (place : Place) (node : Node) (hint : NameHint) (d : Declarations) : List Event :=
  match Schema.peel s.unwrapLimit node with
  | .ok peeled => coreLog g s inside watch place peeled.node hint d
  | .error _ => []

def withinLog : Nat → Place → Node → NameHint → Declarations → List Event
  | 0, _, _, _, _ => []
  | nesting + 1, place, node, hint, d =>
    stepLog g s (within g s nesting) (withinLog nesting) place node hint d

def log (node : Node) (hint : NameHint) (d : Declarations) : List Event :=
  withinLog g s (g.reach (maxSteps g s d.depth) node) .root node hint d

end Log

/-! ## The log as a derivation -/

/-- A part of a translation: a node with its wrappers or without them, the fields that are left of
a class, or the alternatives that are left of a union. -/
inductive Work where
  | node (place : Place) (node : Node) (hint : NameHint)
  | core (place : Place) (node : Node) (hint : NameHint)
  | fields (place : Place) (name : String) (used : List String) (members : List (String × Node))
  | options (place : Place) (hint : NameHint) (index : Nat) (nodes : List Node)

def plainType? : Node → Option String
  | .primitive _ name => (primitiveType name).toOption
  | .literal _ value => some (literalType value)
  | .enumeration _ values => if values.truthy then none else some "string"
  | .array _ [.foreign .null] _ _ => some (group "string" ++ "[]")
  | _ => none

def isObject : Node → Bool
  | .object .. => true
  | _ => false

/-- The work done from `d` to `d'` gives the texts and the events. -/
inductive Logs (g : Graph) (s : Settings.Translator) :
    Work → Declarations → List String → Declarations → List Event → Prop
  | plain {place : Place} {node : Node} {hint : NameHint} {d : Declarations} {type : String} :
      plainType? node = some type → Logs g s (.core place node hint) d [type] d []
  | enum {place : Place} {description values : Json} {hint : NameHint} {d d' : Declarations}
      {name : String} :
      values.truthy = true → Returns (enumType values hint) d name d' →
      Logs g s (.core place (.enumeration description values) hint) d [name] d'
        [.declares place name]
  | object {place : Place} {description : Json} {members : List (String × Node)} {hint : NameHint}
      {d d₁ d₂ : Declarations} {name : String} {events : List Event} :
      Returns (declareClass hint) d name d₁ →
      Logs g s (.fields place name [] members) d₁ [] d₂ events →
      Logs g s (.core place (.object description members) hint) d [name] (d₂.completeClass name)
        (.declares place name :: events)
  | array {place : Place} {description low high : Json} {element : Node} {hint : NameHint}
      {d d' : Declarations} {inner : String} {events : List Event} :
      element.isAbsent = false →
      Logs g s (.node (place.child 0) element (hint.extend "Item")) d [inner] d' events →
      Logs g s (.core place (.array description [element] low high) hint) d [group inner ++ "[]"] d'
        events
  | record {place : Place} {description : Json} {key chosen value : Node} {hint : NameHint}
      {d d₁ d' : Declarations} {keyType valueType : String} {events events' : List Event} :
      chosen = (if key.isAbsent then .primitive .null (.str "string") else key) →
      Logs g s (.node (place.child 0) chosen (hint.extend "Key")) d [keyType] d₁ events →
      Logs g s (.node (place.child 1) value (hint.extend "Val")) d₁ [valueType] d' events' →
      Logs g s (.core place (.record description key value) hint) d
        ["map<" ++ keyType ++ ", " ++ valueType ++ ">"] d' (events ++ events')
  | union {place : Place} {description : Json} {nodes : List Node} {hint : NameHint}
      {d d' : Declarations} {parts : List String} {events : List Event} :
      Logs g s (.options place hint 0 nodes) d parts d' events →
      Logs g s (.core place (.union description nodes) hint) d [Json.join " | " parts] d' events
  | reused {place : Place} {description name : Json} {ref : Ref} {hint : NameHint}
      {d : Declarations} {expr : String} :
      d.lazy? ref = some expr →
      Logs g s (.core place (.lazy description name ref) hint) d [expr] d [.reuses ref expr]
  | lazyObject {place : Place} {description description' name : Json} {ref : Ref} {resolved : Node}
      {members : List (String × Node)} {hint hint' : NameHint} {d d₁ d₂ : Declarations}
      {class_ expr : String} {events : List Event} :
      d.lazy? ref = none → g.resolve ref = .ok resolved →
      resolved.base = .object description' members →
      Returns (declareClass hint') d class_ d₁ →
      Logs g s (.fields (.ofRef ref) class_ [] members) (d₁.recordLazy ref expr) [] d₂ events →
      Logs g s (.core place (.lazy description name ref) hint) d [expr] (d₂.completeClass class_)
        (.enters ref :: .declares (.ofRef ref) class_ :: events ++ [.leaves ref expr])
  | lazyOther {place : Place} {description name : Json} {ref : Ref} {resolved : Node}
      {hint hint' : NameHint} {d d₁ : Declarations} {expr : String} {events : List Event} :
      d.lazy? ref = none → g.resolve ref = .ok resolved → isObject resolved.base = false →
      Logs g s (.node (.ofRef ref) resolved hint') { d with depth := d.depth + 1 } [expr] d₁
        events →
      Logs g s (.core place (.lazy description name ref) hint) d [expr]
        (Declarations.recordLazy { d₁ with depth := d₁.depth - 1 } ref expr)
        (.enters ref :: events ++ [.leaves ref expr])
  | step {place : Place} {node : Node} {hint : NameHint} {d d' : Declarations} {type : String}
      {events : List Event} :
      Logs g s (.core place node.base hint) d [type] d' events →
      Logs g s (.node place node hint) d [if node.mayBeNull then orNull type else type] d' events
  | noFields {place : Place} {name : String} {used : List String} {d : Declarations} :
      Logs g s (.fields place name used []) d [] d []
  | field {place : Place} {name key : String} {used : List String} {node : Node}
      {rest : List (String × Node)} {d d₁ d' : Declarations} {type : String}
      {peeled : Schema.Peeled} {events events' : List Event} :
      Logs g s (.node (place.child used.length) node (.text (name ++ "_" ++ key))) d [type] d₁
        events →
      Logs g s (.fields place name (freeField used (Text.fieldName key) :: used) rest)
        (d₁.addField name (newField used key type peeled)) [] d' events' →
      Logs g s (.fields place name used ((key, node) :: rest)) d [] d' (events ++ events')
  | noOptions {place : Place} {hint : NameHint} {index : Nat} {d : Declarations} :
      Logs g s (.options place hint index []) d [] d []
  | option {place : Place} {hint : NameHint} {index : Nat} {node : Node} {rest : List Node}
      {d d₁ d' : Declarations} {first : String} {others : List String}
      {events events' : List Event} :
      Logs g s (.node (place.child index) node (hint.extend ("U" ++ toString index))) d [first] d₁
        events →
      Logs g s (.options place hint (index + 1) rest) d₁ others d' events' →
      Logs g s (.options place hint index (node :: rest)) d (first :: others) d' (events ++ events')

variable {g : Graph} {s : Settings.Translator} {inside : Node → NameHint → Translation String}
variable {watch : Place → Node → NameHint → Declarations → List Event}
variable {d d' : Declarations} {hint : NameHint} {expr : String} {place : Place}

def Watches (g : Graph) (s : Settings.Translator) (inside : Node → NameHint → Translation String)
    (watch : Place → Node → NameHint → Declarations → List Event) : Prop :=
  ∀ place node hint d expr d', Parsed node → Returns (inside node hint) d expr d' →
    Logs g s (.node place node hint) d [expr] d' (watch place node hint d)

theorem fields_logs (hw : Watches g s inside watch) {name : String}
    {members : List (String × Node)} : ∀ {used : List String} {d : Declarations},
      (∀ member ∈ members, Parsed member.2) →
      Returns (fields s inside name used members) d () d' →
      Logs g s (.fields place name used members) d [] d'
        (fieldsLog s inside watch place name used members d) := by
  induction members with
  | nil =>
    intro used d _ hr
    cases returns_fields_nil.mp hr
    exact .noFields
  | cons member rest ih =>
    obtain ⟨key, node⟩ := member
    intro used d hp hr
    obtain ⟨hnode, hrest⟩ := List.forall_mem_cons.mp hp
    obtain ⟨peeled, type, d₁, hpeel, hin, hfields⟩ := returns_fields_cons.mp hr
    have hone : Returns (fields s inside name used [(key, node)]) d ()
        (d₁.addField name (newField used key type peeled)) :=
      returns_fields_cons.mpr ⟨peeled, type, d₁, hpeel, hin, returns_fields_nil.mpr rfl⟩
    rw [fieldsLog, hone.after_eq]
    exact .field (hw _ _ _ _ _ _ hnode hin) (ih hrest hfields)

theorem options_logs (hw : Watches g s inside watch) {nodes : List Node} :
    ∀ {index : Nat} {parts : List String} {d : Declarations}, (∀ node ∈ nodes, Parsed node) →
      Returns (options inside hint index nodes) d parts d' →
      Logs g s (.options place hint index nodes) d parts d'
        (optionsLog inside watch place hint index nodes d) := by
  induction nodes with
  | nil =>
    intro index parts d _ hr
    obtain ⟨rfl, rfl⟩ := returns_options_nil.mp hr
    exact .noOptions
  | cons node rest ih =>
    intro index parts d hp hr
    obtain ⟨hnode, hrest⟩ := List.forall_mem_cons.mp hp
    obtain ⟨first, others, d₁, hin, hoptions, rfl⟩ := returns_options_cons.mp hr
    rw [optionsLog, hin.after_eq]
    exact .option (hw _ _ _ _ _ _ hnode hin) (ih hrest hoptions)

theorem enum_logs {description values : Json} (ht : values.truthy = true)
    (hr : Returns (enumType values hint) d expr d') :
    Logs g s (.core place (.enumeration description values) hint) d [expr] d'
      (enumLog place values hint d) := by
  rw [enumLog, if_pos ht, hr.outcome_eq]
  exact .enum ht hr

theorem isObject_base {limit : Json} {node : Node} {target : Schema.Peeled}
    (hp : Schema.peel limit node = .ok target)
    (hn : ∀ description members, target.node ≠ .object description members) :
    isObject node.base = false := by
  rw [(Schema.peel_ok hp).1] at hn
  unfold isObject
  split
  · rename_i description members hb
    exact absurd hb (hn description members)
  · rfl

theorem lazyLog_entered {ref : Ref} {resolved : Node} (hl : d.lazy? ref = none)
    (hres : g.resolve ref = .ok resolved) (hr : Returns (lazyType g s inside ref hint) d expr d') :
    lazyLog g s inside watch ref hint d =
      .enters ref :: targetLog s inside watch ref resolved hint expr d ++ [.leaves ref expr] := by
  rw [lazyLog, hl, hres, hr.outcome_eq]

theorem targetLog_object {ref : Ref} {resolved : Node} {description : Json}
    {members : List (String × Node)} {class_ : String} {d₁ : Declarations}
    (h : resolved.base = .object description members) (hd : Returns (declareClass hint) d class_ d₁) :
    targetLog s inside watch ref resolved hint expr d =
      .declares (.ofRef ref) class_ ::
        fieldsLog s inside watch (.ofRef ref) class_ [] members (d₁.recordLazy ref expr) := by
  simp only [targetLog, h, hd.outcome_eq]

theorem targetLog_other {ref : Ref} {resolved : Node} (h : isObject resolved.base = false) :
    targetLog s inside watch ref resolved hint expr d =
      watch (.ofRef ref) resolved hint { d with depth := d.depth + 1 } := by
  unfold targetLog
  split
  · rename_i hb
    rw [hb] at h
    cases h
  · rfl

theorem core_logs (hw : Watches g s inside watch) (hg : g.AllParsed) {node : Node}
    (hp : Parsed node) (hr : Returns (core g s inside node hint) d expr d') :
    Logs g s (.core place node hint) d [expr] d' (coreLog g s inside watch place node hint d) := by
  cases core_cases hr with
  | object hd hf =>
    cases hp with
    | object hm =>
      rw [coreLog, hd.outcome_eq]
      exact .object hd (fields_logs hw hm hf)
  | primitive ht => exact .plain (by rw [plainType?, ht]; rfl)
  | literal => exact .plain rfl
  | strings he ha =>
    cases hp with
    | array hel =>
      cases hel.element.symm.trans he
      rw [hel.not_absent] at ha
      cases ha
    | anyArray => exact .plain rfl
  | array he ha hin =>
    cases hp with
    | array hel =>
      cases hel.element.symm.trans he
      rw [coreLog, hel.element]
      simp only [ha, Bool.false_eq_true, if_false]
      exact .array ha (hw _ _ _ _ _ _ hel hin)
    | anyArray =>
      cases he
      cases ha
  | anyString hv ht =>
    cases hp with
    | enumeration =>
      cases hv
      rw [coreLog, enumLog, if_neg (by simp [ht])]
      exact .plain (by rw [plainType?, if_neg (by simp [ht])])
    | lazy | primitive | literal | array | anyArray | object | record | anyRecord | union
    | wrapper => cases hv
  | names hv ht | literals hv ht =>
    cases hp with
    | enumeration => cases hv; exact enum_logs ht hr
    | lazy | primitive | literal | array | anyArray | object | record | anyRecord | union
    | wrapper => cases hv
  | record ha hkey hvalue =>
    rw [coreLog, hkey.after_eq]
    cases hp with
    | record hk hv =>
      refine .record rfl (hw _ _ _ _ _ _ ?_ hkey) (hw _ _ _ _ _ _ hv hvalue)
      rw [if_neg (by simp [hk.not_absent])]
      exact hk
    | anyRecord hv => exact .record rfl (hw _ _ _ _ _ _ .primitive hkey) (hw _ _ _ _ _ _ hv hvalue)
  | union hne ho =>
    cases hp with
    | union hm => exact .union (options_logs hw hm ho)
  | bare hn hin => cases hp
  | reused hl =>
    rw [coreLog, lazyLog, hl]
    exact .reused hl
  | lazyObject hl hres hpeel hobj hd _ hf =>
    have hbase := (Schema.peel_ok hpeel).1.symm.trans hobj
    have hparsed := hg.resolve_ok hres
    rw [coreLog, lazyLog_entered hl hres hr, targetLog_object hbase hd]
    exact .lazyObject hl hres hbase hd (fields_logs hw (hparsed.members hpeel hobj).2 hf)
  | lazyOther hl hres hpeel hother _ hin =>
    have hbase := isObject_base hpeel hother
    rw [coreLog, lazyLog_entered hl hres hr, targetLog_other hbase]
    exact .lazyOther hl hres hbase (hw _ _ _ _ _ _ (hg.resolve_ok hres) hin)

theorem step_logs (hw : Watches g s inside watch) (hg : g.AllParsed) :
    Watches g s (step g s inside) (stepLog g s inside watch) := by
  intro place node hint d expr d' hp hr
  obtain ⟨peeled, type, hpeel, hc, rfl⟩ := returns_step.mp hr
  obtain ⟨hnode, -, hnull⟩ := Schema.peel_ok hpeel
  rw [hnode] at hc
  rw [stepLog, hpeel, hnull]
  simp only [hnode]
  exact .step (core_logs hw hg hp.base hc)

theorem within_logs (hg : g.AllParsed) (nesting : Nat) :
    Watches g s (within g s nesting) (withinLog g s nesting) := by
  induction nesting with
  | zero => intro place node hint d expr d' _ hr; exact (returns_throw hr).elim
  | succ nesting ih => exact step_logs ih hg

/-- The log of a run over a document is derived from its root. -/
theorem logs_of_returns (hg : g.AllParsed) {root : Node} (hp : Parsed root)
    (hr : Returns (translate g s root hint) d expr d') :
    Logs g s (.node .root root hint) d [expr] d' (log g s root hint d) :=
  within_logs hg _ _ _ _ _ _ _ hp (returns_translate.mp hr)

end StructuredOutput.Baml.Translation
