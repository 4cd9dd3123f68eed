import Mathlib.Data.List.Permutation
import StructuredOutput.Proofs.Hint.SharedTables
import StructuredOutput.Proofs.Schema.Definitions

/-! # Every description ends

There is no limit on the depth of a description. What ends it is that a deferred node is active while it
is described: on a path of the recursion a reference is followed at most once, and between two references
a path goes down in one node. `Calls` says which calls one step makes, each with the deferred nodes that
are active then, and `need` falls with every call. So no description asks for what lies below that
nesting, and the faults that are left are those of definitions that cannot be read.

That the active nodes are afterwards what they were before needs none of this: it holds of every table,
of every node, and of a description that is interrupted. -/
namespace StructuredOutput

open Schema (Graph Node Ref)

/-! ## Names that are texts -/

namespace Schema

/-- The shapes of nodes that are read, with texts for the names of primitives and deferred nodes. Nothing
in the place of a node counts as one of them. -/
inductive Named : Node → Prop
  | absent : Named .absent
  | lazy {description : Json} {name : String} {ref : Ref} : Named (.lazy description (.str name) ref)
  | primitive {description : Json} {name : String} : Named (.primitive description (.str name))
  | literal {description value : Json} : Named (.literal description value)
  | enumeration {description : Json} {texts : List String} :
      Named (.enumeration description (.arr (texts.map .str)))
  | array {description low high : Json} {element : Node} :
      Named element → Named (.array description [element] low high)
  | object {description : Json} {members : List (String × Node)} :
      (∀ member ∈ members, Named member.2) → Named (.object description members)
  | record {description : Json} {key value : Node} :
      Named value → Named (.record description key value)
  | union {description : Json} {options : List Node} :
      (∀ option ∈ options, Named option) → Named (.union description options)
  | wrapper {description : Json} {form : Wrapper} {inner : Node} :
      Named inner → Named (.wrapper description form inner)

theorem named_describe {node : Node} (h : Named node) (d : Json) : Named (node.describe d) := by
  cases h with
  | absent => exact .absent
  | lazy => exact .lazy
  | primitive => exact .primitive
  | literal => exact .literal
  | enumeration => exact .enumeration
  | array h => exact .array h
  | object h => exact .object h
  | record h => exact .record h
  | union h => exact .union h
  | wrapper h => exact .wrapper h

theorem named_kept : Document.Kept Named where
  lazy _ _ := .lazy
  primitive _ := .primitive
  literal _ := .literal
  enumeration _ := .enumeration
  array _ _ h := h.elim .array fun he => he ▸ .array .absent
  object h := by
    refine .object fun member hm => ?_
    obtain ⟨inner, hi, he | he⟩ := h member hm
    · exact he ▸ hi
    · exact he ▸ .wrapper hi
  record _ hv := .record hv
  union := .union
  nullable := .wrapper
  plain _ := .wrapper
  default _ _ := .wrapper
  describe d h := named_describe h d

/-- In an array whose element is a node or nothing, that is what is found. -/
theorem Named.element {g : Graph} {description low high : Json} {candidates : List Node} {element : Node}
    (h : Named (.array description candidates low high)) (he : g.element candidates = .ok element) :
    Named element ∧ element.height ≤ Node.listHeight candidates := by
  cases h with
  | @array _ _ _ only h =>
    have hfound : g.element [only] = .ok only := by cases h <;> rfl
    cases hfound.symm.trans he
    exact ⟨h, Node.height_le_listHeight List.mem_cons_self⟩

end Schema

namespace Hint

open Schema (Named)

/-! ## The calls of one step -/

/-- The calls that one step of a description can make: the node that is described next, with the deferred
nodes that are active then. -/
inductive Calls (g : Graph) : List Ref × Node → List Ref × Node → Prop
  | wrapper {active : List Ref} {description : Json} {form : Schema.Wrapper} {inner : Node} :
      Calls g (active, .wrapper description form inner) (active, inner)
  | pipeline {active : List Ref} {description : Json} {inner source : Node} :
      Calls g (active, .pipeline description inner source)
        (active, if inner.isAbsent then source else inner)
  | field {active : List Ref} {description : Json} {members : List (String × Node)}
      {member : String × Node} : member ∈ members →
      Calls g (active, .object description members) (active, member.2)
  | element {active : List Ref} {description low high : Json} {candidates : List Node}
      {element : Node} : g.element candidates = .ok element →
      Calls g (active, .array description candidates low high) (active, element)
  | option {active : List Ref} {description : Json} {options : List Node} {option : Node} :
      option ∈ options → Calls g (active, .union description options) (active, option)
  | value {active : List Ref} {description : Json} {key value : Node} :
      Calls g (active, .record description key value) (active, value)
  | behind {active : List Ref} {description name : Json} {ref : Ref} {target : Node} :
      active.contains ref = false → g.resolve ref = .ok target →
      Calls g (active, .lazy description name ref) (ref :: active, target)

/-- The deferred node that a call resolves: its own, unless that is active. -/
def resolved? : List Ref × Node → Option Ref
  | (active, .lazy _ _ ref) => if active.contains ref then none else some ref
  | _ => none

variable {g : Graph} {active : List Ref} {node : Node} {α β : Type}

/-- A call leaves active what was, and the deferred node that it resolves is added. -/
theorem Calls.active_eq {call next : List Ref × Node} (h : Calls g call next) :
    next.1 = (resolved? call).toList ++ call.1 := by
  cases h with
  | behind hnew => simp only [resolved?, hnew]; rfl
  | wrapper | pipeline | field | element | option | value => rfl

theorem resolved?_not_active {call : List Ref × Node} {ref : Ref} (h : resolved? call = some ref) :
    ref ∉ call.1 := by
  unfold resolved? at h
  split at h
  · split at h
    · cases h
    · rename_i hnew
      cases h
      simpa using hnew
  · cases h

/-- On a path no deferred node is resolved twice, and none that was active before. -/
theorem resolved_once {path : List (List Ref × Node)} : ∀ {call : List Ref × Node},
    List.IsChain (Calls g) (call :: path) →
      ((call :: path).filterMap resolved?).Nodup ∧
        ∀ ref ∈ (call :: path).filterMap resolved?, ref ∉ call.1 := by
  induction path with
  | nil =>
    intro call _
    rw [List.filterMap_cons, List.filterMap_nil]
    cases hr : resolved? call with
    | none => exact ⟨List.nodup_nil, List.forall_mem_nil _⟩
    | some ref =>
      exact ⟨List.nodup_singleton ref, List.forall_mem_singleton.mpr (resolved?_not_active hr)⟩
  | cons next rest ih =>
    intro call h
    obtain ⟨hcall, hrest⟩ := List.isChain_cons_cons.mp h
    obtain ⟨hnodup, hnew⟩ := ih hrest
    rw [hcall.active_eq] at hnew
    rw [List.filterMap_cons]
    cases hr : resolved? call with
    | none =>
      rw [hr] at hnew
      exact ⟨hnodup, hnew⟩
    | some ref =>
      rw [hr] at hnew
      simp only [Option.toList_some, List.cons_append, List.nil_append, List.mem_cons, not_or] at hnew
      refine ⟨List.nodup_cons.mpr ⟨fun hm => (hnew ref hm).1 rfl, hnodup⟩, ?_⟩
      exact List.forall_mem_cons.mpr ⟨resolved?_not_active hr, fun other hm => (hnew other hm).2⟩

/-! ## What a step leaves -/

/-- Two descriptions that give one result, and leave the active nodes as they were. -/
def Both (m m' : Description α) (active : List Ref) : Prop :=
  ∃ result, Gives m active result ∧ Gives m' active result

theorem Both.pure (a : α) : Both (pure a) (pure a) active := ⟨_, gives_pure a, gives_pure a⟩

theorem Both.lift (result : Except Fault α) : Both (lift result) (lift result) active :=
  ⟨_, gives_lift result, gives_lift result⟩

theorem Both.bind {m m' : Description α} {f f' : α → Description β} (hm : Both m m' active)
    (hf : ∀ a, Both (f a) (f' a) active) : Both (m >>= f) (m' >>= f') active := by
  obtain ⟨result, h, h'⟩ := hm
  choose q hq hq' using hf
  exact ⟨_, h.bind hq, h'.bind hq'⟩

/-- Behind a result only the value that it is matters. -/
theorem Both.behind {result : Except Fault α} {f f' : α → Description β}
    (hf : ∀ a, result = .ok a → Both (f a) (f' a) active) :
    Both (Hint.lift result >>= f) (Hint.lift result >>= f') active := by
  cases result with
  | error fault => exact .lift (.error fault)
  | ok a => exact hf a rfl

theorem Both.inNode {m m' : Description α} {ref : Ref} (h : Both m m' (ref :: active)) :
    Both (inNode ref m) (inNode ref m') active := by
  obtain ⟨result, h, h'⟩ := h
  exact ⟨result, gives_inNode h, gives_inNode h'⟩

section Step

variable {inside inside' : Node → Description Json}

theorem fieldTexts_both {members : List (String × Node)}
    (hi : ∀ member ∈ members, Both (inside member.2) (inside' member.2) active) :
    Both (fieldTexts inside members) (fieldTexts inside' members) active := by
  induction members with
  | nil => exact .pure _
  | cons member rest ih =>
    obtain ⟨hfirst, hrest⟩ := List.forall_mem_cons.mp hi
    rw [fieldTexts, fieldTexts]
    exact hfirst.bind fun value => (ih hrest).bind fun others => .pure _

theorem options_both {options : List Node}
    (hi : ∀ option ∈ options, Both (inside option) (inside' option) active) :
    Both (options.mapM inside) (options.mapM inside') active := by
  induction options with
  | nil => exact .pure _
  | cons option rest ih =>
    obtain ⟨hfirst, hrest⟩ := List.forall_mem_cons.mp hi
    rw [List.mapM_cons, List.mapM_cons]
    exact hfirst.bind fun value => (ih hrest).bind fun others => .pure _

/-- One step uses the description of the nodes inside it for its calls only. -/
theorem step_both (hi : ∀ active' part, Calls g (active, node) (active', part) →
      Both (inside part) (inside' part) active') :
    Both (step g inside node) (step g inside' node) active := by
  cases node with
  | foreign | thunk | bare | literal => exact .pure _
  | primitive description name => exact (Both.lift _).bind fun word => .pure _
  | object description members =>
    exact (fieldTexts_both fun member hm => hi _ _ (.field hm)).bind fun texts => .pure _
  | array description candidates low high =>
    rw [step, step]
    refine Both.behind fun element he => ?_
    cases element.isAbsent with
    | true => exact (Both.pure _).bind fun inner => (Both.lift _).bind fun grouped => .pure _
    | false =>
      exact (hi _ _ (.element he)).bind fun inner => (Both.lift _).bind fun grouped => .pure _
  | enumeration description values => exact (Both.lift _).bind fun words => .pure _
  | memberEnum description source => exact (Both.lift _).bind fun words => .pure _
  | record description key value =>
    rw [step, step]
    cases value.isAbsent with
    | true => exact (Both.pure _).bind fun text => .pure _
    | false => exact (hi _ _ .value).bind fun text => .pure _
  | union description options =>
    exact (options_both fun option hm => hi _ _ (.option hm)).bind fun values =>
      (Both.lift _).bind fun texts => .pure _
  | lazy description name ref =>
    change Both (if active.contains ref then _ else _) (if active.contains ref then _ else _) active
    cases hnew : active.contains ref with
    | true => exact .pure _
    | false =>
      exact Both.inNode (Both.behind fun target ht => hi _ _ (.behind hnew ht))
  | wrapper description form inner =>
    have hinner : Both (inside inner) (inside' inner) active := hi _ _ .wrapper
    cases form with
    | optional => exact hinner
    | nullable => exact hinner.bind fun value => .pure _
    | plain | default | caught | readonly | branded | effects =>
      change Both (if inner.isAbsent then _ else _) (if inner.isAbsent then _ else _) active
      cases inner.isAbsent with
      | true => exact .pure _
      | false => exact hinner
  | pipeline description inner source =>
    have htarget := hi _ _ (Calls.pipeline : Calls g (active, .pipeline description inner source) _)
    rw [step, step]
    generalize (if inner.isAbsent then source else inner) = target at htarget ⊢
    cases target.isAbsent with
    | true => exact .pure _
    | false => exact htarget

end Step

/-! ## The active nodes afterwards -/

/-- The description with interruptions: wherever the description of a node is about to start, `stop` can
end it with a fault, knowing the nesting, the node and the active nodes. -/
def interrupted (g : Graph) (stop : Nat → Node → List Ref → Option Fault) :
    Nat → Node → Description Json
  | 0, _ => throw .endless
  | nesting + 1, node => do
    match stop nesting node (← get) with
    | some fault => throw fault
    | none => step g (interrupted g stop nesting) node

/-- Without interruptions it is the description. -/
theorem interrupted_never (g : Graph) (nesting : Nat) :
    interrupted g (fun _ _ _ => none) nesting = within g nesting := by
  induction nesting with
  | zero => rfl
  | succ nesting ih =>
    funext node
    rw [interrupted, ih]
    rfl

theorem interrupted_both (g : Graph) (stop : Nat → Node → List Ref → Option Fault) (nesting : Nat) :
    ∀ node active,
      Both (interrupted g stop nesting node) (interrupted g stop nesting node) active := by
  induction nesting with
  | zero => exact fun node active => .lift (.error .endless)
  | succ nesting ih =>
    intro node active
    have hstep : Both (step g (interrupted g stop nesting) node)
        (step g (interrupted g stop nesting) node) active := step_both fun active' part _ =>
      ih part active'
    have hrun : (interrupted g stop (nesting + 1) node).run.run active =
        (match stop nesting node active with
          | some fault => throw fault
          | none => step g (interrupted g stop nesting) node : Description Json).run.run active := rfl
    unfold Both Gives
    rw [hrun]
    cases stop nesting node active with
    | some fault => exact Both.lift (.error fault)
    | none => exact hstep

/-- The active nodes are afterwards what they were, however a description ends. -/
theorem active_restored (g : Graph) (stop : Nat → Node → List Ref → Option Fault) (nesting : Nat)
    (node : Node) (active : List Ref) :
    ((interrupted g stop nesting node).run.run active).2 = active := by
  obtain ⟨result, h, -⟩ := interrupted_both g stop nesting node active
  rw [h]

/-! ## The recursion over an arbitrary floor -/

theorem within_eq_iterate (g : Graph) (nesting : Nat) :
    within g nesting = (step g)^[nesting] fun _ => throw .endless := by
  have hstep (n : Nat) : within g (n + 1) = step g (within g n) := rfl
  exact Schema.eq_iterate hstep nesting

def AllNamed (g : Graph) : Prop := ∀ ref target, g.resolve ref = .ok target → Named target

/-- What is called by the description of a named node is named. -/
theorem Calls.named (hg : AllNamed g) {call next : List Ref × Node} (h : Calls g call next)
    (hn : Named call.2) : Named next.2 := by
  cases h with
  | wrapper => cases hn with | wrapper h => exact h
  | pipeline => cases hn
  | field hm => cases hn with | object h => exact h _ hm
  | option hm => cases hn with | union h => exact h _ hm
  | value => cases hn with | record h => exact h
  | element he => exact (hn.element he).1
  | behind _ ht => exact hg _ _ ht

/-- With each call less is left of a path. -/
theorem Calls.need_lt {call next : List Ref × Node} (h : Calls g call next) (hn : Named call.2) :
    need g next.1 next.2 < need g call.1 call.2 := by
  cases h with
  | wrapper => exact need_part _ (Nat.lt_succ_self _)
  | pipeline => cases hn
  | field hm => exact need_part _ (Nat.lt_succ_of_le (Node.height_le_fieldsHeight hm))
  | element he => exact need_part _ (Nat.lt_succ_of_le (hn.element he).2)
  | option hm => exact need_part _ (Nat.lt_succ_of_le (Node.height_le_listHeight hm))
  | value => exact need_part _ (Nat.lt_succ_of_le (Nat.le_max_right _ _))
  | behind hnew ht => exact need_behind hnew ht _ _

/-- No path of calls is longer than what is left of it at the start. -/
theorem path_lt_need (hg : AllNamed g) {path : List (List Ref × Node)} :
    ∀ {call : List Ref × Node}, Named call.2 → List.IsChain (Calls g) (call :: path) →
      path.length < need g call.1 call.2 := by
  induction path with
  | nil =>
    intro call _ _
    exact (Node.height_pos call.2).trans_le (Nat.le_add_left _ _)
  | cons next rest ih =>
    intro call hn h
    obtain ⟨hcall, hrest⟩ := List.isChain_cons_cons.mp h
    exact Nat.lt_of_le_of_lt (ih (hcall.named hg hn) hrest) (hcall.need_lt hn)

/-- With enough nesting left it does not matter what lies below. -/
theorem iterate_both (hg : AllNamed g) (below below' : Node → Description Json) {nesting : Nat} :
    ∀ {node active}, Named node → need g active node ≤ nesting →
      Both ((step g)^[nesting] below node) ((step g)^[nesting] below' node) active := by
  induction nesting with
  | zero =>
    intro node active _ hle
    have hpos := node.height_pos
    unfold need at hle
    omega
  | succ nesting ih =>
    intro node active hn hle
    rw [Function.iterate_succ_apply', Function.iterate_succ_apply']
    refine step_both fun active' part hc => ih (hc.named hg hn) ?_
    exact Nat.le_of_lt_succ ((hc.need_lt hn).trans_le hle)

/-! ## How a description ends -/

/-- Whether the calls of a description lead to a deferred node whose definition is refused. -/
inductive Blocked (g : Graph) : List Ref × Node → Fault → Prop
  | here {active : List Ref} {description name : Json} {ref : Ref} {fault : Fault} :
      active.contains ref = false → g.resolve ref = .error fault →
      Blocked g (active, .lazy description name ref) fault
  | inside {call next : List Ref × Node} {fault : Fault} :
      Calls g call next → Blocked g next fault → Blocked g call fault

/-- A description that gives a value as asked for, or the fault of a definition that its calls lead to. -/
def Finishes (g : Graph) (call : List Ref × Node) (holds : α → Prop) (m : Description α)
    (active : List Ref) : Prop :=
  ∃ result, Gives m active result ∧
    match result with
    | .ok a => holds a
    | .error fault => Blocked g call fault

section Finishes

variable {call next : List Ref × Node} {p : α → Prop} {q : β → Prop}

theorem Finishes.pure {a : α} (h : p a) : Finishes g call p (pure a) active := ⟨_, gives_pure a, h⟩

theorem Finishes.bind {m : Description α} {f : α → Description β} (hm : Finishes g call p m active)
    (hf : ∀ a, p a → Finishes g call q (f a) active) : Finishes g call q (m >>= f) active := by
  obtain ⟨result, h, hp⟩ := hm
  unfold Finishes Gives
  rw [ExceptT.run_bind, StateT.run_bind, h]
  cases result with
  | error fault => exact ⟨.error fault, rfl, hp⟩
  | ok a => exact hf a hp

/-- A step finishes with what a call gives if the call finishes. -/
theorem Finishes.of_call (hc : Calls g call next) {m : Description α}
    (h : Finishes g next p m active) : Finishes g call p m active := by
  obtain ⟨result, h, hp⟩ := h
  refine ⟨result, h, ?_⟩
  cases result with
  | ok a => exact hp
  | error fault => exact .inside hc hp

theorem Finishes.inNode {ref : Ref} {m : Description α} (h : Finishes g call p m (ref :: active)) :
    Finishes g call p (inNode ref m) active := by
  obtain ⟨result, h, hp⟩ := h
  exact ⟨result, gives_inNode h, hp⟩

end Finishes

def IsText (value : Json) : Prop := ∃ text, value = .str text

theorem enumWords_texts (texts : List String) :
    ∃ words, enumWords (.arr (texts.map .str)) = .ok words := by
  unfold enumWords
  split
  · exact ⟨_, rfl⟩
  · exact ⟨_, rfl⟩

section Step

variable {inside : Node → Description Json}

theorem fieldTexts_finish {call : List Ref × Node} {members : List (String × Node)}
    (hi : ∀ member ∈ members, Finishes g call IsText (inside member.2) active) :
    Finishes g call (fun _ => True) (fieldTexts inside members) active := by
  induction members with
  | nil => exact .pure trivial
  | cons member rest ih =>
    obtain ⟨hfirst, hrest⟩ := List.forall_mem_cons.mp hi
    rw [fieldTexts]
    exact hfirst.bind fun value _ => (ih hrest).bind fun others _ => .pure trivial

theorem options_finish {call : List Ref × Node} {options : List Node}
    (hi : ∀ option ∈ options, Finishes g call IsText (inside option) active) :
    Finishes g call (fun values => ∃ texts : List String, values = texts.map .str)
      (options.mapM inside) active := by
  induction options with
  | nil => exact .pure ⟨[], rfl⟩
  | cons option rest ih =>
    obtain ⟨hfirst, hrest⟩ := List.forall_mem_cons.mp hi
    rw [List.mapM_cons]
    refine hfirst.bind fun value ⟨text, hv⟩ => (ih hrest).bind fun others ⟨texts, ho⟩ => .pure ?_
    exact ⟨text :: texts, by rw [hv, ho, List.map_cons]⟩

/-- One step of a named node: a text, or the fault of a definition that one of its calls leads to. -/
theorem step_finishes (hn : Named node) (hi : ∀ active' part,
      Calls g (active, node) (active', part) → Finishes g (active', part) IsText (inside part) active') :
    Finishes g (active, node) IsText (step g inside node) active := by
  have hcall : ∀ active' part, Calls g (active, node) (active', part) →
      Finishes g (active, node) IsText (inside part) active' :=
    fun active' part hc => (hi active' part hc).of_call hc
  cases hn with
  | absent | literal | primitive => exact .pure ⟨_, rfl⟩
  | enumeration =>
    rename_i description texts
    obtain ⟨words, hw⟩ := enumWords_texts texts
    rw [step, hw]
    exact .pure ⟨_, rfl⟩
  | object =>
    exact (fieldTexts_finish fun member hm => hcall _ _ (.field hm)).bind fun texts _ => .pure ⟨_, rfl⟩
  | array h =>
    rename_i description low high element
    have he : g.element [element] = .ok element := by cases h <;> rfl
    have hgroup : ∀ inner, IsText inner → Finishes g (active, .array description [element] low high)
        IsText (do let grouped ← lift (Json.Call.group inner); pure (.str (grouped.display ++ "[]")))
        active := by
      rintro _ ⟨text, rfl⟩
      rw [Json.Call.group_text]
      exact .pure ⟨_, rfl⟩
    rw [step, he]
    change Finishes g _ IsText (if element.isAbsent then _ else _) active
    cases element.isAbsent with
    | true => exact (Finishes.pure ⟨_, rfl⟩).bind hgroup
    | false => exact (hcall _ _ (.element he)).bind hgroup
  | record =>
    rename_i description key value _
    rw [step]
    cases value.isAbsent with
    | true => exact (Finishes.pure trivial).bind (p := fun _ => True) fun text _ => .pure ⟨_, rfl⟩
    | false => exact (hcall _ _ .value).bind fun text _ => .pure ⟨_, rfl⟩
  | union =>
    refine (options_finish fun option hm => hcall _ _ (.option hm)).bind fun values hv => ?_
    obtain ⟨texts, rfl⟩ := hv
    rw [textOf_map]
    exact .pure ⟨_, rfl⟩
  | lazy =>
    rename_i description name ref
    change Finishes g _ IsText (if active.contains ref then _ else _) active
    cases hnew : active.contains ref with
    | true =>
      refine .pure ?_
      unfold nameOf
      split <;> exact ⟨_, rfl⟩
    | false =>
      refine Finishes.inNode ?_
      cases ht : g.resolve ref with
      | error fault => exact ⟨.error fault, rfl, .here hnew ht⟩
      | ok target => exact hcall _ _ (.behind hnew ht)
  | wrapper =>
    rename_i description form inner _
    have hinner := hcall _ _ .wrapper
    cases form with
    | optional => exact hinner
    | nullable => exact hinner.bind fun value _ => .pure ⟨_, rfl⟩
    | plain | default | caught | readonly | branded | effects =>
      change Finishes g _ IsText (if inner.isAbsent then _ else _) active
      cases inner.isAbsent with
      | true => exact .pure ⟨_, rfl⟩
      | false => exact hinner

end Step

theorem within_finishes (hg : AllNamed g) {nesting : Nat} : ∀ {node active}, Named node →
    need g active node ≤ nesting → Finishes g (active, node) IsText (within g nesting node) active := by
  induction nesting with
  | zero =>
    intro node active _ hle
    have hpos := node.height_pos
    unfold need at hle
    omega
  | succ nesting ih =>
    intro node active hn hle
    refine step_finishes hn fun active' part hc => ih (hc.named hg hn) ?_
    exact Nat.le_of_lt_succ ((hc.need_lt hn).trans_le hle)

/-- With enough nesting left the outcome is that of the description, whatever lies below. -/
theorem iterate_eq_describe (hg : AllNamed g) (hn : Named node) (below : Node → Description Json)
    {nesting : Nat} (hle : need g [] node ≤ nesting) :
    ((step g)^[nesting] below node).run.run [] = (describe g node, []) := by
  obtain ⟨more, rfl⟩ := Nat.exists_eq_add_of_le hle
  obtain ⟨rest, hreach⟩ := Nat.exists_eq_add_of_le (need_le_reach g node)
  obtain ⟨result, h, h'⟩ := iterate_both hg ((step g)^[more] below)
    ((step g)^[rest] fun _ => throw .endless) hn (Nat.le_refl _)
  have hdescribe : describe g node = result := by
    rw [describe, within_eq_iterate, hreach, Function.iterate_add_apply, h']
  rw [Function.iterate_add_apply, hdescribe, h]

/-! ## Descriptions of documents -/

section Read

open Json (find?)
open Schema.Document (Cites definitionName? definitionName?_eq_some node_cites refNode_ok
  resolve_table)

variable {doc : Schema.Document} {texts : String → Prop}

def RefusedDefinition (doc : Schema.Document) (fault : Fault) : Prop :=
  ∃ text name definition, definitionName? text = some name ∧
    find? name doc.definitions = some definition ∧
    Schema.Document.node doc text definition = .error fault

theorem table_named (doc : Schema.Document) : AllNamed doc.table := by
  intro ref target h
  obtain ⟨definition, -, hm⟩ := List.mem_flatMap.mp (Schema.Graph.mem_of_resolve h)
  obtain ⟨start, -, he⟩ := List.mem_map.mp hm
  have hread : Schema.Document.node doc (start ++ definition.1) definition.2 = .ok target :=
    congrArg Prod.snd he
  have hfair := Schema.Document.node_kept Schema.named_kept doc (start ++ definition.1) definition.2
  rwa [hread] at hfair

/-- A deferred node that a document cites leads to its definition. -/
theorem resolve_cited {description name : Json} {ref : Ref}
    (h : Cites doc texts (.lazy description name ref)) :
    ∃ text name definition, definitionName? text = some name ∧
      find? name doc.definitions = some definition ∧
      doc.table.resolve ref = Schema.Document.node doc text definition := by
  obtain ⟨text, -, hread⟩ := h _ List.mem_cons_self
  obtain ⟨name', hname, hdefined, he⟩ := refNode_ok.mp (hread "#")
  obtain ⟨definition, hfound⟩ := Option.isSome_iff_exists.mp hdefined
  obtain ⟨start, hs, rfl⟩ := definitionName?_eq_some.mp hname
  cases he
  exact ⟨_, name', definition, hname, hfound, by rw [resolve_table doc hs, hfound]; rfl⟩

/-- What is called by the description of a node that cites references cites references. -/
theorem Calls.cites {call next : List Ref × Node} (h : Calls doc.table call next)
    (hn : Named call.2) (hc : Cites doc (fun _ => True) call.2) :
    Cites doc (fun _ => True) next.2 := by
  cases h with
  | wrapper => exact hc
  | pipeline => cases hn
  | field hm => exact fun part hp => hc part (Node.mem_membersDeferred.mpr ⟨_, hm, hp⟩)
  | option hm => exact fun part hp => hc part (Node.mem_listDeferred.mpr ⟨_, hm, hp⟩)
  | value => exact fun part hp => hc part (List.mem_append_right _ hp)
  | element he =>
    cases hn with
    | @array _ _ _ only h =>
      have hfound : doc.table.element [only] = .ok only := by cases h <;> rfl
      cases hfound.symm.trans he
      exact fun part hp => hc part (Node.mem_listDeferred.mpr ⟨_, List.mem_cons_self, hp⟩)
  | behind _ ht =>
    obtain ⟨text, name, definition, -, -, hres⟩ := resolve_cited hc
    intro part hp
    obtain ⟨text', -, hread⟩ := node_cites (hres.symm.trans ht) part hp
    exact ⟨text', trivial, hread⟩

/-- The fault that blocks a description is that of a definition. -/
theorem Blocked.refused {call : List Ref × Node} {fault : Fault} (h : Blocked doc.table call fault)
    (hn : Named call.2) (hc : Cites doc (fun _ => True) call.2) : RefusedDefinition doc fault := by
  induction h with
  | here _ hfault =>
    obtain ⟨text, name, definition, hname, hfound, hres⟩ := resolve_cited hc
    exact ⟨text, name, definition, hname, hfound, hres.symm.trans hfault⟩
  | inside hcall _ ih => exact ih (hcall.named (table_named doc) hn) (hcall.cites hn hc)

end Read

/-- The description of a schema ends, whatever cycles its references make. On every path of calls each
deferred node is resolved at most once, and no path is longer than `need` says, so that with this much
nesting the outcome is the same whatever stands below. It is a text, or the fault of a definition that is
refused, to which the calls lead. A deferred node that is met again is written as its name, and
nothing is resolved for it. And after each call, one that ends in any fault at any depth included, the same
deferred nodes are active as before. -/
theorem describe_terminates {number : Nat} {schema : Json} {root : Node} {g : Graph}
    (hread : Schema.Document.read number schema = .ok (root, g)) :
    (∀ path, List.IsChain (Calls g) (([], root) :: path) →
      path.length < need g [] root ∧ ((([], root) :: path).filterMap resolved?).Nodup) ∧
    (∀ below nesting, need g [] root ≤ nesting →
      ((step g)^[nesting] below root).run.run [] = (describe g root, [])) ∧
    (∃ doc : Schema.Document, doc.DefinedBy schema ∧ g = doc.table ∧
      ((∃ text, describe g root = .ok (.str text)) ∨
        ∃ fault, describe g root = .error fault ∧ Blocked g ([], root) fault ∧
          RefusedDefinition doc fault)) ∧
    (∀ inside description name ref active, ref ∈ active →
      (step g inside (.lazy description name ref)).run.run active = (.ok (nameOf name), active)) ∧
    ∀ (table : Graph) (nesting : Nat) (node : Node) (active : List Ref),
      ((within table nesting node).run.run active).2 = active ∧
      ∀ stop, ((interrupted table stop nesting node).run.run active).2 = active := by
  obtain ⟨doc, -, hdefined, hroot, rfl⟩ := Schema.Document.read_cases hread
  have hg := table_named doc
  have hn : Named root := by
    have hfair := Schema.Document.node_kept Schema.named_kept doc "#" schema
    rwa [hroot] at hfair
  have hcites : Schema.Document.Cites doc (fun _ => True) root := by
    intro part hm
    obtain ⟨text, -, htext⟩ := Schema.Document.node_cites hroot part hm
    exact ⟨text, trivial, htext⟩
  refine ⟨fun path hpath => ⟨path_lt_need hg hn hpath, (resolved_once hpath).1⟩,
    fun below nesting hle => iterate_eq_describe hg hn below hle, ⟨doc, hdefined, rfl, ?_⟩,
    fun inside description name ref active hm => ?_, fun table nesting node active => ?_⟩
  · obtain ⟨result, hresult, hends⟩ := within_finishes hg hn (need_le_reach doc.table root)
    have hdescribe : describe doc.table root = result := congrArg Prod.fst hresult
    rw [hdescribe]
    cases result with
    | ok value =>
      obtain ⟨text, rfl⟩ := hends
      exact .inl ⟨text, rfl⟩
    | error fault => exact .inr ⟨fault, rfl, hends, hends.refused hn hcites⟩
  · have hcontains : active.contains ref = true := by simpa using hm
    change (if active.contains ref then _ else _ : Description Json).run.run active = _
    rw [hcontains]
    rfl
  · refine ⟨?_, fun stop => active_restored table stop nesting node active⟩
    rw [← interrupted_never]
    exact active_restored table _ nesting node active

def cyclicSchema : Json :=
  .obj [("$ref", .str "#/$defs/Tree"), ("$defs", .obj [
    ("Tree", .obj [("type", .str "object"), ("properties", .obj [
      ("forest", .obj [("$ref", .str "#/$defs/Forest")]),
      ("parent", .obj [("$ref", .str "#/$defs/Tree")])])]),
    ("Forest", .obj [("type", .str "array"), ("items", .obj [("$ref", .str "#/$defs/Tree")])])])]

theorem describe_terminates_cyclic : ∃ root g,
    Schema.Document.read 0 cyclicSchema = .ok (root, g) ∧
    describe g root = .ok (.str "{ forest?: Tree[], parent?: Tree }") ∧
    (∀ path, List.IsChain (Calls g) (([], root) :: path) →
      ((([], root) :: path).filterMap resolved?).Nodup) ∧
    ∀ below, ((step g)^[need g [] root] below root).run.run [] =
      (.ok (.str "{ forest?: Tree[], parent?: Tree }"), []) := by
  let tree (description : Json) : Node := .lazy description (.str "Tree") ⟨0, "#/$defs/Tree"⟩
  let forest : Node := .lazy .null (.str "Forest") ⟨0, "#/$defs/Forest"⟩
  let g : Graph := ⟨Schema.Document.refStarts.map (fun start => (⟨0, start ++ "Tree"⟩,
      .ok (.object .null [("forest", .wrapper .null .optional forest),
        ("parent", .wrapper .null .optional (tree .null))]))) ++
    Schema.Document.refStarts.map fun start =>
      (⟨0, start ++ "Forest"⟩, .ok (.array .null [tree .null] .null .null))⟩
  have hread : Schema.Document.read 0 cyclicSchema = .ok (tree .null, g) := by cbv
  obtain ⟨hpaths, hends, -⟩ := describe_terminates hread
  have hdescribe : describe g (tree .null) =
    .ok (.str "{ forest?: Tree[], parent?: Tree }") := rfl
  exact ⟨_, _, hread, hdescribe, fun path h => (hpaths path h).2,
    fun below => hdescribe ▸ hends below _ (Nat.le_refl _)⟩

end Hint

end StructuredOutput
