import StructuredOutput.Hint

/-! # The structure of a description

A description is a text, and a text does not say which of its parts was written for which node.
`shape` describes a node in the same way but keeps the parts: the marked fields of an object, the
alternatives of a union, and for a deferred node whether it was described or named. `describe_eq` says
that a description is the rendering of this shape, a fault included, so what is shown about the parts
of a shape is shown about the parts of the text. -/
namespace StructuredOutput

/-! ## Grouping a text -/

namespace Json.Call

theorem isPart_singleton (c : Char) (row : List Char) : Text.isPart [c] row = row.contains c := by
  induction row with
  | nil => rfl
  | cons first rest ih =>
    rw [Text.isPart, ih, List.contains_cons]
    simp [List.isPrefixOf]

theorem barOutside_chars (depth : Int) (chars : List Char) :
    barOutside depth (chars.map fun c => .str (String.singleton c)) =
      .ok (Baml.barOutside depth chars) := by
  induction chars generalizing depth with
  | nil => rfl
  | cons c rest ih =>
    rw [List.map_cons, barOutside, Baml.barOutside, Baml.opens, Baml.closes,
      String.toList_singleton, isPart_singleton, isPart_singleton]
    have hbar : String.singleton c = "|" ↔ c = '|' := by
      rw [← String.toList_inj, String.toList_singleton]
      simp
    simp only [hbar, ih]
    repeat' split
    all_goals rfl

theorem isUnion_text (text : String) : isUnion (.str text) = .ok (Baml.isUnion text) :=
  barOutside_chars 0 text.toList

/-- A text is grouped as a type expression is. -/
theorem group_text (text : String) : group (.str text) = .ok (.str (Baml.group text)) := by
  rw [group, isUnion_text]
  simp only [bind, Except.bind, pure, Except.pure]
  unfold Baml.group
  split <;> rfl

end Json.Call

namespace Hint

open Schema (Graph Node Ref)

/-- The structure of a description. An object keeps its members besides the fields shown for them, each
with its mark. A deferred node is described, or named where it is met again inside itself. -/
inductive Shape where
  | text (words : String)
  | literal (value : Json)
  | nullable (inner : Shape)
  | object (members : List (String × Node)) (fields : List (String × Bool × Shape))
  | list (element : Shape)
  | union (options : List Shape)
  | record (value : Shape)
  | described (ref : Ref) (inner : Shape)
  | named (ref : Ref) (name : Json)
  | fault (fault : Fault)

namespace Shape

mutual

def render : Shape → Except Fault Json
  | text words => .ok (.str words)
  | literal value => .ok (.str value.quote)
  | nullable inner => do
    let value ← inner.render
    pure (.str (value.display ++ " | null"))
  | object _ fields => do
    let texts ← renderFields fields
    pure (.str ("\x7b " ++ Json.join ", " texts ++ " \x7d"))
  | list element => do
    let value ← element.render
    let grouped ← Json.Call.group value
    pure (.str (grouped.display ++ "[]"))
  | union options => do
    let values ← renderAll options
    let texts ← values.mapM Json.Call.textOf
    pure (.str (Json.join " | " texts))
  | record value => do
    let value ← value.render
    pure (.str ("\x7b [key: string]: " ++ value.display ++ " \x7d"))
  | described _ inner => inner.render
  | named _ name => .ok (nameOf name)
  | fault f => .error f

def renderFields : List (String × Bool × Shape) → Except Fault (List String)
  | [] => .ok []
  | (key, optional, shape) :: rest => do
    let value ← shape.render
    let others ← renderFields rest
    pure ((key ++ (if optional then "?" else "") ++ ": " ++ value.display) :: others)

def renderAll : List Shape → Except Fault (List Json)
  | [] => .ok []
  | shape :: rest => do
    let value ← shape.render
    let others ← renderAll rest
    pure (value :: others)

end

end Shape

/-! ## The shape of a node -/

def shapeOf {α : Type} (result : Except Fault α) (shape : α → Shape) : Shape :=
  match result with
  | .ok a => shape a
  | .error fault => .fault fault

def enumShape (values : Json) : Shape :=
  if values.truthy then
    match values.elements? with
    | some items => .union (items.map .literal)
    | none => .fault .wrongType
  else .text "string"

/-- The shape of a node inside the active deferred nodes, given the shapes of the nodes inside it. -/
def shapeStep (g : Graph) (inside : List Ref → Node → Shape) (active : List Ref) (node : Node) :
    Shape :=
  match node with
  | .wrapper _ .optional inner => inside active inner
  | .wrapper _ .nullable inner => .nullable (inside active inner)
  | .wrapper _ _ inner => if inner.isAbsent then .text "unknown" else inside active inner
  | .pipeline _ inner source =>
    let target := if inner.isAbsent then source else inner
    if target.isAbsent then .text "unknown" else inside active target
  | .object _ members =>
    .object members (members.map fun m => (m.1, isOptional m.2, inside active m.2))
  | .primitive _ name => shapeOf (primitiveWord name) .text
  | .array _ candidates _ _ => shapeOf (g.element candidates) fun element =>
    .list (if element.isAbsent then .text "string" else inside active element)
  | .enumeration _ values => enumShape values
  | .memberEnum _ source => enumShape (.arr (source.values.map .str))
  | .literal _ value => .literal value
  | .union _ options => .union (options.map (inside active))
  | .record _ _ value =>
    .record (if value.isAbsent then .text "unknown" else inside active value)
  | .lazy _ name ref =>
    if active.contains ref then .named ref name
    else shapeOf (g.resolve ref) fun target => .described ref (inside (ref :: active) target)
  | _ => .text "unknown"

def shapeWithin (g : Graph) : Nat → List Ref → Node → Shape
  | 0, _, _ => .fault .endless
  | nesting + 1, active, node => shapeStep g (shapeWithin g nesting) active node

def shape (g : Graph) (node : Node) : Shape := shapeWithin g (g.reach (maxSteps g) node) [] node

/-! ## What a description gives -/

/-- Inside the active deferred nodes a description gives a result, and leaves them as they were. -/
def Gives {α : Type} (m : Description α) (active : List Ref) (result : Except Fault α) : Prop :=
  m.run.run active = (result, active)

variable {α β : Type} {active : List Ref}

theorem gives_pure (a : α) : Gives (pure a) active (.ok a) := rfl

theorem gives_lift (result : Except Fault α) : Gives (lift result) active result := rfl

theorem Gives.bind {m : Description α} {f : α → Description β} {r : Except Fault α}
    {q : α → Except Fault β} (hm : Gives m active r) (hf : ∀ a, Gives (f a) active (q a)) :
    Gives (m >>= f) active (r >>= q) := by
  unfold Gives at hm ⊢
  rw [ExceptT.run_bind, StateT.run_bind, hm]
  cases r with
  | error fault => rfl
  | ok a => exact hf a

/-- A deferred node that is described is active while it is. -/
theorem gives_inNode {inner : Description α} {ref : Ref} {r : Except Fault α}
    (h : Gives inner (ref :: active) r) : Gives (inNode ref inner) active r := by
  change ((inner.run.run (ref :: active)).1, (inner.run.run (ref :: active)).2.erase ref) = _
  rw [h, List.erase_cons_head]

theorem render_shapeOf (result : Except Fault α) (f : α → Shape) :
    (shapeOf result f).render = result >>= fun a => (f a).render := by
  cases result <;> rfl

section Step

variable {inside : Node → Description Json} {inner : List Ref → Node → Shape}

theorem fieldTexts_gives (hi : ∀ node, Gives (inside node) active (inner active node).render)
    (members : List (String × Node)) :
    Gives (fieldTexts inside members) active
      (Shape.renderFields (members.map fun m => (m.1, isOptional m.2, inner active m.2))) := by
  induction members with
  | nil => exact gives_pure _
  | cons member rest ih =>
    rw [fieldTexts, List.map_cons, Shape.renderFields]
    exact (hi member.2).bind fun value => ih.bind fun others => gives_pure _

theorem options_give (hi : ∀ node, Gives (inside node) active (inner active node).render)
    (options : List Node) :
    Gives (options.mapM inside) active (Shape.renderAll (options.map (inner active))) := by
  induction options with
  | nil => exact gives_pure _
  | cons option rest ih =>
    rw [List.mapM_cons, List.map_cons, Shape.renderAll]
    exact (hi option).bind fun value => ih.bind fun others => gives_pure _

theorem renderAll_literals (items : List Json) :
    Shape.renderAll (items.map .literal) = .ok ((items.map Json.quote).map .str) := by
  induction items with
  | nil => rfl
  | cons item rest ih =>
    rw [List.map_cons, Shape.renderAll, ih]
    rfl

theorem textOf_map (texts : List String) :
    (texts.map Json.str).mapM Json.Call.textOf = .ok texts := by
  induction texts with
  | nil => rfl
  | cons text rest ih =>
    rw [List.map_cons, List.mapM_cons, ih]
    rfl

theorem enumShape_gives (values : Json) :
    Gives (do let words ← lift (enumWords values); pure (.str words)) active
      (enumShape values).render := by
  unfold enumWords enumShape
  cases values.truthy with
  | false => exact gives_pure _
  | true =>
    cases values.elements? with
    | none => exact gives_lift _
    | some items =>
      have hr : (Shape.union (items.map .literal)).render =
          .ok (.str (Json.join " | " (items.map Json.quote))) := by
        rw [Shape.render, renderAll_literals]
        simp only [bind, Except.bind, textOf_map]
        rfl
      simp only [if_true, hr]
      exact gives_pure _

/-- One step: what a node gives is the rendering of its shape. -/
theorem step_gives {g : Graph}
    (hi : ∀ active node, Gives (inside node) active (inner active node).render) (node : Node) :
    Gives (step g inside node) active (shapeStep g inner active node).render := by
  cases node with
  | foreign value => exact gives_pure _
  | thunk ref => exact gives_pure _
  | bare description inner => exact gives_pure _
  | literal description value => exact gives_pure _
  | primitive description name =>
    rw [shapeStep, render_shapeOf]
    exact (gives_lift _).bind fun word => gives_pure _
  | object description members =>
    exact (fieldTexts_gives (hi active) members).bind fun texts => gives_pure _
  | array description candidates low high =>
    rw [shapeStep, render_shapeOf]
    refine (gives_lift _).bind fun element => ?_
    rw [Shape.render]
    cases element.isAbsent with
    | true => exact (gives_pure _).bind fun value => (gives_lift _).bind fun grouped => gives_pure _
    | false =>
      exact (hi active element).bind fun value => (gives_lift _).bind fun grouped => gives_pure _
  | enumeration description values => exact enumShape_gives values
  | memberEnum description source => exact enumShape_gives _
  | record description key value =>
    rw [step, shapeStep, Shape.render]
    cases value.isAbsent with
    | true => exact (gives_pure _).bind fun text => gives_pure _
    | false => exact (hi active value).bind fun text => gives_pure _
  | union description options =>
    exact (options_give (hi active) options).bind fun values =>
      (gives_lift _).bind fun texts => gives_pure _
  | lazy description name ref =>
    change Gives (if active.contains ref then _ else _) active (Shape.render _)
    rw [shapeStep]
    cases active.contains ref with
    | true => exact gives_pure _
    | false =>
      rw [if_neg Bool.false_ne_true, if_neg Bool.false_ne_true, render_shapeOf]
      exact gives_inNode ((gives_lift _).bind fun target => hi _ target)
  | wrapper description form inner =>
    cases form with
    | optional => exact hi active inner
    | nullable => exact (hi active inner).bind fun value => gives_pure _
    | plain | default | caught | readonly | branded | effects =>
      change Gives (if inner.isAbsent then _ else _) active
        (Shape.render (if inner.isAbsent then _ else _))
      cases inner.isAbsent with
      | true => exact gives_pure _
      | false => exact hi active inner
  | pipeline description inner source =>
    rw [step, shapeStep]
    generalize (if inner.isAbsent then source else inner) = target
    cases target.isAbsent with
    | true => exact gives_pure _
    | false => exact hi active target

end Step

theorem within_gives (g : Graph) (nesting : Nat) (active : List Ref) (node : Node) :
    Gives (within g nesting node) active (shapeWithin g nesting active node).render := by
  induction nesting generalizing active node with
  | zero => rfl
  | succ nesting ih => exact step_gives ih node

/-- A description is the rendering of the shape, whether it is a text or a fault. -/
theorem describe_eq (g : Graph) (node : Node) : describe g node = (shape g node).render :=
  congrArg Prod.fst (within_gives g _ [] node)

end Hint

end StructuredOutput
