import StructuredOutput.Proofs.Hint.Shapes
import StructuredOutput.Proofs.Schema.References

/-! # The parts of a description

`Part` is a part of a shape, at any depth. `Shows` says for which node a shape stands, whatever the
nesting and the active deferred nodes it was made with, and `within_shows` that the shape of a node
stands for it if the description succeeds. From both follows what a part of a description was written
for. Wrappers that leave no trace in a description are taken off first. -/
namespace StructuredOutput

namespace Schema.Node

/-- The node under the wrappers that a description does not show: all but those that allow null. -/
def shown : Node → Node
  | wrapper description form inner =>
    if form.isNullable then wrapper description form inner else inner.shown
  | pipeline _ inner source => if inner.isAbsent then source.shown else inner.shown
  | node => node

end Schema.Node

namespace Hint

open Schema (Graph Node Parsed Ref Wrapper)

/-- The mark of a field says whether one of its wrappers lets the value be absent. -/
theorem isOptional_eq : (node : Node) → isOptional node = node.mayBeAbsent
  | .wrapper _ form inner => by
    rw [Node.mayBeAbsent]
    cases form with
    | optional => rfl
    | plain | nullable | default | caught | readonly | branded | effects => exact isOptional_eq inner
  | .pipeline _ inner source => by
    rw [isOptional, Node.mayBeAbsent, isOptional_eq inner, isOptional_eq source]
  | .foreign _ | .thunk _ | .bare .. | .primitive .. | .literal .. | .object .. | .array ..
  | .enumeration .. | .memberEnum .. | .record .. | .union .. | .lazy .. => rfl

/-! ## Parts -/

inductive Part : Shape → Shape → Prop
  | self {s : Shape} : Part s s
  | nullable {s inner : Shape} : Part s inner → Part s (.nullable inner)
  | field {s shape : Shape} {key : String} {optional : Bool} {members : List (String × Node)}
      {fields : List (String × Bool × Shape)} :
      (key, optional, shape) ∈ fields → Part s shape → Part s (.object members fields)
  | element {s element : Shape} : Part s element → Part s (.list element)
  | option {s option : Shape} {options : List Shape} :
      option ∈ options → Part s option → Part s (.union options)
  | value {s value : Shape} : Part s value → Part s (.record value)
  | described {s inner : Shape} {ref : Ref} : Part s inner → Part s (.described ref inner)

theorem Part.trans {s t u : Shape} (h : Part s t) (h' : Part t u) : Part s u := by
  induction h' with
  | self => exact h
  | nullable _ ih => exact .nullable ih
  | field hm _ ih => exact .field hm ih
  | element _ ih => exact .element ih
  | option hm _ ih => exact .option hm ih
  | value _ ih => exact .value ih
  | described _ ih => exact .described ih

def Shape.Renders (s : Shape) : Prop := ∃ value, s.render = .ok value

theorem ok_of_bind {α β : Type} {r : Except Fault α} {f : α → Except Fault β} {b : β}
    (h : r >>= f = .ok b) : ∃ a, r = .ok a ∧ f a = .ok b := by
  cases r with
  | error fault => cases h
  | ok a => exact ⟨a, rfl, h⟩

theorem renders_field {fields : List (String × Bool × Shape)} :
    ∀ {texts : List String}, Shape.renderFields fields = .ok texts →
      ∀ field ∈ fields, field.2.2.Renders := by
  induction fields with
  | nil => intro texts _ field hm; cases hm
  | cons first rest ih =>
    intro texts h field hm
    obtain ⟨value, hv, h⟩ := ok_of_bind h
    obtain ⟨others, ho, -⟩ := ok_of_bind h
    rcases List.mem_cons.mp hm with rfl | hm
    · exact ⟨value, hv⟩
    · exact ih ho field hm

theorem renders_option {options : List Shape} :
    ∀ {values : List Json}, Shape.renderAll options = .ok values →
      ∀ option ∈ options, option.Renders := by
  induction options with
  | nil => intro values _ option hm; cases hm
  | cons first rest ih =>
    intro values h option hm
    obtain ⟨value, hv, h⟩ := ok_of_bind h
    obtain ⟨others, ho, -⟩ := ok_of_bind h
    rcases List.mem_cons.mp hm with rfl | hm
    · exact ⟨value, hv⟩
    · exact ih ho option hm

/-- What can be written has only parts that can be written. -/
theorem Part.renders {s whole : Shape} (h : Part s whole) (hw : whole.Renders) : s.Renders := by
  induction h with
  | self => exact hw
  | nullable _ ih | element _ ih | value _ ih =>
    obtain ⟨text, ht⟩ := hw
    obtain ⟨value, hv, -⟩ := ok_of_bind ht
    exact ih ⟨value, hv⟩
  | field hm _ ih =>
    obtain ⟨text, ht⟩ := hw
    obtain ⟨texts, hf, -⟩ := ok_of_bind ht
    exact ih (renders_field hf _ hm)
  | option hm _ ih =>
    obtain ⟨text, ht⟩ := hw
    obtain ⟨values, ho, -⟩ := ok_of_bind ht
    exact ih (renders_option ho _ hm)
  | described _ ih => exact ih hw

/-! ## What a shape stands for -/

inductive Shows (g : Graph) : Node → Shape → Prop
  | foreign {value : Json} : Shows g (.foreign value) (.text "unknown")
  | thunk {ref : Ref} : Shows g (.thunk ref) (.text "unknown")
  | bare {description : Json} {inner : Node} : Shows g (.bare description inner) (.text "unknown")
  | literal {description value : Json} : Shows g (.literal description value) (.literal value)
  | primitive {description name : Json} {word : String} :
      primitiveWord name = .ok word → Shows g (.primitive description name) (.text word)
  | object {description : Json} {members : List (String × Node)} (shape : Node → Shape) :
      (∀ m ∈ members, Shows g m.2.shown (shape m.2)) →
      Shows g (.object description members)
        (.object members (members.map fun m => (m.1, isOptional m.2, shape m.2)))
  | array {description low high : Json} {candidates : List Node} {element : Node} {s : Shape} :
      g.element candidates = .ok element → element.isAbsent = false → Shows g element.shown s →
      Shows g (.array description candidates low high) (.list s)
  | strings {description low high : Json} {candidates : List Node} {element : Node} :
      g.element candidates = .ok element → element.isAbsent = true →
      Shows g (.array description candidates low high) (.list (.text "string"))
  | anyString {node : Node} {values : Json} :
      node.enumValues? = some values → values.truthy = false → Shows g node (.text "string")
  | enumeration {node : Node} {values : Json} {items : List Json} :
      node.enumValues? = some values → values.elements? = some items →
      Shows g node (.union (items.map .literal))
  | record {description : Json} {key value : Node} {s : Shape} :
      Shows g value.shown s → Shows g (.record description key value) (.record s)
  | union {description : Json} {nodes : List Node} (shape : Node → Shape) :
      (∀ node ∈ nodes, Shows g node.shown (shape node)) →
      Shows g (.union description nodes) (.union (nodes.map shape))
  | nullable {description : Json} {form : Wrapper} {inner : Node} {s : Shape} :
      form.isNullable = true → Shows g inner.shown s →
      Shows g (.wrapper description form inner) (.nullable s)
  | named {description name : Json} {ref : Ref} :
      Shows g (.lazy description name ref) (.named ref name)
  | described {description name : Json} {ref : Ref} {target : Node} {s : Shape} :
      g.resolve ref = .ok target → Shows g target.shown s →
      Shows g (.lazy description name ref) (.described ref s)

theorem shows_absent {g : Graph} {node : Node} (h : node.isAbsent = true) :
    Shows g node.shown (.text "unknown") := by
  unfold Node.isAbsent at h
  split at h
  · exact .foreign
  · cases h

section Step

variable {g : Graph} {inner : List Ref → Node → Shape} {active : List Ref}

theorem enumShape_shows {node : Node} {values : Json} (hv : node.enumValues? = some values)
    (hr : (enumShape values).Renders) : Shows g node (enumShape values) := by
  unfold enumShape at hr ⊢
  cases ht : values.truthy with
  | false => exact .anyString hv ht
  | true =>
    rw [ht, if_pos rfl] at hr
    rw [if_pos rfl]
    cases he : values.elements? with
    | none =>
      rw [he] at hr
      obtain ⟨value, hr⟩ := hr
      cases hr
    | some items => exact .enumeration hv he

/-- One step: a shape that can be written stands for its node. -/
theorem step_shows
    (hi : ∀ active node, (inner active node).Renders → Shows g node.shown (inner active node))
    {node : Node} (hr : (shapeStep g inner active node).Renders) :
    Shows g node.shown (shapeStep g inner active node) := by
  cases node with
  | foreign value => exact .foreign
  | thunk ref => exact .thunk
  | bare description inner => exact .bare
  | literal description value => exact .literal
  | primitive description name =>
    rw [shapeStep] at hr ⊢
    cases hw : primitiveWord name with
    | error fault =>
      rw [hw] at hr
      obtain ⟨value, hr⟩ := hr
      cases hr
    | ok word => exact .primitive hw
  | object description members =>
    refine .object (inner active) fun m hm => hi active m.2 (Part.renders ?_ hr)
    exact .field (List.mem_map_of_mem hm) .self
  | array description candidates low high =>
    rw [shapeStep] at hr ⊢
    cases he : g.element candidates with
    | error fault =>
      rw [he] at hr
      obtain ⟨value, hr⟩ := hr
      cases hr
    | ok element =>
      rw [he] at hr
      change Shows g _ (.list (if element.isAbsent then _ else _))
      change Shape.Renders (.list (if element.isAbsent then _ else _)) at hr
      cases ha : element.isAbsent with
      | true => exact .strings he ha
      | false =>
        rw [ha] at hr
        exact .array he ha (hi active element (Part.renders (.element .self) hr))
  | enumeration description values => exact enumShape_shows rfl hr
  | memberEnum description source => exact enumShape_shows rfl hr
  | record description key value =>
    rw [shapeStep] at hr ⊢
    cases ha : value.isAbsent with
    | true => exact .record (shows_absent ha)
    | false =>
      rw [ha] at hr
      exact .record (hi active value (Part.renders (.value .self) hr))
  | union description nodes =>
    refine .union (inner active) fun node hm => hi active node (Part.renders ?_ hr)
    exact .option (List.mem_map_of_mem hm) .self
  | lazy description name ref =>
    rw [shapeStep] at hr ⊢
    cases hc : active.contains ref with
    | true => exact .named
    | false =>
      rw [hc, if_neg Bool.false_ne_true] at hr
      rw [if_neg Bool.false_ne_true]
      cases ht : g.resolve ref with
      | error fault =>
        rw [ht] at hr
        obtain ⟨value, hr⟩ := hr
        cases hr
      | ok target =>
        rw [ht] at hr
        exact .described ht (hi _ target (Part.renders (.described .self) hr))
  | wrapper description form inner =>
    cases form with
    | optional => exact hi active inner hr
    | nullable => exact .nullable rfl (hi active inner (Part.renders (.nullable .self) hr))
    | plain | default | caught | readonly | branded | effects =>
      change Shape.Renders (if inner.isAbsent then _ else _) at hr
      change Shows g inner.shown (if inner.isAbsent then _ else _)
      cases ha : inner.isAbsent with
      | true => exact shows_absent ha
      | false =>
        rw [ha] at hr
        exact hi active inner hr
  | pipeline description inner source =>
    have hs : (Node.pipeline description inner source).shown =
        (if inner.isAbsent then source else inner).shown := by
      rw [Node.shown]
      split <;> rfl
    rw [hs]
    rw [shapeStep] at hr ⊢
    generalize (if inner.isAbsent then source else inner) = target at hr ⊢
    cases ha : target.isAbsent with
    | true => exact shows_absent ha
    | false =>
      simp only [ha] at hr
      exact hi active target hr

end Step

theorem within_shows (g : Graph) (nesting : Nat) (active : List Ref) (node : Node)
    (hr : (shapeWithin g nesting active node).Renders) :
    Shows g node.shown (shapeWithin g nesting active node) := by
  induction nesting generalizing active node with
  | zero =>
    obtain ⟨value, hr⟩ := hr
    cases hr
  | succ nesting ih => exact step_shows ih hr

theorem parsed_shown {node : Node} (h : Parsed node) : Parsed node.shown := by
  induction h with
  | wrapper h ih =>
    rw [Node.shown]
    split
    · exact .wrapper h
    · exact ih
  | lazy => exact .lazy
  | primitive => exact .primitive
  | literal => exact .literal
  | enumeration => exact .enumeration
  | array h _ => exact .array h
  | anyArray => exact .anyArray
  | object h _ => exact .object h
  | record hk hv _ _ => exact .record hk hv
  | anyRecord h _ => exact .anyRecord h
  | union h _ => exact .union h

/-- A property of nodes that goes from a node to what is shown inside it. -/
structure Inherited (g : Graph) (P : Node → Prop) : Prop where
  nullable {description : Json} {form : Wrapper} {inner : Node} :
    P (.wrapper description form inner) → P inner.shown
  field {description : Json} {members : List (String × Node)} {member : String × Node} :
    P (.object description members) → member ∈ members → P member.2.shown
  element {description low high : Json} {candidates : List Node} {element : Node} :
    P (.array description candidates low high) → g.element candidates = .ok element →
    element.isAbsent = false → P element.shown
  string : P (.primitive .null (.str "string"))
  option {description : Json} {options : List Node} {option : Node} :
    P (.union description options) → option ∈ options → P option.shown
  item (value : Json) : P (.literal .null value)
  value {description : Json} {key value : Node} : P (.record description key value) → P value.shown
  described {description name : Json} {ref : Ref} {target : Node} :
    P (.lazy description name ref) → g.resolve ref = .ok target → P target.shown

theorem inherited_parsed {g : Graph} (hg : g.AllParsed) : Inherited g Parsed where
  nullable h := by
    cases h with
    | wrapper h => exact parsed_shown h
  field h hm := by
    cases h with
    | object h => exact parsed_shown (h _ hm)
  element h he ha := by
    cases h with
    | array h =>
      rw [h.element] at he
      cases he
      exact parsed_shown h
    | anyArray =>
      cases he
      cases ha
  string := .primitive
  option h hm := by
    cases h with
    | union h => exact parsed_shown (h _ hm)
  item _ := .literal
  value h := by
    cases h with
    | record _ h | anyRecord h => exact parsed_shown h
  described _ hr := parsed_shown (hg.resolve_ok hr)

/-- A part of what stands for a node stands for a node itself, which inherits from the first. -/
theorem Shows.part {g : Graph} {P : Node → Prop} (hi : Inherited g P) {s whole : Shape}
    (h : Part s whole) :
    ∀ {node : Node}, Shows g node whole → P node → ∃ n, Shows g n s ∧ P n := by
  induction h with
  | self => exact fun hs hp => ⟨_, hs, hp⟩
  | nullable _ ih =>
    intro node hs hp
    cases hs with
    | nullable _ hs => exact ih hs (hi.nullable hp)
  | field hm _ ih =>
    intro node hs hp
    cases hs with
    | object shape hall =>
      obtain ⟨m, hmem, he⟩ := List.mem_map.mp hm
      cases he
      exact ih (hall m hmem) (hi.field hp hmem)
  | element _ ih =>
    intro node hs hp
    cases hs with
    | array he ha hs => exact ih hs (hi.element hp he ha)
    | strings => exact ih (.primitive rfl) hi.string
  | option hm _ ih =>
    intro node hs hp
    cases hs with
    | union shape hall =>
      obtain ⟨o, hmem, rfl⟩ := List.mem_map.mp hm
      exact ih (hall o hmem) (hi.option hp hmem)
    | enumeration =>
      obtain ⟨item, -, rfl⟩ := List.mem_map.mp hm
      exact ih .literal (hi.item item)
  | value _ ih =>
    intro node hs hp
    cases hs with
    | record hs => exact ih hs (hi.value hp)
  | described _ ih =>
    intro node hs hp
    cases hs with
    | described hr hs => exact ih hs (hi.described hp hr)

/-- A part of what stands for a node stands for some node. -/
theorem Shows.exists_part {g : Graph} {s whole : Shape} {node : Node} (h : Part s whole)
    (hs : Shows g node whole) : ∃ n, Shows g n s := by
  have hi : Inherited g fun _ => True :=
    ⟨fun _ => trivial, fun _ _ => trivial, fun _ _ _ => trivial, trivial, fun _ _ => trivial,
      fun _ => trivial, fun _ => trivial, fun _ _ => trivial⟩
  obtain ⟨n, hn, -⟩ := Shows.part hi h hs trivial
  exact ⟨n, hn⟩

/-- The fields shown for an object are its members, in order, each with its mark. -/
theorem fields_of_part {g : Graph} {node : Node} {value : Json} (hd : describe g node = .ok value)
    {members : List (String × Node)} {fields : List (String × Bool × Shape)}
    (hp : Part (.object members fields) (shape g node)) :
    fields.map (fun f => (f.1, f.2.1)) = members.map fun m => (m.1, m.2.mayBeAbsent) := by
  have hr : (shape g node).Renders := ⟨value, (describe_eq g node).symm.trans hd⟩
  obtain ⟨_, hs⟩ := Shows.exists_part hp (within_shows g _ [] node hr)
  cases hs with
  | object shape hall =>
    rw [List.map_map]
    exact List.map_congr_left fun m _ => by simp only [Function.comp_apply, isOptional_eq]

end Hint

end StructuredOutput
