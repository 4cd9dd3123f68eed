import StructuredOutput.Proofs.Hint.Parts
import StructuredOutput.Proofs.Meaning.Nodes

/-! # The alternatives that a description offers

`Offers` goes through the alternatives at the top of a shape; the name of a deferred node that is met
again stands for the description of that node, which is a part of the whole. In the description of a
document null is offered, other than as a literal, exactly where the node admits null. Both directions
follow derivations: how an alternative is offered, and how a value is admitted. -/
namespace StructuredOutput.Hint

open Schema (Graph Node Parsed Ref Wrapper)

/-- What a shape offers as one of its alternatives, inside a whole description. -/
inductive Offers (whole : Shape) : Shape → Shape → Prop
  | text {words : String} : Offers whole (.text words) (.text words)
  | literal {value : Json} : Offers whole (.literal value) (.literal value)
  | object {members : List (String × Node)} {fields : List (String × Bool × Shape)} :
      Offers whole (.object members fields) (.object members fields)
  | list {element : Shape} : Offers whole (.list element) (.list element)
  | record {value : Shape} : Offers whole (.record value) (.record value)
  | null {inner : Shape} : Offers whole (.nullable inner) (.text "null")
  | nullable {inner alt : Shape} : Offers whole inner alt → Offers whole (.nullable inner) alt
  | option {option alt : Shape} {options : List Shape} :
      option ∈ options → Offers whole option alt → Offers whole (.union options) alt
  | described {ref : Ref} {inner alt : Shape} :
      Offers whole inner alt → Offers whole (.described ref inner) alt
  | named {ref : Ref} {name : Json} {inner alt : Shape} :
      Part (.described ref inner) whole → Offers whole inner alt → Offers whole (.named ref name) alt

/-- Whether a shape offers null: one of its alternatives is written so. -/
def OffersNull (whole s : Shape) : Prop :=
  ∃ alt, Offers whole s alt ∧ alt.render = .ok (.str "null")

def OffersPlainNull (whole s : Shape) : Prop :=
  ∃ alt, Offers whole s alt ∧ alt.render = .ok (.str "null") ∧ ∀ value, alt ≠ .literal value

variable {g : Graph} {whole : Shape}

theorem text_of_pure {a b : String} (h : (pure (.str a) : Except Fault Json) = .ok (.str b)) :
    a = b :=
  Json.str.inj (Except.ok.inj h)

theorem ne_null_of_last (text : String) {last : String} {c : Char}
    (hc : last.toList.getLast? = some c) (hne : c ≠ 'l') : text ++ last ≠ "null" := by
  intro h
  have hl := congrArg (fun t => t.toList.getLast?) h
  simp only [String.toList_append, List.getLast?_append, hc, Option.some_or] at hl
  exact hne (Option.some.inj hl)

/-- What is written as null without being a literal is the word itself. -/
theorem offersPlainNull_iff {s : Shape} : OffersPlainNull whole s ↔ Offers whole s (.text "null") := by
  constructor
  · rintro ⟨alt, ho, hr, hl⟩
    induction ho with
    | text =>
      cases hr
      exact .text
    | literal => exact absurd rfl (hl _)
    | object =>
      obtain ⟨texts, -, hr⟩ := ok_of_bind hr
      exact absurd (text_of_pure hr) (ne_null_of_last _ rfl (by decide))
    | list =>
      obtain ⟨value, -, hr⟩ := ok_of_bind hr
      obtain ⟨grouped, -, hr⟩ := ok_of_bind hr
      exact absurd (text_of_pure hr) (ne_null_of_last _ rfl (by decide))
    | record =>
      obtain ⟨value, -, hr⟩ := ok_of_bind hr
      exact absurd (text_of_pure hr) (ne_null_of_last _ rfl (by decide))
    | null => exact .null
    | nullable _ ih => exact .nullable (ih hr hl)
    | option hm _ ih => exact .option hm (ih hr hl)
    | described _ ih => exact .described (ih hr hl)
    | named hp _ ih => exact .named hp (ih hr hl)
  · exact fun ho => ⟨_, ho, rfl, fun _ => Shape.noConfusion⟩

/-! ## Names stand for descriptions -/

/-- Every name in a shape is that of an active deferred node or of one that is described. -/
def Scoped (active : List Ref) (s : Shape) : Prop :=
  ∀ ref name, Part (.named ref name) s → ref ∈ active ∨ ∃ inner, Part (.described ref inner) s

/-- A name in a shape that stands in one of its parts. -/
theorem Scoped.lift {active : List Ref} {s part : Shape} {ref : Ref} {name : Json}
    (h : Scoped active part) (hn : Part (.named ref name) part) (hp : Part part s) :
    ref ∈ active ∨ ∃ inner, Part (.described ref inner) s := by
  rcases h ref name hn with hm | ⟨inner, hi⟩
  · exact .inl hm
  · exact .inr ⟨inner, hi.trans hp⟩

section Step

variable {inner : List Ref → Node → Shape} {active : List Ref}

theorem scoped_text (words : String) : Scoped active (.text words) := by
  intro ref name h
  cases h

theorem scoped_enumShape (values : Json) : Scoped active (enumShape values) := by
  intro ref name h
  unfold enumShape at h
  split at h
  · split at h
    · cases h with
      | option hm h =>
        obtain ⟨item, -, rfl⟩ := List.mem_map.mp hm
        cases h
    · cases h
  · cases h

theorem scoped_shapeOf {α : Type} {result : Except Fault α} {shape : α → Shape}
    (h : ∀ a, result = .ok a → Scoped active (shape a)) : Scoped active (shapeOf result shape) := by
  cases result with
  | error fault =>
    intro ref name hn
    cases hn
  | ok a => exact h a rfl

theorem scoped_element {s : Shape} (h : Scoped active s) : Scoped active (.list s) := by
  intro ref name hn
  cases hn with
  | element hn => exact h.lift hn (.element .self)

theorem scoped_value {s : Shape} (h : Scoped active s) : Scoped active (.record s) := by
  intro ref name hn
  cases hn with
  | value hn => exact h.lift hn (.value .self)

theorem step_scoped (hi : ∀ active node, Scoped active (inner active node)) (node : Node) :
    Scoped active (shapeStep g inner active node) := by
  have hif {c : Bool} {node : Node} {words : String} :
      Scoped active (if c then .text words else inner active node) := by
    cases c with
    | true => exact scoped_text words
    | false => exact hi active node
  cases node with
  | foreign value => exact scoped_text _
  | thunk ref => exact scoped_text _
  | bare description inner => exact scoped_text _
  | literal description value =>
    intro ref name h
    cases h
  | primitive description name => exact scoped_shapeOf fun word _ => scoped_text word
  | object description members =>
    intro ref name h
    cases h with
    | field hm h =>
      obtain ⟨m, -, he⟩ := List.mem_map.mp hm
      cases he
      exact (hi active m.2).lift h (.field hm .self)
  | array description candidates low high =>
    exact scoped_shapeOf fun element _ => scoped_element hif
  | enumeration description values => exact scoped_enumShape values
  | memberEnum description source => exact scoped_enumShape _
  | record description key value => exact scoped_value hif
  | union description nodes =>
    intro ref name h
    cases h with
    | option hm h =>
      obtain ⟨node, -, rfl⟩ := List.mem_map.mp hm
      exact (hi active node).lift h (.option hm .self)
  | lazy description name ref =>
    rw [shapeStep]
    cases hc : active.contains ref with
    | true =>
      intro ref' name' h
      cases h
      exact .inl (List.contains_iff_mem.mp hc)
    | false =>
      rw [if_neg Bool.false_ne_true]
      refine scoped_shapeOf fun target _ ref' name' h => ?_
      cases h with
      | described h =>
        rcases (hi (ref :: active) target) ref' name' h with hm | ⟨inner, hp⟩
        · rcases List.mem_cons.mp hm with rfl | hm
          · exact .inr ⟨_, .self⟩
          · exact .inl hm
        · exact .inr ⟨inner, .described hp⟩
  | wrapper description form inner =>
    cases form with
    | optional => exact hi active inner
    | nullable =>
      intro ref name h
      cases h with
      | nullable h => exact (hi active inner).lift h (.nullable .self)
    | plain | default | caught | readonly | branded | effects => exact hif
  | pipeline description inner source => exact hif

end Step

theorem within_scoped (g : Graph) (nesting : Nat) (active : List Ref) (node : Node) :
    Scoped active (shapeWithin g nesting active node) := by
  induction nesting generalizing active node with
  | zero =>
    intro ref name h
    cases h
  | succ nesting ih => exact step_scoped ih node

/-! ## Null -/

/-- A whole description in which every name is that of a described node, and every described node is
that of its reference. -/
structure Whole (g : Graph) (whole : Shape) : Prop where
  names : ∀ ref name, Part (.named ref name) whole → ∃ inner, Part (.described ref inner) whole
  targets : ∀ ref inner, Part (.described ref inner) whole →
    ∃ target, g.resolve ref = .ok target ∧ Shows g target.shown inner

theorem whole_of_renders {node : Node} (hr : (shape g node).Renders) : Whole g (shape g node) where
  names ref name hp := by
    rcases within_scoped g _ [] node ref name hp with hm | h
    · cases hm
    · exact h
  targets ref inner hp := by
    obtain ⟨_, hs⟩ := Shows.exists_part hp (within_shows g _ [] node hr)
    cases hs with
    | described ht hs => exact ⟨_, ht, hs⟩

/-- A node admits what is admitted under the wrappers that are not shown. -/
theorem admits_of_shown {value : Json} : (node : Node) → node.shown.Admits g value →
    node.Admits g value
  | .wrapper _ form inner, h => by
    rw [Node.shown] at h
    split at h
    · exact h
    · exact .wrapper (admits_of_shown inner h)
  | .pipeline _ inner source, h => by
    rw [Node.shown] at h
    refine .pipeline ?_
    cases ha : inner.isAbsent with
    | true =>
      rw [ha] at h
      exact admits_of_shown source h
    | false =>
      rw [ha] at h
      exact admits_of_shown inner h
  | .foreign _, h | .thunk _, h | .bare .., h | .primitive .., h | .literal .., h | .object .., h
  | .array .., h | .enumeration .., h | .memberEnum .., h | .record .., h | .union .., h
  | .lazy .., h => h

theorem primitiveWord_null {name : Json} (h : primitiveWord name = .ok "null") :
    name = .str "null" := by
  unfold primitiveWord at h
  split at h
  · cases name with
    | str text =>
      cases hf : Json.find? text primitiveWords with
      | none => simp [Json.toStr?, hf] at h
      | some word =>
        have hm := Json.mem_of_find? hf
        simp only [Json.toStr?, Option.bind_some, hf, Option.getD_some, Except.ok.injEq] at h
        subst h
        simpa [primitiveWords] using hm
    | null | bool | int | float | arr | obj => simp [Json.toStr?] at h
  · cases h

/-- Where null is offered as a word, the node admits it. -/
theorem admits_of_offers (hw : Whole g whole) {s alt : Shape} (h : Offers whole s alt)
    (ha : alt = .text "null") : ∀ {node : Node}, Shows g node s → node.Admits g .null := by
  induction h with
  | text =>
    intro node hs
    cases hs with
    | primitive hp =>
      cases ha
      rw [primitiveWord_null hp]
      exact .primitive rfl
    | foreign | thunk | bare | anyString => exact absurd (Shape.text.inj ha) (by decide)
  | literal | object | list | record => cases ha
  | null =>
    intro node hs
    cases hs with
    | nullable hn => exact .null hn
  | nullable _ ih =>
    intro node hs
    cases hs with
    | nullable _ hs => exact .wrapper (admits_of_shown _ (ih ha hs))
  | option hm ho ih =>
    intro node hs
    cases hs with
    | union shape hall =>
      obtain ⟨option, hmem, rfl⟩ := List.mem_map.mp hm
      exact .union hmem (admits_of_shown _ (ih ha (hall option hmem)))
    | enumeration =>
      obtain ⟨item, -, rfl⟩ := List.mem_map.mp hm
      subst ha
      cases ho
  | described _ ih =>
    intro node hs
    cases hs with
    | described ht hs => exact .lazy ht (admits_of_shown _ (ih ha hs))
  | named hp _ ih =>
    intro node hs
    obtain ⟨target, ht, hinner⟩ := hw.targets _ _ hp
    cases hs with
    | named => exact .lazy ht (admits_of_shown _ (ih ha hinner))

theorem literalType_ne_null (value : Json) : Baml.Translation.literalType value ≠ "null" := by
  unfold Baml.Translation.literalType
  split
  · decide
  · decide
  · split <;> decide
  · decide

/-- Where a node of a document admits null, null is offered as a word. -/
theorem offers_of_admits (hw : Whole g whole) (hg : g.AllParsed) {node : Node}
    (h : node.Admits g .null) : ∀ {s : Shape}, Parsed node → Shows g node.shown s → Part s whole →
      Offers whole s (.text "null") := by
  generalize hv : Json.null = value at h
  induction h with
  | primitive ht =>
    intro s _ hs _
    subst hv
    cases hs with
    | primitive hp =>
      cases ht
      cases hp
      exact .text
    | anyString hv | enumeration hv => cases hv
  | literal ht =>
    subst hv
    exact absurd ht (literalType_ne_null _)
  | array | strings | oneOf | anyString | record | object => cases hv
  | union hm _ ih =>
    intro s hp hs hpart
    cases hp with
    | union hp =>
      cases hs with
      | union shape hall =>
        have ho : shape _ ∈ _ := List.mem_map_of_mem hm
        exact .option ho (ih hv (hp _ hm) (hall _ hm) (Part.trans (.option ho .self) hpart))
      | anyString hv | enumeration hv => cases hv
  | null hn =>
    intro s _ hs _
    rw [Node.shown, if_pos hn] at hs
    cases hs with
    | nullable => exact .null
    | anyString hv | enumeration hv => cases hv
  | @wrapper description value form inner _ ih =>
    intro s hp hs hpart
    cases hp with
    | wrapper hp =>
      rw [Node.shown] at hs
      split at hs
      · cases hs with
        | nullable _ hs => exact .nullable (ih hv hp hs (Part.trans (.nullable .self) hpart))
        | anyString hv | enumeration hv => cases hv
      · exact ih hv hp hs hpart
  | pipeline | bare =>
    intro s hp
    cases hp
  | lazy ht _ ih =>
    intro s _ hs hpart
    cases hs with
    | named =>
      obtain ⟨inner, hi⟩ := hw.names _ _ hpart
      obtain ⟨target, ht', hs⟩ := hw.targets _ _ hi
      rw [ht] at ht'
      cases ht'
      exact .named hi (ih hv (hg.resolve_ok ht) hs (Part.trans (.described .self) hi))
    | described ht' hs =>
      rw [ht] at ht'
      cases ht'
      exact .described (ih hv (hg.resolve_ok ht) hs (Part.trans (.described .self) hpart))
    | anyString hv | enumeration hv => cases hv

end StructuredOutput.Hint
