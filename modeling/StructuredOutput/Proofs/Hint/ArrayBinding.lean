import StructuredOutput.Proofs.Hint.Parts
import StructuredOutput.Proofs.Json.QuotedText

/-! # How the suffix of an array binds

An array is described by its element with a suffix behind it, and an element that is several alternatives
has to stand in parentheses for that. Whether it is several is read off its text: by a bar outside all
brackets. But a text also holds what is quoted, keys and names, and brackets and bars in these count, too.

`bars` lists the depths at which the bars of a text stand. A text is calm when its brackets are balanced
and each of its bars stands inside brackets of its own. Arrays bind right as long as the texts inside are
calm, and each text that is not calm makes one bind wrongly. -/
namespace StructuredOutput.Hint

open Schema (Graph Node Ref)

/-! ## The depths of bars -/

def turn (c : Char) : Int := if Baml.opens c then 1 else if Baml.closes c then -1 else 0

def net : List Char → Int
  | [] => 0
  | c :: rest => turn c + net rest

/-- The depths at which the bars of a text stand, counted from its start. -/
def bars : List Char → List Int
  | [] => []
  | c :: rest => (if c = '|' then [0] else []) ++ (bars rest).map (turn c + ·)

@[simp] theorem net_append (first second : List Char) : net (first ++ second) = net first + net second := by
  induction first with
  | nil => simp [net]
  | cons c rest ih => rw [List.cons_append, net, net, ih, Int.add_assoc]

@[simp] theorem bars_append (first second : List Char) :
    bars (first ++ second) = bars first ++ (bars second).map (net first + ·) := by
  induction first with
  | nil => simp [bars, net]
  | cons c rest ih =>
    rw [List.cons_append, bars, ih, bars, net, List.map_append, List.map_map, List.append_assoc]
    simp [Function.comp_def, Int.add_assoc]

/-- A bar is found outside all brackets if one stands at the depth that is left over. -/
theorem barOutside_iff (depth : Int) (chars : List Char) :
    Baml.barOutside depth chars = true ↔ -depth ∈ bars chars := by
  induction chars generalizing depth with
  | nil => simp [Baml.barOutside, bars]
  | cons c rest ih =>
    rw [Baml.barOutside, bars]
    by_cases ho : Baml.opens c = true
    · have hbar : c ≠ '|' := by rintro rfl; revert ho; decide
      have hturn : turn c = 1 := by rw [turn, if_pos ho]
      rw [if_pos ho, ih, if_neg hbar, hturn, List.nil_append, List.mem_map]
      refine ⟨fun h => ⟨_, h, by omega⟩, ?_⟩
      rintro ⟨level, h, he⟩
      rwa [show -(depth + 1) = level by omega]
    rw [if_neg ho]
    by_cases hc : Baml.closes c = true
    · have hbar : c ≠ '|' := by rintro rfl; revert hc; decide
      have hturn : turn c = -1 := by rw [turn, if_neg ho, if_pos hc]
      rw [if_pos hc, ih, if_neg hbar, hturn, List.nil_append, List.mem_map]
      refine ⟨fun h => ⟨_, h, by omega⟩, ?_⟩
      rintro ⟨level, h, he⟩
      rwa [show -(depth - 1) = level by omega]
    have hturn : turn c = 0 := by rw [turn, if_neg ho, if_neg hc]
    simp only [if_neg hc, hturn, Int.zero_add, List.map_id']
    by_cases hbar : c = '|'
    · by_cases hd : depth = 0
      · simp [hbar, hd]
      · rw [if_neg (by simp [hd]), ih, if_pos hbar, List.singleton_append, List.mem_cons]
        exact ⟨.inr, fun h => h.resolve_left (by omega)⟩
    · simp [hbar, ih]

theorem isUnion_iff (text : String) : Baml.isUnion text = true ↔ 0 ∈ bars text.toList := by
  rw [Baml.isUnion, barOutside_iff, Int.neg_zero]

/-! ## Calm texts -/

/-- Whether the brackets of a text are balanced and no bar stands less deep than given. -/
structure Level (low : Int) (text : String) : Prop where
  net : net text.toList = 0
  bars : ∀ level ∈ bars text.toList, low ≤ level

abbrev Calm (text : String) : Prop := Level 1 text

theorem Calm.of_level {text : String} (h : Level 0 text) (hnone : 0 ∉ bars text.toList) : Calm text :=
  ⟨h.net, fun level hm => by
    have hlow := h.bars level hm
    have hne : level ≠ 0 := fun he => hnone (he ▸ hm)
    omega⟩

theorem Calm.level {text : String} (h : Calm text) : Level 0 text :=
  ⟨h.net, fun level hm => by have hlow := h.bars level hm; omega⟩

theorem Calm.no_bar {text : String} (h : Calm text) : 0 ∉ bars text.toList :=
  fun hm => by have hlow := h.bars 0 hm; omega

theorem Level.append {low : Int} {first second : String} (h : Level low first)
    (h' : Level low second) : Level low (first ++ second) := by
  constructor
  · simp [h.net, h'.net]
  · intro level hm
    simp only [String.toList_append, bars_append, h.net, Int.zero_add, List.map_id', List.mem_append] at hm
    exact hm.elim (h.bars level) (h'.bars level)

/-- Between brackets a text is calm as soon as no bar leaves them. -/
theorem Calm.between {left right inner : String} (hleft : net left.toList = 1)
    (hright : net right.toList = -1) (hl : bars left.toList = []) (hr : bars right.toList = [])
    (h : Level 0 inner) : Calm (left ++ inner ++ right) := by
  constructor
  · simp [hleft, hright, h.net]
  · intro level hm
    simp only [String.toList_append, bars_append, hl, hr, hleft, List.nil_append, List.map_nil,
      List.append_nil, List.mem_map] at hm
    obtain ⟨inside, hm, rfl⟩ := hm
    have hlow := h.bars inside hm
    omega

theorem level_join {separator : String} (hs : Level 0 separator) {texts : List String}
    (h : ∀ text ∈ texts, Level 0 text) : Level 0 (Json.join separator texts) := by
  induction texts with
  | nil => exact ⟨rfl, nofun⟩
  | cons text rest ih =>
    obtain ⟨hfirst, hrest⟩ := List.forall_mem_cons.mp h
    cases rest with
    | nil => exact hfirst
    | cons => exact (hfirst.append hs).append (ih hrest)

theorem calm_of_plain {text : String} (h : ∀ c ∈ text.toList, turn c = 0 ∧ c ≠ '|') : Calm text := by
  suffices hall : ∀ chars : List Char, (∀ c ∈ chars, turn c = 0 ∧ c ≠ '|') →
      net chars = 0 ∧ bars chars = [] from
    ⟨(hall _ h).1, fun level hm => by rw [(hall _ h).2] at hm; cases hm⟩
  intro chars
  induction chars with
  | nil => exact fun _ => ⟨rfl, rfl⟩
  | cons c rest ih =>
    intro h
    obtain ⟨⟨hturn, hbar⟩, hrest⟩ := List.forall_mem_cons.mp h
    obtain ⟨hnet, hbars⟩ := ih hrest
    exact ⟨by rw [net, hturn, hnet, Int.zero_add], by rw [bars, hbars, if_neg hbar]; rfl⟩

/-- Behind a balanced text the depths of another one stay what they are. -/
theorem mem_bars_append {level : Int} {first second : String} (h : net first.toList = 0) :
    level ∈ bars (first ++ second).toList ↔ level ∈ bars first.toList ∨ level ∈ bars second.toList := by
  rw [String.toList_append, bars_append, h, List.mem_append]
  simp

theorem calm_group {text : String} (h : Level 0 text) : Calm (Baml.group text) := by
  unfold Baml.group
  split
  · exact .between (by decide) (by decide) (by decide) (by decide) h
  · rename_i hbar
    exact .of_level h fun hm => hbar ((isUnion_iff text).mpr hm)

/-! ## Quoted texts -/

theorem escape_depths (c : Char) :
    net (Json.escape c) = turn c ∧ bars (Json.escape c) = if c = '|' then [0] else [] := by
  have h := Json.escaped_escape c
  generalize Json.escape c = chars at h
  cases h with
  | plain => simp [net, bars]
  | short h =>
    have hall : ∀ p ∈ Json.shorts, net ['\\', p.2] = turn p.1 ∧
        bars ['\\', p.2] = if p.1 = '|' then [0] else [] := by decide
    exact hall _ h
  | control h =>
    have hall : (List.range 32).all (fun n => decide (net ('\\' :: 'u' :: Json.hex4 n) = 0 ∧
        bars ('\\' :: 'u' :: Json.hex4 n) = [])) = true := by decide
    have hsigns : ('|' :: (Baml.openers ++ Baml.closers)).all (fun sign => 32 ≤ sign.toNat) = true := by
      decide
    have hno : c ∉ '|' :: (Baml.openers ++ Baml.closers) := fun hm => by
      have hle := of_decide_eq_true (List.all_eq_true.mp hsigns c hm)
      omega
    simp only [List.mem_cons, List.mem_append, not_or] at hno
    obtain ⟨hbar, hopens, hcloses⟩ := hno
    have hturn : turn c = 0 := by simp [turn, Baml.opens, Baml.closes, hopens, hcloses]
    rw [hturn, if_neg hbar]
    exact of_decide_eq_true (List.all_eq_true.mp hall _ (List.mem_range.mpr h))

theorem encode_depths (chars : List Char) :
    net (Json.encode chars) = net chars ∧ bars (Json.encode chars) = bars chars := by
  induction chars with
  | nil => exact ⟨rfl, rfl⟩
  | cons c rest ih =>
    obtain ⟨hnet, hbars⟩ := escape_depths c
    have hcons : Json.encode (c :: rest) = Json.escape c ++ Json.encode rest := rfl
    rw [hcons, net_append, bars_append, hnet, hbars, ih.1, ih.2]
    exact ⟨rfl, rfl⟩

/-- Quotes and escapes do not count: a quoted text has the depths of the text. -/
theorem quoteString_depths (text : String) :
    net (Json.quoteString text).toList = net text.toList ∧
      bars (Json.quoteString text).toList = bars text.toList := by
  obtain ⟨hnet, hbars⟩ := encode_depths text.toList
  have hquote : net ['\x22'] = 0 ∧ bars ['\x22'] = [] := by decide
  have hchars : (Json.quoteString text).toList =
      ['\x22'] ++ (Json.encode text.toList ++ ['\x22']) := by simp [Json.quoteString]
  rw [hchars, net_append, net_append, bars_append, bars_append, hnet, hbars, hquote.1, hquote.2]
  simp

theorem level_quoteString {low : Int} {text : String} :
    Level low (Json.quoteString text) ↔ Level low text := by
  obtain ⟨hnet, hbars⟩ := quoteString_depths text
  constructor
  · exact fun h => ⟨hnet ▸ h.net, hbars ▸ h.bars⟩
  · exact fun h => ⟨hnet.trans h.net, hbars.symm ▸ h.bars⟩

/-! ## The alternatives of a shape -/

/-- Whether a shape is written as several alternatives. -/
inductive Shape.Several : Shape → Prop
  | nullable {inner : Shape} : Shape.Several (.nullable inner)
  | union {options : List Shape} : 2 ≤ options.length → Shape.Several (.union options)
  | single {option : Shape} : Shape.Several option → Shape.Several (.union [option])
  | described {ref : Ref} {inner : Shape} : Shape.Several inner → Shape.Several (.described ref inner)

/-- Whether what a shape holds itself is calm: what it quotes, a name, and the keys of its fields, which
stand inside the brackets of the object. -/
def Shape.HoldsCalm : Shape → Prop
  | text words => Calm words
  | literal value => Calm value.quote
  | object _ fields => ∀ field ∈ fields, Level 0 field.1
  | named _ name => ∃ text, nameOf name = .str text ∧ Calm text
  | _ => True

/-- Whether all that is held in a shape is calm, at any depth. -/
def Shape.AllCalm (s : Shape) : Prop := ∀ part, Part part s → part.HoldsCalm

theorem Shape.AllCalm.part {part whole : Shape} (h : whole.AllCalm) (hp : Part part whole) :
    part.AllCalm :=
  fun inner hi => h inner (hi.trans hp)

/-- A text that is written for a shape whose texts are calm: its brackets are balanced, no bar leaves them,
and one stands outside all of them exactly if the shape is several alternatives. -/
structure Written (s : Shape) (text : String) : Prop where
  level : Level 0 text
  bar : 0 ∈ bars text.toList ↔ s.Several

theorem Written.of_calm {s : Shape} {text : String} (h : Calm text) (hs : ¬ s.Several) :
    Written s text :=
  ⟨h.level, iff_of_false h.no_bar hs⟩

/-- Alternatives are several if there are two of them, or if the only one is. -/
theorem written_join {options : List Shape} {texts : List String}
    (h : List.Forall₂ Written options texts) : Written (.union options) (Json.join " | " texts) := by
  have hseparator : Level 0 " | " := by constructor <;> decide
  have hlevels : ∀ text ∈ texts, Level 0 text := by
    induction h with
    | nil => exact List.forall_mem_nil _
    | cons hw _ ih => exact List.forall_mem_cons.mpr ⟨hw.level, ih⟩
  refine ⟨level_join hseparator hlevels, ?_⟩
  match options, texts, h with
  | [], _, .nil => exact iff_of_false nofun nofun
  | [option], [text], .cons hw .nil =>
    refine hw.bar.trans ⟨.single, fun hs => ?_⟩
    cases hs with
    | union hlength => exact absurd hlength (by simp)
    | single hs => exact hs
  | _ :: _ :: _, text :: next :: rest, .cons hw (.cons _ _) =>
    refine iff_of_true ?_ (.union (by simp))
    have hbar : 0 ∈ bars (text ++ " | ").toList := (mem_bars_append hw.level.net).mpr (.inr (by decide))
    exact (mem_bars_append (hw.level.append hseparator).net).mpr (.inl hbar)

mutual

theorem render_written : (s : Shape) → s.AllCalm → ∀ {value : Json}, s.render = .ok value →
    ∃ text, value = .str text ∧ Written s text
  | .text words, hc, _, h => by
    cases h
    exact ⟨words, rfl, .of_calm (hc _ .self) nofun⟩
  | .literal value, hc, _, h => by
    cases h
    exact ⟨_, rfl, .of_calm (hc _ .self) nofun⟩
  | .nullable inner, hc, _, h => by
    obtain ⟨value, hv, h⟩ := ok_of_bind h
    cases h
    obtain ⟨text, rfl, hw⟩ := render_written inner (hc.part (.nullable .self)) hv
    have hsuffix : Level 0 " | null" := by constructor <;> decide
    exact ⟨_, rfl, hw.level.append hsuffix,
      iff_of_true ((mem_bars_append hw.level.net).mpr (.inr (by decide))) .nullable⟩
  | .object members fields, hc, _, h => by
    obtain ⟨texts, ht, h⟩ := ok_of_bind h
    cases h
    have hcomma : Level 0 ", " := by constructor <;> decide
    have hfields := level_join hcomma (renderFields_level fields
      (fun field hm => ⟨hc _ .self field hm, hc.part (.field hm .self)⟩) ht)
    exact ⟨_, rfl, .of_calm (.between (by decide) (by decide) (by decide) (by decide) hfields) nofun⟩
  | .list element, hc, _, h => by
    obtain ⟨value, hv, h⟩ := ok_of_bind h
    obtain ⟨text, rfl, hw⟩ := render_written element (hc.part (.element .self)) hv
    rw [Json.Call.group_text] at h
    cases h
    have hsuffix : Calm "[]" := by constructor <;> decide
    exact ⟨_, rfl, .of_calm ((calm_group hw.level).append hsuffix) nofun⟩
  | .union options, hc, _, h => by
    obtain ⟨values, hv, h⟩ := ok_of_bind h
    obtain ⟨texts, rfl, hall⟩ :=
      renderAll_written options (fun option hm => hc.part (.option hm .self)) hv
    rw [textOf_map] at h
    cases h
    exact ⟨_, rfl, written_join hall⟩
  | .record value, hc, _, h => by
    obtain ⟨value', hv, h⟩ := ok_of_bind h
    cases h
    obtain ⟨text, rfl, hw⟩ := render_written value (hc.part (.value .self)) hv
    exact ⟨_, rfl, .of_calm (.between (by decide) (by decide) (by decide) (by decide) hw.level) nofun⟩
  | .described ref inner, hc, _, h => by
    obtain ⟨text, rfl, hw⟩ := render_written inner (hc.part (.described .self)) h
    refine ⟨text, rfl, hw.level, hw.bar.trans ⟨.described, fun hs => ?_⟩⟩
    cases hs with
    | described hs => exact hs
  | .named ref name, hc, _, h => by
    cases h
    obtain ⟨text, ht, hcalm⟩ := hc _ .self
    exact ⟨text, ht, .of_calm hcalm nofun⟩
  | .fault fault, _, _, h => by cases h

theorem renderFields_level : (fields : List (String × Bool × Shape)) →
    (∀ field ∈ fields, Level 0 field.1 ∧ field.2.2.AllCalm) → ∀ {texts : List String},
      Shape.renderFields fields = .ok texts → ∀ text ∈ texts, Level 0 text
  | [], _, _, h => by
    cases h
    exact List.forall_mem_nil _
  | (key, optional, shape) :: rest, hc, _, h => by
    obtain ⟨⟨hkey, hshape⟩, hrest⟩ := List.forall_mem_cons.mp hc
    obtain ⟨value, hv, h⟩ := ok_of_bind h
    obtain ⟨others, ho, h⟩ := ok_of_bind h
    cases h
    obtain ⟨text, rfl, hw⟩ := render_written shape hshape hv
    have hmark : Level 0 (if optional then "?" else "") := by
      cases optional <;> constructor <;> decide
    have hcolon : Level 0 ": " := by constructor <;> decide
    exact List.forall_mem_cons.mpr ⟨((hkey.append hmark).append hcolon).append hw.level,
      renderFields_level rest hrest ho⟩

theorem renderAll_written : (options : List Shape) → (∀ option ∈ options, option.AllCalm) →
    ∀ {values : List Json}, Shape.renderAll options = .ok values →
      ∃ texts : List String, values = texts.map .str ∧ List.Forall₂ Written options texts
  | [], _, _, h => by
    cases h
    exact ⟨[], rfl, .nil⟩
  | option :: rest, hc, _, h => by
    obtain ⟨hoption, hrest⟩ := List.forall_mem_cons.mp hc
    obtain ⟨value, hv, h⟩ := ok_of_bind h
    obtain ⟨others, ho, h⟩ := ok_of_bind h
    cases h
    obtain ⟨text, rfl, hw⟩ := render_written option hoption hv
    obtain ⟨texts, rfl, hall⟩ := renderAll_written rest hrest ho
    exact ⟨text :: texts, rfl, .cons hw hall⟩

end

/-! ## The alternatives of a node -/

/-- Whether a node is described by several alternatives: it may be null, or is an enumeration of two or
more values or a union of two or more options. Other wrappers are peeled, a deferred node that is not
active is resolved, and a union of one option is that option. -/
inductive Several (g : Graph) : List Ref → Node → Prop
  | nullable {active : List Ref} {description : Json} {inner : Node} :
      Several g active (.wrapper description .nullable inner)
  | enumeration {active : List Ref} {node : Node} {values : Json} {items : List Json} :
      node.enumValues? = some values → values.elements? = some items → 2 ≤ items.length →
      Several g active node
  | union {active : List Ref} {description : Json} {options : List Node} : 2 ≤ options.length →
      Several g active (.union description options)
  | single {active : List Ref} {description : Json} {option : Node} : Several g active option →
      Several g active (.union description [option])
  | wrapper {active : List Ref} {description : Json} {form : Schema.Wrapper} {inner : Node} :
      Several g active inner → Several g active (.wrapper description form inner)
  | pipeline {active : List Ref} {description : Json} {inner source : Node} :
      Several g active (if inner.isAbsent then source else inner) →
      Several g active (.pipeline description inner source)
  | behind {active : List Ref} {description name : Json} {ref : Ref} {target : Node} :
      active.contains ref = false → g.resolve ref = .ok target → Several g (ref :: active) target →
      Several g active (.lazy description name ref)

variable {g : Graph} {active : List Ref} {node : Node}

theorem Several.not_absent (h : Several g active node) : node.isAbsent = false := by
  cases node with
  | foreign =>
    cases h with
    | enumeration hv => cases hv
  | thunk | bare | primitive | literal | object | array | enumeration | memberEnum | record | union | lazy
  | wrapper | pipeline => rfl

theorem truthy_of_elements {values : Json} {items : List Json} (h : values.elements? = some items)
    (hne : items ≠ []) : values.truthy = true := by
  cases values with
  | null | bool | int | float => cases h
  | str text =>
    cases h
    have hchars : text.toList ≠ [] := by simpa using hne
    simpa [Json.truthy, String.toList_eq_nil_iff] using hchars
  | arr found =>
    cases h
    simpa [Json.truthy] using hne
  | obj members =>
    cases h
    simpa [Json.truthy] using hne

/-- The shape of an enumeration is several alternatives if it has two values. -/
theorem enumShape_several {values : Json} :
    (enumShape values).Several ↔ ∃ items, values.elements? = some items ∧ 2 ≤ items.length := by
  unfold enumShape
  cases he : values.elements? with
  | none =>
    refine iff_of_false (fun hs => ?_) nofun
    split at hs <;> cases hs
  | some items =>
    cases ht : values.truthy with
    | false =>
      refine iff_of_false nofun ?_
      rintro ⟨_, he', hlength⟩
      cases he'
      have hne : items ≠ [] := by rintro rfl; simp at hlength
      rw [truthy_of_elements he hne] at ht
      cases ht
    | true =>
      simp only [if_true, Option.some.injEq, exists_eq_left']
      constructor
      · intro hs
        generalize hoptions : items.map Shape.literal = options at hs
        cases hs with
        | union hlength => simpa [← hoptions] using hlength
        | single hs =>
          obtain ⟨item, -, rfl⟩ := List.mem_map.mp (hoptions ▸ List.mem_cons_self)
          cases hs
      · exact fun hlength => .union (by simpa using hlength)

/-- Without values of an enumeration, and with nothing inside that counts, a node is no alternatives. -/
theorem enumeration_several {values : Json} (hv : node.enumValues? = some values) :
    (enumShape values).Several ↔ Several g active node := by
  rw [enumShape_several]
  constructor
  · exact fun ⟨items, he, hlength⟩ => .enumeration hv he hlength
  · intro hs
    cases hs with
    | enumeration hv' he hlength =>
      cases hv.symm.trans hv'
      exact ⟨_, he, hlength⟩
    | nullable | union | single | wrapper | pipeline | behind => cases hv

theorem wrapper_several {description : Json} {form : Schema.Wrapper} {part : Node}
    (hn : form.isNullable = false) :
    Several g active (.wrapper description form part) ↔ Several g active part := by
  refine ⟨fun hs => ?_, .wrapper⟩
  cases hs with
  | nullable => cases hn
  | enumeration hv => cases hv
  | wrapper hs => exact hs

/-- What is absent is one word, and no alternatives. -/
theorem unless_absent {part : Node} {s : Shape}
    (h : part.isAbsent = false → (s.Several ↔ Several g active part)) :
    (if part.isAbsent then .text "unknown" else s : Shape).Several ↔ Several g active part := by
  cases ha : part.isAbsent with
  | true =>
    refine iff_of_false nofun fun hs => ?_
    rw [hs.not_absent] at ha
    cases ha
  | false => exact h ha

section Step

variable {inner : List Ref → Node → Shape}

theorem step_several (hi : ∀ active part, (inner active part).Renders →
      ((inner active part).Several ↔ Several g active part))
    (hr : (shapeStep g inner active node).Renders) :
    (shapeStep g inner active node).Several ↔ Several g active node := by
  cases node with
  | foreign | thunk | bare | literal | object | record =>
    refine iff_of_false nofun fun hs => ?_
    cases hs with
    | enumeration hv => cases hv
  | primitive description name =>
    rw [shapeStep]
    refine iff_of_false (fun hs => ?_) fun hs => ?_
    · cases hw : primitiveWord name <;> rw [hw] at hs <;> cases hs
    · cases hs with
      | enumeration hv => cases hv
  | array description candidates low high =>
    rw [shapeStep]
    refine iff_of_false (fun hs => ?_) fun hs => ?_
    · cases he : g.element candidates <;> rw [he] at hs <;> cases hs
    · cases hs with
      | enumeration hv => cases hv
  | enumeration description values => exact enumeration_several rfl
  | memberEnum description source => exact enumeration_several rfl
  | union description options =>
    rw [shapeStep] at hr ⊢
    constructor
    · intro hs
      generalize hshapes : options.map (inner active) = shapes at hs hr
      cases hs with
      | union hlength => exact .union (by simpa [← hshapes] using hlength)
      | single hs =>
        obtain ⟨option, rfl, rfl⟩ := List.map_eq_singleton_iff.mp hshapes
        exact .single ((hi active option (Part.renders (.option List.mem_cons_self .self) hr)).mp hs)
    · intro hs
      cases hs with
      | enumeration hv => cases hv
      | union hlength => exact .union (by simpa using hlength)
      | @single _ _ option hs =>
        exact .single ((hi active option (Part.renders (.option List.mem_cons_self .self) hr)).mpr hs)
  | lazy description name ref =>
    rw [shapeStep] at hr ⊢
    cases hnew : active.contains ref with
    | true =>
      refine iff_of_false (fun hs => ?_) fun hs => ?_
      · cases hs
      · cases hs with
        | enumeration hv => cases hv
        | behind hnew' =>
          rw [hnew] at hnew'
          cases hnew'
    | false =>
      rw [hnew, if_neg Bool.false_ne_true] at hr
      rw [if_neg Bool.false_ne_true]
      cases ht : g.resolve ref with
      | error fault =>
        rw [ht] at hr
        obtain ⟨value, hr⟩ := hr
        cases hr
      | ok target =>
        rw [ht] at hr
        have htarget := hi (ref :: active) target (Part.renders (.described .self) hr)
        constructor
        · intro hs
          cases hs with
          | described hs => exact .behind hnew ht (htarget.mp hs)
        · intro hs
          cases hs with
          | enumeration hv => cases hv
          | behind _ ht' hs =>
            cases ht.symm.trans ht'
            exact .described (htarget.mpr hs)
  | wrapper description form part =>
    cases form with
    | optional => exact (hi active part hr).trans (wrapper_several rfl).symm
    | nullable => exact iff_of_true .nullable .nullable
    | plain | default | caught | readonly | branded | effects =>
      rw [wrapper_several rfl]
      refine unless_absent fun ha => hi active part ?_
      change Shape.Renders (if part.isAbsent then _ else _) at hr
      rwa [ha] at hr
  | pipeline description part source =>
    have hpipeline : Several g active (.pipeline description part source) ↔
        Several g active (if part.isAbsent then source else part) := by
      refine ⟨fun hs => ?_, .pipeline⟩
      cases hs with
      | enumeration hv => cases hv
      | pipeline hs => exact hs
    rw [hpipeline]
    rw [shapeStep] at hr ⊢
    generalize (if part.isAbsent then source else part) = target at hr ⊢
    refine unless_absent fun ha => hi active target ?_
    rwa [ha] at hr

end Step

theorem within_several (g : Graph) (nesting : Nat) (active : List Ref) (node : Node)
    (hr : (shapeWithin g nesting active node).Renders) :
    (shapeWithin g nesting active node).Several ↔ Several g active node := by
  induction nesting generalizing active node with
  | zero =>
    obtain ⟨value, hr⟩ := hr
    cases hr
  | succ nesting ih => exact step_several ih hr

/-! ## Calm strings -/

/-- Whether the strings in a shape are calm, at any depth: what it quotes, its keys, which stand inside the
brackets of an object, and names. -/
structure Shape.CalmStrings (s : Shape) : Prop where
  quoted : ∀ value, Part (.literal value) s → Calm value.quote
  keys : ∀ members fields, Part (.object members fields) s → ∀ field ∈ fields, Level 0 field.1
  names : ∀ ref name, Part (.named ref name) s → ∃ text, nameOf name = .str text ∧ Calm text

theorem calm_words {words : String} (hw : words ∈ "unknown" :: primitiveWords.map (·.2)) :
    Calm words := by
  have hall : ("unknown" :: primitiveWords.map (·.2)).all (fun words =>
      words.toList.all fun c => decide (turn c = 0 ∧ c ≠ '|')) = true := by decide
  exact calm_of_plain fun c hc =>
    of_decide_eq_true (List.all_eq_true.mp (List.all_eq_true.mp hall words hw) c hc)

theorem primitiveWord_calm {name : Json} {words : String} (h : primitiveWord name = .ok words) :
    Calm words := by
  unfold primitiveWord at h
  split at h
  · cases h
    cases hfound : name.toStr?.bind fun name => Json.find? name primitiveWords with
    | none => exact calm_words List.mem_cons_self
    | some found =>
      obtain ⟨key, -, hfound⟩ := Option.bind_eq_some_iff.mp hfound
      exact calm_words (List.mem_cons_of_mem _ (List.mem_map_of_mem (Json.mem_of_find? hfound)))
  · cases h

/-- The words of a description are calm, so it is calm if its strings are. -/
theorem allCalm_of_strings {nesting : Nat} (hr : (shapeWithin g nesting active node).Renders)
    (h : (shapeWithin g nesting active node).CalmStrings) :
    (shapeWithin g nesting active node).AllCalm := by
  intro part hp
  cases part with
  | text words =>
    obtain ⟨_, hs⟩ := Shows.exists_part hp (within_shows g nesting active node hr)
    cases hs with
    | foreign | thunk | bare => exact calm_words List.mem_cons_self
    | primitive hw => exact primitiveWord_calm hw
    | anyString => exact calm_words (by decide)
  | literal value => exact h.quoted value hp
  | object members fields => exact h.keys members fields hp
  | named ref name => exact h.names ref name hp
  | nullable | list | union | record | described | fault => trivial

/-! ## The suffix of an array -/

/-- How an array is to be described whose element has a description: the suffix stands behind it, or
behind parentheses around it if it is several alternatives. -/
def Binds (several : Prop) (inner value : Json) : Prop :=
  (several ∧ value = .str ("(" ++ inner.display ++ ")[]")) ∨
    (¬ several ∧ value = .str (inner.display ++ "[]"))

/-- The parentheses are seen. -/
theorem Binds.iff {p q : Prop} {inner value : Json} (h : Binds p inner value) :
    Binds q inner value ↔ (q ↔ p) := by
  have hne : Json.str ("(" ++ inner.display ++ ")[]") ≠ .str (inner.display ++ "[]") := by
    intro he
    have hlength := congrArg String.length (Json.str.inj he)
    simp only [String.length_append] at hlength
    have hends : "(".length = 1 ∧ ")[]".length = 3 ∧ "[]".length = 2 := by decide
    omega
  rcases h with ⟨hp, rfl⟩ | ⟨hp, rfl⟩
  · simp [Binds, hp, hne]
  · simp [Binds, hp, hne.symm]

theorem binds_of_group {inner grouped : Json} (h : Json.Call.group inner = .ok grouped) :
    Binds (Json.Call.isUnion inner = .ok true) inner (.str (grouped.display ++ "[]")) := by
  obtain ⟨union, hu, h⟩ := ok_of_bind h
  cases union with
  | true =>
    cases h
    exact .inl ⟨hu, by simp [Json.display, String.append_assoc]⟩
  | false =>
    cases h
    exact .inr ⟨by rw [hu]; simp, rfl⟩

/-- The description that the suffix of an array is put behind; without an element it is any string. -/
def ElementGives (g : Graph) (nesting : Nat) (active : List Ref) (element : Node) (inner : Json) : Prop :=
  if element.isAbsent then inner = .str "string"
  else (within g nesting element).run.run active = (.ok inner, active)

/-- An array is described by grouping the description of its element. -/
theorem array_gives {nesting : Nat} {description low high value : Json} {candidates : List Node}
    (h : (within g (nesting + 1) (.array description candidates low high)).run.run active =
      (.ok value, active)) :
    ∃ element inner, g.element candidates = .ok element ∧
      ElementGives g nesting active element inner ∧
      Binds (Json.Call.isUnion inner = .ok true) inner value := by
  have hrender : (shapeWithin g (nesting + 1) active (.array description candidates low high)).render =
      .ok value := congrArg Prod.fst ((within_gives g _ active _).symm.trans h)
  rw [shapeWithin, shapeStep, render_shapeOf] at hrender
  obtain ⟨element, he, hrender⟩ := ok_of_bind hrender
  obtain ⟨inner, hinner, hrender⟩ := ok_of_bind hrender
  obtain ⟨grouped, hgroup, hvalue⟩ := ok_of_bind hrender
  cases hvalue
  refine ⟨element, inner, he, ?_, binds_of_group hgroup⟩
  unfold ElementGives
  cases ha : element.isAbsent with
  | true =>
    rw [ha] at hinner
    cases hinner
    rfl
  | false =>
    rw [ha] at hinner
    rw [if_neg Bool.false_ne_true]
    exact (within_gives g nesting active element).trans (congrArg (·, active) hinner)

/-- If the strings of its description are calm, an element is several alternatives exactly if its
description has a bar outside all brackets. -/
theorem isUnion_of_calm {nesting : Nat} {element : Node} {inner : Json}
    (h : ElementGives g nesting active element inner)
    (hcalm : (shapeWithin g nesting active element).CalmStrings) :
    Several g active element ↔ Json.Call.isUnion inner = .ok true := by
  unfold ElementGives at h
  cases ha : element.isAbsent with
  | true =>
    rw [ha, if_pos rfl] at h
    subst h
    refine iff_of_false (fun hs => ?_) (by rw [Json.Call.isUnion_text, Except.ok.injEq]; decide)
    rw [hs.not_absent] at ha
    cases ha
  | false =>
    rw [ha, if_neg Bool.false_ne_true] at h
    have hrender : (shapeWithin g nesting active element).render = .ok inner :=
      congrArg Prod.fst ((within_gives g nesting active element).symm.trans h)
    have hr : (shapeWithin g nesting active element).Renders := ⟨inner, hrender⟩
    obtain ⟨text, rfl, hw⟩ := render_written _ (allCalm_of_strings hr hcalm) hrender
    rw [← within_several g nesting active element hr, ← hw.bar, ← isUnion_iff,
      Json.Call.isUnion_text, Except.ok.injEq]

/-! ## Texts that are not calm -/

/-- Whether a node is written as a text, wherever it stands and with any nesting that it fits in. -/
def WrittenAs (node : Node) (text : String) : Prop :=
  ∀ nesting active, node.height ≤ nesting →
    (shapeWithin .empty nesting active node).render = .ok (.str text)

theorem WrittenAs.describe {text : String} (h : WrittenAs node text) :
    describe .empty node = .ok (.str text) := by
  have hreach : node.height ≤ Graph.empty.reach (maxSteps .empty) node :=
    calc node.height ≤ max Graph.empty.height node.height + 1 := by omega
      _ ≤ _ := Nat.le_mul_of_pos_left _ (Nat.succ_pos _)
  rw [describe_eq, shape, h _ _ hreach]

theorem writtenAs_literal (value : Json) : WrittenAs (.literal .null value) value.quote := by
  intro nesting active hle
  obtain _ | nesting := nesting
  · cases hle
  · rfl

theorem writtenAs_string : WrittenAs (.primitive .null (.str "string")) "string" := by
  intro nesting active hle
  obtain _ | nesting := nesting
  · cases hle
  · rfl

/-- An object with one field that is required. -/
theorem WrittenAs.object {text : String} (h : WrittenAs node text) (ho : isOptional node = false)
    (key : String) :
    WrittenAs (.object .null [(key, node)]) ("\x7b " ++ (key ++ ": " ++ text) ++ " \x7d") := by
  intro nesting active hle
  obtain _ | nesting := nesting
  · cases hle
  · have hnode := h nesting active (by simp [Node.height, Node.fieldsHeight] at hle; omega)
    simp [shapeWithin, shapeStep, Shape.render, Shape.renderFields, hnode, ho, bind, Except.bind, pure,
      Except.pure, Json.join, Json.display]

theorem WrittenAs.list {text : String} (h : WrittenAs node text) (hn : node.isNode = true) :
    WrittenAs (.array .null [node] .null .null) (Baml.group text ++ "[]") := by
  intro nesting active hle
  have ha : node.isAbsent = false := by cases node <;> first | rfl | cases hn
  have he : Graph.element .empty [node] = .ok node := by
    cases node <;> first | rfl | cases hn
  obtain _ | nesting := nesting
  · cases hle
  · have hnode := h nesting active (by simp [Node.height, Node.listHeight] at hle; omega)
    simp [shapeWithin, shapeStep, he, shapeOf, ha, Shape.render, hnode, Json.Call.group_text, bind,
      Except.bind, pure, Except.pure, Json.display]

theorem WrittenAs.orString {text : String} (h : WrittenAs node text) :
    WrittenAs (.union .null [node, .primitive .null (.str "string")]) (text ++ " | " ++ "string") := by
  intro nesting active hle
  obtain _ | nesting := nesting
  · cases hle
  · simp only [Node.height, Node.listHeight] at hle
    have hnode := h nesting active (by omega)
    have hstring := writtenAs_string nesting active (by simp [Node.height]; omega)
    simp [shapeWithin, shapeStep, Shape.render, Shape.renderAll, hnode, hstring, bind, Except.bind, pure,
      Except.pure, Json.join, Json.Call.textOf]

def ListBinds (element : Node) : Prop :=
  ∃ inner value, describe .empty element = .ok inner ∧
    describe .empty (.array .null [element] .null .null) = .ok value ∧
    Binds (Several .empty [] element) inner value

/-- The array of a node binds right exactly if the text has a bar outside all brackets when the node is
several alternatives. -/
theorem listBinds_iff {text : String} (h : WrittenAs node text) (hn : node.isNode = true) :
    ListBinds node ↔ (Several .empty [] node ↔ 0 ∈ bars text.toList) := by
  have hgroup := binds_of_group (Json.Call.group_text text)
  rw [Json.Call.isUnion_text, Except.ok.injEq, isUnion_iff] at hgroup
  rw [← hgroup.iff]
  constructor
  · rintro ⟨inner, value, hinner, hvalue, hb⟩
    cases h.describe.symm.trans hinner
    cases (h.list hn).describe.symm.trans hvalue
    exact hb
  · exact fun hb => ⟨_, _, h.describe, (h.list hn).describe, hb⟩

def inObjects : Nat → Node → Node
  | 0, node => node
  | depth + 1, node => .object .null [("k", inObjects depth node)]

/-- The depths in the text of an object with one field. -/
theorem object_depths (key text : String) :
    net ("\x7b " ++ (key ++ ": " ++ text) ++ " \x7d").toList = net key.toList + net text.toList ∧
    bars ("\x7b " ++ (key ++ ": " ++ text) ++ " \x7d").toList =
      (bars key.toList).map (1 + ·) ++ (bars text.toList).map (1 + net key.toList + ·) := by
  have hleft : net "\x7b ".toList = 1 ∧ bars "\x7b ".toList = [] := by decide
  have hcolon : net ": ".toList = 0 ∧ bars ": ".toList = [] := by decide
  have hright : net " \x7d".toList = -1 ∧ bars " \x7d".toList = [] := by decide
  simp only [String.toList_append, net_append, bars_append, hleft, hcolon, hright, List.map_append,
    List.map_map, List.map_nil, List.append_nil, List.nil_append, Function.comp_def]
  constructor
  · omega
  · simp [Int.add_assoc]

/-- Inside objects the bars of a text stand deeper. -/
theorem writtenAs_inObjects {text : String} (h : WrittenAs node text) (hn : node.isNode = true)
    (ho : isOptional node = false) (depth : Nat) :
    (inObjects depth node).isNode = true ∧ isOptional (inObjects depth node) = false ∧
      ∃ whole, WrittenAs (inObjects depth node) whole ∧
        bars whole.toList = (bars text.toList).map ((depth : Int) + ·) := by
  induction depth with
  | zero => exact ⟨hn, ho, text, h, by simp⟩
  | succ depth ih =>
    obtain ⟨-, hopt, whole, hw, hbars⟩ := ih
    have hkey : net "k".toList = 0 ∧ bars "k".toList = [] := by decide
    refine ⟨rfl, rfl, _, hw.object hopt "k", ?_⟩
    rw [(object_depths "k" whole).2, hkey.1, hkey.2, hbars, List.map_nil, List.nil_append, List.map_map]
    refine List.map_congr_left fun level _ => ?_
    simp only [Function.comp_apply]
    omega

theorem inObjects_not_several (hs : ¬ Several .empty [] node) (depth : Nat) :
    ¬ Several .empty [] (inObjects depth node) := by
  cases depth with
  | zero => exact hs
  | succ depth =>
    intro hs
    cases hs with
    | enumeration hv => cases hv

/-- A text is calm exactly if arrays bind right around the node that is written so: alone, inside objects,
and as one of two alternatives. -/
theorem calm_iff {text : String} (h : WrittenAs node text) (hn : node.isNode = true)
    (ho : isOptional node = false) (hs : ¬ Several .empty [] node) :
    Calm text ↔ (∀ depth, ListBinds (inObjects depth node)) ∧
      ListBinds (.union .null [node, .primitive .null (.str "string")]) := by
  have hdepth (depth : Nat) :
      ListBinds (inObjects depth node) ↔ -(depth : Int) ∉ bars text.toList := by
    obtain ⟨hnode, -, whole, hw, hbars⟩ := writtenAs_inObjects h hn ho depth
    rw [listBinds_iff hw hnode, hbars, iff_false_left (inObjects_not_several hs depth), List.mem_map,
      not_iff_not]
    exact ⟨fun ⟨level, hm, he⟩ => by rwa [show -(depth : Int) = level by omega],
      fun hm => ⟨_, hm, by omega⟩⟩
  have hunion : ListBinds (.union .null [node, .primitive .null (.str "string")]) ↔
      0 ∈ bars text.toList ∨ net text.toList = 0 := by
    have hbar : bars " | ".toList = [0] ∧ bars "string".toList = [] := by decide
    have hseveral : Several .empty [] (.union .null [node, .primitive .null (.str "string")]) :=
      .union (by simp)
    rw [listBinds_iff h.orString rfl, iff_true_left hseveral]
    simp only [String.toList_append, bars_append, hbar, List.map_nil, List.append_nil, List.mem_append,
      List.map_cons, List.mem_singleton, Int.add_zero]
    exact or_congr_right eq_comm
  rw [hunion]
  constructor
  · exact fun hcalm => ⟨fun depth => (hdepth depth).mpr fun hm => by
      have hlow := hcalm.bars _ hm
      omega, .inr hcalm.net⟩
  · rintro ⟨hall, hbar⟩
    have hnone (level : Int) (hm : level ∈ bars text.toList) : 1 ≤ level := by
      by_contra hlow
      have hno := (hdepth (-level).toNat).mp (hall _)
      rw [show -((-level).toNat : Int) = level by omega] at hno
      exact hno hm
    refine ⟨hbar.resolve_left fun hm => ?_, hnone⟩
    have hlow := hnone 0 hm
    omega

theorem level_object_key {key : String} :
    Calm ("\x7b " ++ (key ++ ": " ++ "string") ++ " \x7d") ↔ Level 0 key := by
  have hstring : net "string".toList = 0 ∧ bars "string".toList = [] := by decide
  obtain ⟨hnet, hbars⟩ := object_depths key "string"
  rw [hstring.1, Int.add_zero] at hnet
  rw [hstring.2, List.map_nil, List.append_nil] at hbars
  constructor
  · refine fun h => ⟨hnet.symm.trans h.net, fun level hm => ?_⟩
    have hlow := h.bars (1 + level) (hbars ▸ List.mem_map_of_mem hm)
    omega
  · refine fun h => ⟨hnet.trans h.net, fun level hm => ?_⟩
    rw [hbars] at hm
    obtain ⟨inside, hinside, rfl⟩ := List.mem_map.mp hm
    have hlow := h.bars inside hinside
    omega

/-! ## Arrays -/

/-- Where the suffix of an array binds. In every call that gives the description of an array, that is the
description of its element with the suffix behind it; it is in parentheses as it has to be exactly if
the element is several alternatives when its description has a bar outside all brackets, and so it is if
the strings in the description are calm. For no other strings it is so throughout: a text that is quoted
is calm, and a key as far as it stands inside the brackets of its object, exactly if arrays bind right
around it, alone, inside objects and beside an alternative. -/
theorem array_binding {g : Graph} {nesting : Nat} {active : List Ref}
    {description low high value : Json} {candidates : List Node}
    (h : (within g nesting (.array description candidates low high)).run.run active =
      (.ok value, active)) :
    (∃ below element inner, nesting = below + 1 ∧ g.element candidates = .ok element ∧
      ElementGives g below active element inner ∧
      (Binds (Several g active element) inner value ↔
        (Several g active element ↔ Json.Call.isUnion inner = .ok true)) ∧
      ((shapeWithin g below active element).CalmStrings →
        Binds (Several g active element) inner value)) ∧
    (∀ text : String, Calm text ↔
      (∀ depth, ListBinds (inObjects depth (.literal .null (.str text)))) ∧
        ListBinds (.union .null [.literal .null (.str text), .primitive .null (.str "string")])) ∧
    ∀ key : String, Level 0 key ↔
      (∀ depth, ListBinds (inObjects depth (.object .null [(key, .primitive .null (.str "string"))]))) ∧
        ListBinds (.union .null [.object .null [(key, .primitive .null (.str "string"))],
          .primitive .null (.str "string")]) := by
  refine ⟨?_, fun text => ?_, fun key => ?_⟩
  · obtain _ | below := nesting
    · cases h
    obtain ⟨element, inner, he, hinner, hb⟩ := array_gives h
    exact ⟨below, element, inner, rfl, he, hinner, hb.iff,
      fun hcalm => hb.iff.mpr (isUnion_of_calm hinner hcalm)⟩
  · refine level_quoteString.symm.trans ?_
    refine calm_iff (writtenAs_literal (.str text)) rfl rfl fun hs => ?_
    cases hs with
    | enumeration hv => cases hv
  · refine level_object_key.symm.trans ?_
    refine calm_iff (writtenAs_string.object rfl key) rfl rfl fun hs => ?_
    cases hs with
    | enumeration hv => cases hv

def enumOf (texts : List String) : Node := .enumeration .null (.arr (texts.map .str))

/-- Values with brackets and bars that are calm. -/
theorem array_binding_calm :
    describe .empty (.array .null [enumOf ["(a|b)", "c"]] .null .null) =
      .ok (.str "(\x22(a|b)\x22 | \x22c\x22)[]") ∧
    Binds (Several .empty [] (enumOf ["(a|b)", "c"])) (.str "\x22(a|b)\x22 | \x22c\x22")
      (.str "(\x22(a|b)\x22 | \x22c\x22)[]") := by
  have hdescribe : describe .empty (.array .null [enumOf ["(a|b)", "c"]] .null .null) =
    .ok (.str "(\x22(a|b)\x22 | \x22c\x22)[]") := rfl
  have harray : (within .empty 3 (.array .null [enumOf ["(a|b)", "c"]] .null .null)).run.run [] =
    (.ok (.str "(\x22(a|b)\x22 | \x22c\x22)[]"), []) := rfl
  obtain ⟨⟨below, element, inner, hnesting, he, hinner, -, hcalm⟩, -⟩ := array_binding harray
  cases hnesting
  cases he
  cases hinner
  have hparts : ∀ part, Part part (shapeWithin .empty 2 [] (enumOf ["(a|b)", "c"])) →
      part = .union [.literal (.str "(a|b)"), .literal (.str "c")] ∨
        part = .literal (.str "(a|b)") ∨ part = .literal (.str "c") := by
    intro part hp
    cases hp with
    | self => exact .inl rfl
    | option hm hp =>
      simp only [List.map_cons, List.map_nil, List.mem_cons, List.not_mem_nil, or_false] at hm
      rcases hm with rfl | rfl
      · cases hp
        exact .inr (.inl rfl)
      · cases hp
        exact .inr (.inr rfl)
  refine ⟨hdescribe, hcalm ⟨fun value hp => ?_, fun _ _ hp => ?_, fun _ _ hp => ?_⟩⟩
  · rcases hparts _ hp with he | he | he <;> cases he
    · constructor <;> decide
    · constructor <;> decide
  · rcases hparts _ hp with he | he | he <;> cases he
  · rcases hparts _ hp with he | he | he <;> cases he

/-- A bracket in a value hides the bar, so the suffix binds to the last value only. -/
theorem enum_bracket_unbound :
    describe .empty (enumOf ["(", "b"]) = .ok (.str "\x22(\x22 | \x22b\x22") ∧
    describe .empty (.array .null [enumOf ["(", "b"]] .null .null) =
      .ok (.str "\x22(\x22 | \x22b\x22[]") ∧
    Several .empty [] (enumOf ["(", "b"]) ∧ ¬ ListBinds (enumOf ["(", "b"]) := by
  have hseveral : Several .empty [] (enumOf ["(", "b"]) := .enumeration rfl rfl (by decide)
  have hdescribe : describe .empty (enumOf ["(", "b"]) = .ok (.str "\x22(\x22 | \x22b\x22") := rfl
  have harray : describe .empty (.array .null [enumOf ["(", "b"]] .null .null) =
    .ok (.str "\x22(\x22 | \x22b\x22[]") := rfl
  refine ⟨hdescribe, harray, hseveral, ?_⟩
  rintro ⟨inner, value, hinner, hvalue, ⟨-, he⟩ | ⟨hno, -⟩⟩
  · cases hdescribe.symm.trans hinner
    cases harray.symm.trans hvalue
    exact absurd (Json.str.inj he) (by decide)
  · exact hno hseveral

end StructuredOutput.Hint
