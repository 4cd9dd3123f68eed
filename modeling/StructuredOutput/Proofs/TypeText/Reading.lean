import StructuredOutput.Baml.Translation
import StructuredOutput.Proofs.TypeText.Tokens

/-! # Reading type expressions

A type expression stands for a list of alternatives: the bar joins two lists, parentheses only
group, a pair of brackets makes lists of what stands in front of it. `Reads` is the grammar. It is
unambiguous, because a stack machine that goes through the tokens once is driven by every reading of
an expression to the same state. -/
namespace StructuredOutput.Baml

inductive Alternative where
  | word (name : String)
  | literal (text : String)
  | list (items : List Alternative)
  | map (keys values : List Alternative)

namespace Alternative

def orNull : List Alternative → List Alternative
  | [.word "null"] => [.word "null"]
  | us => us ++ [.word "null"]

theorem orNull_of_ne {us : List Alternative} (h : us ≠ [.word "null"]) :
    orNull us = us ++ [.word "null"] := by
  unfold orNull
  split
  · exact absurd rfl h
  · rfl

theorem mem_orNull {us : List Alternative} {alt : Alternative} :
    alt ∈ orNull us ↔ alt ∈ us ∨ alt = .word "null" := by
  unfold orNull
  split <;> simp

end Alternative

/-- Where an expression may stand: an operand of a bar or of brackets, or any whole expression. -/
inductive Level where
  | operand
  | whole

inductive Reads : Level → List Token → List Alternative → Prop
  | word (name : String) : Reads .operand [.word name] [.word name]
  | quoted (text : String) : Reads .operand [.quoted text] [.literal text]
  | brackets {ts : List Token} {us : List Alternative} :
      Reads .operand ts us → Reads .operand (ts ++ [.sign '[', .sign ']']) [.list us]
  | parentheses {ts : List Token} {us : List Alternative} :
      Reads .whole ts us → Reads .operand (.sign '(' :: ts ++ [.sign ')']) us
  | map {ks vs : List Token} {us ws : List Alternative} :
      Reads .whole ks us → Reads .whole vs ws →
      Reads .operand (.word "map" :: .sign '<' :: ks ++ .sign ',' :: vs ++ [.sign '>']) [.map us ws]
  | single {ts : List Token} {us : List Alternative} : Reads .operand ts us → Reads .whole ts us
  | bar {ts ts' : List Token} {us us' : List Alternative} :
      Reads .whole ts us → Reads .operand ts' us' →
      Reads .whole (ts ++ .sign '|' :: ts') (us ++ us')

/-! ## One reading for each expression -/

namespace Reading

/-- What an open bracket is for; the value of a map comes behind its key. -/
inductive Opened where
  | top
  | group
  | key
  | value (keys : List Alternative)

/-- The part that is being read: the alternatives in front of its last bar, and those behind it. -/
structure Frame where
  opened : Opened
  before : List Alternative
  now : List Alternative

abbrev State := Frame × List Frame

def advance : State → Token → State
  | (f, outer), .word name => ({ f with now := [.word name] }, outer)
  | (f, outer), .quoted text => ({ f with now := [.literal text] }, outer)
  | (f, outer), .sign c =>
    if c = '(' then (⟨.group, [], []⟩, f :: outer)
    else if c = '<' then (⟨.key, [], []⟩, f :: outer)
    else if c = ',' then (⟨.value (f.before ++ f.now), [], []⟩, outer)
    else if c = '|' then ({ f with before := f.before ++ f.now, now := [] }, outer)
    else if c = '[' then (f, outer)
    else if c = ']' then ({ f with now := [.list f.now] }, outer)
    else match outer, f.opened with
      | around :: more, .group => ({ around with now := f.before ++ f.now }, more)
      | around :: more, .value keys =>
        ({ around with now := [.map keys (f.before ++ f.now)] }, more)
      | _, _ => (f, outer)

def run (s : State) (ts : List Token) : State := ts.foldl advance s

/-- Where a reading leads: behind an operand to its alternatives, behind a whole expression to its
alternatives with some of them already in front of a bar. -/
def Leads (level : Level) (us : List Alternative) (f : Frame) (outer : List Frame) (s : State) :
    Prop :=
  match level with
  | .operand => s = ({ f with now := us }, outer)
  | .whole => ∃ before now, before ++ now = f.before ++ us ∧ s = (⟨f.opened, before, now⟩, outer)

theorem leads_of_reads {level : Level} {ts : List Token} {us : List Alternative}
    (h : Reads level ts us) :
    ∀ f outer, f.now = [] → Leads level us f outer (run (f, outer) ts) := by
  induction h with
  | word name => intro f outer _; rfl
  | quoted text => intro f outer _; rfl
  | brackets _ ih =>
    intro f outer hf
    have hs := ih f outer hf
    simp only [Leads] at hs
    simp only [Leads, run, List.foldl_append] at hs ⊢
    rw [hs]
    rfl
  | parentheses _ ih =>
    intro f outer _
    obtain ⟨before, now, he, hs⟩ := ih ⟨.group, [], []⟩ (f :: outer) rfl
    simp only [run] at hs
    simp only [Leads, run, List.cons_append, List.foldl_cons, List.foldl_append, List.foldl_nil]
    change advance (List.foldl advance (⟨.group, [], []⟩, f :: outer) _) _ = _
    rw [hs]
    simp [advance, he]
  | map _ _ ihk ihv =>
    intro f outer _
    obtain ⟨before, now, he, hs⟩ :=
      ihk ⟨.key, [], []⟩ ({ f with now := [.word "map"] } :: outer) rfl
    obtain ⟨before', now', he', hs'⟩ :=
      ihv ⟨.value (before ++ now), [], []⟩ ({ f with now := [.word "map"] } :: outer) rfl
    simp only [run] at hs hs'
    simp only [Leads, run, List.cons_append, List.foldl_cons, List.foldl_append, List.foldl_nil]
    change advance (List.foldl advance (advance (List.foldl advance
      (⟨.key, [], []⟩, { f with now := [.word "map"] } :: outer) _) _) _) _ = _
    rw [hs]
    change advance (List.foldl advance
      (⟨.value (before ++ now), [], []⟩, { f with now := [.word "map"] } :: outer) _) _ = _
    rw [hs']
    simp [advance, he, he']
  | single _ ih =>
    intro f outer hf
    exact ⟨f.before, _, rfl, ih f outer hf⟩
  | bar _ _ ih ih' =>
    intro f outer hf
    obtain ⟨before, now, he, hs⟩ := ih f outer hf
    have hs' := ih' ⟨f.opened, before ++ now, []⟩ outer rfl
    refine ⟨before ++ now, _, by rw [he, List.append_assoc], ?_⟩
    simp only [Leads, run] at hs hs' ⊢
    rw [List.foldl_append, hs]
    exact hs'

end Reading

/-- A type expression is read in one way only. -/
theorem Reads.unique {ts : List Token} {us us' : List Alternative} (h : Reads .whole ts us)
    (h' : Reads .whole ts us') : us = us' := by
  obtain ⟨before, now, he, hs⟩ := Reading.leads_of_reads h ⟨.top, [], []⟩ [] rfl
  obtain ⟨before', now', he', hs'⟩ := Reading.leads_of_reads h' ⟨.top, [], []⟩ [] rfl
  rw [hs] at hs'
  cases hs'
  exact he.symm.trans he'

/-- No expression is left without alternatives. -/
theorem Reads.ne_nil {level : Level} {ts : List Token} {us : List Alternative}
    (h : Reads level ts us) : us ≠ [] := by
  induction h with
  | word | quoted | brackets | map => exact List.cons_ne_nil _ _
  | parentheses _ ih | single _ ih => exact ih
  | bar _ _ ih _ => exact List.append_ne_nil_of_left_ne_nil ih _

theorem Reads.alternatives {ts ts' : List Token} {us us' : List Alternative}
    (h : Reads .whole ts us) (h' : Reads .whole ts' us') :
    Reads .whole (ts ++ .sign '|' :: ts') (us ++ us') := by
  generalize hl : Level.whole = level at h'
  induction h' with
  | single h' _ => exact .bar h h'
  | bar _ h₂ ih _ =>
    have := Reads.bar (ih hl) h₂
    simpa only [List.append_assoc, List.cons_append] using this
  | word | quoted | brackets | parentheses | map => cases hl

/-! ## Bars outside all brackets -/

/-- Whether a bar stands at depth zero among tokens, counting from the given depth. -/
def Token.barOutside : Int → List Token → Bool
  | _, [] => false
  | depth, .word _ :: rest => barOutside depth rest
  | depth, .quoted _ :: rest => barOutside depth rest
  | depth, .sign c :: rest =>
    if opens c then barOutside (depth + 1) rest
    else if closes c then barOutside (depth - 1) rest
    else if c = '|' && depth = 0 then true
    else barOutside depth rest

theorem not_bracket_of_isFieldChar {c : Char} (h : Text.isFieldChar c = true) :
    opens c = false ∧ closes c = false ∧ c ≠ '|' := by
  have ho : ('|' :: (openers ++ closers)).all (fun b => !Text.isFieldChar b) = true := by decide
  have hne : ∀ b ∈ '|' :: (openers ++ closers), c ≠ b := by
    rintro b hb rfl
    simpa [h] using List.all_eq_true.mp ho c hb
  refine ⟨?_, ?_, hne _ List.mem_cons_self⟩
  · simp only [opens, List.contains_eq_mem, decide_eq_false_iff_not]
    exact fun hm => hne c (by simp [hm]) rfl
  · simp only [closes, List.contains_eq_mem, decide_eq_false_iff_not]
    exact fun hm => hne c (by simp [hm]) rfl

theorem barOutside_name {text : List Char} (h : ∀ c ∈ text, Text.isFieldChar c = true)
    (depth : Int) (rest : List Char) : barOutside depth (text ++ rest) = barOutside depth rest := by
  induction text with
  | nil => rfl
  | cons c more ih =>
    obtain ⟨ho, hc, hb⟩ := not_bracket_of_isFieldChar (h c List.mem_cons_self)
    rw [List.cons_append, barOutside]
    simp only [ho, hc, hb, decide_false, Bool.false_and, Bool.false_eq_true, if_false]
    exact ih fun c' hc' => h c' (List.mem_cons_of_mem _ hc')

/-- Without quotes the bars of a text are those of its tokens. -/
theorem barOutside_lex {text : List Char} (hq : '\x22' ∉ text) (depth : Int) :
    barOutside depth text = Token.barOutside depth (Token.lex text) := by
  induction hn : text.length using Nat.strongRecOn generalizing text depth with
  | ind n ih =>
    subst hn
    cases text with
    | nil => rw [Token.lex_nil]; rfl
    | cons c rest =>
      have hc : c ≠ '\x22' := fun he => hq (by simp [he])
      have hr : '\x22' ∉ rest := fun hm => hq (List.mem_cons_of_mem _ hm)
      have hrest : ∀ depth, barOutside depth rest = Token.barOutside depth (Token.lex rest) :=
        fun depth => ih _ (by simp) hr depth rfl
      by_cases hw : Text.isFieldChar c = true
      · have hsuf := List.dropWhile_suffix (l := rest) Text.isFieldChar
        have hlen := hsuf.length_le
        have hname : ∀ c' ∈ c :: rest.takeWhile Text.isFieldChar, Text.isFieldChar c' = true := by
          intro c' hc'
          rcases List.mem_cons.mp hc' with rfl | hc'
          · exact hw
          · exact List.mem_takeWhile_imp hc'
        have hskip := barOutside_name hname depth (rest.dropWhile Text.isFieldChar)
        rw [List.cons_append, List.takeWhile_append_dropWhile] at hskip
        rw [Token.lex_word hw, Token.barOutside, hskip,
          ih _ (by simp; omega) (fun hm => hr (hsuf.mem hm)) depth rfl]
      · have hw : Text.isFieldChar c = false := by simpa using hw
        by_cases hb : c = ' '
        · subst hb
          rw [Token.lex_blank, ← hrest]
          rfl
        · rw [Token.lex_sign hw hc hb, barOutside, Token.barOutside, hrest, hrest, hrest]

/-- The depth from which on an expression at a level hides its bars. -/
def Level.least : Level → Int
  | .operand => 0
  | .whole => 1

theorem barOutside_reads {level : Level} {ts : List Token} {us : List Alternative}
    (h : Reads level ts us) : ∀ depth rest, level.least ≤ depth →
      Token.barOutside depth (ts ++ rest) = Token.barOutside depth rest := by
  induction h with
  | word | quoted => intro depth rest _; rfl
  | brackets _ ih =>
    intro depth rest hd
    rw [List.append_assoc, ih depth _ hd]
    simp [Token.barOutside, opens, openers, closes, closers]
  | parentheses _ ih =>
    intro depth rest hd
    simp only [Level.least] at hd ih
    rw [List.cons_append, List.cons_append, List.append_assoc, Token.barOutside,
      if_pos (by decide), ih _ _ (by omega)]
    simp [Token.barOutside, opens, openers, closes, closers]
  | map _ _ ihk ihv =>
    intro depth rest hd
    simp only [Level.least] at hd ihk ihv
    simp only [List.cons_append, List.append_assoc, List.nil_append]
    rw [Token.barOutside, Token.barOutside, if_pos (by decide), ihk _ _ (by omega),
      Token.barOutside, if_neg (by decide), if_neg (by decide), if_neg (by simp),
      ihv _ _ (by omega), Token.barOutside, if_neg (by decide), if_pos (by decide)]
    simp
  | single _ ih =>
    intro depth rest hd
    exact ih depth rest (by simp only [Level.least] at hd ⊢; omega)
  | bar _ _ ih ih' =>
    intro depth rest hd
    simp only [Level.least] at hd ih'
    have hne : depth ≠ 0 := by omega
    rw [List.append_assoc, ih _ _ hd, List.cons_append, Token.barOutside, if_neg (by decide),
      if_neg (by decide), if_neg (by simp [hne]), ih' _ _ (by omega)]

theorem barOutside_before_bar {ts : List Token} {us : List Alternative} (h : Reads .whole ts us)
    (rest : List Token) : Token.barOutside 0 (ts ++ .sign '|' :: rest) = true := by
  generalize hl : Level.whole = level at h
  induction h generalizing rest with
  | single h _ =>
    rw [barOutside_reads h 0 _ (Int.le_refl 0)]
    rfl
  | bar _ _ ih _ =>
    rw [List.append_assoc]
    exact ih _ hl
  | word | quoted | brackets | parentheses | map => cases hl

/-- An expression without a bar outside its brackets is an operand. -/
theorem Reads.operand {ts : List Token} {us : List Alternative} (h : Reads .whole ts us)
    (hb : Token.barOutside 0 ts = false) : Reads .operand ts us := by
  cases h with
  | single h => exact h
  | bar h _ =>
    rw [barOutside_before_bar h] at hb
    cases hb

/-! ## Expressions as the translator writes them -/

/-- A text without quotes that is read as the given alternatives. Where they are a single word, it is
that word and nothing else. -/
structure Spells (expr : String) (us : List Alternative) : Prop where
  bare : Bare expr
  reads : Reads .whole (tokens expr) us
  plain : ∀ name, us = [.word name] → expr = name

namespace Spells

variable {a b : String} {us ws : List Alternative}

theorem word {name : String} (hne : name ≠ "")
    (h : ∀ c ∈ name.toList, Text.isFieldChar c = true) : Spells name [.word name] := by
  refine ⟨fun hq => absurd (h _ hq) (by decide), ?_, fun other he => ?_⟩
  · rw [tokens_name hne h]
    exact .single (.word name)
  · exact Alternative.word.inj (List.singleton_inj.mp he)

/-- In parentheses when it needs them, an expression is an operand. -/
theorem group (h : Spells a us) :
    Bare (group a) ∧ Reads .operand (tokens (Baml.group a)) us := by
  unfold Baml.group isUnion
  split
  · refine ⟨(Bare.append (by simp [Bare]) h.bare).append (by simp [Bare]), ?_⟩
    rw [tokens_parentheses h.bare]
    exact .parentheses h.reads
  · rename_i hb
    refine ⟨h.bare, h.reads.operand ?_⟩
    rw [barOutside_lex h.bare] at hb
    simpa [tokens] using hb

theorem brackets (h : Spells a us) : Spells (Baml.group a ++ "[]") [.list us] := by
  obtain ⟨hb, hr⟩ := h.group
  refine ⟨hb.append (by simp [Bare]), ?_, by simp⟩
  rw [tokens_brackets hb]
  exact .single (.brackets hr)

theorem map (h : Spells a us) (h' : Spells b ws) :
    Spells ("map<" ++ a ++ ", " ++ b ++ ">") [.map us ws] := by
  have hp : Bare ("map<" ++ a) := Bare.append (by simp [Bare]) h.bare
  refine ⟨((hp.append (by simp [Bare])).append h'.bare).append (by simp [Bare]), ?_, by simp⟩
  rw [tokens_map h.bare h'.bare]
  exact .single (.map h.reads h'.reads)

/-- Expressions with a bar between them are more than one alternative. -/
theorem joined (ha : Bare a) (hr : Reads .whole (tokens a) us) (h' : Spells b ws) :
    Spells (a ++ " | " ++ b) (us ++ ws) := by
  refine ⟨(ha.append (by simp [Bare])).append h'.bare, ?_, fun name he => ?_⟩
  · rw [tokens_alternatives ha]
    exact hr.alternatives h'.reads
  · have hlen := congrArg List.length he
    have hus := List.length_pos_iff.mpr hr.ne_nil
    have hws := List.length_pos_iff.mpr h'.reads.ne_nil
    rw [List.length_append, List.length_singleton] at hlen
    omega

theorem alternatives (h : Spells a us) (h' : Spells b ws) :
    Spells (a ++ " | " ++ b) (us ++ ws) :=
  joined h.bare h.reads h'

theorem null : Spells "null" [.word "null"] :=
  word (by decide) (List.all_eq_true.mp (by decide))

theorem withNull (h : Spells a us) : Spells (a ++ " | null") (us ++ [.word "null"]) := by
  have := h.alternatives null
  rwa [String.append_assoc] at this

theorem orNull (h : Spells a us) : Spells (Translation.orNull a) (Alternative.orNull us) := by
  unfold Translation.orNull
  split
  · rename_i he
    subst he
    rw [h.reads.unique null.reads]
    exact null
  · rename_i hne
    obtain ⟨hb, hr⟩ := h.group
    have := joined hb (.single hr) null
    rwa [String.append_assoc, ← Alternative.orNull_of_ne fun he => hne (h.plain _ he)] at this

end Spells

end StructuredOutput.Baml
