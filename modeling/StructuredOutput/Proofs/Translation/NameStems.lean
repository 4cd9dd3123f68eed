import StructuredOutput.Proofs.Meaning.Nodes
import StructuredOutput.Proofs.Schema.ReferenceTexts
import StructuredOutput.Proofs.Translation.ClosedOutput

/-! # Where declared names begin

A name in Pascal case begins with the names of all texts that its text begins with, and a hint for a part
is the hint of the whole with something behind it. So every declared name begins with what was asked for
from outside: by the hint of the root, or by the name of a deferred node. -/
namespace StructuredOutput

/-! ## Pascal case from left to right -/

namespace Text

/-- The letters and digits of a text, the first of each word in upper case, given whether a word has
begun in front of it. -/
def pascalChars : Bool → List Char → List Char
  | _, [] => []
  | inside, c :: rest =>
    if c.isAlphanum then (if inside then c else c.toUpper) :: pascalChars true rest
    else pascalChars false rest

theorem pascalChars_splitAll (text : List Char) :
    ∃ piece more, splitAll (fun c => !c.isAlphanum) text = piece :: more ∧
      pascalChars true text = piece ++ (more.filter fun word => !word.isEmpty).flatMap capitalize ∧
      pascalChars false text =
        ((piece :: more).filter fun word => !word.isEmpty).flatMap capitalize := by
  induction text with
  | nil => exact ⟨[], [], rfl, rfl, rfl⟩
  | cons c rest ih =>
    obtain ⟨piece, more, hs, ht, hf⟩ := ih
    cases hc : c.isAlphanum with
    | true =>
      refine ⟨c :: piece, more, by simp [splitAll, hc, hs], ?_, ?_⟩
      · simp [pascalChars, hc, ht]
      · simp [pascalChars, hc, ht, capitalize]
    | false =>
      refine ⟨[], piece :: more, by simp [splitAll, hc, hs], ?_, ?_⟩
      · rw [pascalChars, hc, if_neg (by simp), hf, List.nil_append]
      · rw [pascalChars, hc, if_neg (by simp), hf]
        rfl

theorem joined_eq (text : List Char) : (words text).flatMap capitalize = pascalChars false text := by
  obtain ⟨piece, more, hs, -, hf⟩ := pascalChars_splitAll text
  rw [words, hs, hf]

theorem pascalChars_append (a b : List Char) (inside : Bool) :
    pascalChars inside a <+: pascalChars inside (a ++ b) := by
  induction a generalizing inside with
  | nil => exact List.nil_prefix
  | cons c rest ih =>
    rw [List.cons_append, pascalChars, pascalChars]
    split
    · exact List.prefix_cons_inj _ |>.mpr (ih true)
    · exact ih false

theorem toList_pascalCase (text : String) : (pascalCase text).toList =
    (if startsWithDigit (pascalChars false text.toList) then "Type".toList else []) ++
      pascalChars false text.toList := by
  unfold pascalCase
  rw [joined_eq]
  dsimp only
  split <;> simp

/-- A longer text has a longer name. -/
theorem pascalCase_append (a b : String) :
    (pascalCase a).toList <+: (pascalCase (a ++ b)).toList := by
  have hp := pascalChars_append a.toList b.toList false
  rw [toList_pascalCase, toList_pascalCase, String.toList_append]
  cases ha : pascalChars false a.toList with
  | nil => exact List.nil_prefix
  | cons c rest =>
    rw [ha] at hp
    obtain ⟨more, hmore⟩ := hp
    rw [← hmore, List.cons_append, startsWithDigit, startsWithDigit, ← List.cons_append,
      ← List.append_assoc]
    exact List.prefix_append _ _

/-- A type name is its own name in Pascal case. -/
theorem pascalCase_of_isTypeName {name : String} (h : isTypeName name.toList = true) :
    pascalCase name = name := by
  have hinside : ∀ rest : List Char, rest.all Char.isAlphanum = true →
      pascalChars true rest = rest := by
    intro rest hr
    induction rest with
    | nil => rfl
    | cons c rest ih =>
      rw [List.all_cons, Bool.and_eq_true] at hr
      rw [pascalChars, if_pos hr.1, if_pos rfl, ih hr.2]
  rw [← String.toList_inj, toList_pascalCase]
  cases hl : name.toList with
  | nil => rfl
  | cons c rest =>
    rw [hl] at h
    simp only [isTypeName, Bool.and_eq_true] at h
    have hupper : c.toUpper = c ∧ c.isAlphanum = true ∧ c.isDigit = false := by
      have hc := h.1
      unfold Char.isUpper at hc
      unfold Char.toUpper Char.isAlphanum Char.isAlpha Char.isUpper Char.isLower Char.isDigit
      grind
    obtain ⟨hup, halnum, hdigit⟩ := hupper
    rw [pascalChars, if_pos halnum, if_neg Bool.false_ne_true, hup, hinside rest h.2,
      startsWithDigit, hdigit, if_neg Bool.false_ne_true, List.nil_append]

end Text

namespace Baml

open Schema (Graph Node Ref)

/-! ## Stems -/

def Stemmed (stems : List String) (name : String) : Prop :=
  ∃ stem ∈ stems, stem.toList <+: name.toList

/-- The names that what is declared for a hint begins with: its text in Pascal case, or one of the words
for no hint. -/
def NameHint.stems : NameHint → List String
  | none => ["Obj", "Enum"]
  | text name => [Text.pascalCase name]
  | shown value => [Text.pascalCase value.display]

variable {stems : List String}

theorem Stemmed.longer {name longer : String} (h : Stemmed stems name)
    (hp : name.toList <+: longer.toList) : Stemmed stems longer := by
  obtain ⟨stem, hs, hstem⟩ := h
  exact ⟨stem, hs, hstem.trans hp⟩

def NameHint.From (stems : List String) (hint : NameHint) : Prop :=
  ∀ name ∈ hint.stems, Stemmed stems name

theorem NameHint.from_self (hint : NameHint) : hint.From hint.stems :=
  fun name hm => ⟨name, hm, List.prefix_rfl⟩

namespace NameHint.From

variable {hint : NameHint}

theorem text_iff {name : String} :
    (NameHint.text name).From stems ↔ Stemmed stems (Text.pascalCase name) :=
  List.forall_mem_singleton

theorem mono {more : List String} (h : hint.From stems) (hs : stems ⊆ more) : hint.From more := by
  intro name hm
  obtain ⟨stem, hstem, hp⟩ := h name hm
  exact ⟨stem, hs hstem, hp⟩

theorem extend (h : hint.From stems) (word : String) : (hint.extend word).From stems := by
  cases hint with
  | none => exact h
  | text name => exact text_iff.mpr ((text_iff.mp h).longer (Text.pascalCase_append name word))
  | shown value =>
    have hvalue : Stemmed stems (Text.pascalCase value.display) := h _ List.mem_cons_self
    exact text_iff.mpr (hvalue.longer (Text.pascalCase_append value.display word))

theorem textOr (h : hint.From stems) {word text : String} (hw : word ∈ ["Obj", "Enum"])
    (ht : hint.textOr word = .ok text) : Stemmed stems (Text.pascalCase text) := by
  cases hint with
  | none =>
    cases ht
    have hsame : Text.pascalCase word = word := by
      simp only [List.mem_cons, List.not_mem_nil, or_false] at hw
      rcases hw with rfl | rfl <;> exact Text.pascalCase_of_isTypeName (by decide)
    rw [hsame]
    exact h word hw
  | text name =>
    cases ht
    exact text_iff.mp h
  | shown value => cases ht

end NameHint.From

namespace Declarations

variable {d d' : Declarations}

/-- Whether all declared names begin with one of some stems, and the next one will be a type name. -/
structure Stemmed (stems : List String) (d : Declarations) : Prop where
  names : ∀ name ∈ d.names, Baml.Stemmed stems name
  counter : 0 ≤ d.counter

theorem stemmed_uniqueName {text : String} (h : Baml.Stemmed stems (Text.pascalCase text)) :
    Baml.Stemmed stems (d.uniqueName text).1 := by
  have hbase : Baml.Stemmed stems (baseName text) := by
    unfold baseName
    split
    · rename_i he
      rw [he] at h
      exact h.longer List.nil_prefix
    · exact h
  rcases uniqueName_cases d text with ⟨-, he⟩ | ⟨n, -, -, he⟩
  · rw [he]
    exact hbase
  · rw [he]
    refine hbase.longer ?_
    rw [numbered, String.toList_append]
    exact List.prefix_append _ _

/-- One more name for a text. -/
theorem Stemmed.gains {text : String} (h : d.Stemmed stems)
    (ht : Baml.Stemmed stems (Text.pascalCase text)) (hd : Gains d text d') : d'.Stemmed stems := by
  refine ⟨fun name hm => ?_, h.counter.trans hd.grows.counter⟩
  rcases List.mem_cons.mp (hd.names.subset hm) with rfl | hm
  · exact stemmed_uniqueName ht
  · exact h.names name hm

end Declarations

/-! ## The names of deferred nodes -/

/-- Whether the deferred nodes in a node ask for names that begin with one of some stems. -/
def Asks (stems : List String) (node : Node) : Prop :=
  ∀ description name ref, .lazy description name ref ∈ node.deferred →
    NameHint.ofJson name = .none ∨ (NameHint.ofJson name).From stems

namespace Asks

variable {node : Node}

theorem hint {description name : Json} {ref : Ref} {hint : NameHint}
    (h : Asks stems (.lazy description name ref)) (hh : hint.From stems) :
    ((NameHint.ofJson name).orElse hint).From stems := by
  rcases h description name ref List.mem_cons_self with he | hf
  · rw [he]
    exact hh
  · cases hn : NameHint.ofJson name with
    | none => exact hh
    | text _ | shown _ =>
      rw [hn] at hf
      exact hf

theorem part {part : Node} (h : Asks stems node) (hp : part.deferred ⊆ node.deferred) :
    Asks stems part :=
  fun description name ref hm => h description name ref (hp hm)

theorem member {description : Json} {members : List (String × Node)}
    (h : Asks stems (.object description members)) {member : String × Node} (hm : member ∈ members) :
    Asks stems member.2 :=
  h.part fun _ hp => Node.mem_membersDeferred.mpr ⟨member, hm, hp⟩

theorem option {description : Json} {nodes : List Node} (h : Asks stems (.union description nodes))
    {node : Node} (hm : node ∈ nodes) : Asks stems node :=
  h.part fun _ hp => Node.mem_listDeferred.mpr ⟨node, hm, hp⟩

theorem candidate {description low high : Json} {candidates : List Node}
    (h : Asks stems (.array description candidates low high)) {node : Node}
    (hm : node ∈ candidates) : Asks stems node :=
  h.part fun _ hp => Node.mem_listDeferred.mpr ⟨node, hm, hp⟩

end Asks

theorem deferred_base_subset : ∀ node : Node, node.base.deferred ⊆ node.deferred
  | .wrapper _ _ inner => by
    rw [Node.base, Node.deferred]
    exact deferred_base_subset inner
  | .pipeline _ inner source => by
    rw [Node.base, Node.deferred]
    split
    · exact List.subset_append_of_subset_right _ (deferred_base_subset source)
    · exact List.subset_append_of_subset_left _ (deferred_base_subset inner)
  | .foreign _ | .thunk _ | .bare .. | .primitive .. | .literal .. | .object .. | .array ..
  | .enumeration .. | .memberEnum .. | .record .. | .union .. | .lazy .. => List.Subset.refl _

/-! ## One step of the translator -/

namespace Translation

/-- A translation of nodes that declares names with the given stems only. -/
def KeepsStems (stems : List String) (inside : Node → NameHint → Translation String) : Prop :=
  ∀ node hint d expr d', Asks stems node → hint.From stems → d.Stemmed stems →
    Returns (inside node hint) d expr d' → d'.Stemmed stems

variable {g : Graph} {s : Settings.Translator} {inside : Node → NameHint → Translation String}
variable {d d' : Declarations} {hint : NameHint} {expr : String}

/-- A class name may stand at the front of a hint. -/
theorem class_stemmed {name : String} (h : d.Stemmed stems) (hh : hint.From stems)
    (hd : Returns (declareClass hint) d name d') :
    d'.Stemmed stems ∧ ∀ key, (NameHint.text (name ++ "_" ++ key)).From stems := by
  obtain ⟨text, ht, hc⟩ := returns_declareClass.mp hd
  have hstem := hh.textOr (by simp) ht
  have he : d.declareClass text = ((d.uniqueName text).1, (d.declareClass text).2) := rfl
  rw [he] at hc
  cases hc
  refine ⟨h.gains hstem (Declarations.gains_class d text), fun key => ?_⟩
  have hname := Text.pascalCase_of_isTypeName (Declarations.isTypeName_uniqueName h.counter text)
  have hlonger := Text.pascalCase_append (d.uniqueName text).1 ("_" ++ key)
  rw [hname, ← String.append_assoc] at hlonger
  exact NameHint.From.text_iff.mpr ((Declarations.stemmed_uniqueName hstem).longer hlonger)

theorem fields_stemmed (hi : KeepsStems stems inside) {name : String}
    (hname : ∀ key, (NameHint.text (name ++ "_" ++ key)).From stems)
    {members : List (String × Node)} (ha : ∀ member ∈ members, Asks stems member.2) :
    ∀ {used : List String} {d : Declarations}, d.Stemmed stems →
      Returns (fields s inside name used members) d () d' → d'.Stemmed stems := by
  induction members with
  | nil =>
    intro used d h hr
    exact returns_fields_nil.mp hr ▸ h
  | cons member rest ih =>
    obtain ⟨key, node⟩ := member
    intro used d h hr
    obtain ⟨peeled, type, d₁, -, hin, hrest⟩ := returns_fields_cons.mp hr
    obtain ⟨hfirst, hothers⟩ := List.forall_mem_cons.mp ha
    have h₁ := hi _ _ _ _ _ hfirst (hname key) h hin
    have h₂ : (d₁.addField name (newField used key type peeled)).Stemmed stems := by
      refine ⟨?_, h₁.counter⟩
      rw [Declarations.names_addField]
      exact h₁.names
    exact ih hothers h₂ hrest

theorem options_stemmed (hi : KeepsStems stems inside) (hh : hint.From stems) {nodes : List Node}
    (ha : ∀ node ∈ nodes, Asks stems node) :
    ∀ {index : Nat} {parts : List String} {d : Declarations}, d.Stemmed stems →
      Returns (options inside hint index nodes) d parts d' → d'.Stemmed stems := by
  induction nodes with
  | nil =>
    intro index parts d h hr
    obtain ⟨-, rfl⟩ := returns_options_nil.mp hr
    exact h
  | cons node rest ih =>
    intro index parts d h hr
    obtain ⟨first, others, d₁, hin, hoptions, -⟩ := returns_options_cons.mp hr
    obtain ⟨hfirst, hothers⟩ := List.forall_mem_cons.mp ha
    exact ih hothers (hi _ _ _ _ _ hfirst (hh.extend _) h hin) hoptions

theorem core_stemmed (hg : ∀ ref node, g.resolve ref = .ok node → Asks stems node)
    (hi : KeepsStems stems inside) {node : Node} (ha : Asks stems node) (hh : hint.From stems)
    (h : d.Stemmed stems) (hr : Returns (core g s inside node hint) d expr d') :
    d'.Stemmed stems := by
  cases core_cases hr with
  | @object _ _ _ _ d₂ hd hf =>
    obtain ⟨h₁, hname⟩ := class_stemmed h hh hd
    have h₂ : d₂.Stemmed stems := fields_stemmed hi hname (fun _ hm => ha.member hm) h₁ hf
    exact ⟨h₂.names, h₂.counter⟩
  | primitive | literal | strings | anyString | reused => exact h
  | array he hna hin =>
    refine hi _ _ _ _ _ ?_ (hh.extend "Item") h hin
    rcases Graph.element_source he hna with hm | ⟨ref, -, hres⟩
    · exact ha.candidate hm
    · exact hg _ _ hres
  | names _ _ _ _ ht =>
    exact h.gains (hh.textOr (by simp) ht) (Declarations.gains_enum d _ _)
  | literals _ _ _ _ ht =>
    exact h.gains (hh.textOr (by simp) ht) (Declarations.gains_alias d _ _)
  | @record _ key value _ _ _ _ _ hkey hvalue =>
    have hk : Asks stems (if key.isAbsent then .primitive .null (.str "string") else key) := by
      split
      · exact fun _ _ _ hm => nomatch hm
      · exact ha.part (List.subset_append_left _ _)
    have h₁ := hi _ _ _ _ _ hk (hh.extend "Key") h hkey
    exact hi _ _ _ _ _ (ha.part (List.subset_append_right _ _)) (hh.extend "Val") h₁ hvalue
  | union _ ho => exact options_stemmed hi hh (fun _ hm => ha.option hm) h ho
  | @bare _ inner _ _ _ hin =>
    have hinner : Asks stems inner := ha.part fun _ hp => hp
    exact hi _ _ _ _ _ hinner hh h hin
  | @lazyObject _ _ _ ref _ _ _ _ _ d₁ d₂ _ hres hp hobj hd _ hf =>
    obtain ⟨h₁, hname⟩ := class_stemmed h (ha.hint hh) hd
    have htarget := (hg _ _ hres).part (deferred_base_subset _)
    rw [← (Schema.peel_ok hp).1, hobj] at htarget
    have hrecorded : (d₁.recordLazy ref expr).Stemmed stems := ⟨h₁.names, h₁.counter⟩
    have h₂ : d₂.Stemmed stems :=
      fields_stemmed hi hname (fun _ hm => htarget.member hm) hrecorded hf
    exact ⟨h₂.names, h₂.counter⟩
  | @lazyOther _ _ _ _ _ _ d₁ _ hres _ _ _ hin =>
    have hdeeper : Declarations.Stemmed stems { d with depth := d.depth + 1 } :=
      ⟨h.names, h.counter⟩
    have h₁ : d₁.Stemmed stems := hi _ _ _ _ _ (hg _ _ hres) (ha.hint hh) hdeeper hin
    exact ⟨h₁.names, h₁.counter⟩

theorem within_stemmed (hg : ∀ ref node, g.resolve ref = .ok node → Asks stems node)
    (s : Settings.Translator) (nesting : Nat) : KeepsStems stems (within g s nesting) := by
  induction nesting with
  | zero => intro node hint d expr d' _ _ _ hr; exact (returns_throw hr).elim
  | succ nesting ih =>
    intro node hint d expr d' ha hh h hr
    obtain ⟨peeled, type, hp, hc, -⟩ := returns_step.mp hr
    rw [(Schema.peel_ok hp).1] at hc
    exact core_stemmed hg ih (ha.part (deferred_base_subset node)) hh h hc

end Translation

end Baml

end StructuredOutput
