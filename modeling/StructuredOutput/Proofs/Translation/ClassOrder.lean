import StructuredOutput.Proofs.Agreement.ObjectsMet
import StructuredOutput.Proofs.SourceText.ClassBlocks
import StructuredOutput.Proofs.Translation.Mentions

/-! # The order of the classes

The classes are printed in the order in which they were completed. Without recursive references no type
mentions a class that is pending: the only expression that can name a class before its end is the one
recorded for the reference behind which it is declared, and nothing inside the definition leads back to
that reference. So there every class that is mentioned is printed before the class that mentions it. -/
namespace StructuredOutput.Baml

open Schema (Graph Node Ref)
open Relation (ReflTransGen TransGen)

/-! ## References that a node leads to -/

section References

variable (g : Graph)

/-- Whether a reference occurs in a node, also in an element that is given by a call. -/
def Occurs (ref : Ref) (node : Node) : Prop :=
  ∃ description name, Translation.Under g (.lazy description name ref) node

/-- Whether one reference occurs in the definition behind another. -/
def Follows (a b : Ref) : Prop := ∃ node, g.resolve a = .ok node ∧ Occurs g b node

/-- Whether a node leads to a reference, definitions entered. -/
def LeadsTo (node : Node) (ref : Ref) : Prop :=
  ∃ first, Occurs g first node ∧ ReflTransGen (Follows g) first ref

/-- Whether no reference that a node leads to leads back to itself. -/
def Unrecursive (node : Node) : Prop := ∀ ref, LeadsTo g node ref → ¬ TransGen (Follows g) ref ref

/-- Whether a node without recursive references leads to none of the references that are being
translated. -/
structure Untangled (busy : List Ref) (node : Node) : Prop where
  clear : ∀ ref, LeadsTo g node ref → ref ∉ busy
  unrecursive : Unrecursive g node

variable {g} {busy : List Ref} {node inner : Node} {ref : Ref}

theorem Untangled.part (h : Untangled g busy node) (hp : Translation.Under g inner node) :
    Untangled g busy inner := by
  have hleads : ∀ ref, LeadsTo g inner ref → LeadsTo g node ref := by
    rintro ref ⟨first, ⟨description, name, hu⟩, hr⟩
    exact ⟨first, ⟨description, name, hu.trans hp⟩, hr⟩
  exact ⟨fun ref hl => h.clear ref (hleads ref hl), fun ref hl => h.unrecursive ref (hleads ref hl)⟩

theorem leadsTo_behind (description name : Json) {target : Node} {r : Ref}
    (hr : g.resolve ref = .ok target) (hl : LeadsTo g target r) :
    LeadsTo g (.lazy description name ref) r ∧ TransGen (Follows g) ref r := by
  obtain ⟨first, ho, hf⟩ := hl
  have hstep : Follows g ref first := ⟨target, hr, ho⟩
  exact ⟨⟨ref, ⟨_, _, .self⟩, .head hstep hf⟩, .head' hstep hf⟩

theorem Untangled.not_busy {description name : Json} {r : Ref}
    (h : Untangled g busy (.lazy description name ref)) (hb : r ∈ busy) : ref ≠ r :=
  fun he => h.clear ref ⟨ref, ⟨_, _, .self⟩, .refl⟩ (he ▸ hb)

/-- The definition behind a reference leads to none that is being translated, itself included. -/
theorem Untangled.behind {description name : Json} {target : Node}
    (h : Untangled g busy (.lazy description name ref)) (hr : g.resolve ref = .ok target) :
    Untangled g (ref :: busy) target := by
  refine ⟨fun r hl hm => ?_, fun r hl => h.unrecursive r (leadsTo_behind _ _ hr hl).1⟩
  obtain ⟨hleads, hcycle⟩ := leadsTo_behind description name hr hl
  rcases List.mem_cons.mp hm with rfl | hm
  · exact h.unrecursive r ⟨r, ⟨_, _, .self⟩, .refl⟩ hcycle
  · exact h.clear r hleads hm

theorem Untangled.mono {more : List Ref} (h : Untangled g busy node) (hm : more ⊆ busy) :
    Untangled g more node :=
  ⟨fun ref hl hr => h.clear ref hl (hm hr), h.unrecursive⟩

/-- The fields of an object under wrappers. -/
theorem Untangled.members {description : Json} {members : List (String × Node)}
    (h : Untangled g busy node) (hb : node.base = .object description members) :
    ∀ member ∈ members, Untangled g busy member.2 := by
  intro member hm
  refine h.part (Translation.under_of_base node ?_)
  rw [hb]
  exact .field hm .self

/-- The key of a record; a string stands for one that is absent. -/
theorem Untangled.key {description : Json} {key value : Node}
    (h : Untangled g busy (.record description key value)) :
    Untangled g busy (if key.isAbsent then .primitive .null (.str "string") else key) := by
  split
  · have hnone : ∀ ref, ¬ LeadsTo g (.primitive .null (.str "string")) ref := by
      rintro ref ⟨first, ⟨description, name, hu⟩, -⟩
      cases hu
    exact ⟨fun ref hl => absurd hl (hnone ref), fun ref hl => absurd hl (hnone ref)⟩
  · exact h.part (.key .self)

end References

namespace Declarations

def Finished (d : Declarations) (expr : String) : Prop :=
  ∀ word ∈ identifiers expr, word ∉ d.pending

/-- Whether the classes that are completed mention only what comes before them, and what is recorded for
references names no pending class, but for those that are being translated. -/
structure InOrder (busy : List Ref) (d : Declarations) : Prop where
  sorted : ∀ name ∈ d.order, ∀ word, d.Mentions name word →
    d.Other word ∨ Precedes d.order word name
  finished : ∀ ref expr, d.lazy? ref = some expr → ref ∉ busy → d.Finished expr

variable {d d₁ d' : Declarations} {busy : List Ref} {name : String}

theorem inOrder_empty (busy : List Ref) : InOrder busy {} :=
  ⟨by simp, by simp [lazy?]⟩

theorem not_builtin_of_pending (h : d.Tidy) (hp : name ∈ d.pending) : name ∉ builtins :=
  h.not_builtin ((classNames_sublist d).subset (mem_classNames_of_pending hp))

/-- A class that was just declared mentions nothing. -/
theorem not_mentions_declared {text word : String} (hd : d.declareClass text = (name, d₁)) :
    ¬ d₁.Mentions name word := by
  rintro ⟨c, hc, field, hf, -⟩
  have hfresh := declareClass_fresh d text
  cases hd
  rcases List.mem_append.mp hc with hc | hc
  · exact hfresh (List.mem_map_of_mem hc)
  · cases List.mem_singleton.mp hc
    cases hf

namespace InOrder

/-- More is declared, and no class is completed. -/
theorem extend {opened : List String} (h : InOrder busy d) (ht : d.Tidy) (he : Extends opened d d')
    (ho : d'.order = d.order) (hopen : ∀ name ∈ opened, name ∉ d.order)
    (hl : ∀ ref, d'.lazy? ref = d.lazy? ref)
    (hf : ∀ ref expr, d.lazy? ref = some expr → d.Finished expr → d'.Finished expr) :
    InOrder busy d' := by
  refine ⟨fun name hn word hm => ?_, fun ref expr hr hb => ?_⟩
  · rw [ho] at hn ⊢
    have hm₀ := he.fixed name word (ht.ordered hn) (fun hmem => hopen name hmem hn) hm
    exact (h.sorted name hn word hm₀).imp_left (he.other word)
  · rw [hl] at hr
    exact hf ref expr hr (h.finished ref expr hr hb)

/-- A class is declared. Its name is no word of what was recorded before. -/
theorem declareClass {text : String} (h : InOrder busy d) (ht : d.Tidy)
    (hd : d.declareClass text = (name, d₁)) : InOrder busy d₁ := by
  obtain ⟨ht₁, -, hpending, hfresh, -⟩ := declareClass_pends ht hd
  have hgrows : Grows d d₁ := by
    have := (gains_class d text).grows
    rwa [hd] at this
  have hname : name ∈ d₁.pending := by simp [hpending]
  have hsame : d₁.order = d.order ∧ ∀ ref, d₁.lazy? ref = d.lazy? ref := by
    cases hd
    exact ⟨rfl, fun _ => rfl⟩
  refine h.extend ht (hgrows.extends ht₁ []) hsame.1 (by simp) hsame.2 ?_
  intro ref expr hr hf word hw hm
  rw [hpending] at hm
  rcases List.mem_append.mp hm with hm | hm
  · exact hf word hw hm
  · obtain rfl := List.mem_singleton.mp hm
    rcases (lazy?_sealed ht hr).closed word hw with hb | hn
    · exact not_builtin_of_pending ht₁ hname hb
    · exact hfresh hn

/-- A class that mentions no pending class is completed. -/
theorem completeClass (h : InOrder busy d) (ht : d.Tidy)
    (hm : ∀ word, d.Mentions name word → word ∉ d.pending) : InOrder busy (d.completeClass name) := by
  refine ⟨fun other ho word hw => ?_, fun ref expr hr hb word hw hp => ?_⟩
  · rcases List.mem_append.mp ho with ho | ho
    · exact (h.sorted other ho word hw).imp_right fun hp => hp.trans (List.sublist_append_left _ _)
    · obtain rfl := List.mem_singleton.mp ho
      rcases ht.mentions_cases hw with hother | horder | hpending
      · exact .inl hother
      · exact .inr ((List.singleton_sublist.mpr horder).append (List.Sublist.refl _))
      · exact absurd hpending (hm word hw)
  · refine h.finished ref expr hr hb word hw (List.mem_filter.mpr ⟨(List.mem_filter.mp hp).1, ?_⟩)
    have hnot := of_decide_eq_true (List.mem_filter.mp hp).2
    exact decide_eq_true fun ho => hnot (List.mem_append_left _ ho)

/-- What is recorded for a reference names no pending class. -/
theorem recordLazy (h : InOrder busy d) {ref : Ref} {expr : String}
    (hf : ref ∉ busy → d.Finished expr) : InOrder busy (d.recordLazy ref expr) := by
  refine ⟨h.sorted, fun r e hr hb => ?_⟩
  rw [lazy?_recordLazy] at hr
  split at hr
  · rename_i he
    cases hr
    exact hf (he ▸ hb)
  · exact h.finished r e hr hb

/-- A reference is no longer being translated. -/
theorem release {ref : Ref} {expr : String} (h : InOrder (ref :: busy) d)
    (hr : d.lazy? ref = some expr) (hf : d.Finished expr) : InOrder busy d := by
  refine ⟨h.sorted, fun r e he hb => ?_⟩
  by_cases hsame : r = ref
  · subst hsame
    cases hr.symm.trans he
    exact hf
  · exact h.finished r e he (by simp [hsame, hb])

theorem mono {more : List Ref} (h : InOrder busy d) (hm : busy ⊆ more) : InOrder more d :=
  ⟨h.sorted, fun ref expr hr hb => h.finished ref expr hr fun hin => hb (hm hin)⟩

end InOrder

end Declarations

/-! ## One step of the translator -/

namespace Translation

open Declarations (Tidy Keeps Extends InOrder extends_addField)

/-- A translation of nodes that keeps the order, as far as nothing that is being translated is led to:
the expression it returns names no pending class, and what stands for those references stays. -/
def Orders (g : Graph) (inside : Node → NameHint → Translation String) : Prop :=
  ∀ busy node hint d expr d', Tidy d → InOrder busy d → Untangled g busy node →
    Returns (inside node hint) d expr d' →
    InOrder busy d' ∧ d'.Finished expr ∧ ∀ ref ∈ busy, d'.lazy? ref = d.lazy? ref

variable {g : Graph} {s : Settings.Translator} {inside : Node → NameHint → Translation String}
variable {d d₁ d' : Declarations} {hint : NameHint} {expr name : String} {busy : List Ref}

theorem fields_order (hi : Steady inside) (hc : Completes inside) (ho : Orders g inside)
    {members : List (String × Node)} :
    ∀ {used : List String} {d : Declarations}, Tidy d → InOrder busy d → name ∈ d.pending →
      (∀ word, d.Mentions name word → word ∉ d.pending) →
      (∀ member ∈ members, Untangled g busy member.2) →
      Returns (fields s inside name used members) d () d' →
      InOrder busy d' ∧ (∀ word, d'.Mentions name word → word ∉ d'.pending) ∧
        ∀ ref ∈ busy, d'.lazy? ref = d.lazy? ref := by
  induction members with
  | nil =>
    intro used d _ h _ hm _ hr
    cases returns_fields_nil.mp hr
    exact ⟨h, hm, fun _ _ => rfl⟩
  | cons member rest ih =>
    obtain ⟨key, node⟩ := member
    intro used d ht h hn hm hu hr
    obtain ⟨hnode, hrest⟩ := List.forall_mem_cons.mp hu
    obtain ⟨peeled, type, d₁, -, hin, hfields⟩ := returns_fields_cons.mp hr
    obtain ⟨he, hk, hs⟩ := extends_inside hi hc ht hin
    obtain ⟨h₁, hfinished, hkept⟩ := ho _ _ _ _ _ _ ht h hnode hin
    have hn₁ : name ∈ d₁.pending := hk.pending ▸ hn
    have hadded : Keeps d₁ (d₁.addField name (newField used key type peeled)) :=
      Declarations.addField_keeps hk.tidy hs name
    have h₂ : InOrder busy (d₁.addField name (newField used key type peeled)) := by
      refine h₁.extend hk.tidy (extends_addField _ _ _) rfl ?_ (fun _ => rfl) ?_
      · rintro other hm
        obtain rfl := List.mem_singleton.mp hm
        exact of_decide_eq_true (List.mem_filter.mp hn₁).2
      · exact fun _ _ _ hf word hw hp => hf word hw (hadded.pending ▸ hp)
    have hfree : ∀ word, (d₁.addField name (newField used key type peeled)).Mentions name word →
        word ∉ (d₁.addField name (newField used key type peeled)).pending := by
      intro word hw
      rw [hadded.pending]
      rcases Declarations.mentions_addField.mp hw with hw | ⟨-, -, hw⟩
      · rw [hk.pending]
        exact hm word (he.fixed _ _ (Declarations.mem_classNames_of_pending hn) (by simp) hw)
      · exact hfinished word hw
    obtain ⟨h', hm', hkept'⟩ := ih hadded.tidy h₂ (hadded.pending ▸ hn₁) hfree hrest hfields
    exact ⟨h', hm', fun ref hb => (hkept' ref hb).trans (hkept ref hb)⟩

theorem options_order (hc : Completes inside) (ho : Orders g inside) {nodes : List Node} :
    ∀ {index : Nat} {parts : List String} {d : Declarations}, Tidy d → InOrder busy d →
      (∀ node ∈ nodes, Untangled g busy node) →
      Returns (options inside hint index nodes) d parts d' →
      InOrder busy d' ∧ d'.pending = d.pending ∧ (∀ part ∈ parts, d'.Finished part) ∧
        ∀ ref ∈ busy, d'.lazy? ref = d.lazy? ref := by
  induction nodes with
  | nil =>
    intro index parts d _ h _ hr
    obtain ⟨rfl, rfl⟩ := returns_options_nil.mp hr
    exact ⟨h, rfl, by simp, fun _ _ => rfl⟩
  | cons node rest ih =>
    intro index parts d ht h hu hr
    obtain ⟨hnode, hrest⟩ := List.forall_mem_cons.mp hu
    obtain ⟨first, others, d₁, hin, hoptions, rfl⟩ := returns_options_cons.mp hr
    obtain ⟨hk, -⟩ := hc _ _ _ _ _ ht hin
    obtain ⟨h₁, hfinished, hkept⟩ := ho _ _ _ _ _ _ ht h hnode hin
    obtain ⟨h', hpending, hall, hkept'⟩ := ih hk.tidy h₁ hrest hoptions
    refine ⟨h', hpending.trans hk.pending, List.forall_mem_cons.mpr ⟨?_, hall⟩,
      fun ref hb => (hkept' ref hb).trans (hkept ref hb)⟩
    exact fun word hw hp => hfinished word hw (hpending ▸ hp)

/-- A class for an object, from its declaration to its completion. -/
theorem object_order (hi : Steady inside) (hc : Completes inside) (ho : Orders g inside)
    {members : List (String × Node)} (ht : Tidy d) {text : String}
    (hd : d.declareClass text = (name, d₁)) {ready : Declarations} (hready : Keeps d₁ ready)
    (hclasses : ready.classes = d₁.classes) (h : InOrder busy ready)
    (hu : ∀ member ∈ members, Untangled g busy member.2) {d₂ : Declarations}
    (hf : Returns (fields s inside name [] members) ready () d₂) :
    InOrder busy (d₂.completeClass name) ∧ name ∉ (d₂.completeClass name).pending ∧
      ∀ ref ∈ busy, (d₂.completeClass name).lazy? ref = ready.lazy? ref := by
  obtain ⟨-, -, hpending, hfresh, -⟩ := Declarations.declareClass_pends ht hd
  have hn : name ∈ ready.pending := by
    rw [hready.pending, hpending]
    simp
  have hnone : ∀ word, ready.Mentions name word → word ∉ ready.pending := by
    intro word hw
    unfold Declarations.Mentions at hw
    rw [hclasses] at hw
    exact absurd hw (Declarations.not_mentions_declared hd)
  have hkeeps := fields_keeps hc hready.tidy hf
  obtain ⟨h₂, hm, hkept⟩ := fields_order hi hc ho hready.tidy h hn hnone hu hf
  obtain ⟨hdone, -⟩ := Declarations.completed_keeps ht hd (hready.trans hkeeps)
  refine ⟨h₂.completeClass hkeeps.tidy hm, fun hp => hfresh ?_, hkept⟩
  rw [hdone.pending] at hp
  exact (Declarations.classNames_sublist d).subset (Declarations.mem_classNames_of_pending hp)

/-- An expression of builtin words names no class. -/
theorem finished_builtin (ht : Tidy d) (hb : expr ∈ builtins) : d.Finished expr := by
  intro word hw hp
  rw [identifiers_builtin hb, List.mem_singleton] at hw
  exact Declarations.not_builtin_of_pending ht hp (hw ▸ hb)

/-- An enum or an alias is declared. -/
theorem value_order (h : InOrder busy d) (ht : Tidy d) {text : String}
    (hd : Declarations.Gains d text d') (hclasses : d'.classes = d.classes) :
    InOrder busy d' ∧ d'.Finished (d.uniqueName text).1 ∧ ∀ ref ∈ busy, d'.lazy? ref = d.lazy? ref := by
  obtain ⟨hk, -⟩ := hd.keeps ht hclasses
  have hl (ref : Ref) : d'.lazy? ref = d.lazy? ref := by
    rw [Declarations.lazy?, hd.lazies, Declarations.lazy?]
  have hpending {expr : String} (hf : d.Finished expr) : d'.Finished expr :=
    fun word hw hp => hf word hw (hk.pending ▸ hp)
  refine ⟨h.extend ht (hd.grows.extends hk.tidy []) hd.order (by simp) hl fun _ _ _ => hpending,
    hpending fun word hw hp => Declarations.uniqueName_fresh d text ?_, fun ref _ => hl ref⟩
  have hname := Declarations.isTypeName_uniqueName ht.counter text
  rw [identifiers_typeName hname, List.mem_singleton] at hw
  exact (Declarations.classNames_sublist d).subset
    (Declarations.mem_classNames_of_pending (hw ▸ hp))

/-- An object behind a reference. While it is translated the reference is busy: what stands for it names
the class that is pending. -/
theorem lazyObject_order (hi : Steady inside) (hc : Completes inside) (ho : Orders g inside)
    (ht : Tidy d) (h : InOrder busy d) {description lazyName : Json} {ref : Ref} {resolved : Node}
    (hu : Untangled g busy (.lazy description lazyName ref)) (hres : g.resolve ref = .ok resolved)
    {objectDescription : Json} {members : List (String × Node)}
    (hobj : resolved.base = .object objectDescription members) {text : String}
    (hd : d.declareClass text = (name, d₁)) {nullable : Bool}
    (hexpr : expr = if nullable then name ++ " | null" else name) {d₂ : Declarations}
    (hf : Returns (fields s inside name [] members) (d₁.recordLazy ref expr) () d₂) :
    InOrder busy (d₂.completeClass name) ∧ (d₂.completeClass name).Finished expr ∧
      ∀ r ∈ busy, (d₂.completeClass name).lazy? r = d.lazy? r := by
  obtain ⟨ht₁, -, -, -, hs⟩ := Declarations.declareClass_pends ht hd
  obtain ⟨-, hwords, hwithNull⟩ := identifiers_object ht.counter hd
  have hsealed : Sealed d₁ expr := by
    rw [hexpr]
    split
    · exact hs.withNull
    · exact hs
  have hready := Declarations.recordLazy_keeps ht₁ hsealed ref
  have hstart : InOrder (ref :: busy) (d₁.recordLazy ref expr) :=
    ((h.declareClass ht hd).mono (List.subset_cons_self _ _)).recordLazy
      fun hb => absurd List.mem_cons_self hb
  obtain ⟨h', hfree, hkept⟩ :=
    object_order hi hc ho ht hd hready rfl hstart ((hu.behind hres).members hobj) hf
  obtain ⟨hdone, -⟩ :=
    Declarations.completed_keeps ht hd (hready.trans (fields_keeps hc hready.tidy hf))
  have hfinished : (d₂.completeClass name).Finished expr := by
    intro word hw hpending
    have hcases : word = name ∨ word = "null" := by
      rw [hexpr] at hw
      split at hw
      · simpa [hwithNull] using hw
      · exact .inl (by simpa [hwords] using hw)
    rcases hcases with rfl | rfl
    · exact hfree hpending
    · exact Declarations.not_builtin_of_pending hdone.tidy hpending (by decide)
  have hself := hkept ref List.mem_cons_self
  rw [Declarations.lazy?_recordLazy, if_pos rfl] at hself
  refine ⟨h'.release hself hfinished, hfinished, fun r hb => ?_⟩
  rw [hkept r (List.mem_cons_of_mem _ hb), Declarations.lazy?_recordLazy, if_neg (hu.not_busy hb)]
  cases hd
  rfl

/-- Another node behind a reference. Nothing stands for the reference before its definition is
translated. -/
theorem lazyOther_order (ho : Orders g inside) (ht : Tidy d) (h : InOrder busy d)
    {description lazyName : Json} {ref : Ref} {resolved : Node}
    (hu : Untangled g busy (.lazy description lazyName ref)) (hres : g.resolve ref = .ok resolved)
    (hin : Returns (inside resolved hint) { d with depth := d.depth + 1 } expr d₁) :
    InOrder busy (({ d₁ with depth := d₁.depth - 1 } : Declarations).recordLazy ref expr) ∧
      (({ d₁ with depth := d₁.depth - 1 } : Declarations).recordLazy ref expr).Finished expr ∧
      ∀ r ∈ busy, (({ d₁ with depth := d₁.depth - 1 } : Declarations).recordLazy ref expr).lazy? r =
        d.lazy? r := by
  have hpart := (hu.behind hres).mono (List.subset_cons_self ref busy)
  have hdeeper : InOrder busy { d with depth := d.depth + 1 } := ⟨h.sorted, h.finished⟩
  obtain ⟨h₁, hfinished, hkept⟩ := ho _ _ _ _ _ _ (ht.atDepth _) hdeeper hpart hin
  have hback : InOrder busy { d₁ with depth := d₁.depth - 1 } := ⟨h₁.sorted, h₁.finished⟩
  refine ⟨hback.recordLazy fun _ => hfinished, hfinished, fun r hb => ?_⟩
  rw [Declarations.lazy?_recordLazy, if_neg (hu.not_busy hb)]
  exact hkept r hb

theorem core_order (hi : Steady inside) (hc : Completes inside) (ho : Orders g inside) {node : Node}
    (ht : Tidy d) (h : InOrder busy d) (hu : Untangled g busy node)
    (hr : Returns (core g s inside node hint) d expr d') :
    InOrder busy d' ∧ d'.Finished expr ∧ ∀ ref ∈ busy, d'.lazy? ref = d.lazy? ref := by
  have hkept : ∀ ref ∈ busy, d.lazy? ref = d.lazy? ref := fun _ _ => rfl
  cases core_cases hr with
  | object hd hf =>
    obtain ⟨text, -, hd⟩ := returns_declareClass.mp hd
    obtain ⟨ht₁, -⟩ := Declarations.declareClass_pends ht hd
    obtain ⟨-, hwords, -⟩ := identifiers_object ht.counter hd
    obtain ⟨h', hfree, hkept'⟩ := object_order hi hc ho ht hd (.refl ht₁) rfl
      (h.declareClass ht hd) (fun member hm => hu.part (.field hm .self)) hf
    refine ⟨h', fun word hw => ?_, fun ref hb => (hkept' ref hb).trans ?_⟩
    · rw [hwords] at hw
      exact List.mem_singleton.mp hw ▸ hfree
    · cases hd
      rfl
  | primitive hp => exact ⟨h, finished_builtin ht (primitiveType_builtin hp), hkept⟩
  | literal => exact ⟨h, finished_builtin ht (literalType_builtin _), hkept⟩
  | anyString => exact ⟨h, finished_builtin ht (by decide), hkept⟩
  | strings =>
    have hstring : d.Finished "string" := finished_builtin ht (by decide)
    refine ⟨h, fun word hw => hstring word ?_, hkept⟩
    rwa [identifiers_brackets (Bare.group (by simp [Bare])), identifiers_group (by simp [Bare])]
      at hw
  | array he ha hin =>
    have hb := (hc _ _ _ _ _ ht hin).2.bare
    obtain ⟨h', hfinished, hkept'⟩ := ho _ _ _ _ _ _ ht h (hu.part (.element he ha .self)) hin
    refine ⟨h', fun word hw => hfinished word ?_, hkept'⟩
    rwa [identifiers_brackets hb.group, identifiers_group hb] at hw
  | names => exact value_order h ht (Declarations.gains_enum d _ _) rfl
  | literals => exact value_order h ht (Declarations.gains_alias d _ _) rfl
  | record _ hkey hvalue =>
    obtain ⟨hk, hs⟩ := hc _ _ _ _ _ ht hkey
    obtain ⟨hk', hs'⟩ := hc _ _ _ _ _ hk.tidy hvalue
    obtain ⟨h₁, hfirst, hkept₁⟩ := ho _ _ _ _ _ _ ht h hu.key hkey
    obtain ⟨h', hsecond, hkept'⟩ := ho _ _ _ _ _ _ hk.tidy h₁ (hu.part (.value .self)) hvalue
    refine ⟨h', fun word hw hp => ?_, fun ref hb => (hkept' ref hb).trans (hkept₁ ref hb)⟩
    rw [identifiers_map hs.bare hs'.bare, List.mem_cons, List.mem_append] at hw
    rcases hw with rfl | hw | hw
    · exact Declarations.not_builtin_of_pending hk'.tidy hp List.mem_cons_self
    · exact hfirst word hw (hk'.pending ▸ hp)
    · exact hsecond word hw hp
  | union _ hoptions =>
    obtain ⟨hk, hsealed⟩ := options_keeps hc ht hoptions
    obtain ⟨h', -, hall, hkept'⟩ :=
      options_order hc ho ht h (fun node hm => hu.part (.option hm .self)) hoptions
    refine ⟨h', fun word hw => ?_, hkept'⟩
    obtain ⟨part, hm, hw⟩ := (mem_identifiers_join fun part hm => (hsealed part hm).bare).mp hw
    exact hall part hm word hw
  | bare _ hin => exact ho _ _ _ _ _ _ ht h (hu.part (.bare .self)) hin
  | reused hl =>
    exact ⟨h, h.finished _ _ hl (hu.clear _ ⟨_, ⟨_, _, .self⟩, .refl⟩), hkept⟩
  | lazyObject _ hres hp hobj hd htype hf =>
    obtain ⟨text, -, hd⟩ := returns_declareClass.mp hd
    exact lazyObject_order hi hc ho ht h hu hres ((Schema.peel_ok hp).1.symm.trans hobj) hd htype hf
  | lazyOther _ hres _ _ _ hin => exact lazyOther_order ho ht h hu hres hin

theorem step_order (hi : Steady inside) (hc : Completes inside) (ho : Orders g inside) :
    Orders g (step g s inside) := by
  intro busy node hint d expr d' ht h hu hr
  obtain ⟨peeled, type, hp, hcore, rfl⟩ := returns_step.mp hr
  have hbase : Untangled g busy peeled.node := by
    rw [(Schema.peel_ok hp).1]
    exact hu.part (under_of_base node .self)
  obtain ⟨h', hfinished, hkept⟩ := core_order hi hc ho ht h hbase hcore
  refine ⟨h', ?_, hkept⟩
  split
  · obtain ⟨hk, hs⟩ := core_completes hc ht hcore
    intro word hw hpending
    rcases (mem_identifiers_orNull hs.bare).mp hw with hw | rfl
    · exact hfinished word hw hpending
    · exact Declarations.not_builtin_of_pending hk.tidy hpending (by decide)
  · exact hfinished

theorem within_order (g : Graph) (s : Settings.Translator) (nesting : Nat) :
    Orders g (within g s nesting) := by
  induction nesting with
  | zero => intro busy node hint d expr d' _ _ _ hr; exact (returns_throw hr).elim
  | succ nesting ih =>
    exact step_order (within_steady g s nesting) (within_completes g s nesting) ih

end Translation

/-! ## Whole translations -/

namespace Declarations

variable {d : Declarations} {word name : String}

/-- What precedes a name in a list without repeats stands in front of it. -/
theorem Precedes.mem_before {before after : List String} (h : (before ++ name :: after).Nodup)
    (hp : Precedes (before ++ name :: after) word name) : word ∈ before := by
  obtain ⟨-, hcons, hapart⟩ := List.nodup_append.mp h
  have hbefore : name ∉ before := fun hm => hapart name hm name List.mem_cons_self rfl
  obtain ⟨first, second, he, hf, hs⟩ := List.sublist_append_iff.mp hp
  cases first with
  | nil =>
    rw [List.nil_append] at he
    subst he
    have hlast : [name].Sublist after := by
      cases hs with
      | cons _ hs => exact (List.sublist_cons_self _ _).trans hs
      | cons_cons _ hs => exact hs
    exact absurd (hlast.subset List.mem_cons_self) (List.nodup_cons.mp hcons).1
  | cons head rest =>
    obtain ⟨rfl, -⟩ := List.cons.inj he
    exact hf.subset List.mem_cons_self

/-- Behind a translation from nothing every class has been placed. -/
theorem placed_of_translate {g : Graph} {s : Settings.Translator} {node : Node} {hint : NameHint}
    {expr : String} (hr : Translation.Returns (translate g s node hint) {} expr d)
    (hn : name ∈ d.classNames) (hm : d.Mentions name word) : d.Placed word name := by
  have hplacement := Translation.within_places g s _ _ _ _ _ _ tidy_empty
    (Translation.returns_translate.mp hr)
  have hnone : ∀ other, other ∉ classNames {} := by simp [classNames]
  exact (hplacement.placed name hn (hnone name) word hm).resolve_right fun hp =>
    hnone word (mem_classNames_of_pending hp)

end Declarations

/-- The classes are printed in the order in which they were completed. What a field mentions has its block
in front of the class's own in the text, or leads back to the class by mentions; without recursive
references its block always stands in front. -/
theorem definitions_first {g : Graph} {s : Settings.Translator} {node : Node} {hint : NameHint}
    {expr : String} {d : Declarations}
    (hr : Translation.Returns (translate g s node hint) {} expr d) :
    ∃ printed : List Class, d.completed = .ok printed ∧ printed.map (·.name) = d.order ∧
      ∀ function root client, ∃ text, d.render function root client = .ok text ∧
        text = sourceText (d.enums.map fun e => enumText e.1 (e.2.map Json.display)) d.aliases
          (printed.map Class.block) function root client ∧
        (OneLine function → OneLine root → openedClasses text = d.order) ∧
        ∀ (before : List Class) (c : Class) (after : List Class), printed = before ++ c :: after →
          ∀ field ∈ c.fields, ∀ word ∈ identifiers field.type, word ∈ d.classNames →
            (ShowsBefore text before word c ∨ ReflTransGen d.Mentions word c.name) ∧
            (Unrecursive g node → ShowsBefore text before word c) := by
  have hreached := Reached.call .start hr
  obtain ⟨htidy, hpending⟩ := Declarations.Tidy.of_reached hreached
  obtain ⟨printed, hprinted, hperm, hnames⟩ := htidy.completed hpending
  refine ⟨printed, hprinted, hnames, fun function root client =>
    ⟨_, Declarations.render_eq hprinted function root client, rfl, fun hf hr => ?_, ?_⟩⟩
  · exact (openedClasses_sourceText hreached hperm hf hr client).trans hnames
  rintro before c after rfl field hf word hw hclass
  have horder : d.order = before.map (·.name) ++ c.name :: after.map (·.name) := by
    simp [← hnames]
  have hnodup := horder ▸ htidy.order
  have hmem : (c.name, c) ∈ d.classes := by
    have hm := hperm.subset (List.mem_append_right before List.mem_cons_self)
    obtain ⟨entry, he, rfl⟩ := List.mem_map.mp hm
    rw [htidy.own entry he]
    exact he
  have hmention : d.Mentions c.name word := ⟨c, hmem, field, hf, hw⟩
  have hnot := htidy.not_other hclass
  obtain ⟨front, back, htext⟩ := blocks_infix
    (d.enums.map fun e => enumText e.1 (e.2.map Json.display)) d.aliases (before ++ c :: after) function
    root client
  have hbefore (hp : Declarations.Precedes d.order word c.name) :=
    showsBefore_of_mem htext (Declarations.Precedes.mem_before hnodup (horder ▸ hp))
  constructor
  · have hplaced := Declarations.placed_of_translate hr (List.mem_map_of_mem hmem) hmention
    exact (hplaced.resolve_left hnot).imp_left hbefore
  · intro hacyclic
    have hu : Untangled g [] node := ⟨fun _ _ => List.not_mem_nil, hacyclic⟩
    obtain ⟨hin, -⟩ := Translation.within_order g s _ _ _ _ _ _ _ Declarations.tidy_empty
      (Declarations.inOrder_empty []) hu hr
    have hcompleted : c.name ∈ d.order := by simp [horder]
    exact hbefore ((hin.sorted c.name hcompleted word hmention).resolve_left hnot)

/-- A table of two objects that hold each other, and of one that holds a text. -/
def pairTable : Graph :=
  ⟨[(⟨0, "a"⟩, .ok (.object .null [("b", .lazy .null (.str "B") ⟨0, "b"⟩)])),
    (⟨0, "b"⟩, .ok (.object .null [("a", .lazy .null (.str "A") ⟨0, "a"⟩)])),
    (⟨0, "leaf"⟩, .ok (.object .null [("text", .primitive .null (.str "string"))]))]⟩

def pair : Node := .lazy .null (.str "A") ⟨0, "a"⟩

def leaves : Node :=
  .object .null [("first", .lazy .null (.str "Leaf") ⟨0, "leaf"⟩),
    ("more", .array .null [.lazy .null (.str "Leaf") ⟨0, "leaf"⟩] .null .null)]

theorem leaves_unrecursive : Unrecursive pairTable leaves := by
  have hend : ∀ b, ¬ Follows pairTable ⟨0, "leaf"⟩ b := by
    rintro b ⟨node, hr, description, name, hu⟩
    cases hr
    cases hu with
    | field hm hu =>
      obtain rfl := List.mem_singleton.mp hm
      cases hu
  have hoccurs : ∀ ref, Occurs pairTable ref leaves → ref = ⟨0, "leaf"⟩ := by
    rintro ref ⟨description, name, hu⟩
    cases hu with
    | field hm hu =>
      simp only [List.mem_cons, List.not_mem_nil, or_false] at hm
      rcases hm with rfl | rfl
      · cases hu
        rfl
      · cases hu with
        | element he _ hu =>
          cases he
          cases hu
          rfl
  rintro ref ⟨first, ho, hr⟩ hcycle
  obtain rfl := hoccurs first ho
  rcases ReflTransGen.cases_head hr with rfl | ⟨next, hnext, -⟩
  · obtain ⟨next, hnext, -⟩ := TransGen.head'_iff.mp hcycle
    exact hend next hnext
  · exact hend next hnext

/-- In the pair the second class is printed first and mentions the first one, which leads to it. The block of
the leaf stands before the block of what holds it. -/
theorem definitions_first_pair : ∃ d d' : Declarations,
    Translation.Returns (translate pairTable {} pair .none) {} "A" d ∧
    d.order = ["B", "A"] ∧ ReflTransGen d.Mentions "A" "B" ∧
    Translation.Returns (translate pairTable {} leaves .none) {} "Obj" d' ∧
    ∃ (text front between back : String) (leaf obj : Class), leaf.name = "Leaf" ∧ obj.name = "Obj" ∧
      d'.render "GenRoot" "Obj" .null = .ok text ∧ openedClasses text = ["Leaf", "Obj"] ∧
      text = front ++ leaf.block ++ between ++ obj.block ++ back := by
  have hpair : Translation.Returns (translate pairTable {} pair .none) {} "A"
    (Translation.after (translate pairTable {} pair .none) {}) := rfl
  have hleaves : Translation.Returns (translate pairTable {} leaves .none) {} "Obj"
    (Translation.after (translate pairTable {} leaves .none) {}) := rfl
  obtain ⟨printed, hp, -, hshown⟩ := definitions_first hpair
  obtain ⟨printed', hp', -, hshown'⟩ := definitions_first hleaves
  obtain ⟨first, -, -, -, hall⟩ := hshown "GenRoot" "A" .null
  obtain ⟨text, hrender, -, hopened, hall'⟩ := hshown' "GenRoot" "Obj" .null
  cases hp
  cases hp'
  have hfirst : "A" ∈ identifiers "A" := by
    rw [identifiers_typeName (by decide)]
    exact List.mem_cons_self
  have hleaf : "Leaf" ∈ identifiers "Leaf" := by
    rw [identifiers_typeName (by decide)]
    exact List.mem_cons_self
  have hchain := (hall [] _ _ rfl _ List.mem_cons_self "A" hfirst (by decide)).1
  obtain ⟨leaf, -, hname, front, between, back, htext⟩ :=
    (hall' [_] _ [] rfl _ List.mem_cons_self "Leaf" hleaf (by decide)).2 leaves_unrecursive
  refine ⟨_, _, hpair, rfl, hchain.resolve_left ?_, hleaves, text, front, between, back, leaf, _, hname,
    rfl, hrender, hopened (by simp [OneLine]) (by simp [OneLine]), htext⟩
  rintro ⟨m, hm, -⟩
  exact List.not_mem_nil hm

end StructuredOutput.Baml
