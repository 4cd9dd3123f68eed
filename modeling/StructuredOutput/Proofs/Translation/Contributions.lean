import StructuredOutput.Proofs.Translation.RecordedReferences
import StructuredOutput.Proofs.Translation.Sites

/-! # What references contribute

A reference contributes an expression when its definition has been translated and each time it is
met again. A definition that was ended is not entered again, so one that is entered twice is entered
while it is being translated. A definition that is entered once contributes one expression; one
without sites does so in any case, as long as those it refers to do. -/
namespace StructuredOutput.Baml.Translation

open Schema (Graph Node Ref Parsed Refers Settles)
open Declarations (Recorded)

def Gives (events : List Event) (ref : Ref) (expr : String) : Prop :=
  .leaves ref expr ∈ events ∨ .reuses ref expr ∈ events

theorem gives_append {events events' : List Event} {ref : Ref} {expr : String} :
    Gives (events ++ events') ref expr ↔ Gives events ref expr ∨ Gives events' ref expr := by
  simp only [Gives, List.mem_append]
  tauto

theorem gives_entered {events : List Event} {ref r : Ref} {expr e : String}
    (h : Gives (.enters ref :: events ++ [.leaves ref expr]) r e) :
    Gives events r e ∨ r = ref ∧ e = expr := by
  simp only [Gives, List.cons_append, List.mem_cons, List.mem_append, reduceCtorEq, false_or,
    List.not_mem_nil, or_false, Event.leaves.injEq] at h ⊢
  tauto

theorem Gives.mono {events events' : List Event} {ref : Ref} {expr : String}
    (h : Gives events ref expr) (hs : events ⊆ events') : Gives events' ref expr :=
  h.imp (fun hm => hs hm) fun hm => hs hm

/-- What the events between two states have to do with what is recorded there. -/
structure Follows (d d' : Declarations) (events : List Event) : Prop where
  kept : ∀ ref expr, d.lazy? ref = some expr → d'.lazy? ref = some expr
  fresh : ∀ ref, d.Recorded ref → .enters ref ∉ events
  recorded : ∀ ref expr, Gives events ref expr → d'.Recorded ref
  new : ∀ ref, d'.Recorded ref → d.Recorded ref ∨ .enters ref ∈ events
  ended : events.Pairwise fun a b => ∀ ref expr, a = .leaves ref expr → b ≠ .enters ref
  once : ∀ ref expr, events.count (.enters ref) ≤ 1 → Gives events ref expr →
    d'.lazy? ref = some expr

variable {g : Graph} {s : Settings.Translator} {work : Work} {d d₁ d' : Declarations}
variable {result : List String} {events events' : List Event}

namespace Follows

theorem refl : Follows d d [] :=
  ⟨fun _ _ h => h, by simp, by simp [Gives], fun _ h => .inl h, .nil, by simp [Gives]⟩

theorem congr {d₀ d₀' : Declarations} (h : Follows d d' events) (hd : d₀.lazies = d.lazies)
    (hd' : d₀'.lazies = d'.lazies) : Follows d₀ d₀' events := by
  have hi (ref : Ref) : d₀.lazy? ref = d.lazy? ref := by unfold Declarations.lazy?; rw [hd]
  have hi' (ref : Ref) : d₀'.lazy? ref = d'.lazy? ref := by unfold Declarations.lazy?; rw [hd']
  refine ⟨?_, ?_, ?_, ?_, h.ended, ?_⟩
  · simpa only [hi, hi'] using h.kept
  · simpa only [Recorded, hi] using h.fresh
  · simpa only [Recorded, hi'] using h.recorded
  · simpa only [Recorded, hi, hi'] using h.new
  · simpa only [hi'] using h.once

theorem kept_recorded (h : Follows d d' events) {ref : Ref} (hr : d.Recorded ref) :
    d'.Recorded ref := by
  obtain ⟨expr, he⟩ := Declarations.recorded_iff.mp hr
  exact Declarations.recorded_iff.mpr ⟨expr, h.kept ref expr he⟩

theorem trans (h : Follows d d₁ events) (h' : Follows d₁ d' events') :
    Follows d d' (events ++ events') := by
  refine ⟨fun ref expr hl => ?_, fun ref hr hm => ?_, fun ref expr hv => ?_, fun ref hr => ?_, ?_,
    fun ref expr hc hv => ?_⟩
  · exact h'.kept ref expr (h.kept ref expr hl)
  · rcases List.mem_append.mp hm with hm | hm
    · exact h.fresh ref hr hm
    · exact h'.fresh ref (h.kept_recorded hr) hm
  · rcases gives_append.mp hv with hv | hv
    · exact h'.kept_recorded (h.recorded ref expr hv)
    · exact h'.recorded ref expr hv
  · rcases h'.new ref hr with hr | hm
    · exact (h.new ref hr).imp_right (List.mem_append_left _)
    · exact .inr (List.mem_append_right _ hm)
  · refine List.pairwise_append.mpr ⟨h.ended, h'.ended, ?_⟩
    rintro _ hm event hm' ref expr rfl rfl
    exact h'.fresh ref (h.recorded ref expr (.inl hm)) hm'
  · rw [List.count_append] at hc
    rcases gives_append.mp hv with hv | hv
    · exact h'.kept ref expr (h.once ref expr (by omega) hv)
    · exact h'.once ref expr (by omega) hv

/-- A declaration neither enters a definition nor contributes an expression. -/
theorem declares (place : Place) (name : String) : Follows d d [.declares place name] :=
  ⟨fun _ _ h => h, by simp, by simp [Gives], fun _ h => .inl h, List.pairwise_singleton _ _,
    by simp [Gives]⟩

theorem given (h : Follows d d' events) {ref : Ref} {expr : String} (hv : Gives events ref expr) :
    d.Recorded ref ∨ .enters ref ∈ events :=
  h.new ref (h.recorded ref expr hv)

/-- The expression that is contributed is the one that is recorded. -/
theorem gives {ref : Ref} {expr : String} {event : Event} (h : d.lazy? ref = some expr)
    (he : event = .reuses ref expr ∨ event = .leaves ref expr) : Follows d d [event] := by
  have hone (r : Ref) (e : String) (hv : Gives [event] r e) : d.lazy? r = some e := by
    rcases he with rfl | rfl
    · obtain ⟨rfl, rfl⟩ : r = ref ∧ e = expr := by simpa [Gives] using hv
      exact h
    · obtain ⟨rfl, rfl⟩ : r = ref ∧ e = expr := by simpa [Gives] using hv
      exact h
  have hnone (r : Ref) : .enters r ∉ [event] := by
    rcases he with rfl | rfl
    · simp
    · simp
  exact ⟨fun _ _ h => h, fun r _ => hnone r,
    fun r e hv => Declarations.recorded_iff.mpr ⟨e, hone r e hv⟩, fun _ h => .inl h,
    List.pairwise_singleton _ _, fun r e _ hv => hone r e hv⟩

theorem enters {ref : Ref} {expr : String} (hl : d.lazy? ref = none) :
    Follows d (d.recordLazy ref expr) [.enters ref] := by
  have hne (r : Ref) (hr : d.Recorded r) : ref ≠ r := by
    rintro rfl
    obtain ⟨e, he⟩ := Declarations.recorded_iff.mp hr
    rw [hl] at he
    cases he
  refine ⟨fun r e he => ?_, fun r hr hm => ?_, by simp [Gives], fun r hr => ?_,
    List.pairwise_singleton _ _, by simp [Gives]⟩
  · rw [Declarations.lazy?_recordLazy, if_neg (hne r (Declarations.recorded_iff.mpr ⟨e, he⟩)), he]
  · exact hne r hr (by simpa [eq_comm] using hm)
  · rcases Declarations.recorded_recordLazy.mp hr with rfl | hr
    · exact .inr List.mem_cons_self
    · exact .inl hr

/-- An object is recorded when it is entered. -/
theorem object {ref : Ref} {expr : String} (hl : d.lazy? ref = none)
    (h : Follows (d.recordLazy ref expr) d' events) :
    Follows d d' (.enters ref :: events ++ [.leaves ref expr]) := by
  have hrecorded : (d.recordLazy ref expr).lazy? ref = some expr := by
    rw [Declarations.lazy?_recordLazy, if_pos rfl]
  exact ((enters hl).trans h).trans (gives (h.kept ref expr hrecorded) (.inr rfl))

/-- Any other definition is recorded when it has been translated, whatever was recorded for it
meanwhile. -/
theorem other {ref : Ref} {expr : String} (hl : d.lazy? ref = none) (h : Follows d d' events) :
    Follows d (d'.recordLazy ref expr) (.enters ref :: events ++ [.leaves ref expr]) := by
  have hfree : ¬ d.Recorded ref := by simp [Recorded, hl]
  refine ⟨fun r e he => ?_, fun r hr hm => ?_, fun r e hv => ?_, fun r hr => ?_, ?_,
    fun r e hc hv => ?_⟩
  · have hne : ref ≠ r := by
      rintro rfl
      exact hfree (Declarations.recorded_iff.mpr ⟨e, he⟩)
    rw [Declarations.lazy?_recordLazy, if_neg hne]
    exact h.kept r e he
  · simp only [List.cons_append, List.mem_cons, List.mem_append, Event.enters.injEq, reduceCtorEq,
      List.not_mem_nil, or_false] at hm
    rcases hm with rfl | hm
    · exact hfree hr
    · exact h.fresh r hr hm
  · rcases gives_entered hv with hv | ⟨rfl, rfl⟩
    · exact Declarations.recorded_recordLazy.mpr (.inr (h.recorded r e hv))
    · exact Declarations.recorded_recordLazy.mpr (.inl rfl)
  · rcases Declarations.recorded_recordLazy.mp hr with rfl | hr
    · exact .inr (by simp)
    · exact (h.new r hr).imp_right fun hm => by simp [hm]
  · refine List.pairwise_append.mpr ⟨List.pairwise_cons.mpr ⟨?_, h.ended⟩, List.pairwise_singleton _ _, ?_⟩
    · intro b _ r e he
      cases he
    · rintro a _ b hb r e - rfl
      simp at hb
  · by_cases hr : ref = r
    · subst hr
      have hnone : .enters ref ∉ events := List.count_eq_zero.mp (by simpa using hc)
      rcases gives_entered hv with hv | ⟨-, rfl⟩
      · exact ((h.given hv).elim hfree hnone).elim
      · rw [Declarations.lazy?_recordLazy, if_pos rfl]
    · rw [Declarations.lazy?_recordLazy, if_neg hr]
      have hcount : events.count (.enters r) ≤ 1 := by
        simpa [hr] using hc
      rcases gives_entered hv with hv | ⟨rfl, -⟩
      · exact h.once r e hcount hv
      · exact absurd rfl hr

end Follows

theorem enumType_lazies {values : Json} {hint : NameHint} {name : String}
    (ht : values.truthy = true) (h : Returns (enumType values hint) d name d') :
    d'.lazies = d.lazies := by
  rcases enumType_declares ht h with ⟨text, items, he⟩ | ⟨text, alternatives, he⟩
  · cases he; rfl
  · cases he; rfl

theorem Logs.follows (h : Logs g s work d result d' events) : Follows d d' events := by
  induction h with
  | plain | noFields | noOptions => exact .refl
  | enum ht hr => exact (Follows.declares _ _).congr rfl (enumType_lazies ht hr)
  | array _ _ ih | union _ ih | step _ ih => exact ih
  | record _ _ _ ih ih' | option _ _ ih ih' => exact ih.trans ih'
  | field _ _ ih ih' => exact ih.trans (ih'.congr rfl rfl)
  | reused hl => exact .gives hl (.inl rfl)
  | object hd _ ih =>
    exact ((Follows.declares _ _).trans ih).congr (declareClass_lazies hd).symm rfl
  | @lazyObject _ _ _ _ ref _ _ _ _ d d₁ _ _ expr _ hl _ _ hd _ ih =>
    have hstart : (d.recordLazy ref expr).lazies = (d₁.recordLazy ref expr).lazies := by
      simp only [Declarations.recordLazy, declareClass_lazies hd]
    exact (Follows.object hl (((Follows.declares _ _).trans ih).congr hstart rfl)).congr rfl rfl
  | lazyOther hl _ _ _ ih => exact (Follows.other hl (ih.congr rfl rfl)).congr rfl rfl

/-! ## Definitions without sites -/

/-- Whether an expression comes from the definition behind a reference: the definition is an object,
or its translation gave the expression within the events. -/
def Comes (g : Graph) (s : Settings.Translator) (events : List Event) (ref : Ref) (expr : String) :
    Prop :=
  ∃ resolved, g.resolve ref = .ok resolved ∧ (isObject resolved.base = true ∨
    ∃ hint d d' inner, Logs g s (.node (.ofRef ref) resolved hint) d [expr] d' inner ∧
      inner ⊆ events)

theorem Comes.mono {ref : Ref} {expr : String} (h : Comes g s events ref expr)
    (hs : events ⊆ events') : Comes g s events' ref expr := by
  obtain ⟨resolved, hr, ho | ⟨hint, d, d', inner, hl, hi⟩⟩ := h
  · exact ⟨resolved, hr, .inl ho⟩
  · exact ⟨resolved, hr, .inr ⟨hint, d, d', inner, hl, List.Subset.trans hi hs⟩⟩

/-- What is recorded or contributed was recorded before or comes from its definition. -/
structure Sourced (g : Graph) (s : Settings.Translator) (d d' : Declarations) (events : List Event) :
    Prop where
  recorded : ∀ ref expr, d'.lazy? ref = some expr →
    d.lazy? ref = some expr ∨ Comes g s events ref expr
  given : ∀ ref expr, Gives events ref expr → d.lazy? ref = some expr ∨ Comes g s events ref expr

theorem Sourced.refl : Sourced g s d d [] :=
  ⟨fun _ _ h => .inl h, by simp [Gives]⟩

theorem Sourced.trans (h : Sourced g s d d₁ events) (h' : Sourced g s d₁ d' events') :
    Sourced g s d d' (events ++ events') := by
  have hleft {ref : Ref} {expr : String} (hr : d₁.lazy? ref = some expr) :
      d.lazy? ref = some expr ∨ Comes g s (events ++ events') ref expr :=
    (h.recorded ref expr hr).imp_right fun hc => hc.mono (List.subset_append_left _ _)
  refine ⟨fun ref expr hr => ?_, fun ref expr hv => ?_⟩
  · rcases h'.recorded ref expr hr with hr | hc
    · exact hleft hr
    · exact .inr (hc.mono (List.subset_append_right _ _))
  · rcases gives_append.mp hv with hv | hv
    · exact (h.given ref expr hv).imp_right fun hc => hc.mono (List.subset_append_left _ _)
    · rcases h'.given ref expr hv with hr | hc
      · exact hleft hr
      · exact .inr (hc.mono (List.subset_append_right _ _))

theorem Sourced.congr {d₀ d₀' : Declarations} (h : Sourced g s d d' events)
    (hd : d₀.lazies = d.lazies) (hd' : d₀'.lazies = d'.lazies) : Sourced g s d₀ d₀' events := by
  have hi (ref : Ref) : d₀.lazy? ref = d.lazy? ref := by unfold Declarations.lazy?; rw [hd]
  have hi' (ref : Ref) : d₀'.lazy? ref = d'.lazy? ref := by unfold Declarations.lazy?; rw [hd']
  exact ⟨by simpa only [hi, hi'] using h.recorded, by simpa only [hi] using h.given⟩

theorem subset_entered {ref : Ref} {expr : String} :
    events ⊆ .enters ref :: events ++ [.leaves ref expr] :=
  fun _ hm => List.mem_append_left _ (List.mem_cons_of_mem _ hm)

theorem Comes.translated {ref : Ref} {resolved : Node} {hint : NameHint} {expr : String}
    (hr : g.resolve ref = .ok resolved)
    (h : Logs g s (.node (.ofRef ref) resolved hint) d [expr] d' events) :
    Comes g s (.enters ref :: events ++ [.leaves ref expr]) ref expr :=
  ⟨resolved, hr, .inr ⟨hint, d, d', events, h, subset_entered⟩⟩

theorem Sourced.object {ref : Ref} {expr : String}
    (h : Sourced g s (d.recordLazy ref expr) d' events)
    (hc : Comes g s (.enters ref :: events ++ [.leaves ref expr]) ref expr) :
    Sourced g s d d' (.enters ref :: events ++ [.leaves ref expr]) := by
  have hstart {r : Ref} {e : String} (hr : (d.recordLazy ref expr).lazy? r = some e) :
      d.lazy? r = some e ∨ Comes g s (.enters ref :: events ++ [.leaves ref expr]) r e := by
    rw [Declarations.lazy?_recordLazy] at hr
    split at hr
    · rename_i he
      subst he
      cases hr
      exact .inr hc
    · exact .inl hr
  refine ⟨fun r e hr => ?_, fun r e hv => ?_⟩
  · exact (h.recorded r e hr).elim hstart fun hc => .inr (hc.mono subset_entered)
  · rcases gives_entered hv with hv | ⟨rfl, rfl⟩
    · exact (h.given r e hv).elim hstart fun hc => .inr (hc.mono subset_entered)
    · exact .inr hc

theorem Sourced.other {ref : Ref} {expr : String} (h : Sourced g s d d' events)
    (hc : Comes g s (.enters ref :: events ++ [.leaves ref expr]) ref expr) :
    Sourced g s d (d'.recordLazy ref expr) (.enters ref :: events ++ [.leaves ref expr]) := by
  refine ⟨fun r e hr => ?_, fun r e hv => ?_⟩
  · rw [Declarations.lazy?_recordLazy] at hr
    split at hr
    · rename_i he
      subst he
      cases hr
      exact .inr hc
    · exact (h.recorded r e hr).imp_right fun hc => hc.mono subset_entered
  · rcases gives_entered hv with hv | ⟨rfl, rfl⟩
    · exact (h.given r e hv).imp_right fun hc => hc.mono subset_entered
    · exact .inr hc

theorem Sourced.declares (place : Place) (name : String) :
    Sourced g s d d [.declares place name] :=
  ⟨fun _ _ h => .inl h, by simp [Gives]⟩

theorem Sourced.reuses {ref : Ref} {expr : String} (h : d.lazy? ref = some expr) :
    Sourced g s d d [.reuses ref expr] := by
  refine ⟨fun _ _ h => .inl h, fun r e hv => ?_⟩
  obtain ⟨rfl, rfl⟩ : r = ref ∧ e = expr := by simpa [Gives] using hv
  exact .inl h

theorem Logs.sourced (h : Logs g s work d result d' events) : Sourced g s d d' events := by
  induction h with
  | plain | noFields | noOptions => exact .refl
  | enum ht hr => exact (Sourced.declares _ _).congr rfl (enumType_lazies ht hr)
  | array _ _ ih | union _ ih | step _ ih => exact ih
  | record _ _ _ ih ih' | option _ _ ih ih' => exact ih.trans ih'
  | field _ _ ih ih' => exact ih.trans (ih'.congr rfl rfl)
  | reused hl => exact .reuses hl
  | object hd _ ih =>
    exact ((Sourced.declares _ _).trans ih).congr (declareClass_lazies hd).symm rfl
  | @lazyObject _ _ _ _ ref _ _ _ _ d d₁ _ class_ expr _ _ hres hbase hd _ ih =>
    have hstart : (d.recordLazy ref expr).lazies = (d₁.recordLazy ref expr).lazies := by
      simp only [Declarations.recordLazy, declareClass_lazies hd]
    have hsource := ((Sourced.declares (.ofRef ref) class_).trans ih).congr hstart rfl
    exact (hsource.object ⟨_, hres, .inl (by rw [hbase, isObject])⟩).congr rfl rfl
  | lazyOther hl hres _ hin ih =>
    have hcomes := Comes.translated hres hin
    exact ((ih.congr rfl rfl).other hcomes).congr rfl rfl

theorem refs_base_subset : ∀ node : Node, node.base.refs ⊆ node.refs
  | .wrapper _ _ inner => by
    rw [Node.base, Node.refs]
    exact refs_base_subset inner
  | .pipeline _ inner source => by
    rw [Node.base, Node.refs]
    split
    · exact List.subset_append_of_subset_right _ (refs_base_subset source)
    · exact List.subset_append_of_subset_left _ (refs_base_subset inner)
  | .foreign _ | .thunk _ | .bare .. | .primitive .. | .literal .. | .object .. | .array ..
  | .enumeration .. | .memberEnum .. | .record .. | .union .. | .lazy .. => List.Subset.refl _

theorem refs_key_subset (key : Node) :
    (if key.isAbsent then .primitive .null (.str "string") else key : Node).refs ⊆ key.refs := by
  split
  · simp [Node.refs]
  · exact List.Subset.refl _

/-- The references that the work meets, not followed. -/
def Work.refs : Work → List Ref
  | .node _ tree _ | .core _ tree _ => tree.refs
  | .fields _ _ _ members => Node.membersRefs members
  | .options _ _ _ nodes => Node.listRefs nodes

/-- Work on the same nodes, wherever they stand and whatever it is called. -/
inductive Alike : Work → Work → Prop
  | node {place place' : Place} {tree : Node} {hint hint' : NameHint} :
      Alike (.node place tree hint) (.node place' tree hint')
  | core {place place' : Place} {tree : Node} {hint hint' : NameHint} :
      Alike (.core place tree hint) (.core place' tree hint')
  | options {place place' : Place} {hint hint' : NameHint} {index index' : Nat}
      {nodes : List Node} :
      Alike (.options place hint index nodes) (.options place' hint' index' nodes)

theorem plainType?_array {description low high : Json} {element : Node}
    (h : element.isAbsent = false) : plainType? (.array description [element] low high) = none := by
  cases element with
  | foreign value =>
    cases value with
    | null => cases h
    | bool | int | float | str | arr | obj => rfl
  | thunk | bare | primitive | literal | object | array | enumeration | memberEnum | record | union
  | lazy | wrapper | pipeline => rfl

/-- The text for a reference is one that it contributes. -/
theorem Logs.gives_lazy {place : Place} {description name : Json} {ref : Ref} {hint : NameHint}
    (h : Logs g s (.core place (.lazy description name ref) hint) d result d' events) :
    ∃ expr, result = [expr] ∧ Gives events ref expr := by
  cases h with
  | plain ht => cases ht
  | reused hl => exact ⟨_, rfl, .inr List.mem_cons_self⟩
  | lazyObject | lazyOther => exact ⟨_, rfl, .inl (by simp)⟩

def Agree (refs : List Ref) (events events' : List Event) : Prop :=
  ∀ ref ∈ refs, ∀ e e', Gives events ref e → Gives events' ref e' → e = e'

theorem Agree.subset {refs refs' : List Ref} (h : Agree refs events events') (hs : refs' ⊆ refs) :
    Agree refs' events events' :=
  fun ref hm => h ref (hs hm)

theorem Agree.mono {refs : List Ref} {inner inner' : List Event} (h : Agree refs events events')
    (hs : inner ⊆ events) (hs' : inner' ⊆ events') : Agree refs inner inner' :=
  fun ref hm e e' hv hv' => h ref hm e e' (hv.mono hs) (hv'.mono hs')

section Parts

variable {refs refs' : List Ref} {first rest first' rest' : List Event}

theorem Agree.left (h : Agree (refs ++ refs') (first ++ rest) (first' ++ rest')) :
    Agree refs first first' :=
  (h.subset (List.subset_append_left _ _)).mono (List.subset_append_left _ _)
    (List.subset_append_left _ _)

theorem Agree.right (h : Agree (refs ++ refs') (first ++ rest) (first' ++ rest')) :
    Agree refs' rest rest' :=
  (h.subset (List.subset_append_right _ _)).mono (List.subset_append_right _ _)
    (List.subset_append_right _ _)

end Parts

/-- Work that declares nothing gives the same texts each time, if the references that it meets
contribute the same expressions. -/
theorem Logs.alike (h : Logs g s work d result d' events) :
    ∀ {work' : Work} {d₁ d₁' : Declarations} {result' : List String} {events' : List Event},
      Logs g s work' d₁ result' d₁' events' → Alike work work' → work.sites = [] →
      Agree work.refs events events' → result = result' := by
  induction h with
  | plain ht =>
    intro work' d₁ d₁' result' events' h' ha _ _
    cases ha
    cases h' with
    | plain ht' => rw [Option.some.inj (ht.symm.trans ht')]
    | enum ht' =>
      rw [plainType?, if_pos ht'] at ht
      cases ht
    | array hp =>
      rw [plainType?_array hp] at ht
      cases ht
    | object | record | union | reused | lazyObject | lazyOther => cases ht
  | enum ht =>
    intro work' d₁ d₁' result' events' _ _ hs _
    simp [Work.sites, sites, ht] at hs
  | object =>
    intro work' d₁ d₁' result' events' _ _ hs _
    simp [Work.sites, sites] at hs
  | array hp _ ih =>
    intro work' d₁ d₁' result' events' h' ha hs hr
    cases ha
    cases h' with
    | plain ht =>
      rw [plainType?_array hp] at ht
      cases ht
    | array _ hin =>
      simp only [Work.sites, sites, listSites, List.append_nil] at hs
      simp only [Work.refs, Node.refs, Node.listRefs, List.append_nil] at hr
      cases ih hin .node hs hr
      rfl
  | record hc _ _ ih ih' =>
    intro work' d₁ d₁' result' events' h' ha hs hr
    cases ha
    cases h' with
    | plain ht => cases ht
    | record hc' hkey hvalue =>
      subst hc
      subst hc'
      simp only [Work.sites, sites, List.append_eq_nil_iff] at hs
      have hkeys : sites _ _ = [] := (sites_key _ _).trans hs.1
      cases ih hkey .node hkeys ((Agree.left hr).subset (refs_key_subset _))
      cases ih' hvalue .node hs.2 (Agree.right hr)
      rfl
  | union _ ih =>
    intro work' d₁ d₁' result' events' h' ha hs hr
    cases ha
    cases h' with
    | plain ht => cases ht
    | union hin =>
      simp only [Work.sites, sites] at hs
      rw [ih hin .options hs hr]
  | reused =>
    intro work' d₁ d₁' result' events' h' ha _ hr
    cases ha
    obtain ⟨expr', rfl, hv⟩ := h'.gives_lazy
    rw [hr _ List.mem_cons_self _ _ (.inr List.mem_cons_self) hv]
  | lazyObject | lazyOther =>
    intro work' d₁ d₁' result' events' h' ha _ hr
    cases ha
    obtain ⟨expr', rfl, hv⟩ := h'.gives_lazy
    rw [hr _ List.mem_cons_self _ _ (.inl (List.mem_append_right _ List.mem_cons_self)) hv]
  | step _ ih =>
    intro work' d₁ d₁' result' events' h' ha hs hr
    cases ha
    cases h' with
    | step hin =>
      simp only [Work.sites] at hs ih
      rw [sites_base] at ih
      cases ih hin .core hs (hr.subset (refs_base_subset _))
      rfl
  | noFields | field =>
    intro work' d₁ d₁' result' events' _ ha
    cases ha
  | noOptions =>
    intro work' d₁ d₁' result' events' h' ha _ _
    cases ha
    cases h'
    rfl
  | option _ _ ih ih' =>
    intro work' d₁ d₁' result' events' h' ha hs hr
    cases ha
    cases h' with
    | option hfirst hothers =>
      simp only [Work.sites, listSites, List.append_eq_nil_iff] at hs
      cases ih hfirst .node hs.1 (Agree.left hr)
      rw [ih' hothers .options hs.2 (Agree.right hr)]

end StructuredOutput.Baml.Translation
