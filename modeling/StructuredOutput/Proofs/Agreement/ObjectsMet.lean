import StructuredOutput.Proofs.Agreement.ObjectClasses
import StructuredOutput.Proofs.Hint.Parts

/-! # Every object of a description is met

The translator follows a reference only when it is not recorded yet, the description when it is not
active. All the same an object that is described has been met: the objects of a node that returns have
been met, up to references, its references are recorded, and with each reference that was recorded on
the way the same holds of the definition behind it. -/
namespace StructuredOutput.Baml.Translation

open Hint (Part Shape Shows)
open Schema (Graph Node Ref)

/-! ## What is under a node -/

/-- A node under another one, with no reference followed. -/
inductive Under (g : Graph) (n : Node) : Node → Prop
  | self : Under g n n
  | bare {description : Json} {inner : Node} : Under g n inner → Under g n (.bare description inner)
  | field {description : Json} {members : List (String × Node)} {member : String × Node} :
      member ∈ members → Under g n member.2 → Under g n (.object description members)
  | element {description low high : Json} {candidates : List Node} {element : Node} :
      g.element candidates = .ok element → element.isAbsent = false → Under g n element →
      Under g n (.array description candidates low high)
  | key {description : Json} {key value : Node} :
      Under g n key → Under g n (.record description key value)
  | value {description : Json} {key value : Node} :
      Under g n value → Under g n (.record description key value)
  | option {description : Json} {option : Node} {options : List Node} :
      option ∈ options → Under g n option → Under g n (.union description options)
  | wrapper {description : Json} {form : Schema.Wrapper} {inner : Node} :
      Under g n inner → Under g n (.wrapper description form inner)
  | pipeline {description : Json} {inner source : Node} :
      Under g n (if inner.isAbsent then source else inner) →
      Under g n (.pipeline description inner source)

/-- What is known of a node that was met: an object is listed, a reference recorded. -/
def Met (d : Declarations) (met : List ObjectClass) : Node → Prop
  | .object _ members => ∃ o ∈ met, o.members = members
  | .lazy _ _ ref => d.Recorded ref
  | _ => True

def AllMet (g : Graph) (d : Declarations) (met : List ObjectClass) (node : Node) : Prop :=
  ∀ n, Under g n node → Met d met n

variable {g : Graph} {s : Settings.Translator} {inside : Node → NameHint → Translation String}
variable {meets : Node → NameHint → Declarations → List ObjectClass}
variable {d d₁ d' : Declarations} {met more : List ObjectClass}
variable {hint : NameHint} {expr name : String} {node : Node}

theorem Met.mono (h : Met d met node) (hd : ∀ ref, d.Recorded ref → d'.Recorded ref)
    (hm : met ⊆ more) : Met d' more node := by
  cases node with
  | object description members =>
    obtain ⟨o, ho, he⟩ := h
    exact ⟨o, hm ho, he⟩
  | lazy description lazyName ref => exact hd ref h
  | foreign | thunk | bare | primitive | literal | array | enumeration | memberEnum | record | union
  | wrapper | pipeline => trivial

theorem AllMet.mono (h : AllMet g d met node) (hd : ∀ ref, d.Recorded ref → d'.Recorded ref)
    (hm : met ⊆ more) : AllMet g d' more node :=
  fun n hn => (h n hn).mono hd hm

theorem allMet_object {description : Json} {members : List (String × Node)}
    (ho : ∃ o ∈ met, o.members = members) (hm : ∀ member ∈ members, AllMet g d met member.2) :
    AllMet g d met (.object description members) := by
  intro n hn
  cases hn with
  | self => exact ho
  | field hmem hn => exact hm _ hmem n hn

/-- What is met under the wrappers of a node is met under the node. -/
theorem allMet_of_base : (node : Node) → AllMet g d met node.base → AllMet g d met node
  | .wrapper _ _ inner, h => by
    intro n hn
    cases hn with
    | self => trivial
    | wrapper hn => exact allMet_of_base inner h n hn
  | .pipeline _ inner source, h => by
    intro n hn
    cases hn with
    | self => trivial
    | pipeline hn =>
      rw [Node.base] at h
      cases ha : inner.isAbsent with
      | true =>
        rw [ha] at h hn
        exact allMet_of_base source h n hn
      | false =>
        rw [ha] at h hn
        exact allMet_of_base inner h n hn
  | .foreign _, h | .thunk _, h | .bare .., h | .primitive .., h | .literal .., h | .object .., h
  | .array .., h | .enumeration .., h | .memberEnum .., h | .record .., h | .union .., h
  | .lazy .., h => h

/-- What is under the wrapper that a description shows is under the node. -/
theorem under_of_shown {n : Node} : (node : Node) → Under g n node.shown → Under g n node
  | .wrapper _ form inner, h => by
    rw [Node.shown] at h
    split at h
    · exact h
    · exact .wrapper (under_of_shown inner h)
  | .pipeline _ inner source, h => by
    rw [Node.shown] at h
    refine .pipeline ?_
    cases ha : inner.isAbsent with
    | true =>
      rw [ha] at h
      exact under_of_shown source h
    | false =>
      rw [ha] at h
      exact under_of_shown inner h
  | .foreign _, h | .thunk _, h | .bare .., h | .primitive .., h | .literal .., h | .object .., h
  | .array .., h | .enumeration .., h | .memberEnum .., h | .record .., h | .union .., h
  | .lazy .., h => h

/-- What is under the wrappers of a node is under the node. -/
theorem under_of_base {n : Node} : (node : Node) → Under g n node.base → Under g n node
  | .wrapper _ _ inner, h => .wrapper (under_of_base inner h)
  | .pipeline _ inner source, h => by
    rw [Node.base] at h
    refine .pipeline ?_
    cases ha : inner.isAbsent with
    | true =>
      rw [ha] at h
      exact under_of_base source h
    | false =>
      rw [ha] at h
      exact under_of_base inner h
  | .foreign _, h | .thunk _, h | .bare .., h | .primitive .., h | .literal .., h | .object .., h
  | .array .., h | .enumeration .., h | .memberEnum .., h | .record .., h | .union .., h
  | .lazy .., h => h

theorem Under.trans {n m : Node} (h : Under g n m) (h' : Under g m node) : Under g n node := by
  induction h' with
  | self => exact h
  | bare _ ih => exact .bare ih
  | field hm _ ih => exact .field hm ih
  | element he ha _ ih => exact .element he ha ih
  | key _ ih => exact .key ih
  | value _ ih => exact .value ih
  | option hm _ ih => exact .option hm ih
  | wrapper _ ih => exact .wrapper ih
  | pipeline _ ih => exact .pipeline ih

theorem allMet_enum {values : Json} (hv : node.enumValues? = some values) :
    AllMet g d met node := by
  intro n hn
  cases hn with
  | self =>
    cases node with
    | enumeration | memberEnum => trivial
    | foreign | thunk | bare | primitive | literal | object | array | record | union | lazy
    | wrapper | pipeline => cases hv
  | bare | field | element | key | value | option | wrapper | pipeline => cases hv

/-- Nothing is met under the string that stands for a key that is absent. -/
theorem allMet_key {key : Node}
    (h : AllMet g d met (if key.isAbsent then .primitive .null (.str "string") else key)) :
    AllMet g d met key := by
  cases ha : key.isAbsent with
  | false => simpa [ha] using h
  | true =>
    intro n hn
    cases key with
    | foreign =>
      cases hn
      trivial
    | thunk | bare | primitive | literal | object | array | enumeration | memberEnum | record | union
    | lazy | wrapper | pipeline => cases ha

theorem AllMet.shown (h : AllMet g d met node) : AllMet g d met node.shown :=
  fun n hn => h n (under_of_shown node hn)

/-! ## What a translation has met -/

/-- Between two states nothing recorded is lost, and each reference that is new has a definition under
which the nodes were met. -/
structure Spans (g : Graph) (d d' : Declarations) (met : List ObjectClass) : Prop where
  kept : ∀ ref, d.Recorded ref → d'.Recorded ref
  behind : ∀ ref, d'.Recorded ref → ¬ d.Recorded ref →
    ∃ target, g.resolve ref = .ok target ∧ AllMet g d' met target

theorem Spans.refl (d : Declarations) : Spans g d d [] :=
  ⟨fun _ h => h, fun _ h hn => absurd h hn⟩

theorem Spans.congr {d₀ d₀' : Declarations} (h : Spans g d d' met) (hd : d₀.lazies = d.lazies)
    (hd' : d₀'.lazies = d'.lazies) : Spans g d₀ d₀' met := by
  have hi (ref : Ref) : d₀.Recorded ref ↔ d.Recorded ref := Declarations.recorded_congr hd
  have hi' (ref : Ref) : d₀'.Recorded ref ↔ d'.Recorded ref := Declarations.recorded_congr hd'
  refine ⟨fun ref hr => (hi' ref).mpr (h.kept ref ((hi ref).mp hr)), fun ref hr hn => ?_⟩
  obtain ⟨target, ht, hall⟩ := h.behind ref ((hi' ref).mp hr) fun hr₀ => hn ((hi ref).mpr hr₀)
  exact ⟨target, ht, hall.mono (fun r => (hi' r).mpr) (List.Subset.refl _)⟩

theorem Spans.append (h : Spans g d d₁ met) (h' : Spans g d₁ d' more) :
    Spans g d d' (met ++ more) := by
  refine ⟨fun ref hr => h'.kept ref (h.kept ref hr), fun ref hr hn => ?_⟩
  by_cases hr₁ : d₁.Recorded ref
  · obtain ⟨target, ht, hall⟩ := h.behind ref hr₁ hn
    exact ⟨target, ht, hall.mono h'.kept (List.subset_append_left _ _)⟩
  · obtain ⟨target, ht, hall⟩ := h'.behind ref hr hr₁
    exact ⟨target, ht, hall.mono (fun _ h => h) (List.subset_append_right _ _)⟩

/-- A reference is recorded and the nodes under its definition were met. -/
theorem Spans.recordLazy (h : Spans g d d' met) {ref : Ref} {target : Node}
    (hr : g.resolve ref = .ok target) (ht : AllMet g d' met target) :
    Spans g d (d'.recordLazy ref expr) met := by
  have hkept (r : Ref) (hrec : d'.Recorded r) : (d'.recordLazy ref expr).Recorded r :=
    Declarations.recorded_recordLazy.mpr (.inr hrec)
  refine ⟨fun r hrec => hkept r (h.kept r hrec), fun r hrec hn => ?_⟩
  rcases Declarations.recorded_recordLazy.mp hrec with rfl | hrec
  · exact ⟨target, hr, ht.mono hkept (List.Subset.refl _)⟩
  · obtain ⟨target', hr', hall⟩ := h.behind r hrec hn
    exact ⟨target', hr', hall.mono hkept (List.Subset.refl _)⟩

def Thorough (g : Graph) (inside : Node → NameHint → Translation String)
    (meets : Node → NameHint → Declarations → List ObjectClass) : Prop :=
  ∀ node hint d expr d', Returns (inside node hint) d expr d' →
    Spans g d d' (meets node hint d) ∧ AllMet g d' (meets node hint d) node

theorem fields_thorough (hi : Thorough g inside meets) {members : List (String × Node)} :
    ∀ {used : List String} {d : Declarations}, Returns (fields s inside name used members) d () d' →
      Spans g d d' (fieldsMeet s inside meets name used members d) ∧
        ∀ m ∈ members, AllMet g d' (fieldsMeet s inside meets name used members d) m.2 := by
  induction members with
  | nil =>
    intro used d hr
    cases returns_fields_nil.mp hr
    exact ⟨.refl _, List.forall_mem_nil _⟩
  | cons member rest ih =>
    obtain ⟨key, node⟩ := member
    intro used d hr
    obtain ⟨peeled, type, d₁, hpeel, hin, hrest⟩ := returns_fields_cons.mp hr
    have hone : Returns (fields s inside name used [(key, node)]) d ()
        (d₁.addField name (newField used key type peeled)) :=
      returns_fields_cons.mpr ⟨peeled, type, d₁, hpeel, hin, returns_fields_nil.mpr rfl⟩
    obtain ⟨hspan, hnode⟩ := hi _ _ _ _ _ hin
    have hadded : Spans g d (d₁.addField name (newField used key type peeled)) _ :=
      hspan.congr rfl rfl
    obtain ⟨hmore, hall⟩ := ih hrest
    rw [fieldsMeet, hone.after_eq]
    refine ⟨hadded.append hmore, List.forall_mem_cons.mpr ⟨?_, fun m hm => ?_⟩⟩
    · exact hnode.mono hmore.kept (List.subset_append_left _ _)
    · exact (hall m hm).mono (fun _ h => h) (List.subset_append_right _ _)

theorem options_thorough (hi : Thorough g inside meets) {nodes : List Node} :
    ∀ {index : Nat} {parts : List String} {d : Declarations},
      Returns (options inside hint index nodes) d parts d' →
      Spans g d d' (optionsMeet inside meets hint index nodes d) ∧
        ∀ n ∈ nodes, AllMet g d' (optionsMeet inside meets hint index nodes d) n := by
  induction nodes with
  | nil =>
    intro index parts d hr
    obtain ⟨-, rfl⟩ := returns_options_nil.mp hr
    exact ⟨.refl d, List.forall_mem_nil _⟩
  | cons node rest ih =>
    intro index parts d hr
    obtain ⟨first, others, d₁, hin, hoptions, rfl⟩ := returns_options_cons.mp hr
    obtain ⟨hspan, hnode⟩ := hi _ _ _ _ _ hin
    obtain ⟨hmore, hall⟩ := ih hoptions
    rw [optionsMeet, hin.after_eq]
    refine ⟨hspan.append hmore, List.forall_mem_cons.mpr ⟨?_, fun n hn => ?_⟩⟩
    · exact hnode.mono hmore.kept (List.subset_append_left _ _)
    · exact (hall n hn).mono (fun _ h => h) (List.subset_append_right _ _)

/-- An object is met together with its fields. -/
theorem object_thorough (hi : Thorough g inside meets) {description : Json}
    {members : List (String × Node)} (ready : String → Declarations → Declarations)
    (hd : Returns (declareClass hint) d name d₁)
    (hf : Returns (fields s inside name [] members) (ready name d₁) () d') :
    Spans g (ready name d₁) d' (objectMeets s inside meets members hint ready d) ∧
      AllMet g d' (objectMeets s inside meets members hint ready d)
        (.object description members) := by
  unfold objectMeets
  rw [hd.outcome_eq]
  obtain ⟨hspan, hall⟩ := fields_thorough hi hf
  have hsub := List.subset_cons_self (⟨members, name⟩ : ObjectClass)
    (fieldsMeet s inside meets name [] members (ready name d₁))
  refine ⟨⟨hspan.kept, fun ref hr hn => ?_⟩, allMet_object ?_ fun m hm => ?_⟩
  · obtain ⟨target, ht, hbehind⟩ := hspan.behind ref hr hn
    exact ⟨target, ht, hbehind.mono (fun _ h => h) hsub⟩
  · exact ⟨_, List.mem_cons_self, rfl⟩
  · exact (hall m hm).mono (fun _ h => h) hsub

theorem core_thorough (hi : Thorough g inside meets)
    (hr : Returns (core g s inside node hint) d expr d') :
    Spans g d d' (coreMeets g s inside meets node hint d) ∧
      AllMet g d' (coreMeets g s inside meets node hint d) node := by
  cases core_cases hr with
  | object hd hf =>
    obtain ⟨hspan, hall⟩ := object_thorough hi (fun _ d₁ => d₁) hd hf
    exact ⟨hspan.congr (declareClass_lazies hd).symm rfl, hall⟩
  | primitive | literal =>
    refine ⟨.refl d, fun n hn => ?_⟩
    cases hn
    trivial
  | strings he ha =>
    rw [coreMeets, he]
    simp only [ha, if_true]
    refine ⟨.refl d, fun n hn => ?_⟩
    cases hn with
    | self => trivial
    | element he' ha' =>
      rw [he] at he'
      cases he'
      rw [ha] at ha'
      cases ha'
  | array he ha hin =>
    rw [coreMeets, he]
    simp only [ha, Bool.false_eq_true, if_false]
    obtain ⟨hspan, hall⟩ := hi _ _ _ _ _ hin
    refine ⟨hspan, fun n hn => ?_⟩
    cases hn with
    | self => trivial
    | element he' _ hn =>
      rw [he] at he'
      cases he'
      exact hall n hn
  | anyString hv =>
    rw [coreMeets_enum hv]
    exact ⟨.refl d, allMet_enum hv⟩
  | names hv | literals hv =>
    rw [coreMeets_enum hv]
    exact ⟨(Spans.refl d).congr rfl rfl, allMet_enum hv⟩
  | record ha hkey hvalue =>
    rw [coreMeets]
    simp only [hkey.after_eq]
    obtain ⟨hspan, hkeys⟩ := hi _ _ _ _ _ hkey
    obtain ⟨hspan', hall⟩ := hi _ _ _ _ _ hvalue
    refine ⟨hspan.append hspan', fun n hn => ?_⟩
    cases hn with
    | self => trivial
    | key hn => exact (allMet_key hkeys n hn).mono hspan'.kept (List.subset_append_left _ _)
    | value hn => exact (hall n hn).mono (fun _ h => h) (List.subset_append_right _ _)
  | union _ ho =>
    obtain ⟨hspan, hall⟩ := options_thorough hi ho
    refine ⟨hspan, fun n hn => ?_⟩
    cases hn with
    | self => trivial
    | option hm hn => exact hall _ hm n hn
  | bare _ hin =>
    obtain ⟨hspan, hall⟩ := hi _ _ _ _ _ hin
    refine ⟨hspan, fun n hn => ?_⟩
    cases hn with
    | self => trivial
    | bare hn => exact hall n hn
  | reused hl =>
    rw [coreMeets, lazyMeets, hl]
    refine ⟨.refl d, fun n hn => ?_⟩
    cases hn
    exact Option.isSome_of_eq_some hl
  | @lazyObject _ _ _ ref resolved _ _ class_ _ d₁ _ hnone hres hp hobj hd hexpr hf =>
    obtain ⟨hb, -, hu⟩ := Schema.peel_ok hp
    have hexpr : expr = objectExpr resolved class_ := by rw [hexpr, hu]; rfl
    rw [hexpr] at hf
    rw [coreMeets, lazyMeets_object hnone hres (hb.symm.trans hobj)]
    obtain ⟨hspan, hall⟩ := object_thorough hi
      (fun name d₁ => d₁.recordLazy ref (objectExpr resolved name)) hd hf
    have hnew : Declarations.Recorded _ ref :=
      hspan.kept ref (Declarations.recorded_recordLazy.mpr (.inl rfl))
    refine ⟨⟨fun r hr => ?_, fun r hr hn => ?_⟩, fun n hn => ?_⟩
    · refine hspan.kept r (Declarations.recorded_recordLazy.mpr (.inr ?_))
      exact (Declarations.recorded_congr (declareClass_lazies hd)).mpr hr
    · by_cases he : r = ref
      · exact ⟨resolved, he ▸ hres, allMet_of_base resolved (hb.symm.trans hobj ▸ hall)⟩
      · refine hspan.behind r hr fun hrec => ?_
        rcases Declarations.recorded_recordLazy.mp hrec with hrec | hrec
        · exact he hrec
        · exact hn ((Declarations.recorded_congr (declareClass_lazies hd)).mp hrec)
    · cases hn
      exact hnew
  | @lazyOther _ _ ref _ _ _ d₁ hnone hres hp hother _ hin =>
    obtain ⟨hb, -, -⟩ := Schema.peel_ok hp
    rw [coreMeets, lazyMeets_other hnone hres (hb ▸ hother)]
    obtain ⟨hspan, hall⟩ := hi _ _ _ _ _ hin
    have hspan₁ : Spans g d d₁ _ := hspan.congr rfl rfl
    refine ⟨(hspan₁.recordLazy hres hall).congr rfl rfl, fun n hn => ?_⟩
    cases hn
    exact Declarations.recorded_recordLazy.mpr (.inl rfl)

theorem within_thorough (g : Graph) (s : Settings.Translator) (nesting : Nat) :
    Thorough g (within g s nesting) (withinMeets g s nesting) := by
  induction nesting with
  | zero => intro node hint d expr d' hr; exact (returns_throw hr).elim
  | succ nesting ih =>
    intro node hint d expr d' hr
    obtain ⟨peeled, type, hp, hc, -⟩ := returns_step.mp hr
    rw [(Schema.peel_ok hp).1] at hc
    obtain ⟨hspan, hall⟩ := core_thorough ih hc
    exact ⟨hspan, allMet_of_base node hall⟩

/-! ## What a description shows -/

/-- If the nodes under the definitions of recorded references were met, those shown inside a node are
met with it. -/
theorem inherited_met
    (hbehind : ∀ ref, d.Recorded ref → ∃ target, g.resolve ref = .ok target ∧ AllMet g d met target) :
    Hint.Inherited g (AllMet g d met) where
  nullable h := AllMet.shown fun n hn => h n (.wrapper hn)
  field h hm := AllMet.shown fun n hn => h n (.field hm hn)
  element h he ha := AllMet.shown fun n hn => h n (.element he ha hn)
  string n hn := by
    cases hn
    trivial
  option h hm := AllMet.shown fun n hn => h n (.option hm hn)
  item _ n hn := by
    cases hn
    trivial
  value h := AllMet.shown fun n hn => h n (.value hn)
  described h hr := by
    obtain ⟨target, ht, hall⟩ := hbehind _ (h _ .self)
    rw [ht] at hr
    cases hr
    exact hall.shown

/-- From nothing declared: the nodes under the root were met, and those under the definition of each
reference that was recorded on the way. -/
theorem objectClasses_met (hr : Returns (translate g s node hint) {} expr d) :
    AllMet g d (objectClasses g s node hint {}) node ∧ ∀ ref, d.Recorded ref →
      ∃ target, g.resolve ref = .ok target ∧ AllMet g d (objectClasses g s node hint {}) target := by
  obtain ⟨hspan, hall⟩ := within_thorough g s _ _ _ _ _ _ (returns_translate.mp hr)
  have hempty (ref : Ref) : ¬ Declarations.Recorded {} ref := by
    simp [Declarations.Recorded, Declarations.lazy?]
  exact ⟨hall, fun ref hrec => hspan.behind ref hrec (hempty ref)⟩

/-- Every object that a description shows is one of those that the translation meets. -/
theorem objectClasses_thorough (hr : Returns (translate g s node hint) {} expr d)
    (hrender : (Hint.shape g node).Renders) {members : List (String × Node)}
    {fields : List (String × Bool × Shape)}
    (hp : Part (.object members fields) (Hint.shape g node)) :
    ∃ o ∈ objectClasses g s node hint {}, o.members = members := by
  obtain ⟨hall, hbehind⟩ := objectClasses_met hr
  obtain ⟨_, hs, hmet⟩ := Shows.part (inherited_met hbehind) hp
    (Hint.within_shows g _ [] node hrender) hall.shown
  cases hs with
  | object => exact hmet _ .self

end StructuredOutput.Baml.Translation
