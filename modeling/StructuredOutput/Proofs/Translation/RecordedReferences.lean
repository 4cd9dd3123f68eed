import StructuredOutput.Proofs.Schema.References
import StructuredOutput.Proofs.Translation.Cases
import StructuredOutput.Proofs.Translation.Growth

/-! # References that a translation has recorded

A translation that returns has recorded every reference of its node, and with each reference it
recorded those of the definition behind it. A reference to no object is recorded behind all that its
definition refers to; so among the recorded references no cycle consists of such references. -/
namespace StructuredOutput.Baml

open Schema (Graph Node Ref Parsed Refers Settles)

/-- Whether the expression of a reference is recorded. -/
def Declarations.Recorded (d : Declarations) (ref : Ref) : Prop := (d.lazy? ref).isSome = true

theorem Declarations.recorded_iff {d : Declarations} {ref : Ref} :
    d.Recorded ref ↔ ∃ expr, d.lazy? ref = some expr := by
  unfold Recorded
  rw [Option.isSome_iff_exists]

theorem Declarations.recorded_congr {d d' : Declarations} (h : d.lazies = d'.lazies) {ref : Ref} :
    d.Recorded ref ↔ d'.Recorded ref := by
  unfold Recorded lazy?
  rw [h]

theorem Declarations.recorded_recordLazy {d : Declarations} {ref r : Ref} {expr : String} :
    (d.recordLazy ref expr).Recorded r ↔ r = ref ∨ d.Recorded r := by
  unfold Recorded
  rw [lazy?_recordLazy]
  split
  · rename_i h; simp [h]
  · rename_i h; simp [Ne.symm h]

namespace Translation

open Declarations (Recorded)

/-- What is recorded between two states: the given references, with each new one all that its
definition refers to, and only references that settle. -/
structure Covers (g : Graph) (limit : Json) (d d' : Declarations) (refs : List Ref) : Prop where
  kept : ∀ r, d.Recorded r → d'.Recorded r
  refs : ∀ r ∈ refs, d'.Recorded r
  closed : ∀ r, d'.Recorded r → ¬ d.Recorded r → ∀ b, Refers g r b → d'.Recorded b
  settled : ∀ r, d'.Recorded r → Settles g limit r

variable {g : Graph} {s : Settings.Translator} {inside : Node → NameHint → Translation String}
variable {d d₁ d' : Declarations} {hint : NameHint} {expr : String} {refs : List Ref}

theorem Covers.refl {limit : Json} (hm : ∀ r ∈ refs, d.Recorded r)
    (h : ∀ r, d.Recorded r → Settles g limit r) : Covers g limit d d refs :=
  ⟨fun _ hr => hr, hm, fun _ hr hn => absurd hr hn, h⟩

/-- Only what is recorded matters. -/
theorem Covers.congr {limit : Json} {d₀ d₀' : Declarations} (h : Covers g limit d d' refs)
    (hd : d₀.lazies = d.lazies) (hd' : d₀'.lazies = d'.lazies) : Covers g limit d₀ d₀' refs := by
  have hi (r : Ref) : d₀.Recorded r ↔ d.Recorded r := Declarations.recorded_congr hd
  have hi' (r : Ref) : d₀'.Recorded r ↔ d'.Recorded r := Declarations.recorded_congr hd'
  refine ⟨fun r hr => (hi' r).mpr (h.kept r ((hi r).mp hr)), fun r hm => (hi' r).mpr (h.refs r hm),
    fun r hr hn b hb => ?_, fun r hr => h.settled r ((hi' r).mp hr)⟩
  exact (hi' b).mpr (h.closed r ((hi' r).mp hr) (fun hr₀ => hn ((hi r).mpr hr₀)) b hb)

theorem declareClass_lazies {name : String} (h : Returns (declareClass hint) d name d') :
    d'.lazies = d.lazies := by
  obtain ⟨text, -, hd⟩ := returns_declareClass.mp h
  cases hd
  rfl

theorem Covers.trans {limit : Json} {as bs : List Ref} (h : Covers g limit d d₁ as)
    (h' : Covers g limit d₁ d' bs) : Covers g limit d d' (as ++ bs) := by
  refine ⟨fun r hr => h'.kept r (h.kept r hr), fun r hm => ?_, fun r hr hn b hb => ?_, h'.settled⟩
  · rcases List.mem_append.mp hm with hm | hm
    · exact h'.kept r (h.refs r hm)
    · exact h'.refs r hm
  · by_cases hr₁ : d₁.Recorded r
    · exact h'.kept b (h.closed r hr₁ hn b hb)
    · exact h'.closed r hr hr₁ b hb

def Covering (g : Graph) (limit : Json) (inside : Node → NameHint → Translation String) : Prop :=
  ∀ node hint d expr d', Parsed node → (∀ r, d.Recorded r → Settles g limit r) →
    Returns (inside node hint) d expr d' → Covers g limit d d' node.refs

theorem fields_cover {limit : Json} (hi : Covering g limit inside) {name : String}
    {members : List (String × Node)} : ∀ {used : List String} {d : Declarations},
      (∀ member ∈ members, Parsed member.2) → (∀ r, d.Recorded r → Settles g limit r) →
      Returns (fields s inside name used members) d () d' →
      Covers g limit d d' (Node.membersRefs members) := by
  induction members with
  | nil =>
    intro used d _ h hr
    cases returns_fields_nil.mp hr
    exact .refl (by simp [Node.membersRefs]) h
  | cons member rest ih =>
    obtain ⟨key, node⟩ := member
    intro used d hp h hr
    obtain ⟨hnode, hrest⟩ := List.forall_mem_cons.mp hp
    obtain ⟨peeled, type, d₁, -, hin, hfields⟩ := returns_fields_cons.mp hr
    have hc := (hi _ _ _ _ _ hnode h hin).congr rfl
      (show (d₁.addField name (newField used key type peeled)).lazies = _ from rfl)
    exact hc.trans (ih hrest hc.settled hfields)

theorem options_cover {limit : Json} (hi : Covering g limit inside) {nodes : List Node} :
    ∀ {index : Nat} {parts : List String} {d : Declarations}, (∀ node ∈ nodes, Parsed node) →
      (∀ r, d.Recorded r → Settles g limit r) →
      Returns (options inside hint index nodes) d parts d' →
      Covers g limit d d' (Node.listRefs nodes) := by
  induction nodes with
  | nil =>
    intro index parts d _ h hr
    obtain ⟨-, rfl⟩ := returns_options_nil.mp hr
    exact .refl (by simp [Node.listRefs]) h
  | cons node rest ih =>
    intro index parts d hp h hr
    obtain ⟨hnode, hrest⟩ := List.forall_mem_cons.mp hp
    obtain ⟨first, others, d₁, hin, hoptions, -⟩ := returns_options_cons.mp hr
    have hc := hi _ _ _ _ _ hnode h hin
    exact hc.trans (ih hrest hc.settled hoptions)

/-- An object is recorded first, and the references of its fields behind it. -/
theorem lazyObject_cover (hi : Covering g s.unwrapLimit inside) (hg : g.AllParsed)
    (h : ∀ r, d.Recorded r → Settles g s.unwrapLimit r) {description : Json} {ref : Ref}
    {resolved : Node} {target : Schema.Peeled} {members : List (String × Node)} {class_ : String}
    {d₁ d₂ : Declarations} (hr : g.resolve ref = .ok resolved)
    (hp : Schema.peel s.unwrapLimit resolved = .ok target)
    (hobj : target.node = .object description members)
    (hd : Returns (declareClass hint) d class_ d₁)
    (hf : Returns (fields s inside class_ [] members) (d₁.recordLazy ref expr) () d₂) :
    Covers g s.unwrapLimit d d₂ [ref] := by
  have hparsed : Parsed resolved := hg.resolve_ok hr
  obtain ⟨hrefs, hmembers⟩ := hparsed.members hp hobj
  have hlazies (r : Ref) : d₁.Recorded r ↔ d.Recorded r :=
    Declarations.recorded_congr (declareClass_lazies hd)
  have hobject : Settles g s.unwrapLimit ref :=
    .object ⟨resolved, target, description, members, hr, hp, hobj⟩
  have hstart : ∀ r, (d₁.recordLazy ref expr).Recorded r → Settles g s.unwrapLimit r := by
    intro r hrec
    rcases Declarations.recorded_recordLazy.mp hrec with rfl | hrec
    · exact hobject
    · exact h r ((hlazies r).mp hrec)
  have hc := fields_cover hi hmembers hstart hf
  refine ⟨fun r hrec => ?_, fun r hm => ?_, fun r hrec hn b hb => ?_, hc.settled⟩
  · exact hc.kept r (Declarations.recorded_recordLazy.mpr (.inr ((hlazies r).mpr hrec)))
  · rw [List.mem_singleton.mp hm]
    exact hc.kept ref (Declarations.recorded_recordLazy.mpr (.inl rfl))
  · by_cases he : r = ref
    · subst he
      obtain ⟨node, hnode, hb⟩ := hb
      rw [hr] at hnode
      cases hnode
      rw [hrefs] at hb
      exact hc.refs b hb
    · refine hc.closed r hrec (fun hrec₁ => ?_) b hb
      rcases Declarations.recorded_recordLazy.mp hrec₁ with rfl | hrec₁
      · exact he rfl
      · exact hn ((hlazies r).mp hrec₁)

/-- Anything else is recorded behind the references of its definition. -/
theorem lazyOther_cover {limit : Json} (hi : Covering g limit inside) (hg : g.AllParsed)
    (h : ∀ r, d.Recorded r → Settles g limit r) {ref : Ref} {resolved : Node} {d₁ : Declarations}
    (hr : g.resolve ref = .ok resolved)
    (hin : Returns (inside resolved hint) { d with depth := d.depth + 1 } expr d₁) :
    Covers g limit d (Declarations.recordLazy { d₁ with depth := d₁.depth - 1 } ref expr)
      [ref] := by
  have hc : Covers g limit d d₁ resolved.refs :=
    (hi _ _ { d with depth := d.depth + 1 } _ _ (hg.resolve_ok hr) h hin).congr rfl rfl
  have hrefs : ∀ b, Refers g ref b → d₁.Recorded b := by
    rintro b ⟨node, hnode, hb⟩
    rw [hr] at hnode
    cases hnode
    exact hc.refs b hb
  refine ⟨fun r hrec => ?_, fun r hm => ?_, fun r hrec hn b hb => ?_, fun r hrec => ?_⟩
  · exact Declarations.recorded_recordLazy.mpr (.inr (hc.kept r hrec))
  · exact Declarations.recorded_recordLazy.mpr (.inl (List.mem_singleton.mp hm))
  · refine Declarations.recorded_recordLazy.mpr (.inr ?_)
    rcases Declarations.recorded_recordLazy.mp hrec with rfl | hrec
    · exact hrefs b hb
    · exact hc.closed r hrec hn b hb
  · rcases Declarations.recorded_recordLazy.mp hrec with rfl | hrec
    · exact .other fun b hb => hc.settled b (hrefs b hb)
    · exact hc.settled r hrec

theorem core_cover (hi : Covering g s.unwrapLimit inside) (hg : g.AllParsed) {node : Node}
    (hp : Parsed node) (h : ∀ r, d.Recorded r → Settles g s.unwrapLimit r)
    (hr : Returns (core g s inside node hint) d expr d') :
    Covers g s.unwrapLimit d d' node.refs := by
  cases core_cases hr with
  | object hd hf =>
    have hlazies := declareClass_lazies hd
    cases hp with
    | object hm =>
      have hstart (r : Ref) (hr : Declarations.Recorded _ r) : Settles g s.unwrapLimit r :=
        h r ((Declarations.recorded_congr hlazies).mp hr)
      exact (fields_cover hi hm hstart hf).congr hlazies.symm rfl
  | primitive | literal => exact .refl (by simp [Node.refs]) h
  | strings he ha =>
    cases hp with
    | array hel =>
      rw [hel.element] at he
      cases he
      rw [hel.not_absent] at ha
      cases ha
    | anyArray => exact .refl (by simp [Node.refs, Node.listRefs, Node.absent]) h
  | array he ha hin =>
    cases hp with
    | array hel =>
      rw [hel.element] at he
      cases he
      have hc := hi _ _ _ _ _ hel h hin
      simpa [Node.refs, Node.listRefs] using hc
    | anyArray =>
      cases he
      cases ha
  | anyString hv | names hv | literals hv =>
    cases hp with
    | enumeration => exact (Covers.refl (by simp [Node.refs]) h).congr rfl rfl
    | lazy | primitive | literal | array | anyArray | object | record | anyRecord | union
    | wrapper => cases hv
  | record ha hkey hvalue =>
    cases hp with
    | record hk hv =>
      rw [hk.not_absent] at hkey
      have hc := hi _ _ _ _ _ hk h hkey
      exact hc.trans (hi _ _ _ _ _ hv hc.settled hvalue)
    | anyRecord hv =>
      have hc := hi _ _ _ _ _ .primitive h hkey
      exact hc.trans (hi _ _ _ _ _ hv hc.settled hvalue)
  | union hne ho =>
    cases hp with
    | union hm => exact options_cover hi hm h ho
  | bare hn hin => cases hp
  | reused hl =>
    refine .refl (fun r hm => ?_) h
    rw [List.mem_singleton.mp hm]
    exact Option.isSome_of_eq_some hl
  | lazyObject _ hres hpeel hobj hd hexpr hf =>
    exact (lazyObject_cover hi hg h hres hpeel hobj hd hf).congr rfl rfl
  | lazyOther _ hres _ _ _ hin => exact lazyOther_cover hi hg h hres hin

theorem step_cover (hi : Covering g s.unwrapLimit inside) (hg : g.AllParsed) :
    Covering g s.unwrapLimit (step g s inside) := by
  intro node hint d expr d' hp h hr
  obtain ⟨peeled, type, hpeel, hc, -⟩ := returns_step.mp hr
  rw [(Schema.peel_ok hpeel).1] at hc
  rw [← hp.refs_base]
  exact core_cover hi hg hp.base h hc

theorem within_cover (hg : g.AllParsed) (s : Settings.Translator) (nesting : Nat) :
    Covering g s.unwrapLimit (within g s nesting) := by
  induction nesting with
  | zero => intro node hint d expr d' _ _ hr; exact (returns_throw hr).elim
  | succ nesting ih => exact step_cover ih hg

end Translation

/-- A document whose root can be translated has an object in every cycle of references. -/
theorem guarded_of_returns {g : Graph} {s : Settings.Translator} {root : Node} {hint : NameHint}
    {expr : String} {d : Declarations} (hroot : Parsed root) (hg : g.AllParsed)
    (hr : Translation.Returns (translate g s root hint) {} expr d) :
    Schema.Guarded g s.unwrapLimit root := by
  have hempty (r : Ref) : ¬ Declarations.Recorded {} r := by
    simp [Declarations.Recorded, Declarations.lazy?]
  have hc := Translation.within_cover hg s _ _ _ _ _ _ hroot (fun r h => absurd h (hempty r))
    (Translation.returns_translate.mp hr)
  have hrecorded (ref : Ref) (hreach : Schema.Reachable g root ref) : d.Recorded ref := by
    obtain ⟨first, hm, hpath⟩ := hreach
    induction hpath with
    | refl => exact hc.refs first hm
    | tail _ hab ih => exact hc.closed _ ih (hempty _) _ hab
  intro ref refs hreach hcycle
  exact (hc.settled ref (hrecorded ref hreach)).of_cycle refs hcycle

end StructuredOutput.Baml
