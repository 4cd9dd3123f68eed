import Mathlib.Data.List.Permutation
import StructuredOutput.Proofs.Translation.RecordedReferences

/-! # The depth that a schema needs

The depth counts the references of no object that are being translated. Between two objects on a
path of the translation no such reference comes twice, as that would be a cycle without an object;
and an object is entered once only, as it is recorded before its fields are translated. So `N`
references of no object and `M` of objects need a depth of at most `N * (M + 1)`. -/
namespace StructuredOutput.Baml

open Schema (Graph Node Ref Parsed Fair Refers Reachable ObjectLike Guarded Through objectRefs
  otherRefs)

namespace Translation

open Declarations (Recorded)

/-! ## Translations that do not end too deep -/

def Shallow {α : Type} (m : Translation α) (d : Declarations) : Prop :=
  ∀ fault d', Fails m d fault d' → fault.isTooDeep = false

variable {α β : Type} {d : Declarations}

theorem Shallow.bind {m : Translation α} {f : α → Translation β} (hm : Shallow m d)
    (hf : ∀ a d₁, Returns m d a d₁ → Shallow (f a) d₁) : Shallow (m >>= f) d := by
  intro fault d' h
  rcases fails_bind.mp h with h | ⟨a, d₁, hr, h⟩
  · exact hm fault d' h
  · exact hf a d₁ hr fault d' h

theorem shallow_pure {a : α} : Shallow (pure a : Translation α) d := by
  intro fault d' h
  exact (fails_pure h).elim

theorem shallow_throw {fault : Fault} (h : fault.isTooDeep = false) :
    Shallow (throw fault : Translation α) d := by
  intro fault' d' hf
  obtain ⟨rfl, -⟩ := fails_throw.mp hf
  exact h

theorem shallow_lift {holds : α → Prop} {r : Except Fault α} (h : Fair holds r) :
    Shallow (lift r) d := by
  intro fault d' hf
  obtain ⟨rfl, -⟩ := fails_lift.mp hf
  exact h

theorem shallow_get : Shallow (get : Translation Declarations) d := by
  intro fault d' h
  exact (fails_get h).elim

theorem shallow_modify {f : Declarations → Declarations} :
    Shallow (modify f : Translation Unit) d := by
  intro fault d' h
  exact (fails_modify h).elim

theorem shallow_modifyGet {f : Declarations → α × Declarations} :
    Shallow (modifyGet f : Translation α) d := by
  intro fault d' h
  exact (fails_modifyGet h).elim

theorem shallow_deeper {m : Translation α} (h : Shallow m { d with depth := d.depth + 1 }) :
    Shallow (deeper m) d := by
  intro fault d' hf
  obtain ⟨d₁, hf, -⟩ := fails_deeper.mp hf
  exact h fault d₁ hf

theorem peelWithin_fair {limit : Json} {budget : Nat} {p : Schema.Peeled} :
    Fair (fun _ => True) (Schema.peelWithin limit budget p) := by
  induction budget generalizing p with
  | zero => rfl
  | succ budget ih =>
    unfold Schema.peelWithin
    cases p.node with
    | wrapper _ form inner =>
      dsimp only
      split
      · rfl
      · exact ih
    | pipeline _ inner source =>
      dsimp only
      split
      · split
        · rfl
        · exact ih
      · exact ih
    | foreign | thunk => rfl
    | _ => trivial

theorem peel_fair (limit : Json) (node : Node) :
    Fair (fun _ => True) (Schema.peel limit node) := by
  unfold Schema.peel
  split
  · exact peelWithin_fair
  · rfl

theorem textOr_fair (hint : NameHint) (word : String) :
    Fair (fun _ => True) (hint.textOr word) := by
  cases hint with
  | none | text => trivial
  | shown => rfl

theorem primitiveType_fair (name : Json) : Fair (fun _ => True) (primitiveType name) := by
  unfold primitiveType
  split
  · split
    · trivial
    · rfl
  · rfl

theorem items_fair (values : Json) : Fair (fun _ => True) (match values.elements? with
    | some items => .ok items
    | none => .error .wrongType) := by
  split
  · trivial
  · rfl

theorem allNames_fair (values : List Json) : Fair (fun _ => True) (allNames values) := by
  induction values with
  | nil => trivial
  | cons value rest ih =>
    cases value with
    | str name =>
      unfold allNames
      split
      · exact ih
      · trivial
    | null | bool | int | float | arr | obj => rfl

theorem shallow_declareClass {hint : NameHint} : Shallow (declareClass hint) d := by
  unfold declareClass
  exact (shallow_lift (textOr_fair hint _)).bind fun _ _ _ => shallow_modifyGet

theorem shallow_enumType {values : Json} {hint : NameHint} : Shallow (enumType values hint) d := by
  unfold enumType
  split
  · exact shallow_pure
  refine (shallow_lift (items_fair values)).bind fun items d₁ _ => ?_
  refine (shallow_lift (allNames_fair items)).bind fun plain d₂ _ => ?_
  refine (shallow_lift (textOr_fair hint _)).bind fun text d₃ _ => ?_
  split
  · exact shallow_modifyGet
  · exact shallow_modifyGet

/-! ## What the depth is paid with -/

variable {g : Graph} {s : Settings.Translator} {inside : Node → NameHint → Translation String}
variable {limit : Json} {root : Node} {hint : NameHint} {d' : Declarations} {refs : List Ref}

def recordedObjects (g : Graph) (limit : Json) (root : Node) (d : Declarations) : Set Ref :=
  {ref ∈ objectRefs g limit root | d.Recorded ref}

theorem finite_recordedObjects (g : Graph) (limit : Json) (root : Node) (d : Declarations) :
    (recordedObjects g limit root d).Finite :=
  (Schema.finite_objectRefs g limit root).subset (Set.sep_subset _ _)

/-- Whether the depth is paid for where `refs` are met: by the recorded objects and by the
references of no object that were followed since the last object. -/
structure Affords (g : Graph) (limit : Json) (root : Node) (refs : List Ref) (d : Declarations) :
    Prop where
  reachable : ∀ b ∈ refs, Reachable g root b
  path : ∃ between : Finset Ref, ↑between ⊆ otherRefs g limit root ∧
    (∀ r ∈ between, ∀ b ∈ refs, Relation.TransGen (Through g limit) r b) ∧
    d.depth.toNat ≤
      (otherRefs g limit root).ncard * (recordedObjects g limit root d).ncard + between.card

theorem affords_start (h : d.depth = 0) : Affords g limit root root.refs d := by
  refine ⟨fun b hb => ⟨b, hb, .refl⟩, ∅, by simp, by simp, ?_⟩
  rw [h]
  exact Nat.zero_le _

theorem Affords.subset {bs : List Ref} (h : Affords g limit root refs d) (hs : bs ⊆ refs) :
    Affords g limit root bs d := by
  obtain ⟨between, ho, hp, hd⟩ := h.path
  exact ⟨fun b hb => h.reachable b (hs hb), between, ho, fun r hr b hb => hp r hr b (hs hb), hd⟩

/-- More may be recorded meanwhile. -/
theorem Affords.later (h : Affords g limit root refs d) (hk : ∀ r, d.Recorded r → d'.Recorded r)
    (hd : d'.depth = d.depth) : Affords g limit root refs d' := by
  obtain ⟨between, ho, hp, hle⟩ := h.path
  have hsub : recordedObjects g limit root d ⊆ recordedObjects g limit root d' :=
    fun r hr => ⟨hr.1, hk r hr.2⟩
  have hcard := Set.ncard_le_ncard hsub (finite_recordedObjects g limit root d')
  refine ⟨h.reachable, between, ho, hp, ?_⟩
  rw [hd]
  exact hle.trans (Nat.add_le_add_right (Nat.mul_le_mul_left _ hcard) _)

theorem card_between {between : Finset Ref} (ho : ↑between ⊆ otherRefs g limit root) :
    between.card ≤ (otherRefs g limit root).ncard := by
  have hcard := Set.ncard_le_ncard ho (Schema.finite_otherRefs g limit root)
  rwa [Set.ncard_coe_finset] at hcard

theorem reachable_resolved {ref : Ref} {resolved : Node} (h : Reachable g root ref)
    (hr : g.resolve ref = .ok resolved) : ∀ b ∈ resolved.refs, Reachable g root b :=
  fun _ hb => h.step ⟨resolved, hr, hb⟩

/-- An object that is recorded now pays for all references of no object on the path so far. -/
theorem Affords.enter {ref : Ref} {resolved : Node} {expr : String}
    (h : Affords g limit root refs d) (hm : ref ∈ refs) (hnew : ¬ d.Recorded ref)
    (hr : g.resolve ref = .ok resolved) (hobj : ObjectLike g limit ref) :
    Affords g limit root resolved.refs (d.recordLazy ref expr) := by
  obtain ⟨between, ho, -, hle⟩ := h.path
  have hreach := h.reachable ref hm
  have hsub : insert ref (recordedObjects g limit root d) ⊆
      recordedObjects g limit root (d.recordLazy ref expr) := by
    rintro r (rfl | hr)
    · exact ⟨⟨hreach, hobj⟩, Declarations.recorded_recordLazy.mpr (.inl rfl)⟩
    · exact ⟨hr.1, Declarations.recorded_recordLazy.mpr (.inr hr.2)⟩
  have hcard : (recordedObjects g limit root d).ncard + 1 ≤
      (recordedObjects g limit root (d.recordLazy ref expr)).ncard := by
    rw [← Set.ncard_insert_of_notMem (fun hr => hnew hr.2) (finite_recordedObjects g limit root d)]
    exact Set.ncard_le_ncard hsub (finite_recordedObjects g limit root _)
  refine ⟨reachable_resolved hreach hr, ∅, by simp, by simp, ?_⟩
  calc d.depth.toNat
      ≤ (otherRefs g limit root).ncard * (recordedObjects g limit root d).ncard + between.card := hle
    _ ≤ (otherRefs g limit root).ncard * ((recordedObjects g limit root d).ncard + 1) := by
        rw [Nat.mul_add_one]
        exact Nat.add_le_add_left (card_between ho) _
    _ ≤ _ := Nat.mul_le_mul_left _ hcard

/-- A reference of no object is not on the path yet, so the depth is below what all of them and all
objects pay for. -/
theorem Affords.descend {ref : Ref} {resolved : Node} (h : Affords g limit root refs d)
    (hguard : Guarded g limit root) (hm : ref ∈ refs) (hr : g.resolve ref = .ok resolved)
    (hother : ¬ ObjectLike g limit ref) :
    d.depth.toNat < (otherRefs g limit root).ncard * ((objectRefs g limit root).ncard + 1) ∧
      Affords g limit root resolved.refs { d with depth := d.depth + 1 } := by
  obtain ⟨between, ho, hp, hle⟩ := h.path
  have hreach := h.reachable ref hm
  have hnew : ref ∉ between := fun hin => hguard.not_through hreach (hp ref hin ref hm)
  have hinsert : ↑(insert ref between) ⊆ otherRefs g limit root := by
    rw [Finset.coe_insert]
    exact Set.insert_subset ⟨hreach, hother⟩ ho
  have hcard := card_between hinsert
  rw [Finset.card_insert_of_notMem hnew] at hcard
  have hobjects : (recordedObjects g limit root d).ncard ≤ (objectRefs g limit root).ncard :=
    Set.ncard_le_ncard (Set.sep_subset _ _) (Schema.finite_objectRefs g limit root)
  constructor
  · calc d.depth.toNat
        < (otherRefs g limit root).ncard * (recordedObjects g limit root d).ncard +
            (otherRefs g limit root).ncard := by omega
      _ = (otherRefs g limit root).ncard * ((recordedObjects g limit root d).ncard + 1) :=
          (Nat.mul_add_one _ _).symm
      _ ≤ _ := Nat.mul_le_mul_left _ (Nat.add_le_add_right hobjects 1)
  · refine ⟨reachable_resolved hreach hr, insert ref between, hinsert, fun r hin b hb => ?_, ?_⟩
    · have hstep : Through g limit ref b := ⟨⟨resolved, hr, hb⟩, hother⟩
      rcases Finset.mem_insert.mp hin with rfl | hin
      · exact .single hstep
      · exact (hp r hin ref hm).tail hstep
    · rw [Finset.card_insert_of_notMem hnew]
      change (d.depth + 1).toNat ≤ _ * (recordedObjects g limit root d).ncard + _
      omega

theorem Affords.grows (h : Affords g limit root refs d) (hd : Declarations.Grows d d') :
    Affords g limit root refs d' :=
  h.later hd.lazies hd.depth

/-! ## One step -/

/-- A schema whose cycles all contain an object, and a limit that no path exceeds. -/
structure Budgeted (g : Graph) (s : Settings.Translator) (root : Node) : Prop where
  parsed : g.AllParsed
  guarded : Guarded g s.unwrapLimit root
  enough : ∃ budget : Int, s.maxLazyDepth = .int budget ∧
    ((otherRefs g s.unwrapLimit root).ncard * ((objectRefs g s.unwrapLimit root).ncard + 1) : Nat)
      ≤ budget

/-- A translation of nodes that does not fail for its depth where the depth is paid for. -/
structure Frugal (g : Graph) (limit : Json) (root : Node)
    (inside : Node → NameHint → Translation String) : Prop where
  steady : Steady inside
  shallow : ∀ {node hint d}, Parsed node → Affords g limit root node.refs d →
    Shallow (inside node hint) d

theorem fields_shallow (hi : Frugal g limit root inside) {name : String}
    {members : List (String × Node)} : ∀ {used : List String} {d : Declarations},
      (∀ member ∈ members, Parsed member.2) →
      Affords g limit root (Node.membersRefs members) d →
      Shallow (fields s inside name used members) d := by
  induction members with
  | nil => intro used d _ _; exact shallow_pure
  | cons member rest ih =>
    obtain ⟨key, node⟩ := member
    intro used d hp h
    obtain ⟨hnode, hrest⟩ := List.forall_mem_cons.mp hp
    unfold fields
    refine (shallow_lift (peel_fair _ node)).bind fun peeled d₁ hr => ?_
    obtain ⟨-, rfl⟩ := returns_lift.mp hr
    have hfirst := h.subset (List.subset_append_left node.refs _)
    refine (hi.shallow hnode hfirst).bind fun type d₁ ht => ?_
    have hothers := (h.subset (List.subset_append_right node.refs _)).grows (hi.steady.returns ht)
    refine shallow_modify.bind fun _ d₂ hr => ?_
    cases returns_modify.mp hr
    exact ih hrest (hothers.later (fun _ hr => hr) rfl)

theorem classType_shallow (hi : Frugal g limit root inside) {name : String}
    {members : List (String × Node)} (hp : ∀ member ∈ members, Parsed member.2)
    (h : Affords g limit root (Node.membersRefs members) d) :
    Shallow (classType s inside name members) d := by
  unfold classType
  refine (fields_shallow hi hp h).bind fun _ d₁ _ => ?_
  exact shallow_modify.bind fun _ d₂ _ => shallow_pure

theorem options_shallow (hi : Frugal g limit root inside) {nodes : List Node} :
    ∀ {index : Nat} {d : Declarations}, (∀ node ∈ nodes, Parsed node) →
      Affords g limit root (Node.listRefs nodes) d →
      Shallow (options inside hint index nodes) d := by
  induction nodes with
  | nil => intro index d _ _; exact shallow_pure
  | cons node rest ih =>
    intro index d hp h
    obtain ⟨hnode, hrest⟩ := List.forall_mem_cons.mp hp
    unfold options
    have hfirst := h.subset (List.subset_append_left node.refs _)
    refine (hi.shallow hnode hfirst).bind fun first d₁ hf => ?_
    have hothers := (h.subset (List.subset_append_right node.refs _)).grows (hi.steady.returns hf)
    exact (ih hrest hothers).bind fun others d₂ _ => shallow_pure

/-- An object is entered only once, so nothing is left of the path behind it. -/
theorem lazyObject_shallow (hi : Frugal g s.unwrapLimit root inside) {ref : Ref}
    (h : Affords g s.unwrapLimit root [ref] d) (hnew : ¬ d.Recorded ref) {resolved : Node}
    {target : Schema.Peeled} {description : Json} {members : List (String × Node)}
    (hparsed : Parsed resolved) (hres : g.resolve ref = .ok resolved)
    (hpeel : Schema.peel s.unwrapLimit resolved = .ok target)
    (hobj : target.node = .object description members) {name expr : String} {d₁ : Declarations}
    (hd : Returns (declareClass hint) d name d₁) :
    Shallow (classType s inside name members) (d₁.recordLazy ref expr) := by
  have hgrows : Declarations.Grows d d₁ := hd.after_eq ▸ grows_declareClass hint d
  have hnew₁ : ¬ d₁.Recorded ref := by
    rwa [Declarations.recorded_congr (declareClass_lazies hd)]
  have hobject : ObjectLike g s.unwrapLimit ref :=
    ⟨resolved, target, description, members, hres, hpeel, hobj⟩
  obtain ⟨hrefs, hmembers⟩ := hparsed.members hpeel hobj
  refine classType_shallow hi hmembers ?_
  rw [← hrefs]
  exact (h.grows hgrows).enter List.mem_cons_self hnew₁ hres hobject

/-- Any other definition is entered below the limit. -/
theorem lazyOther_shallow (hi : Frugal g s.unwrapLimit root inside) (hb : Budgeted g s root)
    {ref : Ref} (h : Affords g s.unwrapLimit root [ref] d) {resolved : Node}
    {target : Schema.Peeled} (hparsed : Parsed resolved) (hres : g.resolve ref = .ok resolved)
    (hpeel : Schema.peel s.unwrapLimit resolved = .ok target)
    (hother : ∀ description members, target.node ≠ .object description members) :
    reached d.depth s.maxLazyDepth = .ok false ∧ Shallow (deeper (inside resolved hint)) d := by
  have hnot : ¬ ObjectLike g s.unwrapLimit ref := by
    rintro ⟨resolved', target', description, members, hres', hpeel', hobj⟩
    cases hres.symm.trans hres'
    cases hpeel.symm.trans hpeel'
    exact hother description members hobj
  obtain ⟨hlt, hinner⟩ := h.descend hb.guarded List.mem_cons_self hres hnot
  obtain ⟨budget, hbudget, hle⟩ := hb.enough
  refine ⟨?_, shallow_deeper (hi.shallow hparsed hinner)⟩
  rw [hbudget]
  simp only [reached, Json.toInt?, Except.ok.injEq, decide_eq_false_iff_not]
  omega

theorem lazyType_shallow (hi : Frugal g s.unwrapLimit root inside) (hb : Budgeted g s root)
    {ref : Ref} (h : Affords g s.unwrapLimit root [ref] d) :
    Shallow (lazyType g s inside ref hint) d := by
  unfold lazyType
  refine shallow_get.bind fun _ d₁ hr => ?_
  obtain ⟨rfl, rfl⟩ := returns_get.mp hr
  cases hl : d.lazy? ref with
  | some expr => exact shallow_pure
  | none =>
    have hnew : ¬ d.Recorded ref := by simp [Recorded, hl]
    refine (shallow_lift (hb.parsed.resolve ref)).bind fun resolved d₁ hr => ?_
    obtain ⟨hres, rfl⟩ := returns_lift.mp hr
    have hparsed : Parsed resolved := hb.parsed.resolve_ok hres
    refine (shallow_lift (peel_fair _ resolved)).bind fun target d₁ hr => ?_
    obtain ⟨hpeel, rfl⟩ := returns_lift.mp hr
    split
    · rename_i description members hobj
      refine shallow_declareClass.bind fun name d₁ hd => ?_
      refine shallow_modify.bind fun _ d₂ hr => ?_
      cases returns_modify.mp hr
      refine (lazyObject_shallow hi h hnew hparsed hres hpeel hobj hd).bind fun _ d₂ _ => ?_
      exact shallow_pure
    · rename_i hother
      obtain ⟨hfree, hinner⟩ := lazyOther_shallow hi hb h hparsed hres hpeel hother
      refine shallow_get.bind fun _ d₁ hr => ?_
      obtain ⟨rfl, rfl⟩ := returns_get.mp hr
      have hfair : Fair (fun full => full = false) (reached d.depth s.maxLazyDepth) := by
        rw [hfree]
        rfl
      refine (shallow_lift hfair).bind fun full d₁ hr => ?_
      obtain ⟨hfull, rfl⟩ := returns_lift.mp hr
      cases hfree.symm.trans hfull
      refine hinner.bind fun expr d₁ _ => ?_
      exact shallow_modify.bind fun _ d₂ _ => shallow_pure

theorem array_shallow {description low high : Json} {candidates : List Node} {element : Node}
    (he : g.element candidates = .ok element)
    (hi : element.isAbsent = false → Shallow (inside element (hint.extend "Item")) d) :
    Shallow (core g s inside (.array description candidates low high) hint) d := by
  have hfair : Fair (fun e => e = element) (g.element candidates) := by
    rw [he]
    rfl
  simp only [core]
  refine (shallow_lift hfair).bind fun element' d₁ hr => ?_
  obtain ⟨he', rfl⟩ := returns_lift.mp hr
  cases he.symm.trans he'
  split
  · exact shallow_pure.bind fun inner d₁ _ => shallow_pure
  · rename_i ha
    exact (hi (by simpa using ha)).bind fun inner d₁ _ => shallow_pure

theorem record_shallow (hi : Frugal g limit root inside) {description : Json}
    {key chosen value : Node}
    (hc : (if key.isAbsent then .primitive .null (.str "string") else key) = chosen)
    (hk : Parsed chosen) (hv : Parsed value)
    (h : Affords g limit root (chosen.refs ++ value.refs) d) :
    Shallow (core g s inside (.record description key value) hint) d := by
  simp only [core, hv.not_absent, Bool.false_eq_true, if_false]
  rw [hc]
  have hkey := h.subset (List.subset_append_left chosen.refs _)
  have hvalue := h.subset (List.subset_append_right chosen.refs _)
  refine (hi.shallow hk hkey).bind fun keyType d₁ hr => ?_
  refine (hi.shallow hv (hvalue.grows (hi.steady.returns hr))).bind fun valueType d₂ _ => ?_
  exact shallow_pure

theorem core_shallow (hi : Frugal g s.unwrapLimit root inside) (hb : Budgeted g s root)
    {node : Node} (hp : Parsed node) (h : Affords g s.unwrapLimit root node.refs d) :
    Shallow (core g s inside node hint) d := by
  cases hp with
  | primitive => exact shallow_lift (primitiveType_fair _)
  | literal => exact shallow_pure
  | enumeration => exact shallow_enumType
  | lazy => exact lazyType_shallow hi hb h
  | object hm =>
    refine shallow_declareClass.bind fun name d₁ hd => ?_
    exact classType_shallow hi hm (h.grows (hd.after_eq ▸ grows_declareClass hint d))
  | anyArray =>
    have he : g.element [.absent] = .ok .absent := rfl
    exact array_shallow he fun ha => nomatch ha
  | array he =>
    refine array_shallow he.element fun _ => hi.shallow he (h.subset ?_)
    exact List.subset_append_left _ _
  | record hk hv => exact record_shallow hi (if_neg (by simp [hk.not_absent])) hk hv h
  | anyRecord hv => exact record_shallow hi (if_pos rfl) .primitive hv h
  | union hm =>
    simp only [core]
    split
    · exact (shallow_throw rfl).bind fun _ _ hr => (returns_throw hr).elim
    · exact (options_shallow hi hm h).bind fun parts d₁ _ => shallow_pure
  | wrapper => exact shallow_throw rfl

theorem step_frugal (hi : Frugal g s.unwrapLimit root inside) (hb : Budgeted g s root) :
    Frugal g s.unwrapLimit root (step g s inside) := by
  refine ⟨step_steady hi.steady, fun {node hint d} hp h => ?_⟩
  unfold step
  refine (shallow_lift (peel_fair _ node)).bind fun peeled d₁ hr => ?_
  obtain ⟨hpeel, rfl⟩ := returns_lift.mp hr
  rw [(Schema.peel_ok hpeel).1]
  rw [← hp.refs_base] at h
  exact (core_shallow hi hb hp.base h).bind fun type d₁ _ => shallow_pure

theorem within_frugal (hb : Budgeted g s root) (nesting : Nat) :
    Frugal g s.unwrapLimit root (within g s nesting) := by
  induction nesting with
  | zero => exact ⟨within_steady g s 0, fun _ _ => shallow_throw rfl⟩
  | succ nesting ih => exact step_frugal ih hb

end Translation

/-- Which recursive schemas can be translated. A schema whose root can be translated at all has an
object in every cycle of references; and where every cycle has one, a limit that `N` references of
no object and `M` of objects ask for is never exceeded, whatever else goes wrong. -/
theorem recursion_supported {number : Nat} {schema : Json} {root : Node} {g : Graph}
    (hread : Schema.Document.read number schema = .ok (root, g)) :
    (∀ s hint expr d, Translation.Returns (translate g s root hint) {} expr d →
      Guarded g s.unwrapLimit root) ∧
    (∀ s hint (budget : Int), Guarded g s.unwrapLimit root → s.maxLazyDepth = .int budget →
      ((otherRefs g s.unwrapLimit root).ncard * ((objectRefs g s.unwrapLimit root).ncard + 1) : Nat)
        ≤ budget →
      ∀ limit d, ¬ Translation.Fails (translate g s root hint) {} (.translation (.tooDeep limit)) d) := by
  obtain ⟨hroot, hg⟩ := Schema.Document.read_parsed hread
  constructor
  · exact fun s hint expr d hr => guarded_of_returns hroot hg hr
  · intro s hint budget hguard hbudget hle limit d hf
    have hb : Translation.Budgeted g s root := ⟨hg, hguard, budget, hbudget, hle⟩
    have hdeep := (Translation.within_frugal hb _).shallow hroot (Translation.affords_start rfl) _ _ hf
    cases hdeep

/-- Two definitions, entered from one of them: a union of names and of an object, and the object,
which has the union in a field. -/
def loopSchema (start : String) : Json :=
  .obj [("$ref", .str ("#/$defs/" ++ start)), ("$defs", .obj [
    ("L", .obj [("anyOf", .arr [.obj [("enum", .arr [.str "a", .str "b"])],
      .obj [("$ref", .str "#/$defs/M")]])]),
    ("M", .obj [("type", .str "object"), ("properties", .obj [
      ("f", .obj [("$ref", .str "#/$defs/L")])]), ("required", .arr [.str "f"])])])]

def loopRef (name : String) : Ref := ⟨0, "#/$defs/" ++ name⟩

def loopRoot (start : String) : Node := .lazy .null (.str start) (loopRef start)

def loopTable : Graph :=
  ⟨[("L", Node.union .null [.enumeration .null (.arr [.str "a", .str "b"]), loopRoot "M"]),
    ("M", .object .null [("f", loopRoot "L")])].flatMap
      fun (name, node) => Schema.Document.refStarts.map
        fun start => (⟨0, start ++ name⟩, .ok node)⟩

theorem loop_reachable {ref : Ref} (h : Reachable loopTable (loopRoot "L") ref) :
    ref ∈ ({loopRef "L", loopRef "M"} : Finset Ref) := by
  obtain ⟨first, hm, hpath⟩ := h
  induction hpath with
  | refl => rw [List.mem_singleton.mp hm]; decide
  | tail _ hab ih =>
    obtain ⟨node, hr, hb⟩ := hab
    rcases Finset.mem_insert.mp ih with rfl | ih
    · cases hr
      rw [List.mem_singleton.mp hb]
      decide
    · rw [Finset.mem_singleton.mp ih] at hr
      cases hr
      rw [List.mem_singleton.mp hb]
      decide

theorem recursion_supported_loop :
    Schema.Document.read 0 (loopSchema "L") = .ok (loopRoot "L", loopTable) ∧
      Guarded loopTable (.int 50) (loopRoot "L") ∧
      ∀ limit d, ¬ Translation.Fails (translate loopTable {} (loopRoot "L") .none) {}
        (.translation (.tooDeep limit)) d := by
  have hread : Schema.Document.read 0 (loopSchema "L") = .ok (loopRoot "L", loopTable) := by cbv
  obtain ⟨hguard, hshallow⟩ := recursion_supported hread
  have hr : Translation.Returns (translate loopTable {} (loopRoot "L") .none) {} "LU0 | M"
    (Translation.after (translate loopTable {} (loopRoot "L") .none) {}) := rfl
  have hcard (refs : Set Ref) (h : refs ⊆ {ref | Reachable loopTable (loopRoot "L") ref}) :
      refs.ncard ≤ 2 := by
    have hsub : refs ⊆ ({loopRef "L", loopRef "M"} : Finset Ref) := fun r hr => loop_reachable (h hr)
    have hle := Set.ncard_le_ncard hsub (Finset.finite_toSet _)
    rwa [Set.ncard_coe_finset] at hle
  have hothers := hcard (otherRefs loopTable (.int 50) (loopRoot "L")) fun r hr => hr.1
  have hobjects := hcard (objectRefs loopTable (.int 50) (loopRoot "L")) fun r hr => hr.1
  have hbudget := Nat.mul_le_mul hothers (Nat.add_le_add_right hobjects 1)
  have h := hguard {} .none _ _ hr
  exact ⟨hread, h, hshallow {} .none 32 h rfl (by exact_mod_cast hbudget.trans (by decide))⟩

end StructuredOutput.Baml
