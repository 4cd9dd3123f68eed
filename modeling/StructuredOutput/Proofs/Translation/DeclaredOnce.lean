import StructuredOutput.Proofs.Translation.Contributions
import StructuredOutput.Proofs.Translation.DepthBudget

/-! # When everything is declared once

A definition that is no object is recorded when it has been translated, so a cycle that leads back
to it through an object enters it once more. If it has sites, each of them then declares again, and
its references contribute different expressions. Nothing else does: everything is declared once
exactly if no definition with sites is entered while it is being translated. -/
namespace StructuredOutput.Baml

open Schema (Graph Node Ref Parsed Refers Settles)

namespace Translation

/-- Whether every place declares at most once, and every reference contributes one expression. -/
structure DeclaresOnce (events : List Event) : Prop where
  places : (declaredPlaces events).Nodup
  expressions : ∀ ref expr expr', Gives events ref expr → Gives events ref expr' → expr = expr'

/-- Whether the definition behind a reference is entered while it is being translated. -/
def Reenters (events : List Event) (ref : Ref) : Prop :=
  ∃ before between rest, events = before ++ .enters ref :: between ++ .enters ref :: rest ∧
    ∀ expr, .leaves ref expr ∉ between

variable {g : Graph} {s : Settings.Translator} {d d' : Declarations} {events : List Event}
variable {root : Node} {hint : NameHint} {expr : String} {ref : Ref}

/-! ## Entering twice -/

theorem count_enteredRefs (events : List Event) (ref : Ref) :
    (enteredRefs events).count ref = events.count (.enters ref) := by
  induction events with
  | nil => rfl
  | cons event rest ih =>
    cases event with
    | enters r =>
      change (r :: enteredRefs rest).count ref = _
      rw [List.count_cons, List.count_cons, ih]
      simp
    | declares | leaves | reuses =>
      rw [List.count_cons, ← ih]
      simp [enteredRefs]

theorem Reenters.count (h : Reenters events ref) : 2 ≤ (enteredRefs events).count ref := by
  obtain ⟨before, between, rest, rfl, -⟩ := h
  rw [count_enteredRefs]
  simp only [List.count_append, List.count_cons_self]
  omega

/-- A definition is not entered again after its end, so what is entered twice is entered within. -/
theorem Follows.reenters (h : Follows d d' events) (hc : 2 ≤ (enteredRefs events).count ref) :
    Reenters events ref := by
  rw [count_enteredRefs] at hc
  have hfirst : 0 < events.count (.enters ref) := by omega
  obtain ⟨before, rest, rfl, hb⟩ := List.eq_append_cons_of_mem (List.count_pos_iff.mp hfirst)
  rw [List.count_append, List.count_cons_self, List.count_eq_zero.mpr hb] at hc
  have hrest : 0 < rest.count (.enters ref) := by omega
  obtain ⟨between, rest, rfl⟩ := List.append_of_mem (List.count_pos_iff.mp hrest)
  refine ⟨before, between, rest, by simp, fun expr hm => ?_⟩
  have hp := (List.pairwise_cons.mp (List.pairwise_append.mp h.ended).2.1).2
  exact (List.pairwise_append.mp hp).2.2 _ hm _ List.mem_cons_self ref expr rfl rfl

/-! ## Places -/

theorem definitionSites_spec (hg : g.AllParsed) (ref : Ref) :
    (∀ p ∈ definitionSites g ref, p.entry = some ref) ∧ (definitionSites g ref).Nodup := by
  cases hr : g.resolve ref with
  | error fault => simp [definitionSites, hr]
  | ok node =>
    rw [definitionSites_ok hr]
    obtain ⟨hu, hn⟩ := sites_spec (hg.resolve_ok hr) (.ofRef ref)
    exact ⟨fun p hp => (hu p hp).1.symm, hn⟩

theorem count_definitionSites (hg : g.AllParsed) (refs : List Ref) {p : Place}
    (hp : p.entry = some ref) :
    (refs.flatMap (definitionSites g)).count p = refs.count ref * (definitionSites g ref).count p := by
  induction refs with
  | nil => simp
  | cons r rest ih =>
    rw [List.flatMap_cons, List.count_append, ih, List.count_cons]
    by_cases hr : r = ref
    · subst hr
      rw [beq_self_eq_true, if_pos rfl, Nat.add_mul, Nat.one_mul, Nat.add_comm]
    · have hnot : p ∉ definitionSites g r := by
        intro hm
        have he := (definitionSites_spec hg r).1 p hm
        rw [hp] at he
        cases he
        exact hr rfl
      rw [List.count_eq_zero.mpr hnot, if_neg (by simpa using hr)]
      simp

/-- The places declare once exactly if no definition with sites is entered twice. -/
theorem places_nodup_iff (hg : g.AllParsed) (hp : Parsed root)
    (h : Logs g s (.node .root root hint) d [expr] d' events) :
    (declaredPlaces events).Nodup ↔
      ∀ ref, definitionSites g ref ≠ [] → (enteredRefs events).count ref ≤ 1 := by
  obtain ⟨hu, hn⟩ := sites_spec hp .root
  rw [List.nodup_iff_count_le_one]
  constructor
  · intro hle ref hs
    obtain ⟨p, hm⟩ := List.exists_mem_of_ne_nil _ hs
    have hcount := hle p
    rw [h.places p, count_definitionSites hg _ ((definitionSites_spec hg ref).1 p hm)] at hcount
    calc (enteredRefs events).count ref
        ≤ (enteredRefs events).count ref * (definitionSites g ref).count p :=
          Nat.le_mul_of_pos_right _ (List.count_pos_iff.mpr hm)
      _ ≤ 1 := by omega
  · intro hle p
    rw [h.places p]
    cases he : p.entry with
    | none =>
      have hnone : p ∉ (enteredRefs events).flatMap (definitionSites g) := by
        intro hm
        obtain ⟨ref, -, hm⟩ := List.mem_flatMap.mp hm
        rw [(definitionSites_spec hg ref).1 p hm] at he
        cases he
      rw [List.count_eq_zero.mpr hnone]
      exact List.nodup_iff_count_le_one.mp hn p
    | some ref =>
      have hroot : p ∉ sites .root root := by
        intro hm
        rw [← (hu p hm).1] at he
        cases he
      have hone := List.nodup_iff_count_le_one.mp (definitionSites_spec hg ref).2 p
      rw [count_definitionSites hg _ he]
      change (sites .root root).count p + _ ≤ 1
      rw [List.count_eq_zero.mpr hroot, Nat.zero_add]
      by_cases hs : definitionSites g ref = []
      · simp [hs]
      · exact Nat.mul_le_mul (hle ref hs) hone

/-! ## Expressions -/

theorem Comes.alike {e e' : String} (h : Comes g s events ref e) (h' : Comes g s events ref e')
    (hs : definitionSites g ref = [])
    (hr : ∀ b, Refers g ref b → ∀ e e', Gives events b e → Gives events b e' → e = e') : e = e' := by
  obtain ⟨resolved, hres, hc⟩ := h
  obtain ⟨resolved', hres', hc'⟩ := h'
  cases hres.symm.trans hres'
  rw [definitionSites_ok hres] at hs
  have hobject : isObject resolved.base ≠ true := by
    intro ho
    unfold isObject at ho
    split at ho
    · rename_i hb
      rw [← sites_base, hb] at hs
      simp [sites] at hs
    · cases ho
  obtain ⟨hint, d, d', inner, hl, hi⟩ := hc.resolve_left hobject
  obtain ⟨hint', d₁, d₁', inner', hl', hi'⟩ := hc'.resolve_left hobject
  have hagree : Agree resolved.refs events events := fun b hb => hr b ⟨resolved, hres, hb⟩
  have he := hl.alike hl' .node hs (hagree.mono hi hi')
  simpa using he

/-- A reference contributes one expression if no definition with sites is entered twice. -/
theorem expressions_unique (hf : Follows {} d' events) (hc : Sourced g s {} d' events)
    (hs : ∀ r, d'.Recorded r → Settles g s.unwrapLimit r)
    (hle : ∀ ref, definitionSites g ref ≠ [] → (enteredRefs events).count ref ≤ 1) {e e' : String}
    (h : Gives events ref e) (h' : Gives events ref e') : e = e' := by
  have honce (r : Ref) (hr : definitionSites g r ≠ []) (e e' : String) (h : Gives events r e)
      (h' : Gives events r e') : e = e' := by
    have hcount := hle r hr
    rw [count_enteredRefs] at hcount
    exact Option.some.inj ((hf.once r e hcount h).symm.trans (hf.once r e' hcount h'))
  have hsettles := hs ref (hf.recorded ref e h)
  induction hsettles generalizing e e' with
  | @object ref ho =>
    refine honce ref (fun hnone => ?_) e e' h h'
    obtain ⟨resolved, target, description, members, hres, hpeel, hobj⟩ := ho
    rw [definitionSites_ok hres, ← sites_base, ← (Schema.peel_ok hpeel).1, hobj] at hnone
    simp [sites] at hnone
  | @other ref _ ih =>
    by_cases hr : definitionSites g ref = []
    · have hcomes (e : String) (h : Gives events ref e) : Comes g s events ref e :=
        (hc.given ref e h).resolve_left (by simp [Declarations.lazy?])
      exact (hcomes e h).alike (hcomes e' h') hr fun b hb e e' h h' => ih b hb h h'
    · exact honce ref hr e e' h h'

end Translation

open Translation

/-- When everything is declared once. A run over a document from nothing declares what its log says;
in that log each object and each enumeration with values declares at most once, and all references
to one definition contribute the same expression, exactly if no definition that has such a site is
entered again while it is being translated. -/
theorem declares_once_iff {number : Nat} {schema : Json} {root : Node} {g : Graph}
    (hread : Schema.Document.read number schema = .ok (root, g)) {s : Settings.Translator}
    {hint : NameHint} {expr : String} {d : Declarations}
    (hr : Returns (translate g s root hint) {} expr d) :
    d.names.Perm (declaredNames (log g s root hint {})) ∧
      (DeclaresOnce (log g s root hint {}) ↔
        ∀ ref, Reenters (log g s root hint {}) ref → definitionSites g ref = []) := by
  obtain ⟨hroot, hg⟩ := Schema.Document.read_parsed hread
  have hl := logs_of_returns hg hroot hr
  have hf := hl.follows
  have hnames := hl.names
  have hempty (r : Ref) : ¬ Declarations.Recorded {} r := by
    simp [Declarations.Recorded, Declarations.lazy?]
  have hsettled := (within_cover hg s _ _ _ _ _ _ hroot (fun r h => absurd h (hempty r))
    (returns_translate.mp hr)).settled
  refine ⟨by simpa [Declarations.names] using hnames, fun honce ref hre => ?_, fun hnone => ?_⟩
  · by_contra hs
    have hle := (places_nodup_iff hg hroot hl).mp honce.places ref hs
    have htwo := hre.count
    omega
  · have hle (ref : Ref) (hs : definitionSites g ref ≠ []) :
        (enteredRefs (log g s root hint {})).count ref ≤ 1 := by
      by_contra hc
      exact hs (hnone ref (hf.reenters (by omega)))
    exact ⟨(places_nodup_iff hg hroot hl).mpr hle, fun ref e e' h h' =>
      expressions_unique hf hl.sourced hsettled hle h h'⟩

/-- Entered from the object, the union is met only behind the recorded object. -/
theorem declares_once_from_object :
    ∃ d, Returns (translate loopTable {} (loopRoot "M") (.text "Root")) {} "M" d ∧
      d.enums = [("LU0", [.str "a", .str "b"])] ∧
      DeclaresOnce (log loopTable {} (loopRoot "M") (.text "Root") {}) := by
  have hread : Schema.Document.read 0 (loopSchema "M") = .ok (loopRoot "M", loopTable) := by cbv
  have hr : Returns (translate loopTable {} (loopRoot "M") (.text "Root")) {} "M"
    (after (translate loopTable {} (loopRoot "M") (.text "Root")) {}) := rfl
  have hentered : enteredRefs (log loopTable {} (loopRoot "M") (.text "Root") {}) =
    [loopRef "M", loopRef "L"] := rfl
  refine ⟨_, hr, rfl, (declares_once_iff hread hr).2.mpr fun ref hre => ?_⟩
  have htwo := hre.count
  rw [hentered] at htwo
  have hle := List.nodup_iff_count_le_one.mp (by decide : [loopRef "M", loopRef "L"].Nodup) ref
  omega

/-- Entered from the union, the same definitions declare the enum twice, and the union contributes
two expressions. -/
theorem declares_twice_from_union :
    Schema.Document.read 0 (loopSchema "L") = .ok (loopRoot "L", loopTable) ∧
      ∃ d, Returns (translate loopTable {} (loopRoot "L") (.text "Root")) {} "LU0 | M" d ∧
        d.enums = [("LU0", [.str "a", .str "b"]), ("LU01", [.str "a", .str "b"])] ∧
        ¬ DeclaresOnce (log loopTable {} (loopRoot "L") (.text "Root") {}) := by
  refine ⟨by cbv, _, rfl, rfl, fun h => ?_⟩
  have hplaces : declaredPlaces (log loopTable {} (loopRoot "L") (.text "Root") {}) =
    [⟨some (loopRef "L"), [0]⟩, ⟨some (loopRef "M"), []⟩, ⟨some (loopRef "L"), [0]⟩] := rfl
  have hn := h.places
  rw [hplaces] at hn
  exact absurd hn (by decide)

end StructuredOutput.Baml
