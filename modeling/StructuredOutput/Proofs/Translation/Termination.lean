import Mathlib.Data.List.Permutation
import StructuredOutput.Proofs.Schema.Heights
import StructuredOutput.Proofs.Translation.RecordedReferences

/-! # Every translation ends

A translation goes down in a parsed node until it meets a reference. Following the reference of an
object records one more entry of the table, and what is recorded stays recorded; following any other
takes one from what the limit leaves of the depth, which is given back only on the way up. So what
is left of a path is bounded by the unrecorded entries, the remaining depth and the height of the
table, and a translation never asks for what lies below that nesting. -/
namespace StructuredOutput.Baml.Translation

open Schema (Graph Node Ref Parsed)

variable {α β : Type} {d d' : Declarations}

/-! ## The recursion over an arbitrary floor -/

theorem within_eq_iterate (g : Graph) (s : Settings.Translator) (nesting : Nat) :
    within g s nesting = (step g s)^[nesting] fun _ _ => throw .endless := by
  have hstep (n : Nat) : within g s (n + 1) = step g s (within g s n) := rfl
  exact Schema.eq_iterate hstep nesting

/-- Whether a nesting decides the outcome: it is the same whatever translates what lies deeper. -/
def EndsWithin (g : Graph) (s : Settings.Translator) (nesting : Nat) (node : Node)
    (hint : NameHint) (d : Declarations) : Prop :=
  ∃ outcome, ∀ below, ((step g s)^[nesting] below node hint).run.run d = outcome

/-- What ends within a nesting has the same outcome for every greater one. -/
theorem EndsWithin.mono {g : Graph} {s : Settings.Translator} {n m : Nat} {node : Node}
    {hint : NameHint} (h : EndsWithin g s n node hint d) (hle : n ≤ m) :
    EndsWithin g s m node hint d ∧
      (within g s m node hint).run.run d = (within g s n node hint).run.run d := by
  obtain ⟨outcome, ho⟩ := h
  obtain ⟨more, rfl⟩ := Nat.exists_eq_add_of_le hle
  refine ⟨⟨outcome, fun below => ?_⟩, ?_⟩
  · rw [Function.iterate_add_apply, ho]
  · rw [within_eq_iterate, within_eq_iterate, Function.iterate_add_apply, ho, ho]

/-! ## Translations with one outcome -/

def Same (m m' : Translation α) (d : Declarations) : Prop := m.run.run d = m'.run.run d

theorem Same.refl (m : Translation α) (d : Declarations) : Same m m d := rfl

theorem Same.bind {m m' : Translation α} {f f' : α → Translation β} (hm : Same m m' d)
    (hf : ∀ a d₁, Returns m d a d₁ → Same (f a) (f' a) d₁) : Same (m >>= f) (m' >>= f') d := by
  unfold Same Returns at *
  rw [run_bind, run_bind, ← hm]
  revert hf
  generalize m.run.run d = outcome
  intro hf
  obtain ⟨result, d₁⟩ := outcome
  cases result with
  | ok a => exact hf a d₁ rfl
  | error fault => rfl

theorem Same.deeper {m m' : Translation α} (h : Same m m' { d with depth := d.depth + 1 }) :
    Same (deeper m) (deeper m') d := by
  unfold Same at *
  rw [run_deeper, run_deeper, h]

/-! ## What is left of a path -/

variable (g : Graph) (s : Settings.Translator)

/-- How many entries of the table are not recorded. -/
def unrecorded (d : Declarations) : Nat := g.entries.countP fun entry => (d.lazy? entry.1).isNone

def remaining (d : Declarations) : Nat := (s.maxLazyDepth.toInt?.getD 0 - d.depth).toNat

/-- How deep the translation of a node can still go: through the node, and through one entry of the
table for each reference that can still be followed. -/
def need (d : Declarations) (node : Node) : Nat :=
  (unrecorded g d + remaining s d) * (g.height + 1) + node.height

variable {g s} {node : Node} {n : Nat}

theorem unrecorded_le (d : Declarations) : unrecorded g d ≤ g.entries.length :=
  List.countP_le_length

theorem unrecorded_mono (h : Declarations.Grows d d') : unrecorded g d' ≤ unrecorded g d := by
  refine List.countP_mono_left fun entry _ hn => ?_
  cases hl : d.lazy? entry.1 with
  | none => rfl
  | some expr =>
    have hkept := h.lazies entry.1 (Option.isSome_of_eq_some hl)
    rw [Option.isNone_iff_eq_none.mp hn] at hkept
    cases hkept

theorem need_mono (h : Declarations.Grows d d') (node : Node) :
    need g s d' node ≤ need g s d node := by
  have hr : remaining s d' = remaining s d := by rw [remaining, remaining, h.depth]
  unfold need
  rw [hr]
  gcongr
  exact unrecorded_mono h

theorem need_congr (hl : d'.lazies = d.lazies) (hd : d'.depth = d.depth) (node : Node) :
    need g s d' node = need g s d node := by
  unfold need unrecorded remaining Declarations.lazy?
  rw [hl, hd]

theorem need_lt (h : node.height < n) :
    need g s d node < (unrecorded g d + remaining s d) * (g.height + 1) + n :=
  Nat.add_lt_add_left h _

/-- A path into an entry is shorter by the entry when what is left of the path is one less. -/
theorem need_lt_of_lt {resolved : Node} {ref : Ref} (hres : g.resolve ref = .ok resolved)
    (h : unrecorded g d' + remaining s d' < unrecorded g d + remaining s d) {part : Node}
    (hp : part.height ≤ resolved.height) (hn : 0 < n) :
    need g s d' part < (unrecorded g d + remaining s d) * (g.height + 1) + n :=
  Graph.path_lt_of_lt hres h hp hn

/-- Recording a reference that was not recorded leaves one entry less. -/
theorem unrecorded_recordLazy {ref : Ref} {resolved : Node} (expr : String)
    (hres : g.resolve ref = .ok resolved) (hnew : d.lazy? ref = none) :
    unrecorded g (d.recordLazy ref expr) < unrecorded g d := by
  have hself : (d.recordLazy ref expr).lazy? ref = some expr := by
    rw [Declarations.lazy?_recordLazy, if_pos rfl]
  refine Graph.countP_lt_of_resolve hres (fun other => ((d.recordLazy ref expr).lazy? other).isNone)
    (fun other => (d.lazy? other).isNone) (fun other hn => ?_) (by simp [hself]) (by simp [hnew])
  rw [Declarations.lazy?_recordLazy] at hn
  split at hn
  · cases hn
  · exact hn

/-- Below the limit, one level deeper leaves one level less. -/
theorem remaining_deeper {limit : Int} (hlimit : s.maxLazyDepth.toInt? = some limit)
    (h : reached d.depth s.maxLazyDepth = .ok false) :
    remaining s { d with depth := d.depth + 1 } < remaining s d := by
  have hlt : ¬ limit ≤ d.depth := by
    unfold reached at h
    split at h
    · rename_i x hx
      rw [hx] at hlimit
      cases hlimit
    · simp only [hlimit, Except.ok.injEq, decide_eq_false_iff_not] at h
      exact h
  simp only [remaining, hlimit, Option.getD_some]
  omega

/-! ## One step -/

variable {inside inside' : Node → NameHint → Translation String} {hint : NameHint}

/-- Whether two translations of nodes end alike wherever at most `n` levels are needed. -/
structure AgreeWithin (g : Graph) (s : Settings.Translator) (n : Nat)
    (inside inside' : Node → NameHint → Translation String) : Prop where
  steady : Steady inside
  same : ∀ {node hint d}, Parsed node → need g s d node ≤ n →
    Same (inside node hint) (inside' node hint) d

theorem fields_same (hi : AgreeWithin g s n inside inside') {name : String}
    {members : List (String × Node)} : ∀ {used : List String} {d : Declarations},
      (∀ member ∈ members, Parsed member.2) → (∀ member ∈ members, need g s d member.2 ≤ n) →
      Same (fields s inside name used members) (fields s inside' name used members) d := by
  induction members with
  | nil => intro used d _ _; exact .refl _ _
  | cons member rest ih =>
    obtain ⟨key, node⟩ := member
    intro used d hp h
    obtain ⟨hnode, hrest⟩ := List.forall_mem_cons.mp hp
    obtain ⟨hfirst, hothers⟩ := List.forall_mem_cons.mp h
    unfold fields
    refine Same.bind (.refl _ _) fun peeled d₁ hr => ?_
    obtain ⟨-, rfl⟩ := returns_lift.mp hr
    refine (hi.same hnode hfirst).bind fun type d₁ ht => ?_
    refine Same.bind (.refl _ _) fun _ d₂ hr => ?_
    cases returns_modify.mp hr
    refine ih hrest fun member hm => ?_
    rw [need_congr (d := d₁) (by rfl) (by rfl)]
    exact (need_mono (hi.steady.returns ht) _).trans (hothers member hm)

theorem classType_same (hi : AgreeWithin g s n inside inside') {name : String}
    {members : List (String × Node)} (hp : ∀ member ∈ members, Parsed member.2)
    (h : ∀ member ∈ members, need g s d member.2 ≤ n) :
    Same (classType s inside name members) (classType s inside' name members) d := by
  unfold classType
  exact (fields_same hi hp h).bind fun _ d₁ _ => .refl _ _

theorem options_same (hi : AgreeWithin g s n inside inside') {nodes : List Node} :
    ∀ {index : Nat} {d : Declarations}, (∀ node ∈ nodes, Parsed node) →
      (∀ node ∈ nodes, need g s d node ≤ n) →
      Same (options inside hint index nodes) (options inside' hint index nodes) d := by
  induction nodes with
  | nil => intro index d _ _; exact .refl _ _
  | cons node rest ih =>
    intro index d hp h
    obtain ⟨hnode, hrest⟩ := List.forall_mem_cons.mp hp
    obtain ⟨hfirst, hothers⟩ := List.forall_mem_cons.mp h
    unfold options
    refine (hi.same hnode hfirst).bind fun first d₁ hf => ?_
    refine (ih hrest fun node hm => ?_).bind fun others d₂ _ => .refl _ _
    exact (need_mono (hi.steady.returns hf) _).trans (hothers node hm)

/-- Behind the reference of an object one entry less is unrecorded. -/
theorem lazyObject_same (hi : AgreeWithin g s n inside inside') {ref : Ref}
    (h : (unrecorded g d + remaining s d) * (g.height + 1) + 1 ≤ n + 1)
    (hnew : d.lazy? ref = none) {resolved : Node} {target : Schema.Peeled} {description : Json}
    {members : List (String × Node)} (hparsed : Parsed resolved)
    (hres : g.resolve ref = .ok resolved)
    (hpeel : Schema.peel s.unwrapLimit resolved = .ok target)
    (hobj : target.node = .object description members) {name expr : String} {d₁ : Declarations}
    (hd : Returns (declareClass hint) d name d₁) :
    Same (classType s inside name members) (classType s inside' name members)
      (d₁.recordLazy ref expr) := by
  have hgrows : Declarations.Grows d d₁ := hd.after_eq ▸ grows_declareClass hint d
  have hnew₁ : d₁.lazy? ref = none := by
    rw [Declarations.lazy?, declareClass_lazies hd]
    exact hnew
  have hless := unrecorded_recordLazy (g := g) expr hres hnew₁
  have hmono := unrecorded_mono (g := g) hgrows
  have hdepth : remaining s (d₁.recordLazy ref expr) = remaining s d := by
    have : (d₁.recordLazy ref expr).depth = d.depth := hgrows.depth
    rw [remaining, remaining, this]
  have hstock : unrecorded g (d₁.recordLazy ref expr) + remaining s (d₁.recordLazy ref expr) <
      unrecorded g d + remaining s d := by omega
  refine classType_same hi (hparsed.members hpeel hobj).2 fun member hm => ?_
  have hbase : resolved.base = .object description members := by
    rw [← (Schema.peel_ok hpeel).1, hobj]
  have hheight : member.2.height ≤ resolved.height := by
    have hmember := Node.height_le_fieldsHeight hm
    have hle := hparsed.height_base
    rw [hbase, Node.height] at hle
    omega
  have hneed := need_lt_of_lt hres hstock hheight Nat.one_pos
  omega

/-- Behind any other reference one level less of the depth is left. -/
theorem lazyOther_same {limit : Int} (hi : AgreeWithin g s n inside inside')
    (hlimit : s.maxLazyDepth.toInt? = some limit) {ref : Ref}
    (h : (unrecorded g d + remaining s d) * (g.height + 1) + 1 ≤ n + 1) {resolved : Node}
    (hparsed : Parsed resolved) (hres : g.resolve ref = .ok resolved)
    (hfree : reached d.depth s.maxLazyDepth = .ok false) :
    Same (deeper (inside resolved hint)) (deeper (inside' resolved hint)) d := by
  refine Same.deeper (hi.same hparsed ?_)
  have hless := remaining_deeper hlimit hfree
  have hsame : unrecorded g { d with depth := d.depth + 1 } = unrecorded g d := rfl
  have hstock : unrecorded g { d with depth := d.depth + 1 } +
      remaining s { d with depth := d.depth + 1 } < unrecorded g d + remaining s d := by omega
  have hneed := need_lt_of_lt hres hstock (Nat.le_refl resolved.height) Nat.one_pos
  omega

theorem lazyType_same {limit : Int} (hi : AgreeWithin g s n inside inside') (hg : g.AllParsed)
    (hlimit : s.maxLazyDepth.toInt? = some limit) {ref : Ref}
    (h : (unrecorded g d + remaining s d) * (g.height + 1) + 1 ≤ n + 1) :
    Same (lazyType g s inside ref hint) (lazyType g s inside' ref hint) d := by
  unfold lazyType
  refine Same.bind (.refl _ _) fun _ d₁ hr => ?_
  obtain ⟨rfl, rfl⟩ := returns_get.mp hr
  cases hl : d.lazy? ref with
  | some expr => exact .refl _ _
  | none =>
    refine Same.bind (.refl _ _) fun resolved d₁ hr => ?_
    obtain ⟨hres, rfl⟩ := returns_lift.mp hr
    have hparsed : Parsed resolved := hg.resolve_ok hres
    refine Same.bind (.refl _ _) fun target d₁ hr => ?_
    obtain ⟨hpeel, rfl⟩ := returns_lift.mp hr
    split
    · rename_i description members hobj
      refine Same.bind (.refl _ _) fun name d₁ hd => ?_
      refine Same.bind (.refl _ _) fun _ d₂ hr => ?_
      cases returns_modify.mp hr
      exact (lazyObject_same hi h hl hparsed hres hpeel hobj hd).bind fun _ d₂ _ => .refl _ _
    · refine Same.bind (.refl _ _) fun _ d₁ hr => ?_
      obtain ⟨rfl, rfl⟩ := returns_get.mp hr
      refine Same.bind (.refl _ _) fun full d₁ hr => ?_
      obtain ⟨hfull, rfl⟩ := returns_lift.mp hr
      cases full with
      | true => exact .refl _ _
      | false =>
        exact (lazyOther_same hi hlimit h hparsed hres hfull).bind fun expr d₁ _ => .refl _ _

theorem core_same {limit : Int} (hi : AgreeWithin g s n inside inside') (hg : g.AllParsed)
    (hlimit : s.maxLazyDepth.toInt? = some limit) (hp : Parsed node)
    (h : need g s d node ≤ n + 1) :
    Same (core g s inside node hint) (core g s inside' node hint) d := by
  -- a part needs less than the node
  have hpart {part : Node} (hlt : part.height < node.height) : need g s d part ≤ n :=
    Nat.le_of_lt_succ ((need_lt hlt).trans_le h)
  cases hp with
  | primitive | literal | enumeration | wrapper => exact .refl _ _
  | lazy => exact lazyType_same hi hg hlimit h
  | object hm =>
    refine Same.bind (.refl _ _) fun name d₁ hd => ?_
    have hgrows : Declarations.Grows d d₁ := hd.after_eq ▸ grows_declareClass hint d
    refine classType_same hi hm fun member hmem => (need_mono hgrows _).trans (hpart ?_)
    exact Nat.lt_succ_of_le (Node.height_le_fieldsHeight hmem)
  | anyArray => exact .refl _ _
  | array he =>
    simp only [core]
    refine Same.bind (.refl _ _) fun element d₁ hr => ?_
    obtain ⟨hel, rfl⟩ := returns_lift.mp hr
    cases he.element.symm.trans hel
    simp only [he.not_absent, Bool.false_eq_true, if_false]
    refine (hi.same he (hpart ?_)).bind fun inner d₁ _ => .refl _ _
    exact Nat.lt_succ_of_le (Node.height_le_listHeight (List.mem_singleton_self _))
  | @record description key value hk hv =>
    simp only [core, hk.not_absent, hv.not_absent, Bool.false_eq_true, if_false]
    refine (hi.same hk (hpart (Nat.lt_succ_of_le (Nat.le_max_left _ _)))).bind fun key d₁ hr => ?_
    have hvalue := hpart (Nat.lt_succ_of_le (Nat.le_max_right _ _))
    have hthen := (need_mono (hi.steady.returns hr) value).trans hvalue
    exact (hi.same hv hthen).bind fun _ d₂ _ => .refl _ _
  | @anyRecord description value hv =>
    have habsent : Node.absent.isAbsent = true := rfl
    simp only [core, habsent, hv.not_absent, Bool.false_eq_true, if_false, if_true]
    have hkey : (Node.primitive .null (.str "string")).height <
        (Node.record description .absent value).height := by
      have hpos := value.height_pos
      simp only [Node.height]
      omega
    refine (hi.same .primitive (hpart hkey)).bind fun key d₁ hr => ?_
    have hvalue := hpart (Nat.lt_succ_of_le (Nat.le_max_right _ _))
    have hthen := (need_mono (hi.steady.returns hr) value).trans hvalue
    exact (hi.same hv hthen).bind fun _ d₂ _ => .refl _ _
  | union hm =>
    simp only [core]
    split
    · exact .refl _ _
    · refine (options_same hi hm fun option hmem => hpart ?_).bind fun parts d₁ _ => .refl _ _
      exact Nat.lt_succ_of_le (Node.height_le_listHeight hmem)

theorem step_agreeWithin {limit : Int} (hi : AgreeWithin g s n inside inside') (hg : g.AllParsed)
    (hlimit : s.maxLazyDepth.toInt? = some limit) :
    AgreeWithin g s (n + 1) (step g s inside) (step g s inside') := by
  refine ⟨step_steady hi.steady, fun {node hint d} hp h => ?_⟩
  unfold step
  refine Same.bind (.refl _ _) fun peeled d₁ hr => ?_
  obtain ⟨hpeel, rfl⟩ := returns_lift.mp hr
  rw [(Schema.peel_ok hpeel).1]
  have hle : need g s d node.base ≤ need g s d node := Nat.add_le_add_left hp.height_base _
  exact (core_same hi hg hlimit hp.base (hle.trans h)).bind fun type d₁ _ => .refl _ _

/-- Where no more than a nesting is needed, nothing is asked from below it. The floor that fails is
steady, so any other is compared with it. -/
theorem iterate_agreeWithin {limit : Int} (hg : g.AllParsed)
    (hlimit : s.maxLazyDepth.toInt? = some limit)
    (below : Node → NameHint → Translation String) (n : Nat) :
    AgreeWithin g s n (within g s n) ((step g s)^[n] below) := by
  induction n with
  | zero =>
    refine ⟨within_steady g s 0, fun {node hint d} _ h => ?_⟩
    have hpos := node.height_pos
    unfold need at h
    omega
  | succ n ih =>
    rw [Function.iterate_succ_apply']
    exact step_agreeWithin ih hg hlimit

theorem endsWithin {limit : Int} (hg : g.AllParsed) (hlimit : s.maxLazyDepth.toInt? = some limit)
    (hp : Parsed node) (hint : NameHint) (h : need g s d node ≤ n) :
    EndsWithin g s n node hint d :=
  ⟨(within g s n node hint).run.run d,
    fun below => ((iterate_agreeWithin hg hlimit below n).same hp h).symm⟩

/-- The nesting of `translate` is enough from any declarations on. -/
theorem need_le_reach {limit : Int} (hlimit : s.maxLazyDepth.toInt? = some limit)
    (d : Declarations) (node : Node) : need g s d node ≤ g.reach (maxSteps g s d.depth) node := by
  have hstock : unrecorded g d + remaining s d ≤ maxSteps g s d.depth := by
    have hdeferred : unrecorded g d + remaining s d ≤ maxDeferred g s d.depth := by
      have hu := unrecorded_le (g := g) d
      have hr : remaining s d = (limit - d.depth).toNat := by
        rw [remaining, hlimit, Option.getD_some]
      unfold maxDeferred
      split
      · rename_i x hx
        rw [hx] at hlimit
        cases hlimit
      · rw [hlimit, Option.getD_some]
        omega
    calc unrecorded g d + remaining s d
        ≤ maxDeferred g s d.depth + 1 := hdeferred.trans (Nat.le_succ _)
      _ ≤ maxSteps g s d.depth := Nat.le_mul_of_pos_right _ (Nat.succ_pos _)
  unfold need Graph.reach
  calc (unrecorded g d + remaining s d) * (g.height + 1) + node.height
      ≤ maxSteps g s d.depth * (max g.height node.height + 1) + (max g.height node.height + 1) := by
        gcongr
        · exact Nat.le_max_left _ _
        · omega
    _ = (maxSteps g s d.depth + 1) * (max g.height node.height + 1) := (Nat.succ_mul _ _).symm

/-! ## The search for a free field name -/

/-- The numbered forms of a field name are distinct and there are more of them than used names, so
one of them is free. -/
theorem freeField_fresh (used : List String) (base : String) : freeField used base ∉ used := by
  unfold freeField
  split
  · dsimp only
    generalize htries : (List.range (used.length + 1)).map
      (fun n => base ++ "_" ++ toString (n + 1)) = tries
    cases hf : tries.find? fun name => !used.contains name with
    | some name =>
      have hfree := List.find?_some hf
      rw [Option.getD_some]
      simpa using hfree
    | none =>
      have hsub : tries ⊆ used := by
        intro name hm
        have hused := List.find?_eq_none.mp hf name hm
        simpa using hused
      have hnodup : tries.Nodup := by
        rw [← htries]
        refine List.Nodup.map ?_ List.nodup_range
        intro i j hij
        have hnumeral := (String.append_right_inj _).mp hij
        exact Nat.succ.inj (Declarations.toString_injective hnumeral)
      have hle := (List.Nodup.subperm hnodup hsub).length_le
      rw [← htries, List.length_map, List.length_range] at hle
      omega
  · rename_i hb
    simpa using hb

end StructuredOutput.Baml.Translation

namespace StructuredOutput.Baml

open Schema (Graph Node)

/-- Every translation ends, returning or failing. Whatever references a document has among its
definitions, for whole numbers as limits, any hint and any declarations to start with, some nesting
of calls decides the outcome: it is the same for every translation of what would lie deeper, so
nothing deeper is ever asked for. `translate` has that outcome, and so has every greater nesting.
The searches for a free name inside a translation end too: they give a name that is free. -/
theorem translate_terminates {number : Nat} {schema : Json} {root : Node} {g : Graph}
    (hread : Schema.Document.read number schema = .ok (root, g)) {s : Settings.Translator}
    {limit : Int} (hlimit : s.maxLazyDepth.toInt? = some limit) (hint : NameHint)
    (d : Declarations) :
    (∃ enough, ∀ nesting, enough ≤ nesting → Translation.EndsWithin g s nesting root hint d ∧
      (Translation.within g s nesting root hint).run.run d = (translate g s root hint).run.run d) ∧
    (∀ d' text, (Declarations.uniqueName d' text).1 ∉ d'.names) ∧
    (∀ used base, Translation.freeField used base ∉ used) := by
  obtain ⟨hroot, hg⟩ := Schema.Document.read_parsed hread
  refine ⟨⟨g.reach (Translation.maxSteps g s d.depth) root, fun nesting hle => ?_⟩,
    Declarations.uniqueName_fresh, Translation.freeField_fresh⟩
  have hneed := Translation.need_le_reach (g := g) hlimit d root
  have hends := Translation.endsWithin hg hlimit hroot hint hneed
  exact hends.mono hle

def nestSchema : Json :=
  .obj [("$ref", .str "#/$defs/L"), ("$defs", .obj [
    ("L", .obj [("type", .str "array"), ("items", .obj [("$ref", .str "#/$defs/L")])])])]

def nestSettings : Settings.Translator := { maxLazyDepth := .int 2 }

theorem translate_terminates_nest : ∃ root g, Schema.Document.read 0 nestSchema = .ok (root, g) ∧
    ∃ enough, ∀ nesting, enough ≤ nesting →
      Translation.EndsWithin g nestSettings nesting root .none {} ∧
      (Translation.within g nestSettings nesting root .none).run.run {} =
        (.error (.translation (.tooDeep (.int 2))), {}) := by
  let root : Node := .lazy .null (.str "L") ⟨0, "#/$defs/L"⟩
  let g : Graph := ⟨Schema.Document.refStarts.map fun start =>
    (⟨0, start ++ "L"⟩, .ok (.array .null [root] .null .null))⟩
  have hread : Schema.Document.read 0 nestSchema = .ok (root, g) := by cbv
  have hlimit : nestSettings.maxLazyDepth.toInt? = some 2 := rfl
  obtain ⟨⟨enough, hends⟩, -⟩ := translate_terminates hread hlimit .none {}
  have houtcome : (translate g nestSettings root .none).run.run {} =
      (.error (.translation (.tooDeep (.int 2))), {}) := rfl
  refine ⟨root, g, hread, enough, fun nesting hle => ⟨(hends nesting hle).1, ?_⟩⟩
  rw [(hends nesting hle).2, houtcome]

end StructuredOutput.Baml
