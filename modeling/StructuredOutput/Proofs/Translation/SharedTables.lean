import StructuredOutput.Proofs.Schema.SharedTables
import StructuredOutput.Proofs.Translation.Termination

/-! # Translating with shared tables

A translation asks the table for nothing but references that occur in what it translates. So with two
tables that share the references of a node it goes the same way, and it ends in both before their sizes
could make a difference. -/
namespace StructuredOutput.Baml

open Schema (Confined Graph Node Ref)

namespace Translation

variable {α β : Type} {known : Ref → Prop} {g g' : Graph} {s : Settings.Translator}
  {inside inside' : Node → NameHint → Translation String} {hint : NameHint}

theorem bind_congr {m : Translation α} {f f' : α → Translation β} (h : ∀ a, f a = f' a) :
    m >>= f = m >>= f' :=
  congrArg (m >>= ·) (funext h)

/-- What follows a result only has to agree on the result. -/
theorem lift_bind_congr {r : Except Fault α} {f f' : α → Translation β}
    (h : ∀ a, r = .ok a → f a = f' a) : lift r >>= f = lift r >>= f' := by
  cases r with
  | error fault => rfl
  | ok a =>
    have hpure : ∀ next : α → Translation β, lift (.ok a) >>= next = next a := fun _ => rfl
    rw [hpure, hpure, h a rfl]

theorem fields_shared {name : String} {members : List (String × Node)}
    (h : ∀ member ∈ members, ∀ hint, inside member.2 hint = inside' member.2 hint)
    (used : List String) : fields s inside name used members = fields s inside' name used members := by
  induction members generalizing used with
  | nil => rfl
  | cons member rest ih =>
    obtain ⟨hfirst, hrest⟩ := List.forall_mem_cons.mp h
    unfold fields
    simp only [hfirst, ih hrest]

theorem classType_shared {name : String} {members : List (String × Node)}
    (h : ∀ member ∈ members, ∀ hint, inside member.2 hint = inside' member.2 hint) :
    classType s inside name members = classType s inside' name members := by
  unfold classType
  rw [fields_shared h]

theorem options_shared {nodes : List Node}
    (h : ∀ node ∈ nodes, ∀ hint, inside node hint = inside' node hint) (index : Nat) :
    options inside hint index nodes = options inside' hint index nodes := by
  induction nodes generalizing index with
  | nil => rfl
  | cons node rest ih =>
    obtain ⟨hfirst, hrest⟩ := List.forall_mem_cons.mp h
    unfold options
    simp only [hfirst, ih hrest]

section

variable (hg : g.Shares g' known)
  (hi : ∀ node hint, Confined known node → inside node hint = inside' node hint)
include hg hi

theorem lazyType_shared {ref : Ref} (h : known ref) :
    lazyType g s inside ref hint = lazyType g' s inside' ref hint := by
  unfold lazyType
  refine bind_congr fun d => ?_
  cases d.lazy? ref with
  | some expr => rfl
  | none =>
    simp only [← hg.same h]
    refine lift_bind_congr fun resolved hres => lift_bind_congr fun target hpeel => ?_
    have hconfined := hg.confined h hres
    split
    · rename_i description members hobj
      have hobject : Confined known (.object description members) := by
        have hbase := hconfined.base
        rwa [← (Schema.peel_ok hpeel).1, hobj] at hbase
      have hclass : ∀ name, classType s inside name members = classType s inside' name members :=
        fun name => classType_shared fun member hm hint => hi member.2 hint (hobject.member hm)
      simp only [hclass]
    · simp only [hi resolved hint hconfined]

theorem core_shared {node : Node} (h : Confined known node) :
    core g s inside node hint = core g' s inside' node hint := by
  cases node with
  | object description members =>
    refine bind_congr fun name => classType_shared fun member hm hint => ?_
    exact hi member.2 hint (h.member hm)
  | array description candidates low high =>
    simp only [core, h.parsed.element_eq g g']
    refine lift_bind_congr fun element he => ?_
    rcases h.element he with habsent | ⟨-, hc⟩
    · simp only [habsent, if_true]
    · simp only [hi element (hint.extend "Item") hc]
  | record description key value =>
    obtain ⟨hkey, hvalue⟩ := h.entry
    have hk : ∀ hint, inside (if key.isAbsent then .primitive .null (.str "string") else key) hint =
        inside' (if key.isAbsent then .primitive .null (.str "string") else key) hint := fun hint => by
      refine hi _ hint ?_
      split
      · exact ⟨.primitive, fun _ hr => by cases hr⟩
      · rename_i hpresent
        exact hkey.resolve_left hpresent
    simp only [core, hk, hi value (hint.extend "Val") hvalue]
  | union description nodes =>
    have hoptions : options inside hint 0 nodes = options inside' hint 0 nodes :=
      options_shared (fun node hm hint => hi node hint (h.option hm)) 0
    simp only [core, hoptions]
  | lazy description name ref => exact lazyType_shared hg hi h.reference
  | bare description inner => cases h.parsed
  | foreign | thunk | primitive | literal | enumeration | memberEnum | wrapper | pipeline => rfl

theorem step_shared {node : Node} (h : Confined known node) :
    step g s inside node hint = step g' s inside' node hint := by
  unfold step
  refine lift_bind_congr fun peeled hpeel => ?_
  rw [(Schema.peel_ok hpeel).1, core_shared hg hi h.base]

end

/-- Down to one nesting, what is confined to shared references is translated alike. -/
theorem within_shared (hg : g.Shares g' known) (n : Nat) {node : Node} (h : Confined known node)
    (hint : NameHint) : within g s n node hint = within g' s n node hint := by
  induction n generalizing node hint with
  | zero => rfl
  | succ n ih => exact step_shared hg (fun node hint h => ih h hint) h

end Translation

/-- The outcome of a translation depends on the shared part of a table alone. -/
theorem translate_shared {known : Ref → Prop} {g g' : Graph} (hshares : g.Shares g' known)
    (hg : g.AllParsed) (hg' : g'.AllParsed) {s : Settings.Translator} {limit : Int}
    (hlimit : s.maxLazyDepth.toInt? = some limit) {node : Node} (h : Confined known node)
    (hint : NameHint) (d : Declarations) :
    (translate g s node hint).run.run d = (translate g' s node hint).run.run d := by
  have hends := Translation.endsWithin hg hlimit h.parsed hint
    (Translation.need_le_reach (g := g) hlimit d node)
  have hends' := Translation.endsWithin hg' hlimit h.parsed hint
    (Translation.need_le_reach (g := g') hlimit d node)
  calc (translate g s node hint).run.run d
      = (Translation.within g s (max (g.reach (Translation.maxSteps g s d.depth) node)
          (g'.reach (Translation.maxSteps g' s d.depth) node)) node hint).run.run d :=
        ((hends.mono (Nat.le_max_left _ _)).2).symm
    _ = (Translation.within g' s (max (g.reach (Translation.maxSteps g s d.depth) node)
          (g'.reach (Translation.maxSteps g' s d.depth) node)) node hint).run.run d := by
        rw [Translation.within_shared hshares _ h]
    _ = (translate g' s node hint).run.run d := (hends'.mono (Nat.le_max_right _ _)).2

end StructuredOutput.Baml
