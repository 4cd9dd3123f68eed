import StructuredOutput.Proofs.Schema.WrapperStacks
import StructuredOutput.Proofs.Translation.DeeperNesting

/-! # Translating a stack of wrappers

A translation peels a node first and looks at what is under the wrappers then. So within the limit a
stack is translated as its base is, and all that its wrappers can change is one null at the end, however
many of them ask for it and wherever they stand. -/
namespace StructuredOutput.Baml

open Schema (Graph Node Stack Unwraps)

namespace Translation

variable {α β : Type} {g : Graph} {s : Settings.Translator} {limit : Nat} {node base : Node}
  {wrappers : List Node} {hint : NameHint} {d : Declarations}

theorem lift_ok_bind (a : α) (next : α → Translation β) : lift (.ok a) >>= next = next a := rfl

theorem run_map (f : α → β) (m : Translation α) (d : Declarations) :
    (f <$> m).run.run d = ((m.run.run d).1.map f, (m.run.run d).2) := by
  rw [map_eq_pure_bind, run_bind]
  generalize m.run.run d = outcome
  obtain ⟨result, d₁⟩ := outcome
  cases result <;> rfl

def underWrappers (wrappers : List Node) (expr : String) : String :=
  if wrappers.any Node.isNullable then orNull expr else expr

section

variable (hlimit : s.unwrapLimit.toInt? = some (limit : Int)) (h : Stack node wrappers base)
include hlimit h

/-- Within the limit, one step does with a stack what it does with the base. -/
theorem step_stack (hle : wrappers.length ≤ limit)
    (inside : Node → NameHint → Translation String) (hint : NameHint) :
    step g s inside node hint = underWrappers wrappers <$> step g s inside base hint := by
  have hbottom := (Schema.peel_stack hlimit h.bottom).trans (if_pos (Nat.zero_le _))
  unfold step
  rw [Schema.peel_stack hlimit h, if_pos hle, hbottom, lift_ok_bind, lift_ok_bind, map_bind]
  rfl

/-- So a stack is translated as its base is, down to any nesting. -/
theorem within_stack (hle : wrappers.length ≤ limit) (nesting : Nat) (hint : NameHint) :
    within g s nesting node hint = underWrappers wrappers <$> within g s nesting base hint := by
  cases nesting with
  | zero => rfl
  | succ nesting => exact step_stack hlimit h hle (within g s nesting) hint

/-- A stack gets a deeper nesting than its base, which changes nothing for a base that is decided. -/
theorem translate_stack (hle : wrappers.length ≤ limit) (hint : NameHint) (d : Declarations)
    (hdecided : Decided g s base hint d) :
    (translate g s node hint).run.run d =
      (((translate g s base hint).run.run d).1.map (underWrappers wrappers),
        ((translate g s base hint).run.run d).2) := by
  have hnesting : g.reach (maxSteps g s d.depth) base ≤ g.reach (maxSteps g s d.depth) node := by
    have hheight := h.height_base
    unfold Graph.reach
    gcongr
  rw [run_translate, within_stack hlimit h hle, run_map, hdecided _ hnesting]

end

/-- What the translation of a stack has to come to. -/
structure StackTranslates (g : Graph) (s : Settings.Translator) (limit : Nat) (node : Node)
    (wrappers : List Node) (base : Node) : Prop where
  nested : wrappers.length ≤ limit → ∀ nesting hint,
    within g s nesting node hint = underWrappers wrappers <$> within g s nesting base hint
  decided : ∀ hint d, ((translate g s base hint).run.run d).1 ≠ .error .endless ∨
    (g.AllParsed ∧ Schema.Parsed base ∧ ∃ depth, s.maxLazyDepth.toInt? = some depth) →
    Decided g s base hint d
  translated : wrappers.length ≤ limit → ∀ hint d, Decided g s base hint d →
    (translate g s node hint).run.run d =
      (((translate g s base hint).run.run d).1.map (underWrappers wrappers),
        ((translate g s base hint).run.run d).2)
  refused : limit < wrappers.length → ∀ hint d, (translate g s node hint).run.run d =
    (.error (.translation (.tooManyWrappers s.unwrapLimit)), d)
  alike : ∀ {other : Node} {others : List Node}, Stack other others base →
    wrappers.length ≤ limit → others.length ≤ limit →
    ((∃ wrapper ∈ wrappers, wrapper.isNullable = true) ↔
      ∃ wrapper ∈ others, wrapper.isNullable = true) →
    (∀ nesting hint, within g s nesting node hint = within g s nesting other hint) ∧
      ∀ hint d, Decided g s base hint d →
        (translate g s node hint).run.run d = (translate g s other hint).run.run d

theorem stackTranslates (hlimit : s.unwrapLimit.toInt? = some (limit : Int))
    (h : Stack node wrappers base) : StackTranslates g s limit node wrappers base := by
  refine ⟨within_stack hlimit h, fun hint d hcases => ?_, translate_stack hlimit h,
    fun hmore hint d => ?_, ?_⟩
  · rcases hcases with hends | ⟨hg, hparsed, depth, hdepth⟩
    · exact decided_of_ends hends
    · exact decided_of_parsed hg hparsed hdepth
  · have hpeel := (Schema.peel_stack hlimit h).trans (if_neg (Nat.not_le_of_lt hmore))
    obtain ⟨nesting, hnesting⟩ : ∃ n, g.reach (maxSteps g s d.depth) node = n + 1 :=
      Nat.exists_eq_succ_of_ne_zero (Nat.mul_ne_zero (Nat.succ_ne_zero _) (Nat.succ_ne_zero _))
    rw [run_translate, hnesting, Translation.within, step, hpeel]
    rfl
  · intro other others hother hle hle' hnull
    have hsame : underWrappers wrappers = underWrappers others := by
      funext expr
      rw [← List.any_eq_true, ← List.any_eq_true, ← Bool.eq_iff_iff] at hnull
      rw [underWrappers, underWrappers, hnull]
    refine ⟨fun nesting hint => ?_, fun hint d hdecided => ?_⟩
    · rw [within_stack hlimit h hle, within_stack hlimit hother hle', hsame]
    · rw [translate_stack hlimit h hle hint d hdecided,
        translate_stack hlimit hother hle' hint d hdecided, hsame]

end Translation

/-- Unwrapping a stack, of any wrappers around any node that is none, with any limit. Within the limit
the base comes out, with a flag for an optional and for a nullable wrapper and with the outermost
description; beyond it there is a refusal. So a translation within the limit is that of the base, with
one null behind it if any of the wrappers is nullable, and two stacks around one base that agree on that
are translated alike, with the same declarations, in whatever order and however often their wrappers
stand. At each nesting this holds as it is. `translate` gives the higher stack a deeper nesting than the
base, so there the nesting of the base has to decide its translation, as it does for all that is read
from a document and wherever the translation is not cut off. -/
theorem stacked_wrappers {node base : Node} {wrappers : List Node} (h : Stack node wrappers base)
    {s : Settings.Translator} {limit : Nat} (hlimit : s.unwrapLimit.toInt? = some (limit : Int)) :
    Unwraps s.unwrapLimit limit node wrappers base ∧
      ∀ g, Translation.StackTranslates g s limit node wrappers base :=
  ⟨Schema.unwraps hlimit h, fun _ => Translation.stackTranslates hlimit h⟩

/-- A text under two nullable wrappers, a pipeline without an output between them, and a wrapper that
is optional. -/
def wrappedText : Node :=
  .wrapper .null .nullable (.wrapper (.str "") .optional (.pipeline (.str "a note") .absent
    (.wrapper (.str "a text") .nullable (.primitive .null (.str "string")))))

theorem stacked_wrappers_text :
    ∃ wrappers, wrappers.length = 4 ∧ Stack wrappedText wrappers (.primitive .null (.str "string")) ∧
      (∃ p, Schema.peel (.int 4) wrappedText = .ok p ∧ p.description = .str "a note") ∧
      (translate .empty { unwrapLimit := .int 4 } wrappedText .none).run.run {} =
        (.ok "string | null", {}) ∧
      (translate .empty { unwrapLimit := .int 3 } wrappedText .none).run.run {} =
        (.error (.translation (.tooManyWrappers (.int 3))), {}) := by
  have hstack : Stack wrappedText _ (.primitive .null (.str "string")) :=
    .wrapped rfl (.wrapped rfl (.wrapped rfl (.wrapped rfl (.base rfl rfl))))
  have hfour : ({ unwrapLimit := .int 4 } : Settings.Translator).unwrapLimit.toInt? =
      some ((4 : Nat) : Int) := rfl
  have hthree : ({ unwrapLimit := .int 3 } : Settings.Translator).unwrapLimit.toInt? =
      some ((3 : Nat) : Int) := rfl
  obtain ⟨hunwraps, htranslates⟩ := stacked_wrappers hstack hfour
  obtain ⟨p, hp, -⟩ := hunwraps.returns.mpr (Nat.le_refl 4)
  have hbase : (translate .empty { unwrapLimit := .int 4 } (.primitive .null (.str "string"))
      .none).run.run {} = (.ok "string", {}) := rfl
  have hdecided := (htranslates .empty).decided .none {} (.inl (by rw [hbase]; nofun))
  have htranslated := (htranslates .empty).translated (Nat.le_refl 4) .none {} hdecided
  have hrefused := ((stacked_wrappers hstack hthree).2 .empty).refused (by decide) .none {}
  rw [hbase] at htranslated
  exact ⟨_, rfl, hstack, ⟨p, hp, hunwraps.description p hp⟩, htranslated, hrefused⟩

end StructuredOutput.Baml
