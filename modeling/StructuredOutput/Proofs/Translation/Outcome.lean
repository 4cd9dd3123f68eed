import StructuredOutput.Baml.Translation

/-! # How a translation ends

A translation that starts with declarations `d` ends with declarations `d'`, either returning a
result or failing with a fault. Both relations are read off the computation step by step; every
later proof about the translator starts from the equations of this file and never opens the
monad. -/
namespace StructuredOutput.Baml.Translation

open Schema (Graph Node Ref)

/-- Started with `d`, the translation returns `a` and leaves `d'`. -/
def Returns {α : Type} (m : Translation α) (d : Declarations) (a : α) (d' : Declarations) : Prop :=
  m.run.run d = (.ok a, d')

/-- Started with `d`, the translation fails with `fault` and leaves `d'`. -/
def Fails {α : Type} (m : Translation α) (d : Declarations) (fault : Fault) (d' : Declarations) :
    Prop :=
  m.run.run d = (.error fault, d')

variable {α β : Type} {d d' : Declarations}

/-! ## Single steps -/

@[simp] theorem returns_pure {a b : α} :
    Returns (pure a : Translation α) d b d' ↔ a = b ∧ d = d' := by
  constructor
  · intro h; cases h; exact ⟨rfl, rfl⟩
  · rintro ⟨rfl, rfl⟩; rfl

@[simp] theorem fails_pure {a : α} {fault : Fault} :
    ¬ Fails (pure a : Translation α) d fault d' := by
  intro h; cases h

@[simp] theorem returns_throw {a : α} {fault : Fault} :
    ¬ Returns (throw fault : Translation α) d a d' := by
  intro h; cases h

@[simp] theorem fails_throw {fault fault' : Fault} :
    Fails (throw fault : Translation α) d fault' d' ↔ fault = fault' ∧ d = d' := by
  constructor
  · intro h; cases h; exact ⟨rfl, rfl⟩
  · rintro ⟨rfl, rfl⟩; rfl

@[simp] theorem returns_lift {r : Except Fault α} {a : α} :
    Returns (lift r) d a d' ↔ r = .ok a ∧ d = d' := by
  constructor
  · intro h; cases h; exact ⟨rfl, rfl⟩
  · rintro ⟨rfl, rfl⟩; rfl

@[simp] theorem fails_lift {r : Except Fault α} {fault : Fault} :
    Fails (lift r) d fault d' ↔ r = .error fault ∧ d = d' := by
  constructor
  · intro h; cases h; exact ⟨rfl, rfl⟩
  · rintro ⟨rfl, rfl⟩; rfl

@[simp] theorem returns_get {a : Declarations} :
    Returns (get : Translation Declarations) d a d' ↔ d = a ∧ d = d' := by
  constructor
  · intro h; cases h; exact ⟨rfl, rfl⟩
  · rintro ⟨rfl, rfl⟩; rfl

@[simp] theorem fails_get {fault : Fault} :
    ¬ Fails (get : Translation Declarations) d fault d' := by
  intro h; cases h

@[simp] theorem returns_modify {f : Declarations → Declarations} {u : Unit} :
    Returns (modify f : Translation Unit) d u d' ↔ f d = d' := by
  constructor
  · intro h; cases h; rfl
  · rintro rfl; rfl

@[simp] theorem fails_modify {f : Declarations → Declarations} {fault : Fault} :
    ¬ Fails (modify f : Translation Unit) d fault d' := by
  intro h; cases h

@[simp] theorem returns_modifyGet {f : Declarations → α × Declarations} {a : α} :
    Returns (modifyGet f : Translation α) d a d' ↔ f d = (a, d') := by
  constructor
  · intro h; cases h; rfl
  · intro h
    change (Except.ok (f d).1, (f d).2) = _
    rw [h]

@[simp] theorem fails_modifyGet {f : Declarations → α × Declarations} {fault : Fault} :
    ¬ Fails (modifyGet f : Translation α) d fault d' := by
  intro h; cases h

/-! ## Composition -/

theorem run_bind (m : Translation α) (f : α → Translation β) (d : Declarations) :
    (m >>= f).run.run d = match m.run.run d with
      | (.ok a, d₁) => (f a).run.run d₁
      | (.error fault, d₁) => (.error fault, d₁) := by
  rw [ExceptT.run_bind]
  rw [StateT.run_bind]
  generalize StateT.run (ExceptT.run m) d = outcome
  obtain ⟨result, d₁⟩ := outcome
  cases result <;> rfl

@[simp] theorem returns_bind {m : Translation α} {f : α → Translation β} {b : β} :
    Returns (m >>= f) d b d' ↔ ∃ a d₁, Returns m d a d₁ ∧ Returns (f a) d₁ b d' := by
  unfold Returns
  rw [run_bind]
  generalize m.run.run d = outcome
  obtain ⟨result, d₁⟩ := outcome
  constructor
  · intro h
    cases result with
    | ok a => exact ⟨a, d₁, rfl, h⟩
    | error fault => cases h
  · rintro ⟨a, d₂, he, h⟩
    cases he
    exact h

@[simp] theorem fails_bind {m : Translation α} {f : α → Translation β} {fault : Fault} :
    Fails (m >>= f) d fault d' ↔
      Fails m d fault d' ∨ ∃ a d₁, Returns m d a d₁ ∧ Fails (f a) d₁ fault d' := by
  unfold Fails Returns
  rw [run_bind]
  generalize m.run.run d = outcome
  obtain ⟨result, d₁⟩ := outcome
  constructor
  · intro h
    cases result with
    | ok a => exact .inr ⟨a, d₁, rfl, h⟩
    | error fault' => cases h; exact .inl rfl
  · rintro (he | ⟨a, d₂, he, h⟩)
    · cases he; rfl
    · cases he; exact h

theorem run_deeper (m : Translation α) (d : Declarations) :
    (deeper m).run.run d =
      ((m.run.run { d with depth := d.depth + 1 }).1,
        { (m.run.run { d with depth := d.depth + 1 }).2 with
          depth := (m.run.run { d with depth := d.depth + 1 }).2.depth - 1 }) := rfl

@[simp] theorem returns_deeper {m : Translation α} {a : α} :
    Returns (deeper m) d a d' ↔ ∃ d₁, Returns m { d with depth := d.depth + 1 } a d₁ ∧
      d' = { d₁ with depth := d₁.depth - 1 } := by
  unfold Returns
  rw [run_deeper]
  generalize m.run.run { d with depth := d.depth + 1 } = outcome
  obtain ⟨result, d₁⟩ := outcome
  constructor
  · intro h; cases h; exact ⟨d₁, rfl, rfl⟩
  · rintro ⟨d₂, he, rfl⟩; cases he; rfl

@[simp] theorem fails_deeper {m : Translation α} {fault : Fault} :
    Fails (deeper m) d fault d' ↔ ∃ d₁, Fails m { d with depth := d.depth + 1 } fault d₁ ∧
      d' = { d₁ with depth := d₁.depth - 1 } := by
  unfold Fails
  rw [run_deeper]
  generalize m.run.run { d with depth := d.depth + 1 } = outcome
  obtain ⟨result, d₁⟩ := outcome
  constructor
  · intro h; cases h; exact ⟨d₁, rfl, rfl⟩
  · rintro ⟨d₂, he, rfl⟩; cases he; rfl

/-- A translation goes down to a nesting that depends on the depth it starts at. -/
theorem run_translate (g : Graph) (s : Settings.Translator) (node : Node) (hint : NameHint)
    (d : Declarations) : (translate g s node hint).run.run d =
      (within g s (g.reach (maxSteps g s d.depth) node) node hint).run.run d := rfl

theorem returns_translate {g : Graph} {s : Settings.Translator} {node : Node} {hint : NameHint}
    {type : String} : Returns (translate g s node hint) d type d' ↔
      Returns (within g s (g.reach (maxSteps g s d.depth) node) node hint) d type d' := Iff.rfl

end StructuredOutput.Baml.Translation
