import StructuredOutput.Proofs.TypeText.Tokens

/-! # Texts that can be told apart from the front

A text is framed when it shows where it ends, given what can stand behind it: if two texts with
something behind each are equal, so is what the texts show, and so is what stands behind them. A
format is framed piece by piece, each piece in front of the next. -/
namespace StructuredOutput.Text

variable {α β β' γ : Type}

/-- Whether the texts of valid values, followed by what may stand behind them, determine what the
values show and what stands behind. -/
def Framed (valid : α → Prop) (text : α → List Char) (view : α → β) (behind : List Char → Prop) :
    Prop :=
  ∀ ⦃a b r r'⦄, valid a → valid b → behind r → behind r' → text a ++ r = text b ++ r' →
    view a = view b ∧ r = r'

variable {valid : α → Prop} {text : α → List Char} {view : α → β} {behind : List Char → Prop}

def Starts (c : Char) (r : List Char) : Prop := r.head? = some c

theorem starts_cons (c : Char) (r : List Char) : Starts c (c :: r) := rfl

theorem Starts.ends {c : Char} {r : List Char} (h : Starts c r) {p : Char → Bool}
    (hc : p c = false) : ∀ b ∈ r.head?, p b = false := by
  intro b hb
  cases Eq.trans h.symm hb
  exact hc

theorem Starts.unique {b c : Char} {r : List Char} (h : Starts b r) (h' : Starts c r) : b = c :=
  Option.some.inj (h.symm.trans h')

/-! ## Pieces -/

/-- A run of characters of a class, in front of a character of another. -/
theorem framed_span (p : Char → Bool) :
    Framed (fun word : List Char => ∀ c ∈ word, p c = true) id id
      (fun r => ∀ c ∈ r.head?, p c = false) := by
  intro a b r r' ha hb hr hr' h
  obtain ⟨hta, hda⟩ := Baml.Token.takeWhile_append a hr
  obtain ⟨htb, hdb⟩ := Baml.Token.takeWhile_append b hr'
  simp only [id_eq] at h ⊢
  constructor
  · rw [← List.takeWhile_eq_self_iff.mpr ha, ← hta, h, htb, List.takeWhile_eq_self_iff.mpr hb]
  · have hd : (a ++ r).dropWhile p = (b ++ r').dropWhile p := by rw [h]
    rwa [hda, hdb, List.dropWhile_eq_nil_iff.mpr ha, List.dropWhile_eq_nil_iff.mpr hb] at hd

/-- The same for strings. -/
theorem framed_word (p : Char → Bool) :
    Framed (fun word : String => ∀ c ∈ word.toList, p c = true) String.toList id
      (fun r => ∀ c ∈ r.head?, p c = false) := by
  intro a b r r' ha hb hr hr' h
  obtain ⟨he, hrest⟩ := framed_span p ha hb hr hr' h
  exact ⟨String.toList_inj.mp he, hrest⟩

/-- A quoted string, whatever stands behind it. -/
theorem framed_quoted :
    Framed (fun _ : String => True) (fun text => (Json.quoteString text).toList) id
      (fun _ => True) := by
  intro a b r r' _ _ _ _ h
  simp only [Json.quoteString, String.toList_ofList, List.cons_append, List.append_assoc,
    List.nil_append, List.cons.injEq, true_and] at h
  have hd := Json.decode_encode a.toList r
  rw [h, Json.decode_encode, Option.some.injEq, Prod.mk.injEq] at hd
  exact ⟨(String.toList_inj.mp hd.1).symm, hd.2.symm⟩

/-- A flag that is either a sign or nothing. -/
theorem framed_flag (sign : Char) :
    Framed (fun _ : Bool => True) (fun flag => if flag then [sign] else []) id
      (fun r => ¬ Starts sign r) := by
  intro a b r r' _ _ hr hr' h
  cases a <;> cases b
  · exact ⟨rfl, h⟩
  · exact absurd (congrArg List.head? h) hr
  · exact absurd (congrArg List.head? h).symm hr'
  · exact ⟨rfl, List.tail_eq_of_cons_eq h⟩

def mark (word : List Char) : Option String → List Char
  | none => []
  | some text => word ++ (Json.quoteString text).toList ++ [')']

theorem framed_mark (word : List Char) :
    Framed (fun _ : Option String => True) (mark word) id (fun r => ¬ word <+: r) := by
  intro a b r r' _ _ hr hr' h
  cases a <;> cases b <;> simp only [mark, List.nil_append, List.append_assoc] at h
  · exact ⟨rfl, h⟩
  · exact absurd ⟨_, h.symm⟩ hr
  · exact absurd ⟨_, h⟩ hr'
  · obtain ⟨he, hrest⟩ := framed_quoted trivial trivial trivial trivial (List.append_cancel_left h)
    exact ⟨congrArg some he, List.tail_eq_of_cons_eq hrest⟩

/-! ## Formats put together -/

namespace Framed

/-- What is shown by something that is shown. -/
theorem shows (h : Framed valid text view behind) (view' : α → β')
    (hv : ∀ a b, valid a → valid b → view a = view b → view' a = view' b) :
    Framed valid text view' behind := by
  intro a b r r' ha hb hr hr' he
  obtain ⟨hview, hrest⟩ := h ha hb hr hr' he
  exact ⟨hv a b ha hb hview, hrest⟩

/-- The same text in another form. -/
theorem congr (h : Framed valid text view behind) {text' : α → List Char}
    (ht : ∀ a, valid a → text' a = text a) : Framed valid text' view behind := by
  intro a b r r' ha hb hr hr' he
  rw [ht a ha, ht b hb] at he
  exact h ha hb hr hr' he

/-- A part of each value. -/
theorem part (h : Framed valid text view behind) (valid' : γ → Prop) (f : γ → α)
    (hv : ∀ c, valid' c → valid (f c)) :
    Framed valid' (fun c => text (f c)) (fun c => view (f c)) behind := by
  intro a b r r' ha hb hr hr' he
  exact h (hv a ha) (hv b hb) hr hr' he

/-- Fixed texts in front and at the end. -/
theorem enclosed (h : Framed valid text view behind) (front back : List Char)
    (behind' : List Char → Prop) (hb : ∀ r, behind' r → behind (back ++ r)) :
    Framed valid (fun a => front ++ (text a ++ back)) view behind' := by
  intro a b r r' ha hb' hr hr' he
  simp only [List.append_assoc] at he
  obtain ⟨hview, hrest⟩ := h ha hb' (hb r hr) (hb r' hr') (List.append_cancel_left he)
  exact ⟨hview, List.append_cancel_left hrest⟩

/-- Two pieces one after the other. -/
theorem andThen {text' : α → List Char} {view' : α → β'} {behind' : List Char → Prop}
    (h : Framed valid text view behind) (h' : Framed valid text' view' behind')
    (hb : ∀ a r, valid a → behind' r → behind (text' a ++ r)) :
    Framed valid (fun a => text a ++ text' a) (fun a => (view a, view' a)) behind' := by
  intro a b r r' ha hb' hr hr' he
  simp only [List.append_assoc] at he
  obtain ⟨hview, hrest⟩ := h ha hb' (hb a r ha hr) (hb b r' hb' hr') he
  obtain ⟨hview', hrest'⟩ := h' ha hb' hr hr' hrest
  exact ⟨Prod.ext hview hview', hrest'⟩

/-- Any number of pieces: what stands behind the last does not look like one more. -/
theorem list (h : Framed valid text view behind) (starts stop : List Char → Prop)
    (hstarts : ∀ a r, valid a → starts (text a ++ r)) (hnext : ∀ r, starts r → behind r)
    (hlast : ∀ r, stop r → behind r) (hstop : ∀ r, stop r → ¬ starts r) :
    Framed (fun items => ∀ a ∈ items, valid a) (List.flatMap text) (List.map view) stop := by
  intro as
  induction as with
  | nil =>
    intro bs r r' _ hb hr _ he
    cases bs with
    | nil => exact ⟨rfl, he⟩
    | cons b bs =>
      simp only [List.flatMap_nil, List.nil_append, List.flatMap_cons, List.append_assoc] at he
      exact absurd (he ▸ hstarts b _ (hb b List.mem_cons_self)) (hstop r hr)
  | cons a as ih =>
    intro bs r r' ha hb hr hr' he
    obtain ⟨hfirst, hothers⟩ := List.forall_mem_cons.mp ha
    cases bs with
    | nil =>
      simp only [List.flatMap_nil, List.nil_append, List.flatMap_cons, List.append_assoc] at he
      exact absurd (he ▸ hstarts a _ hfirst) (hstop r' hr')
    | cons b bs =>
      obtain ⟨hfirst', hothers'⟩ := List.forall_mem_cons.mp hb
      simp only [List.flatMap_cons, List.append_assoc] at he
      have hbehind (items : List α) (tail : List Char) (hi : ∀ a ∈ items, valid a)
          (ht : stop tail) : behind (items.flatMap text ++ tail) := by
        cases items with
        | nil => exact hlast tail ht
        | cons first rest =>
          rw [List.flatMap_cons, List.append_assoc]
          exact hnext _ (hstarts first _ (hi first List.mem_cons_self))
      obtain ⟨hview, hrest⟩ := h hfirst hfirst' (hbehind as r hothers hr)
        (hbehind bs r' hothers' hr') he
      obtain ⟨hviews, htail⟩ := ih hothers hothers' hr hr' hrest
      exact ⟨by rw [List.map_cons, List.map_cons, hview, hviews], htail⟩

end Framed

end StructuredOutput.Text
