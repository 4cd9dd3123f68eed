import StructuredOutput.Json.Quoted

/-! # Quoted strings read back

Reading what was written gives the string back and stops behind the closing quote, whatever follows
it. Reading always uses up characters, so a text can be cut into strings one after the other. -/
namespace StructuredOutput.Json

theorem consDecoded_some {c : Char} {r : Option (List Char × List Char)} {text behind : List Char}
    (h : consDecoded c r = some (text, behind)) : ∃ t, r = some (t, behind) ∧ text = c :: t := by
  cases r with
  | none => cases h
  | some p => cases h; exact ⟨p.1, rfl, rfl⟩

theorem decode_length {source text behind : List Char} (h : decode source = some (text, behind)) :
    behind.length < source.length := by
  fun_induction decode source generalizing text behind with
  | case1 => cases h
  | case2 a b c d e f g i rest high low hl hh joined hj ih =>
    obtain ⟨t, ht, -⟩ := consDecoded_some h
    have := ih ht
    simp only [List.length_cons]; omega
  | case3 a b c d e f g i rest high low hl hh hj ih =>
    obtain ⟨t, ht, -⟩ := consDecoded_some h
    have := ih ht
    simp only [List.length_cons] at this ⊢; omega
  | case4 a b c d e f g i rest high hl hh ih =>
    obtain ⟨t, ht, -⟩ := consDecoded_some h
    have := ih ht
    simp only [List.length_cons] at this ⊢; omega
  | case5 => cases h
  | case6 a b c d rest hrest n hn ih =>
    obtain ⟨t, ht, -⟩ := consDecoded_some h
    have := ih ht
    simp only [List.length_cons]; omega
  | case7 => cases h
  | case8 c rest h1 h2 plain hp ih =>
    obtain ⟨t, ht, -⟩ := consDecoded_some h
    have := ih ht
    simp only [List.length_cons]; omega
  | case9 => cases h
  | case10 => cases h; simp
  | case11 => cases h
  | case12 c rest h1 h2 h3 h4 h5 ih =>
    obtain ⟨t, ht, -⟩ := consDecoded_some h
    have := ih ht
    simp only [List.length_cons]; omega

theorem unhex4?_hex4 : ∀ n < 32, ∃ a b c d, hex4 n = [a, b, c, d] ∧ unhex4? a b c d = some n := by
  intro n hn
  refine ⟨_, _, _, _, rfl, ?_⟩
  revert n
  decide

theorem joinSurrogates?_control {n low : Nat} (h : n < 32) : joinSurrogates? n low = none := by
  unfold joinSurrogates?
  rw [if_neg]
  simp; omega

theorem decode_control {c : Char} (h : c.toNat < 32) (rest : List Char) :
    decode ('\\' :: 'u' :: (hex4 c.toNat ++ rest)) = consDecoded c (decode rest) := by
  obtain ⟨a₁, a₂, a₃, a₄, he, hx⟩ := unhex4?_hex4 c.toNat h
  rw [he]
  have hs : (0xD800 ≤ c.toNat && c.toNat < 0xE000) = false := by simp; omega
  simp only [List.cons_append, List.nil_append]
  -- a control character is no surrogate, whether or not another escape follows
  by_cases hr : ∃ e f g i more, rest = '\\' :: 'u' :: e :: f :: g :: i :: more
  · obtain ⟨e, f, g, i, more, rfl⟩ := hr
    rw [decode, hx]
    cases hl : unhex4? e f g i with
    | none => simp
    | some low => simp [joinSurrogates?_control h, hs]
  · rw [decode, hx]
    · simp [hs]
    · intro e f g i more hm
      exact hr ⟨e, f, g, i, more, hm⟩

/-- The characters with an escape of their own, and what stands behind the backslash for them. -/
def shorts : List (Char × Char) :=
  [('\x22', '\x22'), ('\\', '\\'), ('\n', 'n'), ('\r', 'r'), ('\t', 't'), ('\x08', 'b'), ('\x0c', 'f')]

/-- How a character is escaped: as itself, by an escape of its own, or by its number. -/
inductive Escaped (c : Char) : List Char → Prop
  | plain : 32 ≤ c.toNat → c ≠ '\x22' → c ≠ '\\' → Escaped c [c]
  | short {d : Char} : (c, d) ∈ shorts → Escaped c ['\\', d]
  | control : c.toNat < 32 → Escaped c ('\\' :: 'u' :: hex4 c.toNat)

theorem escaped_escape (c : Char) : Escaped c (escape c) := by
  have hshort {d e : Char} (hc : c = d) (hd : (d, e) ∈ shorts) : Escaped c ['\\', e] :=
    .short (hc ▸ hd)
  unfold escape
  split
  next h => exact hshort h (by decide)
  split
  next h => exact hshort h (by decide)
  split
  next h => exact hshort h (by decide)
  split
  next h => exact hshort h (by decide)
  split
  next h => exact hshort h (by decide)
  split
  next h => exact hshort h (by decide)
  split
  next h => exact hshort h (by decide)
  split
  next h => exact .control h
  next hquote hbackslash _ _ _ _ _ h => exact .plain (Nat.le_of_not_lt h) hquote hbackslash

/-- An escape has no control character. -/
theorem escape_controlFree (c : Char) : ∀ b ∈ escape c, 32 ≤ b.toNat := by
  have hdigit (n : Nat) : 32 ≤ (Nat.digitChar (n % 16)).toNat := by
    have hlt : n % 16 < 16 := Nat.mod_lt _ (by decide)
    generalize n % 16 = k at hlt
    revert k
    decide
  have h := escaped_escape c
  generalize escape c = chars at h
  cases h with
  | plain h => simpa using h
  | short h =>
    have hall : ∀ p ∈ shorts, 32 ≤ p.2.toNat := by decide
    simpa using hall _ h
  | control => simp [hex4, hdigit]

/-- An escaped character reads as itself. -/
theorem decode_escape (c : Char) (rest : List Char) :
    decode (escape c ++ rest) = consDecoded c (decode rest) := by
  have h := escaped_escape c
  generalize escape c = chars at h
  cases h with
  | plain h hquote hbackslash =>
    rw [List.cons_append, List.nil_append, decode]
    · simp [hquote, hbackslash, Nat.not_lt.mpr h]
    all_goals simp [hbackslash]
  | short h =>
    have hall : ∀ p ∈ shorts, unescape? p.2 = some p.1 ∧ p.2 ≠ 'u' := by decide
    obtain ⟨hd, hu⟩ := hall _ h
    simp [decode, hd, hu]
  | control h => exact decode_control h rest

/-- A string that was written reads back, and what stands behind its closing quote is left. -/
theorem decode_encode (text behind : List Char) :
    decode (encode text ++ '\x22' :: behind) = some (text, behind) := by
  induction text with
  | nil => simp [encode, decode]
  | cons c rest ih =>
    have : encode (c :: rest) = escape c ++ encode rest := rfl
    rw [this, List.append_assoc, decode_escape, ih]
    rfl

end StructuredOutput.Json
