import StructuredOutput.Proofs.TypeText.Reading

/-! # Trees of type expressions

`Parses` is the grammar of type expressions as it is written down: the bar joins any two expressions,
brackets and the question mark bind to the operand in front of them. A union of three types then has two
trees. `Flattens` forgets how unions are nested, and up to that the tree of an expression as the translator
writes it is unique: without a question mark, a tree is a reading. -/
namespace StructuredOutput.Baml

inductive TypeTree where
  | word (name : String)
  | list (items : TypeTree)
  | map (keys values : TypeTree)
  | union (first second : TypeTree)
  | optional (inner : TypeTree)

/-- The grammar of type expressions, with the tree of each. -/
inductive Parses : Level → List Token → TypeTree → Prop
  | word (name : String) : Parses .operand [.word name] (.word name)
  | list {ts : List Token} {t : TypeTree} :
      Parses .operand ts t → Parses .operand (ts ++ [.sign '[', .sign ']']) (.list t)
  | optional {ts : List Token} {t : TypeTree} :
      Parses .operand ts t → Parses .operand (ts ++ [.sign '?']) (.optional t)
  | parentheses {ts : List Token} {t : TypeTree} :
      Parses .whole ts t → Parses .operand (.sign '(' :: ts ++ [.sign ')']) t
  | map {ks vs : List Token} {k v : TypeTree} :
      Parses .whole ks k → Parses .whole vs v →
      Parses .operand (.word "map" :: .sign '<' :: ks ++ .sign ',' :: vs ++ [.sign '>']) (.map k v)
  | single {ts : List Token} {t : TypeTree} : Parses .operand ts t → Parses .whole ts t
  | union {ts ts' : List Token} {t t' : TypeTree} :
      Parses .whole ts t → Parses .whole ts' t' →
      Parses .whole (ts ++ .sign '|' :: ts') (.union t t')

/-- The alternatives of a tree without question marks, when nested unions are flattened. -/
inductive TypeTree.Flattens : TypeTree → List Alternative → Prop
  | word (name : String) : Flattens (.word name) [.word name]
  | list {t : TypeTree} {us : List Alternative} : Flattens t us → Flattens (.list t) [.list us]
  | map {k v : TypeTree} {us ws : List Alternative} :
      Flattens k us → Flattens v ws → Flattens (.map k v) [.map us ws]
  | union {t t' : TypeTree} {us ws : List Alternative} :
      Flattens t us → Flattens t' ws → Flattens (.union t t') (us ++ ws)

/-- A tree is flattened in one way. -/
theorem TypeTree.Flattens.unique {t : TypeTree} {us ws : List Alternative} (h : t.Flattens us)
    (h' : t.Flattens ws) : us = ws := by
  induction h generalizing ws with
  | word =>
    cases h' with
    | word => rfl
  | list _ ih =>
    cases h' with
    | list h => rw [ih h]
  | map _ _ ihk ihv =>
    cases h' with
    | map hk hv => rw [ihk hk, ihv hv]
  | union _ _ ih ih' =>
    cases h' with
    | union h h' => rw [ih h, ih' h']

/-! ## Trees and readings -/

/-- The tree of an expression without question marks flattens to a reading. -/
theorem Parses.reads {level : Level} {ts : List Token} {t : TypeTree} (h : Parses level ts t)
    (hm : .sign '?' ∉ ts) : ∃ us, t.Flattens us ∧ Reads level ts us := by
  induction h with
  | word name => exact ⟨_, .word name, .word name⟩
  | list _ ih =>
    obtain ⟨us, hf, hr⟩ := ih fun h => hm (List.mem_append_left _ h)
    exact ⟨_, .list hf, .brackets hr⟩
  | optional => exact absurd (List.mem_append_right _ List.mem_cons_self) hm
  | parentheses _ ih =>
    obtain ⟨us, hf, hr⟩ := ih fun h => hm (by simp [h])
    exact ⟨us, hf, .parentheses hr⟩
  | map _ _ ihk ihv =>
    obtain ⟨us, hf, hr⟩ := ihk fun h => hm (by simp [h])
    obtain ⟨ws, hf', hr'⟩ := ihv fun h => hm (by simp [h])
    exact ⟨_, .map hf hf', .map hr hr'⟩
  | single _ ih =>
    obtain ⟨us, hf, hr⟩ := ih hm
    exact ⟨us, hf, .single hr⟩
  | union _ _ ih ih' =>
    obtain ⟨us, hf, hr⟩ := ih fun h => hm (List.mem_append_left _ h)
    obtain ⟨ws, hf', hr'⟩ := ih' fun h => hm (List.mem_append_right _ (List.mem_cons_of_mem _ h))
    exact ⟨_, .union hf hf', hr.alternatives hr'⟩

/-- A reading of an expression without quoted strings has a tree. -/
theorem Reads.parses {level : Level} {ts : List Token} {us : List Alternative}
    (h : Reads level ts us) (hq : ∀ text, .quoted text ∉ ts) : ∃ t, Parses level ts t := by
  induction h with
  | word name => exact ⟨_, .word name⟩
  | quoted text => exact absurd List.mem_cons_self (hq text)
  | brackets _ ih =>
    obtain ⟨t, ht⟩ := ih fun text h => hq text (List.mem_append_left _ h)
    exact ⟨_, .list ht⟩
  | parentheses _ ih =>
    obtain ⟨t, ht⟩ := ih fun text h => hq text (by simp [h])
    exact ⟨t, .parentheses ht⟩
  | map _ _ ihk ihv =>
    obtain ⟨k, hk⟩ := ihk fun text h => hq text (by simp [h])
    obtain ⟨v, hv⟩ := ihv fun text h => hq text (by simp [h])
    exact ⟨_, .map hk hv⟩
  | single _ ih =>
    obtain ⟨t, ht⟩ := ih hq
    exact ⟨t, .single ht⟩
  | bar _ _ ih ih' =>
    obtain ⟨t, ht⟩ := ih fun text h => hq text (List.mem_append_left _ h)
    obtain ⟨t', ht'⟩ :=
      ih' fun text h => hq text (List.mem_append_right _ (List.mem_cons_of_mem _ h))
    exact ⟨_, .union ht (.single ht')⟩

end StructuredOutput.Baml
