import StructuredOutput.Proofs.SourceText.LegibleOutput

/-! # A source text determines what it declares

The parts of a source text can be told apart from the front: each section starts with its own word
behind an empty line, each block ends with a brace where a line of it would start with blanks, and
on the line of a field the name, the type, the question mark and both attributes show where they
end, since what they quote is escaped. So two translations with one source text, and with it one
cache key, declare the same. -/
namespace StructuredOutput.Baml

open Schema (Graph Node)
open Text (isFieldChar Framed Starts starts_cons framed_span framed_word framed_quoted framed_flag
  framed_mark mark)

/-! ## Lines -/

def Field.shownKey (f : Field) : Option String := f.key.filter (· ≠ "")

def Field.shownDescription (f : Field) : Option String := f.description.toStr?.filter (· ≠ "")

/-- A field as its line shows it: an empty key and an empty description are none. -/
def Field.shown (f : Field) : Field :=
  { f with
    key := f.shownKey
    description := (f.shownDescription.map Json.str).getD .null }

def Class.shown (c : Class) : Class := { c with fields := c.fields.map Field.shown }

/-- Whether the description of a field is a string, if it has one. -/
def Field.Described (f : Field) : Prop := f.description = .null ∨ ∃ text, f.description = .str text

/-- The attribute of a text that counts as present. -/
theorem mark_chars (word : String) (text : Option String) :
    (if (((text.map Json.str).getD .null).truthy) then
      word ++ ((text.map Json.str).getD .null).quote ++ ")" else "").toList =
      mark word.toList (text.filter (· ≠ "")) := by
  cases text with
  | none => rfl
  | some text =>
    by_cases he : text = ""
    · simp [Json.truthy, mark, he, Option.filter]
    · simp [Json.truthy, Json.quote, mark, he, Option.filter]

/-- The characters of a field's line, piece by piece. -/
theorem line_chars {f : Field} (h : f.Described) : ("  " ++ f.line ++ "\n").toList =
    [' ', ' '] ++ (f.name.toList ++ [' ']) ++
      ((if f.optional then group f.type else f.type).toList ++
        ((if f.optional then ['?'] else []) ++
          (mark " @alias(".toList f.shownKey ++
            ([] ++ (mark " @description(".toList f.shownDescription ++ ['\n']))))) := by
  have hdescription : f.description = (f.description.toStr?.map Json.str).getD .null := by
    rcases h with h | ⟨text, h⟩ <;> rw [h] <;> rfl
  have htype : (if f.optional then group f.type ++ "?" else f.type).toList =
      (if f.optional then group f.type else f.type).toList ++ if f.optional then ['?'] else [] := by
    split <;> simp
  unfold Field.line fieldText
  rw [hdescription]
  simp only [String.toList_append, mark_chars, htype, Field.shownKey, Field.shownDescription,
    List.append_assoc, List.nil_append]
  rfl

/-- What stands behind a line in a block: one more line or the closing brace. -/
def BehindLine (r : List Char) : Prop := Starts ' ' r ∨ Starts '\x7d' r

/-- The line of a field shows all of it. -/
theorem framed_line :
    Framed (fun f : Field => f.Legible ∧ f.Described) (fun f => ("  " ++ f.line ++ "\n").toList)
      Field.shown BehindLine := by
  let valid := fun f : Field => f.Legible ∧ f.Described
  -- from the end of the line to its front
  have hdescription := ((framed_mark " @description(".toList).part valid Field.shownDescription
    fun _ _ => trivial).enclosed [] ['\n'] BehindLine fun r _ => by simp
  have hkey := ((framed_mark " @alias(".toList).part valid Field.shownKey
    fun _ _ => trivial).andThen hdescription fun f r _ _ => by
      cases f.shownDescription <;> simp [mark]
  have hflag := ((framed_flag '?').part valid Field.optional
    fun _ _ => trivial).andThen hkey fun f r _ _ => by
      cases f.shownKey <;> cases f.shownDescription <;> simp [mark, Starts]
  have hshown (f : Field) (hf : valid f) :
      TypeText (if f.optional then group f.type else f.type) ∧
        (if f.optional then group f.type else f.type).toList.getLast? ≠ some ' ' := by
    split
    · exact ⟨hf.1.type.chars.group, hf.1.type.group_last⟩
    · exact ⟨hf.1.type.chars, hf.1.type.last_ne_blank⟩
  have htype := (framed_type.part valid _ hshown).andThen hflag fun f r _ _ => by
    cases f.optional <;> cases f.shownKey <;> cases f.shownDescription <;>
      simp [mark, Trails, Starts]
  have hname := ((framed_word isFieldChar).part valid Field.name
    fun f hf => hf.1.name).enclosed [' ', ' '] [' '] (fun _ => True)
      fun r _ => (starts_cons ' ' r).ends (by decide)
  have hall := hname.andThen htype fun _ _ _ _ => trivial
  refine (hall.congr fun f hf => line_chars hf.2).shows Field.shown fun f f' hf hf' hview => ?_
  simp only [Prod.mk.injEq, id_eq] at hview
  obtain ⟨hname, hshown, hoptional, hkeys, hdescriptions⟩ := hview
  have htypes : f.type = f'.type := by
    rw [hoptional] at hshown
    split at hshown
    · exact hf.1.type.group_injective hf'.1.type hshown
    · exact hshown
  simp only [Field.shown, hname, htypes, hoptional, hkeys, hdescriptions]

theorem exists_word {text : String} (h : Text.isIdentifier text = true) :
    ∃ word, (∀ c ∈ word, isFieldChar c = true) ∧
      (text.toList = word ∨ text.toList = word ++ ['\n']) := by
  have hplain {word : List Char} (hw : Text.isPlainName word = true) :
      ∀ c ∈ word, isFieldChar c = true := by
    cases word with
    | nil => exact fun _ hm => nomatch hm
    | cons c rest =>
      simp only [Text.isPlainName, Bool.and_eq_true, List.all_eq_true, Bool.or_eq_true,
        decide_eq_true_eq] at hw
      refine List.forall_mem_cons.mpr ⟨?_, hw.2⟩
      rcases hw.1 with hc | rfl
      · simp [isFieldChar, Char.isAlphanum, hc]
      · decide
  simp only [Text.isIdentifier, Bool.or_eq_true, Bool.and_eq_true, decide_eq_true_eq] at h
  rcases h with h | ⟨hlast, h⟩
  · exact ⟨text.toList, hplain h, .inl rfl⟩
  · refine ⟨text.toList.dropLast, hplain h, .inr ?_⟩
    obtain ⟨front, hfront⟩ := List.getLast?_eq_some_iff.mp hlast
    rw [hfront, List.dropLast_concat]

/-- An identifier, with or without the line end that it may have. -/
theorem framed_identifier (behind : List Char → Prop)
    (hword : ∀ r, behind r → ∀ c ∈ r.head?, isFieldChar c = false)
    (hline : ∀ r r', behind r → behind r' → r ≠ '\n' :: r') :
    Framed (fun text : String => Text.isIdentifier text = true) String.toList id behind := by
  intro a b r r' ha hb hr hr' h
  obtain ⟨word, hw, hends⟩ := exists_word ha
  obtain ⟨word', hw', hends'⟩ := exists_word hb
  have hbreak (tail : List Char) : ∀ c ∈ ('\n' :: tail).head?, isFieldChar c = false := by
    intro c hc
    cases hc
    decide
  rcases hends with he | he <;> rcases hends' with he' | he' <;>
    simp only [he, he', List.append_assoc, List.cons_append, List.nil_append] at h
  · obtain ⟨hwords, hrest⟩ := framed_span isFieldChar hw hw' (hword r hr) (hword r' hr') h
    exact ⟨String.toList_inj.mp (he.trans (hwords.trans he'.symm)), hrest⟩
  · obtain ⟨-, hrest⟩ := framed_span isFieldChar hw hw' (hword r hr) (hbreak r') h
    exact absurd hrest (hline r r' hr hr')
  · obtain ⟨-, hrest⟩ := framed_span isFieldChar hw hw' (hbreak r) (hword r' hr') h
    exact absurd hrest.symm (hline r' r hr' hr)
  · obtain ⟨hwords, hrest⟩ := framed_span isFieldChar hw hw' (hbreak r) (hbreak r') h
    simp only [id_eq] at hwords
    have hlists : a.toList = b.toList := by rw [he, he', hwords]
    exact ⟨String.toList_inj.mp hlists, List.tail_eq_of_cons_eq hrest⟩

/-- The line of a value of an enum. -/
theorem framed_value :
    Framed (fun value : Json => ∃ text, value = .str text ∧ Text.isIdentifier text = true)
      (fun value => ("  " ++ value.display ++ "\n").toList) id BehindLine := by
  let behind := fun r : List Char => ∃ tail, r = '\n' :: tail ∧ BehindLine tail
  have hword (r : List Char) (hr : behind r) : ∀ c ∈ r.head?, isFieldChar c = false := by
    obtain ⟨tail, rfl, -⟩ := hr
    exact (starts_cons '\n' tail).ends (by decide)
  -- behind a value its line ends once
  have hline (r r' : List Char) (hr : behind r) (hr' : behind r') : r ≠ '\n' :: r' := by
    obtain ⟨tail, rfl, hb⟩ := hr
    obtain ⟨tail', rfl, -⟩ := hr'
    intro he
    rw [List.tail_eq_of_cons_eq he] at hb
    rcases hb with hb | hb <;> cases hb
  have hidentifier := (framed_identifier behind hword hline).enclosed [' ', ' '] ['\n'] BehindLine
    fun r hr => ⟨r, rfl, hr⟩
  rintro _ _ r r' ⟨text, rfl, ht⟩ ⟨text', rfl, ht'⟩ hr hr' he
  simp only [Json.display, String.toList_append, List.append_assoc] at he
  obtain ⟨hview, hrest⟩ := hidentifier ht ht' hr hr' (by simpa using he)
  exact ⟨congrArg Json.str hview, hrest⟩

/-! ## Blocks -/

theorem unlines_chars (lines : List String) :
    (unlines lines).toList = lines.flatMap fun line => (line ++ "\n").toList := by
  rw [unlines, String.toList_join, List.flatMap_map]

theorem braced_chars (head : String) (lines : List String) : (braced head lines).toList =
    '\n' :: (head.toList ++ ([' ', '\x7b', '\n'] ++
      (lines.flatMap (fun line => ("  " ++ line ++ "\n").toList) ++ ['\x7d', '\n']))) := by
  rw [braced, unlines_chars]
  simp [List.flatMap_append, List.flatMap_map]

/-- A block shows its name and its lines. -/
theorem framed_braced {α γ δ : Type} (keyword : String) (name : α → String) (parts : α → List γ)
    {line : γ → String} {valid : γ → Prop} {view : γ → δ}
    (h : Framed valid (fun part => ("  " ++ line part ++ "\n").toList) view BehindLine) :
    Framed (fun a => IsWord (name a) ∧ ∀ part ∈ parts a, valid part)
      (fun a => (braced (keyword ++ name a) ((parts a).map line)).toList)
      (fun a => (name a, (parts a).map view)) (fun _ => True) := by
  let valid' := fun a => IsWord (name a) ∧ ∀ part ∈ parts a, valid part
  have hblank (part : γ) (r : List Char) (_ : valid part) :
      Starts ' ' (("  " ++ line part ++ "\n").toList ++ r) := by
    simp [Starts]
  have hbrace (r : List Char) (hr : Starts '\x7d' r) : ¬ Starts ' ' r :=
    fun hb => absurd (hr.unique hb) (by decide)
  have hlines := ((h.list (Starts ' ') (Starts '\x7d') hblank (fun _ hr => .inl hr)
    (fun _ hr => .inr hr) hbrace).part valid' parts fun a ha => ha.2).enclosed [' ', '\x7b', '\n']
      ['\x7d', '\n'] (fun _ => True) fun _ _ => rfl
  have hname := ((framed_word isFieldChar).part valid' name fun a ha => ha.1).enclosed
    ('\n' :: keyword.toList) [] (Starts ' ') fun r hr => hr.ends (by decide)
  have hall := hname.andThen hlines fun _ _ _ _ => rfl
  refine hall.congr fun a _ => ?_
  simp [braced_chars, List.flatMap_map]

/-! ## Sections -/

/-- Whether a text goes on with an empty line and a word that starts with a letter. -/
def Opens (letter : Char) (r : List Char) : Prop := ∃ rest, r = '\n' :: letter :: rest

theorem Opens.ne {a b : Char} {r : List Char} (h : Opens a r) (hne : a ≠ b) : ¬ Opens b r := by
  rintro ⟨rest, rfl⟩
  obtain ⟨rest', he⟩ := h
  cases he
  exact hne rfl

theorem opens_braced (letter : Char) (keyword name : String) (lines : List String) (r : List Char)
    (hk : keyword.toList.head? = some letter) :
    Opens letter ((braced (keyword ++ name) lines).toList ++ r) := by
  rw [braced_chars, String.toList_append]
  obtain ⟨rest, hrest⟩ := List.head?_eq_some_iff.mp hk
  rw [hrest]
  exact ⟨_, rfl⟩

/-- The declarations of enums. -/
theorem framed_enums :
    Framed (fun enums : List (String × List Json) => ∀ e ∈ enums, IsWord e.1 ∧
        ∀ value ∈ e.2, ∃ text, value = .str text ∧ Text.isIdentifier text = true)
      (fun enums => (String.join (enums.map fun e => enumText e.1 (e.2.map Json.display))).toList)
      id (fun r => Opens 't' r ∨ Opens 'c' r ∨ Opens 'f' r) := by
  let stop := fun r => Opens 't' r ∨ Opens 'c' r ∨ Opens 'f' r
  have hstop (r : List Char) (hr : stop r) : ¬ Opens 'e' r := by
    rcases hr with hr | hr | hr
    · exact hr.ne (by decide)
    · exact hr.ne (by decide)
    · exact hr.ne (by decide)
  have hblocks := (framed_braced "enum " Prod.fst Prod.snd framed_value).list (Opens 'e') stop
    (fun e r _ => opens_braced 'e' "enum " _ _ r rfl) (fun _ _ => trivial) (fun _ _ => trivial)
    hstop
  refine (hblocks.congr fun enums _ => ?_).shows id fun _ _ _ _ he => by simpa using he
  rw [String.toList_join, List.flatMap_map]
  rfl

/-- The declarations of classes. -/
theorem framed_classes :
    Framed (fun classes : List Class => ∀ c ∈ classes, IsWord c.name ∧
        ∀ f ∈ c.fields, f.Legible ∧ f.Described)
      (fun classes =>
        (String.join (classes.map fun c => classText c.name (c.fields.map Field.line))).toList)
      (List.map Class.shown) (Opens 'f') := by
  have hblock := (framed_braced "class " Class.name Class.fields framed_line).shows Class.shown
    fun a b _ _ he => by
      simp only [Prod.mk.injEq] at he
      simp only [Class.shown, he.1, he.2]
  have hblocks := hblock.list (Opens 'c') (Opens 'f')
    (fun c r _ => opens_braced 'c' "class " _ _ r rfl) (fun _ _ => trivial) (fun _ _ => trivial)
    fun r hr => hr.ne (by decide)
  refine hblocks.congr fun classes _ => ?_
  rw [String.toList_join, List.flatMap_map]
  rfl

def aliasLine (a : String × String) : String := "type " ++ a.1 ++ " = " ++ a.2 ++ "\n"

theorem framed_alias :
    Framed (fun a : String × String => IsWord a.1 ∧ OneLine a.2) (fun a => (aliasLine a).toList) id
      (fun _ => True) := by
  let valid := fun a : String × String => IsWord a.1 ∧ OneLine a.2
  have hline (a : String × String) (ha : valid a) (c : Char) (hc : c ∈ a.2.toList) :
      decide (c ≠ '\n') = true := by
    rw [decide_eq_true_eq]
    rintro rfl
    exact ha.2 hc
  have hexpr := ((framed_word fun c => c ≠ '\n').part valid Prod.snd hline).enclosed
    [' ', '=', ' '] ['\n'] (fun _ => True) fun r _ => (starts_cons '\n' r).ends (by decide)
  have hname := ((framed_word isFieldChar).part valid Prod.fst fun a ha => ha.1).enclosed
    "type ".toList [] (Starts ' ') fun r hr => hr.ends (by decide)
  have hall := hname.andThen hexpr fun _ _ _ _ => rfl
  refine hall.congr fun a _ => ?_
  simp [aliasLine]

theorem aliases_chars {aliases : List (String × String)} (h : aliases ≠ []) :
    (aliasesText aliases).toList = '\n' :: aliases.flatMap fun a => (aliasLine a).toList := by
  unfold aliasesText
  rw [if_neg (by simpa using h), unlines_chars]
  simp [aliasLine, List.flatMap_map]

/-- The declarations of aliases. -/
theorem framed_aliases :
    Framed (fun aliases : List (String × String) => ∀ a ∈ aliases, IsWord a.1 ∧ OneLine a.2)
      (fun aliases => (aliasesText aliases).toList) id (fun r => Opens 'c' r ∨ Opens 'f' r) := by
  have hstarts (a : String × String) (r : List Char) :
      ∃ rest, (aliasLine a).toList ++ r = 't' :: rest := by
    simp only [aliasLine, String.toList_append, List.append_assoc]
    exact ⟨_, rfl⟩
  have hstart (a : String × String) (r : List Char) : Starts 't' ((aliasLine a).toList ++ r) := by
    obtain ⟨rest, he⟩ := hstarts a r
    rw [he]
    rfl
  have hlines := framed_alias.list (Starts 't') (Starts '\n') (fun a r _ => hstart a r)
    (fun _ _ => trivial) (fun _ _ => trivial) fun r hr hs => absurd (hr.unique hs) (by decide)
  -- what stands behind the section is no alias
  have hsection (a : String × String) (rest : List (String × String)) (r r' : List Char)
      (hr : Opens 'c' r ∨ Opens 'f' r) : r ≠ (aliasesText (a :: rest)).toList ++ r' := by
    rintro rfl
    rw [aliases_chars (by simp)] at hr
    obtain ⟨tail, ht⟩ := hstarts a (rest.flatMap (fun a => (aliasLine a).toList) ++ r')
    rw [List.flatMap_cons, List.cons_append, List.append_assoc, ht] at hr
    rcases hr with ⟨_, he⟩ | ⟨_, he⟩ <;> cases he
  have hhead (r : List Char) (hr : Opens 'c' r ∨ Opens 'f' r) : Starts '\n' r := by
    rcases hr with ⟨_, rfl⟩ | ⟨_, rfl⟩ <;> rfl
  intro as bs r r' ha hb hr hr' he
  cases as with
  | nil =>
    cases bs with
    | nil => exact ⟨rfl, he⟩
    | cons b bs => exact absurd he (hsection b bs r r' hr)
  | cons a as =>
    cases bs with
    | nil => exact absurd he.symm (hsection a as r' r hr')
    | cons b bs =>
      dsimp only at he
      rw [aliases_chars (by simp), aliases_chars (by simp)] at he
      obtain ⟨hview, hrest⟩ := hlines ha hb (hhead r hr) (hhead r' hr')
        (List.tail_eq_of_cons_eq he)
      exact ⟨by simpa using hview, hrest⟩

/-- What the parse function of a source text names. -/
structure Signature where
  name : String
  root : String
  client : String

/-- The parse function. -/
theorem framed_function :
    Framed (fun f : Signature => Text.isIdentifier f.name = true ∧ TypeText f.root)
      (fun f => (functionText f.name f.root (.str f.client)).toList) id (fun _ => True) := by
  let valid := fun f : Signature => Text.isIdentifier f.name = true ∧ TypeText f.root
  let body := ["", "  prompt #\x22", "    \x7b\x7b input \x7d\x7d",
    "    \x7b\x7b ctx.output_format \x7d\x7d", "  \x22#", "\x7d"]
  have hclient := (framed_quoted.part valid Signature.client fun _ _ => trivial).enclosed
    "\x7b\n  client ".toList (unlines body).toList (fun _ => True) fun _ _ => trivial
  have htype (f : Signature) (hf : valid f) (c : Char) (hc : c ∈ f.root.toList ++ [' ']) :
      isTypeChar c = true := by
    rcases List.mem_append.mp hc with hc | hc
    · exact hf.2 c hc
    · rw [List.mem_singleton.mp hc]
      decide
  have hroot := ((framed_span isTypeChar).part valid (fun f => f.root.toList ++ [' '])
    htype).enclosed "(input: string) -> ".toList [] (Starts '\x7b') fun r hr => hr.ends (by decide)
  have hname := ((framed_identifier (Starts '(') (fun r hr => hr.ends (by decide))
    fun r r' hr _ he => by rw [he] at hr; cases hr).part valid Signature.name
      fun f hf => hf.1).enclosed "\nfunction ".toList [] (Starts '(') fun r hr => hr
  have hall := hname.andThen (hroot.andThen hclient fun _ _ _ _ => rfl) fun _ _ _ _ => rfl
  refine (hall.congr fun f _ => ?_).shows id fun f f' _ _ hview => ?_
  · simp [functionText, unlines_chars, body, Json.quote]
  · simp only [Prod.mk.injEq, id_eq] at hview
    obtain ⟨hname, hroots, hclients⟩ := hview
    have hr : f.root = f'.root := String.toList_inj.mp (List.append_cancel_right hroots)
    cases f
    cases f'
    simp only at hname hr hclients
    rw [hname, hr, hclients]

/-! ## Source texts -/

structure Contents where
  enums : List (String × List Json)
  aliases : List (String × String)
  classes : List Class
  function : Signature

namespace Contents

/-- Whether all that a source text is made from can be told apart in it. -/
structure Legible (c : Contents) : Prop where
  enums : ∀ e ∈ c.enums, IsWord e.1 ∧
    ∀ value ∈ e.2, ∃ text, value = .str text ∧ Text.isIdentifier text = true
  aliases : ∀ a ∈ c.aliases, IsWord a.1 ∧ OneLine a.2
  classes : ∀ class_ ∈ c.classes, IsWord class_.name ∧
    ∀ f ∈ class_.fields, f.Legible ∧ f.Described
  function : Text.isIdentifier c.function.name = true ∧ TypeText c.function.root

def text (c : Contents) : String :=
  sourceText (c.enums.map fun e => enumText e.1 (e.2.map Json.display)) c.aliases
    (c.classes.map fun class_ => classText class_.name (class_.fields.map Field.line))
    c.function.name c.function.root (.str c.function.client)

/-- The parse function stands behind all classes. -/
theorem opens_function (name root : String) (client : Json) (r : List Char) :
    Opens 'f' ((functionText name root client).toList ++ r) := by
  simp [functionText, unlines_chars, Opens]

/-- The classes stand behind all aliases. -/
theorem opens_classes (classes : List Class) {r : List Char} (hr : Opens 'f' r) :
    Opens 'c' ((String.join (classes.map fun c =>
        classText c.name (c.fields.map Field.line))).toList ++ r) ∨
      Opens 'f' ((String.join (classes.map fun c =>
        classText c.name (c.fields.map Field.line))).toList ++ r) := by
  rw [String.toList_join, List.flatMap_map]
  cases classes with
  | nil => exact .inr hr
  | cons c rest =>
    rw [List.flatMap_cons, List.append_assoc]
    exact .inl (opens_braced 'c' "class " c.name (c.fields.map Field.line) _ rfl)

/-- The aliases stand behind all enums. -/
theorem opens_aliases (aliases : List (String × String)) {r : List Char}
    (hr : Opens 'c' r ∨ Opens 'f' r) :
    Opens 't' ((aliasesText aliases).toList ++ r) ∨ Opens 'c' ((aliasesText aliases).toList ++ r) ∨
      Opens 'f' ((aliasesText aliases).toList ++ r) := by
  cases aliases with
  | nil => exact .inr hr
  | cons a rest =>
    rw [aliases_chars (by simp), List.flatMap_cons, List.cons_append, List.append_assoc]
    simp only [aliasLine, String.toList_append, List.append_assoc]
    exact .inl ⟨_, rfl⟩

/-- A source text shows all that it is made from. -/
theorem text_injective {a b : Contents} (ha : a.Legible) (hb : b.Legible) (h : a.text = b.text) :
    a.enums = b.enums ∧ a.aliases = b.aliases ∧
      a.classes.map Class.shown = b.classes.map Class.shown ∧ a.function = b.function := by
  have hfunction := framed_function.part Legible Contents.function
    fun c hc => hc.function
  have hclasses := (framed_classes.part Legible Contents.classes
    fun c hc => hc.classes).andThen hfunction fun c r _ _ => opens_function _ _ _ r
  have haliases := (framed_aliases.part Legible Contents.aliases
    fun c hc => hc.aliases).andThen hclasses fun c r _ _ => by
      rw [List.append_assoc]
      exact opens_classes c.classes (opens_function _ _ _ r)
  have hall := (framed_enums.part Legible Contents.enums
    fun c hc => hc.enums).andThen haliases fun c r _ _ => by
      rw [List.append_assoc, List.append_assoc]
      exact opens_aliases c.aliases (opens_classes c.classes (opens_function _ _ _ r))
  have hchars (c : Contents) : c.text.toList = targetText.toList ++
      ((String.join (c.enums.map fun e => enumText e.1 (e.2.map Json.display))).toList ++
        ((aliasesText c.aliases).toList ++ ((String.join (c.classes.map fun class_ =>
          classText class_.name (class_.fields.map Field.line))).toList ++
            (functionText c.function.name c.function.root (.str c.function.client)).toList))) := by
    simp only [text, sourceText, String.toList_append, List.append_assoc]
  have he := congrArg String.toList h
  rw [hchars, hchars] at he
  have htexts := congrArg (· ++ []) (List.append_cancel_left he)
  obtain ⟨hview, -⟩ := hall ha hb trivial trivial htexts
  simp only [Prod.mk.injEq, id_eq] at hview
  exact hview

end Contents

/-! ## Translations -/

/-- Whether the descriptions of all fields are strings, as far as they have one. -/
def Declarations.Described (d : Declarations) : Prop :=
  ∀ entry ∈ d.classes, ∀ field ∈ entry.2.fields, field.Described

/-- What is rendered behind a translation from no declarations can be told apart. -/
theorem render_contents {g : Graph} {s : Settings.Translator} {node : Node} {hint : NameHint}
    {root : String} {d : Declarations}
    (hr : Translation.Returns (translate g s node hint) {} root d) (hd : d.Described)
    {function : String} (hf : Text.isIdentifier function = true) (client : String) :
    ∃ printed, d.completed = .ok printed ∧
      Contents.Legible ⟨d.enums, d.aliases, printed, ⟨function, root, client⟩⟩ ∧
      d.render function root (.str client) =
        .ok (Contents.text ⟨d.enums, d.aliases, printed, ⟨function, root, client⟩⟩) := by
  obtain ⟨htidy, hpending⟩ := Declarations.Tidy.of_reached (.call .start hr)
  obtain ⟨hlegible, hroot⟩ :=
    Translation.within_prints _ _ _ _ _ _ _ _ Declarations.legible_empty
      (Translation.returns_translate.mp hr)
  obtain ⟨printed, hcompleted, hperm, -⟩ := htidy.completed hpending
  have hword {name : String} (hn : name ∈ d.names) : IsWord name :=
    (typeName_word (htidy.typeNames name hn)).2
  have hnames (name : String) (hn : name ∈ d.classNames ∨ name ∈ d.enums.map (·.1) ∨
      name ∈ d.aliases.map (·.1)) : name ∈ d.names := by
    simp only [Declarations.names, List.mem_append, or_assoc]
    exact hn
  refine ⟨printed, hcompleted,
    ⟨fun e he => ?_, fun a ha => ?_, fun c hc => ?_, hf, hroot.chars⟩, ?_⟩
  · exact ⟨hword (hnames _ (.inr (.inl (List.mem_map_of_mem he)))), hlegible.values e he⟩
  · exact ⟨hword (hnames _ (.inr (.inr (List.mem_map_of_mem ha)))), hlegible.aliases a ha⟩
  · obtain ⟨entry, he, rfl⟩ := List.mem_map.mp (hperm.subset hc)
    refine ⟨?_, fun f hf => ⟨hlegible.fields entry he f hf, hd entry he f hf⟩⟩
    rw [htidy.own entry he]
    exact hword (hnames _ (.inl (List.mem_map_of_mem he)))
  · exact Declarations.render_eq hcompleted _ _ _

/-- A cache key is sound: what two translations from no declarations render determines what they
have declared. Whatever nodes, tables, hints and settings they are given, as long as the parse
functions are named by identifiers and the descriptions and clients are strings, one source text
means the same enums, the same aliases, the same classes in the order of their completion with the
same fields, and the same parse function with its root type and client. -/
theorem render_injective {g₁ g₂ : Graph} {s₁ s₂ : Settings.Translator} {node₁ node₂ : Node}
    {hint₁ hint₂ : NameHint} {root₁ root₂ client₁ client₂ : String} {d₁ d₂ : Declarations}
    (hr₁ : Translation.Returns (translate g₁ s₁ node₁ hint₁) {} root₁ d₁)
    (hr₂ : Translation.Returns (translate g₂ s₂ node₂ hint₂) {} root₂ d₂)
    (hd₁ : d₁.Described) (hd₂ : d₂.Described)
    (hf₁ : Text.isIdentifier s₁.functionName = true)
    (hf₂ : Text.isIdentifier s₂.functionName = true)
    (hc₁ : s₁.client = .str client₁) (hc₂ : s₂.client = .str client₂)
    (hsame : d₁.render s₁.functionName root₁ s₁.client =
      d₂.render s₂.functionName root₂ s₂.client) :
    d₁.enums = d₂.enums ∧ d₁.aliases = d₂.aliases ∧
      (∃ printed₁ printed₂, d₁.completed = .ok printed₁ ∧ d₂.completed = .ok printed₂ ∧
        printed₁.map Class.shown = printed₂.map Class.shown) ∧
      s₁.functionName = s₂.functionName ∧ root₁ = root₂ ∧ s₁.client = s₂.client := by
  obtain ⟨printed₁, hp₁, hl₁, ht₁⟩ := render_contents hr₁ hd₁ hf₁ client₁
  obtain ⟨printed₂, hp₂, hl₂, ht₂⟩ := render_contents hr₂ hd₂ hf₂ client₂
  rw [hc₁, hc₂, ht₁, ht₂] at hsame
  obtain ⟨henums, haliases, hclasses, hfunction⟩ :=
    Contents.text_injective hl₁ hl₂ (Except.ok.inj hsame)
  simp only [Signature.mk.injEq] at hfunction
  obtain ⟨hname, hroot, hclient⟩ := hfunction
  refine ⟨henums, haliases, ⟨printed₁, printed₂, hp₁, hp₂, hclasses⟩, hname, hroot, ?_⟩
  rw [hc₁, hc₂, hclient]

def singleNode (key : String) : Node :=
  .object .null [(key, .primitive (.str "what it is called") (.str "string"))]

def singleOutput (key : Option String) : Declarations :=
  { classes := [("Root", ⟨"Root", [⟨"field_", "string", false, .str "what it is called", key⟩]⟩)]
    order := ["Root"] }

theorem render_injective_single :
    Translation.Returns (translate .empty {} (singleNode "") (.text "Root")) {} "Root"
        (singleOutput (some "")) ∧
      Translation.Returns (translate .empty {} (singleNode "field_") (.text "root")) {} "Root"
        (singleOutput none) ∧
      ∃ printed₁ printed₂, (singleOutput (some "")).completed = .ok printed₁ ∧
        (singleOutput none).completed = .ok printed₂ ∧
        printed₁.map Class.shown = printed₂.map Class.shown := by
  have hr₁ : Translation.Returns (translate .empty {} (singleNode "") (.text "Root")) {} "Root"
    (singleOutput (some "")) := rfl
  have hr₂ : Translation.Returns (translate .empty {} (singleNode "field_") (.text "root")) {}
    "Root" (singleOutput none) := rfl
  have hd (key : Option String) : (singleOutput key).Described := by
    intro entry he field hf
    rw [List.mem_singleton.mp he] at hf
    rw [List.mem_singleton.mp hf]
    exact .inr ⟨_, rfl⟩
  have hname : Text.isIdentifier ({} : Settings.Translator).functionName = true := by decide
  obtain ⟨-, -, hclasses, -⟩ :=
    render_injective hr₁ hr₂ (hd _) (hd _) hname hname rfl rfl (by rfl)
  exact ⟨hr₁, hr₂, hclasses⟩

end StructuredOutput.Baml
