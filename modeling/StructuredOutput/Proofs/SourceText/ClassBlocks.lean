import StructuredOutput.Proofs.SourceText.FieldLines

/-! # The blocks of classes

The source text of what calls of the translator have declared holds the block of each class, one block
behind the other in the order in which the classes were completed, and no other line opens a class. So the
output of each call is closed, and every class that is declared is printed once. -/
namespace StructuredOutput.Baml

open Schema (Graph Node)

def Class.block (c : Class) : String := classText c.name (c.fields.map Field.line)

/-! ## Places -/

/-- The blocks stand between the aliases and the parse function. -/
theorem blocks_infix (enums : List String) (aliases : List (String × String)) (classes : List Class)
    (function root : String) (client : Json) :
    ∃ front back, sourceText enums aliases (classes.map Class.block) function root client =
      front ++ String.join (classes.map Class.block) ++ back :=
  ⟨targetText ++ String.join enums ++ aliasesText aliases, functionText function root client, rfl⟩

/-- Whether the block of a class that is named by a word stands in a text, in front of the block of
another. The class is one of those in front of the other one. -/
def ShowsBefore (text : String) (before : List Class) (word : String) (c : Class) : Prop :=
  ∃ m ∈ before, m.name = word ∧
    ∃ front between back, text = front ++ m.block ++ between ++ c.block ++ back

/-- The block of each class stands in the source text. -/
theorem block_infix {enums : List String} {aliases : List (String × String)} {classes : List Class}
    {function root : String} {client : Json} {c : Class} (h : c ∈ classes) :
    ∃ before after, sourceText enums aliases (classes.map Class.block) function root client =
      before ++ c.block ++ after := by
  obtain ⟨front, back, htext⟩ := blocks_infix enums aliases classes function root client
  obtain ⟨first, last, rfl⟩ := List.append_of_mem h
  refine ⟨front ++ String.join (first.map Class.block), String.join (last.map Class.block) ++ back, ?_⟩
  rw [htext]
  simp [← String.toList_inj, String.toList_join]

/-- Blocks stand in the order of their classes. -/
theorem showsBefore_of_mem {text front back word : String} {before after : List Class} {c : Class}
    (h : text = front ++ String.join ((before ++ c :: after).map Class.block) ++ back)
    (hw : word ∈ before.map (·.name)) : ShowsBefore text before word c := by
  obtain ⟨m, hm, rfl⟩ := List.mem_map.mp hw
  obtain ⟨first, second, rfl⟩ := List.append_of_mem hm
  refine ⟨m, hm, rfl, front ++ String.join (first.map Class.block),
    String.join (second.map Class.block), String.join (after.map Class.block) ++ back, ?_⟩
  rw [h]
  simp [← String.toList_inj, String.toList_join]

/-! ## The lines that open a class -/

def openedClass? : List Char → Option String
  | 'c' :: 'l' :: 'a' :: 's' :: 's' :: ' ' :: rest =>
    some (String.ofList (rest.takeWhile (· ≠ ' ')))
  | _ => none

/-- The names of the classes that the lines of a text open. -/
def openedClasses (text : String) : List String :=
  (text.toList.splitOn '\n').filterMap openedClass?

theorem openedClasses_append (text rest : String) :
    openedClasses (text ++ "\n" ++ rest) = openedClasses text ++ openedClasses rest := by
  have hchars : (text ++ "\n" ++ rest).toList = text.toList ++ '\n' :: rest.toList := by simp
  unfold openedClasses
  rw [hchars, List.splitOn_append_cons_self, List.filterMap_append]

theorem openedClasses_line {line : String} (h : OneLine line) :
    openedClasses line = (openedClass? line.toList).toList := by
  unfold openedClasses
  rw [List.splitOn_eq_singleton h]
  cases hopen : openedClass? line.toList with
  | none => simp [hopen]
  | some name => simp [hopen]

/-- A line opens no class if it starts with another letter. -/
theorem openedClasses_other {line : String} (h : OneLine line) (hc : line.toList.head? ≠ some 'c') :
    openedClasses line = [] := by
  rw [openedClasses_line h]
  unfold openedClass?
  split
  · rename_i hline
    exact absurd (congrArg List.head? hline) hc
  · rfl

theorem openedClasses_indented {line : String} (h : OneLine line) :
    openedClasses ("  " ++ line) = [] :=
  openedClasses_other (OneLine.append (by simp [OneLine]) h) (by simp)

/-- The first line of a class opens it. -/
theorem openedClasses_head {name : String} (h : IsWord name) :
    openedClasses ("class " ++ name ++ " \x7b") = [name] := by
  have hname : OneLine name := fun hm => absurd (h _ hm) (by decide)
  have hword : ∀ c ∈ name.toList, decide (c ≠ ' ') = true :=
    fun c hc => by simpa using fun he : c = ' ' => absurd (h _ (he ▸ hc)) (by decide)
  have hchars : ("class " ++ name ++ " \x7b").toList =
      'c' :: 'l' :: 'a' :: 's' :: 's' :: ' ' :: (name.toList ++ [' ', '\x7b']) := by
    simp
  rw [openedClasses_line ((OneLine.append (by simp [OneLine]) hname).append (by simp [OneLine])),
    hchars, openedClass?, List.takeWhile_append_of_pos hword]
  simp

def OpensClasses (text : String) (names : List String) : Prop :=
  ∀ behind, openedClasses (text ++ behind) = names ++ openedClasses behind

namespace OpensClasses

theorem append {a b : String} {names names' : List String} (ha : OpensClasses a names)
    (hb : OpensClasses b names') : OpensClasses (a ++ b) (names ++ names') := by
  intro behind
  rw [String.append_assoc, ha, hb, List.append_assoc]

theorem join {α : Type} {text : α → String} (names : α → List String) {items : List α}
    (h : ∀ item ∈ items, OpensClasses (text item) (names item)) :
    OpensClasses (String.join (items.map text)) (items.flatMap names) := by
  induction items with
  | nil => intro behind; simp
  | cons item rest ih =>
    obtain ⟨hitem, hrest⟩ := List.forall_mem_cons.mp h
    rw [List.map_cons, String.join_cons, List.flatMap_cons]
    exact hitem.append (ih hrest)

theorem unlines (lines : List String) :
    OpensClasses (unlines lines) (lines.flatMap openedClasses) :=
  join openedClasses fun line _ behind => openedClasses_append line behind

/-- Lines of which none opens a class. -/
theorem others {lines : List String} (h : ∀ line ∈ lines, openedClasses line = []) :
    OpensClasses (Baml.unlines lines) [] := by
  have hall : lines.flatMap openedClasses = [] := List.flatMap_eq_nil_iff.mpr h
  exact hall ▸ unlines lines

end OpensClasses

/-- A block opens what its first line opens if the lines in it are indented. -/
theorem opensClasses_braced {head : String} {lines : List String}
    (h : ∀ line ∈ lines, openedClasses ("  " ++ line) = []) :
    OpensClasses (braced head lines) (openedClasses (head ++ " \x7b")) := by
  have hlines : (lines.map ("  " ++ ·)).flatMap openedClasses = [] := by
    rw [List.flatMap_map]
    exact List.flatMap_eq_nil_iff.mpr h
  have hblank : openedClasses "" = [] := rfl
  have hclose : openedClasses "\x7d" = [] := rfl
  have hnames : (["", head ++ " \x7b"] ++ lines.map ("  " ++ ·) ++ ["\x7d"]).flatMap openedClasses =
      openedClasses (head ++ " \x7b") := by
    simp [hlines, hblank, hclose]
  exact hnames ▸ OpensClasses.unlines _

theorem opensClasses_block {c : Class} (hn : IsWord c.name) (hf : ∀ f ∈ c.fields, f.Legible) :
    OpensClasses c.block [c.name] := by
  rw [← openedClasses_head hn]
  refine opensClasses_braced fun line hm => ?_
  obtain ⟨f, hfield, rfl⟩ := List.mem_map.mp hm
  exact openedClasses_indented (oneLine_line (hf f hfield))

/-- A value of an enum may end in a line feed. What stands behind it is an empty line. -/
theorem openedClasses_value {text : String} (h : Text.isIdentifier text = true) :
    openedClasses ("  " ++ text) = [] := by
  obtain ⟨word, hword, hends⟩ := exists_word h
  have hline : OneLine (String.ofList word) := by
    intro hm
    rw [String.toList_ofList] at hm
    exact absurd (hword _ hm) (by decide)
  rcases hends with hends | hends
  · obtain rfl : text = String.ofList word := String.toList_inj.mp (by simp [hends])
    exact openedClasses_indented hline
  · obtain rfl : text = String.ofList word ++ "\n" := String.toList_inj.mp (by simp [hends])
    have hcut := openedClasses_append ("  " ++ String.ofList word) ""
    rw [String.append_empty, String.append_assoc, openedClasses_indented hline] at hcut
    exact hcut

theorem opensClasses_enum {name : String} (hn : OneLine name) {values : List Json}
    (hv : ∀ value ∈ values, ∃ text, value = .str text ∧ Text.isIdentifier text = true) :
    OpensClasses (enumText name (values.map Json.display)) [] := by
  have hhead : openedClasses ("enum " ++ name ++ " \x7b") = [] :=
    openedClasses_other ((OneLine.append (by simp [OneLine]) hn).append (by simp [OneLine])) (by simp)
  rw [← hhead]
  refine opensClasses_braced fun line hm => ?_
  obtain ⟨value, hvalue, rfl⟩ := List.mem_map.mp hm
  obtain ⟨text, rfl, ht⟩ := hv value hvalue
  exact openedClasses_value ht

theorem opensClasses_aliases {aliases : List (String × String)}
    (h : ∀ a ∈ aliases, OneLine a.1 ∧ OneLine a.2) : OpensClasses (aliasesText aliases) [] := by
  unfold aliasesText
  split
  · exact fun behind => by simp
  · refine OpensClasses.others (List.forall_mem_cons.mpr ⟨rfl, fun line hm => ?_⟩)
    obtain ⟨a, ha, rfl⟩ := List.mem_map.mp hm
    obtain ⟨hname, hexpr⟩ := h a ha
    have hfront : OneLine ("type " ++ a.1 ++ " = ") :=
      (OneLine.append (by simp [OneLine]) hname).append (by simp [OneLine])
    exact openedClasses_other (hfront.append hexpr) (by simp)

theorem opensClasses_function {name root : String} (hn : OneLine name) (hr : OneLine root)
    (client : Json) : OpensClasses (functionText name root client) [] := by
  have hhead : OneLine ("function " ++ name ++ "(input: string) -> " ++ root ++ " \x7b") :=
    (((OneLine.append (by simp [OneLine]) hn).append (by simp [OneLine])).append hr).append
      (by simp [OneLine])
  have hclient : OneLine ("  client " ++ client.quote) :=
    OneLine.append (by simp [OneLine]) (Json.oneLine_quote client)
  refine OpensClasses.others ?_
  simp only [List.forall_mem_cons, List.not_mem_nil, false_imp_iff, implies_true, and_true]
  exact ⟨rfl, openedClasses_other hhead (by simp), openedClasses_other hclient (by simp), rfl, rfl,
    rfl, rfl, rfl⟩

/-! ## Source texts -/

/-- Every source text of what calls have declared opens its classes, each once and in order. -/
theorem openedClasses_sourceText {d : Declarations} (hd : Reached d) {printed : List Class}
    (hp : printed.Perm (d.classes.map (·.2))) {function root : String} (hf : OneLine function)
    (hr : OneLine root) (client : Json) :
    openedClasses (sourceText (d.enums.map fun e => enumText e.1 (e.2.map Json.display)) d.aliases
      (printed.map Class.block) function root client) = printed.map (·.name) := by
  obtain ⟨htidy, -⟩ := Declarations.Tidy.of_reached hd
  have hlegible := hd.legible
  have hword {name : String} (hn : name ∈ d.names) : IsWord name :=
    (typeName_word (htidy.typeNames name hn)).2
  have hline {name : String} (hn : name ∈ d.names) : OneLine name :=
    fun hm => absurd (hword hn _ hm) (by decide)
  have htarget : OpensClasses targetText [] :=
    OpensClasses.others (by decide)
  have henums := OpensClasses.join (fun _ => []) fun e (he : e ∈ d.enums) =>
    opensClasses_enum (hline (Declarations.mem_names.mpr (.inr (.inl ⟨e.2, he⟩))))
      (hlegible.values e he)
  have haliases := opensClasses_aliases fun a ha =>
    ⟨hline (Declarations.mem_names.mpr (.inr (.inr ⟨a.2, ha⟩))), hlegible.aliases a ha⟩
  have hclasses := OpensClasses.join (fun c => [c.name]) fun c (hc : c ∈ printed) => by
    obtain ⟨entry, he, rfl⟩ := List.mem_map.mp (hp.subset hc)
    refine opensClasses_block ?_ (hlegible.fields entry he)
    rw [htidy.own entry he]
    exact hword (Declarations.mem_names.mpr (.inl ⟨entry.2, he⟩))
  have hall := (((htarget.append henums).append haliases).append hclasses).append
    (opensClasses_function hf hr client)
  have hopened := hall ""
  have hnone : openedClasses "" = [] := rfl
  have hnames : d.enums.flatMap (fun _ => ([] : List String)) = [] :=
    List.flatMap_eq_nil_iff.mpr fun _ _ => rfl
  rw [String.append_empty, hnone, hnames, List.append_nil, List.append_nil, List.append_nil,
    List.nil_append, List.nil_append, ← List.map_eq_flatMap] at hopened
  exact hopened

/-- After each of a run of calls the output is closed: every word of the result and of every field
type belongs to the type language or is declared, the order holds each declared class once and
nothing else, and so rendering succeeds and prints each declared class once: the blocks of the classes
stand in the text one behind the other, in this order, and the lines that open a class are theirs. -/
theorem calls_closed {g : Graph} {s : Settings.Translator} {node : Node} {hint : NameHint}
    {d d' : Declarations} {expr : String} (hd : Reached d)
    (hr : Translation.Returns (translate g s node hint) d expr d') :
    d'.Closed expr ∧ (∀ entry ∈ d'.classes, ∀ field ∈ entry.2.fields, d'.Closed field.type) ∧
      d'.order.Perm d'.classNames ∧ d'.order.Nodup ∧ OneLine expr ∧
      ∃ printed : List Class, printed.Perm (d'.classes.map (·.2)) ∧
        printed.map (·.name) = d'.order ∧
        ∀ function root client, ∃ text, d'.render function root client = .ok text ∧
          text = sourceText (d'.enums.map fun e => enumText e.1 (e.2.map Json.display)) d'.aliases
            (printed.map Class.block) function root client ∧
          (∃ front back, text = front ++ String.join (printed.map Class.block) ++ back) ∧
          (OneLine function → OneLine root → openedClasses text = d'.order) := by
  obtain ⟨ht, -⟩ := Declarations.Tidy.of_reached hd
  have hrun := Translation.returns_translate.mp hr
  obtain ⟨-, hs⟩ := Translation.within_completes _ _ _ _ _ _ _ _ ht hrun
  have hreached := Reached.call hd hr
  obtain ⟨ht', hp⟩ := Declarations.Tidy.of_reached hreached
  obtain ⟨-, hexpr⟩ := Translation.within_prints _ _ _ _ _ _ _ _ hd.legible hrun
  obtain ⟨printed, hc, hperm, hnames⟩ := ht'.completed hp
  refine ⟨hs.closed, fun entry he field hf => (ht'.fields entry he field hf).closed,
    ht'.order_perm hp, ht'.order, fun hm => absurd (hexpr.chars _ hm) (by decide), printed, hperm,
    hnames, fun function root client => ⟨_, Declarations.render_eq hc function root client, rfl,
      blocks_infix _ _ _ _ _ _, fun hf hr => ?_⟩⟩
  exact (openedClasses_sourceText hreached hperm hf hr client).trans hnames

/-- Two calls, the second on what the first has declared. -/
theorem calls_closed_link :
    ∃ d d' text, Reached d ∧ Translation.Returns (translate linkTable {} link .none) d "Obj" d' ∧
      d'.Closed "Obj" ∧ d'.order.Perm d'.classNames ∧
      d'.render "GenRoot" "Obj" .null = .ok text ∧ openedClasses text = ["Obj"] := by
  have first : Translation.Returns (translate linkTable {} link .none) {} "Obj"
    (Translation.after (translate linkTable {} link .none) {}) := rfl
  have second : Translation.Returns (translate linkTable {} link .none)
    (Translation.after (translate linkTable {} link .none) {}) "Obj"
    (Translation.after (translate linkTable {} link .none)
      (Translation.after (translate linkTable {} link .none) {})) := rfl
  obtain ⟨hc, -, ho, -, hexpr, printed, -, -, hall⟩ := calls_closed (.call .start first) second
  obtain ⟨text, hrender, -, -, hopened⟩ := hall "GenRoot" "Obj" .null
  exact ⟨_, _, text, .call .start first, second, hc, ho, hrender,
    hopened (by simp [OneLine]) hexpr⟩

end StructuredOutput.Baml
