import StructuredOutput.Proofs.Meaning.Faithful
import StructuredOutput.Proofs.Translation.FieldNames
import StructuredOutput.Proofs.Translation.Log
import StructuredOutput.Proofs.Translation.RecordedReferences

/-! # The objects of a translation and their classes

`objectClasses` lists the objects that a translation meets, each with the class declared for it, in the
order in which the classes are declared; every state it passes through is one that the translator itself
leaves. `within_fills` shows that each of these classes ends up with one field for each member, in order.
Of the types of the fields it knows what is known of every translation that returns, which stays a
parameter. -/
namespace StructuredOutput.Baml.Translation

open Schema (Graph Node Ref)

/-- The members of an object and the name of the class declared for it. -/
structure ObjectClass where
  members : List (String × Node)
  name : String

/-! ## Which objects are met -/

section Meets

variable (g : Graph) (s : Settings.Translator) (inside : Node → NameHint → Translation String)
variable (meets : Node → NameHint → Declarations → List ObjectClass)

def fieldsMeet (name : String) :
    List String → List (String × Node) → Declarations → List ObjectClass
  | _, [], _ => []
  | used, (key, node) :: rest, d =>
    meets node (.text (name ++ "_" ++ key)) d ++
      fieldsMeet name (freeField used (Text.fieldName key) :: used) rest
        (after (fields s inside name used [(key, node)]) d)

def optionsMeet (hint : NameHint) : Nat → List Node → Declarations → List ObjectClass
  | _, [], _ => []
  | index, option :: rest, d =>
    meets option (hint.extend ("U" ++ toString index)) d ++
      optionsMeet hint (index + 1) rest
        (after (inside option (hint.extend ("U" ++ toString index))) d)

/-- An object and those among its fields, which are translated once its class is declared and what
`ready` does is done. -/
def objectMeets (members : List (String × Node)) (hint : NameHint)
    (ready : String → Declarations → Declarations) (d : Declarations) : List ObjectClass :=
  match outcome? (declareClass hint) d with
  | some (name, d₁) => ⟨members, name⟩ :: fieldsMeet s inside meets name [] members (ready name d₁)
  | none => []

def objectExpr (resolved : Node) (name : String) : String :=
  if resolved.mayBeNull then name ++ " | null" else name

def lazyMeets (ref : Ref) (hint : NameHint) (d : Declarations) : List ObjectClass :=
  match d.lazy? ref, g.resolve ref with
  | none, .ok resolved =>
    match resolved.base with
    | .object _ members =>
      objectMeets s inside meets members hint
        (fun name d₁ => d₁.recordLazy ref (objectExpr resolved name)) d
    | _ => meets resolved hint { d with depth := d.depth + 1 }
  | _, _ => []

def coreMeets (node : Node) (hint : NameHint) (d : Declarations) : List ObjectClass :=
  match node with
  | .object _ members => objectMeets s inside meets members hint (fun _ d₁ => d₁) d
  | .array _ candidates _ _ =>
    match g.element candidates with
    | .ok element => if element.isAbsent then [] else meets element (hint.extend "Item") d
    | .error _ => []
  | .record _ key value =>
    let key := if key.isAbsent then .primitive .null (.str "string") else key
    meets key (hint.extend "Key") d ++
      meets value (hint.extend "Val") (after (inside key (hint.extend "Key")) d)
  | .union _ nodes => optionsMeet inside meets hint 0 nodes d
  | .lazy _ name ref => lazyMeets g s inside meets ref ((NameHint.ofJson name).orElse hint) d
  | .bare _ inner => meets inner hint d
  | _ => []

def withinMeets : Nat → Node → NameHint → Declarations → List ObjectClass
  | 0, _, _, _ => []
  | nesting + 1, node, hint, d =>
    coreMeets g s (within g s nesting) (withinMeets nesting) node.base hint d

/-- The objects that the translation of a root meets, each with its class. -/
def objectClasses (node : Node) (hint : NameHint) (d : Declarations) : List ObjectClass :=
  withinMeets g s (g.reach (maxSteps g s d.depth) node) node hint d

end Meets

/-! ## What becomes of their classes -/

variable {g : Graph} {s : Settings.Translator} {inside : Node → NameHint → Translation String}
variable {meets : Node → NameHint → Declarations → List ObjectClass}
variable {d d₁ d₂ d' : Declarations} {hint : NameHint} {expr name : String}
variable {known : Ref → String → Prop} {least : Int} {typed : Node → String → Prop}

/-- A field that stands for a member: by its key, by whether it may be left out, by its description, and
by its type. -/
structure FieldFor (typed : Node → String → Prop) (field : Field) (member : String × Node) :
    Prop where
  source : field.source = member.1
  optional : field.optional = member.2.mayBeAbsent
  description : field.description = member.2.said
  type : typed member.2 field.type

/-- The class of an object has a field for each member, named as if nothing else had been translated
between the fields. -/
def Filled (typed : Node → String → Prop) (d : Declarations) (o : ObjectClass) : Prop :=
  ∃ c, (o.name, c) ∈ d.classes ∧ List.Forall₂ (FieldFor typed) c.fields o.members ∧
    c.fields.map Field.title = titles [] (o.members.map (·.1))

theorem Filled.grows {o : ObjectClass} (h : Filled typed d o) (hg : d.Grows d') :
    Filled typed d' o := by
  obtain ⟨c, hc, hf⟩ := h
  exact ⟨c, hg.classes.subset hc, hf⟩

theorem Filled.addField {o : ObjectClass} (h : Filled typed d o) (hne : o.name ≠ name)
    (field : Field) : Filled typed (d.addField name field) o := by
  obtain ⟨c, hc, hf⟩ := h
  exact ⟨c, List.mem_map.mpr ⟨_, hc, by simp [hne]⟩, hf⟩

/-- Translating the fields of another class leaves a class as it is. -/
theorem Filled.fields (hst : Steady inside) {members : List (String × Node)} {o : ObjectClass}
    (hne : o.name ≠ name) : ∀ {used : List String} {d : Declarations}, Filled typed d o →
      Returns (fields s inside name used members) d () d' → Filled typed d' o := by
  induction members with
  | nil =>
    intro used d h hr
    cases returns_fields_nil.mp hr
    exact h
  | cons member rest ih =>
    intro used d h hr
    obtain ⟨peeled, type, d₁, -, hin, hrest⟩ := returns_fields_cons.mp hr
    exact ih ((h.grows (hst.returns hin)).addField hne _) hrest

/-- What is known of each recorded expression, and from where on the counter goes. -/
structure Notes (known : Ref → String → Prop) (least : Int) (d : Declarations) : Prop where
  recorded : ∀ ref expr, d.lazy? ref = some expr → known ref expr
  counter : least ≤ d.counter

theorem Notes.congr (h : Notes known least d) (hl : d'.lazies = d.lazies)
    (hc : d.counter ≤ d'.counter) : Notes known least d' := by
  refine ⟨fun ref expr hx => h.recorded ref expr ?_, h.counter.trans hc⟩
  unfold Declarations.lazy? at hx ⊢
  rwa [← hl]

theorem Notes.declareClass (h : Notes known least d) (hd : Returns (declareClass hint) d name d') :
    Notes known least d' :=
  h.congr (declareClass_lazies hd) (hd.after_eq ▸ grows_declareClass hint d).counter

theorem Notes.recordLazy (h : Notes known least d) {ref : Ref} (hk : known ref expr) :
    Notes known least (d.recordLazy ref expr) := by
  refine ⟨fun ref' expr' hx => ?_, h.counter⟩
  rw [Declarations.lazy?_recordLazy] at hx
  split at hx
  · rename_i he
    cases hx
    exact he ▸ hk
  · exact h.recorded ref' expr' hx

/-- What is known of every translation that returns, and of what it records. -/
def Types (known : Ref → String → Prop) (least : Int) (typed : Node → String → Prop)
    (inside : Node → NameHint → Translation String) : Prop :=
  ∀ node hint d expr d', Notes known least d → Returns (inside node hint) d expr d' →
    Notes known least d' ∧ typed node expr

/-- What is known of the expression for an object behind a reference, before its fields are
translated. -/
def KnowsObjects (g : Graph) (known : Ref → String → Prop) (least : Int) : Prop :=
  ∀ ref resolved description members hint d name d', g.resolve ref = .ok resolved →
    resolved.base = .object description members → least ≤ d.counter →
    Returns (declareClass hint) d name d' → known ref (objectExpr resolved name)

/-- The classes declared between two states are those of the objects, in order, and are filled. Their
names are new and distinct. -/
structure Fills (typed : Node → String → Prop) (d d' : Declarations) (met : List ObjectClass) :
    Prop where
  names : d'.classNames = d.classNames ++ met.map (·.name)
  fresh : ∀ o ∈ met, o.name ∉ d.classNames
  distinct : (met.map (·.name)).Nodup
  filled : ∀ o ∈ met, Filled typed d' o

theorem Fills.refl (d : Declarations) : Fills typed d d [] :=
  ⟨by simp, by simp, by simp, by simp⟩

theorem Fills.congr {met : List ObjectClass} {d₀ d₀' : Declarations} (h : Fills typed d d' met)
    (hd : d₀.classes = d.classes) (hd' : d₀'.classes = d'.classes) : Fills typed d₀ d₀' met := by
  have hn : d₀.classNames = d.classNames := by rw [Declarations.classNames, hd]; rfl
  have hn' : d₀'.classNames = d'.classNames := by rw [Declarations.classNames, hd']; rfl
  refine ⟨by rw [hn', hn, h.names], fun o hm => hn ▸ h.fresh o hm, h.distinct, fun o hm => ?_⟩
  obtain ⟨c, hc, hf⟩ := h.filled o hm
  exact ⟨c, hd' ▸ hc, hf⟩

/-- One after the other, when the second leaves the classes of the first as they are. -/
theorem Fills.append {met more : List ObjectClass} (h : Fills typed d d₁ met)
    (h' : Fills typed d₁ d' more) (hkeep : ∀ o ∈ met, Filled typed d₁ o → Filled typed d' o) :
    Fills typed d d' (met ++ more) := by
  refine ⟨?_, fun o hm => ?_, ?_, fun o hm => ?_⟩
  · rw [h'.names, h.names, List.map_append, List.append_assoc]
  · rcases List.mem_append.mp hm with hm | hm
    · exact h.fresh o hm
    · intro hd
      refine h'.fresh o hm ?_
      rw [h.names]
      exact List.mem_append_left _ hd
  · rw [List.map_append]
    refine h.distinct.append h'.distinct fun name hn hn' => ?_
    obtain ⟨o, hm, rfl⟩ := List.mem_map.mp hn'
    refine h'.fresh o hm ?_
    rw [h.names]
    exact List.mem_append_right _ hn
  · rcases List.mem_append.mp hm with hm | hm
    · exact hkeep o hm (h.filled o hm)
    · exact h'.filled o hm

/-- The class of an object is found under its name. -/
theorem Fills.class? {met : List ObjectClass} (h : Fills typed d d' met) (hg : d.Grows d')
    {o : ObjectClass} (hm : o ∈ met) {c : Class} (hc : (o.name, c) ∈ d'.classes) :
    d'.class? o.name = some c := by
  obtain ⟨new, hnew⟩ := hg.classes
  have hnames := h.names
  simp only [Declarations.classNames, ← hnew, List.map_append] at hnames
  have hdistinct := h.distinct
  rw [← List.append_cancel_left hnames] at hdistinct
  rw [← hnew] at hc
  rw [Declarations.class?, ← hnew]
  exact Json.find?_append_of_mem (h.fresh o hm) hdistinct hc

def Meets (known : Ref → String → Prop) (least : Int) (typed : Node → String → Prop)
    (inside : Node → NameHint → Translation String)
    (meets : Node → NameHint → Declarations → List ObjectClass) : Prop :=
  ∀ node hint d expr d', Notes known least d → Returns (inside node hint) d expr d' →
    Fills typed d d' (meets node hint d)

/-- The fields of a class come one by one, each for its member. The class is the only one that does not
stay as it is, and no object among its fields is declared under its name. -/
theorem fields_fill (hi : Meets known least typed inside meets) (ht : Types known least typed inside)
    (hst : Steady inside) {rest : List (String × Node)} :
    ∀ {done : List (String × Node)} {used : List String} {d : Declarations} {c : Class},
      Notes known least d → (name, c) ∈ d.classes → List.Forall₂ (FieldFor typed) c.fields done →
      (∀ keys, titles [] (done.map (·.1) ++ keys) = c.fields.map Field.title ++ titles used keys) →
      Returns (fields s inside name used rest) d () d' →
      Fills typed d d' (fieldsMeet s inside meets name used rest d) ∧
        Filled typed d' ⟨done ++ rest, name⟩ := by
  induction rest with
  | nil =>
    intro done used d c _ hc hf htitles hr
    cases returns_fields_nil.mp hr
    rw [List.append_nil]
    have hall := htitles []
    rw [List.append_nil, titles, List.append_nil] at hall
    exact ⟨.refl _, c, hc, hf, hall.symm⟩
  | cons member rest ih =>
    obtain ⟨key, node⟩ := member
    intro done used d c hn hc hf htitles hr
    obtain ⟨peeled, type, d₁, hpeel, hin, hrest⟩ := returns_fields_cons.mp hr
    have hone : Returns (fields s inside name used [(key, node)]) d ()
        (d₁.addField name (newField used key type peeled)) :=
      returns_fields_cons.mpr ⟨peeled, type, d₁, hpeel, hin, returns_fields_nil.mpr rfl⟩
    obtain ⟨hn₁, htype⟩ := ht _ _ _ _ _ hn hin
    have hfill := hi _ _ _ _ _ hn hin
    have hc₁ : (name, c) ∈ d₁.classes := (hst.returns hin).classes.subset hc
    have hf₂ : List.Forall₂ (FieldFor typed) (c.fields ++ [newField used key type peeled])
        (done ++ [(key, node)]) :=
      List.rel_append hf (.cons
        ⟨newField_source, (Schema.peel_ok hpeel).2.1, Schema.peel_said hpeel, htype⟩ .nil)
    have htitles₂ (keys : List String) : titles [] ((done ++ [(key, node)]).map (·.1) ++ keys) =
        (c.fields ++ [newField used key type peeled]).map Field.title ++
          titles ((newField used key type peeled).name :: used) keys := by
      rw [List.map_append, List.append_assoc, List.map_append, List.append_assoc]
      exact htitles (key :: keys)
    have hn₂ : Notes known least (d₁.addField name (newField used key type peeled)) :=
      hn₁.congr rfl le_rfl
    obtain ⟨hmore, hclass⟩ := ih hn₂ (Rostered.mem_addField hc₁ _) hf₂ htitles₂ hrest
    rw [List.append_assoc, List.singleton_append] at hclass
    rw [fieldsMeet, hone.after_eq]
    refine ⟨?_, hclass⟩
    have hname : ∀ o ∈ meets node (.text (name ++ "_" ++ key)) d, o.name ≠ name :=
      fun o hm he => hfill.fresh o hm (he ▸ List.mem_map_of_mem hc)
    have hadded : Fills typed d (d₁.addField name (newField used key type peeled))
        (meets node (.text (name ++ "_" ++ key)) d) :=
      ⟨by rw [Declarations.classNames_addField, hfill.names], hfill.fresh, hfill.distinct,
        fun o hm => (hfill.filled o hm).addField (hname o hm) _⟩
    exact hadded.append hmore fun o hm hfilled => hfilled.fields hst (hname o hm) hrest

theorem options_fill (hi : Meets known least typed inside meets) (ht : Types known least typed inside)
    (hst : Steady inside) {nodes : List Node} :
    ∀ {index : Nat} {parts : List String} {d : Declarations}, Notes known least d →
      Returns (options inside hint index nodes) d parts d' →
      Fills typed d d' (optionsMeet inside meets hint index nodes d) := by
  induction nodes with
  | nil =>
    intro index parts d _ hr
    obtain ⟨-, rfl⟩ := returns_options_nil.mp hr
    exact .refl d
  | cons node rest ih =>
    intro index parts d hn hr
    obtain ⟨first, others, d₁, hin, hoptions, rfl⟩ := returns_options_cons.mp hr
    rw [optionsMeet, hin.after_eq]
    have hgrows : d₁.Grows d' := hoptions.after_eq ▸ grows_options hst rest (index + 1) d₁
    exact (hi _ _ _ _ _ hn hin).append (ih (ht _ _ _ _ _ hn hin).1 hoptions)
      fun o _ hfilled => hfilled.grows hgrows

/-- The class of an object is declared, filled and completed. -/
theorem object_fills (hi : Meets known least typed inside meets) (ht : Types known least typed inside)
    (hst : Steady inside) {members : List (String × Node)}
    {ready : String → Declarations → Declarations}
    (hready : ∀ name d, (ready name d).classes = d.classes) (hn : Notes known least (ready name d₁))
    (hd : Returns (declareClass hint) d name d₁)
    (hf : Returns (fields s inside name [] members) (ready name d₁) () d₂) :
    Fills typed d (d₂.completeClass name) (objectMeets s inside meets members hint ready d) := by
  unfold objectMeets
  rw [hd.outcome_eq]
  have hfresh : name ∉ d.classNames := declareClass_fresh hd
  obtain ⟨text, -, hdecl⟩ := returns_declareClass.mp hd
  have hclasses : (ready name d₁).classes = d.classes ++ [(name, ⟨name, []⟩)] := by
    rw [hready]
    cases hdecl
    rfl
  have hnames : (ready name d₁).classNames = d.classNames ++ [name] := by
    unfold Declarations.classNames
    rw [hclasses, List.map_append]
    rfl
  have hclass : (name, (⟨name, []⟩ : Class)) ∈ (ready name d₁).classes := by
    rw [hclasses]
    exact List.mem_append_right _ List.mem_cons_self
  obtain ⟨hmore, hdone⟩ := fields_fill hi ht hst hn hclass .nil (fun _ => rfl) hf
  refine ⟨?_, fun o hm => ?_, List.nodup_cons.mpr ⟨fun hm => ?_, hmore.distinct⟩, fun o hm => ?_⟩
  · change d₂.classNames = _
    rw [hmore.names, hnames, List.append_assoc]
    rfl
  · rcases List.mem_cons.mp hm with rfl | hm
    · exact hfresh
    · intro hd
      refine hmore.fresh o hm ?_
      rw [hnames]
      exact List.mem_append_left _ hd
  · obtain ⟨o, hm, he⟩ := List.mem_map.mp hm
    refine hmore.fresh o hm ?_
    rw [hnames, he]
    exact List.mem_append_right _ List.mem_cons_self
  · rcases List.mem_cons.mp hm with rfl | hm
    · exact hdone
    · exact hmore.filled o hm

/-- An enumeration holds no objects. -/
theorem coreMeets_enum {node : Node} {values : Json} (hv : node.enumValues? = some values) :
    coreMeets g s inside meets node hint d = [] := by
  cases node with
  | enumeration | memberEnum => rfl
  | foreign | thunk | bare | primitive | literal | object | array | record | union | lazy | wrapper
  | pipeline => cases hv

theorem lazyMeets_object {ref : Ref} {resolved : Node} {description : Json}
    {members : List (String × Node)} (hnone : d.lazy? ref = none) (hres : g.resolve ref = .ok resolved)
    (hb : resolved.base = .object description members) :
    lazyMeets g s inside meets ref hint d =
      objectMeets s inside meets members hint
        (fun name d₁ => d₁.recordLazy ref (objectExpr resolved name)) d := by
  rw [lazyMeets, hnone, hres]
  simp only [hb]

theorem lazyMeets_other {ref : Ref} {resolved : Node} (hnone : d.lazy? ref = none)
    (hres : g.resolve ref = .ok resolved)
    (hb : ∀ description members, resolved.base ≠ .object description members) :
    lazyMeets g s inside meets ref hint d = meets resolved hint { d with depth := d.depth + 1 } := by
  rw [lazyMeets, hnone, hres]
  dsimp only
  split
  · rename_i hbase
    exact absurd hbase (hb _ _)
  · rfl

theorem core_fills (hi : Meets known least typed inside meets) (ht : Types known least typed inside)
    (hst : Steady inside) (hk : KnowsObjects g known least) {node : Node} (hn : Notes known least d)
    (hr : Returns (core g s inside node hint) d expr d') :
    Fills typed d d' (coreMeets g s inside meets node hint d) := by
  cases core_cases hr with
  | object hd hf =>
    exact object_fills hi ht hst (fun _ _ => rfl) (hn.declareClass hd) hd hf
  | primitive | literal => exact .refl d
  | strings he ha =>
    rw [coreMeets, he]
    simp only [ha, if_true]
    exact .refl d
  | array he ha hin =>
    rw [coreMeets, he]
    simp only [ha, Bool.false_eq_true, if_false]
    exact hi _ _ _ _ _ hn hin
  | anyString hv =>
    rw [coreMeets_enum hv]
    exact .refl d
  | names hv | literals hv =>
    rw [coreMeets_enum hv]
    exact (Fills.refl d).congr rfl rfl
  | record ha hkey hvalue =>
    rw [coreMeets]
    simp only [hkey.after_eq]
    exact (hi _ _ _ _ _ hn hkey).append (hi _ _ _ _ _ (ht _ _ _ _ _ hn hkey).1 hvalue)
      fun o _ hfilled => hfilled.grows (hst.returns hvalue)
  | union _ ho => exact options_fill hi ht hst hn ho
  | bare _ hin => exact hi _ _ _ _ _ hn hin
  | reused hl =>
    rw [coreMeets, lazyMeets, hl]
    exact .refl d
  | lazyObject hnone hres hp hobj hd hexpr hf =>
    rename_i description description' lazyName ref resolved target members class_ d₁ d₂
    obtain ⟨hb, -, hu⟩ := Schema.peel_ok hp
    have hbase : resolved.base = .object description' members := by rw [← hb, hobj]
    have hexpr : expr = objectExpr resolved class_ := by rw [hexpr, hu]; rfl
    have hn₁ : Notes known least d₁ := hn.declareClass hd
    rw [coreMeets, lazyMeets_object hnone hres hbase]
    rw [hexpr] at hf
    exact object_fills hi ht hst (fun _ _ => rfl)
      (hn₁.recordLazy (hk _ _ _ _ _ _ _ _ hres hbase hn.counter hd)) hd hf
  | lazyOther hnone hres hp hother _ hin =>
    obtain ⟨hb, -, -⟩ := Schema.peel_ok hp
    have hn₁ : Notes known least { d with depth := d.depth + 1 } := hn.congr rfl le_rfl
    rw [coreMeets, lazyMeets_other hnone hres (hb ▸ hother)]
    exact (hi _ _ _ _ _ hn₁ hin).congr rfl rfl

theorem step_fills (hi : Meets known least typed inside meets) (ht : Types known least typed inside)
    (hst : Steady inside) (hk : KnowsObjects g known least) :
    Meets known least typed (step g s inside)
      fun node hint d => coreMeets g s inside meets node.base hint d := by
  intro node hint d expr d' hn hr
  obtain ⟨peeled, type, hp, hc, -⟩ := returns_step.mp hr
  rw [(Schema.peel_ok hp).1] at hc
  exact core_fills hi ht hst hk hn hc

/-- The classes that a translation declares are those of the objects it meets, and each is filled. -/
theorem within_fills (ht : ∀ nesting, Types known least typed (within g s nesting))
    (hk : KnowsObjects g known least) (nesting : Nat) :
    Meets known least typed (within g s nesting) (withinMeets g s nesting) := by
  induction nesting with
  | zero => intro node hint d expr d' _ hr; exact (returns_throw hr).elim
  | succ nesting ih => exact step_fills ih (ht nesting) (within_steady g s nesting) hk

/-- An object is the first that its own translation meets. -/
theorem objectClasses_of_object {node : Node} {description : Json} {members : List (String × Node)}
    (hr : Returns (translate g s node hint) d expr d')
    (hb : node.base = .object description members) :
    ∃ name more, objectClasses g s node hint d = ⟨members, name⟩ :: more := by
  unfold objectClasses
  rw [returns_translate] at hr
  cases hnesting : g.reach (maxSteps g s d.depth) node with
  | zero =>
    rw [hnesting] at hr
    exact (returns_throw hr).elim
  | succ nesting =>
    rw [hnesting] at hr
    obtain ⟨peeled, type, hp, hc, -⟩ := returns_step.mp hr
    rw [(Schema.peel_ok hp).1, hb] at hc
    rw [withinMeets, hb, coreMeets, objectMeets]
    cases core_cases hc with
    | object hd _ =>
      rw [hd.outcome_eq]
      exact ⟨_, _, rfl⟩
    | anyString hv | names hv | literals hv => cases hv

/-- The class of each object has a field for each of its members, named after the keys. Nothing has to be
known of the types of the fields for that. -/
theorem objectClasses_fields {node : Node} (hr : Returns (translate g s node hint) d expr d') :
    d'.classNames = d.classNames ++ (objectClasses g s node hint d).map (·.name) ∧
      ∀ o ∈ objectClasses g s node hint d, ∃ c, d'.class? o.name = some c ∧
        List.Forall₂ (FieldFor fun _ _ => True) c.fields o.members ∧
        NamedAfter (o.members.map (·.1)) c.fields := by
  have ht (nesting : Nat) : Types (fun _ _ => True) d.counter (fun _ _ => True) (within g s nesting) :=
    fun _ _ _ _ _ hn hin =>
      ⟨⟨fun _ _ _ => trivial, hn.counter.trans ((within_steady g s nesting).returns hin).counter⟩,
        trivial⟩
  have hk : KnowsObjects g (fun _ _ => True) d.counter := fun _ _ _ _ _ _ _ _ _ _ _ _ => trivial
  have hrun := returns_translate.mp hr
  have hfill := within_fills ht hk _ _ _ _ _ _ ⟨fun _ _ _ => trivial, le_rfl⟩ hrun
  refine ⟨hfill.names, fun o hm => ?_⟩
  obtain ⟨c, hc, hf, htitles⟩ := hfill.filled o hm
  exact ⟨c, hfill.class? ((within_steady g s _).returns hrun) hm hc, hf, namedAfter_of_titles htitles⟩

theorem objectClasses_named {node : Node} (hr : Returns (translate g s node hint) d expr d') :
    d'.classNames = d.classNames ++ (objectClasses g s node hint d).map (·.name) ∧
      ∀ o ∈ objectClasses g s node hint d, ∃ c, d'.class? o.name = some c ∧
        NamedAfter (o.members.map (·.1)) c.fields := by
  obtain ⟨hnames, hall⟩ := objectClasses_fields hr
  refine ⟨hnames, fun o hm => ?_⟩
  obtain ⟨c, hc, -, hnamed⟩ := hall o hm
  exact ⟨c, hc, hnamed⟩

/-- From nothing declared: each declared class belongs to one of the objects that were met, and has a
field for each of its members. -/
theorem objectClasses_filled (ht : ∀ nesting, Types known 0 typed (within g s nesting))
    (hk : KnowsObjects g known 0) {node : Node}
    (hr : Returns (translate g s node hint) {} expr d) :
    (objectClasses g s node hint {}).map (·.name) = d.classNames ∧
      ∀ o ∈ objectClasses g s node hint {}, ∃ c, d.class? o.name = some c ∧
        List.Forall₂ (FieldFor typed) c.fields o.members := by
  have hn : Notes known 0 {} := ⟨fun _ _ hx => (nomatch hx), le_rfl⟩
  have hrun := returns_translate.mp hr
  have hfill := within_fills ht hk _ _ _ _ _ _ hn hrun
  refine ⟨hfill.names.symm, fun o hm => ?_⟩
  obtain ⟨c, hc, hf, -⟩ := hfill.filled o hm
  exact ⟨c, hfill.class? ((within_steady g s _).returns hrun) hm hc, hf⟩

end StructuredOutput.Baml.Translation
