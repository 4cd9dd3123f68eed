import StructuredOutput.Proofs.Translation.Log

/-! # Where declarations come from

The sites of a definition are its objects and its enumerations with values, references not followed.
Each time a definition is entered, every one of its sites declares once; so the places that have
declared are the sites of the root and those of every definition that was entered, as often as it
was entered. -/
namespace StructuredOutput.Baml.Translation

open Schema (Graph Node Ref Parsed)

mutual

def sites (place : Place) : Node → List Place
  | .object _ members => place :: membersSites place 0 members
  | .enumeration _ values => if values.truthy then [place] else []
  | .array _ candidates _ _ => listSites place 0 candidates
  | .record _ key value => sites (place.child 0) key ++ sites (place.child 1) value
  | .union _ options => listSites place 0 options
  | .wrapper _ _ inner => sites place inner
  | .pipeline _ inner source => if inner.isAbsent then sites place source else sites place inner
  | _ => []

def listSites (place : Place) (index : Nat) : List Node → List Place
  | [] => []
  | node :: rest => sites (place.child index) node ++ listSites place (index + 1) rest

def membersSites (place : Place) (index : Nat) : List (String × Node) → List Place
  | [] => []
  | (_, node) :: rest => sites (place.child index) node ++ membersSites place (index + 1) rest

end

/-- The sites of the definition behind a reference. -/
def definitionSites (g : Graph) (ref : Ref) : List Place :=
  match g.resolve ref with
  | .ok node => sites (.ofRef ref) node
  | .error _ => []

theorem definitionSites_ok {g : Graph} {ref : Ref} {node : Node} (h : g.resolve ref = .ok node) :
    definitionSites g ref = sites (.ofRef ref) node := by
  rw [definitionSites, h]

@[simp] theorem sites_base (place : Place) : ∀ node, sites place node.base = sites place node
  | .wrapper _ _ inner => by
    rw [Node.base, sites_base place inner, sites]
  | .pipeline _ inner source => by
    rw [Node.base, sites]
    split
    · exact sites_base place source
    · exact sites_base place inner
  | .foreign _ | .thunk _ | .bare .. | .primitive .. | .literal .. | .object .. | .array ..
  | .enumeration .. | .memberEnum .. | .record .. | .union .. | .lazy .. => rfl

theorem membersSites_eq (place : Place) (members : List (String × Node)) :
    ∀ index, membersSites place index members = listSites place index (members.map (·.2)) := by
  induction members with
  | nil => intro index; simp [membersSites, listSites]
  | cons member rest ih =>
    intro index
    rw [List.map_cons, membersSites, listSites, ih]

/-! ## No two sites are the same -/

namespace Place

def Under (place below : Place) : Prop :=
  place.entry = below.entry ∧ place.path <+: below.path

theorem under_refl (place : Place) : place.Under place := ⟨rfl, List.prefix_rfl⟩

theorem under_of_child {place below : Place} {index : Nat} (h : (place.child index).Under below) :
    place.Under below :=
  ⟨h.1, (List.prefix_append _ _).trans h.2⟩

theorem not_under_child (place : Place) (index : Nat) : ¬ (place.child index).Under place := by
  intro h
  have hle := h.2.length_le
  simp [child] at hle

/-- Different parts have different places under them. -/
theorem child_inj {place below : Place} {i j : Nat} (hi : (place.child i).Under below)
    (hj : (place.child j).Under below) : i = j := by
  have hp : place.path ++ [i] <+: place.path ++ [j] :=
    List.prefix_of_prefix_length_le hi.2 hj.2 (by simp)
  have he := hp.eq_of_length (by simp)
  simpa using he

end Place

theorem listSites_under {place : Place} {nodes : List Node}
    (h : ∀ node ∈ nodes, ∀ place, ∀ p ∈ sites place node, place.Under p) :
    ∀ {index : Nat}, ∀ p ∈ listSites place index nodes, ∃ j, index ≤ j ∧ (place.child j).Under p := by
  induction nodes with
  | nil => intro index p hp; simp [listSites] at hp
  | cons node rest ih =>
    intro index p hp
    rw [listSites] at hp
    rcases List.mem_append.mp hp with hp | hp
    · exact ⟨index, Nat.le_refl _, h node List.mem_cons_self _ p hp⟩
    · obtain ⟨j, hj, hu⟩ := ih (fun node hm => h node (List.mem_cons_of_mem _ hm)) p hp
      exact ⟨j, Nat.le_of_succ_le hj, hu⟩

theorem listSites_nodup {place : Place} {nodes : List Node}
    (h : ∀ node ∈ nodes, ∀ place, (∀ p ∈ sites place node, place.Under p) ∧ (sites place node).Nodup) :
    ∀ {index : Nat}, (listSites place index nodes).Nodup := by
  induction nodes with
  | nil => intro index; simp [listSites]
  | cons node rest ih =>
    intro index
    have hrest : ∀ node ∈ rest, _ := fun node hm => h node (List.mem_cons_of_mem _ hm)
    rw [listSites]
    refine List.Nodup.append (h node List.mem_cons_self _).2 (ih hrest) fun p hp hp' => ?_
    obtain ⟨j, hj, hu⟩ := listSites_under (fun node hm place => (hrest node hm place).1) p hp'
    have he := Place.child_inj ((h node List.mem_cons_self _).1 p hp) hu
    omega

/-- The sites of a node lie under it, each at a place of its own. -/
theorem sites_spec {node : Node} (h : Parsed node) :
    ∀ place, (∀ p ∈ sites place node, place.Under p) ∧ (sites place node).Nodup := by
  have hparts (place : Place) (nodes : List Node)
      (ih : ∀ node ∈ nodes, ∀ place, (∀ p ∈ sites place node, place.Under p) ∧
        (sites place node).Nodup) :
      (∀ p ∈ listSites place 0 nodes, place.Under p ∧ p ≠ place) ∧
        (listSites place 0 nodes).Nodup := by
    refine ⟨fun p hp => ?_, listSites_nodup ih⟩
    obtain ⟨j, -, hu⟩ := listSites_under (fun node hm place => (ih node hm place).1) p hp
    refine ⟨Place.under_of_child hu, ?_⟩
    rintro rfl
    exact Place.not_under_child p j hu
  induction h with
  | lazy | primitive | literal => intro place; simp [sites]
  | enumeration =>
    intro place
    rw [sites]
    split
    · simp [Place.under_refl]
    · simp
  | wrapper _ ih => intro place; simpa [sites] using ih place
  | array _ ih =>
    intro place
    have h := hparts place [_] (fun node hm => List.mem_singleton.mp hm ▸ ih)
    rw [sites]
    exact ⟨fun p hp => (h.1 p hp).1, h.2⟩
  | anyArray => intro place; simp [sites, listSites, Node.absent]
  | object hm ih =>
    intro place
    have h := hparts place _ (fun node hm => by
      obtain ⟨member, hin, rfl⟩ := List.mem_map.mp hm
      exact ih member hin)
    rw [sites, membersSites_eq]
    refine ⟨fun p hp => ?_, List.nodup_cons.mpr ⟨fun hp => (h.1 place hp).2 rfl, h.2⟩⟩
    rcases List.mem_cons.mp hp with rfl | hp
    · exact Place.under_refl p
    · exact (h.1 p hp).1
  | record hk hv ihk ihv =>
    intro place
    have h := hparts place [_, _] (List.forall_mem_cons.mpr
      ⟨ihk, fun node hm => List.mem_singleton.mp hm ▸ ihv⟩)
    simp only [listSites, List.append_nil] at h
    rw [sites]
    exact ⟨fun p hp => (h.1 p hp).1, h.2⟩
  | anyRecord hv ih =>
    intro place
    have habsent : sites (place.child 0) .absent = [] := by simp [sites, Node.absent]
    rw [sites, habsent, List.nil_append]
    exact ⟨fun p hp => Place.under_of_child ((ih _).1 p hp), (ih _).2⟩
  | union hm ih =>
    intro place
    have h := hparts place _ ih
    rw [sites]
    exact ⟨fun p hp => (h.1 p hp).1, h.2⟩

/-! ## What a log has declared -/

def declaredNames (events : List Event) : List String :=
  events.filterMap fun
    | .declares _ name => some name
    | _ => none

def declaredPlaces (events : List Event) : List Place :=
  events.filterMap fun
    | .declares place _ => some place
    | _ => none

def enteredRefs (events : List Event) : List Ref :=
  events.filterMap fun
    | .enters ref => some ref
    | _ => none

section Projections

variable (events events' : List Event) (place : Place) (name : String) (ref : Ref) (expr : String)

theorem declaredNames_append :
    declaredNames (events ++ events') = declaredNames events ++ declaredNames events' :=
  List.filterMap_append

theorem declaredPlaces_append :
    declaredPlaces (events ++ events') = declaredPlaces events ++ declaredPlaces events' :=
  List.filterMap_append

theorem enteredRefs_append :
    enteredRefs (events ++ events') = enteredRefs events ++ enteredRefs events' :=
  List.filterMap_append

theorem declaredNames_declares :
    declaredNames (.declares place name :: events) = name :: declaredNames events := rfl

theorem declaredPlaces_declares :
    declaredPlaces (.declares place name :: events) = place :: declaredPlaces events := rfl

theorem enteredRefs_declares : enteredRefs (.declares place name :: events) = enteredRefs events :=
  rfl

theorem declaredNames_entered :
    declaredNames (.enters ref :: events ++ [.leaves ref expr]) = declaredNames events := by
  simp [declaredNames]

theorem declaredPlaces_entered :
    declaredPlaces (.enters ref :: events ++ [.leaves ref expr]) = declaredPlaces events := by
  simp [declaredPlaces]

theorem enteredRefs_entered :
    enteredRefs (.enters ref :: events ++ [.leaves ref expr]) = ref :: enteredRefs events := by
  simp [enteredRefs]

end Projections

variable {g : Graph} {s : Settings.Translator} {work : Work} {d d' : Declarations}
variable {result : List String} {events : List Event}

theorem declareClass_names {hint : NameHint} {name : String}
    (h : Returns (declareClass hint) d name d') : d'.names.Perm (name :: d.names) := by
  obtain ⟨text, -, hd⟩ := returns_declareClass.mp h
  have hp := (d.gains_class text).names
  rw [hd] at hp
  cases hd
  exact hp

/-- An enumeration with values declares an enum or an alias, and nothing else changes. -/
theorem enumType_declares {values : Json} {hint : NameHint} {name : String}
    (ht : values.truthy = true) (h : Returns (enumType values hint) d name d') :
    (∃ text items, d.declareEnum text items = (name, d')) ∨
      ∃ text alternatives, d.declareAlias text alternatives = (name, d') := by
  have hv : (Node.enumeration .null values).enumValues? = some values := rfl
  have hc : CoreReturns .empty {} (fun _ _ => pure "") hint d (.enumeration .null values) name d' :=
    enumType_cases hv h
  cases hc with
  | anyString hv hf =>
    cases hv
    rw [ht] at hf
    cases hf
  | names => exact .inl ⟨_, _, rfl⟩
  | literals => exact .inr ⟨_, _, rfl⟩

theorem enumType_names {values : Json} {hint : NameHint} {name : String} (ht : values.truthy = true)
    (h : Returns (enumType values hint) d name d') : d'.names.Perm (name :: d.names) := by
  rcases enumType_declares ht h with ⟨text, items, he⟩ | ⟨text, alternatives, he⟩
  · have hp := (d.gains_enum text items).names
    rw [he] at hp
    cases he
    exact hp
  · have hp := (d.gains_alias text alternatives).names
    rw [he] at hp
    cases he
    exact hp

theorem perm_names_trans {names names' declared before after : List String}
    (h : before.Perm (names ++ declared)) (h' : after.Perm (names' ++ before)) :
    after.Perm (names ++ names' ++ declared) := by
  refine h'.trans ((h.append_left names').trans ?_)
  rw [List.append_assoc]
  exact List.perm_append_comm_assoc _ _ _

/-- The names in a log are those that its translation has added. -/
theorem Logs.names (h : Logs g s work d result d' events) :
    d'.names.Perm (declaredNames events ++ d.names) := by
  induction h with
  | plain | reused | noFields | noOptions => exact .refl _
  | enum ht hr => exact enumType_names ht hr
  | array _ _ ih | union _ ih | step _ ih => exact ih
  | record _ _ _ ih ih' | option _ _ ih ih' =>
    rw [declaredNames_append]
    exact perm_names_trans ih ih'
  | field _ _ ih ih' =>
    rw [Declarations.names_addField] at ih'
    rw [declaredNames_append]
    exact perm_names_trans ih ih'
  | @object _ _ _ _ d d₁ _ name _ hd _ ih =>
    have hone : d₁.names.Perm ([name] ++ d.names) := declareClass_names hd
    exact perm_names_trans hone ih
  | @lazyObject _ _ _ _ _ _ _ _ _ d d₁ d₂ class_ _ events _ _ _ hd _ ih =>
    rw [declaredNames_entered, declaredNames_declares]
    have hone : d₁.names.Perm ([class_] ++ d.names) := declareClass_names hd
    exact perm_names_trans hone ih
  | lazyOther _ _ _ _ ih =>
    rw [declaredNames_entered]
    exact ih

theorem count_flatMap (sitesOf : Ref → List Place) (refs refs' : List Ref) (p : Place) :
    ((refs ++ refs').flatMap sitesOf).count p =
      (refs.flatMap sitesOf).count p + (refs'.flatMap sitesOf).count p := by
  rw [List.flatMap_append, List.count_append]

/-- What the work itself declares, references not followed. -/
def Work.sites : Work → List Place
  | .node place tree _ => Translation.sites place tree
  | .core place tree _ => Translation.sites place tree
  | .fields place _ used members => membersSites place used.length members
  | .options place _ index nodes => listSites place index nodes

theorem sites_lazy (place : Place) (description name : Json) (ref : Ref) :
    sites place (.lazy description name ref) = [] := by
  simp [sites]

theorem sites_absent {node : Node} (h : node.isAbsent = true) (place : Place) :
    sites place node = [] := by
  unfold Node.isAbsent at h
  split at h
  · simp [sites]
  · cases h

/-- The node that stands for the keys of a record has the sites of the given one. -/
theorem sites_key (key : Node) (place : Place) :
    sites place (if key.isAbsent then .primitive .null (.str "string") else key) =
      sites place key := by
  split
  · rename_i ha
    rw [sites_absent ha]
    simp [sites]
  · rfl

theorem sites_of_plainType? {node : Node} {type : String} (h : plainType? node = some type)
    (place : Place) : sites place node = [] := by
  unfold plainType? at h
  split at h
  · simp [sites]
  · simp [sites]
  · split at h
    · cases h
    · rename_i ht
      rw [sites, if_neg ht]
  · simp [sites, listSites]
  · cases h

/-- Every site of the work declares once, and so does every site of a definition each time that it
is entered. -/
theorem Logs.places (h : Logs g s work d result d' events) (p : Place) :
    (declaredPlaces events).count p =
      work.sites.count p + ((enteredRefs events).flatMap (definitionSites g)).count p := by
  induction h with
  | plain ht => simp [Work.sites, sites_of_plainType? ht, declaredPlaces, enteredRefs]
  | enum ht hr => simp [Work.sites, sites, ht, declaredPlaces, enteredRefs]
  | reused => simp [Work.sites, sites, declaredPlaces, enteredRefs]
  | noFields => simp [Work.sites, membersSites, declaredPlaces, enteredRefs]
  | noOptions => simp [Work.sites, listSites, declaredPlaces, enteredRefs]
  | step _ ih => simpa [Work.sites] using ih
  | union _ ih => simpa [Work.sites, sites] using ih
  | array _ _ ih => simpa [Work.sites, sites, listSites] using ih
  | record hc _ _ ih ih' =>
    subst hc
    simp only [Work.sites, sites_key] at ih ih' ⊢
    rw [sites, List.count_append, declaredPlaces_append, List.count_append, ih, ih',
      enteredRefs_append, count_flatMap]
    omega
  | option _ _ ih ih' =>
    simp only [Work.sites] at ih ih' ⊢
    rw [listSites, List.count_append, declaredPlaces_append, List.count_append, ih, ih',
      enteredRefs_append, count_flatMap]
    omega
  | field _ _ ih ih' =>
    simp only [Work.sites, List.length_cons] at ih ih' ⊢
    rw [membersSites, List.count_append, declaredPlaces_append, List.count_append, ih, ih',
      enteredRefs_append, count_flatMap]
    omega
  | object hd _ ih =>
    simp only [Work.sites, List.length_nil] at ih ⊢
    rw [sites, declaredPlaces_declares, enteredRefs_declares, List.count_cons, List.count_cons, ih]
    omega
  | @lazyObject _ _ _ _ ref _ _ _ _ _ _ _ _ _ _ hl hres hbase hd _ ih =>
    simp only [Work.sites, List.length_nil] at ih ⊢
    rw [sites_lazy, declaredPlaces_entered, enteredRefs_entered, declaredPlaces_declares,
      enteredRefs_declares, List.flatMap_cons, List.count_append, List.count_nil, List.count_cons,
      definitionSites_ok hres, ← sites_base, hbase, sites, List.count_cons, ih]
    omega
  | lazyOther hl hres hbase _ ih =>
    simp only [Work.sites] at ih ⊢
    rw [sites_lazy, declaredPlaces_entered, enteredRefs_entered, List.flatMap_cons, List.count_append,
      List.count_nil, definitionSites_ok hres, ih]
    omega

end StructuredOutput.Baml.Translation
