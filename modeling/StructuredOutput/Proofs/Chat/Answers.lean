import StructuredOutput.Chat.Completion

/-! # Answers of the service

A caller is promised a text, or a fault of the generation, which carries the status of a refusal. A
refusal keeps the promise whatever its body is. A success keeps it only if the body is JSON, the
first choice and its message are objects, and the content is a text or counts as missing: of all the
places where the body is looked into, the first choice alone is guarded. -/
namespace StructuredOutput.Chat.Endpoint

variable {a : Answer} {model : Json}

/-- Whether an answer is handled as callers are promised. -/
inductive Handled (a : Answer) : Except Fault Response → Prop
  | answered {r : Response} {text : String} : isSuccess a.status = true →
      r.field "text" = .str text → Handled a (.ok r)
  | raised {cause : GenerationFault} :
      (isSuccess a.status = false → cause.status? = some a.status) →
      Handled a (.error (.generation cause))

/-! ## The body of a success -/

/-- The content of the message of a choice; both have to be objects. -/
def contentOf? (choice : Json) : Option Json :=
  match choice with
  | .obj members =>
    match (Json.find? "message" members).getD (.obj []) with
    | .obj message => some ((Json.find? "content" message).getD .null)
    | _ => none
  | _ => none

/-- Whether a content is a text or counts as missing. -/
def Textual (content : Json) : Prop := content.truthy = true → ∃ text, content = .str text

/-- Whether the body of a success can be read: it is JSON, and its first choice, if there is one, has
a content that is a text or counts as missing. -/
def Readable : Option Json → Prop
  | none => False
  | some body => ∀ choice, firstChoice? body = some choice →
      ∃ content, contentOf? choice = some content ∧ Textual content

inductive Success (a : Answer) : Except Fault Response → Prop
  | unreadable : a.body = none → Success a (.error .noBody)
  | choiceless {body : Json} : a.body = some body → firstChoice? body = none →
      Success a (.error (.generation (.malformed body)))
  | shapeless {body choice value : Json} : a.body = some body →
      firstChoice? body = some choice → contentOf? choice = none →
      Success a (.error (Fault.noMethod value "get"))
  | unmeasured {body choice content : Json} : a.body = some body →
      firstChoice? body = some choice → contentOf? choice = some content → ¬ Textual content →
      Success a (.error (.value (.noLength content.typeName)))
  | answered {body choice content : Json} {r : Response} : a.body = some body →
      firstChoice? body = some choice → contentOf? choice = some content →
      r.field "text" = (if content.truthy then content else .str "") → Success a (.ok r)

/-- What is done with the content of a choice is done, or there is an object missing. -/
theorem lookUp_content {β : Type} (choice : Json) (use : Json → Except Fault β) :
    (∃ value, contentOf? choice = none ∧
      (do use (← lookUp (← lookUp choice "message" (.obj [])) "content" .null)) =
        .error (Fault.noMethod value "get")) ∨
    ∃ content, contentOf? choice = some content ∧
      (do use (← lookUp (← lookUp choice "message" (.obj [])) "content" .null)) = use content := by
  cases choice with
  | obj members =>
    simp only [lookUp, contentOf?, bind, Except.bind]
    cases (Json.find? "message" members).getD (.obj []) with
    | obj message => exact .inr ⟨_, rfl, rfl⟩
    | null | bool | int | float | str | arr => exact .inl ⟨_, rfl, rfl⟩
  | null | bool | int | float | str | arr => exact .inl ⟨_, rfl, rfl⟩

/-- A value without a size is no text, and counts as present. -/
theorem size_error {content : Json} {fault : Fault}
    (h : size (if content.truthy then content else .str "") = .error fault) :
    fault = .value (.noLength content.typeName) ∧ ¬ Textual content := by
  cases ht : content.truthy with
  | false => simp [ht, size] at h
  | true =>
    rw [ht, if_pos rfl] at h
    cases content with
    | str | arr | obj => cases h
    | null | bool | int | float =>
      cases h
      exact ⟨rfl, fun htext => by obtain ⟨text, he⟩ := htext ht; cases he⟩

theorem read_success (h : isSuccess a.status = true) : Success a (read model a).1 := by
  unfold read
  rw [if_pos h]
  split
  · rename_i hbody
    exact .unreadable hbody
  · rename_i body hbody
    split
    · rename_i hfirst
      exact .choiceless hbody hfirst
    · rename_i choice hfirst
      rcases lookUp_content choice fun content => do
          let text := if content.truthy then content else .str ""
          pure (text, ← size text) with ⟨value, hnone, he⟩ | ⟨content, hcontent, he⟩
      · rw [he]
        exact .shapeless hbody hfirst hnone
      · rw [he]
        dsimp only
        cases hsize : size (if content.truthy then content else .str "") with
        | error fault =>
          obtain ⟨rfl, htextual⟩ := size_error hsize
          exact .unmeasured hbody hfirst hcontent htextual
        | ok count => exact .answered hbody hfirst hcontent rfl

/-- A success is handled exactly if its body can be read. -/
theorem Success.handled_iff {outcome : Except Fault Response} (hs : isSuccess a.status = true)
    (h : Success a outcome) : Handled a outcome ↔ Readable a.body := by
  cases h with
  | unreadable hbody =>
    rw [hbody]
    exact ⟨(nomatch ·), False.elim⟩
  | choiceless hbody hfirst =>
    rw [hbody]
    refine ⟨fun _ choice hchoice => ?_, fun _ => .raised fun hn => ?_⟩
    · rw [hfirst] at hchoice
      cases hchoice
    · rw [hs] at hn
      cases hn
  | shapeless hbody hfirst hnone =>
    rw [hbody]
    refine ⟨(nomatch ·), fun hr => ?_⟩
    obtain ⟨content, hcontent, -⟩ := hr _ hfirst
    rw [hnone] at hcontent
    cases hcontent
  | unmeasured hbody hfirst hcontent htextual =>
    rw [hbody]
    refine ⟨(nomatch ·), fun hr => ?_⟩
    obtain ⟨content', hcontent', htextual'⟩ := hr _ hfirst
    rw [hcontent] at hcontent'
    cases hcontent'
    exact absurd htextual' htextual
  | @answered body choice content r hbody hfirst hcontent htext =>
    rw [hbody]
    constructor
    · rintro (⟨-, hfield⟩ | -) choice' hchoice'
      rw [hfirst] at hchoice'
      cases hchoice'
      refine ⟨content, hcontent, fun ht => ?_⟩
      rw [htext, if_pos ht] at hfield
      exact ⟨_, hfield⟩
    · intro hr
      obtain ⟨content', hcontent', htextual⟩ := hr choice hfirst
      rw [hcontent] at hcontent'
      cases hcontent'
      cases ht : content.truthy with
      | false => exact .answered hs (by rw [htext, ht]; rfl)
      | true =>
        obtain ⟨text, rfl⟩ := htextual ht
        exact .answered hs (by rw [htext, ht]; rfl)

/-! ## Calls -/

theorem read_refused (h : isSuccess a.status = false) :
    read model a = (.error (.generation (.refused a.status (refusalDetail a))), []) := by
  unfold read
  rw [h]
  rfl

/-- A text as the content is what a caller gets. -/
theorem read_text {body : Json} {members message : List (String × Json)} {text : String}
    (hs : isSuccess a.status = true) (hbody : a.body = some body)
    (hfirst : firstChoice? body = some (.obj members))
    (hmessage : Json.find? "message" members = some (.obj message))
    (hcontent : Json.find? "content" message = some (.str text)) :
    ∃ r, (read model a).1 = .ok r ∧ r.field "text" = .str text := by
  have hc : contentOf? (.obj members) = some (.str text) := by
    simp only [contentOf?, hmessage, Option.getD_some, hcontent]
  have hreadable : Readable a.body := by
    rw [hbody]
    intro choice hchoice
    rw [hfirst] at hchoice
    cases hchoice
    exact ⟨_, hc, fun _ => ⟨text, rfl⟩⟩
  have hsuccess : Success a (read model a).1 := read_success hs
  have hhandled := (hsuccess.handled_iff hs).mpr hreadable
  generalize (read model a).1 = outcome at hsuccess hhandled ⊢
  cases hsuccess with
  | unreadable => cases hhandled
  | choiceless hbody' hfirst' =>
    cases hbody.symm.trans hbody'
    cases hfirst.symm.trans hfirst'
  | shapeless => cases hhandled
  | unmeasured => cases hhandled
  | answered hbody' hfirst' hcontent' htext =>
    cases hbody.symm.trans hbody'
    cases hfirst.symm.trans hfirst'
    cases hc.symm.trans hcontent'
    refine ⟨_, rfl, htext.trans ?_⟩
    cases ht : Json.truthy (.str text) with
    | true => rfl
    | false =>
      have hempty : text = "" := by simpa [Json.truthy] using ht
      rw [hempty]
      rfl

section Calls

variable {σ : Type} {e : Endpoint} {answer : σ → Except Fault Answer × σ}
  {request : Generation.Request} {state next : σ} {message : List (String × Json)}

theorem generator_answered (hp : e.post request = .ok message) (ha : answer state = (.ok a, next)) :
    ∃ model, (e.generator answer request state).outcome = (read model a).1 := by
  unfold generator
  rw [hp]
  dsimp only
  rw [ha]
  exact ⟨_, rfl⟩

/-- Once an answer has come, a refusal is raised with its status, and all else is handled exactly if
its body can be read; a text as the content of its first choice is returned. -/
theorem answers_handled_iff (hp : e.post request = .ok message)
    (ha : answer state = (.ok a, next)) :
    (isSuccess a.status = false → ∃ detail, (e.generator answer request state).outcome =
      .error (.generation (.refused a.status detail))) ∧
    (Handled a (e.generator answer request state).outcome ↔
      (isSuccess a.status = true → Readable a.body)) ∧
    ∀ body members inner text, isSuccess a.status = true → a.body = some body →
      firstChoice? body = some (.obj members) →
      Json.find? "message" members = some (.obj inner) →
      Json.find? "content" inner = some (.str text) →
      ∃ r, (e.generator answer request state).outcome = .ok r ∧ r.field "text" = .str text := by
  obtain ⟨model, hread⟩ := generator_answered hp ha
  rw [hread]
  refine ⟨fun hs => ?_, ?_, fun body members inner text hs hbody hfirst hmessage hcontent =>
    read_text hs hbody hfirst hmessage hcontent⟩
  · rw [read_refused hs]
    exact ⟨_, rfl⟩
  · cases hs : isSuccess a.status with
    | true =>
      rw [(read_success hs).handled_iff hs]
      exact ⟨fun hr _ => hr, fun hr => hr rfl⟩
    | false =>
      rw [read_refused hs]
      exact ⟨fun _ => (nomatch ·), fun _ => .raised fun _ => rfl⟩

def sampleService : Endpoint := ⟨.str "k", defaultUrl, .int 60⟩

def sampleRequest : Generation.Request := [("model", .str "m"), ("prompt", .str "p")]

def oneChoice (message : Json) : Answer :=
  ⟨.int 200, some (.obj [("choices", .arr [.obj [("message", message)]])]), .str ""⟩

def answering (a : Answer) (state : Unit) : Except Fault Answer × Unit := (.ok a, state)

theorem answers_handled_iff_text :
    (∃ r, (sampleService.generator (answering (oneChoice (.obj [("content", .str "five")])))
      sampleRequest ()).outcome = .ok r ∧ r.field "text" = .str "five") ∧
    ∃ detail, (sampleService.generator (answering ⟨.int 429, none, .str "later"⟩)
      sampleRequest ()).outcome = .error (.generation (.refused (.int 429) detail)) :=
  ⟨(answers_handled_iff rfl rfl).2.2 _ _ _ "five" rfl rfl rfl rfl rfl,
    (answers_handled_iff rfl rfl).1 rfl⟩

/-- A message that is `null` is looked into as if it were an object. -/
theorem null_message_unhandled :
    isSuccess (oneChoice .null).status = true ∧
    ¬ Handled (oneChoice .null)
      (sampleService.generator (answering (oneChoice .null)) sampleRequest ()).outcome := by
  have hraised : (sampleService.generator (answering (oneChoice .null)) sampleRequest ()).outcome =
      .error (Fault.noMethod .null "get") := rfl
  rw [hraised]
  exact ⟨rfl, (nomatch ·)⟩

end Calls

end StructuredOutput.Chat.Endpoint
