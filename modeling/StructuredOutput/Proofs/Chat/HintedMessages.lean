import StructuredOutput.Chat.Completion
import StructuredOutput.Proofs.Generation.Runs
import StructuredOutput.Proofs.Json.Members
import StructuredOutput.Text.Blank

/-! # Messages with a hint

The messages of a caller arrive at the service behind a system message with the hint, or, if the
first of them is from the system, with the hint behind its content. That content is written as a
text first: a text and a missing content survive this, any other content is lost. Each attempt of
each run posts the same chat, so nothing is left in the messages of the caller. -/
namespace StructuredOutput

/-- The messages that are posted to a service. -/
def Event.chat? : Event → Option (List Json)
  | .post message =>
    match Json.find? "json" message with
    | some (.obj payload) =>
      match Json.find? "messages" payload with
      | some (.arr chat) => some chat
      | _ => none
    | _ => none
  | _ => none

def chats (events : List Event) : List (List Json) := events.filterMap Event.chat?

namespace Chat

abbrev Message := List (String × Json)

def IsSystem (m : Message) : Prop := Json.find? "role" m = some (.str "system")

/-! ## What becomes of messages -/

/-- How messages arrive: behind a system message with the hint, or, if the first of them is from the
system, with something added to its content; `added` relates the content to what becomes of it. -/
inductive Arrives (added : Option Json → Json → Prop) (hint : String) (messages : List Message) :
    List Json → Prop
  | announced : (∀ first, messages.head? = some first → ¬ IsSystem first) →
      Arrives added hint messages (systemMessage (.str hint) :: messages.map .obj)
  | appended {first first' : Message} {rest : List Message} {content : Json} :
      messages = first :: rest → IsSystem first →
      (∀ key, key ≠ "content" → Json.find? key first' = Json.find? key first) →
      Json.find? "content" first' = some content → added (Json.find? "content" first) content →
      Arrives added hint messages (.obj first' :: rest.map .obj)

/-- Whether a text is blank. -/
def Blank (text : String) : Prop := ∀ c ∈ text.toList, Text.isBlank c = true

/-- The hint behind a content, with blank text between them: in the same text, alone where there is
no content, and as one more part behind others. -/
inductive Hinted (hint : String) : Option Json → Json → Prop
  | text {text separator : String} : Blank separator →
      Hinted hint (some (.str text)) (.str (text ++ separator ++ hint))
  | missing {separator : String} : Blank separator → Hinted hint none (.str (separator ++ hint))
  | null {separator : String} : Blank separator →
      Hinted hint (some .null) (.str (separator ++ hint))
  | parts {items : List Json} {separator : String} : Blank separator →
      Hinted hint (some (.arr items)) (.arr (items ++
        [.obj [("type", .str "text"), ("text", .str (separator ++ hint))]]))

def Written (hint : String) (content : Option Json) (content' : Json) : Prop :=
  content' = .str ((content.getD (.str "")).display ++ "\n\n" ++ hint)

/-- Whether the first message, if it is from the system, has a text for a content, or none. -/
def Plain (messages : List Message) : Prop :=
  ∀ first, messages.head? = some first → IsSystem first →
    ∀ content, Json.find? "content" first = some content → ∃ text, content = .str text

def merged (hint : String) : List Message → List Message
  | [] => [[("role", .str "system"), ("content", .str hint)]]
  | first :: rest =>
    if ((Json.find? "role" first).getD .null).isStr "system" then
      Json.insert "content" (.str (((Json.find? "content" first).getD (.str "")).display ++
        "\n\n" ++ hint)) first :: rest
    else [("role", .str "system"), ("content", .str hint)] :: first :: rest

variable {hint : String} {messages : List Message} {content content' : Json}

theorem isSystem_iff {m : Message} :
    ((Json.find? "role" m).getD .null).isStr "system" = true ↔ IsSystem m := by
  unfold IsSystem
  cases Json.find? "role" m with
  | none => simp [Json.isStr]
  | some role => cases role <;> simp [Json.isStr]

theorem copies_obj (messages : List Message) :
    copies (messages.map .obj) = .ok (messages.map .obj) := by
  unfold copies
  induction messages with
  | nil => rfl
  | cons first rest ih =>
    rw [List.map_cons, List.mapM_cons, ih]
    rfl

theorem merge_merged (hint : String) (messages : List Message) :
    merge (.str hint) (.arr (messages.map .obj)) = .ok ((merged hint messages).map .obj) := by
  cases messages with
  | nil => rfl
  | cons first rest =>
    simp only [merge, List.map_cons, Json.truthy, List.isEmpty_cons, Bool.not_false, if_true,
      withMessages, copies_obj, merged, bind, Except.bind]
    split
    · rfl
    · rfl

/-- What arrives, whatever the contents are. -/
theorem arrives_written (hint : String) (messages : List Message) :
    Arrives (Written hint) hint messages ((merged hint messages).map .obj) := by
  cases messages with
  | nil => exact .announced nofun
  | cons first rest =>
    by_cases hs : ((Json.find? "role" first).getD .null).isStr "system" = true
    · rw [merged, if_pos hs]
      exact .appended rfl (isSystem_iff.mp hs)
        (fun key hkey => by rw [Json.find?_insert, if_neg (Ne.symm hkey)])
        (by rw [Json.find?_insert, if_pos rfl]) rfl
    · rw [merged, if_neg hs]
      refine .announced fun first' he => ?_
      cases he
      exact hs ∘ isSystem_iff.mpr

theorem blank_break : Blank "\n\n" := by
  intro c hc
  have hbreak : c = '\n' := by simpa using hc
  rw [hbreak]
  rfl

/-- A written content has the hint behind it only if it is a text or missing. -/
theorem hinted_written (hwritten : Written hint (some content) content') :
    Hinted hint (some content) content' ↔ ∃ text, content = .str text := by
  subst hwritten
  constructor
  · rintro h
    generalize hc : Json.str _ = content' at h
    cases h with
    | text => exact ⟨_, rfl⟩
    | parts => cases hc
    | null hblank =>
      rename_i separator
      have htexts : "None" ++ "\n\n" ++ hint = separator ++ hint := Json.str.inj hc
      have hsame : "None" ++ "\n\n" = separator := by simpa using htexts
      exact absurd (hblank 'N' (by rw [← hsame]; decide)) (by decide)
  · rintro ⟨text, rfl⟩
    exact .text blank_break

theorem hinted_missing (hwritten : Written hint none content') : Hinted hint none content' := by
  subst hwritten
  exact .missing blank_break

/-- Messages survive a hint exactly if the one it is put into has a text or no content. -/
theorem arrives_iff {chat : List Json} (h : Arrives (Written hint) hint messages chat) :
    Arrives (Hinted hint) hint messages chat ↔ Plain messages := by
  cases h with
  | announced hother =>
    exact ⟨fun _ first hf hs => absurd hs (hother first hf), fun _ => .announced hother⟩
  | appended hm hs hkeys hcontent hwritten =>
    rename_i first first' rest content
    subst hm
    constructor
    · intro harrives first₁ hf₁ _ value hvalue
      cases hf₁
      generalize hchat : Json.obj first' :: rest.map .obj = chat at harrives
      cases harrives with
      | announced hother => exact absurd hs (hother first rfl)
      | appended hm₂ hs₂ hkeys₂ hcontent₂ hhinted =>
        cases hm₂
        cases hchat
        cases hcontent.symm.trans hcontent₂
        rw [hvalue] at hhinted hwritten
        exact (hinted_written hwritten).mp hhinted
    · intro hplain
      refine .appended rfl hs hkeys hcontent ?_
      cases hvalue : Json.find? "content" first with
      | none => exact hinted_missing (hvalue ▸ hwritten)
      | some value =>
        exact (hinted_written (hvalue ▸ hwritten)).mpr (hplain first rfl hs value hvalue)

/-! ## What is posted -/

def asking (model : Json) (chat : List Json) : Generation.Request :=
  [("model", model), ("messages", .arr chat), ("max_tokens", .null), ("temperature", .null),
    ("top_p", .null)]

theorem buildRequest_asking (model : Json) (hint : String) (messages : List Message) :
    Generation.buildRequest model (.str hint) [("messages", .arr (messages.map .obj))] =
      .ok (asking model ((merged hint messages).map .obj)) := by
  simp [Generation.buildRequest, Json.takeArguments, Json.find?, Json.isNull, merge_merged, asking,
    bind, Except.bind, pure, Except.pure]

theorem merged_ne_nil (hint : String) (messages : List Message) : merged hint messages ≠ [] := by
  unfold merged
  split
  · exact List.cons_ne_nil _ _
  · split <;> exact List.cons_ne_nil _ _

namespace Endpoint

variable {σ : Type} {e : Endpoint} {answer : σ → Except Fault Answer × σ}
  {request : Generation.Request} {chat : List Json}

/-- A chat that is not empty is posted as it is. -/
theorem post_asking (e : Endpoint) (model : Json) {sent : List Message} (hne : sent ≠ []) :
    ∃ message, e.post (asking model (sent.map .obj)) = .ok message ∧
      Event.chat? (.post message) = some (sent.map .obj) := by
  have htruthy : (Json.arr (sent.map .obj)).truthy = true := by
    simp [Json.truthy, hne]
  have hchat : Endpoint.chat (.arr (sent.map .obj)) .null = .ok (sent.map .obj) := by
    simp only [Endpoint.chat, htruthy, if_true, Json.elements?, copies_obj, Json.isNull, bind,
      Except.bind, pure, Except.pure]
  have htaken : Json.takeArguments
      ["model", "prompt", "messages", "max_tokens", "temperature", "top_p"]
      (asking model (sent.map .obj)) =
        .ok fun name => (Json.find? name (asking model (sent.map .obj))).getD .null := rfl
  have hmodel : (Json.find? "model" (asking model (sent.map .obj))).isNone = false := rfl
  have hmessages : Json.find? "messages" (asking model (sent.map .obj)) =
      some (.arr (sent.map .obj)) := rfl
  have hprompt : Json.find? "prompt" (asking model (sent.map .obj)) = none := rfl
  simp only [post, htaken, hmodel, hmessages, hprompt, Option.getD_some, Option.getD_none, hchat,
    Bool.false_eq_true, if_false, bind, Except.bind, pure, Except.pure]
  exact ⟨_, rfl, rfl⟩

theorem read_chats (model : Json) (a : Answer) : chats (read model a).2 = [] := by
  unfold read
  split
  · split
    · rfl
    · split
      · rfl
      · dsimp only
        split <;> rfl
  · rfl

theorem generator_chats {message : List (String × Json)} (hpost : e.post request = .ok message)
    (hchat : Event.chat? (.post message) = some chat) (state : σ) :
    chats (e.generator answer request state).events = [chat] := by
  simp only [generator, hpost]
  split
  · exact List.filterMap_cons_some hchat
  · exact (List.filterMap_cons_some hchat).trans (congrArg _ (read_chats _ _))

end Endpoint

end Chat

namespace Generation

open Chat (Arrives Endpoint Hinted Message Plain Response Written asking merged)

variable {σ : Type} {generate : Generator σ} {request : Request} {chat : List Json}

theorem chats_append (first second : List Event) :
    chats (first ++ second) = chats first ++ chats second :=
  List.filterMap_append

/-- Calls of a generator that posts one chat each time post it once an attempt. -/
theorem callWithin_chats (hposts : ∀ state, chats (generate request state).events = [chat])
    (retryDelay : Json) (remaining attempt : Nat) (state : σ) :
    ∃ more, (callWithin generate retryDelay request remaining attempt state).attempts =
        attempt + more ∧
      chats (callWithin generate retryDelay request remaining attempt state).events =
        List.replicate (more + 1) chat := by
  have hcall (state : σ) : chats (.request request :: (generate request state).events) = [chat] :=
    hposts state
  induction remaining generalizing attempt state with
  | zero =>
    unfold callWithin
    dsimp only
    split
    · exact ⟨0, rfl, hcall state⟩
    · split
      · exact ⟨0, rfl, hcall state⟩
      · exact ⟨0, rfl, by rw [chats_append, hcall]; rfl⟩
  | succ remaining ih =>
    unfold callWithin
    dsimp only
    split
    · exact ⟨0, rfl, hcall state⟩
    · split
      · exact ⟨0, rfl, hcall state⟩
      · split
        · exact ⟨0, rfl, hcall state⟩
        · obtain ⟨more, hattempts, hchats⟩ := ih (attempt + 1) (generate request state).next
          refine ⟨more + 1, ?_, ?_⟩
          · rw [Attempts.after, hattempts]
            omega
          · rw [Attempts.after, chats_append, chats_append, hcall, hchats]
            rfl

theorem readText_chats (parse : String → Json → Except Fault Json) (function : String)
    (response : Response) : chats (readText parse function response).2 = [] := by
  unfold readText
  split <;> rfl

/-- A run posts its chat once an attempt. -/
theorem runRequest_chats (hposts : ∀ state, chats (generate request state).events = [chat])
    (maxAttempts : Int) (retryDelay : Json) (parse : String → Json → Except Fault Json)
    (function : String) (machine : Machine) (state : σ) {ended : Ended σ Output}
    (hended : ended = runRequest ⟨.int maxAttempts, retryDelay⟩ generate parse function machine
      request state) :
    0 < ended.machine.attempts ∧
      chats ended.events = List.replicate ended.machine.attempts chat := by
  obtain ⟨more, hattempts, hchats⟩ :=
    callWithin_chats hposts retryDelay ((max 1 maxAttempts).toNat - 1) 1 state
  have hlimit : attemptLimit (⟨.int maxAttempts, retryDelay⟩ : Settings.Retry).maxAttempts =
      .ok (max 1 maxAttempts).toNat := rfl
  subst hended
  simp only [runRequest, hlimit]
  split
  · refine ⟨?_, ?_⟩
    · dsimp only
      omega
    · rw [hchats, hattempts, Nat.add_comm]
  · refine ⟨?_, ?_⟩
    · dsimp only
      omega
    · dsimp only
      rw [chats_append, readText_chats, List.append_nil, hchats, hattempts, Nat.add_comm]

/-- Whether a task is given a hint and messages, and nothing else. -/
structure Task.Asks (task : Task) (hint : String) (messages : List Message) : Prop where
  hint : task.hint = .str hint
  arguments : task.arguments = [("messages", .arr (messages.map .obj))]

/-- What a turn posts: the same chat once an attempt. -/
structure Turn.Posts (turn : Turn σ) (chat : List Json) : Prop where
  tried : 0 < turn.ended.machine.attempts
  posted : chats turn.ended.events = List.replicate turn.ended.machine.attempts chat

variable {hint : String} {messages : List Message}

theorem run_posts (e : Endpoint) (answer : σ → Except Fault Chat.Answer × σ) (maxAttempts : Int)
    (retryDelay : Json) (function : String) (machine : Machine) (state : σ) {task : Task}
    (htask : task.Asks hint messages) :
    Turn.Posts ⟨task, machine, state, run ⟨.int maxAttempts, retryDelay⟩ (e.generator answer)
      task.parse function machine task.model task.hint task.arguments state⟩
      ((merged hint messages).map .obj) := by
  obtain ⟨message, hpost, hchat⟩ := Endpoint.post_asking e task.model
    (Chat.merged_ne_nil hint messages)
  have hbuilt : buildRequest task.model task.hint task.arguments =
      .ok (asking task.model ((merged hint messages).map .obj)) := by
    rw [htask.hint, htask.arguments, Chat.buildRequest_asking]
  simp only [run, hbuilt]
  obtain ⟨htried, hposted⟩ := runRequest_chats (Endpoint.generator_chats hpost hchat) maxAttempts
    retryDelay task.parse function machine state rfl
  exact ⟨htried, hposted⟩

/-- Runs with one hint and one list of messages, however the service answers: all of them post the
same chat, and the messages survive in it exactly if the one the hint is put into has a text or no
content. -/
theorem messages_survive_iff (e : Endpoint) (answer : σ → Except Fault Chat.Answer × σ)
    (maxAttempts : Int) (retryDelay : Json) (function : String) (machine : Machine) (state : σ)
    (hint : String) (messages : List Message) (tasks : List Task)
    (htasks : ∀ task ∈ tasks, task.Asks hint messages) :
    ∃ chat, Arrives (Written hint) hint messages chat ∧
      (Arrives (Hinted hint) hint messages chat ↔ Plain messages) ∧
      (turns ⟨.int maxAttempts, retryDelay⟩ (e.generator answer) function machine state tasks).map
        Turn.task = tasks ∧
      ∀ turn ∈ turns ⟨.int maxAttempts, retryDelay⟩ (e.generator answer) function machine state
        tasks, turn.Posts chat := by
  refine ⟨(merged hint messages).map .obj, Chat.arrives_written hint messages,
    Chat.arrives_iff (Chat.arrives_written hint messages), ?_⟩
  induction tasks generalizing machine state with
  | nil => simp [turns]
  | cons task rest ih =>
    obtain ⟨htask, hrest⟩ := List.forall_mem_cons.mp htasks
    rw [turns]
    obtain ⟨hsame, hposts⟩ := ih _ _ hrest
    exact ⟨congrArg (task :: ·) hsame, List.forall_mem_cons.mpr
      ⟨run_posts e answer maxAttempts retryDelay function machine state htask, hposts⟩⟩

def unanswered : Endpoint × (Unit → Except Fault Chat.Answer × Unit) :=
  (⟨.str "k", Endpoint.defaultUrl, .int 60⟩, fun state => (.error .noBody, state))

def briefMessages : List Message :=
  [[("role", .str "system"), ("content", .str "Be brief.")],
    [("role", .str "user"), ("content", .arr [.obj [("type", .str "text"), ("text", .str "Hi")]])]]

def askingTask (messages : List Message) : Task where
  model := .str "m"
  hint := .str "int"
  arguments := [("messages", .arr (messages.map .obj))]
  parse _ text := .ok text

theorem messages_survive_iff_brief :
    Plain briefMessages ∧
    (∀ task ∈ [askingTask briefMessages, askingTask briefMessages], task.Asks "int" briefMessages) ∧
    ∃ chat, Arrives (Written "int") "int" briefMessages chat ∧
      (Arrives (Hinted "int") "int" briefMessages chat ↔ Plain briefMessages) ∧
      (turns ⟨.int 2, .int 0⟩ (unanswered.1.generator unanswered.2) "F" {} ()
        [askingTask briefMessages, askingTask briefMessages]).map Turn.task =
          [askingTask briefMessages, askingTask briefMessages] ∧
      ∀ turn ∈ turns ⟨.int 2, .int 0⟩ (unanswered.1.generator unanswered.2) "F" {} ()
        [askingTask briefMessages, askingTask briefMessages], turn.Posts chat := by
  have hasks : ∀ task ∈ [askingTask briefMessages, askingTask briefMessages],
      task.Asks "int" briefMessages := by
    intro task htask
    rcases List.mem_pair.mp htask with rfl | rfl <;> exact ⟨rfl, rfl⟩
  refine ⟨?_, hasks, messages_survive_iff unanswered.1 unanswered.2 2 (.int 0) "F" {} () "int"
    briefMessages _ hasks⟩
  intro first hfirst _ content hcontent
  cases hfirst
  cases hcontent
  exact ⟨_, rfl⟩

def nullMessages : List Message := [[("role", .str "system"), ("content", .null)]]

def noneChat : List Json := [.obj [("role", .str "system"), ("content", .str "None\n\nint")]]

/-- A content of null arrives as a text. -/
theorem null_content_written :
    ∃ turn, turns ⟨.int 1, .int 0⟩ (unanswered.1.generator unanswered.2) "F" {} ()
      [askingTask nullMessages] = [turn] ∧ turn.Posts noneChat ∧
      ¬ Arrives (Hinted "int") "int" nullMessages noneChat := by
  have hmerged : (merged "int" nullMessages).map .obj = noneChat := rfl
  have hasks : (askingTask nullMessages).Asks "int" nullMessages := ⟨rfl, rfl⟩
  rw [← hmerged]
  refine ⟨_, rfl, run_posts unanswered.1 unanswered.2 1 (.int 0) "F" {} () hasks, ?_⟩
  intro harrives
  obtain ⟨text, htext⟩ := (Chat.arrives_iff (Chat.arrives_written "int" nullMessages)).mp harrives
    _ rfl rfl .null rfl
  cases htext

end Generation

end StructuredOutput
