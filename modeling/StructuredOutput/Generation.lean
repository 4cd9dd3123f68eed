import StructuredOutput.Chat.Message
import StructuredOutput.Chat.Response
import StructuredOutput.Journal
import StructuredOutput.Numeral.Shortest
import StructuredOutput.Settings

/-!
One run of generating and parsing: the request is built, the generator is called until it answers or
the attempts are used up, and the text of the answer is parsed. Only the call of the generator is
repeated; between two calls the run waits the delay times the number of the failed attempt. An
interrupt is not handled: it ends the run where it arises and leaves the phase as it was.
-/
namespace StructuredOutput.Generation

open Chat (Response)

inductive Phase where
  | idle
  | attempting
  | succeeded
  | failed
deriving DecidableEq

namespace Phase

def name : Phase → String
  | idle => "idle"
  | attempting => "attempting"
  | succeeded => "succeeded"
  | failed => "failed"

end Phase

/-- What stays between the runs of one machine. -/
structure Machine where
  phase : Phase := .idle
  attempts : Nat := 0

/-- The arguments of a generation call, by name. -/
abbrev Request := List (String × Json)

abbrev Generator (σ : Type) := Request → σ → Reply σ Response

structure Output where
  object : Json
  text : Json
  usage : Json
  finishReason : Json

def buildRequest (model hint : Json) (arguments : List (String × Json)) :
    Except Fault Request := do
  let argument ← Json.takeArguments
    ["prompt", "messages", "max_tokens", "temperature", "top_p"] arguments
  let prompt := argument "prompt"
  let messages := argument "messages"
  let prompts := if prompt.isNull then [] else [("prompt", Json.str (Chat.withPrompt hint prompt))]
  let chats ← if messages.isNull then pure []
    else do pure [("messages", Json.arr (← Chat.merge hint messages))]
  pure ([("model", model)] ++ prompts ++ chats
    ++ ["max_tokens", "temperature", "top_p"].map fun name => (name, argument name))

/-- The number of attempts, at least one. -/
def attemptLimit (maxAttempts : Json) : Except Fault Nat :=
  match maxAttempts with
  | .float x => if x.leInt 1 || x = .nan then .ok 1 else .error .wrongType
  | other =>
    match other.toInt? with
    | some n => .ok (max 1 n).toNat
    | none => .error .wrongType

/-- The delay behind a failed attempt. -/
def delayAfter (retryDelay : Json) (attempt : Nat) : Except Fault Json :=
  match retryDelay with
  | .float x => .ok (.float (x.mul (.ofInt attempt)))
  | other =>
    match other.toInt? with
    | some n => .ok (.int (n * attempt))
    | none => .error .wrongType

/-- A delay in seconds with one decimal place. A whole number has to be within the range of
fractions. -/
def delayText : Json → Except Fault String
  | .float x => .ok x.oneDecimal
  | other =>
    match Numeral.Binary64.ofInt (other.toInt?.getD 0) with
    | .infinite _ => .error (.value .tooLarge)
    | x => .ok x.oneDecimal

/-- The delay behind a failed attempt, and its text. -/
def delayShown (retryDelay : Json) (attempt : Nat) : Except Fault (Json × String) := do
  let delay ← delayAfter retryDelay attempt
  pure (delay, ← delayText delay)

/-- The record of a failed attempt that is followed by another one. -/
def retryRecord (fault : Fault) (attempt limit : Nat) (delay : String) : Event :=
  .log .warning .generation
    ("Text generation failed (" ++ fault.message ++ "), retry " ++ toString attempt ++ "/"
      ++ toString (limit - 1) ++ " in " ++ delay ++ "s")

def giveUpRecord (fault : Fault) (attempt : Nat) : Event :=
  .log .error .generation
    ("Text generation failed after " ++ toString attempt ++ " attempts: " ++ fault.message)

structure Attempts (σ : Type) where
  outcome : Except Fault Response
  attempts : Nat
  events : List Event
  next : σ

namespace Attempts

def after {σ : Type} (events : List Event) (a : Attempts σ) : Attempts σ :=
  { a with events := events ++ a.events }

end Attempts

/-- Calls the generator as attempt `attempt` of `attempt + remaining`, and again while it fails. -/
def callWithin {σ : Type} (generate : Generator σ) (retryDelay : Json) (request : Request) :
    Nat → Nat → σ → Attempts σ
  | remaining, attempt, state =>
    let reply := generate request state
    let events := .request request :: reply.events
    match reply.outcome with
    | .ok response => ⟨.ok response, attempt, events, reply.next⟩
    | .error fault =>
      if fault.isInterrupt then ⟨.error fault, attempt, events, reply.next⟩
      else
        match remaining with
        | 0 => ⟨.error fault, attempt, events ++ [giveUpRecord fault attempt], reply.next⟩
        | remaining + 1 =>
          match delayShown retryDelay attempt with
          | .error refusal => ⟨.error refusal, attempt, events, reply.next⟩
          | .ok (delay, shown) =>
            (callWithin generate retryDelay request remaining (attempt + 1) reply.next).after
              (events ++ [retryRecord fault attempt (attempt + remaining + 1) shown, .sleep delay])

structure Ended (σ α : Type) where
  outcome : Except Fault α
  machine : Machine
  events : List Event
  next : σ

def phaseAfter {α : Type} : Except Fault α → Phase
  | .ok _ => .succeeded
  | .error fault => if fault.isInterrupt then .attempting else .failed

def readText (parse : String → Json → Except Fault Json) (function : String)
    (response : Response) : Except Fault Output × List Event :=
  if response.text.truthy then
    let result := do
      let object ← parse function response.text
      pure ⟨object, response.text, response.field "usage",
        response.firstOf ["finishReason", "finish_reason"]⟩
    (result, [.parse function response.text])
  else (.error .emptyOutput, [])

def runRequest {σ : Type} (retry : Settings.Retry) (generate : Generator σ)
    (parse : String → Json → Except Fault Json) (function : String) (m : Machine)
    (request : Request) (state : σ) : Ended σ Output :=
  match attemptLimit retry.maxAttempts with
  | .error fault => ⟨.error fault, { m with phase := .failed }, [], state⟩
  | .ok limit =>
    let called := callWithin generate retry.retryDelay request (limit - 1) 1 state
    match called.outcome with
    | .error fault =>
      let phase := phaseAfter (α := Output) (.error fault)
      ⟨.error fault, ⟨phase, called.attempts⟩, called.events, called.next⟩
    | .ok response =>
      let (result, events) := readText parse function response
      ⟨result, ⟨phaseAfter result, called.attempts⟩, called.events ++ events, called.next⟩

/-- Generates and parses. A request that cannot be built leaves everything as it was. -/
def run {σ : Type} (retry : Settings.Retry) (generate : Generator σ)
    (parse : String → Json → Except Fault Json) (function : String) (m : Machine)
    (model hint : Json) (arguments : List (String × Json)) (state : σ) :
    Ended σ Output :=
  match buildRequest model hint arguments with
  | .error fault => ⟨.error fault, m, [], state⟩
  | .ok request => runRequest retry generate parse function m request state

end StructuredOutput.Generation
