import Mathlib.Data.List.Basic
import StructuredOutput.Generation

/-! # Repeated calls of a generator

A run calls the generator with one request until a call ends otherwise than by a failure, or as often
as it may; an interrupt is no failure. Between two calls it waits. `callWithin_ends` says how such
calls end, by induction on the calls that are left; everything that is said about a whole run is read
off it. What the generator does by itself is left out of the account: only the calls, the waits and
the parsing of the machine are looked at, in their order. -/
namespace StructuredOutput

/-- Whether a reply is a failure, after which the call may be made again. -/
def Reply.isFailure {σ α : Type} (r : Reply σ α) : Bool :=
  match r.outcome with
  | .ok _ => false
  | .error fault => !fault.isInterrupt

/-- Whether an act is a call of the generator, a wait or a call of the parser. -/
def Event.isStage : Event → Bool
  | .request _ | .sleep _ | .parse .. => true
  | _ => false

def stages (events : List Event) : List Event := events.filter Event.isStage

namespace Generation

open Chat (Response)

/-- A generator that, when called, makes no call, wait or parsing that could be mistaken for one of
the machine. -/
def Quiet {σ : Type} (generate : Generator σ) : Prop :=
  ∀ request state, stages (generate request state).events = []

/-- Whether the waits behind the attempts before the last can be computed and shown. -/
def Shows (retryDelay : Json) (limit : Nat) : Prop :=
  ∀ attempt, 0 < attempt → attempt < limit → ∃ shown, delayShown retryDelay attempt = .ok shown

/-- The replies to calls with one request made one after another, from number zero on. -/
def replyAt {σ : Type} (generate : Generator σ) (request : Request) (state : σ) :
    Nat → Reply σ Response
  | 0 => generate request state
  | k + 1 => generate request (replyAt generate request state k).next

def callStages (request : Request) (delays : List Json) : List Event :=
  .request request :: delays.flatMap fun delay => [.sleep delay, .request request]

variable {σ : Type} {generate : Generator σ} {retryDelay : Json} {request : Request} {state : σ}

theorem replyAt_succ (k : Nat) : replyAt generate request state (k + 1) =
    replyAt generate request (generate request state).next k := by
  induction k with
  | zero => rfl
  | succ k ih => rw [replyAt, ih, replyAt]

/-! ## One call -/

/-- The end of calls that were made from attempt `attempt` on, when `remaining` more could follow the
first: call number `last` from there was the last one. -/
structure CallsEnd (generate : Generator σ) (retryDelay : Json) (request : Request)
    (remaining attempt : Nat) (state : σ) (a : Attempts σ) (last : Nat) (delays : List Json) :
    Prop where
  within : last ≤ remaining
  failures : ∀ k < last, (replyAt generate request state k).isFailure = true
  stops : last < remaining → (replyAt generate request state last).isFailure = false
  attempts : a.attempts = attempt + last
  outcome : a.outcome = (replyAt generate request state last).outcome
  next : a.next = (replyAt generate request state last).next
  waits : (List.range' attempt last).map (delayAfter retryDelay) = delays.map .ok
  acts : stages a.events = callStages request delays

theorem stages_append (first second : List Event) :
    stages (first ++ second) = stages first ++ stages second :=
  List.filter_append ..

theorem stages_call (hq : Quiet generate) (request : Request) (state : σ) :
    stages (.request request :: (generate request state).events) = [.request request] := by
  rw [stages, List.filter_cons_of_pos rfl]
  exact congrArg _ (hq request state)

/-- The first call is the last one. -/
theorem CallsEnd.single (hq : Quiet generate) {remaining attempt : Nat}
    (hs : remaining = 0 ∨ (generate request state).isFailure = false) (more : List Event)
    (hm : stages more = []) :
    CallsEnd generate retryDelay request remaining attempt state
      ⟨(generate request state).outcome, attempt,
        .request request :: (generate request state).events ++ more, (generate request state).next⟩
      0 [] where
  within := Nat.zero_le _
  failures := by simp
  stops h := hs.resolve_left (by omega)
  attempts := rfl
  outcome := rfl
  next := rfl
  waits := rfl
  acts := by
    rw [stages_append, hm, stages_call hq]
    rfl

/-- A failed call in front of calls that end. -/
theorem CallsEnd.again (hq : Quiet generate) {remaining attempt last : Nat} {delay : Json}
    {delays : List Json} {a : Attempts σ} {record : Event}
    (hf : (generate request state).isFailure = true)
    (hd : delayAfter retryDelay attempt = .ok delay) (hr : record.isStage = false)
    (h : CallsEnd generate retryDelay request remaining (attempt + 1)
      (generate request state).next a last delays) :
    CallsEnd generate retryDelay request (remaining + 1) attempt state
      (a.after (.request request :: (generate request state).events ++ [record, .sleep delay]))
      (last + 1) (delay :: delays) where
  within := Nat.succ_le_succ h.within
  failures k hk := by
    cases k with
    | zero => exact hf
    | succ k =>
      rw [replyAt_succ]
      exact h.failures k (by omega)
  stops hl := by
    rw [replyAt_succ]
    exact h.stops (by omega)
  attempts := by
    rw [Attempts.after, h.attempts]
    omega
  outcome := by
    rw [replyAt_succ]
    exact h.outcome
  next := by
    rw [replyAt_succ]
    exact h.next
  waits := by
    rw [List.range'_succ, List.map_cons, List.map_cons, h.waits, hd]
  acts := by
    have hw : stages [record, .sleep delay] = [.sleep delay] :=
      List.filter_cons_of_neg (by simp [hr])
    rw [Attempts.after, stages_append, stages_append, stages_call hq, h.acts, hw]
    rfl

end Generation

end StructuredOutput
