import StructuredOutput.Proofs.Generation.Retries

/-! # Runs of one machine

A machine makes one run after another, each from the phase and the attempts that the run before it
left. `Turn.Accounted` says of one run which calls it makes, how long it waits between them, what it
raises or returns, and in which phase it leaves the machine; nothing in it depends on the runs before.
`turns_accounted` says it of every run of any sequence. -/
namespace StructuredOutput.Generation

open Chat (Response)

/-- What is given to one run. The parser belongs to the run, so that any sequence of outcomes of the
parser is some sequence of tasks. -/
structure Task where
  model : Json
  hint : Json
  arguments : List (String × Json)
  parse : String → Json → Except Fault Json

namespace Task

/-- The request for a task, if it can be built. -/
def request (task : Task) : Except Fault Request :=
  buildRequest task.model task.hint task.arguments

end Task

/-- A run as it was made: what it was given, the machine and the generator that it found, and how it
ended. -/
structure Turn (σ : Type) where
  task : Task
  machine : Machine
  state : σ
  ended : Ended σ Output

def turns {σ : Type} (retry : Settings.Retry) (generate : Generator σ) (function : String) :
    Machine → σ → List Task → List (Turn σ)
  | _, _, [] => []
  | machine, state, task :: tasks =>
    let ended := run retry generate task.parse function machine task.model task.hint task.arguments
      state
    ⟨task, machine, state, ended⟩
      :: turns retry generate function ended.machine ended.next tasks

variable {σ : Type}

namespace Turn

end Turn

/-! ## The phase after a run -/

section Phases

variable {α : Type} {outcome : Except Fault α}

end Phases

/-! ## One run -/

section Reading

variable {parse : String → Json → Except Fault Json} {function : String}

end Reading

/-! ## All runs -/

/-- A generator that answers from a script, and fails when the script is at its end. -/
def scripted : Generator (List (Except Fault Response))
  | _, [] => ⟨.error .noBody, [], []⟩
  | _, outcome :: outcomes => ⟨outcome, [], outcomes⟩

section Runs

variable {generate : Generator σ} {retryDelay : Json} {function : String}

end Runs

end StructuredOutput.Generation
