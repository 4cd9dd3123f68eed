import StructuredOutput.Fault

/-!
What a program does that can be seen from outside, in order.
-/
namespace StructuredOutput

inductive Level where
  | debug
  | info
  | warning
  | error
  | critical
  | other (rank : Int)
deriving DecidableEq

namespace Level

def ofRank (rank : Int) : Level :=
  if rank = 10 then debug
  else if rank = 20 then info
  else if rank = 30 then warning
  else if rank = 40 then error
  else if rank = 50 then critical
  else other rank

def rank : Level → Int
  | debug => 10
  | info => 20
  | warning => 30
  | error => 40
  | critical => 50
  | other n => n

def name : Level → String
  | debug => "DEBUG"
  | info => "INFO"
  | warning => "WARNING"
  | error => "ERROR"
  | critical => "CRITICAL"
  | other n => if n = 0 then "NOTSET" else "Level " ++ toString n

end Level

/-- The level of a value, which has to be a whole number. -/
def Level.ofJson (value : Json) : Except Fault Level :=
  match value.toInt? with
  | some rank => .ok (.ofRank rank)
  | none => .error .wrongType

/-- The records of messages that are passed to a logger at one level: none below `debug`. -/
def messageRecords (level : Json) (messages : List Json) : Except Fault (List (Level × String)) := do
  let records ← messages.mapM fun message => do pure (← Level.ofJson level, message.display)
  pure (records.filter fun record => Level.debug.rank ≤ record.1.rank)

inductive Logger where
  | package
  | chat
  | generation
  | compiler

namespace Logger

def name : Logger → String
  | package => "schema_to_baml"
  | chat => "schema_to_baml.clients"
  | generation => "schema_to_baml.orchestrator"
  | compiler => "schema_to_baml.build.compiler"

end Logger

/-- One visible act. A note goes to the diagnostic sink, a request goes to the text generator, and a
post goes over the network. -/
inductive Event where
  | note (text : String)
  | log (level : Level) (logger : Logger) (text : String)
  | request (arguments : List (String × Json))
  | post (message : List (String × Json))
  | parse (function : String) (text : Json)
  | sleep (delay : Json)
  | start (command : List String) (directory : String)
  | out (text : String)
  | err (text : String)

/-- A collaborator's answer: its outcome, the acts it caused, and its state afterwards. -/
structure Reply (σ α : Type) where
  outcome : Except Fault α
  events : List Event
  next : σ

end StructuredOutput
