/-!
Arguments of a command: options, each with or without a value, and the words between them. Short
options can be written together, the last of them with its value right behind; a long option takes
its value behind an equals sign or as the next word. Two hyphens end the options.
-/
namespace StructuredOutput.CommandLine

inductive UsageFault where
  | unknownOption (form : String)
  | noValue (form : String)
  | unwantedValue (form : String)
  | missingOption (name : String)
  | missingWord (name : String)
  | unexpectedWord (word : String)
  | missingCommand
  | unknownCommand (name : String)
  | noFile (path : String)
  | notNumber (text : String)
  | noPath (text : String)
deriving DecidableEq

namespace UsageFault

def message : UsageFault → String
  | unknownOption form => "no such option: " ++ form
  | noValue form => "option " ++ form ++ " needs a value"
  | unwantedValue form => "option " ++ form ++ " takes no value"
  | missingOption name => "missing option: " ++ name
  | missingWord name => "missing argument: " ++ name
  | unexpectedWord word => "unexpected argument: " ++ word
  | missingCommand => "missing command"
  | unknownCommand name => "no such command: " ++ name
  | noFile path => "no such file: " ++ path
  | notNumber text => "not a number: " ++ text
  | noPath text => "not a path: " ++ text

end UsageFault

/-- An option: its name, its letter, and whether it takes a value. -/
structure Switch where
  name : String
  letter : Option Char := none
  takesValue : Bool := true

def helpSwitch : Switch := ⟨"help", none, false⟩

/-- What arguments say: options with their values in order, and the words. -/
structure Arguments where
  options : List (String × String) := []
  words : List String := []

namespace Arguments

/-- The value of an option; the last one given counts. -/
def value? (a : Arguments) (name : String) : Option String :=
  (a.options.reverse.find? fun option => option.1 = name).map (·.2)

def has (a : Arguments) (name : String) : Bool := (a.value? name).isSome

end Arguments

/-- Reads short options written together. The second part says whether the next word is used up. -/
def cluster (switches : List Switch) (next : Option String) :
    List Char → Except UsageFault (List (String × String) × Bool)
  | [] => .ok ([], false)
  | c :: rest =>
    match switches.find? fun s => s.letter == some c with
    | none => .error (.unknownOption (String.ofList ['-', c]))
    | some s =>
      if s.takesValue then
        if rest.isEmpty then
          match next with
          | some value => .ok ([(s.name, value)], true)
          | none => .error (.noValue s.name)
        else .ok ([(s.name, String.ofList rest)], false)
      else do
        let (more, used) ← cluster switches next rest
        pure ((s.name, "") :: more, used)

def longOption (switches : List Switch) (next : Option String) (text : List Char) :
    Except UsageFault (List (String × String) × Bool) :=
  let name := String.ofList (text.takeWhile (· ≠ '='))
  match switches.find? fun s => s.name = name, text.dropWhile (· ≠ '=') with
  | none, _ => .error (.unknownOption ("--" ++ name))
  | some s, _ :: value =>
    if s.takesValue then .ok ([(name, String.ofList value)], false) else .error (.unwantedValue name)
  | some s, [] =>
    if s.takesValue then
      match next with
      | some value => .ok ([(name, value)], true)
      | none => .error (.noValue name)
    else .ok ([(name, "")], false)

inductive Shape where
  | ending
  | long (text : List Char)
  | short (text : List Char)
  | word

/-- The shape of a word; a single hyphen is a word like any other. -/
def shapeOf (word : String) : Shape :=
  match word.toList with
  | ['-', '-'] => .ending
  | '-' :: '-' :: text => .long text
  | '-' :: c :: text => .short (c :: text)
  | _ => .word

/-- Reads arguments. Unless options may follow words, the first word ends the options. -/
def readArguments (switches : List Switch) (mixed : Bool) : List String → Except UsageFault Arguments
  | [] => .ok {}
  | word :: rest =>
    let option (read : Except UsageFault (List (String × String) × Bool)) :=
      match read with
      | .error fault => .error fault
      | .ok (found, used) =>
        (readArguments switches mixed (if used then rest.tail else rest)).map fun a =>
          { a with options := found ++ a.options }
    match shapeOf word with
    | .ending => .ok { words := rest }
    | .long text => option (longOption switches rest.head? text)
    | .short text => option (cluster switches rest.head? text)
    | .word =>
      if mixed then
        (readArguments switches mixed rest).map fun a => { a with words := word :: a.words }
      else .ok { words := word :: rest }
termination_by words => words.length
decreasing_by
  · simp only [List.length_cons]
    split
    · simp only [List.length_tail]
      omega
    · omega
  · simp

end StructuredOutput.CommandLine
