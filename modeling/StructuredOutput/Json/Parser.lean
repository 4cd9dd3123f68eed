import StructuredOutput.Json.Basic
import StructuredOutput.Json.Quoted
import StructuredOutput.Numeral.Entry

/-!
Reading JSON text. A number with a fraction or an exponent is a fraction, any other a whole number;
`NaN`, `Infinity` and `-Infinity` are read as well. Of a repeated key the last value is kept, at the
place of the first. The text is read from the front, so it is refused for what is met first in it: a
whole number of too many digits, or what is no JSON.
-/
namespace StructuredOutput.Json

open Numeral (Binary64 digitsValue)

inductive Unreadable where
  | malformed
  | numberTooLong
deriving DecidableEq

/-- A reading of a text, which may be refused. What is read off its front is given with the rest. -/
abbrev Reading := Except Unreadable

/-- A reading that refuses a text when there is nothing. -/
def orMalformed {α : Type} : Option α → Reading α
  | some result => .ok result
  | none => .error .malformed

def skipBlank (text : List Char) : List Char :=
  text.dropWhile fun c => c = ' ' || c = '\n' || c = '\t' || c = '\r'

def expect? : List Char → List Char → Option (List Char)
  | [], text => some text
  | c :: word, d :: text => if c = d then expect? word text else none
  | _ :: _, [] => none

def spanDigits (text : List Char) : List Char × List Char := text.span Char.isDigit

/-- Takes a point with at least one digit behind it off the front. -/
def fraction? : List Char → Option (List Char × List Char)
  | '.' :: rest =>
    let (digits, rest) := spanDigits rest
    if digits.isEmpty then none else some (digits, rest)
  | _ => none

/-- Takes an exponent with at least one digit off the front. -/
def exponent? : List Char → Option (Int × List Char)
  | c :: rest =>
    if c = 'e' || c = 'E' then
      let (negative, rest) := match rest with
        | '-' :: more => (true, more)
        | '+' :: more => (false, more)
        | _ => (false, rest)
      let (digits, rest) := spanDigits rest
      if digits.isEmpty then none
      else some (if negative then -(digitsValue digits : Int) else digitsValue digits, rest)
    else none
  | [] => none

def wholeNumber (negative : Bool) (digits : List Char) : Reading Json :=
  if Numeral.maxDigits < digits.length then .error .numberTooLong
  else .ok (.int (if negative then -(digitsValue digits : Int) else digitsValue digits))

/-- Reads a number without its sign. Digits behind a leading zero are not part of it, and a point or
exponent mark without digits is not either. -/
def readNumber (negative : Bool) (text : List Char) : Reading (Json × List Char) :=
  let (digits, rest) := match text with
    | '0' :: rest => (['0'], rest)
    | _ => spanDigits text
  if digits.isEmpty then .error .malformed
  else
    match fraction? rest, exponent? ((fraction? rest).map (·.2) |>.getD rest) with
    | none, none => do pure (← wholeNumber negative digits, rest)
    | fraction, exponent =>
      let places := (fraction.map (·.1)).getD []
      let power := (exponent.map (·.1)).getD 0
      let rest := match fraction, exponent with
        | _, some (_, rest) => rest
        | some (_, rest), none => rest
        | none, none => rest
      .ok (.float (Binary64.ofDecimal negative (digitsValue (digits ++ places))
        (power - places.length)), rest)

def readWord (text : List Char) (form : String) (value : Json) : Reading (Json × List Char) :=
  orMalformed ((expect? form.toList text).map (value, ·))

/-- Reads a value that is neither a list nor an object. -/
def readScalar (text : List Char) : Reading (Json × List Char) :=
  match text with
  | '\x22' :: rest => orMalformed ((decode rest).map fun (s, rest) => (.str (String.ofList s), rest))
  | 'n' :: _ => readWord text "null" .null
  | 't' :: _ => readWord text "true" (.bool true)
  | 'f' :: _ => readWord text "false" (.bool false)
  | 'N' :: _ => readWord text "NaN" (.float .nan)
  | 'I' :: _ => readWord text "Infinity" (.float (.infinite false))
  | '-' :: 'I' :: _ => readWord text "-Infinity" (.float (.infinite true))
  | '-' :: rest => readNumber true rest
  | _ => readNumber false text

mutual

/-- Reads a value. Every step down or along takes one from the fuel and a character from the text. -/
def readValue : Nat → List Char → Reading (Json × List Char)
  | 0, _ => .error .malformed
  | fuel + 1, text =>
    match text with
    | '[' :: rest =>
      match skipBlank rest with
      | ']' :: rest => .ok (.arr [], rest)
      | rest => (readItems fuel rest).map fun (items, rest) => (.arr items, rest)
    | '\x7b' :: rest =>
      match skipBlank rest with
      | '\x7d' :: rest => .ok (.obj [], rest)
      | rest => (readMembers fuel rest).map fun (ms, rest) => (.obj (distinct ms), rest)
    | _ => readScalar text

def readItems : Nat → List Char → Reading (List Json × List Char)
  | 0, _ => .error .malformed
  | fuel + 1, text => do
    let (item, rest) ← readValue fuel text
    match skipBlank rest with
    | ']' :: rest => .ok ([item], rest)
    | ',' :: rest => do
      let (others, rest) ← readItems fuel (skipBlank rest)
      .ok (item :: others, rest)
    | _ => .error .malformed

def readMembers : Nat → List Char → Reading (List (String × Json) × List Char)
  | 0, _ => .error .malformed
  | fuel + 1, text =>
    match text with
    | '\x22' :: rest => do
      let (key, rest) ← orMalformed (decode rest)
      match skipBlank rest with
      | ':' :: rest => do
        let (item, rest) ← readValue fuel (skipBlank rest)
        match skipBlank rest with
        | '\x7d' :: rest => .ok ([(String.ofList key, item)], rest)
        | ',' :: rest => do
          let (others, rest) ← readMembers fuel (skipBlank rest)
          .ok ((String.ofList key, item) :: others, rest)
        | _ => .error .malformed
      | _ => .error .malformed
    | _ => .error .malformed

end

def parse (text : String) : Reading Json := do
  let cs := text.toList
  let (result, rest) ← readValue (2 * cs.length + 2) (skipBlank cs)
  if (skipBlank rest).isEmpty then pure result else throw .malformed

end StructuredOutput.Json
