import StructuredOutput.Fault
import StructuredOutput.Numeral.Entry
import StructuredOutput.Pattern.Basic
import StructuredOutput.Text.CharName.Lookup
import StructuredOutput.Text.Identifier

/-!
The signs that patterns are written with. A text is cut into tokens, a backslash and the character
behind it being one, and a sign is read from the tokens in front.
-/
namespace StructuredOutput.Pattern

/-! ## Tokens -/

/-- A token: a character, a character behind a backslash, or a backslash at the end. -/
inductive Token where
  | plain (c : Char)
  | escaped (c : Char)
  | dangling
deriving DecidableEq

def tokens : List Char → List Token
  | [] => []
  | '\\' :: c :: rest => .escaped c :: tokens rest
  | '\\' :: [] => [.dangling]
  | c :: rest => .plain c :: tokens rest

def Token.chars : Token → List Char
  | plain c => [c]
  | escaped c => ['\\', c]
  | dangling => ['\\']

def Token.isPlain (p : Char → Bool) : Token → Bool
  | plain c => p c
  | _ => false

/-- What stands in front of a closing character, and what stands behind it. There has to be something
in front. -/
def until? (close : Char) (text : List Token) : Option (List Char × List Token) :=
  match text.span (· ≠ .plain close) with
  | (t :: front, _ :: rest) => some ((t :: front).flatMap Token.chars, rest)
  | _ => none

/-- Drops what stands in front of a character, and the character if it is there. -/
def skipPast? (close : Char) (text : List Token) : Option (List Token) :=
  let (front, rest) := text.span (· ≠ .plain close)
  if front.contains .dangling then none else some (rest.drop 1)

/-! ## Numbers -/

def digit? (base : Nat) (c : Char) : Option Nat :=
  let d := if c.isDigit then c.toNat - 48
    else if 'a' ≤ c && c ≤ 'f' then c.toNat - 87
    else if 'A' ≤ c && c ≤ 'F' then c.toNat - 55
    else base
  if d < base then some d else none

/-- Reads digits of a base in front of a text, at most `most` of them: how many there are, the value of
all with those read before, and the rest. -/
def number (base : Nat) : Nat → Nat → Nat → List Token → Nat × Nat × List Token
  | most + 1, count, value, .plain c :: rest =>
    match digit? base c with
    | some d => number base most (count + 1) (value * base + d) rest
    | none => (count, value, .plain c :: rest)
  | _, count, value, rest => (count, value, rest)

/-- Reads a code point given by a fixed count of hexadecimal digits. -/
def hex? (width : Nat) (text : List Token) : Option (Nat × List Token) :=
  let (count, value, rest) := number 16 width 0 0 text
  if count = width then some (value, rest) else none

/-- Reads the rest of a code point in base eight, of which one digit is read, within 255. -/
def octal? (most : Nat) (digit : Nat) (text : List Token) : Option (Nat × List Token) :=
  let (_, value, rest) := number 8 most 1 digit text
  if 255 < value then none else some (value, rest)

/-! ## Escapes -/

def kind? : Char → Option Item
  | 'd' => some (.kind .digit true)
  | 'D' => some (.kind .digit false)
  | 's' => some (.kind .blank true)
  | 'S' => some (.kind .blank false)
  | 'w' => some (.kind .word true)
  | 'W' => some (.kind .word false)
  | _ => none

def anchor? (ascii : Bool) : Char → Option Anchor
  | 'A' => some .textStart
  | 'Z' => some .textEnd
  | 'b' => some (.wordEdge true ascii)
  | 'B' => some (.wordEdge false ascii)
  | _ => none

def control? : Char → Option Nat
  | 'a' => some 7
  | 'f' => some 12
  | 'n' => some 10
  | 'r' => some 13
  | 't' => some 9
  | 'v' => some 11
  | _ => none

def named? : List Token → Option (Nat × List Token)
  | .plain '\x7b' :: rest => do
    let (name, rest) ← until? '\x7d' rest
    some (← Text.CharName.find? name, rest)
  | _ => none

def escape? (c : Char) (rest : List Token) : Option (Nat × List Token) :=
  match control? c with
  | some n => some (n, rest)
  | none =>
    match c with
    | 'x' => hex? 2 rest
    | 'u' => hex? 4 rest
    | 'U' => (hex? 8 rest).filter fun (n, _) => n < 0x110000
    | 'N' => named? rest
    | _ => if c.isAlpha || c.isDigit then none else some (c.toNat, rest)

/-! ## Classes -/

def member? (token : Token) (rest : List Token) : Option (Item × List Token) :=
  match token with
  | .plain c => some (.single c.toNat, rest)
  | .escaped 'b' => some (.single 8, rest)
  | .escaped c =>
    match kind? c, digit? 8 c with
    | some item, _ => some (item, rest)
    | none, some d => (octal? 2 d rest).map fun (n, rest) => (.single n, rest)
    | none, none => (escape? c rest).map fun (n, rest) => (.single n, rest)
  | .dangling => none

/-- Reads the members of a class up to its end. A bracket in the first place is a member, and so is a
hyphen in the last. -/
def members? : Nat → List Item → List Token → Option (List Item × List Token)
  | 0, _, _ => none
  | _, _, [] => none
  | n + 1, items, token :: text =>
    if token = .plain ']' && !items.isEmpty then some (items, text)
    else do
      let (item, text) ← member? token text
      match text with
      | .plain '-' :: .plain ']' :: rest => some (items ++ [item, .single '-'.toNat], rest)
      | .plain '-' :: token :: rest =>
        let (last, rest) ← member? token rest
        match item, last with
        | .single low, .single high =>
          if high < low then none else members? n (items ++ [.range low high]) rest
        | _, _ => none
      | [.plain '-'] => none
      | _ => members? n (items ++ [item]) text

/-- Reads a class behind its opening bracket: its members, whether it holds all others, and the rest. -/
def class? (text : List Token) : Option (List Item × Bool × List Token) :=
  match text with
  | .plain '^' :: rest => (members? (rest.length + 1) [] rest).map fun (m, rest) => (m, true, rest)
  | _ => (members? (text.length + 1) [] text).map fun (m, rest) => (m, false, rest)

/-! ## Counts -/

/-- The first count that is too large. -/
def countEnd : Nat := Nat.pow 2 32 - 1

def count (digits value : Nat) : Except PatternFault Nat :=
  if Numeral.maxDigits < digits then .error .numberTooLong
  else if countEnd ≤ value then .error .countTooLarge
  else .ok value

/-- Reads counts behind an opening brace. What is no count leaves the brace standing for itself. -/
def counts? (text : List Token) :
    Except PatternFault (Option (Nat × Option Nat × List Token)) := do
  let (lowDigits, low, rest) := number 10 text.length 0 0 text
  let (highDigits, high, rest, lone) := match rest with
    | .plain ',' :: rest =>
      let (digits, high, rest) := number 10 rest.length 0 0 rest
      (digits, high, rest, false)
    | _ => (lowDigits, low, rest, true)
  match rest with
  | .plain '\x7d' :: rest =>
    if lone && lowDigits = 0 then pure none
    else if rest.head? = some .dangling then throw .malformed
    else
      let least ← count lowDigits low
      if highDigits = 0 then pure (some (least, none, rest))
      else
        let most ← count highDigits high
        if most < least then throw .malformed
        pure (some (least, some most, rest))
  | _ => pure none

def manner : List Token → Manner × List Token
  | .plain '?' :: rest => (.few, rest)
  | .plain '+' :: rest => (.all, rest)
  | rest => (.many, rest)

/-! ## Groups -/

inductive Opening where
  | plain
  | group (name : Option (List Char))
  | again (name : List Char)
  | given (name : List Char)
  | look (wanted behind : Bool)
  | atomic
  | flagged (on off : List Char)
  | flags (on : List Char)
  | comment

/-- Reads the letters that switch flags on and off, in front of a colon or a closing parenthesis. -/
def switches? (text : List Token) : Option (Opening × List Token) :=
  let isSwitch := Token.isPlain fun c => "aiLmstux".toList.contains c
  let (on, rest) := text.span isSwitch
  let on := on.flatMap Token.chars
  if on.contains 'L' || (on.contains 'a' && on.contains 'u') then none
  else
    match rest with
    | .plain ')' :: rest => if on.isEmpty then none else some (.flags on, rest)
    | .plain ':' :: rest => if on.isEmpty || on.contains 't' then none else some (.flagged on [], rest)
    | .plain '-' :: rest =>
      let (off, rest) := rest.span isSwitch
      let off := off.flatMap Token.chars
      match rest with
      | .plain ':' :: rest =>
        if on.contains 't' || off.isEmpty || off.any (fun c => "aLtu".toList.contains c || on.contains c)
        then none
        else some (.flagged on off, rest)
      | _ => none
    | _ => none

def opening? : List Token → Option (Opening × List Token)
  | .plain '?' :: .plain ':' :: rest => some (.plain, rest)
  | .plain '?' :: .plain '=' :: rest => some (.look true false, rest)
  | .plain '?' :: .plain '!' :: rest => some (.look false false, rest)
  | .plain '?' :: .plain '<' :: .plain '=' :: rest => some (.look true true, rest)
  | .plain '?' :: .plain '<' :: .plain '!' :: rest => some (.look false true, rest)
  | .plain '?' :: .plain '>' :: rest => some (.atomic, rest)
  | .plain '?' :: .plain 'P' :: .plain '<' :: rest =>
    (until? '>' rest).map fun (name, rest) => (.group (some name), rest)
  | .plain '?' :: .plain 'P' :: .plain '=' :: rest =>
    (until? ')' rest).map fun (name, rest) => (.again name, rest)
  | .plain '?' :: .plain '(' :: rest => (until? ')' rest).map fun (name, rest) => (.given name, rest)
  | .plain '?' :: .plain '#' :: rest =>
    if rest.contains (.plain ')') then (skipPast? ')' rest).map fun rest => (.comment, rest) else none
  | .plain '?' :: rest => switches? rest
  | rest => some (.group none, rest)

end StructuredOutput.Pattern
