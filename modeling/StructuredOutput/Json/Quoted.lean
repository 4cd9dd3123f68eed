/-!
Strings in JSON notation. Only the quote, the backslash and the characters below U+0020 are escaped
when a string is written; `decode` reads every escape of the notation.
-/
namespace StructuredOutput.Json

def hexValue? (c : Char) : Option Nat :=
  if '0' ≤ c && c ≤ '9' then some (c.toNat - 48)
  else if 'a' ≤ c && c ≤ 'f' then some (c.toNat - 87)
  else if 'A' ≤ c && c ≤ 'F' then some (c.toNat - 55)
  else none

def hex4 (n : Nat) : List Char :=
  [Nat.digitChar (n / 4096 % 16), Nat.digitChar (n / 256 % 16), Nat.digitChar (n / 16 % 16),
   Nat.digitChar (n % 16)]

def unhex4? (a b c d : Char) : Option Nat := do
  let a ← hexValue? a
  let b ← hexValue? b
  let c ← hexValue? c
  let d ← hexValue? d
  some (((a * 16 + b) * 16 + c) * 16 + d)

def escape (c : Char) : List Char :=
  if c = '\x22' then ['\\', '\x22']
  else if c = '\\' then ['\\', '\\']
  else if c = '\n' then ['\\', 'n']
  else if c = '\r' then ['\\', 'r']
  else if c = '\t' then ['\\', 't']
  else if c = '\x08' then ['\\', 'b']
  else if c = '\x0c' then ['\\', 'f']
  else if c.toNat < 32 then '\\' :: 'u' :: hex4 c.toNat
  else [c]

def encode (text : List Char) : List Char := text.flatMap escape

def quoteString (text : String) : String :=
  String.ofList ('\x22' :: encode text.toList ++ ['\x22'])

/-- The character behind a backslash that stands for one other character. -/
def unescape? (c : Char) : Option Char :=
  if c = '\x22' || c = '\\' || c = '/' then some c
  else if c = 'n' then some '\n'
  else if c = 'r' then some '\r'
  else if c = 't' then some '\t'
  else if c = 'b' then some '\x08'
  else if c = 'f' then some '\x0c'
  else none

def consDecoded (c : Char) : Option (List Char × List Char) → Option (List Char × List Char)
  | none => none
  | some (text, rest) => some (c :: text, rest)

/-- The character of two UTF-16 units, if they are a high and a low surrogate. -/
def joinSurrogates? (high low : Nat) : Option Char :=
  if 0xD800 ≤ high && high < 0xDC00 && 0xDC00 ≤ low && low < 0xE000 then
    some (Char.ofNat (0x10000 + (high - 0xD800) * 0x400 + (low - 0xDC00)))
  else none

/-- Reads the inside of a quoted string up to and with the closing quote, and gives what stands
behind it. A surrogate without its partner reads as the replacement character, since a text cannot
hold it. -/
def decode : List Char → Option (List Char × List Char)
  | [] => none
  | '\\' :: 'u' :: a :: b :: c :: d :: '\\' :: 'u' :: e :: f :: g :: h :: rest =>
    match unhex4? a b c d, unhex4? e f g h with
    | some high, some low =>
      match joinSurrogates? high low with
      | some joined => consDecoded joined (decode rest)
      | none =>
        consDecoded (if 0xD800 ≤ high && high < 0xE000 then '\ufffd' else Char.ofNat high)
          (decode ('\\' :: 'u' :: e :: f :: g :: h :: rest))
    | some high, none =>
      consDecoded (Char.ofNat high) (decode ('\\' :: 'u' :: e :: f :: g :: h :: rest))
    | none, _ => none
  | '\\' :: 'u' :: a :: b :: c :: d :: rest =>
    match unhex4? a b c d with
    | some n =>
      consDecoded (if 0xD800 ≤ n && n < 0xE000 then '\ufffd' else Char.ofNat n) (decode rest)
    | none => none
  | '\\' :: c :: rest =>
    match unescape? c with
    | some plain => consDecoded plain (decode rest)
    | none => none
  | c :: rest =>
    if c = '\x22' then some ([], rest)
    else if c.toNat < 32 || c = '\\' then none
    else consDecoded c (decode rest)
termination_by text => text.length

end StructuredOutput.Json
