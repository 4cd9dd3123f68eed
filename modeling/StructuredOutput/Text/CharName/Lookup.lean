import StructuredOutput.Text.CharName.Alias
import StructuredOutput.Text.CharName.Basic
import StructuredOutput.Text.CharName.Supplement
import StructuredOutput.Text.Ranges

/-!
Characters by name. Most names stand in tables, in which a name is written behind the count of
characters that it shares with the name before it, in letters as digits of base 26. The names of
ideographs and of Hangul syllables follow rules: the former end in the code point, the latter in the
sounds of the syllable.
-/
namespace StructuredOutput.Text.CharName

/-! ## Tables -/

/-- The count that letters stand for. -/
def shared (letters : List Char) : Nat := letters.foldl (fun n c => 26 * n + (c.toNat - 97)) 0

/-- Writes out the names of a run, `last` being the name before them. Every name takes a letter at
least, so as many steps as there are characters are enough. -/
def unpackWithin : Nat → List Char → List Char → List (List Char)
  | 0, _, _ => []
  | n + 1, last, text =>
    if text.isEmpty then []
    else
      let (letters, text) := text.span Char.isLower
      let (ending, text) := text.span fun c => !c.isLower
      let name := last.take (shared letters) ++ ending
      name :: unpackWithin n name text

def unpack (lines : List String) : List (List Char) :=
  let text := lines.flatMap String.toList
  unpackWithin text.length [] text

def inTable? (table : List (Nat × List String)) (name : List Char) : Option Nat :=
  table.findSome? fun (first, names) => ((unpack names).findIdx? (· = name)).map (first + ·)

/-! ## Rules -/

def ideographs : Ranges :=
  [(0x3400, 0x4dbf), (0x4e00, 0x9fff), (0x20000, 0x2a6df), (0x2a700, 0x2b738), (0x2b740, 0x2b81d),
   (0x2b820, 0x2cea1), (0x2ceb0, 0x2ebe0), (0x30000, 0x3134a)]

/-- The value of a digit of base sixteen, capitals only. -/
def hexValue? (c : Char) : Option Nat :=
  if c.isDigit then some (c.toNat - 48)
  else if 'A' ≤ c && c ≤ 'F' then some (c.toNat - 55)
  else none

def ideograph? (digits : List Char) : Option Nat := do
  if digits.length ≠ 4 && digits.length ≠ 5 then none
  let n ← digits.foldlM (fun n c => (hexValue? c).map (16 * n + ·)) 0
  if ideographs.holds n then some n else none

def leads : List String :=
  ["G", "GG", "N", "D", "DD", "R", "M", "B", "BB", "S", "SS", "", "J", "JJ", "C", "K", "T", "P", "H"]

def vowels : List String :=
  ["A", "AE", "YA", "YAE", "EO", "E", "YEO", "YE", "O", "WA", "WAE", "OE", "YO", "U", "WEO", "WE",
   "WI", "YU", "EU", "YI", "I"]

def tails : List String :=
  ["", "G", "GG", "GS", "N", "NJ", "NH", "D", "L", "LG", "LM", "LB", "LS", "LT", "LP", "LH", "M", "B",
   "BS", "S", "SS", "NG", "J", "C", "K", "T", "P", "H"]

/-- The longest sound that a text starts with: its place among the sounds, and the rest of the text. -/
def sound? (sounds : List String) (text : List Char) : Option (Nat × List Char) :=
  let fits := sounds.zipIdx.filter fun (sound, _) => sound.toList.isPrefixOf text
  let longest := fits.foldl (fun n (sound, _) => max n sound.length) 0
  (fits.find? fun (sound, _) => sound.length = longest).map fun (_, i) => (i, text.drop longest)

def syllable? (text : List Char) : Option Nat := do
  let (lead, text) ← sound? leads text
  let (vowel, text) ← sound? vowels text
  let (tail, text) ← sound? tails text
  if text.isEmpty then some (0xac00 + (lead * 21 + vowel) * 28 + tail) else none

/-! ## Lookup -/

def after? (start : String) (text : List Char) : Option (List Char) :=
  if start.toList.isPrefixOf text then some (text.drop start.length) else none

/-- The code point of a name. A name from a table may be given in any case. -/
def find? (name : List Char) : Option Nat :=
  match after? "HANGUL SYLLABLE " name, after? "CJK UNIFIED IDEOGRAPH-" name with
  | some sounds, _ => syllable? sounds
  | none, some digits => ideograph? digits
  | none, none =>
    let name := name.map Char.toUpper
    [basicNames, aliases, supplementNames].findSome? (inTable? · name)

end StructuredOutput.Text.CharName
