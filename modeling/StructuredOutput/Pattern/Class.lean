import StructuredOutput.Text.Blank
import StructuredOutput.Text.Digit
import StructuredOutput.Text.LetterCase
import StructuredOutput.Text.WordChar

/-!
Classes of characters in a pattern. Members are code points, so a class may also name those that are no
characters. Where case is set aside, a character is looked up by its lower case, and a class holds the
lower case of its members together with what shares their upper case.
-/
namespace StructuredOutput.Pattern

structure Flags where
  anyCase : Bool := false
  eachLine : Bool := false
  dotAll : Bool := false
  ascii : Bool := false
  spaced : Bool := false

inductive Kind where
  | digit
  | blank
  | word
deriving DecidableEq

/-- Whether a character is of a kind, within ASCII if that is asked for. -/
def Kind.holds (ascii : Bool) (c : Char) : Kind → Bool
  | digit => Text.isDigit c && (!ascii || c.toNat < 128)
  | blank => if ascii then c = ' ' || ('\t' ≤ c && c ≤ '\r') else Text.isBlank c
  | word => Text.isWordChar c && (!ascii || c.toNat < 128)

/-- A member of a class as it is written: a code point, a range, or what is, or is not, of a kind. -/
inductive Item where
  | single (n : Nat)
  | range (low high : Nat)
  | kind (kind : Kind) (holds : Bool)
deriving DecidableEq

/-! ## Case -/

inductive Fold where
  | none
  | ascii
  | full

def Fold.apply : Fold → Nat → Nat
  | none, n => n
  | ascii, n => if 65 ≤ n && n ≤ 90 then n + 32 else n
  | full, n => Text.lowerCase n

/-- How characters are looked up where case is set aside. -/
def Flags.fold (flags : Flags) : Fold := if flags.ascii then .ascii else .full

def Flags.isCased (flags : Flags) (n : Nat) : Bool :=
  if flags.ascii then (65 ≤ n && n ≤ 90) || (97 ≤ n && n ≤ 122) else Text.isCased n

/-- A code point in lower case with all that share its upper case. -/
def Flags.withAlike (flags : Flags) (n : Nat) : List Nat :=
  if flags.ascii then [n] else n :: Text.alike n

def Flags.lowerRuns (flags : Flags) : List Text.CaseRun :=
  if flags.ascii then [(65, 90, 1, 97)] else Text.lowerRuns

def Flags.upperRuns (flags : Flags) : List Text.CaseRun :=
  if flags.ascii then [(97, 122, 1, 65)] else Text.upperRuns

/-- Whether a range holds a code point that has a form in another case. -/
def Flags.isCasedRange (flags : Flags) (low high : Nat) : Bool :=
  (flags.lowerRuns ++ flags.upperRuns).any fun run => !(run.within low high).isEmpty

def Flags.added (flags : Flags) (low high : Nat) : List Nat :=
  let lowered := flags.lowerRuns.flatMap fun run => (run.within low high).map run.move
  let alike := if flags.ascii then [] else
    (Text.sharedCases.filter fun (n, _) => (low ≤ n && n ≤ high) || lowered.contains n).flatMap (·.2)
  (lowered ++ alike).filter fun n => n < low || high < n

/-! ## Classes -/

/-- A part of a class. A loose range holds what is in it or has its upper case in it. -/
inductive Part where
  | range (low high : Nat)
  | loose (low high : Nat)
  | kind (kind : Kind) (holds ascii : Bool)

def Part.holds (n : Nat) : Part → Bool
  | range low high => low ≤ n && n ≤ high
  | loose low high =>
    (low ≤ n && n ≤ high) || (low ≤ Text.upperCase n && Text.upperCase n ≤ high)
  | kind k holds ascii => k.holds ascii (Char.ofNat n) == holds

structure Class where
  parts : List Part
  negated : Bool := false
  fold : Fold := .none

namespace Class

def holds (k : Class) (c : Char) : Bool :=
  let n := k.fold.apply c.toNat
  (k.parts.any fun part => part.holds n) != k.negated

/-- The class of one code point, or of all others. -/
def ofSingle (flags : Flags) (n : Nat) (negated : Bool) : Class :=
  if flags.anyCase && flags.isCased n then
    { parts := (flags.withAlike (flags.fold.apply n)).map fun m => .range m m
      negated, fold := flags.fold }
  else { parts := [.range n n], negated }

/-- The class of every character, line ends left out unless the flags take them in. -/
def ofAny (flags : Flags) : Class :=
  if flags.dotAll then { parts := [], negated := true } else { parts := [.range 10 10], negated := true }

def basicEnd : Nat := 0x10000

/-- Whether a member calls for looking characters up by their lower case. -/
def isCasedItem (flags : Flags) : Item → Bool
  | .single n => basicEnd ≤ n || flags.isCased n
  | .range low high => basicEnd ≤ high || flags.isCasedRange low high
  | .kind .. => false

def plainParts (flags : Flags) : Item → List Part
  | .single n => [.range n n]
  | .range low high => [.range low high]
  | .kind k holds => [.kind k holds flags.ascii]

/-- The parts of a member where case is set aside. Beyond the basic plane a single member counts as it
is written, and a range is loose. -/
def foldedParts (flags : Flags) : Item → List Part
  | .single n =>
    if basicEnd ≤ n then [.range n n]
    else (flags.withAlike (flags.fold.apply n)).map fun m => .range m m
  | .range low high =>
    if basicEnd ≤ high then
      .loose low high :: (flags.added low (basicEnd - 1)).map fun m => .range m m
    else .range low high :: (flags.added low high).map fun m => .range m m
  | .kind k holds => [.kind k holds flags.ascii]

/-- The class of some members, or of all other characters. -/
def ofItems (flags : Flags) (items : List Item) (negated : Bool) : Class :=
  if flags.anyCase && items.any (isCasedItem flags) then
    { parts := items.flatMap (foldedParts flags), negated, fold := flags.fold }
  else { parts := items.flatMap (plainParts flags), negated }

end Class

end StructuredOutput.Pattern
