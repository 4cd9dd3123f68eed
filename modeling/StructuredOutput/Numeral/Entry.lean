import StructuredOutput.Numeral.Binary64
import StructuredOutput.Text.Blank
import StructuredOutput.Text.Digit

/-!
Numbers as they are typed in: blanks around them are passed over, an underscore may stand between two
digits, and the decimal digits of every script count.
-/
namespace StructuredOutput.Numeral

/-- Whether a character may stand around a typed number. -/
def isMargin (c : Char) : Bool :=
  if c.toNat < 128 then c = ' ' || ('\t' ≤ c && c ≤ '\r') else Text.isBlank c

/-- A text without what may stand around a typed number, every decimal digit in its plain form. -/
def plainEntry (text : String) : List Char :=
  let inner := ((text.toList.dropWhile isMargin).reverse.dropWhile isMargin).reverse
  inner.map fun c =>
    match Text.digitValue? c with
    | some d => Char.ofNat (48 + d)
    | none => c

/-- Drops underscores that stand between two digits, and refuses any other. -/
def dropUnderscores : List Char → Option (List Char)
  | [] => some []
  | c :: '_' :: d :: rest =>
    if c.isDigit && d.isDigit then (dropUnderscores (d :: rest)).map (c :: ·) else none
  | c :: rest => if c = '_' || rest = ['_'] then none else (dropUnderscores rest).map (c :: ·)

/-- Takes the sign off a number; the first part says whether it is negative. -/
def splitSign : List Char → Bool × List Char
  | '-' :: rest => (true, rest)
  | '+' :: rest => (false, rest)
  | text => (false, text)

def digitsValue (digits : List Char) : Nat := digits.foldl (fun n c => 10 * n + (c.toNat - 48)) 0

/-- The most digits that a typed whole number may have. -/
def maxDigits : Nat := 4300

def intEntry? (text : String) : Option Int := do
  let (negative, digits) := splitSign (← dropUnderscores (plainEntry text))
  if digits.isEmpty || maxDigits < digits.length || !digits.all Char.isDigit then none
  some (if negative then -(digitsValue digits : Int) else digitsValue digits)

/-- Reads an exponent, or nothing in its stead. -/
def exponentEntry? : List Char → Option Int
  | [] => some 0
  | mark :: rest =>
    let (negative, digits) := splitSign rest
    if (mark = 'e' || mark = 'E') && !digits.isEmpty && digits.all Char.isDigit then
      some (if negative then -(digitsValue digits : Int) else digitsValue digits)
    else none

/-- Reads a typed number without its sign, a fraction or an exponent allowed. -/
def decimalEntry? (negative : Bool) (text : List Char) : Option Binary64 := do
  let (whole, rest) := text.span Char.isDigit
  let (places, rest) := match rest with
    | '.' :: rest => rest.span Char.isDigit
    | _ => ([], rest)
  if whole.isEmpty && places.isEmpty then none
  let exponent ← exponentEntry? rest
  some (.ofDecimal negative (digitsValue (whole ++ places)) (exponent - places.length))

/-- Reads a typed number, also one that is infinite or none. -/
def floatEntry? (text : String) : Option Binary64 := do
  let (negative, rest) := splitSign (← dropUnderscores (plainEntry text))
  match String.ofList (rest.map Char.toLower) with
  | "inf" | "infinity" => some (.infinite negative)
  | "nan" => some .nan
  | _ => decimalEntry? negative rest

end StructuredOutput.Numeral
