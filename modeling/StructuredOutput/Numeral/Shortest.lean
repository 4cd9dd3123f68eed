import StructuredOutput.Numeral.Binary64

/-!
The decimal text of a binary number: the fewest digits that read back as the number, laid out
either positionally or with an exponent, and the text with one decimal place.
-/
namespace StructuredOutput.Numeral

/-- Decimal digits and the position of the point: `digits` stands for
`0.d₁d₂… * 10 ^ point`, written with `count` digits. -/
structure Decimal where
  digits : Nat
  count : Nat
  point : Int

namespace Binary64

/-- The power of ten just above a positive fraction: `10 ^ (p - 1) ≤ num / den < 10 ^ p`. -/
def pointOf (num den : Nat) : Int :=
  let guess : Int := ((num.log2 : Int) - (den.log2 : Int)) * 30103 / 100000
  let below (p : Int) : Bool := let (up, down) := scale 10 p; num * down < den * up
  if below guess then (if below (guess - 1) then guess - 1 else guess)
  else if below (guess + 1) then guess + 1
  else guess + 2

/-- The point of the grid with `count` digits that reads back as the number, the nearer one if both
neighbours of the number do, and of two equally near ones the even one. -/
def onGrid? (mantissa : Nat) (exponent point : Int) (count : Nat) : Option Nat :=
  let step := point - count
  let (num, den) := ratio mantissa exponent
  let (up, down) := scale 10 step
  let low := num * down / (den * up)
  let back (d : Nat) : Bool := ofDecimal false d step = .finite false mantissa exponent
  if back low then
    if back (low + 1) then some (roundDiv (num * down) (den * up)) else some low
  else if back (low + 1) then some (low + 1) else none

/-- The fewest digits that read back as a positive finite number. Seventeen always do. -/
def shortest (mantissa : Nat) (exponent : Int) : Decimal :=
  let (num, den) := ratio mantissa exponent
  let point := pointOf num den
  let found := (List.range 17).findSome? fun n =>
    (onGrid? mantissa exponent point (n + 1)).map fun d => (d, n + 1)
  let (digits, count) := found.getD (num, 17)
  if digits = Nat.pow 10 count then ⟨1, 1, point + 1⟩ else ⟨digits, count, point⟩

/-- The number with one decimal place, halves to the even digit. -/
def oneDecimal : Binary64 → String
  | .nan => "nan"
  | .infinite negative => if negative then "-inf" else "inf"
  | .finite negative m e =>
    let (num, den) := ratio m e
    let tenths := roundDiv (num * 10) den
    (if negative then "-" else "") ++ toString (tenths / 10) ++ "." ++ toString (tenths % 10)

end Binary64

/-- How numbers are laid out: which positions of the point are written positionally, and the texts
of the values that are not finite. -/
structure Layout where
  leastPoint : Int
  greatestPoint : Int
  infinity : String
  nan : String

namespace Layout

/-- Numbers are positional from `0.0001` to below `10 ^ 16`. -/
def plain : Layout := ⟨-3, 16, "inf", "nan"⟩

/-- The same for JSON text, with the words of that notation. -/
def json : Layout := ⟨-3, 16, "Infinity", "NaN"⟩

/-- Digits with the point inside, in front, or followed by one zero. -/
def positional (ds : List Char) (point : Int) : List Char :=
  let zeros (n : Int) : List Char := List.replicate n.toNat '0'
  if point ≤ 0 then '0' :: '.' :: zeros (-point) ++ ds
  else if ds.length ≤ point then ds ++ zeros (point - ds.length) ++ ['.', '0']
  else ds.take point.toNat ++ '.' :: ds.drop point.toNat

/-- Digits with the point behind the first and an exponent of at least two digits. -/
def scientific (ds : List Char) (point : Int) : List Char :=
  let e := point - 1
  let size := (toString e.natAbs).toList
  let size := if size.length < 2 then '0' :: size else size
  let fraction := if ds.length ≤ 1 then [] else '.' :: ds.drop 1
  ds.take 1 ++ fraction ++ 'e' :: (if e < 0 then '-' else '+') :: size

def text (layout : Layout) : Binary64 → String
  | .nan => layout.nan
  | .infinite negative => (if negative then "-" else "") ++ layout.infinity
  | .finite negative m e =>
    let digits := if m = 0 then ['0', '.', '0']
      else
        let d := Binary64.shortest m e
        let ds := (toString d.digits).toList
        if layout.leastPoint ≤ d.point && d.point ≤ layout.greatestPoint then positional ds d.point
        else scientific ds d.point
    (if negative then "-" else "") ++ String.ofList digits

end Layout

end StructuredOutput.Numeral
