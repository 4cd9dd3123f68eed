/-!
Floating-point numbers of the 64-bit binary format, held exactly as a sign, a mantissa and a power
of two, with correctly rounded arithmetic on exact fractions.
-/
namespace StructuredOutput.Numeral

/-- A number of the 64-bit binary format. A finite one stands for `mantissa * 2 ^ exponent` and is
built by `Binary64.ofRatio`, which gives each value one form: the mantissa has 53 bits, or the
exponent is the least one. -/
inductive Binary64 where
  | finite (negative : Bool) (mantissa : Nat) (exponent : Int)
  | infinite (negative : Bool)
  | nan
deriving DecidableEq

/-- The quotient rounded to the nearest whole number, halves to the even one. -/
def roundDiv (num den : Nat) : Nat :=
  let q := num / den
  let r := num % den
  if 2 * r < den then q
  else if den < 2 * r then q + 1
  else if q % 2 = 0 then q else q + 1

/-- The scale of a power with an integer exponent, as a numerator and a denominator. -/
def scale (base : Nat) : Int → Nat × Nat
  | .ofNat n => (base.pow n, 1)
  | .negSucc n => (1, base.pow (n + 1))

namespace Binary64

def minExponent : Int := -1074

def maxExponent : Int := 971

def zero (negative : Bool) : Binary64 := .finite negative 0 minExponent

/-- The exponent at which a positive fraction has a mantissa of 53 bits, or the least exponent. -/
def exponentOf (num den : Nat) : Int :=
  let guess : Int := (num.log2 : Int) - (den.log2 : Int) - 52
  let (up, down) := scale 2 (guess + 52)
  max minExponent (if num * down < den * up then guess - 1 else guess)

/-- The nearest number to a fraction, halves to the even mantissa; too large a fraction becomes
infinite. -/
def ofRatio (negative : Bool) (num den : Nat) : Binary64 :=
  if num = 0 then zero negative
  else
    let e := exponentOf num den
    let (up, down) := scale 2 e
    let m := roundDiv (num * down) (den * up)
    let (m, e) := if m = Nat.pow 2 53 then (Nat.pow 2 52, e + 1) else (m, e)
    if maxExponent < e then .infinite negative else .finite negative m e

/-- The nearest number to `digits * 10 ^ exponent`. Exponents far outside the format are cut off
before the power is formed. -/
def ofDecimal (negative : Bool) (digits : Nat) (exponent : Int) : Binary64 :=
  let size : Int := digits.log2 / 3 + 1
  if digits = 0 || exponent + size < -400 then zero negative
  else if 400 < exponent then .infinite negative
  else
    let (up, down) := scale 10 exponent
    ofRatio negative (digits * up) down

def ofInt (n : Int) : Binary64 := ofRatio (n < 0) n.natAbs 1

def ratio (mantissa : Nat) (exponent : Int) : Nat × Nat :=
  let (up, down) := scale 2 exponent
  (mantissa * up, down)

def isWhole : Binary64 → Bool
  | .finite _ m e => let (num, den) := ratio m e; num % den = 0
  | _ => false

/-- The integer that a number is, if it is finite and whole. -/
def toInt? : Binary64 → Option Int
  | .finite negative m e =>
    let (num, den) := ratio m e
    if num % den = 0 then
      let size : Int := num / den
      some (if negative then -size else size)
    else none
  | _ => none

/-- Whether a number is zero, of either sign. -/
def isZero : Binary64 → Bool
  | .finite _ m _ => m = 0
  | _ => false

def mul : Binary64 → Binary64 → Binary64
  | .nan, _ => .nan
  | _, .nan => .nan
  | .infinite s, .infinite t => .infinite (s != t)
  | .infinite s, .finite t m _ => if m = 0 then .nan else .infinite (s != t)
  | .finite s m _, .infinite t => if m = 0 then .nan else .infinite (s != t)
  | .finite s m e, .finite t n f =>
    let (num, den) := ratio (m * n) (e + f)
    ofRatio (s != t) num den

/-- The least natural number that is not below a number; zero for what has none. -/
def ceiling : Binary64 → Nat
  | .finite false m e => let (num, den) := ratio m e; (num + den - 1) / den
  | _ => 0

/-- Whether a whole number is at least this one; nothing is at least a number that is none. -/
def leInt (x : Binary64) (n : Int) : Bool :=
  match x with
  | .nan => false
  | .infinite negative => negative
  | .finite negative m e =>
    let (num, den) := ratio m e
    let value : Int := if negative then -(num : Int) else num
    value ≤ n * den

end Binary64

end StructuredOutput.Numeral
