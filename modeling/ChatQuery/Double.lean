/-!
Double-precision binary numbers, in exact arithmetic on natural numbers. A finite number is a whole
multiple of a power of two; rounding takes a quotient to the nearest one, a tie to the even one.
-/
namespace ChatQuery

/-- The finite number `mantissa * 2 ^ exponent`, negated if `negative`. Zero has the exponent of the
smallest numbers. -/
structure Double where
  negative : Bool
  mantissa : Nat
  exponent : Int
  deriving DecidableEq

namespace Double

/-- Mantissas stay below two to this power. -/
def precision : Nat := 53

def twoPow (n : Nat) : Nat := Nat.pow 2 n

def tenPow (n : Nat) : Nat := Nat.pow 10 n

def minExponent : Int := -1074

def maxExponent : Int := 971

/-- A quotient rounded to the nearest whole number, a tie to the even one. -/
def roundDiv (num den : Nat) : Nat :=
  let q := num / den
  let r := num % den
  if 2 * r < den then q else if den < 2 * r then q + 1 else q + q % 2

/-- The quotient `num / den` in units of a power of two, as a quotient. -/
def inUnits (exponent : Int) (num den : Nat) : Nat × Nat :=
  if 0 ≤ exponent then (num, den * twoPow exponent.toNat)
  else (num * twoPow (-exponent).toNat, den)

/-- The exponent at which a positive quotient has a mantissa of full precision, or the smallest
exponent if that is not small enough. -/
def exponentOf (num den : Nat) : Int :=
  let low : Int := (num.log2 : Int) - (den.log2 : Int) - precision
  let scaled := inUnits low num den
  max minExponent (if scaled.1 / scaled.2 < twoPow precision then low else low + 1)

/-- The nearest double-precision number to `num / den`, if it is not too large for one. -/
def ofRatio? (negative : Bool) (num den : Nat) : Option Double :=
  if num = 0 then some ⟨negative, 0, minExponent⟩
  else
    let e := exponentOf num den
    let m := roundDiv (inUnits e num den).1 (inUnits e num den).2
    let x : Double := if m = twoPow precision then ⟨negative, m / 2, e + 1⟩ else ⟨negative, m, e⟩
    if x.exponent ≤ maxExponent then some x else none

/-- The magnitude as a quotient. -/
def ratio (x : Double) : Nat × Nat :=
  if 0 ≤ x.exponent then (x.mantissa * twoPow x.exponent.toNat, 1)
  else (x.mantissa, twoPow (-x.exponent).toNat)

def mul? (x y : Double) : Option Double :=
  ofRatio? (x.negative ^^ y.negative) (x.ratio.1 * y.ratio.1) (x.ratio.2 * y.ratio.2)

def div? (x y : Double) : Option Double :=
  ofRatio? (x.negative ^^ y.negative) (x.ratio.1 * y.ratio.2) (x.ratio.2 * y.ratio.1)

example : ofRatio? false 1 1 = some ⟨false, 2 ^ 52, -52⟩ := by decide +kernel
example : ofRatio? false 1 10 = some ⟨false, 7205759403792794, -56⟩ := by decide +kernel
example : ofRatio? false (2 ^ 1024 - 2 ^ 970) 1 = none := by decide +kernel
example : ofRatio? false 1 (2 ^ 1074) = some ⟨false, 1, -1074⟩ := by decide +kernel
example : ofRatio? false 1 (2 ^ 1075) = some ⟨false, 0, -1074⟩ := by decide +kernel

end Double

end ChatQuery
