import ChatQuery.Json
import ChatQuery.Json.Spelling

/-!
The number that a numeral denotes. Whole numbers of 64 bits are kept exactly. All others become
double-precision numbers in two rounding steps: the leading digits that fit 64 bits, read as a whole
number, and then that number scaled by a power of ten, itself rounded.
-/
namespace ChatQuery.Json.Numeral

/-- The largest significand that is collected. -/
def maxSignificand : Nat := UInt64.size - 1

/-- Exponents beyond this one are not read. -/
def maxExponent : Nat := Double.twoPow 31 - 1

/-- Appends digits to a significand while it stays in range; the number of digits left over. -/
def collect (significand : Nat) : List Char → Nat × Nat
  | [] => (significand, 0)
  | d :: ds =>
    let next := significand * 10 + (d.toNat - '0'.toNat)
    if next ≤ maxSignificand then collect next ds else (significand, ds.length + 1)

/-- The largest power of ten that is in the range of double-precision numbers. -/
def maxPower : Nat := 308

def powerOfTen? (n : Nat) : Option Double := Double.ofRatio? false (Double.tenPow n) 1

/-- Multiplies with a power of ten. Powers out of range are applied in steps, until nothing is
left. -/
def scale? (x : Double) (power : Int) : Option Double :=
  if power.natAbs ≤ maxPower then
    if 0 ≤ power then (powerOfTen? power.natAbs).bind x.mul?
    else (powerOfTen? power.natAbs).bind x.div?
  else if x.mantissa = 0 then some x
  else if 0 ≤ power then none
  else ((powerOfTen? maxPower).bind x.div?).bind (scale? · (power + maxPower))
termination_by power.natAbs
decreasing_by simp only [maxPower] at *; omega

/-- A significand with a power of ten, read as a double-precision number. -/
def scaled? (negative : Bool) (significand : Nat) (power : Int) : Option Double :=
  (Double.ofRatio? negative significand 1).bind (scale? · power)

/-- A numeral with an exponent. An exponent out of range leaves zero, or is an error if the number
would be too large. -/
def withExponent? (negative : Bool) (significand : Nat) (power : Int) (down : Bool) (ds : List Char) :
    Option Double :=
  let exponent := ds.foldl (fun n d => n * 10 + (d.toNat - '0'.toNat)) 0
  if exponent ≤ maxExponent then
    scaled? negative significand (if down then power - exponent else power + exponent)
  else if significand ≠ 0 ∧ !down then none
  else Double.ofRatio? negative 0 1

/-- Whole numbers: from `-2 ^ 63` to `2 ^ 64 - 1`, except a negative zero. -/
def whole? (negative : Bool) (significand : Nat) : Option Json :=
  if negative then
    if significand ≠ 0 ∧ significand ≤ Double.twoPow 63 then some (.int (-significand))
    else (Double.ofRatio? true significand 1).map .float
  else some (.int significand)

/-- The value of a numeral, if it is not too large. -/
def value? (n : Numeral) : Option Json :=
  let whole := collect 0 n.whole
  if n.fraction = [] ∧ n.exponent = none ∧ whole.2 = 0 then whole? n.negative whole.1
  else
    let all := collect whole.1 n.fraction
    let power : Int := (whole.2 : Int) - ((n.fraction.length : Int) - (all.2 : Int))
    match n.exponent with
    | none => (scaled? n.negative all.1 power).map .float
    | some (down, ds) => (withExponent? n.negative all.1 power down ds).map .float

end ChatQuery.Json.Numeral
