import ChatQuery.Double

/-!
The shortest decimal number that reads back as a given double-precision number: of all decimal
numbers that round to it, those with the fewest digits, and of these the nearest.
-/
namespace ChatQuery.Double

def digitCount (n : Nat) : Nat := (Nat.toDigits 10 n).length

/-- The power of ten of the first digit of a positive quotient. -/
def leadingPower (num den : Nat) : Int :=
  if den ≤ num then (digitCount (num / den) : Int) - 1
  else -(digitCount ((den + num - 1) / num - 1) : Int)

/-- The ends of the interval of real numbers that round to a mantissa, in quarters of its unit. The
step below a power of two is half as wide as the step above. -/
def quarters (mantissa : Nat) (exponent : Int) : Nat × Nat :=
  if mantissa = twoPow (precision - 1) ∧ minExponent < exponent then
    (4 * mantissa - 1, 4 * mantissa + 2)
  else (4 * mantissa - 2, 4 * mantissa + 2)

/-- Whether `digits * 10 ^ power` rounds to the number. The ends of the interval belong to it if the
mantissa is even. -/
def roundsTo (x : Double) (digits : Nat) (power : Int) : Bool :=
  let ten := if 0 ≤ power then (digits * tenPow power.toNat, 1) else (digits, tenPow (-power).toNat)
  let unit := ratio { x with mantissa := 1 }
  let value := 4 * ten.1 * unit.2
  let low := (quarters x.mantissa x.exponent).1 * unit.1 * ten.2
  let high := (quarters x.mantissa x.exponent).2 * unit.1 * ten.2
  if x.mantissa % 2 = 0 then low ≤ value ∧ value ≤ high else low < value ∧ value < high

/-- The magnitude divided by `10 ^ power`, as a quotient. -/
def inPowers (x : Double) (power : Int) : Nat × Nat :=
  if 0 ≤ power then (x.ratio.1, x.ratio.2 * tenPow power.toNat)
  else (x.ratio.1 * tenPow (-power).toNat, x.ratio.2)

/-- The multiple of `10 ^ power` that is nearest to the number among its two neighbours that round
to it. -/
def neighbour? (x : Double) (power : Int) : Option Nat :=
  let scaled := inPowers x power
  let below := scaled.1 / scaled.2
  let nearest := roundDiv scaled.1 scaled.2
  let other := if nearest = below then below + 1 else below
  if roundsTo x nearest power then some nearest
  else if roundsTo x other power then some other
  else none

/-- Tries ever finer powers of ten; with 17 digits there is always a hit. -/
def search (x : Double) (power : Int) : Nat → Nat × Int
  | 0 => (roundDiv (inPowers x power).1 (inPowers x power).2, power)
  | tries + 1 =>
    match neighbour? x power with
    | some d => (d, power)
    | none => search x (power - 1) tries

def stripZeros : Nat → Nat × Int → Nat × Int
  | 0, p => p
  | n + 1, p => if p.1 ≠ 0 ∧ p.1 % 10 = 0 then stripZeros n (p.1 / 10, p.2 + 1) else p

/-- The digits, as a number that does not end in zero, and the power of ten they are multiplied
with. -/
def shortest (x : Double) : Nat × Int :=
  stripZeros 17 (search x (leadingPower x.ratio.1 x.ratio.2) 17)

def decimal? (negative : Bool) (digits : Nat) (power : Int) : Option Double :=
  if 0 ≤ power then ofRatio? negative (digits * tenPow power.toNat) 1
  else ofRatio? negative digits (tenPow (-power).toNat)

example : (decimal? false 1 (-1)).map shortest = some (1, -1) := by decide +kernel
example : (decimal? false 5 (-324)).map shortest = some (5, -324) := by decide +kernel
example : (decimal? false 3 (-324)).map shortest = some (5, -324) := by decide +kernel
example : (decimal? false 17976931348623157 292).map shortest =
    some (17976931348623157, 292) := by decide +kernel
example : (decimal? false 9007199254740993 0).map shortest = some (9007199254740992, 0) := by
  decide +kernel
example : (decimal? false 123 20).map shortest = some (123, 20) := by decide +kernel

end ChatQuery.Double
