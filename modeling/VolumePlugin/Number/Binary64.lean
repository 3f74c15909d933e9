/-
# Binary floating point numbers

A number with a fraction is the nearest binary64 number, ties going to the even mantissa.
A finite one is kept as its sign, a mantissa below 2^53 and the exponent of the mantissa's
last bit, which is never below -1074; the mantissa is below 2^52 only at that least exponent.
All arithmetic here is exact arithmetic of whole numbers followed by one rounding.
-/

namespace VolumePlugin

/-- A binary64 number. -/
inductive Binary64
  | nan
  | infinite (negative : Bool)
  | finite (negative : Bool) (mantissa : Nat) (exponent : Int)
  deriving DecidableEq

namespace Binary64

/-- The exponent of the smallest positive number, 2 to this power. -/
def leastExponent : Int := -1074

/-- The exponent of the largest finite numbers. -/
def greatestExponent : Int := 971

/-- The whole number nearest to a quotient, a tie going to the even neighbour. -/
def roundDiv (numerator denominator : Nat) : Nat :=
  let quotient := numerator / denominator
  let twice := 2 * (numerator % denominator)
  if twice < denominator then quotient
  else if denominator < twice then quotient + 1
  else quotient + quotient % 2

/-- A quotient times a power of two, as a quotient. -/
def scale (numerator denominator : Nat) (power : Int) : Nat × Nat :=
  if 0 ≤ power then (numerator * Nat.pow 2 power.toNat, denominator)
  else (numerator, denominator * Nat.pow 2 (-power).toNat)

/-- The exponent of the highest bit of a positive quotient. -/
def highestBit (numerator denominator : Nat) : Int :=
  let guess : Int := (numerator.log2 : Int) - denominator.log2
  let (above, below) := scale numerator denominator (-guess)
  if below ≤ above then guess else guess - 1

/-- The number nearest to a quotient of whole numbers, given apart from its sign. -/
def ofRatio (negative : Bool) (numerator denominator : Nat) : Binary64 :=
  if numerator = 0 then .finite negative 0 leastExponent
  else
    let exponent := max (highestBit numerator denominator - 52) leastExponent
    let (above, below) := scale numerator denominator (-exponent)
    let mantissa := roundDiv above below
    let (mantissa, exponent) :=
      if mantissa = Nat.pow 2 53 then (Nat.pow 2 52, exponent + 1) else (mantissa, exponent)
    if greatestExponent < exponent then .infinite negative else .finite negative mantissa exponent

/-- The number nearest to `significand · 10 ^ power`. Powers far outside the range of the
numbers are decided without computing them. -/
def ofDecimal (negative : Bool) (significand : Nat) (power : Int) : Binary64 :=
  if significand = 0 then .finite negative 0 leastExponent
  else if 310 < power then .infinite negative
  else if power + significand.log2 < -400 then .finite negative 0 leastExponent
  else if 0 ≤ power then ofRatio negative (significand * Nat.pow 10 power.toNat) 1
  else ofRatio negative significand (Nat.pow 10 (-power).toNat)

/-- A number times a power of two, rounded. -/
def scaleUp (x : Binary64) (power : Nat) : Binary64 :=
  match x with
  | .finite negative mantissa exponent =>
    let (numerator, denominator) := scale mantissa 1 (exponent + power)
    ofRatio negative numerator denominator
  | other => other

/-- A number divided by a power of two, as the greatest whole number that is not above the
quotient. Only a finite number has one. -/
def floorQuotient (x : Binary64) (power : Nat) : Binary64 :=
  match x with
  | .finite negative mantissa exponent =>
    let (numerator, denominator) := scale mantissa 1 (exponent - power)
    let magnitude :=
      if negative then (numerator + denominator - 1) / denominator else numerator / denominator
    ofRatio negative magnitude 1
  | _ => .nan

/-- Whether the number equals zero, with either sign. -/
def isZero : Binary64 → Bool
  | .finite _ mantissa _ => mantissa == 0
  | _ => false

/-- The signed mantissa of a finite number. -/
def signed (negative : Bool) (mantissa : Nat) : Int :=
  if negative then -(mantissa : Int) else mantissa

/-- The whole part of a finite number, the fraction being dropped. -/
def truncate (negative : Bool) (mantissa : Nat) (exponent : Int) : Int :=
  let (numerator, denominator) := scale mantissa 1 exponent
  signed negative (numerator / denominator)

example : ofDecimal false 1 0 = .finite false (2 ^ 52) (-52) := by decide
example : ofDecimal true 1 400 = .infinite true := by decide
example : floorQuotient (ofDecimal true 15 (-1)) 30 = ofDecimal true 1 0 := by decide

end Binary64

end VolumePlugin
