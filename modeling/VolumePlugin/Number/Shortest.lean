/-
# Shortest decimals of binary64 numbers

A finite number is written with the fewest decimal digits that are read back as the same
number; of the decimals of that length the nearest is taken, and of two equally near ones the
even one. The digits are found in exact arithmetic: a number is its mantissa times a power of
two, and the values that round to it form an interval around it, which holds its ends exactly
when the mantissa is even. For each count of digits only the two neighbours of the number on
the grid of that count have to be tried, since an interval around the number that holds any
point of the grid holds one of them.

How digits are laid out (where positional writing ends, the width of an exponent) is a
separate decision, kept in one record.
-/
import VolumePlugin.Number.Binary64
import VolumePlugin.Number.Numeral

namespace VolumePlugin.Binary64

/-- Decimal digits and the place of the point: the value is `0.digits · 10 ^ point`. -/
structure Decimal where
  digits : List Char
  point : Int

/-- A quotient times a power of ten, as a quotient. -/
def scaleTen (numerator denominator : Nat) (power : Int) : Nat × Nat :=
  if 0 ≤ power then (numerator * Nat.pow 10 power.toNat, denominator)
  else (numerator, denominator * Nat.pow 10 (-power).toNat)

/-- The place of the point of a positive quotient: it is below 10 to this power and not below
10 to the power before. -/
def pointOf (numerator denominator : Nat) : Int :=
  if denominator ≤ numerator then (Numeral.digits (numerator / denominator)).length
  else 1 - (Numeral.digits ((denominator + numerator - 1) / numerator - 1)).length

/-- The interval of values that round to a number, in quarters of the mantissa's last bit: the
number itself, the lower end, the upper end, and whether the ends belong to it. The gap below
the least mantissa of a power of two is half as wide as the gap above. -/
def roundingInterval (mantissa : Nat) (exponent : Int) : Nat × Nat × Nat × Bool :=
  let middle := 4 * mantissa
  let below := if mantissa = Nat.pow 2 52 ∧ leastExponent < exponent then 1 else 2
  (middle, middle - below, middle + 2, mantissa % 2 == 0)

/-- The nearest decimal of `count` digits if one lies in the rounding interval. -/
def decimalOfCount? (mantissa : Nat) (exponent : Int) (point : Int) (count : Nat) :
    Option Decimal :=
  let (middle, low, high, closed) := roundingInterval mantissa exponent
  let (unit, part) := scale 1 1 (exponent - 2)
  let (unit, part) := scaleTen unit part (count - point)
  let inside (candidate : Nat) : Bool :=
    if closed then low * unit ≤ candidate * part && candidate * part ≤ high * unit
    else low * unit < candidate * part && candidate * part < high * unit
  let floor := middle * unit / part
  let nearest := roundDiv (middle * unit) part
  let other := if nearest = floor then floor + 1 else floor
  let found? := if inside nearest then some nearest else if inside other then some other else none
  found?.map fun candidate =>
    if candidate = Nat.pow 10 count then ⟨['1'], point + 1⟩ else ⟨Numeral.digits candidate, point⟩

/-- The shortest decimal of a positive number. Seventeen digits always suffice. -/
def shortest (mantissa : Nat) (exponent : Int) : Decimal :=
  let (numerator, denominator) := scale mantissa 1 exponent
  let point := pointOf numerator denominator
  ((List.range 17).findSome? fun count =>
    decimalOfCount? mantissa exponent point (count + 1)).getD ⟨['0'], 1⟩

/-- How a decimal is laid out. -/
structure Layout where
  /-- Positional writing starts at ten to this power. -/
  positionalFrom : Int
  /-- Positional writing ends below ten to this power. -/
  positionalBelow : Int
  /-- The least count of digits of an exponent. -/
  exponentWidth : Nat

/-- Values from 0.0001 and below 10^16 are written positionally, others with an exponent of at
least two digits. -/
def printedLayout : Layout := ⟨-4, 16, 2⟩

/-- Positional writing, with at least one digit on each side of the point. -/
def positional (digits : List Char) (point : Int) : List Char :=
  if point ≤ 0 then '0' :: '.' :: List.replicate (-point).toNat '0' ++ digits
  else
    let whole := digits.take point.toNat
    let fraction := digits.drop point.toNat
    whole ++ List.replicate (point.toNat - whole.length) '0' ++
      '.' :: (if fraction = [] then ['0'] else fraction)

/-- Writing with an exponent: one digit before the point, and no point without a fraction. -/
def exponential (layout : Layout) (digits : List Char) (point : Int) : List Char :=
  let fraction := digits.drop 1
  let power := point - 1
  digits.take 1 ++ (if fraction = [] then [] else '.' :: fraction) ++
    'e' :: (if power < 0 then '-' else '+') ::
      (Numeral.digits power.natAbs).leftpad layout.exponentWidth '0'

/-- A decimal laid out. -/
def Layout.write (layout : Layout) (decimal : Decimal) : List Char :=
  if layout.positionalFrom < decimal.point ∧ decimal.point ≤ layout.positionalBelow then
    positional decimal.digits decimal.point
  else exponential layout decimal.digits decimal.point

/-- The written form of a number. -/
def text : Binary64 → String
  | .nan => "nan"
  | .infinite negative => if negative then "-inf" else "inf"
  | .finite negative mantissa exponent =>
    let magnitude :=
      if mantissa = 0 then ['0', '.', '0']
      else printedLayout.write (shortest mantissa exponent)
    String.ofList (if negative then '-' :: magnitude else magnitude)

example : text (ofDecimal false 1 (-1)) = "0.1" := by decide +kernel
example : text (ofDecimal true 15 15) = "-1.5e+16" := by decide +kernel

end VolumePlugin.Binary64
