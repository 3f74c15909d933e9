/-
# Order of numbers

Whole numbers and binary64 numbers are compared by their exact values, without rounding the
one to the kind of the other. Nothing is less than or greater than NaN.
-/
import VolumePlugin.Number.Binary64

namespace VolumePlugin

/-- A whole number of any size, or a binary64 number. -/
inductive Number
  | int (n : Int)
  | float (x : Binary64)
  deriving DecidableEq

namespace Number

/-- Where a number other than NaN lies: below, among or above the finite values, and for a
finite value its significand and the exponent of two that it is multiplied by. -/
structure Place where
  side : Int
  significand : Int
  exponent : Int

/-- The place of a number, none for NaN. -/
def place? : Number → Option Place
  | .int n => some ⟨0, n, 0⟩
  | .float .nan => none
  | .float (.infinite negative) => some ⟨if negative then -1 else 1, 0, 0⟩
  | .float (.finite negative mantissa exponent) =>
    some ⟨0, Binary64.signed negative mantissa, exponent⟩

/-- The strict order of places. Finite values are brought to the smaller exponent first. -/
def Place.before (a b : Place) : Bool :=
  if a.side = b.side then
    let exponent := min a.exponent b.exponent
    a.significand * Int.pow 2 (a.exponent - exponent).toNat <
      b.significand * Int.pow 2 (b.exponent - exponent).toNat
  else a.side < b.side

/-- Whether the first number is less than the second. -/
def less (a b : Number) : Bool :=
  match a.place?, b.place? with
  | some p, some q => p.before q
  | _, _ => false

/-- Whether the first number is at most the second. -/
def atMost (a b : Number) : Bool :=
  match a.place?, b.place? with
  | some p, some q => !q.before p
  | _, _ => false

/-- Whether two numbers have the same value. -/
def equal (a b : Number) : Bool :=
  a.atMost b && b.atMost a

/-- The places of whole numbers are ordered by their significands. -/
theorem Place.before_int (m n : Int) : Place.before ⟨0, m, 0⟩ ⟨0, n, 0⟩ = decide (m < n) := by
  unfold before
  rw [if_pos rfl]
  show decide (m * 1 < n * 1) = decide (m < n)
  rw [Int.mul_one, Int.mul_one]

/-- Whole numbers are ordered as such. -/
theorem less_int (m n : Int) : less (.int m) (.int n) = decide (m < n) := by
  simp [less, place?, Place.before_int]

/-- Whole numbers are ordered as such. -/
theorem atMost_int (m n : Int) : atMost (.int m) (.int n) = decide (m ≤ n) := by
  by_cases h : m ≤ n
  · simp [atMost, place?, Place.before_int, h, Int.not_lt.2 h]
  · simp [atMost, place?, Place.before_int, h, Int.not_le.1 h]

/-- Whole numbers are equal as such. -/
theorem equal_int (m n : Int) : equal (.int m) (.int n) = decide (m = n) := by
  simp only [equal, atMost_int, ← Bool.decide_and]
  congr 1
  exact propext ⟨fun h => Int.le_antisymm h.1 h.2, fun h => by simp [h]⟩

end Number

end VolumePlugin
