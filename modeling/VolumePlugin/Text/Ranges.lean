/-
# Sets of characters as ranges

A property of characters is kept as the inclusive ranges of code points that have it, in
rising order. Membership reads the ranges from the front and stops at the first one that
starts above the code point, so the characters of the first ranges are decided at once.
-/

namespace VolumePlugin.Text

/-- Inclusive ranges of code points, in rising order. -/
abbrev Ranges := List (Nat × Nat)

/-- Whether a code point lies in one of the ranges. -/
def Ranges.holds : Ranges → Nat → Bool
  | [], _ => false
  | (first, last) :: rest, code =>
    if code < first then false else code ≤ last || Ranges.holds rest code

end VolumePlugin.Text
