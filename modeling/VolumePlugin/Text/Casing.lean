/-
# Casing of whole texts

Upper casing maps each character on its own. Lower casing has one rule that looks at the
neighbours: a capital sigma that ends a word becomes the final form. It ends a word when a
cased character stands before it and none after it, characters that casing ignores being
skipped on both sides.
-/
import VolumePlugin.Text.CaseMap

namespace VolumePlugin.Text

/-- Whether the first character that casing does not ignore is a cased one. -/
def casedAhead : List Char → Bool
  | [] => false
  | c :: rest => if caseIgnorable.holds c.toNat then casedAhead rest else cased.holds c.toNat

/-- Whether a cased character stands before the place after `c`, given the same of the place
before it. -/
def casedBehind (before : Bool) (c : Char) : Bool :=
  if caseIgnorable.holds c.toNat then before else cased.holds c.toNat

/-- Lower case of one character between what stands before it and after it. -/
def lowerBetween (before : Bool) (c : Char) (rest : List Char) : List Char :=
  if c = 'Σ' then [if before && !casedAhead rest then 'ς' else 'σ'] else lowerChar c

/-- Lower case of the rest of a text. -/
def lowerAfter : Bool → List Char → List Char
  | _, [] => []
  | before, c :: rest => lowerBetween before c rest ++ lowerAfter (casedBehind before c) rest

/-- The lower case of a text. -/
def lower (text : List Char) : List Char :=
  lowerAfter false text

/-- The upper case of a text. -/
def upper (text : List Char) : List Char :=
  text.flatMap upperChar

example : lower "ΟΔΟΣ.".toList = "οδος.".toList := by decide

end VolumePlugin.Text
