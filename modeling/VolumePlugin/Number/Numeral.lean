/-
# Decimal numerals of whole numbers

A numeral is an optional sign and decimal digits of any script, with single underscores
allowed between digits and blanks allowed around the whole. Numerals are read and written
up to a fixed number of digits, leading zeros included; a longer one is refused in both
directions. Numbers that were read from texts meet this limit already, so only numbers that were
computed, or that a request came with, can be too long to write.
-/
import VolumePlugin.Text.Blank
import VolumePlugin.Text.Digit

namespace VolumePlugin.Numeral

open VolumePlugin.Text

/-- The most digits that a numeral may have. -/
def digitLimit : Nat := 4300

/-- The number that digits spell, the first one weighing most. -/
def ofDigits (digits : List Nat) : Nat :=
  digits.foldl (fun value digit => 10 * value + digit) 0

/-- The digits of a run in which single underscores may stand between digits. The flag says
whether the character before was a digit; a run has to end behind one. -/
def digitRun : Bool → List Char → Option (List Nat)
  | afterDigit, [] => if afterDigit then some [] else none
  | afterDigit, c :: rest =>
    match digitValue? c with
    | some digit => (digitRun true rest).map (digit :: ·)
    | none => if c = '_' && afterDigit then digitRun false rest else none

/-- A leading sign, as whether it is negative, and what follows it. -/
def splitSign : List Char → Bool × List Char
  | '-' :: rest => (true, rest)
  | '+' :: rest => (false, rest)
  | text => (false, text)

/-- The whole number that a text spells, none where the text is no numeral or is too long. -/
def read? (text : List Char) : Option Int :=
  let (negative, run) := splitSign (trimBlanks text)
  match digitRun false run with
  | none => none
  | some digits =>
    if digits.length ≤ digitLimit then
      some (if negative then -(ofDigits digits : Int) else ofDigits digits)
    else none

/-- The digits of a text that has ASCII digits only. -/
def asciiDigits? (text : List Char) : Option (List Nat) :=
  text.mapM asciiDigit?

/-- The digits of a natural number, without leading zeros. -/
def digits (n : Nat) : List Char :=
  Nat.toDigits 10 n

/-- The numeral of a whole number: a minus sign if it is negative, then its digits. -/
def text (n : Int) : String :=
  String.ofList (if n < 0 then '-' :: digits n.natAbs else digits n.natAbs)

/-- Whether the numeral of a number is short enough to be written. -/
def fits (n : Int) : Bool :=
  (digits n.natAbs).length ≤ digitLimit

example : read? " +1_0\u0663 ".toList = some 103 ∧ read? "1__0".toList = none := by decide
example : text (-205) = "-205" := by decide

end VolumePlugin.Numeral
