/-
# Blank characters

The white space that may surround a numeral: the five ASCII controls from tab to carriage
return, the space, and the white space characters outside ASCII. The ASCII separators
U+001C to U+001F are not among them.
-/
import VolumePlugin.Text.Ranges

namespace VolumePlugin.Text

/-- The blanks, by code point. -/
def blanks : Ranges :=
  [(0x09, 0x0D), (0x20, 0x20), (0x85, 0x85), (0xA0, 0xA0), (0x1680, 0x1680), (0x2000, 0x200A),
   (0x2028, 0x2029), (0x202F, 0x202F), (0x205F, 0x205F), (0x3000, 0x3000)]

/-- Whether a character counts as white space around a numeral. -/
def isBlank (c : Char) : Bool :=
  blanks.holds c.toNat

/-- Drop the blanks at both ends. -/
def trimBlanks (text : List Char) : List Char :=
  ((text.dropWhile isBlank).reverse.dropWhile isBlank).reverse

example : trimBlanks "\t 1 2 \n".toList = "1 2".toList := by decide

end VolumePlugin.Text
