/-
# Quoted text

Text inside a printed value stands in single quotes, or in double quotes when it holds a
single quote and no double one. The quote itself and the backslash are escaped by a
backslash, line ends and tabs by a letter, and other characters that are not printable by
their code point with two, four or eight hexadecimal digits. A surrogate without a partner is
escaped by its code point too.
-/
import VolumePlugin.Text.Printable
import VolumePlugin.Text.Surrogate

namespace VolumePlugin.Text

/-- At least `width` lower case hexadecimal digits. -/
def hexDigits (width n : Nat) : List Char :=
  (Nat.toDigits 16 n).leftpad width '0'

/-- The quote that a text is written in. -/
def quoteFor (text : List Char) : Char :=
  if text.contains '\'' && !text.contains '"' then '"' else '\''

/-- The escape of a code point. -/
def escapeCode (code : Nat) : List Char :=
  if code < 0x100 then '\\' :: 'x' :: hexDigits 2 code
  else if code < 0x10000 then '\\' :: 'u' :: hexDigits 4 code
  else '\\' :: 'U' :: hexDigits 8 code

/-- The written form of one character between such quotes. -/
def escapeChar (quote c : Char) : List Char :=
  if c = quote || c = '\\' then ['\\', c]
  else if c = '\n' then ['\\', 'n']
  else if c = '\r' then ['\\', 'r']
  else if c = '\t' then ['\\', 't']
  else if isPrintable c then [c]
  else escapeCode c.toNat

/-- The written form of one code point between such quotes. -/
def escapePoint (quote : Char) (code : Nat) : List Char :=
  if isSurrogate code then escapeCode code else escapeChar quote (Char.ofNat code)

/-- The written form of a text. -/
def quoted (text : List Char) : List Char :=
  let quote := quoteFor text
  quote :: (codes text).flatMap (escapePoint quote) ++ [quote]

example : quoted "it's".toList = "\"it's\"".toList := by decide
example : quoted "a\n\u00a0".toList = "'a\\n\\xa0'".toList := by decide
example : quoted (held 0xDC00 ++ held 0x10DC00) = "'\\udc00\\U0010dc00'".toList := by decide +kernel

end VolumePlugin.Text
