/-
# Form decoding of a query

A query is a list of fields separated by ampersands. A field is a name and a value parted by
its first equals sign; fields without a value are dropped. In names and values a plus is a
space and a percent sign followed by two hexadecimal digits is an octet; a percent sign that
is not followed by two digits stands for itself. Neighbouring octets and ASCII characters
are read together as UTF-8, and a character outside ASCII ends such a stretch.
-/
import VolumePlugin.Text.Utf8
import VolumePlugin.Url.Host

namespace VolumePlugin.Url

open VolumePlugin.Text

/-- The octet that two hexadecimal digits spell. -/
def hexOctet? (high low : Char) : Option UInt8 :=
  match hexDigit? high, hexDigit? low with
  | some h, some l => some (UInt8.ofNat (16 * h + l))
  | _, _ => none

/-- Percent decoding. The octets of the stretch that is being read come first, the last one in
front; they are decoded where the stretch ends. -/
def percentDecodeFrom (stretch : List UInt8) : List Char → List Char
  | [] => Utf8.decode stretch.reverse
  | '%' :: high :: low :: rest =>
    match hexOctet? high low with
    | some octet => percentDecodeFrom (octet :: stretch) rest
    | none => percentDecodeFrom ('%'.toUInt8 :: stretch) (high :: low :: rest)
  | c :: rest =>
    if c.toNat < 0x80 then percentDecodeFrom (c.toUInt8 :: stretch) rest
    else Utf8.decode stretch.reverse ++ c :: percentDecodeFrom [] rest

/-- A name or value as it was before it was written into a form. -/
def formDecode (text : List Char) : List Char :=
  percentDecodeFrom [] (text.map fun c => if c = '+' then ' ' else c)

/-- The fields of a query that have a value, in their order. -/
def formFields (query : List Char) : List (List Char × List Char) :=
  (splitAt '&' query).filterMap fun field =>
    let (name, rest) := field.span (· ≠ '=')
    let value := rest.drop 1
    if value = [] then none else some (formDecode name, formDecode value)

/-- The value of the first field of a name. -/
def field? (query : List Char) (name : List Char) : Option (List Char) :=
  (formFields query).lookup name

example : field? "a=1&page=&p%61ge=+%D9%A3".toList "page".toList = some " \u0663".toList := by
  decide

end VolumePlugin.Url
