/-
# Hosts in brackets

The authority of a URL may give its host in square brackets. Such a host is an address of a
later version of the protocol, which is taken by its form, or an IPv6 address, possibly with
a zone behind a percent sign. An IPv4 address may not stand in brackets, though its dotted
form may close an IPv6 address.
-/
import VolumePlugin.Text.Digit

namespace VolumePlugin.Url

open VolumePlugin.Text

/-- What may be wrong with a host in brackets. -/
inductive HostFault
  | futureAddress
  | ipv4InBrackets
  | notAnAddress (host : List Char)
  deriving DecidableEq

/-- The pieces of a text between the occurrences of a separator. -/
def splitAt (separator : Char) : List Char → List (List Char)
  | [] => [[]]
  | c :: rest =>
    if c = separator then [] :: splitAt separator rest
    else
      match splitAt separator rest with
      | [] => [[c]]
      | piece :: pieces => (c :: piece) :: pieces

/-- Whether a character is a hexadecimal digit of the ASCII range. -/
def isHexDigit (c : Char) : Bool :=
  (hexDigit? c).isSome

/-- One part of a dotted address: one to three digits, no leading zero, at most 255. -/
def isOctet (part : List Char) : Bool :=
  match part.mapM asciiDigit? with
  | none => false
  | some digits =>
    digits ≠ [] && digits.length ≤ 3 && (digits = [0] || digits.head? ≠ some 0) &&
      digits.foldl (fun value digit => 10 * value + digit) 0 ≤ 255

/-- A dotted address: four octets. -/
def isIpv4 (host : List Char) : Bool :=
  let parts := splitAt '.' host
  parts.length = 4 && parts.all isOctet

/-- One part of an IPv6 address: one to four hexadecimal digits. -/
def isHextet (part : List Char) : Bool :=
  part ≠ [] && part.length ≤ 4 && part.all isHexDigit

/-- The parts on one side of the place that stands for zeros, read from the outer end. An empty
part there belongs to that place, and must then be the only one on its side. -/
def sideParts? : List (List Char) → Option (List (List Char))
  | [[]] => some []
  | [] :: _ => none
  | parts => some parts

/-- Whether the parts between colons make up an address. At most one inner part is empty and
stands for at least one part of zeros; without it there are exactly eight parts. -/
def areHextets (parts : List (List Char)) : Bool :=
  let inner := (parts.drop 1).dropLast
  match inner.idxOf? [] with
  | none => parts.length = 8 && parts.all isHextet
  | some gap =>
    inner.countP (·.isEmpty) = 1 &&
      match sideParts? (parts.take (gap + 1)), sideParts? (parts.drop (gap + 2)).reverse with
      | some high, some low =>
        high.length + low.length ≤ 7 && high.all isHextet && low.all isHextet
      | _, _ => false

/-- A dotted address as the last part counts for two parts. -/
def undotted? (parts : List (List Char)) : Option (List (List Char)) :=
  match parts.getLast? with
  | none => none
  | some last =>
    if last.contains '.' then
      if isIpv4 last then some (parts.dropLast ++ [['0'], ['0']]) else none
    else some parts

/-- An IPv6 address, with a zone that is neither empty nor holds a percent sign, or none. -/
def isIpv6 (host : List Char) : Bool :=
  let (address, zone) := host.span (· ≠ '%')
  let parts := splitAt ':' address
  (zone = [] || (zone.drop 1 ≠ [] && !(zone.drop 1).contains '%')) && 3 ≤ parts.length &&
    (undotted? parts).any areHextets

/-- An address of a later version: a letter v, hexadecimal digits, a dot and something more. -/
def isFutureAddress (behindV : List Char) : Bool :=
  let (version, rest) := behindV.span isHexDigit
  version ≠ [] && rest.head? = some '.' && rest.drop 1 ≠ []

/-- What is wrong with a host in brackets, if anything. -/
def hostFault? (host : List Char) : Option HostFault :=
  match host with
  | 'v' :: rest => if isFutureAddress rest then none else some .futureAddress
  | _ =>
    if isIpv4 host then some .ipv4InBrackets
    else if isIpv6 host then none
    else some (.notAnAddress host)

example : isIpv6 "::1".toList ∧ isIpv6 "1::8".toList ∧ isIpv6 "::ffff:1.2.3.4%en0".toList := by
  decide
example : ¬ isIpv6 ":::".toList ∧ ¬ isIpv6 "1:2".toList ∧ ¬ isIpv6 ":1::2".toList := by decide

end VolumePlugin.Url
