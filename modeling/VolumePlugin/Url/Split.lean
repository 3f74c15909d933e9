/-
# The query of a URL

A URL is taken apart only as far as its query needs. Controls and spaces in front are
dropped and tabs and line ends removed anywhere. A scheme is cut off when the text before the
first colon starts with an ASCII letter and has only letters, digits, plus, minus and point.
Two slashes then introduce an authority, which ends at the next slash, question mark or
number sign. The query stands between the first question mark and the first number sign of
what remains.

Only the authority can be wrong: its brackets may not enclose its host, a host where there are
brackets may be no address, or it may hold a character whose compatibility form contains a
delimiter, so that normalising it would move the borders of the URL.
-/
import VolumePlugin.Url.Host

namespace VolumePlugin.Url

/-- Why a URL cannot be taken apart. -/
inductive Fault
  | misplacedBracket
  | host (fault : HostFault)
  | hiddenDelimiter (authority : List Char)
  deriving DecidableEq

/-- Characters whose compatibility decomposition holds a slash, question mark, number sign,
at sign or colon. -/
def hiddenDelimiters : List Nat :=
  [0x2047, 0x2048, 0x2049, 0x2100, 0x2101, 0x2105, 0x2106, 0x2A74, 0xFE13, 0xFE16, 0xFE55, 0xFE56,
   0xFE5F, 0xFE6B, 0xFF03, 0xFF0F, 0xFF1A, 0xFF1F, 0xFF20]

/-- A control of the ASCII range or a space. -/
def isControlOrSpace (c : Char) : Bool :=
  c ≤ ' '

/-- A tab or a line end. -/
def isTabOrLineEnd (c : Char) : Bool :=
  c = '\t' || c = '\r' || c = '\n'

/-- A letter of the ASCII range. -/
def isLetter (c : Char) : Bool :=
  ('a' ≤ c && c ≤ 'z') || ('A' ≤ c && c ≤ 'Z')

/-- A character that a scheme may hold. -/
def isSchemeChar (c : Char) : Bool :=
  isLetter c || ('0' ≤ c && c ≤ '9') || c = '+' || c = '-' || c = '.'

/-- What follows the scheme and its colon, or the whole text without a scheme. -/
def afterScheme (url : List Char) : List Char :=
  let (scheme, rest) := url.span (· ≠ ':')
  match rest with
  | ':' :: rest =>
    if scheme.head?.any isLetter && scheme.all isSchemeChar then rest else url
  | _ => url

/-- A delimiter that ends the authority. -/
def endsAuthority (c : Char) : Bool :=
  c = '/' || c = '?' || c = '#'

/-- The authority behind two slashes, empty where there is none, and what follows it. -/
def splitAuthority : List Char → List Char × List Char
  | '/' :: '/' :: rest => rest.span fun c => !endsAuthority c
  | rest => ([], rest)

/-- The place that an authority names, which stands behind its last at sign: a host, and perhaps
a number behind a colon. -/
def placeOf (authority : List Char) : List Char :=
  (authority.reverse.takeWhile (· ≠ '@')).reverse

/-- The host of a place. One in brackets has nothing before it and nothing behind it that does
not start with a colon; there is none where something else stands there. -/
def enclosedHost? (place : List Char) : Option (List Char) :=
  let (front, opened) := place.span (· ≠ '[')
  match opened with
  | [] => some (place.takeWhile (· ≠ ':'))
  | _ :: inside =>
    let (host, closed) := inside.span (· ≠ ']')
    let behind := closed.drop 1
    if front = [] ∧ (behind = [] ∨ behind.head? = some ':') then some host else none

/-- What is wrong with the brackets of an authority, or with its host if it has brackets
anywhere. -/
def bracketFault? (authority : List Char) : Option Fault :=
  if authority.contains '[' ≠ authority.contains ']' then some .misplacedBracket
  else if authority.contains '[' then
    match enclosedHost? (placeOf authority) with
    | none => some .misplacedBracket
    | some host => (hostFault? host).map .host
  else none

/-- What is wrong with an authority, if anything: its brackets first. -/
def authorityFault? (authority : List Char) : Option Fault :=
  (bracketFault? authority).or
    (if authority.any fun c => hiddenDelimiters.contains c.toNat then
      some (.hiddenDelimiter authority)
    else none)

/-- What stands behind the first question mark and before the first number sign. -/
def queryPart (rest : List Char) : List Char :=
  ((rest.takeWhile (· ≠ '#')).dropWhile (· ≠ '?')).drop 1

/-- The query of a URL, empty where it has none. -/
def query (url : List Char) : Except Fault (List Char) :=
  let cleaned := (url.dropWhile isControlOrSpace).filter fun c => !isTabOrLineEnd c
  let (authority, rest) := splitAuthority (afterScheme cleaned)
  match authorityFault? authority with
  | some fault => .error fault
  | none => .ok (queryPart rest)

example : (query " http://h/a?x=?&page=8#f".toList).toOption = some "x=?&page=8".toList := by
  decide
example : (query "http://[::1/?page=3".toList).toOption = none := by decide
example : enclosedHost? (placeOf "[u]@[::1]:9".toList) = some "::1".toList := by decide
example : enclosedHost? "a[::1]".toList = none ∧ enclosedHost? "[::1]a".toList = none := by decide

end VolumePlugin.Url
