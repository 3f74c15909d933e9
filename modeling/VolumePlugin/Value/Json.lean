/-
# JSON

The text form of values is JSON, with three words more for numbers that are not finite. A
number without fraction and exponent is a whole number, whose numeral may not be too long; any
other is a binary64 number. Of several members of one name the last value counts, in the place
of the first. Characters are escaped one by one; two escapes that are a surrogate pair spell
one character, and a surrogate without its partner is a code point of its own.

A text is read as far as a value reaches, so each reader answers with what is left. The value
of the whole text is the one with nothing but blanks behind it. A text is no JSON, or its lists
and objects are nested too deeply, whichever is found first.
-/
import VolumePlugin.Number.Numeral
import VolumePlugin.Text.Surrogate
import VolumePlugin.Value.Equality

namespace VolumePlugin.Json

open VolumePlugin.Text

/-- What other values are nested in. -/
inductive Container
  | list
  | object
  deriving DecidableEq

/-- The word for a container in a report. -/
def Container.name : Container → String
  | .list => "array"
  | .object => "object"

/-- Why a text has no value: it is malformed, or a container is nested too deeply. -/
inductive Fault
  | malformed
  | tooDeep (container : Container)
  deriving DecidableEq

/-- What reading the front of a text gives: a value and what is left, or a fault. -/
abbrev Reading (α : Type) := Except Fault (α × List Char)

/-- How deeply containers may be nested. The number is that of one reader that is called from one
depth of calls; no result depends on it. -/
def nestingLimit : Nat := 985

/-- The blanks of the text form. -/
def isJsonBlank (c : Char) : Bool :=
  c = ' ' || c = '\t' || c = '\n' || c = '\r'

/-- Drop blanks in front. -/
def skipBlanks (text : List Char) : List Char :=
  text.dropWhile isJsonBlank

/-- The words that are values. -/
def words : List (List Char × Value) :=
  [("null".toList, .null), ("true".toList, .bool true), ("false".toList, .bool false),
   ("NaN".toList, .float .nan), ("Infinity".toList, .float (.infinite false)),
   ("-Infinity".toList, .float (.infinite true))]

/-- A word in front of a text. -/
def readWord (text : List Char) : Option (Value × List Char) :=
  words.findSome? fun (word, value) =>
    if word.isPrefixOf text then some (value, text.drop word.length) else none

/-- The digits in front of a text. -/
def digitSpan : List Char → List Nat × List Char
  | [] => ([], [])
  | c :: rest =>
    match asciiDigit? c with
    | none => ([], c :: rest)
    | some digit =>
      let (digits, left) := digitSpan rest
      (digit :: digits, left)

/-- The digits before the point. A zero stands alone. -/
def wholeDigits : List Char → List Nat × List Char
  | '0' :: rest => ([0], rest)
  | text => digitSpan text

/-- The digits behind the point, none where no digit follows the point. -/
def fractionDigits : List Char → List Nat × List Char
  | '.' :: rest =>
    match digitSpan rest with
    | ([], _) => ([], '.' :: rest)
    | found => found
  | text => ([], text)

/-- The exponent of ten, where digits follow its letter and sign. -/
def exponent? (text : List Char) : Option Int × List Char :=
  match text with
  | letter :: rest =>
    if letter = 'e' ∨ letter = 'E' then
      let (negative, rest) := Numeral.splitSign rest
      match digitSpan rest with
      | ([], _) => (none, text)
      | (digits, left) =>
        let power : Int := Numeral.ofDigits digits
        (some (if negative then -power else power), left)
    else (none, text)
  | [] => (none, [])

/-- A number in front of a text. -/
def readNumber (text : List Char) : Option (Value × List Char) :=
  let (negative, rest) :=
    match text with
    | '-' :: rest => (true, rest)
    | _ => (false, text)
  let (whole, rest) := wholeDigits rest
  let (fraction, rest) := fractionDigits rest
  let (power?, rest) := exponent? rest
  if whole.isEmpty then none
  else if fraction.isEmpty && power?.isNone then
    if whole.length ≤ Numeral.digitLimit then
      let magnitude : Int := Numeral.ofDigits whole
      some (.int (if negative then -magnitude else magnitude), rest)
    else none
  else
    let power := power?.getD 0 - fraction.length
    some (.float (.ofDecimal negative (Numeral.ofDigits (whole ++ fraction)) power), rest)

/-- The number that four hexadecimal digits spell. -/
def codeUnit? (a b c d : Char) : Option Nat := do
  return (← hexDigit? a) * 4096 + (← hexDigit? b) * 256 + (← hexDigit? c) * 16 + (← hexDigit? d)

/-- What a backslash and one more character stand for. -/
def escaped? : Char → Option Char
  | '"' => some '"'
  | '\\' => some '\\'
  | '/' => some '/'
  | 'b' => some '\x08'
  | 'f' => some '\x0c'
  | 'n' => some '\n'
  | 'r' => some '\r'
  | 't' => some '\t'
  | _ => none

/-- A piece of a text: a character, or what four hexadecimal digits spell. -/
inductive Piece
  | plain (c : Char)
  | unit (code : Nat)
  deriving DecidableEq

/-- The pieces of a text up to its closing quote, and what is left. Controls have to be
escaped. -/
def readPieces : List Char → Option (List Piece × List Char)
  | [] => none
  | '"' :: rest => some ([], rest)
  | '\\' :: 'u' :: a :: b :: c :: d :: rest =>
    match codeUnit? a b c d, readPieces rest with
    | some code, some (pieces, left) => some (.unit code :: pieces, left)
    | _, _ => none
  | '\\' :: c :: rest =>
    match escaped? c, readPieces rest with
    | some plain, some (pieces, left) => some (.plain plain :: pieces, left)
    | _, _ => none
  | c :: rest =>
    if c < ' ' then none
    else (readPieces rest).map fun (pieces, left) => (.plain c :: pieces, left)

/-- The text of pieces, pairs being joined. -/
def joinPieces : List Piece → List Char
  | [] => []
  | .plain c :: rest => c :: joinPieces rest
  | .unit high :: .unit low :: rest =>
    if isHighSurrogate high && isLowSurrogate low then
      held (pairedCode high low) ++ joinPieces rest
    else held high ++ joinPieces (.unit low :: rest)
  | .unit code :: rest => held code ++ joinPieces rest

/-- A text behind its opening quote. -/
def readText (text : List Char) : Option (String × List Char) :=
  (readPieces text).map fun (pieces, left) => (String.ofList (joinPieces pieces), left)

/-- An object of members that may repeat names. -/
def ofMembers (members : List (String × Value)) : Value :=
  .object (members.foldl (fun known (name, value) => Value.setMember name value known) [])

/-- A reading that succeeds or finds the text malformed. -/
def orMalformed {α : Type} (found : Option (α × List Char)) : Reading α :=
  match found with
  | some reading => .ok reading
  | none => .error .malformed

mutual

/-- A value in front of a text, with room for containers nested so deeply. The fuel bounds the
calls; twice the length of the text is more than any text needs, since every second call takes
a character away. -/
def readValue : Nat → Nat → List Char → Reading Value
  | _, 0, _ => .error .malformed
  | room, fuel + 1, text =>
    match skipBlanks text with
    | '"' :: rest => orMalformed ((readText rest).map fun (s, left) => (.text s, left))
    | '[' :: rest =>
      match room with
      | 0 => .error (.tooDeep .list)
      | room + 1 =>
        match skipBlanks rest with
        | ']' :: left => .ok (.list [], left)
        | _ => (readItems room fuel rest).map fun (items, left) => (.list items, left)
    | '\x7b' :: rest =>
      match room with
      | 0 => .error (.tooDeep .object)
      | room + 1 =>
        match skipBlanks rest with
        | '\x7d' :: left => .ok (.object [], left)
        | _ => (readMembers room fuel rest).map fun (members, left) => (ofMembers members, left)
    | rest => orMalformed ((readWord rest).or (readNumber rest))

/-- The items of a list that has some, with its closing bracket. -/
def readItems : Nat → Nat → List Char → Reading (List Value)
  | _, 0, _ => .error .malformed
  | room, fuel + 1, text =>
    match readValue room fuel text with
    | .error fault => .error fault
    | .ok (item, rest) =>
      match skipBlanks rest with
      | ']' :: left => .ok ([item], left)
      | ',' :: rest => (readItems room fuel rest).map fun (items, left) => (item :: items, left)
      | _ => .error .malformed

/-- The members of an object that has some, with its closing brace. -/
def readMembers : Nat → Nat → List Char → Reading (List (String × Value))
  | _, 0, _ => .error .malformed
  | room, fuel + 1, text =>
    match skipBlanks text with
    | '"' :: rest =>
      match readText rest with
      | none => .error .malformed
      | some (name, rest) =>
        match skipBlanks rest with
        | ':' :: rest =>
          match readValue room fuel rest with
          | .error fault => .error fault
          | .ok (value, rest) =>
            match skipBlanks rest with
            | '\x7d' :: left => .ok ([(name, value)], left)
            | ',' :: rest =>
              (readMembers room fuel rest).map fun (members, left) =>
                ((name, value) :: members, left)
            | _ => .error .malformed
        | _ => .error .malformed
    | _ => .error .malformed

end

/-- The value that a whole text spells. -/
def read (text : String) : Except Fault Value :=
  let characters := text.toList
  match readValue nestingLimit (2 * characters.length + 2) characters with
  | .ok (value, left) => if (skipBlanks left).isEmpty then .ok value else .error .malformed
  | .error fault => .error fault

/-- The value that a whole text spells, if it spells one. -/
def read? (text : String) : Option Value :=
  (read text).toOption

example :
    read? "[1, \"\\ud83d\\ude00\", \x7b\"a\": null, \"a\": true\x7d]" =
      some (.list [.int 1, .text "😀", .object [("a", .bool true)]]) := by
  decide +kernel
example : read? "[1,]" = none ∧ read? "01" = none ∧ read? "1 2" = none := by decide +kernel
example : readValue 1 9 "[\x7b".toList = .error (.tooDeep .object) := rfl

end VolumePlugin.Json
