/-
# Printed values

A value in a message is printed in one of two ways. On its own a text is printed as it is;
inside a list or an object it is quoted. All other values have one printed form: the words
None, True and False, a numeral, the shortest decimal of a binary64 number, a bracketed list,
and an object in braces with its members in their order. The objects of a configuration show
their kind and, before their members, the one that is named as the undefined one, or null.
-/
import VolumePlugin.Number.Numeral
import VolumePlugin.Number.Shortest
import VolumePlugin.Text.Quoted
import VolumePlugin.Value

namespace VolumePlugin

/-- A text in quotes. -/
def quote (s : String) : String :=
  String.ofList (Text.quoted s.toList)

namespace Value

/-- The name of the member that settings show before all of their members. -/
def undefinedName : String := "__undefined__"

mutual

/-- The form of a value inside another one. -/
def quoted : Value → String
  | .null => "None"
  | .bool b => if b then "True" else "False"
  | .int n => Numeral.text n
  | .float x => x.text
  | .text s => quote s
  | .list items => String.join ["[", quotedItems items, "]"]
  | .object members => String.join ["\x7b", quotedMembers members, "\x7d"]
  | .settings members =>
    String.join [Kind.settings.name, "(", quotedUndefined members, ", \x7b", quotedMembers members,
      "\x7d)"]

/-- The items of a list, parted by commas. -/
def quotedItems : List Value → String
  | [] => ""
  | item :: rest =>
    String.join [quoted item, if rest.isEmpty then "" else ", ", quotedItems rest]

/-- The members of an object, parted by commas. -/
def quotedMembers : List (String × Value) → String
  | [] => ""
  | (name, value) :: rest =>
    String.join
      [quote name, ": ", quoted value, if rest.isEmpty then "" else ", ", quotedMembers rest]

/-- The member of settings that is named as the undefined one, null where it is missing. -/
def quotedUndefined : List (String × Value) → String
  | [] => "None"
  | (name, value) :: rest =>
    if name = undefinedName then quoted value else quotedUndefined rest

end

/-- The form of a value on its own. -/
def display : Value → String
  | .text s => s
  | other => other.quoted

/-- Whether a value on its own is short enough to be printed. Only a number that stands by itself
can be too long: one that was computed, or a bound or an access mode of a request. -/
def isWritable : Value → Bool
  | .int n => Numeral.fits n
  | _ => true

/-- A text on its own is printed as it is. -/
theorem display_text (s : String) : display (.text s) = s := rfl

/-- A whole number is printed as its numeral. -/
theorem display_int (n : Int) : display (.int n) = Numeral.text n := by
  simp [display, quoted]

example : display (.list [.text "a'b", .null, .bool true]) = "[\"a'b\", None, True]" := by
  decide +kernel
example : display (.object [("k", .int (-1)), ("l", .list [])]) = "\x7b'k': -1, 'l': []\x7d" := by
  decide +kernel
example :
    display (.settings [("a", .null), (undefinedName, .int 5)]) =
      "DefaultMunch(5, \x7b'a': None, '__undefined__': 5\x7d)" := by
  decide +kernel

end Value

end VolumePlugin
