/-
# Arguments that do not fit

What is called by name takes its arguments in order or by the names of its parameters. Arguments
that do not fit are refused before anything else happens, and the refusal says which parameters
are at fault. The receiver of a call is its first argument and counts as one.
-/
import VolumePlugin.Number.Numeral
import VolumePlugin.Value.Printer

namespace VolumePlugin

/-- Why arguments do not fit. -/
inductive ArgumentFault
  /-- Parameters without a default were left out. -/
  | missing (parameters : List String)
  /-- More arguments than parameters were given. -/
  | surplus (least most given : Nat)
  /-- There is no parameter of a name. -/
  | unknown (parameter : String)
  /-- An argument was given both in order and by name. -/
  | repeated (parameter : String)
  deriving DecidableEq

/-- The last names of an enumeration of at least three, behind the first one. -/
def enumerateBehind : List String → String
  | [] => ""
  | [last] => String.join [", and ", quote last]
  | name :: rest => String.join [", ", quote name, enumerateBehind rest]

/-- An enumeration of names. -/
def enumerate : List String → String
  | [] => ""
  | [name] => quote name
  | [name, last] => String.join [quote name, " and ", quote last]
  | name :: rest => String.join [quote name, enumerateBehind rest]

/-- The ending of a noun that is counted. -/
def pluralEnding (count : Nat) : String :=
  if count = 1 then "" else "s"

/-- The wording of arguments that do not fit what is called. Parameters that were left out are
quoted; a name that came with an argument stands in plain quotes as it came. -/
def ArgumentFault.message (callee : String) : ArgumentFault → String
  | .missing parameters =>
    String.join [callee, "() missing ", Numeral.text parameters.length,
      " required positional argument", pluralEnding parameters.length, ": ",
      enumerate parameters]
  | .surplus least most given =>
    let range :=
      if least = most then
        String.join [Numeral.text most, " positional argument", pluralEnding most]
      else
        String.join ["from ", Numeral.text least, " to ", Numeral.text most,
          " positional arguments"]
    String.join [callee, "() takes ", range, " but ", Numeral.text given, " were given"]
  | .unknown parameter =>
    String.join [callee, "() got an unexpected keyword argument '", parameter, "'"]
  | .repeated parameter =>
    String.join [callee, "() got multiple values for argument '", parameter, "'"]

example : enumerate ["a", "b", "c"] = "'a', 'b', and 'c'" := by decide +kernel

end VolumePlugin
