/-
# Volume capabilities

A capability says how a volume may be accessed. Access modes are numbers; six of them have
names, and a number without a name is still a mode, though never a supported one. Provider
volumes can be attached to a single node for writing, so that is the one supported mode. What
is no whole number stands for itself and is supported where it equals that mode.
-/
import VolumePlugin.Value.Alike
import VolumePlugin.Value.Printer

namespace VolumePlugin

/-- How a volume may be accessed: by a numbered mode, or as something else says. -/
inductive AccessMode
  | number (n : Int)
  | other (value : Value)
  deriving DecidableEq

namespace AccessMode

/-- No particular access. -/
def unknown : AccessMode := .number 0

/-- One node may write. -/
def singleNodeWriter : AccessMode := .number 1

/-- The names of the named modes, by number from zero on. -/
def names : List String :=
  ["UNKNOWN", "SINGLE_NODE_WRITER", "SINGLE_NODE_READER_ONLY", "MULTI_NODE_READER_ONLY",
   "MULTI_NODE_SINGLE_WRITER", "MULTI_NODE_MULTI_WRITER"]

/-- The name of a number. -/
def name? (n : Int) : Option String :=
  if 0 ≤ n then names[n.toNat]? else none

/-- The mode that a value stands for. Truth values count as zero and one. -/
def ofValue : Value → AccessMode
  | .int n => .number n
  | .bool b => .number (if b then 1 else 0)
  | value => .other value

/-- The value of a mode. -/
def value : AccessMode → Value
  | .number n => .int n
  | .other value => value

/-- The modes that volumes support. -/
def supported : List AccessMode := [singleNodeWriter]

/-- Whether volumes support a mode. -/
def isSupported (mode : AccessMode) : Bool :=
  supported.any fun known => mode.value.alike known.value

/-- A mode on its own is printed as its number. -/
def display (mode : AccessMode) : String :=
  mode.value.display

/-- A mode in a list is printed with its name if it has one. -/
def quoted (mode : AccessMode) : String :=
  match mode with
  | .number n =>
    match name? n with
    | some name => String.join ["<AccessMode.", name, ": ", Numeral.text n, ">"]
    | none => Numeral.text n
  | .other value => value.quoted

/-- A list of modes. -/
def quotedList (modes : List AccessMode) : String :=
  String.join ["[", ", ".intercalate (modes.map quoted), "]"]

/-- Of the numbered modes writing from one node is all that is supported. -/
theorem isSupported_number (n : Int) :
    (number n).isSupported = true ↔ number n = singleNodeWriter := by
  simp [isSupported, supported, singleNodeWriter, value, Value.alike_int]

example : quotedList [.number 5, .number 7] = "[<AccessMode.MULTI_NODE_MULTI_WRITER: 5>, 7]" := by
  decide +kernel

end AccessMode

/-- A capability that a volume is asked to have. -/
structure Capability where
  accessMode : AccessMode := .unknown
  deriving DecidableEq

end VolumePlugin
