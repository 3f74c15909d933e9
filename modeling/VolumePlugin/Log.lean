/-
# Log

An entry of the log has a level, the name of the thread that wrote it and a message. A logger
is set to a level by name; it lets through the entries at or above its level. A logger that is
set to no level follows the general one, which lets warnings through.
-/
import VolumePlugin.Failure
import VolumePlugin.Text.Casing

namespace VolumePlugin

/-- The levels that entries are written at. -/
inductive Level
  | debug
  | info
  | error
  deriving DecidableEq

/-- The name of a level. -/
def Level.name : Level → String
  | .debug => "DEBUG"
  | .info => "INFO"
  | .error => "ERROR"

/-- The number of a level. -/
def Level.number : Level → Int
  | .debug => 10
  | .info => 20
  | .error => 40

/-- An entry of the log. -/
structure Entry where
  level : Level
  thread : String
  message : String
  deriving DecidableEq

/-- The names that a logger can be set to, with their numbers. -/
def levelNumbers : List (String × Int) :=
  [("CRITICAL", 50), ("FATAL", 50), ("ERROR", 40), ("WARN", 30), ("WARNING", 30), ("INFO", 20),
   ("DEBUG", 10), ("NOTSET", 0)]

/-- The number of the level that applies where a logger is set to none. -/
def generalLevel : Int := 30

/-- A logger: the name that it was set to and the number of that name. -/
structure Logger where
  level : String := "DEBUG"
  number : Int := 10
  deriving DecidableEq

namespace Logger

/-- The number from which on entries are let through. -/
def threshold (logger : Logger) : Int :=
  if logger.number = 0 then generalLevel else logger.number

/-- Whether an entry is let through. -/
def admits (logger : Logger) (entry : Entry) : Bool :=
  logger.threshold ≤ entry.level.number

/-- Set the level by a name in any case. -/
def setByName (name : String) : Except Failure Logger :=
  let upper := String.ofList (Text.upper name.toList)
  match levelNumbers.lookup upper with
  | some number => .ok ⟨upper, number⟩
  | none => .error (.unknownLogLevel name)

/-- Set the level by what should be its name. Where that is empty the level stays. -/
def set (logger : Logger) (name : Value) : Except Failure Logger :=
  if name.truthy then
    match name with
    | .text name => setByName name
    | other => .error (.mismatch (.lacks other.kind "upper"))
  else .ok logger

example : (set {} (.text "warn")).toOption = some ⟨"WARN", 30⟩ := by decide +kernel
example : threshold ⟨"NOTSET", 0⟩ = 30 := by decide

end Logger

end VolumePlugin
