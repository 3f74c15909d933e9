/-
# Problems of requests

A request can be wrong in a few ways, which the caller has to mend. Each has one wording.
-/
import VolumePlugin.Capability
import VolumePlugin.Value.Equality
import VolumePlugin.Value.Printer

namespace VolumePlugin

/-- What is wrong with a request. -/
inductive Problem
  | empty (parameter : String)
  | capabilitiesNotSet
  | unsupportedAccessMode (mode : AccessMode)
  | inexactRange (required limit : Value)
  | negativeSize
  | negativeMaxEntries
  /-- A problem in someone else's words. -/
  | stated (problem : Value)
  deriving DecidableEq

/-- The wording of an access mode that is not supported. -/
def unsupportedAccessModeText (mode : String) : String :=
  String.join ["unsupported access mode : ", mode]

/-- The wording of a problem. -/
def Problem.message : Problem → String
  | .empty parameter => String.join [parameter, " should not be empty"]
  | .capabilitiesNotSet => "capabilities were not set"
  | .unsupportedAccessMode mode => unsupportedAccessModeText mode.display
  | .inexactRange required limit =>
    String.join ["required bytes : ", required.display, " and limit bytes : ", limit.display,
      " are not the same"]
  | .negativeSize => "size should not be negative"
  | .negativeMaxEntries => "max entries should not be negative"
  | .stated problem => problem.display

end VolumePlugin
