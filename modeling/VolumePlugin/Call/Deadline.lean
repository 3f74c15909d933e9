/-
# Deadlines and cancellation

A request to the provider may take as long as the configuration says, but no longer than the
caller's time lasts. Where no time is left the call fails instead of sending the request. A
caller that has given up is noticed before pages are fetched and before a volume is created.
-/
import VolumePlugin.Configuration
import VolumePlugin.Session
import VolumePlugin.Value.Order

namespace VolumePlugin

/-- The time for a request: the lesser of the caller's time and the default, and never below
zero. A caller without a limit has the default. -/
def requestTimeout (remaining fallback : Value) : Except Failure Value :=
  match remaining with
  | .null => .ok fallback
  | limit => do
    let lesser := if ← Value.compare .less fallback limit then fallback else limit
    return if ← Value.compare .greater (.int 0) lesser then .int 0 else lesser

/-- The time for the next request of a call. -/
def timeLeft (configuration : Configuration) (call : String) : Action Value := do
  let fallback ← configuration.requestTimeout
  let timeout ← requestTimeout (← Action.askClock) fallback
  if ← Value.compare .atMost timeout (.int 0) then throw (.deadlineExceeded (.text call))
  return timeout

/-- Go on only for a caller that still waits. -/
def ensureActive (call : String) : Action Unit := do
  if !(← Action.askActivity) then throw (.cancelled (.text call))

example : (requestTimeout (.int 5) (.int 30)).toOption = some (.int 5) := by decide
example : (requestTimeout (.int (-5)) (.int 30)).toOption = some (.int 0) := by decide

end VolumePlugin
