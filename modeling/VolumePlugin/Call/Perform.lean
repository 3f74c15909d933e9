/-
# Performing calls

A call names its thread after the volume it is about, logs its beginning and its end, and is
supervised in between. The calls that tell what the plugin can do are not supervised, and the
probe is not even logged.
-/
import VolumePlugin.Call.Attachment
import VolumePlugin.Call.Creation
import VolumePlugin.Call.Identity
import VolumePlugin.Call.Listing
import VolumePlugin.Call.Supervision

namespace VolumePlugin.Call

/-- The answer of a call where nothing fails. -/
def answer (call : Call) (setting : Setting) : Action Answer := do
  match call with
  | .createVolume request => return { response := ← request.perform setting }
  | .deleteVolume request => return { response := ← request.perform setting }
  | .publishVolume request => return { response := ← request.perform setting }
  | .unpublishVolume request => return { response := ← request.perform setting }
  | .validateCapabilities request => return { response := ← request.perform }
  | .listVolumes request => return { response := ← request.perform setting }
  | .getCapacity => throw (.raised .notImplemented [])
  | .getControllerCapabilities =>
    return { response := .controllerCapabilities ControllerCapability.offered }
  | .getPluginInfo => describePlugin setting.configuration
  | .getPluginCapabilities => return { response := ← describeServices setting.configuration }
  | .probe => return { response := .probe true, status := some .ok }

/-- The answer of a call, with failures as a status where the call is supervised. -/
def guarded (call : Call) (setting : Setting) : Action Answer :=
  if call.isSupervised then supervised call.emptyResponse (call.answer setting)
  else call.answer setting

/-- Perform a call. -/
def perform (call : Call) (setting : Setting) : Action Answer := do
  match call with
  | .probe => call.answer setting
  | _ =>
    Action.renameThread call.subject
    Action.info call.name
    let answer ← call.guarded setting
    Action.info (String.join ["finished ", call.name])
    return answer

example :
    (((createVolume {}).perform ⟨[], .standard, .text "nyc3"⟩).runIn { thread := "" }).2.sent =
      [] := by
  decide +kernel

end VolumePlugin.Call
