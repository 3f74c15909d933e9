/-
# Calls about the plugin

These calls tell what the plugin is and what it can do. They send nothing to the provider.
-/
import VolumePlugin.Call.Response
import VolumePlugin.Call.Setting
import VolumePlugin.Call.Validation

namespace VolumePlugin

/-- The modes that volumes do not support. -/
def unsupportedModes (modes : List AccessMode) : List AccessMode :=
  modes.filter fun mode => !mode.isSupported

/-- Whether there are modes and volumes support them all. -/
def areModesSupported (modes : List AccessMode) : Bool :=
  !modes.isEmpty && (unsupportedModes modes).isEmpty

/-- Log a mode that volumes do not support. One that is too long to be written fails in its
place. -/
def noteUnsupported (mode : AccessMode) : Action Unit :=
  if mode.value.isWritable then Action.debug (unsupportedAccessModeText mode.display)
  else throw (.longNumeral .written)

/-- Whether there are capabilities and volumes can have them all. Those that they cannot have are
logged. -/
def areCapabilitiesSupported (capabilities : List (Option Capability)) : Action Bool := do
  let modes ← accessModes capabilities
  (unsupportedModes modes).forM noteUnsupported
  return areModesSupported modes

/-- The words about modes: none where all are supported, and else which were asked for. -/
def verdictText (supported : Bool) (modes : List AccessMode) : String :=
  if supported then "" else unsupportedAccessModeText (AccessMode.quotedList modes)

/-- The verdict on the capabilities of a response. Without a list none can be named. The modes that
are quoted can be written, as those that are not supported have been logged before. -/
def respondCapabilities (capabilities : Option (List (Option Capability))) : Action Response := do
  match capabilities with
  | none => throw (.mismatch (.notIterable .null))
  | some capabilities =>
    let supported ← areCapabilitiesSupported capabilities
    return .validation supported (verdictText supported (← accessModes capabilities))

/-- Tell whether a volume has capabilities. -/
def ValidateCapabilitiesRequest.perform (request : ValidateCapabilitiesRequest) :
    Action Response := do
  let _ ← request.validate
  respondCapabilities request.capabilities

/-- What is wrong where the plugin has no name or no version. -/
def pluginInfoMissingText : String := "plugin name or version cannot be empty"

/-- Tell the name and the version of the plugin. -/
def describePlugin (configuration : Configuration) : Action Answer := do
  let name ← configuration.pluginName
  let version ← configuration.pluginVersion
  if name.truthy && version.truthy then return { response := .pluginInfo name version }
  Action.error pluginInfoMissingText
  return {
    response := Call.emptyResponse .getPluginInfo
    status := some .internal
    details := some pluginInfoMissingText }

/-- Tell the services of the plugin. -/
def describeServices (configuration : Configuration) : Except Failure Response := do
  let services ← configuration.services
  let names ← (services.orElse (.list [])).elements
  return .pluginCapabilities (← names.mapM PluginCapability.ofValue)

end VolumePlugin
