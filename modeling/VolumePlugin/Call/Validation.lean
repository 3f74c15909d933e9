/-
# Validation of requests

A request is looked at part by part in a fixed order, and the first part that is wrong decides
how the call fails. A valid request yields the parts that the call goes on with. Each step of
the way is logged.
-/
import VolumePlugin.Call.Request
import VolumePlugin.PageLinks
import VolumePlugin.Session

namespace VolumePlugin

/-- The value of a parameter that may not be empty. -/
def requireParameter (value : Value) (parameter : String) : Except Failure Value :=
  if value.truthy then .ok value else .error (.validation (.empty parameter))

/-- The access mode of an entry in a list of capabilities. A null has none. -/
def accessModeOf (entry : Option Capability) : Except Failure AccessMode :=
  match entry with
  | some capability => .ok capability.accessMode
  | none => .error (.mismatch (.lacks .null "access_mode"))

/-- The access modes of capabilities. -/
def accessModes (capabilities : List (Option Capability)) : Except Failure (List AccessMode) :=
  capabilities.mapM accessModeOf

/-- What an entry of a mode that is not supported is refused with. -/
def AccessMode.refusal (mode : AccessMode) : Failure :=
  (Failure.validation (.unsupportedAccessMode mode)).wordedWith [mode.value]

/-- Refuse an entry that is not supported, by its mode. -/
def refuseUnsupported (entry : Option Capability) : Except Failure Unit := do
  let mode ← accessModeOf entry
  if mode.isSupported then return
  throw mode.refusal

/-- Refuse capabilities that are missing or not supported; the first such entry decides. -/
def checkCapabilities (capabilities : Option (List (Option Capability))) : Except Failure Unit :=
  match capabilities.getD [] with
  | [] => .error (.validation .capabilitiesNotSet)
  | entries => entries.forM refuseUnsupported

/-- Check capabilities and log it. -/
def validateCapabilities (capabilities : Option (List (Option Capability))) : Action Unit := do
  Action.debug "validating csi volume capabilities"
  checkCapabilities capabilities
  Action.debug "csi volume capabilities validation finished."

/-- The name and the size in gibibytes of the volume to create. -/
def CreateVolumeRequest.validate (request : CreateVolumeRequest) : Action (Value × Value) := do
  Action.debug "validating create volume request"
  let name ← requireParameter request.name "name"
  validateCapabilities request.capabilities
  let size ← CapacityRange.storage request.range
  Size.check size
  Action.debug "request validation finished."
  return (name, size)

/-- The id of the volume to delete. -/
def DeleteVolumeRequest.validate (request : DeleteVolumeRequest) : Action Value := do
  Action.debug "validating delete volume request"
  let volumeId ← requireParameter request.volumeId "volume id"
  Action.debug "delete volume validation finished"
  return volumeId

/-- The ids of the volume and of the node to publish it on. -/
def PublishVolumeRequest.validate (request : PublishVolumeRequest) : Action (Value × Value) := do
  Action.debug "validating publish volume request"
  let volumeId ← requireParameter request.volumeId "volume id"
  let nodeId ← requireParameter request.nodeId "node id"
  match request.capability with
  | some capability => validateCapabilities (some [some capability])
  | none => pure ()
  Action.debug "publish volume request validation finished."
  return (volumeId, nodeId)

/-- The ids of the volume and of the node to take it from. -/
def UnpublishVolumeRequest.validate (request : UnpublishVolumeRequest) :
    Action (Value × Value) := do
  Action.debug "validating unpublish volume request"
  let volumeId ← requireParameter request.volumeId "volume id"
  let nodeId ← requireParameter request.nodeId "node id"
  Action.debug "unpublish volume request validation finished."
  return (volumeId, nodeId)

/-- The id of the volume whose capabilities are asked about. -/
def ValidateCapabilitiesRequest.validate (request : ValidateCapabilitiesRequest) :
    Action Value := do
  Action.debug "validating validate volume capabilities request"
  let volumeId ← requireParameter request.volumeId "volume id"
  Action.debug "validate volume capabilities request validation finished."
  return volumeId

/-- The most entries of a page, null where the caller leaves it to the provider. -/
def ListVolumesRequest.validate (request : ListVolumesRequest) : Except Failure Value := do
  if ← Value.compare .less request.maxEntries (.int 0) then
    throw (.validation .negativeMaxEntries)
  return request.maxEntries.orElse .null

/-- The whole number that a value stands for, none where it stands for no number. -/
def wholeNumber? (value : Value) : Except Failure (Option Int) :=
  match value with
  | .text s => .ok (Numeral.read? s.toList)
  | .int n => .ok (some n)
  | .bool b => .ok (some (if b then 1 else 0))
  | .float (.finite negative mantissa exponent) =>
    .ok (some (Binary64.truncate negative mantissa exponent))
  | .float (.infinite _) => .error .infiniteNumber
  | _ => .ok none

/-- The droplet of a node, whose id is the droplet's in decimal. Droplet ids are positive. -/
def dropletOfNode (nodeId : Value) : Except Failure Int := do
  match ← wholeNumber? nodeId with
  | some n => if 0 < n then return n else throw (.invalidNodeId nodeId)
  | none => throw (.invalidNodeId nodeId)

/-- The page that the text of a starting token names. A token holds ASCII digits only. A zero
names the first page. -/
def pageOfTokenText (token : String) : Except Failure Int :=
  match Numeral.asciiDigits? token.toList with
  | none => .error (.invalidListingToken (.text token))
  | some digits =>
    if digits.length ≤ Numeral.digitLimit then
      .ok (max (Numeral.ofDigits digits : Int) firstPage)
    else .error (.longNumeral (.read digits.length))

/-- The page that a starting token names. An empty token names the first page, and any other has
to be a text. -/
def pageOfToken (token : Value) : Except Failure Int :=
  if token.truthy then
    match token with
    | .text token => pageOfTokenText token
    | other => .error (.mismatch (.lacks other.kind "isascii"))
  else .ok firstPage

end VolumePlugin
