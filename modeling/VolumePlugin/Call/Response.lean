/-
# Responses

Each call has its own form of response, and an empty response of that form which stands in
where the call has failed. An answer is a response with the status and the details that were
set along with it; where all is well none are set.
-/
import VolumePlugin.Call.Request

namespace VolumePlugin

/-- A volume as callers see it. -/
structure CsiVolume where
  volumeId : Value := .text ""
  capacityBytes : Value := .int 0
  deriving DecidableEq

/-- The printed form of a volume: its fields by name. -/
def CsiVolume.display (volume : CsiVolume) : String :=
  String.join ["CsiVolume(volume_id=", volume.volumeId.quoted, ", capacity_bytes=",
    volume.capacityBytes.quoted, ")"]

/-- What the plugin can do with volumes. -/
inductive ControllerCapability
  | unknown
  | createDeleteVolume
  | publishUnpublishVolume
  | listVolumes
  | getCapacity
  deriving DecidableEq

namespace ControllerCapability

/-- The name of a capability. -/
def name : ControllerCapability → String
  | .unknown => "UNKNOWN"
  | .createDeleteVolume => "CREATE_DELETE_VOLUME"
  | .publishUnpublishVolume => "PUBLISH_UNPUBLISH_VOLUME"
  | .listVolumes => "LIST_VOLUMES"
  | .getCapacity => "GET_CAPACITY"

/-- All capabilities by their numbers from zero on. -/
def all : List ControllerCapability :=
  [unknown, createDeleteVolume, publishUnpublishVolume, listVolumes, getCapacity]

/-- The capabilities that the plugin offers. -/
def offered : List ControllerCapability :=
  [createDeleteVolume, publishUnpublishVolume, listVolumes, getCapacity]

end ControllerCapability

/-- The services that a plugin can have. -/
inductive PluginCapability
  | unknown
  | controllerService
  deriving DecidableEq

namespace PluginCapability

/-- The name of a service. -/
def name : PluginCapability → String
  | .unknown => "UNKNOWN"
  | .controllerService => "CONTROLLER_SERVICE"

/-- All services by their numbers from zero on. -/
def all : List PluginCapability :=
  [unknown, controllerService]

/-- The service that a value names. Lists and objects cannot be looked up. -/
def ofValue (value : Value) : Except Failure PluginCapability :=
  match value with
  | .text s =>
    match all.find? (·.name = s) with
    | some capability => .ok capability
    | none => .error (.missingMember value)
  | .list _ | .object _ | .settings _ => .error (.mismatch (.unhashable value.kind))
  | _ => .error (.missingMember value)

end PluginCapability

/-- What a call responds. -/
inductive Response
  | creation (volume : Option CsiVolume)
  | deletion
  | publication
  | unpublication
  | validation (supported : Bool) (message : String)
  | listing (volumes : List CsiVolume) (nextToken : String)
  | capacity (available : Int)
  | controllerCapabilities (capabilities : List ControllerCapability)
  | pluginInfo (name version : Value)
  | pluginCapabilities (capabilities : List PluginCapability)
  | probe (ready : Bool)
  deriving DecidableEq

/-- The empty response of a call. -/
def Call.emptyResponse : Call → Response
  | .createVolume _ => .creation none
  | .deleteVolume _ => .deletion
  | .publishVolume _ => .publication
  | .unpublishVolume _ => .unpublication
  | .validateCapabilities _ => .validation false ""
  | .listVolumes _ => .listing [] ""
  | .getCapacity => .capacity 0
  | .getControllerCapabilities => .controllerCapabilities []
  | .getPluginInfo => .pluginInfo (.text "") (.text "")
  | .getPluginCapabilities => .pluginCapabilities []
  | .probe => .probe true

/-- The statuses of answers. -/
inductive Status
  | ok
  | cancelled
  | invalidArgument
  | deadlineExceeded
  | notFound
  | alreadyExists
  | failedPrecondition
  | aborted
  | outOfRange
  | unimplemented
  | internal
  | unavailable
  | unauthenticated
  deriving DecidableEq

/-- The name of a status. -/
def Status.name : Status → String
  | .ok => "OK"
  | .cancelled => "CANCELLED"
  | .invalidArgument => "INVALID_ARGUMENT"
  | .deadlineExceeded => "DEADLINE_EXCEEDED"
  | .notFound => "NOT_FOUND"
  | .alreadyExists => "ALREADY_EXISTS"
  | .failedPrecondition => "FAILED_PRECONDITION"
  | .aborted => "ABORTED"
  | .outOfRange => "OUT_OF_RANGE"
  | .unimplemented => "UNIMPLEMENTED"
  | .internal => "INTERNAL"
  | .unavailable => "UNAVAILABLE"
  | .unauthenticated => "UNAUTHENTICATED"

/-- A response with the status and the details that were set, if any. -/
structure Answer where
  response : Response
  status : Option Status := none
  details : Option String := none
  deriving DecidableEq

end VolumePlugin
