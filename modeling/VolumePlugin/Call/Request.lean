/-
# Calls

The calls of the volume plugin, with those parts of their requests that matter. Parts that a
request leaves out have the values given here. Names, ids and counts are taken as they come, and
the rules of the plugin decide what they are good for; a list of capabilities may also be
missing, and an entry of it may be null.
-/
import VolumePlugin.Capacity

namespace VolumePlugin

/-- A request for a volume of a name. -/
structure CreateVolumeRequest where
  name : Value := .text ""
  range : Option CapacityRange := none
  capabilities : Option (List (Option Capability)) := some []

/-- A request to delete a volume. -/
structure DeleteVolumeRequest where
  volumeId : Value := .text ""

/-- A request to make a volume available on a node. -/
structure PublishVolumeRequest where
  volumeId : Value := .text ""
  nodeId : Value := .text ""
  capability : Option Capability := none

/-- A request to take a volume away from a node. -/
structure UnpublishVolumeRequest where
  volumeId : Value := .text ""
  nodeId : Value := .text ""

/-- A request to tell whether a volume has capabilities. -/
structure ValidateCapabilitiesRequest where
  volumeId : Value := .text ""
  capabilities : Option (List (Option Capability)) := some []

/-- A request for the volumes from a page on. -/
structure ListVolumesRequest where
  maxEntries : Value := .int 0
  startingToken : Value := .text ""

/-- A call of the plugin. -/
inductive Call
  | createVolume (request : CreateVolumeRequest)
  | deleteVolume (request : DeleteVolumeRequest)
  | publishVolume (request : PublishVolumeRequest)
  | unpublishVolume (request : UnpublishVolumeRequest)
  | validateCapabilities (request : ValidateCapabilitiesRequest)
  | listVolumes (request : ListVolumesRequest)
  | getCapacity
  | getControllerCapabilities
  | getPluginInfo
  | getPluginCapabilities
  | probe

namespace Call

/-- The name of a call. -/
def name : Call → String
  | .createVolume _ => "CreateVolume"
  | .deleteVolume _ => "DeleteVolume"
  | .publishVolume _ => "ControllerPublishVolume"
  | .unpublishVolume _ => "ControllerUnpublishVolume"
  | .validateCapabilities _ => "ValidateVolumeCapabilities"
  | .listVolumes _ => "ListVolumes"
  | .getCapacity => "GetCapacity"
  | .getControllerCapabilities => "ControllerGetCapabilities"
  | .getPluginInfo => "GetPluginInfo"
  | .getPluginCapabilities => "GetPluginCapabilities"
  | .probe => "Probe"

/-- The volume that a call is about, by the name or id in its request, or null. The thread that
works on the call takes this name. -/
def subject : Call → Value
  | .createVolume request => request.name
  | .deleteVolume request => request.volumeId
  | .publishVolume request => request.volumeId
  | .unpublishVolume request => request.volumeId
  | .validateCapabilities request => request.volumeId
  | _ => .null

/-- Whether failures of a call become a status of its answer. The calls that only tell what the
plugin is able to do pass their failures on. -/
def isSupervised : Call → Bool
  | .getControllerCapabilities | .getPluginCapabilities | .probe => false
  | _ => true

end Call

end VolumePlugin
