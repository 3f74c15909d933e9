/-
# Creation of volumes

A volume is created once per name. The provider is asked for the volumes of the name first. A
single one that this plugin owns is the volume that was asked for, whatever its size; a foreign
one or several are a failure, and only where there is none a volume is created.

The size of the response is that of the volume that was found, and for a new one the size that
was asked for.
-/
import VolumePlugin.Call.Response
import VolumePlugin.Call.Setting
import VolumePlugin.Call.Validation

namespace VolumePlugin

/-- The volume of a name among the volumes that have the name, none where there are none. -/
def volumeOfName (name : Value) (volumes : List Volume) : Except Failure (Option Volume) :=
  match volumes with
  | [] => .ok none
  | [volume] =>
    if volume.isOwned then .ok (some volume)
    else .error (.notOwned volume.name volume.description)
  | several => .error (.duplicateName name (.int several.length))

/-- The response for a volume of an id and a size in gibibytes. -/
def respondVolume (volumeId gigabytes : Value) : Action Response := do
  Action.debug (String.join ["creating create volume response for volume : ", volumeId.display])
  let volume : CsiVolume := ⟨volumeId, ← Size.toBytes gigabytes⟩
  if !volume.capacityBytes.isWritable then throw (.longNumeral .written)
  Action.debug (String.join
    ["finished creating volume response : CreateVolumeResponse(volume=", volume.display, ")"])
  return .creation (some volume)

/-- Create a volume, unless the caller has given up. -/
def createNew (setting : Setting) (client : Client) (name gigabytes : Value) :
    Action Response := do
  ensureActive "CreateVolume"
  Action.debug (String.join ["volume was not found. creating a new volume ", name.display,
    " with size ", gigabytes.display, " GiB in region ", setting.region.display])
  let timeout ← setting.timeLeft "CreateVolume"
  let volume ← client.createVolume setting.region name (.text ownershipTag) gigabytes timeout
  Action.info (String.join ["volume ", name.display, " created with id ", volume.id.display])
  respondVolume volume.id gigabytes

/-- Create a volume unless it is there. -/
def CreateVolumeRequest.perform (request : CreateVolumeRequest) (setting : Setting) :
    Action Response := do
  let (name, gigabytes) ← request.validate
  Action.debug (String.join ["volume name : ", name.display])
  let client ← setting.client
  let timeout ← setting.timeLeft "CreateVolume"
  let page ← client.listVolumes setting.region name .null .null timeout
  match ← volumeOfName name page.volumes with
  | some volume =>
    Action.debug (String.join ["volume found : ", volume.display])
    respondVolume volume.id volume.sizeGigabytes
  | none => createNew setting client name gigabytes

end VolumePlugin
