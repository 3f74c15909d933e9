/-
# Deletion and attachment of volumes

These calls ask the provider for a change and do not look at the state before. Where the
provider refuses the change because the volume is in the wanted state already, the call has
reached its end all the same.
-/
import VolumePlugin.Call.Response
import VolumePlugin.Call.Setting
import VolumePlugin.Call.Validation
import VolumePlugin.ErrorClass

namespace VolumePlugin

/-- Ask for a change. A failed request of the wanted class, which the fragments help to find, is
not a failure; it is logged under a heading. -/
def change (setting : Setting) (call : String) (client : Client) (operation : Operation)
    (fragments : List String) (wanted : ErrorClass) (heading : String) : Action Unit :=
  tryCatch
    (do
      let timeout ← setting.timeLeft call
      client.carryOut operation timeout)
    fun failure => do
      match failure with
      | .provider error =>
        if (← error.classified fragments) ≠ wanted then throw failure
        Action.debug (heading ++ error.message)
      | _ => throw failure

/-- Delete a volume. A volume that does not exist is deleted. -/
def DeleteVolumeRequest.perform (request : DeleteVolumeRequest) (setting : Setting) :
    Action Response := do
  let volumeId ← request.validate
  let client ← setting.client
  Action.debug (String.join ["Deleting volume ", volumeId.display])
  change setting "DeleteVolume" client (.delete volumeId) [] .notFound
    "Idempotent case. volume was not found during deletion: "
  return .deletion

/-- Attach a volume to the droplet of a node. -/
def PublishVolumeRequest.perform (request : PublishVolumeRequest) (setting : Setting) :
    Action Response := do
  let (volumeId, nodeId) ← request.validate
  let dropletId ← dropletOfNode nodeId
  Action.debug (String.join
    ["droplet id for this publish operation is : ", Numeral.text dropletId])
  let client ← setting.client
  change setting "ControllerPublishVolume" client
    (.attach volumeId (.int dropletId) setting.region)
    [alreadyAttachedFragment] .alreadyInDesiredState "Idempotent case. "
  return .publication

/-- Detach a volume from the droplet of a node. -/
def UnpublishVolumeRequest.perform (request : UnpublishVolumeRequest) (setting : Setting) :
    Action Response := do
  let (volumeId, nodeId) ← request.validate
  let dropletId ← dropletOfNode nodeId
  Action.debug (String.join
    ["droplet id for this unpublish operation is : ", Numeral.text dropletId])
  let client ← setting.client
  change setting "ControllerUnpublishVolume" client
    (.detach volumeId (.int dropletId) setting.region)
    [attachmentNotFoundFragment] .alreadyInDesiredState "Idempotent case. "
  return .unpublication

end VolumePlugin
