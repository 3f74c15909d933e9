/-
# Volumes

A volume as the provider describes it. Three members of the description have to be there, in
the order id, name and size; the others are empty when they are missing, null or empty. The
region is given by name or as an object that holds the name as its slug.

A volume whose description is the ownership tag, to the letter, was created by this plugin.
-/
import VolumePlugin.Capacity
import VolumePlugin.Signature

namespace VolumePlugin

/-- The description of the volumes that this plugin creates. -/
def ownershipTag : String := "Created by DigitalOcean CSI driver"

/-- A volume of the provider. -/
structure Volume where
  id : Value
  name : Value
  sizeGigabytes : Value
  description : Value := .text ""
  region : Value := .text ""
  dropletIds : List Value := []
  deriving DecidableEq

namespace Volume

/-- The name of a region that is given as such or as an object. -/
def regionName (region : Value) : Value :=
  match region.members? with
  | some members => Value.memberOr members "slug" (.text "")
  | none => region

/-- The volume that a value describes. -/
def ofValue (value : Value) : Except Failure Volume := do
  let members ← value.members
  let optional (name : String) (fallback : Value) : Value :=
    (Value.memberOr members name .null).orElse fallback
  let id ← Value.require members "id"
  let name ← Value.require members "name"
  let size ← Value.require members "size_gigabytes"
  let droplets ← (optional "droplet_ids" (.list [])).elements
  return {
    id := id
    name := name
    sizeGigabytes := size
    description := optional "description" (.text "")
    region := regionName (optional "region" (.object []))
    dropletIds := droplets }

/-- The fields of a volume that is made from them by name. -/
def signature : Signature where
  callee := "Volume.__init__"
  required := ["id", "name", "size_gigabytes"]
  optional := [("description", .text ""), ("region", .text ""), ("droplet_ids", .list [])]

/-- The volume with given fields. Droplet ids that are no collection are left out. -/
def ofFields (fields : Arguments) : Except Failure Volume := do
  let bound ← signature.bindByName fields
  return {
    id := bound.value "id"
    name := bound.value "name"
    sizeGigabytes := bound.value "size_gigabytes"
    description := bound.value "description"
    region := bound.value "region"
    dropletIds := (bound.value "droplet_ids").elements.toOption.getD [] }

/-- Whether this plugin created the volume. -/
def isOwned (volume : Volume) : Bool :=
  match volume.description with
  | .text s => s = ownershipTag
  | _ => false

/-- The capacity of the volume in bytes. -/
def capacityBytes (volume : Volume) : Except Failure Value :=
  Size.toBytes volume.sizeGigabytes

/-- The printed form of a volume: its fields by name. -/
def display (volume : Volume) : String :=
  String.join ["Volume(id=", volume.id.quoted, ", name=", volume.name.quoted, ", size_gigabytes=",
    volume.sizeGigabytes.quoted, ", description=", volume.description.quoted, ", region=",
    volume.region.quoted, ", droplet_ids=", (Value.list volume.dropletIds).quoted, ")"]

/-- Only a text can be the ownership tag. -/
theorem isOwned_iff (volume : Volume) :
    volume.isOwned = true ↔ volume.description = .text ownershipTag := by
  unfold isOwned
  cases volume.description <;> simp

end Volume

end VolumePlugin
