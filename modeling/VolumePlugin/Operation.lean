/-
# Operations of the provider

The provider lists and creates volumes and deletes, attaches and detaches one. An operation
determines its request up to the address of the provider: method, path and content. Options
that are empty or zero are left out. Ids go into the path as they are printed.
-/
import VolumePlugin.Exchange

namespace VolumePlugin

/-- An operation of the provider. -/
inductive Operation
  | list (region name page perPage : Value)
  | create (region name description gigabytes : Value)
  | delete (volumeId : Value)
  | attach (volumeId dropletId region : Value)
  | detach (volumeId dropletId region : Value)
  deriving DecidableEq

namespace Operation

/-- The path of all volumes. -/
def volumesPath : String := "/v2/volumes"

/-- The path of one volume. -/
def volumePath (volumeId : Value) : String :=
  volumesPath ++ "/" ++ volumeId.display

/-- The path of the actions on one volume. -/
def actionsPath (volumeId : Value) : String :=
  volumePath volumeId ++ "/actions"

/-- The path of a volume, spelled out. -/
theorem volumePath_eq (volumeId : Value) :
    volumePath volumeId = "/v2/volumes/" ++ volumeId.display :=
  rfl

/-- The path of the actions on a volume, spelled out. -/
theorem actionsPath_eq (volumeId : Value) :
    actionsPath volumeId = "/v2/volumes/" ++ volumeId.display ++ "/actions" :=
  rfl

/-- The method of an operation. -/
def method : Operation → Method
  | .list .. => .get
  | .create .. => .post
  | .delete .. => .delete
  | .attach .. => .post
  | .detach .. => .post

/-- The path of an operation. -/
def path : Operation → String
  | .list .. => volumesPath
  | .create .. => volumesPath
  | .delete volumeId => volumePath volumeId
  | .attach volumeId _ _ => actionsPath volumeId
  | .detach volumeId _ _ => actionsPath volumeId

/-- A member that is left out when its value is empty. -/
def optional (name : String) (value : Value) : List (String × Value) :=
  if value.truthy then [(name, value)] else []

/-- The members of an action on a volume. -/
def action (type : String) (dropletId region : Value) : List (String × Value) :=
  [("type", .text type), ("droplet_id", dropletId)] ++ optional "region" region

/-- What an operation carries. -/
def content : Operation → Content
  | .list region name page perPage =>
    .query ([("region", region)] ++ optional "name" name ++ optional "page" page ++
      optional "per_page" perPage)
  | .create region name description gigabytes =>
    .json [("region", region), ("name", name), ("description", description),
      ("size_gigabytes", gigabytes)]
  | .delete _ => .none
  | .attach _ dropletId region => .json (action "attach" dropletId region)
  | .detach _ dropletId region => .json (action "detach" dropletId region)

end Operation

end VolumePlugin
