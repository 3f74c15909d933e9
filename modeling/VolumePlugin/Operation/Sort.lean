/-
# Sorts of operations

Each sort of operation has a name and takes arguments: the parts of the operation and, as the
last one, the time that its request may take. Arguments without which there is no operation have
to be given; the others are null when they are left out.
-/
import VolumePlugin.Operation
import VolumePlugin.Signature

namespace VolumePlugin

/-- The sorts of operations. -/
inductive OperationSort
  | list
  | create
  | delete
  | attach
  | detach
  deriving DecidableEq

namespace OperationSort

/-- The name of a sort. -/
def name : OperationSort → String
  | .list => "list_volumes"
  | .create => "create_volume"
  | .delete => "delete_volume"
  | .attach => "attach_volume"
  | .detach => "detach_volume"

/-- All sorts. -/
def all : List OperationSort :=
  [list, create, delete, attach, detach]

/-- The sort of a name. -/
def ofName? (name : String) : Option OperationSort :=
  all.find? (·.name = name)

/-- The arguments that have to be given. -/
def required : OperationSort → List String
  | .list => ["region"]
  | .create => ["region", "name", "description", "size_gigabytes"]
  | .delete => ["volume_id"]
  | .attach => ["volume_id", "droplet_id"]
  | .detach => ["volume_id", "droplet_id"]

/-- The arguments that may be left out. -/
def optional : OperationSort → List String
  | .list => ["name", "page", "per_page", "timeout"]
  | .create => ["timeout"]
  | .delete => ["timeout"]
  | .attach => ["region", "timeout"]
  | .detach => ["region", "timeout"]

/-- The signature of a sort, as the provider or client of a name offers it. -/
def signature (sort : OperationSort) (offerer : String) : Signature :=
  ⟨String.join [offerer, ".", sort.name], sort.required, sort.optional.map (·, .null)⟩

/-- The operation of a sort for bound arguments. -/
def ofBound (sort : OperationSort) (bound : Arguments) : Operation :=
  match sort with
  | .list =>
    .list (bound.value "region") (bound.value "name") (bound.value "page") (bound.value "per_page")
  | .create =>
    .create (bound.value "region") (bound.value "name") (bound.value "description")
      (bound.value "size_gigabytes")
  | .delete => .delete (bound.value "volume_id")
  | .attach =>
    .attach (bound.value "volume_id") (bound.value "droplet_id") (bound.value "region")
  | .detach =>
    .detach (bound.value "volume_id") (bound.value "droplet_id") (bound.value "region")

/-- The name of the client in the refusal of arguments. -/
def clientName : String := "RESTClient"

/-- The operation that a client is asked for by named arguments, and the time for it. -/
def ask (sort : OperationSort) (arguments : Arguments) : Except Failure (Operation × Value) := do
  let bound ← (sort.signature clientName).bindByName arguments
  return (sort.ofBound bound, bound.value "timeout")

/-- The name of a provider that offers no operations. -/
def bareProviderName : String := "StorageProviderClient"

/-- The failure of a provider that offers no operations, for arguments in their order. Arguments
that do not fit are refused first. -/
def decline (sort : OperationSort) (arguments : List Value) : Failure :=
  match (sort.signature bareProviderName).bindInOrder arguments with
  | .error failure => failure
  | .ok _ => .raised .notImplemented []

example : (ask .delete [("volume_id", .text "v")]).toOption =
    some (.delete (.text "v"), .null) := by
  decide +kernel

end OperationSort

end VolumePlugin
