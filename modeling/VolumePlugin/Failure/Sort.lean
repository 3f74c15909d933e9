/-
# Sorts of failures

The plugin and its client have failures of their own sorts. A failure of each sort is made from
arguments, which are values of any kind since most of them are only printed. Arguments that do
not fit the sort make a failure of another kind.
-/
import VolumePlugin.Signature

namespace VolumePlugin

/-- The sorts of failures that the plugin and its client have of their own. -/
inductive FailureSort
  | validation
  | invalidNodeId
  | invalidListingToken
  | sizeOutOfRange
  | duplicateName
  | notOwned
  | cancelled
  | deadlineExceeded
  | missingToken
  | unexpectedAnswer
  | provider
  deriving DecidableEq

namespace FailureSort

/-- The name of a sort. -/
def name : FailureSort → String
  | .validation => "ValidationException"
  | .invalidNodeId => "InvalidNodeId"
  | .invalidListingToken => "InvalidListingToken"
  | .sizeOutOfRange => "VolumeSizeOutOfRange"
  | .duplicateName => "DuplicateVolumeNameError"
  | .notOwned => "VolumeNotOwnedError"
  | .cancelled => "RequestCancelledError"
  | .deadlineExceeded => "DeadlineExceededError"
  | .missingToken => "MissingAccessTokenError"
  | .unexpectedAnswer => "UnexpectedProviderResponseError"
  | .provider => "ProviderError"

/-- All sorts. -/
def all : List FailureSort :=
  [validation, invalidNodeId, invalidListingToken, sizeOutOfRange, duplicateName, notOwned,
   cancelled, deadlineExceeded, missingToken, unexpectedAnswer, provider]

/-- The sort of a name. -/
def ofName? (name : String) : Option FailureSort :=
  all.find? (·.name = name)

/-- The arguments that a failure of a sort has to be given. -/
def required : FailureSort → List String
  | .validation => ["msg"]
  | .invalidNodeId => ["node_id"]
  | .invalidListingToken => ["starting_token"]
  | .sizeOutOfRange => ["size_in_bytes", "min_size_in_bytes", "max_size_in_bytes"]
  | .duplicateName => ["volume_name", "volumes_count"]
  | .notOwned => ["volume_name", "description"]
  | .cancelled => ["method_name"]
  | .deadlineExceeded => ["method_name"]
  | .missingToken => ["variable_name"]
  | .unexpectedAnswer => ["url", "body"]
  | .provider => ["method", "url"]

/-- The arguments that have a default, with it. Only a failed request may lack a status. -/
def optional : FailureSort → List (String × Value)
  | .provider => [("status_code", .null), ("details", .text "")]
  | _ => []

/-- The signature of a sort. -/
def signature (sort : FailureSort) : Signature :=
  ⟨String.join [sort.name, ".__init__"], sort.required, sort.optional⟩

/-- The failure of a sort for bound arguments. -/
def ofBound (sort : FailureSort) (bound : Arguments) : Failure :=
  match sort with
  | .validation => .validation (.stated (bound.value "msg"))
  | .invalidNodeId => .invalidNodeId (bound.value "node_id")
  | .invalidListingToken => .invalidListingToken (bound.value "starting_token")
  | .sizeOutOfRange =>
    .sizeOutOfRange (bound.value "size_in_bytes") (bound.value "min_size_in_bytes")
      (bound.value "max_size_in_bytes")
  | .duplicateName => .duplicateName (bound.value "volume_name") (bound.value "volumes_count")
  | .notOwned => .notOwned (bound.value "volume_name") (bound.value "description")
  | .cancelled => .cancelled (bound.value "method_name")
  | .deadlineExceeded => .deadlineExceeded (bound.value "method_name")
  | .missingToken => .missingToken (bound.value "variable_name")
  | .unexpectedAnswer => .unexpectedAnswer (bound.value "url") (bound.value "body")
  | .provider => .provider {
      method := (bound.value "method").display
      url := (bound.value "url").display
      status := bound.value "status_code"
      details := bound.value "details" }

/-- Make a failure of a sort from arguments in their order. -/
def make (sort : FailureSort) (arguments : List Value) : Except Failure Failure :=
  sort.ofBound <$> sort.signature.bindInOrder arguments

example : (make .provider [.text "GET", .text "/", .int 404]).toOption =
    some (.provider ⟨"GET", "/", .int 404, .text ""⟩) := by
  decide +kernel

end FailureSort

end VolumePlugin
