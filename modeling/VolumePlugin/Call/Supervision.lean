/-
# Failed calls

A call that fails still answers: with its empty response, a status that tells the sort of the
failure, and the wording of the failure as details, which is logged as well. The status of a
failed request to the provider follows its class; finding the class is itself logged, and may
fail where the provider's details are no text.
-/
import VolumePlugin.Call.Response
import VolumePlugin.ErrorClass

namespace VolumePlugin

/-- The status of a class of failed requests. -/
def ErrorClass.status : ErrorClass → Status
  | .notFound => .notFound
  | .transient => .unavailable
  | .permanent => .failedPrecondition
  | .alreadyInDesiredState => .failedPrecondition
  | .unknown => .internal

namespace Failure

/-- The status of a failure that is not a failed request to the provider. -/
def ownStatus : Failure → Status
  | .raised .notImplemented _ => .unimplemented
  | .validation _ => .invalidArgument
  | .invalidNodeId _ => .invalidArgument
  | .invalidListingToken _ => .aborted
  | .sizeOutOfRange .. => .outOfRange
  | .notOwned .. => .alreadyExists
  | .cancelled _ => .cancelled
  | .deadlineExceeded _ => .deadlineExceeded
  | .missingToken _ => .unauthenticated
  | _ => .internal

/-- The status of a failure. -/
def status (failure : Failure) : Action Status := do
  match failure with
  | .provider error => return (← error.classified []).status
  | other => return other.ownStatus

/-- The answer of a call that failed. -/
def report (failure : Failure) (empty : Response) : Action Answer := do
  let status ← failure.status
  Action.error failure.message
  return { response := empty, status := some status, details := some failure.message }

end Failure

/-- Let a call that may fail answer in any case. -/
def supervised (empty : Response) (call : Action Answer) : Action Answer :=
  tryCatch call fun failure => failure.report empty

end VolumePlugin
