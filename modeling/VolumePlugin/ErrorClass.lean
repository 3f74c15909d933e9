/-
# Classes of failed requests

A failed request to the provider belongs to one of a few classes, which decide whether the call
has failed at all and with which status. The provider reports that a volume is already in the
state that was asked for by a status of its own or in the text of its message alone, so both are
looked at; callers say which fragments of a message mean that state. Letter case is ignored.
-/
import VolumePlugin.Session
import VolumePlugin.Text.Search
import VolumePlugin.Value.Order

namespace VolumePlugin

/-- The classes of failed requests. -/
inductive ErrorClass
  | alreadyInDesiredState
  | notFound
  | transient
  | permanent
  | unknown
  deriving DecidableEq

/-- The name of a class. -/
def ErrorClass.name : ErrorClass → String
  | .alreadyInDesiredState => "ALREADY_IN_DESIRED_STATE"
  | .notFound => "NOT_FOUND"
  | .transient => "TRANSIENT"
  | .permanent => "PERMANENT"
  | .unknown => "UNKNOWN"

/-- The fragment by which a message says that a volume is already attached. -/
def alreadyAttachedFragment : String := "already attached"

/-- The fragment by which a message says that a volume is not attached. -/
def attachmentNotFoundFragment : String := "Attachment not found"

/-- The fragment by which a message says that a volume does not exist. -/
def notFoundFragment : String := "not found"

/-- Whether some fragment stands in a text that is in lower case. -/
def mentions (text : List Char) (fragments : List String) : Bool :=
  fragments.any fun fragment => Text.contains (Text.lower fragment.toList) text

namespace ProviderError

/-- The details in lower case. Empty details of any kind are the empty text. -/
def lowerDetails (error : ProviderError) : Except Failure (List Char) :=
  match error.details.orElse (.text "") with
  | .text s => .ok (Text.lower s.toList)
  | other => .error (.mismatch (.lacks other.kind "lower"))

/-- The class of a status on its own, which has to be a number unless it is a known one. -/
def classOfStatus (status : Value) : Except Failure ErrorClass := do
  if status.alike (.int 404) then return .notFound
  if status.alike (.int 429) then return .transient
  if ← Value.compare .atLeast status (.int 500) then return .transient
  if ← Value.compare .atMost (.int 400) status then return .permanent
  return .unknown

/-- The class of a status and the details that came with it, in lower case. -/
def classOfDetails (status : Value) (details : List Char) : Except Failure ErrorClass :=
  if mentions details [notFoundFragment] then .ok .notFound else classOfStatus status

/-- The class of a failed request for a caller to whom the fragments mean the state that it
wants. Without a status there was no answer, and trying again may help. The status 422 means
that state for a caller that names fragments. -/
def classify (error : ProviderError) (fragments : List String) : Except Failure ErrorClass := do
  match error.status with
  | .null => return .transient
  | status =>
    if !fragments.isEmpty && status.alike (.int 422) then return .alreadyInDesiredState
    let details ← error.lowerDetails
    if mentions details fragments then return .alreadyInDesiredState
    classOfDetails status details

/-- What the log says about a class. -/
def classNote (error : ProviderError) (found : ErrorClass) : String :=
  match error.status with
  | .null => "provider call failed without a response, classified as transient"
  | status =>
    String.join ["provider error with status ", status.display, " classified as ", found.name]

/-- Classify a failed request and log its class. -/
def classified (error : ProviderError) (fragments : List String) : Action ErrorClass := do
  let found ← error.classify fragments
  Action.debug (error.classNote found)
  return found

end ProviderError

/-- A whole status has its class by its value. -/
theorem classOfStatus_int (status : Int) :
    ProviderError.classOfStatus (.int status) = .ok (
      if status = 404 then .notFound
      else if status = 429 ∨ 500 ≤ status then .transient
      else if 400 ≤ status then .permanent
      else .unknown) := by
  unfold ProviderError.classOfStatus
  simp only [Value.alike_int, Value.compare_atLeast_int, Value.compare_atMost_int,
    decide_eq_true_eq, bind, Except.bind, pure, Except.pure]
  grind

/-- The class of any failure. Only failed requests have a known one. -/
def Failure.classify (failure : Failure) (fragments : List String) : Except Failure ErrorClass :=
  match failure with
  | .provider error => error.classify fragments
  | _ => .ok .unknown

example :
    (ProviderError.classify ⟨"POST", "/", .int 400, .text "Volume ALREADY attached"⟩
      [alreadyAttachedFragment]).toOption = some .alreadyInDesiredState := by
  decide +kernel
example :
    (ProviderError.classify ⟨"DELETE", "/", .int 422, .text "Not Found"⟩ []).toOption =
      some .notFound := by
  decide +kernel

end VolumePlugin
