/-
# Exchanges with the provider

A request goes out with a method, an address, a timeout and the access token, and carries a
query or a JSON object. What comes back is an answer, or the report that the request was lost
on its way, or a failure of another sort that broke it off.

An answer with a status of client or server errors is a failed request. Its details are the
message that the body names, or the whole body. Any other answer has a value: the empty object
where there is no content, and otherwise what the body spells. A body that is nested too deeply
to be read fails as such in either case.
-/
import VolumePlugin.Value.Access
import VolumePlugin.Value.Json

namespace VolumePlugin

/-- The methods of requests. -/
inductive Method
  | get
  | post
  | delete
  deriving DecidableEq

/-- The name of a method. -/
def Method.name : Method → String
  | .get => "GET"
  | .post => "POST"
  | .delete => "DELETE"

/-- What a request carries. -/
inductive Content
  | none
  | query (parameters : List (String × Value))
  | json (members : List (String × Value))
  deriving DecidableEq

/-- A request to the provider. -/
structure Request where
  method : Method
  url : String
  timeout : Value
  authorization : String
  content : Content
  deriving DecidableEq

/-- The type of what requests carry. -/
def Request.contentType : String := "application/json"

/-- What comes back for a request. -/
inductive Reply
  | answer (status : Int) (body : String)
  | lost (report : String)
  | broken (sort : Raised) (report : String)
  deriving DecidableEq

namespace Reply

/-- The reply where nothing answers any more. -/
def silence : Reply := .lost "no scripted response"

/-- Whether a status reports an error of the client or the server. -/
def isErrorStatus (status : Int) : Bool :=
  400 ≤ status && status < 600

/-- What an answer says about an error: a message in its body that is not empty, or the body. -/
def errorDetails (body : String) : Except Failure Value :=
  match Json.read body with
  | .ok (.object members) => .ok ((Value.memberOr members "message" .null).orElse (.text body))
  | .error (.tooDeep container) => .error (.nestedTooDeep container)
  | _ => .ok (.text body)

/-- The value of an answer that reports no error. -/
def content (url : String) (status : Int) (body : String) : Except Failure Value :=
  if status = 204 ∨ body = "" then .ok (.object [])
  else
    match Json.read body with
    | .ok value => .ok value
    | .error .malformed => .error (.unexpectedAnswer (.text url) (.text body))
    | .error (.tooDeep container) => .error (.nestedTooDeep container)

/-- The value of a reply to a request. -/
def value (method : Method) (url : String) : Reply → Except Failure Value
  | .lost report => .error (.provider ⟨method.name, url, .null, .text report⟩)
  | .broken sort report => .error (.raised sort [.text report])
  | .answer status body =>
    if isErrorStatus status then do
      let details ← errorDetails body
      .error (.provider ⟨method.name, url, .int status, details⟩)
    else content url status body

end Reply

end VolumePlugin
