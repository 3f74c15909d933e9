/-
# The provider's client

A client knows the address of the provider, the access token and how long a request may take
where the caller does not say. It performs one operation by one request.
-/
import VolumePlugin.Configuration
import VolumePlugin.Operation
import VolumePlugin.PageLinks
import VolumePlugin.Session
import VolumePlugin.Volume

namespace VolumePlugin

/-- A client of the provider. -/
structure Client where
  apiUrl : String
  token : String
  defaultTimeout : Value
  deriving DecidableEq

/-- A page of a listing: its volumes and its links. -/
structure Page where
  volumes : List Volume
  links : Option PageLinks
  deriving DecidableEq

/-- The page that the value of an answer describes. -/
def Page.ofValue (value : Value) : Except Failure Page := do
  let members ← value.members
  let items ← (Value.memberOr members "volumes" (.list [])).elements
  let volumes ← items.mapM Volume.ofValue
  let links ← PageLinks.ofValue (Value.memberOr members "links" .null)
  return ⟨volumes, links⟩

/-- The created volume that the value of an answer describes. Where a member is missing, the
answer as a whole is not what was expected. -/
def Volume.ofCreation (value : Value) : Except Failure Volume :=
  match value.index "volume" >>= Volume.ofValue with
  | .error (.missingMember _) =>
    .error (.unexpectedAnswer (.text Operation.volumesPath) value)
  | other => other

namespace Client

/-- An address without slashes at its end. -/
def trimSlashes (url : String) : String :=
  String.ofList (url.toList.reverse.dropWhile (· = '/')).reverse

/-- The feature of an address that takes its slashes away. -/
def trimFeature : String := "rstrip"

/-- A client for an address, which has to be a text. Settings have a member in place of the
feature that is asked of the address, which is nothing that can be called. -/
def ofUrl (apiUrl : Value) (token : String) (defaultTimeout : Value) : Except Failure Client :=
  match apiUrl with
  | .text url => .ok ⟨trimSlashes url, token, defaultTimeout⟩
  | .settings members =>
    .error (.mismatch (.notCallable (Value.memberOr members trimFeature .null).kind))
  | other => .error (.mismatch (.lacks other.kind trimFeature))

/-- The client that the environment and the configuration describe. -/
def ofSettings (environment : Environment) (configuration : Configuration) : Action Client := do
  let tokenVariable ← configuration.tokenVariable
  match ← environment.read tokenVariable with
  | none => throw (.missingToken tokenVariable)
  | some token =>
    let apiUrl ← configuration.apiUrl
    Action.debug (String.join ["creating provider client for ", apiUrl.display])
    ofUrl apiUrl token (← configuration.requestTimeout)

/-- How a request proves that it may be made. -/
def bearer (token : String) : String :=
  "Bearer " ++ token

/-- The request that performs an operation. -/
def request (client : Client) (operation : Operation) (timeout : Value) : Request where
  method := operation.method
  url := client.apiUrl ++ operation.path
  timeout :=
    match timeout with
    | .null => client.defaultTimeout
    | given => given
  authorization := bearer client.token
  content := operation.content

/-- Perform an operation. -/
def perform (client : Client) (operation : Operation) (timeout : Value) : Action Value := do
  let request := client.request operation timeout
  Action.debug (String.join ["provider request : ", request.method.name, " ", request.url])
  let reply ← Action.exchange request
  reply.value request.method request.url

/-- List one page of the volumes of a region. -/
def listVolumes (client : Client) (region name page perPage timeout : Value) : Action Page := do
  Page.ofValue (← client.perform (.list region name page perPage) timeout)

/-- Create a volume. -/
def createVolume (client : Client) (region name description gigabytes timeout : Value) :
    Action Volume := do
  Volume.ofCreation (← client.perform (.create region name description gigabytes) timeout)

/-- Perform an operation whose answer has nothing to tell. -/
def carryOut (client : Client) (operation : Operation) (timeout : Value) : Action Unit := do
  let _ ← client.perform operation timeout

end Client

end VolumePlugin
