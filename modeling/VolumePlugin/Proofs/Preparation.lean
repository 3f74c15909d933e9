/-
# How calls are prepared

Before a call sends its first request it looks at the request of its caller and opens a client,
and neither touches the session. Both are rules: what the caller asked for and the client follow
from the request, the environment and the configuration alone. The time for a request is one
question to the caller, and an operation of the provider is one exchange.
-/
import VolumePlugin.Call.Attachment
import VolumePlugin.Call.Creation
import VolumePlugin.Call.Identity
import VolumePlugin.Call.Listing
import VolumePlugin.Proofs.Transcript

namespace VolumePlugin

open VolumePlugin.Action

/-! ## Chains of rules -/

section Chains

variable {α β : Type}

/-- A chain succeeds when both of its rules do. -/
theorem bind_eq_ok {rule : Except Failure α} {next : α → Except Failure β} {b : β} :
    rule >>= next = .ok b ↔ ∃ a, rule = .ok a ∧ next a = .ok b := by
  cases rule <;> simp [bind, Except.bind]

/-- A chain fails when its first rule does, or else the one behind it. -/
theorem bind_eq_error {rule : Except Failure α} {next : α → Except Failure β} {failure : Failure} :
    rule >>= next = .error failure ↔
      rule = .error failure ∨ ∃ a, rule = .ok a ∧ next a = .error failure := by
  cases rule <;> simp [bind, Except.bind]

@[simp]
theorem throw_eq_error (failure : Failure) :
    (throw failure : Except Failure α) = .error failure := rfl

@[simp]
theorem ok_bind (a : α) (next : α → Except Failure β) : (.ok a >>= next) = next a := rfl

@[simp]
theorem error_bind (failure : Failure) (next : α → Except Failure β) :
    (.error failure >>= next) = .error failure := rfl

@[simp]
theorem map_error (failure : Failure) (f : α → β) :
    (f <$> .error failure : Except Failure β) = .error failure := rfl

end Chains

/-! ## What callers ask for -/

/-- The name and the size in gibibytes that a request for a volume asks for. -/
def CreateVolumeRequest.rule (request : CreateVolumeRequest) : Except Failure (Value × Value) := do
  let name ← requireParameter request.name "name"
  checkCapabilities request.capabilities
  let size ← CapacityRange.storage request.range
  Size.check size
  return (name, size)

/-- The id of the volume that a request asks to delete. -/
def DeleteVolumeRequest.rule (request : DeleteVolumeRequest) : Except Failure Value :=
  requireParameter request.volumeId "volume id"

/-- The ids of the volume and of the node that a request asks to bring together. -/
def PublishVolumeRequest.rule (request : PublishVolumeRequest) :
    Except Failure (Value × Value) := do
  let volumeId ← requireParameter request.volumeId "volume id"
  let nodeId ← requireParameter request.nodeId "node id"
  match request.capability with
  | some capability => checkCapabilities (some [some capability])
  | none => pure ()
  return (volumeId, nodeId)

/-- The ids of the volume and of the node that a request asks to part. -/
def UnpublishVolumeRequest.rule (request : UnpublishVolumeRequest) :
    Except Failure (Value × Value) := do
  let volumeId ← requireParameter request.volumeId "volume id"
  let nodeId ← requireParameter request.nodeId "node id"
  return (volumeId, nodeId)

/-- Checking capabilities is a rule. -/
theorem isRule_validateCapabilities (capabilities : Option (List (Option Capability))) :
    (validateCapabilities capabilities).IsRule (checkCapabilities capabilities) := by
  have hrule : (validateCapabilities capabilities).IsRule
      (checkCapabilities capabilities >>= pure) :=
    (isRule_debug _).after ((isRule_lift _).bind fun _ => isRule_debug _)
  rwa [bind_pure] at hrule

/-- Validation of a request for a volume is a rule. -/
theorem CreateVolumeRequest.isRule_validate (request : CreateVolumeRequest) :
    request.validate.IsRule request.rule := by
  apply (isRule_debug _).after
  apply (isRule_lift _).bind
  intro name
  apply (isRule_validateCapabilities _).bind
  intro _
  apply (isRule_lift _).bind
  intro size
  apply (isRule_lift _).bind
  intro _
  exact (isRule_debug _).after (isRule_pure _)

/-- Validation of a request to delete is a rule. -/
theorem DeleteVolumeRequest.isRule_validate (request : DeleteVolumeRequest) :
    request.validate.IsRule request.rule := by
  have hrule : request.validate.IsRule (request.rule >>= pure) :=
    (isRule_debug _).after ((isRule_lift _).bind fun _ => (isRule_debug _).after (isRule_pure _))
  rwa [bind_pure] at hrule

/-- Validation of a request to publish is a rule. -/
theorem PublishVolumeRequest.isRule_validate (request : PublishVolumeRequest) :
    request.validate.IsRule request.rule := by
  apply (isRule_debug _).after
  apply (isRule_lift _).bind
  intro volumeId
  apply (isRule_lift _).bind
  intro nodeId
  cases request.capability with
  | none => exact (isRule_debug _).after (isRule_pure _)
  | some capability =>
      exact (isRule_validateCapabilities _).bind fun _ => (isRule_debug _).after (isRule_pure _)

/-- Validation of a request to unpublish is a rule. -/
theorem UnpublishVolumeRequest.isRule_validate (request : UnpublishVolumeRequest) :
    request.validate.IsRule request.rule := by
  apply (isRule_debug _).after
  apply (isRule_lift _).bind
  intro volumeId
  apply (isRule_lift _).bind
  intro nodeId
  exact (isRule_debug _).after (isRule_pure _)

/-! ## The client and its time -/

/-- The client that a setting describes. -/
def Setting.clientRule (setting : Setting) : Except Failure Client := do
  let tokenVariable ← setting.configuration.tokenVariable
  match ← setting.environment.read tokenVariable with
  | none => throw (.missingToken tokenVariable)
  | some token =>
    let apiUrl ← setting.configuration.apiUrl
    Client.ofUrl apiUrl token (← setting.configuration.requestTimeout)

/-- Opening a client is a rule. -/
theorem Setting.isRule_client (setting : Setting) : setting.client.IsRule setting.clientRule := by
  apply (isRule_lift _).bind
  intro tokenVariable
  apply (isRule_lift _).bind
  intro token
  cases token with
  | none => exact isRule_throw _
  | some token =>
      apply (isRule_lift _).bind
      intro apiUrl
      apply (isRule_debug _).after
      apply (isRule_lift _).bind
      intro timeout
      exact isRule_lift _

theorem Environment.read_text (environment : Environment) (name : String) :
    environment.read (.text name) = .ok ((environment.lookup name).filter (· ≠ "")) := rfl

/-- A variable reads as a value where it is set to one that is not empty. -/
theorem Environment.read_eq_some {environment : Environment} {variableName : Value}
    {value : String} :
    environment.read variableName = .ok (some value) ↔
      ∃ name, variableName = .text name ∧ environment.lookup name = some value ∧ value ≠ "" := by
  cases variableName with
  | text name => simp [Environment.read_text, Option.filter_eq_some_iff]
  | _ => simp [Environment.read, Value.requireText]

/-- A variable reads as nothing where it is unset or empty. -/
theorem Environment.read_eq_none {environment : Environment} {variableName : Value} :
    environment.read variableName = .ok none ↔
      ∃ name, variableName = .text name ∧
        ∀ value, environment.lookup name = some value → value = "" := by
  cases variableName with
  | text name => simp [Environment.read_text, Option.filter_eq_none_iff]
  | _ => simp [Environment.read, Value.requireText]

/-- A client has the token that the environment holds, and the address and the time that the
configuration says. -/
theorem Setting.clientRule_eq_ok {setting : Setting} {client : Client} :
    setting.clientRule = .ok client ↔
      ∃ variableName url, setting.configuration.tokenVariable = .ok variableName ∧
        setting.environment.read variableName = .ok (some client.token) ∧
        setting.configuration.apiUrl = .ok (.text url) ∧
        client.apiUrl = Client.trimSlashes url ∧
        setting.configuration.requestTimeout = .ok client.defaultTimeout := by
  unfold clientRule
  constructor
  · intro hclient
    obtain ⟨variableName, hnamed, hopened⟩ := bind_eq_ok.1 hclient
    obtain ⟨found, htoken, hopened⟩ := bind_eq_ok.1 hopened
    cases found with
    | none => cases hopened
    | some token =>
        obtain ⟨apiUrl, hurl, hopened⟩ := bind_eq_ok.1 hopened
        obtain ⟨timeout, htimeout, hopened⟩ := bind_eq_ok.1 hopened
        cases apiUrl with
        | text url =>
            cases hopened
            exact ⟨variableName, url, hnamed, htoken, hurl, rfl, htimeout⟩
        | _ => cases hopened
  · rintro ⟨variableName, url, hnamed, htoken, hurl, haddress, htimeout⟩
    rw [hnamed, ok_bind, htoken, ok_bind]
    dsimp only
    rw [hurl, ok_bind, htimeout, ok_bind, Client.ofUrl, ← haddress]

/-- A client waits for as long as the configuration says. -/
theorem Setting.requestTimeout_of_clientRule {setting : Setting} {client : Client}
    (hclient : setting.clientRule = .ok client) :
    setting.configuration.requestTimeout = .ok client.defaultTimeout := by
  obtain ⟨_, _, -, -, -, -, htimeout⟩ := clientRule_eq_ok.1 hclient
  exact htimeout

/-- The time that a client has for a request of a call, by what is left of the caller's. -/
def Client.timeFor (client : Client) (call : String) (left : Value) : Except Failure Value := do
  let timeout ← requestTimeout left client.defaultTimeout
  if ← Value.compare .atMost timeout (.int 0) then throw (.deadlineExceeded (.text call))
  return timeout

/-- The time for a request is one question. -/
theorem Setting.asks_timeLeft {setting : Setting} {client : Client}
    (hclient : setting.clientRule = .ok client) (call : String) :
    (setting.timeLeft call).Asks .clock (client.timeFor call) := by
  have hfallback : (liftM setting.configuration.requestTimeout : Action Value).IsRule
      (.ok client.defaultTimeout) := by
    rw [← Setting.requestTimeout_of_clientRule hclient]
    exact isRule_lift _
  apply hfallback.asks
  apply asks_askClock.followed
  intro left
  apply (isRule_lift _).bind
  intro timeout
  apply (isRule_lift _).bind
  intro expired
  cases expired with
  | true => exact (isRule_throw _).bind fun _ => isRule_pure _
  | false => exact isRule_pure _

/-! ## Operations of the provider -/

/-- What a reply to an operation says. -/
def Client.valueOf (client : Client) (operation : Operation) (reply : Reply) :
    Except Failure Value :=
  reply.value operation.method (client.apiUrl ++ operation.path)

/-- The page that a reply to a listing shows. -/
def Client.pageOf (client : Client) (reply : Reply) : Except Failure Page := do
  Page.ofValue (← reply.value .get (client.apiUrl ++ Operation.volumesPath))

/-- The volume that a reply to a creation shows. -/
def Client.createdBy (client : Client) (reply : Reply) : Except Failure Volume := do
  Volume.ofCreation (← reply.value .post (client.apiUrl ++ Operation.volumesPath))

/-- An operation is one question. -/
theorem Client.asks_perform (client : Client) (operation : Operation) (timeout : Value) :
    (client.perform operation timeout).Asks (.exchange (client.request operation timeout))
      (client.valueOf operation) :=
  (isRule_debug _).asks ((asks_exchange _).followed fun _ => isRule_lift _)

/-- What is read from the answer to an operation is part of the question. -/
theorem Client.asks_perform_bind {α : Type} (client : Client) (operation : Operation)
    (timeout : Value) (read : Value → Except Failure α) :
    (client.perform operation timeout >>= fun value => liftM (read value) : Action α).Asks
      (.exchange (client.request operation timeout))
      fun reply => client.valueOf operation reply >>= read :=
  (client.asks_perform operation timeout).followed fun _ => isRule_lift _

/-- Listing is one question, and the page is the one that the reply shows. -/
theorem Client.asks_listVolumes (client : Client) (region name page perPage timeout : Value) :
    (client.listVolumes region name page perPage timeout).Asks
      (.exchange (client.request (.list region name page perPage) timeout)) client.pageOf :=
  client.asks_perform_bind (.list region name page perPage) timeout Page.ofValue

/-- Creation is one question, and the volume is the one that the reply shows. -/
theorem Client.asks_createVolume (client : Client)
    (region name description gigabytes timeout : Value) :
    (client.createVolume region name description gigabytes timeout).Asks
      (.exchange (client.request (.create region name description gigabytes) timeout))
      client.createdBy :=
  client.asks_perform_bind (.create region name description gigabytes) timeout Volume.ofCreation

/-- The caller is asked once whether it still waits, and the answer decides. -/
theorem meets_ensureActive_bind {β : Type} {call : String} {next : Unit → Action β}
    {session : Session} {admits : List Event → Except Failure β → Prop}
    (hgone : admits [.activity false] (.error (.cancelled (.text call))))
    (hnext : ∀ middle, session.Leads [.activity true] middle →
      (next ()).Meets middle fun back result => admits (.activity true :: back) result) :
    (ensureActive call >>= next).Meets session admits := by
  have hasks : (ensureActive call).Asks .activity fun waits =>
      if waits then .ok () else .error (.cancelled (.text call)) := by
    apply asks_askActivity.followed
    intro waits
    cases waits with
    | false => exact isRule_throw _
    | true => exact isRule_pure _
  apply hasks.bind
  · intro waits failure hfailed
    cases waits with
    | false =>
        cases hfailed
        exact hgone
    | true => cases hfailed
  · intro waits a middle hwaits hleads
    cases waits with
    | false => cases hwaits
    | true => exact hnext middle hleads

end VolumePlugin
