/-
# Calls that take the same steps

Two actions take the same steps when they ask the same questions, write the same entries to the log
and go on alike with what they hear; their requests may differ in how they prove that they may be
made. None of the entries is that of a failure. This is a relation on actions and not on what they
do, so that it is shown once, along the definition of each call, and what follows from it about
sessions is shown by induction on the steps.

A call takes the same steps in any two environments in which the same variables are set: the access
token goes into its requests, and nothing else is looked up there.
-/
import VolumePlugin.Call.Perform

namespace VolumePlugin

open VolumePlugin.Action

/-- A request with nothing to prove that it may be made. -/
def Request.redacted (request : Request) : Request :=
  { request with authorization := "" }

namespace Action

/-! ## Sessions that actions leave -/

section Left

variable {α β : Type} (holds : Session → Prop) {session : Session}

/-- What holds of the session that an action leaves, and is kept by the one that follows it, holds
behind both. -/
theorem holds_bind {action : Action α} {next : α → Action β}
    (haction : holds (action.runIn session).2)
    (hnext : ∀ a left, holds left → holds ((next a).runIn left).2) :
    holds ((action >>= next).runIn session).2 := by
  rw [runIn_bind]
  rcases hrun : action.runIn session with ⟨result, left⟩
  rw [hrun] at haction
  cases result with
  | ok a => exact hnext a left haction
  | error failure => exact haction

/-- And likewise where it is kept by what meets the failure of the action. -/
theorem holds_tryCatch {action : Action α} {rescue : Failure → Action α}
    (haction : holds (action.runIn session).2)
    (hrescue : ∀ failure left, holds left → holds ((rescue failure).runIn left).2) :
    holds ((tryCatch action rescue).runIn session).2 := by
  rw [runIn_tryCatch]
  rcases hrun : action.runIn session with ⟨result, left⟩
  rw [hrun] at haction
  cases result with
  | ok a => exact haction
  | error failure => exact hrescue failure left haction

end Left

/-! ## The relation -/

/-- Two actions that take the same steps. -/
inductive InStep : {α : Type} → Action α → Action α → Prop
  | rule {α : Type} (result : Except Failure α) : InStep (liftM result) (liftM result)
  | note {level : Level} (hlevel : level ≠ .error) (message : String) :
      InStep (Action.note level message) (Action.note level message)
  | exchange {request other : Request} (hsame : other.redacted = request.redacted) :
      InStep (Action.exchange request) (Action.exchange other)
  | askActivity : InStep Action.askActivity Action.askActivity
  | askClock : InStep Action.askClock Action.askClock
  | repliesLeft : InStep Action.repliesLeft Action.repliesLeft
  | bind {α β : Type} {action other : Action α} {next otherNext : α → Action β}
      (haction : InStep action other) (hnext : ∀ a, InStep (next a) (otherNext a)) :
      InStep (action >>= next) (other >>= otherNext)
  | tryCatch {α : Type} {action other : Action α} {rescue otherRescue : Failure → Action α}
      (haction : InStep action other)
      (hrescue : ∀ failure, InStep (rescue failure) (otherRescue failure)) :
      InStep (tryCatch action rescue) (tryCatch other otherRescue)

namespace InStep

variable {α : Type}

theorem pure (a : α) : InStep (Pure.pure a : Action α) (Pure.pure a) :=
  .rule (.ok a)

theorem throw (failure : Failure) :
    InStep (MonadExcept.throw failure : Action α) (MonadExcept.throw failure) :=
  .rule (.error failure)

theorem debug (message : String) : InStep (Action.debug message) (Action.debug message) :=
  .note (by decide) message

theorem info (message : String) : InStep (Action.info message) (Action.info message) :=
  .note (by decide) message

/-- What takes the same steps for every item of a list takes the same steps for the list. -/
theorem forM {action : α → Action PUnit} (hsteps : ∀ item, (action item).InStep (action item))
    (items : List α) : (items.forM action).InStep (items.forM action) := by
  induction items with
  | nil => exact .pure _
  | cons item rest ih => exact (hsteps item).bind fun _ => ih

/-- What holds between two sessions where no entry or one is logged under the name of the same
thread, and is passed on from one session to the next, holds between those before and behind an
action. -/
theorem relates (relation : Session → Session → Prop)
    (hquiet : ∀ before after, after.thread = before.thread → after.log = before.log →
      relation before after)
    (hnote : ∀ session level message, level ≠ Level.error →
      relation session (session.note level message))
    (htrans : ∀ first second third, relation first second → relation second third →
      relation first third)
    {action other : Action α} (hsteps : action.InStep other) (session : Session) :
    relation session (action.runIn session).2 := by
  induction hsteps generalizing session with
  | rule result => exact hquiet _ _ rfl rfl
  | @note level hlevel message => exact hnote session level message hlevel
  | exchange | askActivity | askClock | repliesLeft => exact hquiet _ _ rfl rfl
  | bind _ _ ihaction ihnext =>
      exact holds_bind (relation session) (ihaction session) fun a left hfront =>
        htrans _ _ _ hfront (ihnext a left)
  | tryCatch _ _ ihaction ihrescue =>
      exact holds_tryCatch (relation session) (ihaction session) fun failure left hfront =>
        htrans _ _ _ hfront (ihrescue failure left)

end InStep

end Action

/-! ## Validation -/

theorem inStep_validateCapabilities (capabilities : Option (List (Option Capability))) :
    (validateCapabilities capabilities).InStep (validateCapabilities capabilities) :=
  (InStep.debug _).bind fun _ => (InStep.rule _).bind fun _ => .debug _

theorem CreateVolumeRequest.inStep_validate (request : CreateVolumeRequest) :
    request.validate.InStep request.validate := by
  apply (InStep.debug _).bind
  intro _
  apply (InStep.rule _).bind
  intro name
  apply (inStep_validateCapabilities _).bind
  intro _
  apply (InStep.rule _).bind
  intro size
  apply (InStep.rule _).bind
  intro _
  exact (InStep.debug _).bind fun _ => .pure _

theorem DeleteVolumeRequest.inStep_validate (request : DeleteVolumeRequest) :
    request.validate.InStep request.validate := by
  apply (InStep.debug _).bind
  intro _
  apply (InStep.rule _).bind
  intro volumeId
  exact (InStep.debug _).bind fun _ => .pure _

theorem PublishVolumeRequest.inStep_validate (request : PublishVolumeRequest) :
    request.validate.InStep request.validate := by
  apply (InStep.debug _).bind
  intro _
  apply (InStep.rule _).bind
  intro volumeId
  apply (InStep.rule _).bind
  intro nodeId
  cases request.capability with
  | none => exact (InStep.debug _).bind fun _ => .pure _
  | some capability =>
      exact (inStep_validateCapabilities _).bind fun _ => (InStep.debug _).bind fun _ => .pure _

theorem UnpublishVolumeRequest.inStep_validate (request : UnpublishVolumeRequest) :
    request.validate.InStep request.validate := by
  apply (InStep.debug _).bind
  intro _
  apply (InStep.rule _).bind
  intro volumeId
  apply (InStep.rule _).bind
  intro nodeId
  exact (InStep.debug _).bind fun _ => .pure _

theorem ValidateCapabilitiesRequest.inStep_validate (request : ValidateCapabilitiesRequest) :
    request.validate.InStep request.validate := by
  apply (InStep.debug _).bind
  intro _
  apply (InStep.rule _).bind
  intro volumeId
  exact (InStep.debug _).bind fun _ => .pure _

/-! ## Time, classes and responses -/

theorem inStep_timeLeft (configuration : Configuration) (call : String) :
    (timeLeft configuration call).InStep (timeLeft configuration call) := by
  apply (InStep.rule _).bind
  intro fallback
  apply InStep.askClock.bind
  intro left
  apply (InStep.rule _).bind
  intro timeout
  apply (InStep.rule _).bind
  intro expired
  cases expired with
  | true => exact (InStep.throw _).bind fun _ => .pure _
  | false => exact .pure _

theorem inStep_ensureActive (call : String) : (ensureActive call).InStep (ensureActive call) := by
  apply InStep.askActivity.bind
  intro waits
  cases waits with
  | true => exact .pure _
  | false => exact .throw _

theorem ProviderError.inStep_classified (error : ProviderError) (fragments : List String) :
    (error.classified fragments).InStep (error.classified fragments) := by
  apply (InStep.rule _).bind
  intro found
  exact (InStep.debug _).bind fun _ => .pure _

theorem Failure.inStep_status (failure : Failure) : failure.status.InStep failure.status := by
  cases failure with
  | provider error => exact (error.inStep_classified []).bind fun _ => .pure _
  | _ => exact .pure _

theorem inStep_respondVolume (volumeId gigabytes : Value) :
    (respondVolume volumeId gigabytes).InStep (respondVolume volumeId gigabytes) := by
  apply (InStep.debug _).bind
  intro _
  apply (InStep.rule _).bind
  intro bytes
  dsimp only
  split
  · exact (InStep.throw _).bind fun _ => (InStep.debug _).bind fun _ => .pure _
  · exact (InStep.debug _).bind fun _ => .pure _

theorem inStep_noteUnsupported (mode : AccessMode) :
    (noteUnsupported mode).InStep (noteUnsupported mode) := by
  unfold noteUnsupported
  split
  · exact .debug _
  · exact .throw _

theorem inStep_respondCapabilities (capabilities : Option (List (Option Capability))) :
    (respondCapabilities capabilities).InStep (respondCapabilities capabilities) := by
  cases capabilities with
  | none => exact .throw _
  | some capabilities =>
      have hsupported : (areCapabilitiesSupported capabilities).InStep
          (areCapabilitiesSupported capabilities) := by
        apply (InStep.rule _).bind
        intro modes
        exact (InStep.forM inStep_noteUnsupported _).bind fun _ => .pure _
      exact hsupported.bind fun supported => (InStep.rule _).bind fun _ => .pure _

/-! ## Clients -/

/-- A client with another access token. -/
def Client.withToken (client : Client) (token : String) : Client :=
  { client with token := token }

namespace Client

variable (client : Client) (token : String)

theorem inStep_perform (operation : Operation) (timeout : Value) :
    (client.perform operation timeout).InStep
      ((client.withToken token).perform operation timeout) := by
  have hsame : ((client.withToken token).request operation timeout).redacted =
      (client.request operation timeout).redacted := rfl
  apply (InStep.debug _).bind
  intro _
  apply (InStep.exchange hsame).bind
  intro reply
  exact .rule _

theorem inStep_listVolumes (region name page perPage timeout : Value) :
    (client.listVolumes region name page perPage timeout).InStep
      ((client.withToken token).listVolumes region name page perPage timeout) :=
  (client.inStep_perform token _ timeout).bind fun _ => .rule _

theorem inStep_createVolume (region name description gigabytes timeout : Value) :
    (client.createVolume region name description gigabytes timeout).InStep
      ((client.withToken token).createVolume region name description gigabytes timeout) :=
  (client.inStep_perform token _ timeout).bind fun _ => .rule _

theorem inStep_carryOut (operation : Operation) (timeout : Value) :
    (client.carryOut operation timeout).InStep
      ((client.withToken token).carryOut operation timeout) :=
  (client.inStep_perform token operation timeout).bind fun _ => .pure _

end Client

/-! ## Settings in which the same variables are set -/

/-- Two environments in which every variable reads the same, or as some value in each. -/
def Environment.SetAlike (environment other : Environment) : Prop :=
  ∀ name, other.read name = environment.read name ∨
    ∃ value otherValue, environment.read name = .ok (some value) ∧
      other.read name = .ok (some otherValue)

/-- A setting in another environment. -/
def Setting.within (setting : Setting) (environment : Environment) : Setting :=
  { setting with environment := environment }

/-- A rule that succeeds is left out. -/
theorem Action.lift_ok_bind {α β : Type} (a : α) (next : α → Action β) :
    (liftM (.ok a : Except Failure α) : Action α) >>= next = next a := rfl

/-- A rule that fails ends an action. -/
theorem Action.lift_error_bind {α β : Type} (failure : Failure) (next : α → Action β) :
    (liftM (.error failure : Except Failure α) : Action α) >>= next = throw failure := rfl

/-- A failure is not changed. -/
theorem Action.map_throw {α β : Type} (f : α → β) (failure : Failure) :
    f <$> (throw failure : Action α) = throw failure := rfl

/-- The token is no part of what makes an address good for a client. -/
theorem Client.ofUrl_token (apiUrl defaultTimeout : Value) (token other : String) :
    (liftM (ofUrl apiUrl other defaultTimeout) : Action Client) =
      (·.withToken other) <$> (liftM (ofUrl apiUrl token defaultTimeout) : Action Client) := by
  cases apiUrl <;> rfl

/-- Where the same variables are set a client differs in its token at most. -/
theorem Setting.client_within {setting : Setting} {environment : Environment}
    (hset : setting.environment.SetAlike environment) :
    ∃ token, (setting.within environment).client = (·.withToken token) <$> setting.client := by
  unfold client Client.ofSettings within
  cases hname : setting.configuration.tokenVariable with
  | error failure => exact ⟨"", rfl⟩
  | ok name =>
      -- Where a token is read, another one may be read in the other environment; where none is,
      -- both fail alike.
      by_cases hsome : ∃ value otherValue, setting.environment.read name = .ok (some value) ∧
          environment.read name = .ok (some otherValue)
      · obtain ⟨value, otherValue, hvalue, hother⟩ := hsome
        refine ⟨otherValue, ?_⟩
        simp only [lift_ok_bind, hvalue, hother, map_bind,
          Client.ofUrl_token _ _ value otherValue]
      · have hsame := (hset name).resolve_right hsome
        cases hread : setting.environment.read name with
        | error failure =>
            refine ⟨"", ?_⟩
            simp only [lift_ok_bind, lift_error_bind, hsame, hread, map_throw]
        | ok found =>
            cases found with
            | none =>
                refine ⟨"", ?_⟩
                simp only [lift_ok_bind, hsame, hread, map_throw]
            | some value => exact (hsome ⟨value, value, hread, hsame.trans hread⟩).elim

/-! ## Calls -/

section Calls

variable {setting : Setting} {environment : Environment}

theorem inStep_createNew (client : Client) (token : String) (name gigabytes : Value) :
    (createNew setting client name gigabytes).InStep
      (createNew (setting.within environment) (client.withToken token) name gigabytes) := by
  apply (inStep_ensureActive _).bind
  intro _
  apply (InStep.debug _).bind
  intro _
  apply (inStep_timeLeft _ _).bind
  intro timeout
  apply (client.inStep_createVolume token _ _ _ _ timeout).bind
  intro volume
  apply (InStep.info _).bind
  intro _
  exact inStep_respondVolume _ _

theorem inStep_fetchPages (client : Client) (token : String) (perPage : Value) (fuel : Nat)
    (page : Int) :
    (fetchPages setting client perPage fuel page).InStep
      (fetchPages (setting.within environment) (client.withToken token) perPage fuel page) := by
  -- The next page depends on what was heard, so the rest is compared for every page.
  induction fuel generalizing page with
  | zero => exact .pure _
  | succ fuel ih =>
      apply (inStep_ensureActive _).bind
      intro _
      apply (inStep_timeLeft _ _).bind
      intro timeout
      apply (client.inStep_listVolumes token _ _ _ _ timeout).bind
      intro fetched
      apply (InStep.rule _).bind
      intro number
      apply (InStep.debug _).bind
      intro _
      apply (InStep.rule _).bind
      intro position
      cases position with
      | finished lastPage => exact .pure _
      | goOn nextPage => exact (ih nextPage).bind fun _ => .pure _

theorem inStep_change (call : String) (client : Client) (token : String) (operation : Operation)
    (fragments : List String) (wanted : ErrorClass) (heading : String) :
    (change setting call client operation fragments wanted heading).InStep
      (change (setting.within environment) call (client.withToken token) operation fragments wanted
        heading) := by
  apply InStep.tryCatch
  · exact (inStep_timeLeft _ _).bind fun timeout => client.inStep_carryOut token operation timeout
  · intro failure
    cases failure with
    | provider error =>
        apply (error.inStep_classified fragments).bind
        intro found
        dsimp only
        split
        · exact (InStep.throw _).bind fun _ => .debug _
        · exact .debug _
    | _ => exact .throw _

theorem Setting.inStep_client (setting : Setting) : setting.client.InStep setting.client := by
  apply (InStep.rule _).bind
  intro name
  apply (InStep.rule _).bind
  intro token
  cases token with
  | none => exact .throw _
  | some token =>
      apply (InStep.rule _).bind
      intro apiUrl
      apply (InStep.debug _).bind
      intro _
      exact (InStep.rule _).bind fun _ => .rule _

/-- Where the same variables are set, what is done with a client takes the same steps if it does so
whatever the token. -/
theorem Setting.inStep_client_bind {α : Type} {next otherNext : Client → Action α}
    (hset : setting.environment.SetAlike environment)
    (hnext : ∀ client token, (next client).InStep (otherNext (client.withToken token))) :
    (setting.client >>= next).InStep ((setting.within environment).client >>= otherNext) := by
  obtain ⟨token, hclient⟩ := client_within hset
  rw [hclient, bind_map_left]
  exact setting.inStep_client.bind fun client => hnext client token

variable (hset : setting.environment.SetAlike environment)

include hset

theorem CreateVolumeRequest.inStep_perform (request : CreateVolumeRequest) :
    (request.perform setting).InStep (request.perform (setting.within environment)) := by
  apply request.inStep_validate.bind
  rintro ⟨name, gigabytes⟩
  apply (InStep.debug _).bind
  intro _
  apply Setting.inStep_client_bind hset
  intro client token
  apply (inStep_timeLeft _ _).bind
  intro timeout
  apply (client.inStep_listVolumes token _ _ _ _ timeout).bind
  intro page
  apply (InStep.rule _).bind
  intro found
  cases found with
  | some volume => exact (InStep.debug _).bind fun _ => inStep_respondVolume _ _
  | none => exact inStep_createNew client token name gigabytes

theorem DeleteVolumeRequest.inStep_perform (request : DeleteVolumeRequest) :
    (request.perform setting).InStep (request.perform (setting.within environment)) := by
  apply request.inStep_validate.bind
  intro volumeId
  apply Setting.inStep_client_bind hset
  intro client token
  apply (InStep.debug _).bind
  intro _
  exact (inStep_change _ client token _ _ _ _).bind fun _ => .pure _

theorem PublishVolumeRequest.inStep_perform (request : PublishVolumeRequest) :
    (request.perform setting).InStep (request.perform (setting.within environment)) := by
  apply request.inStep_validate.bind
  rintro ⟨volumeId, nodeId⟩
  apply (InStep.rule _).bind
  intro dropletId
  apply (InStep.debug _).bind
  intro _
  apply Setting.inStep_client_bind hset
  intro client token
  exact (inStep_change _ client token _ _ _ _).bind fun _ => .pure _

theorem UnpublishVolumeRequest.inStep_perform (request : UnpublishVolumeRequest) :
    (request.perform setting).InStep (request.perform (setting.within environment)) := by
  apply request.inStep_validate.bind
  rintro ⟨volumeId, nodeId⟩
  apply (InStep.rule _).bind
  intro dropletId
  apply (InStep.debug _).bind
  intro _
  apply Setting.inStep_client_bind hset
  intro client token
  exact (inStep_change _ client token _ _ _ _).bind fun _ => .pure _

theorem ListVolumesRequest.inStep_perform (request : ListVolumesRequest) :
    (request.perform setting).InStep (request.perform (setting.within environment)) := by
  apply (InStep.rule _).bind
  intro perPage
  apply (InStep.rule _).bind
  intro page
  apply Setting.inStep_client_bind hset
  intro client token
  apply InStep.repliesLeft.bind
  intro count
  apply (inStep_fetchPages client token perPage (count + 1) page).bind
  rintro ⟨volumes, lastPage⟩
  exact .rule _

omit hset in
theorem ValidateCapabilitiesRequest.inStep_perform (request : ValidateCapabilitiesRequest) :
    request.perform.InStep request.perform :=
  request.inStep_validate.bind fun _ => inStep_respondCapabilities _

/-- A call takes the same steps where the same variables are set, apart from the one that may log
an error of its own. -/
theorem Call.inStep_answer {call : Call} (hcall : call ≠ .getPluginInfo) :
    (call.answer setting).InStep (call.answer (setting.within environment)) := by
  cases call with
  | createVolume request => exact (request.inStep_perform hset).bind fun _ => .pure _
  | deleteVolume request => exact (request.inStep_perform hset).bind fun _ => .pure _
  | publishVolume request => exact (request.inStep_perform hset).bind fun _ => .pure _
  | unpublishVolume request => exact (request.inStep_perform hset).bind fun _ => .pure _
  | validateCapabilities request => exact request.inStep_perform.bind fun _ => .pure _
  | listVolumes request => exact (request.inStep_perform hset).bind fun _ => .pure _
  | getCapacity => exact .throw _
  | getControllerCapabilities | probe => exact .pure _
  | getPluginCapabilities => exact (InStep.rule _).bind fun _ => .pure _
  | getPluginInfo => exact (hcall rfl).elim

end Calls

end VolumePlugin
