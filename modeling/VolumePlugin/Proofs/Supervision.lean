/-
# Supervised calls

A supervised call runs a handler and answers in its place where the handler fails: with the empty
response of the call, a status and the wording of the failure. This is a rule on the result of
the handler, and the handler of each call has the runs that were described for it.

The status of a failed request is found from what the provider said about it, and this may be
something that is no text. A call whose handler passes such a failure on has no answer, and these
are the only calls without one.
-/
import VolumePlugin.Service
import VolumePlugin.Proofs.ChangeRun
import VolumePlugin.Proofs.CreationRun
import VolumePlugin.Proofs.ListingRun

namespace VolumePlugin

open VolumePlugin.Action

/-! ## The answer to a failure -/

/-- The status of a failure, as a rule. -/
def Failure.statusRule : Failure → Except Failure Status
  | .provider error => do return (← error.classify []).status
  | other => .ok other.ownStatus

/-- What a supervised call answers by the result of its handler. -/
def settled (empty : Response) : Except Failure Answer → Except Failure Answer
  | .ok answer => .ok answer
  | .error failure => do
    let status ← failure.statusRule
    return { response := empty, status := some status, details := some failure.message }

/-- Finding the status of a failure is a rule. -/
theorem Failure.isRule_status (failure : Failure) : failure.status.IsRule failure.statusRule := by
  cases failure with
  | provider error =>
      exact (error.isRule_classified []).bind fun found => isRule_pure found.status
  | _ => exact isRule_pure _

/-- Reporting a failure is a rule. -/
theorem Failure.isRule_report (failure : Failure) (empty : Response) :
    (failure.report empty).IsRule (settled empty (.error failure)) := by
  apply failure.isRule_status.bind
  intro status
  exact (isRule_error _).after (isRule_pure _)

theorem ErrorClass.status_ne_ok (found : ErrorClass) : found.status ≠ .ok := by
  cases found <;> decide

theorem Failure.ownStatus_ne_ok (failure : Failure) : failure.ownStatus ≠ .ok := by
  unfold Failure.ownStatus
  split <;> decide

/-- No failure has the status of success. -/
theorem Failure.statusRule_ne_ok {failure : Failure} {status : Status}
    (hstatus : failure.statusRule = .ok status) : status ≠ .ok := by
  cases failure with
  | provider error =>
      obtain ⟨found, -, hfound⟩ := bind_eq_ok.1 hstatus
      cases hfound
      exact found.status_ne_ok
  | _ =>
      cases hstatus
      exact Failure.ownStatus_ne_ok _

/-- A call that answers without a status has a handler that answered. -/
theorem handled_of_settled {empty : Response} {handled : Except Failure Answer} {answer : Answer}
    (hanswer : settled empty handled = .ok answer) (hplain : answer.status = none) :
    handled = .ok answer := by
  cases handled with
  | ok answered => exact hanswer
  | error failure =>
      obtain ⟨status, -, hfailed⟩ := bind_eq_ok.1 hanswer
      cases hfailed
      cases hplain

/-- A call that answers without a status has a handler that responded. -/
theorem response_of_settled {empty : Response} {outcome : Except Failure Response}
    {answer : Answer} (hanswer : settled empty (outcome.map ({ response := · })) = .ok answer)
    (hplain : answer.status = none) :
    ∃ response, outcome = .ok response ∧ answer = { response := response } := by
  have hhandled := handled_of_settled hanswer hplain
  cases outcome with
  | error failure => cases hhandled
  | ok response =>
      cases hhandled
      exact ⟨response, rfl, rfl⟩

/-! ## Handlers -/

namespace Call

/-- What a call does before its failures are looked at. -/
def handle (call : Call) (setting : Setting) : Action Answer := do
  Action.renameThread call.subject
  Action.info call.name
  call.answer setting

/-- The runs of a handler. The calls about the plugin send nothing and fail on their own. -/
def Run (call : Call) (setting : Setting) (transcript : List Event)
    (result : Except Failure Answer) : Prop :=
  match call with
  | .createVolume request =>
    ∃ outcome, CreationRun request setting transcript outcome ∧
      result = outcome.map ({ response := · })
  | .deleteVolume request =>
    ∃ outcome, ChangeCallRun setting "DeleteVolume" [] .notFound request.operation .deletion
        transcript outcome ∧
      result = outcome.map ({ response := · })
  | .publishVolume request =>
    ∃ outcome, ChangeCallRun setting "ControllerPublishVolume" [alreadyAttachedFragment]
        .alreadyInDesiredState (request.operation setting.region) .publication transcript outcome ∧
      result = outcome.map ({ response := · })
  | .unpublishVolume request =>
    ∃ outcome, ChangeCallRun setting "ControllerUnpublishVolume" [attachmentNotFoundFragment]
        .alreadyInDesiredState (request.operation setting.region) .unpublication transcript
        outcome ∧
      result = outcome.map ({ response := · })
  | .listVolumes request =>
    ∃ outcome, ListingRun request setting transcript outcome ∧
      result = outcome.map ({ response := · })
  | _ => transcript = [] ∧ IsLocal result

end Call

/-- A handler that responds has the runs of the response. -/
theorem meets_respond {perform : Action Response} {session : Session}
    {runs : List Event → Except Failure Response → Prop} (hperform : perform.Meets session runs) :
    (do return { response := ← perform } : Action Answer).Meets session fun transcript result =>
      ∃ outcome, runs transcript outcome ∧ result = outcome.map ({ response := · }) := by
  apply hperform.bind
  · intro transcript failure hrun
    exact ⟨.error failure, hrun, rfl⟩
  · intro front response middle _ hrun
    apply meets_pure
    rw [List.append_nil]
    exact ⟨.ok response, hrun, rfl⟩

/-- Doing what is a rule for every item of a list is a rule. -/
theorem isRule_forM {α : Type} {action : α → Action PUnit} {rule : α → Except Failure PUnit}
    (hrule : ∀ item, (action item).IsRule (rule item)) (items : List α) :
    (items.forM action).IsRule (items.forM rule) := by
  induction items with
  | nil => exact isRule_pure _
  | cons item rest ih => exact (hrule item).bind fun _ => ih

/-- Refuse a mode that is too long to be written, as a rule. -/
def checkWritable (mode : AccessMode) : Except Failure Unit :=
  if mode.value.isWritable then .ok () else .error (.longNumeral .written)

/-- Whether volumes can have capabilities, as a rule. -/
def capabilitiesRule (capabilities : List (Option Capability)) : Except Failure Bool := do
  let modes ← accessModes capabilities
  (unsupportedModes modes).forM checkWritable
  return areModesSupported modes

/-- The verdict on the capabilities of a request, as a rule. -/
def capabilitiesVerdict (capabilities : Option (List (Option Capability))) :
    Except Failure Response := do
  match capabilities with
  | none => throw (.mismatch (.notIterable .null))
  | some capabilities =>
    let supported ← capabilitiesRule capabilities
    return .validation supported (verdictText supported (← accessModes capabilities))

theorem isRule_noteUnsupported (mode : AccessMode) :
    (noteUnsupported mode).IsRule (checkWritable mode) := by
  unfold noteUnsupported checkWritable
  split
  · exact isRule_debug _
  · exact isRule_throw _

/-- Collecting the modes that are not supported is a rule. -/
theorem isRule_areCapabilitiesSupported (capabilities : List (Option Capability)) :
    (areCapabilitiesSupported capabilities).IsRule (capabilitiesRule capabilities) := by
  apply (isRule_lift _).bind
  intro modes
  exact (isRule_forM isRule_noteUnsupported _).bind fun _ => isRule_pure _

/-- The verdict on capabilities is a rule. -/
theorem isRule_respondCapabilities (capabilities : Option (List (Option Capability))) :
    (respondCapabilities capabilities).IsRule (capabilitiesVerdict capabilities) := by
  cases capabilities with
  | none => exact isRule_throw _
  | some capabilities =>
      apply (isRule_areCapabilitiesSupported _).bind
      intro supported
      exact (isRule_lift _).bind fun _ => isRule_pure _

/-- Telling whether a volume has capabilities is a rule. -/
theorem ValidateCapabilitiesRequest.isRule_perform (request : ValidateCapabilitiesRequest) :
    request.perform.IsRule
      ((requireParameter request.volumeId "volume id" >>= pure) >>= fun _ =>
        capabilitiesVerdict request.capabilities) := by
  have hvalidate : request.validate.IsRule
      (requireParameter request.volumeId "volume id" >>= pure) :=
    (isRule_debug _).after ((isRule_lift _).bind fun _ => (isRule_debug _).after (isRule_pure _))
  exact hvalidate.bind fun _ => isRule_respondCapabilities _

/-- The verdict fails on its own. -/
theorem isLocal_capabilitiesVerdict (capabilities : Option (List (Option Capability))) :
    IsLocal (capabilitiesVerdict capabilities) := by
  cases capabilities with
  | none => simp [capabilitiesVerdict]
  | some capabilities =>
      have hmodes : IsLocal (accessModes capabilities) := IsLocal.mapM isLocal_accessModeOf _
      have hwritable (mode : AccessMode) : IsLocal (checkWritable mode) := by
        unfold checkWritable
        split <;> simp
      have hsupported : IsLocal (capabilitiesRule capabilities) :=
        hmodes.bind fun modes _ => (IsLocal.forM hwritable _).bind fun _ _ => isLocal_pure _
      exact hsupported.bind fun supported _ => hmodes.bind fun _ _ => isLocal_pure _

/-- Telling whether a volume has capabilities sends nothing and fails on its own. -/
theorem ValidateCapabilitiesRequest.meets_perform (request : ValidateCapabilitiesRequest)
    (session : Session) :
    request.perform.Meets session fun transcript result => transcript = [] ∧ IsLocal result := by
  refine request.isRule_perform.meets ⟨rfl, ?_⟩
  apply ((isLocal_requireParameter _ _).bind fun _ _ => isLocal_pure _).bind
  intro _ _
  exact isLocal_capabilitiesVerdict _

/-- Telling what the plugin is sends nothing and fails on its own. -/
theorem meets_describePlugin (configuration : Configuration) (session : Session) :
    (describePlugin configuration).Meets session
      fun transcript result => transcript = [] ∧ IsLocal result := by
  apply (isRule_lift _).meets_bind
  · intro failure hname
    exact ⟨rfl, (isLocal_read _ _).of_error hname⟩
  · intro name middle _ _
    apply (isRule_lift _).meets_bind
    · intro failure hversion
      exact ⟨rfl, (isLocal_read _ _).of_error hversion⟩
    · intro version middle _ _
      split
      · exact meets_pure ⟨rfl, isLocal_ok _⟩
      · apply (isRule_error _).meets_after
        intro middle _
        exact meets_pure ⟨rfl, isLocal_ok _⟩

/-- The handler of a supervised call has the runs of the call. -/
theorem Call.meets_handle {call : Call} (hsupervised : call.isSupervised = true)
    (setting : Setting) (session : Session) :
    (call.handle setting).Meets session (call.Run setting) := by
  apply (isRule_renameThread _).meets_after
  intro middle _
  apply (isRule_info _).meets_after
  intro middle _
  cases call with
  | createVolume request => exact meets_respond (request.meets_perform setting middle)
  | deleteVolume request => exact meets_respond (request.meets_perform setting middle)
  | publishVolume request => exact meets_respond (request.meets_perform setting middle)
  | unpublishVolume request => exact meets_respond (request.meets_perform setting middle)
  | listVolumes request => exact meets_respond (request.meets_perform setting middle)
  | validateCapabilities request =>
      apply (request.meets_perform middle).bind
      · intro transcript failure hquiet
        exact ⟨hquiet.1, by simpa using hquiet.2⟩
      · intro front response behind _ hquiet
        exact meets_pure ⟨by rw [hquiet.1, List.append_nil], isLocal_ok _⟩
  | getCapacity => exact meets_throw ⟨rfl, by simp⟩
  | getPluginInfo => exact meets_describePlugin _ middle
  | getControllerCapabilities | getPluginCapabilities | probe => cases hsupervised

/-! ## What a service answers -/

/-- A call that creates a volume of a name, to be written by a single node. -/
def Call.creationOf (name : String) : Call :=
  .createVolume { name := .text name, capabilities := some [some ⟨.number 1⟩] }

namespace Service

/-- A service with the standard configuration and an access token. -/
def withToken (token : String) : Service where
  environment := [("DIGITALOCEAN_ACCESS_TOKEN", token)]
  configuration := .standard
  region := .text "nyc3"

/-- The session of a call. -/
def sessionFor (service : Service) (context : CallContext) (replies : List Reply) : Session where
  thread := service.thread
  replies := replies
  activity := context.activity
  clock := context.clock

/-- The result of the handler of a call. -/
def handled (service : Service) (call : Call) (context : CallContext) (replies : List Reply) :
    Except Failure Answer :=
  ((call.handle service.setting).runIn (service.sessionFor context replies)).1

/-- The requests that a call sends. -/
def requestsOf (service : Service) (call : Call) (context : CallContext) (replies : List Reply) :
    List Request :=
  ((call.perform service.setting).runIn (service.sessionFor context replies)).2.sent

/-- The requests of a call with their replies, of which silence follows the last. -/
def exchanges (service : Service) (call : Call) (context : CallContext) (replies : List Reply) :
    List (Request × Reply) :=
  (service.requestsOf call context replies).mapIdx fun i request =>
    (request, replies.getD i Reply.silence)

/-- A step that makes a call reports its result and its requests. -/
theorem outcome_call (service : Service) (call : Call) (context : CallContext)
    (replies : List Reply) :
    (service.step (.call call context replies)).1.outcome =
      .answered ((call.perform service.setting).runIn (service.sessionFor context replies)).1
        (service.requestsOf call context replies) := rfl

end Service

/-- Supervision makes an answer of the result of a handler and sends nothing. -/
theorem runIn_supervised (empty : Response) (handler : Action Answer) (session : Session) :
    ((supervised empty handler).runIn session).1 = settled empty (handler.runIn session).1 ∧
      (handler.runIn session).2.Alike ((supervised empty handler).runIn session).2 := by
  unfold supervised
  rw [runIn_tryCatch]
  rcases hrun : handler.runIn session with ⟨result, left⟩
  cases result with
  | ok answer => exact ⟨rfl, Session.Alike.refl left⟩
  | error failure =>
      have hreport := failure.isRule_report empty
      exact ⟨hreport.result left, hreport.quiet left⟩

/-- A supervised call names its thread, and logs its beginning and its end. -/
theorem Call.perform_of_supervised {call : Call} (hsupervised : call.isSupervised = true)
    (setting : Setting) :
    call.perform setting = (do
      Action.renameThread call.subject
      Action.info call.name
      let answer ← supervised call.emptyResponse (call.answer setting)
      Action.info (String.join ["finished ", call.name])
      return answer) := by
  cases call <;> first | rfl | cases hsupervised

/-- A supervised call answers by the result of its handler and sends nothing else. -/
theorem Call.runIn_perform {call : Call} (hsupervised : call.isSupervised = true)
    (setting : Setting) (session : Session) :
    ((call.perform setting).runIn session).1 =
        settled call.emptyResponse ((call.handle setting).runIn session).1 ∧
      ((call.handle setting).runIn session).2.Alike ((call.perform setting).runIn session).2 := by
  rw [perform_of_supervised hsupervised, handle]
  simp only [runIn_bind, runIn_renameThread, runIn_info]
  obtain ⟨hresult, halike⟩ := runIn_supervised call.emptyResponse (call.answer setting)
    ((session.renameThread call.subject).note .info call.name)
  rcases hrun : (supervised call.emptyResponse (call.answer setting)).runIn
    ((session.renameThread call.subject).note .info call.name) with ⟨result, left⟩
  rw [hrun] at hresult halike
  cases result with
  | error failure => exact ⟨hresult, halike⟩
  | ok answer => exact ⟨hresult, halike.trans ⟨rfl, rfl, rfl, rfl⟩⟩

namespace Service

variable (service : Service) (call : Call) (context : CallContext) (replies : List Reply)

/-- The exchanges of a call are those of its transcript. -/
theorem exchanges_of_leads {transcript : List Event} {after : Session}
    (hleads : (service.sessionFor context replies).Leads transcript after)
    (hsent : service.requestsOf call context replies = (exchangesOf transcript).map Prod.fst) :
    service.exchanges call context replies = exchangesOf transcript := by
  unfold exchanges
  rw [hsent]
  apply List.ext_getElem?
  intro i
  rw [List.getElem?_mapIdx, List.getElem?_map]
  cases hpair : (exchangesOf transcript)[i]? with
  | none => rfl
  | some pair =>
      have hheard := hleads.heard hpair
      simp only [Option.map_some]
      rw [Option.some.injEq]
      exact Prod.ext rfl hheard.symm

/-- The requests of a call are those of its exchanges. -/
theorem map_fst_exchanges :
    (service.exchanges call context replies).map Prod.fst =
      service.requestsOf call context replies := by
  unfold exchanges
  apply List.ext_getElem?
  intro i
  rw [List.getElem?_map, List.getElem?_mapIdx]
  cases (service.requestsOf call context replies)[i]? <;> rfl

/-- A supervised call has a run, which leads up to the session that the call leaves. -/
theorem run_of_supervised (hsupervised : call.isSupervised = true) :
    ∃ transcript, (service.sessionFor context replies).Leads transcript
        ((call.perform service.setting).runIn (service.sessionFor context replies)).2 ∧
      service.exchanges call context replies = exchangesOf transcript ∧
      call.Run service.setting transcript (service.handled call context replies) := by
  obtain ⟨-, halike⟩ :=
    Call.runIn_perform hsupervised service.setting (service.sessionFor context replies)
  obtain ⟨transcript, hhandled, hrun⟩ :=
    Call.meets_handle hsupervised service.setting (service.sessionFor context replies)
  have hleads : (service.sessionFor context replies).Leads (transcript ++ [])
      ((call.perform service.setting).runIn (service.sessionFor context replies)).2 :=
    hhandled.append halike
  rw [List.append_nil] at hleads
  exact ⟨transcript, hleads, service.exchanges_of_leads call context replies hleads hleads.sent,
    hrun⟩

/-- What a step reports of a supervised call: the result of the handler became the answer, and
the handler had one of its runs, with the exchanges of the call. -/
theorem outcome_of_supervised (hsupervised : call.isSupervised = true) :
    (service.step (.call call context replies)).1.outcome =
        .answered (settled call.emptyResponse (service.handled call context replies))
          (service.requestsOf call context replies) ∧
      ∃ transcript after, (service.sessionFor context replies).Leads transcript after ∧
        service.exchanges call context replies = exchangesOf transcript ∧
        call.Run service.setting transcript (service.handled call context replies) := by
  obtain ⟨hresult, -⟩ :=
    Call.runIn_perform hsupervised service.setting (service.sessionFor context replies)
  obtain ⟨transcript, hleads, hexchanges, hrun⟩ :=
    service.run_of_supervised call context replies hsupervised
  refine ⟨?_, transcript, _, hleads, hexchanges, hrun⟩
  rw [outcome_call, hresult]
  rfl

end Service

end VolumePlugin
