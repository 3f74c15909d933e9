/-
# The order in which calls fail

Before a call asks the provider it looks at its request, at the settings for a client, at whether
the caller still waits and at the time that the caller leaves. The first of these that is wrong
decides how the call fails. An invalid request is therefore answered in the same way under all
settings, and a missing token in the same way whatever the caller does meanwhile.

The runs of the five calls that ask the provider begin alike, and this beginning is all that the
order depends on.
-/
import VolumePlugin.Proofs.Supervision

namespace VolumePlugin

/-! ## The checks of a request for a volume -/

/-- The first of a row of checks that fails. -/
def firstFailing : List (Except Failure Unit) → Except Failure Unit
  | [] => .ok ()
  | check :: rest => do
    check
    firstFailing rest

namespace CapacityRange

/-- Refuse a negative bound. -/
def checkSigns (range : CapacityRange) : Except Failure Unit := do
  if ← range.hasNegativeBound then throw (.validation .negativeSize)

/-- Refuse two bounds that are not the same. -/
def checkExact (range : CapacityRange) : Except Failure Unit :=
  if range.required.truthy && range.limit.truthy && !range.required.alike range.limit then
    .error ((Failure.validation (.inexactRange range.required range.limit)).wordedWith
      [range.required, range.limit])
  else .ok ()

/-- The size in gibibytes of the bound that is given, and else the default. -/
def size (range : CapacityRange) : Except Failure Value :=
  if range.required.truthy then Size.toGib range.required
  else if range.limit.truthy then Size.toGib range.limit
  else .ok (.int (Size.gibOfBytes Size.standard))

/-- Bounds ask for the size of one of them once both have been checked. -/
theorem resolve_eq (range : CapacityRange) :
    range.resolve = (do
      range.checkSigns
      range.checkExact
      range.size) := by
  rw [resolve, checkSigns]
  cases range.hasNegativeBound with
  | error failure => rfl
  | ok negative =>
      cases negative with
      | true => rfl
      | false =>
          rw [checkExact, size]
          cases range.required.truthy <;> cases range.limit.truthy <;>
            cases range.required.alike range.limit <;> rfl

/-- No range is a range without bounds. -/
theorem storage_eq (range : Option CapacityRange) : storage range = (range.getD {}).resolve := by
  cases range with
  | none =>
      rw [Option.getD_none, resolve, hasNegativeBound_int]
      rfl
  | some range => rfl

end CapacityRange

/-- The checks of a request for a volume: of the name, the capabilities, the signs of the bounds,
whether they are the same, and the size. -/
def CreateVolumeRequest.checks (request : CreateVolumeRequest) : List (Except Failure Unit) :=
  [do let _ ← requireParameter request.name "name",
    checkCapabilities request.capabilities,
    (request.range.getD {}).checkSigns,
    (request.range.getD {}).checkExact,
    (request.range.getD {}).size >>= Size.check]

/-! ## What comes before the provider -/

namespace Call

/-- Whether a call asks the provider for something. -/
def asksProvider : Call → Bool
  | .createVolume _ | .deleteVolume _ | .publishVolume _ | .unpublishVolume _
  | .listVolumes _ => true
  | _ => false

/-- The checks of a request on its own, with those of the node or of the starting token. -/
def validation : Call → Except Failure Unit
  | .createVolume request => do let _ ← request.rule
  | .deleteVolume request => do let _ ← request.rule
  | .publishVolume request => do let _ ← dropletOfNode (← request.rule).2
  | .unpublishVolume request => do let _ ← dropletOfNode (← request.rule).2
  | .listVolumes request => do let _ ← request.rule
  | _ => .ok ()

/-- Whether a call asks whether the caller still waits before anything else. -/
def waitsFirst : Call → Bool
  | .listVolumes _ => true
  | _ => false

/-- What a call looks at before it asks the provider; the time for its first request. -/
def preflight (call : Call) (setting : Setting) (context : CallContext) : Except Failure Value := do
  call.validation
  let client ← setting.clientRule
  if call.waitsFirst && !context.activity.now then throw (.cancelled (.text call.name))
  client.timeFor call.name context.clock.now

/-- How the runs of a call begin. -/
inductive Opens (call : Call) (setting : Setting) : List Event → Except Failure Answer → Prop
  | /-- The request is not valid. -/
    invalid {failure : Failure} (hinvalid : call.validation = .error failure) :
      Opens call setting [] (.error failure)
  | /-- There is no client. -/
    unready {failure : Failure} (hvalid : call.validation = .ok ())
      (hclient : setting.clientRule = .error failure) : Opens call setting [] (.error failure)
  | /-- The caller has given up. -/
    cancelled {client : Client} (hvalid : call.validation = .ok ())
      (hclient : setting.clientRule = .ok client) (hfirst : call.waitsFirst = true) :
      Opens call setting [.activity false] (.error (.cancelled (.text call.name)))
  | /-- No time is left. -/
    late {client : Client} {left : Value} {failure : Failure} (hvalid : call.validation = .ok ())
      (hclient : setting.clientRule = .ok client)
      (htime : client.timeFor call.name left = .error failure) :
      Opens call setting ((if call.waitsFirst then [.activity true] else []) ++ [.clock left])
        (.error failure)
  | /-- The provider is asked. -/
    asked {client : Client} {left timeout : Value} {request : Request} {reply : Reply}
      {rest : List Event} {handled : Except Failure Answer} (hvalid : call.validation = .ok ())
      (hclient : setting.clientRule = .ok client)
      (htime : client.timeFor call.name left = .ok timeout) :
      Opens call setting
        ((if call.waitsFirst then [.activity true] else []) ++
          .clock left :: .exchange request reply :: rest) handled

end Call

/-- The first failing check decides whether a request for a volume is valid. -/
theorem CreateVolumeRequest.validation_eq (request : CreateVolumeRequest) :
    (Call.createVolume request).validation = firstFailing request.checks := by
  rw [Call.validation, rule, CapacityRange.storage_eq, CapacityRange.resolve_eq, checks]
  cases requireParameter request.name "name" with
  | error failure => rfl
  | ok name =>
      cases checkCapabilities request.capabilities with
      | error failure => rfl
      | ok _ =>
          cases (request.range.getD {}).checkSigns with
          | error failure => rfl
          | ok _ =>
              cases (request.range.getD {}).checkExact with
              | error failure => rfl
              | ok _ =>
                  cases (request.range.getD {}).size with
                  | error failure => rfl
                  | ok size =>
                      simp only [ok_bind, firstFailing]
                      cases Size.check size <;> rfl

/-- A request to delete is valid where it asks for an operation. -/
theorem DeleteVolumeRequest.validation_eq (request : DeleteVolumeRequest) :
    (Call.deleteVolume request).validation = request.operation.map fun _ => () := by
  rw [Call.validation, operation]
  cases request.rule <;> rfl

/-- A request that names a node is valid where it asks for an operation on a droplet. -/
theorem map_operation_of_node {α : Type} (rule : Except Failure (α × Value))
    (operation : α → Int → Operation) :
    (do let _ ← dropletOfNode (← rule).2) =
      (do
        let ids ← rule
        return operation ids.1 (← dropletOfNode ids.2) : Except Failure Operation).map
          fun _ => () := by
  cases rule with
  | error failure => rfl
  | ok ids =>
      rw [ok_bind, ok_bind]
      cases dropletOfNode ids.2 <;> rfl

/-- A request to publish is valid where it asks for an operation, in whatever region. -/
theorem PublishVolumeRequest.validation_eq (request : PublishVolumeRequest) (region : Value) :
    (Call.publishVolume request).validation = (request.operation region).map fun _ => () :=
  map_operation_of_node request.rule fun id droplet => .attach id (.int droplet) region

/-- A request to unpublish is valid where it asks for an operation, in whatever region. -/
theorem UnpublishVolumeRequest.validation_eq (request : UnpublishVolumeRequest) (region : Value) :
    (Call.unpublishVolume request).validation = (request.operation region).map fun _ => () :=
  map_operation_of_node request.rule fun id droplet => .detach id (.int droplet) region

/-! ## How the runs begin -/

section Beginnings

variable {setting : Setting} {transcript : List Event} {handled : Except Failure Answer}

/-- A call that asks for a change begins as calls do. -/
theorem ChangeCallRun.opens (call : Call) {fragments : List String} {wanted : ErrorClass}
    {asked : Except Failure Operation} {response : Response} {outcome : Except Failure Response}
    (hrun : ChangeCallRun setting call.name fragments wanted asked response transcript outcome)
    (hasked : call.validation = asked.map fun _ => ()) (hfirst : call.waitsFirst = false)
    (hhandled : handled = outcome.map ({ response := · })) :
    call.Opens setting transcript handled := by
  have hbegin (rest : List Event) :
      rest = (if call.waitsFirst then [.activity true] else []) ++ rest := by
    rw [hfirst]
    rfl
  rw [hhandled]
  cases hrun with
  | invalid hinvalid =>
      rw [hinvalid] at hasked
      exact .invalid hasked
  | unready hvalid hclient =>
      rw [hvalid] at hasked
      exact .unready hasked hclient
  | @changed operation client transcript result hvalid hclient hrun =>
      rw [hvalid] at hasked
      cases hrun with
      | @late left failure htime =>
          rw [hbegin [.clock left]]
          exact .late hasked hclient htime
      | @asked left timeout reply htime =>
          rw [hbegin [.clock left, .exchange (client.request operation timeout) reply]]
          exact .asked hasked hclient htime

/-- A call that creates a volume begins as calls do. -/
theorem CreationRun.opens {request : CreateVolumeRequest} {outcome : Except Failure Response}
    (hrun : CreationRun request setting transcript outcome)
    (hhandled : handled = outcome.map ({ response := · })) :
    (Call.createVolume request).Opens setting transcript handled := by
  have hvalidation {asked : Value × Value} (hrequest : request.rule = .ok asked) :
      (Call.createVolume request).validation = .ok () := by
    rw [Call.validation, hrequest]
    rfl
  rw [hhandled]
  cases hrun with
  | invalid hrequest =>
      apply Call.Opens.invalid
      rw [Call.validation, hrequest]
      rfl
  | unready hrequest hclient => exact .unready (hvalidation hrequest) hclient
  | late hrequest hclient htime => exact .late (hvalidation hrequest) hclient htime
  | listed hrequest hclient htime hrest => exact .asked (hvalidation hrequest) hclient htime

/-- A call that lists volumes begins as calls do, once the caller has said that it waits. -/
theorem ListingRun.opens {request : ListVolumesRequest} {outcome : Except Failure Response}
    (hrun : ListingRun request setting transcript outcome)
    (hhandled : handled = outcome.map ({ response := · })) :
    (Call.listVolumes request).Opens setting transcript handled := by
  rw [hhandled]
  cases hrun with
  | invalid hrequest =>
      apply Call.Opens.invalid
      rw [Call.validation, hrequest]
      rfl
  | unready hrequest hclient =>
      apply Call.Opens.unready _ hclient
      rw [Call.validation, hrequest]
      rfl
  | listed hrequest hclient hrun =>
      have hvalid : (Call.listVolumes request).validation = .ok () := by
        rw [Call.validation, hrequest]
        rfl
      cases hrun with
      | cancelled => exact .cancelled hvalid hclient rfl
      | late htime => exact .late hvalid hclient htime
      | failed htime | finished htime | goOn htime => exact .asked hvalid hclient htime

/-- Every call that asks the provider begins so. -/
theorem Call.opens_of_run {call : Call} (hasks : call.asksProvider = true)
    (hrun : call.Run setting transcript handled) : call.Opens setting transcript handled := by
  cases call with
  | createVolume request =>
      obtain ⟨outcome, hrun, hhandled⟩ := hrun
      exact hrun.opens hhandled
  | listVolumes request =>
      obtain ⟨outcome, hrun, hhandled⟩ := hrun
      exact hrun.opens hhandled
  | deleteVolume request =>
      obtain ⟨outcome, hrun, hhandled⟩ := hrun
      exact ChangeCallRun.opens (.deleteVolume request) hrun request.validation_eq rfl hhandled
  | publishVolume request =>
      obtain ⟨outcome, hrun, hhandled⟩ := hrun
      exact ChangeCallRun.opens (.publishVolume request) hrun (request.validation_eq _) rfl hhandled
  | unpublishVolume request =>
      obtain ⟨outcome, hrun, hhandled⟩ := hrun
      exact ChangeCallRun.opens (.unpublishVolume request) hrun (request.validation_eq _) rfl
        hhandled
  | _ => cases hasks

end Beginnings

/-! ## What the caller says first -/

/-- A cue tells first what it tells now. -/
theorem Cue.fst_next {α : Type} (cue : Cue α) : cue.next.1 = cue.now := by
  rw [next]
  split <;> rfl

section Beginning

variable {before after : Session} {left : Value} {rest : List Event}

theorem Session.Leads.now_activity {waits : Bool}
    (hleads : before.Leads (.activity waits :: rest) after) : before.activity.now = waits :=
  (Cue.fst_next _).symm.trans hleads.1

theorem Session.Leads.now_clock (hleads : before.Leads (.clock left :: rest) after) :
    before.clock.now = left :=
  (Cue.fst_next _).symm.trans hleads.1

/-- A session that begins with both answers of the caller begins with what it says now. -/
theorem Session.Leads.now_both {waits : Bool}
    (hleads : before.Leads (.activity waits :: .clock left :: rest) after) :
    before.activity.now = waits ∧ before.clock.now = left :=
  ⟨hleads.now_activity, (Cue.fst_next _).symm.trans hleads.2.1⟩

/-- A session that begins with the clock, perhaps behind the question whether the caller waits,
begins with what the caller says first. -/
theorem Session.Leads.beginning {waitsFirst : Bool}
    (hleads : before.Leads ((if waitsFirst then [.activity true] else []) ++ .clock left :: rest)
      after) :
    (waitsFirst && !before.activity.now) = false ∧ before.clock.now = left := by
  cases waitsFirst with
  | false => exact ⟨rfl, hleads.now_clock⟩
  | true =>
      obtain ⟨hwaits, hleft⟩ := hleads.now_both
      rw [hwaits]
      exact ⟨rfl, hleft⟩

end Beginning

/-- A call that begins so fails without a request where something that comes before the provider
is wrong, and sends a request where all is well. -/
theorem Call.Opens.decided {call : Call} {setting : Setting} {context : CallContext}
    {transcript : List Event} {handled : Except Failure Answer} {before after : Session}
    (hopens : call.Opens setting transcript handled) (hleads : before.Leads transcript after)
    (hactivity : before.activity = context.activity) (hclock : before.clock = context.clock) :
    (∃ failure, call.preflight setting context = .error failure ∧
      handled = .error failure ∧ exchangesOf transcript = []) ∨
    (∃ timeout, call.preflight setting context = .ok timeout) ∧ exchangesOf transcript ≠ [] := by
  have htime {client : Client} {left : Value} {rest : List Event}
      (hvalid : call.validation = .ok ()) (hclient : setting.clientRule = .ok client)
      (hleads : before.Leads
        ((if call.waitsFirst then [.activity true] else []) ++ .clock left :: rest) after) :
      call.preflight setting context = client.timeFor call.name left := by
    obtain ⟨hwaits, hleft⟩ := hleads.beginning
    rw [hactivity] at hwaits
    rw [hclock] at hleft
    rw [preflight, hvalid, ok_bind, hclient, ok_bind, hwaits, hleft]
    rfl
  have hquiet (rest : List Event) :
      exchangesOf ((if call.waitsFirst then [.activity true] else []) ++ rest) =
        exchangesOf rest := by
    cases call.waitsFirst <;> rfl
  cases hopens with
  | invalid hinvalid =>
      left
      refine ⟨_, ?_, rfl, rfl⟩
      rw [preflight, hinvalid, error_bind]
  | unready hvalid hclient =>
      left
      refine ⟨_, ?_, rfl, rfl⟩
      rw [preflight, hvalid, ok_bind, hclient, error_bind]
  | cancelled hvalid hclient hfirst =>
      left
      refine ⟨_, ?_, rfl, rfl⟩
      have hgone : context.activity.now = false := by
        rw [← hactivity]
        exact hleads.now_activity
      rw [preflight, hvalid, ok_bind, hclient, ok_bind, hfirst, hgone]
      rfl
  | late hvalid hclient hlate =>
      left
      refine ⟨_, ?_, rfl, hquiet _⟩
      rw [htime hvalid hclient hleads, hlate]
  | asked hvalid hclient hleft =>
      right
      rw [htime hvalid hclient hleads, hleft, hquiet]
      exact ⟨⟨_, rfl⟩, List.cons_ne_nil _ _⟩

/-! ## What is answered -/

/-- What is made of an outcome makes no failed request of it. -/
theorem IsLocal.map {α β : Type} {outcome : Except Failure α} (hlocal : IsLocal outcome)
    (f : α → β) : IsLocal (outcome.map f) := by
  cases outcome with
  | error failure => exact hlocal.of_error rfl
  | ok a => exact isLocal_ok _

/-- The checks of a request are the plugin's own. -/
theorem Call.isLocal_validation (call : Call) : IsLocal call.validation := by
  cases call with
  | createVolume request => exact request.isLocal_rule.bind fun _ _ => isLocal_ok _
  | deleteVolume request =>
      rw [request.validation_eq]
      exact request.isLocal_operation.map _
  | publishVolume request =>
      rw [request.validation_eq (.text "")]
      exact (request.isLocal_operation _).map _
  | unpublishVolume request =>
      rw [request.validation_eq (.text "")]
      exact (request.isLocal_operation _).map _
  | listVolumes request => exact request.isLocal_rule.bind fun _ _ => isLocal_ok _
  | _ => exact isLocal_ok _

/-- What comes before the provider fails on its own. -/
theorem Call.isLocal_preflight (call : Call) (setting : Setting) (context : CallContext) :
    IsLocal (call.preflight setting context) := by
  apply call.isLocal_validation.bind
  intro _ _
  apply setting.isLocal_clientRule.bind
  intro client _
  split
  · simp
  · exact client.isLocal_timeFor _ _

/-- Where the variable of the token is unset or empty, there is no client. -/
theorem Setting.clientRule_of_missing (setting : Setting) {variableName : String}
    (hnamed : setting.configuration.tokenVariable = .ok (.text variableName))
    (hmissing : setting.environment.lookup variableName = none ∨
      setting.environment.lookup variableName = some "") :
    setting.clientRule = .error (.missingToken (.text variableName)) := by
  have hnone : setting.environment.read (.text variableName) = .ok none := by
    refine Environment.read_eq_none.2 ⟨variableName, rfl, fun value hvalue => ?_⟩
    rcases hmissing with hunset | hempty
    · rw [hunset] at hvalue
      cases hvalue
    · rw [hempty] at hvalue
      exact (Option.some.inj hvalue).symm
  rw [clientRule, hnamed, ok_bind, hnone]
  rfl

/-- The answer to a failure of the plugin's own. -/
def Failure.answer (failure : Failure) (empty : Response) : Answer where
  response := empty
  status := some failure.ownStatus
  details := some failure.message

/-- A failure of the plugin's own is answered whatever it is. -/
theorem settled_of_isLocal {empty : Response} {failure : Failure}
    (hlocal : ∀ error, failure ≠ .provider error) :
    settled empty (.error failure) = .ok (failure.answer empty) := by
  cases failure with
  | provider error => exact (hlocal error rfl).elim
  | _ => rfl

namespace Service

/-- A call that asks the provider fails without a request where something that comes before is
wrong, and sends a request where all is well. -/
theorem outcome_of_preflight (service : Service) {call : Call} (context : CallContext)
    (replies : List Reply) (hasks : call.asksProvider = true) :
    (∀ failure, call.preflight service.setting context = .error failure →
      (service.step (.call call context replies)).1.outcome =
        .answered (.ok (failure.answer call.emptyResponse)) []) ∧
    ∀ timeout, call.preflight service.setting context = .ok timeout →
      service.requestsOf call context replies ≠ [] := by
  have hsupervised : call.isSupervised = true := by
    cases call <;> first | rfl | cases hasks
  obtain ⟨houtcome, transcript, after, hleads, hexchanges, hrun⟩ :=
    service.outcome_of_supervised call context replies hsupervised
  have hsent : service.requestsOf call context replies = (exchangesOf transcript).map Prod.fst := by
    rw [← map_fst_exchanges, hexchanges]
  rcases (Call.opens_of_run hasks hrun).decided hleads rfl rfl with
    ⟨failure, hfailed, hhandled, hnone⟩ | ⟨⟨timeout, hready⟩, hsome⟩
  · constructor
    · intro other hother
      rw [hfailed] at hother
      cases hother
      have hlocal := call.isLocal_preflight service.setting context
      rw [hfailed, isLocal_error_iff] at hlocal
      rw [houtcome, hhandled, settled_of_isLocal hlocal, hsent, hnone]
      rfl
    · intro timeout hready
      rw [hfailed] at hready
      cases hready
  · constructor
    · intro failure hfailed
      rw [hready] at hfailed
      cases hfailed
    · intro _ _
      rw [hsent]
      exact fun hnone => hsome (List.map_eq_nil_iff.1 hnone)

/-- The provider is asked just where all that comes before is well. -/
theorem requestsOf_ne_nil_iff (service : Service) {call : Call} (context : CallContext)
    (replies : List Reply) (hasks : call.asksProvider = true) :
    service.requestsOf call context replies ≠ [] ↔
      ∃ timeout, call.preflight service.setting context = .ok timeout := by
  obtain ⟨hrefused, hsends⟩ := service.outcome_of_preflight context replies hasks
  constructor
  · intro hsome
    cases hready : call.preflight service.setting context with
    | ok timeout => exact ⟨timeout, rfl⟩
    | error failure =>
        have houtcome := hrefused failure hready
        rw [outcome_call, Outcome.answered.injEq] at houtcome
        exact (hsome houtcome.2).elim
  · rintro ⟨timeout, hready⟩
    exact hsends timeout hready

/-- A call gives an answer once it has sent these requests. -/
def AnswersAfter (service : Service) (call : Call) (context : CallContext)
    (replies : List Reply) (sent : List Request) (answer : Answer) : Prop :=
  (service.step (.call call context replies)).1.outcome = .answered (.ok answer) sent

/-- A call fails without a request, and its answer reports the failure. -/
def Refuses (service : Service) (call : Call) (context : CallContext) (replies : List Reply)
    (failure : Failure) : Prop :=
  (service.step (.call call context replies)).1.outcome =
    .answered (.ok (failure.answer call.emptyResponse)) []

/-- The order in which a call that asks the provider fails. An invalid request is refused in the
same way by every service, whatever the caller does and the provider replies, and a request for a
volume by its first failing check. A valid request is refused as unauthenticated where there is no
token; and only where there is a client the caller decides, in a listing by whether it waits and
then, as in the other calls, by the time that it leaves. Where it leaves enough the provider is
asked. -/
theorem failures_in_order (service other : Service) (call : Call)
    (context otherContext : CallContext) (replies otherReplies : List Reply)
    (hasks : call.asksProvider = true) :
    (∀ failure, call.validation = .error failure →
      service.Refuses call context replies failure ∧
        other.Refuses call otherContext otherReplies failure) ∧
    (∀ request, call = .createVolume request → call.validation = firstFailing request.checks) ∧
    (call.validation = .ok () →
      (∀ variableName, service.configuration.tokenVariable = .ok (.text variableName) →
        service.environment.lookup variableName = none ∨
          service.environment.lookup variableName = some "" →
        service.AnswersAfter call context replies [] {
          response := call.emptyResponse
          status := some .unauthenticated
          details := some (Failure.missingToken (.text variableName)).message }) ∧
      ∀ client, service.setting.clientRule = .ok client →
        (call.waitsFirst = true → context.activity.now = false →
          service.AnswersAfter call context replies [] {
            response := call.emptyResponse
            status := some .cancelled
            details := some (Failure.cancelled (.text call.name)).message }) ∧
        ((call.waitsFirst = true → context.activity.now = true) →
          (∀ failure, client.timeFor call.name context.clock.now = .error failure →
            service.Refuses call context replies failure) ∧
          (client.timeFor call.name context.clock.now =
              .error (.deadlineExceeded (.text call.name)) →
            service.AnswersAfter call context replies [] {
              response := call.emptyResponse
              status := some .deadlineExceeded
              details := some (Failure.deadlineExceeded (.text call.name)).message }) ∧
          ∀ timeout, client.timeFor call.name context.clock.now = .ok timeout →
            service.requestsOf call context replies ≠ [])) := by
  obtain ⟨hrefuses, hsends⟩ := service.outcome_of_preflight context replies hasks
  refine ⟨?_, ?_, ?_⟩
  · intro failure hinvalid
    have hfailed (setting : Setting) (context : CallContext) :
        call.preflight setting context = .error failure := by
      rw [Call.preflight, hinvalid, error_bind]
    obtain ⟨hother, -⟩ := other.outcome_of_preflight otherContext otherReplies hasks
    exact ⟨hrefuses failure (hfailed _ _), hother failure (hfailed _ _)⟩
  · rintro request rfl
    exact request.validation_eq
  · intro hvalid
    constructor
    · intro variableName hnamed hmissing
      apply hrefuses (.missingToken (.text variableName))
      rw [Call.preflight, hvalid, ok_bind, service.setting.clientRule_of_missing hnamed hmissing,
        error_bind]
    · intro client hclient
      constructor
      · intro hfirst hgone
        apply hrefuses (.cancelled (.text call.name))
        rw [Call.preflight, hvalid, ok_bind, hclient, ok_bind, hfirst, hgone]
        rfl
      · intro hwaits
        have htime : call.preflight service.setting context =
            client.timeFor call.name context.clock.now := by
          have hstays : (call.waitsFirst && !context.activity.now) = false := by
            cases hfirst : call.waitsFirst with
            | false => rfl
            | true => rw [hwaits hfirst, Bool.not_true, Bool.and_false]
          rw [Call.preflight, hvalid, ok_bind, hclient, ok_bind, hstays]
          rfl
        rw [← htime]
        exact ⟨hrefuses, hrefuses (.deadlineExceeded (.text call.name)), hsends⟩

/-- A listing from no page is refused with and without a token. One from the first page is refused
without a token also where the caller has given up, and has no time left; with a token it is refused
for the first reason and then for the second, and otherwise the provider is asked. -/
theorem listing_refused_in_order :
    ((withToken "").Refuses (.listVolumes { startingToken := .text "-1" })
        ⟨⟨false, []⟩, ⟨.int 0, []⟩⟩ [] (.invalidListingToken (.text "-1")) ∧
      (withToken "token").Refuses (.listVolumes { startingToken := .text "-1" }) {}
        [Reply.silence] (.invalidListingToken (.text "-1"))) ∧
    (withToken "").AnswersAfter (.listVolumes {}) ⟨⟨false, []⟩, ⟨.int 0, []⟩⟩ [] [] {
      response := .listing [] ""
      status := some .unauthenticated
      details := some ("provider access token is missing, " ++
        "set the DIGITALOCEAN_ACCESS_TOKEN environment variable") } ∧
    (withToken "token").AnswersAfter (.listVolumes {}) ⟨⟨false, []⟩, ⟨.int 0, []⟩⟩ [] [] {
      response := .listing [] ""
      status := some .cancelled
      details := some "request was cancelled by the caller during ListVolumes" } ∧
    (withToken "token").AnswersAfter (.listVolumes {}) ⟨⟨true, []⟩, ⟨.int 0, []⟩⟩ [] [] {
      response := .listing [] ""
      status := some .deadlineExceeded
      details := some ("request deadline expired during ListVolumes, " ++
        "no time is left for a provider call") } ∧
    (withToken "token").requestsOf (.listVolumes {}) {} [] ≠ [] := by
  have hclient : (withToken "token").setting.clientRule =
      .ok ⟨"https://api.digitalocean.com", "token", .int 30⟩ := by
    rfl
  obtain ⟨hinvalid, -, -⟩ := failures_in_order (withToken "") (withToken "token")
    (.listVolumes { startingToken := .text "-1" }) ⟨⟨false, []⟩, ⟨.int 0, []⟩⟩ {} []
    [Reply.silence] rfl
  obtain ⟨-, -, hunset⟩ := failures_in_order (withToken "") (withToken "") (.listVolumes {})
    ⟨⟨false, []⟩, ⟨.int 0, []⟩⟩ {} [] [] rfl
  obtain ⟨-, -, hgone⟩ := failures_in_order (withToken "token") (withToken "") (.listVolumes {})
    ⟨⟨false, []⟩, ⟨.int 0, []⟩⟩ {} [] [] rfl
  obtain ⟨-, -, hlate⟩ := failures_in_order (withToken "token") (withToken "") (.listVolumes {})
    ⟨⟨true, []⟩, ⟨.int 0, []⟩⟩ {} [] [] rfl
  obtain ⟨-, -, hready⟩ := failures_in_order (withToken "token") (withToken "") (.listVolumes {})
    {} {} [] [] rfl
  refine ⟨hinvalid _ rfl, (hunset rfl).1 _ rfl (.inr rfl), ((hgone rfl).2 _ hclient).1 rfl rfl,
    ?_, ?_⟩
  · exact (((hlate rfl).2 _ hclient).2 fun _ => rfl).2.1 rfl
  · exact (((hready rfl).2 _ hclient).2 fun _ => rfl).2.2 (.int 30) rfl

end Service

end VolumePlugin
