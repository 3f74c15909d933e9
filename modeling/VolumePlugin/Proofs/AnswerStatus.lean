/-
# What the status of an answer decides

An answer is a failure by its status only where this reports an error of the client or of the
server, from 400 to 599. An answer with any other status is read as one with 200 is, so that a
redirection without content is an empty page of a listing, and the end of a change. An error with a
body that is nested too deeply is a failure as well, but one that no longer tells the status.

Which of the two happens is said here for the client, operation by operation, and for the calls that
work with it: none of them responds behind an error that it does not take for success, and every
change is reported as done behind an answer that is neither an error nor a success.
-/
import VolumePlugin.Proofs.FailedRequests

namespace VolumePlugin

open VolumePlugin.Action

/-! ## Answers -/

namespace Reply

/-- The statuses of errors. -/
theorem isErrorStatus_eq_true_iff {status : Int} :
    isErrorStatus status = true ↔ 400 ≤ status ∧ status < 600 := by
  simp [isErrorStatus]

/-- The details of an error are found unless the body is nested too deeply. -/
theorem errorDetails_eq_error_iff {body : String} {failure : Failure} :
    errorDetails body = .error failure ↔
      ∃ container, Json.read body = .error (.tooDeep container) ∧
        failure = .nestedTooDeep container := by
  unfold errorDetails
  cases hread : Json.read body with
  | ok value => cases value <;> simp
  | error fault =>
      cases fault with
      | malformed => simp
      | tooDeep container => simp [eq_comm]

/-- Where the details of an error are not found, nothing else is said of it. -/
theorem value_of_tooDeep {status : Int} {body : String} {container : Json.Container}
    (herror : 400 ≤ status ∧ status < 600) (hdeep : Json.read body = .error (.tooDeep container))
    (method : Method) (url : String) :
    (Reply.answer status body).value method url = .error (.nestedTooDeep container) := by
  have hdetails := errorDetails_eq_error_iff.2 ⟨container, hdeep, rfl⟩
  rw [value, if_pos (isErrorStatus_eq_true_iff.2 herror), hdetails]
  rfl

/-- An answer is a failed request with its status just where this reports an error whose details
are found. -/
theorem fails_with_status_iff {status : Int} {body : String} (method : Method) (url : String) :
    (∃ error, (Reply.answer status body).value method url = .error (.provider error) ∧
      error.status = .int status) ↔
      (400 ≤ status ∧ status < 600) ∧
        ∀ container, Json.read body ≠ .error (.tooDeep container) := by
  constructor
  · rintro ⟨error, hfailed, -⟩
    rcases value_eq_provider_iff.1 hfailed with ⟨report, himpossible, -⟩ |
      ⟨_, _, details, hanswer, herror, -, -⟩
    · cases himpossible
    · cases hanswer
      have herror := isErrorStatus_eq_true_iff.1 herror
      refine ⟨herror, fun container hdeep => ?_⟩
      rw [value_of_tooDeep herror hdeep] at hfailed
      cases hfailed
  · rintro ⟨herror, hread⟩
    cases hdetails : errorDetails body with
    | error failure =>
        obtain ⟨container, hdeep, -⟩ := errorDetails_eq_error_iff.1 hdetails
        exact (hread container hdeep).elim
    | ok details =>
        refine ⟨⟨method.name, url, .int status, details⟩, ?_, rfl⟩
        rw [value, if_pos (isErrorStatus_eq_true_iff.2 herror), hdetails]
        rfl

/-- An answer that is neither an error nor without content by its status is read as one with
200. -/
theorem value_of_other_status {status : Int} (hother : ¬ (400 ≤ status ∧ status < 600))
    (hcontent : status ≠ 204) (method : Method) (url body : String) :
    (Reply.answer status body).value method url = (Reply.answer 200 body).value method url := by
  have hsuccess : ¬ isErrorStatus 200 = true := by decide
  rw [← isErrorStatus_eq_true_iff] at hother
  rw [value, value, if_neg hother, if_neg hsuccess, content, content]
  simp [hcontent]

end Reply

/-! ## What a client gives -/

/-- What an operation has for its result. -/
inductive Given
  | page (page : Page)
  | volume (volume : Volume)
  | nothing
  deriving DecidableEq

/-- What the value of an answer gives to an operation. -/
def Operation.given (operation : Operation) (value : Value) : Except Failure Given := do
  match operation with
  | .list .. => return .page (← Page.ofValue value)
  | .create .. => return .volume (← Volume.ofCreation value)
  | .delete .. | .attach .. | .detach .. => return .nothing

/-- Reading what an operation gives is local. -/
theorem Operation.isLocal_given (operation : Operation) (value : Value) :
    IsLocal (operation.given value) := by
  cases operation with
  | list => exact (Page.isLocal_ofValue value).bind fun _ _ => isLocal_pure _
  | create => exact (Volume.isLocal_ofCreation value).bind fun _ _ => isLocal_pure _
  | delete | attach | detach => exact isLocal_pure _

namespace Client

/-- Have an operation performed by the method of the client that is meant for it. -/
def give (client : Client) (operation : Operation) (timeout : Value) : Action Given := do
  match operation with
  | .list region name page perPage =>
    return .page (← client.listVolumes region name page perPage timeout)
  | .create region name description gigabytes =>
    return .volume (← client.createVolume region name description gigabytes timeout)
  | other =>
    client.carryOut other timeout
    return .nothing

/-- Each method is one question, and what it gives is read from the reply. -/
theorem asks_give (client : Client) (operation : Operation) (timeout : Value) :
    (client.give operation timeout).Asks (.exchange (client.request operation timeout))
      fun reply => client.valueOf operation reply >>= operation.given := by
  have hrest {α : Type} {action : Action α} {read : Value → Except Failure α} (f : α → Given)
      (hasks : action.Asks (.exchange (client.request operation timeout)) fun reply =>
        client.valueOf operation reply >>= read)
      (hgiven : ∀ value, operation.given value = (read value >>= fun a => .ok (f a))) :
      (action >>= fun a => pure (f a)).Asks (.exchange (client.request operation timeout))
        fun reply => client.valueOf operation reply >>= operation.given := by
    have hread : operation.given = fun value => read value >>= fun a => .ok (f a) :=
      funext hgiven
    simp only [hread, ← bind_assoc]
    exact hasks.followed fun a => isRule_pure (f a)
  cases operation with
  | list region name page perPage =>
      exact hrest .page (client.asks_listVolumes region name page perPage timeout) fun _ => rfl
  | create region name description gigabytes =>
      exact hrest .volume (client.asks_createVolume region name description gigabytes timeout)
        fun _ => rfl
  | delete | attach | detach =>
      exact hrest (fun _ => .nothing) (client.asks_perform_bind _ timeout fun _ => .ok ())
        fun _ => rfl

/-- What a method gives in a session is read from the next reply. -/
theorem result_give (client : Client) (operation : Operation) (timeout : Value)
    (session : Session) :
    ((client.give operation timeout).runIn session).1 =
      client.valueOf operation (session.replies.headD Reply.silence) >>= operation.given :=
  (client.asks_give operation timeout).result session

end Client

/-! ## Calls behind answers -/

/-- Whether a call asks for a change of a volume. -/
def Call.asksForChange : Call → Bool
  | .deleteVolume _ | .publishVolume _ | .unpublishVolume _ => true
  | _ => false

section Answered

variable {setting : Setting} {transcript : List Event} {request : Request} {reply : Reply}

/-- A call that creates a volume responds only where no reply ends it. -/
theorem CreationRun.not_endsCall {asked : CreateVolumeRequest} {response : Response}
    {result : Except Failure Response} (hrun : CreationRun asked setting transcript result)
    (hresult : result = .ok response) :
    ∀ turn ∈ exchangesOf transcript, ¬ turn.2.EndsCall := by
  cases hrun with
  | invalid | unready | late => cases hresult
  | @listed name gigabytes client left timeout reply rest result hrequest hclient htime hlisted =>
      simp only [exchangesOf_clock, exchangesOf_exchange, List.forall_mem_cons]
      cases hlisted with
      | unlisted | unfit => cases hresult
      | found hpage hvolume =>
          obtain ⟨value, hvalue, -⟩ := bind_eq_ok.1 hpage
          exact ⟨Reply.not_endsCall_of_value hvalue, by simp⟩
      | absent hpage hvolume hnew =>
          obtain ⟨value, hvalue, -⟩ := bind_eq_ok.1 hpage
          refine ⟨Reply.not_endsCall_of_value hvalue, ?_⟩
          cases hnew with
          | cancelled | late => cases hresult
          | asked htime =>
              obtain ⟨created, hcreated, -⟩ := bind_eq_ok.1 hresult
              obtain ⟨value, hvalue, -⟩ := bind_eq_ok.1 hcreated
              simpa using Reply.not_endsCall_of_value hvalue

/-- A listing responds only where no reply ends it. -/
theorem PagesRun.not_endsCall {client : Client} {perPage : Value} {page : Int}
    {listed : List Volume × Int} {result : Except Failure (List Volume × Int)}
    (hrun : PagesRun setting client perPage page transcript result)
    (hresult : result = .ok listed) :
    ∀ turn ∈ exchangesOf transcript, ¬ turn.2.EndsCall := by
  have hturned {page : Int} {reply : Reply} {turn : List Volume × PageLinks.Position}
      (hturn : client.turnOf page reply = .ok turn) : ¬ reply.EndsCall := by
    obtain ⟨fetched, hshown, -⟩ := Client.shown_of_turnOf hturn
    exact Reply.not_endsCall_of_shown hshown
  induction hrun generalizing listed with
  | cancelled | late | failed => cases hresult
  | finished htime hturn => simpa using hturned hturn
  | @goOn page nextPage left timeout reply volumes rest result htime hturn hrest ih =>
      simp only [exchangesOf_activity, exchangesOf_clock, exchangesOf_exchange,
        List.forall_mem_cons]
      cases result with
      | error failure => cases hresult
      | ok later => exact ⟨hturned hturn, ih rfl⟩

/-- Where a change is done behind a reply that ends calls, this is a failed request of the wanted
class. -/
theorem excused_of_changeVerdict {fragments : List String} {wanted : ErrorClass} {method : Method}
    {url : String} (hends : reply.EndsCall)
    (hverdict : changeVerdict fragments wanted (reply.value method url) = .ok ()) :
    ∃ error, reply.value method url = .error (.provider error) ∧
      changeVerdict fragments wanted (.error (.provider error)) = .ok () := by
  cases hvalue : reply.value method url with
  | ok value => exact (Reply.not_endsCall_of_value hvalue hends).elim
  | error failure =>
      rw [hvalue] at hverdict
      cases failure with
      | provider error => exact ⟨error, rfl, hverdict⟩
      | _ => cases hverdict

namespace Call

variable {call : Call} {handled : Except Failure Answer}

/-- A call that responds heard no reply that ends it, other than a failure of a change that it takes
for success. -/
theorem excused_of_run {answer : Answer} (hrun : call.Run setting transcript handled)
    (hhandled : handled = .ok answer) :
    ∀ turn ∈ exchangesOf transcript, turn.2.EndsCall → call.asksForChange = true ∧
      ∃ error, turn.2.value turn.1.method turn.1.url = .error (.provider error) ∧
        call.verdictOn error = .ok () := by
  have hresponded {outcome : Except Failure Response}
      (houtcome : handled = outcome.map ({ response := · })) :
      ∃ response, outcome = .ok response := by
    cases outcome with
    | ok response => exact ⟨response, rfl⟩
    | error failure =>
        rw [hhandled] at houtcome
        cases houtcome
  have hexcused {verdict : Except Failure Unit} {response : Response}
      (hdone : .ok response = verdict.map fun _ => call.emptyResponse) : verdict = .ok () := by
    cases verdict with
    | ok => rfl
    | error failure => cases hdone
  intro turn hturn hends
  cases call with
  | createVolume asked =>
      obtain ⟨outcome, hrun, houtcome⟩ := hrun
      obtain ⟨response, hresponse⟩ := hresponded houtcome
      exact (hrun.not_endsCall hresponse turn hturn hends).elim
  | listVolumes asked =>
      obtain ⟨outcome, hrun, houtcome⟩ := hrun
      obtain ⟨response, hresponse⟩ := hresponded houtcome
      cases hrun with
      | invalid | unready => cases hresponse
      | listed hrequest hclient hrun =>
          obtain ⟨listed, hlisted, -⟩ := bind_eq_ok.1 hresponse
          exact (hrun.not_endsCall hlisted turn hturn hends).elim
  | deleteVolume asked | publishVolume asked | unpublishVolume asked =>
      obtain ⟨outcome, hrun, houtcome⟩ := hrun
      obtain ⟨response, rfl⟩ := hresponded houtcome
      exact ⟨rfl, excused_of_changeVerdict hends (hexcused (hrun.result_of_turn hturn))⟩
  | _ =>
      rw [hrun.1] at hturn
      cases hturn

/-- A call for a change responds behind a reply that has a value. -/
theorem handled_of_value {value : Value} (hchange : call.asksForChange = true)
    (hrun : call.Run setting transcript handled)
    (hturn : (request, reply) ∈ exchangesOf transcript)
    (hvalue : reply.value request.method request.url = .ok value) :
    handled = .ok { response := call.emptyResponse } := by
  cases call with
  | deleteVolume asked | publishVolume asked | unpublishVolume asked =>
      obtain ⟨outcome, hrun, rfl⟩ := hrun
      rw [hrun.result_of_turn hturn, hvalue]
      rfl
  | _ => cases hchange

end Call

end Answered

namespace Service

/-- What becomes of an answer whose status is not one of success. Whatever a client was asked for,
it fails with this status just where the status reports an error and the body is not nested too
deeply; too deep a body is a failure of its own, and any other status is read like 200. A call that
heard an error answers without a status only if it asked for a change and takes the error for
success; a call for a change that heard any other status answers that the change is done, if only
the body can be read. -/
theorem failed_by_status (status : Int) (body : String) (houtside : status < 200 ∨ 299 < status) :
    (∀ (client : Client) (operation : Operation) (timeout : Value) (session : Session),
      session.replies.head? = some (.answer status body) →
      ((∃ error, ((client.give operation timeout).runIn session).1 = .error (.provider error) ∧
          error.status = .int status) ↔
        (400 ≤ status ∧ status < 600) ∧
          ∀ container, Json.read body ≠ .error (.tooDeep container)) ∧
      (400 ≤ status ∧ status < 600 → ∀ container, Json.read body = .error (.tooDeep container) →
        ((client.give operation timeout).runIn session).1 = .error (.nestedTooDeep container)) ∧
      (¬ (400 ≤ status ∧ status < 600) →
        ((client.give operation timeout).runIn session).1 =
          ((client.give operation timeout).runIn
            { session with replies := .answer 200 body :: session.replies.tail }).1)) ∧
    ∀ (service : Service) (call : Call) (context : CallContext) (replies : List Reply)
      (request : Request),
      (request, .answer status body) ∈ service.exchanges call context replies →
      (400 ≤ status ∧ status < 600 → ∀ answer sent,
        (service.step (.call call context replies)).1.outcome = .answered (.ok answer) sent →
        answer.status = none → call.asksForChange = true ∧
          ∃ details, Reply.errorDetails body = .ok details ∧
            call.verdictOn ⟨request.method.name, request.url, .int status, details⟩ = .ok ()) ∧
      (¬ (400 ≤ status ∧ status < 600) → call.asksForChange = true → ∀ value,
        (Reply.answer 200 body).value request.method request.url = .ok value →
        (service.step (.call call context replies)).1.outcome =
          .answered (.ok { response := call.emptyResponse })
            (service.requestsOf call context replies)) := by
  have hcontent : status ≠ 204 := by omega
  constructor
  · intro client operation timeout session hnext
    have hhead : session.replies.headD Reply.silence = .answer status body := by
      rw [List.headD_eq_head?_getD, hnext]
      rfl
    rw [client.result_give operation timeout session, hhead, client.result_give]
    refine ⟨?_, ?_, ?_⟩
    · rw [← Reply.fails_with_status_iff operation.method (client.apiUrl ++ operation.path)]
      simp only [bind_eq_provider_iff fun value _ => operation.isLocal_given value,
        Client.valueOf]
    · intro herror container hdeep
      rw [Client.valueOf, Reply.value_of_tooDeep herror hdeep]
      rfl
    · intro hother
      rw [Client.valueOf, Reply.value_of_other_status hother hcontent]
      rfl
  · intro service call context replies request hturn
    have hsupervised : call.isSupervised = true := by
      cases hcall : call.isSupervised with
      | true => rfl
      | false =>
          rw [service.exchanges_of_not_supervised call context replies hcall] at hturn
          cases hturn
    obtain ⟨houtcome, transcript, _, -, hexchanges, hrun⟩ :=
      service.outcome_of_supervised call context replies hsupervised
    rw [hexchanges] at hturn
    rw [houtcome]
    constructor
    · intro herror answer sent hanswered hplain
      rw [Outcome.answered.injEq] at hanswered
      obtain ⟨hchange, error, hvalue, hverdict⟩ :=
        Call.excused_of_run hrun (handled_of_settled hanswered.1 hplain) _ hturn (.inl herror)
      rcases Reply.value_eq_provider_iff.1 hvalue with ⟨report, himpossible, -⟩ |
        ⟨_, _, details, hanswer, -, hdetails, rfl⟩
      · cases himpossible
      · cases hanswer
        exact ⟨hchange, details, hdetails, hverdict⟩
    · intro hother hchange value hvalue
      rw [← Reply.value_of_other_status hother hcontent] at hvalue
      rw [Call.handled_of_value hchange hrun hturn hvalue]
      rfl

/-- A client of a provider. -/
def sampleClient : Client := ⟨"https://a.example", "token", .int 30⟩

/-- An outage fails with its status, and behind a redirection a volume counts as deleted. -/
theorem outage_with_status :
    (∃ error, ((sampleClient.give (.delete (.text "data")) .null).runIn
        { thread := "", replies := [.answer 503 "out of order"] }).1 = .error (.provider error) ∧
      error.status = .int 503) ∧
    ((withToken "token").step (.call (.deleteVolume { volumeId := .text "data" }) {}
        [.answer 302 ""])).1.outcome =
      .answered (.ok { response := .deletion })
        ((withToken "token").requestsOf (.deleteVolume { volumeId := .text "data" }) {}
          [.answer 302 ""]) := by
  have hread : Json.read "out of order" = .error .malformed := by decide +kernel
  have hturn : ((⟨.delete, "https://api.digitalocean.com/v2/volumes/data", .int 30,
        "Bearer token", .none⟩ : Request), Reply.answer 302 "") ∈
      (withToken "token").exchanges (.deleteVolume { volumeId := .text "data" }) {}
        [.answer 302 ""] := by decide +kernel
  obtain ⟨hclient, -⟩ := failed_by_status 503 "out of order" (by decide)
  obtain ⟨-, hcall⟩ := failed_by_status 302 "" (by decide)
  constructor
  · apply (hclient sampleClient (.delete (.text "data")) .null _ rfl).1.2
    refine ⟨by decide, fun container hdeep => ?_⟩
    rw [hread] at hdeep
    cases hdeep
  · exact (hcall _ _ _ _ _ hturn).2 (by decide) rfl (.object []) rfl

/-- An answer that says that nothing was modified is an empty page, behind which a volume is asked
for, and the end of a deletion. -/
theorem notModified_taken :
    ((sampleClient.give (.list (.text "nyc3") .null .null .null) .null).runIn
        { thread := "", replies := [.answer 304 ""] }).1 = .ok (.page ⟨[], none⟩) ∧
    ((withToken "token").requestsOf
        (.createVolume { name := .text "data", capabilities := some [some ⟨.number 1⟩] }) {}
        [.answer 304 ""]).map (·.method) = [.get, .post] ∧
    ((withToken "token").step (.call (.deleteVolume { volumeId := .text "data" }) {}
        [.answer 304 ""])).1.outcome =
      .answered (.ok { response := .deletion })
        ((withToken "token").requestsOf (.deleteVolume { volumeId := .text "data" }) {}
          [.answer 304 ""]) := by
  refine ⟨by decide +kernel, by decide +kernel, ?_⟩
  rw [outcome_call, Outcome.answered.injEq]
  exact ⟨by decide +kernel, rfl⟩

end Service

end VolumePlugin
