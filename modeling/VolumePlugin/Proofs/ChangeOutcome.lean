/-
# What becomes of a change

A call that asks for a change ends well in two ways: the provider carries the change out, or it
refuses because the volume is in the wanted state already. The second is read off the status of the
refusal or the message that comes with it. Both readings are written out here in terms of the answer
itself, so that whether a call ends well can be told from what it asks for and the answer alone.

A refusal with a body that is nested too deeply tells neither its status nor a message. This is the
one place where a volume may be in the wanted state by the status and the call fails nevertheless.
-/
import VolumePlugin.Proofs.AnswerStatus
import VolumePlugin.Proofs.Precedence

namespace VolumePlugin

/-! ## What an answer says -/

/-- A fragment stands in a text, letter case aside. -/
def StandsIn (fragment text : String) : Prop :=
  Text.lower fragment.toList <:+: Text.lower text.toList

/-- A text mentions some of the fragments where one of them stands in it. -/
theorem mentions_iff_exists {fragments : List String} {text : String} :
    mentions (Text.lower text.toList) fragments = true ↔
      ∃ fragment ∈ fragments, StandsIn fragment text := by
  rw [mentions, List.any_eq_true]
  simp only [Text.contains_iff, StandsIn, List.IsInfix]
  simp only [eq_comm]

/-- A text mentions a fragment that stands in it. -/
theorem mentions_iff_standsIn {fragment text : String} :
    mentions (Text.lower text.toList) [fragment] = true ↔ StandsIn fragment text := by
  rw [mentions_iff_exists]
  simp

namespace Reply

variable {body : String} {details : Value}

/-- What the body of an error says: the message that it names, unless this is empty, and else the
whole body. -/
inductive Says (body : String) : Value → Prop
  | message {members : List (String × Value)} {message : Value}
      (hread : Json.read body = .ok (.object members))
      (hmember : Value.member? members "message" = some message)
      (hmessage : message.truthy = true) : Says body message
  | whole
      (hnone : ∀ members message, Json.read body = .ok (.object members) →
        Value.member? members "message" = some message → message.truthy = false) :
      Says body (.text body)

/-- An object says its message. -/
theorem says_of_object {members : List (String × Value)}
    (hread : Json.read body = .ok (.object members)) :
    Says body details ↔ (Value.memberOr members "message" .null).orElse (.text body) = details := by
  constructor
  · intro hsays
    cases hsays with
    | message hread' hmember hmessage =>
        rw [hread] at hread'
        cases hread'
        rw [Value.memberOr, hmember, Option.getD_some, Value.orElse, if_pos hmessage]
    | whole hnone =>
        rw [Value.memberOr, Value.orElse, if_neg]
        cases hmember : Value.member? members "message" with
        | none => decide
        | some message => simp [hnone members message hread hmember]
  · rintro rfl
    have hsame (others : List (String × Value)) (message : Value)
        (hothers : Json.read body = .ok (.object others))
        (hmessage : Value.member? others "message" = some message) :
        Value.member? members "message" = some message := by
      rw [hread] at hothers
      cases hothers
      exact hmessage
    rw [Value.memberOr]
    cases hmember : Value.member? members "message" with
    | none =>
        apply Says.whole
        intro others message hothers hmessage
        have himpossible := hsame others message hothers hmessage
        rw [hmember] at himpossible
        cases himpossible
    | some message =>
        rw [Option.getD_some, Value.orElse]
        split
        · exact .message hread hmember ‹_›
        · rename_i hempty
          apply Says.whole
          intro others other hothers hmessage
          have hfound := hsame others other hothers hmessage
          rw [hmember] at hfound
          cases hfound
          exact Bool.eq_false_iff.2 hempty

/-- Any other body says itself. -/
theorem says_of_other (hother : ∀ members, Json.read body ≠ .ok (.object members)) :
    Says body details ↔ .text body = details := by
  constructor
  · intro hsays
    cases hsays with
    | message hread => exact (hother _ hread).elim
    | whole => rfl
  · rintro rfl
    exact .whole fun members _ hread => (hother members hread).elim

/-- The details of an error are what its body says, unless this is nested too deeply. -/
theorem errorDetails_eq_ok_iff :
    errorDetails body = .ok details ↔
      (∀ container, Json.read body ≠ .error (.tooDeep container)) ∧ Says body details := by
  unfold errorDetails
  cases hread : Json.read body with
  | ok value =>
      cases value with
      | object members => simp [says_of_object hread]
      | _ => simp [says_of_other, hread]
  | error fault =>
      cases fault with
      | malformed => simp [says_of_other, hread]
      | tooDeep container => simp

/-- An error of the provider, with its status and what its body says. -/
def Reports (reply : Reply) (status : Int) (details : Value) : Prop :=
  ∃ body, reply = .answer status body ∧ (400 ≤ status ∧ status < 600) ∧
    (∀ container, Json.read body ≠ .error (.tooDeep container)) ∧ Says body details

/-- An answer reports its own status with its details. -/
theorem reports_answer_iff {status other : Int} :
    (answer status body).Reports other details ↔
      other = status ∧ (400 ≤ status ∧ status < 600) ∧ errorDetails body = .ok details := by
  rw [errorDetails_eq_ok_iff]
  constructor
  · rintro ⟨_, hanswer, herror, hsays⟩
    cases hanswer
    exact ⟨rfl, herror, hsays⟩
  · rintro ⟨rfl, herror, hsays⟩
    exact ⟨body, rfl, herror, hsays⟩

/-- An error is reported for the request that it answers. -/
theorem reports_iff {reply : Reply} {status : Int} (method : Method) (url : String) :
    reply.Reports status details ↔
      reply.value method url =
        .error (.provider ⟨method.name, url, .int status, details⟩) := by
  rw [value_eq_provider_iff]
  constructor
  · rintro ⟨body, rfl, herror, hread, hsays⟩
    exact .inr ⟨status, body, details, rfl, isErrorStatus_eq_true_iff.2 herror,
      errorDetails_eq_ok_iff.2 ⟨hread, hsays⟩, rfl⟩
  · rintro (⟨report, -, himpossible⟩ | ⟨_, body, _, rfl, herror, hdetails, hsame⟩)
    · cases himpossible
    · cases hsame
      exact ⟨body, rfl, isErrorStatus_eq_true_iff.1 herror, errorDetails_eq_ok_iff.1 hdetails⟩

/-- What is said about an error is a text or not empty. -/
theorem Reports.text_or_truthy {reply : Reply} {status : Int}
    (hreports : reply.Reports status details) :
    (∃ text, details = .text text) ∨ details.truthy = true := by
  obtain ⟨body, -, -, hread, hsays⟩ := hreports
  exact text_or_truthy_of_errorDetails (errorDetails_eq_ok_iff.2 ⟨hread, hsays⟩)

/-- An answer that reports no error, with no content or with content that can be read. -/
def CarriesOut (reply : Reply) : Prop :=
  ∃ status body, reply = .answer status body ∧ ¬ (400 ≤ status ∧ status < 600) ∧
    (status = 204 ∨ body = "" ∨ ∃ value, Json.read body = .ok value)

/-- These are the replies that do not end a call. -/
theorem carriesOut_iff {reply : Reply} : reply.CarriesOut ↔ ¬ reply.EndsCall := by
  cases reply with
  | lost report => simp [CarriesOut, EndsCall]
  | broken sort report => simp [CarriesOut, EndsCall]
  | answer status body =>
      simp only [CarriesOut, EndsCall, answer.injEq]
      grind

/-- A reply that does not end a call has a value. -/
theorem value_of_carriesOut {reply : Reply} (hcarries : reply.CarriesOut) (method : Method)
    (url : String) : ∃ value, reply.value method url = .ok value := by
  obtain ⟨status, body, rfl, hnone, hcontent⟩ := hcarries
  rw [← isErrorStatus_eq_true_iff] at hnone
  rw [value, if_neg hnone, content]
  rcases hcontent with rfl | rfl | ⟨value, hread⟩
  · exact ⟨_, if_pos (.inl rfl)⟩
  · exact ⟨_, if_pos (.inr rfl)⟩
  · rw [hread]
    split <;> exact ⟨_, rfl⟩

end Reply

/-! ## Bodies that are nested too deeply -/

namespace Json

/-- Without room a list is nested too deeply. -/
theorem readValue_bracket (fuel : Nat) (rest : List Char) :
    readValue 0 (fuel + 1) ('[' :: rest) = .error (.tooDeep .list) := by
  rw [readValue]
  rfl

/-- Within a list there is room for one list less. -/
theorem readValue_two_brackets (room fuel : Nat) (rest : List Char) :
    readValue (room + 1) (fuel + 2) ('[' :: '[' :: rest) =
      (readItems room (fuel + 1) ('[' :: rest)).map fun (items, left) => (.list items, left) := by
  rw [readValue]
  rfl

/-- More opening brackets than there is room for are nested too deeply. -/
theorem readValue_brackets {room count fuel : Nat} (hroom : room < count)
    (hfuel : 2 * room < fuel) :
    readValue room fuel (List.replicate count '[') = .error (.tooDeep .list) := by
  induction room generalizing count fuel with
  | zero =>
      obtain ⟨count, rfl⟩ : ∃ fewer, count = fewer + 1 := ⟨count - 1, by omega⟩
      obtain ⟨fuel, rfl⟩ : ∃ fewer, fuel = fewer + 1 := ⟨fuel - 1, by omega⟩
      exact readValue_bracket fuel _
  | succ room ih =>
      obtain ⟨count, rfl⟩ : ∃ fewer, count = fewer + 2 := ⟨count - 2, by omega⟩
      obtain ⟨fuel, rfl⟩ : ∃ fewer, fuel = fewer + 2 := ⟨fuel - 2, by omega⟩
      have hdeeper : readValue room fuel (List.replicate (count + 1) '[') =
          .error (.tooDeep .list) := ih (by omega) (by omega)
      rw [List.replicate_succ] at hdeeper
      rw [List.replicate_succ, List.replicate_succ, readValue_two_brackets, readItems, hdeeper]
      rfl

/-- Only so many brackets can be read. -/
theorem read_brackets {count : Nat} (hcount : nestingLimit < count) :
    read (String.ofList (List.replicate count '[')) = .error (.tooDeep .list) := by
  have hfuel : 2 * nestingLimit < 2 * (List.replicate count '[').length + 2 := by
    rw [List.length_replicate]
    omega
  rw [read, String.toList_ofList, readValue_brackets hcount hfuel]

end Json

/-! ## What a call takes for done -/

/-- Details that cannot be read are not looked at where the status means the wanted state, and are a
failure otherwise. -/
theorem ProviderError.classify_of_unread {error : ProviderError} {status : Int} {failure : Failure}
    (hstatus : error.status = .int status) (hunread : error.lowerDetails = .error failure)
    (fragments : List String) :
    error.classify fragments =
      if fragments ≠ [] ∧ status = 422 then .ok .alreadyInDesiredState else .error failure := by
  rw [classify_of_answer hstatus, hunread]
  rfl

/-- A failed request without a class is a failure of the change. -/
theorem changeVerdict_of_unclassified {error : ProviderError} {fragments : List String}
    {failure : Failure} (hclass : error.classify fragments = .error failure) (wanted : ErrorClass) :
    changeVerdict fragments wanted (.error (.provider error)) = .error failure := by
  rw [changeVerdict, hclass]
  rfl

namespace Call

/-- Whether a call takes an error for the end that it wants: there is no volume to delete, or the
volume is attached or detached already, by the status or by what is said. -/
def TakesForDone (call : Call) (status : Int) (details : Value) : Prop :=
  match call with
  | .deleteVolume _ =>
    ∃ text, details = .text text ∧ (status = 404 ∨ StandsIn notFoundFragment text)
  | .publishVolume _ =>
    status = 422 ∨ ∃ text, details = .text text ∧ StandsIn alreadyAttachedFragment text
  | .unpublishVolume _ =>
    status = 422 ∨ ∃ text, details = .text text ∧ StandsIn attachmentNotFoundFragment text
  | _ => False

/-- Of a text it takes for done what it excuses. -/
theorem takesForDone_text_iff {call : Call} {status : Int} {text : String} :
    call.TakesForDone status (.text text) ↔ call.excuses status text = true := by
  cases call <;> simp [TakesForDone, excuses, mentions_iff_standsIn]

/-- The verdict on an error is by its status and details. -/
theorem verdictOn_eq_ok_iff {call : Call} {error : ProviderError} {status : Int}
    (hstatus : error.status = .int status)
    (hdetails : (∃ text, error.details = .text text) ∨ error.details.truthy = true) :
    call.verdictOn error = .ok () ↔ call.TakesForDone status error.details := by
  by_cases htext : ∃ text, error.details = .text text
  · obtain ⟨text, htext⟩ := htext
    rw [call.verdictOn_of_text hstatus htext, htext, takesForDone_text_iff]
    split <;> simp [*]
  · -- What is no text cannot be read, which leaves the status alone to go by.
    have hunread : ∃ failure, error.lowerDetails = .error failure := by
      cases hlowered : error.lowerDetails with
      | ok lowered =>
          exact (htext (ProviderError.text_of_lowerDetails hlowered
            (hdetails.resolve_left htext))).elim
      | error failure => exact ⟨failure, rfl⟩
    obtain ⟨failure, hunread⟩ := hunread
    have hclass := ProviderError.classify_of_unread hstatus hunread
    have hnone (P : String → Prop) : ¬ ∃ text, error.details = .text text ∧ P text := by
      rintro ⟨text, hsame, -⟩
      exact htext ⟨text, hsame⟩
    have hattachment (fragment : String) :
        changeVerdict [fragment] .alreadyInDesiredState (.error (.provider error)) = .ok () ↔
          status = 422 := by
      by_cases hstate : status = 422
      · have hfound : error.classify [fragment] = .ok .alreadyInDesiredState := by
          rw [hclass, if_pos ⟨List.cons_ne_nil _ _, hstate⟩]
        simp [changeVerdict_of_class hfound, hstate]
      · have hfailed : error.classify [fragment] = .error failure := by
          rw [hclass, if_neg fun hboth => hstate hboth.2]
        simp [changeVerdict_of_unclassified hfailed, hstate]
    cases call with
    | deleteVolume =>
        have hfailed : error.classify [] = .error failure := by
          rw [hclass, if_neg fun hboth => hboth.1 rfl]
        rw [verdictOn, changeVerdict_of_unclassified hfailed, TakesForDone]
        simp [hnone]
    | publishVolume | unpublishVolume =>
        rw [verdictOn, hattachment, TakesForDone, or_iff_left (hnone _)]
    | _ => simp [verdictOn, TakesForDone]

end Call

/-! ## What a call asks to change -/

namespace Call

/-- A call asks for an operation in a region. -/
def Changes (call : Call) (region : Value) (operation : Operation) : Prop :=
  match call with
  | .deleteVolume request => request.operation = .ok operation
  | .publishVolume request => request.operation region = .ok operation
  | .unpublishVolume request => request.operation region = .ok operation
  | _ => False

variable {call : Call}

/-- A call for a change asks the provider. -/
theorem asksProvider_of_change (hchange : call.asksForChange = true) :
    call.asksProvider = true := by
  cases call with
  | deleteVolume | publishVolume | unpublishVolume => rfl
  | _ => cases hchange

/-- A call for a change is supervised. -/
theorem isSupervised_of_change (hchange : call.asksForChange = true) :
    call.isSupervised = true := by
  cases call with
  | deleteVolume | publishVolume | unpublishVolume => rfl
  | _ => cases hchange

/-- A call for a change is valid where it asks for an operation, in whatever region. -/
theorem validation_eq_ok_iff (hchange : call.asksForChange = true) (region : Value) :
    call.validation = .ok () ↔ ∃ operation, call.Changes region operation := by
  have hmap (asked : Except Failure Operation) :
      (asked.map fun _ => ()) = .ok () ↔ ∃ operation, asked = .ok operation := by
    cases asked <;> simp [Except.map]
  cases call with
  | deleteVolume request => rw [request.validation_eq, hmap]; rfl
  | publishVolume request => rw [request.validation_eq region, hmap]; rfl
  | unpublishVolume request => rw [request.validation_eq region, hmap]; rfl
  | _ => cases hchange

/-- A call asks for one operation. -/
theorem Changes.unique {region : Value} {operation other : Operation}
    (hasked : call.Changes region operation) (hother : call.Changes region other) :
    other = operation := by
  cases call with
  | deleteVolume | publishVolume | unpublishVolume =>
      exact Except.ok.inj (hother.symm.trans hasked)
  | _ => exact hasked.elim

/-- A call for a change sends the request of the operation that it asks for, or none. -/
theorem turns_of_change (hchange : call.asksForChange = true) {setting : Setting}
    {transcript : List Event} {handled : Except Failure Answer}
    (hrun : call.Run setting transcript handled) :
    exchangesOf transcript = [] ∨
      ∃ operation client timeout reply, call.Changes setting.region operation ∧
        setting.clientRule = .ok client ∧
        exchangesOf transcript = [(client.request operation timeout, reply)] := by
  cases call with
  | deleteVolume | publishVolume | unpublishVolume =>
      obtain ⟨outcome, hrun, -⟩ := hrun
      exact hrun.turns
  | _ => cases hchange

/-- What a call for a change looks at before it asks the provider. -/
theorem preflight_of_change (hchange : call.asksForChange = true) {setting : Setting}
    {client : Client} (hclient : setting.clientRule = .ok client) (context : CallContext) :
    call.preflight setting context = (do
      call.validation
      client.timeFor call.name context.clock.now) := by
  rw [preflight, hclient]
  cases call with
  | deleteVolume | publishVolume | unpublishVolume => rfl
  | _ => cases hchange

end Call

/-! ## Calls that end well -/

namespace Service

variable (service : Service) (call : Call) (context : CallContext) (replies : List Reply)

/-- A call answers without a status. -/
def EndsWell : Prop :=
  ∃ answer sent, (service.step (.call call context replies)).1.outcome =
    .answered (.ok answer) sent ∧ answer.status = none

variable {call}

/-- A call for a change that sends anything sends the request of its operation, which the first
reply answers. -/
theorem exchanges_of_change (hchange : call.asksForChange = true)
    (hsends : service.requestsOf call context replies ≠ []) :
    ∃ operation client timeout, call.Changes service.region operation ∧
      service.setting.clientRule = .ok client ∧
      service.requestsOf call context replies = [client.request operation timeout] ∧
      service.exchanges call context replies =
        [(client.request operation timeout, replies.headD Reply.silence)] := by
  obtain ⟨-, transcript, _, -, hexchanges, hrun⟩ :=
    service.outcome_of_supervised call context replies (Call.isSupervised_of_change hchange)
  have hsent := service.map_fst_exchanges call context replies
  rcases Call.turns_of_change hchange hrun with
    hnone | ⟨operation, client, timeout, reply, hasked, hclient, hone⟩
  · rw [hexchanges, hnone] at hsent
    exact (hsends hsent.symm).elim
  · rw [hexchanges, hone] at hsent
    refine ⟨operation, client, timeout, hasked, hclient, hsent.symm, ?_⟩
    rw [exchanges, ← hsent, List.headD_eq_head?_getD, List.head?_eq_getElem?]
    rfl

/-- A call for a change ends well where the provider carries out what it asks for, or answers with
an error that the call takes for done. -/
theorem endsWell_iff_of_turn (hchange : call.asksForChange = true) {request : Request}
    {reply : Reply} (hturn : (request, reply) ∈ service.exchanges call context replies) :
    service.EndsWell call context replies ↔
      reply.CarriesOut ∨
        ∃ status details, reply.Reports status details ∧ call.TakesForDone status details := by
  obtain ⟨houtcome, transcript, _, -, hexchanges, hrun⟩ :=
    service.outcome_of_supervised call context replies (Call.isSupervised_of_change hchange)
  constructor
  · rintro ⟨answer, sent, hanswered, hplain⟩
    rw [houtcome, Outcome.answered.injEq] at hanswered
    have hhandled := handled_of_settled hanswered.1 hplain
    by_cases hends : reply.EndsCall
    · right
      rw [hexchanges] at hturn
      obtain ⟨-, error, hvalue, hverdict⟩ := Call.excused_of_run hrun hhandled _ hturn hends
      rcases Reply.value_eq_provider_iff.1 hvalue with ⟨report, -, rfl⟩ |
        ⟨status, _, details, -, -, -, rfl⟩
      · rw [call.verdictOn_of_lost rfl] at hverdict
        cases hverdict
      · have hreports := (Reply.reports_iff _ _).2 hvalue
        exact ⟨status, details, hreports,
          (Call.verdictOn_eq_ok_iff rfl hreports.text_or_truthy).1 hverdict⟩
    · exact .inl (Reply.carriesOut_iff.2 hends)
  · rintro (hcarries | ⟨status, details, hreports, hdone⟩)
    · obtain ⟨value, hvalue⟩ := Reply.value_of_carriesOut hcarries request.method request.url
      rw [hexchanges] at hturn
      rw [EndsWell, houtcome, Call.handled_of_value hchange hrun hturn hvalue]
      exact ⟨_, _, rfl, rfl⟩
    · obtain ⟨i, hi⟩ := List.mem_iff_getElem?.1 hturn
      have hvalue := (Reply.reports_iff request.method request.url).1 hreports
      have hverdict :
          call.verdictOn ⟨request.method.name, request.url, .int status, details⟩ = .ok () :=
        (Call.verdictOn_eq_ok_iff rfl hreports.text_or_truthy).2 hdone
      rw [EndsWell, service.outcome_of_failed call context replies hi hvalue, hverdict]
      exact ⟨_, _, rfl, rfl⟩

/-- A valid call for a change with a client and time sends the request of its operation, which the
first reply answers. -/
theorem exchanges_of_valid (hchange : call.asksForChange = true) {client : Client}
    {timeout : Value} (hclient : service.setting.clientRule = .ok client)
    (htime : client.timeFor call.name context.clock.now = .ok timeout) {operation : Operation}
    (hasked : call.Changes service.region operation) :
    ∃ timeout, service.requestsOf call context replies = [client.request operation timeout] ∧
      service.exchanges call context replies =
        [(client.request operation timeout, replies.headD Reply.silence)] := by
  have hvalid := (Call.validation_eq_ok_iff hchange service.region).2 ⟨operation, hasked⟩
  have hasks := Call.asksProvider_of_change hchange
  have hsends : service.requestsOf call context replies ≠ [] := by
    rw [service.requestsOf_ne_nil_iff context replies hasks,
      Call.preflight_of_change hchange hclient, hvalid, ok_bind, htime]
    exact ⟨timeout, rfl⟩
  obtain ⟨other, otherClient, requestTime, hother, hotherClient, hsent, hone⟩ :=
    service.exchanges_of_change context replies hchange hsends
  rw [hclient] at hotherClient
  cases hotherClient
  rw [hasked.unique hother] at hsent hone
  exact ⟨requestTime, hsent, hone⟩

/-- A call for a change ends well where it asks for an operation and the provider carries it out, or
answers with an error that the call takes for done. -/
theorem endsWell_iff (hchange : call.asksForChange = true) {client : Client} {timeout : Value}
    (hclient : service.setting.clientRule = .ok client)
    (htime : client.timeFor call.name context.clock.now = .ok timeout) :
    service.EndsWell call context replies ↔
      (∃ operation, call.Changes service.region operation) ∧
      ((replies.headD Reply.silence).CarriesOut ∨
        ∃ status details, (replies.headD Reply.silence).Reports status details ∧
          call.TakesForDone status details) := by
  have hasks := Call.asksProvider_of_change hchange
  have hvalidation := Call.validation_eq_ok_iff hchange service.region
  cases hvalid : call.validation with
  | error failure =>
      have hrefused := (service.outcome_of_preflight context replies hasks).1 failure (by
        rw [Call.preflight_of_change hchange hclient, hvalid, error_bind])
      rw [← hvalidation, hvalid]
      simp [EndsWell, hrefused, Failure.answer]
  | ok _ =>
      have hasked := hvalidation.1 hvalid
      have ⟨operation, hoperation⟩ := hasked
      obtain ⟨_, -, hone⟩ :=
        service.exchanges_of_valid context replies hchange hclient htime hoperation
      rw [and_iff_right hasked]
      apply service.endsWell_iff_of_turn context replies hchange
      rw [hone]
      exact List.mem_cons_self

/-- A call for a change that hears an error with a body that is nested too deeply fails inside,
whatever the status of the error. -/
theorem outcome_of_nested (hchange : call.asksForChange = true) {client : Client} {timeout : Value}
    (hclient : service.setting.clientRule = .ok client)
    (htime : client.timeFor call.name context.clock.now = .ok timeout) {operation : Operation}
    (hasked : call.Changes service.region operation) {status : Int} {body : String}
    {container : Json.Container} (hheard : replies.headD Reply.silence = .answer status body)
    (herror : 400 ≤ status ∧ status < 600) (hdeep : Json.read body = .error (.tooDeep container)) :
    (service.step (.call call context replies)).1.outcome =
      .answered (.ok {
          response := call.emptyResponse
          status := some .internal
          details := some (Failure.nestedTooDeep container).message })
        (service.requestsOf call context replies) := by
  obtain ⟨requestTime, -, hone⟩ :=
    service.exchanges_of_valid context replies hchange hclient htime hasked
  obtain ⟨houtcome, transcript, _, -, hexchanges, hrun⟩ :=
    service.outcome_of_supervised call context replies (Call.isSupervised_of_change hchange)
  have hturn : (client.request operation requestTime, Reply.answer status body) ∈
      exchangesOf transcript := by
    rw [← hexchanges, hone, hheard]
    exact List.mem_cons_self
  rw [houtcome]
  cases call with
  | deleteVolume | publishVolume | unpublishVolume =>
      obtain ⟨outcome, hrun, hhandled⟩ := hrun
      rw [hhandled, hrun.result_of_turn hturn, Reply.value_of_tooDeep herror hdeep]
      rfl
  | _ => cases hchange

/-- An error that a call does not take for done is reported with the text that it says. -/
theorem outcome_of_text {i : Nat} {request : Request} {reply : Reply} {status : Int} {text : String}
    (hturn : (service.exchanges call context replies)[i]? = some (request, reply))
    (hreports : reply.Reports status (.text text))
    (hundone : ¬ call.TakesForDone status (.text text)) :
    (service.step (.call call context replies)).1.outcome =
      .answered (.ok {
          response := call.emptyResponse
          status := some (failedStatus status text)
          details := some (ProviderError.message
            ⟨request.method.name, request.url, .int status, .text text⟩) })
        (service.requestsOf call context replies) := by
  have hvalue := (Reply.reports_iff request.method request.url).1 hreports
  have hstatus : Failure.statusRule
      (.provider ⟨request.method.name, request.url, .int status, .text text⟩) =
        .ok (failedStatus status text) := by
    obtain ⟨body, -, herror, -⟩ := hreports
    exact Failure.statusRule_of_text rfl rfl herror.1
  rw [Call.takesForDone_text_iff] at hundone
  rw [service.outcome_of_failed call context replies hturn hvalue, call.verdictOn_of_text rfl rfl,
    if_neg hundone, Except.map, settled, hstatus]
  rfl

end Service

end VolumePlugin
