/-
# Failed requests

A request that fails is the last one of its call, and the call answers for it alone: by a status
that the reply decides, with the wording of the failed request as details, and with none of what was
read before. An error is classified twice, by the handler of a change, which looks whether the
change was made already, and again where the status of the answer is found, for which no state is
wanted. Both times the class is read from one table of statuses and details.
-/
import VolumePlugin.Proofs.Answering
import VolumePlugin.Proofs.RequestOrder

namespace VolumePlugin

/-! ## Classes of answers -/

namespace ProviderError

/-- The class of an answer by its status and a text. -/
def classOfText (fragments : List String) (status : Int) (details : String) : ErrorClass :=
  if fragments ≠ [] ∧ status = 422 ∨ mentions (Text.lower details.toList) fragments = true then
    .alreadyInDesiredState
  else if status = 404 ∨ mentions (Text.lower details.toList) [notFoundFragment] = true then
    .notFound
  else if status = 429 ∨ 500 ≤ status then .transient
  else if 400 ≤ status then .permanent
  else .unknown

variable {error : ProviderError} {status : Int} {details : String}

/-- An answer whose details are a text has a class. -/
theorem classify_of_text (hstatus : error.status = .int status)
    (hdetails : error.details = .text details) (fragments : List String) :
    error.classify fragments = .ok (classOfText fragments status details) := by
  rw [classify_of_answer hstatus, lowerDetails_of_text hdetails, ok_bind, classOfText]
  by_cases hwanted : fragments ≠ [] ∧ status = 422
  · rw [if_pos hwanted, if_pos (.inl hwanted)]
  · rw [if_neg hwanted]
    by_cases hfragment : mentions (Text.lower details.toList) fragments = true
    · rw [if_pos hfragment, if_pos (.inr hfragment)]
      rfl
    · rw [if_neg hfragment, if_neg (not_or.2 ⟨hwanted, hfragment⟩), classOfDetails]
      by_cases hmissing : mentions (Text.lower details.toList) [notFoundFragment] = true
      · rw [if_pos hmissing, if_pos (.inr hmissing)]
      · rw [if_neg hmissing, classOfStatus_int]
        simp only [hmissing, or_false, Bool.false_eq_true]

end ProviderError

/-- The status of a call that an answer has ended. -/
def failedStatus (status : Int) (details : String) : Status :=
  if status = 404 ∨ mentions (Text.lower details.toList) [notFoundFragment] = true then .notFound
  else if status = 429 ∨ 500 ≤ status then .unavailable
  else .failedPrecondition

/-- The status of a failed request by its answer. -/
theorem Failure.statusRule_of_text {error : ProviderError} {status : Int} {details : String}
    (hstatus : error.status = .int status) (hdetails : error.details = .text details)
    (herror : 400 ≤ status) :
    (Failure.provider error).statusRule = .ok (failedStatus status details) := by
  have hclass : (error.classify [] >>= fun found => pure found.status : Except Failure Status) =
      .ok (ProviderError.classOfText [] status details).status := by
    rw [ProviderError.classify_of_text hstatus hdetails]
    rfl
  have hnone : ¬ (([] : List String) ≠ [] ∧ status = 422 ∨
      mentions (Text.lower details.toList) [] = true) := by
    simp [mentions]
  rw [statusRule, hclass, ProviderError.classOfText, failedStatus, if_neg hnone, if_pos herror]
  split
  · rfl
  · split <;> rfl

/-! ## Errors that are no failures -/

/-- Whether a call takes an answer for success: there is no volume to delete, or the volume is
attached or detached already. -/
def Call.excuses (call : Call) (status : Int) (details : String) : Bool :=
  match call with
  | .deleteVolume _ =>
    status = 404 || mentions (Text.lower details.toList) [notFoundFragment]
  | .publishVolume _ =>
    status = 422 || mentions (Text.lower details.toList) [alreadyAttachedFragment]
  | .unpublishVolume _ =>
    status = 422 || mentions (Text.lower details.toList) [attachmentNotFoundFragment]
  | _ => false

/-- What the handler of a call makes of a failed request. -/
def Call.verdictOn (call : Call) (error : ProviderError) : Except Failure Unit :=
  match call with
  | .deleteVolume _ => changeVerdict [] .notFound (.error (.provider error))
  | .publishVolume _ =>
    changeVerdict [alreadyAttachedFragment] .alreadyInDesiredState (.error (.provider error))
  | .unpublishVolume _ =>
    changeVerdict [attachmentNotFoundFragment] .alreadyInDesiredState (.error (.provider error))
  | _ => .error (.provider error)

/-- A failed request of a class is a failure unless the class is wanted. -/
theorem changeVerdict_of_class {error : ProviderError} {fragments : List String}
    {found : ErrorClass} (hfound : error.classify fragments = .ok found) (wanted : ErrorClass) :
    changeVerdict fragments wanted (.error (.provider error)) =
      if found = wanted then .ok () else .error (.provider error) := by
  rw [changeVerdict, hfound, ok_bind]
  by_cases hwanted : found = wanted
  · rw [if_neg (not_not.2 hwanted), if_pos hwanted]
    rfl
  · rw [if_pos hwanted, if_neg hwanted]
    rfl

/-- A lost request is a failure of every call. -/
theorem Call.verdictOn_of_lost (call : Call) {error : ProviderError}
    (hstatus : error.status = .null) : call.verdictOn error = .error (.provider error) := by
  have hclass (fragments : List String) : error.classify fragments = .ok .transient := by
    rw [ProviderError.classify, hstatus]
    rfl
  cases call with
  | deleteVolume | publishVolume | unpublishVolume =>
      exact changeVerdict_of_class (hclass _) _
  | _ => rfl

/-- An answer is a failure of a call that does not take it for success. -/
theorem Call.verdictOn_of_text (call : Call) {error : ProviderError} {status : Int}
    {details : String} (hstatus : error.status = .int status)
    (hdetails : error.details = .text details) :
    call.verdictOn error =
      if call.excuses status details = true then .ok () else .error (.provider error) := by
  have hclass (fragments : List String) :=
    ProviderError.classify_of_text hstatus hdetails fragments
  have hmissing : ProviderError.classOfText [] status details = .notFound ↔
      status = 404 ∨ mentions (Text.lower details.toList) [notFoundFragment] = true := by
    have hnone : mentions (Text.lower details.toList) [] = false := rfl
    rw [ProviderError.classOfText, hnone]
    grind
  have hstate (fragment : String) :
      ProviderError.classOfText [fragment] status details = .alreadyInDesiredState ↔
        status = 422 ∨ mentions (Text.lower details.toList) [fragment] = true := by
    rw [ProviderError.classOfText]
    grind
  cases call with
  | deleteVolume =>
      rw [verdictOn, changeVerdict_of_class (hclass _)]
      simp only [hmissing, excuses, Bool.or_eq_true, decide_eq_true_eq]
  | publishVolume | unpublishVolume =>
      rw [verdictOn, changeVerdict_of_class (hclass _)]
      simp only [hstate, excuses, Bool.or_eq_true, decide_eq_true_eq]
  | _ => rfl

/-! ## Calls that a failed request ends -/

section Ended

variable {setting : Setting} {transcript : List Event} {request : Request} {reply : Reply}
  {error : ProviderError}

/-- A change is decided by the reply to its request. -/
theorem ChangeCallRun.result_of_turn {call : String} {fragments : List String}
    {wanted : ErrorClass} {asked : Except Failure Operation} {response : Response}
    {result : Except Failure Response}
    (hrun : ChangeCallRun setting call fragments wanted asked response transcript result)
    (hturn : (request, reply) ∈ exchangesOf transcript) :
    result = (changeVerdict fragments wanted (reply.value request.method request.url)).map
      fun _ => response := by
  cases hrun with
  | invalid | unready => cases hturn
  | changed _ _ hrun =>
      cases hrun with
      | late => cases hturn
      | asked =>
          simp only [exchangesOf_clock, exchangesOf_exchange, exchangesOf_nil, List.mem_singleton,
            Prod.mk.injEq] at hturn
          obtain ⟨rfl, rfl⟩ := hturn
          rfl

/-- A call that a failed request ends has the verdict on this request for its result. -/
theorem Call.result_of_failed {call : Call} {handled : Except Failure Answer}
    (hrun : call.Run setting transcript handled)
    (hlast : (exchangesOf transcript).getLast? = some (request, reply))
    (hvalue : reply.value request.method request.url = .error (.provider error)) :
    handled = (call.verdictOn error).map fun _ => { response := call.emptyResponse } := by
  have hreported {outcome : Except Failure Response} (hreports : ReportsLast transcript outcome) :
      outcome = .error (.provider error) :=
    (hreports error).2 ⟨request, reply, hlast, hvalue⟩
  cases call with
  | createVolume asked =>
      obtain ⟨outcome, hrun, rfl⟩ := hrun
      rw [hreported hrun.reportsLast]
      rfl
  | listVolumes asked =>
      obtain ⟨outcome, hrun, rfl⟩ := hrun
      rw [hreported hrun.reportsLast]
      rfl
  | deleteVolume asked | publishVolume asked | unpublishVolume asked =>
      obtain ⟨outcome, hrun, rfl⟩ := hrun
      rw [hrun.result_of_turn (List.mem_of_getLast? hlast), hvalue]
      simp only [verdictOn, emptyResponse]
      cases changeVerdict _ _ (.error (.provider error)) <;> rfl
  | _ =>
      rw [hrun.1] at hlast
      cases hlast

end Ended

/-- A request that failed ends its call. -/
theorem Reply.endsCall_of_provider {method : Method} {url : String} {reply : Reply}
    {error : ProviderError} (hvalue : reply.value method url = .error (.provider error)) :
    reply.EndsCall := by
  rcases Reply.value_eq_provider_iff.1 hvalue with ⟨report, rfl, -⟩ |
    ⟨status, body, details, rfl, hstatus, -, -⟩
  · trivial
  · left
    simpa [Reply.isErrorStatus] using hstatus

namespace Service

variable (service : Service) (call : Call) (context : CallContext) (replies : List Reply)

/-- A call with a request that failed, at whatever place, answers by the verdict on this request. -/
theorem outcome_of_failed {i : Nat} {request : Request} {reply : Reply} {error : ProviderError}
    (hturn : (service.exchanges call context replies)[i]? = some (request, reply))
    (hvalue : reply.value request.method request.url = .error (.provider error)) :
    (service.step (.call call context replies)).1.outcome =
      .answered (settled call.emptyResponse
          ((call.verdictOn error).map fun _ => { response := call.emptyResponse }))
        (service.requestsOf call context replies) := by
  have hlast : (service.exchanges call context replies).getLast? = some (request, reply) :=
    (service.maySend call context replies).2.getLast?_eq hturn (Reply.endsCall_of_provider hvalue)
  by_cases hsupervised : call.isSupervised = true
  · obtain ⟨houtcome, transcript, after, -, hexchanges, hrun⟩ :=
      service.outcome_of_supervised call context replies hsupervised
    rw [hexchanges] at hlast
    rw [houtcome, Call.result_of_failed hrun hlast hvalue]
  · rw [Bool.not_eq_true] at hsupervised
    rw [service.exchanges_of_not_supervised call context replies hsupervised] at hlast
    cases hlast

end Service

end VolumePlugin
