/-
# The time of requests

A call asks the caller how much time is left before each of its requests, and gives the request
this time or the time of the configuration, whichever is less. Where none is left it sends nothing
more and is answered with the deadline.

That a call gets to asking for a request is said by comparison: there are times with which it
sends the request. A call of which the times run out earlier goes the same way up to there, since
nothing but its own questions for the time tells the two apart.
-/
import VolumePlugin.Proofs.Precedence
import VolumePlugin.Proofs.RequestOrder

namespace VolumePlugin

open VolumePlugin.Action

/-! ## What the clock tells -/

/-- What a cue tells at a place, where its last value is repeated. -/
def Cue.told {α : Type} (cue : Cue α) (i : Nat) : α :=
  (cue.values[i]?).getD (cue.later.getLastD cue.now)

theorem Cue.told_zero {α : Type} (cue : Cue α) : cue.told 0 = cue.next.1 :=
  cue.fst_next.symm

/-- What a cue tells behind its first value is what it tells once this has been told. -/
theorem Cue.told_succ {α : Type} (cue : Cue α) (i : Nat) :
    cue.told (i + 1) = cue.next.2.told i := by
  obtain ⟨now, later⟩ := cue
  cases later with
  | nil => cases i <;> rfl
  | cons following later =>
      simp only [told, next, values, List.getElem?_cons_succ, List.getLastD_cons]

/-- A cue tells one of its values at every place. -/
theorem Cue.told_mem_values {α : Type} (cue : Cue α) (i : Nat) : cue.told i ∈ cue.values := by
  induction i generalizing cue with
  | zero =>
      rw [told_zero]
      exact cue.mem_values_of_next.1
  | succ i ih =>
      rw [told_succ]
      exact cue.mem_values_of_next.2 _ (ih cue.next.2)

/-- What the clock told in an event. -/
def Event.clock? : Event → Option Value
  | .clock left => some left
  | _ => none

/-- What the clock told in a transcript. -/
def clocksOf (transcript : List Event) : List Value :=
  transcript.filterMap Event.clock?

/-- The clock of a session tells its values in their order. -/
theorem Session.Leads.clocks {before after : Session} {transcript : List Event}
    (hleads : before.Leads transcript after) {i : Nat} {left : Value}
    (hleft : (clocksOf transcript)[i]? = some left) : left = before.clock.told i := by
  induction transcript generalizing before i with
  | nil => cases hleft
  | cons event rest ih =>
      cases event with
      | activity waits => exact ih hleads.2 hleft
      | exchange request reply => exact ih hleads.2 hleft
      | clock first =>
          cases i with
          | zero =>
              cases hleft
              rw [Cue.told_zero]
              exact hleads.1.symm
          | succ i =>
              rw [Cue.told_succ]
              exact ih hleads.2 hleft

/-! ## Questions and requests in turn -/

/-- Whether an operation is asked for in a region, as far as it names one. -/
def Operation.IsIn (region : Value) : Operation → Prop
  | .list named .. => named = region
  | .create named .. => named = region
  | .delete _ => True
  | .attach _ _ named => named = region
  | .detach _ _ named => named = region

/-- The events of a call that has a client: each request follows on a question for its time, and a
question that leaves none stands last. -/
inductive Paced (setting : Setting) (client : Client) (call : String) : List Event → Prop
  | none : Paced setting client call []
  | activity {waits : Bool} {rest : List Event} (hrest : Paced setting client call rest) :
      Paced setting client call (.activity waits :: rest)
  | late {left : Value} {failure : Failure} (htime : client.timeFor call left = .error failure) :
      Paced setting client call [.clock left]
  | asked {left timeout : Value} {operation : Operation} {reply : Reply} {rest : List Event}
      (htime : client.timeFor call left = .ok timeout) (hregion : operation.IsIn setting.region)
      (hrest : Paced setting client call rest) :
      Paced setting client call
        (.clock left :: .exchange (client.request operation timeout) reply :: rest)

section Turns

variable {setting : Setting} {client : Client} {transcript : List Event}

/-- The request at a place has the time that the clock told at this place. -/
theorem Paced.turn {call : String} (hpaced : Paced setting client call transcript) {i : Nat}
    {pair : Request × Reply} (hpair : (exchangesOf transcript)[i]? = some pair) :
    ∃ left timeout operation, (clocksOf transcript)[i]? = some left ∧
      client.timeFor call left = .ok timeout ∧ operation.IsIn setting.region ∧
      pair.1 = client.request operation timeout := by
  induction hpaced generalizing i with
  | none => cases hpair
  | activity _ ih => exact ih hpair
  | late _ => cases hpair
  | @asked left timeout operation reply rest htime hregion _ ih =>
      cases i with
      | zero =>
          cases hpair
          exact ⟨left, timeout, operation, rfl, htime, hregion, rfl⟩
      | succ i => exact ih hpair

theorem NewVolumeRun.paced {name gigabytes : Value} {result : Except Failure Response}
    (hrun : NewVolumeRun setting client name gigabytes transcript result) :
    Paced setting client "CreateVolume" transcript := by
  cases hrun with
  | cancelled => exact .activity .none
  | late htime => exact .activity (.late htime)
  | asked htime => exact .activity (.asked htime rfl .none)

theorem CreationRun.paced {request : CreateVolumeRequest} {result : Except Failure Response}
    (hrun : CreationRun request setting transcript result) :
    transcript = [] ∨
      ∃ client, setting.clientRule = .ok client ∧
        Paced setting client "CreateVolume" transcript := by
  cases hrun with
  | invalid | unready => exact .inl rfl
  | late _ hclient htime => exact .inr ⟨_, hclient, .late htime⟩
  | @listed name gigabytes client left timeout reply rest _ _ hclient htime hrest =>
      right
      refine ⟨client, hclient, .asked htime rfl ?_⟩
      cases hrest with
      | unlisted | unfit | found => exact .none
      | absent _ _ hrest => exact hrest.paced

theorem PagesRun.paced {perPage : Value} {page : Int} {result : Except Failure (List Volume × Int)}
    (hrun : PagesRun setting client perPage page transcript result) :
    Paced setting client "ListVolumes" transcript := by
  induction hrun with
  | cancelled => exact .activity .none
  | late htime => exact .activity (.late htime)
  | failed htime | finished htime => exact .activity (.asked htime rfl .none)
  | goOn htime _ _ ih => exact .activity (.asked htime rfl ih)

theorem ChangeCallRun.paced {call : String} {fragments : List String} {wanted : ErrorClass}
    {asked : Except Failure Operation} {response : Response} {result : Except Failure Response}
    (hrun : ChangeCallRun setting call fragments wanted asked response transcript result)
    (hasked : ∀ operation, asked = .ok operation → operation.IsIn setting.region) :
    transcript = [] ∨
      ∃ client, setting.clientRule = .ok client ∧ Paced setting client call transcript := by
  cases hrun with
  | invalid | unready => exact .inl rfl
  | changed hoperation hclient hrun =>
      right
      cases hrun with
      | late htime => exact ⟨_, hclient, .late htime⟩
      | asked htime => exact ⟨_, hclient, .asked htime (hasked _ hoperation) .none⟩

/-- A call without events has sent nothing, and any other has a client that it asks in turn with
the caller. -/
theorem Call.paced_of_run {call : Call} {handled : Except Failure Answer}
    (hrun : call.Run setting transcript handled) :
    transcript = [] ∨
      ∃ client, setting.clientRule = .ok client ∧ Paced setting client call.name transcript := by
  cases call with
  | createVolume request =>
      obtain ⟨outcome, hrun, -⟩ := hrun
      exact hrun.paced
  | listVolumes request =>
      obtain ⟨outcome, hrun, -⟩ := hrun
      cases hrun with
      | invalid | unready => exact .inl rfl
      | listed _ hclient hrun => exact .inr ⟨_, hclient, hrun.paced⟩
  | deleteVolume request =>
      obtain ⟨outcome, hrun, -⟩ := hrun
      refine hrun.paced fun operation hasked => ?_
      rw [DeleteVolumeRequest.operation_eq_ok hasked]
      trivial
  | publishVolume request =>
      obtain ⟨outcome, hrun, -⟩ := hrun
      refine hrun.paced fun operation hasked => ?_
      obtain ⟨dropletId, rfl⟩ := PublishVolumeRequest.operation_eq_ok hasked
      rfl
  | unpublishVolume request =>
      obtain ⟨outcome, hrun, -⟩ := hrun
      refine hrun.paced fun operation hasked => ?_
      obtain ⟨dropletId, rfl⟩ := UnpublishVolumeRequest.operation_eq_ok hasked
      rfl
  | _ => exact .inl hrun.1

end Turns

/-- The request of a call at a place is one of the client, in the region of the service and with the
time that the caller's answer at this place leaves. -/
theorem Service.request_of_call (service : Service) (call : Call) (context : CallContext)
    (replies : List Reply) {i : Nat} {request : Request}
    (hrequest : (service.requestsOf call context replies)[i]? = some request) :
    ∃ client timeout operation, service.setting.clientRule = .ok client ∧
      client.timeFor call.name (context.clock.told i) = .ok timeout ∧
      operation.IsIn service.region ∧ request = client.request operation timeout := by
  rw [← map_fst_exchanges, List.getElem?_map] at hrequest
  obtain ⟨pair, hpair, rfl⟩ := Option.map_eq_some_iff.1 hrequest
  by_cases hsupervised : call.isSupervised = true
  · obtain ⟨-, transcript, after, hleads, hexchanges, hrun⟩ :=
      service.outcome_of_supervised call context replies hsupervised
    rw [hexchanges] at hpair
    rcases Call.paced_of_run hrun with rfl | ⟨client, hclient, hpaced⟩
    · cases hpair
    · obtain ⟨left, timeout, operation, hleft, htime, hregion, hpair⟩ := hpaced.turn hpair
      have htold : left = context.clock.told i := hleads.clocks hleft
      rw [htold] at htime
      exact ⟨client, timeout, operation, hclient, htime, hregion, hpair⟩
  · rw [Bool.not_eq_true] at hsupervised
    rw [service.exchanges_of_not_supervised call context replies hsupervised] at hpair
    cases hpair

end VolumePlugin
