/-
# Runs of a change

Deletion, attachment and detachment are one kind of call. What the caller asks for is turned into
an operation, and the operation is asked of the provider once. A refusal of the wanted class
counts as success; any other failure is passed on. The relations of this module hold the
transcripts and results of such a call, and the three calls are shown to have no others.
-/
import VolumePlugin.Proofs.Outcome

namespace VolumePlugin

open VolumePlugin.Action

/-- What becomes of a change by what the reply says. -/
def changeVerdict (fragments : List String) (wanted : ErrorClass) :
    Except Failure Value → Except Failure Unit
  | .ok _ => .ok ()
  | .error (.provider error) => do
    if (← error.classify fragments) ≠ wanted then throw (.provider error)
  | .error failure => .error failure

/-- The operation that a request to delete asks for. -/
def DeleteVolumeRequest.operation (request : DeleteVolumeRequest) : Except Failure Operation := do
  return .delete (← request.rule)

/-- The operation that a request to publish asks for. -/
def PublishVolumeRequest.operation (request : PublishVolumeRequest) (region : Value) :
    Except Failure Operation := do
  let ids ← request.rule
  return .attach ids.1 (.int (← dropletOfNode ids.2)) region

/-- The operation that a request to unpublish asks for. -/
def UnpublishVolumeRequest.operation (request : UnpublishVolumeRequest) (region : Value) :
    Except Failure Operation := do
  let ids ← request.rule
  return .detach ids.1 (.int (← dropletOfNode ids.2)) region

section Runs

variable (setting : Setting) (call : String) (fragments : List String) (wanted : ErrorClass)

/-- The runs of asking for a change. -/
inductive ChangeRun (client : Client) (operation : Operation) :
    List Event → Except Failure Unit → Prop
  | /-- No time is left. -/
    late {left : Value} {failure : Failure} (htime : client.timeFor call left = .error failure) :
      ChangeRun client operation [.clock left] (.error failure)
  | /-- The change is asked for, and the reply decides. -/
    asked {left timeout : Value} {reply : Reply} (htime : client.timeFor call left = .ok timeout) :
      ChangeRun client operation
        [.clock left, .exchange (client.request operation timeout) reply]
        (changeVerdict fragments wanted (client.valueOf operation reply))

/-- The runs of a call that asks for a change. -/
inductive ChangeCallRun (asked : Except Failure Operation) (response : Response) :
    List Event → Except Failure Response → Prop
  | /-- The request is not valid. -/
    invalid {failure : Failure} (hasked : asked = .error failure) :
      ChangeCallRun asked response [] (.error failure)
  | /-- There is no client. -/
    unready {operation : Operation} {failure : Failure} (hasked : asked = .ok operation)
      (hclient : setting.clientRule = .error failure) :
      ChangeCallRun asked response [] (.error failure)
  | /-- The change is asked for. -/
    changed {operation : Operation} {client : Client} {transcript : List Event}
      {result : Except Failure Unit} (hasked : asked = .ok operation)
      (hclient : setting.clientRule = .ok client)
      (hrun : ChangeRun call fragments wanted client operation transcript result) :
      ChangeCallRun asked response transcript (result.map fun _ => response)

end Runs

/-- Classifying a failed request is a rule. -/
theorem ProviderError.isRule_classified (error : ProviderError) (fragments : List String) :
    (error.classified fragments).IsRule (error.classify fragments) := by
  have hrule : (error.classified fragments).IsRule (error.classify fragments >>= pure) :=
    (isRule_lift _).bind fun _ => (isRule_debug _).after (isRule_pure _)
  rwa [bind_pure] at hrule

section Change

variable {setting : Setting} {client : Client} (call : String) (operation : Operation)
  (fragments : List String) (wanted : ErrorClass) (heading : String)

/-- The verdict on a refused change is a rule. -/
theorem isRule_refused (failure : Failure) :
    (match failure with
      | .provider error => do
        if (← error.classified fragments) ≠ wanted then throw failure
        Action.debug (heading ++ error.message)
      | _ => throw failure : Action Unit).IsRule
      (changeVerdict fragments wanted (.error failure)) := by
  cases failure with
  | provider error =>
      apply (error.isRule_classified fragments).bind
      intro found
      dsimp only
      split
      · exact (isRule_throw _).bind fun _ => isRule_debug _
      · exact isRule_debug _
  | _ => exact isRule_throw _

/-- Asking for a change has one of the runs of a change. -/
theorem meets_change (hclient : setting.clientRule = .ok client) (session : Session) :
    (change setting call client operation fragments wanted heading).Meets session
      (ChangeRun call fragments wanted client operation) := by
  -- What happens up to the reply; a refusal is looked at behind it.
  have hbefore : (do
        let timeout ← setting.timeLeft call
        client.carryOut operation timeout : Action Unit).Meets session
      fun transcript result =>
        (∃ left failure, client.timeFor call left = .error failure ∧
            transcript = [.clock left] ∧ result = .error failure) ∨
          ∃ left timeout reply, client.timeFor call left = .ok timeout ∧
            transcript = [.clock left, .exchange (client.request operation timeout) reply] ∧
            result = (client.valueOf operation reply >>= fun _ => .ok ()) := by
    apply (Setting.asks_timeLeft hclient call).bind
    · intro left failure hlate
      exact .inl ⟨left, failure, hlate, rfl, rfl⟩
    · intro left timeout middle htime _
      apply (client.asks_perform_bind operation timeout (fun _ => .ok ()) middle).mono
      intro transcript result hone
      obtain ⟨reply, rfl, rfl⟩ := hone
      exact .inr ⟨left, timeout, reply, htime, rfl, rfl⟩
  apply hbefore.tryCatch
  · rintro transcript a (⟨left, failure, -, -, himpossible⟩ |
      ⟨left, timeout, reply, htime, rfl, hdone⟩)
    · cases himpossible
    · obtain ⟨value, hvalue, -⟩ := bind_eq_ok.1 hdone.symm
      have hverdict : Except.ok a =
          changeVerdict fragments wanted (client.valueOf operation reply) := by
        rw [hvalue]
        rfl
      rw [hverdict]
      exact .asked htime
  · rintro front failure middle _ (⟨left, failure', htime, rfl, hlate⟩ |
      ⟨left, timeout, reply, htime, rfl, hfailed⟩)
    · cases hlate
      have hlocal := client.isLocal_timeFor call left
      rw [htime, isLocal_error_iff] at hlocal
      cases failure with
      | provider error => exact (hlocal error rfl).elim
      | _ => exact meets_throw (.late htime)
    · have hvalue : client.valueOf operation reply = .error failure := by
        rcases bind_eq_error.1 hfailed.symm with hvalue | ⟨value, -, himpossible⟩
        · exact hvalue
        · cases himpossible
      apply (isRule_refused fragments wanted heading failure).meets
      rw [← hvalue]
      exact .asked htime

/-- A call that has its operation and its client asks for the change and responds. -/
theorem meets_changeAndRespond {asked : Except Failure Operation} (hasked : asked = .ok operation)
    (hclient : setting.clientRule = .ok client) (response : Response) (session : Session) :
    (do
      change setting call client operation fragments wanted heading
      return response : Action Response).Meets session
      (ChangeCallRun setting call fragments wanted asked response) := by
  apply (meets_change call operation fragments wanted heading hclient session).bind
  · intro transcript failure hrun
    exact .changed hasked hclient hrun
  · rintro front ⟨⟩ behind _ hrun
    apply meets_pure
    rw [List.append_nil]
    exact .changed hasked hclient hrun

end Change

/-! ## The three calls -/

/-- A call that deletes a volume has one of the runs of a change. -/
theorem DeleteVolumeRequest.meets_perform (request : DeleteVolumeRequest) (setting : Setting)
    (session : Session) :
    (request.perform setting).Meets session
      (ChangeCallRun setting "DeleteVolume" [] .notFound request.operation .deletion) := by
  apply request.isRule_validate.meets_bind
  · intro failure hrequest
    exact .invalid (by rw [DeleteVolumeRequest.operation, hrequest, error_bind])
  · intro volumeId middle hrequest _
    have hasked : request.operation = .ok (.delete volumeId) := by
      rw [DeleteVolumeRequest.operation, hrequest]
      rfl
    refine setting.isRule_client.meets_bind (fun failure => .unready hasked) ?_
    intro client middle hclient _
    apply (isRule_debug _).meets_after
    intro middle _
    exact meets_changeAndRespond _ _ _ _ _ hasked hclient _ middle

/-- A call that attaches a volume has one of the runs of a change. -/
theorem PublishVolumeRequest.meets_perform (request : PublishVolumeRequest) (setting : Setting)
    (session : Session) :
    (request.perform setting).Meets session
      (ChangeCallRun setting "ControllerPublishVolume" [alreadyAttachedFragment]
        .alreadyInDesiredState (request.operation setting.region) .publication) := by
  apply request.isRule_validate.meets_bind
  · intro failure hrequest
    exact .invalid (by rw [PublishVolumeRequest.operation, hrequest, error_bind])
  · rintro ⟨volumeId, nodeId⟩ middle hrequest _
    apply (isRule_lift _).meets_bind
    · intro failure hnode
      exact .invalid (by rw [PublishVolumeRequest.operation, hrequest, ok_bind, hnode, error_bind])
    · intro dropletId middle hnode _
      have hasked : request.operation setting.region =
          .ok (.attach volumeId (.int dropletId) setting.region) := by
        rw [PublishVolumeRequest.operation, hrequest, ok_bind, hnode]
        rfl
      apply (isRule_debug _).meets_after
      intro middle _
      refine setting.isRule_client.meets_bind (fun failure => .unready hasked) ?_
      intro client middle hclient _
      exact meets_changeAndRespond _ _ _ _ _ hasked hclient _ middle

/-- A call that detaches a volume has one of the runs of a change. -/
theorem UnpublishVolumeRequest.meets_perform (request : UnpublishVolumeRequest)
    (setting : Setting) (session : Session) :
    (request.perform setting).Meets session
      (ChangeCallRun setting "ControllerUnpublishVolume" [attachmentNotFoundFragment]
        .alreadyInDesiredState (request.operation setting.region) .unpublication) := by
  apply request.isRule_validate.meets_bind
  · intro failure hrequest
    exact .invalid (by rw [UnpublishVolumeRequest.operation, hrequest, error_bind])
  · rintro ⟨volumeId, nodeId⟩ middle hrequest _
    apply (isRule_lift _).meets_bind
    · intro failure hnode
      exact .invalid
        (by rw [UnpublishVolumeRequest.operation, hrequest, ok_bind, hnode, error_bind])
    · intro dropletId middle hnode _
      have hasked : request.operation setting.region =
          .ok (.detach volumeId (.int dropletId) setting.region) := by
        rw [UnpublishVolumeRequest.operation, hrequest, ok_bind, hnode]
        rfl
      apply (isRule_debug _).meets_after
      intro middle _
      refine setting.isRule_client.meets_bind (fun failure => .unready hasked) ?_
      intro client middle hclient _
      exact meets_changeAndRespond _ _ _ _ _ hasked hclient _ middle

/-! ## Where their failures come from -/

/-- What a request asks to delete is found without the provider. -/
theorem DeleteVolumeRequest.isLocal_operation (request : DeleteVolumeRequest) :
    IsLocal request.operation :=
  (isLocal_requireParameter _ _).bind fun _ _ => isLocal_pure _

/-- What a request asks to attach is found without the provider. -/
theorem PublishVolumeRequest.isLocal_operation (request : PublishVolumeRequest) (region : Value) :
    IsLocal (request.operation region) := by
  have hrule : IsLocal request.rule := by
    apply (isLocal_requireParameter _ _).bind
    intro volumeId _
    apply (isLocal_requireParameter _ _).bind
    intro nodeId _
    cases request.capability with
    | none => exact isLocal_pure _
    | some capability => exact (isLocal_checkCapabilities _).bind fun _ _ => isLocal_pure _
  exact hrule.bind fun ids _ => (isLocal_dropletOfNode ids.2).bind fun _ _ => isLocal_pure _

/-- What a request asks to detach is found without the provider. -/
theorem UnpublishVolumeRequest.isLocal_operation (request : UnpublishVolumeRequest)
    (region : Value) : IsLocal (request.operation region) := by
  have hrule : IsLocal request.rule := by
    apply (isLocal_requireParameter _ _).bind
    intro volumeId _
    exact (isLocal_requireParameter _ _).bind fun nodeId _ => isLocal_pure _
  exact hrule.bind fun ids _ => (isLocal_dropletOfNode ids.2).bind fun _ _ => isLocal_pure _

end VolumePlugin
