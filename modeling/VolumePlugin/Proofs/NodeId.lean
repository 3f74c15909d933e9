/-
# Ids of nodes

A node is named by the number of its droplet, and the volume goes to the droplet of the number that
is read. Which texts name a droplet at all, and which one, is told here by the grammar of numerals:
a numeral of a positive number does, and everything else is refused in the same way. A call that
attaches or detaches a volume takes a refused id for a mistake of its caller, whatever else its
request says, and does not ask the provider. Only an access mode with too many digits, which is
looked at before the id, makes it fail by its own words.
-/
import VolumePlugin.Proofs.DesiredState
import VolumePlugin.Proofs.NumeralGrammar

namespace VolumePlugin

open Text

/-! ## Droplets -/

section Droplets

variable {nodeId : String}

/-- A text names a droplet where it is a numeral of a positive number. -/
theorem dropletOfNode_text_eq_ok_iff {droplet : Int} :
    dropletOfNode (.text nodeId) = .ok droplet ↔
      0 < droplet ∧ Numeral.Spells nodeId.toList droplet := by
  rw [dropletOfNode_eq_ok_iff, wholeNumber?, Except.ok.injEq, Numeral.read?_eq_some_iff, and_comm]

/-- A text that names no droplet is refused as an id. -/
theorem failsAs_dropletOfNode_text :
    FailsAs (· = .invalidNodeId (.text nodeId)) (dropletOfNode (.text nodeId)) := by
  rw [dropletOfNode, wholeNumber?, ok_bind]
  cases Numeral.read? nodeId.toList with
  | none => simp
  | some n =>
      dsimp only
      split <;> simp

theorem dropletOfNode_text_eq_error
    (hnone : ∀ droplet, 0 < droplet → ¬ Numeral.Spells nodeId.toList droplet) :
    dropletOfNode (.text nodeId) = .error (.invalidNodeId (.text nodeId)) := by
  cases hdroplet : dropletOfNode (.text nodeId) with
  | ok droplet =>
      obtain ⟨hpositive, hspells⟩ := dropletOfNode_text_eq_ok_iff.1 hdroplet
      exact (hnone droplet hpositive hspells).elim
  | error failure => rw [failsAs_dropletOfNode_text failure hdroplet]

end Droplets

/-! ## Calls with an id that names no droplet -/

/-- A failure that is told to the caller as a mistake in the arguments of the call. -/
def Failure.BlamesArgument (failure : Failure) : Prop :=
  failure.ownStatus = .invalidArgument

theorem failsAs_requireParameter (value : Value) (parameter : String) :
    FailsAs Failure.BlamesArgument (requireParameter value parameter) := by
  unfold requireParameter
  split
  · simp
  · exact failsAs_error_iff.2 rfl

/-- The access mode of the capability that a volume is attached with, if there is one, is short
enough to be written. -/
def Attachment.IsWritable (asked : Attachment) : Prop :=
  ∀ capability, asked.capability = some capability →
    capability.accessMode.value.isWritable = true

/-- A failure of a request about an attachment blames an argument, unless it is about an access mode
that is too long to be written. -/
def Attachment.Blames (asked : Attachment) (failure : Failure) : Prop :=
  failure.BlamesArgument ∨ ¬ asked.IsWritable ∧ failure = .longNumeral .written

/-- Checking the one capability of an attachment blames it at most. -/
theorem Attachment.failsAs_checkCapabilities {asked : Attachment} {capability : Capability}
    (hcapability : asked.capability = some capability) :
    FailsAs asked.Blames (checkCapabilities (some [some capability])) := by
  have hrefuse : checkCapabilities (some [some capability]) =
      (refuseUnsupported (some capability) >>= fun _ => pure ()) := rfl
  rw [hrefuse, refuseUnsupported, accessModeOf, ok_bind]
  split
  · exact failsAs_ok _
  · rw [throw_eq_error, error_bind, failsAs_error_iff, AccessMode.refusal,
      Failure.wordedWith_single]
    split
    · exact .inl rfl
    · rename_i hlong
      exact .inr ⟨fun hwritable => hlong (hwritable _ hcapability), rfl⟩

/-- What blames an argument is blamed in any case. -/
theorem Attachment.failsAs_requireParameter (asked : Attachment) (value : Value)
    (parameter : String) : FailsAs asked.Blames (requireParameter value parameter) :=
  (VolumePlugin.failsAs_requireParameter value parameter).mono fun _ => .inl

theorem PublishVolumeRequest.failsAs_rule {request : PublishVolumeRequest} {asked : Attachment}
    (hasked : (Call.publishVolume request).attachment? = some asked) :
    FailsAs asked.Blames request.rule := by
  apply (asked.failsAs_requireParameter _ _).bind
  intro _ _
  apply (asked.failsAs_requireParameter _ _).bind
  intro _ _
  cases hcapability : request.capability with
  | none => exact failsAs_pure _
  | some capability =>
      have hgiven : asked.capability = some capability := by
        cases hasked
        exact hcapability
      exact (Attachment.failsAs_checkCapabilities hgiven).bind fun _ _ => failsAs_pure _

theorem UnpublishVolumeRequest.failsAs_rule (request : UnpublishVolumeRequest)
    (asked : Attachment) : FailsAs asked.Blames request.rule := by
  apply (asked.failsAs_requireParameter _ _).bind
  intro _ _
  exact (asked.failsAs_requireParameter _ _).bind fun _ _ => failsAs_pure _

/-- A request about an attachment fails for its own reasons or for that of its node's id. -/
theorem Call.validation_of_rejected {call : Call} {asked : Attachment} {nodeId : String}
    (hasked : call.attachment? = some asked) (hnode : asked.nodeId = .text nodeId)
    (hrejected : dropletOfNode (.text nodeId) = .error (.invalidNodeId (.text nodeId))) :
    ∃ failure, call.validation = .error failure ∧ asked.Blames failure := by
  have hrefused {rule : Except Failure (Value × Value)} (hrule : FailsAs asked.Blames rule)
      (hids : ∀ ids, rule = .ok ids → ids.2 = .text nodeId) :
      ∃ failure, (do let _ ← dropletOfNode (← rule).2 : Except Failure Unit) = .error failure ∧
        asked.Blames failure := by
    cases rule with
    | error failure => exact ⟨failure, rfl, hrule failure rfl⟩
    | ok ids =>
        rw [ok_bind, hids ids rfl, hrejected]
        exact ⟨_, rfl, .inl rfl⟩
  cases call with
  | publishVolume request =>
      have hrule := PublishVolumeRequest.failsAs_rule hasked
      cases hasked
      apply hrefused hrule
      intro ids hids
      obtain ⟨-, -, -, -, hsame⟩ := PublishVolumeRequest.rule_eq_ok_iff.1 hids
      exact hsame ▸ hnode
  | unpublishVolume request =>
      have hrule := request.failsAs_rule asked
      cases hasked
      apply hrefused hrule
      intro ids hids
      obtain ⟨-, -, -, hsame⟩ := UnpublishVolumeRequest.rule_eq_ok_iff.1 hids
      exact hsame ▸ hnode
  | _ => cases hasked

namespace Service

/-- A call ends with its empty response, the status for an invalid argument and no request. -/
def RefusesArgument (service : Service) (call : Call) (context : CallContext)
    (replies : List Reply) : Prop :=
  ∃ details, (service.step (.call call context replies)).1.outcome = .answered (.ok {
    response := call.emptyResponse
    status := some .invalidArgument
    details := some details }) []

theorem refusesArgument_of_rejected (service : Service) {call : Call} (context : CallContext)
    (replies : List Reply) {asked : Attachment} {nodeId : String}
    (hasked : call.attachment? = some asked) (hnode : asked.nodeId = .text nodeId)
    (hrejected : dropletOfNode (.text nodeId) = .error (.invalidNodeId (.text nodeId))) :
    service.RefusesArgument call context replies ∨
      ¬ asked.IsWritable ∧ service.Refuses call context replies (.longNumeral .written) := by
  have hasks : call.asksProvider = true := by
    cases call with
    | publishVolume | unpublishVolume => rfl
    | _ => cases hasked
  obtain ⟨failure, hinvalid, hblames⟩ := Call.validation_of_rejected hasked hnode hrejected
  have hpreflight : call.preflight service.setting context = .error failure := by
    rw [Call.preflight, hinvalid, error_bind]
  have houtcome := (service.outcome_of_preflight context replies hasks).1 failure hpreflight
  rcases hblames with hargument | ⟨hlong, rfl⟩
  · rw [Failure.answer, hargument] at houtcome
    exact .inl ⟨_, houtcome⟩
  · exact .inr ⟨hlong, houtcome⟩

end Service

/-! ## Which texts are ids -/

end VolumePlugin
