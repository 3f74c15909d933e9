/-
# Calls that reach the wanted state

An attachment and a detachment are one call but for the type of the action and the words by which
the provider says that it is done. Each is valid by its ids and its capability and sends one request
if it is. When it ends well, and when a deletion does, is told here from the request and from the
answer to it.

The statements hold for every answer. Where an error has a body that is nested too deeply, the call
fails also by the status that means the wanted state, as a detachment and a deletion show.
-/
import VolumePlugin.Proofs.ChangeOutcome

namespace VolumePlugin

/-! ## Attachments -/

/-- The two actions on the attachment of a volume. -/
inductive Attachment.Kind
  | attach
  | detach
  deriving DecidableEq

namespace Attachment.Kind

/-- The type of an action. -/
def action : Kind → String
  | .attach => "attach"
  | .detach => "detach"

/-- The fragment by which the provider says that an action is done already. -/
def fragment : Kind → String
  | .attach => alreadyAttachedFragment
  | .detach => attachmentNotFoundFragment

/-- The operation of an action. -/
def operation : Kind → Value → Value → Value → Operation
  | .attach => .attach
  | .detach => .detach

end Attachment.Kind

/-- What a call to attach or detach a volume names. -/
structure Attachment where
  kind : Attachment.Kind
  volumeId : Value
  nodeId : Value
  capability : Option Capability := none

/-- The attachment that a call is about, if it is about one. -/
def Call.attachment? : Call → Option Attachment
  | .publishVolume request => some ⟨.attach, request.volumeId, request.nodeId, request.capability⟩
  | .unpublishVolume request => some ⟨.detach, request.volumeId, request.nodeId, none⟩
  | _ => none

/-- The operation of an attachment posts its action. -/
theorem Attachment.Kind.content_operation (kind : Attachment.Kind)
    (volumeId dropletId region : Value) :
    (kind.operation volumeId dropletId region).method = .post ∧
      (kind.operation volumeId dropletId region).path = Operation.actionsPath volumeId ∧
      (kind.operation volumeId dropletId region).content =
        .json (Operation.action kind.action dropletId region) := by
  cases kind <;> exact ⟨rfl, rfl, rfl⟩

/-- The ids are not empty, a capability is supported where one is given, and the node is a droplet
by the number that its id is read as. -/
structure Attachment.IsValid (asked : Attachment) (droplet : Int) : Prop where
  volume : asked.volumeId.truthy = true
  node : asked.nodeId.truthy = true
  supported : ∀ capability, asked.capability = some capability →
    capability.accessMode.isSupported = true
  number : wholeNumber? asked.nodeId = .ok (some droplet)
  positive : 0 < droplet

/-! ## What requests ask for -/

/-- A parameter that is required may not be empty. -/
theorem requireParameter_eq_ok_iff {value given : Value} {parameter : String} :
    requireParameter value parameter = .ok given ↔ value.truthy = true ∧ value = given := by
  rw [requireParameter]
  split <;> simp [*]

/-- A single capability is fine where its access mode is supported. -/
theorem checkCapabilities_single_eq_ok_iff (capability : Capability) :
    checkCapabilities (some [some capability]) = .ok () ↔
      capability.accessMode.isSupported = true := by
  have hrefuse : checkCapabilities (some [some capability]) =
      (refuseUnsupported (some capability) >>= fun _ => pure ()) := rfl
  rw [hrefuse, refuseUnsupported, accessModeOf, ok_bind]
  by_cases hsupported : capability.accessMode.isSupported = true
  · rw [if_pos hsupported]
    exact iff_of_true rfl hsupported
  · rw [if_neg hsupported]
    exact iff_of_false nofun hsupported

/-- A node is a droplet where its id reads as a positive number. -/
theorem dropletOfNode_eq_ok_iff {nodeId : Value} {droplet : Int} :
    dropletOfNode nodeId = .ok droplet ↔
      wholeNumber? nodeId = .ok (some droplet) ∧ 0 < droplet := by
  rw [dropletOfNode]
  cases wholeNumber? nodeId with
  | error failure => simp
  | ok number =>
      cases number with
      | none => simp
      | some n =>
          simp only [ok_bind, Except.ok.injEq, Option.some.injEq]
          split
          · simp only [pure, Except.pure, Except.ok.injEq]
            grind
          · simp only [throw_eq_error, reduceCtorEq, false_iff]
            grind

/-- What a valid request to publish names. -/
theorem PublishVolumeRequest.rule_eq_ok_iff {request : PublishVolumeRequest}
    {volumeId nodeId : Value} :
    request.rule = .ok (volumeId, nodeId) ↔
      request.volumeId.truthy = true ∧ request.nodeId.truthy = true ∧
        (∀ capability, request.capability = some capability →
          capability.accessMode.isSupported = true) ∧
        request.volumeId = volumeId ∧ request.nodeId = nodeId := by
  rw [rule]
  cases request.capability with
  | none =>
      simp only [bind_eq_ok, requireParameter_eq_ok_iff]
      constructor
      · rintro ⟨_, ⟨hvolume, rfl⟩, _, ⟨hnode, rfl⟩, hids⟩
        cases hids
        exact ⟨hvolume, hnode, nofun, rfl, rfl⟩
      · rintro ⟨hvolume, hnode, -, rfl, rfl⟩
        exact ⟨_, ⟨hvolume, rfl⟩, _, ⟨hnode, rfl⟩, rfl⟩
  | some capability =>
      simp only [bind_eq_ok, requireParameter_eq_ok_iff, Option.some.injEq, forall_eq',
        ← checkCapabilities_single_eq_ok_iff]
      constructor
      · rintro ⟨_, ⟨hvolume, rfl⟩, _, ⟨hnode, rfl⟩, _, hchecked, hids⟩
        cases hids
        exact ⟨hvolume, hnode, hchecked, rfl, rfl⟩
      · rintro ⟨hvolume, hnode, hchecked, rfl, rfl⟩
        exact ⟨_, ⟨hvolume, rfl⟩, _, ⟨hnode, rfl⟩, (), hchecked, rfl⟩

/-- What a valid request to unpublish names. -/
theorem UnpublishVolumeRequest.rule_eq_ok_iff {request : UnpublishVolumeRequest}
    {volumeId nodeId : Value} :
    request.rule = .ok (volumeId, nodeId) ↔
      request.volumeId.truthy = true ∧ request.nodeId.truthy = true ∧
        request.volumeId = volumeId ∧ request.nodeId = nodeId := by
  rw [rule]
  simp only [bind_eq_ok, requireParameter_eq_ok_iff]
  constructor
  · rintro ⟨_, ⟨hvolume, rfl⟩, _, ⟨hnode, rfl⟩, hids⟩
    cases hids
    exact ⟨hvolume, hnode, rfl, rfl⟩
  · rintro ⟨hvolume, hnode, rfl, rfl⟩
    exact ⟨_, ⟨hvolume, rfl⟩, _, ⟨hnode, rfl⟩, rfl⟩

/-- A deletion is asked for where the id is not empty. -/
theorem Call.changes_iff_of_deletion {request : DeleteVolumeRequest} {region : Value}
    {operation : Operation} :
    (Call.deleteVolume request).Changes region operation ↔
      request.volumeId.truthy = true ∧ operation = .delete request.volumeId := by
  simp only [Changes, DeleteVolumeRequest.operation, DeleteVolumeRequest.rule, bind_eq_ok,
    requireParameter_eq_ok_iff]
  constructor
  · rintro ⟨_, ⟨hvolume, rfl⟩, hasks⟩
    cases hasks
    exact ⟨hvolume, rfl⟩
  · rintro ⟨hvolume, rfl⟩
    exact ⟨_, ⟨hvolume, rfl⟩, rfl⟩

/-- A call about an attachment asks for a change. -/
theorem Call.asksForChange_of_attachment {call : Call} {asked : Attachment}
    (hasked : call.attachment? = some asked) : call.asksForChange = true := by
  cases call with
  | publishVolume | unpublishVolume => rfl
  | _ => cases hasked

/-- An attachment is asked for where it is valid, as the action of its kind on the droplet. -/
theorem Call.changes_iff_of_attachment {call : Call} {asked : Attachment}
    (hasked : call.attachment? = some asked) {region : Value} {operation : Operation} :
    call.Changes region operation ↔
      ∃ droplet, asked.IsValid droplet ∧
        operation = asked.kind.operation asked.volumeId (.int droplet) region := by
  cases call with
  | publishVolume request =>
      cases hasked
      simp only [Changes, PublishVolumeRequest.operation, bind_eq_ok, Prod.exists,
        PublishVolumeRequest.rule_eq_ok_iff, dropletOfNode_eq_ok_iff]
      constructor
      · rintro ⟨_, _, ⟨hvolume, hnode, hsupported, rfl, rfl⟩, droplet, ⟨hnumber, hpositive⟩, hasks⟩
        cases hasks
        exact ⟨droplet, ⟨hvolume, hnode, hsupported, hnumber, hpositive⟩, rfl⟩
      · rintro ⟨droplet, ⟨hvolume, hnode, hsupported, hnumber, hpositive⟩, rfl⟩
        exact ⟨_, _, ⟨hvolume, hnode, hsupported, rfl, rfl⟩, droplet, ⟨hnumber, hpositive⟩, rfl⟩
  | unpublishVolume request =>
      cases hasked
      simp only [Changes, UnpublishVolumeRequest.operation, bind_eq_ok, Prod.exists,
        UnpublishVolumeRequest.rule_eq_ok_iff, dropletOfNode_eq_ok_iff]
      constructor
      · rintro ⟨_, _, ⟨hvolume, hnode, rfl, rfl⟩, droplet, ⟨hnumber, hpositive⟩, hasks⟩
        cases hasks
        refine ⟨droplet, ⟨hvolume, hnode, ?_, hnumber, hpositive⟩, rfl⟩
        intro capability himpossible
        cases himpossible
      · rintro ⟨droplet, ⟨hvolume, hnode, -, hnumber, hpositive⟩, rfl⟩
        exact ⟨_, _, ⟨hvolume, hnode, rfl, rfl⟩, droplet, ⟨hnumber, hpositive⟩, rfl⟩
  | _ => cases hasked

/-- An attachment is taken for done by its status, or by the fragment of its kind. -/
theorem Call.takesForDone_iff_of_attachment {call : Call} {asked : Attachment}
    (hasked : call.attachment? = some asked) {status : Int} {details : Value} :
    call.TakesForDone status details ↔
      status = 422 ∨ ∃ text, details = .text text ∧ StandsIn asked.kind.fragment text := by
  cases call with
  | publishVolume | unpublishVolume =>
      cases hasked
      rfl
  | _ => cases hasked

/-! ## When they end well -/

namespace Service

/-- The client of the service with a token. -/
def tokenClient : Client := ⟨"https://api.digitalocean.com", "token", .int 30⟩

theorem clientRule_withToken : (withToken "token").setting.clientRule = .ok tokenClient := rfl

theorem isPositive_tokenClient : tokenClient.defaultTimeout.IsPositive :=
  ⟨.int 30, rfl, by decide⟩

variable (service : Service) (call : Call) (context : CallContext) (replies : List Reply)

/-- When an attachment or a detachment ends well, and what it sends. The request has to be valid,
and the provider carries it out or answers with an error that says that it is done: with status 422,
or with a text in which the fragment of the action stands. A valid one sends a single request, for
the volume that was named and the droplet that the node's id reads as. -/
theorem attachment_ends_well_iff {asked : Attachment} (hasked : call.attachment? = some asked)
    {client : Client} (hclient : service.setting.clientRule = .ok client)
    (hdefault : client.defaultTimeout.IsPositive)
    (hleft : context.clock.now = .null ∨ context.clock.now.IsPositive) :
    (service.EndsWell call context replies ↔
      (∃ droplet, asked.IsValid droplet) ∧
      ((replies.headD Reply.silence).CarriesOut ∨
        ∃ status details, (replies.headD Reply.silence).Reports status details ∧
          (status = 422 ∨
            ∃ text, details = .text text ∧ StandsIn asked.kind.fragment text))) ∧
    ∀ droplet, asked.IsValid droplet → ∃ request : Request,
      service.requestsOf call context replies = [request] ∧ request.method = .post ∧
      request.url =
        client.apiUrl ++ ("/v2/volumes" ++ "/" ++ asked.volumeId.display ++ "/actions") ∧
      request.content = .json
        ([("type", .text asked.kind.action), ("droplet_id", .int droplet)] ++
          if service.region.truthy then [("region", service.region)] else []) := by
  have hchange := Call.asksForChange_of_attachment hasked
  obtain ⟨timeout, htime⟩ := Client.timeFor_of_isPositive hdefault call.name hleft
  have hends := service.endsWell_iff context replies hchange hclient htime
  simp only [Call.changes_iff_of_attachment hasked, Call.takesForDone_iff_of_attachment hasked]
    at hends
  constructor
  · rw [hends]
    have hvalid : (∃ operation droplet, asked.IsValid droplet ∧
          operation = asked.kind.operation asked.volumeId (.int droplet) service.region) ↔
        ∃ droplet, asked.IsValid droplet :=
      ⟨fun ⟨_, droplet, hvalid, _⟩ => ⟨droplet, hvalid⟩,
        fun ⟨droplet, hvalid⟩ => ⟨_, droplet, hvalid, rfl⟩⟩
    rw [hvalid]
  · intro droplet hvalid
    obtain ⟨requestTime, hsent, -⟩ := service.exchanges_of_valid context replies hchange hclient
      htime ((Call.changes_iff_of_attachment hasked).2 ⟨droplet, hvalid, rfl⟩)
    obtain ⟨hmethod, hpath, hcontent⟩ :=
      asked.kind.content_operation asked.volumeId (.int droplet) service.region
    exact ⟨_, hsent, hmethod, congrArg (client.apiUrl ++ ·) hpath, hcontent⟩

/-- An attachment is done where the provider says so in other letters, and not where the request was
lost with the same words. -/
theorem attached_already :
    (withToken "token").EndsWell
        (.publishVolume { volumeId := .text "v", nodeId := .text "7" }) {}
        [.answer 400 "Volume ALREADY attached"] ∧
      ¬ (withToken "token").EndsWell
        (.publishVolume { volumeId := .text "v", nodeId := .text "7" }) {}
        [.lost "Volume ALREADY attached"] := by
  have hvalid : Attachment.IsValid ⟨.attach, .text "v", .text "7", none⟩ 7 :=
    ⟨by decide, by decide, nofun, by decide +kernel, by decide⟩
  have hreports : (Reply.answer 400 "Volume ALREADY attached").Reports 400
      (.text "Volume ALREADY attached") :=
    Reply.reports_answer_iff.2 ⟨rfl, by decide, by decide +kernel⟩
  obtain ⟨hattached, -⟩ := attachment_ends_well_iff (withToken "token")
    (.publishVolume { volumeId := .text "v", nodeId := .text "7" }) {}
    [.answer 400 "Volume ALREADY attached"] rfl clientRule_withToken
    isPositive_tokenClient (.inl rfl)
  obtain ⟨hlost, -⟩ := attachment_ends_well_iff (withToken "token")
    (.publishVolume { volumeId := .text "v", nodeId := .text "7" }) {}
    [.lost "Volume ALREADY attached"] rfl clientRule_withToken
    isPositive_tokenClient (.inl rfl)
  constructor
  · exact hattached.2 ⟨⟨7, hvalid⟩, .inr ⟨400, _, hreports, .inr ⟨_, rfl,
      mentions_iff_standsIn.1 (by decide +kernel)⟩⟩⟩
  · intro hends
    rcases (hlost.1 hends).2 with ⟨status, body, himpossible, -⟩ |
      ⟨status, details, ⟨body, himpossible, -⟩, -⟩
    · cases himpossible
    · cases himpossible

/-- A detachment of a valid request fails although the provider answers with status 422, where the
body of the answer is three thousand opening brackets. -/
theorem nested_detachment_fails :
    Attachment.IsValid ⟨.detach, .text "v", .text "7", none⟩ 7 ∧
    (withToken "token").setting.clientRule = .ok tokenClient ∧
    ((withToken "token").step (.call
        (.unpublishVolume { volumeId := .text "v", nodeId := .text "7" }) {}
        [.answer 422 (String.ofList (List.replicate 3000 '['))])).1.outcome =
      .answered (.ok {
          response := .unpublication
          status := some .internal
          details := some (Failure.nestedTooDeep .list).message })
        ((withToken "token").requestsOf
          (.unpublishVolume { volumeId := .text "v", nodeId := .text "7" }) {}
          [.answer 422 (String.ofList (List.replicate 3000 '['))]) := by
  have hvalid : Attachment.IsValid ⟨.detach, .text "v", .text "7", none⟩ 7 :=
    ⟨by decide, by decide, nofun, by decide +kernel, by decide⟩
  have hasked : (Call.unpublishVolume { volumeId := .text "v", nodeId := .text "7" }).Changes
      (withToken "token").region (.detach (.text "v") (.int 7) (.text "nyc3")) := by
    rw [Call.changes_iff_of_attachment rfl]
    exact ⟨7, hvalid, rfl⟩
  have htime : tokenClient.timeFor "ControllerUnpublishVolume" .null = .ok (.int 30) := rfl
  refine ⟨hvalid, clientRule_withToken, ?_⟩
  exact outcome_of_nested (withToken "token") {} _ rfl clientRule_withToken htime hasked rfl
    (by decide) (Json.read_brackets (by decide))

/-- When a deletion ends well, and how it ends otherwise. The id may not be empty, and the provider
carries it out or answers with an error that says that there is no such volume: in a text, by status
404 or in words. An error that says another text is reported with this text, whatever it says. -/
theorem deletion_ends_well_iff (request : DeleteVolumeRequest) {client : Client}
    (hclient : service.setting.clientRule = .ok client)
    (hdefault : client.defaultTimeout.IsPositive)
    (hleft : context.clock.now = .null ∨ context.clock.now.IsPositive) :
    (service.EndsWell (.deleteVolume request) context replies ↔
      request.volumeId.truthy = true ∧
      ((replies.headD Reply.silence).CarriesOut ∨
        ∃ status text, (replies.headD Reply.silence).Reports status (.text text) ∧
          (status = 404 ∨ StandsIn notFoundFragment text))) ∧
    (request.volumeId.truthy = true → ∃ sent : Request,
      service.requestsOf (.deleteVolume request) context replies = [sent] ∧
      sent.method = .delete ∧
      sent.url = client.apiUrl ++ ("/v2/volumes" ++ "/" ++ request.volumeId.display) ∧
      ∀ status text, (replies.headD Reply.silence).Reports status (.text text) →
        status ≠ 404 → ¬ StandsIn notFoundFragment text →
        (service.step (.call (.deleteVolume request) context replies)).1.outcome =
          .answered (.ok {
              response := .deletion
              status := some (failedStatus status text)
              details := some (ProviderError.message
                ⟨"DELETE", sent.url, .int status, .text text⟩) })
            [sent]) := by
  obtain ⟨timeout, htime⟩ :=
    Client.timeFor_of_isPositive hdefault (Call.deleteVolume request).name hleft
  have hchange : (Call.deleteVolume request).asksForChange = true := rfl
  constructor
  · rw [service.endsWell_iff context replies hchange hclient htime]
    simp only [Call.changes_iff_of_deletion, exists_and_left, exists_eq, and_true]
    apply and_congr_right
    intro _
    apply or_congr_right
    constructor
    · rintro ⟨status, _, hreports, text, rfl, hdone⟩
      exact ⟨status, text, hreports, hdone⟩
    · rintro ⟨status, text, hreports, hdone⟩
      exact ⟨status, _, hreports, text, rfl, hdone⟩
  · intro hvolume
    obtain ⟨requestTime, hsent, hone⟩ := service.exchanges_of_valid context replies hchange hclient
      htime (Call.changes_iff_of_deletion.2 ⟨hvolume, rfl⟩)
    refine ⟨_, hsent, rfl, rfl, ?_⟩
    intro status text hreports hpresent hunsaid
    have hturn : (service.exchanges (.deleteVolume request) context replies)[0]? =
        some (client.request (.delete request.volumeId) requestTime,
          replies.headD Reply.silence) := by
      rw [hone]
      rfl
    rw [service.outcome_of_text context replies hturn hreports, hsent]
    · rfl
    · rintro ⟨_, hsame, hdone⟩
      cases hsame
      exact hdone.elim hpresent hunsaid

/-- A deletion is done where the volume is reported as missing by name, and not where its attachment
is in the way. -/
theorem deleted_or_attached :
    (withToken "token").EndsWell (.deleteVolume { volumeId := .text "v" }) {}
        [.answer 409 "\x7b\"message\":\"Volume Not Found\"\x7d"] ∧
      ¬ (withToken "token").EndsWell (.deleteVolume { volumeId := .text "v" }) {}
        [.answer 422 "already attached"] := by
  obtain ⟨hmissing, -⟩ := deletion_ends_well_iff (withToken "token") {}
    [.answer 409 "\x7b\"message\":\"Volume Not Found\"\x7d"] { volumeId := .text "v" }
    clientRule_withToken isPositive_tokenClient (.inl rfl)
  obtain ⟨hattached, -⟩ := deletion_ends_well_iff (withToken "token") {}
    [.answer 422 "already attached"] { volumeId := .text "v" }
    clientRule_withToken isPositive_tokenClient (.inl rfl)
  constructor
  · have hreports : (Reply.answer 409 "\x7b\"message\":\"Volume Not Found\"\x7d").Reports 409
        (.text "Volume Not Found") :=
      Reply.reports_answer_iff.2 ⟨rfl, by decide, by decide +kernel⟩
    exact hmissing.2 ⟨by decide, .inr ⟨409, _, hreports, .inr
      (mentions_iff_standsIn.1 (by decide +kernel))⟩⟩
  · intro hends
    rcases (hattached.1 hends).2 with ⟨_, _, hanswer, hnoError, -⟩ |
      ⟨status, text, hreports, hdone⟩
    · cases hanswer
      exact hnoError (by decide)
    · obtain ⟨rfl, -, hdetails⟩ := Reply.reports_answer_iff.1 hreports
      have hread : Reply.errorDetails "already attached" = .ok (.text "already attached") := by
        decide +kernel
      rw [hread] at hdetails
      cases hdetails
      rw [← mentions_iff_standsIn] at hdone
      revert hdone
      decide +kernel

/-- A deletion fails although the provider answers with status 404, where the body of the answer is
three thousand opening brackets. -/
theorem nested_deletion_fails :
    (withToken "token").setting.clientRule = .ok tokenClient ∧
    ((withToken "token").step (.call (.deleteVolume { volumeId := .text "v" }) {}
        [.answer 404 (String.ofList (List.replicate 3000 '['))])).1.outcome =
      .answered (.ok {
          response := .deletion
          status := some .internal
          details := some (Failure.nestedTooDeep .list).message })
        ((withToken "token").requestsOf (.deleteVolume { volumeId := .text "v" }) {}
          [.answer 404 (String.ofList (List.replicate 3000 '['))]) := by
  have hasked : (Call.deleteVolume { volumeId := .text "v" }).Changes (withToken "token").region
      (.delete (.text "v")) := by
    rw [Call.changes_iff_of_deletion]
    exact ⟨by decide, rfl⟩
  have htime : tokenClient.timeFor "DeleteVolume" .null = .ok (.int 30) := rfl
  refine ⟨clientRule_withToken, ?_⟩
  exact outcome_of_nested (withToken "token") {} _ rfl clientRule_withToken htime hasked rfl
    (by decide) (Json.read_brackets (by decide))

end Service

end VolumePlugin
