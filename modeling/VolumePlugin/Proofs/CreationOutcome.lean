/-
# What a creation comes to

A creation follows from its request, from the settings, from what the caller says and from two
replies: the one that shows the volumes of the name and, where there are none, the one that shows
the new volume. Its outcome is written out here as a rule of these, next to the requests that it
sends, so that what a listing leads to can be read off case by case.

A listing that was answered, but not in the shape of a page, is a failure inside the plugin,
whichever part of the answer is looked at first.
-/
import Mathlib.Algebra.Group.Int.Defs
import VolumePlugin.Proofs.AnswerStatus
import VolumePlugin.Proofs.CreationOnce
import VolumePlugin.Proofs.CreationSteps

namespace VolumePlugin

/-! ## Failures inside -/

variable {α β : Type}

/-- An outcome that is reported as internal where it fails. -/
def FailsInside (outcome : Except Failure α) : Prop :=
  ∀ failure, outcome = .error failure → failure.statusRule = .ok .internal

@[simp]
theorem failsInside_ok (a : α) : FailsInside (.ok a : Except Failure α) := failsAs_ok a

@[simp]
theorem failsInside_error_iff {failure : Failure} :
    FailsInside (.error failure : Except Failure α) ↔ failure.statusRule = .ok .internal :=
  failsAs_error_iff

/-- What fails by the shape of a value fails inside. -/
theorem FailsAs.failsInside {outcome : Except Failure α}
    (hshape : FailsAs Failure.BlamesShape outcome) : FailsInside outcome := by
  refine hshape.mono fun failure hblames => ?_
  cases failure with
  | mismatch | missingMember => rfl
  | _ => exact hblames.elim

theorem Reply.failsInside_content (url : String) (status : Int) (body : String) :
    FailsInside (Reply.content url status body) := by
  unfold Reply.content
  split
  · simp
  · split
    · simp
    · exact failsInside_error_iff.2 rfl
    · exact failsInside_error_iff.2 rfl

/-- An answer that reports no error fails inside where it shows no page. -/
theorem Client.failsInside_pageOf (client : Client) {status : Int}
    (hstatus : Reply.isErrorStatus status = false) (body : String) :
    FailsInside (client.pageOf (.answer status body)) := by
  have hvalue (url : String) : FailsInside ((Reply.answer status body).value .get url) := by
    rw [Reply.value, hstatus]
    exact Reply.failsInside_content url status body
  exact FailsAs.bind (hvalue _) fun value _ => (Page.failsAs_ofValue value).failsInside

/-! ## The outcome of a creation -/

/-- The volume of a name that a reply to a listing shows, none where it shows that there is none. -/
def Client.find (client : Client) (name : Value) (listed : Reply) :
    Except Failure (Option Volume) := do
  let page ← client.pageOf listed
  volumeOfName name page.volumes

/-- A reply that shows a page leads on by the volumes of the page. -/
theorem Client.find_of_shown (client : Client) (name : Value) {listed : Reply} {page : Page}
    (hshown : listed.shown = .ok page) :
    client.find name listed = volumeOfName name page.volumes := by
  rw [find, (client.pageOf_eq_ok_iff listed page).2 hshown]
  rfl

/-- A single volume fits if this plugin owns it. -/
theorem volumeOfName_of_single (name : Value) (volume : Volume) :
    volumeOfName name [volume] =
      if volume.description = .text ownershipTag then .ok (some volume)
      else .error (.notOwned volume.name volume.description) := by
  simp only [volumeOfName, Volume.isOwned_iff]

/-- There is no volume of a name where there are no volumes to choose from. -/
theorem volumeOfName_eq_none_iff {name : Value} {volumes : List Volume} :
    volumeOfName name volumes = .ok none ↔ volumes = [] := by
  match volumes with
  | [] => exact iff_of_true rfl rfl
  | [volume] =>
      rw [volumeOfName_of_single]
      split <;> simp
  | first :: second :: rest =>
      rw [volumeOfName_of_several name (by simp)]
      simp

/-- A volume of a whole size that has at most 4000 digits is responded with in bytes. -/
theorem volumeResponse_of_int (volumeId : Value) {size : Int}
    (hdigits : (Numeral.digits size.natAbs).length ≤ 4000) :
    volumeResponse volumeId (.int size) =
      .ok (.creation (some ⟨volumeId, .int (size * 2 ^ 30)⟩)) := by
  have hsized : Volume.IsSized ⟨volumeId, .null, .int size, .null, .null, []⟩ :=
    ⟨size, rfl, hdigits⟩
  obtain ⟨response, hresponse⟩ := hsized.response volumeId
  obtain ⟨capacity, hcapacity, rfl⟩ := volumeResponse_eq_ok hresponse
  cases hcapacity
  exact hresponse

namespace Contender

/-- What a contender comes to by the replies that it hears. -/
def outcome (contender : Contender) (heard : List Reply) : Except Failure Response := do
  let asked ← contender.request.rule
  let client ← contender.service.setting.clientRule
  let _ ← client.timeFor "CreateVolume" contender.context.clock.now
  match ← client.find asked.1 (heard.headD Reply.silence) with
  | some volume => volumeResponse volume.id volume.sizeGigabytes
  | none =>
    if !contender.context.activity.now then throw (.cancelled (.text "CreateVolume"))
    let _ ← client.timeFor "CreateVolume" contender.context.clock.next.2.now
    let volume ← client.createdBy (heard.tail.headD Reply.silence)
    volumeResponse volume.id asked.2

variable {contender : Contender} {heard : List Reply}

/-- A run comes to what the replies say. -/
theorem outcome_of_run {transcript : List Event} {result : Except Failure Response}
    {after : Session}
    (hrun : CreationRun contender.request contender.service.setting transcript result)
    (hleads : (contender.service.sessionFor contender.context heard).Leads transcript after) :
    result = contender.outcome heard := by
  cases hrun with
  | invalid hrequest =>
      rw [outcome, hrequest]
      rfl
  | unready hrequest hclient =>
      rw [outcome, hrequest, ok_bind, hclient]
      rfl
  | @late _ client left _ hrequest hclient htime =>
      have hnow : contender.context.clock.now = left := hleads.now_clock
      rw [outcome, hrequest, ok_bind, hclient, ok_bind, hnow, htime]
      rfl
  | @listed name gigabytes client left timeout reply rest _ hrequest hclient htime hrest =>
      have hnow : contender.context.clock.now = left := hleads.now_clock
      obtain ⟨-, hreply, hleads⟩ := hleads
      have hheard : heard.headD Reply.silence = reply := hreply
      rw [outcome, hrequest, ok_bind, hclient, ok_bind, hnow, htime, ok_bind, hheard, Client.find]
      cases hrest with
      | unlisted hpage =>
          rw [hpage]
          rfl
      | unfit hpage hvolume | found hpage hvolume =>
          rw [hpage, ok_bind, hvolume]
          rfl
      | absent hpage hvolume hrest =>
          rw [hpage, ok_bind, hvolume, ok_bind]
          cases hrest with
          | cancelled =>
              have hgone : contender.context.activity.now = false := hleads.now_activity
              rw [hgone]
              rfl
          | late htime =>
              obtain ⟨hwaits, hlater⟩ : contender.context.activity.now = true ∧
                  contender.context.clock.next.2.now = _ := hleads.now_both
              rw [hwaits, hlater, htime]
              rfl
          | asked htime =>
              obtain ⟨hwaits, hlater⟩ : contender.context.activity.now = true ∧
                  contender.context.clock.next.2.now = _ := hleads.now_both
              have hposted : heard.tail.headD Reply.silence = _ := hleads.2.2.1
              rw [hwaits, hlater, htime, hposted]
              rfl

/-- A contender answers by its outcome and has sent its script. -/
theorem outcome_step (contender : Contender) (heard : List Reply) :
    (contender.service.step (.call contender.call contender.context heard)).1.outcome =
      .answered
        (settled (.creation none) ((contender.outcome heard).map ({ response := · })))
        (contender.script (heard.headD Reply.silence)) := by
  obtain ⟨houtcome, transcript, _, hleads, -, result, hrun, hhandled⟩ :=
    contender.service.outcome_of_supervised contender.call contender.context heard rfl
  rw [houtcome, hhandled, outcome_of_run hrun hleads, requestsOf_eq]
  rfl

/-! ## By what the listing shows -/

/-- What a contender asks for and with which client, where there is time for its listing. -/
structure Ready (contender : Contender) (name gigabytes : Value) (client : Client)
    (timeout : Value) : Prop where
  asks : contender.request.rule = .ok (name, gigabytes)
  opens : contender.service.setting.clientRule = .ok client
  inTime : client.timeFor "CreateVolume" contender.context.clock.now = .ok timeout

/-- A contender is ready, or is refused before it sends anything. -/
theorem ready_or_refused (contender : Contender) :
    (∃ name gigabytes client timeout, contender.Ready name gigabytes client timeout) ∨
      ∃ failure, contender.listingRequest = .error failure := by
  cases hlisting : contender.listingRequest with
  | error failure => exact .inr ⟨failure, rfl⟩
  | ok listed =>
      obtain ⟨⟨name, gigabytes⟩, hasks, hrest⟩ := bind_eq_ok.1 hlisting
      obtain ⟨client, hopens, hrest⟩ := bind_eq_ok.1 hrest
      obtain ⟨timeout, htime, -⟩ := bind_eq_ok.1 hrest
      exact .inl ⟨name, gigabytes, client, timeout, hasks, hopens, htime⟩

/-- What a contender is refused for is what it comes to. -/
theorem outcome_of_refused (contender : Contender) {failure : Failure}
    (hrefused : contender.listingRequest = .error failure) (heard : List Reply) :
    contender.outcome heard = .error failure := by
  rw [outcome]
  rcases bind_eq_error.1 hrefused with hasks | ⟨asked, hasks, hrest⟩
  · rw [hasks, error_bind]
  · rw [hasks, ok_bind]
    rcases bind_eq_error.1 hrest with hopens | ⟨client, hopens, hrest⟩
    · rw [hopens, error_bind]
    · rw [hopens, ok_bind]
      rcases bind_eq_error.1 hrest with htime | ⟨timeout, -, himpossible⟩
      · rw [htime, error_bind]
      · cases himpossible

/-- A contender that is refused sends nothing. -/
theorem step_of_refused (contender : Contender) {failure : Failure}
    (hrefused : contender.listingRequest = .error failure) (heard : List Reply) :
    (contender.service.step (.call contender.call contender.context heard)).1.outcome =
      .answered (settled (.creation none) (.error failure)) [] := by
  rw [outcome_step, outcome_of_refused contender hrefused, script, hrefused]
  rfl

namespace Ready

variable {name gigabytes timeout : Value} {client : Client}

/-- The listing is the first request of a contender that is ready. -/
theorem listingRequest (hready : contender.Ready name gigabytes client timeout) :
    contender.listingRequest = .ok (nameRequest contender.service.setting client name timeout) := by
  rw [Contender.listingRequest, hready.asks, ok_bind, hready.opens, ok_bind, hready.inTime]
  rfl

/-- Whether a volume is posted follows from what the listing shows. -/
theorem postingRequest (hready : contender.Ready name gigabytes client timeout) (listed : Reply) :
    contender.postingRequest listed = (do
      match ← client.find name listed with
      | some _ => return none
      | none =>
        if !contender.context.activity.now then throw (.cancelled (.text "CreateVolume"))
        let later ← client.timeFor "CreateVolume" contender.context.clock.next.2.now
        return some (creationRequest contender.service.setting client name gigabytes later)) := by
  rw [Contender.postingRequest, hready.asks, ok_bind, hready.opens, ok_bind, Client.find]
  cases client.pageOf listed <;> rfl

/-- What the contender comes to follows from what the listing shows. -/
theorem outcome (hready : contender.Ready name gigabytes client timeout) (heard : List Reply) :
    contender.outcome heard = (do
      match ← client.find name (heard.headD Reply.silence) with
      | some volume => volumeResponse volume.id volume.sizeGigabytes
      | none =>
        if !contender.context.activity.now then throw (.cancelled (.text "CreateVolume"))
        let _ ← client.timeFor "CreateVolume" contender.context.clock.next.2.now
        let volume ← client.createdBy (heard.tail.headD Reply.silence)
        volumeResponse volume.id gigabytes) := by
  rw [Contender.outcome, hready.asks, ok_bind, hready.opens, ok_bind, hready.inTime]
  rfl

/-- Where the listing fails, or shows volumes that do not fit, this is the failure of the call and
nothing else is sent. -/
theorem step_of_error (hready : contender.Ready name gigabytes client timeout) (heard : List Reply)
    {failure : Failure} (hfound : client.find name (heard.headD Reply.silence) = .error failure) :
    (contender.service.step (.call contender.call contender.context heard)).1.outcome =
      .answered (settled (.creation none) (.error failure))
        [nameRequest contender.service.setting client name timeout] := by
  rw [outcome_step, hready.outcome, script, hready.listingRequest, hready.postingRequest, hfound]
  rfl

/-- Where the listing shows a volume that fits, it is responded with and nothing else is sent. -/
theorem step_of_some (hready : contender.Ready name gigabytes client timeout) (heard : List Reply)
    {volume : Volume} (hfound : client.find name (heard.headD Reply.silence) = .ok (some volume)) :
    (contender.service.step (.call contender.call contender.context heard)).1.outcome =
      .answered
        (settled (.creation none)
          ((volumeResponse volume.id volume.sizeGigabytes).map ({ response := · })))
        [nameRequest contender.service.setting client name timeout] := by
  rw [outcome_step, hready.outcome, script, hready.listingRequest, hready.postingRequest, hfound]
  rfl

/-- Where the listing shows no volume to a caller that waits and leaves time, one is posted, and the
reply to this decides. -/
theorem step_of_none (hready : contender.Ready name gigabytes client timeout) (heard : List Reply)
    (hfound : client.find name (heard.headD Reply.silence) = .ok none)
    (hwaits : contender.context.activity.now = true) {later : Value}
    (hlater : client.timeFor "CreateVolume" contender.context.clock.next.2.now = .ok later) :
    (contender.service.step (.call contender.call contender.context heard)).1.outcome =
      .answered
        (settled (.creation none)
          ((do
            let volume ← client.createdBy (heard.tail.headD Reply.silence)
            volumeResponse volume.id gigabytes).map ({ response := · })))
        [nameRequest contender.service.setting client name timeout,
          creationRequest contender.service.setting client name gigabytes later] := by
  rw [outcome_step, hready.outcome, script, hready.listingRequest, hready.postingRequest, hfound,
    ok_bind, ok_bind]
  dsimp only
  rw [hwaits, hlater]
  rfl

/-- Where it shows no volume to a caller that has given up, nothing else is sent. -/
theorem step_of_gone (hready : contender.Ready name gigabytes client timeout) (heard : List Reply)
    (hfound : client.find name (heard.headD Reply.silence) = .ok none)
    (hgone : contender.context.activity.now = false) :
    (contender.service.step (.call contender.call contender.context heard)).1.outcome =
      .answered (settled (.creation none) (.error (.cancelled (.text "CreateVolume"))))
        [nameRequest contender.service.setting client name timeout] := by
  rw [outcome_step, hready.outcome, script, hready.listingRequest, hready.postingRequest, hfound,
    ok_bind, ok_bind]
  dsimp only
  rw [hgone]
  rfl

/-- A listing that was answered, but shows no page, is an internal failure. -/
theorem answers_unread (hready : contender.Ready name gigabytes client timeout) {status : Int}
    (hnoError : Reply.isErrorStatus status = false) (body : String) (later : List Reply)
    (hunread : ∀ page, (Reply.answer status body).shown ≠ .ok page) : ∃ failure,
      client.pageOf (.answer status body) = .error failure ∧
      contender.service.AnswersAfter contender.call contender.context
        (.answer status body :: later)
        [nameRequest contender.service.setting client name timeout]
        { response := .creation none
          status := some .internal
          details := some failure.message } := by
  cases hpage : client.pageOf (.answer status body) with
  | ok page => exact (hunread page ((client.pageOf_eq_ok_iff _ page).1 hpage)).elim
  | error failure =>
      have hfound : client.find name (.answer status body) = .error failure := by
        rw [Client.find, hpage, error_bind]
      have hinside := client.failsInside_pageOf hnoError body failure hpage
      refine ⟨failure, rfl, (hready.step_of_error (.answer status body :: later) hfound).trans ?_⟩
      rw [settled, hinside]
      rfl

variable {heard : List Reply} {page : Page} {volume : Volume}

/-- Several volumes of the name are an internal failure. -/
theorem answers_several (hready : contender.Ready name gigabytes client timeout)
    (hshown : (heard.headD Reply.silence).shown = .ok page) (hseveral : 2 ≤ page.volumes.length) :
    contender.service.AnswersAfter contender.call contender.context heard
      [nameRequest contender.service.setting client name timeout]
      { response := .creation none
        status := some .internal
        details := some (Failure.duplicateName name (.int page.volumes.length)).message } := by
  have hfound := client.find_of_shown name hshown
  rw [volumeOfName_of_several name hseveral] at hfound
  exact hready.step_of_error heard hfound

/-- A volume that another has created exists already. -/
theorem answers_foreign (hready : contender.Ready name gigabytes client timeout)
    (hshown : (heard.headD Reply.silence).shown = .ok page) (hsingle : page.volumes = [volume])
    (hforeign : volume.description ≠ .text ownershipTag) :
    contender.service.AnswersAfter contender.call contender.context heard
      [nameRequest contender.service.setting client name timeout]
      { response := .creation none
        status := some .alreadyExists
        details := some (Failure.notOwned volume.name volume.description).message } := by
  have hfound := client.find_of_shown name hshown
  rw [hsingle, volumeOfName_of_single, if_neg hforeign] at hfound
  exact hready.step_of_error heard hfound

/-- A volume of this plugin is responded with in its own size. -/
theorem answers_owned (hready : contender.Ready name gigabytes client timeout)
    (hshown : (heard.headD Reply.silence).shown = .ok page) (hsingle : page.volumes = [volume])
    (howned : volume.description = .text ownershipTag) {size : Int}
    (hsize : volume.sizeGigabytes = .int size)
    (hdigits : (Numeral.digits size.natAbs).length ≤ 4000) :
    contender.service.AnswersAfter contender.call contender.context heard
      [nameRequest contender.service.setting client name timeout]
      { response := .creation (some ⟨volume.id, .int (size * 2 ^ 30)⟩) } := by
  have hfound := client.find_of_shown name hshown
  rw [hsingle, volumeOfName_of_single, if_pos howned] at hfound
  refine (hready.step_of_some heard hfound).trans ?_
  rw [hsize, volumeResponse_of_int volume.id hdigits]
  rfl

/-- A volume that was posted is responded with in the size that was asked for. -/
theorem answers_posted (hready : contender.Ready name gigabytes client timeout)
    (hfound : client.find name (heard.headD Reply.silence) = .ok none)
    (hwaits : contender.context.activity.now = true) {later : Value}
    (hlater : client.timeFor "CreateVolume" contender.context.clock.next.2.now = .ok later)
    (hcreated : (heard.tail.headD Reply.silence).created = .ok volume) : ∃ capacity,
      Size.toBytes gigabytes = .ok capacity ∧
      contender.service.AnswersAfter contender.call contender.context heard
        [nameRequest contender.service.setting client name timeout,
          creationRequest contender.service.setting client name gigabytes later]
        { response := .creation (some ⟨volume.id, capacity⟩) } := by
  obtain ⟨-, -, hcheck⟩ := CreateVolumeRequest.rule_eq_ok hready.asks
  obtain ⟨response, hresponse⟩ := volumeResponse_of_check hcheck volume.id
  obtain ⟨capacity, hcapacity, rfl⟩ := volumeResponse_eq_ok hresponse
  refine ⟨capacity, hcapacity, (hready.step_of_none heard hfound hwaits hlater).trans ?_⟩
  rw [(client.createdBy_eq_ok_iff _ volume).2 hcreated, ok_bind, hresponse]
  rfl

end Ready

end Contender

namespace Service

variable (service : Service) (context : CallContext)

/-- How a valid creation with a client and time ends, by the answer to its listing. One that shows
no page is an internal failure, and so are several volumes of the name; one that another has created
exists already. A volume of this plugin is responded with in its own size. Where there is none, one
is posted for a caller that waits, in the size that was asked for, and responded with once the
provider shows it. -/
theorem creation_by_listing {request : CreateVolumeRequest} {name gigabytes : Value}
    {client : Client} {status : Int} (body : String) (later : List Reply)
    (hrequest : request.rule = .ok (name, gigabytes))
    (hclient : service.setting.clientRule = .ok client)
    (hdefault : client.defaultTimeout.IsPositive)
    (hclock : ∀ left ∈ context.clock.values, left = .null ∨ left.IsPositive)
    (hstatus : 200 ≤ status ∧ status ≤ 299) :
    ∃ timeout,
      ((∀ page, (Reply.answer status body).shown ≠ .ok page) → ∃ failure,
        client.pageOf (.answer status body) = .error failure ∧
        service.AnswersAfter (.createVolume request) context (.answer status body :: later)
          [nameRequest service.setting client name timeout]
          { response := .creation none
            status := some .internal
            details := some failure.message }) ∧
      ∀ page, (Reply.answer status body).shown = .ok page →
        (2 ≤ page.volumes.length →
          service.AnswersAfter (.createVolume request) context (.answer status body :: later)
            [nameRequest service.setting client name timeout]
            { response := .creation none
              status := some .internal
              details := some (Failure.duplicateName name (.int page.volumes.length)).message }) ∧
        (∀ volume, page.volumes = [volume] →
          (volume.description ≠ .text ownershipTag →
            service.AnswersAfter (.createVolume request) context (.answer status body :: later)
              [nameRequest service.setting client name timeout]
              { response := .creation none
                status := some .alreadyExists
                details := some (Failure.notOwned volume.name volume.description).message }) ∧
          (volume.description = .text ownershipTag → ∀ size : Int,
            volume.sizeGigabytes = .int size → (Numeral.digits size.natAbs).length ≤ 4000 →
            service.AnswersAfter (.createVolume request) context (.answer status body :: later)
              [nameRequest service.setting client name timeout]
              { response := .creation (some ⟨volume.id, .int (size * 2 ^ 30)⟩) })) ∧
        (page.volumes = [] → context.activity.now = true → ∃ posted : Request,
          posted.method = .post ∧ posted.url = client.apiUrl ++ "/v2/volumes" ∧
          posted.content = .json [("region", service.region), ("name", name),
            ("description", .text ownershipTag), ("size_gigabytes", gigabytes)] ∧
          service.requestsOf (.createVolume request) context (.answer status body :: later) =
            [nameRequest service.setting client name timeout, posted] ∧
          ∀ volume, (later.headD Reply.silence).created = .ok volume → ∃ capacity,
            Size.toBytes gigabytes = .ok capacity ∧
            (∀ size, gigabytes = .int size → capacity = .int (size * 2 ^ 30)) ∧
            service.AnswersAfter (.createVolume request) context (.answer status body :: later)
              [nameRequest service.setting client name timeout, posted]
              { response := .creation (some ⟨volume.id, capacity⟩) }) := by
  have hfirst : context.clock.now ∈ context.clock.values := List.mem_cons_self
  have hsecond : context.clock.next.2.now ∈ context.clock.values :=
    context.clock.mem_values_of_next.2 _ List.mem_cons_self
  obtain ⟨timeout, htime⟩ :=
    Client.timeFor_of_isPositive hdefault "CreateVolume" (hclock _ hfirst)
  obtain ⟨secondTime, hsecondTime⟩ :=
    Client.timeFor_of_isPositive hdefault "CreateVolume" (hclock _ hsecond)
  let contender : Contender := ⟨service, request, context⟩
  have hready : contender.Ready name gigabytes client timeout := ⟨hrequest, hclient, htime⟩
  have hnoError : Reply.isErrorStatus status = false := by
    rw [← Bool.not_eq_true, Reply.isErrorStatus_eq_true_iff]
    omega
  refine ⟨timeout, hready.answers_unread hnoError body later, ?_⟩
  intro page hshown
  have hheard : ((Reply.answer status body :: later).headD Reply.silence).shown = .ok page := hshown
  refine ⟨hready.answers_several hheard, ?_, ?_⟩
  · intro volume hsingle
    exact ⟨hready.answers_foreign hheard hsingle,
      fun howned size => hready.answers_owned hheard hsingle howned⟩
  · intro hnone hwaits
    have hfound : client.find name ((Reply.answer status body :: later).headD Reply.silence) =
        .ok none := by
      rw [client.find_of_shown name hheard, hnone]
      rfl
    have hstep := hready.step_of_none (.answer status body :: later) hfound hwaits hsecondTime
    refine ⟨creationRequest service.setting client name gigabytes secondTime, rfl, rfl, rfl,
      (Outcome.answered.inj hstep).2, ?_⟩
    intro volume hcreated
    obtain ⟨capacity, hcapacity, hanswers⟩ :=
      hready.answers_posted hfound hwaits hsecondTime hcreated
    refine ⟨capacity, hcapacity, ?_, hanswers⟩
    rintro size rfl
    cases hcapacity
    rfl

/-- A volume that was found is responded with in its own size, also where a larger one was asked
for, and one that was posted in the size that was asked for. -/
theorem found_or_posted :
    (∃ timeout, Retry.service.AnswersAfter Retry.larger {} [Retry.fullPage]
      [nameRequest Retry.service.setting Retry.client (.text "data") timeout]
      { response := .creation (some ⟨.text "v", .int (16 * 2 ^ 30)⟩) }) ∧
    ∃ timeout posted, posted.method = .post ∧
      Retry.service.AnswersAfter Retry.creation {} [Retry.emptyPage, Retry.createdAnswer]
        [nameRequest Retry.service.setting Retry.client (.text "data") timeout, posted]
        { response := .creation (some ⟨.text "v", .int (16 * 2 ^ 30)⟩) } := by
  have hdefault : Retry.client.defaultTimeout.IsPositive := ⟨.int 30, rfl, by decide⟩
  have hclock := CallContext.isPatient_default.time
  have hstatus : (200 : Int) ≤ 200 ∧ (200 : Int) ≤ 299 := by decide
  constructor
  · have hrequest : CreateVolumeRequest.rule {
        name := .text "data"
        capabilities := some [some ⟨.number 1⟩]
        range := some ⟨.int (32 * Size.gib), .int 0⟩ } = .ok (.text "data", .int 32) := by
      decide +kernel
    obtain ⟨timeout, -, hlisted⟩ := creation_by_listing Retry.service {} _ [] hrequest
      Retry.clientRule_service hdefault hclock hstatus
    obtain ⟨-, hsingle, -⟩ := hlisted _ Retry.shown_fullPage
    exact ⟨timeout, (hsingle _ rfl).2 rfl 16 rfl (by decide)⟩
  · have hrequest : CreateVolumeRequest.rule {
        name := .text "data"
        capabilities := some [some ⟨.number 1⟩] } = .ok (.text "data", .int 16) := by
      decide +kernel
    obtain ⟨timeout, -, hlisted⟩ := creation_by_listing Retry.service {} _ [Retry.createdAnswer]
      hrequest Retry.clientRule_service hdefault hclock hstatus
    obtain ⟨-, -, hnone⟩ := hlisted _ Retry.shown_emptyPage
    obtain ⟨posted, hmethod, -, -, -, hcreated⟩ := hnone rfl rfl
    obtain ⟨capacity, -, hcapacity, hanswers⟩ := hcreated _ Retry.created_createdAnswer
    rw [hcapacity 16 rfl] at hanswers
    exact ⟨timeout, posted, hmethod, hanswers⟩

end Service

end VolumePlugin
