/-
# A creation reply by reply

A creation is at rest while it waits for a reply. What it sends next depends on the replies that it
has heard: its first request on none of them, and its second on the first. So it can be made to go
on by one reply at a time, and its requests and its answer are then those of the call as a whole.
-/
import VolumePlugin.Proofs.Precedence
import VolumePlugin.Proofs.ServedCalls

namespace VolumePlugin

/-! ## Calls that go on reply by reply -/

/-- A call that creates a volume, with the service that makes it and what its caller says. -/
structure Contender where
  service : Service
  request : CreateVolumeRequest
  context : CallContext := {}

namespace Contender

variable (contender : Contender)

/-- The call of a contender. -/
def call : Call := .createVolume contender.request

/-- The request that a contender sends behind the replies that it has heard, none where it has
come to its end. -/
def next? (heard : List Reply) : Option Request :=
  (contender.service.requestsOf contender.call contender.context heard)[heard.length]?

/-- What a contender answers behind the replies that it has heard, none where it goes on. -/
def result? (heard : List Reply) : Option (Except Failure Answer) :=
  match contender.next? heard with
  | some _ => none
  | none =>
    some ((contender.call.perform contender.service.setting).runIn
      (contender.service.sessionFor contender.context heard)).1

end Contender

/-! ## The requests -/

namespace Contender

variable (contender : Contender)

/-- The request by which a contender asks for the volumes of the name. -/
def listingRequest : Except Failure Request := do
  let asked ← contender.request.rule
  let client ← contender.service.setting.clientRule
  let timeout ← client.timeFor "CreateVolume" contender.context.clock.now
  return nameRequest contender.service.setting client asked.1 timeout

/-- The request by which it posts a volume behind the reply to the first, none where it was shown
one. -/
def postingRequest (listed : Reply) : Except Failure (Option Request) := do
  let asked ← contender.request.rule
  let client ← contender.service.setting.clientRule
  let page ← client.pageOf listed
  match ← volumeOfName asked.1 page.volumes with
  | some _ => return none
  | none =>
    if !contender.context.activity.now then throw (.cancelled (.text "CreateVolume"))
    let timeout ← client.timeFor "CreateVolume" contender.context.clock.next.2.now
    return some (creationRequest contender.service.setting client asked.1 asked.2 timeout)

/-- All requests of a contender, by the reply to the first of them. -/
def script (listed : Reply) : List Request :=
  match contender.listingRequest with
  | .error _ => []
  | .ok asked =>
    match contender.postingRequest listed with
    | .ok (some posted) => [asked, posted]
    | _ => [asked]

variable {contender} {heard : List Reply}

/-- The requests of a run are those of the script. -/
theorem script_of_run {transcript : List Event} {outcome : Except Failure Response}
    {after : Session}
    (hrun : CreationRun contender.request contender.service.setting transcript outcome)
    (hleads : (contender.service.sessionFor contender.context heard).Leads transcript after) :
    (exchangesOf transcript).map Prod.fst = contender.script (heard.headD Reply.silence) := by
  cases hrun with
  | invalid hrequest =>
      rw [script, listingRequest, hrequest]
      rfl
  | unready hrequest hclient =>
      rw [script, listingRequest, hrequest, ok_bind, hclient]
      rfl
  | @late _ client left _ hrequest hclient htime =>
      have hnow : contender.context.clock.now = left := hleads.now_clock
      rw [script, listingRequest, hrequest, ok_bind, hclient, ok_bind, hnow, htime]
      rfl
  | @listed name gigabytes client left timeout reply rest _ hrequest hclient htime hrest =>
      have hnow : contender.context.clock.now = left := hleads.now_clock
      obtain ⟨-, hreply, hleads⟩ := hleads
      have hasked : contender.listingRequest =
          .ok (nameRequest contender.service.setting client name timeout) := by
        rw [listingRequest, hrequest, ok_bind, hclient, ok_bind, hnow, htime]
        rfl
      have hheard : heard.headD Reply.silence = reply := hreply
      rw [script, hasked, hheard, postingRequest, hrequest, ok_bind, hclient, ok_bind]
      cases hrest with
      | unlisted hpage =>
          rw [hpage]
          rfl
      | unfit hpage hvolume | found hpage hvolume =>
          rw [hpage, ok_bind, hvolume]
          rfl
      | absent hpage hvolume hrest =>
          rw [hpage, ok_bind, hvolume, ok_bind]
          cases hrest with
          | cancelled =>
              have hgone : contender.context.activity.now = false := hleads.now_activity
              rw [hgone]
              rfl
          | late htime | asked htime =>
              obtain ⟨hwaits, hlater⟩ : contender.context.activity.now = true ∧
                  contender.context.clock.next.2.now = _ := hleads.now_both
              rw [hwaits, hlater, htime]
              rfl

/-- The requests of a contender are those of its script. -/
theorem requestsOf_eq (contender : Contender) (heard : List Reply) :
    contender.service.requestsOf contender.call contender.context heard =
      contender.script (heard.headD Reply.silence) := by
  obtain ⟨-, transcript, _, hleads, hexchanges, outcome, hrun, -⟩ :=
    contender.service.outcome_of_supervised contender.call contender.context heard rfl
  rw [← Service.map_fst_exchanges, hexchanges]
  exact script_of_run hrun hleads

theorem next?_eq (contender : Contender) (heard : List Reply) :
    contender.next? heard = (contender.script (heard.headD Reply.silence))[heard.length]? := by
  rw [next?, requestsOf_eq]

theorem getElem?_script_zero (contender : Contender) (listed : Reply) :
    (contender.script listed)[0]? = contender.listingRequest.toOption := by
  rw [script]
  cases contender.listingRequest with
  | error failure => rfl
  | ok asked =>
      dsimp only
      split <;> rfl

/-- A contender posts a volume where the script says so, behind the listing. -/
theorem getElem?_script_one {listed : Reply} {posted : Request}
    (hposted : (contender.script listed)[1]? = some posted) :
    contender.postingRequest listed = .ok (some posted) := by
  rw [script] at hposted
  split at hposted
  · cases hposted
  · split at hposted
    · rename_i hrequest
      cases hposted
      exact hrequest
    · cases hposted

theorem length_script_le (contender : Contender) (listed : Reply) :
    (contender.script listed).length ≤ 2 := by
  rw [script]
  split
  · exact Nat.zero_le 2
  · split
    · exact Nat.le_refl 2
    · exact Nat.le_succ 1

/-- What a contender sends first depends on no reply. -/
theorem listing_of_listingRequest {request : Request}
    (hrequest : contender.listingRequest = .ok request) :
    contender.request.name.truthy = true ∧ ∃ client timeout,
      request = nameRequest contender.service.setting client contender.request.name timeout := by
  obtain ⟨⟨name, gigabytes⟩, hasked, hrest⟩ := bind_eq_ok.1 hrequest
  obtain ⟨client, -, hrest⟩ := bind_eq_ok.1 hrest
  obtain ⟨timeout, -, hrest⟩ := bind_eq_ok.1 hrest
  obtain ⟨rfl, htruthy, -⟩ := CreateVolumeRequest.rule_eq_ok hasked
  cases hrest
  exact ⟨htruthy, client, timeout, rfl⟩

/-- A contender posts a volume where it was shown a page without any, and nothing else. -/
theorem posting_of_postingRequest {listed : Reply} {request : Request}
    (hrequest : contender.postingRequest listed = .ok (some request)) :
    ∃ page client gigabytes timeout, listed.shown = .ok page ∧ page.volumes = [] ∧
      request = creationRequest contender.service.setting client contender.request.name gigabytes
        timeout := by
  obtain ⟨⟨name, gigabytes⟩, hasked, hrest⟩ := bind_eq_ok.1 hrequest
  obtain ⟨client, -, hrest⟩ := bind_eq_ok.1 hrest
  obtain ⟨page, hpage, hrest⟩ := bind_eq_ok.1 hrest
  obtain ⟨volume, hvolume, hrest⟩ := bind_eq_ok.1 hrest
  obtain ⟨rfl, -, -⟩ := CreateVolumeRequest.rule_eq_ok hasked
  rw [client.pageOf_eq_ok_iff] at hpage
  cases volume with
  | some volume => cases hrest
  | none =>
      dsimp only at hrest
      split at hrest
      · cases hrest
      · obtain ⟨timeout, -, hrest⟩ := bind_eq_ok.1 hrest
        cases hrest
        exact ⟨page, client, gigabytes, timeout, hpage, eq_toList_of_volumeOfName hvolume, rfl⟩

/-- A contender asks for the volumes of the name at first. It posts a volume next where it was shown
none, and nothing else. -/
theorem request_of_next? {request : Request} (hnext : contender.next? heard = some request) :
    (heard = [] ∧ contender.request.name.truthy = true ∧ ∃ client timeout,
      request = nameRequest contender.service.setting client contender.request.name timeout) ∨
    ∃ listed page client gigabytes timeout, heard = [listed] ∧ listed.shown = .ok page ∧
      page.volumes = [] ∧
      request =
        creationRequest contender.service.setting client contender.request.name gigabytes
          timeout := by
  rw [next?_eq] at hnext
  match heard with
  | [] =>
      rw [List.length_nil, getElem?_script_zero] at hnext
      cases hfirst : contender.listingRequest with
      | error failure =>
          rw [hfirst] at hnext
          cases hnext
      | ok asked =>
          rw [hfirst] at hnext
          cases hnext
          obtain ⟨htruthy, hrequest⟩ := listing_of_listingRequest hfirst
          exact .inl ⟨rfl, htruthy, hrequest⟩
  | [listed] =>
      obtain ⟨page, client, gigabytes, timeout, hshown, hnone, hrequest⟩ :=
        posting_of_postingRequest (getElem?_script_one hnext)
      exact .inr ⟨listed, page, client, gigabytes, timeout, rfl, hshown, hnone, hrequest⟩
  | listed :: second :: rest =>
      have hshort := contender.length_script_le listed
      obtain ⟨hlong, -⟩ := List.getElem?_eq_some_iff.1 hnext
      simp only [List.headD_cons, List.length_cons] at hlong
      omega

/-- The turns of a contender are its requests with the replies that it has heard. -/
theorem getElem?_turns (contender : Contender) (heard : List Reply) (i : Nat) :
    (contender.service.exchanges contender.call contender.context heard)[i]? =
      (contender.service.requestsOf contender.call contender.context heard)[i]?.map
        fun request => (request, heard.getD i Reply.silence) :=
  List.getElem?_mapIdx

/-- A reply does not change the requests before it. -/
theorem getElem?_requestsOf_concat (contender : Contender) (heard : List Reply) (reply : Reply)
    {i : Nat} (hi : i ≤ heard.length) :
    (contender.service.requestsOf contender.call contender.context (heard ++ [reply]))[i]? =
      (contender.service.requestsOf contender.call contender.context heard)[i]? := by
  rw [requestsOf_eq, requestsOf_eq]
  cases heard with
  | nil =>
      obtain rfl : i = 0 := Nat.le_zero.1 hi
      rw [getElem?_script_zero, getElem?_script_zero]
  | cons listed rest => rfl

/-- With a reply more, a contender has one turn more. -/
theorem take_turns_concat {request : Request} (hnext : contender.next? heard = some request)
    (reply : Reply) :
    (contender.service.exchanges contender.call contender.context (heard ++ [reply])).take
        (heard.length + 1) =
      (contender.service.exchanges contender.call contender.context heard).take heard.length ++
        [(request, reply)] := by
  have hlast : (contender.service.exchanges contender.call contender.context
      (heard ++ [reply]))[heard.length]? = some (request, reply) := by
    rw [getElem?_turns, getElem?_requestsOf_concat contender heard reply (Nat.le_refl _)]
    rw [next?] at hnext
    simp [hnext]
  rw [List.take_add_one, hlast]
  congr 1
  apply List.ext_getElem?
  intro i
  rw [List.getElem?_take, List.getElem?_take]
  split
  · rename_i hi
    rw [getElem?_turns, getElem?_turns,
      getElem?_requestsOf_concat contender heard reply (Nat.le_of_lt hi),
      List.getD_eq_getElem?_getD, List.getD_eq_getElem?_getD, List.getElem?_append_left hi]
  · rfl

end Contender

/-! ## The answer -/

/-- A creation that responds with a volume was shown this volume alone, or posted it. -/
theorem CreationRun.volume_of_ok {request : CreateVolumeRequest} {setting : Setting}
    {transcript : List Event} {outcome : Except Failure Response} {response : Response}
    (hrun : CreationRun request setting transcript outcome) (houtcome : outcome = .ok response) :
    ∃ volume capacity, response = .creation (some ⟨volume.id, capacity⟩) ∧
      ((∃ asked reply page, exchangesOf transcript = [(asked, reply)] ∧
        reply.shown = .ok page ∧ page.volumes = [volume]) ∨
      ∃ asked listed posted reply, exchangesOf transcript = [(asked, listed), (posted, reply)] ∧
        reply.created = .ok volume) := by
  cases hrun with
  | invalid | unready | late => cases houtcome
  | @listed name gigabytes client _ timeout reply _ _ hrequest hclient htime hrest =>
      cases hrest with
      | unlisted | unfit => cases houtcome
      | @found page volume hpage hvolume =>
          rw [client.pageOf_eq_ok_iff] at hpage
          obtain ⟨capacity, -, hresponse⟩ := volumeResponse_eq_ok houtcome
          exact ⟨volume, capacity, hresponse,
            .inl ⟨_, _, page, rfl, hpage, eq_toList_of_volumeOfName hvolume⟩⟩
      | absent hpage hvolume hrest =>
          cases hrest with
          | cancelled | late => cases houtcome
          | asked =>
              obtain ⟨volume, hcreated, hanswered⟩ := bind_eq_ok.1 houtcome
              rw [client.createdBy_eq_ok_iff] at hcreated
              obtain ⟨capacity, -, hresponse⟩ := volumeResponse_eq_ok hanswered
              exact ⟨volume, capacity, hresponse, .inr ⟨_, _, _, _, rfl, hcreated⟩⟩

/-- Several volumes are no volume of the name. -/
theorem volumeOfName_of_several (name : Value) {volumes : List Volume}
    (hseveral : 2 ≤ volumes.length) :
    volumeOfName name volumes = .error (.duplicateName name (.int volumes.length)) := by
  match volumes with
  | [] => simp at hseveral
  | [_] => simp at hseveral
  | _ :: _ :: _ => rfl

/-- A creation that is shown several volumes fails there. -/
theorem CreationRun.error_of_several {request : CreateVolumeRequest} {setting : Setting}
    {transcript : List Event} {outcome : Except Failure Response}
    (hrun : CreationRun request setting transcript outcome) {asked : Request} {reply : Reply}
    {rest : List (Request × Reply)} {page : Page}
    (hturns : exchangesOf transcript = (asked, reply) :: rest) (hshown : reply.shown = .ok page)
    (hseveral : 2 ≤ page.volumes.length) :
    rest = [] ∧ outcome = .error (.duplicateName request.name (.int page.volumes.length)) := by
  cases hrun with
  | invalid | unready | late => cases hturns
  | @listed name gigabytes client _ timeout _ _ _ hrequest hclient htime hrest =>
      cases hturns
      obtain ⟨rfl, -, -⟩ := CreateVolumeRequest.rule_eq_ok hrequest
      have hduplicate := volumeOfName_of_several request.name hseveral
      rw [← client.pageOf_eq_ok_iff] at hshown
      cases hrest with
      | unlisted hpage =>
          rw [hshown] at hpage
          cases hpage
      | unfit hpage hvolume =>
          rw [hshown] at hpage
          cases hpage
          rw [hduplicate] at hvolume
          cases hvolume
          exact ⟨rfl, rfl⟩
      | found hpage hvolume | absent hpage hvolume =>
          rw [hshown] at hpage
          cases hpage
          rw [hduplicate] at hvolume
          cases hvolume

namespace Contender

variable {contender : Contender} {heard : List Reply}

/-- A contender that has come to its end had a run of a creation, with no more requests than it has
heard replies. -/
theorem run_of_result? {result : Except Failure Answer}
    (hresult : contender.result? heard = some result) :
    ∃ transcript outcome,
      CreationRun contender.request contender.service.setting transcript outcome ∧
      contender.service.exchanges contender.call contender.context heard =
        exchangesOf transcript ∧
      (exchangesOf transcript).length ≤ heard.length ∧
      result = settled (.creation none) (outcome.map ({ response := · })) := by
  obtain ⟨houtcome, transcript, _, -, hexchanges, outcome, hrun, hhandled⟩ :=
    contender.service.outcome_of_supervised contender.call contender.context heard rfl
  rw [result?] at hresult
  split at hresult
  · cases hresult
  · rename_i hended
    cases hresult
    rw [Service.outcome_call, Outcome.answered.injEq] at houtcome
    refine ⟨transcript, outcome, hrun, hexchanges, ?_, ?_⟩
    · rw [← hexchanges, Service.exchanges, List.length_mapIdx]
      exact List.getElem?_eq_none_iff.1 hended
    · rw [houtcome.1, hhandled]
      rfl

/-- A contender that answers with success has heard of the volume that it answers with: it was shown
this volume alone, or posted it. -/
theorem volume_of_result? {answer : Answer} (hresult : contender.result? heard = some (.ok answer))
    (hplain : answer.status = none) :
    ∃ volume capacity, answer.response = .creation (some ⟨volume.id, capacity⟩) ∧
      ((∃ reply rest page, heard = reply :: rest ∧ reply.shown = .ok page ∧
        page.volumes = [volume]) ∨
      ∃ listed reply rest, heard = listed :: reply :: rest ∧ reply.created = .ok volume) := by
  obtain ⟨transcript, outcome, hrun, hexchanges, hlength, hanswer⟩ := run_of_result? hresult
  have hturn (i : Nat) := contender.getElem?_turns heard i
  rw [hexchanges] at hturn
  obtain ⟨response, houtcome, rfl⟩ := response_of_settled hanswer.symm hplain
  obtain ⟨volume, capacity, hresponse, hheard⟩ := hrun.volume_of_ok houtcome
  refine ⟨volume, capacity, hresponse, ?_⟩
  rcases hheard with ⟨asked, reply, page, hturns, hshown, hvolumes⟩ |
    ⟨asked, listed, posted, reply, hturns, hcreated⟩
  · rw [hturns] at hturn hlength
    obtain ⟨_, -, hfirst⟩ := Option.map_eq_some_iff.1 (hturn 0).symm
    cases heard with
    | nil => cases hlength
    | cons first rest =>
        cases hfirst
        exact .inl ⟨_, _, page, rfl, hshown, hvolumes⟩
  · rw [hturns] at hturn hlength
    obtain ⟨_, -, hsecond⟩ := Option.map_eq_some_iff.1 (hturn 1).symm
    match heard with
    | [] => cases hlength
    | [_] => simp at hlength
    | first :: second :: rest =>
        cases hsecond
        exact .inr ⟨_, _, _, rfl, hcreated⟩

/-- A contender that is shown several volumes of the name comes to its end with a failure. -/
theorem result?_of_several {request : Request} {reply : Reply} {page : Page}
    (hnext : contender.next? [] = some request) (hshown : reply.shown = .ok page)
    (hseveral : 2 ≤ page.volumes.length) :
    contender.result? [reply] = some (.ok {
      response := .creation none
      status := some .internal
      details := some (Failure.duplicateName contender.request.name
        (.int page.volumes.length)).message }) := by
  have hsends : contender.service.requestsOf contender.call contender.context [reply] ≠ [] := by
    have hlisting := contender.getElem?_requestsOf_concat [] reply (Nat.le_refl 0)
    intro hnone
    rw [List.nil_append, hnone] at hlisting
    cases hlisting.trans hnext
  obtain ⟨houtcome, transcript, _, -, hexchanges, outcome, hrun, hhandled⟩ :=
    contender.service.outcome_of_supervised contender.call contender.context [reply] rfl
  have hfirst := contender.getElem?_turns [reply] 0
  obtain ⟨asked, rest, hsent⟩ := List.exists_cons_of_ne_nil hsends
  have hlength : (exchangesOf transcript).length = rest.length + 1 := by
    rw [← hexchanges, Service.exchanges, List.length_mapIdx, hsent, List.length_cons]
  rw [hexchanges, hsent] at hfirst
  cases hturns : exchangesOf transcript with
  | nil =>
      rw [hturns] at hlength
      cases hlength
  | cons turn others =>
      rw [hturns] at hfirst hlength
      cases hfirst
      obtain ⟨rfl, hfailed⟩ := hrun.error_of_several hturns hshown hseveral
      have hended : rest = [] := List.eq_nil_of_length_eq_zero (Nat.succ.inj hlength).symm
      rw [Service.outcome_call, Outcome.answered.injEq, hhandled, hfailed] at houtcome
      rw [result?, next?, hsent, hended]
      exact congrArg some houtcome.1

end Contender

end VolumePlugin
