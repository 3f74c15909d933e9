/-
# The requests of a call

A call may change something at the provider by its last request only, and it sends nothing behind a
request that came to nothing. What the calls have in common here is shown from the requests that
each kind of call can send at all: one for a change, a listing and then perhaps a creation, pages of
a listing, or none. It holds of each call in a run of steps, whatever was done before.
-/
import VolumePlugin.Proofs.ServedCalls

namespace VolumePlugin

open VolumePlugin.Action

/-! ## Replies that end a call -/

/-- A reply behind which there is nothing to go on with: the request was lost or broken off, or the
answer reports an error, or it has content that cannot be read. -/
def Reply.EndsCall : Reply → Prop
  | .lost _ | .broken .. => True
  | .answer status body =>
    400 ≤ status ∧ status < 600 ∨
      status ≠ 204 ∧ body ≠ "" ∧ ∀ value, Json.read body ≠ .ok value

/-- A reply with a value does not end a call. -/
theorem Reply.not_endsCall_of_value {method : Method} {url : String} {reply : Reply} {value : Value}
    (hvalue : reply.value method url = .ok value) : ¬ reply.EndsCall := by
  cases reply with
  | lost report => cases hvalue
  | broken sort report => cases hvalue
  | answer status body =>
      rw [Reply.value] at hvalue
      by_cases hstatus : Reply.isErrorStatus status = true
      · rw [if_pos hstatus] at hvalue
        obtain ⟨details, -, himpossible⟩ := bind_eq_ok.1 hvalue
        cases himpossible
      · rw [if_neg hstatus, Reply.content] at hvalue
        rintro (herror | ⟨hcontent, hbody, hunread⟩)
        · exact hstatus (by simpa [Reply.isErrorStatus] using herror)
        · rw [if_neg (not_or.2 ⟨hcontent, hbody⟩)] at hvalue
          cases hread : Json.read body with
          | ok read => exact hunread read hread
          | error fault =>
              rw [hread] at hvalue
              cases fault <;> cases hvalue

/-- A reply that shows a page does not end a call. -/
theorem Reply.not_endsCall_of_shown {reply : Reply} {page : Page}
    (hshown : reply.shown = .ok page) : ¬ reply.EndsCall := by
  obtain ⟨value, hvalue, -⟩ := bind_eq_ok.1 hshown
  exact Reply.not_endsCall_of_value hvalue

/-! ## What each kind of call sends -/

/-- A request of a method at an address. -/
structure Request.IsAt (request : Request) (method : Method) (url : String) : Prop where
  method : request.method = method
  url : request.url = url

/-- The exchanges of a call that creates a volume: none, or a listing of the volumes of the name, or
this and the creation, where the listing showed no volume. -/
inductive CreationTurns (request : CreateVolumeRequest) (setting : Setting) :
    List (Request × Reply) → Prop
  | none : CreationTurns request setting []
  | listed {client : Client} {timeout : Value} {reply : Reply}
      (hname : request.name.truthy = true) (hclient : setting.clientRule = .ok client) :
      CreationTurns request setting [(nameRequest setting client request.name timeout, reply)]
  | created {client : Client} {timeout later gigabytes : Value} {listed reply : Reply} {page : Page}
      (hname : request.name.truthy = true) (hclient : setting.clientRule = .ok client)
      (hshown : listed.shown = .ok page) (hnone : page.volumes = []) :
      CreationTurns request setting
        [(nameRequest setting client request.name timeout, listed),
          (creationRequest setting client request.name gigabytes later, reply)]

/-- A call that creates a volume has such exchanges. -/
theorem CreationRun.turns {request : CreateVolumeRequest} {setting : Setting}
    {transcript : List Event} {result : Except Failure Response}
    (hrun : CreationRun request setting transcript result) :
    CreationTurns request setting (exchangesOf transcript) := by
  cases hrun with
  | invalid | unready | late => exact .none
  | @listed name gigabytes client _ timeout reply rest _ hrequest hclient _ hrest =>
      obtain ⟨rfl, hname, -⟩ := CreateVolumeRequest.rule_eq_ok hrequest
      cases hrest with
      | unlisted | unfit | found => exact .listed hname hclient
      | @absent page _ _ hpage hvolume hrest =>
          rw [client.pageOf_eq_ok_iff] at hpage
          cases hrest with
          | cancelled | late => exact .listed hname hclient
          | asked => exact .created hname hclient hpage (eq_toList_of_volumeOfName hvolume)

/-- The exchanges of a call that asks for a change: one at most, for what was asked. -/
theorem ChangeCallRun.turns {setting : Setting} {call : String} {fragments : List String}
    {wanted : ErrorClass} {asked : Except Failure Operation} {response : Response}
    {transcript : List Event} {result : Except Failure Response}
    (hrun : ChangeCallRun setting call fragments wanted asked response transcript result) :
    exchangesOf transcript = [] ∨
      ∃ operation client timeout reply, asked = .ok operation ∧ setting.clientRule = .ok client ∧
        exchangesOf transcript = [(client.request operation timeout, reply)] := by
  cases hrun with
  | invalid | unready => exact .inl rfl
  | changed hasked hclient hrun =>
      cases hrun with
      | late => exact .inl rfl
      | asked => exact .inr ⟨_, _, _, _, hasked, hclient, rfl⟩

/-- An element of a list without its last is the first one, or one of the rest without its last. -/
theorem mem_dropLast_cons {α : Type} {a first : α} {rest : List α}
    (ha : a ∈ (first :: rest).dropLast) : a = first ∨ a ∈ rest.dropLast := by
  cases rest with
  | nil => cases ha
  | cons next rest => exact List.mem_cons.1 ha

/-- A listing asks for pages, and behind each but the last it was shown the page. -/
theorem PagesRun.turns {setting : Setting} {client : Client} {perPage : Value} {page : Int}
    {transcript : List Event} {result : Except Failure (List Volume × Int)}
    (hrun : PagesRun setting client perPage page transcript result) :
    (∀ turn ∈ exchangesOf transcript,
      turn.1.IsAt .get (client.apiUrl ++ Operation.volumesPath)) ∧
    ∀ turn ∈ (exchangesOf transcript).dropLast, ¬ turn.2.EndsCall := by
  have hpage (page : Int) (timeout : Value) :
      (pageRequest setting client perPage page timeout).IsAt .get
        (client.apiUrl ++ Operation.volumesPath) := ⟨rfl, rfl⟩
  induction hrun with
  | cancelled | late => exact ⟨by simp, by simp⟩
  | failed | finished => exact ⟨by simp [hpage], by simp⟩
  | @goOn page nextPage left timeout reply volumes rest result htime hturn hrest ih =>
      simp only [exchangesOf_activity, exchangesOf_clock, exchangesOf_exchange]
      obtain ⟨hgets, hheard⟩ := ih
      constructor
      · intro turn hmember
        rcases List.mem_cons.1 hmember with rfl | hmember
        · exact hpage page timeout
        · exact hgets turn hmember
      · intro turn hmember
        rcases mem_dropLast_cons hmember with rfl | hmember
        · obtain ⟨fetched, hfetched, -⟩ := bind_eq_ok.1 hturn
          exact Reply.not_endsCall_of_shown ((client.pageOf_eq_ok_iff reply fetched).1 hfetched)
        · exact hheard turn hmember

/-! ## What requests ask for -/

/-- A request to publish asks to attach the volume that it names. -/
theorem PublishVolumeRequest.operation_eq_ok {request : PublishVolumeRequest} {region : Value}
    {operation : Operation} (hoperation : request.operation region = .ok operation) :
    ∃ dropletId, operation = .attach request.volumeId dropletId region := by
  obtain ⟨ids, hrule, hattach⟩ := bind_eq_ok.1 hoperation
  obtain ⟨dropletId, -, hattach⟩ := bind_eq_ok.1 hattach
  cases hattach
  obtain ⟨volumeId, hvolume, hrule⟩ := bind_eq_ok.1 hrule
  obtain ⟨nodeId, -, hrule⟩ := bind_eq_ok.1 hrule
  have hids : ids = (volumeId, nodeId) := by
    cases hcapability : request.capability with
    | none =>
        rw [hcapability] at hrule
        cases hrule
        rfl
    | some capability =>
        rw [hcapability] at hrule
        obtain ⟨_, -, hrule⟩ := bind_eq_ok.1 hrule
        cases hrule
        rfl
  rw [hids, (requireParameter_eq_ok hvolume).1]
  exact ⟨_, rfl⟩

/-- A request to unpublish asks to detach the volume that it names. -/
theorem UnpublishVolumeRequest.operation_eq_ok {request : UnpublishVolumeRequest} {region : Value}
    {operation : Operation} (hoperation : request.operation region = .ok operation) :
    ∃ dropletId, operation = .detach request.volumeId dropletId region := by
  obtain ⟨ids, hrule, hdetach⟩ := bind_eq_ok.1 hoperation
  obtain ⟨dropletId, -, hdetach⟩ := bind_eq_ok.1 hdetach
  cases hdetach
  obtain ⟨volumeId, hvolume, hrule⟩ := bind_eq_ok.1 hrule
  obtain ⟨nodeId, -, hrule⟩ := bind_eq_ok.1 hrule
  cases hrule
  rw [(requireParameter_eq_ok hvolume).1]
  exact ⟨_, rfl⟩

/-! ## The discipline of a call -/

/-- The one request of a call that asks for a change, of a method at an address. -/
def AsksOnce (turns : List (Request × Reply)) (method : Method) (url : String)
    (content : Content → Prop) : Prop :=
  turns.length ≤ 1 ∧ ∀ turn ∈ turns, turn.1.IsAt method url ∧ content turn.1.content

/-- The requests that a call may send to a provider at an address, with the replies that they
get. -/
def Call.MaySend (call : Call) (address : String) (turns : List (Request × Reply)) : Prop :=
  match call with
  | .createVolume request =>
    turns.length ≤ 2 ∧
    (∀ turn, turns[0]? = some turn → turn.1.IsAt .get (address ++ "/v2/volumes") ∧
      turn.1.content.parameter "name" = request.name) ∧
    ∀ turn, turns[1]? = some turn → turn.1.IsAt .post (address ++ "/v2/volumes") ∧
      ∃ listing page, turns[0]? = some listing ∧ listing.2.shown = .ok page ∧ page.volumes = []
  | .deleteVolume request =>
    AsksOnce turns .delete (address ++ ("/v2/volumes/" ++ request.volumeId.display)) fun _ => True
  | .publishVolume request =>
    AsksOnce turns .post (address ++ ("/v2/volumes/" ++ request.volumeId.display ++ "/actions"))
      (·.parameter "type" = .text "attach")
  | .unpublishVolume request =>
    AsksOnce turns .post (address ++ ("/v2/volumes/" ++ request.volumeId.display ++ "/actions"))
      (·.parameter "type" = .text "detach")
  | .listVolumes _ => ∀ turn ∈ turns, turn.1.IsAt .get (address ++ "/v2/volumes")
  | _ => turns = []

/-- Every request but the last one only reads, and came to something. -/
def Orderly (turns : List (Request × Reply)) : Prop :=
  ∀ turn ∈ turns.dropLast, turn.1.method = .get ∧ ¬ turn.2.EndsCall

/-- A single exchange has none before it. -/
theorem orderly_of_length_le {turns : List (Request × Reply)} (hlength : turns.length ≤ 1) :
    Orderly turns := by
  cases turns with
  | nil => simp [Orderly]
  | cons turn rest =>
      have hrest : rest = [] := List.eq_nil_of_length_eq_zero (by simpa using hlength)
      simp [Orderly, hrest]

/-- What came to nothing stands last. -/
theorem Orderly.getLast?_eq {turns : List (Request × Reply)} (horderly : Orderly turns) {i : Nat}
    {turn : Request × Reply} (hturn : turns[i]? = some turn) (hends : turn.2.EndsCall) :
    turns.getLast? = some turn := by
  obtain ⟨hi, -⟩ := List.getElem?_eq_some_iff.1 hturn
  rw [List.getLast?_eq_getElem?]
  by_cases hlast : i < turns.length - 1
  · have hfront : turns.dropLast[i]? = some turn := by
      rw [List.getElem?_dropLast, if_pos hlast, hturn]
    exact ((horderly turn (List.mem_of_getElem? hfront)).2 hends).elim
  · have hindex : turns.length - 1 = i := by omega
    rw [hindex, hturn]

/-- A call for a change sends the request of the operation that was asked for, or none. -/
theorem ChangeCallRun.asksOnce {setting : Setting} {call : String} {fragments : List String}
    {wanted : ErrorClass} {asked : Except Failure Operation} {response : Response}
    {transcript : List Event} {result : Except Failure Response}
    (hrun : ChangeCallRun setting call fragments wanted asked response transcript result)
    {method : Method} {path : String} {content : Content → Prop}
    (hoperation : ∀ operation, asked = .ok operation →
      operation.method = method ∧ operation.path = path ∧ content operation.content) :
    AsksOnce (exchangesOf transcript) method (setting.address ++ path) content ∧
      Orderly (exchangesOf transcript) := by
  rcases hrun.turns with hnone | ⟨operation, client, timeout, reply, hasked, hclient, hone⟩
  · rw [hnone]
    exact ⟨⟨Nat.zero_le 1, by simp⟩, orderly_of_length_le (Nat.zero_le 1)⟩
  · obtain ⟨rfl, rfl, hcontent⟩ := hoperation operation hasked
    rw [hone, Setting.address_of_clientRule hclient]
    refine ⟨⟨Nat.le_refl 1, ?_⟩, orderly_of_length_le (Nat.le_refl 1)⟩
    intro turn hturn
    rw [List.mem_singleton.1 hturn]
    exact ⟨⟨rfl, rfl⟩, hcontent⟩

/-- A call that creates a volume sends what it may, in order. -/
theorem CreationTurns.maySend {request : CreateVolumeRequest} {setting : Setting}
    {turns : List (Request × Reply)} (hturns : CreationTurns request setting turns) :
    (Call.createVolume request).MaySend setting.address turns ∧ Orderly turns := by
  have hlisting {client : Client} (hname : request.name.truthy = true)
      (hclient : setting.clientRule = .ok client) (timeout : Value) :
      (nameRequest setting client request.name timeout).IsAt .get
          (setting.address ++ Operation.volumesPath) ∧
        (nameRequest setting client request.name timeout).content.parameter "name" =
          request.name := by
    rw [Setting.address_of_clientRule hclient]
    exact ⟨⟨rfl, rfl⟩, (parameter_nameRequest setting client hname timeout).2⟩
  cases hturns with
  | none => exact ⟨⟨by simp, by simp, by simp⟩, orderly_of_length_le (by simp)⟩
  | @listed client timeout reply hname hclient =>
      refine ⟨⟨by simp, ?_, by simp⟩, orderly_of_length_le (by simp)⟩
      rintro turn ⟨⟩
      exact hlisting hname hclient timeout
  | @created client timeout later gigabytes listed reply page hname hclient hshown hnone =>
      refine ⟨⟨by simp, ?_, ?_⟩, ?_⟩
      · rintro turn ⟨⟩
        exact hlisting hname hclient timeout
      · rintro turn ⟨⟩
        rw [Setting.address_of_clientRule hclient]
        exact ⟨⟨rfl, rfl⟩, _, page, rfl, hshown, hnone⟩
      · intro turn hturn
        rw [List.mem_singleton.1 hturn]
        exact ⟨rfl, Reply.not_endsCall_of_shown hshown⟩

/-- A call that lists volumes sends what it may, in order. -/
theorem ListingRun.maySend {request : ListVolumesRequest} {setting : Setting}
    {transcript : List Event} {result : Except Failure Response}
    (hrun : ListingRun request setting transcript result) :
    (Call.listVolumes request).MaySend setting.address (exchangesOf transcript) ∧
      Orderly (exchangesOf transcript) := by
  cases hrun with
  | invalid | unready => exact ⟨by simp [Call.MaySend], orderly_of_length_le (by simp)⟩
  | listed _ hclient hrun =>
      obtain ⟨hgets, hheard⟩ := hrun.turns
      rw [Setting.address_of_clientRule hclient]
      refine ⟨hgets, fun turn hturn => ⟨?_, hheard turn hturn⟩⟩
      exact (hgets turn (List.dropLast_subset _ hturn)).method

/-- A supervised call sends what it may, in order. -/
theorem Call.maySend_of_run {call : Call} {setting : Setting} {transcript : List Event}
    {handled : Except Failure Answer} (hrun : call.Run setting transcript handled) :
    call.MaySend setting.address (exchangesOf transcript) ∧ Orderly (exchangesOf transcript) := by
  cases call with
  | createVolume request =>
      obtain ⟨outcome, hrun, -⟩ := hrun
      exact hrun.turns.maySend
  | listVolumes request =>
      obtain ⟨outcome, hrun, -⟩ := hrun
      exact hrun.maySend
  | deleteVolume request =>
      obtain ⟨outcome, hrun, -⟩ := hrun
      rw [MaySend]
      refine hrun.asksOnce fun operation hasked => ?_
      rw [DeleteVolumeRequest.operation_eq_ok hasked]
      exact ⟨rfl, Operation.volumePath_eq _, trivial⟩
  | publishVolume request =>
      obtain ⟨outcome, hrun, -⟩ := hrun
      rw [MaySend]
      refine hrun.asksOnce fun operation hasked => ?_
      obtain ⟨dropletId, rfl⟩ := PublishVolumeRequest.operation_eq_ok hasked
      exact ⟨rfl, Operation.actionsPath_eq _, rfl⟩
  | unpublishVolume request =>
      obtain ⟨outcome, hrun, -⟩ := hrun
      rw [MaySend]
      refine hrun.asksOnce fun operation hasked => ?_
      obtain ⟨dropletId, rfl⟩ := UnpublishVolumeRequest.operation_eq_ok hasked
      exact ⟨rfl, Operation.actionsPath_eq _, rfl⟩
  | _ =>
      rw [hrun.1]
      exact ⟨rfl, orderly_of_length_le (by simp)⟩

/-- A call that is not supervised does nothing but write to the log. -/
theorem Call.isRule_perform {call : Call} (hsupervised : call.isSupervised = false)
    (setting : Setting) : ∃ rule, (call.perform setting).IsRule rule := by
  have hlogged {answer : Action Answer} {rule : Except Failure Answer} (hrule : answer.IsRule rule)
      (subject : Value) (start finish : String) :
      (do
        Action.renameThread subject
        Action.info start
        let answered ← answer
        Action.info finish
        return answered : Action Answer).IsRule (rule >>= pure) :=
    (isRule_renameThread _).after ((isRule_info _).after
      (hrule.bind fun answered => (isRule_info _).after (isRule_pure answered)))
  cases call with
  | probe => exact ⟨_, isRule_pure _⟩
  | getControllerCapabilities => exact ⟨_, hlogged (isRule_pure _) _ _ _⟩
  | getPluginCapabilities =>
      exact ⟨_, hlogged ((isRule_lift _).bind fun response => isRule_pure _) _ _ _⟩
  | _ => cases hsupervised

/-! ## Runs of a service -/

namespace Service

/-- A run makes its first step, and goes on where this left the service. -/
theorem run_cons (service : Service) (step : Step) (rest : List Step) :
    service.run (step :: rest) =
      ((service.step step).1 :: ((service.step step).2.run rest).1,
        ((service.step step).2.run rest).2) := rfl

/-- Steps that follow on others begin where these left the service. -/
theorem run_append (service : Service) (front back : List Step) :
    service.run (front ++ back) =
      ((service.run front).1 ++ ((service.run front).2.run back).1,
        ((service.run front).2.run back).2) := by
  induction front generalizing service with
  | nil => rfl
  | cons step rest ih =>
      rw [List.cons_append, run_cons, run_cons, ih, List.cons_append]

/-- Every step is reported. -/
theorem length_run (service : Service) (steps : List Step) :
    (service.run steps).1.length = steps.length := by
  induction steps generalizing service with
  | nil => rfl
  | cons step rest ih =>
      rw [run_cons, List.length_cons, List.length_cons, ih]

/-- The report of a step in a run is that of the service behind the steps before it. -/
theorem getElem?_run (service : Service) (front : List Step) (step : Step) (back : List Step) :
    (service.run (front ++ step :: back)).1[front.length]? =
      some ((service.run front).2.step step).1 := by
  rw [run_append, List.getElem?_append_right (by rw [length_run]), length_run, Nat.sub_self]
  rfl

/-- A call that is not supervised sends nothing. -/
theorem exchanges_of_not_supervised (service : Service) (call : Call) (context : CallContext)
    (replies : List Reply) (hsupervised : call.isSupervised = false) :
    service.exchanges call context replies = [] := by
  obtain ⟨rule, hrule⟩ := Call.isRule_perform hsupervised service.setting
  have hsent := (hrule.quiet (service.sessionFor context replies)).sent
  rw [exchanges, requestsOf, hsent]
  rfl

/-- A call sends what it may, in order. -/
theorem maySend (service : Service) (call : Call) (context : CallContext) (replies : List Reply) :
    call.MaySend service.setting.address (service.exchanges call context replies) ∧
      Orderly (service.exchanges call context replies) := by
  by_cases hsupervised : call.isSupervised = true
  · obtain ⟨-, transcript, _, -, hexchanges, hrun⟩ :=
      service.outcome_of_supervised call context replies hsupervised
    rw [hexchanges]
    exact Call.maySend_of_run hrun
  · rw [Bool.not_eq_true] at hsupervised
    rw [service.exchanges_of_not_supervised call context replies hsupervised]
    refine ⟨?_, orderly_of_length_le (by simp)⟩
    cases call with
    | getControllerCapabilities | getPluginCapabilities | probe => rfl
    | _ => cases hsupervised

/-- The requests of any call in any run of steps. A call that asks for a change sends one request at
most; a creation sends a listing at most and, where this showed no volume, the creation; a listing
sends requests for pages; and the other calls send nothing. What is no reading stands last, and so
does what came to nothing. -/
theorem requests_in_run (service : Service) (front : List Step) (call : Call)
    (context : CallContext) (replies : List Reply) (back : List Step) :
    ∃ report result turns,
      (service.run (front ++ .call call context replies :: back)).1[front.length]? = some report ∧
      report.outcome = .answered result (turns.map Prod.fst) ∧
      turns.map Prod.snd = (List.range turns.length).map (replies.getD · Reply.silence) ∧
      call.MaySend (service.run front).2.setting.address turns ∧
      ∀ turn ∈ turns.dropLast, turn.1.method = .get ∧ ¬ turn.2.EndsCall := by
  obtain ⟨hmay, horderly⟩ := (service.run front).2.maySend call context replies
  have houtcome := (service.run front).2.outcome_call call context replies
  rw [← map_fst_exchanges] at houtcome
  refine ⟨_, _, _, service.getElem?_run front _ back, houtcome, ?_, hmay, horderly⟩
  apply List.ext_getElem
  · simp
  · intro i hturn hreply
    simp [exchanges]

end Service

end VolumePlugin
