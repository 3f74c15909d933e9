/-
# Creation once per name

A service creates and deletes volumes at a provider, call after call, while requests are refused or
carried out unheard. A name that occurs at most once in the region of the service goes on to do so.
Calls for one name answer with one volume, whether they find or create it and whatever size they
ask for, as long as the volume is not deleted in between; and a call whose requests are all heard
does answer.
-/
import VolumePlugin.Proofs.ServedCalls

namespace VolumePlugin

/-! ## Deeds -/

/-- The calls that create or delete a volume. -/
def Call.changesVolumes : Call → Bool
  | .createVolume _ | .deleteVolume _ => true
  | _ => false

/-- A call that was made, with what it answered and exchanged, and with what the provider kept
before it and behind each exchange. -/
structure Deed where
  call : Call
  context : CallContext := {}
  replies : List Reply
  result : Except Failure Answer
  exchanges : List (Request × Reply)
  before : Store
  passed : List Store

namespace Deed

/-- What the provider keeps behind a deed. -/
def after (deed : Deed) : Store :=
  deed.passed.getLastD deed.before

/-- The call answered with a volume. -/
def Yields (deed : Deed) (volume : CsiVolume) : Prop :=
  deed.result = .ok { response := .creation (some volume) }

/-- The call deleted the volume of an id: it was there before and is not there any more. -/
def Removes (deed : Deed) (volumeId : Value) : Prop :=
  (∃ request, deed.call = .deleteVolume request ∧
      request.volumeId.display = volumeId.display) ∧
    (∃ volume ∈ deed.before, volume.id.display = volumeId.display) ∧
    ∀ volume ∈ deed.after, volume.id.display ≠ volumeId.display

/-- What a deed can leave behind in a region: the volumes as they were, or one more of a name that
did not occur, or all but those of an id that was to be deleted. -/
inductive Leaves (region : Value) (deed : Deed) : Store → Prop
  | same : Leaves region deed deed.before
  | more {request : CreateVolumeRequest} {volume : Volume}
      (hcall : deed.call = .createVolume request) (hregion : volume.region = region)
      (hname : volume.name = request.name)
      (habsent : deed.before.ofName region request.name = []) :
      Leaves region deed (deed.before ++ [volume])
  | less {request : DeleteVolumeRequest} (hcall : deed.call = .deleteVolume request) :
      Leaves region deed (deed.before.without request.volumeId)

variable {region : Value} {deed : Deed} {state : Store}

/-- A name that occurs once does so behind a deed. -/
theorem Leaves.unique (hleaves : deed.Leaves region state)
    (hunique : deed.before.UniqueIn region) : state.UniqueIn region := by
  cases hleaves with
  | same => exact hunique
  | more _ _ hname habsent =>
      apply hunique.append
      rw [hname]
      exact habsent
  | less => exact hunique.without _

/-- A volume is kept unless the call deleted it. -/
theorem Leaves.keeps (hleaves : deed.Leaves region deed.after) {volume : Volume}
    (hvolume : volume ∈ deed.before) (hkept : ¬ deed.Removes volume.id) :
    volume ∈ deed.after := by
  generalize hafter : deed.after = state at hleaves ⊢
  cases hleaves with
  | same => exact hvolume
  | more => exact List.mem_append_left _ hvolume
  | @less request hcall =>
      rw [Store.mem_without]
      apply And.intro hvolume
      intro hdisplay
      apply hkept
      apply And.intro ⟨request, hcall, hdisplay.symm⟩
      apply And.intro ⟨volume, hvolume, rfl⟩
      intro other hother
      rw [hafter, Store.mem_without] at hother
      rw [hdisplay]
      exact hother.2

end Deed

/-! ## Deeds of a service -/

/-- A deed is done by a service: it is what the step reports, at a provider that serves it. -/
structure Service.Does (service : Service) (deed : Deed) : Prop where
  changes : deed.call.changesVolumes = true
  outcome : (service.step (.call deed.call deed.context deed.replies)).1.outcome =
    .answered deed.result (deed.exchanges.map Prod.fst)
  exchanges : deed.exchanges = service.exchanges deed.call deed.context deed.replies
  passes : Passes service.setting.address deed.before deed.exchanges deed.passed

/-- Deeds that a service does one after the other, with what the provider keeps before them. -/
inductive Deeds : Service → Store → List Deed → Prop
  | nil {service : Service} {store : Store} : Deeds service store []
  | cons {service : Service} {deed : Deed} {rest : List Deed} (hdoes : service.Does deed)
      (hrest : Deeds (service.step (.call deed.call deed.context deed.replies)).2 deed.after
        rest) :
      Deeds service deed.before (deed :: rest)

/-- A plain answer comes from the handler. -/
theorem eq_ok_of_settled {empty response : Response} {outcome : Except Failure Response}
    (hsettled : settled empty (outcome.map ({ response := · })) = .ok { response := response }) :
    outcome = .ok response := by
  cases outcome with
  | ok given =>
      cases hsettled
      rfl
  | error failure =>
      obtain ⟨status, -, himpossible⟩ := bind_eq_ok.1 hsettled
      cases himpossible

namespace Service.Does

variable {service : Service} {deed : Deed}

/-- A deed has one of the runs of its call. -/
theorem run (hdoes : service.Does deed) :
    ∃ transcript after handled,
      (service.sessionFor deed.context deed.replies).Leads transcript after ∧
      deed.exchanges = exchangesOf transcript ∧
      Passes service.setting.address deed.before (exchangesOf transcript) deed.passed ∧
      deed.call.Run service.setting transcript handled ∧
      deed.result = settled deed.call.emptyResponse handled := by
  have hsupervised : deed.call.isSupervised = true := by
    have hchanges := hdoes.changes
    cases hcall : deed.call <;> rw [hcall] at hchanges <;> first | rfl | cases hchanges
  obtain ⟨houtcome, transcript, after, hleads, hexchanges, hrun⟩ :=
    service.outcome_of_supervised deed.call deed.context deed.replies hsupervised
  have hresult := hdoes.outcome.symm.trans houtcome
  rw [← hdoes.exchanges] at hexchanges
  have hpasses := hdoes.passes
  rw [hexchanges] at hpasses
  exact ⟨transcript, after, _, hleads, hexchanges, hpasses, hrun,
    (Outcome.answered.inj hresult).1⟩

/-- A creation has one of the runs of a creation. -/
theorem creationRun (hdoes : service.Does deed) {request : CreateVolumeRequest}
    (hcall : deed.call = .createVolume request) :
    ∃ transcript after outcome,
      (service.sessionFor deed.context deed.replies).Leads transcript after ∧
      deed.exchanges = exchangesOf transcript ∧
      Passes service.setting.address deed.before (exchangesOf transcript) deed.passed ∧
      CreationRun request service.setting transcript outcome ∧
      deed.result = settled (.creation none) (outcome.map ({ response := · })) := by
  obtain ⟨transcript, after, handled, hleads, hexchanges, hpasses, hrun, hresult⟩ := hdoes.run
  rw [hcall] at hrun hresult
  obtain ⟨outcome, hrun, rfl⟩ := hrun
  exact ⟨transcript, after, outcome, hleads, hexchanges, hpasses, hrun, hresult⟩

/-- What a deed leaves behind at each of its exchanges. -/
theorem leaves (hdoes : service.Does deed) :
    ∀ state ∈ deed.passed, deed.Leaves service.region state := by
  intro state hstate
  cases hcall : deed.call with
  | createVolume request =>
      obtain ⟨transcript, _, outcome, -, -, hpasses, hrun, -⟩ := hdoes.creationRun hcall
      rcases (hrun.createsIn hpasses).states state hstate with
        hsame | ⟨hnone, volume, hregion, hname, hmore⟩
      · rw [hsame]
        exact .same
      · rw [hmore]
        exact .more hcall hregion hname hnone
  | deleteVolume request =>
      obtain ⟨transcript, _, handled, -, -, hpasses, hrun, -⟩ := hdoes.run
      rw [hcall] at hrun
      obtain ⟨outcome, hrun, -⟩ := hrun
      rcases hrun.of_passes hpasses state hstate with hsame | hless
      · rw [hsame]
        exact .same
      · rw [hless]
        exact .less hcall
  | _ =>
      have hchanges := hdoes.changes
      rw [hcall] at hchanges
      cases hchanges

/-- What a deed leaves behind in the end. -/
theorem leaves_after (hdoes : service.Does deed) : deed.Leaves service.region deed.after := by
  unfold Deed.after
  rcases List.eq_nil_or_concat deed.passed with hnone | ⟨front, last, hpassed⟩
  · rw [hnone]
    exact .same
  · rw [List.concat_eq_append] at hpassed
    have hlast : last ∈ deed.passed := by
      rw [hpassed]
      exact List.mem_append_right _ List.mem_cons_self
    rw [hpassed, List.getLastD_concat]
    exact hdoes.leaves last hlast

/-- A creation that answers with a volume answers with one that the provider keeps under the
name. -/
theorem stored (hdoes : service.Does deed) {request : CreateVolumeRequest} {volume : CsiVolume}
    (hcall : deed.call = .createVolume request) (hyields : deed.Yields volume) :
    ∃ stored ∈ deed.after.ofName service.region request.name,
      volume.volumeId = stored.id ∧
        Size.toBytes stored.sizeGigabytes = .ok volume.capacityBytes := by
  obtain ⟨transcript, _, outcome, -, -, hpasses, hrun, hresult⟩ := hdoes.creationRun hcall
  rw [hyields] at hresult
  obtain ⟨stored, hstored, hresponse⟩ :=
    (hrun.createsIn hpasses).response _ (eq_ok_of_settled hresult.symm)
  obtain ⟨capacity, hcapacity, hvolume⟩ := volumeResponse_eq_ok hresponse
  cases hvolume
  exact ⟨stored, hstored, rfl, hcapacity⟩

/-- A creation keeps the volume that has its name, and answers with no other. -/
theorem yields_stored (hdoes : service.Does deed) (hunique : deed.before.UniqueIn service.region)
    {request : CreateVolumeRequest} {volume : CsiVolume}
    (hcall : deed.call = .createVolume request) (hyields : deed.Yields volume) {stored : Volume}
    (hstored : stored ∈ deed.before.ofName service.region request.name) :
    volume.volumeId = stored.id ∧ Size.toBytes stored.sizeGigabytes = .ok volume.capacityBytes := by
  obtain ⟨hbefore, hnamed⟩ := Store.mem_ofName.1 hstored
  have hkept : ¬ deed.Removes stored.id := by
    intro hboth
    obtain ⟨⟨deletion, hdeletion, -⟩, -⟩ := hboth
    rw [hcall] at hdeletion
    cases hdeletion
  have hafter : stored ∈ deed.after.ofName service.region request.name := by
    rw [Store.mem_ofName]
    exact ⟨hdoes.leaves_after.keeps hbefore hkept, hnamed⟩
  obtain ⟨other, hother, hid, hcapacity⟩ := hdoes.stored hcall hyields
  rw [(hdoes.leaves_after.unique hunique).eq_of_mem hafter hother] at hid hcapacity
  exact ⟨hid, hcapacity⟩

/-- A creation whose requests are all heard answers with a volume. -/
theorem yields (hdoes : service.Does deed) (hunique : deed.before.UniqueIn service.region)
    {request : CreateVolumeRequest} {asked : Value × Value} {client : Client}
    (hcall : deed.call = .createVolume request) (hrequest : request.rule = .ok asked)
    (hclient : service.setting.clientRule = .ok client)
    (hdefault : client.defaultTimeout.IsPositive) (hpatient : deed.context.IsPatient)
    (hheard : ∀ turn ∈ deed.exchanges, ¬ turn.2.Fails)
    (howned : ∀ stored ∈ deed.before.ofName service.region request.name,
      stored.isOwned = true ∧ stored.IsSized) :
    ∃ volume, deed.Yields volume := by
  obtain ⟨transcript, _, outcome, hleads, hexchanges, hpasses, hrun, hresult⟩ :=
    hdoes.creationRun hcall
  rw [hexchanges] at hheard
  have hundisturbed := hpatient.undisturbed hdefault "CreateVolume" rfl rfl hleads
  obtain ⟨response, hresponse⟩ :=
    hrun.responds hpasses hunique hrequest hclient hundisturbed hheard howned
  obtain ⟨stored, -, hvolume⟩ := (hrun.createsIn hpasses).response response hresponse
  obtain ⟨capacity, -, hvolume⟩ := volumeResponse_eq_ok hvolume
  rw [hresponse, hvolume] at hresult
  exact ⟨_, hresult⟩

end Service.Does

/-! ## Runs -/

/-- What every deed of a run keeps is kept up to any point of the run. -/
theorem Deeds.invariant {service : Service} {store : Store} {front back : List Deed}
    (hrun : Deeds service store (front ++ back)) (kept : Store → Prop) (hstore : kept store)
    (hstep : ∀ deed ∈ front, deed.Leaves service.region deed.after → kept deed.before →
      kept deed.after) :
    ∃ later state, later.setting = service.setting ∧ kept state ∧ Deeds later state back := by
  induction front generalizing service store with
  | nil => exact ⟨service, store, rfl, hstore, hrun⟩
  | cons deed rest ih =>
      cases hrun with
      | cons hdoes hrest =>
          have hafter := hstep deed List.mem_cons_self hdoes.leaves_after hstore
          obtain ⟨later, state, hsetting, hstate, hback⟩ :=
            ih hrest hafter fun other hother => hstep other (List.mem_cons_of_mem deed hother)
          exact ⟨later, state, hsetting, hstate, hback⟩

/-- Each deed of a run is done by a service of the same setting, where names occur once. -/
theorem Deeds.does_of_mem {service : Service} {store : Store} {deeds : List Deed}
    (hrun : Deeds service store deeds) (hunique : store.UniqueIn service.region) {deed : Deed}
    (hdeed : deed ∈ deeds) :
    ∃ later : Service, later.setting = service.setting ∧ deed.before.UniqueIn service.region ∧
      later.Does deed := by
  obtain ⟨front, back, rfl⟩ := List.append_of_mem hdeed
  obtain ⟨later, state, hsetting, hstate, hback⟩ :=
    hrun.invariant (fun state => Store.UniqueIn state service.region) hunique
      fun other _ hleaves hother => hleaves.unique hother
  cases hback with
  | cons hdoes _ => exact ⟨later, hsetting, hstate, hdoes⟩

/-- What a deed answered with is there at a later deed, unless it was deleted in between. -/
theorem Deeds.does_later {service : Service} {store : Store} {middle back : List Deed}
    {second : Deed} (hrun : Deeds service store (middle ++ second :: back))
    (hunique : store.UniqueIn service.region) {stored : Volume} (hstored : stored ∈ store)
    (hkept : ∀ deed ∈ middle, ¬ deed.Removes stored.id) :
    ∃ later : Service, later.setting = service.setting ∧ second.before.UniqueIn service.region ∧
      stored ∈ second.before ∧ later.Does second := by
  obtain ⟨later, state, hsetting, hstate, hback⟩ :=
    hrun.invariant (fun state => Store.UniqueIn state service.region ∧ stored ∈ state)
      ⟨hunique, hstored⟩ fun deed hdeed hleaves hbefore =>
        ⟨hleaves.unique hbefore.1, hleaves.keeps hbefore.2 (hkept deed hdeed)⟩
  cases hback with
  | cons hdoes _ => exact ⟨later, hsetting, hstate.1, hstate.2, hdoes⟩

namespace Service

/-- Volumes are created once per name, whatever requests are refused or carried out unheard. A name
that occurs at most once in the region does so at every moment of a run. Creations of one name
answer with one volume, unless it is deleted in between, and it is a volume that the provider keeps
under the name. A creation whose requests are heard does answer. -/
theorem creation_once (service : Service) (store : Store) (deeds : List Deed)
    (hrun : Deeds service store deeds) (hunique : store.UniqueIn service.region) :
    (∀ deed ∈ deeds, ∀ state ∈ deed.passed, state.UniqueIn service.region) ∧
    (∀ front first middle second back (request again : CreateVolumeRequest)
        (volume other : CsiVolume),
      deeds = front ++ first :: (middle ++ second :: back) →
      first.call = .createVolume request → second.call = .createVolume again →
      request.name = again.name → first.Yields volume → second.Yields other →
      (∀ deed ∈ middle, ¬ deed.Removes volume.volumeId) → other = volume) ∧
    (∀ deed ∈ deeds, ∀ (request : CreateVolumeRequest) (volume : CsiVolume),
      deed.call = .createVolume request → deed.Yields volume →
      ∃ stored ∈ deed.after.ofName service.region request.name,
        volume.volumeId = stored.id ∧
          Size.toBytes stored.sizeGigabytes = .ok volume.capacityBytes) ∧
    ∀ deed ∈ deeds, ∀ (request : CreateVolumeRequest) (asked : Value × Value) (client : Client),
      deed.call = .createVolume request → request.rule = .ok asked →
      service.setting.clientRule = .ok client → client.defaultTimeout.IsPositive →
      deed.context.IsPatient → (∀ turn ∈ deed.exchanges, ¬ turn.2.Fails) →
      (∀ stored ∈ deed.before.ofName service.region request.name,
        stored.isOwned = true ∧ stored.IsSized) →
      ∃ volume, deed.Yields volume := by
  have hregion {later : Service} (hsetting : later.setting = service.setting) :
      later.region = service.region := congrArg Setting.region hsetting
  apply And.intro
  · intro deed hdeed state hstate
    obtain ⟨later, hsetting, hbefore, hdoes⟩ := hrun.does_of_mem hunique hdeed
    have hleaves := hdoes.leaves state hstate
    rw [hregion hsetting] at hleaves
    exact hleaves.unique hbefore
  apply And.intro
  · rintro front first middle second back request again volume other rfl hfirst hsecond hname
      hyields hyields' hkept
    obtain ⟨later, state, hsetting, hstate, hback⟩ :=
      hrun.invariant (fun state => Store.UniqueIn state service.region) hunique
        fun deed _ hleaves hbefore => hleaves.unique hbefore
    obtain _ | ⟨hdoes, hrest⟩ := hback
    rw [← hregion hsetting] at hstate
    -- The first call answers with a volume that is kept up to the second call, and through it.
    obtain ⟨stored, hstored, hid, hcapacity⟩ := hdoes.stored hfirst hyields
    rw [hid] at hkept
    obtain ⟨last, hsetting', hbefore, hthere, hdoes'⟩ :=
      hrest.does_later (hdoes.leaves_after.unique hstate) (Store.mem_ofName.1 hstored).1 hkept
    have hregion' : last.region = later.region := congrArg Setting.region hsetting'
    have hnamed : stored ∈ second.before.ofName last.region again.name := by
      rw [Store.mem_ofName, hregion', ← hname]
      exact ⟨hthere, (Store.mem_ofName.1 hstored).2⟩
    obtain ⟨hid', hcapacity'⟩ :=
      hdoes'.yields_stored (hregion' ▸ hbefore) hsecond hyields' hnamed
    rw [hcapacity] at hcapacity'
    rw [← hid] at hid'
    cases volume
    cases other
    cases hid'
    cases hcapacity'
    rfl
  apply And.intro
  · intro deed hdeed request volume hcall hyields
    obtain ⟨later, hsetting, -, hdoes⟩ := hrun.does_of_mem hunique hdeed
    rw [← hregion hsetting]
    exact hdoes.stored hcall hyields
  · intro deed hdeed request asked client hcall hrequest hclient hdefault hpatient hheard howned
    obtain ⟨later, hsetting, hbefore, hdoes⟩ := hrun.does_of_mem hunique hdeed
    rw [← hregion hsetting] at hbefore howned
    rw [← hsetting] at hclient
    exact hdoes.yields hbefore hcall hrequest hclient hdefault hpatient hheard howned

end Service

/-! ## A creation that is retried -/

/-- A deed of a service whose caller says nothing. -/
def Service.deed (service : Service) (call : Call) (replies : List Reply) (before : Store)
    (passed : List Store) : Deed where
  call := call
  replies := replies
  result := ((call.perform service.setting).runIn (service.sessionFor {} replies)).1
  exchanges := service.exchanges call {} replies
  before := before
  passed := passed

/-- The service behind such a deed. -/
def Service.behind (service : Service) (call : Call) (replies : List Reply) : Service :=
  (service.step (.call call {} replies)).2

/-- The setting of a service stays. -/
theorem Service.setting_behind (service : Service) (call : Call) (replies : List Reply) :
    (service.behind call replies).setting = service.setting := rfl

/-- Such a deed in front of others. -/
theorem Deeds.cons_deed {service : Service} {call : Call} {replies : List Reply} {before : Store}
    {passed : List Store} {rest : List Deed} (hchanges : call.changesVolumes = true)
    (hpasses : Passes service.setting.address before (service.exchanges call {} replies) passed)
    (hrest : Deeds (service.behind call replies) (passed.getLastD before) rest) :
    Deeds service before (service.deed call replies before passed :: rest) := by
  have hdoes : service.Does (service.deed call replies before passed) := {
    changes := hchanges
    outcome := by
      show (service.step (.call call {} replies)).1.outcome = _
      rw [Service.outcome_call]
      unfold Service.deed
      rw [Service.map_fst_exchanges]
    exchanges := rfl
    passes := hpasses }
  exact .cons hdoes hrest

namespace Retry

/-- A service, and its creation of a volume, which is asked for once more and then in double
size. -/
def service : Service := .withToken "token"

def creation : Call := .creationOf "data"

def larger : Call :=
  .createVolume {
    name := .text "data"
    capabilities := some [some ⟨.number 1⟩]
    range := some ⟨.int (32 * Size.gib), .int 0⟩ }

/-- The volume that the first call creates. -/
def volume : Volume where
  id := .text "v"
  name := .text "data"
  sizeGigabytes := .int 16
  description := .text ownershipTag
  region := .text "nyc3"

/-- A page without volumes, and the page with the volume. -/
def emptyPage : Reply := .answer 200 "\x7b\x7d"

def fullPage : Reply :=
  .answer 200 (String.join [
    "\x7b\"volumes\":[\x7b\"id\":\"v\",\"name\":\"data\",\"size_gigabytes\":16,",
    "\"description\":\"Created by DigitalOcean CSI driver\"\x7d]\x7d"])

/-- The volume is created unheard, and then found twice. -/
def unheard : Deed :=
  service.deed creation [emptyPage, .lost "reset"] [] [[], [volume]]

def found : Deed :=
  (service.behind creation [emptyPage, .lost "reset"]).deed creation [fullPage] [volume] [[volume]]

def foundAgain : Deed :=
  ((service.behind creation [emptyPage, .lost "reset"]).behind creation [fullPage]).deed larger
    [fullPage] [volume] [[volume]]

/-- The client of the service. -/
def client : Client := ⟨"https://api.digitalocean.com", "token", .int 30⟩

theorem clientRule_service : service.setting.clientRule = .ok client := by
  decide +kernel

theorem exchanges_unheard :
    service.exchanges creation {} [emptyPage, .lost "reset"] =
      [(nameRequest service.setting client (.text "data") (.int 30), emptyPage),
        (creationRequest service.setting client (.text "data") (.int 16) (.int 30),
          .lost "reset")] := by
  decide +kernel

theorem exchanges_found :
    (service.behind creation [emptyPage, .lost "reset"]).exchanges creation {} [fullPage] =
      [(nameRequest service.setting client (.text "data") (.int 30), fullPage)] := by
  decide +kernel

theorem exchanges_foundAgain :
    ((service.behind creation [emptyPage, .lost "reset"]).behind creation [fullPage]).exchanges
        larger {} [fullPage] =
      [(nameRequest service.setting client (.text "data") (.int 30), fullPage)] := by
  decide +kernel

theorem shown_emptyPage : emptyPage.shown = .ok ⟨[], none⟩ := by
  decide +kernel

theorem shown_fullPage :
    fullPage.shown = .ok ⟨[{ volume with region := .text "" }], none⟩ := by
  decide +kernel

/-- The answer to the creation, which is lost. -/
def createdAnswer : Reply :=
  .answer 201 (String.join [
    "\x7b\"volume\":\x7b\"id\":\"v\",\"name\":\"data\",\"size_gigabytes\":16,",
    "\"description\":\"Created by DigitalOcean CSI driver\"\x7d\x7d"])

theorem created_createdAnswer :
    createdAnswer.created = .ok { volume with region := .text "" } := by
  decide +kernel

theorem address_service : service.setting.address = client.apiUrl :=
  Setting.address_of_clientRule clientRule_service

/-- The provider answers with a page of the volumes that it keeps. -/
theorem answers_page {kept shown : List Volume} {reply : Reply}
    (hkept : kept.Perm (Store.ofName kept service.region (.text "data")))
    (hshown : reply.shown = .ok ⟨shown, none⟩) (hpage : List.Forall₂ Volume.Describes shown kept) :
    Answers service.setting.address kept
      (nameRequest service.setting client (.text "data") (.int 30)) reply kept := by
  apply Answers.listed rfl _ hkept hshown hpage
  rw [address_service]
  rfl

theorem describes_volume : Volume.Describes { volume with region := .text "" } volume :=
  ⟨rfl, rfl, rfl, rfl⟩

theorem passes_unheard :
    Passes service.setting.address [] (service.exchanges creation {} [emptyPage, .lost "reset"])
      [[], [volume]] := by
  rw [exchanges_unheard]
  apply Passes.cons (.answered (answers_page .nil shown_emptyPage .nil))
  apply Passes.cons _ .nil
  have hposted : volume.IsPosted
      (creationRequest service.setting client (.text "data") (.int 16) (.int 30)).content :=
    ⟨rfl, rfl, rfl, rfl⟩
  apply Serves.unheard (.created rfl _ hposted created_createdAnswer describes_volume)
  · intro value himpossible
    cases himpossible
  · rw [address_service]
    rfl

theorem passes_fullPage :
    Passes service.setting.address [volume]
      [(nameRequest service.setting client (.text "data") (.int 30), fullPage)] [[volume]] := by
  apply Passes.cons _ .nil
  have hkept : [volume].Perm (Store.ofName [volume] service.region (.text "data")) :=
    .of_eq (by decide +kernel)
  exact .answered (answers_page hkept shown_fullPage (.cons describes_volume .nil))

/-- The service does these deeds at the provider, one after the other. -/
theorem deeds : Deeds service [] [unheard, found, foundAgain] := by
  apply Deeds.cons_deed rfl passes_unheard
  apply Deeds.cons_deed rfl
  · rw [exchanges_found, Service.setting_behind]
    exact passes_fullPage
  apply Deeds.cons_deed rfl
  · rw [exchanges_foundAgain, Service.setting_behind, Service.setting_behind]
    exact passes_fullPage
  exact .nil

theorem yields_found : found.Yields ⟨.text "v", .int (16 * Size.gib)⟩ := by
  unfold Deed.Yields
  decide +kernel

end Retry

/-- A creation that was carried out unheard is found when it is asked for again, and in its own
size when a larger one is asked for. -/
theorem Service.retried_creation : Retry.foundAgain.Yields ⟨.text "v", .int (16 * Size.gib)⟩ := by
  have hunique : Store.UniqueIn [] Retry.service.region := fun name => Nat.zero_le 1
  obtain ⟨-, hsame, -, hyields⟩ :=
    Service.creation_once Retry.service [] _ Retry.deeds hunique
  have hheard : ∀ turn ∈ Retry.foundAgain.exchanges, ¬ turn.2.Fails := by
    intro turn hturn
    unfold Retry.foundAgain Service.deed at hturn
    rw [Retry.exchanges_foundAgain] at hturn
    rw [List.mem_singleton.1 hturn]
    exact Reply.not_fails_of_shown Retry.shown_fullPage
  have howned : ∀ stored ∈ Retry.foundAgain.before.ofName Retry.service.region (.text "data"),
      stored.isOwned = true ∧ stored.IsSized := by
    intro stored hstored
    rw [List.mem_singleton.1 (Store.mem_ofName.1 hstored).1]
    exact ⟨by decide, 16, rfl, by decide⟩
  obtain ⟨other, hother⟩ := hyields Retry.foundAgain (by simp) _ (.text "data", .int 32)
    Retry.client rfl (by decide +kernel) Retry.clientRule_service ⟨.int 30, rfl, by decide⟩
    CallContext.isPatient_default hheard howned
  have hvolume := hsame [Retry.unheard] Retry.found [] Retry.foundAgain [] _ _ _ other rfl rfl rfl
    rfl Retry.yields_found hother (fun deed himpossible => by cases himpossible)
  rw [hvolume] at hother
  exact hother

end VolumePlugin
