/-
# Calls that a provider serves

A creation asks for the volumes of the name before it posts a new one. At a provider that serves
its requests, whichever of them are refused or carried out unheard, it takes up a volume only where
the name does not occur, and responds only for a volume of the name, in one form whether the volume
was found or is new. A deletion drops the volume of its id or none.
-/
import VolumePlugin.Proofs.Decimal
import VolumePlugin.Proofs.Provider
import VolumePlugin.Proofs.TimeLeft

namespace VolumePlugin

/-! ## Sizes that can be written -/

namespace Numeral

/-- The numeral of a product is no longer than those of its factors. -/
theorem length_digits_mul_le (m n : Nat) :
    (digits (m * n)).length ≤ (digits m).length + (digits n).length := by
  have hpositive (k : Nat) : 0 < (digits k).length := Nat.length_toDigits_pos
  have hbound (k : Nat) : k < 10 ^ (digits k).length :=
    (Nat.length_toDigits_le_iff (by decide) (hpositive k)).1 (Nat.le_refl _)
  apply (Nat.length_toDigits_le_iff (by decide) (Nat.add_pos_left (hpositive m) _)).2
  rw [Nat.pow_add]
  exact Nat.mul_lt_mul'' (hbound m) (hbound n)

end Numeral

/-- A size in whole gibibytes that has at most 4000 digits. -/
def Volume.IsSized (volume : Volume) : Prop :=
  ∃ size : Int, volume.sizeGigabytes = .int size ∧ (Numeral.digits size.natAbs).length ≤ 4000

/-- There is a response for a volume whose size has at most 4000 digits. -/
theorem Volume.IsSized.response {volume : Volume} (hsized : volume.IsSized) (volumeId : Value) :
    ∃ response, volumeResponse volumeId volume.sizeGigabytes = .ok response := by
  obtain ⟨size, hsize, hdigits⟩ := hsized
  have hlength : (Numeral.digits (Size.bytesOfGib size).natAbs).length ≤ Numeral.digitLimit := by
    have hproduct : (Size.bytesOfGib size).natAbs = size.natAbs * 1073741824 := by
      unfold Size.bytesOfGib
      rw [Size.gib_eq, Int.natAbs_mul]
      rfl
    have hgib : (Numeral.digits 1073741824).length = 10 := by decide +kernel
    have hmul := Numeral.length_digits_mul_le size.natAbs 1073741824
    rw [hproduct]
    unfold Numeral.digitLimit
    omega
  have hwritable : (Value.int (Size.bytesOfGib size)).isWritable = true :=
    decide_eq_true hlength
  apply Exists.intro
  unfold volumeResponse
  rw [hsize]
  show (do
    if !(Value.int (Size.bytesOfGib size)).isWritable then throw (.longNumeral .written)
    return .creation (some ⟨volumeId, .int (Size.bytesOfGib size)⟩) : Except Failure Response) = _
  rw [hwritable]
  rfl

namespace Size

variable {gigabytes : Value} {bytes : Int}

/-- A size within the limits passes. -/
theorem check_of_within (hbytes : toBytes gigabytes = .ok (.int bytes))
    (hwithin : least ≤ bytes ∧ bytes ≤ greatest) : check gigabytes = .ok () := by
  have hrange : (decide (least ≤ bytes) && decide (bytes ≤ greatest)) = true := by
    simpa using hwithin
  rw [check, hbytes, ok_bind, inRange_int, hrange]
  rfl

/-- A size outside the limits is refused by its bytes, unless these are too long to be written. -/
theorem check_of_not_within (hbytes : toBytes gigabytes = .ok (.int bytes))
    (houtside : ¬ (least ≤ bytes ∧ bytes ≤ greatest)) :
    check gigabytes = .error (
      if Numeral.fits bytes = true then
        .sizeOutOfRange (.int bytes) (.int least) (.int greatest)
      else .longNumeral .written) := by
  have hrange : ¬ (decide (least ≤ bytes) && decide (bytes ≤ greatest)) = true := by
    simpa using houtside
  rw [check, hbytes, ok_bind, inRange_int, ok_bind, if_neg hrange,
    Failure.wordedWith_single]
  rfl

end Size

/-- There is a response for a new volume of a size that was checked. -/
theorem volumeResponse_of_check {gigabytes : Value} (hcheck : Size.check gigabytes = .ok ())
    (volumeId : Value) : ∃ response, volumeResponse volumeId gigabytes = .ok response := by
  obtain ⟨bytes, hbytes, -⟩ := bind_eq_ok.1 hcheck
  have hwritable : bytes.isWritable = true := by
    cases bytes with
    | int n =>
        have hwithin : Size.least ≤ n ∧ n ≤ Size.greatest := by
          by_contra houtside
          rw [Size.check_of_not_within hbytes houtside] at hcheck
          cases hcheck
        have hle : n.natAbs ≤ Size.greatest.natAbs := by
          have hpositive : (0 : Int) ≤ Size.least := by decide
          omega
        have hdigits : (Numeral.digits Size.greatest.natAbs).length ≤ Numeral.digitLimit := by
          decide +kernel
        exact decide_eq_true (Nat.le_trans (Numeral.length_digits_mono hle) hdigits)
    | _ => rfl
  apply Exists.intro (Response.creation (some ⟨volumeId, bytes⟩))
  unfold volumeResponse
  rw [hbytes, ok_bind, hwritable]
  rfl

/-! ## What a creation does to the volumes -/

/-- A parameter that is required is the one that was given, and not empty. -/
theorem requireParameter_eq_ok {value given : Value} {parameter : String}
    (hgiven : requireParameter value parameter = .ok given) :
    given = value ∧ value.truthy = true := by
  rw [requireParameter] at hgiven
  split at hgiven
  · cases hgiven
    exact ⟨rfl, ‹_›⟩
  · cases hgiven

/-- What a valid request for a volume asks for. -/
theorem CreateVolumeRequest.rule_eq_ok {request : CreateVolumeRequest} {name gigabytes : Value}
    (hrequest : request.rule = .ok (name, gigabytes)) :
    name = request.name ∧ name.truthy = true ∧ Size.check gigabytes = .ok () := by
  obtain ⟨given, hname, hrest⟩ := bind_eq_ok.1 hrequest
  obtain ⟨_, -, hrest⟩ := bind_eq_ok.1 hrest
  obtain ⟨size, -, hrest⟩ := bind_eq_ok.1 hrest
  obtain ⟨_, hcheck, hrest⟩ := bind_eq_ok.1 hrest
  cases hrest
  obtain ⟨rfl, htruthy⟩ := requireParameter_eq_ok hname
  exact ⟨rfl, htruthy, hcheck⟩

/-- The volumes of a name are those that fit. -/
theorem eq_toList_of_volumeOfName {name : Value} {volumes : List Volume} {found : Option Volume}
    (hfound : volumeOfName name volumes = .ok found) : volumes = found.toList := by
  unfold volumeOfName at hfound
  split at hfound
  · cases hfound
    rfl
  · rename_i volume
    by_cases howned : volume.isOwned = true
    · rw [if_pos howned] at hfound
      cases hfound
      rfl
    · rw [if_neg howned] at hfound
      cases hfound
  · cases hfound

/-- At most one volume, which this plugin owns, fits. -/
theorem volumeOfName_of_owned (name : Value) {volumes : List Volume} (hlength : volumes.length ≤ 1)
    (howned : ∀ volume ∈ volumes, volume.isOwned = true) :
    ∃ found, volumeOfName name volumes = .ok found := by
  cases volumes with
  | nil => exact ⟨none, rfl⟩
  | cons volume rest =>
      cases rest with
      | nil =>
          exact ⟨some volume, if_pos (howned volume List.mem_cons_self)⟩
      | cons other rest =>
          rw [List.length_cons, List.length_cons] at hlength
          omega

/-- A volume is owned as it is shown. -/
theorem Volume.Describes.isOwned {shown stored : Volume} (hdescribes : shown.Describes stored) :
    shown.isOwned = stored.isOwned := by
  unfold Volume.isOwned
  rw [hdescribes.description]

/-- Each volume that is shown on a page of a listing is kept. -/
theorem exists_of_shown {shown listed kept : List Volume} (hkept : listed.Perm kept)
    (hshown : List.Forall₂ Volume.Describes shown listed) :
    ∀ volume ∈ shown, ∃ stored ∈ kept, volume.Describes stored := by
  intro volume hvolume
  have hlisted : ∃ stored ∈ listed, volume.Describes stored := by
    clear hkept
    induction hshown with
    | nil => cases hvolume
    | @cons first stored rest listed hdescribes _ ih =>
        rcases List.mem_cons.1 hvolume with rfl | hrest
        · exact ⟨stored, List.mem_cons_self, hdescribes⟩
        · obtain ⟨other, hother, hdescribes⟩ := ih hrest
          exact ⟨other, List.mem_cons_of_mem stored hother, hdescribes⟩
  obtain ⟨stored, hstored, hdescribes⟩ := hlisted
  exact ⟨stored, hkept.mem_iff.1 hstored, hdescribes⟩

/-- What a creation of a name does in a region. It leaves the volumes as they were or, where the
name did not occur, takes up one of the name; and a response is one for a volume of the name. -/
structure CreatesIn (region name : Value) (store : Store) (passed : List Store)
    (outcome : Except Failure Response) : Prop where
  states : ∀ state ∈ passed, state = store ∨ store.ofName region name = [] ∧
    ∃ volume, volume.region = region ∧ volume.name = name ∧ state = store ++ [volume]
  response : ∀ response, outcome = .ok response →
    ∃ stored ∈ Store.ofName (passed.getLastD store) region name,
      volumeResponse stored.id stored.sizeGigabytes = .ok response

/-- A creation that fails without a request does nothing. -/
theorem createsIn_of_error (region name : Value) (store : Store) (failure : Failure) :
    CreatesIn region name store [] (.error failure) where
  states := by
    intro state himpossible
    cases himpossible
  response := by
    intro response himpossible
    cases himpossible

section Creation

variable {address : String} {setting : Setting} {client : Client} {name gigabytes : Value}
  {transcript : List Event} {outcome : Except Failure Response} {store : Store}
  {passed : List Store}

/-- What is posted is taken up or not, and a response is one for the volume that was taken up. -/
theorem NewVolumeRun.createsIn
    (hrun : NewVolumeRun setting client name gigabytes transcript outcome)
    (hnone : store.ofName setting.region name = [])
    (hpasses : Passes address store (exchangesOf transcript) passed) :
    CreatesIn setting.region name store passed outcome := by
  cases hrun with
  | cancelled | late =>
      cases hpasses
      exact createsIn_of_error _ _ _ _
  | @asked left timeout reply htime =>
      obtain _ | ⟨hserves, hnil⟩ := hpasses
      cases hnil
      obtain ⟨hkept, hheard⟩ := hserves.of_post rfl
      constructor
      · intro state hstate
        rw [List.mem_singleton.1 hstate]
        rcases hkept with hsame | ⟨volume, hposted, hmore⟩
        · exact .inl hsame
        · exact .inr ⟨hnone, volume, hposted.region, hposted.name, hmore⟩
      · intro response hresponse
        obtain ⟨created, hcreated, hresponse⟩ := bind_eq_ok.1 hresponse
        rw [client.createdBy_eq_ok_iff] at hcreated
        obtain ⟨volume, shown, hshown, hdescribes, hposted, hmore⟩ :=
          hheard (Reply.not_fails_of_created hcreated)
        rw [hcreated] at hshown
        cases hshown
        have hsize : volume.sizeGigabytes = gigabytes := hposted.size
        apply Exists.intro volume
        apply And.intro
        · rw [Store.mem_ofName, List.getLastD_cons, List.getLastD_nil, hmore]
          apply And.intro (List.mem_append_right _ List.mem_cons_self)
          exact ⟨hposted.region, hposted.name⟩
        · rw [hsize, ← hdescribes.id]
          exact hresponse

/-- A page that shows the volumes of a name on one page, in any order. -/
def Page.ShowsName (page : Page) (store : Store) (region name : Value) : Prop :=
  ∃ volumes, volumes.Perm (store.ofName region name) ∧
    List.Forall₂ Volume.Describes page.volumes volumes

/-- A volume that is found on such a page is kept. -/
theorem Page.ShowsName.stored_of_found {page : Page} {region : Value}
    (hpage : page.ShowsName store region name) {volume : Volume}
    (hfound : volumeOfName name page.volumes = .ok (some volume)) :
    ∃ stored ∈ store.ofName region name, volume.Describes stored := by
  obtain ⟨volumes, hkept, hshown⟩ := hpage
  apply exists_of_shown hkept hshown
  rw [eq_toList_of_volumeOfName hfound]
  exact List.mem_cons_self

/-- Behind a page with the volumes of the name, a volume that was found is responded with. -/
theorem ListedRun.createsIn {reply : Reply}
    (hrun : ListedRun setting client name gigabytes reply transcript outcome)
    (hpage : ∀ page, client.pageOf reply = .ok page → page.ShowsName store setting.region name)
    (hpasses : Passes address store (exchangesOf transcript) passed) :
    CreatesIn setting.region name store passed outcome := by
  cases hrun with
  | unlisted | unfit =>
      cases hpasses
      exact createsIn_of_error _ _ _ _
  | @found page volume hread hvolume =>
      cases hpasses
      constructor
      · intro state himpossible
        cases himpossible
      · intro response hresponse
        obtain ⟨stored, hstored, hdescribes⟩ := (hpage page hread).stored_of_found hvolume
        apply Exists.intro stored
        apply And.intro hstored
        rw [← hdescribes.id, ← hdescribes.size]
        exact hresponse
  | @absent page transcript outcome hread hvolume hrest =>
      obtain ⟨volumes, hkept, hshown⟩ := hpage page hread
      have hnone : store.ofName setting.region name = [] := by
        rw [eq_toList_of_volumeOfName hvolume] at hshown
        cases hshown
        exact hkept.nil_eq.symm
      exact hrest.createsIn hnone hpasses

/-- A request for the volumes of the name changes nothing, and a page that is read has them. -/
theorem shows_of_nameRequest {next : Store} {timeout : Value} {reply : Reply}
    (htruthy : name.truthy = true)
    (hserves : Serves address store (nameRequest setting client name timeout) reply next) :
    next = store ∧
      (¬ reply.Fails → ∃ page, client.pageOf reply = .ok page) ∧
      ∀ page, client.pageOf reply = .ok page → page.ShowsName store setting.region name := by
  obtain ⟨hregion, hname⟩ := parameter_nameRequest setting client htruthy timeout
  obtain ⟨hsame, hheard⟩ := hserves.of_get rfl
  rw [hregion, hname] at hheard
  apply And.intro hsame
  apply And.intro
  · intro hanswered
    obtain ⟨page, _, hshown, -⟩ := hheard hanswered
    exact ⟨page, (client.pageOf_eq_ok_iff reply page).2 hshown⟩
  · intro page hread
    rw [client.pageOf_eq_ok_iff] at hread
    obtain ⟨shown, volumes, hshown, hkept, hvolumes⟩ := hheard (Reply.not_fails_of_shown hread)
    rw [hread] at hshown
    cases hshown
    exact ⟨volumes, hkept, hvolumes⟩

/-- A creation takes up a volume only where its name does not occur, and responds only for a volume
of the name. -/
theorem CreationRun.createsIn {request : CreateVolumeRequest}
    (hrun : CreationRun request setting transcript outcome)
    (hpasses : Passes address store (exchangesOf transcript) passed) :
    CreatesIn setting.region request.name store passed outcome := by
  cases hrun with
  | invalid | unready | late =>
      cases hpasses
      exact createsIn_of_error _ _ _ _
  | @listed name gigabytes client left timeout reply rest outcome hrequest hclient htime hrest =>
      obtain ⟨rfl, htruthy, -⟩ := CreateVolumeRequest.rule_eq_ok hrequest
      obtain _ | ⟨hserves, hpasses⟩ := hpasses
      obtain ⟨hsame, -, hpage⟩ := shows_of_nameRequest htruthy hserves
      rw [hsame] at hpasses ⊢
      have hcreates := hrest.createsIn hpage hpasses
      constructor
      · intro state hstate
        rcases List.mem_cons.1 hstate with hfirst | hrest
        · exact .inl hfirst
        · exact hcreates.states state hrest
      · rw [List.getLastD_cons]
        exact hcreates.response

/-- A new volume has a response where the caller waits and leaves time, and what is posted is
heard. -/
theorem NewVolumeRun.responds
    (hrun : NewVolumeRun setting client name gigabytes transcript outcome)
    (hpasses : Passes address store (exchangesOf transcript) passed)
    (hundisturbed : Undisturbed client "CreateVolume" transcript)
    (hheard : ∀ turn ∈ exchangesOf transcript, ¬ turn.2.Fails)
    (hcheck : Size.check gigabytes = .ok ()) : ∃ response, outcome = .ok response := by
  cases hrun with
  | cancelled => cases hundisturbed.waits false List.mem_cons_self
  | @late left failure hlate =>
      obtain ⟨timeout, htimeout⟩ := hundisturbed.rest.time left List.mem_cons_self
      rw [hlate] at htimeout
      cases htimeout
  | @asked left timeout reply htime =>
      obtain _ | ⟨hserves, -⟩ := hpasses
      have hanswered : ¬ reply.Fails := hheard _ List.mem_cons_self
      obtain ⟨_, shown, hcreated, -⟩ := (hserves.of_post rfl).2 hanswered
      rw [(client.createdBy_eq_ok_iff reply shown).2 hcreated, ok_bind]
      exact volumeResponse_of_check hcheck shown.id

/-- Behind a page with the volumes of the name there is a response where a volume of the name is
owned and of a size that can be written. -/
theorem ListedRun.responds {reply : Reply}
    (hrun : ListedRun setting client name gigabytes reply transcript outcome)
    {page : Page} (hread : client.pageOf reply = .ok page)
    (hpage : page.ShowsName store setting.region name)
    (hpasses : Passes address store (exchangesOf transcript) passed)
    (hunique : store.UniqueIn setting.region)
    (hundisturbed : Undisturbed client "CreateVolume" transcript)
    (hheard : ∀ turn ∈ exchangesOf transcript, ¬ turn.2.Fails)
    (hcheck : Size.check gigabytes = .ok ())
    (howned : ∀ stored ∈ store.ofName setting.region name,
      stored.isOwned = true ∧ stored.IsSized) :
    ∃ response, outcome = .ok response := by
  cases hrun with
  | unlisted hunlisted =>
      rw [hread] at hunlisted
      cases hunlisted
  | unfit hread' hunfit =>
      rw [hread] at hread'
      cases hread'
      obtain ⟨volumes, hkept, hvolumes⟩ := hpage
      have hlength : page.volumes.length ≤ 1 := by
        rw [hvolumes.length_eq, hkept.length_eq]
        exact hunique name
      have hshown : ∀ volume ∈ page.volumes, volume.isOwned = true := by
        intro volume hvolume
        obtain ⟨stored, hstored, hdescribes⟩ := exists_of_shown hkept hvolumes volume hvolume
        rw [hdescribes.isOwned]
        exact (howned stored hstored).1
      obtain ⟨found, hfound⟩ := volumeOfName_of_owned name hlength hshown
      rw [hunfit] at hfound
      cases hfound
  | @found _ volume hread' hvolume =>
      rw [hread] at hread'
      cases hread'
      obtain ⟨stored, hstored, hdescribes⟩ := hpage.stored_of_found hvolume
      rw [hdescribes.size]
      exact (howned stored hstored).2.response volume.id
  | absent _ _ hrest => exact hrest.responds hpasses hundisturbed hheard hcheck

/-- A creation has a response where the request is valid, the caller waits and leaves time, every
request is heard, and a volume of the name is owned and of a size that can be written. -/
theorem CreationRun.responds {request : CreateVolumeRequest}
    (hrun : CreationRun request setting transcript outcome)
    (hpasses : Passes address store (exchangesOf transcript) passed)
    (hunique : store.UniqueIn setting.region) {asked : Value × Value}
    (hrequest : request.rule = .ok asked) (hclient : setting.clientRule = .ok client)
    (hundisturbed : Undisturbed client "CreateVolume" transcript)
    (hheard : ∀ turn ∈ exchangesOf transcript, ¬ turn.2.Fails)
    (howned : ∀ stored ∈ store.ofName setting.region request.name,
      stored.isOwned = true ∧ stored.IsSized) :
    ∃ response, outcome = .ok response := by
  cases hrun with
  | invalid hinvalid =>
      rw [hrequest] at hinvalid
      cases hinvalid
  | unready _ hunready =>
      rw [hclient] at hunready
      cases hunready
  | @late _ _ left failure _ hclient' hlate =>
      rw [hclient] at hclient'
      cases hclient'
      obtain ⟨timeout, htimeout⟩ := hundisturbed.time left List.mem_cons_self
      rw [hlate] at htimeout
      cases htimeout
  | @listed name gigabytes client' left timeout reply rest outcome hrequest' hclient' _ hrest =>
      rw [hclient] at hclient'
      cases hclient'
      obtain ⟨rfl, htruthy, hcheck⟩ := CreateVolumeRequest.rule_eq_ok hrequest'
      obtain _ | ⟨hserves, hpasses⟩ := hpasses
      obtain ⟨hsame, hshown, hpage⟩ := shows_of_nameRequest htruthy hserves
      rw [hsame] at hpasses
      obtain ⟨page, hread⟩ := hshown (hheard _ List.mem_cons_self)
      apply hrest.responds hread (hpage page hread) hpasses hunique hundisturbed.rest.rest _ hcheck
        howned
      intro turn hturn
      exact hheard turn (List.mem_cons_of_mem _ hturn)

end Creation

/-! ## What a deletion does to the volumes -/

/-- The address of the provider. -/
def Setting.address (setting : Setting) : String :=
  match setting.clientRule with
  | .ok client => client.apiUrl
  | .error _ => ""

/-- The address of the client is that of the setting. -/
theorem Setting.address_of_clientRule {setting : Setting} {client : Client}
    (hclient : setting.clientRule = .ok client) : setting.address = client.apiUrl := by
  rw [Setting.address, hclient]

/-- A request to delete asks for the deletion of the id that it names. -/
theorem DeleteVolumeRequest.operation_eq_ok {request : DeleteVolumeRequest} {operation : Operation}
    (hoperation : request.operation = .ok operation) : operation = .delete request.volumeId := by
  obtain ⟨volumeId, hrequest, hdelete⟩ := bind_eq_ok.1 hoperation
  cases hdelete
  rw [(requireParameter_eq_ok hrequest).1]

/-- A deletion leaves the volumes as they are or drops the one of its id. -/
theorem ChangeCallRun.of_passes {setting : Setting} {request : DeleteVolumeRequest}
    {response : Response} {transcript : List Event} {outcome : Except Failure Response}
    {store : Store} {passed : List Store}
    (hrun : ChangeCallRun setting "DeleteVolume" [] .notFound request.operation response transcript
      outcome)
    (hpasses : Passes setting.address store (exchangesOf transcript) passed) :
    ∀ state ∈ passed, state = store ∨ state = store.without request.volumeId := by
  cases hrun with
  | invalid | unready =>
      cases hpasses
      intro state himpossible
      cases himpossible
  | @changed operation client transcript outcome hoperation hclient hrun =>
      cases hrun with
      | late =>
          cases hpasses
          intro state himpossible
          cases himpossible
      | asked =>
          obtain _ | ⟨hserves, hnil⟩ := hpasses
          cases hnil
          intro state hstate
          rw [DeleteVolumeRequest.operation_eq_ok hoperation,
            Setting.address_of_clientRule hclient] at hserves
          rw [List.mem_singleton.1 hstate]
          exact hserves.of_delete rfl rfl

end VolumePlugin
