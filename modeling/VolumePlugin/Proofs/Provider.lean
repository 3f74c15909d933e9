/-
# A provider with faults

A provider keeps volumes. It lists the ones of a name in a region, takes up a new one as it was
posted, and drops the one that an address names. A request may also be refused, or be carried out
while its answer is lost, and whoever sent it cannot tell which. The relations of this module say
what such a provider replies and what it keeps behind each request.
-/
import VolumePlugin.Proofs.ListingPages

namespace VolumePlugin

/-! ## Requests and replies -/

/-- What a request says about a parameter, null where it says nothing. -/
def Content.parameter (content : Content) (name : String) : Value :=
  match content with
  | .none => .null
  | .query parameters => Value.memberOr parameters name .null
  | .json members => Value.memberOr members name .null

/-- The volume that a reply shows as created. -/
def Reply.created (reply : Reply) : Except Failure Volume := do
  Volume.ofCreation (← reply.value .post "")

/-- A reply without a value: the request failed, or nothing came back that can be read. -/
def Reply.Fails (reply : Reply) : Prop :=
  ∀ value, reply.value .get "" ≠ .ok value

/-- A reply that shows a page does not fail. -/
theorem Reply.not_fails_of_shown {reply : Reply} {page : Page} (hshown : reply.shown = .ok page) :
    ¬ reply.Fails := by
  intro hfails
  obtain ⟨value, hvalue, -⟩ := bind_eq_ok.1 hshown
  exact hfails value hvalue

/-- A reply that shows a created volume does not fail. -/
theorem Reply.not_fails_of_created {reply : Reply} {volume : Volume}
    (hcreated : reply.created = .ok volume) : ¬ reply.Fails := by
  intro hfails
  obtain ⟨value, hvalue, -⟩ := bind_eq_ok.1 hcreated
  exact hfails value (Reply.value_of_url hvalue)

/-- A client reads the created volume that a reply shows. -/
theorem Client.createdBy_eq_ok_iff (client : Client) (reply : Reply) (volume : Volume) :
    client.createdBy reply = .ok volume ↔ reply.created = .ok volume := by
  unfold Client.createdBy Reply.created
  rw [bind_eq_ok, bind_eq_ok]
  constructor
  · intro hboth
    obtain ⟨value, hvalue, hvolume⟩ := hboth
    exact ⟨value, Reply.value_of_url hvalue, hvolume⟩
  · intro hboth
    obtain ⟨value, hvalue, hvolume⟩ := hboth
    exact ⟨value, Reply.value_of_url hvalue, hvolume⟩

/-- A request for the volumes of a name says the name and the region. -/
theorem parameter_nameRequest (setting : Setting) (client : Client) {name : Value}
    (hname : name.truthy = true) (timeout : Value) :
    (nameRequest setting client name timeout).content.parameter "region" = setting.region ∧
      (nameRequest setting client name timeout).content.parameter "name" = name := by
  have hcontent : (nameRequest setting client name timeout).content =
      .query ([("region", setting.region)] ++ Operation.optional "name" name ++ [] ++ []) := rfl
  have hoptional : Operation.optional "name" name = [("name", name)] := by
    unfold Operation.optional
    rw [if_pos hname]
  rw [hcontent, hoptional]
  exact ⟨rfl, rfl⟩

/-- The path of a volume tells its id. -/
theorem display_eq_of_volumePath {address : String} {volumeId other : Value}
    (hpath : address ++ Operation.volumePath volumeId = address ++ Operation.volumePath other) :
    volumeId.display = other.display := by
  unfold Operation.volumePath at hpath
  have hlists := congrArg String.toList hpath
  simp only [String.toList_append, List.append_cancel_left_eq] at hlists
  exact String.toList_inj.1 hlists

/-! ## What the provider keeps -/

/-- A volume that is shown as it is kept. Its region and its droplets may be shown in any form. -/
structure Volume.Describes (shown stored : Volume) : Prop where
  id : shown.id = stored.id
  name : shown.name = stored.name
  size : shown.sizeGigabytes = stored.sizeGigabytes
  description : shown.description = stored.description

/-- A volume that is kept as it was posted. Its id is the provider's choice. -/
structure Volume.IsPosted (volume : Volume) (content : Content) : Prop where
  region : volume.region = content.parameter "region"
  name : volume.name = content.parameter "name"
  description : volume.description = content.parameter "description"
  size : volume.sizeGigabytes = content.parameter "size_gigabytes"

/-- The volumes that a provider keeps. -/
abbrev Store := List Volume

namespace Store

/-- The volumes of a name in a region. -/
def ofName (store : Store) (region name : Value) : List Volume :=
  store.filter fun volume => decide (volume.region = region ∧ volume.name = name)

/-- Every name occurs at most once in a region. -/
def UniqueIn (store : Store) (region : Value) : Prop :=
  ∀ name, (store.ofName region name).length ≤ 1

/-- What is kept when the volume of an id is dropped. Ids are told apart as they are printed. -/
def without (store : Store) (volumeId : Value) : Store :=
  store.filter fun volume => decide (volume.id.display ≠ volumeId.display)

variable {store : Store} {region name : Value}

theorem mem_ofName {volume : Volume} :
    volume ∈ store.ofName region name ↔
      volume ∈ store ∧ volume.region = region ∧ volume.name = name := by
  unfold ofName
  rw [List.mem_filter, decide_eq_true_eq]

theorem mem_without {volume : Volume} {volumeId : Value} :
    volume ∈ store.without volumeId ↔
      volume ∈ store ∧ volume.id.display ≠ volumeId.display := by
  unfold without
  rw [List.mem_filter, decide_eq_true_eq]

/-- Volumes of one name are one volume where the name occurs once. -/
theorem UniqueIn.eq_of_mem (hunique : store.UniqueIn region) {volume other : Volume}
    (hvolume : volume ∈ store.ofName region name) (hother : other ∈ store.ofName region name) :
    other = volume := by
  have hlength := hunique name
  generalize store.ofName region name = volumes at hlength hvolume hother
  cases volumes with
  | nil => cases hvolume
  | cons first rest =>
      have hrest : rest = [] := by
        apply List.eq_nil_of_length_eq_zero
        rw [List.length_cons] at hlength
        omega
      rw [hrest, List.mem_singleton] at hvolume hother
      rw [hvolume, hother]

/-- Dropping a volume adds no name. -/
theorem UniqueIn.without (hunique : store.UniqueIn region) (volumeId : Value) :
    (store.without volumeId).UniqueIn region := by
  intro name
  have hsublist : List.Sublist ((store.without volumeId).ofName region name)
      (store.ofName region name) := List.Sublist.filter _ List.filter_sublist
  exact Nat.le_trans hsublist.length_le (hunique name)

/-- A volume of a name that does not occur may be taken up. -/
theorem UniqueIn.append (hunique : store.UniqueIn region) {volume : Volume}
    (habsent : store.ofName region volume.name = []) :
    UniqueIn (store ++ [volume]) region := by
  intro name
  have happend : ofName (store ++ [volume]) region name =
      store.ofName region name ++ ofName [volume] region name := List.filter_append _ _
  have hone : (ofName [volume] region name).length ≤ 1 := List.length_filter_le _ _
  rw [happend, List.length_append]
  by_cases hname : volume.name = name
  · rw [← hname] at hone ⊢
    rw [habsent, List.length_nil]
    omega
  · have hnone : ofName [volume] region name = [] := by
      apply List.filter_eq_nil_iff.2
      intro other hother
      rw [List.mem_singleton.1 hother, decide_eq_true_eq]
      intro hboth
      exact hname hboth.2
    rw [hnone]
    exact hunique name

end Store

/-! ## Requests that are served -/

/-- How a provider at an address answers a request, and what it keeps then. -/
inductive Answers (address : String) (store : Store) (request : Request) (reply : Reply) :
    Store → Prop
  | /-- The volumes of a name in a region are listed on one page, in any order. -/
    listed {page : Page} {volumes : List Volume} (hmethod : request.method = .get)
      (hurl : request.url = address ++ Operation.volumesPath)
      (hvolumes : volumes.Perm (store.ofName (request.content.parameter "region")
        (request.content.parameter "name")))
      (hshown : reply.shown = .ok page)
      (hpage : List.Forall₂ Volume.Describes page.volumes volumes) :
      Answers address store request reply store
  | /-- A volume is taken up and shown. -/
    created {volume shown : Volume} (hmethod : request.method = .post)
      (hurl : request.url = address ++ Operation.volumesPath)
      (hvolume : volume.IsPosted request.content) (hcreated : reply.created = .ok shown)
      (hshown : shown.Describes volume) :
      Answers address store request reply (store ++ [volume])
  | /-- The volume of an id is dropped. -/
    deleted {volumeId value : Value} (hmethod : request.method = .delete)
      (hurl : request.url = address ++ Operation.volumePath volumeId)
      (hvalue : reply.value .delete request.url = .ok value) :
      Answers address store request reply (store.without volumeId)
  | /-- There is no volume of an id. -/
    missing {volumeId : Value} {body : String} (hmethod : request.method = .delete)
      (hurl : request.url = address ++ Operation.volumePath volumeId)
      (habsent : store.without volumeId = store) (hreply : reply = .answer 404 body) :
      Answers address store request reply store

/-- How a provider serves a request: as it should, or not at all, or unheard. -/
inductive Serves (address : String) (store : Store) (request : Request) (reply : Reply) :
    Store → Prop
  | answered {next : Store} (hanswers : Answers address store request reply next) :
      Serves address store request reply next
  | refused (hfails : reply.Fails) : Serves address store request reply store
  | unheard {answer : Reply} {next : Store} (hanswers : Answers address store request answer next)
      (hfails : reply.Fails) : Serves address store request reply next

/-- What a provider keeps behind each of a row of requests. -/
inductive Passes (address : String) : Store → List (Request × Reply) → List Store → Prop
  | nil {store : Store} : Passes address store [] []
  | cons {store next : Store} {request : Request} {reply : Reply}
      {rest : List (Request × Reply)} {passed : List Store}
      (hserves : Serves address store request reply next)
      (hrest : Passes address next rest passed) :
      Passes address store ((request, reply) :: rest) (next :: passed)

variable {address : String} {store next : Store} {request : Request} {reply : Reply}

/-- Listing changes nothing, and a page that is shown has the volumes of the name. -/
theorem Serves.of_get (hserves : Serves address store request reply next)
    (hmethod : request.method = .get) :
    next = store ∧ (¬ reply.Fails → ∃ page volumes, reply.shown = .ok page ∧
      volumes.Perm (store.ofName (request.content.parameter "region")
        (request.content.parameter "name")) ∧
      List.Forall₂ Volume.Describes page.volumes volumes) := by
  have hanswers {answer : Reply} (hanswer : Answers address store request answer next) :
      next = store ∧ ∃ page volumes, answer.shown = .ok page ∧
        volumes.Perm (store.ofName (request.content.parameter "region")
          (request.content.parameter "name")) ∧
        List.Forall₂ Volume.Describes page.volumes volumes := by
    cases hanswer with
    | listed _ _ hvolumes hshown hpage => exact ⟨rfl, _, _, hshown, hvolumes, hpage⟩
    | created hpost | deleted hpost | missing hpost =>
        rw [hmethod] at hpost
        cases hpost
  cases hserves with
  | answered hanswer => exact ⟨(hanswers hanswer).1, fun _ => (hanswers hanswer).2⟩
  | refused hfails => exact ⟨rfl, fun hheard => (hheard hfails).elim⟩
  | unheard hanswer hfails => exact ⟨(hanswers hanswer).1, fun hheard => (hheard hfails).elim⟩

/-- A volume that is posted is taken up or not, and one that is shown was taken up. -/
theorem Serves.of_post (hserves : Serves address store request reply next)
    (hmethod : request.method = .post) :
    (next = store ∨ ∃ volume, volume.IsPosted request.content ∧ next = store ++ [volume]) ∧
      (¬ reply.Fails → ∃ volume shown, reply.created = .ok shown ∧ shown.Describes volume ∧
        volume.IsPosted request.content ∧ next = store ++ [volume]) := by
  have hanswers {answer : Reply} (hanswer : Answers address store request answer next) :
      ∃ volume shown, answer.created = .ok shown ∧ shown.Describes volume ∧
        volume.IsPosted request.content ∧ next = store ++ [volume] := by
    cases hanswer with
    | created _ _ hvolume hcreated hshown => exact ⟨_, _, hcreated, hshown, hvolume, rfl⟩
    | listed hother | deleted hother | missing hother =>
        rw [hmethod] at hother
        cases hother
  cases hserves with
  | answered hanswer =>
      obtain ⟨volume, shown, hcreated, hshown, hvolume, hnext⟩ := hanswers hanswer
      exact ⟨.inr ⟨volume, hvolume, hnext⟩, fun _ =>
        ⟨volume, shown, hcreated, hshown, hvolume, hnext⟩⟩
  | refused hfails => exact ⟨.inl rfl, fun hheard => (hheard hfails).elim⟩
  | unheard hanswer hfails =>
      obtain ⟨volume, _, _, _, hvolume, hnext⟩ := hanswers hanswer
      exact ⟨.inr ⟨volume, hvolume, hnext⟩, fun hheard => (hheard hfails).elim⟩

/-- The volume that an address names is dropped or not. -/
theorem Serves.of_delete (hserves : Serves address store request reply next)
    (hmethod : request.method = .delete) {volumeId : Value}
    (hurl : request.url = address ++ Operation.volumePath volumeId) :
    next = store ∨ next = store.without volumeId := by
  have hanswers {answer : Reply} (hanswer : Answers address store request answer next) :
      next = store ∨ next = store.without volumeId := by
    cases hanswer with
    | deleted _ hother =>
        rw [hurl] at hother
        unfold Store.without
        rw [display_eq_of_volumePath hother]
        exact .inr rfl
    | missing => exact .inl rfl
    | listed hother | created hother =>
        rw [hmethod] at hother
        cases hother
  cases hserves with
  | answered hanswer => exact hanswers hanswer
  | refused => exact .inl rfl
  | unheard hanswer => exact hanswers hanswer

end VolumePlugin
