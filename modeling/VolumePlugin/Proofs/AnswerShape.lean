/-
# Shapes of answers

A listing and a creation each look for certain parts of the value of an answer. Where one of these
parts is missing or has another shape, the failure should say that the provider answered something
else than expected. A creation says so where a member is missing and for no other reason, and a
listing never does.

The shapes that are read without a failure are described here as such, without the order in which
their parts are looked at. Behind an answer of success the two operations blame the provider, if
they fail at all, just where the body is no JSON or spells a value of the shape that is expected.
-/
import VolumePlugin.Proofs.AnswerStatus

namespace VolumePlugin

variable {α β : Type}

/-! ## Shapes of values -/

namespace Value

/-- An object whose members have a property. -/
def IsObjectWith (P : List (String × Value) → Prop) (value : Value) : Prop :=
  ∃ members, value.members? = some members ∧ P members

/-- A value that has elements. -/
def IsCollection (value : Value) : Prop :=
  value.kind = .list ∨ value.kind = .text ∨ value.kind = .object ∨ value.kind = .settings

/-- There is a member of a name. -/
def HasMember (members : List (String × Value)) (name : String) : Prop :=
  ∃ value, member? members name = some value

/-- A member may be missing or empty, and otherwise has a property. -/
def OptionalMember (members : List (String × Value)) (name : String) (P : Value → Prop) : Prop :=
  ∀ value, member? members name = some value → value.truthy = true → P value

end Value

open Value

/-- The members without which nothing is a volume. -/
def Volume.requiredMembers : List String := ["id", "name", "size_gigabytes"]

/-- All members are there without which nothing is a volume. -/
def Volume.Complete (members : List (String × Value)) : Prop :=
  ∀ name ∈ Volume.requiredMembers, HasMember members name

/-- The members of an object that describes a volume. -/
structure Volume.Described (members : List (String × Value)) : Prop where
  complete : Volume.Complete members
  droplets : OptionalMember members "droplet_ids" IsCollection

/-- The members of an object that describes the volume that was created. -/
def Volume.Created (members : List (String × Value)) : Prop :=
  ∃ volume, member? members "volume" = some volume ∧ volume.IsObjectWith Volume.Described

/-- The members of an object that answers a creation as expected, if only by a member that is
missing. -/
def Volume.CreationExpected (members : List (String × Value)) : Prop :=
  ∀ volume, member? members "volume" = some volume →
    volume.IsObjectWith fun fields => Volume.Described fields ∨ ¬ Volume.Complete fields

/-- A list of volumes, or another collection without elements. -/
def Value.ListsVolumes (value : Value) : Prop :=
  (∃ items, value = .list items ∧ ∀ item ∈ items, item.IsObjectWith Volume.Described) ∨
    value = .text "" ∨ value.IsObjectWith (· = [])

/-- The members of an object that describes a page of a listing. -/
structure Page.Described (members : List (String × Value)) : Prop where
  volumes : ∀ value, member? members "volumes" = some value → value.ListsVolumes
  links : OptionalMember members "links" (IsObjectWith fun links =>
    OptionalMember links "pages" (IsObjectWith fun _ => True))

/-! ## Reading parts of values -/

namespace Value

variable {value part : Value} {members : List (String × Value)} {name : String}
  {failure : Failure}

theorem isObjectWith_or {P Q : List (String × Value) → Prop} :
    (value.IsObjectWith fun members => P members ∨ Q members) ↔
      value.IsObjectWith P ∨ value.IsObjectWith Q := by
  simp only [IsObjectWith, and_or_left, exists_or]

theorem members_eq_ok_iff : value.members = .ok members ↔ value.members? = some members := by
  unfold Value.members membersFor
  cases value.members? <;> simp

theorem members_ne_missing (key : Value) : value.members ≠ .error (.missingMember key) := by
  unfold Value.members membersFor
  cases value.members? <;> simp

theorem require_eq_ok_iff : require members name = .ok part ↔ member? members name = some part := by
  unfold require
  cases member? members name <;> simp

theorem require_eq_error_iff :
    require members name = .error failure ↔
      ¬ HasMember members name ∧ failure = .missingMember (.text name) := by
  unfold require HasMember
  cases member? members name <;> simp [eq_comm]

theorem index_eq_ok_iff :
    value.index name = .ok part ↔
      value.IsObjectWith fun members => member? members name = some part := by
  cases value <;> simp [index, IsObjectWith, members?, require_eq_ok_iff]

theorem index_missing_iff :
    (∃ key, value.index name = .error (.missingMember key)) ↔
      value.IsObjectWith fun members => ¬ HasMember members name := by
  cases value <;> simp [index, IsObjectWith, members?, require_eq_error_iff]

/-- A value has elements just where it is a collection. -/
theorem exists_elements_iff : (∃ items, value.elements = .ok items) ↔ value.IsCollection := by
  cases value <;> simp [elements, IsCollection, Value.kind]

theorem elements_ne_missing (key : Value) : value.elements ≠ .error (.missingMember key) := by
  cases value <;> simp [elements]

/-- An optional member is read with null for one that is missing. -/
theorem optionalMember_iff {P : Value → Prop} :
    OptionalMember members name P ↔
      ((memberOr members name .null).truthy = true → P (memberOr members name .null)) := by
  unfold OptionalMember memberOr
  cases member? members name with
  | none => simp [truthy]
  | some value => simp

theorem orElse_iff {fallback : Value} {P : Value → Prop} (hfallback : P fallback) :
    P (value.orElse fallback) ↔ (value.truthy = true → P value) := by
  unfold orElse
  split <;> simp_all

end Value

/-- A rule holds of a whole list just where it holds of each item. -/
theorem exists_mapM_iff {rule : α → Except Failure β} {items : List α} :
    (∃ results, items.mapM rule = .ok results) ↔
      ∀ item ∈ items, ∃ result, rule item = .ok result := by
  induction items with
  | nil => simp [pure, Except.pure]
  | cons item rest ih =>
      rw [List.mapM_cons, List.forall_mem_cons, ← ih]
      simp only [bind_eq_ok]
      constructor
      · rintro ⟨_, result, hitem, results, hrest, -⟩
        exact ⟨⟨result, hitem⟩, results, hrest⟩
      · rintro ⟨⟨result, hitem⟩, results, hrest⟩
        exact ⟨_, result, hitem, results, hrest, rfl⟩

/-! ## Reading volumes and pages -/

/-- A failure that the provider is to blame for: a request failed, or it was answered by something
else than expected. -/
def Failure.BlamesProvider : Failure → Prop
  | .provider _ | .unexpectedAnswer _ _ => True
  | _ => False

namespace Volume

variable {value : Value} {members : List (String × Value)}

theorem complete_iff :
    Complete members ↔ HasMember members "id" ∧ HasMember members "name" ∧
      HasMember members "size_gigabytes" := by
  simp [Complete, requiredMembers]

/-- The droplets of a volume are read where they are missing, empty or a collection. -/
theorem exists_droplets_iff :
    (∃ items, ((memberOr members "droplet_ids" .null).orElse (.list [])).elements = .ok items) ↔
      OptionalMember members "droplet_ids" IsCollection := by
  rw [exists_elements_iff, orElse_iff (P := IsCollection) (.inl rfl), optionalMember_iff]

/-- A volume is read where it is described. -/
theorem exists_ofValue_iff :
    (∃ volume, ofValue value = .ok volume) ↔ value.IsObjectWith Described := by
  simp only [ofValue, bind_eq_ok, members_eq_ok_iff, require_eq_ok_iff]
  constructor
  · rintro ⟨_, members, hmembers, id, hid, name, hname, size, hsize, droplets, hdroplets, -⟩
    exact ⟨members, hmembers, complete_iff.2 ⟨⟨id, hid⟩, ⟨name, hname⟩, ⟨size, hsize⟩⟩,
      exists_droplets_iff.1 ⟨droplets, hdroplets⟩⟩
  · rintro ⟨members, hmembers, hcomplete, hdroplets⟩
    obtain ⟨⟨id, hid⟩, ⟨name, hname⟩, ⟨size, hsize⟩⟩ := complete_iff.1 hcomplete
    obtain ⟨droplets, hdroplets⟩ := exists_droplets_iff.2 hdroplets
    exact ⟨_, members, hmembers, id, hid, name, hname, size, hsize, droplets, hdroplets, rfl⟩

/-- A member of a volume is missed where one of those is missing without which it is none. -/
theorem missing_ofValue_iff :
    (∃ key, ofValue value = .error (.missingMember key)) ↔
      value.IsObjectWith fun members => ¬ Complete members := by
  simp only [ofValue, bind_eq_error, members_eq_ok_iff, require_eq_ok_iff, members_ne_missing,
    require_eq_error_iff, elements_ne_missing, complete_iff, false_or]
  constructor
  · rintro ⟨key, members, hmembers, hmissed⟩
    refine ⟨members, hmembers, ?_⟩
    rintro ⟨hid, hname, hsize⟩
    rcases hmissed with ⟨hno, -⟩ | ⟨_, -, ⟨hno, -⟩ | ⟨_, -, ⟨hno, -⟩ | ⟨_, -, _, -, himpossible⟩⟩⟩
    · exact hno hid
    · exact hno hname
    · exact hno hsize
    · cases himpossible
  · rintro ⟨members, hmembers, hincomplete⟩
    by_cases hid : HasMember members "id"
    · obtain ⟨id, hid⟩ := hid
      by_cases hname : HasMember members "name"
      · obtain ⟨name, hname⟩ := hname
        have hsize : ¬ HasMember members "size_gigabytes" := fun hsize =>
          hincomplete ⟨⟨id, hid⟩, ⟨name, hname⟩, hsize⟩
        exact ⟨_, members, hmembers, .inr ⟨id, hid, .inr ⟨name, hname, .inl ⟨hsize, rfl⟩⟩⟩⟩
      · exact ⟨_, members, hmembers, .inr ⟨id, hid, .inl ⟨hname, rfl⟩⟩⟩
    · exact ⟨_, members, hmembers, .inl ⟨hid, rfl⟩⟩

/-- The member of a creation is read where it is there and described. -/
theorem exists_ofMember_iff :
    (∃ volume, value.index "volume" >>= ofValue = .ok volume) ↔
      value.IsObjectWith Created := by
  unfold Created
  simp only [bind_eq_ok, index_eq_ok_iff, ← exists_ofValue_iff]
  constructor
  · rintro ⟨volume, part, ⟨members, hmembers, hpart⟩, hvolume⟩
    exact ⟨members, hmembers, part, hpart, volume, hvolume⟩
  · rintro ⟨members, hmembers, part, hpart, volume, hvolume⟩
    exact ⟨volume, part, ⟨members, hmembers, hpart⟩, hvolume⟩

/-- A member is missed where the one of the creation is not there or lacks another. -/
theorem missing_ofMember_iff :
    (∃ key, value.index "volume" >>= ofValue = .error (.missingMember key)) ↔
      value.IsObjectWith fun members => ¬ HasMember members "volume" ∨
        ∃ part, member? members "volume" = some part ∧
          part.IsObjectWith fun fields => ¬ Complete fields := by
  rw [isObjectWith_or, ← index_missing_iff]
  simp only [bind_eq_error, exists_or, index_eq_ok_iff, ← missing_ofValue_iff]
  refine or_congr_right ⟨?_, ?_⟩
  · rintro ⟨key, part, ⟨members, hmembers, hpart⟩, hmissing⟩
    exact ⟨members, hmembers, part, hpart, key, hmissing⟩
  · rintro ⟨members, hmembers, part, hpart, key, hmissing⟩
    exact ⟨key, part, ⟨members, hmembers, hpart⟩, hmissing⟩

/-- A creation is read where the volume is described. -/
theorem exists_ofCreation_iff (value : Value) :
    (∃ volume, ofCreation value = .ok volume) ↔ value.IsObjectWith Created := by
  rw [← exists_ofMember_iff]
  unfold ofCreation
  split
  · rename_i hmissing
    simp [hmissing]
  · rfl

/-- What a creation makes of a value blames the provider or the shape. -/
theorem failsAs_ofCreation (value : Value) :
    FailsAs (fun failure => failure.BlamesProvider ∨ failure.BlamesShape) (ofCreation value) := by
  unfold ofCreation
  split
  · simp [Failure.BlamesProvider]
  · exact (failsAs_ofMember value).mono fun _ => .inr

/-- What a creation makes of a value blames the provider, if it fails, where the value is read or a
member is missed on the way. -/
theorem failsAs_ofCreation_iff_read :
    FailsAs Failure.BlamesProvider (ofCreation value) ↔
      (∃ volume, value.index "volume" >>= ofValue = .ok volume) ∨
        ∃ key, value.index "volume" >>= ofValue = .error (.missingMember key) := by
  have hshape := failsAs_ofMember value
  unfold ofCreation
  cases hread : value.index "volume" >>= ofValue with
  | ok volume => simp
  | error failure =>
      cases failure with
      | missingMember | mismatch => simp [Failure.BlamesProvider]
      | _ => exact (hshape _ hread).elim

theorem failsAs_ofCreation_iff (value : Value) :
    FailsAs Failure.BlamesProvider (ofCreation value) ↔ value.IsObjectWith CreationExpected := by
  rw [failsAs_ofCreation_iff_read, exists_ofMember_iff, missing_ofMember_iff, ← isObjectWith_or]
  refine exists_congr fun members => and_congr_right fun _ => ?_
  simp only [Created, CreationExpected, HasMember, isObjectWith_or]
  cases member? members "volume" <;> simp

end Volume

/-- Links are read where they are missing, empty or an object, and their pages are as well. -/
theorem PageLinks.exists_ofValue_iff {value : Value} :
    (∃ links, PageLinks.ofValue value = .ok links) ↔
      (value.truthy = true → value.IsObjectWith fun links =>
        OptionalMember links "pages" (IsObjectWith fun _ => True)) := by
  unfold PageLinks.ofValue
  by_cases hgiven : value.truthy = true
  · simp only [hgiven, Bool.not_true, Bool.false_eq_true, ↓reduceIte, forall_const, bind_eq_ok,
      members_eq_ok_iff]
    rw [exists_comm]
    refine exists_congr fun members => ?_
    rw [exists_and_left]
    refine and_congr_right fun _ => Iff.trans ?_ optionalMember_iff.symm
    by_cases hpages : (memberOr members "pages" .null).truthy = true
    · simp [hpages, bind_eq_ok, members_eq_ok_iff, IsObjectWith, pure, Except.pure]
    · simp [hpages, pure, Except.pure]
  · simp [hgiven, pure, Except.pure]

theorem Text.codes_eq_nil_iff {text : List Char} : Text.codes text = [] ↔ text = [] := by
  cases text using Text.codes.induct with
  | _ => simp [Text.codes, *]

/-- The elements of a collection are all volumes just where it is a list of volumes or empty, as a
text is no volume. -/
theorem Value.listsVolumes_iff {value : Value} :
    (∃ items, value.elements = .ok items ∧
      ∀ item ∈ items, item.IsObjectWith Volume.Described) ↔ value.ListsVolumes := by
  have htexts {γ : Type} (spell : γ → String) (parts : List γ) :
      (∀ item ∈ parts.map fun part => Value.text (spell part),
        item.IsObjectWith Volume.Described) ↔ parts = [] := by
    cases parts <;> simp [IsObjectWith, members?]
  unfold ListsVolumes
  cases value with
  | list items => simp [elements, IsObjectWith, members?]
  | text s =>
      simp only [elements, Except.ok.injEq, exists_eq_left', htexts, Text.codes_eq_nil_iff]
      simp [IsObjectWith, members?]
  | object members | settings members =>
      simp only [elements, Except.ok.injEq, exists_eq_left', htexts]
      simp [IsObjectWith, members?]
  | _ => simp [elements, IsObjectWith, members?]

/-- A page is read where it is described. -/
theorem Page.exists_ofValue_iff (value : Value) :
    (∃ page, Page.ofValue value = .ok page) ↔ value.IsObjectWith Page.Described := by
  have hvolumes (members : List (String × Value)) :
      (∃ items, (memberOr members "volumes" (.list [])).elements = .ok items ∧
        ∃ volumes, items.mapM Volume.ofValue = .ok volumes) ↔
      ∀ value, member? members "volumes" = some value → value.ListsVolumes := by
    simp only [exists_mapM_iff, Volume.exists_ofValue_iff, listsVolumes_iff]
    unfold memberOr
    cases member? members "volumes" with
    | none => simp [ListsVolumes]
    | some value => simp
  have hlinks (members : List (String × Value)) :
      (∃ links, PageLinks.ofValue (memberOr members "links" .null) = .ok links) ↔
      OptionalMember members "links" (IsObjectWith fun links =>
        OptionalMember links "pages" (IsObjectWith fun _ => True)) := by
    rw [PageLinks.exists_ofValue_iff, optionalMember_iff]
  simp only [Page.ofValue, bind_eq_ok, members_eq_ok_iff]
  constructor
  · rintro ⟨_, members, hmembers, items, hitems, volumes, hread, links, hpages, -⟩
    exact ⟨members, hmembers, (hvolumes members).1 ⟨items, hitems, volumes, hread⟩,
      (hlinks members).1 ⟨links, hpages⟩⟩
  · rintro ⟨members, hmembers, hlisted, hlinked⟩
    obtain ⟨items, hitems, volumes, hread⟩ := (hvolumes members).2 hlisted
    obtain ⟨links, hpages⟩ := (hlinks members).2 hlinked
    exact ⟨_, members, hmembers, items, hitems, volumes, hread, links, hpages, rfl⟩

/-- What a listing makes of a value never blames the provider. -/
theorem Page.failsAs_ofValue_iff (value : Value) :
    FailsAs Failure.BlamesProvider (Page.ofValue value) ↔ value.IsObjectWith Page.Described := by
  rw [← Page.exists_ofValue_iff]
  have hshape := Page.failsAs_ofValue value
  cases hread : Page.ofValue value with
  | ok page => simp
  | error failure =>
      have hblames := hshape failure hread
      cases failure <;> simp_all [Failure.BlamesProvider, Failure.BlamesShape]

/-! ## Answers of success -/

/-- What a failure is about, where it is about the provider or about a shape. -/
theorem exists_blamesShape_iff {outcome : Except Failure α}
    (hfails : FailsAs (fun failure => failure.BlamesProvider ∨ failure.BlamesShape) outcome) :
    (∃ failure, outcome = .error failure ∧ failure.BlamesShape) ↔
      ¬ FailsAs Failure.BlamesProvider outcome := by
  cases outcome with
  | ok a => simp
  | error failure =>
      simp only [failsAs_error_iff, Except.error.injEq, exists_eq_left'] at hfails ⊢
      cases failure <;> simp_all [Failure.BlamesProvider, Failure.BlamesShape]

/-- What the body of an answer spells: the empty object where it has no content. -/
def Reply.told (status : Int) (body : String) : Except Json.Fault Value :=
  if status = 204 ∨ body = "" then .ok (.object []) else Json.read body

/-- An answer of success that tells a value has this value. -/
theorem Reply.content_eq_told (url : String) (status : Int) (body : String) :
    content url status body =
      match told status body with
      | .ok value => .ok value
      | .error .malformed => .error (.unexpectedAnswer (.text url) (.text body))
      | .error (.tooDeep container) => .error (.nestedTooDeep container) := by
  unfold content told
  split <;> rfl

/-- How an outcome follows from what an answer of success tells. There is a result where a value of
the shape is told that can be read. A failure blames the provider where nothing is told that is JSON
or a value of a shape that is expected, and otherwise does not say where it comes from: a value of
another shape is not known as the provider's, and too deep a body is not read at all. -/
structure ReadsAs (readable expected : Value → Prop) (told : Except Json.Fault Value)
    (outcome : Except Failure α) : Prop where
  returned : (∃ a, outcome = .ok a) ↔ ∃ value, told = .ok value ∧ readable value
  blamed : FailsAs Failure.BlamesProvider outcome ↔
    told = .error .malformed ∨ ∃ value, told = .ok value ∧ expected value
  misshapen : (∃ failure, outcome = .error failure ∧ failure.BlamesShape) ↔
    ∃ value, told = .ok value ∧ ¬ expected value
  tooDeep : ∀ container, outcome = .error (.nestedTooDeep container) ↔
    told = .error (.tooDeep container)

/-- What the rule of a reader makes of a value follows from its shape. -/
structure ReaderOf (readable expected : Value → Prop) (rule : Value → Except Failure α) :
    Prop where
  fails : ∀ value,
    FailsAs (fun failure => failure.BlamesProvider ∨ failure.BlamesShape) (rule value)
  returned : ∀ value, (∃ a, rule value = .ok a) ↔ readable value
  blamed : ∀ value, FailsAs Failure.BlamesProvider (rule value) ↔ expected value

theorem readerOf_page : ReaderOf (IsObjectWith Page.Described) (IsObjectWith Page.Described)
    Page.ofValue where
  fails value := (Page.failsAs_ofValue value).mono fun _ => .inr
  returned := Page.exists_ofValue_iff
  blamed := Page.failsAs_ofValue_iff

theorem readerOf_creation : ReaderOf (IsObjectWith Volume.Created)
    (IsObjectWith Volume.CreationExpected) Volume.ofCreation where
  fails := Volume.failsAs_ofCreation
  returned := Volume.exists_ofCreation_iff
  blamed := Volume.failsAs_ofCreation_iff

section Readers

variable {readable expected : Value → Prop} {rule : Value → Except Failure α}

/-- What is made of an answer of success follows from what it tells. -/
theorem ReaderOf.readsAs_content (hreader : ReaderOf readable expected rule) (url : String)
    (status : Int) (body : String) :
    ReadsAs readable expected (Reply.told status body)
      (Reply.content url status body >>= rule) := by
  rw [Reply.content_eq_told]
  cases Reply.told status body with
  | ok value =>
      have hfails := hreader.fails value
      have hblamed := hreader.blamed value
      rw [ok_bind]
      refine ⟨by simp [hreader.returned], by simp [hblamed], ?_, fun container => ?_⟩
      · rw [exists_blamesShape_iff hfails, hblamed]
        simp
      · simp only [reduceCtorEq, iff_false]
        intro hfailed
        exact (hfails _ hfailed).elim id id
  | error fault =>
      cases fault with
      | malformed | tooDeep =>
          refine ⟨?_, ?_, ?_, ?_⟩ <;>
            simp [error_bind, Failure.BlamesProvider, Failure.BlamesShape]

/-- What is made of the next reply, where this is an answer of success. -/
theorem ReaderOf.readsAs_of_asks (hreader : ReaderOf readable expected rule) {action : Action α}
    {request : Request} {method : Method} {url : String} {session : Session} {status : Int}
    {body : String}
    (hasks : action.Asks (.exchange request) fun reply => reply.value method url >>= rule)
    (hsuccess : 200 ≤ status ∧ status < 300)
    (hnext : session.replies.head? = some (.answer status body)) :
    ReadsAs readable expected (Reply.told status body) (action.runIn session).1 := by
  have hhead : session.replies.headD Reply.silence = .answer status body := by
    rw [List.headD_eq_head?_getD, hnext]
    rfl
  have hnoError : ¬ Reply.isErrorStatus status = true := by
    rw [Reply.isErrorStatus_eq_true_iff]
    omega
  rw [hasks.result, hhead, Reply.value, if_neg hnoError]
  exact hreader.readsAs_content url status body

end Readers

namespace Client

/-- What becomes of any answer of success. A listing returns a page just where the body spells an
object that describes one, and blames the provider otherwise where the body is no JSON. A creation
returns a volume where the body spells an object that describes it, and blames the provider also
where the volume or one of its required members is missing. A value of any other shape makes them
fail by the part that is not as expected, and too deep a body is a failure of its own. -/
theorem answer_blamed_iff (client : Client) (session : Session) {status : Int} {body : String}
    (hsuccess : 200 ≤ status ∧ status < 300)
    (hnext : session.replies.head? = some (.answer status body)) :
    (∀ region name page perPage timeout,
      ReadsAs (IsObjectWith Page.Described) (IsObjectWith Page.Described)
        (Reply.told status body)
        ((client.listVolumes region name page perPage timeout).runIn session).1) ∧
    ∀ region name description gigabytes timeout,
      ReadsAs (IsObjectWith Volume.Created) (IsObjectWith Volume.CreationExpected)
        (Reply.told status body)
        ((client.createVolume region name description gigabytes timeout).runIn session).1 := by
  constructor
  · intro region name page perPage timeout
    exact readerOf_page.readsAs_of_asks
      (client.asks_listVolumes region name page perPage timeout) hsuccess hnext
  · intro region name description gigabytes timeout
    exact readerOf_creation.readsAs_of_asks
      (client.asks_createVolume region name description gigabytes timeout) hsuccess hnext

/-- A creation is answered with an empty object, which is the provider's mistake, and a listing with
null, which fails otherwise. -/
theorem empty_answers_blamed :
    FailsAs Failure.BlamesProvider
      ((Service.sampleClient.createVolume (.text "nyc3") (.text "data") .null (.int 1) .null).runIn
        { thread := "", replies := [.answer 201 "\x7b\x7d"] }).1 ∧
    ∃ failure, ((Service.sampleClient.listVolumes (.text "nyc3") .null .null .null .null).runIn
      { thread := "", replies := [.answer 200 "null"] }).1 = .error failure ∧
        failure.BlamesShape := by
  have hempty : Reply.told 201 "\x7b\x7d" = .ok (.object []) := by decide +kernel
  have hnull : Reply.told 200 "null" = .ok .null := by decide +kernel
  obtain ⟨-, hcreated⟩ := answer_blamed_iff Service.sampleClient
    { thread := "", replies := [.answer 201 "\x7b\x7d"] } (by decide) rfl
  obtain ⟨hlisted, -⟩ := answer_blamed_iff Service.sampleClient
    { thread := "", replies := [.answer 200 "null"] } (by decide) rfl
  constructor
  · apply (hcreated _ _ _ _ _).blamed.2
    exact .inr ⟨_, hempty, [], rfl, nofun⟩
  · apply (hlisted _ _ _ _ _).misshapen.2
    refine ⟨_, hnull, ?_⟩
    rintro ⟨members, himpossible, -⟩
    cases himpossible

/-- A listed volume without members fails by the first one that is missing, and a created volume
that is null by what it lacks. -/
theorem bare_volumes_escape :
    ((Service.sampleClient.listVolumes (.text "nyc3") .null .null .null .null).runIn
      { thread := "", replies := [.answer 200 "\x7b\"volumes\":[\x7b\x7d]\x7d"] }).1 =
        .error (.missingMember (.text "id")) ∧
    ((Service.sampleClient.createVolume (.text "nyc3") (.text "data") .null (.int 1) .null).runIn
      { thread := "", replies := [.answer 201 "\x7b\"volume\":null\x7d"] }).1 =
        .error (.mismatch (.lacks .null "get")) := by
  constructor <;> decide +kernel

end Client

end VolumePlugin
