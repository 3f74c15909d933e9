/-
# Which calls answer

A supervised call answers whatever its handler does, unless the status of a failure cannot be
found. This takes a failed request to the provider whose details are no text, and a handler that
passes the failure on without looking at it. The handlers that ask for volumes pass on the failure
of the request that was sent last; the handlers of changes look at the details themselves, so that
unreadable ones have become a failure of their own by then.
-/
import VolumePlugin.Proofs.Supervision

namespace VolumePlugin

/-! ## Unreadable details -/

namespace Reply

/-- Whether a reply says about an error something that is no text. -/
def hasUnreadableDetails : Reply → Bool
  | .answer status body =>
    isErrorStatus status &&
      match errorDetails body with
      | .ok (.text _) => false
      | .ok _ => true
      | .error _ => false
  | _ => false

/-- Details are a text or not empty. -/
theorem text_or_truthy_of_errorDetails {body : String} {details : Value}
    (hdetails : errorDetails body = .ok details) :
    (∃ text, details = .text text) ∨ details.truthy = true := by
  unfold errorDetails at hdetails
  split at hdetails
  · cases hdetails
    unfold Value.orElse
    split
    · exact .inr ‹_›
    · exact .inl ⟨body, rfl⟩
  · cases hdetails
  · cases hdetails
    exact .inl ⟨body, rfl⟩

end Reply

namespace ProviderError

/-- A text is read as it is, also an empty one. -/
theorem lowerDetails_of_text {error : ProviderError} {text : String}
    (hdetails : error.details = .text text) :
    error.lowerDetails = .ok (Text.lower text.toList) := by
  have hsame : (Value.text text).orElse (.text "") = .text text := by
    rw [Value.orElse]
    split
    · rfl
    · rename_i hempty
      have hnone : text = "" := by simpa [Value.truthy] using hempty
      rw [hnone]
  rw [lowerDetails, hdetails, hsame]

/-- Details that can be read are a text or empty. -/
theorem text_of_lowerDetails {error : ProviderError} {lowered : List Char}
    (hlowered : error.lowerDetails = .ok lowered) (htruthy : error.details.truthy = true) :
    ∃ text, error.details = .text text := by
  unfold lowerDetails at hlowered
  rw [Value.orElse, if_pos htruthy] at hlowered
  split at hlowered
  · exact ⟨_, ‹_›⟩
  · cases hlowered

/-- How an answer is classified: by a status that means the wanted state, and else by its
details. -/
theorem classify_of_answer {error : ProviderError} {status : Int}
    (hstatus : error.status = .int status) (fragments : List String) :
    error.classify fragments =
      if fragments ≠ [] ∧ status = 422 then .ok .alreadyInDesiredState
      else (do
        let details ← error.lowerDetails
        if mentions details fragments then return .alreadyInDesiredState
        classOfDetails (.int status) details) := by
  unfold classify
  rw [hstatus]
  cases fragments with
  | nil => rfl
  | cons fragment rest =>
      simp only [List.isEmpty_cons, Bool.not_false, Bool.true_and, Value.alike_int,
        decide_eq_true_eq, ne_eq, reduceCtorEq, not_false_eq_true, true_and]
      rfl

/-- The class of a whole status is found whatever the details say. -/
theorem classOfDetails_int (status : Int) (details : List Char) :
    ∃ found, classOfDetails (.int status) details = .ok found := by
  unfold classOfDetails
  split
  · exact ⟨_, rfl⟩
  · exact ⟨_, classOfStatus_int status⟩

/-- An answer is classified once its details can be read. -/
theorem classify_of_lowerDetails {error : ProviderError} {status : Int} {lowered : List Char}
    (hstatus : error.status = .int status) (hlowered : error.lowerDetails = .ok lowered) :
    ∃ found, error.classify [] = .ok found := by
  obtain ⟨found, hfound⟩ := classOfDetails_int status lowered
  refine ⟨found, ?_⟩
  rw [classify_of_answer hstatus, hlowered]
  exact hfound

/-- An answer is not classified before its details are read, unless its status means the wanted
state. -/
theorem lowerDetails_of_classify {error : ProviderError} {status : Int} {fragments : List String}
    {found : ErrorClass} (hstatus : error.status = .int status)
    (hfound : error.classify fragments = .ok found) :
    (∃ lowered, error.lowerDetails = .ok lowered) ∨
      fragments ≠ [] ∧ found = .alreadyInDesiredState := by
  rw [classify_of_answer hstatus] at hfound
  split at hfound
  · rename_i hwanted
    cases hfound
    exact .inr ⟨hwanted.1, rfl⟩
  · obtain ⟨lowered, hlowered, -⟩ := bind_eq_ok.1 hfound
    exact .inl ⟨lowered, hlowered⟩

end ProviderError

/-- The details of an answer can be read just when they are a text. -/
theorem Reply.hasUnreadableDetails_eq_false_iff {status : Int} {body : String} {details : Value}
    (hstatus : isErrorStatus status = true) (hdetails : errorDetails body = .ok details) :
    hasUnreadableDetails (.answer status body) = false ↔ ∃ text, details = .text text := by
  simp only [hasUnreadableDetails, hstatus, hdetails, Bool.true_and]
  cases details <;> simp

/-- A reply that cannot be read is a failed request. -/
theorem Reply.value_of_hasUnreadableDetails {reply : Reply}
    (hunread : reply.hasUnreadableDetails = true) (method : Method) (url : String) :
    ∃ error, reply.value method url = .error (.provider error) := by
  cases reply with
  | lost report => cases hunread
  | broken sort report => cases hunread
  | answer status body =>
      rw [hasUnreadableDetails, Bool.and_eq_true] at hunread
      obtain ⟨hstatus, hread⟩ := hunread
      cases hdetails : errorDetails body with
      | error failure =>
          rw [hdetails] at hread
          cases hread
      | ok details =>
          refine ⟨⟨method.name, url, .int status, details⟩, ?_⟩
          rw [Reply.value, if_pos hstatus, hdetails, ok_bind]

/-- A failed request that can be classified for some caller was answered with details that can be
read, unless the answer means what this caller wants. -/
theorem Reply.hasUnreadableDetails_of_classify {method : Method} {url : String} {reply : Reply}
    {error : ProviderError} {fragments : List String} {found : ErrorClass}
    (hvalue : reply.value method url = .error (.provider error))
    (hfound : error.classify fragments = .ok found) :
    reply.hasUnreadableDetails = false ∨ fragments ≠ [] ∧ found = .alreadyInDesiredState := by
  rcases Reply.value_eq_provider_iff.1 hvalue with ⟨report, rfl, rfl⟩ |
    ⟨status, body, details, rfl, hstatus, hdetails, rfl⟩
  · exact .inl rfl
  · rcases ProviderError.lowerDetails_of_classify rfl hfound with ⟨lowered, hlowered⟩ | hwanted
    · rw [hasUnreadableDetails_eq_false_iff hstatus hdetails]
      rcases text_or_truthy_of_errorDetails hdetails with htext | htruthy
      · exact .inl htext
      · exact .inl (ProviderError.text_of_lowerDetails hlowered htruthy)
    · exact .inr hwanted

/-- The status of a failed request is found just when the reply can be read. -/
theorem Reply.statusRule_eq_ok_iff {method : Method} {url : String} {reply : Reply}
    {error : ProviderError} (hvalue : reply.value method url = .error (.provider error)) :
    (∃ status, Failure.statusRule (.provider error) = .ok status) ↔
      reply.hasUnreadableDetails = false := by
  constructor
  · intro hboth
    obtain ⟨status, hstatus⟩ := hboth
    obtain ⟨found, hfound, -⟩ := bind_eq_ok.1 hstatus
    rcases hasUnreadableDetails_of_classify hvalue hfound with hread | ⟨himpossible, -⟩
    · exact hread
    · exact (himpossible rfl).elim
  · intro hread
    have hfound : ∃ found, error.classify [] = .ok found := by
      rcases Reply.value_eq_provider_iff.1 hvalue with ⟨report, rfl, rfl⟩ |
        ⟨status, body, details, rfl, hstatus, hdetails, rfl⟩
      · exact ⟨.transient, rfl⟩
      · obtain ⟨text, rfl⟩ := (hasUnreadableDetails_eq_false_iff hstatus hdetails).1 hread
        exact ProviderError.classify_of_lowerDetails rfl (ProviderError.lowerDetails_of_text rfl)
    obtain ⟨found, hfound⟩ := hfound
    exact ⟨found.status, by rw [Failure.statusRule, hfound]; rfl⟩

/-! ## Failures that are passed on -/

/-- A chain of which only the first part asks the provider reports what that part does. -/
theorem bind_eq_provider_iff {α β : Type} {rule : Except Failure α} {next : α → Except Failure β}
    (hlocal : ∀ a, rule = .ok a → IsLocal (next a)) (error : ProviderError) :
    rule >>= next = .error (.provider error) ↔ rule = .error (.provider error) := by
  rw [bind_eq_error]
  constructor
  · rintro (hrule | ⟨a, ha, hnext⟩)
    · exact hrule
    · exact (hlocal a ha error hnext).elim
  · exact .inl

/-- A failure is passed on whatever was wanted. -/
theorem error_eq_provider_iff {α β : Type} {outcome : Except Failure α} {failure : Failure}
    (hfailed : outcome = .error failure) (error : ProviderError) :
    (.error failure : Except Failure β) = .error (.provider error) ↔
      outcome = .error (.provider error) := by
  rw [hfailed]
  simp

/-- A result reports the failure of the request that was sent last, and of no other. -/
def ReportsLast {α : Type} (transcript : List Event) (result : Except Failure α) : Prop :=
  ∀ error, result = .error (.provider error) ↔
    ∃ request reply, (exchangesOf transcript).getLast? = some (request, reply) ∧
      reply.value request.method request.url = .error (.provider error)

section Reports

variable {α : Type} {transcript : List Event} {result : Except Failure α}

/-- Where nothing was sent, a local result has nothing to report. -/
theorem reportsLast_of_isLocal (hexchanges : exchangesOf transcript = [])
    (hlocal : IsLocal result) : ReportsLast transcript result := by
  intro error
  rw [hexchanges]
  constructor
  · intro hresult
    exact (hlocal error hresult).elim
  · intro hboth
    obtain ⟨request, reply, hlast, -⟩ := hboth
    cases hlast

/-- Behind a single request the result reports what the reply does. -/
theorem reportsLast_of_exchange {request : Request} {reply : Reply}
    (hexchanges : exchangesOf transcript = [(request, reply)])
    (hresult : ∀ error, result = .error (.provider error) ↔
      reply.value request.method request.url = .error (.provider error)) :
    ReportsLast transcript result := by
  intro error
  rw [hexchanges, List.getLast?_singleton, hresult]
  constructor
  · intro hvalue
    exact ⟨request, reply, rfl, hvalue⟩
  · intro hboth
    obtain ⟨_, _, hlast, hvalue⟩ := hboth
    cases hlast
    exact hvalue

/-- A request that did not fail makes no difference to what is reported. -/
theorem ReportsLast.cons {request : Request} {reply : Reply}
    (hreports : ReportsLast transcript result)
    (hlocal : IsLocal (reply.value request.method request.url)) :
    ReportsLast (.exchange request reply :: transcript) result := by
  intro error
  rw [hreports error, exchangesOf_exchange]
  cases hrest : exchangesOf transcript with
  | nil =>
      constructor
      · intro hboth
        obtain ⟨_, _, himpossible, -⟩ := hboth
        cases himpossible
      · intro hboth
        obtain ⟨_, _, hlast, hvalue⟩ := hboth
        cases hlast
        exact (hlocal error hvalue).elim
  | cons next rest => rw [List.getLast?_cons_cons]

/-- What is done with a result on the plugin's side makes no difference to what is reported. -/
theorem ReportsLast.bind {β : Type} {next : α → Except Failure β}
    (hreports : ReportsLast transcript result) (hlocal : ∀ a, IsLocal (next a)) :
    ReportsLast transcript (result >>= next) := by
  intro error
  rw [bind_eq_provider_iff (fun a _ => hlocal a), hreports error]

theorem ReportsLast.map {β : Type} (hreports : ReportsLast transcript result) (f : α → β) :
    ReportsLast transcript (result.map f) := by
  have hbind : result.map f = result >>= fun a => .ok (f a) := by
    cases result <;> rfl
  rw [hbind]
  exact hreports.bind fun a => isLocal_ok (f a)

end Reports

/-- A page reports what the reply does. -/
theorem Client.pageOf_eq_provider_iff (client : Client) (reply : Reply) (error : ProviderError) :
    client.pageOf reply = .error (.provider error) ↔
      reply.value .get (client.apiUrl ++ Operation.volumesPath) = .error (.provider error) :=
  bind_eq_provider_iff (fun value _ => Page.isLocal_ofValue value) error

/-- A created volume reports what the reply does. -/
theorem Client.createdBy_eq_provider_iff (client : Client) (reply : Reply)
    (error : ProviderError) :
    client.createdBy reply = .error (.provider error) ↔
      reply.value .post (client.apiUrl ++ Operation.volumesPath) = .error (.provider error) :=
  bind_eq_provider_iff (fun value _ => Volume.isLocal_ofCreation value) error

/-- A turn of a listing reports what the reply does. -/
theorem Client.turnOf_eq_provider_iff (client : Client) (page : Int) (reply : Reply)
    (error : ProviderError) :
    client.turnOf page reply = .error (.provider error) ↔
      reply.value .get (client.apiUrl ++ Operation.volumesPath) = .error (.provider error) := by
  rw [← client.pageOf_eq_provider_iff]
  apply bind_eq_provider_iff
  intro fetched _
  apply (isLocal_pageText _).bind
  intro _ _
  exact (PageLinks.isLocal_position _ _).bind fun _ _ => isLocal_pure _

/-- A page was no failed request. -/
theorem Client.isLocal_value_of_page {client : Client} {reply : Reply} {page : Page}
    (hpage : client.pageOf reply = .ok page) :
    IsLocal (reply.value .get (client.apiUrl ++ Operation.volumesPath)) := by
  intro error hvalue
  rw [← client.pageOf_eq_provider_iff, hpage] at hvalue
  cases hvalue

/-- A turn of a listing was no failed request. -/
theorem Client.isLocal_value_of_turn {client : Client} {page : Int} {reply : Reply}
    {turn : List Volume × PageLinks.Position} (hturn : client.turnOf page reply = .ok turn) :
    IsLocal (reply.value .get (client.apiUrl ++ Operation.volumesPath)) := by
  intro error hvalue
  rw [← client.turnOf_eq_provider_iff page, hturn] at hvalue
  cases hvalue

section Runs

variable {setting : Setting} {client : Client} {name gigabytes : Value} {transcript : List Event}

/-- The creation of a volume reports what its request does. -/
theorem NewVolumeRun.reportsLast {result : Except Failure Response}
    (hrun : NewVolumeRun setting client name gigabytes transcript result) :
    ReportsLast transcript result := by
  cases hrun with
  | cancelled => exact reportsLast_of_isLocal rfl (by simp)
  | late htime => exact reportsLast_of_isLocal rfl ((Client.isLocal_timeFor _ _ _).of_error htime)
  | asked htime =>
      apply reportsLast_of_exchange rfl
      intro error
      refine (bind_eq_provider_iff (fun _ _ => isLocal_volumeResponse _ _) error).trans ?_
      exact client.createdBy_eq_provider_iff _ error

/-- A call that creates a volume reports what its last request does. -/
theorem CreationRun.reportsLast {request : CreateVolumeRequest} {result : Except Failure Response}
    (hrun : CreationRun request setting transcript result) : ReportsLast transcript result := by
  cases hrun with
  | invalid hrequest =>
      exact reportsLast_of_isLocal rfl (request.isLocal_rule.of_error hrequest)
  | unready _ hclient =>
      exact reportsLast_of_isLocal rfl (setting.isLocal_clientRule.of_error hclient)
  | late _ _ htime =>
      exact reportsLast_of_isLocal rfl ((Client.isLocal_timeFor _ _ _).of_error htime)
  | listed _ _ _ hrest =>
      cases hrest with
      | unlisted hpage =>
          apply reportsLast_of_exchange rfl
          intro error
          rw [error_eq_provider_iff hpage]
          exact Client.pageOf_eq_provider_iff _ _ error
      | unfit hpage hvolume =>
          exact (reportsLast_of_isLocal rfl ((isLocal_volumeOfName _ _).of_error hvolume)).cons
            (Client.isLocal_value_of_page hpage)
      | found hpage _ =>
          exact (reportsLast_of_isLocal rfl (isLocal_volumeResponse _ _)).cons
            (Client.isLocal_value_of_page hpage)
      | absent hpage _ hrest => exact hrest.reportsLast.cons (Client.isLocal_value_of_page hpage)

/-- The pages of a listing report what the last request does. -/
theorem PagesRun.reportsLast {perPage : Value} {page : Int}
    {result : Except Failure (List Volume × Int)}
    (hrun : PagesRun setting client perPage page transcript result) :
    ReportsLast transcript result := by
  induction hrun with
  | cancelled => exact reportsLast_of_isLocal rfl (by simp)
  | late htime => exact reportsLast_of_isLocal rfl ((Client.isLocal_timeFor _ _ _).of_error htime)
  | failed htime hturn =>
      apply reportsLast_of_exchange rfl
      intro error
      rw [error_eq_provider_iff hturn]
      exact Client.turnOf_eq_provider_iff _ _ _ error
  | finished htime hturn =>
      exact (reportsLast_of_isLocal rfl (isLocal_ok _)).cons (Client.isLocal_value_of_turn hturn)
  | goOn htime hturn hrest ih => exact (ih.map _).cons (Client.isLocal_value_of_turn hturn)

/-- A call that lists volumes reports what its last request does. -/
theorem ListingRun.reportsLast {request : ListVolumesRequest} {result : Except Failure Response}
    (hrun : ListingRun request setting transcript result) : ReportsLast transcript result := by
  cases hrun with
  | invalid hrequest =>
      exact reportsLast_of_isLocal rfl (request.isLocal_rule.of_error hrequest)
  | unready _ hclient =>
      exact reportsLast_of_isLocal rfl (setting.isLocal_clientRule.of_error hclient)
  | listed _ _ hrun => exact hrun.reportsLast.bind fun _ => isLocal_respondListing _ _

end Runs

/-! ## Failures that are looked at -/

/-- A refused change that is no success was found to mean something else than what is wanted. -/
theorem classify_of_changeVerdict {fragments : List String} {wanted : ErrorClass}
    {outcome : Except Failure Value} {error : ProviderError}
    (hverdict : changeVerdict fragments wanted outcome = .error (.provider error)) :
    outcome = .error (.provider error) ∧
      ∃ found, error.classify fragments = .ok found ∧ found ≠ wanted := by
  unfold changeVerdict at hverdict
  split at hverdict
  · cases hverdict
  · rename_i refused
    rcases bind_eq_error.1 hverdict with hclass | ⟨found, hfound, hrest⟩
    · exact (refused.isLocal_classify fragments error hclass).elim
    · split at hrest
      · cases hrest
        exact ⟨rfl, found, hfound, ‹_›⟩
      · cases hrest
  · rename_i failure hother
    cases hverdict
    exact (hother error rfl).elim

/-- A failure was there before anything was made of a result. -/
theorem eq_error_of_map {α β : Type} {outcome : Except Failure α} {f : α → β} {failure : Failure}
    (hmap : outcome.map f = .error failure) : outcome = .error failure := by
  cases outcome with
  | ok a => cases hmap
  | error other =>
      cases hmap
      rfl

/-- A change passes on a failed request that a reply has reported, and only after it was found to
mean something else than what is wanted. -/
theorem ChangeCallRun.classify_of_error {setting : Setting} {call : String}
    {fragments : List String} {wanted : ErrorClass} {asked : Except Failure Operation}
    {response : Response} {transcript : List Event} {result : Except Failure Response}
    {error : ProviderError}
    (hrun : ChangeCallRun setting call fragments wanted asked response transcript result)
    (hasked : IsLocal asked) (hresult : result = .error (.provider error)) :
    (∃ (method : Method) (url : String) (reply : Reply),
      reply.value method url = .error (.provider error)) ∧
      ∃ found, error.classify fragments = .ok found ∧ found ≠ wanted := by
  cases hrun with
  | invalid hinvalid => exact (hasked.of_error hinvalid error hresult).elim
  | unready _ hclient => exact (setting.isLocal_clientRule.of_error hclient error hresult).elim
  | changed _ _ hchange =>
      cases hchange with
      | late htime => exact ((Client.isLocal_timeFor _ _ _).of_error htime error hresult).elim
      | asked _ =>
          obtain ⟨hvalue, hfound⟩ := classify_of_changeVerdict (eq_error_of_map hresult)
          exact ⟨⟨_, _, _, hvalue⟩, hfound⟩

/-- Where a change passes on a failed request, the reply could be read: a status that is looked at
before the details is the wanted one, or none. -/
theorem ChangeCallRun.statusRule_eq_ok {setting : Setting} {call : String}
    {fragments : List String} {wanted : ErrorClass} {asked : Except Failure Operation}
    {response : Response} {transcript : List Event} {result : Except Failure Response}
    {error : ProviderError}
    (hrun : ChangeCallRun setting call fragments wanted asked response transcript result)
    (hasked : IsLocal asked) (hwanted : fragments = [] ∨ wanted = .alreadyInDesiredState)
    (hresult : result = .error (.provider error)) :
    ∃ status, Failure.statusRule (.provider error) = .ok status := by
  obtain ⟨⟨method, url, reply, hvalue⟩, found, hfound, hunwanted⟩ :=
    hrun.classify_of_error hasked hresult
  rw [Reply.statusRule_eq_ok_iff hvalue]
  rcases Reply.hasUnreadableDetails_of_classify hvalue hfound with hread | ⟨hfragments, hstate⟩
  · exact hread
  · rcases hwanted with hnone | hstate'
    · exact (hfragments hnone).elim
    · exact (hunwanted (hstate.trans hstate'.symm)).elim

/-! ## Answers of a service -/

/-- Whether a call asks the provider for volumes before anything else. -/
def Call.asksForVolumes : Call → Bool
  | .createVolume _ | .listVolumes _ => true
  | _ => false

/-- What a supervised call has to answer: what its handler does, or else the empty response of the
call, a status other than success and the wording of the failure. -/
def Call.Answers (call : Call) (handled : Except Failure Answer) (answer : Answer) : Prop :=
  match handled with
  | .ok given => answer = given
  | .error failure =>
    answer.response = call.emptyResponse ∧
      (∃ status, answer.status = some status ∧ status ≠ .ok) ∧
      answer.details = some failure.message

/-- An answer that is found is the one that the call has to give. -/
theorem Call.answers_of_settled {call : Call} {handled : Except Failure Answer} {answer : Answer}
    (hanswer : settled call.emptyResponse handled = .ok answer) : call.Answers handled answer := by
  cases handled with
  | ok given =>
      cases hanswer
      rfl
  | error failure =>
      obtain ⟨status, hstatus, hdone⟩ := bind_eq_ok.1 hanswer
      cases hdone
      exact ⟨rfl, ⟨status, rfl, Failure.statusRule_ne_ok hstatus⟩, rfl⟩

/-- An answer is found unless the handler passed on a failed request that has no status. -/
theorem settled_eq_ok_iff (empty : Response) (handled : Except Failure Answer) :
    (∃ answer, settled empty handled = .ok answer) ↔
      ∀ error, handled = .error (.provider error) →
        ∃ status, Failure.statusRule (.provider error) = .ok status := by
  constructor
  · rintro ⟨answer, hanswer⟩ error hhandled
    rw [hhandled] at hanswer
    obtain ⟨status, hstatus, -⟩ := bind_eq_ok.1 hanswer
    exact ⟨status, hstatus⟩
  · intro hstatuses
    cases handled with
    | ok given => exact ⟨given, rfl⟩
    | error failure =>
        have hstatus : ∃ status, failure.statusRule = .ok status := by
          cases failure with
          | provider error => exact hstatuses error rfl
          | _ => exact ⟨_, rfl⟩
        obtain ⟨status, hstatus⟩ := hstatus
        exact ⟨⟨empty, some status, some failure.message⟩, by rw [settled, hstatus]; rfl⟩

/-- A handler that reports its last request leaves an answer just when the reply to this request
can be read. -/
theorem settled_eq_ok_iff_of_reportsLast {empty : Response} {transcript : List Event}
    {handled : Except Failure Answer} (hreports : ReportsLast transcript handled) :
    (∃ answer, settled empty handled = .ok answer) ↔
      ∀ request reply, (exchangesOf transcript).getLast? = some (request, reply) →
        reply.hasUnreadableDetails = false := by
  rw [settled_eq_ok_iff]
  constructor
  · intro hstatuses request reply hlast
    rw [← Bool.not_eq_true]
    intro hunread
    obtain ⟨error, hvalue⟩ :=
      Reply.value_of_hasUnreadableDetails hunread request.method request.url
    have hstatus := hstatuses error ((hreports error).2 ⟨request, reply, hlast, hvalue⟩)
    rw [Reply.statusRule_eq_ok_iff hvalue, hunread] at hstatus
    cases hstatus
  · intro hread error hhandled
    obtain ⟨request, reply, hlast, hvalue⟩ := (hreports error).1 hhandled
    rw [Reply.statusRule_eq_ok_iff hvalue]
    exact hread request reply hlast

/-- A call whose handler had one of its runs has an answer unless it asks for volumes and cannot
read the last reply. -/
theorem Call.settled_eq_ok_iff {call : Call} {setting : Setting} {transcript : List Event}
    {handled : Except Failure Answer} (hrun : call.Run setting transcript handled) :
    (∃ answer, settled call.emptyResponse handled = .ok answer) ↔
      (call.asksForVolumes = true →
        ∀ request reply, (exchangesOf transcript).getLast? = some (request, reply) →
          reply.hasUnreadableDetails = false) := by
  have hvolumes (hreports : ReportsLast transcript handled) (hasks : call.asksForVolumes = true) :
      (∃ answer, settled call.emptyResponse handled = .ok answer) ↔
        (call.asksForVolumes = true →
          ∀ request reply, (exchangesOf transcript).getLast? = some (request, reply) →
            reply.hasUnreadableDetails = false) := by
    rw [settled_eq_ok_iff_of_reportsLast hreports]
    exact ⟨fun hread _ => hread, fun hread => hread hasks⟩
  have hothers (hstatuses : ∀ error, handled = .error (.provider error) →
      ∃ status, Failure.statusRule (.provider error) = .ok status)
      (hasks : ¬ call.asksForVolumes = true) :
      (∃ answer, settled call.emptyResponse handled = .ok answer) ↔
        (call.asksForVolumes = true →
          ∀ request reply, (exchangesOf transcript).getLast? = some (request, reply) →
            reply.hasUnreadableDetails = false) :=
    ⟨fun _ himpossible => (hasks himpossible).elim,
      fun _ => (VolumePlugin.settled_eq_ok_iff _ _).2 hstatuses⟩
  cases call with
  | createVolume request =>
      obtain ⟨outcome, hrun, rfl⟩ := hrun
      exact hvolumes (hrun.reportsLast.map _) rfl
  | listVolumes request =>
      obtain ⟨outcome, hrun, rfl⟩ := hrun
      exact hvolumes (hrun.reportsLast.map _) rfl
  | deleteVolume request =>
      obtain ⟨outcome, hrun, rfl⟩ := hrun
      refine hothers (fun error herror => ?_) Bool.false_ne_true
      exact hrun.statusRule_eq_ok request.isLocal_operation (.inl rfl) (eq_error_of_map herror)
  | publishVolume request =>
      obtain ⟨outcome, hrun, rfl⟩ := hrun
      refine hothers (fun error herror => ?_) Bool.false_ne_true
      exact hrun.statusRule_eq_ok (request.isLocal_operation _) (.inr rfl) (eq_error_of_map herror)
  | unpublishVolume request =>
      obtain ⟨outcome, hrun, rfl⟩ := hrun
      refine hothers (fun error herror => ?_) Bool.false_ne_true
      exact hrun.statusRule_eq_ok (request.isLocal_operation _) (.inr rfl) (eq_error_of_map herror)
  | _ => exact hothers (fun error herror => (hrun.2 error herror).elim) Bool.false_ne_true

namespace Service

variable (service : Service) (call : Call) (context : CallContext) (replies : List Reply)

/-- The reply to the request that a call sent last, none where it sent nothing. -/
def lastReply : Option Reply :=
  (service.exchanges call context replies).getLast?.map Prod.snd

/-- A supervised call answers as it has to, whatever the provider replies, unless it asks for
volumes and the reply to its last request has details that are no text. -/
theorem answers_iff_readable (hsupervised : call.isSupervised = true) :
    (∃ answer sent,
      (service.step (.call call context replies)).1.outcome = .answered (.ok answer) sent ∧
        call.Answers (service.handled call context replies) answer) ↔
      ¬ (call.asksForVolumes = true ∧
        ∃ reply, service.lastReply call context replies = some reply ∧
          reply.hasUnreadableDetails = true) := by
  obtain ⟨houtcome, transcript, after, hleads, hexchanges, hrun⟩ :=
    service.outcome_of_supervised call context replies hsupervised
  have hanswers : (∃ answer sent,
      (service.step (.call call context replies)).1.outcome = .answered (.ok answer) sent ∧
        call.Answers (service.handled call context replies) answer) ↔
      ∃ answer, settled call.emptyResponse (service.handled call context replies) = .ok answer := by
    rw [houtcome]
    constructor
    · intro hboth
      obtain ⟨answer, sent, hanswered, -⟩ := hboth
      exact ⟨answer, (Outcome.answered.inj hanswered).1⟩
    · intro hboth
      obtain ⟨answer, hanswer⟩ := hboth
      exact ⟨answer, _, by rw [hanswer], Call.answers_of_settled hanswer⟩
  rw [hanswers, Call.settled_eq_ok_iff hrun, lastReply, hexchanges]
  constructor
  · intro hread hmet
    obtain ⟨hasks, reply, hreply, hunread⟩ := hmet
    obtain ⟨⟨request, reply⟩, hpair, rfl⟩ := Option.map_eq_some_iff.1 hreply
    rw [hread hasks request reply hpair] at hunread
    cases hunread
  · intro hread hasks request reply hpair
    rw [← Bool.not_eq_true]
    intro hunread
    exact hread ⟨hasks, reply, by rw [hpair]; rfl, hunread⟩

/-- A creation of which the provider says in words that it is out of order is answered. -/
theorem answers_to_outage :
    Call.isSupervised (.creationOf "data") = true ∧
      ∃ answer sent,
        ((withToken "token").step (.call (.creationOf "data") {}
            [.answer 500 "out of order"])).1.outcome = .answered (.ok answer) sent ∧
          Call.Answers (.creationOf "data")
            ((withToken "token").handled (.creationOf "data") {} [.answer 500 "out of order"])
            answer := by
  refine ⟨rfl, (answers_iff_readable (withToken "token") (.creationOf "data") {}
    [.answer 500 "out of order"] rfl).2 ?_⟩
  intro hboth
  obtain ⟨-, reply, hreply, hunread⟩ := hboth
  have hlast : (withToken "token").lastReply (.creationOf "data") {}
      [.answer 500 "out of order"] = some (.answer 500 "out of order") := by
    decide +kernel
  have hread : (Reply.answer 500 "out of order").hasUnreadableDetails = false := by
    decide +kernel
  rw [hlast, Option.some.injEq] at hreply
  rw [← hreply, hread] at hunread
  cases hunread

/-- A creation of which the provider says so by a code in place of the message is not. -/
theorem no_answer_to_coded_message :
    ¬ ∃ answer sent,
      ((withToken "token").step (.call (.creationOf "data") {}
        [.answer 500 "\x7b\"message\":\x7b\"code\":1\x7d\x7d"])).1.outcome =
          .answered (.ok answer) sent := by
  intro hboth
  obtain ⟨answer, sent, houtcome⟩ := hboth
  rw [outcome_call, Outcome.answered.injEq] at houtcome
  have hnone : (((Call.creationOf "data").perform (withToken "token").setting).runIn
      ((withToken "token").sessionFor {}
        [.answer 500 "\x7b\"message\":\x7b\"code\":1\x7d\x7d"])).1.toOption = none := by
    decide +kernel
  rw [houtcome.1] at hnone
  cases hnone

end Service

end VolumePlugin
