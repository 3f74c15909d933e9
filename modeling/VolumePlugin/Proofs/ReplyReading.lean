/-
# Replies and what is made of them

What becomes of a request hangs on the reply alone. The cases are written out here as a table, from
the sort of the reply over its status to the kinds of values that its body may spell, and every
client reads the replies to its operations by this table.

One sort of body is not in it: where the body has to be read and is nested too deeply, neither the
status of an error nor the address of an answer is told any more. Bodies with fewer brackets than
that are never affected.
-/
import VolumePlugin.Proofs.ChangeOutcome
import VolumePlugin.Proofs.Members
import VolumePlugin.Proofs.Nesting

namespace VolumePlugin

open Value

namespace Reply

/-! ## The table -/

/-- What is told of an error with a body: the message of an object, if this has one that is not
empty, and else the body, also where this is no object or no JSON. -/
inductive Details (body : String) : Value → Prop
  | object {members : List (String × Value)} {details : Value}
      (hread : Json.read body = .ok (.object members))
      (hmessage : Gives members "message" (.text body) details) : Details body details
  | noObject {value : Value} (hread : Json.read body = .ok value)
      (hvalue : ∀ members, value ≠ .object members) : Details body (.text body)
  | noJson (hread : Json.read body = .error .malformed) : Details body (.text body)

/-- The status of an error of the client or the server. -/
def IsError (status : Int) : Prop :=
  400 ≤ status ∧ status < 600

/-- The status of a success. -/
def IsSuccess (status : Int) : Prop :=
  200 ≤ status ∧ status < 300

/-- An answer that has nothing to read. -/
def HasNoContent (status : Int) (body : String) : Prop :=
  status = 204 ∨ body = ""

/-- What becomes of a request by its reply. -/
inductive ComesTo (method : Method) (url : String) : Reply → Except Failure Value → Prop
  | lost (report : String) :
      ComesTo method url (.lost report)
        (.error (.provider ⟨method.name, url, .null, .text report⟩))
  | broken (sort : Raised) (report : String) :
      ComesTo method url (.broken sort report) (.error (.raised sort [.text report]))
  | failed {status : Int} {body : String} {details : Value} (herror : IsError status)
      (hdetails : Details body details) :
      ComesTo method url (.answer status body)
        (.error (.provider ⟨method.name, url, .int status, details⟩))
  | noContent {status : Int} {body : String} (hsuccess : IsSuccess status)
      (hnone : HasNoContent status body) :
      ComesTo method url (.answer status body) (.ok (.object []))
  | content {status : Int} {body : String} {value : Value} (hsuccess : IsSuccess status)
      (hsome : ¬ HasNoContent status body) (hread : Json.read body = .ok value) :
      ComesTo method url (.answer status body) (.ok value)
  | noJson {status : Int} {body : String} (hsuccess : IsSuccess status)
      (hsome : ¬ HasNoContent status body) (hread : Json.read body = .error .malformed) :
      ComesTo method url (.answer status body) (.error (.unexpectedAnswer (.text url) (.text body)))

/-- A reply with the status of an error or of a success, if it is an answer. -/
def IsPlain (reply : Reply) : Prop :=
  ∀ status body, reply = .answer status body → IsSuccess status ∨ IsError status

/-- An answer with a body that has to be read and is nested too deeply. -/
def IsTooDeep (reply : Reply) (container : Json.Container) : Prop :=
  ∃ status body, reply = .answer status body ∧ ¬ (IsSuccess status ∧ HasNoContent status body) ∧
    Json.read body = .error (.tooDeep container)

/-! ## Reading by the table -/

theorem isPlain_lost (report : String) : (Reply.lost report).IsPlain := nofun

theorem isPlain_answer_iff {status : Int} {body : String} :
    (Reply.answer status body).IsPlain ↔ IsSuccess status ∨ IsError status := by
  constructor
  · exact fun hplain => hplain status body rfl
  · rintro hstatus _ _ ⟨⟩
    exact hstatus

variable {method : Method} {url body : String} {status : Int} {reply : Reply} {details : Value}
  {outcome : Except Failure Value} {container : Json.Container}

theorem details_iff : Details body details ↔ errorDetails body = .ok details := by
  unfold errorDetails
  constructor
  · intro hdetails
    cases hdetails with
    | object hread hmessage =>
        rw [hread, ← gives_iff.1 hmessage]
        rfl
    | noObject hread hvalue =>
        rw [hread]
        split
        · rename_i members hobject
          exact (hvalue members (Except.ok.inj hobject)).elim
        · cases ‹Except.ok _ = Except.error _›
        · rfl
    | noJson hread => rw [hread]
  · intro hread
    split at hread
    · rename_i members hobject
      exact .object hobject (gives_iff.2 (Except.ok.inj hread))
    · cases hread
    · rename_i hobject hdeep
      cases hread
      cases hfound : Json.read body with
      | ok value => exact .noObject hfound fun members hvalue => hobject members (hvalue ▸ hfound)
      | error fault =>
          cases fault with
          | malformed => exact .noJson hfound
          | tooDeep container => exact (hdeep container hfound).elim

theorem content_of_hasNoContent (hnone : HasNoContent status body) :
    content url status body = .ok (.object []) :=
  if_pos hnone

theorem content_of_not_hasNoContent (hsome : ¬ HasNoContent status body) :
    content url status body =
      match Json.read body with
      | .ok value => .ok value
      | .error .malformed => .error (.unexpectedAnswer (.text url) (.text body))
      | .error (.tooDeep container) => .error (.nestedTooDeep container) :=
  if_neg hsome

theorem value_of_isError (herror : IsError status) :
    (Reply.answer status body).value method url =
      errorDetails body >>= fun details =>
        .error (.provider ⟨method.name, url, .int status, details⟩) :=
  if_pos (isErrorStatus_eq_true_iff.2 herror)

theorem value_of_isSuccess (hsuccess : IsSuccess status) :
    (Reply.answer status body).value method url = content url status body := by
  have hnoError : ¬ isErrorStatus status = true := by
    rw [isErrorStatus_eq_true_iff]
    unfold IsSuccess at hsuccess
    omega
  exact if_neg hnoError

theorem IsError.not_isSuccess (herror : IsError status) : ¬ IsSuccess status := by
  unfold IsError at herror
  unfold IsSuccess
  omega

/-- The value of a reply is what the table says. -/
theorem ComesTo.value_eq (hcomes : ComesTo method url reply outcome) :
    reply.value method url = outcome := by
  cases hcomes with
  | lost | broken => rfl
  | failed herror hdetails =>
      rw [value_of_isError herror, details_iff.1 hdetails]
      rfl
  | noContent hsuccess hnone => rw [value_of_isSuccess hsuccess, content_of_hasNoContent hnone]
  | content hsuccess hsome hread | noJson hsuccess hsome hread =>
      rw [value_of_isSuccess hsuccess, content_of_not_hasNoContent hsome, hread]

/-- No entry of the table is for a body that is nested too deeply. -/
theorem ComesTo.not_isTooDeep (hcomes : ComesTo method url reply outcome)
    (container : Json.Container) : ¬ reply.IsTooDeep container := by
  rintro ⟨status, body, rfl, hread, hdeep⟩
  cases hcomes with
  | failed herror hdetails =>
      have hunread := errorDetails_eq_error_iff.2 ⟨container, hdeep, rfl⟩
      rw [details_iff.1 hdetails] at hunread
      cases hunread
  | noContent hsuccess hnone => exact hread ⟨hsuccess, hnone⟩
  | content hsuccess hsome hfound | noJson hsuccess hsome hfound =>
      rw [hdeep] at hfound
      cases hfound

/-- The table has an entry for any other reply that has the status of an error or of a success. -/
theorem exists_comesTo (hplain : reply.IsPlain) (hflat : ∀ container, ¬ reply.IsTooDeep container)
    (method : Method) (url : String) : ∃ outcome, ComesTo method url reply outcome := by
  cases reply with
  | lost report => exact ⟨_, .lost report⟩
  | broken sort report => exact ⟨_, .broken sort report⟩
  | answer status body =>
      rcases hplain status body rfl with hsuccess | herror
      · by_cases hnone : HasNoContent status body
        · exact ⟨_, .noContent hsuccess hnone⟩
        · cases hread : Json.read body with
          | ok value => exact ⟨_, .content hsuccess hnone hread⟩
          | error fault =>
              cases fault with
              | malformed => exact ⟨_, .noJson hsuccess hnone hread⟩
              | tooDeep container =>
                  exact (hflat container
                    ⟨status, body, rfl, fun hboth => hnone hboth.2, hread⟩).elim
      · cases hdetails : errorDetails body with
        | ok details => exact ⟨_, .failed herror (details_iff.2 hdetails)⟩
        | error failure =>
            obtain ⟨container, hdeep, -⟩ := errorDetails_eq_error_iff.1 hdetails
            exact (hflat container
              ⟨status, body, rfl, fun hboth => herror.not_isSuccess hboth.1, hdeep⟩).elim

theorem IsTooDeep.value_eq (hplain : reply.IsPlain) (hdeep : reply.IsTooDeep container) :
    reply.value method url = .error (.nestedTooDeep container) := by
  obtain ⟨status, body, rfl, hread, hdeep⟩ := hdeep
  rcases hplain status body rfl with hsuccess | herror
  · have hsome : ¬ HasNoContent status body := fun hnone => hread ⟨hsuccess, hnone⟩
    rw [value_of_isSuccess hsuccess, content_of_not_hasNoContent hsome, hdeep]
  · exact value_of_tooDeep herror hdeep method url

/-- A reply is read by the table just where no body is nested too deeply. -/
theorem comesTo_iff (hplain : reply.IsPlain) :
    ComesTo method url reply outcome ↔
      reply.value method url = outcome ∧ ∀ container, ¬ reply.IsTooDeep container := by
  constructor
  · exact fun hcomes => ⟨hcomes.value_eq, hcomes.not_isTooDeep⟩
  · rintro ⟨rfl, hflat⟩
    obtain ⟨outcome, hcomes⟩ := exists_comesTo hplain hflat method url
    rwa [hcomes.value_eq]

/-- Too deep a body is told as such, and nothing else is. -/
theorem value_eq_nestedTooDeep_iff (hplain : reply.IsPlain) :
    reply.value method url = .error (.nestedTooDeep container) ↔ reply.IsTooDeep container := by
  constructor
  · intro hnested
    by_cases hflat : ∀ container, ¬ reply.IsTooDeep container
    · cases (comesTo_iff hplain).2 ⟨hnested, hflat⟩
    · rw [not_forall_not] at hflat
      obtain ⟨other, hdeep⟩ := hflat
      rw [hdeep.value_eq hplain] at hnested
      cases hnested
      exact hdeep
  · exact fun hdeep => hdeep.value_eq hplain

end Reply

namespace Client

open Reply

/-- What an operation comes to is the value of the next reply. -/
theorem result_perform (client : Client) (operation : Operation) (timeout : Value)
    {session : Session} {reply : Reply} (hnext : session.replies.head? = some reply) :
    ((client.perform operation timeout).runIn session).1 =
      reply.value operation.method (client.apiUrl ++ operation.path) := by
  rw [(client.asks_perform operation timeout).result, List.headD_eq_head?_getD, hnext]
  rfl

/-- What becomes of the request for an operation, by the reply to it: a request that was lost or
broken off, or an answer with the status of an error or of a success. The table says it just where
no body is nested too deeply, and the failure is otherwise told as such. A body that opens no more
containers than may be nested is never affected. -/
theorem reply_read_by_table (client : Client) (operation : Operation) (timeout : Value)
    (session : Session) {reply : Reply} (hnext : session.replies.head? = some reply)
    (hplain : reply.IsPlain) :
    (∀ outcome,
      ComesTo operation.method (client.apiUrl ++ operation.path) reply outcome ↔
        ((client.perform operation timeout).runIn session).1 = outcome ∧
          ∀ container, ¬ reply.IsTooDeep container) ∧
    (∀ container,
      ((client.perform operation timeout).runIn session).1 = .error (.nestedTooDeep container) ↔
        reply.IsTooDeep container) ∧
    ∀ status body, reply = .answer status body →
      Json.openings body.toList ≤ Json.nestingLimit →
      ∀ container, ¬ reply.IsTooDeep container := by
  rw [client.result_perform operation timeout hnext]
  refine ⟨fun outcome => comesTo_iff hplain, fun container => value_eq_nestedTooDeep_iff hplain, ?_⟩
  rintro status body rfl hopenings container ⟨_, _, hanswer, -, hdeep⟩
  cases hanswer
  have hmore := Json.openings_of_tooDeep hdeep
  omega

/-- A refusal with an empty message is told with its whole body, which is not nested too deeply, an
answer without content as the empty object, whatever its body, and a request that was lost without a
status. A refusal of three thousand opening brackets is told as such. -/
theorem refused_taken_and_lost :
    (((Service.sampleClient.perform (.delete (.text "v")) .null).runIn
      { thread := "", replies := [.answer 403 "\x7b\"message\":[]\x7d"] }).1 =
        .error (.provider ⟨"DELETE", "https://a.example/v2/volumes/v", .int 403,
          .text "\x7b\"message\":[]\x7d"⟩) ∧
      ∀ container, ¬ (Reply.answer 403 "\x7b\"message\":[]\x7d").IsTooDeep container) ∧
    ((Service.sampleClient.perform (.delete (.text "v")) .null).runIn
      { thread := "", replies := [.answer 204 "["] }).1 = .ok (.object []) ∧
    ((Service.sampleClient.perform (.delete (.text "v")) .null).runIn
      { thread := "", replies := [.lost "timed out"] }).1 =
        .error (.provider ⟨"DELETE", "https://a.example/v2/volumes/v", .null,
          .text "timed out"⟩) ∧
    ((Service.sampleClient.perform (.delete (.text "v")) .null).runIn
      { thread := "", replies := [.answer 403 (String.ofList (List.replicate 3000 '['))] }).1 =
        .error (.nestedTooDeep .list) := by
  have hbody : Json.read "\x7b\"message\":[]\x7d" = .ok (.object [("message", .list [])]) := by
    decide +kernel
  have hdeep : Json.read (String.ofList (List.replicate 3000 '[')) = .error (.tooDeep .list) :=
    Json.read_brackets (by decide)
  have hread {reply : Reply} {outcome : Except Failure Value} (hplain : reply.IsPlain)
      (hcomes : ComesTo .delete "https://a.example/v2/volumes/v" reply outcome) :
      ((Service.sampleClient.perform (.delete (.text "v")) .null).runIn
        { thread := "", replies := [reply] }).1 = outcome :=
    (((reply_read_by_table Service.sampleClient (.delete (.text "v")) .null
      { thread := "", replies := [reply] } rfl hplain).1 outcome).1 hcomes).1
  have herror : IsError 403 := ⟨by decide, by decide⟩
  have hsuccess : IsSuccess 204 := ⟨by decide, by decide⟩
  have hrefused {body : String} : (Reply.answer 403 body).IsPlain :=
    isPlain_answer_iff.2 (.inr herror)
  refine ⟨⟨hread hrefused (.failed herror ?_), ?_⟩,
    hread (isPlain_answer_iff.2 (.inl hsuccess)) (.noContent hsuccess (.inl rfl)),
    hread (isPlain_lost _) (.lost _), ?_⟩
  · exact .object hbody (.empty rfl .list)
  · exact (reply_read_by_table Service.sampleClient (.delete (.text "v")) .null
      { thread := "", replies := [.answer 403 _] } rfl hrefused).2.2 403 _ rfl (by decide)
  · exact ((reply_read_by_table Service.sampleClient (.delete (.text "v")) .null
      { thread := "", replies := [.answer 403 _] } rfl hrefused).2.1 .list).2
      ⟨403, _, rfl, fun hboth => herror.not_isSuccess hboth.1, hdeep⟩

/-- The result of a listing that hears an error with a body of three thousand opening brackets. -/
def nestedListing : Except Failure Value :=
  ((Service.sampleClient.perform (.list (.text "nyc3") .null .null .null) .null).runIn
    { thread := "", replies := [.answer 500 (String.ofList (List.replicate 3000 '['))] }).1

/-- It is no failed request: neither the status of the error nor its body is told. -/
theorem nested_error_untold :
    nestedListing = .error (.nestedTooDeep .list) ∧
      ¬ ∃ error, nestedListing = .error (.provider error) := by
  have hdeep : Json.read (String.ofList (List.replicate 3000 '[')) = .error (.tooDeep .list) :=
    Json.read_brackets (by decide)
  have hnested : nestedListing = .error (.nestedTooDeep .list) := by
    rw [nestedListing, result_perform _ _ _ rfl]
    exact value_of_tooDeep ⟨by decide, by decide⟩ hdeep _ _
  refine ⟨hnested, ?_⟩
  rintro ⟨error, himpossible⟩
  rw [hnested] at himpossible
  cases himpossible

end Client

end VolumePlugin
