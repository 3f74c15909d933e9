/-
# Runs of a listing

A listing asks for one page after the other. What the reply to a page says decides whether the
listing fails, ends or goes on, and with which page. The relations of this module hold the
transcripts and results of a listing without any bound on the number of pages: the bound of the
loop is never used up, since a page takes up a reply and silence is no page.
-/
import VolumePlugin.Proofs.Outcome

namespace VolumePlugin

open VolumePlugin.Action

/-- The number of entries per page and the first page that a request for a listing asks for. -/
def ListVolumesRequest.rule (request : ListVolumesRequest) : Except Failure (Value × Int) := do
  let perPage ← request.validate
  let page ← pageOfToken request.startingToken
  return (perPage, page)

/-- Where the number of entries is not negative, the token decides. -/
theorem ListVolumesRequest.rule_of_nonneg {entries : Int} (hentries : 0 ≤ entries)
    (token : Value) :
    ListVolumesRequest.rule ⟨.int entries, token⟩ =
      (pageOfToken token).map fun page => ((Value.int entries).orElse .null, page) := by
  have hvalidate : ListVolumesRequest.validate ⟨.int entries, token⟩ =
      .ok ((Value.int entries).orElse .null) := by
    rw [validate, Value.compare_less_int, decide_eq_false (by omega)]
    rfl
  rw [rule, hvalidate, ok_bind]
  cases pageOfToken token <;> rfl

/-- What a request asks to list is found without the provider. -/
theorem ListVolumesRequest.isLocal_rule (request : ListVolumesRequest) : IsLocal request.rule :=
  request.isLocal_validate.bind fun _ _ => (isLocal_pageOfToken _).bind fun _ _ => isLocal_pure _

/-- What the reply to a page says: its volumes, and where the listing stands behind it. -/
def Client.turnOf (client : Client) (page : Int) (reply : Reply) :
    Except Failure (List Volume × PageLinks.Position) := do
  let fetched ← client.pageOf reply
  let _ ← pageText (.int page)
  let position ← PageLinks.position fetched.links page
  return (fetched.volumes, position)

section Runs

variable (setting : Setting) (client : Client) (perPage : Value)

/-- The request for a page. -/
def pageRequest (page : Int) (timeout : Value) : Request :=
  client.request (.list setting.region .null (.int page) perPage) timeout

/-- The runs of a listing from a page on. -/
inductive PagesRun : Int → List Event → Except Failure (List Volume × Int) → Prop
  | /-- The caller has given up. -/
    cancelled {page : Int} :
      PagesRun page [.activity false] (.error (.cancelled (.text "ListVolumes")))
  | /-- No time is left. -/
    late {page : Int} {left : Value} {failure : Failure}
      (htime : client.timeFor "ListVolumes" left = .error failure) :
      PagesRun page [.activity true, .clock left] (.error failure)
  | /-- The reply shows no page, or its links lead nowhere. -/
    failed {page : Int} {left timeout : Value} {reply : Reply} {failure : Failure}
      (htime : client.timeFor "ListVolumes" left = .ok timeout)
      (hturn : client.turnOf page reply = .error failure) :
      PagesRun page
        [.activity true, .clock left,
          .exchange (pageRequest setting client perPage page timeout) reply]
        (.error failure)
  | /-- The page is the last one. -/
    finished {page lastPage : Int} {left timeout : Value} {reply : Reply} {volumes : List Volume}
      (htime : client.timeFor "ListVolumes" left = .ok timeout)
      (hturn : client.turnOf page reply = .ok (volumes, .finished lastPage)) :
      PagesRun page
        [.activity true, .clock left,
          .exchange (pageRequest setting client perPage page timeout) reply]
        (.ok (volumes, lastPage))
  | /-- Another page follows. -/
    goOn {page nextPage : Int} {left timeout : Value} {reply : Reply} {volumes : List Volume}
      {rest : List Event} {result : Except Failure (List Volume × Int)}
      (htime : client.timeFor "ListVolumes" left = .ok timeout)
      (hturn : client.turnOf page reply = .ok (volumes, .goOn nextPage))
      (hrest : PagesRun nextPage rest result) :
      PagesRun page
        (.activity true :: .clock left ::
          .exchange (pageRequest setting client perPage page timeout) reply :: rest)
        (result.map fun listed => (volumes ++ listed.1, listed.2))

end Runs

/-- The runs of a call that lists volumes. -/
inductive ListingRun (request : ListVolumesRequest) (setting : Setting) :
    List Event → Except Failure Response → Prop
  | /-- The request is not valid. -/
    invalid {failure : Failure} (hrequest : request.rule = .error failure) :
      ListingRun request setting [] (.error failure)
  | /-- There is no client. -/
    unready {asked : Value × Int} {failure : Failure} (hrequest : request.rule = .ok asked)
      (hclient : setting.clientRule = .error failure) :
      ListingRun request setting [] (.error failure)
  | /-- The pages are asked for. -/
    listed {perPage : Value} {page : Int} {client : Client} {transcript : List Event}
      {result : Except Failure (List Volume × Int)}
      (hrequest : request.rule = .ok (perPage, page)) (hclient : setting.clientRule = .ok client)
      (hrun : PagesRun setting client perPage page transcript result) :
      ListingRun request setting transcript
        (do let listed ← result; respondListing listed.1 (.int listed.2))

/-- Silence shows no page. -/
theorem Client.turnOf_silence (client : Client) (page : Int) :
    client.turnOf page Reply.silence =
      .error (.provider ⟨Method.get.name, client.apiUrl ++ Operation.volumesPath, .null,
        .text "no scripted response"⟩) := rfl

/-- A listing goes on only while replies are left, and then with one reply less. -/
theorem replies_lt_of_goOn {client : Client} {page nextPage : Int} {volumes : List Volume}
    {request : Request} {reply : Reply} {before after : Session}
    (hleads : before.Leads [.exchange request reply] after)
    (hturn : client.turnOf page reply = .ok (volumes, .goOn nextPage)) :
    after.replies.length < before.replies.length := by
  have hafter := hleads.replies
  have hreply : reply = before.replies.getD 0 Reply.silence :=
    hleads.heard (i := 0) rfl
  cases hreplies : before.replies with
  | nil =>
      rw [hreplies] at hreply
      rw [hreply] at hturn
      rw [List.getD_nil, Client.turnOf_silence] at hturn
      cases hturn
  | cons reply rest =>
      rw [hreplies] at hafter
      rw [hafter]
      simp

/-- Fetching pages has one of the runs of a listing from the page on, whatever bounds the pages,
as long as this is more than there are replies. -/
theorem meets_fetchPages {setting : Setting} {client : Client}
    (hclient : setting.clientRule = .ok client) (perPage : Value) (fuel : Nat) (page : Int)
    (session : Session) (hfuel : session.replies.length < fuel) :
    (fetchPages setting client perPage fuel page).Meets session
      (PagesRun setting client perPage page) := by
  induction fuel generalizing page session with
  | zero => omega
  | succ fuel ih =>
      unfold fetchPages
      apply meets_ensureActive_bind .cancelled
      intro first hfirst
      apply (Setting.asks_timeLeft hclient "ListVolumes").bind
      · intro left failure hlate
        exact .late hlate
      · intro left timeout second htime hsecond
        apply (client.asks_listVolumes _ _ _ _ timeout).bind
        · intro reply failure hfailed
          apply PagesRun.failed htime
          rw [Client.turnOf, hfailed, error_bind]
        · intro reply fetched third hpage hthird
          apply (isRule_lift _).meets_bind
          · intro failure htext
            apply PagesRun.failed htime
            rw [Client.turnOf, hpage, ok_bind, htext, error_bind]
          · intro number fourth htext hfourth
            apply (isRule_debug _).meets_after
            intro fifth hfifth
            have hturn : client.turnOf page reply =
                (do return (fetched.volumes, ← PageLinks.position fetched.links page)) := by
              rw [Client.turnOf, hpage, ok_bind, htext]
              rfl
            apply (isRule_lift _).meets_bind
            · intro failure hposition
              rw [hposition] at hturn
              exact .failed htime hturn
            · intro position last hposition hlast
              rw [hposition] at hturn
              cases position with
              | finished lastPage => exact meets_pure (.finished htime hturn)
              | goOn nextPage =>
                  -- The reply was no silence, so that one reply less is left to the rest.
                  have hfewer : last.replies.length < fuel := by
                    have hthird' := replies_lt_of_goOn hthird hturn
                    have hreplies := (hfourth.append (hfifth.append hlast)).replies
                    have hbefore := (hfirst.append hsecond).replies
                    simp at hreplies hbefore
                    rw [hreplies]
                    rw [hbefore] at hthird'
                    omega
                  apply (ih nextPage last hfewer).bind
                  · intro transcript failure hrest
                    exact .goOn htime hturn hrest
                  · rintro front ⟨volumes, lastPage⟩ behind _ hrest
                    apply meets_pure
                    rw [List.append_nil]
                    exact .goOn htime hturn hrest

/-- A call that lists volumes has one of the runs of a listing. -/
theorem ListVolumesRequest.meets_perform (request : ListVolumesRequest) (setting : Setting)
    (session : Session) :
    (request.perform setting).Meets session (ListingRun request setting) := by
  apply (isRule_lift _).meets_bind
  · intro failure hvalidate
    exact .invalid (by rw [ListVolumesRequest.rule, hvalidate, error_bind])
  · intro perPage middle hvalidate _
    apply (isRule_lift _).meets_bind
    · intro failure htoken
      exact .invalid (by rw [ListVolumesRequest.rule, hvalidate, ok_bind, htoken, error_bind])
    · intro page middle htoken _
      have hrequest : request.rule = .ok (perPage, page) := by
        rw [ListVolumesRequest.rule, hvalidate, ok_bind, htoken]
        rfl
      apply setting.isRule_client.meets_bind fun failure => .unready hrequest
      intro client middle hclient _
      apply meets_repliesLeft_bind
      apply (meets_fetchPages hclient perPage _ page middle (Nat.lt_succ_self _)).bind
      · intro transcript failure hrun
        exact .listed hrequest hclient hrun
      · rintro front ⟨volumes, lastPage⟩ behind _ hrun
        apply (isRule_lift _).meets
        rw [List.append_nil]
        exact .listed hrequest hclient hrun

end VolumePlugin
