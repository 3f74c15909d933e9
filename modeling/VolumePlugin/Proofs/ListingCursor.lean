/-
# Tokens that are given back

The token of a listing is the number of the page that it ended with, as the links of this page say
it, or as it was asked for where there are no links. Links may name any number, also one that no
page has. The token spells the number in any case, but a later listing goes on from it only where it
is the number of a page. A zero is taken for the first page, and a negative number is refused as if
the caller had made it up.
-/
import VolumePlugin.Proofs.Decimal
import VolumePlugin.Proofs.ListingEntries

namespace VolumePlugin

/-! ## The page that a listing ends with -/

/-- The page that a listing from a page on ends with: the one that the links of its last reply name,
and without links the one that it asked for last, which is the one behind the page that the links
before named. -/
def closingPage (asked : Int) : List Reply → Int
  | [] => asked
  | [last] => last.namedPage.getD asked
  | reply :: next :: rest => closingPage (reply.namedPage.getD asked + 1) (next :: rest)

/-- A listing ends with what it ends with behind its first reply, unless this is its last. -/
theorem closingPage_cons {asked : Int} {reply : Reply} {rest : List Reply} (hrest : rest ≠ []) :
    closingPage asked (reply :: rest) = closingPage (reply.namedPage.getD asked + 1) rest := by
  cases rest with
  | nil => exact (hrest rfl).elim
  | cons next rest => rfl

/-- Where links name pages from the first one on, a listing ends with such a page. -/
theorem firstPage_le_closingPage {asked : Int} {replies : List Reply} (hasked : firstPage ≤ asked)
    (hnamed : ∀ reply ∈ replies, ∀ current, reply.namedPage = some current →
      firstPage ≤ current) : firstPage ≤ closingPage asked replies := by
  have hstands (asked : Int) (reply : Reply) (hasked : firstPage ≤ asked)
      (hreply : ∀ current, reply.namedPage = some current → firstPage ≤ current) :
      firstPage ≤ reply.namedPage.getD asked := by
    cases hpage : reply.namedPage with
    | none => exact hasked
    | some current => exact hreply current hpage
  induction replies generalizing asked with
  | nil => exact hasked
  | cons reply rest ih =>
      have hreply := hstands asked reply hasked (hnamed reply List.mem_cons_self)
      by_cases hrest : rest = []
      · rw [hrest]
        exact hreply
      · rw [closingPage_cons hrest]
        apply ih (by omega)
        intro other hother
        exact hnamed other (List.mem_cons_of_mem reply hother)

/-- The last page of a listing is named by the reply that closes it. -/
theorem Client.closingPage_of_finished {client : Client} {page lastPage : Int} {reply : Reply}
    {volumes : List Volume} (hturn : client.turnOf page reply = .ok (volumes, .finished lastPage)) :
    closingPage page [reply] = lastPage := by
  obtain ⟨fetched, hshown, -, hposition⟩ := shown_of_turnOf hturn
  rw [closingPage, Reply.namedPage, hshown]
  rcases PageLinks.of_position_finished hposition with ⟨hnone, rfl⟩ | ⟨links, hlinks, -, hcurrent⟩
  · simp [hnone]
  · simp [hlinks, hcurrent, Except.toOption]

/-- A listing that comes to its end does so with the page that its replies tell. -/
theorem PagesRun.closingPage_eq {setting : Setting} {client : Client} {maxEntries : Value}
    {page : Int} {transcript : List Event} {result : Except Failure (List Volume × Int)}
    (hrun : PagesRun setting client (maxEntries.orElse .null) page transcript result)
    {volumes : List Volume} {lastPage : Int} (hresult : result = .ok (volumes, lastPage)) :
    closingPage page ((exchangesOf transcript).map Prod.snd) = lastPage := by
  induction hrun generalizing volumes with
  | cancelled | late | failed => cases hresult
  | finished htime hturn =>
      cases hresult
      exact Client.closingPage_of_finished hturn
  | @goOn page nextPage left timeout reply shown rest result htime hturn hrest ih =>
      cases result with
      | error failure => cases hresult
      | ok listed =>
          cases hresult
          obtain ⟨pages, hshown, -⟩ := hrest.shownFrom rfl
          have hmore : (exchangesOf rest).map Prod.snd ≠ [] := by
            obtain ⟨turn, hfirst, -⟩ := hshown.first
            intro hnone
            rw [List.map_eq_nil_iff.1 hnone] at hfirst
            cases hfirst
          simp only [exchangesOf_activity, exchangesOf_clock, exchangesOf_exchange, List.map_cons]
          rw [closingPage_cons hmore, Client.namedPage_of_goOn hturn, Option.getD_some,
            Int.sub_add_cancel]
          exact ih rfl

/-! ## Tokens -/

/-- The text of a page spells its number. As a token it names the page from the first one on. -/
theorem pageOfToken_of_pageText {page : Int} {token : String}
    (htext : pageText (.int page) = .ok token) :
    Numeral.read? token.toList = some page ∧
      pageOfToken (.text token) =
        if page < 0 then .error (.invalidListingToken (.text token))
        else .ok (max page firstPage) := by
  unfold pageText at htext
  split at htext
  · rename_i hfits
    rw [Value.display_int] at htext
    cases htext
    exact ⟨Numeral.read?_text hfits, pageOfToken_numeral hfits⟩
  · cases htext

namespace Service

/-- What becomes of the token of a listing that answers without a status. The token spells the page
that the listing has ended with, and it is taken back for this page just where there is a page of
this number; then a later listing, of whatever service and for whatever provider, goes on from it.
Where no links name a page before the first one, this is always so. -/
theorem token_given_back (service : Service) (request : ListVolumesRequest)
    (context : CallContext) (replies : List Reply) {answer : Answer} {sent : List Request}
    (hanswer : (service.step (.call (.listVolumes request) context replies)).1.outcome =
      .answered (.ok answer) sent) (hplain : answer.status = none) :
    ∃ start entries token lastPage,
      pageOfToken request.startingToken = .ok start ∧
      answer = { response := .listing entries token } ∧
      closingPage start
        ((service.exchanges (.listVolumes request) context replies).map Prod.snd) = lastPage ∧
      Numeral.read? token.toList = some lastPage ∧
      (pageOfToken (.text token) =
        if lastPage < 0 then .error (.invalidListingToken (.text token))
        else .ok (max lastPage firstPage)) ∧
      (pageOfToken (.text token) = .ok lastPage ↔ firstPage ≤ lastPage) ∧
      (∀ (later : Service) (maxEntries : Value) (laterContext : CallContext)
        (laterReplies : List Reply) (turn : Request × Reply),
        (later.exchanges (.listVolumes ⟨maxEntries, .text token⟩) laterContext
          laterReplies).head? = some turn →
        0 ≤ lastPage ∧ turn.1.page = max lastPage firstPage) ∧
      ((∀ turn ∈ service.exchanges (.listVolumes request) context replies, ∀ current,
        turn.2.namedPage = some current → firstPage ≤ current) → firstPage ≤ lastPage) := by
  obtain ⟨client, start, transcript, volumes, lastPage, response, hstart, hexchanges, hrun,
    hresponse, hanswered⟩ := service.listing_of_answer request context replies hanswer hplain
  obtain ⟨entries, token, rfl, htext, -⟩ := respondListing_eq_ok hresponse
  obtain ⟨hspelled, htoken⟩ := pageOfToken_of_pageText htext
  have hlast := hrun.closingPage_eq rfl
  have hnames : pageOfToken (.text token) = .ok lastPage ↔ firstPage ≤ lastPage := by
    rw [htoken]
    unfold firstPage
    split
    · simp only [reduceCtorEq, false_iff]
      omega
    · rw [Except.ok.injEq]
      omega
  rw [hexchanges]
  refine ⟨start, entries, token, lastPage, hstart, hanswered, hlast, hspelled, htoken, hnames,
    ?_, ?_⟩
  · intro later maxEntries laterContext laterReplies turn hturn
    obtain ⟨-, laterTranscript, _, -, hlater, outcome, hlaterRun, -⟩ :=
      later.outcome_of_supervised (.listVolumes ⟨maxEntries, .text token⟩) laterContext
        laterReplies rfl
    rw [hlater] at hturn
    have hpage : pageOfToken (.text token) = .ok turn.1.page := hlaterRun.leadsOn.1 turn hturn
    rw [htoken] at hpage
    split at hpage
    · cases hpage
    · rw [Except.ok.injEq] at hpage
      exact ⟨by omega, hpage.symm⟩
  · intro hnamed
    rw [← hlast]
    apply firstPage_le_closingPage (firstPage_le_of_pageOfToken hstart)
    intro reply hreply
    obtain ⟨turn, hturn, rfl⟩ := List.mem_map.1 hreply
    exact hnamed turn hturn

/-- The body of a page without volumes whose links name the page before it. -/
def bodyBehind (prev : String) : String :=
  String.join [
    "\x7b\"volumes\":[],\"links\":\x7b\"pages\":\x7b\"prev\":\"https://a.example/v?page=",
    prev, "\"\x7d\x7d\x7d"]

/-- The token behind the fourth page names the fifth, which a later listing begins with. -/
theorem fifth_page_given_back :
    ((withToken "token").step (.call (.listVolumes {}) {}
        [.answer 200 (bodyBehind "4")])).1.outcome =
      .answered (.ok { response := .listing [] "5" })
        ((withToken "token").requestsOf (.listVolumes {}) {} [.answer 200 (bodyBehind "4")]) ∧
    pageOfToken (.text "5") = .ok 5 ∧
    ∀ turn, ((withToken "other").exchanges (.listVolumes ⟨.int 2, .text "5"⟩) {} []).head? =
      some turn → turn.1.page = 5 := by
  have hanswer : ((withToken "token").step (.call (.listVolumes {}) {}
      [.answer 200 (bodyBehind "4")])).1.outcome =
        .answered (.ok { response := .listing [] "5" })
          ((withToken "token").requestsOf (.listVolumes {}) {} [.answer 200 (bodyBehind "4")]) := by
    rw [outcome_call, Outcome.answered.injEq]
    exact ⟨by decide +kernel, rfl⟩
  obtain ⟨start, entries, token, lastPage, -, hresponse, -, hspelled, -, hnames, hlater, -⟩ :=
    token_given_back (withToken "token") {} {} [.answer 200 (bodyBehind "4")] hanswer rfl
  cases hresponse
  have hlast : lastPage = 5 := by
    have hfive : Numeral.read? "5".toList = some 5 := by decide
    rw [hfive, Option.some.injEq] at hspelled
    exact hspelled.symm
  rw [hlast] at hnames hlater
  refine ⟨hanswer, hnames.2 (by decide), ?_⟩
  intro turn hturn
  exact (hlater (withToken "other") (.int 2) {} [] turn hturn).2

/-- Where the links of a page name a page below zero before it, the token is refused. -/
theorem negative_token_refused :
    ((withToken "token").step (.call (.listVolumes {}) {}
        [.answer 200 (bodyBehind "-5")])).1.outcome =
      .answered (.ok { response := .listing [] "-4" })
        ((withToken "token").requestsOf (.listVolumes {}) {} [.answer 200 (bodyBehind "-5")]) ∧
    pageOfToken (.text "-4") = .error (.invalidListingToken (.text "-4")) ∧
    ((withToken "token").step (.call (.listVolumes { startingToken := .text "-4" }) {}
        [.answer 200 (bodyBehind "-5")])).1.outcome =
      .answered (.ok {
          response := .listing [] ""
          status := some .aborted
          details := some "invalid starting token : -4, expected a page number" }) [] := by
  refine ⟨?_, by decide +kernel, ?_⟩
  · rw [outcome_call, Outcome.answered.injEq]
    exact ⟨by decide +kernel, rfl⟩
  · rw [outcome_call, Outcome.answered.injEq]
    exact ⟨by decide +kernel, by decide +kernel⟩

end Service

end VolumePlugin
