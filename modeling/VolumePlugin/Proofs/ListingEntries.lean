/-
# What a listing responds with

A listing follows the links of its pages, be they consistent or not. Where it answers without a
status it has been shown every page that it asked for. It went on behind each of them but the last,
and there only, and it responds with the volumes of all these pages, each in its place and none of
them twice.
-/
import VolumePlugin.Proofs.ListingPages

namespace VolumePlugin

/-! ## Pages that follow one another -/

/-- What a request for a page of the volumes of a region says. A page of number zero is not written,
and neither is an empty limit on the entries. -/
def pageQuery (region maxEntries : Value) (page : Int) : Content :=
  .query ([("region", region)] ++ (if page = 0 then [] else [("page", .int page)]) ++
    (if maxEntries.truthy then [("per_page", maxEntries)] else []))

/-- One exchange of a listing leads to the next: the page that is shown has links and is not the
last one, and the page behind the one that the links name is asked for. -/
def Follows (region maxEntries : Value) (turn next : Request × Reply) : Prop :=
  ∃ page links current, turn.2.shown = .ok page ∧ page.links = some links ∧
    links.isLast = false ∧ links.currentPage = .ok current ∧
    next.1.content = pageQuery region maxEntries (current + 1)

/-- A reply that shows the last page of a listing. -/
def Reply.Closes (reply : Reply) : Prop :=
  ∃ page, reply.shown = .ok page ∧ ∀ links, page.links = some links → links.isLast = true

/-- Exchanges that show pages from one on, up to the last. -/
structure ShownFrom (region maxEntries : Value) (page : Int) (turns : List (Request × Reply))
    (pages : List Page) : Prop where
  gets : ∀ turn ∈ turns, turn.1.method = .get ∧
    ∃ asked, turn.1.content = pageQuery region maxEntries asked
  first : ∃ turn, turns.head? = some turn ∧ turn.1.content = pageQuery region maxEntries page
  shown : List.Forall₂ (fun turn page => turn.2.shown = .ok page) turns pages
  follows : turns.IsChain (Follows region maxEntries)
  closes : ∃ turn, turns.getLast? = some turn ∧ turn.2.Closes

/-- A request for a page says which one. -/
theorem content_pageRequest (setting : Setting) (client : Client) (maxEntries : Value) (page : Int)
    (timeout : Value) :
    (pageRequest setting client (maxEntries.orElse .null) page timeout).content =
      pageQuery setting.region maxEntries page := by
  have hparameters :
      (pageRequest setting client (maxEntries.orElse .null) page timeout).content =
        .query ([("region", setting.region)] ++ Operation.optional "page" (.int page) ++
          Operation.optional "per_page" (maxEntries.orElse .null)) := rfl
  have hpage : Operation.optional "page" (.int page) =
      if page = 0 then [] else [("page", .int page)] := by
    simp [Operation.optional, Value.truthy]
  have hlimit : Operation.optional "per_page" (maxEntries.orElse .null) =
      if maxEntries.truthy then [("per_page", maxEntries)] else [] := by
    unfold Operation.optional Value.orElse
    by_cases htruthy : maxEntries.truthy = true
    · simp only [if_pos htruthy]
    · simp only [if_neg htruthy]
      rfl
  rw [hparameters, hpage, hlimit, pageQuery]

section Runs

variable {setting : Setting} {client : Client} {maxEntries : Value} {page : Int}

/-- A page that is asked for and shown is one that pages are shown from. -/
theorem ShownFrom.single {timeout : Value} {reply : Reply} {fetched : Page}
    (hshown : reply.shown = .ok fetched)
    (hlast : ∀ links, fetched.links = some links → links.isLast = true) :
    ShownFrom setting.region maxEntries page
      [(pageRequest setting client (maxEntries.orElse .null) page timeout, reply)] [fetched] where
  gets := by
    intro turn hturn
    rw [List.mem_singleton.1 hturn]
    exact ⟨rfl, page, content_pageRequest ..⟩
  first := ⟨_, rfl, content_pageRequest ..⟩
  shown := .cons hshown .nil
  follows := .singleton _
  closes := ⟨_, rfl, fetched, hshown, hlast⟩

/-- In front of pages that are shown there may be one whose links lead to the first of them. -/
theorem ShownFrom.cons {timeout : Value} {reply : Reply} {fetched : Page} {links : PageLinks}
    {current : Int} {turns : List (Request × Reply)} {pages : List Page}
    (hshown : reply.shown = .ok fetched) (hlinks : fetched.links = some links)
    (hlast : links.isLast = false) (hcurrent : links.currentPage = .ok current)
    (hrest : ShownFrom setting.region maxEntries (current + 1) turns pages) :
    ShownFrom setting.region maxEntries page
      ((pageRequest setting client (maxEntries.orElse .null) page timeout, reply) :: turns)
      (fetched :: pages) where
  gets := by
    intro turn hturn
    rcases List.mem_cons.1 hturn with rfl | hturn
    · exact ⟨rfl, page, content_pageRequest ..⟩
    · exact hrest.gets turn hturn
  first := ⟨_, rfl, content_pageRequest ..⟩
  shown := .cons hshown hrest.shown
  follows := by
    apply List.IsChain.cons hrest.follows
    intro next hnext
    obtain ⟨turn, hturn, hcontent⟩ := hrest.first
    rw [Option.mem_def, hturn, Option.some.injEq] at hnext
    exact ⟨fetched, links, current, hshown, hlinks, hlast, hcurrent, hnext ▸ hcontent⟩
  closes := by
    obtain ⟨last, hgetLast, hcloses⟩ := hrest.closes
    refine ⟨last, ?_, hcloses⟩
    rw [List.getLast?_cons, hgetLast, Option.getD_some]

/-- A listing that comes to its end has been shown the pages that it asked for, and has their
volumes. -/
theorem PagesRun.shownFrom {transcript : List Event} {result : Except Failure (List Volume × Int)}
    (hrun : PagesRun setting client (maxEntries.orElse .null) page transcript result)
    {volumes : List Volume} {lastPage : Int} (hresult : result = .ok (volumes, lastPage)) :
    ∃ pages, ShownFrom setting.region maxEntries page (exchangesOf transcript) pages ∧
      volumes = pages.flatMap Page.volumes := by
  induction hrun generalizing volumes with
  | cancelled | late | failed => cases hresult
  | finished htime hturn =>
      cases hresult
      obtain ⟨fetched, hshown, hvolumes, hposition⟩ := Client.shown_of_turnOf hturn
      refine ⟨[fetched], .single hshown ?_, by simp [hvolumes]⟩
      intro links hlinks
      rcases PageLinks.of_position_finished hposition with ⟨hnone, -⟩ | ⟨found, hfound, hlast, -⟩
      · rw [hlinks] at hnone
        cases hnone
      · rw [hlinks, Option.some.injEq] at hfound
        rw [hfound]
        exact hlast
  | @goOn page nextPage left timeout reply shown rest result htime hturn hrest ih =>
      cases result with
      | error failure => cases hresult
      | ok listed =>
          cases hresult
          obtain ⟨fetched, hshown, hvolumes, hposition⟩ := Client.shown_of_turnOf hturn
          obtain ⟨links, current, hlinks, hlast, hcurrent, rfl⟩ :=
            PageLinks.of_position_goOn hposition
          obtain ⟨pages, hpages, hlater⟩ := ih rfl
          refine ⟨fetched :: pages, .cons hshown hlinks hlast hcurrent hpages, ?_⟩
          rw [List.flatMap_cons, hvolumes, ← hlater]

end Runs

/-! ## Entries -/

/-- A volume as it is listed: under its id, and a size in whole gibibytes in bytes. -/
structure Volume.ListedAs (volume : Volume) (entry : CsiVolume) : Prop where
  id : entry.volumeId = volume.id
  capacity : ∀ size, volume.sizeGigabytes = .int size →
    entry.capacityBytes = .int (size * Int.pow 2 30)

/-- The entry of a volume lists it. -/
theorem Volume.listedAs_of_entry {volume : Volume} {entry : CsiVolume}
    (hentry : volume.entry = .ok entry) : volume.ListedAs entry := by
  obtain ⟨capacity, hcapacity, hentry⟩ := bind_eq_ok.1 hentry
  cases hentry
  refine ⟨rfl, ?_⟩
  intro size hsize
  unfold capacityBytes at hcapacity
  rw [hsize] at hcapacity
  cases hcapacity
  rfl

/-- A rule that succeeds on a list does so on each of its items. -/
theorem forall₂_of_mapM {α β : Type} {rule : α → Except Failure β} {items : List α}
    {results : List β} (hresults : items.mapM rule = .ok results) :
    List.Forall₂ (fun item result => rule item = .ok result) items results := by
  induction items generalizing results with
  | nil =>
      cases hresults
      exact .nil
  | cons item rest ih =>
      rw [List.mapM_cons] at hresults
      obtain ⟨result, hitem, hresults⟩ := bind_eq_ok.1 hresults
      obtain ⟨later, hrest, hresults⟩ := bind_eq_ok.1 hresults
      cases hresults
      exact .cons hitem (ih hrest)

/-- A response for volumes lists them, with the text of the last page. -/
theorem respondListing_eq_ok {volumes : List Volume} {lastPage : Value} {response : Response}
    (hresponse : respondListing volumes lastPage = .ok response) :
    ∃ entries token, response = .listing entries token ∧ pageText lastPage = .ok token ∧
      List.Forall₂ Volume.ListedAs volumes entries := by
  obtain ⟨entries, hentries, hresponse⟩ := bind_eq_ok.1 hresponse
  obtain ⟨token, htoken, hresponse⟩ := bind_eq_ok.1 hresponse
  cases hresponse
  exact ⟨entries, token, rfl, htoken,
    (forall₂_of_mapM hentries).imp fun _ _ => Volume.listedAs_of_entry⟩

/-- A request for a listing asks for the page of its token, and leaves out an empty limit. -/
theorem ListVolumesRequest.rule_eq_ok {request : ListVolumesRequest} {perPage : Value} {page : Int}
    (hrule : request.rule = .ok (perPage, page)) :
    perPage = request.maxEntries.orElse .null ∧ pageOfToken request.startingToken = .ok page := by
  obtain ⟨limit, hlimit, hrule⟩ := bind_eq_ok.1 hrule
  obtain ⟨start, hstart, hrule⟩ := bind_eq_ok.1 hrule
  cases hrule
  obtain ⟨negative, -, hlimit⟩ := bind_eq_ok.1 hlimit
  cases negative <;> cases hlimit
  exact ⟨rfl, hstart⟩

namespace Service

/-- A listing that answers without a status has run from the page of its token to the end, and
responds with what it has found. -/
theorem listing_of_answer (service : Service) (request : ListVolumesRequest)
    (context : CallContext) (replies : List Reply) {answer : Answer} {sent : List Request}
    (hanswer : (service.step (.call (.listVolumes request) context replies)).1.outcome =
      .answered (.ok answer) sent) (hplain : answer.status = none) :
    ∃ client page transcript volumes lastPage response,
      pageOfToken request.startingToken = .ok page ∧
      service.exchanges (.listVolumes request) context replies = exchangesOf transcript ∧
      PagesRun service.setting client (request.maxEntries.orElse .null) page transcript
        (.ok (volumes, lastPage)) ∧
      respondListing volumes (.int lastPage) = .ok response ∧
      answer = { response := response } := by
  obtain ⟨houtcome, transcript, after, -, hexchanges, outcome, hrun, hhandled⟩ :=
    service.outcome_of_supervised (.listVolumes request) context replies rfl
  rw [hanswer, hhandled, Outcome.answered.injEq] at houtcome
  obtain ⟨response, hresponded, hanswered⟩ := response_of_settled houtcome.1.symm hplain
  cases hrun with
  | invalid | unready => cases hresponded
  | @listed perPage page client _ result hrequest hclient hrun =>
      obtain ⟨rfl, htoken⟩ := ListVolumesRequest.rule_eq_ok hrequest
      obtain ⟨⟨volumes, lastPage⟩, rfl, hresponse⟩ := bind_eq_ok.1 hresponded
      exact ⟨client, page, transcript, volumes, lastPage, response, htoken, hexchanges, hrun,
        hresponse, hanswered⟩

/-- A listing that answers without a status responds with everything it was shown and with nothing
else. From the page of its token on it has been shown every page that it asked for; it went on
behind each but the last and only there, to the page behind the one that the links name; and the
volumes of these pages are its entries, in order. -/
theorem listing_in_full (service : Service) (request : ListVolumesRequest)
    (context : CallContext) (replies : List Reply) {answer : Answer} {sent : List Request}
    (hanswer : (service.step (.call (.listVolumes request) context replies)).1.outcome =
      .answered (.ok answer) sent) (hplain : answer.status = none) :
    ∃ page pages entries token, pageOfToken request.startingToken = .ok page ∧
      (service.exchanges (.listVolumes request) context replies).map Prod.fst = sent ∧
      ShownFrom service.region request.maxEntries page
        (service.exchanges (.listVolumes request) context replies) pages ∧
      answer = { response := .listing entries token } ∧
      List.Forall₂ Volume.ListedAs (pages.flatMap Page.volumes) entries := by
  obtain ⟨client, page, transcript, volumes, lastPage, response, htoken, hexchanges, hrun,
    hresponse, hanswered⟩ := service.listing_of_answer request context replies hanswer hplain
  obtain ⟨pages, hshown, rfl⟩ := hrun.shownFrom rfl
  obtain ⟨entries, token, rfl, -, hentries⟩ := respondListing_eq_ok hresponse
  have hsent : service.requestsOf (.listVolumes request) context replies = sent := by
    rw [outcome_call, Outcome.answered.injEq] at hanswer
    exact hanswer.2
  refine ⟨page, pages, entries, token, htoken, ?_, ?_, hanswered, hentries⟩
  · rw [map_fst_exchanges, hsent]
  · rw [hexchanges]
    exact hshown

/-- The reply with a page of one volume, whose links lead to the seventh page. -/
def strayPage : Reply :=
  .answer 200 (String.join [
    "\x7b\"volumes\":[\x7b\"id\":\"a\",\"name\":\"\",\"size_gigabytes\":1\x7d],",
    "\"links\":\x7b\"pages\":\x7b\"next\":\"https://a.example/v?page=7\"\x7d\x7d\x7d"])

/-- The reply with a page of one volume and without links. -/
def lonePage : Reply :=
  .answer 200 "\x7b\"volumes\":[\x7b\"id\":\"b\",\"name\":\"\",\"size_gigabytes\":16\x7d]\x7d"

/-- Where the links of the first page lead to the seventh, this one is asked for, and the volumes of
both are responded with. -/
theorem stray_listing_in_full :
    ((withToken "token").step (.call (.listVolumes { maxEntries := .int 1 }) {}
        [strayPage, lonePage])).1.outcome =
      .answered (.ok {
          response := .listing [⟨.text "a", .int 1073741824⟩, ⟨.text "b", .int 17179869184⟩]
            "7" })
        ((withToken "token").requestsOf (.listVolumes { maxEntries := .int 1 }) {}
          [strayPage, lonePage]) ∧
      ∃ pages, ShownFrom (.text "nyc3") (.int 1) 1
          ((withToken "token").exchanges (.listVolumes { maxEntries := .int 1 }) {}
            [strayPage, lonePage]) pages ∧
        List.Forall₂ Volume.ListedAs (pages.flatMap Page.volumes)
          [⟨.text "a", .int 1073741824⟩, ⟨.text "b", .int 17179869184⟩] := by
  have hanswer : ((withToken "token").step (.call (.listVolumes { maxEntries := .int 1 }) {}
      [strayPage, lonePage])).1.outcome =
        .answered (.ok {
            response := .listing [⟨.text "a", .int 1073741824⟩, ⟨.text "b", .int 17179869184⟩]
              "7" })
          ((withToken "token").requestsOf (.listVolumes { maxEntries := .int 1 }) {}
            [strayPage, lonePage]) := by
    rw [outcome_call, Outcome.answered.injEq]
    exact ⟨by decide +kernel, rfl⟩
  obtain ⟨page, pages, entries, token, hpage, -, hshown, hresponse, hentries⟩ :=
    listing_in_full (withToken "token") { maxEntries := .int 1 } {} [strayPage, lonePage] hanswer
      rfl
  cases hpage
  cases hresponse
  exact ⟨hanswer, pages, hshown, hentries⟩

end Service

end VolumePlugin
