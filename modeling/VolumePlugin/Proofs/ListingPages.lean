/-
# The pages of a listing

A listing goes where the links of the pages lead it: behind a page it asks for the one that
follows the page named by the links, whatever page was asked for. The pages that are asked for
increase, and none is asked for twice, just as long as no links name a page before the one that
they came with; and where besides the links stay below a last page the listing is short.
-/
import Mathlib.Data.List.Chain
import VolumePlugin.Proofs.Supervision

namespace VolumePlugin

/-! ## Pages in requests and replies -/

/-- The page that a request for a page shows. A zero is not written, and a request without a page
is one for the first. -/
def writtenPage (page : Int) : Int :=
  if page = 0 then firstPage else page

/-- The page that a request asks for. -/
def Request.page (request : Request) : Int :=
  match request.content with
  | .query parameters =>
    match parameters.lookup "page" with
    | some (.int page) => page
    | _ => firstPage
  | _ => firstPage

/-- The page that a reply shows. -/
def Reply.shown (reply : Reply) : Except Failure Page := do
  Page.ofValue (← reply.value .get "")

/-- The page that the links of a reply say it is, none where there are no links. -/
def Reply.namedPage (reply : Reply) : Option Int :=
  match reply.shown with
  | .ok page => page.links.bind fun links => links.currentPage.toOption
  | .error _ => none

/-- One exchange of a listing leads to the next: what is asked for follows the page that the
links of the reply named. -/
def LeadsOn (turn next : Request × Reply) : Prop :=
  ∃ current, turn.2.namedPage = some current ∧ next.1.page = writtenPage (current + 1)

/-- A request for a page shows this page. -/
theorem page_pageRequest (setting : Setting) (client : Client) (perPage : Value) (page : Int)
    (timeout : Value) :
    (pageRequest setting client perPage page timeout).page = writtenPage page := by
  have hparameters : (pageRequest setting client perPage page timeout).content =
      .query ([("region", setting.region)] ++ Operation.optional "page" (.int page) ++
        Operation.optional "per_page" perPage) := rfl
  unfold Request.page
  rw [hparameters]
  unfold writtenPage
  by_cases hzero : page = 0
  · rw [if_pos hzero, hzero]
    have hpage : Operation.optional "page" (.int 0) = [] := rfl
    rw [hpage]
    unfold Operation.optional
    by_cases hperPage : perPage.truthy = true
    · rw [if_pos hperPage]
      rfl
    · rw [if_neg hperPage]
      rfl
  · have hpage : Operation.optional "page" (.int page) = [("page", .int page)] := by
      unfold Operation.optional
      rw [if_pos]
      simp [Value.truthy, hzero]
    rw [if_neg hzero, hpage]
    rfl

/-- What a reply says does not depend on the address that it is about. -/
theorem Reply.value_of_url {method other : Method} {url elsewhere : String} {reply : Reply}
    {value : Value} (hvalue : reply.value method url = .ok value) :
    reply.value other elsewhere = .ok value := by
  cases reply with
  | lost report => cases hvalue
  | broken sort report => cases hvalue
  | answer status body =>
      unfold Reply.value at hvalue ⊢
      by_cases hstatus : Reply.isErrorStatus status = true
      · simp only [if_pos hstatus] at hvalue
        obtain ⟨details, -, himpossible⟩ := bind_eq_ok.1 hvalue
        cases himpossible
      · simp only [if_neg hstatus] at hvalue ⊢
        unfold Reply.content at hvalue ⊢
        by_cases hempty : status = 204 ∨ body = ""
        · rwa [if_pos hempty] at hvalue ⊢
        · rw [if_neg hempty] at hvalue ⊢
          cases hread : Json.read body with
          | ok read => rwa [hread] at hvalue
          | error fault =>
              rw [hread] at hvalue
              cases fault <;> cases hvalue

/-- A client reads the page that a reply shows. -/
theorem Client.pageOf_eq_ok_iff (client : Client) (reply : Reply) (page : Page) :
    client.pageOf reply = .ok page ↔ reply.shown = .ok page := by
  unfold Client.pageOf Reply.shown
  rw [bind_eq_ok, bind_eq_ok]
  constructor
  · intro hboth
    obtain ⟨value, hvalue, hpage⟩ := hboth
    exact ⟨value, Reply.value_of_url hvalue, hpage⟩
  · intro hboth
    obtain ⟨value, hvalue, hpage⟩ := hboth
    exact ⟨value, Reply.value_of_url hvalue, hpage⟩

/-- What a reply says of a page is shown by it. -/
theorem Client.shown_of_turnOf {client : Client} {page : Int} {reply : Reply}
    {volumes : List Volume} {position : PageLinks.Position}
    (hturn : client.turnOf page reply = .ok (volumes, position)) :
    ∃ fetched, reply.shown = .ok fetched ∧ fetched.volumes = volumes ∧
      PageLinks.position fetched.links page = .ok position := by
  obtain ⟨fetched, hpage, hturn⟩ := bind_eq_ok.1 hturn
  obtain ⟨_, -, hturn⟩ := bind_eq_ok.1 hturn
  obtain ⟨found, hposition, hturn⟩ := bind_eq_ok.1 hturn
  cases hturn
  exact ⟨fetched, (client.pageOf_eq_ok_iff reply fetched).1 hpage, rfl, hposition⟩

/-- A listing ends behind a page without links, which is then the last one, and behind one whose
links say that it is. -/
theorem PageLinks.of_position_finished {links : Option PageLinks} {page lastPage : Int}
    (hposition : position links page = .ok (.finished lastPage)) :
    links = none ∧ lastPage = page ∨
      ∃ found, links = some found ∧ found.isLast = true ∧ found.currentPage = .ok lastPage := by
  cases links with
  | none =>
      cases hposition
      exact .inl ⟨rfl, rfl⟩
  | some found =>
      obtain ⟨current, hcurrent, hposition⟩ := bind_eq_ok.1 hposition
      cases hlast : found.isLast with
      | true =>
          rw [hlast] at hposition
          cases hposition
          exact .inr ⟨found, rfl, hlast, hcurrent⟩
      | false =>
          rw [hlast] at hposition
          cases hposition

/-- It goes on behind any other page, with the one behind the page that the links name. -/
theorem PageLinks.of_position_goOn {links : Option PageLinks} {page nextPage : Int}
    (hposition : position links page = .ok (.goOn nextPage)) :
    ∃ found current, links = some found ∧ found.isLast = false ∧
      found.currentPage = .ok current ∧ nextPage = current + 1 := by
  cases links with
  | none => cases hposition
  | some found =>
      obtain ⟨current, hcurrent, hposition⟩ := bind_eq_ok.1 hposition
      cases hlast : found.isLast with
      | true =>
          rw [hlast] at hposition
          cases hposition
      | false =>
          rw [hlast] at hposition
          cases hposition
          exact ⟨found, current, rfl, hlast, hcurrent, rfl⟩

/-- A listing goes on behind the page that the links name. -/
theorem Client.namedPage_of_goOn {client : Client} {page nextPage : Int} {reply : Reply}
    {volumes : List Volume} (hturn : client.turnOf page reply = .ok (volumes, .goOn nextPage)) :
    reply.namedPage = some (nextPage - 1) := by
  obtain ⟨fetched, hshown, -, hposition⟩ := shown_of_turnOf hturn
  obtain ⟨links, current, hlinks, -, hcurrent, rfl⟩ := PageLinks.of_position_goOn hposition
  unfold Reply.namedPage
  rw [hshown]
  simp [hlinks, hcurrent, Except.toOption]

/-- The exchanges of a listing begin with the page that it starts at, and each leads to the
next. -/
theorem PagesRun.leadsOn {setting : Setting} {client : Client} {perPage : Value} {page : Int}
    {transcript : List Event} {result : Except Failure (List Volume × Int)}
    (hrun : PagesRun setting client perPage page transcript result) :
    (∀ turn, (exchangesOf transcript).head? = some turn → turn.1.page = writtenPage page) ∧
      (exchangesOf transcript).IsChain LeadsOn := by
  have hfirst (page : Int) (timeout : Value) (reply : Reply) (rest : List (Request × Reply)) :
      ∀ turn, ((pageRequest setting client perPage page timeout, reply) :: rest).head? =
        some turn → turn.1.page = writtenPage page := by
    intro turn hturn
    cases hturn
    exact page_pageRequest setting client perPage page timeout
  induction hrun with
  | cancelled => exact ⟨by simp, .nil⟩
  | late => exact ⟨by simp, .nil⟩
  | failed => exact ⟨hfirst _ _ _ _, .singleton _⟩
  | finished => exact ⟨hfirst _ _ _ _, .singleton _⟩
  | @goOn page nextPage left timeout reply volumes rest result htime hturn hrest ih =>
      obtain ⟨hnext, hchain⟩ := ih
      constructor
      · exact hfirst _ _ _ _
      · simp only [exchangesOf_activity, exchangesOf_clock, exchangesOf_exchange]
        apply List.IsChain.cons hchain
        intro next hhead
        have hnamed := Client.namedPage_of_goOn hturn
        exact ⟨nextPage - 1, hnamed, by rw [hnext next hhead, Int.sub_add_cancel]⟩

/-! ## When the pages increase -/

/-- A starting token names a page from the first one on. -/
theorem firstPage_le_of_pageOfToken {token : Value} {page : Int}
    (htoken : pageOfToken token = .ok page) : firstPage ≤ page := by
  unfold pageOfToken at htoken
  split at htoken
  · split at htoken
    · unfold pageOfTokenText at htoken
      split at htoken
      · cases htoken
      · split at htoken
        · cases htoken
          exact Int.le_max_right _ _
        · cases htoken
    · cases htoken
  · cases htoken
    exact Int.le_refl _

/-- The exchanges of a call that lists volumes begin with the page of the token, and each leads to
the next. -/
theorem ListingRun.leadsOn {request : ListVolumesRequest} {setting : Setting}
    {transcript : List Event} {result : Except Failure Response}
    (hrun : ListingRun request setting transcript result) :
    (∀ turn, (exchangesOf transcript).head? = some turn →
      pageOfToken request.startingToken = .ok turn.1.page) ∧
      (exchangesOf transcript).IsChain LeadsOn := by
  cases hrun with
  | invalid => exact ⟨by simp, .nil⟩
  | unready => exact ⟨by simp, .nil⟩
  | @listed perPage page client _ result hrequest hclient hrun =>
      obtain ⟨hfirst, hchain⟩ := hrun.leadsOn
      obtain ⟨_, -, hrule⟩ := bind_eq_ok.1 hrequest
      obtain ⟨asked, htoken, hrule⟩ := bind_eq_ok.1 hrule
      cases hrule
      have hpositive : writtenPage page = page := by
        have hle := firstPage_le_of_pageOfToken htoken
        unfold writtenPage
        rw [if_neg]
        unfold firstPage at hle
        omega
      constructor
      · intro turn hturn
        rw [hfirst turn hturn, hpositive]
        exact htoken
      · exact hchain

/-- The pages that a list of exchanges asks for. -/
def pagesOf (turns : List (Request × Reply)) : List Int :=
  turns.map fun turn => turn.1.page

/-- No reply but the last one names a page before the one that was asked for. -/
def NeverBack (turns : List (Request × Reply)) : Prop :=
  ∀ turn ∈ turns.dropLast, ∀ current, turn.2.namedPage = some current → turn.1.page ≤ current

/-- The pages of a listing increase just when no links lead back. -/
theorem pairwise_pagesOf_iff {turns : List (Request × Reply)} (hchain : turns.IsChain LeadsOn)
    (hfirst : ∀ turn, turns.head? = some turn → firstPage ≤ turn.1.page) :
    (pagesOf turns).Pairwise (· < ·) ↔ NeverBack turns := by
  rw [← List.isChain_iff_pairwise]
  induction turns with
  | nil => simp [pagesOf, NeverBack]
  | cons turn rest ih =>
      cases rest with
      | nil => simp [pagesOf, NeverBack]
      | cons next rest =>
          obtain ⟨⟨current, hcurrent, hnext⟩, hrest⟩ := List.isChain_cons_cons.1 hchain
          have hturn : firstPage ≤ turn.1.page := hfirst turn rfl
          have hstep : turn.1.page < next.1.page ↔ turn.1.page ≤ current := by
            rw [hnext]
            unfold writtenPage firstPage at *
            split <;> omega
          have hsplit : NeverBack (turn :: next :: rest) ↔
              turn.1.page ≤ current ∧ NeverBack (next :: rest) := by
            unfold NeverBack
            rw [List.dropLast_cons_cons, List.forall_mem_cons]
            apply and_congr_left
            intro _
            constructor
            · intro hnamed
              exact hnamed current hcurrent
            · intro hle other hother
              rw [hcurrent, Option.some.injEq] at hother
              rwa [← hother]
          rw [hsplit, ← hstep]
          unfold pagesOf at ih ⊢
          rw [List.map_cons, List.map_cons, List.isChain_cons_cons]
          apply and_congr_right
          intro hlt
          apply ih hrest
          intro other hother
          cases hother
          exact Int.le_trans hturn (Int.le_of_lt hlt)

/-- Increasing numbers between two bounds are no more than fit between these. -/
theorem length_le_of_increasing {pages : List Int} {least last : Int}
    (hincreasing : pages.Pairwise (· < ·)) (hbounds : ∀ page ∈ pages, least < page ∧ page ≤ last) :
    pages.length ≤ (last - least).toNat := by
  induction pages generalizing least with
  | nil => simp
  | cons page rest ih =>
      obtain ⟨hfirst, hrest⟩ := List.pairwise_cons.1 hincreasing
      obtain ⟨hleast, hlast⟩ := hbounds page List.mem_cons_self
      have hfewer := ih hrest fun other hother =>
        ⟨hfirst other hother, (hbounds other (List.mem_cons_of_mem page hother)).2⟩
      rw [List.length_cons]
      omega

/-- Behind its first page an increasing listing asks for pages that links came before. -/
theorem le_of_increasing {turns : List (Request × Reply)} {last : Int}
    (hchain : turns.IsChain LeadsOn)
    (hfirst : ∀ turn, turns.head? = some turn → firstPage ≤ turn.1.page)
    (hincreasing : (pagesOf turns).Pairwise (· < ·))
    (hlast : ∀ turn ∈ turns.dropLast, ∀ current, turn.2.namedPage = some current → current < last) :
    ∀ page ∈ (pagesOf turns).tail, page ≤ last := by
  induction turns with
  | nil => simp [pagesOf]
  | cons turn rest ih =>
      cases rest with
      | nil => simp [pagesOf]
      | cons next rest =>
          obtain ⟨⟨current, hcurrent, hnext⟩, hrest⟩ := List.isChain_cons_cons.1 hchain
          obtain ⟨hlater, hincreasing'⟩ := List.pairwise_cons.1 hincreasing
          have hturn : firstPage ≤ turn.1.page := hfirst turn rfl
          have hlt : turn.1.page < next.1.page := hlater _ List.mem_cons_self
          have hfirst' : ∀ other, (next :: rest).head? = some other →
              firstPage ≤ other.1.page := by
            intro other hother
            cases hother
            exact Int.le_trans hturn (Int.le_of_lt hlt)
          have htail := ih hrest hfirst' hincreasing' fun other hother =>
            hlast other (List.mem_cons_of_mem turn hother)
          have hcurrent' := hlast turn List.mem_cons_self current hcurrent
          have hpage : next.1.page ≤ last := by
            rw [hnext] at hlt ⊢
            unfold writtenPage firstPage at *
            by_cases hzero : current + 1 = 0
            · rw [if_pos hzero] at hlt
              omega
            · rw [if_neg hzero]
              omega
          intro page hpage'
          rcases List.mem_cons.1 hpage' with rfl | hother
          · exact hpage
          · exact htail page hother

/-! ## Listings of a service -/

namespace Service

variable (service : Service) (request : ListVolumesRequest) (context : CallContext)
  (replies : List Reply)

/-- Where a listing goes. It begins with the page of its token, and behind each page it asks for
the one that follows the page named by the links. The pages increase just when no links lead
back, and then a last page that all links stay below bounds how many are asked for. -/
theorem listing_follows_links :
    (∀ turn, (service.exchanges (.listVolumes request) context replies).head? = some turn →
      pageOfToken request.startingToken = .ok turn.1.page) ∧
    (service.exchanges (.listVolumes request) context replies).IsChain LeadsOn ∧
    ((pagesOf (service.exchanges (.listVolumes request) context replies)).Pairwise (· < ·) ↔
      NeverBack (service.exchanges (.listVolumes request) context replies)) ∧
    (NeverBack (service.exchanges (.listVolumes request) context replies) →
      ∀ first last,
        (pagesOf (service.exchanges (.listVolumes request) context replies)).head? = some first →
        (∀ turn ∈ (service.exchanges (.listVolumes request) context replies).dropLast,
          ∀ current, turn.2.namedPage = some current → current < last) →
        (service.exchanges (.listVolumes request) context replies).length ≤
          (last - first).toNat + 1) := by
  obtain ⟨-, transcript, after, -, hexchanges, outcome, hrun, -⟩ :=
    service.outcome_of_supervised (.listVolumes request) context replies rfl
  rw [hexchanges]
  obtain ⟨hhead, hchain⟩ := hrun.leadsOn
  have hfirst : ∀ turn, (exchangesOf transcript).head? = some turn → firstPage ≤ turn.1.page :=
    fun turn hturn => firstPage_le_of_pageOfToken (hhead turn hturn)
  have hiff := pairwise_pagesOf_iff hchain hfirst
  apply And.intro hhead
  apply And.intro hchain
  apply And.intro hiff
  intro hforward first last hstart hlast
  have hincreasing := hiff.2 hforward
  have hbound := le_of_increasing hchain hfirst hincreasing hlast
  have hlength : (exchangesOf transcript).length = (pagesOf (exchangesOf transcript)).length :=
    (List.length_map _).symm
  rw [hlength]
  cases hpages : pagesOf (exchangesOf transcript) with
  | nil => simp
  | cons page rest =>
      rw [hpages] at hstart hincreasing hbound
      cases hstart
      obtain ⟨hlater, hrest⟩ := List.pairwise_cons.1 hincreasing
      have hfewer := length_le_of_increasing hrest fun other hother =>
        ⟨hlater other hother, hbound other hother⟩
      rw [List.length_cons]
      omega

/-- The body of a page of nine whose links name the page that comes next. -/
def pageBody (next : String) : String :=
  String.join [
    "\x7b\"volumes\":[],\"links\":\x7b\"pages\":\x7b\"next\":\"https://a.example/v?page=",
    next, "\",\"last\":\"https://a.example/v?page=9\"\x7d\x7d\x7d"]

/-- Where the links of the first page lead to the second one, and there are no others, the listing
asks for two pages. -/
theorem listing_of_two_pages :
    NeverBack ((withToken "token").exchanges (.listVolumes {}) {}
        [.answer 200 (pageBody "2"), .answer 200 "\x7b\x7d"]) ∧
      ((withToken "token").exchanges (.listVolumes {}) {}
        [.answer 200 (pageBody "2"), .answer 200 "\x7b\x7d"]).length ≤ (2 - 1 : Int).toNat + 1 := by
  have hpages : pagesOf ((withToken "token").exchanges (.listVolumes {}) {}
      [.answer 200 (pageBody "2"), .answer 200 "\x7b\x7d"]) = [1, 2] := by
    decide +kernel
  have hnamed : ((withToken "token").exchanges (.listVolumes {}) {}
      [.answer 200 (pageBody "2"), .answer 200 "\x7b\x7d"]).dropLast.map (·.2.namedPage) =
        [some 1] := by
    decide +kernel
  obtain ⟨-, -, hiff, hbound⟩ := listing_follows_links (withToken "token") {} {}
    [.answer 200 (pageBody "2"), .answer 200 "\x7b\x7d"]
  have hforward := hiff.1 (by rw [hpages]; decide)
  apply And.intro hforward
  apply hbound hforward 1 2 (by rw [hpages]; rfl)
  intro turn hturn current hcurrent
  have hmember := List.mem_map_of_mem (f := (·.2.namedPage)) hturn
  rw [hnamed, hcurrent, List.mem_singleton, Option.some.injEq] at hmember
  omega

/-- Where they lead to the first page again, it is asked for again. -/
theorem listing_asks_again :
    ¬ (pagesOf ((withToken "token").exchanges (.listVolumes {}) {}
        [.answer 200 (pageBody "1"), .answer 200 "\x7b\x7d"])).Pairwise (· < ·) := by
  have hpages : pagesOf ((withToken "token").exchanges (.listVolumes {}) {}
      [.answer 200 (pageBody "1"), .answer 200 "\x7b\x7d"]) = [1, 1] := by
    decide +kernel
  rw [hpages]
  decide

end Service

end VolumePlugin
