/-
# Complete listings

A catalogue keeps volumes on pages, and a provider shows a page with links to its neighbours. A
listing of a catalogue asks for every page from its first one on, once and in order, whether the
page is found behind its left or before its right neighbour, and responds with what is on these
pages. The number of the last page is the token of the response.
-/
import VolumePlugin.Proofs.ListingPages
import VolumePlugin.Proofs.PageAddress
import VolumePlugin.Proofs.TimeLeft

namespace VolumePlugin

/-- The size of a volume that is sized in whole gibibytes. -/
def Volume.gibibytes (volume : Volume) : Int :=
  match volume.sizeGigabytes with
  | .int size => size
  | _ => 0

/-- Volumes on pages, of which there is one at least. Nothing is on a page behind the last. -/
structure Catalogue where
  lastPage : Nat
  contents : Nat → List Volume
  base : String
  lastPage_pos : 1 ≤ lastPage
  contents_behind : ∀ page, lastPage < page → contents page = []
  sized : ∀ page, ∀ volume ∈ contents page, volume.sizeGigabytes = .int volume.gibibytes
  isBase : IsBase base

namespace Catalogue

variable (catalogue : Catalogue)

/-- A link to a page. -/
def IsLink (page : Nat) (link : Value) : Prop :=
  ∃ perPage, link = .text (pageAddress catalogue.base page perPage)

/-- The links of a page. A catalogue of one page has none. On any other, all pages but the first
one have a link to the previous page, and those before the last have links to the next page and
to the last. -/
def HasLinks (page : Nat) (links : Option PageLinks) : Prop :=
  match links with
  | none => catalogue.lastPage = 1
  | some links =>
    catalogue.lastPage ≠ 1 ∧
      (if 1 < page then catalogue.IsLink (page - 1) links.prev else links.prev.truthy = false) ∧
      if page < catalogue.lastPage then
        catalogue.IsLink (page + 1) links.next ∧ catalogue.IsLink catalogue.lastPage links.last
      else links.next.truthy = false ∧ links.last.truthy = false

/-- A reply shows a page of the catalogue. -/
def Shows (page : Nat) (reply : Reply) : Prop :=
  ∃ links, catalogue.HasLinks page links ∧ reply.shown = .ok ⟨catalogue.contents page, links⟩

/-- The volumes from a page on. -/
def volumesFrom (page : Nat) : List Volume :=
  (List.range' page (catalogue.lastPage + 1 - page)).flatMap catalogue.contents

/-- The page where a listing from a page on ends. -/
def endOf (page : Nat) : Nat :=
  max page catalogue.lastPage

/-- The pages from a page on. -/
def pagesFrom (page : Nat) : List Nat :=
  List.range' page (catalogue.endOf page + 1 - page)

variable {catalogue}

/-- A link is not empty. -/
theorem IsLink.truthy {page : Nat} {link : Value} (hlink : catalogue.IsLink page link) :
    link.truthy = true := by
  obtain ⟨perPage, rfl⟩ := hlink
  have hne : pageAddress catalogue.base page perPage ≠ "" := by
    intro hempty
    have hlength := congrArg String.length hempty
    unfold pageAddress at hlength
    simp [String.join] at hlength
  simp [Value.truthy, hne]

/-- A link names its page. -/
theorem IsLink.page {page : Nat} {link : Value} (hlink : catalogue.IsLink page link)
    (hfits : (Numeral.digits page).length ≤ Numeral.digitLimit) :
    PageLinks.pageOfLink link = .ok (page : Int) := by
  obtain ⟨perPage, rfl⟩ := hlink
  exact pageOfUrl_pageAddress catalogue.isBase hfits perPage

/-- The links of a page lead behind it, and behind the last page nowhere. -/
theorem HasLinks.position {page : Nat} {links : Option PageLinks}
    (hlinks : catalogue.HasLinks page links) (hpage : 1 ≤ page)
    (hfits : (Numeral.digits (catalogue.endOf page)).length ≤ Numeral.digitLimit) :
    PageLinks.position links page =
      .ok (if page < catalogue.lastPage then .goOn (page + 1) else .finished page) := by
  have hfits' {other : Nat} (hle : other ≤ catalogue.endOf page) :
      (Numeral.digits other).length ≤ Numeral.digitLimit :=
    Nat.le_trans (Numeral.length_digits_mono hle) hfits
  cases links with
  | none =>
      have hone : catalogue.lastPage = 1 := hlinks
      rw [if_neg (by omega)]
      rfl
  | some links =>
      obtain ⟨hmany, hprev, hnext⟩ := hlinks
      have hcurrent : links.currentPage = .ok (page : Int) := by
        unfold PageLinks.currentPage
        by_cases hfirst : 1 < page
        · rw [if_pos hfirst] at hprev
          rw [if_pos hprev.truthy, hprev.page (hfits' (by unfold endOf; omega)), ok_bind]
          show Except.ok (((page - 1 : Nat) : Int) + 1) = Except.ok (page : Int)
          congr 1
          omega
        · rw [if_neg hfirst] at hprev
          have hlast := catalogue.lastPage_pos
          rw [if_pos (by omega)] at hnext
          rw [hprev, if_neg Bool.false_ne_true, if_pos hnext.1.truthy,
            hnext.1.page (hfits' (by unfold endOf; omega)), ok_bind]
          show Except.ok (((page + 1 : Nat) : Int) - 1) = Except.ok (page : Int)
          congr 1
          omega
      have hlast : links.isLast = decide (catalogue.lastPage ≤ page) := by
        unfold PageLinks.isLast
        by_cases hbehind : page < catalogue.lastPage
        · rw [if_pos hbehind] at hnext
          rw [hnext.1.truthy, hnext.2.truthy, decide_eq_false (by omega)]
          rfl
        · rw [if_neg hbehind] at hnext
          rw [hnext.1, hnext.2, decide_eq_true (by omega)]
          rfl
      unfold PageLinks.position
      dsimp only
      rw [hcurrent, ok_bind, hlast]
      by_cases hbehind : page < catalogue.lastPage
      · rw [if_pos hbehind, decide_eq_false (by omega), if_neg Bool.false_ne_true]
        rfl
      · rw [if_neg hbehind, decide_eq_true (by omega), if_pos rfl]
        rfl

/-- A turn on a page of a catalogue has what is on the page and leads behind it. -/
theorem Shows.turnOf {page : Nat} {reply : Reply} (hshows : catalogue.Shows page reply)
    (client : Client) (hpage : 1 ≤ page)
    (hfits : (Numeral.digits (catalogue.endOf page)).length ≤ Numeral.digitLimit) :
    client.turnOf page reply =
      .ok (catalogue.contents page,
        if page < catalogue.lastPage then .goOn (page + 1) else .finished page) := by
  obtain ⟨links, hlinks, hshown⟩ := hshows
  have hwritable : (Value.int page).isWritable = true := by
    show Numeral.fits page = true
    rw [Numeral.fits_natCast]
    have hle : page ≤ catalogue.endOf page := Nat.le_max_left _ _
    exact Nat.le_trans (Numeral.length_digits_mono hle) hfits
  unfold Client.turnOf
  rw [(client.pageOf_eq_ok_iff reply _).2 hshown, ok_bind]
  unfold pageText
  rw [if_pos hwritable, ok_bind]
  dsimp only
  rw [hlinks.position hpage hfits]
  rfl

/-- What a listing from a page on has on it and asks for, by its first page and the rest. -/
theorem volumesFrom_of_lt {page : Nat} (hpage : page < catalogue.lastPage) :
    catalogue.volumesFrom page =
      catalogue.contents page ++ catalogue.volumesFrom (page + 1) := by
  unfold volumesFrom
  have hcount : catalogue.lastPage + 1 - page = catalogue.lastPage + 1 - (page + 1) + 1 := by omega
  rw [hcount, List.range'_succ, List.flatMap_cons]

theorem volumesFrom_of_le {page : Nat} (hpage : catalogue.lastPage ≤ page) :
    catalogue.volumesFrom page = catalogue.contents page := by
  unfold volumesFrom
  by_cases hlast : catalogue.lastPage = page
  · have hcount : catalogue.lastPage + 1 - page = 1 := by omega
    rw [hcount]
    simp
  · have hcount : catalogue.lastPage + 1 - page = 0 := by omega
    rw [hcount, catalogue.contents_behind page (by omega)]
    rfl

theorem pagesFrom_of_lt {page : Nat} (hpage : page < catalogue.lastPage) :
    catalogue.pagesFrom page = page :: catalogue.pagesFrom (page + 1) := by
  unfold pagesFrom endOf
  have hcount : max page catalogue.lastPage + 1 - page =
      max (page + 1) catalogue.lastPage + 1 - (page + 1) + 1 := by omega
  rw [hcount, List.range'_succ]

theorem pagesFrom_of_le {page : Nat} (hpage : catalogue.lastPage ≤ page) :
    catalogue.pagesFrom page = [page] := by
  unfold pagesFrom endOf
  have hcount : max page catalogue.lastPage + 1 - page = 1 := by omega
  rw [hcount]
  rfl

/-- The events of an undisturbed run that hears of the catalogue what it asks for. -/
structure Attends (catalogue : Catalogue) (client : Client) (transcript : List Event) : Prop
    extends Undisturbed client "ListVolumes" transcript where
  shows : ∀ turn ∈ exchangesOf transcript, ∀ page : Nat, turn.1.page = page →
    catalogue.Shows page turn.2

/-- What is heard about a page of the catalogue is a turn on this page. -/
theorem Attends.turnOf {client : Client} {transcript : List Event}
    (hattends : catalogue.Attends client transcript) {setting : Setting} {perPage timeout : Value}
    {page : Nat} {reply : Reply} (hpage : 1 ≤ page)
    (hfits : (Numeral.digits (catalogue.endOf page)).length ≤ Numeral.digitLimit)
    (hturn : (pageRequest setting client perPage page timeout, reply) ∈ exchangesOf transcript) :
    client.turnOf page reply =
      .ok (catalogue.contents page,
        if page < catalogue.lastPage then .goOn (page + 1) else .finished page) := by
  have hasked : (pageRequest setting client perPage page timeout).page = page := by
    rw [page_pageRequest, writtenPage, if_neg (by omega)]
  exact (hattends.shows _ hturn page hasked).turnOf client hpage hfits

/-- What is attended to is so behind its first turn. -/
theorem Attends.rest {client : Client} {waits : Bool} {left : Value} {request : Request}
    {reply : Reply} {transcript : List Event}
    (hattends : catalogue.Attends client
      (.activity waits :: .clock left :: .exchange request reply :: transcript)) :
    catalogue.Attends client transcript where
  toUndisturbed := hattends.toUndisturbed.rest.rest.rest
  shows := fun turn hturn => hattends.shows turn (by simp [hturn])

/-- A listing of a catalogue from a page on asks for the pages up to the last one in order, and
has what is on them. -/
theorem listing_complete {setting : Setting} {client : Client} {perPage : Value} {start : Int}
    {transcript : List Event} {result : Except Failure (List Volume × Int)}
    (hrun : PagesRun setting client perPage start transcript result) {page : Nat}
    (hstart : start = page) (hpage : 1 ≤ page)
    (hfits : (Numeral.digits (catalogue.endOf page)).length ≤ Numeral.digitLimit)
    (hattends : catalogue.Attends client transcript) :
    result = .ok (catalogue.volumesFrom page, (catalogue.endOf page : Int)) ∧
      List.Forall₂ (fun request page => ∃ timeout,
          request = pageRequest setting client perPage (page : Nat) timeout)
        ((exchangesOf transcript).map Prod.fst) (catalogue.pagesFrom page) := by
  induction hrun generalizing page with
  | cancelled => cases hattends.waits false List.mem_cons_self
  | @late start left failure hlate =>
      obtain ⟨timeout, htimeout⟩ := hattends.time left (by simp)
      rw [hlate] at htimeout
      cases htimeout
  | @failed start left timeout reply failure _ hturn =>
      rw [hstart] at hturn hattends
      have hshown := hattends.turnOf hpage hfits List.mem_cons_self
      rw [hturn] at hshown
      cases hshown
  | @finished start lastPage left timeout reply volumes _ hturn =>
      rw [hstart] at hturn hattends
      have hshown := hattends.turnOf hpage hfits List.mem_cons_self
      rw [hturn] at hshown
      by_cases hbehind : page < catalogue.lastPage
      · rw [if_pos hbehind] at hshown
        cases hshown
      · rw [if_neg hbehind] at hshown
        cases hshown
        have hle : catalogue.lastPage ≤ page := by omega
        have hend : catalogue.endOf page = page := Nat.max_eq_left hle
        rw [volumesFrom_of_le hle, pagesFrom_of_le hle, hend, hstart]
        exact ⟨rfl, .cons ⟨timeout, rfl⟩ .nil⟩
  | @goOn start nextPage left timeout reply volumes rest result _ hturn hrest ih =>
      rw [hstart] at hturn hattends
      have hshown := hattends.turnOf hpage hfits List.mem_cons_self
      rw [hturn] at hshown
      by_cases hbehind : page < catalogue.lastPage
      · rw [if_pos hbehind] at hshown
        cases hshown
        have hend : catalogue.endOf (page + 1) = catalogue.endOf page := by
          unfold endOf
          omega
        rw [← hend] at hfits ⊢
        obtain ⟨hresult, hpages⟩ := ih rfl (by omega) hfits hattends.rest
        rw [volumesFrom_of_lt hbehind, pagesFrom_of_lt hbehind, hresult, hstart]
        exact ⟨rfl, .cons ⟨timeout, rfl⟩ hpages⟩
      · rw [if_neg hbehind] at hshown
        cases hshown

end Catalogue

/-! ## Listings of a service -/

/-- The entry of a volume that is sized in whole gibibytes. -/
def Volume.wholeEntry (volume : Volume) : CsiVolume :=
  ⟨volume.id, .int (volume.gibibytes * Size.gib)⟩

/-- Volumes of a catalogue have entries in bytes. -/
theorem Catalogue.entries (catalogue : Catalogue) (page : Nat) :
    (catalogue.volumesFrom page).mapM Volume.entry =
      .ok ((catalogue.volumesFrom page).map Volume.wholeEntry) := by
  have hsized : ∀ volume ∈ catalogue.volumesFrom page,
      volume.entry = .ok volume.wholeEntry := by
    intro volume hvolume
    obtain ⟨place, -, hplace⟩ := List.mem_flatMap.1 hvolume
    unfold Volume.entry Volume.capacityBytes
    rw [catalogue.sized place volume hplace]
    rfl
  generalize catalogue.volumesFrom page = volumes at hsized ⊢
  induction volumes with
  | nil => rfl
  | cons volume rest ih =>
      rw [List.mapM_cons, hsized volume List.mem_cons_self, ok_bind,
        ih fun other hother => hsized other (List.mem_cons_of_mem volume hother)]
      rfl

/-- The response that lists a catalogue from a page on. -/
theorem Catalogue.respondListing (catalogue : Catalogue) {page : Nat}
    (hfits : Numeral.fits (catalogue.endOf page) = true) :
    VolumePlugin.respondListing (catalogue.volumesFrom page) (.int (catalogue.endOf page)) =
      .ok (.listing ((catalogue.volumesFrom page).map Volume.wholeEntry)
        (Numeral.text (catalogue.endOf page))) := by
  have hwritable : (Value.int (catalogue.endOf page)).isWritable = true := hfits
  unfold VolumePlugin.respondListing pageText
  rw [catalogue.entries, ok_bind, if_pos hwritable, Value.display_int]
  rfl

/-- A call that lists volumes from a token on, with so many entries per page. -/
def Call.listingFrom (entries : Nat) (token : String) : Call :=
  .listVolumes ⟨.int entries, .text token⟩

/-- What a request for a page of a catalogue asks for. -/
theorem rule_of_token {start entries : Nat} {token : String} (hstart : 1 ≤ start)
    (htoken : token = Numeral.text start ∨ start = 1 ∧ token = "")
    (hfits : (Numeral.digits start).length ≤ Numeral.digitLimit) :
    ListVolumesRequest.rule ⟨.int entries, .text token⟩ =
      .ok ((Value.int entries).orElse .null, (start : Int)) := by
  have hpage : pageOfToken (.text token) = .ok (start : Int) := by
    rcases htoken with rfl | ⟨rfl, rfl⟩
    · exact pageOfToken_text hstart hfits
    · rfl
  rw [ListVolumesRequest.rule_of_nonneg (Int.natCast_nonneg entries), hpage]
  rfl

namespace Service

/-- A listing of a catalogue is complete: it asks for all pages from the one of the token to the
last, once and in order, and responds with what is on them and with the number of the last. -/
theorem listing_of_catalogue (service : Service) (catalogue : Catalogue) (client : Client)
    (context : CallContext) (replies : List Reply) (start entries : Nat) (token : String)
    (hclient : service.setting.clientRule = .ok client)
    (hdefault : client.defaultTimeout.IsPositive)
    (hpatient : context.IsPatient)
    (hstart : 1 ≤ start)
    (htoken : token = Numeral.text start ∨ start = 1 ∧ token = "")
    (hfits : Numeral.fits (catalogue.endOf start) = true)
    (hprovider : ∀ turn ∈ service.exchanges (.listingFrom entries token) context replies,
      ∀ page : Nat, turn.1.page = page → catalogue.Shows page turn.2) :
    ∃ sent,
      (service.step (.call (.listingFrom entries token) context replies)).1.outcome =
        .answered
          (.ok {
            response := .listing ((catalogue.volumesFrom start).map Volume.wholeEntry)
              (Numeral.text (catalogue.endOf start)) })
          sent ∧
      List.Forall₂ (fun request page => ∃ timeout,
          request = pageRequest service.setting client ((Value.int entries).orElse .null)
            (page : Nat) timeout)
        sent (catalogue.pagesFrom start) := by
  obtain ⟨houtcome, transcript, after, hleads, hexchanges, outcome, hrun, hhandled⟩ :=
    service.outcome_of_supervised (.listingFrom entries token) context replies rfl
  have hsent := service.map_fst_exchanges (.listingFrom entries token) context replies
  rw [hexchanges] at hprovider hsent
  have hend := (Numeral.fits_natCast (catalogue.endOf start)).1 hfits
  have hrule : ListVolumesRequest.rule ⟨.int entries, .text token⟩ =
      .ok ((Value.int entries).orElse .null, (start : Int)) := by
    apply rule_of_token hstart htoken
    exact Nat.le_trans (Numeral.length_digits_mono (Nat.le_max_left _ _)) hend
  have hattends : catalogue.Attends client transcript := {
    toUndisturbed := hpatient.undisturbed hdefault "ListVolumes" rfl rfl hleads
    shows := hprovider }
  cases hrun with
  | invalid hinvalid =>
      rw [hrule] at hinvalid
      cases hinvalid
  | unready _ hunready =>
      rw [hclient] at hunready
      cases hunready
  | @listed perPage page client' _ result hrequest hclient' hpages =>
      rw [hrule] at hrequest
      rw [hclient] at hclient'
      cases hrequest
      cases hclient'
      obtain ⟨hresult, hasked⟩ := Catalogue.listing_complete hpages rfl hstart hend hattends
      rw [hsent] at hasked
      apply Exists.intro
      apply And.intro _ hasked
      rw [houtcome, hhandled, hresult, ok_bind, catalogue.respondListing hfits]
      rfl

end Service

/-! ## A catalogue of two pages -/

/-- A volume of an id and a size, as a listing describes it. -/
def Volume.plain (id : String) (size : Int) : Volume where
  id := .text id
  name := .text ""
  sizeGigabytes := .int size

/-- A catalogue of two pages with one volume on each. -/
def Catalogue.twoPages : Catalogue where
  lastPage := 2
  contents := fun page =>
    if page = 1 then [.plain "a" 1] else if page = 2 then [.plain "b" 16] else []
  base := "https://h"
  lastPage_pos := by decide
  contents_behind := by
    intro page hpage
    rw [if_neg (by omega), if_neg (by omega)]
  sized := by
    intro page volume hvolume
    split at hvolume
    · rw [List.mem_singleton.1 hvolume]
      rfl
    · split at hvolume
      · rw [List.mem_singleton.1 hvolume]
        rfl
      · cases hvolume
  isBase := ⟨['h'], rfl, List.forall_mem_singleton.2 (by decide)⟩

/-- The reply with the first of the two pages. -/
def firstOfTwo : Reply :=
  .answer 200 (String.join [
    "\x7b\"volumes\":[\x7b\"id\":\"a\",\"name\":\"\",\"size_gigabytes\":1\x7d],",
    "\"links\":\x7b\"pages\":\x7b\"next\":\"https://h?page=2&per_page=1\",",
    "\"last\":\"https://h?page=2&per_page=1\"\x7d\x7d\x7d"])

/-- The reply with the second of the two pages. -/
def secondOfTwo : Reply :=
  .answer 200 (String.join [
    "\x7b\"volumes\":[\x7b\"id\":\"b\",\"name\":\"\",\"size_gigabytes\":16\x7d],",
    "\"links\":\x7b\"pages\":\x7b\"prev\":\"https://h?page=1&per_page=1\"\x7d\x7d\x7d"])

theorem shows_firstOfTwo : Catalogue.twoPages.Shows 1 firstOfTwo := by
  apply Exists.intro (some {
    next := .text (pageAddress "https://h" 2 "1")
    last := .text (pageAddress "https://h" 2 "1") })
  apply And.intro
  · apply And.intro (by decide)
    rw [if_neg (by decide), if_pos (by decide)]
    exact ⟨rfl, ⟨"1", rfl⟩, ⟨"1", rfl⟩⟩
  · decide +kernel

theorem shows_secondOfTwo : Catalogue.twoPages.Shows 2 secondOfTwo := by
  apply Exists.intro (some { prev := .text (pageAddress "https://h" 1 "1") })
  apply And.intro
  · apply And.intro (by decide)
    rw [if_pos (by decide), if_neg (by decide)]
    exact ⟨⟨"1", rfl⟩, rfl, rfl⟩
  · decide +kernel

/-- The two pages are listed from the first one on. -/
theorem Service.twoPages_listed :
    ∃ sent,
      ((withToken "token").step
        (.call (.listingFrom 1 "") {} [firstOfTwo, secondOfTwo])).1.outcome =
        .answered
          (.ok {
            response := .listing
              [⟨.text "a", .int 1073741824⟩, ⟨.text "b", .int 17179869184⟩] "2" })
          sent ∧
      List.Forall₂ (fun request page => ∃ timeout,
          request = pageRequest (withToken "token").setting
            ⟨"https://api.digitalocean.com", "token", .int 30⟩ (.int 1) (page : Nat) timeout)
        sent [1, 2] := by
  have hpages : ((withToken "token").exchanges (.listingFrom 1 "") {}
      [firstOfTwo, secondOfTwo]).map (fun turn => (turn.1.page, turn.2)) =
        [(1, firstOfTwo), (2, secondOfTwo)] := by
    decide +kernel
  apply listing_of_catalogue (withToken "token") .twoPages
    ⟨"https://api.digitalocean.com", "token", .int 30⟩ {} [firstOfTwo, secondOfTwo] 1 1 ""
  · decide +kernel
  · exact ⟨.int 30, rfl, by decide⟩
  · exact CallContext.isPatient_default
  · decide
  · exact .inr ⟨rfl, rfl⟩
  · decide
  · intro turn hturn page hpage
    have hmember := List.mem_map_of_mem (f := fun turn => (turn.1.page, turn.2)) hturn
    rw [hpages, hpage] at hmember
    rcases List.mem_cons.1 hmember with hfirst | hsecond
    · obtain ⟨hone, hreply⟩ := Prod.mk.injEq _ _ _ _ ▸ hfirst
      have hpage' : page = 1 := by omega
      rw [hpage', hreply]
      exact shows_firstOfTwo
    · obtain ⟨htwo, hreply⟩ := Prod.mk.injEq _ _ _ _ ▸ List.mem_singleton.1 hsecond
      have hpage' : page = 2 := by omega
      rw [hpage', hreply]
      exact shows_secondOfTwo

end VolumePlugin
