/-
# Tokens that a listing starts with

A caller begins a listing with a token, which may be any text. A text of digits names a page. The
listing then goes on to the provider as it does without a token, from this page: apart from the page
that it asks for first, and the one that it may end with, it comes to what it comes to from the
first page. Any other text is refused as the caller's mistake, before the provider is asked.

A numeral is read up to a fixed number of digits only. A token that has more is a text of digits and
names no page, and the failure to read it is reported as one inside the plugin.
-/
import VolumePlugin.Proofs.ListingComplete
import VolumePlugin.Proofs.Precedence

namespace VolumePlugin

/-! ## What a listing comes to -/

/-- What a page comes to, by whether the caller waits, the time that it leaves and the reply. -/
def Client.turnAt (client : Client) (page : Int) (activity : Cue Bool) (clock : Cue Value)
    (reply : Reply) : Except Failure (List Volume × PageLinks.Position) := do
  if !activity.now then throw (.cancelled (.text "ListVolumes"))
  let _ ← client.timeFor "ListVolumes" clock.now
  client.turnOf page reply

/-- What a listing from a page on comes to by what the caller says and the replies that it hears.
Behind the last reply it hears silence, which shows no page. -/
def Client.listed (client : Client) :
    List Reply → Int → Cue Bool → Cue Value → Except Failure (List Volume × Int)
  | [], page, activity, clock => do
    let turn ← client.turnAt page activity clock Reply.silence
    return (turn.1, page)
  | reply :: rest, page, activity, clock => do
    let turn ← client.turnAt page activity clock reply
    match turn.2 with
    | .finished lastPage => return (turn.1, lastPage)
    | .goOn nextPage =>
      let later ← client.listed rest nextPage activity.next.2 clock.next.2
      return (turn.1 ++ later.1, later.2)

/-- A session that has a page in store begins with a caller that waits, the time and the reply, and
goes on with what is told and heard behind these. -/
theorem Session.Leads.of_turn {before after : Session} {left : Value} {request : Request}
    {reply : Reply} {rest : List Event}
    (hleads : before.Leads (.activity true :: .clock left :: .exchange request reply :: rest)
      after) :
    before.activity.now = true ∧ before.clock.now = left ∧
      before.replies.headD Reply.silence = reply ∧
      ∃ next : Session, next.Leads rest after ∧ next.replies = before.replies.tail ∧
        next.activity = before.activity.next.2 ∧ next.clock = before.clock.next.2 :=
  ⟨hleads.now_activity, hleads.now_both.2, hleads.2.2.1, _, hleads.2.2.2, rfl, rfl, rfl⟩

section Turns

variable {client : Client} {page : Int} {activity : Cue Bool} {clock : Cue Value} {reply : Reply}

/-- A page that the caller waits for and leaves time for comes to what its reply says. -/
theorem Client.turnAt_of_ready {timeout : Value} (hwaits : activity.now = true)
    (htime : client.timeFor "ListVolumes" clock.now = .ok timeout) :
    client.turnAt page activity clock reply = client.turnOf page reply := by
  rw [turnAt, hwaits, htime]
  rfl

/-- A listing whose first page fails does so as well. -/
theorem Client.listed_of_error {replies : List Reply} {failure : Failure}
    (hfailed : client.turnAt page activity clock (replies.headD Reply.silence) = .error failure) :
    client.listed replies page activity clock = .error failure := by
  cases replies with
  | nil =>
      rw [List.headD_nil] at hfailed
      rw [listed, hfailed, error_bind]
  | cons reply rest =>
      rw [List.headD_cons] at hfailed
      rw [listed, hfailed, error_bind]

/-- A page was shown by a reply, since silence shows none. -/
theorem Client.replies_of_turnOf {replies : List Reply} {turn : List Volume × PageLinks.Position}
    (hturn : client.turnOf page (replies.headD Reply.silence) = .ok turn) :
    ∃ reply rest, replies = reply :: rest := by
  cases replies with
  | nil =>
      rw [List.headD_nil, turnOf_silence] at hturn
      cases hturn
  | cons reply rest => exact ⟨reply, rest, rfl⟩

end Turns

/-- A run of a listing comes to what the caller says and the replies make of it. -/
theorem PagesRun.result_eq {setting : Setting} {client : Client} {perPage : Value} {page : Int}
    {transcript : List Event} {result : Except Failure (List Volume × Int)}
    (hrun : PagesRun setting client perPage page transcript result) {before after : Session}
    (hleads : before.Leads transcript after) :
    client.listed before.replies page before.activity before.clock = result := by
  -- The induction is on the run. A page that was shown took up the first of the replies that are
  -- left, and the session behind it has the others.
  induction hrun generalizing before with
  | cancelled =>
      apply Client.listed_of_error
      rw [Client.turnAt, hleads.now_activity]
      rfl
  | late htime =>
      obtain ⟨hwaits, hleft⟩ := hleads.now_both
      apply Client.listed_of_error
      rw [Client.turnAt, hwaits, hleft, htime]
      rfl
  | failed htime hturn =>
      obtain ⟨hwaits, rfl, rfl, -⟩ := hleads.of_turn
      apply Client.listed_of_error
      rw [Client.turnAt_of_ready hwaits htime, hturn]
  | finished htime hturn =>
      obtain ⟨hwaits, rfl, rfl, -⟩ := hleads.of_turn
      obtain ⟨reply, rest, hreplies⟩ := Client.replies_of_turnOf hturn
      rw [hreplies, List.headD_cons] at hturn
      rw [hreplies, Client.listed, Client.turnAt_of_ready hwaits htime, hturn]
      rfl
  | @goOn page nextPage left timeout reply volumes rest result htime hturn hrest ih =>
      obtain ⟨hwaits, rfl, rfl, next, hnext, hreplies', hactivity, hclock⟩ := hleads.of_turn
      obtain ⟨reply, later, hreplies⟩ := Client.replies_of_turnOf hturn
      rw [hreplies, List.headD_cons] at hturn
      rw [hreplies, List.tail_cons] at hreplies'
      have hlater := ih hnext
      rw [hreplies', hactivity, hclock] at hlater
      rw [hreplies, Client.listed, Client.turnAt_of_ready hwaits htime, hturn, ok_bind]
      dsimp only
      rw [hlater]
      cases result <;> rfl

/-! ## From one page or another -/

/-- Two pages that are both short enough to be written, or both too long. -/
def WrittenAlike (page other : Int) : Prop :=
  Numeral.fits page = Numeral.fits other

/-- What two pages come to by one reply, if it differs at most in the page that is the last. -/
inductive TurnAlike :
    Except Failure (List Volume × PageLinks.Position) →
      Except Failure (List Volume × PageLinks.Position) → Prop
  | failed (failure : Failure) : TurnAlike (.error failure) (.error failure)
  | finished (volumes : List Volume) {lastPage otherLast : Int}
      (hpages : WrittenAlike lastPage otherLast) :
      TurnAlike (.ok (volumes, .finished lastPage)) (.ok (volumes, .finished otherLast))
  | goOn (volumes : List Volume) (nextPage : Int) :
      TurnAlike (.ok (volumes, .goOn nextPage)) (.ok (volumes, .goOn nextPage))

/-- What two listings come to, if it differs at most in the page that is the last. -/
inductive ListedAlike :
    Except Failure (List Volume × Int) → Except Failure (List Volume × Int) → Prop
  | failed (failure : Failure) : ListedAlike (.error failure) (.error failure)
  | ended (volumes : List Volume) {lastPage otherLast : Int}
      (hpages : WrittenAlike lastPage otherLast) :
      ListedAlike (.ok (volumes, lastPage)) (.ok (volumes, otherLast))

theorem TurnAlike.refl (turn : Except Failure (List Volume × PageLinks.Position)) :
    TurnAlike turn turn := by
  match turn with
  | .error failure => exact .failed failure
  | .ok (volumes, .finished lastPage) => exact .finished volumes rfl
  | .ok (volumes, .goOn nextPage) => exact .goOn volumes nextPage

theorem ListedAlike.refl (listed : Except Failure (List Volume × Int)) :
    ListedAlike listed listed := by
  match listed with
  | .error failure => exact .failed failure
  | .ok (volumes, lastPage) => exact .ended volumes rfl

section Pages

variable {client : Client} {page other : Int}

theorem pageText_of_writtenAlike (hpages : WrittenAlike page other) :
    (∃ text otherText,
      pageText (.int page) = .ok text ∧ pageText (.int other) = .ok otherText) ∨
    ∃ failure,
      pageText (.int page) = .error failure ∧ pageText (.int other) = .error failure := by
  rw [pageText, pageText, Value.isWritable, Value.isWritable, hpages]
  cases Numeral.fits other with
  | true => exact .inl ⟨_, _, rfl, rfl⟩
  | false => exact .inr ⟨_, rfl, rfl⟩

/-- Only a page without links is the last one by what was asked for. -/
theorem Client.turnOf_alike (hpages : WrittenAlike page other) (reply : Reply) :
    TurnAlike (client.turnOf page reply) (client.turnOf other reply) := by
  rw [turnOf, turnOf]
  cases client.pageOf reply with
  | error failure => exact .failed failure
  | ok fetched =>
      rw [ok_bind, ok_bind]
      rcases pageText_of_writtenAlike hpages with
        ⟨text, otherText, htext, hother⟩ | ⟨failure, htext, hother⟩
      · rw [htext, hother, ok_bind, ok_bind]
        cases fetched.links with
        | none => exact .finished fetched.volumes hpages
        | some links => exact .refl _
      · rw [htext, hother]
        exact .failed failure

theorem Client.turnAt_alike (hpages : WrittenAlike page other) (activity : Cue Bool)
    (clock : Cue Value) (reply : Reply) :
    TurnAlike (client.turnAt page activity clock reply)
      (client.turnAt other activity clock reply) := by
  rw [turnAt, turnAt]
  cases activity.now with
  | false => exact .failed _
  | true =>
      cases client.timeFor "ListVolumes" clock.now with
      | error failure => exact .failed failure
      | ok timeout => exact client.turnOf_alike hpages reply

/-- Whatever is heard, a listing comes to the same from one page or another. -/
theorem Client.listed_alike (hpages : WrittenAlike page other) (replies : List Reply)
    (activity : Cue Bool) (clock : Cue Value) :
    ListedAlike (client.listed replies page activity clock)
      (client.listed replies other activity clock) := by
  have hturns := client.turnAt_alike hpages activity clock
  cases replies with
  | nil =>
      have hturn := hturns Reply.silence
      rw [listed, listed]
      generalize client.turnAt page activity clock Reply.silence = turn at hturn ⊢
      generalize client.turnAt other activity clock Reply.silence = otherTurn at hturn ⊢
      cases hturn with
      | failed failure => exact .failed failure
      | finished volumes | goOn volumes => exact .ended volumes hpages
  | cons reply rest =>
      have hturn := hturns reply
      rw [listed, listed]
      generalize client.turnAt page activity clock reply = turn at hturn ⊢
      generalize client.turnAt other activity clock reply = otherTurn at hturn ⊢
      cases hturn with
      | failed failure => exact .failed failure
      | finished volumes hlast => exact .ended volumes hlast
      | goOn volumes nextPage => exact .refl _

end Pages

/-- What two listings answer, if it differs at most in the token that is given back. -/
inductive AnsweredAlike : Except Failure Answer → Except Failure Answer → Prop
  | same (answer : Except Failure Answer) : AnsweredAlike answer answer
  | listed (entries : List CsiVolume) (token other : String) :
      AnsweredAlike (.ok { response := .listing entries token })
        (.ok { response := .listing entries other })

/-- Listings that come to the same answer the same. -/
theorem ListedAlike.answered {listed other : Except Failure (List Volume × Int)}
    (halike : ListedAlike listed other) :
    AnsweredAlike
      (settled (.listing [] "")
        ((do let listed ← listed; respondListing listed.1 (.int listed.2)).map
          ({ response := · })))
      (settled (.listing [] "")
        ((do let listed ← other; respondListing listed.1 (.int listed.2)).map
          ({ response := · }))) := by
  cases halike with
  | failed failure => exact .same _
  | ended volumes hpages =>
      rw [ok_bind, ok_bind, respondListing, respondListing]
      cases volumes.mapM Volume.entry with
      | error failure => exact .same _
      | ok entries =>
          rw [ok_bind, ok_bind]
          rcases pageText_of_writtenAlike hpages with
            ⟨text, otherText, htext, hother⟩ | ⟨failure, htext, hother⟩
          · rw [htext, hother]
            exact .listed entries text otherText
          · rw [htext, hother]
            exact .same _

/-! ## What a service answers to a token -/

/-- A token of more digits than are read names no page. -/
theorem pageOfToken_of_long {token : String} (hdigits : ∀ c ∈ token.toList, c.isDigit = true)
    (hlength : Numeral.digitLimit < token.length) :
    pageOfToken (.text token) = .error (.longNumeral (.read token.length)) := by
  rw [pageOfToken_of_isDigit hdigits, if_neg (Nat.not_le.2 hlength)]

namespace Service

variable (service : Service) (context : CallContext) (replies : List Reply)

/-- A valid listing with a client comes to what is told and heard. -/
theorem handled_of_listing {request : ListVolumesRequest} {perPage : Value} {page : Int}
    {client : Client} (hrequest : request.rule = .ok (perPage, page))
    (hclient : service.setting.clientRule = .ok client) :
    service.handled (.listVolumes request) context replies =
      (do
        let listed ← client.listed replies page context.activity context.clock
        respondListing listed.1 (.int listed.2)).map ({ response := · }) := by
  obtain ⟨-, transcript, after, hleads, -, outcome, hrun, hhandled⟩ :=
    service.outcome_of_supervised (.listVolumes request) context replies rfl
  rw [hhandled]
  cases hrun with
  | invalid hinvalid =>
      rw [hrequest] at hinvalid
      cases hinvalid
  | unready _ hunready =>
      rw [hclient] at hunready
      cases hunready
  | listed hasked hopened hrun =>
      rw [hrequest] at hasked
      rw [hclient] at hopened
      cases hasked
      cases hopened
      rw [← hrun.result_eq hleads]
      rfl

/-- Without a client it fails. -/
theorem handled_of_unready {request : ListVolumesRequest} {asked : Value × Int}
    {failure : Failure} (hrequest : request.rule = .ok asked)
    (hclient : service.setting.clientRule = .error failure) :
    service.handled (.listVolumes request) context replies = .error failure := by
  obtain ⟨-, transcript, after, hleads, -, outcome, hrun, hhandled⟩ :=
    service.outcome_of_supervised (.listVolumes request) context replies rfl
  rw [hhandled]
  cases hrun with
  | invalid hinvalid =>
      rw [hrequest] at hinvalid
      cases hinvalid
  | unready _ hunready =>
      rw [hclient] at hunready
      cases hunready
      rfl
  | listed _ hopened =>
      rw [hclient] at hopened
      cases hopened

/-- A listing that starts with a token goes on to the provider from a page. It asks for this page
first, and it asks where there is a client and the caller waits and leaves time, whatever the token
is. What it answers differs from what it answers without a token at most in the token that is given
back. -/
structure ListsFrom (entries : Nat) (token : String) (page : Int) : Prop where
  names : pageOfToken (.text token) = .ok page
  fromFirst : 1 ≤ page
  asks : ∀ turn,
    (service.exchanges (.listingFrom entries token) context replies).head? = some turn →
      turn.1.page = page
  goesOn : service.requestsOf (.listingFrom entries token) context replies ≠ [] ↔
    ∃ client timeout, service.setting.clientRule = .ok client ∧ context.activity.now = true ∧
      client.timeFor "ListVolumes" context.clock.now = .ok timeout
  ends : ∃ answer other,
    (service.step (.call (.listingFrom entries token) context replies)).1.outcome =
      .answered answer (service.requestsOf (.listingFrom entries token) context replies) ∧
    (service.step (.call (.listingFrom entries "") context replies)).1.outcome =
      .answered other (service.requestsOf (.listingFrom entries "") context replies) ∧
    AnsweredAlike answer other

/-- A listing that starts with a token ends with a status and details, and asks nothing. -/
def EndsFor (entries : Nat) (token : String) (status : Status) (details : String) : Prop :=
  (service.step (.call (.listingFrom entries token) context replies)).1.outcome =
    .answered (.ok {
      response := .listing [] ""
      status := some status
      details := some details }) []

variable {service context replies} {entries : Nat} {token other : String} {page : Int}

/-- A token that names a page leaves a valid request. -/
theorem rule_of_named (hpage : pageOfToken (.text token) = .ok page) :
    ListVolumesRequest.rule ⟨.int entries, .text token⟩ =
      .ok ((Value.int entries).orElse .null, page) := by
  rw [ListVolumesRequest.rule_of_nonneg (Int.natCast_nonneg entries), hpage]
  rfl

/-- What is answered to one token that names a page is answered to any other. -/
theorem answeredAlike_of_named {otherPage : Int}
    (hpage : pageOfToken (.text token) = .ok page)
    (hother : pageOfToken (.text other) = .ok otherPage) :
    AnsweredAlike
      (settled (.listing [] "") (service.handled (.listingFrom entries token) context replies))
      (settled (.listing [] "")
        (service.handled (.listingFrom entries other) context replies)) := by
  rw [Call.listingFrom, Call.listingFrom]
  cases hclient : service.setting.clientRule with
  | error failure =>
      rw [service.handled_of_unready context replies (rule_of_named hpage) hclient,
        service.handled_of_unready context replies (rule_of_named hother) hclient]
      exact .same _
  | ok client =>
      -- Both pages are short enough, since their tokens were short enough to be read.
      have hpages : WrittenAlike page otherPage :=
        (fits_of_pageOfToken hpage).trans (fits_of_pageOfToken hother).symm
      rw [service.handled_of_listing context replies (rule_of_named hpage) hclient,
        service.handled_of_listing context replies (rule_of_named hother) hclient]
      exact (client.listed_alike hpages replies context.activity context.clock).answered

/-- A token that names a page leads to the provider. -/
theorem listsFrom_of_named (hpage : pageOfToken (.text token) = .ok page) :
    service.ListsFrom context replies entries token page where
  names := hpage
  fromFirst := firstPage_le_of_pageOfToken hpage
  asks turn hturn := by
    obtain ⟨-, transcript, after, -, hexchanges, outcome, hrun, -⟩ :=
      service.outcome_of_supervised (.listingFrom entries token) context replies rfl
    rw [hexchanges] at hturn
    have hfirst := hrun.leadsOn.1 turn hturn
    rw [hpage] at hfirst
    exact (Except.ok.inj hfirst).symm
  goesOn := by
    have hprovider : (Call.listingFrom entries token).asksProvider = true := rfl
    have hvalid : (Call.listingFrom entries token).validation = .ok () := by
      rw [Call.listingFrom, Call.validation, rule_of_named hpage]
      rfl
    rw [service.requestsOf_ne_nil_iff context replies hprovider, Call.preflight, hvalid, ok_bind]
    constructor
    · rintro ⟨timeout, hready⟩
      obtain ⟨client, hclient, hready⟩ := bind_eq_ok.1 hready
      cases hwaits : context.activity.now with
      | false =>
          rw [hwaits] at hready
          cases hready
      | true =>
          rw [hwaits] at hready
          exact ⟨client, timeout, hclient, rfl, hready⟩
    · rintro ⟨client, timeout, hclient, hwaits, htime⟩
      refine ⟨timeout, ?_⟩
      rw [hclient, ok_bind, hwaits]
      exact htime
  ends := by
    obtain ⟨houtcome, -⟩ :=
      service.outcome_of_supervised (.listingFrom entries token) context replies rfl
    obtain ⟨hother, -⟩ :=
      service.outcome_of_supervised (.listingFrom entries "") context replies rfl
    exact ⟨_, _, houtcome, hother, answeredAlike_of_named hpage rfl⟩

/-- A request that its token makes invalid ends for it. -/
theorem endsFor_of_error {failure : Failure} (htoken : pageOfToken (.text token) = .error failure) :
    service.EndsFor context replies entries token failure.ownStatus failure.message := by
  have hprovider : (Call.listingFrom entries token).asksProvider = true := rfl
  have hinvalid : (Call.listingFrom entries token).validation = .error failure := by
    rw [Call.listingFrom, Call.validation,
      ListVolumesRequest.rule_of_nonneg (Int.natCast_nonneg entries), htoken]
    rfl
  apply (service.outcome_of_preflight context replies hprovider).1
  rw [Call.preflight, hinvalid, error_bind]

/-- A token that is refused for anything but its form neither leads to the provider nor is the
caller's mistake. -/
theorem not_resolved_of_error {failure : Failure}
    (htoken : pageOfToken (.text token) = .error failure) (hstatus : failure.ownStatus ≠ .aborted)
    (details : String) :
    ¬ ((∃ page, service.ListsFrom context replies entries token page) ∨
      service.EndsFor context replies entries token .aborted details) := by
  rintro (⟨page, hlists⟩ | haborted)
  · have hpage := hlists.names
    rw [htoken] at hpage
    cases hpage
  · have hends : service.EndsFor context replies entries token failure.ownStatus _ :=
      endsFor_of_error htoken
    rw [EndsFor] at haborted hends
    rw [haborted, Outcome.answered.injEq, Except.ok.injEq, Answer.mk.injEq,
      Option.some.injEq] at hends
    exact hstatus hends.1.2.1.symm

/-- What a token does to a listing. One of digits names the page that they spell, from the first
page on, as long as there are no more of them than are read, and the listing goes on to the provider
from this page. A token in which anything else stands ends the listing as the caller's mistake. One
of more digits ends it as a failure inside the plugin. So the caller is answered well or told of the
mistake just where the token is none of too many digits. -/
theorem token_resolved_or_refused (service : Service) (context : CallContext)
    (replies : List Reply) (entries : Nat) (token : String) :
    ((∀ c ∈ token.toList, c.isDigit = true) → token.length ≤ Numeral.digitLimit →
      service.ListsFrom context replies entries token
        (max (Numeral.ofDigits (token.toList.map Text.valueOfDigit) : Int) 1)) ∧
    ((¬ ∀ c ∈ token.toList, c.isDigit = true) →
      service.EndsFor context replies entries token .aborted
        (String.join ["invalid starting token : ", token, ", expected a page number"])) ∧
    ((∀ c ∈ token.toList, c.isDigit = true) → Numeral.digitLimit < token.length →
      service.EndsFor context replies entries token .internal
        (Failure.longNumeral (.read token.length)).message) ∧
    ((∃ page, service.ListsFrom context replies entries token page) ∨
        service.EndsFor context replies entries token .aborted
          (String.join ["invalid starting token : ", token, ", expected a page number"]) ↔
      ¬ ((∀ c ∈ token.toList, c.isDigit = true) ∧ Numeral.digitLimit < token.length)) := by
  have hnamed (hdigits : ∀ c ∈ token.toList, c.isDigit = true)
      (hlength : token.length ≤ Numeral.digitLimit) :
      service.ListsFrom context replies entries token
        (max (Numeral.ofDigits (token.toList.map Text.valueOfDigit) : Int) 1) := by
    apply listsFrom_of_named
    rw [pageOfToken_of_isDigit hdigits, if_pos hlength]
    rfl
  have hrefused (hother : ¬ ∀ c ∈ token.toList, c.isDigit = true) :
      service.EndsFor context replies entries token .aborted
        (String.join ["invalid starting token : ", token, ", expected a page number"]) :=
    endsFor_of_error (pageOfToken_of_not_isDigit hother)
  refine ⟨hnamed, hrefused, ?_, ?_, ?_⟩
  · intro hdigits hlength
    exact endsFor_of_error (pageOfToken_of_long hdigits hlength)
  · rintro hends ⟨hdigits, hlength⟩
    exact not_resolved_of_error (pageOfToken_of_long hdigits hlength) nofun _ hends
  · intro hshort
    by_cases hdigits : ∀ c ∈ token.toList, c.isDigit = true
    · exact .inl ⟨_, hnamed hdigits (Nat.not_lt.1 fun hlength => hshort ⟨hdigits, hlength⟩)⟩
    · exact .inr (hrefused hdigits)

/-- A token with leading zeros names the page of its number, and a digit that is not of the ASCII
range names none. -/
theorem seventh_page_resolved :
    (withToken "token").ListsFrom {} [] 20 "007" 7 ∧
      (withToken "token").EndsFor {} [] 20 "\u0667" .aborted
        "invalid starting token : \u0667, expected a page number" := by
  obtain ⟨hseven, -⟩ := token_resolved_or_refused (withToken "token") {} [] 20 "007"
  obtain ⟨-, hforeign, -⟩ := token_resolved_or_refused (withToken "token") {} [] 20 "\u0667"
  have hdigits : ∀ c ∈ "007".toList, c.isDigit = true := List.all_eq_true.1 (by decide)
  have hother : ¬ ∀ c ∈ "\u0667".toList, c.isDigit = true := mt List.all_eq_true.2 (by decide)
  exact ⟨hseven hdigits (by decide), hforeign hother⟩

/-- A token of 4301 digits is neither resolved nor told to the caller as a mistake. -/
theorem long_token_fails_inside :
    ¬ ((∃ page, (withToken "token").ListsFrom {} [.answer 200 "\x7b\x7d"] 0
          (String.ofList (List.replicate 4301 '1')) page) ∨
        (withToken "token").EndsFor {} [.answer 200 "\x7b\x7d"] 0
          (String.ofList (List.replicate 4301 '1')) .aborted
          (String.join ["invalid starting token : ", String.ofList (List.replicate 4301 '1'),
            ", expected a page number"])) ∧
      (withToken "token").EndsFor {} [.answer 200 "\x7b\x7d"] 0
        (String.ofList (List.replicate 4301 '1')) .internal
        (Failure.longNumeral (.read 4301)).message := by
  have hlong : pageOfToken (.text (String.ofList (List.replicate 4301 '1'))) =
      .error (.longNumeral (.read 4301)) := by
    have hdigits : ∀ c ∈ (String.ofList (List.replicate 4301 '1')).toList, c.isDigit = true := by
      intro c hc
      rw [String.toList_ofList] at hc
      rw [List.eq_of_mem_replicate hc]
      rfl
    have hlength : (String.ofList (List.replicate 4301 '1')).length = 4301 := by
      rw [String.length_ofList, List.length_replicate]
    rw [pageOfToken_of_isDigit hdigits, hlength]
    rfl
  exact ⟨not_resolved_of_error hlong nofun _, endsFor_of_error hlong⟩

end Service

end VolumePlugin
