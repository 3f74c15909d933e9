/-
# Callers that give up

A listing asks before each page whether its caller still waits, and before it looks at the time. A
creation asks once, and only where the provider has shown that there is no volume of the name. Where
the caller has given up by then, the call sends nothing more and is answered as cancelled.

Where nothing is asked, nothing depends on the caller: the volumes of a name that were found lead to
the same answer whatever the caller would have said.
-/
import VolumePlugin.Proofs.CreationOutcome
import VolumePlugin.Proofs.RequestTime

namespace VolumePlugin

/-! ## Listings -/

/-- The reply to a request for a page leads on to another page: it shows a page that is not the last
one by its links, and these name it by a number. The number of the page that was asked for goes to
the log, so that it must be one that can be written. -/
def GoesOn (turn : Request × Reply) : Prop :=
  (∃ page links current, turn.2.shown = .ok page ∧ page.links = some links ∧
    links.isLast = false ∧ links.currentPage = .ok current) ∧
  ∃ text, pageText (.int turn.1.page) = .ok text

/-- The number of a page can be written where the number that is written for it can. -/
theorem pageText_writtenPage {page : Int} :
    (∃ text, pageText (.int (writtenPage page)) = .ok text) ↔
      ∃ text, pageText (.int page) = .ok text := by
  unfold writtenPage
  split
  · rename_i hzero
    rw [hzero]
    exact iff_of_true ⟨"1", rfl⟩ ⟨"0", rfl⟩
  · rfl

/-- A listing goes on behind the replies that lead on. -/
theorem goesOn_pageRequest {setting : Setting} {client : Client} {perPage timeout : Value}
    {page : Int} {reply : Reply} :
    GoesOn (pageRequest setting client perPage page timeout, reply) ↔
      ∃ volumes nextPage, client.turnOf page reply = .ok (volumes, .goOn nextPage) := by
  rw [GoesOn, page_pageRequest, pageText_writtenPage]
  constructor
  · rintro ⟨⟨fetched, links, current, hshown, hlinks, hmore, hcurrent⟩, text, htext⟩
    refine ⟨fetched.volumes, current + 1, ?_⟩
    rw [Client.turnOf, (client.pageOf_eq_ok_iff reply fetched).2 hshown, ok_bind, htext, ok_bind,
      hlinks, PageLinks.position, hcurrent, ok_bind, hmore]
    rfl
  · rintro ⟨volumes, nextPage, hturn⟩
    obtain ⟨fetched, hshown, -, hposition⟩ := Client.shown_of_turnOf hturn
    obtain ⟨links, current, hlinks, hmore, hcurrent, -⟩ := PageLinks.of_position_goOn hposition
    obtain ⟨_, -, hrest⟩ := bind_eq_ok.1 hturn
    obtain ⟨text, htext, -⟩ := bind_eq_ok.1 hrest
    exact ⟨⟨fetched, links, current, hshown, hlinks, hmore, hcurrent⟩, text, htext⟩

section Pages

variable {setting : Setting} {client : Client} {perPage : Value} {page : Int}
  {transcript : List Event} {result : Except Failure (List Volume × Int)} {session after : Session}

/-- A request for a page is sent to a caller that waits and has waited at all pages before, each of
which led on. -/
theorem PagesRun.sent_while_waiting (hrun : PagesRun setting client perPage page transcript result)
    (hleads : session.Leads transcript after) {i : Nat} (hi : i < (exchangesOf transcript).length) :
    (∀ j ≤ i, session.activity.told j = true) ∧
      ∀ j < i, ∃ turn, (exchangesOf transcript)[j]? = some turn ∧ GoesOn turn := by
  induction hrun generalizing session i with
  | cancelled | late => cases hi
  | failed | finished =>
      obtain rfl := Nat.lt_one_iff.1 hi
      refine ⟨fun j hj => ?_, nofun⟩
      obtain rfl := Nat.le_zero.1 hj
      exact session.activity.told_zero.trans hleads.1
  | goOn htime hturn hrest ih =>
      have hwaits : session.activity.told 0 = true := session.activity.told_zero.trans hleads.1
      cases i with
      | zero =>
          refine ⟨fun j hj => ?_, nofun⟩
          obtain rfl := Nat.le_zero.1 hj
          exact hwaits
      | succ i =>
          obtain ⟨hrestWaits, hrestOn⟩ := ih hleads.2.2.2 (Nat.lt_of_succ_lt_succ hi)
          constructor
          · intro j hj
            cases j with
            | zero => exact hwaits
            | succ j =>
                rw [Cue.told_succ]
                exact hrestWaits j (Nat.le_of_succ_le_succ hj)
          · intro j hj
            cases j with
            | zero => exact ⟨_, rfl, goesOn_pageRequest.2 ⟨_, _, hturn⟩⟩
            | succ j => exact hrestOn j (Nat.lt_of_succ_lt_succ hj)

/-- A listing whose caller has given up where its pages lead on so far sends nothing more and is
cancelled, whatever the clock says. -/
theorem PagesRun.cancelled_at (hrun : PagesRun setting client perPage page transcript result)
    (hleads : session.Leads transcript after) {i : Nat}
    (hon : ∀ j < i, ∃ turn, (exchangesOf transcript)[j]? = some turn ∧ GoesOn turn)
    (hgone : session.activity.told i = false) :
    (exchangesOf transcript).length = i ∧ result = .error (.cancelled (.text "ListVolumes")) := by
  -- A caller that waits at the first page gives up at a later one, which the reply has to lead on
  -- to. So the induction is on the pages, with one place less to come behind each.
  have hlater {session : Session} {rest : List Event} {i : Nat}
      (hleads : session.Leads (.activity true :: rest) after)
      (hgone : session.activity.told i = false) :
      ∃ fewer, i = fewer + 1 ∧ session.askActivity.2.activity.told fewer = false := by
    cases i with
    | zero =>
        rw [Cue.told_zero] at hgone
        exact (Bool.noConfusion (hleads.1.symm.trans hgone) : False).elim
    | succ fewer =>
        rw [Cue.told_succ] at hgone
        exact ⟨fewer, rfl, hgone⟩
  induction hrun generalizing session i with
  | cancelled =>
      cases i with
      | zero => exact ⟨rfl, rfl⟩
      | succ i =>
          obtain ⟨turn, himpossible, -⟩ := hon 0 (Nat.succ_pos i)
          cases himpossible
  | late =>
      obtain ⟨i, rfl, -⟩ := hlater hleads hgone
      obtain ⟨turn, himpossible, -⟩ := hon 0 (Nat.succ_pos i)
      cases himpossible
  | failed htime hturn | finished htime hturn =>
      obtain ⟨i, rfl, -⟩ := hlater hleads hgone
      obtain ⟨turn, hfirst, hgoes⟩ := hon 0 (Nat.succ_pos i)
      cases hfirst
      obtain ⟨_, _, hother⟩ := goesOn_pageRequest.1 hgoes
      rw [hturn] at hother
      cases hother
  | goOn htime hturn hrest ih =>
      obtain ⟨i, rfl, hrestGone⟩ := hlater hleads hgone
      obtain ⟨hlength, rfl⟩ := ih hleads.2.2.2
        (fun j hj => hon (j + 1) (Nat.succ_lt_succ hj)) hrestGone
      exact ⟨congrArg Nat.succ hlength, rfl⟩

end Pages

/-! ## Creations -/

/-- The first exchange shows that there are no volumes. -/
def ShowsNone (turns : List (Request × Reply)) : Prop :=
  ∃ turn page, turns.head? = some turn ∧ turn.2.shown = .ok page ∧ page.volumes = []

/-- Exchanges begin with one that shows no volumes where a client finds none in its reply. -/
theorem showsNone_cons_iff (client : Client) (name : Value) {request : Request} {reply : Reply}
    {rest : List (Request × Reply)} :
    ShowsNone ((request, reply) :: rest) ↔ client.find name reply = .ok none := by
  simp [ShowsNone, Client.find, bind_eq_ok, Client.pageOf_eq_ok_iff, volumeOfName_eq_none_iff]

theorem not_showsNone_nil : ¬ ShowsNone [] := by
  rintro ⟨turn, page, himpossible, -⟩
  cases himpossible

section Runs

variable {setting : Setting} {client : Client} {name gigabytes : Value} {transcript : List Event}
  {result : Except Failure Response} {session after : Session}

/-- Before a volume is created the caller is asked once. -/
theorem NewVolumeRun.activity_left
    (hrun : NewVolumeRun setting client name gigabytes transcript result)
    (hleads : session.Leads transcript after) : after.activity = session.activity.next.2 := by
  cases hrun with
  | cancelled => exact Session.Alike.activity hleads.2
  | late => exact Session.Alike.activity hleads.2.2
  | asked => exact Session.Alike.activity hleads.2.2.2

/-- Behind the reply to its listing a creation asks its caller where this shows no volumes, and else
not. -/
theorem ListedRun.activity_left {reply : Reply}
    (hrun : ListedRun setting client name gigabytes reply transcript result)
    (hleads : session.Leads transcript after) :
    (client.find name reply = .ok none → after.activity = session.activity.next.2) ∧
      (client.find name reply ≠ .ok none → after.activity = session.activity) := by
  cases hrun with
  | unlisted hpage =>
      rw [Client.find, hpage]
      refine ⟨?_, fun _ => Session.Alike.activity hleads⟩
      intro himpossible
      cases himpossible
  | unfit hpage hvolume | found hpage hvolume =>
      rw [Client.find, hpage, ok_bind, hvolume]
      refine ⟨?_, fun _ => Session.Alike.activity hleads⟩
      intro himpossible
      cases himpossible
  | absent hpage hvolume hrest =>
      rw [Client.find, hpage, ok_bind, hvolume]
      exact ⟨fun _ => hrest.activity_left hleads, fun hsome => (hsome rfl).elim⟩

/-- A creation asks its caller once where it was shown that there are no volumes, and else not. -/
theorem CreationRun.activity_left {request : CreateVolumeRequest}
    (hrun : CreationRun request setting transcript result)
    (hleads : session.Leads transcript after) :
    (ShowsNone (exchangesOf transcript) → after.activity = session.activity.next.2) ∧
      (¬ ShowsNone (exchangesOf transcript) → after.activity = session.activity) := by
  cases hrun with
  | invalid | unready =>
      exact ⟨fun hnone => (not_showsNone_nil hnone).elim, fun _ => Session.Alike.activity hleads⟩
  | late =>
      have hquiet : session.askClock.2.Alike after := hleads.2
      exact ⟨fun hnone => (not_showsNone_nil hnone).elim, fun _ => hquiet.activity⟩
  | @listed name gigabytes client _ timeout _ _ _ _ _ _ hrest =>
      have hleft : _ ∧ _ := hrest.activity_left hleads.2.2
      simp only [exchangesOf_clock, exchangesOf_exchange, showsNone_cons_iff client name]
      exact hleft

end Runs

namespace Contender

/-- The contender whose caller says something else on whether it waits. -/
def heeding (contender : Contender) (activity : Cue Bool) : Contender :=
  { contender with context := { contender.context with activity := activity } }

variable {contender : Contender} {name gigabytes timeout : Value} {client : Client}

/-- What makes a contender ready has nothing to do with whether its caller waits. -/
theorem Ready.heeding (hready : contender.Ready name gigabytes client timeout)
    (activity : Cue Bool) : (contender.heeding activity).Ready name gigabytes client timeout :=
  ⟨hready.asks, hready.opens, hready.inTime⟩

/-- A contender that is ready is shown that there are no volumes where its client finds none. -/
theorem Ready.showsNone_iff (hready : contender.Ready name gigabytes client timeout)
    (heard : List Reply) :
    ShowsNone (contender.service.exchanges contender.call contender.context heard) ↔
      client.find name (heard.headD Reply.silence) = .ok none := by
  have hfirst : (contender.service.exchanges contender.call contender.context heard).head? =
      some (nameRequest contender.service.setting client name timeout,
        heard.headD Reply.silence) := by
    rw [List.head?_eq_getElem?, getElem?_turns, requestsOf_eq, getElem?_script_zero,
      hready.listingRequest]
    cases heard <;> rfl
  obtain ⟨rest, hturns⟩ := List.head?_eq_some_iff.1 hfirst
  rw [hturns, showsNone_cons_iff client name]

/-- A contender that is shown that there are no volumes is ready. -/
theorem ready_of_showsNone (contender : Contender) {heard : List Reply}
    (hnone : ShowsNone (contender.service.exchanges contender.call contender.context heard)) :
    ∃ name gigabytes client timeout, contender.Ready name gigabytes client timeout ∧
      client.find name (heard.headD Reply.silence) = .ok none := by
  rcases contender.ready_or_refused with
    ⟨name, gigabytes, client, timeout, hready⟩ | ⟨failure, hrefused⟩
  · exact ⟨name, gigabytes, client, timeout, hready, (hready.showsNone_iff heard).1 hnone⟩
  · rw [Service.exchanges, requestsOf_eq, script, hrefused] at hnone
    exact (not_showsNone_nil hnone).elim

/-- The answer and the requests of a contender depend on whether its caller waits in one place: by
what is said first, where there are no volumes. -/
theorem outcome_heeding (contender : Contender) (activity : Cue Bool) (heard : List Reply)
    (hsame : ShowsNone (contender.service.exchanges contender.call contender.context heard) →
      activity.now = contender.context.activity.now) :
    ((contender.heeding activity).service.step (.call (contender.heeding activity).call
        (contender.heeding activity).context heard)).1.outcome =
      (contender.service.step (.call contender.call contender.context heard)).1.outcome := by
  rcases contender.ready_or_refused with
    ⟨name, gigabytes, client, timeout, hready⟩ | ⟨failure, hrefused⟩
  · have hready' := hready.heeding activity
    cases hfound : client.find name (heard.headD Reply.silence) with
    | error failure =>
        exact (hready'.step_of_error heard hfound).trans (hready.step_of_error heard hfound).symm
    | ok found =>
        cases found with
        | some volume =>
            exact (hready'.step_of_some heard hfound).trans (hready.step_of_some heard hfound).symm
        | none =>
            have hnow : (contender.heeding activity).context.activity.now =
                contender.context.activity.now := hsame ((hready.showsNone_iff heard).2 hfound)
            rw [outcome_step, hready'.outcome, script, hready'.listingRequest,
              hready'.postingRequest, hnow, outcome_step, hready.outcome, script,
              hready.listingRequest, hready.postingRequest]
            rfl
  · exact ((contender.heeding activity).step_of_refused hrefused heard).trans
      (contender.step_of_refused hrefused heard).symm

end Contender

/-! ## Calls of a service -/

namespace Service

variable (service : Service) (call : Call) (context : CallContext) (replies : List Reply)

/-- What the caller of a call has not said yet, on whether it waits, when the call is over. Where
there is more to say at each question, this tells how often the caller was asked. -/
def activityLeft : Cue Bool :=
  ((call.perform service.setting).runIn (service.sessionFor context replies)).2.activity

/-- A listing comes to asking for a page at a place: its request is valid, there is a client, and it
has asked for the pages before, each of which led on. -/
structure ComesTo (request : ListVolumesRequest) (i : Nat) : Prop where
  asks : ∃ asked, request.rule = .ok asked
  opens : ∃ client, service.setting.clientRule = .ok client
  goesOn : ∀ j < i, ∃ turn,
    (service.exchanges (.listVolumes request) context replies)[j]? = some turn ∧ GoesOn turn

/-- A listing sends a request where it comes to a page and its caller waits, as it has before. -/
theorem comesTo_of_sent {request : ListVolumesRequest} {i : Nat}
    (hi : i < (service.requestsOf (.listVolumes request) context replies).length) :
    service.ComesTo context replies request i ∧ ∀ j ≤ i, context.activity.told j = true := by
  obtain ⟨transcript, hleads, hexchanges, outcome, hrun, -⟩ :=
    service.run_of_supervised (.listVolumes request) context replies rfl
  rw [← map_fst_exchanges, List.length_map, hexchanges] at hi
  cases hrun with
  | invalid | unready => cases hi
  | listed hasks hopens hrun =>
      obtain ⟨hwaits, hon⟩ := hrun.sent_while_waiting hleads hi
      refine ⟨⟨⟨_, hasks⟩, ⟨_, hopens⟩, ?_⟩, hwaits⟩
      rw [hexchanges]
      exact hon

/-- A listing that comes to a page for which its caller does not wait any longer is cancelled. -/
theorem cancelled_of_comesTo {request : ListVolumesRequest} {i : Nat}
    (hcomes : service.ComesTo context replies request i)
    (hgone : context.activity.told i = false) :
    (service.requestsOf (.listVolumes request) context replies).length = i ∧
      service.handled (.listVolumes request) context replies =
        .error (.cancelled (.text "ListVolumes")) := by
  obtain ⟨⟨asked, hasks⟩, ⟨client, hopens⟩, hon⟩ := hcomes
  obtain ⟨transcript, hleads, hexchanges, outcome, hrun, hhandled⟩ :=
    service.run_of_supervised (.listVolumes request) context replies rfl
  rw [← map_fst_exchanges, List.length_map, hexchanges, hhandled]
  cases hrun with
  | invalid hinvalid =>
      rw [hasks] at hinvalid
      cases hinvalid
  | unready _ hunready =>
      rw [hopens] at hunready
      cases hunready
  | listed _ _ hrun =>
      rw [hexchanges] at hon
      obtain ⟨hlength, rfl⟩ := hrun.cancelled_at hleads hon hgone
      exact ⟨hlength, rfl⟩

/-- How calls heed a caller that gives up. A listing asks for a page only where the pages so far led
on to it and the caller waits, now and at all pages before. Where it comes to a page and the caller
has given up, it sends nothing more and is answered as cancelled, whatever the clock says. A
creation asks the caller once where it was shown that there are no volumes of the name: it depends
on this word alone, and where the caller has given up nothing is posted and the call is answered as
cancelled. Otherwise it does not ask, and depends on nothing that the caller would say. -/
theorem heeds_caller (listing : ListVolumesRequest) (creation : CreateVolumeRequest) :
    (∀ i, i < (service.requestsOf (.listVolumes listing) context replies).length →
      service.ComesTo context replies listing i ∧ ∀ j ≤ i, context.activity.told j = true) ∧
    (∀ i, service.ComesTo context replies listing i → context.activity.told i = false →
      ∃ sent, sent.length = i ∧
        service.AnswersAfter (.listVolumes listing) context replies sent {
          response := .listing [] ""
          status := some .cancelled
          details := some (Failure.cancelled (.text "ListVolumes")).message }) ∧
    (ShowsNone (service.exchanges (.createVolume creation) context replies) →
      service.activityLeft (.createVolume creation) context replies =
          context.activity.next.2 ∧
        (∀ activity : Cue Bool, activity.now = context.activity.now →
          (service.step (.call (.createVolume creation) { context with activity := activity }
              replies)).1.outcome =
            (service.step (.call (.createVolume creation) context replies)).1.outcome) ∧
        (context.activity.now = false → ∃ listed : Request, listed.method = .get ∧
          service.AnswersAfter (.createVolume creation) context replies [listed] {
            response := .creation none
            status := some .cancelled
            details := some (Failure.cancelled (.text "CreateVolume")).message })) ∧
    (¬ ShowsNone (service.exchanges (.createVolume creation) context replies) →
      service.activityLeft (.createVolume creation) context replies = context.activity ∧
        ∀ activity : Cue Bool,
          (service.step (.call (.createVolume creation) { context with activity := activity }
              replies)).1.outcome =
            (service.step (.call (.createVolume creation) context replies)).1.outcome) := by
  let contender : Contender := ⟨service, creation, context⟩
  obtain ⟨transcript, hleads, hexchanges, outcome, hrun, -⟩ :=
    service.run_of_supervised (.createVolume creation) context replies rfl
  obtain ⟨hasked, hunasked⟩ := hrun.activity_left hleads
  refine ⟨fun i => service.comesTo_of_sent context replies, ?_, ?_, ?_⟩
  · intro i hcomes hgone
    obtain ⟨hlength, hhandled⟩ := service.cancelled_of_comesTo context replies hcomes hgone
    obtain ⟨houtcome, -⟩ :=
      service.outcome_of_supervised (.listVolumes listing) context replies rfl
    refine ⟨_, hlength, houtcome.trans ?_⟩
    rw [hhandled]
    rfl
  · intro hnone
    refine ⟨?_, ?_, ?_⟩
    · rw [hexchanges] at hnone
      exact hasked hnone
    · intro activity hnow
      exact contender.outcome_heeding activity replies fun _ => hnow
    · intro hgone
      obtain ⟨name, gigabytes, client, timeout, hready, hfound⟩ :=
        contender.ready_of_showsNone hnone
      exact ⟨_, rfl, hready.step_of_gone replies hfound hgone⟩
  · intro hsome
    constructor
    · rw [hexchanges] at hsome
      exact hunasked hsome
    · intro activity
      exact contender.outcome_heeding activity replies fun hnone => (hsome hnone).elim

/-- A listing of two pages whose caller gives up behind the first one, when no time is left either,
is cancelled with one request sent. So is a creation of which the caller has given up by the time
that no volume was found. -/
theorem second_page_unasked :
    (∃ sent, sent.length = 1 ∧
      (withToken "token").AnswersAfter (.listVolumes {})
        ⟨⟨true, [false]⟩, ⟨.int 10, [.int 0]⟩⟩
        [.answer 200 (pageBody "2"), .answer 200 "\x7b\x7d"] sent {
          response := .listing [] ""
          status := some .cancelled
          details := some (Failure.cancelled (.text "ListVolumes")).message }) ∧
      ∃ listed : Request, listed.method = .get ∧
        Retry.service.AnswersAfter Retry.creation ⟨⟨false, []⟩, ⟨.null, []⟩⟩ [Retry.emptyPage]
          [listed] {
            response := .creation none
            status := some .cancelled
            details := some (Failure.cancelled (.text "CreateVolume")).message } := by
  obtain ⟨-, hlisting, -, -⟩ := heeds_caller (withToken "token")
    ⟨⟨true, [false]⟩, ⟨.int 10, [.int 0]⟩⟩
    [.answer 200 (pageBody "2"), .answer 200 "\x7b\x7d"] {} {}
  obtain ⟨-, -, hcreation, -⟩ := heeds_caller Retry.service ⟨⟨false, []⟩, ⟨.null, []⟩⟩
    [Retry.emptyPage] {} {
      name := .text "data"
      capabilities := some [some ⟨.number 1⟩] }
  have hcomes : (withToken "token").ComesTo ⟨⟨true, [false]⟩, ⟨.int 10, [.int 0]⟩⟩
      [.answer 200 (pageBody "2"), .answer 200 "\x7b\x7d"] {} 1 := by
    refine ⟨⟨(.null, 1), by decide +kernel⟩, ⟨Retry.client, Retry.clientRule_service⟩, ?_⟩
    intro j hj
    obtain rfl := Nat.lt_one_iff.1 hj
    refine ⟨(pageRequest (withToken "token").setting Retry.client .null 1 (.int 10),
      .answer 200 (pageBody "2")), by decide +kernel, ?_⟩
    exact goesOn_pageRequest.2 ⟨[], 2, by decide +kernel⟩
  have hnone : ShowsNone (Retry.service.exchanges Retry.creation ⟨⟨false, []⟩, ⟨.null, []⟩⟩
      [Retry.emptyPage]) :=
    ⟨(nameRequest Retry.service.setting Retry.client (.text "data") (.int 30), Retry.emptyPage),
      ⟨[], none⟩, by decide +kernel, Retry.shown_emptyPage, rfl⟩
  exact ⟨hlisting 1 hcomes rfl, (hcreation hnone).2.2 rfl⟩

end Service

end VolumePlugin
