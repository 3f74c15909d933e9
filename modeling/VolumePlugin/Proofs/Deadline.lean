/-
# Calls that run out of time

A request carries the lesser of the caller's time and the time of the configuration, and never a
time that is up. Where the time is up the call ends with the requests that it has sent by then, and
says which call the deadline has ended.

Whether a call gets to asking for a request is said by comparison with the same call under other
times, which sends the request. The two go the same way until the time is up, since they hear the
same replies and the same word on whether the caller waits.
-/
import VolumePlugin.Proofs.RequestTime

namespace VolumePlugin

/-! ## Whole times -/

/-- A time in whole seconds, or none where the caller sets no limit. -/
def Value.IsWholeTime (left : Value) : Prop :=
  left = .null ∨ ∃ seconds, left = .int seconds

/-- The seconds for a request: those that are left, but no more than the fallback, and the fallback
where the caller sets no limit. -/
def secondsWithin (fallback : Int) (left : Value) : Int :=
  match left with
  | .int seconds => min seconds fallback
  | _ => fallback

/-- The time of a request is the lesser of two whole times, and never below zero. -/
theorem requestTimeout_int (seconds fallback : Int) :
    requestTimeout (.int seconds) (.int fallback) = .ok (.int (max (min seconds fallback) 0)) := by
  have hnever (lesser : Int) : (do
        return if ← Value.compare .greater (.int 0) (.int lesser) then Value.int 0
          else .int lesser : Except Failure Value) = .ok (.int (max lesser 0)) := by
    rw [Value.compare_greater_int, ok_bind]
    rcases Int.lt_or_le lesser 0 with hbelow | habove
    · rw [decide_eq_true hbelow, Int.max_eq_right (Int.le_of_lt hbelow)]
      rfl
    · rw [decide_eq_false (Int.not_lt.2 habove), Int.max_eq_left habove]
      rfl
  have hlimit : Value.int seconds ≠ .null := by
    intro himpossible
    cases himpossible
  rw [requestTimeout.eq_2 _ _ hlimit, Value.compare_less_int, ok_bind]
  rcases Int.lt_or_le fallback seconds with hless | hleast
  · rw [decide_eq_true hless, Int.min_eq_right (Int.le_of_lt hless)]
    exact hnever fallback
  · rw [decide_eq_false (Int.not_lt.2 hleast), Int.min_eq_left hleast]
    exact hnever seconds

/-- A time in whole seconds is the one for the request where it is positive, and else the deadline
has passed. -/
theorem Client.timeFor_of_isWholeTime {client : Client} {fallback : Int}
    (hfallback : client.defaultTimeout = .int fallback) (call : String) {left : Value}
    (hwhole : left.IsWholeTime) :
    client.timeFor call left =
      if 0 < secondsWithin fallback left then .ok (.int (secondsWithin fallback left))
      else .error (.deadlineExceeded (.text call)) := by
  have hgiven (seconds : Int) : (do
        if ← Value.compare .atMost (.int seconds) (.int 0) then
          throw (.deadlineExceeded (.text call))
        return .int seconds : Except Failure Value) =
      if 0 < seconds then .ok (.int seconds) else .error (.deadlineExceeded (.text call)) := by
    rw [Value.compare_atMost_int, ok_bind]
    rcases Int.lt_or_le 0 seconds with hpositive | hover
    · rw [if_pos hpositive, decide_eq_false (Int.not_le.2 hpositive)]
      rfl
    · rw [if_neg (Int.not_lt.2 hover), decide_eq_true hover]
      rfl
  rw [timeFor, hfallback]
  rcases hwhole with rfl | ⟨seconds, rfl⟩
  · exact hgiven fallback
  · rw [requestTimeout_int, ok_bind, hgiven, secondsWithin]
    rcases Int.lt_or_le 0 (min seconds fallback) with hpositive | hover
    · rw [Int.max_eq_left (Int.le_of_lt hpositive)]
    · rw [Int.max_eq_right hover, if_neg (Int.lt_irrefl 0), if_neg (Int.not_lt.2 hover)]

/-! ## The same call under other times -/

/-- Two settings from which clients differ in the time of their requests at most. -/
structure Setting.SameButTime (setting other : Setting) : Prop where
  environment : other.environment = setting.environment
  region : other.region = setting.region
  tokenVariable : other.configuration.tokenVariable = setting.configuration.tokenVariable
  apiUrl : other.configuration.apiUrl = setting.configuration.apiUrl

/-- The client of the one setting is that of the other with another time. -/
theorem Setting.SameButTime.clientRule {setting other : Setting}
    (hsame : setting.SameButTime other) {fallback : Value}
    (hfallback : setting.configuration.requestTimeout = .ok fallback) {client : Client}
    (hclient : other.clientRule = .ok client) :
    setting.clientRule = .ok { client with defaultTimeout := fallback } := by
  obtain ⟨variableName, url, hnamed, htoken, hurl, haddress, -⟩ :=
    Setting.clientRule_eq_ok.1 hclient
  rw [hsame.tokenVariable] at hnamed
  rw [hsame.environment] at htoken
  rw [hsame.apiUrl] at hurl
  exact Setting.clientRule_eq_ok.2 ⟨variableName, url, hnamed, htoken, hurl, haddress, hfallback⟩

/-- Two sessions in which the same is heard, from the provider and on whether the caller waits. -/
structure Session.HeardAlike (session other : Session) : Prop where
  replies : other.replies = session.replies
  activity : other.activity = session.activity

namespace Session.HeardAlike

variable {session other : Session}

theorem askActivity (halike : session.HeardAlike other) :
    other.askActivity.1 = session.askActivity.1 ∧
      session.askActivity.2.HeardAlike other.askActivity.2 := by
  obtain ⟨hreplies, hactivity⟩ := halike
  simp only [Session.askActivity, hactivity, true_and]
  exact ⟨hreplies, rfl⟩

theorem askClock (halike : session.HeardAlike other) :
    session.askClock.2.HeardAlike other.askClock.2 :=
  ⟨halike.replies, halike.activity⟩

theorem exchange (halike : session.HeardAlike other) (request asked : Request) :
    (other.exchange asked).1 = (session.exchange request).1 ∧
      (session.exchange request).2.HeardAlike (other.exchange asked).2 := by
  obtain ⟨hreplies, hactivity⟩ := halike
  simp only [Session.exchange, hreplies, true_and]
  exact ⟨rfl, hactivity⟩

end Session.HeardAlike

/-- A clock that leaves a client time for so many requests of a call, and then none. -/
structure Client.RunsOut (client : Client) (call : String) (clock : Cue Value) (count : Nat)
    (failure : Failure) : Prop where
  early : ∀ i < count, ∃ timeout, client.timeFor call (clock.told i) = .ok timeout
  late : client.timeFor call (clock.told count) = .error failure

section TwoRuns

variable {client : Client} {call : String} {count : Nat} {failure : Failure}

/-- Behind its first value a clock leaves time for one request less. -/
theorem Client.RunsOut.rest {clock : Cue Value}
    (hclock : client.RunsOut call clock (count + 1) failure) :
    client.RunsOut call clock.next.2 count failure where
  early := by
    intro i hi
    rw [← Cue.told_succ]
    exact hclock.early (i + 1) (Nat.succ_lt_succ hi)
  late := by
    rw [← Cue.told_succ]
    exact hclock.late

/-- A clock of which the first time is not enough leaves no time at all. -/
theorem Client.RunsOut.of_late {clock : Cue Value} {left : Value} {late : Failure}
    (hclock : client.RunsOut call clock count failure) (hleft : clock.next.1 = left)
    (hlate : client.timeFor call left = .error late) : count = 0 ∧ failure = late := by
  have htold : clock.told 0 = left := clock.told_zero.trans hleft
  cases count with
  | zero =>
      have hfailed := hclock.late
      rw [htold, hlate] at hfailed
      cases hfailed
      exact ⟨rfl, rfl⟩
  | succ fewer =>
      obtain ⟨timeout, htimely⟩ := hclock.early 0 (Nat.succ_pos fewer)
      rw [htold, hlate] at htimely
      cases htimely

/-- A clock of which the first time is enough leaves time for a request. -/
theorem Client.RunsOut.of_timely {clock : Cue Value} {left timeout : Value}
    (hclock : client.RunsOut call clock count failure) (hleft : clock.next.1 = left)
    (htimely : client.timeFor call left = .ok timeout) : ∃ fewer, count = fewer + 1 := by
  have htold : clock.told 0 = left := clock.told_zero.trans hleft
  cases count with
  | zero =>
      have hfailed := hclock.late
      rw [htold, htimely] at hfailed
      cases hfailed
  | succ fewer => exact ⟨fewer, rfl⟩

variable {other : Client} {setting otherSetting : Setting} {transcript longer : List Event}
  {session after otherSession otherAfter : Session}

/-- Clients of one address read the same page. -/
theorem Client.pageOf_of_apiUrl (hurl : other.apiUrl = client.apiUrl) (reply : Reply) :
    other.pageOf reply = client.pageOf reply := by
  rw [Client.pageOf, Client.pageOf, hurl]

/-- Clients of one address go on with the same page. -/
theorem Client.turnOf_of_apiUrl (hurl : other.apiUrl = client.apiUrl) (page : Int) (reply : Reply) :
    other.turnOf page reply = client.turnOf page reply := by
  rw [Client.turnOf, Client.turnOf, Client.pageOf_of_apiUrl hurl]

/-- Where no volume of a name was found and the time is up, no volume is created. -/
theorem NewVolumeRun.runsOut {name gigabytes : Value}
    {result longerResult : Except Failure Response}
    (hrun : NewVolumeRun setting client name gigabytes transcript result)
    (hlonger : NewVolumeRun otherSetting other name gigabytes longer longerResult)
    (hleads : session.Leads transcript after) (hlongerLeads : otherSession.Leads longer otherAfter)
    (halike : session.HeardAlike otherSession)
    (hclock : client.RunsOut "CreateVolume" session.clock count failure)
    (hcount : count < (exchangesOf longer).length) :
    (exchangesOf transcript).length = count ∧ result = .error failure := by
  cases hlonger with
  | cancelled | late => cases hcount
  | asked _ =>
      obtain ⟨hwaits, -⟩ := halike.askActivity
      rw [hlongerLeads.1] at hwaits
      have hnone : count = 0 := Nat.lt_one_iff.1 hcount
      cases hrun with
      | cancelled =>
          rw [hleads.1] at hwaits
          cases hwaits
      | late hlate =>
          obtain ⟨-, rfl⟩ := hclock.of_late hleads.2.1 hlate
          exact ⟨hnone.symm, rfl⟩
      | asked htimely =>
          obtain ⟨fewer, rfl⟩ := hclock.of_timely hleads.2.1 htimely
          cases hnone

/-- Where the volumes of a name were listed, the same reply leads on in the same way. -/
theorem ListedRun.runsOut {name gigabytes : Value} {reply : Reply}
    {result longerResult : Except Failure Response}
    (hrun : ListedRun setting client name gigabytes reply transcript result)
    (hlonger : ListedRun otherSetting other name gigabytes reply longer longerResult)
    (hurl : other.apiUrl = client.apiUrl)
    (hleads : session.Leads transcript after) (hlongerLeads : otherSession.Leads longer otherAfter)
    (halike : session.HeardAlike otherSession)
    (hclock : client.RunsOut "CreateVolume" session.clock count failure)
    (hcount : count < (exchangesOf longer).length) :
    (exchangesOf transcript).length = count ∧ result = .error failure := by
  cases hlonger with
  | unlisted | unfit | found => cases hcount
  | absent hpage hvolume hlongerRest =>
      rw [Client.pageOf_of_apiUrl hurl] at hpage
      cases hrun with
      | unlisted hfailed =>
          rw [hpage] at hfailed
          cases hfailed
      | unfit hpage' hunfit =>
          rw [hpage] at hpage'
          cases hpage'
          rw [hvolume] at hunfit
          cases hunfit
      | found hpage' hfound =>
          rw [hpage] at hpage'
          cases hpage'
          rw [hvolume] at hfound
          cases hfound
      | absent _ _ hrest =>
          exact hrest.runsOut hlongerRest hleads hlongerLeads halike hclock hcount

/-- A call that creates a volume and runs out of time sends what it has the time for. -/
theorem CreationRun.runsOut {request : CreateVolumeRequest}
    {result longerResult : Except Failure Response}
    (hrun : CreationRun request setting transcript result)
    (hlonger : CreationRun request otherSetting longer longerResult)
    (hclient : setting.clientRule = .ok client) (hother : otherSetting.clientRule = .ok other)
    (hurl : other.apiUrl = client.apiUrl)
    (hleads : session.Leads transcript after) (hlongerLeads : otherSession.Leads longer otherAfter)
    (halike : session.HeardAlike otherSession)
    (hclock : client.RunsOut "CreateVolume" session.clock count failure)
    (hcount : count < (exchangesOf longer).length) :
    (exchangesOf transcript).length = count ∧ result = .error failure := by
  cases hlonger with
  | invalid | unready | late => cases hcount
  | @listed name gigabytes _ _ timeout reply longerRest _ hrequest hother' htime hlongerRest =>
      rw [hother] at hother'
      cases hother'
      cases hrun with
      | invalid hinvalid =>
          rw [hrequest] at hinvalid
          cases hinvalid
      | unready _ hunready =>
          rw [hclient] at hunready
          cases hunready
      | late _ hclient' hlate =>
          rw [hclient] at hclient'
          cases hclient'
          obtain ⟨hnone, rfl⟩ := hclock.of_late hleads.1 hlate
          exact ⟨hnone.symm, rfl⟩
      | @listed name' gigabytes' _ _ timeout' reply' rest _ hrequest' hclient' htimely hrest =>
          rw [hclient] at hclient'
          cases hclient'
          rw [hrequest] at hrequest'
          cases hrequest'
          obtain ⟨fewer, rfl⟩ := hclock.of_timely hleads.1 htimely
          obtain ⟨hheard, hbehind⟩ :=
            halike.askClock.exchange (nameRequest setting client name timeout')
              (nameRequest otherSetting other name timeout)
          rw [hleads.2.1, hlongerLeads.2.1] at hheard
          subst hheard
          have hfewer : fewer < (exchangesOf longerRest).length := Nat.lt_of_succ_lt_succ hcount
          obtain ⟨hlength, hresult⟩ := hrest.runsOut hlongerRest hurl hleads.2.2
            hlongerLeads.2.2 hbehind hclock.rest hfewer
          exact ⟨congrArg Nat.succ hlength, hresult⟩

/-- A call that asks for a change and runs out of time sends nothing. -/
theorem ChangeCallRun.runsOut {fragments : List String} {wanted : ErrorClass}
    {asked otherAsked : Except Failure Operation} {response : Response}
    {result longerResult : Except Failure Response}
    (hrun : ChangeCallRun setting call fragments wanted asked response transcript result)
    (hlonger :
      ChangeCallRun otherSetting call fragments wanted otherAsked response longer longerResult)
    (hasked : otherAsked = asked) (hclient : setting.clientRule = .ok client)
    (hleads : session.Leads transcript after)
    (hclock : client.RunsOut call session.clock count failure)
    (hcount : count < (exchangesOf longer).length) :
    (exchangesOf transcript).length = count ∧ result = .error failure := by
  cases hlonger with
  | invalid | unready => cases hcount
  | changed hoperation _ hlongerRun =>
      cases hlongerRun with
      | late => cases hcount
      | asked _ =>
          have hnone : count = 0 := Nat.lt_one_iff.1 hcount
          rw [hasked] at hoperation
          cases hrun with
          | invalid hinvalid =>
              rw [hoperation] at hinvalid
              cases hinvalid
          | unready _ hunready =>
              rw [hclient] at hunready
              cases hunready
          | changed _ hclient' hrun =>
              rw [hclient] at hclient'
              cases hclient'
              cases hrun with
              | late hlate =>
                  obtain ⟨-, rfl⟩ := hclock.of_late hleads.1 hlate
                  exact ⟨hnone.symm, rfl⟩
              | asked htimely =>
                  obtain ⟨fewer, rfl⟩ := hclock.of_timely hleads.1 htimely
                  cases hnone

/-- A listing that asks for a page hears the caller wait and goes on behind the reply, or ends. -/
theorem PagesRun.of_exchange {perPage : Value} {page : Int}
    {result : Except Failure (List Volume × Int)}
    (hrun : PagesRun setting client perPage page transcript result)
    (hsome : exchangesOf transcript ≠ []) :
    ∃ left timeout reply rest,
      transcript = .activity true :: .clock left ::
        .exchange (pageRequest setting client perPage page timeout) reply :: rest ∧
      (rest = [] ∨ ∃ volumes nextPage restResult,
        client.turnOf page reply = .ok (volumes, .goOn nextPage) ∧
        PagesRun setting client perPage nextPage rest restResult) := by
  cases hrun with
  | cancelled | late => exact (hsome rfl).elim
  | failed | finished => exact ⟨_, _, _, [], rfl, .inl rfl⟩
  | goOn _ hturn hrest => exact ⟨_, _, _, _, rfl, .inr ⟨_, _, _, hturn, hrest⟩⟩

/-- Where there was time for a page, but not for all that a longer listing asks for, the longer one
hears the same reply and goes on behind it. -/
theorem PagesRun.goesOn {perPage left timeout : Value} {page : Int} {request : Request}
    {reply : Reply} {longerResult : Except Failure (List Volume × Int)}
    (hlonger : PagesRun otherSetting other perPage page longer longerResult)
    (hurl : other.apiUrl = client.apiUrl)
    (hleads : session.Leads
      (.activity true :: .clock left :: .exchange request reply :: transcript) after)
    (hlongerLeads : otherSession.Leads longer otherAfter)
    (halike : session.HeardAlike otherSession)
    (hclock : client.RunsOut "ListVolumes" session.clock count failure)
    (htime : client.timeFor "ListVolumes" left = .ok timeout)
    (hcount : count < (exchangesOf longer).length) :
    ∃ fewer volumes nextPage rest restResult behind, count = fewer + 1 ∧
      client.turnOf page reply = .ok (volumes, .goOn nextPage) ∧
      PagesRun otherSetting other perPage nextPage rest restResult ∧ behind.Leads rest otherAfter ∧
      (session.askActivity.2.askClock.2.exchange request).2.HeardAlike behind ∧
      fewer < (exchangesOf rest).length := by
  obtain ⟨fewer, rfl⟩ := hclock.of_timely hleads.2.1 htime
  have hasks : exchangesOf longer ≠ [] := by
    intro hnone
    rw [hnone] at hcount
    cases hcount
  obtain ⟨otherLeft, otherTimeout, otherReply, rest, rfl, hrest⟩ := hlonger.of_exchange hasks
  obtain ⟨hheard, hbehind⟩ := halike.askActivity.2.askClock.exchange request
    (pageRequest otherSetting other perPage page otherTimeout)
  rw [hleads.2.2.1, hlongerLeads.2.2.1] at hheard
  subst hheard
  have hfewer : fewer < (exchangesOf rest).length := Nat.lt_of_succ_lt_succ hcount
  rcases hrest with rfl | ⟨volumes, nextPage, restResult, hturn, hrest⟩
  · cases hfewer
  · rw [Client.turnOf_of_apiUrl hurl] at hturn
    exact ⟨fewer, volumes, nextPage, rest, restResult, _, rfl, hturn, hrest, hlongerLeads.2.2.2,
      hbehind, hfewer⟩

/-- A listing that runs out of time fetches the pages that it has the time for. -/
theorem PagesRun.runsOut {perPage : Value} {page : Int}
    {result longerResult : Except Failure (List Volume × Int)}
    (hrun : PagesRun setting client perPage page transcript result)
    (hlonger : PagesRun otherSetting other perPage page longer longerResult)
    (hurl : other.apiUrl = client.apiUrl)
    (hleads : session.Leads transcript after) (hlongerLeads : otherSession.Leads longer otherAfter)
    (halike : session.HeardAlike otherSession)
    (hclock : client.RunsOut "ListVolumes" session.clock count failure)
    (hcount : count < (exchangesOf longer).length) :
    (exchangesOf transcript).length = count ∧ result = .error failure := by
  -- The induction is on the listing that runs out; the longer one goes along page by page, with one
  -- request less to come behind each.
  induction hrun generalizing longer longerResult session otherSession count with
  | cancelled =>
      have hasks : exchangesOf longer ≠ [] := by
        intro hnone
        rw [hnone] at hcount
        cases hcount
      obtain ⟨left, timeout, reply, rest, rfl, -⟩ := hlonger.of_exchange hasks
      have hwaits := halike.askActivity.1
      rw [hleads.1, hlongerLeads.1] at hwaits
      cases hwaits
  | late hlate =>
      obtain ⟨hnone, rfl⟩ := hclock.of_late hleads.2.1 hlate
      exact ⟨hnone.symm, rfl⟩
  | failed htime hturn | finished htime hturn =>
      obtain ⟨_, _, _, _, _, _, -, hgoes, -⟩ :=
        hlonger.goesOn hurl hleads hlongerLeads halike hclock htime hcount
      rw [hturn] at hgoes
      cases hgoes
  | goOn htime hturn hrest ih =>
      obtain ⟨fewer, _, _, _, _, behind, rfl, hgoes, hlonger, hbehindLeads, hbehind, hfewer⟩ :=
        hlonger.goesOn hurl hleads hlongerLeads halike hclock htime hcount
      rw [hturn] at hgoes
      cases hgoes
      obtain ⟨hlength, rfl⟩ :=
        ih hlonger hleads.2.2.2 hbehindLeads hbehind hclock.rest hfewer
      exact ⟨congrArg Nat.succ hlength, rfl⟩

/-- A call that lists volumes and runs out of time sends what it has the time for. -/
theorem ListingRun.runsOut {request : ListVolumesRequest}
    {result longerResult : Except Failure Response}
    (hrun : ListingRun request setting transcript result)
    (hlonger : ListingRun request otherSetting longer longerResult)
    (hclient : setting.clientRule = .ok client) (hother : otherSetting.clientRule = .ok other)
    (hurl : other.apiUrl = client.apiUrl)
    (hleads : session.Leads transcript after) (hlongerLeads : otherSession.Leads longer otherAfter)
    (halike : session.HeardAlike otherSession)
    (hclock : client.RunsOut "ListVolumes" session.clock count failure)
    (hcount : count < (exchangesOf longer).length) :
    (exchangesOf transcript).length = count ∧ result = .error failure := by
  cases hlonger with
  | invalid | unready => cases hcount
  | listed hrequest hother' hlongerRun =>
      rw [hother] at hother'
      cases hother'
      cases hrun with
      | invalid hinvalid =>
          rw [hrequest] at hinvalid
          cases hinvalid
      | unready _ hunready =>
          rw [hclient] at hunready
          cases hunready
      | listed hrequest' hclient' hrun =>
          rw [hrequest] at hrequest'
          cases hrequest'
          rw [hclient] at hclient'
          cases hclient'
          obtain ⟨hlength, rfl⟩ :=
            hrun.runsOut hlongerRun hurl hleads hlongerLeads halike hclock hcount
          exact ⟨hlength, rfl⟩

/-- A call that runs out of time, while the same call would send more under other times, sends what
it has the time for and fails with what is said about the time. -/
theorem Call.runsOut {call : Call} {handled longerHandled : Except Failure Answer}
    (hrun : call.Run setting transcript handled)
    (hlonger : call.Run otherSetting longer longerHandled)
    (hregion : otherSetting.region = setting.region)
    (hclient : setting.clientRule = .ok client) (hother : otherSetting.clientRule = .ok other)
    (hurl : other.apiUrl = client.apiUrl)
    (hleads : session.Leads transcript after) (hlongerLeads : otherSession.Leads longer otherAfter)
    (halike : session.HeardAlike otherSession)
    (hclock : client.RunsOut call.name session.clock count failure)
    (hcount : count < (exchangesOf longer).length) :
    (exchangesOf transcript).length = count ∧ handled = .error failure := by
  cases call with
  | createVolume request =>
      obtain ⟨outcome, hrun, rfl⟩ := hrun
      obtain ⟨_, hlonger, -⟩ := hlonger
      obtain ⟨hlength, rfl⟩ := hrun.runsOut hlonger hclient hother hurl hleads hlongerLeads
        halike hclock hcount
      exact ⟨hlength, rfl⟩
  | listVolumes request =>
      obtain ⟨outcome, hrun, rfl⟩ := hrun
      obtain ⟨_, hlonger, -⟩ := hlonger
      obtain ⟨hlength, rfl⟩ := hrun.runsOut hlonger hclient hother hurl hleads hlongerLeads
        halike hclock hcount
      exact ⟨hlength, rfl⟩
  | deleteVolume request =>
      obtain ⟨outcome, hrun, rfl⟩ := hrun
      obtain ⟨_, hlonger, -⟩ := hlonger
      obtain ⟨hlength, rfl⟩ := hrun.runsOut hlonger rfl hclient hleads hclock hcount
      exact ⟨hlength, rfl⟩
  | publishVolume request =>
      obtain ⟨outcome, hrun, rfl⟩ := hrun
      obtain ⟨_, hlonger, -⟩ := hlonger
      obtain ⟨hlength, rfl⟩ :=
        hrun.runsOut hlonger (by rw [hregion]) hclient hleads hclock hcount
      exact ⟨hlength, rfl⟩
  | unpublishVolume request =>
      obtain ⟨outcome, hrun, rfl⟩ := hrun
      obtain ⟨_, hlonger, -⟩ := hlonger
      obtain ⟨hlength, rfl⟩ :=
        hrun.runsOut hlonger (by rw [hregion]) hclient hleads hclock hcount
      exact ⟨hlength, rfl⟩
  | _ =>
      rw [hlonger.1] at hcount
      cases hcount

end TwoRuns

/-! ## Calls of a service -/

namespace Service

variable (service : Service) (call : Call) (context : CallContext) (replies : List Reply)

/-- A call gets to asking for its request at a place: there are times, in the configuration and of
the caller, with which it sends one there. -/
def GetsTo (i : Nat) : Prop :=
  ∃ (other : Service) (clock : Cue Value), service.setting.SameButTime other.setting ∧
    i < (other.requestsOf call { context with clock := clock } replies).length

/-- Where the time of a client runs out before a request that a call gets to, the call sends the
requests before and is answered with the failure. -/
theorem outcome_of_runsOut {fallback : Value}
    (hfallback : service.configuration.requestTimeout = .ok fallback) {i : Nat} {failure : Failure}
    (hclock : ∀ client : Client, client.defaultTimeout = fallback →
      client.RunsOut call.name context.clock i failure)
    (hgets : service.GetsTo call context replies i) :
    (service.requestsOf call context replies).length = i ∧
      (service.step (.call call context replies)).1.outcome =
        .answered (settled call.emptyResponse (.error failure))
          (service.requestsOf call context replies) := by
  obtain ⟨other, clock, hsame, hmore⟩ := hgets
  obtain ⟨client, -, -, hclient, -⟩ :=
    other.request_of_call call _ replies (List.getElem?_eq_getElem hmore)
  have hsupervised : call.isSupervised = true := by
    rw [← Bool.not_eq_false]
    intro hunsupervised
    rw [← map_fst_exchanges,
      other.exchanges_of_not_supervised call _ replies hunsupervised] at hmore
    cases hmore
  obtain ⟨houtcome, transcript, after, hleads, hexchanges, hrun⟩ :=
    service.outcome_of_supervised call context replies hsupervised
  obtain ⟨-, longer, otherAfter, hlongerLeads, hlongerExchanges, hlonger⟩ :=
    other.outcome_of_supervised call { context with clock := clock } replies hsupervised
  rw [← map_fst_exchanges, List.length_map, hlongerExchanges] at hmore
  obtain ⟨hlength, hfailed⟩ := Call.runsOut hrun hlonger hsame.region
    (hsame.clientRule hfallback hclient) hclient rfl hleads hlongerLeads ⟨rfl, rfl⟩
    (hclock _ rfl) hmore
  rw [houtcome, hfailed, ← map_fst_exchanges, List.length_map, hexchanges]
  exact ⟨hlength, rfl⟩

/-- Every request of a call carries the time that the caller leaves at its place, or that of the
configuration where this is less or the caller sets no limit, and this time is positive. At the
first place where it is not, a call that gets there sends no more and is answered with the deadline.
-/
theorem requests_in_time {fallback : Int}
    (hfallback : service.configuration.requestTimeout = .ok (.int fallback))
    (hclock : ∀ left ∈ context.clock.values, left.IsWholeTime) :
    (∀ i request, (service.requestsOf call context replies)[i]? = some request →
      request.timeout = .int (secondsWithin fallback (context.clock.told i)) ∧
        0 < secondsWithin fallback (context.clock.told i)) ∧
    ∀ i, (∀ j < i, 0 < secondsWithin fallback (context.clock.told j)) →
      secondsWithin fallback (context.clock.told i) ≤ 0 →
      service.GetsTo call context replies i →
      (service.requestsOf call context replies).length = i ∧
        (service.step (.call call context replies)).1.outcome =
          .answered (.ok {
              response := call.emptyResponse
              status := some .deadlineExceeded
              details := some (Failure.deadlineExceeded (.text call.name)).message })
            (service.requestsOf call context replies) := by
  have htold (i : Nat) : (context.clock.told i).IsWholeTime :=
    hclock _ (context.clock.told_mem_values i)
  constructor
  · intro i request hrequest
    obtain ⟨client, timeout, operation, hclient, htime, -, rfl⟩ :=
      service.request_of_call call context replies hrequest
    have hdefault : client.defaultTimeout = .int fallback := by
      have hread : service.configuration.requestTimeout = .ok client.defaultTimeout :=
        Setting.requestTimeout_of_clientRule hclient
      rw [hfallback, Except.ok.injEq] at hread
      exact hread.symm
    rw [Client.timeFor_of_isWholeTime hdefault call.name (htold i)] at htime
    split at htime
    · cases htime
      exact ⟨rfl, ‹_›⟩
    · cases htime
  · intro i hearly hlate hgets
    have hruns (client : Client) (hdefault : client.defaultTimeout = .int fallback) :
        client.RunsOut call.name context.clock i (.deadlineExceeded (.text call.name)) := by
      constructor
      · intro j hj
        rw [Client.timeFor_of_isWholeTime hdefault call.name (htold j), if_pos (hearly j hj)]
        exact ⟨_, rfl⟩
      · rw [Client.timeFor_of_isWholeTime hdefault call.name (htold i),
          if_neg (Int.not_lt.2 hlate)]
    exact service.outcome_of_runsOut call context replies hfallback hruns hgets

/-- A listing of two pages whose caller leaves ten seconds and then none asks for the first page in
these ten seconds, and is ended by the deadline before the second one. -/
theorem second_page_too_late :
    ((withToken "token").requestsOf (.listVolumes {}) ⟨⟨true, []⟩, ⟨.int 10, [.int 0]⟩⟩
        [.answer 200 (pageBody "2"), .answer 200 "\x7b\x7d"]).map (·.timeout) = [.int 10] ∧
      ((withToken "token").step (.call (.listVolumes {}) ⟨⟨true, []⟩, ⟨.int 10, [.int 0]⟩⟩
          [.answer 200 (pageBody "2"), .answer 200 "\x7b\x7d"])).1.outcome =
        .answered (.ok {
            response := .listing [] ""
            status := some .deadlineExceeded
            details := some ("request deadline expired during ListVolumes, " ++
              "no time is left for a provider call") })
          ((withToken "token").requestsOf (.listVolumes {}) ⟨⟨true, []⟩, ⟨.int 10, [.int 0]⟩⟩
            [.answer 200 (pageBody "2"), .answer 200 "\x7b\x7d"]) := by
  obtain ⟨htimes, hends⟩ := requests_in_time (withToken "token") (.listVolumes {})
    ⟨⟨true, []⟩, ⟨.int 10, [.int 0]⟩⟩ [.answer 200 (pageBody "2"), .answer 200 "\x7b\x7d"]
    (rfl : (withToken "token").configuration.requestTimeout = .ok (.int 30)) (by
      intro left hleft
      rcases List.mem_cons.1 hleft with rfl | hleft
      · exact .inr ⟨10, rfl⟩
      · exact .inr ⟨0, List.mem_singleton.1 hleft⟩)
  have hgets : (withToken "token").GetsTo (.listVolumes {}) ⟨⟨true, []⟩, ⟨.int 10, [.int 0]⟩⟩
      [.answer 200 (pageBody "2"), .answer 200 "\x7b\x7d"] 1 := by
    refine ⟨withToken "token", ⟨.null, []⟩, ⟨rfl, rfl, rfl, rfl⟩, ?_⟩
    decide +kernel
  obtain ⟨hlength, hdeadline⟩ := hends 1 (by decide) (by decide) hgets
  refine ⟨?_, hdeadline⟩
  obtain ⟨request, hone⟩ := List.length_eq_one_iff.1 hlength
  rw [hone] at htimes ⊢
  exact congrArg (fun timeout => [timeout]) (htimes 0 request rfl).1

end Service

end VolumePlugin
