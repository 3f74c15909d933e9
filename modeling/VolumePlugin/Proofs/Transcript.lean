/-
# Transcripts of actions

An action touches its session in three ways that others can tell: it asks whether the caller
still waits, it asks how much time is left, and it sends requests that are answered. The list of
these events is the transcript of the action. What an action writes to the log is not in it.

An action meets a description when its transcript and its result satisfy it. Descriptions compose
along the steps of an action, so that each action is described once and no later argument runs it
again. An action with an empty transcript, whose result is the same in every session, works like
a rule.
-/
import VolumePlugin.Session

namespace VolumePlugin

/-- What passes between an action and its session. -/
inductive Event
  | /-- The caller was asked whether it still waits. -/
    activity (waits : Bool)
  | /-- The caller was asked how much time is left. -/
    clock (left : Value)
  | /-- A request was sent and answered. -/
    exchange (request : Request) (reply : Reply)

/-- The request of an event with its reply, none for a question to the caller. -/
def Event.exchange? : Event → Option (Request × Reply)
  | .exchange request reply => some (request, reply)
  | _ => none

/-- The requests of a transcript with their replies. -/
def exchangesOf (transcript : List Event) : List (Request × Reply) :=
  transcript.filterMap Event.exchange?

@[simp]
theorem exchangesOf_nil : exchangesOf [] = [] := rfl

@[simp]
theorem exchangesOf_activity (waits : Bool) (rest : List Event) :
    exchangesOf (.activity waits :: rest) = exchangesOf rest := rfl

@[simp]
theorem exchangesOf_clock (left : Value) (rest : List Event) :
    exchangesOf (.clock left :: rest) = exchangesOf rest := rfl

@[simp]
theorem exchangesOf_exchange (request : Request) (reply : Reply) (rest : List Event) :
    exchangesOf (.exchange request reply :: rest) = (request, reply) :: exchangesOf rest := rfl

@[simp]
theorem exchangesOf_append (front back : List Event) :
    exchangesOf (front ++ back) = exchangesOf front ++ exchangesOf back :=
  List.filterMap_append

/-- All values that a cue tells. -/
def Cue.values {α : Type} (cue : Cue α) : List α :=
  cue.now :: cue.later

/-- A cue tells one of its values, and nothing else behind it. -/
theorem Cue.mem_values_of_next {α : Type} (cue : Cue α) :
    cue.next.1 ∈ cue.values ∧ ∀ a ∈ cue.next.2.values, a ∈ cue.values := by
  unfold Cue.next Cue.values
  cases hlater : cue.later with
  | nil =>
      apply And.intro List.mem_cons_self
      intro a ha
      rwa [hlater] at ha
  | cons following later =>
      apply And.intro List.mem_cons_self
      intro a ha
      exact List.mem_cons_of_mem cue.now ha

namespace Session

/-- Two sessions that differ in their logs and thread names at most. -/
structure Alike (before after : Session) : Prop where
  replies : after.replies = before.replies
  activity : after.activity = before.activity
  clock : after.clock = before.clock
  sent : after.sent = before.sent

theorem Alike.refl (session : Session) : session.Alike session := ⟨rfl, rfl, rfl, rfl⟩

theorem Alike.trans {first second third : Session} (hfirst : first.Alike second)
    (hsecond : second.Alike third) : first.Alike third :=
  ⟨hsecond.replies.trans hfirst.replies, hsecond.activity.trans hfirst.activity,
    hsecond.clock.trans hfirst.clock, hsecond.sent.trans hfirst.sent⟩

theorem Alike.askActivity {before after : Session} (halike : before.Alike after) :
    after.askActivity.1 = before.askActivity.1 ∧
      before.askActivity.2.Alike after.askActivity.2 := by
  obtain ⟨hreplies, hactivity, hclock, hsent⟩ := halike
  simp only [Session.askActivity, hactivity, true_and]
  exact ⟨hreplies, rfl, hclock, hsent⟩

theorem Alike.askClock {before after : Session} (halike : before.Alike after) :
    after.askClock.1 = before.askClock.1 ∧ before.askClock.2.Alike after.askClock.2 := by
  obtain ⟨hreplies, hactivity, hclock, hsent⟩ := halike
  simp only [Session.askClock, hclock, true_and]
  exact ⟨hreplies, hactivity, rfl, hsent⟩

theorem Alike.exchange {before after : Session} (halike : before.Alike after)
    (request : Request) :
    (after.exchange request).1 = (before.exchange request).1 ∧
      (before.exchange request).2.Alike (after.exchange request).2 := by
  obtain ⟨hreplies, hactivity, hclock, hsent⟩ := halike
  simp only [Session.exchange, hreplies, hsent, true_and]
  exact ⟨rfl, hactivity, hclock, rfl⟩

/-- The events of a transcript are those that a session has in store, and they lead to another
session. -/
def Leads : Session → List Event → Session → Prop
  | before, [], after => before.Alike after
  | before, .activity waits :: rest, after =>
    before.askActivity.1 = waits ∧ before.askActivity.2.Leads rest after
  | before, .clock left :: rest, after =>
    before.askClock.1 = left ∧ before.askClock.2.Leads rest after
  | before, .exchange request reply :: rest, after =>
    (before.exchange request).1 = reply ∧ (before.exchange request).2.Leads rest after

/-- What was written to the log before makes no difference to a transcript. -/
theorem Leads.of_alike {first before after : Session} {transcript : List Event}
    (halike : first.Alike before) (hleads : before.Leads transcript after) :
    first.Leads transcript after := by
  induction transcript generalizing first before with
  | nil => exact halike.trans hleads
  | cons event rest ih =>
      cases event with
      | activity waits =>
          obtain ⟨hsame, hrest⟩ := halike.askActivity
          exact ⟨hsame.symm.trans hleads.1, ih hrest hleads.2⟩
      | clock left =>
          obtain ⟨hsame, hrest⟩ := halike.askClock
          exact ⟨hsame.symm.trans hleads.1, ih hrest hleads.2⟩
      | exchange request reply =>
          obtain ⟨hsame, hrest⟩ := halike.exchange request
          exact ⟨hsame.symm.trans hleads.1, ih hrest hleads.2⟩

/-- Transcripts are joined where one session ends and the other begins. -/
theorem Leads.append {before middle after : Session} {front back : List Event}
    (hfront : before.Leads front middle) (hback : middle.Leads back after) :
    before.Leads (front ++ back) after := by
  induction front generalizing before with
  | nil => exact hback.of_alike hfront
  | cons event rest ih =>
      cases event with
      | activity waits => exact ⟨hfront.1, ih hfront.2⟩
      | clock left => exact ⟨hfront.1, ih hfront.2⟩
      | exchange request reply => exact ⟨hfront.1, ih hfront.2⟩

/-- The requests of a transcript are sent in its order. -/
theorem Leads.sent {before after : Session} {transcript : List Event}
    (hleads : before.Leads transcript after) :
    after.sent = before.sent ++ (exchangesOf transcript).map Prod.fst := by
  induction transcript generalizing before with
  | nil => simpa using Alike.sent hleads
  | cons event rest ih =>
      cases event with
      | activity waits => simpa [Session.askActivity] using ih hleads.2
      | clock left => simpa [Session.askClock] using ih hleads.2
      | exchange request reply => simpa [Session.exchange] using ih hleads.2

/-- Every request of a transcript takes up one reply. -/
theorem Leads.replies {before after : Session} {transcript : List Event}
    (hleads : before.Leads transcript after) :
    after.replies = before.replies.drop (exchangesOf transcript).length := by
  induction transcript generalizing before with
  | nil => simpa using Alike.replies hleads
  | cons event rest ih =>
      cases event with
      | activity waits => simpa [Session.askActivity] using ih hleads.2
      | clock left => simpa [Session.askClock] using ih hleads.2
      | exchange request reply =>
          simpa [Session.exchange, List.drop_drop, Nat.add_comm] using ih hleads.2

/-- The replies of a transcript are the session's, and silence behind the last of these. -/
theorem Leads.heard {before after : Session} {transcript : List Event}
    (hleads : before.Leads transcript after) {i : Nat} {pair : Request × Reply}
    (hi : (exchangesOf transcript)[i]? = some pair) :
    pair.2 = before.replies.getD i Reply.silence := by
  induction transcript generalizing before i with
  | nil => simp at hi
  | cons event rest ih =>
      cases event with
      | activity waits => exact ih hleads.2 hi
      | clock left => exact ih hleads.2 hi
      | exchange request reply =>
          cases i with
          | zero =>
              have hreply : (request, reply) = pair := by simpa using hi
              rw [← hreply, ← hleads.1, Session.exchange]
              cases before.replies <;> rfl
          | succ i =>
              have hlater := ih hleads.2 (by simpa using hi)
              rw [hlater, Session.exchange]
              cases before.replies <;> rfl

/-- The caller answers with what its cues tell. -/
theorem Leads.told {before after : Session} {transcript : List Event}
    (hleads : before.Leads transcript after) :
    (∀ waits, .activity waits ∈ transcript → waits ∈ before.activity.values) ∧
      ∀ left, .clock left ∈ transcript → left ∈ before.clock.values := by
  induction transcript generalizing before with
  | nil => simp
  | cons event rest ih =>
      cases event with
      | activity told =>
          obtain ⟨hactivity, hclock⟩ := ih hleads.2
          obtain ⟨hnow, hlater⟩ := before.activity.mem_values_of_next
          constructor
          · intro waits hevent
            rcases List.mem_cons.1 hevent with hfirst | hrest
            · cases hfirst
              rw [← hleads.1]
              exact hnow
            · exact hlater waits (hactivity waits hrest)
          · intro left hevent
            exact hclock left (by simpa using hevent)
      | clock told =>
          obtain ⟨hactivity, hclock⟩ := ih hleads.2
          obtain ⟨hnow, hlater⟩ := before.clock.mem_values_of_next
          constructor
          · intro waits hevent
            exact hactivity waits (by simpa using hevent)
          · intro left hevent
            rcases List.mem_cons.1 hevent with hfirst | hrest
            · cases hfirst
              rw [← hleads.1]
              exact hnow
            · exact hlater left (hclock left hrest)
      | exchange request reply =>
          obtain ⟨hactivity, hclock⟩ := ih hleads.2
          constructor
          · intro waits hevent
            exact hactivity waits (by simpa using hevent)
          · intro left hevent
            exact hclock left (by simpa using hevent)

end Session

namespace Action

variable {α β : Type}

/-- An action does in a session what a description admits. -/
def Meets (action : Action α) (session : Session)
    (admits : List Event → Except Failure α → Prop) : Prop :=
  ∃ transcript, session.Leads transcript (action.runIn session).2 ∧
    admits transcript (action.runIn session).1

/-- What meets a description meets any weaker one. -/
theorem Meets.mono {action : Action α} {session : Session}
    {narrow wide : List Event → Except Failure α → Prop} (hmeets : action.Meets session narrow)
    (hwide : ∀ transcript result, narrow transcript result → wide transcript result) :
    action.Meets session wide := by
  obtain ⟨transcript, hleads, hnarrow⟩ := hmeets
  exact ⟨transcript, hleads, hwide _ _ hnarrow⟩

theorem meets_pure {a : α} {session : Session} {admits : List Event → Except Failure α → Prop}
    (hadmits : admits [] (.ok a)) : (pure a : Action α).Meets session admits :=
  ⟨[], Session.Alike.refl session, hadmits⟩

theorem meets_throw {failure : Failure} {session : Session}
    {admits : List Event → Except Failure α → Prop} (hadmits : admits [] (.error failure)) :
    (throw failure : Action α).Meets session admits :=
  ⟨[], Session.Alike.refl session, hadmits⟩

/-- The transcript of an action is followed by that of the action behind it, unless the first one
failed. -/
theorem Meets.bind {action : Action α} {next : α → Action β} {session : Session}
    {first : List Event → Except Failure α → Prop} {whole : List Event → Except Failure β → Prop}
    (hfirst : action.Meets session first)
    (hfailed : ∀ transcript failure,
      first transcript (.error failure) → whole transcript (.error failure))
    (hnext : ∀ front a middle, session.Leads front middle → first front (.ok a) →
      (next a).Meets middle fun back result => whole (front ++ back) result) :
    (action >>= next).Meets session whole := by
  obtain ⟨front, hfront, hadmits⟩ := hfirst
  unfold Meets
  rw [runIn_bind]
  rcases hrun : action.runIn session with ⟨result, middle⟩
  rw [hrun] at hfront hadmits
  cases result with
  | error failure => exact ⟨front, hfront, hfailed _ _ hadmits⟩
  | ok a =>
      obtain ⟨back, hback, hwhole⟩ := hnext front a middle hfront hadmits
      exact ⟨front ++ back, hfront.append hback, hwhole⟩

/-- A failure is met behind the transcript of the action that failed. -/
theorem Meets.tryCatch {action : Action α} {rescue : Failure → Action α} {session : Session}
    {first whole : List Event → Except Failure α → Prop} (hfirst : action.Meets session first)
    (hdone : ∀ transcript a, first transcript (.ok a) → whole transcript (.ok a))
    (hrescue : ∀ front failure middle, session.Leads front middle → first front (.error failure) →
      (rescue failure).Meets middle fun back result => whole (front ++ back) result) :
    (tryCatch action rescue).Meets session whole := by
  obtain ⟨front, hfront, hadmits⟩ := hfirst
  unfold Meets
  rw [runIn_tryCatch]
  rcases hrun : action.runIn session with ⟨result, middle⟩
  rw [hrun] at hfront hadmits
  cases result with
  | ok a => exact ⟨front, hfront, hdone _ _ hadmits⟩
  | error failure =>
      obtain ⟨back, hback, hwhole⟩ := hrescue front failure middle hfront hadmits
      exact ⟨front ++ back, hfront.append hback, hwhole⟩

/-- Counting the replies has no event. -/
theorem meets_repliesLeft_bind {next : Nat → Action β} {session : Session}
    {admits : List Event → Except Failure β → Prop}
    (hnext : (next session.replies.length).Meets session admits) :
    (repliesLeft >>= next).Meets session admits := by
  unfold Meets
  rw [runIn_bind, runIn_repliesLeft]
  exact hnext

/-! ## Actions that work like rules -/

/-- An action that has the same result in every session and does nothing but write to the
log. -/
structure IsRule (action : Action α) (rule : Except Failure α) : Prop where
  result : ∀ session : Session, (action.runIn session).1 = rule
  quiet : ∀ session : Session, session.Alike (action.runIn session).2

theorem isRule_pure (a : α) : (pure a : Action α).IsRule (.ok a) :=
  ⟨fun _ => rfl, Session.Alike.refl⟩

theorem isRule_throw (failure : Failure) : (throw failure : Action α).IsRule (.error failure) :=
  ⟨fun _ => rfl, Session.Alike.refl⟩

theorem isRule_lift (rule : Except Failure α) : (liftM rule : Action α).IsRule rule :=
  ⟨fun _ => rfl, Session.Alike.refl⟩

theorem isRule_note (level : Level) (message : String) :
    (note level message).IsRule (.ok ()) :=
  ⟨fun _ => rfl, fun _ => ⟨rfl, rfl, rfl, rfl⟩⟩

theorem isRule_debug (message : String) : (debug message).IsRule (.ok ()) :=
  isRule_note .debug message

theorem isRule_info (message : String) : (info message).IsRule (.ok ()) :=
  isRule_note .info message

theorem isRule_error (message : String) : (error message).IsRule (.ok ()) :=
  isRule_note .error message

theorem isRule_renameThread (name : Value) : (renameThread name).IsRule (.ok ()) :=
  ⟨fun _ => rfl, fun _ => ⟨rfl, rfl, rfl, rfl⟩⟩

/-- Rules that follow one another are one rule. -/
theorem IsRule.bind {action : Action α} {next : α → Action β} {rule : Except Failure α}
    {rules : α → Except Failure β} (hfirst : action.IsRule rule)
    (hnext : ∀ a, (next a).IsRule (rules a)) : (action >>= next).IsRule (rule >>= rules) := by
  constructor
  · intro session
    have hresult := hfirst.result session
    rw [runIn_bind]
    rcases hrun : action.runIn session with ⟨result, middle⟩
    rw [hrun] at hresult
    subst hresult
    cases result with
    | error failure => rfl
    | ok a => exact (hnext a).result middle
  · intro session
    have hquiet := hfirst.quiet session
    rw [runIn_bind]
    rcases hrun : action.runIn session with ⟨result, middle⟩
    rw [hrun] at hquiet
    cases result with
    | error failure => exact hquiet
    | ok a => exact hquiet.trans ((hnext a).quiet middle)

/-- What stands behind a note decides the rule. -/
theorem IsRule.after {action : Action Unit} {next : Unit → Action β} {rule : Except Failure β}
    (hfirst : action.IsRule (.ok ())) (hnext : (next ()).IsRule rule) :
    (action >>= next).IsRule rule :=
  hfirst.bind fun _ => hnext

/-- A rule has its result and an empty transcript. -/
theorem IsRule.meets {action : Action α} {rule : Except Failure α} (hrule : action.IsRule rule)
    {session : Session} {admits : List Event → Except Failure α → Prop}
    (hadmits : admits [] rule) : action.Meets session admits :=
  ⟨[], hrule.quiet session, (hrule.result session).symm ▸ hadmits⟩

/-- A rule in front of an action leaves its transcript as it is. -/
theorem IsRule.meets_bind {action : Action α} {next : α → Action β} {rule : Except Failure α}
    (hrule : action.IsRule rule) {session : Session}
    {admits : List Event → Except Failure β → Prop}
    (hfailed : ∀ failure, rule = .error failure → admits [] (.error failure))
    (hnext : ∀ a middle, rule = .ok a → session.Leads [] middle →
      (next a).Meets middle admits) :
    (action >>= next).Meets session admits := by
  have hfirst : action.Meets session fun transcript result => transcript = [] ∧ result = rule :=
    hrule.meets ⟨rfl, rfl⟩
  apply hfirst.bind
  · intro transcript failure hmet
    obtain ⟨rfl, hresult⟩ := hmet
    exact hfailed failure hresult.symm
  · intro front a middle hleads hmet
    obtain ⟨rfl, hresult⟩ := hmet
    exact hnext a middle hresult.symm hleads

/-- A note in front of an action leaves its transcript as it is. -/
theorem IsRule.meets_after {action : Action Unit} {next : Unit → Action β}
    (hrule : action.IsRule (.ok ())) {session : Session}
    {admits : List Event → Except Failure β → Prop}
    (hnext : ∀ middle, session.Leads [] middle → (next ()).Meets middle admits) :
    (action >>= next).Meets session admits :=
  hrule.meets_bind (fun _ himpossible => by cases himpossible)
    fun _ middle _ hleads => hnext middle hleads

/-! ## Actions that ask a question -/

section Questions

variable {γ : Type} {event : γ → Event} {rule : γ → Except Failure α}

/-- An action with one event, whose result follows from the answer that the event holds. -/
def Asks (action : Action α) (event : γ → Event) (rule : γ → Except Failure α) : Prop :=
  ∀ session, action.Meets session fun transcript result =>
    ∃ answer, transcript = [event answer] ∧ result = rule answer

theorem asks_askActivity : askActivity.Asks .activity .ok := fun session =>
  ⟨[.activity session.askActivity.1], ⟨rfl, Session.Alike.refl _⟩, _, rfl, rfl⟩

theorem asks_askClock : askClock.Asks .clock .ok := fun session =>
  ⟨[.clock session.askClock.1], ⟨rfl, Session.Alike.refl _⟩, _, rfl, rfl⟩

theorem asks_exchange (request : Request) : (exchange request).Asks (.exchange request) .ok :=
  fun session =>
    ⟨[.exchange request (session.exchange request).1], ⟨rfl, Session.Alike.refl _⟩, _, rfl, rfl⟩

/-- What an action gives that is one request is read from the next reply. -/
theorem Asks.result {action : Action α} {request : Request} {read : Reply → Except Failure α}
    (hasks : action.Asks (.exchange request) read) (session : Session) :
    (action.runIn session).1 = read (session.replies.headD Reply.silence) := by
  obtain ⟨transcript, hleads, reply, rfl, hresult⟩ := hasks session
  rw [hresult, ← hleads.1]
  rfl

/-- Behind a question an action goes on with what the rule makes of the answer. -/
theorem Asks.bind {action : Action α} {next : α → Action β} (hasks : action.Asks event rule)
    {session : Session} {admits : List Event → Except Failure β → Prop}
    (hfailed : ∀ answer failure, rule answer = .error failure →
      admits [event answer] (.error failure))
    (hnext : ∀ answer a middle, rule answer = .ok a → session.Leads [event answer] middle →
      (next a).Meets middle fun back result => admits (event answer :: back) result) :
    (action >>= next).Meets session admits := by
  apply (hasks session).bind
  · intro transcript failure hone
    obtain ⟨answer, rfl, hresult⟩ := hone
    exact hfailed answer failure hresult.symm
  · intro front a middle hleads hone
    obtain ⟨answer, rfl, hresult⟩ := hone
    exact hnext answer a middle hresult.symm hleads

/-- A rule behind a question is part of the question. -/
theorem Asks.followed {action : Action α} {next : α → Action β} {rules : α → Except Failure β}
    (hasks : action.Asks event rule) (hnext : ∀ a, (next a).IsRule (rules a)) :
    (action >>= next).Asks event fun answer => rule answer >>= rules := by
  intro session
  apply hasks.bind
  · intro answer failure hfailed
    have hresult : .error failure = rule answer >>= rules := by
      rw [hfailed]
      rfl
    exact ⟨answer, rfl, hresult⟩
  · intro answer a middle hanswer _
    have hresult : rules a = rule answer >>= rules := by
      rw [hanswer]
      rfl
    exact (hnext a).meets ⟨answer, rfl, hresult⟩

/-- A rule that succeeds in front of a question is part of the question. -/
theorem IsRule.asks {action : Action β} {next : β → Action α} {b : β}
    (hrule : action.IsRule (.ok b)) (hnext : (next b).Asks event rule) :
    (action >>= next).Asks event rule := by
  intro session
  apply hrule.meets_bind
  · intro failure himpossible
    cases himpossible
  · intro b' middle hb _
    cases hb
    exact hnext middle

end Questions

end Action

end VolumePlugin
