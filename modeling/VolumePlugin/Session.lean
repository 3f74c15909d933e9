/-
# Sessions

A session is what a call works with and what it leaves behind. The provider's replies, whether
the caller still waits, and how much of the caller's time is left are told one after the other;
the last two repeat their last word. What the call sends and logs is kept in order.

An action works in a session and either has a result or fails; what it did before it failed
stays done.
-/
import VolumePlugin.Exchange
import VolumePlugin.Log

namespace VolumePlugin

/-- Values told one after the other, the last of which is repeated. -/
structure Cue (α : Type) where
  now : α
  later : List α := []

/-- The value that is told, and what is told after it. -/
def Cue.next {α : Type} (cue : Cue α) : α × Cue α :=
  match cue.later with
  | [] => (cue.now, cue)
  | following :: later => (cue.now, ⟨following, later⟩)

/-- The state of a call. -/
structure Session where
  thread : String
  replies : List Reply := []
  activity : Cue Bool := ⟨true, []⟩
  clock : Cue Value := ⟨.null, []⟩
  sent : List Request := []
  log : List Entry := []

namespace Session

/-- Write to the log under the name of the thread. -/
def note (level : Level) (message : String) (session : Session) : Session :=
  { session with log := session.log ++ [⟨level, session.thread, message⟩] }

/-- Name the thread by the printed form of a value. An empty value changes nothing. -/
def renameThread (name : Value) (session : Session) : Session :=
  { session with thread := if name.truthy then name.display else session.thread }

/-- Send a request. The next reply answers it, and where none is left it is lost. -/
def exchange (request : Request) (session : Session) : Reply × Session :=
  (session.replies.headD Reply.silence,
    { session with replies := session.replies.tail, sent := session.sent ++ [request] })

/-- Ask whether the caller still waits. -/
def askActivity (session : Session) : Bool × Session :=
  let (active, activity) := session.activity.next
  (active, { session with activity := activity })

/-- Ask how much of the caller's time is left, null where the caller set no limit. -/
def askClock (session : Session) : Value × Session :=
  let (left, clock) := session.clock.next
  (left, { session with clock := clock })

end Session

/-- What a call does in a session. -/
abbrev Action := ExceptT Failure (StateM Session)

namespace Action

/-- A rule that needs no session takes part in an action. -/
instance : MonadLift (Except Failure) Action where
  monadLift result := ExceptT.mk (pure result)

/-- The result of an action in a session, and the session that it leaves behind. -/
def runIn {α : Type} (action : Action α) (session : Session) : Except Failure α × Session :=
  action.run.run session

/-- Write to the log. -/
def note (level : Level) (message : String) : Action Unit :=
  modify (Session.note level message)

/-- Write a detail to the log. -/
def debug (message : String) : Action Unit := note .debug message

/-- Write a step to the log. -/
def info (message : String) : Action Unit := note .info message

/-- Write a failure to the log. -/
def error (message : String) : Action Unit := note .error message

/-- Name the thread. -/
def renameThread (name : Value) : Action Unit :=
  modify (Session.renameThread name)

/-- Send a request and take its reply. -/
def exchange (request : Request) : Action Reply :=
  modifyGet (Session.exchange request)

/-- Ask whether the caller still waits. -/
def askActivity : Action Bool :=
  modifyGet Session.askActivity

/-- Ask how much of the caller's time is left. -/
def askClock : Action Value :=
  modifyGet Session.askClock

/-- How many replies are left. -/
def repliesLeft : Action Nat :=
  return (← get).replies.length

/-- An action without effect. -/
@[simp]
theorem runIn_pure {α : Type} (a : α) (session : Session) :
    (pure a : Action α).runIn session = (.ok a, session) := rfl

/-- A failure leaves the session as it is. -/
@[simp]
theorem runIn_throw {α : Type} (failure : Failure) (session : Session) :
    (throw failure : Action α).runIn session = (.error failure, session) := rfl

/-- An action goes on in the session that the one before left behind, unless that one failed. -/
theorem runIn_bind {α β : Type} (action : Action α) (next : α → Action β) (session : Session) :
    (action >>= next).runIn session =
      match action.runIn session with
      | (.ok a, left) => (next a).runIn left
      | (.error failure, left) => (.error failure, left) := by
  simp only [runIn, ExceptT.run_bind, StateT.run_bind]
  rcases action.run.run session with ⟨_ | _, _⟩ <;> rfl

/-- A result may be changed without touching the session. -/
theorem runIn_map {α β : Type} (f : α → β) (action : Action α) (session : Session) :
    (f <$> action).runIn session = ((action.runIn session).1.map f, (action.runIn session).2) := by
  rw [← bind_pure_comp, runIn_bind]
  rcases action.runIn session with ⟨_ | _, _⟩ <;> rfl

/-- A failure is met in the session that the failed action left behind. -/
theorem runIn_tryCatch {α : Type} (action : Action α) (rescue : Failure → Action α)
    (session : Session) :
    (tryCatch action rescue).runIn session =
      match action.runIn session with
      | (.ok a, left) => (.ok a, left)
      | (.error failure, left) => (rescue failure).runIn left := by
  simp only [runIn, tryCatch, tryCatchThe, MonadExceptOf.tryCatch, ExceptT.tryCatch, ExceptT.run_mk,
    StateT.run_bind]
  rcases found : action.run.run session with ⟨_ | _, _⟩ <;> simp_all [ExceptT.run] <;> rfl

/-- A rule does not touch the session. -/
@[simp]
theorem runIn_lift {α : Type} (result : Except Failure α) (session : Session) :
    (liftM result : Action α).runIn session = (result, session) := rfl

/-- Writing to the log never fails. -/
@[simp]
theorem runIn_note (level : Level) (message : String) (session : Session) :
    (note level message).runIn session = (.ok (), session.note level message) := rfl

/-- Writing a detail to the log never fails. -/
@[simp]
theorem runIn_debug (message : String) (session : Session) :
    (debug message).runIn session = (.ok (), session.note .debug message) := rfl

/-- Writing a step to the log never fails. -/
@[simp]
theorem runIn_info (message : String) (session : Session) :
    (info message).runIn session = (.ok (), session.note .info message) := rfl

/-- Writing a failure to the log never fails. -/
@[simp]
theorem runIn_error (message : String) (session : Session) :
    (error message).runIn session = (.ok (), session.note .error message) := rfl

/-- Naming the thread never fails. -/
@[simp]
theorem runIn_renameThread (name : Value) (session : Session) :
    (renameThread name).runIn session = (.ok (), session.renameThread name) := rfl

/-- Sending a request has a reply in any case. -/
@[simp]
theorem runIn_exchange (request : Request) (session : Session) :
    (exchange request).runIn session =
      (.ok (session.exchange request).1, (session.exchange request).2) := rfl

/-- Asking whether the caller waits has an answer in any case. -/
@[simp]
theorem runIn_askActivity (session : Session) :
    askActivity.runIn session = (.ok session.askActivity.1, session.askActivity.2) := rfl

/-- Asking for the time has an answer in any case. -/
@[simp]
theorem runIn_askClock (session : Session) :
    askClock.runIn session = (.ok session.askClock.1, session.askClock.2) := rfl

/-- Counting the replies changes nothing. -/
@[simp]
theorem runIn_repliesLeft (session : Session) :
    repliesLeft.runIn session = (.ok session.replies.length, session) := rfl

end Action

end VolumePlugin
