/-
# Whose name the log carries

A call names its thread after the volume that it is about before it logs anything, and nothing that
it does afterwards names the thread again. So every entry of its log carries that name, be the call
answered, refused or broken off. A call about no volume, or about one without a name, goes on under
the name that it finds, and so does every step that is no call, apart from the one that names the
thread.

Behind a run of steps the thread has the name that was given last.
-/
import VolumePlugin.Proofs.RequestOrder
import VolumePlugin.Proofs.SameSteps

namespace VolumePlugin

open VolumePlugin.Action

/-! ## Names that steps give -/

/-- What a step names the thread after, or null. -/
def Step.naming : Step → Value
  | .call asked _ _ => asked.subject
  | .setThread name => name
  | _ => .null

/-- The name that a step gives to the thread, none where there is nothing to name it after or this
is empty. -/
def Step.threadName? (step : Step) : Option String :=
  if step.naming.truthy then some step.naming.display else none

theorem Step.threadName?_of_empty {step : Step} (hempty : step.naming.truthy = false) :
    step.threadName? = none := by simp [threadName?, hempty]

/-- The name of the thread behind steps that are made in order. -/
def lastThreadName (first : String) (steps : List Step) : String :=
  (steps.filterMap Step.threadName?).getLastD first

theorem lastThreadName_cons (first : String) (step : Step) (rest : List Step) :
    lastThreadName first (step :: rest) = lastThreadName (step.threadName?.getD first) rest := by
  unfold lastThreadName
  rw [List.filterMap_cons]
  cases step.threadName? with
  | none => rfl
  | some name => exact List.getLastD_cons

theorem lastThreadName_concat (first : String) (front : List Step) (step : Step) :
    lastThreadName first (front ++ [step]) =
      step.threadName?.getD (lastThreadName first front) := by
  unfold lastThreadName
  rw [List.filterMap_append, List.filterMap_cons, List.filterMap_nil]
  cases step.threadName? with
  | none => rw [List.append_nil]; rfl
  | some name => exact List.getLastD_concat

/-! ## Sessions under one name -/

/-- Going on from one session to another under the name of the same thread, which everything that
is logged on the way carries. -/
structure Session.KeepsName (before after : Session) : Prop where
  thread : after.thread = before.thread
  log : ∃ written, after.log = before.log ++ written ∧
    ∀ entry ∈ written, entry.thread = before.thread

namespace Session.KeepsName

theorem quiet {before after : Session} (hthread : after.thread = before.thread)
    (hlog : after.log = before.log) : before.KeepsName after :=
  ⟨hthread, [], by rw [hlog, List.append_nil], by simp⟩

theorem trans {first second third : Session} (hfront : first.KeepsName second)
    (hback : second.KeepsName third) : first.KeepsName third := by
  obtain ⟨hthread, written, hlog, hnamed⟩ := hfront
  obtain ⟨hlater, more, hmore, hnamedLater⟩ := hback
  refine ⟨hlater.trans hthread, written ++ more, by rw [hmore, hlog, List.append_assoc], ?_⟩
  intro entry hentry
  rcases List.mem_append.1 hentry with hearly | hlate
  · exact hnamed entry hearly
  · exact (hnamedLater entry hlate).trans hthread

theorem note (session : Session) (level : Level) (message : String) :
    session.KeepsName (session.note level message) :=
  ⟨rfl, [⟨level, session.thread, message⟩], rfl, by simp⟩

end Session.KeepsName

namespace Action

variable {α β : Type}

/-- An action that keeps the name of the thread and logs under it, in every session. -/
def KeepsName (action : Action α) : Prop :=
  ∀ session : Session, session.KeepsName (action.runIn session).2

theorem InStep.keepsName {action other : Action α} (hsteps : action.InStep other) :
    action.KeepsName :=
  hsteps.relates Session.KeepsName (fun _ _ => .quiet) (fun session level message _ =>
    .note session level message) fun _ _ _ => .trans

theorem keepsName_pure (a : α) : (pure a : Action α).KeepsName := fun _ => .quiet rfl rfl

theorem keepsName_error (message : String) : (error message).KeepsName :=
  fun session => .note session .error message

theorem keepsName_info (message : String) : (info message).KeepsName :=
  fun session => .note session .info message

theorem KeepsName.bind {action : Action α} {next : α → Action β} (haction : action.KeepsName)
    (hnext : ∀ a, (next a).KeepsName) : (action >>= next).KeepsName := fun session =>
  holds_bind session.KeepsName (haction session) fun a left hfront => hfront.trans (hnext a left)

theorem KeepsName.tryCatch {action : Action α} {rescue : Failure → Action α}
    (haction : action.KeepsName) (hrescue : ∀ failure, (rescue failure).KeepsName) :
    (tryCatch action rescue).KeepsName := fun session =>
  holds_tryCatch session.KeepsName (haction session) fun failure left hfront =>
    hfront.trans (hrescue failure left)

end Action

/-! ## Calls under one name -/

/-- Telling what the plugin is keeps the name of the thread, also where something is missing. -/
theorem keepsName_describePlugin (configuration : Configuration) :
    (describePlugin configuration).KeepsName := by
  apply (InStep.rule _).keepsName.bind
  intro name
  apply (InStep.rule _).keepsName.bind
  intro version
  split
  · exact keepsName_pure _
  · exact (keepsName_error _).bind fun _ => keepsName_pure _

/-- A failure is reported under the name of the thread. -/
theorem Failure.keepsName_report (failure : Failure) (empty : Response) :
    (failure.report empty).KeepsName := by
  apply failure.inStep_status.keepsName.bind
  intro status
  exact (keepsName_error _).bind fun _ => keepsName_pure _

namespace Call

variable (call : Call) (setting : Setting)

theorem keepsName_answer : (call.answer setting).KeepsName := by
  by_cases hplugin : call = .getPluginInfo
  · rw [hplugin]
    exact keepsName_describePlugin setting.configuration
  · have hset : setting.environment.SetAlike setting.environment := fun _ => .inl rfl
    exact (inStep_answer hset hplugin).keepsName

theorem keepsName_guarded : (call.guarded setting).KeepsName := by
  unfold guarded
  split
  · exact (call.keepsName_answer setting).tryCatch fun failure => failure.keepsName_report _
  · exact call.keepsName_answer setting

/-- Every call but the probe names its thread, and logs its beginning and its end. -/
theorem perform_of_not_probe {call : Call} (hcall : call ≠ .probe) (setting : Setting) :
    call.perform setting = (do
      Action.renameThread call.subject
      Action.info call.name
      let answer ← call.guarded setting
      Action.info (String.join ["finished ", call.name])
      return answer) := by
  cases call with
  | probe => exact (hcall rfl).elim
  | _ => rfl

/-- Once a call has named its thread and has logged that it begins, it keeps the name. -/
theorem keepsName_behind_name {call : Call} (hcall : call ≠ .probe) (setting : Setting)
    (session : Session) :
    ((session.renameThread call.subject).note .info call.name).KeepsName
      ((call.perform setting).runIn session).2 := by
  rw [perform_of_not_probe hcall, runIn_bind, runIn_renameThread]
  dsimp only
  rw [runIn_bind, runIn_info]
  have hrest := (call.keepsName_guarded setting).bind fun answer =>
    (keepsName_info (String.join ["finished ", call.name])).bind fun _ => keepsName_pure answer
  exact hrest _

/-- A call logs under the name that its thread has once it was named. -/
theorem keepsName_perform (session : Session) :
    (session.renameThread call.subject).KeepsName ((call.perform setting).runIn session).2 := by
  by_cases hcall : call = .probe
  · rw [hcall]
    exact .quiet rfl rfl
  · exact (Session.KeepsName.note _ .info call.name).trans
      (keepsName_behind_name hcall setting session)

end Call

/-! ## Steps and runs -/

/-- A step that was made under a name: it is reported with this name, all that it logged carries it,
and the thread has it afterwards. -/
structure MadeUnder (name : String) (made : Report × Service) : Prop where
  reported : made.1.thread = name
  logged : ∀ entry ∈ made.1.log, entry.thread = name
  left : made.2.thread = name

namespace Service

variable (service : Service)

theorem madeUnder_become {name : String} (hthread : service.thread = name) (outcome : Outcome) :
    MadeUnder name (become service outcome) :=
  ⟨hthread, by simp [become], hthread⟩

theorem madeUnder_leave {before after : Session} (hlog : before.log = [])
    (hkeeps : before.KeepsName after) (outcome : Outcome) :
    MadeUnder before.thread (service.leave after outcome) := by
  obtain ⟨hthread, written, hwritten, hnamed⟩ := hkeeps
  rw [hlog, List.nil_append] at hwritten
  refine ⟨hthread, ?_, hthread⟩
  intro entry hentry
  have hmember : entry ∈ after.log := List.mem_of_mem_filter hentry
  rw [hwritten] at hmember
  exact hnamed entry hmember

theorem thread_renameThread (name : Value) (session : Session) :
    (session.renameThread name).thread =
      (Step.setThread name).threadName?.getD session.thread := by
  unfold Session.renameThread Step.threadName? Step.naming
  dsimp only
  split <;> rfl

/-- Every step is made under the name that it gives to the thread, and under the one that it finds
where it gives none. -/
theorem madeUnder_step (step : Step) :
    MadeUnder (step.threadName?.getD service.thread) (service.step step) := by
  cases step with
  | call call context replies =>
      have hkeeps := call.keepsName_perform service.setting (service.sessionFor context replies)
      have hmade := service.madeUnder_leave rfl hkeeps
        (.answered ((call.perform service.setting).runIn (service.sessionFor context replies)).1
          (service.requestsOf call context replies))
      rw [thread_renameThread] at hmade
      exact hmade
  | openClient =>
      exact service.madeUnder_leave rfl
        (service.setting.inStep_client.keepsName { thread := service.thread }) _
  | setThread name =>
      have hname : (Session.renameThread name { thread := service.thread }).thread =
          (Step.setThread name).threadName?.getD service.thread := thread_renameThread name _
      exact madeUnder_become _ hname _
  | setUp given =>
      rw [Step.threadName?_of_empty rfl]
      simp only [Service.step]
      split <;> exact madeUnder_become _ (by rfl) _
  | setLogLevel name =>
      rw [Step.threadName?_of_empty rfl]
      simp only [Service.step]
      split <;> exact madeUnder_become _ (by rfl) _
  | findRegion | setEnvironment | setConfiguration =>
      rw [Step.threadName?_of_empty rfl]
      exact madeUnder_become _ (by rfl) _

/-- Behind a run the thread has the name that was given last. -/
theorem thread_run (steps : List Step) :
    (service.run steps).2.thread = lastThreadName service.thread steps := by
  induction steps generalizing service with
  | nil => rfl
  | cons step rest ih => rw [run_cons, ih, (service.madeUnder_step step).left, lastThreadName_cons]

/-- What a call logs begins with its name, under the name that it gives to the thread. -/
theorem log_begins {call : Call} (hcall : call ≠ .probe) (context : CallContext)
    (replies : List Reply) :
    ∃ written, (service.step (.call call context replies)).1.log =
      (⟨.info, (Step.call call context replies).threadName?.getD service.thread, call.name⟩ ::
        written).filter service.logger.admits := by
  obtain ⟨-, written, hwritten, -⟩ := Call.keepsName_behind_name hcall service.setting
    (service.sessionFor context replies)
  refine ⟨written, congrArg (List.filter service.logger.admits) (hwritten.trans ?_)⟩
  rw [Session.note, thread_renameThread]
  rfl

/-- A thread that is named by hand, and a creation without a name. -/
def namedByHand : List Step :=
  [.setThread (.text "worker"), .call (.createVolume {}) {} []]

/-- The provider refuses by a code in place of a message. -/
def codedRefusal : Reply :=
  .answer 500 "\x7b\"message\":\x7b\"code\":1\x7d\x7d"

end Service

end VolumePlugin
