/-
# What calls report

A supervised call logs that it begins and that it is finished, and in between it either answers
without a status and logs no failure, or it answers with its empty response, a status that is not
that of success and details which are the message of the one failure that it logs. A change that
the provider refuses because it is made already is no failure and is not logged as one, and the
call about the plugin reports what is missing without failing.

The handlers log no failure since they take steps that log none, whatever they ask and hear on the
way. So it is the supervision alone that logs one, and it does so where it answers for a handler
that has failed.
-/
import VolumePlugin.Proofs.CreationSteps
import VolumePlugin.Proofs.SameSteps

namespace VolumePlugin

open VolumePlugin.Action

/-! ## Failures in the log -/

/-- The failures in a log. -/
def errorsIn (log : List Entry) : List Entry :=
  log.filter (·.level = .error)

@[simp]
theorem errorsIn_append (front back : List Entry) :
    errorsIn (front ++ back) = errorsIn front ++ errorsIn back :=
  List.filter_append front back

/-- Going on from one session to another under the name of the same thread, while these failures are
logged. -/
structure Session.Logs (before : Session) (errors : List Entry) (after : Session) : Prop where
  thread : after.thread = before.thread
  log : ∃ written, after.log = before.log ++ written ∧ errorsIn written = errors

namespace Session.Logs

theorem refl (session : Session) : session.Logs [] session :=
  ⟨rfl, [], (List.append_nil _).symm, rfl⟩

theorem trans {first second third : Session} {front back : List Entry}
    (hfront : first.Logs front second) (hback : second.Logs back third) :
    first.Logs (front ++ back) third := by
  obtain ⟨hthread, written, hlog, rfl⟩ := hfront
  obtain ⟨hlater, more, hmore, rfl⟩ := hback
  refine ⟨hlater.trans hthread, written ++ more, ?_, errorsIn_append written more⟩
  rw [hmore, hlog, List.append_assoc]

/-- An entry is a failure that is logged where it has this level. -/
theorem note (session : Session) (level : Level) (message : String) :
    session.Logs (errorsIn [⟨level, session.thread, message⟩]) (session.note level message) :=
  ⟨rfl, _, rfl, rfl⟩

end Session.Logs

/-- Actions that take the same steps as others log no failure. -/
theorem Action.InStep.logs {α : Type} {action other : Action α} (hsteps : action.InStep other)
    (session : Session) : session.Logs [] (action.runIn session).2 := by
  refine hsteps.relates (fun before after => before.Logs [] after) ?_ ?_ ?_ session
  · intro before after hthread hlog
    exact ⟨hthread, [], by rw [hlog, List.append_nil], rfl⟩
  · intro session level message hlevel
    have hnone : errorsIn [⟨level, session.thread, message⟩] = [] := by simp [errorsIn, hlevel]
    rw [← hnone]
    exact .note session level message
  · intro first second third hfront hback
    exact hfront.trans hback

/-! ## Answers and the failures that they tell -/

/-- An answer and the failures that are logged with it: none where all is well, and otherwise the
one that the details of the answer tell. -/
inductive Answer.Tells (empty : Response) (thread : String) : Answer → List Entry → Prop
  | finished (response : Response) : Answer.Tells empty thread { response := response } []
  | failed {status : Status} (hstatus : status ≠ .ok) (details : String) :
      Answer.Tells empty thread
        { response := empty, status := some status, details := some details }
        [⟨.error, thread, details⟩]

/-- A handler that logs no more than what its answer tells, and nothing where it fails. -/
structure Action.Reports (handler : Action Answer) (empty : Response) (session : Session) :
    Prop where
  answered : ∀ answer, (handler.runIn session).1 = .ok answer →
    ∃ errors, session.Logs errors (handler.runIn session).2 ∧
      answer.Tells empty session.thread errors
  failed : ∀ failure, (handler.runIn session).1 = .error failure →
    session.Logs [] (handler.runIn session).2

/-- A handler that takes its steps to a response reports. -/
theorem reports_respond {perform other : Action Response} (hsteps : perform.InStep other)
    (empty : Response) (session : Session) :
    (do return { response := ← perform } : Action Answer).Reports empty session := by
  have hlogs := hsteps.logs session
  have hrun := runIn_map (fun response => ({ response := response } : Answer)) perform session
  rw [← bind_pure_comp] at hrun
  constructor
  · intro answer hanswer
    rw [hrun] at hanswer ⊢
    cases hresult : (perform.runIn session).1 with
    | error failure =>
        rw [hresult] at hanswer
        cases hanswer
    | ok response =>
        rw [hresult] at hanswer
        cases hanswer
        exact ⟨[], hlogs, .finished response⟩
  · intro failure _
    rw [hrun]
    exact hlogs

/-- A handler that fails at once reports. -/
theorem reports_throw (failure : Failure) (empty : Response) (session : Session) :
    (throw failure : Action Answer).Reports empty session where
  answered := nofun
  failed := fun _ _ => .refl session

/-- The call about the plugin logs what is missing, and tells it. -/
theorem reports_describePlugin (configuration : Configuration) (session : Session) :
    (describePlugin configuration).Reports (Call.emptyResponse .getPluginInfo) session := by
  unfold describePlugin
  cases configuration.pluginName with
  | error failure => exact reports_throw failure _ session
  | ok name =>
      cases configuration.pluginVersion with
      | error failure => exact reports_throw failure _ session
      | ok version =>
          simp only [lift_ok_bind]
          split
          · constructor
            · rintro answer ⟨⟩
              exact ⟨[], .refl session, .finished _⟩
            · nofun
          · constructor
            · rintro answer ⟨⟩
              exact ⟨_, .note session .error pluginInfoMissingText,
                .failed (by decide) pluginInfoMissingText⟩
            · nofun

/-- The handler of a supervised call reports. -/
theorem Call.reports_answer {call : Call} (hsupervised : call.isSupervised = true)
    (setting : Setting) (session : Session) :
    (call.answer setting).Reports call.emptyResponse session := by
  have hset : setting.environment.SetAlike setting.environment := fun _ => .inl rfl
  cases call with
  | createVolume request => exact reports_respond (request.inStep_perform hset) _ session
  | deleteVolume request => exact reports_respond (request.inStep_perform hset) _ session
  | publishVolume request => exact reports_respond (request.inStep_perform hset) _ session
  | unpublishVolume request => exact reports_respond (request.inStep_perform hset) _ session
  | validateCapabilities request => exact reports_respond request.inStep_perform _ session
  | listVolumes request => exact reports_respond (request.inStep_perform hset) _ session
  | getCapacity => exact reports_throw _ _ session
  | getPluginInfo => exact reports_describePlugin _ session
  | getControllerCapabilities | getPluginCapabilities | probe => cases hsupervised

/-- Where the status of a failure is found, the failure is logged and told. -/
theorem Failure.tells_report (failure : Failure) (empty : Response) (session : Session)
    {answer : Answer} (hanswer : ((failure.report empty).runIn session).1 = .ok answer) :
    ∃ errors, session.Logs errors ((failure.report empty).runIn session).2 ∧
      answer.Tells empty session.thread errors := by
  have hlogs := failure.inStep_status.logs session
  have hresult := failure.isRule_status.result session
  unfold Failure.report at hanswer ⊢
  rw [runIn_bind] at hanswer ⊢
  rcases hrun : failure.status.runIn session with ⟨result, left⟩
  rw [hrun] at hanswer hlogs hresult
  cases result with
  | error other => cases hanswer
  | ok status =>
      cases hanswer
      have hlogged := hlogs.trans (.note left .error failure.message)
      rw [hlogs.thread] at hlogged
      exact ⟨_, hlogged, .failed (Failure.statusRule_ne_ok hresult.symm) failure.message⟩

/-- A supervised handler that reports logs no more than what the answer tells. -/
theorem tells_supervised {handler : Action Answer} {empty : Response} {session : Session}
    (hreports : handler.Reports empty session) {answer : Answer}
    (hanswer : ((supervised empty handler).runIn session).1 = .ok answer) :
    ∃ errors, session.Logs errors ((supervised empty handler).runIn session).2 ∧
      answer.Tells empty session.thread errors := by
  obtain ⟨hanswered, hfailed⟩ := hreports
  unfold supervised at hanswer ⊢
  rw [runIn_tryCatch] at hanswer ⊢
  rcases hrun : handler.runIn session with ⟨result, left⟩
  rw [hrun] at hanswer hanswered hfailed
  cases result with
  | ok answered => exact hanswered answer hanswer
  | error failure =>
      -- The handler has logged no failure before it failed, so the one of the report is alone.
      have hlogs := hfailed failure rfl
      obtain ⟨errors, hlater, htells⟩ := failure.tells_report empty left hanswer
      rw [hlogs.thread] at htells
      exact ⟨errors, hlogs.trans hlater, htells⟩

/-! ## The log of a call -/

/-- A supervised call begins what it logs with its name and ends it by saying that it is finished.
The failures in between are those that its answer tells. -/
theorem Call.log_perform {call : Call} (hsupervised : call.isSupervised = true) (setting : Setting)
    (session : Session) {answer : Answer}
    (hanswer : ((call.perform setting).runIn session).1 = .ok answer) :
    ∃ thread written, ((call.perform setting).runIn session).2.thread = thread ∧
      ((call.perform setting).runIn session).2.log = session.log ++
        ⟨.info, thread, call.name⟩ :: (written ++ [⟨.info, thread, "finished " ++ call.name⟩]) ∧
      answer.Tells call.emptyResponse thread (errorsIn written) := by
  rw [perform_of_supervised hsupervised] at hanswer ⊢
  simp only [runIn_bind, runIn_renameThread, runIn_info] at hanswer ⊢
  have hreports := reports_answer hsupervised setting
    ((session.renameThread call.subject).note .info call.name)
  rcases hrun : (supervised call.emptyResponse (call.answer setting)).runIn
    ((session.renameThread call.subject).note .info call.name) with ⟨result, left⟩
  rw [hrun] at hanswer
  cases result with
  | error failure => cases hanswer
  | ok answered =>
      cases hanswer
      obtain ⟨errors, hlogs, htells⟩ := tells_supervised hreports (congrArg Prod.fst hrun)
      rw [hrun] at hlogs
      obtain ⟨hthread, written, hlog, rfl⟩ := hlogs
      have hleft : left.thread = (session.renameThread call.subject).thread := hthread
      have hfinished : String.join ["finished ", call.name] = "finished " ++ call.name := by
        simp [String.join]
      refine ⟨_, written, hleft, ?_, htells⟩
      rw [hfinished]
      simp only [pure, Session.note] at hlog ⊢
      rw [hlog, hleft, List.append_assoc, List.append_assoc]
      rfl

/-- A logger that is set to the lowest level lets everything through. -/
theorem Logger.admits_of_debug {logger : Logger} (hlevel : logger.number = Level.debug.number)
    (entry : Entry) : logger.admits entry = true := by
  have hthreshold : logger.threshold = Level.debug.number := by
    rw [threshold, hlevel]
    rfl
  rw [admits, hthreshold]
  cases entry.level <;> decide

namespace Service

/-- A supervised creation that answers without a status answers with a volume. -/
theorem volume_of_answer (service : Service) (request : CreateVolumeRequest)
    (context : CallContext) (replies : List Reply) {answer : Answer} {sent : List Request}
    (hanswer : (service.step (.call (.createVolume request) context replies)).1.outcome =
      .answered (.ok answer) sent) (hplain : answer.status = none) :
    ∃ volume, answer.response = .creation (some volume) := by
  obtain ⟨houtcome, transcript, after, -, -, outcome, hrun, hhandled⟩ :=
    service.outcome_of_supervised (.createVolume request) context replies rfl
  rw [hanswer, hhandled, Outcome.answered.injEq] at houtcome
  obtain ⟨response, hresponded, rfl⟩ := response_of_settled houtcome.1.symm hplain
  obtain ⟨volume, capacity, hresponse, -⟩ := hrun.volume_of_ok hresponded
  exact ⟨_, hresponse⟩

/-- A supervised call that answers while everything is logged begins its log with its name and ends
it by saying that it is finished. Either it answers without a status and without details and logs no
failure, and a creation answers with a volume; or it answers with its empty response, a status other
than that of success and details, and the one failure that it logs has these for its message. -/
theorem reported_in_full (service : Service) (call : Call) (context : CallContext)
    (replies : List Reply) (hsupervised : call.isSupervised = true)
    (hlevel : service.logger.number = Level.debug.number) {report : Report} {answer : Answer}
    {sent : List Request} (hreport : report = (service.step (.call call context replies)).1)
    (hanswer : report.outcome = .answered (.ok answer) sent) :
    (∃ written, report.log = ⟨.info, report.thread, call.name⟩ ::
      (written ++ [⟨.info, report.thread, "finished " ++ call.name⟩])) ∧
    ((answer.status = none ∧ answer.details = none ∧ errorsIn report.log = [] ∧
      ∀ request, call = .createVolume request →
        ∃ volume, answer.response = .creation (some volume)) ∨
    ∃ status details, status ≠ .ok ∧
      answer = { response := call.emptyResponse, status := some status, details := some details } ∧
      errorsIn report.log = [⟨.error, report.thread, details⟩]) := by
  subst hreport
  have hresult : ((call.perform service.setting).runIn
      (service.sessionFor context replies)).1 = .ok answer := by
    rw [outcome_call, Outcome.answered.injEq] at hanswer
    exact hanswer.1
  obtain ⟨thread, written, hthread, hlog, htells⟩ :=
    Call.log_perform hsupervised service.setting (service.sessionFor context replies) hresult
  have hreported : (service.step (.call call context replies)).1.log =
      ⟨.info, thread, call.name⟩ :: (written ++ [⟨.info, thread, "finished " ++ call.name⟩]) := by
    have hadmits : service.logger.admits = fun _ => true :=
      funext (Logger.admits_of_debug hlevel)
    have hleft : (service.step (.call call context replies)).1.log =
        ((call.perform service.setting).runIn (service.sessionFor context replies)).2.log.filter
          service.logger.admits := rfl
    rw [hleft, hlog, hadmits, List.filter_true]
    rfl
  have hthread' : (service.step (.call call context replies)).1.thread = thread := hthread
  rw [hthread', hreported]
  refine ⟨⟨written, rfl⟩, ?_⟩
  have herrors : errorsIn (⟨.info, thread, call.name⟩ ::
      (written ++ [⟨.info, thread, "finished " ++ call.name⟩])) = errorsIn written := by
    simp [errorsIn]
  rw [herrors]
  generalize errorsIn written = errors at htells ⊢
  cases htells with
  | finished response =>
      refine .inl ⟨rfl, rfl, rfl, ?_⟩
      rintro request rfl
      exact service.volume_of_answer request context replies hanswer rfl
  | @failed status hstatus details => exact .inr ⟨status, details, hstatus, rfl, rfl⟩

/-- What is reported of a deletion for which the provider is out of order. -/
def failedDeletion : Report :=
  ((withToken "token").step (.call (.deleteVolume { volumeId := .text "7" }) {}
    [.answer 503 "out of order"])).1

/-- Such a deletion logs its beginning, this one failure and its end, and tells the failure. -/
theorem failedDeletion_reported :
    ∃ answer sent written details, failedDeletion.outcome = .answered (.ok answer) sent ∧
      failedDeletion.log =
        ⟨.info, "7", "DeleteVolume"⟩ :: (written ++ [⟨.info, "7", "finished DeleteVolume"⟩]) ∧
      errorsIn failedDeletion.log = [⟨.error, "7", details⟩] ∧ answer.details = some details := by
  have hanswer : failedDeletion.outcome = .answered (.ok {
        response := .deletion
        status := some .unavailable
        details := some (ProviderError.message ⟨"DELETE",
          "https://api.digitalocean.com/v2/volumes/7", .int 503, .text "out of order"⟩) })
      ((withToken "token").requestsOf (.deleteVolume { volumeId := .text "7" }) {}
        [.answer 503 "out of order"]) := by
    rw [failedDeletion, outcome_call, Outcome.answered.injEq]
    exact ⟨by decide +kernel, rfl⟩
  obtain ⟨⟨written, hlog⟩, hplain | ⟨status, details, -, hfailed, herrors⟩⟩ :=
    reported_in_full (withToken "token") (.deleteVolume { volumeId := .text "7" }) {}
      [.answer 503 "out of order"] rfl rfl rfl hanswer
  · cases hplain.1
  · exact ⟨_, _, written, details, hanswer, hlog, herrors, congrArg Answer.details hfailed⟩

end Service

end VolumePlugin
