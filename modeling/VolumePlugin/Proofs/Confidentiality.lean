/-
# What the access token does not touch

Two runs that differ in the value of one variable, which no configuration names for the region, show
the same in everything but the authorization of their requests: the same responses, failures, log
entries, thread names and regions. The access token is held by such a variable, so that nothing that
can be seen tells anything of it but the requests to the provider.

Sessions of the two runs are compared with their requests redacted. Actions that take the same steps
lead from such sessions to such sessions, and so does the supervision of a call, which logs what has
failed.
-/
import VolumePlugin.Proofs.Region
import VolumePlugin.Proofs.SameSteps

namespace VolumePlugin

open VolumePlugin.Action

/-! ## Actions that show the same -/

/-- A session without what proves that its requests may be made. -/
def Session.redacted (session : Session) : Session :=
  { session with sent := session.sent.map Request.redacted }

/-- Sessions that agree once redacted differ in their requests only. -/
theorem Session.eq_of_redacted {session other : Session}
    (hsame : other.redacted = session.redacted) :
    ∃ sent, other = { session with sent := sent } ∧
      sent.map Request.redacted = session.sent.map Request.redacted := by
  obtain ⟨thread, replies, activity, clock, sent, log⟩ := session
  obtain ⟨otherThread, otherReplies, otherActivity, otherClock, otherSent, otherLog⟩ := other
  simp only [redacted, Session.mk.injEq] at hsame
  obtain ⟨rfl, rfl, rfl, rfl, hsent, rfl⟩ := hsame
  exact ⟨otherSent, rfl, hsent⟩

namespace Action

variable {α β : Type}

/-- Two actions of which nothing but the authorization of their requests can be told apart. -/
def Indistinct (action other : Action α) : Prop :=
  ∀ session otherSession, otherSession.redacted = session.redacted →
    (other.runIn otherSession).1 = (action.runIn session).1 ∧
      (other.runIn otherSession).2.redacted = (action.runIn session).2.redacted

theorem indistinct_rule (result : Except Failure α) :
    (liftM result : Action α).Indistinct (liftM result) :=
  fun _ _ hsame => ⟨rfl, hsame⟩

theorem indistinct_note (level : Level) (message : String) :
    (note level message).Indistinct (note level message) := by
  intro session otherSession hsame
  obtain ⟨sent, rfl, hsent⟩ := Session.eq_of_redacted hsame
  exact ⟨rfl, by simp [Session.redacted, Session.note, hsent]⟩

theorem indistinct_renameThread (name : Value) :
    (renameThread name).Indistinct (renameThread name) := by
  intro session otherSession hsame
  obtain ⟨sent, rfl, hsent⟩ := Session.eq_of_redacted hsame
  exact ⟨rfl, by simp [Session.redacted, Session.renameThread, hsent]⟩

theorem indistinct_exchange {request other : Request}
    (hrequest : other.redacted = request.redacted) :
    (exchange request).Indistinct (exchange other) := by
  intro session otherSession hsame
  obtain ⟨sent, rfl, hsent⟩ := Session.eq_of_redacted hsame
  exact ⟨rfl, by simp [Session.redacted, Session.exchange, hsent, hrequest]⟩

theorem indistinct_askActivity : askActivity.Indistinct askActivity := by
  intro session otherSession hsame
  obtain ⟨sent, rfl, hsent⟩ := Session.eq_of_redacted hsame
  exact ⟨rfl, by simp [Session.redacted, Session.askActivity, hsent]⟩

theorem indistinct_askClock : askClock.Indistinct askClock := by
  intro session otherSession hsame
  obtain ⟨sent, rfl, hsent⟩ := Session.eq_of_redacted hsame
  exact ⟨rfl, by simp [Session.redacted, Session.askClock, hsent]⟩

theorem indistinct_repliesLeft : repliesLeft.Indistinct repliesLeft := by
  intro session otherSession hsame
  obtain ⟨sent, rfl, -⟩ := Session.eq_of_redacted hsame
  exact ⟨rfl, hsame⟩

theorem Indistinct.bind {action other : Action α} {next otherNext : α → Action β}
    (haction : action.Indistinct other) (hnext : ∀ a, (next a).Indistinct (otherNext a)) :
    (action >>= next).Indistinct (other >>= otherNext) := by
  intro session otherSession hsame
  obtain ⟨hresult, hleft⟩ := haction session otherSession hsame
  rw [runIn_bind, runIn_bind]
  rcases hrun : action.runIn session with ⟨result, left⟩
  rcases hother : other.runIn otherSession with ⟨otherResult, otherLeft⟩
  rw [hrun, hother] at hresult hleft
  cases hresult
  cases result with
  | ok a => exact hnext a left otherLeft hleft
  | error failure => exact ⟨rfl, hleft⟩

theorem Indistinct.tryCatch {action other : Action α} {rescue otherRescue : Failure → Action α}
    (haction : action.Indistinct other)
    (hrescue : ∀ failure, (rescue failure).Indistinct (otherRescue failure)) :
    (tryCatch action rescue).Indistinct (tryCatch other otherRescue) := by
  intro session otherSession hsame
  obtain ⟨hresult, hleft⟩ := haction session otherSession hsame
  rw [runIn_tryCatch, runIn_tryCatch]
  rcases hrun : action.runIn session with ⟨result, left⟩
  rcases hother : other.runIn otherSession with ⟨otherResult, otherLeft⟩
  rw [hrun, hother] at hresult hleft
  cases hresult
  cases result with
  | ok a => exact ⟨rfl, hleft⟩
  | error failure => exact hrescue failure left otherLeft hleft

/-- Nothing can be told apart of actions that take the same steps. -/
theorem InStep.indistinct {action other : Action α} (hsteps : action.InStep other) :
    action.Indistinct other := by
  induction hsteps with
  | rule result => exact indistinct_rule result
  | note _ message => exact indistinct_note _ message
  | exchange hsame => exact indistinct_exchange hsame
  | askActivity => exact indistinct_askActivity
  | askClock => exact indistinct_askClock
  | repliesLeft => exact indistinct_repliesLeft
  | bind _ _ ihaction ihnext => exact ihaction.bind ihnext
  | tryCatch _ _ ihaction ihrescue => exact ihaction.tryCatch ihrescue

end Action

/-! ## Calls -/

/-- A failure is reported without a trace of the token. -/
theorem Failure.indistinct_report (failure : Failure) (empty : Response) :
    (failure.report empty).Indistinct (failure.report empty) := by
  apply failure.inStep_status.indistinct.bind
  intro status
  exact (indistinct_note _ _).bind fun _ => indistinct_rule (.ok _)

theorem indistinct_supervised {handler other : Action Answer} (empty : Response)
    (hhandler : handler.Indistinct other) :
    (supervised empty handler).Indistinct (supervised empty other) :=
  hhandler.tryCatch fun failure => failure.indistinct_report empty

theorem indistinct_describePlugin (configuration : Configuration) :
    (describePlugin configuration).Indistinct (describePlugin configuration) := by
  apply (indistinct_rule _).bind
  intro name
  apply (indistinct_rule _).bind
  intro version
  split
  · exact indistinct_rule (.ok _)
  · exact (indistinct_note _ _).bind fun _ => indistinct_rule (.ok _)

/-- Nothing can be told apart of a call in environments in which the same variables are set. -/
theorem Call.indistinct_perform {setting : Setting} {environment : Environment}
    (hset : setting.environment.SetAlike environment) (call : Call) :
    (call.perform setting).Indistinct (call.perform (setting.within environment)) := by
  have hanswer : (call.answer setting).Indistinct (call.answer (setting.within environment)) := by
    by_cases hcall : call = .getPluginInfo
    · rw [hcall]
      exact indistinct_describePlugin setting.configuration
    · exact (inStep_answer hset hcall).indistinct
  have hguarded : (call.guarded setting).Indistinct
      (call.guarded (setting.within environment)) := by
    unfold guarded
    split
    · exact indistinct_supervised call.emptyResponse hanswer
    · exact hanswer
  have hlogged : (do
        Action.renameThread call.subject
        Action.info call.name
        let answer ← call.guarded setting
        Action.info (String.join ["finished ", call.name])
        return answer : Action Answer).Indistinct (do
        Action.renameThread call.subject
        Action.info call.name
        let answer ← call.guarded (setting.within environment)
        Action.info (String.join ["finished ", call.name])
        return answer) := by
    apply (indistinct_renameThread _).bind
    intro _
    apply (indistinct_note _ _).bind
    intro _
    apply hguarded.bind
    intro answer
    exact (indistinct_note _ _).bind fun _ => indistinct_rule (.ok _)
  cases call with
  | probe => exact hanswer
  | _ => exact hlogged

/-! ## Environments that agree but for one variable -/

/-- Two environments that differ in the value of one variable at most, which has a value that is not
empty in both or in neither. -/
structure Environment.AgreeBut (variableName : String) (environment other : Environment) :
    Prop where
  others : ∀ name, name ≠ variableName → other.lookup name = environment.lookup name
  isSet : (∃ value, other.lookup variableName = some value ∧ value ≠ "") ↔
    ∃ value, environment.lookup variableName = some value ∧ value ≠ ""

namespace Environment.AgreeBut

variable {variableName : String} {environment other : Environment}

/-- Every other variable reads the same. -/
theorem read_eq (hagree : environment.AgreeBut variableName other) {name : Value}
    (hname : name ≠ .text variableName) : other.read name = environment.read name := by
  cases name with
  | text text =>
      have hother : text ≠ variableName := fun hsame => hname (by rw [hsame])
      simp only [Environment.read, Value.requireText, ok_bind, hagree.others text hother]
  | _ => rfl

/-- The same variables are set. -/
theorem setAlike (hagree : environment.AgreeBut variableName other) :
    environment.SetAlike other := by
  intro name
  by_cases hname : name = .text variableName
  · -- The one variable that may differ is set in both environments or in neither.
    rw [hname]
    by_cases hvalue : ∃ value, environment.lookup variableName = some value ∧ value ≠ ""
    · obtain ⟨otherValue, hother, hfull⟩ := hagree.isSet.2 hvalue
      obtain ⟨value, hvalue, hsome⟩ := hvalue
      exact .inr ⟨value, otherValue, read_eq_some.2 ⟨variableName, rfl, hvalue, hsome⟩,
        read_eq_some.2 ⟨variableName, rfl, hother, hfull⟩⟩
    · have hnone : environment.read (.text variableName) = .ok none :=
        read_eq_none.2 ⟨variableName, rfl, fun value hsome =>
          by_contra fun hfull => hvalue ⟨value, hsome, hfull⟩⟩
      have hotherNone : other.read (.text variableName) = .ok none :=
        read_eq_none.2 ⟨variableName, rfl, fun value hsome =>
          by_contra fun hfull => hvalue (hagree.isSet.1 ⟨value, hsome, hfull⟩)⟩
      exact .inl (hotherNone.trans hnone.symm)
  · exact .inl (hagree.read_eq hname)

/-- The region is the same where the configuration does not look for it in the one variable. -/
theorem regionOf_eq (hagree : environment.AgreeBut variableName other)
    {configuration : Configuration}
    (hregion : configuration.regionVariable ≠ .ok (.text variableName)) :
    regionOf other configuration = regionOf environment configuration := by
  unfold regionOf
  cases hname : configuration.regionVariable with
  | error failure => rfl
  | ok name =>
      rw [ok_bind, ok_bind, hagree.read_eq]
      rintro rfl
      exact hregion hname

end Environment.AgreeBut

/-! ## Runs that agree but for one variable -/

/-- A step as it is made in two runs: the same in both, or setting environments that agree. No
configuration that is set names the one variable for the region. -/
inductive Step.AgreeBut (variableName : String) : Step → Step → Prop
  | same {step : Step}
      (hregion : ∀ configuration, step = .setConfiguration configuration →
        configuration.regionVariable ≠ .ok (.text variableName)) :
      Step.AgreeBut variableName step step
  | environment {environment other : Environment}
      (hagree : environment.AgreeBut variableName other) :
      Step.AgreeBut variableName (.setEnvironment environment) (.setEnvironment other)

/-- What a step comes to, without what is secret: tokens and what is made of them. -/
def Outcome.redacted : Outcome → Outcome
  | .answered result sent => .answered result (sent.map Request.redacted)
  | .client result => .client (result.map (·.withToken ""))
  | outcome => outcome

/-- A report without what is secret. -/
def Report.redacted (report : Report) : Report :=
  { report with outcome := report.outcome.redacted }

namespace Service

/-- Two services that differ in the value of one variable at most. -/
structure AgreeBut (variableName : String) (service other : Service) : Prop where
  environment : service.environment.AgreeBut variableName other.environment
  configuration : other.configuration = service.configuration
  region : other.region = service.region
  thread : other.thread = service.thread
  logger : other.logger = service.logger
  regionVariable : service.configuration.regionVariable ≠ .ok (.text variableName)

variable {variableName : String} {service other : Service}

/-- Services that agree choose the same region. -/
theorem AgreeBut.chooseRegion_eq (hagree : service.AgreeBut variableName other) (given : Value) :
    chooseRegion other.environment other.configuration given =
      chooseRegion service.environment service.configuration given := by
  unfold chooseRegion
  rw [hagree.configuration, hagree.environment.regionOf_eq hagree.regionVariable]

/-- What is left of a step shows the same where its session and its outcome do. -/
theorem AgreeBut.leave (hagree : service.AgreeBut variableName other)
    {session otherSession : Session} (hsession : otherSession.redacted = session.redacted)
    {outcome otherOutcome : Outcome} (houtcome : otherOutcome.redacted = outcome.redacted) :
    (other.leave otherSession otherOutcome).1.redacted =
        (service.leave session outcome).1.redacted ∧
      (service.leave session outcome).2.AgreeBut variableName
        (other.leave otherSession otherOutcome).2 := by
  obtain ⟨sent, rfl, -⟩ := Session.eq_of_redacted hsession
  constructor
  · simp only [Service.leave, Report.redacted, houtcome, hagree.logger]
  · exact ⟨hagree.environment, hagree.configuration, hagree.region, rfl, hagree.logger,
      hagree.regionVariable⟩

/-- What a service becomes is reported the same where the outcome is. -/
theorem AgreeBut.become (hagree : service.AgreeBut variableName other) {outcome : Outcome} :
    (other.become outcome).1.redacted = (service.become outcome).1.redacted ∧
      (service.become outcome).2.AgreeBut variableName (other.become outcome).2 := by
  constructor
  · simp only [Service.become, Report.redacted, hagree.thread]
  · exact hagree

/-- The settings of services that agree differ in their environments. -/
theorem AgreeBut.setting_eq (hagree : service.AgreeBut variableName other) :
    other.setting = service.setting.within other.environment := by
  rw [setting, setting, Setting.within, hagree.configuration, hagree.region]

/-- A call shows the same in services that agree. -/
theorem AgreeBut.step_call (hagree : service.AgreeBut variableName other) (call : Call)
    (context : CallContext) (replies : List Reply) :
    (other.step (.call call context replies)).1.redacted =
        (service.step (.call call context replies)).1.redacted ∧
      (service.step (.call call context replies)).2.AgreeBut variableName
        (other.step (.call call context replies)).2 := by
  have hset : service.setting.environment.SetAlike other.environment :=
    hagree.environment.setAlike
  have hsession : (other.sessionFor context replies).redacted =
      (service.sessionFor context replies).redacted := by
    rw [sessionFor, sessionFor, hagree.thread]
  obtain ⟨hresult, hleft⟩ := Call.indistinct_perform hset call _ _ hsession
  rw [← hagree.setting_eq] at hresult hleft
  apply hagree.leave hleft
  have hsent := congrArg Session.sent hleft
  exact congrArg₂ Outcome.answered hresult hsent

/-- Opening a client shows the same in services that agree. -/
theorem AgreeBut.step_openClient (hagree : service.AgreeBut variableName other) :
    (other.step .openClient).1.redacted = (service.step .openClient).1.redacted ∧
      (service.step .openClient).2.AgreeBut variableName (other.step .openClient).2 := by
  have hset : service.setting.environment.SetAlike other.environment :=
    hagree.environment.setAlike
  obtain ⟨token, hclient⟩ := Setting.client_within hset
  have hrun := runIn_map (·.withToken token) service.setting.client { thread := service.thread }
  rw [← hclient, ← hagree.setting_eq] at hrun
  have hsession : (other.setting.client.runIn { thread := other.thread }).2.redacted =
      (service.setting.client.runIn { thread := service.thread }).2.redacted := by
    rw [hagree.thread, hrun]
  have houtcome :
      (Outcome.client (other.setting.client.runIn { thread := other.thread }).1).redacted =
      (Outcome.client (service.setting.client.runIn { thread := service.thread }).1).redacted := by
    rw [hagree.thread, hrun]
    cases (service.setting.client.runIn { thread := service.thread }).1 <;> rfl
  exact hagree.leave hsession houtcome

/-- A step that is made in both of two services that agree is reported the same, and leaves services
that agree. -/
theorem AgreeBut.step (hagree : service.AgreeBut variableName other) {step otherStep : Step}
    (hstep : step.AgreeBut variableName otherStep) :
    (other.step otherStep).1.redacted = (service.step step).1.redacted ∧
      (service.step step).2.AgreeBut variableName (other.step otherStep).2 := by
  cases hstep with
  | @environment environment otherEnvironment hother =>
      have hnext : AgreeBut variableName { service with environment := environment }
          { other with environment := otherEnvironment } := { hagree with environment := hother }
      exact hnext.become
  | same hsame =>
      cases step with
      | call call context replies => exact hagree.step_call call context replies
      | openClient => exact hagree.step_openClient
      | findRegion =>
          have hfound := hagree.environment.regionOf_eq hagree.regionVariable
          simp only [Service.step, hagree.configuration, hfound]
          exact hagree.become
      | setEnvironment environment =>
          have hnext : AgreeBut variableName { service with environment := environment }
              { other with environment := environment } :=
            { hagree with environment := ⟨fun _ _ => rfl, Iff.rfl⟩ }
          exact hnext.become
      | setConfiguration configuration =>
          have hnext : AgreeBut variableName { service with configuration := configuration }
              { other with configuration := configuration } :=
            { hagree with configuration := rfl, regionVariable := hsame configuration rfl }
          exact hnext.become
      | setUp given =>
          simp only [Service.step, hagree.chooseRegion_eq]
          cases chooseRegion service.environment service.configuration given with
          | error failure => exact hagree.become
          | ok region =>
              have hnext : AgreeBut variableName { service with region := region }
                  { other with region := region } := { hagree with region := rfl }
              exact hnext.become
      | setThread name =>
          simp only [Service.step, hagree.thread]
          have hnext (thread : String) : AgreeBut variableName { service with thread := thread }
              { other with thread := thread } := { hagree with thread := rfl }
          exact (hnext _).become
      | setLogLevel name =>
          simp only [Service.step, hagree.logger]
          cases service.logger.set name with
          | error failure => exact hagree.become
          | ok logger =>
              have hnext : AgreeBut variableName { service with logger := logger }
                  { other with logger := logger } := { hagree with logger := rfl }
              exact hnext.become

/-- Runs of services that agree show the same and leave services that agree. -/
theorem AgreeBut.run (hagree : service.AgreeBut variableName other) {steps otherSteps : List Step}
    (hsteps : List.Forall₂ (Step.AgreeBut variableName) steps otherSteps) :
    (other.run otherSteps).1.map Report.redacted = (service.run steps).1.map Report.redacted ∧
      (service.run steps).2.AgreeBut variableName (other.run otherSteps).2 := by
  induction hsteps generalizing service other with
  | nil => exact ⟨rfl, hagree⟩
  | cons hstep _ ih =>
      obtain ⟨hreport, hnext⟩ := hagree.step hstep
      obtain ⟨hreports, hlast⟩ := ih hnext
      rw [run_cons, run_cons, List.map_cons, List.map_cons, hreport, hreports]
      exact ⟨rfl, hlast⟩

/-- What can be seen of a service that is set up and makes steps: the reports without what is secret
and the region at the end. -/
def seen (environment : Environment) (configuration : Configuration) (given : Value)
    (steps : List Step) : Except Failure (List Report × Value) := do
  let service ← start environment configuration given
  let (reports, last) := service.run steps
  return (reports.map Report.redacted, last.region)

/-- Runs that differ in the value of one variable, which no configuration names for the region, look
the same. Only the authorization of requests may tell them apart. -/
theorem token_unseen {variableName : String} {environment other : Environment}
    (henvironment : environment.AgreeBut variableName other) {configuration : Configuration}
    (hregion : configuration.regionVariable ≠ .ok (.text variableName)) (given : Value)
    {steps otherSteps : List Step}
    (hsteps : List.Forall₂ (Step.AgreeBut variableName) steps otherSteps) :
    seen other configuration given otherSteps = seen environment configuration given steps := by
  have hchosen : chooseRegion other configuration given =
      chooseRegion environment configuration given := by
    unfold chooseRegion
    rw [henvironment.regionOf_eq hregion]
  unfold seen start
  rw [hchosen]
  cases hfound : chooseRegion environment configuration given with
  | error failure => rfl
  | ok region =>
      have hagree : AgreeBut variableName ⟨environment, configuration, region, "MainThread", {}⟩
          ⟨other, configuration, region, "MainThread", {}⟩ :=
        ⟨henvironment, rfl, rfl, rfl, rfl, hregion⟩
      obtain ⟨hreports, hlast⟩ := hagree.run hsteps
      exact congrArg Except.ok (Prod.ext hreports hlast.region)

/-- Environments of a region that hold different tokens agree but for the token. -/
theorem environmentOf_agreeBut (region : String) {token other : String} (htoken : token ≠ "")
    (hother : other ≠ "") :
    (environmentOf region token).AgreeBut "DIGITALOCEAN_ACCESS_TOKEN"
      (environmentOf region other) where
  others := by
    intro name hname
    have hdiffers : (name == "DIGITALOCEAN_ACCESS_TOKEN") = false := beq_eq_false_iff_ne.2 hname
    simp only [environmentOf, List.lookup_cons, hdiffers]
  isSet := by
    constructor
    · intro _
      exact ⟨token, rfl, htoken⟩
    · intro _
      exact ⟨other, rfl, hother⟩

/-- A service that lists its volumes behind a change of its environment shows the same with one
token as with another, although its requests are not the same. -/
theorem listing_seen_alike :
    seen (environmentOf "fra1" "second") .standard .null
        [.setEnvironment (environmentOf "ams3" "fourth"),
          .call (.listVolumes {}) {} [.answer 200 "\x7b\x7d"]] =
      seen (environmentOf "fra1" "first") .standard .null
        [.setEnvironment (environmentOf "ams3" "third"),
          .call (.listVolumes {}) {} [.answer 200 "\x7b\x7d"]] ∧
    (inRegion "ams3" "fourth").requestsOf (.listVolumes {}) {} [.answer 200 "\x7b\x7d"] ≠
      (inRegion "ams3" "third").requestsOf (.listVolumes {}) {} [.answer 200 "\x7b\x7d"] := by
  have hstandard : Configuration.standard.regionVariable ≠
      .ok (.text "DIGITALOCEAN_ACCESS_TOKEN") := by
    rw [show Configuration.standard.regionVariable = .ok (.text "BLOCK_CSI_REGION") from rfl]
    simp
  refine ⟨?_, by decide +kernel⟩
  apply token_unseen (environmentOf_agreeBut "fra1" (by decide) (by decide)) hstandard
  apply List.Forall₂.cons
  · exact .environment (environmentOf_agreeBut "ams3" (by decide) (by decide))
  · apply List.Forall₂.cons _ .nil
    apply Step.AgreeBut.same
    intro configuration himpossible
    cases himpossible

end Service

end VolumePlugin
