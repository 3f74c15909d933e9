/-
# What the log level does

A service logs more or less as its level is set, and does nothing else by it. Where steps that set
the level are inserted into a run, the other steps come to the same as without them. Each of these
logs what it logs at the lowest level, as far as the level lets it through that was set last, and
which level this is follows from the steps alone.

The level is kept as a name and as a number. A service holds the number of the name from its start
on, since a name that is no level's changes neither.
-/
import VolumePlugin.Proofs.Reporting
import VolumePlugin.Proofs.RequestOrder

namespace VolumePlugin

/-! ## Levels by name -/

/-- A name in the case that levels are named in. -/
def upperName (name : String) : String :=
  String.ofList (Text.upper name.toList)

/-- The number from which on a level lets entries through: its own, or the general one where it
stands for none. -/
def effectiveNumber (level : String) : Int :=
  if level = "NOTSET" then generalLevel else (levelNumbers.lookup level).getD generalLevel

/-- The level of number zero is the one that stands for none. -/
theorem lookup_eq_zero_iff {level : String} :
    levelNumbers.lookup level = some 0 ↔ level = "NOTSET" := by
  constructor
  · intro hzero
    obtain ⟨before, behind, hsplit, -⟩ := List.lookup_eq_some_iff.1 hzero
    have hmember : (level, (0 : Int)) ∈ levelNumbers := by
      rw [hsplit]
      simp
    simpa [levelNumbers] using hmember
  · rintro rfl
    decide

/-- The level behind a step, by its name: the one that the step sets, where there is such a level,
and else the one before. -/
def Step.levelBehind (level : String) : Step → String
  | .setLogLevel (.text name) =>
    if (levelNumbers.lookup (upperName name)).isSome then upperName name else level
  | _ => level

/-- The levels before steps that are made one after the other. -/
def levelsAlong (level : String) : List Step → List String
  | [] => []
  | step :: rest => level :: levelsAlong (step.levelBehind level) rest

/-! ## Setting the level -/

namespace Logger

variable {logger : Logger}

/-- A logger that holds the number of the name that it was set to. -/
def IsNumbered (logger : Logger) : Prop :=
  levelNumbers.lookup logger.level = some logger.number

/-- Such a logger lets entries through by the name of its level. -/
theorem IsNumbered.admits_eq (hnumber : logger.IsNumbered) (entry : Entry) :
    logger.admits entry = decide (effectiveNumber logger.level ≤ entry.level.number) := by
  have hthreshold : logger.threshold = effectiveNumber logger.level := by
    unfold threshold effectiveNumber
    rw [hnumber, Option.getD_some]
    by_cases hzero : logger.number = 0
    · rw [if_pos hzero, if_pos]
      rw [← lookup_eq_zero_iff, ← hzero]
      exact hnumber
    · rw [if_neg hzero, if_neg]
      rw [← lookup_eq_zero_iff, hnumber, Option.some.injEq]
      exact hzero
  rw [admits, hthreshold]

/-- What is empty keeps the level. -/
theorem set_of_empty {name : Value} (hempty : name.truthy = false) :
    logger.set name = .ok logger := by
  simp [set, hempty]

/-- The name of a level sets it, in any case. -/
theorem set_of_known {name : String} {number : Int}
    (hknown : levelNumbers.lookup (upperName name) = some number) :
    logger.set (.text name) = .ok ⟨upperName name, number⟩ := by
  have hname : name ≠ "" := by
    rintro rfl
    cases hknown
  have hset : logger.set (.text name) = setByName name := by
    simp [set, Value.truthy, hname]
  rw [upperName] at hknown ⊢
  rw [hset, setByName, hknown]

/-- Another name is refused. -/
theorem set_of_unknown {name : String} (hname : name ≠ "")
    (hunknown : levelNumbers.lookup (upperName name) = none) :
    logger.set (.text name) = .error (.unknownLogLevel name) := by
  have hset : logger.set (.text name) = setByName name := by
    simp [set, Value.truthy, hname]
  rw [upperName] at hunknown
  rw [hset, setByName, hunknown]

/-- A value that is no text does not set the level. -/
theorem set_of_no_text {name : Value} (hname : ∀ text, name ≠ .text text) :
    (logger.set name).toOption.getD logger = logger := by
  unfold set
  split
  · cases name with
    | text text => exact (hname text rfl).elim
    | _ => rfl
  · rfl

/-- A logger holds its level by name and number wherever it is set. -/
theorem IsNumbered.set (hnumber : logger.IsNumbered) (name : Value) :
    ((logger.set name).toOption.getD logger).IsNumbered ∧
      ((logger.set name).toOption.getD logger).level =
        (Step.setLogLevel name).levelBehind logger.level := by
  cases name with
  | text name =>
      rw [Step.levelBehind]
      cases hlookup : levelNumbers.lookup (upperName name) with
      | some number =>
          rw [set_of_known hlookup]
          exact ⟨hlookup, rfl⟩
      | none =>
          by_cases hname : name = ""
          · have hempty : (Value.text name).truthy = false := by rw [hname]; rfl
            rw [set_of_empty hempty]
            exact ⟨hnumber, rfl⟩
          · rw [set_of_unknown hname hlookup]
            exact ⟨hnumber, rfl⟩
  | _ =>
      rw [set_of_no_text (by simp)]
      exact ⟨hnumber, rfl⟩

/-- Whether a level is set does not depend on the one before. -/
theorem set_unit (logger other : Logger) (name : Value) :
    (other.set name).map (fun _ => ()) = (logger.set name).map fun _ => () := by
  unfold set
  split
  · cases name <;> rfl
  · rfl

end Logger

namespace Service

variable (service : Service)

/-- A service with another logger. -/
def logging (service : Service) (logger : Logger) : Service :=
  { service with logger := logger }

/-- A step that sets the level tells whether it could, and changes the logger at most. -/
theorem step_setLogLevel (name : Value) :
    service.step (.setLogLevel name) =
      (⟨.logLevel ((service.logger.set name).map fun _ => ())
          ((service.logger.set name).toOption.getD service.logger), service.thread, []⟩,
        service.logging ((service.logger.set name).toOption.getD service.logger)) := by
  simp only [step]
  cases service.logger.set name <;> rfl

/-- A step leaves the logger at the level that it sets. -/
theorem logger_step (hnumber : service.logger.IsNumbered) (step : Step) :
    (service.step step).2.logger.IsNumbered ∧
      (service.step step).2.logger.level = step.levelBehind service.logger.level := by
  cases step with
  | setLogLevel name =>
      rw [step_setLogLevel]
      exact hnumber.set name
  | setUp given =>
      simp only [Service.step]
      split <;> exact ⟨hnumber, rfl⟩
  | _ => exact ⟨hnumber, rfl⟩

/-- Behind steps the logger holds the level that was set last, by name and number. -/
theorem logger_run (hnumber : service.logger.IsNumbered) (steps : List Step) :
    (service.run steps).2.logger.IsNumbered ∧
      (service.run steps).2.logger.level =
        steps.foldl Step.levelBehind service.logger.level := by
  induction steps generalizing service with
  | nil => exact ⟨hnumber, rfl⟩
  | cons step rest ih =>
      obtain ⟨hnext, hlevel⟩ := service.logger_step hnumber step
      rw [run_cons, List.foldl_cons, ← hlevel]
      exact ih _ hnext

end Service

/-! ## Services that differ in their loggers -/

/-- What a step comes to, without the level that it leaves. -/
def Outcome.unleveled : Outcome → Outcome
  | .logLevel result _ => .logLevel result {}
  | outcome => outcome

/-- A report without the log and the level. -/
def Report.unleveled (report : Report) : Report :=
  { report with outcome := report.outcome.unleveled, log := [] }

/-- A step as it is made while the level stays. -/
def Step.levelKept : Step → Step
  | .setLogLevel _ => .setLogLevel .null
  | step => step

namespace Service

variable (service : Service)

/-- A step comes to the same whatever the logger, and changes the same. -/
theorem step_logging (logger : Logger) (step : Step) :
    ((service.logging logger).step step).1.unleveled = (service.step step).1.unleveled ∧
      ∃ next, ((service.logging logger).step step).2 = (service.step step).2.logging next := by
  cases step with
  | setLogLevel name =>
      rw [step_setLogLevel, step_setLogLevel]
      constructor
      · simp only [Report.unleveled, Outcome.unleveled, Logger.set_unit logger service.logger name]
        rfl
      · exact ⟨_, rfl⟩
  | setUp given =>
      simp only [Service.step, logging]
      cases chooseRegion service.environment service.configuration given <;> exact ⟨rfl, _, rfl⟩
  | _ => exact ⟨rfl, logger, rfl⟩

/-- A step logs what it logs at the lowest level, as far as the logger lets it through. -/
theorem log_step (step : Step) :
    (service.step step).1.log =
        ((service.logging {}).step step.levelKept).1.log.filter service.logger.admits ∧
      ((service.logging {}).step step.levelKept).2 = (service.step step).2.logging {} := by
  have hall : ({} : Logger).admits = fun _ => true :=
    funext (Logger.admits_of_debug rfl)
  have hleave (session : Session) (outcome : Outcome) :
      (service.leave session outcome).1.log =
        ((service.logging {}).leave session outcome).1.log.filter service.logger.admits := by
    simp only [leave, logging, hall, List.filter_true]
  cases step with
  | call call context replies => exact ⟨hleave _ _, rfl⟩
  | openClient => exact ⟨hleave _ _, rfl⟩
  | setLogLevel name =>
      rw [step_setLogLevel]
      exact ⟨rfl, rfl⟩
  | setUp given =>
      simp only [Service.step, Step.levelKept, logging]
      cases chooseRegion service.environment service.configuration given <;> exact ⟨rfl, rfl⟩
  | _ => exact ⟨rfl, rfl⟩

end Service

/-! ## Steps that are inserted -/

/-- A step of a run, or one that is inserted and sets the level. -/
inductive Turn
  | kept (step : Step)
  | inserted (level : Value)

/-- The step that is made. -/
def Turn.step : Turn → Step
  | .kept step => step
  | .inserted level => .setLogLevel level

/-- The steps of a run without those that are inserted. -/
def keptSteps (turns : List Turn) : List Step :=
  turns.filterMap fun
    | .kept step => some step
    | .inserted _ => none

theorem keptSteps_kept (step : Step) (turns : List Turn) :
    keptSteps (.kept step :: turns) = step :: keptSteps turns := rfl

/-- What belongs to the steps of a run, without what belongs to those that are inserted. -/
def keptOf {α : Type} : List Turn → List α → List α
  | .kept _ :: turns, a :: rest => a :: keptOf turns rest
  | .inserted _ :: turns, _ :: rest => keptOf turns rest
  | _, _ => []

namespace Service

variable (service : Service)

/-- The steps of a run come to the same where others that set the level are inserted. -/
theorem run_inserted (logger : Logger) (turns : List Turn) :
    (keptOf turns ((service.logging logger).run (turns.map Turn.step)).1).map Report.unleveled =
        (service.run (keptSteps turns)).1.map Report.unleveled ∧
      ∃ last, ((service.logging logger).run (turns.map Turn.step)).2 =
        (service.run (keptSteps turns)).2.logging last := by
  induction turns generalizing service logger with
  | nil => exact ⟨rfl, logger, rfl⟩
  | cons turn rest ih =>
      cases turn with
      | kept step =>
          obtain ⟨hreport, next, hnext⟩ := service.step_logging logger step
          obtain ⟨hreports, hlast⟩ := ih (service.step step).2 next
          rw [List.map_cons, Turn.step, run_cons, hnext, keptSteps_kept, run_cons, keptOf,
            List.map_cons, List.map_cons, hreport, hreports]
          exact ⟨rfl, hlast⟩
      | inserted level =>
          rw [List.map_cons, Turn.step, run_cons, step_setLogLevel]
          exact ih service _

/-- The steps of a run log what they log at the lowest level, as far as the level lets it through
that was set last, be it by a step of the run or by one that is inserted. -/
theorem log_inserted (hnumber : service.logger.IsNumbered) (turns : List Turn) :
    (keptOf turns (service.run (turns.map Turn.step)).1).map Report.log =
      List.zipWith (fun level log => log.filter (effectiveNumber level ≤ ·.level.number))
        (keptOf turns (levelsAlong service.logger.level (turns.map Turn.step)))
        (((service.logging {}).run ((keptSteps turns).map Step.levelKept)).1.map Report.log) := by
  have hadmits : service.logger.admits =
      fun entry => decide (effectiveNumber service.logger.level ≤ entry.level.number) :=
    funext hnumber.admits_eq
  induction turns generalizing service with
  | nil => rfl
  | cons turn rest ih =>
      obtain ⟨hnext, hlevel⟩ := service.logger_step hnumber turn.step
      have hrest := ih _ hnext (funext hnext.admits_eq)
      rw [hlevel] at hrest
      rw [List.map_cons, run_cons, levelsAlong]
      cases turn with
      | kept step =>
          obtain ⟨hlog, hloud⟩ := service.log_step step
          rw [keptSteps_kept, List.map_cons, run_cons, hloud, keptOf, keptOf, List.map_cons,
            List.map_cons, List.zipWith_cons_cons, ← hadmits, ← hlog]
          exact congrArg _ hrest
      | inserted level =>
          have hloud : (service.step (.setLogLevel level)).2.logging {} = service.logging {} := by
            rw [step_setLogLevel]
            rfl
          rw [Turn.step, hloud] at hrest
          exact hrest

/-- How a service takes names for its level. What is missing or empty keeps the level, and so does a
name that is no level's, which is refused; a level's name in any case sets it. -/
structure TakesLevels (service : Service) : Prop where
  kept : ∀ level, level = .null ∨ level = .text "" →
    service.step (.setLogLevel level) =
      (⟨.logLevel (.ok ()) service.logger, service.thread, []⟩, service)
  refused : ∀ name, name ≠ "" → levelNumbers.lookup (upperName name) = none →
    service.step (.setLogLevel (.text name)) =
      (⟨.logLevel (.error (.unknownLogLevel name)) service.logger, service.thread, []⟩, service)
  taken : ∀ name number, levelNumbers.lookup (upperName name) = some number →
    service.step (.setLogLevel (.text name)) =
      (⟨.logLevel (.ok ()) ⟨upperName name, number⟩, service.thread, []⟩,
        { service with logger := ⟨upperName name, number⟩ })

/-- A service takes names for its level in this way, whatever it was set to. -/
theorem takesLevels : service.TakesLevels where
  kept := by
    intro level hempty
    have htruthy : level.truthy = false := by
      rcases hempty with rfl | rfl <;> rfl
    rw [step_setLogLevel, Logger.set_of_empty htruthy]
    rfl
  refused := by
    intro name hname hunknown
    rw [step_setLogLevel, Logger.set_of_unknown hname hunknown]
    rfl
  taken := by
    intro name number hknown
    rw [step_setLogLevel, Logger.set_of_known hknown]
    rfl

/-- The log level decides what is logged and nothing else. Where steps that set it are inserted into
a run, the other steps come to the same, under the same thread names, and leave the same service but
for its logger; each logs what it logs at the lowest level, filtered by the level that was set last.
Behind every run the service has this level by name and number, and keeps it where a step does not
set another one. -/
theorem level_filters_log {environment : Environment} {configuration : Configuration}
    {given : Value} {service : Service}
    (hstart : start environment configuration given = .ok service) (turns : List Turn) :
    (keptOf turns (service.run (turns.map Turn.step)).1).map Report.unleveled =
      (service.run (keptSteps turns)).1.map Report.unleveled ∧
    (∃ logger, (service.run (turns.map Turn.step)).2 =
      { (service.run (keptSteps turns)).2 with logger := logger }) ∧
    (keptOf turns (service.run (turns.map Turn.step)).1).map Report.log =
      List.zipWith (fun level log => log.filter (effectiveNumber level ≤ ·.level.number))
        (keptOf turns (levelsAlong "DEBUG" (turns.map Turn.step)))
        ((service.run ((keptSteps turns).map Step.levelKept)).1.map Report.log) ∧
    (service.run (turns.map Turn.step)).2.logger.level =
      (turns.map Turn.step).foldl Step.levelBehind "DEBUG" ∧
    levelNumbers.lookup (service.run (turns.map Turn.step)).2.logger.level =
      some (service.run (turns.map Turn.step)).2.logger.number ∧
    (service.run (turns.map Turn.step)).2.TakesLevels := by
  obtain ⟨region, -, hservice⟩ := bind_eq_ok.1 hstart
  cases hservice
  set service : Service := ⟨environment, configuration, region, "MainThread", {}⟩
  have hnumber : service.logger.IsNumbered := by
    show levelNumbers.lookup "DEBUG" = some 10
    decide
  have hlogging : service.logging {} = service := rfl
  obtain ⟨hreports, last, hlast⟩ := service.run_inserted {} turns
  rw [hlogging] at hreports hlast
  obtain ⟨hnumbered, hlevel⟩ := service.logger_run hnumber (turns.map Turn.step)
  exact ⟨hreports, ⟨last, hlast⟩, service.log_inserted hnumber turns, hlevel, hnumbered,
    takesLevels _⟩

/-- Two calls that fail, and between them the level is set by names that are a level's or not. -/
def failuresBetweenLevels : List Turn :=
  [.inserted (.text "Error"), .kept (.call .getCapacity {} []), .inserted (.text "loud"),
    .kept (.setLogLevel .null), .inserted (.text "notset"),
    .kept (.call (.validateCapabilities {}) {} [])]

/-- Of these calls the failures are logged, and nothing else that they log at the lowest level. -/
theorem failures_between_levels :
    start [("DIGITALOCEAN_ACCESS_TOKEN", "token")] .standard (.text "nyc3") =
        .ok (withToken "token") ∧
      (keptOf failuresBetweenLevels
          ((withToken "token").run (failuresBetweenLevels.map Turn.step)).1).map Report.unleveled =
        ((withToken "token").run [.call .getCapacity {} [], .setLogLevel .null,
          .call (.validateCapabilities {}) {} []]).1.map Report.unleveled ∧
      (keptOf failuresBetweenLevels
          ((withToken "token").run (failuresBetweenLevels.map Turn.step)).1).map Report.log =
        [[⟨.error, "MainThread", ""⟩], [],
          [⟨.error, "MainThread",
            "Validation error has occurred : volume id should not be empty"⟩]] ∧
      ((withToken "token").run (failuresBetweenLevels.map Turn.step)).2.logger.level =
        "NOTSET" := by
  have hstart : start [("DIGITALOCEAN_ACCESS_TOKEN", "token")] .standard (.text "nyc3") =
      .ok (withToken "token") := rfl
  obtain ⟨hreports, -, hlogs, hlevel, -⟩ := level_filters_log hstart failuresBetweenLevels
  exact ⟨hstart, hreports, hlogs.trans (by decide +kernel), hlevel.trans (by decide)⟩

end Service

end VolumePlugin
