/-
# The service and its runs

A service has an environment, a configuration, a region that is chosen when the service is set
up, the name of its thread and a logger. Steps change these or make a call; the environment and
the configuration count as they are at each step, while the region stays until the service is
set up again. Each step is reported with the name of the thread behind it and with the entries
that the logger let through.
-/
import VolumePlugin.Call.Perform

namespace VolumePlugin

/-- What the caller of a call says: whether it still waits, and how much time it leaves. -/
structure CallContext where
  activity : Cue Bool := ⟨true, []⟩
  clock : Cue Value := ⟨.null, []⟩

/-- The state of a service. -/
structure Service where
  environment : Environment
  configuration : Configuration
  region : Value
  thread : String := "MainThread"
  logger : Logger := {}

/-- What can be done with a service. -/
inductive Step
  | call (call : Call) (context : CallContext) (replies : List Reply)
  | setUp (region : Value)
  | findRegion
  | openClient
  | setEnvironment (environment : Environment)
  | setConfiguration (configuration : Configuration)
  | setThread (name : Value)
  | setLogLevel (name : Value)

/-- What a step has for a result. -/
inductive Outcome
  | answered (result : Except Failure Answer) (sent : List Request)
  | region (result : Except Failure Value)
  | client (result : Except Failure Client)
  | changed
  | threadSet
  | logLevel (result : Except Failure Unit) (logger : Logger)

/-- What is reported of a step. -/
structure Report where
  outcome : Outcome
  thread : String
  log : List Entry := []

namespace Service

/-- The region of a service: the one that is given, or else the one found in the settings. -/
def chooseRegion (environment : Environment) (configuration : Configuration) (given : Value) :
    Except Failure Value :=
  if given.truthy then .ok given else regionOf environment configuration

/-- A service in its first state. -/
def start (environment : Environment) (configuration : Configuration) (region : Value) :
    Except Failure Service :=
  return {
    environment := environment
    configuration := configuration
    region := ← chooseRegion environment configuration region }

/-- Where the calls of a service are made. -/
def setting (service : Service) : Setting :=
  ⟨service.environment, service.configuration, service.region⟩

/-- The report of a step that did something in a session, and the service behind it. -/
def leave (service : Service) (session : Session) (outcome : Outcome) : Report × Service :=
  (⟨outcome, session.thread, session.log.filter service.logger.admits⟩,
    { service with thread := session.thread })

/-- The report of a step that changed the service itself. -/
def become (service : Service) (outcome : Outcome) : Report × Service :=
  (⟨outcome, service.thread, []⟩, service)

/-- Make one step. -/
def step (service : Service) : Step → Report × Service
  | .call call context replies =>
    let (result, session) := (call.perform service.setting).runIn {
      thread := service.thread
      replies := replies
      activity := context.activity
      clock := context.clock }
    service.leave session (.answered result session.sent)
  | .setUp given =>
    match chooseRegion service.environment service.configuration given with
    | .ok region => become { service with region := region } (.region (.ok region))
    | .error failure => become service (.region (.error failure))
  | .findRegion => become service (.region (regionOf service.environment service.configuration))
  | .openClient =>
    let (result, session) := service.setting.client.runIn { thread := service.thread }
    service.leave session (.client result)
  | .setEnvironment environment => become { service with environment := environment } .changed
  | .setConfiguration configuration =>
    become { service with configuration := configuration } .changed
  | .setThread name =>
    let session := Session.renameThread name { thread := service.thread }
    become { service with thread := session.thread } .threadSet
  | .setLogLevel name =>
    match service.logger.set name with
    | .ok logger => become { service with logger := logger } (.logLevel (.ok ()) logger)
    | .error failure => become service (.logLevel (.error failure) service.logger)

/-- Make steps one after the other. -/
def run (service : Service) : List Step → List Report × Service
  | [] => ([], service)
  | step :: rest =>
    let (report, next) := service.step step
    let (reports, last) := next.run rest
    (report :: reports, last)

end Service

end VolumePlugin
