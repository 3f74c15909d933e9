/-
# The region and the token of requests

Two things that a request carries come from different points of a run. The region was chosen when
the service was last set up, from the environment and the configuration of that time. The token is
read anew for each call, from the environment and the configuration that were set last. Both are
stated from the steps of the run alone, without the service that they were made on.
-/
import VolumePlugin.Proofs.RequestTime

namespace VolumePlugin

/-! ## What steps set -/

/-- The environment and the configuration that a service has at some point. -/
structure Settings where
  environment : Environment
  configuration : Configuration

namespace Settings

/-- The settings behind a step. -/
def after (settings : Settings) : Step → Settings
  | .setEnvironment environment => { settings with environment := environment }
  | .setConfiguration configuration => { settings with configuration := configuration }
  | _ => settings

/-- The settings behind steps that are made one after the other. -/
def behind (settings : Settings) (steps : List Step) : Settings :=
  steps.foldl after settings

/-- The region that is chosen in some settings: the one that is given, or else what the variable
says that the configuration names, or else what the configuration says. -/
inductive Chooses (settings : Settings) (given : Value) : Value → Prop
  | given (hgiven : given.truthy = true) : settings.Chooses given given
  | named {name region : String} (hgiven : given.truthy = false)
      (hname : settings.configuration.regionVariable = .ok (.text name))
      (hset : settings.environment.lookup name = some region) (hregion : region ≠ "") :
      settings.Chooses given (.text region)
  | configured {name : String} {region : Value} (hgiven : given.truthy = false)
      (hname : settings.configuration.regionVariable = .ok (.text name))
      (hunset : ∀ region, settings.environment.lookup name = some region → region = "")
      (hregion : settings.configuration.region = .ok region) : settings.Chooses given region

end Settings

/-- A region is found in settings where it is the one to choose. -/
theorem Service.chooseRegion_eq_ok {settings : Settings} {given region : Value} :
    chooseRegion settings.environment settings.configuration given = .ok region ↔
      settings.Chooses given region := by
  unfold chooseRegion
  constructor
  · intro hchosen
    cases hgiven : given.truthy with
    | true =>
        rw [if_pos hgiven] at hchosen
        cases hchosen
        exact .given hgiven
    | false =>
        rw [if_neg (Bool.not_eq_true _ ▸ hgiven)] at hchosen
        obtain ⟨variableName, hname, hread⟩ := bind_eq_ok.1 hchosen
        obtain ⟨value, hvalue, hfound⟩ := bind_eq_ok.1 hread
        cases value with
        | some value =>
            cases hfound
            obtain ⟨name, rfl, hset, hvalue⟩ := Environment.read_eq_some.1 hvalue
            exact .named hgiven hname hset hvalue
        | none =>
            obtain ⟨name, rfl, hunset⟩ := Environment.read_eq_none.1 hvalue
            exact .configured hgiven hname hunset hfound
  · intro hchooses
    cases hchooses with
    | given hgiven => rw [if_pos hgiven]
    | @named name value hgiven hname hset hvalue =>
        rw [if_neg (Bool.not_eq_true _ ▸ hgiven), regionOf, hname, ok_bind,
          Environment.read_eq_some.2 ⟨name, rfl, hset, hvalue⟩]
        rfl
    | @configured name region hgiven hname hunset hregion =>
        rw [if_neg (Bool.not_eq_true _ ▸ hgiven), regionOf, hname, ok_bind,
          Environment.read_eq_none.2 ⟨name, rfl, hunset⟩]
        exact hregion

/-! ## The region of a service -/

/-- The region that was chosen where a service was last set up in some steps: at a step that sets it
up with a region to choose, behind which no other one does. -/
def Settings.LastChooses (settings : Settings) (steps : List Step) (region : Value) : Prop :=
  ∃ early given late, steps = early ++ .setUp given :: late ∧
    (settings.behind early).Chooses given region ∧
    ∀ between other rest, late = between ++ .setUp other :: rest →
      ∀ unheeded, ¬ (settings.behind (early ++ .setUp given :: between)).Chooses other unheeded

/-- A step that does not set up the service leaves the last choice as it was. -/
theorem Settings.LastChooses.concat {settings : Settings} {steps : List Step} {region : Value}
    (hlast : settings.LastChooses steps region) {step : Step}
    (hstep : ∀ given, step = .setUp given →
      ∀ unheeded, ¬ (settings.behind steps).Chooses given unheeded) :
    settings.LastChooses (steps ++ [step]) region := by
  obtain ⟨early, given, late, rfl, hchooses, hnone⟩ := hlast
  refine ⟨early, given, late ++ [step], by simp, hchooses, ?_⟩
  intro between other rest hlate
  -- A later place to set it up is either the new step or one of the steps before.
  rcases List.eq_nil_or_concat' rest with rfl | ⟨front, last, rfl⟩
  · obtain ⟨rfl, hlast⟩ := List.append_inj' hlate rfl
    cases hlast
    exact hstep other rfl
  · rw [← List.cons_append, ← List.append_assoc] at hlate
    exact hnone between other front (List.append_inj' hlate rfl).1

/-- A step that sets up the service with a region to choose makes the last choice. -/
theorem Settings.lastChooses_concat {settings : Settings} {steps : List Step}
    {given region : Value} (hchooses : (settings.behind steps).Chooses given region) :
    settings.LastChooses (steps ++ [.setUp given]) region :=
  ⟨steps, given, [], rfl, hchooses, by simp⟩

namespace Service

/-- The settings that a service has. -/
def settings (service : Service) : Settings :=
  ⟨service.environment, service.configuration⟩

/-- A step sets what it says. -/
theorem settings_step (service : Service) (step : Step) :
    (service.step step).2.settings = service.settings.after step := by
  cases step with
  | setUp given =>
      simp only [Service.step]
      split <;> rfl
  | setLogLevel name =>
      simp only [Service.step]
      split <;> rfl
  | _ => rfl

/-- The last step of a run is made where the steps before it left the service. -/
theorem run_concat (service : Service) (front : List Step) (step : Step) :
    (service.run (front ++ [step])).2 = ((service.run front).2.step step).2 := by
  rw [run_append]
  rfl

/-- Steps leave the settings behind that were set last. -/
theorem settings_run (service : Service) (steps : List Step) :
    (service.run steps).2.settings = service.settings.behind steps := by
  induction steps generalizing service with
  | nil => rfl
  | cons step rest ih =>
      rw [run_cons, ih, settings_step]
      rfl

/-- The region is chosen anew where a service is set up with a region to choose. -/
theorem region_setUp {service : Service} {given region : Value}
    (hchooses : service.settings.Chooses given region) :
    (service.step (.setUp given)).2.region = region := by
  have hchosen : chooseRegion service.environment service.configuration given = .ok region :=
    chooseRegion_eq_ok.2 hchooses
  simp only [step, hchosen]
  rfl

/-- Nothing else changes the region. -/
theorem region_step {service : Service} {step : Step}
    (hstep : ∀ given, step = .setUp given → ∀ region, ¬ service.settings.Chooses given region) :
    (service.step step).2.region = service.region := by
  cases step with
  | setUp given =>
      cases hchosen : chooseRegion service.environment service.configuration given with
      | ok region => exact (hstep given rfl region (chooseRegion_eq_ok.1 hchosen)).elim
      | error failure =>
          simp only [Service.step, hchosen]
          rfl
  | setLogLevel name =>
      simp only [Service.step]
      split <;> rfl
  | _ => rfl

/-- The region behind steps is the one that was chosen last. -/
theorem region_run {settings : Settings} {given : Value} {service : Service}
    (hstart : start settings.environment settings.configuration given = .ok service)
    (steps : List Step) :
    settings.LastChooses (.setUp given :: steps) (service.run steps).2.region := by
  obtain ⟨region, hchosen, hservice⟩ := bind_eq_ok.1 hstart
  cases hservice
  -- The last choice is found from the end, so this is where the induction adds a step.
  induction steps using List.reverseRec with
  | nil => exact ⟨[], given, [], rfl, chooseRegion_eq_ok.1 hchosen, by simp⟩
  | append_singleton steps step ih =>
      set service : Service := ⟨settings.environment, settings.configuration, region, _, _⟩
      have hsettings : (service.run steps).2.settings = settings.behind (.setUp given :: steps) :=
        service.settings_run steps
      rw [run_concat, ← List.cons_append]
      by_cases hsets : ∃ given region, step = .setUp given ∧
          (service.run steps).2.settings.Chooses given region
      · obtain ⟨given, region, rfl, hchooses⟩ := hsets
        rw [region_setUp hchooses]
        rw [hsettings] at hchooses
        exact Settings.lastChooses_concat hchooses
      · have hunset : ∀ given, step = .setUp given →
            ∀ region, ¬ (service.run steps).2.settings.Chooses given region :=
          fun given hstep region hchooses => hsets ⟨given, region, hstep, hchooses⟩
        rw [region_step hunset]
        rw [hsettings] at hunset
        exact ih.concat hunset

end Service

/-! ## What requests carry -/

/-- What a request says, by name. -/
def Content.members : Content → List (String × Value)
  | .none => []
  | .query parameters => parameters
  | .json members => members

/-- A request that says no other region than one, and says it unless it is empty or the request is
to delete. It proves that it may be made by the token that some settings hold. -/
structure Request.Bears (request : Request) (settings : Settings) (region : Value) : Prop where
  named : ∀ carried, ("region", carried) ∈ request.content.members → carried = region
  carries : request.method ≠ .delete → region.truthy = true →
    ("region", region) ∈ request.content.members
  token : ∃ name token, settings.configuration.tokenVariable = .ok (.text name) ∧
    settings.environment.lookup name = some token ∧ token ≠ "" ∧
    request.authorization = "Bearer " ++ token

/-- A member that may be left out is there under its own name, unless it is empty. -/
theorem Operation.mem_optional {name other : String} {value carried : Value} :
    (other, carried) ∈ optional name value ↔
      value.truthy = true ∧ other = name ∧ carried = value := by
  unfold optional
  split <;> simp [*]

/-- An operation in a region names this one and no other. -/
theorem Operation.region_of_isIn {operation : Operation} {region : Value}
    (hregion : operation.IsIn region) :
    (∀ carried, ("region", carried) ∈ operation.content.members → carried = region) ∧
      (operation.method ≠ .delete → region.truthy = true →
        ("region", region) ∈ operation.content.members) := by
  cases operation with
  | delete volumeId => simp [content, Content.members, method]
  | list =>
      cases hregion
      simp [content, Content.members, mem_optional]
  | create =>
      cases hregion
      simp [content, Content.members]
  | attach | detach =>
      cases hregion
      simp [content, Content.members, action, mem_optional]

namespace Service

/-- A call's requests bear the region of the service and the token of its settings. -/
theorem bears_of_call (service : Service) (call : Call) (context : CallContext)
    (replies : List Reply) {request : Request}
    (hrequest : request ∈ service.requestsOf call context replies) :
    request.Bears service.settings service.region := by
  obtain ⟨i, hi⟩ := List.getElem?_of_mem hrequest
  obtain ⟨client, timeout, operation, hclient, -, hregion, rfl⟩ :=
    service.request_of_call call context replies hi
  obtain ⟨hcarried, hcarries⟩ := Operation.region_of_isIn hregion
  obtain ⟨_, _, hname, hread, -⟩ := Setting.clientRule_eq_ok.1 hclient
  obtain ⟨name, rfl, hset, hvalue⟩ := Environment.read_eq_some.1 hread
  exact ⟨hcarried, hcarries, name, client.token, hname, hset, hvalue, rfl⟩

/-- The region of a service is the one that was chosen where it was last set up, and it changes at
no other step than one that sets it up again with a region to choose. Whatever was set since, the
requests of a call carry this region, and the token of the settings that the call is made in. -/
theorem region_and_token_in_run (settings : Settings) (given : Value) {service : Service}
    (hstart : start settings.environment settings.configuration given = .ok service)
    (front : List Step) (step : Step) (back : List Step) :
    settings.LastChooses (.setUp given :: front) (service.run front).2.region ∧
    (∀ later region, step = .setUp later → (settings.behind front).Chooses later region →
      (service.run (front ++ [step])).2.region = region) ∧
    ((∀ later, step = .setUp later → ∀ region, ¬ (settings.behind front).Chooses later region) →
      (service.run (front ++ [step])).2.region = (service.run front).2.region) ∧
    ∃ report, (service.run (front ++ step :: back)).1[front.length]? = some report ∧
      ∀ result sent, report.outcome = .answered result sent → ∀ request ∈ sent,
        request.Bears (settings.behind front) (service.run front).2.region := by
  have hsettings : (service.run front).2.settings = settings.behind front := by
    obtain ⟨region, -, hservice⟩ := bind_eq_ok.1 hstart
    cases hservice
    exact settings_run _ front
  rw [run_concat, ← hsettings]
  refine ⟨region_run hstart front, ?_, region_step, _, service.getElem?_run front step back, ?_⟩
  · rintro later region rfl hchooses
    exact region_setUp hchooses
  · intro result sent houtcome request hrequest
    cases step with
    | call call context replies =>
        rw [outcome_call] at houtcome
        cases houtcome
        exact bears_of_call _ call context replies hrequest
    | setUp later =>
        simp only [Service.step] at houtcome
        split at houtcome <;> cases houtcome
    | setLogLevel name =>
        simp only [Service.step] at houtcome
        split at houtcome <;> cases houtcome
    | _ => cases houtcome

/-- An environment that names a region and holds an access token. -/
def environmentOf (region token : String) : Environment :=
  [("BLOCK_CSI_REGION", region), ("DIGITALOCEAN_ACCESS_TOKEN", token)]

/-- A service that was set up in such an environment. -/
def inRegion (region token : String) : Service where
  environment := environmentOf region token
  configuration := .standard
  region := .text region

/-- A service that was set up in one region, and finds itself in an environment that names another
one when it lists its volumes, asks for those of the first region with the token of the second
environment. -/
theorem listing_behind_move :
    start (environmentOf "fra1" "old") .standard .null = .ok (inRegion "fra1" "old") ∧
      ∃ report result request,
        ((inRegion "fra1" "old").run [.setEnvironment (environmentOf "ams3" "new"),
          .call (.listVolumes {}) {} [.answer 200 "\x7b\x7d"]]).1[1]? = some report ∧
        report.outcome = .answered result [request] ∧
        request.Bears ⟨environmentOf "ams3" "new", .standard⟩ (.text "fra1") := by
  have hstart : start (environmentOf "fra1" "old") .standard .null =
      .ok (inRegion "fra1" "old") := rfl
  obtain ⟨-, -, -, report, hreport, hbears⟩ :=
    region_and_token_in_run ⟨environmentOf "fra1" "old", .standard⟩ .null hstart
      [.setEnvironment (environmentOf "ams3" "new")]
      (.call (.listVolumes {}) {} [.answer 200 "\x7b\x7d"]) []
  obtain ⟨request, hone⟩ := List.length_eq_one_iff.1
    (show (requestsOf { inRegion "fra1" "old" with environment := environmentOf "ams3" "new" }
      (.listVolumes {}) {} [.answer 200 "\x7b\x7d"]).length = 1 by decide +kernel)
  have houtcome : ∃ result, report.outcome = .answered result [request] := by
    cases hreport
    rw [← hone]
    exact ⟨_, rfl⟩
  obtain ⟨result, hresult⟩ := houtcome
  exact ⟨hstart, report, result, request, hreport, hresult,
    hbears result [request] hresult request (List.mem_singleton.2 rfl)⟩

end Service

end VolumePlugin
