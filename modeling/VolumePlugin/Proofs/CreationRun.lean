/-
# Runs of a creation

A call that creates a volume sends two requests at most: one that lists the volumes of the name
and, where that shows none, one that creates it. The relations of this module say which
transcripts and results the call has, case by case, and the call is shown to have no others.
-/
import VolumePlugin.Proofs.Outcome

namespace VolumePlugin

open VolumePlugin.Action

/-- The response for a volume of an id and a size in gibibytes, as a rule. -/
def volumeResponse (volumeId gigabytes : Value) : Except Failure Response := do
  let capacity ← Size.toBytes gigabytes
  if !capacity.isWritable then throw (.longNumeral .written)
  return .creation (some ⟨volumeId, capacity⟩)

/-- Responding with a volume is a rule. -/
theorem isRule_respondVolume (volumeId gigabytes : Value) :
    (respondVolume volumeId gigabytes).IsRule (volumeResponse volumeId gigabytes) := by
  apply (isRule_debug _).after
  apply (isRule_lift _).bind
  intro capacity
  dsimp only
  split
  · exact (isRule_throw _).bind fun _ => (isRule_debug _).after (isRule_pure _)
  · exact (isRule_debug _).after (isRule_pure _)

/-- A response with a volume has its id and its size in bytes. -/
theorem volumeResponse_eq_ok {volumeId gigabytes : Value} {response : Response}
    (hresponse : volumeResponse volumeId gigabytes = .ok response) :
    ∃ capacity, Size.toBytes gigabytes = .ok capacity ∧
      response = .creation (some ⟨volumeId, capacity⟩) := by
  obtain ⟨capacity, hcapacity, hrest⟩ := bind_eq_ok.1 hresponse
  cases hwritable : capacity.isWritable with
  | false => simp [hwritable] at hrest
  | true =>
      simp only [hwritable, Bool.not_true, Bool.false_eq_true, if_false, pure, Except.pure,
        Except.ok.injEq] at hrest
      exact ⟨capacity, hcapacity, hrest.symm⟩

/-- Failing to respond is local. -/
theorem isLocal_volumeResponse (volumeId gigabytes : Value) :
    IsLocal (volumeResponse volumeId gigabytes) := by
  apply (isLocal_toBytes _).bind
  intro capacity _
  cases capacity.isWritable <;> simp

section Runs

variable (setting : Setting) (client : Client) (name gigabytes : Value)

/-- The request for the volumes of the name. -/
def nameRequest (timeout : Value) : Request :=
  client.request (.list setting.region name .null .null) timeout

/-- The request for a new volume. -/
def creationRequest (timeout : Value) : Request :=
  client.request (.create setting.region name (.text ownershipTag) gigabytes) timeout

/-- What is done where there is no volume of the name. -/
inductive NewVolumeRun : List Event → Except Failure Response → Prop
  | /-- The caller has given up. -/
    cancelled :
      NewVolumeRun [.activity false] (.error (.cancelled (.text "CreateVolume")))
  | /-- No time is left. -/
    late {left : Value} {failure : Failure}
      (htime : client.timeFor "CreateVolume" left = .error failure) :
      NewVolumeRun [.activity true, .clock left] (.error failure)
  | /-- A volume is asked for, and the reply decides. -/
    asked {left timeout : Value} {reply : Reply}
      (htime : client.timeFor "CreateVolume" left = .ok timeout) :
      NewVolumeRun
        [.activity true, .clock left,
          .exchange (creationRequest setting client name gigabytes timeout) reply]
        (do volumeResponse (← client.createdBy reply).id gigabytes)

/-- What is done behind the reply to the request for the volumes of the name. -/
inductive ListedRun (reply : Reply) : List Event → Except Failure Response → Prop
  | /-- The reply shows no page. -/
    unlisted {failure : Failure} (hpage : client.pageOf reply = .error failure) :
      ListedRun reply [] (.error failure)
  | /-- The volumes of the name do not fit. -/
    unfit {page : Page} {failure : Failure} (hpage : client.pageOf reply = .ok page)
      (hvolume : volumeOfName name page.volumes = .error failure) :
      ListedRun reply [] (.error failure)
  | /-- There is a volume of the name. -/
    found {page : Page} {volume : Volume} (hpage : client.pageOf reply = .ok page)
      (hvolume : volumeOfName name page.volumes = .ok (some volume)) :
      ListedRun reply [] (volumeResponse volume.id volume.sizeGigabytes)
  | /-- There is none. -/
    absent {page : Page} {rest : List Event} {result : Except Failure Response}
      (hpage : client.pageOf reply = .ok page)
      (hvolume : volumeOfName name page.volumes = .ok none)
      (hrest : NewVolumeRun setting client name gigabytes rest result) :
      ListedRun reply rest result

end Runs

/-- The runs of a call that creates a volume. -/
inductive CreationRun (request : CreateVolumeRequest) (setting : Setting) :
    List Event → Except Failure Response → Prop
  | /-- The request is not valid. -/
    invalid {failure : Failure} (hrequest : request.rule = .error failure) :
      CreationRun request setting [] (.error failure)
  | /-- There is no client. -/
    unready {asked : Value × Value} {failure : Failure} (hrequest : request.rule = .ok asked)
      (hclient : setting.clientRule = .error failure) :
      CreationRun request setting [] (.error failure)
  | /-- No time is left. -/
    late {asked : Value × Value} {client : Client} {left : Value} {failure : Failure}
      (hrequest : request.rule = .ok asked) (hclient : setting.clientRule = .ok client)
      (htime : client.timeFor "CreateVolume" left = .error failure) :
      CreationRun request setting [.clock left] (.error failure)
  | /-- The volumes of the name are asked for, and the call goes on behind the reply. -/
    listed {name gigabytes : Value} {client : Client} {left timeout : Value} {reply : Reply}
      {rest : List Event} {result : Except Failure Response}
      (hrequest : request.rule = .ok (name, gigabytes))
      (hclient : setting.clientRule = .ok client)
      (htime : client.timeFor "CreateVolume" left = .ok timeout)
      (hrest : ListedRun setting client name gigabytes reply rest result) :
      CreationRun request setting
        (.clock left :: .exchange (nameRequest setting client name timeout) reply :: rest) result

/-- Creating a volume of a name that has none. -/
theorem meets_createNew {setting : Setting} {client : Client}
    (hclient : setting.clientRule = .ok client) (name gigabytes : Value) (session : Session) :
    (createNew setting client name gigabytes).Meets session
      (NewVolumeRun setting client name gigabytes) := by
  apply meets_ensureActive_bind .cancelled
  intro middle _
  apply (isRule_debug _).meets_after
  intro middle _
  apply (Setting.asks_timeLeft hclient "CreateVolume").bind
  · intro left failure hlate
    exact .late hlate
  · intro left timeout behind htime _
    have hasked (reply : Reply) : NewVolumeRun setting client name gigabytes
        [.activity true, .clock left,
          .exchange (creationRequest setting client name gigabytes timeout) reply]
        (do volumeResponse (← client.createdBy reply).id gigabytes) := .asked htime
    apply (client.asks_createVolume _ _ _ _ timeout).bind
    · intro reply failure hfailed
      have hrun := hasked reply
      rwa [hfailed] at hrun
    · intro reply volume last hvolume _
      apply (isRule_info _).meets_after
      intro last _
      apply (isRule_respondVolume volume.id gigabytes).meets
      have hrun := hasked reply
      rwa [hvolume] at hrun

/-- A call that creates a volume has one of the runs of a creation. -/
theorem CreateVolumeRequest.meets_perform (request : CreateVolumeRequest) (setting : Setting)
    (session : Session) :
    (request.perform setting).Meets session (CreationRun request setting) := by
  apply request.isRule_validate.meets_bind fun failure => .invalid
  rintro ⟨name, gigabytes⟩ middle hrequest _
  apply (isRule_debug _).meets_after
  intro middle _
  apply setting.isRule_client.meets_bind fun failure => .unready hrequest
  intro client middle hclient _
  apply (Setting.asks_timeLeft hclient "CreateVolume").bind
  · intro left failure hlate
    exact .late hrequest hclient hlate
  · intro left timeout behind htime _
    apply (client.asks_listVolumes _ _ _ _ timeout).bind
    · intro reply failure hfailed
      exact .listed hrequest hclient htime (.unlisted hfailed)
    · intro reply page behind hpage _
      apply (isRule_lift _).meets_bind
      · intro failure hunfit
        exact .listed hrequest hclient htime (.unfit hpage hunfit)
      · intro found middle hvolume _
        cases found with
        | some volume =>
            apply (isRule_debug _).meets_after
            intro middle _
            apply (isRule_respondVolume volume.id volume.sizeGigabytes).meets
            exact .listed hrequest hclient htime (.found hpage hvolume)
        | none =>
            apply (meets_createNew hclient name gigabytes middle).mono
            intro rest result hrest
            exact .listed hrequest hclient htime (.absent hpage hvolume hrest)

end VolumePlugin
