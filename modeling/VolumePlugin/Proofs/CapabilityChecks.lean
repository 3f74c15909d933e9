/-
# Two checks of the same capabilities

Capabilities are looked at in two ways. A call that is to create or to publish a volume stops at the
first capability that volumes cannot have, and its failure names the access mode of this one. The
call that only tells what volumes can have collects all of them.

The first way stops just at what the second would collect first, so the two never disagree: they
find the capabilities fine where there are some and each lets a single node write, whatever their
order and however often they are named.

Both write a mode that volumes cannot have, the one into its failure and the other into the log. A
number with too many digits cannot be written: then both fail, and no mode is named.
-/
import Mathlib.Tactic.TFAE
import VolumePlugin.Proofs.Precedence
import VolumePlugin.Proofs.ThreadName

namespace VolumePlugin

open VolumePlugin.Action

/-! ## Verdicts on access modes -/

/-- Capabilities by their access modes. -/
def capabilitiesOf (modes : List AccessMode) : List (Option Capability) :=
  modes.map fun mode => some ⟨mode⟩

/-- Capabilities by the numbers of their access modes. -/
def numbered (modes : List Int) : List (Option Capability) :=
  capabilitiesOf (modes.map .number)

/-- There are modes, by their numbers, and each lets a single node write. -/
def AreForOneWriter (modes : List Int) : Prop :=
  modes ≠ [] ∧ ∀ n ∈ modes, AccessMode.number n = .singleNodeWriter

/-- Neither the order of the modes nor repetitions count. -/
theorem AreForOneWriter.congr {modes others : List Int} (hsame : ∀ n, n ∈ others ↔ n ∈ modes) :
    AreForOneWriter others ↔ AreForOneWriter modes := by
  have hnone : others = [] ↔ modes = [] := by
    simp only [List.eq_nil_iff_forall_not_mem, hsame]
  simp only [AreForOneWriter, hsame, ne_eq, hnone]

theorem accessModes_capabilitiesOf (modes : List AccessMode) :
    accessModes (capabilitiesOf modes) = .ok modes := by
  induction modes with
  | nil => rfl
  | cons mode rest ih =>
      unfold accessModes capabilitiesOf at ih ⊢
      rw [List.map_cons, List.mapM_cons, ih]
      rfl

theorem mem_unsupportedModes {modes : List AccessMode} {mode : AccessMode} :
    mode ∈ unsupportedModes modes ↔ mode ∈ modes ∧ ¬ mode.isSupported = true := by
  simp [unsupportedModes]

/-- No numbered mode is left out where each lets a single node write. -/
theorem unsupportedModes_eq_nil_iff {modes : List Int} :
    unsupportedModes (modes.map .number) = [] ↔
      ∀ n ∈ modes, AccessMode.number n = .singleNodeWriter := by
  rw [List.eq_nil_iff_forall_not_mem]
  simp only [mem_unsupportedModes]
  constructor
  · intro hnone n hn
    by_contra hother
    rw [← AccessMode.isSupported_number] at hother
    exact hnone _ ⟨List.mem_map_of_mem hn, hother⟩
  · rintro hall mode ⟨hmode, hother⟩
    obtain ⟨n, hn, rfl⟩ := List.mem_map.1 hmode
    exact hother ((AccessMode.isSupported_number n).2 (hall n hn))

theorem areModesSupported_iff {modes : List Int} :
    areModesSupported (modes.map .number) = true ↔ AreForOneWriter modes := by
  rw [areModesSupported, AreForOneWriter, ← unsupportedModes_eq_nil_iff]
  simp

/-! ## Modes that are too long to be written -/

/-- One of the modes has a number that is too long to be written. -/
def HasLongMode (modes : List Int) : Prop :=
  ∃ n ∈ modes, ¬ Numeral.fits n = true

theorem HasLongMode.congr {modes others : List Int} (hsame : ∀ n, n ∈ others ↔ n ∈ modes) :
    HasLongMode others ↔ HasLongMode modes := by
  simp only [HasLongMode, hsame]

/-- No such mode lets a single node write. -/
theorem fits_of_singleNodeWriter {n : Int} (hwriter : AccessMode.number n = .singleNodeWriter) :
    Numeral.fits n = true := by
  cases hwriter
  decide

theorem AreForOneWriter.not_hasLongMode {modes : List Int} (hwriter : AreForOneWriter modes) :
    ¬ HasLongMode modes := by
  rintro ⟨n, hn, hlong⟩
  exact hlong (fits_of_singleNodeWriter (hwriter.2 n hn))

/-- What a numbered mode that volumes cannot have is refused with. -/
theorem refusal_number (n : Int) :
    (AccessMode.number n).refusal =
      if Numeral.fits n = true then .validation (.unsupportedAccessMode (.number n))
      else .longNumeral .written := by
  rw [AccessMode.refusal, Failure.wordedWith_single]
  rfl

/-- Writing modes fails where one of them cannot be written, whichever it is. -/
theorem forM_checkWritable (modes : List AccessMode) :
    modes.forM checkWritable =
      if modes.all (·.value.isWritable) = true then .ok () else .error (.longNumeral .written) := by
  induction modes with
  | nil => rfl
  | cons mode rest ih =>
      have hstep : (mode :: rest).forM checkWritable =
          (checkWritable mode >>= fun _ => rest.forM checkWritable) := rfl
      rw [hstep, checkWritable, List.all_cons, ih]
      cases mode.value.isWritable <;> rfl

/-- The modes that are left out can be written where all can. -/
theorem all_isWritable_unsupportedModes_iff {modes : List Int} :
    (unsupportedModes (modes.map .number)).all (·.value.isWritable) = true ↔
      ¬ HasLongMode modes := by
  simp only [List.all_eq_true, mem_unsupportedModes]
  constructor
  · rintro hall ⟨n, hn, hlong⟩
    have hother : ¬ (AccessMode.number n).isSupported = true := fun hsupported =>
      hlong (fits_of_singleNodeWriter ((AccessMode.isSupported_number n).1 hsupported))
    exact hlong (hall _ ⟨List.mem_map_of_mem hn, hother⟩)
  · rintro hshort mode ⟨hmode, -⟩
    obtain ⟨n, hn, rfl⟩ := List.mem_map.1 hmode
    by_contra hlong
    exact hshort ⟨n, hn, hlong⟩

/-! ## The check that stops -/

/-- Refusing stops at the first of the modes that are collected. -/
theorem forM_refuseUnsupported (modes : List AccessMode) :
    (capabilitiesOf modes).forM refuseUnsupported =
      match unsupportedModes modes with
      | [] => .ok ()
      | first :: _ => .error first.refusal := by
  induction modes with
  | nil => rfl
  | cons mode rest ih =>
      have hstep : (capabilitiesOf (mode :: rest)).forM refuseUnsupported =
          (refuseUnsupported (some ⟨mode⟩) >>= fun _ =>
            (capabilitiesOf rest).forM refuseUnsupported) := rfl
      have hcollect : unsupportedModes (mode :: rest) =
          if mode.isSupported then unsupportedModes rest else mode :: unsupportedModes rest := by
        cases hmode : mode.isSupported <;> simp [unsupportedModes, hmode]
      rw [hstep, hcollect, refuseUnsupported, accessModeOf, ok_bind]
      dsimp only
      by_cases hmode : mode.isSupported = true
      · rw [if_pos hmode, if_pos hmode, ← ih]
        rfl
      · rw [if_neg hmode, if_neg hmode]
        rfl

theorem checkCapabilities_of_ne_nil {modes : List AccessMode} (hmodes : modes ≠ []) :
    checkCapabilities (some (capabilitiesOf modes)) =
      (capabilitiesOf modes).forM refuseUnsupported := by
  cases modes with
  | nil => exact (hmodes rfl).elim
  | cons mode rest => rfl

/-- The check passes where there are modes and each lets a single node write. -/
theorem checkCapabilities_eq_ok_iff {modes : List Int} :
    checkCapabilities (some (numbered modes)) = .ok () ↔
      AreForOneWriter modes := by
  by_cases hmodes : modes = []
  · subst hmodes
    exact iff_of_false nofun fun hfine => hfine.1 rfl
  · rw [numbered, checkCapabilities_of_ne_nil (by simpa using hmodes), forM_refuseUnsupported,
      AreForOneWriter, ← unsupportedModes_eq_nil_iff]
    cases unsupportedModes (modes.map .number) <;> simp [hmodes]

/-- It stops at the first of the modes where this one does not let a single node write. -/
theorem checkCapabilities_cons {n : Int} (hother : AccessMode.number n ≠ .singleNodeWriter)
    (rest : List Int) :
    checkCapabilities (some (numbered (n :: rest))) = .error (AccessMode.number n).refusal := by
  have hcollected : unsupportedModes ((n :: rest).map .number) =
      .number n :: unsupportedModes (rest.map .number) := by
    rw [ne_eq, ← AccessMode.isSupported_number] at hother
    simp [unsupportedModes, hother]
  rw [numbered, checkCapabilities_of_ne_nil (by simp), forM_refuseUnsupported, hcollected]

/-- It stops for the first mode that does not let a single node write. -/
theorem first_of_checkCapabilities {modes : List Int} (hmodes : modes ≠ []) {failure : Failure}
    (hfailed : checkCapabilities (some (numbered modes)) = .error failure) :
    ∃ front n back, modes = front ++ n :: back ∧
      (∀ m ∈ front, AccessMode.number m = .singleNodeWriter) ∧
      AccessMode.number n ≠ .singleNodeWriter ∧
      failure = (AccessMode.number n).refusal := by
  rw [numbered, checkCapabilities_of_ne_nil (by simpa using hmodes), forM_refuseUnsupported]
    at hfailed
  cases hcollected : unsupportedModes (modes.map .number) with
  | nil =>
      rw [hcollected] at hfailed
      cases hfailed
  | cons first others =>
      rw [hcollected] at hfailed
      obtain ⟨before, after, hsplit, hbefore, hfirst, -⟩ := List.filter_eq_cons_iff.1 hcollected
      obtain ⟨front, rest, rfl, rfl, hrest⟩ := List.map_eq_append_iff.1 hsplit
      obtain ⟨n, back, rfl, rfl, -⟩ := List.map_eq_cons_iff.1 hrest
      refine ⟨front, n, back, rfl, ?_, ?_, (Except.error.inj hfailed).symm⟩
      · intro m hm
        rw [← AccessMode.isSupported_number]
        simpa using hbefore _ (List.mem_map_of_mem hm)
      · rw [ne_eq, ← AccessMode.isSupported_number]
        simpa using hfirst

/-- The wording of the failure is the number of this mode behind what is wrong with it. -/
theorem message_of_unsupported (n : Int) :
    (Failure.validation (.unsupportedAccessMode (.number n))).message =
      "Validation error has occurred : unsupported access mode : " ++ Numeral.text n := by
  have hwords : "Validation error has occurred : " ++ "unsupported access mode : " =
      "Validation error has occurred : unsupported access mode : " := by
    decide
  rw [← hwords, String.append_assoc]
  simp [Failure.message, Problem.message, unsupportedAccessModeText, AccessMode.display,
    AccessMode.value, Value.display_int, String.join]

/-- A failure to write a number names none. -/
theorem message_of_written_ne (words : String) :
    (Failure.longNumeral .written).message ≠
      "Validation error has occurred : unsupported access mode : " ++ words := by
  intro hsame
  have hhead : (Failure.longNumeral .written).message.toList.head? = some 'V' := by
    rw [hsame, String.toList_append]
    rfl
  exact absurd hhead (by decide +kernel)

/-- A mode is named by what it is refused with just where it can be written. -/
theorem message_of_refusal_iff (n : Int) :
    (AccessMode.number n).refusal.message =
        "Validation error has occurred : unsupported access mode : " ++ Numeral.text n ↔
      Numeral.fits n = true := by
  rw [refusal_number]
  split
  · exact iff_of_true (message_of_unsupported n) ‹_›
  · exact iff_of_false (message_of_written_ne _) ‹_›

/-! ## The check that collects -/

theorem capabilitiesRule_of (modes : List Int) :
    capabilitiesRule (numbered modes) = do
      (unsupportedModes (modes.map .number)).forM checkWritable
      return areModesSupported (modes.map .number) := by
  rw [capabilitiesRule, numbered, accessModes_capabilitiesOf]
  rfl

/-- Where every mode can be written there is a verdict. -/
theorem capabilitiesRule_of_short {modes : List Int} (hshort : ¬ HasLongMode modes) :
    capabilitiesRule (numbered modes) = .ok (areModesSupported (modes.map .number)) := by
  rw [capabilitiesRule_of, forM_checkWritable,
    if_pos (all_isWritable_unsupportedModes_iff.2 hshort)]
  rfl

theorem capabilitiesRule_of_long {modes : List Int} (hlong : HasLongMode modes) :
    capabilitiesRule (numbered modes) = .error (.longNumeral .written) := by
  rw [capabilitiesRule_of, forM_checkWritable,
    if_neg fun hall => all_isWritable_unsupportedModes_iff.1 hall hlong]
  rfl

theorem capabilitiesRule_eq_true_iff {modes : List Int} :
    capabilitiesRule (numbered modes) = .ok true ↔ AreForOneWriter modes := by
  by_cases hlong : HasLongMode modes
  · rw [capabilitiesRule_of_long hlong]
    exact iff_of_false nofun fun hwriter => hwriter.not_hasLongMode hlong
  · rw [capabilitiesRule_of_short hlong, Except.ok.injEq, areModesSupported_iff]

/-- Neither the order of the modes nor repetitions count. -/
theorem capabilitiesRule_congr {modes others : List Int} (hsame : ∀ n, n ∈ others ↔ n ∈ modes) :
    capabilitiesRule (numbered others) = capabilitiesRule (numbered modes) := by
  by_cases hlong : HasLongMode modes
  · rw [capabilitiesRule_of_long hlong,
      capabilitiesRule_of_long ((HasLongMode.congr hsame).2 hlong)]
  · rw [capabilitiesRule_of_short hlong,
      capabilitiesRule_of_short (mt (HasLongMode.congr hsame).1 hlong), Except.ok.injEq,
      Bool.eq_iff_iff, areModesSupported_iff, areModesSupported_iff]
    exact AreForOneWriter.congr hsame

/-- The modes are listed behind the verdict on them. -/
theorem capabilitiesVerdict_of (modes : List Int) :
    capabilitiesVerdict (some (numbered modes)) =
      (capabilitiesRule (numbered modes)).map fun supported =>
        .validation supported (verdictText supported (modes.map .number)) := by
  rw [capabilitiesVerdict, numbered, accessModes_capabilitiesOf]
  cases capabilitiesRule (capabilitiesOf (modes.map .number)) <;> rfl

/-- The verdict is without words where the modes are supported. -/
theorem capabilitiesVerdict_eq_iff {modes : List Int} :
    capabilitiesVerdict (some (numbered modes)) = .ok (.validation true "") ↔
      AreForOneWriter modes := by
  rw [← capabilitiesRule_eq_true_iff, capabilitiesVerdict_of]
  cases capabilitiesRule (numbered modes) with
  | error failure => exact iff_of_false nofun nofun
  | ok supported => cases supported <;> simp [Except.map, verdictText]

/-- The call that only tells what volumes can have answers by the verdict, and sends nothing. -/
theorem Service.outcome_of_capabilities (service : Service) {volumeId : Value}
    (hvolume : volumeId.truthy = true) (capabilities : Option (List (Option Capability)))
    (context : CallContext) (replies : List Reply) :
    (service.step (.call (.validateCapabilities
        { volumeId := volumeId, capabilities := capabilities }) context replies)).1.outcome =
      .answered (settled (.validation false "")
        ((capabilitiesVerdict capabilities).map ({ response := · }))) [] := by
  set request : ValidateCapabilitiesRequest :=
    { volumeId := volumeId, capabilities := capabilities }
  have hhandle : ((Call.validateCapabilities request).handle service.setting).IsRule
      ((capabilitiesVerdict capabilities).map ({ response := · })) := by
    have hrule := request.isRule_perform.bind fun response =>
      isRule_pure ({ response := response } : Answer)
    rw [requireParameter, if_pos hvolume] at hrule
    have hverdict : (capabilitiesVerdict capabilities >>= fun response =>
        .ok ({ response := response } : Answer)) =
          (capabilitiesVerdict capabilities).map ({ response := · }) := by
      cases capabilitiesVerdict capabilities <;> rfl
    rw [← hverdict]
    exact (isRule_renameThread _).after ((isRule_info _).after hrule)
  obtain ⟨houtcome, -⟩ :=
    service.outcome_of_supervised (.validateCapabilities request) context replies rfl
  have hhandled : service.handled (.validateCapabilities request) context replies = _ :=
    hhandle.result (service.sessionFor context replies)
  have hsent : service.requestsOf (.validateCapabilities request) context replies = [] := by
    have hnone : service.exchanges (.validateCapabilities request) context replies = [] :=
      (service.maySend (.validateCapabilities request) context replies).1
    rw [← map_fst_exchanges, hnone]
    rfl
  rw [houtcome, hhandled, hsent]
  rfl

/-- It finds capabilities supported where there are some and each lets a single node write. -/
theorem Service.answers_supported_iff (service : Service) {volumeId : Value}
    (hvolume : volumeId.truthy = true) (modes : List Int) (context : CallContext)
    (replies : List Reply) :
    (service.step (.call (.validateCapabilities
        { volumeId := volumeId, capabilities := some (numbered modes) })
        context replies)).1.outcome =
      .answered (.ok { response := .validation true "" }) [] ↔ AreForOneWriter modes := by
  rw [service.outcome_of_capabilities hvolume, Outcome.answered.injEq, and_iff_left rfl,
    ← capabilitiesVerdict_eq_iff]
  constructor
  · intro hanswer
    obtain ⟨response, hverdict, hsame⟩ := response_of_settled hanswer rfl
    cases hsame
    exact hverdict
  · intro hverdict
    rw [hverdict]
    rfl

theorem Service.refuses_of_long (service : Service) {volumeId : Value}
    (hvolume : volumeId.truthy = true) {modes : List Int} (hlong : HasLongMode modes)
    (context : CallContext) (replies : List Reply) :
    service.Refuses (.validateCapabilities
      { volumeId := volumeId, capabilities := some (numbered modes) })
      context replies (.longNumeral .written) := by
  rw [Service.Refuses, service.outcome_of_capabilities hvolume, capabilitiesVerdict_of,
    capabilitiesRule_of_long hlong]
  rfl

/-! ## What is logged of the check -/

/-- What the check logs where it has passed. -/
def capabilitiesPassedText : String := "csi volume capabilities validation finished."

/-- A detail of this wording is in the log of a session. -/
def Session.Notes (session : Session) (message : String) : Prop :=
  ∃ entry ∈ session.log, entry.level = .debug ∧ entry.message = message

theorem Session.notes_note_iff {session : Session} {level : Level} {text message : String} :
    (session.note level text).Notes message ↔
      session.Notes message ∨ level = .debug ∧ text = message := by
  simp [Notes, Session.note, or_and_right, exists_or]

theorem Session.notes_note (session : Session) (message : String) :
    (session.note .debug message).Notes message :=
  notes_note_iff.2 (.inr ⟨rfl, rfl⟩)

/-- Note details one after the other. -/
def Session.noteAll (session : Session) (messages : List String) : Session :=
  messages.foldl (·.note .debug ·) session

theorem Session.notes_noteAll_iff {session : Session} {messages : List String}
    {message : String} :
    (session.noteAll messages).Notes message ↔ session.Notes message ∨ message ∈ messages := by
  induction messages generalizing session with
  | nil => simp [noteAll]
  | cons first rest ih =>
      have hstep : session.noteAll (first :: rest) = (session.note .debug first).noteAll rest := rfl
      rw [hstep, ih, notes_note_iff, List.mem_cons]
      simp [or_assoc, eq_comm]

/-- What is in the log stays there while the name of the thread is kept. -/
theorem Session.Notes.of_keepsName {before after : Session} {message : String}
    (hnotes : before.Notes message) (hkeeps : before.KeepsName after) : after.Notes message := by
  obtain ⟨entry, hentry, htold⟩ := hnotes
  obtain ⟨-, written, hwritten, -⟩ := hkeeps
  exact ⟨entry, hwritten ▸ List.mem_append_left _ hentry, htold⟩

namespace Action

variable {α β : Type} {message : String}

/-- An action that leaves this detail in the log, in every session. -/
def Writes (action : Action α) (message : String) : Prop :=
  ∀ session : Session, (action.runIn session).2.Notes message

theorem writes_debug (message : String) : (debug message).Writes message := fun session =>
  session.notes_note message

theorem Writes.bind {action : Action α} {next : α → Action β} (hwrites : action.Writes message)
    (hnext : ∀ a, (next a).KeepsName) : (action >>= next).Writes message := fun session =>
  holds_bind (·.Notes message) (hwrites session) fun a left hnotes =>
    hnotes.of_keepsName (hnext a left)

theorem Writes.tryCatch {action : Action α} {rescue : Failure → Action α}
    (hwrites : action.Writes message) (hrescue : ∀ failure, (rescue failure).KeepsName) :
    (tryCatch action rescue).Writes message := fun session =>
  holds_tryCatch (·.Notes message) (hwrites session) fun failure left hnotes =>
    hnotes.of_keepsName (hrescue failure left)

/-- An action behind one that succeeds writes in the session that this one leaves. -/
theorem Writes.after {action : Action Unit} {next : Unit → Action β}
    (hwrites : (next ()).Writes message)
    (haction : ∀ session : Session, ∃ left, action.runIn session = (.ok (), left)) :
    (action >>= next).Writes message := by
  intro session
  obtain ⟨left, hleft⟩ := haction session
  rw [runIn_bind, hleft]
  exact hwrites left

end Action

/-- The check logs that it has passed. -/
theorem writes_validateCapabilities {capabilities : Option (List (Option Capability))}
    (hfine : checkCapabilities capabilities = .ok ()) :
    (validateCapabilities capabilities).Writes capabilitiesPassedText := by
  refine .after ?_ fun session => ⟨_, runIn_debug _ session⟩
  rw [hfine, lift_ok_bind]
  exact writes_debug _

namespace CreateVolumeRequest

variable {request : CreateVolumeRequest}

section Passed

variable (hname : request.name.truthy = true)

include hname

/-- A request for a volume with a name logs that its capabilities have passed where they do. -/
theorem writes_validate (hfine : checkCapabilities request.capabilities = .ok ()) :
    request.validate.Writes capabilitiesPassedText := by
  refine .after ?_ fun session => ⟨_, runIn_debug _ session⟩
  rw [requireParameter, if_pos hname, lift_ok_bind]
  apply (writes_validateCapabilities hfine).bind
  intro _
  apply (InStep.rule _).keepsName.bind
  intro size
  apply (InStep.rule _).keepsName.bind
  intro _
  exact ((InStep.debug _).bind fun _ => .pure _).keepsName

/-- Nothing that is done for a volume afterwards takes this back. -/
theorem writes_perform (hfine : checkCapabilities request.capabilities = .ok ())
    (setting : Setting) : (request.perform setting).Writes capabilitiesPassedText := by
  apply (writes_validate hname hfine).bind
  rintro ⟨name, gigabytes⟩
  apply (InStep.debug _).keepsName.bind
  intro _
  apply setting.inStep_client.keepsName.bind
  intro client
  apply (inStep_timeLeft _ _).keepsName.bind
  intro timeout
  apply (client.inStep_listVolumes client.token _ _ _ _ timeout).keepsName.bind
  intro page
  apply (InStep.rule _).keepsName.bind
  intro found
  cases found with
  | some volume => exact ((InStep.debug _).bind fun _ => inStep_respondVolume _ _).keepsName
  | none =>
      exact (@inStep_createNew setting setting.environment client client.token name
        gigabytes).keepsName

/-- A call that creates a volume ends with this in its log where the capabilities pass. -/
theorem writes_creation (hfine : checkCapabilities request.capabilities = .ok ())
    (setting : Setting) :
    ((Call.createVolume request).perform setting).Writes capabilitiesPassedText := by
  rw [Call.perform_of_not_probe (by simp)]
  refine .after ?_ fun session => ⟨_, runIn_renameThread _ session⟩
  refine .after ?_ fun session => ⟨_, runIn_info _ session⟩
  have hanswer : ((Call.createVolume request).answer setting).Writes capabilitiesPassedText :=
    (writes_perform hname hfine setting).bind fun response => keepsName_pure _
  have hguarded : ((Call.createVolume request).guarded setting).Writes capabilitiesPassedText :=
    hanswer.tryCatch fun failure => failure.keepsName_report _
  exact hguarded.bind fun answer => (keepsName_info _).bind fun _ => keepsName_pure _

end Passed

/-- Without a name the validation of a request stops before its capabilities. -/
theorem runIn_validate_of_nameless (hnameless : request.name.truthy = false) (session : Session) :
    request.validate.runIn session =
      (.error (.validation (.empty "name")),
        session.noteAll ["validating create volume request"]) := by
  unfold validate
  rw [runIn_bind, runIn_debug]
  dsimp only
  rw [requireParameter, if_neg (Bool.eq_false_iff.1 hnameless), lift_error_bind, runIn_throw]
  rfl

/-- Where the capabilities do not pass, the validation of a request stops there. -/
theorem runIn_validate_of_refused (hname : request.name.truthy = true) {failure : Failure}
    (hfailed : checkCapabilities request.capabilities = .error failure) (session : Session) :
    request.validate.runIn session =
      (.error failure, session.noteAll
        ["validating create volume request", "validating csi volume capabilities"]) := by
  unfold validate
  rw [runIn_bind, runIn_debug]
  dsimp only
  rw [requireParameter, if_pos hname, lift_ok_bind, runIn_bind, validateCapabilities, runIn_bind,
    runIn_debug]
  dsimp only
  rw [hfailed, lift_error_bind, runIn_throw]
  rfl

/-- A call whose validation stops logs what is wrong, and no detail that was not noted before. -/
theorem not_notes_of_stopped {failure : Failure} (hlocal : ∀ error, failure ≠ .provider error)
    {messages : List String} {message : String} (hunsaid : message ∉ messages)
    (hstops : ∀ named : Session, request.validate.runIn named =
      (.error failure, named.noteAll messages))
    (setting : Setting) {session : Session} (hlog : session.log = []) :
    ¬ (((Call.createVolume request).perform setting).runIn session).2.Notes message := by
  have hanswer (named : Session) : ((Call.createVolume request).answer setting).runIn named =
      (.error failure, named.noteAll messages) := by
    rw [Call.answer, runIn_bind, CreateVolumeRequest.perform, runIn_bind, hstops]
  have hsupervised (named : Session) :
      (supervised (.creation none) ((Call.createVolume request).answer setting)).runIn named =
        (.ok (failure.answer (.creation none)),
          (named.noteAll messages).note .error failure.message) := by
    rw [supervised, runIn_tryCatch, hanswer]
    cases failure with
    | provider error => exact (hlocal error rfl).elim
    | _ => rfl
  have hfirst : ¬ (session.renameThread request.name).Notes message := by
    have hnone : (session.renameThread request.name).log = [] := hlog
    rintro ⟨entry, hentry, -⟩
    rw [hnone] at hentry
    cases hentry
  rw [Call.perform_of_supervised rfl, runIn_bind, runIn_renameThread]
  dsimp only
  rw [runIn_bind, runIn_info]
  dsimp only [Call.emptyResponse]
  rw [runIn_bind, hsupervised]
  simp only [Action.runIn_bind, runIn_info, runIn_pure, Session.notes_note_iff,
    Session.notes_noteAll_iff, hunsaid, Call.subject, hfirst, reduceCtorEq, false_and, or_false,
    not_false_eq_true]

end CreateVolumeRequest

/-! ## Agreement -/

namespace Service

/-- A call logs that the capabilities of its request have passed. -/
def PassesCapabilities (service : Service) (call : Call) (context : CallContext)
    (replies : List Reply) : Prop :=
  Session.Notes ((call.perform service.setting).runIn (service.sessionFor context replies)).2
    capabilitiesPassedText

section Creation

variable (service : Service) {request : CreateVolumeRequest} (context : CallContext)
  (replies : List Reply)

/-- A request for a volume is refused for the first of its checks that fails. -/
theorem refuses_of_checks {failure : Failure}
    (hfailed : firstFailing request.checks = .error failure) :
    service.Refuses (.createVolume request) context replies failure := by
  have hasks : (Call.createVolume request).asksProvider = true := rfl
  apply (service.outcome_of_preflight context replies hasks).1
  rw [Call.preflight, request.validation_eq, hfailed, error_bind]

/-- It is refused for its name before its capabilities are looked at. -/
theorem refuses_of_name (hnameless : request.name.truthy = false) :
    ¬ service.PassesCapabilities (.createVolume request) context replies ∧
      service.Refuses (.createVolume request) context replies (.validation (.empty "name")) := by
  have hlocal (error : ProviderError) : Failure.validation (.empty "name") ≠ .provider error :=
    nofun
  refine ⟨CreateVolumeRequest.not_notes_of_stopped hlocal (by decide)
    (CreateVolumeRequest.runIn_validate_of_nameless hnameless) service.setting rfl, ?_⟩
  apply service.refuses_of_checks
  rw [CreateVolumeRequest.checks, requireParameter, if_neg (Bool.eq_false_iff.1 hnameless)]
  rfl

variable (hname : request.name.truthy = true)

include hname

/-- A request for a volume with a name is refused for its capabilities before anything else. -/
theorem refuses_of_capabilities {failure : Failure}
    (hfailed : checkCapabilities request.capabilities = .error failure) :
    service.Refuses (.createVolume request) context replies failure := by
  apply service.refuses_of_checks
  rw [CreateVolumeRequest.checks, hfailed, requireParameter, if_pos hname]
  rfl

/-- Its capabilities pass where there are some and each lets a single node write. -/
theorem passesCapabilities_iff {modes : List Int}
    (hrequest : request.capabilities = some (numbered modes)) :
    service.PassesCapabilities (.createVolume request) context replies ↔
      AreForOneWriter modes := by
  rw [← checkCapabilities_eq_ok_iff, ← hrequest]
  constructor
  · intro hpasses
    cases hcheck : checkCapabilities request.capabilities with
    | ok _ => rfl
    | error failure =>
        have hlocal := isLocal_checkCapabilities request.capabilities
        rw [hcheck, isLocal_error_iff] at hlocal
        exact (CreateVolumeRequest.not_notes_of_stopped hlocal (by decide)
          (CreateVolumeRequest.runIn_validate_of_refused hname hcheck) service.setting rfl
          hpasses).elim
  · intro hfine
    exact CreateVolumeRequest.writes_creation hname hfine service.setting _

end Creation

/-- The checks of capabilities agree. Whatever the numbers of their modes are, these are equivalent:
there are some and each lets a single node write; the check that collects finds them supported; the
check that stops does not fail; the verdict is that they are supported and has no words; and a call
that asks for it is answered so. The check that collects has a verdict just where every mode can be
written, and fails with the call where one cannot; neither the order of the capabilities nor
repetitions count. What the check that stops fails with is, where there are capabilities, about the
first that is not supported, and names its mode just where this can be written. A call that creates
a volume of a name gets past the check just where the other call finds the capabilities supported,
and is refused by what the check fails with where it does not. Without a name it never gets so
far. -/
theorem capability_checks_agree (modes : List Int) (service : Service) {volumeId : Value}
    (hvolume : volumeId.truthy = true) {request : CreateVolumeRequest}
    (hrequest : request.capabilities = some (numbered modes))
    (context : CallContext) (replies : List Reply) (session : Session) :
    [AreForOneWriter modes,
      ((areCapabilitiesSupported (numbered modes)).runIn session).1 = .ok true,
      ((validateCapabilities (some (numbered modes))).runIn session).1 = .ok (),
      ((respondCapabilities (some (numbered modes))).runIn session).1 =
        .ok (.validation true ""),
      (service.step (.call (.validateCapabilities {
          volumeId := volumeId
          capabilities := some (numbered modes) })
          context replies)).1.outcome =
        .answered (.ok { response := .validation true "" }) []].TFAE ∧
    ((∃ verdict, ((areCapabilitiesSupported (numbered modes)).runIn session).1 = .ok verdict) ↔
      ¬ HasLongMode modes) ∧
    (HasLongMode modes →
      ((areCapabilitiesSupported (numbered modes)).runIn session).1 =
          .error (.longNumeral .written) ∧
        service.Refuses (.validateCapabilities {
            volumeId := volumeId
            capabilities := some (numbered modes) })
          context replies (.longNumeral .written)) ∧
    (∀ others : List Int, (∀ n, n ∈ others ↔ n ∈ modes) →
      ((areCapabilitiesSupported (numbered others)).runIn session).1 =
        ((areCapabilitiesSupported (numbered modes)).runIn session).1) ∧
    (∀ failure, modes ≠ [] →
      ((validateCapabilities (some (numbered modes))).runIn session).1 = .error failure →
      ∃ front n back, modes = front ++ n :: back ∧
        (∀ m ∈ front, AccessMode.number m = .singleNodeWriter) ∧
        AccessMode.number n ≠ .singleNodeWriter ∧
        (failure.message =
            "Validation error has occurred : unsupported access mode : " ++ Numeral.text n ↔
          Numeral.fits n = true) ∧
        (Numeral.fits n = true → failure = .validation (.unsupportedAccessMode (.number n))) ∧
        (¬ Numeral.fits n = true → failure = .longNumeral .written)) ∧
    (request.name.truthy = true →
      (service.PassesCapabilities (.createVolume request) context replies ↔
        (service.step (.call (.validateCapabilities {
            volumeId := volumeId
            capabilities := some (numbered modes) })
            context replies)).1.outcome =
          .answered (.ok { response := .validation true "" }) []) ∧
      ∀ failure,
        ((validateCapabilities (some (numbered modes))).runIn session).1 = .error failure →
        service.Refuses (.createVolume request) context replies failure) ∧
    (request.name.truthy = false →
      ¬ service.PassesCapabilities (.createVolume request) context replies ∧
        service.Refuses (.createVolume request) context replies (.validation (.empty "name"))) := by
  have hanswer := service.answers_supported_iff hvolume modes context replies
  have hcollects (modes : List Int) :
      ((areCapabilitiesSupported (numbered modes)).runIn session).1 =
        capabilitiesRule (numbered modes) :=
    (isRule_areCapabilitiesSupported _).result session
  rw [(isRule_validateCapabilities _).result session, (isRule_respondCapabilities _).result session,
    hcollects modes]
  refine ⟨?_, ?_, ?_, ?_, ?_, ?_, service.refuses_of_name context replies⟩
  · tfae_have 1 ↔ 2 := capabilitiesRule_eq_true_iff.symm
    tfae_have 1 ↔ 3 := checkCapabilities_eq_ok_iff.symm
    tfae_have 1 ↔ 4 := capabilitiesVerdict_eq_iff.symm
    tfae_have 1 ↔ 5 := hanswer.symm
    tfae_finish
  · by_cases hlong : HasLongMode modes
    · rw [capabilitiesRule_of_long hlong]
      exact iff_of_false nofun (not_not_intro hlong)
    · exact iff_of_true ⟨_, capabilitiesRule_of_short hlong⟩ hlong
  · intro hlong
    exact ⟨capabilitiesRule_of_long hlong, service.refuses_of_long hvolume hlong context replies⟩
  · intro others hsame
    rw [hcollects others]
    exact capabilitiesRule_congr hsame
  · intro failure hsome hfailed
    obtain ⟨front, n, back, hsplit, hfront, hfirst, rfl⟩ :=
      first_of_checkCapabilities hsome hfailed
    exact ⟨front, n, back, hsplit, hfront, hfirst, message_of_refusal_iff n,
      fun hfits => (refusal_number n).trans (if_pos hfits),
      fun hlong => (refusal_number n).trans (if_neg hlong)⟩
  · intro hname
    refine ⟨?_, ?_⟩
    · rw [hanswer]
      exact service.passesCapabilities_iff context replies hname hrequest
    · intro failure hfailed
      rw [← hrequest] at hfailed
      exact service.refuses_of_capabilities context replies hname hfailed

/-- A request for a volume of a name with capabilities of numbered modes. -/
def creationWith (modes : List Int) : CreateVolumeRequest where
  name := .text "data"
  capabilities := some (numbered modes)

/-- A creation for one writer, named twice, gets past the check, and one that also names two other
modes is refused for the first of these. -/
theorem second_mode_refused :
    (Value.text "7").truthy = true ∧ (creationWith [1, 3, 9]).name.truthy = true ∧
      (creationWith [1, 1]).name.truthy = true ∧
      (withToken "token").PassesCapabilities (.createVolume (creationWith [1, 1])) {} [] ∧
      ((withToken "token").step (.call (.validateCapabilities {
          volumeId := .text "7"
          capabilities := some (numbered [1, 1]) }) {} [])).1.outcome =
        .answered (.ok { response := .validation true "" }) [] ∧
      ¬ (withToken "token").PassesCapabilities (.createVolume (creationWith [1, 3, 9])) {} [] ∧
      (withToken "token").Refuses (.createVolume (creationWith [1, 3, 9])) {} []
        (.validation (.unsupportedAccessMode (.number 3))) := by
  have hvolume : (Value.text "7").truthy = true := by decide
  have hname (modes : List Int) : (creationWith modes).name.truthy = true := by
    simp [creationWith, Value.truthy]
  obtain ⟨hfine, -, -, -, -, hcreates, -⟩ := @capability_checks_agree [1, 1] (withToken "token") _
    hvolume (creationWith [1, 1]) rfl {} [] { thread := "" }
  obtain ⟨hmixed, -, -, -, -, hrefuses, -⟩ := @capability_checks_agree [1, 3, 9]
    (withToken "token") _ hvolume (creationWith [1, 3, 9]) rfl {} [] { thread := "" }
  have hwriter : AreForOneWriter [1, 1] := ⟨by simp, by simp [AccessMode.singleNodeWriter]⟩
  have hother : ¬ AreForOneWriter [1, 3, 9] := fun hwriter =>
    absurd (hwriter.2 3 (by simp)) (by decide)
  obtain ⟨hpasses, -⟩ := hcreates (hname [1, 1])
  obtain ⟨hstops, hrefused⟩ := hrefuses (hname [1, 3, 9])
  have hanswered := (hfine.out 0 4).1 hwriter
  exact ⟨hvolume, hname _, hname _, hpasses.2 hanswered, hanswered,
    fun hthrough => hother ((hmixed.out 0 4).2 (hstops.1 hthrough)), hrefused _ rfl⟩

/-- Capabilities that one call finds supported do not get the other past the check where its volume
has no name, and a mode that is too long to be written is not named by the failure for it. -/
theorem nameless_stopped_and_long_unnamed :
    ((withToken "token").step (.call (.validateCapabilities {
          volumeId := .text "7"
          capabilities := some (numbered [1]) }) {} [])).1.outcome =
        .answered (.ok { response := .validation true "" }) [] ∧
      ¬ (withToken "token").PassesCapabilities
        (.createVolume { name := .text "", capabilities := some (numbered [1]) }) {} [] ∧
      ∃ failure,
        ((validateCapabilities (some (numbered [Numeral.tooLong]))).runIn
          { thread := "" }).1 = .error failure ∧
        failure.message ≠ "Validation error has occurred : unsupported access mode : " ++
          Numeral.text Numeral.tooLong := by
  have hwriter : AreForOneWriter [1] := ⟨by simp, by simp [AccessMode.singleNodeWriter]⟩
  refine ⟨?_, ?_, (AccessMode.number Numeral.tooLong).refusal, ?_, ?_⟩
  · exact ((withToken "token").answers_supported_iff (by decide) [1] {} []).2 hwriter
  · exact ((withToken "token").refuses_of_name {} [] (by decide)).1
  · rw [(isRule_validateCapabilities _).result]
    exact checkCapabilities_cons (mt fits_of_singleNodeWriter Numeral.not_fits_tooLong) []
  · exact mt (message_of_refusal_iff _).1 Numeral.not_fits_tooLong

end Service

end VolumePlugin
