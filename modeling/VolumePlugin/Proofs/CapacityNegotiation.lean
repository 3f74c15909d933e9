/-
# The size that a caller and the plugin agree on

A caller gives two bounds in bytes, either of which may be zero for none, and is given a volume of
whole gibibytes. Only an exact size is agreed on: bounds conflict where one is negative and where
both are given and differ. Bounds that do not conflict ask for the greater of them, which is the one
that is given, and for the default size where none is. Bounds that differ are quoted, which fails
where one of them has too many digits: then the request is not found to be wrong.

The caller hears of the agreed size in bytes. A volume that was newly created is never larger than
what was asked for, and smaller by less than a gibibyte.
-/
import VolumePlugin.Proofs.CreationOutcome

namespace VolumePlugin

/-! ## Whole gibibytes -/

namespace Size

/-- The whole gibibytes of bytes are the only number of gibibytes that they reach without reaching
one more. -/
theorem gibOfBytes_eq_iff {bytes gigabytes : Int} :
    gibOfBytes bytes = gigabytes ↔
      gigabytes * 2 ^ 30 ≤ bytes ∧ bytes < (gigabytes + 1) * 2 ^ 30 := by
  rw [gibOfBytes, gib_eq]
  omega

theorem gibOfBytes_mono {fewer more : Int} (hle : fewer ≤ more) :
    gibOfBytes fewer ≤ gibOfBytes more := by
  rw [gibOfBytes, gibOfBytes, gib_eq]
  omega

/-- Back in bytes, less than a gibibyte has been lost. -/
theorem bytesOfGib_gibOfBytes_bounds (bytes : Int) :
    bytesOfGib (gibOfBytes bytes) ≤ bytes ∧ bytes < bytesOfGib (gibOfBytes bytes) + 2 ^ 30 := by
  rw [bytesOfGib, gibOfBytes, gib_eq]
  omega

end Size

/-! ## Bounds -/

/-- A failure of the same kind for bounds that are given the other way round. -/
def Failure.swapped : Failure → Failure
  | .validation (.inexactRange required limit) => .validation (.inexactRange limit required)
  | other => other

namespace CapacityRange

/-- Whole bounds conflict: one is negative, or both are given and they differ. -/
def Conflict (required limit : Int) : Prop :=
  required < 0 ∨ limit < 0 ∨ required ≠ 0 ∧ limit ≠ 0 ∧ required ≠ limit

/-- Bounds that differ cannot be told where one of them is too long to be written. -/
def IsUntold (required limit : Int) : Prop :=
  0 < required ∧ 0 < limit ∧ required ≠ limit ∧
    ¬ (Numeral.fits required = true ∧ Numeral.fits limit = true)

/-- A range asks for exactly so many bytes: by both bounds, or by one of them and no other. -/
inductive AsksFor (bytes : Int) : CapacityRange → Prop
  | both : AsksFor bytes ⟨.int bytes, .int bytes⟩
  | required : AsksFor bytes ⟨.int bytes, .int 0⟩
  | limit : AsksFor bytes ⟨.int 0, .int bytes⟩

variable {required limit bytes : Int} {range : CapacityRange}

theorem storage_none : storage none = .ok (.int 16) := rfl

theorem storage_of_negative (hnegative : required < 0 ∨ limit < 0) :
    storage (some ⟨.int required, .int limit⟩) = .error (.validation .negativeSize) := by
  have hrefused : (decide (required < 0) || decide (limit < 0)) = true := by
    simpa using hnegative
  rw [storage, resolve, hasNegativeBound_int, hrefused]
  rfl

/-- Bounds that are not negative are compared, and one that is given is converted. -/
theorem storage_of_signs (hrequired : 0 ≤ required) (hlimit : 0 ≤ limit) :
    storage (some ⟨.int required, .int limit⟩) =
      if required ≠ 0 ∧ limit ≠ 0 ∧ required ≠ limit then
        .error ((Failure.validation (.inexactRange (.int required) (.int limit))).wordedWith
          [.int required, .int limit])
      else if required ≠ 0 then .ok (.int (Size.gibOfBytes required))
      else if limit ≠ 0 then .ok (.int (Size.gibOfBytes limit))
      else .ok (.int 16) := by
  have hpassed : (decide (required < 0) || decide (limit < 0)) = false := by
    simp [hrequired, hlimit]
  have htruthy (n : Int) : (Value.int n).truthy = true ↔ n ≠ 0 := by
    simp [Value.truthy]
  have hconflict : ((Value.int required).truthy && (Value.int limit).truthy &&
      !(Value.int required).alike (.int limit)) = true ↔
        required ≠ 0 ∧ limit ≠ 0 ∧ required ≠ limit := by
    simp [htruthy, Value.alike_int, and_assoc]
  rw [storage, resolve_eq, checkSigns, hasNegativeBound_int, hpassed, checkExact, size]
  simp only [hconflict, htruthy]
  split <;> rfl

/-- Bounds that differ and can be written are quoted. -/
theorem storage_of_told (hrequired : 0 < required) (hlimit : 0 < limit) (hdiffer : required ≠ limit)
    (hfits : Numeral.fits required = true ∧ Numeral.fits limit = true) :
    storage (some ⟨.int required, .int limit⟩) =
      .error (.validation (.inexactRange (.int required) (.int limit))) := by
  rw [storage_of_signs (by omega) (by omega), if_pos ⟨by omega, by omega, hdiffer⟩]
  simp [Failure.wordedWith, Value.isWritable, hfits]

theorem storage_of_untold (huntold : IsUntold required limit) :
    storage (some ⟨.int required, .int limit⟩) = .error (.longNumeral .written) := by
  obtain ⟨hrequired, hlimit, hdiffer, hlong⟩ := huntold
  rw [storage_of_signs (by omega) (by omega), if_pos ⟨by omega, by omega, hdiffer⟩]
  simp [Failure.wordedWith, Value.isWritable, -not_and, hlong]

/-- Bounds that conflict are refused, or the words for it fail. -/
theorem storage_of_conflict (hconflict : Conflict required limit) :
    (¬ IsUntold required limit ∧
      ∃ problem, storage (some ⟨.int required, .int limit⟩) = .error (.validation problem)) ∨
    IsUntold required limit ∧
      storage (some ⟨.int required, .int limit⟩) = .error (.longNumeral .written) := by
  by_cases huntold : IsUntold required limit
  · exact .inr ⟨huntold, storage_of_untold huntold⟩
  · refine .inl ⟨huntold, ?_⟩
    by_cases hnegative : required < 0 ∨ limit < 0
    · exact ⟨_, storage_of_negative hnegative⟩
    · have hdiffer : 0 < required ∧ 0 < limit ∧ required ≠ limit := by
        unfold Conflict at hconflict
        omega
      obtain ⟨hrequired, hlimit, hdiffer⟩ := hdiffer
      have hfits : Numeral.fits required = true ∧ Numeral.fits limit = true := by
        by_contra hlong
        exact huntold ⟨hrequired, hlimit, hdiffer, hlong⟩
      exact ⟨_, storage_of_told hrequired hlimit hdiffer hfits⟩

/-- A range that asks for bytes is given the whole gibibytes of them, and of none the default. -/
theorem AsksFor.storage (hasks : range.AsksFor bytes) (hbytes : 0 ≤ bytes) :
    storage (some range) = .ok (.int (if bytes = 0 then 16 else Size.gibOfBytes bytes)) := by
  by_cases hnone : bytes = 0
  · subst hnone
    cases hasks <;> rfl
  · cases hasks with
    | both => simp [storage_of_signs hbytes hbytes, hnone]
    | required => simp [storage_of_signs hbytes (Int.le_refl 0), hnone]
    | limit => simp [storage_of_signs (Int.le_refl 0) hbytes, hnone]

/-- Less than no bytes are refused. -/
theorem AsksFor.nonneg (hasks : range.AsksFor bytes) {size : Value}
    (hsize : CapacityRange.storage (some range) = .ok size) : 0 ≤ bytes := by
  by_contra hnegative
  have hbelow : bytes < 0 := Int.not_le.1 hnegative
  have hrefused : CapacityRange.storage (some range) = .error (.validation .negativeSize) := by
    cases hasks with
    | both | required => exact storage_of_negative (.inl hbelow)
    | limit => exact storage_of_negative (.inr hbelow)
  rw [hrefused] at hsize
  cases hsize

/-- Bounds without a conflict ask for the greater of them. -/
theorem asksFor_of_not_conflict (hagreed : ¬ Conflict required limit) :
    0 ≤ max required limit ∧ AsksFor (max required limit) ⟨.int required, .int limit⟩ := by
  have hsigns : 0 ≤ required ∧ 0 ≤ limit ∧
      (required = 0 ∨ limit = 0 ∨ required = limit) := by
    unfold Conflict at hagreed
    omega
  obtain ⟨hrequired, hlimit, rfl | rfl | rfl⟩ := hsigns
  · rw [Int.max_eq_right hlimit]
    exact ⟨hlimit, .limit⟩
  · rw [Int.max_eq_left hrequired]
    exact ⟨hrequired, .required⟩
  · rw [Int.max_self]
    exact ⟨hrequired, .both⟩

/-- They are given its whole gibibytes, and the default where it is none. -/
theorem storage_of_not_conflict (hagreed : ¬ Conflict required limit) :
    storage (some ⟨.int required, .int limit⟩) =
      .ok (.int (if max required limit = 0 then 16 else Size.gibOfBytes (max required limit))) := by
  obtain ⟨hbytes, hasks⟩ := asksFor_of_not_conflict hagreed
  exact hasks.storage hbytes

theorem IsUntold.conflict (huntold : IsUntold required limit) : Conflict required limit := by
  obtain ⟨hrequired, hlimit, hdiffer, -⟩ := huntold
  unfold Conflict
  omega

/-- Bounds are refused just where they conflict and this can be told. -/
theorem storage_refused_iff :
    (∃ problem, storage (some ⟨.int required, .int limit⟩) = .error (.validation problem)) ↔
      Conflict required limit ∧ ¬ IsUntold required limit := by
  by_cases hconflict : Conflict required limit
  · rcases storage_of_conflict hconflict with ⟨htold, hrefused⟩ | ⟨huntold, hfailed⟩
    · exact iff_of_true hrefused ⟨hconflict, htold⟩
    · rw [hfailed]
      exact iff_of_false nofun fun htold => htold.2 huntold
  · rw [storage_of_not_conflict hconflict]
    exact iff_of_false nofun fun htold => hconflict htold.1

/-- The words fail just where the conflict cannot be told. -/
theorem storage_untold_iff :
    storage (some ⟨.int required, .int limit⟩) = .error (.longNumeral .written) ↔
      IsUntold required limit := by
  refine ⟨fun hfailed => ?_, storage_of_untold⟩
  by_cases hconflict : Conflict required limit
  · rcases storage_of_conflict hconflict with ⟨-, problem, hrefused⟩ | ⟨huntold, -⟩
    · rw [hrefused] at hfailed
      cases hfailed
    · exact huntold
  · rw [storage_of_not_conflict hconflict] at hfailed
    cases hfailed

/-- Where bounds of bytes come to a size, it is that of the greater of them. -/
theorem eq_of_storage (hbound : 1 ≤ max required limit) {size : Value}
    (hsize : storage (some ⟨.int required, .int limit⟩) = .ok size) :
    size = .int (Size.gibOfBytes (max required limit)) := by
  by_cases hconflict : Conflict required limit
  · rcases storage_of_conflict hconflict with ⟨-, problem, hfailed⟩ | ⟨-, hfailed⟩ <;>
      rw [hfailed] at hsize <;> cases hsize
  · rw [storage_of_not_conflict hconflict, if_neg (by omega)] at hsize
    exact (Except.ok.inj hsize).symm

/-- Bounds that are given the other way round come to the same. -/
theorem storage_swapped (required limit : Int) :
    storage (some ⟨.int limit, .int required⟩) =
      (storage (some ⟨.int required, .int limit⟩)).mapError Failure.swapped := by
  by_cases hnegative : required < 0 ∨ limit < 0
  · rw [storage_of_negative hnegative, storage_of_negative hnegative.symm]
    rfl
  · by_cases hdiffer : required ≠ 0 ∧ limit ≠ 0 ∧ required ≠ limit
    · obtain ⟨hrequired, hlimit, hunequal⟩ := hdiffer
      by_cases hfits : Numeral.fits required = true ∧ Numeral.fits limit = true
      · rw [storage_of_told (by omega) (by omega) hunequal hfits,
          storage_of_told (by omega) (by omega) hunequal.symm hfits.symm]
        rfl
      · have huntold : IsUntold required limit := ⟨by omega, by omega, hunequal, hfits⟩
        have hother : IsUntold limit required :=
          ⟨by omega, by omega, hunequal.symm, mt And.symm hfits⟩
        rw [storage_of_untold huntold, storage_of_untold hother]
        rfl
    · have hagreed : ¬ Conflict required limit ∧ ¬ Conflict limit required := by
        unfold Conflict
        omega
      rw [storage_of_not_conflict hagreed.1, storage_of_not_conflict hagreed.2, Int.max_comm]
      rfl

end CapacityRange

/-! ## A volume that was newly created -/

/-- A valid request asks for the size of its range. -/
theorem CreateVolumeRequest.storage_of_rule {request : CreateVolumeRequest}
    {name gigabytes : Value} (hrequest : request.rule = .ok (name, gigabytes)) :
    CapacityRange.storage request.range = .ok gigabytes := by
  obtain ⟨_, -, hrest⟩ := bind_eq_ok.1 hrequest
  obtain ⟨_, -, hrest⟩ := bind_eq_ok.1 hrest
  obtain ⟨size, hstorage, hrest⟩ := bind_eq_ok.1 hrest
  obtain ⟨_, -, hrest⟩ := bind_eq_ok.1 hrest
  cases hrest
  exact hstorage

/-- A response behind a request that posts a volume has the size that was asked for. -/
theorem CreationRun.response_of_posted {request : CreateVolumeRequest} {setting : Setting}
    {transcript : List Event} {response : Response}
    (hrun : CreationRun request setting transcript (.ok response))
    (hposted : ∃ posted ∈ (exchangesOf transcript).map Prod.fst, posted.method = .post) :
    ∃ gigabytes volumeId capacity, CapacityRange.storage request.range = .ok gigabytes ∧
      Size.toBytes gigabytes = .ok capacity ∧ response = .creation (some ⟨volumeId, capacity⟩) := by
  generalize houtcome : (Except.ok response : Except Failure Response) = outcome at hrun
  cases hrun with
  | invalid | unready | late => cases houtcome
  | @listed name gigabytes client left timeout reply rest _ hrequest hclient htime hrest =>
      cases hrest with
      | unlisted | unfit => cases houtcome
      | found hpage hvolume =>
          -- Only the request for the volumes of the name was sent, and this one posts nothing.
          obtain ⟨posted, hsent, hmethod⟩ := hposted
          obtain rfl := List.mem_singleton.1 hsent
          cases hmethod
      | absent hpage hvolume hrest =>
          cases hrest with
          | cancelled | late => cases houtcome
          | asked hlater =>
              obtain ⟨volume, -, hresponse⟩ := bind_eq_ok.1 houtcome.symm
              obtain ⟨capacity, hcapacity, rfl⟩ := volumeResponse_eq_ok hresponse
              exact ⟨gigabytes, volume.id, capacity,
                CreateVolumeRequest.storage_of_rule hrequest, hcapacity, rfl⟩

/-- A call that posts a volume and responds with one responds with the size that it asked for. -/
theorem Service.AnswersAfter.capacity_of_posted {service : Service} {request : CreateVolumeRequest}
    {context : CallContext} {replies : List Reply} {sent : List Request} {volume : CsiVolume}
    (hanswers : service.AnswersAfter (.createVolume request) context replies sent
      { response := .creation (some volume) })
    (hposted : ∃ posted ∈ sent, posted.method = .post) :
    ∃ gigabytes, CapacityRange.storage request.range = .ok gigabytes ∧
      Size.toBytes gigabytes = .ok volume.capacityBytes := by
  obtain ⟨houtcome, transcript, _, -, hexchanges, outcome, hrun, hhandled⟩ :=
    service.outcome_of_supervised (.createVolume request) context replies rfl
  rw [Service.AnswersAfter, houtcome, Outcome.answered.injEq, hhandled] at hanswers
  obtain ⟨hanswer, rfl⟩ := hanswers
  obtain rfl := eq_ok_of_settled hanswer
  rw [← service.map_fst_exchanges, hexchanges] at hposted
  obtain ⟨gigabytes, volumeId, capacity, hstorage, hcapacity, hresponse⟩ :=
    hrun.response_of_posted hposted
  cases hresponse
  exact ⟨gigabytes, hstorage, hcapacity⟩

namespace CapacityRange

/-- How bounds of any size and sign come to a size in gibibytes. Without a range it is the default.
Bounds are refused where they conflict, but for two that differ and of which one is too long to be
written; and just for these the words fail instead. Where there is no conflict the greater of them
decides: zero means the default, and any other number its whole gibibytes, which is the only number
of gibibytes that it reaches without reaching one more. Bounds that are given the other way round
come to the same, and more bytes never to less. Whole gibibytes are given as they are, by whichever
bounds they are asked for. So a volume that was newly created for a number of bytes is never larger
than these, and smaller by less than a gibibyte. -/
theorem capacity_negotiated (required limit : Int) :
    storage none = .ok (.int 16) ∧
    ((∃ problem, storage (some ⟨.int required, .int limit⟩) = .error (.validation problem)) ↔
      Conflict required limit ∧ ¬ IsUntold required limit) ∧
    (storage (some ⟨.int required, .int limit⟩) = .error (.longNumeral .written) ↔
      IsUntold required limit) ∧
    (((∃ problem, storage (some ⟨.int required, .int limit⟩) = .error (.validation problem)) ↔
        Conflict required limit) ↔
      ¬ IsUntold required limit) ∧
    (¬ Conflict required limit →
      ∃ size : Int, storage (some ⟨.int required, .int limit⟩) = .ok (.int size) ∧
        (max required limit = 0 → size = 16) ∧
        (max required limit ≠ 0 → ∀ other : Int,
          other * 2 ^ 30 ≤ max required limit ∧ max required limit < (other + 1) * 2 ^ 30 ↔
            other = size)) ∧
    storage (some ⟨.int limit, .int required⟩) =
      (storage (some ⟨.int required, .int limit⟩)).mapError Failure.swapped ∧
    (∀ required' limit' size size' : Int, 1 ≤ max required limit →
      max required limit ≤ max required' limit' →
      storage (some ⟨.int required, .int limit⟩) = .ok (.int size) →
      storage (some ⟨.int required', .int limit'⟩) = .ok (.int size') → size ≤ size') ∧
    (∀ (size : Int) (range : CapacityRange), 1 ≤ size → range.AsksFor (size * 2 ^ 30) →
      storage (some range) = .ok (.int size)) ∧
    ∀ (service : Service) (request : CreateVolumeRequest) (context : CallContext)
      (replies : List Reply) (sent : List Request) (volume : CsiVolume),
      request.range = some ⟨.int required, .int limit⟩ → 1 ≤ max required limit →
      (∃ posted ∈ sent, posted.method = .post) →
      service.AnswersAfter (.createVolume request) context replies sent
        { response := .creation (some volume) } →
      ∃ bytes, volume.capacityBytes = .int bytes ∧ bytes ≤ max required limit ∧
        max required limit < bytes + 2 ^ 30 := by
  refine ⟨storage_none, storage_refused_iff, storage_untold_iff, ?_, ?_,
    storage_swapped required limit, ?_, ?_, ?_⟩
  · rw [storage_refused_iff, and_iff_left_iff_imp]
    exact ⟨fun htold huntold => htold huntold.conflict huntold, fun htold _ => htold⟩
  · intro hagreed
    refine ⟨_, storage_of_not_conflict hagreed, fun hnone => if_pos hnone, ?_⟩
    intro hsome other
    rw [if_neg hsome, ← Size.gibOfBytes_eq_iff, eq_comm]
  · intro required' limit' size size' hbound hmore hsize hsize'
    cases eq_of_storage hbound hsize
    cases eq_of_storage (Int.le_trans hbound hmore) hsize'
    exact Size.gibOfBytes_mono hmore
  · intro size range hsize hasks
    have hwhole : Size.gibOfBytes (size * 2 ^ 30) = size := Size.gibOfBytes_bytesOfGib size
    rw [hasks.storage (by omega), if_neg (by omega), hwhole]
  · intro service request context replies sent volume hrange hbound hposted hanswers
    obtain ⟨gigabytes, hsize, hcapacity⟩ := hanswers.capacity_of_posted hposted
    rw [hrange] at hsize
    cases eq_of_storage hbound hsize
    exact ⟨_, (Except.ok.inj hcapacity).symm, Size.bytesOfGib_gibOfBytes_bounds _⟩

/-- A limit of 32 gibibytes and five bytes comes to 32 gibibytes, and so does a required size. A
volume that is created for it is responded with in these, which is five bytes less. -/
theorem limit_met_by_whole_gibibytes :
    storage (some ⟨.int 0, .int (32 * 2 ^ 30 + 5)⟩) = .ok (.int 32) ∧
    storage (some ⟨.int (32 * 2 ^ 30 + 5), .int 0⟩) = .ok (.int 32) ∧
    ∃ (sent : List Request) (bytes : Int),
      Retry.service.AnswersAfter (.createVolume {
          name := .text "data"
          capabilities := some [some ⟨.number 1⟩]
          range := some ⟨.int 0, .int (32 * 2 ^ 30 + 5)⟩ })
        {} [Retry.emptyPage, Retry.createdAnswer] sent
        { response := .creation (some ⟨.text "v", .int bytes⟩) } ∧
      bytes ≤ 32 * 2 ^ 30 + 5 ∧ 32 * 2 ^ 30 + 5 < bytes + 2 ^ 30 := by
  obtain ⟨-, -, -, -, hwhole, hswapped, -, -, hcreated⟩ :=
    capacity_negotiated 0 (32 * 2 ^ 30 + 5)
  obtain ⟨size, hsize, -, hbounds⟩ := hwhole (by unfold Conflict; decide)
  obtain rfl : 32 = size := (hbounds (by decide) 32).1 (by decide)
  refine ⟨hsize, ?_, ?_⟩
  · rw [hswapped, hsize]
    rfl
  · let contender : Contender := ⟨Retry.service, {
      name := .text "data"
      capabilities := some [some ⟨.number 1⟩]
      range := some ⟨.int 0, .int (32 * 2 ^ 30 + 5)⟩ }, {}⟩
    have hready : contender.Ready (.text "data") (.int 32) Retry.client (.int 30) :=
      ⟨by decide +kernel, Retry.clientRule_service, rfl⟩
    have hfound : Retry.client.find (.text "data")
        ([Retry.emptyPage, Retry.createdAnswer].headD Reply.silence) = .ok none :=
      Retry.client.find_of_shown (.text "data") Retry.shown_emptyPage
    obtain ⟨capacity, hcapacity, hanswers⟩ :=
      hready.answers_posted hfound rfl rfl Retry.created_createdAnswer
    obtain ⟨bytes, hbytes, hbelow, habove⟩ :=
      hcreated _ _ _ _ _ _ rfl (by decide) ⟨_, List.mem_cons_of_mem _ List.mem_cons_self, rfl⟩
        hanswers
    cases hbytes
    exact ⟨_, _, hanswers, hbelow, habove⟩

/-- A byte and the least number of bytes that is too long to be written conflict, but are not
refused as such. -/
theorem long_bound_untold :
    Conflict Numeral.tooLong 1 ∧
      storage (some ⟨.int Numeral.tooLong, .int 1⟩) = .error (.longNumeral .written) ∧
      ¬ ((∃ problem, storage (some ⟨.int Numeral.tooLong, .int 1⟩) =
          .error (.validation problem)) ↔ Conflict Numeral.tooLong 1) := by
  have huntold : IsUntold Numeral.tooLong 1 :=
    ⟨Int.lt_trans (by decide) Numeral.one_lt_tooLong, by decide,
      (Int.ne_of_lt Numeral.one_lt_tooLong).symm, fun hfits => Numeral.not_fits_tooLong hfits.1⟩
  refine ⟨huntold.conflict, storage_of_untold huntold, fun hrefused => ?_⟩
  exact (storage_refused_iff.1 (hrefused.2 huntold.conflict)).2 huntold

end CapacityRange

end VolumePlugin
