/-
# The limits on sizes

A request for a volume is compared with the least and the greatest size by the whole gibibytes that
it comes to. Both limits are whole gibibytes themselves. At the least size nothing is lost by this,
since fewer bytes come to fewer gibibytes. At the greatest it counts: bytes beyond it that do not
fill one more gibibyte are gone before they are compared, and a request for them is accepted.

So the limits apply to the size that a request comes to, and to the size that it says in all cases
but these.
-/
import VolumePlugin.Proofs.CapacityNegotiation

namespace VolumePlugin

/-! ## The check of a size -/

/-- An outcome that is refused for a size outside the limits. -/
def IsOutOfRange {α : Type} (outcome : Except Failure α) : Prop :=
  ∃ size, outcome = .error (.sizeOutOfRange size (.int Size.least) (.int Size.greatest))

namespace Size

/-- What is left of bytes in whole gibibytes. -/
def wholeBytes (bytes : Int) : Int :=
  bytesOfGib (gibOfBytes bytes)

/-- Bytes that come to a size within the limits. -/
def ComesWithin (bytes : Int) : Prop :=
  least ≤ bytes ∧ bytes < greatest + gib

variable {bytes : Int}

theorem least_eq : least = 1073741824 := rfl

theorem greatest_eq : greatest = 17592186044416 := rfl

/-- Nothing is lost at the least size, and less than a gibibyte at the greatest. -/
theorem comesWithin_iff :
    ComesWithin bytes ↔ least ≤ wholeBytes bytes ∧ wholeBytes bytes ≤ greatest := by
  rw [ComesWithin, wholeBytes, bytesOfGib, gibOfBytes, gib_eq, least_eq, greatest_eq]
  omega

end Size

/-! ## Requests that are decided by their size -/

/-- A request that has a name and supported capabilities, and a range that passes with a bound of so
many bytes. -/
structure CreateVolumeRequest.AsksFor (request : CreateVolumeRequest) (bytes : Int) : Prop where
  named : request.name.truthy = true
  supported : checkCapabilities request.capabilities = .ok ()
  bounded : ∃ range, request.range = some range ∧ range.AsksFor bytes
  passes : ∃ size, CapacityRange.storage request.range = .ok size
  given : bytes ≠ 0

namespace CreateVolumeRequest.AsksFor

variable {request : CreateVolumeRequest} {bytes : Int}

theorem pos (hasks : request.AsksFor bytes) : 0 < bytes := by
  obtain ⟨range, hrange, hbytes⟩ := hasks.bounded
  obtain ⟨size, hsize⟩ := hasks.passes
  rw [hrange] at hsize
  exact Int.lt_iff_le_and_ne.2 ⟨hbytes.nonneg hsize, hasks.given.symm⟩

/-- It comes to the whole gibibytes of the bytes. -/
theorem storage_eq (hasks : request.AsksFor bytes) :
    CapacityRange.storage request.range = .ok (.int (Size.gibOfBytes bytes)) := by
  obtain ⟨range, hrange, hbytes⟩ := hasks.bounded
  rw [hrange, hbytes.storage (Int.le_of_lt hasks.pos), if_neg hasks.given]

/-- Nothing but the check of this size decides. -/
theorem rule_eq (hasks : request.AsksFor bytes) :
    request.rule =
      (Size.check (.int (Size.gibOfBytes bytes))).map fun _ =>
        (request.name, .int (Size.gibOfBytes bytes)) := by
  rw [rule, requireParameter, if_pos hasks.named, ok_bind, hasks.supported, ok_bind,
    hasks.storage_eq, ok_bind]
  cases Size.check (.int (Size.gibOfBytes bytes)) <;> rfl

theorem rule_of_comesWithin (hasks : request.AsksFor bytes) (hwithin : Size.ComesWithin bytes) :
    request.rule = .ok (request.name, .int (Size.gibOfBytes bytes)) := by
  rw [hasks.rule_eq, Size.check_of_within rfl (Size.comesWithin_iff.1 hwithin)]
  rfl

theorem rule_of_not_comesWithin (hasks : request.AsksFor bytes)
    (houtside : ¬ Size.ComesWithin bytes) :
    request.rule = .error (
      if Numeral.fits (Size.wholeBytes bytes) = true then
        .sizeOutOfRange (.int (Size.wholeBytes bytes)) (.int Size.least) (.int Size.greatest)
      else .longNumeral .written) := by
  rw [hasks.rule_eq, Size.check_of_not_within rfl (mt Size.comesWithin_iff.2 houtside)]
  rfl

/-- It is refused for its size outside the limits, as long as this can be written. -/
theorem isOutOfRange_iff (hasks : request.AsksFor bytes) :
    IsOutOfRange request.rule ↔
      ¬ Size.ComesWithin bytes ∧ Numeral.fits (Size.wholeBytes bytes) = true := by
  by_cases hwithin : Size.ComesWithin bytes
  · rw [hasks.rule_of_comesWithin hwithin]
    simp [IsOutOfRange, hwithin]
  · rw [hasks.rule_of_not_comesWithin hwithin]
    by_cases hfits : Numeral.fits (Size.wholeBytes bytes) = true
    · simp [IsOutOfRange, hwithin, hfits]
    · simp [IsOutOfRange, hfits]

/-- Fewer bytes than the least size leave nothing, and this can be written. -/
theorem fits_of_lt_least (hasks : request.AsksFor bytes) (hless : bytes < Size.least) :
    Numeral.fits (Size.wholeBytes bytes) = true := by
  have hnone : Size.wholeBytes bytes = 0 := by
    have hpos := hasks.pos
    rw [Size.least_eq] at hless
    rw [Size.wholeBytes, Size.bytesOfGib, Size.gibOfBytes, Size.gib_eq]
    omega
  rw [hnone]
  decide

/-- The limits apply to the bytes themselves unless these exceed the greatest size by less than a
gibibyte. -/
theorem limits_apply_iff (hasks : request.AsksFor bytes) :
    (IsOutOfRange request.rule ↔ bytes < Size.least ∨ Size.greatest < bytes) ↔
      bytes ≤ Size.greatest ∨
        Size.greatest + Size.gib ≤ bytes ∧ Numeral.fits (Size.wholeBytes bytes) = true := by
  rw [hasks.isOutOfRange_iff, Size.ComesWithin, Size.greatest_eq, Size.gib_eq]
  by_cases hfits : Numeral.fits (Size.wholeBytes bytes) = true
  · simp only [hfits, and_true]
    rw [Size.least_eq]
    omega
  · -- What cannot be written is not below the least size.
    have hleast : ¬ bytes < Size.least := fun hless => hfits (hasks.fits_of_lt_least hless)
    simp only [hfits, hleast, Bool.false_eq_true, and_false, false_or, or_false, false_iff,
      Int.not_lt]

end CreateVolumeRequest.AsksFor

/-! ## What the limits decide -/

namespace CreateVolumeRequest

/-- The limits on a request that has a name, supported capabilities and a range that passes with a
bound of so many bytes. It is accepted, in its whole gibibytes, where the bytes reach the least size
and exceed the greatest by less than a gibibyte, and refused for its size otherwise, as long as this
can be written. So the limits apply to the bytes themselves just where these do not exceed the
greatest size, or do so by a gibibyte at least. A call that is refused asks nothing of the provider,
and one that is accepted asks it, given a client and time. -/
theorem limits_of_whole_size {request : CreateVolumeRequest} {bytes : Int}
    (hasks : request.AsksFor bytes) (session : Session) :
    ((request.validate.runIn session).1 = .ok (request.name, .int (Size.gibOfBytes bytes)) ↔
      Size.least ≤ bytes ∧ bytes < Size.greatest + Size.gib) ∧
    (IsOutOfRange (request.validate.runIn session).1 ↔
      (bytes < Size.least ∨ Size.greatest + Size.gib ≤ bytes) ∧
        Numeral.fits (Size.wholeBytes bytes) = true) ∧
    ((IsOutOfRange (request.validate.runIn session).1 ↔
        bytes < Size.least ∨ Size.greatest < bytes) ↔
      bytes ≤ Size.greatest ∨
        Size.greatest + Size.gib ≤ bytes ∧ Numeral.fits (Size.wholeBytes bytes) = true) ∧
    ∀ (service : Service) (context : CallContext) (replies : List Reply),
      (IsOutOfRange (request.validate.runIn session).1 →
        service.Refuses (.createVolume request) context replies (.sizeOutOfRange
          (.int (Size.wholeBytes bytes)) (.int Size.least) (.int Size.greatest))) ∧
      (Size.least ≤ bytes ∧ bytes < Size.greatest + Size.gib → ∀ client timeout,
        service.setting.clientRule = .ok client →
        client.timeFor "CreateVolume" context.clock.now = .ok timeout →
        service.requestsOf (.createVolume request) context replies ≠ []) := by
  have hvalidated : (request.validate.runIn session).1 = request.rule :=
    request.isRule_validate.result session
  rw [hvalidated]
  refine ⟨⟨?_, hasks.rule_of_comesWithin⟩, ?_, hasks.limits_apply_iff, ?_⟩
  · intro haccepted
    by_contra houtside
    rw [hasks.rule_of_not_comesWithin houtside] at haccepted
    cases haccepted
  · rw [hasks.isOutOfRange_iff, Size.ComesWithin, Decidable.not_and_iff_or_not, Int.not_le,
      Int.not_lt]
  · intro service context replies
    have hprovider : (Call.createVolume request).asksProvider = true := rfl
    obtain ⟨hrefuses, hsends⟩ := service.outcome_of_preflight context replies hprovider
    constructor
    · intro hout
      obtain ⟨houtside, hfits⟩ := hasks.isOutOfRange_iff.1 hout
      apply hrefuses
      rw [Call.preflight, Call.validation, hasks.rule_of_not_comesWithin houtside, if_pos hfits]
      rfl
    · intro hwithin client timeout hclient htime
      have hvalid : (Call.createVolume request).validation = .ok () := by
        rw [Call.validation, hasks.rule_of_comesWithin hwithin]
        rfl
      apply hsends timeout
      rw [Call.preflight, hvalid, ok_bind, hclient, ok_bind]
      exact htime

/-- A request for a volume of at least so many bytes. -/
def ofBytes (bytes : Int) : CreateVolumeRequest where
  name := .text "data"
  capabilities := some [some ⟨.number 1⟩]
  range := some ⟨.int bytes, .int 0⟩

theorem asksFor_ofBytes {bytes : Int} (hpositive : 0 < bytes) : (ofBytes bytes).AsksFor bytes where
  named := rfl
  supported := rfl
  bounded := ⟨_, rfl, .required⟩
  passes := ⟨_, CapacityRange.AsksFor.required.storage (Int.le_of_lt hpositive)⟩
  given := (Int.ne_of_lt hpositive).symm

/-- The greatest size is accepted, and a gibibyte more is refused without a request. -/
theorem greatest_accepted_and_more_refused :
    ((ofBytes Size.greatest).validate.runIn ((Service.withToken "token").sessionFor {} [])).1 =
        .ok (.text "data", .int 16384) ∧
      (Service.withToken "token").Refuses (.createVolume (ofBytes (Size.greatest + Size.gib))) {} []
        (.sizeOutOfRange (.int (16385 * 2 ^ 30)) (.int (2 ^ 30)) (.int (2 ^ 44))) := by
  have hgreatest : 0 < Size.greatest := by decide
  have hmore : 0 < Size.greatest + Size.gib := by decide
  obtain ⟨haccepted, -⟩ := limits_of_whole_size (asksFor_ofBytes hgreatest)
    ((Service.withToken "token").sessionFor {} [])
  obtain ⟨-, hrefused, -, hcall⟩ := limits_of_whole_size (asksFor_ofBytes hmore)
    ((Service.withToken "token").sessionFor {} [])
  refine ⟨haccepted.2 (by decide), ?_⟩
  exact (hcall _ _ _).1 (hrefused.2 ⟨.inr (by decide), by decide⟩)

/-- One byte more than the greatest size is accepted as the greatest size. -/
theorem byte_beyond_greatest_accepted :
    ((ofBytes (Size.greatest + 1)).validate.runIn
        ((Service.withToken "token").sessionFor {} [])).1 = .ok (.text "data", .int 16384) ∧
      ¬ (IsOutOfRange ((ofBytes (Size.greatest + 1)).validate.runIn
            ((Service.withToken "token").sessionFor {} [])).1 ↔
          Size.greatest + 1 < Size.least ∨ Size.greatest < Size.greatest + 1) := by
  have haccepted : ((ofBytes (Size.greatest + 1)).validate.runIn
      ((Service.withToken "token").sessionFor {} [])).1 = .ok (.text "data", .int 16384) := by
    decide +kernel
  refine ⟨haccepted, ?_⟩
  rw [haccepted]
  intro hlimits
  obtain ⟨size, himpossible⟩ := hlimits.2 (.inr (by decide))
  cases himpossible

end CreateVolumeRequest

end VolumePlugin
