/-
# Sizes of volumes

The provider sizes volumes in whole gibibytes, while callers speak in bytes. A caller asks for
an exact size: it gives one bound, or two equal ones. A bound of zero is no bound, and without
a bound the default size is taken. A size in bytes loses its partial gibibyte.
-/
import VolumePlugin.Value.Order

namespace VolumePlugin

namespace Size

/-- A kibibyte. -/
def kib : Int := Int.pow 2 10

/-- A mebibyte. -/
def mib : Int := Int.pow 2 20

/-- The power of two that a gibibyte is. -/
def gibExponent : Nat := 30

/-- A gibibyte, the unit of the provider. -/
def gib : Int := Int.pow 2 gibExponent

/-- A gibibyte in bytes. -/
theorem gib_eq : gib = 1073741824 := rfl

/-- A tebibyte. -/
def tib : Int := Int.pow 2 40

/-- The size in bytes where none is asked for. -/
def standard : Int := 16 * gib

/-- The least size in bytes. -/
def least : Int := 1 * gib

/-- The greatest size in bytes. -/
def greatest : Int := 16 * tib

/-- Bytes of gibibytes. -/
def bytesOfGib (size : Int) : Int :=
  size * gib

/-- Whole gibibytes of bytes. -/
def gibOfBytes (size : Int) : Int :=
  size / gib

/-- Whole gibibytes are kept. -/
theorem gibOfBytes_bytesOfGib (size : Int) : gibOfBytes (bytesOfGib size) = size := by
  simp [gibOfBytes, bytesOfGib, gib_eq]

/-- A size in gibibytes, of whatever kind, in bytes. Repeating a text or list as often as a
gibibyte has bytes leaves an empty one as it is and exceeds the memory for any other. -/
def toBytes (size : Value) : Except Failure Value :=
  match size with
  | .int n => .ok (.int (bytesOfGib n))
  | .bool b => .ok (.int (bytesOfGib (if b then 1 else 0)))
  | .float x => .ok (.float (x.scaleUp gibExponent))
  | .text s => if s = "" then .ok (.text s) else .error .outOfMemory
  | .list items => if items.isEmpty then .ok (.list items) else .error .outOfMemory
  | other => .error (.mismatch (.noNumber .product other.kind))

/-- A size in bytes, which should be a number of any kind, in whole gibibytes. -/
def toGib (size : Value) : Except Failure Value :=
  match size with
  | .int n => .ok (.int (gibOfBytes n))
  | .bool b => .ok (.int (gibOfBytes (if b then 1 else 0)))
  | .float x => .ok (.float (x.floorQuotient gibExponent))
  | other => .error (.mismatch (.noNumber .wholeQuotient other.kind))

/-- Whether a size in bytes is one that volumes can have. -/
def inRange (bytes : Value) : Except Failure Bool := do
  if ← Value.compare .atMost (.int least) bytes then
    Value.compare .atMost bytes (.int greatest)
  else return false

/-- Refuse a size in gibibytes that volumes cannot have. -/
def check (size : Value) : Except Failure Unit := do
  let bytes ← toBytes size
  if ← inRange bytes then return
  throw ((Failure.sizeOutOfRange bytes (.int least) (.int greatest)).wordedWith [bytes])

/-- Whole numbers are in range by their value. -/
theorem inRange_int (n : Int) :
    inRange (.int n) = .ok (decide (least ≤ n) && decide (n ≤ greatest)) := by
  unfold inRange
  rw [Value.compare_atMost_int, Value.compare_atMost_int]
  by_cases h : least ≤ n <;> simp [bind, Except.bind, pure, Except.pure, h]

end Size

/-- The bounds in bytes on the size of a volume, zero where none is given. -/
structure CapacityRange where
  required : Value := .int 0
  limit : Value := .int 0
  deriving DecidableEq

namespace CapacityRange

/-- Whether one of the bounds is negative. The limit is looked at only behind a required size
that is not, and each bound has to be a number. -/
def hasNegativeBound (range : CapacityRange) : Except Failure Bool := do
  if ← Value.compare .less range.required (.int 0) then return true
  Value.compare .less range.limit (.int 0)

/-- The size in gibibytes that two bounds ask for. -/
def resolve (range : CapacityRange) : Except Failure Value := do
  if ← range.hasNegativeBound then throw (.validation .negativeSize)
  if range.required.truthy then
    if range.limit.truthy && !range.required.alike range.limit then
      throw ((Failure.validation (.inexactRange range.required range.limit)).wordedWith
        [range.required, range.limit])
    Size.toGib range.required
  else if range.limit.truthy then Size.toGib range.limit
  else return .int (Size.gibOfBytes Size.standard)

/-- The size in gibibytes that a range, if there is one, asks for. -/
def storage : Option CapacityRange → Except Failure Value
  | none => .ok (.int (Size.gibOfBytes Size.standard))
  | some range => range.resolve

/-- Whole bounds are negative by their value. -/
theorem hasNegativeBound_int (required limit : Int) :
    hasNegativeBound ⟨.int required, .int limit⟩ =
      .ok (decide (required < 0) || decide (limit < 0)) := by
  unfold hasNegativeBound
  rw [Value.compare_less_int, Value.compare_less_int]
  by_cases h : required < 0 <;> simp [bind, Except.bind, pure, Except.pure, h]

example : (storage none).toOption = some (.int 16) := by decide
example : (resolve ⟨.int 0, .int (3 * 2 ^ 30 + 5)⟩).toOption = some (.int 3) := by decide +kernel

end CapacityRange

end VolumePlugin
