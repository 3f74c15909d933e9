/-
# Text from octets

UTF-8 read without refusal. Octets that are no part of a well-formed character are replaced
by U+FFFD, one replacement for each longest run of octets that starts a character and stops
short of it, and one for each octet that can start none. Surrogates and overlong forms are
excluded by the bounds on the second octet.
-/

namespace VolumePlugin.Text.Utf8

/-- The replacement for octets that are no character. -/
def replacement : Char := '\ufffd'

/-- A character begun: the octets still owed, the bounds of the next one, and the bits read. -/
structure Pending where
  owed : Nat
  low : Nat
  high : Nat
  bits : Nat

/-- What one octet does between characters: what it writes and what it leaves begun. -/
def start (octet : Nat) : List Char × Option Pending :=
  if octet < 0x80 then ([Char.ofNat octet], none)
  else if octet < 0xC2 then ([replacement], none)
  else if octet < 0xE0 then ([], some ⟨1, 0x80, 0xBF, octet - 0xC0⟩)
  else if octet = 0xE0 then ([], some ⟨2, 0xA0, 0xBF, 0⟩)
  else if octet = 0xED then ([], some ⟨2, 0x80, 0x9F, 0xD⟩)
  else if octet < 0xF0 then ([], some ⟨2, 0x80, 0xBF, octet - 0xE0⟩)
  else if octet = 0xF0 then ([], some ⟨3, 0x90, 0xBF, 0⟩)
  else if octet < 0xF4 then ([], some ⟨3, 0x80, 0xBF, octet - 0xF0⟩)
  else if octet = 0xF4 then ([], some ⟨3, 0x80, 0x8F, 4⟩)
  else ([replacement], none)

/-- What one octet does inside a character. An octet out of bounds ends the begun character
with a replacement and is read again between characters. -/
def resume (pending : Pending) (octet : Nat) : List Char × Option Pending :=
  if pending.low ≤ octet ∧ octet ≤ pending.high then
    let bits := pending.bits * 64 + (octet - 0x80)
    if pending.owed ≤ 1 then ([Char.ofNat bits], none)
    else ([], some ⟨pending.owed - 1, 0x80, 0xBF, bits⟩)
  else
    let (written, next) := start octet
    (replacement :: written, next)

/-- The text of the rest of the octets. -/
def decodeFrom : Option Pending → List UInt8 → List Char
  | none, [] => []
  | some _, [] => [replacement]
  | none, octet :: rest =>
    let (written, next) := start octet.toNat
    written ++ decodeFrom next rest
  | some pending, octet :: rest =>
    let (written, next) := resume pending octet.toNat
    written ++ decodeFrom next rest

/-- The text of octets. -/
def decode (octets : List UInt8) : List Char :=
  decodeFrom none octets

example : decode [0x61, 0xC3, 0xA9, 0xE2, 0x82] = ['a', 'é', replacement] := by decide
example : decode [0xED, 0xA0, 0x80] = [replacement, replacement, replacement] := by decide

end VolumePlugin.Text.Utf8
