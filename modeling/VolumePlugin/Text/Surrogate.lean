/-
# Surrogates without a partner

Characters outside the first plane may be spelled as a pair of surrogates, and an escape can
spell one half of such a pair alone. A half is a code point but no character, so a text holds it
as two characters: the mark, which is the last code point of all, and the private character of
the last plane whose last sixteen bits are those of the half. The mark itself is held as two
marks, and any other character as it is. So no code point is held like another one, and the code
points that were put into a text are those that are read from it.
-/

namespace VolumePlugin.Text

/-- Whether a code point is the first half of a pair. -/
def isHighSurrogate (code : Nat) : Bool :=
  0xD800 ≤ code && code < 0xDC00

/-- Whether a code point is the second half of a pair. -/
def isLowSurrogate (code : Nat) : Bool :=
  0xDC00 ≤ code && code < 0xE000

/-- Whether a code point is a half. -/
def isSurrogate (code : Nat) : Bool :=
  0xD800 ≤ code && code < 0xE000

/-- The code point that the two halves of a pair spell: ten bits of each, behind the first
plane. -/
def pairedCode (high low : Nat) : Nat :=
  0x10000 + high % 0x400 * 0x400 + low % 0x400

/-- The mark in front of what stands for a half. -/
def mark : Char := Char.ofNat 0x10FFFF

/-- The first code point of the plane of stand-ins. -/
def standInPlane : Nat := 0x100000

/-- The characters that hold a code point. -/
def held (code : Nat) : List Char :=
  if isSurrogate code then [mark, Char.ofNat (standInPlane + code)]
  else if code = mark.toNat then [mark, mark]
  else [Char.ofNat code]

/-- The code point that a character behind a mark stands for, none for most characters. -/
def marked? (c : Char) : Option Nat :=
  if c = mark then some mark.toNat
  else if isSurrogate (c.toNat - standInPlane) then some (c.toNat - standInPlane)
  else none

/-- The code points that a text holds. A mark in front of nothing that it belongs to is held like
any other character. -/
def codes : List Char → List Nat
  | [] => []
  | [c] => [c.toNat]
  | c :: d :: rest =>
    if c = mark then
      match marked? d with
      | some code => code :: codes rest
      | none => c.toNat :: codes (d :: rest)
    else c.toNat :: codes (d :: rest)

/-- The text that holds nothing but the characters of a string. -/
def ofCharacters (s : String) : String :=
  String.ofList (s.toList.flatMap fun c => held c.toNat)

/-- The code point of a character is found again. -/
theorem toNat_ofNat_of_valid {code : Nat} (valid : code.isValidChar) :
    (Char.ofNat code).toNat = code := by
  unfold Char.ofNat
  rw [dif_pos valid]
  rfl

/-- A code point in front of a text is the first one that is read. -/
theorem codes_held_append {code : Nat} (small : code < 0x110000) (rest : List Char) :
    codes (held code ++ rest) = code :: codes rest := by
  have mark_code : mark.toNat = 0x10FFFF := by decide
  unfold held
  split
  next half =>
    simp only [isSurrogate, Bool.and_eq_true, decide_eq_true_eq] at half
    have value : (Char.ofNat (standInPlane + code)).toNat = standInPlane + code :=
      toNat_ofNat_of_valid (by simp only [standInPlane, Nat.isValidChar]; omega)
    have other : Char.ofNat (standInPlane + code) ≠ mark := by
      intro same
      have := congrArg Char.toNat same
      rw [value, mark_code, standInPlane] at this
      omega
    simp [codes, marked?, other, value, isSurrogate, half]
  next whole =>
    split
    next same => simp [codes, marked?, same]
    next other =>
      simp only [isSurrogate, Bool.and_eq_true, decide_eq_true_eq, not_and, Nat.not_lt] at whole
      have value : (Char.ofNat code).toNat = code :=
        toNat_ofNat_of_valid (by simp only [Nat.isValidChar]; omega)
      have unmarked : Char.ofNat code ≠ mark := by
        intro same
        have := congrArg Char.toNat same
        exact other (by simpa only [value] using this)
      cases rest <;> simp [codes, unmarked, value]

/-- The code points that were put into a text are those that are read from it. -/
theorem codes_flatMap_held {points : List Nat} (small : ∀ code ∈ points, code < 0x110000) :
    codes (points.flatMap held) = points := by
  induction points with
  | nil => rfl
  | cons code rest ih =>
      rw [List.flatMap_cons, codes_held_append (small code (by simp)),
        ih fun other member => small other (by simp [member])]

example : pairedCode 0xD83D 0xDE00 = '😀'.toNat := by decide
example : codes (held 0xDC00 ++ held 0x10DC00 ++ held 0x10FFFF) = [0xDC00, 0x10DC00, 0x10FFFF] := by
  decide

end VolumePlugin.Text
