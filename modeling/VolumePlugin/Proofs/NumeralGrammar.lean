/-
# Which texts are numerals

The grammar of numerals is written out here apart from the function that reads them: white space, a
sign that may be missing, digits of any script with single underscores between them, and white space
again. A text is read as a number just where the grammar gives it this number and it has no more
digits than can be read.

The grammar also says what may be added to a numeral without a change of its number.
-/
import Mathlib.Data.List.TakeWhile
import Mathlib.Data.Nat.Digits.Defs
import VolumePlugin.Proofs.Decimal

namespace VolumePlugin

open Text

/-! ## White space -/

namespace Text

/-- White space: six characters of ASCII, and outside ASCII what counts as such. -/
def IsSpace (c : Char) : Prop :=
  c ∈ ['\t', '\n', '\x0b', '\x0c', '\r', ' '] ∨ 0x80 ≤ c.toNat ∧ isBlank c = true

/-- Within ASCII the table of blanks holds the six characters and no other. -/
theorem isBlank_iff_isSpace {c : Char} : isBlank c = true ↔ IsSpace c := by
  have hnamed : c ∈ ['\t', '\n', '\x0b', '\x0c', '\r', ' '] ↔
      c.toNat ∈ [9, 10, 11, 12, 13, 32] := by
    simp only [List.mem_cons, List.not_mem_nil, or_false, ← Char.toNat_inj]
    rfl
  rw [IsSpace, hnamed]
  by_cases hascii : c.toNat < 0x80
  · -- The third range starts outside ASCII, so that the first two decide.
    have htable : isBlank c = true ↔ 9 ≤ c.toNat ∧ (c.toNat ≤ 13 ∨ c.toNat = 32) := by
      have hthird : c.toNat < 0x85 := by omega
      simp only [isBlank, blanks, Ranges.holds, if_pos hthird]
      clear hnamed
      grind
    rw [htable]
    simp only [List.mem_cons, List.not_mem_nil, or_false]
    omega
  · simp only [List.mem_cons, List.not_mem_nil, or_false]
    grind

/-- The text before the first and behind the last other character is blank. -/
theorem exists_of_trimBlanks (text : List Char) :
    ∃ before after, text = before ++ trimBlanks text ++ after ∧
      (∀ c ∈ before, isBlank c = true) ∧ ∀ c ∈ after, isBlank c = true := by
  refine ⟨text.takeWhile isBlank,
    ((text.dropWhile isBlank).reverse.takeWhile isBlank).reverse, ?_, ?_, ?_⟩
  · have hback := congrArg List.reverse
      (List.takeWhile_append_dropWhile (p := isBlank) (l := (text.dropWhile isBlank).reverse))
    rw [List.reverse_append, List.reverse_reverse] at hback
    rw [trimBlanks, List.append_assoc, hback, List.takeWhile_append_dropWhile]
  · exact fun c hc => List.mem_takeWhile_imp hc
  · exact fun c hc => List.mem_takeWhile_imp (List.mem_reverse.1 hc)

/-- Blanks around a text are trimmed away with its own. -/
theorem trimBlanks_append {before after : List Char} (hbefore : ∀ c ∈ before, isBlank c = true)
    (hafter : ∀ c ∈ after, isBlank c = true) (text : List Char) :
    trimBlanks (before ++ text ++ after) = trimBlanks text := by
  have hback : ∀ c ∈ after.reverse, isBlank c = true := fun c hc =>
    hafter c (List.mem_reverse.1 hc)
  unfold trimBlanks
  rw [List.append_assoc, List.dropWhile_append_of_pos hbefore, List.dropWhile_append]
  split
  · rename_i hempty
    rw [List.isEmpty_iff.1 hempty, List.dropWhile_eq_nil_iff.2 hafter]
  · rw [List.reverse_append, List.dropWhile_append_of_pos hback]

end Text

/-! ## The grammar -/

namespace Numeral

/-- Digits in a row, with their values. A single underscore may stand between two of them. -/
inductive Run : List Char → List Nat → Prop
  | last {c : Char} {digit : Nat} (hdigit : digitValue? c = some digit) : Run [c] [digit]
  | next {c : Char} {digit : Nat} {rest : List Char} {digits : List Nat}
      (hdigit : digitValue? c = some digit) (hrest : Run rest digits) :
      Run (c :: rest) (digit :: digits)
  | parted {c : Char} {digit : Nat} {rest : List Char} {digits : List Nat}
      (hdigit : digitValue? c = some digit) (hrest : Run rest digits) :
      Run (c :: '_' :: rest) (digit :: digits)

/-- A sign, and whether it is negative. It may be missing. -/
inductive Sign : List Char → Bool → Prop
  | none : Sign [] false
  | plus : Sign ['+'] false
  | minus : Sign ['-'] true

/-- The number of decimal digits, the first one weighing most. -/
def ofDecimals (negative : Bool) (digits : List Nat) : Int :=
  if negative then -((Nat.ofDigits 10 digits.reverse : Nat) : Int)
  else (Nat.ofDigits 10 digits.reverse : Nat)

/-- A text is a numeral of a number: a run of digits, not too many, with a sign and white space
around it. -/
inductive Spells : List Char → Int → Prop
  | intro {before sign run after : List Char} {negative : Bool} {digits : List Nat}
      (hbefore : ∀ c ∈ before, IsSpace c) (hsign : Sign sign negative) (hrun : Run run digits)
      (hlength : digits.length ≤ digitLimit) (hafter : ∀ c ∈ after, IsSpace c) :
      Spells (before ++ (sign ++ run) ++ after) (ofDecimals negative digits)

/-! ## Runs -/

section Runs

variable {c : Char} {digit : Nat} {text rest : List Char} {digits : List Nat}

/-- What stands behind a digit of a run: nothing, the rest of the run, or an underscore before the
rest. -/
def Follows (rest : List Char) (digits : List Nat) : Prop :=
  rest = [] ∧ digits = [] ∨ Run rest digits ∨ ∃ behind, rest = '_' :: behind ∧ Run behind digits

/-- A run begins with a digit. -/
theorem run_cons_iff :
    Run (c :: rest) digits ↔
      ∃ digit others, digitValue? c = some digit ∧ digits = digit :: others ∧
        Follows rest others := by
  constructor
  · intro hrun
    cases hrun with
    | last hdigit => exact ⟨_, _, hdigit, rfl, .inl ⟨rfl, rfl⟩⟩
    | next hdigit hrest => exact ⟨_, _, hdigit, rfl, .inr (.inl hrest)⟩
    | parted hdigit hrest => exact ⟨_, _, hdigit, rfl, .inr (.inr ⟨_, rfl, hrest⟩)⟩
  · rintro ⟨digit, others, hdigit, rfl, ⟨rfl, rfl⟩ | hrest | ⟨behind, rfl, hrest⟩⟩
    · exact .last hdigit
    · exact .next hdigit hrest
    · exact .parted hdigit hrest

theorem Run.ne_nil (hrun : Run text digits) : text ≠ [] := by
  cases hrun <;> simp

/-- No character of a run is white space. -/
theorem Run.isBlank (hrun : Run text digits) : ∀ c ∈ text, isBlank c = false := by
  induction hrun with
  | last hdigit => simpa using isBlank_of_digitValue? hdigit
  | next hdigit _ ih => exact List.forall_mem_cons.2 ⟨isBlank_of_digitValue? hdigit, ih⟩
  | parted hdigit _ ih =>
      exact List.forall_mem_cons.2 ⟨isBlank_of_digitValue? hdigit,
        List.forall_mem_cons.2 ⟨by decide, ih⟩⟩

/-- The digits of a run are read off, behind a digit and where none stands before. -/
theorem digitRun_eq_some_iff (text : List Char) (digits : List Nat) :
    (digitRun false text = some digits ↔ Run text digits) ∧
      (digitRun true text = some digits ↔ Follows text digits) := by
  induction text generalizing digits with
  | nil =>
      have hnone : ¬ Run [] digits := fun hrun => hrun.ne_nil rfl
      simp [digitRun, Follows, hnone, eq_comm]
  | cons c rest ih =>
      cases hdigit : digitValue? c with
      | some digit =>
          have hunderscore : c ≠ '_' := by
            rintro rfl
            have hother : digitValue? '_' = none := by decide
            rw [hother] at hdigit
            cases hdigit
          have hread (afterDigit : Bool) :
              digitRun afterDigit (c :: rest) = some digits ↔ Run (c :: rest) digits := by
            rw [digitRun, hdigit, run_cons_iff, Option.map_eq_some_iff]
            simp [(ih _).2, hdigit, eq_comm, and_comm]
          refine ⟨hread false, ?_⟩
          rw [hread true, Follows]
          simp [hunderscore]
      | none =>
          have hnone : ¬ Run (c :: rest) digits := by
            rw [run_cons_iff]
            simp [hdigit]
          rw [digitRun, hdigit, digitRun, hdigit, Follows]
          by_cases hunderscore : c = '_'
          · rw [hunderscore] at hnone
            simp [hunderscore, (ih digits).1, hnone]
          · simp [hunderscore, hnone]

end Runs

/-! ## Numerals -/

section Numerals

variable {text : List Char} {n : Int}

/-- A sign is split off, also where it is missing. -/
theorem exists_of_splitSign (text : List Char) :
    ∃ sign, Sign sign (splitSign text).1 ∧ text = sign ++ (splitSign text).2 := by
  unfold splitSign
  split
  · exact ⟨_, .minus, rfl⟩
  · exact ⟨_, .plus, rfl⟩
  · exact ⟨_, .none, rfl⟩

/-- Of a sign and a run the sign is split off. -/
theorem splitSign_append {sign run : List Char} {negative : Bool} {digits : List Nat}
    (hsign : Sign sign negative) (hrun : Run run digits) :
    splitSign (sign ++ run) = (negative, run) := by
  cases hsign with
  | plus | minus => rfl
  | none =>
      cases run with
      | nil => exact (hrun.ne_nil rfl).elim
      | cons c rest =>
          obtain ⟨digit, _, hdigit, -⟩ := run_cons_iff.1 hrun
          have hother (sign : Char) (hnone : digitValue? sign = none) : c ≠ sign := by
            rintro rfl
            rw [hdigit] at hnone
            cases hnone
          rw [List.nil_append, splitSign]
          · exact fun rest himpossible => hother '-' (by decide) (List.cons.inj himpossible).1
          · exact fun rest himpossible => hother '+' (by decide) (List.cons.inj himpossible).1

/-- The number that is read is that of decimal digits. -/
theorem ofDigits_eq (digits : List Nat) : ofDigits digits = Nat.ofDigits 10 digits.reverse := by
  rw [Nat.ofDigits_eq_foldr, List.foldr_reverse, ofDigits]
  simp only [Nat.cast_id, Nat.add_comm]

/-- A number is read off the run behind the sign of the trimmed text. -/
theorem read?_eq_some :
    read? text = some n ↔
      ∃ digits, digitRun false (splitSign (trimBlanks text)).2 = some digits ∧
        digits.length ≤ digitLimit ∧ n = ofDecimals (splitSign (trimBlanks text)).1 digits := by
  unfold read?
  rcases splitSign (trimBlanks text) with ⟨negative, run⟩
  dsimp only
  cases digitRun false run with
  | none => simp
  | some digits =>
      by_cases hlength : digits.length ≤ digitLimit
      · simp only [if_pos hlength, ofDigits_eq, ofDecimals]
        simp [hlength, eq_comm]
      · simp [hlength]

/-- A text is read as a number just where it is a numeral of this number. -/
theorem read?_eq_some_iff : read? text = some n ↔ Spells text n := by
  constructor
  · intro hread
    obtain ⟨digits, hdigits, hlength, rfl⟩ := read?_eq_some.1 hread
    obtain ⟨before, after, htext, hbefore, hafter⟩ := exists_of_trimBlanks text
    obtain ⟨sign, hsign, hcore⟩ := exists_of_splitSign (trimBlanks text)
    have hspells := Spells.intro (fun c hc => isBlank_iff_isSpace.1 (hbefore c hc)) hsign
      ((digitRun_eq_some_iff _ _).1.1 hdigits) hlength
      fun c hc => isBlank_iff_isSpace.1 (hafter c hc)
    rwa [← hcore, ← htext] at hspells
  · rintro ⟨hbefore, hsign, hrun, hlength, hafter⟩
    rename_i before sign run after negative digits
    have hcore : ∀ c ∈ sign ++ run, isBlank c = false := by
      intro c hc
      rcases List.mem_append.1 hc with hfirst | hrest
      · cases hsign with
        | none => cases hfirst
        | plus | minus =>
            rw [List.mem_singleton.1 hfirst]
            decide
      · exact hrun.isBlank c hrest
    have htrimmed : trimBlanks (before ++ (sign ++ run) ++ after) = sign ++ run := by
      rw [trimBlanks_append (fun c hc => isBlank_iff_isSpace.2 (hbefore c hc))
        fun c hc => isBlank_iff_isSpace.2 (hafter c hc), trimBlanks_of_not_isBlank hcore]
    rw [read?_eq_some, htrimmed, splitSign_append hsign hrun]
    exact ⟨digits, (digitRun_eq_some_iff _ _).1.2 hrun, hlength, rfl⟩

end Numerals

/-! ## What may be added to a numeral -/

section Additions

variable {c : Char} {text rest : List Char} {digit : Nat} {digits : List Nat} {n : Int}

/-- White space around a text does not matter. -/
theorem spells_append_iff {before after : List Char} (hbefore : ∀ c ∈ before, IsSpace c)
    (hafter : ∀ c ∈ after, IsSpace c) : Spells (before ++ text ++ after) n ↔ Spells text n := by
  rw [← read?_eq_some_iff, ← read?_eq_some_iff, read?_eq_some, read?_eq_some,
    trimBlanks_append (fun c hc => isBlank_iff_isSpace.2 (hbefore c hc))
      fun c hc => isBlank_iff_isSpace.2 (hafter c hc)]

/-- A text that begins with a digit. -/
def StartsWithDigit (text : List Char) : Prop :=
  ∃ c rest digit, text = c :: rest ∧ digitValue? c = some digit

/-- A run without a sign and with white space behind it only. -/
def Unsigned (text : List Char) (digits : List Nat) : Prop :=
  ∃ run after, text = run ++ after ∧ Run run digits ∧ ∀ c ∈ after, IsSpace c

/-- How many digits a text has. -/
def digitCount (text : List Char) : Nat :=
  text.countP fun c => (digitValue? c).isSome

theorem not_isSpace_of_digitValue? (hdigit : digitValue? c = some digit) : ¬ IsSpace c := by
  rw [← isBlank_iff_isSpace, isBlank_of_digitValue? hdigit]
  exact Bool.false_ne_true

/-- A numeral that begins with no white space begins with its sign or its run. -/
theorem spells_cons_iff (hspace : ¬ IsSpace c) :
    Spells (c :: rest) n ↔
      ∃ sign behind negative digits, c :: rest = sign ++ behind ∧ Sign sign negative ∧
        Unsigned behind digits ∧ digits.length ≤ digitLimit ∧ n = ofDecimals negative digits := by
  constructor
  · generalize htext : c :: rest = text
    rintro ⟨hbefore, hsign, hrun, hlength, hafter⟩
    rename_i before sign run after negative digits
    cases before with
    | nil => exact ⟨sign, run ++ after, negative, digits, by simp, hsign,
        ⟨run, after, rfl, hrun, hafter⟩, hlength, rfl⟩
    | cons first others =>
        cases htext
        exact (hspace (hbefore c List.mem_cons_self)).elim
  · rintro ⟨sign, _, negative, digits, htext, hsign, ⟨run, after, rfl, hrun, hafter⟩, hlength, rfl⟩
    have hspells : Spells ([] ++ (sign ++ run) ++ after) (ofDecimals negative digits) :=
      .intro nofun hsign hrun hlength hafter
    rwa [List.nil_append, List.append_assoc, ← htext] at hspells

theorem Unsigned.startsWithDigit (hunsigned : Unsigned text digits) : StartsWithDigit text := by
  obtain ⟨run, after, rfl, hrun, -⟩ := hunsigned
  cases run with
  | nil => exact (hrun.ne_nil rfl).elim
  | cons c rest =>
      obtain ⟨digit, -, hdigit, -⟩ := run_cons_iff.1 hrun
      exact ⟨c, rest ++ after, digit, rfl, hdigit⟩

/-- A numeral that begins with a digit has no sign. -/
theorem StartsWithDigit.spells_iff (hstart : StartsWithDigit text) :
    Spells text n ↔
      ∃ digits, Unsigned text digits ∧ digits.length ≤ digitLimit ∧
        n = ofDecimals false digits := by
  obtain ⟨c, rest, digit, rfl, hdigit⟩ := hstart
  rw [spells_cons_iff (not_isSpace_of_digitValue? hdigit)]
  constructor
  · rintro ⟨sign, behind, negative, digits, htext, hsign, hunsigned, hspelled⟩
    cases hsign with
    | none => exact ⟨digits, htext ▸ hunsigned, hspelled⟩
    | plus | minus =>
        cases htext
        exact absurd hdigit (by decide +revert)
  · rintro ⟨digits, hunsigned, hspelled⟩
    exact ⟨[], c :: rest, false, digits, rfl, .none, hunsigned, hspelled⟩

/-- A plus sign before a digit does not matter. -/
theorem StartsWithDigit.spells_plus_iff (hstart : StartsWithDigit text) :
    Spells ('+' :: text) n ↔ Spells text n := by
  have hspace : ¬ IsSpace '+' := by
    rw [← isBlank_iff_isSpace]
    decide
  rw [hstart.spells_iff, spells_cons_iff hspace]
  constructor
  · rintro ⟨sign, behind, negative, digits, htext, hsign, hunsigned, hspelled⟩
    cases hsign with
    | none =>
        obtain ⟨c, rest, digit, rfl, hdigit⟩ := hunsigned.startsWithDigit
        cases htext
        exact absurd hdigit (by decide +revert)
    | plus =>
        cases htext
        exact ⟨digits, hunsigned, hspelled⟩
    | minus => cases htext
  · rintro ⟨digits, hunsigned, hspelled⟩
    exact ⟨['+'], text, false, digits, rfl, .plus, hunsigned, hspelled⟩

/-- A run goes on behind a digit. -/
theorem StartsWithDigit.unsigned_cons_iff (hstart : StartsWithDigit text) :
    Unsigned (c :: text) digits ↔
      ∃ digit others, digits = digit :: others ∧ digitValue? c = some digit ∧
        Unsigned text others := by
  constructor
  · rintro ⟨run, after, htext, hrun, hafter⟩
    cases run with
    | nil => exact (hrun.ne_nil rfl).elim
    | cons first rest =>
        cases htext
        obtain ⟨digit, others, hdigit, rfl, hfollows⟩ := run_cons_iff.1 hrun
        refine ⟨digit, others, rfl, hdigit, ?_⟩
        obtain ⟨other, behind, value, htext, hother⟩ := hstart
        rcases hfollows with ⟨rfl, rfl⟩ | hrest | ⟨behind, rfl, hrest⟩
        · have hspaces : ∀ c ∈ other :: behind, IsSpace c := htext ▸ hafter
          exact (not_isSpace_of_digitValue? hother (hspaces other List.mem_cons_self)).elim
        · exact ⟨rest, after, rfl, hrest, hafter⟩
        · cases htext
          exact absurd hother (by decide +revert)
  · rintro ⟨digit, others, rfl, hdigit, run, after, rfl, hrun, hafter⟩
    exact ⟨c :: run, after, rfl, .next hdigit hrun, hafter⟩

/-- A run has as many digits as there are in the text at most. -/
theorem Unsigned.length_le (hunsigned : Unsigned text digits) :
    digits.length ≤ digitCount text := by
  obtain ⟨run, after, rfl, hrun, -⟩ := hunsigned
  rw [digitCount, List.countP_append]
  apply Nat.le_add_right_of_le
  induction hrun with
  | last hdigit => simp [hdigit]
  | next hdigit _ ih => simpa [hdigit] using ih
  | parted hdigit _ ih => simpa [hdigit, List.countP_cons] using Nat.le_add_right_of_le ih

/-- Behind zeros a run goes on as well. -/
theorem StartsWithDigit.unsigned_zeros_iff (hstart : StartsWithDigit text) {zeros : List Char}
    (hzeros : ∀ c ∈ zeros, digitValue? c = some 0) :
    StartsWithDigit (zeros ++ text) ∧ ∀ digits, Unsigned (zeros ++ text) digits ↔
      ∃ others, digits = List.replicate zeros.length 0 ++ others ∧ Unsigned text others := by
  induction zeros with
  | nil => simpa using hstart
  | cons c rest ih =>
      obtain ⟨hc, hrest⟩ := List.forall_mem_cons.1 hzeros
      obtain ⟨hbehind, hruns⟩ := ih hrest
      refine ⟨⟨c, rest ++ text, 0, rfl, hc⟩, fun digits => ?_⟩
      rw [List.cons_append, hbehind.unsigned_cons_iff]
      simp only [hc, hruns, Option.some.injEq, List.length_cons, List.replicate_succ,
        List.cons_append]
      grind

/-- Zeros before a digit do not matter while there are not too many digits. -/
theorem StartsWithDigit.spells_zeros_iff (hstart : StartsWithDigit text) {zeros : List Char}
    (hzeros : ∀ c ∈ zeros, digitValue? c = some 0)
    (hfits : zeros.length + digitCount text ≤ digitLimit) :
    Spells (zeros ++ text) n ↔ Spells text n := by
  obtain ⟨hbehind, hruns⟩ := hstart.unsigned_zeros_iff hzeros
  have hvalue (digits : List Nat) :
      ofDecimals false (List.replicate zeros.length 0 ++ digits) = ofDecimals false digits := by
    simp [ofDecimals, Nat.ofDigits_append_replicate_zero]
  rw [hbehind.spells_iff, hstart.spells_iff]
  constructor
  · rintro ⟨digits, hunsigned, hlength, rfl⟩
    obtain ⟨others, rfl, hothers⟩ := (hruns digits).1 hunsigned
    rw [List.length_append] at hlength
    exact ⟨others, hothers, by omega, hvalue others⟩
  · rintro ⟨digits, hunsigned, -, rfl⟩
    have hcount := hunsigned.length_le
    refine ⟨_, (hruns _).2 ⟨digits, rfl, hunsigned⟩, ?_, (hvalue digits).symm⟩
    rw [List.length_append, List.length_replicate]
    omega

end Additions

end Numeral

end VolumePlugin
