/-
# Numerals read back

A natural number that is written as its numeral and is not too long is read back as itself,
wherever numbers are read: as a number of any script and as the digits of a token. Smaller
numbers are no longer to write than greater ones.
-/
import Mathlib.Algebra.Group.Nat.Defs
import VolumePlugin.Call.Validation

namespace VolumePlugin

open Text

/-! ## Characters that are digits -/

namespace Text

/-- The value of an ASCII digit. -/
def valueOfDigit (c : Char) : Nat :=
  c.toNat - '0'.toNat

theorem bounds_of_isDigit {c : Char} (hdigit : c.isDigit = true) :
    48 ≤ c.toNat ∧ c.toNat ≤ 57 := by
  rw [Char.isDigit_iff_toNat] at hdigit
  exact hdigit

theorem valueOfDigit_lt {c : Char} (hdigit : c.isDigit = true) : valueOfDigit c < 10 := by
  obtain ⟨hleast, hlast⟩ := bounds_of_isDigit hdigit
  have hzero : '0'.toNat = 48 := rfl
  unfold valueOfDigit
  omega

theorem digitValue?_of_isDigit {c : Char} (hdigit : c.isDigit = true) :
    digitValue? c = some (valueOfDigit c) := by
  obtain ⟨hleast, hlast⟩ := bounds_of_isDigit hdigit
  have hzero : digitZeros.find? (fun base => base ≤ c.toNat && c.toNat < base + 10) = some 48 := by
    unfold digitZeros
    rw [List.find?_cons_of_pos]
    simp only [Bool.and_eq_true, decide_eq_true_eq]
    omega
  unfold digitValue?
  rw [hzero]
  rfl

theorem asciiDigit?_of_isDigit {c : Char} (hdigit : c.isDigit = true) :
    asciiDigit? c = some (valueOfDigit c) := by
  obtain ⟨hleast, hlast⟩ := bounds_of_isDigit hdigit
  unfold asciiDigit?
  rw [if_pos]
  · rfl
  · exact ⟨hleast, hlast⟩

theorem asciiDigit?_of_not_isDigit {c : Char} (hother : ¬ c.isDigit = true) :
    asciiDigit? c = none := by
  rw [Char.isDigit_iff_toNat] at hother
  unfold asciiDigit?
  rw [if_neg]
  exact hother

/-- The digits are the ten characters from a zero on. -/
theorem digitValue?_eq_some {c : Char} {digit : Nat} (hdigit : digitValue? c = some digit) :
    digit < 10 ∧ ∃ base ∈ digitZeros, c.toNat = base + digit := by
  obtain ⟨base, hfound, rfl⟩ := Option.map_eq_some_iff.1 hdigit
  have hrange := List.find?_some hfound
  simp only [Bool.and_eq_true, decide_eq_true_eq] at hrange
  exact ⟨by omega, base, List.mem_of_find?_eq_some hfound, by omega⟩

/-- No digit is white space. -/
theorem isBlank_of_digitValue? {c : Char} {digit : Nat} (hdigit : digitValue? c = some digit) :
    isBlank c = false := by
  have htable : ∀ base ∈ digitZeros, ∀ digit < 10, blanks.holds (base + digit) = false := by
    decide +kernel
  obtain ⟨hten, base, hbase, hcode⟩ := digitValue?_eq_some hdigit
  rw [isBlank, hcode]
  exact htable base hbase digit hten

theorem isBlank_of_isDigit {c : Char} (hdigit : c.isDigit = true) : isBlank c = false :=
  isBlank_of_digitValue? (digitValue?_of_isDigit hdigit)

/-- A text without blanks has none to trim. -/
theorem trimBlanks_of_not_isBlank {text : List Char} (hblank : ∀ c ∈ text, isBlank c = false) :
    trimBlanks text = text := by
  have hfront (kept : List Char) (hkept : ∀ c ∈ kept, isBlank c = false) :
      kept.dropWhile isBlank = kept := by
    cases kept with
    | nil => rfl
    | cons c rest =>
        apply List.dropWhile_cons_of_neg
        rw [hkept c List.mem_cons_self]
        exact Bool.false_ne_true
  unfold trimBlanks
  rw [hfront text hblank, hfront text.reverse, List.reverse_reverse]
  intro c hc
  exact hblank c (List.mem_reverse.1 hc)

end Text

namespace Numeral

/-! ## Texts of digits -/

/-- Behind a digit, digits are a run. -/
theorem digitRun_of_isDigit {text : List Char} (hdigits : ∀ c ∈ text, c.isDigit = true) :
    digitRun true text = some (text.map valueOfDigit) := by
  induction text with
  | nil => rfl
  | cons c rest ih =>
      unfold digitRun
      rw [digitValue?_of_isDigit (hdigits c List.mem_cons_self)]
      rw [ih fun other hother => hdigits other (List.mem_cons_of_mem c hother)]
      rfl

theorem asciiDigits?_of_isDigit {text : List Char} (hdigits : ∀ c ∈ text, c.isDigit = true) :
    asciiDigits? text = some (text.map valueOfDigit) := by
  unfold asciiDigits?
  induction text with
  | nil => rfl
  | cons c rest ih =>
      rw [List.mapM_cons, asciiDigit?_of_isDigit (hdigits c List.mem_cons_self)]
      rw [ih fun other hother => hdigits other (List.mem_cons_of_mem c hother)]
      rfl

/-- A number is below the power of ten that has one more digit than spell it. -/
theorem ofDigits_lt {values : List Nat} (hvalues : ∀ value ∈ values, value < 10) :
    ofDigits values < 10 ^ values.length := by
  -- The digits that were read before weigh as much as the power that the rest has.
  have hbehind (start : Nat) :
      values.foldl (fun value digit => 10 * value + digit) start <
        (start + 1) * 10 ^ values.length := by
    induction values generalizing start with
    | nil => simp
    | cons value rest ih =>
        obtain ⟨hvalue, hrest⟩ := List.forall_mem_cons.1 hvalues
        rw [List.foldl_cons, List.length_cons, Nat.pow_succ]
        calc
          rest.foldl (fun value digit => 10 * value + digit) (10 * start + value)
              < (10 * start + value + 1) * 10 ^ rest.length := ih hrest _
          _ ≤ ((start + 1) * 10) * 10 ^ rest.length :=
              Nat.mul_le_mul_right _ (by omega)
          _ = (start + 1) * (10 ^ rest.length * 10) := by
              rw [Nat.mul_assoc, Nat.mul_comm 10]
  have hall := hbehind 0
  rwa [Nat.zero_add, Nat.one_mul] at hall

/-- A number is no longer to write than a text that spells it, which has to be one. -/
theorem length_digits_ofDigits_le {text : List Char} (hdigits : ∀ c ∈ text, c.isDigit = true)
    (htext : text ≠ []) :
    (digits (ofDigits (text.map valueOfDigit))).length ≤ text.length := by
  have hvalues : ∀ value ∈ text.map valueOfDigit, value < 10 := by
    intro value hvalue
    obtain ⟨c, hc, rfl⟩ := List.mem_map.1 hvalue
    exact valueOfDigit_lt (hdigits c hc)
  have hbelow := ofDigits_lt hvalues
  rw [List.length_map] at hbelow
  exact (Nat.length_toDigits_le_iff (by decide) (List.length_pos_iff.2 htext)).2 hbelow

/-- A text in which anything else stands has no digits. -/
theorem asciiDigits?_of_not_isDigit {text : List Char}
    (hother : ¬ ∀ c ∈ text, c.isDigit = true) : asciiDigits? text = none := by
  unfold asciiDigits?
  induction text with
  | nil => exact (hother (by simp)).elim
  | cons c rest ih =>
      rw [List.mapM_cons]
      by_cases hdigit : c.isDigit = true
      · have hrest : ¬ ∀ other ∈ rest, other.isDigit = true := by
          intro hrest
          exact hother (List.forall_mem_cons.2 ⟨hdigit, hrest⟩)
        rw [ih hrest, asciiDigit?_of_isDigit hdigit]
        rfl
      · rw [asciiDigit?_of_not_isDigit hdigit]
        rfl

/-! ## Numerals -/

theorem isDigit_of_mem_digits {n : Nat} {c : Char} (hc : c ∈ digits n) : c.isDigit = true :=
  Nat.isDigit_of_mem_toDigits (by decide) (by decide) hc

/-- The digits of a number spell it. -/
theorem ofDigits_digits (n : Nat) : ofDigits ((digits n).map valueOfDigit) = n := by
  have hspelled := Nat.ofDigitChars_ten_toDigits (n := n)
  rw [Nat.ofDigitChars_eq_foldl] at hspelled
  unfold ofDigits digits
  rw [List.foldl_map]
  exact hspelled

/-- The digits of a number are a run. -/
theorem digitRun_digits (n : Nat) :
    digitRun false (digits n) = some ((digits n).map valueOfDigit) := by
  have hdigits : ∀ c ∈ digits n, c.isDigit = true := fun c hc => isDigit_of_mem_digits hc
  have htrue := digitRun_of_isDigit hdigits
  obtain ⟨first, rest, hsplit⟩ :=
    List.exists_cons_of_ne_nil (Nat.toDigits_ne_nil (n := n) (b := 10))
  have hfirst : first.isDigit = true :=
    hdigits first (by rw [digits, hsplit]; exact List.mem_cons_self)
  rw [digits, hsplit] at htrue ⊢
  unfold digitRun at htrue ⊢
  rw [digitValue?_of_isDigit hfirst] at htrue ⊢
  exact htrue

/-- The digits of a number have no sign. -/
theorem splitSign_digits (n : Nat) : splitSign (digits n) = (false, digits n) := by
  have hsign (c : Char) (rest : List Char) (hdigit : c.isDigit = true) :
      splitSign (c :: rest) = (false, c :: rest) := by
    unfold splitSign
    split
    · rename_i hminus
      cases hminus
      exact absurd hdigit (by decide)
    · rename_i hplus
      cases hplus
      exact absurd hdigit (by decide)
    · rfl
  obtain ⟨first, rest, hsplit⟩ :=
    List.exists_cons_of_ne_nil (Nat.toDigits_ne_nil (n := n) (b := 10))
  have hfirst : first.isDigit = true :=
    isDigit_of_mem_digits (n := n) (by rw [digits, hsplit]; exact List.mem_cons_self)
  rw [digits, hsplit]
  exact hsign first rest hfirst

/-- The digits of a number are read as the number. -/
theorem read?_digits {n : Nat} (hfits : (digits n).length ≤ digitLimit) :
    read? (digits n) = some (n : Int) := by
  have hblank : ∀ c ∈ digits n, isBlank c = false :=
    fun c hc => isBlank_of_isDigit (isDigit_of_mem_digits hc)
  unfold read?
  rw [trimBlanks_of_not_isBlank hblank, splitSign_digits]
  simp only [digitRun_digits, List.length_map, if_pos hfits, Bool.false_eq_true, if_false,
    ofDigits_digits]

/-- Behind a minus sign they are read as the opposite number. -/
theorem read?_minus_digits {n : Nat} (hfits : (digits n).length ≤ digitLimit) :
    read? ('-' :: digits n) = some (-(n : Int)) := by
  have hblank : ∀ c ∈ '-' :: digits n, isBlank c = false := by
    intro c hc
    rcases List.mem_cons.1 hc with rfl | hdigit
    · decide
    · exact isBlank_of_isDigit (isDigit_of_mem_digits hdigit)
  have hsign : splitSign ('-' :: digits n) = (true, digits n) := rfl
  unfold read?
  rw [trimBlanks_of_not_isBlank hblank, hsign]
  simp only [digitRun_digits, List.length_map, if_pos hfits, if_true, ofDigits_digits]

/-- A smaller number is no longer to write. -/
theorem length_digits_mono {m n : Nat} (hle : m ≤ n) :
    (digits m).length ≤ (digits n).length := by
  have hpositive : 0 < (digits n).length := Nat.length_toDigits_pos
  have hn : n < 10 ^ (digits n).length :=
    (Nat.length_toDigits_le_iff (by decide) hpositive).1 (Nat.le_refl _)
  exact (Nat.length_toDigits_le_iff (by decide) hpositive).2 (Nat.lt_of_le_of_lt hle hn)

/-- The numeral of a natural number is its digits. -/
theorem toList_text (n : Nat) : (text n).toList = digits n := by
  unfold text
  rw [if_neg (by omega), String.toList_ofList, Int.natAbs_natCast]

/-- The numeral of a negative number is a minus sign and the digits of its size. -/
theorem toList_text_of_neg {n : Int} (hneg : n < 0) : (text n).toList = '-' :: digits n.natAbs := by
  unfold text
  rw [if_pos hneg, String.toList_ofList]

theorem fits_natCast (n : Nat) : fits n = true ↔ (digits n).length ≤ digitLimit := by
  unfold fits
  rw [Int.natAbs_natCast, decide_eq_true_eq]

/-- A number can be written where it is less than the first one with too many digits. -/
theorem fits_iff {n : Int} : fits n = true ↔ n.natAbs < 10 ^ digitLimit := by
  unfold fits
  rw [decide_eq_true_eq]
  exact Nat.length_toDigits_le_iff (by decide) (by decide)

/-- The first number with too many digits. -/
def tooLong : Int := (10 ^ digitLimit : Nat)

theorem not_fits_tooLong : ¬ fits tooLong = true := by
  rw [fits_iff, tooLong, Int.natAbs_natCast]
  exact Nat.lt_irrefl _

theorem one_lt_tooLong : 1 < tooLong := by
  have hpower : 1 < 10 ^ digitLimit := Nat.one_lt_pow (by decide) (by decide)
  exact Int.ofNat_lt.2 hpower

/-- The numeral of a number is read as the number. -/
theorem read?_text {n : Int} (hfits : fits n = true) : read? (text n).toList = some n := by
  rcases Int.lt_or_le n 0 with hneg | hpos
  · rw [toList_text_of_neg hneg, read?_minus_digits (by simpa [fits] using hfits)]
    congr 1
    omega
  · obtain ⟨m, rfl⟩ := Int.eq_ofNat_of_zero_le hpos
    rw [toList_text, read?_digits ((fits_natCast m).1 hfits)]

end Numeral

/-! ## Tokens -/

/-- A token names what its text names, also where it is empty. -/
theorem pageOfToken_eq_text (token : String) :
    pageOfToken (.text token) = pageOfTokenText token := by
  by_cases hempty : token = ""
  · rw [hempty]
    rfl
  · have htruthy : (Value.text token).truthy = true := by
      simp [Value.truthy, hempty]
    rw [pageOfToken, if_pos htruthy]

/-- A token of digits names the page of the number that they spell, or the first one where they
spell zero, unless there are too many of them. -/
theorem pageOfToken_of_isDigit {token : String}
    (hdigits : ∀ c ∈ token.toList, c.isDigit = true) :
    pageOfToken (.text token) =
      if token.length ≤ Numeral.digitLimit then
        .ok (max (Numeral.ofDigits (token.toList.map valueOfDigit) : Int) firstPage)
      else .error (.longNumeral (.read token.length)) := by
  rw [pageOfToken_eq_text, pageOfTokenText, Numeral.asciiDigits?_of_isDigit hdigits]
  simp only [List.length_map, String.length_toList]

/-- A token in which anything else stands is no page number. -/
theorem pageOfToken_of_not_isDigit {token : String}
    (hother : ¬ ∀ c ∈ token.toList, c.isDigit = true) :
    pageOfToken (.text token) = .error (.invalidListingToken (.text token)) := by
  rw [pageOfToken_eq_text, pageOfTokenText, Numeral.asciiDigits?_of_not_isDigit hother]

/-- A page that a token names is short enough to be written. -/
theorem fits_of_pageOfToken {token : String} {page : Int}
    (htoken : pageOfToken (.text token) = .ok page) : Numeral.fits page = true := by
  by_cases hdigits : ∀ c ∈ token.toList, c.isDigit = true
  · rw [pageOfToken_of_isDigit hdigits] at htoken
    split at htoken
    · rename_i hlength
      cases htoken
      generalize hspelled : Numeral.ofDigits (token.toList.map valueOfDigit) = n
      rcases Nat.eq_zero_or_pos n with rfl | hpos
      · decide
      · have hpage : max (n : Int) firstPage = n := Int.max_eq_left (Int.toNat_le.1 hpos)
        have htext : token.toList ≠ [] := by
          intro hnone
          rw [hnone] at hspelled
          exact Nat.ne_of_gt hpos hspelled.symm
        have hdigits := Numeral.length_digits_ofDigits_le hdigits htext
        rw [hspelled, String.length_toList] at hdigits
        rw [hpage, Numeral.fits_natCast]
        exact Nat.le_trans hdigits hlength
    · cases htoken
  · rw [pageOfToken_of_not_isDigit hdigits] at htoken
    cases htoken

/-- The numeral of a number names a page unless the number is negative: the page of this number, or
the first one where the number is zero. -/
theorem pageOfToken_numeral {n : Int} (hfits : Numeral.fits n = true) :
    pageOfToken (.text (Numeral.text n)) =
      if n < 0 then .error (.invalidListingToken (.text (Numeral.text n)))
      else .ok (max n firstPage) := by
  rcases Int.lt_or_le n 0 with hneg | hpos
  · have hminus : ¬ ∀ c ∈ (Numeral.text n).toList, c.isDigit = true := by
      rw [Numeral.toList_text_of_neg hneg]
      simp
    rw [pageOfToken_of_not_isDigit hminus, if_pos hneg]
  · obtain ⟨m, rfl⟩ := Int.eq_ofNat_of_zero_le hpos
    have hdigits : ∀ c ∈ (Numeral.text m).toList, c.isDigit = true := by
      rw [Numeral.toList_text]
      exact fun c hc => Numeral.isDigit_of_mem_digits hc
    rw [pageOfToken_of_isDigit hdigits, ← String.length_toList, Numeral.toList_text,
      if_pos ((Numeral.fits_natCast m).1 hfits), Numeral.ofDigits_digits, if_neg (by omega)]

/-- The numeral of a page names the page. -/
theorem pageOfToken_text {page : Nat} (hpage : 1 ≤ page)
    (hfits : (Numeral.digits page).length ≤ Numeral.digitLimit) :
    pageOfToken (.text (Numeral.text page)) = .ok (page : Int) := by
  have hmax : max (page : Int) firstPage = page := by
    unfold firstPage
    omega
  rw [pageOfToken_numeral ((Numeral.fits_natCast page).2 hfits), if_neg (by omega), hmax]

end VolumePlugin
