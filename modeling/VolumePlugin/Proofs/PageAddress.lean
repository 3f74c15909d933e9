/-
# Addresses of pages

The page of an address is found again where the address is a base with a query whose first field
is the page. The base may be any address of the secure scheme that is free of question marks,
number signs, brackets and characters that hide delimiters; what follows the page in the query
makes no difference.
-/
import Mathlib.Data.List.TakeDrop
import VolumePlugin.PageLinks
import VolumePlugin.Proofs.Decimal

namespace VolumePlugin

open Text

/-! ## Plain text in forms -/

/-- ASCII octets are read as the characters that they are. -/
theorem Text.Utf8.decode_ascii {text : List Char} (hascii : ∀ c ∈ text, c.toNat < 0x80) :
    Utf8.decode (text.map Char.toUInt8) = text := by
  unfold Utf8.decode
  induction text with
  | nil => rfl
  | cons c rest ih =>
      have hc : c.toNat < 0x80 := hascii c List.mem_cons_self
      have hoctet : c.toUInt8.toNat = c.toNat := by
        unfold Char.toUInt8
        rw [UInt32.toNat_toUInt8]
        apply Nat.mod_eq_of_lt
        show c.toNat < 2 ^ 8
        omega
      have hstart : Utf8.start c.toUInt8.toNat = ([c], none) := by
        unfold Utf8.start
        rw [hoctet, if_pos hc, Char.ofNat_toNat]
      rw [List.map_cons, Utf8.decodeFrom, hstart]
      show [c] ++ Utf8.decodeFrom none (rest.map Char.toUInt8) = c :: rest
      rw [ih fun other hother => hascii other (List.mem_cons_of_mem c hother)]
      rfl

namespace Url

/-- A character that a form writes as it is. -/
def IsPlain (c : Char) : Prop :=
  c.toNat < 0x80 ∧ c ≠ '%' ∧ c ≠ '+'

theorem percentDecodeFrom_of_isPlain {text : List Char} (hplain : ∀ c ∈ text, IsPlain c)
    (stretch : List UInt8) :
    percentDecodeFrom stretch text = Utf8.decode (stretch.reverse ++ text.map Char.toUInt8) := by
  induction text generalizing stretch with
  | nil => simp [percentDecodeFrom]
  | cons c rest ih =>
      obtain ⟨hascii, hpercent, -⟩ := hplain c List.mem_cons_self
      have hrest := ih fun other hother => hplain other (List.mem_cons_of_mem c hother)
      have hstep : percentDecodeFrom stretch (c :: rest) =
          percentDecodeFrom (c.toUInt8 :: stretch) rest := by
        rw [percentDecodeFrom, if_pos hascii]
        intro high low others hequal _
        exact hpercent hequal
      rw [hstep, hrest, List.reverse_cons, List.map_cons, List.append_assoc]
      rfl

/-- Plain text is written into forms as it is. -/
theorem formDecode_of_isPlain {text : List Char} (hplain : ∀ c ∈ text, IsPlain c) :
    formDecode text = text := by
  have hplus : (text.map fun c => if c = '+' then ' ' else c) = text := by
    have hsame : (text.map fun c => if c = '+' then ' ' else c) = text.map id := by
      apply List.map_congr_left
      intro c hc
      rw [if_neg (hplain c hc).2.2, id]
    rw [hsame, List.map_id]
  unfold formDecode
  rw [hplus, percentDecodeFrom_of_isPlain hplain]
  exact Utf8.decode_ascii fun c hc => (hplain c hc).1

theorem isPlain_of_isDigit {c : Char} (hdigit : c.isDigit = true) : IsPlain c := by
  obtain ⟨hleast, hlast⟩ := bounds_of_isDigit hdigit
  apply And.intro (by omega)
  apply And.intro
  · rintro rfl
    exact absurd hdigit (by decide)
  · rintro rfl
    exact absurd hdigit (by decide)

/-- The first piece of a text ends at the first separator. -/
theorem splitAt_append {separator : Char} {front : List Char} (hfront : separator ∉ front)
    (back : List Char) :
    splitAt separator (front ++ separator :: back) = front :: splitAt separator back := by
  induction front with
  | nil => simp [splitAt]
  | cons c rest ih =>
      rw [List.mem_cons, not_or] at hfront
      rw [List.cons_append, splitAt, if_neg (Ne.symm hfront.1), ih hfront.2]

/-- The page of a query is the value of its first field. -/
theorem field?_page {value : List Char} (hvalue : ∀ c ∈ value, c.isDigit = true)
    (hnonempty : value ≠ []) (rest : List Char) :
    field? ("page=".toList ++ value ++ '&' :: rest) "page".toList = some value := by
  have hfront : '&' ∉ "page=".toList ++ value := by
    intro hmember
    rcases List.mem_append.1 hmember with hname | hdigit
    · exact absurd hname (by decide)
    · exact absurd (hvalue '&' hdigit) (by decide)
  have hspan : ("page=".toList ++ value).span (· ≠ '=') = ("page".toList, '=' :: value) := rfl
  have hname : formDecode "page".toList = "page".toList := by decide
  unfold field? formFields
  rw [splitAt_append hfront, List.filterMap_cons]
  simp only [hspan, List.drop_one, List.tail_cons, if_neg hnonempty, hname,
    formDecode_of_isPlain fun c hc => isPlain_of_isDigit (hvalue c hc)]
  rfl

/-! ## Queries of plain addresses -/

/-- What is taken up to a character that ends it ends there at the latest. -/
theorem takeWhile_append_stop {p : Char → Bool} {stop : Char} (hstop : p stop = false)
    (front back : List Char) : (front ++ stop :: back).takeWhile p = front.takeWhile p := by
  induction front with
  | nil => simp [hstop]
  | cons c rest ih => simp only [List.cons_append, List.takeWhile_cons, ih]

/-- What is dropped up to a character that ends it ends there at the latest. -/
theorem dropWhile_append_stop {p : Char → Bool} {stop : Char} (hstop : p stop = false)
    (front back : List Char) :
    (front ++ stop :: back).dropWhile p = front.dropWhile p ++ stop :: back := by
  induction front with
  | nil => simp [hstop]
  | cons c rest ih =>
      rw [List.cons_append, List.dropWhile_cons, List.dropWhile_cons]
      by_cases hc : p c = true
      · rw [if_pos hc, if_pos hc, ih]
      · rw [if_neg hc, if_neg hc, List.cons_append]

/-- A character that does not end or spoil an address. -/
def IsOrdinary (c : Char) : Prop :=
  c ≠ '?' ∧ c ≠ '#' ∧ c ≠ '[' ∧ c ≠ ']' ∧ hiddenDelimiters.contains c.toNat = false

instance (c : Char) : Decidable (IsOrdinary c) :=
  inferInstanceAs (Decidable (_ ∧ _))

/-- An authority of ordinary characters has no fault. -/
theorem authorityFault?_of_isOrdinary {authority : List Char}
    (hordinary : ∀ c ∈ authority, IsOrdinary c) : authorityFault? authority = none := by
  have hopen : authority.contains '[' = false := by
    rw [List.contains_eq_mem, decide_eq_false_iff_not]
    intro hmember
    exact (hordinary '[' hmember).2.2.1 rfl
  have hclosed : authority.contains ']' = false := by
    rw [List.contains_eq_mem, decide_eq_false_iff_not]
    intro hmember
    exact (hordinary ']' hmember).2.2.2.1 rfl
  have hbrackets : bracketFault? authority = none := by
    unfold bracketFault?
    rw [hopen, hclosed]
    rfl
  have hhidden : (authority.any fun c => hiddenDelimiters.contains c.toNat) = false := by
    rw [List.any_eq_false]
    intro c hc
    rw [(hordinary c hc).2.2.2.2]
    exact Bool.false_ne_true
  unfold authorityFault?
  rw [hbrackets, hhidden]
  rfl

/-- Behind ordinary characters the query starts at the question mark. -/
theorem queryPart_of_isOrdinary {front : List Char} (hordinary : ∀ c ∈ front, IsOrdinary c)
    (back : List Char) : queryPart (front ++ '?' :: back) = back.takeWhile (· ≠ '#') := by
  have hnumber : ∀ c ∈ front, decide (c ≠ '#') = true := fun c hc =>
    decide_eq_true (hordinary c hc).2.1
  have hquestion : ∀ c ∈ front, decide (c ≠ '?') = true := fun c hc =>
    decide_eq_true (hordinary c hc).1
  unfold queryPart
  rw [List.takeWhile_append_of_pos hnumber, List.takeWhile_cons_of_pos (by decide),
    List.dropWhile_append_of_pos hquestion, List.dropWhile_cons_of_neg (by decide)]
  rfl

/-- The query of an address of the secure scheme with nothing but ordinary characters in front of
the query. -/
theorem query_of_isOrdinary {front : List Char} (hordinary : ∀ c ∈ front, IsOrdinary c)
    (back : List Char) :
    query ("https://".toList ++ front ++ '?' :: back) =
      .ok ((back.filter fun c => !isTabOrLineEnd c).takeWhile (· ≠ '#')) := by
  have hcleaned : (("https://".toList ++ front ++ '?' :: back).dropWhile isControlOrSpace).filter
      (fun c => !isTabOrLineEnd c) =
        "https://".toList ++ ((front.filter fun c => !isTabOrLineEnd c) ++
          '?' :: back.filter fun c => !isTabOrLineEnd c) := by
    have hstart : ("https://".toList ++ front ++ '?' :: back).dropWhile isControlOrSpace =
        "https://".toList ++ front ++ '?' :: back := rfl
    rw [hstart, List.filter_append, List.filter_append, List.append_assoc]
    rfl
  have hkept : ∀ c ∈ front.filter fun c => !isTabOrLineEnd c, IsOrdinary c := fun c hc =>
    hordinary c (List.mem_filter.1 hc).1
  have hscheme (rest : List Char) :
      afterScheme ("https://".toList ++ rest) = '/' :: '/' :: rest := rfl
  unfold query
  rw [hcleaned]
  simp only [hscheme, splitAuthority, List.span_eq_takeWhile_dropWhile]
  rw [takeWhile_append_stop (p := fun c => !endsAuthority c) (by decide),
    dropWhile_append_stop (p := fun c => !endsAuthority c) (by decide)]
  rw [authorityFault?_of_isOrdinary, queryPart_of_isOrdinary]
  · intro c hc
    exact hkept c (List.dropWhile_sublist _ |>.subset hc)
  · intro c hc
    exact hkept c (List.takeWhile_sublist _ |>.subset hc)

/-- A character that a query keeps. -/
def IsKept (c : Char) : Prop :=
  isTabOrLineEnd c = false ∧ c ≠ '#'

instance (c : Char) : Decidable (IsKept c) :=
  inferInstanceAs (Decidable (_ ∧ _))

theorem isKept_of_isDigit {c : Char} (hdigit : c.isDigit = true) : IsKept c := by
  have hother (other : Char) (hno : other.isDigit = false) : c ≠ other := by
    rintro rfl
    rw [hdigit] at hno
    cases hno
  apply And.intro _ (hother '#' (by decide))
  unfold isTabOrLineEnd
  simp only [Bool.or_eq_false_iff, decide_eq_false_iff_not]
  exact ⟨⟨hother '\t' (by decide), hother '\r' (by decide)⟩, hother '\n' (by decide)⟩

/-- A query keeps what stands in front of anything that it may drop. -/
theorem takeWhile_filter_of_isKept {front : List Char} (hkept : ∀ c ∈ front, IsKept c)
    (back : List Char) :
    ((front ++ back).filter fun c => !isTabOrLineEnd c).takeWhile (· ≠ '#') =
      front ++ (back.filter fun c => !isTabOrLineEnd c).takeWhile (· ≠ '#') := by
  have hall : (front.filter fun c => !isTabOrLineEnd c) = front := by
    rw [List.filter_eq_self]
    intro c hc
    rw [(hkept c hc).1]
    rfl
  rw [List.filter_append, hall, List.takeWhile_append_of_pos]
  intro c hc
  exact decide_eq_true (hkept c hc).2

end Url

/-! ## Links to pages -/

/-- The address of a page of so many entries behind a base. -/
def pageAddress (base : String) (page : Nat) (perPage : String) : String :=
  String.join [base, "?page=", Numeral.text page, "&per_page=", perPage]

/-- A base of the secure scheme with ordinary characters behind it. -/
def IsBase (base : String) : Prop :=
  ∃ rest, base.toList = "https://".toList ++ rest ∧ ∀ c ∈ rest, Url.IsOrdinary c

/-- The address of a page names the page. -/
theorem pageOfUrl_pageAddress {base : String} (hbase : IsBase base) {page : Nat}
    (hfits : (Numeral.digits page).length ≤ Numeral.digitLimit) (perPage : String) :
    PageLinks.pageOfUrl (pageAddress base page perPage) = .ok (page : Int) := by
  obtain ⟨front, hfront, hordinary⟩ := hbase
  have hdigits : ∀ c ∈ Numeral.digits page, c.isDigit = true := fun c hc =>
    Numeral.isDigit_of_mem_digits hc
  have haddress : (pageAddress base page perPage).toList = "https://".toList ++ front ++
      '?' :: (("page=".toList ++ Numeral.digits page ++ ['&']) ++
        ("per_page=".toList ++ perPage.toList)) := by
    unfold pageAddress
    simp only [String.join, List.foldl_cons, List.foldl_nil, String.toList_append, hfront,
      Numeral.toList_text]
    simp
  have hfield : ("page=".toList.all fun c => decide (Url.IsKept c)) = true := by decide
  have hkept : ∀ c ∈ "page=".toList ++ Numeral.digits page ++ ['&'], Url.IsKept c := by
    intro c hc
    rcases List.mem_append.1 hc with hfront | hseparator
    · rcases List.mem_append.1 hfront with hname | hvalue
      · exact of_decide_eq_true (List.all_eq_true.1 hfield c hname)
      · exact Url.isKept_of_isDigit (hdigits c hvalue)
    · rw [List.mem_singleton.1 hseparator]
      decide
  have hpage (rest : List Char) :
      PageLinks.pageInQuery? (("page=".toList ++ Numeral.digits page ++ ['&']) ++ rest) =
        some (page : Int) := by
    unfold PageLinks.pageInQuery?
    rw [List.append_assoc, List.singleton_append, Url.field?_page hdigits Nat.toDigits_ne_nil,
      Option.bind_some, Numeral.read?_digits hfits]
  unfold PageLinks.pageOfUrl
  rw [haddress, Url.query_of_isOrdinary hordinary, Url.takeWhile_filter_of_isKept hkept]
  dsimp only
  rw [hpage]

end VolumePlugin
