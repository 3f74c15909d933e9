/-
# Fields in the queries of links

The links of a listing carry their page among other fields of the query, in any order, and the names
of some of these look like that of the page. Such a link is given here by its parts, and its page is
told from the list of its fields: it is the number that the first field of the very name has. What
stands in front of the field or behind it does not matter, and neither does a fragment, whatever it
holds.

That the fields are found again rests on the characters of the parts, none of which a URL or a form
has a use of its own for.
-/
import VolumePlugin.Proofs.LetterCase
import VolumePlugin.Proofs.LinkAuthority
import VolumePlugin.Proofs.PageNumber

namespace VolumePlugin

open Text

/-! ## Characters of links -/

namespace Url

/-- A character of a host or a path. -/
def IsPlaceChar (c : Char) : Prop :=
  c.isAlphanum = true ∨ c ∈ ['.', '-', '/']

/-- A character of the name or the value of a field. -/
def IsWordChar (c : Char) : Prop :=
  c.isAlphanum = true ∨ c ∈ ['.', '-', '_']

instance (c : Char) : Decidable (IsPlaceChar c) :=
  inferInstanceAs (Decidable (_ ∨ _))

instance (c : Char) : Decidable (IsWordChar c) :=
  inferInstanceAs (Decidable (_ ∨ _))

instance (c : Char) : Decidable (IsPlain c) :=
  inferInstanceAs (Decidable (_ ∧ _))

/-- A host with a path. -/
def IsPlace (text : String) : Prop :=
  ∀ c ∈ text.toList, IsPlaceChar c

/-- The name or the value of a field. -/
def IsWord (text : String) : Prop :=
  text ≠ "" ∧ ∀ c ∈ text.toList, IsWordChar c

instance (text : String) : Decidable (IsPlace text) :=
  decidable_of_iff (text.toList.all (IsPlaceChar ·) = true) (by simp [IsPlace])

instance (text : String) : Decidable (IsWord text) :=
  decidable_of_iff (text ≠ "" ∧ text.toList.all (IsWordChar ·) = true) (by simp [IsWord])

section Characters

variable {c : Char}

theorem toNat_lt_of_isAlphanum (halphanum : c.isAlphanum = true) : c.toNat < 128 := by
  change ((decide (65 ≤ c.val ∧ c.val ≤ 90) || decide (97 ≤ c.val) && decide (c.val ≤ 122)) ||
    decide (48 ≤ c.val) && decide (c.val ≤ 57)) = true at halphanum
  simp only [Bool.or_eq_true, Bool.and_eq_true, decide_eq_true_eq, UInt32.le_iff_toNat_le]
    at halphanum
  change ((65 ≤ c.toNat ∧ c.toNat ≤ 90) ∨ 97 ≤ c.toNat ∧ c.toNat ≤ 122) ∨
    48 ≤ c.toNat ∧ c.toNat ≤ 57 at halphanum
  omega

theorem toNat_lt_of_mem {marks : List Char} (hmarks : marks.all (·.toNat < 128) = true)
    (hc : c ∈ marks) : c.toNat < 128 :=
  of_decide_eq_true (List.all_eq_true.1 hmarks c hc)

theorem IsPlaceChar.toNat_lt (hplace : IsPlaceChar c) : c.toNat < 128 :=
  hplace.elim toNat_lt_of_isAlphanum (toNat_lt_of_mem (by decide))

theorem IsWordChar.toNat_lt (hword : IsWordChar c) : c.toNat < 128 :=
  hword.elim toNat_lt_of_isAlphanum (toNat_lt_of_mem (by decide))

theorem IsPlaceChar.isOrdinary (hplace : IsPlaceChar c) : IsOrdinary c :=
  @of_ascii (fun c => IsPlaceChar c → IsOrdinary c) (by decide +kernel) c hplace.toNat_lt hplace

theorem IsWordChar.isPlain (hword : IsWordChar c) : IsPlain c :=
  @of_ascii (fun c => IsWordChar c → IsPlain c) (by decide +kernel) c hword.toNat_lt hword

theorem IsWordChar.isKept (hword : IsWordChar c) : IsKept c :=
  @of_ascii (fun c => IsWordChar c → IsKept c) (by decide +kernel) c hword.toNat_lt hword

end Characters

/-! ## Fields of a query -/

/-- A field as it is written. -/
def written (field : String × String) : String :=
  field.1 ++ "=" ++ field.2

/-- A query of fields. -/
def joined (fields : List (String × String)) : String :=
  "&".intercalate (fields.map written)

/-- Both parts of a field are words. -/
def AreWords (field : String × String) : Prop :=
  IsWord field.1 ∧ IsWord field.2

instance (field : String × String) : Decidable (AreWords field) :=
  inferInstanceAs (Decidable (_ ∧ _))

section Fields

variable {separator : Char} {field : String × String} {fields : List (String × String)}

/-- A text without the separator is a piece as a whole. -/
theorem splitAt_of_notMem {piece : List Char} (hnone : separator ∉ piece) :
    splitAt separator piece = [piece] := by
  induction piece with
  | nil => rfl
  | cons c rest ih =>
      rw [List.mem_cons, not_or] at hnone
      rw [splitAt, if_neg (Ne.symm hnone.1), ih hnone.2]

/-- Pieces that were joined by the separator are found again. No pieces are found as an empty
one. -/
theorem splitAt_intercalate {pieces : List (List Char)}
    (hnone : ∀ piece ∈ pieces, separator ∉ piece) (hpieces : pieces ≠ []) :
    splitAt separator ([separator].intercalate pieces) = pieces := by
  induction pieces with
  | nil => exact (hpieces rfl).elim
  | cons piece rest ih =>
      obtain ⟨hpiece, hrest⟩ := List.forall_mem_cons.1 hnone
      cases rest with
      | nil => rw [List.intercalate_singleton, splitAt_of_notMem hpiece]
      | cons other behind =>
          rw [List.intercalate_cons_cons, List.append_assoc, List.singleton_append,
            splitAt_append hpiece, ih hrest (List.cons_ne_nil other behind)]

theorem toList_written (field : String × String) :
    (written field).toList = field.1.toList ++ '=' :: field.2.toList := by
  simp [written]

theorem toList_joined (fields : List (String × String)) :
    (joined fields).toList =
      ['&'].intercalate (fields.map fun field => (written field).toList) := by
  rw [joined, String.toList_intercalate, List.map_map]
  rfl

theorem IsWord.notMem {text : String} {c : Char} (hword : IsWord text) (hother : ¬ IsWordChar c) :
    c ∉ text.toList :=
  fun hc => hother (hword.2 c hc)

theorem IsWord.formDecode {text : String} (hword : IsWord text) :
    formDecode text.toList = text.toList :=
  formDecode_of_isPlain fun c hc => (hword.2 c hc).isPlain

/-- The characters of a field are those of its words and the sign between them. -/
theorem mem_written_iff {c : Char} :
    c ∈ (written field).toList ↔ c ∈ field.1.toList ∨ c = '=' ∨ c ∈ field.2.toList := by
  rw [toList_written, List.mem_append, List.mem_cons]

/-- A field is parted by its first equals sign, as its name has none. -/
theorem span_written (hwords : AreWords field) :
    (written field).toList.span (· ≠ '=') = (field.1.toList, '=' :: field.2.toList) :=
  span_eq_iff.2 ⟨toList_written field, hwords.1.notMem (by decide), .inr rfl⟩

/-- The fields of a query are found again, with the same names and values. -/
theorem formFields_joined (hwords : ∀ field ∈ fields, AreWords field) :
    formFields (joined fields).toList =
      fields.map fun field => (field.1.toList, field.2.toList) := by
  cases fields with
  | nil => rfl
  | cons first rest =>
      have hnone : ∀ piece ∈ (first :: rest).map fun field => (written field).toList,
          '&' ∉ piece := by
        intro piece hpiece
        obtain ⟨field, hfield, rfl⟩ := List.mem_map.1 hpiece
        obtain ⟨hname, hvalue⟩ := hwords field hfield
        rw [mem_written_iff]
        rintro (himpossible | himpossible | himpossible)
        · exact hname.notMem (by decide) himpossible
        · cases himpossible
        · exact hvalue.notMem (by decide) himpossible
      unfold formFields
      rw [toList_joined, splitAt_intercalate hnone (by simp), List.filterMap_map,
        ← List.filterMap_eq_map]
      refine List.filterMap_congr fun field hfield => ?_
      obtain ⟨hname, hvalue⟩ := hwords field hfield
      have hgiven : field.2.toList ≠ [] := fun hempty =>
        hvalue.1 (String.toList_eq_nil_iff.1 hempty)
      simp only [Function.comp_apply, span_written (hwords field hfield), List.drop_one,
        List.tail_cons, if_neg hgiven, hname.formDecode, hvalue.formDecode]

/-- Fields may be looked up by the characters of their names. -/
theorem lookup_map_toList (fields : List (String × String)) (name : String) :
    (fields.map fun field => (field.1.toList, field.2.toList)).lookup name.toList =
      (fields.lookup name).map String.toList := by
  induction fields with
  | nil => rfl
  | cons field rest ih =>
      obtain ⟨other, value⟩ := field
      have hsame : (name.toList == other.toList) = (name == other) := by
        simp only [beq_eq_decide, String.toList_inj]
      rw [List.map_cons, List.lookup_cons, List.lookup_cons, hsame, ih]
      cases name == other <;> rfl

/-- Joined pieces hold the characters of the pieces and of what joins them. -/
theorem mem_intercalate {joint : List Char} {pieces : List (List Char)} {c : Char}
    (hc : c ∈ joint.intercalate pieces) : c ∈ joint ∨ ∃ piece ∈ pieces, c ∈ piece := by
  induction pieces with
  | nil => cases hc
  | cons piece rest ih =>
      cases rest with
      | nil => exact .inr ⟨piece, List.mem_singleton_self piece, by simpa using hc⟩
      | cons other behind =>
          rw [List.intercalate_cons_cons, List.append_assoc, List.mem_append, List.mem_append] at hc
          rcases hc with hpiece | hjoint | hrest
          · exact .inr ⟨piece, List.mem_cons_self, hpiece⟩
          · exact .inl hjoint
          · refine (ih hrest).imp_right ?_
            rintro ⟨found, hfound, hmember⟩
            exact ⟨found, List.mem_cons_of_mem piece hfound, hmember⟩

/-- A URL keeps a query of words as it is. -/
theorem isKept_of_mem_joined (hwords : ∀ field ∈ fields, AreWords field) {c : Char}
    (hc : c ∈ (joined fields).toList) : IsKept c := by
  rw [toList_joined] at hc
  rcases mem_intercalate hc with hjoint | ⟨piece, hpiece, hmember⟩
  · rw [List.mem_singleton.1 hjoint]
    decide
  · obtain ⟨field, hfield, rfl⟩ := List.mem_map.1 hpiece
    obtain ⟨hname, hvalue⟩ := hwords field hfield
    rcases mem_written_iff.1 hmember with hc | rfl | hc
    · exact (hname.2 c hc).isKept
    · decide
    · exact (hvalue.2 c hc).isKept

end Fields

end Url

/-! ## Plain links -/

/-- A link by its parts: a host with a path, the fields of the query, and perhaps a fragment, which
may be any text. -/
structure PlainLink where
  place : String
  fields : List (String × String)
  fragment : Option String := none
  isPlace : Url.IsPlace place
  areWords : ∀ field ∈ fields, Url.AreWords field

namespace PlainLink

open Numeral PageLinks

/-- The name of the field that holds the page. -/
def pageField : String := "page"

/-- How a fragment is written. -/
def marked : Option String → String
  | none => ""
  | some fragment => "#" ++ fragment

variable (link : PlainLink)

/-- The URL of a link. -/
def url : String :=
  "https://" ++ link.place ++ "?" ++ Url.joined link.fields ++ marked link.fragment

/-- A value stands in the first field of pages. -/
def Shows (value : String) : Prop :=
  ∃ front back, link.fields = front ++ (pageField, value) :: back ∧
    ∀ field ∈ front, field.1 ≠ pageField

/-- A link names a page by the numeral in its first field of pages. -/
def Names (page : Int) : Prop :=
  ∃ value, link.Shows value ∧ Spells value.toList page

/-- All fields of pages hold numerals. -/
def IsNumbered : Prop :=
  ∀ value, (pageField, value) ∈ link.fields → ∃ page, Spells value.toList page

/-- The query of a link is that of its fields. -/
theorem query_url : Url.query link.url.toList = .ok (Url.joined link.fields).toList := by
  have hparts : link.url.toList = "https://".toList ++ link.place.toList ++
      '?' :: ((Url.joined link.fields).toList ++ (marked link.fragment).toList) := by
    simp [url]
  have hends : (((marked link.fragment).toList.filter fun c => !Url.isTabOrLineEnd c).takeWhile
      (· ≠ '#')) = [] := by
    cases link.fragment with
    | none => rfl
    | some fragment =>
        have hmarked : (marked (some fragment)).toList = '#' :: fragment.toList := by
          simp [marked]
        rw [hmarked, List.filter_cons_of_pos (by decide), List.takeWhile_cons_of_neg (by decide)]
  rw [hparts, Url.query_of_isOrdinary fun c hc => (link.isPlace c hc).isOrdinary,
    Url.takeWhile_filter_of_isKept fun c hc => Url.isKept_of_mem_joined link.areWords hc, hends,
    List.append_nil]

/-- A value is looked up by the name of its field. -/
theorem shows_iff_lookup {value : String} :
    link.Shows value ↔ link.fields.lookup pageField = some value := by
  simp only [Shows, List.lookup_eq_some_iff, bne_iff_ne, ne_comm (a := pageField)]

theorem pageInQuery?_eq_some_iff {page : Int} :
    pageInQuery? (Url.joined link.fields).toList = some page ↔ link.Names page := by
  have hfield : Url.field? (Url.joined link.fields).toList "page".toList =
      (link.fields.lookup pageField).map String.toList := by
    rw [Url.field?, Url.formFields_joined link.areWords, ← Url.lookup_map_toList]
    rfl
  simp only [pageInQuery?, hfield, Names, shows_iff_lookup, Option.bind_map,
    Option.bind_eq_some_iff, Function.comp_apply, read?_eq_some_iff]

theorem pageOfUrl_eq :
    pageOfUrl link.url =
      match pageInQuery? (Url.joined link.fields).toList with
      | some page => .ok page
      | none => .error (namelessLink link.url) := by
  unfold pageOfUrl
  rw [query_url]
  rfl

theorem pageOfUrl_eq_ok_iff {page : Int} : pageOfUrl link.url = .ok page ↔ link.Names page := by
  rw [pageOfUrl_eq, ← pageInQuery?_eq_some_iff]
  cases pageInQuery? (Url.joined link.fields).toList <;> simp

theorem pageOfUrl_eq_error_iff {failure : Failure} :
    pageOfUrl link.url = .error failure ↔
      failure = namelessLink link.url ∧ ∀ page, ¬ link.Names page := by
  simp only [pageOfUrl_eq, ← pageInQuery?_eq_some_iff]
  cases pageInQuery? (Url.joined link.fields).toList <;> simp [eq_comm]

theorem forall_not_shows_iff :
    (∀ value, ¬ link.Shows value) ↔ ∀ field ∈ link.fields, field.1 ≠ pageField := by
  simp only [shows_iff_lookup, ← Option.eq_none_iff_forall_ne_some, List.lookup_eq_none_iff,
    bne_iff_ne, ne_comm (a := pageField)]

variable {link}

theorem Shows.mem {value : String} (hshows : link.Shows value) :
    (pageField, value) ∈ link.fields := by
  obtain ⟨front, back, hfields, -⟩ := hshows
  simp [hfields]

/-- Digits in a field of pages are a numeral of the number that they spell. -/
theorem spells_of_mem {value : String} (hfield : (pageField, value) ∈ link.fields)
    (hdigits : ∀ c ∈ value.toList, c.isDigit = true) (hlength : value.length ≤ digitLimit) :
    Spells value.toList (valueOf value.toList) := by
  have hgiven : value.toList ≠ [] := fun hempty =>
    (link.areWords _ hfield).2.1 (String.toList_eq_nil_iff.1 hempty)
  rw [← String.length_toList] at hlength
  exact spells_of_isDigit hdigits hgiven hlength

theorem isNumbered_of_isDigit
    (hdigits : ∀ value, (pageField, value) ∈ link.fields →
      (∀ c ∈ value.toList, c.isDigit = true) ∧ value.length ≤ digitLimit) :
    link.IsNumbered :=
  fun value hfield => ⟨_, spells_of_mem hfield (hdigits value hfield).1 (hdigits value hfield).2⟩

/-- Where all fields of pages hold numerals, a link names no page just if it has no such field. -/
theorem IsNumbered.forall_not_names_iff (hnumbered : link.IsNumbered) :
    (∀ page, ¬ link.Names page) ↔ ∀ field ∈ link.fields, field.1 ≠ pageField := by
  rw [← forall_not_shows_iff]
  constructor
  · intro hnone value hshows
    obtain ⟨page, hspells⟩ := hnumbered value hshows.mem
    exact hnone page ⟨value, hshows, hspells⟩
  · rintro hnone page ⟨value, hshows, -⟩
    exact hnone value hshows

/-- A link has characters. -/
theorem truthy_url (link : PlainLink) : (Value.text link.url).truthy = true := by
  have hfirst : link.url.toList.head? = some 'h' := by
    simp [url]
  rw [Value.truthy, bne_iff_ne]
  intro hempty
  rw [hempty] at hfirst
  cases hfirst

/-- Which page a link names, and which page the links of a listing belong to by it. The page is the
number in the first field of pages, whatever other fields stand before it and behind it, and where
this is no numeral or there is no such field, the provider answered something else than expected.
If all fields of pages hold numerals, this is so just where there is none. A listing is behind the
page of its previous link, and where this is empty, in front of the page of its next one. -/
theorem page_of_plain_link (link : PlainLink) :
    (∀ page, pageOfUrl link.url = .ok page ↔ link.Names page) ∧
    (∀ front value back, link.fields = front ++ (pageField, value) :: back →
      (∀ field ∈ front, field.1 ≠ pageField) → (∀ c ∈ value.toList, c.isDigit = true) →
      value.length ≤ digitLimit → pageOfUrl link.url = .ok (valueOf value.toList : Int)) ∧
    (∀ failure, pageOfUrl link.url = .error failure ↔
      failure = namelessLink link.url ∧ ∀ page, ¬ link.Names page) ∧
    (link.IsNumbered →
      (pageOfUrl link.url = .error (namelessLink link.url) ↔
        ∀ field ∈ link.fields, field.1 ≠ pageField)) ∧
    ∀ links : PageLinks,
      (links.prev = .text link.url →
        ∀ page, links.currentPage = .ok page ↔ link.Names (page - 1)) ∧
      (links.prev.truthy = false → links.next = .text link.url →
        ∀ page, links.currentPage = .ok page ↔ link.Names (page + 1)) := by
  refine ⟨fun page => link.pageOfUrl_eq_ok_iff, ?_, fun failure => link.pageOfUrl_eq_error_iff,
    ?_, fun links => ⟨?_, ?_⟩⟩
  · intro front value back hfields hfront hdigits hlength
    have hshows : link.Shows value := ⟨front, back, hfields, hfront⟩
    exact link.pageOfUrl_eq_ok_iff.2 ⟨value, hshows, spells_of_mem hshows.mem hdigits hlength⟩
  · intro hnumbered
    rw [pageOfUrl_eq_error_iff, hnumbered.forall_not_names_iff]
    exact and_iff_right rfl
  · intro hprev page
    rw [← pageOfUrl_eq_ok_iff, currentPage, hprev, if_pos link.truthy_url, pageOfLink,
      shifted_eq_ok_iff]
  · intro hprev hnext page
    have hshift : links.currentPage = do return (← pageOfUrl link.url) + -1 := by
      rw [currentPage, if_neg (by simp [hprev]), hnext, if_pos link.truthy_url]
      rfl
    rw [← pageOfUrl_eq_ok_iff, hshift, shifted_eq_ok_iff, Int.sub_neg]

/-- A link with its page between other fields, one of which has a similar name and one the same, and
with another page in its fragment. -/
def crowdedLink : PlainLink where
  place := "api.example.com/v2/volumes"
  fields := [("per_page", "2"), (pageField, "03"), (pageField, "9")]
  fragment := some "page=7"
  isPlace := by decide
  areWords := by decide

/-- A link with a name that only begins like that of the page. -/
def pagelessLink : PlainLink where
  place := "api.example.com/v2/volumes"
  fields := [("page_size", "2")]
  isPlace := by decide
  areWords := by decide

/-- The crowded link names the third page, and a listing with it as the previous or the next link is
behind this or in front of it. The other link names no page. -/
theorem third_page_named :
    pageOfUrl crowdedLink.url = .ok 3 ∧
    (⟨.text "", .text crowdedLink.url, .text "", .text ""⟩ : PageLinks).currentPage = .ok 4 ∧
    (⟨.text "", .text "", .text crowdedLink.url, .text ""⟩ : PageLinks).currentPage = .ok 2 ∧
    pageOfUrl pagelessLink.url = .error (namelessLink pagelessLink.url) := by
  obtain ⟨hnamed, hfirst, -, -, hlinks⟩ := page_of_plain_link crowdedLink
  obtain ⟨-, -, -, hnameless, -⟩ := page_of_plain_link pagelessLink
  have hthird : pageOfUrl crowdedLink.url = .ok 3 :=
    hfirst [("per_page", "2")] "03" [(pageField, "9")] rfl (by decide)
      (List.all_eq_true.1 (by decide)) (by decide)
  have hnumbered : pagelessLink.IsNumbered := isNumbered_of_isDigit fun value hfield => by
    simp [pagelessLink, pageField] at hfield
  exact ⟨hthird, ((hlinks _).1 rfl 4).2 ((hnamed 3).1 hthird),
    ((hlinks _).2 rfl rfl 2).2 ((hnamed 3).1 hthird), (hnameless hnumbered).2 (by decide)⟩

end PlainLink

end VolumePlugin
