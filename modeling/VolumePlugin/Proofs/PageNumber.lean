/-
# Numbers of pages

A token names a page by its number in the ten digits of ASCII. Which page this is, is told here by
the weights of the digits. The numbers of pages are written and read back so, zeros in front of a
number change nothing, and a number from one on is the number of a droplet as well where the same
text stands for a node: the two readers disagree just on the texts that spell zero.
-/
import VolumePlugin.Proofs.NodeId

namespace VolumePlugin

open Text

/-! ## Texts of digits -/

namespace Numeral

variable {text : List Char}

/-- The number that a text of digits spells, the last digit weighing one. -/
def valueOf (text : List Char) : Nat :=
  Nat.ofDigits 10 (text.reverse.map valueOfDigit)

theorem ofDigits_map_valueOfDigit (text : List Char) :
    ofDigits (text.map valueOfDigit) = valueOf text := by
  rw [ofDigits_eq, valueOf, List.map_reverse]

/-- Zeros in front weigh nothing. -/
theorem valueOf_zeros (count : Nat) (text : List Char) :
    valueOf (List.replicate count '0' ++ text) = valueOf text := by
  have hzero : valueOfDigit '0' = 0 := rfl
  rw [valueOf, List.reverse_append, List.reverse_replicate, List.map_append, List.map_replicate,
    hzero, Nat.ofDigits_append_replicate_zero, valueOf]

/-- Digits of ASCII are a run. -/
theorem run_of_isDigit (hdigits : ∀ c ∈ text, c.isDigit = true) (htext : text ≠ []) :
    Run text (text.map valueOfDigit) := by
  induction text with
  | nil => exact (htext rfl).elim
  | cons c rest ih =>
      obtain ⟨hc, hrest⟩ := List.forall_mem_cons.1 hdigits
      cases rest with
      | nil => exact .last (digitValue?_of_isDigit hc)
      | cons other behind =>
          exact .next (digitValue?_of_isDigit hc) (ih hrest (List.cons_ne_nil other behind))

/-- A text of digits that is not too long is a numeral of the number that it spells. -/
theorem spells_of_isDigit (hdigits : ∀ c ∈ text, c.isDigit = true) (htext : text ≠ [])
    (hlength : text.length ≤ digitLimit) : Spells text (valueOf text) := by
  have hspells : Spells ([] ++ ([] ++ text) ++ []) (ofDecimals false (text.map valueOfDigit)) :=
    .intro nofun .none (run_of_isDigit hdigits htext) (by rwa [List.length_map]) nofun
  rwa [List.nil_append, List.nil_append, List.append_nil, ofDecimals, ← List.map_reverse]
    at hspells

end Numeral

/-! ## The two readers -/

/-- A token of digits that are not too many names the page of their number, and from the first one
on. -/
theorem pageOfToken_eq_valueOf {token : String} (hdigits : ∀ c ∈ token.toList, c.isDigit = true)
    (hlength : token.length ≤ Numeral.digitLimit) :
    pageOfToken (.text token) = .ok (max (Numeral.valueOf token.toList : Int) 1) := by
  rw [pageOfToken_of_isDigit hdigits, if_pos hlength, Numeral.ofDigits_map_valueOfDigit]
  rfl

/-- The same digits are the id of a node where they do not spell zero. -/
theorem dropletOfNode_eq_valueOf {token : String} (hdigits : ∀ c ∈ token.toList, c.isDigit = true)
    (hlength : token.length ≤ Numeral.digitLimit) :
    dropletOfNode (.text token) =
      if 1 ≤ Numeral.valueOf token.toList then .ok (Numeral.valueOf token.toList : Int)
      else .error (.invalidNodeId (.text token)) := by
  by_cases hempty : token.toList = []
  · have htoken : token = "" := String.toList_eq_nil_iff.1 hempty
    rw [htoken]
    rfl
  · rw [← String.length_toList] at hlength
    have hspells := Numeral.spells_of_isDigit hdigits hempty hlength
    split
    · rename_i hpositive
      exact dropletOfNode_text_eq_ok_iff.2 ⟨by omega, hspells⟩
    · apply dropletOfNode_text_eq_error
      intro droplet hpositive hother
      rw [← Numeral.read?_eq_some_iff] at hspells hother
      rw [hspells, Option.some.injEq] at hother
      omega

/-- Which page a token names. The empty token names the first page, a token of digits the page of
their number or else the first one, and every token with another character none. The numeral of a
page that is not too long names the page, and zeros in front do not matter while the token does not
become too long. A token of digits names a node as well just where its number is not zero, and then
by the same number. -/
theorem page_named_by_token (token : String) :
    pageOfToken (.text "") = .ok 1 ∧
    ((∀ c ∈ token.toList, c.isDigit = true) → token.length ≤ Numeral.digitLimit →
      pageOfToken (.text token) = .ok (max (Numeral.valueOf token.toList : Int) 1)) ∧
    ((∃ c ∈ token.toList, c.isDigit = false) →
      pageOfToken (.text token) = .error (.invalidListingToken (.text token))) ∧
    (∀ page : Nat, 1 ≤ page → (Numeral.digits page).length ≤ Numeral.digitLimit →
      pageOfToken (.text (Numeral.text page)) = .ok (page : Int)) ∧
    (∀ count, count + token.length ≤ Numeral.digitLimit → ∀ page,
      (pageOfToken (.text (String.ofList (List.replicate count '0') ++ token)) = .ok page ↔
        pageOfToken (.text token) = .ok page)) ∧
    ((∀ c ∈ token.toList, c.isDigit = true) → token.length ≤ Numeral.digitLimit →
      (1 ≤ Numeral.valueOf token.toList →
        pageOfToken (.text token) = .ok (Numeral.valueOf token.toList : Int) ∧
          dropletOfNode (.text token) = .ok (Numeral.valueOf token.toList : Int)) ∧
      (dropletOfNode (.text token) = pageOfToken (.text token) ↔
        1 ≤ Numeral.valueOf token.toList)) := by
  refine ⟨rfl, pageOfToken_eq_valueOf, ?_, fun page => pageOfToken_text, ?_, ?_⟩
  · rintro ⟨c, hc, hother⟩
    apply pageOfToken_of_not_isDigit
    intro hdigits
    rw [hdigits c hc] at hother
    cases hother
  · intro count hfits page
    have hfront : (String.ofList (List.replicate count '0') ++ token).toList =
        List.replicate count '0' ++ token.toList := by
      rw [String.toList_append, String.toList_ofList]
    by_cases hdigits : ∀ c ∈ token.toList, c.isDigit = true
    · have hall : ∀ c ∈ List.replicate count '0' ++ token.toList, c.isDigit = true := by
        intro c hc
        rcases List.mem_append.1 hc with hzero | hrest
        · rw [List.eq_of_mem_replicate hzero]
          rfl
        · exact hdigits c hrest
      have hlength : (String.ofList (List.replicate count '0') ++ token).length ≤
          Numeral.digitLimit := by
        rwa [String.length_append, String.length_ofList, List.length_replicate]
      rw [pageOfToken_eq_valueOf (hfront ▸ hall) hlength, hfront, Numeral.valueOf_zeros,
        pageOfToken_eq_valueOf hdigits (by omega)]
    · have hother : ¬ ∀ c ∈ (String.ofList (List.replicate count '0') ++ token).toList,
          c.isDigit = true := by
        rw [hfront]
        exact fun hall => hdigits fun c hc => hall c (List.mem_append_right _ hc)
      simp [pageOfToken_of_not_isDigit hother, pageOfToken_of_not_isDigit hdigits]
  · intro hdigits hlength
    rw [pageOfToken_eq_valueOf hdigits hlength, dropletOfNode_eq_valueOf hdigits hlength]
    constructor
    · intro hpositive
      rw [if_pos hpositive, Int.max_eq_left (by omega)]
      exact ⟨rfl, rfl⟩
    · constructor
      · intro hsame
        by_contra hzero
        rw [if_neg hzero] at hsame
        cases hsame
      · intro hpositive
        rw [if_pos hpositive, Int.max_eq_left (by omega)]

/-- The token of seven names the seventh page, also behind zeros, and the seventh droplet; the token
of zero names a page only, and one with a sign no page. -/
theorem seventh_page_named :
    pageOfToken (.text "7") = .ok 7 ∧ dropletOfNode (.text "7") = .ok 7 ∧
      pageOfToken (.text (String.ofList (List.replicate 2 '0') ++ "7")) = .ok 7 ∧
      (pageOfToken (.text "0") = .ok 1 ∧ dropletOfNode (.text "0") ≠ pageOfToken (.text "0")) ∧
      pageOfToken (.text "+7") = .error (.invalidListingToken (.text "+7")) := by
  have hseven : ∀ c ∈ "7".toList, c.isDigit = true := List.all_eq_true.1 (by decide)
  have hzero : ∀ c ∈ "0".toList, c.isDigit = true := List.all_eq_true.1 (by decide)
  obtain ⟨-, -, -, hnumeral, hzeros, hsame⟩ := page_named_by_token "7"
  obtain ⟨-, hfirst, -, -, -, hdiffer⟩ := page_named_by_token "0"
  obtain ⟨-, -, hsign, -⟩ := page_named_by_token "+7"
  have hpage : pageOfToken (.text "7") = .ok 7 := hnumeral 7 (by decide) (by decide)
  refine ⟨hpage, ((hsame hseven (by decide)).1 (by decide)).2, (hzeros 2 (by decide) 7).2 hpage,
    ⟨hfirst hzero (by decide), ?_⟩, hsign ⟨'+', by decide, by decide⟩⟩
  intro himpossible
  exact absurd ((hdiffer hzero (by decide)).2.1 himpossible) (by decide)

end VolumePlugin
