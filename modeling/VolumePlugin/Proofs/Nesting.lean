/-
# Depth of texts

Reading a value never looks behind a suffix of the text, and a container is read only behind its
opening bracket. So the brackets of a text bound the depth that is come to: what has no more of them
than containers may be nested is never nested too deeply, whatever else it holds.
-/
import VolumePlugin.Value.Json

namespace VolumePlugin.Json

variable {text left : List Char} {value : Value} {room fuel : Nat} {container : Container}

/-- A bracket that opens a container. -/
def isOpening (c : Char) : Bool :=
  c = '[' || c = '\x7b'

/-- How many containers a text opens. -/
def openings (text : List Char) : Nat :=
  text.countP isOpening

theorem openings_le (hsuffix : left <:+ text) : openings left ≤ openings text :=
  hsuffix.sublist.countP_le

/-! ## What is left behind words, numbers and texts -/

theorem skipBlanks_suffix (text : List Char) : skipBlanks text <:+ text :=
  List.dropWhile_suffix _

theorem readWord_suffix (hread : readWord text = some (value, left)) : left <:+ text := by
  obtain ⟨⟨word, _⟩, -, hword⟩ := List.exists_of_findSome?_eq_some hread
  dsimp only at hword
  split at hword
  · cases hword
    exact List.drop_suffix _ _
  · cases hword

theorem digitSpan_suffix (text : List Char) : (digitSpan text).2 <:+ text := by
  induction text with
  | nil => exact List.suffix_rfl
  | cons c rest ih =>
      rw [digitSpan]
      split
      · exact List.suffix_rfl
      · exact ih.trans (List.suffix_cons c rest)

theorem wholeDigits_suffix (text : List Char) : (wholeDigits text).2 <:+ text := by
  unfold wholeDigits
  split
  · exact List.suffix_cons _ _
  · exact digitSpan_suffix _

theorem fractionDigits_suffix (text : List Char) : (fractionDigits text).2 <:+ text := by
  unfold fractionDigits
  split
  · split
    · exact List.suffix_rfl
    · exact (digitSpan_suffix _).trans (List.suffix_cons _ _)
  · exact List.suffix_rfl

theorem splitSign_suffix (text : List Char) : (Numeral.splitSign text).2 <:+ text := by
  unfold Numeral.splitSign
  split
  · exact List.suffix_cons _ _
  · exact List.suffix_cons _ _
  · exact List.suffix_rfl

theorem exponent?_suffix (text : List Char) : (exponent? text).2 <:+ text := by
  unfold exponent?
  split
  · rename_i letter rest
    split
    · have hdigits := ((digitSpan_suffix (Numeral.splitSign rest).2).trans
        (splitSign_suffix rest)).trans (List.suffix_cons letter rest)
      dsimp only
      split
      · exact List.suffix_rfl
      · rename_i digits left hspan
        rwa [hspan] at hdigits
    · exact List.suffix_rfl
  · exact List.suffix_rfl

/-- A number ends where its exponent does. -/
theorem readNumber_suffix (hread : readNumber text = some (value, left)) : left <:+ text := by
  have hbehind (rest : List Char) :
      (exponent? (fractionDigits (wholeDigits rest).2).2).2 <:+ rest :=
    ((exponent?_suffix _).trans (fractionDigits_suffix _)).trans (wholeDigits_suffix rest)
  obtain ⟨rest, hrest, hleft⟩ : ∃ rest, rest <:+ text ∧
      left = (exponent? (fractionDigits (wholeDigits rest).2).2).2 := by
    unfold readNumber at hread
    split at hread
    rename_i hsign
    split at hsign
    · cases hsign
      refine ⟨_, List.suffix_cons _ _, ?_⟩
      grind
    · cases hsign
      refine ⟨_, List.suffix_rfl, ?_⟩
      grind
  rw [hleft]
  exact (hbehind rest).trans hrest

theorem readPieces_suffix {pieces : List Piece} (hread : readPieces text = some (pieces, left)) :
    left <:+ text := by
  fun_induction readPieces text generalizing pieces left with
  | case1 => cases hread
  | case2 rest =>
      cases hread
      exact List.suffix_cons _ _
  | case3 a b c d rest code found behind hrest hcode ih =>
      cases hread
      exact (ih hrest).trans ⟨['\\', 'u', a, b, c, d], rfl⟩
  | case5 c rest plain found behind hother hrest hplain ih =>
      cases hread
      exact (ih hrest).trans ⟨['\\', c], rfl⟩
  | case4 | case6 | case7 => cases hread
  | case8 c rest hquote hunit hescape hcontrol ih =>
      obtain ⟨⟨found, behind⟩, hrest, hsame⟩ := Option.map_eq_some_iff.1 hread
      cases hsame
      exact (ih hrest).trans (List.suffix_cons c rest)

theorem readText_suffix {s : String} (hread : readText text = some (s, left)) : left <:+ text := by
  obtain ⟨⟨pieces, rest⟩, hpieces, hsame⟩ := Option.map_eq_some_iff.1 hread
  cases hsame
  exact readPieces_suffix hpieces

/-! ## What is left behind values -/

section Readings

variable {α β : Type}

theorem orMalformed_eq_ok_iff {found : Option (α × List Char)} {reading : α × List Char} :
    orMalformed found = .ok reading ↔ found = some reading := by
  cases found <;> simp [orMalformed]

theorem orMalformed_ne_tooDeep (found : Option (α × List Char)) (container : Container) :
    orMalformed found ≠ .error (.tooDeep container) := by
  cases found <;> simp [orMalformed]

theorem map_eq_ok_iff {f : α → β} {reading : Except Fault α} {b : β} :
    reading.map f = .ok b ↔ ∃ a, reading = .ok a ∧ f a = b := by
  cases reading <;> simp [Except.map]

theorem map_eq_error_iff {f : α → β} {reading : Except Fault α} {fault : Fault} :
    reading.map f = .error fault ↔ reading = .error fault := by
  cases reading <;> simp [Except.map]

end Readings

/-- What stands behind a character behind blanks. -/
theorem suffix_of_skipBlanks {c : Char} {rest : List Char} (hblanks : skipBlanks text = c :: rest) :
    rest <:+ text := by
  have hsuffix := skipBlanks_suffix text
  rw [hblanks] at hsuffix
  exact (List.suffix_cons c rest).trans hsuffix

/-- With so much fuel, values, items and members leave suffixes of their texts. -/
structure LeavesSuffix (fuel : Nat) : Prop where
  value : ∀ {room text value left}, readValue room fuel text = .ok (value, left) → left <:+ text
  items : ∀ {room text items left}, readItems room fuel text = .ok (items, left) → left <:+ text
  members : ∀ {room text members left}, readMembers room fuel text = .ok (members, left) →
    left <:+ text

theorem LeavesSuffix.value_succ (hleaves : LeavesSuffix fuel)
    (hread : readValue room (fuel + 1) text = .ok (value, left)) : left <:+ text := by
  rw [readValue] at hread
  split at hread
  · rename_i rest hquote
    obtain ⟨⟨s, behind⟩, htext, hsame⟩ := Option.map_eq_some_iff.1 (orMalformed_eq_ok_iff.1 hread)
    cases hsame
    exact (readText_suffix htext).trans (suffix_of_skipBlanks hquote)
  · rename_i rest hbracket
    cases room with
    | zero => cases hread
    | succ room =>
        refine List.IsSuffix.trans ?_ (suffix_of_skipBlanks hbracket)
        dsimp only at hread
        split at hread
        · rename_i behind hclosed
          cases hread
          exact suffix_of_skipBlanks hclosed
        · obtain ⟨⟨items, behind⟩, hitems, hsame⟩ := map_eq_ok_iff.1 hread
          cases hsame
          exact hleaves.items hitems
  · rename_i rest hbrace
    cases room with
    | zero => cases hread
    | succ room =>
        refine List.IsSuffix.trans ?_ (suffix_of_skipBlanks hbrace)
        dsimp only at hread
        split at hread
        · rename_i behind hclosed
          cases hread
          exact suffix_of_skipBlanks hclosed
        · obtain ⟨⟨members, behind⟩, hmembers, hsame⟩ := map_eq_ok_iff.1 hread
          cases hsame
          exact hleaves.members hmembers
  · refine List.IsSuffix.trans ?_ (skipBlanks_suffix text)
    rcases Option.or_eq_some_iff.1 (orMalformed_eq_ok_iff.1 hread) with hword | ⟨-, hnumber⟩
    · exact readWord_suffix hword
    · exact readNumber_suffix hnumber

theorem LeavesSuffix.items_succ (hleaves : LeavesSuffix fuel) {items : List Value}
    (hread : readItems room (fuel + 1) text = .ok (items, left)) : left <:+ text := by
  rw [readItems] at hread
  split at hread
  · cases hread
  · rename_i item rest hitem
    refine List.IsSuffix.trans ?_ (hleaves.value hitem)
    split at hread
    · rename_i behind hclosed
      cases hread
      exact suffix_of_skipBlanks hclosed
    · rename_i behind hcomma
      obtain ⟨⟨others, after⟩, hothers, hsame⟩ := map_eq_ok_iff.1 hread
      cases hsame
      exact (hleaves.items hothers).trans (suffix_of_skipBlanks hcomma)
    · cases hread

theorem LeavesSuffix.members_succ (hleaves : LeavesSuffix fuel) {members : List (String × Value)}
    (hread : readMembers room (fuel + 1) text = .ok (members, left)) : left <:+ text := by
  rw [readMembers] at hread
  split at hread
  · rename_i rest hquote
    refine List.IsSuffix.trans ?_ (suffix_of_skipBlanks hquote)
    split at hread
    · cases hread
    · rename_i name behind hname
      refine List.IsSuffix.trans ?_ (readText_suffix hname)
      split at hread
      · rename_i given hcolon
        refine List.IsSuffix.trans ?_ (suffix_of_skipBlanks hcolon)
        split at hread
        · cases hread
        · rename_i found after hvalue
          refine List.IsSuffix.trans ?_ (hleaves.value hvalue)
          split at hread
          · rename_i closed hclosed
            cases hread
            exact suffix_of_skipBlanks hclosed
          · rename_i next hcomma
            obtain ⟨⟨others, last⟩, hothers, hsame⟩ := map_eq_ok_iff.1 hread
            cases hsame
            exact (hleaves.members hothers).trans (suffix_of_skipBlanks hcomma)
          · cases hread
      · cases hread
  · cases hread

theorem leavesSuffix (fuel : Nat) : LeavesSuffix fuel := by
  induction fuel with
  | zero =>
      refine ⟨?_, ?_, ?_⟩
      · intro room text value left hread
        rw [readValue] at hread
        cases hread
      · intro room text items left hread
        rw [readItems] at hread
        cases hread
      · intro room text members left hread
        rw [readMembers] at hread
        cases hread
  | succ fuel ih => exact ⟨ih.value_succ, ih.items_succ, ih.members_succ⟩

/-! ## How deep it goes -/

/-- With so much fuel, a reading that finds too little room has come to more openings. -/
structure BoundsDepth (fuel : Nat) : Prop where
  value : ∀ {room text container}, readValue room fuel text = .error (.tooDeep container) →
    room < openings text
  items : ∀ {room text container}, readItems room fuel text = .error (.tooDeep container) →
    room < openings text
  members : ∀ {room text container}, readMembers room fuel text = .error (.tooDeep container) →
    room < openings text

/-- A container is opened in front of what it holds. -/
theorem openings_succ_le {c : Char} {rest : List Char} (hblanks : skipBlanks text = c :: rest)
    (hopening : isOpening c = true) : openings rest + 1 ≤ openings text := by
  have hfront := openings_le (skipBlanks_suffix text)
  rwa [hblanks, openings, List.countP_cons_of_pos hopening] at hfront

theorem BoundsDepth.value_succ (hbounds : BoundsDepth fuel)
    (hread : readValue room (fuel + 1) text = .error (.tooDeep container)) :
    room < openings text := by
  rw [readValue] at hread
  split at hread
  · exact (orMalformed_ne_tooDeep _ _ hread).elim
  · rename_i rest hbracket
    have hopened := openings_succ_le hbracket rfl
    cases room with
    | zero => omega
    | succ room =>
        dsimp only at hread
        split at hread
        · cases hread
        · have hinside := hbounds.items (map_eq_error_iff.1 hread)
          omega
  · rename_i rest hbrace
    have hopened := openings_succ_le hbrace rfl
    cases room with
    | zero => omega
    | succ room =>
        dsimp only at hread
        split at hread
        · cases hread
        · have hinside := hbounds.members (map_eq_error_iff.1 hread)
          omega
  · exact (orMalformed_ne_tooDeep _ _ hread).elim

theorem BoundsDepth.items_succ (hbounds : BoundsDepth fuel)
    (hread : readItems room (fuel + 1) text = .error (.tooDeep container)) :
    room < openings text := by
  rw [readItems] at hread
  split at hread
  · rename_i fault hitem
    cases hread
    exact hbounds.value hitem
  · rename_i item rest hitem
    split at hread
    · cases hread
    · rename_i behind hcomma
      have hrest := (suffix_of_skipBlanks hcomma).trans ((leavesSuffix fuel).value hitem)
      exact Nat.lt_of_lt_of_le (hbounds.items (map_eq_error_iff.1 hread)) (openings_le hrest)
    · cases hread

theorem BoundsDepth.members_succ (hbounds : BoundsDepth fuel)
    (hread : readMembers room (fuel + 1) text = .error (.tooDeep container)) :
    room < openings text := by
  rw [readMembers] at hread
  split at hread
  · rename_i rest hquote
    split at hread
    · cases hread
    · rename_i name behind hname
      have hnamed := (readText_suffix hname).trans (suffix_of_skipBlanks hquote)
      split at hread
      · rename_i given hcolon
        have hgiven := (suffix_of_skipBlanks hcolon).trans hnamed
        split at hread
        · rename_i fault hvalue
          cases hread
          exact Nat.lt_of_lt_of_le (hbounds.value hvalue) (openings_le hgiven)
        · rename_i found after hvalue
          split at hread
          · cases hread
          · rename_i next hcomma
            have hrest := ((suffix_of_skipBlanks hcomma).trans
              ((leavesSuffix fuel).value hvalue)).trans hgiven
            have hinside := hbounds.members (map_eq_error_iff.1 hread)
            exact Nat.lt_of_lt_of_le hinside (openings_le hrest)
          · cases hread
      · cases hread
  · cases hread

theorem boundsDepth (fuel : Nat) : BoundsDepth fuel := by
  induction fuel with
  | zero =>
      refine ⟨?_, ?_, ?_⟩
      · intro room text container hread
        rw [readValue] at hread
        cases hread
      · intro room text container hread
        rw [readItems] at hread
        cases hread
      · intro room text container hread
        rw [readMembers] at hread
        cases hread
  | succ fuel ih => exact ⟨ih.value_succ, ih.items_succ, ih.members_succ⟩

/-- A text that is nested too deeply opens more containers than may be nested. -/
theorem openings_of_tooDeep {body : String} (hdeep : read body = .error (.tooDeep container)) :
    nestingLimit < openings body.toList := by
  unfold read at hdeep
  dsimp only at hdeep
  split at hdeep
  · split at hdeep <;> cases hdeep
  · rename_i fault hread
    cases hdeep
    exact (boundsDepth _).value hread

end VolumePlugin.Json
