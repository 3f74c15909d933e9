/-
# Letter case in messages

A message of the provider and a fragment of one are compared in lower case. Lower casing is that
of whole Unicode texts: a character may become several, and a capital sigma looks at what stands
around it, so the lower case of a text is not put together from those of its parts.

The letters of ASCII are untouched by this. Each has one lower case of its own wherever it stands,
and its two cases look the same to a sigma beside it. So a fragment of ASCII characters is found in
any spelling and within any text, and a message that is spelled otherwise has the same class.
-/
import VolumePlugin.Proofs.Classification

namespace VolumePlugin

/-- Two texts are spelled with the same letters: they differ in the case of ASCII letters alone. -/
def SameLetters (text other : String) : Prop :=
  text.toList.map Char.toLower = other.toList.map Char.toLower

instance (text other : String) : Decidable (SameLetters text other) :=
  inferInstanceAs (Decidable (_ = _))

/-- A text is made of ASCII characters. -/
def IsAscii (text : String) : Prop :=
  ∀ c ∈ text.toList, c.toNat < 128

instance (text : String) : Decidable (IsAscii text) :=
  List.decidableBAll (fun c : Char => c.toNat < 128) text.toList

/-! ## Characters of ASCII -/

namespace Text

/-- Only a character of ASCII has another one for its ASCII lower case. -/
theorem toLower_of_not_ascii {c : Char} (hwide : ¬ c.toNat < 128) : c.toLower = c := by
  have hletter : ¬ (c.val ≥ 'A'.val ∧ c.val ≤ 'Z'.val) := by
    rintro ⟨-, hlast⟩
    have hlast : c.toNat ≤ 90 := hlast
    omega
  exact dif_neg hletter

/-- What holds of the ASCII characters by their code points holds of each. -/
theorem of_ascii {holds : Char → Prop} (hcodes : ∀ code : Fin 128, holds (Char.ofNat code))
    {c : Char} (hascii : c.toNat < 128) : holds c := by
  simpa only [Char.ofNat_toNat] using hcodes ⟨c.toNat, hascii⟩

/-- What cannot tell the ASCII letters from their lower case cannot tell any character from it. -/
theorem apply_toLower {α : Type} {f : Char → α}
    (hcodes : ∀ code : Fin 128, f (Char.ofNat code).toLower = f (Char.ofNat code)) (c : Char) :
    f c.toLower = f c := by
  by_cases hascii : c.toNat < 128
  · exact @of_ascii (fun c => f c.toLower = f c) hcodes c hascii
  · rw [toLower_of_not_ascii hascii]

/-- A character of ASCII has one lower case, which depends on nothing else. -/
theorem lowerChar_of_ascii {c : Char} (hascii : c.toNat < 128) : lowerChar c = [c.toLower] :=
  @of_ascii (fun c => lowerChar c = [c.toLower]) (by decide +kernel) c hascii

theorem lowerChar_toLower (c : Char) : lowerChar c.toLower = lowerChar c := by
  by_cases hascii : c.toNat < 128
  · obtain ⟨hlower, hagain⟩ := @of_ascii
      (fun c => c.toLower.toNat < 128 ∧ c.toLower.toLower = c.toLower) (by decide +kernel) c hascii
    rw [lowerChar_of_ascii hascii, lowerChar_of_ascii hlower, hagain]
  · rw [toLower_of_not_ascii hascii]

theorem cased_toLower (c : Char) : cased.holds c.toLower.toNat = cased.holds c.toNat :=
  apply_toLower (f := fun c => cased.holds c.toNat) (by decide +kernel) c

theorem caseIgnorable_toLower (c : Char) :
    caseIgnorable.holds c.toLower.toNat = caseIgnorable.holds c.toNat :=
  apply_toLower (f := fun c => caseIgnorable.holds c.toNat) (by decide +kernel) c

theorem toLower_eq_sigma_iff (c : Char) : c.toLower = 'Σ' ↔ c = 'Σ' :=
  iff_of_eq (apply_toLower (f := fun c => c = 'Σ') (by decide +kernel) c)

/-! ## Lower case of respelled texts -/

/-- A sigma sees no difference between the cases of the ASCII letters behind it. -/
theorem casedAhead_map_toLower (text : List Char) :
    casedAhead (text.map Char.toLower) = casedAhead text := by
  induction text with
  | nil => rfl
  | cons c rest ih =>
      rw [List.map_cons, casedAhead, casedAhead, caseIgnorable_toLower, cased_toLower, ih]

/-- Nor does it between those of the letters before it. -/
theorem casedBehind_toLower (before : Bool) (c : Char) :
    casedBehind before c.toLower = casedBehind before c := by
  rw [casedBehind, casedBehind, caseIgnorable_toLower, cased_toLower]

theorem lowerBetween_map_toLower (before : Bool) (c : Char) (rest : List Char) :
    lowerBetween before c.toLower (rest.map Char.toLower) = lowerBetween before c rest := by
  unfold lowerBetween
  simp only [toLower_eq_sigma_iff, casedAhead_map_toLower, lowerChar_toLower]

/-- The lower case of a text is the same for all spellings of its ASCII letters. -/
theorem lowerAfter_map_toLower (before : Bool) (text : List Char) :
    lowerAfter before (text.map Char.toLower) = lowerAfter before text := by
  induction text generalizing before with
  | nil => rfl
  | cons c rest ih =>
      rw [List.map_cons, lowerAfter, lowerAfter, lowerBetween_map_toLower, casedBehind_toLower, ih]

/-! ## Lower case around ASCII texts -/

/-- The lower case of a text ends in that of any part at its end, read from where it starts. -/
theorem exists_lowerAfter_append (before : Bool) (front rest : List Char) :
    ∃ lowered between, lowerAfter before (front ++ rest) = lowered ++ lowerAfter between rest := by
  -- A sigma in front may look ahead into the rest, so what comes of the front depends on both.
  induction front generalizing before with
  | nil => exact ⟨[], before, rfl⟩
  | cons c front ih =>
      obtain ⟨lowered, between, hrest⟩ := ih (casedBehind before c)
      refine ⟨lowerBetween before c (front ++ rest) ++ lowered, between, ?_⟩
      rw [List.cons_append, lowerAfter, hrest, List.append_assoc]

/-- A text of ASCII characters that stands in front is lowered letter by letter. -/
theorem exists_lowerAfter_ascii (before : Bool) {text : List Char}
    (hascii : ∀ c ∈ text, c.toNat < 128) (rest : List Char) :
    ∃ between,
      lowerAfter before (text ++ rest) = text.map Char.toLower ++ lowerAfter between rest := by
  induction text generalizing before with
  | nil => exact ⟨before, rfl⟩
  | cons c text ih =>
      obtain ⟨hc, htext⟩ := List.forall_mem_cons.1 hascii
      obtain ⟨between, hrest⟩ := ih (casedBehind before c) htext
      have hsigma : c ≠ 'Σ' := by
        rintro rfl
        exact absurd hc (by decide)
      refine ⟨between, ?_⟩
      rw [List.cons_append, lowerAfter, lowerBetween, if_neg hsigma, lowerChar_of_ascii hc, hrest]
      rfl

end Text

namespace SameLetters

variable {text other : String}

/-- Texts with the same letters have the same lower case. -/
theorem lower_eq (hsame : SameLetters text other) :
    Text.lower text.toList = Text.lower other.toList := by
  rw [Text.lower, ← Text.lowerAfter_map_toLower, hsame, Text.lowerAfter_map_toLower, Text.lower]

/-- A part of a text may be spelled otherwise. -/
theorem within (hsame : SameLetters text other) (front back : String) :
    SameLetters (front ++ text ++ back) (front ++ other ++ back) := by
  have hletters : text.toList.map Char.toLower = other.toList.map Char.toLower := hsame
  simp only [SameLetters, String.toList_append, List.map_append, hletters]

end SameLetters

namespace IsAscii

variable {text : String}

/-- The lower case of an ASCII text is that of its letters. -/
theorem lower_eq (hascii : IsAscii text) :
    Text.lower text.toList = text.toList.map Char.toLower := by
  obtain ⟨between, hlower⟩ := Text.exists_lowerAfter_ascii false hascii []
  simpa [Text.lower, Text.lowerAfter] using hlower

/-- A fragment of ASCII characters stands in every text that holds a spelling of it. -/
theorem standsIn {fragment spelled : String} (hascii : IsAscii fragment)
    (hspelled : SameLetters spelled fragment) (front back : String) :
    StandsIn fragment (front ++ spelled ++ back) := by
  -- In lower case the text is the same for every spelling, so the fragment itself is looked at.
  rw [StandsIn, (hspelled.within front back).lower_eq, hascii.lower_eq, String.toList_append,
    String.toList_append, List.append_assoc]
  obtain ⟨lowered, between, hfront⟩ :=
    Text.exists_lowerAfter_append false front.toList (fragment.toList ++ back.toList)
  obtain ⟨behind, hfragment⟩ := Text.exists_lowerAfter_ascii between hascii back.toList
  rw [Text.lower, hfront, hfragment]
  exact ⟨lowered, Text.lowerAfter behind back.toList, List.append_assoc ..⟩

end IsAscii

/-! ## Classes of respelled messages -/

/-- Fragments that are spelled otherwise are mentioned in the same texts. -/
theorem mentions_congr {fragments others : List String}
    (hsame : List.Forall₂ SameLetters fragments others) (lowered : List Char) :
    mentions lowered fragments = mentions lowered others := by
  induction hsame with
  | nil => rfl
  | cons hfirst _ ih =>
      unfold mentions at ih ⊢
      rw [List.any_cons, List.any_cons, ih, hfirst.lower_eq]

namespace ProviderError

variable {error : ProviderError}

/-- Details that are spelled otherwise are read alike. -/
theorem lowerDetails_congr {text other : String} (hdetails : error.details = .text text)
    (hsame : SameLetters text other) :
    ({ error with details := .text other } : ProviderError).lowerDetails = error.lowerDetails := by
  rw [lowerDetails_of_text hdetails, lowerDetails_of_text rfl, hsame.lower_eq]

/-- Neither the case of letters in the details nor that in the fragments counts. -/
theorem classify_of_sameLetters {text other : String} {fragments others : List String}
    (hdetails : error.details = .text text) (hsame : SameLetters text other)
    (hfragments : List.Forall₂ SameLetters fragments others) :
    ({ error with details := .text other } : ProviderError).classify others =
      error.classify fragments := by
  have hnamed : others ≠ [] ↔ fragments ≠ [] := by
    rw [ne_eq, ne_eq, ← List.length_eq_zero_iff, ← hfragments.length_eq, List.length_eq_zero_iff]
  by_cases hstatus : error.status = .null
  · rw [classify_of_unanswered hstatus, classify_of_unanswered]
    exact hstatus
  · rw [classify_of_answered hstatus, classify_of_answered (by exact hstatus),
      lowerDetails_congr hdetails hsame]
    simp only [hnamed, mentions_congr hfragments]

/-- A text that says that something was not found, however it is spelled, has this class. -/
theorem classify_of_notFound {text : String} {fragments : List String}
    (hanswered : error.status ≠ .null) (hdetails : error.details = .text text)
    (hstands : StandsIn notFoundFragment text) (hother : ¬ error.MeansState fragments text) :
    error.classify fragments = .ok .notFound := by
  rw [classify_of_not_meansState hother (.inl hdetails), classify_nil_of_answered hanswered,
    lowerDetails_of_text hdetails, ok_bind, classOfDetails,
    if_pos (mentions_iff_standsIn.2 hstands)]

/-- Messages are matched without regard to the case of ASCII letters. A fragment of ASCII
characters that is spelled anywhere in the details of an answer, in any mixture of upper and lower
case and amid any text, makes the class that of the wanted state, and a spelling of `not found`
makes it that of a missing volume unless the answer means a wanted state. Details and fragments
that are spelled otherwise have the same class. -/
theorem letter_case_ignored (error : ProviderError) :
    (∀ (fragments : List String) (fragment spelled front back : String), error.status ≠ .null →
      fragment ∈ fragments → IsAscii fragment → SameLetters spelled fragment →
      error.details = .text (front ++ spelled ++ back) →
      error.classify fragments = .ok .alreadyInDesiredState) ∧
    (∀ (fragments : List String) (spelled front back : String), error.status ≠ .null →
      SameLetters spelled notFoundFragment →
      error.details = .text (front ++ spelled ++ back) →
      ¬ error.MeansState fragments (front ++ spelled ++ back) →
      error.classify fragments = .ok .notFound) ∧
    (∀ (text other : String) (fragments others : List String),
      error.details = .text text → SameLetters text other →
      List.Forall₂ SameLetters fragments others →
      ({ error with details := .text other } : ProviderError).classify others =
        error.classify fragments) := by
  refine ⟨?_, ?_, ?_⟩
  · intro fragments fragment spelled front back hanswered hnamed hascii hspelled hdetails
    have hstands := hascii.standsIn hspelled front back
    have hmeans : error.MeansState fragments (front ++ spelled ++ back) :=
      ⟨hanswered, List.ne_nil_of_mem hnamed, .inr ⟨fragment, hnamed, hstands⟩⟩
    exact hmeans.classify (.inl hdetails)
  · intro fragments spelled front back hanswered hspelled hdetails hother
    have hascii : IsAscii notFoundFragment := by decide
    exact classify_of_notFound hanswered hdetails (hascii.standsIn hspelled front back) hother
  · intro text other fragments others hdetails hsame hfragments
    exact classify_of_sameLetters hdetails hsame hfragments

/-- A fragment is found between a sigma, which it keeps from being a final one, and a letter whose
lower case is two characters. With another fragment the same message is about a missing volume. -/
theorem respelled_fragment_found :
    (⟨"POST", "/actions", .int 409, .text "ΟΔΟΣaTTACHMENT nOT fOUNDİ"⟩ : ProviderError).classify
        [attachmentNotFoundFragment] = .ok .alreadyInDesiredState ∧
    (⟨"POST", "/actions", .int 409, .text "ΟΔΟΣaTTACHMENT nOT fOUNDİ"⟩ : ProviderError).classify
        [alreadyAttachedFragment] = .ok .notFound ∧
    (⟨"POST", "/actions", .int 409, .text "ΟΔΟΣAttachment NOT FOUNDİ"⟩ : ProviderError).classify
        ["ALREADY Attached"] = .ok .notFound := by
  obtain ⟨hnamed, hmissing, hrespelled⟩ := letter_case_ignored
    ⟨"POST", "/actions", .int 409, .text "ΟΔΟΣaTTACHMENT nOT fOUNDİ"⟩
  have hother : ¬ MeansState ⟨"POST", "/actions", .int 409, .text "ΟΔΟΣaTTACHMENT nOT fOUNDİ"⟩
      [alreadyAttachedFragment] "ΟΔΟΣaTTACHMENT nOT fOUNDİ" := by
    rintro ⟨-, -, hstate | ⟨fragment, hfragment, hstands⟩⟩
    · revert hstate
      decide
    · rw [List.mem_singleton.1 hfragment, ← mentions_iff_standsIn] at hstands
      revert hstands
      decide +kernel
  have hnotFound := hmissing [alreadyAttachedFragment] "nOT fOUND" "ΟΔΟΣaTTACHMENT " "İ" nofun
    (by decide) rfl hother
  refine ⟨?_, hnotFound, ?_⟩
  · exact hnamed [attachmentNotFoundFragment] attachmentNotFoundFragment "aTTACHMENT nOT fOUND"
      "ΟΔΟΣ" "İ" nofun (List.mem_singleton_self _) (by decide) (by decide) rfl
  · exact (hrespelled "ΟΔΟΣaTTACHMENT nOT fOUNDİ" "ΟΔΟΣAttachment NOT FOUNDİ"
      [alreadyAttachedFragment] ["ALREADY Attached"] rfl (by decide)
      (.cons (by decide) .nil)).trans hnotFound

end ProviderError

end VolumePlugin
