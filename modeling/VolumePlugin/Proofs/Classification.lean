/-
# What fragments do to a class

A failed request is classified by its status and its details, for a caller that may name fragments
of a message. The handler of an attachment names the words by which the provider says that the
volume is in the wanted state; where the status of the answer is found, the same request is
classified once more and nothing is named.

Fragments only ever add one class. They move a failed request to the class of the wanted state, or
leave it where it is without them, so that what a handler passes on has one class throughout. The
branches of the classification overlap, and this rests on the wanted state being looked for first.
-/
import VolumePlugin.Proofs.DesiredState

namespace VolumePlugin

/-! ## Classes with and without fragments -/

namespace ProviderError

/-- The details of a failed request say a text. Empty details of any kind say the empty text. -/
def HasText (error : ProviderError) (text : String) : Prop :=
  error.details = .text text ∨ error.details.truthy = false ∧ text = ""

/-- A failed request means a state that the fragments name: it was answered, and this by the status
for such a state or with a text in which one of the fragments stands. -/
structure MeansState (error : ProviderError) (fragments : List String) (text : String) : Prop where
  answered : error.status ≠ .null
  named : fragments ≠ []
  told : error.status.alike (.int 422) = true ∨ ∃ fragment ∈ fragments, StandsIn fragment text

variable {error : ProviderError} {text : String} {fragments others : List String}

theorem lowerDetails_of_hasText (htext : error.HasText text) :
    error.lowerDetails = .ok (Text.lower text.toList) := by
  rcases htext with hdetails | ⟨hempty, rfl⟩
  · exact lowerDetails_of_text hdetails
  · rw [lowerDetails, Value.orElse, if_neg (Bool.eq_false_iff.1 hempty)]

/-- Without an answer a failed request is transient. -/
theorem classify_of_unanswered (hstatus : error.status = .null) (fragments : List String) :
    error.classify fragments = .ok .transient := by
  rw [classify, hstatus]
  rfl

/-- Of an answer the status for a wanted state is looked at first, and then the details. -/
theorem classify_of_answered (hstatus : error.status ≠ .null) (fragments : List String) :
    error.classify fragments =
      if fragments ≠ [] ∧ error.status.alike (.int 422) = true then .ok .alreadyInDesiredState
      else (do
        let details ← error.lowerDetails
        if mentions details fragments then return .alreadyInDesiredState
        classOfDetails error.status details) := by
  unfold classify
  split
  · exact (hstatus ‹_›).elim
  · cases fragments with
    | nil => rfl
    | cons fragment rest =>
        simp only [List.isEmpty_cons, Bool.not_false, Bool.true_and, ne_eq, reduceCtorEq,
          not_false_eq_true, true_and]
        rfl

/-- Without fragments the class of an answer is that of its status and details. -/
theorem classify_nil_of_answered (hstatus : error.status ≠ .null) :
    error.classify [] = error.lowerDetails >>= classOfDetails error.status := by
  rw [classify_of_answered hstatus, if_neg fun hboth => hboth.1 rfl]
  rfl

theorem classOfStatus_ne_already (status : Value) :
    classOfStatus status ≠ .ok .alreadyInDesiredState := by
  intro hclass
  unfold classOfStatus at hclass
  split at hclass
  · cases hclass
  · split at hclass
    · cases hclass
    · obtain ⟨atLeast, -, hclass⟩ := bind_eq_ok.1 hclass
      split at hclass
      · cases hclass
      · obtain ⟨atMost, -, hclass⟩ := bind_eq_ok.1 hclass
        split at hclass <;> cases hclass

theorem classOfDetails_ne_already (status : Value) (details : List Char) :
    classOfDetails status details ≠ .ok .alreadyInDesiredState := by
  unfold classOfDetails
  split
  · nofun
  · exact classOfStatus_ne_already status

/-- Where nothing is named, no failed request means a wanted state. -/
theorem classify_nil_ne_already (error : ProviderError) :
    error.classify [] ≠ .ok .alreadyInDesiredState := by
  intro hclass
  by_cases hstatus : error.status = .null
  · rw [classify_of_unanswered hstatus] at hclass
    cases hclass
  · rw [classify_nil_of_answered hstatus] at hclass
    obtain ⟨lowered, -, hclass⟩ := bind_eq_ok.1 hclass
    exact classOfDetails_ne_already _ _ hclass

/-- Any other class is found without the fragments as well, whatever the details are. -/
theorem classify_nil_of_ne_already {found : ErrorClass}
    (hfound : error.classify fragments = .ok found) (hother : found ≠ .alreadyInDesiredState) :
    error.classify [] = .ok found := by
  by_cases hstatus : error.status = .null
  · rw [classify_of_unanswered hstatus] at hfound ⊢
    exact hfound
  · rw [classify_of_answered hstatus] at hfound
    split at hfound
    · cases hfound
      exact (hother rfl).elim
    · obtain ⟨lowered, hlowered, hfound⟩ := bind_eq_ok.1 hfound
      split at hfound
      · cases hfound
        exact (hother rfl).elim
      · rw [classify_nil_of_answered hstatus, hlowered]
        exact hfound

/-- A failed request that means a named state has its class. -/
theorem MeansState.classify (hmeans : error.MeansState fragments text)
    (htext : error.HasText text) : error.classify fragments = .ok .alreadyInDesiredState := by
  rw [classify_of_answered hmeans.answered, lowerDetails_of_hasText htext, ok_bind]
  rcases hmeans.told with hstate | hfragment
  · exact if_pos ⟨hmeans.named, hstate⟩
  · rw [if_pos (mentions_iff_exists.2 hfragment)]
    split <;> rfl

/-- One that does not has the class that it has without the fragments. -/
theorem classify_of_not_meansState (hother : ¬ error.MeansState fragments text)
    (htext : error.HasText text) : error.classify fragments = error.classify [] := by
  by_cases hstatus : error.status = .null
  · rw [classify_of_unanswered hstatus, classify_of_unanswered hstatus]
  · have hstate : ¬ (fragments ≠ [] ∧ error.status.alike (.int 422) = true) :=
      fun hboth => hother ⟨hstatus, hboth.1, .inl hboth.2⟩
    have hfragment : ¬ mentions (Text.lower text.toList) fragments = true := by
      rw [mentions_iff_exists]
      rintro ⟨fragment, hnamed, hstands⟩
      exact hother ⟨hstatus, List.ne_nil_of_mem hnamed, .inr ⟨fragment, hnamed, hstands⟩⟩
    rw [classify_nil_of_answered hstatus, classify_of_answered hstatus, if_neg hstate,
      lowerDetails_of_hasText htext, ok_bind, if_neg hfragment]
    rfl

/-- A state that is named by some fragments is named by more. -/
theorem MeansState.mono (hmeans : error.MeansState fragments text)
    (hmore : fragments ⊆ others) : error.MeansState others text where
  answered := hmeans.answered
  named hnone := hmeans.named (List.eq_nil_of_subset_nil (hnone ▸ hmore))
  told := hmeans.told.imp_right fun ⟨fragment, hnamed, hstands⟩ =>
    ⟨fragment, hmore hnamed, hstands⟩

/-- More fragments leave a class as it is or make it that of the wanted state. -/
theorem classify_of_subset (htext : error.HasText text) (hmore : fragments ⊆ others) :
    error.classify others = .ok .alreadyInDesiredState ∨
      error.classify others = error.classify fragments := by
  by_cases hmeans : error.MeansState others text
  · exact .inl (hmeans.classify htext)
  · right
    have hfewer : ¬ error.MeansState fragments text := fun hfewer => hmeans (hfewer.mono hmore)
    rw [classify_of_not_meansState hmeans htext, classify_of_not_meansState hfewer htext]

/-- The order of fragments and how often they are named make no difference. -/
theorem classify_congr (htext : error.HasText text)
    (hsame : ∀ fragment, fragment ∈ others ↔ fragment ∈ fragments) :
    error.classify others = error.classify fragments := by
  have hless : others ⊆ fragments := fun fragment => (hsame fragment).1
  have hmore : fragments ⊆ others := fun fragment => (hsame fragment).2
  rcases classify_of_subset htext hmore with hstate | hequal
  · rcases classify_of_subset htext hless with hstate' | hequal
    · rw [hstate, hstate']
    · exact hequal.symm
  · exact hequal

end ProviderError

/-! ## Failed requests that are passed on -/

/-- The status of a failed request is that of a class other than that of a wanted state. -/
theorem Failure.status_of_provider {refused : ProviderError} {session : Session} {status : Status}
    (hstatus : ((Failure.provider refused).status.runIn session).1 = .ok status) :
    ∃ found, refused.classify [] = .ok found ∧ found ≠ .alreadyInDesiredState ∧
      status = found.status := by
  rw [(Failure.isRule_status (.provider refused)).result session] at hstatus
  obtain ⟨found, hfound, hrow⟩ := bind_eq_ok.1 hstatus
  cases hrow
  refine ⟨found, hfound, ?_, rfl⟩
  rintro rfl
  exact refused.classify_nil_ne_already hfound

/-- What the handler of an attachment passes on was classified with the fragment of its kind. -/
theorem Call.classify_of_attachment {call : Call} {asked : Attachment}
    (hasked : call.attachment? = some asked) {setting : Setting} {transcript : List Event}
    {refused : ProviderError}
    (hrun : call.Run setting transcript (.error (.provider refused))) :
    ∃ found, refused.classify [asked.kind.fragment] = .ok found ∧
      found ≠ .alreadyInDesiredState := by
  cases call with
  | publishVolume request =>
      cases hasked
      obtain ⟨outcome, hrun, hfailed⟩ := hrun
      exact (hrun.classify_of_error (request.isLocal_operation _)
        (eq_error_of_map hfailed.symm)).2
  | unpublishVolume request =>
      cases hasked
      obtain ⟨outcome, hrun, hfailed⟩ := hrun
      exact (hrun.classify_of_error (request.isLocal_operation _)
        (eq_error_of_map hfailed.symm)).2
  | _ => cases hasked

/-- A failed request that an attachment passes on is answered by the class that its handler found.
-/
theorem Service.outcome_of_passedOn (service : Service) {call : Call} (context : CallContext)
    (replies : List Reply) {asked : Attachment} (hasked : call.attachment? = some asked)
    {refused : ProviderError}
    (hpassed : service.handled call context replies = .error (.provider refused)) :
    ∃ found, refused.classify [asked.kind.fragment] = .ok found ∧
      refused.classify [] = .ok found ∧
      (service.step (.call call context replies)).1.outcome =
        .answered (.ok {
            response := call.emptyResponse
            status := some found.status
            details := some refused.message })
          (service.requestsOf call context replies) := by
  have hsupervised :=
    Call.isSupervised_of_change (Call.asksForChange_of_attachment hasked)
  obtain ⟨houtcome, transcript, _, -, -, hrun⟩ :=
    service.outcome_of_supervised call context replies hsupervised
  rw [hpassed] at hrun houtcome
  obtain ⟨found, hfound, hother⟩ := Call.classify_of_attachment hasked hrun
  have hagain := ProviderError.classify_nil_of_ne_already hfound hother
  refine ⟨found, hfound, hagain, ?_⟩
  rw [houtcome, settled, Failure.statusRule, hagain]
  rfl

namespace ProviderError

/-- What fragments do to the class of a failed request with text or empty details. It has the class
of the wanted state just where it was answered, some fragments are named, and the status or one of
the fragments tells so; otherwise it has the class that it has without fragments. So more fragments
only add this class, and neither their order nor repetitions count. A failed request that an
attachment passes on has the same class in the handler and where the status of the answer is found,
and the status of the wanted state is found for no failed request at all. -/
theorem fragments_add_state {error : ProviderError} {text : String} (htext : error.HasText text)
    (fragments : List String) :
    (error.classify fragments = .ok .alreadyInDesiredState ↔ error.MeansState fragments text) ∧
    (¬ error.MeansState fragments text → error.classify fragments = error.classify []) ∧
    (∀ others, fragments ⊆ others →
      error.classify others = .ok .alreadyInDesiredState ∨
        error.classify others = error.classify fragments) ∧
    (∀ others, (∀ fragment, fragment ∈ others ↔ fragment ∈ fragments) →
      error.classify others = error.classify fragments) ∧
    (∀ (service : Service) (call : Call) (context : CallContext) (replies : List Reply)
      (asked : Attachment) (refused : ProviderError), call.attachment? = some asked →
      service.handled call context replies = .error (.provider refused) →
      ∃ found, refused.classify [asked.kind.fragment] = .ok found ∧
        refused.classify [] = .ok found ∧
        (service.step (.call call context replies)).1.outcome =
          .answered (.ok {
              response := call.emptyResponse
              status := some found.status
              details := some refused.message })
            (service.requestsOf call context replies)) ∧
    (∀ (failure : Failure) (session : Session) (status : Status),
      (failure.status.runIn session).1 = .ok status →
      (∃ refused found, failure = .provider refused ∧ refused.classify [] = .ok found ∧
        found ≠ .alreadyInDesiredState ∧ status = found.status) ∨
      (∀ refused, failure ≠ .provider refused) ∧ status = failure.ownStatus) := by
  refine ⟨⟨?_, fun hmeans => hmeans.classify htext⟩,
    fun hother => classify_of_not_meansState hother htext,
    fun others => classify_of_subset htext, fun others => classify_congr htext, ?_, ?_⟩
  · intro hclass
    by_contra hother
    rw [classify_of_not_meansState hother htext] at hclass
    exact error.classify_nil_ne_already hclass
  · intro service call context replies asked refused hasked hpassed
    exact service.outcome_of_passedOn context replies hasked hpassed
  · intro failure session status hstatus
    cases failure with
    | provider refused =>
        obtain ⟨found, hfound, hother, hrow⟩ := Failure.status_of_provider hstatus
        exact .inl ⟨refused, found, rfl, hfound, hother, hrow⟩
    | _ =>
        right
        cases hstatus
        exact ⟨nofun, rfl⟩

/-- An error that says that there is no such attachment means the state that a detachment wants and
not the one that an attachment wants, which passes it on as a volume that was not found. -/
theorem missing_attachment_classified :
    (⟨"POST", "/actions", .int 409, .text "Attachment NOT found"⟩ : ProviderError).classify
        [alreadyAttachedFragment, attachmentNotFoundFragment] = .ok .alreadyInDesiredState ∧
    (⟨"POST", "/actions", .int 409, .text "Attachment NOT found"⟩ : ProviderError).classify
        [alreadyAttachedFragment] = .ok .notFound ∧
    ((Service.withToken "token").step (.call
        (.publishVolume { volumeId := .text "v", nodeId := .text "7" }) {}
        [.answer 409 "Attachment NOT found"])).1.outcome =
      .answered (.ok {
          response := .publication
          status := some .notFound
          details := some (ProviderError.message ⟨"POST",
            "https://api.digitalocean.com/v2/volumes/v/actions", .int 409,
            .text "Attachment NOT found"⟩) })
        ((Service.withToken "token").requestsOf
          (.publishVolume { volumeId := .text "v", nodeId := .text "7" }) {}
          [.answer 409 "Attachment NOT found"]) := by
  have htext : HasText ⟨"POST", "/actions", .int 409, .text "Attachment NOT found"⟩
      "Attachment NOT found" := .inl rfl
  have hwords : StandsIn attachmentNotFoundFragment "Attachment NOT found" :=
    mentions_iff_standsIn.1 (by decide +kernel)
  have hmissing : ¬ StandsIn alreadyAttachedFragment "Attachment NOT found" := by
    rw [← mentions_iff_standsIn]
    decide +kernel
  obtain ⟨hboth, -⟩ :=
    fragments_add_state htext [alreadyAttachedFragment, attachmentNotFoundFragment]
  obtain ⟨-, hother, -, -, hpassed, -⟩ := fragments_add_state htext [alreadyAttachedFragment]
  refine ⟨hboth.2 ⟨nofun, nofun, .inr ⟨_, by simp, hwords⟩⟩, ?_, ?_⟩
  · rw [hother]
    · decide +kernel
    · rintro ⟨-, -, hstate | ⟨fragment, hnamed, hstands⟩⟩
      · revert hstate
        decide
      · rw [List.mem_singleton.1 hnamed] at hstands
        exact hmissing hstands
  · obtain ⟨found, -, hfound, houtcome⟩ := hpassed (.withToken "token")
      (.publishVolume { volumeId := .text "v", nodeId := .text "7" }) {}
      [.answer 409 "Attachment NOT found"] _
      ⟨"POST", "https://api.digitalocean.com/v2/volumes/v/actions", .int 409,
        .text "Attachment NOT found"⟩ rfl (by decide +kernel)
    have hclass : found = .notFound := by
      have hmissed : ProviderError.classify ⟨"POST",
          "https://api.digitalocean.com/v2/volumes/v/actions", .int 409,
          .text "Attachment NOT found"⟩ [] = .ok .notFound := by
        decide +kernel
      rw [hmissed] at hfound
      exact (Except.ok.inj hfound).symm
    rw [houtcome, hclass]
    rfl

end ProviderError

end VolumePlugin
