/-
# Where failures come from

A failed request to the provider is reported by the reply to that request and by nothing else: the
rules that look at a caller's request, at the settings or at what a reply says have failures of
their own. An outcome that is no failed request is called local here.
-/
import VolumePlugin.Proofs.Preparation

namespace VolumePlugin

variable {α β : Type}

/-! ## Kinds of failures -/

section Kinds

variable {kind : Failure → Prop}

/-- An outcome whose failure is of a kind, where it fails. -/
def FailsAs (kind : Failure → Prop) (outcome : Except Failure α) : Prop :=
  ∀ failure, outcome = .error failure → kind failure

@[simp]
theorem failsAs_ok (a : α) : FailsAs kind (.ok a : Except Failure α) := by
  intro failure himpossible
  cases himpossible

@[simp]
theorem failsAs_pure (a : α) : FailsAs kind (pure a : Except Failure α) := failsAs_ok a

@[simp]
theorem failsAs_error_iff {failure : Failure} :
    FailsAs kind (.error failure : Except Failure α) ↔ kind failure := by
  simp [FailsAs]

/-- Chains of rules that fail in one way do so as well. -/
theorem FailsAs.bind {rule : Except Failure α} {next : α → Except Failure β}
    (hrule : FailsAs kind rule) (hnext : ∀ a, rule = .ok a → FailsAs kind (next a)) :
    FailsAs kind (rule >>= next) := by
  intro failure hfailed
  rcases bind_eq_error.1 hfailed with hfirst | ⟨a, ha, hsecond⟩
  · exact hrule failure hfirst
  · exact hnext a ha failure hsecond

/-- A chain fails in one way just where each rule does that is come to. -/
theorem failsAs_bind_iff {rule : Except Failure α} {next : α → Except Failure β} :
    FailsAs kind (rule >>= next) ↔
      FailsAs kind rule ∧ ∀ a, rule = .ok a → FailsAs kind (next a) := by
  constructor
  · intro hfails
    constructor
    · intro failure hfailed
      exact hfails failure (bind_eq_error.2 (.inl hfailed))
    · intro a ha failure hfailed
      exact hfails failure (bind_eq_error.2 (.inr ⟨a, ha, hfailed⟩))
  · rintro ⟨hrule, hnext⟩
    exact hrule.bind hnext

/-- What fails in one way fails in any that this is a case of. -/
theorem FailsAs.mono {wider : Failure → Prop} {outcome : Except Failure α}
    (hfails : FailsAs kind outcome) (hwider : ∀ failure, kind failure → wider failure) :
    FailsAs wider outcome :=
  fun failure hfailed => hwider failure (hfails failure hfailed)

theorem FailsAs.mapM {rule : α → Except Failure β} (hrule : ∀ a, FailsAs kind (rule a))
    (items : List α) : FailsAs kind (items.mapM rule) := by
  induction items with
  | nil => simp
  | cons item rest ih =>
      rw [List.mapM_cons]
      apply (hrule item).bind
      intro _ _
      exact ih.bind fun _ _ => failsAs_pure _

end Kinds

/-! ## Failures that are no failed requests -/

/-- An outcome that is no failed request to the provider. -/
def IsLocal (outcome : Except Failure α) : Prop :=
  ∀ error, outcome ≠ .error (.provider error)

@[simp]
theorem isLocal_ok (a : α) : IsLocal (.ok a : Except Failure α) := by
  intro error himpossible
  cases himpossible

@[simp]
theorem isLocal_pure (a : α) : IsLocal (pure a : Except Failure α) := isLocal_ok a

@[simp]
theorem isLocal_error_iff {failure : Failure} :
    IsLocal (.error failure : Except Failure α) ↔ ∀ error, failure ≠ .provider error := by
  simp [IsLocal]

/-- The failure of a local outcome is one whatever was wanted. -/
theorem IsLocal.of_error {outcome : Except Failure α} {failure : Failure}
    (hlocal : IsLocal outcome) (hfailed : outcome = .error failure) :
    IsLocal (.error failure : Except Failure β) := by
  rw [hfailed, isLocal_error_iff] at hlocal
  rwa [isLocal_error_iff]

/-- A local outcome fails in whatever way but as a failed request. -/
theorem isLocal_iff_failsAs {outcome : Except Failure α} :
    IsLocal outcome ↔ FailsAs (fun failure => ∀ error, failure ≠ .provider error) outcome := by
  constructor
  · rintro hlocal failure rfl
    exact isLocal_error_iff.1 hlocal
  · intro hfails error hfailed
    exact hfails _ hfailed error rfl

/-- Chains of local rules are local. -/
theorem IsLocal.bind {rule : Except Failure α} {next : α → Except Failure β}
    (hrule : IsLocal rule) (hnext : ∀ a, rule = .ok a → IsLocal (next a)) :
    IsLocal (rule >>= next) :=
  isLocal_iff_failsAs.2
    ((isLocal_iff_failsAs.1 hrule).bind fun a ha => isLocal_iff_failsAs.1 (hnext a ha))

theorem IsLocal.mapM {rule : α → Except Failure β} (hrule : ∀ a, IsLocal (rule a))
    (items : List α) : IsLocal (items.mapM rule) :=
  isLocal_iff_failsAs.2 (FailsAs.mapM (fun a => isLocal_iff_failsAs.1 (hrule a)) items)

theorem IsLocal.forM {rule : α → Except Failure PUnit} (hrule : ∀ a, IsLocal (rule a))
    (items : List α) : IsLocal (items.forM rule) := by
  induction items with
  | nil => simp
  | cons item rest ih => exact (hrule item).bind fun _ _ => ih

theorem IsLocal.foldlM {rule : β → α → Except Failure β} (hrule : ∀ b a, IsLocal (rule b a))
    (items : List α) (b : β) : IsLocal (items.foldlM rule b) := by
  induction items generalizing b with
  | nil => simp
  | cons item rest ih =>
      rw [List.foldlM_cons]
      exact (hrule b item).bind fun next _ => ih next

/-! ## Parts of values -/

/-- A failure that tells of a value which is not of the shape that it is used with. -/
def Failure.BlamesShape : Failure → Prop
  | .mismatch _ | .missingMember _ => True
  | _ => False

/-- What fails by the shape of a value is local. -/
theorem FailsAs.isLocal {outcome : Except Failure α}
    (hshape : FailsAs Failure.BlamesShape outcome) : IsLocal outcome := by
  refine isLocal_iff_failsAs.2 (hshape.mono fun failure hblames => ?_)
  rintro error rfl
  exact hblames

theorem failsAs_membersFor (value : Value) (feature : String) :
    FailsAs Failure.BlamesShape (value.membersFor feature) := by
  unfold Value.membersFor
  split <;> simp [Failure.BlamesShape]

theorem failsAs_require (members : List (String × Value)) (name : String) :
    FailsAs Failure.BlamesShape (Value.require members name) := by
  unfold Value.require
  split <;> simp [Failure.BlamesShape]

theorem failsAs_index (value : Value) (name : String) :
    FailsAs Failure.BlamesShape (value.index name) := by
  unfold Value.index
  split
  · exact failsAs_require _ name
  · exact failsAs_require _ name
  · simp [Failure.BlamesShape]
  · simp [Failure.BlamesShape]
  · simp [Failure.BlamesShape]

theorem failsAs_elements (value : Value) : FailsAs Failure.BlamesShape value.elements := by
  unfold Value.elements
  split <;> simp [Failure.BlamesShape]

theorem isLocal_membersFor (value : Value) (feature : String) :
    IsLocal (value.membersFor feature) :=
  (failsAs_membersFor value feature).isLocal

theorem isLocal_requireText (value : Value) : IsLocal value.requireText := by
  unfold Value.requireText
  split <;> simp

mutual

theorem isLocal_compare (relation : Relation) (left right : Value) :
    IsLocal (Value.compare relation left right) := by
  unfold Value.compare
  split
  · simp
  · exact isLocal_compareItems relation _ _
  · split <;> simp

theorem isLocal_compareItems (relation : Relation) (left right : List Value) :
    IsLocal (Value.compareItems relation left right) := by
  unfold Value.compareItems
  split
  · simp
  · simp
  · split
    · exact isLocal_compareItems relation _ _
    · exact isLocal_compare relation _ _

end

/-! ## Requests of callers -/

theorem isLocal_requireParameter (value : Value) (parameter : String) :
    IsLocal (requireParameter value parameter) := by
  unfold requireParameter
  split <;> simp

theorem isLocal_accessModeOf (entry : Option Capability) : IsLocal (accessModeOf entry) := by
  unfold accessModeOf
  split <;> simp

theorem isLocal_checkCapabilities (capabilities : Option (List (Option Capability))) :
    IsLocal (checkCapabilities capabilities) := by
  unfold checkCapabilities
  split
  · simp
  · refine IsLocal.forM (fun entry => ?_) _
    apply (isLocal_accessModeOf entry).bind
    intro mode _
    split <;> simp [AccessMode.refusal]

theorem isLocal_toBytes (size : Value) : IsLocal (Size.toBytes size) := by
  unfold Size.toBytes
  split
  · simp
  · simp
  · simp
  · split <;> simp
  · split <;> simp
  · simp

theorem isLocal_toGib (size : Value) : IsLocal (Size.toGib size) := by
  unfold Size.toGib
  split <;> simp

theorem isLocal_check (size : Value) : IsLocal (Size.check size) := by
  apply (isLocal_toBytes size).bind
  intro bytes _
  have hrange : IsLocal (Size.inRange bytes) := by
    apply (isLocal_compare _ _ _).bind
    intro _ _
    split
    · exact isLocal_compare _ _ _
    · simp
  apply hrange.bind
  intro _ _
  split <;> simp

theorem isLocal_storage (range : Option CapacityRange) : IsLocal (CapacityRange.storage range) := by
  cases range with
  | none => simp [CapacityRange.storage]
  | some range =>
      have hnegative : IsLocal range.hasNegativeBound := by
        apply (isLocal_compare _ _ _).bind
        intro _ _
        split
        · simp
        · exact isLocal_compare _ _ _
      apply hnegative.bind
      intro negative _
      cases negative with
      | true => simp
      | false =>
          split
          · simp only [Bool.false_eq_true, if_false]
            split
            · simp
            · exact isLocal_toGib _
          · simp only [Bool.false_eq_true, if_false]
            split
            · exact isLocal_toGib _
            · simp

theorem CreateVolumeRequest.isLocal_rule (request : CreateVolumeRequest) :
    IsLocal request.rule := by
  apply (isLocal_requireParameter _ _).bind
  intro name _
  apply (isLocal_checkCapabilities _).bind
  intro _ _
  apply (isLocal_storage _).bind
  intro size _
  exact (isLocal_check size).bind fun _ _ => isLocal_pure _

theorem ListVolumesRequest.isLocal_validate (request : ListVolumesRequest) :
    IsLocal request.validate := by
  apply (isLocal_compare _ _ _).bind
  intro _ _
  split <;> simp

theorem isLocal_dropletOfNode (nodeId : Value) : IsLocal (dropletOfNode nodeId) := by
  have hnumber : IsLocal (wholeNumber? nodeId) := by
    unfold wholeNumber?
    split <;> simp
  apply hnumber.bind
  intro number _
  split
  · split <;> simp
  · simp

theorem isLocal_pageOfToken (token : Value) : IsLocal (pageOfToken token) := by
  unfold pageOfToken
  split
  · split
    · unfold pageOfTokenText
      split
      · simp
      · split <;> simp
    · simp
  · simp

/-! ## Settings and time -/

theorem isLocal_read (configuration : Configuration) (path : List String) :
    IsLocal (configuration.read path) := by
  refine IsLocal.foldlM (fun place name => ?_) _ _
  exact (isLocal_membersFor place name).bind fun _ _ => isLocal_pure _

theorem Setting.isLocal_clientRule (setting : Setting) : IsLocal setting.clientRule := by
  apply (isLocal_read _ _).bind
  intro variableName _
  have htoken : IsLocal (setting.environment.read variableName) :=
    (isLocal_requireText _).bind fun _ _ => isLocal_pure _
  apply htoken.bind
  intro token _
  cases token with
  | none => simp
  | some token =>
      apply (isLocal_read _ _).bind
      intro apiUrl _
      apply (isLocal_read _ _).bind
      intro timeout _
      unfold Client.ofUrl
      split <;> simp

theorem Client.isLocal_timeFor (client : Client) (call : String) (left : Value) :
    IsLocal (client.timeFor call left) := by
  have htimeout : IsLocal (requestTimeout left client.defaultTimeout) := by
    unfold requestTimeout
    split
    · simp
    · apply (isLocal_compare _ _ _).bind
      intro _ _
      apply (isLocal_compare _ _ _).bind
      intro _ _
      exact isLocal_pure _
  apply htimeout.bind
  intro timeout _
  apply (isLocal_compare _ _ _).bind
  intro expired _
  cases expired <;> simp

/-! ## What replies say -/

theorem Volume.failsAs_ofValue (value : Value) :
    FailsAs Failure.BlamesShape (Volume.ofValue value) := by
  apply (failsAs_membersFor _ _).bind
  intro members _
  apply (failsAs_require _ _).bind
  intro id _
  apply (failsAs_require _ _).bind
  intro name _
  apply (failsAs_require _ _).bind
  intro size _
  exact (failsAs_elements _).bind fun _ _ => failsAs_pure _

theorem PageLinks.failsAs_ofValue (value : Value) :
    FailsAs Failure.BlamesShape (PageLinks.ofValue value) := by
  unfold PageLinks.ofValue
  split
  · simp
  · apply (failsAs_membersFor _ _).bind
    intro members _
    dsimp only
    split
    · simp
    · exact (failsAs_membersFor _ _).bind fun _ _ => failsAs_pure _

theorem Page.failsAs_ofValue (value : Value) :
    FailsAs Failure.BlamesShape (Page.ofValue value) := by
  apply (failsAs_membersFor _ _).bind
  intro members _
  apply (failsAs_elements _).bind
  intro items _
  apply (FailsAs.mapM Volume.failsAs_ofValue _).bind
  intro volumes _
  exact (PageLinks.failsAs_ofValue _).bind fun _ _ => failsAs_pure _

theorem Page.isLocal_ofValue (value : Value) : IsLocal (Page.ofValue value) :=
  (Page.failsAs_ofValue value).isLocal

/-- The volume behind a creation is read from a member of the answer. -/
theorem Volume.failsAs_ofMember (value : Value) :
    FailsAs Failure.BlamesShape (value.index "volume" >>= Volume.ofValue) :=
  (failsAs_index value "volume").bind fun _ _ => Volume.failsAs_ofValue _

theorem Volume.isLocal_ofCreation (value : Value) : IsLocal (Volume.ofCreation value) := by
  unfold Volume.ofCreation
  split
  · simp
  · exact (Volume.failsAs_ofMember value).isLocal

theorem isLocal_volumeOfName (name : Value) (volumes : List Volume) :
    IsLocal (volumeOfName name volumes) := by
  unfold volumeOfName
  split
  · simp
  · split <;> simp
  · simp

theorem PageLinks.isLocal_currentPage (links : PageLinks) : IsLocal links.currentPage := by
  have hlink (link : Value) : IsLocal (PageLinks.pageOfLink link) := by
    unfold PageLinks.pageOfLink PageLinks.pageOfUrl
    split
    · split
      · simp
      · split <;> simp
    · simp
  unfold PageLinks.currentPage
  split
  · exact (hlink _).bind fun _ _ => isLocal_pure _
  · split
    · exact (hlink _).bind fun _ _ => isLocal_pure _
    · simp

theorem PageLinks.isLocal_position (links : Option PageLinks) (page : Int) :
    IsLocal (PageLinks.position links page) := by
  cases links with
  | none => exact isLocal_pure _
  | some links => exact links.isLocal_currentPage.bind fun _ _ => isLocal_pure _

theorem isLocal_pageText (page : Value) : IsLocal (pageText page) := by
  unfold pageText
  split <;> simp

theorem isLocal_respondListing (volumes : List Volume) (lastPage : Value) :
    IsLocal (respondListing volumes lastPage) := by
  have hentry (volume : Volume) : IsLocal volume.entry :=
    (isLocal_toBytes _).bind fun _ _ => isLocal_pure _
  apply (IsLocal.mapM hentry _).bind
  intro _ _
  exact (isLocal_pageText _).bind fun _ _ => isLocal_pure _

/-! ## Replies themselves -/

/-- What an answer says that reports no error is local. -/
theorem Reply.isLocal_content (url : String) (status : Int) (body : String) :
    IsLocal (Reply.content url status body) := by
  unfold Reply.content
  split
  · simp
  · split <;> simp

theorem Reply.isLocal_errorDetails (body : String) : IsLocal (Reply.errorDetails body) := by
  unfold Reply.errorDetails
  split <;> simp

/-- A failed request is reported for its own method and URL, and by the reply alone: it was lost,
or an answer with an error status said why. -/
theorem Reply.value_eq_provider_iff {method : Method} {url : String} {reply : Reply}
    {error : ProviderError} :
    reply.value method url = .error (.provider error) ↔
      (∃ report, reply = .lost report ∧
        error = ⟨method.name, url, .null, .text report⟩) ∨
      ∃ status body details, reply = .answer status body ∧ Reply.isErrorStatus status = true ∧
        Reply.errorDetails body = .ok details ∧
        error = ⟨method.name, url, .int status, details⟩ := by
  cases reply with
  | lost report =>
      simp only [Reply.value, Except.error.injEq, Failure.provider.injEq, Reply.lost.injEq,
        exists_eq_left', reduceCtorEq, false_and, exists_false, or_false]
      exact eq_comm
  | broken sort report => simp [Reply.value]
  | answer status body =>
      simp only [Reply.value, reduceCtorEq, false_and, exists_false, false_or, Reply.answer.injEq]
      by_cases hstatus : Reply.isErrorStatus status = true
      · rw [if_pos hstatus, bind_eq_error]
        constructor
        · rintro (hdetails | ⟨details, hdetails, hfailed⟩)
          · exact (Reply.isLocal_errorDetails body error hdetails).elim
          · cases hfailed
            exact ⟨status, body, details, ⟨rfl, rfl⟩, hstatus, hdetails, rfl⟩
        · intro hboth
          obtain ⟨_, _, details, ⟨rfl, rfl⟩, -, hdetails, rfl⟩ := hboth
          exact .inr ⟨details, hdetails, rfl⟩
      · rw [if_neg hstatus]
        constructor
        · intro hfailed
          exact (Reply.isLocal_content url status body error hfailed).elim
        · intro hboth
          obtain ⟨_, _, _, ⟨rfl, rfl⟩, hstatus', -, -⟩ := hboth
          exact (hstatus hstatus').elim

/-! ## Classes of failed requests -/

theorem ProviderError.isLocal_lowerDetails (error : ProviderError) :
    IsLocal error.lowerDetails := by
  unfold ProviderError.lowerDetails
  split <;> simp

theorem ProviderError.isLocal_classOfStatus (status : Value) :
    IsLocal (ProviderError.classOfStatus status) := by
  unfold ProviderError.classOfStatus
  split
  · simp
  · split
    · simp
    · apply (isLocal_compare _ _ _).bind
      intro _ _
      split
      · simp
      · apply (isLocal_compare _ _ _).bind
        intro _ _
        split <;> simp

/-- What goes wrong where a failed request is classified is another failure. -/
theorem ProviderError.isLocal_classify (error : ProviderError) (fragments : List String) :
    IsLocal (error.classify fragments) := by
  unfold ProviderError.classify
  split
  · simp
  · split
    · simp
    · apply error.isLocal_lowerDetails.bind
      intro details _
      split
      · simp
      · unfold ProviderError.classOfDetails
        split
        · simp
        · exact ProviderError.isLocal_classOfStatus _

end VolumePlugin
