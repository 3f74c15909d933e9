/-
# Calls in time

Where the configuration gives a request a positive time and the caller leaves a positive one, or
sets no limit, there is time for the request. A call of a caller that waits and leaves such times
is not given up.
-/
import VolumePlugin.Proofs.Preparation
import VolumePlugin.Service

namespace VolumePlugin

/-- A number above zero. -/
def Value.IsPositive (value : Value) : Prop :=
  ∃ n, value.number? = some n ∧ Number.less (.int 0) n = true

/-- The order of places has no two places before each other. -/
theorem Number.Place.before_asymm {p q : Place} (hbefore : p.before q = true) :
    q.before p = false := by
  unfold Place.before at hbefore ⊢
  by_cases hside : p.side = q.side
  · rw [if_pos hside, decide_eq_true_eq] at hbefore
    rw [if_pos hside.symm, decide_eq_false_iff_not, Int.min_comm]
    omega
  · rw [if_neg hside, decide_eq_true_eq] at hbefore
    rw [if_neg (Ne.symm hside), decide_eq_false_iff_not]
    omega

/-- A number above zero is neither below it nor at most it. -/
theorem Number.not_atMost_zero {n : Number} (hpositive : Number.less (.int 0) n = true) :
    n.less (.int 0) = false ∧ n.atMost (.int 0) = false := by
  have hplaces : ∃ p q, (Number.int 0).place? = some p ∧ n.place? = some q ∧ p.before q = true := by
    unfold Number.less at hpositive
    split at hpositive
    · exact ⟨_, _, ‹_›, ‹_›, hpositive⟩
    · cases hpositive
  obtain ⟨p, q, hp, hq, hbefore⟩ := hplaces
  unfold Number.less Number.atMost
  rw [hp, hq]
  simp only [Number.Place.before_asymm hbefore, hbefore, Bool.not_true, and_self]

/-- Numbers can be compared. -/
theorem Value.compare_of_number (relation : Relation) {left right : Value} {m n : Number}
    (hleft : left.number? = some m) (hright : right.number? = some n) :
    Value.compare relation left right = .ok (relation.ofNumbers m n) := by
  unfold Value.compare
  split
  · cases hleft
  · cases hleft
  · rw [hleft, hright]

/-- The lesser of two positive times is positive, and left as it is. -/
theorem requestTimeout_of_isPositive {left fallback : Value}
    (hleft : left = .null ∨ left.IsPositive) (hfallback : fallback.IsPositive) :
    ∃ timeout, requestTimeout left fallback = .ok timeout ∧ timeout.IsPositive := by
  rcases hleft with rfl | hleft
  · exact ⟨fallback, rfl, hfallback⟩
  · obtain ⟨m, hm, hpositive⟩ := hleft
    obtain ⟨n, hn, hpositive'⟩ := hfallback
    have hnull : left ≠ .null := by
      rintro rfl
      cases hm
    have hzero : Value.number? (.int 0) = some (.int 0) := rfl
    unfold requestTimeout
    split
    · exact (hnull rfl).elim
    · rw [Value.compare_of_number .less hn hm, ok_bind]
      by_cases hless : Relation.less.ofNumbers n m = true
      · rw [if_pos hless]
        dsimp only
        rw [Value.compare_of_number .greater hzero hn, ok_bind]
        have hno : Relation.greater.ofNumbers (.int 0) n = false :=
          (Number.not_atMost_zero hpositive').1
        rw [hno]
        exact ⟨fallback, rfl, n, hn, hpositive'⟩
      · rw [if_neg hless]
        dsimp only
        rw [Value.compare_of_number .greater hzero hm, ok_bind]
        have hno : Relation.greater.ofNumbers (.int 0) m = false :=
          (Number.not_atMost_zero hpositive).1
        rw [hno]
        exact ⟨left, rfl, m, hm, hpositive⟩

/-- There is time for a request where the times are positive. -/
theorem Client.timeFor_of_isPositive {client : Client} (hdefault : client.defaultTimeout.IsPositive)
    (call : String) {left : Value} (hleft : left = .null ∨ left.IsPositive) :
    ∃ timeout, client.timeFor call left = .ok timeout := by
  obtain ⟨timeout, htimeout, m, hm, hpositive⟩ := requestTimeout_of_isPositive hleft hdefault
  have hzero : Value.number? (.int 0) = some (.int 0) := rfl
  have hno : Relation.atMost.ofNumbers m (.int 0) = false := (Number.not_atMost_zero hpositive).2
  apply Exists.intro timeout
  unfold Client.timeFor
  rw [htimeout, ok_bind, Value.compare_of_number .atMost hm hzero, ok_bind, hno]
  rfl

/-! ## Callers that wait -/

/-- A caller that waits all the time, and leaves a positive time or sets no limit. -/
structure CallContext.IsPatient (context : CallContext) : Prop where
  waits : ∀ waits ∈ context.activity.values, waits = true
  time : ∀ left ∈ context.clock.values, left = .null ∨ left.IsPositive

/-- A caller that says nothing else waits without a limit. -/
theorem CallContext.isPatient_default : CallContext.IsPatient {} where
  waits := by decide
  time := fun left hleft => .inl (List.mem_singleton.1 hleft)

/-- The events of a run in which the caller waits, and leaves time for each request. -/
structure Undisturbed (client : Client) (call : String) (transcript : List Event) : Prop where
  waits : ∀ waits, .activity waits ∈ transcript → waits = true
  time : ∀ left, .clock left ∈ transcript → ∃ timeout, client.timeFor call left = .ok timeout

/-- What follows on an event is undisturbed as well. -/
theorem Undisturbed.rest {client : Client} {call : String} {event : Event}
    {transcript : List Event} (hundisturbed : Undisturbed client call (event :: transcript)) :
    Undisturbed client call transcript where
  waits := fun waits hevent => hundisturbed.waits waits (List.mem_cons_of_mem event hevent)
  time := fun left hevent => hundisturbed.time left (List.mem_cons_of_mem event hevent)

/-- A patient caller does not disturb a call. -/
theorem CallContext.IsPatient.undisturbed {context : CallContext} (hpatient : context.IsPatient)
    {client : Client} (hdefault : client.defaultTimeout.IsPositive) (call : String)
    {session after : Session} (hactivity : session.activity = context.activity)
    (hclock : session.clock = context.clock) {transcript : List Event}
    (hleads : session.Leads transcript after) : Undisturbed client call transcript where
  waits := by
    intro waits hevent
    apply hpatient.waits waits
    rw [← hactivity]
    exact hleads.told.1 waits hevent
  time := by
    intro left hevent
    apply Client.timeFor_of_isPositive hdefault call
    apply hpatient.time left
    rw [← hclock]
    exact hleads.told.2 left hevent

end VolumePlugin
