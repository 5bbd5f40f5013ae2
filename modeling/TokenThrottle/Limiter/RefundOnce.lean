/-
  TokenThrottle.Limiter.RefundOnce

  The limiter alone credits a reservation at most once, whatever the order of its
  refunds, on a backend that keeps no record of the reservations and whose refund
  either applies and returns or raises without applying.

  A refund reaches the backend only for a reservation in flight.  Once it has been
  applied there, its reservation stays in flight only under the lock of the call
  that applied it, and that call's commit takes it out.
-/
import TokenThrottle.Limiter.Refunds

namespace TokenThrottle

open Theory (Dict Run Steps guard steps_guard_iff exists_run_of_exec)

/-- The call has reached the backend. -/
def RefundPhase.past {S : Type} : RefundPhase S → Bool
  | .waitingLock | .refreshing => false
  | _ => true

/-- The call is inside the backend's refund. -/
def RefundPhase.inside {S : Type} : RefundPhase S → Bool
  | .inBackend _ _ => true
  | _ => false

/-- The call has applied its refund, and its commit is still to come. -/
def RefundPhase.settles {S : Type} : RefundPhase S → Bool
  | .inBackend _ true | .committing _ .emit false _ => true
  | _ => false

namespace RefundPhase

variable {S : Type} {phase : RefundPhase S}

theorem holds_of_past (h_past : phase.past = true) : phase.holds = true := by
  cases phase with
  | waitingLock => cases h_past
  | refreshing => rfl
  | inBackend => rfl
  | committing => rfl
  | emitting => rfl

theorem past_of_inside (h_inside : phase.inside = true) : phase.past = true := by
  cases phase with
  | inBackend => rfl
  | waitingLock => cases h_inside
  | refreshing => cases h_inside
  | committing => cases h_inside
  | emitting => cases h_inside

theorem past_of_settles (h_settles : phase.settles = true) : phase.past = true := by
  cases phase with
  | waitingLock => cases h_settles
  | refreshing => cases h_settles
  | inBackend => rfl
  | committing => rfl
  | emitting => rfl

end RefundPhase

namespace RefundSystem

variable {S : Type} {s s' : RefundSystem S} {i j : RefundCallId} {call call' : RefundCall S}
  {rid : ReservationId} {label : Label S}

/-! ## What a step does -/

/-- A backend call that has applied its refund returns. -/
def appliesOrRaises (s : RefundSystem S) : Label S → Bool
  | .backendRaises i _ _ | .cancel i _ =>
    match (s.calls.get i).map RefundCall.phase with
    | some (.inBackend _ true) => false
    | _ => true
  | _ => true

/-- The effects a step can have.  `clean` says that the step does not raise out of a
    backend call that has applied its refund. -/
inductive Effect (s : RefundSystem S) (clean : Prop) : RefundSystem S → Prop
  | issued (rid : ReservationId) (h_new : rid ∉ s.issued) :
      Effect s clean { s with
        tables := { s.tables with
          inFlightReservationIds := insert rid s.tables.inFlightReservationIds }
        issued := insert rid s.issued }
  | tabled (t : RefundTables) (h_same : SameLocks s.tables t)
      (h_inFlight : t.inFlightReservationIds ⊆ s.tables.inFlightReservationIds) :
      Effect s clean { s with tables := t }
  | started (i : RefundCallId) (rid : ReservationId) (h_new : s.calls.get i = none) :
      Effect s clean { s with
        tables := (s.tables.referenceRefundLock rid).1
        calls := s.calls.set i ⟨rid, (s.tables.referenceRefundLock rid).2, .waitingLock⟩ }
  | taken (i : RefundCallId) (call : RefundCall S) (h_call : s.calls.get i = some call)
      (h_phase : call.phase = .waitingLock) (h_free : s.tables.holder call.lock = none) :
      Effect s clean
        (let tables := s.tables.rememberRefundState call.reservationId .pending
        { s with
          tables := { tables with
            refundInProgress := insert call.reservationId tables.refundInProgress
            holder := Function.update tables.holder call.lock (some i) }
          calls := s.calls.set i { call with phase := .refreshing } })
  | abandoned (i : RefundCallId) (call : RefundCall S) (h_call : s.calls.get i = some call)
      (h_phase : call.phase = .waitingLock) : Effect s clean (s.abandon i call)
  | left (i : RefundCallId) (call : RefundCall S) (h_call : s.calls.get i = some call)
      (h_holds : call.phase.holds = true) (h_settles : clean → call.phase.settles = false)
      (t : RefundTables) (h_same : SameLocks s.tables t)
      (h_inFlight : t.inFlightReservationIds ⊆ s.tables.inFlightReservationIds) :
      Effect s clean ({ s with tables := t }.leave i call)
  | entered (i : RefundCallId) (call : RefundCall S) (h_call : s.calls.get i = some call)
      (h_phase : call.phase = .refreshing)
      (h_inFlight : call.reservationId ∈ s.tables.inFlightReservationIds)
      (signature : Option S) :
      Effect s clean (s.setPhase i call (.inBackend signature false))
  | applied (i : RefundCallId) (call : RefundCall S) (h_call : s.calls.get i = some call)
      (signature : Option S) (h_phase : call.phase = .inBackend signature false) :
      Effect s clean { s.setPhase i call (.inBackend signature true) with
        applied := Function.update s.applied call.reservationId
          (s.applied call.reservationId + 1) }
  | moved (i : RefundCallId) (call : RefundCall S) (h_call : s.calls.get i = some call)
      (h_past : call.phase.past = true) (phase : RefundPhase S)
      (h_past' : phase.past = true) (h_outside : phase.inside = false)
      (h_settles : clean → call.phase.settles = true → phase.settles = true)
      (t : RefundTables) (h_same : SameLocks s.tables t)
      (h_inFlight : t.inFlightReservationIds ⊆ s.tables.inFlightReservationIds) :
      Effect s clean ({ s with tables := t }.setPhase i call phase)
  | committed (i : RefundCallId) (call : RefundCall S) (h_call : s.calls.get i = some call)
      (signature : Option S) (next : AfterCommit) (interrupted : Bool)
      (h_phase : call.phase = .committing signature next false interrupted) :
      Effect s clean
        (let s' := s.withTables (·.commitRefundState call.reservationId)
        { s'.setPhase i call (.committing signature next true interrupted) with
          committed := insert call.reservationId s.committed })

theorem markRefundStateFailed_inFlight (t : RefundTables) (rid : ReservationId) :
    (t.markRefundStateFailed rid).inFlightReservationIds = t.inFlightReservationIds := by
  unfold RefundTables.markRefundStateFailed
  split
  · rfl
  · rfl

theorem clearRefundStateIfPending_inFlight (t : RefundTables) (rid : ReservationId)
    (forgetInFlight : Bool) :
    (t.clearRefundStateIfPending rid forgetInFlight).inFlightReservationIds ⊆
      t.inFlightReservationIds := by
  unfold RefundTables.clearRefundStateIfPending
  by_cases h_pending : t.refundState rid = some .pending
  · rw [if_pos h_pending]
    cases forgetInFlight with
    | true => exact Finset.erase_subset _ _
    | false => exact subset_refl _
  · rw [if_neg h_pending]
    cases forgetInFlight with
    | true => exact Finset.erase_subset _ _
    | false => exact subset_refl _

theorem SameLocks.trans {t t' t'' : RefundTables} (h : SameLocks t t') (h' : SameLocks t' t'') :
    SameLocks t t'' :=
  ⟨h'.1.trans h.1, h'.2.trans h.2, h'.3.trans h.3, h'.4.trans h.4, h'.5.trans h.5⟩

/-- A refreshing call that fails leaves. -/
theorem handleEarlyFailure_effect {clean : Prop} (h_call : s.calls.get i = some call)
    (h_phase : call.phase = .refreshing) : Effect s clean (s.handleEarlyFailure i call) := by
  refine .left i call h_call ?_ (fun _ => ?_) _
    (clearRefundStateIfPending_sameLocks _ _ _) (clearRefundStateIfPending_inFlight _ _ _)
  · rw [h_phase]
    rfl
  · rw [h_phase]
    rfl

/-- A step that is clean does not raise out of a backend call that has applied its refund. -/
theorem settles_of_clean {before : Option S} {applied : Bool}
    (h_call : s.calls.get i = some call) (h_phase : call.phase = .inBackend before applied)
    (h_label : (∃ failure signature, label = .backendRaises i failure signature) ∨
      ∃ signature, label = .cancel i signature)
    (h_clean : s.appliesOrRaises label = true) : call.phase.settles = false := by
  rw [h_phase]
  cases applied with
  | false => rfl
  | true =>
    obtain ⟨_, _, rfl⟩ | ⟨_, rfl⟩ := h_label
    · simp [appliesOrRaises, h_call, h_phase] at h_clean
    · simp [appliesOrRaises, h_call, h_phase] at h_clean

/-- A waiter that is given its lock takes it, unless its refund is a duplicate. -/
theorem grantLock_effect {clean : Prop} (h_call : s.calls.get i = some call)
    (h_phase : call.phase = .waitingLock) (h_free : s.tables.holder call.lock = none) :
    Effect s clean (s.grantLock i call) := by
  unfold grantLock
  by_cases h_committed : s.tables.refundState call.reservationId = some .committed
  · rw [if_pos h_committed]
    exact .abandoned i call h_call h_phase
  · rw [if_neg h_committed]
    by_cases h_progress : call.reservationId ∈ s.tables.refundInProgress
    · rw [if_pos h_progress]
      exact .abandoned i call h_call h_phase
    · rw [if_neg h_progress]
      exact .taken i call h_call h_phase h_free

section Failures

variable [DecidableEq S]

/-- The outer handler commits or leaves. -/
theorem handleFailure_effect {clean : Prop} (h_call : s.calls.get i = some call)
    (h_past : call.phase.past = true) (h_settles : clean → call.phase.settles = false)
    {t : RefundTables} (h_same : SameLocks s.tables t)
    (h_inFlight : t.inFlightReservationIds ⊆ s.tables.inFlightReservationIds)
    (before after : Option S) :
    Effect s clean ({ s with tables := t }.handleFailure i call before after) := by
  unfold handleFailure
  by_cases h_changed : stateChanged before after = true
  · rw [if_pos h_changed]
    refine .moved i call h_call h_past _ rfl rfl (fun h_clean h => ?_) t h_same h_inFlight
    rw [h_settles h_clean] at h
    cases h
  · rw [if_neg h_changed]
    refine .left i call h_call (RefundPhase.holds_of_past h_past) h_settles _
      (h_same.trans (markRefundStateFailed_sameLocks t _)) ?_
    rw [markRefundStateFailed_inFlight]
    exact h_inFlight

theorem backendRaised_effect {clean : Prop} (h_call : s.calls.get i = some call)
    (h_past : call.phase.past = true) (h_settles : clean → call.phase.settles = false)
    (failure : BackendFailure) (before after : Option S) :
    Effect s clean (s.backendRaised i call failure before after) := by
  have h_moved : Effect s clean (s.setPhase i call (.committing before .handle false false)) := by
    refine .moved i call h_call h_past _ rfl rfl (fun h_clean h => ?_) s.tables (.refl _)
      (subset_refl _)
    rw [h_settles h_clean] at h
    cases h
  have h_handled : Effect s clean (s.handleFailure i call before after) :=
    handleFailure_effect h_call h_past h_settles (.refl _) (subset_refl _) before after
  cases failure with
  | duplicateRefund => exact h_moved
  | unknownReservation forgetInFlight =>
    exact handleFailure_effect h_call h_past h_settles
      (clearRefundStateIfPending_sameLocks _ _ _) (clearRefundStateIfPending_inFlight _ _ _)
      before after
  | exception =>
    show Effect s clean (if stateChanged before after then _ else _)
    by_cases h_changed : stateChanged before after = true
    · rw [if_pos h_changed]
      exact h_moved
    · rw [if_neg h_changed]
      exact h_handled
  | critical => exact h_handled

/-- After its commit a call has nothing left to settle. -/
theorem resumed_effect {clean : Prop} {before : Option S} {next : AfterCommit}
    {interrupted : Bool} (h_call : s.calls.get i = some call)
    (h_phase : call.phase = .committing before next true interrupted) (after : Option S) :
    Effect s clean (s.resumed i call next interrupted before after) := by
  have h_past : call.phase.past = true := by rw [h_phase]; rfl
  have h_settles : call.phase.settles = false := by
    rw [h_phase]
    cases next <;> rfl
  have h_handled : Effect s clean (s.handleFailure i call before after) :=
    handleFailure_effect h_call h_past (fun _ => h_settles) (.refl _) (subset_refl _) before after
  cases next with
  | emit =>
    cases interrupted with
    | true => exact h_handled
    | false =>
      refine .moved i call h_call h_past _ rfl rfl (fun _ h => ?_) s.tables (.refl _)
        (subset_refl _)
      rw [h_settles] at h
      cases h
  | handle => exact h_handled
  | finish =>
    exact .left i call h_call (RefundPhase.holds_of_past h_past) (fun _ => h_settles) s.tables
      (.refl _) (subset_refl _)

/-- The steps of the acquires, and the start of a refund. -/
theorem begin_effect {clean : Prop} (h_step : s.step label = some s')
    (h_label : (∃ rid, label = .issue rid) ∨ (∃ rid, label = .forget rid) ∨
      ∃ i rid, label = .start i rid) : Effect s clean s' := by
  obtain ⟨rid, rfl⟩ | ⟨rid, rfl⟩ | ⟨i, rid, rfl⟩ := h_label
  · simp only [step] at h_step
    split at h_step
    · cases h_step
    · rename_i h_new
      cases h_step
      exact .issued rid h_new
  · cases h_step
    exact .tabled _ ⟨rfl, rfl, rfl, rfl, rfl⟩ (Finset.erase_subset _ _)
  · simp only [step] at h_step
    split at h_step
    · cases h_step
    · rename_i h_new
      cases h_step
      exact .started i rid h_new

/-- The steps of a call that has not reached the backend. -/
theorem enter_effect {clean : Prop} (h_step : s.step label = some s')
    (h_label : label = .grant i ∨ label = .refreshFailed i ∨
      ∃ signature, label = .enterBackend i signature) : Effect s clean s' := by
  obtain rfl | rfl | ⟨signature, rfl⟩ := h_label <;> simp only [step] at h_step <;>
    split at h_step <;> try cases h_step
  · rename_i call h_call
    split at h_step
    · rename_i h_phase
      split at h_step
      · rename_i h_free
        cases h_step
        exact grantLock_effect h_call h_phase h_free
      · cases h_step
    · cases h_step
  · rename_i call h_call
    split at h_step
    · rename_i h_phase
      cases h_step
      exact handleEarlyFailure_effect h_call h_phase
    · cases h_step
  · rename_i call h_call
    split at h_step
    · rename_i h_phase
      split at h_step
      · rename_i h_inFlight
        cases h_step
        exact .entered i call h_call h_phase h_inFlight signature
      · cases h_step
        exact handleEarlyFailure_effect h_call h_phase
    · cases h_step

/-- The steps of a call inside the backend. -/
theorem inBackend_effect (h_step : s.step label = some s')
    (h_label : label = .backendApplies i ∨ label = .backendReturns i ∨
      ∃ failure signature, label = .backendRaises i failure signature) :
    Effect s (s.appliesOrRaises label = true) s' := by
  obtain rfl | rfl | ⟨failure, signature, rfl⟩ := h_label <;> simp only [step] at h_step <;>
    split at h_step <;> try cases h_step
  · rename_i call h_call
    split at h_step
    · rename_i signature h_phase
      cases h_step
      exact .applied i call h_call signature h_phase
    · cases h_step
  · rename_i call h_call
    split at h_step
    · rename_i signature h_phase
      cases h_step
      exact .moved i call h_call (by rw [h_phase]; rfl) _ rfl rfl (fun _ _ => rfl) s.tables
        (.refl _) (subset_refl _)
    · cases h_step
  · rename_i call h_call
    split at h_step
    · rename_i before applied h_phase
      cases h_step
      exact backendRaised_effect h_call (by rw [h_phase]; rfl)
        (settles_of_clean h_call h_phase (.inl ⟨failure, signature, rfl⟩)) failure before
        signature
    · cases h_step

/-- The steps of a call that commits and reports its refund. -/
theorem commit_effect {clean : Prop} (h_step : s.step label = some s')
    (h_label : label = .runCommit i ∨ (∃ signature, label = .resume i signature) ∨
      label = .emitted i ∨ ∃ signature, label = .emitRaises i signature) : Effect s clean s' := by
  obtain rfl | ⟨signature, rfl⟩ | rfl | ⟨signature, rfl⟩ := h_label <;>
    simp only [step] at h_step <;> split at h_step <;> try cases h_step
  · rename_i call h_call
    split at h_step
    · rename_i signature next interrupted h_phase
      cases h_step
      exact .committed i call h_call signature next interrupted h_phase
    · cases h_step
  · rename_i call h_call
    split at h_step
    · rename_i before next interrupted h_phase
      cases h_step
      exact resumed_effect h_call h_phase signature
    · cases h_step
  · rename_i call h_call
    split at h_step
    · rename_i before h_phase
      cases h_step
      exact .left i call h_call (by rw [h_phase]; rfl) (fun _ => by rw [h_phase]; rfl)
        s.tables (.refl _) (subset_refl _)
    · cases h_step
  · rename_i call h_call
    split at h_step
    · rename_i before h_phase
      cases h_step
      exact handleFailure_effect h_call (by rw [h_phase]; rfl) (fun _ => by rw [h_phase]; rfl)
        (.refl _) (subset_refl _) before signature
    · cases h_step

/-- A cancelled call does what an exception in its phase makes it do. -/
theorem cancel_effect {signature : Option S} (h_step : s.step (.cancel i signature) = some s') :
    Effect s (s.appliesOrRaises (.cancel i signature) = true) s' := by
  simp only [step] at h_step
  split at h_step
  · rename_i call h_call
    split at h_step
    · rename_i h_phase
      cases h_step
      exact .abandoned i call h_call h_phase
    · rename_i h_phase
      cases h_step
      exact handleEarlyFailure_effect h_call h_phase
    · rename_i before applied h_phase
      cases h_step
      exact backendRaised_effect h_call (by rw [h_phase]; rfl)
        (settles_of_clean h_call h_phase (.inr ⟨signature, rfl⟩)) .critical before signature
    · -- the commit is shielded from the cancellation
      rename_i before next ran interrupted h_phase
      cases h_step
      refine .moved i call h_call (by rw [h_phase]; rfl) _ rfl rfl (fun _ h => ?_) s.tables
        (.refl _) (subset_refl _)
      rw [h_phase] at h
      cases next <;> cases ran <;> first | rfl | cases h
    · rename_i before h_phase
      cases h_step
      exact handleFailure_effect h_call (by rw [h_phase]; rfl) (fun _ => by rw [h_phase]; rfl)
        (.refl _) (subset_refl _) before signature
  · cases h_step

theorem step_effect (h_step : s.step label = some s') :
    Effect s (s.appliesOrRaises label = true) s' := by
  cases label with
  | issue rid => exact begin_effect h_step (.inl ⟨rid, rfl⟩)
  | forget rid => exact begin_effect h_step (.inr (.inl ⟨rid, rfl⟩))
  | start i rid => exact begin_effect h_step (.inr (.inr ⟨i, rid, rfl⟩))
  | grant i => exact enter_effect h_step (.inl rfl)
  | refreshFailed i => exact enter_effect h_step (.inr (.inl rfl))
  | enterBackend i signature => exact enter_effect h_step (.inr (.inr ⟨signature, rfl⟩))
  | backendApplies i => exact inBackend_effect h_step (.inl rfl)
  | backendReturns i => exact inBackend_effect h_step (.inr (.inl rfl))
  | backendRaises i failure signature =>
    exact inBackend_effect h_step (.inr (.inr ⟨failure, signature, rfl⟩))
  | runCommit i => exact commit_effect h_step (.inl rfl)
  | resume i signature => exact commit_effect h_step (.inr (.inl ⟨signature, rfl⟩))
  | emitted i => exact commit_effect h_step (.inr (.inr (.inl rfl)))
  | emitRaises i signature => exact commit_effect h_step (.inr (.inr (.inr ⟨signature, rfl⟩)))
  | cancel i signature => exact cancel_effect h_step

end Failures

theorem Effect.locksCoherent {clean : Prop} (h_effect : Effect s clean s')
    (h_locks : s.LocksCoherent) : s'.LocksCoherent := by
  cases h_effect with
  | issued rid h_new => exact h_locks.congr ⟨rfl, rfl, rfl, rfl, rfl⟩ rfl
  | tabled t h_same _ => exact h_locks.congr h_same rfl
  | started i rid h_new => exact h_locks.join h_new rid
  | taken i call h_call h_phase h_free =>
    exact h_locks.take h_call (by rw [h_phase]; rfl) h_free
      (rememberRefundState_sameLocks _ _ _) rfl
  | abandoned i call h_call h_phase => exact h_locks.abandon h_call (by rw [h_phase]; rfl)
  | left i call h_call h_holds _ t h_same _ =>
    have h_locks' : { s with tables := t }.LocksCoherent := h_locks.congr h_same rfl
    exact h_locks'.leave h_call h_holds
  | entered i call h_call h_phase _ signature =>
    exact h_locks.setPhase h_call (by rw [h_phase]; rfl)
  | applied i call h_call signature h_phase =>
    have h_applied : (s.setPhase i call (.inBackend signature true)).LocksCoherent :=
      h_locks.setPhase h_call (by rw [h_phase]; rfl)
    exact h_applied.congr (.refl _) rfl
  | moved i call h_call h_past phase h_past' _ _ t h_same _ =>
    have h_locks' : { s with tables := t }.LocksCoherent := h_locks.congr h_same rfl
    refine h_locks'.setPhase h_call ?_
    rw [RefundPhase.holds_of_past h_past, RefundPhase.holds_of_past h_past']
  | committed i call h_call signature next interrupted h_phase =>
    have h_locks' : (s.withTables (·.commitRefundState call.reservationId)).LocksCoherent :=
      h_locks.congr ⟨rfl, rfl, rfl, rfl, rfl⟩ rfl
    have h_committed : ((s.withTables (·.commitRefundState call.reservationId)).setPhase i call
        (.committing signature next true interrupted)).LocksCoherent :=
      h_locks'.setPhase h_call (by rw [h_phase]; rfl)
    exact h_committed.congr (.refl _) rfl

/-! ## At most one credit -/

/-- What ties the credits to the in-flight table and to the calls. -/
structure CreditInv (s : RefundSystem S) : Prop where
  inFlight_issued : ∀ rid ∈ s.tables.inFlightReservationIds, rid ∈ s.issued
  past_issued : ∀ i call, s.calls.get i = some call → call.phase.past = true →
    call.reservationId ∈ s.issued
  committed_issued : ∀ rid ∈ s.committed, rid ∈ s.issued
  applied_issued : ∀ rid, s.applied rid ≠ 0 → rid ∈ s.issued
  applied_le : ∀ rid, s.applied rid ≤ 1
  committed_gone : ∀ rid ∈ s.committed, rid ∉ s.tables.inFlightReservationIds
  /-- An applied refund leaves its reservation in flight only under its own call. -/
  applied_settles : ∀ rid ∈ s.tables.inFlightReservationIds, s.applied rid ≠ 0 →
    ∃ i call, s.calls.get i = some call ∧ call.reservationId = rid ∧ call.phase.settles = true
  inside_open : ∀ i call, s.calls.get i = some call → call.phase.inside = true →
    call.reservationId ∉ s.committed
  inside_fresh : ∀ i call signature, s.calls.get i = some call →
    call.phase = .inBackend signature false → s.applied call.reservationId = 0

theorem creditInv_init (refundedIdsCap : ℕ) :
    (init refundedIdsCap : RefundSystem S).CreditInv where
  inFlight_issued _ h_mem := by cases h_mem
  past_issued _ _ h_call := by cases h_call
  committed_issued _ h_mem := by cases h_mem
  applied_issued _ h_ne := absurd rfl h_ne
  applied_le _ := Nat.zero_le 1
  committed_gone _ h_mem := by cases h_mem
  applied_settles _ h_mem := by cases h_mem
  inside_open _ _ h_call := by cases h_call
  inside_fresh _ _ _ h_call := by cases h_call

/-- A move of one call that applies and commits nothing. -/
theorem CreditInv.move (h_inv : s.CreditInv) (i : RefundCallId)
    (h_others : ∀ j, j ≠ i → s'.calls.get j = s.calls.get j)
    (h_inFlight : s'.tables.inFlightReservationIds ⊆ s.tables.inFlightReservationIds)
    (h_issued : s'.issued = s.issued) (h_applied : s'.applied = s.applied)
    (h_committed : s'.committed = s.committed)
    (h_settles : ∀ call, s.calls.get i = some call → call.phase.settles = true →
      ∃ call', s'.calls.get i = some call' ∧ call'.reservationId = call.reservationId ∧
        call'.phase.settles = true)
    (h_past : ∀ call', s'.calls.get i = some call' → call'.phase.past = true →
      call'.reservationId ∈ s.issued)
    (h_inside : ∀ call', s'.calls.get i = some call' → call'.phase.inside = true →
      call'.reservationId ∉ s.committed ∧ s.applied call'.reservationId = 0) :
    s'.CreditInv := by
  refine ⟨fun rid h_mem => ?_, fun j call h_call h_phase => ?_, ?_, ?_, ?_, fun rid h_mem => ?_,
    fun rid h_mem h_ne => ?_, fun j call h_call h_phase => ?_,
    fun j call signature h_call h_phase => ?_⟩
  · rw [h_issued]
    exact h_inv.inFlight_issued rid (h_inFlight h_mem)
  · rw [h_issued]
    by_cases h_eq : j = i
    · subst h_eq
      exact h_past call h_call h_phase
    · rw [h_others j h_eq] at h_call
      exact h_inv.past_issued j call h_call h_phase
  · rw [h_issued, h_committed]
    exact h_inv.committed_issued
  · rw [h_issued, h_applied]
    exact h_inv.applied_issued
  · rw [h_applied]
    exact h_inv.applied_le
  · rw [h_committed] at h_mem
    exact fun h_in => h_inv.committed_gone rid h_mem (h_inFlight h_in)
  · rw [h_applied] at h_ne
    obtain ⟨j, call, h_call, h_rid, h_phase⟩ := h_inv.applied_settles rid (h_inFlight h_mem) h_ne
    by_cases h_eq : j = i
    · subst h_eq
      obtain ⟨call', h_call', h_rid', h_phase'⟩ := h_settles call h_call h_phase
      exact ⟨j, call', h_call', h_rid'.trans h_rid, h_phase'⟩
    · exact ⟨j, call, (h_others j h_eq).trans h_call, h_rid, h_phase⟩
  · rw [h_committed]
    by_cases h_eq : j = i
    · subst h_eq
      exact (h_inside call h_call h_phase).1
    · rw [h_others j h_eq] at h_call
      exact h_inv.inside_open j call h_call h_phase
  · rw [h_applied]
    by_cases h_eq : j = i
    · subst h_eq
      exact (h_inside call h_call (by rw [h_phase]; rfl)).2
    · rw [h_others j h_eq] at h_call
      exact h_inv.inside_fresh j call signature h_call h_phase

theorem releaseRefundLockReference_inFlight (t : RefundTables) (rid : ReservationId)
    (lock : LockId) :
    (t.releaseRefundLockReference rid lock).inFlightReservationIds = t.inFlightReservationIds := by
  unfold RefundTables.releaseRefundLockReference
  dsimp only
  split
  · split
    · rfl
    · rfl
  · rfl

theorem referenceRefundLock_inFlight (t : RefundTables) (rid : ReservationId) :
    (t.referenceRefundLock rid).1.inFlightReservationIds = t.inFlightReservationIds := by
  unfold RefundTables.referenceRefundLock
  cases t.refundLocks.get rid with
  | none => rfl
  | some lock => rfl

/-- A call that goes on in a phase where it is not inside the backend. -/
theorem CreditInv.goOn (h_inv : s.CreditInv) (h_call : s.calls.get i = some call)
    {t : RefundTables} {phase : RefundPhase S}
    (h_inFlight : t.inFlightReservationIds ⊆ s.tables.inFlightReservationIds)
    (h_past : phase.past = true → call.phase.past = true) (h_outside : phase.inside = false)
    (h_settles : call.phase.settles = true → phase.settles = true) :
    { s with tables := t, calls := s.calls.set i { call with phase := phase } }.CreditInv := by
  refine h_inv.move i (fun j h_ne => Dict.get_set_of_ne h_ne) h_inFlight rfl rfl rfl
    (fun c h_c h_phase => ?_) (fun c h_c h_phase => ?_) (fun c h_c h_phase => ?_)
  · rw [h_call] at h_c
    cases h_c
    exact ⟨_, Dict.get_set_self _ _ _, rfl, h_settles h_phase⟩
  · have h_c : (s.calls.set i { call with phase := phase }).get i = some c := h_c
    rw [Dict.get_set_self] at h_c
    cases h_c
    exact h_inv.past_issued i call h_call (h_past h_phase)
  · have h_c : (s.calls.set i { call with phase := phase }).get i = some c := h_c
    rw [Dict.get_set_self] at h_c
    cases h_c
    rw [h_outside] at h_phase
    cases h_phase

/-- A call that has nothing to settle ends. -/
theorem CreditInv.depart (h_inv : s.CreditInv) (h_call : s.calls.get i = some call)
    (h_settles : call.phase.settles = false) {t : RefundTables}
    (h_inFlight : t.inFlightReservationIds ⊆ s.tables.inFlightReservationIds) :
    { s with tables := t, calls := s.calls.pop i }.CreditInv := by
  have h_gone : (s.calls.pop i).get i = none := Dict.get_pop_self _ _
  refine h_inv.move i (fun j h_ne => Dict.get_pop_of_ne h_ne) h_inFlight rfl rfl rfl
    (fun c h_c h_phase => ?_) (fun c h_c _ => ?_) (fun c h_c _ => ?_)
  · rw [h_call] at h_c
    cases h_c
    rw [h_settles] at h_phase
    cases h_phase
  · exact absurd (h_gone.symm.trans h_c) nofun
  · exact absurd (h_gone.symm.trans h_c) nofun

/-- An acquire delivers a reservation that is new. -/
theorem CreditInv.issue (h_inv : s.CreditInv) (h_new : rid ∉ s.issued) :
    { s with
      tables := { s.tables with
        inFlightReservationIds := insert rid s.tables.inFlightReservationIds }
      issued := insert rid s.issued }.CreditInv := by
  refine ⟨fun rid' h_mem => ?_, fun j call h_call h_phase => ?_, fun rid' h_mem => ?_,
    fun rid' h_ne => ?_, h_inv.applied_le, fun rid' h_mem h_in => ?_, fun rid' h_mem h_ne => ?_,
    h_inv.inside_open, h_inv.inside_fresh⟩
  · exact (Finset.mem_insert.mp h_mem).elim (fun h_eq => h_eq ▸ Finset.mem_insert_self _ _)
      fun h_old => Finset.mem_insert_of_mem (h_inv.inFlight_issued rid' h_old)
  · exact Finset.mem_insert_of_mem (h_inv.past_issued j call h_call h_phase)
  · exact Finset.mem_insert_of_mem (h_inv.committed_issued rid' h_mem)
  · exact Finset.mem_insert_of_mem (h_inv.applied_issued rid' h_ne)
  · rcases Finset.mem_insert.mp h_in with h_eq | h_old
    · exact h_new (h_eq ▸ h_inv.committed_issued rid' h_mem)
    · exact h_inv.committed_gone rid' h_mem h_old
  · rcases Finset.mem_insert.mp h_mem with h_eq | h_old
    · exact absurd (h_inv.applied_issued rid' h_ne) (h_eq ▸ h_new)
    · exact h_inv.applied_settles rid' h_old h_ne

/-- A refund starts on any id. -/
theorem CreditInv.start (h_inv : s.CreditInv) (h_new : s.calls.get i = none)
    (rid : ReservationId) :
    { s with
      tables := (s.tables.referenceRefundLock rid).1
      calls := s.calls.set i ⟨rid, (s.tables.referenceRefundLock rid).2, .waitingLock⟩ }.CreditInv := by
  have h_get : ∀ c, (s.calls.set i ⟨rid, (s.tables.referenceRefundLock rid).2,
      .waitingLock⟩).get i = some c → c.phase = .waitingLock := by
    intro c h_c
    rw [Dict.get_set_self] at h_c
    cases h_c
    rfl
  refine h_inv.move i (fun j h_ne => Dict.get_set_of_ne h_ne) ?_ rfl rfl rfl
    (fun c h_c _ => ?_) (fun c h_c h_phase => ?_) (fun c h_c h_phase => ?_)
  · show (s.tables.referenceRefundLock rid).1.inFlightReservationIds ⊆ _
    rw [referenceRefundLock_inFlight]
  · rw [h_new] at h_c
    cases h_c
  · rw [h_get c h_c] at h_phase
    cases h_phase
  · rw [h_get c h_c] at h_phase
    cases h_phase

/-- A call enters the backend with a reservation that is in flight. -/
theorem CreditInv.enter (h_inv : s.CreditInv) (h_locks : s.LocksCoherent)
    (h_call : s.calls.get i = some call) (h_phase : call.phase = .refreshing)
    (h_inFlight : call.reservationId ∈ s.tables.inFlightReservationIds) (signature : Option S) :
    (s.setPhase i call (.inBackend signature false)).CreditInv := by
  -- an applied refund of this reservation would be settled by another holder of its lock
  have h_fresh : s.applied call.reservationId = 0 := by
    by_contra h_ne
    obtain ⟨j, c, h_c, h_rid, h_c_phase⟩ := h_inv.applied_settles _ h_inFlight h_ne
    have h_past := RefundPhase.past_of_settles h_c_phase
    have h_eq := h_locks.exclusive h_call h_c h_rid.symm (by rw [h_phase]; rfl)
      (RefundPhase.holds_of_past h_past)
    rw [← h_eq, h_call] at h_c
    cases h_c
    rw [h_phase] at h_past
    cases h_past
  have h_get : ∀ c, (s.calls.set i { call with phase := .inBackend signature false }).get i =
      some c → c.reservationId = call.reservationId := by
    intro c h_c
    rw [Dict.get_set_self] at h_c
    cases h_c
    rfl
  refine h_inv.move i (fun j h_ne => Dict.get_set_of_ne h_ne) (subset_refl _) rfl rfl rfl
    (fun c h_c h_c_phase => ?_) (fun c h_c _ => ?_) (fun c h_c _ => ?_)
  · rw [h_call] at h_c
    cases h_c
    rw [h_phase] at h_c_phase
    cases h_c_phase
  · rw [h_get c h_c]
    exact h_inv.inFlight_issued _ h_inFlight
  · rw [h_get c h_c]
    exact ⟨fun h_mem => h_inv.committed_gone _ h_mem h_inFlight, h_fresh⟩

/-- The backend applies a refund: the call holds the lock of its reservation, and nothing
    has been applied for it yet. -/
theorem CreditInv.apply {signature : Option S} (h_inv : s.CreditInv) (h_locks : s.LocksCoherent)
    (h_call : s.calls.get i = some call) (h_phase : call.phase = .inBackend signature false) :
    { s.setPhase i call (.inBackend signature true) with
      applied := Function.update s.applied call.reservationId
        (s.applied call.reservationId + 1) }.CreditInv := by
  have h_past : call.phase.past = true := by rw [h_phase]; rfl
  have h_get : ∀ j c, (s.calls.set i { call with phase := .inBackend signature true }).get j =
      some c → j = i ∧ c = { call with phase := .inBackend signature true } ∨
        j ≠ i ∧ s.calls.get j = some c := fun j c => Dict.get_set_cases
  have h_other : ∀ j c, j ≠ i → s.calls.get j = some c → c.phase.holds = true →
      c.reservationId ≠ call.reservationId := fun j c h_ne h_c h_holds h_rid =>
    h_ne (h_locks.exclusive h_c h_call h_rid h_holds (RefundPhase.holds_of_past h_past))
  refine ⟨h_inv.inFlight_issued, fun j c h_c h_c_past => ?_, h_inv.committed_issued,
    fun rid h_ne => ?_, fun rid => ?_, h_inv.committed_gone, fun rid h_mem h_ne => ?_,
    fun j c h_c h_inside => ?_, fun j c signature' h_c h_c_phase => ?_⟩
  · rcases h_get j c h_c with ⟨_, rfl⟩ | ⟨_, h_c⟩
    · exact h_inv.past_issued i call h_call h_past
    · exact h_inv.past_issued j c h_c h_c_past
  · have h_ne : Function.update s.applied call.reservationId _ rid ≠ 0 := h_ne
    rw [Function.update_apply] at h_ne
    by_cases h_eq : rid = call.reservationId
    · rw [h_eq]
      exact h_inv.past_issued i call h_call h_past
    · rw [if_neg h_eq] at h_ne
      exact h_inv.applied_issued rid h_ne
  · show Function.update s.applied call.reservationId _ rid ≤ 1
    rw [Function.update_apply, h_inv.inside_fresh i call signature h_call h_phase]
    split
    · exact le_refl 1
    · exact h_inv.applied_le rid
  · by_cases h_eq : rid = call.reservationId
    · exact ⟨i, _, Dict.get_set_self _ _ _, h_eq.symm, rfl⟩
    · have h_ne : Function.update s.applied call.reservationId _ rid ≠ 0 := h_ne
      rw [Function.update_apply, if_neg h_eq] at h_ne
      obtain ⟨j, c, h_c, h_rid, h_c_phase⟩ := h_inv.applied_settles rid h_mem h_ne
      have h_j : j ≠ i := fun h_j => by
        rw [h_j, h_call] at h_c
        cases h_c
        exact h_eq h_rid.symm
      exact ⟨j, c, (Dict.get_set_of_ne h_j).trans h_c, h_rid, h_c_phase⟩
  · rcases h_get j c h_c with ⟨_, rfl⟩ | ⟨_, h_c⟩
    · exact h_inv.inside_open i call h_call (by rw [h_phase]; rfl)
    · exact h_inv.inside_open j c h_c h_inside
  · rcases h_get j c h_c with ⟨_, rfl⟩ | ⟨h_j, h_c⟩
    · cases h_c_phase
    · show Function.update s.applied call.reservationId _ c.reservationId = 0
      rw [Function.update_apply, if_neg (h_other j c h_j h_c (by rw [h_c_phase]; rfl))]
      exact h_inv.inside_fresh j c signature' h_c h_c_phase

/-- A commit takes the reservation out of flight. -/
theorem CreditInv.commit {signature : Option S} {next : AfterCommit} {interrupted : Bool}
    (h_inv : s.CreditInv) (h_locks : s.LocksCoherent) (h_call : s.calls.get i = some call)
    (h_phase : call.phase = .committing signature next false interrupted) :
    { (s.withTables (·.commitRefundState call.reservationId)).setPhase i call
        (.committing signature next true interrupted) with
      committed := insert call.reservationId s.committed }.CreditInv := by
  have h_past : call.phase.past = true := by rw [h_phase]; rfl
  have h_get : ∀ j c, (s.calls.set i
      { call with phase := .committing signature next true interrupted }).get j = some c →
      j = i ∧ c = { call with phase := .committing signature next true interrupted } ∨
        j ≠ i ∧ s.calls.get j = some c := fun j c => Dict.get_set_cases
  refine ⟨fun rid h_mem => h_inv.inFlight_issued rid (Finset.mem_of_mem_erase h_mem),
    fun j c h_c h_c_past => ?_, fun rid h_mem => ?_, h_inv.applied_issued, h_inv.applied_le,
    fun rid h_mem h_in => ?_, fun rid h_mem h_ne => ?_, fun j c h_c h_inside => ?_,
    fun j c signature' h_c h_c_phase => ?_⟩
  · rcases h_get j c h_c with ⟨_, rfl⟩ | ⟨_, h_c⟩
    · exact h_inv.past_issued i call h_call h_past
    · exact h_inv.past_issued j c h_c h_c_past
  · rcases Finset.mem_insert.mp h_mem with h_eq | h_old
    · rw [h_eq]
      exact h_inv.past_issued i call h_call h_past
    · exact h_inv.committed_issued rid h_old
  · have h_in : rid ∈ s.tables.inFlightReservationIds.erase call.reservationId := h_in
    rw [Finset.mem_erase] at h_in
    rcases Finset.mem_insert.mp h_mem with h_eq | h_old
    · exact h_in.1 h_eq
    · exact h_inv.committed_gone rid h_old h_in.2
  · have h_mem : rid ∈ s.tables.inFlightReservationIds.erase call.reservationId := h_mem
    rw [Finset.mem_erase] at h_mem
    obtain ⟨j, c, h_c, h_rid, h_c_phase⟩ := h_inv.applied_settles rid h_mem.2 h_ne
    have h_j : j ≠ i := fun h_j => by
      rw [h_j, h_call] at h_c
      cases h_c
      exact h_mem.1 h_rid.symm
    exact ⟨j, c, (Dict.get_set_of_ne h_j).trans h_c, h_rid, h_c_phase⟩
  · rcases h_get j c h_c with ⟨_, rfl⟩ | ⟨h_j, h_c⟩
    · cases h_inside
    · intro h_mem
      rcases Finset.mem_insert.mp h_mem with h_eq | h_old
      · exact h_j (h_locks.exclusive h_c h_call h_eq
          (RefundPhase.holds_of_past (RefundPhase.past_of_inside h_inside))
          (RefundPhase.holds_of_past h_past))
      · exact h_inv.inside_open j c h_c h_inside h_old
  · rcases h_get j c h_c with ⟨_, rfl⟩ | ⟨_, h_c⟩
    · cases h_c_phase
    · exact h_inv.inside_fresh j c signature' h_c h_c_phase

theorem Effect.creditInv {clean : Prop} (h_clean : clean) (h_effect : Effect s clean s')
    (h_locks : s.LocksCoherent) (h_inv : s.CreditInv) : s'.CreditInv := by
  cases h_effect with
  | issued rid h_new => exact h_inv.issue h_new
  | tabled t _ h_inFlight =>
    exact ⟨fun rid h_mem => h_inv.inFlight_issued rid (h_inFlight h_mem), h_inv.past_issued,
      h_inv.committed_issued, h_inv.applied_issued, h_inv.applied_le,
      fun rid h_mem h_in => h_inv.committed_gone rid h_mem (h_inFlight h_in),
      fun rid h_mem => h_inv.applied_settles rid (h_inFlight h_mem), h_inv.inside_open,
      h_inv.inside_fresh⟩
  | started i rid h_new => exact h_inv.start h_new rid
  | taken i call h_call h_phase _ =>
    exact h_inv.goOn h_call (subset_refl _) nofun rfl (fun h => by rw [h_phase] at h; cases h)
  | abandoned i call h_call h_phase =>
    refine h_inv.depart h_call (by rw [h_phase]; rfl) ?_
    rw [releaseRefundLockReference_inFlight]
  | left i call h_call _ h_settles t _ h_inFlight =>
    refine h_inv.depart h_call (h_settles h_clean) ?_
    rw [releaseRefundLockReference_inFlight]
    exact h_inFlight
  | entered i call h_call h_phase h_inFlight signature =>
    exact h_inv.enter h_locks h_call h_phase h_inFlight signature
  | applied i call h_call signature h_phase => exact h_inv.apply h_locks h_call h_phase
  | moved i call h_call h_past phase _ h_outside h_settles t _ h_inFlight =>
    exact h_inv.goOn h_call h_inFlight (fun _ => h_past) h_outside (h_settles h_clean)
  | committed i call h_call signature next interrupted h_phase =>
    exact h_inv.commit h_locks h_call h_phase

/-- The invariant of every run. -/
structure Sound (s : RefundSystem S) : Prop where
  locks : s.LocksCoherent
  credit : s.CreditInv

/-! ## Runs -/

section Runs

variable [DecidableEq S] {labels labels' : List (Label S)}

/-- The steps of a run on a backend that applies and returns or raises. -/
def CleanStep (s : RefundSystem S) (label : Label S) (s' : RefundSystem S) : Prop :=
  Steps (guard step appliesOrRaises) s label s'

/-- A committed refund stays committed. -/
theorem step_committed_subset (h_step : s.step label = some s') : s.committed ⊆ s'.committed := by
  cases step_effect h_step with
  | committed i call h_call signature next interrupted h_phase => exact Finset.subset_insert _ _
  | issued => exact subset_refl _
  | tabled => exact subset_refl _
  | started => exact subset_refl _
  | taken => exact subset_refl _
  | abandoned => exact subset_refl _
  | left => exact subset_refl _
  | entered => exact subset_refl _
  | applied => exact subset_refl _
  | moved => exact subset_refl _

theorem CleanStep.sound (h_step : CleanStep s label s')
    (h_inv : s.Sound) : s'.Sound := by
  obtain ⟨h_clean, h_step⟩ := steps_guard_iff.mp h_step
  have h_effect := step_effect h_step
  exact ⟨h_effect.locksCoherent h_inv.1, h_effect.creditInv h_clean h_inv.1 h_inv.2⟩

theorem CleanStep.run_sound (h_run : Run CleanStep s labels s')
    (h_inv : s.Sound) : s'.Sound :=
  h_run.invariant (fun _ _ _ h_inv h_step => CleanStep.sound h_step h_inv) h_inv

/-- The backend is not asked again for a committed refund. -/
theorem step_applied_of_committed (h_step : s.step label = some s') (h_inv : s.CreditInv)
    (h_rid : rid ∈ s.committed) : s'.applied rid = s.applied rid := by
  cases step_effect h_step with
  | applied i call h_call signature h_phase =>
    have h_ne : rid ≠ call.reservationId := fun h_eq =>
      h_inv.inside_open i call h_call (by rw [h_phase]; rfl) (h_eq ▸ h_rid)
    show Function.update s.applied call.reservationId _ rid = s.applied rid
    rw [Function.update_apply, if_neg h_ne]
  | committed => rfl
  | issued => rfl
  | tabled => rfl
  | started => rfl
  | taken => rfl
  | abandoned => rfl
  | left => rfl
  | entered => rfl
  | moved => rfl

theorem run_committed (h_run : Run CleanStep s labels s')
    (h_inv : s.Sound) (h_rid : rid ∈ s.committed) :
    rid ∈ s'.committed ∧ s'.applied rid = s.applied rid := by
  induction h_run with
  | nil => exact ⟨h_rid, rfl⟩
  | cons h_step _ ih =>
    have h_some := (steps_guard_iff.mp h_step).2
    obtain ⟨h_rid', h_applied⟩ :=
      ih (h_step.sound h_inv) (step_committed_subset h_some h_rid)
    exact ⟨h_rid', h_applied.trans (step_applied_of_committed h_some h_inv.2 h_rid)⟩

/-- What the limiter promises about the refunds of its reservations. -/
structure CreditsOnce (s : RefundSystem S) : Prop where
  applied_le : ∀ rid, s.applied rid ≤ 1
  one_inside : ∀ i j call call', s.calls.get i = some call → s.calls.get j = some call' →
    call.reservationId = call'.reservationId → call.phase.inside = true →
    call'.phase.inside = true → i = j
  /-- Whatever happens later, a committed refund is not applied again, its reservation
      is not in flight and no call on it is inside the backend. -/
  committed_closed : ∀ rid ∈ s.committed, ∀ labels s', Run CleanStep s labels s' →
    rid ∈ s'.committed ∧ s'.applied rid = s.applied rid ∧
      rid ∉ s'.tables.inFlightReservationIds ∧
      ∀ i call, s'.calls.get i = some call → call.reservationId = rid →
        call.phase.inside = false
  lock_exists : ∀ rid, (∃ lock, s.tables.refundLocks.get rid = some lock) ↔
    ∃ i call, s.calls.get i = some call ∧ call.reservationId = rid
  refcount : ∀ rid, s.tables.refundLockRefcounts.get rid =
    if s.callsOn rid = ∅ then none else some (s.callsOn rid).card
  one_lock : ∀ i j call call', s.calls.get i = some call → s.calls.get j = some call' →
    call.reservationId = call'.reservationId → call.lock = call'.lock

/-- Every run of refunds credits each reservation at most once. -/
theorem run_creditsOnce {refundedIdsCap : ℕ} (h_run : Run CleanStep (init refundedIdsCap) labels s) :
    s.CreditsOnce := by
  obtain ⟨h_locks, h_inv⟩ :=
    CleanStep.run_sound h_run ⟨locksCoherent_init _, creditInv_init _⟩
  refine ⟨h_inv.applied_le, fun i j call call' h_i h_j h_rid h_in h_in' => ?_,
    fun rid h_rid labels' s' h_later => ?_, fun rid => ?_, h_locks.refcount,
    fun i j call call' h_i h_j h_rid => ?_⟩
  · exact h_locks.exclusive h_i h_j h_rid
      (RefundPhase.holds_of_past (RefundPhase.past_of_inside h_in))
      (RefundPhase.holds_of_past (RefundPhase.past_of_inside h_in'))
  · obtain ⟨h_rid', h_applied⟩ := run_committed h_later ⟨h_locks, h_inv⟩ h_rid
    have h_inv' := (CleanStep.run_sound h_later ⟨h_locks, h_inv⟩).2
    refine ⟨h_rid', h_applied, h_inv'.committed_gone rid h_rid', fun i call h_call h_eq => ?_⟩
    by_contra h_inside
    exact h_inv'.inside_open i call h_call (by simpa using h_inside) (h_eq ▸ h_rid')
  · rw [← Option.isSome_iff_exists, Option.isSome_iff_ne_none, ne_eq, h_locks.locked,
      ← ne_eq, ← Finset.nonempty_iff_ne_empty]
    constructor
    · rintro ⟨i, h_on⟩
      exact ⟨i, mem_callsOn.mp h_on⟩
    · rintro ⟨i, h_call⟩
      exact ⟨i, mem_callsOn.mpr h_call⟩
  · have h_lock := h_locks.lock_of_call i call h_i
    have h_lock' := h_locks.lock_of_call j call' h_j
    rw [h_rid, h_lock'] at h_lock
    exact (Option.some.inj h_lock).symm

/-- Two refunds of `a` race while the refund of `b` evicts the entry of `a` from a table
    of one entry: the second refund of `a` finds no entry, and is refused as unknown. -/
theorem run_creditsOnce_evicted :
    ∃ s : RefundSystem ℕ, s.CreditsOnce ∧
      s.tables.refundState "a" = none ∧ "a" ∈ s.committed ∧ s.applied "a" = 1 := by
  obtain ⟨s, h_run, h_end⟩ :
      ∃ s : RefundSystem ℕ, Run CleanStep (init 1)
        [.issue "a", .issue "b", .start 0 "a", .start 1 "a", .grant 0, .enterBackend 0 none,
          .backendApplies 0, .backendReturns 0, .cancel 0 none, .runCommit 0, .resume 0 none,
          .start 2 "b", .grant 2, .enterBackend 2 none, .backendApplies 2, .backendReturns 2,
          .runCommit 2, .resume 2 none, .emitted 2, .grant 1, .enterBackend 1 none] s ∧
        (s.tables.refundState "a" = none ∧ "a" ∈ s.committed ∧ s.applied "a" = 1) :=
    exists_run_of_exec (by decide +kernel)
  exact ⟨s, run_creditsOnce h_run, h_end⟩

end Runs

end RefundSystem

end TokenThrottle
