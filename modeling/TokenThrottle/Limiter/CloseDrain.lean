/-
  TokenThrottle.Limiter.CloseDrain

  The in-flight cap and the drain of a close, over every run of the limiter.

  The drained event may stay cleared when nothing is left to wait for, but it is
  never set while something is.  Once a close has started no acquire becomes
  pending, so a limiter that has been seen drained stays drained.
-/
import TokenThrottle.Limiter.AcquireStanding

namespace TokenThrottle

open Theory (Dict Run Steps exists_run_of_exec)

namespace AcquireTables

variable {t t' t'' : AcquireTables} {rid : ReservationId}

/-- Nothing is pending or being delivered. -/
def Quiet (t : AcquireTables) : Prop :=
  t.pendingAcquireReservations = ∅ ∧ t.acquireDeliveryCleanupReservations = ∅

/-- The cap holds, and the event is set only when the limiter is quiet. -/
structure Coherent (t : AcquireTables) : Prop where
  cap : t.inFlightReservationIds.card + t.pendingAcquireReservations.card ≤
    t.maxInFlightReservations
  drained : t.pendingDrained = true → t.Quiet

/-- Entries only go, and the event is set only when nothing is left. -/
structure Shrinks (t t' : AcquireTables) : Prop where
  pending : t'.pendingAcquireReservations ⊆ t.pendingAcquireReservations
  delivery : t'.acquireDeliveryCleanupReservations ⊆ t.acquireDeliveryCleanupReservations
  inFlight : t'.inFlightReservationIds ⊆ t.inFlightReservationIds
  max : t'.maxInFlightReservations = t.maxInFlightReservations
  closing : t'.closing = t.closing
  closed : t'.closed = t.closed
  closeDrained : t'.closeDrained = t.closeDrained
  drained : t'.pendingDrained = true → t.pendingDrained = true ∨ t'.Quiet

theorem quiet_of_refreshed (h_drained : t.refreshPendingDrained.pendingDrained = true) :
    t.refreshPendingDrained.Quiet := by
  simpa [refreshPendingDrained, Quiet] using h_drained

theorem Quiet.mono (h_quiet : t.Quiet)
    (h_pending : t'.pendingAcquireReservations ⊆ t.pendingAcquireReservations)
    (h_delivery : t'.acquireDeliveryCleanupReservations ⊆ t.acquireDeliveryCleanupReservations) :
    t'.Quiet :=
  ⟨Finset.subset_empty.mp (h_quiet.1 ▸ h_pending), Finset.subset_empty.mp (h_quiet.2 ▸ h_delivery)⟩

namespace Shrinks

theorem refl (t : AcquireTables) : Shrinks t t :=
  ⟨subset_refl _, subset_refl _, subset_refl _, rfl, rfl, rfl, rfl, .inl⟩

theorem trans (h : Shrinks t t') (h' : Shrinks t' t'') : Shrinks t t'' where
  pending := h'.pending.trans h.pending
  delivery := h'.delivery.trans h.delivery
  inFlight := h'.inFlight.trans h.inFlight
  max := h'.max.trans h.max
  closing := h'.closing.trans h.closing
  closed := h'.closed.trans h.closed
  closeDrained := h'.closeDrained.trans h.closeDrained
  drained h_drained := by
    rcases h'.drained h_drained with h_mid | h_quiet
    · exact (h.drained h_mid).imp id fun h_quiet => h_quiet.mono h'.pending h'.delivery
    · exact .inr h_quiet

theorem rollback (t : AcquireTables) (rid : ReservationId) :
    Shrinks t (t.rollbackPendingAcquire rid) :=
  ⟨Finset.erase_subset _ _, subset_refl _, subset_refl _, rfl, rfl, rfl, rfl,
    fun h_drained => .inr (quiet_of_refreshed h_drained)⟩

theorem endDelivery (t : AcquireTables) (rid : ReservationId) :
    Shrinks t (t.endAcquireDeliveryCleanup rid) :=
  ⟨subset_refl _, Finset.erase_subset _ _, subset_refl _, rfl, rfl, rfl, rfl,
    fun h_drained => .inr (quiet_of_refreshed h_drained)⟩

theorem forget (t : AcquireTables) (rid : ReservationId) :
    Shrinks t (t.forgetInFlightReservation rid) :=
  ⟨Finset.erase_subset _ _, Finset.erase_subset _ _, Finset.erase_subset _ _, rfl, rfl, rfl, rfl,
    .inl⟩

theorem clear (t : AcquireTables) : Shrinks t t.clearRetainedStateAfterClose :=
  ⟨Finset.empty_subset _, Finset.empty_subset _, Finset.empty_subset _, rfl, rfl, rfl, rfl,
    fun _ => .inr ⟨rfl, rfl⟩⟩

theorem coherent (h : Shrinks t t') (h_coherent : t.Coherent) : t'.Coherent where
  cap := by
    have h_inFlight := Finset.card_le_card h.inFlight
    have h_pending := Finset.card_le_card h.pending
    have h_cap := h_coherent.cap
    rw [h.max]
    omega
  drained h_drained := by
    rcases h.drained h_drained with h_old | h_quiet
    · exact (h_coherent.drained h_old).mono h.pending h.delivery
    · exact h_quiet

theorem closedOrClosing (h : Shrinks t t') : t'.closedOrClosing = t.closedOrClosing := by
  unfold AcquireTables.closedOrClosing
  rw [h.closed, h.closing]

end Shrinks

namespace Coherent

theorem init (maxInFlightReservations : ℕ) : (init maxInFlightReservations).Coherent where
  cap := Nat.zero_le _
  drained _ := ⟨rfl, rfl⟩

/-- A pending reservation moves to the in-flight table. -/
theorem finalize (h_coherent : t.Coherent) (h_rid : rid ∈ t.pendingAcquireReservations) :
    (t.finalizePendingAcquire rid).Coherent where
  cap := by
    have h_insert := Finset.card_insert_le rid t.inFlightReservationIds
    have h_erase := Finset.card_erase_add_one h_rid
    have h_cap := h_coherent.cap
    show (insert rid t.inFlightReservationIds).card +
      (t.pendingAcquireReservations.erase rid).card ≤ t.maxInFlightReservations
    omega
  drained := quiet_of_refreshed

theorem beginDelivery (h_coherent : t.Coherent) (rid : ReservationId) :
    (t.beginAcquireDeliveryCleanup rid).Coherent :=
  ⟨h_coherent.cap, nofun⟩

/-- A reservation takes a slot only when the cap check found one. -/
theorem card_lt_of_slot (h_slot : t.inFlightFull rid = false)
    (h_inFlight : rid ∉ t.inFlightReservationIds) (h_pending : rid ∉ t.pendingAcquireReservations) :
    t.inFlightReservationIds.card + t.pendingAcquireReservations.card <
      t.maxInFlightReservations := by
  have h_slot := of_decide_eq_false h_slot
  exact not_le.mp fun h_full => h_slot ⟨h_inFlight, h_pending, h_full⟩

theorem beginPending (h_coherent : t.Coherent) (h_inFlight : rid ∉ t.inFlightReservationIds)
    (h_pending : rid ∉ t.pendingAcquireReservations) :
    (t.beginPendingAcquire rid).1.Coherent := by
  unfold beginPendingAcquire
  by_cases h_closed : t.closedOrClosing = true
  · rw [if_pos h_closed]
    exact h_coherent
  · rw [if_neg h_closed]
    dsimp only
    cases h_full : ({ t with pendingDrained := false } : AcquireTables).inFlightFull rid with
    | true =>
      rw [if_pos rfl]
      exact ⟨h_coherent.cap, nofun⟩
    | false =>
      rw [if_neg nofun]
      refine ⟨?_, nofun⟩
      have h_lt := card_lt_of_slot h_full h_inFlight h_pending
      have h_insert := Finset.card_insert_of_notMem h_pending
      show t.inFlightReservationIds.card + (insert rid t.pendingAcquireReservations).card ≤
        t.maxInFlightReservations
      rw [h_insert]
      exact h_lt

theorem remember (h_coherent : t.Coherent) (h_inFlight : rid ∉ t.inFlightReservationIds)
    (h_pending : rid ∉ t.pendingAcquireReservations) :
    (t.rememberInFlightReservation rid).Coherent := by
  unfold rememberInFlightReservation
  by_cases h_refused : (t.closedOrClosing || t.inFlightFull rid) = true
  · rw [if_pos h_refused]
    exact h_coherent
  · rw [if_neg h_refused]
    obtain ⟨_, h_slot⟩ := Bool.or_eq_false_iff.mp (Bool.eq_false_iff.mpr h_refused)
    refine ⟨?_, h_coherent.drained⟩
    have h_lt := card_lt_of_slot h_slot h_inFlight h_pending
    have h_insert := Finset.card_insert_of_notMem h_inFlight
    show (insert rid t.inFlightReservationIds).card + t.pendingAcquireReservations.card ≤
      t.maxInFlightReservations
    rw [h_insert]
    omega

end Coherent

end AcquireTables

/-- The retained state is cleared while nothing is pending or being delivered. -/
theorem Standing.Fits.clear {block late : Bool} {phase : AcquirePhase} {st : Standing}
    (h_fits : Fits block late phase st) (h_pending : ¬ st.pending) (h_delivery : ¬ st.delivery) :
    Fits block late phase { st with inFlight := False } := by
  have h_refused : ¬ st.onlyPending := fun h => h_pending h.1
  cases phase with
  | gettingBackend => exact absurd h_fits.1 h_refused
  | inBackend task interrupted =>
    cases task with
    | none => exact absurd h_fits.1 h_refused
    | some result => cases result <;> exact absurd h_fits.1 h_refused
  | rollingBack outcome ran interrupted =>
    cases ran with
    | false => exact absurd h_fits.1 h_refused
    | true => exact ⟨⟨h_pending, not_false, h_delivery⟩, h_fits.2⟩
  | finalizing next ran interrupted =>
    cases next with
    | deliver => exact absurd h_fits.2.2.1 h_delivery
    | afterCancel => exact absurd h_fits.2.2.1 h_delivery
    | refundFailed => exact h_fits
  | emitting => exact absurd h_fits.2.2.1 h_delivery
  | refunding kind progress =>
    cases progress with
    | started => exact absurd h_fits.2.1 h_delivery
    | credited => exact absurd h_fits.2.1 h_delivery
    | committed => exact ⟨⟨h_pending, not_false, h_delivery⟩, h_fits.2⟩
  | returned => exact h_fits
  | raised kind => exact h_fits

namespace AcquireSystem

open AcquireTables

variable {s s' : AcquireSystem} {i j : AcquireCallId} {call call' : LimiterCall}
  {rid rid' : ReservationId} {label : Label} {c : CloserId} {phase : CloserPhase}

/-! ## The invariant -/

/-- Every reservation id belongs to one call, or to one unlimited reservation. -/
structure Roster (calls : Dict AcquireCallId LimiterCall) (ids unlimitedIds : Finset ReservationId) :
    Prop where
  distinct : ∀ i j call call', calls.get i = some call → calls.get j = some call' →
    call.reservationId = call'.reservationId → i = j
  issued : ∀ i call, calls.get i = some call → call.reservationId ∈ ids
  limited : ∀ i call, calls.get i = some call → call.reservationId ∉ unlimitedIds
  unlimited_issued : unlimitedIds ⊆ ids

/-- The reservation of each call stands where the call's await point expects it. -/
structure CallsFit (s : AcquireSystem) : Prop where
  roster : Roster s.calls s.issued s.unlimited
  fits : ∀ i call, s.calls.get i = some call →
    Standing.Fits call.block call.cancelledAfterSuccess call.phase
      (s.standing call.reservationId)
  fresh : ∀ rid, rid ∉ s.issued → s.standing rid = ⟨False, False, False, 0, 0⟩

/-- A close waits for a limiter that takes no acquire any more, and has seen it quiet
    from the drained event on. -/
structure ClosersCoherent (s : AcquireSystem) : Prop where
  tables : s.tables.Coherent
  closing : ∀ c phase, s.closers.get c = some phase → s.tables.closedOrClosing = true
  quiet : ∀ c phase, s.closers.get c = some phase → phase ≠ .waitingDrain false → s.tables.Quiet
  closeDrained : s.tables.closeDrained = true →
    s.tables.Quiet ∧ s.tables.closedOrClosing = true

structure Sound (s : AcquireSystem) : Prop where
  calls : s.CallsFit
  closers : s.ClosersCoherent

theorem callsFit_init (maxInFlightReservations : ℕ) :
    (AcquireSystem.init maxInFlightReservations).CallsFit where
  roster :=
    { distinct := fun _ _ _ _ h_call => by cases h_call
      issued := fun _ _ h_call => by cases h_call
      limited := fun _ _ h_call => by cases h_call
      unlimited_issued := subset_refl _ }
  fits _ _ h_call := by cases h_call
  fresh rid _ := by simp [AcquireSystem.init, standing, AcquireTables.init]

theorem closersCoherent_init (maxInFlightReservations : ℕ) :
    (AcquireSystem.init maxInFlightReservations).ClosersCoherent where
  tables := Coherent.init maxInFlightReservations
  closing _ _ h_closer := by cases h_closer
  quiet _ _ h_closer := by cases h_closer
  closeDrained h_drained := by cases h_drained

theorem sound_init (maxInFlightReservations : ℕ) :
    (AcquireSystem.init maxInFlightReservations).Sound :=
  ⟨callsFit_init _, closersCoherent_init _⟩

/-! ## What the steps keep -/

/-- The calls, the reservation ids and the counts are the same. -/
structure SameCalls (s s' : AcquireSystem) : Prop where
  calls : s'.calls = s.calls
  issued : s'.issued = s.issued
  unlimited : s'.unlimited = s.unlimited
  consumed : s'.consumed = s.consumed
  credited : s'.credited = s.credited

theorem SameCalls.roster (h_same : SameCalls s s') (h_calls : s.CallsFit) :
    Roster s'.calls s'.issued s'.unlimited := by
  rw [h_same.calls, h_same.issued, h_same.unlimited]
  exact h_calls.roster

/-- Only the flags of the tables have changed. -/
theorem CallsFit.congr (h_calls : s.CallsFit) (h_same : SameCalls s s')
    (h_standing : ∀ rid, s'.standing rid = s.standing rid) : s'.CallsFit where
  roster := h_same.roster h_calls
  fits i call h_call := by
    rw [h_same.calls] at h_call
    rw [h_standing]
    exact h_calls.fits i call h_call
  fresh rid h_fresh := by
    rw [h_same.issued] at h_fresh
    rw [h_standing]
    exact h_calls.fresh rid h_fresh

/-- A reservation of no open call is forgotten. -/
theorem CallsFit.forget (h_calls : s.CallsFit) (h_issued : rid ∈ s.issued)
    (h_finished : ∀ i call, s.calls.get i = some call → call.reservationId = rid →
      call.phase.finished = true) : (s.applyOp rid .forget).CallsFit where
  roster := h_calls.roster
  fits i call h_call := by
    rw [standing_applyOp]
    have h_fits := h_calls.fits i call h_call
    by_cases h_rid : call.reservationId = rid
    · rw [if_pos h_rid]
      have h_done := h_finished i call h_call h_rid
      cases h_phase : call.phase with
      | returned => exact ⟨not_false, not_false⟩
      | raised kind => exact ⟨not_false, not_false⟩
      | gettingBackend => rw [h_phase] at h_done; cases h_done
      | inBackend => rw [h_phase] at h_done; cases h_done
      | rollingBack => rw [h_phase] at h_done; cases h_done
      | finalizing => rw [h_phase] at h_done; cases h_done
      | emitting => rw [h_phase] at h_done; cases h_done
      | refunding => rw [h_phase] at h_done; cases h_done
    · rw [if_neg h_rid]
      exact h_fits
  fresh rid' h_fresh := by
    have h_ne : rid' ≠ rid := fun h_eq => h_fresh (h_eq ▸ h_issued)
    rw [standing_applyOp, if_neg h_ne]
    exact h_calls.fresh rid' h_fresh

theorem CallsFit.clear (h_calls : s.CallsFit) (h_quiet : s.tables.Quiet) (h_same : SameCalls s s')
    (h_tables : s'.tables = s.tables.clearRetainedStateAfterClose) : s'.CallsFit where
  roster := h_same.roster h_calls
  fits i call h_call := by
    rw [h_same.calls] at h_call
    have h_fits := h_calls.fits i call h_call
    have h_standing : s'.standing call.reservationId =
        { s.standing call.reservationId with inFlight := False } := by
      simp [standing, h_tables, h_same.consumed, h_same.credited, clearRetainedStateAfterClose,
        h_quiet.1, h_quiet.2]
    rw [h_standing]
    refine h_fits.clear ?_ ?_
    · simp [standing, h_quiet.1]
    · simp [standing, h_quiet.2]
  fresh rid h_fresh := by
    rw [h_same.issued] at h_fresh
    have h_old := h_calls.fresh rid h_fresh
    simp only [standing, Standing.mk.injEq] at h_old
    simp [standing, h_tables, h_same.consumed, h_same.credited, clearRetainedStateAfterClose,
      h_old]

/-- An event of a call moves the standing of its own reservation. -/
theorem CallsFit.event (h_calls : s.CallsFit) (h_call : s.calls.get i = some call)
    {event : AcquireEvent} {ops : List TableOp} {phase : AcquirePhase}
    (h_step : callStep call.block call.phase event = some (ops, phase)) :
    ((s.applyOps call.reservationId ops).setCall i (call.after event phase)).CallsFit := by
  have h_fits := Standing.callStep_fits h_step (h_calls.fits i call h_call)
  obtain ⟨h_same, h_issued, h_unlimited⟩ := applyOps_rest s call.reservationId ops
  have h_standing := standing_applyOps s call.reservationId ops
  have h_roster := h_calls.roster
  have h_get : ∀ j c, ((s.applyOps call.reservationId ops).calls.set i
      (call.after event phase)).get j = some c →
      j = i ∧ c = call.after event phase ∨ j ≠ i ∧ s.calls.get j = some c := fun j c h_c => by
    rw [h_same] at h_c
    exact Dict.get_set_cases h_c
  -- every call has an old call with its reservation id
  have h_old : ∀ j c, ((s.applyOps call.reservationId ops).calls.set i
      (call.after event phase)).get j = some c →
      ∃ c', s.calls.get j = some c' ∧ c'.reservationId = c.reservationId := fun j c h_c => by
    rcases h_get j c h_c with ⟨rfl, rfl⟩ | ⟨_, h_c⟩
    · exact ⟨call, h_call, rfl⟩
    · exact ⟨c, h_c, rfl⟩
  refine ⟨⟨fun j k c c' h_c h_c' h_rid => ?_, fun j c h_c => ?_, fun j c h_c => ?_, ?_⟩,
    fun j c h_c => ?_, fun rid h_fresh => ?_⟩
  · obtain ⟨d, h_d, h_d_rid⟩ := h_old j c h_c
    obtain ⟨d', h_d', h_d_rid'⟩ := h_old k c' h_c'
    exact h_roster.distinct j k d d' h_d h_d' (h_d_rid.trans (h_rid.trans h_d_rid'.symm))
  · obtain ⟨d, h_d, h_d_rid⟩ := h_old j c h_c
    show c.reservationId ∈ (s.applyOps call.reservationId ops).issued
    rw [h_issued, ← h_d_rid]
    exact h_roster.issued j d h_d
  · obtain ⟨d, h_d, h_d_rid⟩ := h_old j c h_c
    show c.reservationId ∉ (s.applyOps call.reservationId ops).unlimited
    rw [h_unlimited, ← h_d_rid]
    exact h_roster.limited j d h_d
  · show (s.applyOps call.reservationId ops).unlimited ⊆ (s.applyOps call.reservationId ops).issued
    rw [h_unlimited, h_issued]
    exact h_roster.unlimited_issued
  · show Standing.Fits _ _ _ ((s.applyOps call.reservationId ops).standing c.reservationId)
    rw [h_standing]
    rcases h_get j c h_c with ⟨_, rfl⟩ | ⟨h_ne, h_c⟩
    · exact (if_pos rfl : ite (call.reservationId = call.reservationId) _ _ = _) ▸ h_fits
    · rw [if_neg fun h_rid => h_ne (h_roster.distinct j i c call h_c h_call h_rid)]
      exact h_calls.fits j c h_c
  · have h_fresh : rid ∉ (s.applyOps call.reservationId ops).issued := h_fresh
    rw [h_issued] at h_fresh
    have h_ne : rid ≠ call.reservationId := fun h_eq =>
      h_fresh (h_eq ▸ h_roster.issued i call h_call)
    show (s.applyOps call.reservationId ops).standing rid = _
    rw [h_standing, if_neg h_ne]
    exact h_calls.fresh rid h_fresh

/-- What `_begin_pending_acquire` leaves in the tables. -/
theorem beginPendingAcquire_tables (t : AcquireTables) (rid : ReservationId) :
    ((t.beginPendingAcquire rid).2 = true ∧ t.closedOrClosing = false ∧
      (t.beginPendingAcquire rid).1 = { t with
        pendingDrained := false
        pendingAcquireReservations := insert rid t.pendingAcquireReservations }) ∨
    ((t.beginPendingAcquire rid).2 = false ∧
      ((t.beginPendingAcquire rid).1 = t ∨ t.closedOrClosing = false ∧
        (t.beginPendingAcquire rid).1 = { t with pendingDrained := false })) := by
  unfold beginPendingAcquire
  by_cases h_closed : t.closedOrClosing = true
  · rw [if_pos h_closed]
    exact .inr ⟨rfl, .inl rfl⟩
  · rw [if_neg h_closed]
    have h_open : t.closedOrClosing = false := Bool.eq_false_iff.mpr h_closed
    dsimp only
    cases ({ t with pendingDrained := false } : AcquireTables).inFlightFull rid with
    | true =>
      rw [if_pos rfl]
      exact .inr ⟨rfl, .inr ⟨h_open, rfl⟩⟩
    | false =>
      rw [if_neg nofun]
      exact .inl ⟨rfl, h_open, rfl⟩

theorem CallsFit.absent (h_calls : s.CallsFit) (h_fresh : rid ∉ s.issued) :
    rid ∉ s.tables.pendingAcquireReservations ∧ rid ∉ s.tables.inFlightReservationIds ∧
      rid ∉ s.tables.acquireDeliveryCleanupReservations ∧ s.consumed rid = 0 ∧
      s.credited rid = 0 := by
  have h_standing := h_calls.fresh rid h_fresh
  simpa [standing] using h_standing

/-- A call becomes pending, or is refused. -/
theorem CallsFit.begin (h_calls : s.CallsFit) (h_new : s.calls.get i = none)
    (h_fresh : rid ∉ s.issued) (block : Bool) :
    { s with
      tables := (s.tables.beginPendingAcquire rid).1
      calls := s.calls.set i ⟨rid, block,
        if (s.tables.beginPendingAcquire rid).2 then .gettingBackend else .raised .error, false⟩
      issued := insert rid s.issued }.CallsFit := by
  obtain ⟨h_pending, h_inFlight, h_delivery, h_consumed, h_credited⟩ := h_calls.absent h_fresh
  have h_roster := h_calls.roster
  have h_rid : ∀ j c, s.calls.get j = some c → c.reservationId ≠ rid := fun j c h_c h_eq =>
    h_fresh (h_eq ▸ h_roster.issued j c h_c)
  have h_standing : ∀ rid', rid' ≠ rid →
      ({ s with tables := (s.tables.beginPendingAcquire rid).1 } : AcquireSystem).standing rid' =
        s.standing rid' := fun rid' h_ne => by
    rcases beginPendingAcquire_tables s.tables rid with ⟨_, _, h_t⟩ | ⟨_, h_t | ⟨_, h_t⟩⟩
    · rw [h_t]
      simp [standing, h_ne]
    · rw [h_t]
    · rw [h_t]
      rfl
  refine ⟨⟨fun j k c c' h_c h_c' h_eq => ?_, fun j c h_c => ?_, fun j c h_c => ?_,
    h_roster.unlimited_issued.trans (Finset.subset_insert _ _)⟩, fun j c h_c => ?_,
    fun rid' h_fresh' => ?_⟩
  · rcases Dict.get_set_cases h_c with ⟨rfl, rfl⟩ | ⟨_, h_old⟩
    · rcases Dict.get_set_cases h_c' with ⟨rfl, _⟩ | ⟨_, h_c'⟩
      · rfl
      · exact absurd h_eq.symm (h_rid k c' h_c')
    · rcases Dict.get_set_cases h_c' with ⟨rfl, rfl⟩ | ⟨_, h_c'⟩
      · exact absurd h_eq (h_rid j c h_old)
      · exact h_roster.distinct j k c c' h_old h_c' h_eq
  · rcases Dict.get_set_cases h_c with ⟨_, rfl⟩ | ⟨_, h_c⟩
    · exact Finset.mem_insert_self _ _
    · exact Finset.mem_insert_of_mem (h_roster.issued j c h_c)
  · rcases Dict.get_set_cases h_c with ⟨_, rfl⟩ | ⟨_, h_c⟩
    · exact fun h_mem => h_fresh (h_roster.unlimited_issued h_mem)
    · exact h_roster.limited j c h_c
  · rcases Dict.get_set_cases h_c with ⟨_, rfl⟩ | ⟨_, h_c⟩
    · show Standing.Fits block false _ (({ s with
        tables := (s.tables.beginPendingAcquire rid).1 } : AcquireSystem).standing rid)
      rcases beginPendingAcquire_tables s.tables rid with ⟨h_ok, _, h_t⟩ | ⟨h_ok, h_t⟩
      · rw [h_ok, h_t]
        exact ⟨⟨Finset.mem_insert_self _ _, h_inFlight, h_delivery⟩, h_consumed, h_credited, rfl⟩
      · rw [h_ok]
        rcases h_t with h_t | ⟨_, h_t⟩
        · rw [h_t]
          exact ⟨h_pending, h_delivery⟩
        · rw [h_t]
          exact ⟨h_pending, h_delivery⟩
    · have h_fits := h_calls.fits j c h_c
      rw [← h_standing _ (h_rid j c h_c)] at h_fits
      exact h_fits
  · have h_fresh' := Finset.mem_insert.not.mp h_fresh'
    have h_ne : rid' ≠ rid := fun h_eq => h_fresh' (.inl h_eq)
    exact (h_standing rid' h_ne).trans (h_calls.fresh rid' fun h_mem => h_fresh' (.inr h_mem))

theorem CallsFit.beginUnlimited (h_calls : s.CallsFit) (h_fresh : rid ∉ s.issued) :
    { s with
      tables := s.tables.rememberInFlightReservation rid
      issued := insert rid s.issued
      unlimited := insert rid s.unlimited }.CallsFit := by
  have h_roster := h_calls.roster
  have h_standing : ∀ rid', rid' ≠ rid →
      ({ s with tables := s.tables.rememberInFlightReservation rid } : AcquireSystem).standing
        rid' = s.standing rid' := fun rid' h_ne => by
    unfold rememberInFlightReservation
    split
    · rfl
    · simp [standing, h_ne]
  have h_rid : ∀ j c, s.calls.get j = some c → c.reservationId ≠ rid := fun j c h_c h_eq =>
    h_fresh (h_eq ▸ h_roster.issued j c h_c)
  refine ⟨⟨h_roster.distinct, fun j c h_c => ?_, fun j c h_c h_mem => ?_,
    Finset.insert_subset_insert _ h_roster.unlimited_issued⟩, fun j c h_c => ?_,
    fun rid' h_fresh' => ?_⟩
  · exact Finset.mem_insert_of_mem (h_roster.issued j c h_c)
  · rcases Finset.mem_insert.mp h_mem with h_eq | h_old
    · exact h_rid j c h_c h_eq
    · exact h_roster.limited j c h_c h_old
  · have h_fits := h_calls.fits j c h_c
    rw [← h_standing _ (h_rid j c h_c)] at h_fits
    exact h_fits
  · have h_fresh' := Finset.mem_insert.not.mp h_fresh'
    have h_ne : rid' ≠ rid := fun h_eq => h_fresh' (.inl h_eq)
    exact (h_standing rid' h_ne).trans (h_calls.fresh rid' fun h_mem => h_fresh' (.inr h_mem))

/-! ### The tables under the operations -/

theorem applyOps_closers (s : AcquireSystem) (rid : ReservationId) (ops : List TableOp) :
    (s.applyOps rid ops).closers = s.closers := by
  induction ops generalizing s with
  | nil => rfl
  | cons op ops ih =>
    refine (ih (s.applyOp rid op)).trans ?_
    cases op <;> rfl

theorem applyOps_shrinks {ops : List TableOp}
    (h_ops : ∀ op ∈ ops, op ≠ .finalize ∧ op ≠ .beginDelivery) (s : AcquireSystem)
    (rid : ReservationId) : Shrinks s.tables (s.applyOps rid ops).tables := by
  induction ops generalizing s with
  | nil => exact .refl _
  | cons op ops ih =>
    have h_op : Shrinks s.tables (s.applyOp rid op).tables := by
      have h_ne := h_ops op List.mem_cons_self
      cases op with
      | finalize => exact absurd rfl h_ne.1
      | beginDelivery => exact absurd rfl h_ne.2
      | rollback => exact .rollback _ _
      | endDelivery => exact .endDelivery _ _
      | forget => exact .forget _ _
      | consume => exact .refl _
      | credit => exact .refl _
    exact h_op.trans (ih (fun op h_mem => h_ops op (List.mem_cons_of_mem _ h_mem)) _)

/-- The tables after an event of a call: coherent, with the same flags, and as quiet as
    before. -/
theorem event_tables (h_sound : s.Sound) (h_call : s.calls.get i = some call)
    {event : AcquireEvent} {ops : List TableOp} {phase : AcquirePhase}
    (h_step : callStep call.block call.phase event = some (ops, phase)) :
    (s.applyOps call.reservationId ops).tables.Coherent ∧
      (s.applyOps call.reservationId ops).tables.closing = s.tables.closing ∧
      (s.applyOps call.reservationId ops).tables.closed = s.tables.closed ∧
      (s.applyOps call.reservationId ops).tables.closeDrained = s.tables.closeDrained ∧
      (s.tables.Quiet → (s.applyOps call.reservationId ops).tables.Quiet) := by
  have h_coherent := h_sound.closers.tables
  rcases Standing.callStep_ops h_step (h_sound.calls.fits i call h_call) with
    h_ops | ⟨h_ops, h_pending⟩
  · have h_shrinks := applyOps_shrinks h_ops s call.reservationId
    exact ⟨h_shrinks.coherent h_coherent, h_shrinks.closing, h_shrinks.closed,
      h_shrinks.closeDrained, fun h_quiet => h_quiet.mono h_shrinks.pending h_shrinks.delivery⟩
  · have h_pending : call.reservationId ∈ s.tables.pendingAcquireReservations := h_pending
    have h_loud : ¬ s.tables.Quiet := fun h_quiet => by
      rw [h_quiet.1] at h_pending
      cases h_pending
    rcases h_ops with rfl | rfl
    · exact ⟨h_coherent.finalize h_pending, rfl, rfl, rfl, fun h_quiet => absurd h_quiet h_loud⟩
    · exact ⟨h_coherent.beginDelivery _, rfl, rfl, rfl, fun h_quiet => absurd h_quiet h_loud⟩

/-! ## What a step does -/

/-- The sets of the tables, the cap and the event are the same. -/
structure SameSets (t t' : AcquireTables) : Prop where
  pending : t'.pendingAcquireReservations = t.pendingAcquireReservations
  delivery : t'.acquireDeliveryCleanupReservations = t.acquireDeliveryCleanupReservations
  inFlight : t'.inFlightReservationIds = t.inFlightReservationIds
  max : t'.maxInFlightReservations = t.maxInFlightReservations
  pendingDrained : t'.pendingDrained = t.pendingDrained

/-- The flags of a close only rise. -/
structure FlagsRise (t t' : AcquireTables) : Prop where
  closing : t.closedOrClosing = true → t'.closedOrClosing = true
  closeDrained : t.closeDrained = true → t'.closeDrained = true

/-- The effects a step can have: a call begins or handles an event, a reservation is
    forgotten, an unlimited one is remembered, or a close starts, goes on, fails or clears
    the retained state. -/
inductive Effect (s : AcquireSystem) : Label → AcquireSystem → Prop
  | begun (i : AcquireCallId) (rid : ReservationId) (block : Bool)
      (h_new : s.calls.get i = none) (h_fresh : rid ∉ s.issued) :
      Effect s (.begin i rid block) { s with
        tables := (s.tables.beginPendingAcquire rid).1
        calls := s.calls.set i ⟨rid, block,
          if (s.tables.beginPendingAcquire rid).2 then .gettingBackend else .raised .error, false⟩
        issued := insert rid s.issued }
  | called (i : AcquireCallId) (call : LimiterCall) (event : AcquireEvent) (ops : List TableOp)
      (phase : AcquirePhase) (h_call : s.calls.get i = some call)
      (h_event : callStep call.block call.phase event = some (ops, phase)) :
      Effect s (.call i event)
        ((s.applyOps call.reservationId ops).setCall i (call.after event phase))
  | forgot (label : Label) (rid : ReservationId)
      (h_free : (∃ i call, s.calls.get i = some call ∧ call.reservationId = rid ∧
        call.phase.finished = true) ∨ rid ∈ s.unlimited) :
      Effect s label (s.applyOp rid .forget)
  | begunUnlimited (rid : ReservationId) (h_fresh : rid ∉ s.issued) :
      Effect s (.beginUnlimited rid) { s with
        tables := s.tables.rememberInFlightReservation rid
        issued := insert rid s.issued
        unlimited := insert rid s.unlimited }
  | idle (label : Label) (lock : Option LifecycleHolder) :
      Effect s label { s with lifecycleLock := lock }
  | closeStarted (c : CloserId) :
      Effect s (.close c) { s with
        tables := { s.tables with closing := !s.tables.closed }.refreshPendingDrained
        closers := s.closers.set c (.waitingDrain false) }
  | closeMoved (label : Label) (c : CloserId) (phase phase' : CloserPhase)
      (h_closer : s.closers.get c = some phase)
      (h_past : s.tables.pendingDrained = true ∨ phase ≠ .waitingDrain false)
      (t : AcquireTables) (h_sets : SameSets s.tables t) (h_flags : FlagsRise s.tables t)
      (lock : Option LifecycleHolder) :
      Effect s label { s with
        tables := t
        closers := s.closers.set c phase'
        lifecycleLock := lock }
  | closeFailed (label : Label) (c : CloserId) : Effect s label (s.failClose c)
  | closeCleared (label : Label) (c : CloserId) (phase : CloserPhase)
      (h_closer : s.closers.get c = some phase) (h_past : phase ≠ .waitingDrain false)
      (lock : Option LifecycleHolder) :
      Effect s label { s with
        tables := s.tables.clearRetainedStateAfterClose
        closers := s.closers.pop c
        lifecycleLock := lock }

theorem closedOrClosing_of_closed {t : AcquireTables} (h_closed : t.closed = true) :
    t.closedOrClosing = true := by
  unfold AcquireTables.closedOrClosing
  rw [h_closed]
  rfl

theorem step_effect (h_step : s.step label = some s') : Effect s label s' := by
  cases label with
  | begin i rid block =>
    simp only [step] at h_step
    split at h_step
    · cases h_step
    · rename_i h_new
      cases h_step
      refine .begun i rid block ?_ fun h_mem => h_new (.inr h_mem)
      exact Option.not_isSome_iff_eq_none.mp fun h_some => h_new (.inl h_some)
  | call i event =>
    simp only [step] at h_step
    split at h_step
    · rename_i call h_call
      split at h_step
      · rename_i ops phase h_event
        cases h_step
        exact .called i call event ops phase h_call h_event
      · cases h_step
    · cases h_step
  | forget i =>
    simp only [step] at h_step
    split at h_step
    · rename_i call h_call
      split at h_step
      · rename_i h_finished
        cases h_step
        exact .forgot _ _ (.inl ⟨i, call, h_call, rfl, h_finished⟩)
      · cases h_step
    · cases h_step
  | beginUnlimited rid =>
    simp only [step] at h_step
    split at h_step
    · cases h_step
    · rename_i h_fresh
      cases h_step
      exact .begunUnlimited rid h_fresh
  | forgetUnlimited rid =>
    simp only [step] at h_step
    split at h_step
    · rename_i h_unlimited
      cases h_step
      exact .forgot _ rid (.inr h_unlimited)
    · cases h_step
  | close c =>
    simp only [step] at h_step
    split at h_step
    · cases h_step
    · split at h_step
      · cases h_step
        exact .idle _ s.lifecycleLock
      · cases h_step
        exact .closeStarted c
  | closeWakes c =>
    simp only [step] at h_step
    split at h_step
    · rename_i h_closer
      split at h_step
      · rename_i h_drained
        cases h_step
        exact .closeMoved _ c _ _ h_closer (.inl h_drained) s.tables ⟨rfl, rfl, rfl, rfl, rfl⟩
          ⟨id, id⟩ s.lifecycleLock
      · cases h_step
    · cases h_step
  | closeResumes c =>
    simp only [step] at h_step
    split at h_step
    · rename_i h_closer
      cases h_step
      exact .closeMoved _ c _ _ h_closer (.inr nofun) s.tables ⟨rfl, rfl, rfl, rfl, rfl⟩
        ⟨id, id⟩ s.lifecycleLock
    · cases h_step
  | closeTimesOut c =>
    simp only [step] at h_step
    split at h_step
    · cases h_step
      exact .closeFailed _ c
    · cases h_step
      exact .closeFailed _ c
    · cases h_step
  | closeEntersLifecycle c =>
    simp only [step] at h_step
    split at h_step
    · rename_i h_closer
      split at h_step
      · cases h_step
        -- a close that finds the drain done by another one goes straight to the cleanup
        unfold enterLifecycle
        by_cases h_drained : s.tables.closeDrained = true
        · rw [if_pos h_drained]
          exact .closeCleared _ c _ h_closer nofun s.lifecycleLock
        · rw [if_neg h_drained]
          exact .closeMoved _ c _ _ h_closer (.inr nofun)
            { s.tables with closed := true, closing := false } ⟨rfl, rfl, rfl, rfl, rfl⟩
            ⟨fun _ => closedOrClosing_of_closed rfl, id⟩ _
      · cases h_step
    · cases h_step
  | refundsDrained c =>
    simp only [step] at h_step
    split at h_step
    · rename_i h_closer
      cases h_step
      exact .closeMoved _ c _ _ h_closer (.inr nofun) { s.tables with closeDrained := true }
        ⟨rfl, rfl, rfl, rfl, rfl⟩ ⟨id, fun _ => rfl⟩ s.lifecycleLock
    · cases h_step
  | closeCleaned c =>
    simp only [step] at h_step
    split at h_step
    · rename_i h_closer
      cases h_step
      exact .closeCleared _ c _ h_closer nofun none
    · cases h_step
  | closeCleanupRaises c =>
    simp only [step] at h_step
    split at h_step
    · cases h_step
      exact .closeFailed _ c
    · cases h_step
  | closeCancelled c =>
    simp only [step] at h_step
    split at h_step
    · cases h_step
      exact .closeFailed _ c
    · cases h_step
      exact .idle _ s.lifecycleLock
    · cases h_step
  | setMaxCapacityEnters =>
    simp only [step] at h_step
    split at h_step
    · cases h_step
      exact .idle _ _
    · cases h_step
  | setMaxCapacityLeaves =>
    simp only [step] at h_step
    split at h_step
    · cases h_step
      exact .idle _ _
    · cases h_step

/-! ### The calls -/

theorem Effect.callsFit (h_effect : Effect s label s') (h_sound : s.Sound) : s'.CallsFit := by
  have h_calls := h_sound.calls
  have h_roster := h_calls.roster
  cases h_effect with
  | begun i rid block h_new h_fresh => exact h_calls.begin h_new h_fresh block
  | called i call event ops phase h_call h_event => exact h_calls.event h_call h_event
  | forgot label rid h_free =>
    rcases h_free with ⟨i, call, h_call, rfl, h_finished⟩ | h_unlimited
    · refine h_calls.forget (h_roster.issued i call h_call) fun j c h_c h_rid => ?_
      have h_eq := h_roster.distinct j i c call h_c h_call h_rid
      rw [h_eq, h_call] at h_c
      cases h_c
      exact h_finished
    · exact h_calls.forget (h_roster.unlimited_issued h_unlimited) fun j c h_c h_rid =>
        absurd (h_rid ▸ h_unlimited) (h_roster.limited j c h_c)
  | begunUnlimited rid h_fresh => exact h_calls.beginUnlimited h_fresh
  | idle label lock => exact h_calls.congr ⟨rfl, rfl, rfl, rfl, rfl⟩ fun _ => rfl
  | closeStarted c => exact h_calls.congr ⟨rfl, rfl, rfl, rfl, rfl⟩ fun _ => rfl
  | closeMoved label c phase phase' h_closer h_past t h_sets h_flags lock =>
    refine h_calls.congr ⟨rfl, rfl, rfl, rfl, rfl⟩ fun rid => ?_
    simp [standing, h_sets.pending, h_sets.delivery, h_sets.inFlight]
  | closeFailed label c => exact h_calls.congr ⟨rfl, rfl, rfl, rfl, rfl⟩ fun _ => rfl
  | closeCleared label c phase h_closer h_past lock =>
    exact h_calls.clear (h_sound.closers.quiet c phase h_closer h_past)
      ⟨rfl, rfl, rfl, rfl, rfl⟩ rfl

/-! ### The closes -/

/-- A step that is not one of a close. -/
theorem ClosersCoherent.keep (h_closers : s.ClosersCoherent) (h_same : s'.closers = s.closers)
    (h_coherent : s'.tables.Coherent)
    (h_closing : s'.tables.closedOrClosing = s.tables.closedOrClosing)
    (h_drained : s'.tables.closeDrained = s.tables.closeDrained)
    (h_quiet : s.tables.closedOrClosing = true → s.tables.Quiet → s'.tables.Quiet) :
    s'.ClosersCoherent where
  tables := h_coherent
  closing c phase h_closer := by
    rw [h_same] at h_closer
    rw [h_closing]
    exact h_closers.closing c phase h_closer
  quiet c phase h_closer h_phase := by
    rw [h_same] at h_closer
    exact h_quiet (h_closers.closing c phase h_closer) (h_closers.quiet c phase h_closer h_phase)
  closeDrained h := by
    rw [h_drained] at h
    obtain ⟨h_old, h_closed⟩ := h_closers.closeDrained h
    exact ⟨h_quiet h_closed h_old, h_closing.trans h_closed⟩

/-- A step of a close: it leaves the limiter closed or closing, and goes beyond its wait
    for the drain only when the limiter is quiet. -/
theorem ClosersCoherent.advance (h_coherent : s'.tables.Coherent)
    (h_closing : s'.tables.closedOrClosing = true) (h_quiet : s.tables.Quiet → s'.tables.Quiet)
    (h_closers : ∀ c phase, s'.closers.get c = some phase → phase ≠ .waitingDrain false →
      s.tables.Quiet)
    (h_drained : s'.tables.closeDrained = true → s.tables.Quiet) : s'.ClosersCoherent where
  tables := h_coherent
  closing _ _ _ := h_closing
  quiet c phase h_closer h_phase := h_quiet (h_closers c phase h_closer h_phase)
  closeDrained h := ⟨h_quiet (h_drained h), h_closing⟩

theorem Effect.closersCoherent (h_effect : Effect s label s') (h_sound : s.Sound) :
    s'.ClosersCoherent := by
  have h_closers := h_sound.closers
  have h_coherent := h_closers.tables
  cases h_effect with
  | begun i rid block h_new h_fresh =>
    obtain ⟨h_pending, h_inFlight, _⟩ := h_sound.calls.absent h_fresh
    have h_coherent' := h_coherent.beginPending h_inFlight h_pending
    rcases beginPendingAcquire_tables s.tables rid with ⟨_, h_open, h_t⟩ | ⟨_, h_t | ⟨_, h_t⟩⟩
    · refine h_closers.keep rfl h_coherent' (by rw [h_t]; rfl) (by rw [h_t]) fun h_closing => ?_
      rw [h_open] at h_closing
      cases h_closing
    · refine h_closers.keep rfl h_coherent' (by rw [h_t]) (by rw [h_t]) fun _ h_quiet => ?_
      rw [h_t]
      exact h_quiet
    · refine h_closers.keep rfl h_coherent' (by rw [h_t]; rfl) (by rw [h_t]) fun _ h_quiet => ?_
      rw [h_t]
      exact h_quiet
  | called i call event ops phase h_call h_event =>
    obtain ⟨h_coherent', h_closing, h_closed, h_drained, h_quiet⟩ :=
      event_tables h_sound h_call h_event
    refine h_closers.keep (applyOps_closers s _ ops) h_coherent' ?_ h_drained fun _ => h_quiet
    unfold AcquireTables.closedOrClosing
    exact congrArg₂ or h_closed h_closing
  | forgot label rid h_free =>
    have h_shrinks := Shrinks.forget s.tables rid
    exact h_closers.keep rfl (h_shrinks.coherent h_coherent) rfl rfl fun _ h_quiet =>
      h_quiet.mono h_shrinks.pending h_shrinks.delivery
  | begunUnlimited rid h_fresh =>
    obtain ⟨h_pending, h_inFlight, _⟩ := h_sound.calls.absent h_fresh
    have h_coherent' := h_coherent.remember h_inFlight h_pending
    refine h_closers.keep rfl h_coherent' ?_ ?_ fun _ h_quiet => ?_
    · unfold rememberInFlightReservation
      split <;> rfl
    · unfold rememberInFlightReservation
      split <;> rfl
    · unfold rememberInFlightReservation
      split <;> exact h_quiet
  | idle label lock => exact h_closers.keep rfl h_coherent rfl rfl fun _ => id
  | closeStarted c =>
    refine .advance (s := s) ⟨h_coherent.cap, quiet_of_refreshed⟩
      (Bool.or_not_self s.tables.closed) id (fun c' phase h_closer h_phase => ?_)
      fun h_drained => (h_closers.closeDrained h_drained).1
    rcases Dict.get_set_cases h_closer with ⟨_, rfl⟩ | ⟨_, h_old⟩
    · exact absurd rfl h_phase
    · exact h_closers.quiet c' phase h_old h_phase
  | closeMoved label c phase phase' h_closer h_past t h_sets h_flags lock =>
    -- a close moves on only past a drain, and what is quiet stays so: nothing begins meanwhile
    have h_quiet : s.tables.Quiet := by
      rcases h_past with h_drained | h_past
      · exact h_coherent.drained h_drained
      · exact h_closers.quiet c phase h_closer h_past
    have h_quiet' : t.Quiet :=
      h_quiet.mono (h_sets.pending ▸ subset_refl _) (h_sets.delivery ▸ subset_refl _)
    refine .advance (s := s) ⟨?_, fun _ => h_quiet'⟩
      (h_flags.closing (h_closers.closing c phase h_closer)) (fun _ => h_quiet')
      (fun _ _ _ _ => h_quiet) fun _ => h_quiet
    show t.inFlightReservationIds.card + t.pendingAcquireReservations.card ≤
      t.maxInFlightReservations
    rw [h_sets.inFlight, h_sets.pending, h_sets.max]
    exact h_coherent.cap
  | closeFailed label c =>
    refine .advance (s := s) ⟨h_coherent.cap, h_coherent.drained⟩ (closedOrClosing_of_closed rfl)
      id (fun c' phase h_closer h_phase => ?_)
      fun h_drained => (h_closers.closeDrained h_drained).1
    exact h_closers.quiet c' phase (Dict.get_pop_cases h_closer).2 h_phase
  | closeCleared label c phase h_closer h_past lock =>
    have h_quiet := h_closers.quiet c phase h_closer h_past
    exact .advance (s := s) ((Shrinks.clear s.tables).coherent h_coherent)
      (h_closers.closing c phase h_closer) (fun _ => ⟨rfl, rfl⟩) (fun _ _ _ _ => h_quiet)
      fun _ => h_quiet

theorem step_sound (h_sound : s.Sound) (h_step : s.step label = some s') : s'.Sound :=
  ⟨(step_effect h_step).callsFit h_sound, (step_effect h_step).closersCoherent h_sound⟩

theorem run_sound {labels : List Label} (h_run : Run (Steps step) s labels s')
    (h_sound : s.Sound) : s'.Sound :=
  h_run.invariant (fun _ _ _ h_sound h_step => step_sound h_sound h_step) h_sound

/-! ## What a close promises -/

/-- What never goes back: a limiter that is closing takes no acquire, and stays so. -/
structure Onward (t t' : AcquireTables) : Prop where
  max : t'.maxInFlightReservations = t.maxInFlightReservations
  closeDrained : t.closeDrained = true → t'.closeDrained = true
  closing : t.closedOrClosing = true → t'.closedOrClosing = true
  pending : t.closedOrClosing = true →
    t'.pendingAcquireReservations ⊆ t.pendingAcquireReservations

theorem Onward.trans {t t' t'' : AcquireTables} (h : Onward t t') (h' : Onward t' t'') :
    Onward t t'' where
  max := h'.max.trans h.max
  closeDrained h_drained := h'.closeDrained (h.closeDrained h_drained)
  closing h_closing := h'.closing (h.closing h_closing)
  pending h_closing := (h'.pending (h.closing h_closing)).trans (h.pending h_closing)

theorem Onward.refl (t : AcquireTables) : Onward t t := ⟨rfl, id, id, fun _ => subset_refl _⟩

theorem Onward.of_shrinks {t t' : AcquireTables} (h : Shrinks t t') : Onward t t' where
  max := h.max
  closeDrained h_drained := h.closeDrained.trans h_drained
  closing h_closing := h.closedOrClosing.trans h_closing
  pending _ := h.pending

theorem applyOp_onward (s : AcquireSystem) (rid : ReservationId) (op : TableOp) :
    Onward s.tables (s.applyOp rid op).tables := by
  cases op with
  | finalize => exact ⟨rfl, id, id, fun _ => Finset.erase_subset _ _⟩
  | rollback => exact .of_shrinks (.rollback _ _)
  | beginDelivery => exact ⟨rfl, id, id, fun _ => subset_refl _⟩
  | endDelivery => exact .of_shrinks (.endDelivery _ _)
  | forget => exact .of_shrinks (.forget _ _)
  | consume => exact .refl _
  | credit => exact .refl _

theorem applyOps_onward (ops : List TableOp) (s : AcquireSystem) (rid : ReservationId) :
    Onward s.tables (s.applyOps rid ops).tables := by
  induction ops generalizing s with
  | nil => exact .refl _
  | cons op ops ih => exact (applyOp_onward s rid op).trans (ih _)

theorem Effect.onward (h_effect : Effect s label s') : Onward s.tables s'.tables := by
  cases h_effect with
  | begun i rid block h_new h_fresh =>
    show Onward s.tables (s.tables.beginPendingAcquire rid).1
    rcases beginPendingAcquire_tables s.tables rid with ⟨_, h_open, h_t⟩ | ⟨_, h_t | ⟨_, h_t⟩⟩
    · rw [h_t]
      exact ⟨rfl, id, id, fun h_closing => by rw [h_open] at h_closing; cases h_closing⟩
    · rw [h_t]
      exact .refl _
    · rw [h_t]
      exact ⟨rfl, id, id, fun _ => subset_refl _⟩
  | called i call event ops phase h_call h_event => exact applyOps_onward ops s _
  | forgot label rid h_free => exact .of_shrinks (.forget _ _)
  | begunUnlimited rid h_fresh =>
    show Onward s.tables (s.tables.rememberInFlightReservation rid)
    unfold rememberInFlightReservation
    split
    · exact .refl _
    · exact ⟨rfl, id, id, fun _ => subset_refl _⟩
  | idle label lock => exact .refl _
  | closeStarted c =>
    exact ⟨rfl, id, fun _ => Bool.or_not_self s.tables.closed, fun _ => subset_refl _⟩
  | closeMoved label c phase phase' h_closer h_past t h_sets h_flags lock =>
    exact ⟨h_sets.max, h_flags.closeDrained, h_flags.closing,
      fun _ => h_sets.pending ▸ subset_refl _⟩
  | closeFailed label c =>
    exact ⟨rfl, id, fun _ => closedOrClosing_of_closed rfl, fun _ => subset_refl _⟩
  | closeCleared label c phase h_closer h_past lock => exact .of_shrinks (.clear _)

theorem run_onward {labels : List Label} (h_run : Run (Steps step) s labels s')
    (h_sound : s.Sound) : Onward s.tables s'.tables := by
  induction h_run with
  | nil => exact .refl _
  | cons h_step _ ih =>
    exact (step_effect h_step).onward.trans (ih (step_sound h_sound h_step))

/-- No call uses the backend of a quiet limiter. -/
theorem CallsFit.idle (h_calls : s.CallsFit) (h_quiet : s.tables.Quiet)
    (h_call : s.calls.get i = some call) : call.phase.usesBackend = false := by
  have h_pending : ¬ (s.standing call.reservationId).pending := by simp [standing, h_quiet.1]
  have h_delivery : ¬ (s.standing call.reservationId).delivery := by simp [standing, h_quiet.2]
  have h_fits := h_calls.fits i call h_call
  cases h_phase : call.phase with
  | gettingBackend =>
    rw [h_phase] at h_fits
    exact absurd h_fits.1.1 h_pending
  | inBackend task interrupted =>
    cases task with
    | none =>
      rw [h_phase] at h_fits
      exact absurd h_fits.1.1 h_pending
    | some result => rfl
  | refunding kind progress =>
    rw [h_phase] at h_fits
    cases progress with
    | started => exact absurd h_fits.2.1 h_delivery
    | credited => exact absurd h_fits.2.1 h_delivery
    | committed => rfl
  | rollingBack => rfl
  | finalizing => rfl
  | emitting => rfl
  | returned => rfl
  | raised => rfl

/-- The in-flight cap, and what a close can rely on, whatever happens later. -/
structure CloseSafe (maxInFlightReservations : ℕ) (s : AcquireSystem) : Prop where
  cap : s.tables.inFlightReservationIds.card + s.tables.pendingAcquireReservations.card ≤
    maxInFlightReservations
  /-- Once a close has started, no acquire becomes pending. -/
  no_new_pending : ∀ c s₁ labels s₂, s.step (.close c) = some s₁ →
    Run (Steps step) s₁ labels s₂ →
    s₂.tables.pendingAcquireReservations ⊆ s₁.tables.pendingAcquireReservations
  /-- A close reaches the cleanup of the backend only when nothing is pending or being
      delivered, and from then on no call uses the backend. -/
  cleanup_quiet : ∀ c s₁ labels s₂, s.step (.refundsDrained c) = some s₁ →
    Run (Steps step) s₁ labels s₂ →
    s.tables.Quiet ∧ s₂.tables.Quiet ∧
      ∀ i call, s₂.calls.get i = some call → call.phase.usesBackend = false

/-- Every run keeps the cap and drains before it closes the backend. -/
theorem run_closeSafe {maxInFlightReservations : ℕ} {labels : List Label}
    (h_run : Run (Steps step) (AcquireSystem.init maxInFlightReservations) labels s) :
    s.CloseSafe maxInFlightReservations := by
  have h_sound := run_sound h_run (sound_init _)
  have h_max := (run_onward h_run (sound_init _)).max
  refine ⟨?_, fun c s₁ labels s₂ h_close h_later => ?_, fun c s₁ labels s₂ h_clean h_later => ?_⟩
  · rw [show maxInFlightReservations = s.tables.maxInFlightReservations from h_max.symm]
    exact h_sound.closers.tables.cap
  · have h_sound₁ := step_sound h_sound h_close
    refine (run_onward h_later h_sound₁).pending ?_
    simp only [step] at h_close
    split at h_close
    · cases h_close
    · split at h_close
      · rename_i h_closed
        cases h_close
        exact closedOrClosing_of_closed h_closed.1
      · cases h_close
        exact Bool.or_not_self s.tables.closed
  · have h_sound₁ := step_sound h_sound h_clean
    have h_sound₂ := run_sound h_later h_sound₁
    simp only [step] at h_clean
    split at h_clean
    · rename_i h_closer
      cases h_clean
      -- the drained flag of the close stays, and goes with a quiet limiter
      have h_drained := (run_onward h_later h_sound₁).closeDrained rfl
      have h_quiet := (h_sound₂.closers.closeDrained h_drained).1
      exact ⟨h_sound.closers.quiet c _ h_closer nofun, h_quiet,
        fun i call => h_sound₂.calls.idle h_quiet⟩
    · cases h_clean

/-- A close that starts while one acquire delivers and another is in the backend waits
    for both before it cleans up. -/
theorem run_closeSafe_twoAcquires :
    ∃ s : AcquireSystem, s.CloseSafe 2 ∧ s.closers.get 0 = some .cleaning ∧
      s.tables.inFlightReservationIds = {"a"} := by
  obtain ⟨s, h_run, h_end⟩ :
      ∃ s, Run (Steps step) (AcquireSystem.init 2)
        [.begin 0 "a" true, .call 0 .gotBackend, .call 0 (.backendEnds .succeeded),
          .begin 1 "b" false, .begin 2 "c" true, .call 1 .gotBackend, .close 0,
          .begin 3 "d" true, .call 0 .resume, .call 0 .updateRuns, .call 0 .resume,
          .call 0 .emitted, .call 1 (.backendEnds .failed), .call 1 .resume, .call 1 .updateRuns,
          .closeWakes 0, .call 1 .resume, .closeResumes 0, .closeEntersLifecycle 0,
          .refundsDrained 0] s ∧
        (s.closers.get 0 = some .cleaning ∧ s.tables.inFlightReservationIds = {"a"}) :=
    exists_run_of_exec (by decide +kernel)
  exact ⟨s, run_closeSafe h_run, h_end⟩

end AcquireSystem

end TokenThrottle
