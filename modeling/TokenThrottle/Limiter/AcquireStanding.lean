/-
  TokenThrottle.Limiter.AcquireStanding

  Where the reservation of a call of `_acquire_capacity` stands in the limiter's
  tables, and what the backend has done for it, at each await point of the call.
-/
import TokenThrottle.Limiter.Acquire

namespace TokenThrottle

/-! ## Where a reservation stands -/

/-- The entries of a reservation in the limiter's tables, and how often the backend
    consumed and credited it. -/
structure Standing where
  pending : Prop
  inFlight : Prop
  delivery : Prop
  consumed : ℕ
  credited : ℕ

namespace Standing

def applyOp (st : Standing) : TableOp → Standing
  | .finalize => { st with pending := False, inFlight := True }
  | .rollback => { st with pending := False }
  | .beginDelivery => { st with delivery := True }
  | .endDelivery => { st with delivery := False }
  | .forget => { st with pending := False, inFlight := False, delivery := False }
  | .consume => { st with consumed := st.consumed + 1 }
  | .credit => { st with credited := st.credited + 1 }

def applyOps (st : Standing) (ops : List TableOp) : Standing := ops.foldl applyOp st

@[simp] theorem applyOps_nil (st : Standing) : st.applyOps [] = st := rfl

@[simp] theorem applyOps_cons (st : Standing) (op : TableOp) (ops : List TableOp) :
    st.applyOps (op :: ops) = (st.applyOp op).applyOps ops := rfl

/-- Nothing is left of the reservation in the tables. -/
def gone (st : Standing) : Prop :=
  ¬ st.pending ∧ ¬ st.inFlight ∧ ¬ st.delivery

/-- Pending and nowhere else. -/
def onlyPending (st : Standing) : Prop :=
  st.pending ∧ ¬ st.inFlight ∧ ¬ st.delivery

/-- A waiting call has credited back, once, what it consumed. -/
def settled (block : Bool) (st : Standing) : Prop :=
  block = true → st.consumed ≤ 1 ∧ st.credited = st.consumed

/-- Consumed once and not credited. -/
def owed (st : Standing) : Prop := st.consumed = 1 ∧ st.credited = 0

/-- Where the reservation of a call stands while the call is at an await point. -/
def Fits (block late : Bool) : AcquirePhase → Standing → Prop
  | .gettingBackend, st => st.onlyPending ∧ st.consumed = 0 ∧ st.credited = 0 ∧ late = false
  | .inBackend none interrupted, st =>
    st.onlyPending ∧ st.consumed = 0 ∧ st.credited = 0 ∧ late = false ∧ interrupted = false
  | .inBackend (some .succeeded) interrupted, st =>
    st.onlyPending ∧ st.owed ∧ late = interrupted
  | .inBackend (some .cleanupFailed) _, st => st.onlyPending ∧ late = false
  | .inBackend (some _) _, st => st.onlyPending ∧ settled block st ∧ late = false
  | .rollingBack _ false _, st => st.onlyPending ∧ settled block st ∧ late = false
  | .rollingBack _ true _, st => st.gone ∧ settled block st ∧ late = false
  | .finalizing .refundFailed ran _, st =>
    (st.pending ↔ ran = false) ∧ ¬ st.delivery ∧ late = false
  | .finalizing .deliver ran _, st =>
    (st.pending ↔ ran = false) ∧ (st.inFlight ↔ ran = true) ∧
      st.delivery ∧ st.owed ∧ late = false
  | .finalizing .afterCancel ran _, st =>
    (st.pending ↔ ran = false) ∧ (st.inFlight ↔ ran = true) ∧
      st.delivery ∧ st.owed ∧ late = true
  | .emitting, st =>
    ¬ st.pending ∧ st.inFlight ∧ st.delivery ∧ st.owed ∧ late = false
  | .refunding _ .started, st =>
    ¬ st.pending ∧ st.delivery ∧ st.owed ∧ block = true
  | .refunding _ .credited, st =>
    ¬ st.pending ∧ st.delivery ∧ settled block st ∧ block = true
  | .refunding _ .committed, st => st.gone ∧ settled block st ∧ block = true
  | .returned, st | .raised _, st => ¬ st.pending ∧ ¬ st.delivery

end Standing

namespace AcquireSystem

open AcquireTables

variable {s s' : AcquireSystem} {i j : AcquireCallId} {call call' : LimiterCall}
  {rid rid' : ReservationId} {label : Label}

def standing (s : AcquireSystem) (rid : ReservationId) : Standing where
  pending := rid ∈ s.tables.pendingAcquireReservations
  inFlight := rid ∈ s.tables.inFlightReservationIds
  delivery := rid ∈ s.tables.acquireDeliveryCleanupReservations
  consumed := s.consumed rid
  credited := s.credited rid

/-- An operation changes the standing of its own reservation only. -/
theorem standing_applyOp (s : AcquireSystem) (rid : ReservationId) (op : TableOp)
    (rid' : ReservationId) :
    (s.applyOp rid op).standing rid' =
      if rid' = rid then (s.standing rid).applyOp op else s.standing rid' := by
  by_cases h_eq : rid' = rid
  · subst h_eq
    rw [if_pos rfl]
    cases op with
    | finalize => simp [applyOp, standing, Standing.applyOp, finalizePendingAcquire]
    | rollback => simp [applyOp, standing, Standing.applyOp, rollbackPendingAcquire]
    | beginDelivery =>
      simp [applyOp, standing, Standing.applyOp, beginAcquireDeliveryCleanup]
    | endDelivery =>
      simp [applyOp, standing, Standing.applyOp, endAcquireDeliveryCleanup]
    | forget => simp [applyOp, standing, Standing.applyOp, forgetInFlightReservation]
    | consume => simp [applyOp, standing, Standing.applyOp]
    | credit => simp [applyOp, standing, Standing.applyOp]
  · rw [if_neg h_eq]
    cases op with
    | finalize => simp [applyOp, standing, finalizePendingAcquire, h_eq]
    | rollback => simp [applyOp, standing, rollbackPendingAcquire, h_eq]
    | beginDelivery => simp [applyOp, standing, beginAcquireDeliveryCleanup, h_eq]
    | endDelivery => simp [applyOp, standing, endAcquireDeliveryCleanup, h_eq]
    | forget => simp [applyOp, standing, forgetInFlightReservation, h_eq]
    | consume => simp [applyOp, standing, h_eq]
    | credit => simp [applyOp, standing, h_eq]

theorem standing_applyOps (s : AcquireSystem) (rid : ReservationId) (ops : List TableOp)
    (rid' : ReservationId) :
    (s.applyOps rid ops).standing rid' =
      if rid' = rid then (s.standing rid).applyOps ops else s.standing rid' := by
  induction ops generalizing s with
  | nil =>
    by_cases h_eq : rid' = rid
    · rw [if_pos h_eq, h_eq]
      rfl
    · rw [if_neg h_eq]
      rfl
  | cons op ops ih =>
    show ((s.applyOp rid op).applyOps rid ops).standing rid' = _
    rw [ih, standing_applyOp, standing_applyOp]
    by_cases h_eq : rid' = rid
    · rw [if_pos h_eq, if_pos h_eq, if_pos rfl]
      rfl
    · rw [if_neg h_eq, if_neg h_eq, if_neg h_eq]

/-- The operations leave the calls and the closes alone. -/
theorem applyOps_rest (s : AcquireSystem) (rid : ReservationId) (ops : List TableOp) :
    (s.applyOps rid ops).calls = s.calls ∧ (s.applyOps rid ops).issued = s.issued ∧
      (s.applyOps rid ops).unlimited = s.unlimited := by
  induction ops generalizing s with
  | nil => exact ⟨rfl, rfl, rfl⟩
  | cons op ops ih =>
    obtain ⟨h_calls, h_issued, h_unlimited⟩ := ih (s.applyOp rid op)
    have h_op : (s.applyOp rid op).calls = s.calls ∧ (s.applyOp rid op).issued = s.issued ∧
        (s.applyOp rid op).unlimited = s.unlimited := by
      cases op <;> exact ⟨rfl, rfl, rfl⟩
    exact ⟨h_calls.trans h_op.1, h_issued.trans h_op.2.1, h_unlimited.trans h_op.2.2⟩

end AcquireSystem

/-! ## One event of a call -/

/-- The history flag after an event. -/
def lateAfter (late : Bool) (phase : AcquirePhase) (event : AcquireEvent) : Bool :=
  late || match event, phase with
    | .cancel, .inBackend (some .succeeded) _ => true
    | _, _ => false

namespace Standing

variable {block late : Bool} {st : Standing} {phase phase' : AcquirePhase}
  {event : AcquireEvent} {ops : List TableOp}

/-- The backend task ends. -/
theorem fits_backendEnds {result : BackendResult} {interrupted : Bool}
    (h_fits : Fits block late (.inBackend none interrupted) st)
    (h_ops : result.ops block = some ops) :
    Fits block late (.inBackend (some result) interrupted) (st.applyOps ops) := by
  obtain ⟨h_pending, h_consumed, h_credited, h_late, h_interrupted⟩ := h_fits
  have h_settled : settled block st := fun _ => by
    rw [h_consumed, h_credited]
    exact ⟨Nat.zero_le 1, rfl⟩
  cases result with
  | succeeded =>
    cases h_ops
    refine ⟨h_pending, ⟨?_, h_credited⟩, h_late.trans h_interrupted.symm⟩
    show st.consumed + 1 = 1
    rw [h_consumed]
  | failed =>
    cases h_ops
    exact ⟨h_pending, h_settled, h_late⟩
  | critical =>
    cases h_ops
    exact ⟨h_pending, h_settled, h_late⟩
  | cleanupFailed =>
    cases block with
    | true =>
      cases h_ops
      exact ⟨h_pending, h_late⟩
    | false => cases h_ops
  | cancelled consumed =>
    cases consumed with
    | false =>
      cases h_ops
      exact ⟨h_pending, h_settled, h_late⟩
    | true =>
      cases block with
      | true =>
        cases h_ops
        refine ⟨h_pending, fun _ => ?_, h_late⟩
        show st.consumed + 1 ≤ 1 ∧ st.credited + 1 = st.consumed + 1
        rw [h_consumed, h_credited]
        exact ⟨le_refl 1, rfl⟩
      | false =>
        cases h_ops
        exact ⟨h_pending, nofun, h_late⟩

/-- The call goes on after its backend task. -/
theorem fits_backendResumed {result : BackendResult} {interrupted : Bool}
    (h_fits : Fits block late (.inBackend (some result) interrupted) st) :
    Fits block late (backendResumed result interrupted).2
      (st.applyOps (backendResumed result interrupted).1) := by
  cases result with
  | succeeded =>
    obtain ⟨⟨h_pending, h_inFlight, _⟩, h_owed, h_late⟩ := h_fits
    cases interrupted with
    | true =>
      exact ⟨iff_of_true h_pending rfl, iff_of_false h_inFlight nofun, trivial, h_owed, h_late⟩
    | false =>
      exact ⟨iff_of_true h_pending rfl, iff_of_false h_inFlight nofun, trivial, h_owed, h_late⟩
  | failed => exact h_fits
  | cancelled consumed => exact h_fits
  | cleanupFailed =>
    obtain ⟨⟨h_pending, _, h_delivery⟩, h_late⟩ := h_fits
    exact ⟨iff_of_true h_pending rfl, h_delivery, h_late⟩
  | critical => exact h_fits

theorem fits_undelivered {kind : RaiseKind}
    (h_pending : ¬ st.pending) (h_delivery : st.delivery) (h_owed : st.owed) :
    Fits block late (undelivered block kind).2 (st.applyOps (undelivered block kind).1) := by
  cases block with
  | true => exact ⟨h_pending, h_delivery, h_owed, rfl⟩
  | false => exact ⟨not_false, not_false⟩

/-- The call goes on after its reservation is finalized. -/
theorem fits_finalizedResumed {next : AfterFinalize} {interrupted : Bool}
    (h_fits : Fits block late (.finalizing next true interrupted) st) :
    Fits block late (finalizedResumed block next interrupted).2
      (st.applyOps (finalizedResumed block next interrupted).1) := by
  cases next with
  | deliver =>
    obtain ⟨h_pending, h_inFlight, h_delivery, h_owed, h_late⟩ := h_fits
    have h_pending : ¬ st.pending := fun h => nomatch h_pending.mp h
    cases interrupted with
    | true => exact fits_undelivered h_pending h_delivery h_owed
    | false => exact ⟨h_pending, h_inFlight.mpr rfl, h_delivery, h_owed, h_late⟩
  | afterCancel =>
    obtain ⟨h_pending, _, h_delivery, h_owed, _⟩ := h_fits
    have h_pending : ¬ st.pending := fun h => nomatch h_pending.mp h
    cases block with
    | true => exact ⟨h_pending, h_delivery, h_owed, rfl⟩
    | false => exact ⟨h_pending, not_false⟩
  | refundFailed =>
    obtain ⟨h_pending, h_delivery, _⟩ := h_fits
    exact ⟨fun h => (nomatch h_pending.mp h), h_delivery⟩

theorem fits_of_pair {next : List TableOp × AcquirePhase} (h_step : some next = some (ops, phase'))
    (h_fits : Fits block late next.2 (st.applyOps next.1)) :
    Fits block late phase' (st.applyOps ops) := by
  cases h_step
  exact h_fits

/-- A call's reservation stands where its next await point expects it. -/
theorem callStep_fits (h_step : callStep block phase event = some (ops, phase'))
    (h_fits : Fits block late phase st) :
    Fits block (lateAfter late phase event) phase' (st.applyOps ops) := by
  unfold callStep at h_step
  split at h_step
  -- getting the backend
  · cases h_step
    obtain ⟨h_pending, h_consumed, h_credited, h_late⟩ := h_fits
    refine ⟨h_pending, h_consumed, h_credited, ?_, rfl⟩
    rw [h_late]
    rfl
  · cases h_step
    obtain ⟨h_pending, h_consumed, h_credited, h_late⟩ := h_fits
    refine ⟨h_pending, fun _ => ⟨?_, ?_⟩, ?_⟩
    · exact h_consumed ▸ Nat.zero_le 1
    · exact h_credited.trans h_consumed.symm
    · rw [h_late]
      rfl
  · cases h_step
    obtain ⟨h_pending, h_consumed, h_credited, h_late⟩ := h_fits
    refine ⟨h_pending, fun _ => ⟨?_, ?_⟩, ?_⟩
    · exact h_consumed ▸ Nat.zero_le 1
    · exact h_credited.trans h_consumed.symm
    · rw [h_late]
      rfl
  -- the backend task
  · rename_i interrupted result
    cases h_ops : result.ops block with
    | none =>
      rw [h_ops] at h_step
      cases h_step
    | some ops' =>
      rw [h_ops] at h_step
      cases h_step
      have h_late : lateAfter late (.inBackend none interrupted) (.backendEnds result) = late :=
        Bool.or_false late
      rw [h_late]
      exact fits_backendEnds h_fits h_ops
  · cases h_step
    obtain ⟨h_pending, h_consumed, h_credited, h_late, h_interrupted⟩ := h_fits
    refine ⟨h_pending, h_consumed, h_credited, ?_, h_interrupted⟩
    rw [h_late]
    rfl
  · rename_i result interrupted
    cases h_step
    cases result with
    | succeeded =>
      obtain ⟨h_pending, h_owed, _⟩ := h_fits
      exact ⟨h_pending, h_owed, Bool.or_true late⟩
    | failed => exact ⟨h_fits.1, h_fits.2.1, (Bool.or_false late).trans h_fits.2.2⟩
    | cancelled => exact ⟨h_fits.1, h_fits.2.1, (Bool.or_false late).trans h_fits.2.2⟩
    | cleanupFailed => exact ⟨h_fits.1, (Bool.or_false late).trans h_fits.2⟩
    | critical => exact ⟨h_fits.1, h_fits.2.1, (Bool.or_false late).trans h_fits.2.2⟩
  · rename_i result interrupted
    have h_late : lateAfter late (.inBackend (some result) interrupted) .resume = late :=
      Bool.or_false late
    rw [h_late]
    exact fits_of_pair h_step (fits_backendResumed h_fits)
  -- the state updates
  · cases h_step
    obtain ⟨⟨_, h_inFlight, h_delivery⟩, h_settled, h_late⟩ := h_fits
    exact ⟨⟨not_false, h_inFlight, h_delivery⟩, h_settled, (Bool.or_false late).trans h_late⟩
  · rename_i outcome ran interrupted
    cases h_step
    have h_late : lateAfter late (.rollingBack outcome ran interrupted) .cancel = late :=
      Bool.or_false late
    rw [h_late]
    cases ran with
    | true => exact h_fits
    | false => exact h_fits
  · cases h_step
    obtain ⟨⟨h_pending, _, h_delivery⟩, _⟩ := h_fits
    exact ⟨h_pending, h_delivery⟩
  · rename_i next interrupted
    cases h_step
    have h_late : lateAfter late (.finalizing next false interrupted) .updateRuns = late :=
      Bool.or_false late
    rw [h_late]
    cases next with
    | deliver =>
      obtain ⟨_, _, h_rest⟩ := h_fits
      exact ⟨iff_of_false not_false nofun, iff_of_true trivial rfl, h_rest⟩
    | afterCancel =>
      obtain ⟨_, _, h_rest⟩ := h_fits
      exact ⟨iff_of_false not_false nofun, iff_of_true trivial rfl, h_rest⟩
    | refundFailed =>
      obtain ⟨_, h_rest⟩ := h_fits
      exact ⟨iff_of_false not_false nofun, h_rest⟩
  · rename_i next ran interrupted
    cases h_step
    have h_late : lateAfter late (.finalizing next ran interrupted) .cancel = late :=
      Bool.or_false late
    rw [h_late]
    cases next with
    | deliver => exact h_fits
    | afterCancel => exact h_fits
    | refundFailed => exact h_fits
  · rename_i next interrupted
    have h_late : lateAfter late (.finalizing next true interrupted) .resume = late :=
      Bool.or_false late
    rw [h_late]
    exact fits_of_pair h_step (fits_finalizedResumed h_fits)
  -- the delivery
  · cases h_step
    obtain ⟨h_pending, _⟩ := h_fits
    exact ⟨h_pending, not_false⟩
  · obtain ⟨h_pending, _, h_delivery, h_owed, _⟩ := h_fits
    exact fits_of_pair h_step (fits_undelivered h_pending h_delivery h_owed)
  · obtain ⟨h_pending, _, h_delivery, h_owed, _⟩ := h_fits
    exact fits_of_pair h_step (fits_undelivered h_pending h_delivery h_owed)
  -- the delivery refund
  · rename_i kind progress
    cases h_step
    cases progress with
    | started => exact h_fits
    | credited => exact h_fits
    | committed => exact h_fits
  · cases h_step
    obtain ⟨h_pending, h_delivery, ⟨h_consumed, h_credited⟩, h_block⟩ := h_fits
    refine ⟨h_pending, h_delivery, fun _ => ?_, h_block⟩
    show st.consumed ≤ 1 ∧ st.credited + 1 = st.consumed
    rw [h_consumed, h_credited]
    exact ⟨le_refl 1, rfl⟩
  · cases h_step
    obtain ⟨_, _, h_settled, h_block⟩ := h_fits
    exact ⟨⟨not_false, not_false, not_false⟩, h_settled, h_block⟩
  · cases h_step
    obtain ⟨⟨h_pending, _⟩, _⟩ := h_fits
    exact ⟨h_pending, not_false⟩
  · rename_i kind progress critical forgets
    cases h_step
    have h_pending : ¬ st.pending := by
      cases progress with
      | started => exact h_fits.1
      | credited => exact h_fits.1
      | committed => exact h_fits.1.1
    cases forgets with
    | true => exact ⟨not_false, not_false⟩
    | false => exact ⟨h_pending, not_false⟩
  · cases h_step

/-- The operations of a step: a pending reservation is finalized, or its delivery begins,
    or entries only go. -/
theorem callStep_ops (h_step : callStep block phase event = some (ops, phase'))
    (h_fits : Fits block late phase st) :
    (∀ op ∈ ops, op ≠ .finalize ∧ op ≠ .beginDelivery) ∨
      (ops = [.finalize] ∨ ops = [.beginDelivery]) ∧ st.pending := by
  have h_undelivered : ∀ kind, ∀ op ∈ (undelivered block kind).1,
      op ≠ .finalize ∧ op ≠ .beginDelivery := fun kind => by
    cases block <;> simp [undelivered]
  unfold callStep at h_step
  split at h_step
  case h_4 interrupted result =>
    obtain ⟨ops', h_ops, h_eq⟩ := Option.map_eq_some_iff.mp h_step
    cases h_eq
    refine .inl ?_
    cases result with
    | cancelled consumed =>
      cases consumed with
      | true => cases block <;> (cases h_ops; simp)
      | false => cases h_ops; simp
    | cleanupFailed =>
      cases block with
      | true => cases h_ops; simp
      | false => cases h_ops
    | succeeded => cases h_ops; simp
    | failed => cases h_ops; simp
    | critical => cases h_ops; simp
  case h_7 result interrupted =>
    cases result with
    | succeeded =>
      cases h_step
      exact .inr ⟨.inr rfl, h_fits.1.1⟩
    | failed => cases h_step; exact .inl nofun
    | cancelled => cases h_step; exact .inl nofun
    | cleanupFailed => cases h_step; exact .inl nofun
    | critical => cases h_step; exact .inl nofun
  case h_11 next interrupted =>
    cases h_step
    refine .inr ⟨.inl rfl, ?_⟩
    cases next with
    | deliver => exact h_fits.1.mpr rfl
    | afterCancel => exact h_fits.1.mpr rfl
    | refundFailed => exact h_fits.1.mpr rfl
  case h_13 next interrupted =>
    have h_ops := congrArg Prod.fst (Option.some.inj h_step)
    subst h_ops
    refine .inl ?_
    cases next with
    | deliver =>
      cases interrupted with
      | true => exact h_undelivered .cancelled
      | false => nofun
    | afterCancel => cases block <;> simp [finalizedResumed]
    | refundFailed => nofun
  case h_15 critical =>
    have h_ops := congrArg Prod.fst (Option.some.inj h_step)
    subst h_ops
    exact .inl (h_undelivered _)
  case h_16 =>
    have h_ops := congrArg Prod.fst (Option.some.inj h_step)
    subst h_ops
    exact .inl (h_undelivered _)
  case h_21 critical forgets =>
    cases h_step
    cases forgets <;> simp
  all_goals
    cases h_step
    try exact .inl (by simp)

end Standing

end TokenThrottle
