/-
  TokenThrottle.Limiter.AcquireOutcome

  How a call of `_acquire_capacity` ends.  A call that returns leaves its reservation
  in flight and consumed once.  A call that raises leaves nothing, except for one
  path: a `record_usage` that a cancellation reaches after its backend task has
  succeeded finalizes its reservation and never forgets it.
-/
import TokenThrottle.Limiter.CloseDrain

namespace TokenThrottle

open Theory (Dict Run Steps exists_run_of_exec)

namespace Standing

variable {block late : Bool} {st : Standing} {phase phase' : AcquirePhase}
  {event : AcquireEvent} {ops : List TableOp}

/-- What a call leaves behind when it ends.  Nothing is said of a call that raises
    `AcquireRefundFailedError` or a critical exception. -/
def Consistent (block : Bool) : AcquirePhase → Standing → Prop
  | .returned, st => st.inFlight ∧ st.consumed = 1
  | .raised .cancelled, st | .raised .error, st => st.gone ∧ settled block st
  | _, _ => True

/-- A call that has nothing left, and has credited what it consumed, may raise anything. -/
theorem consistent_of_gone (h_gone : st.gone) (h_settled : settled block st) (kind : RaiseKind) :
    Consistent block (.raised kind) st := by
  cases kind with
  | cancelled => exact ⟨h_gone, h_settled⟩
  | error => exact ⟨h_gone, h_settled⟩
  | refundFailed => trivial
  | critical => trivial

/-- A record that is interrupted at its delivery forgets its reservation. -/
theorem consistent_undelivered {kind : RaiseKind}
    (h_finished : (undelivered block kind).2.finished = true) :
    block = false ∧ Consistent block (undelivered block kind).2
      (st.applyOps (undelivered block kind).1) := by
  cases block with
  | true => cases h_finished
  | false =>
    have h_gone : (st.applyOps [.forget, .endDelivery]).gone := ⟨not_false, not_false, not_false⟩
    have h_settled : settled false (st.applyOps [.forget, .endDelivery]) := nofun
    exact ⟨rfl, consistent_of_gone h_gone h_settled kind⟩

theorem consistent_finalizedResumed {next : AfterFinalize} {interrupted : Bool}
    (h_fits : Fits block late (.finalizing next true interrupted) st)
    (h_finished : (finalizedResumed block next interrupted).2.finished = true) :
    Consistent block (finalizedResumed block next interrupted).2
      (st.applyOps (finalizedResumed block next interrupted).1) ↔
        ¬ (block = false ∧ late = true) := by
  cases next with
  | deliver =>
    obtain ⟨_, _, _, _, h_late⟩ := h_fits
    cases interrupted with
    | true =>
      obtain ⟨_, h_consistent⟩ : block = false ∧ Consistent block _ (st.applyOps _) :=
        consistent_undelivered h_finished
      exact iff_of_true h_consistent fun h => by rw [h_late] at h; cases h.2
    | false => cases h_finished
  | afterCancel =>
    obtain ⟨_, h_inFlight, _, _, h_late⟩ := h_fits
    cases block with
    | true => cases h_finished
    | false =>
      -- the reservation is in flight, and stays there
      refine iff_of_false (fun h_consistent => ?_) fun h => h ⟨rfl, h_late⟩
      exact h_consistent.1.2.1 (h_inFlight.mpr rfl)
  | refundFailed =>
    obtain ⟨_, _, h_late⟩ := h_fits
    exact iff_of_true trivial fun h => by rw [h_late] at h; cases h.2

/-- A call ends consistently unless it is a record cancelled after its success. -/
theorem callStep_consistent (h_step : callStep block phase event = some (ops, phase'))
    (h_fits : Fits block late phase st) (h_finished : phase'.finished = true) :
    Consistent block phase' (st.applyOps ops) ↔ ¬ (block = false ∧ late = true) := by
  unfold callStep at h_step
  split at h_step
  case h_4 interrupted result =>
    obtain ⟨ops', _, h_eq⟩ := Option.map_eq_some_iff.mp h_step
    cases h_eq
    cases h_finished
  case h_7 result interrupted =>
    have h_phase := congrArg Prod.snd (Option.some.inj h_step)
    subst h_phase
    cases result <;> cases h_finished
  case h_10 outcome interrupted =>
    cases h_step
    obtain ⟨h_gone, h_settled, h_late⟩ := h_fits
    refine iff_of_true (consistent_of_gone h_gone h_settled _) fun h => ?_
    rw [h_late] at h
    cases h.2
  case h_13 next interrupted =>
    have h_next := Option.some.inj h_step
    have h_ops := congrArg Prod.fst h_next
    have h_phase := congrArg Prod.snd h_next
    subst h_ops h_phase
    exact consistent_finalizedResumed h_fits h_finished
  case h_14 =>
    cases h_step
    obtain ⟨_, h_inFlight, _, h_owed, h_late⟩ := h_fits
    refine iff_of_true ⟨h_inFlight, h_owed.1⟩ fun h => ?_
    rw [h_late] at h
    cases h.2
  case h_15 critical =>
    have h_next := Option.some.inj h_step
    have h_ops := congrArg Prod.fst h_next
    have h_phase := congrArg Prod.snd h_next
    subst h_ops h_phase
    obtain ⟨_, _, _, _, h_late⟩ := h_fits
    refine iff_of_true (consistent_undelivered h_finished).2 fun h => ?_
    rw [h_late] at h
    cases h.2
  case h_16 =>
    have h_next := Option.some.inj h_step
    have h_ops := congrArg Prod.fst h_next
    have h_phase := congrArg Prod.snd h_next
    subst h_ops h_phase
    obtain ⟨_, _, _, _, h_late⟩ := h_fits
    refine iff_of_true (consistent_undelivered h_finished).2 fun h => ?_
    rw [h_late] at h
    cases h.2
  case h_20 kind =>
    cases h_step
    obtain ⟨⟨h_pending, h_inFlight, _⟩, h_settled, h_block⟩ := h_fits
    have h_gone : (st.applyOps [.endDelivery]).gone := ⟨h_pending, h_inFlight, not_false⟩
    have h_settled' : settled block (st.applyOps [.endDelivery]) := h_settled
    refine iff_of_true (consistent_of_gone h_gone h_settled' kind) fun h => ?_
    rw [h_block] at h
    cases h.1
  case h_21 kind progress critical forgets =>
    cases h_step
    have h_block : block = true := by
      cases progress with
      | started => exact h_fits.2.2.2
      | credited => exact h_fits.2.2.2
      | committed => exact h_fits.2.2
    refine iff_of_true ?_ fun h => ?_
    · cases critical <;> trivial
    · rw [h_block] at h
      cases h.1
  all_goals cases h_step
  all_goals cases h_finished

/-- The event that ends a call is not the cancellation of a succeeded backend task. -/
theorem lateAfter_of_finished (late : Bool)
    (h_step : callStep block phase event = some (ops, phase'))
    (h_finished : phase'.finished = true) : lateAfter late phase event = late := by
  unfold lateAfter
  split
  · cases h_step
    cases h_finished
  · exact Bool.or_false late

end Standing

namespace AcquireSystem

variable {s s' : AcquireSystem} {i : AcquireCallId} {call call' : LimiterCall}

/-- The call leaves its reservation as the way it ended promises. -/
def EndsConsistently (s : AcquireSystem) (call : LimiterCall) : Prop :=
  Standing.Consistent call.block call.phase (s.standing call.reservationId)

/-- A call that is refused has left nothing. -/
theorem refused_endsConsistently {rid : ReservationId} (h_calls : s.CallsFit)
    (h_fresh : rid ∉ s.issued) (h_refused : (s.tables.beginPendingAcquire rid).2 = false)
    (block : Bool) (calls : Dict AcquireCallId LimiterCall) (issued : Finset ReservationId) :
    { s with
      tables := (s.tables.beginPendingAcquire rid).1
      calls := calls
      issued := issued }.EndsConsistently ⟨rid, block, .raised .error, false⟩ := by
  obtain ⟨h_pending, h_inFlight, h_delivery, h_consumed, h_credited⟩ := h_calls.absent h_fresh
  have h_settled : s.consumed rid ≤ 1 ∧ s.credited rid = s.consumed rid := by
    rw [h_consumed, h_credited]
    exact ⟨Nat.zero_le 1, rfl⟩
  rcases beginPendingAcquire_tables s.tables rid with ⟨h_ok, _⟩ | ⟨_, h_t | ⟨_, h_t⟩⟩
  · rw [h_refused] at h_ok
    cases h_ok
  · rw [h_t]
    exact ⟨⟨h_pending, h_inFlight, h_delivery⟩, fun _ => h_settled⟩
  · rw [h_t]
    exact ⟨⟨h_pending, h_inFlight, h_delivery⟩, fun _ => h_settled⟩

/-- In every run, the step that ends a call leaves its reservation consistent if and only if
    the call is not a `record_usage` that was cancelled between the success of its backend
    task and its resumption. -/
theorem run_endsConsistently_iff {maxInFlightReservations : ℕ} {labels : List Label}
    {label : Label}
    (h_run : Run (Steps step) (AcquireSystem.init maxInFlightReservations) labels s)
    (h_open : ∀ call, s.calls.get i = some call → call.phase.finished = false)
    (h_step : s.step label = some s') (h_call : s'.calls.get i = some call)
    (h_finished : call.phase.finished = true) :
    s'.EndsConsistently call ↔ ¬ (call.block = false ∧ call.cancelledAfterSuccess = true) := by
  have h_calls := (run_sound h_run (sound_init _)).calls
  -- the step is one of call `i`
  have h_moved : s'.calls.get i ≠ s.calls.get i := fun h_same => by
    have h_not := h_open call (h_same ▸ h_call)
    rw [h_finished] at h_not
    cases h_not
  cases step_effect h_step with
  | begun j rid block h_new h_fresh =>
    rcases Dict.get_set_cases h_call with ⟨rfl, rfl⟩ | ⟨h_ne, _⟩
    · cases h_ok : (s.tables.beginPendingAcquire rid).2 with
      | true =>
        rw [h_ok] at h_finished
        cases h_finished
      | false =>
        exact iff_of_true (refused_endsConsistently h_calls h_fresh h_ok block _ _) nofun
    · exact absurd (Dict.get_set_of_ne h_ne) h_moved
  | called j old event ops phase h_old h_event =>
    have h_same := (applyOps_rest s old.reservationId ops).1
    have h_call : ((s.applyOps old.reservationId ops).calls.set j (old.after event phase)).get i =
        some call := h_call
    rcases Dict.get_set_cases h_call with ⟨rfl, rfl⟩ | ⟨h_ne, h_kept⟩
    · have h_fits := h_calls.fits i old h_old
      have h_standing := standing_applyOps s old.reservationId ops old.reservationId
      rw [if_pos rfl] at h_standing
      have h_late := Standing.lateAfter_of_finished old.cancelledAfterSuccess h_event h_finished
      show Standing.Consistent old.block phase ((s.applyOps old.reservationId ops).standing
        old.reservationId) ↔ ¬ (old.block = false ∧
          lateAfter old.cancelledAfterSuccess old.phase event = true)
      rw [h_standing, h_late]
      exact Standing.callStep_consistent h_event h_fits h_finished
    · rw [h_same] at h_kept
      exact absurd (h_call.trans h_kept.symm) h_moved
  | forgot label rid h_free => exact absurd rfl h_moved
  | begunUnlimited rid h_fresh => exact absurd rfl h_moved
  | idle label lock => exact absurd rfl h_moved
  | closeStarted c => exact absurd rfl h_moved
  | closeMoved => exact absurd rfl h_moved
  | closeFailed => exact absurd rfl h_moved
  | closeCleared => exact absurd rfl h_moved

/-- An acquire cancelled in its lifecycle callback, whose delivery refund is cancelled too. -/
theorem run_endsConsistently_cancelledDelivery :
    ∃ s : AcquireSystem, s.EndsConsistently ⟨"a", true, .raised .cancelled, false⟩ ∧
      s.consumed "a" = 1 ∧ s.credited "a" = 1 := by
  obtain ⟨s, h_run, h_call, h_more⟩ :
      ∃ s, Run (Steps step) (AcquireSystem.init 1)
        [.begin 0 "a" true, .call 0 .gotBackend, .call 0 (.backendEnds .succeeded),
          .call 0 .resume, .call 0 .updateRuns, .call 0 .resume, .call 0 .cancel,
          .call 0 .refundCredits, .call 0 .cancel, .call 0 .refundCommits] s ∧
        s.calls.get 0 = some ⟨"a", true, .refunding .cancelled .committed, false⟩ ∧
        ((s.step (.call 0 .refundReturns)).any fun s' =>
          s'.calls.get 0 = some ⟨"a", true, .raised .cancelled, false⟩ ∧
            s'.consumed "a" = 1 ∧ s'.credited "a" = 1) = true :=
    exists_run_of_exec (by decide +kernel)
  obtain ⟨s', h_step, h_end⟩ := (Option.any_eq_true _ _).mp h_more
  obtain ⟨h_call', h_counts⟩ := of_decide_eq_true h_end
  have h_open : ∀ call, s.calls.get 0 = some call → call.phase.finished = false := by
    intro call h_get
    rw [h_call] at h_get
    cases h_get
    rfl
  exact ⟨s', (run_endsConsistently_iff h_run h_open h_step h_call' rfl).mpr nofun, h_counts⟩

/-- A `record_usage` cancelled after its backend task has succeeded raises
    `CancelledError` and leaves its reservation in flight. -/
theorem recordCancelledAfterSuccess_staysInFlight :
    ∃ s : AcquireSystem, Run (Steps step) (AcquireSystem.init 1)
        [.begin 0 "a" false, .call 0 .gotBackend, .call 0 (.backendEnds .succeeded),
          .call 0 .cancel, .call 0 .resume, .call 0 .updateRuns, .call 0 .resume] s ∧
      s.calls.get 0 = some ⟨"a", false, .raised .cancelled, true⟩ ∧
      "a" ∈ s.tables.inFlightReservationIds ∧
      ¬ s.EndsConsistently ⟨"a", false, .raised .cancelled, true⟩ := by
  obtain ⟨s, h_run, h_call, h_inFlight⟩ :
      ∃ s : AcquireSystem, Run (Steps step) (AcquireSystem.init 1)
        [.begin 0 "a" false, .call 0 .gotBackend, .call 0 (.backendEnds .succeeded),
          .call 0 .cancel, .call 0 .resume, .call 0 .updateRuns, .call 0 .resume] s ∧
        (s.calls.get 0 = some ⟨"a", false, .raised .cancelled, true⟩ ∧
          "a" ∈ s.tables.inFlightReservationIds) :=
    exists_run_of_exec (by decide +kernel)
  exact ⟨s, h_run, h_call, h_inFlight, fun h_ends => h_ends.1.2.1 h_inFlight⟩

end AcquireSystem

end TokenThrottle
