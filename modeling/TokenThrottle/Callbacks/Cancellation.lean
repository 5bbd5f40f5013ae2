/-
  TokenThrottle.Callbacks.Cancellation

  A cancellation of the calling task in a dispatch, and how the dispatch then ends.

  Once the task is cancelled while its callback runs, it only waits for the callback, whatever
  else arrives: `step_cancelled`.  The way the callback ends then decides the rest, and
  `cancellationSurvives_iff` says which ends let the cancellation through.
-/
import TokenThrottle.Callbacks.Dispatch

namespace TokenThrottle.Callbacks

open Theory

/-! ## What a ladder lets through -/

/-- The dispatch raises an exception that is critical for its ladder. -/
def Keeps (ladder : Ladder) (result : Result) : Prop :=
  ∃ exc, result = .raised exc ∧ isCritical ladder.critical exc = true

/-- The ladder raises on this exception: on the exception, or on what its `str` raises. -/
def Passes (ladder : Ladder) (exc : Exc) : Prop :=
  isCritical ladder.critical exc = true ∨
  ∃ error, exc.str = some error ∧ isCritical ladder.critical error = true

theorem cancelledError_passes (ladder : Ladder) : Passes ladder cancelledError := by
  left
  cases ladder <;> rfl

theorem safeInvokeAsyncCallback_returned_iff (ladder : Ladder) :
    Keeps ladder (safeInvokeAsyncCallback ladder .returned) ↔ False := by
  rw [iff_false]
  rintro ⟨exc, h_eq, -⟩
  cases h_eq

theorem safeInvokeAsyncCallback_raised_iff (ladder : Ladder) (exc : Exc) :
    Keeps ladder (safeInvokeAsyncCallback ladder (.raised exc)) ↔ Passes ladder exc := by
  unfold safeInvokeAsyncCallback Passes
  dsimp only
  by_cases h_critical : isCritical ladder.critical exc = true
  · rw [if_pos h_critical]
    exact iff_of_true ⟨exc, rfl, h_critical⟩ (.inl h_critical)
  · rw [if_neg h_critical]
    rcases h_str : exc.str with _ | error
    · simp [Keeps, h_critical]
    · simp [Keeps, h_critical]

/-- The end of a callback that lets a cancellation of the calling task through.  An exception
that masks it is replaced, unless its `str` raises; any other one must pass the ladder. -/
def Survives (d : Dispatch) : CallbackEnd → Prop
  | .returned => d.callbackTimeout.isSome = true
  | .raised exc =>
    if masksCallerCancellation exc then ∀ error, exc.str = some error → Passes d.ladder error
    else Passes d.ladder exc

theorem restoreCancellation_keeps_iff (ladder : Ladder) (exc : Exc) :
    Keeps ladder (safeInvokeAsyncCallback ladder (restoreCancellation exc)) ↔
      ∀ error, exc.str = some error → Passes ladder error := by
  unfold restoreCancellation
  rw [safeInvokeAsyncCallback_raised_iff]
  rcases h_str : exc.str with _ | error
  · simp [cancelledError_passes]
  · simp

theorem inlineResult_keeps_iff {d : Dispatch} (h_timeout : d.callbackTimeout = none)
    (finish : CallbackEnd) :
    Keeps d.ladder (safeInvokeAsyncCallback d.ladder (inlineResult true finish)) ↔
      Survives d finish := by
  cases finish with
  | returned =>
    rw [inlineResult, safeInvokeAsyncCallback_returned_iff]
    simp [Survives, h_timeout]
  | raised exc =>
    rw [inlineResult, Survives, Bool.and_true]
    by_cases h_masks : masksCallerCancellation exc = true
    · rw [if_pos h_masks, if_pos h_masks]
      exact restoreCancellation_keeps_iff d.ladder exc
    · rw [if_neg h_masks, if_neg h_masks]
      exact safeInvokeAsyncCallback_raised_iff d.ladder exc

/-- A critical class makes an exception critical for both ladders. -/
theorem isCritical_of_mem {exc : Exc} (h_mem : exc.cls ∈ lifecycleCallbackCriticalExceptions)
    (ladder : Ladder) : isCritical ladder.critical exc = true := by
  have h_ladder : exc.cls ∈ ladder.critical := by
    cases ladder with
    | lifecycle => exact h_mem
    | backend => exact List.mem_cons_of_mem _ h_mem
  unfold isCritical
  rw [Bool.or_eq_true]
  exact .inl (List.contains_iff_mem.mpr h_ladder)

theorem survives_of_mem {d : Dispatch} {exc : Exc}
    (h_mem : exc.cls ∈ lifecycleCallbackCriticalExceptions) :
    Survives d (.raised exc) ∧ Passes d.ladder exc := by
  have h_passes : Passes d.ladder exc := .inl (isCritical_of_mem h_mem d.ladder)
  have h_masks : masksCallerCancellation exc = false := by
    have h_backend := isCritical_of_mem h_mem .backend
    unfold masksCallerCancellation
    rw [show backendCallbackCriticalExceptions = Ladder.backend.critical from rfl, h_backend]
    rfl
  refine ⟨?_, h_passes⟩
  rw [Survives, if_neg (by simp [h_masks])]
  exact h_passes

/-- The carrier and the cancellation of the callback's task make no difference here. -/
theorem unwoundResult_keeps_iff {d : Dispatch} (h_timeout : d.callbackTimeout.isSome = true)
    (finish : CallbackEnd) :
    Keeps d.ladder (safeInvokeAsyncCallback d.ladder (unwoundResult (runTimedCallback finish))) ↔
      Survives d finish := by
  have h_cancelled : Keeps d.ladder (safeInvokeAsyncCallback d.ladder (.raised cancelledError)) :=
    (safeInvokeAsyncCallback_raised_iff _ _).mpr (cancelledError_passes d.ladder)
  cases finish with
  | returned => exact iff_of_true h_cancelled h_timeout
  | raised exc =>
    have h_carried (h_mem : exc.cls ∈ lifecycleCallbackCriticalExceptions) :
        Keeps d.ladder (safeInvokeAsyncCallback d.ladder (.raised exc)) ↔
          Survives d (.raised exc) := by
      obtain ⟨h_survives, h_passes⟩ := survives_of_mem (d := d) h_mem
      exact iff_of_true ((safeInvokeAsyncCallback_raised_iff _ _).mpr h_passes) h_survives
    rw [runTimedCallback]
    split
    · rename_i h_cls
      exact h_carried (by simp [h_cls, lifecycleCallbackCriticalExceptions])
    · rename_i h_cls
      exact h_carried (by simp [h_cls, lifecycleCallbackCriticalExceptions])
    · rename_i h_cls
      exact h_carried (by simp [h_cls, lifecycleCallbackCriticalExceptions])
    · rename_i h_cls
      have h_mem : exc.cls ∈ lifecycleCallbackCriticalExceptions := by
        simp [h_cls, lifecycleCallbackCriticalExceptions]
      exact iff_of_true h_cancelled (survives_of_mem h_mem).1
    · rw [unwoundResult, Survives]
      by_cases h_masks : masksCallerCancellation exc = true
      · rw [if_pos h_masks, if_pos h_masks]
        exact restoreCancellation_keeps_iff d.ladder exc
      · rw [if_neg h_masks, if_neg h_masks]
        exact safeInvokeAsyncCallback_raised_iff d.ladder exc

/-! ## Steps -/

section Inversion

variable {d : Dispatch} {s s' : State}

theorem step_cancel (h_step : step d s .cancel = some s') : s' = s.requestCancel := by
  rw [step] at h_step
  split at h_step
  · cases h_step
  · cases h_step
    rfl

theorem step_uncancel (h_step : step d s .uncancel = some s') :
    s' = { s with cancelling := s.cancelling - 1 } := by
  rw [step] at h_step
  split at h_step
  · cases h_step
  · cases h_step
    rfl

/-- A callback that is cancelled before it starts does not run. -/
theorem step_callback {finish : Option CallbackEnd}
    (h_step : step d s (.callback finish) = some s') :
    (s.callback = .notStarted true ∧ s' = { s with callback := .ended .cancelled }) ∨
    (s.callback.result? = none ∧ s' = s.runCallback d finish) := by
  rw [step] at h_step
  split at h_step
  · cases h_step
  · rename_i h_callback
    cases h_step
    exact .inl ⟨h_callback, rfl⟩
  · rename_i h_ended _
    cases h_step
    right
    cases h_callback : s.callback with
    | ended result => exact absurd h_callback (h_ended result)
    | notStarted => exact ⟨rfl, rfl⟩
    | running => exact ⟨rfl, rfl⟩

theorem step_relay (h_step : step d s .relay = some s') :
    ∃ result, s.phase = .waiting .pending ∧ s.callback = .ended result ∧
      s' = { s with phase := .waiting (.done result) } := by
  rw [step] at h_step
  split at h_step
  · rename_i result h_phase h_callback
    cases h_step
    exact ⟨result, h_phase, h_callback, rfl⟩
  · cases h_step

theorem step_deadline (h_step : step d s .deadline = some s') :
    ∃ outer, s.phase = .waiting outer ∧ s.expiring = false ∧
      s' = { s.requestCancel with expiring := true } := by
  rw [step] at h_step
  split at h_step
  · rename_i outer h_phase h_expiring
    cases h_step
    exact ⟨outer, h_phase, h_expiring, rfl⟩
  · cases h_step

theorem step_wake (h_step : step d s .wake = some s') :
    (∃ outer, s.phase = .waiting (.done outer) ∧ s' = s.leaveWait d outer) ∨
    (∃ result, s.phase = .unwinding ∧ s.callback = .ended result ∧
      s' = s.end d (unwoundResult (if s.mustCancel then .cancelled else result))) := by
  rw [step] at h_step
  split at h_step
  · rename_i outer h_phase
    cases h_step
    exact .inl ⟨outer, h_phase, rfl⟩
  · rename_i h_phase
    split at h_step
    · rename_i result h_callback
      cases h_step
      exact .inr ⟨result, h_phase, h_callback, rfl⟩
    · cases h_step
  · cases h_step

end Inversion

/-! ## Runs -/

/-- So many cancellations by others stand, beside those from before the dispatch and the one
of a deadline. -/
def State.Standing (s : State) (requests : ℕ) : Prop :=
  s.entered + requests + (if s.expiring then 1 else 0) ≤ s.cancelling

/-- A step after which as many cancellations stand: `uncancel` takes back other ones only. -/
def standingStep (d : Dispatch) (requests : ℕ) (s : State) (event : Event) (s' : State) : Prop :=
  Steps (step d) s event s' ∧ (event = .uncancel → s'.Standing requests)

/-- Such a step where the callback, if it ends, ends as `finish` says. -/
def finishStep (d : Dispatch) (requests : ℕ) (finish : CallbackEnd) (s : State) (event : Event)
    (s' : State) : Prop :=
  standingStep d requests s event s' ∧ ∀ other, event = .callback (some other) → other = finish

/-- What the calling task can await in a dispatch, by how its callback has ended. -/
def Awaits (d : Dispatch) (ended : Option TaskEnd) : Phase → Prop
  | .inline => d.callbackTimeout = none
  | .waiting outer => d.callbackTimeout.isSome = true ∧
      (ended = none → outer = .pending ∨ outer = .done .cancelled)
  | .unwinding => d.callbackTimeout.isSome = true
  | .ended _ => True

/-- What it can await once it was cancelled while the callback ran. -/
def AwaitsCancelled (d : Dispatch) (finish : CallbackEnd) (callback : Callback) : Phase → Prop
  | .inline => d.callbackTimeout = none ∧ callback = .running
  | .waiting outer => d.callbackTimeout.isSome = true ∧ outer = .done .cancelled
  | .unwinding => d.callbackTimeout.isSome = true
  | .ended result => Survives d finish → Keeps d.ladder result

/-- The calling task was cancelled while the callback ran: it waits for the callback, and the
dispatch ends well where the callback does. -/
structure Cancelled (d : Dispatch) (finish : CallbackEnd) (s : State) : Prop where
  standing : s.Standing 1
  callback : s.callback = .running ∨ s.callback = .ended (runTimedCallback finish)
  awaits : AwaitsCancelled d finish s.callback s.phase

section Steps

variable {d : Dispatch} {s s' : State} {event : Event} {finish : CallbackEnd} {requests : ℕ}

/-! ### The count of cancellations -/

theorem State.Standing.of_le (h_standing : s.Standing requests)
    (h_cancelling : s.cancelling ≤ s'.cancelling) (h_entered : s'.entered = s.entered)
    (h_expiring : s'.expiring = s.expiring) : s'.Standing requests := by
  unfold State.Standing at h_standing ⊢
  rw [h_entered, h_expiring]
  omega

@[simp] theorem requestCancel_cancelling (s : State) :
    s.requestCancel.cancelling = s.cancelling + 1 := by
  unfold State.requestCancel
  dsimp only
  split <;> (try split) <;> rfl

@[simp] theorem requestCancel_entered (s : State) : s.requestCancel.entered = s.entered := by
  unfold State.requestCancel
  dsimp only
  split <;> (try split) <;> rfl

@[simp] theorem requestCancel_expiring (s : State) : s.requestCancel.expiring = s.expiring := by
  unfold State.requestCancel
  dsimp only
  split <;> (try split) <;> rfl

/-- `cancel()` adds a request. -/
theorem requestCancel_standing (h_standing : s.Standing requests) :
    s.requestCancel.Standing (requests + 1) := by
  unfold State.Standing at h_standing ⊢
  rw [requestCancel_cancelling, requestCancel_entered, requestCancel_expiring]
  omega

/-- The deadline's own cancellation is none of them. -/
theorem expire_standing (h_standing : s.Standing requests) (h_expiring : s.expiring = false) :
    State.Standing { s.requestCancel with expiring := true } requests := by
  unfold State.Standing at h_standing ⊢
  rw [h_expiring, if_neg Bool.false_ne_true] at h_standing
  dsimp only
  rw [requestCancel_cancelling, requestCancel_entered, if_pos rfl]
  omega

/-- It is taken back with the deadline. -/
theorem exitTimeout_standing (h_standing : s.Standing requests) :
    s.exitTimeout.Standing requests := by
  unfold State.Standing State.exitTimeout at *
  cases h_expiring : s.expiring with
  | false =>
    rw [h_expiring, if_neg Bool.false_ne_true] at h_standing
    simpa using h_standing
  | true =>
    rw [h_expiring, if_pos rfl] at h_standing
    simp only [if_true, Bool.false_eq_true, if_false]
    omega

theorem leaveWait_standing (h_standing : s.Standing requests) (outer : TaskEnd) :
    (s.leaveWait d outer).Standing requests := by
  have h_exit := exitTimeout_standing h_standing
  have h_end (result : Result) : (s.exitTimeout.end d result).Standing requests := h_exit
  unfold State.leaveWait
  split
  · exact h_end _
  · exact h_end _
  · split
    · exact h_end _
    · exact h_end _
  · split
    · exact h_end _
    · split
      · exact h_end _
      · exact h_exit

theorem runCallback_standing (h_standing : s.Standing requests) (finish : Option CallbackEnd) :
    (s.runCallback d finish).Standing requests := by
  unfold State.runCallback
  split
  · exact h_standing
  · dsimp only
    split
    · exact h_standing
    · exact h_standing

theorem step_standing (h_standing : s.Standing requests)
    (h_step : standingStep d requests s event s') : s'.Standing requests := by
  obtain ⟨h_step, h_uncancel⟩ := h_step
  cases event with
  | cancel =>
    rw [step_cancel h_step]
    exact h_standing.of_le (by simp) (by simp) (by simp)
  | uncancel => exact h_uncancel rfl
  | callback finish =>
    obtain ⟨-, rfl⟩ | ⟨-, rfl⟩ := step_callback h_step
    · exact h_standing
    · exact runCallback_standing h_standing finish
  | relay =>
    obtain ⟨result, -, -, rfl⟩ := step_relay h_step
    exact h_standing
  | deadline =>
    obtain ⟨outer, -, h_expiring, rfl⟩ := step_deadline h_step
    exact expire_standing h_standing h_expiring
  | wake =>
    obtain ⟨outer, -, rfl⟩ | ⟨result, -, -, rfl⟩ := step_wake h_step
    · exact leaveWait_standing h_standing outer
    · exact h_standing

/-! ### What the task awaits -/

theorem requestCancel_phase (s : State) :
    s.requestCancel.phase = s.phase ∨
      (s.phase = .waiting .pending ∧ s.requestCancel.phase = .waiting (.done .cancelled)) := by
  unfold State.requestCancel
  dsimp only
  split
  · exact .inl rfl
  · exact .inl rfl
  · rename_i h_phase
    exact .inr ⟨h_phase, rfl⟩
  · exact .inl rfl
  · left
    split <;> rfl

/-- A callback that runs or has ended is not changed by a cancellation of the calling task. -/
theorem requestCancel_callback (s : State) :
    s.requestCancel.callback = s.callback ∨ ∃ mustCancel, s.callback = .notStarted mustCancel ∧
      s.requestCancel.callback = .notStarted true := by
  unfold State.requestCancel
  dsimp only
  split
  · exact .inl rfl
  · exact .inl rfl
  · exact .inl rfl
  · exact .inl rfl
  · split
    · exact .inl rfl
    · rename_i callback _ h_callback
      cases h_eq : s.callback with
      | ended result => exact absurd h_eq (h_callback result)
      | running => exact .inl rfl
      | notStarted mustCancel => exact .inr ⟨mustCancel, rfl, rfl⟩

theorem requestCancel_result? (s : State) :
    s.requestCancel.callback.result? = s.callback.result? := by
  rcases requestCancel_callback s with h_same | ⟨mustCancel, h_before, h_after⟩
  · rw [h_same]
  · rw [h_before, h_after]
    rfl

theorem start_awaits (d : Dispatch) (cancelling : ℕ) :
    Awaits d (start d cancelling).callback.result? (start d cancelling).phase := by
  rcases h_timeout : d.callbackTimeout with _ | seconds
  · simp [start, h_timeout, Awaits]
  · simp [start, h_timeout, Awaits]

theorem start_standing (d : Dispatch) (cancelling : ℕ) : (start d cancelling).Standing 0 := by
  unfold start
  split <;> simp [State.Standing]

theorem Awaits.cancel {ended : Option TaskEnd} (h_awaits : Awaits d ended s.phase) :
    Awaits d ended s.requestCancel.phase := by
  rcases requestCancel_phase s with h_same | ⟨h_before, h_after⟩
  · rw [h_same]
    exact h_awaits
  · rw [h_before] at h_awaits
    rw [h_after]
    exact ⟨h_awaits.1, fun _ => .inr rfl⟩

/-- The end of the callback only lifts a condition. -/
theorem Awaits.of_none {phase : Phase} (h_awaits : Awaits d none phase) (ended : Option TaskEnd) :
    Awaits d ended phase := by
  cases phase with
  | inline => exact h_awaits
  | waiting outer => exact ⟨h_awaits.1, fun _ => h_awaits.2 rfl⟩
  | unwinding => exact h_awaits
  | ended result => trivial

theorem leaveWait_awaits {outer : TaskEnd} (h_timeout : d.callbackTimeout.isSome = true)
    (ended : Option TaskEnd) : Awaits d ended (s.leaveWait d outer).phase := by
  unfold State.leaveWait
  split
  · trivial
  · trivial
  · split <;> trivial
  · split
    · trivial
    · split
      · trivial
      · exact h_timeout

theorem runCallback_awaits (h_awaits : Awaits d none s.phase) (finish : Option CallbackEnd)
    (ended : Option TaskEnd) : Awaits d ended (s.runCallback d finish).phase := by
  unfold State.runCallback
  split
  · exact h_awaits.of_none ended
  · dsimp only
    split
    · trivial
    · exact h_awaits.of_none ended

theorem step_awaits (h_awaits : Awaits d s.callback.result? s.phase)
    (h_step : Steps (step d) s event s') : Awaits d s'.callback.result? s'.phase := by
  cases event with
  | cancel =>
    rw [step_cancel h_step, requestCancel_result?]
    exact h_awaits.cancel
  | uncancel =>
    rw [step_uncancel h_step]
    exact h_awaits
  | callback finish =>
    obtain ⟨h_callback, rfl⟩ | ⟨h_none, rfl⟩ := step_callback h_step
    · rw [h_callback] at h_awaits
      exact h_awaits.of_none _
    · rw [h_none] at h_awaits
      exact runCallback_awaits h_awaits finish _
  | relay =>
    obtain ⟨result, h_phase, h_callback, rfl⟩ := step_relay h_step
    rw [h_phase] at h_awaits
    dsimp only
    rw [h_callback]
    exact ⟨h_awaits.1, fun h_none => by cases h_none⟩
  | deadline =>
    obtain ⟨outer, -, -, rfl⟩ := step_deadline h_step
    dsimp only
    rw [requestCancel_result?]
    exact h_awaits.cancel
  | wake =>
    obtain ⟨outer, h_phase, rfl⟩ | ⟨result, -, -, rfl⟩ := step_wake h_step
    · rw [h_phase] at h_awaits
      exact leaveWait_awaits h_awaits.1 _
    · trivial

/-! ### After a cancellation -/

/-- `cancel()` is only a step of a dispatch that has not ended. -/
theorem step_cancel_phase (h_step : step d s .cancel = some s') (result : Result) :
    s.phase ≠ .ended result := by
  intro h_phase
  rw [step, h_phase] at h_step
  cases h_step

theorem requestCancel_running (h_running : s.callback = .running) :
    s.requestCancel.callback = .running := by
  rcases requestCancel_callback s with h_same | ⟨_, h_before, -⟩
  · rw [h_same, h_running]
  · rw [h_running] at h_before
    cases h_before

/-- The cancellation while the callback runs. -/
theorem cancelled_of_cancel (h_awaits : Awaits d s.callback.result? s.phase)
    (h_standing : s.Standing 0) (h_running : s.callback = .running)
    (h_step : step d s .cancel = some s') (finish : CallbackEnd) : Cancelled d finish s' := by
  have h_callback := requestCancel_running h_running
  have h_unended := step_cancel_phase h_step
  rw [step_cancel h_step]
  refine ⟨requestCancel_standing h_standing, .inl h_callback, ?_⟩
  rw [h_callback]
  rw [h_running] at h_awaits
  rcases requestCancel_phase s with h_same | ⟨h_before, h_after⟩
  · rw [h_same]
    cases h_phase : s.phase with
    | inline =>
      rw [h_phase] at h_awaits
      exact ⟨h_awaits, rfl⟩
    | waiting outer =>
      rw [h_phase] at h_awaits
      rcases h_awaits.2 rfl with rfl | rfl
      · have h_after : s.requestCancel.phase = .waiting (.done .cancelled) := by
          unfold State.requestCancel
          rw [h_phase]
        rw [h_same, h_phase] at h_after
        cases h_after
      · exact ⟨h_awaits.1, rfl⟩
    | unwinding =>
      rw [h_phase] at h_awaits
      exact h_awaits
    | ended result => exact absurd h_phase (h_unended result)
  · rw [h_before] at h_awaits
    rw [h_after]
    exact ⟨h_awaits.1, rfl⟩

theorem AwaitsCancelled.cancel {callback : Callback}
    (h_awaits : AwaitsCancelled d finish callback s.phase) :
    AwaitsCancelled d finish callback s.requestCancel.phase := by
  rcases requestCancel_phase s with h_same | ⟨h_before, -⟩
  · rw [h_same]
    exact h_awaits
  · rw [h_before] at h_awaits
    cases h_awaits.2

/-- A further cancellation, of the caller or of the deadline, changes nothing. -/
theorem Cancelled.requestCancel (h_cancelled : Cancelled d finish s) :
    s.requestCancel.callback = s.callback ∧
      AwaitsCancelled d finish s.requestCancel.callback s.requestCancel.phase := by
  have h_same : s.requestCancel.callback = s.callback := by
    rcases requestCancel_callback s with h_same | ⟨_, h_before, -⟩
    · exact h_same
    · rcases h_cancelled.callback with h_callback | h_callback <;>
      · rw [h_callback] at h_before
        cases h_before
  rw [h_same]
  exact ⟨rfl, h_cancelled.awaits.cancel⟩

theorem timedOut_eq_false (h_standing : s.Standing 1) : s.timedOut = false := by
  unfold State.timedOut
  unfold State.Standing at h_standing
  cases h_expiring : s.expiring with
  | false => rfl
  | true =>
    rw [h_expiring, if_pos rfl] at h_standing
    rw [Bool.true_and, decide_eq_false_iff_not]
    omega

/-- The wait ends in `CancelledError`, as more than the deadline's own cancellation stands. -/
theorem leaveWait_cancelled (h_standing : s.Standing 1) :
    (∀ result, s.callback = .ended result →
      s.leaveWait d .cancelled = s.exitTimeout.end d (unwoundResult result)) ∧
    (s.callback = .running →
      s.leaveWait d .cancelled = { s.exitTimeout with phase := .unwinding, callback := .running }) := by
  have h_timedOut := timedOut_eq_false h_standing
  unfold State.leaveWait
  rw [ite_self]
  dsimp only
  rw [if_neg (by simp [h_timedOut])]
  constructor
  · intro result h_callback
    rw [h_callback]
  · intro h_callback
    rw [h_callback]
    rfl

/-- A cancellation that arrives with the end of the callback takes its place. -/
theorem unwoundResult_keeps (h_timeout : d.callbackTimeout.isSome = true) (mustCancel : Bool)
    (h_survives : Survives d finish) :
    Keeps d.ladder (safeInvokeAsyncCallback d.ladder
      (unwoundResult (if mustCancel then .cancelled else runTimedCallback finish))) := by
  cases mustCancel with
  | true => exact (safeInvokeAsyncCallback_raised_iff _ _).mpr (cancelledError_passes d.ladder)
  | false => exact (unwoundResult_keeps_iff h_timeout finish).mpr h_survives

theorem leaveWait_step (h_cancelled : Cancelled d finish s) {outer : TaskEnd}
    (h_phase : s.phase = .waiting (.done outer)) : Cancelled d finish (s.leaveWait d outer) := by
  have h_awaits := h_cancelled.awaits
  rw [h_phase] at h_awaits
  obtain ⟨h_timeout, h_outer⟩ := h_awaits
  cases h_outer
  have h_standing := leaveWait_standing (d := d) h_cancelled.standing .cancelled
  obtain ⟨h_ended, h_running⟩ := leaveWait_cancelled (d := d) h_cancelled.standing
  rcases h_cancelled.callback with h_callback | h_callback
  · rw [h_running h_callback] at h_standing ⊢
    exact ⟨h_standing, .inl rfl, h_timeout⟩
  · rw [h_ended _ h_callback] at h_standing ⊢
    refine ⟨h_standing, .inr h_callback, ?_⟩
    exact unwoundResult_keeps h_timeout false

theorem runCallback_cancelled (h_cancelled : Cancelled d finish s) (h_running : s.callback = .running)
    (other : Option CallbackEnd) (h_finish : ∀ ended, other = some ended → ended = finish) :
    Cancelled d finish (s.runCallback d other) := by
  have h_standing := runCallback_standing (d := d) h_cancelled.standing other
  have h_awaits := h_cancelled.awaits
  rw [h_running] at h_awaits
  cases other with
  | none => exact ⟨h_standing, .inl rfl, h_awaits⟩
  | some ended =>
    obtain rfl := h_finish ended rfl
    unfold State.runCallback at h_standing ⊢
    dsimp only at h_standing ⊢
    split
    · rename_i h_phase
      rw [h_phase] at h_awaits
      have h_pending : 0 < s.cancelling := by
        have h_before := h_cancelled.standing
        unfold State.Standing at h_before
        omega
      refine ⟨h_cancelled.standing, .inr rfl, ?_⟩
      show Survives d ended → Keeps d.ladder (safeInvokeAsyncCallback d.ladder
        (inlineResult (decide (0 < s.cancelling)) ended))
      rw [decide_eq_true h_pending]
      exact (inlineResult_keeps_iff h_awaits.1 ended).mpr
    · rename_i h_phase
      refine ⟨h_cancelled.standing, .inr rfl, ?_⟩
      dsimp only
      cases h_eq : s.phase with
      | inline => exact absurd h_eq h_phase
      | waiting outer =>
        rw [h_eq] at h_awaits
        exact h_awaits
      | unwinding =>
        rw [h_eq] at h_awaits
        exact h_awaits
      | ended result =>
        rw [h_eq] at h_awaits
        exact h_awaits

/-- Whatever arrives after the cancellation, the calling task goes on waiting for the callback. -/
theorem step_cancelled (h_cancelled : Cancelled d finish s)
    (h_step : finishStep d 1 finish s event s') : Cancelled d finish s' := by
  obtain ⟨h_step, h_finish⟩ := h_step
  have h_standing := step_standing h_cancelled.standing h_step
  have h_awaits := h_cancelled.awaits
  have h_step := h_step.1
  cases event with
  | cancel =>
    rw [step_cancel h_step] at h_standing ⊢
    obtain ⟨h_same, h_awaits⟩ := h_cancelled.requestCancel
    refine ⟨h_standing, ?_, h_awaits⟩
    rw [h_same]
    exact h_cancelled.callback
  | uncancel =>
    rw [step_uncancel h_step] at h_standing ⊢
    exact ⟨h_standing, h_cancelled.callback, h_awaits⟩
  | callback other =>
    obtain ⟨h_before, -⟩ | ⟨h_none, rfl⟩ := step_callback h_step
    · rcases h_cancelled.callback with h_callback | h_callback <;>
      · rw [h_callback] at h_before
        cases h_before
    · have h_running : s.callback = .running := by
        rcases h_cancelled.callback with h_callback | h_callback
        · exact h_callback
        · rw [h_callback] at h_none
          cases h_none
      apply runCallback_cancelled h_cancelled h_running
      intro ended h_ended
      exact h_finish ended (congrArg Event.callback h_ended)
  | relay =>
    -- the future of the shield is cancelled already
    obtain ⟨result, h_phase, -, -⟩ := step_relay h_step
    rw [h_phase] at h_awaits
    cases h_awaits.2
  | deadline =>
    obtain ⟨outer, -, -, rfl⟩ := step_deadline h_step
    obtain ⟨h_same, h_awaits⟩ := h_cancelled.requestCancel
    refine ⟨h_standing, ?_, h_awaits⟩
    dsimp only
    rw [h_same]
    exact h_cancelled.callback
  | wake =>
    obtain ⟨outer, h_phase, rfl⟩ | ⟨result, h_phase, h_result, rfl⟩ := step_wake h_step
    · exact leaveWait_step h_cancelled h_phase
    · rw [h_phase] at h_awaits
      have h_ended : result = runTimedCallback finish := by
        rcases h_cancelled.callback with h_callback | h_callback
        · rw [h_callback] at h_result
          cases h_result
        · rw [h_callback] at h_result
          cases h_result
          rfl
      rw [h_ended]
      exact ⟨h_standing, h_cancelled.callback, unwoundResult_keeps h_awaits s.mustCancel⟩

/-- Once the callback has ended, so does the dispatch. -/
theorem Cancelled.ends (h_cancelled : Cancelled d finish s) (h_ended : s.callback ≠ .running) :
    (∃ result, s.phase = .ended result) ∨
    ∃ s' result, step d s .wake = some s' ∧ s'.phase = .ended result := by
  have h_callback : s.callback = .ended (runTimedCallback finish) :=
    h_cancelled.callback.resolve_left h_ended
  have h_awaits := h_cancelled.awaits
  cases h_phase : s.phase with
  | inline =>
    rw [h_phase] at h_awaits
    exact absurd h_awaits.2 h_ended
  | waiting outer =>
    rw [h_phase] at h_awaits
    rw [h_awaits.2] at h_phase
    have h_wake : step d s .wake =
        some (s.exitTimeout.end d (unwoundResult (runTimedCallback finish))) := by
      rw [step, h_phase]
      exact congrArg some ((leaveWait_cancelled h_cancelled.standing).1 _ h_callback)
    exact .inr ⟨_, _, h_wake, rfl⟩
  | unwinding =>
    have h_wake : step d s .wake = some (s.end d (unwoundResult
        (if s.mustCancel then .cancelled else runTimedCallback finish))) := by
      rw [step, h_phase]
      dsimp only
      rw [h_callback]
    exact .inr ⟨_, _, h_wake, rfl⟩
  | ended result => exact .inl ⟨result, rfl⟩

end Steps

/-! ## Runs of a dispatch -/

/-- In every run in which the calling task is cancelled while the callback runs, and the
callback, if it ends, ends so: the dispatch, if it has ended, raises a critical exception, and
it ends with the next step of the calling task once the callback has ended. -/
def CancellationSurvives (d : Dispatch) (finish : CallbackEnd) : Prop :=
  ∀ (cancelling : ℕ) (before after : List Event) (s s' s'' : State),
    Run (standingStep d 0) (start d cancelling) before s → s.callback = .running →
    step d s .cancel = some s' → Run (finishStep d 1 finish) s' after s'' →
    (∀ result, s''.phase = .ended result → Keeps d.ladder result) ∧
    (s''.callback ≠ .running → (∃ result, s''.phase = .ended result) ∨
      ∃ t result, step d s'' .wake = some t ∧ t.phase = .ended result)

section Runs

variable {d : Dispatch} {finish : CallbackEnd}

theorem run_standing {s : State} {cancelling : ℕ} {events : List Event}
    (h_run : Run (standingStep d 0) (start d cancelling) events s) : s.Standing 0 :=
  @Run.invariant _ _ _ _ _ _ (fun s => s.Standing 0)
    (fun _ _ _ h_before h_step => step_standing h_before h_step) h_run (start_standing d cancelling)

theorem run_awaits {s : State} {cancelling : ℕ} {events : List Event}
    (h_run : Run (standingStep d 0) (start d cancelling) events s) :
    Awaits d s.callback.result? s.phase :=
  @Run.invariant _ _ _ _ _ _ (fun s => Awaits d s.callback.result? s.phase)
    (fun _ _ _ h_before h_step => step_awaits h_before h_step.1) h_run (start_awaits d cancelling)

theorem run_cancelled {s s' : State} {events : List Event}
    (h_run : Run (finishStep d 1 finish) s events s') (h_cancelled : Cancelled d finish s) :
    Cancelled d finish s' :=
  h_run.invariant (fun _ _ _ h_before h_step => step_cancelled h_before h_step) h_cancelled

theorem cancellationSurvives_of_survives (h_survives : Survives d finish) :
    CancellationSurvives d finish := by
  intro cancelling before after s s' s'' h_before h_running h_cancel h_after
  have h_cancelled := run_cancelled h_after
    (cancelled_of_cancel (run_awaits h_before) (run_standing h_before) h_running h_cancel finish)
  refine ⟨?_, h_cancelled.ends⟩
  intro result h_phase
  have h_end := h_cancelled.awaits
  rw [h_phase] at h_end
  exact h_end h_survives

theorem finishStep_of_step {s s' : State} {event : Event} {requests : ℕ}
    (h_step : step d s event = some s') (h_uncancel : event ≠ .uncancel)
    (h_finish : ∀ other, event = .callback (some other) → other = finish) :
    finishStep d requests finish s event s' :=
  ⟨⟨h_step, fun h_eq => absurd h_eq h_uncancel⟩, h_finish⟩

/-- Without a timeout: the callback ends on the cancellation. -/
theorem inline_run (h_timeout : d.callbackTimeout = none) (finish : CallbackEnd) :
    ∃ s' s'', step d (start d 0) .cancel = some s' ∧
      Run (finishStep d 1 finish) s' [.callback (some finish)] s'' ∧
      s''.phase = .ended (safeInvokeAsyncCallback d.ladder (inlineResult true finish)) := by
  obtain ⟨_, ladder⟩ := d
  cases h_timeout
  have h_end := fun other (h_event : Event.callback (some finish) = .callback (some other)) =>
    show other = finish by cases h_event; rfl
  exact ⟨_, _, rfl, .cons (finishStep_of_step rfl (by simp) h_end) (.nil _), rfl⟩

/-- With one: the calling task is woken first, and cancels the callback's task. -/
theorem timed_run {timeout : {seconds : ℚ // 0 < seconds}}
    (h_timeout : d.callbackTimeout = some timeout) (finish : CallbackEnd) :
    ∃ s s' s'', Run (standingStep d 0) (start d 0) [.callback none] s ∧ s.callback = .running ∧
      step d s .cancel = some s' ∧
      Run (finishStep d 1 finish) s' [.wake, .callback (some finish), .wake] s'' ∧
      s''.phase =
        .ended (safeInvokeAsyncCallback d.ladder (unwoundResult (runTimedCallback finish))) := by
  obtain ⟨_, ladder⟩ := d
  cases h_timeout
  have h_end := fun other (h_event : Event.callback (some finish) = .callback (some other)) =>
    show other = finish by cases h_event; rfl
  have h_started : finishStep ⟨some timeout, ladder⟩ 0 finish
      (start ⟨some timeout, ladder⟩ 0) (.callback none)
      ⟨.waiting .pending, .running, false, false, 0, 0⟩ :=
    finishStep_of_step rfl (by simp) (by simp)
  have h_run : Run (finishStep ⟨some timeout, ladder⟩ 1 finish)
      ⟨.waiting (.done .cancelled), .running, false, false, 1, 0⟩
      [.wake, .callback (some finish), .wake] _ :=
    .cons (finishStep_of_step rfl (by simp) (by simp))
      (.cons (finishStep_of_step rfl (by simp) h_end)
        (.cons (finishStep_of_step rfl (by simp) (by simp)) (.nil _)))
  exact ⟨_, _, _, .cons h_started.1 (.nil _), rfl, rfl, h_run, rfl⟩

theorem survives_of_cancellationSurvives (h_survives : CancellationSurvives d finish) :
    Survives d finish := by
  cases h_timeout : d.callbackTimeout with
  | none =>
    obtain ⟨s', s'', h_cancel, h_run, h_phase⟩ := inline_run h_timeout finish
    have h_running : (start d 0).callback = .running := by
      unfold start
      rw [h_timeout]
    have h_keeps := (h_survives 0 [] _ _ s' s'' (.nil _) h_running h_cancel h_run).1 _ h_phase
    exact (inlineResult_keeps_iff h_timeout finish).mp h_keeps
  | some timeout =>
    obtain ⟨s, s', s'', h_before, h_running, h_cancel, h_run, h_phase⟩ := timed_run h_timeout finish
    have h_keeps := (h_survives 0 _ _ s s' s'' h_before h_running h_cancel h_run).1 _ h_phase
    have h_some : d.callbackTimeout.isSome = true := by rw [h_timeout]; rfl
    exact (unwoundResult_keeps_iff h_some finish).mp h_keeps

end Runs

/-- Where the `str` of an exception does not raise, only an exception that is critical for a
backend and not for a lifecycle event is lost. -/
theorem survives_raised_iff (d : Dispatch) {exc : Exc} (h_str : exc.str = none) :
    Survives d (.raised exc) ↔
      (isCritical backendCallbackCriticalExceptions exc = true →
        isCritical d.ladder.critical exc = true) := by
  unfold Survives masksCallerCancellation Passes
  by_cases h_backend : isCritical backendCallbackCriticalExceptions exc = true
  · simp [h_backend, h_str]
  · simp [h_backend, h_str]

/-- A cancellation of the calling task survives the dispatch of a callback exactly when the
callback's end lets it. -/
theorem cancellationSurvives_iff (d : Dispatch) (finish : CallbackEnd) :
    CancellationSurvives d finish ↔ Survives d finish := by
  constructor
  · exact survives_of_cancellationSurvives
  · exact cancellationSurvives_of_survives

/-- Without a timeout a callback that swallows the cancellation and returns loses it; and so
does, for a lifecycle event, one that raises a group of which only the failed refund is critical. -/
theorem cancellationSurvives_lost :
    ¬ CancellationSurvives ⟨none, .backend⟩ .returned ∧
    ¬ CancellationSurvives ⟨some ⟨1, by decide⟩, .lifecycle⟩
      (.raised (.group [.leaf .acquireRefundFailedError])) := by
  constructor
  · intro h_survives
    have h_timeout := survives_of_cancellationSurvives h_survives
    cases h_timeout
  · intro h_survives
    have h_passes := survives_of_cancellationSurvives h_survives
    rcases h_passes with h_critical | ⟨error, h_str, -⟩
    · cases h_critical
    · cases h_str

end TokenThrottle.Callbacks
