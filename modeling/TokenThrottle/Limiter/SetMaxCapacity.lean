/-
  TokenThrottle.Limiter.SetMaxCapacity

  `_set_max_capacity_transactional`: the backend write in a task of its own, the
  caller that waits for it and may be cancelled there any number of times, and the
  reconciliation read that decides whether the limiter remembers the limit.

  * The caller is suspended at the await of the shielded write, in the wait of a
    cancelled call for it, or in a reconciliation read.  What it does between two of
    these points is one step.
  * A cancellation is requested while the caller is suspended and delivered when it is
    resumed; by then what it awaited may have ended.
  * A `GeneratorExit` that the write task ends with is thrown into the caller's outermost
    coroutine.  Python then closes the coroutines that it awaits: a handler may still run,
    but it must not suspend again.
  * `_lock` and `_lifecycle_lock` are held throughout, so no other call of the limiter
    changes the records, and only the write changes the backend's limit.
-/
import TokenThrottle.Limiter.Rebuild
import TokenThrottle.Limiter.Config
import TokenThrottle.Theory.Dict
import TokenThrottle.Theory.Runs

namespace TokenThrottle

open Theory (Dict OrderedDict Run Steps guard steps_guard_iff exists_run_of_exec)

/-! ## The call -/

/-- The arguments of `_set_max_capacity_transactional`. -/
structure SetMaxCapacityCall where
  modelFamily : ModelFamily
  model : ModelName
  id : BucketId
  value : MaxCapacity

/-- The limiter's tables that a runtime limit is remembered in. -/
structure RuntimeTables where
  modelFamilyToModelName : Dict ModelFamily ModelName
  modelFamilyToRuntimeMaxCapacity : Dict ModelFamily RuntimeMaxCapacity

namespace RuntimeTables

/-- The runtime limit remembered for a bucket of a family. -/
def runtimeMaxCapacity (t : RuntimeTables) (family : ModelFamily) (id : BucketId) :
    Option MaxCapacity :=
  (t.modelFamilyToRuntimeMaxCapacity.get family).bind (·.get id)

/-- `_remember_runtime_max_capacity` -/
def rememberRuntimeMaxCapacity (t : RuntimeTables) (family : ModelFamily) (id : BucketId)
    (value : MaxCapacity) : RuntimeTables :=
  let overrides := (t.modelFamilyToRuntimeMaxCapacity.get family).getD .empty
  { t with
    modelFamilyToRuntimeMaxCapacity :=
      t.modelFamilyToRuntimeMaxCapacity.set family (overrides.set id value) }

/-- `_commit_runtime_max_capacity` -/
def commitRuntimeMaxCapacity (t : RuntimeTables) (call : SetMaxCapacityCall) : RuntimeTables :=
  { t with
    modelFamilyToModelName := t.modelFamilyToModelName.set call.modelFamily call.model
    }.rememberRuntimeMaxCapacity call.modelFamily call.id call.value

theorem runtimeMaxCapacity_commit (t : RuntimeTables) (call : SetMaxCapacityCall)
    (family : ModelFamily) (id : BucketId) :
    (t.commitRuntimeMaxCapacity call).runtimeMaxCapacity family id =
      if family = call.modelFamily ∧ id = call.id then some call.value
      else t.runtimeMaxCapacity family id := by
  show ((t.modelFamilyToRuntimeMaxCapacity.set _ _).get family).bind _ = _
  rw [Dict.get_set]
  by_cases h_family : family = call.modelFamily
  · rw [if_pos h_family, Option.bind_some, OrderedDict.get_set, h_family]
    by_cases h_id : id = call.id
    · rw [if_pos h_id, if_pos ⟨rfl, h_id⟩]
    · rw [if_neg h_id, if_neg fun h => h_id h.2]
      unfold runtimeMaxCapacity
      cases t.modelFamilyToRuntimeMaxCapacity.get call.modelFamily with
      | none => rfl
      | some overrides => rfl
  · rw [if_neg h_family, if_neg fun h => h_family h.1]
    rfl

@[simp] theorem runtimeMaxCapacity_commit_self (t : RuntimeTables) (call : SetMaxCapacityCall) :
    (t.commitRuntimeMaxCapacity call).runtimeMaxCapacity call.modelFamily call.id =
      some call.value := by
  rw [runtimeMaxCapacity_commit, if_pos ⟨rfl, rfl⟩]

end RuntimeTables

/-- How the write task ends. -/
inductive WriteOutcome
  | returned
  /-- `task.cancelled()` -/
  | cancelled
  | raised (exc : PyException)

/-- The task of `backend.set_max_capacity`: whether the backend has applied the value,
    and how the task has ended. -/
structure WriteTask where
  applied : Bool
  outcome : Option WriteOutcome

/-- The task has ended with an exception that meets a condition. -/
def WriteTask.raises (write : WriteTask) (p : PyException → Bool) : Bool :=
  match write.outcome with
  | some (.raised exc) => p exc
  | _ => false

/-- The exception with which Python closes a coroutine. -/
def PyException.isGeneratorExit : PyException → Bool
  | .generatorExit => true
  | _ => false

theorem WriteTask.raises_iff {write : WriteTask} {p : PyException → Bool} :
    write.raises p = true ↔ ∃ exc, write.outcome = some (.raised exc) ∧ p exc = true := by
  unfold raises
  cases write.outcome with
  | none => simp
  | some outcome => cases outcome <;> simp

/-- The await point the caller is suspended at, or how the call ended. -/
inductive SetMaxCapacityPhase
  /-- `await asyncio.shield(write_task)` in the `try`. -/
  | writing
  /-- `_wait_for_set_max_capacity_task_while_cancelled` -/
  | waiting
  /-- The reconciliation read of a call that is not cancelled: `await reader(...)`. -/
  | reading (raising : PyException)
  /-- The reconciliation read `while_cancelled`: `await asyncio.shield(read_task)`. -/
  | readingWhileCancelled (raising : PyException)
  | ended (result : Except PyException Unit)

namespace SetMaxCapacityPhase

/-- The call has ended. -/
def isOver : SetMaxCapacityPhase → Bool
  | .ended _ => true
  | _ => false

/-- The call is in a reconciliation read. -/
def reads : SetMaxCapacityPhase → Bool
  | .reading _ | .readingWhileCancelled _ => true
  | _ => false

end SetMaxCapacityPhase

/-- A call in progress. -/
structure SetMaxCapacityState where
  /-- The maximum in force for each bucket of the backend. -/
  effective : BucketId → Option MaxCapacity
  tables : RuntimeTables
  write : WriteTask
  /-- What the reconciliation reader has answered. -/
  read : Option (Option MaxCapacity)
  cancelRequested : Bool
  phase : SetMaxCapacityPhase

inductive SetMaxCapacityLabel
  | writeApplies
  | writeEnds (outcome : WriteOutcome)
  | readerAnswers
  /-- `task.cancel()` on the caller. -/
  | cancel
  /-- The caller runs to its next await point; a plain reconciliation read that it starts
      on the way suspends or answers at once. -/
  | resume (readSuspends : Bool)

/-- `math.isclose(actual, value, rel_tol=1e-12)` -/
def isClose (actual value : ℚ) : Bool :=
  |actual - value| ≤ max |actual| |value| / 1000000000000

theorem isClose_self (value : ℚ) : isClose value value = true := by
  unfold isClose
  rw [sub_self, abs_zero, max_self]
  exact decide_eq_true (by positivity)

namespace SetMaxCapacityCall

variable (call : SetMaxCapacityCall) (s : SetMaxCapacityState)

/-- `_backend_runtime_max_capacity_matches`, from what the reader answered. -/
def backendRuntimeMaxCapacityMatches : Option MaxCapacity → Bool
  | none => false
  | some actual => isClose actual.value call.value.value

/-- The last lines of `_reconcile_runtime_max_capacity_after_failed_set`, and the `raise`
    that follows it. -/
def reconciled (actual : Option MaxCapacity) (raising : PyException) : SetMaxCapacityState :=
  { s with
    tables :=
      if call.backendRuntimeMaxCapacityMatches actual then s.tables.commitRuntimeMaxCapacity call
      else s.tables
    phase := .ended (.error raising) }

/-- The lines after `_wait_for_set_max_capacity_task_while_cancelled` has returned. -/
def afterWait (outcome : WriteOutcome) : SetMaxCapacityState :=
  match outcome with
  | .cancelled => { s with phase := .readingWhileCancelled .cancelledError }
  | .returned =>
    { s with
      tables := s.tables.commitRuntimeMaxCapacity call
      phase := .ended (.error .cancelledError) }
  | .raised exc =>
    if exc.isException then { s with phase := .readingWhileCancelled .cancelledError }
    -- a `BaseException` that is no `Exception` has no branch
    else { s with phase := .ended (.error .cancelledError) }

/-- One pass of `_wait_for_set_max_capacity_task_while_cancelled`, up to its await point. -/
def waitForTask : SetMaxCapacityState :=
  match s.write.outcome with
  | none => { s with phase := .waiting }
  | some (.raised exc) =>
    if exc.isCritical then { s with phase := .readingWhileCancelled exc }
    else afterWait call s (.raised exc)
  | some outcome => afterWait call s outcome

/-- `coroutine ignored GeneratorExit`: a handler awaits in a coroutine that is being closed.
    The coroutine is left where it is, and the call ends without it. -/
def ignoredGeneratorExit : SetMaxCapacityState :=
  { s with phase := .ended (.error (.exception .runtimeError)) }

/-- The handler of a write that failed in a call that is not cancelled, up to the end of the
    reconciliation read or to its await point. -/
def afterFailure (exc : PyException) (readSuspends : Bool) : SetMaxCapacityState :=
  if !readSuspends then call.reconciled s (s.effective call.id) exc.external
  else if exc.isGeneratorExit then ignoredGeneratorExit s
  else { s with phase := .reading exc }

/-- The caller goes on from its await point; `none` when it is not to be resumed. -/
def resume (readSuspends : Bool) : Option SetMaxCapacityState :=
  let delivered := { s with cancelRequested := false }
  match s.phase with
  | .writing =>
    if s.cancelRequested then some (call.waitForTask delivered)
    else match s.write.outcome with
      | none => none
      | some .returned =>
        some { s with
          tables := s.tables.commitRuntimeMaxCapacity call
          phase := .ended (.ok ()) }
      -- the task was cancelled, not the caller: the same handler
      | some .cancelled => some (call.waitForTask s)
      | some (.raised exc) => some (call.afterFailure s exc readSuspends)
  | .waiting =>
    if s.cancelRequested then
      match s.write.outcome with
      | none => some (call.waitForTask delivered)
      -- `task.done()`: the wait is over whatever the outcome is
      | some outcome => some (call.afterWait delivered outcome)
    -- the read of the handler is shielded in a task, so it always suspends
    else if s.write.raises PyException.isGeneratorExit then some (ignoredGeneratorExit s)
    else s.write.outcome.map fun _ => call.waitForTask s
  | .reading exc =>
    if s.cancelRequested then some { delivered with phase := .ended (.error .cancelledError) }
    else s.read.map fun actual => call.reconciled s actual exc.external
  | .readingWhileCancelled exc =>
    match s.read with
    | some actual => some (call.reconciled delivered actual exc)
    | none => if s.cancelRequested then some delivered else none
  | .ended _ => none

/-- What happens at a label; `none` when it cannot. -/
def step : SetMaxCapacityLabel → Option SetMaxCapacityState
  | .writeApplies =>
    match s.write with
    | ⟨false, none⟩ =>
      some { s with
        effective := Function.update s.effective call.id (some call.value)
        write := ⟨true, none⟩ }
    | _ => none
  | .writeEnds outcome =>
    match s.write, outcome with
    | ⟨true, none⟩, .returned => some { s with write := ⟨true, some .returned⟩ }
    | ⟨false, none⟩, .returned => none
    -- a write that raises may have been applied before
    | ⟨applied, none⟩, outcome => some { s with write := ⟨applied, some outcome⟩ }
    | ⟨_, some _⟩, _ => none
  | .readerAnswers =>
    match s.phase, s.read with
    | .reading _, none | .readingWhileCancelled _, none =>
      some { s with read := some (s.effective call.id) }
    | _, _ => none
  | .cancel =>
    match s.phase with
    | .ended _ => none
    | _ => some { s with cancelRequested := true }
  | .resume readSuspends => call.resume s readSuspends

/-! ## When the record and the backend agree -/

/-- The runtime limit the limiter remembers for the bucket of the call. -/
def record : Option MaxCapacity := s.tables.runtimeMaxCapacity call.modelFamily call.id

/-- What the call owes when it ends, having started from `s₀`. -/
structure Agrees (s₀ s : SetMaxCapacityState) : Prop where
  applied : s.write.applied = true → call.record s = some call.value
  changed : call.record s ≠ call.record s₀ → s.effective call.id = call.record s
  others : ∀ family id, ¬(family = call.modelFamily ∧ id = call.id) →
    s.tables.runtimeMaxCapacity family id = s₀.tables.runtimeMaxCapacity family id

/-- The write has failed, and the resumed call ends without having asked the backend: a
    cancellation reaches the plain read; the outcome is a `BaseException` for which a
    cancelled call has no branch; or a `GeneratorExit` closes the call in a handler that
    has to suspend. -/
def givesUp (readSuspends : Bool) : Bool :=
  match s.phase with
  | .reading _ => s.cancelRequested
  | .writing =>
    if s.cancelRequested then s.write.raises fun exc => !exc.isCritical && !exc.isException
    else readSuspends && s.write.raises PyException.isGeneratorExit
  | .waiting =>
    s.write.raises fun exc =>
      !exc.isException && (s.cancelRequested || !exc.isCritical || exc.isGeneratorExit)
  | _ => false

/-- A maximum that is close to the value but another one. -/
def isCloseOnly (actual : Option MaxCapacity) : Bool :=
  call.backendRuntimeMaxCapacityMatches actual && decide (actual ≠ some call.value)

/-- The resumed call takes the maximum in force for its value, although it only is close. -/
def mistakes (readSuspends : Bool) : Bool :=
  match s.phase with
  | .writing =>
    !s.cancelRequested && !readSuspends && s.write.raises (fun _ => true) &&
      call.isCloseOnly (s.effective call.id)
  | .reading _ => !s.cancelRequested && s.read.any call.isCloseOnly
  | .readingWhileCancelled _ => s.read.any call.isCloseOnly
  | _ => false

/-- The condition on the steps of a call. -/
def settles : SetMaxCapacityLabel → Bool
  | .resume readSuspends =>
    decide (call.record s = some call.value) ||
      !(s.write.applied && givesUp s readSuspends) && !call.mistakes s readSuspends
  | _ => true

/-! ## What a resumed call does -/

/-- How the call goes on from an await point. -/
inductive Resumed (readSuspends : Bool) (s' : SetMaxCapacityState) : Prop
  /-- To another await point. -/
  | suspended (h_tables : s'.tables = s.tables) (h_over : s'.phase.isOver = false)
    (h_reads : s'.phase.reads = true → s.phase.reads = true ∨ s.write.outcome.isSome = true)
    (h_givesUp : givesUp s readSuspends = false) (h_mistakes : call.mistakes s readSuspends = false)
  /-- It has seen the write return. -/
  | committed (h_outcome : s.write.outcome = some .returned)
    (h_tables : s'.tables = s.tables.commitRuntimeMaxCapacity call) (h_over : s'.phase.isOver = true)
    (h_givesUp : givesUp s readSuspends = false) (h_mistakes : call.mistakes s readSuspends = false)
  /-- It has the answer of the reader, from before or at once. -/
  | reconciled (actual : Option MaxCapacity)
    (h_read : s.read = some actual ∨
      actual = s.effective call.id ∧ s.write.outcome.isSome = true)
    (h_tables : s'.tables =
      if call.backendRuntimeMaxCapacityMatches actual then s.tables.commitRuntimeMaxCapacity call
      else s.tables)
    (h_over : s'.phase.isOver = true) (h_givesUp : givesUp s readSuspends = false)
    (h_mistakes : call.mistakes s readSuspends = call.isCloseOnly actual)
  /-- It ends with neither. -/
  | gaveUp (h_tables : s'.tables = s.tables) (h_over : s'.phase.isOver = true)
    (h_givesUp : givesUp s readSuspends = true) (h_mistakes : call.mistakes s readSuspends = false)

variable {call : SetMaxCapacityCall} {s s₀ s' : SetMaxCapacityState} {readSuspends : Bool}

theorem isCloseOnly_iff {actual : Option MaxCapacity} : call.isCloseOnly actual = true ↔
    call.backendRuntimeMaxCapacityMatches actual = true ∧ actual ≠ some call.value := by
  simp [isCloseOnly]

theorem afterWait_resumed {delivered : SetMaxCapacityState} {outcome : WriteOutcome}
    (h_tables : delivered.tables = s.tables) (h_outcome : s.write.outcome = some outcome)
    (h_givesUp : givesUp s readSuspends = true ↔
      ∃ exc, outcome = .raised exc ∧ exc.isException = false)
    (h_mistakes : call.mistakes s readSuspends = false) :
    call.Resumed s readSuspends (call.afterWait delivered outcome) := by
  have h_some : s.write.outcome.isSome = true := by
    rw [h_outcome]
    rfl
  cases outcome with
  | returned =>
    have h_stays : givesUp s readSuspends = false := by simpa using h_givesUp
    have h_commit : (call.afterWait delivered .returned).tables =
        s.tables.commitRuntimeMaxCapacity call := congrArg (·.commitRuntimeMaxCapacity call) h_tables
    exact .committed h_outcome h_commit rfl h_stays h_mistakes
  | cancelled =>
    have h_stays : givesUp s readSuspends = false := by simpa using h_givesUp
    exact .suspended h_tables rfl (fun _ => .inr h_some) h_stays h_mistakes
  | raised exc =>
    by_cases h_exception : exc.isException = true
    · have h_stays : givesUp s readSuspends = false := by simpa [h_exception] using h_givesUp
      show call.Resumed s readSuspends (if exc.isException = true then _ else _)
      rw [if_pos h_exception]
      exact .suspended h_tables rfl (fun _ => .inr h_some) h_stays h_mistakes
    · have h_gives : givesUp s readSuspends = true :=
        h_givesUp.mpr ⟨exc, rfl, by simpa using h_exception⟩
      show call.Resumed s readSuspends (if exc.isException = true then _ else _)
      rw [if_neg h_exception]
      exact .gaveUp h_tables rfl h_gives h_mistakes

theorem waitForTask_resumed {delivered : SetMaxCapacityState}
    (h_tables : delivered.tables = s.tables) (h_write : delivered.write = s.write)
    (h_givesUp : givesUp s readSuspends = true ↔ ∃ exc, s.write.outcome = some (.raised exc) ∧
      exc.isCritical = false ∧ exc.isException = false)
    (h_mistakes : call.mistakes s readSuspends = false) :
    call.Resumed s readSuspends (call.waitForTask delivered) := by
  unfold waitForTask
  rw [h_write]
  cases h_outcome : s.write.outcome with
  | none =>
    have h_stays : givesUp s readSuspends = false := by simpa [h_outcome] using h_givesUp
    exact .suspended h_tables rfl nofun h_stays h_mistakes
  | some outcome =>
    have h_some : s.write.outcome.isSome = true := by
      rw [h_outcome]
      rfl
    cases outcome with
    | returned =>
      exact afterWait_resumed h_tables h_outcome (by simpa [h_outcome] using h_givesUp) h_mistakes
    | cancelled =>
      exact afterWait_resumed h_tables h_outcome (by simpa [h_outcome] using h_givesUp) h_mistakes
    | raised exc =>
      show call.Resumed s readSuspends (if exc.isCritical then _ else _)
      by_cases h_critical : exc.isCritical = true
      · have h_stays : givesUp s readSuspends = false := by
          simpa [h_outcome, h_critical] using h_givesUp
        rw [if_pos h_critical]
        exact .suspended h_tables rfl (fun _ => .inr h_some) h_stays h_mistakes
      · rw [if_neg h_critical]
        exact afterWait_resumed h_tables h_outcome
          (by simpa [h_outcome, h_critical] using h_givesUp) h_mistakes

theorem reconciled_resumed {delivered : SetMaxCapacityState} {actual : Option MaxCapacity}
    {raising : PyException} (h_tables : delivered.tables = s.tables)
    (h_read : s.read = some actual ∨
      actual = s.effective call.id ∧ s.write.outcome.isSome = true)
    (h_givesUp : givesUp s readSuspends = false)
    (h_mistakes : call.mistakes s readSuspends = call.isCloseOnly actual) :
    call.Resumed s readSuspends (call.reconciled delivered actual raising) := by
  refine .reconciled actual h_read ?_ rfl h_givesUp h_mistakes
  show (if _ then delivered.tables.commitRuntimeMaxCapacity call else delivered.tables) = _
  rw [h_tables]

/-- The backend, the write and the reader's answer are not the caller's to change. -/
structure Keeps (s s' : SetMaxCapacityState) : Prop where
  effective : s'.effective = s.effective
  write : s'.write = s.write
  read : s'.read = s.read

theorem afterWait_keeps (s : SetMaxCapacityState) (outcome : WriteOutcome) :
    Keeps s (call.afterWait s outcome) := by
  cases outcome with
  | returned => exact ⟨rfl, rfl, rfl⟩
  | cancelled => exact ⟨rfl, rfl, rfl⟩
  | raised exc =>
    show Keeps s (if exc.isException = true then _ else _)
    split
    · exact ⟨rfl, rfl, rfl⟩
    · exact ⟨rfl, rfl, rfl⟩

theorem waitForTask_keeps (s : SetMaxCapacityState) : Keeps s (call.waitForTask s) := by
  unfold waitForTask
  split
  · exact ⟨rfl, rfl, rfl⟩
  · split
    · exact ⟨rfl, rfl, rfl⟩
    · exact afterWait_keeps s _
  · exact afterWait_keeps s _

theorem afterFailure_keeps (s : SetMaxCapacityState) (exc : PyException)
    (readSuspends : Bool) : Keeps s (call.afterFailure s exc readSuspends) := by
  unfold afterFailure
  split
  · exact ⟨rfl, rfl, rfl⟩
  · split
    · exact ⟨rfl, rfl, rfl⟩
    · exact ⟨rfl, rfl, rfl⟩

theorem resume_keeps (h_resume : call.resume s readSuspends = some s') : Keeps s s' := by
  have h_wait := call.waitForTask_keeps s
  have h_delivered := call.waitForTask_keeps { s with cancelRequested := false }
  have h_keeps {t : SetMaxCapacityState} (h_t : Keeps { s with cancelRequested := false } t) :
      Keeps s t := ⟨h_t.effective, h_t.write, h_t.read⟩
  unfold resume at h_resume
  split at h_resume
  · split at h_resume
    · cases h_resume
      exact h_keeps h_delivered
    · split at h_resume
      · cases h_resume
      · cases h_resume
        exact ⟨rfl, rfl, rfl⟩
      · cases h_resume
        exact h_wait
      · cases h_resume
        exact afterFailure_keeps _ _ _
  · split at h_resume
    · split at h_resume
      · cases h_resume
        exact h_keeps h_delivered
      · cases h_resume
        exact h_keeps (afterWait_keeps _ _)
    · split at h_resume
      · cases h_resume
        exact ⟨rfl, rfl, rfl⟩
      · obtain ⟨_, _, rfl⟩ := Option.map_eq_some_iff.mp h_resume
        exact h_wait
  · split at h_resume
    · cases h_resume
      exact ⟨rfl, rfl, rfl⟩
    · obtain ⟨_, _, rfl⟩ := Option.map_eq_some_iff.mp h_resume
      exact ⟨rfl, rfl, rfl⟩
  · split at h_resume
    · cases h_resume
      exact ⟨rfl, rfl, rfl⟩
    · split at h_resume
      · cases h_resume
        exact ⟨rfl, rfl, rfl⟩
      · cases h_resume
  · cases h_resume

theorem givesUp_writing_iff (readSuspends : Bool) (h_phase : s.phase = .writing) :
    givesUp s readSuspends = true ↔ ∃ exc, s.write.outcome = some (.raised exc) ∧
      if s.cancelRequested then exc.isCritical = false ∧ exc.isException = false
      else readSuspends = true ∧ exc.isGeneratorExit = true := by
  unfold givesUp
  rw [h_phase]
  dsimp only
  cases s.cancelRequested with
  | true => simp [WriteTask.raises_iff]
  | false =>
    simp only [Bool.false_eq_true, if_false, Bool.and_eq_true, WriteTask.raises_iff]
    constructor
    · rintro ⟨h_suspends, exc, h_outcome, h_exit⟩
      exact ⟨exc, h_outcome, h_suspends, h_exit⟩
    · rintro ⟨exc, h_outcome, h_suspends, h_exit⟩
      exact ⟨h_suspends, exc, h_outcome, h_exit⟩

theorem givesUp_waiting_iff (readSuspends : Bool) (h_phase : s.phase = .waiting) :
    givesUp s readSuspends = true ↔ ∃ exc, s.write.outcome = some (.raised exc) ∧
      exc.isException = false ∧ (s.cancelRequested = true ∨ exc.isCritical = false ∨
        exc.isGeneratorExit = true) := by
  unfold givesUp
  rw [h_phase]
  dsimp only
  rw [WriteTask.raises_iff]
  simp [or_assoc]

/-- Where no read is made or answered, nothing can be mistaken. -/
theorem mistakes_waiting (h_phase : s.phase = .waiting) :
    call.mistakes s readSuspends = false := by
  unfold mistakes
  rw [h_phase]

theorem mistakes_writing_cancelled (h_phase : s.phase = .writing)
    (h_cancel : s.cancelRequested = true) : call.mistakes s readSuspends = false := by
  unfold mistakes
  rw [h_phase, h_cancel]
  rfl

theorem mistakes_writing (call : SetMaxCapacityCall) (readSuspends : Bool)
    (h_phase : s.phase = .writing)
    (h_cancel : s.cancelRequested = false) : call.mistakes s readSuspends =
      (!readSuspends && s.write.raises (fun _ => true) &&
        call.isCloseOnly (s.effective call.id)) := by
  unfold mistakes
  rw [h_phase, h_cancel]
  rfl

/-- A write that has failed in a call that is not cancelled. -/
theorem afterFailure_resumed {exc : PyException} (h_phase : s.phase = .writing)
    (h_cancel : s.cancelRequested = false) (h_outcome : s.write.outcome = some (.raised exc)) :
    call.Resumed s readSuspends (call.afterFailure s exc readSuspends) := by
  have h_givesUp := givesUp_writing_iff readSuspends h_phase
  have h_mistakes := mistakes_writing call readSuspends h_phase h_cancel
  have h_raises : s.write.raises (fun _ => true) = true :=
    WriteTask.raises_iff.mpr ⟨exc, h_outcome, rfl⟩
  have h_some : s.write.outcome.isSome = true := by
    rw [h_outcome]
    rfl
  rw [h_raises, Bool.and_true] at h_mistakes
  unfold afterFailure
  cases readSuspends with
  | false =>
    -- the reader answers at once
    have h_stays : givesUp s false = false := by simpa [h_cancel] using h_givesUp
    rw [Bool.not_false, Bool.true_and] at h_mistakes
    exact reconciled_resumed rfl (.inr ⟨rfl, h_some⟩) h_stays h_mistakes
  | true =>
    show call.Resumed s true (if exc.isGeneratorExit then _ else _)
    by_cases h_exit : exc.isGeneratorExit = true
    · have h_gives : givesUp s true = true := by simp [h_givesUp, h_cancel, h_outcome, h_exit]
      rw [if_pos h_exit]
      exact .gaveUp rfl rfl h_gives h_mistakes
    · have h_stays : givesUp s true = false := by
        simpa [h_cancel, h_outcome, h_exit] using h_givesUp
      rw [if_neg h_exit]
      exact .suspended rfl rfl (fun _ => .inr h_some) h_stays h_mistakes

theorem writing_resumed (h_phase : s.phase = .writing)
    (h_resume : call.resume s readSuspends = some s') : call.Resumed s readSuspends s' := by
  have h_givesUp := givesUp_writing_iff readSuspends h_phase
  cases h_cancel : s.cancelRequested with
  | true =>
    simp only [resume, h_phase, h_cancel, if_true, Option.some.injEq] at h_resume
    subst h_resume
    exact waitForTask_resumed rfl rfl (by simpa [h_cancel] using h_givesUp)
      (mistakes_writing_cancelled h_phase h_cancel)
  | false =>
    -- not cancelled: the write has ended, in one of its three ways
    cases h_outcome : s.write.outcome with
    | none => simp [resume, h_phase, h_cancel, h_outcome] at h_resume
    | some outcome =>
      cases outcome with
      | returned =>
        have h_stays : givesUp s readSuspends = false := by simpa [h_outcome] using h_givesUp
        have h_sure : call.mistakes s readSuspends = false := by
          simp [mistakes_writing call readSuspends h_phase h_cancel, WriteTask.raises, h_outcome]
        simp only [resume, h_phase, h_cancel, h_outcome, Bool.false_eq_true, if_false,
          Option.some.injEq] at h_resume
        subst h_resume
        exact .committed h_outcome rfl rfl h_stays h_sure
      | cancelled =>
        have h_stays : givesUp s readSuspends = false := by simpa [h_outcome] using h_givesUp
        have h_sure : call.mistakes s readSuspends = false := by
          simp [mistakes_writing call readSuspends h_phase h_cancel, WriteTask.raises, h_outcome]
        simp only [resume, h_phase, h_cancel, h_outcome, Bool.false_eq_true, if_false,
          Option.some.injEq] at h_resume
        subst h_resume
        exact waitForTask_resumed rfl rfl (by simp [h_outcome, h_stays]) h_sure
      | raised exc =>
        simp only [resume, h_phase, h_cancel, h_outcome, Bool.false_eq_true, if_false,
          Option.some.injEq] at h_resume
        subst h_resume
        exact afterFailure_resumed h_phase h_cancel h_outcome

theorem waiting_resumed (h_phase : s.phase = .waiting)
    (h_resume : call.resume s readSuspends = some s') : call.Resumed s readSuspends s' := by
  have h_mistakes : call.mistakes s readSuspends = false := mistakes_waiting h_phase
  have h_givesUp := givesUp_waiting_iff readSuspends h_phase
  cases h_outcome : s.write.outcome with
  | none =>
    cases h_cancel : s.cancelRequested with
    | true =>
      simp only [resume, h_phase, h_cancel, h_outcome, if_true, Option.some.injEq] at h_resume
      subst h_resume
      exact waitForTask_resumed rfl rfl (by simpa [h_outcome] using h_givesUp) h_mistakes
    | false => simp [resume, h_phase, h_cancel, h_outcome, WriteTask.raises] at h_resume
  | some outcome =>
    cases h_cancel : s.cancelRequested with
    | true =>
      simp only [resume, h_phase, h_cancel, h_outcome, if_true, Option.some.injEq] at h_resume
      subst h_resume
      exact afterWait_resumed rfl h_outcome
        (by simpa [h_outcome, h_cancel] using h_givesUp) h_mistakes
    | false =>
      by_cases h_exit : s.write.raises PyException.isGeneratorExit = true
      · have h_gives : givesUp s readSuspends = true := by
          obtain ⟨exc, h_raised, h_exit⟩ := WriteTask.raises_iff.mp h_exit
          refine h_givesUp.mpr ⟨exc, h_raised, ?_, .inr (.inr h_exit)⟩
          cases exc with
          | generatorExit => rfl
          | _ => cases h_exit
        have h_ended : ignoredGeneratorExit s = s' := by
          simpa [resume, h_phase, h_cancel, h_exit] using h_resume
        subst h_ended
        exact .gaveUp rfl rfl h_gives h_mistakes
      · have h_task : call.waitForTask s = s' := by
          simpa [resume, h_phase, h_cancel, h_exit, h_outcome] using h_resume
        have h_other : ∀ exc, s.write.outcome = some (.raised exc) →
            exc.isGeneratorExit = false := by
          intro exc h_raised
          by_contra h_is
          exact h_exit (WriteTask.raises_iff.mpr ⟨exc, h_raised, by simpa using h_is⟩)
        subst h_task
        refine waitForTask_resumed rfl rfl (h_givesUp.trans ?_) h_mistakes
        refine exists_congr fun exc => and_congr_right fun h_raised => ?_
        simp [h_cancel, h_other exc h_raised, and_comm]

theorem reading_resumed {exc : PyException} (h_phase : s.phase = .reading exc)
    (h_resume : call.resume s readSuspends = some s') : call.Resumed s readSuspends s' := by
  have h_givesUp : givesUp s readSuspends = s.cancelRequested := by
    unfold givesUp
    rw [h_phase]
  have h_mistakes : call.mistakes s readSuspends =
      (!s.cancelRequested && s.read.any call.isCloseOnly) := by
    unfold mistakes
    rw [h_phase]
  cases h_cancel : s.cancelRequested with
  | true =>
    rw [h_cancel] at h_givesUp h_mistakes
    simp only [resume, h_phase, h_cancel, if_true, Option.some.injEq] at h_resume
    subst h_resume
    exact .gaveUp rfl rfl h_givesUp h_mistakes
  | false =>
    rw [h_cancel] at h_givesUp h_mistakes
    simp only [resume, h_phase, h_cancel, Bool.false_eq_true, if_false] at h_resume
    obtain ⟨actual, h_read, rfl⟩ := Option.map_eq_some_iff.mp h_resume
    rw [h_read] at h_mistakes
    exact reconciled_resumed rfl (.inl h_read) h_givesUp h_mistakes

theorem readingWhileCancelled_resumed {exc : PyException}
    (h_phase : s.phase = .readingWhileCancelled exc)
    (h_resume : call.resume s readSuspends = some s') : call.Resumed s readSuspends s' := by
  have h_givesUp : givesUp s readSuspends = false := by
    unfold givesUp
    rw [h_phase]
  have h_mistakes : call.mistakes s readSuspends = s.read.any call.isCloseOnly := by
    unfold mistakes
    rw [h_phase]
  cases h_read : s.read with
  | some actual =>
    rw [h_read] at h_mistakes
    simp only [resume, h_phase, h_read, Option.some.injEq] at h_resume
    subst h_resume
    exact reconciled_resumed rfl (.inl h_read) h_givesUp h_mistakes
  | none =>
    rw [h_read] at h_mistakes
    have h_reads : s.phase.reads = true := by
      rw [h_phase]
      rfl
    simp only [resume, h_phase, h_read] at h_resume
    split at h_resume
    · cases h_resume
      exact .suspended rfl rfl (fun _ => .inl h_reads) h_givesUp h_mistakes
    · cases h_resume

theorem resume_cases (h_resume : call.resume s readSuspends = some s') :
    call.Resumed s readSuspends s' := by
  cases h_phase : s.phase with
  | writing => exact writing_resumed h_phase h_resume
  | waiting => exact waiting_resumed h_phase h_resume
  | reading exc => exact reading_resumed h_phase h_resume
  | readingWhileCancelled exc => exact readingWhileCancelled_resumed h_phase h_resume
  | ended result => simp [resume, h_phase] at h_resume

/-! ## Every run -/

/-- A call that has just been started. -/
structure Starts (s : SetMaxCapacityState) : Prop where
  write : s.write = ⟨false, none⟩
  read : s.read = none
  cancelRequested : s.cancelRequested = false
  phase : s.phase = .writing

/-- What holds of a call in progress that was started in `s₀`. -/
structure InProgress (call : SetMaxCapacityCall) (s₀ s : SetMaxCapacityState) : Prop where
  phase : s.phase.isOver = false
  tables : s.tables = s₀.tables
  applied : s.write.applied = true → s.effective call.id = some call.value
  returned : s.write.outcome = some .returned → s.write.applied = true
  read : ∀ actual, s.read = some actual → actual = s.effective call.id
  reading : s.phase.reads = true ∨ s.read.isSome = true → s.write.outcome.isSome = true

/-- A call that has ended; its write had ended before. -/
structure Finished (s : SetMaxCapacityState) : Prop where
  isOver : s.phase.isOver = true
  done : s.write.outcome.isSome = true

theorem Starts.inProgress (h_starts : Starts s) : InProgress call s s where
  phase := by
    rw [h_starts.phase]
    rfl
  tables := rfl
  applied h_applied := by
    rw [h_starts.write] at h_applied
    cases h_applied
  returned h_returned := by
    rw [h_starts.write] at h_returned
    cases h_returned
  read actual h_read := by
    rw [h_starts.read] at h_read
    cases h_read
  reading h_reading := by
    rw [h_starts.phase, h_starts.read] at h_reading
    rcases h_reading with h_reads | h_some
    · cases h_reads
    · cases h_some

theorem reads_or_done_of_givesUp (h_givesUp : givesUp s readSuspends = true) :
    s.phase.reads = true ∨ s.write.outcome.isSome = true := by
  cases h_phase : s.phase with
  | reading exc => exact .inl rfl
  | writing =>
    obtain ⟨exc, h_outcome, _⟩ := (givesUp_writing_iff readSuspends h_phase).mp h_givesUp
    exact .inr (by rw [h_outcome]; rfl)
  | waiting =>
    obtain ⟨exc, h_outcome, _⟩ := (givesUp_waiting_iff readSuspends h_phase).mp h_givesUp
    exact .inr (by rw [h_outcome]; rfl)
  | readingWhileCancelled exc => exact .inl rfl
  | ended result =>
    unfold givesUp at h_givesUp
    rw [h_phase] at h_givesUp
    cases h_givesUp

theorem settles_resume_iff :
    call.settles s (.resume readSuspends) = true ↔ call.record s = some call.value ∨
      ¬(s.write.applied = true ∧ givesUp s readSuspends = true) ∧
        call.mistakes s readSuspends = false := by
  simp [settles, Decidable.imp_iff_not_or]

/-- The tables of an ended call that has not committed. -/
theorem agrees_of_tables (h_tables : s'.tables = s₀.tables) :
    call.Agrees s₀ s' ↔ (s'.write.applied = true → call.record s' = some call.value) := by
  refine ⟨Agrees.applied, fun h_applied => ⟨h_applied, fun h_changed => ?_, fun family id _ => ?_⟩⟩
  · have h_record : call.record s' = call.record s₀ :=
      congrArg (·.runtimeMaxCapacity call.modelFamily call.id) h_tables
    exact (h_changed h_record).elim
  · rw [h_tables]

/-- The tables of an ended call that has committed. -/
theorem agrees_of_commit (h_tables : s'.tables = s₀.tables.commitRuntimeMaxCapacity call) :
    call.Agrees s₀ s' ↔
      (call.record s₀ ≠ some call.value → s'.effective call.id = some call.value) := by
  have h_record : call.record s' = some call.value := by
    unfold record
    rw [h_tables, RuntimeTables.runtimeMaxCapacity_commit_self]
  constructor
  · intro h_agrees h_ne
    rw [← h_record]
    apply h_agrees.changed
    rw [h_record]
    exact h_ne.symm
  · intro h_effective
    refine ⟨fun _ => h_record, fun h_changed => ?_, fun family id h_other => ?_⟩
    · rw [h_record] at h_changed ⊢
      exact h_effective h_changed.symm
    · rw [h_tables, RuntimeTables.runtimeMaxCapacity_commit, if_neg h_other]

/-- A resumed call goes on as it should, or it ends, and then the condition decides. -/
theorem InProgress.resume (h_inv : InProgress call s₀ s)
    (h_resume : call.resume s readSuspends = some s') :
    (InProgress call s₀ s' ∧ call.settles s (.resume readSuspends) = true) ∨
      (Finished s' ∧ (call.Agrees s₀ s' ↔ call.settles s (.resume readSuspends) = true)) := by
  have h_record : call.record s = call.record s₀ :=
    congrArg (·.runtimeMaxCapacity call.modelFamily call.id) h_inv.tables
  obtain ⟨h_effective, h_write, h_read⟩ := resume_keeps h_resume
  rw [settles_resume_iff]
  cases resume_cases h_resume with
  | suspended h_tables h_over h_reads h_givesUp h_mistakes =>
    refine .inl ⟨⟨h_over, h_tables.trans h_inv.tables, ?_, ?_, ?_, ?_⟩, .inr ⟨?_, h_mistakes⟩⟩
    · rw [h_write, h_effective]
      exact h_inv.applied
    · rw [h_write]
      exact h_inv.returned
    · rw [h_read, h_effective]
      exact h_inv.read
    · rw [h_write, h_read]
      rintro (h_reading | h_some)
      · exact (h_reads h_reading).elim (fun h => h_inv.reading (.inl h)) fun h_some => h_some
      · exact h_inv.reading (.inr h_some)
    · rw [h_givesUp]
      nofun
  | committed h_outcome h_tables h_over h_givesUp h_mistakes =>
    have h_applied := h_inv.applied (h_inv.returned h_outcome)
    have h_done : s'.write.outcome.isSome = true := by
      rw [h_write, h_outcome]
      rfl
    refine .inr ⟨⟨h_over, h_done⟩, ?_⟩
    rw [agrees_of_commit (h_inv.tables ▸ h_tables), h_effective, h_givesUp, h_mistakes]
    simp [h_applied]
  | reconciled actual h_answer h_tables h_over h_givesUp h_mistakes =>
    obtain ⟨h_actual, h_done⟩ : actual = s.effective call.id ∧
        s.write.outcome.isSome = true := by
      rcases h_answer with h_answer | h_answer
      · exact ⟨h_inv.read actual h_answer, h_inv.reading (.inr (by rw [h_answer]; rfl))⟩
      · exact h_answer
    have h_done : s'.write.outcome.isSome = true := h_write ▸ h_done
    refine .inr ⟨⟨h_over, h_done⟩, ?_⟩
    by_cases h_matches : call.backendRuntimeMaxCapacityMatches actual = true
    · rw [if_pos h_matches] at h_tables
      rw [agrees_of_commit (h_inv.tables ▸ h_tables), h_effective, ← h_actual, h_record, h_givesUp]
      by_cases h_eq : actual = some call.value
      · have h_stays : call.mistakes s readSuspends = false := by
          simpa [h_eq, isCloseOnly] using h_mistakes
        simp [h_eq, h_stays]
      · have h_mistaken : call.mistakes s readSuspends = true :=
          h_mistakes.trans (isCloseOnly_iff.mpr ⟨h_matches, h_eq⟩)
        simp [h_eq, h_mistaken]
    · rw [if_neg h_matches] at h_tables
      have h_stays : call.mistakes s readSuspends = false := by
        simpa [h_matches, isCloseOnly] using h_mistakes
      -- an applied value would have matched
      have h_not_applied : s.write.applied = false := by
        by_contra h_applied
        rw [h_inv.applied (by simpa using h_applied)] at h_actual
        apply h_matches
        rw [h_actual]
        exact isClose_self _
      rw [agrees_of_tables (h_tables.trans h_inv.tables), h_write, h_not_applied, h_stays]
      simp
  | gaveUp h_tables h_over h_givesUp h_mistakes =>
    have h_record' : call.record s' = call.record s :=
      congrArg (·.runtimeMaxCapacity call.modelFamily call.id) h_tables
    have h_done : s'.write.outcome.isSome = true :=
      h_write ▸ (reads_or_done_of_givesUp h_givesUp).elim (fun h_reads => h_inv.reading (.inl h_reads))
        fun h_some => h_some
    refine .inr ⟨⟨h_over, h_done⟩, ?_⟩
    rw [agrees_of_tables (h_tables.trans h_inv.tables), h_write, h_record', h_givesUp, h_mistakes]
    by_cases h_applied : s.write.applied = true
    · simp [h_applied]
    · simp [h_applied]

/-- The other steps leave the limiter's tables alone. -/
theorem InProgress.step {label : SetMaxCapacityLabel} (h_inv : InProgress call s₀ s)
    (h_ne : ∀ readSuspends, label ≠ .resume readSuspends)
    (h_step : call.step s label = some s') : InProgress call s₀ s' := by
  obtain ⟨h_phase, h_tables, h_applied, h_returned, h_read, h_reading⟩ := h_inv
  cases label with
  | writeApplies =>
    simp only [SetMaxCapacityCall.step] at h_step
    split at h_step
    · rename_i h_write
      rw [h_write] at h_reading
      cases h_step
      refine ⟨h_phase, h_tables, fun _ => Function.update_self .., nofun, ?_, h_reading⟩
      intro actual h_answer
      -- the reader has not answered: it starts only after the write has ended
      cases h_reading (.inr (by rw [h_answer]; rfl))
    · cases h_step
  | writeEnds outcome =>
    simp only [SetMaxCapacityCall.step] at h_step
    split at h_step
    · rename_i h_write
      rw [h_write] at h_applied
      cases h_step
      exact ⟨h_phase, h_tables, h_applied, fun _ => rfl, h_read, fun _ => rfl⟩
    · cases h_step
    · rename_i applied h_write _ h_not_returned
      rw [h_write] at h_applied
      cases h_step
      refine ⟨h_phase, h_tables, h_applied, ?_, h_read, fun _ => rfl⟩
      intro h_outcome
      cases applied with
      | true => rfl
      | false => exact (h_not_returned (Option.some.inj h_outcome) rfl).elim
    · cases h_step
  | readerAnswers =>
    simp only [SetMaxCapacityCall.step] at h_step
    split at h_step
    · rename_i h_reads _
      cases h_step
      refine ⟨h_phase, h_tables, h_applied, h_returned, ?_, fun _ => h_reading (.inl ?_)⟩
      · intro actual h_answer
        exact (Option.some.inj h_answer).symm
      · rw [h_reads]
        rfl
    · rename_i h_reads _
      cases h_step
      refine ⟨h_phase, h_tables, h_applied, h_returned, ?_, fun _ => h_reading (.inl ?_)⟩
      · intro actual h_answer
        exact (Option.some.inj h_answer).symm
      · rw [h_reads]
        rfl
    · cases h_step
  | cancel =>
    simp only [SetMaxCapacityCall.step] at h_step
    split at h_step
    · cases h_step
    · cases h_step
      exact ⟨h_phase, h_tables, h_applied, h_returned, h_read, h_reading⟩
  | resume readSuspends => exact (h_ne readSuspends rfl).elim


/-- A call that has ended takes no step. -/
theorem Finished.step {label : SetMaxCapacityLabel} (h_finished : Finished s) :
    call.step s label = none := by
  obtain ⟨h_over, h_done⟩ := h_finished
  obtain ⟨effective, tables, ⟨applied, outcome⟩, read, cancelRequested, phase⟩ := s
  obtain ⟨result, rfl⟩ : ∃ result, phase = .ended result := by
    cases phase with
    | ended result => exact ⟨result, rfl⟩
    | writing => cases h_over
    | waiting => cases h_over
    | reading => cases h_over
    | readingWhileCancelled => cases h_over
  obtain ⟨outcome, rfl⟩ := Option.isSome_iff_exists.mp h_done
  cases label with
  | writeEnds ending => cases applied <;> cases ending <;> rfl
  | writeApplies => cases applied <;> rfl
  | readerAnswers => rfl
  | cancel => rfl
  | resume readSuspends => rfl

/-- The rest of a run that is in progress. -/
theorem InProgress.agrees_iff {labels : List SetMaxCapacityLabel}
    (h_run : Run (Steps call.step) s labels s') (h_over : s'.phase.isOver = true)
    (h_inv : InProgress call s₀ s) :
    call.Agrees s₀ s' ↔ Run (Steps (guard call.step call.settles)) s labels s' := by
  induction h_run with
  | nil s =>
    rw [h_inv.phase] at h_over
    cases h_over
  | @cons s t s' label labels h_step h_rest ih =>
    have h_iff : Run (Steps (guard call.step call.settles)) s (label :: labels) s' ↔
        call.settles s label = true ∧ Run (Steps (guard call.step call.settles)) t labels s' := by
      constructor
      · intro h_clean
        cases h_clean with
        | cons h_first h_then =>
          obtain ⟨h_settles, h_first⟩ := steps_guard_iff.mp h_first
          obtain rfl := Option.some.inj (h_first.symm.trans h_step)
          exact ⟨h_settles, h_then⟩
      · rintro ⟨h_settles, h_clean⟩
        exact .cons (steps_guard_iff.mpr ⟨h_settles, h_step⟩) h_clean
    rw [h_iff]
    have h_goes (h_inv' : InProgress call s₀ t) (h_settles : call.settles s label = true) :
        call.Agrees s₀ s' ↔ call.settles s label = true ∧
          Run (Steps (guard call.step call.settles)) t labels s' := by
      rw [ih h_over h_inv', h_settles]
      exact ⟨fun h_clean => ⟨rfl, h_clean⟩, And.right⟩
    by_cases h_resume : ∃ readSuspends, label = .resume readSuspends
    · obtain ⟨readSuspends, rfl⟩ := h_resume
      rcases h_inv.resume h_step with ⟨h_inv', h_settles⟩ | ⟨h_finished, h_agrees⟩
      · exact h_goes h_inv' h_settles
      · cases h_rest with
        | nil => exact h_agrees.trans ⟨fun h => ⟨h, .nil _⟩, And.left⟩
        | cons h_next _ =>
          rw [Steps, h_finished.step] at h_next
          cases h_next
    · have h_settles : call.settles s label = true := by
        cases label with
        | resume readSuspends => exact (h_resume ⟨readSuspends, rfl⟩).elim
        | writeApplies => rfl
        | writeEnds => rfl
        | readerAnswers => rfl
        | cancel => rfl
      exact h_goes (h_inv.step (fun _ h_eq => h_resume ⟨_, h_eq⟩) h_step) h_settles

/-- Whatever the write does and however often the caller is cancelled, the record and
    the backend agree when the call has ended if and only if every step of it met the
    condition. -/
theorem run_agrees_iff {labels : List SetMaxCapacityLabel} (h_starts : Starts s₀)
    (h_run : Run (Steps call.step) s₀ labels s) (h_over : s.phase.isOver = true) :
    call.Agrees s₀ s ↔ Run (Steps (guard call.step call.settles)) s₀ labels s :=
  h_starts.inProgress.agrees_iff h_run h_over

/-! ## Lost limits -/

/-- Fifty tokens per minute for the family `m`. -/
def setFifty : SetMaxCapacityCall :=
  ⟨"m", "model", tokensPerMinute, 50, by norm_num [minMaxCapacity]⟩

/-- The call has just been started; the maximum in force is the quota. -/
def setFiftyStarts : SetMaxCapacityState where
  effective _ := some oneHundred
  tables := ⟨.empty, .empty⟩
  write := ⟨false, none⟩
  read := none
  cancelRequested := false
  phase := .writing

/-- The write is applied and fails, and the caller is cancelled in the reconciliation
    read: the backend has the limit and the limiter does not remember it. -/
theorem cancelledRead_disagrees :
    ∃ s, Run (Steps setFifty.step) setFiftyStarts
        [.writeApplies, .writeEnds (.raised (.exception .other)), .resume true, .cancel,
          .resume true] s ∧
      s.phase.isOver = true ∧ s.effective tokensPerMinute = some setFifty.value ∧
      ¬setFifty.Agrees setFiftyStarts s := by
  obtain ⟨s, h_run, h_over, h_applied, h_effective, h_record⟩ :
      ∃ s, Run (Steps setFifty.step) setFiftyStarts
        [.writeApplies, .writeEnds (.raised (.exception .other)), .resume true, .cancel,
          .resume true] s ∧
        (s.phase.isOver = true ∧ s.write.applied = true ∧
          s.effective tokensPerMinute = some setFifty.value ∧ setFifty.record s = none) :=
    exists_run_of_exec (by decide +kernel)
  refine ⟨s, h_run, h_over, h_effective, fun h_agrees => ?_⟩
  rw [h_agrees.applied h_applied] at h_record
  cases h_record

/-- The write is applied and its task is interrupted by a `SystemExit`; the caller is
    cancelled while it waits, and twice in the read that follows: the limit is remembered. -/
theorem run_agrees_iff_cancelledThrice :
    ∃ s, setFifty.Agrees setFiftyStarts s ∧
      setFifty.record s = some setFifty.value := by
  obtain ⟨s, h_run, h_over, h_record⟩ :
      ∃ s, Run (Steps (guard setFifty.step setFifty.settles)) setFiftyStarts
        [.writeApplies, .cancel, .resume true, .writeEnds (.raised .systemExit), .resume true,
          .cancel, .resume true, .cancel, .readerAnswers, .resume true] s ∧
        (s.phase.isOver = true ∧ setFifty.record s = some setFifty.value) :=
    exists_run_of_exec (by decide +kernel)
  have h_starts : Starts setFiftyStarts := ⟨rfl, rfl, rfl, rfl⟩
  have h_any : Run (Steps setFifty.step) setFiftyStarts _ s :=
    h_run.mono fun _ _ _ h_step => (steps_guard_iff.mp h_step).2
  exact ⟨s, (run_agrees_iff h_starts h_any h_over).mpr h_run, h_record⟩

/-- Interrupted by a `GeneratorExit` instead, the same wait ends in a `RuntimeError` and the
    backend is never asked. -/
example : (Theory.exec setFifty.step setFiftyStarts
    [.writeApplies, .cancel, .resume true, .writeEnds (.raised .generatorExit),
      .resume true]).map (fun s => (s.phase.isOver, setFifty.record s)) = some (true, none) := by
  decide +kernel

end SetMaxCapacityCall

end TokenThrottle
