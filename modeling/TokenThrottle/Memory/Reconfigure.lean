/-
  TokenThrottle.Memory.Reconfigure

  `prepare_reconfigured_backend` of `_memory/_backend.py`, and the other methods a
  limiter calls when the quotas of a family change, as commands to the one backend
  object of the process.

  * A command is one hold of `_condition`, with the clock reading taken there.
  * A bucket whose clock went back warns, and an interpreter may raise its warnings.
-/
import TokenThrottle.Memory.Backend
import TokenThrottle.Theory.OrderedDict
import TokenThrottle.Theory.Program

namespace TokenThrottle

open Theory (OrderedDict Program)

/-- `set_max_capacity` with its warning about a clock that went back. -/
def MemoryBucket.setMaxCapacityWarning {id : BucketId} (bucket : MemoryBucket id)
    (value currentTime : ℚ) (warningsRaise : Bool) : Except BackendError (MemoryBucket id) := do
  let updated ← bucket.setMaxCapacity value currentTime
  let warned := bucket.capacity.isSome && bucket.lastChecked.any (currentTime < ·)
  if warningsRaise && warned then .error .interrupted else .ok updated

namespace MemoryBackend

/-- A new limit for one of the bucket objects. -/
def setBucketMaxCapacity (s : MemoryBackend) (id : BucketId) (value currentTime : ℚ)
    (warningsRaise : Bool) : Except BackendError Unit × MemoryBackend :=
  match (s.bucket id).setMaxCapacityWarning value currentTime warningsRaise with
  | .ok bucket => (.ok (), { s with bucket := Function.update s.bucket id bucket })
  | .error e => (.error e, s)

/-- The loop of `prepare_reconfigured_backend` over the quotas. -/
def prepareBuckets (currentTime : ℚ) (warningsRaise : Bool) :
    List (BucketId × MaxCapacity) → MemoryBackend → Except BackendError Unit × MemoryBackend
  | [], s => (.ok (), s)
  | (id, limit) :: quotas, s =>
    if id ∈ s.buckets then
      -- the object is the live one: it changes before the loop is through
      match s.setBucketMaxCapacity id limit.value currentTime warningsRaise with
      | (.ok (), s) => prepareBuckets currentTime warningsRaise quotas s
      | (.error e, s) => (.error e, s)
    else
      prepareBuckets currentTime warningsRaise quotas
        { s with bucket := Function.update s.bucket id (.init id limit) }

/-- `install_reconfigured_state` -/
def installReconfiguredState (s : MemoryBackend) (quotas : List (BucketId × MaxCapacity)) :
    MemoryBackend :=
  { s with
    buckets := quotas.map Prod.fst
    configuredLimits := fun id => ((quotas.lookup id).map MaxCapacity.value).getD 0 }

/-- `prepare_reconfigured_backend` -/
def prepareReconfiguredBackend (s : MemoryBackend) (quotas : List (BucketId × MaxCapacity))
    (currentTime : ℚ) (warningsRaise : Bool) : Except BackendError Unit × MemoryBackend :=
  match prepareBuckets currentTime warningsRaise quotas s with
  | (.ok (), s) => (.ok (), s.installReconfiguredState quotas)
  | (.error e, s) => (.error e, s)

/-- `set_max_capacity` -/
def setMaxCapacityWarning (s : MemoryBackend) (id : BucketId) (value currentTime : ℚ)
    (warningsRaise : Bool) : Except BackendError Unit × MemoryBackend :=
  if id ∉ s.buckets then (.error (.valueError .bucketNotFound), s)
  else s.setBucketMaxCapacity id value currentTime warningsRaise

/-- The end of `apply_configured_max_capacity`: the value is recorded as the configured
    limit. -/
def recordConfiguredLimit (s : MemoryBackend) (id : BucketId) (value : ℚ) : MemoryBackend :=
  { s with configuredLimits := Function.update s.configuredLimits id value }

variable (s : MemoryBackend) (currentTime : ℚ) (warningsRaise : Bool)

theorem setBucketMaxCapacity_buckets (id : BucketId) (value : ℚ) :
    (s.setBucketMaxCapacity id value currentTime warningsRaise).2.buckets = s.buckets := by
  unfold setBucketMaxCapacity
  split <;> rfl

theorem prepareBuckets_buckets (quotas : List (BucketId × MaxCapacity)) :
    (prepareBuckets currentTime warningsRaise quotas s).2.buckets = s.buckets := by
  induction quotas generalizing s with
  | nil => rfl
  | cons quota quotas ih =>
    obtain ⟨id, limit⟩ := quota
    have h_set := s.setBucketMaxCapacity_buckets currentTime warningsRaise id limit.value
    unfold prepareBuckets
    split
    · cases h_result : s.setBucketMaxCapacity id limit.value currentTime warningsRaise with
      | mk result s' =>
        rw [h_result] at h_set
        cases result with
        | ok _ => exact (ih s').trans h_set
        | error e => exact h_set
    · exact ih _

/-- The bucket set changes when the preparation goes through, and only then. -/
theorem prepareReconfiguredBackend_bucketIds (quotas : List (BucketId × MaxCapacity))
    {result : Except BackendError Unit} {s' : MemoryBackend}
    (h_result : s.prepareReconfiguredBackend quotas currentTime warningsRaise = (result, s')) :
    (result = .ok () → s'.bucketIds = (quotas.map Prod.fst).toFinset) ∧
      (result ≠ .ok () → s'.bucketIds = s.bucketIds) := by
  have h_buckets := s.prepareBuckets_buckets currentTime warningsRaise quotas
  unfold prepareReconfiguredBackend at h_result
  cases h_loop : prepareBuckets currentTime warningsRaise quotas s with
  | mk result' s₁ =>
    rw [h_loop] at h_buckets h_result
    cases result' with
    | ok _ =>
      cases h_result
      exact ⟨fun _ => rfl, fun h_ne => absurd rfl h_ne⟩
    | error e =>
      cases h_result
      exact ⟨nofun, fun _ => congrArg List.toFinset h_buckets⟩

theorem setMaxCapacityWarning_buckets (id : BucketId) (value : ℚ) :
    (s.setMaxCapacityWarning id value currentTime warningsRaise).2.buckets = s.buckets := by
  unfold setMaxCapacityWarning
  split
  · rfl
  · exact s.setBucketMaxCapacity_buckets currentTime warningsRaise id value

end MemoryBackend

/-! ## Commands -/

inductive MemoryCommand
  | suspend
  | prepareReconfiguredBackend (quotas : List (BucketId × MaxCapacity))
  | setMaxCapacity (id : BucketId) (value : ℚ)
  | recordConfiguredLimit (id : BucketId) (value : ℚ)

@[reducible] def MemoryCommand.Response (_ : MemoryCommand) : Type := Unit

/-- What a command meets: what other tasks did since the last one, the clock, and an
    exception that arrives before the lock is taken. -/
structure MemoryTurn where
  others : MemoryBackend → MemoryBackend
  currentTime : ℚ
  warningsRaise : Bool
  refused : Option BackendError

namespace MemoryBackend

def execute (turn : MemoryTurn) (s : MemoryBackend) :
    MemoryCommand → Except BackendError Unit × MemoryBackend
  | .suspend => (.ok (), s)
  | .prepareReconfiguredBackend quotas =>
    s.prepareReconfiguredBackend quotas turn.currentTime turn.warningsRaise
  | .setMaxCapacity id value =>
    s.setMaxCapacityWarning id value turn.currentTime turn.warningsRaise
  | .recordConfiguredLimit id value => (.ok (), s.recordConfiguredLimit id value)

/-- A command served in a turn. -/
def serve (turn : MemoryTurn) (command : MemoryCommand) (s : MemoryBackend) :
    Except BackendError command.Response × MemoryBackend :=
  match turn.refused with
  | some e => (.error e, turn.others s)
  | none => (turn.others s).execute turn command

/-- `apply_configured_max_capacity`: other tasks may come between its two holds of the lock. -/
def applyConfiguredMaxCapacityProgram (id : BucketId) (value : ℚ) :
    Program MemoryCommand MemoryCommand.Response BackendError Unit := do
  Program.perform (.setMaxCapacity id value)
  Program.perform (.recordConfiguredLimit id value)

end MemoryBackend

end TokenThrottle
