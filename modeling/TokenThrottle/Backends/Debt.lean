/-
  TokenThrottle.Backends.Debt

  When spending forgives a debt.  A charge is clamped at minus the limit in force: where the
  limit has been lowered below the debt, the clamp lifts the bucket, and nowhere else.

  * `handle_spends`: no charge leaves more than there was, or than minus the limit.
  * `Solvent`: every bucket reads at least minus its limit.  A limit that is lowered no further
    than the debt at hand keeps it, and so does every other call (`handle_solvent`).
-/
import TokenThrottle.Backends.Agreement

namespace TokenThrottle

open Theory (Run)

/-- The call takes from a bucket and gives nothing back to it. -/
def Request.Spends (id : BucketId) : Request → Prop
  | .awaitForCapacity _ _ _ | .consumeCapacity _ _ _ => True
  | .refundCapacityForBuckets refund =>
    refund.reservedUsage.amount id.metric ≤ refund.actualUsage.amount id.metric
  | _ => False

/-- Limits are not lowered below the debt at hand, and what is cleaned up was a usage. -/
def Request.CoversDebt (m : MemoryBackend) (currentTime : ℚ) : Request → Prop
  | .setMaxCapacity id value | .applyConfiguredMaxCapacity id value =>
    -value ≤ m.capacityAt currentTime id
  | .refundCancelledConsumption usage _ => ∀ metric, 0 ≤ usage.amount metric
  | _ => True

namespace MemoryBackend

variable {s s' : MemoryBackend} {request : Request} {outcome : Outcome} {t : ℚ} {id : BucketId}

/-- A charge leaves no more than there was, minus the limit aside. -/
theorem handle_spends (h_ok : s.handle request t = .ok (outcome, s')) (h_mem : id ∈ s.buckets)
    (h_spends : request.Spends id) :
    s'.capacityAt t id ≤ max (s.capacityAt t id) (-s.maxCapacity id) := by
  cases request with
  | awaitForCapacity usage reservationId lifetime =>
    obtain ⟨h_covers, h_attempt⟩ := awaitForCapacity_attempt h_ok
    obtain ⟨_, rfl⟩ | ⟨_, h_nonneg, h_le, h_bucket⟩ := attempt_bucket h_mem h_covers h_attempt
    · exact le_max_left _ _
    · apply le_max_of_le_left
      show (s'.bucket id).capacityAt t ≤ _
      rw [h_bucket, MemoryBucket.setCapacity_capacityAt]
      have h_left : 0 ≤ s.capacityAt t id - usage.amount id.metric := sub_nonneg.mpr h_le
      rw [if_neg Bool.false_ne_true, max_eq_right h_left]
      exact (min_le_right _ _).trans (sub_le_self _ h_nonneg)
  | consumeCapacity usage reservationId lifetime =>
    obtain rfl | ⟨h_nonneg, h_bucket⟩ := consumeCapacity_bucket h_mem h_ok
    · exact le_max_left _ _
    · show (s'.bucket id).capacityAt t ≤ _
      rw [h_bucket, MemoryBucket.setCapacity_capacityAt, if_pos rfl]
      exact (min_le_right _ _).trans (max_le_max_right _ (sub_le_self _ h_nonneg))
  | refundCapacityForBuckets refund =>
    obtain h_bucket | ⟨_, _, h_bucket⟩ := refundCapacityForBuckets_bucket h_mem h_ok
    · show (s'.bucket id).capacityAt t ≤ _
      rw [h_bucket]
      exact le_max_left _ _
    · show (s'.bucket id).capacityAt t ≤ _
      rw [h_bucket, MemoryBucket.setCapacity_capacityAt, if_pos rfl]
      have h_max : 0 ≤ s.maxCapacity id := (s.bucket id).maxCapacity.nonneg
      exact (min_le_right _ _).trans (clampRefund_le_of_nonpos h_max (sub_nonpos.mpr h_spends))
  | refundCancelledConsumption usage reservationId => exact absurd h_spends not_false
  | setMaxCapacity id value => exact absurd h_spends not_false
  | applyConfiguredMaxCapacity id value => exact absurd h_spends not_false

/-- Every bucket reads at least minus its limit. -/
def Solvent (s : MemoryBackend) (t : ℚ) : Prop :=
  ∀ id ∈ s.buckets, -s.maxCapacity id ≤ s.capacityAt t id

theorem Solvent.later {later : ℚ} (h_solvent : s.Solvent t) (h_le : t ≤ later) :
    s.Solvent later := by
  intro id h_mem
  exact (h_solvent id h_mem).trans
    (refilled_mono (s.bucket id).ratePerSec_pos.le h_le)

theorem Solvent.init (buckets : List BucketId) (limit : BucketId → MaxCapacity) (t : ℚ) :
    (MemoryBackend.init buckets limit).Solvent t := by
  intro id _
  show -(limit id).value ≤ (limit id).value
  have h_nonneg := (limit id).nonneg
  linarith

/-- A written bucket reads at least minus its limit if what is written does. -/
theorem neg_le_written {bucket : MemoryBucket id} {value : ℚ} {allowNegative : Bool}
    (h_value : -bucket.maxCapacity.value ≤ value) :
    -bucket.maxCapacity.value ≤ (bucket.setCapacity value t allowNegative).capacityAt t := by
  have h_nonneg := bucket.maxCapacity.nonneg
  rw [MemoryBucket.setCapacity_capacityAt]
  apply le_min
  · linarith
  · cases allowNegative with
    | true => exact h_value
    | false => exact h_value.trans (le_max_right _ _)

/-- A limit that is no further down than the debt at hand covers it. -/
theorem neg_le_changed {bucket bucket' : MemoryBucket id} {value : ℚ}
    (h_ok : bucket.setMaxCapacity value t = .ok bucket') (h_debt : -value ≤ bucket.capacityAt t) :
    -bucket'.maxCapacity.value ≤ bucket'.capacityAt t := by
  obtain ⟨maximum, h_valid, h_ok⟩ := bind_eq_ok h_ok
  have h_value : maximum.value = value := by
    unfold validateMaxCapacityFinitePositive at h_valid
    split at h_valid
    · cases h_valid
      rfl
    · cases h_valid
  have h_nonneg := maximum.nonneg
  rw [← h_value] at h_debt
  obtain ⟨capacity, lastChecked, limit⟩ := bucket
  have h_fresh : -maximum.value ≤ maximum.value := by linarith
  cases lastChecked with
  | none =>
    cases h_ok
    exact h_fresh
  | some last =>
    cases capacity with
    | none =>
      cases h_ok
      exact h_fresh
    | some stored =>
      cases h_ok
      -- the anchored amount is the reading before it is capped
      show -maximum.value ≤ refilled (some t) (some _) t maximum _
      rw [refilled_now]
      exact le_min h_fresh (h_debt.trans (min_le_right _ _))

theorem setMaxCapacity_solvent {id' : BucketId} {value : ℚ} (h_solvent : s.Solvent t)
    (h_debt : -value ≤ s.capacityAt t id')
    (h_ok : s.setMaxCapacity id' value t = .ok (outcome, s')) : s'.Solvent t := by
  unfold setMaxCapacity at h_ok
  split at h_ok
  · cases h_ok
  · obtain ⟨bucket, h_bucket, h_ok⟩ := bind_eq_ok h_ok
    cases h_ok
    intro id h_mem
    show -(Function.update s.bucket id' bucket id).maxCapacity.value ≤
      (Function.update s.bucket id' bucket id).capacityAt t
    by_cases h_eq : id = id'
    · subst h_eq
      rw [Function.update_self]
      exact neg_le_changed h_bucket h_debt
    · rw [Function.update_of_ne h_eq]
      exact h_solvent id h_mem

/-- A cleanup of a usage raises a bucket, up to its limit. -/
theorem neg_le_restored {capacities : Capacities} {usage : FrozenUsage} {maxCapacity : BucketId → ℚ}
    (h_usage : ∀ metric, 0 ≤ usage.amount metric) (h_max : 0 ≤ maxCapacity id)
    (h_floor : -maxCapacity id ≤ capacities id) :
    -maxCapacity id ≤ restoreUsage capacities usage maxCapacity id := by
  unfold restoreUsage
  cases h_lookup : usage.lookup id.metric with
  | none => exact h_floor
  | some amount =>
    have h_amount := h_usage id.metric
    rw [FrozenUsage.amount_of_lookup h_lookup] at h_amount
    apply le_min
    · linarith
    · linarith

theorem handle_solvent (h_solvent : s.Solvent t) (h_covers : request.CoversDebt s t)
    (h_ok : s.handle request t = .ok (outcome, s')) : s'.Solvent t := by
  cases request with
  | setMaxCapacity id value => exact setMaxCapacity_solvent h_solvent h_covers h_ok
  | applyConfiguredMaxCapacity id value =>
    obtain ⟨⟨_, s₁⟩, h_set, h_ok⟩ := bind_eq_ok h_ok
    cases h_ok
    have h_changed := setMaxCapacity_solvent h_solvent h_covers h_set
    exact h_changed
  | awaitForCapacity usage reservationId lifetime =>
    obtain ⟨h_covers, h_attempt⟩ := awaitForCapacity_attempt h_ok
    intro id h_mem
    rw [attempt_buckets h_attempt] at h_mem
    obtain ⟨_, rfl⟩ | ⟨_, _, h_le, h_bucket⟩ := attempt_bucket h_mem h_covers h_attempt
    · exact h_solvent id h_mem
    · show -(s'.bucket id).maxCapacity.value ≤ (s'.bucket id).capacityAt t
      rw [h_bucket, MemoryBucket.setCapacity_maxCapacity]
      have h_nonneg := (s.bucket id).maxCapacity.nonneg
      exact neg_le_written (by linarith)
  | consumeCapacity usage reservationId lifetime =>
    intro id h_mem
    rw [consumeCapacity_buckets h_ok] at h_mem
    obtain rfl | ⟨_, h_bucket⟩ := consumeCapacity_bucket h_mem h_ok
    · exact h_solvent id h_mem
    · show -(s'.bucket id).maxCapacity.value ≤ (s'.bucket id).capacityAt t
      rw [h_bucket]
      exact neg_le_written (le_max_right _ _)
  | refundCapacityForBuckets refund =>
    intro id h_mem
    rw [refundCapacityForBuckets_buckets h_ok] at h_mem
    obtain h_bucket | ⟨_, _, h_bucket⟩ := refundCapacityForBuckets_bucket h_mem h_ok
    · show -(s'.bucket id).maxCapacity.value ≤ (s'.bucket id).capacityAt t
      rw [h_bucket]
      exact h_solvent id h_mem
    · show -(s'.bucket id).maxCapacity.value ≤ (s'.bucket id).capacityAt t
      rw [h_bucket]
      exact neg_le_written (neg_le_clampRefund _ _ _)
  | refundCancelledConsumption usage reservationId =>
    obtain ⟨capacities, h_read, rfl⟩ := refundCancelledConsumption_cases h_ok
    intro id h_mem
    rw [withReservation_buckets forgetAcquiredReservation_buckets] at h_mem
    have h_mem : id ∈ s.buckets := h_mem
    show -(MemoryBucket.maxCapacity _).value ≤ MemoryBucket.capacityAt _ t
    rw [withReservation_bucket forgetAcquiredReservation_bucket, setCapacities_bucket,
      if_pos (mem_bucketIds.mpr h_mem)]
    apply neg_le_written
    have h_floor := h_solvent id h_mem
    rw [← getCapacities_apply h_read h_mem] at h_floor
    exact neg_le_restored h_covers (s.bucket id).maxCapacity.nonneg h_floor

end MemoryBackend

/-! ## Runs -/

/-- An answered call whose request keeps every bucket solvent. -/
def Answers.Covered (m : MemoryBackend) (answer : Answer) (m' : MemoryBackend) : Prop :=
  Answers m answer m' ∧ answer.request.CoversDebt m answer.time

theorem Answers.spends {m m' : MemoryBackend} {answer : Answer} {id : BucketId}
    (h_answers : Answers m answer m') (h_mem : id ∈ m.buckets)
    (h_spends : answer.request.Spends id) :
    m'.capacityAt answer.time id ≤ max (m.capacityAt answer.time id) (-m.maxCapacity id) := by
  obtain ⟨_, rfl⟩ | ⟨_, rfl⟩ := h_answers
  · exact le_max_left _ _
  · cases h_memory : m.handle answer.request answer.time with
    | error e =>
      rw [step_error h_memory]
      exact le_max_left _ _
    | ok ended =>
      obtain ⟨outcome, m₁⟩ := ended
      rw [step_ok h_memory]
      exact MemoryBackend.handle_spends h_memory h_mem h_spends

theorem Answers.Covered.solvent {m m' : MemoryBackend} {answer : Answer}
    (h_covered : Answers.Covered m answer m') (h_solvent : m.Solvent answer.time) :
    m'.Solvent answer.time := by
  obtain ⟨⟨_, rfl⟩ | ⟨_, rfl⟩, h_debt⟩ := h_covered
  · exact h_solvent
  · cases h_memory : m.handle answer.request answer.time with
    | error e =>
      rw [step_error h_memory]
      exact h_solvent
    | ok ended =>
      obtain ⟨outcome, m₁⟩ := ended
      rw [step_ok h_memory]
      exact MemoryBackend.handle_solvent h_solvent h_debt h_memory

/-- A charge under a lowered limit forgives a debt: 80 below zero become 20. -/
example :
    let indebted := (((MemoryBackend.init [tokensPerMinute] fun _ => oneHundred).step 0
      (.consumeCapacity (tokens 180) none none)).after.step 0
        (.setMaxCapacity tokensPerMinute 20)).after
    indebted.capacityAt 0 tokensPerMinute = -80 ∧
      ((indebted.step 0 (.consumeCapacity (tokens 0) none none)).after).capacityAt 0
        tokensPerMinute = -20 := by
  decide +kernel

section Redis

variable {W : Type}

variable [DecidableEq W]

namespace Twin

def CoveredSteps (p : Twin W) (event : AnsweredCall W) (p' : Twin W) : Prop :=
  Steps p event p' ∧ event.call.request.CoversDebt p.memory event.call.currentTime

theorem coveredSteps_solvent {p p' : Twin W} {event : AnsweredCall W} (h_sim : p.Simulated)
    (h_step : CoveredSteps p event p') (h_solvent : p.memory.Solvent p.clock) :
    p'.memory.Solvent p'.clock := by
  obtain ⟨h_step, h_debt⟩ := h_step
  have h_covered : Answers.Covered p.memory event.answer p'.memory :=
    ⟨steps_answers h_sim h_step, h_debt⟩
  obtain ⟨h_call, fleet', _, rfl⟩ := h_step
  exact h_covered.solvent (h_solvent.later h_call.clock_le)

theorem coveredRun_solvent {p p' : Twin W} {events : List (AnsweredCall W)} (h_sim : p.Simulated)
    (h_solvent : p.memory.Solvent p.clock) (h_run : Run CoveredSteps p events p') :
    p'.memory.Solvent p'.clock := by
  induction h_run with
  | nil => exact h_solvent
  | cons h_step _ ih =>
    exact ih (steps_simulated h_sim h_step.1) (coveredSteps_solvent h_sim h_step h_solvent)

/-- An acquire, a consumption or an over-use refund by any process leaves no process more
    capacity to read than before, or than minus the limit; in a run in which no limit was lowered
    below a debt, it leaves no more than before. -/
theorem spending (config : RedisConfiguration) (processes : W → RedisProcess) {clock : ℚ}
    (h_clock : 0 ≤ clock) {events : List (AnsweredCall W)} {p p' : Twin W}
    (h_run : Run Steps (start config processes clock) events p) {event : AnsweredCall W}
    (h_step : Steps p event p') {id : BucketId} (h_mem : id ∈ config.sortedBuckets)
    (h_spends : event.call.request.Spends id) :
    ∃ before after, p.fleet.Reads event.call.currentTime id before ∧
      p'.fleet.Reads event.call.currentTime id after ∧
      after ≤ max before (-p.memory.maxCapacity id) ∧
      (Run CoveredSteps (start config processes clock) events p → after ≤ before) := by
  have h_sim : p.Simulated := run_simulated h_clock h_run
  have h_sim' := steps_simulated h_sim h_step
  have h_bucket : id ∈ p.memory.buckets := by
    rw [run_buckets h_run]
    exact h_mem
  have h_bucket' : id ∈ p'.memory.buckets := by
    rw [steps_buckets h_step]
    exact h_bucket
  have h_left : p'.memory.capacityAt event.call.currentTime id ≤ _ :=
    (steps_answers h_sim h_step).spends h_bucket h_spends
  have h_le : p.clock ≤ event.call.currentTime := h_step.1.clock_le
  have h_le' : p'.clock ≤ event.call.currentTime := by
    obtain ⟨_, fleet', _, rfl⟩ := h_step
    exact le_refl _
  refine ⟨_, _, h_sim.fleet_reads h_bucket h_le, h_sim'.fleet_reads h_bucket' h_le', h_left,
    fun h_covered => ?_⟩
  have h_solvent : p.memory.Solvent p.clock := coveredRun_solvent
    (start_simulated config processes h_clock) (MemoryBackend.Solvent.init _ _ _) h_covered
  have h_floor := h_solvent.later h_le id h_bucket
  exact h_left.trans (max_le (le_refl _) h_floor)

/-- The processes consume 180 of 100 tokens and 10 more, one lowers the limit to 20, and the
    other consumes nothing. -/
def overdraw : FleetCall Bool := ⟨true, .consumeCapacity (tokens 180) none none, 0, false⟩

def overdrawAgain : FleetCall Bool := ⟨false, .consumeCapacity (tokens 10) none none, 0, false⟩

def lowerLimit : FleetCall Bool := ⟨true, .setMaxCapacity tokensPerMinute 20, 0, false⟩

def consumeNothing : FleetCall Bool := ⟨false, .consumeCapacity (tokens 0) none none, 0, false⟩

def overdrawn : Twin Bool := exampleTwin.play overdraw

def lowered : Twin Bool := (overdrawn.play overdrawAgain).play lowerLimit

/-- Each of the calls is admissible where it is made, and ends so. -/
theorem lowered_steps : Steps exampleTwin ⟨overdraw, .ok .consumed⟩ overdrawn ∧
    Steps overdrawn ⟨overdrawAgain, .ok .consumed⟩ (overdrawn.play overdrawAgain) ∧
    Steps (overdrawn.play overdrawAgain) ⟨lowerLimit, .ok .done⟩ lowered ∧
    Steps lowered ⟨consumeNothing, .ok .consumed⟩ (lowered.play consumeNothing) := by
  have h_overdrawn : (overdrawn.fleet.clients false).metricNames = {"tokens"} := by decide +kernel
  have h_lowered : (lowered.fleet.clients false).metricNames = {"tokens"} := by decide +kernel
  refine ⟨steps_play ⟨le_refl _, covers_tokens (by norm_num), nofun⟩ (by decide +kernel),
    steps_play ⟨le_refl _, ?_, nofun⟩ (by decide +kernel),
    steps_play ⟨le_refl _, trivial⟩ (by decide +kernel),
    steps_play ⟨le_refl _, ?_, nofun⟩ (by decide +kernel)⟩
  · exact h_overdrawn ▸ covers_tokens (by norm_num)
  · exact h_lowered ▸ covers_tokens (by norm_num)

/-- With 80 owed, 10 more make it 90 for every process: a debt that the limit of 100 covers only
    grows.  Under a limit of 20 the 90 become 20, the least that the bound allows. -/
theorem spending_lowered :
    (∃ after, (overdrawn.play overdrawAgain).fleet.Reads 0 tokensPerMinute after ∧
      overdrawn.fleet.Reads 0 tokensPerMinute (-80) ∧ after ≤ -80) ∧
    ∃ after, (lowered.play consumeNothing).fleet.Reads 0 tokensPerMinute after ∧
      lowered.fleet.Reads 0 tokensPerMinute (-90) ∧ after ≤ -20 := by
  obtain ⟨h_overdraw, h_again, h_lower, h_nothing⟩ := lowered_steps
  have h_mem := List.mem_singleton_self tokensPerMinute
  have h_run : Run Steps exampleTwin [⟨overdraw, .ok .consumed⟩] overdrawn :=
    .cons h_overdraw (.nil _)
  have h_lowered : Run Steps exampleTwin
      [⟨overdraw, .ok .consumed⟩, ⟨overdrawAgain, .ok .consumed⟩, ⟨lowerLimit, .ok .done⟩]
      lowered :=
    .cons h_overdraw (.cons h_again (.cons h_lower (.nil _)))
  have h_level : ∀ p : Twin Bool, p.Simulated → p.memory.buckets = [tokensPerMinute] →
      p.clock = 0 → p.fleet.Reads 0 tokensPerMinute (p.memory.capacityAt 0 tokensPerMinute) :=
    fun p h_sim h_buckets h_clock =>
      h_sim.fleet_reads (h_buckets ▸ List.mem_singleton_self _) h_clock.le
  constructor
  · obtain ⟨before, after, h_before, h_after, _, h_covered⟩ := spending exampleEngine.deployment
      (fun _ => exampleProcess) (le_refl 0) h_run h_again h_mem trivial
    have h_reads := h_level overdrawn (run_simulated (le_refl 0) h_run) (by decide +kernel)
      (by decide +kernel)
    have h_owed : overdrawn.memory.capacityAt 0 tokensPerMinute = -80 := by decide +kernel
    rw [h_owed] at h_reads
    rw [h_before.unique h_reads] at h_covered
    exact ⟨after, h_after, h_reads, h_covered (.cons ⟨h_overdraw, trivial⟩ (.nil _))⟩
  · obtain ⟨before, after, h_before, h_after, h_left, _⟩ := spending exampleEngine.deployment
      (fun _ => exampleProcess) (le_refl 0) h_lowered h_nothing h_mem trivial
    have h_reads := h_level lowered (run_simulated (le_refl 0) h_lowered) (by decide +kernel)
      (by decide +kernel)
    have h_owed : lowered.memory.capacityAt 0 tokensPerMinute = -90 := by decide +kernel
    have h_limit : lowered.memory.maxCapacity tokensPerMinute = 20 := by decide +kernel
    rw [h_owed] at h_reads
    rw [h_before.unique h_reads, h_limit] at h_left
    exact ⟨after, h_after, h_reads, h_left.trans (by norm_num)⟩

end Twin

end Redis

namespace Side

def CoveredSteps (p : Side) (call : TxnInput × Request) (p' : Side) : Prop :=
  Steps p call p' ∧ call.2.CoversDebt p.memory call.1.currentTime

theorem coveredRun_solvent {buckets : List BucketId} {p p' : Side}
    {calls : List (TxnInput × Request)} (h_sim : p.Simulated buckets)
    (h_solvent : p.memory.Solvent p.clock) (h_run : Run CoveredSteps p calls p') :
    p'.memory.Solvent p'.clock := by
  induction h_run with
  | nil => exact h_solvent
  | cons h_step _ ih =>
    obtain ⟨h_step, h_debt⟩ := h_step
    refine ih (steps_simulated h_sim h_step) ?_
    have h_covered : Answers.Covered _ _ _ := ⟨steps_answers h_sim h_step, h_debt⟩
    obtain ⟨h_call, rfl⟩ := h_step
    exact h_covered.solvent (h_solvent.later h_call.clock_le)

/-- The same of the snapshots of a SQLite backend, before and after the call. -/
theorem spending_snapshots (e : SqliteEngine) {clock : ℚ} (h_clock : 0 ≤ clock)
    {calls : List (TxnInput × Request)} {p p' : Side} (h_run : Run Steps (start e clock) calls p)
    {call : TxnInput × Request} (h_step : Steps p call p')
    (h_unexpired : p'.sqlite.db.Unexpired call.1.currentTime) {id : BucketId}
    (h_mem : id ∈ e.buckets) (h_spends : call.2.Spends id) :
    ∃ before after, p.sqlite.snapshot id call.1.currentTime = .ok before ∧
      p'.sqlite.snapshot id call.1.currentTime = .ok after ∧
      after.capacity ≤ max before.capacity (-before.maxCapacity.value) ∧
      (Run CoveredSteps (start e clock) calls p → after.capacity ≤ before.capacity) := by
  have h_start := start_simulated e h_clock
  have h_sim : p.Simulated e.buckets := h_run.invariant (fun _ _ _ => steps_simulated) h_start
  have h_sim' := steps_simulated h_sim h_step
  have h_bucket : id ∈ p.memory.buckets := h_sim.buckets_eq ▸ h_mem
  have h_left := (steps_answers h_sim h_step).spends h_bucket h_spends
  obtain ⟨h_call, rfl⟩ := h_step
  have h_nonneg := h_sim.nonneg.trans h_call.clock_le
  obtain ⟨before, h_before, h_state⟩ := h_sim.sim.snapshot h_call.unexpired h_call.clock_le h_nonneg
    (h_sim.sim.buckets_eq ▸ h_bucket)
  obtain ⟨after, h_after, h_state'⟩ := h_sim'.sim.snapshot h_unexpired (le_refl _) h_nonneg
    (h_sim'.sim.buckets_eq ▸ h_sim'.buckets_eq ▸ h_mem)
  refine ⟨before, after, h_before, h_after, ?_, fun h_covered => ?_⟩
  · rw [h_state.capacity, h_state'.capacity, h_state.maxCapacity]
    exact h_left
  · have h_solvent := coveredRun_solvent h_start (MemoryBackend.Solvent.init _ _ _) h_covered
    rw [h_state.capacity, h_state'.capacity]
    exact h_left.trans (max_le (le_refl _) (h_solvent.later h_call.clock_le id h_bucket))

/-- 180 of 100 tokens are consumed and 10 more; then the limit is lowered to 20, and nothing is
    consumed. -/
def overdraw : TxnInput × Request := (.at 0, .consumeCapacity (tokens 180) none none)

def overdrawAgain : TxnInput × Request := (.at 0, .consumeCapacity (tokens 10) none none)

def lowerLimit : TxnInput × Request := (.at 0, .setMaxCapacity tokensPerMinute 20)

def consumeNothing : TxnInput × Request := (.at 0, .consumeCapacity (tokens 0) none none)

def overdrawn : Side := (start exampleEngine 0).step overdraw

def lowered : Side := (overdrawn.step overdrawAgain).step lowerLimit

theorem overdrawn_lasts : overdrawn.sqlite.Lasts 0 600 :=
  step_lasts (start_lasts (exampleEngine_outlasts (by norm_num))) (le_refl _) nofun

theorem overdrawAgain_lasts : (overdrawn.step overdrawAgain).sqlite.Lasts 0 600 :=
  step_lasts overdrawn_lasts (le_refl _) nofun

theorem lowered_lasts : lowered.sqlite.Lasts 0 600 :=
  step_lasts overdrawAgain_lasts (le_refl _) nofun

/-- A consumption of the examples under no reservation. -/
theorem consume_steps {p : Side} {amount : ℚ} (h_amount : 0 ≤ amount)
    (h_lasts : p.sqlite.Lasts 0 600) (h_clock : p.clock ≤ 0)
    (h_metrics : p.sqlite.engine.metricNames = {"tokens"})
    (h_retained : (p.sqlite.handle (.at 0) (.consumeCapacity (tokens amount) none none)).1 ≠
      .error (.valueError .retentionTooLong))
    (h_cap : p.memory.refundedReservationIdOrder.length < p.memory.refundedReservationIdsCap) :
    Steps p (.at 0, .consumeCapacity (tokens amount) none none)
      (p.step (.at 0, .consumeCapacity (tokens amount) none none)) := by
  refine ⟨⟨h_clock, rfl, h_lasts.unexpired.earlier ?_, h_retained, h_cap,
    h_metrics ▸ covers_tokens h_amount, nofun⟩, rfl⟩
  show (0 : ℚ) ≤ 600
  norm_num

theorem lowered_steps : Steps (start exampleEngine 0) overdraw overdrawn ∧
    Steps overdrawn overdrawAgain (overdrawn.step overdrawAgain) ∧
    Steps (overdrawn.step overdrawAgain) lowerLimit lowered ∧
    Steps lowered consumeNothing (lowered.step consumeNothing) := by
  refine ⟨?_, ?_, ⟨?_, rfl⟩, ?_⟩
  · exact consume_steps (by norm_num) (start_lasts (exampleEngine_outlasts (by norm_num)))
      (le_refl _) rfl (by decide +kernel) (by decide +kernel)
  · exact consume_steps (by norm_num) overdrawn_lasts (le_refl _) (by decide +kernel)
      (by decide +kernel) (by decide +kernel)
  · refine ⟨le_refl _, rfl, overdrawAgain_lasts.unexpired.earlier (by decide), by decide +kernel,
      by decide +kernel, ?_⟩
    show tokensPerMinute ∈ (overdrawn.step overdrawAgain).sqlite.engine.buckets
    decide +kernel
  · exact consume_steps (le_refl _) lowered_lasts (le_refl _) (by decide +kernel)
      (by decide +kernel) (by decide +kernel)

/-- With 80 owed, 10 more make it 90; under a limit of 20 the 90 become 20. -/
theorem spending_snapshots_lowered :
    (∃ before after, overdrawn.sqlite.snapshot tokensPerMinute 0 = .ok before ∧
      (overdrawn.step overdrawAgain).sqlite.snapshot tokensPerMinute 0 = .ok after ∧
      before.capacity = -80 ∧ after.capacity ≤ before.capacity) ∧
    ∃ before after, lowered.sqlite.snapshot tokensPerMinute 0 = .ok before ∧
      (lowered.step consumeNothing).sqlite.snapshot tokensPerMinute 0 = .ok after ∧
      before.capacity = -90 ∧ before.maxCapacity.value = 20 ∧ after.capacity ≤ -20 := by
  obtain ⟨h_overdraw, h_again, h_lower, h_nothing⟩ := lowered_steps
  have h_mem := List.mem_singleton_self tokensPerMinute
  have h_shows : ∀ {b : SqliteBackend} {state : BucketState} {capacity : ℚ},
      b.snapshot tokensPerMinute 0 = .ok state →
      (b.snapshot tokensPerMinute 0).map BucketState.capacity = .ok capacity →
      state.capacity = capacity := by
    intro b state capacity h_state h_capacity
    rw [h_state] at h_capacity
    injection h_capacity
  constructor
  · obtain ⟨before, after, h_before, h_after, _, h_covered⟩ := spending_snapshots exampleEngine
      (le_refl 0) (.cons h_overdraw (.nil _)) h_again
      (overdrawAgain_lasts.unexpired.earlier (by decide)) h_mem trivial
    exact ⟨before, after, h_before, h_after, h_shows h_before (by decide +kernel),
      h_covered (.cons ⟨h_overdraw, trivial⟩ (.nil _))⟩
  · have h_run : Run Steps (start exampleEngine 0) [overdraw, overdrawAgain, lowerLimit] lowered :=
      .cons h_overdraw (.cons h_again (.cons h_lower (.nil _)))
    have h_lasts : (lowered.step consumeNothing).sqlite.Lasts 0 600 :=
      step_lasts lowered_lasts (le_refl _) nofun
    obtain ⟨before, after, h_before, h_after, h_left, _⟩ := spending_snapshots exampleEngine
      (le_refl 0) h_run h_nothing (h_lasts.unexpired.earlier (by decide)) h_mem trivial
    have h_owed : before.capacity = -90 := h_shows h_before (by decide +kernel)
    have h_limits : (lowered.sqlite.snapshot tokensPerMinute 0).map (·.maxCapacity.value) =
        .ok 20 := by decide +kernel
    have h_before : lowered.sqlite.snapshot tokensPerMinute 0 = .ok before := h_before
    rw [h_before] at h_limits
    have h_limit : before.maxCapacity.value = 20 := by injection h_limits
    rw [h_owed, h_limit] at h_left
    exact ⟨before, after, h_before, h_after, h_owed, h_limit, h_left.trans (by norm_num)⟩

end Side

end TokenThrottle
