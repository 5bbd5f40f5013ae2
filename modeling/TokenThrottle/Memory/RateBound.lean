/-
  TokenThrottle.Memory.RateBound

  The token-bucket rate bound of the memory backend, over whole runs: admissions,
  unconditional consumptions, refunds and cleanups in any order, limits unchanged.

  * `trace` records the calls of a run with the backend before and after each.
  * Each call is a paid `Move` of the level of a bucket (`step_move_paid`), so the
    trace of a bucket is `Metered`, and the bound is the one of `Theory.Meter`.
  * Along the way the stored capacity of a bucket stays in `[-C, C]`.
-/
import TokenThrottle.Memory.Steps
import TokenThrottle.Theory.Meter

namespace TokenThrottle
namespace MemoryBackend

open Theory (Move Metered Grows admittedIn creditIn)

/-! ## Runs and their traces -/

/-- One handled call: its clock reading, the request, how it ended, and the
    backend before and after. -/
structure Event where
  time : ℚ
  request : Request
  outcome : Except BackendError Outcome
  before : MemoryBackend
  after : MemoryBackend

/-- A call on the backend; one that raises changes nothing. -/
def step (s : MemoryBackend) (time : ℚ) (request : Request) : Event :=
  match s.handle request time with
  | .ok (outcome, s') => ⟨time, request, .ok outcome, s, s'⟩
  | .error e => ⟨time, request, .error e, s, s⟩

/-- The events of a sequence of calls, each with its clock reading. -/
def trace (s : MemoryBackend) : List (ℚ × Request) → List Event
  | [] => []
  | (time, request) :: calls => s.step time request :: trace (s.step time request).after calls

/-- The backend a sequence of calls leads to. -/
def run (s : MemoryBackend) : List (ℚ × Request) → MemoryBackend
  | [] => s
  | (time, request) :: calls => run (s.step time request).after calls

/-- What an event admits on a bucket: an attempt that consumed, not one that was
    short of capacity, raised, or replayed an earlier admission. -/
def Event.admitted (e : Event) (id : BucketId) : ℚ :=
  match e.request, e.outcome with
  | .awaitForCapacity usage _ _, .ok .consumed => usage.amount id.metric
  | _, _ => 0

/-- The positive credit a refund or a cleanup applies to a bucket. -/
def Event.credit (e : Event) (id : BucketId) : ℚ :=
  match e.request with
  | .refundCapacityForBuckets _ | .refundCancelledConsumption _ _ =>
    max 0 (e.after.capacityAt e.time id - e.before.capacityAt e.time id)
  | _ => 0

/-- An event as a move of the level of one bucket. -/
def Event.move (id : BucketId) (e : Event) : Move ℚ where
  time := e.time
  admitted := e.admitted id
  credit := e.credit id
  after t := e.after.capacityAt t id

/-- The moves a run makes on one bucket. -/
def moves (id : BucketId) (s : MemoryBackend) (calls : List (ℚ × Request)) : List (Move ℚ) :=
  (s.trace calls).map (Event.move id)

@[simp] theorem moves_nil (id : BucketId) (s : MemoryBackend) : s.moves id [] = [] := rfl

@[simp] theorem moves_cons (id : BucketId) (s : MemoryBackend) (time : ℚ) (request : Request)
    (calls : List (ℚ × Request)) :
    s.moves id ((time, request) :: calls) =
      (s.step time request).move id :: (s.step time request).after.moves id calls := rfl

/-! ## The invariant of a run -/

/-- The buckets and limits a run started with, and every stored capacity within
    its limits. -/
structure Bounded (buckets : List BucketId) (limit : BucketId → MaxCapacity)
    (s : MemoryBackend) : Prop where
  buckets_eq : s.buckets = buckets
  limit_eq : ∀ id ∈ buckets, (s.bucket id).maxCapacity = limit id
  stored : ∀ id ∈ buckets, ∀ c, (s.bucket id).capacity = some c →
    -(limit id).value ≤ c ∧ c ≤ (limit id).value

theorem bounded_init (buckets : List BucketId) (limit : BucketId → MaxCapacity) :
    Bounded buckets limit (init buckets limit) where
  buckets_eq := rfl
  limit_eq _ _ := rfl
  stored _ _ _ h_some := by cases h_some

section Bucket

variable {id : BucketId} {bucket : MemoryBucket id}

/-- A bucket whose stored capacity is not below `-limit` reads at least `-limit`. -/
theorem neg_le_capacityAt (h_stored : ∀ c, bucket.capacity = some c →
      -bucket.maxCapacity.value ≤ c) (currentTime : ℚ) :
    -bucket.maxCapacity.value ≤ bucket.capacityAt currentTime := by
  have h_max := bucket.maxCapacity.nonneg
  have h_rate := bucket.ratePerSec_pos.le
  unfold MemoryBucket.capacityAt refilled
  split
  · rename_i last outdated h_last h_capacity
    have h_floor := h_stored outdated h_capacity
    have h_gain : 0 ≤ max 0 (currentTime - last) * bucket.ratePerSec :=
      mul_nonneg (le_max_left _ _) h_rate
    exact le_min (by linarith) (by linarith)
  · linarith

/-- The level of a bucket grows at its rate, up to its limit. -/
theorem grows_capacityAt (bucket : MemoryBucket id) :
    Grows bucket.maxCapacity.value bucket.ratePerSec bucket.capacityAt where
  le_cap := bucket.capacityAt_le_max
  le_add _ _ h_le := refilled_le_add bucket.ratePerSec_pos.le h_le

/-- What a call writes to a bucket: nothing, or one of the four results the
    operations compute, each within the limits. -/
inductive Written (bucket : MemoryBucket id) (currentTime : ℚ) : MemoryBucket id → Prop
  | kept : Written bucket currentTime bucket
  | set (value : ℚ) (allowNegative : Bool)
      (h_floor : -bucket.maxCapacity.value ≤ value) (h_cap : value ≤ bucket.maxCapacity.value) :
      Written bucket currentTime (bucket.setCapacity value currentTime allowNegative)

theorem Written.maxCapacity_eq {currentTime : ℚ} {bucket' : MemoryBucket id}
    (h_written : Written bucket currentTime bucket') :
    bucket'.maxCapacity = bucket.maxCapacity := by
  cases h_written <;> rfl

theorem Written.stored {currentTime : ℚ} {bucket' : MemoryBucket id} {limit : MaxCapacity}
    (h_written : Written bucket currentTime bucket') (h_limit : bucket.maxCapacity = limit)
    (h_stored : ∀ c, bucket.capacity = some c → -limit.value ≤ c ∧ c ≤ limit.value) (c : ℚ)
    (h_some : bucket'.capacity = some c) : -limit.value ≤ c ∧ c ≤ limit.value := by
  subst h_limit
  cases h_written with
  | kept => exact h_stored c h_some
  | set value allowNegative h_floor h_cap =>
    have h_max := bucket.maxCapacity.nonneg
    simp only [MemoryBucket.setCapacity, Option.some.injEq] at h_some
    subst h_some
    cases allowNegative with
    | true => exact ⟨h_floor, h_cap⟩
    | false =>
      have h_zero : 0 ≤ max 0 value := le_max_left _ _
      exact ⟨by simp only [Bool.false_eq_true, if_false]; linarith,
        by simpa using ⟨h_max, h_cap⟩⟩

end Bucket

variable {s s' : MemoryBackend} {buckets : List BucketId} {limit : BucketId → MaxCapacity}
  {time : ℚ} {request : Request} {outcome : Outcome} {id : BucketId}

theorem Bounded.neg_le_capacityAt (h_inv : Bounded buckets limit s) (h_mem : id ∈ buckets)
    (time : ℚ) : -(s.bucket id).maxCapacity.value ≤ s.capacityAt time id := by
  refine MemoryBackend.neg_le_capacityAt (fun c h_some => ?_) time
  rw [h_inv.limit_eq id h_mem]
  exact (h_inv.stored id h_mem c h_some).1

/-- A call within the limits leaves the bucket list alone and writes each bucket
    within its limits. -/
theorem handle_written (h_inv : Bounded buckets limit s)
    (h_keeps : request.KeepsLimits (metricNames buckets.toFinset))
    (h_ok : s.handle request time = .ok (outcome, s')) :
    s'.buckets = buckets ∧ ∀ id ∈ buckets, Written (s.bucket id) time (s'.bucket id) := by
  have h_buckets := h_inv.buckets_eq
  cases request with
  | awaitForCapacity usage reservationId lifetime =>
    obtain ⟨h_covers, h_attempt⟩ := awaitForCapacity_attempt h_ok
    refine ⟨(attempt_buckets h_attempt).trans h_buckets, fun id h_mem => ?_⟩
    have h_cap := (s.bucket id).capacityAt_le_max time
    obtain ⟨_, rfl⟩ | ⟨_, h_nonneg, h_le, h_eq⟩ :=
      attempt_bucket (h_buckets ▸ h_mem) h_covers h_attempt
    · exact .kept
    · rw [h_eq]
      have h_max := (s.bucket id).maxCapacity.nonneg
      unfold capacityAt at h_le ⊢
      exact .set _ _ (by linarith) (by linarith)
  | consumeCapacity usage reservationId lifetime =>
    refine ⟨(consumeCapacity_buckets h_ok).trans h_buckets, fun id h_mem => ?_⟩
    have h_cap := (s.bucket id).capacityAt_le_max time
    obtain rfl | ⟨h_nonneg, h_eq⟩ := consumeCapacity_bucket (h_buckets ▸ h_mem) h_ok
    · exact .kept
    · rw [h_eq]
      have h_max := (s.bucket id).maxCapacity.nonneg
      unfold capacityAt maxCapacity
      exact .set _ _ (le_max_right _ _) (max_le (by linarith) (by linarith))
  | refundCapacityForBuckets refund =>
    refine ⟨(refundCapacityForBuckets_buckets h_ok).trans h_buckets, fun id h_mem => ?_⟩
    obtain h_eq | ⟨_, _, h_eq⟩ :=
      refundCapacityForBuckets_bucket (h_buckets ▸ h_mem) h_ok
    · rw [h_eq]
      exact .kept
    · rw [h_eq]
      exact .set _ _ (neg_le_clampRefund _ _ _)
        (clampRefund_le (s.bucket id).maxCapacity.nonneg)
  | refundCancelledConsumption usage reservationId =>
    refine ⟨(refundCancelledConsumption_buckets h_ok).trans h_buckets, fun id h_mem => ?_⟩
    have h_covers : Covers usage s.usageMetricNames := by
      unfold usageMetricNames bucketIds
      rw [h_buckets]
      exact h_keeps
    have h_nonneg := h_covers.amount_nonneg (mem_bucketIds.mpr (h_buckets ▸ h_mem))
    have h_floor := h_inv.neg_le_capacityAt h_mem time
    have h_max := (s.bucket id).maxCapacity.nonneg
    rw [refundCancelledConsumption_bucket (h_buckets ▸ h_mem) h_covers h_ok]
    exact .set _ _ (le_min (by linarith) (by unfold maxCapacity; linarith)) (min_le_right _ _)
  | setMaxCapacity => exact absurd h_keeps not_false
  | applyConfiguredMaxCapacity => exact absurd h_keeps not_false

/-- One call keeps the invariant. -/
theorem handle_bounded (h_inv : Bounded buckets limit s)
    (h_keeps : request.KeepsLimits (metricNames buckets.toFinset))
    (h_ok : s.handle request time = .ok (outcome, s')) : Bounded buckets limit s' := by
  obtain ⟨h_buckets, h_written⟩ := handle_written h_inv h_keeps h_ok
  refine ⟨h_buckets, fun id h_mem => ?_, fun id h_mem => ?_⟩
  · exact (h_written id h_mem).maxCapacity_eq.trans (h_inv.limit_eq id h_mem)
  · exact (h_written id h_mem).stored (h_inv.limit_eq id h_mem) (h_inv.stored id h_mem)

theorem step_bounded (h_inv : Bounded buckets limit s)
    (h_keeps : request.KeepsLimits (metricNames buckets.toFinset)) :
    Bounded buckets limit (s.step time request).after := by
  unfold step
  split
  · rename_i outcome s' h_ok
    exact handle_bounded h_inv h_keeps h_ok
  · exact h_inv

/-! ## Every call pays for what it admits -/

/-- The level of a covered bucket after it is written at the current time. -/
theorem max_zero_setCapacity_le {bucket : MemoryBucket id} {value level : ℚ}
    {allowNegative : Bool} (h_level : 0 ≤ level) (h_value : value ≤ level) :
    max 0 ((bucket.setCapacity value time allowNegative).capacityAt time) ≤ level := by
  rw [MemoryBucket.setCapacity_capacityAt]
  cases allowNegative with
  | true => exact max_le h_level ((min_le_right _ _).trans h_value)
  | false => exact max_le h_level ((min_le_right _ _).trans (max_le h_level h_value))

/-- A call that succeeds moves the level of a bucket no further up than the refill
    and its credit, and takes out what it admits. -/
theorem handle_pays (h_inv : Bounded buckets limit s) (h_mem : id ∈ buckets)
    (h_keeps : request.KeepsLimits (metricNames buckets.toFinset))
    (h_ok : s.handle request time = .ok (outcome, s')) :
    let e : Event := ⟨time, request, .ok outcome, s, s'⟩
    e.admitted id + max 0 (s'.capacityAt time id) ≤
      max 0 (s.capacityAt time id) + e.credit id := by
  intro e
  have h_buckets := h_inv.buckets_eq
  have h_level := le_max_left 0 (s.capacityAt time id)
  have h_above := le_max_right 0 (s.capacityAt time id)
  have h_floor := h_inv.neg_le_capacityAt h_mem time
  -- a refund or a cleanup is credited with exactly the rise it causes
  have h_credited : max 0 (s'.capacityAt time id) ≤ max 0 (s.capacityAt time id)
      + max 0 (s'.capacityAt time id - s.capacityAt time id) := by
    have h_rise := le_max_right 0 (s'.capacityAt time id - s.capacityAt time id)
    have h_rise' := le_max_left 0 (s'.capacityAt time id - s.capacityAt time id)
    exact max_le (by linarith) (by linarith)
  cases request with
  | awaitForCapacity usage reservationId lifetime =>
    obtain ⟨h_covers, h_attempt⟩ := awaitForCapacity_attempt h_ok
    obtain ⟨h_ne, rfl⟩ | ⟨rfl, h_nonneg, h_le, h_eq⟩ :=
      attempt_bucket (h_buckets ▸ h_mem) h_covers h_attempt
    · have h_admitted : e.admitted id = 0 := by
        cases outcome with
        | consumed => exact absurd rfl h_ne
        | replayed => rfl
        | unavailable => rfl
        | done => rfl
      rw [h_admitted]
      simp [Event.credit, e]
    · have h_after : max 0 (s'.capacityAt time id) ≤
          s.capacityAt time id - usage.amount id.metric := by
        unfold capacityAt at h_le ⊢
        rw [h_eq]
        exact max_zero_setCapacity_le (by linarith) (le_refl _)
      simp only [Event.admitted, Event.credit, e]
      linarith
  | consumeCapacity usage reservationId lifetime =>
    have h_after : max 0 (s'.capacityAt time id) ≤ max 0 (s.capacityAt time id) := by
      obtain rfl | ⟨h_nonneg, h_eq⟩ := consumeCapacity_bucket (h_buckets ▸ h_mem) h_ok
      · exact le_refl _
      · unfold capacityAt at h_eq h_floor h_above h_level ⊢
        rw [h_eq]
        exact max_zero_setCapacity_le h_level
          (max_le (by linarith) (by unfold maxCapacity; linarith))
    simp only [Event.admitted, Event.credit, e]
    linarith
  | refundCapacityForBuckets refund =>
    simp only [Event.admitted, Event.credit, e]
    linarith
  | refundCancelledConsumption usage reservationId =>
    simp only [Event.admitted, Event.credit, e]
    linarith
  | setMaxCapacity => exact absurd h_keeps not_false
  | applyConfiguredMaxCapacity => exact absurd h_keeps not_false

theorem Event.credit_nonneg (e : Event) (id : BucketId) : 0 ≤ e.credit id := by
  unfold Event.credit
  split
  · exact le_max_left _ _
  · exact le_max_left _ _
  · exact le_refl _

/-- The level of a bucket of a bounded backend grows at the configured rate. -/
theorem Bounded.grows (h_inv : Bounded buckets limit s) (h_mem : id ∈ buckets) :
    Grows (limit id).value (calculateRatePerSec (limit id) id)
      (fun t => s.capacityAt t id) := by
  have h_grows := grows_capacityAt (s.bucket id)
  unfold MemoryBucket.ratePerSec at h_grows
  rw [h_inv.limit_eq id h_mem] at h_grows
  exact h_grows

/-- Every call, successful or not, is a paid move of the level of a bucket. -/
theorem step_move_paid (h_inv : Bounded buckets limit s) (h_mem : id ∈ buckets)
    (h_keeps : request.KeepsLimits (metricNames buckets.toFinset)) :
    ((s.step time request).move id).Paid (limit id).value
      (calculateRatePerSec (limit id) id) (fun t => s.capacityAt t id) where
  credit_nonneg := Event.credit_nonneg _ _
  grows := (step_bounded h_inv h_keeps).grows h_mem
  pays := by
    unfold step
    split
    · rename_i outcome s' h_ok
      exact handle_pays h_inv h_mem h_keeps h_ok
    · rename_i e h_error
      have h_admitted : Event.admitted ⟨time, request, .error e, s, s⟩ id = 0 := by
        cases request <;> rfl
      have h_credit := Event.credit_nonneg ⟨time, request, .error e, s, s⟩ id
      simp only [Event.move]
      linarith

/-! ## Runs -/

/-- Every state a run reaches is bounded. -/
theorem run_bounded {calls : List (ℚ × Request)} (h_inv : Bounded buckets limit s)
    (h_keeps : ∀ call ∈ calls, call.2.KeepsLimits (metricNames buckets.toFinset)) :
    Bounded buckets limit (s.run calls) := by
  induction calls generalizing s with
  | nil => exact h_inv
  | cons call calls ih =>
    have h_first : Bounded buckets limit (s.step call.1 call.2).after :=
      step_bounded h_inv (h_keeps call List.mem_cons_self)
    exact ih h_first fun later h_later => h_keeps later (List.mem_cons_of_mem _ h_later)

/-- The moves of a run on one bucket are metered. -/
theorem moves_metered {calls : List (ℚ × Request)} {start : ℚ}
    (h_inv : Bounded buckets limit s) (h_mem : id ∈ buckets)
    (h_start : ∀ call ∈ calls, start ≤ call.1)
    (h_clock : calls.Pairwise fun call later => call.1 ≤ later.1)
    (h_keeps : ∀ call ∈ calls, call.2.KeepsLimits (metricNames buckets.toFinset)) :
    Metered (limit id).value (calculateRatePerSec (limit id) id) start
      (fun t => s.capacityAt t id) (s.moves id calls) := by
  induction calls generalizing s start with
  | nil => exact .nil _ _
  | cons call calls ih =>
    obtain ⟨time, request⟩ := call
    have h_head := h_keeps _ List.mem_cons_self
    obtain ⟨h_le, h_tail⟩ := List.pairwise_cons.mp h_clock
    have h_time : (s.step time request).time = time := by
      unfold step
      split <;> rfl
    rw [moves_cons]
    refine .cons ?_ (step_move_paid h_inv h_mem h_head) ?_
    · exact (h_start _ List.mem_cons_self).trans_eq h_time.symm
    · refine ih (step_bounded h_inv h_head) (fun later h_later => ?_) h_tail
        fun later h_later => h_keeps later (List.mem_cons_of_mem _ h_later)
      exact h_time.trans_le (h_le later h_later)

/-- The rate bound and the range of the stored capacity, for every run from a
    fresh backend. -/
theorem run_rate_bound (buckets : List BucketId) (limit : BucketId → MaxCapacity)
    (calls : List (ℚ × Request))
    (h_clock : calls.Pairwise fun call later => call.1 ≤ later.1)
    (h_keeps : ∀ call ∈ calls, call.2.KeepsLimits (metricNames buckets.toFinset))
    (id : BucketId) (h_mem : id ∈ buckets) :
    (∀ s t, s ≤ t →
      admittedIn s t ((init buckets limit).moves id calls) ≤
        (limit id).value + (limit id).value / id.window * (t - s)
          + creditIn s t ((init buckets limit).moves id calls)) ∧
    (∀ c, (((init buckets limit).run calls).bucket id).capacity = some c →
      -(limit id).value ≤ c ∧ c ≤ (limit id).value) := by
  have h_inv := bounded_init buckets limit
  refine ⟨fun s t h_le => ?_, (run_bounded h_inv h_keeps).stored id h_mem⟩
  obtain ⟨start, h_start⟩ : ∃ start, ∀ call ∈ calls, start ≤ call.1 := by
    cases calls with
    | nil => exact ⟨0, by simp⟩
    | cons call calls =>
      refine ⟨call.1, fun later h_later => ?_⟩
      rcases List.mem_cons.mp h_later with rfl | h_later
      · exact le_refl _
      · exact (List.pairwise_cons.mp h_clock).1 later h_later
  have h_metered := moves_metered h_inv h_mem h_start h_clock h_keeps
  exact h_metered.admittedIn_le (limit id).nonneg (calculateRatePerSec_pos _ _).le
    (h_inv.grows h_mem) h_le

/-- A run with each kind of call: 60 of 100 tokens are admitted, the next 60 are
    short of capacity, an unconditional 80 runs into debt, and the first
    admission is cleaned up. -/
def mixedCalls : List (ℚ × Request) :=
  [(0, .awaitForCapacity (tokens 60) (some "a") none),
   (1, .awaitForCapacity (tokens 60) (some "b") none),
   (2, .consumeCapacity (tokens 80) none none),
   (3, .refundCancelledConsumption (tokens 60) (some "a"))]

theorem run_rate_bound_mixedCalls :
    admittedIn 0 3 ((init [tokensPerMinute] fun _ => oneHundred).moves tokensPerMinute
        mixedCalls) = 60 ∧
      admittedIn 0 3 ((init [tokensPerMinute] fun _ => oneHundred).moves tokensPerMinute
        mixedCalls) ≤ 100 + 100 / 60 * (3 - 0) +
        creditIn 0 3 ((init [tokensPerMinute] fun _ => oneHundred).moves tokensPerMinute
          mixedCalls) := by
  refine ⟨by decide +kernel, ?_⟩
  refine (run_rate_bound [tokensPerMinute] (fun _ => oneHundred) mixedCalls ?_ ?_
    tokensPerMinute List.mem_cons_self).1 0 3 (by norm_num)
  · decide +kernel
  · intro call h_call
    simp only [mixedCalls, List.mem_cons, List.not_mem_nil, or_false] at h_call
    rcases h_call with rfl | rfl | rfl | rfl
    · trivial
    · trivial
    · trivial
    · exact validateUsageMapping_eq_ok_iff.mp (by rfl)

end MemoryBackend
end TokenThrottle
