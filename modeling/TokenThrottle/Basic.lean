/-
  TokenThrottle.Basic

  The vocabulary every backend shares: bucket ids, usages, the errors a backend
  raises, and the validators of `_validation.py` that run before a backend
  takes its lock.

  * A bucket id is the pair `(metric, per_seconds)`; its window is positive, as
    `validate_per_seconds` requires, so the fact is a field of the structure.
  * A usage is a finite map from metric names to exact rationals (the source's
    floats); two usages are equal when they hold the same entries in any order,
    as two `frozendict`s are.
-/
import Mathlib.Data.Finmap
import Mathlib.Data.Rat.Defs
import Mathlib.Algebra.Order.Field.Rat
import Mathlib.Data.Finset.Image

namespace TokenThrottle

/-! ## Identities -/

abbrev ReservationId := String

/-- A bucket of one model family: a metric and a window in seconds. -/
structure BucketId where
  metric : String
  perSeconds : ℕ
  perSeconds_pos : 0 < perSeconds
deriving DecidableEq

/-- The window of a bucket as a rational, for the refill arithmetic. -/
def BucketId.window (id : BucketId) : ℚ := id.perSeconds

theorem BucketId.window_pos (id : BucketId) : 0 < id.window := by
  unfold BucketId.window
  exact_mod_cast id.perSeconds_pos

/-- `{metric for metric, _ in bucket_ids}` -/
def metricNames (bucketIds : Finset BucketId) : Finset String :=
  bucketIds.image BucketId.metric

theorem metric_mem_metricNames {bucketIds : Finset BucketId} {id : BucketId}
    (h_mem : id ∈ bucketIds) : id.metric ∈ metricNames bucketIds :=
  Finset.mem_image_of_mem _ h_mem

/-! ## Usages -/

/-- `FrozenUsage`: how much of each metric a request uses. -/
abbrev FrozenUsage := Finmap (fun _ : String => ℚ)

namespace FrozenUsage

/-- The entry of a metric, 0 where the usage has none. -/
def amount (usage : FrozenUsage) (metric : String) : ℚ :=
  (usage.lookup metric).getD 0

theorem amount_of_lookup {usage : FrozenUsage} {metric : String} {a : ℚ}
    (h_lookup : usage.lookup metric = some a) : usage.amount metric = a := by
  simp [amount, h_lookup]

theorem lookup_of_mem_keys {usage : FrozenUsage} {metric : String}
    (h_mem : metric ∈ usage.keys) :
    usage.lookup metric = some (usage.amount metric) := by
  obtain ⟨a, h_lookup⟩ := Finmap.mem_iff.mp (Finmap.mem_keys.mp h_mem)
  rw [h_lookup, amount_of_lookup h_lookup]

end FrozenUsage

/-- The bucket and the usages of the examples: tokens per minute. -/
def tokensPerMinute : BucketId := ⟨"tokens", 60, by decide⟩

def tokens (amount : ℚ) : FrozenUsage := Finmap.singleton "tokens" amount

/-! ## Errors -/

/-- What a `ValueError` of a backend is about.  One constructor for each place
    that raises; the numbers the texts interpolate are arguments of the call. -/
inductive ValueErrorKind
  | currentTimeNegative
  | maxCapacityTooSmall
  | rateNotPositive
  | usageKeysMismatch
  | usageNegative
  | bucketIdsEmpty
  | bucketIdsNotFound
  | bucketNotFound
  | usageExceedsMaxCapacity
  | retentionTooLong
  | reservationLifetimeInvalid
  | reservationMetadataMissing
  | refundScopeMismatch
  | timeoutNegative
  | keyPrefixMismatch
deriving DecidableEq

/-- `DuplicateRefundReason` -/
inductive DuplicateRefundReason
  | alreadyRefunded
  | inProgress
  | duplicateAcquire
deriving DecidableEq

/-- The exceptions the backends raise.  `lockError` and `redisError` are the client
    library's; a `TimeoutError` says what the caller waited for; `interrupted` is any
    exception that arrives from outside while an operation runs. -/
inductive BackendError
  | valueError (kind : ValueErrorKind)
  | duplicateRefund (reason : DuplicateRefundReason)
  | unknownReservation
  | lockContention
  | lockError
  | lockTimeout
  | capacityTimeout
  | keyError
  | integrityError
  | runtimeError
  | redisError
  | interrupted
deriving DecidableEq

/-- A computation that succeeds had each of its steps succeed. -/
theorem bind_eq_ok {ε α β : Type} {x : Except ε α} {f : α → Except ε β} {b : β}
    (h_ok : x >>= f = .ok b) : ∃ a, x = .ok a ∧ f a = .ok b := by
  cases x with
  | error e => cases h_ok
  | ok a => exact ⟨a, rfl, h_ok⟩

/-! ## Validators -/

/-- `_validate_usage_mapping`: the keys are exactly the expected ones and no
    amount is negative. -/
def validateUsageMapping (usage : FrozenUsage) (expectedKeys : Finset String) :
    Except BackendError Unit :=
  if usage.keys ≠ expectedKeys then
    .error (.valueError .usageKeysMismatch)
  else if ∃ metric ∈ usage.keys, usage.amount metric < 0 then
    .error (.valueError .usageNegative)
  else
    .ok ()

/-- `validate_backend_usage` -/
def validateBackendUsage (usage : FrozenUsage) (backendMetricNames : Finset String) :
    Except BackendError Unit :=
  validateUsageMapping usage backendMetricNames

/-- `validate_timeout` -/
def validateTimeout (timeout : Option ℚ) : Except BackendError (Option ℚ) :=
  if timeout.any (· < 0) then .error (.valueError .timeoutNegative) else .ok timeout

/-- `validate_refund_usage` -/
def validateRefundUsage (actualUsage : FrozenUsage) (reservationKeys : Finset String) :
    Except BackendError Unit :=
  validateUsageMapping actualUsage reservationKeys

/-- `validate_backend_refund_usage_for_bucket_ids` -/
def validateBackendRefundUsageForBucketIds (reservedUsage actualUsage : FrozenUsage)
    (bucketIds backendBucketIds : Finset BucketId) : Except BackendError Unit :=
  if bucketIds = ∅ then
    if reservedUsage.keys ≠ ∅ ∨ actualUsage.keys ≠ ∅ then
      .error (.valueError .bucketIdsEmpty)
    else
      .ok ()
  else if ¬ bucketIds ⊆ backendBucketIds then
    .error (.valueError .bucketIdsNotFound)
  else do
    validateUsageMapping reservedUsage (metricNames bucketIds)
    validateRefundUsage actualUsage reservedUsage.keys

/-- A usage that covers exactly the given metrics, with no negative amount:
    what the validators let through. -/
structure Covers (usage : FrozenUsage) (metrics : Finset String) : Prop where
  keys_eq : usage.keys = metrics
  nonneg : ∀ metric ∈ metrics, 0 ≤ usage.amount metric

theorem covers_tokens {amount : ℚ} (h_amount : 0 ≤ amount) : Covers (tokens amount) {"tokens"} := by
  refine ⟨rfl, fun metric h_mem => ?_⟩
  obtain rfl := Finset.mem_singleton.mp h_mem
  exact h_amount

theorem validateUsageMapping_eq_ok_iff {usage : FrozenUsage} {metrics : Finset String} :
    validateUsageMapping usage metrics = .ok () ↔ Covers usage metrics := by
  unfold validateUsageMapping
  constructor
  · intro h_ok
    by_cases h_keys : usage.keys = metrics
    · by_cases h_neg : ∃ metric ∈ usage.keys, usage.amount metric < 0
      · rw [if_neg (not_not.mpr h_keys), if_pos h_neg] at h_ok
        cases h_ok
      · refine ⟨h_keys, fun metric h_mem => ?_⟩
        rw [← h_keys] at h_mem
        exact not_lt.mp fun h_lt => h_neg ⟨metric, h_mem, h_lt⟩
    · simp [h_keys] at h_ok
  · intro h_covers
    have h_neg : ¬ ∃ metric ∈ usage.keys, usage.amount metric < 0 := by
      rintro ⟨metric, h_mem, h_lt⟩
      rw [h_covers.keys_eq] at h_mem
      exact absurd h_lt (not_lt.mpr (h_covers.nonneg metric h_mem))
    rw [if_neg (not_not.mpr h_covers.keys_eq), if_neg h_neg]

/-- Every metric of a covering usage has an entry. -/
theorem Covers.lookup_eq {usage : FrozenUsage} {metrics : Finset String} {metric : String}
    (h_covers : Covers usage metrics) (h_mem : metric ∈ metrics) :
    usage.lookup metric = some (usage.amount metric) :=
  FrozenUsage.lookup_of_mem_keys (h_covers.keys_eq ▸ h_mem)

theorem Covers.lookup_bucket {usage : FrozenUsage} {bucketIds : Finset BucketId}
    {id : BucketId} (h_covers : Covers usage (metricNames bucketIds))
    (h_mem : id ∈ bucketIds) :
    usage.lookup id.metric = some (usage.amount id.metric) :=
  h_covers.lookup_eq (metric_mem_metricNames h_mem)

theorem Covers.amount_nonneg {usage : FrozenUsage} {bucketIds : Finset BucketId}
    {id : BucketId} (h_covers : Covers usage (metricNames bucketIds))
    (h_mem : id ∈ bucketIds) : 0 ≤ usage.amount id.metric :=
  h_covers.nonneg _ (metric_mem_metricNames h_mem)

/-- The validator of a refund leaves a covering usage of the scoped buckets. -/
theorem validateBackendRefundUsage_scope {reservedUsage actualUsage : FrozenUsage}
    {bucketIds backendBucketIds : Finset BucketId} (h_ne : bucketIds ≠ ∅)
    (h_ok : validateBackendRefundUsageForBucketIds reservedUsage actualUsage bucketIds
      backendBucketIds = .ok ()) :
    bucketIds ⊆ backendBucketIds ∧ Covers reservedUsage (metricNames bucketIds) ∧
      Covers actualUsage (metricNames bucketIds) := by
  unfold validateBackendRefundUsageForBucketIds at h_ok
  rw [if_neg h_ne] at h_ok
  split at h_ok
  · cases h_ok
  · rename_i h_sub
    obtain ⟨_, h_reserved, h_actual⟩ := bind_eq_ok h_ok
    have h_covers := validateUsageMapping_eq_ok_iff.mp h_reserved
    refine ⟨not_not.mp h_sub, h_covers, ?_⟩
    rw [← h_covers.keys_eq]
    exact validateUsageMapping_eq_ok_iff.mp h_actual

end TokenThrottle
