/-
  TokenThrottle.Memory.Backend

  The in-process backend: `MemoryBucket` of `_memory/_bucket.py` and
  `MemoryBackend` of `_memory/_backend.py`.

  * A bucket is indexed by its id, so a registry entry cannot be filed under a
    wrong key.
  * Each operation is the part of the source's method that runs under the
    condition lock, with the clock reading taken there as an argument.  It
    returns the new backend or raises; an operation that raises changes nothing.
  * `_acquired_reservation_ids` is the key set of
    `_acquired_reservation_values`, and `_refunded_reservation_ids` the content
    of `_refunded_reservation_id_order`; one field stands for each pair.
-/
import TokenThrottle.Interface

namespace TokenThrottle

/-! ## MemoryBucket -/

/-- The state of one in-memory bucket. -/
structure MemoryBucket (id : BucketId) where
  capacity : Option ℚ
  lastChecked : Option ℚ
  maxCapacity : MaxCapacity

namespace MemoryBucket

variable {id : BucketId}

/-- A bucket as `__init__` builds it: no consumption data yet. -/
def init (id : BucketId) (limit : MaxCapacity) : MemoryBucket id where
  capacity := none
  lastChecked := none
  maxCapacity := limit

/-- `_rate_per_sec`, kept in step with `max_capacity` by its setter. -/
def ratePerSec (bucket : MemoryBucket id) : ℚ :=
  calculateRatePerSec bucket.maxCapacity id

/-- `get_capacity` -/
def getCapacity (bucket : MemoryBucket id) (currentTime : ℚ) :
    Except BackendError CalculatedCapacity :=
  calculateCapacity bucket.lastChecked bucket.capacity currentTime bucket.maxCapacity
    bucket.ratePerSec

/-- `set_capacity` -/
def setCapacity (bucket : MemoryBucket id) (value currentTime : ℚ) (allowNegative : Bool) :
    MemoryBucket id :=
  { bucket with
    capacity := some (if allowNegative then value else max 0 value)
    lastChecked := some currentTime }

/-- `set_max_capacity`: the stored capacity is anchored, uncapped, at the old rate
    before the limit changes. -/
def setMaxCapacity (bucket : MemoryBucket id) (value currentTime : ℚ) :
    Except BackendError (MemoryBucket id) := do
  let value ← validateMaxCapacityFinitePositive value
  match bucket.lastChecked, bucket.capacity with
  | some last, some capacity =>
    let timePassed := max 0 (currentTime - last)
    .ok
      { capacity := some (capacity + timePassed * bucket.ratePerSec)
        lastChecked := some currentTime
        maxCapacity := value }
  | _, _ => .ok { bucket with maxCapacity := value }

/-- The refilled capacity at a valid clock reading. -/
def capacityAt (bucket : MemoryBucket id) (currentTime : ℚ) : ℚ :=
  refilled bucket.lastChecked bucket.capacity currentTime bucket.maxCapacity
    bucket.ratePerSec

theorem ratePerSec_pos (bucket : MemoryBucket id) : 0 < bucket.ratePerSec :=
  calculateRatePerSec_pos _ _

theorem getCapacity_ok (bucket : MemoryBucket id) {currentTime : ℚ}
    (h_time : 0 ≤ currentTime) :
    bucket.getCapacity currentTime =
      .ok ⟨bucket.capacityAt currentTime, isFreshStart bucket.lastChecked bucket.capacity⟩ :=
  calculateCapacity_ok h_time bucket.ratePerSec_pos

theorem getCapacity_negative (bucket : MemoryBucket id) {currentTime : ℚ}
    (h_time : currentTime < 0) :
    bucket.getCapacity currentTime = .error (.valueError .currentTimeNegative) :=
  calculateCapacity_negative h_time

theorem capacityAt_le_max (bucket : MemoryBucket id) (currentTime : ℚ) :
    bucket.capacityAt currentTime ≤ bucket.maxCapacity.value :=
  refilled_le_max _ _ _ _ _

@[simp] theorem setCapacity_maxCapacity (bucket : MemoryBucket id) (value currentTime : ℚ)
    (allowNegative : Bool) :
    (bucket.setCapacity value currentTime allowNegative).maxCapacity = bucket.maxCapacity :=
  rfl

@[simp] theorem init_capacityAt (id : BucketId) (limit : MaxCapacity) (currentTime : ℚ) :
    (init id limit).capacityAt currentTime = limit.value := rfl

/-- A written capacity reads back at once, capped at the limit. -/
theorem setCapacity_capacityAt (bucket : MemoryBucket id) (value currentTime : ℚ)
    (allowNegative : Bool) :
    (bucket.setCapacity value currentTime allowNegative).capacityAt currentTime =
      min bucket.maxCapacity.value (if allowNegative then value else max 0 value) := by
  unfold capacityAt
  exact refilled_now _ _ _ _

end MemoryBucket

/-! ## MemoryBackend -/

/-- The state of one backend. -/
structure MemoryBackend where
  buckets : List BucketId
  bucket : (id : BucketId) → MemoryBucket id
  acquiredReservationValues : ReservationId → Option (Finset BucketId × FrozenUsage)
  refundedReservationIdOrder : List ReservationId
  refundedReservationIdsCap : ℕ
  configuredLimits : BucketId → ℚ

namespace MemoryBackend

/-- `REFUNDED_RESERVATION_IDS_CAP` -/
def defaultRefundedReservationIdsCap : ℕ := 131072

/-- A fresh backend over the quotas of a configuration. -/
def init (buckets : List BucketId) (limit : BucketId → MaxCapacity) : MemoryBackend where
  buckets := buckets
  bucket id := MemoryBucket.init id (limit id)
  acquiredReservationValues _ := none
  refundedReservationIdOrder := []
  refundedReservationIdsCap := defaultRefundedReservationIdsCap
  configuredLimits id := (limit id).value

/-- `_bucket_ids` -/
def bucketIds (s : MemoryBackend) : Finset BucketId := s.buckets.toFinset

/-- `_usage_metric_names` -/
def usageMetricNames (s : MemoryBackend) : Finset String := metricNames s.bucketIds

/-- The limits in force. -/
def maxCapacity (s : MemoryBackend) (id : BucketId) : ℚ := (s.bucket id).maxCapacity.value

/-- The refilled capacities at a valid clock reading. -/
def capacityAt (s : MemoryBackend) (currentTime : ℚ) : Capacities :=
  fun id => (s.bucket id).capacityAt currentTime

/-- `_get_capacities` -/
def getCapacities (s : MemoryBackend) (currentTime : ℚ) : Except BackendError Capacities :=
  collect (fun id => do return (← (s.bucket id).getCapacity currentTime).amount) s.buckets

/-- `_set_capacities`, for the given buckets. -/
def setCapacities (s : MemoryBackend) (newCapacities : Capacities) (ids : Finset BucketId)
    (currentTime : ℚ) (allowNegative : Bool) : MemoryBackend :=
  { s with
    bucket := fun id =>
      if id ∈ ids then (s.bucket id).setCapacity (newCapacities id) currentTime allowNegative
      else s.bucket id }

/-- `_try_consume_locked`: `none` when capacity is short, else the capacities after. -/
def tryConsumeLocked (s : MemoryBackend) (usage : FrozenUsage) (preconsumption : Capacities) :
    Except BackendError (Option Capacities) :=
  if ¬ usage.keys ⊆ s.usageMetricNames then
    .error (.valueError .usageKeysMismatch)
  else if usageExceeds usage s.maxCapacity s.buckets then
    .error (.valueError .usageExceedsMaxCapacity)
  else if usageExceeds usage preconsumption s.buckets then
    .ok none
  else
    .ok (some (subtractUsage preconsumption usage))

/-- `_is_replayed_acquire` -/
def isReplayedAcquire (s : MemoryBackend) (reservationId : ReservationId)
    (usage : FrozenUsage) : Except BackendError Bool :=
  match s.acquiredReservationValues reservationId with
  | some live =>
    if live = (s.bucketIds, usage) then .ok true
    else .error (.duplicateRefund .duplicateAcquire)
  | none =>
    if reservationId ∈ s.refundedReservationIdOrder then
      .error (.duplicateRefund .duplicateAcquire)
    else .ok false

/-- `_record_acquired_reservation` -/
def recordAcquiredReservation (s : MemoryBackend) (reservationId : ReservationId)
    (usage : FrozenUsage) : MemoryBackend :=
  { s with
    acquiredReservationValues :=
      Function.update s.acquiredReservationValues reservationId (some (s.bucketIds, usage)) }

/-- `_forget_acquired_reservation` -/
def forgetAcquiredReservation (s : MemoryBackend) (reservationId : ReservationId) :
    MemoryBackend :=
  { s with
    acquiredReservationValues :=
      Function.update s.acquiredReservationValues reservationId none }

/-- `_remember_refunded_reservation_id`: the oldest ids are evicted above the cap. -/
def rememberRefundedReservationId (s : MemoryBackend) (reservationId : ReservationId) :
    MemoryBackend :=
  if reservationId ∈ s.refundedReservationIdOrder then s
  else
    let order := s.refundedReservationIdOrder ++ [reservationId]
    { s with
      refundedReservationIdOrder := order.drop (order.length - s.refundedReservationIdsCap) }

/-- Applies `f` where a reservation id is given. -/
def withReservation (s : MemoryBackend) (reservationId : Option ReservationId)
    (f : MemoryBackend → ReservationId → MemoryBackend) : MemoryBackend :=
  match reservationId with
  | none => s
  | some rid => f s rid

/-- The replay check of an optional reservation id. -/
def isReplayed (s : MemoryBackend) (reservationId : Option ReservationId)
    (usage : FrozenUsage) : Except BackendError Bool :=
  match reservationId with
  | none => .ok false
  | some rid => s.isReplayedAcquire rid usage

/-! ### The operations -/

/-- One attempt of `await_for_capacity` under the lock. -/
def attempt (s : MemoryBackend) (usage : FrozenUsage) (reservationId : Option ReservationId)
    (currentTime : ℚ) : Except BackendError (Outcome × MemoryBackend) := do
  if ← s.isReplayed reservationId usage then
    return (.replayed, s)
  let preconsumption ← s.getCapacities currentTime
  match ← s.tryConsumeLocked usage preconsumption with
  | none => return (.unavailable, s)
  | some postconsumption =>
    let s := s.withReservation reservationId (·.recordAcquiredReservation · usage)
    return (.consumed, s.setCapacities postconsumption s.bucketIds currentTime false)

/-- `await_for_capacity` with one attempt. -/
def awaitForCapacity (s : MemoryBackend) (usage : FrozenUsage)
    (reservationId : Option ReservationId) (currentTime : ℚ) :
    Except BackendError (Outcome × MemoryBackend) := do
  validateBackendUsage usage s.usageMetricNames
  s.attempt usage reservationId currentTime

/-- `consume_capacity` -/
def consumeCapacity (s : MemoryBackend) (usage : FrozenUsage)
    (reservationId : Option ReservationId) (currentTime : ℚ) :
    Except BackendError (Outcome × MemoryBackend) := do
  validateBackendUsage usage s.usageMetricNames
  if ← s.isReplayed reservationId usage then
    return (.replayed, s)
  let preconsumption ← s.getCapacities currentTime
  let postconsumption := subtractUsageFloored preconsumption usage s.maxCapacity
  let s := s.withReservation reservationId (·.recordAcquiredReservation · usage)
  return (.consumed, s.setCapacities postconsumption s.bucketIds currentTime true)

/-- The reservation check of a refund. -/
def requireAcquired (s : MemoryBackend) (reservationId : Option ReservationId) :
    Except BackendError Unit :=
  match reservationId with
  | none => .ok ()
  | some rid =>
    if (s.acquiredReservationValues rid).isSome then .ok ()
    else if rid ∈ s.refundedReservationIdOrder then
      .error (.duplicateRefund .alreadyRefunded)
    else .error .unknownReservation

/-- Forgets the marker of a refunded reservation and remembers its id. -/
def closeReservation (s : MemoryBackend) (reservationId : ReservationId) : MemoryBackend :=
  (s.forgetAcquiredReservation reservationId).rememberRefundedReservationId reservationId

/-- `refund_capacity_for_buckets` -/
def refundCapacityForBuckets (s : MemoryBackend) (refund : RefundRequest) (currentTime : ℚ) :
    Except BackendError (Outcome × MemoryBackend) := do
  let refundBucketIds := refund.bucketIds.getD s.bucketIds
  validateBackendRefundUsageForBucketIds refund.reservedUsage refund.actualUsage
    refundBucketIds s.bucketIds
  if refundBucketIds = ∅ ∧ refund.reservationId = none then
    return (.done, s)
  s.requireAcquired refund.reservationId
  if refundBucketIds = ∅ then
    return (.done, s.withReservation refund.reservationId closeReservation)
  let prerefund ← s.getCapacities currentTime
  let updated := applyRefund prerefund refund.reservedUsage refund.actualUsage s.maxCapacity
  -- reads cap raw overflow, so only a scoped bucket is written back
  let s := s.setCapacities updated refundBucketIds currentTime true
  return (.done, s.withReservation refund.reservationId closeReservation)

/-- `_refund_cancelled_consumption`: credits the consumption of a cancelled acquire.
    The marker is forgotten without being read, and no tombstone is left. -/
def refundCancelledConsumption (s : MemoryBackend) (usage : FrozenUsage)
    (reservationId : Option ReservationId) (currentTime : ℚ) :
    Except BackendError (Outcome × MemoryBackend) := do
  let capacities ← s.getCapacities currentTime
  let refunded := restoreUsage capacities usage s.maxCapacity
  let s := s.setCapacities refunded s.bucketIds currentTime true
  return (.done, s.withReservation reservationId forgetAcquiredReservation)

/-- `set_max_capacity` -/
def setMaxCapacity (s : MemoryBackend) (id : BucketId) (value currentTime : ℚ) :
    Except BackendError (Outcome × MemoryBackend) :=
  if id ∉ s.buckets then .error (.valueError .bucketNotFound)
  else do
    let bucket ← (s.bucket id).setMaxCapacity value currentTime
    return (.done, { s with bucket := Function.update s.bucket id bucket })

/-- `apply_configured_max_capacity` -/
def applyConfiguredMaxCapacity (s : MemoryBackend) (id : BucketId) (value currentTime : ℚ) :
    Except BackendError (Outcome × MemoryBackend) := do
  let (_, s) ← s.setMaxCapacity id value currentTime
  return (.done, { s with configuredLimits := Function.update s.configuredLimits id value })

/-- A request handled at a clock reading. -/
def handle (s : MemoryBackend) (request : Request) (currentTime : ℚ) :
    Except BackendError (Outcome × MemoryBackend) :=
  match request with
  | .awaitForCapacity usage reservationId _ =>
    s.awaitForCapacity usage reservationId currentTime
  | .consumeCapacity usage reservationId _ =>
    s.consumeCapacity usage reservationId currentTime
  | .refundCapacityForBuckets refund => s.refundCapacityForBuckets refund currentTime
  | .refundCancelledConsumption usage reservationId =>
    s.refundCancelledConsumption usage reservationId currentTime
  | .setMaxCapacity id value => s.setMaxCapacity id value currentTime
  | .applyConfiguredMaxCapacity id value => s.applyConfiguredMaxCapacity id value currentTime

end MemoryBackend

end TokenThrottle
