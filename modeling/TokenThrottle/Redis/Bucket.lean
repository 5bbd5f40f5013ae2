/-
  TokenThrottle.Redis.Bucket

  `RedisBucket` of `_redis/_bucket.py` with `_redis/_override_expiry.py`: the
  arithmetic of a bucket whose limit may be a runtime override, and the commands one
  bucket sends.

  A method reads the attributes of its bucket through the bucket's owner: the running
  backend, whose attributes other tasks may have changed since the last command, or
  a backend that is being built and that no one else holds yet.
-/
import TokenThrottle.Redis.Server

namespace TokenThrottle

open Theory (Program)

/-! ## Overrides and their expiry -/

/-- `accrue_with_expiry`: after an override expired, the time up to its expiry counts
    at its rate and the rest at the configured one. -/
def accrueWithExpiry (history : Option OverrideExpiry) (override : Option MaxCapacity)
    (configured : MaxCapacity) (id : BucketId) (lastChecked currentTime stored ratePerSec : ℚ) :
    ℚ :=
  match history with
  | none => stored + max 0 (currentTime - lastChecked) * ratePerSec
  | some history =>
    if override.isSome ∨ ¬ isclose history.configured.value configured.value ∨
        currentTime < history.expiresAt then
      stored + max 0 (currentTime - lastChecked) * ratePerSec
    else
      let oldSeconds := max 0 (history.expiresAt - lastChecked)
      let newSeconds := max 0 (currentTime - max lastChecked history.expiresAt)
      stored + oldSeconds * calculateRatePerSec history.maximum id + newSeconds * ratePerSec

/-- `calculate_with_expiry` -/
def calculateWithExpiry (history : Option OverrideExpiry) (override : Option MaxCapacity)
    (configured : MaxCapacity) (id : BucketId) (lastChecked outdatedCapacity : Option ℚ)
    (currentTime : ℚ) : Except BackendError CalculatedCapacity := do
  let maximum := override.getD configured
  let result ← calculateCapacity lastChecked outdatedCapacity currentTime maximum
    (calculateRatePerSec maximum id)
  match lastChecked, outdatedCapacity with
  | some last, some stored =>
    let accrued := accrueWithExpiry history override configured id last currentTime stored
      (calculateRatePerSec maximum id)
    .ok ⟨min maximum.value accrued, false⟩
  | _, _ => .ok result

namespace BucketFields

/-- `_bucket_state_missing_keys` is not empty. -/
def incomplete (fields : BucketFields) : Bool :=
  fields.lastChecked.isNone || fields.capacity.isNone

/-- `_normalize_bucket_state_pair`: a half of the pair, or none of it although it
    was confirmed lately, reads as drained now. -/
def normalize (fields : BucketFields) (currentTime : ℚ) (drainTotalLoss : Bool) :
    BucketFields :=
  if fields.lastChecked.isNone ∧ fields.capacity.isNone ∧ ¬ drainTotalLoss then fields
  else if fields.incomplete then ⟨some currentTime, some 0⟩
  else fields

end BucketFields

/-! ## Attributes of a bucket -/

namespace RedisClient

def bucketKey (client : RedisClient) (id : BucketId) : BucketKey :=
  ⟨client.keyPrefix, client.modelFamily, id⟩

/-- `_acquired_marker_key` and `_refund_dedup_key`: one prefix, two suffixes. -/
def reservationKey (client : RedisClient) (reservationId : ReservationId) : ReservationKey :=
  ⟨client.keyPrefix, reservationId⟩

/-- `max_capacity` -/
def maxCapacity (client : RedisClient) (id : BucketId) : MaxCapacity :=
  (client.caches.maxCapacityCached id).getD (client.maxCapacityDefault id)

/-- `sorted_buckets`; a call keeps to the buckets it found when it began. -/
def bucketKeys (client : RedisClient) : List BucketKey :=
  client.sortedBuckets.map client.bucketKey

theorem bucketKeys_ids (client : RedisClient) :
    client.bucketKeys.map BucketKey.id = client.sortedBuckets := by
  unfold bucketKeys
  rw [List.map_map]
  exact List.map_id _

theorem sortedBuckets_eq {client client' : RedisClient}
    (h_keys : client.bucketKeys = client'.bucketKeys) :
    client.sortedBuckets = client'.sortedBuckets := by
  rw [← bucketKeys_ids, h_keys, bucketKeys_ids]

/-- `_bucket_ids` -/
def bucketIds (client : RedisClient) : Finset BucketId := client.sortedBuckets.toFinset

/-- `_validation_metric_names` -/
def metricNames (client : RedisClient) : Finset String :=
  TokenThrottle.metricNames client.bucketIds

/-- `_deserialize_max_capacity_override`: an override under another configured limit
    is ignored. -/
def deserializeMaxCapacityOverride (client : RedisClient) (id : BucketId)
    (raw : Option OverrideRecord) : Option MaxCapacity :=
  match raw with
  | none => none
  | some record =>
    if isclose record.configuredMaxCapacity.value (client.maxCapacityDefault id).value then
      some record.overrideMaxCapacity
    else none

/-- `state_loss_suspected` -/
def stateLossSuspected (client : RedisClient) (id : BucketId) (currentTime : ℚ) : Bool :=
  (client.caches.stateConfirmedAtServerTime id).any fun confirmedAt =>
    currentTime - confirmedAt < client.bucketTtlSeconds * (9 / 10)

/-- `capacity_ttl` -/
def capacityTtl (client : RedisClient) (id : BucketId) (capacity : ℚ)
    (maximum : Option MaxCapacity) : Except BackendError ℤ :=
  debtTtlSeconds capacity client.bucketTtlSeconds id.perSeconds
    (maximum.getD (client.maxCapacity id)).value (client.maxCapacityDefault id).value

/-- What a read of a bucket finds: its override, and its capacity now. -/
def calculate (client : RedisClient) (id : BucketId) (fields : BucketFields)
    (raw : Option OverrideRecord) (history : Option OverrideExpiry) (currentTime : ℚ) :
    Except BackendError CalculatedCapacity :=
  let normalized := fields.normalize currentTime (client.stateLossSuspected id currentTime)
  calculateWithExpiry history (client.deserializeMaxCapacityOverride id raw)
    (client.maxCapacityDefault id) id normalized.lastChecked normalized.capacity currentTime

end RedisClient

namespace BucketCaches

/-- `_apply_parsed_max_capacity_override` -/
def applyParsedMaxCapacityOverride (id : BucketId) (override : Option MaxCapacity)
    (caches : BucketCaches) : BucketCaches :=
  { caches with maxCapacityCached := Function.update caches.maxCapacityCached id override }

/-- `confirm_state_present` -/
def confirmStatePresent (id : BucketId) (currentTime : ℚ) (caches : BucketCaches) :
    BucketCaches :=
  { caches with
    stateConfirmedAtServerTime :=
      Function.update caches.stateConfirmedAtServerTime id (some currentTime) }

/-- `_confirm_written_state` -/
def confirmWrittenState (keys : List BucketKey) (currentTime : ℚ) (caches : BucketCaches) :
    BucketCaches :=
  keys.foldl (fun caches key => caches.confirmStatePresent key.id currentTime) caches

end BucketCaches

/-! ## Commands of one bucket -/

/-- The backend a `RedisBucket` object belongs to. -/
inductive BucketOwner
  | running
  | rebuilt (client : RedisClient)

/-- The attributes of the owner's buckets. -/
def BucketOwner.client : BucketOwner → RedisProgram RedisClient
  | .running => send .client
  | .rebuilt client => pure client

def BucketOwner.updateCaches (f : BucketCaches → BucketCaches) :
    BucketOwner → RedisProgram BucketOwner
  | .running => do
    send (.updateCaches f)
    return .running
  | .rebuilt client => return .rebuilt { client with caches := f client.caches }

namespace RedisBucket

/-- `retain_capacity_history` -/
def retainCapacityHistory (key : BucketKey) : RedisProgram Unit := do
  let history ← send (.getExpiry key)
  Program.when history.isSome (send (.retainExpiry key))

/-- The payload `_write_override_with_expiry` writes. -/
def overrideRecord (client : RedisClient) (id : BucketId) (value : MaxCapacity) :
    OverrideRecord :=
  ⟨client.maxCapacityDefault id, value⟩

/-- `_refresh_max_capacity_override_ttl` -/
def refreshMaxCapacityOverrideTtl (owner : BucketOwner) (key : BucketKey)
    (override : Option MaxCapacity) : RedisProgram Unit :=
  match override with
  | none => retainCapacityHistory key
  | some value => do
    let currentTime ← send .time
    let client ← owner.client
    let _ ← send (.refreshOverride key (overrideRecord client key.id value)
      (currentTime + client.overrideTtlSeconds))
    return ()

/-- `set_capacity` on a pipeline of its own, as the anchoring of a bucket calls it:
    debt is kept. -/
def setCapacity (owner : BucketOwner) (key : BucketKey) (newCapacity currentTime : ℚ)
    (retentionMaxCapacity : Option MaxCapacity) : RedisProgram BucketOwner := do
  let client ← owner.client
  let _ ← Program.lift (client.capacityTtl key.id newCapacity retentionMaxCapacity)
  retainCapacityHistory key
  send (.setStates [(key, newCapacity)] currentTime none)
  owner.updateCaches (.confirmStatePresent key.id currentTime)

/-- `set_max_capacity` -/
def setMaxCapacity (key : BucketKey) (value : MaxCapacity) : RedisProgram Unit := do
  let currentTime ← send .time
  let client ← send .client
  send (.setOverride key (overrideRecord client key.id value)
    (currentTime + client.overrideTtlSeconds))
  send (.updateCaches (.applyParsedMaxCapacityOverride key.id (some value)))

/-- `clear_max_capacity_override` -/
def clearMaxCapacityOverride (owner : BucketOwner) (key : BucketKey) :
    RedisProgram BucketOwner := do
  send (.deleteOverride key)
  owner.updateCaches (.applyParsedMaxCapacityOverride key.id none)

end RedisBucket

end TokenThrottle
