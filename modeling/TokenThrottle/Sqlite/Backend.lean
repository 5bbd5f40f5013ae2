/-
  TokenThrottle.Sqlite.Backend

  `SqliteBackend` of `_sqlite/_backend.py`: the checks it makes before it hands a
  request to its engine.  A call here is one transaction; the waiting loop repeats
  `awaitForCapacity`.
-/
import TokenThrottle.Sqlite.Engine

namespace TokenThrottle

/-- An engine with the database it works on. -/
structure SqliteBackend where
  engine : SqliteEngine
  db : Database

namespace SqliteBackend

/-- A call of the engine. -/
def run (b : SqliteBackend) (input : TxnInput) (request : EngineRequest) :
    Except BackendError Outcome × SqliteBackend :=
  let (result, engine, db) := b.engine.call input b.db request
  (result, ⟨engine, db⟩)

/-- Runs the engine once a check has passed. -/
def checked {α : Type} (b : SqliteBackend) (check : Except BackendError α)
    (next : α → Except BackendError Outcome × SqliteBackend) :
    Except BackendError Outcome × SqliteBackend :=
  match check with
  | .ok a => next a
  | .error error => (.error error, b)

/-- The checks of a refund against the metadata of its reservation. -/
def validateMarker (refund : RefundRequest) (refundBucketIds : Finset BucketId) :
    Except BackendError Unit :=
  match refund.reservationId with
  | none => .ok ()
  | some _ => do
    let (_, ids, usage) ← requireMarkerMetadata refund
    validateMarkerRefundScope refund.reservedUsage refundBucketIds ids usage

/-- `await_for_capacity` with one attempt. -/
def awaitForCapacity (b : SqliteBackend) (input : TxnInput) (usage : FrozenUsage)
    (reservationId : Option ReservationId) (reservationLifetimeSeconds : Option ℚ) :
    Except BackendError Outcome × SqliteBackend :=
  b.checked (validateBackendUsage usage b.engine.metricNames) fun _ =>
    b.run input (.tryConsume usage reservationId reservationLifetimeSeconds)

/-- `consume_capacity` -/
def consumeCapacity (b : SqliteBackend) (input : TxnInput) (usage : FrozenUsage)
    (reservationId : Option ReservationId) (reservationLifetimeSeconds : Option ℚ) :
    Except BackendError Outcome × SqliteBackend :=
  b.checked (validateBackendUsage usage b.engine.metricNames) fun _ =>
    b.run input (.consume usage reservationId reservationLifetimeSeconds)

/-- `refund_capacity_for_buckets` -/
def refundCapacityForBuckets (b : SqliteBackend) (input : TxnInput) (refund : RefundRequest) :
    Except BackendError Outcome × SqliteBackend :=
  let refundBucketIds := refund.bucketIds.getD b.engine.bucketIds
  b.checked (validateBackendRefundUsageForBucketIds refund.reservedUsage refund.actualUsage
      refundBucketIds b.engine.bucketIds) fun _ =>
    b.checked (validateMarker refund refundBucketIds) fun _ =>
      if refundBucketIds = ∅ ∧ refund.reservationId = none then (.ok .done, b)
      else b.run input (.refund refund refundBucketIds)

/-- `set_max_capacity` -/
def setMaxCapacity (b : SqliteBackend) (input : TxnInput) (id : BucketId) (value : ℚ) :
    Except BackendError Outcome × SqliteBackend :=
  b.checked (validateMaxCapacityFinitePositive value) fun value =>
    b.run input (.setMaxCapacity id value.value)

/-- `apply_configured_max_capacity` -/
def applyConfiguredMaxCapacity (b : SqliteBackend) (input : TxnInput) (id : BucketId)
    (value : ℚ) : Except BackendError Outcome × SqliteBackend :=
  b.checked (validateMaxCapacityFinitePositive value) fun value =>
    b.run input (.applyConfiguredMaxCapacity id value.value)

/-- A request handled by one transaction. -/
def handle (b : SqliteBackend) (input : TxnInput) :
    Request → Except BackendError Outcome × SqliteBackend
  | .awaitForCapacity usage reservationId lifetime =>
    b.awaitForCapacity input usage reservationId lifetime
  | .consumeCapacity usage reservationId lifetime =>
    b.consumeCapacity input usage reservationId lifetime
  | .refundCapacityForBuckets refund => b.refundCapacityForBuckets input refund
  | .refundCancelledConsumption usage reservationId =>
    b.run input (.cleanupConsumption usage b.engine.bucketIds reservationId)
  | .setMaxCapacity id value => b.setMaxCapacity input id value
  | .applyConfiguredMaxCapacity id value => b.applyConfiguredMaxCapacity input id value

/-- What a read finds in a bucket: the engine's snapshot, which changes no row. -/
def snapshot (b : SqliteBackend) (id : BucketId) (currentTime : ℚ) :
    Except BackendError BucketState := do
  let loaded ← loadRow (b.engine.spec id) b.engine.bucketTtlSeconds
    (b.engine.stateLossSuspected id currentTime) false (b.db.buckets (b.engine.bucketKey id))
    currentTime
  return loaded.state

end SqliteBackend

end TokenThrottle
