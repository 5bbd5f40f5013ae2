/-
  TokenThrottle.Sqlite.Engine

  `SqliteEngine` of `_sqlite/_engine.py`: the transactions of one engine on a
  database that any number of engines share.

  * A transaction body is a sequence of statements that may be interrupted before
    any of them (`interruptAfter`); `transaction` commits it or rolls it back.
  * A transaction meets a clock reading and, in `_prune`, a choice of expired rows:
    the `LIMIT` of the source does not say which rows it takes.
  * Statements of one bucket row in `_load_states` and `_write_capacities` are one
    write of the row that `Sqlite.Rows` computes.
-/
import TokenThrottle.Sqlite.Rows
import TokenThrottle.Theory.Body

namespace TokenThrottle

open Theory (Body atomically)

/-! ## The database -/

structure Database where
  buckets : BucketKey → Option BucketRow
  acquireMarkers : ReservationKey → Option MarkerRow
  refundTombstones : ReservationKey → Option TombstoneRow

namespace Database

def empty : Database where
  buckets _ := none
  acquireMarkers _ := none
  refundTombstones _ := none

def putBucket (key : BucketKey) (row : BucketRow) (db : Database) : Database :=
  { db with buckets := Function.update db.buckets key (some row) }

/-- `UPDATE buckets ... WHERE` the key: nothing happens where there is no row. -/
def updateBucket (key : BucketKey) (f : BucketRow → BucketRow) (db : Database) : Database :=
  { db with buckets := Function.update db.buckets key ((db.buckets key).map f) }

def putMarker (key : ReservationKey) (row : Option MarkerRow) (db : Database) : Database :=
  { db with acquireMarkers := Function.update db.acquireMarkers key row }

def putTombstone (key : ReservationKey) (row : Option TombstoneRow) (db : Database) :
    Database :=
  { db with refundTombstones := Function.update db.refundTombstones key row }

end Database

/-! ## Statements and transactions -/

/-- What a transaction works on: the database as written so far, the confirmations
    to make on commit, and how many more statements run before an interrupt. -/
structure TxnState where
  db : Database
  pendingStateConfirmations : BucketId → Option ℚ
  interruptAfter : Option ℕ

abbrev Txn := Body BackendError TxnState

/-- One statement. -/
def statement {α : Type} (f : Database → α × Database) : Txn α := fun s =>
  match s.interruptAfter with
  | some 0 => .error .interrupted s
  | left =>
    .ok (f s.db).1 { s with db := (f s.db).2, interruptAfter := left.map Nat.pred }

def query {α : Type} (f : Database → α) : Txn α := statement fun db => (f db, db)

def execute (f : Database → Database) : Txn Unit := statement fun db => ((), f db)

def raise {α : Type} (e : BackendError) : Txn α := Body.lift (.error e)

/-- Marks a bucket's state as confirmed when the transaction commits. -/
def confirmState (id : BucketId) (currentTime : ℚ) : Txn Unit := fun s =>
  .ok () { s with
    pendingStateConfirmations :=
      Function.update s.pendingStateConfirmations id (some currentTime) }

/-- What a transaction meets: the clock reading under the write lock, the expired
    rows `_prune` picks, and an interrupt, if one comes. -/
structure TxnInput where
  currentTime : ℚ
  prunesMarker : ReservationKey → Bool
  prunesTombstone : ReservationKey → Bool
  prunesBucket : BucketKey → Bool
  interruptAfter : Option ℕ

/-- An engine of one model family; `nodup` is what `UsageQuotas` validates. -/
structure SqliteEngine where
  keyPrefix : String
  modelFamily : String
  buckets : List BucketId
  nodup : buckets.Nodup
  configuredMaxCapacity : BucketId → MaxCapacity
  bucketTtlSeconds : ℕ
  refundDedupTtlSeconds : ℕ
  overrideTtlSeconds : ℕ
  maxReservationLifetimeSeconds : ℚ
  stateConfirmedUntil : BucketId → Option ℚ

/-- `CapacityResult` -/
structure CapacityResult where
  currentTime : ℚ
  preCapacities : Capacities
  postCapacities : Capacities
  maxCapacities : Capacities
  replayed : Bool

/-- `TryConsumeResult` -/
structure TryConsumeResult where
  available : Bool
  result : CapacityResult

/-- How the results of the two consumptions read to the caller. -/
def CapacityResult.outcome (result : CapacityResult) : Outcome :=
  if result.replayed then .replayed else .consumed

def TryConsumeResult.outcome (result : TryConsumeResult) : Outcome :=
  if result.available then result.result.outcome else .unavailable

/-- `RefundResult` -/
structure RefundResult where
  currentTime : ℚ
  preCapacities : Capacities
  postCapacities : Capacities
  refundedUsage : String → Option ℚ

/-- One call of an engine. -/
inductive EngineRequest
  | tryConsume (usage : FrozenUsage) (reservationId : Option ReservationId)
      (reservationLifetimeSeconds : Option ℚ)
  | consume (usage : FrozenUsage) (reservationId : Option ReservationId)
      (reservationLifetimeSeconds : Option ℚ)
  | refund (refund : RefundRequest) (refundBucketIds : Finset BucketId)
  | cleanupConsumption (usage : FrozenUsage) (bucketIds : Finset BucketId)
      (reservationId : Option ReservationId)
  | setMaxCapacity (id : BucketId) (value : ℚ)
  | applyConfiguredMaxCapacity (id : BucketId) (value : ℚ)
  | clearMaxCapacityOverrides (bucketIds : Finset BucketId)
      (configuredMaxCapacities : BucketId → Option ℚ)

namespace SqliteEngine

/-- `bucket_ids` -/
def bucketIds (e : SqliteEngine) : Finset BucketId := e.buckets.toFinset

/-- `metric_names` -/
def metricNames (e : SqliteEngine) : Finset String := TokenThrottle.metricNames e.bucketIds

def spec (e : SqliteEngine) (id : BucketId) : BucketSpec := ⟨id, e.configuredMaxCapacity id⟩

def bucketKey (e : SqliteEngine) (id : BucketId) : BucketKey := ⟨e.keyPrefix, e.modelFamily, id⟩

def reservationKey (e : SqliteEngine) (reservationId : ReservationId) : ReservationKey :=
  ⟨e.keyPrefix, reservationId⟩

/-- `_state_loss_suspected` -/
def stateLossSuspected (e : SqliteEngine) (id : BucketId) (currentTime : ℚ) : Bool :=
  (e.stateConfirmedUntil id).any fun confirmedUntil => currentTime < confirmedUntil

/-- The confirmations of a committed transaction. -/
def confirm (e : SqliteEngine) (pending : BucketId → Option ℚ) : SqliteEngine :=
  { e with
    stateConfirmedUntil := fun id =>
      match pending id with
      | some confirmedAt => some (confirmedAt + 9 / 10 * e.bucketTtlSeconds)
      | none => e.stateConfirmedUntil id }

/-- `_transaction`: `BEGIN IMMEDIATE`, the body, `COMMIT`; any exception rolls back. -/
def transaction {α : Type} (e : SqliteEngine) (input : TxnInput) (db : Database)
    (body : Txn α) : Except BackendError α × SqliteEngine × Database :=
  -- `COMMIT` is a statement too: it can be interrupted, and then rolls back
  let commit : Txn Unit := execute fun db => db
  match atomically (body >>= fun a => commit >>= fun _ => pure a)
      ⟨db, fun _ => none, input.interruptAfter⟩ with
  -- the confirmations are taken over only after `COMMIT`
  | (.ok a, s) => (.ok a, e.confirm s.pendingStateConfirmations, s.db)
  | (.error error, s) => (.error error, e, s.db)

/-! ## Parts of the transactions -/

/-- `_prune`: picked rows that have expired are deleted, a bucket row only when its
    override has expired too. -/
def prune (input : TxnInput) : Txn Unit := do
  execute fun db =>
    { db with
      acquireMarkers := fun key => (db.acquireMarkers key).filter fun row =>
        ¬ (row.expiresAt ≤ input.currentTime ∧ input.prunesMarker key) }
  execute fun db =>
    { db with
      refundTombstones := fun key => (db.refundTombstones key).filter fun row =>
        ¬ (row.expiresAt ≤ input.currentTime ∧ input.prunesTombstone key) }
  execute fun db =>
    { db with
      buckets := fun key => (db.buckets key).filter fun row =>
        ¬ (row.expiresAt ≤ input.currentTime ∧ ¬ row.overrideLive input.currentTime ∧
          input.prunesBucket key) }

/-- `_load_states` -/
def loadStates (e : SqliteEngine) (currentTime : ℚ) :
    List BucketId → Txn (BucketId → BucketState)
  | [] => pure fun _ => default
  | id :: ids => do
    let row ← query fun db => db.buckets (e.bucketKey id)
    let loaded ← Body.lift (loadRow (e.spec id) e.bucketTtlSeconds
      (e.stateLossSuspected id currentTime) true row currentTime)
    execute (·.putBucket (e.bucketKey id) loaded.row)
    Body.when loaded.confirmed (confirmState id currentTime)
    let rest ← e.loadStates currentTime ids
    return Function.update rest id loaded.state

/-- `_capacities` -/
def capacities (states : BucketId → BucketState) : Capacities := fun id => (states id).capacity

def maxCapacities (states : BucketId → BucketState) : Capacities :=
  fun id => (states id).maxCapacity.value

/-- `_write_capacities`, for the given buckets. -/
def writeCapacities (e : SqliteEngine) (capacities : Capacities) (currentTime : ℚ) :
    List BucketId → Txn Unit
  | [] => pure ()
  | id :: ids => do
    match ← query fun db => db.buckets (e.bucketKey id) with
    | none => raise .runtimeError
    | some row =>
      let row ← Body.lift (writeRow (e.spec id) e.bucketTtlSeconds row (capacities id)
        currentTime)
      execute (·.putBucket (e.bucketKey id) row)
      confirmState id currentTime
      e.writeCapacities capacities currentTime ids

/-- Reads a marker row; one that has expired is deleted and reads as absent. -/
def readLiveMarker (key : ReservationKey) (currentTime : ℚ) : Txn (Option MarkerRow) := do
  let marker ← query fun db => db.acquireMarkers key
  Body.when (marker.any fun row => row.expiresAt ≤ currentTime)
    (execute (·.putMarker key none))
  return marker.filter fun row => currentTime < row.expiresAt

/-- Reads a tombstone row; one that has expired is deleted and reads as absent. -/
def readLiveTombstone (key : ReservationKey) (currentTime : ℚ) :
    Txn (Option TombstoneRow) := do
  let tombstone ← query fun db => db.refundTombstones key
  Body.when (tombstone.any fun row => row.expiresAt ≤ currentTime)
    (execute (·.putTombstone key none))
  return tombstone.filter fun row => currentTime < row.expiresAt

/-- `_raise_if_duplicate_acquire`: true for an identical replay of a live marker. -/
def raiseIfDuplicateAcquire (e : SqliteEngine) (reservationId : Option ReservationId)
    (currentTime : ℚ) (usage : FrozenUsage) : Txn Bool :=
  match reservationId with
  | none => pure false
  | some rid => do
    let marker ← readLiveMarker (e.reservationKey rid) currentTime
    let tombstone ← readLiveTombstone (e.reservationKey rid) currentTime
    match marker, tombstone with
    -- a live marker is looked at first, whatever tombstone is beside it
    | some marker, _ =>
      if marker.modelFamily = e.modelFamily ∧ marker.bucketIds = e.bucketIds ∧
          marker.reservedUsage = usage then pure true
      else raise (.duplicateRefund .duplicateAcquire)
    | none, some _ => raise (.duplicateRefund .duplicateAcquire)
    | none, none => pure false

/-- `_insert_marker` -/
def insertMarker (e : SqliteEngine) (reservationId : Option ReservationId)
    (usage : FrozenUsage) (reservationLifetimeSeconds : Option ℚ) (currentTime : ℚ) :
    Txn Unit :=
  match reservationId, reservationLifetimeSeconds with
  | none, _ => pure ()
  | some _, none => raise (.valueError .reservationLifetimeInvalid)
  | some rid, some lifetime => do
    if lifetime ≤ 0 ∨ e.maxReservationLifetimeSeconds < lifetime then
      raise (.valueError .reservationLifetimeInvalid)
    else
      let key := e.reservationKey rid
      -- `INSERT` on the primary key: a row that is there, expired or not, is an error
      if (← query fun db => db.acquireMarkers key).isSome then raise .integrityError
      else
        execute (·.putMarker key (some
          { modelFamily := e.modelFamily
            bucketIds := e.bucketIds
            reservedUsage := usage
            createdAt := currentTime
            expiresAt := currentTime + lifetime }))

/-- `_verify_marker` -/
def verifyMarker (e : SqliteEngine) (rid : ReservationId) (reservationModelFamily : String)
    (reservationBucketIds : Finset BucketId) (reservationReservedUsage : FrozenUsage)
    (currentTime : ℚ) : Txn Unit := do
  match ← readLiveTombstone (e.reservationKey rid) currentTime with
  | some _ => raise (.duplicateRefund .alreadyRefunded)
  | none =>
    match ← readLiveMarker (e.reservationKey rid) currentTime with
    | none => raise .unknownReservation
    | some marker =>
      if marker.modelFamily = reservationModelFamily ∧
          marker.bucketIds = reservationBucketIds ∧
          marker.reservedUsage = reservationReservedUsage then pure ()
      else raise .unknownReservation

/-- The marker check of a refund. -/
def authorizeRefund (e : SqliteEngine) (refund : RefundRequest) (currentTime : ℚ) : Txn Unit :=
  match refund.reservationId with
  | none => pure ()
  | some rid =>
    match refund.reservationModelFamily, refund.reservationBucketIds,
        refund.reservationReservedUsage with
    | some family, some ids, some usage => e.verifyMarker rid family ids usage currentTime
    | _, _, _ => raise (.valueError .reservationMetadataMissing)

/-- A refunded reservation's marker becomes a tombstone. -/
def buryMarker (e : SqliteEngine) (reservationId : Option ReservationId) (currentTime : ℚ) :
    Txn Unit :=
  match reservationId with
  | none => pure ()
  | some rid => do
    let key := e.reservationKey rid
    -- `DELETE` reports how many rows it took
    if (← query fun db => db.acquireMarkers key).isNone then raise .runtimeError
    else
      execute (·.putMarker key none)
      if (← query fun db => db.refundTombstones key).isSome then raise .integrityError
      else
        execute (·.putTombstone key (some
          { refundedAt := currentTime
            expiresAt := currentTime + e.refundDedupTtlSeconds }))

/-! ## The transactions -/

/-- `try_consume` -/
def tryConsume (e : SqliteEngine) (input : TxnInput) (db : Database) (usage : FrozenUsage)
    (reservationId : Option ReservationId) (reservationLifetimeSeconds : Option ℚ) :
    Except BackendError TryConsumeResult × SqliteEngine × Database :=
  e.transaction input db do
    let currentTime := input.currentTime
    prune input
    let replayed ← e.raiseIfDuplicateAcquire reservationId currentTime usage
    let states ← e.loadStates currentTime e.buckets
    let pre := capacities states
    let result : CapacityResult := ⟨currentTime, pre, pre, maxCapacities states, replayed⟩
    if replayed then
      return ⟨true, result⟩
    else if usageExceeds usage (maxCapacities states) e.buckets then
      raise (.valueError .usageExceedsMaxCapacity)
    else if e.buckets.any fun id => pre id < usage.amount id.metric then
      -- no exception: the refilled rows of `_load_states` are committed
      return ⟨false, { result with postCapacities := fun _ => 0 }⟩
    else
      let post : Capacities := fun id => pre id - usage.amount id.metric
      e.writeCapacities post currentTime e.buckets
      e.insertMarker reservationId usage reservationLifetimeSeconds currentTime
      return ⟨true, { result with postCapacities := post }⟩

/-- `consume` -/
def consume (e : SqliteEngine) (input : TxnInput) (db : Database) (usage : FrozenUsage)
    (reservationId : Option ReservationId) (reservationLifetimeSeconds : Option ℚ) :
    Except BackendError CapacityResult × SqliteEngine × Database :=
  e.transaction input db do
    let currentTime := input.currentTime
    prune input
    let replayed ← e.raiseIfDuplicateAcquire reservationId currentTime usage
    let states ← e.loadStates currentTime e.buckets
    let pre := capacities states
    let result : CapacityResult := ⟨currentTime, pre, pre, maxCapacities states, replayed⟩
    if replayed then
      return result
    else
      let post : Capacities := fun id =>
        -- unconditional: the debt is floored, not refused
        max (-(maxCapacities states id)) (pre id - usage.amount id.metric)
      e.writeCapacities post currentTime e.buckets
      e.insertMarker reservationId usage reservationLifetimeSeconds currentTime
      return { result with postCapacities := post }

/-- `refund` -/
def refund (e : SqliteEngine) (input : TxnInput) (db : Database) (refund : RefundRequest)
    (refundBucketIds : Finset BucketId) :
    Except BackendError RefundResult × SqliteEngine × Database :=
  -- `actual_usage[metric]` is read before the transaction begins
  if ¬ refund.reservedUsage.keys ⊆ refund.actualUsage.keys then (.error .keyError, e, db)
  else
    e.transaction input db do
      let currentTime := input.currentTime
      prune input
      e.authorizeRefund refund currentTime
      let states ← e.loadStates currentTime e.buckets
      if ¬ refundBucketIds ⊆ e.bucketIds ∨
          ¬ TokenThrottle.metricNames refundBucketIds ⊆ refund.reservedUsage.keys then
        raise .keyError
      else
        let pre := capacities states
        let updated := applyRefund pre refund.reservedUsage refund.actualUsage
          (maxCapacities states)
        let post : Capacities := fun id => if id ∈ refundBucketIds then updated id else pre id
        e.writeCapacities post currentTime (e.buckets.filter (· ∈ refundBucketIds))
        e.buryMarker refund.reservationId currentTime
        return ⟨currentTime, pre, post, refundAmount refund.reservedUsage refund.actualUsage⟩

/-- `cleanup_consumption`: unlike the memory backend it needs the marker row, though
    it does not ask whether the row has expired. -/
def cleanupConsumption (e : SqliteEngine) (input : TxnInput) (db : Database)
    (usage : FrozenUsage) (bucketIds : Finset BucketId)
    (reservationId : Option ReservationId) :
    Except BackendError Unit × SqliteEngine × Database :=
  e.transaction input db do
    let currentTime := input.currentTime
    prune input
    if ← (match reservationId with
        | none => pure false
        | some rid => query fun db => (db.acquireMarkers (e.reservationKey rid)).isNone) then
      raise .unknownReservation
    else
      let states ← e.loadStates currentTime e.buckets
      let refunded : Capacities := fun id =>
        min (capacities states id + usage.amount id.metric) (maxCapacities states id)
      e.writeCapacities refunded currentTime (e.buckets.filter (· ∈ bucketIds))
      match reservationId with
      | none => pure ()
      | some rid => execute (·.putMarker (e.reservationKey rid) none)

/-- `set_max_capacity`: the uncapped state is anchored at the old rate, then the
    override is written under the configured limit it belongs to. -/
def setMaxCapacity (e : SqliteEngine) (input : TxnInput) (db : Database) (id : BucketId)
    (value : ℚ) : Except BackendError Unit × SqliteEngine × Database :=
  match validateMaxCapacityFinitePositive value with
  | .error error => (.error error, e, db)
  | .ok value =>
    if id ∉ e.buckets then (.error (.valueError .bucketNotFound), e, db)
    else
      e.transaction input db do
        let currentTime := input.currentTime
        prune input
        let states ← e.loadStates currentTime e.buckets
        let retention ← Body.lift (debtTtlSeconds (states id).uncappedCapacity
          e.bucketTtlSeconds id.perSeconds value.value (e.configuredMaxCapacity id).value)
        Body.when (!(states id).isFreshStart)
          (e.writeCapacities (fun id => (states id).uncappedCapacity) currentTime [id])
        execute (·.updateBucket (e.bucketKey id) fun row =>
          { row with
            overrideValue := some value.value
            overrideExpiresAt := some (currentTime + e.overrideTtlSeconds)
            overrideConfiguredMaxCapacity := some (e.configuredMaxCapacity id).value
            updatedAt := currentTime
            expiresAt := currentTime + retention })

/-- The override of a bucket cleared, with its row retained for its debt. -/
def clearOverride (e : SqliteEngine) (id : BucketId) (currentTime : ℚ) (retention : ℤ) :
    Txn Unit :=
  execute (·.updateBucket (e.bucketKey id) fun row =>
    { row.withoutOverride with
      updatedAt := currentTime
      expiresAt := currentTime + retention })

/-- A committed transaction, after which the configured limit of this process changes. -/
def takeOverMaxCapacity (id : BucketId) (value : MaxCapacity) :
    Except BackendError Unit × SqliteEngine × Database →
      Except BackendError Unit × SqliteEngine × Database
  | (.ok (), e, db) =>
    (.ok (), { e with
      configuredMaxCapacity := Function.update e.configuredMaxCapacity id value }, db)
  | (.error error, e, db) => (.error error, e, db)

/-- `apply_configured_max_capacity` -/
def applyConfiguredMaxCapacity (e : SqliteEngine) (input : TxnInput) (db : Database)
    (id : BucketId) (value : ℚ) : Except BackendError Unit × SqliteEngine × Database :=
  match validateMaxCapacityFinitePositive value with
  | .error error => (.error error, e, db)
  | .ok value =>
    if id ∉ e.buckets then (.error (.valueError .bucketNotFound), e, db)
    else
      takeOverMaxCapacity id value <| e.transaction input db do
        let currentTime := input.currentTime
        prune input
        let states ← e.loadStates currentTime e.buckets
        let retention ← Body.lift (debtTtlSeconds (states id).uncappedCapacity
          e.bucketTtlSeconds id.perSeconds value.value value.value)
        Body.when (!(states id).isFreshStart)
          (e.writeCapacities (fun id => (states id).uncappedCapacity) currentTime [id])
        e.clearOverride id currentTime retention

/-- The override of each given bucket cleared. -/
def clearOverrides (e : SqliteEngine) (states : BucketId → BucketState)
    (configuredMaxCapacities : BucketId → Option ℚ) (currentTime : ℚ) :
    List BucketId → Txn Unit
  | [] => pure ()
  | id :: ids => do
    let maximum := (configuredMaxCapacities id).getD (e.configuredMaxCapacity id).value
    let retention ← Body.lift (debtTtlSeconds (states id).uncappedCapacity
      e.bucketTtlSeconds id.perSeconds maximum maximum)
    e.clearOverride id currentTime retention
    e.clearOverrides states configuredMaxCapacities currentTime ids

/-- `clear_max_capacity_overrides` -/
def clearMaxCapacityOverrides (e : SqliteEngine) (input : TxnInput) (db : Database)
    (bucketIds : Finset BucketId) (configuredMaxCapacities : BucketId → Option ℚ) :
    Except BackendError Unit × SqliteEngine × Database :=
  let targetIds := e.buckets.filter (· ∈ bucketIds)
  if targetIds = [] then (.ok (), e, db)
  else
    e.transaction input db do
      let currentTime := input.currentTime
      prune input
      let states ← e.loadStates currentTime e.buckets
      let anchored := targetIds.filter fun id => ¬ (states id).isFreshStart
      e.writeCapacities (fun id => (states id).uncappedCapacity) currentTime anchored
      e.clearOverrides states configuredMaxCapacities currentTime targetIds

/-- The outcome of a call, with the engine and the database after it. -/
def answer {α : Type} (outcome : α → Outcome) :
    Except BackendError α × SqliteEngine × Database →
      Except BackendError Outcome × SqliteEngine × Database
  | (result, e, db) => (result.map outcome, e, db)

/-- A call of an engine on the shared database. -/
def call (e : SqliteEngine) (input : TxnInput) (db : Database) :
    EngineRequest → Except BackendError Outcome × SqliteEngine × Database
  | .tryConsume usage reservationId lifetime =>
    answer TryConsumeResult.outcome (e.tryConsume input db usage reservationId lifetime)
  | .consume usage reservationId lifetime =>
    answer CapacityResult.outcome (e.consume input db usage reservationId lifetime)
  | .refund refund refundBucketIds =>
    answer (fun _ => .done) (e.refund input db refund refundBucketIds)
  | .cleanupConsumption usage bucketIds reservationId =>
    answer (fun _ => .done) (e.cleanupConsumption input db usage bucketIds reservationId)
  | .setMaxCapacity id value => answer (fun _ => .done) (e.setMaxCapacity input db id value)
  | .applyConfiguredMaxCapacity id value =>
    answer (fun _ => .done) (e.applyConfiguredMaxCapacity input db id value)
  | .clearMaxCapacityOverrides bucketIds configuredMaxCapacities =>
    answer (fun _ => .done)
      (e.clearMaxCapacityOverrides input db bucketIds configuredMaxCapacities)

end SqliteEngine

/-- A transaction of the examples: it prunes nothing and runs to its end. -/
def TxnInput.at (currentTime : ℚ) : TxnInput where
  currentTime := currentTime
  prunesMarker _ := false
  prunesTombstone _ := false
  prunesBucket _ := false
  interruptAfter := none

/-- The engine of the examples. -/
def exampleEngine : SqliteEngine where
  keyPrefix := "p"
  modelFamily := "m"
  buckets := [tokensPerMinute]
  nodup := by simp
  configuredMaxCapacity _ := oneHundred
  bucketTtlSeconds := 3600
  refundDedupTtlSeconds := 3600
  overrideTtlSeconds := 3600
  maxReservationLifetimeSeconds := 3600
  stateConfirmedUntil _ := none

end TokenThrottle
