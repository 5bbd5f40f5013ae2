/-
  TokenThrottle.Sqlite.Rows

  The rows of the SQLite store and what one bucket row goes through in a
  transaction: the per-bucket pipeline of `_load_states` and the row update of
  `_write_capacities` in `_sqlite/_engine.py`.

  The pipeline is cut at its stages: `readRow` (expiry of the row and of its
  override), `recoverLost` (missing fields), and `finishRow` (refill, repair of a
  future timestamp, retention of debt).  Each stage returns the row as its
  statements leave it.
-/
import TokenThrottle.Persistence

namespace TokenThrottle

/-! ## Rows -/

/-- A row of `buckets`, without its key columns. -/
structure BucketRow where
  capacity : Option ℚ
  lastChecked : Option ℚ
  overrideValue : Option ℚ
  overrideExpiresAt : Option ℚ
  overrideConfiguredMaxCapacity : Option ℚ
  updatedAt : ℚ
  expiresAt : ℚ
deriving DecidableEq

/-- A row of `acquire_markers`; its two JSON columns encode a set and a usage. -/
structure MarkerRow where
  modelFamily : String
  bucketIds : Finset BucketId
  reservedUsage : FrozenUsage
  createdAt : ℚ
  expiresAt : ℚ
deriving DecidableEq

/-- A row of `refund_tombstones`. -/
structure TombstoneRow where
  refundedAt : ℚ
  expiresAt : ℚ
deriving DecidableEq

/-- `BucketSpec` -/
structure BucketSpec where
  id : BucketId
  configuredMaxCapacity : MaxCapacity

/-- The two columns that hold a bucket's state. -/
inductive StateField
  | lastChecked
  | capacity
deriving DecidableEq

inductive MissingStateReason
  | stateLossDrained
  | freshStart
deriving DecidableEq

/-- `MissingStateEvent` -/
structure MissingStateEvent where
  reason : MissingStateReason
  missingFields : List StateField
  presentFields : List StateField
deriving DecidableEq

/-- `_BucketState` -/
structure BucketState where
  capacity : ℚ
  uncappedCapacity : ℚ
  maxCapacity : MaxCapacity
  overrideActive : Bool
  isFreshStart : Bool
  missingStateEvent : Option MissingStateEvent

instance : Inhabited BucketState :=
  ⟨0, 0, oneHundred, false, false, none⟩

namespace BucketRow

/-- A row inserted for a bucket that has none. -/
def fresh (currentTime : ℚ) (ttl : ℕ) : BucketRow where
  capacity := none
  lastChecked := none
  overrideValue := none
  overrideExpiresAt := none
  overrideConfiguredMaxCapacity := none
  updatedAt := currentTime
  expiresAt := currentTime + ttl

/-- `override_live` -/
def overrideLive (row : BucketRow) (currentTime : ℚ) : Bool :=
  match row.overrideValue, row.overrideExpiresAt with
  | some _, some expiresAt => currentTime < expiresAt
  | _, _ => false

/-- The value of a live override set under the configured limit (`override_active`). -/
def activeOverride (row : BucketRow) (spec : BucketSpec) (currentTime : ℚ) : Option ℚ :=
  match row.overrideValue with
  | some value =>
    if row.overrideLive currentTime ∧
        overrideAnchorMatches spec.configuredMaxCapacity.value
          row.overrideConfiguredMaxCapacity then some value
    else none
  | none => none

/-- The override of a row has not expired. -/
def OverrideUnexpired (row : BucketRow) (currentTime : ℚ) : Prop :=
  ∀ expiresAt, row.overrideExpiresAt = some expiresAt → currentTime < expiresAt

/-- An expired row whose override still lives keeps the override and loses the rest. -/
def withoutState (row : BucketRow) : BucketRow :=
  { row with capacity := none, lastChecked := none }

/-- The override columns cleared. -/
def withoutOverride (row : BucketRow) : BucketRow :=
  { row with
    overrideValue := none
    overrideExpiresAt := none
    overrideConfiguredMaxCapacity := none }

/-- A state written at the current time. -/
def withState (row : BucketRow) (capacity lastChecked : Option ℚ) (currentTime : ℚ)
    (expiresAt : ℚ) : BucketRow :=
  { row with
    capacity := capacity
    lastChecked := lastChecked
    updatedAt := currentTime
    expiresAt := expiresAt }

end BucketRow

/-! ## Refill -/

/-- `_refill_capacity`: the capped capacity and the uncapped integration. -/
def refillCapacity (spec : BucketSpec) (capacity lastChecked : Option ℚ) (currentTime : ℚ)
    (maxCapacity : MaxCapacity) : Except BackendError (CalculatedCapacity × ℚ) := do
  let rate := calculateRatePerSec maxCapacity spec.id
  let calculated ← calculateCapacity lastChecked capacity currentTime maxCapacity rate
  let uncapped :=
    match capacity, lastChecked with
    | some capacity, some last => capacity + max 0 (currentTime - last) * rate
    | _, _ => maxCapacity.value
  return (calculated, uncapped)

/-! ## The stages of a load -/

/-- A bucket row partly through a load: the row as written so far, the state read
    from it, the limit in force, and whether the state is confirmed on commit. -/
structure Reading where
  row : BucketRow
  capacity : Option ℚ
  lastChecked : Option ℚ
  maxCapacity : MaxCapacity
  overrideActive : Bool
  confirmed : Bool

/-- The integration at the rate of an override up to its expiry. -/
def integrateExpiredOverride (spec : BucketSpec) (row : BucketRow)
    (capacity lastChecked : Option ℚ) (currentTime : ℚ) :
    Except BackendError (Option ℚ × Option ℚ) :=
  match row.overrideValue, row.overrideExpiresAt, capacity, lastChecked with
  | some value, some expiresAt, some _, some last =>
    if overrideAnchorMatches spec.configuredMaxCapacity.value
        row.overrideConfiguredMaxCapacity ∧ last < expiresAt ∧ expiresAt ≤ currentTime then do
      let maxCapacity ← validateMaxCapacityFinitePositive value
      let (_, uncapped) ← refillCapacity spec capacity lastChecked expiresAt maxCapacity
      return (some uncapped, some expiresAt)
    else .ok (capacity, lastChecked)
  | _, _, _, _ => .ok (capacity, lastChecked)

/-- The first stage: an expired row counts as absent unless its override lives, and
    an expired override is integrated and cleared. -/
def readRow (spec : BucketSpec) (ttl : ℕ) (row : Option BucketRow) (currentTime : ℚ) :
    Except BackendError Reading :=
  match row.filter fun row => currentTime < row.expiresAt ∨ row.overrideLive currentTime with
  | none =>
    .ok
      { row := .fresh currentTime ttl
        capacity := none
        lastChecked := none
        maxCapacity := spec.configuredMaxCapacity
        overrideActive := false
        confirmed := false }
  | some row => do
    -- of an expired row only the override is read
    let row := if row.expiresAt ≤ currentTime then row.withoutState else row
    match row.activeOverride spec currentTime with
    | some value =>
      let maxCapacity ← validateMaxCapacityFinitePositive value
      .ok
        { row := row
          capacity := row.capacity
          lastChecked := row.lastChecked
          maxCapacity := maxCapacity
          overrideActive := true
          confirmed := false }
    | none =>
      let (capacity, lastChecked) ←
        integrateExpiredOverride spec row row.capacity row.lastChecked currentTime
      if ¬ row.overrideLive currentTime ∧
          (row.overrideValue.isSome ∨ row.overrideExpiresAt.isSome) then
        .ok
          { row := row.withoutOverride.withState capacity lastChecked currentTime
              (currentTime + ttl)
            capacity := capacity
            lastChecked := lastChecked
            maxCapacity := spec.configuredMaxCapacity
            overrideActive := false
            confirmed := capacity.isSome && lastChecked.isSome }
      else
        .ok
          { row := row
            capacity := capacity
            lastChecked := lastChecked
            maxCapacity := spec.configuredMaxCapacity
            overrideActive := false
            confirmed := false }

/-- The fields of a state that are missing, in the order the source lists them. -/
def missingFields (capacity lastChecked : Option ℚ) : List StateField :=
  (if lastChecked.isNone then [.lastChecked] else []) ++
    if capacity.isNone then [.capacity] else []

/-- `state_lost`: one field missing, or both although recently confirmed. -/
def stateLost (capacity lastChecked : Option ℚ) (suspected : Bool) : Bool :=
  (missingFields capacity lastChecked).length = 1 ∨
    ((missingFields capacity lastChecked).length = 2 ∧ suspected)

/-- The second stage: a lost state is drained to zero. -/
def recoverLost (ttl : ℕ) (suspected : Bool) (currentTime : ℚ) (reading : Reading) : Reading :=
  if stateLost reading.capacity reading.lastChecked suspected then
    { reading with
      row := reading.row.withState (some 0) (some currentTime) currentTime (currentTime + ttl)
      capacity := some 0
      lastChecked := some currentTime
      confirmed := true }
  else reading

/-- What a load makes of one row. -/
structure LoadedRow where
  state : BucketState
  row : BucketRow
  confirmed : Bool

/-- `FUTURE_LAST_CHECKED_REPAIR_TOLERANCE_SECONDS` -/
def futureLastCheckedRepairToleranceSeconds : ℚ := 1

/-- `missing_state_event` of a state as it was read. -/
def missingStateEvent (capacity lastChecked : Option ℚ) (suspected : Bool) :
    Option MissingStateEvent :=
  if missingFields capacity lastChecked = [] then none
  else
    some
      { reason := if stateLost capacity lastChecked suspected then .stateLossDrained
          else .freshStart
        missingFields := missingFields capacity lastChecked
        presentFields := [.lastChecked, .capacity].filter
          (· ∉ missingFields capacity lastChecked) }

/-- A timestamp too far in the future is moved to now; the capacity stays. -/
def repairFuture (ttl : ℕ) (currentTime : ℚ) (reading : Reading) : BucketRow × Bool :=
  if reading.lastChecked.any
      (fun last => currentTime + futureLastCheckedRepairToleranceSeconds < last) then
    (reading.row.withState reading.row.capacity (some currentTime) currentTime
      (currentTime + ttl), true)
  else (reading.row, reading.confirmed)

/-- The last stage: refill, repair of a future timestamp, retention of debt. -/
def finishRow (spec : BucketSpec) (ttl : ℕ) (writable : Bool) (currentTime : ℚ)
    (event : Option MissingStateEvent) (reading : Reading) : Except BackendError LoadedRow := do
  let (calculated, uncapped) ←
    refillCapacity spec reading.capacity reading.lastChecked currentTime reading.maxCapacity
  let (row, confirmed) := repairFuture ttl currentTime reading
  let row ←
    -- a debt outlives the TTL: its row is kept until it has been repaid
    if writable ∧ calculated.amount < 0 then do
      let retention ← debtTtlSeconds calculated.amount ttl spec.id.perSeconds
        reading.maxCapacity.value spec.configuredMaxCapacity.value
      pure { row with expiresAt := max row.expiresAt (currentTime + retention) }
    else pure row
  .ok
    { state :=
        { capacity := calculated.amount
          uncappedCapacity := uncapped
          maxCapacity := reading.maxCapacity
          overrideActive := reading.overrideActive
          isFreshStart := calculated.isFreshStart
          missingStateEvent := event }
      row := row
      confirmed := confirmed }

/-- `_load_states` for one bucket.  A snapshot (`writable = false`) computes the same
    state and discards the row. -/
def loadRow (spec : BucketSpec) (ttl : ℕ) (suspected writable : Bool) (row : Option BucketRow)
    (currentTime : ℚ) : Except BackendError LoadedRow := do
  let reading ← readRow spec ttl row currentTime
  finishRow spec ttl writable currentTime
    (missingStateEvent reading.capacity reading.lastChecked suspected)
    (recoverLost ttl suspected currentTime reading)

/-- `_write_capacities` for one bucket row. -/
def writeRow (spec : BucketSpec) (ttl : ℕ) (row : BucketRow) (amount currentTime : ℚ) :
    Except BackendError BucketRow := do
  let maximum := (row.activeOverride spec currentTime).getD spec.configuredMaxCapacity.value
  let retention ← debtTtlSeconds amount ttl spec.id.perSeconds maximum
    spec.configuredMaxCapacity.value
  return row.withState (some amount) (some currentTime) currentTime (currentTime + retention)

end TokenThrottle
