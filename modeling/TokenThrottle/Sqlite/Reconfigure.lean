/-
  TokenThrottle.Sqlite.Reconfigure

  `prepare_reconfigured_backend` of `_sqlite/_backend.py`, and the other methods a
  limiter calls when the quotas of a family change, as commands to the backend object
  the limiter has cached.

  * A command to the engine runs on the backend's executor: an exception may arrive
    while it is awaited, and the engine's work is done all the same.
  * The replacement of an engine inherits its confirmations and closes it.
-/
import TokenThrottle.Sqlite.Backend
import TokenThrottle.Theory.OrderedDict
import TokenThrottle.Theory.Program

namespace TokenThrottle

open Theory (OrderedDict Program)

/-! ## Engines -/

namespace SqliteEngine

/-- The loop of `initialize_buckets`: a bucket without a row gets one. -/
def insertBuckets (e : SqliteEngine) (currentTime : ℚ) : List BucketId → Txn Unit
  | [] => pure ()
  | id :: ids => do
    execute fun db =>
      if (db.buckets (e.bucketKey id)).isSome then db
      else db.putBucket (e.bucketKey id) (.fresh currentTime e.bucketTtlSeconds)
    e.insertBuckets currentTime ids

/-- `initialize_buckets` -/
def initializeBuckets (e : SqliteEngine) (input : TxnInput) (db : Database) :
    Except BackendError Unit × SqliteEngine × Database :=
  e.transaction input db do
    prune input
    e.insertBuckets input.currentTime e.buckets

/-- `inherit_state_confirmations` -/
def inheritStateConfirmations (e previous : SqliteEngine) : Except BackendError SqliteEngine :=
  if (e.keyPrefix, e.modelFamily) ≠ (previous.keyPrefix, previous.modelFamily) then
    .error (.valueError .keyPrefixMismatch)
  else
    .ok { e with
      stateConfirmedUntil := fun id =>
        if id ∈ e.buckets ∧ id ∈ previous.buckets then
          (previous.stateConfirmedUntil id).or (e.stateConfirmedUntil id)
        else e.stateConfirmedUntil id }

theorem inheritStateConfirmations_buckets {e previous e' : SqliteEngine}
    (h_ok : e.inheritStateConfirmations previous = .ok e') : e'.buckets = e.buckets := by
  unfold inheritStateConfirmations at h_ok
  split at h_ok
  · cases h_ok
  · cases h_ok
    rfl

end SqliteEngine

/-! ## Commands -/

/-- A backend object of the process; engines of one store share the database. -/
structure SqliteObject where
  engine : SqliteEngine
  closed : Bool

/-- The database with the backend object a limiter has cached for a family. -/
structure SqliteSession where
  db : Database
  cached : SqliteObject

inductive SqliteCommand
  /-- `create_engine` of `_start_build` -/
  | createEngine (engine : SqliteEngine)
  /-- The attributes of the cached backend. -/
  | backend
  | runEngine (request : EngineRequest)
  | beginClose
  | closeEngine

@[reducible] def SqliteCommand.Response : SqliteCommand → Type
  | .createEngine _ => SqliteEngine
  | .backend => SqliteObject
  | .beginClose => Bool
  | _ => Unit

abbrev SqliteProgram := Program SqliteCommand SqliteCommand.Response BackendError

/-- Runs one command. -/
abbrev sendSqlite (command : SqliteCommand) : SqliteProgram command.Response := .perform command

/-- What a command meets: what the others did to the database, the transaction's input,
    and how the answer comes back. -/
structure SqliteTurn where
  others : Database → Database
  input : TxnInput
  delivery : Delivery

namespace SqliteSession

def execute (turn : SqliteTurn) (s : SqliteSession) :
    (command : SqliteCommand) → Except BackendError command.Response × SqliteSession
  | .createEngine engine =>
    let (result, engine, db) := engine.initializeBuckets turn.input s.db
    (result.map fun _ => engine, { s with db := db })
  | .backend => (.ok s.cached, s)
  | .runEngine request =>
    let (result, engine, db) := s.cached.engine.call turn.input s.db request
    (result.map fun _ => (), { db := db, cached := { s.cached with engine := engine } })
  | .beginClose => (.ok (!s.cached.closed), { s with cached := { s.cached with closed := true } })
  | .closeEngine => (.ok (), s)

/-- A command served in a turn. -/
def serve (turn : SqliteTurn) (command : SqliteCommand) (s : SqliteSession) :
    Except BackendError command.Response × SqliteSession :=
  let s := { s with db := turn.others s.db }
  match turn.delivery with
  | .answered => s.execute turn command
  | .lost e => (.error e, (s.execute turn command).2)
  | .refused e => (.error e, s)

end SqliteSession

/-! ## The methods -/

structure SqliteBackendBuilder where
  keyPrefix : String
  modelFamily : String
  bucketTtlSeconds : ℕ
  refundDedupTtlSeconds : ℕ
  overrideTtlSeconds : ℕ
  maxReservationLifetimeSeconds : ℚ
  /-- What an attribute of a bucket that does not exist would be. -/
  absent : MaxCapacity

namespace SqliteBackendBuilder

/-- The engine of a configuration. -/
def engine (builder : SqliteBackendBuilder)
    (quotas : OrderedDict BucketId MaxCapacity) : SqliteEngine where
  keyPrefix := builder.keyPrefix
  modelFamily := builder.modelFamily
  buckets := quotas.items.map Prod.fst
  nodup := quotas.nodup
  configuredMaxCapacity id := (quotas.get id).getD builder.absent
  bucketTtlSeconds := builder.bucketTtlSeconds
  refundDedupTtlSeconds := builder.refundDedupTtlSeconds
  overrideTtlSeconds := builder.overrideTtlSeconds
  maxReservationLifetimeSeconds := builder.maxReservationLifetimeSeconds
  stateConfirmedUntil _ := none

/-- `build_async` -/
def build (builder : SqliteBackendBuilder) (quotas : OrderedDict BucketId MaxCapacity) :
    SqliteProgram SqliteEngine :=
  sendSqlite (.createEngine (builder.engine quotas))

end SqliteBackendBuilder

namespace SqliteBackend

/-- `aclose` -/
def aclose : SqliteProgram Unit := do
  let began ← sendSqlite .beginClose
  Program.when began (sendSqlite .closeEngine)

/-- The buckets whose override a reconfiguration clears: those that go away, and those
    whose configured limit changes. -/
def clearedIds (old new : SqliteEngine) (quotas : OrderedDict BucketId MaxCapacity) :
    Finset BucketId :=
  (old.bucketIds \ new.bucketIds) ∪ ((quotas.items.filter fun quota =>
    quota.1 ∈ old.bucketIds ∧
      ¬ isclose (old.configuredMaxCapacity quota.1).value quota.2.value).map Prod.fst).toFinset

/-- `prepare_reconfigured_backend` -/
def prepareReconfiguredBackend (new : SqliteEngine)
    (quotas : OrderedDict BucketId MaxCapacity) : SqliteProgram SqliteEngine := do
  let current ← sendSqlite .backend
  if current.engine.keyPrefix ≠ new.keyPrefix then throw (.valueError .keyPrefixMismatch)
  else do
    sendSqlite (.runEngine (.clearMaxCapacityOverrides (clearedIds current.engine new quotas)
      fun id => (quotas.get id).map MaxCapacity.value))
    let current ← sendSqlite .backend
    let new ← Program.lift (new.inheritStateConfirmations current.engine)
    aclose
    return new

/-- `set_max_capacity` -/
def setMaxCapacityProgram (id : BucketId) (value : ℚ) : SqliteProgram Unit := do
  let value ← Program.lift (validateMaxCapacityFinitePositive value)
  sendSqlite (.runEngine (.setMaxCapacity id value.value))

/-- `apply_configured_max_capacity` -/
def applyConfiguredMaxCapacityProgram (id : BucketId) (value : ℚ) : SqliteProgram Unit := do
  let value ← Program.lift (validateMaxCapacityFinitePositive value)
  sendSqlite (.runEngine (.applyConfiguredMaxCapacity id value.value))

end SqliteBackend

/-! ## What a command leaves -/

namespace SqliteEngine

theorem transaction_buckets {α : Type} (e : SqliteEngine) (input : TxnInput) (db : Database)
    (body : Txn α) : (e.transaction input db body).2.1.buckets = e.buckets := by
  unfold transaction
  simp only
  split <;> rfl

theorem takeOver_buckets (id : BucketId) (value : MaxCapacity)
    (result : Except BackendError Unit × SqliteEngine × Database) :
    (takeOverMaxCapacity id value result).2.1.buckets = result.2.1.buckets := by
  obtain ⟨result, e, db⟩ := result
  cases result <;> rfl

/-- No call changes the bucket set of its engine. -/
theorem call_buckets (e : SqliteEngine) (input : TxnInput) (db : Database)
    (request : EngineRequest) : (e.call input db request).2.1.buckets = e.buckets := by
  cases request with
  | tryConsume usage reservationId lifetime => exact e.transaction_buckets input db _
  | consume usage reservationId lifetime => exact e.transaction_buckets input db _
  | refund refund refundBucketIds =>
    show (e.refund input db refund refundBucketIds).2.1.buckets = e.buckets
    unfold SqliteEngine.refund
    split
    · rfl
    · exact e.transaction_buckets input db _
  | cleanupConsumption usage bucketIds reservationId => exact e.transaction_buckets input db _
  | setMaxCapacity id value =>
    show (e.setMaxCapacity input db id value).2.1.buckets = e.buckets
    unfold SqliteEngine.setMaxCapacity
    split
    · rfl
    · split
      · rfl
      · exact e.transaction_buckets input db _
  | applyConfiguredMaxCapacity id value =>
    show (e.applyConfiguredMaxCapacity input db id value).2.1.buckets = e.buckets
    unfold SqliteEngine.applyConfiguredMaxCapacity
    split
    · rfl
    · split
      · rfl
      · rw [takeOver_buckets]
        exact e.transaction_buckets input db _
  | clearMaxCapacityOverrides bucketIds configuredMaxCapacities =>
    show (e.clearMaxCapacityOverrides input db bucketIds configuredMaxCapacities).2.1.buckets = _
    unfold SqliteEngine.clearMaxCapacityOverrides
    simp only
    split
    · rfl
    · exact e.transaction_buckets input db _

end SqliteEngine

namespace SqliteSession

/-- The buckets of the cached backend never change: it is replaced. -/
theorem execute_buckets (turn : SqliteTurn) (s : SqliteSession) (command : SqliteCommand) :
    (s.execute turn command).2.cached.engine.buckets = s.cached.engine.buckets := by
  cases command with
  | runEngine request => exact s.cached.engine.call_buckets turn.input s.db request
  | _ => rfl

/-- Only `_begin_close` closes it. -/
theorem execute_closed (turn : SqliteTurn) (s : SqliteSession) {command : SqliteCommand}
    (h_command : command ≠ .beginClose) :
    (s.execute turn command).2.cached.closed = s.cached.closed := by
  cases command with
  | beginClose => exact absurd rfl h_command
  | _ => rfl

/-- The engine that is built has the buckets of the configuration. -/
theorem serve_createEngine {turn : SqliteTurn} {s s' : SqliteSession} {e e' : SqliteEngine}
    (h_serve : s.serve turn (.createEngine e) = (.ok e', s')) : e'.buckets = e.buckets := by
  simp only [serve] at h_serve
  cases h_delivery : turn.delivery with
  | answered =>
    rw [h_delivery] at h_serve
    simp only [execute] at h_serve
    cases h_result : (e.initializeBuckets turn.input (turn.others s.db)).1 with
    | ok _ =>
      rw [h_result] at h_serve
      cases h_serve
      exact e.transaction_buckets turn.input _ _
    | error error =>
      rw [h_result] at h_serve
      cases h_serve
  | lost e =>
    rw [h_delivery] at h_serve
    cases h_serve
  | refused e =>
    rw [h_delivery] at h_serve
    cases h_serve

end SqliteSession

end TokenThrottle
