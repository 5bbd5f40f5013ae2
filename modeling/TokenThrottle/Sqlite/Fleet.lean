/-
  TokenThrottle.Sqlite.Fleet

  Any number of engines of one store: they share the database, the names and the TTLs
  of a `SqliteBackendBuilder`, and each holds its own confirmations.

  * Engines are started, called and replaced in any order, at clock readings that never
    go back.  Rows may be removed from outside.
  * `configured` is the limit every bucket is configured with at the moment: it changes
    when a committed call applies another one.
  * `step_row` says what each event does to one bucket row.
-/
import TokenThrottle.Sqlite.CallRows
import TokenThrottle.Theory.Runs

namespace TokenThrottle

open Theory (OrderedDict Run Steps guard)

/-! ## Events -/

/-- What somebody else takes out of a bucket's row. -/
inductive Removal
  | row
  | state
  | field (field : StateField)
deriving DecidableEq

def Removal.apply : Removal → Option BucketRow → Option BucketRow
  | .row, _ => none
  | .state, stored => stored.map BucketRow.withoutState
  | .field .capacity, stored => stored.map fun r => { r with capacity := none }
  | .field .lastChecked, stored => stored.map fun r => { r with lastChecked := none }

structure Fleet where
  db : Database
  engines : ℕ → Option SqliteEngine
  configured : BucketId → MaxCapacity
  clock : ℚ

inductive FleetEvent
  /-- An engine is built. -/
  | start (who : ℕ) (quotas : OrderedDict BucketId MaxCapacity) (input : TxnInput)
  | call (who : ℕ) (input : TxnInput) (request : EngineRequest)
  /-- An engine takes over from another, before its own first commit. -/
  | inherit (who previous : ℕ)
  | remove (id : BucketId) (removal : Removal)

/-- The record of a bucket of the store. -/
def SqliteBackendBuilder.bucketKey (builder : SqliteBackendBuilder) (id : BucketId) : BucketKey :=
  ⟨builder.keyPrefix, builder.modelFamily, id⟩

/-- `limitAfter` as a limit. -/
def SqliteEngine.configuredAfter (e : SqliteEngine) (request : EngineRequest) (id : BucketId) :
    MaxCapacity :=
  (validateMaxCapacityFinitePositive (e.limitAfter request id)).toOption.getD
    (e.configuredMaxCapacity id)

namespace Fleet

/-- An empty database, and no engine yet. -/
def init (configured : BucketId → MaxCapacity) : Fleet where
  db := .empty
  engines _ := none
  configured := configured
  clock := 0

/-- The limits that the store is configured with after a call. -/
def configuredAfter (s : Fleet) (e : SqliteEngine) (request : EngineRequest) :
    Except BackendError Outcome → BucketId → MaxCapacity
  | .ok _, id => if id ∈ e.buckets then e.configuredAfter request id else s.configured id
  | .error _, id => s.configured id

/-- An engine that has made no confirmation yet. -/
def unconfirmed (e : SqliteEngine) : Bool :=
  e.buckets.all fun id => (e.stateConfirmedUntil id).isNone

def step (builder : SqliteBackendBuilder) (s : Fleet) : FleetEvent → Option Fleet
  | .start who quotas input =>
    if s.clock ≤ input.currentTime ∧ (s.engines who).isNone then
      let (result, e, db) := (builder.engine quotas).initializeBuckets input s.db
      some { s with
        db := db
        engines := match result with
          | .ok _ => Function.update s.engines who (some e)
          | .error _ => s.engines
        clock := input.currentTime }
    else none
  | .call who input request =>
    if s.clock ≤ input.currentTime then
      (s.engines who).map fun e =>
        let (result, e', db) := e.call input s.db request
        { db := db
          engines := Function.update s.engines who (some e')
          configured := s.configuredAfter e request result
          clock := input.currentTime }
    else none
  | .inherit who previous =>
    match s.engines who, s.engines previous with
    | some e, some e₀ =>
      if unconfirmed e then
        match e.inheritStateConfirmations e₀ with
        | .ok e' => some { s with engines := Function.update s.engines who (some e') }
        | .error _ => some s
      else none
    | _, _ => none
  | .remove id removal =>
    some { s with
      db := { s.db with
        buckets := Function.update s.db.buckets (builder.bucketKey id)
          (removal.apply (s.db.buckets (builder.bucketKey id))) } }

/-- The row of a bucket of the store. -/
def row (builder : SqliteBackendBuilder) (s : Fleet) (id : BucketId) : Option BucketRow :=
  s.db.buckets (builder.bucketKey id)

/-! ## The engines of a store -/

/-- An engine of the store. -/
structure Member (builder : SqliteBackendBuilder) (e : SqliteEngine) : Prop where
  keyPrefix : e.keyPrefix = builder.keyPrefix
  modelFamily : e.modelFamily = builder.modelFamily
  bucketTtlSeconds : e.bucketTtlSeconds = builder.bucketTtlSeconds

theorem Member.bucketKey_eq {builder : SqliteBackendBuilder} {e : SqliteEngine}
    (h_member : Member builder e) (id : BucketId) : e.bucketKey id = builder.bucketKey id := by
  unfold SqliteEngine.bucketKey SqliteBackendBuilder.bucketKey
  rw [h_member.keyPrefix, h_member.modelFamily]

/-- Every engine is of the store. -/
def Members (builder : SqliteBackendBuilder) (s : Fleet) : Prop :=
  ∀ who e, s.engines who = some e → Member builder e

theorem member_engine (builder : SqliteBackendBuilder)
    (quotas : OrderedDict BucketId MaxCapacity) : Member builder (builder.engine quotas) :=
  ⟨rfl, rfl, rfl⟩

end Fleet

/-! ## What an event does -/

namespace SqliteEngine

/-- The database and the engine after a call: a committed one, or one that raised. -/
inductive Called (e : SqliteEngine) (input : TxnInput) (db : Database)
    (request : EngineRequest) : Except BackendError Outcome → SqliteEngine → Database → Prop
  | committed {outcome : Outcome} {confirmedAt : BucketId → Option ℚ}
      {configured : BucketId → MaxCapacity} {db' : Database} :
      e.Rewritten input db request.relimits (e.limitAfter request) confirmedAt db' →
      Called e input db request (.ok outcome)
        { e.confirm confirmedAt with configuredMaxCapacity := configured } db'
  | raised {error : BackendError} : Called e input db request (.error error) e db

theorem called (e : SqliteEngine) (input : TxnInput) (db : Database) (request : EngineRequest) :
    Called e input db request (e.call input db request).1 (e.call input db request).2.1
      (e.call input db request).2.2 := by
  obtain ⟨result, e', db', h_call⟩ : ∃ result e' db', e.call input db request =
    (result, e', db') := ⟨_, _, _, rfl⟩
  rw [h_call]
  cases result with
  | ok outcome =>
    obtain ⟨confirmedAt, configured, rfl, h_rows⟩ := call_rows h_call
    exact .committed h_rows
  | error error =>
    obtain ⟨rfl, rfl⟩ := call_error h_call
    exact .raised

end SqliteEngine

namespace Fleet

variable {builder : SqliteBackendBuilder} {s s' : Fleet}

theorem Member.called {e e' : SqliteEngine} {input : TxnInput} {db db' : Database}
    {request : EngineRequest} {result : Except BackendError Outcome} (h_member : Member builder e)
    (h_called : e.Called input db request result e' db') :
    Member builder e' ∧ e'.buckets = e.buckets := by
  cases h_called with
  | committed h_rows => exact ⟨⟨h_member.1, h_member.2, h_member.3⟩, rfl⟩
  | raised => exact ⟨h_member, rfl⟩

theorem Member.inherit {e e₀ e' : SqliteEngine} (h_member : Member builder e)
    (h_ok : e.inheritStateConfirmations e₀ = .ok e') : Member builder e' := by
  unfold SqliteEngine.inheritStateConfirmations at h_ok
  split at h_ok
  · cases h_ok
  · cases h_ok
    exact ⟨h_member.1, h_member.2, h_member.3⟩

/-- The cases of a step, with what each does. -/
inductive Happens (builder : SqliteBackendBuilder) (s : Fleet) : FleetEvent → Fleet → Prop
  | started {who : ℕ} {quotas : OrderedDict BucketId MaxCapacity} {input : TxnInput}
      {db : Database} : s.clock ≤ input.currentTime → s.engines who = none →
      (builder.engine quotas).initializeBuckets input s.db = (.ok (), builder.engine quotas, db) →
      Happens builder s (.start who quotas input)
        { s with
          db := db
          engines := Function.update s.engines who (some (builder.engine quotas))
          clock := input.currentTime }
  | notStarted {who : ℕ} {quotas : OrderedDict BucketId MaxCapacity} {input : TxnInput} :
      s.clock ≤ input.currentTime →
      Happens builder s (.start who quotas input) { s with clock := input.currentTime }
  | called {who : ℕ} {input : TxnInput} {request : EngineRequest} {e e' : SqliteEngine}
      {result : Except BackendError Outcome} {db : Database} :
      s.clock ≤ input.currentTime → s.engines who = some e →
      e.call input s.db request = (result, e', db) →
      e.Called input s.db request result e' db →
      Happens builder s (.call who input request)
        { db := db
          engines := Function.update s.engines who (some e')
          configured := s.configuredAfter e request result
          clock := input.currentTime }
  | inherited {who previous : ℕ} {e e₀ e' : SqliteEngine} : s.engines who = some e →
      s.engines previous = some e₀ → unconfirmed e = true →
      e.inheritStateConfirmations e₀ = .ok e' →
      Happens builder s (.inherit who previous)
        { s with engines := Function.update s.engines who (some e') }
  | notInherited {who previous : ℕ} {e e₀ : SqliteEngine} {error : BackendError} :
      s.engines who = some e → s.engines previous = some e₀ →
      e.inheritStateConfirmations e₀ = .error error →
      Happens builder s (.inherit who previous) s
  | removed {id : BucketId} {removal : Removal} :
      Happens builder s (.remove id removal)
        { s with
          db := { s.db with
            buckets := Function.update s.db.buckets (builder.bucketKey id)
              (removal.apply (s.row builder id)) } }

theorem step_happens {event : FleetEvent} (h_step : step builder s event = some s') :
    Happens builder s event s' := by
  cases event with
  | start who quotas input =>
    simp only [step] at h_step
    split at h_step
    · rename_i h_guard
      cases h_step
      obtain ⟨result, e, db, h_open⟩ : ∃ result e db,
        (builder.engine quotas).initializeBuckets input s.db = (result, e, db) := ⟨_, _, _, rfl⟩
      rw [h_open]
      cases result with
      | ok u =>
        obtain ⟨rfl, _⟩ := SqliteEngine.initializeBuckets_rows h_open
        exact .started h_guard.1 (Option.isNone_iff_eq_none.mp h_guard.2) h_open
      | error error =>
        obtain ⟨rfl, rfl⟩ := SqliteEngine.transaction_error h_open
        exact .notStarted h_guard.1
    · cases h_step
  | call who input request =>
    simp only [step] at h_step
    split at h_step
    · rename_i h_clock
      obtain ⟨e, h_engine, rfl⟩ := Option.map_eq_some_iff.mp h_step
      exact .called h_clock h_engine rfl (e.called input s.db request)
    · cases h_step
  | inherit who previous =>
    simp only [step] at h_step
    split at h_step
    · rename_i e e₀ h_engine h_previous
      split at h_step
      · rename_i h_unconfirmed
        split at h_step
        · rename_i e' h_ok
          cases h_step
          exact .inherited h_engine h_previous h_unconfirmed h_ok
        · rename_i error h_error
          cases h_step
          exact .notInherited h_engine h_previous h_error
      · cases h_step
    · cases h_step
  | remove id removal =>
    cases h_step
    exact .removed

/-- The clock never goes back. -/
theorem Happens.clock_le {event : FleetEvent} (h_happens : Happens builder s event s') :
    s.clock ≤ s'.clock := by
  cases h_happens with
  | started h_clock => exact h_clock
  | notStarted h_clock => exact h_clock
  | called h_clock => exact h_clock
  | inherited => exact le_refl _
  | notInherited => exact le_refl _
  | removed => exact le_refl _

theorem Happens.members {event : FleetEvent} (h_members : Members builder s)
    (h_happens : Happens builder s event s') : Members builder s' := by
  have h_update : ∀ {who : ℕ} {e : SqliteEngine}, Member builder e →
      ∀ who' e', Function.update s.engines who (some e) who' = some e' → Member builder e' := by
    intro who e h_member who' e' h_engine
    rw [Function.update_apply] at h_engine
    split at h_engine
    · cases h_engine
      exact h_member
    · exact h_members who' e' h_engine
  cases h_happens with
  | started _ _ _ => exact h_update (member_engine builder _)
  | notStarted _ => exact h_members
  | called _ h_engine _ h_called => exact h_update ((h_members _ _ h_engine).called h_called).1
  | inherited h_engine _ _ h_ok => exact h_update ((h_members _ _ h_engine).inherit h_ok)
  | notInherited => exact h_members
  | removed => exact h_members

theorem init_members (configured : BucketId → MaxCapacity) :
    Members builder (init configured) := by
  intro who e h_engine
  cases h_engine

end Fleet

end TokenThrottle
