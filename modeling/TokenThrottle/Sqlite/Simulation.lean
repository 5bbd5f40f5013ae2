/-
  TokenThrottle.Sqlite.Simulation

  How a SQLite database stands for the state of a memory backend, and what the parts
  of a transaction make of that relation while nothing in the database has expired.

  * `RowSim` relates one bucket row to one memory bucket.  The limit of the memory
    bucket is the configured one, or the value of a live override set under it.
  * `Sim` relates the whole state; `Loaded` adds what holds after `loadStates`: every
    bucket has a row, and its override, if any, lives.
  * Debt that could not be retained is the one refusal the relation allows for.
-/
import TokenThrottle.Memory.Steps
import TokenThrottle.Sqlite.Backend

namespace TokenThrottle

open Theory (Body)

/-! ## One row and one bucket -/

/-- A row that stands for a memory bucket at a clock reading. -/
structure RowSim (configured : MaxCapacity) (clock : ℚ) (row : BucketRow) {id : BucketId}
    (bucket : MemoryBucket id) : Prop where
  capacity : row.capacity = bucket.capacity
  lastChecked : row.lastChecked = bucket.lastChecked
  together : bucket.capacity.isSome = bucket.lastChecked.isSome
  past : ∀ last, bucket.lastChecked = some last → last ≤ clock
  limit : (row.overrideValue = none ∧ row.overrideExpiresAt = none ∧
      bucket.maxCapacity = configured) ∨
    (∃ expiresAt, row.overrideValue = some bucket.maxCapacity.value ∧
      row.overrideExpiresAt = some expiresAt ∧
      row.overrideConfiguredMaxCapacity = some configured.value)

@[simp] theorem validateMaxCapacity_value (maxCapacity : MaxCapacity) :
    validateMaxCapacityFinitePositive maxCapacity.value = .ok maxCapacity := by
  unfold validateMaxCapacityFinitePositive
  rw [dif_pos maxCapacity.min_le]

/-- An absent row reads as a fresh one. -/
def rowOrFresh (row : Option BucketRow) : BucketRow := row.getD (.fresh 0 0)

namespace RowSim

variable {configured : MaxCapacity} {clock currentTime : ℚ} {row : BucketRow} {id : BucketId}
  {bucket : MemoryBucket id}

theorem later (h_sim : RowSim configured clock row bucket) (h_clock : clock ≤ currentTime) :
    RowSim configured currentTime row bucket :=
  { h_sim with past := fun last h_last => (h_sim.past last h_last).trans h_clock }

/-- The columns that the relation looks at. -/
theorem congr {row' : BucketRow} (h_sim : RowSim configured clock row bucket)
    (h_capacity : row'.capacity = row.capacity)
    (h_lastChecked : row'.lastChecked = row.lastChecked)
    (h_value : row'.overrideValue = row.overrideValue)
    (h_expiresAt : row'.overrideExpiresAt = row.overrideExpiresAt)
    (h_anchor : row'.overrideConfiguredMaxCapacity = row.overrideConfiguredMaxCapacity) :
    RowSim configured clock row' bucket where
  capacity := h_capacity.trans h_sim.capacity
  lastChecked := h_lastChecked.trans h_sim.lastChecked
  together := h_sim.together
  past := h_sim.past
  limit := by
    rw [h_value, h_expiresAt, h_anchor]
    exact h_sim.limit

/-- The limit a row is under, as the transactions compute it. -/
theorem activeOverride_getD (h_sim : RowSim configured clock row bucket)
    (h_override : row.OverrideUnexpired currentTime) :
    (row.activeOverride ⟨id, configured⟩ currentTime).getD configured.value =
      bucket.maxCapacity.value := by
  unfold BucketRow.activeOverride BucketRow.overrideLive
  obtain ⟨h_value, _, h_max⟩ | ⟨expiresAt, h_value, h_expiresAt, h_anchor⟩ := h_sim.limit
  · rw [h_value, h_max]
    rfl
  · have h_live := h_override expiresAt h_expiresAt
    simp [h_value, h_expiresAt, h_anchor, h_live]

/-- Both fields of a state are there, or neither is. -/
theorem stateLost_eq_false (h_sim : RowSim configured clock row bucket) {suspected : Bool}
    (h_suspected : suspected = true → bucket.capacity.isSome = true) :
    stateLost bucket.capacity bucket.lastChecked suspected = false := by
  have h_together := h_sim.together
  cases h_capacity : bucket.capacity with
  | none =>
    rw [h_capacity] at h_together h_suspected
    cases h_last : bucket.lastChecked with
    | none =>
      cases suspected with
      | true => exact absurd (h_suspected rfl) (by simp)
      | false => simp [stateLost, missingFields]
    | some last =>
      rw [h_last] at h_together
      cases h_together
  | some capacity =>
    rw [h_capacity] at h_together
    cases h_last : bucket.lastChecked with
    | none =>
      rw [h_last] at h_together
      cases h_together
    | some last => simp [stateLost, missingFields]

end RowSim

/-- The uncapped integration of a memory bucket, as `set_max_capacity` anchors it. -/
def MemoryBucket.uncappedAt {id : BucketId} (bucket : MemoryBucket id) (currentTime : ℚ) : ℚ :=
  match bucket.capacity, bucket.lastChecked with
  | some capacity, some last => capacity + max 0 (currentTime - last) * bucket.ratePerSec
  | _, _ => bucket.maxCapacity.value

/-- A loaded state that stands for a memory bucket. -/
structure StateSim {id : BucketId} (bucket : MemoryBucket id) (currentTime : ℚ)
    (state : BucketState) : Prop where
  capacity : state.capacity = bucket.capacityAt currentTime
  uncappedCapacity : state.uncappedCapacity = bucket.uncappedAt currentTime
  maxCapacity : state.maxCapacity = bucket.maxCapacity
  isFreshStart : state.isFreshStart = isFreshStart bucket.lastChecked bucket.capacity

namespace RowSim

variable {configured : MaxCapacity} {clock currentTime : ℚ} {id : BucketId}
  {bucket : MemoryBucket id}

/-- The first stage reads the fields and the limit of the memory bucket. -/
theorem readRow {row : Option BucketRow} (ttl : ℕ)
    (h_sim : RowSim configured clock (rowOrFresh row) bucket)
    (h_unexpired : ∀ r, row = some r →
      currentTime < r.expiresAt ∧ r.OverrideUnexpired currentTime) :
    ∃ reading, TokenThrottle.readRow ⟨id, configured⟩ ttl row currentTime = .ok reading ∧
      reading.capacity = bucket.capacity ∧ reading.lastChecked = bucket.lastChecked ∧
      reading.maxCapacity = bucket.maxCapacity ∧ reading.confirmed = false ∧
      RowSim configured clock reading.row bucket ∧
      reading.row.OverrideUnexpired currentTime := by
  cases row with
  | none =>
    obtain ⟨_, _, h_max⟩ | ⟨_, h_value, _, _⟩ := h_sim.limit
    · refine ⟨_, rfl, h_sim.capacity, h_sim.lastChecked, h_max.symm, rfl,
        h_sim.congr rfl rfl rfl rfl rfl, ?_⟩
      intro expiresAt h_expiresAt
      cases h_expiresAt
    · cases h_value
  | some r =>
    obtain ⟨h_row, h_override⟩ := h_unexpired r rfl
    have h_keep : (some r).filter (fun row : BucketRow =>
        currentTime < row.expiresAt ∨ row.overrideLive currentTime) = some r := by
      simp [Option.filter, h_row]
    unfold TokenThrottle.readRow
    rw [h_keep]
    simp only [if_neg (not_le.mpr h_row)]
    have h_same : RowSim configured clock r bucket := h_sim
    obtain ⟨h_value, h_expiresAt, h_max⟩ | ⟨expiresAt, h_value, h_expiresAt, h_anchor⟩ :=
      h_same.limit
    · have h_inactive : r.activeOverride ⟨id, configured⟩ currentTime = none := by
        simp [BucketRow.activeOverride, h_value]
      have h_integrate : integrateExpiredOverride ⟨id, configured⟩ r r.capacity r.lastChecked
          currentTime = .ok (r.capacity, r.lastChecked) := by
        simp [integrateExpiredOverride, h_value]
      rw [h_inactive]
      simp only [h_integrate, h_value, h_expiresAt, bind, Except.bind, Option.isSome_none,
        Bool.false_eq_true, or_self, and_false, if_false]
      exact ⟨_, rfl, h_same.capacity, h_same.lastChecked, h_max.symm, rfl, h_same, h_override⟩
    · have h_live := h_override expiresAt h_expiresAt
      have h_active : r.activeOverride ⟨id, configured⟩ currentTime =
          some bucket.maxCapacity.value := by
        simp [BucketRow.activeOverride, BucketRow.overrideLive, h_value, h_expiresAt, h_anchor,
          h_live]
      rw [h_active]
      simp only [validateMaxCapacity_value, bind, Except.bind]
      exact ⟨_, rfl, h_same.capacity, h_same.lastChecked, rfl, rfl, h_same, h_override⟩

/-- The refill of a bucket's fields. -/
theorem refillCapacity_eq (configured : MaxCapacity) (h_time : 0 ≤ currentTime)
    (bucket : MemoryBucket id) :
    refillCapacity ⟨id, configured⟩ bucket.capacity bucket.lastChecked currentTime
      bucket.maxCapacity =
      .ok (⟨bucket.capacityAt currentTime, isFreshStart bucket.lastChecked bucket.capacity⟩,
        bucket.uncappedAt currentTime) := by
  unfold refillCapacity
  simp only [calculateCapacity_ok h_time (calculateRatePerSec_pos _ _), bind, Except.bind]
  rfl

/-- A load computes the state of the memory bucket, or refuses to retain its debt. -/
theorem loadRow {row : Option BucketRow} (ttl : ℕ) {suspected : Bool} (writable : Bool)
    (h_sim : RowSim configured clock (rowOrFresh row) bucket)
    (h_unexpired : ∀ r, row = some r →
      currentTime < r.expiresAt ∧ r.OverrideUnexpired currentTime)
    (h_clock : clock ≤ currentTime) (h_time : 0 ≤ currentTime)
    (h_suspected : suspected = true → bucket.capacity.isSome = true) :
    (writable = true ∧ TokenThrottle.loadRow ⟨id, configured⟩ ttl suspected writable row
      currentTime = .error (.valueError .retentionTooLong)) ∨
    ∃ loaded, TokenThrottle.loadRow ⟨id, configured⟩ ttl suspected writable row currentTime =
        .ok loaded ∧
      StateSim bucket currentTime loaded.state ∧ loaded.confirmed = false ∧
      RowSim configured currentTime loaded.row bucket ∧
      loaded.row.OverrideUnexpired currentTime := by
  obtain ⟨reading, h_read, h_capacity, h_last, h_max, h_confirmed, h_row, h_override⟩ :=
    h_sim.readRow ttl h_unexpired
  have h_kept : recoverLost ttl suspected currentTime reading = reading := by
    unfold recoverLost
    rw [h_capacity, h_last, h_sim.stateLost_eq_false h_suspected]
    rfl
  have h_repair : repairFuture ttl currentTime reading = (reading.row, false) := by
    have h_past : reading.lastChecked.any
        (fun last => currentTime + futureLastCheckedRepairToleranceSeconds < last) = false := by
      rw [h_last, Option.any_eq_false]
      intro last h_some
      have h_le := (h_sim.past last h_some).trans h_clock
      rw [decide_eq_false_iff_not, not_lt, futureLastCheckedRepairToleranceSeconds]
      linarith
    unfold repairFuture
    rw [h_past, h_confirmed]
    rfl
  have h_later := h_row.later h_clock
  have h_refill := refillCapacity_eq configured h_time bucket
  unfold TokenThrottle.loadRow finishRow
  simp only [h_read, h_kept, h_repair, h_capacity, h_last, h_max, h_refill, bind, Except.bind]
  by_cases h_debt : writable = true ∧ bucket.capacityAt currentTime < 0
  · rw [if_pos h_debt]
    obtain ⟨retention, _, h_retention⟩ | h_refused := debtTtlSeconds_cases
        (bucket.capacityAt currentTime) ttl id.perSeconds bucket.maxCapacity.value
        configured.value
    · simp only [h_retention]
      exact .inr ⟨_, rfl, ⟨rfl, rfl, rfl, rfl⟩, rfl, h_later.congr rfl rfl rfl rfl rfl,
        h_override⟩
    · simp only [h_refused]
      exact .inl ⟨h_debt.1, trivial⟩
  · rw [if_neg h_debt]
    exact .inr ⟨_, rfl, ⟨rfl, rfl, rfl, rfl⟩, rfl, h_later, h_override⟩

/-- A written capacity is the one set on the memory bucket, or its debt cannot be
    retained. -/
theorem writeRow {row : BucketRow} (ttl : ℕ) (h_sim : RowSim configured currentTime row bucket)
    (h_override : row.OverrideUnexpired currentTime) (amount : ℚ) :
    TokenThrottle.writeRow ⟨id, configured⟩ ttl row amount currentTime =
        .error (.valueError .retentionTooLong) ∨
    ∃ row', TokenThrottle.writeRow ⟨id, configured⟩ ttl row amount currentTime = .ok row' ∧
      RowSim configured currentTime row' (bucket.setCapacity amount currentTime true) ∧
      row'.OverrideUnexpired currentTime := by
  unfold TokenThrottle.writeRow
  simp only [h_sim.activeOverride_getD h_override, bind, Except.bind]
  obtain ⟨retention, _, h_retention⟩ | h_refused := debtTtlSeconds_cases amount ttl
      id.perSeconds bucket.maxCapacity.value configured.value
  · simp only [h_retention]
    refine .inr ⟨_, rfl, ⟨rfl, rfl, rfl, ?_, h_sim.limit⟩, h_override⟩
    intro last h_last
    cases h_last
    exact le_refl _
  · simp only [h_refused]
    exact .inl trivial

end RowSim

/-! ## The whole state -/

/-- A marker row as the memory backend remembers it, with the family it names. -/
def MarkerRow.value (row : MarkerRow) : String × Finset BucketId × FrozenUsage :=
  (row.modelFamily, row.bucketIds, row.reservedUsage)

/-- The reservation tables stand for the live markers and the refunded ids. -/
structure TablesSim (e : SqliteEngine) (db : Database) (s : MemoryBackend) : Prop where
  marker : ∀ rid, (db.acquireMarkers (e.reservationKey rid)).map MarkerRow.value =
    (s.acquiredReservationValues rid).map fun live => (e.modelFamily, live.1, live.2)
  tombstone : ∀ rid, (db.refundTombstones (e.reservationKey rid)).isSome = true ↔
    rid ∈ s.refundedReservationIdOrder
  exclusive : ∀ rid, (s.acquiredReservationValues rid).isSome = true →
    rid ∉ s.refundedReservationIdOrder

/-- A database that stands for a memory backend at a clock reading. -/
structure Sim (e : SqliteEngine) (db : Database) (s : MemoryBackend) (clock : ℚ) : Prop where
  buckets_eq : e.buckets = s.buckets
  row : ∀ id ∈ e.buckets, RowSim (e.configuredMaxCapacity id) clock
    (rowOrFresh (db.buckets (e.bucketKey id))) (s.bucket id)
  confirmed : ∀ id ∈ e.buckets, (e.stateConfirmedUntil id).isSome = true →
    (s.bucket id).capacity.isSome = true
  tables : TablesSim e db s

/-- No row of the database, and no override in one, has expired. -/
structure Database.Unexpired (db : Database) (currentTime : ℚ) : Prop where
  bucket : ∀ key row, db.buckets key = some row →
    currentTime < row.expiresAt ∧ row.OverrideUnexpired currentTime
  marker : ∀ key row, db.acquireMarkers key = some row → currentTime < row.expiresAt
  tombstone : ∀ key row, db.refundTombstones key = some row → currentTime < row.expiresAt

namespace Database.Unexpired

variable {db : Database} {currentTime : ℚ}

theorem empty (currentTime : ℚ) : Database.empty.Unexpired currentTime where
  bucket _ _ h_row := by cases h_row
  marker _ _ h_row := by cases h_row
  tombstone _ _ h_row := by cases h_row

theorem putBucket (h_db : db.Unexpired currentTime) (key : BucketKey) {row : BucketRow}
    (h_row : currentTime < row.expiresAt) (h_override : row.OverrideUnexpired currentTime) :
    (db.putBucket key row).Unexpired currentTime where
  bucket key' row' h_found := by
    by_cases h_eq : key' = key
    · subst h_eq
      simp only [Database.putBucket, Function.update_self, Option.some.injEq] at h_found
      subst h_found
      exact ⟨h_row, h_override⟩
    · simp only [Database.putBucket, Function.update_of_ne h_eq] at h_found
      exact h_db.bucket key' row' h_found
  marker := h_db.marker
  tombstone := h_db.tombstone

theorem putMarker (h_db : db.Unexpired currentTime) (key : ReservationKey) {row : MarkerRow}
    (h_row : currentTime < row.expiresAt) :
    (db.putMarker key (some row)).Unexpired currentTime where
  bucket := h_db.bucket
  marker key' row' h_found := by
    by_cases h_eq : key' = key
    · subst h_eq
      simp only [Database.putMarker, Function.update_self, Option.some.injEq] at h_found
      subst h_found
      exact h_row
    · simp only [Database.putMarker, Function.update_of_ne h_eq] at h_found
      exact h_db.marker key' row' h_found
  tombstone := h_db.tombstone

end Database.Unexpired

/-- The state of a transaction once some buckets are loaded: these have a row. -/
structure LoadedExcept (rest : List BucketId) (e : SqliteEngine) (t : TxnState)
    (s : MemoryBackend) (currentTime : ℚ) : Prop where
  buckets_eq : e.buckets = s.buckets
  row : ∀ id ∈ e.buckets, id ∉ rest → ∃ row, t.db.buckets (e.bucketKey id) = some row ∧
    RowSim (e.configuredMaxCapacity id) currentTime row (s.bucket id) ∧
    row.OverrideUnexpired currentTime
  confirmed : ∀ id ∈ e.buckets,
    (e.stateConfirmedUntil id).isSome = true ∨ (t.pendingStateConfirmations id).isSome = true →
      (s.bucket id).capacity.isSome = true
  tables : TablesSim e t.db s
  running : t.interruptAfter = none

/-- The state of a transaction once every bucket is loaded. -/
abbrev Loaded (e : SqliteEngine) (t : TxnState) (s : MemoryBackend) (currentTime : ℚ) : Prop :=
  LoadedExcept [] e t s currentTime

/-- The state a transaction may commit: as `Loaded`, whatever the overrides' expiry. -/
structure Settled (e : SqliteEngine) (t : TxnState) (s : MemoryBackend) (currentTime : ℚ) :
    Prop where
  buckets_eq : e.buckets = s.buckets
  row : ∀ id ∈ e.buckets, ∃ row, t.db.buckets (e.bucketKey id) = some row ∧
    RowSim (e.configuredMaxCapacity id) currentTime row (s.bucket id)
  confirmed : ∀ id ∈ e.buckets,
    (e.stateConfirmedUntil id).isSome = true ∨ (t.pendingStateConfirmations id).isSome = true →
      (s.bucket id).capacity.isSome = true
  tables : TablesSim e t.db s
  running : t.interruptAfter = none

theorem LoadedExcept.settled {e : SqliteEngine} {t : TxnState} {s : MemoryBackend}
    {currentTime : ℚ} (h_loaded : Loaded e t s currentTime) : Settled e t s currentTime where
  buckets_eq := h_loaded.buckets_eq
  row id h_mem := by
    obtain ⟨row, h_row, h_sim, _⟩ := h_loaded.row id h_mem (by simp)
    exact ⟨row, h_row, h_sim⟩
  confirmed := h_loaded.confirmed
  tables := h_loaded.tables
  running := h_loaded.running

theorem TablesSim.congr {e : SqliteEngine} {db db' : Database} {s s' : MemoryBackend}
    (h_tables : TablesSim e db s) (h_markers : db'.acquireMarkers = db.acquireMarkers)
    (h_tombstones : db'.refundTombstones = db.refundTombstones)
    (h_acquired : s'.acquiredReservationValues = s.acquiredReservationValues)
    (h_refunded : s'.refundedReservationIdOrder = s.refundedReservationIdOrder) :
    TablesSim e db' s' := by
  constructor
  · rw [h_markers, h_acquired]
    exact h_tables.marker
  · rw [h_tombstones, h_refunded]
    exact h_tables.tombstone
  · rw [h_acquired, h_refunded]
    exact h_tables.exclusive

theorem Sim.later {e : SqliteEngine} {db : Database} {s : MemoryBackend} {clock currentTime : ℚ}
    (h_sim : Sim e db s clock) (h_clock : clock ≤ currentTime) : Sim e db s currentTime :=
  { h_sim with row := fun id h_mem => (h_sim.row id h_mem).later h_clock }

/-- The snapshot of a bucket shows the capacity and the limit of the memory bucket. -/
theorem Sim.snapshot {b : SqliteBackend} {s : MemoryBackend} {clock currentTime : ℚ}
    (h_sim : Sim b.engine b.db s clock) (h_unexpired : b.db.Unexpired currentTime)
    (h_clock : clock ≤ currentTime) (h_time : 0 ≤ currentTime) {id : BucketId}
    (h_mem : id ∈ b.engine.buckets) :
    ∃ state, b.snapshot id currentTime = .ok state ∧
      StateSim (s.bucket id) currentTime state := by
  have h_suspected : b.engine.stateLossSuspected id currentTime = true →
      (s.bucket id).capacity.isSome = true := by
    intro h_suspected
    apply h_sim.confirmed id h_mem
    unfold SqliteEngine.stateLossSuspected at h_suspected
    cases h_until : b.engine.stateConfirmedUntil id with
    | none =>
      rw [h_until] at h_suspected
      cases h_suspected
    | some confirmedUntil => rfl
  obtain ⟨h_writable, _⟩ | ⟨loaded, h_load, h_state, _⟩ :=
    (h_sim.row id h_mem).loadRow b.engine.bucketTtlSeconds false
      (fun r h_row => h_unexpired.bucket _ r h_row) h_clock h_time h_suspected
  · cases h_writable
  · refine ⟨loaded.state, ?_, h_state⟩
    unfold SqliteBackend.snapshot
    simp only [SqliteEngine.spec, h_load, bind, Except.bind]
    rfl

/-! ## Statements in a transaction that is not interrupted -/

section Statement

variable {t : TxnState}

theorem query_run {α : Type} (f : Database → α) (h_running : t.interruptAfter = none) :
    query f t = .ok (f t.db) t := by
  obtain ⟨db, pending, left⟩ := t
  cases h_running
  rfl

theorem execute_run (f : Database → Database) (h_running : t.interruptAfter = none) :
    execute f t = .ok () { t with db := f t.db } := by
  obtain ⟨db, pending, left⟩ := t
  cases h_running
  rfl

theorem execute_noop {f : Database → Database} (h_running : t.interruptAfter = none)
    (h_noop : f t.db = t.db) : execute f t = .ok () t := by
  rw [execute_run f h_running, h_noop]

theorem confirmState_run (id : BucketId) (currentTime : ℚ) :
    confirmState id currentTime t =
      .ok () { t with
        pendingStateConfirmations :=
          Function.update t.pendingStateConfirmations id (some currentTime) } := rfl

end Statement

namespace SqliteEngine

variable {e : SqliteEngine} {t : TxnState} {s : MemoryBackend} {currentTime : ℚ}

theorem bucketKey_inj {e : SqliteEngine} {id id' : BucketId}
    (h_eq : e.bucketKey id = e.bucketKey id') : id = id' := by
  unfold bucketKey at h_eq
  injection h_eq

/-- A filter that no row fails. -/
theorem filter_rows_eq {κ ρ : Type} (rows : κ → Option ρ) (keeps : κ → ρ → Bool)
    (h_keeps : ∀ key row, rows key = some row → keeps key row = true) :
    (fun key => (rows key).filter (keeps key)) = rows := by
  funext key
  cases h_row : rows key with
  | none => rfl
  | some row => rw [Option.filter_some, if_pos (h_keeps key row h_row)]

/-- Nothing is pruned where nothing has expired. -/
theorem prune_run {input : TxnInput} (h_unexpired : t.db.Unexpired input.currentTime)
    (h_running : t.interruptAfter = none) : prune input t = .ok () t := by
  have h_markers := filter_rows_eq t.db.acquireMarkers
    (fun key row => ¬ (row.expiresAt ≤ input.currentTime ∧ input.prunesMarker key))
    fun key row h_row => by simp [not_le.mpr (h_unexpired.marker key row h_row)]
  have h_tombstones := filter_rows_eq t.db.refundTombstones
    (fun key row => ¬ (row.expiresAt ≤ input.currentTime ∧ input.prunesTombstone key))
    fun key row h_row => by simp [not_le.mpr (h_unexpired.tombstone key row h_row)]
  have h_buckets := filter_rows_eq t.db.buckets
    (fun key row => ¬ (row.expiresAt ≤ input.currentTime ∧
      ¬ row.overrideLive input.currentTime ∧ input.prunesBucket key))
    fun key row h_row => by simp [not_le.mpr (h_unexpired.bucket key row h_row).1]
  unfold prune
  rw [Body.bind_ok (execute_noop h_running (by rw [h_markers])),
    Body.bind_ok (execute_noop h_running (by rw [h_tombstones])),
    execute_noop h_running (by rw [h_buckets])]

theorem readLiveMarker_run {key : ReservationKey} (h_unexpired : t.db.Unexpired currentTime)
    (h_running : t.interruptAfter = none) :
    readLiveMarker key currentTime t = .ok (t.db.acquireMarkers key) t := by
  unfold readLiveMarker
  rw [Body.bind_ok (query_run _ h_running)]
  cases h_row : t.db.acquireMarkers key with
  | none => rfl
  | some row =>
    have h_live := h_unexpired.marker key row h_row
    simp [Option.filter, h_live, not_le.mpr h_live, Body.when]
    rfl

theorem readLiveTombstone_run {key : ReservationKey} (h_unexpired : t.db.Unexpired currentTime)
    (h_running : t.interruptAfter = none) :
    readLiveTombstone key currentTime t = .ok (t.db.refundTombstones key) t := by
  unfold readLiveTombstone
  rw [Body.bind_ok (query_run _ h_running)]
  cases h_row : t.db.refundTombstones key with
  | none => rfl
  | some row =>
    have h_live := h_unexpired.tombstone key row h_row
    simp [Option.filter, h_live, not_le.mpr h_live, Body.when]
    rfl

/-! ## Loading and writing buckets -/

/-- The refusal to retain a debt, the one error that only this backend raises. -/
def retentionTooLong (error : BackendError) : Prop := error = .valueError .retentionTooLong

theorem putBucket_self (db : Database) (key : BucketKey) (row : BucketRow) :
    (db.putBucket key row).buckets key = some row := by
  simp [Database.putBucket]

theorem putBucket_of_ne (db : Database) {id id' : BucketId} (row : BucketRow)
    (h_ne : id' ≠ id) :
    (db.putBucket (e.bucketKey id) row).buckets (e.bucketKey id') =
      db.buckets (e.bucketKey id') := by
  have h_key : e.bucketKey id' ≠ e.bucketKey id := fun h_eq => h_ne (bucketKey_inj h_eq)
  simp [Database.putBucket, Function.update_of_ne h_key]

/-- The buckets still to load stand for their memory buckets, row or no row. -/
def Loadable (rest : List BucketId) (e : SqliteEngine) (t : TxnState) (s : MemoryBackend)
    (clock currentTime : ℚ) : Prop :=
  ∀ id ∈ rest, RowSim (e.configuredMaxCapacity id) clock
      (rowOrFresh (t.db.buckets (e.bucketKey id))) (s.bucket id) ∧
    ∀ row, t.db.buckets (e.bucketKey id) = some row →
      currentTime < row.expiresAt ∧ row.OverrideUnexpired currentTime

theorem stateLossSuspected_confirmed {id : BucketId}
    (h_suspected : e.stateLossSuspected id currentTime = true) :
    (e.stateConfirmedUntil id).isSome = true := by
  unfold stateLossSuspected at h_suspected
  cases h_until : e.stateConfirmedUntil id with
  | none =>
    rw [h_until] at h_suspected
    cases h_suspected
  | some confirmedUntil => rfl

/-- Loading gives every bucket a row and computes the memory backend's state. -/
theorem loadStates_ends {clock : ℚ} {ids : List BucketId} (h_nodup : ids.Nodup)
    (h_sub : ids ⊆ e.buckets) (h_clock : clock ≤ currentTime) (h_time : 0 ≤ currentTime)
    (h_loaded : LoadedExcept ids e t s currentTime)
    (h_loadable : Loadable ids e t s clock currentTime) :
    Body.Ends retentionTooLong
      (fun states t' => Loaded e t' s currentTime ∧
        ∀ id ∈ ids, StateSim (s.bucket id) currentTime (states id))
      (e.loadStates currentTime ids) t := by
  induction ids generalizing t with
  | nil => exact .of_ok rfl ⟨h_loaded, fun _ h_mem => by cases h_mem⟩
  | cons id ids ih =>
    obtain ⟨h_notMem, h_nodup⟩ := List.nodup_cons.mp h_nodup
    obtain ⟨h_row, h_unexpired⟩ := h_loadable id List.mem_cons_self
    have h_mem : id ∈ e.buckets := h_sub List.mem_cons_self
    -- a suspected loss is a confirmed state, and that one is there: nothing was lost
    have h_suspected : e.stateLossSuspected id currentTime = true →
        (s.bucket id).capacity.isSome = true := fun h_suspected =>
      h_loaded.confirmed id h_mem (.inl (stateLossSuspected_confirmed h_suspected))
    unfold loadStates
    refine .step (query_run _ h_loaded.running) ?_
    obtain ⟨_, h_refused⟩ | ⟨loaded, h_load, h_state, h_confirmed, h_sim, h_override⟩ :=
      h_row.loadRow e.bucketTtlSeconds true h_unexpired h_clock h_time h_suspected
    · have h_lift : (Body.lift (TokenThrottle.loadRow (e.spec id) e.bucketTtlSeconds
          (e.stateLossSuspected id currentTime) true (t.db.buckets (e.bucketKey id))
          currentTime) : Txn LoadedRow) t = .error (.valueError .retentionTooLong) t := by
        simp only [spec, h_refused]
        rfl
      exact .fail h_lift rfl
    · have h_lift : (Body.lift (TokenThrottle.loadRow (e.spec id) e.bucketTtlSeconds
          (e.stateLossSuspected id currentTime) true (t.db.buckets (e.bucketKey id))
          currentTime) : Txn LoadedRow) t = .ok loaded t := by
        simp only [spec, h_load]
        rfl
      refine .step h_lift (.step (execute_run _ h_loaded.running) ?_)
      rw [h_confirmed]
      refine .step (Body.when_false _ _) ?_
      refine Body.Ends.bind (ih h_nodup (fun _ h => h_sub (List.mem_cons_of_mem _ h)) ?_ ?_) ?_
      · refine ⟨h_loaded.buckets_eq, fun id' h_mem' h_rest => ?_, h_loaded.confirmed,
          h_loaded.tables.congr rfl rfl rfl rfl, h_loaded.running⟩
        by_cases h_eq : id' = id
        · subst h_eq
          exact ⟨loaded.row, putBucket_self _ _ _, h_sim, h_override⟩
        · rw [putBucket_of_ne _ _ h_eq]
          exact h_loaded.row id' h_mem' (by simp [h_eq, h_rest])
      · intro id' h_mem'
        have h_ne : id' ≠ id := fun h_eq => h_notMem (h_eq ▸ h_mem')
        rw [putBucket_of_ne _ _ h_ne]
        exact h_loadable id' (List.mem_cons_of_mem _ h_mem')
      · rintro rest t' ⟨h_loaded', h_states⟩
        refine .of_ok rfl ⟨h_loaded', fun id' h_mem' => ?_⟩
        by_cases h_eq : id' = id
        · subst h_eq
          rw [Function.update_self]
          exact h_state
        · rw [Function.update_of_ne h_eq]
          exact h_states id' (List.mem_of_ne_of_mem h_eq h_mem')

/-- Setting the capacity of one bucket and then of others sets them all. -/
theorem setCapacities_cons (s : MemoryBackend) (capacities : Capacities) (id : BucketId)
    (ids : List BucketId) :
    (s.setCapacities capacities {id} currentTime true).setCapacities capacities ids.toFinset
        currentTime true =
      s.setCapacities capacities (id :: ids).toFinset currentTime true := by
  unfold MemoryBackend.setCapacities
  congr 1
  funext id'
  by_cases h_eq : id' = id
  · subst h_eq
    by_cases h_mem : id' ∈ ids
    · simp [h_mem, MemoryBucket.setCapacity]
    · simp [h_mem]
  · simp [h_eq]

/-- Writing capacities sets them on the memory buckets. -/
theorem writeCapacities_ends {capacities : Capacities} {ids : List BucketId}
    (h_sub : ids ⊆ e.buckets) (h_loaded : Loaded e t s currentTime) :
    Body.Ends retentionTooLong
      (fun _ t' =>
        Loaded e t' (s.setCapacities capacities ids.toFinset currentTime true) currentTime)
      (e.writeCapacities capacities currentTime ids) t := by
  induction ids generalizing t s with
  | nil =>
    refine .of_ok rfl ?_
    have h_same : s.setCapacities capacities ([] : List BucketId).toFinset currentTime true = s := by
      simp [MemoryBackend.setCapacities]
    rw [h_same]
    exact h_loaded
  | cons id ids ih =>
    have h_mem : id ∈ e.buckets := h_sub List.mem_cons_self
    obtain ⟨row, h_row, h_sim, h_override⟩ := h_loaded.row id h_mem (by simp)
    unfold writeCapacities
    refine .step (query_run _ h_loaded.running) ?_
    rw [h_row]
    obtain h_refused | ⟨row', h_write, h_sim', h_override'⟩ :=
      h_sim.writeRow e.bucketTtlSeconds h_override (capacities id)
    · have h_lift : (Body.lift (TokenThrottle.writeRow (e.spec id) e.bucketTtlSeconds row
          (capacities id) currentTime) : Txn BucketRow) t =
            .error (.valueError .retentionTooLong) t := by
        simp only [spec, h_refused]
        rfl
      exact .fail h_lift rfl
    · have h_lift : (Body.lift (TokenThrottle.writeRow (e.spec id) e.bucketTtlSeconds row
          (capacities id) currentTime) : Txn BucketRow) t = .ok row' t := by
        simp only [spec, h_write]
        rfl
      refine .step h_lift (.step (execute_run _ h_loaded.running)
        (.step (confirmState_run _ _) ?_))
      rw [← setCapacities_cons]
      refine ih (fun _ h => h_sub (List.mem_cons_of_mem _ h)) ?_
      refine ⟨h_loaded.buckets_eq, fun id' h_mem' _ => ?_, fun id' h_mem' h_confirmed => ?_,
        h_loaded.tables.congr rfl rfl rfl rfl, h_loaded.running⟩
      · rw [MemoryBackend.setCapacities_bucket]
        by_cases h_eq : id' = id
        · subst h_eq
          rw [if_pos (Finset.mem_singleton_self _)]
          exact ⟨row', putBucket_self _ _ _, h_sim', h_override'⟩
        · rw [putBucket_of_ne _ _ h_eq, if_neg (by simpa using h_eq)]
          exact h_loaded.row id' h_mem' (by simp)
      · rw [MemoryBackend.setCapacities_bucket]
        by_cases h_eq : id' = id
        · subst h_eq
          rw [if_pos (Finset.mem_singleton_self _)]
          rfl
        · rw [if_neg (by simpa using h_eq)]
          refine h_loaded.confirmed id' h_mem' ?_
          simpa [Function.update_of_ne h_eq] using h_confirmed

/-! ## Markers and tombstones -/

section Reservations

variable {usage : FrozenUsage} {reservationId : Option ReservationId}

/-- The outcome of a memory check, as a transaction that changes nothing. -/
def echo {α : Type} (t : TxnState) : Except BackendError α → EStateM.Result BackendError TxnState α
  | .ok a => .ok a t
  | .error error => .error error t

theorem marker_row {rid : ReservationId} {live : Finset BucketId × FrozenUsage}
    (h_tables : TablesSim e t.db s) (h_live : s.acquiredReservationValues rid = some live) :
    ∃ row, t.db.acquireMarkers (e.reservationKey rid) = some row ∧
      row.modelFamily = e.modelFamily ∧ row.bucketIds = live.1 ∧ row.reservedUsage = live.2 := by
  have h_marker := h_tables.marker rid
  rw [h_live, Option.map_some, Option.map_eq_some_iff] at h_marker
  obtain ⟨row, h_row, h_value⟩ := h_marker
  unfold MarkerRow.value at h_value
  simp only [Prod.mk.injEq] at h_value
  exact ⟨row, h_row, h_value⟩

theorem marker_row_none {rid : ReservationId} (h_tables : TablesSim e t.db s)
    (h_none : s.acquiredReservationValues rid = none) :
    t.db.acquireMarkers (e.reservationKey rid) = none := by
  have h_marker := h_tables.marker rid
  rw [h_none] at h_marker
  exact Option.map_eq_none_iff.mp h_marker

theorem tombstone_row_none {rid : ReservationId} (h_tables : TablesSim e t.db s)
    (h_notMem : rid ∉ s.refundedReservationIdOrder) :
    t.db.refundTombstones (e.reservationKey rid) = none := by
  rw [← h_tables.tombstone rid] at h_notMem
  simpa using h_notMem

/-- The duplicate check agrees with the memory backend's replay check. -/
theorem raiseIfDuplicateAcquire_run (h_tables : TablesSim e t.db s)
    (h_buckets : e.buckets = s.buckets) (h_unexpired : t.db.Unexpired currentTime)
    (h_running : t.interruptAfter = none) :
    e.raiseIfDuplicateAcquire reservationId currentTime usage t =
      echo t (s.isReplayed reservationId usage) := by
  cases reservationId with
  | none => rfl
  | some rid =>
    have h_ids : e.bucketIds = s.bucketIds := by
      unfold bucketIds MemoryBackend.bucketIds
      rw [h_buckets]
    unfold raiseIfDuplicateAcquire MemoryBackend.isReplayed MemoryBackend.isReplayedAcquire
    simp only
    rw [Body.bind_ok (readLiveMarker_run h_unexpired h_running),
      Body.bind_ok (readLiveTombstone_run h_unexpired h_running)]
    cases h_live : s.acquiredReservationValues rid with
    | some live =>
      obtain ⟨row, h_row, h_family, h_rowIds, h_rowUsage⟩ := marker_row h_tables h_live
      rw [h_row]
      simp only [h_family, h_rowIds, h_rowUsage, h_ids, true_and]
      by_cases h_same : live = (s.bucketIds, usage)
      · subst h_same
        simp only [and_self, if_true]
        rfl
      · have h_differs : ¬ (live.1 = s.bucketIds ∧ live.2 = usage) := fun h_eq =>
          h_same (Prod.ext h_eq.1 h_eq.2)
        rw [if_neg h_differs, if_neg h_same]
        rfl
    | none =>
      rw [marker_row_none h_tables h_live]
      by_cases h_refunded : rid ∈ s.refundedReservationIdOrder
      · obtain ⟨tombstone, h_tombstone⟩ :=
          Option.isSome_iff_exists.mp ((h_tables.tombstone rid).mpr h_refunded)
        simp only [h_tombstone, if_pos h_refunded]
        rfl
      · simp only [tombstone_row_none h_tables h_refunded, if_neg h_refunded]
        rfl

/-- The metadata of a refund names the family, and the bucket ids and the usage of
    the marker if this is live. -/
structure MetadataMatches (e : SqliteEngine) (s : MemoryBackend) (refund : RefundRequest)
    (rid : ReservationId) (ids : Finset BucketId) (usage : FrozenUsage) : Prop where
  family : refund.reservationModelFamily = some e.modelFamily
  bucketIds : refund.reservationBucketIds = some ids
  reservedUsage : refund.reservationReservedUsage = some usage
  live : ∀ live, s.acquiredReservationValues rid = some live → live = (ids, usage)

/-- The marker check of a refund agrees with the memory backend's. -/
theorem authorizeRefund_run {refund : RefundRequest} (h_tables : TablesSim e t.db s)
    (h_unexpired : t.db.Unexpired currentTime) (h_running : t.interruptAfter = none)
    (h_matches : ∀ rid, refund.reservationId = some rid →
      ∃ ids usage, MetadataMatches e s refund rid ids usage) :
    e.authorizeRefund refund currentTime t = echo t (s.requireAcquired refund.reservationId) := by
  unfold authorizeRefund MemoryBackend.requireAcquired
  cases h_rid : refund.reservationId with
  | none => rfl
  | some rid =>
    obtain ⟨ids, usage, h_metadata⟩ := h_matches rid h_rid
    simp only [h_metadata.family, h_metadata.bucketIds, h_metadata.reservedUsage]
    unfold verifyMarker
    rw [Body.bind_ok (readLiveTombstone_run h_unexpired h_running)]
    cases h_live : s.acquiredReservationValues rid with
    | some live =>
      have h_exclusive := h_tables.exclusive rid (by rw [h_live]; rfl)
      obtain ⟨row, h_row, h_family, h_rowIds, h_rowUsage⟩ := marker_row h_tables h_live
      obtain rfl := h_metadata.live live h_live
      simp only [tombstone_row_none h_tables h_exclusive]
      rw [Body.bind_ok (readLiveMarker_run h_unexpired h_running), h_row]
      simp only [h_family, h_rowIds, h_rowUsage, and_self, if_true, Option.isSome_some]
      rfl
    | none =>
      by_cases h_refunded : rid ∈ s.refundedReservationIdOrder
      · obtain ⟨tombstone, h_tombstone⟩ :=
          Option.isSome_iff_exists.mp ((h_tables.tombstone rid).mpr h_refunded)
        simp only [h_tombstone, if_pos h_refunded]
        rfl
      · simp only [tombstone_row_none h_tables h_refunded, if_neg h_refunded]
        rw [Body.bind_ok (readLiveMarker_run h_unexpired h_running),
          marker_row_none h_tables h_live]
        rfl

/-- A change of the reservation tables alone. -/
theorem Loaded.reservations {db : Database} {s' : MemoryBackend}
    (h_loaded : Loaded e t s currentTime) (h_rows : db.buckets = t.db.buckets)
    (h_buckets : s'.buckets = s.buckets) (h_bucket : s'.bucket = s.bucket)
    (h_tables : TablesSim e db s') : Loaded e { t with db := db } s' currentTime where
  buckets_eq := h_loaded.buckets_eq.trans h_buckets.symm
  row := by
    rw [h_rows, h_bucket]
    exact h_loaded.row
  confirmed := by
    rw [h_bucket]
    exact h_loaded.confirmed
  tables := h_tables
  running := h_loaded.running

theorem reservationKey_inj {rid rid' : ReservationId}
    (h_eq : e.reservationKey rid = e.reservationKey rid') : rid = rid' := by
  unfold reservationKey at h_eq
  injection h_eq

/-- A lifetime that the engine accepts for a reservation. -/
def ValidLifetime (e : SqliteEngine) (reservationId : Option ReservationId)
    (lifetime : Option ℚ) : Prop :=
  reservationId.isSome = true →
    ∃ l, lifetime = some l ∧ 0 < l ∧ l ≤ e.maxReservationLifetimeSeconds

/-- An inserted marker is recorded in memory. -/
theorem insertMarker_ends {raises : BackendError → Prop} {lifetime : Option ℚ}
    (h_loaded : Loaded e t s currentTime)
    (h_lifetime : e.ValidLifetime reservationId lifetime)
    (h_new : ∀ rid, reservationId = some rid →
      s.acquiredReservationValues rid = none ∧ rid ∉ s.refundedReservationIdOrder) :
    Body.Ends raises
      (fun _ t' => Loaded e t'
        (s.withReservation reservationId (·.recordAcquiredReservation · usage)) currentTime)
      (e.insertMarker reservationId usage lifetime currentTime) t := by
  cases reservationId with
  | none => exact .of_ok rfl h_loaded
  | some rid =>
    obtain ⟨l, rfl, h_pos, h_max⟩ := h_lifetime rfl
    obtain ⟨h_none, h_notMem⟩ := h_new rid rfl
    have h_tables := h_loaded.tables
    unfold insertMarker
    simp only
    rw [if_neg (not_or.mpr ⟨not_le.mpr h_pos, not_lt.mpr h_max⟩)]
    refine .step (query_run _ h_loaded.running) ?_
    rw [marker_row_none h_tables h_none]
    refine .of_ok (execute_run _ h_loaded.running)
      (Loaded.reservations h_loaded rfl rfl rfl ⟨fun rid' => ?_, fun rid' => ?_, fun rid' h_live => ?_⟩)
    · by_cases h_eq : rid' = rid
      · subst h_eq
        have h_ids : e.bucketIds = s.bucketIds := by
          unfold bucketIds MemoryBackend.bucketIds
          rw [h_loaded.buckets_eq]
        simp [Database.putMarker, MemoryBackend.withReservation,
          MemoryBackend.recordAcquiredReservation, MarkerRow.value, h_ids]
      · have h_key : e.reservationKey rid' ≠ e.reservationKey rid := fun h =>
          h_eq (reservationKey_inj h)
        simp only [Database.putMarker, MemoryBackend.withReservation,
          MemoryBackend.recordAcquiredReservation, Function.update_of_ne h_key,
          Function.update_of_ne h_eq]
        exact h_tables.marker rid'
    · exact h_tables.tombstone rid'
    · by_cases h_eq : rid' = rid
      · subst h_eq
        exact h_notMem
      · simp only [MemoryBackend.withReservation, MemoryBackend.recordAcquiredReservation,
          Function.update_of_ne h_eq] at h_live
        exact h_tables.exclusive rid' h_live

/-- A deleted marker is forgotten in memory. -/
theorem tables_forget {rid : ReservationId} (h_tables : TablesSim e t.db s) :
    TablesSim e (t.db.putMarker (e.reservationKey rid) none) (s.forgetAcquiredReservation rid) := by
  refine ⟨fun rid' => ?_, h_tables.tombstone, fun rid' h_live => ?_⟩
  · by_cases h_eq : rid' = rid
    · subst h_eq
      simp [Database.putMarker, MemoryBackend.forgetAcquiredReservation]
    · have h_key : e.reservationKey rid' ≠ e.reservationKey rid := fun h =>
        h_eq (reservationKey_inj h)
      simp only [Database.putMarker, MemoryBackend.forgetAcquiredReservation,
        Function.update_of_ne h_key, Function.update_of_ne h_eq]
      exact h_tables.marker rid'
  · by_cases h_eq : rid' = rid
    · subst h_eq
      simp [MemoryBackend.forgetAcquiredReservation] at h_live
    · simp only [MemoryBackend.forgetAcquiredReservation, Function.update_of_ne h_eq] at h_live
      exact h_tables.exclusive rid' h_live

/-- Below the cap a refunded id is added to the remembered ones. -/
theorem closeReservation_order {rid : ReservationId}
    (h_notMem : rid ∉ s.refundedReservationIdOrder)
    (h_cap : s.refundedReservationIdOrder.length < s.refundedReservationIdsCap) :
    (s.closeReservation rid).refundedReservationIdOrder =
      s.refundedReservationIdOrder ++ [rid] := by
  unfold MemoryBackend.closeReservation MemoryBackend.rememberRefundedReservationId
  rw [if_neg (by exact h_notMem)]
  have h_drop : (s.refundedReservationIdOrder ++ [rid]).length - s.refundedReservationIdsCap = 0 := by
    rw [List.length_append, List.length_singleton]
    omega
  show (s.refundedReservationIdOrder ++ [rid]).drop
    ((s.refundedReservationIdOrder ++ [rid]).length - s.refundedReservationIdsCap) = _
  rw [h_drop, List.drop_zero]

/-- A buried marker is closed in memory. -/
theorem buryMarker_ends {raises : BackendError → Prop} (h_loaded : Loaded e t s currentTime)
    (h_live : ∀ rid, reservationId = some rid →
      (s.acquiredReservationValues rid).isSome = true)
    (h_cap : s.refundedReservationIdOrder.length < s.refundedReservationIdsCap) :
    Body.Ends raises
      (fun _ t' => Loaded e t'
        (s.withReservation reservationId MemoryBackend.closeReservation) currentTime)
      (e.buryMarker reservationId currentTime) t := by
  cases reservationId with
  | none => exact .of_ok rfl h_loaded
  | some rid =>
    have h_tables := h_loaded.tables
    have h_exclusive := h_tables.exclusive rid (h_live rid rfl)
    obtain ⟨live, h_some⟩ := Option.isSome_iff_exists.mp (h_live rid rfl)
    obtain ⟨row, h_row, _⟩ := marker_row h_tables h_some
    have h_forgotten : TablesSim e (t.db.putMarker (e.reservationKey rid) none)
        (s.forgetAcquiredReservation rid) := tables_forget h_tables
    unfold buryMarker
    refine .step (query_run _ h_loaded.running) ?_
    rw [h_row]
    refine .step (execute_run _ h_loaded.running) (.step (query_run _ h_loaded.running) ?_)
    have h_absent : (t.db.putMarker (e.reservationKey rid) none).refundTombstones
        (e.reservationKey rid) = none := tombstone_row_none h_tables h_exclusive
    simp only [h_absent]
    refine .of_ok (execute_run _ h_loaded.running) ?_
    refine Loaded.reservations (t := t) h_loaded rfl
      (MemoryBackend.closeReservation_buckets s rid)
      (MemoryBackend.closeReservation_bucket s rid)
      ⟨fun rid' => ?_, fun rid' => ?_, fun rid' h_live => ?_⟩
    · simp only [MemoryBackend.withReservation, MemoryBackend.closeReservation_markers]
      exact h_forgotten.marker rid'
    · simp only [MemoryBackend.withReservation, closeReservation_order h_exclusive h_cap]
      by_cases h_eq : rid' = rid
      · subst h_eq
        simp [Database.putTombstone]
      · have h_key : e.reservationKey rid' ≠ e.reservationKey rid := fun h =>
          h_eq (reservationKey_inj h)
        simp only [Database.putTombstone, Function.update_of_ne h_key, List.mem_append,
          List.mem_singleton, h_eq, or_false]
        exact h_tables.tombstone rid'
    · simp only [MemoryBackend.withReservation, MemoryBackend.closeReservation_markers] at h_live
      simp only [MemoryBackend.withReservation, closeReservation_order h_exclusive h_cap,
        List.mem_append, List.mem_singleton, not_or]
      have h_ne : rid' ≠ rid := by
        rintro rfl
        simp at h_live
      exact ⟨h_forgotten.exclusive rid' h_live, h_ne⟩

end Reservations

end SqliteEngine

end TokenThrottle
