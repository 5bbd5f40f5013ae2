/-
  TokenThrottle.Sqlite.Lifetimes

  How long the rows of a SQLite backend live.  Every row that a call writes is kept for one of
  the engine's TTLs, or for the lifetime of the reservation that the call opens.

  * `KeepsUnexpired` is what every part of a transaction keeps: of the rows it leaves none
    expires before a given horizon.
  * So nothing expires in calls that are closer together than every TTL (`handle_lasts`).
-/
import TokenThrottle.Sqlite.CallRows
import TokenThrottle.Sqlite.Simulation

namespace TokenThrottle

open Theory (Body)

/-! ## Rows -/

/-- Neither the row nor its override expires before the horizon. -/
structure BucketRow.LivesTo (row : BucketRow) (horizon : ℚ) : Prop where
  expiresAt : horizon < row.expiresAt
  override : row.OverrideUnexpired horizon

section Rows

variable {spec : BucketSpec} {ttl : ℕ} {currentTime horizon : ℚ} {reading : Reading}

theorem BucketRow.LivesTo.withState {row : BucketRow} (h_row : row.LivesTo horizon)
    (capacity lastChecked : Option ℚ) (currentTime : ℚ) {expiresAt : ℚ}
    (h_expiresAt : horizon < expiresAt) :
    (row.withState capacity lastChecked currentTime expiresAt).LivesTo horizon :=
  ⟨h_expiresAt, h_row.override⟩

theorem readRow_livesTo {row : Option BucketRow} (h_ttl : horizon < currentTime + ttl)
    (h_row : ∀ r, row = some r → r.LivesTo horizon)
    (h_read : readRow spec ttl row currentTime = .ok reading) :
    reading.row.LivesTo horizon := by
  obtain ⟨_, rfl⟩ | ⟨r, h_some, _, _, _, rfl, _⟩ | ⟨r, _, _, _, _, _, _, rfl⟩ :=
    readRow_cases h_read
  · exact ⟨h_ttl, BucketRow.overrideUnexpired_of_none rfl⟩
  · have h_r := h_row r h_some
    show (r.found currentTime).LivesTo horizon
    unfold BucketRow.found
    split
    · exact ⟨h_r.expiresAt, h_r.override⟩
    · exact h_r
  · exact ⟨h_ttl, BucketRow.overrideUnexpired_of_none rfl⟩

theorem recoverLost_livesTo {suspected : Bool} (h_ttl : horizon < currentTime + ttl)
    (h_reading : reading.row.LivesTo horizon) :
    (recoverLost ttl suspected currentTime reading).row.LivesTo horizon := by
  unfold recoverLost
  split
  · exact h_reading.withState _ _ _ h_ttl
  · exact h_reading

theorem repairFuture_livesTo (h_ttl : horizon < currentTime + ttl)
    (h_reading : reading.row.LivesTo horizon) :
    (repairFuture ttl currentTime reading).1.LivesTo horizon := by
  unfold repairFuture
  split
  · exact h_reading.withState _ _ _ h_ttl
  · exact h_reading

/-- A load leaves a row that lives as long as the one it found, or for the TTL. -/
theorem loadRow_livesTo {suspected writable : Bool} {row : Option BucketRow} {loaded : LoadedRow}
    (h_ttl : horizon < currentTime + ttl) (h_row : ∀ r, row = some r → r.LivesTo horizon)
    (h_load : loadRow spec ttl suspected writable row currentTime = .ok loaded) :
    loaded.row.LivesTo horizon := by
  obtain ⟨reading, h_read, h_finish⟩ := bind_eq_ok h_load
  have h_recovered : (recoverLost ttl suspected currentTime reading).row.LivesTo horizon :=
    recoverLost_livesTo h_ttl (readRow_livesTo h_ttl h_row h_read)
  have h_repaired := repairFuture_livesTo h_ttl h_recovered
  obtain ⟨_, _, _, _, _, _, h_loaded, h_le, _⟩ := finishRow_ok h_finish
  rw [h_loaded]
  exact ⟨h_repaired.expiresAt.trans_le h_le, h_repaired.override⟩

/-- No retention is shorter than the TTL. -/
theorem lt_retained {capacity maxCapacity configuredMaxCapacity : ℚ} {perSeconds : ℕ}
    {retention : ℤ} (h_ttl : horizon < currentTime + ttl)
    (h_retention : debtTtlSeconds capacity ttl perSeconds maxCapacity configuredMaxCapacity =
      .ok retention) : horizon < currentTime + retention := by
  obtain ⟨retained, h_le, h_ok⟩ | h_refused :=
    debtTtlSeconds_cases capacity ttl perSeconds maxCapacity configuredMaxCapacity
  · rw [h_ok] at h_retention
    cases h_retention
    have h_le : (ttl : ℚ) ≤ retention := by exact_mod_cast h_le
    linarith
  · rw [h_refused] at h_retention
    cases h_retention

theorem writeRow_livesTo {row row' : BucketRow} {amount : ℚ}
    (h_ttl : horizon < currentTime + ttl) (h_row : row.LivesTo horizon)
    (h_write : writeRow spec ttl row amount currentTime = .ok row') : row'.LivesTo horizon := by
  obtain ⟨retention, h_retention, h_write⟩ := bind_eq_ok h_write
  cases h_write
  exact h_row.withState _ _ _ (lt_retained h_ttl h_retention)

end Rows

/-! ## Statements -/

namespace Database.Unexpired

variable {db db' : Database} {horizon : ℚ}

/-- A database with fewer rows. -/
theorem of_rows (h_db : db.Unexpired horizon)
    (h_buckets : ∀ key row, db'.buckets key = some row → db.buckets key = some row)
    (h_markers : ∀ key row, db'.acquireMarkers key = some row → db.acquireMarkers key = some row)
    (h_tombstones : ∀ key row, db'.refundTombstones key = some row →
      db.refundTombstones key = some row) : db'.Unexpired horizon where
  bucket key row h_row := h_db.bucket key row (h_buckets key row h_row)
  marker key row h_row := h_db.marker key row (h_markers key row h_row)
  tombstone key row h_row := h_db.tombstone key row (h_tombstones key row h_row)

/-- What has not expired by a later reading of the clock has not expired now. -/
theorem earlier {currentTime : ℚ} (h_db : db.Unexpired horizon) (h_le : currentTime ≤ horizon) :
    db.Unexpired currentTime where
  bucket key row h_row := by
    obtain ⟨h_expires, h_override⟩ := h_db.bucket key row h_row
    exact ⟨h_le.trans_lt h_expires,
      fun expiresAt h_expiresAt => h_le.trans_lt (h_override expiresAt h_expiresAt)⟩
  marker key row h_row := h_le.trans_lt (h_db.marker key row h_row)
  tombstone key row h_row := h_le.trans_lt (h_db.tombstone key row h_row)

theorem livesTo (h_db : db.Unexpired horizon) {key : BucketKey} {row : BucketRow}
    (h_row : db.buckets key = some row) : row.LivesTo horizon :=
  ⟨(h_db.bucket key row h_row).1, (h_db.bucket key row h_row).2⟩

theorem dropMarker (h_db : db.Unexpired horizon) (key : ReservationKey) :
    (db.putMarker key none).Unexpired horizon := by
  refine h_db.of_rows (fun _ _ h_row => h_row) (fun key' row h_row => ?_) fun _ _ h_row => h_row
  simp only [Database.putMarker, Function.update_apply] at h_row
  split at h_row
  · cases h_row
  · exact h_row

theorem putTombstone (h_db : db.Unexpired horizon) (key : ReservationKey)
    {row : Option TombstoneRow} (h_row : ∀ r, row = some r → horizon < r.expiresAt) :
    (db.putTombstone key row).Unexpired horizon where
  bucket := h_db.bucket
  marker := h_db.marker
  tombstone key' row' h_found := by
    simp only [Database.putTombstone, Function.update_apply] at h_found
    split at h_found
    · exact h_row row' h_found
    · exact h_db.tombstone key' row' h_found

theorem updateBucket (h_db : db.Unexpired horizon) (key : BucketKey) {f : BucketRow → BucketRow}
    (h_row : ∀ row, row.LivesTo horizon → (f row).LivesTo horizon) :
    (db.updateBucket key f).Unexpired horizon where
  bucket key' row' h_found := by
    simp only [Database.updateBucket, Function.update_apply] at h_found
    split at h_found
    · obtain ⟨row, h_some, rfl⟩ := Option.map_eq_some_iff.mp h_found
      have h_lives := h_row row (h_db.livesTo h_some)
      exact ⟨h_lives.expiresAt, h_lives.override⟩
    · exact h_db.bucket key' row' h_found
  marker := h_db.marker
  tombstone := h_db.tombstone

end Database.Unexpired

/-- Nothing that the body leaves expires before the horizon. -/
def KeepsUnexpired (horizon : ℚ) (s s' : TxnState) : Prop :=
  s.db.Unexpired horizon → s'.db.Unexpired horizon

namespace SqliteEngine

variable {e : SqliteEngine} {input : TxnInput} {horizon currentTime : ℚ} {s s' : TxnState}

/-- What the engine writes at a time is kept until after the horizon. -/
structure Outlasts (e : SqliteEngine) (currentTime horizon : ℚ) : Prop where
  bucketTtl : horizon < currentTime + e.bucketTtlSeconds
  refundDedupTtl : horizon < currentTime + e.refundDedupTtlSeconds
  overrideTtl : horizon < currentTime + e.overrideTtlSeconds

theorem Outlasts.later {later : ℚ} (h_outlasts : e.Outlasts currentTime horizon)
    (h_le : currentTime ≤ later) : e.Outlasts later horizon where
  bucketTtl := h_outlasts.bucketTtl.trans_le (add_le_add_left h_le _)
  refundDedupTtl := h_outlasts.refundDedupTtl.trans_le (add_le_add_left h_le _)
  overrideTtl := h_outlasts.overrideTtl.trans_le (add_le_add_left h_le _)

theorem bind_keeps {α β : Type} {body : Txn α} {next : α → Txn β}
    (h_body : body.Ensures (KeepsUnexpired horizon))
    (h_next : ∀ a, (next a).Ensures (KeepsUnexpired horizon)) :
    (body >>= next).Ensures (KeepsUnexpired horizon) :=
  Body.Ensures.bind (fun _ _ _ h_first h_second h_db => h_second (h_first h_db)) h_body h_next

theorem pure_keeps {α : Type} (a : α) : (pure a : Txn α).Ensures (KeepsUnexpired horizon) :=
  Body.Ensures.pure (fun _ h_db => h_db) a

/-- A check that passes is one on which the rest may rely. -/
theorem lift_bind_keeps {α β : Type} {x : Except BackendError α} {next : α → Txn β}
    (h_next : ∀ a, x = .ok a → (next a).Ensures (KeepsUnexpired horizon)) :
    (Body.lift x >>= next).Ensures (KeepsUnexpired horizon) := by
  intro s b s' h_ok
  obtain ⟨a, s₁, h_lift, h_run⟩ := Body.of_bind_ok h_ok
  obtain ⟨h_a, rfl⟩ := Body.of_lift_ok h_lift
  exact h_next a h_a _ _ _ h_run

theorem when_keeps {condition : Bool} {body : Txn Unit}
    (h_body : body.Ensures (KeepsUnexpired horizon)) :
    (Body.when condition body).Ensures (KeepsUnexpired horizon) :=
  Body.Ensures.when (fun _ h_db => h_db) fun _ => h_body

theorem query_keeps {α : Type} (f : Database → α) :
    (query f).Ensures (KeepsUnexpired horizon) := by
  intro s a s' h_ok h_db
  rw [(of_query_ok h_ok).2]
  exact h_db

/-- What is read comes from a database of which nothing expires before the horizon. -/
theorem query_bind_keeps {α β : Type} {f : Database → α} {next : α → Txn β}
    (h_next : ∀ db : Database, db.Unexpired horizon →
      (next (f db)).Ensures (KeepsUnexpired horizon)) :
    (query f >>= next).Ensures (KeepsUnexpired horizon) := by
  intro s b s' h_ok h_db
  obtain ⟨a, s₁, h_query, h_run⟩ := Body.of_bind_ok h_ok
  obtain ⟨rfl, h_s₁⟩ := of_query_ok h_query
  rw [← h_s₁] at h_db h_run
  exact h_next _ h_db _ _ _ h_run h_db

theorem execute_keeps {f : Database → Database}
    (h_f : ∀ db, db.Unexpired horizon → (f db).Unexpired horizon) :
    (execute f).Ensures (KeepsUnexpired horizon) := by
  intro s u s' h_ok h_db
  rw [of_execute_ok h_ok]
  exact h_f s.db h_db

theorem confirmState_keeps (id : BucketId) (currentTime : ℚ) :
    (confirmState id currentTime).Ensures (KeepsUnexpired horizon) := by
  intro s u s' h_ok h_db
  rw [of_confirmState_ok h_ok]
  exact h_db

/-! ## Parts of the transactions -/

theorem prune_keeps : (prune input).Ensures (KeepsUnexpired horizon) := by
  refine bind_keeps (execute_keeps fun db h_db => ?_) fun _ =>
    bind_keeps (execute_keeps fun db h_db => ?_) fun _ => execute_keeps fun db h_db => ?_
  · exact h_db.of_rows (fun _ _ h_row => h_row)
      (fun _ _ h_row => (Option.filter_eq_some_iff.mp h_row).1) fun _ _ h_row => h_row
  · exact h_db.of_rows (fun _ _ h_row => h_row) (fun _ _ h_row => h_row)
      fun _ _ h_row => (Option.filter_eq_some_iff.mp h_row).1
  · exact h_db.of_rows (fun _ _ h_row => (Option.filter_eq_some_iff.mp h_row).1)
      (fun _ _ h_row => h_row) fun _ _ h_row => h_row

theorem loadStates_keeps (h_outlasts : e.Outlasts currentTime horizon) (ids : List BucketId) :
    (e.loadStates currentTime ids).Ensures (KeepsUnexpired horizon) := by
  induction ids with
  | nil => exact pure_keeps _
  | cons id ids ih =>
    refine query_bind_keeps fun db h_db => lift_bind_keeps fun loaded h_load => ?_
    have h_lives : loaded.row.LivesTo horizon :=
      loadRow_livesTo h_outlasts.bucketTtl (fun r h_row => h_db.livesTo h_row) h_load
    refine bind_keeps (execute_keeps fun _ h_db => ?_) fun _ =>
      bind_keeps (when_keeps (confirmState_keeps _ _)) fun _ =>
        bind_keeps ih fun _ => pure_keeps _
    exact h_db.putBucket _ h_lives.expiresAt h_lives.override

theorem writeCapacities_keeps (h_outlasts : e.Outlasts currentTime horizon)
    (capacities : Capacities) (ids : List BucketId) :
    (e.writeCapacities capacities currentTime ids).Ensures (KeepsUnexpired horizon) := by
  induction ids with
  | nil => exact pure_keeps _
  | cons id ids ih =>
    refine query_bind_keeps fun db h_db => ?_
    split
    · exact raise_ensures _
    · rename_i row h_row
      refine lift_bind_keeps fun row' h_write => ?_
      have h_lives : row'.LivesTo horizon :=
        writeRow_livesTo h_outlasts.bucketTtl (h_db.livesTo h_row) h_write
      refine bind_keeps (execute_keeps fun _ h_db => ?_) fun _ =>
        bind_keeps (confirmState_keeps _ _) fun _ => ih
      exact h_db.putBucket _ h_lives.expiresAt h_lives.override

theorem readLiveMarker_keeps (key : ReservationKey) :
    (readLiveMarker key currentTime).Ensures (KeepsUnexpired horizon) :=
  bind_keeps (query_keeps _) fun _ =>
    bind_keeps (when_keeps (execute_keeps fun _ h_db => h_db.dropMarker _)) fun _ => pure_keeps _

theorem readLiveTombstone_keeps (key : ReservationKey) :
    (readLiveTombstone key currentTime).Ensures (KeepsUnexpired horizon) :=
  bind_keeps (query_keeps _) fun _ =>
    bind_keeps (when_keeps (execute_keeps fun _ h_db => h_db.putTombstone _ nofun)) fun _ =>
      pure_keeps _

theorem raiseIfDuplicateAcquire_keeps (reservationId : Option ReservationId)
    (usage : FrozenUsage) :
    (e.raiseIfDuplicateAcquire reservationId currentTime usage).Ensures
      (KeepsUnexpired horizon) := by
  cases reservationId with
  | none => exact pure_keeps _
  | some rid =>
    refine bind_keeps (readLiveMarker_keeps _) fun marker =>
      bind_keeps (readLiveTombstone_keeps _) fun tombstone => ?_
    split
    · split
      · exact pure_keeps _
      · exact raise_ensures _
    · exact raise_ensures _
    · exact pure_keeps _

theorem insertMarker_keeps {reservationId : Option ReservationId} {lifetime : Option ℚ}
    (h_lifetime : ∀ seconds, lifetime = some seconds → horizon < currentTime + seconds)
    (usage : FrozenUsage) :
    (e.insertMarker reservationId usage lifetime currentTime).Ensures
      (KeepsUnexpired horizon) := by
  unfold insertMarker
  split
  · exact pure_keeps _
  · exact raise_ensures _
  · split
    · exact raise_ensures _
    · refine bind_keeps (query_keeps _) fun marker => ?_
      split
      · exact raise_ensures _
      · exact execute_keeps fun _ h_db => h_db.putMarker _ (h_lifetime _ rfl)

theorem authorizeRefund_keeps (refund : RefundRequest) :
    (e.authorizeRefund refund currentTime).Ensures (KeepsUnexpired horizon) := by
  unfold authorizeRefund
  split
  · exact pure_keeps _
  · split
    · refine bind_keeps (readLiveTombstone_keeps _) fun tombstone => ?_
      split
      · exact raise_ensures _
      · refine bind_keeps (readLiveMarker_keeps _) fun marker => ?_
        split
        · exact raise_ensures _
        · split
          · exact pure_keeps _
          · exact raise_ensures _
    · exact raise_ensures _

theorem buryMarker_keeps (h_outlasts : e.Outlasts currentTime horizon)
    (reservationId : Option ReservationId) :
    (e.buryMarker reservationId currentTime).Ensures (KeepsUnexpired horizon) := by
  unfold buryMarker
  split
  · exact pure_keeps _
  · refine bind_keeps (query_keeps _) fun marker => ?_
    split
    · exact raise_ensures _
    · refine bind_keeps (execute_keeps fun _ h_db => h_db.dropMarker _) fun _ =>
        bind_keeps (query_keeps _) fun tombstone => ?_
      split
      · exact raise_ensures _
      · refine execute_keeps fun _ h_db => h_db.putTombstone _ fun row h_row => ?_
        cases h_row
        exact h_outlasts.refundDedupTtl

theorem clearOverride_keeps {id : BucketId} {retention : ℤ}
    (h_retention : horizon < currentTime + retention) :
    (e.clearOverride id currentTime retention).Ensures (KeepsUnexpired horizon) :=
  execute_keeps fun _ h_db => h_db.updateBucket _ fun _ _ =>
    ⟨h_retention, BucketRow.overrideUnexpired_of_none rfl⟩

theorem clearOverrides_keeps (h_outlasts : e.Outlasts currentTime horizon)
    (states : BucketId → BucketState) (configuredMaxCapacities : BucketId → Option ℚ)
    (ids : List BucketId) :
    (e.clearOverrides states configuredMaxCapacities currentTime ids).Ensures
      (KeepsUnexpired horizon) := by
  induction ids with
  | nil => exact pure_keeps _
  | cons id ids ih =>
    exact lift_bind_keeps fun retention h_retention =>
      bind_keeps (clearOverride_keeps (lt_retained h_outlasts.bucketTtl h_retention)) fun _ => ih

/-! ## The transactions -/

section Transactions

variable {e' : SqliteEngine} {db db' : Database}

theorem transaction_keeps {α : Type} {body : Txn α} {a : α}
    (h_body : body.Ensures (KeepsUnexpired horizon)) (h_db : db.Unexpired horizon)
    (h_ok : e.transaction input db body = (.ok a, e', db')) : db'.Unexpired horizon := by
  obtain ⟨s, h_run, rfl⟩ := transaction_ok h_ok
  exact h_body _ a s h_run h_db

theorem tryConsume_keeps {usage : FrozenUsage} {reservationId : Option ReservationId}
    {lifetime : Option ℚ} {result : TryConsumeResult}
    (h_outlasts : e.Outlasts input.currentTime horizon)
    (h_lifetime : ∀ seconds, lifetime = some seconds → horizon < input.currentTime + seconds)
    (h_db : db.Unexpired horizon)
    (h_ok : e.tryConsume input db usage reservationId lifetime = (.ok result, e', db')) :
    db'.Unexpired horizon := by
  refine transaction_keeps (bind_keeps prune_keeps fun _ =>
    bind_keeps (raiseIfDuplicateAcquire_keeps _ _) fun replayed =>
      bind_keeps (loadStates_keeps h_outlasts _) fun states => ?_) h_db h_ok
  split
  · exact pure_keeps _
  · dsimp only
    split
    · exact raise_ensures _
    · split
      · exact pure_keeps _
      · exact bind_keeps (writeCapacities_keeps h_outlasts _ _) fun _ =>
          bind_keeps (insertMarker_keeps h_lifetime _) fun _ => pure_keeps _

theorem consume_keeps {usage : FrozenUsage} {reservationId : Option ReservationId}
    {lifetime : Option ℚ} {result : CapacityResult}
    (h_outlasts : e.Outlasts input.currentTime horizon)
    (h_lifetime : ∀ seconds, lifetime = some seconds → horizon < input.currentTime + seconds)
    (h_db : db.Unexpired horizon)
    (h_ok : e.consume input db usage reservationId lifetime = (.ok result, e', db')) :
    db'.Unexpired horizon := by
  refine transaction_keeps (bind_keeps prune_keeps fun _ =>
    bind_keeps (raiseIfDuplicateAcquire_keeps _ _) fun replayed =>
      bind_keeps (loadStates_keeps h_outlasts _) fun states => ?_) h_db h_ok
  split
  · exact pure_keeps _
  · exact bind_keeps (writeCapacities_keeps h_outlasts _ _) fun _ =>
      bind_keeps (insertMarker_keeps h_lifetime _) fun _ => pure_keeps _

theorem refund_keeps {refund : RefundRequest} {refundBucketIds : Finset BucketId}
    {result : RefundResult} (h_outlasts : e.Outlasts input.currentTime horizon)
    (h_db : db.Unexpired horizon)
    (h_ok : e.refund input db refund refundBucketIds = (.ok result, e', db')) :
    db'.Unexpired horizon := by
  unfold SqliteEngine.refund at h_ok
  split at h_ok
  · cases h_ok
  · refine transaction_keeps (bind_keeps prune_keeps fun _ =>
      bind_keeps (authorizeRefund_keeps _) fun _ =>
        bind_keeps (loadStates_keeps h_outlasts _) fun states => ?_) h_db h_ok
    split
    · exact raise_ensures _
    · exact bind_keeps (writeCapacities_keeps h_outlasts _ _) fun _ =>
        bind_keeps (buryMarker_keeps h_outlasts _) fun _ => pure_keeps _

theorem cleanupConsumption_keeps {usage : FrozenUsage} {bucketIds : Finset BucketId}
    {reservationId : Option ReservationId} {u : Unit}
    (h_outlasts : e.Outlasts input.currentTime horizon) (h_db : db.Unexpired horizon)
    (h_ok : e.cleanupConsumption input db usage bucketIds reservationId = (.ok u, e', db')) :
    db'.Unexpired horizon := by
  refine transaction_keeps (bind_keeps prune_keeps fun _ => bind_keeps ?_ fun absent => ?_)
    h_db h_ok
  · cases reservationId with
    | none => exact pure_keeps _
    | some rid => exact query_keeps _
  · split
    · exact raise_ensures _
    · refine bind_keeps (loadStates_keeps h_outlasts _) fun states =>
        bind_keeps (writeCapacities_keeps h_outlasts _ _) fun _ => ?_
      cases reservationId with
      | none => exact pure_keeps _
      | some rid => exact execute_keeps fun _ h_db => h_db.dropMarker _

theorem setMaxCapacity_keeps {id : BucketId} {value : ℚ} {u : Unit}
    (h_outlasts : e.Outlasts input.currentTime horizon) (h_db : db.Unexpired horizon)
    (h_ok : e.setMaxCapacity input db id value = (.ok u, e', db')) : db'.Unexpired horizon := by
  unfold SqliteEngine.setMaxCapacity at h_ok
  split at h_ok
  · cases h_ok
  · split at h_ok
    · cases h_ok
    · refine transaction_keeps (bind_keeps prune_keeps fun _ =>
        bind_keeps (loadStates_keeps h_outlasts _) fun states =>
          lift_bind_keeps fun retention h_retention => ?_) h_db h_ok
      have h_kept := lt_retained h_outlasts.bucketTtl h_retention
      refine bind_keeps (when_keeps (writeCapacities_keeps h_outlasts _ _)) fun _ =>
        execute_keeps fun _ h_db => h_db.updateBucket _ fun _ _ => ⟨h_kept, ?_⟩
      rintro _ ⟨⟩
      exact h_outlasts.overrideTtl

theorem applyConfiguredMaxCapacity_keeps {id : BucketId} {value : ℚ} {u : Unit}
    (h_outlasts : e.Outlasts input.currentTime horizon) (h_db : db.Unexpired horizon)
    (h_ok : e.applyConfiguredMaxCapacity input db id value = (.ok u, e', db')) :
    db'.Unexpired horizon := by
  unfold SqliteEngine.applyConfiguredMaxCapacity at h_ok
  split at h_ok
  · cases h_ok
  · split at h_ok
    · cases h_ok
    · obtain ⟨e₁, h_ok, _⟩ := of_takeOver_ok h_ok
      refine transaction_keeps (bind_keeps prune_keeps fun _ =>
        bind_keeps (loadStates_keeps h_outlasts _) fun states =>
          lift_bind_keeps fun retention h_retention =>
            bind_keeps (when_keeps (writeCapacities_keeps h_outlasts _ _)) fun _ => ?_) h_db h_ok
      exact clearOverride_keeps (lt_retained h_outlasts.bucketTtl h_retention)

theorem clearMaxCapacityOverrides_keeps {bucketIds : Finset BucketId}
    {configuredMaxCapacities : BucketId → Option ℚ} {u : Unit}
    (h_outlasts : e.Outlasts input.currentTime horizon) (h_db : db.Unexpired horizon)
    (h_ok : e.clearMaxCapacityOverrides input db bucketIds configuredMaxCapacities =
      (.ok u, e', db')) : db'.Unexpired horizon := by
  unfold SqliteEngine.clearMaxCapacityOverrides at h_ok
  dsimp only at h_ok
  split at h_ok
  · cases h_ok
    exact h_db
  · exact transaction_keeps (bind_keeps prune_keeps fun _ =>
      bind_keeps (loadStates_keeps h_outlasts _) fun states =>
        bind_keeps (writeCapacities_keeps h_outlasts _ _) fun _ =>
          clearOverrides_keeps h_outlasts _ _ _) h_db h_ok

end Transactions

end SqliteEngine

/-! ## Calls -/

/-- The lifetime of the reservation that a request opens. -/
def EngineRequest.lifetime : EngineRequest → Option ℚ
  | .tryConsume _ _ lifetime | .consume _ _ lifetime => lifetime
  | _ => none

def Request.lifetime : Request → Option ℚ
  | .awaitForCapacity _ _ lifetime | .consumeCapacity _ _ lifetime => lifetime
  | _ => none

namespace SqliteEngine

variable {e : SqliteEngine} {input : TxnInput} {horizon : ℚ} {db : Database}

/-- A call leaves no row that expires before the horizon, if it was handed none. -/
theorem call_unexpired (h_outlasts : e.Outlasts input.currentTime horizon)
    {request : EngineRequest} (h_lifetime : ∀ seconds, request.lifetime = some seconds →
      horizon < input.currentTime + seconds) (h_db : db.Unexpired horizon) :
    (e.call input db request).2.2.Unexpired horizon := by
  obtain ⟨result, e', db', h_call⟩ : ∃ result e' db', e.call input db request =
    (result, e', db') := ⟨_, _, _, rfl⟩
  rw [h_call]
  cases result with
  | error error =>
    rw [(call_error h_call).2]
    exact h_db
  | ok outcome =>
    cases request with
    | tryConsume usage reservationId lifetime =>
      obtain ⟨_, h_ok, _⟩ := of_answer_ok h_call
      exact tryConsume_keeps h_outlasts h_lifetime h_db h_ok
    | consume usage reservationId lifetime =>
      obtain ⟨_, h_ok, _⟩ := of_answer_ok h_call
      exact consume_keeps h_outlasts h_lifetime h_db h_ok
    | refund refund refundBucketIds =>
      obtain ⟨_, h_ok, _⟩ := of_answer_ok h_call
      exact refund_keeps h_outlasts h_db h_ok
    | cleanupConsumption usage bucketIds reservationId =>
      obtain ⟨_, h_ok, _⟩ := of_answer_ok h_call
      exact cleanupConsumption_keeps h_outlasts h_db h_ok
    | setMaxCapacity id value =>
      obtain ⟨_, h_ok, _⟩ := of_answer_ok h_call
      exact setMaxCapacity_keeps h_outlasts h_db h_ok
    | applyConfiguredMaxCapacity id value =>
      obtain ⟨_, h_ok, _⟩ := of_answer_ok h_call
      exact applyConfiguredMaxCapacity_keeps h_outlasts h_db h_ok
    | clearMaxCapacityOverrides bucketIds configuredMaxCapacities =>
      obtain ⟨_, h_ok, _⟩ := of_answer_ok h_call
      exact clearMaxCapacityOverrides_keeps h_outlasts h_db h_ok

/-- No call changes the TTLs of its engine. -/
theorem call_outlasts {currentTime : ℚ} (h_outlasts : e.Outlasts currentTime horizon)
    (input : TxnInput) (db : Database) (request : EngineRequest) :
    (e.call input db request).2.1.Outlasts currentTime horizon := by
  obtain ⟨result, e', db', h_call⟩ : ∃ result e' db', e.call input db request =
    (result, e', db') := ⟨_, _, _, rfl⟩
  rw [h_call]
  cases result with
  | ok outcome =>
    obtain ⟨_, _, rfl, _⟩ := call_rows h_call
    exact ⟨h_outlasts.bucketTtl, h_outlasts.refundDedupTtl, h_outlasts.overrideTtl⟩
  | error error =>
    obtain ⟨rfl, _⟩ := call_error h_call
    exact h_outlasts

end SqliteEngine

namespace SqliteBackend

variable {b : SqliteBackend} {input : TxnInput} {horizon : ℚ}

/-- Nothing that the backend holds expires before the horizon, and nothing that it writes
    from now on does. -/
structure Lasts (b : SqliteBackend) (currentTime horizon : ℚ) : Prop where
  unexpired : b.db.Unexpired horizon
  outlasts : b.engine.Outlasts currentTime horizon

theorem Lasts.later {currentTime later : ℚ} (h_lasts : b.Lasts currentTime horizon)
    (h_le : currentTime ≤ later) : b.Lasts later horizon :=
  ⟨h_lasts.unexpired, h_lasts.outlasts.later h_le⟩

theorem run_lasts {request : EngineRequest} (h_lasts : b.Lasts input.currentTime horizon)
    (h_lifetime : ∀ seconds, request.lifetime = some seconds →
      horizon < input.currentTime + seconds) :
    (b.run input request).2.Lasts input.currentTime horizon :=
  ⟨SqliteEngine.call_unexpired h_lasts.outlasts h_lifetime h_lasts.unexpired,
    SqliteEngine.call_outlasts h_lasts.outlasts _ _ _⟩

theorem checked_lasts {α : Type} {check : Except BackendError α}
    {next : α → Except BackendError Outcome × SqliteBackend} {currentTime : ℚ}
    (h_lasts : b.Lasts currentTime horizon) (h_next : ∀ a, (next a).2.Lasts currentTime horizon) :
    (b.checked check next).2.Lasts currentTime horizon := by
  unfold checked
  split
  · exact h_next _
  · exact h_lasts

/-- A request that opens no reservation for less time leaves nothing that expires before the
    horizon. -/
theorem handle_lasts {request : Request} (h_lasts : b.Lasts input.currentTime horizon)
    (h_lifetime : ∀ seconds, request.lifetime = some seconds →
      horizon < input.currentTime + seconds) :
    (b.handle input request).2.Lasts input.currentTime horizon := by
  cases request with
  | awaitForCapacity usage reservationId lifetime =>
    exact checked_lasts h_lasts fun _ => run_lasts h_lasts h_lifetime
  | consumeCapacity usage reservationId lifetime =>
    exact checked_lasts h_lasts fun _ => run_lasts h_lasts h_lifetime
  | refundCapacityForBuckets refund =>
    refine checked_lasts h_lasts fun _ => checked_lasts h_lasts fun _ => ?_
    split
    · exact h_lasts
    · exact run_lasts h_lasts nofun
  | refundCancelledConsumption usage reservationId => exact run_lasts h_lasts nofun
  | setMaxCapacity id value => exact checked_lasts h_lasts fun _ => run_lasts h_lasts nofun
  | applyConfiguredMaxCapacity id value =>
    exact checked_lasts h_lasts fun _ => run_lasts h_lasts nofun

end SqliteBackend

end TokenThrottle
