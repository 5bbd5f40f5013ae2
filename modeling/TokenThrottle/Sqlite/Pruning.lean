/-
  TokenThrottle.Sqlite.Pruning

  Two runs of the same calls that differ in the expired rows their `_prune`s happen to
  delete.  An expired row behaves like an absent one wherever its expiry is checked again;
  `cleanup_consumption` asks for the marker row alone.

  * `SameUnexpired` relates two databases that hold the same rows once expired ones are
    left out; it lasts while time goes on.
  * Inside a transaction the runs also agree on the very rows they have read or written.
-/
import TokenThrottle.Sqlite.RowSteps
import TokenThrottle.Sqlite.Snapshot
import TokenThrottle.Theory.Runs

namespace TokenThrottle

open Theory (Body atomically Run Steps guard steps_guard_iff exists_run_of_exec)

/-! ## Databases without their expired rows -/

/-- What a load takes a stored row for. -/
def BucketRow.live (row : BucketRow) (currentTime : ℚ) : Bool :=
  currentTime < row.expiresAt ∨ row.overrideLive currentTime

theorem BucketRow.live_of_later {row : BucketRow} {currentTime later : ℚ}
    (h_later : currentTime ≤ later) (h_live : row.live later = true) :
    row.live currentTime = true := by
  unfold BucketRow.live at h_live ⊢
  rw [decide_eq_true_iff] at h_live ⊢
  refine h_live.imp h_later.trans_lt fun h_override => ?_
  obtain ⟨value, expiresAt, h_value, h_expires, h_lt⟩ := BucketRow.overrideLive_iff.mp h_override
  exact BucketRow.overrideLive_iff.mpr ⟨value, expiresAt, h_value, h_expires, h_later.trans_lt h_lt⟩

/-- The row of a bucket that a load sees. -/
def Database.liveBucket (db : Database) (currentTime : ℚ) (key : BucketKey) : Option BucketRow :=
  (db.buckets key).filter (·.live currentTime)

def Database.liveMarker (db : Database) (currentTime : ℚ) (key : ReservationKey) :
    Option MarkerRow :=
  (db.acquireMarkers key).filter (currentTime < ·.expiresAt)

def Database.liveTombstone (db : Database) (currentTime : ℚ) (key : ReservationKey) :
    Option TombstoneRow :=
  (db.refundTombstones key).filter (currentTime < ·.expiresAt)

/-- The two databases hold the same rows, expired ones aside. -/
structure SameUnexpired (currentTime : ℚ) (db db' : Database) : Prop where
  bucket : ∀ key, db.liveBucket currentTime key = db'.liveBucket currentTime key
  marker : ∀ key, db.liveMarker currentTime key = db'.liveMarker currentTime key
  tombstone : ∀ key, db.liveTombstone currentTime key = db'.liveTombstone currentTime key

/-- A filter sees nothing of a weaker one before it. -/
theorem filter_filter_of_imp {ρ : Type} {p q : ρ → Bool} (h_imp : ∀ r, q r = true → p r = true)
    (row : Option ρ) : (row.filter p).filter q = row.filter q := by
  rw [Option.filter_filter]
  congr 1
  funext r
  cases h_q : q r with
  | true => simp [h_imp r h_q]
  | false => simp

theorem filter_eq_of_imp {ρ : Type} {row row' : Option ρ} {p q : ρ → Bool}
    (h_imp : ∀ r, q r = true → p r = true) (h_same : row.filter p = row'.filter p) :
    row.filter q = row'.filter q := by
  rw [← filter_filter_of_imp h_imp row, ← filter_filter_of_imp h_imp row', h_same]

namespace SameUnexpired

variable {currentTime now : ℚ} {db db' : Database}

theorem refl (currentTime : ℚ) (db : Database) : SameUnexpired currentTime db db :=
  ⟨fun _ => rfl, fun _ => rfl, fun _ => rfl⟩

theorem symm (h_same : SameUnexpired currentTime db db') : SameUnexpired currentTime db' db :=
  ⟨fun key => (h_same.bucket key).symm, fun key => (h_same.marker key).symm,
    fun key => (h_same.tombstone key).symm⟩

theorem trans {db'' : Database} (h_first : SameUnexpired currentTime db db')
    (h_then : SameUnexpired currentTime db' db'') : SameUnexpired currentTime db db'' :=
  ⟨fun key => (h_first.bucket key).trans (h_then.bucket key),
    fun key => (h_first.marker key).trans (h_then.marker key),
    fun key => (h_first.tombstone key).trans (h_then.tombstone key)⟩

theorem later (h_same : SameUnexpired currentTime db db') (h_later : currentTime ≤ now) :
    SameUnexpired now db db' where
  bucket key :=
    filter_eq_of_imp (fun _ h_live => BucketRow.live_of_later h_later h_live) (h_same.bucket key)
  marker key := by
    refine filter_eq_of_imp (fun row h_live => ?_) (h_same.marker key)
    exact decide_eq_true (h_later.trans_lt (of_decide_eq_true h_live))
  tombstone key := by
    refine filter_eq_of_imp (fun row h_live => ?_) (h_same.tombstone key)
    exact decide_eq_true (h_later.trans_lt (of_decide_eq_true h_live))

end SameUnexpired

/-- A load looks at a row only while it is live. -/
theorem loadRow_live (spec : BucketSpec) (ttl : ℕ) (suspected writable : Bool)
    (row : Option BucketRow) (currentTime : ℚ) :
    loadRow spec ttl suspected writable row currentTime =
      loadRow spec ttl suspected writable (row.filter (·.live currentTime)) currentTime := by
  have h_read : readRow spec ttl row currentTime =
      readRow spec ttl (row.filter (·.live currentTime)) currentTime := by
    have h_twice : (row.filter (·.live currentTime)).filter (·.live currentTime) =
        row.filter (·.live currentTime) := filter_filter_of_imp (fun _ h => h) row
    have h_def : ∀ row : Option BucketRow, (row.filter fun row =>
        decide (currentTime < row.expiresAt ∨ row.overrideLive currentTime = true)) =
          row.filter (·.live currentTime) := fun _ => rfl
    unfold readRow
    rw [h_def, h_def, h_twice]
  unfold loadRow
  rw [h_read]

/-! ## Transactions side by side -/

/-- Two transactions that have run alike so far.  The sets are the keys of the rows that
    are the very same in both. -/
structure Alike (currentTime : ℚ) (buckets : Set BucketKey) (markers tombstones : Set ReservationKey)
    (s s' : TxnState) : Prop where
  unexpired : SameUnexpired currentTime s.db s'.db
  pending : s.pendingStateConfirmations = s'.pendingStateConfirmations
  running : s.interruptAfter = none
  running' : s'.interruptAfter = none
  bucket : ∀ key ∈ buckets, s.db.buckets key = s'.db.buckets key
  marker : ∀ key ∈ markers, s.db.acquireMarkers key = s'.db.acquireMarkers key
  tombstone : ∀ key ∈ tombstones, s.db.refundTombstones key = s'.db.refundTombstones key

/-- The same row written in two tables, under any reading `φ` of them. -/
theorem update_alike {κ ρ τ : Type} [DecidableEq κ] {rows rows' : κ → ρ} {key key' : κ} (row : ρ)
    (φ : ρ → τ) (h_same : key' = key ∨ φ (rows key') = φ (rows' key')) :
    φ (Function.update rows key row key') = φ (Function.update rows' key row key') := by
  by_cases h_eq : key' = key
  · rw [h_eq, Function.update_self, Function.update_self]
  · rw [Function.update_of_ne h_eq, Function.update_of_ne h_eq]
    exact h_same.resolve_left h_eq

namespace Alike

variable {currentTime : ℚ} {buckets buckets' : Set BucketKey}
  {markers tombstones markers' tombstones' : Set ReservationKey} {s s' : TxnState}

theorem mono (h_alike : Alike currentTime buckets markers tombstones s s')
    (h_buckets : buckets' ⊆ buckets) (h_markers : markers' ⊆ markers)
    (h_tombstones : tombstones' ⊆ tombstones) :
    Alike currentTime buckets' markers' tombstones' s s' :=
  { h_alike with
    bucket := fun key h_mem => h_alike.bucket key (h_buckets h_mem)
    marker := fun key h_mem => h_alike.marker key (h_markers h_mem)
    tombstone := fun key h_mem => h_alike.tombstone key (h_tombstones h_mem) }

/-- A bucket row written in both becomes the same. -/
theorem setBucket (h_alike : Alike currentTime buckets markers tombstones s s') (key : BucketKey)
    (row : Option BucketRow) :
    Alike currentTime (insert key buckets) markers tombstones
      { s with db := { s.db with buckets := Function.update s.db.buckets key row } }
      { s' with db := { s'.db with buckets := Function.update s'.db.buckets key row } } where
  unexpired :=
    { bucket := fun key' => update_alike row (Option.filter _) (.inr (h_alike.unexpired.bucket key'))
      marker := h_alike.unexpired.marker
      tombstone := h_alike.unexpired.tombstone }
  pending := h_alike.pending
  running := h_alike.running
  running' := h_alike.running'
  bucket key' h_mem :=
    update_alike row (fun r => r) (h_mem.imp (fun h_eq => h_eq) (h_alike.bucket key'))
  marker := h_alike.marker
  tombstone := h_alike.tombstone

/-- A marker row written or deleted in both becomes the same. -/
theorem putMarker (h_alike : Alike currentTime buckets markers tombstones s s')
    (key : ReservationKey) (row : Option MarkerRow) :
    Alike currentTime buckets (insert key markers) tombstones
      { s with db := s.db.putMarker key row } { s' with db := s'.db.putMarker key row } where
  unexpired :=
    { bucket := h_alike.unexpired.bucket
      marker := fun key' => update_alike row (Option.filter _) (.inr (h_alike.unexpired.marker key'))
      tombstone := h_alike.unexpired.tombstone }
  pending := h_alike.pending
  running := h_alike.running
  running' := h_alike.running'
  bucket := h_alike.bucket
  marker key' h_mem :=
    update_alike row (fun r => r) (h_mem.imp (fun h_eq => h_eq) (h_alike.marker key'))
  tombstone := h_alike.tombstone

/-- A tombstone row written or deleted in both becomes the same. -/
theorem putTombstone (h_alike : Alike currentTime buckets markers tombstones s s')
    (key : ReservationKey) (row : Option TombstoneRow) :
    Alike currentTime buckets markers (insert key tombstones)
      { s with db := s.db.putTombstone key row } { s' with db := s'.db.putTombstone key row } where
  unexpired :=
    { bucket := h_alike.unexpired.bucket
      marker := h_alike.unexpired.marker
      tombstone := fun key' =>
        update_alike row (Option.filter _) (.inr (h_alike.unexpired.tombstone key')) }
  pending := h_alike.pending
  running := h_alike.running
  running' := h_alike.running'
  bucket := h_alike.bucket
  marker := h_alike.marker
  tombstone key' h_mem :=
    update_alike row (fun r => r) (h_mem.imp (fun h_eq => h_eq) (h_alike.tombstone key'))

/-! ### Statements -/

/-- A reading that comes out the same. -/
theorem query {α : Type} {f : Database → α}
    (h_alike : Alike currentTime buckets markers tombstones s s') (h_same : f s.db = f s'.db) :
    Body.Couples (fun a t t' => a = f s.db ∧ Alike currentTime buckets markers tombstones t t')
      (TokenThrottle.query f) (TokenThrottle.query f) s s' := by
  have h_run := query_run f h_alike.running'
  rw [← h_same] at h_run
  exact .of_ok (query_run f h_alike.running) h_run ⟨rfl, h_alike⟩

/-- A write that leaves the databases alike. -/
theorem execute {f : Database → Database}
    (h_alike : Alike currentTime buckets markers tombstones s s')
    (h_write : Alike currentTime buckets' markers' tombstones' { s with db := f s.db }
      { s' with db := f s'.db }) :
    Body.Couples (fun _ => Alike currentTime buckets' markers' tombstones')
      (TokenThrottle.execute f) (TokenThrottle.execute f) s s' :=
  .of_ok (execute_run f h_alike.running) (execute_run f h_alike.running') h_write

theorem confirmState (h_alike : Alike currentTime buckets markers tombstones s s') (id : BucketId)
    (confirmedAt : ℚ) :
    Body.Couples (fun _ => Alike currentTime buckets markers tombstones)
      (TokenThrottle.confirmState id confirmedAt) (TokenThrottle.confirmState id confirmedAt)
      s s' := by
  refine .of_ok (confirmState_run id confirmedAt) (confirmState_run id confirmedAt)
    { h_alike with pending := ?_ }
  rw [h_alike.pending]

/-- A row that is the same in both stays so when it is updated. -/
theorem updateBucket {key : BucketKey} {f : BucketRow → BucketRow}
    (h_alike : Alike currentTime buckets markers tombstones s s') (h_mem : key ∈ buckets) :
    Body.Couples (fun _ => Alike currentTime buckets markers tombstones)
      (TokenThrottle.execute (·.updateBucket key f)) (TokenThrottle.execute (·.updateBucket key f))
      s s' := by
  apply h_alike.execute
  have h_written := h_alike.setBucket key ((s.db.buckets key).map f)
  rw [Set.insert_eq_of_mem h_mem] at h_written
  unfold Database.updateBucket
  rw [← h_alike.bucket key h_mem]
  exact h_written

end Alike

theorem raise_couples {α : Type} {post : α → TxnState → TxnState → Prop} (error : BackendError)
    (s s' : TxnState) : Body.Couples post (raise error) (raise error) s s' :=
  .of_error rfl rfl

/-- A row that is read and deleted when it has expired: the read finds what is unexpired,
    and leaves that. -/
theorem readLive_run {ρ : Type} {s : TxnState} (read : Database → Option ρ)
    (put : Option ρ → Database → Database) (expiresAt : ρ → ℚ) (currentTime : ℚ)
    (h_running : s.interruptAfter = none) (h_put : put (read s.db) s.db = s.db) :
    (query read >>= fun row =>
      Body.when (row.any fun r => expiresAt r ≤ currentTime) (execute (put none)) >>= fun _ =>
        pure (row.filter fun r => currentTime < expiresAt r) : Txn (Option ρ)) s =
      .ok ((read s.db).filter fun r => currentTime < expiresAt r)
        { s with db := put ((read s.db).filter fun r => currentTime < expiresAt r) s.db } := by
  have h_kept : s = { s with db := put (read s.db) s.db } := by rw [h_put]
  rw [Body.bind_ok (query_run _ h_running)]
  cases h_row : read s.db with
  | none =>
    rw [h_row] at h_kept
    exact congrArg (EStateM.Result.ok none) h_kept
  | some row =>
    rw [h_row] at h_kept
    by_cases h_live : currentTime < expiresAt row
    · have h_skip : (some row).any (fun r => decide (expiresAt r ≤ currentTime)) = false := by
        simp [not_le.mpr h_live]
      rw [Option.filter_some, if_pos (decide_eq_true h_live), h_skip]
      exact congrArg (EStateM.Result.ok (some row)) h_kept
    · have h_delete : (some row).any (fun r => decide (expiresAt r ≤ currentTime)) = true := by
        simp [not_lt.mp h_live]
      rw [Option.filter_some, if_neg (by simp [h_live]), h_delete, Body.when_true,
        Body.bind_ok (execute_run _ h_running)]
      rfl

namespace SqliteEngine

variable {e : SqliteEngine} {currentTime : ℚ} {buckets : Set BucketKey}
  {markers tombstones : Set ReservationKey} {s s' : TxnState}

/-- The keys of some buckets. -/
def bucketKeys (e : SqliteEngine) (ids : List BucketId) : Set BucketKey :=
  {key | ∃ id ∈ ids, key = e.bucketKey id}

theorem bucketKeys_filter {ids : List BucketId} {p : BucketId → Bool} :
    e.bucketKeys (ids.filter p) ⊆ e.bucketKeys ids := by
  rintro key ⟨id, h_mem, rfl⟩
  exact ⟨id, List.mem_of_mem_filter h_mem, rfl⟩

/-- The key of a reservation, where there is one. -/
def reservationKeys (e : SqliteEngine) (reservationId : Option ReservationId) :
    Set ReservationKey :=
  {key | ∃ rid, reservationId = some rid ∧ key = e.reservationKey rid}

theorem reservationKeys_subset {rid : ReservationId} {keys : Set ReservationKey}
    (h_mem : e.reservationKey rid ∈ keys) : e.reservationKeys (some rid) ⊆ keys := by
  rintro key ⟨rid', h_rid, rfl⟩
  cases h_rid
  exact h_mem

/-! ### The reservation tables -/

/-- A read marker is the same row in both. -/
theorem readLiveMarker_couples (h_alike : Alike currentTime buckets markers tombstones s s')
    (key : ReservationKey) :
    Body.Couples (fun _ => Alike currentTime buckets (insert key markers) tombstones)
      (readLiveMarker key currentTime) (readLiveMarker key currentTime) s s' := by
  have h_run := readLive_run (·.acquireMarkers key) (Database.putMarker key) MarkerRow.expiresAt
    currentTime h_alike.running (by simp [Database.putMarker])
  have h_run' := readLive_run (·.acquireMarkers key) (Database.putMarker key) MarkerRow.expiresAt
    currentTime h_alike.running' (by simp [Database.putMarker])
  have h_same : s'.db.liveMarker currentTime key = s.db.liveMarker currentTime key :=
    (h_alike.unexpired.marker key).symm
  unfold Database.liveMarker at h_same
  rw [h_same] at h_run'
  exact .of_ok h_run h_run' (h_alike.putMarker key _)

/-- A read tombstone is the same row in both. -/
theorem readLiveTombstone_couples (h_alike : Alike currentTime buckets markers tombstones s s')
    (key : ReservationKey) :
    Body.Couples (fun _ => Alike currentTime buckets markers (insert key tombstones))
      (readLiveTombstone key currentTime) (readLiveTombstone key currentTime) s s' := by
  have h_run := readLive_run (·.refundTombstones key) (Database.putTombstone key)
    TombstoneRow.expiresAt currentTime h_alike.running (by simp [Database.putTombstone])
  have h_run' := readLive_run (·.refundTombstones key) (Database.putTombstone key)
    TombstoneRow.expiresAt currentTime h_alike.running' (by simp [Database.putTombstone])
  have h_same : s'.db.liveTombstone currentTime key = s.db.liveTombstone currentTime key :=
    (h_alike.unexpired.tombstone key).symm
  unfold Database.liveTombstone at h_same
  rw [h_same] at h_run'
  exact .of_ok h_run h_run' (h_alike.putTombstone key _)

theorem raiseIfDuplicateAcquire_couples
    (h_alike : Alike currentTime buckets markers tombstones s s')
    (reservationId : Option ReservationId) (usage : FrozenUsage) :
    Body.Couples (fun _ => Alike currentTime buckets (e.reservationKeys reservationId)
        (e.reservationKeys reservationId))
      (e.raiseIfDuplicateAcquire reservationId currentTime usage)
      (e.raiseIfDuplicateAcquire reservationId currentTime usage) s s' := by
  cases reservationId with
  | none => exact .pure (h_alike.mono (fun _ h => h) nofun nofun)
  | some rid =>
    show Body.Couples _ (readLiveMarker (e.reservationKey rid) currentTime >>= _)
      (readLiveMarker (e.reservationKey rid) currentTime >>= _) s s'
    refine (readLiveMarker_couples h_alike _).bind fun marker t t' h_alike => ?_
    refine (readLiveTombstone_couples h_alike _).bind fun tombstone t t' h_alike => ?_
    have h_read : Alike currentTime buckets (e.reservationKeys (some rid))
        (e.reservationKeys (some rid)) t t' :=
      h_alike.mono (fun _ h => h) (reservationKeys_subset (.inl rfl))
        (reservationKeys_subset (.inl rfl))
    match marker, tombstone with
    | some marker, _ => exact .ite (fun _ => .pure h_read) fun _ => raise_couples _ _ _
    | none, some _ => exact raise_couples _ _ _
    | none, none => exact .pure h_read

theorem verifyMarker_couples (h_alike : Alike currentTime buckets markers tombstones s s')
    (rid : ReservationId) (family : String) (ids : Finset BucketId) (usage : FrozenUsage) :
    Body.Couples (fun _ => Alike currentTime buckets (e.reservationKeys (some rid))
        (e.reservationKeys (some rid)))
      (e.verifyMarker rid family ids usage currentTime)
      (e.verifyMarker rid family ids usage currentTime) s s' := by
  show Body.Couples _ (readLiveTombstone (e.reservationKey rid) currentTime >>= _)
    (readLiveTombstone (e.reservationKey rid) currentTime >>= _) s s'
  refine (readLiveTombstone_couples h_alike _).bind fun tombstone t t' h_alike => ?_
  match tombstone with
  | some _ => exact raise_couples _ _ _
  | none =>
    refine (readLiveMarker_couples h_alike _).bind fun marker t t' h_alike => ?_
    match marker with
    | none => exact raise_couples _ _ _
    | some marker =>
      refine .ite (fun _ => .pure ?_) fun _ => raise_couples _ _ _
      exact h_alike.mono (fun _ h => h) (reservationKeys_subset (.inl rfl))
        (reservationKeys_subset (.inl rfl))

theorem authorizeRefund_couples (h_alike : Alike currentTime buckets markers tombstones s s')
    (refund : RefundRequest) :
    Body.Couples (fun _ => Alike currentTime buckets (e.reservationKeys refund.reservationId)
        (e.reservationKeys refund.reservationId))
      (e.authorizeRefund refund currentTime) (e.authorizeRefund refund currentTime) s s' := by
  unfold authorizeRefund
  cases refund.reservationId with
  | none => exact .pure (h_alike.mono (fun _ h => h) nofun nofun)
  | some rid =>
    match refund.reservationModelFamily, refund.reservationBucketIds,
        refund.reservationReservedUsage with
    | some family, some ids, some usage => exact verifyMarker_couples h_alike rid family ids usage
    | none, _, _ => exact raise_couples _ _ _
    | some _, none, _ => exact raise_couples _ _ _
    | some _, some _, none => exact raise_couples _ _ _

theorem insertMarker_couples {reservationId : Option ReservationId}
    (h_alike : Alike currentTime buckets (e.reservationKeys reservationId) tombstones s s')
    (usage : FrozenUsage) (lifetime : Option ℚ) :
    Body.Couples (fun _ => Alike currentTime ∅ ∅ ∅)
      (e.insertMarker reservationId usage lifetime currentTime)
      (e.insertMarker reservationId usage lifetime currentTime) s s' := by
  match reservationId, lifetime with
  | none, _ => exact .pure (h_alike.mono nofun nofun nofun)
  | some _, none => exact raise_couples _ _ _
  | some rid, some lifetime =>
    refine .ite (fun _ => raise_couples _ _ _) fun _ => ?_
    have h_key := h_alike.marker (e.reservationKey rid) ⟨rid, rfl, rfl⟩
    refine (h_alike.query (by rw [h_key])).bind fun stored t t' h_mid => ?_
    refine .ite (fun _ => raise_couples _ _ _) fun _ => ?_
    exact (h_mid.2.execute (h_mid.2.putMarker _ _)).mono
      fun _ _ _ h_alike => h_alike.mono nofun nofun nofun

theorem buryMarker_couples {reservationId : Option ReservationId}
    (h_alike : Alike currentTime buckets (e.reservationKeys reservationId)
      (e.reservationKeys reservationId) s s') :
    Body.Couples (fun _ => Alike currentTime ∅ ∅ ∅) (e.buryMarker reservationId currentTime)
      (e.buryMarker reservationId currentTime) s s' := by
  cases reservationId with
  | none => exact .pure (h_alike.mono nofun nofun nofun)
  | some rid =>
    have h_marker := h_alike.marker (e.reservationKey rid) ⟨rid, rfl, rfl⟩
    refine (h_alike.query (by rw [h_marker])).bind fun absent t t' h_mid => ?_
    refine .ite (fun _ => raise_couples _ _ _) fun _ => ?_
    refine (h_mid.2.execute (h_mid.2.putMarker _ _)).bind fun _ t t' h_alike => ?_
    have h_tombstone := h_alike.tombstone (e.reservationKey rid) ⟨rid, rfl, rfl⟩
    refine (h_alike.query (by rw [h_tombstone])).bind fun stored t t' h_mid => ?_
    refine .ite (fun _ => raise_couples _ _ _) fun _ => ?_
    exact (h_mid.2.execute (h_mid.2.putTombstone _ _)).mono
      fun _ _ _ h_alike => h_alike.mono nofun nofun nofun

/-! ### The bucket rows -/

theorem loadStates_couples (ids : List BucketId)
    (h_alike : Alike currentTime buckets markers tombstones s s') :
    Body.Couples (fun _ => Alike currentTime (buckets ∪ e.bucketKeys ids) markers tombstones)
      (e.loadStates currentTime ids) (e.loadStates currentTime ids) s s' := by
  induction ids generalizing buckets s s' with
  | nil =>
    refine .pure (h_alike.mono ?_ (fun _ h => h) fun _ h => h)
    rintro key (h_mem | ⟨_, h_nil, _⟩)
    · exact h_mem
    · cases h_nil
  | cons id ids ih =>
    show Body.Couples _ (query _ >>= _) (query _ >>= _) s s'
    refine .step (query_run _ h_alike.running) (query_run _ h_alike.running') ?_
    -- the rows may differ, what a load makes of them does not
    have h_load := loadRow_live (e.spec id) e.bucketTtlSeconds (e.stateLossSuspected id currentTime)
      true (s.db.buckets (e.bucketKey id)) currentTime
    have h_load' := loadRow_live (e.spec id) e.bucketTtlSeconds
      (e.stateLossSuspected id currentTime) true (s'.db.buckets (e.bucketKey id)) currentTime
    have h_row : s.db.liveBucket currentTime (e.bucketKey id) =
      s'.db.liveBucket currentTime (e.bucketKey id) := h_alike.unexpired.bucket _
    unfold Database.liveBucket at h_row
    rw [h_row, ← h_load'] at h_load
    rw [h_load]
    refine (Body.Couples.lift fun _ _ => h_alike).bind fun loaded t t' h_alike => ?_
    refine (h_alike.execute (h_alike.setBucket _ (some loaded.row))).bind
      fun _ t t' h_alike => ?_
    refine (Body.Couples.when (fun _ => h_alike.confirmState id currentTime)
      fun _ => h_alike).bind fun _ t t' h_alike => ?_
    refine (ih h_alike).bind fun rest t t' h_alike => .pure (h_alike.mono ?_ (fun _ h => h)
      fun _ h => h)
    rintro key (h_mem | ⟨id', h_mem, rfl⟩)
    · exact .inl (.inr h_mem)
    · obtain rfl | h_mem := List.mem_cons.mp h_mem
      · exact .inl (.inl rfl)
      · exact .inr ⟨id', h_mem, rfl⟩

/-- Rows that are the same are written alike. -/
theorem writeCapacities_couples (capacities : Capacities) {ids : List BucketId}
    (h_ids : e.bucketKeys ids ⊆ buckets)
    (h_alike : Alike currentTime buckets markers tombstones s s') :
    Body.Couples (fun _ => Alike currentTime buckets markers tombstones)
      (e.writeCapacities capacities currentTime ids) (e.writeCapacities capacities currentTime ids)
      s s' := by
  induction ids generalizing s s' with
  | nil => exact .pure h_alike
  | cons id ids ih =>
    have h_key : e.bucketKey id ∈ buckets := h_ids ⟨id, List.mem_cons_self, rfl⟩
    have h_rest : e.bucketKeys ids ⊆ buckets := by
      rintro key ⟨id', h_mem, rfl⟩
      exact h_ids ⟨id', List.mem_cons_of_mem id h_mem, rfl⟩
    show Body.Couples _ (query _ >>= _) (query _ >>= _) s s'
    refine (h_alike.query (h_alike.bucket _ h_key)).bind fun stored t t' h_mid => ?_
    match stored with
    | none => exact raise_couples _ _ _
    | some row =>
      refine (Body.Couples.lift fun _ _ => h_mid.2).bind fun row t t' h_alike => ?_
      have h_written := h_alike.setBucket (e.bucketKey id) (some row)
      rw [Set.insert_eq_of_mem h_key] at h_written
      refine (h_alike.execute h_written).bind fun _ t t' h_alike => ?_
      refine (h_alike.confirmState id currentTime).bind fun _ t t' h_alike => ?_
      exact ih h_rest h_alike

theorem clearOverrides_couples (states : BucketId → BucketState)
    (configuredMaxCapacities : BucketId → Option ℚ) {ids : List BucketId}
    (h_ids : e.bucketKeys ids ⊆ buckets)
    (h_alike : Alike currentTime buckets markers tombstones s s') :
    Body.Couples (fun _ => Alike currentTime buckets markers tombstones)
      (e.clearOverrides states configuredMaxCapacities currentTime ids)
      (e.clearOverrides states configuredMaxCapacities currentTime ids) s s' := by
  induction ids generalizing s s' with
  | nil => exact .pure h_alike
  | cons id ids ih =>
    have h_key : e.bucketKey id ∈ buckets := h_ids ⟨id, List.mem_cons_self, rfl⟩
    have h_rest : e.bucketKeys ids ⊆ buckets := by
      rintro key ⟨id', h_mem, rfl⟩
      exact h_ids ⟨id', List.mem_cons_of_mem id h_mem, rfl⟩
    refine (Body.Couples.lift fun _ _ => h_alike).bind fun retention t t' h_alike => ?_
    exact (h_alike.updateBucket h_key).bind fun _ t t' h_alike => ih h_rest h_alike

/-! ### Whole transactions -/

/-- Whether `_prune` leaves the marker row of a key only if it has not expired. -/
def keepsMarker (input : TxnInput) (db : Database) (key : ReservationKey) : Bool :=
  (db.acquireMarkers key).all fun row =>
    input.currentTime < row.expiresAt ∨ input.prunesMarker key

/-- What two calls have in common that choose different rows to prune. -/
structure SameMoment (input input' : TxnInput) : Prop where
  currentTime : input'.currentTime = input.currentTime
  running : input.interruptAfter = none
  running' : input'.interruptAfter = none

/-- The database after `_prune`. -/
def pruned (input : TxnInput) (db : Database) : Database where
  acquireMarkers key := (db.acquireMarkers key).filter fun row =>
    ¬ (row.expiresAt ≤ input.currentTime ∧ input.prunesMarker key)
  refundTombstones key := (db.refundTombstones key).filter fun row =>
    ¬ (row.expiresAt ≤ input.currentTime ∧ input.prunesTombstone key)
  buckets key := (db.buckets key).filter fun row =>
    ¬ (row.expiresAt ≤ input.currentTime ∧ ¬ row.overrideLive input.currentTime ∧
      input.prunesBucket key)

/-- Pruning takes no row that has not expired. -/
theorem sameUnexpired_pruned (input : TxnInput) (db : Database) :
    SameUnexpired input.currentTime (pruned input db) db where
  bucket key := by
    refine filter_filter_of_imp (fun row h_live => ?_) _
    unfold BucketRow.live at h_live
    rw [decide_eq_true_iff] at h_live ⊢
    rintro ⟨h_le, h_dead, _⟩
    exact h_live.elim h_le.not_gt h_dead
  marker key := by
    refine filter_filter_of_imp (fun row h_live => ?_) _
    rw [decide_eq_true_iff] at h_live ⊢
    exact fun h_gone => h_gone.1.not_gt h_live
  tombstone key := by
    refine filter_filter_of_imp (fun row h_live => ?_) _
    rw [decide_eq_true_iff] at h_live ⊢
    exact fun h_gone => h_gone.1.not_gt h_live

/-- A marker that pruning keeps only unexpired is left as a reader of markers sees it. -/
theorem pruned_marker {input : TxnInput} {db : Database} {key : ReservationKey}
    (h_keeps : keepsMarker input db key = true) :
    (pruned input db).acquireMarkers key = db.liveMarker input.currentTime key := by
  unfold keepsMarker at h_keeps
  show (db.acquireMarkers key).filter _ = (db.acquireMarkers key).filter _
  cases h_row : db.acquireMarkers key with
  | none => rfl
  | some row =>
    rw [h_row, Option.all_some, decide_eq_true_iff] at h_keeps
    by_cases h_live : input.currentTime < row.expiresAt
    · rw [Option.filter_some, Option.filter_some, if_pos (by simp [not_le.mpr h_live]),
        if_pos (decide_eq_true h_live)]
    · have h_gone := h_keeps.resolve_left h_live
      rw [Option.filter_some, Option.filter_some, if_neg (by simp [not_lt.mp h_live, h_gone]),
        if_neg (by simp [h_live])]

theorem prune_couples {input input' : TxnInput} {db db' : Database}
    (h_moment : SameMoment input input') (h_same : SameUnexpired input.currentTime db db')
    (h_keeps : ∀ key ∈ markers, keepsMarker input db key = true ∧ keepsMarker input' db' key = true) :
    Body.Couples (fun _ => Alike input.currentTime ∅ markers ∅) (prune input) (prune input')
      ⟨db, fun _ => none, input.interruptAfter⟩ ⟨db', fun _ => none, input'.interruptAfter⟩ := by
  have h_run : ∀ (input : TxnInput) (s : TxnState), s.interruptAfter = none →
      prune input s = .ok () { s with db := pruned input s.db } := by
    rintro input ⟨db, pending, left⟩ h_running
    cases h_running
    rfl
  have h_pruned := sameUnexpired_pruned input' db'
  rw [h_moment.currentTime] at h_pruned
  refine .of_ok (h_run _ _ h_moment.running) (h_run _ _ h_moment.running')
    ⟨(sameUnexpired_pruned input db).trans (h_same.trans h_pruned.symm), rfl, h_moment.running,
      h_moment.running', nofun, ?_, nofun⟩
  intro key h_mem
  obtain ⟨h_kept, h_kept'⟩ := h_keeps key h_mem
  show (pruned input db).acquireMarkers key = (pruned input' db').acquireMarkers key
  rw [pruned_marker h_kept, pruned_marker h_kept', h_moment.currentTime]
  exact h_same.marker key

/-- Two ends of a call that cannot be told apart, now or later. -/
structure SameOutcome {α : Type} (currentTime : ℚ)
    (x x' : Except BackendError α × SqliteEngine × Database) : Prop where
  result : x.1 = x'.1
  engine : x.2.1 = x'.2.1
  unexpired : SameUnexpired currentTime x.2.2 x'.2.2

theorem takeOverMaxCapacity_same {currentTime : ℚ} {id : BucketId} {value : MaxCapacity}
    {x x' : Except BackendError Unit × SqliteEngine × Database}
    (h_same : SameOutcome currentTime x x') :
    SameOutcome currentTime (takeOverMaxCapacity id value x) (takeOverMaxCapacity id value x') := by
  obtain ⟨result, e, db⟩ := x
  obtain ⟨result', e', db'⟩ := x'
  obtain ⟨h_result, h_engine, h_unexpired⟩ := h_same
  cases h_result
  cases h_engine
  cases result with
  | ok _ => exact ⟨rfl, rfl, h_unexpired⟩
  | error _ => exact ⟨rfl, rfl, h_unexpired⟩

theorem transaction_couples {α : Type} {input input' : TxnInput} {db db' : Database}
    {body body' : Txn α} (h_same : SameUnexpired input.currentTime db db')
    (h_body : Body.Couples (fun _ => Alike input.currentTime ∅ ∅ ∅) body body'
      ⟨db, fun _ => none, input.interruptAfter⟩ ⟨db', fun _ => none, input'.interruptAfter⟩) :
    SameOutcome input.currentTime (e.transaction input db body)
      (e.transaction input' db' body') := by
  have h_committed : Body.Couples (fun _ => Alike input.currentTime ∅ ∅ ∅)
      (body >>= fun a => execute (fun db => db) >>= fun _ => pure a)
      (body' >>= fun a => execute (fun db => db) >>= fun _ => pure a)
      ⟨db, fun _ => none, input.interruptAfter⟩ ⟨db', fun _ => none, input'.interruptAfter⟩ :=
    h_body.bind fun a t t' h_alike =>
      (h_alike.execute h_alike).bind fun _ t t' h_alike => .pure h_alike
  unfold transaction atomically
  rcases h_committed.cases with ⟨a, t, t', h_ok, h_ok', h_alike⟩ | ⟨error, t, t', h_error, h_error'⟩
  · simp only [h_ok, h_ok']
    exact ⟨rfl, by rw [h_alike.pending], h_alike.unexpired⟩
  · simp only [h_error, h_error']
    exact ⟨rfl, rfl, h_same⟩

/-! ### The calls -/

/-- A cleanup under a reservation id finds no marker row that has expired. -/
def settled (e : SqliteEngine) (input : TxnInput) (db : Database) : EngineRequest → Bool
  | .cleanupConsumption _ _ (some rid) => keepsMarker input db (e.reservationKey rid)
  | _ => true

variable {input input' : TxnInput} {db db' : Database}

theorem tryConsume_same (h_moment : SameMoment input input')
    (h_same : SameUnexpired input.currentTime db db') (usage : FrozenUsage)
    (reservationId : Option ReservationId) (lifetime : Option ℚ) :
    SameOutcome input.currentTime (e.tryConsume input db usage reservationId lifetime)
      (e.tryConsume input' db' usage reservationId lifetime) := by
  unfold tryConsume
  rw [h_moment.currentTime]
  refine transaction_couples h_same ?_
  refine (@prune_couples ∅ _ _ _ _ h_moment h_same nofun).bind fun _ t t' h_alike => ?_
  refine (raiseIfDuplicateAcquire_couples h_alike reservationId usage).bind
    fun replayed t t' h_alike => ?_
  refine (loadStates_couples e.buckets h_alike).bind fun states t t' h_alike => ?_
  refine .ite (fun _ => .pure (h_alike.mono nofun nofun nofun)) fun _ => ?_
  refine .ite (fun _ => raise_couples _ _ _) fun _ => ?_
  refine .ite (fun _ => .pure (h_alike.mono nofun nofun nofun)) fun _ => ?_
  refine (writeCapacities_couples _ (fun _ h => .inr h) h_alike).bind fun _ t t' h_alike => ?_
  exact (insertMarker_couples h_alike usage lifetime).bind fun _ t t' h_alike => .pure h_alike

theorem consume_same (h_moment : SameMoment input input')
    (h_same : SameUnexpired input.currentTime db db') (usage : FrozenUsage)
    (reservationId : Option ReservationId) (lifetime : Option ℚ) :
    SameOutcome input.currentTime (e.consume input db usage reservationId lifetime)
      (e.consume input' db' usage reservationId lifetime) := by
  unfold consume
  rw [h_moment.currentTime]
  refine transaction_couples h_same ?_
  refine (@prune_couples ∅ _ _ _ _ h_moment h_same nofun).bind fun _ t t' h_alike => ?_
  refine (raiseIfDuplicateAcquire_couples h_alike reservationId usage).bind
    fun replayed t t' h_alike => ?_
  refine (loadStates_couples e.buckets h_alike).bind fun states t t' h_alike => ?_
  refine .ite (fun _ => .pure (h_alike.mono nofun nofun nofun)) fun _ => ?_
  refine (writeCapacities_couples _ (fun _ h => .inr h) h_alike).bind fun _ t t' h_alike => ?_
  exact (insertMarker_couples h_alike usage lifetime).bind fun _ t t' h_alike => .pure h_alike

theorem refund_same (h_moment : SameMoment input input')
    (h_same : SameUnexpired input.currentTime db db') (refund : RefundRequest)
    (refundBucketIds : Finset BucketId) :
    SameOutcome input.currentTime (e.refund input db refund refundBucketIds)
      (e.refund input' db' refund refundBucketIds) := by
  unfold SqliteEngine.refund
  by_cases h_keys : ¬ refund.reservedUsage.keys ⊆ refund.actualUsage.keys
  · rw [if_pos h_keys, if_pos h_keys]
    exact ⟨rfl, rfl, h_same⟩
  · rw [if_neg h_keys, if_neg h_keys, h_moment.currentTime]
    refine transaction_couples h_same ?_
    refine (@prune_couples ∅ _ _ _ _ h_moment h_same nofun).bind fun _ t t' h_alike => ?_
    refine (authorizeRefund_couples h_alike refund).bind fun _ t t' h_alike => ?_
    refine (loadStates_couples e.buckets h_alike).bind fun states t t' h_alike => ?_
    refine .ite (fun _ => raise_couples _ _ _) fun _ => ?_
    refine (writeCapacities_couples _ (bucketKeys_filter.trans fun _ h => .inr h) h_alike).bind
      fun _ t t' h_alike => ?_
    exact (buryMarker_couples h_alike).bind fun _ t t' h_alike => .pure h_alike

/-- The question of a cleanup, which is asked of the row itself. -/
theorem markerAbsent_couples {reservationId : Option ReservationId} :
    Alike currentTime buckets (e.reservationKeys reservationId) tombstones s s' →
    Body.Couples (fun _ => Alike currentTime buckets (e.reservationKeys reservationId) tombstones)
      (match reservationId with
        | none => pure false
        | some rid => query fun db => (db.acquireMarkers (e.reservationKey rid)).isNone)
      (match reservationId with
        | none => pure false
        | some rid => query fun db => (db.acquireMarkers (e.reservationKey rid)).isNone) s s' := by
  intro h_alike
  obtain _ | rid := reservationId
  · exact .pure h_alike
  · have h_marker := h_alike.marker (e.reservationKey rid) ⟨rid, rfl, rfl⟩
    exact (h_alike.query (by rw [h_marker])).mono fun _ _ _ h_mid => h_mid.2

theorem cleanupConsumption_same (h_moment : SameMoment input input')
    (h_same : SameUnexpired input.currentTime db db') {usage : FrozenUsage}
    {bucketIds : Finset BucketId} {reservationId : Option ReservationId}
    (h_settled : e.settled input db (.cleanupConsumption usage bucketIds reservationId) = true)
    (h_settled' :
      e.settled input' db' (.cleanupConsumption usage bucketIds reservationId) = true) :
    SameOutcome input.currentTime (e.cleanupConsumption input db usage bucketIds reservationId)
      (e.cleanupConsumption input' db' usage bucketIds reservationId) := by
  have h_keeps : ∀ key ∈ e.reservationKeys reservationId,
      keepsMarker input db key = true ∧ keepsMarker input' db' key = true := by
    rintro key ⟨rid, rfl, rfl⟩
    exact ⟨h_settled, h_settled'⟩
  unfold cleanupConsumption
  rw [h_moment.currentTime]
  refine transaction_couples h_same ?_
  refine (prune_couples h_moment h_same h_keeps).bind fun _ t t' h_alike => ?_
  refine (markerAbsent_couples h_alike).bind fun absent t t' h_alike => ?_
  refine .ite (fun _ => raise_couples _ _ _) fun _ => ?_
  refine (loadStates_couples e.buckets h_alike).bind fun states t t' h_alike => ?_
  refine (writeCapacities_couples _ (bucketKeys_filter.trans fun _ h => .inr h) h_alike).bind
    fun _ t t' h_alike => ?_
  cases reservationId with
  | none => exact .pure (h_alike.mono nofun nofun nofun)
  | some rid =>
    exact (h_alike.execute (h_alike.putMarker _ none)).mono
      fun _ _ _ h_alike => h_alike.mono nofun nofun nofun

/-- The limit changes anchor one bucket that has been loaded and write its override columns. -/
theorem reconfigure_couples {states : BucketId → BucketState} {id : BucketId}
    (h_id : id ∈ e.buckets) {f : BucketRow → BucketRow}
    (h_alike : Alike input.currentTime (∅ ∪ e.bucketKeys e.buckets) ∅ ∅ s s') :
    Body.Couples (fun _ => Alike input.currentTime ∅ ∅ ∅)
      (Body.when (!(states id).isFreshStart) (e.writeCapacities
        (fun id => (states id).uncappedCapacity) input.currentTime [id]) >>= fun _ =>
          execute (·.updateBucket (e.bucketKey id) f))
      (Body.when (!(states id).isFreshStart) (e.writeCapacities
        (fun id => (states id).uncappedCapacity) input.currentTime [id]) >>= fun _ =>
          execute (·.updateBucket (e.bucketKey id) f)) s s' := by
  have h_one : e.bucketKeys [id] ⊆ ∅ ∪ e.bucketKeys e.buckets := by
    rintro key ⟨id', h_mem, rfl⟩
    rw [List.mem_singleton.mp h_mem]
    exact .inr ⟨id, h_id, rfl⟩
  refine (Body.Couples.when (fun _ => writeCapacities_couples _ h_one h_alike)
    fun _ => h_alike).bind fun _ t t' h_alike => ?_
  exact (h_alike.updateBucket (.inr ⟨id, h_id, rfl⟩)).mono
    fun _ _ _ h_alike => h_alike.mono nofun nofun nofun

theorem setMaxCapacity_same (h_moment : SameMoment input input')
    (h_same : SameUnexpired input.currentTime db db') (id : BucketId) (value : ℚ) :
    SameOutcome input.currentTime (e.setMaxCapacity input db id value)
      (e.setMaxCapacity input' db' id value) := by
  unfold setMaxCapacity
  cases validateMaxCapacityFinitePositive value with
  | error error => exact ⟨rfl, rfl, h_same⟩
  | ok value =>
    by_cases h_id : id ∉ e.buckets
    · dsimp only
      rw [if_pos h_id, if_pos h_id]
      exact ⟨rfl, rfl, h_same⟩
    · dsimp only
      rw [if_neg h_id, if_neg h_id, h_moment.currentTime]
      refine transaction_couples h_same ?_
      refine (@prune_couples ∅ _ _ _ _ h_moment h_same nofun).bind fun _ t t' h_alike => ?_
      refine (loadStates_couples e.buckets h_alike).bind fun states t t' h_alike => ?_
      refine (Body.Couples.lift fun _ _ => h_alike).bind fun retention t t' h_alike => ?_
      exact reconfigure_couples (not_not.mp h_id) h_alike

theorem applyConfiguredMaxCapacity_same (h_moment : SameMoment input input')
    (h_same : SameUnexpired input.currentTime db db') (id : BucketId) (value : ℚ) :
    SameOutcome input.currentTime (e.applyConfiguredMaxCapacity input db id value)
      (e.applyConfiguredMaxCapacity input' db' id value) := by
  unfold applyConfiguredMaxCapacity
  cases validateMaxCapacityFinitePositive value with
  | error error => exact ⟨rfl, rfl, h_same⟩
  | ok value =>
    by_cases h_id : id ∉ e.buckets
    · dsimp only
      rw [if_pos h_id, if_pos h_id]
      exact ⟨rfl, rfl, h_same⟩
    · dsimp only
      rw [if_neg h_id, if_neg h_id, h_moment.currentTime]
      refine takeOverMaxCapacity_same (transaction_couples h_same ?_)
      refine (@prune_couples ∅ _ _ _ _ h_moment h_same nofun).bind fun _ t t' h_alike => ?_
      refine (loadStates_couples e.buckets h_alike).bind fun states t t' h_alike => ?_
      refine (Body.Couples.lift fun _ _ => h_alike).bind fun retention t t' h_alike => ?_
      exact reconfigure_couples (not_not.mp h_id) h_alike

theorem clearMaxCapacityOverrides_same (h_moment : SameMoment input input')
    (h_same : SameUnexpired input.currentTime db db') (bucketIds : Finset BucketId)
    (configuredMaxCapacities : BucketId → Option ℚ) :
    SameOutcome input.currentTime
      (e.clearMaxCapacityOverrides input db bucketIds configuredMaxCapacities)
      (e.clearMaxCapacityOverrides input' db' bucketIds configuredMaxCapacities) := by
  unfold clearMaxCapacityOverrides
  by_cases h_none : e.buckets.filter (· ∈ bucketIds) = []
  · dsimp only
    rw [if_pos h_none, if_pos h_none]
    exact ⟨rfl, rfl, h_same⟩
  · dsimp only
    rw [if_neg h_none, if_neg h_none, h_moment.currentTime]
    have h_targets : e.bucketKeys (e.buckets.filter (· ∈ bucketIds)) ⊆
        ∅ ∪ e.bucketKeys e.buckets := bucketKeys_filter.trans fun _ h => .inr h
    refine transaction_couples h_same ?_
    refine (@prune_couples ∅ _ _ _ _ h_moment h_same nofun).bind fun _ t t' h_alike => ?_
    refine (loadStates_couples e.buckets h_alike).bind fun states t t' h_alike => ?_
    refine (writeCapacities_couples _ (bucketKeys_filter.trans h_targets) h_alike).bind
      fun _ t t' h_alike => ?_
    exact (clearOverrides_couples states configuredMaxCapacities h_targets h_alike).mono
      fun _ _ _ h_alike => h_alike.mono nofun nofun nofun

end SqliteEngine

/-! ## Runs -/

/-- What a call of an engine returns. -/
inductive EngineResult
  | tryConsumed (result : TryConsumeResult)
  | consumed (result : CapacityResult)
  | refunded (result : RefundResult)
  | done

namespace SqliteEngine

/-- The end of a call, with its result under one type. -/
def report {α : Type} (read : α → EngineResult) :
    Except BackendError α × SqliteEngine × Database →
      Except BackendError EngineResult × SqliteEngine × Database
  | (result, e, db) => (result.map read, e, db)

/-- A call of an engine, with all that it returns. -/
def perform (e : SqliteEngine) (input : TxnInput) (db : Database) :
    EngineRequest → Except BackendError EngineResult × SqliteEngine × Database
  | .tryConsume usage reservationId lifetime =>
    report .tryConsumed (e.tryConsume input db usage reservationId lifetime)
  | .consume usage reservationId lifetime =>
    report .consumed (e.consume input db usage reservationId lifetime)
  | .refund refund refundBucketIds => report .refunded (e.refund input db refund refundBucketIds)
  | .cleanupConsumption usage bucketIds reservationId =>
    report (fun _ => .done) (e.cleanupConsumption input db usage bucketIds reservationId)
  | .setMaxCapacity id value => report (fun _ => .done) (e.setMaxCapacity input db id value)
  | .applyConfiguredMaxCapacity id value =>
    report (fun _ => .done) (e.applyConfiguredMaxCapacity input db id value)
  | .clearMaxCapacityOverrides bucketIds configuredMaxCapacities =>
    report (fun _ => .done) (e.clearMaxCapacityOverrides input db bucketIds configuredMaxCapacities)

variable {e : SqliteEngine} {input input' : TxnInput} {db db' : Database}

theorem SameOutcome.report {α : Type} {currentTime : ℚ}
    {x x' : Except BackendError α × SqliteEngine × Database} (h_same : SameOutcome currentTime x x')
    (read : α → EngineResult) :
    SameOutcome currentTime (SqliteEngine.report read x) (SqliteEngine.report read x') where
  result := congrArg (Except.map read) h_same.result
  engine := h_same.engine
  unexpired := h_same.unexpired

/-- One call, on databases that hold the same unexpired rows. -/
theorem perform_same (h_moment : SameMoment input input')
    (h_same : SameUnexpired input.currentTime db db') (request : EngineRequest)
    (h_settled : e.settled input db request = true)
    (h_settled' : e.settled input' db' request = true) :
    SameOutcome input.currentTime (e.perform input db request) (e.perform input' db' request) := by
  cases request with
  | tryConsume usage reservationId lifetime =>
    exact (tryConsume_same h_moment h_same usage reservationId lifetime).report _
  | consume usage reservationId lifetime =>
    exact (consume_same h_moment h_same usage reservationId lifetime).report _
  | refund refund refundBucketIds =>
    exact (refund_same h_moment h_same refund refundBucketIds).report _
  | cleanupConsumption usage bucketIds reservationId =>
    exact (cleanupConsumption_same h_moment h_same h_settled h_settled').report _
  | setMaxCapacity id value => exact (setMaxCapacity_same h_moment h_same id value).report _
  | applyConfiguredMaxCapacity id value =>
    exact (applyConfiguredMaxCapacity_same h_moment h_same id value).report _
  | clearMaxCapacityOverrides bucketIds configuredMaxCapacities =>
    exact (clearMaxCapacityOverrides_same h_moment h_same bucketIds configuredMaxCapacities).report _

/-- A snapshot reads live rows alone. -/
theorem snapshotStates_same {currentTime : ℚ} (h_same : SameUnexpired currentTime db db')
    (ids : List BucketId) :
    e.snapshotStates db currentTime ids = e.snapshotStates db' currentTime ids := by
  induction ids with
  | nil => rfl
  | cons id ids ih =>
    have h_row := h_same.bucket (e.bucketKey id)
    unfold Database.liveBucket at h_row
    unfold snapshotStates
    rw [loadRow_live, h_row, ← loadRow_live, ih]

end SqliteEngine

/-- The engines of a database, with what their calls have returned so far, newest first. -/
structure EngineStore (ι : Type) where
  db : Database
  engines : ι → SqliteEngine
  clock : ℚ
  results : List (Except BackendError EngineResult)

structure EngineCall (ι : Type) where
  engine : ι
  input : TxnInput
  request : EngineRequest

/-- The same call, which may prune other rows. -/
structure EngineCall.Same {ι : Type} (c c' : EngineCall ι) : Prop where
  engine : c'.engine = c.engine
  request : c'.request = c.request
  moment : SqliteEngine.SameMoment c.input c'.input

namespace EngineStore

variable {ι : Type} [DecidableEq ι]

def init (engines : ι → SqliteEngine) (clock : ℚ) : EngineStore ι where
  db := .empty
  engines := engines
  clock := clock
  results := []

/-- One call; the clock does not run backwards. -/
def step (s : EngineStore ι) (c : EngineCall ι) : Option (EngineStore ι) :=
  if s.clock ≤ c.input.currentTime then
    let (result, e, db) := (s.engines c.engine).perform c.input s.db c.request
    some
      { db := db
        engines := Function.update s.engines c.engine e
        clock := c.input.currentTime
        results := result :: s.results }
  else none

def settled (s : EngineStore ι) (c : EngineCall ι) : Bool :=
  (s.engines c.engine).settled c.input s.db c.request

/-- Stores that only expired rows tell apart. -/
structure SameButExpired (s s' : EngineStore ι) : Prop where
  unexpired : SameUnexpired s.clock s.db s'.db
  engines : s.engines = s'.engines
  clock : s.clock = s'.clock
  results : s.results = s'.results

theorem step_same {s s' t t' : EngineStore ι} {c c' : EngineCall ι} (h_call : c.Same c')
    (h_same : s.SameButExpired s') (h_step : Steps (guard step settled) s c t)
    (h_step' : Steps (guard step settled) s' c' t') : t.SameButExpired t' := by
  obtain ⟨h_settled, h_step⟩ := steps_guard_iff.mp h_step
  obtain ⟨h_settled', h_step'⟩ := steps_guard_iff.mp h_step'
  obtain ⟨who, input, request⟩ := c
  obtain ⟨who', input', request'⟩ := c'
  obtain ⟨h_who, h_request, h_moment⟩ := h_call
  cases h_who
  cases h_request
  unfold settled at h_settled h_settled'
  unfold Steps step at h_step h_step'
  rw [← h_same.engines] at h_settled' h_step'
  by_cases h_clock : s.clock ≤ input.currentTime
  · have h_clock' : s'.clock ≤ input'.currentTime := by
      rw [← h_same.clock, h_moment.currentTime]
      exact h_clock
    have h_end := SqliteEngine.perform_same h_moment (h_same.unexpired.later h_clock) request
      h_settled h_settled'
    rw [if_pos h_clock] at h_step
    rw [if_pos h_clock'] at h_step'
    dsimp only at h_step h_step' h_end
    generalize (s.engines who).perform input s.db request = x at h_step h_end
    generalize (s.engines who).perform input' s'.db request = x' at h_step' h_end
    obtain ⟨result, e, db⟩ := x
    obtain ⟨result', e', db'⟩ := x'
    obtain ⟨h_result, h_engine, h_unexpired⟩ := h_end
    cases h_result
    cases h_engine
    cases h_step
    cases h_step'
    exact ⟨h_unexpired, rfl, h_moment.currentTime.symm, by rw [h_same.results]⟩
  · rw [if_neg h_clock] at h_step
    cases h_step

theorem run_same {s s' t t' : EngineStore ι} {calls calls' : List (EngineCall ι)}
    (h_calls : List.Forall₂ EngineCall.Same calls calls') (h_same : s.SameButExpired s')
    (h_run : Run (Steps (guard step settled)) s calls t)
    (h_run' : Run (Steps (guard step settled)) s' calls' t') : t.SameButExpired t' := by
  induction h_calls generalizing s s' with
  | nil =>
    cases h_run
    cases h_run'
    exact h_same
  | cons h_call _ ih =>
    obtain _ | ⟨h_first, h_rest⟩ := h_run
    obtain _ | ⟨h_first', h_rest'⟩ := h_run'
    exact ih (step_same h_call h_same h_first h_first') h_rest h_rest'

/-- Two runs of the same calls from one store, in which no cleanup finds an expired marker:
    whatever rows their calls prune, every call returns the same, the engines are the same,
    and any engine finds the same capacities from then on. -/
theorem runs_same {s t t' : EngineStore ι} {calls calls' : List (EngineCall ι)}
    (h_calls : List.Forall₂ EngineCall.Same calls calls')
    (h_run : Run (Steps (guard step settled)) s calls t)
    (h_run' : Run (Steps (guard step settled)) s calls' t') :
    t.results = t'.results ∧ t.engines = t'.engines ∧
      ∀ (e : SqliteEngine) (currentTime : ℚ), t.clock ≤ currentTime →
        e.snapshotStates t.db currentTime e.buckets =
          e.snapshotStates t'.db currentTime e.buckets := by
  have h_same := run_same h_calls ⟨.refl s.clock s.db, rfl, rfl, rfl⟩ h_run h_run'
  refine ⟨h_same.results, h_same.engines, fun e currentTime h_later => ?_⟩
  exact SqliteEngine.snapshotStates_same (h_same.unexpired.later h_later) e.buckets

/-- A transaction that deletes every expired marker. -/
def pruningAt (currentTime : ℚ) : TxnInput :=
  { TxnInput.at currentTime with prunesMarker := fun _ => true }

/-- Forty tokens under `a` for ten seconds; then forty under `b` and its cleanup, with the
    expired marker of `a` in the table or out of it. -/
def cleanupAfterExpiry (later : TxnInput) : List (EngineCall Unit) :=
  [⟨(), .at 0, .consume (tokens 40) (some "a") (some 10)⟩,
   ⟨(), later, .consume (tokens 40) (some "b") (some 10)⟩,
   ⟨(), later, .cleanupConsumption (tokens 40) {tokensPerMinute} (some "b")⟩]

theorem runs_same_cleanupAfterExpiry :
    ∃ t t', Run (Steps (guard step settled)) (init (fun _ : Unit => exampleEngine) 0)
        (cleanupAfterExpiry (.at 20)) t ∧
      Run (Steps (guard step settled)) (init (fun _ : Unit => exampleEngine) 0)
        (cleanupAfterExpiry (pruningAt 20)) t' ∧
      (t.db.acquireMarkers ⟨"p", "a"⟩).isSome = true ∧ t'.db.acquireMarkers ⟨"p", "a"⟩ = none ∧
      t.results = t'.results := by
  obtain ⟨t, h_run, h_kept⟩ : ∃ t, Run (Steps (guard step settled))
      (init (fun _ : Unit => exampleEngine) 0) (cleanupAfterExpiry (.at 20)) t ∧
      (t.db.acquireMarkers ⟨"p", "a"⟩).isSome = true :=
    exists_run_of_exec (by decide +kernel)
  obtain ⟨t', h_run', h_gone⟩ : ∃ t', Run (Steps (guard step settled))
      (init (fun _ : Unit => exampleEngine) 0) (cleanupAfterExpiry (pruningAt 20)) t' ∧
      t'.db.acquireMarkers ⟨"p", "a"⟩ = none :=
    exists_run_of_exec (by decide +kernel)
  refine ⟨t, t', h_run, h_run', h_kept, h_gone, ?_⟩
  have h_calls : List.Forall₂ EngineCall.Same (cleanupAfterExpiry (.at 20))
      (cleanupAfterExpiry (pruningAt 20)) :=
    .cons ⟨rfl, rfl, rfl, rfl, rfl⟩ (.cons ⟨rfl, rfl, rfl, rfl, rfl⟩
      (.cons ⟨rfl, rfl, rfl, rfl, rfl⟩ .nil))
  exact (runs_same h_calls h_run h_run').1

/-- Forty tokens under `a` for ten seconds, cleaned up after twenty. -/
def lateCleanup (later : TxnInput) : List (EngineCall Unit) :=
  [⟨(), .at 0, .consume (tokens 40) (some "a") (some 10)⟩,
   ⟨(), later, .cleanupConsumption (tokens 40) {tokensPerMinute} (some "a")⟩]

/-- The cleanup gives the tokens back while the expired marker happens to be there, and
    refuses once it has been pruned. -/
theorem runs_differ_lateCleanup :
    ∃ t t', Run (Steps step) (init (fun _ : Unit => exampleEngine) 0) (lateCleanup (.at 20)) t ∧
      Run (Steps step) (init (fun _ : Unit => exampleEngine) 0) (lateCleanup (pruningAt 20)) t' ∧
      List.Forall₂ EngineCall.Same (lateCleanup (.at 20)) (lateCleanup (pruningAt 20)) ∧
      t.results.head?.map Except.toBool = some true ∧
      t'.results.head?.map Except.toBool = some false := by
  obtain ⟨t, h_run, h_result⟩ : ∃ t, Run (Steps step)
      (init (fun _ : Unit => exampleEngine) 0) (lateCleanup (.at 20)) t ∧
      t.results.head?.map Except.toBool = some true :=
    exists_run_of_exec (by decide +kernel)
  obtain ⟨t', h_run', h_result'⟩ : ∃ t', Run (Steps step)
      (init (fun _ : Unit => exampleEngine) 0) (lateCleanup (pruningAt 20)) t' ∧
      t'.results.head?.map Except.toBool = some false :=
    exists_run_of_exec (by decide +kernel)
  exact ⟨t, t', h_run, h_run', .cons ⟨rfl, rfl, rfl, rfl, rfl⟩ (.cons ⟨rfl, rfl, rfl, rfl, rfl⟩ .nil),
    h_result, h_result'⟩

end EngineStore

end TokenThrottle
