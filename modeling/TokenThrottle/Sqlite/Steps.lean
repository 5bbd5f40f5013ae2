/-
  TokenThrottle.Sqlite.Steps

  What the parts of a SQLite transaction do to the marker and tombstone tables, said
  once per part: reading and writing bucket rows leaves both tables alone, pruning
  and the two marker checks only drop rows that have expired.
-/
import TokenThrottle.Sqlite.Engine

namespace TokenThrottle

open Theory (Body atomically atomically_ok atomically_error)

/-! ## Statements -/

section Statement

variable {α : Type} {s s' : TxnState} {a : α}

theorem of_statement_ok {f : Database → α × Database}
    (h_ok : statement f s = .ok a s') : a = (f s.db).1 ∧ s'.db = (f s.db).2 := by
  unfold statement at h_ok
  split at h_ok
  · cases h_ok
  · cases h_ok
    exact ⟨rfl, rfl⟩

theorem of_query_ok {f : Database → α} (h_ok : query f s = .ok a s') :
    a = f s.db ∧ s'.db = s.db :=
  of_statement_ok h_ok

theorem of_execute_ok {f : Database → Database} {u : Unit}
    (h_ok : execute f s = .ok u s') : s'.db = f s.db :=
  (of_statement_ok h_ok).2

/-- A write statement confirms nothing. -/
theorem of_execute_state {f : Database → Database} {u : Unit}
    (h_ok : execute f s = .ok u s') :
    s'.db = f s.db ∧ s'.pendingStateConfirmations = s.pendingStateConfirmations := by
  unfold execute statement at h_ok
  split at h_ok
  · cases h_ok
  · cases h_ok
    exact ⟨rfl, rfl⟩

theorem of_confirmState_ok {id : BucketId} {currentTime : ℚ} {u : Unit}
    (h_ok : confirmState id currentTime s = .ok u s') : s'.db = s.db := by
  cases h_ok
  rfl

end Statement

/-! ## The two relations on the reservation tables -/

/-- A relation on databases, for the body of a transaction. -/
def onDb (rel : Database → Database → Prop) (s s' : TxnState) : Prop := rel s.db s'.db

/-- Both reservation tables are untouched. -/
def SameReservations (db db' : Database) : Prop :=
  db'.acquireMarkers = db.acquireMarkers ∧ db'.refundTombstones = db.refundTombstones

theorem SameReservations.refl (db : Database) : SameReservations db db := ⟨rfl, rfl⟩

theorem SameReservations.trans (db db' db'' : Database) (h_first : SameReservations db db')
    (h_second : SameReservations db' db'') : SameReservations db db'' :=
  ⟨h_second.1.trans h_first.1, h_second.2.trans h_first.2⟩

/-- The only marker rows lost are expired ones, and no row of either table is new. -/
structure Aged (currentTime : ℚ) (db db' : Database) : Prop where
  marker_of : ∀ key row, db'.acquireMarkers key = some row → db.acquireMarkers key = some row
  marker_kept : ∀ key row, db.acquireMarkers key = some row → currentTime < row.expiresAt →
    db'.acquireMarkers key = some row
  tombstone_of : ∀ key row, db'.refundTombstones key = some row →
    db.refundTombstones key = some row

theorem Aged.refl (currentTime : ℚ) (db : Database) : Aged currentTime db db :=
  ⟨fun _ _ h => h, fun _ _ h _ => h, fun _ _ h => h⟩

theorem Aged.trans (currentTime : ℚ) (db db' db'' : Database)
    (h_first : Aged currentTime db db') (h_second : Aged currentTime db' db'') :
    Aged currentTime db db'' where
  marker_of key row h_row := h_first.marker_of key row (h_second.marker_of key row h_row)
  marker_kept key row h_row h_live :=
    h_second.marker_kept key row (h_first.marker_kept key row h_row h_live) h_live
  tombstone_of key row h_row :=
    h_first.tombstone_of key row (h_second.tombstone_of key row h_row)

theorem SameReservations.aged {db db' : Database} (h_same : SameReservations db db')
    (currentTime : ℚ) : Aged currentTime db db' where
  marker_of _ _ h_row := by rw [← h_same.1]; exact h_row
  marker_kept _ _ h_row _ := by rw [h_same.1]; exact h_row
  tombstone_of _ _ h_row := by rw [← h_same.2]; exact h_row

/-- Dropping a marker row that has expired. -/
theorem aged_putMarker_none {currentTime : ℚ} {db : Database} {key : ReservationKey}
    (h_expired : ∀ row, db.acquireMarkers key = some row → row.expiresAt ≤ currentTime) :
    Aged currentTime db (db.putMarker key none) where
  marker_of key' row h_row := by
    simp only [Database.putMarker, Function.update_apply] at h_row
    split at h_row
    · cases h_row
    · exact h_row
  marker_kept key' row h_row h_live := by
    simp only [Database.putMarker, Function.update_apply]
    split
    · rename_i h_eq
      subst h_eq
      exact absurd h_live (not_lt.mpr (h_expired row h_row))
    · exact h_row
  tombstone_of _ _ h_row := h_row

/-- Dropping a tombstone row. -/
theorem aged_putTombstone_none (currentTime : ℚ) (db : Database) (key : ReservationKey) :
    Aged currentTime db (db.putTombstone key none) where
  marker_of _ _ h_row := h_row
  marker_kept _ _ h_row _ := h_row
  tombstone_of key' row h_row := by
    simp only [Database.putTombstone, Function.update_apply] at h_row
    split at h_row
    · cases h_row
    · exact h_row

/-! ## The parts of the transactions -/

namespace SqliteEngine

variable {e : SqliteEngine} {currentTime : ℚ} {s s' : TxnState}

theorem execute_sameReservations {f : Database → Database}
    (h_markers : ∀ db, (f db).acquireMarkers = db.acquireMarkers)
    (h_tombstones : ∀ db, (f db).refundTombstones = db.refundTombstones) :
    (execute f).Ensures (onDb SameReservations) := by
  intro s u s' h_ok
  have h_db := of_execute_ok h_ok
  exact ⟨by rw [h_db, h_markers], by rw [h_db, h_tombstones]⟩

theorem query_sameReservations {α : Type} (f : Database → α) :
    (query f).Ensures (onDb SameReservations) := by
  intro s a s' h_ok
  have h_db := (of_query_ok h_ok).2
  exact ⟨by rw [h_db], by rw [h_db]⟩

theorem confirmState_sameReservations (id : BucketId) (currentTime : ℚ) :
    (confirmState id currentTime).Ensures (onDb SameReservations) := by
  intro s u s' h_ok
  have h_db := of_confirmState_ok h_ok
  exact ⟨by rw [h_db], by rw [h_db]⟩

theorem raise_ensures {α : Type} {rel : TxnState → TxnState → Prop} (error : BackendError) :
    (raise error : Txn α).Ensures rel := by
  intro s a s' h_ok
  cases h_ok

theorem pure_sameReservations {α : Type} (a : α) :
    (pure a : Txn α).Ensures (onDb SameReservations) :=
  Body.Ensures.pure (fun s => SameReservations.refl s.db) a

theorem lift_sameReservations {α : Type} (x : Except BackendError α) :
    (Body.lift x : Txn α).Ensures (onDb SameReservations) :=
  Body.Ensures.lift (fun s => SameReservations.refl s.db) x

theorem when_sameReservations {condition : Bool} {body : Txn Unit}
    (h_body : body.Ensures (onDb SameReservations)) :
    (Body.when condition body).Ensures (onDb SameReservations) :=
  Body.Ensures.when (fun s => SameReservations.refl s.db) fun _ => h_body

theorem bind_sameReservations {α β : Type} {body : Txn α} {next : α → Txn β}
    (h_body : body.Ensures (onDb SameReservations))
    (h_next : ∀ a, (next a).Ensures (onDb SameReservations)) :
    (body >>= next).Ensures (onDb SameReservations) :=
  Body.Ensures.bind (fun s s' s'' => SameReservations.trans s.db s'.db s''.db) h_body h_next

theorem loadStates_sameReservations (e : SqliteEngine) (currentTime : ℚ)
    (ids : List BucketId) : (e.loadStates currentTime ids).Ensures (onDb SameReservations) := by
  induction ids with
  | nil => exact pure_sameReservations _
  | cons id ids ih =>
    refine bind_sameReservations (query_sameReservations _) fun row => ?_
    refine bind_sameReservations (lift_sameReservations _) fun loaded => ?_
    refine bind_sameReservations
      (execute_sameReservations (fun _ => rfl) fun _ => rfl) fun _ => ?_
    refine bind_sameReservations ?_ fun _ => ?_
    · exact when_sameReservations (confirmState_sameReservations _ _)
    · exact bind_sameReservations ih fun _ => pure_sameReservations _

theorem writeCapacities_sameReservations (e : SqliteEngine) (capacities : Capacities)
    (currentTime : ℚ) (ids : List BucketId) :
    (e.writeCapacities capacities currentTime ids).Ensures (onDb SameReservations) := by
  induction ids with
  | nil => exact pure_sameReservations _
  | cons id ids ih =>
    refine bind_sameReservations (query_sameReservations _) fun row => ?_
    cases row with
    | none => exact raise_ensures _
    | some row =>
      refine bind_sameReservations (lift_sameReservations _) fun row' => ?_
      refine bind_sameReservations
        (execute_sameReservations (fun _ => rfl) fun _ => rfl) fun _ => ?_
      exact bind_sameReservations (confirmState_sameReservations _ _) fun _ => ih

theorem clearOverrides_sameReservations (e : SqliteEngine) (states : BucketId → BucketState)
    (configuredMaxCapacities : BucketId → Option ℚ) (currentTime : ℚ)
    (ids : List BucketId) :
    (e.clearOverrides states configuredMaxCapacities currentTime ids).Ensures
      (onDb SameReservations) := by
  induction ids with
  | nil => exact pure_sameReservations _
  | cons id ids ih =>
    refine bind_sameReservations (lift_sameReservations _) fun _ => ?_
    exact bind_sameReservations (execute_sameReservations (fun _ => rfl) fun _ => rfl)
      fun _ => ih

theorem bind_aged {α β : Type} {body : Txn α} {next : α → Txn β}
    (h_body : body.Ensures (onDb (Aged currentTime)))
    (h_next : ∀ a, (next a).Ensures (onDb (Aged currentTime))) :
    (body >>= next).Ensures (onDb (Aged currentTime)) :=
  Body.Ensures.bind (fun s s' s'' => Aged.trans currentTime s.db s'.db s''.db) h_body h_next

theorem execute_aged {f : Database → Database} (h_aged : ∀ db, Aged currentTime db (f db)) :
    (execute f).Ensures (onDb (Aged currentTime)) := by
  intro s u s' h_ok
  unfold onDb
  rw [of_execute_ok h_ok]
  exact h_aged s.db

/-- Pruning drops expired rows only. -/
theorem prune_aged (input : TxnInput) :
    (prune input).Ensures (onDb (Aged input.currentTime)) := by
  refine bind_aged (execute_aged fun db => ?_) fun _ =>
    bind_aged (execute_aged fun db => ?_) fun _ => execute_aged fun db => ?_
  · refine ⟨fun key row h_row => (Option.filter_eq_some_iff.mp h_row).1,
      fun key row h_row h_live => ?_, fun _ _ h_row => h_row⟩
    refine Option.filter_eq_some_iff.mpr ⟨h_row, ?_⟩
    simp [not_le.mpr h_live]
  · exact ⟨fun _ _ h_row => h_row, fun _ _ h_row _ => h_row,
      fun _ _ h_row => (Option.filter_eq_some_iff.mp h_row).1⟩
  · exact ⟨fun _ _ h_row => h_row, fun _ _ h_row _ => h_row, fun _ _ h_row => h_row⟩

/-- A marker read as live is in the table; one read as absent is gone from it. -/
theorem readLiveMarker_ok {key : ReservationKey} {marker : Option MarkerRow}
    (h_ok : readLiveMarker key currentTime s = .ok marker s') :
    Aged currentTime s.db s'.db ∧ s'.db.acquireMarkers key = marker ∧
      s'.db.refundTombstones = s.db.refundTombstones := by
  obtain ⟨row, s₁, h_read, h_ok⟩ := Body.of_bind_ok h_ok
  obtain ⟨h_row, h_s₁⟩ := of_query_ok h_read
  obtain ⟨_, s₂, h_drop, h_ok⟩ := Body.of_bind_ok h_ok
  obtain ⟨rfl, rfl⟩ := Body.of_pure_ok h_ok
  cases row with
  | none =>
    obtain ⟨_, rfl⟩ := Body.of_pure_ok h_drop
    rw [h_s₁]
    exact ⟨Aged.refl _ _, h_row.symm, rfl⟩
  | some row =>
    by_cases h_live : currentTime < row.expiresAt
    · rw [Option.any_some, decide_eq_false (not_le.mpr h_live)] at h_drop
      obtain ⟨_, rfl⟩ := Body.of_pure_ok h_drop
      rw [h_s₁]
      exact ⟨Aged.refl _ _, by simp [← h_row, Option.filter, h_live], rfl⟩
    · rw [Option.any_some, decide_eq_true (not_lt.mp h_live)] at h_drop
      have h_db := of_execute_ok h_drop
      rw [h_db, h_s₁]
      refine ⟨aged_putMarker_none fun row' h_row' => ?_, ?_, rfl⟩
      · rw [← h_row] at h_row'
        cases h_row'
        exact not_lt.mp h_live
      · simp [Database.putMarker, Option.filter, h_live]

/-- A marker that is read has not expired. -/
theorem readLiveMarker_live {key : ReservationKey} {marker : MarkerRow}
    (h_ok : readLiveMarker key currentTime s = .ok (some marker) s') :
    currentTime < marker.expiresAt := by
  obtain ⟨row, s₁, _, h_ok⟩ := Body.of_bind_ok h_ok
  obtain ⟨_, s₂, _, h_ok⟩ := Body.of_bind_ok h_ok
  obtain ⟨h_read, _⟩ := Body.of_pure_ok h_ok
  obtain ⟨_, h_live⟩ := Option.filter_eq_some_iff.mp h_read.symm
  exact of_decide_eq_true h_live

/-- A tombstone read as live is in the table; one read as absent is gone from it. -/
theorem readLiveTombstone_ok {key : ReservationKey} {tombstone : Option TombstoneRow}
    (h_ok : readLiveTombstone key currentTime s = .ok tombstone s') :
    Aged currentTime s.db s'.db ∧ s'.db.refundTombstones key = tombstone ∧
      s'.db.acquireMarkers = s.db.acquireMarkers := by
  obtain ⟨row, s₁, h_read, h_ok⟩ := Body.of_bind_ok h_ok
  obtain ⟨h_row, h_s₁⟩ := of_query_ok h_read
  obtain ⟨_, s₂, h_drop, h_ok⟩ := Body.of_bind_ok h_ok
  obtain ⟨rfl, rfl⟩ := Body.of_pure_ok h_ok
  cases row with
  | none =>
    obtain ⟨_, rfl⟩ := Body.of_pure_ok h_drop
    rw [h_s₁]
    exact ⟨Aged.refl _ _, h_row.symm, rfl⟩
  | some row =>
    by_cases h_live : currentTime < row.expiresAt
    · rw [Option.any_some, decide_eq_false (not_le.mpr h_live)] at h_drop
      obtain ⟨_, rfl⟩ := Body.of_pure_ok h_drop
      rw [h_s₁]
      exact ⟨Aged.refl _ _, by simp [← h_row, Option.filter, h_live], rfl⟩
    · rw [Option.any_some, decide_eq_true (not_lt.mp h_live)] at h_drop
      have h_db := of_execute_ok h_drop
      rw [h_db, h_s₁]
      exact ⟨aged_putTombstone_none _ _ _,
        by simp [Database.putTombstone, Option.filter, h_live], rfl⟩

/-- The duplicate check drops the expired rows of its id.  When it lets an id
    through, neither table has a row for it. -/
theorem raiseIfDuplicateAcquire_ok {reservationId : Option ReservationId}
    {usage : FrozenUsage} {replayed : Bool}
    (h_ok : e.raiseIfDuplicateAcquire reservationId currentTime usage s = .ok replayed s') :
    Aged currentTime s.db s'.db ∧ ∀ rid, reservationId = some rid → replayed = false →
      s'.db.acquireMarkers (e.reservationKey rid) = none ∧
        s'.db.refundTombstones (e.reservationKey rid) = none := by
  cases reservationId with
  | none =>
    obtain ⟨rfl, rfl⟩ := Body.of_pure_ok h_ok
    exact ⟨Aged.refl _ _, fun _ h_rid => by cases h_rid⟩
  | some rid =>
    obtain ⟨marker, s₁, h_marker, h_ok⟩ := Body.of_bind_ok h_ok
    obtain ⟨h_aged₁, h_marker, _⟩ := readLiveMarker_ok h_marker
    obtain ⟨tombstone, s₂, h_tombstone, h_ok⟩ := Body.of_bind_ok h_ok
    obtain ⟨h_aged₂, h_tombstone, h_markers⟩ := readLiveTombstone_ok h_tombstone
    have h_aged := Aged.trans _ _ _ _ h_aged₁ h_aged₂
    cases marker with
    | some marker =>
      simp only at h_ok
      split at h_ok
      · obtain ⟨rfl, rfl⟩ := Body.of_pure_ok h_ok
        exact ⟨h_aged, fun _ _ h_false => by cases h_false⟩
      · cases h_ok
    | none =>
      cases tombstone with
      | some tombstone => cases h_ok
      | none =>
        obtain ⟨rfl, rfl⟩ := Body.of_pure_ok h_ok
        refine ⟨h_aged, fun rid' h_rid _ => ?_⟩
        cases h_rid
        exact ⟨by rw [h_markers, h_marker], h_tombstone⟩

/-- A verified reservation has a live marker row and no tombstone row. -/
theorem verifyMarker_ok {rid : ReservationId} {family : String} {ids : Finset BucketId}
    {usage : FrozenUsage} {u : Unit}
    (h_ok : e.verifyMarker rid family ids usage currentTime s = .ok u s') :
    Aged currentTime s.db s'.db ∧
      (∃ row, s'.db.acquireMarkers (e.reservationKey rid) = some row) ∧
      s'.db.refundTombstones (e.reservationKey rid) = none := by
  obtain ⟨tombstone, s₁, h_tombstone, h_ok⟩ := Body.of_bind_ok h_ok
  obtain ⟨h_aged₁, h_tombstone, _⟩ := readLiveTombstone_ok h_tombstone
  cases tombstone with
  | some tombstone => cases h_ok
  | none =>
    obtain ⟨marker, s₂, h_marker, h_ok⟩ := Body.of_bind_ok h_ok
    obtain ⟨h_aged₂, h_marker, h_tombstones⟩ := readLiveMarker_ok h_marker
    cases marker with
    | none => cases h_ok
    | some marker =>
      simp only at h_ok
      split at h_ok
      · obtain ⟨rfl, rfl⟩ := Body.of_pure_ok h_ok
        exact ⟨Aged.trans _ _ _ _ h_aged₁ h_aged₂, ⟨marker, h_marker⟩,
          by rw [h_tombstones, h_tombstone]⟩
      · cases h_ok

/-- An authorized refund of a reservation finds its marker row and no tombstone. -/
theorem authorizeRefund_ok {refund : RefundRequest} {u : Unit}
    (h_ok : e.authorizeRefund refund currentTime s = .ok u s') :
    Aged currentTime s.db s'.db ∧ ∀ rid, refund.reservationId = some rid →
      (∃ row, s'.db.acquireMarkers (e.reservationKey rid) = some row) ∧
        s'.db.refundTombstones (e.reservationKey rid) = none := by
  obtain ⟨reserved, actual, bucketIds, reservationId, family, markerIds, markerUsage⟩ := refund
  cases reservationId with
  | none =>
    obtain ⟨_, rfl⟩ := Body.of_pure_ok h_ok
    exact ⟨Aged.refl _ _, fun _ h_rid => by cases h_rid⟩
  | some rid =>
    -- without all three metadata fields the refund is refused
    cases family with
    | none => cases h_ok
    | some family =>
      cases markerIds with
      | none => cases h_ok
      | some markerIds =>
        cases markerUsage with
        | none => cases h_ok
        | some markerUsage =>
          obtain ⟨h_aged, h_rows⟩ := verifyMarker_ok h_ok
          refine ⟨h_aged, fun rid' h_rid => ?_⟩
          cases h_rid
          exact h_rows

/-- A marker is inserted for its lifetime. -/
theorem insertMarker_ok {reservationId : Option ReservationId} {usage : FrozenUsage}
    {lifetime : Option ℚ} {u : Unit}
    (h_ok : e.insertMarker reservationId usage lifetime currentTime s = .ok u s') :
    (reservationId = none ∧ s'.db = s.db) ∨
      ∃ rid l, reservationId = some rid ∧ lifetime = some l ∧
        s'.db = s.db.putMarker (e.reservationKey rid)
          (some ⟨e.modelFamily, e.bucketIds, usage, currentTime, currentTime + l⟩) := by
  cases reservationId with
  | none =>
    obtain ⟨_, rfl⟩ := Body.of_pure_ok h_ok
    exact .inl ⟨rfl, rfl⟩
  | some rid =>
    cases lifetime with
    | none => cases h_ok
    | some l =>
      unfold insertMarker at h_ok
      simp only at h_ok
      split at h_ok
      · cases h_ok
      · obtain ⟨present, s₁, h_present, h_ok⟩ := Body.of_bind_ok h_ok
        obtain ⟨rfl, h_s₁⟩ := of_query_ok h_present
        split at h_ok
        · cases h_ok
        · have h_db := of_execute_ok h_ok
          rw [h_s₁] at h_db
          exact .inr ⟨rid, l, rfl, rfl, h_db⟩

/-- Burying takes the marker row away and leaves a tombstone row for the id. -/
theorem buryMarker_ok {reservationId : Option ReservationId} {u : Unit}
    (h_ok : e.buryMarker reservationId currentTime s = .ok u s') :
    (reservationId = none ∧ s'.db = s.db) ∨
      ∃ rid row tombstone, reservationId = some rid ∧
        s.db.acquireMarkers (e.reservationKey rid) = some row ∧
        s'.db = (s.db.putMarker (e.reservationKey rid) none).putTombstone
          (e.reservationKey rid) (some tombstone) := by
  unfold buryMarker at h_ok
  split at h_ok
  · obtain ⟨_, rfl⟩ := Body.of_pure_ok h_ok
    exact .inl ⟨rfl, rfl⟩
  · rename_i rid
    obtain ⟨marker, s₁, h_marker, h_ok⟩ := Body.of_bind_ok h_ok
    obtain ⟨rfl, h_s₁⟩ := of_query_ok h_marker
    split at h_ok
    · cases h_ok
    · rename_i h_present
      obtain ⟨_, s₂, h_drop, h_ok⟩ := Body.of_bind_ok h_ok
      have h_s₂ := of_execute_ok h_drop
      obtain ⟨tombstone, s₃, h_tombstone, h_ok⟩ := Body.of_bind_ok h_ok
      obtain ⟨rfl, h_s₃⟩ := of_query_ok h_tombstone
      split at h_ok
      · cases h_ok
      · have h_db := of_execute_ok h_ok
        rw [h_s₃, h_s₂, h_s₁] at h_db
        obtain ⟨row, h_row⟩ := Option.isSome_iff_exists.mp
          (by simpa [Option.isSome_iff_ne_none] using h_present)
        exact .inr ⟨rid, row, _, rfl, h_row, h_db⟩

/-! ## Transactions -/

section Transaction

variable {α : Type} {input : TxnInput} {db db' : Database} {e' : SqliteEngine}

/-- A committed transaction ran its body, and confirms what the body says. -/
theorem transaction_commit {body : Txn α} {a : α}
    (h_ok : e.transaction input db body = (.ok a, e', db')) :
    ∃ s, body ⟨db, fun _ => none, input.interruptAfter⟩ = .ok a s ∧
      e' = e.confirm s.pendingStateConfirmations ∧ db' = s.db := by
  unfold transaction at h_ok
  simp only at h_ok
  split at h_ok
  · rename_i b s h_body
    obtain ⟨a', s₁, h_run, h_rest⟩ := Body.of_bind_ok (atomically_ok h_body)
    obtain ⟨_, s₂, h_commit, h_pure⟩ := Body.of_bind_ok h_rest
    obtain ⟨h_a, h_s₂⟩ := Body.of_pure_ok h_pure
    obtain ⟨h_db, h_pending⟩ := of_execute_state h_commit
    cases h_ok
    rw [h_a, h_s₂, h_pending, h_db]
    exact ⟨s₁, h_run, rfl, rfl⟩
  · cases h_ok

/-- A committed transaction ran its body. -/
theorem transaction_ok {body : Txn α} {a : α}
    (h_ok : e.transaction input db body = (.ok a, e', db')) :
    ∃ s, body ⟨db, fun _ => none, input.interruptAfter⟩ = .ok a s ∧ db' = s.db := by
  obtain ⟨s, h_run, _, h_db⟩ := transaction_commit h_ok
  exact ⟨s, h_run, h_db⟩

/-- A transaction that raises leaves the database and the engine as they were. -/
theorem transaction_error {body : Txn α} {error : BackendError}
    (h_error : e.transaction input db body = (.error error, e', db')) :
    e' = e ∧ db' = db := by
  unfold transaction at h_error
  simp only at h_error
  split at h_error
  · cases h_error
  · rename_i h_body
    have h_same := atomically_error h_body
    cases h_error
    exact ⟨rfl, by rw [h_same]⟩

end Transaction

end SqliteEngine

end TokenThrottle
