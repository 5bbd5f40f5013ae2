/-
  TokenThrottle.Sqlite.Transactions

  At most one credit per reservation on a shared SQLite store, over every serial
  order of the transactions of any number of engines.

  A ledger records, beside the database, every consumption under a reservation id
  and every credit given back for one.  Each call makes one `Entry` in it;
  `call_effect` says what the entry means for the two reservation tables, and
  `Accounted` is the invariant that ties the tables to the ledger.
-/
import TokenThrottle.Sqlite.Steps
import TokenThrottle.Theory.Runs

namespace TokenThrottle

open Theory (Body Run Steps exists_run_of_exec exec)

/-! ## The ledger -/

/-- A consumption under a reservation id: the marker row it left, and how often it
    has been credited back. -/
structure Consumption where
  marker : MarkerRow
  credits : ℕ

/-- What a call means to the ledger. -/
inductive Entry
  | nothing
  | opened (key : ReservationKey) (marker : MarkerRow)
  | credited (key : ReservationKey)

/-- The consumptions of each reservation id, newest first, and the credits given for
    an id that was never consumed. -/
structure Ledger where
  history : ReservationKey → List Consumption
  strayCredits : ℕ

namespace Ledger

def empty : Ledger where
  history _ := []
  strayCredits := 0

/-- A credit goes to the newest consumption of its id. -/
def enter (ledger : Ledger) : Entry → Ledger
  | .nothing => ledger
  | .opened key marker =>
    { ledger with
      history := Function.update ledger.history key (⟨marker, 0⟩ :: ledger.history key) }
  | .credited key =>
    match ledger.history key with
    | [] => { ledger with strayCredits := ledger.strayCredits + 1 }
    | consumption :: earlier =>
      { ledger with
        history := Function.update ledger.history key
          ({ consumption with credits := consumption.credits + 1 } :: earlier) }

end Ledger

namespace SqliteEngine

/-- The entry of a consumption that was not a replay. -/
def opens (e : SqliteEngine) (input : TxnInput) (usage : FrozenUsage) :
    Option ReservationId → Option ℚ → Entry
  | some rid, some lifetime =>
    .opened (e.reservationKey rid)
      ⟨e.modelFamily, e.bucketIds, usage, input.currentTime, input.currentTime + lifetime⟩
  | _, _ => .nothing

/-- The entry of a refund or a cleanup. -/
def credits (e : SqliteEngine) : Option ReservationId → Entry
  | some rid => .credited (e.reservationKey rid)
  | none => .nothing

/-- The entry of a call that ended with the given result. -/
def entry (e : SqliteEngine) (input : TxnInput) (request : EngineRequest)
    (result : Except BackendError Outcome) : Entry :=
  match request, result with
  | .tryConsume usage reservationId lifetime, .ok .consumed =>
    e.opens input usage reservationId lifetime
  | .consume usage reservationId lifetime, .ok .consumed =>
    e.opens input usage reservationId lifetime
  | .refund refund _, .ok _ => e.credits refund.reservationId
  | .cleanupConsumption _ _ reservationId, .ok _ => e.credits reservationId
  | _, _ => .nothing

end SqliteEngine

/-! ## What a call does to the reservation tables -/

/-- The tables after a call, by the entry it makes. -/
inductive Effect (currentTime : ℚ) (db db' : Database) : Entry → Prop
  | nothing : Aged currentTime db db' → Effect currentTime db db' .nothing
  | opened {aged : Database} {key : ReservationKey} {marker : MarkerRow} :
      Aged currentTime db aged → aged.acquireMarkers key = none →
      aged.refundTombstones key = none →
      SameReservations (aged.putMarker key (some marker)) db' →
      Effect currentTime db db' (.opened key marker)
  | credited {aged : Database} {key : ReservationKey} {marker : MarkerRow}
      {tombstone : Option TombstoneRow} :
      Aged currentTime db aged → aged.acquireMarkers key = some marker →
      SameReservations ((aged.putMarker key none).putTombstone key tombstone) db' →
      Effect currentTime db db' (.credited key)

namespace SqliteEngine

variable {e e' : SqliteEngine} {input : TxnInput} {db db' : Database} {s s' : TxnState}

theorem SameReservations.putMarker {db db' : Database} (h_same : SameReservations db db')
    (key : ReservationKey) (row : Option MarkerRow) :
    SameReservations (db.putMarker key row) (db'.putMarker key row) :=
  ⟨by simp only [Database.putMarker, h_same.1], h_same.2⟩

/-- The end of a consumption: the rows are written and the marker is inserted. -/
theorem opens_effect {aged : Database} {usage : FrozenUsage}
    {reservationId : Option ReservationId} {lifetime : Option ℚ} {u : Unit}
    (h_aged : Aged input.currentTime db aged)
    (h_absent : ∀ rid, reservationId = some rid →
      aged.acquireMarkers (e.reservationKey rid) = none ∧
        aged.refundTombstones (e.reservationKey rid) = none)
    (h_same : SameReservations aged s.db)
    (h_insert : e.insertMarker reservationId usage lifetime input.currentTime s = .ok u s') :
    Effect input.currentTime db s'.db (e.opens input usage reservationId lifetime) := by
  obtain ⟨rfl, h_db⟩ | ⟨rid, l, rfl, rfl, h_db⟩ := insertMarker_ok h_insert
  · rw [h_db]
    exact .nothing (Aged.trans _ _ _ _ h_aged (h_same.aged _))
  · obtain ⟨h_marker, h_tombstone⟩ := h_absent rid rfl
    rw [h_db]
    exact .opened h_aged h_marker h_tombstone (SameReservations.putMarker h_same _ _)

theorem tryConsume_effect {usage : FrozenUsage} {reservationId : Option ReservationId}
    {lifetime : Option ℚ} {result : TryConsumeResult}
    (h_ok : e.tryConsume input db usage reservationId lifetime = (.ok result, e', db')) :
    Effect input.currentTime db db'
      (e.entry input (.tryConsume usage reservationId lifetime) (.ok result.outcome)) := by
  obtain ⟨s, h_run, rfl⟩ := transaction_ok h_ok
  obtain ⟨_, s₁, h_prune, h_ok⟩ := Body.of_bind_ok h_run
  obtain ⟨replayed, s₂, h_duplicate, h_ok⟩ := Body.of_bind_ok h_ok
  obtain ⟨h_aged, h_absent⟩ := raiseIfDuplicateAcquire_ok h_duplicate
  obtain ⟨states, s₃, h_load, h_ok⟩ := Body.of_bind_ok h_ok
  have h_aged := Aged.trans _ _ _ _ (prune_aged input _ _ _ h_prune) h_aged
  have h_same : SameReservations s₂.db s₃.db := loadStates_sameReservations _ _ _ _ _ _ h_load
  have h_loaded := Aged.trans _ _ _ _ h_aged (h_same.aged _)
  cases replayed with
  | true =>
    obtain ⟨rfl, rfl⟩ := Body.of_pure_ok h_ok
    exact .nothing h_loaded
  | false =>
    simp only [Bool.false_eq_true, if_false] at h_ok
    split at h_ok
    · cases h_ok
    · split at h_ok
      · obtain ⟨rfl, rfl⟩ := Body.of_pure_ok h_ok
        exact .nothing h_loaded
      · obtain ⟨_, s₄, h_write, h_ok⟩ := Body.of_bind_ok h_ok
        obtain ⟨_, s₅, h_insert, h_ok⟩ := Body.of_bind_ok h_ok
        obtain ⟨rfl, rfl⟩ := Body.of_pure_ok h_ok
        have h_written : SameReservations s₃.db s₄.db :=
          writeCapacities_sameReservations _ _ _ _ _ _ _ h_write
        exact opens_effect h_aged (fun rid h_rid => h_absent rid h_rid rfl)
          (SameReservations.trans _ _ _ h_same h_written) h_insert

theorem consume_effect {usage : FrozenUsage} {reservationId : Option ReservationId}
    {lifetime : Option ℚ} {result : CapacityResult}
    (h_ok : e.consume input db usage reservationId lifetime = (.ok result, e', db')) :
    Effect input.currentTime db db'
      (e.entry input (.consume usage reservationId lifetime) (.ok result.outcome)) := by
  obtain ⟨s, h_run, rfl⟩ := transaction_ok h_ok
  obtain ⟨_, s₁, h_prune, h_ok⟩ := Body.of_bind_ok h_run
  obtain ⟨replayed, s₂, h_duplicate, h_ok⟩ := Body.of_bind_ok h_ok
  obtain ⟨h_aged, h_absent⟩ := raiseIfDuplicateAcquire_ok h_duplicate
  obtain ⟨states, s₃, h_load, h_ok⟩ := Body.of_bind_ok h_ok
  have h_aged := Aged.trans _ _ _ _ (prune_aged input _ _ _ h_prune) h_aged
  have h_same : SameReservations s₂.db s₃.db := loadStates_sameReservations _ _ _ _ _ _ h_load
  cases replayed with
  | true =>
    obtain ⟨rfl, rfl⟩ := Body.of_pure_ok h_ok
    exact .nothing (Aged.trans _ _ _ _ h_aged (h_same.aged _))
  | false =>
    obtain ⟨_, s₄, h_write, h_ok⟩ := Body.of_bind_ok h_ok
    obtain ⟨_, s₅, h_insert, h_ok⟩ := Body.of_bind_ok h_ok
    obtain ⟨rfl, rfl⟩ := Body.of_pure_ok h_ok
    have h_written : SameReservations s₃.db s₄.db :=
      writeCapacities_sameReservations _ _ _ _ _ _ _ h_write
    exact opens_effect h_aged (fun rid h_rid => h_absent rid h_rid rfl)
      (SameReservations.trans _ _ _ h_same h_written) h_insert

/-- The end of a credit: the rows are written and the marker row is taken away. -/
theorem credits_effect {aged : Database} {reservationId : Option ReservationId}
    (h_aged : Aged input.currentTime db aged) (h_same : SameReservations aged s.db)
    (h_drop : (reservationId = none ∧ s'.db = s.db) ∨
      ∃ rid row tombstone, reservationId = some rid ∧
        s.db.acquireMarkers (e.reservationKey rid) = some row ∧
        s'.db = (s.db.putMarker (e.reservationKey rid) none).putTombstone
          (e.reservationKey rid) tombstone) :
    Effect input.currentTime db s'.db (e.credits reservationId) := by
  have h_written := Aged.trans _ _ _ _ h_aged (h_same.aged _)
  obtain ⟨rfl, h_db⟩ | ⟨rid, row, tombstone, rfl, h_row, h_db⟩ := h_drop
  · rw [h_db]
    exact .nothing h_written
  · exact .credited h_written h_row ⟨by rw [h_db], by rw [h_db]⟩

theorem refund_effect {refund : RefundRequest} {refundBucketIds : Finset BucketId}
    {result : RefundResult}
    (h_ok : e.refund input db refund refundBucketIds = (.ok result, e', db')) :
    Effect input.currentTime db db' (e.credits refund.reservationId) := by
  unfold SqliteEngine.refund at h_ok
  split at h_ok
  · cases h_ok
  · obtain ⟨s, h_run, rfl⟩ := transaction_ok h_ok
    obtain ⟨_, s₁, h_prune, h_ok⟩ := Body.of_bind_ok h_run
    obtain ⟨_, s₂, h_authorize, h_ok⟩ := Body.of_bind_ok h_ok
    obtain ⟨states, s₃, h_load, h_ok⟩ := Body.of_bind_ok h_ok
    split at h_ok
    · cases h_ok
    · obtain ⟨_, s₄, h_write, h_ok⟩ := Body.of_bind_ok h_ok
      obtain ⟨_, s₅, h_bury, h_ok⟩ := Body.of_bind_ok h_ok
      obtain ⟨rfl, rfl⟩ := Body.of_pure_ok h_ok
      have h_loaded : SameReservations s₂.db s₃.db :=
        loadStates_sameReservations _ _ _ _ _ _ h_load
      have h_written : SameReservations s₃.db s₄.db :=
        writeCapacities_sameReservations _ _ _ _ _ _ _ h_write
      refine credits_effect (Aged.trans _ _ _ _ (prune_aged input _ _ _ h_prune)
        (authorizeRefund_ok h_authorize).1) (SameReservations.trans _ _ _ h_loaded h_written) ?_
      obtain h_none | ⟨rid, row, tombstone, h_rid, h_row, h_db⟩ := buryMarker_ok h_bury
      · exact .inl h_none
      · exact .inr ⟨rid, row, some tombstone, h_rid, h_row, h_db⟩

theorem cleanupConsumption_effect {usage : FrozenUsage} {bucketIds : Finset BucketId}
    {reservationId : Option ReservationId} {u : Unit}
    (h_ok : e.cleanupConsumption input db usage bucketIds reservationId = (.ok u, e', db')) :
    Effect input.currentTime db db' (e.credits reservationId) := by
  obtain ⟨s, h_run, rfl⟩ := transaction_ok h_ok
  obtain ⟨_, s₁, h_prune, h_ok⟩ := Body.of_bind_ok h_run
  obtain ⟨absent, s₂, h_absent, h_ok⟩ := Body.of_bind_ok h_ok
  split at h_ok
  · cases h_ok
  · rename_i h_present
    obtain ⟨states, s₃, h_load, h_ok⟩ := Body.of_bind_ok h_ok
    obtain ⟨_, s₄, h_write, h_drop⟩ := Body.of_bind_ok h_ok
    have h_loaded : SameReservations s₂.db s₃.db :=
      loadStates_sameReservations _ _ _ _ _ _ h_load
    have h_written : SameReservations s₃.db s₄.db :=
      writeCapacities_sameReservations _ _ _ _ _ _ _ h_write
    have h_same := SameReservations.trans _ _ _ h_loaded h_written
    have h_pruned := prune_aged input _ _ _ h_prune
    cases reservationId with
    | none =>
      obtain ⟨_, rfl⟩ := Body.of_pure_ok h_drop
      obtain ⟨_, rfl⟩ := Body.of_pure_ok h_absent
      exact credits_effect h_pruned h_same (.inl ⟨rfl, rfl⟩)
    | some rid =>
      obtain ⟨h_eq, h_s₂⟩ := of_query_ok h_absent
      rw [← h_s₂] at h_eq
      rw [h_eq, Option.isNone_iff_eq_none] at h_present
      obtain ⟨row, h_row⟩ := Option.ne_none_iff_exists'.mp h_present
      have h_aged : Aged input.currentTime db s₂.db := by
        rw [h_s₂]
        exact h_pruned
      refine credits_effect h_aged h_same
        (.inr ⟨rid, row, s₄.db.refundTombstones (e.reservationKey rid), rfl, ?_, ?_⟩)
      · rw [h_same.1, h_row]
      · rw [of_execute_ok h_drop]
        simp [Database.putTombstone, Database.putMarker]

/-- A transaction that prunes and then leaves the reservation tables alone. -/
theorem maintenance_effect {α : Type} {body : Txn α} {a : α}
    (h_body : body.Ensures (onDb SameReservations))
    (h_ok : e.transaction input db (prune input >>= fun _ => body) = (.ok a, e', db')) :
    Effect input.currentTime db db' .nothing := by
  obtain ⟨s, h_run, rfl⟩ := transaction_ok h_ok
  obtain ⟨_, s₁, h_prune, h_ok⟩ := Body.of_bind_ok h_run
  have h_same : SameReservations s₁.db s.db := h_body _ _ _ h_ok
  exact .nothing (Aged.trans _ _ _ _ (prune_aged input _ _ _ h_prune) (h_same.aged _))

theorem setMaxCapacity_effect {id : BucketId} {value : ℚ} {u : Unit}
    (h_ok : e.setMaxCapacity input db id value = (.ok u, e', db')) :
    Effect input.currentTime db db' .nothing := by
  unfold setMaxCapacity at h_ok
  split at h_ok
  · cases h_ok
  · split at h_ok
    · cases h_ok
    · refine maintenance_effect ?_ h_ok
      refine bind_sameReservations (loadStates_sameReservations _ _ _) fun states => ?_
      refine bind_sameReservations (lift_sameReservations _) fun retention => ?_
      refine bind_sameReservations ?_ fun _ => ?_
      · exact when_sameReservations (writeCapacities_sameReservations _ _ _ _)
      · exact execute_sameReservations (fun _ => rfl) fun _ => rfl

theorem of_takeOver_ok {id : BucketId} {value : MaxCapacity} {u : Unit}
    {result : Except BackendError Unit × SqliteEngine × Database}
    (h_ok : takeOverMaxCapacity id value result = (.ok u, e', db')) :
    ∃ e'', result = (.ok u, e'', db') ∧ e' = { e'' with
      configuredMaxCapacity := Function.update e''.configuredMaxCapacity id value } := by
  obtain ⟨value, e'', db''⟩ := result
  cases value with
  | error error => cases h_ok
  | ok u =>
    cases h_ok
    exact ⟨e'', rfl, rfl⟩

theorem of_takeOver_error {id : BucketId} {value : MaxCapacity} {error : BackendError}
    {result : Except BackendError Unit × SqliteEngine × Database}
    (h_error : takeOverMaxCapacity id value result = (.error error, e', db')) :
    result = (.error error, e', db') := by
  obtain ⟨value, e'', db''⟩ := result
  cases value with
  | error error' =>
    cases h_error
    rfl
  | ok u => cases h_error

theorem applyConfiguredMaxCapacity_effect {id : BucketId} {value : ℚ} {u : Unit}
    (h_ok : e.applyConfiguredMaxCapacity input db id value = (.ok u, e', db')) :
    Effect input.currentTime db db' .nothing := by
  unfold applyConfiguredMaxCapacity at h_ok
  split at h_ok
  · cases h_ok
  · split at h_ok
    · cases h_ok
    · obtain ⟨e'', h_transaction, _⟩ := of_takeOver_ok h_ok
      refine maintenance_effect ?_ h_transaction
      refine bind_sameReservations (loadStates_sameReservations _ _ _) fun states => ?_
      refine bind_sameReservations (lift_sameReservations _) fun retention => ?_
      refine bind_sameReservations ?_ fun _ => ?_
      · exact when_sameReservations (writeCapacities_sameReservations _ _ _ _)
      · exact execute_sameReservations (fun _ => rfl) fun _ => rfl

theorem clearMaxCapacityOverrides_effect {bucketIds : Finset BucketId}
    {configuredMaxCapacities : BucketId → Option ℚ} {u : Unit}
    (h_ok : e.clearMaxCapacityOverrides input db bucketIds configuredMaxCapacities =
      (.ok u, e', db')) : Effect input.currentTime db db' .nothing := by
  unfold clearMaxCapacityOverrides at h_ok
  simp only at h_ok
  split at h_ok
  · cases h_ok
    exact .nothing (Aged.refl _ _)
  · refine maintenance_effect ?_ h_ok
    refine bind_sameReservations (loadStates_sameReservations _ _ _) fun states => ?_
    refine bind_sameReservations (writeCapacities_sameReservations _ _ _ _) fun _ => ?_
    exact clearOverrides_sameReservations _ _ _ _ _

/-! ## Calls -/

theorem of_answer_ok {α : Type} {outcome : α → Outcome}
    {result : Except BackendError α × SqliteEngine × Database} {o : Outcome}
    (h_ok : answer outcome result = (.ok o, e', db')) :
    ∃ a, result = (.ok a, e', db') ∧ o = outcome a := by
  obtain ⟨value, e'', db''⟩ := result
  cases value with
  | error error => cases h_ok
  | ok a =>
    cases h_ok
    exact ⟨a, rfl, rfl⟩

theorem of_answer_error {α : Type} {outcome : α → Outcome}
    {result : Except BackendError α × SqliteEngine × Database} {error : BackendError}
    (h_error : answer outcome result = (.error error, e', db')) :
    result = (.error error, e', db') := by
  obtain ⟨value, e'', db''⟩ := result
  cases value with
  | error error' =>
    cases h_error
    rfl
  | ok a => cases h_error

/-- Every call that ends has the effect its entry stands for. -/
theorem call_effect {request : EngineRequest} {outcome : Outcome}
    (h_ok : e.call input db request = (.ok outcome, e', db')) :
    Effect input.currentTime db db' (e.entry input request (.ok outcome)) := by
  cases request with
  | tryConsume usage reservationId lifetime =>
    obtain ⟨result, h_call, rfl⟩ := of_answer_ok h_ok
    exact tryConsume_effect h_call
  | consume usage reservationId lifetime =>
    obtain ⟨result, h_call, rfl⟩ := of_answer_ok h_ok
    exact consume_effect h_call
  | refund refund refundBucketIds =>
    obtain ⟨result, h_call, rfl⟩ := of_answer_ok h_ok
    exact refund_effect h_call
  | cleanupConsumption usage bucketIds reservationId =>
    obtain ⟨result, h_call, rfl⟩ := of_answer_ok h_ok
    exact cleanupConsumption_effect h_call
  | setMaxCapacity id value =>
    obtain ⟨result, h_call, rfl⟩ := of_answer_ok h_ok
    exact setMaxCapacity_effect h_call
  | applyConfiguredMaxCapacity id value =>
    obtain ⟨result, h_call, rfl⟩ := of_answer_ok h_ok
    exact applyConfiguredMaxCapacity_effect h_call
  | clearMaxCapacityOverrides bucketIds configuredMaxCapacities =>
    obtain ⟨result, h_call, rfl⟩ := of_answer_ok h_ok
    exact clearMaxCapacityOverrides_effect h_call

section Raises

variable {error : BackendError} {id : BucketId} {value : ℚ}

theorem refund_error {refund : RefundRequest} {refundBucketIds : Finset BucketId}
    (h_error : e.refund input db refund refundBucketIds = (.error error, e', db')) :
    e' = e ∧ db' = db := by
  unfold SqliteEngine.refund at h_error
  split at h_error
  · cases h_error
    exact ⟨rfl, rfl⟩
  · exact transaction_error h_error

theorem setMaxCapacity_error
    (h_error : e.setMaxCapacity input db id value = (.error error, e', db')) :
    e' = e ∧ db' = db := by
  unfold setMaxCapacity at h_error
  split at h_error
  · cases h_error
    exact ⟨rfl, rfl⟩
  · split at h_error
    · cases h_error
      exact ⟨rfl, rfl⟩
    · exact transaction_error h_error

theorem applyConfiguredMaxCapacity_error
    (h_error : e.applyConfiguredMaxCapacity input db id value = (.error error, e', db')) :
    e' = e ∧ db' = db := by
  unfold applyConfiguredMaxCapacity at h_error
  split at h_error
  · cases h_error
    exact ⟨rfl, rfl⟩
  · split at h_error
    · cases h_error
      exact ⟨rfl, rfl⟩
    · exact transaction_error (of_takeOver_error h_error)

theorem clearMaxCapacityOverrides_error {bucketIds : Finset BucketId}
    {configuredMaxCapacities : BucketId → Option ℚ}
    (h_error : e.clearMaxCapacityOverrides input db bucketIds configuredMaxCapacities =
      (.error error, e', db')) : e' = e ∧ db' = db := by
  unfold clearMaxCapacityOverrides at h_error
  simp only at h_error
  split at h_error
  · cases h_error
  · exact transaction_error h_error

/-- A call that raises changes no row and no engine. -/
theorem call_error {request : EngineRequest}
    (h_error : e.call input db request = (.error error, e', db')) : e' = e ∧ db' = db := by
  cases request with
  | tryConsume usage reservationId lifetime =>
    exact transaction_error (of_answer_error h_error)
  | consume usage reservationId lifetime =>
    exact transaction_error (of_answer_error h_error)
  | refund refund refundBucketIds => exact refund_error (of_answer_error h_error)
  | cleanupConsumption usage bucketIds reservationId =>
    exact transaction_error (of_answer_error h_error)
  | setMaxCapacity id value => exact setMaxCapacity_error (of_answer_error h_error)
  | applyConfiguredMaxCapacity id value =>
    exact applyConfiguredMaxCapacity_error (of_answer_error h_error)
  | clearMaxCapacityOverrides bucketIds configuredMaxCapacities =>
    exact clearMaxCapacityOverrides_error (of_answer_error h_error)

end Raises

end SqliteEngine

/-! ## The ledger and the tables agree -/

/-- The reservation tables hold exactly what the ledger says they should. -/
structure Accounted (ledger : Ledger) (db : Database) (clock : ℚ) : Prop where
  noStray : ledger.strayCredits = 0
  credits_le : ∀ key, ∀ consumption ∈ ledger.history key, consumption.credits ≤ 1
  disjoint : ∀ key, db.acquireMarkers key = none ∨ db.refundTombstones key = none
  marker_newest : ∀ key row, db.acquireMarkers key = some row →
    ∃ earlier, ledger.history key = ⟨row, 0⟩ :: earlier
  marker_kept : ∀ key newest earlier, ledger.history key = newest :: earlier →
    newest.credits = 0 →
      db.acquireMarkers key = some newest.marker ∨ newest.marker.expiresAt ≤ clock
  earlier_expired : ∀ key newest earlier, ledger.history key = newest :: earlier →
    ∀ consumption ∈ earlier, consumption.credits = 0 → consumption.marker.expiresAt ≤ clock

namespace Accounted

variable {ledger : Ledger} {db db' : Database} {clock currentTime : ℚ}

theorem empty (clock : ℚ) : Accounted .empty .empty clock where
  noStray := rfl
  credits_le _ _ h_mem := by cases h_mem
  disjoint _ := .inl rfl
  marker_newest _ _ h_row := by cases h_row
  marker_kept _ _ _ h_history := by cases h_history
  earlier_expired _ _ _ h_history := by cases h_history

theorem aged (h_acc : Accounted ledger db clock) (h_clock : clock ≤ currentTime)
    (h_aged : Aged currentTime db db') : Accounted ledger db' currentTime where
  noStray := h_acc.noStray
  credits_le := h_acc.credits_le
  disjoint key := by
    cases h_marker : db'.acquireMarkers key with
    | none => exact .inl rfl
    | some row =>
      right
      rw [Option.eq_none_iff_forall_ne_some]
      intro tombstone h_tombstone
      have h_row := h_aged.marker_of key row h_marker
      have h_stone := h_aged.tombstone_of key tombstone h_tombstone
      rcases h_acc.disjoint key with h_none | h_none
      · rw [h_none] at h_row
        cases h_row
      · rw [h_none] at h_stone
        cases h_stone
  marker_newest key row h_row := h_acc.marker_newest key row (h_aged.marker_of key row h_row)
  marker_kept key newest earlier h_history h_zero := by
    rcases h_acc.marker_kept key newest earlier h_history h_zero with h_row | h_expired
    · by_cases h_live : currentTime < newest.marker.expiresAt
      · exact .inl (h_aged.marker_kept key _ h_row h_live)
      · exact .inr (not_lt.mp h_live)
    · exact .inr (h_expired.trans h_clock)
  earlier_expired key newest earlier h_history consumption h_mem h_zero :=
    (h_acc.earlier_expired key newest earlier h_history consumption h_mem h_zero).trans h_clock

theorem same (h_acc : Accounted ledger db clock) (h_same : SameReservations db db') :
    Accounted ledger db' clock :=
  h_acc.aged (le_refl clock) (h_same.aged clock)

/-- Without a marker row, whatever has not been credited has expired. -/
theorem expired_of_no_marker {key : ReservationKey} {consumption : Consumption}
    (h_acc : Accounted ledger db clock) (h_marker : db.acquireMarkers key = none)
    (h_mem : consumption ∈ ledger.history key) (h_zero : consumption.credits = 0) :
    consumption.marker.expiresAt ≤ clock := by
  cases h_history : ledger.history key with
  | nil =>
    rw [h_history] at h_mem
    cases h_mem
  | cons newest earlier =>
    rw [h_history, List.mem_cons] at h_mem
    rcases h_mem with rfl | h_mem
    · rcases h_acc.marker_kept key _ earlier h_history h_zero with h_row | h_expired
      · rw [h_marker] at h_row
        cases h_row
      · exact h_expired
    · exact h_acc.earlier_expired key newest earlier h_history consumption h_mem h_zero

/-- A marker where there was neither a marker nor a tombstone opens a consumption. -/
theorem opened {key : ReservationKey} {marker : MarkerRow} (h_acc : Accounted ledger db clock)
    (h_marker : db.acquireMarkers key = none) (h_tombstone : db.refundTombstones key = none) :
    Accounted (ledger.enter (.opened key marker)) (db.putMarker key (some marker)) clock where
  noStray := h_acc.noStray
  credits_le key' consumption h_mem := by
    by_cases h_key : key' = key
    · subst h_key
      simp only [Ledger.enter, Function.update_self, List.mem_cons] at h_mem
      rcases h_mem with rfl | h_mem
      · exact Nat.zero_le 1
      · exact h_acc.credits_le key' consumption h_mem
    · simp only [Ledger.enter, Function.update_of_ne h_key] at h_mem
      exact h_acc.credits_le key' consumption h_mem
  disjoint key' := by
    by_cases h_key : key' = key
    · subst h_key
      exact .inr h_tombstone
    · simp only [Database.putMarker, Function.update_of_ne h_key]
      exact h_acc.disjoint key'
  marker_newest key' row h_row := by
    by_cases h_key : key' = key
    · subst h_key
      simp only [Database.putMarker, Function.update_self, Option.some.injEq] at h_row
      subst h_row
      exact ⟨ledger.history key', by simp [Ledger.enter]⟩
    · simp only [Database.putMarker, Function.update_of_ne h_key] at h_row
      simp only [Ledger.enter, Function.update_of_ne h_key]
      exact h_acc.marker_newest key' row h_row
  marker_kept key' newest earlier h_history h_zero := by
    by_cases h_key : key' = key
    · subst h_key
      simp only [Ledger.enter, Function.update_self, List.cons.injEq] at h_history
      obtain ⟨rfl, _⟩ := h_history
      exact .inl (by simp [Database.putMarker])
    · simp only [Ledger.enter, Function.update_of_ne h_key] at h_history
      simp only [Database.putMarker, Function.update_of_ne h_key]
      exact h_acc.marker_kept key' newest earlier h_history h_zero
  earlier_expired key' newest earlier h_history consumption h_mem h_zero := by
    by_cases h_key : key' = key
    · subst h_key
      simp only [Ledger.enter, Function.update_self, List.cons.injEq] at h_history
      obtain ⟨_, h_history⟩ := h_history
      exact h_acc.expired_of_no_marker h_marker (h_history ▸ h_mem) h_zero
    · simp only [Ledger.enter, Function.update_of_ne h_key] at h_history
      exact h_acc.earlier_expired key' newest earlier h_history consumption h_mem h_zero

/-- Taking away a marker credits the newest consumption, for the first time. -/
theorem credited {key : ReservationKey} {marker : MarkerRow}
    {tombstone : Option TombstoneRow} (h_acc : Accounted ledger db clock)
    (h_marker : db.acquireMarkers key = some marker) :
    Accounted (ledger.enter (.credited key))
      ((db.putMarker key none).putTombstone key tombstone) clock := by
  -- a marker that is there belongs to the newest consumption, which has no credit yet
  obtain ⟨earlier, h_history⟩ := h_acc.marker_newest key marker h_marker
  have h_enter : ledger.enter (.credited key) =
      { ledger with history := Function.update ledger.history key (⟨marker, 1⟩ :: earlier) } := by
    simp [Ledger.enter, h_history]
  have h_earlier : ∀ consumption ∈ earlier, consumption ∈ ledger.history key := by
    intro consumption h_mem
    rw [h_history]
    exact List.mem_cons_of_mem _ h_mem
  rw [h_enter]
  refine ⟨h_acc.noStray, ?_, ?_, ?_, ?_, ?_⟩
  · intro key' consumption h_mem
    by_cases h_key : key' = key
    · subst h_key
      simp only [Function.update_self, List.mem_cons] at h_mem
      rcases h_mem with rfl | h_mem
      · exact le_refl 1
      · exact h_acc.credits_le key' consumption (h_earlier consumption h_mem)
    · simp only [Function.update_of_ne h_key] at h_mem
      exact h_acc.credits_le key' consumption h_mem
  · intro key'
    by_cases h_key : key' = key
    · subst h_key
      exact .inl (by simp [Database.putTombstone, Database.putMarker])
    · simp only [Database.putTombstone, Database.putMarker, Function.update_of_ne h_key]
      exact h_acc.disjoint key'
  · intro key' row h_row
    by_cases h_key : key' = key
    · subst h_key
      simp [Database.putTombstone, Database.putMarker] at h_row
    · simp only [Database.putTombstone, Database.putMarker,
        Function.update_of_ne h_key] at h_row
      simp only [Function.update_of_ne h_key]
      exact h_acc.marker_newest key' row h_row
  · intro key' newest others h_newest h_zero
    by_cases h_key : key' = key
    · subst h_key
      simp only [Function.update_self, List.cons.injEq] at h_newest
      obtain ⟨rfl, _⟩ := h_newest
      cases h_zero
    · simp only [Function.update_of_ne h_key] at h_newest
      simp only [Database.putTombstone, Database.putMarker, Function.update_of_ne h_key]
      exact h_acc.marker_kept key' newest others h_newest h_zero
  · intro key' newest others h_newest consumption h_mem h_zero
    by_cases h_key : key' = key
    · subst h_key
      simp only [Function.update_self, List.cons.injEq] at h_newest
      obtain ⟨_, rfl⟩ := h_newest
      exact h_acc.earlier_expired key' _ earlier h_history consumption h_mem h_zero
    · simp only [Function.update_of_ne h_key] at h_newest
      exact h_acc.earlier_expired key' newest others h_newest consumption h_mem h_zero

/-- Every call keeps the tables and the ledger together. -/
theorem effect {entry : Entry} (h_acc : Accounted ledger db clock)
    (h_clock : clock ≤ currentTime) (h_effect : Effect currentTime db db' entry) :
    Accounted (ledger.enter entry) db' currentTime := by
  cases h_effect with
  | nothing h_aged => exact h_acc.aged h_clock h_aged
  | opened h_aged h_marker h_tombstone h_same =>
    exact ((h_acc.aged h_clock h_aged).opened h_marker h_tombstone).same h_same
  | credited h_aged h_marker h_same =>
    exact ((h_acc.aged h_clock h_aged).credited h_marker).same h_same

end Accounted

/-! ## Runs of the shared store -/

/-- The database that the engines `ι` share, with the latest clock reading and the
    ledger of what was consumed and credited so far. -/
structure SharedStore (ι : Type) where
  db : Database
  engine : ι → SqliteEngine
  clock : ℚ
  ledger : Ledger

namespace SharedStore

variable {ι : Type} [DecidableEq ι]

def init (engine : ι → SqliteEngine) (clock : ℚ) : SharedStore ι where
  db := .empty
  engine := engine
  clock := clock
  ledger := .empty

/-- One transaction of one engine; the clock does not run backwards. -/
def step (s : SharedStore ι) : ι × TxnInput × EngineRequest → Option (SharedStore ι)
  | (who, input, request) =>
    if s.clock ≤ input.currentTime then
      let (result, e, db) := (s.engine who).call input s.db request
      some
        { db := db
          engine := Function.update s.engine who e
          clock := input.currentTime
          ledger := s.ledger.enter ((s.engine who).entry input request result) }
    else none

/-- The store's tables agree with its ledger. -/
def InAccount (s : SharedStore ι) : Prop := Accounted s.ledger s.db s.clock

theorem step_inAccount {s s' : SharedStore ι} {call : ι × TxnInput × EngineRequest}
    (h_acc : s.InAccount) (h_step : Steps step s call s') : s'.InAccount := by
  obtain ⟨who, input, request⟩ := call
  unfold Steps step at h_step
  simp only at h_step
  split at h_step
  · rename_i h_clock
    rcases h_call : (s.engine who).call input s.db request with ⟨result, e, db⟩
    rw [h_call] at h_step
    cases h_step
    cases result with
    | ok outcome => exact Accounted.effect h_acc h_clock (SqliteEngine.call_effect h_call)
    | error error =>
      -- a call that raises makes no entry and leaves the tables as they were
      obtain ⟨_, rfl⟩ := SqliteEngine.call_error h_call
      have h_entry : (s.engine who).entry input request (.error error) = .nothing := by
        cases request <;> rfl
      unfold InAccount
      rw [h_entry]
      exact Accounted.aged h_acc h_clock (Aged.refl _ _)
  · cases h_step

/-- In every serial order of the calls of any engines: a consumption is credited at
    most once and only if there was one; a marker row and a tombstone row of an id
    never coexist; the marker row is that of the newest consumption until this is
    credited or has expired; and a call that raises changes nothing. -/
theorem run_credited_at_most_once (engine : ι → SqliteEngine) (start : ℚ)
    {calls : List (ι × TxnInput × EngineRequest)} {s : SharedStore ι}
    (h_run : Run (Steps step) (init engine start) calls s) :
    s.ledger.strayCredits = 0 ∧
    (∀ key, ∀ consumption ∈ s.ledger.history key, consumption.credits ≤ 1) ∧
    (∀ key, s.db.acquireMarkers key = none ∨ s.db.refundTombstones key = none) ∧
    (∀ key row, s.db.acquireMarkers key = some row →
      ∃ earlier, s.ledger.history key = ⟨row, 0⟩ :: earlier) ∧
    (∀ key, ∀ consumption ∈ s.ledger.history key, consumption.credits = 0 →
      s.db.acquireMarkers key = some consumption.marker ∨
        consumption.marker.expiresAt ≤ s.clock) ∧
    (∀ who input request error e' db',
      (s.engine who).call input s.db request = (.error error, e', db') → db' = s.db) := by
  have h_acc : s.InAccount :=
    h_run.invariant (fun _ _ _ => step_inAccount) (Accounted.empty start)
  refine ⟨h_acc.noStray, h_acc.credits_le, h_acc.disjoint, h_acc.marker_newest, ?_, ?_⟩
  · intro key consumption h_mem h_zero
    cases h_history : s.ledger.history key with
    | nil =>
      rw [h_history] at h_mem
      cases h_mem
    | cons newest earlier =>
      rw [h_history, List.mem_cons] at h_mem
      rcases h_mem with rfl | h_mem
      · exact h_acc.marker_kept key _ earlier h_history h_zero
      · exact .inr (h_acc.earlier_expired key newest earlier h_history consumption h_mem h_zero)
  · intro who input request error e' db' h_error
    exact (SqliteEngine.call_error h_error).2

/-- A run of two engines: one consumes 60 of 100 tokens under `a`, the other refunds
    40 of them, and a second refund, interrupted in the middle, changes nothing. -/
def consumeThenRefund : List (Bool × TxnInput × EngineRequest) :=
  let refund : RefundRequest :=
    ⟨tokens 60, tokens 20, none, some "a", some "m", some {tokensPerMinute}, some (tokens 60)⟩
  [(false, .at 0, .tryConsume (tokens 60) (some "a") (some 3600)),
   (true, { TxnInput.at 1 with interruptAfter := some 5 }, .refund refund {tokensPerMinute}),
   (true, .at 1, .refund refund {tokensPerMinute}),
   (false, .at 2, .refund refund {tokensPerMinute})]

theorem run_credited_at_most_once_consumeThenRefund :
    ∃ s, Run (Steps step) (init (fun _ : Bool => exampleEngine) 0) consumeThenRefund s ∧
      ((s.ledger.history ⟨"p", "a"⟩).map Consumption.credits = [1] ∧
        (s.db.buckets ⟨"p", "m", tokensPerMinute⟩).bind BucketRow.capacity = some (245 / 3)) ∧
      s.ledger.strayCredits = 0 := by
  obtain ⟨s, h_run, h_state⟩ :
      ∃ s, Run (Steps step) (init (fun _ : Bool => exampleEngine) 0) consumeThenRefund s ∧
        ((s.ledger.history ⟨"p", "a"⟩).map Consumption.credits = [1] ∧
          (s.db.buckets ⟨"p", "m", tokensPerMinute⟩).bind BucketRow.capacity = some (245 / 3)) :=
    exists_run_of_exec (by decide +kernel)
  exact ⟨s, h_run, h_state, (run_credited_at_most_once _ _ h_run).1⟩

end SharedStore

end TokenThrottle
