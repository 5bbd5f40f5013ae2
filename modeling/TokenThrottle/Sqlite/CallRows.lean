/-
  TokenThrottle.Sqlite.CallRows

  What the calls of an engine do to the bucket table: a committed call takes each row
  along a path of `RowStep`s, and a call that changes a limit ends it with a `Limited`
  step.  `call_rows` is the result every property of the bucket table rests on.

  * `SameBuckets` is what the statements on markers and tombstones keep.
  * `loadStates_rows`, `writeCapacities_rows` and `clearOverrides_rows` say of each loop
    what it makes of every single row.
-/
import TokenThrottle.Sqlite.Reconfigure
import TokenThrottle.Sqlite.RowSteps
import TokenThrottle.Sqlite.Transactions

namespace TokenThrottle

open Theory (Body)

/-- The request is to give the bucket another configured limit. -/
def EngineRequest.relimits (request : EngineRequest) (id : BucketId) : Bool :=
  match request with
  | .applyConfiguredMaxCapacity target _ => id = target
  | _ => false

/-! ## The parts of a transaction -/

/-- The view of a bucket in a transaction of `e`. -/
def TxnState.view (s : TxnState) (e : SqliteEngine) (id : BucketId) : RowView :=
  ⟨s.db.buckets (e.bucketKey id), s.pendingStateConfirmations id⟩

/-- The bucket table and the confirmations are as before. -/
def SameBuckets (s s' : TxnState) : Prop :=
  s'.db.buckets = s.db.buckets ∧ s'.pendingStateConfirmations = s.pendingStateConfirmations

theorem SameBuckets.refl (s : TxnState) : SameBuckets s s := ⟨rfl, rfl⟩

theorem SameBuckets.trans (s s' s'' : TxnState) (h_first : SameBuckets s s')
    (h_second : SameBuckets s' s'') : SameBuckets s s'' :=
  ⟨h_second.1.trans h_first.1, h_second.2.trans h_first.2⟩

theorem SameBuckets.view_eq {s s' : TxnState} (h_same : SameBuckets s s') (e : SqliteEngine)
    (id : BucketId) : s'.view e id = s.view e id := by
  unfold TxnState.view
  rw [h_same.1, h_same.2]

/-- The row that `_prune` leaves of one with the given key. -/
def TxnInput.prunedRow (input : TxnInput) (key : BucketKey) (row : Option BucketRow) :
    Option BucketRow :=
  row.filter fun row =>
    ¬ (row.expiresAt ≤ input.currentTime ∧ ¬ row.overrideLive input.currentTime ∧
      input.prunesBucket key)

theorem of_query_state {α : Type} {f : Database → α} {s s' : TxnState} {a : α}
    (h_ok : query f s = .ok a s') : a = f s.db ∧ SameBuckets s s' := by
  unfold query statement at h_ok
  split at h_ok
  · cases h_ok
  · cases h_ok
    exact ⟨rfl, rfl, rfl⟩

namespace SqliteEngine

variable {e e' : SqliteEngine} {input : TxnInput} {currentTime : ℚ} {s s' : TxnState}

theorem execute_sameBuckets {f : Database → Database}
    (h_buckets : ∀ db, (f db).buckets = db.buckets) : (execute f).Ensures SameBuckets := by
  intro s u s' h_ok
  obtain ⟨h_db, h_pending⟩ := of_execute_state h_ok
  exact ⟨by rw [h_db, h_buckets], h_pending⟩

theorem query_sameBuckets {α : Type} (f : Database → α) : (query f).Ensures SameBuckets :=
  fun _ _ _ h_ok => (of_query_state h_ok).2

theorem bind_sameBuckets {α β : Type} {body : Txn α} {next : α → Txn β}
    (h_body : body.Ensures SameBuckets) (h_next : ∀ a, (next a).Ensures SameBuckets) :
    (body >>= next).Ensures SameBuckets :=
  Body.Ensures.bind SameBuckets.trans h_body h_next

theorem pure_sameBuckets {α : Type} (a : α) : (pure a : Txn α).Ensures SameBuckets :=
  Body.Ensures.pure SameBuckets.refl a

theorem when_sameBuckets {condition : Bool} {body : Txn Unit}
    (h_body : body.Ensures SameBuckets) : (Body.when condition body).Ensures SameBuckets :=
  Body.Ensures.when SameBuckets.refl fun _ => h_body

theorem readLiveMarker_sameBuckets (key : ReservationKey) (currentTime : ℚ) :
    (readLiveMarker key currentTime).Ensures SameBuckets := by
  refine bind_sameBuckets (query_sameBuckets _) fun _ => bind_sameBuckets ?_ fun _ => ?_
  · exact when_sameBuckets (execute_sameBuckets fun _ => rfl)
  · exact pure_sameBuckets _

theorem readLiveTombstone_sameBuckets (key : ReservationKey) (currentTime : ℚ) :
    (readLiveTombstone key currentTime).Ensures SameBuckets := by
  refine bind_sameBuckets (query_sameBuckets _) fun _ => bind_sameBuckets ?_ fun _ => ?_
  · exact when_sameBuckets (execute_sameBuckets fun _ => rfl)
  · exact pure_sameBuckets _

theorem raiseIfDuplicateAcquire_sameBuckets (e : SqliteEngine)
    (reservationId : Option ReservationId) (currentTime : ℚ) (usage : FrozenUsage) :
    (e.raiseIfDuplicateAcquire reservationId currentTime usage).Ensures SameBuckets := by
  cases reservationId with
  | none => exact pure_sameBuckets _
  | some rid =>
    refine bind_sameBuckets (readLiveMarker_sameBuckets _ _) fun marker =>
      bind_sameBuckets (readLiveTombstone_sameBuckets _ _) fun tombstone => ?_
    split
    · split
      · exact pure_sameBuckets _
      · exact raise_ensures _
    · exact raise_ensures _
    · exact pure_sameBuckets _

theorem insertMarker_sameBuckets (e : SqliteEngine) (reservationId : Option ReservationId)
    (usage : FrozenUsage) (lifetime : Option ℚ) (currentTime : ℚ) :
    (e.insertMarker reservationId usage lifetime currentTime).Ensures SameBuckets := by
  unfold insertMarker
  split
  · exact pure_sameBuckets _
  · exact raise_ensures _
  · split
    · exact raise_ensures _
    · refine bind_sameBuckets (query_sameBuckets _) fun marker => ?_
      split
      · exact raise_ensures _
      · exact execute_sameBuckets fun _ => rfl

theorem verifyMarker_sameBuckets (e : SqliteEngine) (rid : ReservationId) (family : String)
    (ids : Finset BucketId) (usage : FrozenUsage) (currentTime : ℚ) :
    (e.verifyMarker rid family ids usage currentTime).Ensures SameBuckets := by
  refine bind_sameBuckets (readLiveTombstone_sameBuckets _ _) fun tombstone => ?_
  split
  · exact raise_ensures _
  · refine bind_sameBuckets (readLiveMarker_sameBuckets _ _) fun marker => ?_
    split
    · exact raise_ensures _
    · split
      · exact pure_sameBuckets _
      · exact raise_ensures _

theorem authorizeRefund_sameBuckets (e : SqliteEngine) (refund : RefundRequest)
    (currentTime : ℚ) : (e.authorizeRefund refund currentTime).Ensures SameBuckets := by
  unfold authorizeRefund
  split
  · exact pure_sameBuckets _
  · split
    · exact verifyMarker_sameBuckets _ _ _ _ _ _
    · exact raise_ensures _

theorem buryMarker_sameBuckets (e : SqliteEngine) (reservationId : Option ReservationId)
    (currentTime : ℚ) : (e.buryMarker reservationId currentTime).Ensures SameBuckets := by
  unfold buryMarker
  split
  · exact pure_sameBuckets _
  · refine bind_sameBuckets (query_sameBuckets _) fun marker => ?_
    split
    · exact raise_ensures _
    · refine bind_sameBuckets (execute_sameBuckets fun _ => rfl) fun _ =>
        bind_sameBuckets (query_sameBuckets _) fun tombstone => ?_
      split
      · exact raise_ensures _
      · exact execute_sameBuckets fun _ => rfl

/-- Pruning drops expired rows and confirms nothing. -/
theorem prune_rows {u : Unit} (h_ok : prune input s = .ok u s') (id : BucketId) :
    s'.view e id = ⟨input.prunedRow (e.bucketKey id) (s.db.buckets (e.bucketKey id)),
      s.pendingStateConfirmations id⟩ := by
  obtain ⟨_, s₁, h_markers, h_ok⟩ := Body.of_bind_ok h_ok
  obtain ⟨_, s₂, h_tombstones, h_ok⟩ := Body.of_bind_ok h_ok
  obtain ⟨h_db₁, h_pending₁⟩ := of_execute_state h_markers
  obtain ⟨h_db₂, h_pending₂⟩ := of_execute_state h_tombstones
  obtain ⟨h_db, h_pending⟩ := of_execute_state h_ok
  unfold TxnState.view
  rw [h_db, h_db₂, h_db₁, h_pending, h_pending₂, h_pending₁]
  rfl

theorem pruned_path (e : SqliteEngine) (input : TxnInput) (row : Option BucketRow)
    (confirmedAt : Option ℚ) (id : BucketId) :
    RowPath e input.currentTime id ⟨row, confirmedAt⟩
      ⟨input.prunedRow (e.bucketKey id) row, confirmedAt⟩ := by
  cases row with
  | none => exact .refl
  | some row =>
    unfold TxnInput.prunedRow
    rw [Option.filter_some]
    split
    · exact .refl
    · rename_i h_pruned
      have h_pruned : row.expiresAt ≤ input.currentTime ∧
          row.overrideLive input.currentTime = false ∧
          input.prunesBucket (e.bucketKey id) = true := by simpa using h_pruned
      exact .single (.pruned h_pruned.1 h_pruned.2.1)

/-- Loading computes each given row by itself. -/
theorem loadStates_rows {ids : List BucketId} {states : BucketId → BucketState}
    (h_nodup : ids.Nodup) (h_ok : e.loadStates currentTime ids s = .ok states s') :
    (∀ id, id ∉ ids → s'.view e id = s.view e id) ∧
      ∀ id ∈ ids, ∃ loaded, loadRow (e.spec id) e.bucketTtlSeconds
          (e.stateLossSuspected id currentTime) true (s.db.buckets (e.bucketKey id))
          currentTime = .ok loaded ∧
        s'.view e id = ⟨some loaded.row,
          if loaded.confirmed then some currentTime else s.pendingStateConfirmations id⟩ ∧
        states id = loaded.state := by
  induction ids generalizing s s' states with
  | nil =>
    obtain ⟨_, rfl⟩ := Body.of_pure_ok h_ok
    exact ⟨fun _ _ => rfl, fun _ h_mem => absurd h_mem (List.not_mem_nil)⟩
  | cons id ids ih =>
    obtain ⟨h_notMem, h_nodup⟩ := List.nodup_cons.mp h_nodup
    unfold loadStates at h_ok
    obtain ⟨row, s₁, h_query, h_ok⟩ := Body.of_bind_ok h_ok
    obtain ⟨rfl, h_same⟩ := of_query_state h_query
    obtain ⟨loaded, s₂, h_lift, h_ok⟩ := Body.of_bind_ok h_ok
    obtain ⟨h_load, h_s₂⟩ := Body.of_lift_ok h_lift
    obtain ⟨_, s₃, h_put, h_ok⟩ := Body.of_bind_ok h_ok
    obtain ⟨h_db, h_pending⟩ := of_execute_state h_put
    rw [h_s₂] at h_db h_pending
    obtain ⟨_, s₄, h_confirm, h_ok⟩ := Body.of_bind_ok h_ok
    obtain ⟨rest, s₅, h_rest, h_ok⟩ := Body.of_bind_ok h_ok
    obtain ⟨h_states, h_s'⟩ := Body.of_pure_ok h_ok
    rw [h_states, h_s']
    -- what the first row's statements leave
    have h_view : s₄.view e id = ⟨some loaded.row,
        if loaded.confirmed then some currentTime else s.pendingStateConfirmations id⟩ := by
      cases h_confirmed : loaded.confirmed with
      | true =>
        rw [h_confirmed] at h_confirm
        cases h_confirm
        unfold TxnState.view
        simp [h_db, Database.putBucket]
      | false =>
        rw [h_confirmed] at h_confirm
        obtain ⟨_, rfl⟩ := Body.of_pure_ok h_confirm
        unfold TxnState.view
        rw [h_pending, h_same.2]
        simp [h_db, Database.putBucket]
    have h_others : ∀ id', id' ≠ id → s₄.view e id' = s.view e id' := by
      intro id' h_ne
      have h_key : e.bucketKey id' ≠ e.bucketKey id := fun h_eq => h_ne (by injection h_eq)
      cases h_confirmed : loaded.confirmed with
      | true =>
        rw [h_confirmed] at h_confirm
        cases h_confirm
        unfold TxnState.view
        simp [h_db, Database.putBucket, h_key, h_ne, h_pending, h_same.1, h_same.2]
      | false =>
        rw [h_confirmed] at h_confirm
        obtain ⟨_, rfl⟩ := Body.of_pure_ok h_confirm
        unfold TxnState.view
        simp [h_db, Database.putBucket, h_key, h_pending, h_same.1, h_same.2]
    obtain ⟨h_kept, h_loaded⟩ := ih h_nodup h_rest
    refine ⟨fun id' h_notMem' => ?_, fun id' h_mem => ?_⟩
    · rw [h_kept id' fun h => h_notMem' (List.mem_cons_of_mem _ h)]
      exact h_others id' fun h => h_notMem' (h ▸ List.mem_cons_self)
    · by_cases h_eq : id' = id
      · subst h_eq
        exact ⟨loaded, h_load, (h_kept id' h_notMem).trans h_view, Function.update_self ..⟩
      · obtain ⟨loaded', h_load', h_view', h_state'⟩ :=
          h_loaded id' (List.mem_of_ne_of_mem h_eq h_mem)
        have h_other := h_others id' h_eq
        unfold TxnState.view at h_other
        injection h_other with h_row h_confirmedAt
        rw [h_row] at h_load'
        rw [h_confirmedAt] at h_view'
        exact ⟨loaded', h_load', h_view', (Function.update_of_ne h_eq ..).trans h_state'⟩

/-- Writing computes each given row by itself. -/
theorem writeCapacities_rows {capacities : Capacities} {ids : List BucketId} {u : Unit}
    (h_nodup : ids.Nodup) (h_ok : e.writeCapacities capacities currentTime ids s = .ok u s') :
    (∀ id, id ∉ ids → s'.view e id = s.view e id) ∧
      ∀ id ∈ ids, ∃ row row', s.db.buckets (e.bucketKey id) = some row ∧
        writeRow (e.spec id) e.bucketTtlSeconds row (capacities id) currentTime = .ok row' ∧
        s'.view e id = ⟨some row', some currentTime⟩ := by
  induction ids generalizing s s' with
  | nil =>
    obtain ⟨_, rfl⟩ := Body.of_pure_ok h_ok
    exact ⟨fun _ _ => rfl, fun _ h_mem => absurd h_mem List.not_mem_nil⟩
  | cons id ids ih =>
    obtain ⟨h_notMem, h_nodup⟩ := List.nodup_cons.mp h_nodup
    unfold writeCapacities at h_ok
    obtain ⟨found, s₁, h_query, h_ok⟩ := Body.of_bind_ok h_ok
    obtain ⟨h_found, h_same⟩ := of_query_state h_query
    cases found with
    | none => cases h_ok
    | some row =>
      obtain ⟨row', s₂, h_lift, h_ok⟩ := Body.of_bind_ok h_ok
      obtain ⟨h_write, h_s₂⟩ := Body.of_lift_ok h_lift
      obtain ⟨_, s₃, h_put, h_ok⟩ := Body.of_bind_ok h_ok
      obtain ⟨h_db, h_pending⟩ := of_execute_state h_put
      obtain ⟨_, s₄, h_confirm, h_rest⟩ := Body.of_bind_ok h_ok
      rw [h_s₂] at h_db h_pending
      cases h_confirm
      have h_view : ∀ id', id' ≠ id → TxnState.view { s₃ with
          pendingStateConfirmations := Function.update s₃.pendingStateConfirmations id
            (some currentTime) } e id' = s.view e id' := by
        intro id' h_ne
        have h_key : e.bucketKey id' ≠ e.bucketKey id := fun h_eq => h_ne (by injection h_eq)
        unfold TxnState.view
        simp [h_db, Database.putBucket, h_key, h_ne, h_pending, h_same.1, h_same.2]
      obtain ⟨h_kept, h_written⟩ := ih h_nodup h_rest
      refine ⟨fun id' h_notMem' => ?_, fun id' h_mem => ?_⟩
      · rw [h_kept id' fun h => h_notMem' (List.mem_cons_of_mem _ h)]
        exact h_view id' fun h => h_notMem' (h ▸ List.mem_cons_self)
      · by_cases h_eq : id' = id
        · subst h_eq
          refine ⟨row, row', h_found.symm, h_write, (h_kept id' h_notMem).trans ?_⟩
          unfold TxnState.view
          simp [h_db, Database.putBucket]
        · obtain ⟨row₁, row₂, h_row₁, h_write', h_view'⟩ :=
            h_written id' (List.mem_of_ne_of_mem h_eq h_mem)
          have h_other := h_view id' h_eq
          injection h_other with h_row
          exact ⟨row₁, row₂, h_row.symm.trans h_row₁, h_write', h_view'⟩

/-- Clearing computes each given row by itself. -/
theorem clearOverrides_rows {states : BucketId → BucketState}
    {configuredMaxCapacities : BucketId → Option ℚ} {ids : List BucketId} {u : Unit}
    (h_nodup : ids.Nodup)
    (h_ok : e.clearOverrides states configuredMaxCapacities currentTime ids s = .ok u s') :
    (∀ id, id ∉ ids → s'.view e id = s.view e id) ∧
      ∀ id ∈ ids, ∃ retention : ℤ,
        debtTtlSeconds (states id).uncappedCapacity e.bucketTtlSeconds id.perSeconds
          ((configuredMaxCapacities id).getD (e.configuredMaxCapacity id).value)
          ((configuredMaxCapacities id).getD (e.configuredMaxCapacity id).value) =
            .ok retention ∧
        s'.view e id = ⟨(s.db.buckets (e.bucketKey id)).map fun row =>
          { row.withoutOverride with
            updatedAt := currentTime
            expiresAt := currentTime + retention }, s.pendingStateConfirmations id⟩ := by
  induction ids generalizing s s' with
  | nil =>
    obtain ⟨_, rfl⟩ := Body.of_pure_ok h_ok
    exact ⟨fun _ _ => rfl, fun _ h_mem => absurd h_mem List.not_mem_nil⟩
  | cons id ids ih =>
    obtain ⟨h_notMem, h_nodup⟩ := List.nodup_cons.mp h_nodup
    unfold clearOverrides at h_ok
    obtain ⟨retention, s₁, h_lift, h_ok⟩ := Body.of_bind_ok h_ok
    obtain ⟨h_retention, h_s₁⟩ := Body.of_lift_ok h_lift
    obtain ⟨_, s₂, h_clear, h_rest⟩ := Body.of_bind_ok h_ok
    obtain ⟨h_db, h_pending⟩ := of_execute_state h_clear
    rw [h_s₁] at h_db h_pending
    have h_others : ∀ id', id' ≠ id → s₂.view e id' = s.view e id' := by
      intro id' h_ne
      have h_key : e.bucketKey id' ≠ e.bucketKey id := fun h_eq => h_ne (by injection h_eq)
      unfold TxnState.view
      simp [h_db, Database.updateBucket, h_key, h_pending]
    obtain ⟨h_kept, h_cleared⟩ := ih h_nodup h_rest
    refine ⟨fun id' h_notMem' => ?_, fun id' h_mem => ?_⟩
    · rw [h_kept id' fun h => h_notMem' (List.mem_cons_of_mem _ h)]
      exact h_others id' fun h => h_notMem' (h ▸ List.mem_cons_self)
    · by_cases h_eq : id' = id
      · subst h_eq
        refine ⟨retention, h_retention, (h_kept id' h_notMem).trans ?_⟩
        unfold TxnState.view
        simp [h_db, Database.updateBucket, h_pending]
      · obtain ⟨retention', h_retention', h_view'⟩ :=
          h_cleared id' (List.mem_of_ne_of_mem h_eq h_mem)
        have h_other := h_others id' h_eq
        injection h_other with h_row h_confirmedAt
        rw [h_row, h_confirmedAt] at h_view'
        exact ⟨retention', h_retention', h_view'⟩

/-! ## The calls -/

/-- What the load of a transaction makes of a bucket. -/
def load (e : SqliteEngine) (input : TxnInput) (db : Database) (id : BucketId) :
    Except BackendError LoadedRow :=
  loadRow (e.spec id) e.bucketTtlSeconds (e.stateLossSuspected id input.currentTime) true
    (input.prunedRow (e.bucketKey id) (db.buckets (e.bucketKey id))) input.currentTime

/-- A transaction in which every bucket is loaded, and nothing was written since. -/
structure Opened (e : SqliteEngine) (input : TxnInput) (db : Database) (s : TxnState)
    (states : BucketId → BucketState) : Prop where
  path : ∀ id, RowPath e input.currentTime id ⟨db.buckets (e.bucketKey id), none⟩ (s.view e id)
  loaded : ∀ id ∈ e.buckets, ∃ loaded, e.load input db id = .ok loaded ∧
    s.db.buckets (e.bucketKey id) = some loaded.row ∧ states id = loaded.state

section Opened

variable {db db' : Database} {states : BucketId → BucketState}

theorem opened_of_runs {s₁ s₂ s₃ : TxnState} {left : Option ℕ} {u : Unit}
    (h_prune : prune input ⟨db, fun _ => none, left⟩ = .ok u s₁) (h_same : SameBuckets s₁ s₂)
    (h_load : e.loadStates input.currentTime e.buckets s₂ = .ok states s₃) :
    Opened e input db s₃ states := by
  have h_pruned : ∀ id, s₂.view e id =
      ⟨input.prunedRow (e.bucketKey id) (db.buckets (e.bucketKey id)), none⟩ := fun id =>
    (h_same.view_eq e id).trans (prune_rows h_prune id)
  have h_row : ∀ id, s₂.db.buckets (e.bucketKey id) =
      input.prunedRow (e.bucketKey id) (db.buckets (e.bucketKey id)) := fun id =>
    congrArg RowView.row (h_pruned id)
  have h_none : ∀ id, s₂.pendingStateConfirmations id = none := fun id =>
    congrArg RowView.confirmedAt (h_pruned id)
  obtain ⟨h_kept, h_loaded⟩ := loadStates_rows e.nodup h_load
  constructor
  · intro id
    have h_path := pruned_path e input (db.buckets (e.bucketKey id)) none id
    by_cases h_mem : id ∈ e.buckets
    · obtain ⟨loaded, h_ok, h_view, _⟩ := h_loaded id h_mem
      rw [h_row] at h_ok
      rw [h_none] at h_view
      rw [h_view]
      exact h_path.tail (.loaded h_mem h_ok)
    · rw [h_kept id h_mem, h_pruned]
      exact h_path
  · intro id h_mem
    obtain ⟨loaded, h_ok, h_view, h_state⟩ := h_loaded id h_mem
    rw [h_row] at h_ok
    exact ⟨loaded, h_ok, congrArg RowView.row h_view, h_state⟩

theorem writeRow_ok {spec : BucketSpec} {ttl : ℕ} {row row' : BucketRow} {amount : ℚ}
    (h_ok : writeRow spec ttl row amount currentTime = .ok row') :
    ∃ retention : ℤ, debtTtlSeconds amount ttl spec.id.perSeconds
        ((row.activeOverride spec currentTime).getD spec.configuredMaxCapacity.value)
        spec.configuredMaxCapacity.value = .ok retention ∧
      row' = row.withState (some amount) (some currentTime) currentTime
        (currentTime + retention) := by
  unfold writeRow at h_ok
  obtain ⟨retention, h_retention, h_ok⟩ := bind_eq_ok h_ok
  cases h_ok
  exact ⟨retention, h_retention, rfl⟩

/-- A loaded row has no expired override. -/
theorem Opened.overrideUnexpired (h_opened : Opened e input db s states) {id : BucketId}
    (h_mem : id ∈ e.buckets) {row : BucketRow}
    (h_row : s.db.buckets (e.bucketKey id) = some row) :
    row.OverrideUnexpired input.currentTime := by
  obtain ⟨loaded, h_load, h_loaded, _⟩ := h_opened.loaded id h_mem
  rw [h_loaded] at h_row
  cases h_row
  exact (loadRow_sound h_load).override

/-- Writing continues the path of each row. -/
theorem Opened.write (h_opened : Opened e input db s states) {capacities : Capacities}
    {ids : List BucketId} {u : Unit} (h_nodup : ids.Nodup) (h_sub : ∀ id ∈ ids, id ∈ e.buckets)
    (h_ok : e.writeCapacities capacities input.currentTime ids s = .ok u s') (id : BucketId) :
    RowPath e input.currentTime id ⟨db.buckets (e.bucketKey id), none⟩ (s'.view e id) := by
  obtain ⟨h_kept, h_written⟩ := writeCapacities_rows h_nodup h_ok
  by_cases h_mem : id ∈ ids
  · obtain ⟨row, row', h_row, h_write, h_view⟩ := h_written id h_mem
    have h_override := h_opened.overrideUnexpired (h_sub id h_mem) h_row
    have h_path := h_opened.path id
    unfold TxnState.view at h_path
    rw [h_row] at h_path
    rw [h_view]
    exact h_path.tail (.written (h_sub id h_mem) h_override h_write)
  · rw [h_kept id h_mem]
    exact h_opened.path id

/-- The end of a change of limit: a state that there is was written first. -/
theorem Opened.anchored (h_opened : Opened e input db s states) {ids : List BucketId} {u : Unit}
    (h_nodup : ids.Nodup)
    (h_ok : e.writeCapacities (fun id => (states id).uncappedCapacity) input.currentTime ids s =
      .ok u s') {id : BucketId} (h_mem : id ∈ e.buckets)
    (h_ids : id ∈ ids ↔ (states id).isFreshStart = false) :
    ∃ row, s'.db.buckets (e.bucketKey id) = some row ∧
      row.Anchored (states id).uncappedCapacity input.currentTime := by
  obtain ⟨loaded, h_load, h_row, h_state⟩ := h_opened.loaded id h_mem
  have h_sound := loadRow_sound h_load
  obtain ⟨h_kept, h_written⟩ := writeCapacities_rows h_nodup h_ok
  by_cases h_id : id ∈ ids
  · obtain ⟨row, row', _, h_write, h_view⟩ := h_written id h_id
    obtain ⟨retention, _, rfl⟩ := writeRow_ok h_write
    exact ⟨_, congrArg RowView.row h_view, .inr ⟨rfl, rfl⟩⟩
  · have h_fresh : (states id).isFreshStart = true := by
      rw [h_ids] at h_id
      simpa using h_id
    rw [h_state, h_sound.isFreshStart, Option.isNone_iff_eq_none] at h_fresh
    have h_last : loaded.row.lastChecked = none := by
      have h_paired : loaded.row.capacity.isSome = loaded.row.lastChecked.isSome := h_sound.paired
      rw [h_fresh] at h_paired
      simpa using h_paired.symm
    refine ⟨loaded.row, ?_, .inl ⟨h_fresh, h_last⟩⟩
    have h_view := congrArg RowView.row (h_kept id h_id)
    exact h_view.trans h_row

end Opened

/-- The configured limit of a bucket once a call is committed. -/
def limitAfter (e : SqliteEngine) : EngineRequest → BucketId → ℚ
  | .applyConfiguredMaxCapacity target value, id =>
    if id = target then value else (e.configuredMaxCapacity id).value
  | .clearMaxCapacityOverrides bucketIds configuredMaxCapacities, id =>
    if id ∈ e.buckets ∧ id ∈ bucketIds then
      (configuredMaxCapacities id).getD (e.configuredMaxCapacity id).value
    else (e.configuredMaxCapacity id).value
  | _, id => (e.configuredMaxCapacity id).value

theorem limitAfter_apply (e : SqliteEngine) (target : BucketId) (value : ℚ) (id : BucketId) :
    e.limitAfter (.applyConfiguredMaxCapacity target value) id =
      if id = target then value else (e.configuredMaxCapacity id).value := rfl

theorem limitAfter_clear (e : SqliteEngine) (bucketIds : Finset BucketId)
    (configuredMaxCapacities : BucketId → Option ℚ) (id : BucketId) :
    e.limitAfter (.clearMaxCapacityOverrides bucketIds configuredMaxCapacities) id =
      if id ∈ e.buckets ∧ id ∈ bucketIds then
        (configuredMaxCapacities id).getD (e.configuredMaxCapacity id).value
      else (e.configuredMaxCapacity id).value := rfl

/-- What a committed call leaves of every bucket row. -/
def Rewritten (e : SqliteEngine) (input : TxnInput) (db : Database)
    (relimits : BucketId → Bool) (limit : BucketId → ℚ) (confirmedAt : BucketId → Option ℚ)
    (db' : Database) : Prop :=
  ∀ id, Rewrites e input.currentTime id (relimits id) ⟨db.buckets (e.bucketKey id), none⟩
    (limit id) ⟨db'.buckets (e.bucketKey id), confirmedAt id⟩

section Calls

variable {db db' : Database} {α : Type}

/-- A path in the committed transaction is what the call leaves. -/
theorem rewritten_of_path {s : TxnState}
    (h_path : ∀ id, RowPath e input.currentTime id ⟨db.buckets (e.bucketKey id), none⟩
      (s.view e id)) :
    e.Rewritten input db (fun _ => false) (fun id => (e.configuredMaxCapacity id).value)
      s.pendingStateConfirmations s.db :=
  fun id => .kept rfl (h_path id)

theorem tryConsume_rows {usage : FrozenUsage} {reservationId : Option ReservationId}
    {lifetime : Option ℚ} {result : TryConsumeResult}
    (h_ok : e.tryConsume input db usage reservationId lifetime = (.ok result, e', db')) :
    ∃ confirmedAt, e' = e.confirm confirmedAt ∧
      e.Rewritten input db (fun _ => false) (fun id => (e.configuredMaxCapacity id).value)
        confirmedAt db' := by
  obtain ⟨s, h_run, rfl, rfl⟩ := transaction_commit h_ok
  refine ⟨_, rfl, rewritten_of_path ?_⟩
  obtain ⟨_, s₁, h_prune, h_run⟩ := Body.of_bind_ok h_run
  obtain ⟨replayed, s₂, h_duplicate, h_run⟩ := Body.of_bind_ok h_run
  obtain ⟨states, s₃, h_load, h_run⟩ := Body.of_bind_ok h_run
  have h_same := raiseIfDuplicateAcquire_sameBuckets _ _ _ _ _ _ _ h_duplicate
  have h_opened := opened_of_runs h_prune h_same h_load
  cases replayed with
  | true =>
    obtain ⟨_, rfl⟩ := Body.of_pure_ok h_run
    exact h_opened.path
  | false =>
    simp only [Bool.false_eq_true, if_false] at h_run
    split at h_run
    · cases h_run
    · split at h_run
      · obtain ⟨_, rfl⟩ := Body.of_pure_ok h_run
        exact h_opened.path
      · obtain ⟨_, s₄, h_write, h_run⟩ := Body.of_bind_ok h_run
        obtain ⟨_, s₅, h_insert, h_run⟩ := Body.of_bind_ok h_run
        obtain ⟨_, rfl⟩ := Body.of_pure_ok h_run
        intro id
        rw [(insertMarker_sameBuckets _ _ _ _ _ _ _ _ h_insert).view_eq e id]
        exact h_opened.write e.nodup (fun _ h => h) h_write id

theorem consume_rows {usage : FrozenUsage} {reservationId : Option ReservationId}
    {lifetime : Option ℚ} {result : CapacityResult}
    (h_ok : e.consume input db usage reservationId lifetime = (.ok result, e', db')) :
    ∃ confirmedAt, e' = e.confirm confirmedAt ∧
      e.Rewritten input db (fun _ => false) (fun id => (e.configuredMaxCapacity id).value)
        confirmedAt db' := by
  obtain ⟨s, h_run, rfl, rfl⟩ := transaction_commit h_ok
  refine ⟨_, rfl, rewritten_of_path ?_⟩
  obtain ⟨_, s₁, h_prune, h_run⟩ := Body.of_bind_ok h_run
  obtain ⟨replayed, s₂, h_duplicate, h_run⟩ := Body.of_bind_ok h_run
  obtain ⟨states, s₃, h_load, h_run⟩ := Body.of_bind_ok h_run
  have h_same := raiseIfDuplicateAcquire_sameBuckets _ _ _ _ _ _ _ h_duplicate
  have h_opened := opened_of_runs h_prune h_same h_load
  cases replayed with
  | true =>
    obtain ⟨_, rfl⟩ := Body.of_pure_ok h_run
    exact h_opened.path
  | false =>
    obtain ⟨_, s₄, h_write, h_run⟩ := Body.of_bind_ok h_run
    obtain ⟨_, s₅, h_insert, h_run⟩ := Body.of_bind_ok h_run
    obtain ⟨_, rfl⟩ := Body.of_pure_ok h_run
    intro id
    rw [(insertMarker_sameBuckets _ _ _ _ _ _ _ _ h_insert).view_eq e id]
    exact h_opened.write e.nodup (fun _ h => h) h_write id

theorem refund_rows {refund : RefundRequest} {refundBucketIds : Finset BucketId}
    {result : RefundResult}
    (h_ok : e.refund input db refund refundBucketIds = (.ok result, e', db')) :
    ∃ confirmedAt, e' = e.confirm confirmedAt ∧
      e.Rewritten input db (fun _ => false) (fun id => (e.configuredMaxCapacity id).value)
        confirmedAt db' := by
  unfold SqliteEngine.refund at h_ok
  split at h_ok
  · cases h_ok
  · obtain ⟨s, h_run, rfl, rfl⟩ := transaction_commit h_ok
    refine ⟨_, rfl, rewritten_of_path ?_⟩
    obtain ⟨_, s₁, h_prune, h_run⟩ := Body.of_bind_ok h_run
    obtain ⟨_, s₂, h_authorize, h_run⟩ := Body.of_bind_ok h_run
    obtain ⟨states, s₃, h_load, h_run⟩ := Body.of_bind_ok h_run
    have h_same := authorizeRefund_sameBuckets _ _ _ _ _ _ h_authorize
    have h_opened := opened_of_runs h_prune h_same h_load
    split at h_run
    · cases h_run
    · obtain ⟨_, s₄, h_write, h_run⟩ := Body.of_bind_ok h_run
      obtain ⟨_, s₅, h_bury, h_run⟩ := Body.of_bind_ok h_run
      obtain ⟨_, rfl⟩ := Body.of_pure_ok h_run
      intro id
      rw [(buryMarker_sameBuckets _ _ _ _ _ _ h_bury).view_eq e id]
      exact h_opened.write (e.nodup.filter _) (fun _ h => (List.mem_filter.mp h).1) h_write id

theorem cleanupConsumption_rows {usage : FrozenUsage} {bucketIds : Finset BucketId}
    {reservationId : Option ReservationId} {u : Unit}
    (h_ok : e.cleanupConsumption input db usage bucketIds reservationId = (.ok u, e', db')) :
    ∃ confirmedAt, e' = e.confirm confirmedAt ∧
      e.Rewritten input db (fun _ => false) (fun id => (e.configuredMaxCapacity id).value)
        confirmedAt db' := by
  obtain ⟨s, h_run, rfl, rfl⟩ := transaction_commit h_ok
  refine ⟨_, rfl, rewritten_of_path ?_⟩
  obtain ⟨_, s₁, h_prune, h_run⟩ := Body.of_bind_ok h_run
  obtain ⟨missing, s₂, h_check, h_run⟩ := Body.of_bind_ok h_run
  have h_same : SameBuckets s₁ s₂ := by
    cases reservationId with
    | none => exact pure_sameBuckets _ _ _ _ h_check
    | some rid => exact query_sameBuckets _ _ _ _ h_check
  split at h_run
  · cases h_run
  · obtain ⟨states, s₃, h_load, h_run⟩ := Body.of_bind_ok h_run
    have h_opened := opened_of_runs h_prune h_same h_load
    obtain ⟨_, s₄, h_write, h_run⟩ := Body.of_bind_ok h_run
    have h_drop : SameBuckets s₄ s := by
      cases reservationId with
      | none => exact pure_sameBuckets _ _ _ _ h_run
      | some rid =>
        exact execute_sameBuckets (f := (·.putMarker (e.reservationKey rid) none))
          (fun _ => rfl) _ _ _ h_run
    intro id
    rw [h_drop.view_eq e id]
    exact h_opened.write (e.nodup.filter _) (fun _ h => (List.mem_filter.mp h).1) h_write id

theorem when_write_eq (e : SqliteEngine) (fresh : Bool) (capacities : Capacities)
    (currentTime : ℚ) (id : BucketId) :
    Body.when (!fresh) (e.writeCapacities capacities currentTime [id]) =
      e.writeCapacities capacities currentTime (if fresh then [] else [id]) := by
  cases fresh <;> rfl

/-- The anchoring of one bucket, before its limit changes. -/
theorem Opened.anchorOne {s s' : TxnState} {states : BucketId → BucketState} {u : Unit}
    {id : BucketId} (h_opened : Opened e input db s states) (h_mem : id ∈ e.buckets)
    (h_ok : Body.when (!(states id).isFreshStart) (e.writeCapacities
      (fun id => (states id).uncappedCapacity) input.currentTime [id]) s = .ok u s') :
    (∀ id', RowPath e input.currentTime id' ⟨db.buckets (e.bucketKey id'), none⟩
      (s'.view e id')) ∧
    ∃ row, s'.db.buckets (e.bucketKey id) = some row ∧
      row.Anchored (states id).uncappedCapacity input.currentTime := by
  rw [when_write_eq] at h_ok
  have h_ids : ∀ id' ∈ (if (states id).isFreshStart then [] else [id]), id' = id := by
    intro id' h_id'
    split at h_id'
    · cases h_id'
    · exact List.mem_singleton.mp h_id'
  have h_nodup : (if (states id).isFreshStart then [] else [id]).Nodup := by
    split
    · exact List.nodup_nil
    · exact List.nodup_singleton id
  refine ⟨h_opened.write h_nodup (fun id' h => h_ids id' h ▸ h_mem) h_ok,
    h_opened.anchored h_nodup h_ok h_mem ?_⟩
  cases (states id).isFreshStart <;> simp

theorem setMaxCapacity_rows {target : BucketId} {value : ℚ} {u : Unit}
    (h_ok : e.setMaxCapacity input db target value = (.ok u, e', db')) :
    ∃ confirmedAt, e' = e.confirm confirmedAt ∧
      e.Rewritten input db (fun _ => false) (fun id => (e.configuredMaxCapacity id).value)
        confirmedAt db' := by
  unfold SqliteEngine.setMaxCapacity at h_ok
  split at h_ok
  · cases h_ok
  · rename_i maxCapacity _
    split at h_ok
    · cases h_ok
    · rename_i h_mem
      have h_mem : target ∈ e.buckets := not_not.mp h_mem
      obtain ⟨s, h_run, rfl, rfl⟩ := transaction_commit h_ok
      obtain ⟨_, s₁, h_prune, h_run⟩ := Body.of_bind_ok h_run
      obtain ⟨states, s₂, h_load, h_run⟩ := Body.of_bind_ok h_run
      have h_opened := opened_of_runs h_prune (SameBuckets.refl s₁) h_load
      obtain ⟨retention, s₃, h_lift, h_run⟩ := Body.of_bind_ok h_run
      obtain ⟨h_retention, h_s₃⟩ := Body.of_lift_ok h_lift
      obtain ⟨_, s₄, h_write, h_run⟩ := Body.of_bind_ok h_run
      rw [h_s₃] at h_write
      obtain ⟨h_path, row, h_row, h_anchored⟩ := h_opened.anchorOne h_mem h_write
      obtain ⟨h_db, h_pending⟩ := of_execute_state h_run
      refine ⟨_, rfl, fun id => ?_⟩
      rw [h_pending, h_db]
      have h_path := h_path id
      unfold TxnState.view at h_path
      by_cases h_eq : id = target
      · subst h_eq
        rw [h_row] at h_path
        refine .limited h_path ?_
        simp only [Database.updateBucket, Function.update_self, h_row, Option.map_some]
        exact .overridden h_mem h_anchored h_retention
      · have h_key : e.bucketKey id ≠ e.bucketKey target := fun h => h_eq (by injection h)
        simp only [Database.updateBucket, Function.update_of_ne h_key]
        exact .kept rfl h_path

theorem applyConfiguredMaxCapacity_rows {target : BucketId} {value : ℚ} {u : Unit}
    (h_ok : e.applyConfiguredMaxCapacity input db target value = (.ok u, e', db')) :
    ∃ confirmedAt configured, e' =
        { e.confirm confirmedAt with configuredMaxCapacity := configured } ∧
      e.Rewritten input db (EngineRequest.relimits (.applyConfiguredMaxCapacity target value))
        (e.limitAfter (.applyConfiguredMaxCapacity target value)) confirmedAt db' := by
  unfold SqliteEngine.applyConfiguredMaxCapacity at h_ok
  split at h_ok
  · cases h_ok
  · rename_i maxCapacity h_value
    have h_value := validateMaxCapacity_ok h_value
    split at h_ok
    · cases h_ok
    · rename_i h_mem
      have h_mem : target ∈ e.buckets := not_not.mp h_mem
      obtain ⟨e₁, h_transaction, rfl⟩ := of_takeOver_ok h_ok
      obtain ⟨s, h_run, rfl, rfl⟩ := transaction_commit h_transaction
      obtain ⟨_, s₁, h_prune, h_run⟩ := Body.of_bind_ok h_run
      obtain ⟨states, s₂, h_load, h_run⟩ := Body.of_bind_ok h_run
      have h_opened := opened_of_runs h_prune (SameBuckets.refl s₁) h_load
      obtain ⟨retention, s₃, h_lift, h_run⟩ := Body.of_bind_ok h_run
      obtain ⟨h_retention, h_s₃⟩ := Body.of_lift_ok h_lift
      obtain ⟨_, s₄, h_write, h_run⟩ := Body.of_bind_ok h_run
      rw [h_s₃] at h_write
      obtain ⟨h_path, row, h_row, h_anchored⟩ := h_opened.anchorOne h_mem h_write
      obtain ⟨h_db, h_pending⟩ := of_execute_state h_run
      refine ⟨_, _, rfl, fun id => ?_⟩
      rw [h_pending, h_db]
      have h_path := h_path id
      unfold TxnState.view at h_path
      rw [limitAfter_apply]
      by_cases h_eq : id = target
      · subst h_eq
        rw [h_row] at h_path
        rw [if_pos rfl, ← h_value]
        refine .limited h_path ?_
        simp only [Database.updateBucket, Function.update_self, h_row, Option.map_some]
        exact .cleared h_mem h_anchored h_retention
      · have h_key : e.bucketKey id ≠ e.bucketKey target := fun h => h_eq (by injection h)
        rw [if_neg h_eq]
        simp only [Database.updateBucket, Function.update_of_ne h_key]
        exact .kept (by simp [EngineRequest.relimits, h_eq]) h_path

theorem clearMaxCapacityOverrides_rows {bucketIds : Finset BucketId}
    {configuredMaxCapacities : BucketId → Option ℚ} {u : Unit}
    (h_ok : e.clearMaxCapacityOverrides input db bucketIds configuredMaxCapacities =
      (.ok u, e', db')) :
    ∃ confirmedAt, e' = e.confirm confirmedAt ∧ e.Rewritten input db (fun _ => false)
      (e.limitAfter (.clearMaxCapacityOverrides bucketIds configuredMaxCapacities))
      confirmedAt db' := by
  unfold SqliteEngine.clearMaxCapacityOverrides at h_ok
  dsimp only at h_ok
  split at h_ok
  · rename_i h_none
    cases h_ok
    refine ⟨fun _ => none, rfl, fun id => ?_⟩
    have h_untouched : ¬ (id ∈ e.buckets ∧ id ∈ bucketIds) := by
      rintro ⟨h_mem, h_id⟩
      have h_target : id ∈ e.buckets.filter (· ∈ bucketIds) := by
        simp [h_mem, h_id]
      rw [h_none] at h_target
      cases h_target
    rw [limitAfter_clear, if_neg h_untouched]
    exact .kept rfl .refl
  · obtain ⟨s, h_run, rfl, rfl⟩ := transaction_commit h_ok
    obtain ⟨_, s₁, h_prune, h_run⟩ := Body.of_bind_ok h_run
    obtain ⟨states, s₂, h_load, h_run⟩ := Body.of_bind_ok h_run
    have h_opened := opened_of_runs h_prune (SameBuckets.refl s₁) h_load
    obtain ⟨_, s₃, h_write, h_clear⟩ := Body.of_bind_ok h_run
    have h_targets : (e.buckets.filter (· ∈ bucketIds)).Nodup := e.nodup.filter _
    have h_path := h_opened.write (h_targets.filter _)
      (fun _ h => (List.mem_filter.mp (List.mem_filter.mp h).1).1) h_write
    obtain ⟨h_kept, h_cleared⟩ := clearOverrides_rows h_targets h_clear
    refine ⟨_, rfl, fun id => ?_⟩
    have h_path := h_path id
    rw [limitAfter_clear]
    show Rewrites e input.currentTime id false _ _ (s.view e id)
    by_cases h_target : id ∈ e.buckets ∧ id ∈ bucketIds
    · have h_mem : id ∈ e.buckets.filter (· ∈ bucketIds) := by
        simp [h_target]
      obtain ⟨retention, h_retention, h_view⟩ := h_cleared id h_mem
      obtain ⟨row, h_row, h_anchored⟩ := h_opened.anchored (h_targets.filter _) h_write
        h_target.1 (by simp [h_target])
      unfold TxnState.view at h_path
      rw [h_row] at h_path
      rw [if_pos h_target, h_view, h_row]
      exact .limited h_path (.cleared h_target.1 h_anchored h_retention)
    · rw [if_neg h_target, h_kept id fun h => h_target (by simpa using h)]
      exact .kept rfl h_path

/-- What a committed call does to the bucket table and to its engine. -/
theorem call_rows {request : EngineRequest} {outcome : Outcome}
    (h_ok : e.call input db request = (.ok outcome, e', db')) :
    ∃ confirmedAt configured, e' =
        { e.confirm confirmedAt with configuredMaxCapacity := configured } ∧
      e.Rewritten input db request.relimits (e.limitAfter request) confirmedAt db' := by
  cases request with
  | tryConsume usage reservationId lifetime =>
    obtain ⟨_, h_ok, _⟩ := of_answer_ok h_ok
    obtain ⟨confirmedAt, rfl, h_rows⟩ := tryConsume_rows h_ok
    exact ⟨confirmedAt, _, rfl, h_rows⟩
  | consume usage reservationId lifetime =>
    obtain ⟨_, h_ok, _⟩ := of_answer_ok h_ok
    obtain ⟨confirmedAt, rfl, h_rows⟩ := consume_rows h_ok
    exact ⟨confirmedAt, _, rfl, h_rows⟩
  | refund refund refundBucketIds =>
    obtain ⟨_, h_ok, _⟩ := of_answer_ok h_ok
    obtain ⟨confirmedAt, rfl, h_rows⟩ := refund_rows h_ok
    exact ⟨confirmedAt, _, rfl, h_rows⟩
  | cleanupConsumption usage bucketIds reservationId =>
    obtain ⟨_, h_ok, _⟩ := of_answer_ok h_ok
    obtain ⟨confirmedAt, rfl, h_rows⟩ := cleanupConsumption_rows h_ok
    exact ⟨confirmedAt, _, rfl, h_rows⟩
  | setMaxCapacity id value =>
    obtain ⟨_, h_ok, _⟩ := of_answer_ok h_ok
    obtain ⟨confirmedAt, rfl, h_rows⟩ := setMaxCapacity_rows h_ok
    exact ⟨confirmedAt, _, rfl, h_rows⟩
  | applyConfiguredMaxCapacity id value =>
    obtain ⟨_, h_ok, _⟩ := of_answer_ok h_ok
    exact applyConfiguredMaxCapacity_rows h_ok
  | clearMaxCapacityOverrides bucketIds configuredMaxCapacities =>
    obtain ⟨_, h_ok, _⟩ := of_answer_ok h_ok
    obtain ⟨confirmedAt, rfl, h_rows⟩ := clearMaxCapacityOverrides_rows h_ok
    exact ⟨confirmedAt, _, rfl, h_rows⟩

/-! ## The buckets of a new engine -/

theorem insertBuckets_rows {ids : List BucketId} {u : Unit}
    (h_ok : e.insertBuckets currentTime ids s = .ok u s') (id : BucketId) :
    s'.view e id = ⟨(s.db.buckets (e.bucketKey id)).or
      (if id ∈ ids then some (.fresh currentTime e.bucketTtlSeconds) else none),
      s.pendingStateConfirmations id⟩ := by
  induction ids generalizing s with
  | nil =>
    obtain ⟨_, rfl⟩ := Body.of_pure_ok h_ok
    simp [TxnState.view]
  | cons id' ids ih =>
    unfold insertBuckets at h_ok
    obtain ⟨_, s₁, h_insert, h_rest⟩ := Body.of_bind_ok h_ok
    obtain ⟨h_db, h_pending⟩ := of_execute_state h_insert
    rw [ih h_rest, h_pending, h_db]
    by_cases h_eq : id = id'
    · subst h_eq
      cases h_row : s.db.buckets (e.bucketKey id) with
      | none => simp [Database.putBucket]
      | some row => simp [h_row]
    · have h_key : e.bucketKey id ≠ e.bucketKey id' := fun h => h_eq (by injection h)
      have h_same : (if (s.db.buckets (e.bucketKey id')).isSome then s.db
          else s.db.putBucket (e.bucketKey id') (.fresh currentTime e.bucketTtlSeconds)).buckets
            (e.bucketKey id) = s.db.buckets (e.bucketKey id) := by
        split
        · rfl
        · exact Function.update_of_ne h_key ..
      simp [h_same, h_eq]

/-- A new engine gives a bucket without a row a fresh one, and leaves every other. -/
theorem initializeBuckets_rows {u : Unit}
    (h_ok : e.initializeBuckets input db = (.ok u, e', db')) :
    e' = e ∧ ∀ id, db'.buckets (e.bucketKey id) =
      (input.prunedRow (e.bucketKey id) (db.buckets (e.bucketKey id))).or
        (if id ∈ e.buckets then some (.fresh input.currentTime e.bucketTtlSeconds)
          else none) := by
  obtain ⟨s, h_run, rfl, rfl⟩ := transaction_commit h_ok
  obtain ⟨_, s₁, h_prune, h_insert⟩ := Body.of_bind_ok h_run
  have h_view : ∀ id, s.view e id = _ := fun id => insertBuckets_rows h_insert id
  have h_pruned : ∀ id, s₁.view e id = _ := fun id => prune_rows h_prune id
  constructor
  · have h_none : s.pendingStateConfirmations = fun _ => none := by
      funext id
      have h_pending := congrArg RowView.confirmedAt (h_view id)
      have h_pending₁ := congrArg RowView.confirmedAt (h_pruned id)
      exact h_pending.trans h_pending₁
    rw [h_none]
    rfl
  · intro id
    have h_row := congrArg RowView.row (h_view id)
    have h_row₁ : s₁.db.buckets (e.bucketKey id) = _ := congrArg RowView.row (h_pruned id)
    rw [h_row₁] at h_row
    exact h_row

theorem initializeBuckets_path {u : Unit}
    (h_ok : e.initializeBuckets input db = (.ok u, e', db')) (id : BucketId) :
    RowPath e input.currentTime id ⟨db.buckets (e.bucketKey id), none⟩
      ⟨db'.buckets (e.bucketKey id), none⟩ := by
  rw [(initializeBuckets_rows h_ok).2 id]
  have h_path := pruned_path e input (db.buckets (e.bucketKey id)) none id
  cases h_row : input.prunedRow (e.bucketKey id) (db.buckets (e.bucketKey id)) with
  | some row =>
    rw [h_row] at h_path
    simpa using h_path
  | none =>
    rw [h_row] at h_path
    rw [Option.none_or]
    split
    · rename_i h_mem
      exact h_path.tail (.inserted h_mem)
    · exact h_path

end Calls

end SqliteEngine

end TokenThrottle
