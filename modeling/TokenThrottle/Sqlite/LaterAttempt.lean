/-
  TokenThrottle.Sqlite.LaterAttempt

  A `try_consume` after one that was denied, on the database that one left and with
  nothing in it expired in between: every row is read as it stands, so each bucket has
  grown at its rate, and the attempt is admitted exactly if that covers the usage.

  * `loadRow_later` is the row: a settled row stays settled while nothing it holds expires.
  * `Denied` is what a denied attempt leaves; `Decides` is the next one at its decision, and
    `tryConsume_later` how that one ends.
-/
import TokenThrottle.Sqlite.Snapshot

namespace TokenThrottle

open Theory (Body atomically)
open Theory.Accrual (Grows)

/-! ## One row -/

/-- Nothing that the row holds expires after `currentTime` and by `later`. -/
structure BucketRow.KeepsUntil (row : BucketRow) (currentTime later : ℚ) : Prop where
  state : row.expiresAt ≤ currentTime ∨ later < row.expiresAt
  override : ∀ expiresAt, row.overrideExpiresAt = some expiresAt →
    expiresAt ≤ currentTime ∨ later < expiresAt

namespace BucketRow.KeepsUntil

variable {row : BucketRow} {spec : BucketSpec} {currentTime later : ℚ}

theorem overrideLive_eq (h_keeps : row.KeepsUntil currentTime later) (h_le : currentTime ≤ later) :
    row.overrideLive later = row.overrideLive currentTime := by
  rw [Bool.eq_iff_iff, BucketRow.overrideLive_iff, BucketRow.overrideLive_iff]
  constructor
  · rintro ⟨value, expiresAt, h_value, h_expiresAt, h_lt⟩
    exact ⟨value, expiresAt, h_value, h_expiresAt, h_le.trans_lt h_lt⟩
  · rintro ⟨value, expiresAt, h_value, h_expiresAt, h_lt⟩
    have h_kept := (h_keeps.override expiresAt h_expiresAt).resolve_left (not_le.mpr h_lt)
    exact ⟨value, expiresAt, h_value, h_expiresAt, h_kept⟩

theorem limit (h_keeps : row.KeepsUntil currentTime later) (h_le : currentTime ≤ later)
    {maxCapacity : MaxCapacity} {active : Bool}
    (h_limit : row.limit spec currentTime maxCapacity active) :
    row.limit spec later maxCapacity active := by
  have h_active : row.activeOverride spec later = row.activeOverride spec currentTime := by
    unfold BucketRow.activeOverride
    rw [h_keeps.overrideLive_eq h_le]
  unfold BucketRow.limit
  rw [h_active]
  exact h_limit

theorem settled (h_keeps : row.KeepsUntil currentTime later) (h_le : currentTime ≤ later)
    (h_settled : row.Settled currentTime) : row.Settled later := by
  have h_live := h_keeps.overrideLive_eq h_le
  refine ⟨h_settled.paired, ?_, ?_, fun last h_last => ?_⟩
  · unfold BucketRow.OverrideSettled
    rw [h_live]
    exact h_settled.override
  · rw [h_live]
    apply h_settled.current.imp_left
    intro h_current
    exact h_keeps.state.resolve_left (not_le.mpr h_current)
  · have h_notFuture := h_settled.notFuture last h_last
    linarith

end BucketRow.KeepsUntil

/-- A smaller debt can be retained if a larger one can. -/
theorem debtTtlSeconds_mono {capacity capacity' : ℚ} {ttl perSeconds : ℕ}
    {maxCapacity configured : MaxCapacity} {retention : ℤ} (h_le : capacity ≤ capacity')
    (h_ok : debtTtlSeconds capacity ttl perSeconds maxCapacity.value configured.value =
      .ok retention) :
    ∃ retention', debtTtlSeconds capacity' ttl perSeconds maxCapacity.value configured.value =
      .ok retention' := by
  unfold debtTtlSeconds at h_ok ⊢
  by_cases h_debt : 0 ≤ capacity'
  · rw [if_pos h_debt]
    exact ⟨_, rfl⟩
  · rw [if_neg fun h_nonneg => h_debt (h_nonneg.trans h_le)] at h_ok
    rw [if_neg h_debt]
    dsimp only at h_ok ⊢
    split at h_ok
    · cases h_ok
    · rename_i h_short
      have h_min : 0 < min maxCapacity.value configured.value :=
        lt_min maxCapacity.pos configured.pos
      have h_quotient : -capacity' / min maxCapacity.value configured.value ≤
          -capacity / min maxCapacity.value configured.value :=
        div_le_div_of_nonneg_right (neg_le_neg h_le) h_min.le
      have h_window : (0 : ℚ) ≤ perSeconds := Nat.cast_nonneg _
      have h_required := mul_le_mul_of_nonneg_right (add_le_add_right h_quotient 1) h_window
      rw [if_neg fun h_long => h_short (h_long.trans_le h_required)]
      exact ⟨_, rfl⟩

variable {spec : BucketSpec} {ttl : ℕ} {currentTime later wait : ℚ}

/-- A load of a row that an earlier load left, with nothing expired in between. -/
theorem loadRow_later {suspected suspected' : Bool} {row : Option BucketRow} {loaded : LoadedRow}
    (h_ttl : 0 < ttl) (h_wait : 0 ≤ wait)
    (h_ok : loadRow spec ttl suspected true row currentTime = .ok loaded)
    (h_suspected : suspected' = true → suspected = true ∨ loaded.confirmed = true)
    (h_keeps : loaded.row.KeepsUntil currentTime (currentTime + wait))
    (h_past : ∀ last, loaded.row.lastChecked = some last → last ≤ currentTime) :
    ∃ loaded', loadRow spec ttl suspected' true (some loaded.row) (currentTime + wait) =
        .ok loaded' ∧
      loaded'.state.maxCapacity = loaded.state.maxCapacity ∧
      Grows loaded.state.maxCapacity.value (calculateRatePerSec loaded.state.maxCapacity spec.id)
        wait loaded.state.capacity loaded'.state.capacity := by
  have h_leaves := loadRow_leaves h_ttl h_ok
  have h_le : currentTime ≤ currentTime + wait := by linarith
  have h_read : readRow spec ttl (some loaded.row) (currentTime + wait) = _ :=
    readRow_settled (h_keeps.settled h_le h_leaves.settled) (h_keeps.limit h_le h_leaves.limit)
  have h_kept : stateLost loaded.row.capacity loaded.row.lastChecked suspected' = false := by
    refine stateLost_eq_false_iff.mpr ⟨h_leaves.settled.paired, fun h_true => ?_⟩
    by_contra h_none
    obtain ⟨h_unsuspected, h_unconfirmed⟩ := h_leaves.unsuspected (by simpa using h_none)
    obtain h_same | h_confirmed := h_suspected h_true
    · rw [h_unsuspected] at h_same
      cases h_same
    · rw [h_unconfirmed] at h_confirmed
      cases h_confirmed
  obtain ⟨h_time, h_now⟩ := refillCapacity_ok h_leaves.refill
  have h_now : loaded.state.capacity = refilled loaded.row.lastChecked loaded.row.capacity
      currentTime loaded.state.maxCapacity
      (calculateRatePerSec loaded.state.maxCapacity spec.id) :=
    congrArg CalculatedCapacity.amount h_now
  have h_rate := calculateRatePerSec_pos loaded.state.maxCapacity spec.id
  have h_grows := @refilled_grows _ loaded.row.capacity _ _ loaded.state.maxCapacity _ h_rate.le
    h_wait h_past
  rw [← h_now] at h_grows
  generalize h_later : refilled loaded.row.lastChecked loaded.row.capacity (currentTime + wait)
    loaded.state.maxCapacity (calculateRatePerSec loaded.state.maxCapacity spec.id) = amount
    at h_grows
  have h_refill : ∃ uncapped, refillCapacity spec loaded.row.capacity loaded.row.lastChecked
      (currentTime + wait) loaded.state.maxCapacity =
        .ok (⟨amount, isFreshStart loaded.row.lastChecked loaded.row.capacity⟩, uncapped) := by
    unfold refillCapacity
    dsimp only
    rw [calculateCapacity_ok (by linarith) h_rate, h_later]
    exact ⟨_, rfl⟩
  obtain ⟨uncapped, h_refill⟩ := h_refill
  unfold loadRow
  rw [h_read]
  show ∃ loaded', finishRow spec ttl true (currentTime + wait) _ (recoverLost ttl suspected'
    (currentTime + wait) ⟨loaded.row, loaded.row.capacity, loaded.row.lastChecked,
      loaded.state.maxCapacity, loaded.state.overrideActive, false⟩) = .ok loaded' ∧ _
  rw [recoverLost_of_kept ttl suspected' (currentTime + wait) _ h_kept]
  unfold finishRow
  rw [h_refill]
  by_cases h_debt : amount < 0
  · -- the debt has shrunk, so it can still be retained
    have h_le_later := h_grows.le (mul_nonneg h_wait h_rate.le)
    obtain ⟨retention, h_retention⟩ := h_leaves.retained (h_le_later.trans_lt h_debt)
    obtain ⟨retention', h_retention'⟩ := debtTtlSeconds_mono h_le_later h_retention
    simpa [bind, Except.bind, pure, Except.pure, h_debt, h_retention'] using h_grows
  · simpa [bind, Except.bind, pure, Except.pure, h_debt] using h_grows

/-! ## The attempt -/

namespace SqliteEngine

variable {e e' : SqliteEngine} {input : TxnInput} {db db' : Database} {usage : FrozenUsage}
  {reservationId : Option ReservationId} {lifetime : Option ℚ} {result : CapacityResult}

/-- A load leaves each row that it computed the state from. -/
structure LoadedBucket (e e' : SqliteEngine) (db' : Database) (currentTime : ℚ) (id : BucketId)
    (state : BucketState) (row : BucketRow) : Prop where
  loads : ∃ stored loaded, loadRow (e.spec id) e.bucketTtlSeconds
      (e.stateLossSuspected id currentTime) true stored currentTime = .ok loaded ∧
    loaded.row = row ∧ loaded.state = state ∧
    (e'.stateConfirmedUntil id = e.stateConfirmedUntil id ∨ loaded.confirmed = true)
  found : db'.buckets (e.bucketKey id) = some row

/-- What a denied attempt has found and leaves. -/
structure Denied (e e' : SqliteEngine) (db' : Database) (currentTime : ℚ) (usage : FrozenUsage)
    (reservationId : Option ReservationId) (result : CapacityResult) : Prop where
  confirms : ∃ pending, e' = e.confirm pending
  bucket : ∀ id ∈ e.buckets, ∃ state row, LoadedBucket e e' db' currentTime id state row ∧
    result.preCapacities id = state.capacity ∧ result.maxCapacities id = state.maxCapacity.value
  limit : usageExceeds usage result.maxCapacities e.buckets = false
  short : ∃ id ∈ e.buckets, result.preCapacities id < usage.amount id.metric
  unmarked : ∀ rid, reservationId = some rid →
    db'.acquireMarkers (e.reservationKey rid) = none ∧
      db'.refundTombstones (e.reservationKey rid) = none

theorem denied_of_tryConsume
    (h_ok : e.tryConsume input db usage reservationId lifetime = (.ok ⟨false, result⟩, e', db')) :
    Denied e e' db' input.currentTime usage reservationId result := by
  obtain ⟨s, h_run, rfl, rfl⟩ := transaction_commit h_ok
  obtain ⟨_, s₁, h_prune, h_run⟩ := Body.of_bind_ok h_run
  obtain ⟨replayed, s₂, h_duplicate, h_run⟩ := Body.of_bind_ok h_run
  obtain ⟨states, s₃, h_load, h_run⟩ := Body.of_bind_ok h_run
  have h_pending : ∀ id, s₂.pendingStateConfirmations id = none := by
    intro id
    have h_same := raiseIfDuplicateAcquire_sameBuckets _ _ _ _ _ _ _ h_duplicate
    have h_view := (h_same.view_eq e id).trans (prune_rows h_prune id)
    exact congrArg RowView.confirmedAt h_view
  have h_tables := loadStates_sameReservations _ _ _ _ _ _ h_load
  obtain ⟨_, h_loaded⟩ := loadStates_rows e.nodup h_load
  obtain ⟨_, h_unmarked⟩ := raiseIfDuplicateAcquire_ok h_duplicate
  cases replayed with
  | true =>
    obtain ⟨h_result, _⟩ := Body.of_pure_ok h_run
    cases h_result
  | false =>
    simp only [Bool.false_eq_true, if_false] at h_run
    split at h_run
    · cases h_run
    · rename_i h_limit
      split at h_run
      · rename_i h_short
        obtain ⟨h_result, rfl⟩ := Body.of_pure_ok h_run
        cases h_result
        refine ⟨⟨_, rfl⟩, fun id h_mem => ?_, by simpa using h_limit, by simpa using h_short,
          fun rid h_rid => ?_⟩
        · obtain ⟨loaded, h_row, h_view, h_state⟩ := h_loaded id h_mem
          have h_found : s.db.buckets (e.bucketKey id) = some loaded.row :=
            congrArg RowView.row h_view
          have h_confirmedAt : s.pendingStateConfirmations id =
              if loaded.confirmed then some input.currentTime
              else s₂.pendingStateConfirmations id := congrArg RowView.confirmedAt h_view
          refine ⟨loaded.state, loaded.row, ⟨⟨_, loaded, h_row, rfl, rfl, ?_⟩, h_found⟩, ?_, ?_⟩
          · cases h_confirmed : loaded.confirmed with
            | true => exact .inr rfl
            | false =>
              rw [h_confirmed, h_pending id] at h_confirmedAt
              exact .inl (confirm_of_none h_confirmedAt)
          · show (states id).capacity = _
            rw [h_state]
          · show (states id).maxCapacity.value = _
            rw [h_state]
        · rw [h_tables.1, h_tables.2]
          exact h_unmarked rid h_rid rfl
      · obtain ⟨_, s₄, h_write, h_run⟩ := Body.of_bind_ok h_run
        obtain ⟨_, s₅, h_insert, h_run⟩ := Body.of_bind_ok h_run
        obtain ⟨h_result, _⟩ := Body.of_pure_ok h_run
        cases h_result

/-! ### The next attempt -/

section Later

variable {t t' : TxnState} {currentTime : ℚ} {ids : List BucketId}

theorem prune_runs (input : TxnInput) (h_running : t.interruptAfter = none) :
    ∃ t', prune input t = .ok () t' ∧ t'.interruptAfter = none := by
  obtain ⟨db, pending, left⟩ := t
  cases h_running
  exact ⟨_, rfl, rfl⟩

/-- A row that a load finds is not pruned. -/
theorem prunedRow_settled {row : BucketRow} (h_settled : row.Settled input.currentTime)
    (key : BucketKey) : input.prunedRow key (some row) = some row := by
  unfold TxnInput.prunedRow
  rw [Option.filter_some, if_pos]
  rw [decide_eq_true_iff]
  rintro ⟨h_expired, h_dead, _⟩
  obtain h_current | ⟨h_live, _, _⟩ := h_settled.current
  · exact not_lt.mpr h_expired h_current
  · exact h_dead h_live

/-- An id without rows of its own is let through, and nothing is written. -/
theorem raiseIfDuplicateAcquire_unmarked (h_running : t.interruptAfter = none)
    (h_unmarked : ∀ rid, reservationId = some rid →
      t.db.acquireMarkers (e.reservationKey rid) = none ∧
        t.db.refundTombstones (e.reservationKey rid) = none) :
    e.raiseIfDuplicateAcquire reservationId currentTime usage t = .ok false t := by
  cases reservationId with
  | none => rfl
  | some rid =>
    obtain ⟨h_marker, h_tombstone⟩ := h_unmarked rid rfl
    have h_noMarker : readLiveMarker (e.reservationKey rid) currentTime t = .ok none t := by
      unfold readLiveMarker
      rw [Body.bind_ok (query_run _ h_running), h_marker]
      rfl
    have h_noTombstone : readLiveTombstone (e.reservationKey rid) currentTime t = .ok none t := by
      unfold readLiveTombstone
      rw [Body.bind_ok (query_run _ h_running), h_tombstone]
      rfl
    unfold raiseIfDuplicateAcquire
    dsimp only
    rw [Body.bind_ok h_noMarker, Body.bind_ok h_noTombstone]
    rfl

/-- A write of amounts that are no debts succeeds where every bucket has a row. -/
theorem writeCapacities_succeeds {capacities : Capacities} (h_running : t.interruptAfter = none)
    (h_rows : ∀ id ∈ ids, (t.db.buckets (e.bucketKey id)).isSome = true)
    (h_nonneg : ∀ id ∈ ids, 0 ≤ capacities id) :
    ∃ t', e.writeCapacities capacities currentTime ids t = .ok () t' ∧
      t'.interruptAfter = none := by
  induction ids generalizing t with
  | nil => exact ⟨t, rfl, h_running⟩
  | cons id ids ih =>
    obtain ⟨row, h_row⟩ := Option.isSome_iff_exists.mp (h_rows id List.mem_cons_self)
    obtain ⟨row', h_write⟩ : ∃ row', writeRow (e.spec id) e.bucketTtlSeconds row (capacities id)
        currentTime = .ok row' := by
      unfold writeRow debtTtlSeconds
      dsimp only
      rw [if_pos (h_nonneg id List.mem_cons_self)]
      exact ⟨_, rfl⟩
    have h_lift : (Body.lift (writeRow (e.spec id) e.bucketTtlSeconds row (capacities id)
        currentTime) : Txn BucketRow) t = .ok row' t := by
      rw [h_write]
      rfl
    unfold writeCapacities
    rw [Body.bind_ok (query_run _ h_running), h_row]
    dsimp only
    rw [Body.bind_ok h_lift, Body.bind_ok (execute_run _ h_running)]
    rw [Body.bind_ok (confirmState_run _ _)]
    refine ih h_running (fun id' h_mem => ?_)
      fun id' h_mem => h_nonneg id' (List.mem_cons_of_mem _ h_mem)
    show ((t.db.putBucket (e.bucketKey id) row').buckets (e.bucketKey id')).isSome = true
    by_cases h_eq : id' = id
    · rw [h_eq, putBucket_self]
      rfl
    · rw [putBucket_of_ne _ _ h_eq]
      exact h_rows id' (List.mem_cons_of_mem _ h_mem)

theorem insertMarker_succeeds (h_running : t.interruptAfter = none)
    (h_lifetime : e.ValidLifetime reservationId lifetime)
    (h_unmarked : ∀ rid, reservationId = some rid →
      t.db.acquireMarkers (e.reservationKey rid) = none) :
    ∃ t', e.insertMarker reservationId usage lifetime currentTime t = .ok () t' ∧
      t'.interruptAfter = none := by
  cases reservationId with
  | none => exact ⟨t, rfl, h_running⟩
  | some rid =>
    obtain ⟨l, rfl, h_pos, h_max⟩ := h_lifetime rfl
    unfold insertMarker
    dsimp only
    rw [if_neg (not_or.mpr ⟨not_le.mpr h_pos, not_lt.mpr h_max⟩)]
    rw [Body.bind_ok (query_run _ h_running), h_unmarked rid rfl]
    exact ⟨_, execute_run _ h_running, h_running⟩

theorem transaction_succeeds {α : Type} {body : Txn α} {a : α}
    (h_body : body ⟨db, fun _ => none, input.interruptAfter⟩ = .ok a t)
    (h_running : t.interruptAfter = none) :
    e.transaction input db body = (.ok a, e.confirm t.pendingStateConfirmations, t.db) := by
  have h_committed : (body >>= fun a => execute (fun db => db) >>= fun _ => pure a : Txn α)
      ⟨db, fun _ => none, input.interruptAfter⟩ = .ok a t := by
    rw [Body.bind_ok h_body, Body.bind_ok (execute_run _ h_running)]
    rfl
  unfold transaction atomically
  dsimp only
  rw [h_committed]

/-- What the pruning leaves of a reservation without rows of its own. -/
theorem prune_unmarked {u : Unit} (h_prune : prune input t = .ok u t')
    (h_unmarked : ∀ rid, reservationId = some rid →
      t.db.acquireMarkers (e.reservationKey rid) = none ∧
        t.db.refundTombstones (e.reservationKey rid) = none) (rid : ReservationId)
    (h_rid : reservationId = some rid) :
    t'.db.acquireMarkers (e.reservationKey rid) = none ∧
      t'.db.refundTombstones (e.reservationKey rid) = none := by
  have h_aged := prune_aged input _ _ _ h_prune
  obtain ⟨h_marker, h_tombstone⟩ := h_unmarked rid h_rid
  constructor
  · refine Option.eq_none_iff_forall_ne_some.mpr fun row h_row => ?_
    have h_before := h_aged.marker_of _ row h_row
    rw [h_marker] at h_before
    cases h_before
  · refine Option.eq_none_iff_forall_ne_some.mpr fun row h_row => ?_
    have h_before := h_aged.tombstone_of _ row h_row
    rw [h_tombstone] at h_before
    cases h_before

/-- An attempt that has come to its decision: the id is no duplicate, and every bucket is
    loaded, grown since the result of an earlier attempt. -/
structure Decides (e : SqliteEngine) (input : TxnInput) (db : Database) (usage : FrozenUsage)
    (reservationId : Option ReservationId) (result : CapacityResult) (wait : ℚ)
    (t t' : TxnState) (states : BucketId → BucketState) : Prop where
  pruned : prune input ⟨db, fun _ => none, input.interruptAfter⟩ = .ok () t
  unmarked : ∀ rid, reservationId = some rid →
    t.db.acquireMarkers (e.reservationKey rid) = none ∧
      t.db.refundTombstones (e.reservationKey rid) = none
  notDuplicate : e.raiseIfDuplicateAcquire reservationId input.currentTime usage t = .ok false t
  loaded : e.loadStates input.currentTime e.buckets t = .ok states t'
  running : t'.interruptAfter = none
  stored : ∀ id ∈ e.buckets, (t'.db.buckets (e.bucketKey id)).isSome = true
  maxCapacities_eq : ∀ id ∈ e.buckets, maxCapacities states id = result.maxCapacities id
  grown : ∀ id ∈ e.buckets, Grows (result.maxCapacities id)
    (result.maxCapacities id / id.window) wait (result.preCapacities id) (capacities states id)

/-- Where the loaded buckets cover the usage, it is admitted. -/
theorem Decides.admits {wait : ℚ} {states : BucketId → BucketState}
    (h_decides : Decides e input db usage reservationId result wait t t' states)
    (h_lifetime : e.ValidLifetime reservationId lifetime)
    (h_limit : ¬ usageExceeds usage (maxCapacities states) e.buckets = true)
    (h_covers : ∀ id ∈ e.buckets, usage.amount id.metric ≤ capacities states id) :
    ∃ result' e'' db'', e.tryConsume input db usage reservationId lifetime =
      (.ok ⟨true, result'⟩, e'', db'') := by
  have h_enough : ¬ (e.buckets.any fun id =>
      decide (capacities states id < usage.amount id.metric)) = true := by
    rw [Bool.not_eq_true, List.any_eq_false]
    intro id h_mem
    simpa using h_covers id h_mem
  obtain ⟨t₄, h_write, h_running₄⟩ : ∃ t₄, e.writeCapacities
      (fun id => capacities states id - usage.amount id.metric) input.currentTime e.buckets t' =
        .ok () t₄ ∧ t₄.interruptAfter = none :=
    writeCapacities_succeeds h_decides.running h_decides.stored
      fun id h_mem => sub_nonneg.mpr (h_covers id h_mem)
  have h_markers : t₄.db.acquireMarkers = t.db.acquireMarkers :=
    (writeCapacities_sameReservations _ _ _ _ _ _ _ h_write).1.trans
      (loadStates_sameReservations _ _ _ _ _ _ h_decides.loaded).1
  obtain ⟨t₅, h_insert, h_running₅⟩ : ∃ t₅, e.insertMarker reservationId usage
      lifetime input.currentTime t₄ = .ok () t₅ ∧ t₅.interruptAfter = none := by
    refine insertMarker_succeeds h_running₄ h_lifetime fun rid h_rid => ?_
    rw [h_markers]
    exact (h_decides.unmarked rid h_rid).1
  refine ⟨⟨input.currentTime, capacities states, fun id => capacities states id -
    usage.amount id.metric, maxCapacities states, false⟩, _, _,
    transaction_succeeds (t := t₅) ?_ h_running₅⟩
  dsimp only
  rw [Body.bind_ok h_decides.pruned, Body.bind_ok h_decides.notDuplicate,
    Body.bind_ok h_decides.loaded]
  rw [if_neg Bool.false_ne_true, if_neg h_limit, if_neg h_enough]
  rw [Body.bind_ok h_write, Body.bind_ok h_insert]
  rfl

/-- Where they do not, it is denied again. -/
theorem Decides.denies {wait : ℚ} {states : BucketId → BucketState}
    (h_decides : Decides e input db usage reservationId result wait t t' states)
    (h_limit : ¬ usageExceeds usage (maxCapacities states) e.buckets = true)
    (h_covers : ¬ ∀ id ∈ e.buckets, usage.amount id.metric ≤ capacities states id) :
    ∃ result' e'' db'', e.tryConsume input db usage reservationId lifetime =
      (.ok ⟨false, result'⟩, e'', db'') := by
  have h_short : (e.buckets.any fun id =>
      decide (capacities states id < usage.amount id.metric)) = true := by
    rw [List.any_eq_true]
    by_contra h_none
    apply h_covers
    intro id h_mem
    exact not_lt.mp fun h_lt => h_none ⟨id, h_mem, decide_eq_true h_lt⟩
  refine ⟨⟨input.currentTime, capacities states, fun _ => 0, maxCapacities states, false⟩,
    _, _, transaction_succeeds (t := t') ?_ h_decides.running⟩
  dsimp only
  rw [Body.bind_ok h_decides.pruned, Body.bind_ok h_decides.notDuplicate,
    Body.bind_ok h_decides.loaded]
  rw [if_neg Bool.false_ne_true, if_neg h_limit, if_pos h_short]
  rfl

end Later

section AfterDenial

variable {currentTime wait : ℚ}

/-- Each row of a denied attempt is kept by the pruning and can be loaded later, grown. -/
theorem Denied.loads_later (h_ttl : 0 < e.bucketTtlSeconds) (h_wait : 0 ≤ wait)
    (h_denied : Denied e e' db' currentTime usage reservationId result)
    (h_time : input.currentTime = currentTime + wait)
    (h_rows : ∀ id ∈ e.buckets, ∀ row, db'.buckets (e.bucketKey id) = some row →
      row.KeepsUntil currentTime (currentTime + wait) ∧
        ∀ last, row.lastChecked = some last → last ≤ currentTime)
    (id : BucketId) (h_mem : id ∈ e.buckets) :
    ∃ row loaded, db'.buckets (e.bucketKey id) = some row ∧ row.Settled input.currentTime ∧
      loadRow (e.spec id) e.bucketTtlSeconds (e'.stateLossSuspected id input.currentTime) true
        (some row) input.currentTime = .ok loaded ∧
      loaded.state.maxCapacity.value = result.maxCapacities id ∧
      Grows (result.maxCapacities id) (result.maxCapacities id / id.window) wait
        (result.preCapacities id) loaded.state.capacity := by
  obtain ⟨_, row, ⟨⟨_, loaded, h_load, rfl, rfl, h_confirmed⟩, h_found⟩, h_pre, h_max⟩ :=
    h_denied.bucket id h_mem
  obtain ⟨h_keeps, h_past⟩ := h_rows id h_mem loaded.row h_found
  have h_suspected : e'.stateLossSuspected id (currentTime + wait) = true →
      e.stateLossSuspected id currentTime = true ∨ loaded.confirmed = true := by
    intro h_suspected
    apply h_confirmed.imp_left
    intro h_same
    unfold stateLossSuspected at h_suspected ⊢
    rw [h_same] at h_suspected
    obtain ⟨confirmedUntil, h_until, h_before⟩ := (Option.any_eq_true _ _).mp h_suspected
    have h_before : currentTime + wait < confirmedUntil := of_decide_eq_true h_before
    rw [h_until]
    exact decide_eq_true (by linarith)
  obtain ⟨loaded', h_load', h_same, h_grows⟩ :=
    loadRow_later h_ttl h_wait h_load h_suspected h_keeps h_past
  have h_settled := h_keeps.settled (by linarith) (loadRow_leaves h_ttl h_load).settled
  rw [h_time, h_max, h_pre]
  exact ⟨loaded.row, loaded', h_found, h_settled, h_load', by rw [h_same], h_grows⟩

/-- The next attempt comes to its decision. -/
theorem Denied.decides_later (h_ttl : 0 < e.bucketTtlSeconds) (h_wait : 0 ≤ wait)
    (h_denied : Denied e e' db' currentTime usage reservationId result)
    (h_time : input.currentTime = currentTime + wait) (h_running : input.interruptAfter = none)
    (h_rows : ∀ id ∈ e.buckets, ∀ row, db'.buckets (e.bucketKey id) = some row →
      row.KeepsUntil currentTime (currentTime + wait) ∧
        ∀ last, row.lastChecked = some last → last ≤ currentTime) :
    ∃ t t' states, Decides e' input db' usage reservationId result wait t t' states := by
  have h_loads := h_denied.loads_later h_ttl h_wait h_time h_rows
  obtain ⟨pending, rfl⟩ := h_denied.confirms
  obtain ⟨t, h_prune, h_running₁⟩ :=
    prune_runs (t := ⟨db', fun _ => none, input.interruptAfter⟩) input h_running
  have h_unmarked := prune_unmarked h_prune h_denied.unmarked
  have h_found : ∀ id ∈ e.buckets, ∃ loaded, loadRow (e.spec id) e.bucketTtlSeconds
      ((e.confirm pending).stateLossSuspected id input.currentTime) true
      (t.db.buckets (e.bucketKey id)) input.currentTime = .ok loaded ∧
      loaded.state.maxCapacity.value = result.maxCapacities id ∧
      Grows (result.maxCapacities id) (result.maxCapacities id / id.window) wait
        (result.preCapacities id) loaded.state.capacity := by
    intro id h_mem
    obtain ⟨row, loaded, h_row, h_settled, h_load, h_max, h_grows⟩ := h_loads id h_mem
    have h_pruned : t.db.buckets (e.bucketKey id) =
        input.prunedRow (e.bucketKey id) (db'.buckets (e.bucketKey id)) :=
      congrArg RowView.row (prune_rows (e := e) h_prune id)
    rw [h_row, prunedRow_settled h_settled] at h_pruned
    rw [h_pruned]
    exact ⟨loaded, h_load, h_max, h_grows⟩
  obtain ⟨states, t', h_load, h_running'⟩ := loadStates_succeeds (e.confirm pending)
    input.currentTime e.nodup h_running₁ fun id h_mem => by
      obtain ⟨loaded, h_load, _⟩ := h_found id h_mem
      exact ⟨loaded, h_load⟩
  obtain ⟨_, h_loaded⟩ := loadStates_rows e.nodup h_load
  have h_states : ∀ id ∈ e.buckets, (t'.db.buckets (e.bucketKey id)).isSome = true ∧
      maxCapacities states id = result.maxCapacities id ∧
      Grows (result.maxCapacities id) (result.maxCapacities id / id.window) wait
        (result.preCapacities id) (capacities states id) := by
    intro id h_mem
    obtain ⟨loaded, h_load₁, h_max, h_grows⟩ := h_found id h_mem
    obtain ⟨loaded', h_load₂, h_view, h_state⟩ := h_loaded id h_mem
    have h_same : (.ok loaded : Except BackendError LoadedRow) = .ok loaded' :=
      h_load₁.symm.trans h_load₂
    cases h_same
    have h_row : t'.db.buckets (e.bucketKey id) = some loaded.row := congrArg RowView.row h_view
    unfold maxCapacities capacities
    rw [h_row, h_state]
    exact ⟨rfl, h_max, h_grows⟩
  exact ⟨t, t', states,
    { pruned := h_prune
      unmarked := h_unmarked
      notDuplicate := raiseIfDuplicateAcquire_unmarked h_running₁ h_unmarked
      loaded := h_load
      running := h_running'
      stored := fun id h_mem => (h_states id h_mem).1
      maxCapacities_eq := fun id h_mem => (h_states id h_mem).2.1
      grown := fun id h_mem => (h_states id h_mem).2.2 }⟩

/-- The attempt after a denied one finds every bucket grown, and is admitted exactly if
    that covers the usage. -/
theorem tryConsume_later (h_ttl : 0 < e.bucketTtlSeconds)
    (h_lifetime : e.ValidLifetime reservationId lifetime) (h_wait : 0 ≤ wait)
    (h_denied : Denied e e' db' currentTime usage reservationId result)
    (h_time : input.currentTime = currentTime + wait) (h_running : input.interruptAfter = none)
    (h_rows : ∀ id ∈ e.buckets, ∀ row, db'.buckets (e.bucketKey id) = some row →
      row.KeepsUntil currentTime (currentTime + wait) ∧
        ∀ last, row.lastChecked = some last → last ≤ currentTime) :
    ∃ later : Capacities,
      (∀ id ∈ e.buckets, Grows (result.maxCapacities id) (result.maxCapacities id / id.window) wait
        (result.preCapacities id) (later id)) ∧
      ∃ available result' e'' db'', e'.tryConsume input db' usage reservationId lifetime =
          (.ok ⟨available, result'⟩, e'', db'') ∧
        (available = true ↔ ∀ id ∈ e.buckets, usage.amount id.metric ≤ later id) := by
  obtain ⟨t, t', states, h_decides⟩ :=
    h_denied.decides_later h_ttl h_wait h_time h_running h_rows
  obtain ⟨pending, rfl⟩ := h_denied.confirms
  refine ⟨capacities states, h_decides.grown, ?_⟩
  have h_same : ∀ id ∈ e.buckets, maxCapacities states id = result.maxCapacities id :=
    h_decides.maxCapacities_eq
  have h_limit : ¬ usageExceeds usage (maxCapacities states) e.buckets = true := by
    rw [usageExceeds_congr h_same, h_denied.limit]
    exact Bool.false_ne_true
  by_cases h_covers : ∀ id ∈ e.buckets, usage.amount id.metric ≤ capacities states id
  · obtain ⟨result', e'', db'', h_run⟩ := h_decides.admits h_lifetime h_limit h_covers
    exact ⟨true, result', e'', db'', h_run, iff_of_true rfl h_covers⟩
  · obtain ⟨result', e'', db'', h_run⟩ := h_decides.denies h_limit h_covers
    exact ⟨false, result', e'', db'', h_run, iff_of_false Bool.false_ne_true h_covers⟩

end AfterDenial

end SqliteEngine

end TokenThrottle
