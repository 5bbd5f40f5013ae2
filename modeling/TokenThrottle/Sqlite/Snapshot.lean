/-
  TokenThrottle.Sqlite.Snapshot

  `_load_states(writable=False)`, the read of `inspect_snapshot`: it predicts what a
  writable load finds, and a writable load leaves rows that the next one reads the same.

  * A snapshot runs the same stages and discards the rows, so it can differ from a
    writable load only where the latter refuses to retain a debt.
  * `Settled` says of a row that a load has nothing left to repair in it; every loaded
    row is settled (`loadRow_settled`), and a settled row is read as it stands.
  * `SqliteEngine.Loads` are the loads of either kind with their results; row by row they
    are the loads of `SqliteEngine.LoadsRow`.
-/
import TokenThrottle.Sqlite.CallRows
import TokenThrottle.Sqlite.Simulation

namespace TokenThrottle

open Theory (Body)

/-! ## The snapshot -/

/-- `_load_states` with `writable=False`. -/
def SqliteEngine.snapshotStates (e : SqliteEngine) (db : Database) (currentTime : ℚ) :
    List BucketId → Except BackendError (BucketId → BucketState)
  | [] => .ok fun _ => default
  | id :: ids => do
    let loaded ← loadRow (e.spec id) e.bucketTtlSeconds (e.stateLossSuspected id currentTime)
      false (db.buckets (e.bucketKey id)) currentTime
    let rest ← e.snapshotStates db currentTime ids
    return Function.update rest id loaded.state

/-- The two kinds of load of a row agree on its state, unless its debt cannot be retained. -/
theorem loadRow_snapshot (spec : BucketSpec) (ttl : ℕ) (suspected : Bool)
    (row : Option BucketRow) (currentTime : ℚ) :
    loadRow spec ttl suspected true row currentTime = .error (.valueError .retentionTooLong) ∨
      (loadRow spec ttl suspected false row currentTime).map LoadedRow.state =
        (loadRow spec ttl suspected true row currentTime).map LoadedRow.state := by
  unfold loadRow
  cases h_read : readRow spec ttl row currentTime with
  | error error => exact .inr rfl
  | ok reading =>
    show finishRow spec ttl true currentTime _ _ = _ ∨
      (finishRow spec ttl false currentTime _ _).map LoadedRow.state =
        (finishRow spec ttl true currentTime _ _).map LoadedRow.state
    generalize recoverLost ttl suspected currentTime reading = recovered
    unfold finishRow
    cases h_refill : refillCapacity spec recovered.capacity recovered.lastChecked currentTime
        recovered.maxCapacity with
    | error error => exact .inr rfl
    | ok refill =>
      obtain ⟨calculated, uncapped⟩ := refill
      by_cases h_debt : calculated.amount < 0
      · obtain ⟨retention, _, h_retention⟩ | h_refused := debtTtlSeconds_cases calculated.amount
          ttl spec.id.perSeconds recovered.maxCapacity.value spec.configuredMaxCapacity.value
        · refine .inr ?_
          simp [bind, Except.bind, h_debt, h_retention]
          rfl
        · refine .inl ?_
          simp [bind, Except.bind, h_debt, h_refused]
      · refine .inr ?_
        simp [bind, Except.bind, h_debt]

/-! ## Settled rows -/

/-- A row in which a load has nothing left to repair. -/
structure BucketRow.Settled (row : BucketRow) (currentTime : ℚ) : Prop where
  paired : row.Paired
  override : row.OverrideSettled currentTime
  current : currentTime < row.expiresAt ∨
    (row.overrideLive currentTime = true ∧ row.capacity = none ∧ row.lastChecked = none)
  notFuture : ∀ last, row.lastChecked = some last →
    last ≤ currentTime + futureLastCheckedRepairToleranceSeconds

/-- The limit that a row is read under, and whether an override says so. -/
def BucketRow.limit (row : BucketRow) (spec : BucketSpec) (currentTime : ℚ)
    (maxCapacity : MaxCapacity) (active : Bool) : Prop :=
  active = (row.activeOverride spec currentTime).isSome ∧
    maxCapacity.value =
      (row.activeOverride spec currentTime).getD spec.configuredMaxCapacity.value

variable {spec : BucketSpec} {ttl : ℕ} {currentTime : ℚ}

theorem BucketRow.limit_of_noOverride {row : BucketRow} (h_value : row.overrideValue = none) :
    row.limit spec currentTime spec.configuredMaxCapacity false := by
  have h_inactive : row.activeOverride spec currentTime = none := by
    unfold BucketRow.activeOverride
    rw [h_value]
  unfold BucketRow.limit
  rw [h_inactive]
  exact ⟨rfl, rfl⟩

/-- A settled row is read as it stands. -/
theorem readRow_settled {row : BucketRow} {maxCapacity : MaxCapacity} {active : Bool}
    (h_settled : row.Settled currentTime)
    (h_limit : row.limit spec currentTime maxCapacity active) :
    readRow spec ttl (some row) currentTime =
      .ok ⟨row, row.capacity, row.lastChecked, maxCapacity, active, false⟩ := by
  have h_found : row.Found currentTime := by
    obtain h_lt | ⟨h_live, _⟩ := h_settled.current
    · exact .inl h_lt
    · exact .inr h_live
  have h_same : row.found currentTime = row := by
    obtain h_lt | ⟨_, h_capacity, h_last⟩ := h_settled.current
    · exact BucketRow.found_of_lt h_lt
    · unfold BucketRow.found
      split
      · obtain ⟨capacity, last, _, _, _, _, _⟩ := row
        cases h_capacity
        cases h_last
        rfl
      · rfl
  have h_keep : (some row).filter (fun row : BucketRow =>
      currentTime < row.expiresAt ∨ row.overrideLive currentTime) = some row := by
    rw [Option.filter_some, if_pos]
    simpa [BucketRow.Found] using h_found
  -- none of the three stages of `readRow` has anything to do
  have h_state : (if row.expiresAt ≤ currentTime then row.withoutState else row) = row := h_same
  have h_unexpired := h_settled.override.unexpired
  have h_nothing : ¬ (¬ row.overrideLive currentTime = true ∧
      (row.overrideValue.isSome = true ∨ row.overrideExpiresAt.isSome = true)) := by
    rintro ⟨h_dead, h_stored⟩
    obtain h_live | ⟨h_value, h_none⟩ := h_settled.override
    · exact h_dead h_live
    · rw [h_value, h_none] at h_stored
      simp at h_stored
  obtain ⟨h_active, h_max⟩ := h_limit
  unfold readRow
  rw [h_keep]
  dsimp only
  rw [h_state]
  cases h_override : row.activeOverride spec currentTime with
  | some value =>
    rw [h_override, Option.getD_some] at h_max
    rw [h_override] at h_active
    have h_valid : validateMaxCapacityFinitePositive value = .ok maxCapacity := by
      unfold validateMaxCapacityFinitePositive
      rw [← h_max, dif_pos maxCapacity.min_le]
    dsimp only
    rw [h_valid, h_active]
    rfl
  | none =>
    rw [h_override, Option.getD_none] at h_max
    rw [h_override] at h_active
    dsimp only
    rw [integrateExpiredOverride_of_unexpired h_unexpired, MaxCapacity.eq_of_value h_max, h_active]
    show (if ¬ row.overrideLive currentTime = true ∧
      (row.overrideValue.isSome = true ∨ row.overrideExpiresAt.isSome = true) then _ else _) = _
    rw [if_neg h_nothing]
    rfl

/-- What is known of a row partly through a load: its fields and limit are those that
    were read, and what it holds has not expired. -/
structure Reading.Faithful (reading : Reading) (spec : BucketSpec) (currentTime : ℚ) : Prop where
  capacity : reading.row.capacity = reading.capacity
  lastChecked : reading.row.lastChecked = reading.lastChecked
  override : reading.row.OverrideSettled currentTime
  limit : reading.row.limit spec currentTime reading.maxCapacity reading.overrideActive
  current : currentTime < reading.row.expiresAt ∨
    (reading.row.overrideLive currentTime = true ∧ reading.capacity = none ∧
      reading.lastChecked = none)
  confirmed : reading.confirmed = true →
    reading.capacity.isSome = true ∧ reading.lastChecked.isSome = true

theorem readRow_faithful {row : Option BucketRow} {reading : Reading} (h_ttl : 0 < ttl)
    (h_read : readRow spec ttl row currentTime = .ok reading) :
    reading.Faithful spec currentTime := by
  have h_later : currentTime < currentTime + ttl := by
    have h_pos : (0 : ℚ) < ttl := by exact_mod_cast h_ttl
    linarith
  obtain ⟨_, rfl⟩ | ⟨r, _, h_found, h_settled, max, rfl, h_max⟩ | ⟨r, _, _, _, _, _, _, rfl⟩ :=
    readRow_cases h_read
  · exact ⟨rfl, rfl, .inr ⟨rfl, rfl⟩, BucketRow.limit_of_noOverride rfl, .inl h_later, nofun⟩
  · refine ⟨rfl, rfl, h_settled, ⟨rfl, h_max⟩, ?_, nofun⟩
    by_cases h_alive : currentTime < r.expiresAt
    · rw [BucketRow.found_of_lt h_alive]
      exact .inl h_alive
    · have h_live := h_found.resolve_left h_alive
      rw [BucketRow.found_of_le (not_lt.mp h_alive)]
      exact .inr ⟨h_live, rfl, rfl⟩
  · exact ⟨rfl, rfl, .inr ⟨rfl, rfl⟩, BucketRow.limit_of_noOverride rfl, .inl h_later,
      fun h_confirmed => by simpa using h_confirmed⟩

/-- Recovery leaves the reading faithful, and whole or, where nothing was suspected, empty. -/
theorem recoverLost_faithful {reading : Reading} (suspected : Bool) (h_ttl : 0 < ttl)
    (h_faithful : reading.Faithful spec currentTime) :
    (recoverLost ttl suspected currentTime reading).Faithful spec currentTime ∧
      ((recoverLost ttl suspected currentTime reading).capacity = none →
        suspected = false) := by
  by_cases h_lost : stateLost reading.capacity reading.lastChecked suspected = true
  · rw [recoverLost_of_lost ttl suspected currentTime reading h_lost]
    have h_pos : (0 : ℚ) < ttl := by exact_mod_cast h_ttl
    have h_later : currentTime < currentTime + ttl := by linarith
    exact ⟨⟨rfl, rfl, h_faithful.override, h_faithful.limit, .inl h_later, fun _ => ⟨rfl, rfl⟩⟩,
      nofun⟩
  · have h_kept := Bool.eq_false_iff.mpr h_lost
    rw [recoverLost_of_kept ttl suspected currentTime reading h_kept]
    refine ⟨h_faithful, fun h_none => ?_⟩
    have h_some := (stateLost_eq_false_iff.mp h_kept).2
    rw [h_none] at h_some
    simpa using h_some

/-- A timestamp in the future refills as one that is now. -/
theorem refillCapacity_future {capacity last : ℚ} {maxCapacity : MaxCapacity}
    (h_future : currentTime ≤ last) :
    refillCapacity spec (some capacity) (some currentTime) currentTime maxCapacity =
      refillCapacity spec (some capacity) (some last) currentTime maxCapacity := by
  have h_elapsed : max 0 (currentTime - last) = max 0 (currentTime - currentTime) := by
    rw [max_eq_left (sub_nonpos.mpr h_future), sub_self, max_self]
  unfold refillCapacity calculateCapacity
  simp only [h_elapsed]

/-- What a writable load leaves: a settled row, from which it computed the state. -/
structure LoadedRow.Leaves (loaded : LoadedRow) (spec : BucketSpec) (ttl : ℕ)
    (suspected : Bool) (currentTime : ℚ) : Prop where
  settled : loaded.row.Settled currentTime
  limit : loaded.row.limit spec currentTime loaded.state.maxCapacity loaded.state.overrideActive
  unsuspected : loaded.row.capacity = none → suspected = false ∧ loaded.confirmed = false
  refill : refillCapacity spec loaded.row.capacity loaded.row.lastChecked currentTime
    loaded.state.maxCapacity = .ok (⟨loaded.state.capacity, loaded.state.isFreshStart⟩,
      loaded.state.uncappedCapacity)
  retained : loaded.state.capacity < 0 → ∃ retention,
    debtTtlSeconds loaded.state.capacity ttl spec.id.perSeconds loaded.state.maxCapacity.value
      spec.configuredMaxCapacity.value = .ok retention

theorem loadRow_leaves {suspected : Bool} {row : Option BucketRow} {loaded : LoadedRow}
    (h_ttl : 0 < ttl) (h_ok : loadRow spec ttl suspected true row currentTime = .ok loaded) :
    loaded.Leaves spec ttl suspected currentTime := by
  obtain ⟨reading, h_read, h_finish⟩ := loadRow_ok h_ok
  obtain ⟨h_faithful, h_unsuspected⟩ := recoverLost_faithful suspected h_ttl
    (readRow_faithful h_ttl h_read)
  have h_paired := recoverLost_paired ttl suspected currentTime reading
  generalize recoverLost ttl suspected currentTime reading = recovered at *
  obtain ⟨calculated, uncapped, expiresAt, h_refill, h_state, h_confirmed, h_row, h_le, h_debt⟩ :=
    finishRow_ok h_finish
  obtain ⟨state, row', confirmed⟩ := loaded
  cases h_state
  have h_retained : calculated.amount < 0 → ∃ retention, debtTtlSeconds calculated.amount ttl
      spec.id.perSeconds recovered.maxCapacity.value spec.configuredMaxCapacity.value =
        .ok retention := by
    intro h_negative
    obtain ⟨retention, h_retention, _⟩ := h_debt rfl h_negative
    exact ⟨retention, h_retention⟩
  by_cases h_future : recovered.lastChecked.any
      (fun last => currentTime + futureLastCheckedRepairToleranceSeconds < last) = true
  · -- the timestamp is moved to now
    obtain ⟨last, h_last, h_lt⟩ := (Option.any_eq_true _ _).mp h_future
    have h_lt : currentTime + futureLastCheckedRepairToleranceSeconds < last := by
      simpa using h_lt
    have h_after : currentTime ≤ last := by
      unfold futureLastCheckedRepairToleranceSeconds at h_lt
      linarith
    have h_repair : repairFuture ttl currentTime recovered =
        (recovered.row.withState recovered.row.capacity (some currentTime) currentTime
          (currentTime + ttl), true) := by
      unfold repairFuture
      rw [if_pos h_future]
    obtain ⟨capacity, h_capacity⟩ : ∃ capacity, recovered.capacity = some capacity := by
      rw [h_last] at h_paired
      exact Option.isSome_iff_exists.mp h_paired
    rw [h_repair] at h_row h_le h_confirmed
    have h_row : row' = { recovered.row.withState recovered.row.capacity (some currentTime)
        currentTime (currentTime + ttl) with expiresAt := expiresAt } := h_row
    subst h_row
    have h_pos : (0 : ℚ) < ttl := by exact_mod_cast h_ttl
    have h_later : currentTime + ttl ≤ expiresAt := h_le
    have h_stored : recovered.row.capacity = some capacity := h_faithful.capacity.trans h_capacity
    refine ⟨⟨?_, h_faithful.override, .inl ?_, ?_⟩, h_faithful.limit, ?_, ?_, h_retained⟩
    · show recovered.row.capacity.isSome = true
      rw [h_stored]
      rfl
    · show currentTime < expiresAt
      linarith
    · intro last' h_now
      cases h_now
      unfold futureLastCheckedRepairToleranceSeconds
      linarith
    · intro h_none
      have h_none : recovered.row.capacity = none := h_none
      rw [h_stored] at h_none
      cases h_none
    · show refillCapacity spec recovered.row.capacity (some currentTime) currentTime
        recovered.maxCapacity = _
      rw [h_stored, refillCapacity_future h_after, ← h_last, ← h_capacity, h_refill]
  · have h_repair : repairFuture ttl currentTime recovered =
        (recovered.row, recovered.confirmed) := by
      unfold repairFuture
      rw [if_neg h_future]
    rw [h_repair] at h_row h_le h_confirmed
    have h_row : row' = { recovered.row with expiresAt := expiresAt } := h_row
    have h_confirmed : confirmed = recovered.confirmed := h_confirmed
    subst h_row h_confirmed
    have h_later : recovered.row.expiresAt ≤ expiresAt := h_le
    refine ⟨⟨?_, h_faithful.override, ?_, ?_⟩, h_faithful.limit, ?_, ?_, h_retained⟩
    · show recovered.row.capacity.isSome = recovered.row.lastChecked.isSome
      rw [h_faithful.capacity, h_faithful.lastChecked, h_paired]
    · obtain h_current | ⟨h_live, h_capacity, h_last⟩ := h_faithful.current
      · exact .inl (h_current.trans_le h_later)
      · exact .inr ⟨h_live, h_faithful.capacity.trans h_capacity,
          h_faithful.lastChecked.trans h_last⟩
    · intro last h_last
      have h_last : recovered.lastChecked = some last := h_faithful.lastChecked.symm.trans h_last
      rw [h_last] at h_future
      simpa using h_future
    · intro h_none
      have h_none : recovered.capacity = none := h_faithful.capacity.symm.trans h_none
      refine ⟨h_unsuspected h_none, Bool.eq_false_iff.mpr fun h_true => ?_⟩
      have h_some := (h_faithful.confirmed h_true).1
      rw [h_none] at h_some
      cases h_some
    · show refillCapacity spec recovered.row.capacity recovered.row.lastChecked currentTime
        recovered.maxCapacity = _
      rw [h_faithful.capacity, h_faithful.lastChecked, h_refill]

/-- A load of a row that a load left finds the same state, whoever confirmed it since. -/
theorem loadRow_again {suspected suspected' : Bool} {row : Option BucketRow}
    {loaded : LoadedRow} (h_ttl : 0 < ttl)
    (h_ok : loadRow spec ttl suspected true row currentTime = .ok loaded)
    (h_suspected : suspected' = suspected ∨ loaded.confirmed = true) :
    ∃ loaded', loadRow spec ttl suspected' true (some loaded.row) currentTime = .ok loaded' ∧
      loaded'.state.capacity = loaded.state.capacity ∧
      loaded'.state.uncappedCapacity = loaded.state.uncappedCapacity ∧
      loaded'.state.maxCapacity = loaded.state.maxCapacity ∧
      loaded'.state.overrideActive = loaded.state.overrideActive ∧
      loaded'.state.isFreshStart = loaded.state.isFreshStart := by
  have h_leaves := loadRow_leaves h_ttl h_ok
  have h_read : readRow spec ttl (some loaded.row) currentTime = _ :=
    readRow_settled h_leaves.settled h_leaves.limit
  have h_kept : stateLost loaded.row.capacity loaded.row.lastChecked suspected' = false := by
    refine stateLost_eq_false_iff.mpr ⟨h_leaves.settled.paired, fun h_true => ?_⟩
    by_contra h_none
    obtain ⟨h_unsuspected, h_unconfirmed⟩ := h_leaves.unsuspected (by simpa using h_none)
    obtain h_same | h_confirmed := h_suspected
    · rw [h_same, h_unsuspected] at h_true
      cases h_true
    · rw [h_unconfirmed] at h_confirmed
      cases h_confirmed
  unfold loadRow
  rw [h_read]
  show ∃ loaded', finishRow spec ttl true currentTime _ (recoverLost ttl suspected' currentTime
    ⟨loaded.row, loaded.row.capacity, loaded.row.lastChecked, loaded.state.maxCapacity,
      loaded.state.overrideActive, false⟩) = .ok loaded' ∧ _
  rw [recoverLost_of_kept ttl suspected' currentTime _ h_kept]
  unfold finishRow
  rw [h_leaves.refill]
  by_cases h_debt : loaded.state.capacity < 0
  · obtain ⟨retention, h_retention⟩ := h_leaves.retained h_debt
    simp [bind, Except.bind, pure, Except.pure, h_debt, h_retention]
  · simp [bind, Except.bind, pure, Except.pure, h_debt]

/-! ## The loads of an engine -/

namespace SqliteEngine

variable {e : SqliteEngine} {t : TxnState} {db : Database} {ids : List BucketId}

/-- The statements that write one loaded row, run without an interrupt. -/
theorem writeLoaded_run (e : SqliteEngine) (currentTime : ℚ)
    (h_running : t.interruptAfter = none) (id : BucketId) (loaded : LoadedRow) :
    ∃ t', (execute (·.putBucket (e.bucketKey id) loaded.row) >>= fun _ =>
        Body.when loaded.confirmed (confirmState id currentTime)) t = .ok () t' ∧
      t'.db = t.db.putBucket (e.bucketKey id) loaded.row ∧ t'.interruptAfter = none := by
  rw [Body.bind_ok (execute_run _ h_running)]
  cases loaded.confirmed with
  | true => exact ⟨_, rfl, rfl, h_running⟩
  | false => exact ⟨_, rfl, rfl, h_running⟩

/-- One row of `_load_states`, run without an interrupt. -/
theorem loadStates_cons_run (ids : List BucketId) (h_running : t.interruptAfter = none)
    {id : BucketId} {loaded : LoadedRow}
    (h_load : loadRow (e.spec id) e.bucketTtlSeconds (e.stateLossSuspected id currentTime) true
      (t.db.buckets (e.bucketKey id)) currentTime = .ok loaded) :
    ∃ t', e.loadStates currentTime (id :: ids) t = (e.loadStates currentTime ids >>= fun rest =>
        pure (Function.update rest id loaded.state)) t' ∧
      t'.db = t.db.putBucket (e.bucketKey id) loaded.row ∧ t'.interruptAfter = none := by
  obtain ⟨t', h_write, h_db, h_left⟩ := writeLoaded_run e currentTime h_running id loaded
  refine ⟨t', ?_, h_db, h_left⟩
  obtain ⟨_, t₁, h_put, h_confirm⟩ := Body.of_bind_ok h_write
  have h_lift : (Body.lift (loadRow (e.spec id) e.bucketTtlSeconds
      (e.stateLossSuspected id currentTime) true (t.db.buckets (e.bucketKey id)) currentTime) :
        Txn LoadedRow) t = .ok loaded t := by
    rw [h_load]
    rfl
  conv_lhs => unfold loadStates
  rw [Body.bind_ok (query_run _ h_running), Body.bind_ok h_lift, Body.bind_ok h_put,
    Body.bind_ok h_confirm]

/-- A row that a load does not touch. -/
theorem putBucket_others {db' : Database} {id id' : BucketId} {row : BucketRow}
    (h_db : db' = db.putBucket (e.bucketKey id) row) (h_ne : id' ≠ id) :
    db'.buckets (e.bucketKey id') = db.buckets (e.bucketKey id') := by
  rw [h_db]
  exact putBucket_of_ne db row h_ne

/-- A snapshot of the rows predicts the writable load of them. -/
theorem loadStates_predicted (e : SqliteEngine) (currentTime : ℚ) (h_nodup : ids.Nodup)
    (h_running : t.interruptAfter = none)
    (h_same : ∀ id ∈ ids, t.db.buckets (e.bucketKey id) = db.buckets (e.bucketKey id)) :
    Body.Ends
      (fun error => retentionTooLong error ∨
        e.snapshotStates db currentTime ids = .error error)
      (fun states _ => e.snapshotStates db currentTime ids = .ok states)
      (e.loadStates currentTime ids) t := by
  induction ids generalizing t with
  | nil => exact .of_ok rfl rfl
  | cons id ids ih =>
    obtain ⟨h_notMem, h_nodup⟩ := List.nodup_cons.mp h_nodup
    have h_row := h_same id List.mem_cons_self
    have h_snapshot := loadRow_snapshot (e.spec id) e.bucketTtlSeconds
      (e.stateLossSuspected id currentTime) (t.db.buckets (e.bucketKey id)) currentTime
    cases h_load : loadRow (e.spec id) e.bucketTtlSeconds (e.stateLossSuspected id currentTime)
        true (t.db.buckets (e.bucketKey id)) currentTime with
    | error error =>
      have h_lift : (Body.lift (loadRow (e.spec id) e.bucketTtlSeconds
          (e.stateLossSuspected id currentTime) true (t.db.buckets (e.bucketKey id))
          currentTime) : Txn LoadedRow) t = .error error t := by
        rw [h_load]
        rfl
      unfold loadStates
      refine .step (query_run _ h_running) (.fail h_lift ?_)
      rw [h_load] at h_snapshot
      obtain h_refused | h_agree := h_snapshot
      · cases h_refused
        exact .inl rfl
      · right
        unfold snapshotStates
        rw [← h_row]
        cases h_read : loadRow (e.spec id) e.bucketTtlSeconds
            (e.stateLossSuspected id currentTime) false (t.db.buckets (e.bucketKey id))
            currentTime with
        | ok loaded =>
          rw [h_read] at h_agree
          cases h_agree
        | error error' =>
          rw [h_read] at h_agree
          cases h_agree
          rfl
    | ok loaded =>
      obtain ⟨t', h_run, h_db, h_left⟩ := loadStates_cons_run ids h_running h_load
      rw [h_load] at h_snapshot
      obtain h_refused | h_agree := h_snapshot
      · cases h_refused
      · -- the snapshot reads the same state of the first row, and goes on as the load does
        cases h_read : loadRow (e.spec id) e.bucketTtlSeconds
            (e.stateLossSuspected id currentTime) false (t.db.buckets (e.bucketKey id))
            currentTime with
        | error error =>
          rw [h_read] at h_agree
          cases h_agree
        | ok read =>
          rw [h_read] at h_agree
          have h_state : read.state = loaded.state := by
            injection h_agree
          have h_unfold : e.snapshotStates db currentTime (id :: ids) =
              (e.snapshotStates db currentTime ids >>= fun rest =>
                .ok (Function.update rest id loaded.state)) := by
            conv_lhs => unfold snapshotStates
            rw [← h_row, h_read, ← h_state]
            rfl
          have h_rest := ih h_nodup h_left fun id' h_mem => by
            have h_ne : id' ≠ id := fun h_eq => h_notMem (h_eq ▸ h_mem)
            rw [putBucket_others h_db h_ne]
            exact h_same id' (List.mem_cons_of_mem _ h_mem)
          unfold Body.Ends at h_rest ⊢
          rw [h_run, h_unfold]
          cases h_load' : e.loadStates currentTime ids t' with
          | ok states t'' =>
            rw [h_load'] at h_rest
            rw [Body.bind_ok h_load', h_rest]
            rfl
          | error error t'' =>
            rw [h_load'] at h_rest
            rw [Body.bind_error h_load']
            refine h_rest.imp (fun h_refused => h_refused) fun h_error => ?_
            rw [h_error]
            rfl

/-- A load of rows that can each be loaded succeeds. -/
theorem loadStates_succeeds (e : SqliteEngine) (currentTime : ℚ) (h_nodup : ids.Nodup)
    (h_running : t.interruptAfter = none)
    (h_rows : ∀ id ∈ ids, ∃ loaded, loadRow (e.spec id) e.bucketTtlSeconds
      (e.stateLossSuspected id currentTime) true (t.db.buckets (e.bucketKey id)) currentTime =
        .ok loaded) :
    ∃ states t', e.loadStates currentTime ids t = .ok states t' ∧ t'.interruptAfter = none := by
  induction ids generalizing t with
  | nil => exact ⟨_, _, rfl, h_running⟩
  | cons id ids ih =>
    obtain ⟨h_notMem, h_nodup⟩ := List.nodup_cons.mp h_nodup
    obtain ⟨loaded, h_load⟩ := h_rows id List.mem_cons_self
    obtain ⟨t', h_run, h_db, h_left⟩ := loadStates_cons_run ids h_running h_load
    obtain ⟨states, t'', h_rest, h_left'⟩ := ih h_nodup h_left fun id' h_mem => by
      have h_ne : id' ≠ id := fun h_eq => h_notMem (h_eq ▸ h_mem)
      rw [putBucket_others h_db h_ne]
      exact h_rows id' (List.mem_cons_of_mem _ h_mem)
    refine ⟨Function.update states id loaded.state, t'', ?_, h_left'⟩
    rw [h_run, Body.bind_ok h_rest]
    rfl

theorem confirm_of_none {pending : BucketId → Option ℚ} {id : BucketId}
    (h_none : pending id = none) :
    (e.confirm pending).stateConfirmedUntil id = e.stateConfirmedUntil id := by
  unfold confirm
  dsimp only
  rw [h_none]

/-- Loads are idempotent, and the read-only snapshot predicts the writable one: the same
    engine loads again in the same transaction, or after it has committed this one. -/
theorem loadStates_idempotent (e : SqliteEngine) (h_ttl : 0 < e.bucketTtlSeconds)
    (db : Database) (currentTime : ℚ) :
    Body.Ends
      (fun error => error = .valueError .retentionTooLong ∨
        e.snapshotStates db currentTime e.buckets = .error error)
      (fun states t =>
        e.snapshotStates db currentTime e.buckets = .ok states ∧
        ∀ again, again = e ∨ again = e.confirm t.pendingStateConfirmations →
          ∀ pending, ∃ states' t', again.loadStates currentTime e.buckets ⟨t.db, pending, none⟩ =
              .ok states' t' ∧
            ∀ id ∈ e.buckets, (states' id).capacity = (states id).capacity ∧
              (states' id).maxCapacity = (states id).maxCapacity)
      (e.loadStates currentTime e.buckets) ⟨db, fun _ => none, none⟩ := by
  have h_predicted := loadStates_predicted e currentTime (t := ⟨db, fun _ => none, none⟩)
    e.nodup rfl fun _ _ => Eq.refl (db.buckets _)
  unfold Body.Ends at h_predicted ⊢
  split at h_predicted
  · rename_i states t h_ok
    refine ⟨h_predicted, fun again h_again pending => ?_⟩
    have h_loaded := (loadStates_rows e.nodup h_ok).2
    have h_same : again.buckets = e.buckets ∧ again.spec = e.spec ∧
        again.bucketKey = e.bucketKey ∧ again.bucketTtlSeconds = e.bucketTtlSeconds := by
      obtain rfl | rfl := h_again
      · exact ⟨rfl, rfl, rfl, rfl⟩
      · exact ⟨rfl, rfl, rfl, rfl⟩
    obtain ⟨h_buckets, h_spec, h_key, h_ttl'⟩ := h_same
    -- each row is loaded again as it was left
    have h_rows : ∀ id ∈ e.buckets, ∃ loaded, loadRow (again.spec id) again.bucketTtlSeconds
        (again.stateLossSuspected id currentTime) true (t.db.buckets (again.bucketKey id))
          currentTime = .ok loaded ∧
        loaded.state.capacity = (states id).capacity ∧
        loaded.state.maxCapacity = (states id).maxCapacity := by
      intro id h_mem
      obtain ⟨loaded, h_load, h_view, h_state⟩ := h_loaded id h_mem
      have h_row : t.db.buckets (e.bucketKey id) = some loaded.row :=
        congrArg RowView.row h_view
      have h_pending : t.pendingStateConfirmations id =
          if loaded.confirmed then some currentTime else none :=
        congrArg RowView.confirmedAt h_view
      have h_suspected : again.stateLossSuspected id currentTime =
          e.stateLossSuspected id currentTime ∨ loaded.confirmed = true := by
        cases h_confirmed : loaded.confirmed with
        | true => exact .inr rfl
        | false =>
          rw [h_confirmed] at h_pending
          left
          obtain rfl | rfl := h_again
          · rfl
          · show ((e.confirm t.pendingStateConfirmations).stateConfirmedUntil id).any _ =
              (e.stateConfirmedUntil id).any _
            rw [confirm_of_none h_pending]
      obtain ⟨loaded', h_again', h_capacity, _, h_max, _, _⟩ :=
        loadRow_again h_ttl h_load h_suspected
      rw [h_key, h_spec, h_ttl', h_row]
      exact ⟨loaded', h_again', by rw [h_capacity, h_state], by rw [h_max, h_state]⟩
    obtain ⟨states', t', h_run, _⟩ := loadStates_succeeds again currentTime
      (t := ⟨t.db, pending, none⟩) e.nodup rfl fun id h_mem => by
        obtain ⟨loaded, h_load, _⟩ := h_rows id h_mem
        exact ⟨loaded, h_load⟩
    refine ⟨states', t', h_run, fun id h_mem => ?_⟩
    obtain ⟨loaded, h_load, h_capacity, h_max⟩ := h_rows id h_mem
    obtain ⟨loaded', h_load', _, h_state'⟩ := (loadStates_rows e.nodup h_run).2 id h_mem
    have h_eq : loaded' = loaded := by
      rw [h_load] at h_load'
      injection h_load' with h_eq
      exact h_eq.symm
    rw [h_state', h_eq]
    exact ⟨h_capacity, h_max⟩
  · exact h_predicted

/-- A row with an expired override, a lost field and a debt, loaded twice at time 50. -/
theorem loadStates_idempotent_lostField :
    Body.Ends
      (fun error => error = .valueError .retentionTooLong ∨
        exampleEngine.snapshotStates (Database.empty.putBucket
          (exampleEngine.bucketKey tokensPerMinute)
          ⟨some (-7), none, some 200, some 40, some 100, 0, 3600⟩) 50 exampleEngine.buckets =
            .error error)
      (fun states t =>
        exampleEngine.snapshotStates (Database.empty.putBucket
          (exampleEngine.bucketKey tokensPerMinute)
          ⟨some (-7), none, some 200, some 40, some 100, 0, 3600⟩) 50 exampleEngine.buckets =
            .ok states ∧
        ∀ again, again = exampleEngine ∨
            again = exampleEngine.confirm t.pendingStateConfirmations →
          ∀ pending, ∃ states' t', again.loadStates 50 exampleEngine.buckets
              ⟨t.db, pending, none⟩ = .ok states' t' ∧
            ∀ id ∈ exampleEngine.buckets, (states' id).capacity = (states id).capacity ∧
              (states' id).maxCapacity = (states id).maxCapacity)
      (exampleEngine.loadStates 50 exampleEngine.buckets)
      ⟨Database.empty.putBucket (exampleEngine.bucketKey tokensPerMinute)
        ⟨some (-7), none, some 200, some 40, some 100, 0, 3600⟩, fun _ => none, none⟩ :=
  loadStates_idempotent exampleEngine (by decide) _ 50

/-! ## What a load finds -/

/-- A load of one row: in a transaction, which prunes first, or for a snapshot. -/
inductive LoadsRow (e : SqliteEngine) (input : TxnInput) (db : Database) (id : BucketId) :
    Except BackendError LoadedRow → Prop
  | transaction : LoadsRow e input db id (e.load input db id)
  | snapshot : LoadsRow e input db id
      (loadRow (e.spec id) e.bucketTtlSeconds (e.stateLossSuspected id input.currentTime) false
        (db.buckets (e.bucketKey id)) input.currentTime)

/-- What the load of a row reads: the row as it is, or pruned. -/
theorem LoadsRow.read {input : TxnInput} {id : BucketId} {result : Except BackendError LoadedRow}
    (h_loads : e.LoadsRow input db id result) :
    ∃ writable row, RowPath e input.currentTime id ⟨db.buckets (e.bucketKey id), none⟩
        ⟨row, none⟩ ∧
      (row = db.buckets (e.bucketKey id) ∨
        row = input.prunedRow (e.bucketKey id) (db.buckets (e.bucketKey id))) ∧
      result = loadRow (e.spec id) e.bucketTtlSeconds
        (e.stateLossSuspected id input.currentTime) writable row input.currentTime := by
  cases h_loads with
  | transaction => exact ⟨true, _, pruned_path e input _ none id, .inr rfl, rfl⟩
  | snapshot => exact ⟨false, _, .refl, .inl rfl, rfl⟩

/-- A load of the buckets of an engine, and how it ends: `_load_states` in a transaction,
    after `_prune` and the statements on the reservation's own rows, or for a snapshot. -/
inductive Loads (e : SqliteEngine) (input : TxnInput) (db : Database) :
    Except BackendError (BucketId → BucketState) → Prop
  | returned {left : Option ℕ} {u : Unit} {s₁ s₂ s₃ : TxnState} {states : BucketId → BucketState}
      (h_prune : prune input ⟨db, fun _ => none, left⟩ = .ok u s₁) (h_same : SameBuckets s₁ s₂)
      (h_load : e.loadStates input.currentTime e.buckets s₂ = .ok states s₃) :
      Loads e input db (.ok states)
  | raised {left : Option ℕ} {u : Unit} {s₁ s₂ s₃ : TxnState} {error : BackendError}
      (h_prune : prune input ⟨db, fun _ => none, left⟩ = .ok u s₁) (h_same : SameBuckets s₁ s₂)
      (h_load : e.loadStates input.currentTime e.buckets s₂ = .error error s₃) :
      Loads e input db (.error error)
  | snapshot : Loads e input db (e.snapshotStates db input.currentTime e.buckets)

/-- A statement returns, unless the transaction is interrupted before it. -/
theorem statement_ends {α : Type} (f : Database → α × Database) (t : TxnState) :
    Body.Ends (· = BackendError.interrupted) (fun a t' => a = (f t.db).1 ∧ t'.db = (f t.db).2)
      (statement f) t := by
  obtain ⟨db, pending, left⟩ := t
  cases left with
  | none => exact .of_ok rfl ⟨rfl, rfl⟩
  | some left =>
    cases left with
    | zero => exact .of_error rfl rfl
    | succ left => exact .of_ok rfl ⟨rfl, rfl⟩

/-- `_load_states` raises what the load of one of the rows raises. -/
theorem loadStates_raises (e : SqliteEngine) (currentTime : ℚ) (h_nodup : ids.Nodup)
    (h_same : ∀ id ∈ ids, t.db.buckets (e.bucketKey id) = db.buckets (e.bucketKey id)) :
    Body.Ends
      (fun error => error = .interrupted ∨ ∃ id ∈ ids,
        loadRow (e.spec id) e.bucketTtlSeconds (e.stateLossSuspected id currentTime) true
          (db.buckets (e.bucketKey id)) currentTime = .error error)
      (fun _ _ => True) (e.loadStates currentTime ids) t := by
  induction ids generalizing t with
  | nil => exact .of_ok rfl trivial
  | cons id ids ih =>
    obtain ⟨h_notMem, h_nodup⟩ := List.nodup_cons.mp h_nodup
    unfold loadStates
    refine .bind ((statement_ends _ t).mono (fun _ => .inl) fun _ _ h => h)
      fun row t₁ h_first => ?_
    obtain ⟨h_row, h_db₁⟩ := h_first
    have h_row : row = db.buckets (e.bucketKey id) := h_row.trans (h_same id List.mem_cons_self)
    subst h_row
    cases h_load : loadRow (e.spec id) e.bucketTtlSeconds (e.stateLossSuspected id currentTime)
        true (db.buckets (e.bucketKey id)) currentTime with
    | error error => exact .fail rfl (.inr ⟨id, List.mem_cons_self, h_load⟩)
    | ok loaded =>
      refine .step rfl (.bind ((statement_ends _ t₁).mono (fun _ => .inl) fun _ _ h => h)
        fun _ t₂ h_second => ?_)
      have h_db₂ := h_second.2
      have h_confirm : ∃ t₃, Body.when loaded.confirmed (confirmState id currentTime) t₂ =
          .ok () t₃ ∧ t₃.db = t₂.db := by
        cases loaded.confirmed with
        | true => exact ⟨_, rfl, rfl⟩
        | false => exact ⟨_, rfl, rfl⟩
      obtain ⟨t₃, h_confirm, h_db₃⟩ := h_confirm
      -- the rows of the other buckets are still the ones that were there
      have h_rest := ih h_nodup (t := t₃) fun id' h_mem => by
        have h_ne : id' ≠ id := fun h_eq => h_notMem (h_eq ▸ h_mem)
        rw [putBucket_others (h_db₃.trans h_db₂) h_ne, h_db₁]
        exact h_same id' (List.mem_cons_of_mem _ h_mem)
      refine .step h_confirm (.bind (h_rest.mono ?_ fun _ _ h => h) fun _ _ _ =>
        .of_ok rfl trivial)
      rintro error (h_interrupted | ⟨id', h_mem, h_error⟩)
      · exact .inl h_interrupted
      · exact .inr ⟨id', List.mem_cons_of_mem _ h_mem, h_error⟩

/-- A snapshot finds in each bucket what its row says, or raises what one of the rows
    raises. -/
theorem snapshotStates_rows (e : SqliteEngine) (db : Database) (currentTime : ℚ)
    (ids : List BucketId) :
    match e.snapshotStates db currentTime ids with
    | .ok states => ∀ id ∈ ids, ∃ loaded, loadRow (e.spec id) e.bucketTtlSeconds
        (e.stateLossSuspected id currentTime) false (db.buckets (e.bucketKey id)) currentTime =
          .ok loaded ∧ states id = loaded.state
    | .error error => ∃ id ∈ ids, loadRow (e.spec id) e.bucketTtlSeconds
        (e.stateLossSuspected id currentTime) false (db.buckets (e.bucketKey id)) currentTime =
          .error error := by
  induction ids with
  | nil => exact fun _ h_mem => absurd h_mem List.not_mem_nil
  | cons id ids ih =>
    unfold snapshotStates
    cases h_load : loadRow (e.spec id) e.bucketTtlSeconds (e.stateLossSuspected id currentTime)
        false (db.buckets (e.bucketKey id)) currentTime with
    | error error => exact ⟨id, List.mem_cons_self, h_load⟩
    | ok loaded =>
      cases h_rest : e.snapshotStates db currentTime ids with
      | error error =>
        rw [h_rest] at ih
        obtain ⟨id', h_mem, h_error⟩ := ih
        exact ⟨id', List.mem_cons_of_mem _ h_mem, h_error⟩
      | ok rest =>
        rw [h_rest] at ih
        intro id' h_mem
        show ∃ loaded' : LoadedRow, _ ∧ Function.update rest id loaded.state id' = loaded'.state
        by_cases h_eq : id' = id
        · subst h_eq
          exact ⟨loaded, h_load, Function.update_self ..⟩
        · obtain ⟨loaded', h_load', h_state⟩ := ih id' (List.mem_of_ne_of_mem h_eq h_mem)
          exact ⟨loaded', h_load', (Function.update_of_ne h_eq ..).trans h_state⟩

/-- The rows that a load of a transaction reads: those that `_prune` leaves. -/
theorem rows_of_prune {input : TxnInput} {left : Option ℕ} {u : Unit} {s₁ s₂ : TxnState}
    (h_prune : prune input ⟨db, fun _ => none, left⟩ = .ok u s₁) (h_same : SameBuckets s₁ s₂)
    (id : BucketId) :
    s₂.db.buckets (e.bucketKey id) =
      input.prunedRow (e.bucketKey id) (db.buckets (e.bucketKey id)) :=
  congrArg RowView.row ((h_same.view_eq e id).trans (prune_rows h_prune id))

/-- A load finds in each bucket what the load of its row finds. -/
theorem Loads.row_of_ok {input : TxnInput} {states : BucketId → BucketState}
    (h_loads : e.Loads input db (.ok states)) {id : BucketId} (h_mem : id ∈ e.buckets) :
    ∃ loaded, e.LoadsRow input db id (.ok loaded) ∧ states id = loaded.state := by
  generalize h_result : Except.ok states = result at h_loads
  cases h_loads with
  | returned h_prune h_same h_load =>
    cases h_result
    obtain ⟨loaded, h_row, _, h_state⟩ := (loadStates_rows e.nodup h_load).2 id h_mem
    rw [rows_of_prune h_prune h_same] at h_row
    exact ⟨loaded, h_row ▸ .transaction, h_state⟩
  | raised => cases h_result
  | snapshot =>
    have h_rows := e.snapshotStates_rows db input.currentTime e.buckets
    rw [← h_result] at h_rows
    obtain ⟨loaded, h_row, h_state⟩ := h_rows id h_mem
    exact ⟨loaded, h_row ▸ .snapshot, h_state⟩

/-- A load that raises an error fails at a row, or is interrupted. -/
theorem Loads.row_of_error {input : TxnInput} {error : BackendError}
    (h_loads : e.Loads input db (.error error)) :
    error = .interrupted ∨ ∃ id ∈ e.buckets, e.LoadsRow input db id (.error error) := by
  generalize h_result : Except.error error = result at h_loads
  cases h_loads with
  | returned => cases h_result
  | @raised _ _ _ s₂ _ _ h_prune h_same h_load =>
    cases h_result
    have h_raises := loadStates_raises e input.currentTime (t := s₂) e.nodup
      fun id _ => Eq.refl (s₂.db.buckets (e.bucketKey id))
    unfold Body.Ends at h_raises
    rw [h_load] at h_raises
    obtain h_interrupted | ⟨id, h_mem, h_row⟩ := h_raises
    · exact .inl h_interrupted
    · rw [rows_of_prune h_prune h_same] at h_row
      exact .inr ⟨id, h_mem, h_row ▸ .transaction⟩
  | snapshot =>
    have h_rows := e.snapshotStates_rows db input.currentTime e.buckets
    rw [← h_result] at h_rows
    obtain ⟨id, h_mem, h_row⟩ := h_rows
    exact .inr ⟨id, h_mem, h_row ▸ .snapshot⟩

end SqliteEngine

end TokenThrottle
