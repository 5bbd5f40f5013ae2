/-
  TokenThrottle.Sqlite.RowSteps

  What a transaction does to one bucket row, said once: it prunes, inserts, loads or
  writes it (`RowStep`), and a change of a limit ends with the statement that sets the
  override columns (`Limited`).

  * `RowView` is a row in a transaction together with the confirmation that the commit
    will make of it.
  * `readRow_cases` lists the three ways a load reads a row; the facts about a loaded
    row follow from it.
-/
import Mathlib.Logic.Relation
import TokenThrottle.Sqlite.Engine

namespace TokenThrottle

/-! ## Reading a row -/

namespace BucketRow

variable {row : BucketRow} {currentTime : ℚ}

theorem overrideLive_iff : row.overrideLive currentTime = true ↔
    ∃ value expiresAt, row.overrideValue = some value ∧
      row.overrideExpiresAt = some expiresAt ∧ currentTime < expiresAt := by
  unfold overrideLive
  cases row.overrideValue <;> cases row.overrideExpiresAt <;> simp

theorem overrideUnexpired_of_live (h_live : row.overrideLive currentTime = true) :
    row.OverrideUnexpired currentTime := by
  obtain ⟨_, expiresAt, _, h_expiresAt, h_lt⟩ := overrideLive_iff.mp h_live
  intro expiresAt' h_some
  rw [h_expiresAt] at h_some
  cases h_some
  exact h_lt

theorem overrideUnexpired_of_none (h_none : row.overrideExpiresAt = none) :
    row.OverrideUnexpired currentTime := by
  intro expiresAt h_some
  rw [h_none] at h_some
  cases h_some

theorem live_of_activeOverride {spec : BucketSpec} {value : ℚ}
    (h_active : row.activeOverride spec currentTime = some value) :
    row.overrideLive currentTime = true ∧ row.overrideValue = some value ∧
      overrideAnchorMatches spec.configuredMaxCapacity.value
        row.overrideConfiguredMaxCapacity = true := by
  unfold activeOverride at h_active
  split at h_active
  · rename_i value' h_value
    split at h_active
    · rename_i h_live
      cases h_active
      exact ⟨h_live.1, h_value, h_live.2⟩
    · cases h_active
  · cases h_active

/-- The override of a row lives, or none is stored. -/
def OverrideSettled (row : BucketRow) (currentTime : ℚ) : Prop :=
  row.overrideLive currentTime = true ∨
    (row.overrideValue = none ∧ row.overrideExpiresAt = none)

theorem OverrideSettled.unexpired (h_settled : row.OverrideSettled currentTime) :
    row.OverrideUnexpired currentTime := by
  obtain h_live | ⟨_, h_none⟩ := h_settled
  · exact overrideUnexpired_of_live h_live
  · exact overrideUnexpired_of_none h_none

/-- A row that a load finds: it or its override has not expired. -/
def Found (row : BucketRow) (currentTime : ℚ) : Prop :=
  currentTime < row.expiresAt ∨ row.overrideLive currentTime = true

/-- The row as it is found: one that has expired lost its state. -/
def found (row : BucketRow) (currentTime : ℚ) : BucketRow :=
  if row.expiresAt ≤ currentTime then row.withoutState else row

theorem found_of_lt (h_lt : currentTime < row.expiresAt) : row.found currentTime = row := by
  unfold found
  rw [if_neg (not_le.mpr h_lt)]

theorem found_of_le (h_le : row.expiresAt ≤ currentTime) :
    row.found currentTime = row.withoutState := by
  unfold found
  rw [if_pos h_le]

theorem found_overrideLive : (row.found currentTime).overrideLive = row.overrideLive := by
  unfold found
  split <;> rfl

end BucketRow

theorem validateMaxCapacity_ok {value : ℚ} {maxCapacity : MaxCapacity}
    (h_ok : validateMaxCapacityFinitePositive value = .ok maxCapacity) :
    maxCapacity.value = value := by
  unfold validateMaxCapacityFinitePositive at h_ok
  split at h_ok
  · cases h_ok
    rfl
  · cases h_ok

/-- An integration before the override's expiry, or without one, changes nothing. -/
theorem integrateExpiredOverride_of_unexpired {spec : BucketSpec} {row : BucketRow}
    {capacity lastChecked : Option ℚ} {currentTime : ℚ}
    (h_unexpired : row.OverrideUnexpired currentTime) :
    integrateExpiredOverride spec row capacity lastChecked currentTime =
      .ok (capacity, lastChecked) := by
  unfold integrateExpiredOverride
  split
  · rename_i expiresAt _ _ _ h_expiresAt
    have h_lt := h_unexpired expiresAt h_expiresAt
    rw [if_neg fun h => absurd h.2.2 (not_le.mpr h_lt)]
  · rfl

/-- The three ways a load reads a row: there is none to find, it is read as it stands,
    or its expired override is integrated and cleared. -/
theorem readRow_cases {spec : BucketSpec} {ttl : ℕ} {row : Option BucketRow} {currentTime : ℚ}
    {reading : Reading} (h_read : readRow spec ttl row currentTime = .ok reading) :
    ((∀ r, row = some r → ¬ r.Found currentTime) ∧
      reading = ⟨.fresh currentTime ttl, none, none, spec.configuredMaxCapacity, false, false⟩) ∨
    (∃ r, row = some r ∧ r.Found currentTime ∧
      (r.found currentTime).OverrideSettled currentTime ∧
      ∃ maxCapacity, reading = ⟨r.found currentTime, (r.found currentTime).capacity,
          (r.found currentTime).lastChecked, maxCapacity,
          ((r.found currentTime).activeOverride spec currentTime).isSome, false⟩ ∧
        maxCapacity.value = ((r.found currentTime).activeOverride spec currentTime).getD
          spec.configuredMaxCapacity.value) ∨
    (∃ r, row = some r ∧ currentTime < r.expiresAt ∧ r.overrideLive currentTime = false ∧
      ∃ capacity lastChecked,
        integrateExpiredOverride spec r r.capacity r.lastChecked currentTime =
          .ok (capacity, lastChecked) ∧
        reading = ⟨r.withoutOverride.withState capacity lastChecked currentTime
          (currentTime + ttl), capacity, lastChecked, spec.configuredMaxCapacity, false,
          capacity.isSome && lastChecked.isSome⟩) := by
  unfold readRow at h_read
  split at h_read
  · rename_i h_filter
    refine .inl ⟨fun r h_row h_found => ?_, ?_⟩
    · rw [h_row, Option.filter_some, if_pos (by simpa [BucketRow.Found] using h_found)]
        at h_filter
      cases h_filter
    · cases h_read
      rfl
  · rename_i r h_filter
    obtain ⟨h_row, h_found⟩ := Option.filter_eq_some_iff.mp h_filter
    have h_found : r.Found currentTime := by simpa [BucketRow.Found] using h_found
    have h_state : (if r.expiresAt ≤ currentTime then r.withoutState else r) =
        r.found currentTime := rfl
    have h_override : (r.found currentTime).overrideLive = r.overrideLive :=
      BucketRow.found_overrideLive
    have h_alive : ¬ r.overrideLive currentTime = true → r.found currentTime = r := by
      intro h_dead
      exact BucketRow.found_of_lt (h_found.resolve_right h_dead)
    dsimp only at h_read
    rw [h_state] at h_read
    generalize h_r' : r.found currentTime = r' at h_read h_override h_alive ⊢
    split at h_read
    · -- the override is in force
      rename_i value h_active
      obtain ⟨maxCapacity, h_max, h_read⟩ := bind_eq_ok h_read
      cases h_read
      have h_live := (BucketRow.live_of_activeOverride h_active).1
      refine .inr (.inl ⟨r, h_row, h_found, ?_, maxCapacity, ?_, ?_⟩)
      · rw [h_r']
        exact .inl h_live
      · rw [h_r', h_active]
        rfl
      · rw [h_r', h_active, Option.getD_some]
        exact validateMaxCapacity_ok h_max
    · rename_i h_inactive
      obtain ⟨⟨capacity, lastChecked⟩, h_integrate, h_read⟩ := bind_eq_ok h_read
      simp only at h_read
      split at h_read
      · -- the override has expired, so it is the row that has not
        rename_i h_expired
        have h_dead : ¬ r.overrideLive currentTime = true := by
          rw [← h_override]
          exact h_expired.1
        obtain rfl := h_alive h_dead
        cases h_read
        exact .inr (.inr ⟨r', h_row, h_found.resolve_right h_dead, by simpa using h_dead,
          capacity, lastChecked, h_integrate, rfl⟩)
      · rename_i h_kept
        have h_settled : r'.OverrideSettled currentTime := by
          by_cases h_live : r'.overrideLive currentTime = true
          · exact .inl h_live
          · have h_value : ¬ r'.overrideValue.isSome = true :=
              fun h_some => h_kept ⟨h_live, .inl h_some⟩
            have h_none : ¬ r'.overrideExpiresAt.isSome = true :=
              fun h_some => h_kept ⟨h_live, .inr h_some⟩
            exact .inr ⟨by simpa using h_value, by simpa using h_none⟩
        rw [integrateExpiredOverride_of_unexpired h_settled.unexpired] at h_integrate
        cases h_integrate
        cases h_read
        refine .inr (.inl ⟨r, h_row, h_found, ?_, spec.configuredMaxCapacity, ?_, ?_⟩)
        · rw [h_r']
          exact h_settled
        · rw [h_r', h_inactive]
          rfl
        · rw [h_r', h_inactive]
          rfl

/-! ## A loaded row -/

/-- Both fields of a state are stored, or neither is. -/
def BucketRow.Paired (row : BucketRow) : Prop :=
  row.capacity.isSome = row.lastChecked.isSome

theorem stateLost_eq_false_iff {capacity lastChecked : Option ℚ} {suspected : Bool} :
    stateLost capacity lastChecked suspected = false ↔
      capacity.isSome = lastChecked.isSome ∧ (suspected = true → capacity.isSome = true) := by
  cases capacity <;> cases lastChecked <;> cases suspected <;> simp [stateLost, missingFields]

/-- A reading shows the fields of the row it leaves. -/
theorem readRow_fields {spec : BucketSpec} {ttl : ℕ} {row : Option BucketRow} {currentTime : ℚ}
    {reading : Reading} (h_read : readRow spec ttl row currentTime = .ok reading) :
    reading.row.capacity = reading.capacity ∧ reading.row.lastChecked = reading.lastChecked := by
  obtain ⟨_, rfl⟩ | ⟨r, _, _, _, _, rfl, _⟩ | ⟨r, _, _, _, _, _, _, rfl⟩ :=
    readRow_cases h_read
  · exact ⟨rfl, rfl⟩
  · exact ⟨rfl, rfl⟩
  · exact ⟨rfl, rfl⟩

theorem readRow_overrideUnexpired {spec : BucketSpec} {ttl : ℕ} {row : Option BucketRow}
    {currentTime : ℚ} {reading : Reading}
    (h_read : readRow spec ttl row currentTime = .ok reading) :
    reading.row.OverrideUnexpired currentTime := by
  obtain ⟨_, rfl⟩ | ⟨r, _, _, h_settled, _, rfl, _⟩ | ⟨r, _, _, _, _, _, _, rfl⟩ :=
    readRow_cases h_read
  · exact BucketRow.overrideUnexpired_of_none rfl
  · exact h_settled.unexpired
  · exact BucketRow.overrideUnexpired_of_none rfl

section RecoverLost

variable (ttl : ℕ) (suspected : Bool) (currentTime : ℚ) (reading : Reading)

theorem recoverLost_of_kept
    (h_kept : stateLost reading.capacity reading.lastChecked suspected = false) :
    recoverLost ttl suspected currentTime reading = reading := by
  unfold recoverLost
  rw [h_kept]
  rfl

theorem recoverLost_of_lost
    (h_lost : stateLost reading.capacity reading.lastChecked suspected = true) :
    recoverLost ttl suspected currentTime reading =
      { reading with
        row := reading.row.withState (some 0) (some currentTime) currentTime (currentTime + ttl)
        capacity := some 0
        lastChecked := some currentTime
        confirmed := true } := by
  unfold recoverLost
  rw [h_lost]
  rfl

/-- After recovery a state is whole or absent. -/
theorem recoverLost_paired : (recoverLost ttl suspected currentTime reading).capacity.isSome =
    (recoverLost ttl suspected currentTime reading).lastChecked.isSome := by
  by_cases h_lost : stateLost reading.capacity reading.lastChecked suspected = true
  · rw [recoverLost_of_lost ttl suspected currentTime reading h_lost]
    rfl
  · have h_kept := Bool.eq_false_iff.mpr h_lost
    rw [recoverLost_of_kept ttl suspected currentTime reading h_kept]
    exact (stateLost_eq_false_iff.mp h_kept).1

end RecoverLost

/-- The refill of a stored state, capped and uncapped. -/
theorem refillCapacity_some {spec : BucketSpec} {capacity last currentTime : ℚ}
    (maxCapacity : MaxCapacity)
    (h_time : 0 ≤ currentTime) :
    refillCapacity spec (some capacity) (some last) currentTime maxCapacity =
      .ok (⟨min maxCapacity.value (capacity + max 0 (currentTime - last) *
          calculateRatePerSec maxCapacity spec.id), false⟩,
        capacity + max 0 (currentTime - last) * calculateRatePerSec maxCapacity spec.id) := by
  unfold refillCapacity
  dsimp only
  rw [calculateCapacity_ok h_time (calculateRatePerSec_pos _ _)]
  rfl

/-- The last stage keeps the fields and the override of the row, and retains debt. -/
theorem finishRow_ok {spec : BucketSpec} {ttl : ℕ} {writable : Bool} {currentTime : ℚ}
    {event : Option MissingStateEvent} {reading : Reading} {loaded : LoadedRow}
    (h_ok : finishRow spec ttl writable currentTime event reading = .ok loaded) :
    ∃ calculated uncapped expiresAt,
      refillCapacity spec reading.capacity reading.lastChecked currentTime
        reading.maxCapacity = .ok (calculated, uncapped) ∧
      loaded.state = ⟨calculated.amount, uncapped, reading.maxCapacity, reading.overrideActive,
        calculated.isFreshStart, event⟩ ∧
      loaded.confirmed = (repairFuture ttl currentTime reading).2 ∧
      loaded.row = { (repairFuture ttl currentTime reading).1 with expiresAt := expiresAt } ∧
      (repairFuture ttl currentTime reading).1.expiresAt ≤ expiresAt ∧
      (writable = true → calculated.amount < 0 → ∃ retention,
        debtTtlSeconds calculated.amount ttl spec.id.perSeconds reading.maxCapacity.value
          spec.configuredMaxCapacity.value = .ok retention ∧
        currentTime + retention ≤ expiresAt) := by
  unfold finishRow at h_ok
  obtain ⟨⟨calculated, uncapped⟩, h_refill, h_ok⟩ := bind_eq_ok h_ok
  dsimp only at h_ok
  split at h_ok
  · obtain ⟨retention, h_retention, h_ok⟩ := bind_eq_ok h_ok
    cases h_ok
    exact ⟨calculated, uncapped, _, h_refill, rfl, rfl, rfl, le_max_left _ _,
      fun _ _ => ⟨retention, h_retention, le_max_right _ _⟩⟩
  · rename_i h_noDebt
    cases h_ok
    exact ⟨calculated, uncapped, _, h_refill, rfl, rfl, rfl, le_refl _,
      fun h_writable h_debt => absurd ⟨h_writable, h_debt⟩ h_noDebt⟩

/-- The repair moves the timestamp only. -/
theorem repairFuture_row (ttl : ℕ) (currentTime : ℚ) (reading : Reading) :
    (repairFuture ttl currentTime reading).1.capacity = reading.row.capacity ∧
      ((repairFuture ttl currentTime reading).1.lastChecked = reading.row.lastChecked ∨
        ((repairFuture ttl currentTime reading).1.lastChecked = some currentTime ∧
          reading.lastChecked.isSome = true)) ∧
      (repairFuture ttl currentTime reading).1.overrideExpiresAt =
        reading.row.overrideExpiresAt := by
  unfold repairFuture
  split
  · rename_i h_future
    refine ⟨rfl, .inr ⟨rfl, ?_⟩, rfl⟩
    obtain ⟨last, h_last, _⟩ := (Option.any_eq_true _ _).mp h_future
    rw [h_last]
    rfl
  · exact ⟨rfl, .inl rfl, rfl⟩

theorem refillCapacity_ok {spec : BucketSpec} {capacity lastChecked : Option ℚ} {currentTime : ℚ}
    {maxCapacity : MaxCapacity} {calculated : CalculatedCapacity} {uncapped : ℚ}
    (h_ok : refillCapacity spec capacity lastChecked currentTime maxCapacity =
      .ok (calculated, uncapped)) :
    0 ≤ currentTime ∧ calculated = ⟨refilled lastChecked capacity currentTime maxCapacity
      (calculateRatePerSec maxCapacity spec.id), isFreshStart lastChecked capacity⟩ := by
  unfold refillCapacity at h_ok
  obtain ⟨calculated', h_calculated, h_ok⟩ := bind_eq_ok h_ok
  by_cases h_time : 0 ≤ currentTime
  · rw [calculateCapacity_ok h_time (calculateRatePerSec_pos _ _)] at h_calculated
    cases h_calculated
    cases h_ok
    exact ⟨h_time, rfl⟩
  · rw [calculateCapacity_negative (not_le.mp h_time)] at h_calculated
    cases h_calculated

theorem loadRow_ok {spec : BucketSpec} {ttl : ℕ} {suspected writable : Bool}
    {row : Option BucketRow} {currentTime : ℚ} {loaded : LoadedRow}
    (h_ok : loadRow spec ttl suspected writable row currentTime = .ok loaded) :
    ∃ reading, readRow spec ttl row currentTime = .ok reading ∧
      finishRow spec ttl writable currentTime
        (missingStateEvent reading.capacity reading.lastChecked suspected)
        (recoverLost ttl suspected currentTime reading) = .ok loaded :=
  bind_eq_ok h_ok

/-- What every loaded row is like: whole or without state, with no expired override. -/
structure LoadedRow.Sound (loaded : LoadedRow) (currentTime : ℚ) : Prop where
  paired : loaded.row.Paired
  isFreshStart : loaded.state.isFreshStart = loaded.row.capacity.isNone
  override : loaded.row.OverrideUnexpired currentTime

theorem loadRow_sound {spec : BucketSpec} {ttl : ℕ} {suspected writable : Bool}
    {row : Option BucketRow} {currentTime : ℚ} {loaded : LoadedRow}
    (h_ok : loadRow spec ttl suspected writable row currentTime = .ok loaded) :
    loaded.Sound currentTime := by
  obtain ⟨reading, h_read, h_finish⟩ := loadRow_ok h_ok
  have h_override := readRow_overrideUnexpired h_read
  have h_fields : (recoverLost ttl suspected currentTime reading).row.capacity =
        (recoverLost ttl suspected currentTime reading).capacity ∧
      (recoverLost ttl suspected currentTime reading).row.lastChecked =
        (recoverLost ttl suspected currentTime reading).lastChecked ∧
      (recoverLost ttl suspected currentTime reading).row.overrideExpiresAt =
        reading.row.overrideExpiresAt := by
    by_cases h_lost : stateLost reading.capacity reading.lastChecked suspected = true
    · rw [recoverLost_of_lost ttl suspected currentTime reading h_lost]
      exact ⟨rfl, rfl, rfl⟩
    · rw [recoverLost_of_kept ttl suspected currentTime reading (Bool.eq_false_iff.mpr h_lost)]
      exact ⟨(readRow_fields h_read).1, (readRow_fields h_read).2, rfl⟩
  have h_paired := recoverLost_paired ttl suspected currentTime reading
  generalize recoverLost ttl suspected currentTime reading = recovered at *
  obtain ⟨calculated, uncapped, expiresAt, h_refill, h_state, _, h_row, _, _⟩ :=
    finishRow_ok h_finish
  obtain ⟨_, rfl⟩ := refillCapacity_ok h_refill
  obtain ⟨h_capacity, h_last, h_repaired⟩ := repairFuture_row ttl currentTime recovered
  have h_lastSome : (repairFuture ttl currentTime recovered).1.lastChecked.isSome =
      recovered.lastChecked.isSome := by
    obtain h_same | ⟨h_now, h_some⟩ := h_last
    · rw [h_same, h_fields.2.1]
    · rw [h_now, h_some]
      rfl
  rw [h_fields.1] at h_capacity
  refine ⟨?_, ?_, ?_⟩
  · show loaded.row.capacity.isSome = loaded.row.lastChecked.isSome
    rw [h_row]
    show (repairFuture ttl currentTime recovered).1.capacity.isSome = _
    rw [h_capacity, h_paired, h_lastSome]
  · rw [h_state, h_row]
    show isFreshStart recovered.lastChecked recovered.capacity =
      (repairFuture ttl currentTime recovered).1.capacity.isNone
    rw [h_capacity]
    unfold isFreshStart
    rw [← Option.not_isSome, ← Option.not_isSome, ← h_paired, Bool.or_self]
  · intro expiresAt' h_some
    rw [h_row] at h_some
    change (repairFuture ttl currentTime recovered).1.overrideExpiresAt = _ at h_some
    rw [h_repaired, h_fields.2.2] at h_some
    exact h_override expiresAt' h_some

/-! ## The steps of a row in a transaction -/

/-- A bucket row in a transaction, with the time at which its state was last written or
    confirmed there. -/
structure RowView where
  row : Option BucketRow
  confirmedAt : Option ℚ

/-- One step of a bucket row in a transaction of `e`: pruning may meet any row, the other
    statements are about the buckets of `e`. -/
inductive RowStep (e : SqliteEngine) (currentTime : ℚ) (id : BucketId) :
    RowView → RowView → Prop
  | pruned {row : BucketRow} {confirmedAt : Option ℚ} :
      row.expiresAt ≤ currentTime → row.overrideLive currentTime = false →
      RowStep e currentTime id ⟨some row, confirmedAt⟩ ⟨none, confirmedAt⟩
  | inserted {confirmedAt : Option ℚ} : id ∈ e.buckets →
      RowStep e currentTime id ⟨none, confirmedAt⟩
        ⟨some (.fresh currentTime e.bucketTtlSeconds), confirmedAt⟩
  | loaded {row : Option BucketRow} {loaded : LoadedRow} {confirmedAt : Option ℚ} :
      id ∈ e.buckets →
      loadRow (e.spec id) e.bucketTtlSeconds (e.stateLossSuspected id currentTime) true row
        currentTime = .ok loaded →
      RowStep e currentTime id ⟨row, confirmedAt⟩
        ⟨some loaded.row, if loaded.confirmed then some currentTime else confirmedAt⟩
  | written {row row' : BucketRow} {amount : ℚ} {confirmedAt : Option ℚ} :
      id ∈ e.buckets → row.OverrideUnexpired currentTime →
      writeRow (e.spec id) e.bucketTtlSeconds row amount currentTime = .ok row' →
      RowStep e currentTime id ⟨some row, confirmedAt⟩ ⟨some row', some currentTime⟩

abbrev RowPath (e : SqliteEngine) (currentTime : ℚ) (id : BucketId) : RowView → RowView → Prop :=
  Relation.ReflTransGen (RowStep e currentTime id)

/-- A row that holds the given capacity as of now, or no state. -/
def BucketRow.Anchored (row : BucketRow) (capacity currentTime : ℚ) : Prop :=
  (row.capacity = none ∧ row.lastChecked = none) ∨
    (row.capacity = some capacity ∧ row.lastChecked = some currentTime)

/-- The statement that ends a change of limit, with the configured limit that the row is
    under from then on. -/
inductive Limited (e : SqliteEngine) (currentTime : ℚ) (id : BucketId) :
    RowView → ℚ → RowView → Prop
  | overridden {row : BucketRow} {confirmedAt : Option ℚ} {value : MaxCapacity} {capacity : ℚ}
      {retention : ℤ} :
      id ∈ e.buckets → row.Anchored capacity currentTime →
      debtTtlSeconds capacity e.bucketTtlSeconds id.perSeconds value.value
        (e.configuredMaxCapacity id).value = .ok retention →
      Limited e currentTime id ⟨some row, confirmedAt⟩ (e.configuredMaxCapacity id).value
        ⟨some { row with
            overrideValue := some value.value
            overrideExpiresAt := some (currentTime + e.overrideTtlSeconds)
            overrideConfiguredMaxCapacity := some (e.configuredMaxCapacity id).value
            updatedAt := currentTime
            expiresAt := currentTime + retention }, confirmedAt⟩
  | cleared {row : BucketRow} {confirmedAt : Option ℚ} {maximum capacity : ℚ}
      {retention : ℤ} :
      id ∈ e.buckets → row.Anchored capacity currentTime →
      debtTtlSeconds capacity e.bucketTtlSeconds id.perSeconds maximum maximum =
        .ok retention →
      Limited e currentTime id ⟨some row, confirmedAt⟩ maximum
        ⟨some { row.withoutOverride with
            updatedAt := currentTime
            expiresAt := currentTime + retention }, confirmedAt⟩

/-- What a committed call makes of a bucket row, and the configured limit the row is
    under from then on.  A row that the call is to give another limit gets it. -/
inductive Rewrites (e : SqliteEngine) (currentTime : ℚ) (id : BucketId) (relimits : Bool)
    (v : RowView) : ℚ → RowView → Prop
  | kept {v' : RowView} : relimits = false → RowPath e currentTime id v v' →
      Rewrites e currentTime id relimits v (e.configuredMaxCapacity id).value v'
  | limited {v₁ v' : RowView} {maximum : ℚ} : RowPath e currentTime id v v₁ →
      Limited e currentTime id v₁ maximum v' →
      Rewrites e currentTime id relimits v maximum v'

end TokenThrottle
