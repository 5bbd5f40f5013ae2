/-
  TokenThrottle.Backends.OverrideExpiry

  The refill of a bucket across the expiry of its runtime override, as the SQLite engine
  and the Redis backend each compute it.

  * `StoredRefill` is a stored state with the override it was stored under; `value` is the
    integral of the rate in force, capped at the maximum in force at the end only.
  * SQLite rewrites the row when a load finds the override expired, Redis keeps a history
    beside the state: `Continues` says that the rewrite is invisible from then on.
-/
import TokenThrottle.Theory.Accrual
import TokenThrottle.Sqlite.Snapshot
import TokenThrottle.Redis.Bucket

namespace TokenThrottle

open Theory (Run)
open Theory.Accrual (across across_before across_after across_over)

/-! ## The integral -/

/-- A runtime maximum and when it expires. -/
structure RuntimeOverride where
  maximum : MaxCapacity
  expiresAt : ℚ

/-- The stored state of a bucket, with the override recorded under its configured limit. -/
structure StoredRefill where
  capacity : ℚ
  lastChecked : ℚ
  override : Option RuntimeOverride

namespace StoredRefill

variable (stored : StoredRefill) (configured : MaxCapacity) (id : BucketId) (now : ℚ)

/-- The maximum in force. -/
def maximum : MaxCapacity :=
  match stored.override with
  | none => configured
  | some override => if now < override.expiresAt then override.maximum else configured

/-- The stored capacity with the refill of each rate for as long as it was in force. -/
def uncapped : ℚ :=
  match stored.override with
  | none => stored.capacity + configured.value / id.window * max 0 (now - stored.lastChecked)
  | some override =>
    stored.capacity +
      (override.maximum.value / id.window *
          max 0 (min now override.expiresAt - stored.lastChecked) +
        configured.value / id.window * max 0 (now - max stored.lastChecked override.expiresAt))

/-- The capacity at a time: capped once, at the maximum then in force. -/
def value : ℚ := min (stored.maximum configured now).value (stored.uncapped configured id now)

end StoredRefill

variable {stored stored' : StoredRefill} {configured : MaxCapacity} {id : BucketId} {now : ℚ}

theorem StoredRefill.uncapped_none {capacity last : ℚ} (h_past : last ≤ now) :
    StoredRefill.uncapped ⟨capacity, last, none⟩ configured id now =
      capacity + (now - last) * calculateRatePerSec configured id := by
  show capacity + configured.value / id.window * max 0 (now - last) =
    capacity + (now - last) * (configured.value / id.window)
  rw [max_eq_right (sub_nonneg.mpr h_past), mul_comm]

theorem StoredRefill.uncapped_some {capacity last : ℚ} {override : RuntimeOverride} :
    StoredRefill.uncapped ⟨capacity, last, some override⟩ configured id now =
      capacity + across (calculateRatePerSec override.maximum id)
        (calculateRatePerSec configured id) override.expiresAt last now :=
  rfl

/-- From `currentTime` on, the second state reads as the first does. -/
structure StoredRefill.Continues (stored stored' : StoredRefill) (configured : MaxCapacity)
    (id : BucketId) (currentTime : ℚ) : Prop where
  later : stored.lastChecked ≤ stored'.lastChecked
  past : stored'.lastChecked ≤ currentTime
  maximum : ∀ now, currentTime ≤ now → stored'.maximum configured now =
    stored.maximum configured now
  uncapped : ∀ now, currentTime ≤ now → stored'.uncapped configured id now =
    stored.uncapped configured id now

theorem StoredRefill.Continues.refl {currentTime : ℚ} (h_past : stored.lastChecked ≤ currentTime) :
    stored.Continues stored configured id currentTime where
  later := le_refl _
  past := h_past
  maximum _ _ := rfl
  uncapped _ _ := rfl

/-- The state left when a load integrates an expired override and clears it. -/
def StoredRefill.cleared (capacity last : ℚ) (override : RuntimeOverride) (id : BucketId) :
    StoredRefill :=
  if last < override.expiresAt then
    ⟨capacity + (override.expiresAt - last) * calculateRatePerSec override.maximum id,
      override.expiresAt, none⟩
  else ⟨capacity, last, none⟩

theorem StoredRefill.cleared_continues {capacity last currentTime : ℚ}
    {override : RuntimeOverride} (h_past : last ≤ currentTime)
    (h_expired : override.expiresAt ≤ currentTime) :
    StoredRefill.Continues ⟨capacity, last, some override⟩ (cleared capacity last override id)
      configured id currentTime := by
  have h_maximum : ∀ now, currentTime ≤ now →
      StoredRefill.maximum ⟨capacity, last, some override⟩ configured now = configured := by
    intro now h_now
    show (if now < override.expiresAt then override.maximum else configured) = configured
    rw [if_neg (not_lt.mpr (h_expired.trans h_now))]
  unfold cleared
  by_cases h_crossed : last < override.expiresAt
  · rw [if_pos h_crossed]
    refine ⟨h_crossed.le, h_expired, fun now h_now => (h_maximum now h_now).symm, ?_⟩
    intro now h_now
    have h_after := h_expired.trans h_now
    rw [uncapped_none h_after, uncapped_some, across_over h_crossed.le h_after]
    ring
  · rw [if_neg h_crossed]
    refine ⟨le_refl _, h_past, fun now h_now => (h_maximum now h_now).symm, ?_⟩
    intro now h_now
    have h_order := h_past.trans h_now
    rw [uncapped_none h_order, uncapped_some, across_after h_order (not_lt.mp h_crossed)]
    ring

/-! ## SQLite -/

/-- A row that holds a stored state. -/
structure BucketRow.Holds (row : BucketRow) (configured : MaxCapacity) (stored : StoredRefill) :
    Prop where
  capacity : row.capacity = some stored.capacity
  lastChecked : row.lastChecked = some stored.lastChecked
  overrideValue : row.overrideValue = stored.override.map fun override => override.maximum.value
  overrideExpiresAt : row.overrideExpiresAt = stored.override.map RuntimeOverride.expiresAt
  anchor : stored.override.isSome = true →
    overrideAnchorMatches configured.value row.overrideConfiguredMaxCapacity = true

variable {spec : BucketSpec} {ttl : ℕ} {row : BucketRow} {currentTime : ℚ}

theorem BucketRow.Holds.paired (h_holds : row.Holds configured stored) : row.Paired := by
  unfold BucketRow.Paired
  rw [h_holds.capacity, h_holds.lastChecked]
  rfl

/-- The override of the row is in force, or none is. -/
theorem BucketRow.Holds.activeOverride (h_holds : row.Holds spec.configuredMaxCapacity stored) :
    row.activeOverride spec currentTime =
      (stored.override.filter fun override => currentTime < override.expiresAt).map
        fun override => override.maximum.value := by
  have h_value := h_holds.overrideValue
  have h_expiresAt := h_holds.overrideExpiresAt
  cases h_override : stored.override with
  | none =>
    rw [h_override] at h_value
    unfold BucketRow.activeOverride
    rw [h_value]
    rfl
  | some override =>
    rw [h_override] at h_value h_expiresAt
    have h_anchor := h_holds.anchor (by rw [h_override]; rfl)
    have h_live : row.overrideLive currentTime = decide (currentTime < override.expiresAt) := by
      unfold BucketRow.overrideLive
      rw [h_value, h_expiresAt]
      rfl
    unfold BucketRow.activeOverride
    rw [h_value]
    show (if row.overrideLive currentTime = true ∧ _ then _ else none) = _
    rw [h_live, Option.filter_some]
    by_cases h_lt : currentTime < override.expiresAt
    · rw [if_pos ⟨decide_eq_true h_lt, h_anchor⟩, if_pos (decide_eq_true h_lt)]
      rfl
    · rw [if_neg fun h => h_lt (of_decide_eq_true h.1), if_neg fun h => h_lt (of_decide_eq_true h)]
      rfl

/-- A row whose override has expired is read with it integrated and cleared. -/
theorem readRow_overrideExpired {capacity lastChecked : Option ℚ}
    (h_alive : currentTime < row.expiresAt) (h_dead : row.overrideLive currentTime = false)
    (h_stored : row.overrideExpiresAt.isSome = true)
    (h_integrate : integrateExpiredOverride spec row row.capacity row.lastChecked currentTime =
      .ok (capacity, lastChecked)) :
    readRow spec ttl (some row) currentTime =
      .ok ⟨row.withoutOverride.withState capacity lastChecked currentTime (currentTime + ttl),
        capacity, lastChecked, spec.configuredMaxCapacity, false,
        capacity.isSome && lastChecked.isSome⟩ := by
  have h_keep : (some row).filter (fun row : BucketRow =>
      currentTime < row.expiresAt ∨ row.overrideLive currentTime) = some row := by
    rw [Option.filter_some, if_pos (decide_eq_true (.inl h_alive))]
  have h_inactive : row.activeOverride spec currentTime = none := by
    unfold BucketRow.activeOverride
    split
    · rw [if_neg fun h => by rw [h_dead] at h; cases h.1]
    · rfl
  have h_clears : ¬ row.overrideLive currentTime = true ∧
      (row.overrideValue.isSome = true ∨ row.overrideExpiresAt.isSome = true) :=
    ⟨by rw [h_dead]; decide, .inr h_stored⟩
  unfold readRow
  rw [h_keep]
  dsimp only
  rw [if_neg (not_le.mpr h_alive), h_inactive]
  dsimp only
  rw [h_integrate]
  show (if ¬ row.overrideLive currentTime = true ∧
    (row.overrideValue.isSome = true ∨ row.overrideExpiresAt.isSome = true) then _ else _) = _
  rw [if_pos h_clears]

/-- What a reading of a stored state shows: a state that continues it, under the maximum in
    force. -/
structure Reading.Shows (reading : Reading) (spec : BucketSpec) (currentTime : ℚ)
    (stored : StoredRefill) : Prop where
  capacity : reading.capacity = some stored.capacity
  lastChecked : reading.lastChecked = some stored.lastChecked
  maximum : reading.maxCapacity = stored.maximum spec.configuredMaxCapacity currentTime
  live : ∀ override, stored.override = some override → currentTime < override.expiresAt
  row : reading.row.Holds spec.configuredMaxCapacity stored

/-- The integration of an expired override, as the source computes it. -/
theorem integrateExpiredOverride_cleared {override : RuntimeOverride}
    (h_holds : row.Holds spec.configuredMaxCapacity stored)
    (h_override : stored.override = some override) (h_nonneg : 0 ≤ stored.lastChecked)
    (h_expired : override.expiresAt ≤ currentTime) :
    integrateExpiredOverride spec row row.capacity row.lastChecked currentTime =
      .ok (some (StoredRefill.cleared stored.capacity stored.lastChecked override spec.id).capacity,
        some (StoredRefill.cleared stored.capacity stored.lastChecked override
          spec.id).lastChecked) := by
  have h_value := h_holds.overrideValue
  have h_expiresAt := h_holds.overrideExpiresAt
  rw [h_override] at h_value h_expiresAt
  have h_anchor := h_holds.anchor (by rw [h_override]; rfl)
  unfold integrateExpiredOverride StoredRefill.cleared
  rw [h_value, h_expiresAt, h_holds.capacity, h_holds.lastChecked]
  dsimp only [Option.map_some]
  by_cases h_crossed : stored.lastChecked < override.expiresAt
  · have h_valid : validateMaxCapacityFinitePositive override.maximum.value =
        .ok override.maximum := by
      unfold validateMaxCapacityFinitePositive
      rw [dif_pos override.maximum.min_le]
    have h_time : 0 ≤ override.expiresAt := h_nonneg.trans h_crossed.le
    rw [if_pos ⟨h_anchor, h_crossed, h_expired⟩, if_pos h_crossed, h_valid]
    show (refillCapacity spec (some stored.capacity) (some stored.lastChecked) override.expiresAt
      override.maximum >>= fun refill => .ok (some refill.2, some override.expiresAt)) = _
    rw [refillCapacity_some _ h_time, max_eq_right (sub_nonneg.mpr h_crossed.le)]
    rfl
  · rw [if_neg fun h => h_crossed h.2.1, if_neg h_crossed]

/-- A stored state is read, and the reading continues it. -/
theorem readRow_holds (ttl : ℕ) (h_holds : row.Holds spec.configuredMaxCapacity stored)
    (h_nonneg : 0 ≤ stored.lastChecked) (h_past : stored.lastChecked ≤ currentTime)
    (h_alive : currentTime < row.expiresAt) :
    ∃ reading stored', readRow spec ttl (some row) currentTime = .ok reading ∧
      reading.Shows spec currentTime stored' ∧
      stored.Continues stored' spec.configuredMaxCapacity spec.id currentTime := by
  have h_read_as_is : row.OverrideSettled currentTime →
      (stored.maximum spec.configuredMaxCapacity currentTime).value =
        (row.activeOverride spec currentTime).getD spec.configuredMaxCapacity.value →
      (∀ override, stored.override = some override → currentTime < override.expiresAt) →
      ∃ reading stored', readRow spec ttl (some row) currentTime = .ok reading ∧
        reading.Shows spec currentTime stored' ∧
        stored.Continues stored' spec.configuredMaxCapacity spec.id currentTime := by
    intro h_settled h_maximum h_live
    have h_row : row.Settled currentTime :=
      { paired := h_holds.paired
        override := h_settled
        current := .inl h_alive
        notFuture := fun last h_last => by
          rw [h_holds.lastChecked] at h_last
          cases h_last
          unfold futureLastCheckedRepairToleranceSeconds
          linarith }
    exact ⟨_, stored, readRow_settled h_row ⟨rfl, h_maximum⟩,
      ⟨h_holds.capacity, h_holds.lastChecked, rfl, h_live, h_holds⟩, .refl h_past⟩
  have h_active : row.activeOverride spec currentTime = _ := h_holds.activeOverride
  have h_value := h_holds.overrideValue
  have h_expiresAt := h_holds.overrideExpiresAt
  cases h_override : stored.override with
  | none =>
    rw [h_override] at h_active h_value h_expiresAt
    refine h_read_as_is (.inr ⟨h_value, h_expiresAt⟩) ?_ (by rw [h_override]; nofun)
    rw [h_active]
    unfold StoredRefill.maximum
    rw [h_override]
    rfl
  | some override =>
    rw [h_override] at h_active h_value h_expiresAt
    by_cases h_live : currentTime < override.expiresAt
    · -- the override is in force
      rw [Option.filter_some, if_pos (decide_eq_true h_live)] at h_active
      refine h_read_as_is (.inl (BucketRow.live_of_activeOverride h_active).1) ?_ fun _ h_some => by
        rw [h_override] at h_some
        cases h_some
        exact h_live
      rw [h_active]
      unfold StoredRefill.maximum
      rw [h_override]
      dsimp only
      rw [if_pos h_live]
      rfl
    · have h_expired := not_lt.mp h_live
      have h_dead : row.overrideLive currentTime = false := by
        unfold BucketRow.overrideLive
        rw [h_value, h_expiresAt]
        exact decide_eq_false h_live
      have h_continues : stored.Continues
          (.cleared stored.capacity stored.lastChecked override spec.id)
          spec.configuredMaxCapacity spec.id currentTime := by
        obtain ⟨capacity, last, _⟩ := stored
        cases h_override
        exact StoredRefill.cleared_continues h_past h_expired
      have h_noOverride : (StoredRefill.cleared stored.capacity stored.lastChecked override
          spec.id).override = none := by
        unfold StoredRefill.cleared
        split <;> rfl
      refine ⟨_, .cleared stored.capacity stored.lastChecked override spec.id,
        readRow_overrideExpired h_alive h_dead (by rw [h_expiresAt]; rfl)
          (integrateExpiredOverride_cleared h_holds h_override h_nonneg h_expired),
        ⟨rfl, rfl, ?_, by rw [h_noOverride]; nofun, ⟨rfl, rfl, ?_, ?_, ?_⟩⟩, h_continues⟩
      · unfold StoredRefill.maximum
        rw [h_noOverride]
      · rw [h_noOverride]
        rfl
      · rw [h_noOverride]
        rfl
      · rw [h_noOverride]
        nofun

/-- The capacity a load computes from a reading of a stored state. -/
theorem Reading.Shows.refill {reading : Reading} (h_shows : reading.Shows spec currentTime stored)
    (h_time : 0 ≤ currentTime) (h_past : stored.lastChecked ≤ currentTime) :
    refillCapacity spec reading.capacity reading.lastChecked currentTime reading.maxCapacity =
      .ok (⟨stored.value spec.configuredMaxCapacity spec.id currentTime, false⟩,
        stored.uncapped spec.configuredMaxCapacity spec.id currentTime) := by
  have h_uncapped : stored.capacity + max 0 (currentTime - stored.lastChecked) *
      calculateRatePerSec reading.maxCapacity spec.id =
        stored.uncapped spec.configuredMaxCapacity spec.id currentTime := by
    rw [h_shows.maximum, max_eq_right (sub_nonneg.mpr h_past)]
    obtain ⟨capacity, last, override⟩ := stored
    cases override with
    | none => exact (StoredRefill.uncapped_none h_past).symm
    | some override =>
      have h_lt := h_shows.live override rfl
      have h_maximum : StoredRefill.maximum ⟨capacity, last, some override⟩
          spec.configuredMaxCapacity currentTime = override.maximum := if_pos h_lt
      rw [h_maximum, StoredRefill.uncapped_some, across_before h_past h_lt.le, mul_comm]
  rw [h_shows.capacity, h_shows.lastChecked, refillCapacity_some _ h_time, h_uncapped]
  unfold StoredRefill.value
  rw [h_shows.maximum]

/-- A load of a stored state computes its value, and a writable one leaves a row from which
    the value goes on. -/
theorem loadRow_holds {suspected writable : Bool} {loaded : LoadedRow}
    (h_holds : row.Holds spec.configuredMaxCapacity stored)
    (h_nonneg : 0 ≤ stored.lastChecked) (h_past : stored.lastChecked ≤ currentTime)
    (h_alive : currentTime < row.expiresAt)
    (h_ok : loadRow spec ttl suspected writable (some row) currentTime = .ok loaded) :
    loaded.state.capacity = stored.value spec.configuredMaxCapacity spec.id currentTime ∧
      loaded.state.maxCapacity = stored.maximum spec.configuredMaxCapacity currentTime ∧
      ∃ stored', loaded.row.Holds spec.configuredMaxCapacity stored' ∧
        stored.Continues stored' spec.configuredMaxCapacity spec.id currentTime := by
  obtain ⟨reading, stored', h_read, h_shows, h_continues⟩ :=
    readRow_holds ttl h_holds h_nonneg h_past h_alive
  obtain ⟨reading', h_read', h_finish⟩ := loadRow_ok h_ok
  rw [h_read] at h_read'
  cases h_read'
  have h_kept : recoverLost ttl suspected currentTime reading = reading := by
    refine recoverLost_of_kept ttl suspected currentTime reading ?_
    rw [h_shows.capacity, h_shows.lastChecked]
    exact stateLost_eq_false_iff.mpr ⟨rfl, fun _ => rfl⟩
  have h_present : repairFuture ttl currentTime reading = (reading.row, reading.confirmed) := by
    have h_notFuture : ¬ currentTime + futureLastCheckedRepairToleranceSeconds <
        stored'.lastChecked := by
      have h_last := h_continues.past
      unfold futureLastCheckedRepairToleranceSeconds
      linarith
    unfold repairFuture
    rw [h_shows.lastChecked, Option.any_some, if_neg fun h => h_notFuture (of_decide_eq_true h)]
  rw [h_kept] at h_finish
  obtain ⟨calculated, uncapped, expiresAt, h_refill, h_state, _, h_row, _, _⟩ :=
    finishRow_ok h_finish
  rw [h_shows.refill (h_nonneg.trans h_past) h_continues.past] at h_refill
  cases h_refill
  rw [h_present] at h_row
  have h_same := h_continues.maximum currentTime (le_refl _)
  refine ⟨?_, ?_, stored', ?_, h_continues⟩
  · rw [h_state]
    unfold StoredRefill.value
    dsimp only
    rw [h_same, h_continues.uncapped currentTime (le_refl _)]
  · rw [h_state, ← h_same]
    exact h_shows.maximum
  · rw [h_row]
    exact ⟨h_shows.row.capacity, h_shows.row.lastChecked, h_shows.row.overrideValue,
      h_shows.row.overrideExpiresAt, h_shows.row.anchor⟩

/-- A snapshot of a stored state raises nothing. -/
theorem loadRow_snapshot_ok (ttl : ℕ) (suspected : Bool)
    (h_holds : row.Holds spec.configuredMaxCapacity stored)
    (h_nonneg : 0 ≤ stored.lastChecked) (h_past : stored.lastChecked ≤ currentTime)
    (h_alive : currentTime < row.expiresAt) :
    ∃ loaded, loadRow spec ttl suspected false (some row) currentTime = .ok loaded := by
  obtain ⟨reading, stored', h_read, h_shows, h_continues⟩ :=
    readRow_holds ttl h_holds h_nonneg h_past h_alive
  have h_kept : recoverLost ttl suspected currentTime reading = reading := by
    refine recoverLost_of_kept ttl suspected currentTime reading ?_
    rw [h_shows.capacity, h_shows.lastChecked]
    exact stateLost_eq_false_iff.mpr ⟨rfl, fun _ => rfl⟩
  unfold loadRow
  rw [h_read]
  show ∃ loaded, finishRow spec ttl false currentTime _
    (recoverLost ttl suspected currentTime reading) = .ok loaded
  rw [h_kept]
  unfold finishRow
  rw [h_shows.refill (h_nonneg.trans h_past) h_continues.past]
  exact ⟨_, rfl⟩

/-! ## Loads on the way -/

/-- A bucket row and the time of its last load. -/
structure RowAt where
  clock : ℚ
  row : BucketRow

/-- A writable load at a time before the row expires, by an engine that may or may not
    suspect that state was lost. -/
def LoadsRow (spec : BucketSpec) (ttl : ℕ) (s : RowAt) (load : ℚ × Bool) (s' : RowAt) : Prop :=
  s.clock ≤ load.1 ∧ load.1 < s.row.expiresAt ∧ s'.clock = load.1 ∧
    ∃ loaded, loadRow spec ttl load.2 true (some s.row) load.1 = .ok loaded ∧
      s'.row = loaded.row

/-- What loads keep: the row holds a state that continues the one it started from. -/
structure StillHolds (spec : BucketSpec) (stored : StoredRefill) (s : RowAt) : Prop where
  clock : stored.lastChecked ≤ s.clock
  row : ∃ stored', s.row.Holds spec.configuredMaxCapacity stored' ∧
    stored.Continues stored' spec.configuredMaxCapacity spec.id s.clock

theorem StillHolds.step {s s' : RowAt} {load : ℚ × Bool} (h_nonneg : 0 ≤ stored.lastChecked)
    (h_still : StillHolds spec stored s) (h_load : LoadsRow spec ttl s load s') :
    StillHolds spec stored s' := by
  obtain ⟨h_order, h_alive, h_clock, loaded, h_ok, h_row⟩ := h_load
  obtain ⟨stored', h_holds, h_continues⟩ := h_still.row
  obtain ⟨_, _, stored'', h_holds', h_continues'⟩ := loadRow_holds h_holds
    (h_nonneg.trans h_continues.later) (h_continues.past.trans h_order) h_alive h_ok
  refine ⟨?_, stored'', ?_, ?_⟩
  · rw [h_clock]
    exact h_still.clock.trans h_order
  · rw [h_row]
    exact h_holds'
  · rw [h_clock]
    exact
      { later := h_continues.later.trans h_continues'.later
        past := h_continues'.past
        maximum := fun now h_now => (h_continues'.maximum now h_now).trans
          (h_continues.maximum now (h_order.trans h_now))
        uncapped := fun now h_now => (h_continues'.uncapped now h_now).trans
          (h_continues.uncapped now (h_order.trans h_now)) }

/-- No number of loads on either side of the override's expiry changes what is read later. -/
theorem loads_stillHold {s : RowAt} {loads : List (ℚ × Bool)}
    (h_holds : row.Holds spec.configuredMaxCapacity stored) (h_nonneg : 0 ≤ stored.lastChecked)
    (h_run : Run (LoadsRow spec ttl) ⟨stored.lastChecked, row⟩ loads s) :
    StillHolds spec stored s :=
  h_run.invariant (fun _ _ _ h_still h_load => h_still.step h_nonneg h_load)
    ⟨le_refl _, stored, h_holds, .refl (le_refl _)⟩

/-! ## Redis -/

/-- The override key, which is gone from its expiry on. -/
def StoredRefill.overrideKey (stored : StoredRefill) (now : ℚ) : Option MaxCapacity :=
  (stored.override.filter fun override => now < override.expiresAt).map RuntimeOverride.maximum

/-- The history beside a stored state is the one of its override. -/
def StoredRefill.MatchingHistory (stored : StoredRefill) (configured : MaxCapacity)
    (history : Option OverrideExpiry) : Prop :=
  match stored.override with
  | none => history = none
  | some override => ∃ anchor, history = some ⟨anchor, override.maximum, override.expiresAt⟩ ∧
      isclose anchor.value configured.value = true

theorem calculateWithExpiry_value {history : Option OverrideExpiry}
    (h_history : stored.MatchingHistory configured history) (h_nonneg : 0 ≤ stored.lastChecked)
    (h_past : stored.lastChecked ≤ now) :
    calculateWithExpiry history (stored.overrideKey now) configured id (some stored.lastChecked)
        (some stored.capacity) now =
      .ok ⟨stored.value configured id now, false⟩ := by
  have h_time : 0 ≤ now := h_nonneg.trans h_past
  have h_maximum : (stored.overrideKey now).getD configured = stored.maximum configured now := by
    unfold StoredRefill.overrideKey StoredRefill.maximum
    cases stored.override with
    | none => rfl
    | some override =>
      dsimp only
      rw [Option.filter_some]
      by_cases h_live : now < override.expiresAt
      · rw [if_pos h_live, if_pos (decide_eq_true h_live)]
        rfl
      · rw [if_neg h_live, if_neg fun h => h_live (of_decide_eq_true h)]
        rfl
  have h_accrued : accrueWithExpiry history (stored.overrideKey now) configured id
      stored.lastChecked now stored.capacity
        (calculateRatePerSec (stored.maximum configured now) id) =
      stored.uncapped configured id now := by
    obtain ⟨capacity, last, override⟩ := stored
    unfold accrueWithExpiry StoredRefill.overrideKey
    cases override with
    | none =>
      cases h_history
      rw [StoredRefill.uncapped_none h_past]
      show capacity + max 0 (now - last) * calculateRatePerSec configured id = _
      rw [max_eq_right (sub_nonneg.mpr h_past)]
    | some override =>
      obtain ⟨anchor, rfl, h_anchor⟩ := h_history
      rw [Option.filter_some, StoredRefill.uncapped_some]
      by_cases h_live : now < override.expiresAt
      · have h_limit : StoredRefill.maximum ⟨capacity, last, some override⟩ configured now =
            override.maximum := if_pos h_live
        rw [if_pos (decide_eq_true h_live), h_limit]
        show (if _ ∨ _ ∨ _ then _ else _) = _
        rw [if_pos (.inl rfl), max_eq_right (sub_nonneg.mpr h_past),
          across_before h_past h_live.le, mul_comm]
      · have h_limit : StoredRefill.maximum ⟨capacity, last, some override⟩ configured now =
            configured := if_neg h_live
        -- the override has gone under the same configured limit: nothing marks its end any more
        have h_gone : ¬ ((none : Option MaxCapacity).isSome = true ∨
            ¬ isclose anchor.value configured.value = true ∨ now < override.expiresAt) := by
          rintro (h_some | h_other | h_lt)
          · cases h_some
          · exact h_other h_anchor
          · exact h_live h_lt
        rw [if_neg fun h => h_live (of_decide_eq_true h), h_limit]
        dsimp only [Option.map_none]
        rw [if_neg h_gone]
        unfold across
        rw [min_eq_right (not_lt.mp h_live)]
        ring
  unfold calculateWithExpiry
  dsimp only
  rw [h_maximum, calculateCapacity_ok h_time (calculateRatePerSec_pos _ _)]
  show Except.ok (⟨min _ (accrueWithExpiry _ _ _ _ _ _ _ _), false⟩ : CalculatedCapacity) = _
  rw [h_accrued]
  rfl

/-! ## The two backends -/

/-- Refill across the expiry of an override is the piecewise integral, capped at the end
    only: in SQLite after any loads on the way, and in Redis from the history. -/
theorem refill_acrossOverrideExpiry {history : Option OverrideExpiry}
    (h_holds : row.Holds spec.configuredMaxCapacity stored)
    (h_history : stored.MatchingHistory spec.configuredMaxCapacity history)
    (h_nonneg : 0 ≤ stored.lastChecked) (h_past : stored.lastChecked ≤ now) :
    (∀ loads s, Run (LoadsRow spec ttl) ⟨stored.lastChecked, row⟩ loads s → s.clock ≤ now →
        now < s.row.expiresAt → ∀ suspected,
        (∃ loaded, loadRow spec ttl suspected false (some s.row) now = .ok loaded) ∧
        ∀ writable loaded, loadRow spec ttl suspected writable (some s.row) now = .ok loaded →
          loaded.state.capacity = stored.value spec.configuredMaxCapacity spec.id now ∧
          loaded.state.maxCapacity = stored.maximum spec.configuredMaxCapacity now) ∧
      calculateWithExpiry history (stored.overrideKey now) spec.configuredMaxCapacity spec.id
          (some stored.lastChecked) (some stored.capacity) now =
        .ok ⟨stored.value spec.configuredMaxCapacity spec.id now, false⟩ := by
  refine ⟨fun loads s h_run h_clock h_alive suspected => ?_,
    calculateWithExpiry_value h_history h_nonneg h_past⟩
  obtain ⟨stored', h_holds', h_continues⟩ := (loads_stillHold h_holds h_nonneg h_run).row
  have h_nonneg' : 0 ≤ stored'.lastChecked := h_nonneg.trans h_continues.later
  have h_past' : stored'.lastChecked ≤ now := h_continues.past.trans h_clock
  refine ⟨loadRow_snapshot_ok ttl suspected h_holds' h_nonneg' h_past' h_alive, ?_⟩
  intro writable loaded h_ok
  obtain ⟨h_capacity, h_maximum, _⟩ := loadRow_holds h_holds' h_nonneg' h_past' h_alive h_ok
  have h_value : stored'.value spec.configuredMaxCapacity spec.id now =
      stored.value spec.configuredMaxCapacity spec.id now := by
    unfold StoredRefill.value
    rw [h_continues.maximum now h_clock, h_continues.uncapped now h_clock]
  exact ⟨h_capacity.trans h_value, h_maximum.trans (h_continues.maximum now h_clock)⟩

theorem minMaxCapacity_le_sixHundred : minMaxCapacity ≤ 600 := by norm_num [minMaxCapacity]

/-- A debt of 250 under an override of 600 that expires after 30 seconds. -/
def raisedInDebt : StoredRefill :=
  ⟨-250, 0, some ⟨⟨600, minMaxCapacity_le_sixHundred⟩, 30⟩⟩

def raisedInDebtRow : BucketRow where
  capacity := some (-250)
  lastChecked := some 0
  overrideValue := some 600
  overrideExpiresAt := some 30
  overrideConfiguredMaxCapacity := some 100
  updatedAt := 0
  expiresAt := 7200

/-- The row once a load has found the override expired. -/
def raisedInDebtCleared : BucketRow where
  capacity := some 50
  lastChecked := some 30
  overrideValue := none
  overrideExpiresAt := none
  overrideConfiguredMaxCapacity := none
  updatedAt := 33
  expiresAt := 3633

/-- A load exhibited by the row it leaves. -/
theorem loadsRow_of_row {s : RowAt} {load : ℚ × Bool} {row' : BucketRow}
    (h_order : s.clock ≤ load.1) (h_alive : load.1 < s.row.expiresAt)
    (h_row : (loadRow spec ttl load.2 true (some s.row) load.1).map LoadedRow.row = .ok row') :
    LoadsRow spec ttl s load ⟨load.1, row'⟩ := by
  refine ⟨h_order, h_alive, rfl, ?_⟩
  cases h_load : loadRow spec ttl load.2 true (some s.row) load.1 with
  | error error =>
    rw [h_load] at h_row
    cases h_row
  | ok loaded =>
    rw [h_load] at h_row
    cases h_row
    exact ⟨loaded, rfl, rfl⟩

theorem raisedInDebt_loads :
    Run (LoadsRow ⟨tokensPerMinute, oneHundred⟩ 3600) ⟨0, raisedInDebtRow⟩
      [(20, false), (33, true)] ⟨33, raisedInDebtCleared⟩ := by
  have h_first : LoadsRow ⟨tokensPerMinute, oneHundred⟩ 3600 ⟨0, raisedInDebtRow⟩ (20, false)
      ⟨20, raisedInDebtRow⟩ :=
    loadsRow_of_row (by decide +kernel) (by decide +kernel) (by decide +kernel)
  have h_second : LoadsRow ⟨tokensPerMinute, oneHundred⟩ 3600 ⟨20, raisedInDebtRow⟩ (33, true)
      ⟨33, raisedInDebtCleared⟩ :=
    loadsRow_of_row (by decide +kernel) (by decide +kernel) (by decide +kernel)
  exact .cons h_first (.cons h_second (.nil _))

/-- At 36 the debt has become 60, with a load at 20 and one at 33 on the way or without. -/
theorem refill_acrossOverrideExpiry_raisedInDebt :
    raisedInDebt.value oneHundred tokensPerMinute 36 = 60 ∧
      (∃ loaded, loadRow ⟨tokensPerMinute, oneHundred⟩ 3600 false false
        (some raisedInDebtCleared) 36 = .ok loaded ∧
        loaded.state.capacity = raisedInDebt.value oneHundred tokensPerMinute 36) ∧
      calculateWithExpiry (some ⟨oneHundred, ⟨600, by norm_num [minMaxCapacity]⟩, 30⟩)
          (raisedInDebt.overrideKey 36) oneHundred tokensPerMinute (some 0) (some (-250)) 36 =
        .ok ⟨raisedInDebt.value oneHundred tokensPerMinute 36, false⟩ := by
  have h_holds : raisedInDebtRow.Holds oneHundred raisedInDebt :=
    ⟨rfl, rfl, rfl, rfl, fun _ => by decide +kernel⟩
  have h_history : raisedInDebt.MatchingHistory oneHundred
      (some ⟨oneHundred, ⟨600, by norm_num [minMaxCapacity]⟩, 30⟩) :=
    ⟨oneHundred, rfl, isclose_self _⟩
  have h_later : raisedInDebt.lastChecked ≤ (36 : ℚ) := by decide +kernel
  have h_refill := @refill_acrossOverrideExpiry _ 36 ⟨tokensPerMinute, oneHundred⟩ 3600 _ _
    h_holds h_history (le_refl 0) h_later
  obtain ⟨⟨loaded, h_load⟩, h_value⟩ := h_refill.1 _ _ raisedInDebt_loads (by decide +kernel)
    (by decide +kernel) false
  exact ⟨by decide +kernel, ⟨loaded, h_load, (h_value false loaded h_load).1⟩, h_refill.2⟩

end TokenThrottle
