/-
  TokenThrottle.Sqlite.DebtRetention

  Expiry never forgives debt: when a bucket row is dropped because it has expired, its
  last state, integrated without a cap up to that time, has reached the smaller of the
  configured limit and the override's.

  * `BucketRow.Retains` is the invariant: at the slower of the two rates the row reaches
    the lower of the two limits before it expires.
  * Whatever retention is computed at a write keeps it (`debtTtlSeconds_repays`); a load
    that clears an expired override recomputes the retention at the configured rate.
  * `Solvent` lifts it to the fleet, and `droppedRow_repaid` is the result.
-/
import Mathlib.Tactic.FieldSimp
import TokenThrottle.Sqlite.Fleet
import TokenThrottle.Sqlite.Snapshot
import TokenThrottle.Sqlite.StateLoss

namespace TokenThrottle

open Theory (OrderedDict Run Steps guard)

/-! ## Retention at one write -/

/-- Retained for the computed time, a bucket refills to the lower limit. -/
theorem debtTtlSeconds_repays {capacity maxCapacity configuredMaxCapacity : ℚ}
    {ttl perSeconds : ℕ} {retention : ℤ} (h_seconds : 0 < perSeconds)
    (h_ttl : perSeconds ≤ ttl) (h_pos : 0 < min maxCapacity configuredMaxCapacity)
    (h_ok : debtTtlSeconds capacity ttl perSeconds maxCapacity configuredMaxCapacity =
      .ok retention) :
    min maxCapacity configuredMaxCapacity ≤
      capacity + retention * (min maxCapacity configuredMaxCapacity / perSeconds) := by
  have h_window : (0 : ℚ) < perSeconds := by exact_mod_cast h_seconds
  unfold debtTtlSeconds at h_ok
  dsimp only at h_ok
  generalize min maxCapacity configuredMaxCapacity = limit at h_pos h_ok ⊢
  split at h_ok
  · -- no debt: the TTL covers a window
    rename_i h_capacity
    cases h_ok
    have h_covers : (perSeconds : ℚ) ≤ ((ttl : ℤ) : ℚ) := by exact_mod_cast h_ttl
    have h_refill : limit ≤ ((ttl : ℤ) : ℚ) * (limit / perSeconds) := by
      rw [mul_div_assoc', le_div_iff₀ h_window, mul_comm]
      exact mul_le_mul_of_nonneg_right h_covers h_pos.le
    linarith
  · split at h_ok
    · cases h_ok
    · -- the debt is retained for the time it takes to refill
      cases h_ok
      have h_ceil : (1 + -capacity / limit) * perSeconds ≤
          ((max (ttl : ℤ) ⌈(1 + -capacity / limit) * perSeconds⌉ : ℤ) : ℚ) := by
        refine (Int.le_ceil _).trans ?_
        exact_mod_cast le_max_right _ _
      have h_refill := mul_le_mul_of_nonneg_right h_ceil (div_nonneg h_pos.le h_window.le)
      have h_paid : (1 + -capacity / limit) * perSeconds * (limit / perSeconds) =
          limit - capacity := by
        field_simp
        ring
      linarith

/-! ## The invariant of a row -/

/-- The lower of the configured limit and the one that an override stores. -/
def BucketRow.lowerLimit (row : BucketRow) (configured : MaxCapacity) : ℚ :=
  min (row.overrideValue.getD configured.value) configured.value

/-- No override is stored, or one that was set under the configured limit. -/
def BucketRow.OverrideUnder (row : BucketRow) (configured : MaxCapacity) : Prop :=
  (row.overrideValue = none ∧ row.overrideExpiresAt = none) ∨
    ∃ (value : MaxCapacity) (expiresAt : ℚ), row.overrideValue = some value.value ∧
      row.overrideExpiresAt = some expiresAt ∧
      row.overrideConfiguredMaxCapacity = some configured.value

/-- A row that is retained until its debt is repaid, under a configured limit. -/
structure BucketRow.Retains (row : BucketRow) (id : BucketId) (configured : MaxCapacity)
    (now : ℚ) : Prop where
  paired : row.Paired
  past : ∀ last, row.lastChecked = some last → last ≤ now
  override : row.OverrideUnder configured
  repaid : ∀ capacity last, row.capacity = some capacity → row.lastChecked = some last →
    row.lowerLimit configured ≤
      capacity + (row.expiresAt - last) * (row.lowerLimit configured / id.window)

namespace BucketRow

variable {row : BucketRow} {id : BucketId} {configured : MaxCapacity} {now currentTime : ℚ}

theorem OverrideUnder.lowerLimit_pos (h_override : row.OverrideUnder configured) :
    0 < row.lowerLimit configured := by
  unfold lowerLimit
  obtain ⟨h_value, _⟩ | ⟨value, _, h_value, _⟩ := h_override
  · rw [h_value]
    exact lt_min configured.pos configured.pos
  · rw [h_value]
    exact lt_min value.pos configured.pos

theorem Retains.later (h_row : row.Retains id configured now) (h_le : now ≤ currentTime) :
    row.Retains id configured currentTime :=
  { h_row with past := fun last h_last => (h_row.past last h_last).trans h_le }

/-- A longer retention is as good. -/
theorem Retains.extend (h_row : row.Retains id configured now) {expiresAt : ℚ}
    (h_le : row.expiresAt ≤ expiresAt) :
    { row with expiresAt := expiresAt }.Retains id configured now where
  paired := h_row.paired
  past := h_row.past
  override := h_row.override
  repaid capacity last h_capacity h_last := by
    have h_repaid := h_row.repaid capacity last h_capacity h_last
    have h_rate : 0 ≤ row.lowerLimit configured / id.window :=
      div_nonneg h_row.override.lowerLimit_pos.le id.window_pos.le
    have h_longer : (row.expiresAt - last) * (row.lowerLimit configured / id.window) ≤
        (expiresAt - last) * (row.lowerLimit configured / id.window) :=
      mul_le_mul_of_nonneg_right (by linarith) h_rate
    show row.lowerLimit configured ≤
      capacity + (expiresAt - last) * (row.lowerLimit configured / id.window)
    linarith

/-- A row without state owes nothing. -/
theorem Retains.of_noState (h_capacity : row.capacity = none) (h_last : row.lastChecked = none)
    (h_override : row.OverrideUnder configured) :
    row.Retains id configured now where
  paired := by
    unfold Paired
    rw [h_capacity, h_last]
  past last h_some := by
    rw [h_last] at h_some
    cases h_some
  override := h_override
  repaid _ _ h_some := by
    rw [h_capacity] at h_some
    cases h_some

/-- A state stored now is retained when its retention covers the refill. -/
theorem Retains.of_stored {capacity : ℚ} {updatedAt : ℚ} (retention : ℚ)
    (h_override : row.OverrideUnder configured)
    (h_capacity : row.capacity = some capacity) (h_last : row.lastChecked = some updatedAt)
    (h_now : updatedAt ≤ now) (h_expiresAt : updatedAt + retention ≤ row.expiresAt)
    (h_repaid : row.lowerLimit configured ≤
      capacity + retention * (row.lowerLimit configured / id.window)) :
    row.Retains id configured now := by
  have h_paired : row.Paired := by
    unfold Paired
    rw [h_capacity, h_last]
    rfl
  have h_past : ∀ last, row.lastChecked = some last → last ≤ now := by
    intro last h_some
    rw [h_last] at h_some
    cases h_some
    exact h_now
  refine ⟨h_paired, h_past, h_override, fun capacity' last h_capacity' h_last' => ?_⟩
  rw [h_capacity] at h_capacity'
  rw [h_last] at h_last'
  cases h_capacity'
  cases h_last'
  have h_rate : 0 ≤ row.lowerLimit configured / id.window :=
    div_nonneg h_override.lowerLimit_pos.le id.window_pos.le
  have h_longer : retention * (row.lowerLimit configured / id.window) ≤
      (row.expiresAt - updatedAt) * (row.lowerLimit configured / id.window) :=
    mul_le_mul_of_nonneg_right (by linarith) h_rate
  linarith

end BucketRow

/-! ## What keeps it -/

section Steps

variable {e : SqliteEngine} {id : BucketId} {configured : MaxCapacity} {currentTime : ℚ}

/-- A TTL of two windows covers one. -/
theorem window_le_ttl {ttl : ℕ} (h_window : 2 * id.perSeconds ≤ ttl) :
    id.window ≤ (ttl : ℚ) := by
  unfold BucketId.window
  exact_mod_cast (Nat.le_mul_of_pos_left _ two_pos).trans h_window

/-- The state that recovery stores. -/
theorem retains_of_drained {row : BucketRow} {ttl : ℕ} (h_window : 2 * id.perSeconds ≤ ttl)
    (h_override : row.OverrideUnder configured) :
    (row.withState (some 0) (some currentTime) currentTime (currentTime + ttl)).Retains id
      configured currentTime := by
  have h_limit : 0 < row.lowerLimit configured := h_override.lowerLimit_pos
  have h_refill : row.lowerLimit configured ≤
      ttl * (row.lowerLimit configured / id.window) := by
    rw [mul_div_assoc', le_div_iff₀ id.window_pos, mul_comm]
    exact mul_le_mul_of_nonneg_right (window_le_ttl h_window) h_limit.le
  refine .of_stored ttl h_override rfl rfl (le_refl _) (le_refl _) ?_
  show row.lowerLimit configured ≤ 0 + ttl * (row.lowerLimit configured / id.window)
  linarith

/-- An integration up to the override's expiry ends in the past. -/
theorem integrateExpiredOverride_past {spec : BucketSpec} {row : BucketRow}
    {capacity lastChecked : Option ℚ}
    (h_paired : row.Paired) (h_past : ∀ last, row.lastChecked = some last → last ≤ currentTime)
    (h_ok : integrateExpiredOverride spec row row.capacity row.lastChecked currentTime =
      .ok (capacity, lastChecked)) :
    capacity.isSome = lastChecked.isSome ∧
      ∀ last, lastChecked = some last → last ≤ currentTime := by
  unfold integrateExpiredOverride at h_ok
  split at h_ok
  · split at h_ok
    · rename_i h_expired
      obtain ⟨maxCapacity, _, h_ok⟩ := bind_eq_ok h_ok
      obtain ⟨_, _, h_ok⟩ := bind_eq_ok h_ok
      cases h_ok
      refine ⟨rfl, fun last h_last => ?_⟩
      cases h_last
      exact h_expired.2.2
    · cases h_ok
      exact ⟨h_paired, h_past⟩
  · cases h_ok
    exact ⟨h_paired, h_past⟩

/-- The limit that a row with an override in force is read under. -/
theorem min_activeOverride {row : BucketRow} {spec : BucketSpec}
    (h_spec : spec.configuredMaxCapacity = configured)
    (h_override : row.OverrideUnder configured) (h_unexpired : row.OverrideUnexpired currentTime) :
    min ((row.activeOverride spec currentTime).getD configured.value) configured.value =
      row.lowerLimit configured := by
  unfold BucketRow.activeOverride BucketRow.overrideLive BucketRow.lowerLimit
  obtain ⟨h_value, h_expiresAt⟩ | ⟨value, expiresAt, h_value, h_expiresAt, h_anchor⟩ := h_override
  · rw [h_value, Option.getD_none]
  · have h_live := h_unexpired expiresAt h_expiresAt
    simp [h_value, h_expiresAt, h_anchor, h_spec, h_live]

/-- The last stage of a load keeps the invariant: it retains a row for longer at most. -/
theorem finishRow_retains {spec : BucketSpec} {ttl : ℕ} {event : Option MissingStateEvent}
    {reading : Reading} {loaded : LoadedRow}
    (h_ok : finishRow spec ttl true currentTime event reading = .ok loaded)
    (h_last : reading.lastChecked = reading.row.lastChecked)
    (h_row : reading.row.Retains id configured currentTime) :
    loaded.row.Retains id configured currentTime := by
  obtain ⟨_, _, expiresAt, _, _, _, h_loaded, h_le, _⟩ := finishRow_ok h_ok
  have h_repair : (repairFuture ttl currentTime reading).1 = reading.row := by
    unfold repairFuture
    rw [if_neg]
    intro h_future
    obtain ⟨last, h_some, h_lt⟩ := (Option.any_eq_true _ _).mp h_future
    have h_past := h_row.past last (h_last ▸ h_some)
    have h_lt : currentTime + futureLastCheckedRepairToleranceSeconds < last := by
      simpa using h_lt
    unfold futureLastCheckedRepairToleranceSeconds at h_lt
    linarith
  rw [h_repair] at h_loaded h_le
  rw [h_loaded]
  exact h_row.extend h_le

/-- A load that clears an expired override retains what is owed at the configured rate. -/
theorem finishRow_cleared {spec : BucketSpec} {ttl : ℕ} {event : Option MissingStateEvent}
    {row : BucketRow} {capacity last : ℚ} {active confirmed : Bool} {loaded : LoadedRow}
    (h_id : spec.id = id) (h_spec : spec.configuredMaxCapacity = configured)
    (h_window : 2 * id.perSeconds ≤ ttl) (h_past : last ≤ currentTime)
    (h_ok : finishRow spec ttl true currentTime event
      ⟨row.withoutOverride.withState (some capacity) (some last) currentTime
        (currentTime + ttl), some capacity, some last, spec.configuredMaxCapacity, active,
        confirmed⟩ = .ok loaded) :
    loaded.row.Retains id configured currentTime := by
  obtain ⟨calculated, _, expiresAt, h_refill, _, _, h_loaded, h_le, h_debt⟩ := finishRow_ok h_ok
  obtain ⟨_, rfl⟩ := refillCapacity_ok h_refill
  rw [h_id, h_spec] at h_debt
  have h_repair : (repairFuture ttl currentTime
      ⟨row.withoutOverride.withState (some capacity) (some last) currentTime
        (currentTime + ttl), some capacity, some last, spec.configuredMaxCapacity, active,
        confirmed⟩).1 = row.withoutOverride.withState (some capacity) (some last) currentTime
        (currentTime + ttl) := by
    unfold repairFuture
    rw [if_neg]
    intro h_future
    have h_lt : currentTime + futureLastCheckedRepairToleranceSeconds < last := by
      simpa using h_future
    unfold futureLastCheckedRepairToleranceSeconds at h_lt
    linarith
  rw [h_repair] at h_loaded h_le
  have h_ttl : currentTime + ttl ≤ expiresAt := h_le
  -- what the bucket holds now, at the configured rate
  have h_rate : 0 < configured.value / id.window := div_pos configured.pos id.window_pos
  have h_elapsed : max 0 (currentTime - last) = currentTime - last :=
    max_eq_right (by linarith)
  have h_covers : configured.value ≤ ttl * (configured.value / id.window) := by
    rw [mul_div_assoc', le_div_iff₀ id.window_pos, mul_comm]
    exact mul_le_mul_of_nonneg_right (window_le_ttl h_window) configured.nonneg
  have h_repaid : configured.value ≤
      capacity + (expiresAt - last) * (configured.value / id.window) := by
    by_cases h_sign : capacity + (currentTime - last) * (configured.value / id.window) < 0
    · obtain ⟨retention, h_retention, h_until⟩ := h_debt rfl (by
        simp only [refilled_some, calculateRatePerSec, h_elapsed]
        exact (min_le_right _ _).trans_lt h_sign)
      have h_amount : refilled (some last) (some capacity) currentTime configured
          (calculateRatePerSec configured id) =
            capacity + (currentTime - last) * (configured.value / id.window) := by
        simp only [refilled_some, calculateRatePerSec, h_elapsed]
        exact min_eq_right (h_sign.le.trans configured.nonneg)
      rw [h_amount] at h_retention
      have h_self : min configured.value configured.value = configured.value := min_self _
      have h_paid := debtTtlSeconds_repays id.perSeconds_pos
        ((Nat.le_mul_of_pos_left _ two_pos).trans h_window) (by rw [h_self]; exact configured.pos)
        h_retention
      rw [h_self] at h_paid
      have h_longer : retention * (configured.value / id.window) ≤
          (expiresAt - currentTime) * (configured.value / id.window) :=
        mul_le_mul_of_nonneg_right (by linarith) h_rate.le
      have h_paid : configured.value ≤ capacity +
          (currentTime - last) * (configured.value / id.window) +
            retention * (configured.value / id.window) := h_paid
      linarith
    · have h_longer : ttl * (configured.value / id.window) ≤
          (expiresAt - currentTime) * (configured.value / id.window) :=
        mul_le_mul_of_nonneg_right (by linarith) h_rate.le
      linarith
  have h_lower : loaded.row.lowerLimit configured = configured.value := by
    rw [h_loaded]
    exact min_self _
  rw [h_loaded] at h_lower ⊢
  refine .of_stored (expiresAt - last) (.inl ⟨rfl, rfl⟩) rfl rfl h_past ?_ ?_
  · show last + (expiresAt - last) ≤ expiresAt
    linarith
  · rw [h_lower]
    exact h_repaid

/-- A load keeps the invariant. -/
theorem loadRow_retains {spec : BucketSpec} {ttl : ℕ} {suspected : Bool}
    {row : Option BucketRow} {loaded : LoadedRow}
    (h_id : spec.id = id) (h_spec : spec.configuredMaxCapacity = configured)
    (h_window : 2 * id.perSeconds ≤ ttl)
    (h_row : ∀ r, row = some r → r.Retains id configured currentTime)
    (h_ok : loadRow spec ttl suspected true row currentTime = .ok loaded) :
    loaded.row.Retains id configured currentTime := by
  obtain ⟨reading, h_read, h_finish⟩ := loadRow_ok h_ok
  -- a state that is lost is drained; the row that is left of it is what matters
  have h_drained : reading.row.OverrideUnder configured →
      stateLost reading.capacity reading.lastChecked suspected = true →
      loaded.row.Retains id configured currentTime := by
    intro h_override h_lost
    rw [recoverLost_of_lost ttl suspected currentTime reading h_lost] at h_finish
    exact finishRow_retains h_finish rfl (retains_of_drained h_window h_override)
  have h_kept : reading.row.Retains id configured currentTime →
      loaded.row.Retains id configured currentTime := by
    intro h_reading
    by_cases h_lost : stateLost reading.capacity reading.lastChecked suspected = true
    · exact h_drained h_reading.override h_lost
    · rw [recoverLost_of_kept ttl suspected currentTime reading (Bool.eq_false_iff.mpr h_lost)]
        at h_finish
      exact finishRow_retains h_finish (readRow_fields h_read).2.symm h_reading
  obtain ⟨_, rfl⟩ | ⟨r, h_some, _, _, _, rfl, _⟩ | ⟨r, h_some, _, _, capacity, lastChecked,
    h_integrate, rfl⟩ := readRow_cases h_read
  · exact h_kept (.of_noState rfl rfl (.inl ⟨rfl, rfl⟩))
  · have h_r := h_row r h_some
    apply h_kept
    unfold BucketRow.found
    split
    · exact .of_noState rfl rfl h_r.override
    · exact h_r
  · have h_r := h_row r h_some
    obtain ⟨h_paired, h_past⟩ := integrateExpiredOverride_past h_r.paired h_r.past h_integrate
    by_cases h_lost : stateLost capacity lastChecked suspected = true
    · exact h_drained (.inl ⟨rfl, rfl⟩) h_lost
    · cases capacity with
      | none =>
        cases lastChecked with
        | none => exact h_kept (.of_noState rfl rfl (.inl ⟨rfl, rfl⟩))
        | some last => cases h_paired
      | some capacity =>
        cases lastChecked with
        | none => cases h_paired
        | some last =>
          rw [recoverLost_of_kept ttl suspected currentTime _ (Bool.eq_false_iff.mpr h_lost)]
            at h_finish
          exact finishRow_cleared h_id h_spec h_window (h_past last rfl) h_finish

/-- A write keeps the invariant: its retention is computed from what it writes. -/
theorem writeRow_retains {spec : BucketSpec} {ttl : ℕ} {row row' : BucketRow} {amount : ℚ}
    (h_id : spec.id = id) (h_spec : spec.configuredMaxCapacity = configured)
    (h_window : 2 * id.perSeconds ≤ ttl) (h_row : row.Retains id configured currentTime)
    (h_override : row.OverrideUnexpired currentTime)
    (h_ok : writeRow spec ttl row amount currentTime = .ok row') :
    row'.Retains id configured currentTime := by
  obtain ⟨retention, h_retention, rfl⟩ := SqliteEngine.writeRow_ok h_ok
  have h_limit := min_activeOverride h_spec h_row.override h_override
  rw [h_id, h_spec] at h_retention
  have h_paid := debtTtlSeconds_repays id.perSeconds_pos
    ((Nat.le_mul_of_pos_left _ two_pos).trans h_window)
    (by rw [h_limit]; exact h_row.override.lowerLimit_pos) h_retention
  rw [h_limit] at h_paid
  exact .of_stored retention h_row.override rfl rfl (le_refl _) (le_refl _) h_paid

/-- The invariant of a bucket in a transaction. -/
def RowView.Retains (v : RowView) (id : BucketId) (configured : MaxCapacity)
    (currentTime : ℚ) : Prop :=
  ∀ row, v.row = some row → row.Retains id configured currentTime

theorem RowStep.retains {v v' : RowView} (h_step : RowStep e currentTime id v v')
    (h_engine : id ∈ e.buckets → e.configuredMaxCapacity id = configured ∧
      2 * id.perSeconds ≤ e.bucketTtlSeconds)
    (h_row : v.Retains id configured currentTime) : v'.Retains id configured currentTime := by
  cases h_step with
  | pruned =>
    intro row h_some
    cases h_some
  | inserted =>
    intro row h_some
    cases h_some
    exact .of_noState rfl rfl (.inl ⟨rfl, rfl⟩)
  | loaded h_mem h_load =>
    intro row h_some
    cases h_some
    obtain ⟨h_configured, h_window⟩ := h_engine h_mem
    exact loadRow_retains rfl h_configured h_window h_row h_load
  | written h_mem h_override h_write =>
    intro row h_some
    cases h_some
    obtain ⟨h_configured, h_window⟩ := h_engine h_mem
    exact writeRow_retains rfl h_configured h_window (h_row _ rfl) h_override h_write

/-- What one step keeps, the path of a transaction keeps. -/
theorem RowPath.retains {v v' : RowView} (h_path : RowPath e currentTime id v v')
    (h_engine : id ∈ e.buckets → e.configuredMaxCapacity id = configured ∧
      2 * id.perSeconds ≤ e.bucketTtlSeconds)
    (h_row : v.Retains id configured currentTime) : v'.Retains id configured currentTime := by
  induction h_path with
  | refl => exact h_row
  | tail _ h_step ih => exact h_step.retains h_engine ih

/-- A change of limit establishes the invariant under the limit it leaves. -/
theorem Limited.retains {v v' : RowView} {maximum : ℚ}
    (h_limited : Limited e currentTime id v maximum v') (h_maximum : maximum = configured.value)
    (h_window : id ∈ e.buckets → 2 * id.perSeconds ≤ e.bucketTtlSeconds) :
    v'.Retains id configured currentTime := by
  cases h_limited with
  | @overridden row confirmedAt value capacity retention h_mem h_anchored h_retention =>
    intro row' h_some
    cases h_some
    have h_override : BucketRow.OverrideUnder
        { row with
          overrideValue := some value.value
          overrideExpiresAt := some (currentTime + e.overrideTtlSeconds)
          overrideConfiguredMaxCapacity := some (e.configuredMaxCapacity id).value
          updatedAt := currentTime
          expiresAt := currentTime + retention } configured :=
      .inr ⟨value, _, rfl, rfl, by rw [h_maximum]⟩
    obtain ⟨h_capacity, h_last⟩ | ⟨h_capacity, h_last⟩ := h_anchored
    · exact .of_noState h_capacity h_last h_override
    · rw [h_maximum] at h_retention
      have h_paid := debtTtlSeconds_repays id.perSeconds_pos
        ((Nat.le_mul_of_pos_left _ two_pos).trans (h_window h_mem))
        (lt_min value.pos configured.pos) h_retention
      exact .of_stored retention h_override h_capacity h_last (le_refl _)
        (le_refl _) h_paid
  | @cleared row confirmedAt maximum capacity retention h_mem h_anchored h_retention =>
    intro row' h_some
    cases h_some
    obtain ⟨h_capacity, h_last⟩ | ⟨h_capacity, h_last⟩ := h_anchored
    · exact .of_noState h_capacity h_last (.inl ⟨rfl, rfl⟩)
    · rw [h_maximum] at h_retention
      have h_paid := debtTtlSeconds_repays id.perSeconds_pos
        ((Nat.le_mul_of_pos_left _ two_pos).trans (h_window h_mem))
        (lt_min configured.pos configured.pos) h_retention
      exact .of_stored retention (.inl ⟨rfl, rfl⟩) h_capacity h_last (le_refl _)
        (le_refl _) h_paid

end Steps

/-! ## The runs -/

/-- The limits that a clearing of overrides passes on are valid. -/
def EngineRequest.limitsValid (request : EngineRequest) (id : BucketId) : Bool :=
  match request with
  | .clearMaxCapacityOverrides _ configuredMaxCapacities =>
    (configuredMaxCapacities id).all (minMaxCapacity ≤ ·)
  | _ => true

namespace Fleet

/-- The runs the engines of one configuration make: an engine that is started or called
    has the limits that the store is configured with, but for the one it is about to
    apply; a bucket's window is at most half of the TTL; nobody touches a row from outside. -/
def steady (builder : SqliteBackendBuilder) (s : Fleet) : FleetEvent → Bool
  | .start _ quotas _ => quotas.items.all fun quota =>
    s.configured quota.1 = quota.2 ∧ 2 * quota.1.perSeconds ≤ builder.bucketTtlSeconds
  | .call who _ request => (s.engines who).all fun e => e.buckets.all fun id =>
    (request.relimits id ∨ e.configuredMaxCapacity id = s.configured id) ∧
      request.limitsValid id
  | .inherit _ _ => true
  | .remove _ _ => false

/-- A state that a steady run leads to. -/
def Steady (builder : SqliteBackendBuilder) (configured : BucketId → MaxCapacity) (s : Fleet) :
    Prop :=
  ∃ events, Run (Steps (guard (step builder) (steady builder))) (init configured) events s

/-- The invariant of a steady run. -/
structure Solvent (builder : SqliteBackendBuilder) (s : Fleet) : Prop where
  members : Members builder s
  window : ∀ who e, s.engines who = some e → ∀ id ∈ e.buckets,
    2 * id.perSeconds ≤ builder.bucketTtlSeconds
  row : ∀ id row, s.row builder id = some row → row.Retains id (s.configured id) s.clock

variable {builder : SqliteBackendBuilder} {s s' : Fleet}

theorem init_solvent (configured : BucketId → MaxCapacity) :
    Solvent builder (init configured) where
  members := init_members configured
  window _ _ h_engine := by cases h_engine
  row _ _ h_row := by cases h_row

/-- A committed call leaves each of its buckets a limit that is valid. -/
theorem limitAfter_valid {e e' : SqliteEngine} {input : TxnInput} {db db' : Database}
    {request : EngineRequest} {outcome : Outcome} {id : BucketId}
    (h_call : e.call input db request = (.ok outcome, e', db'))
    (h_valid : request.limitsValid id = true) : minMaxCapacity ≤ e.limitAfter request id := by
  cases request with
  | applyConfiguredMaxCapacity target value =>
    obtain ⟨_, h_ok, _⟩ := SqliteEngine.of_answer_ok h_call
    split at h_ok
    · cases h_ok
    · rename_i maxCapacity h_value
      rw [SqliteEngine.limitAfter_apply, ← validateMaxCapacity_ok h_value]
      split
      · exact maxCapacity.min_le
      · exact (e.configuredMaxCapacity id).min_le
  | clearMaxCapacityOverrides bucketIds configuredMaxCapacities =>
    rw [SqliteEngine.limitAfter_clear]
    split
    · change (configuredMaxCapacities id).all (minMaxCapacity ≤ ·) = true at h_valid
      cases h_limit : configuredMaxCapacities id with
      | none => exact (e.configuredMaxCapacity id).min_le
      | some limit =>
        rw [h_limit] at h_valid
        simpa using h_valid
    · exact (e.configuredMaxCapacity id).min_le
  | tryConsume usage reservationId lifetime => exact (e.configuredMaxCapacity id).min_le
  | consume usage reservationId lifetime => exact (e.configuredMaxCapacity id).min_le
  | refund refund refundBucketIds => exact (e.configuredMaxCapacity id).min_le
  | cleanupConsumption usage bucketIds reservationId =>
    exact (e.configuredMaxCapacity id).min_le
  | setMaxCapacity target value => exact (e.configuredMaxCapacity id).min_le

theorem configuredAfter_value {e : SqliteEngine} {request : EngineRequest} {id : BucketId}
    (h_valid : minMaxCapacity ≤ e.limitAfter request id) :
    (e.configuredAfter request id).value = e.limitAfter request id := by
  unfold SqliteEngine.configuredAfter validateMaxCapacityFinitePositive
  rw [dif_pos h_valid]
  rfl

/-- A path of an engine that has no such bucket prunes the row at most. -/
theorem path_of_notMem {e : SqliteEngine} {currentTime : ℚ} {id : BucketId} {v v' : RowView}
    (h_path : RowPath e currentTime id v v') (h_notMem : id ∉ e.buckets) :
    v' = v ∨ (v'.row = none ∧ v'.confirmedAt = v.confirmedAt ∧
      ∃ row, v.row = some row ∧ row.expiresAt ≤ currentTime) := by
  induction h_path with
  | refl => exact .inl rfl
  | tail h_before h_step ih =>
    cases h_step with
    | pruned h_expired _ =>
      obtain h_same | ⟨h_none, _⟩ := ih
      · rw [← h_same]
        exact .inr ⟨rfl, rfl, _, rfl, h_expired⟩
      · cases h_none
    | inserted h_mem => exact absurd h_mem h_notMem
    | loaded h_mem => exact absurd h_mem h_notMem
    | written h_mem => exact absurd h_mem h_notMem

/-- A committed call keeps every row under the limit it is configured with. -/
theorem rewritten_retains {e e' : SqliteEngine} {input : TxnInput} {request : EngineRequest}
    {outcome : Outcome} {db' : Database} {confirmedAt : BucketId → Option ℚ} {who : ℕ}
    (h_solvent : Solvent builder s) (h_clock : s.clock ≤ input.currentTime)
    (h_engine : s.engines who = some e)
    (h_steady : steady builder s (.call who input request) = true)
    (h_call : e.call input s.db request = (.ok outcome, e', db'))
    (h_rows : e.Rewritten input s.db request.relimits (e.limitAfter request) confirmedAt db')
    (id : BucketId) (row : BucketRow) (h_row : db'.buckets (builder.bucketKey id) = some row) :
    row.Retains id (s.configuredAfter e request (.ok outcome) id) input.currentTime := by
  have h_member := h_solvent.members who e h_engine
  have h_window : id ∈ e.buckets → 2 * id.perSeconds ≤ e.bucketTtlSeconds := by
    intro h_mem
    rw [h_member.bucketTtlSeconds]
    exact h_solvent.window who e h_engine id h_mem
  have h_start : RowView.Retains ⟨s.db.buckets (e.bucketKey id), none⟩ id (s.configured id)
      input.currentTime := by
    intro row h_some
    have h_some : s.db.buckets (e.bucketKey id) = some row := h_some
    rw [h_member.bucketKey_eq] at h_some
    exact (h_solvent.row id row h_some).later h_clock
  have h_limits : id ∈ e.buckets → (request.relimits id = true ∨
      e.configuredMaxCapacity id = s.configured id) ∧ request.limitsValid id = true := by
    intro h_mem
    simp only [steady, h_engine, Option.all_some, List.all_eq_true] at h_steady
    simpa using h_steady id h_mem
  have h_rewrites := h_rows id
  show row.Retains id
    (if id ∈ e.buckets then e.configuredAfter request id else s.configured id) input.currentTime
  rw [h_member.bucketKey_eq, h_row] at h_rewrites
  rw [h_member.bucketKey_eq] at h_start
  -- a request either keeps the limit of the bucket or is the one that changes it
  generalize h_limit : e.limitAfter request id = limit at h_rewrites
  cases h_rewrites with
  | kept h_relimits h_path =>
    by_cases h_mem : id ∈ e.buckets
    · obtain ⟨h_configured, h_valid⟩ := h_limits h_mem
      have h_configured : e.configuredMaxCapacity id = s.configured id := by
        rw [h_relimits] at h_configured
        simpa using h_configured
      have h_after : e.configuredAfter request id = s.configured id := by
        apply MaxCapacity.eq_of_value
        rw [configuredAfter_value (limitAfter_valid h_call h_valid), h_limit, h_configured]
      rw [if_pos h_mem, h_after]
      exact h_path.retains (fun _ => ⟨h_configured, h_window h_mem⟩) h_start row rfl
    · rw [if_neg h_mem]
      exact h_path.retains (fun h => absurd h h_mem) h_start row rfl
  | limited h_path h_limited =>
    have h_mem : id ∈ e.buckets := by
      cases h_limited with
      | overridden h_mem => exact h_mem
      | cleared h_mem => exact h_mem
    obtain ⟨_, h_valid⟩ := h_limits h_mem
    rw [if_pos h_mem]
    refine h_limited.retains ?_ h_window row rfl
    rw [configuredAfter_value (limitAfter_valid h_call h_valid), h_limit]

/-- Every step of a steady run keeps the invariant. -/
theorem Solvent.step {event : FleetEvent} (h_solvent : Solvent builder s)
    (h_steady : steady builder s event = true) (h_happens : Happens builder s event s') :
    Solvent builder s' := by
  have h_members := h_happens.members h_solvent.members
  have h_window : ∀ {who : ℕ} {e : SqliteEngine},
      (∀ id ∈ e.buckets, 2 * id.perSeconds ≤ builder.bucketTtlSeconds) →
      ∀ who' e', Function.update s.engines who (some e) who' = some e' →
        ∀ id ∈ e'.buckets, 2 * id.perSeconds ≤ builder.bucketTtlSeconds := by
    intro who e h_e who' e' h_engine
    rw [Function.update_apply] at h_engine
    split at h_engine
    · cases h_engine
      exact h_e
    · exact h_solvent.window who' e' h_engine
  cases h_happens with
  | @started who quotas input db h_clock _ h_open =>
    have h_quotas : ∀ id ∈ (builder.engine quotas).buckets,
        (builder.engine quotas).configuredMaxCapacity id = s.configured id ∧
          2 * id.perSeconds ≤ builder.bucketTtlSeconds := by
      intro id h_mem
      obtain ⟨⟨id', limit⟩, h_item, rfl⟩ := List.mem_map.mp h_mem
      have h_get : quotas.get id' = some limit := OrderedDict.mem_items_iff.mp h_item
      have h_item : s.configured id' = limit ∧
          2 * id'.perSeconds ≤ builder.bucketTtlSeconds := by
        simpa using List.all_eq_true.mp h_steady _ h_item
      refine ⟨?_, h_item.2⟩
      show (quotas.get id').getD builder.absent = s.configured id'
      rw [h_get, h_item.1]
      rfl
    refine ⟨h_members, h_window fun id h_mem => (h_quotas id h_mem).2, fun id row h_row => ?_⟩
    have h_start : RowView.Retains ⟨s.db.buckets ((builder.engine quotas).bucketKey id), none⟩ id
        (s.configured id) input.currentTime := by
      intro row' h_some
      exact (h_solvent.row id row' h_some).later h_clock
    exact (SqliteEngine.initializeBuckets_path h_open id).retains (h_quotas id) h_start row h_row
  | notStarted h_clock =>
    exact ⟨h_members, h_solvent.window, fun id row h_row =>
      (h_solvent.row id row h_row).later h_clock⟩
  | @called who input request e e' result db h_clock h_engine h_call h_called =>
    cases h_called with
    | committed h_rows =>
      exact ⟨h_members, h_window (h_solvent.window who e h_engine),
        rewritten_retains h_solvent h_clock h_engine h_steady h_call h_rows⟩
    | raised =>
      exact ⟨h_members, h_window (h_solvent.window who e h_engine), fun id row h_row =>
        (h_solvent.row id row h_row).later h_clock⟩
  | @inherited who previous e e₀ e' h_engine _ _ h_ok =>
    refine ⟨h_members, h_window ?_, h_solvent.row⟩
    rw [SqliteEngine.inheritStateConfirmations_buckets h_ok]
    exact h_solvent.window who e h_engine
  | notInherited => exact h_solvent
  | removed => cases h_steady

theorem steady_solvent {configured : BucketId → MaxCapacity}
    (h_reach : Steady builder configured s) : Solvent builder s := by
  obtain ⟨events, h_run⟩ := h_reach
  have h_keeps : ∀ s event s', Solvent builder s →
      Steps (guard (step builder) (steady builder)) s event s' → Solvent builder s' := by
    intro s event s' h_solvent h_step
    obtain ⟨h_steady, h_step⟩ := Theory.steps_guard_iff.mp h_step
    exact h_solvent.step h_steady (step_happens h_step)
  exact h_run.invariant h_keeps (init_solvent configured)

end Fleet

/-! ## Rows that are dropped -/

/-- An engine drops what a row stores: `_prune` deletes the row, or a load misses the state
    although the row holds one. -/
inductive SqliteEngine.Drops (e : SqliteEngine) (input : TxnInput) (id : BucketId)
    (row : BucketRow) : Prop
  | pruned {db : Database} {left : Option ℕ} {u : Unit} {s : TxnState}
      (h_row : db.buckets (e.bucketKey id) = some row)
      (h_prune : prune input ⟨db, fun _ => none, left⟩ = .ok u s)
      (h_gone : s.db.buckets (e.bucketKey id) = none)
  | absent {db : Database} {states : BucketId → BucketState}
      (h_row : db.buckets (e.bucketKey id) = some row) (h_mem : id ∈ e.buckets)
      (h_loads : e.Loads input db (.ok states))
      (h_missing : (states id).missingStateEvent.isSome = true)

/-- The stored state integrated without a cap: at the override's rate until the override
    expires, at the configured rate afterwards. -/
def BucketRow.integrated (row : BucketRow) (id : BucketId) (configured : MaxCapacity)
    (capacity last currentTime : ℚ) : ℚ :=
  match row.overrideValue, row.overrideExpiresAt with
  | some value, some expiresAt =>
    capacity + max 0 (min currentTime expiresAt - last) * (value / id.window) +
      max 0 (currentTime - max expiresAt last) * (configured.value / id.window)
  | _, _ => capacity + max 0 (currentTime - last) * (configured.value / id.window)

section Dropped

variable {row : BucketRow} {id : BucketId} {configured : MaxCapacity}
  {capacity last currentTime : ℚ}

theorem expired_of_pruned {input : TxnInput} {key : BucketKey}
    (h_pruned : input.prunedRow key (some row) = none) : row.expiresAt ≤ input.currentTime := by
  unfold TxnInput.prunedRow at h_pruned
  rw [Option.filter_some] at h_pruned
  split at h_pruned
  · cases h_pruned
  · rename_i h_expired
    rw [decide_eq_true_iff, not_not] at h_expired
    exact h_expired.1

/-- Only a row that has expired is dropped. -/
theorem expired_of_drops {e : SqliteEngine} {input : TxnInput} (h_stored : row.Stored)
    (h_drops : e.Drops input id row) : row.expiresAt ≤ input.currentTime := by
  cases h_drops with
  | pruned h_row h_prune h_gone =>
    have h_pruned := congrArg RowView.row (SqliteEngine.prune_rows (e := e) h_prune id)
    have h_pruned : _ = input.prunedRow (e.bucketKey id) _ := h_pruned
    rw [h_row] at h_pruned
    exact expired_of_pruned (h_pruned.symm.trans h_gone)
  | absent h_row h_mem h_loads h_missing =>
    obtain ⟨loaded, h_loaded, h_state⟩ := h_loads.row_of_ok h_mem
    rw [h_state] at h_missing
    obtain ⟨writable, read, _, h_read, h_ok⟩ := h_loaded.read
    rw [h_row] at h_read
    obtain rfl | rfl := h_read
    · exact loadRow_missing h_stored h_ok.symm h_missing
    · -- the row was pruned before, or is the one that was loaded
      cases h_pruned : input.prunedRow (e.bucketKey id) (some row) with
      | none => exact expired_of_pruned h_pruned
      | some kept =>
        have h_same : some row = some kept :=
          (Option.filter_eq_some_iff.mp h_pruned).1
        rw [h_pruned, ← h_same] at h_ok
        exact loadRow_missing h_stored h_ok.symm h_missing

/-- The integration gains at least the slower rate over the whole time. -/
theorem integrated_ge (h_override : row.OverrideUnder configured) (h_past : last ≤ currentTime) :
    capacity + (currentTime - last) * (row.lowerLimit configured / id.window) ≤
      row.integrated id configured capacity last currentTime := by
  have h_window := id.window_pos
  unfold BucketRow.lowerLimit BucketRow.integrated
  obtain ⟨h_value, _⟩ | ⟨value, expiresAt, h_value, h_expiresAt, _⟩ := h_override
  · rw [h_value, Option.getD_none, min_self]
    show _ ≤ capacity + max 0 (currentTime - last) * (configured.value / id.window)
    rw [max_eq_right (sub_nonneg.mpr h_past)]
  · rw [h_value, h_expiresAt, Option.getD_some]
    show capacity + (currentTime - last) * (min value.value configured.value / id.window) ≤
      capacity + max 0 (min currentTime expiresAt - last) * (value.value / id.window) +
        max 0 (currentTime - max expiresAt last) * (configured.value / id.window)
    have h_elapsed : max 0 (min currentTime expiresAt - last) +
        max 0 (currentTime - max expiresAt last) = currentTime - last := by
      rcases le_total expiresAt last with h | h
      · have h_before : min currentTime expiresAt - last ≤ 0 := by
          linarith [min_le_right currentTime expiresAt]
        rw [max_eq_left h_before, max_eq_right h, max_eq_right (sub_nonneg.mpr h_past), zero_add]
      · rw [max_eq_left h]
        rcases le_total expiresAt currentTime with h' | h'
        · rw [min_eq_right h', max_eq_right (sub_nonneg.mpr h), max_eq_right (sub_nonneg.mpr h')]
          ring
        · rw [min_eq_left h', max_eq_right (sub_nonneg.mpr h_past),
            max_eq_left (sub_nonpos.mpr h'), add_zero]
    have h_override : max 0 (min currentTime expiresAt - last) *
        (min value.value configured.value / id.window) ≤
          max 0 (min currentTime expiresAt - last) * (value.value / id.window) := by
      gcongr
      exact min_le_left _ _
    have h_configured : max 0 (currentTime - max expiresAt last) *
        (min value.value configured.value / id.window) ≤
          max 0 (currentTime - max expiresAt last) * (configured.value / id.window) := by
      gcongr
      exact min_le_right _ _
    have h_split : (currentTime - last) * (min value.value configured.value / id.window) =
        max 0 (min currentTime expiresAt - last) *
          (min value.value configured.value / id.window) +
        max 0 (currentTime - max expiresAt last) *
          (min value.value configured.value / id.window) := by
      rw [← add_mul, h_elapsed]
    linarith

end Dropped

namespace Fleet

variable {builder : SqliteBackendBuilder} {configured : BucketId → MaxCapacity} {s : Fleet}

/-- Bucket expiry never forgives debt. -/
theorem droppedRow_repaid {e : SqliteEngine} {input : TxnInput} {id : BucketId}
    {row : BucketRow} {capacity last : ℚ} (h_reach : Steady builder configured s)
    (h_time : s.clock ≤ input.currentTime) (h_row : s.row builder id = some row)
    (h_capacity : row.capacity = some capacity) (h_last : row.lastChecked = some last)
    (h_drops : e.Drops input id row) :
    row.lowerLimit (s.configured id) ≤
        row.integrated id (s.configured id) capacity last input.currentTime ∧
      0 ≤ row.integrated id (s.configured id) capacity last input.currentTime ∧
      (row.overrideValue = none →
        (s.configured id).value ≤ refilled row.lastChecked row.capacity input.currentTime
          (s.configured id) (calculateRatePerSec (s.configured id) id)) := by
  have h_retains := ((steady_solvent h_reach).row id row h_row).later h_time
  have h_past := h_retains.past last h_last
  have h_stored : row.Stored := ⟨by rw [h_capacity]; rfl, by rw [h_last]; rfl⟩
  have h_expired := expired_of_drops h_stored h_drops
  have h_repaid := h_retains.repaid capacity last h_capacity h_last
  have h_positive := h_retains.override.lowerLimit_pos
  have h_rate : 0 ≤ row.lowerLimit (s.configured id) / id.window :=
    div_nonneg h_positive.le id.window_pos.le
  have h_longer : (row.expiresAt - last) * (row.lowerLimit (s.configured id) / id.window) ≤
      (input.currentTime - last) * (row.lowerLimit (s.configured id) / id.window) :=
    mul_le_mul_of_nonneg_right (by linarith) h_rate
  have h_reached : row.lowerLimit (s.configured id) ≤ capacity +
      (input.currentTime - last) * (row.lowerLimit (s.configured id) / id.window) := by
    linarith
  have h_integrated : row.lowerLimit (s.configured id) ≤
      row.integrated id (s.configured id) capacity last input.currentTime :=
    h_reached.trans (integrated_ge h_retains.override h_past)
  refine ⟨h_integrated, h_positive.le.trans h_integrated, fun h_none => ?_⟩
  have h_lower : row.lowerLimit (s.configured id) = (s.configured id).value := by
    unfold BucketRow.lowerLimit
    rw [h_none, Option.getD_none, min_self]
  rw [h_lower] at h_reached
  rw [h_capacity, h_last, refilled_some, max_eq_right (sub_nonneg.mpr h_past)]
  exact le_min (le_refl _) h_reached

/-- The store of the examples. -/
def exampleStore : SqliteBackendBuilder where
  keyPrefix := "p"
  modelFamily := "m"
  bucketTtlSeconds := 3600
  refundDedupTtlSeconds := 3600
  overrideTtlSeconds := 3600
  maxReservationLifetimeSeconds := 3600
  absent := oneHundred

/-- A configuration of one bucket. -/
def hundredTokens : OrderedDict BucketId MaxCapacity :=
  ⟨[(tokensPerMinute, oneHundred)], List.nodup_singleton _⟩

/-- A bucket is overdrawn, and then its limit is lowered to 1. -/
def overdrawn : List FleetEvent :=
  [.start 0 hundredTokens (.at 0), .call 0 (.at 0) (.consume (tokens 250) none none),
    .call 0 (.at 0) (.setMaxCapacity tokensPerMinute 1)]

def overdrawnRow : BucketRow where
  capacity := some (-100)
  lastChecked := some 0
  overrideValue := some 1
  overrideExpiresAt := some 3600
  overrideConfiguredMaxCapacity := some 100
  updatedAt := 0
  expiresAt := 6060

theorem overdrawn_steady : ∃ s, Steady exampleStore (fun _ => oneHundred) s ∧ s.clock = 0 ∧
    s.configured tokensPerMinute = oneHundred ∧
    s.row exampleStore tokensPerMinute = some overdrawnRow := by
  obtain ⟨s, h_run, h_state⟩ : ∃ s,
      Run (Steps (guard (step exampleStore) (steady exampleStore))) (init fun _ => oneHundred)
        overdrawn s ∧
      (s.clock = 0 ∧ s.configured tokensPerMinute = oneHundred ∧
        s.row exampleStore tokensPerMinute = some overdrawnRow) :=
    Theory.exists_run_of_exec (by decide +kernel)
  exact ⟨s, ⟨overdrawn, h_run⟩, h_state⟩

/-- The row expires after 101 windows, in which the lowered rate repays its debt of 100. -/
theorem droppedRow_repaid_overdrawn :
    overdrawnRow.lowerLimit oneHundred ≤
        overdrawnRow.integrated tokensPerMinute oneHundred (-100) 0 6060 ∧
      0 ≤ overdrawnRow.integrated tokensPerMinute oneHundred (-100) 0 6060 ∧
      (overdrawnRow.overrideValue = none → oneHundred.value ≤
        refilled overdrawnRow.lastChecked overdrawnRow.capacity 6060 oneHundred
          (calculateRatePerSec oneHundred tokensPerMinute)) := by
  obtain ⟨s, h_reach, h_clock, h_configured, h_row⟩ := overdrawn_steady
  have h_drops : exampleEngine.Drops { TxnInput.at 6060 with prunesBucket := fun _ => true }
      tokensPerMinute overdrawnRow := by
    have h_stored : s.db.buckets (exampleEngine.bucketKey tokensPerMinute) =
        some overdrawnRow := h_row
    refine .pruned h_stored (rfl : SqliteEngine.prune _ ⟨s.db, fun _ => none, none⟩ = _) ?_
    show (s.db.buckets (exampleEngine.bucketKey tokensPerMinute)).filter _ = none
    rw [h_stored]
    decide +kernel
  have h_repaid := droppedRow_repaid h_reach (by rw [h_clock]; decide +kernel) h_row rfl rfl
    h_drops
  rw [h_configured] at h_repaid
  exact h_repaid

end Fleet

end TokenThrottle
