/-
  TokenThrottle.Sqlite.StateLoss

  What an engine concludes from a missing bucket state: that it was lost, if one of its two
  fields is there or if the engine has confirmed the state lately; else that the bucket is new.

  * An engine's confirmation of a bucket lasts for nine tenths of the TTL.  `Backs` says
    that until then the row has both fields and does not expire; whatever a transaction does
    to a row keeps it.
  * What a transaction confirms is stored for the whole TTL, and it confirms what it writes.
  * A load of a lost state shows an empty bucket.
-/
import TokenThrottle.Sqlite.CallRows

namespace TokenThrottle

/-! ## Rows that back a confirmation -/

namespace BucketRow

/-- Both fields of the state are stored. -/
def Stored (row : BucketRow) : Prop :=
  row.capacity.isSome = true ∧ row.lastChecked.isSome = true

/-- No field of the state is stored. -/
def Stateless (row : BucketRow) : Prop := row.capacity = none ∧ row.lastChecked = none

/-- The override, if there is one, is a limit. -/
def ValidOverride (row : BucketRow) : Prop :=
  ∀ value, row.overrideValue = some value → ∃ maxCapacity : MaxCapacity, maxCapacity.value = value

end BucketRow

/-- The time that a state is confirmed until has passed, or the state is stored and lasts. -/
def Backs (now confirmedUntil : ℚ) (row : Option BucketRow) : Prop :=
  confirmedUntil ≤ now ∨ ∃ r, row = some r ∧ r.Stored ∧ confirmedUntil ≤ r.expiresAt

/-- A state that both fields are stored of, or neither. -/
def PairedRow (row : Option BucketRow) : Prop := ∀ r, row = some r → r.Paired

def ValidRow (row : Option BucketRow) : Prop := ∀ r, row = some r → r.ValidOverride

theorem Backs.later {now later confirmedUntil : ℚ} {row : Option BucketRow}
    (h_backs : Backs now confirmedUntil row) (h_le : now ≤ later) :
    Backs later confirmedUntil row := by
  rcases h_backs with h_past | h_stored
  · exact .inl (h_past.trans h_le)
  · exact .inr h_stored

theorem Backs.le {now confirmedUntil sooner : ℚ} {row : Option BucketRow}
    (h_backs : Backs now confirmedUntil row) (h_le : sooner ≤ confirmedUntil) :
    Backs now sooner row := by
  rcases h_backs with h_past | ⟨r, h_row, h_stored, h_lasts⟩
  · exact .inl (h_le.trans h_past)
  · exact .inr ⟨r, h_row, h_stored, h_le.trans h_lasts⟩

theorem debtTtlSeconds_ge {capacity maxCapacity configured : ℚ} {ttl perSeconds : ℕ}
    {retention : ℤ}
    (h_ok : debtTtlSeconds capacity ttl perSeconds maxCapacity configured = .ok retention) :
    (ttl : ℚ) ≤ retention := by
  obtain ⟨retention', h_le, h_ok'⟩ | h_error :=
    debtTtlSeconds_cases capacity ttl perSeconds maxCapacity configured
  · rw [h_ok'] at h_ok
    cases h_ok
    exact_mod_cast h_le
  · rw [h_error] at h_ok
    cases h_ok

/-! ### A load -/

section Load

variable {spec : BucketSpec} {ttl : ℕ} {suspected writable : Bool} {row : Option BucketRow}
  {currentTime confirmedUntil : ℚ} {loaded : LoadedRow} {reading : Reading}

/-- The state that a load reads is past its confirmation, or it is there and lasts. -/
def Reading.Backs (reading : Reading) (now confirmedUntil : ℚ) : Prop :=
  confirmedUntil ≤ now ∨ (reading.capacity.isSome = true ∧ reading.lastChecked.isSome = true ∧
    confirmedUntil ≤ reading.row.expiresAt)

theorem integrateExpiredOverride_isSome {r : BucketRow} {capacity lastChecked : Option ℚ}
    (h_ok : integrateExpiredOverride spec r r.capacity r.lastChecked currentTime =
      .ok (capacity, lastChecked)) :
    capacity.isSome = r.capacity.isSome ∧ lastChecked.isSome = r.lastChecked.isSome := by
  unfold integrateExpiredOverride at h_ok
  split at h_ok
  · rename_i h_capacity h_last
    rw [h_capacity, h_last]
    split at h_ok
    · obtain ⟨_, _, h_ok⟩ := bind_eq_ok h_ok
      obtain ⟨_, _, h_ok⟩ := bind_eq_ok h_ok
      cases h_ok
      exact ⟨rfl, rfl⟩
    · cases h_ok
      rw [h_capacity, h_last]
      exact ⟨rfl, rfl⟩
  · cases h_ok
    exact ⟨rfl, rfl⟩

theorem readRow_backs (h_backs : Backs currentTime confirmedUntil row)
    (h_until : confirmedUntil ≤ currentTime + ttl)
    (h_read : readRow spec ttl row currentTime = .ok reading) :
    reading.Backs currentTime confirmedUntil := by
  rcases h_backs with h_past | ⟨r, rfl, h_stored, h_lasts⟩
  · exact .inl h_past
  · obtain ⟨h_gone, rfl⟩ | ⟨r', h_row, _, _, _, rfl, _⟩ | ⟨r', h_row, _, _, _, _, h_integrate, rfl⟩ :=
      readRow_cases h_read
    · left
      have h_expired : ¬ currentTime < r.expiresAt := fun h_lt => h_gone r rfl (.inl h_lt)
      linarith
    · cases h_row
      by_cases h_lt : currentTime < r.expiresAt
      · right
        rw [BucketRow.found_of_lt h_lt]
        exact ⟨h_stored.1, h_stored.2, h_lasts⟩
      · left
        linarith
    · cases h_row
      right
      obtain ⟨h_capacity, h_last⟩ := integrateExpiredOverride_isSome h_integrate
      exact ⟨h_capacity.trans h_stored.1, h_last.trans h_stored.2, h_until⟩

/-- Recovery writes the fields it shows. -/
theorem recoverLost_fields
    (h_fields : reading.row.capacity = reading.capacity ∧
      reading.row.lastChecked = reading.lastChecked) :
    (recoverLost ttl suspected currentTime reading).row.capacity =
        (recoverLost ttl suspected currentTime reading).capacity ∧
      (recoverLost ttl suspected currentTime reading).row.lastChecked =
        (recoverLost ttl suspected currentTime reading).lastChecked := by
  by_cases h_lost : stateLost reading.capacity reading.lastChecked suspected = true
  · rw [recoverLost_of_lost ttl suspected currentTime reading h_lost]
    exact ⟨rfl, rfl⟩
  · rw [recoverLost_of_kept ttl suspected currentTime reading (Bool.eq_false_iff.mpr h_lost)]
    exact h_fields

theorem recoverLost_backs (h_until : confirmedUntil ≤ currentTime + ttl)
    (h_backs : reading.Backs currentTime confirmedUntil) :
    (recoverLost ttl suspected currentTime reading).Backs currentTime confirmedUntil := by
  by_cases h_lost : stateLost reading.capacity reading.lastChecked suspected = true
  · rw [recoverLost_of_lost ttl suspected currentTime reading h_lost]
    exact .inr ⟨rfl, rfl, h_until⟩
  · rw [recoverLost_of_kept ttl suspected currentTime reading (Bool.eq_false_iff.mpr h_lost)]
    exact h_backs

/-- The repair of a timestamp and the retention of debt keep what is stored. -/
theorem finishRow_stored {event : Option MissingStateEvent}
    (h_ok : finishRow spec ttl writable currentTime event reading = .ok loaded)
    (h_fields : reading.row.capacity = reading.capacity ∧
      reading.row.lastChecked = reading.lastChecked)
    (h_capacity : reading.capacity.isSome = true) (h_last : reading.lastChecked.isSome = true)
    (h_until : confirmedUntil ≤ currentTime + ttl)
    (h_lasts : (repairFuture ttl currentTime reading).2 = reading.confirmed →
      confirmedUntil ≤ reading.row.expiresAt) :
    loaded.row.Stored ∧ confirmedUntil ≤ loaded.row.expiresAt := by
  obtain ⟨_, _, expiresAt, _, _, _, h_row, h_le, _⟩ := finishRow_ok h_ok
  have h_repaired : (repairFuture ttl currentTime reading).1.Stored ∧
      confirmedUntil ≤ (repairFuture ttl currentTime reading).1.expiresAt := by
    unfold repairFuture at h_lasts ⊢
    split at h_lasts
    · rename_i h_future
      rw [if_pos h_future]
      exact ⟨⟨h_fields.1 ▸ h_capacity, rfl⟩, h_until⟩
    · rename_i h_near
      rw [if_neg h_near]
      exact ⟨⟨h_fields.1 ▸ h_capacity, h_fields.2 ▸ h_last⟩, h_lasts rfl⟩
  rw [h_row]
  exact ⟨h_repaired.1, h_repaired.2.trans h_le⟩

theorem loadRow_backs (h_backs : Backs currentTime confirmedUntil row)
    (h_until : confirmedUntil ≤ currentTime + ttl)
    (h_ok : loadRow spec ttl suspected writable row currentTime = .ok loaded) :
    Backs currentTime confirmedUntil (some loaded.row) := by
  obtain ⟨reading, h_read, h_finish⟩ := loadRow_ok h_ok
  rcases @recoverLost_backs _ suspected _ _ _ h_until (readRow_backs h_backs h_until h_read)
    with h_past | ⟨h_capacity, h_last, h_lasts⟩
  · exact .inl h_past
  · exact .inr ⟨loaded.row, rfl, finishRow_stored h_finish
      (recoverLost_fields (readRow_fields h_read)) h_capacity h_last h_until fun _ => h_lasts⟩

/-- What a load has confirmed so far is stored for the whole TTL. -/
theorem recovered_confirmed (h_read : readRow spec ttl row currentTime = .ok reading)
    (h_confirmed : (recoverLost ttl suspected currentTime reading).confirmed = true) :
    (recoverLost ttl suspected currentTime reading).capacity.isSome = true ∧
      (recoverLost ttl suspected currentTime reading).lastChecked.isSome = true ∧
      currentTime + ttl ≤ (recoverLost ttl suspected currentTime reading).row.expiresAt := by
  by_cases h_lost : stateLost reading.capacity reading.lastChecked suspected = true
  · rw [recoverLost_of_lost ttl suspected currentTime reading h_lost]
    exact ⟨rfl, rfl, le_refl _⟩
  · rw [recoverLost_of_kept ttl suspected currentTime reading (Bool.eq_false_iff.mpr h_lost)]
      at h_confirmed ⊢
    obtain ⟨_, rfl⟩ | ⟨_, _, _, _, _, rfl, _⟩ | ⟨_, _, _, _, _, _, _, rfl⟩ := readRow_cases h_read
    · cases h_confirmed
    · cases h_confirmed
    · -- an expired override was integrated, with both fields there
      obtain ⟨h_capacity, h_last⟩ := Bool.and_eq_true_iff.mp h_confirmed
      exact ⟨h_capacity, h_last, le_refl _⟩

/-- A load that confirms a state leaves it stored for the whole TTL. -/
theorem loadRow_confirmed (h_ok : loadRow spec ttl suspected writable row currentTime = .ok loaded)
    (h_confirmed : loaded.confirmed = true) :
    loaded.row.Stored ∧ currentTime + ttl ≤ loaded.row.expiresAt := by
  obtain ⟨reading, h_read, h_finish⟩ := loadRow_ok h_ok
  obtain ⟨_, _, _, _, _, h_flag, _, _, _⟩ := finishRow_ok h_finish
  have h_paired := recoverLost_paired ttl suspected currentTime reading
  have h_recovered := @recovered_confirmed _ _ suspected _ _ _ h_read
  have h_last : (recoverLost ttl suspected currentTime reading).lastChecked.isSome = true := by
    rw [h_confirmed] at h_flag
    unfold repairFuture at h_flag
    split at h_flag
    · rename_i h_future
      obtain ⟨last, h_last, _⟩ := (Option.any_eq_true _ _).mp h_future
      rw [h_last]
      rfl
    · exact (h_recovered h_flag.symm).2.1
  apply finishRow_stored h_finish (recoverLost_fields (readRow_fields h_read))
    (h_paired.trans h_last) h_last (le_refl _)
  intro h_same
  rw [← h_flag, h_confirmed] at h_same
  exact (h_recovered h_same.symm).2.2

/-! ### What a load finds -/

/-- Where a load misses a state, the bucket is new. -/
def BucketState.MissesNew (state : BucketState) : Prop :=
  ∀ event, state.missingStateEvent = some event →
    event.reason = .freshStart ∧ state.isFreshStart = true

/-- The state of a drained bucket. -/
def BucketState.Drained (state : BucketState) : Prop :=
  state.capacity = 0 ∧ state.isFreshStart = false

/-- Nothing is missing of a whole state. -/
theorem missingStateEvent_whole {capacity lastChecked : Option ℚ}
    (h_capacity : capacity.isSome = true) (h_last : lastChecked.isSome = true) :
    missingStateEvent capacity lastChecked suspected = none := by
  unfold missingStateEvent missingFields
  rw [Option.isNone_eq_false_iff.mpr h_capacity, Option.isNone_eq_false_iff.mpr h_last]
  rfl

/-- A load misses a whole state only where its row has expired. -/
theorem loadRow_missing {r : BucketRow} (h_stored : r.Stored)
    (h_ok : loadRow spec ttl suspected writable (some r) currentTime = .ok loaded)
    (h_missing : loaded.state.missingStateEvent.isSome = true) : r.expiresAt ≤ currentTime := by
  by_contra h_alive
  have h_lt := not_le.mp h_alive
  obtain ⟨reading, h_read, h_finish⟩ := loadRow_ok h_ok
  have h_whole : reading.capacity.isSome = true ∧ reading.lastChecked.isSome = true := by
    obtain ⟨h_absent, _⟩ | ⟨r, h_row, _, _, _, rfl, _⟩ | ⟨r, h_row, _, _, _, _, h_integrate, rfl⟩ :=
      readRow_cases h_read
    · exact absurd (.inl h_lt) (h_absent r rfl)
    · cases h_row
      rw [BucketRow.found_of_lt h_lt]
      exact h_stored
    · -- an integration starts from a state and ends in one
      cases h_row
      obtain ⟨h_capacity, h_last⟩ := integrateExpiredOverride_isSome h_integrate
      exact ⟨h_capacity.trans h_stored.1, h_last.trans h_stored.2⟩
  obtain ⟨_, _, _, _, h_state, _, _, _, _⟩ := finishRow_ok h_finish
  rw [h_state, missingStateEvent_whole h_whole.1 h_whole.2] at h_missing
  cases h_missing

theorem missingStateEvent_kept {capacity lastChecked : Option ℚ} {event : MissingStateEvent}
    (h_kept : stateLost capacity lastChecked suspected = false)
    (h_event : missingStateEvent capacity lastChecked suspected = some event) :
    event.reason = .freshStart ∧ isFreshStart lastChecked capacity = true := by
  unfold missingStateEvent at h_event
  split at h_event
  · cases h_event
  · rename_i h_missing
    cases h_event
    dsimp only
    rw [h_kept]
    refine ⟨rfl, ?_⟩
    have h_paired := (stateLost_eq_false_iff.mp h_kept).1
    cases capacity <;> cases lastChecked <;> simp_all [missingFields, isFreshStart]

theorem loadRow_kept (h_read : readRow spec ttl row currentTime = .ok reading)
    (h_kept : stateLost reading.capacity reading.lastChecked suspected = false)
    (h_ok : loadRow spec ttl suspected writable row currentTime = .ok loaded) :
    loaded.state.MissesNew := by
  intro event h_event
  obtain ⟨reading', h_read', h_finish⟩ := loadRow_ok h_ok
  rw [h_read] at h_read'
  cases h_read'
  rw [recoverLost_of_kept ttl suspected currentTime reading h_kept] at h_finish
  obtain ⟨_, _, _, h_refill, h_state, _, _, _, _⟩ := finishRow_ok h_finish
  obtain ⟨_, rfl⟩ := refillCapacity_ok h_refill
  rw [h_state] at h_event ⊢
  exact missingStateEvent_kept h_kept h_event

theorem readRow_paired (h_paired : PairedRow row)
    (h_read : readRow spec ttl row currentTime = .ok reading) :
    reading.capacity.isSome = reading.lastChecked.isSome := by
  have h_found : ∀ r, row = some r →
      (r.found currentTime).capacity.isSome = (r.found currentTime).lastChecked.isSome := by
    intro r h_row
    unfold BucketRow.found
    split
    · rfl
    · exact h_paired r h_row
  obtain ⟨_, rfl⟩ | ⟨r, h_row, _, _, _, rfl, _⟩ | ⟨r, h_row, _, _, _, _, h_integrate, rfl⟩ :=
    readRow_cases h_read
  · rfl
  · exact h_found r h_row
  · obtain ⟨h_capacity, h_last⟩ := integrateExpiredOverride_isSome h_integrate
    exact h_capacity.trans ((h_paired r h_row).trans h_last.symm)

/-- Nothing is lost of a whole state that lasts as long as its confirmation. -/
theorem readRow_kept (h_paired : PairedRow row)
    (h_backs : suspected = true → ∃ confirmedUntil, currentTime < confirmedUntil ∧
      confirmedUntil ≤ currentTime + ttl ∧ Backs currentTime confirmedUntil row)
    (h_read : readRow spec ttl row currentTime = .ok reading) :
    stateLost reading.capacity reading.lastChecked suspected = false := by
  rw [stateLost_eq_false_iff]
  refine ⟨readRow_paired h_paired h_read, fun h_suspected => ?_⟩
  obtain ⟨confirmedUntil, h_lasts, h_until, h_backs⟩ := h_backs h_suspected
  obtain h_past | ⟨h_capacity, _⟩ := readRow_backs h_backs h_until h_read
  · exact absurd h_past (not_le.mpr h_lasts)
  · exact h_capacity

theorem integrateExpiredOverride_unstored {r : BucketRow} (h_unstored : ¬ r.Stored) :
    integrateExpiredOverride spec r r.capacity r.lastChecked currentTime =
      .ok (r.capacity, r.lastChecked) := by
  unfold integrateExpiredOverride
  split
  · rename_i h_capacity h_last
    have h_stored : r.Stored := ⟨by rw [h_capacity]; rfl, by rw [h_last]; rfl⟩
    exact absurd h_stored h_unstored
  · rfl

/-- A row without a whole state can be read, since its override is a limit. -/
theorem readRow_unstored (h_valid : ValidRow row)
    (h_unstored : ∀ r, row = some r → ¬ r.Stored) :
    ∃ reading, readRow spec ttl row currentTime = .ok reading := by
  unfold readRow
  split
  · exact ⟨_, rfl⟩
  · rename_i r h_filter
    obtain ⟨h_row, _⟩ := Option.filter_eq_some_iff.mp h_filter
    have h_found : ¬ (r.found currentTime).Stored := by
      intro h_stored
      unfold BucketRow.found at h_stored
      split at h_stored
      · cases h_stored.1
      · exact h_unstored r h_row h_stored
    have h_override : (r.found currentTime).overrideValue = r.overrideValue := by
      unfold BucketRow.found
      split <;> rfl
    have h_state : (if r.expiresAt ≤ currentTime then r.withoutState else r) =
        r.found currentTime := rfl
    dsimp only
    rw [h_state]
    split
    · rename_i value h_active
      have h_value := (BucketRow.live_of_activeOverride h_active).2.1
      rw [h_override] at h_value
      obtain ⟨maxCapacity, rfl⟩ := h_valid r h_row value h_value
      have h_max : validateMaxCapacityFinitePositive maxCapacity.value = .ok maxCapacity := by
        unfold validateMaxCapacityFinitePositive
        rw [dif_pos maxCapacity.min_le]
      rw [h_max]
      exact ⟨_, rfl⟩
    · rw [integrateExpiredOverride_unstored h_found]
      simp only [bind, Except.bind]
      split
      · exact ⟨_, rfl⟩
      · exact ⟨_, rfl⟩

/-- A lost state is worth nothing. -/
theorem loadRow_lost (h_time : 0 ≤ currentTime)
    (h_read : readRow spec ttl row currentTime = .ok reading)
    (h_lost : stateLost reading.capacity reading.lastChecked suspected = true) :
    ∃ loaded, loadRow spec ttl suspected writable row currentTime = .ok loaded ∧
      loaded.state.Drained := by
  unfold loadRow
  rw [h_read]
  show ∃ loaded, finishRow _ _ _ _ _ _ = .ok loaded ∧ _
  rw [recoverLost_of_lost ttl suspected currentTime reading h_lost]
  unfold finishRow
  dsimp only
  have h_nothing : min reading.maxCapacity.value (0 + max 0 (currentTime - currentTime) *
      calculateRatePerSec reading.maxCapacity spec.id) = 0 := by
    rw [sub_self, max_self, zero_mul, zero_add]
    exact min_eq_right reading.maxCapacity.pos.le
  rw [refillCapacity_some reading.maxCapacity h_time, h_nothing]
  have h_noDebt : ¬ (writable = true ∧ (0 : ℚ) < 0) := fun h_debt => lt_irrefl _ h_debt.2
  simp only [bind, Except.bind, if_neg h_noDebt]
  exact ⟨_, rfl, rfl, rfl⟩

/-- A row that is gone, or has no state, is taken for lost where it is suspected. -/
theorem loadRow_vanished (h_time : 0 ≤ currentTime) (h_valid : ValidRow row)
    (h_gone : ∀ r, row = some r → r.Stateless) (h_suspected : suspected = true) :
    ∃ loaded, loadRow spec ttl suspected writable row currentTime = .ok loaded ∧
      loaded.state.Drained := by
  have h_unstored : ∀ r, row = some r → ¬ r.Stored := by
    intro r h_row h_stored
    have h_capacity := h_stored.1
    rw [(h_gone r h_row).1] at h_capacity
    cases h_capacity
  obtain ⟨reading, h_read⟩ := @readRow_unstored spec ttl row currentTime h_valid h_unstored
  have h_none : reading.capacity = none ∧ reading.lastChecked = none := by
    obtain ⟨_, rfl⟩ | ⟨r, h_row, _, _, _, rfl, _⟩ | ⟨r, h_row, _, _, _, _, h_integrate, rfl⟩ :=
      readRow_cases h_read
    · exact ⟨rfl, rfl⟩
    · show (r.found currentTime).capacity = none ∧ (r.found currentTime).lastChecked = none
      unfold BucketRow.found
      split
      · exact ⟨rfl, rfl⟩
      · exact h_gone r h_row
    · rw [integrateExpiredOverride_unstored (h_unstored r h_row)] at h_integrate
      cases h_integrate
      exact h_gone r h_row
  apply loadRow_lost h_time h_read
  rw [h_none.1, h_none.2, h_suspected]
  rfl

/-- Half a state that has not expired is taken for lost by everyone. -/
theorem loadRow_half {r : BucketRow} (h_time : 0 ≤ currentTime) (h_valid : r.ValidOverride)
    (h_half : ¬ r.Paired) (h_lt : currentTime < r.expiresAt) :
    ∃ loaded, loadRow spec ttl suspected writable (some r) currentTime = .ok loaded ∧
      loaded.state.Drained := by
  have h_unstored : ¬ r.Stored := by
    rintro ⟨h_capacity, h_last⟩
    exact h_half (h_capacity.trans h_last.symm)
  have h_validRow : ValidRow (some r) := by
    intro r' h_row
    cases h_row
    exact h_valid
  obtain ⟨reading, h_read⟩ := @readRow_unstored spec ttl (some r) currentTime h_validRow (by
    intro r' h_row
    cases h_row
    exact h_unstored)
  have h_fields : reading.capacity = r.capacity ∧ reading.lastChecked = r.lastChecked := by
    obtain ⟨h_absent, _⟩ | ⟨_, h_row, _, _, _, rfl, _⟩ | ⟨_, h_row, _, _, _, _, h_integrate, rfl⟩ :=
      readRow_cases h_read
    · exact absurd (.inl h_lt) (h_absent r rfl)
    · cases h_row
      rw [BucketRow.found_of_lt h_lt]
      exact ⟨rfl, rfl⟩
    · cases h_row
      rw [integrateExpiredOverride_unstored h_unstored] at h_integrate
      cases h_integrate
      exact ⟨rfl, rfl⟩
  apply loadRow_lost h_time h_read
  by_contra h_kept
  rw [Bool.not_eq_true, stateLost_eq_false_iff, h_fields.1, h_fields.2] at h_kept
  exact h_half h_kept.1

/-- A load that confirms nothing leaves the state it found, or none. -/
theorem loadRow_unconfirmed
    (h_ok : loadRow spec ttl suspected writable row currentTime = .ok loaded)
    (h_confirmed : loaded.confirmed = false) (h_stored : loaded.row.Stored) :
    ∃ r, row = some r ∧ loaded.row.capacity = r.capacity ∧
      loaded.row.lastChecked = r.lastChecked := by
  obtain ⟨reading, h_read, h_finish⟩ := loadRow_ok h_ok
  obtain ⟨_, _, _, _, _, h_flag, h_row, _, _⟩ := finishRow_ok h_finish
  have h_flag : (repairFuture ttl currentTime
      (recoverLost ttl suspected currentTime reading)).2 = false := h_flag.symm.trans h_confirmed
  have h_repair : repairFuture ttl currentTime (recoverLost ttl suspected currentTime reading) =
      ((recoverLost ttl suspected currentTime reading).row,
        (recoverLost ttl suspected currentTime reading).confirmed) := by
    unfold repairFuture at h_flag ⊢
    split at h_flag
    · cases h_flag
    · rename_i h_near
      rw [if_neg h_near]
  rw [h_repair] at h_flag h_row
  have h_kept : stateLost reading.capacity reading.lastChecked suspected = false := by
    by_contra h_lost
    rw [Bool.not_eq_false] at h_lost
    rw [recoverLost_of_lost ttl suspected currentTime reading h_lost] at h_flag
    cases h_flag
  rw [recoverLost_of_kept ttl suspected currentTime reading h_kept] at h_flag h_row
  rw [h_row] at h_stored ⊢
  have h_stored : reading.row.Stored := h_stored
  obtain ⟨_, rfl⟩ | ⟨r, h_some, _, _, _, rfl, _⟩ | ⟨_, _, _, _, _, _, _, rfl⟩ :=
    readRow_cases h_read
  · cases h_stored.1
  · refine ⟨r, h_some, ?_⟩
    show (r.found currentTime).capacity = _ ∧ (r.found currentTime).lastChecked = _
    have h_stored : (r.found currentTime).Stored := h_stored
    unfold BucketRow.found at h_stored ⊢
    split at h_stored
    · cases h_stored.1
    · rename_i h_alive
      rw [if_neg h_alive]
      exact ⟨rfl, rfl⟩
  · have h_both := Bool.and_eq_true_iff.mpr h_stored
    exact absurd h_both (Bool.eq_false_iff.mp h_flag)

theorem loadRow_valid (h_valid : ValidRow row)
    (h_ok : loadRow spec ttl suspected writable row currentTime = .ok loaded) :
    loaded.row.ValidOverride := by
  obtain ⟨reading, h_read, h_finish⟩ := loadRow_ok h_ok
  obtain ⟨_, _, _, _, _, _, h_row, _, _⟩ := finishRow_ok h_finish
  have h_repaired : loaded.row.overrideValue = reading.row.overrideValue := by
    rw [h_row]
    unfold repairFuture recoverLost
    split <;> split <;> rfl
  have h_reading : reading.row.ValidOverride := by
    obtain ⟨_, rfl⟩ | ⟨r, h_some, _, _, _, rfl, _⟩ | ⟨_, _, _, _, _, _, _, rfl⟩ :=
      readRow_cases h_read
    · intro value h_value
      cases h_value
    · intro value h_value
      have h_found : (r.found currentTime).overrideValue = r.overrideValue := by
        unfold BucketRow.found
        split <;> rfl
      exact h_valid r h_some value (h_found ▸ h_value)
    · intro value h_value
      cases h_value
  intro value h_value
  rw [h_repaired] at h_value
  exact h_reading value h_value

end Load

/-! ### A transaction -/

section Transaction

variable {e : SqliteEngine} {currentTime confirmedUntil : ℚ} {id : BucketId} {v v' : RowView}

/-- What a transaction confirms of a bucket is stored for the whole TTL. -/
def RowView.Confirms (v : RowView) (ttl : ℕ) (currentTime : ℚ) : Prop :=
  ∀ confirmedAt, v.confirmedAt = some confirmedAt →
    confirmedAt = currentTime ∧ Backs currentTime (currentTime + ttl) v.row

/-- A stored state that the transaction has not confirmed is the one it started from. -/
def RowView.Unwritten (v : RowView) (before : Option BucketRow) : Prop :=
  v.confirmedAt = none → ∀ row, v.row = some row → row.Stored →
    ∃ r, before = some r ∧ row.capacity = r.capacity ∧ row.lastChecked = r.lastChecked

theorem RowStep.backs (h_step : RowStep e currentTime id v v')
    (h_until : confirmedUntil ≤ currentTime + e.bucketTtlSeconds)
    (h_backs : Backs currentTime confirmedUntil v.row) :
    Backs currentTime confirmedUntil v'.row := by
  cases h_step with
  | pruned h_expired _ =>
    obtain h_past | ⟨r, h_row, _, h_lasts⟩ := h_backs
    · exact .inl h_past
    · cases h_row
      exact .inl (h_lasts.trans h_expired)
  | inserted =>
    obtain h_past | ⟨r, h_row, _⟩ := h_backs
    · exact .inl h_past
    · cases h_row
  | loaded _ h_load => exact loadRow_backs h_backs h_until h_load
  | written _ _ h_write =>
    obtain ⟨retention, h_retention, rfl⟩ := SqliteEngine.writeRow_ok h_write
    right
    refine ⟨_, rfl, ⟨rfl, rfl⟩, h_until.trans ?_⟩
    exact add_le_add_right (debtTtlSeconds_ge h_retention) currentTime

theorem RowStep.confirms (h_step : RowStep e currentTime id v v')
    (h_confirms : v.Confirms e.bucketTtlSeconds currentTime) :
    v'.Confirms e.bucketTtlSeconds currentTime := by
  intro confirmedAt h_confirmedAt
  have h_before : v.confirmedAt = some confirmedAt → confirmedAt = currentTime ∧
      Backs currentTime (currentTime + e.bucketTtlSeconds) v'.row := by
    intro h_same
    obtain ⟨h_now, h_backs⟩ := h_confirms confirmedAt h_same
    exact ⟨h_now, h_step.backs (le_refl _) h_backs⟩
  cases h_step with
  | pruned => exact h_before h_confirmedAt
  | inserted => exact h_before h_confirmedAt
  | @loaded row loaded _ _ h_load =>
    cases h_confirmed : loaded.confirmed with
    | true =>
      obtain ⟨h_stored, h_lasts⟩ := loadRow_confirmed h_load h_confirmed
      simp only [h_confirmed, if_true, Option.some.injEq] at h_confirmedAt
      exact ⟨h_confirmedAt.symm, .inr ⟨loaded.row, rfl, h_stored, h_lasts⟩⟩
    | false =>
      simp only [h_confirmed, Bool.false_eq_true, if_false] at h_confirmedAt
      exact h_before h_confirmedAt
  | written _ _ h_write =>
    obtain ⟨retention, h_retention, rfl⟩ := SqliteEngine.writeRow_ok h_write
    have h_lasts := add_le_add_right (debtTtlSeconds_ge h_retention) currentTime
    cases h_confirmedAt
    exact ⟨rfl, .inr ⟨_, rfl, ⟨rfl, rfl⟩, h_lasts⟩⟩

theorem RowStep.unwritten {before : Option BucketRow}
    (h_step : RowStep e currentTime id v v') (h_unwritten : v.Unwritten before) :
    v'.Unwritten before := by
  intro h_none row h_row h_stored
  cases h_step with
  | pruned => cases h_row
  | inserted =>
    cases h_row
    cases h_stored.1
  | @loaded _ loaded _ _ h_load =>
    cases h_row
    cases h_confirmed : loaded.confirmed with
    | true => simp [h_confirmed] at h_none
    | false =>
      simp only [h_confirmed, Bool.false_eq_true, if_false] at h_none
      obtain ⟨r, h_some, h_capacity, h_last⟩ := loadRow_unconfirmed h_load h_confirmed h_stored
      have h_whole : r.Stored := ⟨h_capacity ▸ h_stored.1, h_last ▸ h_stored.2⟩
      obtain ⟨r₀, h_before, h_capacity₀, h_last₀⟩ := h_unwritten h_none r h_some h_whole
      exact ⟨r₀, h_before, h_capacity.trans h_capacity₀, h_last.trans h_last₀⟩
  | written => cases h_none

theorem RowStep.paired (h_step : RowStep e currentTime id v v') (h_paired : PairedRow v.row) :
    PairedRow v'.row := by
  intro row h_row
  cases h_step with
  | pruned => cases h_row
  | inserted =>
    cases h_row
    rfl
  | loaded _ h_load =>
    cases h_row
    exact (loadRow_sound h_load).paired
  | written _ _ h_write =>
    obtain ⟨_, _, rfl⟩ := SqliteEngine.writeRow_ok h_write
    cases h_row
    rfl

theorem RowStep.valid (h_step : RowStep e currentTime id v v') (h_valid : ValidRow v.row) :
    ValidRow v'.row := by
  intro row h_row
  cases h_step with
  | pruned => cases h_row
  | inserted =>
    cases h_row
    intro value h_value
    cases h_value
  | loaded _ h_load =>
    cases h_row
    exact loadRow_valid h_valid h_load
  | @written before _ _ _ _ _ h_write =>
    obtain ⟨_, _, rfl⟩ := SqliteEngine.writeRow_ok h_write
    cases h_row
    exact h_valid before rfl

/-- What every step of a row keeps, a path of it keeps. -/
theorem RowPath.keeps {kept : RowView → Prop}
    (h_keeps : ∀ v v', RowStep e currentTime id v v' → kept v → kept v')
    (h_path : RowPath e currentTime id v v') (h_kept : kept v) : kept v' := by
  induction h_path with
  | refl => exact h_kept
  | tail _ h_step ih => exact h_keeps _ _ h_step ih

/-- The end of a change of limit keeps the state, for the whole TTL at least. -/
theorem Limited.keeps {maximum : ℚ} (h_limited : Limited e currentTime id v maximum v') :
    v'.confirmedAt = v.confirmedAt ∧ ∃ r r', v.row = some r ∧ v'.row = some r' ∧
      r'.capacity = r.capacity ∧ r'.lastChecked = r.lastChecked ∧
      currentTime + e.bucketTtlSeconds ≤ r'.expiresAt ∧
      (r'.overrideValue = none ∨ ∃ maxCapacity : MaxCapacity,
        r'.overrideValue = some maxCapacity.value) := by
  cases h_limited with
  | overridden _ _ h_retention =>
    exact ⟨rfl, _, _, rfl, rfl, rfl, rfl,
      add_le_add_right (debtTtlSeconds_ge h_retention) currentTime, .inr ⟨_, rfl⟩⟩
  | cleared _ _ h_retention =>
    exact ⟨rfl, _, _, rfl, rfl, rfl, rfl,
      add_le_add_right (debtTtlSeconds_ge h_retention) currentTime, .inl rfl⟩

theorem Limited.mem {maximum : ℚ} (h_limited : Limited e currentTime id v maximum v') :
    id ∈ e.buckets := by
  cases h_limited with
  | overridden h_mem => exact h_mem
  | cleared h_mem => exact h_mem

theorem Limited.backs {maximum : ℚ} (h_limited : Limited e currentTime id v maximum v')
    (h_until : confirmedUntil ≤ currentTime + e.bucketTtlSeconds)
    (h_backs : Backs currentTime confirmedUntil v.row) :
    Backs currentTime confirmedUntil v'.row := by
  obtain ⟨_, r, r', h_row, h_row', h_capacity, h_last, h_lasts, _⟩ := h_limited.keeps
  obtain h_past | ⟨r₀, h_row₀, h_stored, _⟩ := h_backs
  · exact .inl h_past
  · rw [h_row] at h_row₀
    cases h_row₀
    have h_stored' : r'.Stored := ⟨h_capacity ▸ h_stored.1, h_last ▸ h_stored.2⟩
    exact .inr ⟨r', h_row', h_stored', h_until.trans h_lasts⟩

theorem Limited.confirms {maximum : ℚ} (h_limited : Limited e currentTime id v maximum v')
    (h_confirms : v.Confirms e.bucketTtlSeconds currentTime) :
    v'.Confirms e.bucketTtlSeconds currentTime := by
  intro confirmedAt h_confirmedAt
  rw [h_limited.keeps.1] at h_confirmedAt
  obtain ⟨h_now, h_backs⟩ := h_confirms confirmedAt h_confirmedAt
  exact ⟨h_now, h_limited.backs (le_refl _) h_backs⟩

theorem Limited.unwritten {maximum : ℚ} {before : Option BucketRow}
    (h_limited : Limited e currentTime id v maximum v') (h_unwritten : v.Unwritten before) :
    v'.Unwritten before := by
  intro h_none row h_row h_stored
  obtain ⟨h_confirmedAt, r, r', h_some, h_some', h_capacity, h_last, _⟩ := h_limited.keeps
  rw [h_row] at h_some'
  cases h_some'
  rw [h_confirmedAt] at h_none
  have h_whole : r.Stored := ⟨h_capacity ▸ h_stored.1, h_last ▸ h_stored.2⟩
  obtain ⟨r₀, h_before, h_capacity₀, h_last₀⟩ := h_unwritten h_none r h_some h_whole
  exact ⟨r₀, h_before, h_capacity.trans h_capacity₀, h_last.trans h_last₀⟩

theorem Limited.paired {maximum : ℚ} (h_limited : Limited e currentTime id v maximum v')
    (h_paired : PairedRow v.row) : PairedRow v'.row := by
  intro row h_row
  obtain ⟨_, r, r', h_some, h_some', h_capacity, h_last, _⟩ := h_limited.keeps
  rw [h_row] at h_some'
  cases h_some'
  unfold BucketRow.Paired
  rw [h_capacity, h_last]
  exact h_paired r h_some

theorem Limited.valid {maximum : ℚ} (h_limited : Limited e currentTime id v maximum v') :
    ValidRow v'.row := by
  intro row h_row value h_value
  obtain ⟨_, _, r', _, h_some', _, _, _, h_override⟩ := h_limited.keeps
  rw [h_row] at h_some'
  cases h_some'
  obtain h_none | ⟨maxCapacity, h_some⟩ := h_override
  · rw [h_none] at h_value
    cases h_value
  · rw [h_some] at h_value
    cases h_value
    exact ⟨maxCapacity, rfl⟩

/-- What the steps of a row and a change of its limit keep, a committed call keeps. -/
theorem Rewrites.keeps {kept : RowView → Prop} {relimits : Bool} {limit : ℚ}
    (h_keeps : ∀ v v', RowStep e currentTime id v v' → kept v → kept v')
    (h_limits : ∀ v maximum v', Limited e currentTime id v maximum v' → kept v → kept v')
    (h_rewrites : Rewrites e currentTime id relimits v limit v') (h_kept : kept v) : kept v' := by
  cases h_rewrites with
  | kept _ h_path => exact h_path.keeps h_keeps h_kept
  | limited h_path h_limited => exact h_limits _ _ _ h_limited (h_path.keeps h_keeps h_kept)

section Rewrites

variable {relimits : Bool} {limit : ℚ} {row : Option BucketRow}

theorem Rewrites.backs (h_rewrites : Rewrites e currentTime id relimits v limit v')
    (h_until : confirmedUntil ≤ currentTime + e.bucketTtlSeconds)
    (h_backs : Backs currentTime confirmedUntil v.row) :
    Backs currentTime confirmedUntil v'.row :=
  @Rewrites.keeps _ _ _ _ _ (fun v => Backs currentTime confirmedUntil v.row) _ _
    (fun _ _ h_step => h_step.backs h_until) (fun _ _ _ h_limited => h_limited.backs h_until)
    h_rewrites h_backs

theorem Rewrites.paired (h_rewrites : Rewrites e currentTime id relimits v limit v')
    (h_paired : PairedRow v.row) : PairedRow v'.row :=
  @Rewrites.keeps _ _ _ _ _ (fun v => PairedRow v.row) _ _ (fun _ _ h_step => h_step.paired)
    (fun _ _ _ h_limited => h_limited.paired) h_rewrites h_paired

theorem Rewrites.valid (h_rewrites : Rewrites e currentTime id relimits v limit v')
    (h_valid : ValidRow v.row) : ValidRow v'.row :=
  @Rewrites.keeps _ _ _ _ _ (fun v => ValidRow v.row) _ _ (fun _ _ h_step => h_step.valid)
    (fun _ _ _ h_limited _ => h_limited.valid) h_rewrites h_valid

/-- A committed call confirms every state that it has written, for the whole TTL. -/
theorem Rewrites.confirms
    (h_rewrites : Rewrites e currentTime id relimits ⟨row, none⟩ limit v') :
    v'.Confirms e.bucketTtlSeconds currentTime ∧ v'.Unwritten row := by
  have h_confirms : RowView.Confirms ⟨row, none⟩ e.bucketTtlSeconds currentTime := by
    intro confirmedAt h_confirmedAt
    cases h_confirmedAt
  have h_unwritten : RowView.Unwritten ⟨row, none⟩ row :=
    fun _ r h_row _ => ⟨r, h_row, rfl, rfl⟩
  constructor
  · exact h_rewrites.keeps (fun _ _ h_step => h_step.confirms)
      (fun _ _ _ h_limited => h_limited.confirms) h_confirms
  · exact h_rewrites.keeps (fun _ _ h_step => h_step.unwritten)
      (fun _ _ _ h_limited => h_limited.unwritten) h_unwritten

end Rewrites

end Transaction

end TokenThrottle
