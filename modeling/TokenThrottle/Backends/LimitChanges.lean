/-
  TokenThrottle.Backends.LimitChanges

  A sequence of changes of one bucket's maximum, in each of the three backends.

  * A change anchors the stored pair, uncapped, at the rate in force so far; a read caps
    once, at the maximum in force then.  `Run.accrues` turns this into the integral.
  * The anchoring differs: `MemoryBucket` in place, SQLite by rewriting a loaded row,
    Redis by a snapshot under the locks; each has one step lemma.
-/
import TokenThrottle.Memory.Backend
import TokenThrottle.Redis.Footprint
import TokenThrottle.Sqlite.Backend
import TokenThrottle.Sqlite.CallRows
import TokenThrottle.Theory.Accrual

namespace TokenThrottle

open Theory (Body Program Run)
open Theory.Accrual
open Theory.Program

/-! ## Changes -/

inductive LimitMethod
  | setMaxCapacity
  | applyConfiguredMaxCapacity
deriving DecidableEq

/-- A change of a bucket's maximum. -/
structure LimitChange where
  method : LimitMethod
  value : MaxCapacity
  currentTime : ℚ

namespace LimitChange

def request (change : LimitChange) (id : BucketId) : Request :=
  match change.method with
  | .setMaxCapacity => .setMaxCapacity id change.value.value
  | .applyConfiguredMaxCapacity => .applyConfiguredMaxCapacity id change.value.value

def change (change : LimitChange) : Change ℚ MaxCapacity := ⟨change.currentTime, change.value⟩

end LimitChange

/-- What a bucket stores: the capacity as of the last write, and the maximum since. -/
abbrev StoredCapacity := Stored ℚ MaxCapacity

/-- The rate of a bucket under a maximum. -/
def BucketId.rate (id : BucketId) (maximum : MaxCapacity) : ℚ := maximum.value / id.window

/-- The capacity at a time after the changes: the sum over the maxima of rate times
    duration, capped at the last one. -/
def capacityAfter (id : BucketId) (stored : StoredCapacity) (changes : List LimitChange)
    (currentTime : ℚ) : ℚ :=
  min (lastValue stored.value (changes.map LimitChange.change)).value
    (stored.amount + total id.rate
      (spans stored.value stored.instant (changes.map LimitChange.change) currentTime))

section Changes

variable {σ : Type} {step : σ → LimitChange → σ → Prop} {id : BucketId} {s s' : σ}
  {stored : StoredCapacity} {changes : List LimitChange} {now : ℚ}

/-- The rule for a backend: what its state holds after the changes reads as the integral. -/
theorem capacityAfter_of_run (holds : σ → StoredCapacity → Prop)
    (h_step : ∀ s stored change s', holds s stored → stored.instant ≤ change.currentTime →
      step s change s' →
      holds s' (stored.changed id.rate change.change))
    (h_holds : holds s stored)
    (h_ordered : Ordered stored.instant (changes.map LimitChange.change) now)
    (h_run : Run step s changes s') :
    ∃ stored', holds s' stored' ∧ stored'.instant ≤ now ∧
      min stored'.value.value (stored'.upTo id.rate now) =
        capacityAfter id stored changes now := by
  obtain ⟨stored', h_holds', h_instant, h_value, h_amount⟩ :=
    @Run.accrues _ _ _ _ _ _ step holds id.rate _ _ _ _ _ _ h_step h_holds h_ordered h_run
  refine ⟨stored', h_holds', h_instant, ?_⟩
  unfold capacityAfter
  rw [h_amount, h_value]

end Changes

/-- What the backends compute from a stored pair, as the rate times the time since. -/
theorem accrued_eq {stored : StoredCapacity} {now : ℚ} (id : BucketId)
    (h_past : stored.instant ≤ now) :
    stored.amount + max 0 (now - stored.instant) * calculateRatePerSec stored.value id =
      stored.upTo id.rate now := by
  rw [max_eq_right (sub_nonneg.mpr h_past), mul_comm]
  rfl

/-! ## Memory -/

namespace MemoryBackend

variable {id : BucketId} {s s' : MemoryBackend} {stored : StoredCapacity} {now : ℚ}

structure HoldsCapacity (s : MemoryBackend) (id : BucketId) (stored : StoredCapacity) : Prop where
  capacity : (s.bucket id).capacity = some stored.amount
  lastChecked : (s.bucket id).lastChecked = some stored.instant
  maxCapacity : (s.bucket id).maxCapacity = stored.value

/-- A change of limit that went through. -/
def ChangesLimit (id : BucketId) (s : MemoryBackend) (change : LimitChange)
    (s' : MemoryBackend) : Prop :=
  s.handle (change.request id) change.currentTime = .ok (.done, s')

theorem setMaxCapacity_anchors {value : MaxCapacity} {currentTime : ℚ} {outcome : Outcome}
    (h_holds : s.HoldsCapacity id stored) (h_past : stored.instant ≤ currentTime)
    (h_ok : s.setMaxCapacity id value.value currentTime = .ok (outcome, s')) :
    s'.HoldsCapacity id ⟨stored.upTo id.rate currentTime, currentTime, value⟩ := by
  unfold setMaxCapacity at h_ok
  split at h_ok
  · cases h_ok
  · obtain ⟨bucket, h_bucket, h_ok⟩ := bind_eq_ok h_ok
    cases h_ok
    unfold MemoryBucket.setMaxCapacity at h_bucket
    obtain ⟨value', h_value, h_bucket⟩ := bind_eq_ok h_bucket
    have h_same : value' = value := MaxCapacity.eq_of_value (validateMaxCapacity_ok h_value)
    rw [h_holds.lastChecked, h_holds.capacity] at h_bucket
    cases h_bucket
    subst h_same
    have h_accrued := accrued_eq id h_past
    unfold MemoryBucket.ratePerSec
    rw [h_holds.maxCapacity, h_accrued]
    constructor <;> simp

theorem ChangesLimit.anchors {change : LimitChange} (h_holds : s.HoldsCapacity id stored)
    (h_past : stored.instant ≤ change.currentTime) (h_change : s.ChangesLimit id change s') :
    s'.HoldsCapacity id (stored.changed id.rate change.change) := by
  unfold ChangesLimit LimitChange.request at h_change
  cases h_method : change.method with
  | setMaxCapacity =>
    rw [h_method] at h_change
    exact setMaxCapacity_anchors h_holds h_past h_change
  | applyConfiguredMaxCapacity =>
    rw [h_method] at h_change
    obtain ⟨⟨outcome, s₁⟩, h_set, h_ok⟩ := bind_eq_ok h_change
    have h_anchored := setMaxCapacity_anchors h_holds h_past h_set
    cases h_ok
    exact ⟨h_anchored.capacity, h_anchored.lastChecked, h_anchored.maxCapacity⟩

theorem HoldsCapacity.getCapacity (h_holds : s.HoldsCapacity id stored) (h_time : 0 ≤ now)
    (h_past : stored.instant ≤ now) :
    (s.bucket id).getCapacity now =
      .ok ⟨min stored.value.value (stored.upTo id.rate now), false⟩ := by
  rw [MemoryBucket.getCapacity_ok _ h_time]
  unfold MemoryBucket.capacityAt MemoryBucket.ratePerSec
  rw [h_holds.lastChecked, h_holds.capacity, h_holds.maxCapacity, refilled_some,
    accrued_eq id h_past]
  rfl

end MemoryBackend

/-! ## SQLite -/

/-- A row that holds a stored capacity, under the maximum in force while its override, if
    it has one, has not expired. -/
structure BucketRow.HoldsCapacity (row : BucketRow) (spec : BucketSpec)
    (stored : StoredCapacity) : Prop where
  capacity : row.capacity = some stored.amount
  lastChecked : row.lastChecked = some stored.instant
  maximum : ∀ currentTime, row.OverrideUnexpired currentTime →
    (row.activeOverride spec currentTime).getD spec.configuredMaxCapacity.value =
      stored.value.value

/-- Neither the row nor its override has expired. -/
structure BucketRow.Unexpired (row : BucketRow) (currentTime : ℚ) : Prop where
  state : currentTime < row.expiresAt
  override : row.OverrideUnexpired currentTime

section Row

variable {row : BucketRow} {spec : BucketSpec} {stored : StoredCapacity} {ttl : ℕ} {now : ℚ}

/-- The first stage of a load finds the stored pair under its maximum. -/
theorem readRow_holdsCapacity (ttl : ℕ) (h_holds : row.HoldsCapacity spec stored)
    (h_unexpired : row.Unexpired now) :
    ∃ reading, readRow spec ttl (some row) now = .ok reading ∧
      reading.capacity = some stored.amount ∧ reading.lastChecked = some stored.instant ∧
      reading.maxCapacity = stored.value := by
  have h_maximum := h_holds.maximum now h_unexpired.override
  have h_keep : (some row).filter (fun row : BucketRow =>
      now < row.expiresAt ∨ row.overrideLive now) = some row := by
    rw [Option.filter_some, if_pos]
    exact decide_eq_true (.inl h_unexpired.state)
  unfold readRow
  rw [h_keep]
  dsimp only
  rw [if_neg (not_le.mpr h_unexpired.state)]
  cases h_active : row.activeOverride spec now with
  | some value =>
    rw [h_active] at h_maximum
    have h_value : validateMaxCapacityFinitePositive value = .ok stored.value := by
      have h_same : value = stored.value.value := h_maximum
      unfold validateMaxCapacityFinitePositive
      rw [h_same, dif_pos stored.value.min_le]
    dsimp only
    rw [h_value]
    exact ⟨_, rfl, h_holds.capacity, h_holds.lastChecked, rfl⟩
  | none =>
    rw [h_active] at h_maximum
    have h_same : spec.configuredMaxCapacity = stored.value := MaxCapacity.eq_of_value h_maximum
    -- no override has expired, so there is none to integrate
    have h_integrate : integrateExpiredOverride spec row row.capacity row.lastChecked now =
        .ok (row.capacity, row.lastChecked) := by
      unfold integrateExpiredOverride
      split
      · rename_i expiresAt _ _ _ h_expiresAt _ _
        rw [if_neg fun h => not_lt.mpr h.2.2 (h_unexpired.override _ h_expiresAt)]
      · rfl
    dsimp only
    rw [h_integrate]
    show ∃ reading, (if ¬ row.overrideLive now = true ∧ (row.overrideValue.isSome = true ∨
      row.overrideExpiresAt.isSome = true) then Except.ok _ else Except.ok _) = _ ∧ _
    split
    · exact ⟨_, rfl, h_holds.capacity, h_holds.lastChecked, h_same⟩
    · exact ⟨_, rfl, h_holds.capacity, h_holds.lastChecked, h_same⟩

theorem time_of_refillCapacity {capacity lastChecked : Option ℚ} {maximum : MaxCapacity}
    {result : CalculatedCapacity × ℚ}
    (h_ok : refillCapacity spec capacity lastChecked now maximum = .ok result) : 0 ≤ now := by
  by_contra h_negative
  unfold refillCapacity at h_ok
  dsimp only at h_ok
  rw [calculateCapacity_negative (not_le.mp h_negative)] at h_ok
  cases h_ok

/-- What a load of a stored capacity computes. -/
theorem loadRow_holdsCapacity {suspected writable : Bool} {loaded : LoadedRow}
    (h_holds : row.HoldsCapacity spec stored) (h_unexpired : row.Unexpired now)
    (h_past : stored.instant ≤ now)
    (h_ok : loadRow spec ttl suspected writable (some row) now = .ok loaded) :
    loaded.state.capacity = min stored.value.value (stored.upTo spec.id.rate now) ∧
      loaded.state.uncappedCapacity = stored.upTo spec.id.rate now ∧
      loaded.state.isFreshStart = false := by
  obtain ⟨reading, h_read, h_capacity, h_last, h_maximum⟩ :=
    readRow_holdsCapacity ttl h_holds h_unexpired
  obtain ⟨reading', h_read', h_finish⟩ := loadRow_ok h_ok
  rw [h_read] at h_read'
  cases h_read'
  have h_kept : recoverLost ttl suspected now reading = reading := by
    refine recoverLost_of_kept ttl suspected now reading ?_
    rw [h_capacity, h_last]
    exact stateLost_eq_false_iff.mpr ⟨rfl, fun _ => rfl⟩
  rw [h_kept] at h_finish
  obtain ⟨calculated, uncapped, _, h_refill, h_state, _⟩ := finishRow_ok h_finish
  have h_time := time_of_refillCapacity h_refill
  rw [h_capacity, h_last, h_maximum, refillCapacity_some _ h_time, accrued_eq spec.id h_past] at h_refill
  cases h_refill
  rw [h_state]
  exact ⟨rfl, rfl, rfl⟩

theorem loadRow_snapshot_holdsCapacity (ttl : ℕ) (suspected : Bool)
    (h_holds : row.HoldsCapacity spec stored) (h_unexpired : row.Unexpired now)
    (h_time : 0 ≤ now) :
    ∃ loaded, loadRow spec ttl suspected false (some row) now = .ok loaded := by
  obtain ⟨reading, h_read, h_capacity, h_last, h_maximum⟩ :=
    readRow_holdsCapacity ttl h_holds h_unexpired
  have h_kept : recoverLost ttl suspected now reading = reading := by
    refine recoverLost_of_kept ttl suspected now reading ?_
    rw [h_capacity, h_last]
    exact stateLost_eq_false_iff.mpr ⟨rfl, fun _ => rfl⟩
  unfold loadRow
  rw [h_read]
  show ∃ loaded, finishRow spec ttl false now _ (recoverLost ttl suspected now reading) =
    .ok loaded
  rw [h_kept]
  unfold finishRow
  rw [h_capacity, h_last, refillCapacity_some _ h_time]
  exact ⟨_, rfl⟩

end Row

namespace SqliteEngine

variable {e e' : SqliteEngine} {input : TxnInput} {db db' : Database} {id : BucketId}
  {row : BucketRow} {stored : StoredCapacity}

/-- The engine holds a stored capacity in the row of a bucket. -/
structure HoldsRow (e : SqliteEngine) (db : Database) (id : BucketId) (row : BucketRow)
    (stored : StoredCapacity) : Prop where
  found : db.buckets (e.bucketKey id) = some row
  holds : row.HoldsCapacity (e.spec id) stored

/-- The anchoring of a bucket that stores a capacity. -/
theorem Opened.anchorsStored {s s' : TxnState} {states : BucketId → BucketState} {u : Unit}
    (h_opened : Opened e input db s states) (h_mem : id ∈ e.buckets)
    (h_holds : e.HoldsRow db id row stored) (h_unexpired : row.Unexpired input.currentTime)
    (h_past : stored.instant ≤ input.currentTime)
    (h_ok : Body.when (!(states id).isFreshStart) (e.writeCapacities
      (fun id => (states id).uncappedCapacity) input.currentTime [id]) s = .ok u s') :
    ∃ row', s'.db.buckets (e.bucketKey id) = some row' ∧
      row'.capacity = some (stored.upTo id.rate input.currentTime) ∧
      row'.lastChecked = some input.currentTime := by
  obtain ⟨loaded, h_load, _, h_state⟩ := h_opened.loaded id h_mem
  have h_pruned : input.prunedRow (e.bucketKey id) (db.buckets (e.bucketKey id)) = some row := by
    unfold TxnInput.prunedRow
    rw [h_holds.found, Option.filter_some, if_pos]
    exact decide_eq_true fun h => not_le.mpr h_unexpired.state h.1
  unfold SqliteEngine.load at h_load
  rw [h_pruned] at h_load
  obtain ⟨_, h_uncapped, h_fresh⟩ :=
    loadRow_holdsCapacity h_holds.holds h_unexpired h_past h_load
  rw [← h_state] at h_uncapped h_fresh
  rw [when_write_eq, h_fresh, if_neg Bool.false_ne_true] at h_ok
  obtain ⟨_, h_written⟩ := writeCapacities_rows (List.nodup_singleton id) h_ok
  obtain ⟨_, row', _, h_write, h_view⟩ := h_written id List.mem_cons_self
  obtain ⟨retention, _, rfl⟩ := writeRow_ok h_write
  have h_found : s'.db.buckets (e.bucketKey id) = some _ := congrArg RowView.row h_view
  exact ⟨_, h_found, congrArg some h_uncapped, rfl⟩

/-- A row with an override of this engine's is under its value until the override expires. -/
theorem holdsCapacity_overridden {spec : BucketSpec} {amount instant : ℚ} {value : MaxCapacity}
    (h_capacity : row.capacity = some amount) (h_last : row.lastChecked = some instant)
    (expiresAt : ℚ) (h_value : row.overrideValue = some value.value)
    (h_expiresAt : row.overrideExpiresAt = some expiresAt)
    (h_anchor : row.overrideConfiguredMaxCapacity = some spec.configuredMaxCapacity.value) :
    row.HoldsCapacity spec ⟨amount, instant, value⟩ := by
  refine ⟨h_capacity, h_last, fun now h_unexpired => ?_⟩
  have h_live : row.overrideLive now = true := by
    unfold BucketRow.overrideLive
    rw [h_value, h_expiresAt]
    exact decide_eq_true (h_unexpired expiresAt h_expiresAt)
  unfold BucketRow.activeOverride
  rw [h_value]
  dsimp only
  rw [if_pos ⟨h_live, by rw [h_anchor]; exact overrideAnchorMatches_self _⟩]
  rfl

theorem setMaxCapacity_anchors {value : MaxCapacity} {u : Unit}
    (h_holds : e.HoldsRow db id row stored) (h_unexpired : row.Unexpired input.currentTime)
    (h_past : stored.instant ≤ input.currentTime)
    (h_ok : e.setMaxCapacity input db id value.value = (.ok u, e', db')) :
    ∃ row', e'.HoldsRow db' id row'
      ⟨stored.upTo id.rate input.currentTime, input.currentTime, value⟩ := by
  unfold SqliteEngine.setMaxCapacity at h_ok
  split at h_ok
  · cases h_ok
  · rename_i value' h_value
    obtain rfl : value' = value := MaxCapacity.eq_of_value (validateMaxCapacity_ok h_value)
    split at h_ok
    · cases h_ok
    · rename_i h_mem
      have h_mem : id ∈ e.buckets := not_not.mp h_mem
      obtain ⟨s, h_run, rfl, rfl⟩ := transaction_commit h_ok
      obtain ⟨_, s₁, h_prune, h_run⟩ := Body.of_bind_ok h_run
      obtain ⟨states, s₂, h_load, h_run⟩ := Body.of_bind_ok h_run
      have h_opened := opened_of_runs h_prune (SameBuckets.refl s₁) h_load
      obtain ⟨retention, s₃, h_lift, h_run⟩ := Body.of_bind_ok h_run
      obtain ⟨_, h_s₃⟩ := Body.of_lift_ok h_lift
      obtain ⟨_, s₄, h_write, h_run⟩ := Body.of_bind_ok h_run
      rw [h_s₃] at h_write
      obtain ⟨row', h_row, h_capacity, h_last⟩ :=
        h_opened.anchorsStored h_mem h_holds h_unexpired h_past h_write
      obtain ⟨h_db, _⟩ := of_execute_state h_run
      refine ⟨{ row' with
        overrideValue := some value'.value
        overrideExpiresAt := some (input.currentTime + e.overrideTtlSeconds)
        overrideConfiguredMaxCapacity := some (e.configuredMaxCapacity id).value
        updatedAt := input.currentTime
        expiresAt := input.currentTime + retention }, ?_, ?_⟩
      · show s.db.buckets (e.bucketKey id) = _
        rw [h_db]
        simp only [Database.updateBucket, Function.update_self, h_row, Option.map_some]
      · exact holdsCapacity_overridden h_capacity h_last _ rfl rfl rfl

theorem applyConfiguredMaxCapacity_anchors {value : MaxCapacity} {u : Unit}
    (h_holds : e.HoldsRow db id row stored) (h_unexpired : row.Unexpired input.currentTime)
    (h_past : stored.instant ≤ input.currentTime)
    (h_ok : e.applyConfiguredMaxCapacity input db id value.value = (.ok u, e', db')) :
    ∃ row', e'.HoldsRow db' id row'
      ⟨stored.upTo id.rate input.currentTime, input.currentTime, value⟩ := by
  unfold SqliteEngine.applyConfiguredMaxCapacity at h_ok
  split at h_ok
  · cases h_ok
  · rename_i value' h_value
    obtain rfl : value' = value := MaxCapacity.eq_of_value (validateMaxCapacity_ok h_value)
    split at h_ok
    · cases h_ok
    · rename_i h_mem
      have h_mem : id ∈ e.buckets := not_not.mp h_mem
      obtain ⟨e₁, h_transaction, rfl⟩ := of_takeOver_ok h_ok
      obtain ⟨s, h_run, rfl, rfl⟩ := transaction_commit h_transaction
      obtain ⟨_, s₁, h_prune, h_run⟩ := Body.of_bind_ok h_run
      obtain ⟨states, s₂, h_load, h_run⟩ := Body.of_bind_ok h_run
      have h_opened := opened_of_runs h_prune (SameBuckets.refl s₁) h_load
      obtain ⟨retention, s₃, h_lift, h_run⟩ := Body.of_bind_ok h_run
      obtain ⟨_, h_s₃⟩ := Body.of_lift_ok h_lift
      obtain ⟨_, s₄, h_write, h_run⟩ := Body.of_bind_ok h_run
      rw [h_s₃] at h_write
      obtain ⟨row', h_row, h_capacity, h_last⟩ :=
        h_opened.anchorsStored h_mem h_holds h_unexpired h_past h_write
      obtain ⟨h_db, _⟩ := of_execute_state h_run
      refine ⟨{ row'.withoutOverride with
        updatedAt := input.currentTime
        expiresAt := input.currentTime + retention }, ?_, h_capacity, h_last, fun now _ => ?_⟩
      · show s.db.buckets (e.bucketKey id) = _
        rw [h_db]
        simp only [Database.updateBucket, Function.update_self, h_row, Option.map_some]
      · -- the override is cleared, and the configured limit is the new one
        show (Function.update e.configuredMaxCapacity id value' id).value = value'.value
        rw [Function.update_self]

end SqliteEngine

namespace SqliteBackend

variable {b b' : SqliteBackend} {id : BucketId} {stored : StoredCapacity} {now : ℚ}

/-- The row of a bucket has not expired, and neither has its override. -/
def Unexpired (b : SqliteBackend) (id : BucketId) (currentTime : ℚ) : Prop :=
  ∀ row, b.db.buckets (b.engine.bucketKey id) = some row → row.Unexpired currentTime

def HoldsCapacity (b : SqliteBackend) (id : BucketId) (stored : StoredCapacity) : Prop :=
  ∃ row, b.engine.HoldsRow b.db id row stored

theorem of_run_ok {input : TxnInput} {request : EngineRequest} {outcome : Outcome}
    (h_ok : b.run input request = (.ok outcome, b')) :
    b.engine.call input b.db request = (.ok outcome, b'.engine, b'.db) := by
  have h_result : (b.engine.call input b.db request).1 = .ok outcome := congrArg Prod.fst h_ok
  have h_backend : SqliteBackend.mk _ _ = b' := congrArg Prod.snd h_ok
  rw [← h_backend]
  exact Prod.ext h_result rfl

/-- A change of limit that went through, whatever it pruned. -/
def ChangesLimit (id : BucketId) (b : SqliteBackend) (change : LimitChange)
    (b' : SqliteBackend) : Prop :=
  b.Unexpired id change.currentTime ∧ ∃ input : TxnInput, input.currentTime = change.currentTime ∧
    b.handle input (change.request id) = (.ok .done, b')

theorem ChangesLimit.anchors {change : LimitChange} (h_holds : b.HoldsCapacity id stored)
    (h_past : stored.instant ≤ change.currentTime) (h_change : b.ChangesLimit id change b') :
    b'.HoldsCapacity id (stored.changed id.rate change.change) := by
  obtain ⟨row, h_holds⟩ := h_holds
  obtain ⟨h_unexpired, input, h_time, h_ok⟩ := h_change
  have h_row := h_unexpired row h_holds.found
  have h_validate : validateMaxCapacityFinitePositive change.value.value = .ok change.value :=
    dif_pos change.value.min_le
  unfold LimitChange.request at h_ok
  rw [← h_time] at h_past h_row
  show ∃ row', b'.engine.HoldsRow b'.db id row'
    ⟨stored.upTo id.rate change.currentTime, change.currentTime, change.value⟩
  rw [← h_time]
  cases h_method : change.method with
  | setMaxCapacity =>
    rw [h_method] at h_ok
    change b.checked (validateMaxCapacityFinitePositive change.value.value) _ = _ at h_ok
    rw [h_validate] at h_ok
    have h_ok : b.run input (.setMaxCapacity id change.value.value) = (.ok .done, b') := h_ok
    obtain ⟨u, h_call, _⟩ := SqliteEngine.of_answer_ok (of_run_ok h_ok)
    exact SqliteEngine.setMaxCapacity_anchors h_holds h_row h_past h_call
  | applyConfiguredMaxCapacity =>
    rw [h_method] at h_ok
    change b.checked (validateMaxCapacityFinitePositive change.value.value) _ = _ at h_ok
    rw [h_validate] at h_ok
    have h_ok : b.run input (.applyConfiguredMaxCapacity id change.value.value) = (.ok .done, b') := h_ok
    obtain ⟨u, h_call, _⟩ := SqliteEngine.of_answer_ok (of_run_ok h_ok)
    exact SqliteEngine.applyConfiguredMaxCapacity_anchors h_holds h_row h_past h_call

theorem HoldsCapacity.snapshot (h_holds : b.HoldsCapacity id stored) (h_time : 0 ≤ now)
    (h_past : stored.instant ≤ now) (h_unexpired : b.Unexpired id now) :
    ∃ state, b.snapshot id now = .ok state ∧
      state.capacity = min stored.value.value (stored.upTo id.rate now) := by
  obtain ⟨row, h_holds⟩ := h_holds
  have h_row := h_unexpired row h_holds.found
  obtain ⟨loaded, h_load⟩ := loadRow_snapshot_holdsCapacity b.engine.bucketTtlSeconds
    (b.engine.stateLossSuspected id now) h_holds.holds h_row h_time
  refine ⟨loaded.state, ?_, (loadRow_holdsCapacity h_holds.holds h_row h_past h_load).1⟩
  unfold SqliteBackend.snapshot
  rw [h_holds.found, h_load]
  rfl

end SqliteBackend

/-! ## Redis -/

/-- What decides the capacity of a bucket in Redis: its records, and the attributes of the
    backend but its caches. -/
structure RecordView where
  fields : BucketFields
  override : Option OverrideRecord
  expiry : Option OverrideExpiry
  keyPrefix : String
  modelFamily : String
  maxCapacityDefault : BucketId → MaxCapacity

def Session.recordView (key : BucketKey) (s : Session) : RecordView where
  fields := s.server.state key
  override := s.server.maxCapacityOverride key
  expiry := s.server.overrideExpiry key
  keyPrefix := s.client.keyPrefix
  modelFamily := s.client.modelFamily
  maxCapacityDefault := s.client.maxCapacityDefault

/-- A turn at a time, in which the others leave the records of the bucket and none of them
    expires. -/
structure Turn.LeavesRecords (key : BucketKey) (currentTime : ℚ) (turn : Turn) : Prop where
  currentTime : turn.currentTime = currentTime
  state : ∀ server, (turn.others server).state key = server.state key
  override : ∀ server,
    (turn.others server).maxCapacityOverride key = server.maxCapacityOverride key
  expiry : ∀ server, (turn.others server).overrideExpiry key = server.overrideExpiry key

namespace RecordView

/-- The override in force: the one on record, if it was set under the configured limit. -/
def overriding (v : RecordView) (id : BucketId) : Option MaxCapacity :=
  match v.override with
  | none => none
  | some record =>
    if isclose record.configuredMaxCapacity.value (v.maxCapacityDefault id).value then
      some record.overrideMaxCapacity
    else none

/-- The records hold a stored capacity.  Without an override in force, none has expired since
    the pair was stored. -/
structure HoldsCapacity (v : RecordView) (id : BucketId) (stored : StoredCapacity) : Prop where
  fields : v.fields = ⟨some stored.instant, some stored.amount⟩
  maximum : (v.overriding id).getD (v.maxCapacityDefault id) = stored.value
  noneExpired : v.overriding id = none → ∀ history, v.expiry = some history →
    isclose history.configured.value (v.maxCapacityDefault id).value = true →
      history.expiresAt ≤ stored.instant

def putOverride (v : RecordView) (override : Option OverrideRecord)
    (expiry : Option OverrideExpiry) : RecordView :=
  { v with override := override, expiry := expiry }

variable {v : RecordView} {id : BucketId} {stored : StoredCapacity} {now : ℚ}

/-- What the records accrue is the rate in force times the time since. -/
theorem HoldsCapacity.accrues (h_holds : v.HoldsCapacity id stored)
    (h_past : stored.instant ≤ now) :
    accrueWithExpiry v.expiry (v.overriding id) (v.maxCapacityDefault id) id stored.instant now
        stored.amount (calculateRatePerSec stored.value id) = stored.upTo id.rate now := by
  have h_plain := accrued_eq id h_past
  unfold accrueWithExpiry
  cases h_expiry : v.expiry with
  | none => exact h_plain
  | some history =>
    dsimp only
    split
    · exact h_plain
    · rename_i h_ended
      -- an override that ended did so before the pair was stored
      have h_none : v.overriding id = none := by
        cases h_override : v.overriding id with
        | none => rfl
        | some value =>
          rw [h_override] at h_ended
          exact absurd (.inl rfl) h_ended
      have h_anchor : isclose history.configured.value (v.maxCapacityDefault id).value = true := by
        by_contra h_other
        exact h_ended (.inr (.inl h_other))
      have h_before := h_holds.noneExpired h_none history h_expiry h_anchor
      rw [max_eq_left (sub_nonpos.mpr h_before), max_eq_left h_before, zero_mul, add_zero]
      exact h_plain

end RecordView

namespace RedisBackend

variable {α β : Type} {key : BucketKey} {t : ℚ} {s : Session} {id : BucketId}
  {stored : StoredCapacity} {value : MaxCapacity}

/-- A program that returns does so with `post` of the records it leaves. -/
def Records (key : BucketKey) (t : ℚ) (post : α → RecordView → Prop) (p : RedisProgram α)
    (s : Session) : Prop :=
  p.Leads Session.serve (Turn.LeavesRecords key t) (fun a s' => post a (s'.recordView key)) s

section Rules

variable {p : RedisProgram α} {f : α → RedisProgram β} {m : α → RecordView → Prop}
  {post : β → RecordView → Prop}

theorem others_recordView {turn : Turn} (s : Session) (h_turn : turn.LeavesRecords key t) :
    (s.withServer (turn.others s.server)).recordView key = s.recordView key := by
  unfold Session.recordView Session.withServer
  dsimp only
  rw [h_turn.state, h_turn.override, h_turn.expiry]

theorem Records.bind (h_p : Records key t m p s)
    (h_f : ∀ a s', m a (s'.recordView key) → Records key t post (f a) s') :
    Records key t post (p >>= f) s :=
  Leads.bind h_p h_f

theorem Records.mono {m' : α → RecordView → Prop} (h_p : Records key t m p s)
    (h_post : ∀ a v, m a v → m' a v) : Records key t m' p s :=
  Leads.mono h_p fun a s' => h_post a (s'.recordView key)

theorem execute_recordView {command : Command} (h_recordless : command.recordless = true) (turn : Turn)
    (s : Session) : (s.execute turn command).2.recordView key = s.recordView key := by
  cases command with
  | refreshOverride | repairStates | setStates | acquireMarkerSetScript | refundWithMarkerScript
  | setOverride | deleteOverride | setConfiguredMaxCapacity | installReconfiguredState =>
    cases h_recordless
  | acquireLock k token =>
    simp only [Session.execute]
    split <;> rfl
  | releaseLock k token =>
    simp only [Session.execute]
    split <;> rfl
  | _ => rfl

theorem serve_recordView {command : Command} {turn : Turn} (h_turn : turn.LeavesRecords key t)
    (h_recordless : command.recordless = true) (s : Session) :
    (Session.serve turn command s).2.recordView key = s.recordView key := by
  have h_others := others_recordView s h_turn
  simp only [Session.serve]
  cases turn.delivery with
  | answered => exact (execute_recordView h_recordless turn _).trans h_others
  | lost e => exact (execute_recordView h_recordless turn _).trans h_others
  | refused e => exact h_others

theorem Recordless.records (h_p : Recordless p) (s : Session) :
    Records key t (fun _ v => v = s.recordView key) p s :=
  h_p.leads (fun _ _ s h_turn h_recordless => serve_recordView h_turn h_recordless s) s

/-- What follows a recordless program finds the same records. -/
theorem Recordless.records_bind (h_p : Recordless p)
    (h_f : ∀ a s', s'.recordView key = s.recordView key → Records key t post (f a) s') :
    Records key t post (p >>= f) s :=
  (Recordless.records h_p s).bind h_f

theorem client_records {g : RedisClient → RedisProgram β}
    (h_g : ∀ s', s'.recordView key = s.recordView key → s'.client = s.client →
      Records key t post (g s.client) s') :
    Records key t post (send .client >>= g) s :=
  client_leads (fun _ s h_turn => others_recordView s h_turn) h_g

theorem send_records {command : Command} {post : command.Response → RecordView → Prop}
    (h_post : ∀ (turn : Turn) (s' : Session), turn.currentTime = t →
      s'.recordView key = s.recordView key → s'.client = s.client →
      post (s'.execute turn command).1 ((s'.execute turn command).2.recordView key)) :
    Records key t post (send command) s :=
  send_leads (fun _ s h_turn => others_recordView s h_turn)
    fun turn s' h_turn h_same h_client => h_post turn s' h_turn.currentTime h_same h_client

/-- A command whose answer the records and the time determine. -/
theorem answer_records {command : Command} {g : command.Response → RedisProgram β}
    (a : command.Response) (h_recordless : command.recordless = true)
    (h_answer : ∀ (turn : Turn) (s' : Session), turn.currentTime = t →
      s'.recordView key = s.recordView key → (s'.execute turn command).1 = a)
    (h_g : ∀ s', s'.recordView key = s.recordView key → Records key t post (g a) s') :
    Records key t post (send command >>= g) s := by
  have h_send : Records key t (fun answer v => answer = a ∧ v = s.recordView key)
      (send command) s := by
    refine send_records fun turn s' h_time h_same _ => ⟨h_answer turn s' h_time h_same, ?_⟩
    rw [execute_recordView h_recordless, h_same]
  refine h_send.bind fun answer s' h => ?_
  rw [h.1]
  exact h_g s' h.2

end Rules

/-! ### The anchoring of a bucket -/

/-- The projection of a bucket that stores a capacity. -/
theorem projectBucketState_records
    (h_holds : (s.recordView key).HoldsCapacity key.id stored) (h_past : stored.instant ≤ t) :
    Records key t (fun projection v => v = s.recordView key ∧ projection.currentTime = t ∧
        projection.anchored = some (stored.upTo key.id.rate t))
      (projectBucketState .running key) s := by
  refine answer_records (s.recordView key).override rfl
    (fun _ _ _ h_same => congrArg RecordView.override h_same) fun s₁ h₁ => ?_
  refine client_records fun s₂ h₂ _ => ?_
  have h_default : s₁.client.maxCapacityDefault = (s.recordView key).maxCapacityDefault :=
    congrArg RecordView.maxCapacityDefault h₁
  have h_override : s₁.client.deserializeMaxCapacityOverride key.id (s.recordView key).override =
      (s.recordView key).overriding key.id := by
    unfold RedisClient.deserializeMaxCapacityOverride
    rw [h_default]
    rfl
  refine answer_records t rfl (fun _ _ h_time _ => h_time) fun s₃ h₃ => ?_
  refine answer_records ⟨some stored.instant, some stored.amount⟩ rfl (fun _ s' _ h_same => ?_)
    fun s₄ h₄ => ?_
  · rw [← h_holds.fields, ← h₁, ← h₂, ← h₃, ← h_same]
    rfl
  refine client_records fun s₅ h₅ _ => ?_
  refine answer_records (s.recordView key).expiry rfl (fun _ s' _ h_same => ?_) fun s₆ h₆ => ?_
  · rw [← h₁, ← h₂, ← h₃, ← h₄, ← h₅, ← h_same]
    rfl
  refine client_records fun s₇ h₇ _ => Leads.pure ?_
  have h_all : s₇.recordView key = s.recordView key := by
    rw [h₇, h₆, h₅, h₄, h₃, h₂, h₁]
  refine ⟨h_all, rfl, ?_⟩
  have h_default₆ : s₆.client.maxCapacityDefault = (s.recordView key).maxCapacityDefault := by
    rw [← h₁, ← h₂, ← h₃, ← h₄, ← h₅, ← h₆]
    rfl
  have h_accrues := h_holds.accrues h_past
  rw [← h_accrues, h_override, h_default, h_default₆, h_holds.maximum]

/-- What an anchoring leaves of the records: the pair brought up to now. -/
def Anchors (v : RecordView) (id : BucketId) (stored : StoredCapacity) (t : ℚ)
    (v' : RecordView) : Prop :=
  ∃ expiry, v' = { v with
    fields := ⟨some t, some (stored.upTo id.rate t)⟩
    expiry := expiry }

theorem putOverride_recordView (s : Session) (key : BucketKey) (override : Option OverrideRecord)
    (expiry : Option OverrideExpiry) :
    (s.withServer (s.server.putOverride key override expiry)).recordView key =
      (s.recordView key).putOverride override expiry := by
  simp only [Session.recordView, Session.withServer, RedisServer.putOverride,
    RecordView.putOverride, Function.update_self]

/-- The refresh of an override moves its history on, and nothing else. -/
theorem refreshOverride_recordView (s : Session) (key : BucketKey) (record : OverrideRecord)
    (expiresAt : ℚ) :
    ∃ expiry, (s.withServer (s.server.refreshOverride key record expiresAt).2).recordView key =
      { s.recordView key with expiry := expiry } := by
  unfold RedisServer.refreshOverride
  split
  · exact ⟨_, putOverride_recordView s key _ _⟩
  · exact ⟨s.server.overrideExpiry key, rfl⟩

theorem snapshotBucketState_records (proposed : MaxCapacity)
    (h_holds : (s.recordView key).HoldsCapacity key.id stored) (h_past : stored.instant ≤ t) :
    Records key t (fun _ v => Anchors (s.recordView key) key.id stored t v)
      (snapshotBucketState key proposed) s := by
  refine (projectBucketState_records h_holds h_past).bind fun projection s₁ h₁ => ?_
  obtain ⟨h_view, h_time, h_anchored⟩ := h₁
  have h_refresh : Records key t (fun _ v => ∃ expiry, v = { s.recordView key with
      expiry := expiry })
      (RedisBucket.refreshMaxCapacityOverrideTtl .running key projection.override) s₁ := by
    cases projection.override with
    | none =>
      refine (Recordless.records (retainCapacityHistory_recordless key) s₁).mono fun _ v h_v => ?_
      rw [h_v, h_view]
      exact ⟨_, rfl⟩
    | some value =>
      refine answer_records t rfl (fun _ _ h_turn _ => h_turn) fun s₂ h₂ => ?_
      refine client_records fun s₃ h₃ _ => ?_
      refine Records.bind (m := fun _ v => ∃ expiry, v = { s.recordView key with
        expiry := expiry }) (send_records fun turn s₄ _ h₄ _ => ?_) fun _ _ h => h
      rw [← h_view, ← h₂, ← h₃, ← h₄]
      exact refreshOverride_recordView s₄ key _ _
  refine h_refresh.bind fun _ s₂ h₂ => ?_
  obtain ⟨expiry, h₂⟩ := h₂
  rw [h_anchored]
  refine Records.bind (m := fun _ v => Anchors (s.recordView key) key.id stored t v) ?_
    fun _ s₃ h₃ => ?_
  · refine client_records fun s₃ h₃ _ => ?_
    refine Recordless.records_bind (Issues.lift _) fun _ s₄ h₄ => ?_
    refine Recordless.records_bind (retainCapacityHistory_recordless key) fun _ s₅ h₅ => ?_
    refine Records.bind (m := fun _ v => Anchors (s.recordView key) key.id stored t v)
      (send_records fun turn s₆ _ h₆ _ => ?_) fun _ s₆ h₆ => ?_
    · have h_before : s₆.recordView key = { s.recordView key with expiry := expiry } := by
        rw [h₆, h₅, h₄, h₃, h₂]
      refine ⟨expiry, ?_⟩
      rw [h_time]
      show RecordView.mk (Function.update s₆.server.state key _ key) _ _ _ _ _ = _
      rw [Function.update_self]
      exact congrArg (fun v : RecordView => { v with
        fields := ⟨some t, some (stored.upTo key.id.rate t)⟩ }) h_before
    · refine (Recordless.records (updateCaches_recordless .running _) s₆).mono fun _ v h_v => ?_
      rw [h_v]
      exact h₆
  · refine (Recordless.records (send_recordless rfl) s₃).mono fun _ v h_v => ?_
    rw [h_v]
    exact h₃

/-! ### The two changes -/

/-- The records hold a stored capacity, and the bucket keeps its key. -/
structure Leaves (v : RecordView) (id : BucketId) (stored : StoredCapacity) (v' : RecordView) :
    Prop where
  holds : v'.HoldsCapacity id stored
  keyPrefix : v'.keyPrefix = v.keyPrefix
  modelFamily : v'.modelFamily = v.modelFamily

theorem Anchors.overridden {v v' : RecordView} (h_anchors : Anchors v id stored t v')
    (expiry : Option OverrideExpiry) :
    Leaves v id ⟨stored.upTo id.rate t, t, value⟩
      (v'.putOverride (some ⟨v'.maxCapacityDefault id, value⟩) expiry) := by
  obtain ⟨_, rfl⟩ := h_anchors
  have h_overriding (w : RecordView)
      (h_override : w.override = some ⟨w.maxCapacityDefault id, value⟩) :
      w.overriding id = some value := by
    unfold RecordView.overriding
    rw [h_override]
    exact if_pos (isclose_self _)
  refine ⟨⟨rfl, ?_, fun h_none => ?_⟩, rfl, rfl⟩
  · rw [h_overriding _ rfl]
    rfl
  · rw [h_overriding _ rfl] at h_none
    cases h_none

theorem Anchors.configured {v v' : RecordView} (h_anchors : Anchors v id stored t v') :
    Leaves v id ⟨stored.upTo id.rate t, t, value⟩ { v'.putOverride none none with
      maxCapacityDefault := Function.update v'.maxCapacityDefault id value } := by
  obtain ⟨_, rfl⟩ := h_anchors
  refine ⟨⟨rfl, ?_, fun _ history h_history => ?_⟩, rfl, rfl⟩
  · show Function.update v.maxCapacityDefault id value id = value
    rw [Function.update_self]
  · cases h_history

theorem withLocks_records {acquire : RedisProgram LockStack} {body : LockStack → RedisProgram β}
    {post : β → RecordView → Prop} (h_acquire : Recordless acquire)
    (h_body : ∀ stack s', s'.recordView key = s.recordView key →
      Records key t post (body stack) s') :
    Records key t post (withLocks acquire body) s := by
  refine Recordless.records_bind h_acquire fun stack s' h_same => ?_
  exact Leads.ensuring (Session.recordView key) post (h_body stack s' h_same)
    (releaseLocks_recordless stack)
    fun _ _ s h_turn h_recordless => serve_recordView h_turn h_recordless s

/-- The override of a bucket is written under the configured limit of the process. -/
theorem bucketSetMaxCapacity_records :
    Records key t (fun _ v => ∃ expiry, v = (s.recordView key).putOverride
        (some ⟨(s.recordView key).maxCapacityDefault key.id, value⟩) expiry)
      (RedisBucket.setMaxCapacity key value) s := by
  refine answer_records t rfl (fun _ _ h_time _ => h_time) fun s₁ h₁ => ?_
  refine client_records fun s₂ h₂ _ => ?_
  have h_record : RedisBucket.overrideRecord s₁.client key.id value =
      ⟨(s.recordView key).maxCapacityDefault key.id, value⟩ := by
    rw [← h₁]
    rfl
  rw [h_record]
  have h_send : Records key t (fun _ v => ∃ expiry, v = (s.recordView key).putOverride
      (some ⟨(s.recordView key).maxCapacityDefault key.id, value⟩) expiry)
      (send (.setOverride key ⟨(s.recordView key).maxCapacityDefault key.id, value⟩
        (t + s₁.client.overrideTtlSeconds))) s₂ := by
    refine send_records fun turn s₃ _ h₃ _ => ?_
    have h_same : s₃.recordView key = s.recordView key := by rw [h₃, h₂, h₁]
    rw [← h_same]
    exact ⟨_, putOverride_recordView s₃ key _ _⟩
  refine h_send.bind fun _ s₃ h₃ => ?_
  refine (Recordless.records (@send_recordless (.updateCaches _) rfl) s₃).mono fun _ v h_v => ?_
  rw [h_v]
  exact h₃

theorem setMaxCapacity_records (h_key : key = s.client.bucketKey id)
    (h_holds : (s.recordView key).HoldsCapacity id stored) (h_past : stored.instant ≤ t) :
    Records key t (fun _ v => Leaves (s.recordView key) id ⟨stored.upTo id.rate t, t, value⟩ v)
      (setMaxCapacity id value.value) s := by
  have h_id : key.id = id := by rw [h_key]; rfl
  refine client_records fun s₁ h₁ _ => ?_
  split
  · exact Leads.throw
  rw [← h_key]
  refine Records.bind (m := fun _ v => Leaves (s.recordView key) id
    ⟨stored.upTo id.rate t, t, value⟩ v) ?_ fun _ s₂ h₂ => ?_
  · refine withLocks_records (lockOrContention_recordless _) fun stack s₂ h₂ => ?_
    refine Recordless.records_bind (extendLocks_recordless stack) fun _ s₃ h₃ => ?_
    refine Leads.bind (m := fun value' s' => s' = s₃ ∧ value' = value)
      (Leads.lift fun value' h_ok => ⟨rfl, MaxCapacity.eq_of_value (validateMaxCapacity_ok h_ok)⟩)
      fun value' s₄ h₄ => ?_
    obtain ⟨rfl, rfl⟩ := h₄
    have h_same : s₄.recordView key = s.recordView key := by rw [h₃, h₂, h₁]
    rw [← h_same, ← h_id] at h_holds
    refine (snapshotBucketState_records value' h_holds h_past).bind fun _ s₅ h₅ => ?_
    refine bucketSetMaxCapacity_records.mono fun _ v h_v => ?_
    obtain ⟨expiry, rfl⟩ := h_v
    rw [h_same, h_id] at h₅
    rw [h_id]
    exact h₅.overridden expiry
  · refine (Recordless.records (send_recordless rfl) s₂).mono fun _ v h_v => ?_
    rw [h_v]
    exact h₂

theorem applyConfiguredMaxCapacity_records (h_key : key = s.client.bucketKey id)
    (h_holds : (s.recordView key).HoldsCapacity id stored) (h_past : stored.instant ≤ t) :
    Records key t (fun _ v => Leaves (s.recordView key) id ⟨stored.upTo id.rate t, t, value⟩ v)
      (applyConfiguredMaxCapacity id value.value) s := by
  have h_id : key.id = id := by rw [h_key]; rfl
  refine client_records fun s₁ h₁ _ => ?_
  split
  · exact Leads.throw
  rw [← h_key]
  refine Records.bind (m := fun _ v => Leaves (s.recordView key) id
    ⟨stored.upTo id.rate t, t, value⟩ v) ?_ fun _ s₂ h₂ => ?_
  · refine withLocks_records (lockOrContention_recordless _) fun stack s₂ h₂ => ?_
    refine Recordless.records_bind (extendLocks_recordless stack) fun _ s₃ h₃ => ?_
    refine Leads.bind (m := fun value' s' => s' = s₃ ∧ value' = value)
      (Leads.lift fun value' h_ok => ⟨rfl, MaxCapacity.eq_of_value (validateMaxCapacity_ok h_ok)⟩)
      fun value' s₄ h₄ => ?_
    obtain ⟨rfl, rfl⟩ := h₄
    have h_same : s₄.recordView key = s.recordView key := by rw [h₃, h₂, h₁]
    rw [← h_same, ← h_id] at h_holds
    refine (snapshotBucketState_records value' h_holds h_past).bind fun _ s₅ h₅ => ?_
    rw [h_same, h_id] at h₅
    -- the override is deleted with its history
    have h_delete : Records key t (fun _ v => v = (s₅.recordView key).putOverride none none)
        (send (.deleteOverride key)) s₅ := by
      refine send_records fun turn s₆ _ h₆ _ => ?_
      rw [← h₆]
      exact putOverride_recordView s₆ key none none
    have h_clear : Records key t (fun _ v => v = (s₅.recordView key).putOverride none none)
        (RedisBucket.clearMaxCapacityOverride .running key) s₅ := by
      refine h_delete.bind fun _ s₆ h₆ => ?_
      refine (Recordless.records (updateCaches_recordless .running _) s₆).mono fun _ v h_v => ?_
      rw [h_v]
      exact h₆
    refine h_clear.bind fun _ s₆ h₆ => send_records fun turn s₇ _ h₇ _ => ?_
    have h_after : (s₇.execute turn (.setConfiguredMaxCapacity id value')).2.recordView key =
        { s₇.recordView key with
          maxCapacityDefault := Function.update (s₇.recordView key).maxCapacityDefault id value' } :=
      rfl
    rw [h_after, h₇, h₆]
    exact h₅.configured
  · refine (Recordless.records (send_recordless rfl) s₂).mono fun _ v h_v => ?_
    rw [h_v]
    exact h₂

end RedisBackend

/-- The call that makes a change. -/
def RedisBackend.changeLimit (change : LimitChange) (id : BucketId) : RedisProgram Unit :=
  match change.method with
  | .setMaxCapacity => setMaxCapacity id change.value.value
  | .applyConfiguredMaxCapacity => applyConfiguredMaxCapacity id change.value.value

namespace Session

variable {s s' : Session} {id : BucketId} {stored : StoredCapacity} {now : ℚ}

def HoldsCapacity (s : Session) (id : BucketId) (stored : StoredCapacity) : Prop :=
  (s.recordView (s.client.bucketKey id)).HoldsCapacity id stored

/-- A change of limit that went through, whatever else the server did meanwhile. -/
def ChangesLimit (id : BucketId) (s : Session) (change : LimitChange) (s' : Session) : Prop :=
  ∃ turns : List Turn,
    (∀ turn ∈ turns, turn.LeavesRecords (s.client.bucketKey id) change.currentTime) ∧
    (RedisBackend.changeLimit change id).run serve turns s = some (.ok (), s')

/-- What a read of a bucket computes. -/
def getCapacity (s : Session) (id : BucketId) (currentTime : ℚ) :
    Except BackendError CalculatedCapacity :=
  let key := s.client.bucketKey id
  s.client.calculate id (s.server.state key) (s.server.maxCapacityOverride key)
    (s.server.overrideExpiry key) currentTime

theorem ChangesLimit.anchors {change : LimitChange} (h_holds : s.HoldsCapacity id stored)
    (h_past : stored.instant ≤ change.currentTime) (h_change : s.ChangesLimit id change s') :
    s'.HoldsCapacity id (stored.changed id.rate change.change) := by
  obtain ⟨turns, h_turns, h_run⟩ := h_change
  have h_program : RedisBackend.Records (s.client.bucketKey id) change.currentTime
      (fun _ v => RedisBackend.Leaves (s.recordView (s.client.bucketKey id)) id
        (stored.changed id.rate change.change) v) (RedisBackend.changeLimit change id) s := by
    unfold RedisBackend.changeLimit
    cases change.method with
    | setMaxCapacity => exact RedisBackend.setMaxCapacity_records rfl h_holds h_past
    | applyConfiguredMaxCapacity =>
      exact RedisBackend.applyConfiguredMaxCapacity_records rfl h_holds h_past
  have h_leaves := run_of_follows h_program h_turns h_run
  have h_key : s'.client.bucketKey id = s.client.bucketKey id := by
    have h_pre : s'.client.keyPrefix = s.client.keyPrefix := h_leaves.keyPrefix
    have h_family : s'.client.modelFamily = s.client.modelFamily := h_leaves.modelFamily
    unfold RedisClient.bucketKey
    rw [h_pre, h_family]
  unfold HoldsCapacity
  rw [h_key]
  exact h_leaves.holds

theorem HoldsCapacity.getCapacity (h_holds : s.HoldsCapacity id stored) (h_time : 0 ≤ now)
    (h_past : stored.instant ≤ now) :
    s.getCapacity id now = .ok ⟨min stored.value.value (stored.upTo id.rate now), false⟩ := by
  have h_fields : s.server.state (s.client.bucketKey id) =
      ⟨some stored.instant, some stored.amount⟩ := h_holds.fields
  have h_accrues := h_holds.accrues h_past
  unfold Session.getCapacity RedisClient.calculate
  dsimp only
  rw [h_fields]
  -- both halves of the pair are there, so it is not normalized
  show calculateWithExpiry _ _ _ id (some stored.instant) (some stored.amount) now = _
  unfold calculateWithExpiry
  dsimp only
  have h_maximum : (s.client.deserializeMaxCapacityOverride id (s.server.maxCapacityOverride
      (s.client.bucketKey id))).getD (s.client.maxCapacityDefault id) = stored.value :=
    h_holds.maximum
  rw [h_maximum, calculateCapacity_ok h_time (calculateRatePerSec_pos _ _)]
  show Except.ok (⟨min _ (accrueWithExpiry _ _ _ _ _ _ _ _), false⟩ : CalculatedCapacity) = _
  rw [← h_accrues]
  rfl

end Session

/-! ## The three backends -/

/-- After any changes of a bucket's maximum the capacity is what each maximum refilled while
    it was in force, capped at the last one, in each of the three backends. -/
theorem capacity_afterLimitChanges {id : BucketId} {stored : StoredCapacity}
    {changes : List LimitChange} {now : ℚ} (h_time : 0 ≤ now)
    (h_ordered : Ordered stored.instant (changes.map LimitChange.change) now) :
    (∀ s s' : MemoryBackend, s.HoldsCapacity id stored →
        Run (MemoryBackend.ChangesLimit id) s changes s' →
        (s'.bucket id).getCapacity now = .ok ⟨capacityAfter id stored changes now, false⟩) ∧
      (∀ b b' : SqliteBackend, b.HoldsCapacity id stored →
        Run (SqliteBackend.ChangesLimit id) b changes b' → b'.Unexpired id now →
        ∃ state, b'.snapshot id now = .ok state ∧
          state.capacity = capacityAfter id stored changes now) ∧
      ∀ s s' : Session, s.HoldsCapacity id stored → Run (Session.ChangesLimit id) s changes s' →
        s'.getCapacity id now = .ok ⟨capacityAfter id stored changes now, false⟩ := by
  refine ⟨fun s s' h_holds h_run => ?_, fun b b' h_holds h_run h_unexpired => ?_,
    fun s s' h_holds h_run => ?_⟩
  · obtain ⟨stored', h_holds', h_past, h_value⟩ := capacityAfter_of_run
      (MemoryBackend.HoldsCapacity · id ·)
      (fun _ _ _ _ h_holds h_past h_change => h_change.anchors h_holds h_past) h_holds h_ordered
      h_run
    rw [h_holds'.getCapacity h_time h_past, h_value]
  · obtain ⟨stored', h_holds', h_past, h_value⟩ := capacityAfter_of_run
      (SqliteBackend.HoldsCapacity · id ·)
      (fun _ _ _ _ h_holds h_past h_change => h_change.anchors h_holds h_past) h_holds h_ordered
      h_run
    rw [← h_value]
    exact h_holds'.snapshot h_time h_past h_unexpired
  · obtain ⟨stored', h_holds', h_past, h_value⟩ := capacityAfter_of_run
      (Session.HoldsCapacity · id ·)
      (fun _ _ _ _ h_holds h_past h_change => h_change.anchors h_holds h_past) h_holds h_ordered
      h_run
    rw [h_holds'.getCapacity h_time h_past, h_value]

/-! ### A debt under two changes -/

/-- A debt of 50 at time 0, under a limit of 100. -/
def indebted : StoredCapacity := ⟨-50, 0, oneHundred⟩

def raisedTo600 : LimitChange := ⟨.setMaxCapacity, ⟨600, by norm_num [minMaxCapacity]⟩, 6⟩

def configuredAs60 : LimitChange :=
  ⟨.applyConfiguredMaxCapacity, ⟨60, by norm_num [minMaxCapacity]⟩, 12⟩

def indebtedMemory : MemoryBackend :=
  { MemoryBackend.init [tokensPerMinute] fun _ => oneHundred with
    bucket := fun _ => ⟨some (-50), some 0, oneHundred⟩ }

def indebtedSqlite : SqliteBackend where
  engine := exampleEngine
  db := Database.empty.putBucket (exampleEngine.bucketKey tokensPerMinute)
    ⟨some (-50), some 0, none, none, none, 0, 3600⟩

def indebtedRedis : Session where
  server := RedisServer.empty.setState ⟨"p", "m", tokensPerMinute⟩ (-50) 0
  client :=
    { keyPrefix := "p"
      modelFamily := "m"
      sortedBuckets := [tokensPerMinute]
      nodup := List.nodup_singleton _
      maxCapacityDefault := fun _ => oneHundred
      bucketTtlSeconds := 3600
      overrideTtlSeconds := 3600
      callbacks := fun _ => false
      caches := ⟨fun _ => none, fun _ => none⟩ }

/-- The turns of a call that nothing disturbs. -/
def undisturbed (currentTime : ℚ) : List Turn :=
  List.replicate 40 ⟨id, currentTime, currentTime, .answered⟩

theorem undisturbed_leavesRecords (key : BucketKey) (currentTime : ℚ) :
    ∀ turn ∈ undisturbed currentTime, turn.LeavesRecords key currentTime := by
  intro turn h_mem
  rw [List.eq_of_mem_replicate h_mem]
  exact ⟨rfl, fun _ => rfl, fun _ => rfl, fun _ => rfl⟩

/-- The backend after a change, or as it was where the change was refused. -/
def MemoryBackend.afterChange (s : MemoryBackend) (change : LimitChange) : MemoryBackend :=
  match s.handle (change.request tokensPerMinute) change.currentTime with
  | .ok (_, s') => s'
  | .error _ => s

def SqliteBackend.afterChange (b : SqliteBackend) (change : LimitChange) : SqliteBackend :=
  (b.handle (.at change.currentTime) (change.request tokensPerMinute)).2

def Session.afterChange (s : Session) (change : LimitChange) : Session :=
  match (RedisBackend.changeLimit change tokensPerMinute).run serve
    (undisturbed change.currentTime) s with
  | some (_, s') => s'
  | none => s

theorem MemoryBackend.changesLimit_of_done {s : MemoryBackend} {change : LimitChange}
    (h_done : (s.handle (change.request tokensPerMinute) change.currentTime).map Prod.fst =
      .ok .done) : s.ChangesLimit tokensPerMinute change (s.afterChange change) := by
  unfold ChangesLimit afterChange
  cases h_handle : s.handle (change.request tokensPerMinute) change.currentTime with
  | error error =>
    rw [h_handle] at h_done
    cases h_done
  | ok result =>
    obtain ⟨outcome, s'⟩ := result
    rw [h_handle] at h_done
    cases h_done
    rfl

theorem SqliteBackend.changesLimit_of_done {b : SqliteBackend} {change : LimitChange}
    (h_unexpired : b.Unexpired tokensPerMinute change.currentTime)
    (h_done : (b.handle (.at change.currentTime) (change.request tokensPerMinute)).1 =
      .ok .done) : b.ChangesLimit tokensPerMinute change (b.afterChange change) :=
  ⟨h_unexpired, .at change.currentTime, rfl, Prod.ext h_done rfl⟩

theorem Session.changesLimit_of_done {s : Session} {change : LimitChange}
    (h_done : ((RedisBackend.changeLimit change tokensPerMinute).run serve
      (undisturbed change.currentTime) s).map Prod.fst = some (.ok ())) :
    s.ChangesLimit tokensPerMinute change (s.afterChange change) := by
  refine ⟨undisturbed change.currentTime, undisturbed_leavesRecords _ _, ?_⟩
  unfold afterChange
  cases h_run : (RedisBackend.changeLimit change tokensPerMinute).run serve
      (undisturbed change.currentTime) s with
  | none =>
    rw [h_run] at h_done
    cases h_done
  | some result =>
    obtain ⟨answer, s'⟩ := result
    rw [h_run] at h_done
    cases h_done
    rfl

/-- A row that has not expired, and whose override has not, by evaluation. -/
theorem SqliteBackend.unexpired_of_all {b : SqliteBackend} {currentTime : ℚ}
    (h_all : (b.db.buckets (b.engine.bucketKey tokensPerMinute)).all fun row =>
      currentTime < row.expiresAt ∧ row.overrideExpiresAt.all (currentTime < ·)) :
    b.Unexpired tokensPerMinute currentTime := by
  intro row h_row
  rw [h_row] at h_all
  obtain ⟨h_state, h_override⟩ := of_decide_eq_true h_all
  refine ⟨h_state, fun expiresAt h_expiresAt => ?_⟩
  rw [h_expiresAt] at h_override
  exact of_decide_eq_true h_override

/-- The debt has become 30 at 22: 6 seconds at 100, 6 at 600 and 10 at 60 per minute. -/
theorem capacity_afterLimitChanges_raisedThenLowered :
    (∃ s', Run (MemoryBackend.ChangesLimit tokensPerMinute) indebtedMemory
          [raisedTo600, configuredAs60] s' ∧
        (s'.bucket tokensPerMinute).getCapacity 22 = .ok ⟨30, false⟩) ∧
      (∃ b', Run (SqliteBackend.ChangesLimit tokensPerMinute) indebtedSqlite
          [raisedTo600, configuredAs60] b' ∧
        ∃ state, b'.snapshot tokensPerMinute 22 = .ok state ∧ state.capacity = 30) ∧
      ∃ s', Run (Session.ChangesLimit tokensPerMinute) indebtedRedis
          [raisedTo600, configuredAs60] s' ∧
        s'.getCapacity tokensPerMinute 22 = .ok ⟨30, false⟩ := by
  have h_value : capacityAfter tokensPerMinute indebted [raisedTo600, configuredAs60] 22 = 30 := by
    decide +kernel
  have h_last : configuredAs60.currentTime ≤ 22 := by decide +kernel
  have h_ordered : Ordered indebted.instant
      ([raisedTo600, configuredAs60].map LimitChange.change) 22 :=
    ⟨by decide +kernel, by decide +kernel, h_last⟩
  obtain ⟨h_memory, h_sqlite, h_redis⟩ := @capacity_afterLimitChanges tokensPerMinute indebted
    [raisedTo600, configuredAs60] 22 (by norm_num) h_ordered
  rw [h_value] at h_memory h_sqlite h_redis
  have h_runMemory : Run (MemoryBackend.ChangesLimit tokensPerMinute) indebtedMemory
      [raisedTo600, configuredAs60] _ :=
    .cons (MemoryBackend.changesLimit_of_done (by decide +kernel))
      (.cons (MemoryBackend.changesLimit_of_done (by decide +kernel)) (.nil _))
  have h_runSqlite : Run (SqliteBackend.ChangesLimit tokensPerMinute) indebtedSqlite
      [raisedTo600, configuredAs60] _ :=
    .cons (SqliteBackend.changesLimit_of_done (SqliteBackend.unexpired_of_all (by decide +kernel))
        (by decide +kernel))
      (.cons (SqliteBackend.changesLimit_of_done
        (SqliteBackend.unexpired_of_all (by decide +kernel)) (by decide +kernel)) (.nil _))
  have h_runRedis : Run (Session.ChangesLimit tokensPerMinute) indebtedRedis
      [raisedTo600, configuredAs60] _ :=
    .cons (Session.changesLimit_of_done (by decide +kernel))
      (.cons (Session.changesLimit_of_done (by decide +kernel)) (.nil _))
  have h_row : BucketRow.HoldsCapacity ⟨some (-50), some 0, none, none, none, 0, 3600⟩
      (exampleEngine.spec tokensPerMinute) indebted := ⟨rfl, rfl, fun _ _ => rfl⟩
  refine ⟨⟨_, h_runMemory, h_memory _ _ ⟨rfl, rfl, rfl⟩ h_runMemory⟩,
    ⟨_, h_runSqlite, h_sqlite _ _ ⟨_, by decide +kernel, h_row⟩ h_runSqlite
      (SqliteBackend.unexpired_of_all (by decide +kernel))⟩,
    ⟨_, h_runRedis, h_redis _ _ ⟨?_, rfl, fun _ _ h_none => by cases h_none⟩ h_runRedis⟩⟩
  have h_fields : indebtedRedis.server.state (indebtedRedis.client.bucketKey tokensPerMinute) =
      ⟨some 0, some (-50)⟩ := by decide +kernel
  exact h_fields

end TokenThrottle
