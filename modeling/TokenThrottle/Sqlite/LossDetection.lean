/-
  TokenThrottle.Sqlite.LossDetection

  The engines of a store find out exactly which states were lost.

  * `Backed` holds while nobody touches a row from outside: every confirmation that still
    lasts is backed by the row, and no state is half there.  So nothing is taken for lost.
  * `Watches` and `Vanished` hold from the removal of a confirmed state to the next load of
    the bucket, so that the engine that has confirmed it drains it.
-/
import TokenThrottle.Sqlite.DebtRetention
import TokenThrottle.Sqlite.Snapshot
import TokenThrottle.Sqlite.StateLoss

namespace TokenThrottle

open Theory (OrderedDict Run Steps guard steps_guard_iff)

/-! ## Loads -/

namespace SqliteEngine

/-- How a load ends that drains the bucket: another bucket's row may fail to load, and the
    transaction may be interrupted. -/
def Drains (e : SqliteEngine) (input : TxnInput) (db : Database) (id : BucketId) :
    Except BackendError (BucketId → BucketState) → Prop
  | .ok states => (states id).Drained
  | .error error => error = .interrupted ∨
      ∃ id' ∈ e.buckets, id' ≠ id ∧ e.LoadsRow input db id' (.error error)

/-- A load drains a bucket whose row is loaded drained. -/
theorem Loads.drains {e : SqliteEngine} {input : TxnInput} {db : Database}
    {result : Except BackendError (BucketId → BucketState)} {id : BucketId}
    (h_loads : e.Loads input db result) (h_mem : id ∈ e.buckets)
    (h_row : ∀ result, e.LoadsRow input db id result →
      ∃ loaded, result = .ok loaded ∧ loaded.state.Drained) :
    e.Drains input db id result := by
  cases result with
  | ok states =>
    obtain ⟨loaded, h_loaded, h_state⟩ := h_loads.row_of_ok h_mem
    obtain ⟨_, h_ok, h_drained⟩ := h_row _ h_loaded
    cases h_ok
    show (states id).Drained
    rw [h_state]
    exact h_drained
  | error error =>
    obtain h_interrupted | ⟨id', h_mem', h_error⟩ := h_loads.row_of_error
    · exact .inl h_interrupted
    · refine .inr ⟨id', h_mem', fun h_eq => ?_, h_error⟩
      -- the row of the bucket itself is loaded
      rw [h_eq] at h_error
      obtain ⟨_, h_ok, _⟩ := h_row _ h_error
      cases h_ok

end SqliteEngine

/-- A call that opens a transaction loads every bucket of its engine. -/
def EngineRequest.opens (request : EngineRequest) (e : SqliteEngine) : Bool :=
  match request with
  | .clearMaxCapacityOverrides bucketIds _ => e.buckets.any (· ∈ bucketIds)
  | _ => true

namespace Fleet

/-- The event loads the bucket, in a transaction that commits. -/
def loads (id : BucketId) (s : Fleet) : FleetEvent → Bool
  | .call who input request => (s.engines who).any fun e =>
    id ∈ e.buckets && request.opens e && (e.call input s.db request).1.isOk
  | _ => false

/-- The event takes something out of the bucket's row. -/
def removes (id : BucketId) : FleetEvent → Bool
  | .remove target _ => target = id
  | _ => false

/-- Nobody touches a row from outside. -/
def untouched (_ : Fleet) : FleetEvent → Bool
  | .remove _ _ => false
  | _ => true

/-- Nobody loads the bucket. -/
def unloaded (id : BucketId) (s : Fleet) (event : FleetEvent) : Bool := !s.loads id event

/-- Nobody loads the bucket or takes anything else out of its row. -/
def leftAlone (id : BucketId) (s : Fleet) (event : FleetEvent) : Bool :=
  !s.loads id event && !removes id event

/-- A state that some run leads to. -/
def Reached (builder : SqliteBackendBuilder) (configured : BucketId → MaxCapacity) (s : Fleet) :
    Prop :=
  ∃ events, Run (Steps (step builder)) (init configured) events s

/-- A state that a run leads to in which nobody touches a row from outside. -/
def Undisturbed (builder : SqliteBackendBuilder) (configured : BucketId → MaxCapacity)
    (s : Fleet) : Prop :=
  ∃ events, Run (Steps (guard (step builder) untouched)) (init configured) events s

/-- The engine's call has written the state of the bucket, or confirmed it. -/
def Establishes (builder : SqliteBackendBuilder) (s s' : Fleet) (who : ℕ) (id : BucketId) :
    Prop :=
  (∃ e', s'.engines who = some e' ∧
    e'.stateConfirmedUntil id = some (s'.clock + 9 / 10 * builder.bucketTtlSeconds)) ∨
  ∃ r', s'.row builder id = some r' ∧ r'.Stored ∧
    ∀ r, s.row builder id = some r → r'.capacity = r.capacity → r'.lastChecked ≠ r.lastChecked

variable {builder : SqliteBackendBuilder} {configured : BucketId → MaxCapacity} {s s' : Fleet}

/-! ### Every run -/

/-- The invariant of every run. -/
structure Readable (builder : SqliteBackendBuilder) (s : Fleet) : Prop where
  members : Members builder s
  clock : 0 ≤ s.clock
  valid : ∀ id, ValidRow (s.row builder id)

theorem Removal.apply_valid {row : Option BucketRow} (removal : Removal)
    (h_valid : ValidRow row) : ValidRow (removal.apply row) := by
  intro r h_row value h_value
  cases removal with
  | row => cases h_row
  | state =>
    obtain ⟨r', h_some, rfl⟩ := Option.map_eq_some_iff.mp h_row
    exact h_valid r' h_some value h_value
  | field field =>
    cases field <;>
    · obtain ⟨r', h_some, rfl⟩ := Option.map_eq_some_iff.mp h_row
      exact h_valid r' h_some value h_value

/-- What a removal of one bucket does to the row of another: nothing. -/
theorem row_removed (s : Fleet) (id target : BucketId) (removal : Removal) :
    Fleet.row builder { s with
        db := { s.db with
          buckets := Function.update s.db.buckets (builder.bucketKey target)
            (removal.apply (s.row builder target)) } } id =
      if id = target then removal.apply (s.row builder target) else s.row builder id := by
  unfold row
  dsimp only
  split
  · rename_i h_eq
    rw [h_eq, Function.update_self]
  · rename_i h_ne
    have h_key : builder.bucketKey id ≠ builder.bucketKey target := fun h => h_ne (by injection h)
    rw [Function.update_of_ne h_key]

theorem Readable.step {event : FleetEvent} (h_readable : Readable builder s)
    (h_happens : Happens builder s event s') : Readable builder s' := by
  have h_members := h_happens.members h_readable.members
  have h_clock := h_readable.clock.trans h_happens.clock_le
  refine ⟨h_members, h_clock, fun id => ?_⟩
  cases h_happens with
  | @started who quotas input db _ _ h_open =>
    have h_path := SqliteEngine.initializeBuckets_path h_open id
    exact h_path.keeps (fun _ _ h_step => h_step.valid) (h_readable.valid id)
  | notStarted => exact h_readable.valid id
  | @called who input request e e' result db _ h_engine _ h_called =>
    cases h_called with
    | committed h_rows =>
      have h_rewrites := h_rows id
      rw [(h_readable.members who e h_engine).bucketKey_eq] at h_rewrites
      exact h_rewrites.valid (h_readable.valid id)
    | raised => exact h_readable.valid id
  | inherited => exact h_readable.valid id
  | notInherited => exact h_readable.valid id
  | @removed target removal =>
    rw [row_removed]
    split
    · exact Removal.apply_valid removal (h_readable.valid target)
    · exact h_readable.valid id

theorem reached_readable (h_reached : Reached builder configured s) : Readable builder s := by
  obtain ⟨events, h_run⟩ := h_reached
  have h_init : Readable builder (init configured) :=
    ⟨init_members configured, le_refl _, fun id r h_row => by cases h_row⟩
  exact h_run.invariant (fun _ _ _ h_readable h_step => h_readable.step (step_happens h_step))
    h_init

/-! ### No false alarm -/

/-- The confirmation of an engine, if it lasts, is backed by the row. -/
def BackedBy (builder : SqliteBackendBuilder) (s : Fleet) (e : SqliteEngine) : Prop :=
  ∀ id confirmedUntil, e.stateConfirmedUntil id = some confirmedUntil →
    confirmedUntil ≤ s.clock + builder.bucketTtlSeconds ∧
      Backs s.clock confirmedUntil (s.row builder id)

/-- The invariant of the runs in which nobody touches a row from outside. -/
structure Backed (builder : SqliteBackendBuilder) (s : Fleet) : Prop where
  readable : Readable builder s
  paired : ∀ id, PairedRow (s.row builder id)
  engines : ∀ who e, s.engines who = some e → BackedBy builder s e

theorem nine_tenths_le (ttl : ℕ) (currentTime : ℚ) :
    currentTime + 9 / 10 * ttl ≤ currentTime + ttl := by
  have h_ttl : (0 : ℚ) ≤ ttl := Nat.cast_nonneg ttl
  linarith

/-- An engine's confirmation after a call: a new one, or the one it had. -/
theorem confirm_cases {e : SqliteEngine} {confirmedAt : BucketId → Option ℚ} {id : BucketId}
    {confirmedUntil : ℚ}
    (h_until : (e.confirm confirmedAt).stateConfirmedUntil id = some confirmedUntil) :
    (∃ time, confirmedAt id = some time ∧
      confirmedUntil = time + 9 / 10 * e.bucketTtlSeconds) ∨
    e.stateConfirmedUntil id = some confirmedUntil := by
  unfold SqliteEngine.confirm at h_until
  dsimp only at h_until
  split at h_until
  · rename_i time h_time
    cases h_until
    exact .inl ⟨time, h_time, rfl⟩
  · exact .inr h_until

theorem confirm_of_some {e : SqliteEngine} {confirmedAt : BucketId → Option ℚ} {id : BucketId}
    {time : ℚ} (h_time : confirmedAt id = some time) :
    (e.confirm confirmedAt).stateConfirmedUntil id =
      some (time + 9 / 10 * e.bucketTtlSeconds) := by
  unfold SqliteEngine.confirm
  dsimp only
  rw [h_time]

/-- An inheriting engine's confirmation: its own, or its predecessor's. -/
theorem inherit_cases {e e₀ e' : SqliteEngine} {id : BucketId} {confirmedUntil : ℚ}
    (h_ok : e.inheritStateConfirmations e₀ = .ok e')
    (h_until : e'.stateConfirmedUntil id = some confirmedUntil) :
    e.stateConfirmedUntil id = some confirmedUntil ∨
      e₀.stateConfirmedUntil id = some confirmedUntil := by
  unfold SqliteEngine.inheritStateConfirmations at h_ok
  split at h_ok
  · cases h_ok
  · cases h_ok
    dsimp only at h_until
    split at h_until
    · exact (Option.or_eq_some_iff.mp h_until).symm.imp_left And.right
    · exact .inl h_until

/-- What a committed call leaves of each confirmation. -/
theorem backedBy_committed {e : SqliteEngine} {who : ℕ} {input : TxnInput}
    {request : EngineRequest} {confirmedAt : BucketId → Option ℚ} {db : Database}
    (h_backed : Backed builder s) (h_clock : s.clock ≤ input.currentTime)
    (h_engine : s.engines who = some e)
    (h_rows : e.Rewritten input s.db request.relimits (e.limitAfter request) confirmedAt db)
    (id : BucketId) (confirmedUntil : ℚ) :
    (confirmedUntil ≤ s.clock + builder.bucketTtlSeconds →
      Backs s.clock confirmedUntil (s.row builder id) →
      confirmedUntil ≤ input.currentTime + builder.bucketTtlSeconds ∧
        Backs input.currentTime confirmedUntil (db.buckets (builder.bucketKey id))) ∧
    ((e.confirm confirmedAt).stateConfirmedUntil id = some confirmedUntil →
      confirmedUntil ≤ input.currentTime + builder.bucketTtlSeconds ∧
        Backs input.currentTime confirmedUntil (db.buckets (builder.bucketKey id))) := by
  have h_member := h_backed.readable.members who e h_engine
  have h_rewrites := h_rows id
  rw [h_member.bucketKey_eq] at h_rewrites
  have h_old : confirmedUntil ≤ s.clock + builder.bucketTtlSeconds →
      Backs s.clock confirmedUntil (s.row builder id) →
      confirmedUntil ≤ input.currentTime + builder.bucketTtlSeconds ∧
        Backs input.currentTime confirmedUntil (db.buckets (builder.bucketKey id)) := by
    intro h_until h_backs
    have h_until : confirmedUntil ≤ input.currentTime + builder.bucketTtlSeconds := by linarith
    refine ⟨h_until, h_rewrites.backs ?_ (h_backs.later h_clock)⟩
    rw [h_member.bucketTtlSeconds]
    exact h_until
  refine ⟨h_old, fun h_confirmed => ?_⟩
  obtain ⟨time, h_time, rfl⟩ | h_same := confirm_cases h_confirmed
  · obtain ⟨rfl, h_backs⟩ := h_rewrites.confirms.1 time h_time
    rw [h_member.bucketTtlSeconds] at h_backs ⊢
    have h_le := nine_tenths_le builder.bucketTtlSeconds input.currentTime
    exact ⟨h_le, h_backs.le h_le⟩
  · obtain ⟨h_until, h_backs⟩ := h_backed.engines who e h_engine id confirmedUntil h_same
    exact h_old h_until h_backs

theorem Backed.step {event : FleetEvent} (h_backed : Backed builder s)
    (h_untouched : untouched s event = true) (h_happens : Happens builder s event s') :
    Backed builder s' := by
  have h_readable := h_backed.readable.step h_happens
  cases h_happens with
  | @started who quotas input db h_clock _ h_open =>
    -- a new engine has confirmed nothing; what it writes keeps what others have confirmed
    have h_path := SqliteEngine.initializeBuckets_path h_open
    refine ⟨h_readable, fun id => ?_, fun who' e' h_engine => ?_⟩
    · exact (h_path id).keeps (fun _ _ h_step => h_step.paired) (h_backed.paired id)
    · intro id confirmedUntil h_confirmed
      dsimp only at h_engine
      rw [Function.update_apply] at h_engine
      split at h_engine
      · cases h_engine
        cases h_confirmed
      · obtain ⟨h_until, h_backs⟩ := h_backed.engines who' e' h_engine id confirmedUntil h_confirmed
        have h_until : confirmedUntil ≤ input.currentTime + builder.bucketTtlSeconds := by
          linarith
        refine ⟨h_until, ?_⟩
        have h_retained : confirmedUntil ≤
            input.currentTime + (builder.engine quotas).bucketTtlSeconds := h_until
        exact @RowPath.keeps _ _ _ _ _ (fun v => Backs input.currentTime confirmedUntil v.row)
          (fun _ _ h_step => h_step.backs h_retained) (h_path id) (h_backs.later h_clock)
  | notStarted h_clock =>
    refine ⟨h_readable, h_backed.paired, fun who e h_engine id confirmedUntil h_confirmed => ?_⟩
    obtain ⟨h_until, h_backs⟩ := h_backed.engines who e h_engine id confirmedUntil h_confirmed
    exact ⟨h_until.trans (add_le_add_left h_clock _), h_backs.later h_clock⟩
  | @called who input request e e' result db h_clock h_engine _ h_called =>
    cases h_called with
    | committed h_rows =>
      have h_after := backedBy_committed h_backed h_clock h_engine h_rows
      refine ⟨h_readable, fun id => ?_, fun who' e' h_engine' => ?_⟩
      · have h_rewrites := h_rows id
        rw [(h_backed.readable.members who e h_engine).bucketKey_eq] at h_rewrites
        exact h_rewrites.paired (h_backed.paired id)
      · intro id confirmedUntil h_confirmed
        dsimp only at h_engine'
        rw [Function.update_apply] at h_engine'
        split at h_engine'
        · cases h_engine'
          exact (h_after id confirmedUntil).2 h_confirmed
        · obtain ⟨h_until, h_backs⟩ :=
            h_backed.engines who' e' h_engine' id confirmedUntil h_confirmed
          exact (h_after id confirmedUntil).1 h_until h_backs
    | raised =>
      rw [Function.update_eq_self_iff.mpr h_engine.symm] at h_readable ⊢
      refine ⟨h_readable, h_backed.paired, fun who e h_engine id confirmedUntil h_confirmed => ?_⟩
      obtain ⟨h_until, h_backs⟩ := h_backed.engines who e h_engine id confirmedUntil h_confirmed
      exact ⟨h_until.trans (add_le_add_left h_clock _), h_backs.later h_clock⟩
  | @inherited who previous e e₀ e' h_engine h_previous _ h_ok =>
    refine ⟨h_readable, h_backed.paired, fun who' e'' h_engine' => ?_⟩
    intro id confirmedUntil h_confirmed
    dsimp only at h_engine'
    rw [Function.update_apply] at h_engine'
    split at h_engine'
    · cases h_engine'
      -- an inherited confirmation is one of an engine of the same store
      obtain h_own | h_inherited := inherit_cases h_ok h_confirmed
      · exact h_backed.engines who e h_engine id confirmedUntil h_own
      · exact h_backed.engines previous e₀ h_previous id confirmedUntil h_inherited
    · exact h_backed.engines who' e'' h_engine' id confirmedUntil h_confirmed
  | notInherited => exact h_backed
  -- the one event that may take a confirmed state away
  | removed => cases h_untouched

theorem undisturbed_backed (h_undisturbed : Undisturbed builder configured s) :
    Backed builder s := by
  obtain ⟨events, h_run⟩ := h_undisturbed
  have h_init : Backed builder (init configured) := by
    refine ⟨reached_readable ⟨[], .nil _⟩, fun id r h_row => ?_, fun who e h_engine => ?_⟩
    · cases h_row
    · cases h_engine
  refine h_run.invariant (fun s event s' h_backed h_step => ?_) h_init
  obtain ⟨h_untouched, h_step⟩ := steps_guard_iff.mp h_step
  exact h_backed.step h_untouched (step_happens h_step)

theorem suspected_iff {e : SqliteEngine} {id : BucketId} {currentTime : ℚ} :
    e.stateLossSuspected id currentTime = true ↔
      ∃ confirmedUntil, e.stateConfirmedUntil id = some confirmedUntil ∧
        currentTime < confirmedUntil := by
  unfold SqliteEngine.stateLossSuspected
  rw [Option.any_eq_true]
  simp

/-- While nobody touches a row from outside, only new buckets miss their state. -/
theorem Backed.missesNew {who : ℕ} {e : SqliteEngine} {input : TxnInput} {id : BucketId}
    {loaded : LoadedRow} (h_backed : Backed builder s) (h_engine : s.engines who = some e)
    (h_time : s.clock ≤ input.currentTime) (h_loads : e.LoadsRow input s.db id (.ok loaded)) :
    loaded.state.MissesNew := by
  obtain ⟨writable, row, h_path, _, h_ok⟩ := h_loads.read
  have h_member := h_backed.readable.members who e h_engine
  rw [h_member.bucketKey_eq] at h_path
  have h_paired : PairedRow row :=
    h_path.keeps (fun _ _ h_step => h_step.paired) (h_backed.paired id)
  have h_backs : e.stateLossSuspected id input.currentTime = true →
      ∃ confirmedUntil, input.currentTime < confirmedUntil ∧
        confirmedUntil ≤ input.currentTime + e.bucketTtlSeconds ∧
        Backs input.currentTime confirmedUntil row := by
    intro h_suspected
    obtain ⟨confirmedUntil, h_confirmed, h_lasts⟩ := suspected_iff.mp h_suspected
    obtain ⟨h_until, h_backs⟩ := h_backed.engines who e h_engine id confirmedUntil h_confirmed
    have h_until : confirmedUntil ≤ input.currentTime + e.bucketTtlSeconds := by
      rw [h_member.bucketTtlSeconds]
      linarith
    refine ⟨confirmedUntil, h_lasts, h_until, ?_⟩
    exact @RowPath.keeps _ _ _ _ _ (fun v => Backs input.currentTime confirmedUntil v.row)
      (fun _ _ h_step => h_step.backs h_until) h_path (h_backs.later h_time)
  obtain ⟨reading, h_read, _⟩ := loadRow_ok h_ok.symm
  exact loadRow_kept h_read (readRow_kept h_paired h_backs h_read) h_ok.symm

/-! ### No miss -/

/-- The bucket has no state. -/
def Vanished (builder : SqliteBackendBuilder) (id : BucketId) (s : Fleet) : Prop :=
  ∀ r, s.row builder id = some r → r.Stateless

/-- The engine has confirmed the bucket until the given time at least. -/
structure Watches (builder : SqliteBackendBuilder) (who : ℕ) (id : BucketId) (time : ℚ)
    (s : Fleet) : Prop where
  readable : Readable builder s
  soon : time ≤ s.clock + 9 / 10 * builder.bucketTtlSeconds
  confirmed : ∃ e confirmedUntil, s.engines who = some e ∧
    e.stateConfirmedUntil id = some confirmedUntil ∧ time ≤ confirmedUntil

/-- An engine never takes a confirmation back. -/
theorem Watches.step {who : ℕ} {id : BucketId} {time : ℚ} {event : FleetEvent}
    (h_watches : Watches builder who id time s) (h_happens : Happens builder s event s') :
    Watches builder who id time s' := by
  have h_readable := h_watches.readable.step h_happens
  have h_soon : time ≤ s'.clock + 9 / 10 * builder.bucketTtlSeconds :=
    h_watches.soon.trans (add_le_add_left h_happens.clock_le _)
  refine ⟨h_readable, h_soon, ?_⟩
  obtain ⟨e, confirmedUntil, h_engine, h_confirmed, h_le⟩ := h_watches.confirmed
  -- whoever else changes, this engine stays
  have h_other : ∀ {who' : ℕ} {e' : SqliteEngine}, who' ≠ who →
      ∃ e confirmedUntil, Function.update s.engines who' (some e') who = some e ∧
        e.stateConfirmedUntil id = some confirmedUntil ∧ time ≤ confirmedUntil := by
    intro who' e' h_ne
    rw [Function.update_of_ne h_ne.symm]
    exact ⟨e, confirmedUntil, h_engine, h_confirmed, h_le⟩
  cases h_happens with
  | @started who' _ _ _ _ h_free _ =>
    apply h_other
    intro h_eq
    rw [h_eq, h_engine] at h_free
    cases h_free
  | notStarted => exact ⟨e, confirmedUntil, h_engine, h_confirmed, h_le⟩
  | @called who' input request e₁ e' result db h_clock h_engine' _ h_called =>
    by_cases h_eq : who' = who
    · subst h_eq
      rw [h_engine] at h_engine'
      cases h_engine'
      dsimp only
      rw [Function.update_self]
      cases h_called with
      | @committed outcome confirmedAt configured _ h_rows =>
        have h_member := h_watches.readable.members _ e h_engine
        have h_rewrites := h_rows id
        cases h_time : confirmedAt id with
        | none =>
          exact ⟨_, confirmedUntil, rfl, (SqliteEngine.confirm_of_none h_time).trans h_confirmed,
            h_le⟩
        | some confirmedTime =>
          obtain ⟨h_now, _⟩ := h_rewrites.confirms.1 confirmedTime h_time
          refine ⟨_, _, rfl, confirm_of_some h_time, ?_⟩
          rw [h_now, h_member.bucketTtlSeconds]
          exact h_soon
      | raised => exact ⟨e, confirmedUntil, rfl, h_confirmed, h_le⟩
    · exact h_other h_eq
  | @inherited who' previous e₁ e₀ e' h_engine' _ h_unconfirmed h_ok =>
    by_cases h_eq : who' = who
    · subst h_eq
      rw [h_engine] at h_engine'
      cases h_engine'
      dsimp only
      rw [Function.update_self]
      -- an engine that inherits has confirmed none of its buckets
      have h_notMem : id ∉ e.buckets := by
        intro h_mem
        have h_none := List.all_eq_true.mp h_unconfirmed id h_mem
        rw [h_confirmed] at h_none
        cases h_none
      refine ⟨e', confirmedUntil, rfl, ?_, h_le⟩
      unfold SqliteEngine.inheritStateConfirmations at h_ok
      split at h_ok
      · cases h_ok
      · cases h_ok
        dsimp only
        rw [if_neg fun h => h_notMem h.1]
        exact h_confirmed
    · exact h_other h_eq
  | notInherited => exact ⟨e, confirmedUntil, h_engine, h_confirmed, h_le⟩
  | removed => exact ⟨e, confirmedUntil, h_engine, h_confirmed, h_le⟩

/-- A call that has written the state of a bucket, or confirmed it, leaves its engine
    watching for nine tenths of the TTL. -/
theorem Establishes.watches {who : ℕ} {id : BucketId} {input : TxnInput}
    {request : EngineRequest} (h_readable : Readable builder s)
    (h_happens : Happens builder s (.call who input request) s')
    (h_establishes : Establishes builder s s' who id) :
    Watches builder who id (s'.clock + 9 / 10 * builder.bucketTtlSeconds) s' := by
  refine ⟨h_readable.step h_happens, le_refl _, ?_⟩
  obtain ⟨e', h_engine, h_confirmed⟩ | ⟨r', h_row', h_stored, h_changed⟩ := h_establishes
  · exact ⟨e', _, h_engine, h_confirmed, le_refl _⟩
  · cases h_happens with
    | @called _ _ _ e e' result db _ h_engine _ h_called =>
      cases h_called with
      | @committed outcome confirmedAt configured _ h_rows =>
        have h_member := h_readable.members who e h_engine
        have h_rewrites := h_rows id
        rw [h_member.bucketKey_eq] at h_rewrites
        obtain ⟨h_confirms, h_unwritten⟩ := h_rewrites.confirms
        cases h_time : confirmedAt id with
        | none =>
          obtain ⟨r, h_row, h_capacity, h_last⟩ := h_unwritten h_time r' h_row' h_stored
          exact absurd h_last (h_changed r h_row h_capacity)
        | some time =>
          obtain ⟨h_now, _⟩ := h_confirms time h_time
          refine ⟨_, _, Function.update_self .., confirm_of_some h_time, ?_⟩
          rw [h_now, h_member.bucketTtlSeconds]
      | raised => exact absurd rfl (h_changed r' h_row' rfl)

/-! ### What nobody loads -/

/-- A row that is not the one of before has no state, and the one of before has expired. -/
def StaysOrExpires (builder : SqliteBackendBuilder) (id : BucketId) (s s' : Fleet) : Prop :=
  s'.row builder id = s.row builder id ∨
    (Vanished builder id s' ∧ ∀ r, s.row builder id = some r → r.expiresAt ≤ s'.clock)

theorem prunedRow_cases (input : TxnInput) (key : BucketKey) (row : Option BucketRow) :
    input.prunedRow key row = row ∨
      (input.prunedRow key row = none ∧ ∃ r, row = some r ∧ r.expiresAt ≤ input.currentTime) := by
  cases row with
  | none => exact .inl rfl
  | some r =>
    unfold TxnInput.prunedRow
    rw [Option.filter_some]
    split
    · exact .inl rfl
    · rename_i h_pruned
      rw [decide_eq_true_iff, not_not] at h_pruned
      exact .inr ⟨rfl, r, rfl, h_pruned.1⟩

/-- A call that opens no transaction changes nothing. -/
theorem call_closed {e : SqliteEngine} {input : TxnInput} {db : Database}
    {request : EngineRequest} (h_closed : request.opens e = false) :
    e.call input db request = (.ok .done, e, db) := by
  cases request with
  | clearMaxCapacityOverrides bucketIds configuredMaxCapacities =>
    have h_noTarget : e.buckets.filter (· ∈ bucketIds) = [] := by
      rw [List.filter_eq_nil_iff]
      intro id h_mem h_target
      have h_none : e.buckets.any (· ∈ bucketIds) = false := h_closed
      rw [List.any_eq_true.mpr ⟨id, h_mem, h_target⟩] at h_none
      cases h_none
    show SqliteEngine.answer _ (e.clearMaxCapacityOverrides input db bucketIds _) = _
    unfold SqliteEngine.clearMaxCapacityOverrides
    rw [if_pos h_noTarget]
    rfl
  | tryConsume => cases h_closed
  | consume => cases h_closed
  | refund => cases h_closed
  | cleanupConsumption => cases h_closed
  | setMaxCapacity => cases h_closed
  | applyConfiguredMaxCapacity => cases h_closed

/-- A call that does not load the bucket prunes its row at most. -/
theorem called_unloaded {who : ℕ} {id : BucketId} {input : TxnInput} {request : EngineRequest}
    (h_members : Members builder s)
    (h_unloaded : s.loads id (.call who input request) = false)
    (h_happens : Happens builder s (.call who input request) s') :
    StaysOrExpires builder id s s' := by
  cases h_happens with
  | @called _ _ _ e e' result db _ h_engine h_call h_called =>
    have h_member := h_members who e h_engine
    have h_idle : id ∈ e.buckets → (e.call input s.db request).1.isOk = true →
        request.opens e = false := by
      intro h_mem h_ok
      have h_unloaded : ((s.engines who).any fun e =>
        id ∈ e.buckets && request.opens e && (e.call input s.db request).1.isOk) = false :=
          h_unloaded
      rw [h_engine, Option.any_some, h_ok, decide_eq_true h_mem] at h_unloaded
      simpa using h_unloaded
    rw [h_call] at h_idle
    cases h_called with
    | @committed outcome confirmedAt configured _ h_rows =>
      by_cases h_mem : id ∈ e.buckets
      · rw [call_closed (h_idle h_mem rfl)] at h_call
        injection h_call with _ h_call
        injection h_call with _ h_db
        left
        show db.buckets (builder.bucketKey id) = s.row builder id
        rw [← h_db]
        rfl
      · have h_rewrites := h_rows id
        rw [h_member.bucketKey_eq] at h_rewrites
        generalize e.limitAfter request id = limit at h_rewrites
        cases h_rewrites with
        | kept _ h_path =>
          obtain h_same | ⟨h_none, _, r, h_row, h_expired⟩ := path_of_notMem h_path h_mem
          · exact .inl (congrArg RowView.row h_same)
          · refine .inr ⟨fun r' h_row' => ?_, fun r' h_row' => ?_⟩
            · have h_none : db.buckets (builder.bucketKey id) = none := h_none
              have h_row' : db.buckets (builder.bucketKey id) = some r' := h_row'
              rw [h_none] at h_row'
              cases h_row'
            · have h_row : s.row builder id = some r := h_row
              rw [h_row] at h_row'
              cases h_row'
              exact h_expired
        | limited _ h_limited =>
          exact absurd h_limited.mem h_mem
    | raised => exact .inl rfl

/-- An event that does not load the bucket prunes its row, or inserts an empty one. -/
theorem Happens.unloaded {id : BucketId} {event : FleetEvent} (h_members : Members builder s)
    (h_unloaded : s.loads id event = false) (h_kept : removes id event = false)
    (h_happens : Happens builder s event s') : StaysOrExpires builder id s s' := by
  cases h_happens with
  | @started who quotas input db h_clock _ h_open =>
    have h_rows : db.buckets (builder.bucketKey id) =
        (input.prunedRow (builder.bucketKey id) (s.row builder id)).or
          (if id ∈ (builder.engine quotas).buckets then
            some (.fresh input.currentTime builder.bucketTtlSeconds) else none) :=
      (SqliteEngine.initializeBuckets_rows h_open).2 id
    cases h_pruned : input.prunedRow (builder.bucketKey id) (s.row builder id) with
    | some r =>
      rw [h_pruned, Option.some_or] at h_rows
      obtain h_same | ⟨h_none, _⟩ :=
        prunedRow_cases input (builder.bucketKey id) (s.row builder id)
      · exact .inl (h_rows.trans (h_pruned.symm.trans h_same))
      · rw [h_none] at h_pruned
        cases h_pruned
    | none =>
      rw [h_pruned, Option.none_or] at h_rows
      refine .inr ⟨fun r h_row => ?_, fun r h_row => ?_⟩
      · have h_row : db.buckets (builder.bucketKey id) = some r := h_row
        rw [h_rows] at h_row
        split at h_row
        · cases h_row
          exact ⟨rfl, rfl⟩
        · cases h_row
      · obtain h_same | ⟨_, r', h_some, h_expired⟩ :=
          prunedRow_cases input (builder.bucketKey id) (s.row builder id)
        · rw [h_pruned, h_row] at h_same
          cases h_same
        · rw [h_row] at h_some
          cases h_some
          exact h_expired
  | notStarted => exact .inl rfl
  | called h_clock h_engine h_call h_called =>
    exact called_unloaded h_members h_unloaded (.called h_clock h_engine h_call h_called)
  | inherited => exact .inl rfl
  | notInherited => exact .inl rfl
  | @removed target removal =>
    left
    have h_ne : id ≠ target := by
      intro h_eq
      have h_kept : decide (target = id) = false := h_kept
      rw [h_eq, decide_eq_true rfl] at h_kept
      cases h_kept
    rw [row_removed, if_neg h_ne]

/-- What has no state gets none before it is loaded. -/
theorem Vanished.step {id : BucketId} {event : FleetEvent} (h_members : Members builder s)
    (h_vanished : Vanished builder id s) (h_unloaded : s.loads id event = false)
    (h_happens : Happens builder s event s') : Vanished builder id s' := by
  cases h_removes : removes id event with
  | false =>
    obtain h_same | ⟨h_vanished', _⟩ := h_happens.unloaded h_members h_unloaded h_removes
    · intro r h_row
      rw [h_same] at h_row
      exact h_vanished r h_row
    · exact h_vanished'
  | true =>
    cases h_happens with
    | @removed target removal =>
      have h_eq : target = id := of_decide_eq_true h_removes
      intro r h_row
      rw [row_removed, if_pos h_eq.symm, h_eq] at h_row
      cases removal with
      | row => cases h_row
      | state =>
        obtain ⟨r', _, rfl⟩ := Option.map_eq_some_iff.mp h_row
        exact ⟨rfl, rfl⟩
      | field field =>
        cases field with
        | capacity =>
          obtain ⟨r', h_row', rfl⟩ := Option.map_eq_some_iff.mp h_row
          exact ⟨rfl, (h_vanished r' h_row').2⟩
        | lastChecked =>
          obtain ⟨r', h_row', rfl⟩ := Option.map_eq_some_iff.mp h_row
          exact ⟨(h_vanished r' h_row').1, rfl⟩
    | _ => cases h_removes

/-! ### Losses -/

/-- A call of the engine at the given time writes the bucket's state or confirms it.
    Anything may happen until the whole state is taken out; nobody loads the bucket from
    then on. -/
def LosesState (builder : SqliteBackendBuilder) (configured : BucketId → MaxCapacity) (who : ℕ)
    (id : BucketId) (confirmedAt : ℚ) (s : Fleet) : Prop :=
  ∃ before called present lost : Fleet, ∃ input request events removal idle,
    Reached builder configured before ∧
    Steps (step builder) before (.call who input request) called ∧
    Establishes builder before called who id ∧ called.clock = confirmedAt ∧
    Run (Steps (step builder)) called events present ∧
    (removal = .row ∨ removal = .state) ∧
    Steps (step builder) present (.remove id removal) lost ∧
    Run (Steps (guard (step builder) (unloaded id))) lost idle s

/-- One field of a stored state is taken out; nobody loads the bucket or takes out more
    from then on. -/
def LosesField (builder : SqliteBackendBuilder) (configured : BucketId → MaxCapacity)
    (id : BucketId) (expiresAt : ℚ) (s : Fleet) : Prop :=
  ∃ present lost : Fleet, ∃ row field idle,
    Reached builder configured present ∧
    present.row builder id = some row ∧ row.Stored ∧ row.expiresAt = expiresAt ∧
    Steps (step builder) present (.remove id (.field field)) lost ∧
    Run (Steps (guard (step builder) (leftAlone id))) lost idle s

theorem row_of_remove {id : BucketId} {removal : Removal}
    (h_remove : Steps (step builder) s (.remove id removal) s') :
    s'.row builder id = removal.apply (s.row builder id) := by
  cases h_remove
  exact Function.update_self ..

/-- The engine still watches a bucket that has no state. -/
theorem LosesState.watched {who : ℕ} {id : BucketId} {confirmedAt : ℚ}
    (h_loses : LosesState builder configured who id confirmedAt s) :
    Watches builder who id (confirmedAt + 9 / 10 * builder.bucketTtlSeconds) s ∧
      Vanished builder id s := by
  obtain ⟨before, called, present, lost, input, request, events, removal, idle, h_reached, h_call,
    h_establishes, rfl, h_events, h_removal, h_remove, h_idle⟩ := h_loses
  have h_watches := h_establishes.watches (reached_readable h_reached) (step_happens h_call)
  have h_present := h_events.invariant
    (fun _ _ _ h_watches h_step => h_watches.step (step_happens h_step)) h_watches
  have h_lost := h_present.step (step_happens h_remove)
  have h_vanished : Vanished builder id lost := by
    intro r h_row
    rw [row_of_remove h_remove] at h_row
    obtain rfl | rfl := h_removal
    · cases h_row
    · obtain ⟨_, _, rfl⟩ := Option.map_eq_some_iff.mp h_row
      exact ⟨rfl, rfl⟩
  refine @Run.invariant _ _ _ _ _ _
    (fun s => Watches builder who id _ s ∧ Vanished builder id s)
    (fun s event s' h_both h_step => ?_) h_idle ⟨h_lost, h_vanished⟩
  obtain ⟨h_unloaded, h_step⟩ := steps_guard_iff.mp h_step
  have h_happens := step_happens h_step
  have h_unloaded : s.loads id event = false := by
    unfold unloaded at h_unloaded
    simpa using h_unloaded
  exact ⟨h_both.1.step h_happens,
    h_both.2.step h_both.1.readable.members h_unloaded h_happens⟩

/-- Half a state is still there, until it expires. -/
theorem LosesField.halved {id : BucketId} {expiresAt : ℚ}
    (h_loses : LosesField builder configured id expiresAt s) :
    Readable builder s ∧ ((∃ r, s.row builder id = some r ∧ ¬ r.Paired ∧ r.expiresAt = expiresAt) ∨
      expiresAt ≤ s.clock) := by
  obtain ⟨present, lost, row, field, idle, h_reached, h_row, h_stored, rfl, h_remove, h_idle⟩ :=
    h_loses
  have h_lost := (reached_readable h_reached).step (step_happens h_remove)
  have h_half : ∃ r, lost.row builder id = some r ∧ ¬ r.Paired ∧ r.expiresAt = row.expiresAt := by
    rw [row_of_remove h_remove, h_row]
    cases field with
    | capacity =>
      refine ⟨_, rfl, fun h_paired => ?_, rfl⟩
      have h_paired : false = row.lastChecked.isSome := h_paired
      rw [h_stored.2] at h_paired
      cases h_paired
    | lastChecked =>
      refine ⟨_, rfl, fun h_paired => ?_, rfl⟩
      have h_paired : row.capacity.isSome = false := h_paired
      rw [h_stored.1] at h_paired
      cases h_paired
  refine @Run.invariant _ _ _ _ _ _ (fun s => Readable builder s ∧
      ((∃ r, s.row builder id = some r ∧ ¬ r.Paired ∧ r.expiresAt = row.expiresAt) ∨
        row.expiresAt ≤ s.clock)) (fun s event s' h_both h_step => ?_) h_idle
    ⟨h_lost, .inl h_half⟩
  obtain ⟨h_alone, h_step⟩ := steps_guard_iff.mp h_step
  have h_happens := step_happens h_step
  refine ⟨h_both.1.step h_happens, ?_⟩
  obtain ⟨h_unloaded, h_kept⟩ : s.loads id event = false ∧ removes id event = false := by
    unfold leftAlone at h_alone
    simpa using h_alone
  obtain ⟨r, h_some, h_unpaired, h_expiresAt⟩ | h_expired := h_both.2
  · obtain h_same | ⟨_, h_expires⟩ := h_happens.unloaded h_both.1.members h_unloaded h_kept
    · exact .inl ⟨r, h_same.trans h_some, h_unpaired, h_expiresAt⟩
    · rw [← h_expiresAt]
      exact .inr (h_expires r h_some)
  · exact .inr (h_expired.trans h_happens.clock_le)

/-- The engine that has confirmed a state finds it lost in a row that has vanished. -/
theorem Watches.drains {who : ℕ} {e : SqliteEngine} {input : TxnInput} {id : BucketId}
    {time : ℚ} (h_watches : Watches builder who id time s) (h_vanished : Vanished builder id s)
    (h_engine : s.engines who = some e) (h_time : s.clock ≤ input.currentTime)
    (h_soon : input.currentTime < time) (result : Except BackendError LoadedRow)
    (h_loads : e.LoadsRow input s.db id result) :
    ∃ loaded, result = .ok loaded ∧ loaded.state.Drained := by
  obtain ⟨e', confirmedUntil, h_engine', h_confirmed, h_le⟩ := h_watches.confirmed
  rw [h_engine] at h_engine'
  cases h_engine'
  obtain ⟨writable, row, _, h_row, rfl⟩ := h_loads.read
  have h_member := h_watches.readable.members who e h_engine
  rw [h_member.bucketKey_eq] at h_row
  have h_sub : ∀ r, row = some r → s.row builder id = some r := by
    intro r h_some
    obtain h_same | h_pruned := h_row
    · exact h_same.symm.trans h_some
    · rw [h_some] at h_pruned
      exact (Option.filter_eq_some_iff.mp h_pruned.symm).1
  apply loadRow_vanished (h_watches.readable.clock.trans h_time)
  · intro r h_some
    exact h_watches.readable.valid id r (h_sub r h_some)
  · intro r h_some
    exact h_vanished r (h_sub r h_some)
  · exact suspected_iff.mpr ⟨confirmedUntil, h_confirmed, h_soon.trans_le h_le⟩

/-- Every engine finds a state lost of which one field is there. -/
theorem Readable.drains_half {who : ℕ} {e : SqliteEngine} {input : TxnInput} {id : BucketId}
    {r : BucketRow} (h_readable : Readable builder s) (h_some : s.row builder id = some r)
    (h_half : ¬ r.Paired) (h_engine : s.engines who = some e)
    (h_time : s.clock ≤ input.currentTime) (h_soon : input.currentTime < r.expiresAt)
    (result : Except BackendError LoadedRow) (h_loads : e.LoadsRow input s.db id result) :
    ∃ loaded, result = .ok loaded ∧ loaded.state.Drained := by
  obtain ⟨writable, row, _, h_row, rfl⟩ := h_loads.read
  have h_member := h_readable.members who e h_engine
  rw [h_member.bucketKey_eq] at h_row
  have h_row : row = some r := by
    obtain h_same | h_pruned := h_row
    · exact h_same.trans h_some
    · obtain h_same | ⟨_, r', h_some', h_expired⟩ := prunedRow_cases input
        (builder.bucketKey id) (s.row builder id)
      · exact h_pruned.trans (h_same.trans h_some)
      · rw [h_some] at h_some'
        cases h_some'
        exact absurd h_expired (not_le.mpr h_soon)
  rw [h_row]
  exact loadRow_half (h_readable.clock.trans h_time) (h_readable.valid id r h_some) h_half h_soon

/-- Losses of state are detected exactly: no load takes a state for lost while nobody
    touches a row from outside; a whole state that is taken out is taken for lost by the
    engine that has confirmed it, half a state by every engine. -/
theorem stateLoss_detected {who : ℕ} {e : SqliteEngine} {input : TxnInput} {id : BucketId}
    (h_engine : s.engines who = some e) (h_time : s.clock ≤ input.currentTime)
    (h_mem : id ∈ e.buckets) :
    (Undisturbed builder configured s →
      ∀ states, e.Loads input s.db (.ok states) → (states id).MissesNew) ∧
    (∀ confirmedAt, LosesState builder configured who id confirmedAt s →
      input.currentTime < confirmedAt + 9 / 10 * builder.bucketTtlSeconds →
      ∀ result, e.Loads input s.db result → e.Drains input s.db id result) ∧
    (∀ expiresAt, LosesField builder configured id expiresAt s →
      input.currentTime < expiresAt →
      ∀ result, e.Loads input s.db result → e.Drains input s.db id result) := by
  refine ⟨fun h_undisturbed states h_loads => ?_,
    fun confirmedAt h_loses h_soon result h_loads => ?_,
    fun expiresAt h_loses h_soon result h_loads => ?_⟩
  · obtain ⟨loaded, h_loaded, h_state⟩ := h_loads.row_of_ok h_mem
    rw [h_state]
    exact (undisturbed_backed h_undisturbed).missesNew h_engine h_time h_loaded
  · obtain ⟨h_watches, h_vanished⟩ := h_loses.watched
    exact h_loads.drains h_mem (h_watches.drains h_vanished h_engine h_time h_soon)
  · obtain ⟨h_readable, ⟨r, h_some, h_half, rfl⟩ | h_expired⟩ := h_loses.halved
    · exact h_loads.drains h_mem (h_readable.drains_half h_some h_half h_engine h_time h_soon)
    · exact absurd (h_expired.trans h_time) (not_le.mpr h_soon)

/-- A consumption, after which the row is deleted. -/
theorem removedRow_loses : ∃ s e, s.engines 0 = some e ∧ tokensPerMinute ∈ e.buckets ∧
    s.clock = 0 ∧
    LosesState exampleStore (fun _ => oneHundred) 0 tokensPerMinute 0 s := by
  have h_exec : ((step exampleStore (init fun _ => oneHundred) (.start 0 hundredTokens (.at 0))).any
      fun before => (step exampleStore before (.call 0 (.at 0) (.consume (tokens 30) none none))).any
        fun called => (called.engines 0).any (fun e =>
          e.stateConfirmedUntil tokensPerMinute =
            some (called.clock + 9 / 10 * exampleStore.bucketTtlSeconds) ∧
          tokensPerMinute ∈ e.buckets) &&
          called.clock = 0) = true := by
    decide +kernel
  obtain ⟨before, h_start, h_exec⟩ := (Option.any_eq_true _ _).mp h_exec
  obtain ⟨called, h_call, h_exec⟩ := (Option.any_eq_true _ _).mp h_exec
  obtain ⟨h_engine, h_clock⟩ := Bool.and_eq_true_iff.mp h_exec
  obtain ⟨e, h_engine, h_confirmed⟩ := (Option.any_eq_true _ _).mp h_engine
  have h_clock : called.clock = 0 := of_decide_eq_true h_clock
  obtain ⟨h_confirmed, h_mem⟩ := of_decide_eq_true h_confirmed
  have h_establishes : Establishes exampleStore before called 0 tokensPerMinute :=
    .inl ⟨e, h_engine, h_confirmed⟩
  obtain ⟨lost, h_remove, h_engines, h_same⟩ : ∃ lost,
      Steps (step exampleStore) called (.remove tokensPerMinute .row) lost ∧
        lost.engines = called.engines ∧ lost.clock = called.clock := ⟨_, rfl, rfl, rfl⟩
  have h_loses : LosesState exampleStore (fun _ => oneHundred) 0 tokensPerMinute 0 lost :=
    ⟨before, called, called, lost, .at 0, .consume (tokens 30) none none, [], .row, [],
      ⟨[_], .cons h_start (.nil _)⟩, h_call, h_establishes, h_clock, .nil _, .inl rfl, h_remove,
      .nil _⟩
  exact ⟨lost, e, h_engines ▸ h_engine, h_mem, h_same.trans h_clock, h_loses⟩

/-- Ten seconds later the engine drains the bucket. -/
theorem stateLoss_detected_removedRow : ∃ s e, s.engines 0 = some e ∧
    LosesState exampleStore (fun _ => oneHundred) 0 tokensPerMinute 0 s ∧
    ∀ result, SqliteEngine.Loads e (.at 10) s.db result →
      e.Drains (.at 10) s.db tokensPerMinute result := by
  obtain ⟨s, e, h_engine, h_mem, h_clock, h_loses⟩ := removedRow_loses
  have h_time : s.clock ≤ (TxnInput.at 10).currentTime := by
    rw [h_clock]
    decide +kernel
  refine ⟨s, e, h_engine, h_loses, ?_⟩
  exact (stateLoss_detected h_engine h_time h_mem).2.1 0 h_loses (by decide +kernel)

end Fleet

end TokenThrottle
