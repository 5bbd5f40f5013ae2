/-
  TokenThrottle.Sqlite.RefinesMemory

  The SQLite backend refines the memory backend: on a trace in which nothing expires
  and no debt is too large to retain, both give the same outcome at every call and
  afterwards show the same capacity and the same limit for every bucket.

  Each operation is one lemma `..._refines`: its transaction is run forward through
  the parts of `Sqlite.Simulation`, next to the memory backend's own operation.
-/
import TokenThrottle.Memory.RateBound
import TokenThrottle.Sqlite.Lifetimes
import TokenThrottle.Theory.Runs

namespace TokenThrottle

open Theory (Body Run)

/-! ## Transactions -/

namespace SqliteEngine

variable {e : SqliteEngine} {db : Database} {s : MemoryBackend} {input : TxnInput}
  {clock currentTime : ℚ} {t : TxnState}

/-- A transaction that is not interrupted commits what its body ends with. -/
theorem transaction_ends {α : Type} {raises : BackendError → Prop}
    {post : α → TxnState → Prop} {body : Txn α} (h_input : input.interruptAfter = none)
    (h_running : ∀ a t, post a t → t.interruptAfter = none)
    (h_body : Body.Ends raises post body ⟨db, fun _ => none, none⟩) :
    (∃ error, raises error ∧ e.transaction input db body = (.error error, e, db)) ∨
    (∃ a t, post a t ∧
      e.transaction input db body = (.ok a, e.confirm t.pendingStateConfirmations, t.db)) := by
  unfold transaction Theory.atomically
  rw [h_input]
  unfold Body.Ends at h_body
  cases h_run : body ⟨db, fun _ => none, none⟩ with
  | ok a t =>
    rw [h_run] at h_body
    refine .inr ⟨a, t, h_body, ?_⟩
    simp only [Body.bind_ok h_run, Body.bind_ok (execute_run _ (h_running a t h_body))]
    rfl
  | error error t =>
    rw [h_run] at h_body
    refine .inl ⟨error, h_body, ?_⟩
    simp only [Body.bind_error h_run]

/-- A committed transaction stands for the memory backend its body ended with. -/
theorem Settled.commit (h_settled : Settled e t s currentTime) :
    Sim (e.confirm t.pendingStateConfirmations) t.db s currentTime where
  buckets_eq := h_settled.buckets_eq
  row id h_mem := by
    obtain ⟨row, h_row, h_sim⟩ := h_settled.row id h_mem
    have h_found : t.db.buckets ((e.confirm t.pendingStateConfirmations).bucketKey id) =
      some row := h_row
    rw [h_found]
    exact h_sim
  confirmed id h_mem h_until := by
    refine h_settled.confirmed id h_mem ?_
    simp only [confirm] at h_until
    cases h_pending : t.pendingStateConfirmations id with
    | none =>
      rw [h_pending] at h_until
      exact .inl h_until
    | some confirmedAt => exact .inr rfl
  tables := ⟨h_settled.tables.marker, h_settled.tables.tombstone, h_settled.tables.exclusive⟩

/-- Loading every bucket of a database that stands for a memory backend. -/
theorem loadStates_sim (h_sim : Sim e db s clock) (h_unexpired : db.Unexpired currentTime)
    (h_clock : clock ≤ currentTime) (h_time : 0 ≤ currentTime) :
    Body.Ends retentionTooLong
      (fun states t' => Loaded e t' s currentTime ∧
        ∀ id ∈ e.buckets, StateSim (s.bucket id) currentTime (states id))
      (e.loadStates currentTime e.buckets) ⟨db, fun _ => none, none⟩ := by
  refine loadStates_ends e.nodup (List.Subset.refl _) h_clock h_time ?_ ?_
  · refine ⟨h_sim.buckets_eq, fun id h_mem h_notMem => absurd h_mem h_notMem, ?_,
      h_sim.tables, rfl⟩
    intro id h_mem h_confirmed
    rcases h_confirmed with h_until | h_pending
    · exact h_sim.confirmed id h_mem h_until
    · cases h_pending
  · intro id h_mem
    exact ⟨h_sim.row id h_mem, fun row h_row => h_unexpired.bucket _ row h_row⟩

end SqliteEngine

/-! ## One call of both backends -/

open SqliteEngine

/-- A SQLite backend and a memory backend before a call, in a trace without expiry,
    without interrupts and with a clock that does not run backwards. -/
structure Ready (b : SqliteBackend) (s : MemoryBackend) (clock : ℚ) (input : TxnInput) :
    Prop where
  sim : Sim b.engine b.db s clock
  unexpired : b.db.Unexpired input.currentTime
  clock_le : clock ≤ input.currentTime
  nonneg : 0 ≤ input.currentTime
  uninterrupted : input.interruptAfter = none

/-- The call refused to retain a debt, or ended as the memory backend's did and left a
    database that stands for its state. -/
def Refines (result : Except BackendError Outcome × SqliteBackend)
    (event : MemoryBackend.Event) : Prop :=
  result.1 = .error (.valueError .retentionTooLong) ∨
    (result.1 = event.outcome ∧ Sim result.2.engine result.2.db event.after event.time)

section Call

variable {b : SqliteBackend} {s : MemoryBackend} {clock : ℚ} {input : TxnInput}
  {request : Request}

theorem step_ok {currentTime : ℚ} {outcome : Outcome} {s' : MemoryBackend}
    (h_memory : s.handle request currentTime = .ok (outcome, s')) :
    s.step currentTime request = ⟨currentTime, request, .ok outcome, s, s'⟩ := by
  unfold MemoryBackend.step
  rw [h_memory]

theorem step_error {currentTime : ℚ} {error : BackendError}
    (h_memory : s.handle request currentTime = .error error) :
    s.step currentTime request = ⟨currentTime, request, .error error, s, s⟩ := by
  unfold MemoryBackend.step
  rw [h_memory]

/-- A check that both backends fail alike. -/
theorem refines_of_error {error : BackendError} (h_ready : Ready b s clock input)
    (h_memory : s.handle request input.currentTime = .error error) :
    Refines (.error error, b) (s.step input.currentTime request) := by
  rw [step_error h_memory]
  exact .inr ⟨rfl, h_ready.sim.later h_ready.clock_le⟩

/-- A call that neither backend changes its state for. -/
theorem refines_of_unchanged {outcome : Outcome} (h_ready : Ready b s clock input)
    (h_memory : s.handle request input.currentTime = .ok (outcome, s)) :
    Refines (.ok outcome, b) (s.step input.currentTime request) := by
  rw [step_ok h_memory]
  exact .inr ⟨rfl, h_ready.sim.later h_ready.clock_le⟩

/-- How the body of a transaction ends, next to the memory backend's operation: in a
    state that stands for the memory backend under the engine `e`. -/
abbrev EndsLikeMemory {α : Type} (e : SqliteEngine) (s : MemoryBackend) (request : Request)
    (currentTime : ℚ) (outcome : α → Outcome) (body : Txn α) (t : TxnState) : Prop :=
  Body.Ends
    (fun error => retentionTooLong error ∨ s.handle request currentTime = .error error)
    (fun a t' => ∃ s', s.handle request currentTime = .ok (outcome a, s') ∧
      Settled e t' s' currentTime) body t

/-- A transaction whose body ends like the memory backend's operation refines it. -/
theorem run_refines {α : Type} (outcome : α → Outcome) {body : Txn α}
    {engineRequest : EngineRequest} (h_ready : Ready b s clock input)
    (h_call : b.engine.call input b.db engineRequest =
      answer outcome (b.engine.transaction input b.db body))
    (h_body : EndsLikeMemory b.engine s request input.currentTime outcome body
      ⟨b.db, fun _ => none, none⟩) :
    Refines (b.run input engineRequest) (s.step input.currentTime request) := by
  unfold SqliteBackend.run
  rw [h_call]
  obtain ⟨error, h_raised, h_transaction⟩ | ⟨a, t, ⟨s', h_memory, h_settled⟩, h_transaction⟩ :=
    transaction_ends (e := b.engine) h_ready.uninterrupted
      (fun _ _ ⟨_, _, h_settled⟩ => h_settled.running) h_body
  · rw [h_transaction]
    rcases h_raised with rfl | h_memory
    · exact .inl rfl
    · exact refines_of_error h_ready h_memory
  · rw [h_transaction, step_ok h_memory]
    exact .inr ⟨rfl, Settled.commit h_settled⟩

/-- The load at the start of every transaction, next to the memory backend. -/
theorem load_endsLikeMemory {α : Type} {e : SqliteEngine} {outcome : α → Outcome}
    {next : (BucketId → BucketState) → Txn α} (h_ready : Ready b s clock input)
    (h_next : ∀ states t, Loaded b.engine t s input.currentTime →
      (∀ id ∈ b.engine.buckets, StateSim (s.bucket id) input.currentTime (states id)) →
      EndsLikeMemory e s request input.currentTime outcome (next states) t) :
    EndsLikeMemory e s request input.currentTime outcome
      (b.engine.loadStates input.currentTime b.engine.buckets >>= next)
      ⟨b.db, fun _ => none, none⟩ := by
  have h_load := loadStates_sim h_ready.sim h_ready.unexpired h_ready.clock_le h_ready.nonneg
  refine .bind (h_load.mono (fun _ h_error => .inl h_error) fun _ _ h_post => h_post) ?_
  rintro states t ⟨h_loaded, h_states⟩
  exact h_next states t h_loaded h_states

/-- The write of capacities, next to the memory backend. -/
theorem write_endsLikeMemory {α : Type} {e : SqliteEngine} {outcome : α → Outcome}
    {next : Unit → Txn α} {capacities : Capacities} {ids : List BucketId} {t : TxnState}
    (h_sub : ids ⊆ b.engine.buckets) (h_loaded : Loaded b.engine t s input.currentTime)
    (h_next : ∀ t', Loaded b.engine t'
      (s.setCapacities capacities ids.toFinset input.currentTime true) input.currentTime →
      EndsLikeMemory e s request input.currentTime outcome (next ()) t') :
    EndsLikeMemory e s request input.currentTime outcome
      (b.engine.writeCapacities capacities input.currentTime ids >>= next) t := by
  refine .bind ((writeCapacities_ends h_sub h_loaded).mono (fun _ h_error => .inl h_error)
    fun _ _ h_post => h_post) ?_
  intro _ t' h_written
  exact h_next t' h_written

/-! ## What the operations compute -/

/-- The two spellings of the availability check. -/
theorem any_short_eq_usageExceeds {usage : FrozenUsage} {capacities : Capacities}
    {ids : List BucketId} (h_covers : Covers usage (metricNames ids.toFinset)) :
    (ids.any fun id => decide (capacities id < usage.amount id.metric)) =
      usageExceeds usage capacities ids := by
  unfold usageExceeds
  rw [Bool.eq_iff_iff, List.any_eq_true, List.any_eq_true]
  refine exists_congr fun id => and_congr_right fun h_mem => ?_
  rw [h_covers.lookup_bucket (List.mem_toFinset.mpr h_mem), Option.any_some]

theorem setCapacities_congr {ids : Finset BucketId} {capacities capacities' : Capacities}
    {currentTime : ℚ} {allowNegative : Bool}
    (h_eq : ∀ id ∈ ids, (s.bucket id).setCapacity (capacities id) currentTime true =
      (s.bucket id).setCapacity (capacities' id) currentTime allowNegative) :
    s.setCapacities capacities ids currentTime true =
      s.setCapacities capacities' ids currentTime allowNegative := by
  unfold MemoryBackend.setCapacities
  congr 1
  funext id
  by_cases h_mem : id ∈ ids
  · rw [if_pos h_mem, if_pos h_mem, h_eq id h_mem]
  · rw [if_neg h_mem, if_neg h_mem]

/-- Where the capacity is not negative the two ways to store it agree. -/
theorem setCapacity_allowNegative {id : BucketId} (bucket : MemoryBucket id) {value : ℚ}
    (h_nonneg : 0 ≤ value) (currentTime : ℚ) :
    bucket.setCapacity value currentTime true = bucket.setCapacity value currentTime false := by
  simp [MemoryBucket.setCapacity, h_nonneg]

/-- Recording a marker and writing capacities commute. -/
theorem withReservation_setCapacities {capacities : Capacities} {ids : Finset BucketId}
    {usage : FrozenUsage} {reservationId : Option ReservationId} {currentTime : ℚ}
    {allowNegative : Bool} :
    (s.setCapacities capacities ids currentTime allowNegative).withReservation reservationId
        (·.recordAcquiredReservation · usage) =
      (s.withReservation reservationId (·.recordAcquiredReservation · usage)).setCapacities
        capacities ids currentTime allowNegative := by
  cases reservationId <;> rfl

theorem withReservation_bucketIds {usage : FrozenUsage}
    {reservationId : Option ReservationId} :
    (s.withReservation reservationId (·.recordAcquiredReservation · usage)).bucketIds =
      s.bucketIds := by
  cases reservationId <;> rfl

/-- An id that is not a replay has neither a marker nor a refund. -/
theorem isReplayed_false_new {usage : FrozenUsage} {reservationId : Option ReservationId}
    (h_new : s.isReplayed reservationId usage = .ok false) :
    ∀ rid, reservationId = some rid →
      s.acquiredReservationValues rid = none ∧ rid ∉ s.refundedReservationIdOrder := by
  rintro rid rfl
  have h_none := MemoryBackend.isReplayed_false h_new
  refine ⟨h_none, fun h_refunded => ?_⟩
  simp [MemoryBackend.isReplayed, MemoryBackend.isReplayedAcquire, h_none, h_refunded] at h_new

/-- What an attempt does that is not a replay, over the refilled capacities. -/
theorem attempt_fresh {usage : FrozenUsage} {reservationId : Option ReservationId}
    {currentTime : ℚ} (h_time : 0 ≤ currentTime)
    (h_covers : Covers usage (metricNames s.buckets.toFinset))
    (h_new : s.isReplayed reservationId usage = .ok false) :
    s.attempt usage reservationId currentTime =
      if usageExceeds usage s.maxCapacity s.buckets then
        .error (.valueError .usageExceedsMaxCapacity)
      else if usageExceeds usage (s.capacityAt currentTime) s.buckets then .ok (.unavailable, s)
      else
        .ok (.consumed, (s.setCapacities
          (fun id => s.capacityAt currentTime id - usage.amount id.metric) s.bucketIds
          currentTime true).withReservation reservationId
            (·.recordAcquiredReservation · usage)) := by
  have h_keys : usage.keys ⊆ s.usageMetricNames := by
    rw [h_covers.keys_eq]
    exact Finset.Subset.refl _
  have h_available : usageExceeds usage
      (fun id => if id ∈ s.buckets then s.capacityAt currentTime id else default) s.buckets =
      usageExceeds usage (s.capacityAt currentTime) s.buckets :=
    usageExceeds_congr fun id h_mem => if_pos h_mem
  unfold MemoryBackend.attempt MemoryBackend.tryConsumeLocked
  simp only [h_new, s.getCapacities_ok h_time, bind, Except.bind, h_keys, not_true_eq_false,
    if_false, Bool.false_eq_true, h_available]
  by_cases h_limit : usageExceeds usage s.maxCapacity s.buckets = true
  · rw [if_pos h_limit, if_pos h_limit]
  · rw [if_neg h_limit, if_neg h_limit]
    by_cases h_short : usageExceeds usage (s.capacityAt currentTime) s.buckets = true
    · rw [if_pos h_short, if_pos h_short]
      rfl
    · rw [if_neg h_short, if_neg h_short]
      rw [Bool.not_eq_true, usageExceeds_eq_false_iff h_covers] at h_short
      rw [withReservation_setCapacities]
      simp only [pure, Except.pure, withReservation_bucketIds]
      congr 2
      refine (setCapacities_congr fun id h_mem => ?_).symm
      have h_bucket := MemoryBackend.mem_bucketIds.mp h_mem
      rw [subtractUsage_of_lookup (h_covers.lookup_bucket (List.mem_toFinset.mpr h_bucket)),
        if_pos h_bucket]
      exact setCapacity_allowNegative _ (sub_nonneg.mpr (h_short id h_bucket)) _

theorem covers_buckets {usage : FrozenUsage} (h_ready : Ready b s clock input)
    (h_covers : Covers usage b.engine.metricNames) :
    Covers usage (metricNames s.buckets.toFinset) := by
  rw [← h_ready.sim.buckets_eq]
  exact h_covers

theorem validate_covers {usage : FrozenUsage} (h_ready : Ready b s clock input)
    (h_covers : Covers usage b.engine.metricNames) :
    validateBackendUsage usage b.engine.metricNames = .ok () ∧
      validateBackendUsage usage s.usageMetricNames = .ok () :=
  ⟨validateUsageMapping_eq_ok_iff.mpr h_covers,
    validateUsageMapping_eq_ok_iff.mpr (covers_buckets h_ready h_covers)⟩

/-! ## The operations -/

section Consumption

variable {usage : FrozenUsage} {reservationId : Option ReservationId} {lifetime : Option ℚ}

/-- The start of both consumptions: pruning, the duplicate check and the load. -/
theorem acquire_endsLikeMemory {α : Type} {outcome : α → Outcome}
    {next : Bool → (BucketId → BucketState) → Txn α} (h_ready : Ready b s clock input)
    (h_error : ∀ error, s.isReplayed reservationId usage = .error error →
      s.handle request input.currentTime = .error error)
    (h_next : ∀ replayed states t, s.isReplayed reservationId usage = .ok replayed →
      Loaded b.engine t s input.currentTime →
      (∀ id ∈ b.engine.buckets, StateSim (s.bucket id) input.currentTime (states id)) →
      EndsLikeMemory b.engine s request input.currentTime outcome (next replayed states) t) :
    EndsLikeMemory b.engine s request input.currentTime outcome
      (prune input >>= fun _ =>
        b.engine.raiseIfDuplicateAcquire reservationId input.currentTime usage >>= fun replayed =>
        b.engine.loadStates input.currentTime b.engine.buckets >>= next replayed)
      ⟨b.db, fun _ => none, none⟩ := by
  have h_duplicate : b.engine.raiseIfDuplicateAcquire reservationId input.currentTime usage
      ⟨b.db, fun _ => none, none⟩ = echo _ (s.isReplayed reservationId usage) :=
    raiseIfDuplicateAcquire_run h_ready.sim.tables h_ready.sim.buckets_eq h_ready.unexpired rfl
  refine .step (prune_run h_ready.unexpired rfl) ?_
  cases h_replayed : s.isReplayed reservationId usage with
  | error error =>
    rw [h_replayed] at h_duplicate
    exact .fail h_duplicate (.inr (h_error error h_replayed))
  | ok replayed =>
    rw [h_replayed] at h_duplicate
    exact .step h_duplicate (load_endsLikeMemory h_ready fun states t h_loaded h_states =>
      h_next replayed states t h_replayed h_loaded h_states)

/-- The end of both consumptions: the marker is inserted for the capacities written. -/
theorem insert_endsLikeMemory {α : Type} {outcome : α → Outcome} {a : α} {t : TxnState}
    {s' : MemoryBackend} (h_lifetime : b.engine.ValidLifetime reservationId lifetime)
    (h_new : s.isReplayed reservationId usage = .ok false)
    (h_loaded : Loaded b.engine t s' input.currentTime)
    (h_acquired : s'.acquiredReservationValues = s.acquiredReservationValues)
    (h_refunded : s'.refundedReservationIdOrder = s.refundedReservationIdOrder)
    (h_memory : s.handle request input.currentTime = .ok (outcome a,
      s'.withReservation reservationId (·.recordAcquiredReservation · usage))) :
    EndsLikeMemory b.engine s request input.currentTime outcome
      (b.engine.insertMarker reservationId usage lifetime input.currentTime >>= fun _ => pure a)
      t := by
  refine .bind (insertMarker_ends h_loaded h_lifetime ?_) fun _ t' h_inserted =>
    .of_ok rfl ⟨_, h_memory, LoadedExcept.settled h_inserted⟩
  rw [h_acquired, h_refunded]
  exact isReplayed_false_new h_new

/-- One attempt to consume. -/
theorem awaitForCapacity_refines (h_ready : Ready b s clock input)
    (h_covers : Covers usage b.engine.metricNames)
    (h_lifetime : b.engine.ValidLifetime reservationId lifetime) :
    Refines (b.handle input (.awaitForCapacity usage reservationId lifetime))
      (s.step input.currentTime (.awaitForCapacity usage reservationId lifetime)) := by
  obtain ⟨h_valid, h_validMemory⟩ := validate_covers h_ready h_covers
  have h_buckets := h_ready.sim.buckets_eq
  have h_sqlite : b.handle input (.awaitForCapacity usage reservationId lifetime) =
      b.run input (.tryConsume usage reservationId lifetime) := by
    simp only [SqliteBackend.handle, SqliteBackend.awaitForCapacity, SqliteBackend.checked,
      h_valid]
  have h_memory : s.handle (.awaitForCapacity usage reservationId lifetime) input.currentTime =
      s.attempt usage reservationId input.currentTime := by
    simp only [MemoryBackend.handle, MemoryBackend.awaitForCapacity, h_validMemory, bind,
      Except.bind]
  rw [h_sqlite]
  refine run_refines TryConsumeResult.outcome h_ready rfl (acquire_endsLikeMemory h_ready ?_ ?_)
  · intro error h_replayed
    rw [h_memory]
    simp only [MemoryBackend.attempt, h_replayed, bind, Except.bind]
  · intro replayed states t h_replayed h_loaded h_states
    cases replayed with
    | true =>
      refine .of_ok rfl ⟨s, ?_, h_loaded.settled⟩
      rw [h_memory]
      simp only [MemoryBackend.attempt, h_replayed, bind, Except.bind]
      rfl
    | false =>
      have h_coversMemory := covers_buckets h_ready h_covers
      -- the capacities and limits of the loaded states are those of the memory buckets
      have h_limits : usageExceeds usage (maxCapacities states) b.engine.buckets =
          usageExceeds usage s.maxCapacity s.buckets := by
        rw [← h_buckets]
        refine usageExceeds_congr fun id h_mem => ?_
        rw [maxCapacities, (h_states id h_mem).maxCapacity, MemoryBackend.maxCapacity]
      have h_short : (b.engine.buckets.any fun id =>
            decide (capacities states id < usage.amount id.metric)) =
          usageExceeds usage (s.capacityAt input.currentTime) s.buckets := by
        rw [any_short_eq_usageExceeds h_covers, ← h_buckets]
        refine usageExceeds_congr fun id h_mem => ?_
        rw [capacities, (h_states id h_mem).capacity, MemoryBackend.capacityAt]
      -- both write the same buckets, each with the amount that it has refunded
      have h_written_eq : s.setCapacities
            (fun id => capacities states id - usage.amount id.metric)
            b.engine.buckets.toFinset input.currentTime true =
          s.setCapacities
            (fun id => s.capacityAt input.currentTime id - usage.amount id.metric)
            s.bucketIds input.currentTime true := by
        rw [h_buckets]
        refine setCapacities_congr fun id h_mem => ?_
        rw [← h_buckets, List.mem_toFinset] at h_mem
        rw [capacities, (h_states id h_mem).capacity, MemoryBackend.capacityAt]
      have h_attempt := attempt_fresh h_ready.nonneg h_coversMemory h_replayed
      rw [← h_memory] at h_attempt
      simp only [Bool.false_eq_true, if_false, h_limits, h_short]
      by_cases h_limit : usageExceeds usage s.maxCapacity s.buckets = true
      · rw [if_pos h_limit] at h_attempt ⊢
        exact .of_error rfl (.inr h_attempt)
      · rw [if_neg h_limit] at h_attempt ⊢
        by_cases h_wait : usageExceeds usage (s.capacityAt input.currentTime) s.buckets = true
        · rw [if_pos h_wait] at h_attempt ⊢
          exact .of_ok rfl ⟨s, h_attempt, h_loaded.settled⟩
        · rw [if_neg h_wait] at h_attempt ⊢
          refine write_endsLikeMemory (List.Subset.refl _) h_loaded fun t' h_written => ?_
          rw [h_written_eq] at h_written
          exact insert_endsLikeMemory h_lifetime h_replayed h_written rfl rfl h_attempt

/-- What a consumption does that is not a replay, over the refilled capacities. -/
theorem consumeCapacity_fresh {currentTime : ℚ} (h_time : 0 ≤ currentTime)
    (h_covers : Covers usage (metricNames s.buckets.toFinset))
    (h_new : s.isReplayed reservationId usage = .ok false) :
    s.consumeCapacity usage reservationId currentTime =
      .ok (.consumed, (s.setCapacities
        (fun id => max (-(s.maxCapacity id))
          (s.capacityAt currentTime id - usage.amount id.metric)) s.bucketIds
        currentTime true).withReservation reservationId (·.recordAcquiredReservation · usage)) := by
  have h_valid : validateBackendUsage usage s.usageMetricNames = .ok () :=
    validateUsageMapping_eq_ok_iff.mpr h_covers
  unfold MemoryBackend.consumeCapacity
  simp only [h_valid, h_new, s.getCapacities_ok h_time, bind, Except.bind, Bool.false_eq_true,
    if_false, pure, Except.pure, withReservation_bucketIds, withReservation_setCapacities]
  congr 2
  refine (setCapacities_congr fun id h_mem => ?_).symm
  have h_bucket := MemoryBackend.mem_bucketIds.mp h_mem
  rw [subtractUsageFloored_of_lookup (h_covers.lookup_bucket (List.mem_toFinset.mpr h_bucket)),
    if_pos h_bucket, max_comm]

/-- An unconditional consumption. -/
theorem consumeCapacity_refines (h_ready : Ready b s clock input)
    (h_covers : Covers usage b.engine.metricNames)
    (h_lifetime : b.engine.ValidLifetime reservationId lifetime) :
    Refines (b.handle input (.consumeCapacity usage reservationId lifetime))
      (s.step input.currentTime (.consumeCapacity usage reservationId lifetime)) := by
  obtain ⟨h_valid, h_validMemory⟩ := validate_covers h_ready h_covers
  have h_buckets := h_ready.sim.buckets_eq
  have h_sqlite : b.handle input (.consumeCapacity usage reservationId lifetime) =
      b.run input (.consume usage reservationId lifetime) := by
    simp only [SqliteBackend.handle, SqliteBackend.consumeCapacity, SqliteBackend.checked,
      h_valid]
  rw [h_sqlite]
  refine run_refines CapacityResult.outcome h_ready rfl (acquire_endsLikeMemory h_ready ?_ ?_)
  · intro error h_replayed
    simp only [MemoryBackend.handle, MemoryBackend.consumeCapacity, h_validMemory, h_replayed,
      bind, Except.bind]
  · intro replayed states t h_replayed h_loaded h_states
    cases replayed with
    | true =>
      refine .of_ok rfl ⟨s, ?_, h_loaded.settled⟩
      simp only [MemoryBackend.handle, MemoryBackend.consumeCapacity, h_validMemory, h_replayed,
        bind, Except.bind]
      rfl
    | false =>
      have h_consume := consumeCapacity_fresh h_ready.nonneg (covers_buckets h_ready h_covers)
        h_replayed
      have h_written_eq : s.setCapacities
            (fun id => max (-(maxCapacities states id))
              (capacities states id - usage.amount id.metric))
            b.engine.buckets.toFinset input.currentTime true =
          s.setCapacities
            (fun id => max (-(s.maxCapacity id))
              (s.capacityAt input.currentTime id - usage.amount id.metric))
            s.bucketIds input.currentTime true := by
        rw [h_buckets]
        refine setCapacities_congr fun id h_mem => ?_
        rw [← h_buckets, List.mem_toFinset] at h_mem
        rw [capacities, maxCapacities, (h_states id h_mem).capacity,
          (h_states id h_mem).maxCapacity, MemoryBackend.capacityAt, MemoryBackend.maxCapacity]
      simp only [Bool.false_eq_true, if_false]
      refine write_endsLikeMemory (List.Subset.refl _) h_loaded fun t' h_written => ?_
      rw [h_written_eq] at h_written
      exact insert_endsLikeMemory h_lifetime h_replayed h_written rfl rfl h_consume

end Consumption

section Refund

variable {refund : RefundRequest}

/-- The keys of usages that a refund's validator accepts. -/
theorem validateBackendRefundUsage_keys {reservedUsage actualUsage : FrozenUsage}
    {bucketIds backendBucketIds : Finset BucketId}
    (h_ok : validateBackendRefundUsageForBucketIds reservedUsage actualUsage bucketIds
      backendBucketIds = .ok ()) :
    bucketIds ⊆ backendBucketIds ∧ reservedUsage.keys = metricNames bucketIds ∧
      actualUsage.keys = metricNames bucketIds := by
  by_cases h_empty : bucketIds = ∅
  · subst h_empty
    unfold validateBackendRefundUsageForBucketIds at h_ok
    rw [if_pos rfl] at h_ok
    split at h_ok
    · cases h_ok
    · rename_i h_keys
      rw [not_or, not_not, not_not] at h_keys
      exact ⟨Finset.empty_subset _, h_keys.1, h_keys.2⟩
  · obtain ⟨h_sub, h_reserved, h_actual⟩ := validateBackendRefundUsage_scope h_empty h_ok
    exact ⟨h_sub, h_reserved.keys_eq, h_actual.keys_eq⟩

/-- What an authorized refund does, over the refilled capacities. -/
theorem refundCapacityForBuckets_authorized (refund : RefundRequest) {currentTime : ℚ}
    (h_time : 0 ≤ currentTime)
    (h_valid : validateBackendRefundUsageForBucketIds refund.reservedUsage refund.actualUsage
      (refund.bucketIds.getD s.bucketIds) s.bucketIds = .ok ())
    (h_work : ¬ (refund.bucketIds.getD s.bucketIds = ∅ ∧ refund.reservationId = none))
    (h_acquired : s.requireAcquired refund.reservationId = .ok ()) :
    s.refundCapacityForBuckets refund currentTime =
      .ok (.done, (s.setCapacities
        (applyRefund (s.capacityAt currentTime) refund.reservedUsage refund.actualUsage
          s.maxCapacity) (refund.bucketIds.getD s.bucketIds) currentTime true).withReservation
            refund.reservationId MemoryBackend.closeReservation) := by
  unfold MemoryBackend.refundCapacityForBuckets
  simp only [h_valid, if_neg h_work, h_acquired, bind, Except.bind, pure, Except.pure]
  by_cases h_empty : refund.bucketIds.getD s.bucketIds = ∅
  · rw [if_pos h_empty, h_empty]
    simp [MemoryBackend.setCapacities]
  · rw [if_neg h_empty]
    simp only [s.getCapacities_ok h_time]
    congr 3
    refine (setCapacities_congr fun id h_mem => ?_).symm
    have h_bucket := MemoryBackend.mem_bucketIds.mp
      ((validateBackendRefundUsage_keys h_valid).1 h_mem)
    unfold applyRefund
    simp only [if_pos h_bucket]

/-- A refund whose metadata match the reservation. -/
theorem refundCapacityForBuckets_refines (h_ready : Ready b s clock input)
    (h_cap : s.refundedReservationIdOrder.length < s.refundedReservationIdsCap)
    (h_marker : SqliteBackend.validateMarker refund
      (refund.bucketIds.getD b.engine.bucketIds) = .ok ())
    (h_matches : ∀ rid, refund.reservationId = some rid →
      ∃ ids usage, MetadataMatches b.engine s refund rid ids usage) :
    Refines (b.handle input (.refundCapacityForBuckets refund))
      (s.step input.currentTime (.refundCapacityForBuckets refund)) := by
  have h_buckets := h_ready.sim.buckets_eq
  have h_ids : b.engine.bucketIds = s.bucketIds := by
    unfold SqliteEngine.bucketIds MemoryBackend.bucketIds
    rw [h_buckets]
  unfold SqliteBackend.handle
  simp only [SqliteBackend.refundCapacityForBuckets]
  rw [h_ids] at h_marker ⊢
  generalize h_scope : refund.bucketIds.getD s.bucketIds = scope at h_marker ⊢
  cases h_valid : validateBackendRefundUsageForBucketIds refund.reservedUsage
      refund.actualUsage scope s.bucketIds with
  | error error =>
    refine refines_of_error h_ready ?_
    simp only [MemoryBackend.handle, MemoryBackend.refundCapacityForBuckets, h_scope, h_valid,
      bind, Except.bind]
  | ok u =>
    obtain ⟨h_sub, h_reserved, h_actual⟩ := validateBackendRefundUsage_keys h_valid
    simp only [SqliteBackend.checked, h_marker]
    -- nothing to refund and nothing to authorize: neither backend begins
    by_cases h_idle : scope = ∅ ∧ refund.reservationId = none
    · rw [if_pos h_idle]
      refine refines_of_unchanged h_ready ?_
      simp only [MemoryBackend.handle, MemoryBackend.refundCapacityForBuckets, h_scope, h_valid,
        if_pos h_idle, bind, Except.bind]
      rfl
    · rw [if_neg h_idle]
      have h_keys : ¬ ¬ refund.reservedUsage.keys ⊆ refund.actualUsage.keys := by
        rw [h_reserved, h_actual, not_not]
      refine run_refines (fun _ => .done) h_ready
        (congrArg (answer fun _ => Outcome.done) (if_neg h_keys)) ?_
      have h_authorize : b.engine.authorizeRefund refund input.currentTime
          ⟨b.db, fun _ => none, none⟩ = echo _ (s.requireAcquired refund.reservationId) :=
        authorizeRefund_run h_ready.sim.tables h_ready.unexpired rfl h_matches
      refine .step (prune_run h_ready.unexpired rfl) ?_
      cases h_acquired : s.requireAcquired refund.reservationId with
      | error error =>
        rw [h_acquired] at h_authorize
        refine .fail h_authorize (.inr ?_)
        simp only [MemoryBackend.handle, MemoryBackend.refundCapacityForBuckets, h_scope,
          h_valid, if_neg h_idle, h_acquired, bind, Except.bind]
      | ok u =>
        rw [h_acquired] at h_authorize
        refine .step h_authorize (load_endsLikeMemory h_ready fun states t h_loaded h_states => ?_)
        have h_refund := refundCapacityForBuckets_authorized refund h_ready.nonneg
          (by rw [h_scope]; exact h_valid) (by rw [h_scope]; exact h_idle) h_acquired
        rw [h_scope] at h_refund
        have h_scoped : ¬ (¬ scope ⊆ b.engine.bucketIds ∨
            ¬ metricNames scope ⊆ refund.reservedUsage.keys) := by
          rw [h_ids, h_reserved, not_or, not_not, not_not]
          exact ⟨h_sub, Finset.Subset.refl _⟩
        have h_written_eq : s.setCapacities
              (fun id => if id ∈ scope then applyRefund (capacities states)
                refund.reservedUsage refund.actualUsage (maxCapacities states) id
                else capacities states id)
              (b.engine.buckets.filter (· ∈ scope)).toFinset input.currentTime true =
            s.setCapacities
              (applyRefund (s.capacityAt input.currentTime) refund.reservedUsage
                refund.actualUsage s.maxCapacity) scope input.currentTime true := by
          have h_targets : (b.engine.buckets.filter (· ∈ scope)).toFinset = scope := by
            ext id
            rw [List.mem_toFinset, List.mem_filter, decide_eq_true_eq]
            refine ⟨fun h_mem => h_mem.2, fun h_mem => ⟨?_, h_mem⟩⟩
            rw [h_buckets]
            exact MemoryBackend.mem_bucketIds.mp (h_sub h_mem)
          rw [h_targets]
          refine setCapacities_congr fun id h_mem => ?_
          have h_bucket : id ∈ b.engine.buckets := by
            rw [h_buckets]
            exact MemoryBackend.mem_bucketIds.mp (h_sub h_mem)
          rw [if_pos h_mem]
          simp only [applyRefund, capacities, maxCapacities, (h_states id h_bucket).capacity,
            (h_states id h_bucket).maxCapacity, MemoryBackend.capacityAt,
            MemoryBackend.maxCapacity]
        rw [if_neg h_scoped]
        refine write_endsLikeMemory (List.filter_subset_self _) h_loaded fun t' h_written => ?_
        rw [h_written_eq] at h_written
        refine .bind (buryMarker_ends h_written ?_ h_cap) fun _ t'' h_buried =>
          .of_ok rfl ⟨_, h_refund, LoadedExcept.settled h_buried⟩
        intro rid h_rid
        rw [h_rid] at h_acquired
        obtain ⟨marker, h_live⟩ := MemoryBackend.requireAcquired_some h_acquired
        exact Option.isSome_iff_exists.mpr ⟨marker, h_live⟩

end Refund

/-- A cleanup of a consumption whose marker is live. -/
theorem refundCancelledConsumption_refines {usage : FrozenUsage}
    {reservationId : Option ReservationId} (h_ready : Ready b s clock input)
    (h_covers : Covers usage b.engine.metricNames)
    (h_live : ∀ rid, reservationId = some rid →
      (s.acquiredReservationValues rid).isSome = true) :
    Refines (b.handle input (.refundCancelledConsumption usage reservationId))
      (s.step input.currentTime (.refundCancelledConsumption usage reservationId)) := by
  have h_buckets := h_ready.sim.buckets_eq
  have h_coversMemory := covers_buckets h_ready h_covers
  have h_tables := h_ready.sim.tables
  have h_memory : s.handle (.refundCancelledConsumption usage reservationId) input.currentTime =
      .ok (.done, (s.setCapacities (fun id => min
        (s.capacityAt input.currentTime id + usage.amount id.metric) (s.maxCapacity id))
        s.bucketIds input.currentTime true).withReservation reservationId
          MemoryBackend.forgetAcquiredReservation) := by
    simp only [MemoryBackend.handle, MemoryBackend.refundCancelledConsumption,
      s.getCapacities_ok h_ready.nonneg, bind, Except.bind, pure, Except.pure]
    congr 3
    refine (setCapacities_congr fun id h_mem => ?_).symm
    have h_bucket := MemoryBackend.mem_bucketIds.mp h_mem
    rw [restoreUsage_of_lookup (h_coversMemory.lookup_bucket (List.mem_toFinset.mpr h_bucket)),
      if_pos h_bucket]
  -- the marker row is there, as the marker is live
  have h_present : ∀ rid, reservationId = some rid →
      (b.db.acquireMarkers (b.engine.reservationKey rid)).isNone = false := by
    intro rid h_rid
    obtain ⟨live, h_some⟩ := Option.isSome_iff_exists.mp (h_live rid h_rid)
    obtain ⟨row, h_row, _⟩ := marker_row (t := ⟨b.db, fun _ => none, none⟩) h_tables h_some
    rw [h_row]
    rfl
  refine run_refines (fun _ => .done) h_ready rfl (.step (prune_run h_ready.unexpired rfl)
    (.step (show _ = EStateM.Result.ok false ⟨b.db, fun _ => none, none⟩ from ?_) ?_))
  · cases reservationId with
    | none => rfl
    | some rid =>
      rw [← h_present rid rfl]
      rfl
  simp only [Bool.false_eq_true, if_false]
  refine load_endsLikeMemory h_ready fun states t h_loaded h_states => ?_
  have h_written_eq : s.setCapacities
        (fun id => min (capacities states id + usage.amount id.metric) (maxCapacities states id))
        (b.engine.buckets.filter (· ∈ b.engine.bucketIds)).toFinset input.currentTime true =
      s.setCapacities (fun id => min
        (s.capacityAt input.currentTime id + usage.amount id.metric) (s.maxCapacity id))
        s.bucketIds input.currentTime true := by
    have h_targets : (b.engine.buckets.filter (· ∈ b.engine.bucketIds)).toFinset =
        s.bucketIds := by
      unfold SqliteEngine.bucketIds MemoryBackend.bucketIds
      rw [h_buckets]
      ext id
      simp
    rw [h_targets]
    refine setCapacities_congr fun id h_mem => ?_
    have h_bucket := MemoryBackend.mem_bucketIds.mp h_mem
    rw [← h_buckets] at h_bucket
    rw [capacities, maxCapacities, (h_states id h_bucket).capacity,
      (h_states id h_bucket).maxCapacity, MemoryBackend.capacityAt, MemoryBackend.maxCapacity]
  refine write_endsLikeMemory (List.filter_subset_self _) h_loaded fun t' h_written => ?_
  rw [h_written_eq] at h_written
  cases reservationId with
  | none => exact .of_ok rfl ⟨_, h_memory, h_written.settled⟩
  | some rid =>
    refine .of_ok (execute_run _ h_written.running) ⟨_, h_memory, LoadedExcept.settled ?_⟩
    exact Loaded.reservations h_written rfl rfl rfl (tables_forget h_written.tables)

/-! ### Limit changes -/

section LimitChange

variable {id : BucketId} {value : ℚ}

/-- A memory bucket anchored at its uncapped integration, where it has a state. -/
def anchoredBucket {id : BucketId} (bucket : MemoryBucket id) (currentTime : ℚ) :
    MemoryBucket id :=
  match bucket.lastChecked, bucket.capacity with
  | some last, some capacity =>
    { bucket with
      capacity := some (capacity + max 0 (currentTime - last) * bucket.ratePerSec)
      lastChecked := some currentTime }
  | _, _ => bucket

/-- A memory backend with one bucket replaced. -/
def withBucket (s : MemoryBackend) (id : BucketId) (bucket : MemoryBucket id) : MemoryBackend :=
  { s with bucket := Function.update s.bucket id bucket }

theorem withBucket_withBucket (s : MemoryBackend) (id : BucketId)
    (bucket bucket' : MemoryBucket id) :
    withBucket (withBucket s id bucket) id bucket' = withBucket s id bucket' := by
  unfold withBucket
  simp

theorem setMaxCapacity_bucket {maxCapacity : MaxCapacity} {currentTime : ℚ}
    (bucket : MemoryBucket id) (h_valid : validateMaxCapacityFinitePositive value = .ok maxCapacity) :
    bucket.setMaxCapacity value currentTime =
      .ok { anchoredBucket bucket currentTime with maxCapacity := maxCapacity } := by
  obtain ⟨capacity, lastChecked, limit⟩ := bucket
  unfold MemoryBucket.setMaxCapacity anchoredBucket
  rw [h_valid]
  cases lastChecked with
  | none => rfl
  | some last =>
    cases capacity with
    | none => rfl
    | some capacity => rfl

/-- `set_max_capacity` of the memory backend anchors a bucket and changes its limit. -/
theorem setMaxCapacity_memory {maxCapacity : MaxCapacity} {currentTime : ℚ}
    (h_mem : id ∈ s.buckets) (h_valid : validateMaxCapacityFinitePositive value = .ok maxCapacity) :
    s.setMaxCapacity id value currentTime = .ok (.done,
      withBucket s id { anchoredBucket (s.bucket id) currentTime with
        maxCapacity := maxCapacity }) := by
  unfold MemoryBackend.setMaxCapacity
  rw [if_neg (not_not.mpr h_mem), setMaxCapacity_bucket _ h_valid]
  rfl

/-- The start of both limit changes: the uncapped state is anchored at the old rate. -/
def anchorThen {α : Type} (e : SqliteEngine) (input : TxnInput) (id : BucketId)
    (maximum configured : ℚ) (next : ℤ → Txn α) : Txn α :=
  prune input >>= fun _ =>
    e.loadStates input.currentTime e.buckets >>= fun states =>
    Body.lift (debtTtlSeconds (states id).uncappedCapacity e.bucketTtlSeconds id.perSeconds
      maximum configured) >>= fun retention =>
    Body.when (!(states id).isFreshStart) (e.writeCapacities
      (fun id => (states id).uncappedCapacity) input.currentTime [id]) >>= fun _ =>
    next retention

/-- The anchoring at the start of a limit change, next to the memory backend. -/
theorem anchor_endsLikeMemory {α : Type} {e : SqliteEngine} {outcome : α → Outcome}
    {maximum configured : ℚ} {next : ℤ → Txn α} (h_ready : Ready b s clock input)
    (h_mem : id ∈ b.engine.buckets)
    (h_next : ∀ retention t, Loaded b.engine t
      (withBucket s id (anchoredBucket (s.bucket id) input.currentTime)) input.currentTime →
      EndsLikeMemory e s request input.currentTime outcome (next retention) t) :
    EndsLikeMemory e s request input.currentTime outcome
      (anchorThen b.engine input id maximum configured next) ⟨b.db, fun _ => none, none⟩ := by
  refine .step (prune_run h_ready.unexpired rfl)
    (load_endsLikeMemory h_ready fun states t h_loaded h_states => ?_)
  have h_state := h_states id h_mem
  obtain ⟨retention, _, h_retention⟩ | h_refused := debtTtlSeconds_cases
      (states id).uncappedCapacity b.engine.bucketTtlSeconds id.perSeconds maximum configured
  · rw [h_retention]
    refine .step (Body.lift_ok _ _) ?_
    have h_uncapped := h_state.uncappedCapacity
    rw [h_state.isFreshStart]
    unfold MemoryBucket.uncappedAt at h_uncapped
    unfold anchoredBucket at h_next
    cases h_last : (s.bucket id).lastChecked with
    | none =>
      rw [h_last] at h_next
      have h_same : withBucket s id (s.bucket id) = s := by simp [withBucket]
      simp only [h_same] at h_next
      exact .step (Body.when_false _ _) (h_next retention t h_loaded)
    | some last =>
      cases h_capacity : (s.bucket id).capacity with
      | none =>
        rw [h_last, h_capacity] at h_next
        have h_same : withBucket s id (s.bucket id) = s := by simp [withBucket]
        simp only [h_same] at h_next
        exact .step (Body.when_false _ _) (h_next retention t h_loaded)
      | some capacity =>
        rw [h_last, h_capacity] at h_next h_uncapped
        refine write_endsLikeMemory (by simpa using h_mem) h_loaded fun t' h_written =>
          h_next retention t' ?_
        have h_anchor : s.setCapacities (fun id => (states id).uncappedCapacity)
              [id].toFinset input.currentTime true =
            withBucket s id
              { s.bucket id with
                capacity := some (capacity + max 0 (input.currentTime - last) *
                  (s.bucket id).ratePerSec)
                lastChecked := some input.currentTime } := by
          unfold MemoryBackend.setCapacities withBucket
          congr 1
          funext id'
          by_cases h_eq : id' = id
          · subst h_eq
            simp [MemoryBucket.setCapacity, h_uncapped]
          · simp [h_eq]
        rw [h_anchor] at h_written
        exact h_written
  · rw [h_refused]
    exact .fail (Body.lift_error _ _) (.inl rfl)

/-- The limits a memory backend remembers as configured are not read by any operation. -/
theorem Settled.configuredLimits {e : SqliteEngine} {t : TxnState} {currentTime : ℚ}
    (h_settled : Settled e t s currentTime) (limits : BucketId → ℚ) :
    Settled e t { s with configuredLimits := limits } currentTime :=
  ⟨h_settled.buckets_eq, h_settled.row, h_settled.confirmed,
    ⟨h_settled.tables.marker, h_settled.tables.tombstone, h_settled.tables.exclusive⟩,
    h_settled.running⟩

/-- The update of one bucket row at the end of a limit change. -/
theorem updateBucket_settled {e : SqliteEngine} {t : TxnState} {currentTime : ℚ}
    {f : BucketRow → BucketRow} {limits : BucketId → MaxCapacity} {bucket : MemoryBucket id}
    (h_loaded : Loaded e t s currentTime)
    (h_limits : ∀ id', id' ≠ id → limits id' = e.configuredMaxCapacity id')
    (h_row : ∀ row, RowSim (e.configuredMaxCapacity id) currentTime row (s.bucket id) →
      RowSim (limits id) currentTime (f row) bucket)
    (h_capacity : bucket.capacity = (s.bucket id).capacity) :
    Settled { e with configuredMaxCapacity := limits }
      { t with db := t.db.updateBucket (e.bucketKey id) f } (withBucket s id bucket)
      currentTime where
  buckets_eq := h_loaded.buckets_eq
  row id' h_mem := by
    obtain ⟨row, h_found, h_sim, _⟩ := h_loaded.row id' h_mem (by simp)
    by_cases h_eq : id' = id
    · subst h_eq
      refine ⟨f row, ?_, ?_⟩
      · show (Function.update t.db.buckets (e.bucketKey id')
          ((t.db.buckets (e.bucketKey id')).map f)) (e.bucketKey id') = some (f row)
        rw [Function.update_self, h_found]
        rfl
      · simp only [withBucket, Function.update_self]
        exact h_row row h_sim
    · refine ⟨row, ?_, ?_⟩
      · have h_key : e.bucketKey id' ≠ e.bucketKey id := fun h => h_eq (bucketKey_inj h)
        show (Function.update t.db.buckets (e.bucketKey id)
          ((t.db.buckets (e.bucketKey id)).map f)) (e.bucketKey id') = some row
        rw [Function.update_of_ne h_key, h_found]
      · simp only [withBucket, Function.update_of_ne h_eq, h_limits id' h_eq]
        exact h_sim
  confirmed id' h_mem h_confirmed := by
    have h_some := h_loaded.confirmed id' h_mem h_confirmed
    by_cases h_eq : id' = id
    · subst h_eq
      simp only [withBucket, Function.update_self, h_capacity]
      exact h_some
    · simp only [withBucket, Function.update_of_ne h_eq]
      exact h_some
  tables := ⟨h_loaded.tables.marker, h_loaded.tables.tombstone, h_loaded.tables.exclusive⟩
  running := h_loaded.running

/-- A runtime limit change. -/
theorem setMaxCapacity_refines (h_ready : Ready b s clock input)
    (h_mem : id ∈ b.engine.buckets) :
    Refines (b.handle input (.setMaxCapacity id value))
      (s.step input.currentTime (.setMaxCapacity id value)) := by
  have h_memory : id ∈ s.buckets := h_ready.sim.buckets_eq ▸ h_mem
  unfold SqliteBackend.handle
  simp only [SqliteBackend.setMaxCapacity]
  cases h_valid : validateMaxCapacityFinitePositive value with
  | error error =>
    refine refines_of_error h_ready ?_
    simp only [MemoryBackend.handle, MemoryBackend.setMaxCapacity, MemoryBucket.setMaxCapacity,
      if_neg (not_not.mpr h_memory), h_valid, bind, Except.bind]
  | ok maxCapacity =>
    simp only [SqliteBackend.checked]
    apply run_refines (fun _ => Outcome.done) h_ready
    · show answer _ (b.engine.setMaxCapacity input b.db id maxCapacity.value) = _
      unfold SqliteEngine.setMaxCapacity
      rw [validateMaxCapacity_value]
      exact congrArg (answer fun _ => Outcome.done) (if_neg (not_not.mpr h_mem))
    · refine anchor_endsLikeMemory h_ready h_mem fun retention t h_loaded => ?_
      refine .of_ok (execute_run _ h_loaded.running)
        ⟨_, setMaxCapacity_memory h_memory h_valid, ?_⟩
      rw [← withBucket_withBucket s id (anchoredBucket (s.bucket id) input.currentTime)]
      refine updateBucket_settled (e := b.engine) h_loaded (fun _ _ => rfl)
        (fun row h_sim => ?_) ?_
      · simp only [withBucket, Function.update_self] at h_sim
        exact ⟨h_sim.capacity, h_sim.lastChecked, h_sim.together, h_sim.past,
          .inr ⟨_, rfl, rfl, rfl⟩⟩
      · simp [withBucket]

/-- A change of the configured limit, which this process takes over on success. -/
theorem applyConfiguredMaxCapacity_refines (h_ready : Ready b s clock input)
    (h_mem : id ∈ b.engine.buckets) :
    Refines (b.handle input (.applyConfiguredMaxCapacity id value))
      (s.step input.currentTime (.applyConfiguredMaxCapacity id value)) := by
  have h_memory : id ∈ s.buckets := h_ready.sim.buckets_eq ▸ h_mem
  unfold SqliteBackend.handle
  simp only [SqliteBackend.applyConfiguredMaxCapacity]
  cases h_valid : validateMaxCapacityFinitePositive value with
  | error error =>
    refine refines_of_error h_ready ?_
    simp only [MemoryBackend.handle, MemoryBackend.applyConfiguredMaxCapacity,
      MemoryBackend.setMaxCapacity, MemoryBucket.setMaxCapacity,
      if_neg (not_not.mpr h_memory), h_valid, bind, Except.bind]
  | ok maxCapacity =>
    let limits := Function.update b.engine.configuredMaxCapacity id maxCapacity
    have h_handle : s.handle (.applyConfiguredMaxCapacity id value) input.currentTime =
        .ok (.done, { withBucket s id { anchoredBucket (s.bucket id) input.currentTime with
            maxCapacity := maxCapacity } with
          configuredLimits := Function.update s.configuredLimits id value }) := by
      simp only [MemoryBackend.handle, MemoryBackend.applyConfiguredMaxCapacity,
        setMaxCapacity_memory h_memory h_valid, bind, Except.bind]
      rfl
    have h_body : EndsLikeMemory { b.engine with configuredMaxCapacity := limits } s
        (.applyConfiguredMaxCapacity id value) input.currentTime (fun _ : Unit => Outcome.done)
        (anchorThen b.engine input id maxCapacity.value maxCapacity.value
          (b.engine.clearOverride id input.currentTime)) ⟨b.db, fun _ => none, none⟩ := by
      refine anchor_endsLikeMemory h_ready h_mem fun retention t h_loaded => ?_
      refine .of_ok (execute_run _ h_loaded.running) ⟨_, h_handle, ?_⟩
      refine Settled.configuredLimits ?_ _
      rw [← withBucket_withBucket s id (anchoredBucket (s.bucket id) input.currentTime)]
      refine updateBucket_settled (e := b.engine) h_loaded
        (fun id' h_ne => Function.update_of_ne h_ne _ _) (fun row h_sim => ?_) ?_
      · simp only [withBucket, Function.update_self] at h_sim
        exact ⟨h_sim.capacity, h_sim.lastChecked, h_sim.together, h_sim.past,
          .inl ⟨rfl, rfl, by simp [limits]⟩⟩
      · simp [withBucket]
    have h_apply : b.engine.applyConfiguredMaxCapacity input b.db id maxCapacity.value =
        takeOverMaxCapacity id maxCapacity (b.engine.transaction input b.db
          (anchorThen b.engine input id maxCapacity.value maxCapacity.value
            (b.engine.clearOverride id input.currentTime))) := by
      unfold SqliteEngine.applyConfiguredMaxCapacity
      rw [validateMaxCapacity_value]
      exact if_neg (not_not.mpr h_mem)
    simp only [SqliteBackend.checked, SqliteBackend.run, call]
    rw [h_apply]
    obtain ⟨error, h_raised, h_transaction⟩ | ⟨u, t, ⟨s', h_done, h_settled⟩, h_transaction⟩ :=
      transaction_ends (e := b.engine) h_ready.uninterrupted
        (fun _ _ ⟨_, _, h_settled⟩ => h_settled.running) h_body
    · rw [h_transaction]
      rcases h_raised with rfl | h_error
      · exact .inl rfl
      · rw [h_handle] at h_error
        cases h_error
    · rw [h_transaction, step_ok h_done]
      exact .inr ⟨rfl, Settled.commit h_settled⟩

end LimitChange

end Call

/-! ## Traces -/

/-- What a trace of the two backends may ask for: usages that cover the metrics,
    lifetimes the engine accepts, metadata that match the marker, a cleanup only while
    the marker is live, and limits of the backend's own buckets. -/
def Request.Matches (b : SqliteBackend) (s : MemoryBackend) : Request → Prop
  | .awaitForCapacity usage reservationId lifetime
  | .consumeCapacity usage reservationId lifetime =>
    Covers usage b.engine.metricNames ∧ b.engine.ValidLifetime reservationId lifetime
  | .refundCapacityForBuckets refund =>
    SqliteBackend.validateMarker refund (refund.bucketIds.getD b.engine.bucketIds) = .ok () ∧
      ∀ rid, refund.reservationId = some rid →
        ∃ ids usage, b.engine.MetadataMatches s refund rid ids usage
  | .refundCancelledConsumption usage reservationId =>
    Covers usage b.engine.metricNames ∧
      ∀ rid, reservationId = some rid → (s.acquiredReservationValues rid).isSome = true
  | .setMaxCapacity id _ | .applyConfiguredMaxCapacity id _ => id ∈ b.engine.buckets

/-- The two backends side by side, and the latest clock reading. -/
structure Side where
  sqlite : SqliteBackend
  memory : MemoryBackend
  clock : ℚ

namespace Side

/-- Both backends empty, over the same quotas. -/
def start (e : SqliteEngine) (clock : ℚ) : Side where
  sqlite := ⟨{ e with stateConfirmedUntil := fun _ => none }, .empty⟩
  memory := .init e.buckets e.configuredMaxCapacity
  clock := clock

/-- The same call on both. -/
def step (p : Side) (call : TxnInput × Request) : Side where
  sqlite := (p.sqlite.handle call.1 call.2).2
  memory := (p.memory.step call.1.currentTime call.2).after
  clock := call.1.currentTime

/-- A call of the trace: nothing has expired, no debt is refused, and the memory
    backend has room to remember a refunded id. -/
structure Admissible (p : Side) (call : TxnInput × Request) : Prop where
  clock_le : p.clock ≤ call.1.currentTime
  uninterrupted : call.1.interruptAfter = none
  unexpired : p.sqlite.db.Unexpired call.1.currentTime
  retained : (p.sqlite.handle call.1 call.2).1 ≠ .error (.valueError .retentionTooLong)
  below_cap : p.memory.refundedReservationIdOrder.length < p.memory.refundedReservationIdsCap
  requested : call.2.Matches p.sqlite p.memory

/-- An admissible call on both backends. -/
def Steps (p : Side) (call : TxnInput × Request) (p' : Side) : Prop :=
  p.Admissible call ∧ p' = p.step call

/-- The database stands for the memory backend. -/
structure Simulated (buckets : List BucketId) (p : Side) : Prop where
  sim : Sim p.sqlite.engine p.sqlite.db p.memory p.clock
  buckets_eq : p.memory.buckets = buckets
  nonneg : 0 ≤ p.clock

theorem start_simulated (e : SqliteEngine) {clock : ℚ} (h_clock : 0 ≤ clock) :
    (start e clock).Simulated e.buckets where
  sim :=
    { buckets_eq := rfl
      row := fun id _ =>
        ⟨rfl, rfl, rfl, fun _ h_last => (by cases h_last), .inl ⟨rfl, rfl, rfl⟩⟩
      confirmed := fun id _ h_until => by cases h_until
      tables := ⟨fun _ => rfl, fun rid => by simp [start, Database.empty, MemoryBackend.init],
        fun rid h_live => by cases h_live⟩ }
  buckets_eq := rfl
  nonneg := h_clock

variable {buckets : List BucketId}

/-- An admissible call ends alike on both backends. -/
theorem refines {p : Side} {call : TxnInput × Request} (h_sim : p.Simulated buckets)
    (h_call : p.Admissible call) :
    Refines (p.sqlite.handle call.1 call.2) (p.memory.step call.1.currentTime call.2) := by
  obtain ⟨input, request⟩ := call
  have h_ready : Ready p.sqlite p.memory p.clock input :=
    ⟨h_sim.sim, h_call.unexpired, h_call.clock_le, h_sim.nonneg.trans h_call.clock_le,
      h_call.uninterrupted⟩
  have h_requested := h_call.requested
  cases request with
  | awaitForCapacity usage reservationId lifetime =>
    exact awaitForCapacity_refines h_ready h_requested.1 h_requested.2
  | consumeCapacity usage reservationId lifetime =>
    exact consumeCapacity_refines h_ready h_requested.1 h_requested.2
  | refundCapacityForBuckets refund =>
    exact refundCapacityForBuckets_refines h_ready h_call.below_cap h_requested.1 h_requested.2
  | refundCancelledConsumption usage reservationId =>
    exact refundCancelledConsumption_refines h_ready h_requested.1 h_requested.2
  | setMaxCapacity id value => exact setMaxCapacity_refines h_ready h_requested
  | applyConfiguredMaxCapacity id value =>
    exact applyConfiguredMaxCapacity_refines h_ready h_requested

theorem step_time (s : MemoryBackend) (currentTime : ℚ) (request : Request) :
    (s.step currentTime request).time = currentTime := by
  unfold MemoryBackend.step
  cases s.handle request currentTime <;> rfl

theorem step_buckets (s : MemoryBackend) (currentTime : ℚ) (request : Request) :
    (s.step currentTime request).after.buckets = s.buckets := by
  cases h_memory : s.handle request currentTime with
  | error error => rw [step_error h_memory]
  | ok result =>
    obtain ⟨outcome, s'⟩ := result
    rw [step_ok h_memory]
    exact MemoryBackend.handle_buckets h_memory

theorem steps_simulated {p p' : Side} {call : TxnInput × Request}
    (h_sim : p.Simulated buckets) (h_step : Steps p call p') : p'.Simulated buckets := by
  obtain ⟨h_call, rfl⟩ := h_step
  obtain h_refused | ⟨_, h_after⟩ := refines h_sim h_call
  · exact absurd h_refused h_call.retained
  · rw [step_time] at h_after
    exact ⟨h_after, (step_buckets _ _ _).trans h_sim.buckets_eq,
      h_sim.nonneg.trans h_call.clock_le⟩

/-- After every trace both backends show the same capacity and limit for every bucket,
    at any time before an expiry, and end the next call with the same outcome. -/
theorem run_refines_memory (e : SqliteEngine) {clock : ℚ} (h_clock : 0 ≤ clock)
    {calls : List (TxnInput × Request)} {p : Side}
    (h_run : Run Steps (start e clock) calls p) :
    (∀ id ∈ e.buckets, ∀ currentTime, p.clock ≤ currentTime →
      p.sqlite.db.Unexpired currentTime →
        ∃ state, p.sqlite.snapshot id currentTime = .ok state ∧
          state.capacity = p.memory.capacityAt currentTime id ∧
          state.maxCapacity.value = p.memory.maxCapacity id) ∧
    (∀ call, p.Admissible call →
      (p.sqlite.handle call.1 call.2).1 =
        (p.memory.step call.1.currentTime call.2).outcome) := by
  have h_sim : p.Simulated e.buckets :=
    h_run.invariant (fun _ _ _ => steps_simulated) (start_simulated e h_clock)
  refine ⟨fun id h_mem currentTime h_le h_unexpired => ?_, fun call h_call => ?_⟩
  · rw [← h_sim.buckets_eq, ← h_sim.sim.buckets_eq] at h_mem
    obtain ⟨state, h_snapshot, h_state⟩ :=
      h_sim.sim.snapshot h_unexpired h_le (h_sim.nonneg.trans h_le) h_mem
    refine ⟨state, h_snapshot, h_state.capacity, ?_⟩
    rw [h_state.maxCapacity]
    rfl
  · obtain h_refused | ⟨h_outcome, _⟩ := refines h_sim h_call
    · exact absurd h_refused h_call.retained
    · exact h_outcome

/-- A first call that consumes 60 of 100 tokens under `a`, and a second that finds 50
    tokens where it asks for 60. -/
def firstCall : TxnInput × Request :=
  (.at 0, .awaitForCapacity (tokens 60) (some "a") (some 3600))

def secondCall : TxnInput × Request :=
  (.at 6, .awaitForCapacity (tokens 60) (some "b") (some 3600))

/-- Nothing expires up to a horizon that the TTLs of the engine reach beyond. -/
theorem start_lasts {e : SqliteEngine} {clock horizon : ℚ} (h_outlasts : e.Outlasts clock horizon) :
    (start e clock).sqlite.Lasts clock horizon :=
  ⟨.empty horizon, h_outlasts.bucketTtl, h_outlasts.refundDedupTtl, h_outlasts.overrideTtl⟩

theorem step_lasts {p : Side} {call : TxnInput × Request} {horizon : ℚ}
    (h_lasts : p.sqlite.Lasts p.clock horizon) (h_clock : p.clock ≤ call.1.currentTime)
    (h_lifetime : ∀ seconds, call.2.lifetime = some seconds →
      horizon < call.1.currentTime + seconds) :
    (p.step call).sqlite.Lasts (p.step call).clock horizon :=
  SqliteBackend.handle_lasts (h_lasts.later h_clock) h_lifetime

theorem exampleEngine_outlasts {horizon : ℚ} (h_horizon : horizon < 3600) :
    exampleEngine.Outlasts 0 horizon := by
  have h_ttl : horizon < 0 + (3600 : ℕ) := by
    push_cast
    linarith
  exact ⟨h_ttl, h_ttl, h_ttl⟩

/-- What an acquire of the examples asks for. -/
theorem requested_example {b : SqliteBackend} (rid : ReservationId) {amount : ℚ}
    (h_amount : 0 ≤ amount) (h_metrics : b.engine.metricNames = {"tokens"})
    (h_lifetime : b.engine.maxReservationLifetimeSeconds = 3600) :
    Covers (tokens amount) b.engine.metricNames ∧
      b.engine.ValidLifetime (some rid) (some 3600) :=
  ⟨h_metrics ▸ covers_tokens h_amount, fun _ => ⟨3600, rfl, by norm_num, h_lifetime.ge⟩⟩

theorem firstCall_admissible : (start exampleEngine 0).Admissible firstCall :=
  ⟨le_refl _, rfl, .empty 0, by decide +kernel, by decide +kernel,
    requested_example "a" (by norm_num) rfl rfl⟩

theorem firstCall_lasts :
    ((start exampleEngine 0).step firstCall).sqlite.Lasts 0 600 := by
  refine step_lasts (start_lasts (exampleEngine_outlasts (by norm_num))) (le_refl _) ?_
  rintro seconds ⟨⟩
  show (600 : ℚ) < 0 + 3600
  norm_num

theorem run_refines_memory_secondCall :
    ∃ p, Run Steps (start exampleEngine 0) [firstCall] p ∧
      (p.sqlite.handle secondCall.1 secondCall.2).1 = .ok .unavailable ∧
      (p.sqlite.handle secondCall.1 secondCall.2).1 =
        (p.memory.step secondCall.1.currentTime secondCall.2).outcome := by
  have h_run : Run Steps (start exampleEngine 0) [firstCall]
      ((start exampleEngine 0).step firstCall) := .cons ⟨firstCall_admissible, rfl⟩ (.nil _)
  have h_second : ((start exampleEngine 0).step firstCall).Admissible secondCall := by
    refine ⟨by decide +kernel, rfl, firstCall_lasts.unexpired.earlier ?_, by decide +kernel,
      by decide +kernel, requested_example "b" (by norm_num) (by decide +kernel)
        (by decide +kernel)⟩
    show (6 : ℚ) ≤ 600
    norm_num
  exact ⟨_, h_run, by decide +kernel,
    (run_refines_memory exampleEngine (le_refl 0) h_run).2 secondCall h_second⟩

end Side

end TokenThrottle
