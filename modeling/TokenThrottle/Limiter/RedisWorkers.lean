/-
  TokenThrottle.Limiter.RedisWorkers

  Any number of workers on one Redis server: each runs one operation after the other on the
  backend of its process, one command at a time, and between two commands of a worker anything
  may happen on the server.

  * Every backend has its buckets in the order of `full_redis_key`, from the constructor and
    from each rebuild; so every lock is asked for above those its worker holds.
  * A worker waits for another one that holds the lock it asks for; no worker waits for itself.
  * `lock` that raises has asked for the release of all it took.
-/
import TokenThrottle.Limiter.RebuildFailure
import TokenThrottle.Redis.Alone
import TokenThrottle.Redis.KeyLayout
import TokenThrottle.Redis.LockOrder
import TokenThrottle.Theory.WaitGraph

namespace TokenThrottle

open Relation (TransGen)
open Theory (Run Steps Program exists_run_of_exec)
open Theory.Program
open Theory.WaitGraph (WaitsFor)

/-! ## Backends in order -/

/-- The keys of the buckets are made of validated segments. -/
def RedisBackendBuilder.Validates (u : UnicodeTables) (builder : RedisBackendBuilder)
    (quotas : UsageQuotas) : Prop :=
  ∀ id ∈ quotas.keys, (KeyIdentity.bucket (builder.bucketKey id) .lock).Valid u

/-- The constructor sorts the buckets, and no two of them have the same key. -/
theorem built_ascending {u : UnicodeTables} {builder : RedisBackendBuilder} {quotas : UsageQuotas}
    (h_valid : builder.Validates u quotas) : (builder.built quotas).Ascending := by
  let ids := quotas.items.map Prod.fst
  have h_mem : ∀ {id}, id ∈ ids → (KeyIdentity.bucket (builder.bucketKey id) .lock).Valid u :=
    fun h_mem => h_valid _ (List.mem_toFinset.mpr h_mem)
  have h_distinct : (ids.map builder.bucketKey).Pairwise
      fun a b => a.fullRedisKey ≠ b.fullRedisKey := by
    rw [List.pairwise_map]
    apply List.Pairwise.imp_of_mem _ quotas.nodup
    intro id id' h_id h_id' h_ne h_full
    have h_key := BucketKey.fullRedisKey_inj (h_mem h_id) (h_mem h_id') h_full
    exact h_ne (congrArg BucketKey.id h_key)
  have h_sorted : (builder.built quotas).bucketKeys = (ids.map builder.bucketKey).insertionSort
      fun a b => a.fullRedisKey ≤ b.fullRedisKey :=
    List.map_insertionSort _ _ _ _ fun _ _ _ _ => Iff.rfl
  unfold RedisClient.Ascending
  rw [h_sorted]
  exact ascending_insertionSort h_distinct

/-! ## Operations -/

/-- What a worker does on its backend. -/
inductive RedisOperation
  | awaitForCapacity (usage : FrozenUsage) (timeout : Option ℚ)
      (reservationId : Option ReservationId) (reservationLifetimeSeconds : Option ℚ)
      (recovering : Bool) (attempts : ℕ)
  | consumeCapacity (usage : FrozenUsage) (reservationId : Option ReservationId)
      (reservationLifetimeSeconds : Option ℚ)
  | refundCapacityForBuckets (refund : RefundRequest)
  | setMaxCapacity (id : BucketId) (value : ℚ)
  | applyConfiguredMaxCapacity (id : BucketId) (value : ℚ)
  | syncChangedMetricSet (builder : RedisBackendBuilder) (entry : FamilyEntry)
      (oldSnapshot newSnapshot : UsageQuotas)

namespace RedisOperation

open RedisBackend

/-- The operation, whatever it returns. -/
def program : RedisOperation → RedisProgram Unit
  | .awaitForCapacity usage timeout reservationId lifetime recovering attempts => do
    let _ ← RedisBackend.awaitForCapacity usage timeout reservationId lifetime recovering attempts
    return ()
  | .consumeCapacity usage reservationId lifetime => do
    let _ ← RedisBackend.consumeCapacity usage reservationId lifetime
    return ()
  | .refundCapacityForBuckets refund => RedisBackend.refundCapacityForBuckets refund
  | .setMaxCapacity id value => RedisBackend.setMaxCapacity id value
  | .applyConfiguredMaxCapacity id value => RedisBackend.applyConfiguredMaxCapacity id value
  | .syncChangedMetricSet builder entry oldSnapshot newSnapshot => do
    let _ ← TokenThrottle.syncChangedMetricSet (redisMethods builder) entry oldSnapshot newSnapshot
    return ()

/-- A rebuild is given a validated configuration. -/
def Validated (u : UnicodeTables) : RedisOperation → Prop
  | .syncChangedMetricSet builder _ _ newSnapshot => builder.Validates u newSnapshot
  | _ => True

theorem restoreRuntimeMaxCapacity_inOrder (oldSnapshot newSnapshot : UsageQuotas)
    (overrides : List (BucketId × MaxCapacity)) :
    InOrder ∅ (fun _ => True)
      (restoreRuntimeMaxCapacity RedisBackend.setMaxCapacity oldSnapshot newSnapshot overrides) := by
  induction overrides with
  | nil => exact InOrder.pure trivial
  | cons item overrides ih =>
    refine InOrder.then ?_ fun _ => ih
    unfold Program.when
    split
    · exact setMaxCapacity_inOrder _ _
    · exact InOrder.pure trivial

theorem syncChangedMetricSet_inOrder {u : UnicodeTables} {builder : RedisBackendBuilder}
    {newSnapshot : UsageQuotas} (h_valid : builder.Validates u newSnapshot) (entry : FamilyEntry)
    (oldSnapshot : UsageQuotas) :
    InOrder ∅ (fun _ => True)
      (TokenThrottle.syncChangedMetricSet (redisMethods builder) entry oldSnapshot
        newSnapshot) := by
  let cfg := rebuildCfg false entry oldSnapshot newSnapshot
  have h_cfg : builder.Validates u cfg := by
    intro id h_mem
    exact h_valid id (keys_cfgWithPreserved newSnapshot oldSnapshot _ ▸ h_mem)
  have h_build : InOrder ∅ RedisClient.Ascending (builder.build cfg) :=
    BetweenLocks.then (send_betweenLocks rfl) fun _ => InOrder.pure (built_ascending h_cfg)
  have h_rebuild : InOrder ∅ (fun _ => True)
      (rebuildBackend (redisMethods builder) entry oldSnapshot newSnapshot) := by
    refine InOrder.bind h_build fun newBackend h_new => ?_
    refine InOrder.then (prepareReconfiguredBackend_inOrder h_new cfg.items) fun _ => ?_
    exact InOrder.then (restoreRuntimeMaxCapacity_inOrder _ _ _) fun _ => InOrder.pure trivial
  refine InOrder.bind h_rebuild.attempt fun result _ => ?_
  cases result with
  | ok _ => exact InOrder.pure trivial
  | error _ => exact InOrder.pure trivial

/-- Every operation takes its locks in order and ends without them. -/
theorem program_inOrder {u : UnicodeTables} {operation : RedisOperation}
    (h_valid : operation.Validated u) : InOrder ∅ (fun _ => True) operation.program := by
  cases operation with
  | awaitForCapacity usage timeout reservationId lifetime recovering attempts =>
    exact InOrder.then (awaitForCapacity_inOrder usage reservationId lifetime recovering timeout
      attempts) fun _ => InOrder.pure trivial
  | consumeCapacity usage reservationId lifetime =>
    exact InOrder.then (consumeCapacity_inOrder usage reservationId lifetime)
      fun _ => InOrder.pure trivial
  | refundCapacityForBuckets refund => exact refundCapacityForBuckets_inOrder refund
  | setMaxCapacity id value => exact setMaxCapacity_inOrder id value
  | applyConfiguredMaxCapacity id value => exact applyConfiguredMaxCapacity_inOrder id value
  | syncChangedMetricSet builder entry oldSnapshot newSnapshot =>
    exact InOrder.then (syncChangedMetricSet_inOrder h_valid entry oldSnapshot)
      fun _ => InOrder.pure trivial

end RedisOperation

/-! ## Workers -/

/-- A server, the backend of each process, and where each worker stands: what is left of its
    operation, and the locks it holds by the answers it got. -/
structure RedisWorkers (W P : Type) where
  server : RedisServer
  client : P → RedisClient
  program : W → RedisProgram Unit
  held : W → Held

inductive WorkerEvent (W : Type)
  | start (w : W) (operation : RedisOperation)
  | serve (w : W) (turn : Turn)

/-- An operation is started with a validated configuration. -/
def WorkerEvent.Validated {W : Type} (u : UnicodeTables) : WorkerEvent W → Prop
  | .start _ operation => operation.Validated u
  | .serve _ _ => True

namespace RedisWorkers

variable {W P : Type} {process : W → P}

/-- A worker that has ended its operation starts another one, or one command is served. -/
def step [DecidableEq W] [DecidableEq P] (process : W → P) (s : RedisWorkers W P) :
    WorkerEvent W → Option (RedisWorkers W P)
  | .start w operation =>
    match s.program w with
    | .done _ => some { s with program := Function.update s.program w operation.program }
    | .call _ _ => none
  | .serve w turn =>
    match s.program w with
    | .done _ => none
    | .call command next =>
      let served := Session.serve turn command ⟨s.server, s.client (process w)⟩
      some
        { server := served.2.server
          client := Function.update s.client (process w) served.2.client
          program := Function.update s.program w (next served.1)
          held := Function.update s.held w (heldAfter (s.held w) command served.1) }

/-- The lock that the worker asks for next. -/
def request (s : RedisWorkers W P) (w : W) : Option BucketKey :=
  match s.program w with
  | .call (.acquireLock key _) _ => some key
  | _ => none

/-- The lock is taken, and by the worker. -/
def Holds (s : RedisWorkers W P) (w : W) (key : BucketKey) : Prop :=
  ∃ token ∈ s.server.locks key, (key, token) ∈ s.held w

/-- New backends, and no operation under way. -/
structure Fresh (u : UnicodeTables) (s : RedisWorkers W P) : Prop where
  built : ∀ p, ∃ (builder : RedisBackendBuilder) (quotas : UsageQuotas),
    builder.Validates u quotas ∧ s.client p = builder.built quotas
  idle : ∀ w, ∃ result, s.program w = .done result
  free : ∀ w, s.held w = ∅

/-- Every backend is in order, and every worker keeps to the order of locks to its end. -/
structure Sound (s : RedisWorkers W P) : Prop where
  ascending : ∀ p, (s.client p).Ascending
  inOrder : ∀ w, (s.program w).Follows lockOrder (fun _ held => held = ∅) (s.held w)

theorem Fresh.sound {u : UnicodeTables} {s : RedisWorkers W P} (h_fresh : s.Fresh u) : s.Sound where
  ascending p := by
    obtain ⟨builder, quotas, h_valid, h_built⟩ := h_fresh.built p
    rw [h_built]
    exact built_ascending h_valid
  inOrder w := by
    obtain ⟨result, h_done⟩ := h_fresh.idle w
    rw [h_done]
    exact h_fresh.free w

/-- A worker that has ended its operation holds no lock. -/
theorem Sound.idle_free {s : RedisWorkers W P} (h_sound : s.Sound) {w : W}
    {result : Except BackendError Unit} (h_done : s.program w = .done result) : s.held w = ∅ := by
  have h_follows := h_sound.inOrder w
  rw [h_done] at h_follows
  exact h_follows

/-! ### Steps -/

theorem execute_ascending (turn : Turn) {s : Session} {held : Held} {command : Command}
    (h_client : s.client.Ascending) (h_allowed : lockOrder.allowed held command) :
    (s.execute turn command).2.client.Ascending := by
  cases command with
  | installReconfiguredState client => exact h_allowed
  | acquireLock key token =>
    dsimp only [Session.execute]
    split
    · exact h_client
    · exact h_client
  | releaseLock key token =>
    dsimp only [Session.execute]
    split
    · exact h_client
    · exact h_client
  | _ => exact h_client

/-- The backend stays in order, and what a command reads of it is. -/
theorem serve_ascending (turn : Turn) {s : Session} {held : Held} {command : Command}
    (h_client : s.client.Ascending) (h_allowed : lockOrder.allowed held command) :
    (Session.serve turn command s).2.client.Ascending ∧
      ReadsAscending command (Session.serve turn command s).1 := by
  have h_reads : ∀ s : Session, s.client.Ascending →
      ReadsAscending command (.ok (s.execute turn command).1) := by
    intro s h_client
    cases command with
    | client => exact h_client
    | _ => trivial
  have h_error : ∀ e, ReadsAscending command (.error e) := by
    intro e
    cases command <;> trivial
  unfold Session.serve
  dsimp only
  split
  · exact ⟨execute_ascending turn h_client h_allowed, h_reads _ h_client⟩
  · exact ⟨execute_ascending turn h_client h_allowed, h_error _⟩
  · exact ⟨h_client, h_error _⟩

variable [DecidableEq W] [DecidableEq P]

theorem step_start {s s' : RedisWorkers W P} {w : W} {operation : RedisOperation}
    (h_step : Steps (step process) s (.start w operation) s') :
    (∃ result, s.program w = .done result) ∧
      s' = { s with program := Function.update s.program w operation.program } := by
  unfold Steps step at h_step
  dsimp only at h_step
  split at h_step
  · rename_i result h_done
    cases h_step
    exact ⟨⟨result, h_done⟩, rfl⟩
  · cases h_step

theorem step_serve {s s' : RedisWorkers W P} {w : W} {turn : Turn}
    (h_step : Steps (step process) s (.serve w turn) s') :
    ∃ command next, s.program w = .call command next ∧
      s' =
        { server := (Session.serve turn command ⟨s.server, s.client (process w)⟩).2.server
          client := Function.update s.client (process w)
            (Session.serve turn command ⟨s.server, s.client (process w)⟩).2.client
          program := Function.update s.program w
            (next (Session.serve turn command ⟨s.server, s.client (process w)⟩).1)
          held := Function.update s.held w (heldAfter (s.held w) command
            (Session.serve turn command ⟨s.server, s.client (process w)⟩).1) } := by
  unfold Steps step at h_step
  dsimp only at h_step
  split at h_step
  · cases h_step
  · rename_i command next h_call
    cases h_step
    exact ⟨command, next, h_call, rfl⟩

theorem step_sound {u : UnicodeTables} {s s' : RedisWorkers W P} {event : WorkerEvent W}
    (h_valid : event.Validated u) (h_sound : s.Sound)
    (h_step : Steps (step process) s event s') : s'.Sound := by
  cases event with
  | start w operation =>
    obtain ⟨⟨result, h_done⟩, rfl⟩ := step_start h_step
    have h_held : s.held w = ∅ := h_sound.idle_free h_done
    have h_operation : operation.program.Follows lockOrder (fun _ held => held = ∅) ∅ :=
      (RedisOperation.program_inOrder h_valid).mono fun _ _ h_post => h_post.1
    refine ⟨h_sound.ascending, fun w' => ?_⟩
    dsimp only
    by_cases h_same : w' = w
    · rw [h_same, Function.update_self, h_held]
      exact h_operation
    · rw [Function.update_of_ne h_same]
      exact h_sound.inOrder w'
  | serve w turn =>
    obtain ⟨command, next, h_call, rfl⟩ := step_serve h_step
    have h_follows := h_sound.inOrder w
    rw [h_call] at h_follows
    have h_served := serve_ascending turn (s := ⟨s.server, s.client (process w)⟩)
      (h_sound.ascending (process w)) h_follows.1
    refine ⟨fun p => ?_, fun w' => ?_⟩
    · dsimp only
      by_cases h_same : p = process w
      · rw [h_same, Function.update_self]
        exact h_served.1
      · rw [Function.update_of_ne h_same]
        exact h_sound.ascending p
    · dsimp only
      by_cases h_same : w' = w
      · rw [h_same, Function.update_self, Function.update_self]
        exact h_follows.2 _ _ ⟨rfl, h_served.2⟩
      · rw [Function.update_of_ne h_same, Function.update_of_ne h_same]
        exact h_sound.inOrder w'

theorem run_sound {u : UnicodeTables} {s s' : RedisWorkers W P} {events : List (WorkerEvent W)}
    (h_valid : ∀ event ∈ events, event.Validated u) (h_sound : s.Sound)
    (h_run : Run (Steps (step process)) s events s') : s'.Sound := by
  induction h_run with
  | nil => exact h_sound
  | cons h_step _ ih =>
    obtain ⟨h_event, h_rest⟩ := List.forall_mem_cons.mp h_valid
    exact ih h_rest (step_sound h_event h_sound h_step)

/-! ### Waiting -/

omit [DecidableEq W] [DecidableEq P]

/-- A worker asks for a lock above those it holds. -/
theorem Sound.request_above {s : RedisWorkers W P} (h_sound : s.Sound) {w : W} {key : BucketKey}
    (h_request : s.request w = some key) :
    ∀ lock ∈ s.held w, lock.1.fullRedisKey < key.fullRedisKey := by
  unfold request at h_request
  have h_follows := h_sound.inOrder w
  split at h_request
  · rename_i key' token next h_program
    rw [h_program] at h_follows
    cases h_request
    exact h_follows.1
  · cases h_request

/-- No worker waits for itself, through any others. -/
theorem Sound.acyclic {s : RedisWorkers W P} (h_sound : s.Sound) (w : W) :
    ¬ TransGen (WaitsFor s.request s.Holds) w w := by
  let _ : Preorder BucketKey := Preorder.lift BucketKey.fullRedisKey
  apply Theory.WaitGraph.acyclic
  rintro w key h_request key' ⟨token, _, h_held⟩
  exact h_sound.request_above h_request (key', token) h_held

end RedisWorkers

/-! ## A `_lock` that raises -/

section Unwinding

variable {held held' : Held} {lock : BucketKey × Token} {command : Command}
  {answer : Except BackendError command.Response}

theorem mem_heldAfter (h_mem : lock ∈ held) (h_keeps : command ≠ .releaseLock lock.1 lock.2) :
    lock ∈ heldAfter held command answer := by
  cases command with
  | acquireLock key token =>
    match answer with
    | .ok true => exact Finset.mem_insert_of_mem h_mem
    | .ok false => exact h_mem
    | .error _ => exact Finset.mem_insert_of_mem h_mem
  | releaseLock key token =>
    have h_ne : lock ≠ (key, token) := by
      rintro rfl
      exact h_keeps rfl
    exact Finset.mem_erase.mpr ⟨h_ne, h_mem⟩
  | _ => exact h_mem

/-- What a command takes is held after it. -/
theorem mem_heldAfter_of_taken (h_taken : lock ∈ heldAfter ∅ command answer) :
    lock ∈ heldAfter held command answer := by
  cases command with
  | acquireLock key token =>
    match answer with
    | .ok false => exact absurd h_taken (Finset.notMem_empty lock)
    | .ok true =>
      rw [Finset.mem_singleton.mp h_taken]
      exact Finset.mem_insert_self _ _
    | .error _ =>
      rw [Finset.mem_singleton.mp h_taken]
      exact Finset.mem_insert_self _ _
  | releaseLock key token => exact absurd (Finset.mem_of_mem_erase h_taken) (Finset.notMem_empty lock)
  | _ => exact absurd h_taken (Finset.notMem_empty lock)

/-- A lock that is held no more was asked to be released. -/
theorem exists_releaseLock {steps : List (Served Command Command.Response BackendError Session Turn)}
    (h_path : Run (Step lockOrder) held steps held') (h_mem : lock ∈ held) (h_gone : lock ∉ held') :
    ∃ released ∈ steps, released.command = .releaseLock lock.1 lock.2 := by
  induction h_path with
  | nil => exact absurd h_mem h_gone
  | @cons _ _ _ first rest h_step _ ih =>
    by_cases h_release : first.command = .releaseLock lock.1 lock.2
    · exact ⟨first, List.mem_cons_self, h_release⟩
    · have h_held : lock ∈ heldAfter _ first.command first.answer := mem_heldAfter h_mem h_release
      rw [← h_step.2.1] at h_held
      obtain ⟨released, h_mem', h_released⟩ := ih h_held h_gone
      exact ⟨released, List.mem_cons_of_mem _ h_mem', h_released⟩

theorem execute_releaseLock (turn : Turn) (s : Session) (key : BucketKey) (token : Token) :
    (s.execute turn (.releaseLock key token)).2.server.locks key ≠ some token := by
  dsimp only [Session.execute]
  split
  · show Function.update s.server.locks key none key ≠ some token
    rw [Function.update_self]
    exact nofun
  · rename_i h_lost
    exact of_decide_eq_false (Bool.not_eq_true _ ▸ h_lost)

/-- A release that reaches the server leaves the lock to others. -/
theorem releaseLock_frees {turn : Turn} {s : Session} {key : BucketKey} {token : Token}
    (h_reaches : ∀ e, turn.delivery ≠ .refused e) :
    (Session.serve turn (.releaseLock key token) s).2.server.locks key ≠ some token := by
  unfold Session.serve
  dsimp only
  split
  · exact execute_releaseLock turn _ key token
  · exact execute_releaseLock turn _ key token
  · rename_i e h_refused
    exact absurd h_refused (h_reaches e)

/-- A command of `lock` has an answer that the order of locks allows. -/
theorem exists_after_of_locking (h_locking : command.locking = true) :
    ∃ held', lockOrder.after held command answer held' := by
  refine ⟨_, rfl, ?_⟩
  cases command with
  | client => cases h_locking
  | _ => trivial

/-- `lock` that raises has asked for the release of each lock it took, or may have taken; where
    the request reached the server, the lock was free of it then. -/
def LockUnwinds (keys : List BucketKey) : Prop :=
  ∀ (turns : List Turn) (s s' : Session) (e : BackendError)
    (before rest : List (Served Command Command.Response BackendError Session Turn))
    (taken : Served Command Command.Response BackendError Session Turn) (lock : BucketKey × Token),
    (RedisBackend.lock keys).run Session.serve turns s = some (.error e, s') →
    (RedisBackend.lock keys).trace Session.serve turns s = before ++ taken :: rest →
    lock ∈ heldAfter ∅ taken.command taken.answer →
    ∃ released ∈ rest, released.command = .releaseLock lock.1 lock.2 ∧
      ((∀ e, released.turn.delivery ≠ .refused e) →
        released.after.server.locks lock.1 ≠ some lock.2)

theorem lockUnwinds_of_ascending {keys : List BucketKey} (h_keys : AscendingKeys keys) :
    LockUnwinds keys := by
  intro turns s s' e before rest taken lock h_run h_trace h_taken
  have h_locking := RedisBackend.lockFrom_locking keys []
  obtain ⟨held', h_path, h_locked⟩ := exists_path_of_follows (RedisBackend.lock_follows h_keys)
    (fun step h_mem _ _ => exists_after_of_locking (h_locking.of_mem_trace h_mem)) h_run
  have h_none : held' = ∅ := h_locked
  rw [h_trace] at h_path
  obtain ⟨held, _, h_path⟩ := h_path.split
  cases h_path with
  | cons h_take h_rest =>
    have h_held : lock ∈ heldAfter held taken.command taken.answer :=
      mem_heldAfter_of_taken h_taken
    rw [← h_take.2.1] at h_held
    have h_gone : lock ∉ held' := h_none ▸ Finset.notMem_empty lock
    obtain ⟨released, h_mem, h_release⟩ := exists_releaseLock h_rest h_held h_gone
    refine ⟨released, h_mem, h_release, fun h_reaches => ?_⟩
    have h_served : released ∈ (RedisBackend.lock keys).trace Session.serve turns s := by
      rw [h_trace]
      exact List.mem_append_right _ (List.mem_cons_of_mem _ h_mem)
    obtain ⟨turn, command, session, answer, session'⟩ := released
    obtain ⟨_, h_serve⟩ := serve_of_mem_trace h_served
    cases h_release
    have h_after : (Session.serve turn (.releaseLock lock.1 lock.2) session).2 = session' :=
      congrArg Prod.snd h_serve
    rw [← h_after]
    exact releaseLock_frees h_reaches

end Unwinding

/-! ## Any number of workers -/

namespace RedisWorkers

/-- What holds of the workers whatever happens: locks are asked for in order, the graph of who
    waits for whom has no cycle, and an operation that has ended holds none. -/
structure Ordered {W P : Type} (s : RedisWorkers W P) : Prop where
  request_above : ∀ w key, s.request w = some key →
    ∀ lock ∈ s.held w, lock.1.fullRedisKey < key.fullRedisKey
  acyclic : ∀ w, ¬ TransGen (WaitsFor s.request s.Holds) w w
  idle_free : ∀ w result, s.program w = .done result → s.held w = ∅

theorem Sound.ordered {W P : Type} {s : RedisWorkers W P} (h_sound : s.Sound) : s.Ordered where
  request_above _ _ h_request := h_sound.request_above h_request
  acyclic := h_sound.acyclic
  idle_free _ _ h_done := h_sound.idle_free h_done

variable {W P : Type} [DecidableEq W] [DecidableEq P] {process : W → P}

/-- In every run the workers are ordered; a rebuild locks the buckets of both backends, each
    once; and `lock` that raises has asked for the release of what it took. -/
theorem ordered_of_run {u : UnicodeTables} {s s' : RedisWorkers W P} {events : List (WorkerEvent W)}
    (h_fresh : s.Fresh u) (h_valid : ∀ event ∈ events, event.Validated u)
    (h_run : Run (Steps (step process)) s events s') :
    s'.Ordered ∧
      (∀ buckets, AscendingKeys (RedisBackend.combinedBucketSnapshot buckets) ∧
        ∀ text, (∃ key ∈ RedisBackend.combinedBucketSnapshot buckets, key.fullRedisKey = text) ↔
          ∃ key ∈ buckets, key.fullRedisKey = text) ∧
      ∀ keys, AscendingKeys keys → LockUnwinds keys := by
  refine ⟨(run_sound h_valid h_fresh.sound h_run).ordered, fun buckets => ?_,
    fun keys h_keys => lockUnwinds_of_ascending h_keys⟩
  refine ⟨combinedBucketSnapshot_ascending buckets, fun text => ⟨?_, ?_⟩⟩
  · rintro ⟨key, h_mem, h_text⟩
    exact ⟨key, mem_of_mem_combinedBucketSnapshot h_mem, h_text⟩
  · rintro ⟨key, h_mem, rfl⟩
    exact exists_mem_combinedBucketSnapshot h_mem

/-! ### Two workers -/

/-- Two workers of one process that limits tokens and requests. -/
def twoWorkers : RedisWorkers Bool Unit where
  server := .empty
  client _ := exampleBuilder.built tokensAndRequests
  program _ := pure ()
  held _ := ∅

/-- Both set the limit of the tokens: one has the first lock and asks for the second one, the
    other asks for the first one. -/
def oneLocked : List (WorkerEvent Bool) :=
  [.start true (.setMaxCapacity tokensPerMinute 50),
    .start false (.setMaxCapacity tokensPerMinute 70)] ++
    List.replicate 5 (.serve true quietTurn) ++ List.replicate 2 (.serve false quietTurn)

theorem twoWorkers_fresh : twoWorkers.Fresh asciiTables where
  built _ := by
    have h_keyPrefix : ValidSegment asciiTables .keyPrefix "limits" :=
      ⟨none, "limits", by decide +kernel⟩
    have h_family : ValidSegment asciiTables .modelFamily "m" := ⟨none, "m", by decide +kernel⟩
    have h_tokens : ValidSegment asciiTables .metric "tokens" := ⟨none, "tokens", by decide +kernel⟩
    have h_requests : ValidSegment asciiTables .metric "requests" :=
      ⟨none, "requests", by decide +kernel⟩
    refine ⟨exampleBuilder, tokensAndRequests, fun id h_mem => ⟨h_keyPrefix, h_family, ?_⟩, rfl⟩
    have h_ids : id ∈ [tokensPerMinute, requestsPerMinute] := List.mem_toFinset.mp h_mem
    rcases List.mem_cons.mp h_ids with rfl | h_ids
    · exact h_tokens
    · rw [List.mem_singleton.mp h_ids]
      exact h_requests
  idle _ := ⟨.ok (), rfl⟩
  free _ := rfl

/-- One worker waits for the other, and no cycle closes. -/
theorem ordered_of_run_twoWorkers :
    ∃ s, Run (Steps (step fun _ => ())) twoWorkers oneLocked s ∧
      WaitsFor s.request s.Holds false true ∧
      ¬ TransGen (WaitsFor s.request s.Holds) false false := by
  let first : BucketKey := ⟨"limits", "m", requestsPerMinute⟩
  obtain ⟨s, h_run, h_request, h_lock, h_held⟩ : ∃ s,
      Run (Steps (step fun _ => ())) twoWorkers oneLocked s ∧ s.request false = some first ∧
        s.server.locks first = some 0 ∧ (first, 0) ∈ s.held true :=
    exists_run_of_exec (by decide +kernel)
  have h_valid : ∀ event ∈ oneLocked, event.Validated asciiTables := by
    simp [oneLocked, WorkerEvent.Validated, RedisOperation.Validated]
  have h_ordered := (ordered_of_run twoWorkers_fresh h_valid h_run).1
  exact ⟨s, h_run, ⟨first, h_request, 0, h_lock, h_held⟩, h_ordered.acyclic false⟩

/-! ### A release that does not get through -/

/-- The second lock is another worker's. -/
def secondTaken : Session where
  server := RedisServer.empty.setLock ⟨"limits", "m", tokensPerMinute⟩ (some 7)
  client := exampleBuilder.built tokensAndRequests

/-- The second lock is not to be had, and the connection breaks at the release of the first. -/
def brokenRelease : List Turn :=
  List.replicate 5 quietTurn ++ [{ quietTurn with delivery := .refused .redisError }]

/-- What `lock` ends with: an exception, and the lock is still taken. -/
def leavesLocked (lock : BucketKey × Token) :
    Except BackendError RedisBackend.LockStack × Session → Bool
  | (.error _, s) => s.server.locks lock.1 = some lock.2
  | (.ok _, _) => false

/-- A lock whose release does not reach the server outlives the call that took it. -/
theorem lock_leavesLocked :
    ¬ ∀ (keys : List BucketKey) (turns : List Turn) (s s' : Session) (e : BackendError)
        (taken : Served Command Command.Response BackendError Session Turn)
        (lock : BucketKey × Token), AscendingKeys keys →
      (RedisBackend.lock keys).run Session.serve turns s = some (.error e, s') →
      taken ∈ (RedisBackend.lock keys).trace Session.serve turns s →
      lock ∈ heldAfter ∅ taken.command taken.answer →
      s'.server.locks lock.1 ≠ some lock.2 := by
  intro h_released
  let keys := secondTaken.client.bucketKeys
  let lock : BucketKey × Token := (⟨"limits", "m", requestsPerMinute⟩, 0)
  have h_keys : AscendingKeys keys := by
    obtain ⟨builder, quotas, h_valid, h_built⟩ := twoWorkers_fresh.built ()
    have h_client : secondTaken.client = builder.built quotas := h_built
    show secondTaken.client.Ascending
    rw [h_client]
    exact built_ascending h_valid
  have h_left : ((RedisBackend.lock keys).run Session.serve brokenRelease secondTaken).any
      (leavesLocked lock) = true := by decide +kernel
  have h_takes : ((RedisBackend.lock keys).trace Session.serve brokenRelease secondTaken).any
      (fun step => lock ∈ heldAfter ∅ step.command step.answer) = true := by decide +kernel
  obtain ⟨⟨result, s'⟩, h_run, h_left⟩ := (Option.any_eq_true _ _).mp h_left
  obtain ⟨taken, h_mem, h_taken⟩ := List.any_eq_true.mp h_takes
  match result, h_left with
  | .error e, h_left =>
    exact h_released keys brokenRelease secondTaken s' e taken lock h_keys h_run h_mem
      (of_decide_eq_true h_taken) (of_decide_eq_true h_left)

end RedisWorkers

end TokenThrottle
