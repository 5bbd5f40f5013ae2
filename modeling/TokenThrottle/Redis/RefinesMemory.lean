/-
  TokenThrottle.Redis.RefinesMemory

  The Redis backend refines the memory backend: processes with one configuration share a
  server, their calls run one after another, and no key expires in between.  Then every
  call ends as the memory backend's does, whichever process makes it, and every process reads
  the memory backend's capacities and limits.

  * `handle` is the method a request is for; the waiting loop tries once.
  * A fleet is the processes and their server.  Beside it runs one memory backend, which gets
    the calls of all of them (`Twin`).
-/
import TokenThrottle.Redis.CallsAgree

namespace TokenThrottle

open Theory (Program Run)
open Theory.Program
open RedisBackend (PassesGates NamesReservation limitOf)

variable {s s' : Session} {m m' : MemoryBackend} {t : ℚ}

namespace MemoryBackend

variable {outcome : Outcome} {request : Request} {id : BucketId}

theorem setCapacities_present {capacities : Capacities} {ids : Finset BucketId}
    {allowNegative : Bool} (h_present : (m.bucket id).lastChecked.isSome = true) :
    ((m.setCapacities capacities ids t allowNegative).bucket id).lastChecked.isSome = true := by
  show (if id ∈ ids then (m.bucket id).setCapacity (capacities id) t allowNegative
    else m.bucket id).lastChecked.isSome = true
  split
  · rfl
  · exact h_present

theorem setMaxCapacity_present {id' : BucketId} {value : ℚ}
    (h_ok : m.setMaxCapacity id' value t = .ok (outcome, m'))
    (h_present : (m.bucket id).lastChecked.isSome = true) :
    (m'.bucket id).lastChecked.isSome = true := by
  unfold setMaxCapacity at h_ok
  split at h_ok
  · cases h_ok
  · obtain ⟨bucket, h_bucket, h_ok⟩ := bind_eq_ok h_ok
    cases h_ok
    show (Function.update m.bucket id' bucket id).lastChecked.isSome = true
    by_cases h_eq : id = id'
    · subst h_eq
      rw [Function.update_self]
      obtain ⟨maximum, h_valid, _⟩ := bind_eq_ok h_bucket
      rw [setMaxCapacity_bucket _ h_valid] at h_bucket
      cases h_bucket
      unfold anchoredBucket
      split
      · rfl
      · exact h_present
    · rw [Function.update_of_ne h_eq]
      exact h_present

/-- A bucket that has a state keeps one. -/
theorem handle_present (h_ok : m.handle request t = .ok (outcome, m'))
    (h_present : (m.bucket id).lastChecked.isSome = true) :
    (m'.bucket id).lastChecked.isSome = true := by
  cases request with
  | awaitForCapacity usage reservationId lifetime =>
    obtain ⟨_, rfl⟩ | ⟨_, _, _, _, _, rfl⟩ := attempt_cases (awaitForCapacity_attempt h_ok).2
    · exact h_present
    · apply setCapacities_present
      rw [withReservation_record_bucket]
      exact h_present
  | consumeCapacity usage reservationId lifetime =>
    obtain ⟨_, rfl | ⟨_, _, rfl⟩⟩ := consumeCapacity_cases h_ok
    · exact h_present
    · apply setCapacities_present
      rw [withReservation_record_bucket]
      exact h_present
  | refundCapacityForBuckets refund =>
    obtain ⟨_, rfl | ⟨_, _, _, _, _, _, rfl⟩⟩ := refundCapacityForBuckets_cases h_ok
    · rw [withReservation_bucket closeReservation_bucket]
      exact h_present
    · rw [withReservation_bucket closeReservation_bucket]
      exact setCapacities_present h_present
  | refundCancelledConsumption usage reservationId =>
    obtain ⟨_, _, rfl⟩ := refundCancelledConsumption_cases h_ok
    rw [withReservation_bucket forgetAcquiredReservation_bucket]
    exact setCapacities_present h_present
  | setMaxCapacity id' value => exact setMaxCapacity_present h_ok h_present
  | applyConfiguredMaxCapacity id' value =>
    obtain ⟨⟨_, m₁⟩, h_set, h_ok⟩ := bind_eq_ok h_ok
    cases h_ok
    have h_kept := setMaxCapacity_present h_set h_present
    exact h_kept

end MemoryBackend

namespace RedisBackend

/-! ## A request -/

/-- The method a request is for, with one attempt of the waiting loop and no deadline. -/
def handle (recovering : Bool) : Request → RedisProgram Outcome
  | .awaitForCapacity usage reservationId lifetime => do
    let result ← awaitForCapacity usage none reservationId lifetime recovering 1
    return if result.isSome then .consumed else .unavailable
  | .consumeCapacity usage reservationId lifetime => do
    let _ ← consumeCapacity usage reservationId lifetime
    return .consumed
  | .refundCapacityForBuckets refund => do
    refundCapacityForBuckets refund
    return .done
  | .refundCancelledConsumption usage reservationId => do
    let client ← send .client
    refundCancelledConsumption usage reservationId recovering client.bucketKeys
    return .done
  | .setMaxCapacity id value => do
    setMaxCapacity id value
    return .done
  | .applyConfiguredMaxCapacity id value => do
    applyConfiguredMaxCapacity id value
    return .done

/-- What a call may ask for: usages that cover the metrics, lifetimes that a marker can be
    given, metadata of a consumption, and a cleanup that no limiter takes over.  A change of
    the configured limit is one of the process alone. -/
def Serves (client : RedisClient) (m : MemoryBackend) (recovering : Bool) (alone : Prop) (t : ℚ) :
    Request → Prop
  | .awaitForCapacity usage reservationId lifetime =>
    Covers usage client.metricNames ∧
      (reservationId.isSome = true → lifetime.any (0 < ·) = true) ∧
      PassesGates m usage reservationId t
  | .consumeCapacity usage reservationId lifetime =>
    Covers usage client.metricNames ∧
      (reservationId.isSome = true → lifetime.any (0 < ·) = true)
  | .refundCapacityForBuckets refund =>
    m.refundedReservationIdOrder.length < m.refundedReservationIdsCap ∧
      ∀ rid, refund.reservationId = some rid → ∃ ids usage, NamesReservation client m refund
        (refund.bucketIds.getD m.bucketIds) rid ids usage
  | .refundCancelledConsumption _ reservationId => reservationId.isSome = true → recovering = false
  | .setMaxCapacity _ _ => True
  | .applyConfiguredMaxCapacity _ _ => alone

/-- How a call ends: its locks are free, its process has the attributes it had (a configured
    limit that it took over aside), and the memory backend ends alike. -/
structure HandleAgrees (s : Session) (m : MemoryBackend) (request : Request) (alone : Prop)
    (t : ℚ) (result : Except BackendError Outcome) (s' : Session) : Prop where
  idle : s'.Idle
  client : ∃ caches defaults,
    s'.client = { s.client with caches := caches, maxCapacityDefault := defaults } ∧
      (defaults = s.client.maxCapacityDefault ∨ alone)
  agrees : s'.Agrees m (m.handle request t) (fun outcome memory => outcome = memory.seen) result

theorem handleAgrees_of_call {α : Type} {request : Request} {alone : Prop} {shows : α → Outcome → Prop}
    {p : RedisProgram α} {f : α → Outcome}
    (h_call : AloneEnds t (CallAgrees s m (m.handle request t) shows) p s)
    (h_shows : ∀ a outcome, shows a outcome → f a = outcome.seen) :
    AloneEnds t (HandleAgrees s m request alone t) (p >>= fun a => pure (f a)) s := by
  refine Follows.bind h_call (fun a s' h_agrees => ?_) fun e s' h_agrees => ?_
  · obtain ⟨h_idle, ⟨caches, h_client⟩, b, m', h_ok, h_b, h_stands⟩ := h_agrees
    exact ⟨h_idle, ⟨caches, _, h_client, .inl rfl⟩, b, m', h_ok, h_shows a b h_b, h_stands⟩
  · obtain ⟨h_idle, ⟨caches, h_client⟩, h_error⟩ := h_agrees
    exact ⟨h_idle, ⟨caches, _, h_client, .inl rfl⟩, h_error⟩

/-- Every call of a session that stands for a memory backend agrees with it. -/
theorem handle_agrees {request : Request} {recovering : Bool} {alone : Prop} (h_idle : s.Idle)
    (h_stands : s.StandsFor m) (h_time : 0 ≤ t)
    (h_serves : Serves s.client m recovering alone t request) :
    AloneEnds t (HandleAgrees s m request alone t) (handle recovering request) s := by
  have h_metrics : ∀ usage, Covers usage s.client.metricNames →
      Covers usage (metricNames m.buckets.toFinset) := by
    intro usage h_covers
    rw [h_stands.metricNames_eq] at h_covers
    exact h_covers
  cases request with
  | awaitForCapacity usage reservationId lifetime =>
    obtain ⟨h_covers, h_lifetime, h_gates⟩ := h_serves
    exact handleAgrees_of_call (awaitForCapacity_agrees recovering h_idle h_stands h_time
      (h_metrics usage h_covers) h_lifetime h_gates) fun _ _ h_shows => h_shows
  | consumeCapacity usage reservationId lifetime =>
    obtain ⟨h_covers, h_lifetime⟩ := h_serves
    exact handleAgrees_of_call (consumeCapacity_agrees h_idle h_stands h_time
      (h_metrics usage h_covers) h_lifetime) fun _ _ h_shows => h_shows.symm
  | refundCapacityForBuckets refund =>
    obtain ⟨h_cap, h_names⟩ := h_serves
    refine handleAgrees_of_call (refundCapacityForBuckets_agrees h_idle h_stands h_time h_names
      h_cap) fun _ outcome h_done => ?_
    rw [h_done]
    rfl
  | refundCancelledConsumption usage reservationId =>
    refine client_alone.then fun client s₁ ⟨h_client, h_s₁⟩ => ?_
    rw [h_client, h_s₁]
    refine handleAgrees_of_call (refundCancelledConsumption_agrees h_idle h_stands h_time
      h_serves) fun _ outcome h_done => ?_
    rw [h_done]
    rfl
  | setMaxCapacity id value =>
    refine handleAgrees_of_call (setMaxCapacity_agrees h_idle h_stands id value)
      fun _ outcome h_done => ?_
    rw [h_done]
    rfl
  | applyConfiguredMaxCapacity id value =>
    refine Follows.bind (applyConfiguredMaxCapacity_agrees h_idle h_stands id value)
      (fun _ s' h_agrees => ?_) fun e s' h_agrees => ?_
    · obtain ⟨h_idle', ⟨caches, defaults, h_client⟩, b, m', h_ok, rfl, h_stands'⟩ := h_agrees
      exact ⟨h_idle', ⟨caches, defaults, h_client, .inr h_serves⟩, .done, m', h_ok, rfl, h_stands'⟩
    · obtain ⟨h_idle', ⟨caches, defaults, h_client⟩, h_error⟩ := h_agrees
      exact ⟨h_idle', ⟨caches, defaults, h_client, .inr h_serves⟩, h_error⟩

end RedisBackend

/-! ## Processes on one server -/

/-- What the processes of a deployment are configured with alike. -/
structure RedisConfiguration where
  keyPrefix : String
  modelFamily : String
  sortedBuckets : List BucketId
  nodup : sortedBuckets.Nodup
  maxCapacityDefault : BucketId → MaxCapacity

/-- The configuration of a SQLite backend, as Redis processes share it. -/
def SqliteEngine.deployment (e : SqliteEngine) : RedisConfiguration where
  keyPrefix := e.keyPrefix
  modelFamily := e.modelFamily
  sortedBuckets := e.buckets
  nodup := e.nodup
  maxCapacityDefault := e.configuredMaxCapacity

/-- What each process may have of its own. -/
structure RedisProcess where
  bucketTtlSeconds : ℕ
  overrideTtlSeconds : ℕ
  callbacks : CallbackSlot → Bool

/-- A process that has read nothing yet. -/
def RedisConfiguration.client (config : RedisConfiguration) (process : RedisProcess) :
    RedisClient where
  keyPrefix := config.keyPrefix
  modelFamily := config.modelFamily
  sortedBuckets := config.sortedBuckets
  nodup := config.nodup
  maxCapacityDefault := config.maxCapacityDefault
  bucketTtlSeconds := process.bucketTtlSeconds
  overrideTtlSeconds := process.overrideTtlSeconds
  callbacks := process.callbacks
  caches := ⟨fun _ => none, fun _ => none⟩

/-- Two processes name the same records and default to the same limits. -/
structure RedisClient.Shares (client client' : RedisClient) : Prop where
  keyPrefix : client'.keyPrefix = client.keyPrefix
  modelFamily : client'.modelFamily = client.modelFamily
  sortedBuckets : client'.sortedBuckets = client.sortedBuckets
  maxCapacityDefault : client'.maxCapacityDefault = client.maxCapacityDefault

namespace RedisClient.Shares

variable {client client' client'' : RedisClient}

theorem symm (h_shares : client.Shares client') : client'.Shares client :=
  ⟨h_shares.keyPrefix.symm, h_shares.modelFamily.symm, h_shares.sortedBuckets.symm,
    h_shares.maxCapacityDefault.symm⟩

theorem trans (h_first : client.Shares client') (h_second : client'.Shares client'') :
    client.Shares client'' :=
  ⟨h_second.keyPrefix.trans h_first.keyPrefix, h_second.modelFamily.trans h_first.modelFamily,
    h_second.sortedBuckets.trans h_first.sortedBuckets,
    h_second.maxCapacityDefault.trans h_first.maxCapacityDefault⟩

theorem bucketKey (h_shares : client.Shares client') (id : BucketId) :
    client'.bucketKey id = client.bucketKey id := by
  unfold RedisClient.bucketKey
  rw [h_shares.keyPrefix, h_shares.modelFamily]

theorem bucketKeys (h_shares : client.Shares client') :
    client'.bucketKeys = client.bucketKeys := by
  unfold RedisClient.bucketKeys
  rw [h_shares.sortedBuckets]
  exact List.map_congr_left fun id _ => h_shares.bucketKey id

theorem reservationKey (h_shares : client.Shares client') (rid : ReservationId) :
    client'.reservationKey rid = client.reservationKey rid := by
  unfold RedisClient.reservationKey
  rw [h_shares.keyPrefix]

/-- One process stands for a memory backend as another does, if it has confirmed no more. -/
theorem standsFor {server : RedisServer} (h_shares : client.Shares client')
    (h_stands : Session.StandsFor ⟨server, client⟩ m)
    (h_confirmed : ∀ id ∈ m.buckets, (client'.caches.stateConfirmedAtServerTime id).isSome = true →
      (m.bucket id).lastChecked.isSome = true) :
    Session.StandsFor ⟨server, client'⟩ m where
  buckets_eq := h_shares.sortedBuckets.trans h_stands.buckets_eq
  bucket id h_mem := by
    show RecordsSim (client'.maxCapacityDefault id) server (client'.bucketKey id) (m.bucket id)
    rw [h_shares.maxCapacityDefault, h_shares.bucketKey]
    exact h_stands.bucket id h_mem
  confirmed := h_confirmed
  reservations := by
    have h_reservations := h_stands.reservations
    refine ⟨fun rid => ?_, fun rid => ?_, h_reservations.exclusive, fun rid => ?_⟩
    · show server.acquired (client'.reservationKey rid) = _
      rw [h_shares.reservationKey, h_shares.modelFamily]
      exact h_reservations.marker rid
    · show (server.refundDedup (client'.reservationKey rid)).isSome = true ↔ _
      rw [h_shares.reservationKey]
      exact h_reservations.tombstone rid
    · show ∀ token, server.refundDedup (client'.reservationKey rid) = some token → _
      rw [h_shares.reservationKey]
      exact h_reservations.drawn rid

end RedisClient.Shares

variable {W : Type}

/-- The server and the processes that share it. -/
structure RedisFleet (W : Type) where
  server : RedisServer
  clients : W → RedisClient

/-- A call that one of the processes makes. -/
structure FleetCall (W : Type) where
  worker : W
  request : Request
  currentTime : ℚ
  recovering : Bool

namespace RedisFleet

def session (f : RedisFleet W) (worker : W) : Session := ⟨f.server, f.clients worker⟩

variable [DecidableEq W]

/-- The fleet after a call of one of its processes. -/
def after (f : RedisFleet W) (worker : W) (s : Session) : RedisFleet W where
  server := s.server
  clients := Function.update f.clients worker s.client

theorem after_clients_self (f : RedisFleet W) (worker : W) (s : Session) :
    (f.after worker s).clients worker = s.client := Function.update_self ..

theorem after_clients_of_ne (f : RedisFleet W) {worker other : W} (s : Session)
    (h_other : other ≠ worker) : (f.after worker s).clients other = f.clients other :=
  Function.update_of_ne h_other ..

/-- The call runs from its first command to its last with nothing in between. -/
def Calls (f : RedisFleet W) (call : FleetCall W) (result : Except BackendError Outcome)
    (f' : RedisFleet W) : Prop :=
  ∃ turns s', (∀ turn ∈ turns, turn.Alone call.currentTime) ∧
    (RedisBackend.handle call.recovering call.request).run Session.serve turns
      (f.session call.worker) = some (result, s') ∧
    f' = f.after call.worker s'

/-- How the call ends, and the fleet after it. -/
def play (f : RedisFleet W) (call : FleetCall W) : Except BackendError Outcome × RedisFleet W :=
  let (result, s') := (RedisBackend.handle call.recovering call.request).play Session.serve
    (.undisturbed call.currentTime) (f.session call.worker)
  (result, f.after call.worker s')

theorem calls_play (f : RedisFleet W) (call : FleetCall W) :
    f.Calls call (f.play call).1 (f.play call).2 := by
  obtain ⟨n, h_run⟩ := run_replicate Session.serve
    (RedisBackend.handle call.recovering call.request) (.undisturbed call.currentTime)
    (f.session call.worker)
  refine ⟨_, _, fun turn h_mem => ?_, h_run, rfl⟩
  rw [List.eq_of_mem_replicate h_mem]
  exact Turn.undisturbed_alone _

theorem exists_calls (f : RedisFleet W) (call : FleetCall W) :
    ∃ result f', f.Calls call result f' :=
  ⟨_, _, f.calls_play call⟩

end RedisFleet

/-! ## Beside a memory backend -/

/-- The processes, the memory backend that gets the calls of all of them, and the latest
    clock reading. -/
structure Twin (W : Type) where
  fleet : RedisFleet W
  memory : MemoryBackend
  clock : ℚ

/-- A call and how it ended. -/
structure AnsweredCall (W : Type) where
  call : FleetCall W
  result : Except BackendError Outcome

/-- A debt that its keys could not retain. -/
def AnsweredCall.Refused (event : AnsweredCall W) : Prop :=
  event.result = .error (.valueError .retentionTooLong)

namespace Twin

/-- No records on the server, processes that have read nothing, and an empty memory backend. -/
def start (config : RedisConfiguration) (processes : W → RedisProcess) (clock : ℚ) : Twin W where
  fleet := ⟨.empty, fun worker => config.client (processes worker)⟩
  memory := .init config.sortedBuckets config.maxCapacityDefault
  clock := clock

/-- The clock does not run backwards, and the call asks for what `Serves` allows; a process
    changes its configured limits only where it is the only one. -/
structure Admissible (p : Twin W) (call : FleetCall W) : Prop where
  clock_le : p.clock ≤ call.currentTime
  serves : RedisBackend.Serves (p.fleet.clients call.worker) p.memory call.recovering
    (∀ worker, worker = call.worker) call.currentTime call.request

/-- What the memory backend is after the call, which it does not get if the debt is refused. -/
def memoryAfter (p : Twin W) (event : AnsweredCall W) : MemoryBackend :=
  match event.result with
  | .error (.valueError .retentionTooLong) => p.memory
  | _ => (p.memory.step event.call.currentTime event.call.request).after

def Steps [DecidableEq W] (p : Twin W) (event : AnsweredCall W) (p' : Twin W) : Prop :=
  p.Admissible event.call ∧ ∃ fleet', p.fleet.Calls event.call event.result fleet' ∧
    p' = ⟨fleet', p.memoryAfter event, event.call.currentTime⟩

/-- Every process stands for the memory backend, with its locks free. -/
structure Simulated (p : Twin W) : Prop where
  stands : ∀ worker, (p.fleet.session worker).StandsFor p.memory
  idle : ∀ worker, (p.fleet.session worker).Idle
  shares : ∀ worker worker', (p.fleet.clients worker).Shares (p.fleet.clients worker')
  nonneg : 0 ≤ p.clock

theorem start_simulated (config : RedisConfiguration) (processes : W → RedisProcess) {clock : ℚ}
    (h_clock : 0 ≤ clock) : (start config processes clock).Simulated where
  stands worker :=
    { buckets_eq := rfl
      bucket := fun id _ => ⟨rfl, rfl, .inl ⟨rfl, rfl, rfl⟩⟩
      confirmed := fun id _ h_confirmed => by cases h_confirmed
      reservations := ⟨fun _ => rfl,
        fun rid => ⟨fun h_some => (by cases h_some), fun h_mem => (by cases h_mem)⟩,
        fun rid h_live => (by cases h_live), nofun⟩ }
  idle worker key h_mem := rfl
  shares worker worker' := ⟨rfl, rfl, rfl, rfl⟩
  nonneg := h_clock

/-- An admissible call leaves its process standing for what the memory backend is then. -/
theorem calls_agree {p : Twin W} {call : FleetCall W} (h_sim : p.Simulated)
    (h_call : p.Admissible call) :
    AloneEnds call.currentTime
      (RedisBackend.HandleAgrees (p.fleet.session call.worker) p.memory call.request
        (∀ worker, worker = call.worker) call.currentTime)
      (RedisBackend.handle call.recovering call.request) (p.fleet.session call.worker) :=
  RedisBackend.handle_agrees (h_sim.idle call.worker) (h_sim.stands call.worker)
    (h_sim.nonneg.trans h_call.clock_le) h_call.serves

variable {p p' : Twin W} {event : AnsweredCall W}

/-- What the memory backend does where the call agrees with it. -/
theorem memoryAfter_of_agrees {s' : Session}
    (h_agrees : s'.Agrees p.memory (p.memory.handle event.call.request event.call.currentTime)
      (fun outcome memory => outcome = memory.seen) event.result) :
    s'.StandsFor (p.memoryAfter event) ∧
      (event.Refused ∨ event.result =
        (p.memory.step event.call.currentTime event.call.request).outcome.map Outcome.seen) ∧
      ∀ id, (p.memory.bucket id).lastChecked.isSome = true →
        ((p.memoryAfter event).bucket id).lastChecked.isSome = true := by
  obtain ⟨call, result⟩ := event
  unfold memoryAfter
  match result with
  | .ok outcome =>
    obtain ⟨memory, m', h_ok, rfl, h_stands⟩ := h_agrees
    dsimp only
    rw [step_ok h_ok]
    exact ⟨h_stands, .inr rfl, fun id => MemoryBackend.handle_present h_ok⟩
  | .error e =>
    obtain ⟨h_refused | h_error, h_stands⟩ := h_agrees
    · rw [h_refused]
      exact ⟨h_stands, .inl rfl, fun _ h_present => h_present⟩
    · rw [step_error h_error]
      dsimp only
      split
      · exact ⟨h_stands, .inl ‹_›, fun _ h_present => h_present⟩
      · exact ⟨h_stands, .inr rfl, fun _ h_present => h_present⟩

/-- Every process reads the memory backend's capacities and limits. -/
theorem Simulated.reads (h_sim : p.Simulated) (worker : W) {currentTime : ℚ}
    (h_le : p.clock ≤ currentTime) :
    Alone currentTime
      (fun read s' => ∀ id ∈ p.memory.buckets,
        read.capacities id = p.memory.capacityAt currentTime id ∧
          RedisBackend.maxCapacities s'.client id = p.memory.maxCapacity id)
      (RedisBackend.getCapacitiesUnsafe (p.fleet.clients worker).bucketKeys currentTime)
      (p.fleet.session worker) := by
  have h_read := RedisBackend.getCapacitiesUnsafe_stands (h_sim.stands worker)
    (h_sim.nonneg.trans h_le)
  exact h_read.mono fun read s' ⟨_, _, h_found⟩ => h_found

theorem memoryAfter_buckets (p : Twin W) (event : AnsweredCall W) :
    (p.memoryAfter event).buckets = p.memory.buckets := by
  unfold memoryAfter
  split
  · rfl
  · exact Side.step_buckets ..

variable [DecidableEq W]

/-- Where the process that made a call stands for a memory backend, so do the others. -/
theorem Simulated.after {worker : W} {s' : Session} {alone : Prop} (h_sim : p.Simulated)
    (h_client : ∃ caches defaults,
      s'.client = { p.fleet.clients worker with caches := caches, maxCapacityDefault := defaults } ∧
        (defaults = (p.fleet.clients worker).maxCapacityDefault ∨ alone))
    (h_alone : alone → ∀ other, other = worker) (h_idle : s'.Idle) (h_stands : s'.StandsFor m)
    (h_present : ∀ id, (p.memory.bucket id).lastChecked.isSome = true →
      (m.bucket id).lastChecked.isSome = true) {t : ℚ} (h_time : 0 ≤ t) :
    Simulated ⟨p.fleet.after worker s', m, t⟩ := by
  obtain ⟨caches, defaults, h_client, h_defaults⟩ := h_client
  -- the process that made the call still names the same records and defaults to the same limits
  have h_same : ∀ other, other ≠ worker → s'.client.Shares (p.fleet.clients other) := by
    intro other h_other
    have h_shares := h_sim.shares worker other
    rw [h_client]
    refine ⟨h_shares.keyPrefix, h_shares.modelFamily, h_shares.sortedBuckets, ?_⟩
    obtain h_defaults | h_only := h_defaults
    · rw [h_shares.maxCapacityDefault, h_defaults]
    · exact absurd (h_alone h_only other) h_other
  have h_caller : ∀ other, s'.client.Shares ((p.fleet.after worker s').clients other) := by
    intro other
    by_cases h_other : other = worker
    · rw [h_other, RedisFleet.after_clients_self]
      exact ⟨rfl, rfl, rfl, rfl⟩
    · rw [RedisFleet.after_clients_of_ne _ _ h_other]
      exact h_same other h_other
  refine ⟨fun other => ?_, fun other key h_mem => ?_,
    fun first second => (h_caller first).symm.trans (h_caller second), h_time⟩
  · refine (h_caller other).standsFor h_stands fun id h_mem h_confirmed => ?_
    by_cases h_other : other = worker
    · rw [h_other, RedisFleet.after_clients_self] at h_confirmed
      exact h_stands.confirmed id h_mem h_confirmed
    · rw [RedisFleet.after_clients_of_ne _ _ h_other] at h_confirmed
      refine h_present id ((h_sim.stands other).confirmed id ?_ h_confirmed)
      rw [← (h_sim.stands other).buckets_eq]
      show id ∈ (p.fleet.clients other).sortedBuckets
      rw [(h_same other h_other).sortedBuckets, h_stands.buckets_eq]
      exact h_mem
  · have h_keys : key ∈ s'.client.bucketKeys := (h_caller other).bucketKeys ▸ h_mem
    exact h_idle key h_keys

theorem steps_simulated (h_sim : p.Simulated) (h_step : Steps p event p') : p'.Simulated := by
  obtain ⟨h_call, fleet', ⟨turns, s', h_turns, h_run, rfl⟩, rfl⟩ := h_step
  obtain ⟨h_idle, h_client, h_agrees⟩ := run_of_follows (calls_agree h_sim h_call) h_turns h_run
  obtain ⟨h_stands, _, h_present⟩ := memoryAfter_of_agrees h_agrees
  exact h_sim.after h_client (fun h_alone => h_alone) h_idle h_stands h_present
    (h_sim.nonneg.trans h_call.clock_le)

theorem steps_buckets (h_step : Steps p event p') : p'.memory.buckets = p.memory.buckets := by
  obtain ⟨_, fleet', _, rfl⟩ := h_step
  exact memoryAfter_buckets p event

theorem run_buckets {events : List (AnsweredCall W)} (h_run : Run Steps p events p') :
    p'.memory.buckets = p.memory.buckets := by
  induction h_run with
  | nil => rfl
  | cons h_step _ ih => exact ih.trans (steps_buckets h_step)

/-- An admissible call is refused or ends as the memory backend's does. -/
theorem Simulated.answers (h_sim : p.Simulated) {call : FleetCall W} (h_call : p.Admissible call)
    {result : Except BackendError Outcome} {fleet' : RedisFleet W}
    (h_calls : p.fleet.Calls call result fleet') :
    result = .error (.valueError .retentionTooLong) ∨
      result = (p.memory.step call.currentTime call.request).outcome.map Outcome.seen := by
  obtain ⟨turns, s', h_turns, h_run, rfl⟩ := h_calls
  have h_agrees := run_of_follows (calls_agree h_sim h_call) h_turns h_run
  exact (@memoryAfter_of_agrees W p ⟨call, result⟩ _ h_agrees.agrees).2.1

theorem run_simulated {config : RedisConfiguration} {processes : W → RedisProcess} {clock : ℚ}
    (h_clock : 0 ≤ clock) {events : List (AnsweredCall W)}
    (h_run : Run Steps (start config processes clock) events p) : p.Simulated :=
  h_run.invariant (fun _ _ _ => steps_simulated) (start_simulated config processes h_clock)

/-- After every run every process reads the memory backend's capacity and limit of every bucket,
    and every call that a process makes next ends, refused or as the memory backend's does. -/
theorem run_agrees (config : RedisConfiguration) (processes : W → RedisProcess) {clock : ℚ}
    (h_clock : 0 ≤ clock) {events : List (AnsweredCall W)}
    (h_run : Run Steps (start config processes clock) events p) :
    (∀ worker currentTime, p.clock ≤ currentTime →
      Alone currentTime
        (fun read s' => ∀ id ∈ config.sortedBuckets,
          read.capacities id = p.memory.capacityAt currentTime id ∧
            RedisBackend.maxCapacities s'.client id = p.memory.maxCapacity id)
        (RedisBackend.getCapacitiesUnsafe (p.fleet.clients worker).bucketKeys currentTime)
        (p.fleet.session worker)) ∧
    ∀ call, p.Admissible call →
      (∃ result fleet', p.fleet.Calls call result fleet') ∧
      ∀ result fleet', p.fleet.Calls call result fleet' →
        result = .error (.valueError .retentionTooLong) ∨
          result = (p.memory.step call.currentTime call.request).outcome.map Outcome.seen := by
  have h_sim : p.Simulated := run_simulated h_clock h_run
  have h_buckets : p.memory.buckets = config.sortedBuckets := run_buckets h_run
  refine ⟨fun worker currentTime h_le => ?_, fun call h_call => ?_⟩
  · rw [← h_buckets]
    exact h_sim.reads worker h_le
  · exact ⟨p.fleet.exists_calls call, fun _ _ h_calls => h_sim.answers h_call h_calls⟩

/-- Beside the memory backend after the call. -/
def play (p : Twin W) (call : FleetCall W) : Twin W where
  fleet := (p.fleet.play call).2
  memory := p.memoryAfter ⟨call, (p.fleet.play call).1⟩
  clock := call.currentTime

theorem steps_play {call : FleetCall W} {result : Except BackendError Outcome}
    (h_call : p.Admissible call) (h_result : (p.fleet.play call).1 = result) :
    Steps p ⟨call, result⟩ (p.play call) := by
  subst h_result
  exact ⟨h_call, _, p.fleet.calls_play call, rfl⟩

/-- Two processes that limit tokens: one takes 60 of 100, the other then finds 50 where it
    asks for 60. -/
def exampleProcess : RedisProcess := ⟨3600, 3600, fun _ => false⟩

def exampleTwin : Twin Bool := start exampleEngine.deployment (fun _ => exampleProcess) 0

def firstCall : FleetCall Bool :=
  ⟨true, .awaitForCapacity (tokens 60) (some "a") (some 3600), 0, false⟩

def secondCall : FleetCall Bool :=
  ⟨false, .awaitForCapacity (tokens 60) (some "b") (some 3600), 6, false⟩

theorem serves_example {client : RedisClient} {rid : ReservationId} {alone : Prop}
    (h_metrics : client.metricNames = {"tokens"})
    (h_new : m.isReplayed (some rid) (tokens 60) = .ok false) :
    RedisBackend.Serves client m false alone t
      (.awaitForCapacity (tokens 60) (some rid) (some 3600)) :=
  ⟨h_metrics ▸ covers_tokens (by norm_num), fun _ => by decide,
    fun h_known => absurd h_new h_known⟩

theorem firstCall_steps :
    Steps exampleTwin ⟨firstCall, .ok .consumed⟩ (exampleTwin.play firstCall) :=
  steps_play ⟨le_refl _, serves_example (by decide +kernel) (by decide +kernel)⟩
    (by decide +kernel)

theorem firstCall_run :
    Run Steps exampleTwin [⟨firstCall, .ok .consumed⟩] (exampleTwin.play firstCall) :=
  .cons firstCall_steps (.nil _)

theorem run_agrees_secondCall :
    ∃ p, Run Steps exampleTwin [⟨firstCall, .ok .consumed⟩] p ∧
      (∃ result fleet', p.fleet.Calls secondCall result fleet') ∧
      ∀ result fleet', p.fleet.Calls secondCall result fleet' →
        result = .error (.valueError .retentionTooLong) ∨ result = .ok .unavailable := by
  refine ⟨_, firstCall_run, RedisFleet.exists_calls _ _, fun result fleet' h_calls => ?_⟩
  have h_second : (exampleTwin.play firstCall).Admissible secondCall :=
    ⟨by decide, serves_example (by decide +kernel) (by decide +kernel)⟩
  have h_outcome : ((exampleTwin.play firstCall).memory.step secondCall.currentTime
      secondCall.request).outcome.map Outcome.seen = .ok .unavailable := by decide +kernel
  rw [← h_outcome]
  exact ((run_agrees exampleEngine.deployment _ (le_refl 0) firstCall_run).2 secondCall
    h_second).2 result fleet' h_calls

/-! ### Acquiring under a known id -/

/-- A call of `await_for_capacity`, next to an attempt that takes the gates first. -/
theorem handle_await_gated {s : Session} {usage : FrozenUsage}
    {reservationId : Option ReservationId} {lifetime : Option ℚ} (recovering : Bool)
    (h_idle : s.Idle) (h_stands : s.StandsFor m) (h_time : 0 ≤ t)
    (h_covers : Covers usage s.client.metricNames)
    (h_lifetime : reservationId.isSome = true → lifetime.any (0 < ·) = true) :
    AloneEnds t (fun result s' =>
        RedisBackend.CallAgrees s m (RedisBackend.gatedAttempt m usage reservationId t)
          (fun outcome memory => outcome = memory.seen) result s' ∧
        result ≠ .error (.valueError .retentionTooLong))
      (RedisBackend.handle recovering (.awaitForCapacity usage reservationId lifetime)) s := by
  rw [h_stands.metricNames_eq] at h_covers
  refine Follows.bind (RedisBackend.awaitForCapacity_gated recovering h_idle h_stands h_time
    h_covers h_lifetime) (fun a s' h_agrees => ?_) fun e s' h_agrees => ?_
  · exact ⟨h_agrees.1, nofun⟩
  · refine ⟨h_agrees.1, fun h_refused => h_agrees.2 ?_⟩
    injection h_refused with h_refused
    rw [h_refused]

/-- A known id is replayed by its own value, and by no other. -/
theorem isReplayed_known {usage : FrozenUsage} {rid : ReservationId}
    (h_known : (m.acquiredReservationValues rid).isSome = true ∨
      rid ∈ m.refundedReservationIdOrder) :
    m.isReplayed (some rid) usage =
      if m.acquiredReservationValues rid = some (m.bucketIds, usage) then .ok true
      else .error (.duplicateRefund .duplicateAcquire) := by
  unfold MemoryBackend.isReplayed MemoryBackend.isReplayedAcquire
  cases h_live : m.acquiredReservationValues rid with
  | some live =>
    by_cases h_same : live = (m.bucketIds, usage)
    · simp [h_live, h_same]
    · simp [h_live, h_same]
  | none =>
    rw [h_live] at h_known
    have h_refunded : rid ∈ m.refundedReservationIdOrder := h_known.resolve_left nofun
    simp [h_live, h_refunded]

theorem gatedAttempt_known {usage : FrozenUsage} {rid : ReservationId}
    (h_known : (m.acquiredReservationValues rid).isSome = true ∨
      rid ∈ m.refundedReservationIdOrder) :
    RedisBackend.gatedAttempt m usage (some rid) t =
      if usageExceeds usage m.maxCapacity m.buckets then
        .error (.valueError .usageExceedsMaxCapacity)
      else if usageExceeds usage (m.capacityAt t) m.buckets then .ok (.unavailable, m)
      else if m.acquiredReservationValues rid = some (m.bucketIds, usage) then .ok (.replayed, m)
      else .error (.duplicateRefund .duplicateAcquire) := by
  unfold RedisBackend.gatedAttempt RedisBackend.consumption
  rw [isReplayed_known h_known]
  by_cases h_same : m.acquiredReservationValues rid = some (m.bucketIds, usage)
  · rw [if_pos h_same, if_pos h_same]
    rfl
  · rw [if_neg h_same, if_neg h_same]
    rfl

/-- What an acquire under the id of a known reservation ends with. -/
def replayVerdict (p : Twin W) (worker : W) (usage : FrozenUsage) (rid : ReservationId) (t : ℚ) :
    Except BackendError Outcome :=
  let client := p.fleet.clients worker
  if usageExceeds usage p.memory.maxCapacity p.memory.buckets then
    .error (.valueError .usageExceedsMaxCapacity)
  else if usageExceeds usage (p.memory.capacityAt t) p.memory.buckets then .ok .unavailable
  else if p.fleet.server.acquired (client.reservationKey rid) =
      some ⟨rid, client.modelFamily, client.bucketIds, usage⟩ then .ok .consumed
  else .error (.duplicateRefund .duplicateAcquire)

/-- An acquire under an id with a live marker or tombstone takes nothing: it repeats the answer
    if the marker is its own, and only if the gates for a new acquire let it through. -/
theorem acquire_known (config : RedisConfiguration) (processes : W → RedisProcess) {clock : ℚ}
    (h_clock : 0 ≤ clock) {events : List (AnsweredCall W)}
    (h_run : Run Steps (start config processes clock) events p) {worker : W} {usage : FrozenUsage}
    {rid : ReservationId} {lifetime : Option ℚ} {recovering : Bool} (h_le : p.clock ≤ t)
    (h_covers : Covers usage (p.fleet.clients worker).metricNames)
    (h_lifetime : lifetime.any (0 < ·) = true)
    (h_known :
      (p.fleet.server.acquired ((p.fleet.clients worker).reservationKey rid)).isSome = true ∨
        (p.fleet.server.refundDedup ((p.fleet.clients worker).reservationKey rid)).isSome = true)
    {result : Except BackendError Outcome} {fleet' : RedisFleet W}
    (h_calls : p.fleet.Calls
      ⟨worker, .awaitForCapacity usage (some rid) lifetime, t, recovering⟩ result fleet') :
    result = p.replayVerdict worker usage rid t ∧
      ∀ worker', (fleet'.session worker').StandsFor p.memory := by
  have h_sim : p.Simulated := run_simulated h_clock h_run
  have h_stands := h_sim.stands worker
  have h_reservations := h_stands.reservations
  have h_marker := h_reservations.marker rid
  have h_known : (p.memory.acquiredReservationValues rid).isSome = true ∨
      rid ∈ p.memory.refundedReservationIdOrder := by
    refine h_known.imp (fun h_live => ?_) (h_reservations.tombstone rid).mp
    have h_live : ((p.fleet.session worker).server.acquired
      ((p.fleet.session worker).client.reservationKey rid)).isSome = true := h_live
    rw [h_marker, Option.isSome_map] at h_live
    exact h_live
  -- the record under the id is the memory backend's
  have h_own : (p.fleet.server.acquired ((p.fleet.clients worker).reservationKey rid) =
        some ⟨rid, (p.fleet.clients worker).modelFamily, (p.fleet.clients worker).bucketIds,
          usage⟩) ↔
      p.memory.acquiredReservationValues rid = some (p.memory.bucketIds, usage) := by
    have h_ids : (p.fleet.clients worker).bucketIds = p.memory.bucketIds := by
      unfold RedisClient.bucketIds MemoryBackend.bucketIds
      exact congrArg List.toFinset h_stands.buckets_eq
    rw [show p.fleet.server.acquired ((p.fleet.clients worker).reservationKey rid) = _ from h_marker,
      h_ids]
    cases p.memory.acquiredReservationValues rid with
    | none => exact ⟨nofun, nofun⟩
    | some live =>
      obtain ⟨ids, used⟩ := live
      simp [RedisFleet.session]
  obtain ⟨turns, s', h_turns, h_run', rfl⟩ := h_calls
  obtain ⟨⟨h_idle, ⟨caches, h_client⟩, h_agrees⟩, h_retained⟩ := run_of_follows
    (handle_await_gated recovering (h_sim.idle worker) h_stands (h_sim.nonneg.trans h_le)
      h_covers fun _ => h_lifetime) h_turns h_run'
  rw [gatedAttempt_known h_known] at h_agrees
  have h_ends : result = p.replayVerdict worker usage rid t ∧ s'.StandsFor p.memory := by
    unfold replayVerdict
    dsimp only
    rw [if_congr h_own rfl rfl]
    by_cases h_over : usageExceeds usage p.memory.maxCapacity p.memory.buckets = true
    · rw [if_pos h_over] at h_agrees ⊢
      exact h_agrees.of_error h_retained
    · rw [if_neg h_over] at h_agrees ⊢
      by_cases h_short : usageExceeds usage (p.memory.capacityAt t) p.memory.buckets = true
      · rw [if_pos h_short] at h_agrees ⊢
        obtain ⟨_, rfl, rfl, h_same⟩ := h_agrees.of_ok h_retained
        exact ⟨rfl, h_same⟩
      · rw [if_neg h_short] at h_agrees ⊢
        split
        · rename_i h_live
          rw [if_pos h_live] at h_agrees
          obtain ⟨_, rfl, rfl, h_same⟩ := h_agrees.of_ok h_retained
          exact ⟨rfl, h_same⟩
        · rename_i h_live
          rw [if_neg h_live] at h_agrees
          exact h_agrees.of_error h_retained
  refine ⟨h_ends.1, (h_sim.after ⟨caches, _, h_client, .inl rfl⟩ (fun h : False => h.elim) h_idle
    h_ends.2 (fun _ h_present => h_present) (h_sim.nonneg.trans h_le)).stands⟩

/-- The first process's marker is there, and the second one repeats its call: as only 50 are
    left of the 60 it has, it is told to wait. -/
theorem acquire_known_refilling :
    ∃ p, Run Steps exampleTwin [⟨firstCall, .ok .consumed⟩] p ∧
      ∀ result fleet', p.fleet.Calls
          ⟨false, .awaitForCapacity (tokens 60) (some "a") (some 3600), 6, false⟩ result fleet' →
        result = .ok .unavailable ∧ ∀ worker, (fleet'.session worker).StandsFor p.memory := by
  refine ⟨_, firstCall_run, fun result fleet' h_calls => ?_⟩
  have h_metrics : ((exampleTwin.play firstCall).fleet.clients false).metricNames = {"tokens"} := by
    decide +kernel
  obtain ⟨h_result, h_same⟩ := acquire_known exampleEngine.deployment _ (le_refl 0) firstCall_run
    (by decide) (h_metrics ▸ covers_tokens (by norm_num)) (by decide) (.inl (by decide +kernel))
    h_calls
  refine ⟨h_result.trans ?_, h_same⟩
  unfold replayVerdict
  rw [if_neg (by decide +kernel), if_pos (by decide +kernel)]

end Twin

end TokenThrottle
