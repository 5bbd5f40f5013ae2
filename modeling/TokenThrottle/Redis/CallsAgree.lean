/-
  TokenThrottle.Redis.CallsAgree

  A call of the Redis backend next to the memory backend's operation, while nothing else happens
  on the server: from a session that stands for a memory backend, with its locks free, it ends
  as the operation does, in a session that stands for the backend after it.

  * Each operation runs its locked body between two such sessions (`Session.Agrees`);
    `withLocks_agrees` takes the locks and frees them.
  * The script looks for a live marker after the capacity was computed, so that a replay is
    told apart from a new acquire only if there is capacity for either: `PassesGates`.
-/
import TokenThrottle.Redis.Simulation

namespace TokenThrottle

open Theory (Program)
open Theory.Program
open RedisBackend (idsOf maxCapacities)

variable {s s' : Session} {m : MemoryBackend} {t : ℚ}

/-- What the callers of a backend see: a replay reports the consumption it repeats. -/
def Outcome.seen : Outcome → Outcome
  | .replayed => .consumed
  | outcome => outcome

/-! ## A call alone with its locks -/

theorem execute_nextToken (turn : Turn) (s : Session) (command : Command) :
    s.server.nextToken ≤ (s.execute turn command).2.server.nextToken := by
  cases command with
  | uuid => exact Nat.le_succ _
  | acquireLock key token | releaseLock key token =>
    dsimp only [Session.execute]
    split
    · exact le_refl _
    · exact le_refl _
  | setStates writes currentTime deleteMarker =>
    obtain ⟨state, h_state⟩ := @RedisBackend.setStates_state currentTime s.server writes
    cases deleteMarker with
    | none =>
      show _ ≤ (s.server.setStates writes currentTime).nextToken
      rw [h_state]
    | some key =>
      show _ ≤ (s.server.setStates writes currentTime).nextToken
      rw [h_state]
  | repairStates keys currentTime =>
    obtain ⟨state, h_state⟩ := @RedisBackend.setStates_state currentTime s.server
      (keys.map fun key => (key, 0))
    show _ ≤ (s.server.setStates _ currentTime).nextToken
    rw [h_state]
  | acquireMarkerSetScript key marker writes currentTime =>
    obtain ⟨state, h_state⟩ := @RedisBackend.setStates_state currentTime s.server writes
    show _ ≤ (s.server.acquireMarkerSetScript key marker writes currentTime).2.nextToken
    unfold RedisServer.acquireMarkerSetScript
    split
    · exact le_refl _
    · split
      · exact le_refl _
      · rw [h_state]
        exact le_refl _
  | refundWithMarkerScript key marker token writes currentTime =>
    obtain ⟨state, h_state⟩ := @RedisBackend.setStates_state currentTime s.server writes
    show _ ≤ (s.server.refundWithMarkerScript key marker token writes currentTime).2.nextToken
    unfold RedisServer.refundWithMarkerScript
    split
    · split
      · exact le_refl _
      · exact le_refl _
    · split
      · exact le_refl _
      · split
        · exact le_refl _
        · rw [h_state]
          exact le_refl _
  | refreshOverride key record expiresAt =>
    show _ ≤ (s.server.refreshOverride key record expiresAt).2.nextToken
    unfold RedisServer.refreshOverride
    split
    · exact le_refl _
    · exact le_refl _
  | _ => exact le_refl _

/-- Tokens are only ever drawn. -/
theorem nextToken_mono {α : Type} (p : RedisProgram α) (s : Session) :
    AloneEnds t (fun _ s' => s.server.nextToken ≤ s'.server.nextToken) p s := by
  induction p generalizing s with
  | done result => exact le_refl _
  | call command next ih =>
    refine ⟨trivial, ?_⟩
    rintro answer s' ⟨turn, h_alone, h_serve⟩
    rw [serve_alone h_alone] at h_serve
    cases h_serve
    apply Follows.mono (ih _ _)
    intro _ s'' h_mono
    exact (execute_nextToken turn s command).trans h_mono

/-- No lock of the client's buckets is held. -/
def Session.Idle (s : Session) : Prop := ∀ key ∈ s.client.bucketKeys, s.server.locks key = none

/-- Two sessions that differ in their locks and in the tokens drawn meanwhile. -/
structure Session.Relocks (s s' : Session) : Prop where
  unlocked : s'.unlocked = s.unlocked
  drawn : s.server.nextToken ≤ s'.server.nextToken

namespace Session.Relocks

theorem client (h_relocks : s.Relocks s') : s'.client = s.client :=
  congrArg (fun s => s.client) h_relocks.unlocked

theorem standsFor (h_relocks : s.Relocks s') (h_stands : s.StandsFor m) : s'.StandsFor m :=
  h_stands.relock h_relocks.unlocked h_relocks.drawn

theorem agrees {α β : Type} {memory : Except BackendError (β × MemoryBackend)}
    {shows : α → β → Prop} {result : Except BackendError α} (h_relocks : s.Relocks s')
    (h_agrees : s.Agrees m memory shows result) : s'.Agrees m memory shows result := by
  match result with
  | .ok a =>
    obtain ⟨b, m', h_memory, h_shows, h_stands⟩ := h_agrees
    exact ⟨b, m', h_memory, h_shows, h_relocks.standsFor h_stands⟩
  | .error e => exact ⟨h_agrees.1, h_relocks.standsFor h_agrees.2⟩

end Session.Relocks

namespace RedisBackend

variable {stack : LockStack}

theorem lock_idle (h_idle : s.Idle) :
    Alone t (fun stack s' => s.Relocks s' ∧ s'.Holds stack ∧
        stack.map Prod.fst = s.client.bucketKeys)
      (lock s.client.bucketKeys) s := by
  have h_lock := lock_alone (t := t) (s := s) (bucketKeys_nodup s.client).1
  apply Follows.mono (Follows.and h_lock (nextToken_mono (lock s.client.bucketKeys) s))
  rintro result s' ⟨⟨h_same, h_result⟩, h_drawn⟩
  match result with
  | .ok stack => exact ⟨stack, rfl, ⟨h_same, h_drawn⟩, h_result⟩
  | .error _ =>
    obtain ⟨key, h_mem, h_taken⟩ := h_result
    exact absurd (h_idle key h_mem) h_taken

theorem lockOrContention_idle (h_idle : s.Idle) :
    Alone t (fun stack s' => s.Relocks s' ∧ s'.Holds stack ∧
        stack.map Prod.fst = s.client.bucketKeys)
      (lockOrContention s.client.bucketKeys) s :=
  Returns.settle (lock_idle h_idle) fun stack _ h_locked => ⟨stack, rfl, h_locked⟩

theorem releaseLocks_idle (h_holds : s.Holds stack)
    (h_keys : stack.map Prod.fst = s.client.bucketKeys) :
    Alone t (fun _ s' => s.Relocks s' ∧ s'.Idle) (releaseLocks stack) s := by
  have h_nodup : (stack.map Prod.fst).Nodup := by
    rw [h_keys]
    exact (bucketKeys_nodup s.client).1
  have h_freed := (releaseLocks_alone (t := t) h_holds h_nodup).keeps
    (releaseLocks_locking stack) fun turn command s h_alone h_locking =>
      @serve_unlocked t turn command s h_alone h_locking
  apply Follows.mono (Follows.and h_freed (nextToken_mono (releaseLocks stack) s))
  rintro result s' ⟨⟨_, rfl, h_locks, h_same⟩, h_drawn⟩
  have h_relocks : s.Relocks s' := ⟨h_same, h_drawn⟩
  refine ⟨(), rfl, h_relocks, fun key h_mem => ?_⟩
  rw [h_relocks.client] at h_mem
  rw [h_locks key, h_keys, if_pos h_mem]

/-- A body under the locks of all buckets: they are free again when it has ended. -/
theorem withLocks_idle {α : Type} {body : LockStack → RedisProgram α}
    {post : Except BackendError α → Session → Prop} (h_idle : s.Idle)
    (h_body : ∀ stack s₁, s.Relocks s₁ → s₁.Holds stack →
      AloneEnds t (fun result s' => s'.server.locks = s₁.server.locks ∧
        s'.client.bucketKeys = s.client.bucketKeys ∧ post result s') (body stack) s₁)
    (h_relocks : ∀ result s₁ s₂, Session.Relocks s₁ s₂ → post result s₁ → post result s₂) :
    AloneEnds t (fun result s' => s'.Idle ∧ post result s')
      (withLocks (lockOrContention s.client.bucketKeys) body) s := by
  refine (lockOrContention_idle h_idle).then fun stack s₁ ⟨h_relocks₁, h_holds, h_keys⟩ => ?_
  apply Follows.ensuring (h_body stack s₁ h_relocks₁ h_holds)
  rintro result s₂ ⟨h_locks, h_client, h_post⟩
  have h_holds₂ : s₂.Holds stack := by
    intro lock h_mem
    rw [h_locks]
    exact h_holds lock h_mem
  apply Follows.mono (releaseLocks_idle h_holds₂ (h_keys.trans h_client.symm))
  rintro _ s₃ ⟨_, rfl, h_relocks₂, h_free⟩
  exact ⟨h_free, h_relocks result s₂ s₃ h_relocks₂ h_post⟩

/-- How a call ends next to the memory backend's operation: with its locks free, and with the
    attributes it had. -/
def CallAgrees {α β : Type} (s : Session) (m : MemoryBackend)
    (memory : Except BackendError (β × MemoryBackend)) (shows : α → β → Prop)
    (result : Except BackendError α) (s' : Session) : Prop :=
  s'.Idle ∧ (∃ caches, s'.client = { s.client with caches := caches }) ∧
    s'.Agrees m memory shows result

/-- A locked body that agrees with the memory backend makes a call that does. -/
theorem withLocks_agrees {α β : Type} {body : LockStack → RedisProgram α}
    {memory : Except BackendError (β × MemoryBackend)} {shows : α → β → Prop} (h_idle : s.Idle)
    (h_stands : s.StandsFor m)
    (h_body : ∀ stack s₁, s₁.StandsFor m → s₁.client = s.client → s₁.Holds stack →
      AloneEnds t (fun result s' => s₁.Frames s' ∧ s'.Agrees m memory shows result)
        (body stack) s₁) :
    AloneEnds t (CallAgrees s m memory shows)
      (withLocks (lockOrContention s.client.bucketKeys) body) s := by
  have h_call : AloneEnds t (fun result s' => s'.Idle ∧
      ((∃ caches, s'.client = { s.client with caches := caches }) ∧
        s'.Agrees m memory shows result))
      (withLocks (lockOrContention s.client.bucketKeys) body) s := by
    refine withLocks_idle h_idle (fun stack s₁ h_relocks h_holds => ?_) ?_
    · apply Follows.mono (h_body stack s₁ (h_relocks.standsFor h_stands) h_relocks.client h_holds)
      rintro result s' ⟨h_frames, h_agrees⟩
      have h_keys := h_frames.bucketKeys
      obtain ⟨h_locks, caches, h_client⟩ := h_frames
      rw [h_relocks.client] at h_keys h_client
      exact ⟨h_locks, h_keys, ⟨caches, h_client⟩, h_agrees⟩
    · rintro result s₁ s₂ h_relocks ⟨h_client, h_agrees⟩
      rw [h_relocks.client]
      exact ⟨h_client, h_relocks.agrees h_agrees⟩
  exact h_call

/-! ## One attempt -/

section Attempt

variable {usage : FrozenUsage} {reservationId : Option ReservationId} {lifetime : Option ℚ}

/-- The script looks for a marker after the gates: a call that is no new acquire is told apart
    from one only if these let it through. -/
def PassesGates (m : MemoryBackend) (usage : FrozenUsage) (reservationId : Option ReservationId)
    (t : ℚ) : Prop :=
  m.isReplayed reservationId usage ≠ .ok false →
    usageExceeds usage m.maxCapacity m.buckets = false ∧
      usageExceeds usage (m.capacityAt t) m.buckets = false

/-- What an attempt shows of the memory backend's outcome. -/
def ShowsAttempt (available consumed : Bool) : Outcome → Prop
  | .consumed => available = true ∧ consumed = true
  | .replayed => available = true ∧ consumed = false
  | .unavailable => available = false
  | .done => False

/-- An attempt of the memory backend that takes the gates before the reservation. -/
def gatedAttempt (m : MemoryBackend) (usage : FrozenUsage) (reservationId : Option ReservationId)
    (t : ℚ) : Except BackendError (Outcome × MemoryBackend) :=
  if usageExceeds usage m.maxCapacity m.buckets then
    .error (.valueError .usageExceedsMaxCapacity)
  else if usageExceeds usage (m.capacityAt t) m.buckets then .ok (.unavailable, m)
  else (consumption m (fun id => m.capacityAt t id - usage.amount id.metric) usage
    reservationId t true).map fun written =>
      (if written.1 then .consumed else .replayed, written.2)

theorem attempt_gated (h_time : 0 ≤ t) (h_covers : Covers usage (metricNames m.buckets.toFinset))
    (h_gates : PassesGates m usage reservationId t) :
    m.attempt usage reservationId t = gatedAttempt m usage reservationId t := by
  unfold gatedAttempt consumption
  cases h_replayed : m.isReplayed reservationId usage with
  | error e =>
    obtain ⟨h_limit, h_capacity⟩ := h_gates (by rw [h_replayed]; nofun)
    rw [h_limit, h_capacity]
    unfold MemoryBackend.attempt
    rw [h_replayed]
    rfl
  | ok replayed =>
    cases replayed with
    | true =>
      obtain ⟨h_limit, h_capacity⟩ := h_gates (by rw [h_replayed]; nofun)
      rw [h_limit, h_capacity]
      unfold MemoryBackend.attempt
      rw [h_replayed]
      rfl
    | false =>
      rw [attempt_fresh h_time h_covers h_replayed]
      rfl

/-- The capacities that a covered usage leaves where there was enough. -/
theorem consumption_available {capacities : Capacities}
    (h_covers : Covers usage (metricNames m.buckets.toFinset))
    (h_found : ∀ id ∈ m.buckets, capacities id = m.capacityAt t id)
    (h_enough : usageExceeds usage (m.capacityAt t) m.buckets = false) :
    consumption m (fun id => m.capacityAt t id - usage.amount id.metric) usage reservationId t
        true = consumption m (subtractUsage capacities usage) usage reservationId t false := by
  rw [usageExceeds_eq_false_iff h_covers] at h_enough
  unfold consumption
  rw [@setCapacities_congr m m.bucketIds _ (subtractUsage capacities usage) t false]
  intro id h_mem
  have h_bucket := MemoryBackend.mem_bucketIds.mp h_mem
  rw [subtractUsage_of_lookup (h_covers.lookup_bucket h_mem), h_found id h_bucket]
  exact setCapacity_allowNegative _ (sub_nonneg.mpr (h_enough id h_bucket)) _

/-- The buckets of a call, as the arithmetic over them takes them. -/
theorem ids_eq (h_stands : s.StandsFor m) :
    s.client.bucketKeys.map BucketKey.id = m.buckets := by
  rw [RedisClient.bucketKeys_ids, h_stands.buckets_eq]

/-- What a consumption leaves is no debt, so that it can be retained. -/
theorem writeConsumption_retained {keys : List BucketKey} (capacities : Capacities)
    (marker : Option (ReservationKey × AcquiredMarker)) :
    AloneEnds t (fun result _ => result ≠ .error (.valueError .retentionTooLong))
      (writeConsumption capacities keys t false marker) s := by
  cases marker with
  | none =>
    refine (queueWrites_alone capacities keys).then fun writes s₁ _ => ?_
    have h_landed : Alone t (fun _ _ => True)
        (send (.setStates writes t none) >>= fun _ =>
          send (.updateCaches (.confirmWrittenState keys t)) >>= fun _ => pure true) s₁ :=
      send_alone_bind fun _ _ => send_alone_bind fun _ _ => Returns.pure trivial
    apply Follows.mono h_landed
    rintro _ s' ⟨landed, rfl, _⟩
    exact nofun
  | some reservation =>
    refine client_alone.then fun client s₁ ⟨_, h_s₁⟩ => ?_
    rw [h_s₁]
    obtain ⟨writes, h_writes⟩ := stateWrites_consumed client capacities keys
    rw [h_writes]
    refine Follows.lift_bind (fun writes' _ => ?_) nofun
    refine (retainHistories_alone _).then fun _ s₂ h_s₂ => ?_
    rw [h_s₂]
    have h_sent : Alone t (fun _ _ => True) (send (.acquireMarkerSetScript reservation.1
        reservation.2 writes' t)) s := send_alone fun _ _ => trivial
    refine h_sent.attempt.then fun status s₃ h_status => ?_
    obtain ⟨status, rfl, _⟩ := h_status
    cases status with
    | ok =>
      have h_landed : Alone t (fun _ _ => True)
          (send (.updateCaches (.confirmWrittenState keys t)) >>= fun _ => pure true) s₃ :=
        send_alone_bind fun _ _ => Returns.pure trivial
      apply Follows.mono h_landed
      rintro _ s' ⟨landed, rfl, _⟩
      exact nofun
    | replayedAcquire => exact nofun
    | duplicateAcquire =>
      refine (acquireMarkerMatches_alone _ _).then fun matched s₄ _ => ?_
      cases matched with
      | true => exact nofun
      | false => exact nofun

/-- The locked part of an attempt. -/
theorem attemptUnderLocks_agrees (h_stands : s.StandsFor m) (h_time : 0 ≤ t)
    (h_holds : s.Holds stack) (h_covers : Covers usage (metricNames m.buckets.toFinset))
    (h_lifetime : reservationId.isSome = true → lifetime.any (0 < ·) = true) :
    AloneEnds t (fun result s' => s.Frames s' ∧ s'.Agrees m (gatedAttempt m usage reservationId t)
          (fun attempt outcome => attempt.raised = none ∧
            ShowsAttempt attempt.available attempt.consumed outcome) result ∧
        result ≠ .error (.valueError .retentionTooLong))
      (attemptUnderLocks usage reservationId lifetime s.client.bucketKeys stack) s := by
  have h_ids := ids_eq h_stands
  have h_usage : ∀ metric ∈ usage.keys, 0 ≤ usage.amount metric := by
    rw [h_covers.keys_eq]
    exact h_covers.nonneg
  obtain ⟨memory, h_memory⟩ : ∃ memory, memory = gatedAttempt m usage reservationId t := ⟨_, rfl⟩
  rw [← h_memory]
  unfold gatedAttempt at h_memory
  refine time_alone.then fun now s₁ ⟨h_now, h_s₁⟩ => ?_
  rw [h_now, h_s₁]
  refine (getCapacitiesUnsafe_stands h_stands h_time).then
    fun read s₂ ⟨h_stands₂, h_frames₂, h_found⟩ => ?_
  refine client_alone.then fun client s₃ ⟨h_client, h_s₃⟩ => ?_
  rw [h_client, h_s₃]
  -- the gates see what those of the memory backend see
  have h_limit : usageExceeds usage (maxCapacities s₂.client)
      (s.client.bucketKeys.map BucketKey.id) = usageExceeds usage m.maxCapacity m.buckets := by
    rw [h_ids]
    exact usageExceeds_congr fun id h_mem => (h_found id h_mem).2
  have h_capacity : usageExceeds usage read.capacities
      (s.client.bucketKeys.map BucketKey.id) =
        usageExceeds usage (m.capacityAt t) m.buckets := by
    rw [h_ids]
    exact usageExceeds_congr fun id h_mem => (h_found id h_mem).1
  have h_keys : ¬ ¬ usage.keys ⊆ metricNames (s.client.bucketKeys.map BucketKey.id).toFinset := by
    rw [h_ids, h_covers.keys_eq, not_not]
  dsimp only
  rw [if_neg h_keys, h_limit, h_capacity]
  by_cases h_over : usageExceeds usage m.maxCapacity m.buckets = true
  · rw [if_pos h_over] at h_memory ⊢
    exact ⟨h_frames₂, ⟨.inr h_memory, h_stands₂⟩, nofun⟩
  · rw [if_neg h_over] at h_memory ⊢
    by_cases h_short : usageExceeds usage (m.capacityAt t) m.buckets = true
    · rw [if_pos h_short] at h_memory ⊢
      refine (freshStartBucketsCallback_alone _).then fun _ s₄ h_s₄ => ?_
      rw [h_s₄]
      exact ⟨h_frames₂, ⟨_, m, h_memory, ⟨rfl, rfl⟩, h_stands₂⟩, nofun⟩
    · rw [if_neg h_short] at h_memory ⊢
      have h_enough := Bool.not_eq_true _ ▸ h_short
      rw [consumption_available h_covers (fun id h_mem => (h_found id h_mem).1) h_enough] at h_memory
      refine (extendLocks_alone (h_frames₂.holds h_holds)).then fun _ s₄ h_s₄ => ?_
      rw [h_s₄, ← h_frames₂.bucketKeys, acquiredMarker_eq h_usage h_lifetime]
      refine Follows.lift_bind (fun marker h_marker => ?_) nofun
      injection h_marker with h_marker
      rw [← h_marker]
      apply Follows.attempt_bind (Follows.and (writeConsumption_stands h_stands₂
        (subtractUsage read.capacities usage) false reservationId usage)
        (writeConsumption_retained _ _))
      rintro written s₅ ⟨⟨h_frames₅, h_agrees⟩, h_retained⟩
      have h_suspend : Alone t (fun _ s' => s' = s₅) (send .suspend) s₅ := send_alone fun _ _ => rfl
      refine h_suspend.attempt.then fun awaited s₆ h_awaited => ?_
      obtain ⟨_, rfl, h_s₆⟩ := h_awaited
      rw [h_s₆]
      match written with
      | .ok consumed =>
        obtain ⟨_, m', h_consumption, rfl, h_stands'⟩ := h_agrees
        rw [h_consumption] at h_memory
        refine ⟨h_frames₂.trans h_frames₅, ⟨_, m', h_memory, ⟨rfl, ?_⟩, h_stands'⟩, nofun⟩
        cases consumed with
        | true => exact ⟨rfl, rfl⟩
        | false => exact ⟨rfl, rfl⟩
      | .error e =>
        obtain ⟨h_error, h_stands'⟩ := h_agrees
        have h_kept : (Except.error e : Except BackendError LockedAttempt) ≠
            .error (.valueError .retentionTooLong) := by
          intro h_refused
          injection h_refused with h_refused
          rw [h_refused] at h_retained
          exact h_retained rfl
        refine ⟨h_frames₂.trans h_frames₅, ⟨h_error.imp id fun h_error => ?_, h_stands'⟩, h_kept⟩
        rw [h_memory, h_error]
        rfl

/-- The memory backend refuses an attempt for one of two reasons. -/
theorem gatedAttempt_error {e : BackendError}
    (h_error : gatedAttempt m usage reservationId t = .error e) :
    e = .valueError .usageExceedsMaxCapacity ∨ e = .duplicateRefund .duplicateAcquire := by
  unfold gatedAttempt at h_error
  split at h_error
  · cases h_error
    exact .inl rfl
  · split at h_error
    · cases h_error
    · unfold consumption at h_error
      cases h_replayed : m.isReplayed reservationId usage with
      | ok replayed =>
        rw [h_replayed] at h_error
        cases h_error
      | error e' =>
        rw [h_replayed] at h_error
        cases h_error
        cases reservationId with
        | none => cases h_replayed
        | some rid => exact .inr (isReplayed_duplicate h_replayed).1

/-- `_check_and_consume_capacity` -/
theorem checkAndConsumeCapacity_agrees (recovering : Bool) (h_idle : s.Idle)
    (h_stands : s.StandsFor m) (h_time : 0 ≤ t)
    (h_covers : Covers usage (metricNames m.buckets.toFinset))
    (h_lifetime : reservationId.isSome = true → lifetime.any (0 < ·) = true) :
    AloneEnds t (fun result s' =>
        CallAgrees s m (gatedAttempt m usage reservationId t)
          (fun result outcome => ShowsAttempt result.available result.consumed outcome) result s' ∧
        result ≠ .error (.valueError .retentionTooLong))
      (checkAndConsumeCapacity usage reservationId lifetime recovering) s := by
  refine client_alone.then fun client s₁ ⟨h_client, h_s₁⟩ => ?_
  rw [h_client, h_s₁]
  refine (lock_idle h_idle).then fun stack s₂ ⟨h_relocks, h_holds, h_keys⟩ => ?_
  have h_stands₂ := h_relocks.standsFor h_stands
  -- taking the locks changes nothing that the attempt reads
  have h_attempt := attemptUnderLocks_agrees h_stands₂ h_time h_holds h_covers h_lifetime
  rw [h_relocks.client] at h_attempt
  apply Follows.attempt_bind h_attempt
  rintro attempted s₃ ⟨h_frames, h_agrees, h_retained⟩
  have h_keys₃ : stack.map Prod.fst = s₃.client.bucketKeys := by
    rw [h_frames.bucketKeys, h_relocks.client, h_keys]
  obtain ⟨caches, h_client₃⟩ := h_frames.client
  rw [h_relocks.client] at h_client₃
  refine (releaseLocks_idle (h_frames.holds h_holds) h_keys₃).attempt.then fun released s₄ h_s₄ => ?_
  obtain ⟨_, rfl, h_relocks', h_idle'⟩ := h_s₄
  have h_client₄ : s₄.client = { s.client with caches := caches } := by
    rw [h_relocks'.client, h_client₃]
  match attempted with
  | .error e =>
    refine ⟨⟨h_idle', ⟨caches, h_client₄⟩, h_relocks'.agrees h_agrees⟩, fun h_refused => ?_⟩
    injection h_refused with h_refused
    rw [h_refused] at h_retained
    exact h_retained rfl
  | .ok attempt =>
    obtain ⟨outcome, m', h_memory, ⟨h_raised, h_shows⟩, h_stands'⟩ := h_relocks'.agrees h_agrees
    show Follows _ _ (finishAttempt usage reservationId recovering s.client.bucketKeys attempt
      attempt.raised) s₄
    rw [h_raised]
    unfold finishAttempt
    dsimp only
    cases h_available : attempt.available with
    | false =>
      rw [if_pos Bool.false_ne_true]
      rw [h_available] at h_shows
      refine ⟨⟨h_idle', ⟨caches, h_client₄⟩, outcome, m', h_memory, ?_, h_stands'⟩, nofun⟩
      cases outcome with
      | unavailable => rfl
      | consumed => cases h_shows.1
      | replayed => cases h_shows.1
      | done => cases h_shows
    | true =>
      rw [if_neg (not_not.mpr rfl)]
      rw [h_available] at h_shows
      cases h_consumed : attempt.consumed with
      | false =>
        rw [if_pos Bool.false_ne_true]
        rw [h_consumed] at h_shows
        exact ⟨⟨h_idle', ⟨caches, h_client₄⟩, outcome, m', h_memory, h_shows, h_stands'⟩, nofun⟩
      | true =>
        rw [if_neg (not_not.mpr rfl)]
        rw [h_consumed] at h_shows
        -- what is left are callbacks: they neither change the session nor raise
        have h_called : Alone t (fun _ s' => s' = s₄)
            (consumptionCallbacks attempt.freshStartBuckets) s₄ := by
          refine (freshStartBucketsCallback_alone _).bind fun _ s₅ h_s₅ => ?_
          rw [h_s₅]
          exact invokeCallback_alone _
        refine Returns.settle h_called fun _ s₅ h_s₅ => ?_
        rw [h_s₅]
        exact ⟨⟨h_idle', ⟨caches, h_client₄⟩, outcome, m', h_memory, h_shows, h_stands'⟩, nofun⟩

theorem CallAgrees.mono {α α' β β' : Type} {memory : Except BackendError (β × MemoryBackend)}
    {memory' : Except BackendError (β' × MemoryBackend)} {shows : α → β → Prop}
    {shows' : α' → β' → Prop} {a : α} {a' : α'} (h_agrees : CallAgrees s m memory shows (.ok a) s')
    (h_memory : ∀ b m', memory = .ok (b, m') → shows a b →
      ∃ b', memory' = .ok (b', m') ∧ shows' a' b') :
    CallAgrees s m memory' shows' (.ok a') s' := by
  obtain ⟨h_idle, h_client, b, m', h_ok, h_shows, h_stands⟩ := h_agrees
  obtain ⟨b', h_ok', h_shows'⟩ := h_memory b m' h_ok h_shows
  exact ⟨h_idle, h_client, b', m', h_ok', h_shows', h_stands⟩

theorem CallAgrees.raise {α α' β β' : Type} {memory : Except BackendError (β × MemoryBackend)}
    {memory' : Except BackendError (β' × MemoryBackend)} {shows : α → β → Prop}
    {shows' : α' → β' → Prop} {e : BackendError}
    (h_agrees : CallAgrees s m memory shows (.error e : Except BackendError α) s')
    (h_memory : memory = .error e → memory' = .error e) :
    CallAgrees s m memory' shows' (.error e : Except BackendError α') s' :=
  ⟨h_agrees.1, h_agrees.2.1, h_agrees.2.2.1.imp id h_memory, h_agrees.2.2.2⟩

theorem waitStartCallback_alone :
    Alone t (fun _ s' => s' = s) (waitStartCallback none) s := by
  refine client_alone.bind fun client s₁ ⟨_, h_s₁⟩ => ?_
  rw [h_s₁]
  refine Returns.when (fun _ => ?_) fun _ => rfl
  refine send_alone_bind fun _ _ => send_alone_bind fun _ _ => send_alone_bind fun _ _ => ?_
  exact Returns.pure rfl

/-- A call of `await_for_capacity` that tries once. -/
theorem awaitForCapacity_gated (recovering : Bool) (h_idle : s.Idle)
    (h_stands : s.StandsFor m) (h_time : 0 ≤ t)
    (h_covers : Covers usage (metricNames m.buckets.toFinset))
    (h_lifetime : reservationId.isSome = true → lifetime.any (0 < ·) = true) :
    AloneEnds t (fun result s' =>
        CallAgrees s m (gatedAttempt m usage reservationId t)
          (fun result outcome => (if result.isSome then .consumed else .unavailable) = outcome.seen)
          result s' ∧
        result ≠ .error (.valueError .retentionTooLong))
      (awaitForCapacity usage none reservationId lifetime recovering 1) s := by
  have h_valid : validateBackendUsage usage s.client.metricNames = .ok () := by
    rw [h_stands.metricNames_eq]
    exact validateUsageMapping_eq_ok_iff.mpr h_covers
  refine client_alone.then fun client s₁ ⟨h_client, h_s₁⟩ => ?_
  rw [h_client, h_s₁, h_valid]
  have h_monotonic : Alone t (fun _ s' => s' = s) (send .monotonic) s := send_alone fun _ _ => rfl
  refine h_monotonic.then fun start s₂ h_s₂ => ?_
  rw [h_s₂]
  apply Follows.attempt_bind (checkAndConsumeCapacity_agrees recovering h_idle h_stands h_time
    h_covers h_lifetime)
  rintro checked s₃ ⟨h_agrees, h_retained⟩
  match checked with
  | .error e =>
    -- nobody else is there, so the loop sees no contention and does not try again
    have h_calm : isContention e = false := by
      obtain h_refused | h_error := h_agrees.2.2.1
      · rw [h_refused]
        rfl
      · obtain rfl | rfl := gatedAttempt_error h_error
        · rfl
        · rfl
    dsimp only
    rw [if_neg (by rw [h_calm]; exact Bool.false_ne_true)]
    refine ⟨h_agrees.raise id, fun h_refused => ?_⟩
    injection h_refused with h_refused
    rw [h_refused] at h_retained
    exact h_retained rfl
  | .ok result =>
    dsimp only
    cases h_available : result.available with
    | true =>
      rw [if_pos rfl]
      refine ⟨h_agrees.mono fun outcome m' h_ok h_shows => ⟨outcome, h_ok, ?_⟩, nofun⟩
      rw [h_available] at h_shows
      cases outcome with
      | consumed => rfl
      | replayed => rfl
      | unavailable => cases h_shows
      | done => cases h_shows
    | false =>
      rw [if_neg Bool.false_ne_true]
      -- the one round allowed is over: the loop gives up before it looks at the buckets again
      have h_waits : Alone t (fun (result : Option CheckResult) s' => result = none ∧ s' = s₃)
          (send .suspend >>= fun _ => Program.ensuring (do
            let now ← send .monotonic
            if (none : Option ℚ).any (· ≤ now) then throw .capacityTimeout
            else do
              Program.when (!false) (waitStartCallback none)
              send .suspend
              awaitLoop usage reservationId lifetime recovering none 0 true)
            (send .suspend)) s₃ := by
        refine send_alone_bind fun _ _ => ?_
        refine Returns.ensuring (m := fun result s' => result = none ∧ s' = s₃) ?_ ?_
        · refine send_alone_bind fun _ _ => ?_
          have h_callback : Alone t (fun _ s' => s' = s₃)
              (Program.when (!false) (waitStartCallback none)) s₃ :=
            Theory.Program.Returns.when (fun _ => waitStartCallback_alone) nofun
          refine h_callback.bind fun _ s₄ h_s₄ => ?_
          rw [h_s₄]
          exact send_alone_bind fun _ _ => Returns.pure ⟨rfl, rfl⟩
        · rintro result s₄ ⟨rfl, h_s₄⟩
          rw [h_s₄]
          exact send_alone fun _ _ => ⟨rfl, rfl⟩
      apply Follows.mono h_waits
      rintro _ s₄ ⟨_, rfl, rfl, h_s₄⟩
      rw [h_s₄]
      refine ⟨h_agrees.mono fun outcome m' h_ok h_shows => ⟨outcome, h_ok, ?_⟩, nofun⟩
      rw [h_available] at h_shows
      cases outcome with
      | unavailable => rfl
      | consumed => cases h_shows.1
      | replayed => cases h_shows.1
      | done => cases h_shows

/-- Where the gates let through what is no new acquire, the order makes no difference. -/
theorem awaitForCapacity_agrees (recovering : Bool) (h_idle : s.Idle)
    (h_stands : s.StandsFor m) (h_time : 0 ≤ t)
    (h_covers : Covers usage (metricNames m.buckets.toFinset))
    (h_lifetime : reservationId.isSome = true → lifetime.any (0 < ·) = true)
    (h_gates : PassesGates m usage reservationId t) :
    AloneEnds t (CallAgrees s m (m.awaitForCapacity usage reservationId t)
        fun result outcome => (if result.isSome then .consumed else .unavailable) = outcome.seen)
      (awaitForCapacity usage none reservationId lifetime recovering 1) s := by
  have h_memory : m.awaitForCapacity usage reservationId t =
      gatedAttempt m usage reservationId t := by
    unfold MemoryBackend.awaitForCapacity
    have h_valid : validateBackendUsage usage m.usageMetricNames = .ok () :=
      validateUsageMapping_eq_ok_iff.mpr h_covers
    rw [h_valid, ← attempt_gated h_time h_covers h_gates]
    rfl
  rw [h_memory]
  refine Follows.mono (awaitForCapacity_gated recovering h_idle h_stands h_time h_covers
    h_lifetime) fun _ _ h_agrees => h_agrees.1

/-! ## Consuming -/

/-- A consumption of the memory backend, over the refilled capacities. -/
theorem consumeCapacity_eq (h_time : 0 ≤ t)
    (h_covers : Covers usage (metricNames m.buckets.toFinset)) :
    m.consumeCapacity usage reservationId t =
      (consumption m (fun id => max (-(m.maxCapacity id))
        (m.capacityAt t id - usage.amount id.metric)) usage reservationId t true).map fun written =>
          (if written.1 then .consumed else .replayed, written.2) := by
  have h_valid : validateBackendUsage usage m.usageMetricNames = .ok () :=
    validateUsageMapping_eq_ok_iff.mpr h_covers
  unfold consumption
  cases h_replayed : m.isReplayed reservationId usage with
  | error e =>
    unfold MemoryBackend.consumeCapacity
    rw [h_valid, h_replayed]
    rfl
  | ok replayed =>
    cases replayed with
    | true =>
      unfold MemoryBackend.consumeCapacity
      rw [h_valid, h_replayed]
      rfl
    | false =>
      rw [consumeCapacity_fresh h_time h_covers h_replayed]
      rfl

theorem consumption_floored {capacities limits : Capacities}
    (h_covers : Covers usage (metricNames m.buckets.toFinset))
    (h_found : ∀ id ∈ m.buckets, capacities id = m.capacityAt t id ∧ limits id = m.maxCapacity id) :
    consumption m (fun id => max (-(m.maxCapacity id))
        (m.capacityAt t id - usage.amount id.metric)) usage reservationId t true =
      consumption m (subtractUsageFloored capacities usage limits) usage reservationId t true := by
  unfold consumption
  rw [@setCapacities_congr m m.bucketIds _ (subtractUsageFloored capacities usage limits) t true]
  intro id h_mem
  obtain ⟨h_capacity, h_limit⟩ := h_found id (MemoryBackend.mem_bucketIds.mp h_mem)
  rw [subtractUsageFloored_of_lookup (h_covers.lookup_bucket h_mem), h_capacity, h_limit, max_comm]

theorem consumeUnderLocks_agrees (h_stands : s.StandsFor m) (h_time : 0 ≤ t)
    (h_holds : s.Holds stack) (h_covers : Covers usage (metricNames m.buckets.toFinset))
    (h_lifetime : reservationId.isSome = true → lifetime.any (0 < ·) = true) :
    AloneEnds t (fun result s' => s.Frames s' ∧ s'.Agrees m (m.consumeCapacity usage reservationId t)
        (fun written outcome => written.isSome = true ∧ outcome.seen = .consumed) result)
      (consumeUnderLocks usage reservationId lifetime s.client.bucketKeys stack) s := by
  have h_usage : ∀ metric ∈ usage.keys, 0 ≤ usage.amount metric := by
    rw [h_covers.keys_eq]
    exact h_covers.nonneg
  have h_memory := @consumeCapacity_eq m t usage reservationId h_time h_covers
  refine time_alone.then fun now s₁ ⟨h_now, h_s₁⟩ => ?_
  rw [h_now, h_s₁]
  refine (getCapacitiesUnsafe_stands h_stands h_time).then
    fun read s₂ ⟨h_stands₂, h_frames₂, h_found⟩ => ?_
  refine client_alone.then fun client s₃ ⟨h_client, h_s₃⟩ => ?_
  rw [h_client, h_s₃]
  have h_keys : ¬ ¬ usage.keys ⊆ metricNames (idsOf s.client.bucketKeys) := by
    rw [h_stands.idsOf_bucketKeys, not_not, h_covers.keys_eq]
    exact Finset.Subset.refl _
  rw [if_neg h_keys]
  rw [consumption_floored h_covers h_found] at h_memory
  refine (extendLocks_alone (h_frames₂.holds h_holds)).then fun _ s₄ h_s₄ => ?_
  rw [h_s₄, ← h_frames₂.bucketKeys, acquiredMarker_eq h_usage h_lifetime]
  refine Follows.lift_bind (fun marker h_marker => ?_) nofun
  injection h_marker with h_marker
  rw [← h_marker]
  apply Follows.attempt_bind (writeConsumption_stands h_stands₂
    (subtractUsageFloored read.capacities usage (maxCapacities s₂.client)) true reservationId usage)
  rintro written s₅ ⟨h_frames₅, h_agrees⟩
  have h_suspend : Alone t (fun _ s' => s' = s₅) (send .suspend) s₅ := send_alone fun _ _ => rfl
  refine h_suspend.attempt.then fun awaited s₆ h_awaited => ?_
  obtain ⟨_, rfl, h_s₆⟩ := h_awaited
  rw [h_s₆]
  match written with
  | .ok consumed =>
    obtain ⟨_, m', h_consumption, rfl, h_stands'⟩ := h_agrees
    rw [h_consumption] at h_memory
    refine ⟨h_frames₂.trans h_frames₅, _, m', h_memory, ⟨rfl, ?_⟩, h_stands'⟩
    cases consumed with
    | true => rfl
    | false => rfl
  | .error e =>
    obtain ⟨h_error, h_stands'⟩ := h_agrees
    refine ⟨h_frames₂.trans h_frames₅, h_error.imp id fun h_error => ?_, h_stands'⟩
    rw [h_memory, h_error]
    rfl

/-- `consume_capacity` -/
theorem consumeCapacity_agrees (h_idle : s.Idle) (h_stands : s.StandsFor m) (h_time : 0 ≤ t)
    (h_covers : Covers usage (metricNames m.buckets.toFinset))
    (h_lifetime : reservationId.isSome = true → lifetime.any (0 < ·) = true) :
    AloneEnds t (CallAgrees s m (m.consumeCapacity usage reservationId t)
        fun _ outcome => outcome.seen = .consumed)
      (consumeCapacity usage reservationId lifetime) s := by
  have h_valid : validateBackendUsage usage s.client.metricNames = .ok () := by
    rw [h_stands.metricNames_eq]
    exact validateUsageMapping_eq_ok_iff.mpr h_covers
  refine client_alone.then fun client s₁ ⟨h_client, h_s₁⟩ => ?_
  rw [h_client, h_s₁, h_valid]
  refine Follows.lift_bind (fun _ _ => ?_) nofun
  have h_locked : AloneEnds t (CallAgrees s m (m.consumeCapacity usage reservationId t)
        fun written outcome => written.isSome = true ∧ outcome.seen = .consumed)
      (withLocks (lockOrContention s.client.bucketKeys)
        (consumeUnderLocks usage reservationId lifetime s.client.bucketKeys)) s := by
    refine withLocks_agrees h_idle h_stands fun stack s₂ h_stands₂ h_client₂ h_holds => ?_
    rw [← h_client₂]
    exact consumeUnderLocks_agrees h_stands₂ h_time h_holds h_covers h_lifetime
  refine Follows.bind h_locked (fun result s₂ h_agrees => ?_) fun e s₂ h_agrees => ?_
  · have h_done : CallAgrees s m (m.consumeCapacity usage reservationId t)
        (fun (_ : Option ℚ) outcome => outcome.seen = .consumed)
        (.ok (result.map fun written => written.2.1)) s₂ :=
      h_agrees.mono fun outcome m' h_ok h_shows => ⟨outcome, h_ok, h_shows.2⟩
    match result with
    | none => exact h_done
    | some (false, _, _) => exact h_done
    | some (true, currentTime, freshStartBuckets) =>
      have h_called : Alone t (fun _ s' => s' = s₂) (consumptionCallbacks freshStartBuckets) s₂ := by
        refine (freshStartBucketsCallback_alone _).bind fun _ s₃ h_s₃ => ?_
        rw [h_s₃]
        exact invokeCallback_alone _
      refine h_called.then fun _ s₃ h_s₃ => ?_
      rw [h_s₃]
      exact h_done
  · exact h_agrees.raise id

end Attempt

/-! ## Refunding -/

section Refund

variable {refund : RefundRequest} {scope : Finset BucketId} {rid : ReservationId}
  {ids : Finset BucketId} {usage : FrozenUsage}

/-- The metadata of a refund are those of a consumption of this backend, and of the live marker
    if there is one. -/
structure NamesReservation (client : RedisClient) (m : MemoryBackend) (refund : RefundRequest)
    (scope : Finset BucketId) (rid : ReservationId) (ids : Finset BucketId)
    (usage : FrozenUsage) : Prop where
  family : refund.reservationModelFamily = some client.modelFamily
  bucketIds : refund.reservationBucketIds = some ids
  reservedUsage : refund.reservationReservedUsage = some usage
  inScope : validateMarkerRefundScope refund.reservedUsage scope ids usage = .ok ()
  nonneg : ∀ metric ∈ usage.keys, 0 ≤ usage.amount metric
  live : ∀ live, m.acquiredReservationValues rid = some live → live = (ids, usage)

theorem expectedMarker_eq (h_rid : refund.reservationId = some rid)
    (h_names : NamesReservation s.client m refund scope rid ids usage) :
    expectedMarker refund scope = .ok (some ⟨rid, s.client.modelFamily, ids, usage⟩) := by
  obtain ⟨h_family, h_ids, h_usage, h_scoped, h_nonneg, _⟩ := h_names
  have h_valid : ¬ ∃ metric ∈ usage.keys, usage.amount metric < 0 :=
    fun ⟨metric, h_mem, h_lt⟩ => not_le.mpr h_lt (h_nonneg metric h_mem)
  unfold expectedMarker requireMarkerMetadata redisAcquiredMarkerValue
  rw [h_rid, h_family, h_ids, h_usage]
  simp only [bind, Except.bind, h_scoped]
  rw [if_neg h_valid]
  rfl

/-- A refund of the memory backend in a scope that is not empty. -/
theorem refundCapacityForBuckets_eq (h_time : 0 ≤ t)
    (h_scope : refund.bucketIds.getD m.bucketIds = scope) (h_ne : scope ≠ ∅)
    (h_valid : validateBackendRefundUsageForBucketIds refund.reservedUsage refund.actualUsage
      scope m.bucketIds = .ok ()) :
    m.refundCapacityForBuckets refund t =
      (m.requireAcquired refund.reservationId).map fun _ => (.done, (m.setCapacities
        (applyRefund (m.capacityAt t) refund.reservedUsage refund.actualUsage m.maxCapacity)
        scope t true).withReservation refund.reservationId MemoryBackend.closeReservation) := by
  have h_work : ¬ (scope = ∅ ∧ refund.reservationId = none) := fun h => h_ne h.1
  cases h_acquired : m.requireAcquired refund.reservationId with
  | error e =>
    unfold MemoryBackend.refundCapacityForBuckets
    rw [h_scope]
    simp only [h_valid, if_neg h_work, h_acquired, bind, Except.bind]
    rfl
  | ok _ =>
    rw [refundCapacityForBuckets_authorized refund h_time (by rw [h_scope]; exact h_valid)
      (by rw [h_scope]; exact h_work) h_acquired, h_scope]
    rfl

/-- A part that agrees with a check and a change after it. -/
theorem agrees_map_ok {γ : Type} {x : Except BackendError γ} {f : γ → MemoryBackend} {a : Unit}
    (h_agrees : s.Agrees m (x.map fun c => ((), f c)) Eq (.ok a)) :
    ∃ c, x = .ok c ∧ s.StandsFor (f c) := by
  obtain ⟨_, m', h_ok, _, h_stands⟩ := h_agrees
  cases x with
  | ok c =>
    cases h_ok
    exact ⟨c, rfl, h_stands⟩
  | error e => cases h_ok

theorem agrees_map_error {γ : Type} {x : Except BackendError γ} {f : γ → MemoryBackend}
    {e : BackendError} {shows : Unit → Unit → Prop}
    (h_agrees : s.Agrees m (x.map fun c => ((), f c)) shows (.error e)) :
    (e = .valueError .retentionTooLong ∨ x = .error e) ∧ s.StandsFor m := by
  refine ⟨h_agrees.1.imp id fun h_error => ?_, h_agrees.2⟩
  cases x with
  | ok c => cases h_error
  | error e' =>
    injection h_error with h_error
    rw [h_error]

/-- The write of a refund. -/
theorem writeRefund_agrees {keys : List BucketKey} {reservationId : Option ReservationId}
    (h_stands : s.StandsFor m) (h_keys : keys ⊆ s.client.bucketKeys) (capacities : Capacities)
    (h_live : ∀ rid, reservationId = some rid →
      ∀ live, m.acquiredReservationValues rid = some live → live = (ids, usage))
    (h_cap : m.refundedReservationIdOrder.length < m.refundedReservationIdsCap) :
    AloneEnds t (fun result s' => s.Frames s' ∧
        s'.Agrees m ((m.requireAcquired reservationId).map fun _ =>
          ((), (m.setCapacities capacities (idsOf keys) t true).withReservation reservationId
            MemoryBackend.closeReservation)) Eq result)
      (writeRefund s.client capacities keys t (reservationId.map fun rid =>
        ⟨rid, s.client.modelFamily, ids, usage⟩)) s := by
  cases reservationId with
  | some rid => exact commitRefund_stands h_stands h_keys capacities (h_live rid rfl) h_cap
  | none =>
    refine Follows.bind (setCapacitiesUnsafe_ends capacities true keys none)
      (fun landed s₁ h_landed => ?_) fun e s₁ h_error => ?_
    · obtain ⟨h_refused, _⟩ | ⟨_, h_s₁⟩ := h_landed
      · cases h_refused
      · rw [h_s₁]
        exact ⟨wrote_frames s capacities true keys t, (), _, rfl, rfl,
          h_stands.write h_keys capacities true t⟩
    · obtain ⟨h_refused, h_s₁⟩ | ⟨h_landed, _⟩ := h_error
      · injection h_refused with h_refused
        rw [h_refused, h_s₁]
        exact ⟨.refl s, .inl rfl, h_stands⟩
      · cases h_landed

theorem refundUnderLocks_agrees (h_stands : s.StandsFor m) (h_time : 0 ≤ t)
    (h_holds : s.Holds stack) (h_scope : refund.bucketIds.getD m.bucketIds = scope)
    (h_ne : scope ≠ ∅)
    (h_valid : validateBackendRefundUsageForBucketIds refund.reservedUsage refund.actualUsage
      scope m.bucketIds = .ok ())
    (h_live : ∀ rid, refund.reservationId = some rid →
      ∀ live, m.acquiredReservationValues rid = some live → live = (ids, usage))
    (h_cap : m.refundedReservationIdOrder.length < m.refundedReservationIdsCap) :
    AloneEnds t (fun result s' => s.Frames s' ∧ s'.Agrees m (m.refundCapacityForBuckets refund t)
        (fun freshStart outcome => freshStart.isSome = true ∧ outcome = .done) result)
      (refundUnderLocks refund scope (refund.reservationId.map fun rid =>
        ⟨rid, s.client.modelFamily, ids, usage⟩) s.client.bucketKeys stack) s := by
  have h_memory := refundCapacityForBuckets_eq h_time h_scope h_ne h_valid
  have h_sub := (validateBackendRefundUsage_keys h_valid).1
  refine time_alone.then fun now s₁ ⟨h_now, h_s₁⟩ => ?_
  rw [h_now, h_s₁]
  refine (getCapacitiesUnsafe_stands h_stands h_time).then
    fun read s₂ ⟨h_stands₂, h_frames₂, h_found⟩ => ?_
  refine client_alone.then fun client s₃ ⟨h_client, h_s₃⟩ => ?_
  rw [h_client, h_s₃]
  refine (extendLocks_alone (h_frames₂.holds h_holds)).then fun _ s₄ h_s₄ => ?_
  have h_family : s.client.modelFamily = s₂.client.modelFamily := by
    obtain ⟨caches, h_client₂⟩ := h_frames₂.client
    rw [h_client₂]
  rw [h_s₄, ← h_frames₂.bucketKeys, h_family]
  -- only the scope of the refund is written back
  have h_written : idsOf (s₂.client.bucketKeys.filter fun key => key.id ∈ scope) = scope := by
    ext id
    rw [← Session.StandsFor.mem_idsOf (List.filter_subset_self _), List.mem_filter,
      h_stands₂.mem_bucketKeys, decide_eq_true_eq]
    exact ⟨fun h_mem => h_mem.2, fun h_mem =>
      ⟨MemoryBackend.mem_bucketIds.mp (h_sub h_mem), h_mem⟩⟩
  have h_amounts : m.setCapacities (applyRefund (m.capacityAt t) refund.reservedUsage
        refund.actualUsage m.maxCapacity) scope t true =
      m.setCapacities (applyRefund read.capacities refund.reservedUsage refund.actualUsage
        (maxCapacities s₂.client)) scope t true := by
    refine setCapacities_congr fun id h_mem => ?_
    obtain ⟨h_capacity, h_limit⟩ := h_found id (MemoryBackend.mem_bucketIds.mp (h_sub h_mem))
    unfold applyRefund
    rw [h_capacity, h_limit]
  rw [h_amounts] at h_memory
  have h_filtered : (s₂.client.bucketKeys.filter fun key => key.id ∈ scope) ⊆
      s₂.client.bucketKeys := List.filter_subset_self _
  have h_write := writeRefund_agrees (t := t) h_stands₂ h_filtered
    (applyRefund read.capacities refund.reservedUsage refund.actualUsage (maxCapacities s₂.client))
    h_live h_cap
  rw [h_written] at h_write
  apply Follows.attempt_bind h_write
  rintro written s₅ ⟨h_frames₅, h_agrees⟩
  have h_suspend : Alone t (fun _ s' => s' = s₅) (send .suspend) s₅ := send_alone fun _ _ => rfl
  refine h_suspend.attempt.then fun awaited s₆ h_awaited => ?_
  obtain ⟨_, rfl, h_s₆⟩ := h_awaited
  rw [h_s₆]
  match written with
  | .ok _ =>
    obtain ⟨_, h_acquired, h_stands'⟩ := agrees_map_ok h_agrees
    rw [h_acquired] at h_memory
    exact ⟨h_frames₂.trans h_frames₅, .done, _, h_memory, ⟨rfl, rfl⟩, h_stands'⟩
  | .error e =>
    obtain ⟨h_error, h_stands'⟩ := agrees_map_error h_agrees
    refine ⟨h_frames₂.trans h_frames₅, h_error.imp id fun h_acquired => ?_, h_stands'⟩
    rw [h_memory, h_acquired]
    rfl

/-- A refund without buckets closes its reservation. -/
theorem closeReservation_agrees {rid : ReservationId} {ids : Finset BucketId} {usage : FrozenUsage}
    (h_idle : s.Idle) (h_stands : s.StandsFor m)
    (h_valid : validateBackendRefundUsageForBucketIds refund.reservedUsage refund.actualUsage ∅
      m.bucketIds = .ok ())
    (h_scope : refund.bucketIds.getD m.bucketIds = ∅) (h_rid : refund.reservationId = some rid)
    (h_live : ∀ live, m.acquiredReservationValues rid = some live → live = (ids, usage))
    (h_cap : m.refundedReservationIdOrder.length < m.refundedReservationIdsCap) :
    AloneEnds t (CallAgrees s m (m.refundCapacityForBuckets refund t)
        fun _ outcome => outcome = .done)
      (commitRefundWithAcquireMarkerUnsafe (fun _ => 0) [] t (s.client.reservationKey rid)
        ⟨rid, s.client.modelFamily, ids, usage⟩) s := by
  have h_capacities : m.setCapacities (fun _ => 0) (idsOf []) t true = m := by
    simp [MemoryBackend.setCapacities, idsOf]
  have h_memory : m.refundCapacityForBuckets refund t =
      (m.requireAcquired (some rid)).map fun _ => (.done, m.closeReservation rid) := by
    unfold MemoryBackend.refundCapacityForBuckets
    rw [h_scope]
    simp only [h_valid, h_rid, bind, Except.bind]
    cases m.requireAcquired (some rid) with
    | ok _ => rfl
    | error _ => rfl
  have h_commit := @commitRefund_stands s m t [] rid ids usage h_stands (List.nil_subset _)
    (fun _ => 0) h_live h_cap
  apply Follows.mono h_commit
  rintro result s' ⟨h_frames, h_agrees⟩
  rw [h_capacities] at h_agrees
  have h_idle' : s'.Idle := by
    intro key h_mem
    rw [h_frames.bucketKeys] at h_mem
    rw [h_frames.locks]
    exact h_idle key h_mem
  refine ⟨h_idle', h_frames.client, ?_⟩
  cases result with
  | ok _ =>
    obtain ⟨_, h_acquired, h_stands'⟩ := agrees_map_ok h_agrees
    rw [h_acquired] at h_memory
    exact ⟨.done, _, h_memory, rfl, h_stands'⟩
  | error e =>
    obtain ⟨h_error, h_stands'⟩ := agrees_map_error h_agrees
    refine ⟨h_error.imp id fun h_acquired => ?_, h_stands'⟩
    rw [h_memory, h_acquired]
    rfl

/-- `refund_capacity_for_buckets` -/
theorem refundCapacityForBuckets_agrees (h_idle : s.Idle) (h_stands : s.StandsFor m)
    (h_time : 0 ≤ t)
    (h_names : ∀ rid, refund.reservationId = some rid → ∃ ids usage, NamesReservation s.client m
      refund (refund.bucketIds.getD m.bucketIds) rid ids usage)
    (h_cap : m.refundedReservationIdOrder.length < m.refundedReservationIdsCap) :
    AloneEnds t (CallAgrees s m (m.refundCapacityForBuckets refund t)
        fun _ outcome => outcome = .done)
      (refundCapacityForBuckets refund) s := by
  have h_bucketIds : s.client.bucketIds = m.bucketIds := by
    unfold RedisClient.bucketIds MemoryBackend.bucketIds
    rw [h_stands.buckets_eq]
  apply client_alone.then
  rintro client s₁ ⟨h_client, h_s₁⟩
  rw [h_client, h_s₁]
  dsimp only
  rw [h_bucketIds]
  generalize h_scope : refund.bucketIds.getD m.bucketIds = scope at h_names ⊢
  cases h_valid : validateBackendRefundUsageForBucketIds refund.reservedUsage refund.actualUsage
      scope m.bucketIds with
  | error e =>
    refine Follows.lift_bind (fun _ h_ok => by cases h_ok) fun e' h_error => ?_
    injection h_error with h_error
    rw [← h_error]
    refine ⟨h_idle, ⟨s.client.caches, rfl⟩, .inr ?_, h_stands⟩
    simp only [MemoryBackend.refundCapacityForBuckets, h_scope, h_valid, bind, Except.bind]
  | ok _ =>
    refine Follows.lift_bind (fun _ _ => ?_) fun _ h_error => by cases h_error
    -- the marker of the refund, under whatever metadata name it
    obtain ⟨ids, usage, h_marker, h_live⟩ : ∃ ids usage,
        expectedMarker refund scope = .ok (refund.reservationId.map fun rid =>
          ⟨rid, s.client.modelFamily, ids, usage⟩) ∧
        ∀ rid, refund.reservationId = some rid →
          ∀ live, m.acquiredReservationValues rid = some live → live = (ids, usage) := by
      cases h_rid : refund.reservationId with
      | none =>
        refine ⟨∅, refund.reservedUsage, ?_, fun _ h_none => by cases h_none⟩
        unfold expectedMarker
        rw [h_rid]
        rfl
      | some rid =>
        obtain ⟨ids, usage, h_names⟩ := h_names rid h_rid
        refine ⟨ids, usage, expectedMarker_eq h_rid h_names, fun rid' h_rid' => ?_⟩
        cases h_rid'
        exact h_names.live
    rw [h_marker]
    refine Follows.lift_bind (fun marker h_eq => ?_) fun _ h_error => by cases h_error
    injection h_eq with h_eq
    rw [← h_eq]
    by_cases h_empty : scope = ∅
    · rw [if_pos h_empty]
      cases h_rid : refund.reservationId with
      | none =>
        refine ⟨h_idle, ⟨s.client.caches, rfl⟩, .done, m, ?_, rfl, h_stands⟩
        unfold MemoryBackend.refundCapacityForBuckets
        rw [h_scope]
        simp only [h_valid, if_pos (And.intro h_empty h_rid), bind, Except.bind]
        rfl
      | some rid =>
        apply time_alone.then
        rintro now s₂ ⟨h_now, h_s₂⟩
        rw [h_now, h_s₂]
        rw [h_empty] at h_scope h_valid
        exact closeReservation_agrees h_idle h_stands h_valid h_scope h_rid (h_live rid h_rid) h_cap
    · rw [if_neg h_empty]
      have h_locked : AloneEnds t (CallAgrees s m (m.refundCapacityForBuckets refund t)
            fun freshStart outcome => freshStart.isSome = true ∧ outcome = .done)
          (withLocks (lockOrContention s.client.bucketKeys)
            (refundUnderLocks refund scope (refund.reservationId.map fun rid =>
              ⟨rid, s.client.modelFamily, ids, usage⟩) s.client.bucketKeys)) s := by
        refine withLocks_agrees h_idle h_stands fun stack s₂ h_stands₂ h_client₂ h_holds => ?_
        rw [← h_client₂]
        exact refundUnderLocks_agrees h_stands₂ h_time h_holds h_scope h_empty h_valid h_live h_cap
      refine Follows.bind h_locked (fun result s₂ h_agrees => ?_) fun e s₂ h_agrees =>
        h_agrees.raise id
      have h_done : CallAgrees s m (m.refundCapacityForBuckets refund t)
          (fun (_ : Unit) outcome => outcome = .done) (.ok ()) s₂ :=
        h_agrees.mono fun outcome m' h_ok h_shows => ⟨outcome, h_ok, h_shows.2⟩
      cases result with
      | none => exact h_done
      | some freshStartBuckets =>
        have h_called : Alone t (fun _ s' => s' = s₂) (send .suspend >>= fun _ =>
            freshStartBucketsCallback freshStartBuckets >>= fun _ =>
              invokeCallback .onCapacityRefunded) s₂ := by
          refine send_alone_bind fun _ _ => ?_
          refine (freshStartBucketsCallback_alone _).bind fun _ s₃ h_s₃ => ?_
          rw [h_s₃]
          exact invokeCallback_alone _
        apply Follows.mono h_called
        rintro _ s₃ ⟨_, rfl, h_s₃⟩
        rw [h_s₃]
        exact h_done

end Refund

/-! ## Cleaning up -/

section Cleanup

variable {usage : FrozenUsage} {reservationId : Option ReservationId}

/-- Without a limiter that takes over, the cleanup of a consumption deletes its marker. -/
theorem refundCancelledUnderLocks_agrees {recovering : Bool} (h_stands : s.StandsFor m)
    (h_time : 0 ≤ t) (h_holds : s.Holds stack)
    (h_plain : reservationId.isSome = true → recovering = false) :
    AloneEnds t (fun result s' => s.Frames s' ∧
        s'.Agrees m (m.refundCancelledConsumption usage reservationId t)
          (fun _ outcome => outcome = .done) result)
      (refundCancelledUnderLocks usage reservationId recovering s.client.bucketKeys stack) s := by
  refine time_alone.then fun now s₁ ⟨h_now, h_s₁⟩ => ?_
  rw [h_now, h_s₁]
  refine (getCapacitiesUnsafe_stands h_stands h_time).then
    fun read s₂ ⟨h_stands₂, h_frames₂, h_found⟩ => ?_
  refine client_alone.then fun client s₃ ⟨h_client, h_s₃⟩ => ?_
  rw [h_client, h_s₃]
  refine (extendLocks_alone (h_frames₂.holds h_holds)).then fun _ s₄ h_s₄ => ?_
  rw [h_s₄, ← h_frames₂.bucketKeys]
  have h_memory : m.refundCancelledConsumption usage reservationId t =
      .ok (.done, (m.setCapacities (restoreUsage read.capacities usage (maxCapacities s₂.client))
        m.bucketIds t true).withReservation reservationId
          MemoryBackend.forgetAcquiredReservation) := by
    unfold MemoryBackend.refundCancelledConsumption
    rw [m.getCapacities_ok h_time]
    show Except.ok (Outcome.done, _) = _
    rw [@setCapacities_congr m m.bucketIds _
      (restoreUsage read.capacities usage (maxCapacities s₂.client)) t true]
    intro id h_mem
    obtain ⟨h_capacity, h_limit⟩ := h_found id (MemoryBackend.mem_bucketIds.mp h_mem)
    unfold restoreUsage
    dsimp only
    rw [h_capacity, h_limit, if_pos (MemoryBackend.mem_bucketIds.mp h_mem)]
  have h_frames₅ := wrote_frames s₂
    (restoreUsage read.capacities usage (maxCapacities s₂.client)) true s₂.client.bucketKeys t
  have h_written := h_stands₂.write (List.Subset.refl _)
    (restoreUsage read.capacities usage (maxCapacities s₂.client)) true t
  rw [h_stands₂.idsOf_bucketKeys] at h_written
  split
  · have h_recovering := h_plain rfl
    cases h_recovering
  · refine Follows.bind (setCapacitiesUnsafe_ends _ true _ _) (fun landed s₅ h_landed => ?_)
      fun e s₅ h_error => ?_
    · obtain ⟨h_refused, _⟩ | ⟨_, h_s₅⟩ := h_landed
      · cases h_refused
      · rw [h_s₅]
        cases reservationId with
        | none => exact ⟨h_frames₂.trans h_frames₅, .done, _, h_memory, rfl, h_written⟩
        | some rid =>
          exact ⟨h_frames₂.trans ⟨h_frames₅.locks, h_frames₅.client⟩, .done, _, h_memory, rfl,
            h_written.forget rid⟩
    · obtain ⟨h_refused, h_s₅⟩ | ⟨h_landed, _⟩ := h_error
      · injection h_refused with h_refused
        rw [h_refused, h_s₅]
        exact ⟨h_frames₂, .inl rfl, h_stands₂⟩
      · cases h_landed

/-- `_refund_cancelled_consumption` -/
theorem refundCancelledConsumption_agrees {recovering : Bool} (h_idle : s.Idle)
    (h_stands : s.StandsFor m) (h_time : 0 ≤ t)
    (h_plain : reservationId.isSome = true → recovering = false) :
    AloneEnds t (CallAgrees s m (m.refundCancelledConsumption usage reservationId t)
        fun _ outcome => outcome = .done)
      (refundCancelledConsumption usage reservationId recovering s.client.bucketKeys) s := by
  have h_locked : AloneEnds t (CallAgrees s m (m.refundCancelledConsumption usage reservationId t)
        fun _ outcome => outcome = .done)
      (withLocks (lockOrContention s.client.bucketKeys)
        (refundCancelledUnderLocks usage reservationId recovering s.client.bucketKeys)) s := by
    refine withLocks_agrees h_idle h_stands fun stack s₁ h_stands₁ h_client₁ h_holds => ?_
    rw [← h_client₁]
    exact refundCancelledUnderLocks_agrees h_stands₁ h_time h_holds h_plain
  refine Follows.bind h_locked (fun _ s₁ h_agrees => ?_) fun e s₁ h_agrees => h_agrees
  have h_suspend : Alone t (fun _ s' => s' = s₁) (send .suspend) s₁ := send_alone fun _ _ => rfl
  apply Follows.mono h_suspend
  rintro _ s₂ ⟨_, rfl, h_s₂⟩
  rw [h_s₂]
  exact h_agrees

end Cleanup

/-! ## Changing limits -/

section Limits

variable {id : BucketId} {value : ℚ}

/-- The caches that the relation does not look at. -/
theorem caches_stands {caches : BucketCaches} (h_stands : s.StandsFor m)
    (h_confirmed : caches.stateConfirmedAtServerTime = s.client.caches.stateConfirmedAtServerTime) :
    Session.StandsFor { s with client := { s.client with caches := caches } } m := by
  obtain ⟨h_marker, h_tombstone, h_exclusive, h_drawn⟩ := h_stands.reservations
  refine ⟨h_stands.buckets_eq, h_stands.bucket, fun id h_mem h_there => ?_,
    ⟨h_marker, h_tombstone, h_exclusive, h_drawn⟩⟩
  have h_there : (caches.stateConfirmedAtServerTime id).isSome = true := h_there
  rw [h_confirmed] at h_there
  exact h_stands.confirmed id h_mem h_there

/-- The anchor of a bucket: its uncapped capacity now, if it has a state. -/
def anchorOf {id : BucketId} (bucket : MemoryBucket id) (t : ℚ) : Option ℚ :=
  (anchoredBucket bucket t).capacity

theorem projectBucketState_stands (h_stands : s.StandsFor m) (h_mem : id ∈ m.buckets) :
    Alone t (fun projection s' => s' = s ∧ projection = ⟨t, anchorOf (m.bucket id) t,
        s.override (s.client.bucketKey id), (m.bucket id).maxCapacity⟩)
      (projectBucketState .running (s.client.bucketKey id)) s := by
  have h_paired := (h_stands.bucket id h_mem).paired
  have h_limit := (h_stands.override h_mem).1
  have h_accrued := fun last stored rate => h_stands.accrued (t := t) h_mem last stored rate
  have h_raw : Alone t (fun raw s' => s' = s ∧
      raw = s.server.maxCapacityOverride (s.client.bucketKey id))
      (send (.getOverride (s.client.bucketKey id))) s := send_alone fun _ _ => ⟨rfl, rfl⟩
  refine h_raw.bind fun raw s₁ ⟨h_s₁, h_raw⟩ => ?_
  rw [h_s₁, h_raw]
  refine client_alone.bind fun client s₂ ⟨h_client, h_s₂⟩ => ?_
  rw [h_client, h_s₂]
  refine time_alone.bind fun now s₃ ⟨h_now, h_s₃⟩ => ?_
  rw [h_now, h_s₃]
  have h_fields : Alone t (fun fields s' => s' = s ∧
      fields = s.server.state (s.client.bucketKey id))
      (send (.readState (s.client.bucketKey id))) s := send_alone fun _ _ => ⟨rfl, rfl⟩
  refine h_fields.bind fun fields s₄ ⟨h_s₄, h_fields⟩ => ?_
  rw [h_s₄, h_fields]
  refine client_alone.bind fun client' s₅ ⟨h_client', h_s₅⟩ => ?_
  rw [h_client', h_s₅]
  have h_normalized : BucketFields.normalize (s.server.state (s.client.bucketKey id)) t
      (s.client.stateLossSuspected (s.client.bucketKey id).id t) =
        ⟨(m.bucket id).lastChecked, (m.bucket id).capacity⟩ := h_stands.normalized h_mem t
  simp only [h_normalized]
  have h_effective : ((s.client.deserializeMaxCapacityOverride (s.client.bucketKey id).id
      (s.server.maxCapacityOverride (s.client.bucketKey id))).getD
        (s.client.maxCapacityDefault (s.client.bucketKey id).id)) = (m.bucket id).maxCapacity :=
    h_limit
  unfold anchorOf anchoredBucket
  cases h_last : (m.bucket id).lastChecked with
  | none =>
    rw [h_last] at h_paired
    have h_none : (m.bucket id).capacity = none := by
      rw [← Option.not_isSome_iff_eq_none, ← h_paired]
      exact Bool.false_ne_true
    simp only [h_none, h_effective]
    exact Returns.pure ⟨rfl, rfl⟩
  | some last =>
    rw [h_last] at h_paired
    obtain ⟨stored, h_stored⟩ := Option.isSome_iff_exists.mp h_paired.symm
    simp only [h_stored]
    have h_history : Alone t (fun history s' => s' = s ∧
        history = s.server.overrideExpiry (s.client.bucketKey id))
        (send (.getExpiry (s.client.bucketKey id))) s := send_alone fun _ _ => ⟨rfl, rfl⟩
    refine h_history.bind fun history s₆ ⟨h_s₆, h_history⟩ => ?_
    rw [h_s₆, h_history]
    refine client_alone.bind fun client'' s₇ ⟨h_client'', h_s₇⟩ => ?_
    rw [h_client'', h_s₇]
    refine Returns.pure ⟨rfl, ?_⟩
    rw [h_effective]
    have h_amount := h_accrued last stored
      (calculateRatePerSec (m.bucket id).maxCapacity id)
    show (⟨t, some (accrueWithExpiry (s.server.overrideExpiry (s.client.bucketKey id))
      (s.override (s.client.bucketKey id)) (s.client.maxCapacityDefault id) id last t stored
      (calculateRatePerSec (m.bucket id).maxCapacity id)), _, _⟩ : Projection) = _
    rw [h_amount]
    rfl

/-- The expiry of an override that is in force does not matter. -/
theorem expiry_stands {overrideExpiry : BucketKey → Option OverrideExpiry}
    (h_stands : s.StandsFor m)
    (h_kept : ∀ id ∈ m.buckets, s.server.maxCapacityOverride (s.client.bucketKey id) = none →
      overrideExpiry (s.client.bucketKey id) = s.server.overrideExpiry (s.client.bucketKey id)) :
    (s.withServer { s.server with overrideExpiry := overrideExpiry }).StandsFor m := by
  obtain ⟨h_marker, h_tombstone, h_exclusive, h_drawn⟩ := h_stands.reservations
  refine ⟨h_stands.buckets_eq, fun id h_mem => ?_, h_stands.confirmed,
    ⟨h_marker, h_tombstone, h_exclusive, h_drawn⟩⟩
  obtain ⟨h_state, h_paired, h_limit⟩ := h_stands.bucket id h_mem
  refine ⟨h_state, h_paired, h_limit.imp ?_ fun h => h⟩
  rintro ⟨h_record, h_history, h_configured⟩
  exact ⟨h_record, (h_kept id h_mem h_record).trans h_history, h_configured⟩

theorem refreshMaxCapacityOverrideTtl_stands (h_stands : s.StandsFor m) (id : BucketId) :
    Alone t (fun _ s' => s'.StandsFor m ∧ s.Frames s')
      (RedisBucket.refreshMaxCapacityOverrideTtl .running (s.client.bucketKey id)
        (s.override (s.client.bucketKey id))) s := by
  cases h_override : s.override (s.client.bucketKey id) with
  | none =>
    apply Returns.mono (retainCapacityHistory_alone _)
    intro _ s' h_s'
    rw [h_s']
    exact ⟨h_stands, .refl s⟩
  | some value =>
    refine send_alone_bind fun turn _ => send_alone_bind fun _ _ => send_alone_bind fun _ _ => ?_
    obtain ⟨h_client, overrideExpiry, h_server, h_kept⟩ := refreshOverride_refreshes s
      (s.client.bucketKey id) (RedisBucket.overrideRecord s.client id value)
      (turn.currentTime + s.client.overrideTtlSeconds)
    have h_stands' := @expiry_stands s m overrideExpiry h_stands fun id' _ h_record =>
      h_kept _ fun h_key => by
        have h_none : s.override (s.client.bucketKey id) = none := by
          unfold Session.override
          rw [← h_key, h_record]
          rfl
        rw [h_none] at h_override
        cases h_override
    rw [← h_server] at h_stands'
    have h_locks := congrArg RedisServer.locks h_server
    exact Returns.pure ⟨h_stands', h_locks, s.client.caches, rfl⟩

theorem setCapacity_ends (key : BucketKey) (anchored : ℚ) (retention : Option MaxCapacity) :
    AloneEnds t (fun result s' =>
        (result = .error (.valueError .retentionTooLong) ∧ s' = s) ∨
        (result = .ok .running ∧
          s' = s.wrote (s.server.setStates (writesOf (fun _ => anchored) true [key]) t) [key] t))
      (RedisBucket.setCapacity .running key anchored t retention) s := by
  refine client_alone.then fun client s₁ ⟨_, h_s₁⟩ => ?_
  rw [h_s₁]
  obtain ⟨ttl, _, h_ttl⟩ | h_refused := debtTtlSeconds_cases anchored client.bucketTtlSeconds
    key.id.perSeconds (retention.getD (client.maxCapacity key.id)).value
    (client.maxCapacityDefault key.id).value
  · have h_ttl : client.capacityTtl key.id anchored retention = .ok ttl := h_ttl
    rw [h_ttl]
    refine Follows.lift_bind (fun _ _ => ?_) nofun
    refine (retainCapacityHistory_alone key).then fun _ s₂ h_s₂ => ?_
    rw [h_s₂]
    have h_wrote : Alone t (fun owner s' => owner = BucketOwner.running ∧
        s' = s.wrote (s.server.setStates (writesOf (fun _ => anchored) true [key]) t) [key] t)
        (send (.setStates [(key, anchored)] t none) >>= fun _ =>
          BucketOwner.running.updateCaches (.confirmStatePresent key.id t)) s :=
      send_alone_bind fun _ _ => send_alone_bind fun _ _ => Returns.pure ⟨rfl, rfl⟩
    apply Follows.mono h_wrote
    rintro _ s' ⟨_, rfl, rfl, h_s'⟩
    exact .inr ⟨rfl, h_s'⟩
  · have h_refused : client.capacityTtl key.id anchored retention = _ := h_refused
    rw [h_refused]
    refine Follows.lift_bind nofun fun e h_error => ?_
    injection h_error with h_error
    rw [← h_error]
    exact .inl ⟨rfl, rfl⟩

/-- A bucket without a state is its own anchor, the others are written at it. -/
theorem anchoredBucket_cases {bucket : MemoryBucket id}
    (h_paired : bucket.lastChecked.isSome = bucket.capacity.isSome) (t : ℚ) :
    (anchorOf bucket t = none ∧ anchoredBucket bucket t = bucket) ∨
      ∃ anchored, anchorOf bucket t = some anchored ∧
        anchoredBucket bucket t = bucket.setCapacity anchored t true := by
  unfold anchorOf anchoredBucket
  cases h_last : bucket.lastChecked with
  | none =>
    rw [h_last] at h_paired
    have h_none : bucket.capacity = none := by
      rw [← Option.not_isSome_iff_eq_none, ← h_paired]
      exact Bool.false_ne_true
    exact .inl ⟨h_none, rfl⟩
  | some last =>
    rw [h_last] at h_paired
    obtain ⟨stored, h_stored⟩ := Option.isSome_iff_exists.mp h_paired.symm
    rw [h_stored]
    exact .inr ⟨_, rfl, rfl⟩

theorem setCapacities_singleton (m : MemoryBackend) (id : BucketId) (amount t : ℚ) :
    m.setCapacities (fun _ => amount) {id} t true =
      withBucket m id ((m.bucket id).setCapacity amount t true) := by
  unfold MemoryBackend.setCapacities withBucket
  congr 1
  funext id'
  by_cases h_eq : id' = id
  · subst h_eq
    rw [if_pos (Finset.mem_singleton_self _), Function.update_self]
  · rw [if_neg fun h => h_eq (Finset.mem_singleton.mp h), Function.update_of_ne h_eq]

theorem snapshotBucketState_stands (h_stands : s.StandsFor m) (h_mem : id ∈ m.buckets)
    (proposed : MaxCapacity) :
    AloneEnds t (fun result s' => s.Frames s' ∧
        s'.Agrees m (.ok ((), withBucket m id (anchoredBucket (m.bucket id) t))) Eq result)
      (snapshotBucketState (s.client.bucketKey id) proposed) s := by
  refine (projectBucketState_stands h_stands h_mem).then fun projection s₁ ⟨h_s₁, h_projection⟩ => ?_
  rw [h_s₁, h_projection]
  refine (refreshMaxCapacityOverrideTtl_stands h_stands id).then
    fun _ s₂ ⟨h_stands₂, h_frames₂⟩ => ?_
  have h_key : s₂.client.bucketKey id = s.client.bucketKey id := by
    obtain ⟨caches, h_client₂⟩ := h_frames₂.client
    rw [h_client₂]
    rfl
  -- the caches of the override are no part of the relation
  have h_cached : ∀ (s₃ : Session) (m' : MemoryBackend) (override : Option MaxCapacity),
      s₃.StandsFor m' → Alone t (fun _ s' => s₃.Frames s' ∧ s'.StandsFor m')
        (send (.updateCaches (.applyParsedMaxCapacityOverride id override))) s₃ :=
    fun s₃ m' override h_stands₃ =>
      send_alone fun _ _ => ⟨⟨rfl, _, rfl⟩, caches_stands h_stands₃ rfl⟩
  dsimp only
  obtain ⟨h_none, h_same⟩ | ⟨anchored, h_some, h_same⟩ :=
    anchoredBucket_cases (h_stands.bucket id h_mem).paired t
  · rw [h_none, h_same]
    have h_self : withBucket m id (m.bucket id) = m := by
      unfold withBucket
      rw [Function.update_eq_self]
    rw [h_self]
    apply Follows.mono (h_cached s₂ m _ h_stands₂)
    rintro _ s₃ ⟨_, rfl, h_frames₃, h_stands₃⟩
    exact ⟨h_frames₂.trans h_frames₃, (), m, rfl, rfl, h_stands₃⟩
  · rw [h_some, h_same]
    have h_sub : [s₂.client.bucketKey id] ⊆ s₂.client.bucketKeys := by
      intro key h_key'
      rw [List.mem_singleton.mp h_key']
      exact h_stands₂.mem_bucketKeys.mpr h_mem
    have h_written := h_stands₂.write h_sub (fun _ => anchored) true t
    have h_ids : idsOf [s₂.client.bucketKey id] = {id} := rfl
    rw [h_ids, setCapacities_singleton, h_key] at h_written
    refine Follows.bind (setCapacity_ends (s.client.bucketKey id) anchored _)
      (fun owner s₃ h_s₃ => ?_) fun e s₃ h_s₃ => ?_
    · obtain ⟨h_refused, _⟩ | ⟨_, h_s₃⟩ := h_s₃
      · cases h_refused
      · rw [h_s₃]
        apply Follows.mono (h_cached _ _ _ h_written)
        rintro _ s₄ ⟨_, rfl, h_frames₄, h_stands₄⟩
        have h_frames₃ := wrote_frames s₂ (fun _ => anchored) true [s.client.bucketKey id] t
        exact ⟨h_frames₂.trans (h_frames₃.trans h_frames₄), (), _, rfl, rfl, h_stands₄⟩
    · obtain ⟨h_refused, h_s₃⟩ | ⟨h_landed, _⟩ := h_s₃
      · injection h_refused with h_refused
        rw [h_refused, h_s₃]
        exact ⟨h_frames₂, .inl rfl, h_stands₂⟩
      · cases h_landed

/-- A bucket whose limit is another one from now on. -/
theorem limit_stands {bucket : MemoryBucket id} {record : Option OverrideRecord}
    {expiry : Option OverrideExpiry} {caches : BucketCaches}
    {defaults : BucketId → MaxCapacity} (h_stands : s.StandsFor m) (h_mem : id ∈ m.buckets)
    (h_state : bucket.lastChecked = (m.bucket id).lastChecked ∧
      bucket.capacity = (m.bucket id).capacity)
    (h_limit : (record = none ∧ expiry = none ∧ bucket.maxCapacity = defaults id) ∨
      record = some ⟨defaults id, bucket.maxCapacity⟩)
    (h_defaults : ∀ id' ∈ m.buckets, id' ≠ id → defaults id' = s.client.maxCapacityDefault id')
    (h_confirmed : caches.stateConfirmedAtServerTime = s.client.caches.stateConfirmedAtServerTime) :
    Session.StandsFor ⟨s.server.putOverride (s.client.bucketKey id) record expiry,
      { s.client with caches := caches, maxCapacityDefault := defaults }⟩ (withBucket m id bucket) := by
  obtain ⟨h_marker, h_tombstone, h_exclusive, h_drawn⟩ := h_stands.reservations
  have h_bucket : ∀ id', (withBucket m id bucket).bucket id' =
      Function.update m.bucket id bucket id' := fun _ => rfl
  refine ⟨h_stands.buckets_eq, fun id' h_mem' => ?_, fun id' h_mem' h_there => ?_,
    ⟨h_marker, h_tombstone, h_exclusive, h_drawn⟩⟩
  · obtain ⟨h_pair, h_paired, h_old⟩ := h_stands.bucket id' h_mem'
    rw [h_bucket]
    by_cases h_eq : id' = id
    · subst h_eq
      rw [Function.update_self]
      refine ⟨?_, ?_, ?_⟩
      · show s.server.state (s.client.bucketKey id') = _
        rw [h_state.1, h_state.2, h_pair]
      · rw [h_state.1, h_state.2, h_paired]
      · show (Function.update s.server.maxCapacityOverride (s.client.bucketKey id') record
            (s.client.bucketKey id') = none ∧
          Function.update s.server.overrideExpiry (s.client.bucketKey id') expiry
            (s.client.bucketKey id') = none ∧ _) ∨
          Function.update s.server.maxCapacityOverride (s.client.bucketKey id') record
            (s.client.bucketKey id') = _
        rw [Function.update_self, Function.update_self]
        exact h_limit
    · have h_key : s.client.bucketKey id' ≠ s.client.bucketKey id :=
        fun h => h_eq (congrArg BucketKey.id h)
      rw [Function.update_of_ne h_eq]
      refine ⟨h_pair, h_paired, ?_⟩
      show (Function.update s.server.maxCapacityOverride (s.client.bucketKey id) record
            (s.client.bucketKey id') = none ∧
          Function.update s.server.overrideExpiry (s.client.bucketKey id) expiry
            (s.client.bucketKey id') = none ∧ (m.bucket id').maxCapacity = defaults id') ∨
        Function.update s.server.maxCapacityOverride (s.client.bucketKey id) record
          (s.client.bucketKey id') = some ⟨defaults id', (m.bucket id').maxCapacity⟩
      rw [Function.update_of_ne h_key, Function.update_of_ne h_key, h_defaults id' h_mem' h_eq]
      exact h_old
  · have h_there : (caches.stateConfirmedAtServerTime id').isSome = true := h_there
    rw [h_confirmed] at h_there
    have h_last := h_stands.confirmed id' h_mem' h_there
    rw [h_bucket]
    by_cases h_eq : id' = id
    · subst h_eq
      rw [Function.update_self, h_state.1]
      exact h_last
    · rw [Function.update_of_ne h_eq]
      exact h_last

/-- The body of a runtime limit change. -/
theorem bucketSetMaxCapacity_stands {bucket : MemoryBucket id} (h_mem : id ∈ m.buckets)
    (h_stands : s.StandsFor (withBucket m id bucket)) (value : MaxCapacity) :
    Alone t (fun _ s' => s.Frames s' ∧
        s'.StandsFor (withBucket m id { bucket with maxCapacity := value }))
      (RedisBucket.setMaxCapacity (s.client.bucketKey id) value) s := by
  refine send_alone_bind fun turn _ => send_alone_bind fun _ _ => send_alone_bind fun _ _ => ?_
  refine send_alone fun _ _ => ⟨⟨rfl, _, rfl⟩, ?_⟩
  have h_self : (withBucket m id bucket).bucket id = bucket := Function.update_self ..
  have h_limited := @limit_stands s (withBucket m id bucket) id
    { bucket with maxCapacity := value }
    (some (RedisBucket.overrideRecord s.client id value))
    (some (RedisServer.expiryOf (RedisBucket.overrideRecord s.client id value)
      (turn.currentTime + s.client.overrideTtlSeconds)))
    (s.client.caches.applyParsedMaxCapacityOverride id (some value)) s.client.maxCapacityDefault
    h_stands h_mem (by rw [h_self]; exact ⟨rfl, rfl⟩) (.inr rfl) (fun _ _ _ => rfl) rfl
  rw [withBucket_withBucket] at h_limited
  exact h_limited

/-- `set_max_capacity` -/
theorem setMaxCapacity_agrees (h_idle : s.Idle) (h_stands : s.StandsFor m) (id : BucketId)
    (value : ℚ) :
    AloneEnds t (CallAgrees s m (m.setMaxCapacity id value t) fun _ outcome => outcome = .done)
      (setMaxCapacity id value) s := by
  refine client_alone.then fun client s₁ ⟨h_client, h_s₁⟩ => ?_
  rw [h_client, h_s₁, h_stands.buckets_eq]
  by_cases h_mem : id ∈ m.buckets
  · rw [if_neg (not_not.mpr h_mem)]
    have h_locked : AloneEnds t (CallAgrees s m (m.setMaxCapacity id value t)
          fun _ outcome => outcome = .done)
        (withLocks (lockOrContention s.client.bucketKeys) fun stack => do
          extendLocks stack
          let value ← Program.lift (validateMaxCapacityFinitePositive value)
          snapshotBucketState (s.client.bucketKey id) value
          RedisBucket.setMaxCapacity (s.client.bucketKey id) value) s := by
      refine withLocks_agrees h_idle h_stands fun stack s₂ h_stands₂ h_client₂ h_holds => ?_
      refine (extendLocks_alone h_holds).then fun _ s₃ h_s₃ => ?_
      rw [h_s₃, ← h_client₂]
      cases h_valid : validateMaxCapacityFinitePositive value with
      | error e =>
        refine Follows.lift_bind nofun fun e' h_error => ?_
        injection h_error with h_error
        rw [← h_error]
        refine ⟨.refl s₂, .inr ?_, h_stands₂⟩
        unfold MemoryBackend.setMaxCapacity MemoryBucket.setMaxCapacity
        rw [if_neg (not_not.mpr h_mem), h_valid]
        rfl
      | ok maximum =>
        have h_memory := @setMaxCapacity_memory m id value maximum t h_mem h_valid
        refine Follows.lift_bind (fun maximum' h_eq => ?_) nofun
        injection h_eq with h_eq
        rw [← h_eq]
        refine Follows.bind (snapshotBucketState_stands h_stands₂ h_mem maximum)
          (fun _ s₄ ⟨h_frames₄, h_agrees⟩ => ?_) fun e s₄ ⟨h_frames₄, h_agrees⟩ => ?_
        · obtain ⟨_, m', h_ok, _, h_stands₄⟩ := h_agrees
          cases h_ok
          have h_key : s₂.client.bucketKey id = s₄.client.bucketKey id := by
            obtain ⟨caches, h_client₄⟩ := h_frames₄.client
            rw [h_client₄]
            rfl
          rw [h_key]
          apply Follows.mono (bucketSetMaxCapacity_stands h_mem h_stands₄ maximum)
          rintro _ s₅ ⟨_, rfl, h_frames₅, h_stands₅⟩
          exact ⟨h_frames₄.trans h_frames₅, .done, _, h_memory, rfl, h_stands₅⟩
        · obtain ⟨h_error, h_stands₄⟩ := h_agrees
          refine ⟨h_frames₄, .inl (h_error.resolve_right nofun), h_stands₄⟩
    refine Follows.bind h_locked (fun _ s₂ h_agrees => ?_) fun e s₂ h_agrees =>
      h_agrees.raise fun h => h
    have h_suspend : Alone t (fun _ s' => s' = s₂) (send .suspend) s₂ := send_alone fun _ _ => rfl
    apply Follows.mono h_suspend
    rintro _ s₃ ⟨_, rfl, h_s₃⟩
    rw [h_s₃]
    exact h_agrees
  · rw [if_pos h_mem]
    refine ⟨h_idle, ⟨s.client.caches, rfl⟩, .inr ?_, h_stands⟩
    unfold MemoryBackend.setMaxCapacity
    rw [if_pos h_mem]

/-- The body of a change of the configured limit: the override goes, and the process takes
    the limit over. -/
theorem configure_stands {bucket : MemoryBucket id} (h_mem : id ∈ m.buckets)
    (h_stands : s.StandsFor (withBucket m id bucket)) (maximum : MaxCapacity) :
    Alone t (fun _ s' => s'.server.locks = s.server.locks ∧
        (∃ caches defaults,
          s'.client = { s.client with caches := caches, maxCapacityDefault := defaults }) ∧
        s'.StandsFor (withBucket m id { bucket with maxCapacity := maximum }))
      (do
        let _ ← RedisBucket.clearMaxCapacityOverride .running (s.client.bucketKey id)
        send (.setConfiguredMaxCapacity id maximum)) s := by
  have h_self : (withBucket m id bucket).bucket id = bucket := Function.update_self ..
  have h_limited := @limit_stands s (withBucket m id bucket) id
    { bucket with maxCapacity := maximum } none none
    (s.client.caches.applyParsedMaxCapacityOverride id none)
    (Function.update s.client.maxCapacityDefault id maximum)
    h_stands h_mem (by rw [h_self]; exact ⟨rfl, rfl⟩)
    (.inl ⟨rfl, rfl, by rw [Function.update_self]⟩)
    (fun id' _ h_ne => Function.update_of_ne h_ne ..) rfl
  rw [withBucket_withBucket] at h_limited
  have h_cleared : Alone t (fun _ s' => s' =
      ⟨s.server.putOverride (s.client.bucketKey id) none none, { s.client with
        caches := s.client.caches.applyParsedMaxCapacityOverride id none }⟩)
      (RedisBucket.clearMaxCapacityOverride .running (s.client.bucketKey id)) s :=
    send_alone_bind fun _ _ => send_alone_bind fun _ _ => Returns.pure rfl
  refine h_cleared.bind fun _ s₁ h_s₁ => ?_
  rw [h_s₁]
  exact send_alone fun _ _ => ⟨rfl, ⟨_, _, rfl⟩, h_limited⟩

/-- The limits that the memory backend remembers as configured are not part of the relation. -/
theorem configuredLimits_stands {limits : BucketId → ℚ} (h_stands : s.StandsFor m) :
    s.StandsFor { m with configuredLimits := limits } := by
  obtain ⟨h_marker, h_tombstone, h_exclusive, h_drawn⟩ := h_stands.reservations
  exact ⟨h_stands.buckets_eq, h_stands.bucket, h_stands.confirmed,
    ⟨h_marker, h_tombstone, h_exclusive, h_drawn⟩⟩

/-- `apply_configured_max_capacity` -/
theorem applyConfiguredMaxCapacity_agrees (h_idle : s.Idle) (h_stands : s.StandsFor m)
    (id : BucketId) (value : ℚ) :
    AloneEnds t (fun result s' => s'.Idle ∧
        (∃ caches defaults,
          s'.client = { s.client with caches := caches, maxCapacityDefault := defaults }) ∧
        s'.Agrees m (m.applyConfiguredMaxCapacity id value t) (fun _ outcome => outcome = .done)
          result)
      (applyConfiguredMaxCapacity id value) s := by
  refine client_alone.then fun client s₁ ⟨h_client, h_s₁⟩ => ?_
  rw [h_client, h_s₁, h_stands.buckets_eq]
  by_cases h_mem : id ∈ m.buckets
  · rw [if_neg (not_not.mpr h_mem)]
    have h_locked : AloneEnds t (fun result s' => s'.Idle ∧
          ((∃ caches defaults,
            s'.client = { s.client with caches := caches, maxCapacityDefault := defaults }) ∧
          s'.Agrees m (m.applyConfiguredMaxCapacity id value t) (fun _ outcome => outcome = .done)
            result))
        (withLocks (lockOrContention s.client.bucketKeys) fun stack => do
          extendLocks stack
          let value ← Program.lift (validateMaxCapacityFinitePositive value)
          snapshotBucketState (s.client.bucketKey id) value
          let _ ← RedisBucket.clearMaxCapacityOverride .running (s.client.bucketKey id)
          send (.setConfiguredMaxCapacity id value)) s := by
      refine withLocks_idle h_idle (fun stack s₂ h_relocks h_holds => ?_) ?_
      · have h_stands₂ := h_relocks.standsFor h_stands
        have h_keys : s₂.client.bucketKey id = s.client.bucketKey id := by rw [h_relocks.client]
        have h_attributes : ∀ s₃ : Session, s₂.Frames s₃ →
            s₃.client.bucketKeys = s.client.bucketKeys ∧ (∃ caches defaults,
              s₃.client = { s.client with caches := caches, maxCapacityDefault := defaults }) := by
          intro s₃ h_frames
          obtain ⟨caches, h_client₃⟩ := h_frames.client
          rw [h_client₃, h_relocks.client]
          exact ⟨rfl, caches, s.client.maxCapacityDefault, rfl⟩
        refine (extendLocks_alone h_holds).then fun _ s₃ h_s₃ => ?_
        rw [h_s₃, ← h_keys]
        cases h_valid : validateMaxCapacityFinitePositive value with
        | error e =>
          refine Follows.lift_bind nofun fun e' h_error => ?_
          injection h_error with h_error
          rw [← h_error]
          obtain ⟨h_same, h_client₂⟩ := h_attributes s₂ (.refl s₂)
          refine ⟨rfl, h_same, h_client₂, .inr ?_, h_stands₂⟩
          unfold MemoryBackend.applyConfiguredMaxCapacity MemoryBackend.setMaxCapacity
            MemoryBucket.setMaxCapacity
          rw [if_neg (not_not.mpr h_mem), h_valid]
          rfl
        | ok maximum =>
          have h_memory : m.applyConfiguredMaxCapacity id value t = .ok (.done,
              { withBucket m id { anchoredBucket (m.bucket id) t with maxCapacity := maximum } with
                configuredLimits := Function.update m.configuredLimits id value }) := by
            unfold MemoryBackend.applyConfiguredMaxCapacity
            rw [setMaxCapacity_memory h_mem h_valid]
            rfl
          refine Follows.lift_bind (fun maximum' h_eq => ?_) nofun
          injection h_eq with h_eq
          rw [← h_eq]
          refine Follows.bind (snapshotBucketState_stands h_stands₂ h_mem maximum)
            (fun _ s₄ ⟨h_frames₄, h_agrees⟩ => ?_) fun e s₄ ⟨h_frames₄, h_agrees⟩ => ?_
          · obtain ⟨_, m', h_ok, _, h_stands₄⟩ := h_agrees
            cases h_ok
            obtain ⟨caches, h_client₄⟩ := h_frames₄.client
            rw [h_relocks.client] at h_client₄
            have h_key : s₂.client.bucketKey id = s₄.client.bucketKey id := by
              rw [h_client₄, h_relocks.client]
              rfl
            rw [h_key]
            -- the bucket stands anchored under its old limit; what is left changes the limit alone
            apply Follows.mono (configure_stands h_mem h_stands₄ maximum)
            rintro _ s₅ ⟨_, rfl, h_locks, ⟨caches₅, defaults, h_client₅⟩, h_stands₅⟩
            rw [h_client₄] at h_client₅
            refine ⟨h_locks.trans h_frames₄.locks, ?_, ⟨caches₅, defaults, h_client₅⟩, .done, _,
              h_memory, rfl, configuredLimits_stands h_stands₅⟩
            rw [h_client₅]
            rfl
          · obtain ⟨h_error, h_stands₄⟩ := h_agrees
            obtain ⟨h_same, h_client₄⟩ := h_attributes s₄ h_frames₄
            exact ⟨h_frames₄.locks, h_same, h_client₄, .inl (h_error.resolve_right nofun), h_stands₄⟩
      · rintro result s₂ s₃ h_relocks ⟨h_client, h_agrees⟩
        rw [h_relocks.client]
        exact ⟨h_client, h_relocks.agrees h_agrees⟩
    refine Follows.bind h_locked (fun _ s₂ h_agrees => ?_) fun e s₂ h_agrees => h_agrees
    have h_suspend : Alone t (fun _ s' => s' = s₂) (send .suspend) s₂ := send_alone fun _ _ => rfl
    apply Follows.mono h_suspend
    rintro _ s₃ ⟨_, rfl, h_s₃⟩
    rw [h_s₃]
    exact h_agrees
  · rw [if_pos h_mem]
    refine ⟨h_idle, ⟨s.client.caches, s.client.maxCapacityDefault, rfl⟩, .inr ?_, h_stands⟩
    unfold MemoryBackend.applyConfiguredMaxCapacity MemoryBackend.setMaxCapacity
    rw [if_pos h_mem]
    rfl

end Limits

end RedisBackend

end TokenThrottle
