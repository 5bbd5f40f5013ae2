/-
  TokenThrottle.Redis.Simulation

  When the records that a Redis client reads stand for a memory backend, and what the parts of
  a call make of that while nothing else happens on the server.

  * `RecordsSim` is one bucket: its pair of state keys, and either no override or one that was
    set under the configured limit.  Confirmed state is there, so no read takes it for lost.
  * A read leaves the relation as it is and finds the memory backend's capacities and limits
    (`getCapacitiesUnsafe_stands`); a write sets them (`StandsFor.write`).
  * The reservation records are changed by `StandsFor.record`, `.forget` and `.close`.
-/
import TokenThrottle.Redis.LaterAttempt
import TokenThrottle.Sqlite.RefinesMemory

namespace TokenThrottle

open Theory (Program)
open Theory.Program
open RedisBackend (normalizedAmount idsOf limitOf maxCapacities)

/-! ## The relation -/

/-- The records of a bucket that stand for a memory bucket under a configured limit. -/
structure RecordsSim (configured : MaxCapacity) (server : RedisServer) (key : BucketKey)
    {id : BucketId} (bucket : MemoryBucket id) : Prop where
  state : server.state key = ⟨bucket.lastChecked, bucket.capacity⟩
  paired : bucket.lastChecked.isSome = bucket.capacity.isSome
  limit : (server.maxCapacityOverride key = none ∧ server.overrideExpiry key = none ∧
      bucket.maxCapacity = configured) ∨
    server.maxCapacityOverride key = some ⟨configured, bucket.maxCapacity⟩

/-- The reservation records stand for the live markers and the refunded ids. -/
structure ReservationsSim (client : RedisClient) (server : RedisServer) (m : MemoryBackend) :
    Prop where
  marker : ∀ rid, server.acquired (client.reservationKey rid) =
    (m.acquiredReservationValues rid).map fun live => ⟨rid, client.modelFamily, live.1, live.2⟩
  tombstone : ∀ rid, (server.refundDedup (client.reservationKey rid)).isSome = true ↔
    rid ∈ m.refundedReservationIdOrder
  exclusive : ∀ rid, (m.acquiredReservationValues rid).isSome = true →
    rid ∉ m.refundedReservationIdOrder
  drawn : ∀ rid token, server.refundDedup (client.reservationKey rid) = some token →
    token < server.nextToken

/-- What a client reads stands for a memory backend. -/
structure Session.StandsFor (s : Session) (m : MemoryBackend) : Prop where
  buckets_eq : s.client.sortedBuckets = m.buckets
  bucket : ∀ id ∈ m.buckets, RecordsSim (s.client.maxCapacityDefault id) s.server
    (s.client.bucketKey id) (m.bucket id)
  confirmed : ∀ id ∈ m.buckets,
    (s.client.caches.stateConfirmedAtServerTime id).isSome = true →
      (m.bucket id).lastChecked.isSome = true
  reservations : ReservationsSim s.client s.server m

/-- The locks and the attributes of the client stay, its caches aside. -/
structure Session.Frames (s s' : Session) : Prop where
  locks : s'.server.locks = s.server.locks
  client : ∃ caches, s'.client = { s.client with caches := caches }

variable {s s' s'' : Session} {m : MemoryBackend} {t : ℚ} {id : BucketId}

theorem Session.Frames.refl (s : Session) : s.Frames s := ⟨rfl, s.client.caches, rfl⟩

theorem Session.Frames.trans (h_first : s.Frames s') (h_second : s'.Frames s'') :
    s.Frames s'' := by
  obtain ⟨h_locks, caches, h_client⟩ := h_first
  obtain ⟨h_locks', caches', h_client'⟩ := h_second
  exact ⟨h_locks'.trans h_locks, caches', by rw [h_client', h_client]⟩

theorem Session.Frames.bucketKeys (h_frames : s.Frames s') :
    s'.client.bucketKeys = s.client.bucketKeys := by
  obtain ⟨caches, h_client⟩ := h_frames.client
  rw [h_client]
  rfl

theorem Session.Frames.holds (h_frames : s.Frames s') {stack : RedisBackend.LockStack}
    (h_holds : s.Holds stack) : s'.Holds stack := by
  intro lock h_mem
  rw [h_frames.locks]
  exact h_holds lock h_mem

namespace Session.StandsFor

theorem mem_bucketKeys (h_stands : s.StandsFor m) :
    s.client.bucketKey id ∈ s.client.bucketKeys ↔ id ∈ m.buckets := by
  unfold RedisClient.bucketKeys
  rw [List.mem_map, h_stands.buckets_eq]
  constructor
  · rintro ⟨id', h_mem, h_key⟩
    have h_id : id' = id := congrArg BucketKey.id h_key
    rwa [← h_id]
  · exact fun h_mem => ⟨id, h_mem, rfl⟩

theorem idsOf_bucketKeys (h_stands : s.StandsFor m) : idsOf s.client.bucketKeys = m.bucketIds := by
  unfold idsOf MemoryBackend.bucketIds
  rw [RedisClient.bucketKeys_ids, h_stands.buckets_eq]

theorem metricNames_eq (h_stands : s.StandsFor m) :
    s.client.metricNames = m.usageMetricNames := by
  unfold RedisClient.metricNames RedisClient.bucketIds MemoryBackend.usageMetricNames
    MemoryBackend.bucketIds
  rw [h_stands.buckets_eq]

/-! ### What a read finds -/

/-- The pair of a bucket is whole, or missing and not missed. -/
theorem normalized (h_stands : s.StandsFor m) (h_mem : id ∈ m.buckets) (t : ℚ) :
    s.normalized t (s.client.bucketKey id) =
      ⟨(m.bucket id).lastChecked, (m.bucket id).capacity⟩ := by
  have h_state := (h_stands.bucket id h_mem).state
  have h_paired := (h_stands.bucket id h_mem).paired
  unfold Session.normalized
  rw [h_state]
  cases h_last : (m.bucket id).lastChecked with
  | some last =>
    rw [h_last] at h_paired
    obtain ⟨stored, h_stored⟩ := Option.isSome_iff_exists.mp h_paired.symm
    rw [h_stored]
    rfl
  | none =>
    rw [h_last] at h_paired
    have h_none : (m.bucket id).capacity = none := by
      rw [← Option.not_isSome_iff_eq_none, ← h_paired]
      exact Bool.false_ne_true
    have h_unconfirmed : s.client.caches.stateConfirmedAtServerTime id = none := by
      rw [← Option.not_isSome_iff_eq_none]
      intro h_confirmed
      have h_there := h_stands.confirmed id h_mem h_confirmed
      rw [h_last] at h_there
      cases h_there
    have h_unsuspected : s.client.stateLossSuspected id t = false := by
      unfold RedisClient.stateLossSuspected
      rw [h_unconfirmed]
      rfl
    rw [h_none]
    show BucketFields.normalize ⟨none, none⟩ t (s.client.stateLossSuspected id t) = _
    rw [h_unsuspected]
    rfl

/-- An override is one that was set under the configured limit, and without one there is
    no history of one. -/
theorem override (h_stands : s.StandsFor m) (h_mem : id ∈ m.buckets) :
    (s.override (s.client.bucketKey id)).getD (s.client.maxCapacityDefault id) =
        (m.bucket id).maxCapacity ∧
      (s.override (s.client.bucketKey id) = none →
        s.server.overrideExpiry (s.client.bucketKey id) = none) := by
  unfold Session.override RedisClient.deserializeMaxCapacityOverride
  obtain ⟨h_record, h_history, h_limit⟩ | h_record := (h_stands.bucket id h_mem).limit
  · rw [h_record]
    exact ⟨h_limit.symm, fun _ => h_history⟩
  · rw [h_record]
    show (if isclose _ _ = true then _ else _ : Option MaxCapacity).getD _ = _ ∧ _
    dsimp only
    have h_same : isclose (s.client.maxCapacityDefault id).value
        (s.client.maxCapacityDefault (s.client.bucketKey id).id).value = true := isclose_self _
    rw [if_pos h_same]
    exact ⟨rfl, nofun⟩

theorem limitOf_eq (h_stands : s.StandsFor m) (h_mem : id ∈ m.buckets) :
    limitOf s (s.client.bucketKey id) = (m.bucket id).maxCapacity :=
  (h_stands.override h_mem).1

/-- No override has expired, so the time since the last write counts at one rate. -/
theorem accrued (h_stands : s.StandsFor m) (h_mem : id ∈ m.buckets) (last stored rate : ℚ) :
    accrueWithExpiry (s.server.overrideExpiry (s.client.bucketKey id))
        (s.override (s.client.bucketKey id)) (s.client.maxCapacityDefault id) id last t stored
        rate = stored + max 0 (t - last) * rate := by
  cases h_override : s.override (s.client.bucketKey id) with
  | some value => exact accrueWithExpiry_overridden rfl
  | none =>
    rw [(h_stands.override h_mem).2 h_override]
    rfl

/-- A read of a bucket computes the memory bucket's capacity. -/
theorem calculated (h_stands : s.StandsFor m) (h_mem : id ∈ m.buckets) (h_time : 0 ≤ t) :
    ∃ isFreshStart, s.calculated t (s.client.bucketKey id) =
      .ok ⟨(m.bucket id).capacityAt t, isFreshStart⟩ := by
  have h_paired := (h_stands.bucket id h_mem).paired
  have h_limit := (h_stands.override h_mem).1
  have h_accrued := fun last stored rate => h_stands.accrued (t := t) h_mem last stored rate
  unfold Session.calculated MemoryBucket.capacityAt MemoryBucket.ratePerSec
  rw [h_stands.normalized h_mem]
  show ∃ isFreshStart, calculateWithExpiry _ _ (s.client.maxCapacityDefault id) id _ _ t = _
  cases h_last : (m.bucket id).lastChecked with
  | none =>
    rw [h_last] at h_paired
    have h_none : (m.bucket id).capacity = none := by
      rw [← Option.not_isSome_iff_eq_none, ← h_paired]
      exact Bool.false_ne_true
    rw [h_none]
    dsimp only
    rw [calculateWithExpiry_none h_time, h_limit]
    exact ⟨true, rfl⟩
  | some last =>
    rw [h_last] at h_paired
    obtain ⟨stored, h_stored⟩ := Option.isSome_iff_exists.mp h_paired.symm
    rw [h_stored]
    dsimp only
    rw [calculateWithExpiry_some _ _ h_time, h_limit, h_accrued]
    exact ⟨false, rfl⟩

/-- A read of all buckets changes nothing that the relation looks at. -/
theorem read {capacities : Capacities} (h_stands : s.StandsFor m) (h_time : 0 ≤ t)
    (h_leaves : RedisBackend.ReadLeaves s t s.client.bucketKeys capacities s') :
    s'.StandsFor m ∧ s.Frames s' ∧
      ∀ id ∈ m.buckets, capacities id = m.capacityAt t id ∧
        maxCapacities s'.client id = m.maxCapacity id := by
  have h_leavesBucket := h_leaves.bucket
  have h_cached : ∀ id, s.client.bucketKey id ∈ s.client.bucketKeys →
      s'.client.maxCapacity id = limitOf s (s.client.bucketKey id) :=
    fun id h_mem => h_leaves.maxCapacity h_mem
  obtain ⟨caches, h_client⟩ := h_leaves.client
  obtain ⟨state, overrideExpiry, h_server⟩ := h_leaves.server
  have h_key : ∀ id, s'.client.bucketKey id = s.client.bucketKey id := by
    intro id
    rw [h_client]
    rfl
  refine ⟨⟨?_, fun id h_mem => ?_, fun id h_mem h_confirmed => ?_, ?_⟩, ⟨?_, caches, h_client⟩,
    fun id h_mem => ⟨?_, ?_⟩⟩
  · rw [h_client]
    exact h_stands.buckets_eq
  · have h_bucket := h_stands.bucket id h_mem
    have h_left := h_leavesBucket _ (h_stands.mem_bucketKeys.mpr h_mem)
    have h_override : s'.server.maxCapacityOverride = s.server.maxCapacityOverride := by
      rw [h_server]
    have h_default : s'.client.maxCapacityDefault = s.client.maxCapacityDefault := by rw [h_client]
    rw [h_key, h_default]
    refine ⟨?_, h_bucket.paired, ?_⟩
    · rw [h_left.state, h_stands.normalized h_mem]
    · rw [h_override]
      obtain ⟨h_record, h_history, h_limit⟩ | h_record := h_bucket.limit
      · have h_none : s.override (s.client.bucketKey id) = none := by
          unfold Session.override
          rw [h_record]
          rfl
        exact .inl ⟨h_record, (h_left.history h_none).trans h_history, h_limit⟩
      · exact .inr h_record
  · have h_left := h_leavesBucket _ (h_stands.mem_bucketKeys.mpr h_mem)
    -- a read that finds no state withdraws the confirmation
    by_contra h_missing
    have h_last : (m.bucket id).lastChecked = none := Option.not_isSome_iff_eq_none.mp h_missing
    have h_none : (m.bucket id).capacity = none := by
      rw [← Option.not_isSome_iff_eq_none, ← (h_stands.bucket id h_mem).paired, h_last]
      exact Bool.false_ne_true
    have h_unconfirmed := h_left.unconfirmed (by rw [h_stands.normalized h_mem, h_last, h_none])
    have h_before : (s.client.caches.stateConfirmedAtServerTime id).isSome = true :=
      h_unconfirmed ▸ h_confirmed
    exact h_missing (h_stands.confirmed id h_mem h_before)
  · have h_reservations := h_stands.reservations
    rw [h_client, h_server]
    exact ⟨h_reservations.marker, h_reservations.tombstone, h_reservations.exclusive,
      h_reservations.drawn⟩
  · rw [h_server]
  · obtain ⟨isFreshStart, h_found⟩ :=
      (h_leavesBucket _ (h_stands.mem_bucketKeys.mpr h_mem)).calculated
    obtain ⟨isFreshStart', h_memory⟩ := h_stands.calculated h_mem h_time
    rw [h_memory] at h_found
    injection h_found with h_eq
    injection h_eq with h_amount
    exact h_amount.symm
  · show (s'.client.maxCapacity id).value = _
    rw [h_cached id (h_stands.mem_bucketKeys.mpr h_mem), h_stands.limitOf_eq h_mem]
    rfl

end Session.StandsFor

/-! ## Writes -/

section Writes

variable {keys : List BucketKey} {capacities : Capacities} {allowNegative : Bool}

/-- What a write stores of each bucket. -/
def writesOf (capacities : Capacities) (allowNegative : Bool) (keys : List BucketKey) :
    List (BucketKey × ℚ) :=
  keys.map fun key => (key, normalizedAmount allowNegative (capacities key.id))

theorem setStates_writesOf (server : RedisServer) (keys : List BucketKey) (key : BucketKey) :
    (server.setStates (writesOf capacities allowNegative keys) t).state key =
      if key ∈ keys then ⟨some t, some (normalizedAmount allowNegative (capacities key.id))⟩
      else server.state key := by
  unfold RedisServer.setStates writesOf
  induction keys generalizing server with
  | nil => rfl
  | cons first keys ih =>
    rw [List.map_cons, List.foldl_cons, ih]
    by_cases h_mem : key ∈ keys
    · rw [if_pos h_mem, if_pos (List.mem_cons_of_mem _ h_mem)]
    · rw [if_neg h_mem]
      show Function.update server.state first
        ⟨some t, some (normalizedAmount allowNegative (capacities first.id))⟩ key = _
      by_cases h_eq : key = first
      · rw [h_eq, Function.update_self, if_pos List.mem_cons_self]
      · rw [Function.update_of_ne h_eq, if_neg fun h => (List.mem_cons.mp h).elim h_eq h_mem]

theorem confirmWrittenState_confirmed (caches : BucketCaches) (keys : List BucketKey)
    (id : BucketId) :
    (caches.confirmWrittenState keys t).stateConfirmedAtServerTime id =
      if id ∈ keys.map BucketKey.id then some t else caches.stateConfirmedAtServerTime id := by
  unfold BucketCaches.confirmWrittenState
  induction keys generalizing caches with
  | nil => rfl
  | cons first keys ih =>
    rw [List.foldl_cons, ih, List.map_cons]
    by_cases h_mem : id ∈ keys.map BucketKey.id
    · rw [if_pos h_mem, if_pos (List.mem_cons_of_mem _ h_mem)]
    · rw [if_neg h_mem]
      show Function.update caches.stateConfirmedAtServerTime first.id (some t) id = _
      by_cases h_eq : id = first.id
      · rw [h_eq, Function.update_self, if_pos List.mem_cons_self]
      · rw [Function.update_of_ne h_eq, if_neg fun h => (List.mem_cons.mp h).elim h_eq h_mem]

/-- The session after a write that landed: the server as it is now, and the buckets
    confirmed. -/
def Session.wrote (s : Session) (server : RedisServer) (keys : List BucketKey) (t : ℚ) :
    Session where
  server := server
  client := { s.client with caches := s.client.caches.confirmWrittenState keys t }

theorem wrote_frames (s : Session) (capacities : Capacities) (allowNegative : Bool)
    (keys : List BucketKey) (t : ℚ) :
    s.Frames (s.wrote (s.server.setStates (writesOf capacities allowNegative keys) t) keys t) := by
  obtain ⟨state, h_states⟩ := @RedisBackend.setStates_state t s.server
    (writesOf capacities allowNegative keys)
  refine ⟨?_, _, rfl⟩
  show (s.server.setStates _ t).locks = _
  rw [h_states]

namespace Session.StandsFor

theorem mem_idsOf (h_keys : keys ⊆ s.client.bucketKeys) :
    s.client.bucketKey id ∈ keys ↔ id ∈ idsOf keys := by
  unfold idsOf
  rw [List.mem_toFinset, List.mem_map]
  constructor
  · exact fun h_mem => ⟨_, h_mem, rfl⟩
  · rintro ⟨key, h_mem, h_id⟩
    obtain ⟨id', _, h_key⟩ := List.mem_map.mp (h_keys h_mem)
    have h_same : id' = id := by
      rw [← h_id, ← h_key]
      rfl
    rw [← h_same, h_key]
    exact h_mem

/-- A write of some buckets sets their capacities. -/
theorem write (h_stands : s.StandsFor m) (h_keys : keys ⊆ s.client.bucketKeys)
    (capacities : Capacities) (allowNegative : Bool) (t : ℚ) :
    (s.wrote (s.server.setStates (writesOf capacities allowNegative keys) t) keys t).StandsFor
      (m.setCapacities capacities (idsOf keys) t allowNegative) := by
  have h_states := @setStates_writesOf t capacities allowNegative s.server keys
  obtain ⟨state, h_server⟩ :=
    @RedisBackend.setStates_state t s.server (writesOf capacities allowNegative keys)
  rw [h_server] at h_states ⊢
  refine ⟨h_stands.buckets_eq, fun id h_mem => ?_, fun id h_mem h_confirmed => ?_, ?_⟩
  · have h_bucket := h_stands.bucket id h_mem
    have h_state : state (s.client.bucketKey id) = _ := h_states (s.client.bucketKey id)
    show RecordsSim (s.client.maxCapacityDefault id) { s.server with state := state }
      (s.client.bucketKey id)
      (if id ∈ idsOf keys then (m.bucket id).setCapacity (capacities id) t allowNegative
        else m.bucket id)
    by_cases h_written : id ∈ idsOf keys
    · rw [if_pos h_written]
      rw [if_pos ((mem_idsOf h_keys).mpr h_written)] at h_state
      exact ⟨h_state, rfl, h_bucket.limit⟩
    · rw [if_neg h_written]
      rw [if_neg fun h => h_written ((mem_idsOf h_keys).mp h)] at h_state
      exact ⟨h_state.trans h_bucket.state, h_bucket.paired, h_bucket.limit⟩
  · show (if id ∈ idsOf keys then (m.bucket id).setCapacity (capacities id) t allowNegative
      else m.bucket id).lastChecked.isSome = true
    by_cases h_written : id ∈ idsOf keys
    · rw [if_pos h_written]
      rfl
    · rw [if_neg h_written]
      have h_same := confirmWrittenState_confirmed (t := t) s.client.caches keys id
      rw [if_neg fun h => h_written (List.mem_toFinset.mpr h)] at h_same
      have h_before : (s.client.caches.stateConfirmedAtServerTime id).isSome = true :=
        h_same ▸ h_confirmed
      exact h_stands.confirmed id h_mem h_before
  · have h_reservations := h_stands.reservations
    exact ⟨h_reservations.marker, h_reservations.tombstone, h_reservations.exclusive,
      h_reservations.drawn⟩

/-! ### Reservations -/

theorem reservationKey_inj {client : RedisClient} {rid rid' : ReservationId}
    (h_eq : client.reservationKey rid = client.reservationKey rid') : rid = rid' :=
  congrArg ReservationKey.reservationId h_eq

/-- A change of the reservation records. -/
theorem reserve {server : RedisServer} {m' : MemoryBackend} (h_stands : s.StandsFor m)
    (h_state : server.state = s.server.state)
    (h_override : server.maxCapacityOverride = s.server.maxCapacityOverride)
    (h_expiry : server.overrideExpiry = s.server.overrideExpiry)
    (h_buckets : m'.buckets = m.buckets) (h_bucket : m'.bucket = m.bucket)
    (h_reservations : ReservationsSim s.client server m') :
    (s.withServer server).StandsFor m' := by
  refine ⟨h_stands.buckets_eq.trans h_buckets.symm, fun id h_mem => ?_, fun id h_mem => ?_,
    h_reservations⟩
  · rw [h_buckets] at h_mem
    obtain ⟨h_pair, h_paired, h_limit⟩ := h_stands.bucket id h_mem
    rw [h_bucket]
    refine ⟨?_, h_paired, ?_⟩
    · show server.state _ = _
      rw [h_state]
      exact h_pair
    · show (server.maxCapacityOverride _ = _ ∧ server.overrideExpiry _ = _ ∧ _) ∨
        server.maxCapacityOverride _ = _
      rw [h_override, h_expiry]
      exact h_limit
  · rw [h_buckets] at h_mem
    rw [h_bucket]
    exact h_stands.confirmed id h_mem

variable {rid : ReservationId} {usage : FrozenUsage}

/-- A new marker is recorded in memory. -/
theorem record (h_stands : s.StandsFor m) (h_notMem : rid ∉ m.refundedReservationIdOrder) :
    (s.withServer (s.server.setMarker (s.client.reservationKey rid)
      (some ⟨rid, s.client.modelFamily, m.bucketIds, usage⟩))).StandsFor
      (m.recordAcquiredReservation rid usage) := by
  have h_reservations := h_stands.reservations
  refine h_stands.reserve rfl rfl rfl rfl rfl ⟨fun rid' => ?_, h_reservations.tombstone,
    fun rid' h_live => ?_, h_reservations.drawn⟩
  · show Function.update s.server.acquired _ _ _ =
      (Function.update m.acquiredReservationValues rid _ rid').map _
    by_cases h_eq : rid' = rid
    · rw [h_eq, Function.update_self, Function.update_self]
      rfl
    · rw [Function.update_of_ne h_eq, Function.update_of_ne fun h => h_eq (reservationKey_inj h)]
      exact h_reservations.marker rid'
  · by_cases h_eq : rid' = rid
    · rw [h_eq]
      exact h_notMem
    · have h_live : (Function.update m.acquiredReservationValues rid _ rid').isSome = true := h_live
      rw [Function.update_of_ne h_eq] at h_live
      exact h_reservations.exclusive rid' h_live

/-- A deleted marker is forgotten in memory. -/
theorem forget (h_stands : s.StandsFor m) (rid : ReservationId) :
    (s.withServer (s.server.setMarker (s.client.reservationKey rid) none)).StandsFor
      (m.forgetAcquiredReservation rid) := by
  have h_reservations := h_stands.reservations
  refine h_stands.reserve rfl rfl rfl rfl rfl ⟨fun rid' => ?_, h_reservations.tombstone,
    fun rid' h_live => ?_, h_reservations.drawn⟩
  · show Function.update s.server.acquired _ _ _ =
      (Function.update m.acquiredReservationValues rid _ rid').map _
    by_cases h_eq : rid' = rid
    · rw [h_eq, Function.update_self, Function.update_self]
      rfl
    · rw [Function.update_of_ne h_eq, Function.update_of_ne fun h => h_eq (reservationKey_inj h)]
      exact h_reservations.marker rid'
  · have h_live : (Function.update m.acquiredReservationValues rid none rid').isSome = true := h_live
    by_cases h_eq : rid' = rid
    · rw [h_eq, Function.update_self] at h_live
      cases h_live
    · rw [Function.update_of_ne h_eq] at h_live
      exact h_reservations.exclusive rid' h_live

/-- A tombstone under a drawn token is a remembered refund in memory, while this has room. -/
theorem entomb {token : Token} (h_stands : s.StandsFor m)
    (h_gone : m.acquiredReservationValues rid = none)
    (h_notMem : rid ∉ m.refundedReservationIdOrder)
    (h_cap : m.refundedReservationIdOrder.length < m.refundedReservationIdsCap)
    (h_drawn : token < s.server.nextToken) :
    (s.withServer (s.server.setTombstone (s.client.reservationKey rid) (some token))).StandsFor
      (m.rememberRefundedReservationId rid) := by
  have h_reservations := h_stands.reservations
  have h_remembered : m.rememberRefundedReservationId rid =
      { m with refundedReservationIdOrder := m.refundedReservationIdOrder ++ [rid] } := by
    unfold MemoryBackend.rememberRefundedReservationId
    rw [if_neg h_notMem]
    have h_room : (m.refundedReservationIdOrder ++ [rid]).length - m.refundedReservationIdsCap = 0 := by
      rw [List.length_append, List.length_singleton]
      omega
    dsimp only
    rw [h_room, List.drop_zero]
  rw [h_remembered]
  refine h_stands.reserve rfl rfl rfl rfl rfl ⟨h_reservations.marker, fun rid' => ?_,
    fun rid' h_live h_mem => ?_, fun rid' token' h_token => ?_⟩
  · show (Function.update s.server.refundDedup _ _ _).isSome = true ↔
      rid' ∈ m.refundedReservationIdOrder ++ [rid]
    rw [List.mem_append, List.mem_singleton]
    by_cases h_eq : rid' = rid
    · rw [h_eq, Function.update_self]
      exact iff_of_true rfl (.inr rfl)
    · rw [Function.update_of_ne fun h => h_eq (reservationKey_inj h), h_reservations.tombstone rid']
      exact ⟨.inl, fun h => h.resolve_right h_eq⟩
  · rcases List.mem_append.mp h_mem with h_old | h_new
    · exact h_reservations.exclusive rid' h_live h_old
    · have h_live : (m.acquiredReservationValues rid').isSome = true := h_live
      rw [List.mem_singleton.mp h_new, h_gone] at h_live
      cases h_live
  · have h_token : Function.update s.server.refundDedup _ _ _ = some token' := h_token
    by_cases h_eq : rid' = rid
    · rw [h_eq, Function.update_self] at h_token
      injection h_token with h_same
      rw [← h_same]
      exact h_drawn
    · rw [Function.update_of_ne fun h => h_eq (reservationKey_inj h)] at h_token
      exact h_reservations.drawn rid' token' h_token

/-- Locks and drawn tokens are not part of the relation. -/
theorem relock (h_stands : s.StandsFor m) (h_same : s'.unlocked = s.unlocked)
    (h_drawn : s.server.nextToken ≤ s'.server.nextToken) : s'.StandsFor m := by
  have h_client : s'.client = s.client := congrArg (fun s => s.client) h_same
  have h_state : s'.server.state = s.server.state := congrArg (fun s => s.server.state) h_same
  have h_override : s'.server.maxCapacityOverride = s.server.maxCapacityOverride :=
    congrArg (fun s => s.server.maxCapacityOverride) h_same
  have h_expiry : s'.server.overrideExpiry = s.server.overrideExpiry :=
    congrArg (fun s => s.server.overrideExpiry) h_same
  have h_acquired : s'.server.acquired = s.server.acquired :=
    congrArg (fun s => s.server.acquired) h_same
  have h_dedup : s'.server.refundDedup = s.server.refundDedup :=
    congrArg (fun s => s.server.refundDedup) h_same
  obtain ⟨h_marker, h_tombstone, h_exclusive, h_tokens⟩ := h_stands.reservations
  have h_reservations : ReservationsSim s.client s'.server m := by
    refine ⟨?_, ?_, h_exclusive, fun rid token h_token => ?_⟩
    · rw [h_acquired]
      exact h_marker
    · rw [h_dedup]
      exact h_tombstone
    · rw [h_dedup] at h_token
      exact (h_tokens rid token h_token).trans_le h_drawn
  have h_after := h_stands.reserve h_state h_override h_expiry rfl rfl h_reservations
  have h_session : s.withServer s'.server = s' := by
    unfold Session.withServer
    rw [← h_client]
  rwa [h_session] at h_after

end Session.StandsFor

end Writes

/-! ## Parts of a call -/

/-- A part of a call ends as the memory backend's operation does; where that one does not
    raise, it may also refuse to retain a debt.  What raises has changed nothing. -/
def Session.Agrees {α β : Type} (m : MemoryBackend)
    (memory : Except BackendError (β × MemoryBackend)) (shows : α → β → Prop)
    (result : Except BackendError α) (s : Session) : Prop :=
  match result with
  | .ok a => ∃ b m', memory = .ok (b, m') ∧ shows a b ∧ s.StandsFor m'
  | .error e => (e = .valueError .retentionTooLong ∨ memory = .error e) ∧ s.StandsFor m

section Agrees

variable {α β : Type} {shows : α → β → Prop} {result : Except BackendError α}

theorem Session.Agrees.of_ok {b : β} {m' : MemoryBackend}
    (h_agrees : s.Agrees m (.ok (b, m')) shows result)
    (h_retained : result ≠ .error (.valueError .retentionTooLong)) :
    ∃ a, result = .ok a ∧ shows a b ∧ s.StandsFor m' := by
  match result with
  | .ok a =>
    obtain ⟨b', m'', h_eq, h_shows, h_stands⟩ := h_agrees
    cases h_eq
    exact ⟨a, rfl, h_shows, h_stands⟩
  | .error e =>
    obtain ⟨h_refused | h_error, _⟩ := h_agrees
    · exact absurd (congrArg Except.error h_refused) h_retained
    · cases h_error

theorem Session.Agrees.of_error {e : BackendError}
    (h_agrees : s.Agrees m (.error e) shows result)
    (h_retained : result ≠ .error (.valueError .retentionTooLong)) :
    result = .error e ∧ s.StandsFor m := by
  match result with
  | .ok a =>
    obtain ⟨b, m', h_eq, _⟩ := h_agrees
    cases h_eq
  | .error e' =>
    obtain ⟨h_refused | h_error, h_stands⟩ := h_agrees
    · exact absurd (congrArg Except.error h_refused) h_retained
    · cases h_error
      exact ⟨rfl, h_stands⟩

end Agrees

namespace RedisBackend

variable {keys : List BucketKey} {capacities : Capacities} {allowNegative : Bool}

theorem getCapacitiesUnsafe_stands (h_stands : s.StandsFor m) (h_time : 0 ≤ t) :
    Alone t (fun read s' => s'.StandsFor m ∧ s.Frames s' ∧
        ∀ id ∈ m.buckets, read.capacities id = m.capacityAt t id ∧
          maxCapacities s'.client id = m.maxCapacity id)
      (getCapacitiesUnsafe s.client.bucketKeys t) s := by
  apply Follows.mono (getCapacitiesUnsafe_alone (bucketKeys_nodup s.client).2)
  intro result s' h_result
  match result with
  | .ok read =>
    have h_leaves : ReadLeaves s t s.client.bucketKeys read.capacities s' := h_result
    exact ⟨read, rfl, h_stands.read h_time h_leaves⟩
  | .error _ =>
    have h_negative : t < 0 := h_result
    exact absurd h_time (not_le.mpr h_negative)

theorem stateWrites_cases (client : RedisClient) (capacities : Capacities)
    (allowNegative : Bool) (keys : List BucketKey) :
    stateWrites client capacities allowNegative keys =
        .ok (writesOf capacities allowNegative keys) ∨
      stateWrites client capacities allowNegative keys =
        .error (.valueError .retentionTooLong) := by
  induction keys with
  | nil => exact .inl rfl
  | cons key keys ih =>
    unfold stateWrites
    dsimp only
    obtain ⟨ttl, _, h_ttl⟩ | h_refused := debtTtlSeconds_cases
      (normalizedAmount allowNegative (capacities key.id)) client.bucketTtlSeconds
      key.id.perSeconds (client.maxCapacity key.id).value (client.maxCapacityDefault key.id).value
    · have h_ttl : client.capacityTtl key.id (normalizedAmount allowNegative (capacities key.id))
          none = .ok ttl := h_ttl
      rw [h_ttl]
      obtain h_rest | h_rest := ih
      · rw [h_rest]
        exact .inl rfl
      · rw [h_rest]
        exact .inr rfl
    · have h_refused : client.capacityTtl key.id
          (normalizedAmount allowNegative (capacities key.id)) none = _ := h_refused
      rw [h_refused]
      exact .inr rfl

theorem queueWrites_ends (capacities : Capacities) (allowNegative : Bool)
    (keys : List BucketKey) :
    AloneEnds t (fun result s' => s' = s ∧
        (result = .ok (writesOf capacities allowNegative keys) ∨
          result = .error (.valueError .retentionTooLong)))
      (queueWrites capacities allowNegative keys) s := by
  induction keys with
  | nil => exact ⟨rfl, .inl rfl⟩
  | cons key keys ih =>
    refine client_alone.then fun client s₁ ⟨_, h_s₁⟩ => ?_
    rw [h_s₁]
    obtain ⟨ttl, _, h_ttl⟩ | h_refused := debtTtlSeconds_cases
      (normalizedAmount allowNegative (capacities key.id)) client.bucketTtlSeconds
      key.id.perSeconds (client.maxCapacity key.id).value (client.maxCapacityDefault key.id).value
    · refine Follows.lift_bind (fun _ _ => ?_) fun e h_error => ?_
      · refine (retainCapacityHistory_alone key).then fun _ s₂ h_s₂ => ?_
        rw [h_s₂]
        refine Follows.bind ih (fun writes s₃ ⟨h_s₃, h_writes⟩ => ?_) fun e s₃ ⟨h_s₃, h_error⟩ => ?_
        · obtain h_writes | h_writes := h_writes
          · injection h_writes with h_writes
            rw [h_writes]
            exact ⟨h_s₃, .inl rfl⟩
          · cases h_writes
        · obtain h_error | h_error := h_error
          · cases h_error
          · exact ⟨h_s₃, .inr h_error⟩
      · have h_ttl : client.capacityTtl key.id (normalizedAmount allowNegative (capacities key.id))
            none = .ok ttl := h_ttl
        rw [h_ttl] at h_error
        cases h_error
    · refine Follows.lift_bind (fun _ h_ok => ?_) fun e h_error => ?_
      · have h_refused : client.capacityTtl key.id
            (normalizedAmount allowNegative (capacities key.id)) none = _ := h_refused
        rw [h_refused] at h_ok
        cases h_ok
      · have h_refused : client.capacityTtl key.id
            (normalizedAmount allowNegative (capacities key.id)) none = _ := h_refused
        rw [h_refused] at h_error
        injection h_error with h_same
        rw [h_same]
        exact ⟨rfl, .inr rfl⟩

/-- The write of a pipeline, with the marker that it deletes. -/
theorem setCapacitiesUnsafe_ends (capacities : Capacities) (allowNegative : Bool)
    (keys : List BucketKey) (deleteMarker : Option ReservationKey) :
    AloneEnds t (fun result s' =>
        (result = .error (.valueError .retentionTooLong) ∧ s' = s) ∨
        (result = .ok true ∧ s' = (s.wrote (match deleteMarker with
          | none => s.server.setStates (writesOf capacities allowNegative keys) t
          | some key => (s.server.setStates (writesOf capacities allowNegative keys) t).setMarker
              key none) keys t)))
      (setCapacitiesUnsafe capacities keys t allowNegative deleteMarker) s := by
  refine Follows.bind (queueWrites_ends capacities allowNegative keys)
    (fun writes s₁ ⟨h_s₁, h_writes⟩ => ?_) fun e s₁ ⟨h_s₁, h_error⟩ => ?_
  · obtain h_writes | h_writes := h_writes
    · injection h_writes with h_writes
      rw [h_writes, h_s₁]
      have h_wrote : Alone t (fun landed s' => landed = true ∧ s' = (s.wrote (match deleteMarker with
          | none => s.server.setStates (writesOf capacities allowNegative keys) t
          | some key => (s.server.setStates (writesOf capacities allowNegative keys) t).setMarker
              key none) keys t))
          (send (.setStates (writesOf capacities allowNegative keys) t deleteMarker) >>= fun _ =>
            send (.updateCaches (.confirmWrittenState keys t)) >>= fun _ => pure true) s := by
        refine send_alone_bind fun _ _ => send_alone_bind fun _ _ => Returns.pure ⟨rfl, ?_⟩
        cases deleteMarker with
        | none => rfl
        | some key => rfl
      apply Follows.mono h_wrote
      rintro _ s' ⟨landed, rfl, rfl, h_s'⟩
      exact .inr ⟨rfl, h_s'⟩
    · cases h_writes
  · obtain h_error | h_error := h_error
    · cases h_error
    · injection h_error with h_same
      rw [h_same]
      exact .inl ⟨rfl, h_s₁⟩

/-! ### The write of a consumption -/

section Consumption

variable {usage : FrozenUsage} {reservationId : Option ReservationId} {lifetime : Option ℚ}

/-- A consumption of the memory backend once its capacities are computed: whether it wrote. -/
def consumption (m : MemoryBackend) (capacities : Capacities) (usage : FrozenUsage)
    (reservationId : Option ReservationId) (t : ℚ) (allowNegative : Bool) :
    Except BackendError (Bool × MemoryBackend) :=
  (m.isReplayed reservationId usage).map fun replayed =>
    if replayed then (false, m)
    else (true, (m.setCapacities capacities m.bucketIds t allowNegative).withReservation
      reservationId (·.recordAcquiredReservation · usage))

/-- The marker arguments of a consumption that passes their checks. -/
theorem acquiredMarker_eq {client : RedisClient}
    (h_usage : ∀ metric ∈ usage.keys, 0 ≤ usage.amount metric)
    (h_lifetime : reservationId.isSome = true → lifetime.any (0 < ·) = true) :
    acquiredMarker client reservationId lifetime usage keys = .ok (reservationId.map fun rid =>
      (client.reservationKey rid, ⟨rid, client.modelFamily, idsOf keys, usage⟩)) := by
  cases reservationId with
  | none => rfl
  | some rid =>
    have h_valid : ¬ ∃ metric ∈ usage.keys, usage.amount metric < 0 :=
      fun ⟨metric, h_mem, h_lt⟩ => not_le.mpr h_lt (h_usage metric h_mem)
    unfold acquiredMarker redisAcquiredMarkerValue
    dsimp only
    rw [if_neg h_valid]
    show (if lifetime.any (0 < ·) = true then _ else _) = _
    rw [if_pos (h_lifetime rfl)]
    rfl

theorem acquireMarkerMatches_alone (key : ReservationKey) (marker : AcquiredMarker) :
    Alone t (fun matched s' => s' = s ∧ matched = decide (s.server.acquired key = some marker))
      (acquireMarkerMatches key marker) s := by
  have h_found : Alone t (fun found s' => found = s.server.acquired key ∧ s' = s)
      (send (.getMarker key)) s := send_alone fun _ _ => ⟨rfl, rfl⟩
  refine h_found.attempt.bind fun found s₁ h_s₁ => ?_
  obtain ⟨_, rfl, rfl, rfl⟩ := h_s₁
  exact Returns.pure ⟨rfl, rfl⟩

/-- What is no replay of a live marker, and not new, is a duplicate. -/
theorem isReplayed_duplicate {rid : ReservationId} {e : BackendError}
    (h_error : m.isReplayed (some rid) usage = .error e) :
    e = .duplicateRefund .duplicateAcquire ∧
      m.acquiredReservationValues rid ≠ some (m.bucketIds, usage) := by
  unfold MemoryBackend.isReplayed MemoryBackend.isReplayedAcquire at h_error
  cases h_live : m.acquiredReservationValues rid with
  | some live =>
    simp only [h_live] at h_error
    split at h_error
    · cases h_error
    · rename_i h_differs
      cases h_error
      exact ⟨rfl, fun h_eq => h_differs (Option.some.inj h_eq)⟩
  | none =>
    simp only [h_live] at h_error
    split at h_error
    · cases h_error
      exact ⟨rfl, nofun⟩
    · cases h_error

/-- The script sees what the memory backend's replay check sees. -/
theorem acquireMarkerSetScript_stands (h_stands : s.StandsFor m) (rid : ReservationId)
    (usage : FrozenUsage) (writes : List (BucketKey × ℚ)) :
    s.server.acquireMarkerSetScript (s.client.reservationKey rid)
        ⟨rid, s.client.modelFamily, m.bucketIds, usage⟩ writes t =
      match m.isReplayed (some rid) usage with
      | .ok true => (.replayedAcquire, s.server)
      | .ok false => (.ok, (s.server.setStates writes t).setMarker (s.client.reservationKey rid)
          (some ⟨rid, s.client.modelFamily, m.bucketIds, usage⟩))
      | .error _ => (.duplicateAcquire, s.server) := by
  have h_reservations := h_stands.reservations
  unfold RedisServer.acquireMarkerSetScript MemoryBackend.isReplayed
    MemoryBackend.isReplayedAcquire
  rw [h_reservations.marker rid]
  cases h_live : m.acquiredReservationValues rid with
  | some live =>
    by_cases h_same : live = (m.bucketIds, usage)
    · simp [h_live, h_same]
    · have h_differs : (⟨rid, s.client.modelFamily, live.1, live.2⟩ : AcquiredMarker) ≠
          ⟨rid, s.client.modelFamily, m.bucketIds, usage⟩ := by
        intro h_eq
        injection h_eq with _ _ h_ids h_usage
        exact h_same (Prod.ext h_ids h_usage)
      simp [h_live, h_same, h_differs]
  | none =>
    by_cases h_refunded : rid ∈ m.refundedReservationIdOrder
    · have h_tombstone := (h_reservations.tombstone rid).mpr h_refunded
      simp [h_live, h_tombstone, h_refunded]
    · have h_clear : (s.server.refundDedup (s.client.reservationKey rid)).isSome = false := by
        rw [← Bool.not_eq_true, h_reservations.tombstone rid]
        exact h_refunded
      simp [h_live, h_clear, h_refunded]

/-- A write of a consumption is one of the memory backend. -/
theorem writeConsumption_stands (h_stands : s.StandsFor m) (capacities : Capacities)
    (allowNegative : Bool) (reservationId : Option ReservationId) (usage : FrozenUsage) :
    AloneEnds t (fun result s' => s.Frames s' ∧
        Session.Agrees m (consumption m capacities usage reservationId t allowNegative) Eq result s')
      (writeConsumption capacities s.client.bucketKeys t allowNegative (reservationId.map fun rid =>
        (s.client.reservationKey rid,
          ⟨rid, s.client.modelFamily, idsOf s.client.bucketKeys, usage⟩))) s := by
  have h_written := h_stands.write (List.Subset.refl _) capacities allowNegative t
  rw [h_stands.idsOf_bucketKeys] at h_written ⊢
  have h_frames := wrote_frames s capacities allowNegative s.client.bucketKeys t
  cases reservationId with
  | none =>
    apply Follows.mono (setCapacitiesUnsafe_ends capacities allowNegative _ none)
    rintro _ s' (⟨rfl, h_s'⟩ | ⟨rfl, h_s'⟩)
    · rw [h_s']
      exact ⟨.refl s, .inl rfl, h_stands⟩
    · rw [h_s']
      exact ⟨h_frames, true, _, rfl, rfl, h_written⟩
  | some rid =>
    refine client_alone.then fun client s₁ ⟨h_client, h_s₁⟩ => ?_
    rw [h_client, h_s₁]
    obtain h_writes | h_writes :=
      stateWrites_cases s.client capacities allowNegative s.client.bucketKeys
    · rw [h_writes]
      refine Follows.lift_bind (fun writes h_eq => ?_) nofun
      injection h_eq with h_eq
      rw [← h_eq]
      refine (retainHistories_alone _).then fun _ s₂ h_s₂ => ?_
      rw [h_s₂]
      have h_script := acquireMarkerSetScript_stands (t := t) h_stands rid usage
        (writesOf capacities allowNegative s.client.bucketKeys)
      have h_sent : Alone t (fun status s' => status = (s.server.acquireMarkerSetScript
            (s.client.reservationKey rid) ⟨rid, s.client.modelFamily, m.bucketIds, usage⟩
            (writesOf capacities allowNegative s.client.bucketKeys) t).1 ∧
          s' = s.withServer (s.server.acquireMarkerSetScript
            (s.client.reservationKey rid) ⟨rid, s.client.modelFamily, m.bucketIds, usage⟩
            (writesOf capacities allowNegative s.client.bucketKeys) t).2)
          (send (.acquireMarkerSetScript (s.client.reservationKey rid)
            ⟨rid, s.client.modelFamily, m.bucketIds, usage⟩
            (writesOf capacities allowNegative s.client.bucketKeys) t)) s :=
        send_alone fun _ _ => ⟨rfl, rfl⟩
      rw [h_script] at h_sent
      refine h_sent.attempt.then fun status s₃ h_s₃ => ?_
      obtain ⟨_, rfl, rfl, rfl⟩ := h_s₃
      have h_memory : consumption m capacities usage (some rid) t allowNegative =
        (m.isReplayed (some rid) usage).map _ := rfl
      rw [h_memory]
      cases h_replayed : m.isReplayed (some rid) usage with
      | error e =>
        obtain ⟨h_e, h_notLive⟩ := isReplayed_duplicate h_replayed
        -- the marker that is there, if there is one, is not the caller's
        have h_differs : decide (s.server.acquired (s.client.reservationKey rid) =
            some ⟨rid, s.client.modelFamily, m.bucketIds, usage⟩) = false := by
          rw [decide_eq_false_iff_not, h_stands.reservations.marker rid]
          intro h_found
          obtain ⟨live, h_live, h_eq⟩ := Option.map_eq_some_iff.mp h_found
          injection h_eq with _ _ h_ids h_usage
          exact h_notLive (h_live.trans (congrArg some (Prod.ext h_ids h_usage)))
        refine (acquireMarkerMatches_alone _ _).then fun matched s₄ ⟨h_s₄, h_matched⟩ => ?_
        have h_matched : matched = false := h_matched.trans h_differs
        rw [h_matched, h_s₄, h_e]
        exact ⟨.refl s, .inr rfl, h_stands⟩
      | ok replayed =>
        cases replayed with
        | true => exact ⟨.refl s, false, m, rfl, rfl, h_stands⟩
        | false =>
          have h_notMem := (isReplayed_false_new h_replayed rid rfl).2
          have h_recorded := @Session.StandsFor.record _ _ rid usage h_written h_notMem
          have h_wrote : Alone t (fun landed s' => landed = true ∧ s' = (s.wrote
              ((s.server.setStates (writesOf capacities allowNegative s.client.bucketKeys)
                t).setMarker (s.client.reservationKey rid)
                (some ⟨rid, s.client.modelFamily, m.bucketIds, usage⟩)) s.client.bucketKeys t))
              (send (.updateCaches (.confirmWrittenState s.client.bucketKeys t)) >>= fun _ =>
                pure true)
              (s.withServer ((s.server.setStates (writesOf capacities allowNegative
                s.client.bucketKeys) t).setMarker (s.client.reservationKey rid)
                (some ⟨rid, s.client.modelFamily, m.bucketIds, usage⟩))) :=
            send_alone_bind fun _ _ => Returns.pure ⟨rfl, rfl⟩
          apply Follows.mono h_wrote
          rintro _ s' ⟨landed, rfl, rfl, h_s'⟩
          rw [h_s']
          exact ⟨⟨h_frames.locks, h_frames.client⟩, true, _, rfl, rfl, h_recorded⟩
    · rw [h_writes]
      refine Follows.lift_bind nofun fun e h_error => ?_
      injection h_error with h_e
      exact ⟨.refl s, .inl h_e.symm, h_stands⟩

end Consumption

/-! ### The write of a refund -/

section Refund

variable {rid : ReservationId} {ids : Finset BucketId} {usage : FrozenUsage}

/-- The script sees what the memory backend's check of a refund sees. -/
theorem refundWithMarkerScript_stands {token : Token} (h_stands : s.StandsFor m)
    (h_live : ∀ live, m.acquiredReservationValues rid = some live → live = (ids, usage))
    (h_drawn : ∀ token', s.server.refundDedup (s.client.reservationKey rid) = some token' →
      token' ≠ token) (writes : List (BucketKey × ℚ)) :
    s.server.refundWithMarkerScript (s.client.reservationKey rid)
        ⟨rid, s.client.modelFamily, ids, usage⟩ token writes t =
      match m.acquiredReservationValues rid with
      | some _ => (.ok, ((s.server.setStates writes t).setMarker (s.client.reservationKey rid)
          none).setTombstone (s.client.reservationKey rid) (some token))
      | none => if rid ∈ m.refundedReservationIdOrder then (.duplicateRefund, s.server)
          else (.unknownReservation, s.server) := by
  obtain ⟨h_marker, h_tombstone, h_exclusive, _⟩ := h_stands.reservations
  unfold RedisServer.refundWithMarkerScript
  rw [h_marker rid]
  cases h_found : m.acquiredReservationValues rid with
  | some live =>
    have h_notMem := h_exclusive rid (by rw [h_found]; rfl)
    have h_clear : (s.server.refundDedup (s.client.reservationKey rid)).isSome = false := by
      rw [← Bool.not_eq_true, h_tombstone rid]
      exact h_notMem
    rw [h_live live h_found]
    simp [h_clear]
  | none =>
    by_cases h_refunded : rid ∈ m.refundedReservationIdOrder
    · obtain ⟨token', h_token⟩ := Option.isSome_iff_exists.mp ((h_tombstone rid).mpr h_refunded)
      simp [h_token, h_drawn token' h_token, h_refunded]
    · have h_clear : s.server.refundDedup (s.client.reservationKey rid) = none := by
        rw [← Option.not_isSome_iff_eq_none, h_tombstone rid]
        exact h_refunded
      simp [h_clear, h_refunded]

/-- A commit of a refund is one of the memory backend. -/
theorem commitRefund_stands (h_stands : s.StandsFor m) (h_keys : keys ⊆ s.client.bucketKeys)
    (capacities : Capacities)
    (h_live : ∀ live, m.acquiredReservationValues rid = some live → live = (ids, usage))
    (h_cap : m.refundedReservationIdOrder.length < m.refundedReservationIdsCap) :
    AloneEnds t (fun result s' => s.Frames s' ∧
        Session.Agrees m ((m.requireAcquired (some rid)).map fun _ =>
          ((), (m.setCapacities capacities (idsOf keys) t true).closeReservation rid)) Eq result s')
      (commitRefundWithAcquireMarkerUnsafe capacities keys t (s.client.reservationKey rid)
        ⟨rid, s.client.modelFamily, ids, usage⟩) s := by
  -- the tombstone's token is drawn first
  have h_uuid : Alone t (fun token s' => token = s.server.nextToken ∧
      s' = s.withServer { s.server with nextToken := s.server.nextToken + 1 }) (send .uuid) s :=
    send_alone fun _ _ => ⟨rfl, rfl⟩
  refine h_uuid.then fun token s₁ ⟨h_token, h_s₁⟩ => ?_
  have h_stands₁ : s₁.StandsFor m := by
    rw [h_s₁]
    exact h_stands.relock rfl (Nat.le_succ _)
  have h_frames₁ : s.Frames s₁ := by
    rw [h_s₁]
    exact ⟨rfl, _, rfl⟩
  have h_client₁ : s₁.client = s.client := by
    rw [h_s₁]
    rfl
  have h_drawn : token < s₁.server.nextToken := by
    rw [h_s₁, h_token]
    exact Nat.lt_succ_self _
  have h_fresh : ∀ token', s₁.server.refundDedup (s₁.client.reservationKey rid) = some token' →
      token' ≠ token := by
    intro token' h_some
    have h_before : s.server.refundDedup (s.client.reservationKey rid) = some token' := by
      rw [h_s₁] at h_some
      exact h_some
    rw [h_token]
    exact (h_stands.reservations.drawn rid token' h_before).ne
  rw [← h_client₁] at h_keys ⊢
  refine client_alone.then fun client s₂ ⟨h_client, h_s₂⟩ => ?_
  rw [h_client, h_s₂]
  obtain h_writes | h_writes := stateWrites_cases s₁.client capacities true keys
  · rw [h_writes]
    refine Follows.lift_bind (fun writes h_eq => ?_) nofun
    injection h_eq with h_eq
    rw [← h_eq]
    refine (retainHistories_alone _).then fun _ s₃ h_s₃ => ?_
    rw [h_s₃]
    have h_script := refundWithMarkerScript_stands (t := t) h_stands₁ h_live h_fresh
      (writesOf capacities true keys)
    have h_sent : Alone t (fun status s' => status = (s₁.server.refundWithMarkerScript
          (s₁.client.reservationKey rid) ⟨rid, s₁.client.modelFamily, ids, usage⟩ token
          (writesOf capacities true keys) t).1 ∧
        s' = s₁.withServer (s₁.server.refundWithMarkerScript
          (s₁.client.reservationKey rid) ⟨rid, s₁.client.modelFamily, ids, usage⟩ token
          (writesOf capacities true keys) t).2)
        (send (.refundWithMarkerScript (s₁.client.reservationKey rid)
          ⟨rid, s₁.client.modelFamily, ids, usage⟩ token (writesOf capacities true keys) t)) s₁ :=
      send_alone fun _ _ => ⟨rfl, rfl⟩
    rw [h_script] at h_sent
    refine h_sent.attempt.then fun status s₄ h_s₄ => ?_
    obtain ⟨_, rfl, rfl, rfl⟩ := h_s₄
    unfold MemoryBackend.requireAcquired
    dsimp only
    cases h_found : m.acquiredReservationValues rid with
    | none =>
      by_cases h_refunded : rid ∈ m.refundedReservationIdOrder
      · simp only [if_pos h_refunded]
        exact ⟨h_frames₁, .inr rfl, h_stands₁⟩
      · simp only [if_neg h_refunded]
        exact ⟨h_frames₁, .inr rfl, h_stands₁⟩
    | some live =>
      have h_notMem := h_stands.reservations.exclusive rid (by rw [h_found]; rfl)
      obtain ⟨state, h_states⟩ := @setStates_state t s₁.server (writesOf capacities true keys)
      have h_written := h_stands₁.write h_keys capacities true t
      have h_closed := @Session.StandsFor.entomb _ _ rid token (h_written.forget rid)
        (Function.update_self ..) h_notMem h_cap (by rw [h_states]; exact h_drawn)
      have h_wrote : Alone t (fun _ s' => s' = (s₁.wrote (((s₁.server.setStates
            (writesOf capacities true keys) t).setMarker (s₁.client.reservationKey rid)
            none).setTombstone (s₁.client.reservationKey rid) (some token)) keys t))
          (send (.updateCaches (.confirmWrittenState keys t)))
          (s₁.withServer (((s₁.server.setStates (writesOf capacities true keys) t).setMarker
            (s₁.client.reservationKey rid) none).setTombstone (s₁.client.reservationKey rid)
            (some token))) := send_alone fun _ _ => rfl
      apply Follows.mono h_wrote
      rintro _ s' ⟨_, rfl, h_s'⟩
      rw [h_s']
      refine ⟨h_frames₁.trans ⟨?_, _, rfl⟩, (), _, rfl, rfl, h_closed⟩
      show (s₁.server.setStates _ t).locks = _
      rw [h_states]
  · rw [h_writes]
    refine Follows.lift_bind nofun fun e h_error => ?_
    injection h_error with h_e
    exact ⟨h_frames₁, .inl h_e.symm, h_stands₁⟩

end Refund

end RedisBackend

end TokenThrottle
