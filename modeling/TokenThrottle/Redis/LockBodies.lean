/-
  TokenThrottle.Redis.LockBodies

  What the Redis backend does between its locks: every function but those of the lock stack
  itself leaves the locks alone, and installs nothing.  One lemma for each function, in the
  order of `Redis.Backend`.
-/
import TokenThrottle.Redis.Backend

namespace TokenThrottle

open Theory (Program)
open Theory.Program

/-- The command neither takes nor releases a lock, and brings no other buckets. -/
def Command.betweenLocks : Command → Bool
  | .acquireLock _ _ | .releaseLock _ _ | .installReconfiguredState _ => false
  | _ => true

/-- A program that leaves the locks alone. -/
abbrev BetweenLocks {α : Type} (p : RedisProgram α) : Prop :=
  p.Issues fun command => command.betweenLocks = true

theorem send_betweenLocks {command : Command} (h_between : command.betweenLocks = true) :
    BetweenLocks (send command) :=
  .perform h_between

/-! ## One bucket -/

/-- A backend under construction is at hand, the running one is asked for its attributes. -/
theorem ownerClient_betweenLocks (owner : BucketOwner) : BetweenLocks owner.client := by
  cases owner with
  | running => exact send_betweenLocks rfl
  | rebuilt client => exact .pure client

/-- The caches belong to the process, or to the backend under construction. -/
theorem updateCaches_betweenLocks (owner : BucketOwner) (f : BucketCaches → BucketCaches) :
    BetweenLocks (owner.updateCaches f) := by
  cases owner with
  | running => exact (send_betweenLocks rfl).bind fun _ => .pure _
  | rebuilt client => exact .pure _

/-- The expiry of the state is read, and moved if there is one. -/
theorem retainCapacityHistory_betweenLocks (key : BucketKey) :
    BetweenLocks (RedisBucket.retainCapacityHistory key) :=
  (send_betweenLocks rfl).bind fun _ => .when (send_betweenLocks rfl)

/-- Only the expiry of the override moves, or without an override that of the state. -/
theorem refreshMaxCapacityOverrideTtl_betweenLocks (owner : BucketOwner) (key : BucketKey)
    (override : Option MaxCapacity) :
    BetweenLocks (RedisBucket.refreshMaxCapacityOverrideTtl owner key override) := by
  cases override with
  | none => exact retainCapacityHistory_betweenLocks key
  | some value =>
    exact (send_betweenLocks rfl).bind fun _ => (ownerClient_betweenLocks owner).bind fun _ =>
      (send_betweenLocks rfl).bind fun _ => .pure ()

/-- A write of one bucket: its retention is computed before the pipeline is sent. -/
theorem setCapacity_betweenLocks (owner : BucketOwner) (key : BucketKey)
    (newCapacity currentTime : ℚ) (retention : Option MaxCapacity) :
    BetweenLocks (RedisBucket.setCapacity owner key newCapacity currentTime retention) :=
  (ownerClient_betweenLocks owner).bind fun _ => (Issues.lift _).bind fun _ =>
    (retainCapacityHistory_betweenLocks key).bind fun _ => (send_betweenLocks rfl).bind fun _ =>
      updateCaches_betweenLocks owner _

/-- A new override, with the time and the expiry it is stored with. -/
theorem bucketSetMaxCapacity_betweenLocks (key : BucketKey) (value : MaxCapacity) :
    BetweenLocks (RedisBucket.setMaxCapacity key value) :=
  (send_betweenLocks rfl).bind fun _ => (send_betweenLocks rfl).bind fun _ =>
    (send_betweenLocks rfl).bind fun _ => send_betweenLocks rfl

/-- The override is deleted in Redis and in the cache of its bucket. -/
theorem clearMaxCapacityOverride_betweenLocks (owner : BucketOwner) (key : BucketKey) :
    BetweenLocks (RedisBucket.clearMaxCapacityOverride owner key) :=
  (send_betweenLocks rfl).bind fun _ => updateCaches_betweenLocks owner _

namespace RedisBackend

/-- Reacquiring a lock is no taking: it prolongs a lock that is held, or fails. -/
theorem extendLocks_betweenLocks (stack : LockStack) : BetweenLocks (extendLocks stack) := by
  induction stack with
  | nil => exact .pure ()
  | cons lock stack ih =>
    refine (send_betweenLocks rfl).bind fun owned => ?_
    cases owned with
    | true => exact ih
    | false => exact .throw _

/-! ## Reading and writing a set of buckets -/

/-- Parsing asks for the expiry of every bucket, by induction on the buckets. -/
theorem parseResults_betweenLocks (results : BucketKey → BucketFields × Option OverrideRecord)
    (currentTime : ℚ) (keys : List BucketKey) :
    BetweenLocks (parseResults results currentTime keys) := by
  induction keys with
  | nil => exact .pure []
  | cons key keys ih =>
    exact (send_betweenLocks rfl).bind fun _ => (send_betweenLocks rfl).bind fun _ =>
      (Issues.lift _).bind fun _ => ih.bind fun _ => .pure _

theorem retainHistories_betweenLocks (keys : List BucketKey) :
    BetweenLocks (retainHistories keys) := by
  induction keys with
  | nil => exact .pure ()
  | cons key keys ih => exact (retainCapacityHistory_betweenLocks key).bind fun _ => ih

/-- Without lost buckets no repair is sent. -/
theorem repairStates_betweenLocks (keys : List BucketKey) (currentTime : ℚ) :
    BetweenLocks (repairStates keys currentTime) := by
  cases keys with
  | nil => exact .pure ()
  | cons key keys =>
    exact (retainHistories_betweenLocks _).bind fun _ => send_betweenLocks rfl

theorem refreshOverrides_betweenLocks (reads : List ParsedCapacityRead) :
    BetweenLocks (refreshOverrides reads) := by
  induction reads with
  | nil => exact .pure ()
  | cons read reads ih =>
    exact (refreshMaxCapacityOverrideTtl_betweenLocks _ _ _).bind fun _ => ih

/-- A read: the pipeline, the parsing, the repair, the expiries and the caches. -/
theorem getCapacitiesUnsafe_betweenLocks (keys : List BucketKey) (currentTime : ℚ) :
    BetweenLocks (getCapacitiesUnsafe keys currentTime) :=
  (send_betweenLocks rfl).bind fun _ => (parseResults_betweenLocks _ _ _).bind fun _ =>
    (repairStates_betweenLocks _ _).bind fun _ => (refreshOverrides_betweenLocks _).bind fun _ =>
      (send_betweenLocks rfl).bind fun _ => .pure _

/-- Each queued write has its retention computed and its history kept. -/
theorem queueWrites_betweenLocks (newCapacities : Capacities) (allowNegative : Bool)
    (keys : List BucketKey) : BetweenLocks (queueWrites newCapacities allowNegative keys) := by
  induction keys with
  | nil => exact .pure []
  | cons key keys ih =>
    exact (send_betweenLocks rfl).bind fun _ => (Issues.lift _).bind fun _ =>
      (retainCapacityHistory_betweenLocks key).bind fun _ => ih.bind fun _ => .pure _

/-- A write without a marker is one pipeline. -/
theorem setCapacitiesUnsafe_betweenLocks (newCapacities : Capacities) (keys : List BucketKey)
    (currentTime : ℚ) (allowNegative : Bool) (deleteMarker : Option ReservationKey) :
    BetweenLocks
      (setCapacitiesUnsafe newCapacities keys currentTime allowNegative deleteMarker) :=
  (queueWrites_betweenLocks _ _ _).bind fun _ => (send_betweenLocks rfl).bind fun _ =>
    (send_betweenLocks rfl).bind fun _ => .pure _

/-- A marker that cannot be read raises only what a caller must see. -/
theorem acquireMarkerMatches_betweenLocks (key : ReservationKey) (marker : AcquiredMarker) :
    BetweenLocks (acquireMarkerMatches key marker) := by
  refine (@send_betweenLocks (.getMarker key) rfl).attempt.bind fun found => ?_
  split
  · exact .pure _
  · exact .pure _
  · exact .throw _

/-- The buckets are compared one by one, up to the first that differs. -/
theorem bucketCapacityStateMatches_betweenLocks (expected : Capacities) (keys : List BucketKey) :
    BetweenLocks (bucketCapacityStateMatches expected keys) := by
  induction keys with
  | nil => exact .pure _
  | cons key keys ih =>
    refine (@send_betweenLocks (.getCapacity key) rfl).attempt.bind fun capacity => ?_
    split
    · split
      · exact ih
      · exact .pure _
    · exact .pure _
    · exact .throw _

/-- The buckets are looked at only where the marker matches. -/
theorem acquireMarkerCommitMatches_betweenLocks (key : ReservationKey) (marker : AcquiredMarker)
    (expected : Capacities) (keys : List BucketKey) :
    BetweenLocks (acquireMarkerCommitMatches key marker expected keys) := by
  refine (acquireMarkerMatches_betweenLocks key marker).bind fun matched => ?_
  cases matched with
  | true => exact bucketCapacityStateMatches_betweenLocks expected keys
  | false => exact .pure _

/-- A write with a marker: whatever the script answers, and also when its answer is lost,
    what follows only reads. -/
theorem setCapacitiesWithMarker_betweenLocks (newCapacities : Capacities) (keys : List BucketKey)
    (currentTime : ℚ) (allowNegative : Bool) (key : ReservationKey) (marker : AcquiredMarker) :
    BetweenLocks
      (setCapacitiesWithMarker newCapacities keys currentTime allowNegative key marker) := by
  refine (send_betweenLocks rfl).bind fun client => (Issues.lift _).bind fun writes => ?_
  refine (retainHistories_betweenLocks _).bind fun _ => ?_
  refine (@send_betweenLocks (.acquireMarkerSetScript key marker writes currentTime)
    rfl).attempt.bind fun status => ?_
  split
  · exact (send_betweenLocks rfl).bind fun _ => .pure _
  · exact .pure _
  · refine (acquireMarkerMatches_betweenLocks key marker).bind fun matched => ?_
    split
    · exact .pure _
    · exact .throw _
  · refine (acquireMarkerCommitMatches_betweenLocks _ _ _ _).bind fun landed => ?_
    split
    · exact .pure _
    · exact .throw _
  · exact .throw _

/-- Whether a refund has landed is read from the tombstone, the marker and the buckets. -/
theorem refundTerminalStateMatches_betweenLocks (key : ReservationKey) (expected : Capacities)
    (keys : List BucketKey) : BetweenLocks (refundTerminalStateMatches key expected keys) := by
  have h_reads : BetweenLocks (do
      let tombstone ← send (.tombstoneExists key)
      let marker ← send (.getMarker key)
      return tombstone && marker.isNone) :=
    (send_betweenLocks rfl).bind fun _ => (send_betweenLocks rfl).bind fun _ => .pure _
  refine h_reads.attempt.bind fun terminal => ?_
  split
  · exact bucketCapacityStateMatches_betweenLocks expected keys
  · exact .pure _
  · exact .pure _
  · exact .throw _

/-- A refund with a marker, in the same way: the token it draws is no lock. -/
theorem commitRefund_betweenLocks (newCapacities : Capacities) (keys : List BucketKey)
    (currentTime : ℚ) (key : ReservationKey) (marker : AcquiredMarker) :
    BetweenLocks
      (commitRefundWithAcquireMarkerUnsafe newCapacities keys currentTime key marker) := by
  refine (send_betweenLocks rfl).bind fun token => (send_betweenLocks rfl).bind fun client => ?_
  refine (Issues.lift _).bind fun writes => (retainHistories_betweenLocks _).bind fun _ => ?_
  refine (@send_betweenLocks (.refundWithMarkerScript key marker token writes
    currentTime) rfl).attempt.bind fun status => ?_
  split
  · exact send_betweenLocks rfl
  · exact .pure ()
  · exact .throw _
  · exact .throw _
  · exact .throw _
  · exact .throw _
  · refine (refundTerminalStateMatches_betweenLocks _ _ _).bind fun landed => ?_
    split
    · exact .pure ()
    · exact .throw _
  · exact .throw _

theorem writeConsumption_betweenLocks (postconsumption : Capacities) (keys : List BucketKey)
    (currentTime : ℚ) (allowNegative : Bool) (marker : Option (ReservationKey × AcquiredMarker)) :
    BetweenLocks
      (writeConsumption postconsumption keys currentTime allowNegative marker) := by
  cases marker with
  | none => exact setCapacitiesUnsafe_betweenLocks _ _ _ _ _
  | some marker => exact setCapacitiesWithMarker_betweenLocks _ _ _ _ _ _

theorem writeRefund_betweenLocks (client : RedisClient) (newCapacities : Capacities)
    (keys : List BucketKey) (currentTime : ℚ) (marker : Option AcquiredMarker) :
    BetweenLocks (writeRefund client newCapacities keys currentTime marker) := by
  cases marker with
  | none => exact (setCapacitiesUnsafe_betweenLocks _ _ _ _ _).bind fun _ => .pure ()
  | some marker => exact commitRefund_betweenLocks _ _ _ _ _

/-! ## Callbacks -/

/-- A callback is asked for, and runs if it is configured. -/
theorem invokeCallback_betweenLocks (slot : CallbackSlot) : BetweenLocks (invokeCallback slot) :=
  (send_betweenLocks rfl).bind fun _ => .when (send_betweenLocks rfl)

theorem freshStartBucketsCallback_betweenLocks (keys : List BucketKey) :
    BetweenLocks (freshStartBucketsCallback keys) := by
  induction keys with
  | nil => exact .pure ()
  | cons key keys ih => exact (invokeCallback_betweenLocks _).bind fun _ => ih

theorem consumptionCallbacks_betweenLocks (keys : List BucketKey) :
    BetweenLocks (consumptionCallbacks keys) :=
  (freshStartBucketsCallback_betweenLocks keys).bind fun _ => invokeCallback_betweenLocks _

/-- The callback of a wait runs between two looks at the deadline. -/
theorem waitStartCallback_betweenLocks (deadline : Option ℚ) :
    BetweenLocks (waitStartCallback deadline) := by
  refine (send_betweenLocks rfl).bind fun client => .when ?_
  refine (send_betweenLocks rfl).bind fun started => ?_
  split
  · exact .throw _
  · refine (send_betweenLocks rfl).bind fun _ => (send_betweenLocks rfl).bind fun now => ?_
    split
    · exact .throw _
    · exact .pure ()

/-! ## The bodies of the operations -/

/-- The cleanup of an interrupted consumption. -/
theorem refundCancelledUnderLocks_betweenLocks (usage : FrozenUsage)
    (reservationId : Option ReservationId) (recovering : Bool) (keys : List BucketKey)
    (stack : LockStack) :
    BetweenLocks (refundCancelledUnderLocks usage reservationId recovering keys stack) := by
  refine (send_betweenLocks rfl).bind fun _ => ?_
  refine (getCapacitiesUnsafe_betweenLocks _ _).bind fun _ => ?_
  refine (send_betweenLocks rfl).bind fun client => (extendLocks_betweenLocks _).bind fun _ => ?_
  split
  · exact (Issues.lift _).bind fun _ => commitRefund_betweenLocks _ _ _ _ _
  · exact (setCapacitiesUnsafe_betweenLocks _ _ _ _ _).bind fun _ => .pure ()

/-- An attempt: nothing is taken or released where it raises, waits or is interrupted. -/
theorem attemptUnderLocks_betweenLocks (usage : FrozenUsage)
    (reservationId : Option ReservationId) (lifetime : Option ℚ) (keys : List BucketKey)
    (stack : LockStack) :
    BetweenLocks (attemptUnderLocks usage reservationId lifetime keys stack) := by
  refine (send_betweenLocks rfl).bind fun _ => ?_
  refine (getCapacitiesUnsafe_betweenLocks _ _).bind fun _ => ?_
  refine (send_betweenLocks rfl).bind fun client => ?_
  dsimp only
  split
  · exact .throw _
  · split
    · exact .throw _
    · split
      · exact (freshStartBucketsCallback_betweenLocks _).bind fun _ => .pure _
      · refine (extendLocks_betweenLocks _).bind fun _ => (Issues.lift _).bind fun _ => ?_
        refine (writeConsumption_betweenLocks _ _ _ _ _).attempt.bind fun written => ?_
        refine (@send_betweenLocks .suspend rfl).attempt.bind fun awaited => ?_
        split
        · exact .pure _
        · exact .pure _
        · exact .throw _
        · exact .throw _

/-- An unconditional consumption, which only its metadata can refuse. -/
theorem consumeUnderLocks_betweenLocks (usage : FrozenUsage)
    (reservationId : Option ReservationId) (lifetime : Option ℚ) (keys : List BucketKey)
    (stack : LockStack) :
    BetweenLocks (consumeUnderLocks usage reservationId lifetime keys stack) := by
  refine (send_betweenLocks rfl).bind fun _ => ?_
  refine (getCapacitiesUnsafe_betweenLocks _ _).bind fun _ => ?_
  refine (send_betweenLocks rfl).bind fun client => ?_
  split
  · exact .throw _
  · refine (extendLocks_betweenLocks _).bind fun _ => (Issues.lift _).bind fun _ => ?_
    refine (writeConsumption_betweenLocks _ _ _ _ _).attempt.bind fun written => ?_
    refine (@send_betweenLocks .suspend rfl).attempt.bind fun awaited => ?_
    split
    · exact .pure _
    · exact .pure _
    · exact .throw _
    · exact .throw _
    · exact .throw _

/-- A refund, with the read that follows an interrupted write. -/
theorem refundUnderLocks_betweenLocks (refund : RefundRequest) (ids : Finset BucketId)
    (marker : Option AcquiredMarker) (keys : List BucketKey) (stack : LockStack) :
    BetweenLocks (refundUnderLocks refund ids marker keys stack) := by
  refine (send_betweenLocks rfl).bind fun _ => ?_
  refine (getCapacitiesUnsafe_betweenLocks _ _).bind fun _ => ?_
  refine (send_betweenLocks rfl).bind fun client => (extendLocks_betweenLocks _).bind fun _ => ?_
  refine (writeRefund_betweenLocks _ _ _ _ _).attempt.bind fun written => ?_
  refine (@send_betweenLocks .suspend rfl).attempt.bind fun awaited => ?_
  split
  · exact .pure _
  · exact (send_betweenLocks rfl).bind fun _ => .pure _
  · exact .throw _
  · exact .throw _

/-! ## Limits and rebuilds -/

/-- A projection reads a bucket, and its history where it holds no state. -/
theorem projectBucketState_betweenLocks (owner : BucketOwner) (key : BucketKey) :
    BetweenLocks (projectBucketState owner key) := by
  refine (send_betweenLocks rfl).bind fun raw => (ownerClient_betweenLocks owner).bind fun _ => ?_
  refine (send_betweenLocks rfl).bind fun _ => (send_betweenLocks rfl).bind fun fields => ?_
  refine (ownerClient_betweenLocks owner).bind fun client => ?_
  dsimp only
  split
  · exact (send_betweenLocks rfl).bind fun _ => (ownerClient_betweenLocks owner).bind
      fun _ => .pure _
  · exact .pure _

/-- A snapshot stores the projected state again, where there is one. -/
theorem snapshotBucketState_betweenLocks (key : BucketKey) (proposed : MaxCapacity) :
    BetweenLocks (snapshotBucketState key proposed) := by
  refine (projectBucketState_betweenLocks .running key).bind fun projection => ?_
  refine (refreshMaxCapacityOverrideTtl_betweenLocks _ _ _).bind fun _ => ?_
  split
  · exact send_betweenLocks rfl
  · exact (setCapacity_betweenLocks _ _ _ _ _).bind fun _ => send_betweenLocks rfl

/-- A rebuild projects a bucket before it changes any. -/
theorem prepareSnapshot_betweenLocks (owner : BucketOwner) (target : RebuildTarget)
    (key : BucketKey) : BetweenLocks (prepareSnapshot owner target key) := by
  refine (projectBucketState_betweenLocks owner key).bind fun projection => ?_
  refine (ownerClient_betweenLocks owner).bind fun client => ?_
  split
  · exact .pure _
  · exact (Issues.lift _).bind fun _ => .pure _

/-- The first pass of a rebuild, with a check of the locks before each bucket. -/
theorem prepareSnapshots_betweenLocks (stack : LockStack) (current newBackend : RedisClient)
    (targets : List RebuildTarget) :
    BetweenLocks (prepareSnapshots stack current newBackend targets) := by
  induction targets with
  | nil => exact .pure []
  | cons target targets ih =>
    exact (extendLocks_betweenLocks stack).bind fun _ => (prepareSnapshot_betweenLocks _ _ _).bind
      fun _ => ih.bind fun _ => .pure _

theorem commitBucketSnapshot_betweenLocks (owner : BucketOwner) (plan : BucketSnapshotPlan) :
    BetweenLocks (commitBucketSnapshot owner plan) := by
  refine (refreshMaxCapacityOverrideTtl_betweenLocks _ _ _).bind fun _ => ?_
  split
  · exact (Issues.pure owner).bind fun _ => updateCaches_betweenLocks _ _
  · exact (setCapacity_betweenLocks _ _ _ _ _).bind fun _ => updateCaches_betweenLocks _ _

/-- The changes of one bucket: a removed, a surviving or a new one. -/
theorem commitPlan_betweenLocks (newBackend : RedisClient) (plan : BucketSnapshotPlan) :
    BetweenLocks (commitPlan newBackend plan) := by
  unfold commitPlan
  split
  · exact (commitBucketSnapshot_betweenLocks _ _).bind fun _ =>
      (clearMaxCapacityOverride_betweenLocks _ _).bind fun _ => .pure _
  · refine (commitBucketSnapshot_betweenLocks _ _).bind fun _ => ?_
    refine (send_betweenLocks rfl).bind fun current => ?_
    split
    · exact (clearMaxCapacityOverride_betweenLocks _ _).bind fun _ => .pure _
    · exact (Issues.pure _).bind fun _ => .pure _
  · exact (commitBucketSnapshot_betweenLocks _ _).bind fun _ => .pure _

/-- The second pass of a rebuild, with a check of the locks before each bucket. -/
theorem commitPlans_betweenLocks (stack : LockStack) (newBackend : RedisClient)
    (plans : List BucketSnapshotPlan) : BetweenLocks (commitPlans stack newBackend plans) := by
  induction plans generalizing newBackend with
  | nil => exact .pure _
  | cons plan plans ih =>
    exact (extendLocks_betweenLocks stack).bind fun _ => (commitPlan_betweenLocks _ _).bind
      fun _ => ih _

end RedisBackend

end TokenThrottle
