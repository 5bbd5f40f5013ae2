/-
  TokenThrottle.Redis.Backend

  `RedisBackend` of `_redis/_backend.py`, as the programs its methods run: the lock
  stack, the read and the write of a set of buckets, and the operations built on them.

  * A write task under `asyncio.shield` runs to its end; the exception that arrives
    while it is awaited is delivered by the `suspend` after it.
  * `_local_serial`, which lets try-acquires of one process queue, and the length of
    the waits are left out: an attempt may find a lock taken at any time.
  * `attempts` bounds how often the waiting loop of `await_for_capacity` tries; a
    call that has used them up has not returned yet.
-/
import TokenThrottle.Redis.Bucket
import TokenThrottle.Redis.Keys
import Mathlib.Data.List.Sort
import Mathlib.Data.String.Basic

namespace TokenThrottle

open Theory (Program)

namespace RedisBackend

/-! ## Locks -/

/-- The locks a call holds, in the order it took them. -/
abbrev LockStack := List (BucketKey × Token)

/-- `_extend_locks` -/
def extendLocks : LockStack → RedisProgram Unit
  | [] => pure ()
  | (key, token) :: locks => do
    let owned ← send (.reacquireLock key token)
    if owned then extendLocks locks else throw .lockContention

/-- `_shielded_lock_release` of each lock, last taken first; a lost lock is ignored. -/
def releaseLocks : LockStack → RedisProgram Unit
  | [] => pure ()
  | (key, token) :: locks =>
    (releaseLocks locks).ensuring do
      let _ ← send (.releaseLock key token)
      return ()

/-- One `lock.acquire`: the token is known before, so that a lock taken by a call
    that raised can be released. -/
def acquireLock (key : BucketKey) : RedisProgram Token := do
  let token ← send .uuid
  let acquired ← (send (.acquireLock key token)).onError
    ((send (.releaseLock key token)).settle fun _ => pure ())
  if acquired then return token else throw .lockError

/-- `_lock`, from the locks taken so far. -/
def lockFrom (stack : LockStack) : List BucketKey → RedisProgram LockStack
  | [] => return stack
  | key :: keys => do
    let token ← Program.onError (do extendLocks stack; acquireLock key) (releaseLocks stack)
    lockFrom (stack ++ [(key, token)]) keys

/-- `_lock` -/
def lock (keys : List BucketKey) : RedisProgram LockStack := lockFrom [] keys

/-- `_lock_or_contention` -/
def lockOrContention (keys : List BucketKey) : RedisProgram LockStack :=
  tryCatch (lock keys) fun e => throw (if e = .lockError then .lockContention else e)

/-- `async with await self._lock(...) as lock_stack` -/
def withLocks {α : Type} (acquire : RedisProgram LockStack)
    (body : LockStack → RedisProgram α) : RedisProgram α := do
  let stack ← acquire
  (body stack).ensuring (releaseLocks stack)

/-! ## Reading a set of buckets -/

/-- `_ParsedCapacityReadResult` -/
structure ParsedCapacityRead where
  key : BucketKey
  incomplete : Bool
  override : Option MaxCapacity
  calculated : CalculatedCapacity

/-- A bucket of `state_loss_buckets`. -/
def ParsedCapacityRead.stateLost (read : ParsedCapacityRead) : Bool :=
  read.incomplete && !read.calculated.isFreshStart

/-- The part of `_get_capacities_unsafe` that parses the pipeline's results. -/
def parseResults (results : BucketKey → BucketFields × Option OverrideRecord)
    (currentTime : ℚ) : List BucketKey → RedisProgram (List ParsedCapacityRead)
  | [] => return []
  | key :: keys => do
    let client ← send .client
    let (fields, raw) := results key
    let history ← send (.getExpiry key)
    let calculated ← Program.lift (client.calculate key.id fields raw history currentTime)
    let rest ← parseResults results currentTime keys
    return ⟨key, fields.incomplete, client.deserializeMaxCapacityOverride key.id raw,
      calculated⟩ :: rest

/-- `retain_capacity_history` of each bucket that is about to be written. -/
def retainHistories : List BucketKey → RedisProgram Unit
  | [] => pure ()
  | key :: keys => do
    RedisBucket.retainCapacityHistory key
    retainHistories keys

/-- The repair of lost state: drained to zero now. -/
def repairStates (keys : List BucketKey) (currentTime : ℚ) : RedisProgram Unit :=
  match keys with
  | [] => pure ()
  | keys => do
    retainHistories keys
    send (.repairStates keys currentTime)

def refreshOverrides : List ParsedCapacityRead → RedisProgram Unit
  | [] => pure ()
  | read :: reads => do
    RedisBucket.refreshMaxCapacityOverrideTtl .running read.key read.override
    refreshOverrides reads

/-- What the buckets remember of a read. -/
def noteReads (currentTime : ℚ) (reads : List ParsedCapacityRead) (caches : BucketCaches) :
    BucketCaches :=
  reads.foldl (fun caches read =>
    let caches := caches.applyParsedMaxCapacityOverride read.key.id read.override
    if read.stateLost ∨ ¬ read.incomplete then
      caches.confirmStatePresent read.key.id currentTime
    else caches) caches

/-- `CapacitiesGetterResult` -/
structure CapacitiesGetterResult where
  capacities : Capacities
  freshStartBuckets : List BucketKey

def capacitiesOf (reads : List ParsedCapacityRead) : Capacities := fun id =>
  ((reads.find? fun read => read.key.id = id).map fun read => read.calculated.amount).getD 0

/-- `_get_capacities_unsafe` -/
def getCapacitiesUnsafe (keys : List BucketKey) (currentTime : ℚ) :
    RedisProgram CapacitiesGetterResult := do
  let results ← send (.readBuckets keys)
  let reads ← parseResults results currentTime keys
  let lost := reads.filter ParsedCapacityRead.stateLost
  repairStates (lost.map ParsedCapacityRead.key) currentTime
  refreshOverrides reads
  send (.updateCaches (noteReads currentTime reads))
  let freshStart := reads.filter fun read => read.stateLost || read.calculated.isFreshStart
  return ⟨capacitiesOf reads, freshStart.map ParsedCapacityRead.key⟩

/-! ## Writing a set of buckets -/

/-- `normalized_amount` -/
def normalizedAmount (allowNegative : Bool) (amount : ℚ) : ℚ :=
  if allowNegative then amount else max 0 amount

/-- The writes of a script: each amount must be retainable. -/
def stateWrites (client : RedisClient) (newCapacities : Capacities) (allowNegative : Bool) :
    List BucketKey → Except BackendError (List (BucketKey × ℚ))
  | [] => .ok []
  | key :: keys => do
    let amount := normalizedAmount allowNegative (newCapacities key.id)
    let _ ← client.capacityTtl key.id amount none
    let rest ← stateWrites client newCapacities allowNegative keys
    return (key, amount) :: rest

/-- The writes of a pipeline: `set_capacity` of each bucket, queued. -/
def queueWrites (newCapacities : Capacities) (allowNegative : Bool) :
    List BucketKey → RedisProgram (List (BucketKey × ℚ))
  | [] => return []
  | key :: keys => do
    let client ← send .client
    let amount := normalizedAmount allowNegative (newCapacities key.id)
    let _ ← Program.lift (client.capacityTtl key.id amount none)
    RedisBucket.retainCapacityHistory key
    let rest ← queueWrites newCapacities allowNegative keys
    return (key, amount) :: rest

/-- `_set_capacities_unsafe` without an acquire marker. -/
def setCapacitiesUnsafe (newCapacities : Capacities) (keys : List BucketKey)
    (currentTime : ℚ) (allowNegative : Bool) (deleteMarker : Option ReservationKey) :
    RedisProgram Bool := do
  let writes ← queueWrites newCapacities allowNegative keys
  send (.setStates writes currentTime deleteMarker)
  send (.updateCaches (.confirmWrittenState keys currentTime))
  return true

/-- `_acquire_marker_matches` -/
def acquireMarkerMatches (key : ReservationKey) (marker : AcquiredMarker) :
    RedisProgram Bool := do
  let found ← (send (.getMarker key)).attempt
  match found with
  | .ok found => return found = some marker
  | .error .redisError => return false
  | .error e => throw e

/-- `_redis_float_matches` -/
def redisFloatMatches (value : Option ℚ) (expected : ℚ) : Bool :=
  value.any fun value => |value - expected| ≤ 1 / 1000000000

/-- `_bucket_capacity_state_matches` -/
def bucketCapacityStateMatches (expected : Capacities) :
    List BucketKey → RedisProgram Bool
  | [] => return true
  | key :: keys => do
    let capacity ← (send (.getCapacity key)).attempt
    match capacity with
    | .ok capacity =>
      if redisFloatMatches capacity (expected key.id) then
        bucketCapacityStateMatches expected keys
      else return false
    | .error .redisError => return false
    | .error e => throw e

/-- `_acquire_marker_commit_matches` -/
def acquireMarkerCommitMatches (key : ReservationKey) (marker : AcquiredMarker)
    (expected : Capacities) (keys : List BucketKey) : RedisProgram Bool := do
  let matched ← acquireMarkerMatches key marker
  if matched then bucketCapacityStateMatches expected keys else return false

/-- `_set_capacities_unsafe` with an acquire marker: `false` for a replay. -/
def setCapacitiesWithMarker (newCapacities : Capacities) (keys : List BucketKey)
    (currentTime : ℚ) (allowNegative : Bool) (key : ReservationKey)
    (marker : AcquiredMarker) : RedisProgram Bool := do
  let client ← send .client
  let writes ← Program.lift (stateWrites client newCapacities allowNegative keys)
  retainHistories (writes.map Prod.fst)
  let status ← (send (.acquireMarkerSetScript key marker writes currentTime)).attempt
  match status with
  | .ok .ok => do
    send (.updateCaches (.confirmWrittenState keys currentTime))
    return true
  | .ok .replayedAcquire => return false
  | .ok .duplicateAcquire => do
    let matched ← acquireMarkerMatches key marker
    if matched then return false else throw (.duplicateRefund .duplicateAcquire)
  | .error .redisError => do
    -- the script may have run although its answer is lost
    let landed ← acquireMarkerCommitMatches key marker newCapacities keys
    if landed then return true else throw .redisError
  | .error e => throw e

/-- `_refund_terminal_state_matches` -/
def refundTerminalStateMatches (key : ReservationKey) (expected : Capacities)
    (keys : List BucketKey) : RedisProgram Bool := do
  let terminal ← Program.attempt do
    let tombstone ← send (.tombstoneExists key)
    let marker ← send (.getMarker key)
    return tombstone && marker.isNone
  match terminal with
  | .ok true => bucketCapacityStateMatches expected keys
  | .ok false => return false
  | .error .redisError => return false
  | .error e => throw e

/-- `_commit_refund_with_acquire_marker_unsafe` -/
def commitRefundWithAcquireMarkerUnsafe (newCapacities : Capacities) (keys : List BucketKey)
    (currentTime : ℚ) (key : ReservationKey) (marker : AcquiredMarker) :
    RedisProgram Unit := do
  let token ← send .uuid
  let client ← send .client
  let writes ← Program.lift (stateWrites client newCapacities true keys)
  retainHistories (writes.map Prod.fst)
  let status ← (send (.refundWithMarkerScript key marker token writes currentTime)).attempt
  match status with
  | .ok .ok => send (.updateCaches (.confirmWrittenState keys currentTime))
  | .ok .replayedRefund => return ()
  | .ok .duplicateRefund => throw (.duplicateRefund .alreadyRefunded)
  | .ok .unknownReservation => throw .unknownReservation
  | .ok .markerMismatch => throw .unknownReservation
  | .ok .incoherentRefund => throw .runtimeError
  | .error .redisError => do
    -- the reply was lost: whether the script ran is read off what it would have left
    let landed ← refundTerminalStateMatches key newCapacities keys
    if landed then return () else throw .redisError
  | .error e => throw e

/-- `redis_acquired_marker_value` -/
def redisAcquiredMarkerValue (reservationId : ReservationId) (modelFamily : String)
    (bucketIds : Finset BucketId) (usage : FrozenUsage) : Except BackendError AcquiredMarker :=
  if ∃ metric ∈ usage.keys, usage.amount metric < 0 then .error (.valueError .usageNegative)
  else .ok ⟨reservationId, modelFamily, bucketIds, usage⟩

/-- The ids of the buckets of a call. -/
def idsOf (keys : List BucketKey) : Finset BucketId := (keys.map BucketKey.id).toFinset

/-- The marker arguments of a consumption. -/
def acquiredMarker (client : RedisClient) (reservationId : Option ReservationId)
    (reservationLifetimeSeconds : Option ℚ) (usage : FrozenUsage) (keys : List BucketKey) :
    Except BackendError (Option (ReservationKey × AcquiredMarker)) :=
  match reservationId with
  | none => .ok none
  | some rid => do
    let marker ← redisAcquiredMarkerValue rid client.modelFamily (idsOf keys) usage
    -- `_reservation_lifetime_ttl_ms`
    if reservationLifetimeSeconds.any (0 < ·) then
      return some (client.reservationKey rid, marker)
    else .error (.valueError .reservationLifetimeInvalid)

/-- The write of a consumption, with or without a reservation id. -/
def writeConsumption (postconsumption : Capacities) (keys : List BucketKey)
    (currentTime : ℚ) (allowNegative : Bool)
    (marker : Option (ReservationKey × AcquiredMarker)) : RedisProgram Bool :=
  match marker with
  | none => setCapacitiesUnsafe postconsumption keys currentTime allowNegative none
  | some (key, marker) =>
    setCapacitiesWithMarker postconsumption keys currentTime allowNegative key marker

/-- `_invoke_callback_safe` of a callback, if it is configured. -/
def invokeCallback (slot : CallbackSlot) : RedisProgram Unit := do
  let client ← send .client
  Program.when (client.callbacks slot) (send (.callback slot))

/-- `_fresh_start_buckets_callback` -/
def freshStartBucketsCallback : List BucketKey → RedisProgram Unit
  | [] => pure ()
  | _ :: keys => do
    invokeCallback .onMissingConsumptionData
    freshStartBucketsCallback keys

/-- `max_capacity` of the buckets, cached by the read just before. -/
def maxCapacities (client : RedisClient) (id : BucketId) : ℚ := (client.maxCapacity id).value

/-! ## Cleanup of a cancelled consumption -/

/-- The locked part of `_refund_cancelled_consumption`.  Only under a limiter that can
    take over a failed cleanup (`recovering`) is the marker claimed; else it is
    deleted without being read. -/
def refundCancelledUnderLocks (usage : FrozenUsage) (reservationId : Option ReservationId)
    (recovering : Bool) (keys : List BucketKey) (stack : LockStack) : RedisProgram Unit := do
  let currentTime ← send .time
  let read ← getCapacitiesUnsafe keys currentTime
  let client ← send .client
  let refunded := restoreUsage read.capacities usage (maxCapacities client)
  extendLocks stack
  match reservationId, recovering with
  | some rid, true => do
    let marker ← Program.lift
      (redisAcquiredMarkerValue rid client.modelFamily (idsOf keys) usage)
    commitRefundWithAcquireMarkerUnsafe refunded keys currentTime (client.reservationKey rid)
      marker
  | _, _ => do
    let _ ← setCapacitiesUnsafe refunded keys currentTime true
      (reservationId.map client.reservationKey)
    return ()

/-- `_refund_cancelled_consumption` -/
def refundCancelledConsumption (usage : FrozenUsage) (reservationId : Option ReservationId)
    (recovering : Bool) (keys : List BucketKey) : RedisProgram Unit := do
  withLocks (lockOrContention keys)
    (refundCancelledUnderLocks usage reservationId recovering keys)
  send .suspend

/-- The cleanup of a consumption that `e` interrupted, and `e` again after it: a
    cleanup that fails is recorded and logged, one that is interrupted takes over. -/
def refundInterrupted {α : Type} (usage : FrozenUsage) (reservationId : Option ReservationId)
    (recovering : Bool) (keys : List BucketKey) (e : BackendError) : RedisProgram α :=
  (refundCancelledConsumption usage reservationId recovering keys).settle fun cleaned =>
    match cleaned with
    | .error .interrupted => throw .interrupted
    | _ => throw e

/-! ## Acquiring -/

/-- What an attempt leaves its locks with.  `raised` is an exception that arrived while
    the write was awaited. -/
structure LockedAttempt where
  available : Bool
  consumed : Bool
  raised : Option BackendError
  preconsumption : Capacities
  postconsumption : Capacities
  currentTime : ℚ
  freshStartBuckets : List BucketKey

/-- The locked part of `_check_and_consume_capacity`. -/
def attemptUnderLocks (usage : FrozenUsage) (reservationId : Option ReservationId)
    (reservationLifetimeSeconds : Option ℚ) (keys : List BucketKey) (stack : LockStack) :
    RedisProgram LockedAttempt := do
  let currentTime ← send .time
  let read ← getCapacitiesUnsafe keys currentTime
  let client ← send .client
  let pre := read.capacities
  let ids := keys.map BucketKey.id
  if ¬ usage.keys ⊆ metricNames ids.toFinset then
    throw (.valueError .usageKeysMismatch)
  else if usageExceeds usage (maxCapacities client) ids then
    throw (.valueError .usageExceedsMaxCapacity)
  else if usageExceeds usage pre ids then do
    freshStartBucketsCallback read.freshStartBuckets
    return ⟨false, false, none, pre, pre, currentTime, read.freshStartBuckets⟩
  else do
    let post := subtractUsage pre usage
    extendLocks stack
    let marker ← Program.lift
      (acquiredMarker client reservationId reservationLifetimeSeconds usage keys)
    let written ← (writeConsumption post keys currentTime false marker).attempt
    let awaited ← (send .suspend).attempt
    match written, awaited with
    | .ok consumed, .ok () =>
      return ⟨true, consumed, none, pre, post, currentTime, read.freshStartBuckets⟩
    | .ok consumed, .error e =>
      return ⟨true, consumed, some e, pre, post, currentTime, read.freshStartBuckets⟩
    | .error e, .ok () => throw e
    | .error _, .error e => throw e

/-- What `_check_and_consume_capacity` returns. -/
structure CheckResult where
  available : Bool
  consumed : Bool
  preconsumption : Capacities
  postconsumption : Capacities
  consumedAtSeconds : Option ℚ
  buckets : List BucketKey

/-- The callbacks of a consumption. -/
def consumptionCallbacks (freshStartBuckets : List BucketKey) : RedisProgram Unit := do
  freshStartBucketsCallback freshStartBuckets
  invokeCallback .onCapacityConsumed

/-- `_check_and_consume_capacity` once the locks are released.  `interruption` is what
    the write's wait or the release raised. -/
def finishAttempt (usage : FrozenUsage) (reservationId : Option ReservationId)
    (recovering : Bool) (keys : List BucketKey) (attempt : LockedAttempt)
    (interruption : Option BackendError) : RedisProgram CheckResult :=
  match interruption with
  | some e =>
    if attempt.consumed then refundInterrupted usage reservationId recovering keys e
    else throw e
  | none =>
    if ¬ attempt.available then
      return ⟨false, false, attempt.preconsumption, attempt.postconsumption, none, keys⟩
    else if ¬ attempt.consumed then
      -- a replay: the earlier call consumed, this one wrote nothing
      return ⟨true, false, attempt.preconsumption, attempt.preconsumption,
        some attempt.currentTime, keys⟩
    else
      (consumptionCallbacks attempt.freshStartBuckets).settle fun called =>
        match called with
        | .ok () => return ⟨true, true, attempt.preconsumption, attempt.postconsumption,
            some attempt.currentTime, keys⟩
        | .error e => refundInterrupted usage reservationId recovering keys e

/-- `_check_and_consume_capacity` -/
def checkAndConsumeCapacity (usage : FrozenUsage) (reservationId : Option ReservationId)
    (reservationLifetimeSeconds : Option ℚ) (recovering : Bool) :
    RedisProgram CheckResult := do
  let client ← send .client
  let keys := client.bucketKeys
  let stack ← lock keys
  let attempted ← (attemptUnderLocks usage reservationId reservationLifetimeSeconds keys
    stack).attempt
  let released ← (releaseLocks stack).attempt
  match attempted, released with
  | .ok attempt, .ok () =>
    finishAttempt usage reservationId recovering keys attempt attempt.raised
  | .ok attempt, .error e => finishAttempt usage reservationId recovering keys attempt (some e)
  | .error e, .ok () => throw e
  | .error _, .error e => throw e

/-- Whether an exception of an attempt is contention. -/
def isContention (e : BackendError) : Bool := e = .lockError ∨ e = .lockContention

/-- `on_wait_start`, within the caller's deadline. -/
def waitStartCallback (deadline : Option ℚ) : RedisProgram Unit := do
  let client ← send .client
  Program.when (client.callbacks .onWaitStart) do
    let started ← send .monotonic
    if deadline.any (· ≤ started) then throw .capacityTimeout
    else do
      send (.callback .onWaitStart)
      let now ← send .monotonic
      if deadline.any (· ≤ now) then throw .capacityTimeout else pure ()

/-- The end of a call that found capacity: after a wait, its callback runs first. -/
def finishWait (usage : FrozenUsage) (reservationId : Option ReservationId)
    (recovering hasWaited : Bool) (result : CheckResult) :
    RedisProgram (Option CheckResult) :=
  if hasWaited then
    (invokeCallback .afterWaitEndConsumption).settle fun called =>
      match called with
      | .ok () => return some result
      | .error e => refundInterrupted usage reservationId recovering result.buckets e
  else return some result

/-- The waiting loop of `await_for_capacity`: `none` while the call still waits. -/
def awaitLoop (usage : FrozenUsage) (reservationId : Option ReservationId)
    (reservationLifetimeSeconds : Option ℚ) (recovering : Bool) (deadline : Option ℚ) :
    ℕ → Bool → RedisProgram (Option CheckResult)
  | 0, _ => return none
  | attempts + 1, hasWaited => do
    let checked ← (checkAndConsumeCapacity usage reservationId reservationLifetimeSeconds
      recovering).attempt
    match checked with
    | .error e =>
      if isContention e then do
        let now ← send .monotonic
        if deadline.all (now < ·) then do
          send .suspend
          awaitLoop usage reservationId reservationLifetimeSeconds recovering deadline attempts
            hasWaited
        else throw .lockTimeout
      else throw e
    | .ok result =>
      if result.available then finishWait usage reservationId recovering hasWaited result
      else do
        -- the process's condition is taken to register the waiter
        send .suspend
        let waiting : RedisProgram (Option CheckResult) := do
          let now ← send .monotonic
          if deadline.any (· ≤ now) then throw .capacityTimeout
          else do
            Program.when (!hasWaited) (waitStartCallback deadline)
            send .suspend
            awaitLoop usage reservationId reservationLifetimeSeconds recovering deadline
              attempts true
        -- and once more, in the `finally` of the loop, to remove it
        if hasWaited then waiting else waiting.ensuring (send .suspend)

/-- `await_for_capacity` -/
def awaitForCapacity (usage : FrozenUsage) (timeout : Option ℚ)
    (reservationId : Option ReservationId) (reservationLifetimeSeconds : Option ℚ)
    (recovering : Bool) (attempts : ℕ) : RedisProgram (Option CheckResult) := do
  let client ← send .client
  Program.lift (validateBackendUsage usage client.metricNames)
  let timeout ← Program.lift (validateTimeout timeout)
  let start ← send .monotonic
  awaitLoop usage reservationId reservationLifetimeSeconds recovering
    (timeout.map (start + ·)) attempts false

/-! ## Consuming -/

/-- The locked part of `consume_capacity`: `none` when the write landed although an
    exception arrived while it was awaited. -/
def consumeUnderLocks (usage : FrozenUsage) (reservationId : Option ReservationId)
    (reservationLifetimeSeconds : Option ℚ) (keys : List BucketKey) (stack : LockStack) :
    RedisProgram (Option (Bool × ℚ × List BucketKey)) := do
  let currentTime ← send .time
  let read ← getCapacitiesUnsafe keys currentTime
  let client ← send .client
  if ¬ usage.keys ⊆ metricNames (idsOf keys) then
    throw (.valueError .usageKeysMismatch)
  else do
    let post := subtractUsageFloored read.capacities usage (maxCapacities client)
    extendLocks stack
    let marker ← Program.lift
      (acquiredMarker client reservationId reservationLifetimeSeconds usage keys)
    let written ← (writeConsumption post keys currentTime true marker).attempt
    let awaited ← (send .suspend).attempt
    match written, awaited with
    | .ok written, .ok () => return some (written, currentTime, read.freshStartBuckets)
    -- a landed reading of real usage is kept: the cancellation is suppressed
    | .ok true, .error _ => return none
    | .ok false, .error e => throw e
    | .error e, .ok () => throw e
    | .error _, .error e => throw e

/-- `consume_capacity` -/
def consumeCapacity (usage : FrozenUsage) (reservationId : Option ReservationId)
    (reservationLifetimeSeconds : Option ℚ) : RedisProgram (Option ℚ) := do
  let client ← send .client
  let keys := client.bucketKeys
  Program.lift (validateBackendUsage usage client.metricNames)
  let result ← withLocks (lockOrContention keys)
    (consumeUnderLocks usage reservationId reservationLifetimeSeconds keys)
  match result with
  | none => return none
  | some (false, currentTime, _) => return some currentTime
  | some (true, currentTime, freshStartBuckets) => do
    consumptionCallbacks freshStartBuckets
    return some currentTime

/-! ## Refunding -/

/-- The marker a refund claims, after the checks of its metadata. -/
def expectedMarker (refund : RefundRequest) (refundBucketIds : Finset BucketId) :
    Except BackendError (Option AcquiredMarker) :=
  match refund.reservationId with
  | none => .ok none
  | some rid => do
    let (family, ids, usage) ← requireMarkerMetadata refund
    validateMarkerRefundScope refund.reservedUsage refundBucketIds ids usage
    let marker ← redisAcquiredMarkerValue rid family ids usage
    return some marker

/-- The write of a refund. -/
def writeRefund (client : RedisClient) (newCapacities : Capacities) (keys : List BucketKey)
    (currentTime : ℚ) (marker : Option AcquiredMarker) : RedisProgram Unit :=
  match marker with
  | none => do
    let _ ← setCapacitiesUnsafe newCapacities keys currentTime true none
    return ()
  | some marker =>
    commitRefundWithAcquireMarkerUnsafe newCapacities keys currentTime
      (client.reservationKey marker.reservationId) marker

/-- The locked part of `refund_capacity_for_buckets`: `none` when the write landed
    although an exception arrived while it was awaited. -/
def refundUnderLocks (refund : RefundRequest) (refundBucketIds : Finset BucketId)
    (marker : Option AcquiredMarker) (keys : List BucketKey) (stack : LockStack) :
    RedisProgram (Option (List BucketKey)) := do
  let currentTime ← send .time
  let read ← getCapacitiesUnsafe keys currentTime
  let client ← send .client
  let updated := applyRefund read.capacities refund.reservedUsage refund.actualUsage
    (maxCapacities client)
  extendLocks stack
  -- only the scope of the refund is written back
  let scope := keys.filter fun key => key.id ∈ refundBucketIds
  let written ← (writeRefund client updated scope currentTime marker).attempt
  let awaited ← (send .suspend).attempt
  match written, awaited with
  | .ok (), .ok () => return some read.freshStartBuckets
  -- the refund is done: a retry would credit it twice
  | .ok (), .error _ => do
    send .suspend
    return none
  | .error e, .ok () => throw e
  | .error _, .error e => throw e

/-- `refund_capacity_for_buckets` -/
def refundCapacityForBuckets (refund : RefundRequest) : RedisProgram Unit := do
  let client ← send .client
  let keys := client.bucketKeys
  let refundBucketIds := refund.bucketIds.getD client.bucketIds
  Program.lift (validateBackendRefundUsageForBucketIds refund.reservedUsage refund.actualUsage
    refundBucketIds client.bucketIds)
  let marker ← Program.lift (expectedMarker refund refundBucketIds)
  -- no bucket to lock: the marker alone is exchanged for a tombstone
  if refundBucketIds = ∅ then
    match marker with
    | none => return ()
    | some marker => do
      let currentTime ← send .time
      commitRefundWithAcquireMarkerUnsafe (fun _ => 0) [] currentTime
        (client.reservationKey marker.reservationId) marker
  else do
    let result ← withLocks (lockOrContention keys)
      (refundUnderLocks refund refundBucketIds marker keys)
    match result with
    | none => return ()
    | some freshStartBuckets => do
      send .suspend
      freshStartBucketsCallback freshStartBuckets
      invokeCallback .onCapacityRefunded

/-! ## Changing limits -/

/-- The state of a bucket brought up to now at its current rate, uncapped. -/
structure Projection where
  currentTime : ℚ
  anchored : Option ℚ
  override : Option MaxCapacity
  effective : MaxCapacity

/-- The reads of `_snapshot_bucket_state`. -/
def projectBucketState (owner : BucketOwner) (key : BucketKey) : RedisProgram Projection := do
  let raw ← send (.getOverride key)
  let client ← owner.client
  let override := client.deserializeMaxCapacityOverride key.id raw
  let effective := override.getD (client.maxCapacityDefault key.id)
  let currentTime ← send .time
  let fields ← send (.readState key)
  let client ← owner.client
  let normalized := fields.normalize currentTime
    (client.stateLossSuspected key.id currentTime)
  match normalized.lastChecked, normalized.capacity with
  | some last, some stored => do
    let history ← send (.getExpiry key)
    let client ← owner.client
    let anchored := accrueWithExpiry history override (client.maxCapacityDefault key.id) key.id
      last currentTime stored (calculateRatePerSec effective key.id)
    return ⟨currentTime, some anchored, override, effective⟩
  | _, _ => return ⟨currentTime, none, override, effective⟩

/-- The limit an anchor must be retained for: the lower of the old and the new. -/
def retentionMaxCapacity (effective : MaxCapacity) (proposed : Option MaxCapacity) :
    MaxCapacity :=
  match proposed with
  | none => effective
  | some proposed => if effective.value ≤ proposed.value then effective else proposed

/-- `_snapshot_bucket_state` -/
def snapshotBucketState (key : BucketKey) (proposed : MaxCapacity) : RedisProgram Unit := do
  let projection ← projectBucketState .running key
  RedisBucket.refreshMaxCapacityOverrideTtl .running key projection.override
  match projection.anchored with
  | none => pure ()
  | some anchored => do
    let _ ← RedisBucket.setCapacity .running key anchored projection.currentTime
      (some (retentionMaxCapacity projection.effective (some proposed)))
    pure ()
  send (.updateCaches (.applyParsedMaxCapacityOverride key.id projection.override))

/-- `set_max_capacity` -/
def setMaxCapacity (id : BucketId) (value : ℚ) : RedisProgram Unit := do
  let client ← send .client
  if id ∉ client.sortedBuckets then throw (.valueError .bucketNotFound)
  else do
    let key := client.bucketKey id
    withLocks (lockOrContention client.bucketKeys) fun stack => do
      extendLocks stack
      let value ← Program.lift (validateMaxCapacityFinitePositive value)
      snapshotBucketState key value
      RedisBucket.setMaxCapacity key value
    send .suspend

/-- `apply_configured_max_capacity` -/
def applyConfiguredMaxCapacity (id : BucketId) (value : ℚ) : RedisProgram Unit := do
  let client ← send .client
  if id ∉ client.sortedBuckets then throw (.valueError .bucketNotFound)
  else do
    let key := client.bucketKey id
    withLocks (lockOrContention client.bucketKeys) fun stack => do
      extendLocks stack
      let value ← Program.lift (validateMaxCapacityFinitePositive value)
      snapshotBucketState key value
      let _ ← RedisBucket.clearMaxCapacityOverride .running key
      send (.setConfiguredMaxCapacity id value)
    send .suspend

/-! ## Rebuilding -/

/-- A bucket of a rebuild: one that goes away, or one of the new configuration. -/
inductive RebuildTarget
  | removed (id : BucketId)
  | kept (id : BucketId) (limit : MaxCapacity)
  | added (id : BucketId) (limit : MaxCapacity)

/-- `removed_buckets` and the quotas of the new configuration, each with the bucket
    object that is snapshotted: the current one where there is one. -/
def rebuildTargets (current newBackend : RedisClient)
    (quotas : List (BucketId × MaxCapacity)) : Except BackendError (List RebuildTarget) :=
  let removed := current.sortedBuckets.filter (· ∉ newBackend.sortedBuckets)
  if ∃ quota ∈ quotas, quota.1 ∉ newBackend.sortedBuckets then
    .error (.valueError .bucketNotFound)
  else
    .ok (removed.map .removed ++ quotas.map fun (id, limit) =>
      if id ∈ current.sortedBuckets then .kept id limit else .added id limit)

/-- `BucketSnapshotPlan`, with the bucket it is for. -/
structure BucketSnapshotPlan where
  target : RebuildTarget
  key : BucketKey
  projection : Projection
  retention : MaxCapacity

/-- The key and the new limit of a target. -/
def RebuildTarget.key (current newBackend : RedisClient) : RebuildTarget → BucketKey
  | .removed id | .kept id _ => current.bucketKey id
  | .added id _ => newBackend.bucketKey id

def RebuildTarget.limit : RebuildTarget → Option MaxCapacity
  | .removed _ => none
  | .kept _ limit | .added _ limit => some limit

def RebuildTarget.owner (newBackend : RedisClient) : RebuildTarget → BucketOwner
  | .removed _ | .kept _ _ => .running
  | .added _ _ => .rebuilt newBackend

/-- `_snapshot_bucket_state` with `prepare_only`: nothing is written. -/
def prepareSnapshot (owner : BucketOwner) (target : RebuildTarget) (key : BucketKey) :
    RedisProgram BucketSnapshotPlan := do
  let projection ← projectBucketState owner key
  let retention := retentionMaxCapacity projection.effective target.limit
  let client ← owner.client
  match projection.anchored with
  | none => return ⟨target, key, projection, retention⟩
  | some anchored => do
    let _ ← Program.lift (client.capacityTtl key.id anchored (some retention))
    return ⟨target, key, projection, retention⟩

/-- The first pass of a rebuild: every bucket is projected before any is changed. -/
def prepareSnapshots (stack : LockStack) (current newBackend : RedisClient) :
    List RebuildTarget → RedisProgram (List BucketSnapshotPlan)
  | [] => return []
  | target :: targets => do
    extendLocks stack
    let plan ← prepareSnapshot (target.owner newBackend) target (target.key current newBackend)
    let rest ← prepareSnapshots stack current newBackend targets
    return plan :: rest

/-- `_commit_bucket_snapshot` -/
def commitBucketSnapshot (owner : BucketOwner) (plan : BucketSnapshotPlan) :
    RedisProgram BucketOwner := do
  RedisBucket.refreshMaxCapacityOverrideTtl owner plan.key plan.projection.override
  let owner ← match plan.projection.anchored with
    | none => pure owner
    | some anchored =>
      RedisBucket.setCapacity owner plan.key anchored plan.projection.currentTime
        (some plan.retention)
  owner.updateCaches (.applyParsedMaxCapacityOverride plan.key.id plan.projection.override)

/-- The backend under construction after one of its buckets was changed. -/
def rebuiltBackend (newBackend : RedisClient) : BucketOwner → RedisClient
  | .running => newBackend
  | .rebuilt client => client

/-- The mutations of one bucket in the second pass of a rebuild. -/
def commitPlan (newBackend : RedisClient) (plan : BucketSnapshotPlan) :
    RedisProgram RedisClient :=
  match plan.target with
  | .removed _ => do
    let _ ← commitBucketSnapshot .running plan
    let _ ← RedisBucket.clearMaxCapacityOverride .running plan.key
    return newBackend
  | .kept id limit => do
    let _ ← commitBucketSnapshot .running plan
    let current ← send .client
    -- an override set under another configured limit does not survive
    let owner ←
      if current.maxCapacityDefault id ≠ limit then
        RedisBucket.clearMaxCapacityOverride (.rebuilt newBackend) (newBackend.bucketKey id)
      else pure (.rebuilt newBackend)
    return setConfigured id limit (rebuiltBackend newBackend owner)
  | .added id limit => do
    let owner ← commitBucketSnapshot (.rebuilt newBackend) plan
    return setConfigured id limit (rebuiltBackend newBackend owner)
where
  /-- `set_configured_max_capacity` on a bucket of the new backend. -/
  setConfigured (id : BucketId) (limit : MaxCapacity) (client : RedisClient) : RedisClient :=
    { client with maxCapacityDefault := Function.update client.maxCapacityDefault id limit }

/-- The second pass of a rebuild. -/
def commitPlans (stack : LockStack) (newBackend : RedisClient) :
    List BucketSnapshotPlan → RedisProgram RedisClient
  | [] => return newBackend
  | plan :: plans => do
    extendLocks stack
    let newBackend ← commitPlan newBackend plan
    commitPlans stack newBackend plans

/-- The backend after a rebuild: a surviving bucket keeps its confirmation.  The buckets come
    in the order of `full_redis_key` already, so that sorting them again changes nothing. -/
def reconfigured (current newBackend : RedisClient) : RedisClient :=
  { newBackend with
    callbacks := current.callbacks
    caches := { newBackend.caches with
      stateConfirmedAtServerTime := fun id =>
        if id ∈ current.sortedBuckets ∧ current.bucketKey id = newBackend.bucketKey id then
          current.caches.stateConfirmedAtServerTime id
        else newBackend.caches.stateConfirmedAtServerTime id } }

/-- `install_reconfigured_state` -/
def installReconfiguredState (newBackend : RedisClient) : RedisProgram Unit := do
  let current ← send .client
  if newBackend.keyPrefix ≠ current.keyPrefix then throw (.valueError .keyPrefixMismatch)
  else send (.installReconfiguredState (reconfigured current newBackend))

/-- `_combined_bucket_snapshot`: of buckets with the same `full_redis_key` the last one stays. -/
def combinedBucketSnapshot (buckets : List BucketKey) : List BucketKey :=
  (buckets.pwFilter fun a b => a.fullRedisKey ≠ b.fullRedisKey).insertionSort fun a b =>
    a.fullRedisKey ≤ b.fullRedisKey

/-- `prepare_reconfigured_backend` -/
def prepareReconfiguredBackend (newBackend : RedisClient)
    (quotas : List (BucketId × MaxCapacity)) : RedisProgram Unit := do
  let current ← send .client
  let keys := combinedBucketSnapshot (current.bucketKeys ++ newBackend.bucketKeys)
  withLocks (lockOrContention keys) fun stack => do
    let targets ← Program.lift (rebuildTargets current newBackend quotas)
    let plans ← prepareSnapshots stack current newBackend targets
    let newBackend ← commitPlans stack newBackend plans
    extendLocks stack
    installReconfiguredState newBackend
  send .suspend

end RedisBackend

end TokenThrottle
