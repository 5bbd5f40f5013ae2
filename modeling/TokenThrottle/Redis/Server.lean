/-
  TokenThrottle.Redis.Server

  The Redis side of `_redis/_backend.py` and `_redis/_bucket.py`: the records the
  backends of all processes share, the commands and scripts they send, and what one
  process keeps beside them.

  * A command, a `MULTI` pipeline and a Lua script each run atomically.
  * A key is present or absent: its expiry is something that happens between two
    commands (`Turn.others`), so a command that only prolongs it changes nothing here.
  * A process answers the commands that are about itself (`client`, `uuid`, clocks,
    callbacks); they stand in the same list because they are points at which
    another task may run or an exception may arrive.
-/
import TokenThrottle.Persistence
import TokenThrottle.Theory.Program

namespace TokenThrottle

/-! ## Records -/

/-- A `uuid4`: the value of a lock or of a refund tombstone. -/
abbrev Token := ℕ

/-- The two keys of a bucket's state. -/
structure BucketFields where
  lastChecked : Option ℚ
  capacity : Option ℚ
deriving DecidableEq

/-- The payload of `:max_capacity_override`. -/
structure OverrideRecord where
  configuredMaxCapacity : MaxCapacity
  overrideMaxCapacity : MaxCapacity
deriving DecidableEq

/-- `OverrideExpiry` -/
structure OverrideExpiry where
  configured : MaxCapacity
  maximum : MaxCapacity
  expiresAt : ℚ
deriving DecidableEq

/-- `redis_acquired_marker_value`: equal encodings are equal contents. -/
structure AcquiredMarker where
  reservationId : ReservationId
  modelFamily : String
  bucketIds : Finset BucketId
  usage : FrozenUsage
deriving DecidableEq

structure RedisServer where
  state : BucketKey → BucketFields
  maxCapacityOverride : BucketKey → Option OverrideRecord
  overrideExpiry : BucketKey → Option OverrideExpiry
  acquired : ReservationKey → Option AcquiredMarker
  refundDedup : ReservationKey → Option Token
  locks : BucketKey → Option Token
  nextToken : Token

namespace RedisServer

def empty : RedisServer where
  state _ := ⟨none, none⟩
  maxCapacityOverride _ := none
  overrideExpiry _ := none
  acquired _ := none
  refundDedup _ := none
  locks _ := none
  nextToken := 0

/-- `SET` of a bucket's two keys. -/
def setState (s : RedisServer) (key : BucketKey) (capacity currentTime : ℚ) : RedisServer :=
  { s with state := Function.update s.state key ⟨some currentTime, some capacity⟩ }

def setStates (s : RedisServer) (writes : List (BucketKey × ℚ)) (currentTime : ℚ) :
    RedisServer :=
  writes.foldl (fun s write => s.setState write.1 write.2 currentTime) s

def setLock (s : RedisServer) (key : BucketKey) (token : Option Token) : RedisServer :=
  { s with locks := Function.update s.locks key token }

def setMarker (s : RedisServer) (key : ReservationKey) (marker : Option AcquiredMarker) :
    RedisServer :=
  { s with acquired := Function.update s.acquired key marker }

def setTombstone (s : RedisServer) (key : ReservationKey) (token : Option Token) :
    RedisServer :=
  { s with refundDedup := Function.update s.refundDedup key token }

def putOverride (s : RedisServer) (key : BucketKey) (record : Option OverrideRecord)
    (expiry : Option OverrideExpiry) : RedisServer :=
  { s with
    maxCapacityOverride := Function.update s.maxCapacityOverride key record
    overrideExpiry := Function.update s.overrideExpiry key expiry }

/-! ### Scripts -/

inductive AcquireStatus
  | ok
  | replayedAcquire
  | duplicateAcquire
deriving DecidableEq

/-- `_ACQUIRE_MARKER_SET_SCRIPT` -/
def acquireMarkerSetScript (s : RedisServer) (key : ReservationKey) (marker : AcquiredMarker)
    (writes : List (BucketKey × ℚ)) (currentTime : ℚ) : AcquireStatus × RedisServer :=
  match s.acquired key with
  | some existing => (if existing = marker then .replayedAcquire else .duplicateAcquire, s)
  | none =>
    if (s.refundDedup key).isSome then (.duplicateAcquire, s)
    else (.ok, (s.setStates writes currentTime).setMarker key (some marker))

inductive RefundStatus
  | ok
  | replayedRefund
  | duplicateRefund
  | unknownReservation
  | markerMismatch
  | incoherentRefund
deriving DecidableEq

/-- `_REFUND_WITH_MARKER_SCRIPT` -/
def refundWithMarkerScript (s : RedisServer) (key : ReservationKey) (marker : AcquiredMarker)
    (token : Token) (writes : List (BucketKey × ℚ)) (currentTime : ℚ) :
    RefundStatus × RedisServer :=
  match s.acquired key with
  | none =>
    match s.refundDedup key with
    | some tombstone =>
      (if tombstone = token then .replayedRefund else .duplicateRefund, s)
    | none => (.unknownReservation, s)
  | some existing =>
    if existing ≠ marker then (.markerMismatch, s)
    else if (s.refundDedup key).isSome then (.incoherentRefund, s)
    else
      (.ok, ((s.setStates writes currentTime).setMarker key none).setTombstone key (some token))

/-- The payload a live override must have to be refreshed: the same value, under
    the configured limit of the caller. -/
def overrideMatches (s : RedisServer) (key : BucketKey) (record : OverrideRecord) : Bool :=
  (s.maxCapacityOverride key).any fun live =>
    live.overrideMaxCapacity = record.overrideMaxCapacity ∧
      isclose live.configuredMaxCapacity.value record.configuredMaxCapacity.value

/-- The history a write of an override leaves beside it. -/
def expiryOf (record : OverrideRecord) (expiresAt : ℚ) : OverrideExpiry where
  configured := record.configuredMaxCapacity
  maximum := record.overrideMaxCapacity
  expiresAt := expiresAt

/-- `WRITE_OVERRIDE` in its `refresh` mode: the override stays, its history moves on. -/
def refreshOverride (s : RedisServer) (key : BucketKey) (record : OverrideRecord)
    (expiresAt : ℚ) : Bool × RedisServer :=
  if s.overrideMatches key record then
    (true, s.putOverride key (s.maxCapacityOverride key) (some (expiryOf record expiresAt)))
  else (false, s)

end RedisServer

/-! ## A process -/

/-- What the `RedisBucket` objects of a process remember between calls. -/
structure BucketCaches where
  maxCapacityCached : BucketId → Option MaxCapacity
  stateConfirmedAtServerTime : BucketId → Option ℚ

inductive CallbackSlot
  | onMissingConsumptionData
  | onCapacityConsumed
  | onCapacityRefunded
  | onWaitStart
  | afterWaitEndConsumption
deriving DecidableEq

/-- A `RedisBackend` with its `RedisBucket` objects; `callbacks` says which callbacks
    are configured. -/
structure RedisClient where
  keyPrefix : String
  modelFamily : String
  sortedBuckets : List BucketId
  nodup : sortedBuckets.Nodup
  maxCapacityDefault : BucketId → MaxCapacity
  bucketTtlSeconds : ℕ
  overrideTtlSeconds : ℕ
  callbacks : CallbackSlot → Bool
  caches : BucketCaches

/-! ## Commands -/

inductive Command
  | acquireLock (key : BucketKey) (token : Token)
  | reacquireLock (key : BucketKey) (token : Token)
  | releaseLock (key : BucketKey) (token : Token)
  | time
  | readBuckets (keys : List BucketKey)
  | readState (key : BucketKey)
  | getOverride (key : BucketKey)
  | getExpiry (key : BucketKey)
  | getCapacity (key : BucketKey)
  | getMarker (key : ReservationKey)
  | tombstoneExists (key : ReservationKey)
  | retainExpiry (key : BucketKey)
  | refreshOverride (key : BucketKey) (record : OverrideRecord) (expiresAt : ℚ)
  | repairStates (keys : List BucketKey) (currentTime : ℚ)
  | setStates (writes : List (BucketKey × ℚ)) (currentTime : ℚ)
      (deleteMarker : Option ReservationKey)
  | acquireMarkerSetScript (key : ReservationKey) (marker : AcquiredMarker)
      (writes : List (BucketKey × ℚ)) (currentTime : ℚ)
  | refundWithMarkerScript (key : ReservationKey) (marker : AcquiredMarker) (token : Token)
      (writes : List (BucketKey × ℚ)) (currentTime : ℚ)
  | setOverride (key : BucketKey) (record : OverrideRecord) (expiresAt : ℚ)
  | deleteOverride (key : BucketKey)
  | uuid
  | monotonic
  | client
  | updateCaches (f : BucketCaches → BucketCaches)
  | setConfiguredMaxCapacity (id : BucketId) (value : MaxCapacity)
  | installReconfiguredState (client : RedisClient)
  | callback (slot : CallbackSlot)
  | suspend

/-- The answer to a command. -/
@[reducible] def Command.Response : Command → Type
  | .acquireLock _ _ | .reacquireLock _ _ | .releaseLock _ _ => Bool
  | .time | .monotonic => ℚ
  | .readBuckets _ => BucketKey → BucketFields × Option OverrideRecord
  | .readState _ => BucketFields
  | .getOverride _ => Option OverrideRecord
  | .getExpiry _ => Option OverrideExpiry
  | .getCapacity _ => Option ℚ
  | .getMarker _ => Option AcquiredMarker
  | .tombstoneExists _ => Bool
  | .refreshOverride _ _ _ => Bool
  | .acquireMarkerSetScript _ _ _ _ => RedisServer.AcquireStatus
  | .refundWithMarkerScript _ _ _ _ _ => RedisServer.RefundStatus
  | .uuid => Token
  | .client => RedisClient
  | _ => Unit

abbrev RedisProgram := Theory.Program Command Command.Response BackendError

/-- Sends one command. -/
abbrev send (command : Command) : RedisProgram command.Response := .perform command

/-! ## Execution -/

/-- A server and one of its clients. -/
structure Session where
  server : RedisServer
  client : RedisClient

/-- What a command meets: what everyone else did since the last one, the clocks, and
    how its answer comes back. -/
structure Turn where
  others : RedisServer → RedisServer
  currentTime : ℚ
  monotonic : ℚ
  delivery : Delivery

namespace Session

/-- The session with another server state. -/
def withServer (s : Session) (server : RedisServer) : Session := { s with server := server }

/-- The lock commands compare a lock's value with the caller's token. -/
def ownsLock (s : Session) (key : BucketKey) (token : Token) : Bool :=
  s.server.locks key = some token

def execute (turn : Turn) (s : Session) : (command : Command) → command.Response × Session
  | .acquireLock key token =>
    if (s.server.locks key).isNone then (true, s.withServer (s.server.setLock key (some token)))
    else (false, s)
  | .reacquireLock key token => (s.ownsLock key token, s)
  | .releaseLock key token =>
    if s.ownsLock key token then (true, s.withServer (s.server.setLock key none))
    else (false, s)
  | .time => (turn.currentTime, s)
  | .readBuckets _ => (fun key => (s.server.state key, s.server.maxCapacityOverride key), s)
  | .readState key => (s.server.state key, s)
  | .getOverride key => (s.server.maxCapacityOverride key, s)
  | .getExpiry key => (s.server.overrideExpiry key, s)
  | .getCapacity key => ((s.server.state key).capacity, s)
  | .getMarker key => (s.server.acquired key, s)
  | .tombstoneExists key => ((s.server.refundDedup key).isSome, s)
  | .retainExpiry _ => ((), s)
  | .refreshOverride key record expiresAt =>
    ((s.server.refreshOverride key record expiresAt).1,
      s.withServer (s.server.refreshOverride key record expiresAt).2)
  | .repairStates keys currentTime =>
    ((), s.withServer (s.server.setStates (keys.map fun key => (key, 0)) currentTime))
  | .setStates writes currentTime deleteMarker =>
    ((), s.withServer <| match deleteMarker with
      | none => s.server.setStates writes currentTime
      | some key => (s.server.setStates writes currentTime).setMarker key none)
  | .acquireMarkerSetScript key marker writes currentTime =>
    ((s.server.acquireMarkerSetScript key marker writes currentTime).1,
      s.withServer (s.server.acquireMarkerSetScript key marker writes currentTime).2)
  | .refundWithMarkerScript key marker token writes currentTime =>
    ((s.server.refundWithMarkerScript key marker token writes currentTime).1,
      s.withServer (s.server.refundWithMarkerScript key marker token writes currentTime).2)
  | .setOverride key record expiresAt =>
    ((), s.withServer
      (s.server.putOverride key (some record) (some (RedisServer.expiryOf record expiresAt))))
  | .deleteOverride key => ((), s.withServer (s.server.putOverride key none none))
  -- no two processes draw the same uuid
  | .uuid =>
    (s.server.nextToken, s.withServer { s.server with nextToken := s.server.nextToken + 1 })
  | .monotonic => (turn.monotonic, s)
  | .client => (s.client, s)
  | .updateCaches f => ((), { s with client := { s.client with caches := f s.client.caches } })
  | .setConfiguredMaxCapacity id value =>
    ((), { s with client := { s.client with
      maxCapacityDefault := Function.update s.client.maxCapacityDefault id value } })
  | .installReconfiguredState client => ((), { s with client := client })
  | .callback _ => ((), s)
  | .suspend => ((), s)

/-- A command served in a turn. -/
def serve (turn : Turn) (command : Command) (s : Session) :
    Except BackendError command.Response × Session :=
  let s := s.withServer (turn.others s.server)
  match turn.delivery with
  | .answered => (.ok (s.execute turn command).1, (s.execute turn command).2)
  | .lost e => (.error e, (s.execute turn command).2)
  | .refused e => (.error e, s)

end Session

end TokenThrottle
