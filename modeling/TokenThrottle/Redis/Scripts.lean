/-
  TokenThrottle.Redis.Scripts

  The Lua scripts of the Redis backend, command by command over the key space,
  with the write commands that may fail under `redis.pcall`.

  * A key holds a string or a value of another type, and may have a time to live
    in milliseconds.  A script runs at one instant: `PTTL` answers 0 for a key
    that is to expire within it.
  * Every write of a script before its compensation goes to a key of its own, so
    the writes that fail are given by their keys.  Compensating commands succeed.
  * A script returns an error reply or a status; both leave the key space as the
    commands before it made it, for Redis does not roll a script back.
-/
import Mathlib.Data.List.Nodup
import TokenThrottle.Basic

namespace TokenThrottle
namespace RedisScript

abbrev RedisKey := String

/-! ## The key space -/

/-- `other` stands for the types a string command refuses. -/
inductive RedisValue
  | string (s : String)
  | other
deriving DecidableEq

/-- A value and its remaining milliseconds, `none` for a key that does not expire. -/
structure Entry where
  value : RedisValue
  ttl : Option ℕ
deriving DecidableEq

abbrev Keyspace := RedisKey → Option Entry

inductive ReplyError
  | wrongType
  | invalidExpire
  | writeFailed
deriving DecidableEq

namespace Keyspace

/-- `GET` -/
def get (db : Keyspace) (key : RedisKey) : Except ReplyError (Option String) :=
  match db key with
  | none => .ok none
  | some ⟨.string s, _⟩ => .ok (some s)
  | some ⟨.other, _⟩ => .error .wrongType

/-- `PTTL`: -2 without the key, -1 without an expiry. -/
def pttl (db : Keyspace) (key : RedisKey) : ℤ :=
  match db key with
  | none => -2
  | some ⟨_, none⟩ => -1
  | some ⟨_, some milliseconds⟩ => milliseconds

/-- `EXISTS` -/
def hasKey (db : Keyspace) (key : RedisKey) : Bool := (db key).isSome

/-- `DEL` -/
def del (db : Keyspace) (key : RedisKey) : Keyspace := Function.update db key none

/-- A string set with an optional time to live. -/
def put (db : Keyspace) (key : RedisKey) (value : String) (ttl : Option ℕ) : Keyspace :=
  Function.update db key (some ⟨.string value, ttl⟩)

/-- `SET key value PX milliseconds` under `redis.pcall` -/
def set (db : Keyspace) (fails : RedisKey → Bool) (key : RedisKey) (value : String)
    (milliseconds : ℤ) : Except ReplyError Keyspace :=
  if fails key then .error .writeFailed
  else if milliseconds ≤ 0 then .error .invalidExpire
  else .ok (db.put key value (some milliseconds.toNat))

/-- `SET key value PX milliseconds NX` under `redis.pcall`; `none` when the key exists. -/
def setNx (db : Keyspace) (fails : RedisKey → Bool) (key : RedisKey) (value : String)
    (milliseconds : ℤ) : Except ReplyError (Option Keyspace) :=
  if fails key then .error .writeFailed
  else if milliseconds ≤ 0 then .error .invalidExpire
  else if db.hasKey key then .ok none
  else .ok (some (db.put key value (some milliseconds.toNat)))

/-- `DEL` under `redis.pcall` -/
def tryDel (db : Keyspace) (fails : RedisKey → Bool) (key : RedisKey) :
    Except ReplyError Keyspace :=
  if fails key then .error .writeFailed else .ok (db.del key)

/-- `EXPIRE key seconds` under `redis.pcall`; a time in the past deletes the key. -/
def expire (db : Keyspace) (fails : RedisKey → Bool) (key : RedisKey) (seconds : ℤ) :
    Except ReplyError Keyspace :=
  if fails key then .error .writeFailed
  else if seconds ≤ 0 then .ok (db.del key)
  else .ok (Function.update db key
    ((db key).map fun entry => { entry with ttl := some (seconds * 1000).toNat }))

end Keyspace

/-! ## Snapshots and compensation -/

/-- `{key, GET, PTTL}` -/
structure Snapshot where
  key : RedisKey
  value : Option String
  pttl : ℤ

/-- `snapshot_key`; the `GET` of a key of another type ends the script. -/
def snapshotKey (db : Keyspace) (key : RedisKey) : Except ReplyError Snapshot := do
  let value ← db.get key
  .ok ⟨key, value, db.pttl key⟩

/-- `restore_key` -/
def restoreKey (snapshot : Snapshot) (db : Keyspace) : Keyspace :=
  match snapshot.value with
  | none => db.del snapshot.key
  | some value =>
    if 0 < snapshot.pttl then db.put snapshot.key value (some snapshot.pttl.toNat)
    else if snapshot.pttl = -1 then db.put snapshot.key value none
    -- the key was to expire within the millisecond
    else db.del snapshot.key

/-- `rollback`: from the last snapshot to the first. -/
def rollback (snapshots : List Snapshot) (db : Keyspace) : Keyspace :=
  snapshots.foldr restoreKey db

/-! ## The writes of the buckets -/

/-- The two keys of a bucket and what a script sets them to. -/
structure BucketWrite where
  lastCheckedKey : RedisKey
  capacityKey : RedisKey
  lastChecked : String
  capacity : String
  ttlSeconds : ℤ

/-- `KEYS[3..]` -/
def bucketKeys (writes : List BucketWrite) : List RedisKey :=
  writes.flatMap fun write => [write.lastCheckedKey, write.capacityKey]

/-- The loop over the buckets: the key space it leaves, and the error that ended it. -/
def writeBuckets (fails : RedisKey → Bool) :
    List BucketWrite → Keyspace → Keyspace × Option ReplyError
  | [], db => (db, none)
  | write :: writes, db =>
    match db.set fails write.lastCheckedKey write.lastChecked (write.ttlSeconds * 1000) with
    | .error e => (db, some e)
    | .ok db =>
      match db.set fails write.capacityKey write.capacity (write.ttlSeconds * 1000) with
      | .error e => (db, some e)
      | .ok db => writeBuckets fails writes db

/-! ## `_ACQUIRE_MARKER_SET_SCRIPT` -/

/-- The keys and arguments of the acquire script; the keys are distinct. -/
structure AcquireCall where
  marker : RedisKey
  tombstone : RedisKey
  buckets : List BucketWrite
  markerTtlMilliseconds : ℤ
  markerValue : String
  distinct : (marker :: tombstone :: bucketKeys buckets).Nodup

inductive AcquireReply
  | ok
  | replayedAcquire
  | duplicateAcquire
deriving DecidableEq

/-- What a script returns, and the key space it leaves. -/
abbrev Returned (α : Type) := Except ReplyError α × Keyspace

def acquireMarkerSetScript (fails : RedisKey → Bool) (call : AcquireCall) (db : Keyspace) :
    Returned AcquireReply :=
  match db.get call.marker with
  | .error e => (.error e, db)
  | .ok (some existing) =>
    -- a marker decides before the tombstone is looked at
    (.ok (if existing = call.markerValue then .replayedAcquire else .duplicateAcquire), db)
  | .ok none =>
    if db.hasKey call.tombstone then (.ok .duplicateAcquire, db)
    else
      match (bucketKeys call.buckets).mapM (snapshotKey db) with
      | .error e => (.error e, db)
      | .ok snapshots =>
        match writeBuckets fails call.buckets db with
        | (written, some e) => (.error e, rollback snapshots written)
        | (written, none) =>
          match written.setNx fails call.marker call.markerValue call.markerTtlMilliseconds with
          | .error e => (.error e, rollback snapshots written)
          | .ok (some claimed) => (.ok .ok, claimed)
          | .ok none =>
            -- `SET NX` found a marker after all: the bucket writes are undone
            let restored := rollback snapshots written
            match restored.get call.marker with
            | .error e => (.error e, restored)
            | .ok existing =>
              (.ok (if existing = some call.markerValue then .replayedAcquire
                else .duplicateAcquire), restored)

/-! ## `_REFUND_WITH_MARKER_SCRIPT` -/

/-- The keys and arguments of the refund script; the keys are distinct. -/
structure RefundCall where
  marker : RedisKey
  tombstone : RedisKey
  buckets : List BucketWrite
  markerValue : String
  tombstoneTtlSeconds : ℤ
  tombstoneValue : String
  distinct : (marker :: tombstone :: bucketKeys buckets).Nodup

inductive RefundReply
  | ok
  | replayedRefund
  | duplicateRefund
  | unknownReservation
  | markerMismatch
  | incoherentRefund
deriving DecidableEq

def refundWithMarkerScript (fails : RedisKey → Bool) (call : RefundCall) (db : Keyspace) :
    Returned RefundReply :=
  match db.get call.marker with
  | .error e => (.error e, db)
  | .ok none =>
    match db.get call.tombstone with
    | .error e => (.error e, db)
    | .ok none => (.ok .unknownReservation, db)
    | .ok (some tombstone) =>
      (.ok (if tombstone = call.tombstoneValue then .replayedRefund else .duplicateRefund), db)
  | .ok (some marker) =>
    if marker ≠ call.markerValue then (.ok .markerMismatch, db)
    -- a reservation has a marker or a tombstone, never both
    else if db.hasKey call.tombstone then (.ok .incoherentRefund, db)
    else
      match (call.marker :: call.tombstone :: bucketKeys call.buckets).mapM (snapshotKey db) with
      | .error e => (.error e, db)
      | .ok snapshots =>
        match writeBuckets fails call.buckets db with
        | (written, some e) => (.error e, rollback snapshots written)
        | (written, none) =>
          match written.tryDel fails call.marker with
          | .error e => (.error e, rollback snapshots written)
          | .ok unmarked =>
            match unmarked.setNx fails call.tombstone call.tombstoneValue
              (call.tombstoneTtlSeconds * 1000) with
            | .error e => (.error e, rollback snapshots unmarked)
            | .ok (some claimed) => (.ok .ok, claimed)
            | .ok none => (.ok .incoherentRefund, rollback snapshots unmarked)

/-! ## `WRITE_OVERRIDE` -/

/-- The numbers of a decoded override payload that the script reads. -/
structure DecodedOverride where
  configuredMaxCapacity : Option ℚ
  overrideMaxCapacity : Option ℚ

/-- The keys and arguments of the override script; the override and its history are
    different keys, and `validate_redis_ttl_seconds` lets no time to live below 1. -/
structure OverrideCall where
  override : RedisKey
  history : RedisKey
  lastCheckedKey : RedisKey
  capacityKey : RedisKey
  refresh : Bool
  payload : String
  historyPayload : String
  historyTtlSeconds : ℤ
  configured : ℚ
  maximum : ℚ
  overrideTtlSeconds : ℤ
  distinct : override ≠ history
  overrideTtlSeconds_pos : 0 < overrideTtlSeconds

inductive OverrideReply
  | written
  | refused
deriving DecidableEq

/-- A live payload that the script refreshes: of the same configured maximum, up to the
    relative tolerance, and of the same override. -/
def refreshes (decode : String → Option DecodedOverride) (call : OverrideCall) (live : String) :
    Bool :=
  match decode live with
  | none => false
  | some decoded =>
    decoded.overrideMaxCapacity = some call.maximum &&
      decoded.configuredMaxCapacity.any fun configured =>
        |configured - call.configured| ≤ 1 / 10 ^ 12 * max |configured| |call.configured|

/-- The override the script is to refresh. -/
def OverrideCall.live (call : OverrideCall) (db : Keyspace) :
    Except ReplyError (Option String) :=
  if call.refresh then db.get call.override else .ok none

/-- `history_ttl`: the history outlives itself and the state of the bucket. -/
def OverrideCall.historyTtl (call : OverrideCall) (ttl : ℤ) (db : Keyspace) : ℤ :=
  max (max (call.historyTtlSeconds * 1000) ttl)
    (max (db.pttl call.lastCheckedKey) (db.pttl call.capacityKey))

/-- The write of the override's own key. -/
def OverrideCall.write (call : OverrideCall) (fails : RedisKey → Bool) (db : Keyspace) :
    Except ReplyError Keyspace :=
  if call.refresh then db.expire fails call.override call.overrideTtlSeconds
  else db.set fails call.override call.payload (call.overrideTtlSeconds * 1000)

/-- `cjson.decode` is the parameter `decode`. -/
def writeOverride (decode : String → Option DecodedOverride) (fails : RedisKey → Bool)
    (call : OverrideCall) (db : Keyspace) : Returned OverrideReply :=
  match snapshotKey db call.history with
  | .error e => (.error e, db)
  | .ok previous =>
    match call.live db with
    | .error e => (.error e, db)
    | .ok live =>
      -- a refresh only prolongs the override it was made for
      if call.refresh && !live.any (refreshes decode call) then (.ok .refused, db)
      else
        match db.set fails call.history call.historyPayload (call.historyTtl previous.pttl db) with
        | .error e => (.error e, db)
        | .ok saved =>
          match call.write fails saved with
          | .error e => (.error e, restoreKey previous saved)
          | .ok written => (.ok .written, written)

/-! ## What commands leave alone -/

namespace Keyspace

variable {db db' : Keyspace} {fails : RedisKey → Bool} {key key' : RedisKey} {value : String}
  {milliseconds : ℤ}

theorem get_none (h_get : db.get key = .ok none) : db key = none := by
  unfold get at h_get
  split at h_get
  · assumption
  · cases h_get
  · cases h_get

theorem put_apply (db : Keyspace) (key : RedisKey) (value : String) (ttl : Option ℕ)
    (key' : RedisKey) :
    db.put key value ttl key' = if key' = key then some ⟨.string value, ttl⟩ else db key' :=
  Function.update_apply db key _ key'

theorem del_apply (db : Keyspace) (key key' : RedisKey) :
    db.del key key' = if key' = key then none else db key' :=
  Function.update_apply db key none key'

theorem set_ok (h_ok : db.set fails key value milliseconds = .ok db') :
    db' = db.put key value (some milliseconds.toNat) := by
  unfold set at h_ok
  split at h_ok
  · cases h_ok
  · split at h_ok
    · cases h_ok
    · exact (Except.ok.inj h_ok).symm

theorem set_frame (h_ok : db.set fails key value milliseconds = .ok db')
    (h_ne : key' ≠ key) : db' key' = db key' := by
  rw [set_ok h_ok, put_apply, if_neg h_ne]

/-- Under `NX` a missing key is always claimed. -/
theorem setNx_ok {claimed : Option Keyspace} (h_missing : db key = none)
    (h_ok : db.setNx fails key value milliseconds = .ok claimed) :
    claimed = some (db.put key value (some milliseconds.toNat)) := by
  have h_has : db.hasKey key = false := by
    unfold hasKey
    rw [h_missing]
    rfl
  unfold setNx at h_ok
  rw [h_has] at h_ok
  split at h_ok
  · cases h_ok
  · split at h_ok
    · cases h_ok
    · exact (Except.ok.inj h_ok).symm

/-- What a snapshot brings back: the entry, unless it was to expire at once. -/
def surviving (db : Keyspace) (key : RedisKey) : Option Entry :=
  if db.pttl key = 0 then none else db key

end Keyspace

open Keyspace

variable {fails : RedisKey → Bool} {before db db' : Keyspace}

/-! ## What compensation brings back -/

/-- `after` is `before` again, but for written keys that were to expire at once. -/
def Restored (written : List RedisKey) (before after : Keyspace) : Prop :=
  ∀ key, after key = before key ∨
    (key ∈ written ∧ before.pttl key = 0 ∧ after key = none)

theorem Restored.refl (written : List RedisKey) (db : Keyspace) : Restored written db db :=
  fun _ => .inl rfl

theorem restoreKey_apply {key : RedisKey} {snapshot : Snapshot}
    (h_snapshot : snapshotKey before key = .ok snapshot) (db : Keyspace) (key' : RedisKey) :
    restoreKey snapshot db key' = if key' = key then before.surviving key else db key' := by
  obtain ⟨value, h_get, h_eq⟩ := bind_eq_ok h_snapshot
  cases h_eq
  unfold Keyspace.get at h_get
  cases h_entry : before key with
  | none =>
    rw [h_entry] at h_get
    cases h_get
    have h_surviving : before.surviving key = none := by
      unfold surviving
      rw [h_entry, ite_self]
    rw [h_surviving]
    exact del_apply db key key'
  | some entry =>
    obtain ⟨stored, ttl⟩ := entry
    cases stored with
    | other =>
      rw [h_entry] at h_get
      cases h_get
    | string stored =>
      rw [h_entry] at h_get
      cases h_get
      cases ttl with
      | none =>
        have h_pttl : before.pttl key = -1 := by
          unfold pttl
          rw [h_entry]
        have h_surviving : before.surviving key = some ⟨.string stored, none⟩ := by
          unfold surviving
          rw [h_pttl, if_neg (by decide), h_entry]
        rw [h_surviving, h_pttl]
        exact put_apply db key stored none key'
      | some milliseconds =>
        have h_pttl : before.pttl key = milliseconds := by
          unfold pttl
          rw [h_entry]
        rw [h_pttl]
        unfold restoreKey
        by_cases h_zero : milliseconds = 0
        · subst h_zero
          have h_surviving : before.surviving key = none := by
            unfold surviving
            rw [h_pttl, Nat.cast_zero, if_pos rfl]
          rw [h_surviving]
          exact del_apply db key key'
        · have h_pos : (0 : ℤ) < milliseconds := by omega
          have h_surviving :
              before.surviving key = some ⟨.string stored, some milliseconds⟩ := by
            unfold surviving
            rw [h_pttl, if_neg (by omega), h_entry]
          rw [h_surviving]
          simp only [if_pos h_pos, Int.toNat_natCast]
          exact put_apply db key stored (some milliseconds) key'

theorem rollback_apply {keys : List RedisKey} {snapshots : List Snapshot}
    (h_snapshots : keys.mapM (snapshotKey before) = .ok snapshots) (db : Keyspace)
    (key : RedisKey) :
    rollback snapshots db key = if key ∈ keys then before.surviving key else db key := by
  induction keys generalizing snapshots with
  | nil =>
    cases h_snapshots
    rfl
  | cons first keys ih =>
    rw [List.mapM_cons] at h_snapshots
    obtain ⟨snapshot, h_first, h_snapshots⟩ := bind_eq_ok h_snapshots
    obtain ⟨rest, h_rest, h_eq⟩ := bind_eq_ok h_snapshots
    cases h_eq
    show restoreKey snapshot (rollback rest db) key = _
    rw [restoreKey_apply h_first, ih h_rest]
    by_cases h_eq : key = first
    · subst h_eq
      rw [if_pos rfl, if_pos List.mem_cons_self]
    · rw [if_neg h_eq]
      simp [h_eq]

/-- Rolling back undoes every change of the keys that were snapshotted. -/
theorem rollback_restored {keys written : List RedisKey} {snapshots : List Snapshot}
    (h_snapshots : keys.mapM (snapshotKey before) = .ok snapshots)
    (h_frame : ∀ key ∉ keys, db key = before key) (h_written : ∀ key ∈ keys,
      before key = none ∨ key ∈ written) :
    Restored written before (rollback snapshots db) := by
  intro key
  rw [rollback_apply h_snapshots]
  by_cases h_mem : key ∈ keys
  · rw [if_pos h_mem]
    unfold surviving
    by_cases h_zero : before.pttl key = 0
    · rw [if_pos h_zero]
      rcases h_written key h_mem with h_none | h_written
      · exact .inl h_none.symm
      · exact .inr ⟨h_written, h_zero, rfl⟩
    · rw [if_neg h_zero]
      exact .inl rfl
  · rw [if_neg h_mem]
    exact .inl (h_frame key h_mem)

/-! ## What the writes of the buckets leave -/

/-- The bucket's keys hold what the script was given for them. -/
def Holds (db : Keyspace) (write : BucketWrite) : Prop :=
  db write.lastCheckedKey =
      some ⟨.string write.lastChecked, some (write.ttlSeconds * 1000).toNat⟩ ∧
    db write.capacityKey = some ⟨.string write.capacity, some (write.ttlSeconds * 1000).toNat⟩

theorem Holds.congr {write : BucketWrite}
    (h_lastChecked : db' write.lastCheckedKey = db write.lastCheckedKey)
    (h_capacity : db' write.capacityKey = db write.capacityKey) (h_holds : Holds db write) :
    Holds db' write :=
  ⟨h_lastChecked.trans h_holds.1, h_capacity.trans h_holds.2⟩

theorem mem_bucketKeys {write : BucketWrite} {writes : List BucketWrite}
    (h_mem : write ∈ writes) :
    write.lastCheckedKey ∈ bucketKeys writes ∧ write.capacityKey ∈ bucketKeys writes :=
  ⟨List.mem_flatMap.mpr ⟨write, h_mem, by simp⟩, List.mem_flatMap.mpr ⟨write, h_mem, by simp⟩⟩

theorem writeBuckets_frame (writes : List BucketWrite) (db : Keyspace) {key : RedisKey}
    (h_key : key ∉ bucketKeys writes) : (writeBuckets fails writes db).1 key = db key := by
  induction writes generalizing db with
  | nil => rfl
  | cons write writes ih =>
    have h_key : key ∉ [write.lastCheckedKey, write.capacityKey] ++ bucketKeys writes := h_key
    simp only [List.mem_append, List.mem_cons, List.not_mem_nil, or_false, not_or] at h_key
    obtain ⟨⟨h_lastChecked, h_capacity⟩, h_rest⟩ := h_key
    simp only [writeBuckets]
    split
    · rfl
    · rename_i checked h_checked
      have h_first := set_frame h_checked h_lastChecked
      split
      · exact h_first
      · rename_i stored h_stored
        rw [ih stored h_rest, set_frame h_stored h_capacity, h_first]

/-- When the loop ends without an error, every bucket holds its new state. -/
theorem writeBuckets_holds {writes : List BucketWrite} {db : Keyspace}
    (h_distinct : (bucketKeys writes).Nodup)
    (h_done : (writeBuckets fails writes db).2 = none) :
    ∀ write ∈ writes, Holds (writeBuckets fails writes db).1 write := by
  induction writes generalizing db with
  | nil => exact fun _ h_mem => by cases h_mem
  | cons write writes ih =>
    have h_distinct :
        ([write.lastCheckedKey, write.capacityKey] ++ bucketKeys writes).Nodup := h_distinct
    obtain ⟨h_pair, h_rest, h_disjoint⟩ := List.nodup_append'.mp h_distinct
    simp only [writeBuckets] at h_done ⊢
    cases h_checked : db.set fails write.lastCheckedKey write.lastChecked
        (write.ttlSeconds * 1000) with
    | error e =>
      rw [h_checked] at h_done
      cases h_done
    | ok checked =>
      simp only [h_checked] at h_done ⊢
      cases h_stored : checked.set fails write.capacityKey write.capacity
          (write.ttlSeconds * 1000) with
      | error e =>
        rw [h_stored] at h_done
        cases h_done
      | ok stored =>
        simp only [h_stored] at h_done ⊢
        intro write' h_mem
        rcases List.mem_cons.mp h_mem with rfl | h_mem
        · have h_holds : Holds stored write' := by
            have h_ne : write'.lastCheckedKey ≠ write'.capacityKey := by
              simpa using h_pair
            refine ⟨?_, ?_⟩
            · rw [set_frame h_stored h_ne, set_ok h_checked, put_apply, if_pos rfl]
            · rw [set_ok h_stored, put_apply, if_pos rfl]
          -- the buckets written later have keys of their own
          exact h_holds.congr
            (writeBuckets_frame writes stored fun h_in => h_disjoint (by simp) h_in)
            (writeBuckets_frame writes stored fun h_in => h_disjoint (by simp) h_in)
        · exact ih h_rest h_done write' h_mem

/-! ## All or nothing -/

theorem not_hasKey {key : RedisKey} (h_has : ¬ db.hasKey key = true) : db key = none :=
  Option.not_isSome_iff_eq_none.mp h_has

/-- What the acquire script leaves, by its reply. -/
def AcquireCall.Leaves (call : AcquireCall) (before after : Keyspace) :
    Except ReplyError AcquireReply → Prop
  | .error _ => Restored (bucketKeys call.buckets) before after
  | .ok .ok =>
    (∀ write ∈ call.buckets, Holds after write) ∧ before call.marker = none ∧
      after call.marker =
        some ⟨.string call.markerValue, some call.markerTtlMilliseconds.toNat⟩
  | .ok _ => after = before

theorem acquireMarkerSetScript_leaves {call : AcquireCall} {after : Keyspace}
    {reply : Except ReplyError AcquireReply}
    (h_run : acquireMarkerSetScript fails call db = (reply, after)) :
    call.Leaves db after reply := by
  obtain ⟨h_marker, h_rest⟩ := List.nodup_cons.mp call.distinct
  obtain ⟨_, h_buckets⟩ := List.nodup_cons.mp h_rest
  have h_marker : call.marker ∉ bucketKeys call.buckets := fun h_mem =>
    h_marker (List.mem_cons_of_mem _ h_mem)
  have h_frame : ∀ key ∉ bucketKeys call.buckets,
      (writeBuckets fails call.buckets db).1 key = db key := fun key h_key =>
    writeBuckets_frame call.buckets db h_key
  unfold acquireMarkerSetScript at h_run
  split at h_run
  · cases h_run
    exact Restored.refl _ db
  · rename_i existing _
    cases h_run
    by_cases h_same : existing = call.markerValue
    · rw [if_pos h_same]
      rfl
    · rw [if_neg h_same]
      rfl
  · rename_i h_get
    have h_missing := get_none h_get
    split at h_run
    · cases h_run
      rfl
    · split at h_run
      · cases h_run
        exact Restored.refl _ db
      · rename_i snapshots h_snapshots
        have h_restored : Restored (bucketKeys call.buckets) db
            (rollback snapshots (writeBuckets fails call.buckets db).1) :=
          rollback_restored h_snapshots h_frame fun key h_key => .inr h_key
        split at h_run
        · rename_i written e h_written
          simp only [h_written] at h_restored
          cases h_run
          exact h_restored
        · rename_i written h_written
          have h_done : (writeBuckets fails call.buckets db).2 = none := by rw [h_written]
          have h_holds := writeBuckets_holds h_buckets h_done
          have h_unclaimed := h_frame call.marker h_marker
          simp only [h_written] at h_restored h_holds h_unclaimed
          split at h_run
          · cases h_run
            exact h_restored
          · rename_i claimed h_claimed
            have h_claimed := setNx_ok (h_unclaimed.trans h_missing) h_claimed
            cases h_claimed
            cases h_run
            refine ⟨fun write h_mem => ?_, h_missing, ?_⟩
            · obtain ⟨h_lastChecked, h_capacity⟩ := mem_bucketKeys h_mem
              have h_other : ∀ key ∈ bucketKeys call.buckets, key ≠ call.marker :=
                fun key h_key h_eq => h_marker (h_eq ▸ h_key)
              refine (h_holds write h_mem).congr ?_ ?_
              · rw [put_apply, if_neg (h_other _ h_lastChecked)]
              · rw [put_apply, if_neg (h_other _ h_capacity)]
            · rw [put_apply, if_pos rfl]
          · -- the marker was missing, so `NX` cannot have refused it
            rename_i h_claimed
            cases setNx_ok (h_unclaimed.trans h_missing) h_claimed

/-- What the refund script leaves, by its reply. -/
def RefundCall.Leaves (call : RefundCall) (before after : Keyspace) :
    Except ReplyError RefundReply → Prop
  | .error _ => Restored (call.marker :: bucketKeys call.buckets) before after
  | .ok .ok =>
    (∀ write ∈ call.buckets, Holds after write) ∧
      (∃ ttl, before call.marker = some ⟨.string call.markerValue, ttl⟩) ∧
      before call.tombstone = none ∧ after call.marker = none ∧
      after call.tombstone =
        some ⟨.string call.tombstoneValue, some (call.tombstoneTtlSeconds * 1000).toNat⟩
  | .ok _ => after = before

theorem get_some {key : RedisKey} {value : String} (h_get : db.get key = .ok (some value)) :
    ∃ ttl, db key = some ⟨.string value, ttl⟩ := by
  unfold Keyspace.get at h_get
  split at h_get
  · cases h_get
  · rename_i ttl h_entry
    cases h_get
    exact ⟨ttl, h_entry⟩
  · cases h_get

theorem tryDel_ok {key : RedisKey} (h_ok : db.tryDel fails key = .ok db') : db' = db.del key := by
  unfold tryDel at h_ok
  split at h_ok
  · cases h_ok
  · exact (Except.ok.inj h_ok).symm

theorem refundWithMarkerScript_leaves {call : RefundCall} {after : Keyspace}
    {reply : Except ReplyError RefundReply}
    (h_run : refundWithMarkerScript fails call db = (reply, after)) :
    call.Leaves db after reply := by
  obtain ⟨h_marker, h_rest⟩ := List.nodup_cons.mp call.distinct
  obtain ⟨h_tombstone, h_buckets⟩ := List.nodup_cons.mp h_rest
  have h_ne : call.tombstone ≠ call.marker := fun h_eq => h_marker (by simp [h_eq])
  have h_marker : call.marker ∉ bucketKeys call.buckets := fun h_mem =>
    h_marker (List.mem_cons_of_mem _ h_mem)
  have h_frame : ∀ key ∉ bucketKeys call.buckets,
      (writeBuckets fails call.buckets db).1 key = db key := fun key h_key =>
    writeBuckets_frame call.buckets db h_key
  unfold refundWithMarkerScript at h_run
  split at h_run
  · cases h_run
    exact Restored.refl _ db
  · split at h_run
    · cases h_run
      exact Restored.refl _ db
    · cases h_run
      rfl
    · rename_i tombstone _
      cases h_run
      by_cases h_same : tombstone = call.tombstoneValue
      · rw [if_pos h_same]
        rfl
      · rw [if_neg h_same]
        rfl
  · rename_i marker h_get
    split at h_run
    · cases h_run
      rfl
    · rename_i h_value
      have h_value : marker = call.markerValue := not_not.mp h_value
      subst h_value
      split at h_run
      · cases h_run
        rfl
      · rename_i h_has
        have h_missing := not_hasKey h_has
        split at h_run
        · cases h_run
          exact Restored.refl _ db
        · rename_i snapshots h_snapshots
          -- the tombstone is not restored, but it was missing and is the last key to be written
          have h_restored : ∀ written : Keyspace,
              (∀ key ∉ call.marker :: call.tombstone :: bucketKeys call.buckets,
                written key = db key) →
              Restored (call.marker :: bucketKeys call.buckets) db
                (rollback snapshots written) := fun written h_same => by
            refine rollback_restored h_snapshots h_same fun key h_key => ?_
            rcases List.mem_cons.mp h_key with rfl | h_key
            · exact .inr List.mem_cons_self
            rcases List.mem_cons.mp h_key with rfl | h_key
            · exact .inl h_missing
            · exact .inr (List.mem_cons_of_mem _ h_key)
          split at h_run
          · rename_i written e h_written
            simp only [h_written] at h_frame
            cases h_run
            exact h_restored written fun key h_key => h_frame key fun h_mem =>
              h_key (List.mem_cons_of_mem _ (List.mem_cons_of_mem _ h_mem))
          · rename_i written h_written
            have h_done : (writeBuckets fails call.buckets db).2 = none := by rw [h_written]
            have h_holds := writeBuckets_holds h_buckets h_done
            simp only [h_written] at h_frame h_holds
            have h_written_frame : ∀ key ∉ call.marker :: call.tombstone ::
                bucketKeys call.buckets, written key = db key := fun key h_key =>
              h_frame key fun h_mem =>
                h_key (List.mem_cons_of_mem _ (List.mem_cons_of_mem _ h_mem))
            split at h_run
            · cases h_run
              exact h_restored written h_written_frame
            · rename_i unmarked h_unmarked
              have h_unmarked := tryDel_ok h_unmarked
              subst h_unmarked
              -- so `SET NX` on the tombstone cannot find one
              have h_unclaimed : (written.del call.marker) call.tombstone = none := by
                rw [del_apply, if_neg h_ne, h_frame _ h_tombstone, h_missing]
              split at h_run
              · cases h_run
                refine h_restored _ fun key h_key => ?_
                rw [del_apply, if_neg fun h_eq => h_key (by simp [h_eq])]
                exact h_written_frame key h_key
              · rename_i claimed h_claimed
                have h_claimed := setNx_ok h_unclaimed h_claimed
                cases h_claimed
                cases h_run
                refine ⟨fun write h_mem => ?_, get_some h_get, h_missing, ?_, ?_⟩
                · obtain ⟨h_lastChecked, h_capacity⟩ := mem_bucketKeys h_mem
                  have h_other : ∀ key ∈ bucketKeys call.buckets,
                      key ≠ call.tombstone ∧ key ≠ call.marker := fun key h_key =>
                    ⟨fun h_eq => h_tombstone (h_eq ▸ h_key), fun h_eq => h_marker (h_eq ▸ h_key)⟩
                  refine (h_holds write h_mem).congr ?_ ?_
                  · rw [put_apply, if_neg (h_other _ h_lastChecked).1, del_apply,
                      if_neg (h_other _ h_lastChecked).2]
                  · rw [put_apply, if_neg (h_other _ h_capacity).1, del_apply,
                      if_neg (h_other _ h_capacity).2]
                · rw [put_apply, if_neg h_ne.symm, del_apply, if_pos rfl]
                · rw [put_apply, if_pos rfl]
              · rename_i h_claimed
                cases setNx_ok h_unclaimed h_claimed

/-- What the override script leaves, by its reply: written, the history holds its new
    payload, and the override its new one or, refreshed, the one it had. -/
def OverrideCall.Leaves (call : OverrideCall) (before after : Keyspace) :
    Except ReplyError OverrideReply → Prop
  | .error _ => Restored [call.history] before after
  | .ok .written =>
    (∃ ttl, after call.history = some ⟨.string call.historyPayload, ttl⟩) ∧
      if call.refresh then
        ∃ live ttl, before call.override = some ⟨.string live, ttl⟩ ∧
          after call.override =
            some ⟨.string live, some (call.overrideTtlSeconds * 1000).toNat⟩
      else
        after call.override =
          some ⟨.string call.payload, some (call.overrideTtlSeconds * 1000).toNat⟩
  | .ok .refused => after = before

theorem expire_apply {key : RedisKey} {seconds : ℤ}
    (h_ok : db.expire fails key seconds = .ok db') (key' : RedisKey) :
    db' key' = if key' = key then
      if seconds ≤ 0 then none
      else (db key).map fun entry => { entry with ttl := some (seconds * 1000).toNat }
    else db key' := by
  unfold expire at h_ok
  split at h_ok
  · cases h_ok
  · split at h_ok
    · rename_i h_past
      cases h_ok
      rw [if_pos h_past]
      exact del_apply db key key'
    · rename_i h_past
      cases h_ok
      rw [if_neg h_past]
      exact Function.update_apply db key _ key'

/-- The write of the override leaves every other key. -/
theorem OverrideCall.write_frame (call : OverrideCall) {key : RedisKey}
    (h_ok : call.write fails db = .ok db') (h_ne : key ≠ call.override) : db' key = db key := by
  unfold OverrideCall.write at h_ok
  split at h_ok
  · rw [expire_apply h_ok, if_neg h_ne]
  · exact set_frame h_ok h_ne

theorem writeOverride_leaves {decode : String → Option DecodedOverride} {call : OverrideCall}
    {after : Keyspace} {reply : Except ReplyError OverrideReply}
    (h_run : writeOverride decode fails call db = (reply, after)) :
    call.Leaves db after reply := by
  unfold writeOverride at h_run
  split at h_run
  · cases h_run
    exact Restored.refl _ db
  · rename_i previous h_previous
    split at h_run
    · cases h_run
      exact Restored.refl _ db
    · rename_i live h_live
      split at h_run
      · cases h_run
        rfl
      · rename_i h_refresh
        split at h_run
        · cases h_run
          exact Restored.refl _ db
        · rename_i saved h_saved
          have h_history := set_ok h_saved
          split at h_run
          · cases h_run
            intro key
            show restoreKey previous saved key = db key ∨ _
            rw [restoreKey_apply h_previous]
            by_cases h_eq : key = call.history
            · rw [if_pos h_eq, h_eq]
              unfold surviving
              by_cases h_zero : db.pttl call.history = 0
              · rw [if_pos h_zero]
                exact .inr ⟨by simp, h_zero, rfl⟩
              · rw [if_neg h_zero]
                exact .inl rfl
            · rw [if_neg h_eq]
              exact .inl (set_frame h_saved h_eq)
          · rename_i written h_written
            cases h_run
            refine ⟨⟨some (call.historyTtl previous.pttl db).toNat, ?_⟩, ?_⟩
            · rw [call.write_frame h_written call.distinct.symm, h_history, put_apply, if_pos rfl]
            · have h_override : saved call.override = db call.override :=
                set_frame h_saved call.distinct
              unfold OverrideCall.write at h_written
              by_cases h_mode : call.refresh = true
              · rw [if_pos h_mode] at h_written ⊢
                unfold OverrideCall.live at h_live
                rw [if_pos h_mode] at h_live
                cases live with
                | none => simp [h_mode] at h_refresh
                | some live =>
                  obtain ⟨ttl, h_entry⟩ := get_some h_live
                  refine ⟨live, ttl, h_entry, ?_⟩
                  rw [expire_apply h_written, if_pos rfl,
                    if_neg (not_le.mpr call.overrideTtlSeconds_pos), h_override, h_entry]
                  rfl
              · rw [if_neg h_mode] at h_written ⊢
                rw [set_ok h_written, put_apply, if_pos rfl]

/-- The mutation scripts, on any buckets, over any key space and whichever of their
    writes fail: an error leaves every key as it was, but for keys that were to expire
    at that instant; a success leaves the whole transition; any other status leaves
    the key space untouched. -/
theorem scripts_allOrNothing (decode : String → Option DecodedOverride)
    (fails : RedisKey → Bool) (db : Keyspace) :
    (∀ call : AcquireCall, call.Leaves db (acquireMarkerSetScript fails call db).2
      (acquireMarkerSetScript fails call db).1) ∧
    (∀ call : RefundCall, call.Leaves db (refundWithMarkerScript fails call db).2
      (refundWithMarkerScript fails call db).1) ∧
    (∀ call : OverrideCall, call.Leaves db (writeOverride decode fails call db).2
      (writeOverride decode fails call db).1) :=
  ⟨fun _ => acquireMarkerSetScript_leaves rfl, fun _ => refundWithMarkerScript_leaves rfl,
    fun _ => writeOverride_leaves rfl⟩

/-! ### A key that expires within the script -/

/-- An acquire of one bucket. -/
def oneBucketAcquire : AcquireCall where
  marker := "marker"
  tombstone := "tombstone"
  buckets := [⟨"last_checked", "capacity", "2.0", "40.0", 604800⟩]
  markerTtlMilliseconds := 60000
  markerValue := "acquired"
  distinct := by decide

/-- The bucket's timestamp is live, but expires within the millisecond. -/
def expiringTimestamp : Keyspace := fun key =>
  if key = "last_checked" then some ⟨.string "1.0", some 0⟩
  else if key = "capacity" then some ⟨.string "100.0", some 5000⟩
  else none

/-- When the write of the capacity fails, the timestamp is not restored but deleted. -/
theorem expiringTimestamp_not_restored :
    ∃ e, (acquireMarkerSetScript (· = "capacity") oneBucketAcquire expiringTimestamp).1 =
        .error e ∧
      (acquireMarkerSetScript (· = "capacity") oneBucketAcquire expiringTimestamp).2
        "last_checked" = none ∧
      (expiringTimestamp "last_checked").map Entry.value = some (.string "1.0") :=
  ⟨.writeFailed, by decide +kernel, by decide +kernel, by decide +kernel⟩

end RedisScript

end TokenThrottle
