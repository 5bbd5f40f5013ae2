/-
  TokenThrottle.Limiter.BackendLookup

  `_get_backend` of the sync limiter among threads whose configurations change: the two
  lock-free reads of its fast path against the rebuilds that `_sync_backend_quotas` makes
  under `_lock`.

  * A thread takes one dictionary read or write, one section under `_acquire_guard`, or
    one call of a backend at a time.
  * The backend is one that closes itself when it is reconfigured, as SQLite's does: the
    object built last goes on in its place.
  * An acquire is registered as pending around its lookup; the lookup that a refund makes
    to refresh the backend is not.
-/
import TokenThrottle.Limiter.Eviction

namespace TokenThrottle

open Theory (Dict)

/-! ## The tables -/

/-- What a backend object is made of. -/
structure BackendObject where
  modelFamily : ModelFamily
  bucketIds : Finset BucketId
deriving DecidableEq

/-- The two dictionaries and the backend objects made so far.  `closedAtInstall` is
    history: the backends that were closed when a family's quotas were last written. -/
structure BackendCache where
  modelFamilyToBackend : Dict ModelFamily BackendId
  modelFamilyToQuotas : Dict ModelFamily QuotasSnapshot
  built : BackendId
  object : BackendId → BackendObject
  closed : Finset BackendId
  closedAtInstall : ModelFamily → Finset BackendId

namespace BackendCache

def empty : BackendCache where
  modelFamilyToBackend := .empty
  modelFamilyToQuotas := .empty
  built := 0
  object _ := ⟨"", ∅⟩
  closed := ∅
  closedAtInstall _ := ∅

/-- `self._backend.build(cfg)`; the preserved limits of a rebuild change no bucket id. -/
def build (c : BackendCache) (cfg : PerModelConfig) : BackendCache :=
  { c with
    built := c.built + 1
    object := Function.update c.object c.built ⟨cfg.modelFamily, cfg.quotas.keys⟩ }

def writeBackend (c : BackendCache) (modelFamily : ModelFamily) (backend : BackendId) :
    BackendCache :=
  { c with modelFamilyToBackend := c.modelFamilyToBackend.set modelFamily backend }

def writeQuotas (c : BackendCache) (modelFamily : ModelFamily) (snapshot : QuotasSnapshot) :
    BackendCache :=
  { c with
    modelFamilyToQuotas := c.modelFamilyToQuotas.set modelFamily snapshot
    closedAtInstall := Function.update c.closedAtInstall modelFamily c.closed }

def popQuotas (c : BackendCache) (modelFamily : ModelFamily) : BackendCache :=
  { c with modelFamilyToQuotas := c.modelFamilyToQuotas.pop modelFamily }

def close (c : BackendCache) (backend : BackendId) : BackendCache :=
  { c with closed := insert backend c.closed }

end BackendCache

/-! ## Where a thread stands -/

/-- `old_snapshot` and `old_backend` of a rebuild. -/
structure Rebuilding where
  oldSnapshot : QuotasSnapshot
  oldBackend : BackendId
deriving DecidableEq

/-- The next step of `_get_backend`. -/
inductive LookupPc
  | readBackend
  | readQuotas (backend : BackendId)
  | takeLock
  | rereadBackend
  | build
  | readOldSnapshot
  | readOldBackend (oldSnapshot : QuotasSnapshot)
  | warn (r : Rebuilding)
  | invalidate (r : Rebuilding)
  | rebuild (r : Rebuilding)
  | prepare (r : Rebuilding) (backend : BackendId)
  | closeOld (r : Rebuilding) (backend : BackendId)
  | restore (r : Rebuilding) (backend : BackendId)
  /-- The rebuild has raised. -/
  | reinstall (r : Rebuilding)
  | applyLimits (backend : BackendId)
  | writeBackend (backend : BackendId)
  | writeQuotas (backend : BackendId)
deriving DecidableEq

/-- The configuration of a call, and the reservation it acquires. -/
structure LookupCall where
  cfg : PerModelConfig
  reservationId : Option ReservationId

/-- The next step of the call around a lookup. -/
inductive LookupCallPc
  | begin
  | validate
  | lookup (pc : LookupPc)
  | inBackend (backend : BackendId)
  | rollback
  | finalize
deriving DecidableEq

structure LookupThread where
  call : LookupCall
  pc : LookupCallPc

/-- A backend that a lookup has returned, with the backends that were closed when the
    quotas were written that let it be returned. -/
structure ReturnedBackend where
  cfg : PerModelConfig
  backend : BackendId
  closedBefore : Finset BackendId

structure LookupLimiter where
  cache : BackendCache
  pendingAcquireReservations : Finset ReservationId
  inFlightReservationFamily : Dict ReservationId ModelFamily
  lock : Option ThreadId
  threads : Dict ThreadId LookupThread
  returned : List ReturnedBackend

/-- How a step of `_get_backend` ends. -/
inductive LookupResult
  | running (pc : LookupPc)
  | returns (backend : BackendId) (closedBefore : Finset BackendId)
  | raises

/-- Where a call goes on after a step of its lookup; a refresh ends with it. -/
def LookupCall.afterLookup (call : LookupCall) : LookupResult → Option LookupCallPc
  | .running pc => some (.lookup pc)
  | .returns backend _ => call.reservationId.map fun _ => .inBackend backend
  | .raises => call.reservationId.map fun _ => .rollback

namespace LookupLimiter

def init : LookupLimiter where
  cache := .empty
  pendingAcquireReservations := ∅
  inFlightReservationFamily := .empty
  lock := none
  threads := .empty
  returned := []

def setLock (s : LookupLimiter) (holder : Option ThreadId) : LookupLimiter :=
  { s with lock := holder }

def setCache (s : LookupLimiter) (cache : BackendCache) : LookupLimiter :=
  { s with cache := cache }

/-- The pending check of a rebuild: another acquire of the family is under way. -/
def pendingElsewhere (s : LookupLimiter) (call : LookupCall) : Bool :=
  ∃ rid ∈ s.pendingAcquireReservations, some rid ≠ call.reservationId ∧
    s.inFlightReservationFamily.get rid = some call.cfg.modelFamily

/-- One step of `_get_backend`.  `raises` decides the steps that can go two ways. -/
def lookupStep (s : LookupLimiter) (tid : ThreadId) (call : LookupCall) (raises : Bool) :
    LookupPc → Option (LookupLimiter × LookupResult)
  | .readBackend =>
    match s.cache.modelFamilyToBackend.get call.cfg.modelFamily with
    | some backend => some (s, .running (.readQuotas backend))
    | none => some (s, .running .takeLock)
  | .readQuotas backend =>
    if s.cache.modelFamilyToQuotas.get call.cfg.modelFamily = some call.cfg.quotas then
      some (s, .returns backend (s.cache.closedAtInstall call.cfg.modelFamily))
    else some (s, .running .takeLock)
  | .takeLock =>
    if s.lock = none then some (s.setLock (some tid), .running .rereadBackend) else none
  | .rereadBackend =>
    match s.cache.modelFamilyToBackend.get call.cfg.modelFamily with
    | some _ => some (s, .running .readOldSnapshot)
    | none => some (s, .running .build)
  | .build =>
    if raises then some (s.setLock none, .raises)
    else some (s.setCache (s.cache.build call.cfg), .running (.writeBackend s.cache.built))
  -- `_sync_backend_quotas`
  | .readOldSnapshot =>
    match s.cache.modelFamilyToQuotas.get call.cfg.modelFamily with
    | some oldSnapshot => some (s, .running (.readOldBackend oldSnapshot))
    -- `KeyError`
    | none => some (s.setLock none, .raises)
  -- however the snapshots compare, the backend is read first
  | .readOldBackend oldSnapshot =>
    match s.cache.modelFamilyToBackend.get call.cfg.modelFamily with
    | some backend =>
      if call.cfg.quotas = oldSnapshot then
        some (s.setLock none, .returns backend (s.cache.closedAtInstall call.cfg.modelFamily))
      else if call.cfg.quotas.keys ≠ oldSnapshot.keys then
        some (s, .running (.warn ⟨oldSnapshot, backend⟩))
      else some (s, .running (.applyLimits backend))
    | none => some (s.setLock none, .raises)
  | .warn r =>
    if raises then some (s.setLock none, .raises) else some (s, .running (.invalidate r))
  | .invalidate r =>
    if s.pendingElsewhere call then some (s.setLock none, .raises)
    else some (s.setCache (s.cache.popQuotas call.cfg.modelFamily), .running (.rebuild r))
  | .rebuild r =>
    if raises then some (s, .running (.reinstall r))
    else some (s.setCache (s.cache.build call.cfg), .running (.prepare r s.cache.built))
  | .prepare r backend =>
    if raises then some (s, .running (.reinstall r)) else some (s, .running (.closeOld r backend))
  -- the flag is set before the connection is closed
  | .closeOld r backend =>
    some (s.setCache (s.cache.close r.oldBackend),
      .running (if raises then .reinstall r else .restore r backend))
  | .restore r backend =>
    if raises then some (s, .running (.reinstall r)) else some (s, .running (.writeBackend backend))
  | .reinstall r =>
    some ((s.setCache (s.cache.writeQuotas call.cfg.modelFamily r.oldSnapshot)).setLock none,
      .raises)
  | .applyLimits backend =>
    if raises then some (s.setLock none, .raises) else some (s, .running (.writeQuotas backend))
  | .writeBackend backend =>
    some (s.setCache (s.cache.writeBackend call.cfg.modelFamily backend),
      .running (.writeQuotas backend))
  | .writeQuotas backend =>
    some ((s.setCache (s.cache.writeQuotas call.cfg.modelFamily call.cfg.quotas)).setLock none,
      .returns backend s.cache.closed)

/-! ### The call around a lookup -/

/-- The section of `_begin_pending_acquire`. -/
def beginPendingAcquire (s : LookupLimiter) (call : LookupCall) (rid : ReservationId) :
    LookupLimiter :=
  { s with
    pendingAcquireReservations := insert rid s.pendingAcquireReservations
    inFlightReservationFamily := s.inFlightReservationFamily.set rid call.cfg.modelFamily }

/-- The section of `_finalize_pending_acquire`. -/
def finalizePendingAcquire (s : LookupLimiter) (call : LookupCall) (rid : ReservationId) :
    LookupLimiter :=
  { s with
    pendingAcquireReservations := s.pendingAcquireReservations.erase rid
    inFlightReservationFamily := s.inFlightReservationFamily.set rid call.cfg.modelFamily }

/-- The section of `_rollback_pending_acquire`. -/
def rollbackPendingAcquire (s : LookupLimiter) (rid : ReservationId) : LookupLimiter :=
  { s with
    pendingAcquireReservations := s.pendingAcquireReservations.erase rid
    inFlightReservationFamily := s.inFlightReservationFamily.pop rid }

/-- What a lookup returned is kept. -/
def record (s : LookupLimiter) (cfg : PerModelConfig) : LookupResult → LookupLimiter
  | .returns backend closedBefore =>
    { s with returned := ⟨cfg, backend, closedBefore⟩ :: s.returned }
  | .running _ | .raises => s

/-- One step of a call, and where it goes on unless it has ended. -/
def callStep (s : LookupLimiter) (tid : ThreadId) (call : LookupCall) (raises : Bool) :
    LookupCallPc → Option (LookupLimiter × Option LookupCallPc)
  -- the limiter is closed, or has no slot
  | .begin =>
    match call.reservationId with
    | some rid =>
      if raises then some (s, none) else some (s.beginPendingAcquire call rid, some .validate)
    | none => none
  | .validate => if raises then some (s, some .rollback) else some (s, some (.lookup .readBackend))
  | .lookup pc =>
    match s.lookupStep tid call raises pc with
    | some (s, result) => some (s.record call.cfg result, call.afterLookup result)
    | none => none
  | .inBackend _ => some (s, some (if raises then .rollback else .finalize))
  | .rollback =>
    match call.reservationId with
    | some rid => some (s.rollbackPendingAcquire rid, none)
    | none => none
  | .finalize =>
    match call.reservationId with
    | some rid => some (s.finalizePendingAcquire call rid, none)
    | none => none

/-! ### All threads -/

def goOn (s : LookupLimiter) (tid : ThreadId) (call : LookupCall) :
    Option LookupCallPc → LookupLimiter
  | some pc => { s with threads := s.threads.set tid ⟨call, pc⟩ }
  | none => { s with threads := s.threads.pop tid }

inductive LookupLabel
  | acquire (tid : ThreadId) (rid : ReservationId) (cfg : PerModelConfig)
  | refresh (tid : ThreadId) (cfg : PerModelConfig)
  | thread (tid : ThreadId) (raises : Bool)

/-- One step of one thread, or the start of a call. -/
def step (s : LookupLimiter) : LookupLabel → Option LookupLimiter
  | .acquire tid rid cfg =>
    if s.threads.get tid = none then some (s.goOn tid ⟨cfg, some rid⟩ (some .begin)) else none
  | .refresh tid cfg =>
    if s.threads.get tid = none then
      some (s.goOn tid ⟨cfg, none⟩ (some (.lookup .readBackend)))
    else none
  | .thread tid raises =>
    match s.threads.get tid with
    | some t =>
      match s.callStep tid t.call raises t.pc with
      | some (s, pc) => some (s.goOn tid t.call pc)
      | none => none
    | none => none

end LookupLimiter

end TokenThrottle
