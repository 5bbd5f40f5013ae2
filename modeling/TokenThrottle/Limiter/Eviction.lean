/-
  TokenThrottle.Limiter.Eviction

  `clear_unused_model_families` of the sync limiter among threads that acquire and
  refund: each thread takes one dictionary or set read or write at a time, or one
  section under `_acquire_guard`.

  * The eviction holds `_validation_lock` throughout.  The acquires it runs beside
    take that lock only when their model's signature is not yet known, so its reads
    and pops are steps of their own.
  * `_get_backend` has a fast path of two reads and a slow path under `_lock`.
  * `_forget_in_flight_reservation` runs under none of the locks that the other users of
    its tables take, so each of its removals is a step.
  * Configurations do not change: a model keeps its family, and the models of a
    family share its quotas, as `_validate_shared_model_family_config` demands.
-/
import TokenThrottle.Limiter.Acquire
import TokenThrottle.Limiter.Registry

namespace TokenThrottle

open Theory (Dict)

abbrev ThreadId := ℕ

/-- The backend objects a builder has made, in order. -/
abbrev BackendId := ℕ

/-! ## Where a thread stands -/

/-- The next step of `_get_backend`. -/
inductive GetBackendPc
  | readBackend
  | readQuotas (backend : BackendId)
  | takeLock
  | rereadBackend
  | readOldSnapshot
  | readCached
  /-- The snapshots differ: the family would be reconfigured. -/
  | reconfigure
  | build
  | writeBackend (backend : BackendId)
  | writeQuotas (backend : BackendId)
deriving DecidableEq

/-- The table `_forget_in_flight_reservation` takes the reservation out of next. -/
inductive ForgetStage
  | inFlight
  | pending
  | delivery
  | family
deriving DecidableEq

/-- The next step of `_acquire_capacity`. -/
inductive AcquirePc
  | begin
  | readSignature
  | touch
  | validate
  | getBackend (pc : GetBackendPc)
  | callBackend (backend : BackendId)
  | inBackend (backend : BackendId)
  | rollback
  /-- The backend's cleanup failed: the reservation is kept for the caller. -/
  | finalizeFailed
  | beginDelivery
  | finalize
  | emit
  | finalizeUndelivered
  | forget (stage : ForgetStage)
  | endDelivery
deriving DecidableEq

/-- The next step of `refund_capacity`. -/
inductive RefundPc
  | begin
  | refresh (pc : GetBackendPc)
  | readBackend
  | readInFlight (backend : BackendId)
  | inBackend (backend : BackendId)
  /-- `committed`: the forgetting is part of `_commit_refund_state`. -/
  | forget (stage : ForgetStage) (committed : Bool)
  | touch
deriving DecidableEq

/-- The table `clear_unused_model_families` pops the family from next. -/
inductive PopStage
  | backend
  | modelName
  | quotas
  | validatedSignature
  | lastTouched
  | aliases
  | aliasSignature (model : ModelName)
  | signatureCounts
  | aliasCounts
deriving DecidableEq

/-- The next step of `clear_unused_model_families`. -/
inductive EvictPc
  | takeLock (unusedForSeconds : ℕ)
  | readInFlight (cutoff : ℚ)
  | startSelect (cutoff : ℚ) (inFlight : Finset ModelFamily)
  /-- In the comprehension over `_model_family_last_touched`, which had `size` items. -/
  | select (cutoff : ℚ) (inFlight : Finset ModelFamily) (size : ℕ)
      (examined : Finset ModelFamily) (expired : List ModelFamily)
  | pop (stage : PopStage) (modelFamily : ModelFamily) (rest : List ModelFamily)
deriving DecidableEq

inductive ThreadPc
  | acquire (rid : ReservationId) (model : ModelName) (block : Bool) (pc : AcquirePc)
  /-- `undelivered`: the refund an interrupted acquire makes of its own reservation. -/
  | refund (rid : ReservationId) (model : ModelName) (undelivered : Bool) (pc : RefundPc)
  | evict (pc : EvictPc)
  | done
deriving DecidableEq

/-- What decides between the ways a step can go. -/
inductive ThreadEvent
  | proceed
  | raises
  /-- The backend's own cleanup of a consumption failed. -/
  | cleanupFails
  /-- The configuration getter raised, so the refund goes on with what is cached. -/
  | refreshFails
  /-- The backend raised for an unknown reservation, or its lifetime has passed. -/
  | forgets
  | examine (modelFamily : ModelFamily)
  | popAlias (model : ModelName)
deriving DecidableEq

/-! ## The limiter -/

/-- What the limiter is constructed with and what its configuration getter gives. -/
structure FamilyConfigs where
  caps : Caps
  maxInFlightReservations : ℕ
  familyOf : ModelName → ModelFamily
  quotasOf : ModelFamily → QuotasSnapshot

namespace FamilyConfigs

def configOf (cfg : FamilyConfigs) (model : ModelName) : PerModelConfig :=
  ⟨cfg.familyOf model, cfg.quotasOf (cfg.familyOf model)⟩

def configGetter (cfg : FamilyConfigs) : ConfigGetter := fun model => .ok (cfg.configOf model)

end FamilyConfigs

/-- The shared tables and locks, the threads, and the history: the model each
    reservation id was first used with, the family and the backend object each
    consumption started on, and the reservations that are no longer held (refunded,
    rolled back or forgotten). -/
structure FamilyLimiter where
  registry : FamilyRegistry
  modelFamilyToBackend : Dict ModelFamily BackendId
  modelFamilyToQuotas : Dict ModelFamily QuotasSnapshot
  tables : AcquireTables
  inFlightReservationFamily : Dict ReservationId ModelFamily
  validationLock : Option ThreadId
  lock : Option ThreadId
  built : BackendId
  now : ℚ
  threads : Dict ThreadId ThreadPc
  issuedFor : Dict ReservationId ModelName
  consumedOn : Dict ReservationId (ModelFamily × BackendId)
  released : Finset ReservationId

namespace FamilyLimiter

def init (cfg : FamilyConfigs) (now : ℚ) : FamilyLimiter where
  registry := .init
  modelFamilyToBackend := .empty
  modelFamilyToQuotas := .empty
  tables := .init cfg.maxInFlightReservations
  inFlightReservationFamily := .empty
  validationLock := none
  lock := none
  built := 0
  now := now
  threads := .empty
  issuedFor := .empty
  consumedOn := .empty
  released := ∅

/-! ### Single steps on the tables -/

def setThread (s : FamilyLimiter) (tid : ThreadId) (pc : ThreadPc) : FamilyLimiter :=
  { s with threads := s.threads.set tid pc }

def setLock (s : FamilyLimiter) (holder : Option ThreadId) : FamilyLimiter :=
  { s with lock := holder }

def setValidationLock (s : FamilyLimiter) (holder : Option ThreadId) : FamilyLimiter :=
  { s with validationLock := holder }

def setRegistry (s : FamilyLimiter) (registry : FamilyRegistry) : FamilyLimiter :=
  { s with registry := registry }

def touch (s : FamilyLimiter) (modelFamily : ModelFamily) : FamilyLimiter :=
  s.setRegistry (s.registry.touchModelFamily modelFamily s.now)

/-- The lock-protected section of `_begin_pending_acquire`, and whether it raised. -/
def beginPendingAcquire (s : FamilyLimiter) (rid : ReservationId) (modelFamily : ModelFamily) :
    FamilyLimiter × Bool :=
  let (tables, accepted) := s.tables.beginPendingAcquire rid
  if accepted then
    ({ s with
      tables := tables
      inFlightReservationFamily := s.inFlightReservationFamily.set rid modelFamily }, true)
  else ({ s with tables := tables }, false)

/-- `_finalize_pending_acquire` -/
def finalizePendingAcquire (s : FamilyLimiter) (rid : ReservationId) (model : ModelName)
    (modelFamily : ModelFamily) : FamilyLimiter :=
  { s with
    tables := s.tables.finalizePendingAcquire rid
    inFlightReservationFamily := s.inFlightReservationFamily.set rid modelFamily
    registry := { s.registry with
      modelFamilyToModelName := s.registry.modelFamilyToModelName.set modelFamily model
      }.touchModelFamily modelFamily s.now }

/-- `_rollback_pending_acquire` -/
def rollbackPendingAcquire (s : FamilyLimiter) (rid : ReservationId) : FamilyLimiter :=
  { s with
    tables := s.tables.rollbackPendingAcquire rid
    inFlightReservationFamily := s.inFlightReservationFamily.pop rid
    released := insert rid s.released }

/-- One removal of `_forget_in_flight_reservation`, and the next one: no lock keeps the
    other users of the tables out meanwhile. -/
def forgetStep (s : FamilyLimiter) (rid : ReservationId) :
    ForgetStage → FamilyLimiter × Option ForgetStage
  | .inFlight =>
    ({ s with
      tables := { s.tables with
        inFlightReservationIds := s.tables.inFlightReservationIds.erase rid } }, some .pending)
  | .pending =>
    ({ s with
      tables := { s.tables with
        pendingAcquireReservations := s.tables.pendingAcquireReservations.erase rid } },
      some .delivery)
  | .delivery =>
    ({ s with
      tables := { s.tables with
        acquireDeliveryCleanupReservations :=
          s.tables.acquireDeliveryCleanupReservations.erase rid } }, some .family)
  | .family =>
    ({ s with
      inFlightReservationFamily := s.inFlightReservationFamily.pop rid
      released := insert rid s.released }, none)

/-- The slow path of `_validate_shared_model_family_config`, and whether it raised. -/
def validateShared (s : FamilyLimiter) (cfg : FamilyConfigs) (model : ModelName) :
    FamilyLimiter × Bool :=
  match s.registry.validateSharedModelFamilyConfig cfg.caps
      ⟨model, cfg.configOf model, cfg.configGetter, s.now⟩ true with
  | .ok registry => (s.setRegistry registry, true)
  | .error _ => (s, false)

/-! ### `_get_backend` -/

/-- How a step of `_get_backend` ends. -/
inductive GetBackendResult
  | running (pc : GetBackendPc)
  | returns (backend : BackendId)
  | raises
deriving DecidableEq

/-- One step of `_get_backend`; only the build of a backend has two ways to go. -/
def getBackendStep (cfg : FamilyConfigs) (s : FamilyLimiter) (tid : ThreadId)
    (modelFamily : ModelFamily) (buildRaises : Bool) :
    GetBackendPc → Option (FamilyLimiter × GetBackendResult)
  | .readBackend =>
    match s.modelFamilyToBackend.get modelFamily with
    | some backend => some (s, .running (.readQuotas backend))
    | none => some (s, .running .takeLock)
  | .readQuotas backend =>
    if s.modelFamilyToQuotas.get modelFamily = some (cfg.quotasOf modelFamily) then
      some (s, .returns backend)
    else some (s, .running .takeLock)
  | .takeLock =>
    if s.lock = none then some (s.setLock (some tid), .running .rereadBackend) else none
  | .rereadBackend =>
    match s.modelFamilyToBackend.get modelFamily with
    | some _ => some (s, .running .readOldSnapshot)
    | none => some (s, .running .build)
  -- `_sync_backend_quotas`
  | .readOldSnapshot =>
    match s.modelFamilyToQuotas.get modelFamily with
    | some oldSnapshot =>
      if oldSnapshot = cfg.quotasOf modelFamily then some (s, .running .readCached)
      else some (s, .running .reconfigure)
    -- `KeyError`
    | none => some (s.setLock none, .raises)
  | .readCached =>
    match s.modelFamilyToBackend.get modelFamily with
    | some backend => some (s.setLock none, .returns backend)
    | none => some (s.setLock none, .raises)
  | .reconfigure => none
  | .build =>
    if buildRaises then some (s.setLock none, .raises)
    else some ({ s with built := s.built + 1 }, .running (.writeBackend s.built))
  | .writeBackend backend =>
    some ({ s with modelFamilyToBackend := s.modelFamilyToBackend.set modelFamily backend },
      .running (.writeQuotas backend))
  | .writeQuotas backend =>
    some ({ s with
      modelFamilyToQuotas :=
        s.modelFamilyToQuotas.set modelFamily (cfg.quotasOf modelFamily)
      lock := none }, .returns backend)

/-! ### `_acquire_capacity` -/

/-- One step of an acquire or of a `record_usage`. -/
def acquireStep (cfg : FamilyConfigs) (s : FamilyLimiter) (tid : ThreadId)
    (rid : ReservationId) (model : ModelName) (block : Bool) :
    AcquirePc → ThreadEvent → Option (FamilyLimiter × ThreadPc)
  | .begin, .proceed =>
    let (s, accepted) := s.beginPendingAcquire rid (cfg.familyOf model)
    some (s, if accepted then .acquire rid model block .readSignature else .done)
  | .readSignature, .proceed =>
    if s.registry.modelNameToValidatedSignature.get model =
        some (configSignature (cfg.configOf model)) then
      some (s, .acquire rid model block .touch)
    else some (s, .acquire rid model block .validate)
  | .touch, .proceed =>
    some (s.touch (cfg.familyOf model), .acquire rid model block (.getBackend .readBackend))
  | .validate, .proceed =>
    if s.validationLock = none then
      let (s, accepted) := s.validateShared cfg model
      some (s, .acquire rid model block
        (if accepted then .getBackend .readBackend else .rollback))
    else none
  | .getBackend pc, event =>
    if event = .proceed ∨ event = .raises then
      match getBackendStep cfg s tid (cfg.familyOf model) (event = .raises) pc with
      | some (s, .running pc) => some (s, .acquire rid model block (.getBackend pc))
      | some (s, .returns backend) => some (s, .acquire rid model block (.callBackend backend))
      | some (s, .raises) => some (s, .acquire rid model block .rollback)
      | none => none
    else none
  | .callBackend backend, .proceed =>
    some ({ s with consumedOn := s.consumedOn.set rid (cfg.familyOf model, backend) },
      .acquire rid model block (.inBackend backend))
  | .inBackend _, .proceed => some (s, .acquire rid model block .beginDelivery)
  | .inBackend _, .raises => some (s, .acquire rid model block .rollback)
  -- the consumption could not be given back: the reservation stays in flight for it
  | .inBackend _, .cleanupFails =>
    if block then some (s, .acquire rid model block .finalizeFailed) else none
  | .rollback, .proceed => some (s.rollbackPendingAcquire rid, .done)
  | .finalizeFailed, .proceed =>
    some (s.finalizePendingAcquire rid model (cfg.familyOf model), .done)
  | .beginDelivery, .proceed =>
    some ({ s with tables := s.tables.beginAcquireDeliveryCleanup rid },
      .acquire rid model block .finalize)
  | .finalize, .proceed =>
    some (s.finalizePendingAcquire rid model (cfg.familyOf model),
      .acquire rid model block .emit)
  | .emit, .proceed => some (s, .acquire rid model block .endDelivery)
  -- the backend has consumed by now, so an acquire goes on to refund it
  | .emit, .raises =>
    some (s, .acquire rid model block
      (if block then .finalizeUndelivered else .forget .inFlight))
  | .finalizeUndelivered, .proceed =>
    some (s.finalizePendingAcquire rid model (cfg.familyOf model),
      .refund rid model true .begin)
  | .forget stage, .proceed =>
    match s.forgetStep rid stage with
    | (s, some stage) => some (s, .acquire rid model block (.forget stage))
    | (s, none) => some (s, .acquire rid model block .endDelivery)
  | .endDelivery, .proceed =>
    some ({ s with tables := s.tables.endAcquireDeliveryCleanup rid }, .done)
  | _, _ => none

/-! ### `refund_capacity` -/

/-- Where a thread goes after a refund: the refund of an undelivered acquire ends the
    delivery cleanup. -/
def afterRefund (rid : ReservationId) (model : ModelName) (undelivered : Bool) : ThreadPc :=
  if undelivered then .acquire rid model true .endDelivery else .done

/-- One step of a refund, whose own state check may always raise. -/
def refundStep (cfg : FamilyConfigs) (s : FamilyLimiter) (tid : ThreadId)
    (rid : ReservationId) (model : ModelName) (undelivered : Bool) :
    RefundPc → ThreadEvent → Option (FamilyLimiter × ThreadPc)
  | .begin, .proceed => some (s, .refund rid model undelivered (.refresh .readBackend))
  | .begin, .refreshFails => some (s, .refund rid model undelivered .readBackend)
  | .begin, .forgets => some (s, .refund rid model undelivered (.forget .inFlight false))
  | .begin, .raises => some (s, afterRefund rid model undelivered)
  | .refresh pc, event =>
    if event = .proceed ∨ event = .raises then
      match getBackendStep cfg s tid (cfg.familyOf model) (event = .raises) pc with
      | some (s, .running pc) => some (s, .refund rid model undelivered (.refresh pc))
      -- the result is dropped, and a failure only warned about
      | some (s, _) => some (s, .refund rid model undelivered .readBackend)
      | none => none
    else none
  | .readBackend, .proceed =>
    match s.modelFamilyToBackend.get (cfg.familyOf model) with
    | some backend => some (s, .refund rid model undelivered (.readInFlight backend))
    | none => some (s, afterRefund rid model undelivered)
  -- in flight here, or the backend has its own markers
  | .readInFlight backend, .proceed =>
    some (s, .refund rid model undelivered (.inBackend backend))
  | .readInFlight _, .raises =>
    if rid ∉ s.tables.inFlightReservationIds then some (s, afterRefund rid model undelivered)
    else none
  -- it returned, it refused a duplicate, or it raised after its state changed
  | .inBackend _, .proceed => some (s, .refund rid model undelivered (.forget .inFlight true))
  | .inBackend _, .forgets => some (s, .refund rid model undelivered (.forget .inFlight false))
  | .inBackend _, .raises => some (s, afterRefund rid model undelivered)
  | .forget stage committed, .proceed =>
    match s.forgetStep rid stage with
    | (s, some stage) => some (s, .refund rid model undelivered (.forget stage committed))
    | (s, none) =>
      some (s, if committed then .refund rid model undelivered .touch
        else afterRefund rid model undelivered)
  | .touch, .proceed =>
    some (s.touch (cfg.familyOf model), afterRefund rid model undelivered)
  | _, _ => none

/-! ### `clear_unused_model_families` -/

/-- The next family to pop, or the end of the section. -/
def popNext (s : FamilyLimiter) : List ModelFamily → FamilyLimiter × ThreadPc
  | [] => (s.setValidationLock none, .done)
  | modelFamily :: rest => (s, .evict (.pop .backend modelFamily rest))

/-- One pop of the loop over the expired families. -/
def popStep (s : FamilyLimiter) (modelFamily : ModelFamily) (rest : List ModelFamily) :
    PopStage → ThreadEvent → Option (FamilyLimiter × ThreadPc)
  | .backend, .proceed =>
    some ({ s with modelFamilyToBackend := s.modelFamilyToBackend.pop modelFamily },
      .evict (.pop .modelName modelFamily rest))
  | .modelName, .proceed =>
    some (s.setRegistry { s.registry with
      modelFamilyToModelName := s.registry.modelFamilyToModelName.pop modelFamily },
      .evict (.pop .quotas modelFamily rest))
  | .quotas, .proceed =>
    some ({ s with modelFamilyToQuotas := s.modelFamilyToQuotas.pop modelFamily },
      .evict (.pop .validatedSignature modelFamily rest))
  | .validatedSignature, .proceed =>
    some (s.setRegistry { s.registry with
      modelFamilyToValidatedSignature :=
        s.registry.modelFamilyToValidatedSignature.pop modelFamily },
      .evict (.pop .lastTouched modelFamily rest))
  | .lastTouched, .proceed =>
    some (s.setRegistry { s.registry with
      modelFamilyLastTouched := s.registry.modelFamilyLastTouched.pop modelFamily },
      .evict (.pop .aliases modelFamily rest))
  | .aliases, .popAlias model =>
    if s.registry.modelNameToModelFamily.get model = some modelFamily then
      some (s.setRegistry { s.registry with
        modelNameToModelFamily := s.registry.modelNameToModelFamily.pop model },
        .evict (.pop (.aliasSignature model) modelFamily rest))
    else none
  | .aliasSignature model, .proceed =>
    some (s.setRegistry { s.registry with
      modelNameToValidatedSignature := s.registry.modelNameToValidatedSignature.pop model },
      .evict (.pop .aliases modelFamily rest))
  | .aliases, .proceed =>
    if ∀ model ∈ s.registry.modelNameToModelFamily.keys,
        s.registry.modelNameToModelFamily.get model ≠ some modelFamily then
      some (s, .evict (.pop .signatureCounts modelFamily rest))
    else none
  | .signatureCounts, .proceed =>
    some (s.setRegistry { s.registry with
      modelFamilySignatureCounts := s.registry.modelFamilySignatureCounts.pop modelFamily },
      .evict (.pop .aliasCounts modelFamily rest))
  | .aliasCounts, .proceed =>
    some ((s.setRegistry { s.registry with
      modelFamilyAliasCounts := s.registry.modelFamilyAliasCounts.pop modelFamily }).popNext rest)
  | _, _ => none

/-- One step of an eviction. -/
def evictStep (s : FamilyLimiter) (tid : ThreadId) :
    EvictPc → ThreadEvent → Option (FamilyLimiter × ThreadPc)
  | .takeLock unusedForSeconds, .proceed =>
    if s.validationLock = none then
      some (s.setValidationLock (some tid), .evict (.readInFlight (s.now - unusedForSeconds)))
    else none
  | .readInFlight cutoff, .proceed =>
    some (s, .evict (.startSelect cutoff
      (s.inFlightReservationFamily.keys.biUnion fun rid =>
        (s.inFlightReservationFamily.get rid).toFinset)))
  | .startSelect cutoff inFlight, .proceed =>
    some (s, .evict (.select cutoff inFlight s.registry.modelFamilyLastTouched.len ∅ []))
  | .select cutoff inFlight size examined expired, .examine modelFamily =>
    match s.registry.modelFamilyLastTouched.get modelFamily with
    | none => none
    | some lastTouched =>
      if modelFamily ∈ examined then none
      -- `RuntimeError`: the dictionary changed size during the iteration
      else if s.registry.modelFamilyLastTouched.len ≠ size then
        some (s.setValidationLock none, .done)
      else
        some (s, .evict (.select cutoff inFlight size (insert modelFamily examined)
          (if modelFamily ∉ inFlight ∧ lastTouched ≤ cutoff then expired ++ [modelFamily]
            else expired)))
  | .select _ _ size examined expired, .proceed =>
    if s.registry.modelFamilyLastTouched.len ≠ size then
      some (s.setValidationLock none, .done)
    else if examined = s.registry.modelFamilyLastTouched.keys then some (s.popNext expired)
    else none
  | .pop stage modelFamily rest, event => s.popStep modelFamily rest stage event
  | _, _ => none

/-! ## All threads -/

inductive Label
  | tick (seconds : ℚ)
  | acquire (tid : ThreadId) (rid : ReservationId) (model : ModelName) (block : Bool)
  | refund (tid : ThreadId) (rid : ReservationId) (model : ModelName)
  | clearUnused (tid : ThreadId) (unusedForSeconds : ℕ)
  | thread (tid : ThreadId) (event : ThreadEvent)

def threadStep (cfg : FamilyConfigs) (s : FamilyLimiter) (tid : ThreadId) :
    ThreadPc → ThreadEvent → Option (FamilyLimiter × ThreadPc)
  | .acquire rid model block pc, event => acquireStep cfg s tid rid model block pc event
  | .refund rid model undelivered pc, event => refundStep cfg s tid rid model undelivered pc event
  | .evict pc, event => s.evictStep tid pc event
  | .done, _ => none

/-- One step of one thread, the start of a call, or the passing of time. -/
def step (cfg : FamilyConfigs) (s : FamilyLimiter) : Label → Option FamilyLimiter
  | .tick seconds => if 0 ≤ seconds then some { s with now := s.now + seconds } else none
  -- an acquire draws an id that has not been seen before
  | .acquire tid rid model block =>
    if s.threads.get tid = none ∧ s.issuedFor.get rid = none then
      some ({ s with issuedFor := s.issuedFor.set rid model }.setThread tid
        (.acquire rid model block .begin))
    else none
  -- a reservation given back was issued here, or its id comes from elsewhere
  | .refund tid rid model =>
    if s.threads.get tid = none then
      if (s.consumedOn.get rid).isSome then
        some (s.setThread tid (.refund rid model false .begin))
      else if s.issuedFor.get rid = none then
        some ({ s with issuedFor := s.issuedFor.set rid model }.setThread tid
          (.refund rid model false .begin))
      else none
    else none
  | .clearUnused tid unusedForSeconds =>
    if s.threads.get tid = none then
      some (s.setThread tid (.evict (.takeLock unusedForSeconds)))
    else none
  | .thread tid event =>
    match s.threads.get tid with
    | some pc =>
      match threadStep cfg s tid pc event with
      | some (s, pc) => some (s.setThread tid pc)
      | none => none
    | none => none

end FamilyLimiter

end TokenThrottle
