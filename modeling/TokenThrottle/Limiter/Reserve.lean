/-
  TokenThrottle.Limiter.Reserve

  The scope that `RateLimiter.reserve` returns: what its exit does with the reservation,
  whatever the block and the two reported usages were.

  * The values a caller passes for a usage are Python objects: a mapping is known by what
    iterating over its keys and over its items (twice) gives.
  * A refund is one call here.  Its locks and the other calls on the reservation are
    `Limiter.Refunds`.
  * What the refund asks of others (the configuration, the backend, the callback, the
    warning) is answered by its environment, which may be another one for each refund.
-/
import TokenThrottle.Limiter.Config
import TokenThrottle.Limiter.Projection
import TokenThrottle.Limiter.Refunds
import TokenThrottle.Theory.Body

namespace TokenThrottle

open Theory (Body)

/-! ## Usages as the caller passes them -/

/-- What iterating over an object gives: its items, and the exception that ends it. -/
structure Iteration (α : Type) where
  items : List α
  raises : Option PyException

inductive MetricKey
  | str (name : String)
  /-- An instance of a subclass of `str`, equal to the string. -/
  | strSubclass (name : String)
  | other
deriving DecidableEq

inductive UsageAmount
  | boolean
  | notNumber
  | notFinite
  /-- An `int` that no float can hold. -/
  | tooLarge
  | finite (value : ℚ)
deriving DecidableEq

/-- A value passed as a usage. -/
inductive UsageArgument
  /-- `None` -/
  | pyNone
  /-- A `CapacityReservation`, as if the arguments were swapped. -/
  | reservation
  | notMapping
  | mapping (keys : Iteration MetricKey) (items again : Iteration (MetricKey × UsageAmount))
  /-- `reservation.get_usage()`: a usage that was validated when it was frozen. -/
  | frozen (usage : FrozenUsage)

def valueError : PyException := .exception .valueError

/-- `set(...)`, or the exception of the iteration. -/
def Iteration.all {α : Type} (iteration : Iteration α) : Except PyException (List α) :=
  match iteration.raises with
  | none => .ok iteration.items
  | some exc => .error exc

/-- `_coerce_usage_value` -/
def coerceUsageValue : UsageAmount → Except PyException ℚ
  | .finite value => .ok value
  | .boolean | .notNumber | .notFinite | .tooLarge => .error valueError

def MetricKey.name? : MetricKey → Option String
  | .str name | .strSubclass name => some name
  | .other => none

namespace UsageArgument

/-- `isinstance(actual_usage, CapacityReservation)` -/
def isReservation : UsageArgument → Bool
  | reservation => true
  | _ => false

/-- `is None` -/
def isNone : UsageArgument → Bool
  | pyNone => true
  | _ => false

section Validation

-- `_validate_key_segment` of a string: its normalized form, unless it raises
variable (validateKeySegment : String → Option String)

/-- `_validate_key_segment`, which accepts no subclass of `str`. -/
def validateMetricKey : MetricKey → Except PyException String
  | .str name =>
    match validateKeySegment name with
    | some normalized => .ok normalized
    | none => .error valueError
  | .strSubclass _ | .other => .error valueError

/-- The loop of `_validate_usage_mapping`. -/
def validateUsageItems (raises : Option PyException) :
    List (MetricKey × UsageAmount) → Except PyException Unit
  | [] =>
    match raises with
    | none => .ok ()
    | some exc => .error exc
  | (metric, amount) :: items => do
    let _ ← validateMetricKey validateKeySegment metric
    let value ← coerceUsageValue amount
    if value < 0 then .error valueError
    else validateUsageItems raises items

/-- `set(usage) == expected_keys` -/
def keysMatch (keys : List MetricKey) (expectedKeys : Finset String) : Bool :=
  keys.all (·.name?.isSome) ∧ (keys.filterMap MetricKey.name?).toFinset = expectedKeys

/-- `validate_refund_usage` -/
def validateRefundUsage (actualUsage : UsageArgument) (reservationKeys : Finset String) :
    Except PyException Unit :=
  match actualUsage with
  | .pyNone | .reservation | .notMapping => .error valueError
  | .mapping keys items _ => do
    let usageKeys ← keys.all
    if keysMatch usageKeys reservationKeys then
      validateUsageItems validateKeySegment items.raises items.items
    else .error valueError
  | .frozen usage =>
    if usage.keys = reservationKeys ∧ ∀ metric ∈ usage.keys, 0 ≤ usage.amount metric then .ok ()
    else .error valueError

/-- The loop of `frozen_usage` over the items it has materialized. -/
def freezeItems (usage : FrozenUsage) :
    List (MetricKey × UsageAmount) → Except PyException FrozenUsage
  | [] => .ok usage
  | (metric, amount) :: items => do
    let name ← validateMetricKey validateKeySegment metric
    if name ∈ usage.keys then .error valueError
    else
      let value ← coerceUsageValue amount
      freezeItems (usage.insert name value) items

/-- `frozen_usage`; an `Exception` of the mapping becomes a `ValueError`. -/
def frozenUsage : UsageArgument → Except PyException FrozenUsage
  | .pyNone | .reservation | .notMapping => .error valueError
  | .mapping _ _ again =>
    match again.all with
    | .ok items => freezeItems validateKeySegment ∅ items
    | .error exc => .error (if exc.isException then valueError else exc)
  | .frozen usage => .ok usage

end Validation

end UsageArgument

/-! ## The refund -/

/-- `CapacityReservation` -/
structure CapacityReservation where
  reservationId : ReservationId
  usage : FrozenUsage
  bucketIds : Option (Finset BucketId)
  isUnlimited : Bool
  limiterInstanceId : String
  createdAtSeconds : Option ℚ

/-- A refund that a backend has applied. -/
structure AppliedRefund where
  reservationId : ReservationId
  reservedUsage : FrozenUsage
  actualUsage : FrozenUsage

structure RefundingLimiter where
  limiterInstanceId : String
  maxReservationLifetimeSeconds : Option ℚ
  closed : Bool
  tables : RefundTables
  /-- What the backends have applied so far, the newest first. -/
  appliedRefunds : List AppliedRefund

/-- What the backend of the reservation's family answers to a refund. -/
structure BackendAnswers where
  /-- `_backend_has_acquire_marker_authority` -/
  hasMarkerAuthority : Except PyException Bool
  applies : Bool
  result : Except PyException Unit
  /-- `_refund_backend_state_changed` after the call, and in the outer handler. -/
  changed : Bool
  changedAtEnd : Bool

/-- What a refund gets from others. -/
structure RefundEnv where
  /-- `_check_public_entry` -/
  entry : Except PyException Unit
  now : ℚ
  /-- `_refresh_backend_for_reservation` -/
  refresh : Except PyException Unit
  /-- The backend of the family, if it has one. -/
  backend : Option BackendAnswers
  /-- `_model_family_to_quotas.get(model_family)`, as a set of bucket ids. -/
  activeBucketIds : Option (Finset BucketId)
  /-- The commit was interrupted by a cancellation. -/
  interrupted : Bool
  /-- `_emit_reservation_lifecycle_event` -/
  emit : Except PyException Unit
  /-- `warnings.warn`, which raises under `-W error`. -/
  warn : Except PyException Unit

namespace RefundingLimiter

abbrev Refunding := Body PyException RefundingLimiter Unit

def updateTables (f : RefundTables → RefundTables) (s : RefundingLimiter) : RefundingLimiter :=
  { s with tables := f s.tables }

def recordApplied (refund : AppliedRefund) (s : RefundingLimiter) : RefundingLimiter :=
  { s with appliedRefunds := refund :: s.appliedRefunds }

/-- `_raise_if_reservation_expired` -/
def raiseIfReservationExpired (now : ℚ) (reservation : CapacityReservation) : Refunding := fun s =>
  let forgotten := s.updateTables (·.forgetInFlightReservation reservation.reservationId)
  match s.maxReservationLifetimeSeconds, reservation.createdAtSeconds with
  | none, _ => .ok () s
  | some _, none => .error valueError forgotten
  | some maxLifetime, some createdAt =>
    if maxLifetime < now - createdAt then .error valueError forgotten else .ok () s

/-- The first section of `_refund_capacity` under `_refund_state_lock`. -/
def beginRefund (reservation : CapacityReservation) : Refunding := fun s =>
  let rid := reservation.reservationId
  if s.closed then .error (.exception .runtimeError) s
  else if s.tables.refundState rid = some .committed then .error (.exception .duplicateRefund) s
  else if rid ∈ s.tables.refundInProgress then .error (.exception .duplicateRefund) s
  else
    let tables := s.tables.rememberRefundState rid .pending
    .ok () { s with
      tables := { tables with refundInProgress := insert rid tables.refundInProgress } }

section Refund

variable (validateKeySegment : String → Option String) (env : RefundEnv)
  (actualUsage : UsageArgument) (reservation : CapacityReservation)

/-- The part of the inner `try` before the backend is called: the backend, and what is
    to be refunded there. -/
def refundScope : Body PyException RefundingLimiter (BackendAnswers × ProjectedRefund) := do
  let actualUsage ← Body.lift (actualUsage.frozenUsage validateKeySegment)
  Body.lift env.refresh
  match env.backend with
  | none => throw valueError
  | some backend =>
    let s ← get
    let hasMarkerAuthority ← Body.lift backend.hasMarkerAuthority
    if reservation.reservationId ∉ s.tables.inFlightReservationIds ∧ ¬hasMarkerAuthority then
      throw (.exception (.unknownReservation false))
    else
      return (backend, projectRefundScope reservation.usage actualUsage reservation.bucketIds
        env.activeBucketIds)

/-- `backend.refund_capacity_for_buckets(...)` with the handlers around it. -/
def callBackend (backend : BackendAnswers) (projected : ProjectedRefund) : Refunding := fun s =>
  let rid := reservation.reservationId
  let s :=
    if backend.applies then s.recordApplied ⟨rid, projected.reservedUsage, projected.actualUsage⟩
    else s
  match backend.result with
  | .ok () => .ok () s
  | .error (.exception .duplicateRefund) =>
    .error (.exception .duplicateRefund) (s.updateTables (·.commitRefundState rid))
  | .error (.exception (.unknownReservation forgets)) =>
    .error (.exception (.unknownReservation forgets))
      (s.updateTables (·.clearRefundStateIfPending rid forgets))
  | .error exc =>
    if exc.isException then
      .error exc.external
        -- a failure after which the buckets look different counts as a refund that landed
        (if backend.changed then s.updateTables (·.commitRefundState rid) else s)
    else .error exc s

/-- The rest of the inner `try`: the commit and the lifecycle event. -/
def commitAndEmit : Refunding := do
  modify (·.updateTables (·.commitRefundState reservation.reservationId))
  if env.interrupted then throw .cancelledError else Body.lift env.emit

/-- What the handler of the inner `try` does once the backend has been called. -/
def settleTables (backend : BackendAnswers) (rid : ReservationId) (t : RefundTables) :
    RefundTables :=
  if backend.changedAtEnd then t.commitRefundState rid else t.markRefundStateFailed rid

/-- The inner `try` of `_refund_capacity` from the backend call on. -/
def refundAtBackend (backend : BackendAnswers) (projected : ProjectedRefund) : Refunding :=
  Body.onError
    (do
      callBackend reservation backend projected
      commitAndEmit env reservation)
    fun _ => updateTables (settleTables backend reservation.reservationId)

/-- The inner `try` of `_refund_capacity` with its handler and `finally`. -/
def refundInBackend : Body PyException RefundingLimiter ProjectedRefund :=
  let rid := reservation.reservationId
  Body.ensuring
    (do
      -- the handler tells by its local variables that the backend has not been called
      let (backend, projected) ← (refundScope validateKeySegment env actualUsage reservation).onError
        fun _ => updateTables (·.clearRefundStateIfPending rid false)
      refundAtBackend env reservation backend projected
      return projected)
    (updateTables fun t => { t with refundInProgress := t.refundInProgress.erase rid })

/-- `_refund_capacity` -/
def refundCapacityLocked : Refunding := do
  beginRefund reservation
  let projected ← refundInBackend validateKeySegment env actualUsage reservation
  if projected.dropped then Body.lift env.warn else return ()

/-- `refund_capacity` -/
def refundCapacity : Refunding := do
  Body.lift env.entry
  let s ← get
  if s.closed then throw (.exception .runtimeError)
  else if actualUsage.isReservation then throw (.exception .typeError)
  else if reservation.limiterInstanceId ≠ s.limiterInstanceId then
    throw (.exception (.unknownReservation false))
  else if reservation.isUnlimited then
    modify (·.updateTables (·.forgetInFlightReservation reservation.reservationId))
  else
    raiseIfReservationExpired env.now reservation
    Body.lift (actualUsage.validateRefundUsage validateKeySegment reservation.usage.keys)
    refundCapacityLocked validateKeySegment env actualUsage reservation

end Refund

end RefundingLimiter

/-! ## The scope -/

/-- `_ReservationScope`, entered. -/
structure ReservationScope where
  usageOnError : UsageArgument
  reservation : CapacityReservation
  actualUsage : UsageArgument
  actualUsageSet : Bool

namespace ReservationScope

open RefundingLimiter (Refunding)

/-- The scope as `__aenter__` leaves it. -/
def enter (usageOnError : UsageArgument) (reservation : CapacityReservation) : ReservationScope :=
  ⟨usageOnError, reservation, .pyNone, false⟩

/-- `set_actual_usage` -/
def setActualUsage (scope : ReservationScope) (actualUsage : UsageArgument) : ReservationScope :=
  { scope with actualUsage := actualUsage, actualUsageSet := true }

section Exit

variable (validateKeySegment : String → Option String)

/-- `_try_refund_swallowing_noncritical` -/
def tryRefundSwallowingNoncritical (env : RefundEnv) (refundUsage : UsageArgument)
    (reservation : CapacityReservation) : Body PyException RefundingLimiter Bool := do
  let result ←
    (RefundingLimiter.refundCapacity validateKeySegment env refundUsage reservation).attempt
  match result with
  | .ok () => return true
  | .error exc => if exc.isCritical then throw exc else return false

-- the environments of a first and of a second refund
variable (first second : RefundEnv)

/-- `_refund_without_masking` -/
def refundWithoutMasking (refundUsage : UsageArgument) (reservation : CapacityReservation)
    (conservativeUsage : Option UsageArgument) : Refunding := do
  let committed ← tryRefundSwallowingNoncritical validateKeySegment first refundUsage reservation
  match committed, conservativeUsage with
  | false, some usage =>
    let _ ← tryRefundSwallowingNoncritical validateKeySegment second usage reservation
  | _, _ => return ()

/-- `_refund_actual_or_conservative_close` -/
def refundActualOrConservativeClose (actualUsage : UsageArgument)
    (reservation : CapacityReservation) : Refunding := do
  let result ←
    (RefundingLimiter.refundCapacity validateKeySegment first actualUsage reservation).attempt
  match result with
  | .ok () => return ()
  | .error exc =>
    if exc.isCritical then throw exc
    else
      let _ ← tryRefundSwallowingNoncritical validateKeySegment second (.frozen reservation.usage)
        reservation
      throw exc

/-- `__aexit__`, with assertions on; `exc` is what the block raised. -/
def aexit (scope : ReservationScope) (exc : Option PyException) : Refunding :=
  let reservation := scope.reservation
  let reservedUsage := UsageArgument.frozen reservation.usage
  match exc with
  | some _ =>
    -- without `usage_on_error` the block is taken to have used what was reserved
    if scope.usageOnError.isNone then
      refundWithoutMasking validateKeySegment first second reservedUsage reservation none
    else
      refundWithoutMasking validateKeySegment first second scope.usageOnError reservation
        (some reservedUsage)
  | none => do
    if scope.actualUsageSet then
      if scope.actualUsage.isNone then throw (.exception .assertionError)
      else
        refundActualOrConservativeClose validateKeySegment first second scope.actualUsage
          reservation
    else
      RefundingLimiter.refundCapacity validateKeySegment first reservedUsage reservation
      Body.lift first.warn

/-- What leaves the `async with` statement: `__aexit__` returns False, so the exception
    of the block goes on unless another one is raised. -/
def leave (scope : ReservationScope) (exc : Option PyException) : Refunding := do
  aexit validateKeySegment first second scope exc
  match exc with
  | none => return ()
  | some exc => throw exc

end Exit

end ReservationScope

/-! ## What a refund leaves -/

namespace RefundTables

variable {t : RefundTables} {rid : ReservationId} {state : RefundState}

theorem lookup_filter_ne (entries : List (ReservationId × RefundState)) (rid : ReservationId) :
    (entries.filter (·.1 ≠ rid)).lookup rid = none := by
  rw [List.lookup_eq_none_iff]
  intro entry h_mem
  have h_ne : entry.1 ≠ rid := by simpa using (List.mem_filter.mp h_mem).2
  exact bne_iff_ne.mpr h_ne.symm

/-- The newest entry stays in a table that holds any. -/
theorem refundState_remember (h_cap : 0 < t.refundedIdsCap) :
    (t.rememberRefundState rid state).refundState rid = some state := by
  have h_old := lookup_filter_ne t.refundedReservationIds rid
  set old := t.refundedReservationIds.filter (·.1 ≠ rid) with h_def
  show ((old ++ [(rid, state)]).drop ((old ++ [(rid, state)]).length - t.refundedIdsCap)).lookup rid
    = some state
  have h_length : (old ++ [(rid, state)]).length - t.refundedIdsCap ≤ old.length := by
    rw [List.length_append, List.length_singleton]
    omega
  rw [List.drop_append_of_le_length h_length]
  have h_kept : (old.drop ((old ++ [(rid, state)]).length - t.refundedIdsCap)).lookup rid = none := by
    rw [List.lookup_eq_none_iff] at h_old ⊢
    intro entry h_mem
    exact h_old entry (List.mem_of_mem_drop h_mem)
  rw [List.lookup_append, h_kept]
  simp

theorem refundState_clear (h_pending : t.refundState rid = some .pending) :
    (t.clearRefundStateIfPending rid false).refundState rid = none := by
  unfold clearRefundStateIfPending
  rw [if_pos h_pending]
  exact lookup_filter_ne _ _

/-- A committed refund has nothing left to mark. -/
theorem markFailed_of_committed (h_committed : t.refundState rid = some .committed) :
    t.markRefundStateFailed rid = t := by
  unfold markRefundStateFailed
  rw [h_committed]
  rfl

end RefundTables

namespace CapacityReservation

/-- A reservation as an acquire of a limited model makes it. -/
structure Acquired (reservation : CapacityReservation) : Prop where
  limited : reservation.isUnlimited = false
  buckets : ∃ ids, reservation.bucketIds = some ids ∧ ids.Nonempty ∧
    Covers reservation.usage (metricNames ids)

end CapacityReservation

namespace UsageArgument

/-- Reading the value raises nothing critical. -/
def Calm : UsageArgument → Prop
  | mapping keys items again =>
    (∀ exc, keys.raises = some exc → exc.isCritical = false) ∧
      (∀ exc, items.raises = some exc → exc.isCritical = false) ∧
      ∀ exc, again.raises = some exc → exc.isCritical = false
  | _ => True

variable {validateKeySegment : String → Option String} {arg : UsageArgument} {exc : PyException}

theorem validateMetricKey_error {key : MetricKey}
    (h_error : validateMetricKey validateKeySegment key = .error exc) : exc = valueError := by
  cases key with
  | str name =>
    simp only [validateMetricKey] at h_error
    split at h_error
    · cases h_error
    · exact (Except.error.inj h_error).symm
  | strSubclass name => exact (Except.error.inj h_error).symm
  | other => exact (Except.error.inj h_error).symm

theorem coerceUsageValue_error {amount : UsageAmount}
    (h_error : coerceUsageValue amount = .error exc) : exc = valueError := by
  cases amount with
  | finite value => cases h_error
  | boolean => exact (Except.error.inj h_error).symm
  | notNumber => exact (Except.error.inj h_error).symm
  | notFinite => exact (Except.error.inj h_error).symm
  | tooLarge => exact (Except.error.inj h_error).symm

theorem all_error {α : Type} {iteration : Iteration α} (h_error : iteration.all = .error exc) :
    iteration.raises = some exc := by
  unfold Iteration.all at h_error
  split at h_error
  · cases h_error
  · cases h_error
    assumption

theorem validateUsageItems_error {raises : Option PyException}
    {items : List (MetricKey × UsageAmount)}
    (h_error : validateUsageItems validateKeySegment raises items = .error exc) :
    exc = valueError ∨ raises = some exc := by
  induction items with
  | nil =>
    cases raises with
    | none => cases h_error
    | some raised => exact .inr (congrArg some (Except.error.inj h_error))
  | cons item items ih =>
    obtain ⟨metric, amount⟩ := item
    cases h_key : validateMetricKey validateKeySegment metric with
    | error e =>
      simp only [validateUsageItems, h_key, bind, Except.bind] at h_error
      exact .inl (Except.error.inj h_error ▸ validateMetricKey_error h_key)
    | ok name =>
      cases h_amount : coerceUsageValue amount with
      | error e =>
        simp only [validateUsageItems, h_key, h_amount, bind, Except.bind] at h_error
        exact .inl (Except.error.inj h_error ▸ coerceUsageValue_error h_amount)
      | ok value =>
        simp only [validateUsageItems, h_key, h_amount, bind, Except.bind] at h_error
        split at h_error
        · exact .inl (Except.error.inj h_error).symm
        · exact ih h_error

theorem freezeItems_error {items : List (MetricKey × UsageAmount)} {usage : FrozenUsage}
    (h_error : freezeItems validateKeySegment usage items = .error exc) : exc = valueError := by
  induction items generalizing usage with
  | nil => cases h_error
  | cons item items ih =>
    obtain ⟨metric, amount⟩ := item
    cases h_key : validateMetricKey validateKeySegment metric with
    | error e =>
      simp only [freezeItems, h_key, bind, Except.bind] at h_error
      exact Except.error.inj h_error ▸ validateMetricKey_error h_key
    | ok name =>
      simp only [freezeItems, h_key, bind, Except.bind] at h_error
      split at h_error
      · exact (Except.error.inj h_error).symm
      · cases h_amount : coerceUsageValue amount with
        | error e =>
          rw [h_amount] at h_error
          exact Except.error.inj h_error ▸ coerceUsageValue_error h_amount
        | ok value =>
          rw [h_amount] at h_error
          exact ih h_error

theorem Calm.validateRefundUsage (h_calm : arg.Calm) {expectedKeys : Finset String}
    (h_error : arg.validateRefundUsage validateKeySegment expectedKeys = .error exc) :
    exc.isCritical = false := by
  cases arg with
  | pyNone => exact Except.error.inj h_error ▸ rfl
  | reservation => exact Except.error.inj h_error ▸ rfl
  | notMapping => exact Except.error.inj h_error ▸ rfl
  | frozen usage =>
    simp only [UsageArgument.validateRefundUsage] at h_error
    split at h_error
    · cases h_error
    · exact Except.error.inj h_error ▸ rfl
  | mapping keys items again =>
    obtain ⟨h_keys, h_items, _⟩ := h_calm
    cases h_all : keys.all with
    | error e =>
      simp only [UsageArgument.validateRefundUsage, h_all, bind, Except.bind] at h_error
      exact h_keys exc (Except.error.inj h_error ▸ all_error h_all)
    | ok usageKeys =>
      simp only [UsageArgument.validateRefundUsage, h_all, bind, Except.bind] at h_error
      split at h_error
      · rcases validateUsageItems_error h_error with rfl | h_raises
        · rfl
        · exact h_items exc h_raises
      · exact Except.error.inj h_error ▸ rfl

theorem Calm.frozenUsage (h_calm : arg.Calm)
    (h_error : arg.frozenUsage validateKeySegment = .error exc) : exc.isCritical = false := by
  cases arg with
  | pyNone => exact Except.error.inj h_error ▸ rfl
  | reservation => exact Except.error.inj h_error ▸ rfl
  | notMapping => exact Except.error.inj h_error ▸ rfl
  | frozen usage => cases h_error
  | mapping keys items again =>
    cases h_all : again.all with
    | error e =>
      simp only [UsageArgument.frozenUsage, h_all] at h_error
      rw [← Except.error.inj h_error]
      split
      · rfl
      · exact h_calm.2.2 e (all_error h_all)
    | ok items' =>
      simp only [UsageArgument.frozenUsage, h_all] at h_error
      exact freezeItems_error h_error ▸ rfl

/-- The limiter takes the value for the actual usage of a reservation. -/
structure Accepted (validateKeySegment : String → Option String)
    (reservation : CapacityReservation) (arg : UsageArgument) (actual : FrozenUsage) : Prop where
  usage : arg.isReservation = false
  valid : arg.validateRefundUsage validateKeySegment reservation.usage.keys = .ok ()
  freezes : arg.frozenUsage validateKeySegment = .ok actual

/-- The reserved usage is always accepted. -/
theorem accepted_frozen {reservation : CapacityReservation} (h_acquired : reservation.Acquired) :
    (frozen reservation.usage).Accepted validateKeySegment reservation reservation.usage := by
  obtain ⟨ids, _, _, h_covers⟩ := h_acquired.buckets
  refine ⟨rfl, if_pos ⟨rfl, fun metric h_mem => h_covers.nonneg metric ?_⟩, rfl⟩
  rw [← h_covers.keys_eq]
  exact h_mem

end UsageArgument

/-- The refund's environment when the limiter is used as it should be: the lookups and the
    backend succeed on an unchanged configuration, nothing critical is raised. -/
structure RefundEnv.Succeeds (env : RefundEnv) (reservation : CapacityReservation)
    (maxLifetime : Option ℚ) : Prop where
  entry : env.entry = .ok ()
  refresh : env.refresh = .ok ()
  backend : ∃ backend hasMarkerAuthority, env.backend = some backend ∧
    backend.hasMarkerAuthority = .ok hasMarkerAuthority ∧ backend.applies = true ∧
    backend.result = .ok ()
  unchanged : env.activeBucketIds = reservation.bucketIds
  uninterrupted : env.interrupted = false
  emit : ∀ exc, env.emit = .error exc → exc.isCritical = false
  unexpired : ∀ limit, maxLifetime = some limit →
    ∃ createdAt, reservation.createdAtSeconds = some createdAt ∧ env.now - createdAt ≤ limit

namespace RefundingLimiter

variable {s s' : RefundingLimiter} {reservation : CapacityReservation} {actual : FrozenUsage}
  {validateKeySegment : String → Option String} {env : RefundEnv} {arg : UsageArgument}

/-- The limiter is open and is the one that issued the reservation. -/
structure Serves (s : RefundingLimiter) (reservation : CapacityReservation) : Prop where
  opened : s.closed = false
  issuer : reservation.limiterInstanceId = s.limiterInstanceId
  remembers : 0 < s.tables.refundedIdsCap

/-- The reservation is in flight, and no refund of it is committed or in progress. -/
structure Held (s : RefundingLimiter) (reservation : CapacityReservation) : Prop
    extends Serves s reservation where
  inFlight : reservation.reservationId ∈ s.tables.inFlightReservationIds
  uncommitted : s.tables.refundState reservation.reservationId ≠ some .committed
  idle : reservation.reservationId ∉ s.tables.refundInProgress

/-- The reservation is closed. -/
structure Closed (s : RefundingLimiter) (reservation : CapacityReservation) : Prop
    extends Serves s reservation where
  notInFlight : reservation.reservationId ∉ s.tables.inFlightReservationIds
  committed : s.tables.refundState reservation.reservationId = some .committed

/-- A refund that has not reached the backend. -/
structure Untouched (s s' : RefundingLimiter) (reservation : CapacityReservation) : Prop where
  held : s'.Held reservation
  lifetime : s'.maxReservationLifetimeSeconds = s.maxReservationLifetimeSeconds
  applied : s'.appliedRefunds = s.appliedRefunds

/-- A refund that has been applied and committed. -/
structure Refunded (s s' : RefundingLimiter) (reservation : CapacityReservation)
    (actual : FrozenUsage) : Prop where
  closed : s'.Closed reservation
  lifetime : s'.maxReservationLifetimeSeconds = s.maxReservationLifetimeSeconds
  applied : s'.appliedRefunds =
    ⟨reservation.reservationId, reservation.usage, actual⟩ :: s.appliedRefunds

theorem Untouched.refl (h_held : s.Held reservation) : Untouched s s reservation :=
  ⟨h_held, rfl, rfl⟩

theorem Untouched.refunded {s'' : RefundingLimiter} (h_untouched : Untouched s s' reservation)
    (h_refunded : Refunded s' s'' reservation actual) : Refunded s s'' reservation actual :=
  ⟨h_refunded.closed, h_refunded.lifetime.trans h_untouched.lifetime,
    h_untouched.applied ▸ h_refunded.applied⟩

/-- On an unchanged configuration the projection changes nothing. -/
theorem projectRefundScope_unchanged {ids : Finset BucketId} (h_ids : ids.Nonempty)
    (h_keys : reservation.usage.keys = metricNames ids) :
    projectRefundScope reservation.usage actual (some ids) (some ids) =
      ⟨reservation.usage, actual, some ids, false⟩ := by
  simp only [projectRefundScope, Finset.filter_mem_eq_inter, Finset.inter_self]
  rw [if_neg h_ids.ne_empty, if_pos h_keys]

/-- The limiter once the refund has been marked as pending. -/
def begun (s : RefundingLimiter) (rid : ReservationId) : RefundingLimiter :=
  s.updateTables fun t =>
    { t.rememberRefundState rid .pending with refundInProgress := insert rid t.refundInProgress }

theorem beginRefund_held (h_held : s.Held reservation) :
    beginRefund reservation s = .ok () (s.begun reservation.reservationId) := by
  have h_opened : ¬s.closed = true := by simp [h_held.opened]
  dsimp only [beginRefund]
  rw [if_neg h_opened, if_neg h_held.uncommitted, if_neg h_held.idle]
  rfl

theorem beginRefund_closed (h_closed : s.Closed reservation) :
    beginRefund reservation s = .error (.exception .duplicateRefund) s := by
  have h_opened : ¬s.closed = true := by simp [h_closed.opened]
  dsimp only [beginRefund]
  rw [if_neg h_opened, if_pos h_closed.committed]

/-- A refund that fails before the backend is called takes its mark back. -/
theorem untouched_of_cleared (h_held : s.Held reservation) :
    Untouched s (((s.begun reservation.reservationId).updateTables
        (·.clearRefundStateIfPending reservation.reservationId false)).updateTables
      fun t => { t with refundInProgress := t.refundInProgress.erase reservation.reservationId })
      reservation := by
  obtain ⟨⟨h_opened, h_issuer, h_cap⟩, h_inFlight, h_uncommitted, h_idle⟩ := h_held
  have h_pending : (s.begun reservation.reservationId).tables.refundState
      reservation.reservationId = some .pending := RefundTables.refundState_remember h_cap
  have h_clear : ∀ t : RefundTables,
      (t.clearRefundStateIfPending reservation.reservationId false).inFlightReservationIds =
        t.inFlightReservationIds ∧
      (t.clearRefundStateIfPending reservation.reservationId false).refundedIdsCap =
        t.refundedIdsCap := by
    intro t
    unfold RefundTables.clearRefundStateIfPending
    split
    · exact ⟨rfl, rfl⟩
    · exact ⟨rfl, rfl⟩
  obtain ⟨h_ids, h_caps⟩ := h_clear (s.begun reservation.reservationId).tables
  refine ⟨⟨⟨h_opened, h_issuer, ?_⟩, ?_, ?_, ?_⟩, rfl, rfl⟩
  · exact h_caps ▸ h_cap
  · exact h_ids ▸ h_inFlight
  · have h_cleared := RefundTables.refundState_clear h_pending
    intro h_committed
    exact Option.some_ne_none _ (h_committed.symm.trans h_cleared)
  · exact Finset.notMem_erase _ _

/-- The limiter once the backend has applied the refund and the commit has run. -/
def settled (s : RefundingLimiter) (reservation : CapacityReservation) (actual : FrozenUsage) :
    RefundingLimiter :=
  ((s.begun reservation.reservationId).recordApplied
    ⟨reservation.reservationId, reservation.usage, actual⟩).updateTables
      (·.commitRefundState reservation.reservationId)

/-- What the handlers do to the tables afterwards leaves the reservation closed. -/
theorem refunded_of_settled (h_held : s.Held reservation) {f : RefundTables → RefundTables}
    (h_f : ∀ t : RefundTables, 0 < t.refundedIdsCap →
      t.refundState reservation.reservationId = some .committed →
      reservation.reservationId ∉ t.inFlightReservationIds →
      0 < (f t).refundedIdsCap ∧ (f t).refundState reservation.reservationId = some .committed ∧
        reservation.reservationId ∉ (f t).inFlightReservationIds) :
    Refunded s (((s.settled reservation actual).updateTables f).updateTables fun t =>
      { t with refundInProgress := t.refundInProgress.erase reservation.reservationId })
      reservation actual := by
  obtain ⟨⟨h_opened, h_issuer, h_cap⟩, _⟩ := h_held
  have h_committed : (s.settled reservation actual).tables.refundState reservation.reservationId =
      some .committed :=
    @RefundTables.refundState_remember (s.begun reservation.reservationId).tables _ _ h_cap
  have h_gone : reservation.reservationId ∉
      (s.settled reservation actual).tables.inFlightReservationIds := Finset.notMem_erase _ _
  obtain ⟨h_cap', h_committed', h_gone'⟩ := h_f (s.settled reservation actual).tables h_cap
    h_committed h_gone
  exact ⟨⟨⟨h_opened, h_issuer, h_cap'⟩, h_gone', h_committed'⟩, rfl, rfl⟩

/-- What the part before the backend call finds, or the exception of the usage. -/
theorem refundScope_run (h_held : s.Held reservation) (h_acquired : reservation.Acquired)
    (h_env : env.Succeeds reservation s.maxReservationLifetimeSeconds) :
    ∃ backend bucketIds, env.backend = some backend ∧
      refundScope validateKeySegment env arg reservation (s.begun reservation.reservationId) =
        match arg.frozenUsage validateKeySegment with
        | .ok actual => .ok (backend, ⟨reservation.usage, actual, bucketIds, false⟩)
            (s.begun reservation.reservationId)
        | .error exc => .error exc (s.begun reservation.reservationId) := by
  obtain ⟨ids, h_ids, h_nonempty, h_covers⟩ := h_acquired.buckets
  obtain ⟨backend, hasMarkerAuthority, h_backend, h_authority, _⟩ := h_env.backend
  refine ⟨backend, some ids, h_backend, ?_⟩
  have h_inFlight : reservation.reservationId ∈
      (s.begun reservation.reservationId).tables.inFlightReservationIds := h_held.inFlight
  unfold refundScope
  cases h_frozen : arg.frozenUsage validateKeySegment with
  | error exc => rfl
  | ok actual =>
    have h_scope := @projectRefundScope_unchanged reservation actual ids h_nonempty h_covers.keys_eq
    rw [Body.bind_ok (Body.lift_ok actual _), h_env.refresh, Body.bind_ok (Body.lift_ok () _),
      h_backend, h_env.unchanged, h_ids, h_scope]
    show (Body.lift backend.hasMarkerAuthority >>= _ : Body PyException RefundingLimiter _) _ = _
    rw [h_authority, Body.bind_ok (Body.lift_ok hasMarkerAuthority _),
      if_neg fun h_unknown => h_unknown.1 h_inFlight]
    rfl

/-- A usage that cannot be frozen ends the refund before the backend is called. -/
theorem refundInBackend_rejected (h_held : s.Held reservation)
    (h_acquired : reservation.Acquired)
    (h_env : env.Succeeds reservation s.maxReservationLifetimeSeconds) {exc : PyException}
    (h_frozen : arg.frozenUsage validateKeySegment = .error exc) :
    ∃ s', refundInBackend validateKeySegment env arg reservation
        (s.begun reservation.reservationId) = .error exc s' ∧ Untouched s s' reservation := by
  obtain ⟨backend, bucketIds, _, h_scope⟩ :=
    @refundScope_run s reservation validateKeySegment env arg h_held h_acquired h_env
  rw [h_frozen] at h_scope
  have h_body := @Body.onError_error _ _ _ _ _ _
    (fun _ => updateTables (·.clearRefundStateIfPending reservation.reservationId false)) _ h_scope
  exact ⟨_, Body.ensuring_error (Body.bind_error h_body), untouched_of_cleared h_held⟩

/-- The backend applies the refund and the commit runs; the handler finds them done. -/
theorem refundAtBackend_run {backend : BackendAnswers} {bucketIds : Option (Finset BucketId)}
    (h_applies : backend.applies = true) (h_result : backend.result = .ok ())
    (h_uninterrupted : env.interrupted = false) :
    refundAtBackend env reservation backend ⟨reservation.usage, actual, bucketIds, false⟩
        (s.begun reservation.reservationId) =
      match env.emit with
      | .ok () => .ok () (s.settled reservation actual)
      | .error exc => .error exc ((s.settled reservation actual).updateTables
          (settleTables backend reservation.reservationId)) := by
  have h_call : callBackend reservation backend ⟨reservation.usage, actual, bucketIds, false⟩
      (s.begun reservation.reservationId) =
        .ok () ((s.begun reservation.reservationId).recordApplied
          ⟨reservation.reservationId, reservation.usage, actual⟩) := by
    unfold callBackend
    rw [h_applies, h_result]
    rfl
  have h_commit : commitAndEmit env reservation ((s.begun reservation.reservationId).recordApplied
        ⟨reservation.reservationId, reservation.usage, actual⟩) =
      (Body.lift env.emit : Refunding) (s.settled reservation actual) := by
    unfold commitAndEmit
    rw [h_uninterrupted]
    rfl
  have h_bind := @Body.bind_ok _ _ _ _ _ (fun _ => commitAndEmit env reservation) _ _ _ h_call
  have h_body := h_bind.trans h_commit
  unfold refundAtBackend
  cases h_emit : env.emit with
  | ok =>
    rw [h_emit] at h_body
    exact Body.onError_ok h_body
  | error exc =>
    rw [h_emit] at h_body
    exact Body.onError_error h_body

/-- The handler leaves a committed refund committed. -/
theorem settleTables_committed {backend : BackendAnswers} {rid : ReservationId} (t : RefundTables)
    (h_cap : 0 < t.refundedIdsCap) (h_committed : t.refundState rid = some .committed)
    (h_gone : rid ∉ t.inFlightReservationIds) :
    0 < (settleTables backend rid t).refundedIdsCap ∧
      (settleTables backend rid t).refundState rid = some .committed ∧
      rid ∉ (settleTables backend rid t).inFlightReservationIds := by
  unfold settleTables
  split
  · exact ⟨h_cap, RefundTables.refundState_remember h_cap, Finset.notMem_erase _ _⟩
  · rw [RefundTables.markFailed_of_committed h_committed]
    exact ⟨h_cap, h_committed, h_gone⟩

/-- Otherwise it is applied and committed, whether the event that follows raises or not. -/
theorem refundInBackend_applied (h_held : s.Held reservation)
    (h_acquired : reservation.Acquired)
    (h_env : env.Succeeds reservation s.maxReservationLifetimeSeconds)
    (h_frozen : arg.frozenUsage validateKeySegment = .ok actual) :
    ∃ projected s', projected.dropped = false ∧ Refunded s s' reservation actual ∧
      refundInBackend validateKeySegment env arg reservation (s.begun reservation.reservationId) =
        match env.emit with
        | .ok () => .ok projected s'
        | .error exc => .error exc s' := by
  obtain ⟨backend, bucketIds, h_backend, h_scope⟩ :=
    @refundScope_run s reservation validateKeySegment env arg h_held h_acquired h_env
  obtain ⟨backend', _, h_backend', _, h_applies, h_result⟩ := h_env.backend
  rw [h_backend] at h_backend'
  cases h_backend'
  rw [h_frozen] at h_scope
  have h_first := @Body.onError_ok _ _ _ _ _ _
    (fun _ => updateTables (·.clearRefundStateIfPending reservation.reservationId false)) _ h_scope
  have h_backend_run := @refundAtBackend_run s reservation actual env backend bucketIds h_applies
    h_result h_env.uninterrupted
  cases h_emit : env.emit with
  | ok =>
    rw [h_emit] at h_backend_run
    have h_same := @refunded_of_settled s reservation actual h_held (fun t => t)
      fun _ h_cap h_done h_gone => ⟨h_cap, h_done, h_gone⟩
    exact ⟨_, _, rfl, h_same,
      Body.ensuring_ok ((Body.bind_ok h_first).trans (Body.bind_ok h_backend_run))⟩
  | error exc =>
    rw [h_emit] at h_backend_run
    have h_settled := @refunded_of_settled s reservation actual h_held
      (settleTables backend reservation.reservationId) settleTables_committed
    exact ⟨⟨reservation.usage, actual, bucketIds, false⟩, _, rfl, h_settled,
      Body.ensuring_error ((Body.bind_ok h_first).trans (Body.bind_error h_backend_run))⟩

/-- The checks of `refund_capacity` before the usage is validated. -/
theorem refundCapacity_eq (h_serves : s.Serves reservation) (h_acquired : reservation.Acquired)
    (h_env : env.Succeeds reservation s.maxReservationLifetimeSeconds) :
    refundCapacity validateKeySegment env arg reservation s =
      if arg.isReservation then .error (.exception .typeError) s
      else match arg.validateRefundUsage validateKeySegment reservation.usage.keys with
        | .ok () => refundCapacityLocked validateKeySegment env arg reservation s
        | .error exc => .error exc s := by
  have h_expiry : raiseIfReservationExpired env.now reservation s = .ok () s := by
    cases h_lifetime : s.maxReservationLifetimeSeconds with
    | none => simp only [raiseIfReservationExpired, h_lifetime]
    | some limit =>
      obtain ⟨createdAt, h_created, h_age⟩ := h_env.unexpired limit h_lifetime
      simp only [raiseIfReservationExpired, h_lifetime, h_created]
      rw [if_neg (not_lt.mpr h_age)]
  have h_opened : ¬s.closed = true := by simp [h_serves.opened]
  have h_limited : ¬reservation.isUnlimited = true := by simp [h_acquired.limited]
  unfold refundCapacity
  rw [h_env.entry, Body.bind_ok (Body.lift_ok () s)]
  show (if s.closed then _ else _ : Refunding) s = _
  rw [if_neg h_opened]
  by_cases h_arg : arg.isReservation = true
  · rw [if_pos h_arg, if_pos h_arg]
    rfl
  · rw [if_neg h_arg, if_neg h_arg, if_neg (not_not.mpr h_serves.issuer), if_neg h_limited,
      Body.bind_ok h_expiry]
    cases arg.validateRefundUsage validateKeySegment reservation.usage.keys with
    | ok => rfl
    | error exc => rfl

/-- How a refund of a reservation in flight ends: the usage is accepted and the refund is
    applied and committed, or it fails before the backend is called.  The event after a
    commit may raise. -/
def RefundEnds (validateKeySegment : String → Option String) (arg : UsageArgument)
    (reservation : CapacityReservation) (s : RefundingLimiter) (result : Except PyException Unit)
    (s' : RefundingLimiter) : Prop :=
  let applied := ∃ actual, arg.Accepted validateKeySegment reservation actual ∧
    Refunded s s' reservation actual
  match result with
  | .ok () => applied
  | .error exc => exc.isCritical = false ∧
    ((∀ actual, ¬arg.Accepted validateKeySegment reservation actual) ∧
      Untouched s s' reservation ∨ applied)

theorem refundCapacity_held (h_held : s.Held reservation) (h_acquired : reservation.Acquired)
    (h_env : env.Succeeds reservation s.maxReservationLifetimeSeconds) (h_calm : arg.Calm) :
    Body.Finishes (RefundEnds validateKeySegment arg reservation s)
      (refundCapacity validateKeySegment env arg reservation) s := by
  have h_run := @refundCapacity_eq s reservation validateKeySegment env arg h_held.toServes
    h_acquired h_env
  by_cases h_arg : arg.isReservation = true
  · rw [if_pos h_arg] at h_run
    have h_refused : ∀ actual, ¬arg.Accepted validateKeySegment reservation actual := by
      intro actual h_accepted
      rw [h_accepted.usage] at h_arg
      cases h_arg
    exact .of_error h_run ⟨rfl, .inl ⟨h_refused, .refl h_held⟩⟩
  rw [if_neg h_arg] at h_run
  cases h_valid : arg.validateRefundUsage validateKeySegment reservation.usage.keys with
  | error exc =>
    rw [h_valid] at h_run
    have h_refused : ∀ actual, ¬arg.Accepted validateKeySegment reservation actual := by
      intro actual h_accepted
      cases h_accepted.valid.symm.trans h_valid
    exact .of_error h_run
      ⟨h_calm.validateRefundUsage h_valid, .inl ⟨h_refused, .refl h_held⟩⟩
  | ok =>
    rw [h_valid] at h_run
    have h_begin := @Body.bind_ok _ _ _ _ (beginRefund reservation)
      (fun _ => refundInBackend validateKeySegment env arg reservation >>= fun projected =>
        if projected.dropped then Body.lift env.warn else pure ()) _ _ _ (beginRefund_held h_held)
    replace h_run := h_run.trans h_begin
    cases h_frozen : arg.frozenUsage validateKeySegment with
    | error exc =>
      obtain ⟨s', h_inner, h_untouched⟩ := refundInBackend_rejected h_held h_acquired h_env h_frozen
      have h_refused : ∀ actual, ¬arg.Accepted validateKeySegment reservation actual := by
        intro actual h_accepted
        cases h_accepted.freezes.symm.trans h_frozen
      exact .of_error (h_run.trans (Body.bind_error h_inner))
        ⟨h_calm.frozenUsage h_frozen, .inl ⟨h_refused, h_untouched⟩⟩
    | ok actual =>
      obtain ⟨projected, s', h_dropped, h_refunded, h_inner⟩ :=
        refundInBackend_applied h_held h_acquired h_env h_frozen
      have h_accepted : arg.Accepted validateKeySegment reservation actual :=
        ⟨by simpa using h_arg, h_valid, h_frozen⟩
      cases h_emit : env.emit with
      | ok =>
        rw [h_emit] at h_inner
        rw [Body.bind_ok h_inner, h_dropped] at h_run
        exact .of_ok h_run ⟨actual, h_accepted, h_refunded⟩
      | error exc =>
        rw [h_emit] at h_inner
        exact .of_error (h_run.trans (Body.bind_error h_inner))
          ⟨h_env.emit exc h_emit, .inr ⟨actual, h_accepted, h_refunded⟩⟩

/-- A refund of a closed reservation is refused and changes nothing. -/
theorem refundCapacity_closed (h_closed : s.Closed reservation) (h_acquired : reservation.Acquired)
    (h_env : env.Succeeds reservation s.maxReservationLifetimeSeconds) (h_calm : arg.Calm) :
    ∃ exc, exc.isCritical = false ∧
      refundCapacity validateKeySegment env arg reservation s = .error exc s := by
  rw [refundCapacity_eq h_closed.toServes h_acquired h_env]
  by_cases h_arg : arg.isReservation = true
  · rw [if_pos h_arg]
    exact ⟨.exception .typeError, rfl, rfl⟩
  rw [if_neg h_arg]
  cases h_valid : arg.validateRefundUsage validateKeySegment reservation.usage.keys with
  | error exc => exact ⟨exc, h_calm.validateRefundUsage h_valid, rfl⟩
  | ok =>
    exact ⟨.exception .duplicateRefund, rfl, Body.bind_error (beginRefund_closed h_closed)⟩

end RefundingLimiter

/-! ## What the scope leaves -/

namespace ReservationScope

open RefundingLimiter (Refunding Held Closed Untouched Refunded RefundEnds refundCapacity_held
  refundCapacity_closed)

variable {s s' : RefundingLimiter} {reservation : CapacityReservation} {actual : FrozenUsage}
  {validateKeySegment : String → Option String} {env first second : RefundEnv}
  {arg : UsageArgument}

/-- A refund whose failure is swallowed either is applied or has left all as it was. -/
theorem tryRefund_held (h_held : s.Held reservation) (h_acquired : reservation.Acquired)
    (h_env : env.Succeeds reservation s.maxReservationLifetimeSeconds) (h_calm : arg.Calm) :
    Body.Finishes (fun result s' => ∃ committed, result = .ok committed ∧
        ((∃ actual, arg.Accepted validateKeySegment reservation actual ∧
            Refunded s s' reservation actual) ∨
          (committed = false ∧ (∀ actual, ¬arg.Accepted validateKeySegment reservation actual) ∧
            Untouched s s' reservation)))
      (tryRefundSwallowingNoncritical validateKeySegment env arg reservation) s := by
  apply Body.Finishes.attempt_bind
  apply (refundCapacity_held h_held h_acquired h_env h_calm).mono
  intro result s' h_ends
  cases result with
  | ok => exact .of_ok rfl ⟨true, rfl, .inl h_ends⟩
  | error exc =>
    obtain ⟨h_critical, h_ends⟩ := h_ends
    show Body.Finishes _ (if exc.isCritical then throw exc else pure false) s'
    rw [h_critical]
    refine .of_ok rfl ⟨false, rfl, ?_⟩
    exact h_ends.elim (fun h => .inr ⟨rfl, h⟩) .inl

/-- The conservative refund always is applied. -/
theorem tryRefund_reserved (h_held : s.Held reservation) (h_acquired : reservation.Acquired)
    (h_env : env.Succeeds reservation s.maxReservationLifetimeSeconds) :
    Body.Finishes (fun result s' => (∃ committed, result = .ok committed) ∧
        Refunded s s' reservation reservation.usage)
      (tryRefundSwallowingNoncritical validateKeySegment env (.frozen reservation.usage)
        reservation) s := by
  have h_accepted := @UsageArgument.accepted_frozen validateKeySegment reservation h_acquired
  have h_calm : (UsageArgument.frozen reservation.usage).Calm := trivial
  apply (tryRefund_held h_held h_acquired h_env h_calm).mono
  rintro result s' ⟨committed, rfl, ⟨actual, h_actual, h_refunded⟩ | ⟨_, h_refused, _⟩⟩
  · have h_eq : actual = reservation.usage := (Except.ok.inj h_actual.freezes).symm
    exact ⟨⟨committed, rfl⟩, h_eq ▸ h_refunded⟩
  · exact (h_refused _ h_accepted).elim

/-- A closed reservation stays as it is. -/
theorem tryRefund_closed (h_closed : s.Closed reservation) (h_acquired : reservation.Acquired)
    (h_env : env.Succeeds reservation s.maxReservationLifetimeSeconds) (h_calm : arg.Calm) :
    tryRefundSwallowingNoncritical validateKeySegment env arg reservation s = .ok false s := by
  obtain ⟨exc, h_critical, h_run⟩ := refundCapacity_closed h_closed h_acquired h_env h_calm
  have h_attempt : (RefundingLimiter.refundCapacity validateKeySegment env arg reservation).attempt
      s = .ok (.error exc) s := by
    unfold Body.attempt
    rw [h_run]
  unfold tryRefundSwallowingNoncritical
  rw [Body.bind_ok h_attempt]
  show (if exc.isCritical then throw exc else pure false : Body _ _ _) s = _
  rw [h_critical]
  rfl

/-- The refund of a block that raised: the reservation is closed and nothing is raised. -/
theorem refundWithoutMasking_held {conservative : Option UsageArgument} (h_held : s.Held reservation)
    (h_acquired : reservation.Acquired)
    (h_first : first.Succeeds reservation s.maxReservationLifetimeSeconds)
    (h_second : second.Succeeds reservation s.maxReservationLifetimeSeconds) (h_calm : arg.Calm)
    (h_falls_back : conservative = some (.frozen reservation.usage) ∨
      conservative = none ∧ arg = .frozen reservation.usage) :
    Body.Finishes (fun result s' => result = .ok () ∧ ∃ actual, Refunded s s' reservation actual)
      (refundWithoutMasking validateKeySegment first second arg reservation conservative) s := by
  have h_reserved := @UsageArgument.accepted_frozen validateKeySegment reservation h_acquired
  have h_reserved_calm : (UsageArgument.frozen reservation.usage).Calm := trivial
  refine (tryRefund_held h_held h_acquired h_first h_calm).bind ?_ ?_
  · rintro exc s' ⟨_, h_result, _⟩
    cases h_result
  rintro committed s' ⟨_, h_result, h_ends⟩
  cases h_result
  rcases h_ends with ⟨actual, _, h_refunded⟩ | ⟨rfl, h_refused, h_untouched⟩
  · have h_second' : second.Succeeds reservation s'.maxReservationLifetimeSeconds :=
      h_refunded.lifetime ▸ h_second
    -- if the event raised, the second refund finds the reservation closed
    have h_again := @tryRefund_closed s' reservation validateKeySegment second _ h_refunded.closed
      h_acquired h_second' h_reserved_calm
    cases committed with
    | true => exact .of_ok rfl ⟨rfl, actual, h_refunded⟩
    | false =>
      rcases h_falls_back with rfl | ⟨rfl, _⟩
      · exact .of_ok (Body.bind_ok h_again) ⟨rfl, actual, h_refunded⟩
      · exact .of_ok rfl ⟨rfl, actual, h_refunded⟩
  · have h_second' : second.Succeeds reservation s'.maxReservationLifetimeSeconds :=
      h_untouched.lifetime ▸ h_second
    rcases h_falls_back with rfl | ⟨_, rfl⟩
    · refine (tryRefund_reserved h_untouched.held h_acquired h_second').bind ?_ ?_
      · rintro exc s'' ⟨⟨_, h_result⟩, _⟩
        cases h_result
      · rintro committed s'' ⟨_, h_refunded⟩
        exact .of_ok rfl ⟨rfl, _, h_untouched.refunded h_refunded⟩
    · exact (h_refused _ h_reserved).elim

/-- The refund of a block that ended normally and reported a usage: the reservation is
    closed, and a usage that was not accepted is reported after the conservative refund. -/
theorem refundActualOrConservativeClose_held (h_held : s.Held reservation)
    (h_acquired : reservation.Acquired)
    (h_first : first.Succeeds reservation s.maxReservationLifetimeSeconds)
    (h_second : second.Succeeds reservation s.maxReservationLifetimeSeconds) (h_calm : arg.Calm) :
    Body.Finishes (fun result s' => ∃ actual, Refunded s s' reservation actual ∧
        ((∀ usage, ¬arg.Accepted validateKeySegment reservation usage) →
          actual = reservation.usage ∧ ∃ exc, result = .error exc))
      (refundActualOrConservativeClose validateKeySegment first second arg reservation) s := by
  have h_reserved_calm : (UsageArgument.frozen reservation.usage).Calm := trivial
  apply Body.Finishes.attempt_bind
  apply (refundCapacity_held h_held h_acquired h_first h_calm).mono
  intro result s' h_ends
  cases result with
  | ok =>
    obtain ⟨actual, h_accepted, h_refunded⟩ := h_ends
    exact .of_ok rfl ⟨actual, h_refunded, fun h_refused => (h_refused _ h_accepted).elim⟩
  | error exc =>
    obtain ⟨h_critical, h_ends⟩ := h_ends
    show Body.Finishes _ (if exc.isCritical then throw exc else _) s'
    rw [h_critical]
    show Body.Finishes _ (tryRefundSwallowingNoncritical validateKeySegment second _ reservation >>= _) s'
    rcases h_ends with ⟨h_refused, h_untouched⟩ | ⟨actual, h_accepted, h_refunded⟩
    · have h_second' : second.Succeeds reservation s'.maxReservationLifetimeSeconds :=
        h_untouched.lifetime ▸ h_second
      refine (tryRefund_reserved h_untouched.held h_acquired h_second').bind ?_ ?_
      · rintro _ s'' ⟨⟨_, h_result⟩, _⟩
        cases h_result
      · rintro committed s'' ⟨_, h_refunded⟩
        exact .of_error rfl ⟨_, h_untouched.refunded h_refunded, fun _ => ⟨rfl, exc, rfl⟩⟩
    · have h_second' : second.Succeeds reservation s'.maxReservationLifetimeSeconds :=
        h_refunded.lifetime ▸ h_second
      have h_again := @tryRefund_closed s' reservation validateKeySegment second _
        h_refunded.closed h_acquired h_second' h_reserved_calm
      exact .of_error (Body.bind_ok h_again)
        ⟨actual, h_refunded, fun h_refused => (h_refused _ h_accepted).elim⟩

/-- The scope after the calls of `set_actual_usage` in its block. -/
def reporting (usageOnError : UsageArgument) (reservation : CapacityReservation)
    (reports : List UsageArgument) : ReservationScope :=
  reports.foldl setActualUsage (enter usageOnError reservation)

/-- The last report counts. -/
theorem reporting_eq (usageOnError : UsageArgument) (reservation : CapacityReservation)
    (reports : List UsageArgument) :
    reporting usageOnError reservation reports =
      match reports.getLast? with
      | none => enter usageOnError reservation
      | some report => ⟨usageOnError, reservation, report, true⟩ := by
  have h_kept : ∀ (reports : List UsageArgument) (scope : ReservationScope),
      (reports.foldl setActualUsage scope).usageOnError = scope.usageOnError ∧
        (reports.foldl setActualUsage scope).reservation = scope.reservation := by
    intro reports
    induction reports with
    | nil => exact fun _ => ⟨rfl, rfl⟩
    | cons report reports ih => exact fun scope => ih (scope.setActualUsage report)
  rcases List.eq_nil_or_concat reports with rfl | ⟨earlier, report, rfl⟩
  · rfl
  · obtain ⟨h_usage, h_reservation⟩ := h_kept earlier (enter usageOnError reservation)
    rw [List.concat_eq_append, List.getLast?_concat]
    show (earlier ++ [report]).foldl setActualUsage _ = _
    rw [List.foldl_append]
    show ReservationScope.mk _ _ report true = _
    rw [h_usage, h_reservation]
    rfl

/-- What leaving the block owes.  `raised` is what the block raised, `reports` what it passed
    to `set_actual_usage`. -/
structure Closes (validateKeySegment : String → Option String) (reservation : CapacityReservation)
    (reports : List UsageArgument) (raised : Option PyException) (s : RefundingLimiter)
    (result : Except PyException Unit) (s' : RefundingLimiter) : Prop where
  notInFlight : reservation.reservationId ∉ s'.tables.inFlightReservationIds
  /-- Exactly one refund has been applied. -/
  refunded : ∃ actual, s'.appliedRefunds =
    ⟨reservation.reservationId, reservation.usage, actual⟩ :: s.appliedRefunds
  unmasked : ∀ exc, raised = some exc → result = .error exc
  surfaces : raised = none → ∀ report, reports.getLast? = some report →
    (∀ actual, ¬report.Accepted validateKeySegment reservation actual) →
      (∃ exc, result = .error exc) ∧ s'.appliedRefunds =
        ⟨reservation.reservationId, reservation.usage, reservation.usage⟩ :: s.appliedRefunds

variable {usageOnError : UsageArgument} {reports : List UsageArgument} {raised : Option PyException}

/-- A block that raised. -/
theorem leave_raised {exc : PyException} (h_held : s.Held reservation)
    (h_acquired : reservation.Acquired)
    (h_first : first.Succeeds reservation s.maxReservationLifetimeSeconds)
    (h_second : second.Succeeds reservation s.maxReservationLifetimeSeconds)
    (h_calm : usageOnError.Calm) :
    Body.Finishes (Closes validateKeySegment reservation reports (some exc) s)
      (leave validateKeySegment first second (reporting usageOnError reservation reports)
        (some exc)) s := by
  have h_closes : ∀ (body : Refunding), Body.Finishes (fun result s' => result = .ok () ∧
      ∃ actual, Refunded s s' reservation actual) body s →
      Body.Finishes (Closes validateKeySegment reservation reports (some exc) s)
        (body >>= fun _ => throw exc) s := by
    intro body h_body
    refine h_body.bind ?_ ?_
    · rintro _ s' ⟨h_result, _⟩
      cases h_result
    · rintro _ s' ⟨_, actual, h_refunded⟩
      refine .of_error rfl ⟨h_refunded.closed.notInFlight, ⟨actual, h_refunded.applied⟩, ?_, nofun⟩
      rintro _ h_raised
      cases h_raised
      rfl
  apply h_closes
  have h_scope : (reporting usageOnError reservation reports).usageOnError = usageOnError ∧
      (reporting usageOnError reservation reports).reservation = reservation := by
    rw [reporting_eq]
    cases reports.getLast? with
    | none => exact ⟨rfl, rfl⟩
    | some report => exact ⟨rfl, rfl⟩
  unfold aexit
  rw [h_scope.1, h_scope.2]
  dsimp only
  split
  · exact refundWithoutMasking_held h_held h_acquired h_first h_second trivial (.inr ⟨rfl, rfl⟩)
  · exact refundWithoutMasking_held h_held h_acquired h_first h_second h_calm (.inl rfl)

/-- A block that ended normally without a report. -/
theorem leave_unreported (h_held : s.Held reservation) (h_acquired : reservation.Acquired)
    (h_first : first.Succeeds reservation s.maxReservationLifetimeSeconds)
    (h_none : reports.getLast? = none) :
    Body.Finishes (Closes validateKeySegment reservation reports none s)
      (leave validateKeySegment first second (reporting usageOnError reservation reports) none)
      s := by
  have h_reserved := @UsageArgument.accepted_frozen validateKeySegment reservation h_acquired
  have h_calm : (UsageArgument.frozen reservation.usage).Calm := trivial
  have h_closes {result : Except PyException Unit} {s' : RefundingLimiter} {actual : FrozenUsage}
      (h_refunded : Refunded s s' reservation actual) :
      Closes validateKeySegment reservation reports none s result s' := by
    refine ⟨h_refunded.closed.notInFlight, ⟨actual, h_refunded.applied⟩, nofun, ?_⟩
    intro _ report h_report
    cases h_none.symm.trans h_report
  rw [reporting_eq, h_none]
  have h_body : Body.Finishes (fun _ s' => ∃ actual, Refunded s s' reservation actual)
      (aexit validateKeySegment first second (enter usageOnError reservation) none) s := by
    refine (refundCapacity_held h_held h_acquired h_first h_calm).bind ?_ ?_
    · rintro exc s' ⟨_, ⟨h_refused, _⟩ | ⟨actual, _, h_refunded⟩⟩
      · exact (h_refused _ h_reserved).elim
      · exact ⟨actual, h_refunded⟩
    · rintro _ s' ⟨actual, _, h_refunded⟩
      cases h_warn : first.warn with
      | ok => exact .of_ok rfl ⟨actual, h_refunded⟩
      | error exc => exact .of_error rfl ⟨actual, h_refunded⟩
  refine h_body.bind ?_ ?_
  · rintro exc s' ⟨actual, h_refunded⟩
    exact h_closes h_refunded
  · rintro _ s' ⟨actual, h_refunded⟩
    exact .of_ok rfl (h_closes h_refunded)

/-- A block that ended normally and reported a value. -/
theorem leave_reported {report : UsageArgument} (h_held : s.Held reservation)
    (h_acquired : reservation.Acquired)
    (h_first : first.Succeeds reservation s.maxReservationLifetimeSeconds)
    (h_second : second.Succeeds reservation s.maxReservationLifetimeSeconds)
    (h_calm : report.Calm) (h_report : reports.getLast? = some report)
    (h_some : report.isNone = false) :
    Body.Finishes (Closes validateKeySegment reservation reports none s)
      (leave validateKeySegment first second (reporting usageOnError reservation reports) none)
      s := by
  rw [reporting_eq, h_report]
  have h_exit : aexit validateKeySegment first second ⟨usageOnError, reservation, report, true⟩ none =
      refundActualOrConservativeClose validateKeySegment first second report reservation := by
    show (if report.isNone then _ else _) = _
    rw [h_some]
    rfl
  unfold leave
  rw [h_exit]
  refine (refundActualOrConservativeClose_held h_held h_acquired h_first h_second h_calm).bind ?_ ?_
  · rintro exc s' ⟨actual, h_refunded, h_surfaces⟩
    refine ⟨h_refunded.closed.notInFlight, ⟨actual, h_refunded.applied⟩, nofun, ?_⟩
    intro _ report' h_report' h_refused
    cases h_report.symm.trans h_report'
    obtain ⟨rfl, _⟩ := h_surfaces h_refused
    exact ⟨⟨exc, rfl⟩, h_refunded.applied⟩
  · rintro _ s' ⟨actual, h_refunded, h_surfaces⟩
    refine .of_ok rfl ⟨h_refunded.closed.notInFlight, ⟨actual, h_refunded.applied⟩, nofun, ?_⟩
    intro _ report' h_report' h_refused
    cases h_report.symm.trans h_report'
    obtain ⟨_, _, h_error⟩ := h_surfaces h_refused
    cases h_error

/-- Leaving the block closes the reservation, with one refund and the right exception, if
    and only if the block did not end normally with `None` reported last. -/
theorem leave_closes_iff (h_held : s.Held reservation) (h_acquired : reservation.Acquired)
    (h_first : first.Succeeds reservation s.maxReservationLifetimeSeconds)
    (h_second : second.Succeeds reservation s.maxReservationLifetimeSeconds)
    (h_usageOnError : usageOnError.Calm) (h_reports : ∀ report ∈ reports, report.Calm) :
    Body.Finishes (Closes validateKeySegment reservation reports raised s)
        (leave validateKeySegment first second (reporting usageOnError reservation reports) raised)
        s ↔ ¬(raised = none ∧ reports.getLast? = some .pyNone) := by
  cases raised with
  | some exc =>
    have h_leave := @leave_raised s reservation validateKeySegment first second usageOnError
      reports exc h_held h_acquired h_first h_second h_usageOnError
    exact iff_of_true h_leave nofun
  | none =>
    cases h_last : reports.getLast? with
    | none =>
      have h_leave := @leave_unreported s reservation validateKeySegment first second usageOnError
        reports h_held h_acquired h_first h_last
      exact iff_of_true h_leave nofun
    | some report =>
      by_cases h_none : report.isNone = true
      · -- the assertion of `__aexit__` fails before any refund
        have h_report : report = .pyNone := by
          cases report with
          | pyNone => rfl
          | reservation => cases h_none
          | notMapping => cases h_none
          | mapping => cases h_none
          | frozen => cases h_none
        subst h_report
        refine iff_of_false ?_ fun h => h ⟨rfl, rfl⟩
        rw [reporting_eq, h_last]
        intro h_closes
        exact (show Closes validateKeySegment reservation reports none s
          (.error (.exception .assertionError)) s from h_closes).notInFlight h_held.inFlight
      · have h_some : report.isNone = false := by simpa using h_none
        have h_calm := h_reports report (List.mem_of_getLast? h_last)
        have h_leave := @leave_reported s reservation validateKeySegment first second usageOnError
          reports report h_held h_acquired h_first h_second h_calm h_last h_some
        refine iff_of_true h_leave ?_
        rintro ⟨_, h_report⟩
        cases h_report
        cases h_some

/-! ## A reported `None` -/

/-- A reservation of a hundred tokens. -/
def hundredTokens : CapacityReservation where
  reservationId := "a"
  usage := tokens 100
  bucketIds := some {tokensPerMinute}
  isUnlimited := false
  limiterInstanceId := "limiter"
  createdAtSeconds := none

/-- The limiter that has it in flight. -/
def holder : RefundingLimiter where
  limiterInstanceId := "limiter"
  maxReservationLifetimeSeconds := none
  closed := false
  tables :=
    { inFlightReservationIds := {"a"}
      refundedReservationIds := []
      refundedIdsCap := 131072
      refundInProgress := ∅
      refundLocks := .empty
      refundLockRefcounts := .empty
      nextLock := 0
      holder := fun _ => none }
  appliedRefunds := []

/-- A backend without acquire markers that applies the refund; warnings are errors. -/
def applying : RefundEnv where
  entry := .ok ()
  now := 0
  refresh := .ok ()
  backend := some ⟨.ok false, true, .ok (), false, false⟩
  activeBucketIds := some {tokensPerMinute}
  interrupted := false
  emit := .ok ()
  warn := .error (.exception .runtimeWarning)

theorem holder_held : holder.Held hundredTokens where
  opened := rfl
  issuer := rfl
  remembers := Nat.zero_lt_succ _
  inFlight := Finset.mem_singleton_self _
  uncommitted := nofun
  idle := Finset.notMem_empty _

/-- `set_actual_usage(None)` and a normal exit: the assertion fails, the reservation stays in
    flight and nothing is refunded. -/
theorem reportedNone_leaks :
    leave some applying applying (reporting .pyNone hundredTokens [.pyNone]) none holder =
        .error (.exception .assertionError) holder ∧
      ¬Body.Finishes (Closes some hundredTokens [.pyNone] none holder)
        (leave some applying applying (reporting .pyNone hundredTokens [.pyNone]) none) holder := by
  refine ⟨rfl, fun h_closes => ?_⟩
  exact (show Closes some hundredTokens [.pyNone] none holder
    (.error (.exception .assertionError)) holder from h_closes).notInFlight holder_held.inFlight

/-- The block raises with usages for another metric: the reservation is closed and the
    exception goes on. -/
theorem leave_closes_iff_wrongKeys :
    Body.Finishes (Closes some hundredTokens [.pyNone] (some .keyboardInterrupt) holder)
      (leave some applying applying
        (reporting (.frozen (Finmap.singleton "widgets" 40)) hundredTokens [.pyNone])
        (some .keyboardInterrupt)) holder := by
  have h_acquired : hundredTokens.Acquired :=
    ⟨rfl, {tokensPerMinute}, rfl, Finset.singleton_nonempty _,
      tokens_covers _ (by decide) (by norm_num)⟩
  have h_env : applying.Succeeds hundredTokens holder.maxReservationLifetimeSeconds :=
    ⟨rfl, rfl, ⟨_, false, rfl, rfl, rfl, rfl⟩, rfl, rfl, nofun, nofun⟩
  have h_reports : ∀ report ∈ [UsageArgument.pyNone], report.Calm := by
    intro report h_mem
    obtain rfl := List.mem_singleton.mp h_mem
    trivial
  have h_usageOnError : (UsageArgument.frozen (Finmap.singleton "widgets" 40)).Calm := trivial
  exact (leave_closes_iff holder_held h_acquired h_env h_env h_usageOnError h_reports).mpr nofun

end ReservationScope

end TokenThrottle
