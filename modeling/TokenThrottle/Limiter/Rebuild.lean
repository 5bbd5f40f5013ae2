/-
  TokenThrottle.Limiter.Rebuild

  What `_sync_backend_quotas` does when the quotas of a family change.  For another
  metric set it builds a backend for the new configuration, lets the live one prepare
  for it, and puts the runtime limits back, one bucket at a time.

  * The rebuild is written once over the methods of a backend; the Redis methods are
    the programs of `Redis.Backend`.
  * The checks before it (the backend supports the change, no other acquire of the
    family is pending) raise before anything has changed.
  * A family's quotas are taken out of the table when the rebuild starts and put back
    when it raises.  The caller holds `_lock`, so no other rebuild runs.
-/
import TokenThrottle.Redis.Backend
import TokenThrottle.Theory.OrderedDict

namespace TokenThrottle

open Theory (OrderedDict Program)

/-- The quotas of a configuration: `UsageQuotas`, and `_quotas_snapshot` of it. -/
abbrev UsageQuotas := OrderedDict BucketId MaxCapacity

/-- `_model_family_to_runtime_max_capacity[family]` -/
abbrev RuntimeMaxCapacity := OrderedDict BucketId MaxCapacity

/-! ## Runtime limits -/

/-- The limit a rebuild gives a bucket: the runtime limit of a bucket that keeps its
    quota, the quota otherwise. -/
def preservedLimit (oldSnapshot : UsageQuotas) (runtimeOverrides : RuntimeMaxCapacity)
    (id : BucketId) (limit : MaxCapacity) : MaxCapacity :=
  match runtimeOverrides.get id with
  | none => limit
  | some override => if oldSnapshot.get id ≠ some limit then limit else override

/-- `_cfg_with_preserved_runtime_max_capacity` -/
def cfgWithPreservedRuntimeMaxCapacity (quotas oldSnapshot : UsageQuotas)
    (runtimeOverrides : RuntimeMaxCapacity) : UsageQuotas :=
  quotas.mapValues (preservedLimit oldSnapshot runtimeOverrides)

/-- The bucket has the same quota before and after, so its runtime limit is restored. -/
def keepsQuota (oldSnapshot newSnapshot : UsageQuotas) (id : BucketId) : Bool :=
  (newSnapshot.get id).isSome ∧ oldSnapshot.get id = newSnapshot.get id

section Methods

variable {C : Type} {R : C → Type}

/-- The loop of `_restore_runtime_max_capacity` over the runtime limits. -/
def restoreRuntimeMaxCapacity (setMaxCapacity : BucketId → ℚ → Program C R BackendError Unit)
    (oldSnapshot newSnapshot : UsageQuotas) :
    List (BucketId × MaxCapacity) → Program C R BackendError Unit
  | [] => pure ()
  | (id, value) :: overrides => do
    Program.when (keepsQuota oldSnapshot newSnapshot id) (setMaxCapacity id value.value)
    restoreRuntimeMaxCapacity setMaxCapacity oldSnapshot newSnapshot overrides

/-! ## The rebuild -/

/-- What the limiter calls on a backend to rebuild it. -/
structure RebuildMethods (C : Type) (R : C → Type) where
  Built : Type
  /-- What the preparation returns: the backend itself, or the one that replaces it. -/
  Reconfigured : Type
  build : UsageQuotas → Program C R BackendError Built
  prepareReconfiguredBackend : Built → UsageQuotas → Program C R BackendError Reconfigured
  setMaxCapacity : Reconfigured → BucketId → ℚ → Program C R BackendError Unit
  applyConfiguredMaxCapacity : BucketId → ℚ → Program C R BackendError Unit
  /-- `isinstance(backend, SqliteBackend)`: the overrides live in the shared rows. -/
  sharesOverrides : Bool

/-- What the limiter's tables say of a family, its backend apart. -/
structure FamilyEntry where
  quotas : Option UsageQuotas
  runtimeMaxCapacity : RuntimeMaxCapacity

/-- The configuration a rebuild passes to the backend. -/
def rebuildCfg (sharesOverrides : Bool) (entry : FamilyEntry)
    (oldSnapshot newSnapshot : UsageQuotas) : UsageQuotas :=
  if sharesOverrides then newSnapshot
  else cfgWithPreservedRuntimeMaxCapacity newSnapshot oldSnapshot entry.runtimeMaxCapacity

/-- The body of the `try`. -/
def rebuildBackend (methods : RebuildMethods C R) (entry : FamilyEntry)
    (oldSnapshot newSnapshot : UsageQuotas) :
    Program C R BackendError methods.Reconfigured := do
  let cfg := rebuildCfg methods.sharesOverrides entry oldSnapshot newSnapshot
  let backend ← methods.build cfg
  let backend ← methods.prepareReconfiguredBackend backend cfg
  if methods.sharesOverrides then pure ()
  else
    restoreRuntimeMaxCapacity (methods.setMaxCapacity backend) oldSnapshot newSnapshot
      entry.runtimeMaxCapacity.items
  return backend

/-- The entry once the rebuild has gone through. -/
def rebuiltEntry (sharesOverrides : Bool) (entry : FamilyEntry)
    (oldSnapshot newSnapshot : UsageQuotas) : FamilyEntry where
  quotas := some newSnapshot
  runtimeMaxCapacity :=
    if sharesOverrides then .empty
    else entry.runtimeMaxCapacity.filter (keepsQuota oldSnapshot newSnapshot)

/-- The branch of `_sync_backend_quotas` for a changed metric set, once its checks have
    passed: the entry it leaves, and how it ends. -/
def syncChangedMetricSet (methods : RebuildMethods C R) (entry : FamilyEntry)
    (oldSnapshot newSnapshot : UsageQuotas) :
    Program C R BackendError (FamilyEntry × Except BackendError methods.Reconfigured) := do
  let result ← (rebuildBackend methods entry oldSnapshot newSnapshot).attempt
  match result with
  | .ok backend =>
    return (rebuiltEntry methods.sharesOverrides entry oldSnapshot newSnapshot, .ok backend)
  | .error e => return ({ entry with quotas := some oldSnapshot }, .error e)

/-! ## Changed limits -/

/-- The loop over the quotas whose limit has changed. -/
def applyChangedLimits (applyConfiguredMaxCapacity : BucketId → ℚ → Program C R BackendError Unit)
    (oldSnapshot : UsageQuotas) : List (BucketId × MaxCapacity) → Program C R BackendError Unit
  | [] => pure ()
  | (id, limit) :: quotas => do
    Program.when (oldSnapshot.get id ≠ some limit) (applyConfiguredMaxCapacity id limit.value)
    applyChangedLimits applyConfiguredMaxCapacity oldSnapshot quotas

/-- The branch of `_sync_backend_quotas` for changed limits of the same buckets. -/
def syncChangedLimits (methods : RebuildMethods C R) (entry : FamilyEntry)
    (oldSnapshot newSnapshot : UsageQuotas) :
    Program C R BackendError (FamilyEntry × Except BackendError Unit) := do
  let result ← (applyChangedLimits methods.applyConfiguredMaxCapacity oldSnapshot
    newSnapshot.items).attempt
  match result with
  | .ok () =>
    -- `_clear_runtime_max_capacity` of the changed buckets
    let unchanged id := (newSnapshot.get id).isNone || oldSnapshot.get id = newSnapshot.get id
    return (⟨some newSnapshot, entry.runtimeMaxCapacity.filter unchanged⟩, .ok ())
  | .error e => return ({ entry with quotas := some oldSnapshot }, .error e)

/-! ## Rules -/

variable {methods : RebuildMethods C R} {entry : FamilyEntry} {oldSnapshot newSnapshot : UsageQuotas}
  {σ T : Type} {serve : T → (command : C) → σ → Except BackendError (R command) × σ}
  {good : T → Prop} {s : σ}

/-- What the snapshot of a family is after a rebuild. -/
def Settles (oldSnapshot newSnapshot : UsageQuotas) {α : Type}
    (outcome : FamilyEntry × Except BackendError α) : Prop :=
  outcome.1.quotas = match outcome.2 with
    | .ok _ => some newSnapshot
    | .error _ => some oldSnapshot

theorem restoreRuntimeMaxCapacity_issues {allowed : C → Prop}
    {setMaxCapacity : BucketId → ℚ → Program C R BackendError Unit}
    (h_set : ∀ id value, (setMaxCapacity id value).Issues allowed)
    (overrides : List (BucketId × MaxCapacity)) :
    (restoreRuntimeMaxCapacity setMaxCapacity oldSnapshot newSnapshot overrides).Issues
      allowed := by
  induction overrides with
  | nil => exact .pure ()
  | cons item overrides ih => exact (Program.Issues.when (h_set _ _)).bind fun _ => ih

theorem applyChangedLimits_issues {allowed : C → Prop}
    {applyConfiguredMaxCapacity : BucketId → ℚ → Program C R BackendError Unit}
    (h_apply : ∀ id value, (applyConfiguredMaxCapacity id value).Issues allowed)
    (quotas : List (BucketId × MaxCapacity)) :
    (applyChangedLimits applyConfiguredMaxCapacity oldSnapshot quotas).Issues allowed := by
  induction quotas with
  | nil => exact .pure ()
  | cons quota quotas ih => exact (Program.Issues.when (h_apply _ _)).bind fun _ => ih

theorem syncChangedMetricSet_emits {allowed : C → Prop}
    (h_rebuild : (rebuildBackend methods entry oldSnapshot newSnapshot).Emits allowed
      fun _ => True) :
    (syncChangedMetricSet methods entry oldSnapshot newSnapshot).Emits allowed
      (Settles oldSnapshot newSnapshot) := by
  refine h_rebuild.attempt.bind fun result _ => ?_
  cases result with
  | ok backend => exact Program.Emits.pure rfl
  | error e => exact Program.Emits.pure rfl

/-- A rebuild that goes through. -/
theorem syncChangedMetricSet_leads {post : methods.Reconfigured → σ → Prop}
    (h_rebuild : (rebuildBackend methods entry oldSnapshot newSnapshot).Leads serve good post s) :
    (syncChangedMetricSet methods entry oldSnapshot newSnapshot).Leads serve good
      (fun outcome s' => ∀ backend, outcome.2 = .ok backend → post backend s') s := by
  refine h_rebuild.attempt.bind fun result s' h_result => ?_
  cases result with
  | ok backend => exact Program.Leads.pure h_result
  | error e => exact Program.Leads.pure fun _ h_ok => nomatch h_ok

theorem syncChangedLimits_issues {allowed : C → Prop}
    (h_apply : ∀ id value, (methods.applyConfiguredMaxCapacity id value).Issues allowed) :
    (syncChangedLimits methods entry oldSnapshot newSnapshot).Issues allowed := by
  refine (applyChangedLimits_issues h_apply newSnapshot.items).attempt.bind fun result => ?_
  cases result with
  | ok _ => exact .pure _
  | error e => exact .pure _

/-- A change of limits keeps the bucket ids of the snapshot. -/
theorem syncChangedLimits_emits
    (h_apply : ∀ id value, (methods.applyConfiguredMaxCapacity id value).Issues fun _ => True) :
    (syncChangedLimits methods entry oldSnapshot newSnapshot).Emits (fun _ => True)
      (Settles oldSnapshot newSnapshot) := by
  refine (applyChangedLimits_issues h_apply newSnapshot.items).emits.attempt.bind
    fun result _ => ?_
  cases result with
  | ok _ => exact Program.Emits.pure rfl
  | error e => exact Program.Emits.pure rfl

end Methods

/-! ## Redis -/

structure RedisBackendBuilder where
  keyPrefix : String
  modelFamily : String
  bucketTtlSeconds : ℕ
  overrideTtlSeconds : ℕ
  callbacks : CallbackSlot → Bool
  /-- What an attribute of a bucket that does not exist would be. -/
  absent : MaxCapacity

namespace RedisBackendBuilder

def bucketKey (builder : RedisBackendBuilder) (id : BucketId) : BucketKey :=
  ⟨builder.keyPrefix, builder.modelFamily, id⟩

/-- `sorted(buckets, key=lambda b: b.full_redis_key)` -/
def sortBuckets (builder : RedisBackendBuilder) (ids : List BucketId) : List BucketId :=
  ids.insertionSort fun a b =>
    (builder.bucketKey a).fullRedisKey ≤ (builder.bucketKey b).fullRedisKey

theorem sort_perm (builder : RedisBackendBuilder) (ids : List BucketId) :
    (builder.sortBuckets ids).Perm ids :=
  List.perm_insertionSort _ ids

/-- The backend object `build` makes. -/
def built (builder : RedisBackendBuilder) (quotas : UsageQuotas) : RedisClient where
  keyPrefix := builder.keyPrefix
  modelFamily := builder.modelFamily
  sortedBuckets := builder.sortBuckets (quotas.items.map Prod.fst)
  nodup := (builder.sort_perm _).nodup_iff.mpr quotas.nodup
  maxCapacityDefault id := (quotas.get id).getD builder.absent
  bucketTtlSeconds := builder.bucketTtlSeconds
  overrideTtlSeconds := builder.overrideTtlSeconds
  callbacks := builder.callbacks
  caches := ⟨fun _ => none, fun _ => none⟩

/-- `build`: its checks raise, or the object is made. -/
def build (builder : RedisBackendBuilder) (quotas : UsageQuotas) : RedisProgram RedisClient := do
  send .suspend
  return builder.built quotas

theorem mem_sortedBuckets {builder : RedisBackendBuilder} {quotas : UsageQuotas}
    {id : BucketId} : id ∈ (builder.built quotas).sortedBuckets ↔ (quotas.get id).isSome := by
  show id ∈ builder.sortBuckets _ ↔ _
  rw [(builder.sort_perm _).mem_iff, ← OrderedDict.mem_keys_iff, OrderedDict.keys,
    List.mem_toFinset]

end RedisBackendBuilder

/-- The methods a limiter over Redis calls. -/
def redisMethods (builder : RedisBackendBuilder) : RebuildMethods Command Command.Response where
  Built := RedisClient
  Reconfigured := Unit
  build := builder.build
  prepareReconfiguredBackend newBackend cfg :=
    RedisBackend.prepareReconfiguredBackend newBackend cfg.items
  setMaxCapacity _ := RedisBackend.setMaxCapacity
  applyConfiguredMaxCapacity := RedisBackend.applyConfiguredMaxCapacity
  sharesOverrides := false

end TokenThrottle
