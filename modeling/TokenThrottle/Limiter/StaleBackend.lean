/-
  TokenThrottle.Limiter.StaleBackend

  When a lock-free lookup returns a backend that has been replaced.

  * `Coherent` ties the two dictionaries to the backend objects: recorded quotas have an
    open backend behind them.
  * `Knows` is what a thread knows at each step of its lookup, `Rely` what a step of one
    thread leaves to the others.  A rebuild withdraws the quotas first, so a thread that
    has read the old backend then finds none; only the quotas of its own configuration,
    written before it looks, would let it return that backend.
-/
import TokenThrottle.Limiter.BackendLookup

namespace TokenThrottle

open Theory (Dict Run Steps guard steps_guard_iff exists_run_of_exec)

/-! ## What a lookup relies on -/

namespace BackendCache

/-- A family whose quotas are recorded has an open backend for them. -/
structure Coherent (c : BackendCache) : Prop where
  cached : ∀ modelFamily backend, c.modelFamilyToBackend.get modelFamily = some backend →
    backend < c.built ∧ (c.object backend).modelFamily = modelFamily
  justified : ∀ modelFamily snapshot, c.modelFamilyToQuotas.get modelFamily = some snapshot →
    ∃ backend, c.modelFamilyToBackend.get modelFamily = some backend ∧
      (c.object backend).bucketIds = snapshot.keys ∧ backend ∉ c.closed
  installed : ∀ modelFamily, c.closedAtInstall modelFamily ⊆ c.closed
  closed : ∀ backend ∈ c.closed, backend < c.built

/-- The backend is one for the configuration, and still open. -/
structure Serves (c : BackendCache) (cfg : PerModelConfig) (backend : BackendId) : Prop where
  built : backend < c.built
  modelFamily : (c.object backend).modelFamily = cfg.modelFamily
  bucketIds : (c.object backend).bucketIds = cfg.quotas.keys
  isOpen : backend ∉ c.closed

/-- A family under reconstruction: no quotas are recorded for its old backend. -/
structure Invalidated (c : BackendCache) (cfg : PerModelConfig) (r : Rebuilding) : Prop where
  quotas : c.modelFamilyToQuotas.get cfg.modelFamily = none
  backend : c.modelFamilyToBackend.get cfg.modelFamily = some r.oldBackend
  bucketIds : (c.object r.oldBackend).bucketIds = r.oldSnapshot.keys

/-- What a thread knows of the tables at a step of its lookup. -/
def Knows (c : BackendCache) (cfg : PerModelConfig) : LookupPc → Prop
  /- what it has read is still in the cache, unless it will find other quotas -/
  | .readQuotas backend =>
    c.modelFamilyToQuotas.get cfg.modelFamily = some cfg.quotas →
      c.modelFamilyToBackend.get cfg.modelFamily = some backend
  | .build => c.modelFamilyToQuotas.get cfg.modelFamily = none
  | .readOldBackend oldSnapshot =>
    c.modelFamilyToQuotas.get cfg.modelFamily = some oldSnapshot
  | .warn r | .invalidate r =>
    c.modelFamilyToQuotas.get cfg.modelFamily = some r.oldSnapshot ∧
      c.modelFamilyToBackend.get cfg.modelFamily = some r.oldBackend
  | .rebuild r | .reinstall r => c.Invalidated cfg r
  | .prepare r backend | .closeOld r backend =>
    c.Invalidated cfg r ∧ c.Serves cfg backend ∧ backend ≠ r.oldBackend
  | .restore r backend => c.Invalidated cfg r ∧ c.Serves cfg backend
  | .applyLimits backend =>
    c.modelFamilyToBackend.get cfg.modelFamily = some backend ∧ c.Serves cfg backend
  | .writeBackend backend =>
    c.modelFamilyToQuotas.get cfg.modelFamily = none ∧ c.Serves cfg backend
  | .writeQuotas backend =>
    c.modelFamilyToBackend.get cfg.modelFamily = some backend ∧ c.Serves cfg backend
  | .readBackend | .takeLock | .rereadBackend | .readOldSnapshot => True

variable {c : BackendCache} {cfg : PerModelConfig} {backend : BackendId}
  {modelFamily : ModelFamily} {snapshot : QuotasSnapshot}

theorem coherent_empty : empty.Coherent :=
  ⟨nofun, nofun, fun _ => Finset.Subset.refl _, nofun⟩

theorem Coherent.serves (h_coherent : c.Coherent)
    (h_quotas : c.modelFamilyToQuotas.get cfg.modelFamily = some snapshot)
    (h_backend : c.modelFamilyToBackend.get cfg.modelFamily = some backend)
    (h_keys : cfg.quotas.keys = snapshot.keys) : c.Serves cfg backend := by
  obtain ⟨backend', h_backend', h_ids, h_open⟩ := h_coherent.justified _ _ h_quotas
  obtain ⟨h_built, h_family⟩ := h_coherent.cached _ _ h_backend
  rw [h_backend] at h_backend'
  cases h_backend'
  exact ⟨h_built, h_family, h_ids.trans h_keys.symm, h_open⟩

/-! ### The writes -/

theorem object_build (cfg : PerModelConfig) (h_built : backend < c.built) :
    (c.build cfg).object backend = c.object backend :=
  Function.update_of_ne (Nat.ne_of_lt h_built) _ _

theorem Coherent.build (h_coherent : c.Coherent) (cfg : PerModelConfig) :
    (c.build cfg).Coherent where
  cached modelFamily backend h_backend := by
    obtain ⟨h_built, h_family⟩ := h_coherent.cached modelFamily backend h_backend
    rw [object_build cfg h_built]
    exact ⟨Nat.lt_succ_of_lt h_built, h_family⟩
  justified modelFamily snapshot h_quotas := by
    obtain ⟨backend, h_backend, h_ids, h_open⟩ := h_coherent.justified modelFamily snapshot h_quotas
    have h_built := (h_coherent.cached modelFamily backend h_backend).1
    refine ⟨backend, h_backend, ?_, h_open⟩
    rw [object_build cfg h_built]
    exact h_ids
  installed := h_coherent.installed
  closed backend h_closed := Nat.lt_succ_of_lt (h_coherent.closed backend h_closed)

/-- A new object serves the configuration it is built for. -/
theorem Coherent.build_serves (h_coherent : c.Coherent) (cfg : PerModelConfig) :
    (c.build cfg).Serves cfg c.built := by
  have h_object : (c.build cfg).object c.built = ⟨cfg.modelFamily, cfg.quotas.keys⟩ :=
    Function.update_self _ _ _
  refine ⟨Nat.lt_succ_self c.built, ?_, ?_, fun h_closed => ?_⟩
  · rw [h_object]
  · rw [h_object]
  · exact absurd (h_coherent.closed _ h_closed) (Nat.lt_irrefl c.built)

theorem Coherent.writeBackend (h_coherent : c.Coherent)
    (h_quotas : c.modelFamilyToQuotas.get cfg.modelFamily = none)
    (h_serves : c.Serves cfg backend) : (c.writeBackend cfg.modelFamily backend).Coherent where
  cached modelFamily backend' h_backend := by
    obtain ⟨rfl, rfl⟩ | ⟨_, h_old⟩ := Dict.get_set_cases h_backend
    · exact ⟨h_serves.built, h_serves.modelFamily⟩
    · exact h_coherent.cached modelFamily backend' h_old
  justified modelFamily snapshot h_snapshot := by
    obtain ⟨backend', h_backend, h_rest⟩ := h_coherent.justified modelFamily snapshot h_snapshot
    have h_ne : modelFamily ≠ cfg.modelFamily := by
      rintro rfl
      rw [show c.modelFamilyToQuotas.get cfg.modelFamily = some snapshot from h_snapshot] at h_quotas
      cases h_quotas
    exact ⟨backend', (Dict.get_set_of_ne h_ne).trans h_backend, h_rest⟩
  installed := h_coherent.installed
  closed := h_coherent.closed

theorem Coherent.writeQuotas (h_coherent : c.Coherent)
    (h_backend : c.modelFamilyToBackend.get modelFamily = some backend)
    (h_ids : (c.object backend).bucketIds = snapshot.keys) (h_open : backend ∉ c.closed) :
    (c.writeQuotas modelFamily snapshot).Coherent where
  cached := h_coherent.cached
  justified modelFamily' snapshot' h_snapshot := by
    obtain ⟨rfl, rfl⟩ | ⟨_, h_old⟩ := Dict.get_set_cases h_snapshot
    · exact ⟨backend, h_backend, h_ids, h_open⟩
    · exact h_coherent.justified modelFamily' snapshot' h_old
  installed modelFamily' := by
    show Function.update c.closedAtInstall modelFamily c.closed modelFamily' ⊆ c.closed
    rw [Function.update_apply]
    split
    · exact Finset.Subset.refl _
    · exact h_coherent.installed modelFamily'
  closed := h_coherent.closed

theorem Coherent.popQuotas (h_coherent : c.Coherent) (modelFamily : ModelFamily) :
    (c.popQuotas modelFamily).Coherent where
  cached := h_coherent.cached
  justified modelFamily' snapshot h_snapshot :=
    h_coherent.justified modelFamily' snapshot (Dict.get_pop_cases h_snapshot).2
  installed := h_coherent.installed
  closed := h_coherent.closed

/-- The backend of a family without quotas is closed. -/
theorem Coherent.close (h_coherent : c.Coherent)
    (h_quotas : c.modelFamilyToQuotas.get cfg.modelFamily = none)
    (h_backend : c.modelFamilyToBackend.get cfg.modelFamily = some backend) :
    (c.close backend).Coherent where
  cached := h_coherent.cached
  justified modelFamily snapshot h_snapshot := by
    obtain ⟨backend', h_backend', h_ids, h_open⟩ :=
      h_coherent.justified modelFamily snapshot h_snapshot
    refine ⟨backend', h_backend', h_ids, fun h_closed => ?_⟩
    obtain rfl | h_closed := Finset.mem_insert.mp h_closed
    · -- a backend serves one family
      have h_family := (h_coherent.cached _ _ h_backend).2
      have h_family' := (h_coherent.cached _ _ h_backend').2
      rw [h_family] at h_family'
      subst h_family'
      rw [show c.modelFamilyToQuotas.get cfg.modelFamily = some snapshot from h_snapshot] at h_quotas
      cases h_quotas
    · exact h_open h_closed
  installed modelFamily :=
    (h_coherent.installed modelFamily).trans (Finset.subset_insert backend c.closed)
  closed backend' h_closed := by
    obtain rfl | h_closed := Finset.mem_insert.mp h_closed
    · exact (h_coherent.cached _ _ h_backend).1
    · exact h_coherent.closed backend' h_closed

end BackendCache

/-- The backend returned is one for the configuration, and it had not been closed when the
    quotas were written that let it be returned. -/
structure ReturnedBackend.Current (returned : ReturnedBackend) (c : BackendCache) : Prop where
  built : returned.backend < c.built
  bucketIds : (c.object returned.backend).bucketIds = returned.cfg.quotas.keys
  notClosed : returned.backend ∉ returned.closedBefore

/-- The thread holds `_lock`. -/
def LookupPc.locked : LookupPc → Bool
  | .readBackend | .readQuotas _ | .takeLock => false
  | _ => true

namespace LookupLimiter

/-- A call for the snapshot is between its two reads, with a backend in hand that is no
    longer the family's. -/
def holdsReplaced (s : LookupLimiter) (modelFamily : ModelFamily) (snapshot : QuotasSnapshot)
    (t : LookupThread) : Bool :=
  match t.pc with
  | .lookup (.readQuotas backend) =>
    t.call.cfg.modelFamily = modelFamily ∧ t.call.cfg.quotas = snapshot ∧
      s.cache.modelFamilyToBackend.get modelFamily ≠ some backend
  | _ => false

def undisturbed (s : LookupLimiter) (modelFamily : ModelFamily) (snapshot : QuotasSnapshot) :
    Bool :=
  ∀ tid ∈ s.threads.keys, (s.threads.get tid).all fun t => !s.holdsReplaced modelFamily snapshot t

/-- When quotas are written, no call for them holds a replaced backend, and a rebuild that
    puts the old quotas back has not closed the old backend. -/
def writesSafely (s : LookupLimiter) (call : LookupCall) : LookupPc → Bool
  | .writeQuotas _ => s.undisturbed call.cfg.modelFamily call.cfg.quotas
  | .reinstall r =>
    s.undisturbed call.cfg.modelFamily r.oldSnapshot && decide (r.oldBackend ∉ s.cache.closed)
  | _ => true

/-- What a step of thread `tid` leaves to the others. -/
structure Rely (s : LookupLimiter) (tid : ThreadId) (s' : LookupLimiter) : Prop where
  coherent : s'.cache.Coherent
  lock : ∀ tid', tid' ≠ tid → s.lock = some tid' → s'.lock = some tid'
  quiet : s'.cache = s.cache ∨ s.lock = some tid
  built : s.cache.built ≤ s'.cache.built
  object : ∀ backend < s.cache.built, s'.cache.object backend = s.cache.object backend
  awaits : ∀ tid' t backend, s.threads.get tid' = some t → t.pc = .lookup (.readQuotas backend) →
    s.cache.Knows t.call.cfg (.readQuotas backend) →
      s'.cache.Knows t.call.cfg (.readQuotas backend)
  threads : s'.threads = s.threads
  returned : ∀ returned ∈ s'.returned, returned ∈ s.returned ∨ returned.Current s'.cache

variable {s s' : LookupLimiter} {tid : ThreadId} {call : LookupCall} {raises : Bool}
  {c : BackendCache}

theorem Rely.refl (h_coherent : s.cache.Coherent) : s.Rely tid s where
  coherent := h_coherent
  lock _ _ h_lock := h_lock
  quiet := .inl rfl
  built := Nat.le_refl _
  object _ _ := rfl
  awaits _ _ _ _ _ h_knows := h_knows
  threads := rfl
  returned _ h_mem := .inl h_mem

theorem Rely.takeLock (h_coherent : s.cache.Coherent) (h_free : s.lock = none) :
    s.Rely tid (s.setLock (some tid)) :=
  { Rely.refl h_coherent with
    lock := fun tid' _ h_lock => by
      rw [h_free] at h_lock
      cases h_lock }

theorem Rely.releaseLock (h_rely : s.Rely tid s') (h_lock : s.lock = some tid) :
    s.Rely tid (s'.setLock none) :=
  { h_rely with
    lock := fun tid' h_ne h_other => by
      rw [h_lock] at h_other
      exact absurd (Option.some.inj h_other).symm h_ne }

/-- The holder of `_lock` writes; the quotas it leaves are older ones, of families whose
    backends it has not touched. -/
theorem Rely.setCache (h_lock : s.lock = some tid) (h_coherent : c.Coherent)
    (h_built : s.cache.built ≤ c.built)
    (h_object : ∀ backend < s.cache.built, c.object backend = s.cache.object backend)
    (h_quotas : ∀ modelFamily snapshot, c.modelFamilyToQuotas.get modelFamily = some snapshot →
      s.cache.modelFamilyToQuotas.get modelFamily = some snapshot ∧
        c.modelFamilyToBackend.get modelFamily = s.cache.modelFamilyToBackend.get modelFamily) :
    s.Rely tid (s.setCache c) where
  coherent := h_coherent
  lock _ _ h_other := h_other
  quiet := .inr h_lock
  built := h_built
  object := h_object
  awaits tid' t backend _ _ h_knows h_snapshot := by
    obtain ⟨h_old, h_same⟩ := h_quotas _ _ h_snapshot
    exact h_same.trans (h_knows h_old)
  threads := rfl
  returned _ h_mem := .inl h_mem

/-- Quotas are written while no call for them holds a replaced backend. -/
theorem Rely.writeQuotas {modelFamily : ModelFamily} {snapshot : QuotasSnapshot}
    (h_lock : s.lock = some tid) (h_coherent : (s.cache.writeQuotas modelFamily snapshot).Coherent)
    (h_safe : s.undisturbed modelFamily snapshot = true) :
    s.Rely tid (s.setCache (s.cache.writeQuotas modelFamily snapshot)) where
  coherent := h_coherent
  lock _ _ h_other := h_other
  quiet := .inr h_lock
  built := Nat.le_refl _
  object _ _ := rfl
  awaits tid' t backend h_thread h_pc h_knows h_snapshot := by
    obtain ⟨h_family, h_quotas⟩ | ⟨_, h_old⟩ := Dict.get_set_cases h_snapshot
    · unfold undisturbed at h_safe
      have h_free := of_decide_eq_true h_safe tid' (Dict.mem_keys_of_get h_thread)
      rw [h_thread, Option.all_some, Bool.not_eq_true'] at h_free
      unfold holdsReplaced at h_free
      rw [h_pc] at h_free
      by_contra h_ne
      have h_replaced := of_decide_eq_false h_free
      rw [← h_family] at h_replaced
      exact h_replaced ⟨rfl, h_quotas, h_ne⟩
    · exact h_knows h_old
  threads := rfl
  returned _ h_mem := .inl h_mem

/-- How a step of a lookup leaves its own thread. -/
def Leaves (s : LookupLimiter) (tid : ThreadId) (cfg : PerModelConfig) : LookupResult → Prop
  | .running pc => (pc.locked = true → s.lock = some tid) ∧ s.cache.Knows cfg pc
  | .returns backend closedBefore =>
    ReturnedBackend.Current ⟨cfg, backend, closedBefore⟩ s.cache
  | .raises => True

/-- The two reads of the fast path change nothing. -/
theorem readBackend_leaves {result : LookupResult} (h_coherent : s.cache.Coherent)
    (h_step : s.lookupStep tid call raises .readBackend = some (s', result)) :
    s.Rely tid s' ∧ s'.Leaves tid call.cfg result := by
  dsimp only [lookupStep] at h_step
  split at h_step
  · rename_i backend h_backend
    cases h_step
    exact ⟨.refl h_coherent, nofun, fun _ => h_backend⟩
  · cases h_step
    exact ⟨.refl h_coherent, nofun, trivial⟩

theorem readQuotas_leaves {backend : BackendId} {result : LookupResult}
    (h_coherent : s.cache.Coherent) (h_knows : s.cache.Knows call.cfg (.readQuotas backend))
    (h_step : s.lookupStep tid call raises (.readQuotas backend) = some (s', result)) :
    s.Rely tid s' ∧ s'.Leaves tid call.cfg result := by
  dsimp only [lookupStep] at h_step
  split at h_step
  · rename_i h_quotas
    cases h_step
    have h_serves := h_coherent.serves h_quotas (h_knows h_quotas) rfl
    exact ⟨.refl h_coherent, h_serves.built, h_serves.bucketIds,
      fun h_closed => h_serves.isOpen (h_coherent.installed _ h_closed)⟩
  · cases h_step
    exact ⟨.refl h_coherent, nofun, trivial⟩

/-- A step that builds a backend. -/
theorem build_rely (h_coherent : s.cache.Coherent) (h_lock : s.lock = some tid) :
    s.Rely tid (s.setCache (s.cache.build call.cfg)) :=
  .setCache h_lock (h_coherent.build call.cfg) (Nat.le_succ _)
    (fun _ h_built => BackendCache.object_build call.cfg h_built) fun _ _ h_quotas => ⟨h_quotas, rfl⟩

/-- The steps under `_lock` that only read. -/
theorem lockedRead_leaves {pc : LookupPc} {result : LookupResult} (h_coherent : s.cache.Coherent)
    (h_lock : s.lock = some tid) (h_knows : s.cache.Knows call.cfg pc)
    (h_pc : pc = .rereadBackend ∨ pc = .readOldSnapshot ∨ ∃ snapshot, pc = .readOldBackend snapshot)
    (h_step : s.lookupStep tid call raises pc = some (s', result)) :
    s.Rely tid s' ∧ s'.Leaves tid call.cfg result := by
  have h_refl : s.Rely tid s := .refl h_coherent
  have h_released : s.Rely tid (s.setLock none) := h_refl.releaseLock h_lock
  obtain rfl | rfl | ⟨snapshot, rfl⟩ := h_pc
  · dsimp only [lookupStep] at h_step
    split at h_step
    · cases h_step
      exact ⟨h_refl, fun _ => h_lock, trivial⟩
    · rename_i h_missing
      cases h_step
      refine ⟨h_refl, fun _ => h_lock, ?_⟩
      show s.cache.modelFamilyToQuotas.get call.cfg.modelFamily = none
      cases h_quotas : s.cache.modelFamilyToQuotas.get call.cfg.modelFamily with
      | none => rfl
      | some snapshot =>
        obtain ⟨backend, h_backend, _⟩ := h_coherent.justified _ _ h_quotas
        rw [h_missing] at h_backend
        cases h_backend
  · dsimp only [lookupStep] at h_step
    split at h_step
    · rename_i snapshot h_quotas
      cases h_step
      exact ⟨h_refl, fun _ => h_lock, h_quotas⟩
    · cases h_step
      exact ⟨h_released, trivial⟩
  · have h_quotas : s.cache.modelFamilyToQuotas.get call.cfg.modelFamily = some snapshot := h_knows
    dsimp only [lookupStep] at h_step
    split at h_step
    · rename_i backend h_backend
      split at h_step
      · rename_i h_same
        cases h_step
        have h_serves := h_coherent.serves h_quotas h_backend (by rw [h_same])
        exact ⟨h_released, h_serves.built, h_serves.bucketIds,
          fun h_closed => h_serves.isOpen (h_coherent.installed _ h_closed)⟩
      · split at h_step
        · cases h_step
          exact ⟨h_refl, fun _ => h_lock, h_quotas, h_backend⟩
        · rename_i h_keys
          cases h_step
          exact ⟨h_refl, fun _ => h_lock, h_backend,
            h_coherent.serves h_quotas h_backend (not_not.mp h_keys)⟩
    · cases h_step
      exact ⟨h_released, trivial⟩

/-- The steps of a rebuild up to its replacement of the backend. -/
theorem rebuild_leaves {pc : LookupPc} {r : Rebuilding} {result : LookupResult}
    (h_coherent : s.cache.Coherent) (h_lock : s.lock = some tid)
    (h_knows : s.cache.Knows call.cfg pc)
    (h_pc : pc = .warn r ∨ pc = .invalidate r ∨ pc = .rebuild r ∨
      ∃ backend, pc = .prepare r backend ∨ pc = .closeOld r backend ∨ pc = .restore r backend)
    (h_step : s.lookupStep tid call raises pc = some (s', result)) :
    s.Rely tid s' ∧ s'.Leaves tid call.cfg result := by
  have h_refl : s.Rely tid s := .refl h_coherent
  have h_released : s.Rely tid (s.setLock none) := h_refl.releaseLock h_lock
  obtain rfl | rfl | rfl | ⟨backend, rfl | rfl | rfl⟩ := h_pc
  · cases raises with
    | true =>
      cases h_step
      exact ⟨h_released, trivial⟩
    | false =>
      cases h_step
      exact ⟨h_refl, fun _ => h_lock, h_knows⟩
  · obtain ⟨h_quotas, h_backend⟩ := h_knows
    dsimp only [lookupStep] at h_step
    split at h_step
    · cases h_step
      exact ⟨h_released, trivial⟩
    · cases h_step
      obtain ⟨backend, h_backend', h_ids, _⟩ := h_coherent.justified _ _ h_quotas
      rw [h_backend] at h_backend'
      cases h_backend'
      refine ⟨.setCache h_lock (h_coherent.popQuotas _) (Nat.le_refl _) (fun _ _ => rfl) ?_,
        fun _ => h_lock, Dict.get_pop_self _ _, h_backend, h_ids⟩
      intro modelFamily snapshot h_snapshot
      exact ⟨(Dict.get_pop_cases h_snapshot).2, rfl⟩
  · cases raises with
    | true =>
      cases h_step
      exact ⟨h_refl, fun _ => h_lock, h_knows⟩
    | false =>
      cases h_step
      have h_old := (h_coherent.cached _ _ h_knows.backend).1
      refine ⟨build_rely h_coherent h_lock, fun _ => h_lock, ⟨h_knows.quotas, h_knows.backend, ?_⟩,
        h_coherent.build_serves call.cfg, (Nat.ne_of_lt h_old).symm⟩
      show ((s.cache.build call.cfg).object r.oldBackend).bucketIds = _
      rw [BackendCache.object_build call.cfg h_old]
      exact h_knows.bucketIds
  · cases raises with
    | true =>
      cases h_step
      exact ⟨h_refl, fun _ => h_lock, h_knows.1⟩
    | false =>
      cases h_step
      exact ⟨h_refl, fun _ => h_lock, h_knows⟩
  · obtain ⟨h_invalidated, h_serves, h_ne⟩ := h_knows
    -- closed whether or not `aclose` raises; nobody can be handed the old backend any more
    have h_closed : s.Rely tid (s.setCache (s.cache.close r.oldBackend)) :=
      .setCache h_lock (h_coherent.close h_invalidated.quotas h_invalidated.backend)
        (Nat.le_refl _) (fun _ _ => rfl) fun _ _ h_snapshot => ⟨h_snapshot, rfl⟩
    have h_invalidated' : (s.cache.close r.oldBackend).Invalidated call.cfg r :=
      ⟨h_invalidated.quotas, h_invalidated.backend, h_invalidated.bucketIds⟩
    cases h_step
    cases raises with
    | true => exact ⟨h_closed, fun _ => h_lock, h_invalidated'⟩
    | false =>
      refine ⟨h_closed, fun _ => h_lock, h_invalidated', { h_serves with isOpen := ?_ }⟩
      exact fun h_mem => (Finset.mem_insert.mp h_mem).elim h_ne h_serves.isOpen
  · cases raises with
    | true =>
      cases h_step
      exact ⟨h_refl, fun _ => h_lock, h_knows.1⟩
    | false =>
      cases h_step
      exact ⟨h_refl, fun _ => h_lock, h_knows.1.quotas, h_knows.2⟩

/-- The steps that write the family's entries, and what comes right before them. -/
theorem install_leaves {pc : LookupPc} {result : LookupResult} (h_coherent : s.cache.Coherent)
    (h_lock : s.lock = some tid) (h_knows : s.cache.Knows call.cfg pc)
    (h_safe : s.writesSafely call pc = true)
    (h_pc : pc = .build ∨ (∃ r, pc = .reinstall r) ∨
      ∃ backend, pc = .applyLimits backend ∨ pc = .writeBackend backend ∨ pc = .writeQuotas backend)
    (h_step : s.lookupStep tid call raises pc = some (s', result)) :
    s.Rely tid s' ∧ s'.Leaves tid call.cfg result := by
  have h_refl : s.Rely tid s := .refl h_coherent
  have h_released : s.Rely tid (s.setLock none) := h_refl.releaseLock h_lock
  obtain rfl | ⟨r, rfl⟩ | ⟨backend, rfl | rfl | rfl⟩ := h_pc
  · cases raises with
    | true =>
      cases h_step
      exact ⟨h_released, trivial⟩
    | false =>
      cases h_step
      exact ⟨build_rely h_coherent h_lock, fun _ => h_lock, h_knows,
        h_coherent.build_serves call.cfg⟩
  · cases h_step
    obtain ⟨h_undisturbed, h_open⟩ := Bool.and_eq_true_iff.mp h_safe
    have h_written := h_coherent.writeQuotas h_knows.backend h_knows.bucketIds
      (of_decide_eq_true h_open)
    exact ⟨(Rely.writeQuotas h_lock h_written h_undisturbed).releaseLock h_lock, trivial⟩
  · cases raises with
    | true =>
      cases h_step
      exact ⟨h_released, trivial⟩
    | false =>
      cases h_step
      exact ⟨h_refl, fun _ => h_lock, h_knows⟩
  · obtain ⟨h_quotas, h_serves⟩ := h_knows
    cases h_step
    refine ⟨.setCache h_lock (h_coherent.writeBackend h_quotas h_serves) (Nat.le_refl _)
      (fun _ _ => rfl) ?_, fun _ => h_lock, Dict.get_set_self _ _ _,
      ⟨h_serves.built, h_serves.modelFamily, h_serves.bucketIds, h_serves.isOpen⟩⟩
    intro modelFamily snapshot h_snapshot
    have h_ne : modelFamily ≠ call.cfg.modelFamily := by
      rintro rfl
      rw [show s.cache.modelFamilyToQuotas.get call.cfg.modelFamily = some snapshot
        from h_snapshot] at h_quotas
      cases h_quotas
    exact ⟨h_snapshot, Dict.get_set_of_ne h_ne⟩
  · obtain ⟨h_backend, h_serves⟩ := h_knows
    cases h_step
    have h_written := h_coherent.writeQuotas h_backend h_serves.bucketIds h_serves.isOpen
    exact ⟨(Rely.writeQuotas h_lock h_written h_safe).releaseLock h_lock, h_serves.built,
      h_serves.bucketIds, h_serves.isOpen⟩

/-- A step of a lookup keeps the tables coherent and what the others know of them. -/
theorem lookupStep_leaves {pc : LookupPc} {result : LookupResult} (h_coherent : s.cache.Coherent)
    (h_lock : pc.locked = true → s.lock = some tid) (h_knows : s.cache.Knows call.cfg pc)
    (h_safe : s.writesSafely call pc = true)
    (h_step : s.lookupStep tid call raises pc = some (s', result)) :
    s.Rely tid s' ∧ s'.Leaves tid call.cfg result := by
  match pc with
  | .readBackend => exact readBackend_leaves h_coherent h_step
  | .readQuotas backend => exact readQuotas_leaves h_coherent h_knows h_step
  | .takeLock =>
    dsimp only [lookupStep] at h_step
    split at h_step
    · rename_i h_free
      cases h_step
      exact ⟨.takeLock h_coherent h_free, fun _ => rfl, trivial⟩
    · cases h_step
  | .rereadBackend =>
    exact lockedRead_leaves h_coherent (h_lock rfl) h_knows (.inl rfl) h_step
  | .readOldSnapshot =>
    exact lockedRead_leaves h_coherent (h_lock rfl) h_knows (.inr (.inl rfl)) h_step
  | .readOldBackend snapshot =>
    exact lockedRead_leaves h_coherent (h_lock rfl) h_knows (.inr (.inr ⟨snapshot, rfl⟩)) h_step
  | .warn r => exact rebuild_leaves h_coherent (h_lock rfl) h_knows (.inl rfl) h_step
  | .invalidate r => exact rebuild_leaves h_coherent (h_lock rfl) h_knows (.inr (.inl rfl)) h_step
  | .rebuild r =>
    exact rebuild_leaves h_coherent (h_lock rfl) h_knows (.inr (.inr (.inl rfl))) h_step
  | .prepare r backend =>
    exact rebuild_leaves h_coherent (h_lock rfl) h_knows
      (.inr (.inr (.inr ⟨backend, .inl rfl⟩))) h_step
  | .closeOld r backend =>
    exact rebuild_leaves h_coherent (h_lock rfl) h_knows
      (.inr (.inr (.inr ⟨backend, .inr (.inl rfl)⟩))) h_step
  | .restore r backend =>
    exact rebuild_leaves h_coherent (h_lock rfl) h_knows
      (.inr (.inr (.inr ⟨backend, .inr (.inr rfl)⟩))) h_step
  | .build => exact install_leaves h_coherent (h_lock rfl) h_knows h_safe (.inl rfl) h_step
  | .reinstall r =>
    exact install_leaves h_coherent (h_lock rfl) h_knows h_safe (.inr (.inl ⟨r, rfl⟩)) h_step
  | .applyLimits backend =>
    exact install_leaves h_coherent (h_lock rfl) h_knows h_safe
      (.inr (.inr ⟨backend, .inl rfl⟩)) h_step
  | .writeBackend backend =>
    exact install_leaves h_coherent (h_lock rfl) h_knows h_safe
      (.inr (.inr ⟨backend, .inr (.inl rfl)⟩)) h_step
  | .writeQuotas backend =>
    exact install_leaves h_coherent (h_lock rfl) h_knows h_safe
      (.inr (.inr ⟨backend, .inr (.inr rfl)⟩)) h_step

/-! ## Runs -/

/-- What a thread knows where it stands. -/
def Stands (s : LookupLimiter) (tid : ThreadId) (call : LookupCall) : LookupCallPc → Prop
  | .lookup pc => (pc.locked = true → s.lock = some tid) ∧ s.cache.Knows call.cfg pc
  | _ => True

structure Inv (s : LookupLimiter) : Prop where
  coherent : s.cache.Coherent
  threads : ∀ tid t, s.threads.get tid = some t → s.Stands tid t.call t.pc
  returned : ∀ returned ∈ s.returned, returned.Current s.cache

theorem inv_init : init.Inv := ⟨BackendCache.coherent_empty, nofun, nofun⟩

theorem Rely.record {result : LookupResult} (h_rely : s.Rely tid s')
    (h_leaves : s'.Leaves tid call.cfg result) : s.Rely tid (s'.record call.cfg result) := by
  cases result with
  | running pc => exact h_rely
  | raises => exact h_rely
  | returns backend closedBefore =>
    refine { h_rely with returned := fun returned h_mem => ?_ }
    obtain rfl | h_mem := List.mem_cons.mp h_mem
    · exact .inr h_leaves
    · exact h_rely.returned returned h_mem

/-- A change of the pending table. -/
theorem Rely.setPending (h_coherent : s.cache.Coherent) (pending : Finset ReservationId)
    (family : Dict ReservationId ModelFamily) :
    s.Rely tid { s with
      pendingAcquireReservations := pending
      inFlightReservationFamily := family } :=
  { Rely.refl h_coherent with }

theorem callStep_stands {pc : LookupCallPc} {next : Option LookupCallPc}
    (h_coherent : s.cache.Coherent) (h_stands : s.Stands tid call pc)
    (h_safe : ∀ lookup, pc = .lookup lookup → s.writesSafely call lookup = true)
    (h_step : s.callStep tid call raises pc = some (s', next)) :
    s.Rely tid s' ∧ ∀ pc', next = some pc' → s'.Stands tid call pc' := by
  have h_refl : s.Rely tid s := .refl h_coherent
  cases pc with
  | begin =>
    dsimp only [callStep] at h_step
    split at h_step
    · split at h_step
      · cases h_step
        exact ⟨h_refl, nofun⟩
      · cases h_step
        refine ⟨.setPending h_coherent _ _, fun pc' h_next => ?_⟩
        cases h_next
        trivial
    · cases h_step
  | validate =>
    dsimp only [callStep] at h_step
    split at h_step
    · cases h_step
      refine ⟨h_refl, fun pc' h_next => ?_⟩
      cases h_next
      trivial
    · cases h_step
      refine ⟨h_refl, fun pc' h_next => ?_⟩
      cases h_next
      exact ⟨nofun, trivial⟩
  | lookup pc =>
    dsimp only [callStep] at h_step
    split at h_step
    · rename_i s₁ result h_lookup
      cases h_step
      obtain ⟨h_rely, h_leaves⟩ :=
        lookupStep_leaves h_coherent h_stands.1 h_stands.2 (h_safe pc rfl) h_lookup
      refine ⟨h_rely.record h_leaves, fun pc' h_next => ?_⟩
      cases result with
      | running pc =>
        cases h_next
        exact h_leaves
      | returns backend closedBefore =>
        obtain ⟨_, _, rfl⟩ := Option.map_eq_some_iff.mp h_next
        trivial
      | raises =>
        obtain ⟨_, _, rfl⟩ := Option.map_eq_some_iff.mp h_next
        trivial
    · cases h_step
  | inBackend backend =>
    cases h_step
    refine ⟨h_refl, fun pc' h_next => ?_⟩
    cases raises <;> cases h_next <;> trivial
  | rollback =>
    dsimp only [callStep] at h_step
    split at h_step
    · cases h_step
      exact ⟨.setPending h_coherent _ _, nofun⟩
    · cases h_step
  | finalize =>
    dsimp only [callStep] at h_step
    split at h_step
    · cases h_step
      exact ⟨.setPending h_coherent _ _, nofun⟩
    · cases h_step

/-- What another thread knows survives a step of thread `tid`. -/
theorem Rely.stands {tid' : ThreadId} {t : LookupThread} (h_rely : s.Rely tid s')
    (h_ne : tid' ≠ tid) (h_thread : s.threads.get tid' = some t)
    (h_stands : s.Stands tid' t.call t.pc) : s'.Stands tid' t.call t.pc := by
  obtain ⟨call, pc⟩ := t
  cases pc with
  | lookup pc =>
    obtain ⟨h_lock, h_knows⟩ := h_stands
    refine ⟨fun h_locked => h_rely.lock tid' h_ne (h_lock h_locked), ?_⟩
    cases h_locked : pc.locked with
    | true =>
      have h_other := h_lock h_locked
      have h_same : s'.cache = s.cache := by
        refine h_rely.quiet.resolve_right fun h_own => ?_
        rw [h_other] at h_own
        exact h_ne (Option.some.inj h_own)
      rw [h_same]
      exact h_knows
    | false =>
      match pc with
      | .readQuotas backend => exact h_rely.awaits tid' _ backend h_thread rfl h_knows
      | .readBackend => trivial
      | .takeLock => trivial
  | _ => trivial

/-- A thread takes a step and goes on, or starts. -/
theorem Inv.goOn {next : Option LookupCallPc} (h_inv : s.Inv) (h_rely : s.Rely tid s')
    (h_next : ∀ pc', next = some pc' → s'.Stands tid call pc') : (s'.goOn tid call next).Inv := by
  have h_returned : ∀ returned ∈ s'.returned, returned.Current s'.cache := by
    intro returned h_mem
    obtain h_old | h_new := h_rely.returned returned h_mem
    · obtain ⟨h_built, h_ids, h_open⟩ := h_inv.returned returned h_old
      refine ⟨h_built.trans_le h_rely.built, ?_, h_open⟩
      rw [h_rely.object _ h_built]
      exact h_ids
    · exact h_new
  have h_others : ∀ tid' t, tid' ≠ tid → s'.threads.get tid' = some t →
      s'.Stands tid' t.call t.pc := by
    intro tid' t h_ne h_thread
    rw [h_rely.threads] at h_thread
    exact h_rely.stands h_ne h_thread (h_inv.threads tid' t h_thread)
  have h_same : ∀ {threads : Dict ThreadId LookupThread} {tid' call pc},
      s'.Stands tid' call pc → ({ s' with threads := threads } : LookupLimiter).Stands tid' call pc := by
    intro threads tid' call pc h_stands
    cases pc <;> exact h_stands
  cases next with
  | none =>
    refine ⟨h_rely.coherent, fun tid' t h_thread => ?_, h_returned⟩
    obtain ⟨h_ne, h_thread⟩ := Dict.get_pop_cases h_thread
    exact h_same (h_others tid' t h_ne h_thread)
  | some pc =>
    refine ⟨h_rely.coherent, fun tid' t h_thread => ?_, h_returned⟩
    obtain ⟨rfl, rfl⟩ | ⟨h_ne, h_thread⟩ := Dict.get_set_cases h_thread
    · exact h_same (h_next pc rfl)
    · exact h_same (h_others tid' t h_ne h_thread)

/-- `writesSafely` of the step that a label stands for. -/
def installsSafely (s : LookupLimiter) : LookupLabel → Bool
  | .thread tid _ =>
    match s.threads.get tid with
    | some ⟨call, .lookup pc⟩ => s.writesSafely call pc
    | _ => true
  | _ => true

theorem step_inv {label : LookupLabel} (h_inv : s.Inv)
    (h_step : Steps (guard step installsSafely) s label s') : s'.Inv := by
  obtain ⟨h_safe, h_step⟩ := steps_guard_iff.mp h_step
  have h_refl : ∀ tid, s.Rely tid s := fun _ => .refl h_inv.coherent
  unfold Steps at h_step
  cases label with
  | acquire tid rid cfg =>
    dsimp only [step] at h_step
    split at h_step
    · cases h_step
      refine h_inv.goOn (h_refl tid) fun pc' h_next => ?_
      cases h_next
      trivial
    · cases h_step
  | refresh tid cfg =>
    dsimp only [step] at h_step
    split at h_step
    · cases h_step
      refine h_inv.goOn (h_refl tid) fun pc' h_next => ?_
      cases h_next
      exact ⟨nofun, trivial⟩
    · cases h_step
  | thread tid raises =>
    dsimp only [step] at h_step
    split at h_step
    · rename_i t h_thread
      split at h_step
      · rename_i s₁ next h_call
        cases h_step
        have h_lookup : ∀ lookup, t.pc = .lookup lookup →
            s.writesSafely t.call lookup = true := by
          intro lookup h_pc
          obtain ⟨call, pc⟩ := t
          cases h_pc
          dsimp only [installsSafely] at h_safe
          rw [h_thread] at h_safe
          exact h_safe
        obtain ⟨h_rely, h_next⟩ :=
          callStep_stands h_inv.coherent (h_inv.threads tid t h_thread) h_lookup h_call
        exact h_inv.goOn h_rely h_next
      · cases h_step
    · cases h_step

/-- Whatever the interleaving of acquires and refreshes, a backend returned for a
    configuration has its bucket ids and had not been closed when the quotas were written
    that let it be returned, as long as quotas are written only while no call for them is
    between its two reads with a replaced backend, and a rebuild that fails has not closed
    the backend whose quotas it puts back. -/
theorem returned_current {labels : List LookupLabel}
    (h_run : Run (Steps (guard step installsSafely)) init labels s) :
    ∀ returned ∈ s.returned,
      (s.cache.object returned.backend).bucketIds = returned.cfg.quotas.keys ∧
        returned.backend ∉ returned.closedBefore := by
  have h_inv : s.Inv := h_run.invariant (fun _ _ _ => step_inv) inv_init
  intro returned h_mem
  obtain ⟨_, h_ids, h_open⟩ := h_inv.returned returned h_mem
  exact ⟨h_ids, h_open⟩

/-! ### Two runs -/

/-- One bucket, and a configuration that adds another. -/
def oneBucket : PerModelConfig := ⟨"family", .single tokensPerMinute oneHundred⟩

def tokensPerDay : BucketId := ⟨"tokens", 86400, by decide⟩

def twoBuckets : PerModelConfig :=
  ⟨"family", (Dict.single tokensPerMinute oneHundred).set tokensPerDay oneHundred⟩

def steps (tid : ThreadId) (n : ℕ) : List LookupLabel := List.replicate n (.thread tid false)

/-- An acquire from its start to its end, on the first backend of the family. -/
def firstAcquire : List LookupLabel := .acquire 0 "a" oneBucket :: steps 0 10

/-- A rebuild, and an acquire on the new backend after it. -/
def rebuildThenAcquire : List LookupLabel :=
  firstAcquire ++ .acquire 1 "b" twoBuckets :: steps 1 18 ++
    .acquire 2 "c" twoBuckets :: steps 2 4

theorem returned_current_rebuildThenAcquire :
    ∃ s, Run (Steps (guard step installsSafely)) init rebuildThenAcquire s ∧
      s.returned.map ReturnedBackend.backend = [1, 1, 0] ∧
      ∀ returned ∈ s.returned,
        (s.cache.object returned.backend).bucketIds = returned.cfg.quotas.keys ∧
          returned.backend ∉ returned.closedBefore := by
  obtain ⟨s, h_run, h_returned⟩ : ∃ s,
      Run (Steps (guard step installsSafely)) init rebuildThenAcquire s ∧
        s.returned.map ReturnedBackend.backend = [1, 1, 0] :=
    exists_run_of_exec (by decide +kernel)
  exact ⟨s, h_run, h_returned, returned_current h_run⟩

/-- The acquire under `c` begins during the rebuild, after its check of the pending
    acquires: it reads the old backend, and the quotas once they are the new ones. -/
def acquireDuringRebuild : List LookupLabel :=
  firstAcquire ++ .acquire 1 "b" twoBuckets :: steps 1 14 ++
    .acquire 2 "c" twoBuckets :: steps 2 3 ++ steps 1 2 ++ steps 2 1

theorem returned_closed_acquireDuringRebuild :
    ∃ s, Run (Steps step) init acquireDuringRebuild s ∧
      ∃ returned ∈ s.returned, returned.backend ∈ returned.closedBefore ∧
        (s.cache.object returned.backend).bucketIds ≠ returned.cfg.quotas.keys := by
  obtain ⟨s, h_run, h_returned⟩ : ∃ s, Run (Steps step) init acquireDuringRebuild s ∧
      (s.returned.head?.any fun returned => returned.backend ∈ returned.closedBefore ∧
        (s.cache.object returned.backend).bucketIds ≠ returned.cfg.quotas.keys) = true :=
    exists_run_of_exec (by decide +kernel)
  obtain ⟨returned, h_head, h_stale⟩ := (Option.any_eq_true _ _).mp h_returned
  exact ⟨s, h_run, returned, List.mem_of_head? h_head, of_decide_eq_true h_stale⟩

end LookupLimiter

end TokenThrottle
