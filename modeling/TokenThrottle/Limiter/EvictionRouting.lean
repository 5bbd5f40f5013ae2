/-
  TokenThrottle.Limiter.EvictionRouting

  From the start of its backend consumption until its refund is committed, a
  reservation's family keeps the backend object it was consumed on, as long as
  `clear_unused_model_families` pops the backend of no family that has a
  reservation in the family table.

  * `RoutingView` is what the argument looks at; every step changes one part of it.
  * `Rely` is what a step of one thread leaves to the others, `Stands` what each
    thread knows at its program counter.
-/
import TokenThrottle.Limiter.Eviction

namespace TokenThrottle

open Theory (Dict Run Steps guard steps_guard_iff exists_run_of_exec)

/-! ## What the argument looks at -/

structure RoutingView where
  backend : Dict ModelFamily BackendId
  quotas : Dict ModelFamily QuotasSnapshot
  family : Dict ReservationId ModelFamily
  lock : Option ThreadId
  threads : Dict ThreadId ThreadPc
  issuedFor : Dict ReservationId ModelName
  consumedOn : Dict ReservationId (ModelFamily × BackendId)
  released : Finset ReservationId

def FamilyLimiter.view (s : FamilyLimiter) : RoutingView where
  backend := s.modelFamilyToBackend
  quotas := s.modelFamilyToQuotas
  family := s.inFlightReservationFamily
  lock := s.lock
  threads := s.threads
  issuedFor := s.issuedFor
  consumedOn := s.consumedOn
  released := s.released

/-! ## Program counters -/

namespace GetBackendPc

/-- The thread holds `_lock`. -/
def locked : GetBackendPc → Bool
  | .rereadBackend | .readOldSnapshot | .readCached | .reconfigure | .build
  | .writeBackend _ | .writeQuotas _ => true
  | .readBackend | .readQuotas _ | .takeLock => false

/-- The thread is about to install a backend it found missing. -/
def installs : GetBackendPc → Bool
  | .build | .writeBackend _ => true
  | _ => false

/-- The backend the call will return, once it is in the cache. -/
def inHand : GetBackendPc → Option BackendId
  | .readQuotas backend | .writeQuotas backend => some backend
  | _ => none

theorem locked_of_installs {pc : GetBackendPc} (h_installs : pc.installs = true) :
    pc.locked = true := by
  cases pc <;> first | rfl | cases h_installs

end GetBackendPc

namespace AcquirePc

/-- The reservation has a slot and its consumption has not started. -/
def pending : AcquirePc → Bool
  | .readSignature | .touch | .validate | .getBackend _ | .callBackend _ => true
  | _ => false

/-- The consumption has not started. -/
def fresh : AcquirePc → Bool
  | .begin => true
  | pc => pc.pending

def inHand : AcquirePc → Option BackendId
  | .getBackend pc => pc.inHand
  | .callBackend backend => some backend
  | _ => none

theorem fresh_of_pending {pc : AcquirePc} (h_pending : pc.pending = true) : pc.fresh = true := by
  cases pc <;> first | rfl | cases h_pending

theorem pending_of_inHand {pc : AcquirePc} {backend : BackendId}
    (h_hand : pc.inHand = some backend) : pc.pending = true := by
  cases pc <;> first | rfl | cases h_hand

end AcquirePc

/-- The backend a refund has read from the cache. -/
def RefundPc.inHand : RefundPc → Option BackendId
  | .readInFlight backend | .inBackend backend => some backend
  | _ => none

def ThreadPc.rid : ThreadPc → Option ReservationId
  | .acquire rid _ _ _ | .refund rid _ _ _ => some rid
  | .evict _ | .done => none

/-! ## What each thread knows -/

namespace RoutingView

/-- No other thread works on the reservation, and nothing has been consumed for it. -/
structure Unused (v : RoutingView) (tid : ThreadId) (rid : ReservationId) : Prop where
  consumed : v.consumedOn.get rid = none
  held : rid ∉ v.released
  sole : ∀ tid' pc, tid' ≠ tid → v.threads.get tid' = some pc → pc.rid ≠ some rid

structure Getting (v : RoutingView) (tid : ThreadId) (modelFamily : ModelFamily)
    (pc : GetBackendPc) : Prop where
  lock : pc.locked = true → v.lock = some tid
  missing : pc.installs = true → v.backend.get modelFamily = none
  unchanged : pc ≠ .reconfigure

structure Acquiring (cfg : FamilyConfigs) (v : RoutingView) (tid : ThreadId)
    (rid : ReservationId) (model : ModelName) (pc : AcquirePc) : Prop where
  issued : pc ≠ .endDelivery → v.issuedFor.get rid = some model
  unused : pc.fresh = true → v.Unused tid rid
  entry : pc.pending = true → v.family.get rid = some (cfg.familyOf model)
  getting : ∀ g, pc = .getBackend g → v.Getting tid (cfg.familyOf model) g
  cached : ∀ backend, pc.inHand = some backend →
    v.backend.get (cfg.familyOf model) = some backend

structure Refunding (cfg : FamilyConfigs) (v : RoutingView) (tid : ThreadId)
    (rid : ReservationId) (model : ModelName) (pc : RefundPc) : Prop where
  getting : ∀ g, pc = .refresh g → v.Getting tid (cfg.familyOf model) g
  /-- The backend in hand is the one the reservation was consumed on. -/
  reaches : ∀ backend consumedOn, pc.inHand = some backend →
    v.consumedOn.get rid = some (cfg.familyOf model, consumedOn) → rid ∉ v.released →
      backend = consumedOn

/-- What a thread knows at its program counter. -/
def Stands (cfg : FamilyConfigs) (v : RoutingView) (tid : ThreadId) : ThreadPc → Prop
  | .acquire rid model _ pc => v.Acquiring cfg tid rid model pc
  | .refund rid model _ pc => v.Refunding cfg tid rid model pc
  | .evict _ | .done => True

/-- A held reservation has its family entry and its family the backend it was consumed
    on. -/
structure Routes (cfg : FamilyConfigs) (v : RoutingView) : Prop where
  held : ∀ rid modelFamily backend, v.consumedOn.get rid = some (modelFamily, backend) →
    rid ∉ v.released →
      v.family.get rid = some modelFamily ∧ v.backend.get modelFamily = some backend
  issued : ∀ rid modelFamily backend, v.consumedOn.get rid = some (modelFamily, backend) →
    ∃ model, v.issuedFor.get rid = some model ∧ modelFamily = cfg.familyOf model
  quotas : ∀ modelFamily snapshot, v.quotas.get modelFamily = some snapshot →
    snapshot = cfg.quotasOf modelFamily

/-! ## What a step leaves to the other threads -/

/-- A step of thread `tid`, which works on the reservation `own`. -/
structure Rely (v : RoutingView) (tid : ThreadId) (own : Option ReservationId)
    (v' : RoutingView) : Prop where
  lock : ∀ tid', tid' ≠ tid → v.lock = some tid' → v'.lock = some tid'
  missing : ∀ modelFamily, v.backend.get modelFamily = none →
    v'.backend.get modelFamily = none ∨ v.lock = some tid
  cached : ∀ modelFamily backend rid, v.backend.get modelFamily = some backend →
    v.family.get rid = some modelFamily → v'.backend.get modelFamily = some backend
  others : ∀ rid, own ≠ some rid → v'.family.get rid = v.family.get rid ∧
    v'.consumedOn.get rid = v.consumedOn.get rid ∧ (rid ∈ v'.released ↔ rid ∈ v.released)
  consumed : ∀ rid, v'.consumedOn.get rid = v.consumedOn.get rid ∨ v.Unused tid rid
  released : v.released ⊆ v'.released
  issued : v'.issuedFor = v.issuedFor
  threads : v'.threads = v.threads

/-- A step that leaves the routes as they should be. -/
structure Keeps (cfg : FamilyConfigs) (v : RoutingView) (tid : ThreadId)
    (own : Option ReservationId) (v' : RoutingView) : Prop where
  rely : v.Rely tid own v'
  routes : v'.Routes cfg

variable {cfg : FamilyConfigs} {v v' : RoutingView} {tid tid' : ThreadId}
  {rid : ReservationId} {own : Option ReservationId} {model : ModelName}
  {modelFamily : ModelFamily} {backend : BackendId}

/-! ### The steps, one part of the view at a time -/

theorem Rely.refl (own : Option ReservationId) : v.Rely tid own v where
  lock _ _ h_lock := h_lock
  missing _ h_missing := .inl h_missing
  cached _ _ _ h_cached _ := h_cached
  others _ _ := ⟨rfl, rfl, .rfl⟩
  consumed _ := .inl rfl
  released := Finset.Subset.refl _
  issued := rfl
  threads := rfl

/-- A step on no reservation may be taken as one on any. -/
theorem Keeps.weaken (h_keeps : v.Keeps cfg tid none v') : v.Keeps cfg tid own v' :=
  ⟨{ h_keeps.rely with others := fun rid _ => h_keeps.rely.others rid nofun }, h_keeps.routes⟩

theorem Unused.onward (h_rely : v.Rely tid none v') (h_unused : v.Unused tid rid) :
    v'.Unused tid rid := by
  obtain ⟨_, h_consumed, h_released⟩ := h_rely.others rid nofun
  refine ⟨?_, ?_, ?_⟩
  · rw [h_consumed]
    exact h_unused.consumed
  · rw [h_released]
    exact h_unused.held
  · intro tid' pc h_ne h_get
    rw [h_rely.threads] at h_get
    exact h_unused.sole tid' pc h_ne h_get

theorem Keeps.quiet (h_routes : v.Routes cfg) (h_view : v' = v) : v.Keeps cfg tid own v' := by
  subst h_view
  exact ⟨.refl own, h_routes⟩

theorem Keeps.takeLock (h_routes : v.Routes cfg) (h_free : v.lock = none)
    (h_view : v' = { v with lock := some tid }) : v.Keeps cfg tid own v' := by
  subst h_view
  refine ⟨{ Rely.refl own with lock := ?_ }, ⟨h_routes.held, h_routes.issued, h_routes.quotas⟩⟩
  intro tid' _ h_lock
  rw [h_free] at h_lock
  cases h_lock

theorem Keeps.releaseLock (h_routes : v.Routes cfg) (h_lock : v.lock = some tid)
    (h_view : v' = { v with lock := none }) : v.Keeps cfg tid own v' := by
  subst h_view
  refine ⟨{ Rely.refl own with lock := ?_ }, ⟨h_routes.held, h_routes.issued, h_routes.quotas⟩⟩
  intro tid' h_ne h_other
  rw [h_lock] at h_other
  exact absurd (Option.some.inj h_other).symm h_ne

/-- The quotas of an installed backend are recorded and `_lock` is released. -/
theorem Keeps.recordQuotas (h_routes : v.Routes cfg) (h_lock : v.lock = some tid)
    (h_view : v' = { v with
      quotas := v.quotas.set modelFamily (cfg.quotasOf modelFamily), lock := none }) :
    v.Keeps cfg tid own v' := by
  have h_released : v.Keeps cfg tid own { v with lock := none } :=
    Keeps.releaseLock h_routes h_lock rfl
  subst h_view
  refine ⟨{ h_released.rely with }, ⟨h_routes.held, h_routes.issued, ?_⟩⟩
  intro family snapshot h_get
  rcases Dict.get_set_cases h_get with ⟨rfl, rfl⟩ | ⟨_, h_old⟩
  · rfl
  · exact h_routes.quotas family snapshot h_old

theorem Keeps.popQuotas (h_routes : v.Routes cfg)
    (h_view : v' = { v with quotas := v.quotas.pop modelFamily }) :
    v.Keeps cfg tid own v' := by
  subst h_view
  refine ⟨{ Rely.refl own with }, ⟨h_routes.held, h_routes.issued, ?_⟩⟩
  intro family snapshot h_get
  exact h_routes.quotas family snapshot (Dict.get_pop_cases h_get).2

/-- The holder of `_lock` installs a backend for a family that has none. -/
theorem Keeps.install (h_routes : v.Routes cfg) (h_lock : v.lock = some tid)
    (h_missing : v.backend.get modelFamily = none)
    (h_view : v' = { v with backend := v.backend.set modelFamily backend }) :
    v.Keeps cfg tid own v' := by
  subst h_view
  have h_kept : ∀ family b, v.backend.get family = some b →
      (v.backend.set modelFamily backend).get family = some b := by
    intro family b h_cached
    have h_ne : family ≠ modelFamily := by
      rintro rfl
      rw [h_missing] at h_cached
      cases h_cached
    rw [Dict.get_set_of_ne h_ne]
    exact h_cached
  refine ⟨{ Rely.refl own with missing := ?_, cached := ?_ }, ⟨?_, h_routes.issued, h_routes.quotas⟩⟩
  · intro _ _
    exact .inr h_lock
  · intro family b _ h_cached _
    exact h_kept family b h_cached
  · intro rid family b h_consumed h_held
    obtain ⟨h_entry, h_cached⟩ := h_routes.held rid family b h_consumed h_held
    exact ⟨h_entry, h_kept family b h_cached⟩

/-- An eviction pops the backend of a family without reservations. -/
theorem Keeps.evict (h_routes : v.Routes cfg)
    (h_idle : ∀ rid, v.family.get rid ≠ some modelFamily)
    (h_view : v' = { v with backend := v.backend.pop modelFamily }) :
    v.Keeps cfg tid own v' := by
  subst h_view
  have h_kept : ∀ family b rid, v.backend.get family = some b →
      v.family.get rid = some family → (v.backend.pop modelFamily).get family = some b := by
    intro family b rid h_cached h_entry
    have h_ne : family ≠ modelFamily := by
      rintro rfl
      exact h_idle rid h_entry
    rw [Dict.get_pop_of_ne h_ne]
    exact h_cached
  refine ⟨{ Rely.refl own with missing := ?_, cached := h_kept },
    ⟨?_, h_routes.issued, h_routes.quotas⟩⟩
  · intro family h_none
    left
    show (v.backend.pop modelFamily).get family = none
    rw [Dict.get_pop, h_none]
    exact ite_self none
  · intro rid family b h_consumed h_held
    obtain ⟨h_entry, h_cached⟩ := h_routes.held rid family b h_consumed h_held
    exact ⟨h_entry, h_kept family b rid h_cached h_entry⟩

/-- The thread writes the family of its own reservation. -/
theorem Keeps.enter (h_routes : v.Routes cfg) (h_issued : v.issuedFor.get rid = some model)
    (h_view : v' = { v with family := v.family.set rid (cfg.familyOf model) }) :
    v.Keeps cfg tid (some rid) v' := by
  subst h_view
  refine ⟨{ Rely.refl (some rid) with cached := ?_, others := ?_ },
    ⟨?_, h_routes.issued, h_routes.quotas⟩⟩
  · intro family b _ h_cached _
    exact h_cached
  · intro rid' h_ne
    have h_ne : rid' ≠ rid := fun h_eq => h_ne (by rw [h_eq])
    exact ⟨Dict.get_set_of_ne h_ne, rfl, .rfl⟩
  · intro rid' family b h_consumed h_held
    obtain ⟨h_entry, h_cached⟩ := h_routes.held rid' family b h_consumed h_held
    refine ⟨?_, h_cached⟩
    show (v.family.set rid _).get rid' = some family
    rw [Dict.get_set]
    by_cases h_eq : rid' = rid
    · subst h_eq
      obtain ⟨model', h_for, rfl⟩ := h_routes.issued rid' family b h_consumed
      rw [h_issued] at h_for
      rw [if_pos rfl, Option.some.inj h_for]
    · rw [if_neg h_eq]
      exact h_entry

/-- The thread's own reservation leaves the family table. -/
theorem Keeps.release (h_routes : v.Routes cfg)
    (h_view : v' = { v with
      family := v.family.pop rid, released := insert rid v.released }) :
    v.Keeps cfg tid (some rid) v' := by
  subst h_view
  refine ⟨{ Rely.refl (some rid) with others := ?_, released := ?_ },
    ⟨?_, h_routes.issued, h_routes.quotas⟩⟩
  · intro rid' h_ne
    have h_ne : rid' ≠ rid := fun h_eq => h_ne (by rw [h_eq])
    refine ⟨Dict.get_pop_of_ne h_ne, rfl, ?_⟩
    show rid' ∈ insert rid v.released ↔ rid' ∈ v.released
    rw [Finset.mem_insert]
    exact ⟨fun h_mem => h_mem.resolve_left h_ne, .inr⟩
  · exact Finset.subset_insert rid v.released
  · intro rid' family b h_consumed h_held
    have h_held : rid' ∉ insert rid v.released := h_held
    rw [Finset.mem_insert, not_or] at h_held
    obtain ⟨h_entry, h_cached⟩ := h_routes.held rid' family b h_consumed h_held.2
    refine ⟨?_, h_cached⟩
    show (v.family.pop rid).get rid' = some family
    rw [Dict.get_pop_of_ne h_held.1]
    exact h_entry

/-- The consumption of the thread's reservation starts on the cached backend. -/
theorem Keeps.consume (h_routes : v.Routes cfg) (h_unused : v.Unused tid rid)
    (h_issued : v.issuedFor.get rid = some model)
    (h_entry : v.family.get rid = some (cfg.familyOf model))
    (h_cached : v.backend.get (cfg.familyOf model) = some backend)
    (h_view : v' = { v with
      consumedOn := v.consumedOn.set rid (cfg.familyOf model, backend) }) :
    v.Keeps cfg tid (some rid) v' := by
  subst h_view
  refine ⟨{ Rely.refl (some rid) with others := ?_, consumed := ?_ }, ⟨?_, ?_, h_routes.quotas⟩⟩
  · intro rid' h_ne
    have h_ne : rid' ≠ rid := fun h_eq => h_ne (by rw [h_eq])
    exact ⟨rfl, Dict.get_set_of_ne h_ne, .rfl⟩
  · intro rid'
    by_cases h_eq : rid' = rid
    · subst h_eq
      exact .inr h_unused
    · exact .inl (Dict.get_set_of_ne h_eq)
  · intro rid' family b h_consumed h_held
    rcases Dict.get_set_cases h_consumed with ⟨rfl, h_pair⟩ | ⟨_, h_old⟩
    · cases h_pair
      exact ⟨h_entry, h_cached⟩
    · exact h_routes.held rid' family b h_old h_held
  · intro rid' family b h_consumed
    rcases Dict.get_set_cases h_consumed with ⟨rfl, h_pair⟩ | ⟨_, h_old⟩
    · cases h_pair
      exact ⟨model, h_issued, rfl⟩
    · exact h_routes.issued rid' family b h_old

/-! ### The threads that do not move -/

theorem Unused.other {pc pc' : ThreadPc} (h_rely : v.Rely tid own v')
    (h_ne : tid' ≠ tid) (h_thread : v.threads.get tid = some pc) (h_own : pc.rid = own)
    (h_rid : pc'.rid = own ∨ pc'.rid = none) (h_unused : v.Unused tid' rid) :
    ({ v' with threads := v'.threads.set tid pc' } : RoutingView).Unused tid' rid := by
  have h_not_own : own ≠ some rid := by
    rw [← h_own]
    exact h_unused.sole tid pc h_ne.symm h_thread
  obtain ⟨_, h_consumed, h_released⟩ := h_rely.others rid h_not_own
  refine ⟨?_, ?_, ?_⟩
  · show v'.consumedOn.get rid = none
    rw [h_consumed]
    exact h_unused.consumed
  · show rid ∉ v'.released
    rw [h_released]
    exact h_unused.held
  · intro tid'' pc'' h_ne'' h_get
    rcases Dict.get_set_cases h_get with ⟨rfl, rfl⟩ | ⟨_, h_old⟩
    · rcases h_rid with h_rid | h_rid
      · rwa [h_rid]
      · rw [h_rid]
        nofun
    · rw [h_rely.threads] at h_old
      exact h_unused.sole tid'' pc'' h_ne'' h_old

theorem Getting.other {g : GetBackendPc} {threads : Dict ThreadId ThreadPc}
    (h_rely : v.Rely tid own v') (h_ne : tid' ≠ tid)
    (h_getting : v.Getting tid' modelFamily g) :
    ({ v' with threads := threads } : RoutingView).Getting tid' modelFamily g := by
  refine ⟨?_, ?_, h_getting.unchanged⟩
  · intro h_locked
    exact h_rely.lock tid' h_ne (h_getting.lock h_locked)
  · intro h_installs
    -- only the holder of the lock installs a backend
    have h_lock : v.lock = some tid' := h_getting.lock (GetBackendPc.locked_of_installs h_installs)
    rcases h_rely.missing modelFamily (h_getting.missing h_installs) with h_none | h_tid
    · exact h_none
    · rw [h_lock] at h_tid
      exact absurd (Option.some.inj h_tid) h_ne

/-- What a thread knows survives a step of another one. -/
theorem Stands.other {pc pc' pc₀ : ThreadPc} (h_rely : v.Rely tid own v') (h_ne : tid' ≠ tid)
    (h_thread : v.threads.get tid = some pc) (h_own : pc.rid = own)
    (h_rid : pc'.rid = own ∨ pc'.rid = none) (h_thread' : v.threads.get tid' = some pc₀)
    (h_stands : v.Stands cfg tid' pc₀) :
    ({ v' with threads := v'.threads.set tid pc' } : RoutingView).Stands cfg tid' pc₀ := by
  cases pc₀ with
  | acquire rid model block p =>
    have h_stands : v.Acquiring cfg tid' rid model p := h_stands
    have h_others : p.fresh = true → v'.family.get rid = v.family.get rid := by
      intro h_fresh
      have h_not_own : own ≠ some rid := by
        rw [← h_own]
        exact (h_stands.unused h_fresh).sole tid pc h_ne.symm h_thread
      exact (h_rely.others rid h_not_own).1
    refine ⟨?_, ?_, ?_, ?_, ?_⟩
    · intro h_end
      show v'.issuedFor.get rid = some model
      rw [h_rely.issued]
      exact h_stands.issued h_end
    · intro h_fresh
      exact (h_stands.unused h_fresh).other h_rely h_ne h_thread h_own h_rid
    · intro h_pending
      show v'.family.get rid = _
      rw [h_others (AcquirePc.fresh_of_pending h_pending)]
      exact h_stands.entry h_pending
    · intro g h_g
      exact (h_stands.getting g h_g).other h_rely h_ne
    · intro b h_hand
      exact h_rely.cached _ b rid (h_stands.cached b h_hand)
        (h_stands.entry (AcquirePc.pending_of_inHand h_hand))
  | refund rid model undelivered p =>
    have h_stands : v.Refunding cfg tid' rid model p := h_stands
    refine ⟨?_, ?_⟩
    · intro g h_g
      exact (h_stands.getting g h_g).other h_rely h_ne
    · intro b on h_hand h_consumed h_held
      have h_held : rid ∉ v.released := fun h_mem => h_held (h_rely.released h_mem)
      have h_consumed : v'.consumedOn.get rid = _ := h_consumed
      rcases h_rely.consumed rid with h_same | h_unused
      · rw [h_same] at h_consumed
        exact h_stands.reaches b on h_hand h_consumed h_held
      · exact absurd rfl (h_unused.sole tid' _ h_ne h_thread')
  | evict p => trivial
  | done => trivial

/-- What a thread knows does not depend on its own entry in the table of threads. -/
theorem Stands.self {pc : ThreadPc} (h_stands : v.Stands cfg tid pc) :
    ({ v with threads := v.threads.set tid pc } : RoutingView).Stands cfg tid pc := by
  cases pc with
  | acquire rid model block p =>
    have h_stands : v.Acquiring cfg tid rid model p := h_stands
    refine ⟨h_stands.issued, ?_, h_stands.entry, ?_, h_stands.cached⟩
    · intro h_fresh
      have h_unused : v.Unused tid rid := h_stands.unused h_fresh
      refine ⟨h_unused.consumed, h_unused.held, ?_⟩
      intro tid' pc' h_ne h_get
      have h_get : (v.threads.set tid _).get tid' = some pc' := h_get
      rw [Dict.get_set_of_ne h_ne] at h_get
      exact h_unused.sole tid' pc' h_ne h_get
    · intro g h_g
      have h_getting := h_stands.getting g h_g
      exact ⟨h_getting.lock, h_getting.missing, h_getting.unchanged⟩
  | refund rid model undelivered p =>
    have h_stands : v.Refunding cfg tid rid model p := h_stands
    refine ⟨?_, h_stands.reaches⟩
    intro g h_g
    have h_getting := h_stands.getting g h_g
    exact ⟨h_getting.lock, h_getting.missing, h_getting.unchanged⟩
  | evict p => trivial
  | done => trivial

/-! ### The thread that moves -/

theorem Getting.start : v.Getting tid modelFamily .readBackend where
  lock h_locked := by cases h_locked
  missing h_installs := by cases h_installs
  unchanged := by nofun

theorem Getting.start' (g : GetBackendPc)
    (h_eq : AcquirePc.getBackend .readBackend = .getBackend g) :
    v.Getting tid modelFamily g := by
  cases h_eq
  exact .start

/-- Past the start of its consumption an acquire only knows whom its id was issued for. -/
theorem Acquiring.past {pc : AcquirePc} (h_issued : v.issuedFor.get rid = some model)
    (h_fresh : pc.fresh = false) : v.Acquiring cfg tid rid model pc := by
  have h_pending : pc.pending ≠ true := by
    intro h_pending
    rw [AcquirePc.fresh_of_pending h_pending] at h_fresh
    cases h_fresh
  refine ⟨fun _ => h_issued, ?_, ?_, ?_, ?_⟩
  · intro h_true
    rw [h_fresh] at h_true
    cases h_true
  · intro h_true
    exact absurd h_true h_pending
  · rintro g rfl
    exact absurd rfl h_pending
  · intro b h_hand
    exact absurd (AcquirePc.pending_of_inHand h_hand) h_pending

theorem Acquiring.endDelivery : v.Acquiring cfg tid rid model .endDelivery where
  issued h_ne := absurd rfl h_ne
  unused := nofun
  entry := nofun
  getting := nofun
  cached := nofun

/-- A pending acquire moves on without a backend in hand. -/
theorem Acquiring.onward {pc pc' : AcquirePc} (h_acquiring : v.Acquiring cfg tid rid model pc)
    (h_pending : pc.pending = true) (h_end : pc ≠ .endDelivery) (h_hand : pc'.inHand = none)
    (h_getting : ∀ g, pc' = .getBackend g → v.Getting tid (cfg.familyOf model) g) :
    v.Acquiring cfg tid rid model pc' where
  issued _ := h_acquiring.issued h_end
  unused _ := h_acquiring.unused (AcquirePc.fresh_of_pending h_pending)
  entry _ := h_acquiring.entry h_pending
  getting := h_getting
  cached b h_some := by
    rw [h_hand] at h_some
    cases h_some

/-! ### The start of a call -/

/-- A call starts on an id that is new, or that has been consumed already. -/
theorem Stands.start {pc pc₀ : ThreadPc} {issuedFor : Dict ReservationId ModelName}
    (h_extends : ∀ rid model, v.issuedFor.get rid = some model →
      issuedFor.get rid = some model)
    (h_new : ∀ rid, pc.rid = some rid →
      v.issuedFor.get rid = none ∨ v.consumedOn.get rid ≠ none)
    (h_thread : v.threads.get tid' = some pc₀) (h_stands : v.Stands cfg tid' pc₀) :
    ({ v with issuedFor := issuedFor, threads := v.threads.set tid pc } : RoutingView).Stands
      cfg tid' pc₀ := by
  cases pc₀ with
  | acquire rid model block p =>
    have h_stands : v.Acquiring cfg tid' rid model p := h_stands
    refine ⟨?_, ?_, h_stands.entry, ?_, h_stands.cached⟩
    · intro h_end
      exact h_extends rid model (h_stands.issued h_end)
    · intro h_fresh
      have h_unused := h_stands.unused h_fresh
      refine ⟨h_unused.consumed, h_unused.held, ?_⟩
      intro tid'' pc'' h_ne h_get
      rcases Dict.get_set_cases h_get with ⟨rfl, rfl⟩ | ⟨_, h_old⟩
      · intro h_rid
        have h_end : p ≠ .endDelivery := by
          rintro rfl
          cases h_fresh
        rcases h_new rid h_rid with h_none | h_consumed
        · rw [h_stands.issued h_end] at h_none
          cases h_none
        · exact h_consumed h_unused.consumed
      · exact h_unused.sole tid'' pc'' h_ne h_old
    · intro g h_g
      have h_getting := h_stands.getting g h_g
      exact ⟨h_getting.lock, h_getting.missing, h_getting.unchanged⟩
  | refund rid model undelivered p =>
    have h_stands : v.Refunding cfg tid' rid model p := h_stands
    refine ⟨?_, h_stands.reaches⟩
    intro g h_g
    have h_getting := h_stands.getting g h_g
    exact ⟨h_getting.lock, h_getting.missing, h_getting.unchanged⟩
  | evict p => trivial
  | done => trivial

end RoutingView

/-! ## The steps of the limiter -/

namespace FamilyLimiter

variable {cfg : FamilyConfigs} {s s' : FamilyLimiter} {tid : ThreadId} {rid : ReservationId}
  {own : Option ReservationId} {model : ModelName} {modelFamily : ModelFamily}
  {pc' : ThreadPc} {event : ThreadEvent}

/-- What a step of `_get_backend` comes to, when the backend in hand before it was the
    cached one. -/
def GetBackendResult.Ready (v : RoutingView) (tid : ThreadId) (modelFamily : ModelFamily)
    (cached : Prop) : GetBackendResult → Prop
  | .running pc => v.Getting tid modelFamily pc ∧
      (cached → ∀ backend, pc.inHand = some backend →
        v.backend.get modelFamily = some backend)
  | .returns backend => cached → v.backend.get modelFamily = some backend
  | .raises => True

theorem getBackendStep_keeps {pc : GetBackendPc} {buildRaises : Bool} {result : GetBackendResult}
    (h_routes : s.view.Routes cfg) (h_getting : s.view.Getting tid modelFamily pc)
    (h_step : getBackendStep cfg s tid modelFamily buildRaises pc = some (s', result)) :
    s.view.Keeps cfg tid none s'.view ∧
      result.Ready s'.view tid modelFamily (∀ backend, pc.inHand = some backend →
        s.view.backend.get modelFamily = some backend) := by
  have h_same : s.view.Keeps cfg tid none s.view := .quiet h_routes rfl
  cases pc with
  | readBackend =>
    simp only [getBackendStep] at h_step
    cases h_get : s.modelFamilyToBackend.get modelFamily with
    | none =>
      rw [h_get] at h_step
      cases h_step
      exact ⟨h_same, ⟨nofun, nofun, nofun⟩, nofun⟩
    | some b =>
      rw [h_get] at h_step
      cases h_step
      refine ⟨h_same, ⟨nofun, nofun, nofun⟩, fun _ b' h_hand => ?_⟩
      cases h_hand
      exact h_get
  | readQuotas b =>
    simp only [getBackendStep] at h_step
    by_cases h_quotas : s.modelFamilyToQuotas.get modelFamily = some (cfg.quotasOf modelFamily)
    · rw [if_pos h_quotas] at h_step
      cases h_step
      exact ⟨h_same, fun h_cached => h_cached b rfl⟩
    · rw [if_neg h_quotas] at h_step
      cases h_step
      exact ⟨h_same, ⟨nofun, nofun, nofun⟩, nofun⟩
  | takeLock =>
    simp only [getBackendStep] at h_step
    by_cases h_free : s.lock = none
    · rw [if_pos h_free] at h_step
      cases h_step
      exact ⟨.takeLock h_routes h_free rfl, ⟨fun _ => rfl, nofun, nofun⟩, nofun⟩
    · rw [if_neg h_free] at h_step
      cases h_step
  | rereadBackend =>
    have h_lock : s.lock = some tid := h_getting.lock rfl
    simp only [getBackendStep] at h_step
    cases h_get : s.modelFamilyToBackend.get modelFamily with
    | none =>
      rw [h_get] at h_step
      cases h_step
      exact ⟨h_same, ⟨fun _ => h_lock, fun _ => h_get, nofun⟩, nofun⟩
    | some b =>
      rw [h_get] at h_step
      cases h_step
      exact ⟨h_same, ⟨fun _ => h_lock, nofun, nofun⟩, nofun⟩
  | readOldSnapshot =>
    have h_lock : s.lock = some tid := h_getting.lock rfl
    simp only [getBackendStep] at h_step
    cases h_get : s.modelFamilyToQuotas.get modelFamily with
    | none =>
      rw [h_get] at h_step
      cases h_step
      exact ⟨.releaseLock h_routes h_lock rfl, trivial⟩
    | some oldSnapshot =>
      -- with unchanged configurations the snapshots agree
      have h_eq : oldSnapshot = cfg.quotasOf modelFamily := h_routes.quotas _ _ h_get
      rw [h_get] at h_step
      simp only [if_pos h_eq] at h_step
      cases h_step
      exact ⟨h_same, ⟨fun _ => h_lock, nofun, nofun⟩, nofun⟩
  | readCached =>
    have h_lock : s.lock = some tid := h_getting.lock rfl
    simp only [getBackendStep] at h_step
    cases h_get : s.modelFamilyToBackend.get modelFamily with
    | none =>
      rw [h_get] at h_step
      cases h_step
      exact ⟨.releaseLock h_routes h_lock rfl, trivial⟩
    | some b =>
      rw [h_get] at h_step
      cases h_step
      exact ⟨.releaseLock h_routes h_lock rfl, fun _ => h_get⟩
  | reconfigure => cases h_step
  | build =>
    have h_lock : s.lock = some tid := h_getting.lock rfl
    simp only [getBackendStep] at h_step
    cases buildRaises with
    | true =>
      cases h_step
      exact ⟨.releaseLock h_routes h_lock rfl, trivial⟩
    | false =>
      cases h_step
      exact ⟨.quiet h_routes rfl, ⟨fun _ => h_lock, fun _ => h_getting.missing rfl, nofun⟩, nofun⟩
  | writeBackend b =>
    have h_lock : s.lock = some tid := h_getting.lock rfl
    have h_missing := h_getting.missing rfl
    cases h_step
    refine ⟨.install h_routes h_lock h_missing rfl, ⟨fun _ => h_lock, nofun, nofun⟩, ?_⟩
    intro _ b' h_hand
    cases h_hand
    exact Dict.get_set_self _ _ _
  | writeQuotas b =>
    have h_lock : s.lock = some tid := h_getting.lock rfl
    cases h_step
    exact ⟨.recordQuotas h_routes h_lock rfl, fun h_cached => h_cached b rfl⟩

theorem validateShared_view : (s.validateShared cfg model).1.view = s.view := by
  unfold validateShared
  split <;> rfl

/-- A reservation is released where it leaves the family table. -/
theorem forgetStep_keeps (h_routes : s.view.Routes cfg) (stage : ForgetStage) :
    s.view.Keeps cfg tid (some rid) (s.forgetStep rid stage).1.view := by
  cases stage with
  | inFlight | pending | delivery => exact .quiet h_routes rfl
  | family => exact .release h_routes rfl

/-- What a step of a thread comes to. -/
structure Moves (cfg : FamilyConfigs) (s : FamilyLimiter) (tid : ThreadId)
    (own : Option ReservationId) (s' : FamilyLimiter) (pc' : ThreadPc) : Prop where
  keeps : s.view.Keeps cfg tid own s'.view
  stands : s'.view.Stands cfg tid pc'
  rid : pc'.rid = own ∨ pc'.rid = none

/-- The calls of an acquire to `_get_backend`. -/
theorem acquireStep_getBackend {pc : GetBackendPc} {block : Bool}
    (h_routes : s.view.Routes cfg)
    (h_acquiring : s.view.Acquiring cfg tid rid model (.getBackend pc))
    (h_step : acquireStep cfg s tid rid model block (.getBackend pc) event = some (s', pc')) :
    Moves cfg s tid (some rid) s' pc' := by
  have h_issued := h_acquiring.issued nofun
  have h_unused := h_acquiring.unused rfl
  have h_entry := h_acquiring.entry rfl
  simp only [acquireStep] at h_step
  by_cases h_event : event = .proceed ∨ event = .raises
  · rw [if_pos h_event] at h_step
    cases h_get : getBackendStep cfg s tid (cfg.familyOf model) (event = .raises) pc with
    | none =>
      rw [h_get] at h_step
      cases h_step
    | some out =>
      obtain ⟨t, result⟩ := out
      obtain ⟨h_keeps, h_ready⟩ := getBackendStep_keeps h_routes (h_acquiring.getting pc rfl) h_get
      have h_cached := h_acquiring.cached
      have h_issued' : t.view.issuedFor.get rid = some model := by
        rw [h_keeps.rely.issued]
        exact h_issued
      have h_entry' : t.view.family.get rid = some (cfg.familyOf model) := by
        rw [(h_keeps.rely.others rid nofun).1]
        exact h_entry
      rw [h_get] at h_step
      cases result with
      | running g =>
        cases h_step
        refine ⟨h_keeps.weaken, ⟨fun _ => h_issued', fun _ => h_unused.onward h_keeps.rely,
          fun _ => h_entry', ?_, h_ready.2 h_cached⟩, .inl rfl⟩
        rintro g' h_eq
        cases h_eq
        exact h_ready.1
      | returns b =>
        cases h_step
        refine ⟨h_keeps.weaken, ⟨fun _ => h_issued', fun _ => h_unused.onward h_keeps.rely,
          fun _ => h_entry', nofun, ?_⟩, .inl rfl⟩
        intro b' h_hand
        cases h_hand
        exact h_ready h_cached
      | raises =>
        cases h_step
        exact ⟨h_keeps.weaken, .past h_issued' rfl, .inl rfl⟩
  · rw [if_neg h_event] at h_step
    cases h_step

theorem acquireStep_moves {pc : AcquirePc} {block : Bool} (h_routes : s.view.Routes cfg)
    (h_acquiring : s.view.Acquiring cfg tid rid model pc)
    (h_step : acquireStep cfg s tid rid model block pc event = some (s', pc')) :
    Moves cfg s tid (some rid) s' pc' := by
  have h_same : s.view.Keeps cfg tid (some rid) s.view := .quiet h_routes rfl
  cases pc with
  | getBackend g => exact acquireStep_getBackend h_routes h_acquiring h_step
  | endDelivery =>
    cases event <;> cases h_step
    exact ⟨.quiet h_routes rfl, trivial, .inr rfl⟩
  | begin =>
    have h_issued := h_acquiring.issued nofun
    have h_unused := h_acquiring.unused rfl
    obtain rfl : event = .proceed := by
      cases event <;> first | rfl | cases h_step
    simp only [acquireStep, beginPendingAcquire] at h_step
    cases h_accepted : (s.tables.beginPendingAcquire rid).2 with
    | true =>
      simp only [h_accepted, if_true] at h_step
      cases h_step
      refine ⟨.enter h_routes h_issued rfl, ⟨fun _ => h_issued, fun _ => ?_, fun _ => ?_, nofun,
        nofun⟩, .inl rfl⟩
      · exact ⟨h_unused.consumed, h_unused.held, h_unused.sole⟩
      · exact Dict.get_set_self _ _ _
    | false =>
      simp only [h_accepted, Bool.false_eq_true, if_false] at h_step
      cases h_step
      exact ⟨.quiet h_routes rfl, trivial, .inr rfl⟩
  | readSignature =>
    obtain rfl : event = .proceed := by
      cases event <;> first | rfl | cases h_step
    simp only [acquireStep] at h_step
    by_cases h_known : s.registry.modelNameToValidatedSignature.get model =
        some (configSignature (cfg.configOf model))
    · rw [if_pos h_known] at h_step
      cases h_step
      exact ⟨h_same, h_acquiring.onward rfl nofun rfl nofun, .inl rfl⟩
    · rw [if_neg h_known] at h_step
      cases h_step
      exact ⟨h_same, h_acquiring.onward rfl nofun rfl nofun, .inl rfl⟩
  | touch =>
    cases event <;> cases h_step
    exact ⟨.quiet h_routes rfl, h_acquiring.onward rfl nofun rfl RoutingView.Getting.start',
      .inl rfl⟩
  | validate =>
    obtain rfl : event = .proceed := by
      cases event <;> first | rfl | cases h_step
    simp only [acquireStep] at h_step
    by_cases h_free : s.validationLock = none
    · rw [if_pos h_free] at h_step
      have h_view : (s.validateShared cfg model).1.view = s.view := validateShared_view
      cases h_accepted : (s.validateShared cfg model).2 with
      | true =>
        simp only [h_accepted, if_true] at h_step
        cases h_step
        refine ⟨.quiet h_routes h_view, ?_, .inl rfl⟩
        rw [h_view]
        exact h_acquiring.onward rfl nofun rfl RoutingView.Getting.start'
      | false =>
        simp only [h_accepted, Bool.false_eq_true, if_false] at h_step
        cases h_step
        refine ⟨.quiet h_routes h_view, ?_, .inl rfl⟩
        rw [h_view]
        exact h_acquiring.onward rfl nofun rfl nofun
    · rw [if_neg h_free] at h_step
      cases h_step
  | callBackend b =>
    cases event <;> cases h_step
    have h_issued := h_acquiring.issued nofun
    -- the one step that adds a consumption: its backend is the cached one
    exact ⟨.consume h_routes (h_acquiring.unused rfl) h_issued (h_acquiring.entry rfl)
      (h_acquiring.cached b rfl) rfl, .past h_issued rfl, .inl rfl⟩
  | inBackend b =>
    have h_issued := h_acquiring.issued nofun
    cases event <;> try cases h_step
    · exact ⟨h_same, .past h_issued rfl, .inl rfl⟩
    · exact ⟨h_same, .past h_issued rfl, .inl rfl⟩
    · cases block <;> cases h_step
      exact ⟨h_same, .past h_issued rfl, .inl rfl⟩
  | rollback =>
    cases event <;> cases h_step
    exact ⟨.release h_routes rfl, trivial, .inr rfl⟩
  | finalizeFailed =>
    cases event <;> cases h_step
    exact ⟨.enter h_routes (h_acquiring.issued nofun) rfl, trivial, .inr rfl⟩
  | beginDelivery =>
    cases event <;> cases h_step
    exact ⟨.quiet h_routes rfl, .past (h_acquiring.issued nofun) rfl, .inl rfl⟩
  | finalize =>
    cases event <;> cases h_step
    have h_issued := h_acquiring.issued nofun
    exact ⟨.enter h_routes h_issued rfl, .past h_issued rfl, .inl rfl⟩
  | emit =>
    have h_issued := h_acquiring.issued nofun
    cases event <;> try (cases h_step)
    · exact ⟨h_same, .past h_issued rfl, .inl rfl⟩
    · cases block <;> exact ⟨h_same, .past h_issued rfl, .inl rfl⟩
  | finalizeUndelivered =>
    cases event <;> cases h_step
    exact ⟨.enter h_routes (h_acquiring.issued nofun) rfl, ⟨nofun, nofun⟩, .inl rfl⟩
  | forget stage =>
    have h_issued := h_acquiring.issued nofun
    have h_keeps : s.view.Keeps cfg tid (some rid) (s.forgetStep rid stage).1.view :=
      forgetStep_keeps h_routes stage
    obtain rfl : event = .proceed := by
      cases event <;> first | rfl | cases h_step
    cases stage <;> cases h_step <;> exact ⟨h_keeps, .past h_issued rfl, .inl rfl⟩

theorem afterRefund_stands {v : RoutingView} {undelivered : Bool} :
    v.Stands cfg tid (afterRefund rid model undelivered) := by
  cases undelivered with
  | true => exact RoutingView.Acquiring.endDelivery
  | false => trivial

theorem afterRefund_rid {undelivered : Bool} :
    (afterRefund rid model undelivered).rid = some rid ∨
      (afterRefund rid model undelivered).rid = none := by
  cases undelivered with
  | true => exact .inl rfl
  | false => exact .inr rfl

theorem refundStep_moves {pc : RefundPc} {undelivered : Bool} (h_routes : s.view.Routes cfg)
    (h_refunding : s.view.Refunding cfg tid rid model pc)
    (h_step : refundStep cfg s tid rid model undelivered pc event = some (s', pc')) :
    Moves cfg s tid (some rid) s' pc' := by
  have h_same : s.view.Keeps cfg tid (some rid) s.view := .quiet h_routes rfl
  have h_ends : Moves cfg s tid (some rid) s (afterRefund rid model undelivered) :=
    ⟨h_same, afterRefund_stands, afterRefund_rid⟩
  cases pc with
  | begin =>
    cases event <;> cases h_step
    · exact ⟨h_same, ⟨by rintro g ⟨⟩; exact .start, nofun⟩, .inl rfl⟩
    · exact h_ends
    · exact ⟨h_same, ⟨nofun, nofun⟩, .inl rfl⟩
    · exact ⟨h_same, ⟨nofun, nofun⟩, .inl rfl⟩
  | refresh g =>
    simp only [refundStep] at h_step
    by_cases h_event : event = .proceed ∨ event = .raises
    · rw [if_pos h_event] at h_step
      cases h_get : getBackendStep cfg s tid (cfg.familyOf model) (event = .raises) g with
      | none =>
        rw [h_get] at h_step
        cases h_step
      | some out =>
        obtain ⟨t, result⟩ := out
        obtain ⟨h_keeps, h_ready⟩ :=
          getBackendStep_keeps h_routes (h_refunding.getting g rfl) h_get
        rw [h_get] at h_step
        cases result with
        | running g' =>
          cases h_step
          exact ⟨h_keeps.weaken, ⟨by rintro g'' ⟨⟩; exact h_ready.1, nofun⟩, .inl rfl⟩
        | returns b =>
          cases h_step
          exact ⟨h_keeps.weaken, ⟨nofun, nofun⟩, .inl rfl⟩
        | raises =>
          cases h_step
          exact ⟨h_keeps.weaken, ⟨nofun, nofun⟩, .inl rfl⟩
    · rw [if_neg h_event] at h_step
      cases h_step
  | readBackend =>
    obtain rfl : event = .proceed := by
      cases event <;> first | rfl | cases h_step
    simp only [refundStep] at h_step
    cases h_get : s.modelFamilyToBackend.get (cfg.familyOf model) with
    | none =>
      rw [h_get] at h_step
      cases h_step
      exact h_ends
    | some b =>
      rw [h_get] at h_step
      cases h_step
      refine ⟨h_same, ⟨nofun, ?_⟩, .inl rfl⟩
      intro b' on h_hand h_consumed h_held
      cases h_hand
      -- the reservation is in flight, so its family still has the backend it consumed on
      have h_cached : s.modelFamilyToBackend.get (cfg.familyOf model) = some on :=
        (h_routes.held rid _ on h_consumed h_held).2
      rw [h_get] at h_cached
      exact Option.some.inj h_cached
  | readInFlight b =>
    cases event <;> try (cases h_step)
    · exact ⟨h_same, ⟨nofun, h_refunding.reaches⟩, .inl rfl⟩
    · simp only [refundStep] at h_step
      by_cases h_mem : rid ∉ s.tables.inFlightReservationIds
      · rw [if_pos h_mem] at h_step
        cases h_step
        exact h_ends
      · rw [if_neg h_mem] at h_step
        cases h_step
  | inBackend b =>
    cases event <;> cases h_step
    · exact ⟨h_same, ⟨nofun, nofun⟩, .inl rfl⟩
    · exact h_ends
    · exact ⟨h_same, ⟨nofun, nofun⟩, .inl rfl⟩
  | forget stage committed =>
    have h_keeps : s.view.Keeps cfg tid (some rid) (s.forgetStep rid stage).1.view :=
      forgetStep_keeps h_routes stage
    obtain rfl : event = .proceed := by
      cases event <;> first | rfl | cases h_step
    cases stage with
    | inFlight | pending | delivery =>
      cases h_step
      exact ⟨h_keeps, ⟨nofun, nofun⟩, .inl rfl⟩
    | family =>
      cases h_step
      cases committed with
      | true => exact ⟨h_keeps, ⟨nofun, nofun⟩, .inl rfl⟩
      | false => exact ⟨h_keeps, afterRefund_stands, afterRefund_rid⟩
  | touch =>
    cases event <;> cases h_step
    exact ⟨.quiet h_routes rfl, afterRefund_stands, afterRefund_rid⟩

/-! ### The eviction -/

/-- No reservation of the family is pending or in flight. -/
def idle (s : FamilyLimiter) (modelFamily : ModelFamily) : Bool :=
  ∀ rid ∈ s.inFlightReservationFamily.keys,
    s.inFlightReservationFamily.get rid ≠ some modelFamily

theorem idle_get (h_idle : s.idle modelFamily = true) (rid : ReservationId) :
    s.inFlightReservationFamily.get rid ≠ some modelFamily := by
  intro h_get
  exact of_decide_eq_true h_idle rid (Dict.mem_keys_of_get h_get) h_get

theorem popNext_moves {t : FamilyLimiter} {rest : List ModelFamily}
    (h_routes : s.view.Routes cfg) (h_step : some (t.popNext rest) = some (s', pc'))
    (h_view : t.view = s.view) : Moves cfg s tid none s' pc' := by
  cases rest with
  | nil =>
    cases h_step
    exact ⟨.quiet h_routes h_view, trivial, .inr rfl⟩
  | cons modelFamily rest =>
    cases h_step
    exact ⟨.quiet h_routes h_view, trivial, .inr rfl⟩

theorem popStep_moves {stage : PopStage} {rest : List ModelFamily} (h_routes : s.view.Routes cfg)
    (h_idle : stage = .backend → s.idle modelFamily = true)
    (h_step : s.popStep modelFamily rest stage event = some (s', pc')) :
    Moves cfg s tid none s' pc' := by
  cases stage with
  | backend =>
    cases event <;> cases h_step
    exact ⟨.evict h_routes (idle_get (h_idle rfl)) rfl, trivial, .inr rfl⟩
  | quotas =>
    cases event <;> cases h_step
    exact ⟨.popQuotas h_routes rfl, trivial, .inr rfl⟩
  | aliases =>
    cases event with
    | proceed =>
      simp only [popStep] at h_step
      split at h_step
      · cases h_step
        exact ⟨.quiet h_routes rfl, trivial, .inr rfl⟩
      · cases h_step
    | popAlias model =>
      simp only [popStep] at h_step
      split at h_step
      · cases h_step
        exact ⟨.quiet h_routes rfl, trivial, .inr rfl⟩
      · cases h_step
    | _ => cases h_step
  | aliasCounts =>
    obtain rfl : event = .proceed := by
      cases event <;> first | rfl | cases h_step
    exact popNext_moves h_routes h_step rfl
  | _ =>
    cases event <;> cases h_step
    exact ⟨.quiet h_routes rfl, trivial, .inr rfl⟩

theorem evictStep_moves {pc : EvictPc} (h_routes : s.view.Routes cfg)
    (h_idle : ∀ modelFamily rest, pc = .pop .backend modelFamily rest →
      s.idle modelFamily = true)
    (h_step : s.evictStep tid pc event = some (s', pc')) : Moves cfg s tid none s' pc' := by
  have h_quiet : ∀ {t : FamilyLimiter} {p : EvictPc}, t.view = s.view →
      Moves cfg s tid none t (.evict p) := fun h_view => ⟨.quiet h_routes h_view, trivial, .inr rfl⟩
  have h_done : Moves cfg s tid none (s.setValidationLock none) .done :=
    ⟨.quiet h_routes rfl, trivial, .inr rfl⟩
  cases pc with
  | takeLock unusedForSeconds =>
    cases event <;> try (cases h_step)
    simp only [evictStep] at h_step
    split at h_step
    · cases h_step
      exact h_quiet rfl
    · cases h_step
  | readInFlight cutoff =>
    cases event <;> cases h_step
    exact h_quiet rfl
  | startSelect cutoff inFlight =>
    cases event <;> cases h_step
    exact h_quiet rfl
  | select cutoff inFlight size examined expired =>
    cases event with
    | proceed =>
      simp only [evictStep] at h_step
      split at h_step
      · cases h_step
        exact h_done
      · split at h_step
        · exact popNext_moves h_routes h_step rfl
        · cases h_step
    | examine modelFamily =>
      simp only [evictStep] at h_step
      split at h_step
      · cases h_step
      · split at h_step
        · cases h_step
        · split at h_step
          · cases h_step
            exact h_done
          · cases h_step
            exact h_quiet rfl
    | _ => cases h_step
  | pop stage modelFamily rest =>
    have h_step : s.popStep modelFamily rest stage event = some (s', pc') := h_step
    refine popStep_moves h_routes ?_ h_step
    rintro rfl
    exact h_idle modelFamily rest rfl

/-! ## Every run -/

structure Sound (cfg : FamilyConfigs) (s : FamilyLimiter) : Prop where
  routes : s.view.Routes cfg
  threads : ∀ tid pc, s.threads.get tid = some pc → s.view.Stands cfg tid pc
  seen : ∀ tid pc rid, s.threads.get tid = some pc → pc.rid = some rid →
    s.issuedFor.get rid ≠ none
  released : ∀ rid ∈ s.released, s.issuedFor.get rid ≠ none

theorem sound_init (now : ℚ) : (init cfg now).Sound cfg where
  routes := ⟨nofun, nofun, nofun⟩
  threads := nofun
  seen := nofun
  released _ h_mem := absurd h_mem (Finset.notMem_empty _)

/-- The step of the condition: an eviction pops the backend of an idle family only. -/
def evictsIdle (s : FamilyLimiter) : Label → Bool
  | .thread tid _ =>
    match s.threads.get tid with
    | some (.evict (.pop .backend modelFamily _)) => s.idle modelFamily
    | _ => true
  | _ => true

theorem threadStep_moves {pc : ThreadPc} (h_sound : s.Sound cfg)
    (h_thread : s.threads.get tid = some pc) (h_clean : s.evictsIdle (.thread tid event) = true)
    (h_step : threadStep cfg s tid pc event = some (s', pc')) :
    Moves cfg s tid pc.rid s' pc' := by
  have h_stands := h_sound.threads tid pc h_thread
  cases pc with
  | acquire rid model block p => exact acquireStep_moves h_sound.routes h_stands h_step
  | refund rid model undelivered p => exact refundStep_moves h_sound.routes h_stands h_step
  | evict p =>
    refine evictStep_moves h_sound.routes ?_ h_step
    rintro modelFamily rest rfl
    simp only [evictsIdle, h_thread] at h_clean
    exact h_clean
  | done => cases h_step

/-- A step of a thread keeps what every thread knows. -/
theorem Moves.sound {pc : ThreadPc} (h_sound : s.Sound cfg)
    (h_thread : s.threads.get tid = some pc) (h_moves : Moves cfg s tid pc.rid s' pc') :
    (s'.setThread tid pc').Sound cfg := by
  have h_rely := h_moves.keeps.rely
  have h_threads : s'.threads = s.threads := h_rely.threads
  have h_issued : s'.issuedFor = s.issuedFor := h_rely.issued
  have h_routes := h_moves.keeps.routes
  refine ⟨⟨h_routes.held, h_routes.issued, h_routes.quotas⟩, ?_, ?_, ?_⟩
  · intro tid' pc₀ h_get
    rcases Dict.get_set_cases h_get with ⟨rfl, rfl⟩ | ⟨h_ne, h_old⟩
    · exact h_moves.stands.self
    · rw [h_threads] at h_old
      exact (h_sound.threads tid' pc₀ h_old).other h_rely h_ne h_thread rfl h_moves.rid h_old
  · intro tid' pc₀ rid h_get h_rid
    show s'.issuedFor.get rid ≠ none
    rw [h_issued]
    rcases Dict.get_set_cases h_get with ⟨rfl, rfl⟩ | ⟨_, h_old⟩
    · rcases h_moves.rid with h_own | h_none
      · exact h_sound.seen tid' pc rid h_thread (by rw [← h_own]; exact h_rid)
      · rw [h_none] at h_rid
        cases h_rid
    · rw [h_threads] at h_old
      exact h_sound.seen tid' pc₀ rid h_old h_rid
  · intro rid h_mem
    show s'.issuedFor.get rid ≠ none
    rw [h_issued]
    -- only the thread's own reservation is released
    by_cases h_own : pc.rid = some rid
    · exact h_sound.seen tid pc rid h_thread h_own
    · exact h_sound.released rid ((h_rely.others rid h_own).2.2.mp h_mem)

theorem Sound.start {pc : ThreadPc} {issuedFor : Dict ReservationId ModelName}
    (h_sound : s.Sound cfg)
    (h_extends : ∀ rid model, s.issuedFor.get rid = some model →
      issuedFor.get rid = some model)
    (h_new : ∀ rid, pc.rid = some rid → issuedFor.get rid ≠ none ∧
      (s.issuedFor.get rid = none ∨ s.consumedOn.get rid ≠ none))
    (h_stands : ({ s with issuedFor := issuedFor }.setThread tid pc).view.Stands cfg tid pc) :
    ({ s with issuedFor := issuedFor }.setThread tid pc).Sound cfg := by
  have h_routes := h_sound.routes
  have h_kept : ∀ rid, s.issuedFor.get rid ≠ none → issuedFor.get rid ≠ none := by
    intro rid h_some
    cases h_for : s.issuedFor.get rid with
    | none => exact absurd h_for h_some
    | some model =>
      rw [h_extends rid model h_for]
      nofun
  refine ⟨⟨h_routes.held, ?_, h_routes.quotas⟩, ?_, ?_, ?_⟩
  · intro rid family b h_consumed
    obtain ⟨model, h_for, h_family⟩ := h_routes.issued rid family b h_consumed
    exact ⟨model, h_extends rid model h_for, h_family⟩
  · intro tid' pc₀ h_get
    rcases Dict.get_set_cases h_get with ⟨rfl, rfl⟩ | ⟨_, h_old⟩
    · exact h_stands
    · exact RoutingView.Stands.start h_extends (fun rid h_rid => (h_new rid h_rid).2)
        h_old (h_sound.threads tid' pc₀ h_old)
  · intro tid' pc₀ rid h_get h_rid
    rcases Dict.get_set_cases h_get with ⟨rfl, rfl⟩ | ⟨_, h_old⟩
    · exact (h_new rid h_rid).1
    · exact h_kept rid (h_sound.seen tid' pc₀ rid h_old h_rid)
  · intro rid h_mem
    exact h_kept rid (h_sound.released rid h_mem)

/-- An id seen for the first time. -/
theorem issuedFor_set_extends (h_new : s.issuedFor.get rid = none) (rid' : ReservationId)
    (model' : ModelName) (h_get : s.issuedFor.get rid' = some model') :
    (s.issuedFor.set rid model).get rid' = some model' := by
  have h_ne : rid' ≠ rid := by
    rintro rfl
    rw [h_new] at h_get
    cases h_get
  rw [Dict.get_set_of_ne h_ne]
  exact h_get

theorem consumedOn_none (h_sound : s.Sound cfg) (h_new : s.issuedFor.get rid = none) :
    s.consumedOn.get rid = none := by
  cases h_consumed : s.consumedOn.get rid with
  | none => rfl
  | some on =>
    obtain ⟨model, h_for, _⟩ := h_sound.routes.issued rid on.1 on.2 h_consumed
    have h_for : s.issuedFor.get rid = some model := h_for
    rw [h_new] at h_for
    cases h_for

/-- An acquire starts on an id nobody has seen. -/
theorem startAcquire_sound {block : Bool} (h_sound : s.Sound cfg)
    (h_new : s.issuedFor.get rid = none) :
    ({ s with issuedFor := s.issuedFor.set rid model }.setThread tid
      (.acquire rid model block .begin)).Sound cfg := by
  have h_set : (s.issuedFor.set rid model).get rid = some model := Dict.get_set_self _ _ _
  have h_none : s.consumedOn.get rid = none := consumedOn_none h_sound h_new
  refine h_sound.start (issuedFor_set_extends h_new) ?_ ⟨fun _ => h_set, fun _ => ?_, nofun,
    nofun, nofun⟩
  · rintro rid' ⟨⟩
    refine ⟨?_, .inl h_new⟩
    rw [h_set]
    nofun
  · refine ⟨h_none, fun h_mem => h_sound.released rid h_mem h_new, ?_⟩
    intro tid' pc h_ne h_get h_rid
    have h_get : (s.threads.set tid _).get tid' = some pc := h_get
    rw [Dict.get_set_of_ne h_ne] at h_get
    exact h_sound.seen tid' pc rid h_get h_rid h_new

/-- A refund starts with a reservation of this limiter. -/
theorem startRefund_sound (h_sound : s.Sound cfg) (h_consumed : (s.consumedOn.get rid).isSome) :
    (s.setThread tid (.refund rid model false .begin)).Sound cfg := by
  obtain ⟨on, h_on⟩ := Option.isSome_iff_exists.mp h_consumed
  have h_start : ({ s with issuedFor := s.issuedFor }.setThread tid
      (.refund rid model false .begin)).Sound cfg := by
    refine h_sound.start (fun _ _ h_get => h_get) ?_ ⟨nofun, nofun⟩
    rintro rid' ⟨⟩
    obtain ⟨issued, h_for, _⟩ := h_sound.routes.issued rid on.1 on.2 h_on
    have h_for : s.issuedFor.get rid = some issued := h_for
    rw [h_for, h_on]
    exact ⟨nofun, .inr nofun⟩
  exact h_start

/-- A refund starts with a reservation from elsewhere. -/
theorem startForeignRefund_sound (h_sound : s.Sound cfg) (h_new : s.issuedFor.get rid = none) :
    ({ s with issuedFor := s.issuedFor.set rid model }.setThread tid
      (.refund rid model false .begin)).Sound cfg := by
  refine h_sound.start (issuedFor_set_extends h_new) ?_ ⟨nofun, nofun⟩
  rintro rid' ⟨⟩
  rw [Dict.get_set_self]
  exact ⟨nofun, .inl h_new⟩

theorem startEvict_sound {pc : EvictPc} (h_sound : s.Sound cfg) :
    (s.setThread tid (.evict pc)).Sound cfg := by
  have h_start : ({ s with issuedFor := s.issuedFor }.setThread tid (.evict pc)).Sound cfg :=
    h_sound.start (fun _ _ h_get => h_get) (by rintro rid ⟨⟩) trivial
  exact h_start

theorem step_sound {label : Label} (h_sound : s.Sound cfg) (h_clean : s.evictsIdle label = true)
    (h_step : Steps (step cfg) s label s') : s'.Sound cfg := by
  unfold Steps at h_step
  cases label with
  | tick seconds =>
    simp only [step] at h_step
    split at h_step
    · cases h_step
      exact ⟨h_sound.routes, h_sound.threads, h_sound.seen, h_sound.released⟩
    · cases h_step
  | acquire tid rid model block =>
    simp only [step] at h_step
    split at h_step
    · rename_i h_free
      cases h_step
      exact startAcquire_sound h_sound h_free.2
    · cases h_step
  | refund tid rid model =>
    simp only [step] at h_step
    split at h_step
    · split at h_step
      · rename_i h_consumed
        cases h_step
        exact startRefund_sound h_sound h_consumed
      · split at h_step
        · rename_i h_new
          cases h_step
          exact startForeignRefund_sound h_sound h_new
        · cases h_step
    · cases h_step
  | clearUnused tid unusedForSeconds =>
    simp only [step] at h_step
    split at h_step
    · cases h_step
      exact startEvict_sound h_sound
    · cases h_step
  | thread tid event =>
    simp only [step] at h_step
    cases h_thread : s.threads.get tid with
    | none =>
      rw [h_thread] at h_step
      cases h_step
    | some pc =>
      simp only [h_thread] at h_step
      cases h_moved : threadStep cfg s tid pc event with
      | none =>
        rw [h_moved] at h_step
        cases h_step
      | some out =>
        obtain ⟨t, pc'⟩ := out
        rw [h_moved] at h_step
        cases h_step
        exact (threadStep_moves h_sound h_thread h_clean h_moved).sound h_sound h_thread

/-! ## Reservations and their backends -/

/-- The family of every consumed reservation that is still held caches the backend it was
    consumed on, and a refund of it is given to that backend. -/
def RoutesRefunds (cfg : FamilyConfigs) (s : FamilyLimiter) : Prop :=
  (∀ rid modelFamily backend, s.consumedOn.get rid = some (modelFamily, backend) →
    rid ∉ s.released → s.modelFamilyToBackend.get modelFamily = some backend) ∧
  ∀ tid rid model undelivered backend consumedOn,
    s.threads.get tid = some (.refund rid model undelivered (.inBackend backend)) →
    s.consumedOn.get rid = some (cfg.familyOf model, consumedOn) → rid ∉ s.released →
      backend = consumedOn

theorem Sound.routesRefunds (h_sound : s.Sound cfg) : s.RoutesRefunds cfg := by
  refine ⟨?_, ?_⟩
  · intro rid modelFamily backend h_consumed h_held
    exact (h_sound.routes.held rid modelFamily backend h_consumed h_held).2
  · intro tid rid model undelivered backend consumedOn h_thread h_consumed h_held
    have h_stands : s.view.Refunding cfg tid rid model (.inBackend backend) :=
      h_sound.threads tid _ h_thread
    exact h_stands.reaches backend consumedOn rfl h_consumed h_held

/-- Until its refund is committed a reservation keeps the backend it was consumed on, in
    every run whose evictions pop the backend of idle families only. -/
theorem run_routesRefunds {labels : List Label} {now : ℚ}
    (h_run : Run (Steps (guard (step cfg) evictsIdle)) (init cfg now) labels s) :
    s.RoutesRefunds cfg := by
  have h_sound : s.Sound cfg := by
    refine h_run.invariant ?_ (sound_init now)
    intro s label s' h_sound h_step
    obtain ⟨h_clean, h_step⟩ := steps_guard_iff.mp h_step
    exact step_sound h_sound h_clean h_step
  exact h_sound.routesRefunds

/-! ### Two acquires and an eviction -/

/-- Every model is a family of its own, with one limit. -/
def oneFamily : FamilyConfigs where
  caps := FamilyRegistry.wideCaps
  maxInFlightReservations := 10
  familyOf model := model
  quotasOf _ := .single tokensPerMinute oneHundred

/-- Thread 0 acquires for the first time, builds the backend and its call ends so. -/
def firstAcquire (ending : List ThreadEvent) : List Label :=
  .acquire 0 "a" "m" true :: (List.replicate 10 (.thread 0 .proceed) ++ ending.map (.thread 0))

/-- Thread 1 acquires on the fast paths, up to the start of its consumption. -/
def secondAcquire : List Label :=
  .acquire 1 "b" "m" true :: List.replicate 6 (.thread 1 .proceed)

/-- Thread 2 evicts what has not been used for some time, up to its first pop. -/
def evictUntilPop : List Label :=
  .clearUnused 2 0 :: (List.replicate 3 (.thread 2 .proceed) ++
    [.thread 2 (.examine "m"), .thread 2 .proceed])

/-- The first acquire is delivered and refunded, and then its family is evicted. -/
theorem run_routesRefunds_refundThenEvict :
    ∃ s : FamilyLimiter, s.RoutesRefunds oneFamily ∧ s.modelFamilyToBackend.get "m" = none := by
  obtain ⟨s, h_run, h_none⟩ : ∃ s : FamilyLimiter,
      Run (Steps (guard (step oneFamily) evictsIdle)) (init oneFamily 0)
        (firstAcquire (List.replicate 5 .proceed) ++
          .refund 3 "a" "m" :: List.replicate 11 (.thread 3 .proceed) ++
          evictUntilPop ++ [.thread 2 .proceed]) s ∧ s.modelFamilyToBackend.get "m" = none :=
    exists_run_of_exec (by decide +kernel)
  exact ⟨s, run_routesRefunds h_run, h_none⟩

/-- An acquire that becomes pending after the eviction has read the families in flight
    consumes on a backend that the eviction then takes out of the cache. -/
theorem evictAfterBegin_separates :
    ∃ s : FamilyLimiter, Run (Steps (step oneFamily)) (init oneFamily 0)
        (firstAcquire [.raises, .proceed] ++ evictUntilPop ++ secondAcquire ++
          [.thread 2 .proceed]) s ∧ ¬ s.RoutesRefunds oneFamily := by
  obtain ⟨s, h_run, h_consumed, h_held, h_none⟩ : ∃ s : FamilyLimiter,
      Run (Steps (step oneFamily)) (init oneFamily 0)
        (firstAcquire [.raises, .proceed] ++ evictUntilPop ++ secondAcquire ++
          [.thread 2 .proceed]) s ∧ s.consumedOn.get "b" = some ("m", 0) ∧ "b" ∉ s.released ∧
        s.modelFamilyToBackend.get "m" = none := exists_run_of_exec (by decide +kernel)
  refine ⟨s, h_run, fun h_routes => ?_⟩
  have h_cached := h_routes.1 "b" "m" 0 h_consumed h_held
  rw [h_none] at h_cached
  cases h_cached

end FamilyLimiter

end TokenThrottle
