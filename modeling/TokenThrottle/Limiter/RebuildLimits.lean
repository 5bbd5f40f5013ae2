/-
  TokenThrottle.Limiter.RebuildLimits

  The effective maximum of a bucket that survives a rebuild over Redis, for the
  process that rebuilds and for its peers, while its runtime override is live and
  after it has expired.

  * `LimitView` is what decides an effective maximum: the override of the bucket and
    the attributes of the rebuilding process.
  * Most commands leave it alone; the pass that commits the snapshots, the
    installation and the restored limits are followed one by one.
-/
import TokenThrottle.Limiter.Rebuild
import TokenThrottle.Redis.Footprint

namespace TokenThrottle

open Theory (OrderedDict Program)
open Theory.Program

/-! ## What decides a limit -/

/-- The maximum a process computes for a bucket from what it reads of its override. -/
def RedisClient.effectiveMaxCapacity (client : RedisClient) (id : BucketId)
    (raw : Option OverrideRecord) : MaxCapacity :=
  (client.deserializeMaxCapacityOverride id raw).getD (client.maxCapacityDefault id)

structure LimitView where
  override : Option OverrideRecord
  keyPrefix : String
  modelFamily : String
  sortedBuckets : List BucketId
  maxCapacityDefault : BucketId → MaxCapacity

/-- The limits with a runtime override of the bucket. -/
def LimitView.overriding (v : LimitView) (id : BucketId) (value : MaxCapacity) : LimitView :=
  { v with override := some ⟨v.maxCapacityDefault id, value⟩ }

def Session.limitView (key : BucketKey) (s : Session) : LimitView where
  override := s.server.maxCapacityOverride key
  keyPrefix := s.client.keyPrefix
  modelFamily := s.client.modelFamily
  sortedBuckets := s.client.sortedBuckets
  maxCapacityDefault := s.client.maxCapacityDefault

/-- What the others do in a turn does not touch the bucket's override. -/
def Turn.LeavesOverride (key : BucketKey) (turn : Turn) : Prop :=
  ∀ server, (turn.others server).maxCapacityOverride key = server.maxCapacityOverride key

namespace Session

variable {key : BucketKey} {turn : Turn} {s : Session}

theorem setStates_override (server : RedisServer) (writes : List (BucketKey × ℚ)) (now : ℚ) :
    (server.setStates writes now).maxCapacityOverride = server.maxCapacityOverride := by
  unfold RedisServer.setStates
  induction writes generalizing server with
  | nil => rfl
  | cons write writes ih => exact ih _

theorem refreshOverride_override (server : RedisServer) (k : BucketKey) (record : OverrideRecord)
    (expiresAt : ℚ) :
    (server.refreshOverride k record expiresAt).2.maxCapacityOverride =
      server.maxCapacityOverride := by
  unfold RedisServer.refreshOverride
  split
  · exact Function.update_eq_self k server.maxCapacityOverride
  · rfl

theorem acquireScript_override (server : RedisServer) (k : ReservationKey)
    (marker : AcquiredMarker) (writes : List (BucketKey × ℚ)) (now : ℚ) :
    (server.acquireMarkerSetScript k marker writes now).2.maxCapacityOverride =
      server.maxCapacityOverride := by
  unfold RedisServer.acquireMarkerSetScript
  split
  · rfl
  · split
    · rfl
    · exact setStates_override server writes now

theorem refundScript_override (server : RedisServer) (k : ReservationKey)
    (marker : AcquiredMarker) (token : Token) (writes : List (BucketKey × ℚ)) (now : ℚ) :
    (server.refundWithMarkerScript k marker token writes now).2.maxCapacityOverride =
      server.maxCapacityOverride := by
  unfold RedisServer.refundWithMarkerScript
  split
  · split <;> rfl
  · split
    · rfl
    · split
      · rfl
      · exact setStates_override server writes now

/-- The execution of a harmless command leaves every limit. -/
theorem execute_limitView {command : Command} (h_harmless : command.harmless = true)
    (turn : Turn) (s : Session) : (s.execute turn command).2.limitView key = s.limitView key := by
  have h_server : ∀ server : RedisServer,
      server.maxCapacityOverride = s.server.maxCapacityOverride →
        (s.withServer server).limitView key = s.limitView key := by
    intro server h_same
    unfold limitView withServer
    rw [h_same]
  cases command with
  | setOverride | deleteOverride | setConfiguredMaxCapacity | installReconfiguredState =>
    cases h_harmless
  | acquireLock k token =>
    simp only [execute]
    split
    · exact h_server _ rfl
    · rfl
  | releaseLock k token =>
    simp only [execute]
    split
    · exact h_server _ rfl
    · rfl
  | refreshOverride k record expiresAt =>
    exact h_server _ (refreshOverride_override s.server k record expiresAt)
  | repairStates keys now => exact h_server _ (setStates_override s.server _ now)
  | setStates writes now deleteMarker =>
    cases deleteMarker with
    | none => exact h_server _ (setStates_override s.server writes now)
    | some k => exact h_server _ (setStates_override s.server writes now)
  | acquireMarkerSetScript k marker writes now =>
    exact h_server _ (acquireScript_override s.server k marker writes now)
  | refundWithMarkerScript k marker token writes now =>
    exact h_server _ (refundScript_override s.server k marker token writes now)
  | _ => rfl

/-- The others of a turn leave the limits of the bucket. -/
theorem others_limitView (h_turn : turn.LeavesOverride key) :
    (s.withServer (turn.others s.server)).limitView key = s.limitView key := by
  unfold limitView withServer
  rw [h_turn]

theorem serve_limitView {command : Command} (h_turn : turn.LeavesOverride key)
    (h_harmless : command.harmless = true) :
    (serve turn command s).2.limitView key = s.limitView key := by
  have h_others := others_limitView (s := s) h_turn
  simp only [serve]
  cases turn.delivery with
  | answered => exact (execute_limitView h_harmless turn _).trans h_others
  | lost e => exact (execute_limitView h_harmless turn _).trans h_others
  | refused e => exact h_others

end Session

/-! ## Programs and limits -/

/-- A program that returns does so with `post` of the limits it leaves, whatever the
    others do to other buckets. -/
def Brings {α : Type} (key : BucketKey) (post : α → LimitView → Prop) (p : RedisProgram α)
    (s : Session) : Prop :=
  p.Leads Session.serve (Turn.LeavesOverride key) (fun a s' => post a (s'.limitView key)) s

section Rules

variable {α β : Type} {key : BucketKey} {s : Session} {p : RedisProgram α}
  {f : α → RedisProgram β} {m : α → LimitView → Prop} {post : β → LimitView → Prop}

theorem Brings.bind (h_p : Brings key m p s)
    (h_f : ∀ a s', m a (s'.limitView key) → Brings key post (f a) s') :
    Brings key post (p >>= f) s :=
  Leads.bind h_p h_f

theorem Brings.mono {m' : α → LimitView → Prop} (h_p : Brings key m p s)
    (h_post : ∀ a v, m a v → m' a v) : Brings key m' p s :=
  Leads.mono h_p fun a s' => h_post a (s'.limitView key)

theorem Harmless.brings (h_p : Harmless p) (s : Session) :
    Brings key (fun _ v => v = s.limitView key) p s := by
  have h_keeps : ∀ (turn : Turn) (command : Command) (s : Session), turn.LeavesOverride key →
      command.harmless = true →
        (Session.serve turn command s).2.limitView key = s.limitView key :=
    fun turn command s h_turn h_harmless => Session.serve_limitView h_turn h_harmless
  exact h_p.leads h_keeps s

/-- What follows a harmless program finds the same limits. -/
theorem Harmless.brings_bind (h_p : Harmless p)
    (h_f : ∀ a s', s'.limitView key = s.limitView key → Brings key post (f a) s') :
    Brings key post (p >>= f) s :=
  (h_p.brings s).bind h_f

/-- The attributes of the process as it reads them. -/
theorem client_bind {g : RedisClient → RedisProgram β}
    (h_g : ∀ s', s'.limitView key = s.limitView key → s'.client = s.client →
      Brings key post (g s.client) s') :
    Brings key post (send .client >>= g) s :=
  client_leads (fun _ _ h_turn => Session.others_limitView h_turn) h_g

theorem send_brings {command : Command} {post : command.Response → LimitView → Prop}
    (h_post : ∀ (turn : Turn) (s' : Session), s'.limitView key = s.limitView key →
      s'.client = s.client →
      post (s'.execute turn command).1 ((s'.execute turn command).2.limitView key)) :
    Brings key post (send command) s :=
  send_leads (fun _ _ h_turn => Session.others_limitView h_turn)
    fun turn s' _ h_same h_client => h_post turn s' h_same h_client

/-- The locks around a body are taken and released without touching a limit. -/
theorem withLocks_brings {acquire : RedisProgram RedisBackend.LockStack}
    {body : RedisBackend.LockStack → RedisProgram β} (h_acquire : Harmless acquire)
    (h_body : ∀ stack s', s'.limitView key = s.limitView key → Brings key post (body stack) s') :
    Brings key post (RedisBackend.withLocks acquire body) s := by
  refine h_acquire.brings_bind fun stack s' h_same => ?_
  exact Leads.ensuring (Session.limitView key) post (h_body stack s' h_same)
    (RedisBackend.releaseLocks_harmless stack)
    fun turn command s h_turn h_harmless => Session.serve_limitView h_turn h_harmless

end Rules

/-! ## The passes of a rebuild -/

namespace RedisBackend

variable {key : BucketKey} {s : Session} {id : BucketId} {limit : MaxCapacity}
  {current newBackend : RedisClient}

/-- The limits after the override of some bucket was deleted: the attributes stay, and so
    does the override of any other bucket. -/
def Deleted (k key : BucketKey) (v v' : LimitView) : Prop :=
  (∃ override, v' = { v with override := override }) ∧ (k ≠ key → v' = v)

theorem deleteOverride_brings (k : BucketKey) :
    Brings key (fun _ v => Deleted k key (s.limitView key) v) (send (.deleteOverride k)) s := by
  refine send_brings fun turn s' h_same _ => ?_
  rw [← h_same]
  refine ⟨⟨_, rfl⟩, fun h_ne => ?_⟩
  have h_key : Function.update s'.server.maxCapacityOverride k none key =
      s'.server.maxCapacityOverride key := Function.update_of_ne h_ne.symm _ _
  show LimitView.mk (Function.update s'.server.maxCapacityOverride k none key) _ _ _ _ = _
  rw [h_key]
  rfl

theorem clearOverride_brings (owner : BucketOwner) (k : BucketKey) :
    Brings key (fun _ v => Deleted k key (s.limitView key) v)
      (RedisBucket.clearMaxCapacityOverride owner k) s := by
  refine (deleteOverride_brings k).bind fun _ s' h_deleted => ?_
  refine ((updateCaches_harmless owner _).brings s').mono fun _ v h_same => ?_
  rw [h_same]
  exact h_deleted

/-- What a rebuild knows of a target: only the bucket itself uses its key, and its new
    limit is the one of the configuration. -/
def Fits (newBackend : RedisClient) (key : BucketKey) (id : BucketId) (limit : MaxCapacity)
    (target : RebuildTarget) (k : BucketKey) : Prop :=
  match target with
  | .removed _ => k ≠ key
  | .kept id' limit' => if id' = id then limit' = limit else newBackend.bucketKey id' ≠ key
  | .added id' limit' => id' = id → limit' = limit

theorem prepareSnapshots_brings (stack : LockStack) (targets : List RebuildTarget)
    (h_targets : ∀ target ∈ targets,
      Fits newBackend key id limit target (target.key current newBackend)) :
    Brings key (fun plans v => v = s.limitView key ∧
        ∀ plan ∈ plans, Fits newBackend key id limit plan.target plan.key)
      (prepareSnapshots stack current newBackend targets) s := by
  induction targets generalizing s with
  | nil => exact ⟨rfl, fun plan h_mem => absurd h_mem List.not_mem_nil⟩
  | cons target targets ih =>
    refine (extendLocks_harmless stack).brings_bind fun _ s₁ h₁ => ?_
    have h_plan : Brings key (fun plan v => v = s₁.limitView key ∧ plan.target = target ∧
        plan.key = target.key current newBackend)
        (prepareSnapshot (target.owner newBackend) target (target.key current newBackend)) s₁ := by
      refine (projectBucketState_harmless _ _).brings_bind fun projection s₂ h₂ => ?_
      refine (ownerClient_harmless _).brings_bind fun client s₃ h₃ => ?_
      have h_same : s₃.limitView key = s₁.limitView key := h₃.trans h₂
      split
      · exact ⟨h_same, rfl, rfl⟩
      · exact Leads.bind (m := fun _ s' => s' = s₃) (Leads.lift fun _ _ => rfl)
          fun _ s' h_eq => by
            subst h_eq
            exact ⟨h_same, rfl, rfl⟩
    refine h_plan.bind fun plan s₂ h₂ => ?_
    refine (ih (s := s₂) fun target' h_mem => h_targets target' (List.mem_cons_of_mem _ h_mem)).bind
      fun plans s₃ h₃ => ?_
    refine ⟨h₃.1.trans (h₂.1.trans h₁), fun plan' h_mem => ?_⟩
    rcases List.mem_cons.mp h_mem with rfl | h_mem
    · rw [h₂.2.1, h₂.2.2]
      exact h_targets target List.mem_cons_self
    · exact h₃.2 plan' h_mem

/-- A bucket owner that is the new backend up to its caches. -/
def IsRebuilt (newBackend : RedisClient) (owner : BucketOwner) : Prop :=
  ∃ caches, owner = .rebuilt { newBackend with caches := caches }

theorem updateCaches_rebuilt {owner : BucketOwner} (h_owner : IsRebuilt newBackend owner)
    (f : BucketCaches → BucketCaches) :
    Brings key (fun owner' v => v = s.limitView key ∧ IsRebuilt newBackend owner')
      (owner.updateCaches f) s := by
  obtain ⟨caches, rfl⟩ := h_owner
  exact ⟨rfl, f caches, rfl⟩

theorem commitBucketSnapshot_rebuilt (plan : BucketSnapshotPlan) :
    Brings key (fun owner v => v = s.limitView key ∧ IsRebuilt newBackend owner)
      (commitBucketSnapshot (.rebuilt newBackend) plan) s := by
  have h_self : IsRebuilt newBackend (.rebuilt newBackend) := ⟨newBackend.caches, rfl⟩
  refine (refreshMaxCapacityOverrideTtl_harmless _ _ _).brings_bind fun _ s₁ h₁ => ?_
  split
  · rw [← h₁]
    exact updateCaches_rebuilt h_self _
  · refine Brings.bind (m := fun owner v => v = s₁.limitView key ∧ IsRebuilt newBackend owner)
      ?_ fun owner s₂ h₂ => ?_
    · refine Harmless.brings_bind (Issues.pure newBackend) fun client s₂ h₂ => ?_
      refine Harmless.brings_bind (Issues.lift _) fun _ s₃ h₃ => ?_
      refine (retainCapacityHistory_harmless _).brings_bind fun _ s₄ h₄ => ?_
      refine Harmless.brings_bind (send_harmless rfl) fun _ s₅ h₅ => ?_
      rw [← h₂, ← h₃, ← h₄, ← h₅]
      exact updateCaches_rebuilt h_self _
    · rw [← h₁, ← h₂.1]
      exact updateCaches_rebuilt h₂.2 _

theorem clearOverride_rebuilt (k : BucketKey) :
    Brings key (fun owner v => IsRebuilt newBackend owner ∧ Deleted k key (s.limitView key) v)
      (RedisBucket.clearMaxCapacityOverride (.rebuilt newBackend) k) s := by
  refine (deleteOverride_brings k).bind fun _ s' h_deleted => ?_
  refine (updateCaches_rebuilt ⟨newBackend.caches, rfl⟩ _).mono fun owner v h => ⟨h.2, ?_⟩
  rw [h.1]
  exact h_deleted

/-- The new backend after some of its buckets were prepared. -/
structure Made (newBackend : RedisClient) (id : BucketId) (limit : MaxCapacity)
    (made : RedisClient) : Prop where
  keyPrefix : made.keyPrefix = newBackend.keyPrefix
  modelFamily : made.modelFamily = newBackend.modelFamily
  sortedBuckets : made.sortedBuckets = newBackend.sortedBuckets
  configured : made.maxCapacityDefault id = limit

/-- What the committed snapshots have done to the limits: the attributes are as before,
    and so is the override of a bucket whose limit is the old one. -/
def Committed (id : BucketId) (limit : MaxCapacity) (v v' : LimitView) : Prop :=
  ∃ override, v' = { v with override := override } ∧
    (v.maxCapacityDefault id = limit → override = v.override)

theorem Committed.refl (v : LimitView) : Committed id limit v v := ⟨v.override, rfl, fun _ => rfl⟩

theorem Committed.trans {v v' v'' : LimitView} (h_first : Committed id limit v v')
    (h_then : Committed id limit v' v'') : Committed id limit v v'' := by
  obtain ⟨o, rfl, h_o⟩ := h_first
  obtain ⟨o', rfl, h_o'⟩ := h_then
  exact ⟨o', rfl, fun h_same => (h_o' h_same).trans (h_o h_same)⟩

theorem made_setConfigured {client : RedisClient} (h_made : Made newBackend id limit client)
    {id' : BucketId} {limit' : MaxCapacity} (h_limit : id' = id → limit' = limit) :
    Made newBackend id limit (commitPlan.setConfigured id' limit' client) := by
  refine ⟨h_made.keyPrefix, h_made.modelFamily, h_made.sortedBuckets, ?_⟩
  show Function.update client.maxCapacityDefault id' limit' id = limit
  by_cases h_eq : id' = id
  · subst h_eq
    rw [Function.update_self]
    exact h_limit rfl
  · rw [Function.update_of_ne (Ne.symm h_eq)]
    exact h_made.configured

theorem made_of_isRebuilt {owner : BucketOwner} (h_made : Made newBackend id limit current)
    (h_owner : IsRebuilt current owner) :
    Made newBackend id limit (rebuiltBackend current owner) := by
  obtain ⟨caches, rfl⟩ := h_owner
  exact ⟨h_made.keyPrefix, h_made.modelFamily, h_made.sortedBuckets, h_made.configured⟩

/-- The commit of one bucket. -/
theorem commitPlan_brings {made : RedisClient} (plan : BucketSnapshotPlan)
    (h_made : Made newBackend id limit made)
    (h_fits : Fits newBackend key id limit plan.target plan.key) :
    Brings key (fun made' v => Made newBackend id limit made' ∧
        Committed id limit (s.limitView key) v) (commitPlan made plan) s := by
  unfold commitPlan
  cases h_target : plan.target with
  | removed id' =>
    rw [h_target] at h_fits
    refine (commitBucketSnapshot_harmless _ _).brings_bind fun _ s₁ h₁ => ?_
    refine (clearOverride_brings .running plan.key).bind fun _ s₂ h₂ => ?_
    refine ⟨h_made, ?_⟩
    show Committed id limit _ (s₂.limitView key)
    rw [h₂.2 h_fits, h₁]
    exact Committed.refl _
  | kept id' limit' =>
    rw [h_target] at h_fits
    have h_limit : id' = id → limit' = limit := fun h_eq => by
      simpa only [Fits, if_pos h_eq] using h_fits
    refine (commitBucketSnapshot_harmless _ _).brings_bind fun _ s₁ h₁ => ?_
    refine client_bind fun s₂ h₂ _ => ?_
    have h_same : s₂.limitView key = s.limitView key := h₂.trans h₁
    have h_made' {owner : BucketOwner} (h_owner : IsRebuilt made owner) :=
      made_setConfigured (made_of_isRebuilt h_made h_owner) h_limit
    split
    · rename_i h_changed
      refine (clearOverride_rebuilt (made.bucketKey id')).bind fun owner s₃ h₃ => ?_
      refine ⟨h_made' h₃.1, ?_⟩
      obtain ⟨⟨override, h_view⟩, h_other⟩ := h₃.2
      rw [h_same] at h_view h_other
      refine ⟨override, h_view, fun h_limit_same => ?_⟩
      -- the bucket's own override is only deleted when its limit changes
      have h_ne : id' ≠ id := by
        rintro rfl
        refine h_changed ?_
        have h_default : s₁.client.maxCapacityDefault = s.client.maxCapacityDefault :=
          congrArg LimitView.maxCapacityDefault h₁
        rw [h_default, h_limit rfl]
        exact h_limit_same
      have h_fits : made.bucketKey id' ≠ key := by
        have h_key : made.bucketKey id' = newBackend.bucketKey id' := by
          unfold RedisClient.bucketKey
          rw [h_made.keyPrefix, h_made.modelFamily]
        rw [h_key]
        simpa only [Fits, if_neg h_ne] using h_fits
      rw [h_view] at h_other
      exact congrArg LimitView.override (h_other h_fits)
    · refine ⟨h_made' ⟨made.caches, rfl⟩, ?_⟩
      rw [h_same]
      exact Committed.refl _
  | added id' limit' =>
    rw [h_target] at h_fits
    refine (commitBucketSnapshot_rebuilt plan).bind fun owner s₁ h₁ => ?_
    refine ⟨made_setConfigured (made_of_isRebuilt h_made h₁.2) h_fits, ?_⟩
    show Committed id limit _ (s₁.limitView key)
    rw [h₁.1]
    exact Committed.refl _

theorem commitPlans_brings {made : RedisClient} (stack : LockStack)
    (plans : List BucketSnapshotPlan) (h_made : Made newBackend id limit made)
    (h_fits : ∀ plan ∈ plans, Fits newBackend key id limit plan.target plan.key) :
    Brings key (fun made' v => Made newBackend id limit made' ∧
        Committed id limit (s.limitView key) v) (commitPlans stack made plans) s := by
  induction plans generalizing s made with
  | nil => exact ⟨h_made, Committed.refl _⟩
  | cons plan plans ih =>
    refine (extendLocks_harmless stack).brings_bind fun _ s₁ h₁ => ?_
    refine (commitPlan_brings plan h_made (h_fits plan List.mem_cons_self)).bind
      fun made₂ s₂ h₂ => ?_
    refine (ih h₂.1 fun plan' h_mem => h_fits plan' (List.mem_cons_of_mem _ h_mem)).mono
      fun made₃ v h₃ => ⟨h₃.1, ?_⟩
    rw [← h₁]
    exact h₂.2.trans h₃.2

/-- The limits a prepared rebuild leaves: the attributes of the new backend, and the
    override of a bucket whose limit is the old one. -/
structure Prepared (newBackend : RedisClient) (id : BucketId) (limit : MaxCapacity)
    (v v' : LimitView) : Prop where
  keyPrefix : v'.keyPrefix = newBackend.keyPrefix
  modelFamily : v'.modelFamily = newBackend.modelFamily
  sortedBuckets : v'.sortedBuckets = newBackend.sortedBuckets
  configured : v'.maxCapacityDefault id = limit
  override : v.maxCapacityDefault id = limit → v'.override = v.override

theorem installReconfiguredState_brings {made : RedisClient} {v : LimitView}
    (h_made : Made newBackend id limit made) (h_committed : Committed id limit v (s.limitView key)) :
    Brings key (fun _ v' => Prepared newBackend id limit v v') (installReconfiguredState made) s := by
  refine client_bind fun s₁ h₁ _ => ?_
  split
  · exact Leads.throw
  · refine send_brings fun turn s₂ h₂ _ => ?_
    obtain ⟨override, h_view, h_kept⟩ := h_committed
    refine ⟨h_made.keyPrefix, h_made.modelFamily, h_made.sortedBuckets, h_made.configured, ?_⟩
    intro h_limit
    have h_override : s₂.server.maxCapacityOverride key = override := by
      have h_same : s₂.limitView key = { v with override := override } := by
        rw [h₂, h₁, h_view]
      exact congrArg LimitView.override h_same
    exact h_override.trans (h_kept h_limit)

/-- The targets of a rebuild that keeps the bucket. -/
theorem rebuildTargets_fits {quotas : List (BucketId × MaxCapacity)}
    {targets : List RebuildTarget} (h_mem : id ∈ newBackend.sortedBuckets)
    (h_quotas : ∀ quota ∈ quotas, quota.1 = id → quota.2 = limit)
    (h_ok : rebuildTargets current newBackend quotas = .ok targets) :
    ∀ target ∈ targets, Fits newBackend (current.bucketKey id) id limit target
      (target.key current newBackend) := by
  have h_ne {client : RedisClient} {id' : BucketId} (h_ne : id' ≠ id) :
      client.bucketKey id' ≠ current.bucketKey id := fun h_eq =>
    h_ne (congrArg BucketKey.id h_eq)
  unfold rebuildTargets at h_ok
  simp only at h_ok
  split at h_ok
  · cases h_ok
  · cases h_ok
    intro target h_target
    rcases List.mem_append.mp h_target with h_removed | h_quota
    · obtain ⟨id', h_id', rfl⟩ := List.mem_map.mp h_removed
      rw [List.mem_filter] at h_id'
      refine h_ne ?_
      rintro rfl
      simp [h_mem] at h_id'
    · obtain ⟨⟨id', limit'⟩, h_item, rfl⟩ := List.mem_map.mp h_quota
      have h_limit := h_quotas _ h_item
      simp only
      split
      · show if id' = id then limit' = limit else newBackend.bucketKey id' ≠ _
        by_cases h_eq : id' = id
        · rw [if_pos h_eq]
          exact h_limit h_eq
        · rw [if_neg h_eq]
          exact h_ne h_eq
      · exact h_limit

theorem prepareReconfiguredBackend_brings {quotas : List (BucketId × MaxCapacity)}
    (h_key : key = s.client.bucketKey id) (h_mem : id ∈ newBackend.sortedBuckets)
    (h_limit : newBackend.maxCapacityDefault id = limit)
    (h_quotas : ∀ quota ∈ quotas, quota.1 = id → quota.2 = limit) :
    Brings key (fun _ v => Prepared newBackend id limit (s.limitView key) v)
      (prepareReconfiguredBackend newBackend quotas) s := by
  refine client_bind fun s₁ h₁ _ => ?_
  refine Brings.bind (m := fun _ v => Prepared newBackend id limit (s.limitView key) v)
    (withLocks_brings (lockOrContention_harmless _) fun stack s₂ h₂ => ?_) fun _ s₂ h₂ => ?_
  · refine Leads.bind (m := fun targets s' => s' = s₂ ∧
      rebuildTargets s.client newBackend quotas = .ok targets)
      (Leads.lift fun _ h_ok => ⟨rfl, h_ok⟩) fun targets s₃ h₃ => ?_
    obtain ⟨rfl, h_ok⟩ := h₃
    have h_fits := rebuildTargets_fits h_mem h_quotas h_ok
    rw [← h_key] at h_fits
    refine (prepareSnapshots_brings stack targets h_fits).bind fun plans s₄ h₄ => ?_
    have h_made : Made newBackend id limit newBackend := ⟨rfl, rfl, rfl, h_limit⟩
    refine (commitPlans_brings stack plans h_made h₄.2).bind fun made s₅ h₅ => ?_
    refine (extendLocks_harmless stack).brings_bind fun _ s₆ h₆ => ?_
    refine installReconfiguredState_brings h₅.1 ?_
    rw [h₆, ← h₁, ← h₂, ← h₄.1]
    exact h₅.2
  · refine ((send_harmless rfl).brings s₂).mono fun _ v h_same => ?_
    rw [h_same]
    exact h₂

/-! ## Restoring the runtime limits -/

theorem validated_eq {value value' : MaxCapacity}
    (h_ok : validateMaxCapacityFinitePositive value.value = .ok value') : value' = value := by
  unfold validateMaxCapacityFinitePositive at h_ok
  rw [dif_pos value.min_le] at h_ok
  cases h_ok
  rfl

/-- The limits after a runtime limit was written under some key. -/
def Overrode (k key : BucketKey) (value : MaxCapacity) (v v' : LimitView) : Prop :=
  (k = key → v' = v.overriding k.id value) ∧ (k ≠ key → v' = v)

theorem Overrode.of_eq {k : BucketKey} {value : MaxCapacity} {v w v' w' : LimitView}
    (h_overrode : Overrode k key value v v') (h_before : v = w) (h_after : w' = v') :
    Overrode k key value w w' := by
  subst h_before h_after
  exact h_overrode

theorem setOverride_brings (k : BucketKey) (value : MaxCapacity) (record : OverrideRecord)
    (expiresAt : ℚ)
    (h_record : record = ⟨(s.limitView key).maxCapacityDefault k.id, value⟩) :
    Brings key (fun _ v => Overrode k key value (s.limitView key) v)
      (send (.setOverride k record expiresAt)) s := by
  refine send_brings fun turn s' h_same _ => ?_
  rw [← h_same] at h_record ⊢
  subst h_record
  have h_view (o : Option OverrideRecord) (h_o : Function.update s'.server.maxCapacityOverride k
      (some ⟨(s'.limitView key).maxCapacityDefault k.id, value⟩) key = o) :
      (s'.execute turn (.setOverride k ⟨(s'.limitView key).maxCapacityDefault k.id, value⟩
        expiresAt)).2.limitView key = { s'.limitView key with override := o } := by
    rw [← h_o]
    rfl
  refine ⟨fun h_key => ?_, fun h_key => ?_⟩
  · subst h_key
    rw [h_view _ (Function.update_self _ _ _)]
    rfl
  · rw [h_view _ (Function.update_of_ne (Ne.symm h_key) _ _)]
    rfl

/-- The override of a bucket is written under the configured limit of the process. -/
theorem bucketSetMaxCapacity_brings (k : BucketKey) (value : MaxCapacity) :
    Brings key (fun _ v => Overrode k key value (s.limitView key) v)
      (RedisBucket.setMaxCapacity k value) s := by
  refine Harmless.brings_bind (send_harmless rfl) fun currentTime s₁ h₁ => ?_
  refine client_bind fun s₂ h₂ _ => ?_
  have h_same : s₂.limitView key = s.limitView key := h₂.trans h₁
  have h_record : RedisBucket.overrideRecord s₁.client k.id value =
      ⟨(s₂.limitView key).maxCapacityDefault k.id, value⟩ := by
    rw [h₂]
    rfl
  refine (setOverride_brings k value _ _ h_record).bind fun _ s₃ h₃ => ?_
  refine (Harmless.brings (send_harmless rfl) s₃).mono fun _ v h_v => ?_
  exact h₃.of_eq h_same h_v

theorem setMaxCapacity_brings (id' : BucketId) (value : MaxCapacity) :
    Brings key (fun _ v => Overrode (s.client.bucketKey id') key value (s.limitView key) v)
      (setMaxCapacity id' value.value) s := by
  refine client_bind fun s₁ h₁ _ => ?_
  by_cases h_mem : id' ∉ s.client.sortedBuckets
  · rw [if_pos h_mem]
    exact Leads.throw
  · rw [if_neg h_mem]
    refine Brings.bind
      (m := fun _ v => Overrode (s.client.bucketKey id') key value (s.limitView key) v)
      (withLocks_brings (lockOrContention_harmless _) fun stack s₂ h₂ => ?_) fun _ s₂ h₂ => ?_
    · refine (extendLocks_harmless stack).brings_bind fun _ s₃ h₃ => ?_
      refine Leads.bind (m := fun value' s' => s' = s₃ ∧ value' = value)
        (Leads.lift fun value' h_ok => ⟨rfl, validated_eq h_ok⟩) fun value' s₄ h₄ => ?_
      obtain ⟨rfl, rfl⟩ := h₄
      refine (snapshotBucketState_harmless _ _).brings_bind fun _ s₅ h₅ => ?_
      have h_same : s₅.limitView key = s.limitView key := by rw [h₅, h₃, h₂, h₁]
      refine (bucketSetMaxCapacity_brings _ value').mono fun _ v h_v => ?_
      exact h_v.of_eq h_same rfl
    · refine (Harmless.brings (send_harmless rfl) s₂).mono fun _ v h_v => ?_
      exact h₂.of_eq rfl h_v

end RedisBackend

/-- The limits once the runtime limit a limiter remembers has been put back. -/
def LimitView.restored (v : LimitView) (id : BucketId) (value : Option MaxCapacity) : LimitView :=
  match value with
  | none => v
  | some value => v.overriding id value

section Restore

variable {key : BucketKey} {s : Session} {id : BucketId} {limit : MaxCapacity}
  {oldSnapshot newSnapshot : UsageQuotas}

/-- Only the item of the bucket itself changes its limits. -/
theorem restoreRuntimeMaxCapacity_brings (overrides : List (BucketId × MaxCapacity))
    (h_nodup : (overrides.map Prod.fst).Nodup) (h_key : key = s.client.bucketKey id)
    (h_keeps : keepsQuota oldSnapshot newSnapshot id = true) :
    Brings key (fun _ v => v = (s.limitView key).restored id (overrides.lookup id))
      (restoreRuntimeMaxCapacity RedisBackend.setMaxCapacity oldSnapshot newSnapshot overrides)
      s := by
  induction overrides generalizing s with
  | nil => exact Leads.pure rfl
  | cons item overrides ih =>
    obtain ⟨id', value⟩ := item
    rw [List.map_cons, List.nodup_cons] at h_nodup
    have h_rest {s' : Session} (h_pre : s'.client.keyPrefix = s.client.keyPrefix)
        (h_family : s'.client.modelFamily = s.client.modelFamily) :=
      ih (s := s') h_nodup.2 (by
        rw [h_key]
        unfold RedisClient.bucketKey
        rw [h_pre, h_family])
    by_cases h_eq : id' = id
    · subst h_eq
      have h_absent : overrides.lookup id' = none := by
        rw [List.lookup_eq_none_iff]
        intro item h_mem
        rw [bne_iff_ne]
        rintro rfl
        exact h_nodup.1 (List.mem_map.mpr ⟨item, h_mem, rfl⟩)
      have h_lookup : List.lookup id' ((id', value) :: overrides) = some value := by
        rw [List.lookup_cons, beq_self_eq_true]
      have h_set : Brings key (fun _ v => v = (s.limitView key).overriding id' value)
          (Program.when (keepsQuota oldSnapshot newSnapshot id')
            (RedisBackend.setMaxCapacity id' value.value)) s := by
        rw [h_keeps]
        exact (RedisBackend.setMaxCapacity_brings id' value).mono fun _ v h_v => h_v.1 h_key.symm
      refine h_set.bind fun _ s' h_view => ?_
      have h_same := h_rest (congrArg LimitView.keyPrefix h_view)
        (congrArg LimitView.modelFamily h_view)
      rw [h_absent, h_view] at h_same
      rw [h_lookup]
      exact h_same
    · have h_lookup : List.lookup id ((id', value) :: overrides) = overrides.lookup id := by
        rw [List.lookup_cons, beq_false_of_ne (Ne.symm h_eq)]
      have h_ne : s.client.bucketKey id' ≠ key := by
        rw [h_key]
        exact fun h_keys => h_eq (congrArg BucketKey.id h_keys)
      have h_set : Brings key (fun _ v => v = s.limitView key)
          (Program.when (keepsQuota oldSnapshot newSnapshot id')
            (RedisBackend.setMaxCapacity id' value.value)) s := by
        cases keepsQuota oldSnapshot newSnapshot id' with
        | true => exact (RedisBackend.setMaxCapacity_brings id' value).mono fun _ v h_v => h_v.2 h_ne
        | false => exact Leads.pure rfl
      refine h_set.bind fun _ s' h_view => ?_
      have h_same := h_rest (congrArg LimitView.keyPrefix h_view)
        (congrArg LimitView.modelFamily h_view)
      rw [h_view] at h_same
      rw [h_lookup]
      exact h_same

end Restore

/-! ## The limits after a rebuild -/

/-- The limits a rebuild that goes through leaves a bucket with an unchanged quota. -/
def Rebuilt (id : BucketId) (limit : MaxCapacity) (remembered : Option MaxCapacity)
    (v v' : LimitView) : Prop :=
  ∃ v₁ : LimitView, (v₁.keyPrefix = v.keyPrefix ∧ v₁.modelFamily = v.modelFamily) ∧
    v₁.maxCapacityDefault id = limit ∧
    (v.maxCapacityDefault id = limit → v₁.override = v.override) ∧ v' = v₁.restored id remembered

section Rebuild

variable {builder : RedisBackendBuilder} {entry : FamilyEntry} {oldSnapshot newSnapshot : UsageQuotas}
  {s : Session} {id : BucketId} {limit : MaxCapacity}

theorem rebuildBackend_brings (h_pre : builder.keyPrefix = s.client.keyPrefix)
    (h_family : builder.modelFamily = s.client.modelFamily)
    (h_old : oldSnapshot.get id = some limit) (h_new : newSnapshot.get id = some limit) :
    Brings (s.client.bucketKey id)
      (fun _ v => Rebuilt id (preservedLimit oldSnapshot entry.runtimeMaxCapacity id limit)
        (entry.runtimeMaxCapacity.get id) (s.limitView (s.client.bucketKey id)) v)
      (rebuildBackend (redisMethods builder) entry oldSnapshot newSnapshot) s := by
  have h_cfg : (cfgWithPreservedRuntimeMaxCapacity newSnapshot oldSnapshot
      entry.runtimeMaxCapacity).get id =
        some (preservedLimit oldSnapshot entry.runtimeMaxCapacity id limit) := by
    unfold cfgWithPreservedRuntimeMaxCapacity
    rw [OrderedDict.get_mapValues, h_new]
    rfl
  have h_keeps : keepsQuota oldSnapshot newSnapshot id = true := by
    simp [keepsQuota, h_old, h_new]
  -- from here only what the new quotas give the bucket counts, not how they were made
  generalize h_quotas : cfgWithPreservedRuntimeMaxCapacity newSnapshot oldSnapshot
    entry.runtimeMaxCapacity = cfg at h_cfg
  generalize preservedLimit oldSnapshot entry.runtimeMaxCapacity id limit = limit' at h_cfg ⊢
  have h_rebuild : rebuildBackend (redisMethods builder) entry oldSnapshot newSnapshot = (do
      let backend ← builder.build cfg
      let backend ← RedisBackend.prepareReconfiguredBackend backend cfg.items
      restoreRuntimeMaxCapacity RedisBackend.setMaxCapacity oldSnapshot newSnapshot
        entry.runtimeMaxCapacity.items
      return backend) := by
    rw [← h_quotas]
    rfl
  rw [h_rebuild]
  have h_build : Brings (s.client.bucketKey id) (fun backend v => backend = builder.built cfg ∧
      v = s.limitView (s.client.bucketKey id)) (builder.build cfg) s :=
    Harmless.brings_bind (send_harmless rfl) fun _ s' h_same => Leads.pure ⟨rfl, h_same⟩
  refine h_build.bind fun backend s₁ h₁ => ?_
  obtain ⟨rfl, h_same⟩ := h₁
  have h_client_pre : s₁.client.keyPrefix = s.client.keyPrefix :=
    congrArg LimitView.keyPrefix h_same
  have h_client_family : s₁.client.modelFamily = s.client.modelFamily :=
    congrArg LimitView.modelFamily h_same
  have h_limit : (builder.built cfg).maxCapacityDefault id = limit' := by
    show (cfg.get id).getD builder.absent = limit'
    rw [h_cfg]
    rfl
  have h_key₁ : s.client.bucketKey id = s₁.client.bucketKey id := by
    unfold RedisClient.bucketKey
    rw [h_client_pre, h_client_family]
  have h_mem : id ∈ (builder.built cfg).sortedBuckets := by
    rw [RedisBackendBuilder.mem_sortedBuckets, h_cfg]
    rfl
  have h_items : ∀ quota ∈ cfg.items, quota.1 = id → quota.2 = limit' := by
    rintro ⟨id', value⟩ h_item rfl
    have h_get := OrderedDict.mem_items_iff.mp h_item
    rw [h_cfg] at h_get
    exact (Option.some.inj h_get).symm
  -- three stages, each named by what it leaves of the bucket: build, prepare, restore
  have h_prepared := RedisBackend.prepareReconfiguredBackend_brings h_key₁ h_mem h_limit h_items
  rw [h_same] at h_prepared
  refine h_prepared.bind fun _ s₂ h₂ => ?_
  have h_key₂ : s.client.bucketKey id = s₂.client.bucketKey id := by
    have h_pre₂ : s₂.client.keyPrefix = builder.keyPrefix := h₂.keyPrefix
    have h_family₂ : s₂.client.modelFamily = builder.modelFamily := h₂.modelFamily
    unfold RedisClient.bucketKey
    rw [h_pre₂, h_family₂, h_pre, h_family]
  refine (restoreRuntimeMaxCapacity_brings _ entry.runtimeMaxCapacity.nodup h_key₂ h_keeps).bind
    fun _ s₃ h₃ => Leads.pure ?_
  exact ⟨_, ⟨h₂.keyPrefix.trans h_pre, h₂.modelFamily.trans h_family⟩, h₂.configured,
    h₂.override, h₃⟩

/-- A rebuild that has gone through. -/
theorem syncChangedMetricSet_rebuilt {turns : List Turn} {entry' : FamilyEntry} {s' : Session}
    (h_pre : builder.keyPrefix = s.client.keyPrefix)
    (h_family : builder.modelFamily = s.client.modelFamily)
    (h_old : oldSnapshot.get id = some limit) (h_new : newSnapshot.get id = some limit)
    (h_turns : ∀ turn ∈ turns, turn.LeavesOverride (s.client.bucketKey id))
    (h_run : (syncChangedMetricSet (redisMethods builder) entry oldSnapshot newSnapshot).run
      Session.serve turns s = some (.ok (entry', .ok ()), s')) :
    Rebuilt id (preservedLimit oldSnapshot entry.runtimeMaxCapacity id limit)
      (entry.runtimeMaxCapacity.get id) (s.limitView (s.client.bucketKey id))
      (s'.limitView (s.client.bucketKey id)) := by
  have h_sync : (syncChangedMetricSet (redisMethods builder) entry oldSnapshot newSnapshot).Leads
      Session.serve (Turn.LeavesOverride (s.client.bucketKey id)) _ s :=
    syncChangedMetricSet_leads (rebuildBackend_brings h_pre h_family h_old h_new)
  exact run_of_follows h_sync h_turns h_run () rfl

end Rebuild

/-- A process computes the override while it is live, and the limit once it has expired. -/
def RedisClient.Computes (client : RedisClient) (id : BucketId) (limit override : MaxCapacity)
    (raw : Option OverrideRecord) : Prop :=
  client.effectiveMaxCapacity id raw = override ∧ client.effectiveMaxCapacity id none = limit

/-- The process of the session computes so, and so do its peers with that limit. -/
def Session.PreservesLimit (s : Session) (id : BucketId) (limit override : MaxCapacity) : Prop :=
  s.client.Computes id limit override (s.server.maxCapacityOverride (s.client.bucketKey id)) ∧
    ∀ peer : RedisClient, peer.maxCapacityDefault id = limit →
      peer.Computes id limit override (s.server.maxCapacityOverride (s.client.bucketKey id))

/-- A bucket with a live runtime override that keeps its quota in a rebuild. -/
structure OverriddenBucket (builder : RedisBackendBuilder) (s : Session)
    (oldSnapshot newSnapshot : UsageQuotas) (id : BucketId) (limit override : MaxCapacity) :
    Prop where
  keyPrefix : builder.keyPrefix = s.client.keyPrefix
  modelFamily : builder.modelFamily = s.client.modelFamily
  old : oldSnapshot.get id = some limit
  new : newSnapshot.get id = some limit
  configured : s.client.maxCapacityDefault id = limit
  live : s.client.deserializeMaxCapacityOverride id
    (s.server.maxCapacityOverride (s.client.bucketKey id)) = some override

theorem effectiveMaxCapacity_none (client : RedisClient) (id : BucketId) :
    client.effectiveMaxCapacity id none = client.maxCapacityDefault id := rfl

/-- What a process computes depends on its configured limit only. -/
theorem effectiveMaxCapacity_congr {client peer : RedisClient} {id : BucketId}
    (h_limit : peer.maxCapacityDefault id = client.maxCapacityDefault id)
    (raw : Option OverrideRecord) :
    peer.effectiveMaxCapacity id raw = client.effectiveMaxCapacity id raw := by
  unfold RedisClient.effectiveMaxCapacity RedisClient.deserializeMaxCapacityOverride
  rw [h_limit]

theorem effectiveMaxCapacity_anchored {client : RedisClient} {id : BucketId}
    {limit value : MaxCapacity} (h_limit : client.maxCapacityDefault id = limit) :
    client.effectiveMaxCapacity id (some ⟨limit, value⟩) = value := by
  unfold RedisClient.effectiveMaxCapacity RedisClient.deserializeMaxCapacityOverride
  rw [h_limit]
  simp [isclose_self]

/-- The rebuild of a bucket with a live override leaves its limits exactly when the limiter
    remembers no runtime limit, or one that changes nothing. -/
theorem Rebuilt.preservesLimit_iff {s s' : Session} {id : BucketId}
    {limit override : MaxCapacity} {oldSnapshot : UsageQuotas} {remembered : RuntimeMaxCapacity}
    (h_old : oldSnapshot.get id = some limit) (h_configured : s.client.maxCapacityDefault id = limit)
    (h_live : s.client.deserializeMaxCapacityOverride id
      (s.server.maxCapacityOverride (s.client.bucketKey id)) = some override)
    (h_rebuilt : Rebuilt id (preservedLimit oldSnapshot remembered id limit) (remembered.get id)
      (s.limitView (s.client.bucketKey id)) (s'.limitView (s.client.bucketKey id))) :
    s'.PreservesLimit id limit override ↔
      remembered.get id = none ∨ (remembered.get id = some limit ∧ override = limit) := by
  obtain ⟨v, ⟨h_pre, h_family⟩, h_default, h_kept, h_view⟩ := h_rebuilt
  have h_key : s'.client.bucketKey id = s.client.bucketKey id := by
    have h_same : s'.client.keyPrefix = v.keyPrefix ∧ s'.client.modelFamily = v.modelFamily := by
      have h_attributes : (v.restored id (remembered.get id)).keyPrefix = v.keyPrefix ∧
          (v.restored id (remembered.get id)).modelFamily = v.modelFamily := by
        cases remembered.get id <;> exact ⟨rfl, rfl⟩
      rw [← h_view] at h_attributes
      exact h_attributes
    unfold RedisClient.bucketKey
    rw [h_same.1, h_same.2, h_pre, h_family]
    rfl
  have h_default' : s'.client.maxCapacityDefault id = v.maxCapacityDefault id := by
    have h_attribute : (v.restored id (remembered.get id)).maxCapacityDefault =
        v.maxCapacityDefault := by
      cases remembered.get id <;> rfl
    rw [← h_attribute, ← h_view]
    rfl
  have h_record : s'.server.maxCapacityOverride (s.client.bucketKey id) =
      (v.restored id (remembered.get id)).override := congrArg LimitView.override h_view
  unfold Session.PreservesLimit RedisClient.Computes
  rw [h_key, h_record, effectiveMaxCapacity_none, h_default', h_default]
  cases h_remembered : remembered.get id with
  | none =>
    -- the record and the limit are the ones before the rebuild
    have h_limit : preservedLimit oldSnapshot remembered id limit = limit := by
      unfold preservedLimit
      rw [h_remembered]
    rw [h_limit] at h_default ⊢
    have h_same : v.override = s.server.maxCapacityOverride (s.client.bucketKey id) :=
      h_kept (h_configured.trans h_limit.symm)
    have h_effective {client : RedisClient} (h_client : client.maxCapacityDefault id = limit) :
        client.effectiveMaxCapacity id v.override = override := by
      rw [effectiveMaxCapacity_congr (h_client.trans h_configured.symm), h_same]
      unfold RedisClient.effectiveMaxCapacity
      rw [h_live]
      rfl
    exact iff_of_true ⟨⟨h_effective (h_default'.trans h_default), rfl⟩,
      fun peer h_peer => ⟨h_effective h_peer, h_peer⟩⟩ (.inl rfl)
  | some value =>
    have h_limit : preservedLimit oldSnapshot remembered id limit = value := by
      unfold preservedLimit
      rw [h_remembered, h_old]
      simp
    rw [h_limit] at h_default ⊢
    have h_restored : (v.restored id (some value)).override = some ⟨value, value⟩ := by
      show some (OverrideRecord.mk (v.maxCapacityDefault id) value) = _
      rw [h_default]
    rw [h_restored, effectiveMaxCapacity_anchored (h_default'.trans h_default)]
    constructor
    · rintro ⟨⟨rfl, rfl⟩, _⟩
      exact .inr ⟨rfl, rfl⟩
    · rintro (h_none | ⟨h_some, rfl⟩)
      · cases h_none
      · cases h_some
        exact ⟨⟨rfl, rfl⟩, fun peer h_peer => ⟨effectiveMaxCapacity_anchored h_peer, h_peer⟩⟩

/-- A rebuild that goes through preserves the limits of a bucket with a live override and
    an unchanged quota exactly when the limiter remembers no runtime limit of the bucket,
    or remembered limit, override and quota are all the same. -/
theorem syncChangedMetricSet_preservesLimit_iff {builder : RedisBackendBuilder}
    {entry entry' : FamilyEntry} {oldSnapshot newSnapshot : UsageQuotas} {s s' : Session}
    {id : BucketId} {limit override : MaxCapacity} {turns : List Turn}
    (h_bucket : OverriddenBucket builder s oldSnapshot newSnapshot id limit override)
    (h_turns : ∀ turn ∈ turns, turn.LeavesOverride (s.client.bucketKey id))
    (h_run : (syncChangedMetricSet (redisMethods builder) entry oldSnapshot newSnapshot).run
      Session.serve turns s = some (.ok (entry', .ok ()), s')) :
    s'.PreservesLimit id limit override ↔
      entry.runtimeMaxCapacity.get id = none ∨
        (entry.runtimeMaxCapacity.get id = some limit ∧ override = limit) :=
  Rebuilt.preservesLimit_iff h_bucket.old h_bucket.configured h_bucket.live
    (syncChangedMetricSet_rebuilt h_bucket.keyPrefix h_bucket.modelFamily h_bucket.old h_bucket.new
      h_turns h_run)

/-! ## A bucket is added -/

/-- The runtime limit of the example, below a quota of 100. -/
theorem minMaxCapacity_le_fifty : minMaxCapacity ≤ 50 := by decide +kernel

def runtime50 : MaxCapacity := ⟨50, minMaxCapacity_le_fifty⟩

def requestsPerMinute : BucketId := ⟨"requests", 60, tokensPerMinute.perSeconds_pos⟩

def tokensOnly : UsageQuotas := ⟨[(tokensPerMinute, oneHundred)], by decide⟩

/-- What the limiter remembers when it has set the runtime limit itself. -/
def tokensAt50 : RuntimeMaxCapacity := ⟨[(tokensPerMinute, runtime50)], by decide⟩

def tokensAndRequests : UsageQuotas :=
  ⟨[(tokensPerMinute, oneHundred), (requestsPerMinute, runtime50)], by decide⟩

def exampleBuilder : RedisBackendBuilder where
  keyPrefix := "limits"
  modelFamily := "m"
  bucketTtlSeconds := 600
  overrideTtlSeconds := 600
  callbacks _ := false
  absent := oneHundred

/-- A backend for the tokens, whose limit has been set to 50. -/
def overriddenTokens : Session where
  server := RedisServer.empty.putOverride (.mk "limits" "m" tokensPerMinute)
    (some ⟨oneHundred, runtime50⟩) none
  client := exampleBuilder.built tokensOnly

/-- A turn in which nothing else happens. -/
def quietTurn : Turn := ⟨id, 0, 0, .answered⟩

theorem overriddenTokens_bucket : OverriddenBucket exampleBuilder overriddenTokens tokensOnly
    tokensAndRequests tokensPerMinute oneHundred runtime50 :=
  ⟨rfl, rfl, by decide +kernel, by decide +kernel, by decide +kernel, by decide +kernel⟩

theorem quietTurns_leaveOverride (n : ℕ) (key : BucketKey) :
    ∀ turn ∈ List.replicate n quietTurn, turn.LeavesOverride key := by
  intro turn h_mem server
  rw [List.eq_of_mem_replicate h_mem]
  rfl

/-- The rebuild that adds the requests, with what the limiter remembers of the tokens. -/
def addRequests (remembered : RuntimeMaxCapacity) :
    Option (Except BackendError (FamilyEntry × Except BackendError Unit) × Session) :=
  (syncChangedMetricSet (redisMethods exampleBuilder) ⟨none, remembered⟩ tokensOnly
    tokensAndRequests).run Session.serve (List.replicate 100 quietTurn) overriddenTokens

/-- The rebuild goes through and leaves the process this limit of the tokens. -/
def leavesLimit (limit : MaxCapacity) :
    Except BackendError (FamilyEntry × Except BackendError Unit) × Session → Bool
  | (.ok (_, .ok ()), s) => s.client.maxCapacityDefault tokensPerMinute = limit
  | _ => false

theorem exists_rebuilt_of_leavesLimit {remembered : RuntimeMaxCapacity} {limit : MaxCapacity}
    (h_leaves : (addRequests remembered).any (leavesLimit limit) = true) :
    ∃ entry s', addRequests remembered = some (.ok (entry, .ok ()), s') ∧
      s'.client.maxCapacityDefault tokensPerMinute = limit := by
  obtain ⟨⟨result, s'⟩, h_run, h_limit⟩ := (Option.any_eq_true _ _).mp h_leaves
  match result, h_limit with
  | .ok (entry, .ok ()), h_limit => exact ⟨entry, s', h_run, of_decide_eq_true h_limit⟩

/-- A limit that a peer has set survives the rebuild. -/
theorem syncChangedMetricSet_preservesLimit_peer :
    ∃ entry s', addRequests .empty = some (.ok (entry, .ok ()), s') ∧
      s'.PreservesLimit tokensPerMinute oneHundred runtime50 := by
  obtain ⟨entry, s', h_run, _⟩ : ∃ entry s', addRequests .empty =
      some (.ok (entry, .ok ()), s') ∧ s'.client.maxCapacityDefault tokensPerMinute = oneHundred :=
    exists_rebuilt_of_leavesLimit (by decide +kernel)
  refine ⟨entry, s', h_run, ?_⟩
  unfold addRequests at h_run
  exact (syncChangedMetricSet_preservesLimit_iff overriddenTokens_bucket
    (quietTurns_leaveOverride 100 _) h_run).mpr (.inl rfl)

/-- A limit the rebuilding limiter has set itself becomes its quota: once the override has
    expired it computes 50 where the configuration says 100. -/
theorem addRequests_losesLimit :
    ∃ (entry : FamilyEntry) (s' : Session),
      OverriddenBucket exampleBuilder overriddenTokens tokensOnly tokensAndRequests
        tokensPerMinute oneHundred runtime50 ∧
      addRequests tokensAt50 = some (.ok (entry, .ok ()), s') ∧
      s'.client.effectiveMaxCapacity tokensPerMinute none = runtime50 ∧
      ¬ s'.PreservesLimit tokensPerMinute oneHundred runtime50 := by
  obtain ⟨entry, s', h_run, h_limit⟩ : ∃ entry s', addRequests tokensAt50 =
      some (.ok (entry, .ok ()), s') ∧ s'.client.maxCapacityDefault tokensPerMinute = runtime50 :=
    exists_rebuilt_of_leavesLimit (by decide +kernel)
  refine ⟨entry, s', overriddenTokens_bucket, h_run, h_limit, fun h_preserves => ?_⟩
  have h_expired : s'.client.maxCapacityDefault tokensPerMinute = oneHundred := h_preserves.1.2
  rw [h_limit] at h_expired
  exact absurd h_expired (by decide +kernel)

end TokenThrottle
