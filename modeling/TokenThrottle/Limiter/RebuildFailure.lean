/-
  TokenThrottle.Limiter.RebuildFailure

  What a rebuild that raises leaves behind: the quota snapshot a limiter has recorded
  for a family against the backend it has cached for it.

  * The limiter takes back its own snapshot only.  A backend is switched to the new
    bucket set (memory, Redis) or closed (SQLite) by one of its commands, and nothing
    takes that back.
  * The three backends give the same system its commands, its server and the command
    that switches; the rest is proved once.
-/
import Mathlib.Logic.Relation
import TokenThrottle.Limiter.RebuildLimits
import TokenThrottle.Memory.Reconfigure
import TokenThrottle.Redis.Footprint
import TokenThrottle.Sqlite.Reconfigure

namespace TokenThrottle

open Theory (Program OrderedDict Run)
open Theory.Program

/-! ## Backends -/

/-- What a limiter relies on of the backend it has cached. -/
@[ext] structure BackendView where
  bucketIds : Finset BucketId
  isOpen : Bool

/-- A backend as a rebuild meets it. -/
structure RebuildBackend where
  Command : Type
  Response : Command → Type
  Session : Type
  Turn : Type
  serve : Turn → (command : Command) → Session → Except BackendError (Response command) × Session
  /-- The other tasks of a turn leave the cached backend what it is. -/
  undisturbed : Turn → Prop
  methods : RebuildMethods Command Response
  /-- The cached backend. -/
  view : Session → BackendView
  /-- `_model_family_to_backend[family] = backend` -/
  cache : methods.Reconfigured → Session → Session
  /-- The command has switched the live backend, or closed it. -/
  switched : Served Command Response BackendError Session Turn → Prop
  /-- What that leaves of the cached backend. -/
  leaves : UsageQuotas → BackendView → BackendView

/-- `MemoryBackend`: `install_reconfigured_state` ends the preparation. -/
def memoryRebuild : RebuildBackend where
  Command := MemoryCommand
  Response := MemoryCommand.Response
  Session := MemoryBackend
  Turn := MemoryTurn
  serve := MemoryBackend.serve
  undisturbed turn := ∀ s, (turn.others s).buckets = s.buckets
  methods :=
    { Built := Unit
      Reconfigured := Unit
      build _ := .perform .suspend
      prepareReconfiguredBackend _ cfg := .perform (.prepareReconfiguredBackend cfg.items)
      setMaxCapacity _ id value := .perform (.setMaxCapacity id value)
      applyConfiguredMaxCapacity := MemoryBackend.applyConfiguredMaxCapacityProgram
      sharesOverrides := false }
  view s := ⟨s.bucketIds, true⟩
  cache _ s := s
  switched step := (∃ quotas, step.command = .prepareReconfiguredBackend quotas) ∧
    step.answer = .ok ()
  leaves quotas v := { v with bucketIds := quotas.keys }

/-- `SqliteBackend`: `aclose` marks the cached backend closed. -/
def sqliteRebuild (builder : SqliteBackendBuilder) : RebuildBackend where
  Command := SqliteCommand
  Response := SqliteCommand.Response
  Session := SqliteSession
  Turn := SqliteTurn
  serve := SqliteSession.serve
  undisturbed _ := True
  methods :=
    { Built := SqliteEngine
      Reconfigured := SqliteEngine
      build := builder.build
      prepareReconfiguredBackend := SqliteBackend.prepareReconfiguredBackend
      setMaxCapacity _ := SqliteBackend.setMaxCapacityProgram
      applyConfiguredMaxCapacity := SqliteBackend.applyConfiguredMaxCapacityProgram
      sharesOverrides := true }
  view s := ⟨s.cached.engine.bucketIds, !s.cached.closed⟩
  cache engine s := { s with cached := ⟨engine, false⟩ }
  switched step := step.command = .beginClose ∧ ∀ e, step.turn.delivery ≠ .refused e
  leaves _ v := { v with isOpen := false }

/-- `RedisBackend`: `install_reconfigured_state` ends the work under the locks. -/
def redisRebuild (builder : RedisBackendBuilder) : RebuildBackend where
  Command := Command
  Response := Command.Response
  Session := Session
  Turn := Turn
  serve := Session.serve
  undisturbed _ := True
  methods := redisMethods builder
  view s := ⟨s.client.sortedBuckets.toFinset, true⟩
  cache _ s := s
  switched step := step.command.keepsBuckets = false ∧ ∀ e, step.turn.delivery ≠ .refused e
  leaves quotas v := { v with bucketIds := quotas.keys }

inductive BackendKind
  | memory
  | sqlite (builder : SqliteBackendBuilder)
  | redis (builder : RedisBackendBuilder)

def BackendKind.backend : BackendKind → RebuildBackend
  | .memory => memoryRebuild
  | .sqlite builder => sqliteRebuild builder
  | .redis builder => redisRebuild builder

/-! ## A family -/

/-- What a limiter holds of a family: its entries, and the backend they go with. -/
structure Family (k : RebuildBackend) where
  entry : FamilyEntry
  session : k.Session

namespace Family

variable {k : RebuildBackend}

/-- The cached backend has the bucket ids of the recorded snapshot, and is open. -/
def Consistent (f : Family k) : Prop :=
  ∃ quotas, f.entry.quotas = some quotas ∧ (k.view f.session).bucketIds = quotas.keys ∧
    (k.view f.session).isOpen = true

/-- The rebuild, from the moment it has taken the snapshot out of the table. -/
def rebuild (f : Family k) (oldSnapshot newSnapshot : UsageQuotas) :
    Program k.Command k.Response BackendError
      (FamilyEntry × Except BackendError k.methods.Reconfigured) :=
  syncChangedMetricSet k.methods { f.entry with quotas := none } oldSnapshot newSnapshot

/-- The family after a rebuild has ended. -/
def rebuilt (entry : FamilyEntry) (outcome : Except BackendError k.methods.Reconfigured)
    (session : k.Session) : Family k :=
  match outcome with
  | .ok backend => ⟨entry, k.cache backend session⟩
  | .error _ => ⟨entry, session⟩

/-- What happens to a family between two of its rebuilds, and a rebuild. -/
inductive Step : Family k → Family k → Prop
  | rebuild {f : Family k} {oldSnapshot newSnapshot : UsageQuotas} {turns : List k.Turn}
      {entry : FamilyEntry} {outcome : Except BackendError k.methods.Reconfigured}
      {session : k.Session} :
      f.entry.quotas = some oldSnapshot → oldSnapshot.keys ≠ newSnapshot.keys →
      (∀ turn ∈ turns, k.undisturbed turn) →
      (f.rebuild oldSnapshot newSnapshot).run k.serve turns f.session =
        some (.ok (entry, outcome), session) →
      -- an exception strikes before the switch
      (∀ e, outcome = .error e →
        ∀ step ∈ (f.rebuild oldSnapshot newSnapshot).trace k.serve turns f.session,
          ¬ k.switched step) →
      Step f (rebuilt entry outcome session)
  | changeLimits {f : Family k} {oldSnapshot newSnapshot : UsageQuotas} {turns : List k.Turn}
      {entry : FamilyEntry} {outcome : Except BackendError Unit} {session : k.Session} :
      f.entry.quotas = some oldSnapshot → oldSnapshot.keys = newSnapshot.keys →
      (∀ turn ∈ turns, k.undisturbed turn) →
      (syncChangedLimits k.methods f.entry oldSnapshot newSnapshot).run k.serve turns f.session =
        some (.ok (entry, outcome), session) →
      Step f ⟨entry, session⟩
  /-- Acquires, refunds and runtime limits: the backend stays what it is. -/
  | other {f : Family k} (runtimeMaxCapacity : RuntimeMaxCapacity) (session : k.Session) :
      k.view session = k.view f.session →
      Step f ⟨{ f.entry with runtimeMaxCapacity := runtimeMaxCapacity }, session⟩

end Family

/-! ## What the backends guarantee -/

/-- The commands of a rebuild and of a change of limits, and what they leave. -/
structure RebuildBackend.Lawful (k : RebuildBackend) (allowed : UsageQuotas → k.Command → Prop)
    (keeps : k.Command → Prop) : Prop where
  leaves_leaves : ∀ quotas v, k.leaves quotas (k.leaves quotas v) = k.leaves quotas v
  /-- A family whose quotas name other buckets notices the switch. -/
  leaves_inconsistent : ∀ quotas v, v.bucketIds ≠ quotas.keys →
    (k.leaves quotas v).bucketIds = v.bucketIds → (k.leaves quotas v).isOpen = false
  view_switched : ∀ quotas (step : Served k.Command k.Response BackendError k.Session k.Turn),
    k.undisturbed step.turn → allowed quotas step.command → k.switched step →
      k.serve step.turn step.command step.before = (step.answer, step.after) →
        k.view step.after = k.leaves quotas (k.view step.before)
  view_kept : ∀ quotas (step : Served k.Command k.Response BackendError k.Session k.Turn),
    k.undisturbed step.turn → allowed quotas step.command → ¬ k.switched step →
      k.serve step.turn step.command step.before = (step.answer, step.after) →
        k.view step.after = k.view step.before
  emits : ∀ entry oldSnapshot newSnapshot,
    (rebuildBackend k.methods entry oldSnapshot newSnapshot).Emits (allowed newSnapshot)
      fun _ => True
  leads : ∀ entry oldSnapshot newSnapshot s,
    (rebuildBackend k.methods entry oldSnapshot newSnapshot).Leads k.serve k.undisturbed
      (fun backend s' => k.view (k.cache backend s') = ⟨newSnapshot.keys, true⟩) s
  view_keeps : ∀ turn command s, k.undisturbed turn → keeps command →
    k.view (k.serve turn command s).2 = k.view s
  applies : ∀ id value, (k.methods.applyConfiguredMaxCapacity id value).Issues keeps

theorem keys_cfgWithPreserved (quotas oldSnapshot : UsageQuotas)
    (runtimeOverrides : RuntimeMaxCapacity) :
    (cfgWithPreservedRuntimeMaxCapacity quotas oldSnapshot runtimeOverrides).keys = quotas.keys :=
  OrderedDict.keys_mapValues _

section Memory

/-- A preparation is for the buckets of the new quotas. -/
def MemoryCommand.Prepares (quotas : UsageQuotas) : MemoryCommand → Prop
  | .prepareReconfiguredBackend items => (items.map Prod.fst).toFinset = quotas.keys
  | _ => True

def MemoryCommand.keepsBuckets : MemoryCommand → Prop
  | .prepareReconfiguredBackend _ => False
  | _ => True

theorem MemoryCommand.keepsBuckets_or (command : MemoryCommand) :
    command.keepsBuckets ∨ ∃ items, command = .prepareReconfiguredBackend items := by
  cases command with
  | prepareReconfiguredBackend items => exact .inr ⟨items, rfl⟩
  | _ => exact .inl trivial

theorem memory_others {turn : MemoryTurn} (h_turn : memoryRebuild.undisturbed turn)
    (s : MemoryBackend) : (turn.others s).bucketIds = s.bucketIds :=
  congrArg List.toFinset (h_turn s)

theorem memory_keeps (turn : MemoryTurn) (command : MemoryCommand) (s : MemoryBackend)
    (h_turn : memoryRebuild.undisturbed turn) (h_keeps : command.keepsBuckets) :
    (s.serve turn command).2.bucketIds = s.bucketIds := by
  rw [← memory_others h_turn s]
  unfold MemoryBackend.serve
  split
  · rfl
  · cases command with
    | suspend => rfl
    | prepareReconfiguredBackend items => exact absurd h_keeps id
    | setMaxCapacity id value =>
      exact congrArg List.toFinset (MemoryBackend.setMaxCapacityWarning_buckets _ _ _ _ _)
    | recordConfiguredLimit id value => rfl

theorem memory_prepares {turn : MemoryTurn} {items : List (BucketId × MaxCapacity)}
    {s s' : MemoryBackend} {answer : Except BackendError Unit}
    (h_turn : memoryRebuild.undisturbed turn)
    (h_serve : s.serve turn (.prepareReconfiguredBackend items) = (answer, s')) :
    (answer = .ok () → s'.bucketIds = (items.map Prod.fst).toFinset) ∧
      (answer ≠ .ok () → s'.bucketIds = s.bucketIds) := by
  rw [← memory_others h_turn s]
  unfold MemoryBackend.serve at h_serve
  split at h_serve
  · cases h_serve
    exact ⟨nofun, fun _ => rfl⟩
  · exact MemoryBackend.prepareReconfiguredBackend_bucketIds _ _ _ _ h_serve

theorem memoryRebuild_lawful :
    memoryRebuild.Lawful MemoryCommand.Prepares MemoryCommand.keepsBuckets where
  leaves_leaves _ _ := rfl
  leaves_inconsistent quotas v h_ne h_same := absurd h_same.symm h_ne
  view_switched quotas step h_turn h_allowed h_switched h_serve := by
    obtain ⟨turn, command, before, answer, after⟩ := step
    obtain ⟨⟨items, rfl⟩, h_ok⟩ := h_switched
    exact BackendView.ext (((memory_prepares h_turn h_serve).1 h_ok).trans h_allowed) rfl
  view_kept quotas step h_turn h_allowed h_kept h_serve := by
    obtain ⟨turn, command, before, answer, after⟩ := step
    rcases MemoryCommand.keepsBuckets_or command with h_keeps | ⟨items, rfl⟩
    · have h_ids := memory_keeps turn command before h_turn h_keeps
      rw [show before.serve turn command = (answer, after) from h_serve] at h_ids
      exact BackendView.ext h_ids rfl
    · have h_failed : answer ≠ .ok () := fun h_ok => h_kept ⟨⟨items, rfl⟩, h_ok⟩
      exact BackendView.ext ((memory_prepares h_turn h_serve).2 h_failed) rfl
  emits entry oldSnapshot newSnapshot := by
    have h_keys := keys_cfgWithPreserved newSnapshot oldSnapshot entry.runtimeMaxCapacity
    refine Issues.emits_bind (Issues.perform trivial) fun _ => ?_
    refine Issues.emits_bind (Issues.perform h_keys) fun _ => ?_
    exact (restoreRuntimeMaxCapacity_issues (fun _ _ => Issues.perform trivial) _).emits_bind
      fun _ => Emits.pure trivial
  leads entry oldSnapshot newSnapshot s := by
    have h_keys := keys_cfgWithPreserved newSnapshot oldSnapshot entry.runtimeMaxCapacity
    refine Leads.bind_any fun _ s₁ => ?_
    refine Leads.bind (m := fun _ s' => s'.bucketIds = newSnapshot.keys)
      (Leads.perform fun turn answer s₂ h_turn h_serve => ?_) fun _ s₂ h₂ => ?_
    · exact ((memory_prepares h_turn h_serve).1 rfl).trans h_keys
    · have h_restore : (restoreRuntimeMaxCapacity (memoryRebuild.methods.setMaxCapacity ())
          oldSnapshot newSnapshot entry.runtimeMaxCapacity.items).Issues
            MemoryCommand.keepsBuckets :=
        restoreRuntimeMaxCapacity_issues (fun id value => Issues.perform trivial) _
      have h_kept : Leads MemoryBackend.serve memoryRebuild.undisturbed
          (fun _ s₃ => s₃.bucketIds = s₂.bucketIds) _ s₂ :=
        h_restore.leads memory_keeps s₂
      exact Leads.bind h_kept fun _ s₃ h₃ => Leads.pure (BackendView.ext (h₃.trans h₂) rfl)
  view_keeps turn command s h_turn h_keeps :=
    BackendView.ext (memory_keeps turn command s h_turn h_keeps) rfl
  applies id value := (Issues.perform trivial).bind fun _ => Issues.perform trivial

end Memory

section Redis

variable (builder : RedisBackendBuilder)

/-- The buckets of the backend. -/
def Session.buckets (s : Session) : List BucketId := s.client.sortedBuckets

theorem redis_keeps (turn : Turn) (command : Command) (s : Session) (_ : True)
    (h_keeps : command.keepsBuckets = true) :
    (Session.serve turn command s).2.buckets = s.buckets := by
  have h_execute (s : Session) :
      (s.execute turn command).2.buckets = s.buckets := by
    cases command with
    | installReconfiguredState => cases h_keeps
    | acquireLock k token =>
      simp only [Session.execute]
      split <;> rfl
    | releaseLock k token =>
      simp only [Session.execute]
      split <;> rfl
    | _ => rfl
  simp only [Session.serve]
  cases turn.delivery with
  | answered => exact h_execute _
  | lost e => exact h_execute _
  | refused e => rfl

theorem KeepsBuckets.leads {α : Type} {p : RedisProgram α} (h_p : KeepsBuckets p)
    (s : Session) :
    p.Leads Session.serve (fun _ => True) (fun _ s' => s'.buckets = s.buckets) s :=
  Issues.leads h_p redis_keeps s

theorem built_bucketIds (quotas : UsageQuotas) :
    (builder.built quotas).sortedBuckets.toFinset = quotas.keys := by
  ext id
  rw [List.mem_toFinset, RedisBackendBuilder.mem_sortedBuckets, OrderedDict.mem_keys_iff]

/-- The preparation returns with the buckets of the new backend. -/
theorem prepareReconfiguredBackend_leads (newBackend : RedisClient)
    (items : List (BucketId × MaxCapacity)) (s : Session) :
    (RedisBackend.prepareReconfiguredBackend newBackend items).Leads Session.serve
      (fun _ => True) (fun _ s' => s'.buckets = newBackend.sortedBuckets) s := by
  refine Leads.bind_any fun current s₁ => ?_
  refine Leads.bind (m := fun _ s' => s'.buckets = newBackend.sortedBuckets) ?_
    fun _ s₂ h₂ => ?_
  · refine Leads.bind_any fun stack s₂ => ?_
    refine Leads.ensuring Session.buckets (fun _ ids => ids = newBackend.sortedBuckets) ?_
      (RedisBackend.releaseLocks_harmless stack).keepsBuckets redis_keeps
    refine Leads.bind_any fun targets s₃ => Leads.bind_any fun plans s₄ => ?_
    refine ((RedisBackend.commitPlans_emits rfl stack plans).leads s₄).bind fun made s₅ h_made => ?_
    refine Leads.bind_any fun _ s₆ => Leads.bind_any fun current s₇ => ?_
    split
    · exact Leads.throw
    · refine Leads.perform fun turn _ s₈ _ h_serve => ?_
      simp only [Session.serve] at h_serve
      cases h_delivery : turn.delivery with
      | answered =>
        rw [h_delivery] at h_serve
        cases h_serve
        exact RedisClient.sortedBuckets_eq h_made
      | lost e =>
        rw [h_delivery] at h_serve
        cases h_serve
      | refused e =>
        rw [h_delivery] at h_serve
        cases h_serve
  · have h_suspend : KeepsBuckets (send .suspend) := send_keepsBuckets rfl
    exact (h_suspend.leads s₂).mono fun _ s₃ h₃ => h₃.trans h₂

theorem redisRebuild_lawful :
    (redisRebuild builder).Lawful
      (fun quotas command => ∃ ids : List BucketId, ids.toFinset = quotas.keys ∧
        command.Installs ids)
      (fun command => command.keepsBuckets = true) where
  leaves_leaves _ _ := rfl
  leaves_inconsistent quotas v h_ne h_same := absurd h_same.symm h_ne
  view_switched quotas step _ h_allowed h_switched h_serve := by
    obtain ⟨turn, command, before, answer, after⟩ := step
    obtain ⟨h_installs, h_executed⟩ := h_switched
    obtain ⟨ids, h_ids, h_allowed⟩ := h_allowed
    cases command with
    | installReconfiguredState newBackend =>
      have h_after : after.client = newBackend := by
        have h_serve' : Session.serve turn (.installReconfiguredState newBackend) before =
          (answer, after) := h_serve
        simp only [Session.serve] at h_serve'
        cases h_delivery : turn.delivery with
        | answered =>
          rw [h_delivery] at h_serve'
          cases h_serve'
          rfl
        | lost e =>
          rw [h_delivery] at h_serve'
          cases h_serve'
          rfl
        | refused e => exact absurd h_delivery (h_executed e)
      refine BackendView.ext ?_ rfl
      show after.client.sortedBuckets.toFinset = quotas.keys
      rw [h_after, ← h_ids]
      exact congrArg List.toFinset h_allowed
    | _ => cases h_installs
  view_kept quotas step h_turn _ h_kept h_serve := by
    obtain ⟨turn, command, before, answer, after⟩ := step
    have h_serve' : Session.serve turn command before = (answer, after) := h_serve
    have h_same : Session.buckets after = Session.buckets before := by
      by_cases h_keeps : command.keepsBuckets = true
      · have h_ids := redis_keeps turn command before trivial h_keeps
        rw [h_serve'] at h_ids
        exact h_ids
      · have h_refused : ∃ e, turn.delivery = .refused e := by
          -- a command that replaces the buckets keeps them only where it was refused
          by_contra h_none
          exact h_kept ⟨Bool.eq_false_iff.mpr h_keeps, fun e h_eq => h_none ⟨e, h_eq⟩⟩
        obtain ⟨e, h_delivery⟩ := h_refused
        simp only [Session.serve, h_delivery] at h_serve'
        cases h_serve'
        rfl
    exact BackendView.ext (congrArg List.toFinset h_same) rfl
  emits entry oldSnapshot newSnapshot := by
    have h_keys := (built_bucketIds builder _).trans
      (keys_cfgWithPreserved newSnapshot oldSnapshot entry.runtimeMaxCapacity)
    have h_keeps {α : Type} {p : RedisProgram α} (h_p : KeepsBuckets p) :
        p.Issues fun command => ∃ ids : List BucketId, ids.toFinset = newSnapshot.keys ∧
          command.Installs ids :=
      h_p.mono fun _ h_keeps => ⟨_, h_keys, installs_of_keepsBuckets h_keeps⟩
    have h_build : (builder.build (cfgWithPreservedRuntimeMaxCapacity newSnapshot oldSnapshot
        entry.runtimeMaxCapacity)).Emits (fun command => ∃ ids : List BucketId,
          ids.toFinset = newSnapshot.keys ∧ command.Installs ids) fun backend =>
            backend = builder.built _ :=
      (h_keeps (send_keepsBuckets rfl)).emits_bind fun _ => Emits.pure rfl
    refine h_build.bind fun backend h_backend => ?_
    subst h_backend
    refine Emits.bind ((RedisBackend.prepareReconfiguredBackend_emits _ _).mono
      (fun _ h_installs => ⟨_, h_keys, h_installs⟩) fun _ h => h) fun _ _ => ?_
    exact (h_keeps (restoreRuntimeMaxCapacity_issues RedisBackend.setMaxCapacity_keepsBuckets
      _)).emits_bind fun _ => Emits.pure trivial
  leads entry oldSnapshot newSnapshot s := by
    have h_keys := (built_bucketIds builder _).trans
      (keys_cfgWithPreserved newSnapshot oldSnapshot entry.runtimeMaxCapacity)
    have h_build : (builder.build (cfgWithPreservedRuntimeMaxCapacity newSnapshot oldSnapshot
        entry.runtimeMaxCapacity)).Leads Session.serve (fun _ => True)
          (fun backend _ => backend = builder.built _) s :=
      Leads.bind_any fun _ _ => Leads.pure rfl
    refine h_build.bind fun backend s₁ h_backend => ?_
    subst h_backend
    refine (prepareReconfiguredBackend_leads _ _ s₁).bind fun _ s₂ h₂ => ?_
    have h_restore : KeepsBuckets (restoreRuntimeMaxCapacity RedisBackend.setMaxCapacity
        oldSnapshot newSnapshot entry.runtimeMaxCapacity.items) :=
      restoreRuntimeMaxCapacity_issues RedisBackend.setMaxCapacity_keepsBuckets _
    refine Leads.bind (h_restore.leads s₂) fun _ s₃ h₃ => Leads.pure (BackendView.ext ?_ rfl)
    rw [← h_keys]
    exact congrArg List.toFinset (h₃.trans h₂)
  view_keeps turn command s _ h_keeps :=
    BackendView.ext (congrArg List.toFinset (redis_keeps turn command s trivial h_keeps)) rfl
  applies := RedisBackend.applyConfiguredMaxCapacity_keepsBuckets

end Redis

section Sqlite

variable (builder : SqliteBackendBuilder)

/-- The cached backend of the session. -/
def SqliteSession.view (s : SqliteSession) : BackendView :=
  ⟨s.cached.engine.bucketIds, !s.cached.closed⟩

theorem sqlite_keeps (turn : SqliteTurn) (command : SqliteCommand) (s : SqliteSession)
    (_ : True) (h_keeps : command ≠ .beginClose) : (s.serve turn command).2.view = s.view := by
  have h_execute (s : SqliteSession) : (s.execute turn command).2.view = s.view :=
    BackendView.ext (congrArg List.toFinset (s.execute_buckets turn command))
      (congrArg not (s.execute_closed turn h_keeps))
  simp only [SqliteSession.serve]
  cases turn.delivery with
  | answered => exact h_execute _
  | lost e => exact h_execute _
  | refused e => rfl

/-- No command of a rebuild needs a condition: `beginClose` closes whatever the quotas are. -/
theorem sqliteRebuild_issues (entry : FamilyEntry) (oldSnapshot newSnapshot : UsageQuotas) :
    (rebuildBackend (sqliteRebuild builder).methods entry oldSnapshot newSnapshot).Issues
      fun _ => True := by
  refine (Issues.perform trivial).bind fun engine => Issues.bind ?_ fun _ => Issues.pure _
  refine (Issues.perform trivial).bind fun current => ?_
  split
  · exact Issues.throw _
  · refine (Issues.perform trivial).bind fun _ => (Issues.perform trivial).bind fun current => ?_
    refine (Issues.lift _).bind fun engine => Issues.bind ?_ fun _ => Issues.pure _
    exact (Issues.perform trivial).bind fun _ => .when (Issues.perform trivial)

/-- The preparation returns the new engine. -/
theorem sqlitePrepare_leads (new : SqliteEngine) (quotas : UsageQuotas) (s : SqliteSession) :
    (SqliteBackend.prepareReconfiguredBackend new quotas).Leads SqliteSession.serve
      (fun _ => True) (fun engine _ => engine.buckets = new.buckets) s := by
  refine Leads.bind_any fun current s₁ => ?_
  split
  · exact Leads.throw
  · refine Leads.bind_any fun _ s₂ => Leads.bind_any fun current s₃ => ?_
    refine Leads.bind (m := fun engine _ => engine.buckets = new.buckets)
      (Leads.lift fun engine h_ok => SqliteEngine.inheritStateConfirmations_buckets h_ok)
      fun engine s₄ h_engine => ?_
    exact Leads.bind_any fun _ s₅ => Leads.pure h_engine

theorem sqliteRebuild_lawful :
    (sqliteRebuild builder).Lawful (fun _ _ => True) (fun command => command ≠ .beginClose) where
  leaves_leaves _ _ := rfl
  leaves_inconsistent _ _ _ _ := rfl
  view_switched quotas step _ _ h_switched h_serve := by
    obtain ⟨turn, command, before, answer, after⟩ := step
    obtain ⟨h_command, h_executed⟩ := h_switched
    obtain rfl : command = .beginClose := h_command
    have h_serve' : SqliteSession.serve turn .beginClose before = (answer, after) := h_serve
    simp only [SqliteSession.serve] at h_serve'
    cases h_delivery : turn.delivery with
    | answered =>
      rw [h_delivery] at h_serve'
      cases h_serve'
      rfl
    | lost e =>
      rw [h_delivery] at h_serve'
      cases h_serve'
      rfl
    | refused e => exact absurd h_delivery (h_executed e)
  view_kept quotas step _ _ h_kept h_serve := by
    obtain ⟨turn, command, before, answer, after⟩ := step
    have h_serve' : SqliteSession.serve turn command before = (answer, after) := h_serve
    show SqliteSession.view after = SqliteSession.view before
    by_cases h_command : command = .beginClose
    · have h_refused : ∃ e, turn.delivery = .refused e := by
        by_contra h_none
        exact h_kept ⟨h_command, fun e h_eq => h_none ⟨e, h_eq⟩⟩
      obtain ⟨e, h_delivery⟩ := h_refused
      simp only [SqliteSession.serve, h_delivery] at h_serve'
      cases h_serve'
      rfl
    · have h_view := sqlite_keeps turn command before trivial h_command
      rw [h_serve'] at h_view
      exact h_view
  emits entry oldSnapshot newSnapshot :=
    (sqliteRebuild_issues builder entry oldSnapshot newSnapshot).emits
  leads entry oldSnapshot newSnapshot s := by
    have h_build : (builder.build newSnapshot).Leads SqliteSession.serve (fun _ => True)
        (fun engine _ => engine.buckets = (builder.engine newSnapshot).buckets) s :=
      Leads.perform fun turn engine s' _ h_serve => SqliteSession.serve_createEngine h_serve
    refine h_build.bind fun engine s₁ h_built => ?_
    refine (sqlitePrepare_leads _ _ s₁).bind fun engine' s₂ h_engine => ?_
    exact Leads.pure (BackendView.ext (congrArg List.toFinset (h_engine.trans h_built)) rfl)
  view_keeps turn command s _ h_keeps := sqlite_keeps turn command s trivial h_keeps
  applies id value := (Issues.lift _).bind fun _ => Issues.perform nofun

end Sqlite

/-! ## Rebuilds -/

namespace Family

variable {kind : BackendKind} {f f' : Family kind.backend}

/-- The backend of every kind keeps to the rules. -/
theorem kind_lawful (kind : BackendKind) :
    ∃ allowed keeps, kind.backend.Lawful allowed keeps := by
  cases kind with
  | memory => exact ⟨_, _, memoryRebuild_lawful⟩
  | sqlite builder => exact ⟨_, _, sqliteRebuild_lawful builder⟩
  | redis builder => exact ⟨_, _, redisRebuild_lawful builder⟩

/-- A rebuild changes the cached backend when one of its commands switches it, and only
    then. -/
theorem rebuild_view {oldSnapshot newSnapshot : UsageQuotas}
    {turns : List kind.backend.Turn} {session : kind.backend.Session}
    {result : Except BackendError
      (FamilyEntry × Except BackendError kind.backend.methods.Reconfigured)}
    (h_turns : ∀ turn ∈ turns, kind.backend.undisturbed turn)
    (h_run : (f.rebuild oldSnapshot newSnapshot).run kind.backend.serve turns f.session =
      some (result, session)) :
    ((∃ step ∈ (f.rebuild oldSnapshot newSnapshot).trace kind.backend.serve turns f.session,
        kind.backend.switched step) →
      kind.backend.view session =
        kind.backend.leaves newSnapshot (kind.backend.view f.session)) ∧
    ((∀ step ∈ (f.rebuild oldSnapshot newSnapshot).trace kind.backend.serve turns f.session,
        ¬ kind.backend.switched step) →
      kind.backend.view session = kind.backend.view f.session) := by
  obtain ⟨allowed, keeps, h_lawful⟩ := kind_lawful kind
  exact (syncChangedMetricSet_emits (h_lawful.emits _ _ _)).run_observe
    (h_lawful.leaves_leaves newSnapshot) (h_lawful.view_switched newSnapshot)
    (h_lawful.view_kept newSnapshot) h_turns h_run

/-- The snapshot that a rebuild records. -/
theorem rebuild_settles {oldSnapshot newSnapshot : UsageQuotas}
    {turns : List kind.backend.Turn} {session : kind.backend.Session}
    {outcome : FamilyEntry × Except BackendError kind.backend.methods.Reconfigured}
    (h_turns : ∀ turn ∈ turns, kind.backend.undisturbed turn)
    (h_run : (f.rebuild oldSnapshot newSnapshot).run kind.backend.serve turns f.session =
      some (.ok outcome, session)) : Settles oldSnapshot newSnapshot outcome := by
  obtain ⟨allowed, keeps, h_lawful⟩ := kind_lawful kind
  exact run_of_follows ((syncChangedMetricSet_emits (h_lawful.emits _ _ _)).leads f.session)
    h_turns h_run

theorem Step.consistent (h_step : Step f f') (h_consistent : f.Consistent) : f'.Consistent := by
  obtain ⟨quotas, h_quotas, h_ids, h_open⟩ := h_consistent
  obtain ⟨allowed, keeps, h_lawful⟩ := kind_lawful kind
  cases h_step with
  | @rebuild oldSnapshot newSnapshot turns entry outcome session h_old _ h_turns h_run h_early =>
    have h_settles := rebuild_settles h_turns h_run
    cases outcome with
    | ok backend =>
      have h_leads := syncChangedMetricSet_leads
        (h_lawful.leads { f.entry with quotas := none } oldSnapshot newSnapshot f.session)
      have h_view : kind.backend.view (kind.backend.cache backend session) =
          ⟨newSnapshot.keys, true⟩ := run_of_follows h_leads h_turns h_run backend rfl
      refine ⟨newSnapshot, h_settles, ?_, ?_⟩
      · exact congrArg BackendView.bucketIds h_view
      · exact congrArg BackendView.isOpen h_view
    | error e =>
      have h_view := (rebuild_view h_turns h_run).2 (h_early e rfl)
      rw [h_quotas] at h_old
      cases h_old
      refine ⟨quotas, h_settles, ?_, ?_⟩
      · exact (congrArg BackendView.bucketIds h_view).trans h_ids
      · exact (congrArg BackendView.isOpen h_view).trans h_open
  | @changeLimits oldSnapshot newSnapshot turns entry outcome session h_old h_keys h_turns h_run =>
    have h_view : kind.backend.view session = kind.backend.view f.session :=
      (syncChangedLimits_issues h_lawful.applies).run_keeps h_lawful.view_keeps h_turns h_run
    have h_settles : Settles oldSnapshot newSnapshot (entry, outcome) :=
      run_of_follows ((syncChangedLimits_emits fun id value =>
        (h_lawful.applies id value).mono fun _ _ => trivial).leads f.session) h_turns h_run
    rw [h_quotas] at h_old
    cases h_old
    have h_open' := (congrArg BackendView.isOpen h_view).trans h_open
    have h_ids' := (congrArg BackendView.bucketIds h_view).trans h_ids
    cases outcome with
    | ok _ => exact ⟨newSnapshot, h_settles, h_ids'.trans h_keys, h_open'⟩
    | error e => exact ⟨quotas, h_settles, h_ids', h_open'⟩
  | other runtimeMaxCapacity session h_view =>
    refine ⟨quotas, h_quotas, ?_, ?_⟩
    · exact (congrArg BackendView.bucketIds h_view).trans h_ids
    · exact (congrArg BackendView.isOpen h_view).trans h_open

/-- The states of a family whose failed rebuilds all failed before the switch. -/
def Reachable (f : Family kind.backend) : Prop :=
  ∃ f₀ : Family kind.backend, f₀.Consistent ∧ f₀.entry.runtimeMaxCapacity = .empty ∧
    Relation.ReflTransGen Step f₀ f

theorem Reachable.consistent (h_reachable : f.Reachable) : f.Consistent := by
  obtain ⟨f₀, h_consistent, -, h_steps⟩ := h_reachable
  induction h_steps with
  | refl => exact h_consistent
  | tail _ h_step ih => exact h_step.consistent ih

/-- After a rebuild that raised, the cached backend is open and has the bucket ids of the
    recorded snapshot exactly when the exception struck before the live backend was
    switched to the new buckets (memory, Redis) or closed (SQLite). -/
theorem failedRebuild_consistent_iff {oldSnapshot newSnapshot : UsageQuotas}
    {turns : List kind.backend.Turn} {entry : FamilyEntry} {e : BackendError}
    {session : kind.backend.Session} (h_reachable : f.Reachable)
    (h_old : f.entry.quotas = some oldSnapshot) (h_changed : oldSnapshot.keys ≠ newSnapshot.keys)
    (h_turns : ∀ turn ∈ turns, kind.backend.undisturbed turn)
    (h_run : (f.rebuild oldSnapshot newSnapshot).run kind.backend.serve turns f.session =
      some (.ok (entry, .error e), session)) :
    (rebuilt entry (.error e) session : Family kind.backend).Consistent ↔
      ∀ step ∈ (f.rebuild oldSnapshot newSnapshot).trace kind.backend.serve turns f.session,
        ¬ kind.backend.switched step := by
  constructor
  · rintro ⟨quotas, h_quotas, h_ids, h_open⟩ step h_mem h_switched
    obtain ⟨allowed, keeps, h_lawful⟩ := kind_lawful kind
    obtain ⟨quotas', h_quotas', h_ids', -⟩ := h_reachable.consistent
    rw [h_old] at h_quotas'
    cases h_quotas'
    have h_settles : entry.quotas = some oldSnapshot := rebuild_settles h_turns h_run
    have h_same : quotas = oldSnapshot := by
      rw [show entry.quotas = some quotas from h_quotas] at h_settles
      exact Option.some.inj h_settles
    have h_view := (rebuild_view h_turns h_run).1 ⟨step, h_mem, h_switched⟩
    have h_closed := h_lawful.leaves_inconsistent newSnapshot (kind.backend.view f.session)
      (by rw [h_ids']; exact h_changed)
      (by rw [← h_view, h_ids']; exact h_ids.trans (congrArg OrderedDict.keys h_same))
    rw [← h_view] at h_closed
    exact absurd (h_closed.symm.trans h_open) nofun
  · intro h_early
    exact (Step.rebuild h_old h_changed h_turns h_run fun _ _ => h_early).consistent
      h_reachable.consistent

/-! ### Requests are added to tokens -/

/-- A family over Redis whose limit of tokens the limiter has set to 50. -/
def overridden : Family (BackendKind.redis exampleBuilder).backend :=
  ⟨⟨some tokensOnly, tokensAt50⟩, overriddenTokens⟩

theorem overridden_reachable : overridden.Reachable := by
  let built : Family (BackendKind.redis exampleBuilder).backend :=
    ⟨⟨some tokensOnly, .empty⟩, overriddenTokens⟩
  have h_consistent : built.Consistent :=
    ⟨tokensOnly, rfl, built_bucketIds exampleBuilder tokensOnly, rfl⟩
  have h_set : Step built overridden := .other (f := built) tokensAt50 overriddenTokens rfl
  exact ⟨built, h_consistent, rfl, .single h_set⟩

/-- A turn in which Redis does not answer. -/
def failingTurn : Turn := ⟨id, 0, 0, .refused .redisError⟩

/-- The rebuild that adds the requests, with a failure after so many commands. -/
def failAfter (n : ℕ) :
    Option (Except BackendError (FamilyEntry × Except BackendError Unit) × Session) :=
  (overridden.rebuild tokensOnly tokensAndRequests).run Session.serve
    (List.replicate n quietTurn ++ failingTurn :: List.replicate 30 quietTurn) overriddenTokens

/-- The rebuild has raised, and the backend has so many buckets. -/
def raisedWith (buckets : ℕ) :
    Except BackendError (FamilyEntry × Except BackendError Unit) × Session → Bool
  | (.ok (_, .error .redisError), s) => s.client.sortedBuckets.length = buckets
  | _ => false

theorem exists_raised {n buckets : ℕ} (h_raised : (failAfter n).any (raisedWith buckets) = true) :
    ∃ entry s, failAfter n = some (.ok (entry, .error .redisError), s) ∧
      s.client.sortedBuckets.length = buckets := by
  obtain ⟨⟨result, s⟩, h_run, h_check⟩ := (Option.any_eq_true _ _).mp h_raised
  match result, h_check with
  | .ok (entry, .error .redisError), h_check =>
    exact ⟨entry, s, h_run, of_decide_eq_true h_check⟩

/-- A failure of the lock of the first bucket leaves the family consistent. -/
theorem failedRebuild_consistent_lock :
    ∃ entry s, failAfter 3 = some (.ok (entry, .error .redisError), s) ∧
      (rebuilt entry (.error .redisError) s : Family (redisRebuild exampleBuilder)).Consistent := by
  obtain ⟨entry, s, h_run, h_buckets⟩ : ∃ entry s, failAfter 3 =
      some (.ok (entry, .error .redisError), s) ∧ s.client.sortedBuckets.length = 1 :=
    exists_raised (by decide +kernel)
  refine ⟨entry, s, h_run, ?_⟩
  unfold failAfter at h_run
  refine (failedRebuild_consistent_iff overridden_reachable rfl (by decide) (fun _ _ => trivial)
    h_run).mpr ?_
  have h_keeps : ((overridden.rebuild tokensOnly tokensAndRequests).trace Session.serve
      (List.replicate 3 quietTurn ++ failingTurn :: List.replicate 30 quietTurn)
        overriddenTokens).all (fun step => step.command.keepsBuckets) = true := by
    decide +kernel
  intro step h_mem h_switched
  have h_command := List.all_eq_true.mp h_keeps step h_mem
  exact absurd (h_command.symm.trans h_switched.1) nofun

/-- A failure while the runtime limit of tokens is put back leaves the backend with the
    buckets of the new configuration under the snapshot of the old one. -/
theorem failedRebuild_inconsistent :
    ∃ entry s, overridden.Reachable ∧
      failAfter 40 = some (.ok (entry, .error .redisError), s) ∧
      ¬ (rebuilt entry (.error .redisError) s :
        Family (BackendKind.redis exampleBuilder).backend).Consistent := by
  obtain ⟨entry, s, h_run, h_buckets⟩ : ∃ entry s, failAfter 40 =
      some (.ok (entry, .error .redisError), s) ∧ s.client.sortedBuckets.length = 2 :=
    exists_raised (by decide +kernel)
  refine ⟨entry, s, overridden_reachable, h_run, ?_⟩
  rintro ⟨quotas, h_quotas, h_ids, -⟩
  unfold failAfter at h_run
  have h_settles : entry.quotas = some tokensOnly :=
    @rebuild_settles (.redis exampleBuilder) overridden _ _ _ _ _ (fun _ _ => trivial) h_run
  obtain rfl : quotas = tokensOnly := Option.some.inj (h_quotas.symm.trans h_settles)
  have h_card : s.client.sortedBuckets.toFinset.card = 2 :=
    (List.toFinset_card_of_nodup s.client.nodup).trans h_buckets
  rw [show s.client.sortedBuckets.toFinset = tokensOnly.keys from h_ids] at h_card
  exact absurd h_card (by decide)

end Family

end TokenThrottle
