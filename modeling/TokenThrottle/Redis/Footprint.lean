/-
  TokenThrottle.Redis.Footprint

  Which functions of the Redis backend write no record of a bucket at all, which touch no
  limit (no override and no attribute of the backend object but its caches), and which
  leave the bucket set alone: all but the installation at the end of a rebuild.

  `send_leads` and `client_leads` are the rules for a program that is followed through a
  view of the session which the others leave alone.
-/
import TokenThrottle.Redis.Backend

namespace TokenThrottle

open Theory (Program)
open Theory.Program

/-- The command touches no override and no configured limit. -/
def Command.harmless : Command → Bool
  | .setOverride _ _ _ | .deleteOverride _ | .setConfiguredMaxCapacity _ _
  | .installReconfiguredState _ => false
  | _ => true

/-- A program that touches no limit. -/
abbrev Harmless {α : Type} (p : RedisProgram α) : Prop :=
  p.Issues fun command => command.harmless = true

theorem send_harmless {command : Command} (h_harmless : command.harmless = true) :
    Harmless (send command) :=
  .perform h_harmless

/-- The command writes no record of a bucket and no attribute but the caches. -/
def Command.recordless : Command → Bool
  | .refreshOverride _ _ _ | .repairStates _ _ | .setStates _ _ _
  | .acquireMarkerSetScript _ _ _ _ | .refundWithMarkerScript _ _ _ _ _ | .setOverride _ _ _
  | .deleteOverride _ | .setConfiguredMaxCapacity _ _ | .installReconfiguredState _ => false
  | _ => true

abbrev Recordless {α : Type} (p : RedisProgram α) : Prop :=
  p.Issues fun command => command.recordless = true

theorem send_recordless {command : Command} (h_recordless : command.recordless = true) :
    Recordless (send command) :=
  .perform h_recordless

/-- A limit is a record, or an attribute that is no cache. -/
theorem Recordless.harmless {α : Type} {p : RedisProgram α} (h_p : Recordless p) : Harmless p :=
  h_p.mono fun command h_recordless => by
    cases command with
    | setOverride | deleteOverride | setConfiguredMaxCapacity | installReconfiguredState =>
      cases h_recordless
    | _ => rfl

/-! ## One bucket -/

/-- Attributes are read, not written. -/
theorem ownerClient_recordless (owner : BucketOwner) : Recordless owner.client := by
  cases owner with
  | running => exact send_recordless rfl
  | rebuilt client => exact .pure client

theorem ownerClient_harmless (owner : BucketOwner) : Harmless owner.client :=
  (ownerClient_recordless owner).harmless

/-- Caches are no records. -/
theorem updateCaches_recordless (owner : BucketOwner) (f : BucketCaches → BucketCaches) :
    Recordless (owner.updateCaches f) := by
  cases owner with
  | running => exact (send_recordless rfl).bind fun _ => .pure _
  | rebuilt client => exact .pure _

theorem updateCaches_harmless (owner : BucketOwner) (f : BucketCaches → BucketCaches) :
    Harmless (owner.updateCaches f) :=
  (updateCaches_recordless owner f).harmless

/-- An expiry is no record: keeping a history writes nothing. -/
theorem retainCapacityHistory_recordless (key : BucketKey) :
    Recordless (RedisBucket.retainCapacityHistory key) :=
  (send_recordless rfl).bind fun _ => .when (send_recordless rfl)

theorem retainCapacityHistory_harmless (key : BucketKey) :
    Harmless (RedisBucket.retainCapacityHistory key) :=
  (retainCapacityHistory_recordless key).harmless

/-- A refreshed override keeps its value: only its expiry moves. -/
theorem refreshMaxCapacityOverrideTtl_harmless (owner : BucketOwner) (key : BucketKey)
    (override : Option MaxCapacity) :
    Harmless (RedisBucket.refreshMaxCapacityOverrideTtl owner key override) := by
  cases override with
  | none => exact retainCapacityHistory_harmless key
  | some value =>
    exact (send_harmless rfl).bind fun _ => (ownerClient_harmless owner).bind fun _ =>
      (send_harmless rfl).bind fun _ => .pure ()

/-- A state is written, and no limit. -/
theorem setCapacity_harmless (owner : BucketOwner) (key : BucketKey)
    (newCapacity currentTime : ℚ) (retention : Option MaxCapacity) :
    Harmless (RedisBucket.setCapacity owner key newCapacity currentTime retention) :=
  (ownerClient_harmless owner).bind fun _ => (Issues.lift _).bind fun _ =>
    (retainCapacityHistory_harmless key).bind fun _ => (send_harmless rfl).bind fun _ =>
      updateCaches_harmless owner _

namespace RedisBackend

/-! ## Locks -/

/-- A lock is no record, whether it is still held or lost. -/
theorem extendLocks_recordless (stack : LockStack) : Recordless (extendLocks stack) := by
  induction stack with
  | nil => exact .pure ()
  | cons lock stack ih =>
    refine (send_recordless rfl).bind fun owned => ?_
    cases owned with
    | true => exact ih
    | false => exact .throw _

theorem extendLocks_harmless (stack : LockStack) : Harmless (extendLocks stack) :=
  (extendLocks_recordless stack).harmless

/-- Releasing goes through the whole stack, whatever one release raises. -/
theorem releaseLocks_recordless (stack : LockStack) : Recordless (releaseLocks stack) := by
  induction stack with
  | nil => exact .pure ()
  | cons lock stack ih => exact ih.ensuring ((send_recordless rfl).bind fun _ => .pure ())

theorem releaseLocks_harmless (stack : LockStack) : Harmless (releaseLocks stack) :=
  (releaseLocks_recordless stack).harmless

/-- A lock taken by a call that raised is released again. -/
theorem acquireLock_recordless (key : BucketKey) : Recordless (acquireLock key) := by
  refine (send_recordless rfl).bind fun token => ?_
  have h_taken : Recordless ((send (.acquireLock key token)).onError
      ((send (.releaseLock key token)).settle fun _ => pure ())) :=
    (send_recordless rfl).onError ((send_recordless rfl).settle fun _ => .pure ())
  refine h_taken.bind fun acquired => ?_
  cases acquired with
  | true => exact .pure token
  | false => exact .throw _

/-- The locks are taken one after the other, and given back where one is not to be had. -/
theorem lockFrom_recordless (keys : List BucketKey) (stack : LockStack) :
    Recordless (lockFrom stack keys) := by
  induction keys generalizing stack with
  | nil => exact .pure stack
  | cons key keys ih =>
    have h_next : Recordless (Program.onError (do extendLocks stack; acquireLock key)
        (releaseLocks stack)) :=
      ((extendLocks_recordless stack).bind fun _ => acquireLock_recordless key).onError
        (releaseLocks_recordless stack)
    exact h_next.bind fun token => ih _

/-- A lock error becomes contention, and nothing else happens. -/
theorem lockOrContention_recordless (keys : List BucketKey) : Recordless (lockOrContention keys) :=
  (lockFrom_recordless keys []).tryCatch fun _ => .throw _

theorem lockOrContention_harmless (keys : List BucketKey) : Harmless (lockOrContention keys) :=
  (lockOrContention_recordless keys).harmless

/-! ## Snapshots of buckets -/

/-- A projection only reads. -/
theorem projectBucketState_recordless (owner : BucketOwner) (key : BucketKey) :
    Recordless (projectBucketState owner key) := by
  refine (send_recordless rfl).bind fun raw => (ownerClient_recordless owner).bind fun client => ?_
  refine (send_recordless rfl).bind fun currentTime => (send_recordless rfl).bind fun fields => ?_
  refine (ownerClient_recordless owner).bind fun client => ?_
  simp only
  split
  · exact (send_recordless rfl).bind fun _ => (ownerClient_recordless owner).bind fun _ => .pure _
  · exact .pure _

theorem projectBucketState_harmless (owner : BucketOwner) (key : BucketKey) :
    Harmless (projectBucketState owner key) :=
  (projectBucketState_recordless owner key).harmless

/-- A plan is made of what is read; a retention may refuse it. -/
theorem prepareSnapshot_harmless (owner : BucketOwner) (target : RebuildTarget)
    (key : BucketKey) : Harmless (prepareSnapshot owner target key) := by
  refine (projectBucketState_harmless owner key).bind fun projection => ?_
  refine (ownerClient_harmless owner).bind fun client => ?_
  split
  · exact .pure _
  · exact (Issues.lift _).bind fun _ => .pure _

/-- The first pass of a rebuild changes no limit. -/
theorem prepareSnapshots_harmless (stack : LockStack) (current newBackend : RedisClient)
    (targets : List RebuildTarget) :
    Harmless (prepareSnapshots stack current newBackend targets) := by
  induction targets with
  | nil => exact .pure []
  | cons target targets ih =>
    exact (extendLocks_harmless stack).bind fun _ => (prepareSnapshot_harmless _ _ _).bind
      fun _ => ih.bind fun _ => .pure _

/-- A bucket is written at its own limit. -/
theorem commitBucketSnapshot_harmless (owner : BucketOwner) (plan : BucketSnapshotPlan) :
    Harmless (commitBucketSnapshot owner plan) := by
  refine (refreshMaxCapacityOverrideTtl_harmless _ _ _).bind fun _ => ?_
  simp only
  split
  · exact (Issues.pure owner).bind fun _ => updateCaches_harmless _ _
  · exact (setCapacity_harmless _ _ _ _ _).bind fun _ => updateCaches_harmless _ _

/-- A snapshot before a change of limit changes none itself. -/
theorem snapshotBucketState_harmless (key : BucketKey) (proposed : MaxCapacity) :
    Harmless (snapshotBucketState key proposed) := by
  refine (projectBucketState_harmless .running key).bind fun projection => ?_
  refine (refreshMaxCapacityOverrideTtl_harmless _ _ _).bind fun _ => ?_
  split
  · exact send_harmless rfl
  · exact (setCapacity_harmless _ _ _ _ _).bind fun _ => send_harmless rfl

/-! ## The bucket set -/

end RedisBackend

/-- An installation brings these buckets. -/
def Command.Installs (ids : List BucketId) : Command → Prop
  | .installReconfiguredState newBackend => newBackend.sortedBuckets = ids
  | _ => True

/-- The command leaves the bucket set alone. -/
def Command.keepsBuckets : Command → Bool
  | .installReconfiguredState _ => false
  | _ => true

/-- What brings no buckets brings the wrong ones neither. -/
theorem installs_of_keepsBuckets {command : Command} {ids : List BucketId}
    (h_keeps : command.keepsBuckets = true) : command.Installs ids := by
  cases command with
  | installReconfiguredState => cases h_keeps
  | _ => trivial

abbrev KeepsBuckets {α : Type} (p : RedisProgram α) : Prop :=
  p.Issues fun command => command.keepsBuckets = true

theorem send_keepsBuckets {command : Command} (h_keeps : command.keepsBuckets = true) :
    KeepsBuckets (send command) :=
  .perform h_keeps

/-- The bucket set is an attribute. -/
theorem Harmless.keepsBuckets {α : Type} {p : RedisProgram α} (h_p : Harmless p) :
    KeepsBuckets p :=
  h_p.mono fun command h_harmless => by
    cases command with
    | installReconfiguredState => cases h_harmless
    | _ => rfl

/-- An override goes, its bucket stays. -/
theorem clearMaxCapacityOverride_keepsBuckets (owner : BucketOwner) (key : BucketKey) :
    KeepsBuckets (RedisBucket.clearMaxCapacityOverride owner key) :=
  (send_keepsBuckets rfl).bind fun _ => (updateCaches_harmless owner _).keepsBuckets

/-- An override is set for a bucket that is there. -/
theorem bucketSetMaxCapacity_keepsBuckets (key : BucketKey) (value : MaxCapacity) :
    KeepsBuckets (RedisBucket.setMaxCapacity key value) :=
  (send_keepsBuckets rfl).bind fun _ => (send_keepsBuckets rfl).bind fun _ =>
    (send_keepsBuckets rfl).bind fun _ => send_keepsBuckets rfl

namespace RedisBackend

/-- Neither the locks nor their release are about the bucket set. -/
theorem withLocks_keepsBuckets {α : Type} {acquire : RedisProgram LockStack}
    {body : LockStack → RedisProgram α} (h_acquire : Harmless acquire)
    (h_body : ∀ stack, KeepsBuckets (body stack)) : KeepsBuckets (withLocks acquire body) :=
  h_acquire.keepsBuckets.bind fun stack =>
    (h_body stack).ensuring (releaseLocks_harmless stack).keepsBuckets

/-- `set_max_capacity` changes the limit of one of the buckets. -/
theorem setMaxCapacity_keepsBuckets (id : BucketId) (value : ℚ) :
    KeepsBuckets (setMaxCapacity id value) := by
  refine (send_keepsBuckets rfl).bind fun client => ?_
  split
  · exact Issues.throw _
  · refine Issues.bind (withLocks_keepsBuckets (lockOrContention_harmless _) fun stack => ?_)
      fun _ => send_keepsBuckets rfl
    refine (extendLocks_harmless stack).keepsBuckets.bind fun _ => ?_
    refine (Issues.lift _).bind fun value => ?_
    exact (snapshotBucketState_harmless _ _).keepsBuckets.bind fun _ =>
      bucketSetMaxCapacity_keepsBuckets _ value

/-- `apply_configured_max_capacity` changes a default, and clears the override. -/
theorem applyConfiguredMaxCapacity_keepsBuckets (id : BucketId) (value : ℚ) :
    KeepsBuckets (applyConfiguredMaxCapacity id value) := by
  refine (send_keepsBuckets rfl).bind fun client => ?_
  split
  · exact Issues.throw _
  · refine Issues.bind (withLocks_keepsBuckets (lockOrContention_harmless _) fun stack => ?_)
      fun _ => send_keepsBuckets rfl
    refine (extendLocks_harmless stack).keepsBuckets.bind fun _ => ?_
    refine (Issues.lift _).bind fun value => ?_
    refine (snapshotBucketState_harmless _ _).keepsBuckets.bind fun _ => ?_
    exact (clearMaxCapacityOverride_keepsBuckets _ _).bind fun _ => send_keepsBuckets rfl

/-! ### A rebuild -/

/-- A bucket owner with these buckets, where it is a backend under construction. -/
def OwnsBuckets (keys : List BucketKey) : BucketOwner → Prop
  | .running => True
  | .rebuilt client => client.bucketKeys = keys

variable {keys : List BucketKey}

/-- A backend under construction keeps its buckets while its caches change. -/
theorem updateCaches_ownsBuckets {owner : BucketOwner} (h_owner : OwnsBuckets keys owner)
    (f : BucketCaches → BucketCaches) :
    (owner.updateCaches f).Emits (fun command => command.keepsBuckets = true) (OwnsBuckets keys) := by
  cases owner with
  | running => exact Issues.emits_bind (send_keepsBuckets rfl) fun _ => Emits.pure trivial
  | rebuilt client => exact Emits.pure h_owner

/-- The write of a bucket leaves its owner with the same buckets. -/
theorem setCapacity_ownsBuckets {owner : BucketOwner} (h_owner : OwnsBuckets keys owner)
    (key : BucketKey) (newCapacity currentTime : ℚ) (retention : Option MaxCapacity) :
    (RedisBucket.setCapacity owner key newCapacity currentTime retention).Emits
      (fun command => command.keepsBuckets = true) (OwnsBuckets keys) := by
  refine (ownerClient_harmless owner).keepsBuckets.emits_bind fun client => ?_
  refine (Issues.lift _).emits_bind fun _ => ?_
  refine (retainCapacityHistory_harmless key).keepsBuckets.emits_bind fun _ => ?_
  exact (send_keepsBuckets rfl).emits_bind fun _ => updateCaches_ownsBuckets h_owner _

/-- So does the commit of a plan. -/
theorem commitBucketSnapshot_ownsBuckets {owner : BucketOwner} (h_owner : OwnsBuckets keys owner)
    (plan : BucketSnapshotPlan) :
    (commitBucketSnapshot owner plan).Emits (fun command => command.keepsBuckets = true)
      (OwnsBuckets keys) := by
  refine (refreshMaxCapacityOverrideTtl_harmless _ _ _).keepsBuckets.emits_bind fun _ => ?_
  split
  · exact Emits.bind (Emits.pure h_owner) fun owner h_owner => updateCaches_ownsBuckets h_owner _
  · exact (setCapacity_ownsBuckets h_owner _ _ _ _).bind fun owner h_owner =>
      updateCaches_ownsBuckets h_owner _

theorem clearMaxCapacityOverride_ownsBuckets {owner : BucketOwner}
    (h_owner : OwnsBuckets keys owner) (key : BucketKey) :
    (RedisBucket.clearMaxCapacityOverride owner key).Emits
      (fun command => command.keepsBuckets = true) (OwnsBuckets keys) :=
  (send_keepsBuckets rfl).emits_bind fun _ => updateCaches_ownsBuckets h_owner _

theorem rebuiltBackend_buckets {client : RedisClient} {owner : BucketOwner}
    (h_client : client.bucketKeys = keys) (h_owner : OwnsBuckets keys owner) :
    (rebuiltBackend client owner).bucketKeys = keys := by
  cases owner with
  | running => exact h_client
  | rebuilt client' => exact h_owner

/-- One bucket of the second pass, on the backend under construction. -/
theorem commitPlan_emits {client : RedisClient} (h_client : client.bucketKeys = keys)
    (plan : BucketSnapshotPlan) :
    (commitPlan client plan).Emits (fun command => command.keepsBuckets = true)
      fun client' => client'.bucketKeys = keys := by
  have h_owner : OwnsBuckets keys (.rebuilt client) := h_client
  unfold commitPlan
  split
  · refine (commitBucketSnapshot_harmless _ _).keepsBuckets.emits_bind fun _ => ?_
    exact (clearMaxCapacityOverride_keepsBuckets _ _).emits_bind fun _ => Emits.pure h_client
  · refine (commitBucketSnapshot_harmless _ _).keepsBuckets.emits_bind fun _ => ?_
    refine (send_keepsBuckets rfl).emits_bind fun current => ?_
    split
    · exact (clearMaxCapacityOverride_ownsBuckets h_owner _).bind fun owner h_owner =>
        Emits.pure (rebuiltBackend_buckets h_client h_owner)
    · exact Emits.bind (Emits.pure h_owner) fun owner h_owner =>
        Emits.pure (rebuiltBackend_buckets h_client h_owner)
  · exact (commitBucketSnapshot_ownsBuckets h_owner plan).bind fun owner h_owner =>
      Emits.pure (rebuiltBackend_buckets h_client h_owner)

/-- The second pass ends with the buckets it started with, by induction on the plans. -/
theorem commitPlans_emits {client : RedisClient} (h_client : client.bucketKeys = keys)
    (stack : LockStack) (plans : List BucketSnapshotPlan) :
    (commitPlans stack client plans).Emits (fun command => command.keepsBuckets = true)
      fun client' => client'.bucketKeys = keys := by
  induction plans generalizing client with
  | nil => exact Emits.pure h_client
  | cons plan plans ih =>
    exact (extendLocks_harmless stack).keepsBuckets.emits_bind fun _ =>
      (commitPlan_emits h_client plan).bind fun client' h_client' => ih h_client'

/-- All a rebuild installs is the bucket set of the new backend. -/
theorem prepareReconfiguredBackend_emits (newBackend : RedisClient)
    (quotas : List (BucketId × MaxCapacity)) :
    (prepareReconfiguredBackend newBackend quotas).Emits
      (Command.Installs newBackend.sortedBuckets) fun _ => True := by
  have h_installs {α : Type} {p : RedisProgram α} (h_p : KeepsBuckets p) :
      p.Issues (Command.Installs newBackend.sortedBuckets) :=
    h_p.mono fun _ h_keeps => installs_of_keepsBuckets h_keeps
  refine (h_installs (send_keepsBuckets rfl)).emits_bind fun current => ?_
  refine Emits.bind (m := fun _ => True) ?_ fun _ _ =>
    (h_installs (send_keepsBuckets rfl)).emits
  refine (h_installs (lockOrContention_harmless _).keepsBuckets).emits_bind fun stack => ?_
  refine Emits.ensuring ?_ (h_installs (releaseLocks_harmless stack).keepsBuckets)
  refine Issues.emits_bind (Issues.lift _) fun targets => ?_
  refine (h_installs (prepareSnapshots_harmless _ _ _ _).keepsBuckets).emits_bind fun plans => ?_
  refine ((commitPlans_emits rfl stack plans).mono
    (fun _ h_keeps => installs_of_keepsBuckets h_keeps) fun _ h => h).bind fun made h_made => ?_
  refine (h_installs (extendLocks_harmless stack).keepsBuckets).emits_bind fun _ => ?_
  refine (h_installs (send_keepsBuckets rfl)).emits_bind fun current => ?_
  split
  · exact Emits.throw
  · have h_install : Command.Installs newBackend.sortedBuckets
        (.installReconfiguredState (reconfigured current made)) :=
      RedisClient.sortedBuckets_eq h_made
    exact (Issues.perform h_install).emits

end RedisBackend

/-! ## Views of a session -/

section Views

variable {V β : Type} {good : Turn → Prop} {view : Session → V} {s : Session}

/-- A command that is answered has been executed after what the others did. -/
theorem send_leads {command : Command} {post : command.Response → V → Prop}
    (h_others : ∀ turn s, good turn → view (s.withServer (turn.others s.server)) = view s)
    (h_post : ∀ (turn : Turn) (s' : Session), good turn → view s' = view s →
      s'.client = s.client → post (s'.execute turn command).1 (view (s'.execute turn command).2)) :
    (send command).Leads Session.serve good (fun a s' => post a (view s')) s := by
  refine Leads.perform fun turn response s' h_turn h_serve => ?_
  have h_same := h_others turn s h_turn
  simp only [Session.serve] at h_serve
  cases h_delivery : turn.delivery with
  | answered =>
    rw [h_delivery] at h_serve
    cases h_serve
    exact h_post turn _ h_turn h_same rfl
  | lost e =>
    rw [h_delivery] at h_serve
    cases h_serve
  | refused e =>
    rw [h_delivery] at h_serve
    cases h_serve

/-- The attributes of the process as it reads them. -/
theorem client_leads {g : RedisClient → RedisProgram β} {post : β → Session → Prop}
    (h_others : ∀ turn s, good turn → view (s.withServer (turn.others s.server)) = view s)
    (h_g : ∀ s', view s' = view s → s'.client = s.client →
      (g s.client).Leads Session.serve good post s') :
    (send .client >>= g).Leads Session.serve good post s := by
  have h_client : (send .client).Leads Session.serve good (fun client s' => client = s.client ∧
      s'.client = s.client ∧ view s' = view s) s :=
    @send_leads (RedisClient × V) good (fun s' => (s'.client, view s')) s .client
      (fun client v => client = s.client ∧ v.1 = s.client ∧ v.2 = view s)
      (fun turn s' h_turn => Prod.ext rfl (h_others turn s' h_turn))
      fun turn s' _ h_view h_same => ⟨h_same, h_same, congrArg Prod.snd h_view⟩
  refine h_client.bind fun client s' h => ?_
  rw [h.1]
  exact h_g s' h.2.2 h.2.1

end Views

end TokenThrottle
