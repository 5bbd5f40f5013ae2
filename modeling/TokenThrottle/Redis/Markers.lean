/-
  TokenThrottle.Redis.Markers

  Acquire markers and refund tombstones: what a command does to them, which commands a call
  of a limiter issues, and what the answers tell its worker.

  * The two mutation scripts are the only commands of a limiter that touch a marker or a
    tombstone; each moves the desk as it is entered in the book.
  * A `Fact` is what an answer says of a reservation.  A call that returns has been told that
    its reservation was consumed, or that it was credited.
-/
import TokenThrottle.Limiter.RedisWorkers
import TokenThrottle.Redis.Contention
import TokenThrottle.Theory.Redemption

namespace TokenThrottle

open Theory (Program Run Steps exists_run_of_exec)
open Theory.Program
open Theory.Redemption

/-- The markers and the tombstones of a server. -/
def RedisServer.desk (server : RedisServer) : Desk ReservationKey AcquiredMarker where
  live := server.acquired
  stub key := (server.refundDedup key).isSome

abbrev ReservationBook := Book ReservationKey AcquiredMarker

abbrev ReservationEntry := Theory.Redemption.Entry ReservationKey AcquiredMarker

/-! ## Commands -/

/-- The command deletes no marker by itself and installs no backend. -/
def Command.plain : Command → Bool
  | .setStates _ _ (some _) | .installReconfiguredState _ => false
  | _ => true

/-- The command deletes no marker by itself. -/
def Command.keepsMarkers : Command → Bool
  | .setStates _ _ (some _) => false
  | _ => true

/-- What a command that is executed enters in the book. -/
def Command.entry (server : RedisServer) : Command → ReservationEntry
  | .acquireMarkerSetScript key marker writes currentTime =>
    if (server.acquireMarkerSetScript key marker writes currentTime).1 = .ok then
      .issued key marker
    else .nothing
  | .refundWithMarkerScript key marker token writes currentTime =>
    if (server.refundWithMarkerScript key marker token writes currentTime).1 = .ok then
      .redeemed key marker
    else .nothing
  | _ => .nothing

section Moves

variable {turn : Turn} {s : Session} {command : Command}

theorem setStates_desk (server : RedisServer) (writes : List (BucketKey × ℚ)) (now : ℚ) :
    (server.setStates writes now).desk = server.desk := by
  obtain ⟨state, h_state⟩ := @RedisBackend.setStates_state now server writes
  rw [h_state]
  rfl

theorem setTombstone_desk (server : RedisServer) (key : ReservationKey) (token : Option Token) :
    (server.setTombstone key token).desk =
      ⟨server.desk.live, Function.update server.desk.stub key token.isSome⟩ := by
  refine Desk.ext rfl (funext fun other => ?_)
  simp only [RedisServer.desk, RedisServer.setTombstone]
  by_cases h_other : other = key
  · rw [h_other, Function.update_self, Function.update_self]
  · rw [Function.update_of_ne h_other, Function.update_of_ne h_other]

theorem acquireScript_move (server : RedisServer) (key : ReservationKey) (marker : AcquiredMarker)
    (writes : List (BucketKey × ℚ)) (now : ℚ) :
    Move server.desk (Command.entry server (.acquireMarkerSetScript key marker writes now))
      (server.acquireMarkerSetScript key marker writes now).2.desk := by
  by_cases h_ok : (server.acquireMarkerSetScript key marker writes now).1 = .ok
  · dsimp only [Command.entry]
    rw [if_pos h_ok]
    unfold RedisServer.acquireMarkerSetScript at h_ok ⊢
    split at h_ok
    -- a marker that is there makes it a replay or a duplicate
    · split at h_ok <;> cases h_ok
    · rename_i h_unmarked
      split at h_ok
      · cases h_ok
      · rename_i h_tombstone
        rw [if_neg h_tombstone]
        have h_desk : ((server.setStates writes now).setMarker key (some marker)).desk =
            ⟨Function.update server.desk.live key (some marker), server.desk.stub⟩ := by
          rw [← setStates_desk server writes now]
          rfl
        rw [h_desk]
        exact .issue marker h_unmarked (Bool.eq_false_of_not_eq_true h_tombstone)
  · dsimp only [Command.entry]
    rw [if_neg h_ok, acquireScript_rejected h_ok]
    exact .idle

/-- The refund script credits the marker that is there. -/
theorem refundScript_ok {server : RedisServer} {key : ReservationKey} {marker : AcquiredMarker}
    {token : Token} {writes : List (BucketKey × ℚ)} {now : ℚ}
    (h_ok : (server.refundWithMarkerScript key marker token writes now).1 = .ok) :
    server.acquired key = some marker ∧
      (server.refundWithMarkerScript key marker token writes now).2 =
        ((server.setStates writes now).setMarker key none).setTombstone key (some token) := by
  unfold RedisServer.refundWithMarkerScript at h_ok ⊢
  split at h_ok
  -- without a marker the reservation is refunded already, or unknown
  · split at h_ok
    · split at h_ok <;> cases h_ok
    · cases h_ok
  · rename_i existing h_existing
    split at h_ok
    · cases h_ok
    · rename_i h_same
      split at h_ok
      · cases h_ok
      · rename_i h_tombstone
        rw [if_neg h_same, if_neg h_tombstone]
        exact ⟨not_not.mp h_same ▸ h_existing, rfl⟩

theorem refundScript_move (server : RedisServer) (key : ReservationKey) (marker : AcquiredMarker)
    (token : Token) (writes : List (BucketKey × ℚ)) (now : ℚ) :
    Move server.desk (Command.entry server (.refundWithMarkerScript key marker token writes now))
      (server.refundWithMarkerScript key marker token writes now).2.desk := by
  by_cases h_ok : (server.refundWithMarkerScript key marker token writes now).1 = .ok
  · obtain ⟨h_marker, h_server⟩ := refundScript_ok h_ok
    have h_desk : (((server.setStates writes now).setMarker key none).setTombstone key
        (some token)).desk = ⟨Function.update server.desk.live key none,
          Function.update server.desk.stub key true⟩ := by
      rw [setTombstone_desk, ← setStates_desk server writes now]
      rfl
    dsimp only [Command.entry]
    rw [if_pos h_ok, h_server, h_desk]
    exact .redeem h_marker
  · dsimp only [Command.entry]
    rw [if_neg h_ok, refundScript_rejected h_ok]
    exact .idle

/-- A command moves the desk as it is entered in the book. -/
theorem execute_move (h_keeps : command.keepsMarkers = true) :
    Move s.server.desk (command.entry s.server) (s.execute turn command).2.server.desk := by
  have h_idle : ∀ {server : RedisServer}, server.desk = s.server.desk →
      Move s.server.desk .nothing server.desk := by
    intro server h_same
    rw [h_same]
    exact .idle
  cases command with
  | acquireMarkerSetScript key marker writes now =>
    exact acquireScript_move s.server key marker writes now
  | refundWithMarkerScript key marker token writes now =>
    exact refundScript_move s.server key marker token writes now
  | repairStates keys now => exact h_idle (setStates_desk s.server _ now)
  | setStates writes now deleteMarker =>
    cases deleteMarker with
    | none => exact h_idle (setStates_desk s.server writes now)
    | some key => cases h_keeps
  | acquireLock key token =>
    apply h_idle
    dsimp only [Session.execute]
    split <;> rfl
  | releaseLock key token =>
    apply h_idle
    dsimp only [Session.execute]
    split <;> rfl
  | refreshOverride key record expiresAt =>
    apply h_idle
    show (s.server.refreshOverride key record expiresAt).2.desk = _
    unfold RedisServer.refreshOverride
    split <;> rfl
  | _ => exact .idle

end Moves

/-! ## Footprints -/

/-- A program that leaves the markers to the scripts, and the backend in place. -/
abbrev Plain {α : Type} (p : RedisProgram α) : Prop :=
  p.Issues fun command => command.plain = true

theorem send_plain {command : Command} (h_plain : command.plain = true) : Plain (send command) :=
  .perform h_plain

theorem Recordless.plain {α : Type} {p : RedisProgram α} (h_p : Recordless p) : Plain p :=
  h_p.mono fun command h_recordless => by
    cases command with
    | setStates | installReconfiguredState => cases h_recordless
    | _ => rfl

theorem refreshMaxCapacityOverrideTtl_plain (owner : BucketOwner) (key : BucketKey)
    (override : Option MaxCapacity) :
    Plain (RedisBucket.refreshMaxCapacityOverrideTtl owner key override) := by
  cases override with
  | none => exact (retainCapacityHistory_recordless key).plain
  | some value =>
    refine (send_plain rfl).bind fun _ => (ownerClient_recordless owner).plain.bind fun _ => ?_
    exact (send_plain rfl).bind fun _ => .pure ()

theorem setCapacity_plain (owner : BucketOwner) (key : BucketKey) (newCapacity currentTime : ℚ)
    (retention : Option MaxCapacity) :
    Plain (RedisBucket.setCapacity owner key newCapacity currentTime retention) := by
  refine (ownerClient_recordless owner).plain.bind fun _ => (Issues.lift _).bind fun _ => ?_
  refine (retainCapacityHistory_recordless key).plain.bind fun _ =>
    (send_plain rfl).bind fun _ => ?_
  exact (updateCaches_recordless owner _).plain

theorem clearMaxCapacityOverride_plain (owner : BucketOwner) (key : BucketKey) :
    Plain (RedisBucket.clearMaxCapacityOverride owner key) :=
  (send_plain rfl).bind fun _ => (updateCaches_recordless owner _).plain

theorem bucketSetMaxCapacity_plain (key : BucketKey) (value : MaxCapacity) :
    Plain (RedisBucket.setMaxCapacity key value) := by
  refine (send_plain rfl).bind fun _ => (send_plain rfl).bind fun _ => ?_
  exact (send_plain rfl).bind fun _ => send_plain rfl

namespace RedisBackend

theorem lock_plain (keys : List BucketKey) : Plain (lock keys) :=
  (lockFrom_recordless keys []).plain

theorem withLocks_plain {α : Type} {keys : List BucketKey} {body : LockStack → RedisProgram α}
    (h_body : ∀ stack, Plain (body stack)) : Plain (withLocks (lockOrContention keys) body) :=
  (lockOrContention_recordless keys).plain.bind fun stack =>
    (h_body stack).ensuring (releaseLocks_recordless stack).plain

/-! ### Reading and writing the buckets -/

theorem parseResults_plain (results : BucketKey → BucketFields × Option OverrideRecord)
    (currentTime : ℚ) (keys : List BucketKey) :
    Plain (parseResults results currentTime keys) := by
  induction keys with
  | nil => exact .pure []
  | cons key keys ih =>
    refine (send_plain rfl).bind fun client => (send_plain rfl).bind fun history => ?_
    exact (Issues.lift _).bind fun calculated => ih.bind fun rest => .pure _

theorem retainHistories_plain (keys : List BucketKey) : Plain (retainHistories keys) := by
  induction keys with
  | nil => exact .pure ()
  | cons key keys ih => exact (retainCapacityHistory_recordless key).plain.bind fun _ => ih

theorem repairStates_plain (keys : List BucketKey) (currentTime : ℚ) :
    Plain (repairStates keys currentTime) := by
  cases keys with
  | nil => exact .pure ()
  | cons key keys => exact (retainHistories_plain _).bind fun _ => send_plain rfl

theorem refreshOverrides_plain (reads : List ParsedCapacityRead) :
    Plain (refreshOverrides reads) := by
  induction reads with
  | nil => exact .pure ()
  | cons read reads ih => exact (refreshMaxCapacityOverrideTtl_plain _ _ _).bind fun _ => ih

theorem getCapacitiesUnsafe_plain (keys : List BucketKey) (currentTime : ℚ) :
    Plain (getCapacitiesUnsafe keys currentTime) := by
  refine (send_plain rfl).bind fun results => (parseResults_plain _ _ _).bind fun reads => ?_
  refine (repairStates_plain _ _).bind fun _ => (refreshOverrides_plain _).bind fun _ => ?_
  exact (send_plain rfl).bind fun _ => .pure _

theorem queueWrites_plain (newCapacities : Capacities) (allowNegative : Bool)
    (keys : List BucketKey) : Plain (queueWrites newCapacities allowNegative keys) := by
  induction keys with
  | nil => exact .pure []
  | cons key keys ih =>
    refine (send_plain rfl).bind fun client => (Issues.lift _).bind fun _ => ?_
    exact (retainCapacityHistory_recordless key).plain.bind fun _ => ih.bind fun rest => .pure _

theorem setCapacitiesUnsafe_plain (newCapacities : Capacities) (keys : List BucketKey)
    (currentTime : ℚ) (allowNegative : Bool) :
    Plain (setCapacitiesUnsafe newCapacities keys currentTime allowNegative none) := by
  refine (queueWrites_plain _ _ _).bind fun writes => (send_plain rfl).bind fun _ => ?_
  exact (send_plain rfl).bind fun _ => .pure true

theorem invokeCallback_plain (slot : CallbackSlot) : Plain (invokeCallback slot) :=
  (send_plain rfl).bind fun _ => .when (send_plain rfl)

theorem freshStartBucketsCallback_plain (keys : List BucketKey) :
    Plain (freshStartBucketsCallback keys) := by
  induction keys with
  | nil => exact .pure ()
  | cons key keys ih => exact (invokeCallback_plain _).bind fun _ => ih

theorem consumptionCallbacks_plain (freshStartBuckets : List BucketKey) :
    Plain (consumptionCallbacks freshStartBuckets) :=
  (freshStartBucketsCallback_plain _).bind fun _ => invokeCallback_plain _

/-! ### Changing limits -/

theorem snapshotBucketState_plain (key : BucketKey) (proposed : MaxCapacity) :
    Plain (snapshotBucketState key proposed) := by
  refine (projectBucketState_recordless .running key).plain.bind fun projection => ?_
  refine (refreshMaxCapacityOverrideTtl_plain _ _ _).bind fun _ => ?_
  split
  · exact send_plain rfl
  · exact (setCapacity_plain _ _ _ _ _).bind fun _ => send_plain rfl

theorem setMaxCapacity_plain (id : BucketId) (value : ℚ) : Plain (setMaxCapacity id value) := by
  refine (send_plain rfl).bind fun client => ?_
  split
  · exact Issues.throw _
  · refine Issues.bind (withLocks_plain fun stack => ?_) fun _ => send_plain rfl
    refine (extendLocks_recordless stack).plain.bind fun _ => (Issues.lift _).bind fun value => ?_
    exact (snapshotBucketState_plain _ _).bind fun _ => bucketSetMaxCapacity_plain _ _

theorem applyConfiguredMaxCapacity_plain (id : BucketId) (value : ℚ) :
    Plain (applyConfiguredMaxCapacity id value) := by
  refine (send_plain rfl).bind fun client => ?_
  split
  · exact Issues.throw _
  · refine Issues.bind (withLocks_plain fun stack => ?_) fun _ => send_plain rfl
    refine (extendLocks_recordless stack).plain.bind fun _ => (Issues.lift _).bind fun value => ?_
    refine (snapshotBucketState_plain _ _).bind fun _ => ?_
    exact (clearMaxCapacityOverride_plain _ _).bind fun _ => send_plain rfl

theorem commitBucketSnapshot_plain (owner : BucketOwner) (plan : BucketSnapshotPlan) :
    Plain (commitBucketSnapshot owner plan) := by
  refine (refreshMaxCapacityOverrideTtl_plain _ _ _).bind fun _ => ?_
  split
  · exact (Issues.pure owner).bind fun _ => (updateCaches_recordless _ _).plain
  · exact (setCapacity_plain _ _ _ _ _).bind fun _ => (updateCaches_recordless _ _).plain

theorem commitPlan_plain (client : RedisClient) (plan : BucketSnapshotPlan) :
    Plain (commitPlan client plan) := by
  unfold commitPlan
  split
  · refine (commitBucketSnapshot_plain _ _).bind fun _ => ?_
    exact (clearMaxCapacityOverride_plain _ _).bind fun _ => .pure _
  · refine (commitBucketSnapshot_plain _ _).bind fun _ => (send_plain rfl).bind fun current => ?_
    split
    · exact (clearMaxCapacityOverride_plain _ _).bind fun _ => .pure _
    · exact (Issues.pure _).bind fun _ => .pure _
  · exact (commitBucketSnapshot_plain _ _).bind fun _ => .pure _

theorem commitPlans_plain (stack : LockStack) (client : RedisClient)
    (plans : List BucketSnapshotPlan) : Plain (commitPlans stack client plans) := by
  induction plans generalizing client with
  | nil => exact .pure client
  | cons plan plans ih =>
    refine (extendLocks_recordless stack).plain.bind fun _ => ?_
    exact (commitPlan_plain client plan).bind fun client' => ih client'

theorem prepareSnapshots_plain (stack : LockStack) (current newBackend : RedisClient)
    (targets : List RebuildTarget) :
    Plain (prepareSnapshots stack current newBackend targets) := by
  induction targets with
  | nil => exact .pure []
  | cons target targets ih =>
    have h_prepare : ∀ owner key, Plain (prepareSnapshot owner target key) := by
      intro owner key
      refine (projectBucketState_recordless owner key).plain.bind fun projection => ?_
      refine (ownerClient_recordless owner).plain.bind fun client => ?_
      split
      · exact .pure _
      · exact (Issues.lift _).bind fun _ => .pure _
    refine (extendLocks_recordless stack).plain.bind fun _ => (h_prepare _ _).bind fun _ => ?_
    exact ih.bind fun _ => .pure _

end RedisBackend

/-! ## What answers tell -/

/-- The reservation was consumed with this marker; or a reservation of the key was credited. -/
inductive Fact
  | reserved (key : ReservationKey) (marker : AcquiredMarker)
  | credited (key : ReservationKey)

def Fact.Holds (book : ReservationBook) : Fact → Prop
  | .reserved key marker => book.Issued key marker
  | .credited key => book.Redeemed key

/-- What the answer to a command tells. -/
def Command.tells : (command : Command) → Except BackendError command.Response → List Fact
  | .acquireMarkerSetScript key marker _ _, .ok .ok => [.reserved key marker]
  | .acquireMarkerSetScript key marker _ _, .ok .replayedAcquire => [.reserved key marker]
  | .getMarker key, .ok (some marker) => [.reserved key marker]
  | .refundWithMarkerScript key _ _ _ _, .ok .ok => [.credited key]
  | .refundWithMarkerScript key _ _ _ _, .ok .replayedRefund => [.credited key]
  | .tombstoneExists key, .ok true => [.credited key]
  | _, _ => []

theorem Fact.Holds.enter {book : ReservationBook} {fact : Fact} (h_holds : fact.Holds book)
    (entry : ReservationEntry) : fact.Holds (book.enter entry) := by
  cases fact with
  | reserved key marker => exact Book.Issued.enter h_holds
  | credited key => exact Book.Redeemed.enter h_holds

section Told

variable {turn : Turn} {s : Session} {command : Command} {book : ReservationBook}

/-- What an answer tells is so once the command is entered in the book. -/
theorem execute_tells (h_bal : Balanced s.server.desk book) :
    ∀ fact ∈ command.tells (.ok (s.execute turn command).1),
      fact.Holds (book.enter (command.entry s.server)) := by
  cases command with
  | acquireMarkerSetScript key marker writes now =>
    show ∀ fact ∈ Command.tells (.acquireMarkerSetScript key marker writes now)
      (.ok (s.server.acquireMarkerSetScript key marker writes now).1), _
    intro fact h_mem
    cases h_status : (s.server.acquireMarkerSetScript key marker writes now).1 with
    | ok =>
      rw [h_status] at h_mem
      obtain rfl := List.mem_singleton.mp h_mem
      dsimp only [Command.entry]
      rw [if_pos h_status]
      exact book.issued_enter key marker
    | replayedAcquire =>
      rw [h_status] at h_mem
      obtain rfl := List.mem_singleton.mp h_mem
      have h_live : s.server.acquired key = some marker := by
        unfold RedisServer.acquireMarkerSetScript at h_status
        split at h_status
        · rename_i existing h_existing
          split at h_status
          · rename_i h_same
            rw [h_existing, h_same]
          · cases h_status
        · split at h_status <;> cases h_status
      exact (h_bal.issued_of_live h_live).enter
    | duplicateAcquire =>
      rw [h_status] at h_mem
      exact absurd h_mem List.not_mem_nil
  | refundWithMarkerScript key marker token writes now =>
    show ∀ fact ∈ Command.tells (.refundWithMarkerScript key marker token writes now)
      (.ok (s.server.refundWithMarkerScript key marker token writes now).1), _
    intro fact h_mem
    have h_move := refundScript_move s.server key marker token writes now
    cases h_status : (s.server.refundWithMarkerScript key marker token writes now).1 with
    | ok =>
      rw [h_status] at h_mem
      obtain rfl := List.mem_singleton.mp h_mem
      -- the tombstone that the script leaves stands for the credit
      apply (h_bal.move h_move).stubbed key
      rw [(refundScript_ok h_status).2, setTombstone_desk]
      exact Function.update_self ..
    | replayedRefund =>
      rw [h_status] at h_mem
      obtain rfl := List.mem_singleton.mp h_mem
      have h_stub : s.server.desk.stub key = true := by
        unfold RedisServer.refundWithMarkerScript at h_status
        split at h_status
        · split at h_status
          · rename_i tombstone h_tombstone
            show (s.server.refundDedup key).isSome = true
            rw [h_tombstone]
            rfl
          · cases h_status
        · split at h_status
          · cases h_status
          · split at h_status <;> cases h_status
      exact (h_bal.stubbed key h_stub).enter
    | duplicateRefund | unknownReservation | markerMismatch | incoherentRefund =>
      rw [h_status] at h_mem
      exact absurd h_mem List.not_mem_nil
  | getMarker key =>
    show ∀ fact ∈ Command.tells (.getMarker key) (.ok (s.server.acquired key)), _
    intro fact h_mem
    cases h_live : s.server.acquired key with
    | none =>
      rw [h_live] at h_mem
      exact absurd h_mem List.not_mem_nil
    | some marker =>
      rw [h_live] at h_mem
      obtain rfl := List.mem_singleton.mp h_mem
      exact (h_bal.issued_of_live h_live).enter
  | tombstoneExists key =>
    show ∀ fact ∈ Command.tells (.tombstoneExists key) (.ok (s.server.refundDedup key).isSome), _
    intro fact h_mem
    cases h_stub : (s.server.refundDedup key).isSome with
    | false =>
      rw [h_stub] at h_mem
      exact absurd h_mem List.not_mem_nil
    | true =>
      rw [h_stub] at h_mem
      obtain rfl := List.mem_singleton.mp h_mem
      exact (h_bal.stubbed key h_stub).enter
  | _ => exact fun fact h_mem => absurd h_mem List.not_mem_nil

end Told

/-- A backend that is installed is for this key prefix. -/
def Command.installsUnder (keyPrefix : String) : Command → Prop
  | .installReconfiguredState newBackend => newBackend.keyPrefix = keyPrefix
  | _ => True

/-- The backend that is read is for this key prefix. -/
def ReadsUnder (keyPrefix : String) :
    (command : Command) → Except BackendError command.Response → Prop
  | .client, .ok client => client.keyPrefix = keyPrefix
  | _, _ => True

/-- A worker on a key prefix, by what it was told. -/
def atDesk (keyPrefix : String) :
    Theory.Protocol Command Command.Response BackendError (List Fact) where
  allowed _ command := command.keepsMarkers = true ∧ command.installsUnder keyPrefix
  after told command answer told' :=
    ReadsUnder keyPrefix command answer ∧ told' = command.tells answer ++ told

/-- A program for a worker at the desk; where it returns, `post` holds of what it was told. -/
abbrev Tells {α : Type} (keyPrefix : String) (post : α → List Fact → Prop) (p : RedisProgram α)
    (told : List Fact) : Prop :=
  p.Follows (atDesk keyPrefix)
    (fun result told' => told ⊆ told' ∧ ∀ a, result = .ok a → post a told') told

section Rules

variable {α β : Type} {keyPrefix : String} {told : List Fact} {p : RedisProgram α}
  {m post : α → List Fact → Prop}

theorem Plain.tells (h_p : Plain p) : Tells keyPrefix (fun _ _ => True) p told := by
  suffices h_from : ∀ base, base ⊆ told → p.Follows (atDesk keyPrefix)
      (fun result told' => base ⊆ told' ∧ ∀ a, result = .ok a → True) told from
    h_from told (List.Subset.refl told)
  intro base h_base
  -- on the program; what is told only grows, so `base` stays within it
  induction p generalizing told with
  | done result => exact ⟨h_base, fun _ _ => trivial⟩
  | call command next ih =>
    have h_allowed : (atDesk keyPrefix).allowed told command := by
      have h_plain := h_p.1
      cases command with
      | setStates writes now deleteMarker =>
        cases deleteMarker with
        | none => exact ⟨rfl, trivial⟩
        | some key => cases h_plain
      | installReconfiguredState client => cases h_plain
      | _ => exact ⟨rfl, trivial⟩
    refine ⟨h_allowed, fun answer told' h_after => ?_⟩
    obtain ⟨_, rfl⟩ := h_after
    exact ih answer (h_p.2 answer)
      (List.Subset.trans h_base (List.subset_append_right _ _))

theorem Tells.mono {post' : α → List Fact → Prop} (h_p : Tells keyPrefix m p told)
    (h_post : ∀ a told', told ⊆ told' → m a told' → post' a told') :
    Tells keyPrefix post' p told :=
  Follows.mono h_p fun _ _ h_m => ⟨h_m.1, fun a h_ok => h_post a _ h_m.1 (h_m.2 a h_ok)⟩

theorem Tells.pure {a : α} (h_post : post a told) :
    Tells keyPrefix post (Pure.pure a : RedisProgram α) told := by
  refine ⟨List.Subset.refl told, fun a' h_ok => ?_⟩
  cases h_ok
  exact h_post

theorem Tells.throw {e : BackendError} :
    Tells keyPrefix post (MonadExcept.throw e : RedisProgram α) told :=
  ⟨List.Subset.refl told, fun _ h_ok => nomatch h_ok⟩

/-- What follows a program, however it ends. -/
theorem Tells.settle {f : Except BackendError α → RedisProgram β} {post : β → List Fact → Prop}
    (h_p : Tells keyPrefix m p told)
    (h_f : ∀ result told', told ⊆ told' → (∀ a, result = .ok a → m a told') →
      Tells keyPrefix post (f result) told') :
    Tells keyPrefix post (p.settle f) told :=
  Follows.settle h_p fun result told' h_m =>
    Follows.mono (h_f result told' h_m.1 h_m.2) fun _ _ h_post =>
      ⟨List.Subset.trans h_m.1 h_post.1, h_post.2⟩

theorem Tells.bind {f : α → RedisProgram β} {post : β → List Fact → Prop}
    (h_p : Tells keyPrefix m p told)
    (h_f : ∀ a told', told ⊆ told' → m a told' → Tells keyPrefix post (f a) told') :
    Tells keyPrefix post (p >>= f) told := by
  refine Tells.settle h_p fun result told' h_sub h_m => ?_
  cases result with
  | ok a => exact h_f a told' h_sub (h_m a rfl)
  | error e => exact Tells.throw

/-- What follows a program that tells nothing of use. -/
theorem Tells.then {f : α → RedisProgram β} {post : β → List Fact → Prop} (h_p : Plain p)
    (h_f : ∀ a told', told ⊆ told' → Tells keyPrefix post (f a) told') :
    Tells keyPrefix post (p >>= f) told :=
  Tells.bind h_p.tells fun a told' h_sub _ => h_f a told' h_sub

theorem Tells.attempt (h_p : Tells keyPrefix post p told) :
    Tells keyPrefix (fun result told' => ∀ a, result = .ok a → post a told') p.attempt told := by
  refine Tells.settle h_p fun result told' _ h_post => ?_
  exact Tells.pure h_post

theorem Tells.ensuring {cleanup : RedisProgram Unit} (h_p : Tells keyPrefix post p told)
    (h_cleanup : Plain cleanup)
    (h_stays : ∀ a told told', told ⊆ told' → post a told → post a told') :
    Tells keyPrefix post (p.ensuring cleanup) told := by
  refine Tells.settle h_p fun result told' _ h_post => ?_
  refine Tells.settle h_cleanup.tells fun cleaned told'' h_sub _ => ?_
  cases cleaned with
  | error e => exact Tells.throw
  | ok _ =>
    cases result with
    | error e => exact Tells.throw
    | ok a => exact Tells.pure (h_stays a told' told'' h_sub (h_post a rfl))

/-- The worker's backend is for its key prefix. -/
theorem client_tells :
    Tells keyPrefix (fun client _ => client.keyPrefix = keyPrefix) (send .client) told := by
  refine ⟨⟨rfl, trivial⟩, fun answer told' h_after => ?_⟩
  obtain ⟨h_reads, rfl⟩ := h_after
  refine ⟨List.Subset.refl _, fun client h_ok => ?_⟩
  subst h_ok
  exact h_reads

/-- One command, and what its answer tells. -/
theorem send_tells {command : Command} (h_plain : command.plain = true) :
    Tells keyPrefix (fun response told' => command.tells (.ok response) ⊆ told') (send command)
      told := by
  have h_follows : Tells keyPrefix (fun _ _ => True) (send command) told :=
    (send_plain h_plain).tells
  refine ⟨h_follows.1, fun answer told' h_after => ?_⟩
  obtain ⟨_, rfl⟩ := h_after
  refine ⟨List.subset_append_right _ _, fun response h_ok => ?_⟩
  rw [h_ok]
  exact List.subset_append_left _ _

end Rules

/-! ## Calls -/

/-- The worker was told that the reservation it asked for is consumed. -/
def ToldReserved (keyPrefix : String) (reservationId : Option ReservationId) (usage : FrozenUsage)
    (told : List Fact) : Prop :=
  ∀ rid, reservationId = some rid → ∃ marker, Fact.reserved ⟨keyPrefix, rid⟩ marker ∈ told ∧
    marker.reservationId = rid ∧ marker.usage = usage

/-- The worker was told that the reservation it refunds is credited. -/
def ToldCredited (keyPrefix : String) (reservationId : Option ReservationId) (told : List Fact) :
    Prop :=
  ∀ rid, reservationId = some rid → Fact.credited ⟨keyPrefix, rid⟩ ∈ told

namespace RedisBackend

variable {keyPrefix : String} {told : List Fact} {usage : FrozenUsage}
  {reservationId : Option ReservationId} {lifetime : Option ℚ} {key : ReservationKey}
  {marker : AcquiredMarker} {keys : List BucketKey} {capacities : Capacities} {currentTime : ℚ}

theorem toldReserved_of_subset {told' : List Fact} (h_sub : told ⊆ told')
    (h_told : ToldReserved keyPrefix reservationId usage told) :
    ToldReserved keyPrefix reservationId usage told' := by
  intro rid h_rid
  obtain ⟨marker, h_mem, h_marker⟩ := h_told rid h_rid
  exact ⟨marker, h_sub h_mem, h_marker⟩

theorem toldCredited_of_subset {told' : List Fact} (h_sub : told ⊆ told')
    (h_told : ToldCredited keyPrefix reservationId told) :
    ToldCredited keyPrefix reservationId told' :=
  fun rid h_rid => h_sub (h_told rid h_rid)

/-! ### Claiming a marker -/

theorem acquireMarkerMatches_tells (key : ReservationKey) (marker : AcquiredMarker) :
    Tells keyPrefix (fun matched told' => matched = true → .reserved key marker ∈ told')
      (acquireMarkerMatches key marker) told := by
  refine Tells.bind (send_tells rfl).attempt fun found told₁ _ h_found => ?_
  split
  -- a marker that was read is in the book, the one that was expected too if they match
  · rename_i found
    refine Tells.pure fun h_matched => h_found found rfl ?_
    rw [of_decide_eq_true h_matched]
    exact List.mem_singleton_self _
  · exact Tells.pure fun h_matched => absurd h_matched Bool.false_ne_true
  · exact Tells.throw

theorem bucketCapacityStateMatches_plain (expected : Capacities) (keys : List BucketKey) :
    Plain (bucketCapacityStateMatches expected keys) := by
  induction keys with
  | nil => exact .pure true
  | cons key keys ih =>
    refine (send_plain rfl).attempt.bind fun capacity => ?_
    split
    · split
      · exact ih
      · exact .pure false
    · exact .pure false
    · exact .throw _

theorem acquireMarkerCommitMatches_tells (key : ReservationKey) (marker : AcquiredMarker)
    (expected : Capacities) (keys : List BucketKey) :
    Tells keyPrefix (fun matched told' => matched = true → .reserved key marker ∈ told')
      (acquireMarkerCommitMatches key marker expected keys) told := by
  refine Tells.bind (acquireMarkerMatches_tells key marker) fun matched told₁ _ h_matched => ?_
  split
  · rename_i h_marker
    refine (bucketCapacityStateMatches_plain expected keys).tells.mono fun _ _ h_sub _ _ => ?_
    exact h_sub (h_matched h_marker)
  · exact Tells.pure fun h_matched => absurd h_matched Bool.false_ne_true

/-- A marked write that does not raise: its marker is there, by this call or an earlier one. -/
theorem setCapacitiesWithMarker_tells (allowNegative : Bool) (key : ReservationKey)
    (marker : AcquiredMarker) :
    Tells keyPrefix (fun _ told' => .reserved key marker ∈ told')
      (setCapacitiesWithMarker capacities keys currentTime allowNegative key marker) told := by
  refine Tells.then (send_plain rfl) fun client told₁ _ => ?_
  refine Tells.then (Issues.lift _) fun writes told₂ _ => ?_
  refine Tells.then (retainHistories_plain _) fun _ told₃ _ => ?_
  refine Tells.bind (send_tells rfl).attempt fun status told₄ _ h_status => ?_
  split
  -- written now, or by an earlier try of the same acquire
  · refine Tells.then (send_plain rfl) fun _ told₅ h_sub => Tells.pure (h_sub ?_)
    exact h_status _ rfl (List.mem_singleton_self _)
  · exact Tells.pure (h_status _ rfl (List.mem_singleton_self _))
  -- refused as a duplicate: only a marker that reads back as its own excuses it
  · refine Tells.bind (acquireMarkerMatches_tells key marker) fun matched told₅ _ h_matched => ?_
    split
    · rename_i h_true
      exact Tells.pure (h_matched h_true)
    · exact Tells.throw
  -- the answer is lost: the marker is read to see whether the script ran
  · refine Tells.bind (acquireMarkerCommitMatches_tells key marker _ _)
      fun landed told₅ _ h_landed => ?_
    split
    · rename_i h_true
      exact Tells.pure (h_landed h_true)
    · exact Tells.throw
  · exact Tells.throw

theorem writeConsumption_tells (allowNegative : Bool)
    (marker : Option (ReservationKey × AcquiredMarker)) :
    Tells keyPrefix
      (fun _ told' => ∀ reservation ∈ marker, .reserved reservation.1 reservation.2 ∈ told')
      (writeConsumption capacities keys currentTime allowNegative marker) told := by
  cases marker with
  | none =>
    refine (setCapacitiesUnsafe_plain _ _ _ _).tells.mono fun _ _ _ _ reservation h_mem => ?_
    cases h_mem
  | some reservation =>
    refine (setCapacitiesWithMarker_tells _ _ _).mono fun _ _ _ h_told reservation h_mem => ?_
    cases h_mem
    exact h_told

/-- The marker arguments of a consumption are about its own reservation and usage. -/
theorem toldReserved_of_acquiredMarker {client : RedisClient}
    {marker : Option (ReservationKey × AcquiredMarker)}
    (h_under : client.keyPrefix = keyPrefix)
    (h_marker : acquiredMarker client reservationId lifetime usage keys = .ok marker)
    (h_told : ∀ reservation ∈ marker, Fact.reserved reservation.1 reservation.2 ∈ told) :
    ToldReserved keyPrefix reservationId usage told := by
  rintro rid rfl
  unfold acquiredMarker redisAcquiredMarkerValue at h_marker
  dsimp only at h_marker
  split at h_marker
  · cases h_marker
  · change (if lifetime.any (0 < ·) then _ else _ : Except BackendError _) = _ at h_marker
    split at h_marker
    · cases h_marker
      refine ⟨⟨rid, client.modelFamily, idsOf keys, usage⟩, ?_, rfl, rfl⟩
      rw [← h_under]
      exact h_told _ rfl
    · cases h_marker

theorem lift_tells {α : Type} (x : Except BackendError α) :
    Tells keyPrefix (fun a _ => x = .ok a) (Program.lift x) told :=
  ⟨List.Subset.refl told, fun _ h_ok => h_ok⟩

/-! ### Acquiring and consuming -/

/-- The write of a consumption with the marker of its reservation. -/
theorem writeReserved_tells (client : RedisClient) (h_under : client.keyPrefix = keyPrefix)
    {marker : Option (ReservationKey × AcquiredMarker)}
    (h_marker : acquiredMarker client reservationId lifetime usage keys = .ok marker)
    (allowNegative : Bool) :
    Tells keyPrefix (fun _ told' => ToldReserved keyPrefix reservationId usage told')
      (writeConsumption capacities keys currentTime allowNegative marker) told :=
  (writeConsumption_tells allowNegative marker).mono fun _ _ _ h_told =>
    toldReserved_of_acquiredMarker h_under h_marker h_told

theorem attemptUnderLocks_tells (stack : LockStack) :
    Tells keyPrefix (fun attempt told' => attempt.available = true →
        ToldReserved keyPrefix reservationId usage told')
      (attemptUnderLocks usage reservationId lifetime keys stack) told := by
  refine Tells.then (send_plain rfl) fun currentTime told₁ _ => ?_
  refine Tells.then (getCapacitiesUnsafe_plain _ _) fun read told₂ _ => ?_
  refine Tells.bind client_tells fun client told₃ _ h_under => ?_
  dsimp only
  split
  · exact Tells.throw
  · split
    · exact Tells.throw
    · split
      -- denied
      · refine Tells.then (freshStartBucketsCallback_plain _) fun _ told₄ _ => ?_
        exact Tells.pure fun h_available => absurd h_available Bool.false_ne_true
      -- within capacity: written with its marker, whatever arrives while the write is awaited
      · refine Tells.then (extendLocks_recordless stack).plain fun _ told₄ _ => ?_
        refine Tells.bind (lift_tells _) fun marker told₅ _ h_marker => ?_
        refine Tells.bind (writeReserved_tells client h_under h_marker false).attempt
          fun written told₆ _ h_written => ?_
        refine Tells.then (send_plain rfl).attempt fun awaited told₇ h_sub => ?_
        split
        · exact Tells.pure fun _ => toldReserved_of_subset h_sub (h_written _ rfl)
        · exact Tells.pure fun _ => toldReserved_of_subset h_sub (h_written _ rfl)
        · exact Tells.throw
        · exact Tells.throw

/-- A tombstone without a marker is what a credit leaves. -/
theorem refundTerminalStateMatches_tells (key : ReservationKey) (expected : Capacities)
    (keys : List BucketKey) :
    Tells keyPrefix (fun matched told' => matched = true → .credited key ∈ told')
      (refundTerminalStateMatches key expected keys) told := by
  have h_read : Tells keyPrefix (fun terminal told' => terminal = true → .credited key ∈ told')
      (do
        let tombstone ← send (.tombstoneExists key)
        let marker ← send (.getMarker key)
        return tombstone && marker.isNone) told := by
    refine Tells.bind (send_tells rfl) fun tombstone told₁ _ h_tombstone => ?_
    refine Tells.then (send_plain rfl) fun marker told₂ h_sub => ?_
    refine Tells.pure fun h_both => h_sub (h_tombstone ?_)
    obtain ⟨rfl, _⟩ := Bool.and_eq_true_iff.mp h_both
    exact List.mem_singleton_self _
  refine Tells.bind h_read.attempt fun terminal told₁ _ h_credited => ?_
  split
  · refine (bucketCapacityStateMatches_plain _ _).tells.mono fun _ _ h_sub _ _ => ?_
    exact h_sub (h_credited _ rfl rfl)
  · exact Tells.pure fun h_false => absurd h_false Bool.false_ne_true
  · exact Tells.pure fun h_false => absurd h_false Bool.false_ne_true
  · exact Tells.throw

/-- A commit that does not raise: the reservation is credited, by this call or by one before. -/
theorem commitRefundWithAcquireMarkerUnsafe_tells (key : ReservationKey) (marker : AcquiredMarker) :
    Tells keyPrefix (fun _ told' => .credited key ∈ told')
      (commitRefundWithAcquireMarkerUnsafe capacities keys currentTime key marker) told := by
  refine Tells.then (send_plain rfl) fun token told₁ _ => ?_
  refine Tells.then (send_plain rfl) fun client told₂ _ => ?_
  refine Tells.then (Issues.lift _) fun writes told₃ _ => ?_
  refine Tells.then (retainHistories_plain _) fun _ told₄ _ => ?_
  refine Tells.bind (send_tells rfl).attempt fun status told₅ _ h_status => ?_
  split
  -- credited now, or by an earlier try of the same refund
  · refine (send_plain rfl).tells.mono fun _ _ h_sub _ => h_sub ?_
    exact h_status _ rfl (List.mem_singleton_self _)
  · exact Tells.pure (h_status _ rfl (List.mem_singleton_self _))
  -- every other status raises
  · exact Tells.throw
  · exact Tells.throw
  · exact Tells.throw
  · exact Tells.throw
  -- the answer is lost: a tombstone in the marker's place shows that the script ran
  · refine Tells.bind (refundTerminalStateMatches_tells _ _ _) fun landed told₆ _ h_landed => ?_
    split
    · rename_i h_true
      exact Tells.pure (h_landed h_true)
    · exact Tells.throw
  · exact Tells.throw

/-- A body under the locks of a call; the release of the locks tells nothing. -/
theorem withLocks_tells {α : Type} {post : α → List Fact → Prop}
    {body : LockStack → RedisProgram α}
    (h_body : ∀ stack told', Tells keyPrefix post (body stack) told')
    (h_stays : ∀ a told told', told ⊆ told' → post a told → post a told') :
    Tells keyPrefix post (withLocks (lockOrContention keys) body) told := by
  refine Tells.then (lockOrContention_recordless keys).plain fun stack told₁ _ => ?_
  exact (h_body stack told₁).ensuring (releaseLocks_recordless stack).plain h_stays

/-- Under a limiter the cleanup leaves the marker to the refund script. -/
theorem refundCancelledConsumption_tells :
    Tells keyPrefix (fun _ _ => True) (refundCancelledConsumption usage reservationId true keys)
      told := by
  have h_locked : ∀ stack told', Tells keyPrefix (fun _ _ => True)
      (refundCancelledUnderLocks usage reservationId true keys stack) told' := by
    intro stack told'
    refine Tells.then (send_plain rfl) fun currentTime told₁ _ => ?_
    refine Tells.then (getCapacitiesUnsafe_plain _ _) fun read told₂ _ => ?_
    refine Tells.then (send_plain rfl) fun client told₃ _ => ?_
    refine Tells.then (extendLocks_recordless stack).plain fun _ told₄ _ => ?_
    cases reservationId with
    | none => exact Tells.then (setCapacitiesUnsafe_plain _ _ _ _) fun _ _ _ => Tells.pure trivial
    | some rid =>
      refine Tells.then (Issues.lift _) fun marker told₅ _ => ?_
      exact (commitRefundWithAcquireMarkerUnsafe_tells _ marker).mono fun _ _ _ _ => trivial
  refine Tells.bind (withLocks_tells h_locked fun _ _ _ _ h_true => h_true) fun _ _ _ _ => ?_
  exact (send_plain rfl).tells

/-- An interrupted consumption raises once it is cleaned up. -/
theorem refundInterrupted_tells {α : Type} {post : α → List Fact → Prop} (e : BackendError) :
    Tells keyPrefix post (refundInterrupted usage reservationId true keys e) told := by
  refine Tells.settle refundCancelledConsumption_tells fun cleaned told' _ _ => ?_
  split
  · exact Tells.throw
  · exact Tells.throw

theorem finishAttempt_tells {attempt : LockedAttempt} (interruption : Option BackendError)
    (h_told : attempt.available = true → ToldReserved keyPrefix reservationId usage told) :
    Tells keyPrefix (fun result told' => result.available = true →
        ToldReserved keyPrefix reservationId usage told')
      (finishAttempt usage reservationId true keys attempt interruption) told := by
  unfold finishAttempt
  split
  -- interrupted: nothing is reported
  · split
    · exact refundInterrupted_tells _
    · exact Tells.throw
  · split
    · exact Tells.pure fun h_available => absurd h_available Bool.false_ne_true
    · rename_i h_available
      rw [not_not] at h_available
      split
      -- a replay has the reservation of the earlier call
      · exact Tells.pure fun _ => h_told h_available
      · refine Tells.settle (consumptionCallbacks_plain _).tells fun called told' h_sub _ => ?_
        split
        · exact Tells.pure fun _ => toldReserved_of_subset h_sub (h_told h_available)
        · exact refundInterrupted_tells _

/-- An attempt that reports capacity has its reservation. -/
theorem checkAndConsumeCapacity_tells :
    Tells keyPrefix (fun result told' => result.available = true →
        ToldReserved keyPrefix reservationId usage told')
      (checkAndConsumeCapacity usage reservationId lifetime true) told := by
  refine Tells.then (send_plain rfl) fun client told₁ _ => ?_
  refine Tells.then (lock_plain _) fun stack told₂ _ => ?_
  refine Tells.bind (attemptUnderLocks_tells stack).attempt fun attempted told₃ _ h_attempted => ?_
  refine Tells.then (releaseLocks_recordless stack).plain.attempt fun released told₄ h_sub => ?_
  split
  · exact finishAttempt_tells _ fun h_available =>
      toldReserved_of_subset h_sub (h_attempted _ rfl h_available)
  · exact finishAttempt_tells _ fun h_available =>
      toldReserved_of_subset h_sub (h_attempted _ rfl h_available)
  · exact Tells.throw
  · exact Tells.throw

theorem finishWait_tells {hasWaited : Bool} {result : CheckResult}
    (h_told : ToldReserved keyPrefix reservationId usage told) :
    Tells keyPrefix (fun result told' => result.isSome = true →
        ToldReserved keyPrefix reservationId usage told')
      (finishWait usage reservationId true hasWaited result) told := by
  unfold finishWait
  split
  · refine Tells.settle (invokeCallback_plain _).tells fun called told' h_sub _ => ?_
    split
    · exact Tells.pure fun _ => toldReserved_of_subset h_sub h_told
    · exact refundInterrupted_tells _
  · exact Tells.pure fun _ => h_told

theorem waitStartCallback_plain (deadline : Option ℚ) : Plain (waitStartCallback deadline) := by
  refine (send_plain rfl).bind fun client => Issues.when ?_
  refine (send_plain rfl).bind fun started => ?_
  split
  · exact .throw _
  · refine (send_plain rfl).bind fun _ => (send_plain rfl).bind fun now => ?_
    split
    · exact .throw _
    · exact .pure ()

/-- Induction on the attempts: one that is denied is followed by another, or raises. -/
theorem awaitLoop_tells (deadline : Option ℚ) (attempts : ℕ) (hasWaited : Bool) :
    Tells keyPrefix (fun result told' => result.isSome = true →
        ToldReserved keyPrefix reservationId usage told')
      (awaitLoop usage reservationId lifetime true deadline attempts hasWaited) told := by
  induction attempts generalizing hasWaited told with
  | zero => exact Tells.pure fun h_some => absurd h_some Bool.false_ne_true
  | succ attempts ih =>
    refine Tells.bind checkAndConsumeCapacity_tells.attempt fun checked told₁ _ h_checked => ?_
    split
    -- contention is tried again until the deadline, every other exception raised
    · split
      · refine Tells.then (send_plain rfl) fun now told₂ _ => ?_
        split
        · exact Tells.then (send_plain rfl) fun _ told₃ _ => ih _
        · exact Tells.throw
      · exact Tells.throw
    · split
      · rename_i result h_available
        exact finishWait_tells (h_checked result rfl h_available)
      · refine Tells.then (send_plain rfl) fun _ told₂ _ => ?_
        have h_waiting : Tells keyPrefix (fun result told' => result.isSome = true →
            ToldReserved keyPrefix reservationId usage told')
            (do
              let now ← send .monotonic
              if deadline.any (· ≤ now) then throw .capacityTimeout
              else do
                Program.when (!hasWaited) (waitStartCallback deadline)
                send .suspend
                awaitLoop usage reservationId lifetime true deadline attempts true) told₂ := by
          refine Tells.then (send_plain rfl) fun now told₃ _ => ?_
          split
          · exact Tells.throw
          · refine Tells.then (Issues.when (waitStartCallback_plain _)) fun _ told₄ _ => ?_
            exact Tells.then (send_plain rfl) fun _ told₅ _ => ih _
        dsimp only
        split
        · exact h_waiting
        · refine Tells.ensuring h_waiting (send_plain rfl)
            fun a told told' h_sub h_told h_some => ?_
          exact toldReserved_of_subset h_sub (h_told h_some)

/-- A wait that ends with capacity has its reservation. -/
theorem awaitForCapacity_tells (timeout : Option ℚ) (attempts : ℕ) :
    Tells keyPrefix (fun result told' => result.isSome = true →
        ToldReserved keyPrefix reservationId usage told')
      (awaitForCapacity usage timeout reservationId lifetime true attempts) told := by
  refine Tells.then (send_plain rfl) fun client told₁ _ => ?_
  refine Tells.then (Issues.lift _) fun _ told₂ _ => Tells.then (Issues.lift _) fun _ told₃ _ => ?_
  exact Tells.then (send_plain rfl) fun start told₄ _ => awaitLoop_tells _ _ _

theorem consumeUnderLocks_tells (stack : LockStack) :
    Tells keyPrefix (fun _ told' => ToldReserved keyPrefix reservationId usage told')
      (consumeUnderLocks usage reservationId lifetime keys stack) told := by
  refine Tells.then (send_plain rfl) fun currentTime told₁ _ => ?_
  refine Tells.then (getCapacitiesUnsafe_plain _ _) fun read told₂ _ => ?_
  refine Tells.bind client_tells fun client told₃ _ h_under => ?_
  dsimp only
  split
  · exact Tells.throw
  · refine Tells.then (extendLocks_recordless stack).plain fun _ told₄ _ => ?_
    refine Tells.bind (lift_tells _) fun marker told₅ _ h_marker => ?_
    refine Tells.bind (writeReserved_tells client h_under h_marker true).attempt
      fun written told₆ _ h_written => ?_
    refine Tells.then (send_plain rfl).attempt fun awaited told₇ h_sub => ?_
    split
    · exact Tells.pure (toldReserved_of_subset h_sub (h_written _ rfl))
    -- an exception that arrived during the write is dropped: the consumption stands
    · exact Tells.pure (toldReserved_of_subset h_sub (h_written _ rfl))
    · exact Tells.throw
    · exact Tells.throw
    · exact Tells.throw

/-- A consumption that returns has its reservation. -/
theorem consumeCapacity_tells :
    Tells keyPrefix (fun _ told' => ToldReserved keyPrefix reservationId usage told')
      (consumeCapacity usage reservationId lifetime) told := by
  refine Tells.then (send_plain rfl) fun client told₁ _ => ?_
  refine Tells.then (Issues.lift _) fun _ told₂ _ => ?_
  have h_locked : Tells keyPrefix
      (fun _ told' => ToldReserved keyPrefix reservationId usage told')
      (withLocks (lockOrContention client.bucketKeys)
        (consumeUnderLocks usage reservationId lifetime client.bucketKeys)) told₂ :=
    withLocks_tells (fun stack _ => consumeUnderLocks_tells stack)
      fun _ _ _ h_sub h_told => toldReserved_of_subset h_sub h_told
  refine Tells.bind h_locked fun result told₃ _ h_told => ?_
  split
  · exact Tells.pure h_told
  · exact Tells.pure h_told
  · refine Tells.then (consumptionCallbacks_plain _) fun _ told₄ h_sub => ?_
    exact Tells.pure (toldReserved_of_subset h_sub h_told)

/-! ### Refunding -/

theorem writeRefund_tells {client : RedisClient} (h_under : client.keyPrefix = keyPrefix)
    (marker : Option AcquiredMarker) :
    Tells keyPrefix (fun _ told' =>
        ToldCredited keyPrefix (marker.map AcquiredMarker.reservationId) told')
      (writeRefund client capacities keys currentTime marker) told := by
  cases marker with
  | none =>
    refine Tells.then (setCapacitiesUnsafe_plain _ _ _ _) fun _ told' _ => Tells.pure ?_
    intro rid h_rid
    cases h_rid
  | some marker =>
    refine (commitRefundWithAcquireMarkerUnsafe_tells _ _).mono fun _ _ _ h_told rid h_rid => ?_
    cases h_rid
    rw [← h_under]
    exact h_told

/-- The marker a refund claims is that of its reservation. -/
theorem expectedMarker_reservationId {refund : RefundRequest} {refundBucketIds : Finset BucketId}
    {marker : Option AcquiredMarker}
    (h_marker : expectedMarker refund refundBucketIds = .ok marker) :
    marker.map AcquiredMarker.reservationId = refund.reservationId := by
  unfold expectedMarker at h_marker
  split at h_marker
  · rename_i h_none
    cases h_marker
    exact h_none.symm
  · rename_i rid h_rid
    rw [h_rid]
    obtain ⟨metadata, _, h_marker⟩ := bind_eq_ok h_marker
    obtain ⟨_, _, h_marker⟩ := bind_eq_ok h_marker
    obtain ⟨claimed, h_claimed, h_marker⟩ := bind_eq_ok h_marker
    cases h_marker
    unfold redisAcquiredMarkerValue at h_claimed
    split at h_claimed
    · cases h_claimed
    · cases h_claimed
      rfl

theorem refundUnderLocks_tells {refund : RefundRequest} {refundBucketIds : Finset BucketId}
    {marker : Option AcquiredMarker}
    (h_reservation : marker.map AcquiredMarker.reservationId = refund.reservationId)
    (stack : LockStack) :
    Tells keyPrefix (fun _ told' => ToldCredited keyPrefix refund.reservationId told')
      (refundUnderLocks refund refundBucketIds marker keys stack) told := by
  refine Tells.then (send_plain rfl) fun currentTime told₁ _ => ?_
  refine Tells.then (getCapacitiesUnsafe_plain _ _) fun read told₂ _ => ?_
  refine Tells.bind client_tells fun client told₃ _ h_under => ?_
  refine Tells.then (extendLocks_recordless stack).plain fun _ told₄ _ => ?_
  refine Tells.bind (writeRefund_tells h_under marker).attempt fun written told₅ _ h_written => ?_
  rw [h_reservation] at h_written
  refine Tells.then (send_plain rfl).attempt fun awaited told₆ h_sub => ?_
  split
  · exact Tells.pure (toldCredited_of_subset h_sub (h_written () rfl))
  -- an exception that arrived during the write is dropped: the credit stands
  · refine Tells.then (send_plain rfl) fun _ told₇ h_sub' => Tells.pure ?_
    exact toldCredited_of_subset (List.Subset.trans h_sub h_sub') (h_written () rfl)
  · exact Tells.throw
  · exact Tells.throw

/-- A refund that returns has its reservation credited. -/
theorem refundCapacityForBuckets_tells (refund : RefundRequest) :
    Tells keyPrefix (fun _ told' => ToldCredited keyPrefix refund.reservationId told')
      (refundCapacityForBuckets refund) told := by
  refine Tells.bind client_tells fun client told₁ _ h_under => ?_
  refine Tells.then (Issues.lift _) fun _ told₂ _ => ?_
  refine Tells.bind (lift_tells _) fun marker told₃ _ h_marker => ?_
  have h_reservation := expectedMarker_reservationId h_marker
  split
  · split
    -- neither a bucket nor a reservation: nothing was to be credited
    · refine Tells.pure fun rid h_rid => ?_
      rw [← h_reservation] at h_rid
      cases h_rid
    -- no bucket: the marker is claimed without any lock
    · rename_i marker
      refine Tells.then (send_plain rfl) fun currentTime told₄ _ => ?_
      refine (commitRefundWithAcquireMarkerUnsafe_tells _ _).mono fun _ _ _ h_told rid h_rid => ?_
      rw [← h_reservation] at h_rid
      cases h_rid
      rw [← h_under]
      exact h_told
  · have h_locked : Tells keyPrefix
        (fun _ told' => ToldCredited keyPrefix refund.reservationId told')
        (withLocks (lockOrContention client.bucketKeys)
          (refundUnderLocks refund (refund.bucketIds.getD client.bucketIds) marker
            client.bucketKeys)) told₃ :=
      withLocks_tells (fun stack _ => refundUnderLocks_tells h_reservation stack)
        fun _ _ _ h_sub h_told => toldCredited_of_subset h_sub h_told
    refine Tells.bind h_locked fun result told₄ _ h_told => ?_
    split
    · exact Tells.pure h_told
    · have h_callbacks : ∀ freshStartBuckets, Plain (do
          send .suspend
          freshStartBucketsCallback freshStartBuckets
          invokeCallback .onCapacityRefunded) := by
        intro freshStartBuckets
        refine (send_plain rfl).bind fun _ => ?_
        exact (freshStartBucketsCallback_plain _).bind fun _ => invokeCallback_plain _
      exact (h_callbacks _).tells.mono fun _ _ h_sub _ => toldCredited_of_subset h_sub h_told

/-! ### Rebuilding -/

/-- A rebuild installs a backend under the same key prefix. -/
theorem prepareReconfiguredBackend_tells (newBackend : RedisClient)
    (quotas : List (BucketId × MaxCapacity)) :
    Tells keyPrefix (fun _ _ => True) (prepareReconfiguredBackend newBackend quotas) told := by
  refine Tells.then (send_plain rfl) fun current told₁ _ => ?_
  refine Tells.bind (m := fun _ _ => True) ?_ fun _ _ _ _ => (send_plain rfl).tells
  refine withLocks_tells (fun stack told₂ => ?_) fun _ _ _ _ h_true => h_true
  refine Tells.then (Issues.lift _) fun targets told₃ _ => ?_
  refine Tells.then (prepareSnapshots_plain _ _ _ _) fun plans told₄ _ => ?_
  refine Tells.then (commitPlans_plain _ _ _) fun made told₅ _ => ?_
  refine Tells.then (extendLocks_recordless stack).plain fun _ told₆ _ => ?_
  refine Tells.bind client_tells fun current told₇ _ h_under => ?_
  split
  · exact Tells.throw
  · rename_i h_same
    have h_install : (reconfigured current made).keyPrefix = keyPrefix :=
      (not_not.mp h_same).trans h_under
    refine ⟨⟨rfl, h_install⟩, fun answer told' h_after => ?_⟩
    obtain ⟨_, rfl⟩ := h_after
    exact ⟨List.Subset.refl _, fun _ _ => trivial⟩

end RedisBackend

/-! ## Operations -/

namespace RedisOperation

/-- The operation is one that a limiter starts: it can take over a failed cleanup. -/
def recovers : RedisOperation → Bool
  | .awaitForCapacity _ _ _ _ recovering _ => recovering
  | _ => true

/-- The operation, and whether it has come to its end: a wait may use its attempts up. -/
def outcome : RedisOperation → RedisProgram Bool
  | .awaitForCapacity usage timeout reservationId lifetime recovering attempts => do
    let result ← RedisBackend.awaitForCapacity usage timeout reservationId lifetime recovering
      attempts
    return result.isSome
  | operation => do
    operation.program
    return true

/-- What the worker of an operation that has come to its end was told. -/
def ToldOf (keyPrefix : String) : RedisOperation → List Fact → Prop
  | .awaitForCapacity usage _ reservationId _ _ _ => ToldReserved keyPrefix reservationId usage
  | .consumeCapacity usage reservationId _ => ToldReserved keyPrefix reservationId usage
  | .refundCapacityForBuckets refund => ToldCredited keyPrefix refund.reservationId
  | _ => fun _ => True

variable {keyPrefix : String} {told : List Fact}

theorem syncChangedMetricSet_tells (builder : RedisBackendBuilder) (entry : FamilyEntry)
    (oldSnapshot newSnapshot : UsageQuotas) :
    Tells keyPrefix (fun _ _ => True)
      (TokenThrottle.syncChangedMetricSet (redisMethods builder) entry oldSnapshot newSnapshot)
      told := by
  have h_rebuild : Tells keyPrefix (fun _ _ => True)
      (rebuildBackend (redisMethods builder) entry oldSnapshot newSnapshot) told := by
    have h_build : ∀ cfg, Plain (builder.build cfg) := fun cfg =>
      (send_plain rfl).bind fun _ => .pure _
    refine Tells.then (h_build _) fun newBackend told₁ _ => ?_
    refine Tells.bind (RedisBackend.prepareReconfiguredBackend_tells _ _) fun _ told₂ _ _ => ?_
    have h_restore : Plain (restoreRuntimeMaxCapacity ((redisMethods builder).setMaxCapacity ())
        oldSnapshot newSnapshot entry.runtimeMaxCapacity.items) :=
      restoreRuntimeMaxCapacity_issues
        (fun id value => RedisBackend.setMaxCapacity_plain id value) _
    exact Tells.then h_restore fun _ told₃ _ => Tells.pure trivial
  refine Tells.bind h_rebuild.attempt fun result told₁ _ _ => ?_
  cases result with
  | ok _ => exact Tells.pure trivial
  | error _ => exact Tells.pure trivial

/-- An operation of a limiter that has come to its end was told so. -/
theorem outcome_tells {operation : RedisOperation} (h_recovers : operation.recovers = true) :
    Tells keyPrefix (fun ended told' => ended = true → operation.ToldOf keyPrefix told')
      operation.outcome told := by
  cases operation with
  | awaitForCapacity usage timeout reservationId lifetime recovering attempts =>
    obtain rfl : recovering = true := h_recovers
    refine Tells.bind (RedisBackend.awaitForCapacity_tells timeout attempts)
      fun result told₁ _ h_told => ?_
    exact Tells.pure h_told
  | consumeCapacity usage reservationId lifetime =>
    have h_call : Tells keyPrefix
        (fun _ told' => ToldReserved keyPrefix reservationId usage told')
        (RedisOperation.consumeCapacity usage reservationId lifetime).program told :=
      Tells.bind RedisBackend.consumeCapacity_tells fun _ _ _ h_told => Tells.pure h_told
    exact Tells.bind h_call fun _ _ _ h_told => Tells.pure fun _ => h_told
  | refundCapacityForBuckets refund =>
    refine Tells.bind (RedisBackend.refundCapacityForBuckets_tells refund) fun _ _ _ h_told => ?_
    exact Tells.pure fun _ => h_told
  | setMaxCapacity id value =>
    exact Tells.then (RedisBackend.setMaxCapacity_plain id value) fun _ _ _ =>
      Tells.pure fun _ => trivial
  | applyConfiguredMaxCapacity id value =>
    exact Tells.then (RedisBackend.applyConfiguredMaxCapacity_plain id value) fun _ _ _ =>
      Tells.pure fun _ => trivial
  | syncChangedMetricSet builder entry oldSnapshot newSnapshot =>
    have h_call : Tells keyPrefix (fun _ _ => True)
        (RedisOperation.syncChangedMetricSet builder entry oldSnapshot newSnapshot).program told :=
      Tells.bind (syncChangedMetricSet_tells builder entry oldSnapshot newSnapshot)
        fun _ _ _ _ => Tells.pure trivial
    exact Tells.bind h_call fun _ _ _ _ => Tells.pure fun _ => trivial

end RedisOperation

end TokenThrottle
