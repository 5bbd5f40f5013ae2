/-
  TokenThrottle.Redis.Leases

  Workers whose locks run out.  Each runs one call after the other, a command at a time; the
  lease of any lock may end between two commands, and another worker may then take the lock.

  * The basis of a bucket in a worker's view is the state its next write of the bucket is
    computed from.
  * `taker` remembers who took a lock last; a check of a lock passes for no one else.
  * While every write is made by the last taker of the bucket's lock, the basis of the last
    taker is the state of the bucket, so that no write is lost.
-/
import TokenThrottle.Redis.Alone
import TokenThrottle.Redis.Contention

namespace TokenThrottle

open Theory (Program Run Steps guard exists_run_of_exec steps_guard_iff)
open Theory.Program
open RedisBackend (CallView discipline)

/-! ## What a command writes -/

/-- The writes of a command that the server applies: a script may reject its claim. -/
def Command.applied (server : RedisServer) : Command → List (BucketKey × ℚ)
  | .acquireMarkerSetScript key marker writes currentTime =>
    if (server.acquireMarkerSetScript key marker writes currentTime).1 = .ok then writes else []
  | .refundWithMarkerScript key marker token writes currentTime =>
    if (server.refundWithMarkerScript key marker token writes currentTime).1 = .ok then writes
    else []
  | command => command.bucketWrites.1

section Writes

variable {turn : Turn} {s : Session} {command : Command} {key : BucketKey}

theorem setStates_written (server : RedisServer) (writes : List (BucketKey × ℚ)) (now : ℚ) :
    (server.setStates writes now).state key =
      (writtenFields now writes key).getD (server.state key) := by
  unfold RedisServer.setStates
  induction writes generalizing server with
  | nil => rfl
  | cons write writes ih =>
    rw [List.foldl_cons, ih]
    show _ = (writtenFields now writes key <|> _).getD (server.state key)
    cases writtenFields now writes key with
    | some fields => rfl
    | none =>
      show Function.update server.state write.1 _ key = _
      by_cases h_key : write.1 = key
      · rw [h_key, Function.update_self, if_pos rfl]
        rfl
      · rw [Function.update_of_ne (Ne.symm h_key), if_neg h_key]
        rfl

theorem acquireScript_state (server : RedisServer) (rid : ReservationKey) (marker : AcquiredMarker)
    (writes : List (BucketKey × ℚ)) (now : ℚ) :
    (server.acquireMarkerSetScript rid marker writes now).2.state key =
      (writtenFields now (Command.applied server (.acquireMarkerSetScript rid marker writes now))
        key).getD (server.state key) := by
  by_cases h_ok : (server.acquireMarkerSetScript rid marker writes now).1 = .ok
  · dsimp only [Command.applied]
    rw [if_pos h_ok, ← setStates_written]
    unfold RedisServer.acquireMarkerSetScript at h_ok ⊢
    grind [RedisServer.setMarker]
  · dsimp only [Command.applied]
    rw [if_neg h_ok, acquireScript_rejected h_ok]
    rfl

theorem refundScript_state (server : RedisServer) (rid : ReservationKey) (marker : AcquiredMarker)
    (token : Token) (writes : List (BucketKey × ℚ)) (now : ℚ) :
    (server.refundWithMarkerScript rid marker token writes now).2.state key =
      (writtenFields now
        (Command.applied server (.refundWithMarkerScript rid marker token writes now)) key).getD
        (server.state key) := by
  by_cases h_ok : (server.refundWithMarkerScript rid marker token writes now).1 = .ok
  · dsimp only [Command.applied]
    rw [if_pos h_ok, ← setStates_written]
    unfold RedisServer.refundWithMarkerScript at h_ok ⊢
    grind [RedisServer.setMarker, RedisServer.setTombstone]
  · dsimp only [Command.applied]
    rw [if_neg h_ok, refundScript_rejected h_ok]
    rfl

/-- A command leaves a bucket as it was, but for what it writes. -/
theorem execute_state :
    (s.execute turn command).2.server.state key =
      (writtenFields command.bucketWrites.2 (command.applied s.server) key).getD
        (s.server.state key) := by
  cases command with
  | repairStates keys now => exact setStates_written s.server _ now
  | setStates writes now deleteMarker =>
    cases deleteMarker with
    | none => exact setStates_written s.server writes now
    | some marker => exact setStates_written s.server writes now
  | acquireMarkerSetScript rid marker writes now =>
    exact acquireScript_state s.server rid marker writes now
  | refundWithMarkerScript rid marker token writes now =>
    exact refundScript_state s.server rid marker token writes now
  | acquireLock k token =>
    dsimp only [Session.execute]
    split <;> rfl
  | releaseLock k token =>
    dsimp only [Session.execute]
    split <;> rfl
  | refreshOverride k record expiresAt =>
    show (s.server.refreshOverride k record expiresAt).2.state key = _
    unfold RedisServer.refreshOverride
    split <;> rfl
  | _ => rfl

theorem writtenFields_none {now : ℚ} {writes : List (BucketKey × ℚ)}
    (h_other : ∀ write ∈ writes, write.1 ≠ key) : writtenFields now writes key = none := by
  induction writes with
  | nil => rfl
  | cons write writes ih =>
    obtain ⟨h_first, h_rest⟩ := List.forall_mem_cons.mp h_other
    unfold writtenFields
    rw [ih h_rest, if_neg h_first]
    rfl

theorem execute_state_of_other (h_other : ∀ write ∈ command.applied s.server, write.1 ≠ key) :
    (s.execute turn command).2.server.state key = s.server.state key := by
  rw [execute_state, writtenFields_none h_other]
  rfl

/-- What a worker knows of a bucket is still true of it after its own command. -/
theorem observe_basis {view : CallView}
    (h_known : ∀ fields, view.basis key = some fields → s.server.state key = fields) :
    ∀ fields, (view.observe command (s.execute turn command).1).basis key = some fields →
      (s.execute turn command).2.server.state key = fields := by
  -- a write tells the worker what is there now; of other buckets it still knows what it knew
  have h_wrote : ∀ (writes : List (BucketKey × ℚ)) (now : ℚ) (fields : BucketFields),
      (view.wrote writes now).basis key = some fields →
        (writtenFields now writes key).getD (s.server.state key) = fields := by
    intro writes now fields h_basis
    have h_either : (writtenFields now writes key <|> view.basis key) = some fields := h_basis
    cases h_written : writtenFields now writes key with
    | some written =>
      rw [h_written] at h_either
      exact Option.some.inj h_either
    | none =>
      rw [h_written] at h_either
      exact h_known fields h_either
  intro fields h_basis
  rw [execute_state]
  cases command with
  | acquireLock k token =>
    have h_old : view.basis key = some fields := by
      dsimp only [CallView.observe] at h_basis
      split at h_basis
      · by_cases h_key : key = k
        · rw [h_key] at h_basis
          dsimp only at h_basis
          rw [Function.update_self] at h_basis
          cases h_basis
        · dsimp only at h_basis
          rwa [Function.update_of_ne h_key] at h_basis
      · exact h_basis
    exact h_known fields h_old
  | reacquireLock k token =>
    have h_same : view.basis key = some fields := by
      dsimp only [CallView.observe, CallView.checked] at h_basis
      split at h_basis <;> exact h_basis
    exact h_known fields h_same
  | releaseLock k token =>
    by_cases h_key : key = k
    · rw [h_key] at h_basis
      dsimp only [CallView.observe] at h_basis
      rw [Function.update_self] at h_basis
      cases h_basis
    · dsimp only [CallView.observe] at h_basis
      rw [Function.update_of_ne h_key] at h_basis
      exact h_known fields h_basis
  | readBuckets keys =>
    by_cases h_mem : key ∈ keys
    · have h_read : some (s.server.state key) = some fields := (if_pos h_mem).symm.trans h_basis
      exact Option.some.inj h_read
    · exact h_known fields ((if_neg h_mem).symm.trans h_basis)
  | readState k =>
    by_cases h_mem : key ∈ [k]
    · have h_read : some (s.server.state k) = some fields := (if_pos h_mem).symm.trans h_basis
      rw [List.mem_singleton.mp h_mem]
      exact Option.some.inj h_read
    · exact h_known fields ((if_neg h_mem).symm.trans h_basis)
  | repairStates keys now => exact h_wrote _ now fields h_basis
  | setStates writes now deleteMarker => exact h_wrote writes now fields h_basis
  | acquireMarkerSetScript rid marker writes now =>
    by_cases h_ok : (s.server.acquireMarkerSetScript rid marker writes now).1 = .ok
    · have h_view : view.observe (.acquireMarkerSetScript rid marker writes now)
          (s.server.acquireMarkerSetScript rid marker writes now).1 =
            (view.wrote writes now).withStage .written := if_pos h_ok
      dsimp only [Command.applied]
      rw [if_pos h_ok]
      exact h_wrote writes now fields ((congrArg (CallView.basis · key) h_view).symm.trans h_basis)
    · have h_view : view.observe (.acquireMarkerSetScript rid marker writes now)
          (s.server.acquireMarkerSetScript rid marker writes now).1 = view := if_neg h_ok
      dsimp only [Command.applied]
      rw [if_neg h_ok]
      exact h_known fields ((congrArg (CallView.basis · key) h_view).symm.trans h_basis)
  | refundWithMarkerScript rid marker token writes now =>
    by_cases h_ok : (s.server.refundWithMarkerScript rid marker token writes now).1 = .ok
    · have h_view : view.observe (.refundWithMarkerScript rid marker token writes now)
          (s.server.refundWithMarkerScript rid marker token writes now).1 =
            (view.wrote writes now).withStage .written := if_pos h_ok
      dsimp only [Command.applied]
      rw [if_pos h_ok]
      exact h_wrote writes now fields ((congrArg (CallView.basis · key) h_view).symm.trans h_basis)
    · have h_view : view.observe (.refundWithMarkerScript rid marker token writes now)
          (s.server.refundWithMarkerScript rid marker token writes now).1 = view := if_neg h_ok
      dsimp only [Command.applied]
      rw [if_neg h_ok]
      exact h_known fields ((congrArg (CallView.basis · key) h_view).symm.trans h_basis)
  | _ => exact h_known fields h_basis

/-- What a command writes, the worker knows. -/
theorem ready_of_applied {rebuild : Bool} {view : CallView} {server : RedisServer}
    {write : BucketKey × ℚ} (h_allowed : RedisBackend.permits rebuild view command)
    (h_mem : write ∈ command.applied server) : view.ready write.1 := by
  cases command with
  | acquireMarkerSetScript rid marker writes now =>
    dsimp only [Command.applied] at h_mem
    split at h_mem
    · exact h_allowed.1 write h_mem
    · exact absurd h_mem List.not_mem_nil
  | refundWithMarkerScript rid marker token writes now =>
    dsimp only [Command.applied] at h_mem
    split at h_mem
    · exact h_allowed.1 write h_mem
    · exact absurd h_mem List.not_mem_nil
  | acquireLock | reacquireLock => exact absurd h_mem List.not_mem_nil
  | _ => exact h_allowed.1 write h_mem

end Writes

/-! ## Who took a lock -/

/-- Who took each lock last, after a command. -/
def takerAfter (taker : BucketKey → Option Token) :
    (command : Command) → command.Response → BucketKey → Option Token
  | .acquireLock key token, true => Function.update taker key (some token)
  | _, _ => taker

/-- The tokens a worker has: for the locks in its stack, and one drawn for the next. -/
def RedisBackend.CallView.Draws (view : CallView) (token : Token) : Prop :=
  view.drawn = some token ∨ ∃ key, (key, token) ∈ view.stack

section Tokens

variable {turn : Turn} {s : Session} {command : Command} {view : CallView} {token : Token}

/-- A worker's tokens are those it had, and the one it draws. -/
theorem draws_observe (h_allowed : RedisBackend.permits true view command)
    (h_draws : (view.observe command (s.execute turn command).1).Draws token) :
    view.Draws token ∨ (command = .uuid ∧ token = s.server.nextToken) := by
  cases command with
  | uuid =>
    rcases h_draws with h_drawn | h_stack
    · exact .inr ⟨rfl, (Option.some.inj h_drawn).symm⟩
    · exact .inl (.inr h_stack)
  | acquireLock key drawn =>
    left
    dsimp only [CallView.observe] at h_draws
    split at h_draws
    · rcases h_draws with h_drawn | ⟨key', h_mem⟩
      · cases h_drawn
      · rcases List.mem_append.mp h_mem with h_mem | h_mem
        · exact .inr ⟨key', h_mem⟩
        · cases List.mem_singleton.mp h_mem
          exact .inl h_allowed.1
    · rcases h_draws with h_drawn | h_stack
      · cases h_drawn
      · exact .inr h_stack
  | reacquireLock key drawn =>
    left
    dsimp only [CallView.observe, CallView.checked] at h_draws
    split at h_draws <;> exact h_draws
  | releaseLock key drawn =>
    left
    rcases h_draws with h_drawn | ⟨key', h_mem⟩
    · exact .inl h_drawn
    · exact .inr ⟨key', List.mem_of_mem_filter h_mem⟩
  | acquireMarkerSetScript | refundWithMarkerScript =>
    left
    dsimp only [CallView.observe] at h_draws
    split at h_draws <;> exact h_draws
  | _ => exact .inl h_draws

theorem setStates_locks (server : RedisServer) (writes : List (BucketKey × ℚ)) (now : ℚ) :
    (server.setStates writes now).locks = server.locks ∧
      (server.setStates writes now).nextToken = server.nextToken := by
  obtain ⟨state, h_state⟩ := @RedisBackend.setStates_state now server writes
  rw [h_state]
  exact ⟨rfl, rfl⟩

/-- The other commands leave the locks and the tokens alone. -/
theorem execute_locks (h_locking : command.locking = false) :
    (s.execute turn command).2.server.locks = s.server.locks ∧
      (s.execute turn command).2.server.nextToken = s.server.nextToken := by
  cases command with
  | acquireLock | reacquireLock | releaseLock | uuid => cases h_locking
  | repairStates keys now => exact setStates_locks s.server _ now
  | setStates writes now deleteMarker =>
    cases deleteMarker with
    | none => exact setStates_locks s.server writes now
    | some marker => exact setStates_locks s.server writes now
  | acquireMarkerSetScript rid marker writes now =>
    have h_locks := setStates_locks s.server writes now
    dsimp only [Session.execute, Session.withServer]
    unfold RedisServer.acquireMarkerSetScript
    split
    · exact ⟨rfl, rfl⟩
    · split
      · exact ⟨rfl, rfl⟩
      · exact h_locks
  | refundWithMarkerScript rid marker token writes now =>
    have h_locks := setStates_locks s.server writes now
    dsimp only [Session.execute, Session.withServer]
    unfold RedisServer.refundWithMarkerScript
    split
    · split <;> exact ⟨rfl, rfl⟩
    · split
      · exact ⟨rfl, rfl⟩
      · split
        · exact ⟨rfl, rfl⟩
        · exact h_locks
  | refreshOverride key record expiresAt =>
    dsimp only [Session.execute, Session.withServer]
    unfold RedisServer.refreshOverride
    split <;> exact ⟨rfl, rfl⟩
  | _ => exact ⟨rfl, rfl⟩

theorem le_nextToken : s.server.nextToken ≤ (s.execute turn command).2.server.nextToken := by
  by_cases h_locking : command.locking = false
  · exact le_of_eq (execute_locks h_locking).2.symm
  · cases command with
    | uuid => exact Nat.le_succ _
    | acquireLock key token =>
      dsimp only [Session.execute]
      split <;> exact le_refl _
    | releaseLock key token =>
      dsimp only [Session.execute]
      split <;> exact le_refl _
    | reacquireLock key token => exact le_refl _
    | _ => exact absurd rfl h_locking

/-- A lock in place is the lock of its last taker. -/
theorem takerAfter_locks {taker : BucketKey → Option Token}
    (h_taker : ∀ key token, s.server.locks key = some token → taker key = some token)
    {key : BucketKey} (h_lock : (s.execute turn command).2.server.locks key = some token) :
    takerAfter taker command (s.execute turn command).1 key = some token := by
  by_cases h_locking : command.locking = false
  · rw [(execute_locks h_locking).1] at h_lock
    cases command with
    | acquireLock => cases h_locking
    | _ => exact h_taker key token h_lock
  · cases command with
    | acquireLock key' token' =>
      dsimp only [Session.execute] at h_lock ⊢
      split at h_lock
      · rename_i h_free
        rw [if_pos h_free]
        show Function.update taker key' (some token') key = some token
        have h_set : Function.update s.server.locks key' (some token') key = some token := h_lock
        by_cases h_key : key = key'
        · rw [h_key, Function.update_self] at h_set ⊢
          exact h_set
        · rw [Function.update_of_ne h_key] at h_set ⊢
          exact h_taker key token h_set
      · rename_i h_taken
        rw [if_neg h_taken]
        exact h_taker key token h_lock
    | releaseLock key' token' =>
      apply h_taker
      dsimp only [Session.execute] at h_lock
      split at h_lock
      · have h_set : Function.update s.server.locks key' none key = some token := h_lock
        by_cases h_key : key = key'
        · rw [h_key, Function.update_self] at h_set
          cases h_set
        · rwa [Function.update_of_ne h_key] at h_set
      · exact h_lock
    | reacquireLock | uuid => exact h_taker key token h_lock
    | _ => exact absurd rfl h_locking

/-- The last taker of a lock was it before, or takes it now. -/
theorem takerAfter_cases {taker : BucketKey → Option Token} {response : command.Response}
    {key : BucketKey} (h_taker : takerAfter taker command response key = some token) :
    taker key = some token ∨ command = .acquireLock key token := by
  cases command with
  | acquireLock key' token' =>
    cases response with
    | true =>
      have h_set : Function.update taker key' (some token') key = some token := h_taker
      by_cases h_key : key = key'
      · right
        rw [h_key, Function.update_self] at h_set
        cases h_set
        rw [h_key]
      · left
        rwa [Function.update_of_ne h_key] at h_set
    | false => exact .inl h_taker
  | _ => exact .inl h_taker

/-- A lock that a worker has just taken is of a bucket it has not read yet. -/
theorem stack_observe {taker : BucketKey → Option Token} {response : command.Response}
    {key : BucketKey} (h_mem : (key, token) ∈ (view.observe command response).stack)
    (h_taker : takerAfter taker command response key = some token) :
    ((key, token) ∈ view.stack ∧ taker key = some token) ∨
      (view.observe command response).basis key = none := by
  cases command with
  | acquireLock key' token' =>
    cases response with
    | true =>
      by_cases h_key : key = key'
      · right
        show Function.update view.basis key' none key = none
        rw [h_key, Function.update_self]
      · left
        constructor
        · rcases List.mem_append.mp h_mem with h_mem | h_mem
          · exact h_mem
          · cases List.mem_singleton.mp h_mem
            exact absurd rfl h_key
        · have h_set : Function.update taker key' (some token') key = some token := h_taker
          rwa [Function.update_of_ne h_key] at h_set
    | false => exact .inl ⟨h_mem, h_taker⟩
  | reacquireLock key' token' =>
    cases response with
    | true => exact .inl ⟨h_mem, h_taker⟩
    | false => exact .inl ⟨h_mem, h_taker⟩
  | releaseLock key' token' => exact .inl ⟨List.mem_of_mem_filter h_mem, h_taker⟩
  | acquireMarkerSetScript | refundWithMarkerScript =>
    left
    dsimp only [CallView.observe] at h_mem
    split at h_mem <;> exact ⟨h_mem, h_taker⟩
  | _ => exact .inl ⟨h_mem, h_taker⟩

end Tokens

/-! ## Workers -/

/-- A server, the backend of each process, and where each worker stands: what is left of its
    call and what it knows; `taker` is who took each lock last. -/
structure LeasedWorkers (W P : Type) where
  server : RedisServer
  client : P → RedisClient
  taker : BucketKey → Option Token
  program : W → RedisProgram Unit
  view : W → CallView

/-- A worker begins a call, has a command served at some clock readings, or the lease of a lock
    ends. -/
inductive LeaseEvent (W : Type)
  | start (w : W) (operation : RedisCall)
  | serve (w : W) (currentTime monotonic : ℚ)
  | lapse (key : BucketKey)

namespace LeasedWorkers

variable {W P : Type} {process : W → P}

/-- A command is answered, and nobody else comes first. -/
def promptTurn (currentTime monotonic : ℚ) : Turn := ⟨id, currentTime, monotonic, .answered⟩

/-- The session a worker's next command meets. -/
def session (process : W → P) (s : LeasedWorkers W P) (w : W) : Session :=
  ⟨s.server, s.client (process w)⟩

def step [DecidableEq W] [DecidableEq P] (process : W → P) (s : LeasedWorkers W P) :
    LeaseEvent W → Option (LeasedWorkers W P)
  | .start w operation =>
    match s.program w with
    | .done _ => some
        { s with
          program := Function.update s.program w operation.program
          view := Function.update s.view w .start }
    | .call _ _ => none
  | .serve w currentTime monotonic =>
    match s.program w with
    | .done _ => none
    | .call command next =>
      let served := (s.session process w).execute (promptTurn currentTime monotonic) command
      some
        { server := served.2.server
          client := Function.update s.client (process w) served.2.client
          taker := takerAfter s.taker command served.1
          program := Function.update s.program w (next (.ok served.1))
          view := Function.update s.view w ((s.view w).observe command served.1) }
  -- the TTL of a lock may end under its holder
  | .lapse key => some { s with server := s.server.setLock key none }

/-- The buckets that a step writes, each with its writer. -/
def written (s : LeasedWorkers W P) : LeaseEvent W → List (W × BucketKey)
  | .serve w _ _ =>
    match s.program w with
    | .call command _ => (command.applied s.server).map fun write => (w, write.1)
    | .done _ => []
  | _ => []

/-- Each bucket that is written is written under the lock that was taken last. -/
def writesAsTaker (s : LeasedWorkers W P) (event : LeaseEvent W) : Bool :=
  (s.written event).all fun write => (s.view write.1).stack.any fun lock =>
    lock.1 = write.2 ∧ s.taker write.2 = some lock.2

/-- What is written was computed from the state it replaces. -/
def writesFromCurrent (s : LeasedWorkers W P) (event : LeaseEvent W) : Bool :=
  (s.written event).all fun write => (s.view write.1).basis write.2 = some (s.server.state write.2)

/-- No call is under way, and no lock is taken. -/
structure Idle (s : LeasedWorkers W P) : Prop where
  done : ∀ w, ∃ result, s.program w = .done result
  view : ∀ w, s.view w = .start
  unlocked : ∀ key, s.server.locks key = none

/-- Every worker goes on by the discipline and with tokens of its own, a lock in place is its
    last taker's, and what the last taker knows of a bucket is so. -/
structure Sound (s : LeasedWorkers W P) : Prop where
  follows : ∀ w, (s.program w).Follows (discipline true) (fun _ _ => True) (s.view w)
  drawn : ∀ w token, (s.view w).Draws token → token < s.server.nextToken
  distinct : ∀ w w' token, (s.view w).Draws token → (s.view w').Draws token → w = w'
  taker : ∀ key token, s.server.locks key = some token → s.taker key = some token
  known : ∀ w key token, (key, token) ∈ (s.view w).stack → s.taker key = some token →
    ∀ fields, (s.view w).basis key = some fields → s.server.state key = fields

theorem not_draws_start (token : Token) : ¬ CallView.start.Draws token := by
  rintro (h_drawn | ⟨key, h_mem⟩)
  · cases h_drawn
  · exact absurd h_mem List.not_mem_nil

theorem Idle.sound {s : LeasedWorkers W P} (h_idle : s.Idle) : s.Sound where
  follows w := by
    obtain ⟨result, h_done⟩ := h_idle.done w
    rw [h_done]
    trivial
  drawn w token h_draws := absurd (h_idle.view w ▸ h_draws) (not_draws_start token)
  distinct w _ token h_draws _ := absurd (h_idle.view w ▸ h_draws) (not_draws_start token)
  taker key token h_lock := by
    rw [h_idle.unlocked key] at h_lock
    cases h_lock
  known w key token h_mem := by
    rw [h_idle.view w] at h_mem
    exact absurd h_mem List.not_mem_nil

/-- The writer of a bucket has the lock that was taken last. -/
theorem exists_lock_of_writesAsTaker {s : LeasedWorkers W P} {w : W} {currentTime monotonic : ℚ}
    {command : Command} {next : Except BackendError command.Response → RedisProgram Unit}
    (h_call : s.program w = .call command next)
    (h_taker : s.writesAsTaker (.serve w currentTime monotonic) = true)
    {write : BucketKey × ℚ} (h_mem : write ∈ command.applied s.server) :
    ∃ token, (write.1, token) ∈ (s.view w).stack ∧ s.taker write.1 = some token := by
  have h_written : (w, write.1) ∈ s.written (.serve w currentTime monotonic) := by
    unfold written
    dsimp only
    rw [h_call]
    exact List.mem_map_of_mem (f := fun write : BucketKey × ℚ => (w, write.1)) h_mem
  obtain ⟨⟨key, token⟩, h_lock, h_last⟩ :=
    List.any_eq_true.mp (List.all_eq_true.mp h_taker _ h_written)
  obtain ⟨h_key, h_token⟩ := of_decide_eq_true h_last
  dsimp only at h_key h_token h_lock
  exact ⟨token, h_key ▸ h_lock, h_token⟩

/-! ### Steps -/

variable [DecidableEq W] [DecidableEq P] {s s' : LeasedWorkers W P} {w : W}

theorem step_start {operation : RedisCall}
    (h_step : Steps (step process) s (.start w operation) s') :
    s' = { s with
      program := Function.update s.program w operation.program
      view := Function.update s.view w .start } := by
  unfold Steps step at h_step
  dsimp only at h_step
  split at h_step
  · cases h_step
    rfl
  · cases h_step

theorem step_serve {currentTime monotonic : ℚ}
    (h_step : Steps (step process) s (.serve w currentTime monotonic) s') :
    ∃ command next, s.program w = .call command next ∧
      s' =
        { server := ((s.session process w).execute (promptTurn currentTime monotonic)
            command).2.server
          client := Function.update s.client (process w)
            ((s.session process w).execute (promptTurn currentTime monotonic) command).2.client
          taker := takerAfter s.taker command
            ((s.session process w).execute (promptTurn currentTime monotonic) command).1
          program := Function.update s.program w
            (next (.ok ((s.session process w).execute (promptTurn currentTime monotonic)
              command).1))
          view := Function.update s.view w ((s.view w).observe command
            ((s.session process w).execute (promptTurn currentTime monotonic) command).1) } := by
  unfold Steps step at h_step
  dsimp only at h_step
  split at h_step
  · cases h_step
  · rename_i command next h_call
    cases h_step
    exact ⟨command, next, h_call, rfl⟩

/-- A worker that begins a call knows nothing yet. -/
theorem start_sound {operation : RedisCall} (h_sound : s.Sound)
    (h_step : Steps (step process) s (.start w operation) s') : s'.Sound := by
  rw [step_start h_step]
  -- what another worker has, it had before; the worker itself has no token
  have h_others : ∀ w' token, (Function.update s.view w .start w').Draws token →
      w' ≠ w ∧ (s.view w').Draws token := by
    intro w' token h_draws
    by_cases h_same : w' = w
    · rw [h_same, Function.update_self] at h_draws
      exact absurd h_draws (not_draws_start token)
    · rw [Function.update_of_ne h_same] at h_draws
      exact ⟨h_same, h_draws⟩
  refine ⟨fun w' => ?_, fun w' token h_draws => ?_, fun w' w'' token h_draws h_draws' => ?_,
    h_sound.taker, fun w' key token h_mem => ?_⟩
  · dsimp only
    by_cases h_same : w' = w
    · rw [h_same, Function.update_self, Function.update_self]
      exact (operation.program_accounts fun _ => rfl).mono fun _ _ _ => trivial
    · rw [Function.update_of_ne h_same, Function.update_of_ne h_same]
      exact h_sound.follows w'
  · exact h_sound.drawn w' token (h_others w' token h_draws).2
  · exact h_sound.distinct w' w'' token (h_others w' token h_draws).2
      (h_others w'' token h_draws').2
  · have h_ne := (h_others w' token (.inr ⟨key, h_mem⟩)).1
    dsimp only at h_mem ⊢
    rw [Function.update_of_ne h_ne] at h_mem ⊢
    exact h_sound.known w' key token h_mem

theorem lapse_sound {key : BucketKey} (h_sound : s.Sound)
    (h_step : Steps (step process) s (.lapse key) s') : s'.Sound := by
  cases h_step
  refine ⟨h_sound.follows, h_sound.drawn, h_sound.distinct, fun key' token h_lock => ?_,
    h_sound.known⟩
  have h_left : Function.update s.server.locks key none key' = some token := h_lock
  by_cases h_key : key' = key
  · rw [h_key, Function.update_self] at h_left
    cases h_left
  · rw [Function.update_of_ne h_key] at h_left
    exact h_sound.taker key' token h_left

theorem serve_sound {currentTime monotonic : ℚ} (h_sound : s.Sound)
    (h_taker : s.writesAsTaker (.serve w currentTime monotonic) = true)
    (h_step : Steps (step process) s (.serve w currentTime monotonic) s') : s'.Sound := by
  obtain ⟨command, next, h_call, rfl⟩ := step_serve h_step
  have h_lock {write : BucketKey × ℚ} (h_mem : write ∈ command.applied s.server) :=
    exists_lock_of_writesAsTaker h_call h_taker h_mem
  have h_follows := h_sound.follows w
  rw [h_call] at h_follows
  obtain ⟨h_allowed, h_next⟩ := h_follows
  let turn := promptTurn currentTime monotonic
  let response := ((s.session process w).execute turn command).1
  -- only the worker itself may get a token, and a new one
  have h_draws : ∀ w' token, (Function.update s.view w ((s.view w).observe command response)
      w').Draws token → (s.view w').Draws token ∨
        (w' = w ∧ command = .uuid ∧ token = s.server.nextToken) := by
    intro w' token h_draws
    by_cases h_same : w' = w
    · rw [h_same, Function.update_self] at h_draws
      rw [h_same]
      exact (draws_observe h_allowed h_draws).imp_right fun h_new => ⟨rfl, h_new⟩
    · rw [Function.update_of_ne h_same] at h_draws
      exact .inl h_draws
  refine ⟨fun w' => ?_, fun w' token h_mine => ?_, fun w' w'' token h_mine h_theirs => ?_,
    fun key token h_place => takerAfter_locks h_sound.taker h_place,
    fun w' key token h_mem h_last fields h_basis => ?_⟩
  · dsimp only
    by_cases h_same : w' = w
    · rw [h_same, Function.update_self, Function.update_self]
      exact h_next _ _ ⟨response, rfl, rfl⟩
    · rw [Function.update_of_ne h_same, Function.update_of_ne h_same]
      exact h_sound.follows w'
  · rcases h_draws w' token h_mine with h_old | ⟨_, rfl, rfl⟩
    · exact lt_of_lt_of_le (h_sound.drawn w' token h_old)
        (@le_nextToken turn (s.session process w) command)
    · exact Nat.lt_succ_self _
  · rcases h_draws w' token h_mine with h_old | ⟨rfl, _, rfl⟩
    · rcases h_draws w'' token h_theirs with h_old' | ⟨_, _, rfl⟩
      · exact h_sound.distinct w' w'' token h_old h_old'
      · exact absurd (h_sound.drawn w' _ h_old) (lt_irrefl _)
    · rcases h_draws w'' _ h_theirs with h_old' | ⟨rfl, _, _⟩
      · exact absurd (h_sound.drawn w'' _ h_old') (lt_irrefl _)
      · rfl
  · dsimp only at h_mem h_last h_basis ⊢
    by_cases h_same : w' = w
    · rw [h_same, Function.update_self] at h_mem h_basis
      rcases stack_observe h_mem h_last with ⟨h_held, h_before⟩ | h_none
      · exact observe_basis (s := s.session process w) (h_sound.known w key token h_held h_before)
          fields h_basis
      · rw [h_none] at h_basis
        cases h_basis
    · rw [Function.update_of_ne h_same] at h_mem h_basis
      -- the token of another worker is not the one that the lock is taken or written under
      have h_foreign : ¬ (s.view w).Draws token := fun h_ours =>
        h_same (h_sound.distinct w' w token (.inr ⟨key, h_mem⟩) h_ours)
      have h_before : s.taker key = some token := by
        rcases takerAfter_cases h_last with h_before | rfl
        · exact h_before
        · exact absurd (.inl h_allowed.1) h_foreign
      have h_other : ∀ write ∈ command.applied s.server, write.1 ≠ key := by
        rintro write h_write rfl
        obtain ⟨token', h_held, h_written⟩ := h_lock h_write
        rw [h_before] at h_written
        cases h_written
        exact h_foreign (.inr ⟨_, h_held⟩)
      rw [execute_state_of_other (s := s.session process w) h_other]
      exact h_sound.known w' key token h_mem h_before fields h_basis

theorem run_sound {s₀ : LeasedWorkers W P} {events : List (LeaseEvent W)} (h_sound : s₀.Sound)
    (h_run : Run (Steps (guard (step process) writesAsTaker)) s₀ events s) : s.Sound := by
  refine h_run.invariant (fun s event s' h_sound h_guarded => ?_) h_sound
  obtain ⟨h_taker, h_step⟩ := steps_guard_iff.mp h_guarded
  cases event with
  | start w operation => exact start_sound h_sound h_step
  | serve w currentTime monotonic => exact serve_sound h_sound h_taker h_step
  | lapse key => exact lapse_sound h_sound h_step

omit [DecidableEq W] [DecidableEq P] in
/-- The last taker of a bucket's lock writes the bucket from the state it replaces. -/
theorem Sound.writesFromCurrent {event : LeaseEvent W} (h_sound : s.Sound)
    (h_taker : s.writesAsTaker event = true) : s.writesFromCurrent event = true := by
  cases event with
  | start w operation => rfl
  | lapse key => rfl
  | serve w currentTime monotonic =>
    have h_follows := h_sound.follows w
    unfold LeasedWorkers.writesFromCurrent written
    dsimp only
    cases h_call : s.program w with
    | done result => rfl
    | call command next =>
      rw [h_call] at h_follows
      apply List.all_eq_true.mpr
      intro write h_write
      obtain ⟨applied, h_mem, rfl⟩ := List.mem_map.mp h_write
      obtain ⟨token, h_held, h_last⟩ := exists_lock_of_writesAsTaker h_call h_taker h_mem
      have h_ready : (s.view w).ready applied.1 := ready_of_applied h_follows.1 h_mem
      obtain ⟨fields, h_basis⟩ := Option.isSome_iff_exists.mp h_ready
      apply decide_eq_true
      rw [h_basis, h_sound.known w applied.1 token h_held h_last fields h_basis]

/-- While every write is made under the lock that was taken last, each write is computed from
    the state it replaces; and a check of a lock passes only for who took it last. -/
theorem writesFromCurrent_of_run {s₀ : LeasedWorkers W P} {events : List (LeaseEvent W)}
    {event : LeaseEvent W} (h_idle : s₀.Idle)
    (h_run : Run (Steps (guard (step process) writesAsTaker)) s₀ events s)
    (h_step : Steps (guard (step process) writesAsTaker) s event s') :
    s.writesFromCurrent event = true ∧
      ∀ w key token, (s.session process w).ownsLock key token = true →
        s.taker key = some token := by
  have h_sound := run_sound h_idle.sound h_run
  refine ⟨h_sound.writesFromCurrent (steps_guard_iff.mp h_step).1, fun w key token h_owns => ?_⟩
  exact h_sound.taker key token (of_decide_eq_true h_owns)

/-! ### Two workers on one bucket -/

/-- Two processes that limit tokens, of which 10 are left. -/
def tenTokens : LeasedWorkers Bool Bool where
  server := RedisServer.empty.setState ⟨"limits", "m", tokensPerMinute⟩ 10 0
  client _ := exampleBuilder.built tokensOnly
  taker _ := none
  program _ := pure ()
  view _ := .start

theorem tenTokens_idle : tenTokens.Idle := ⟨fun _ => ⟨.ok (), rfl⟩, fun _ => rfl, fun _ => rfl⟩

/-- The worker has its next `n` commands served. -/
def serves (w : Bool) (n : ℕ) : List (LeaseEvent Bool) := List.replicate n (.serve w 0 0)

/-- Both consume 4 tokens: the first one until its write, then the other one until its own.
    Before the other one begins, the first one either ends or loses its lock. -/
def bothConsume (between : List (LeaseEvent Bool)) (n : ℕ) : List (LeaseEvent Bool) :=
  [.start true (.consumeCapacity (tokens 4) none none),
    .start false (.consumeCapacity (tokens 4) none none)] ++ serves true 13 ++ between ++
    serves false n

/-- One after the other: the second write replaces what the first one has left. -/
theorem writesFromCurrent_of_run_oneAfterOther :
    ∃ s, Run (Steps (guard (step id) writesAsTaker)) tenTokens (bothConsume (serves true 5) 13) s ∧
      s.written (.serve false 0 0) = [(false, ⟨"limits", "m", tokensPerMinute⟩)] ∧
      (s.server.state ⟨"limits", "m", tokensPerMinute⟩).capacity = some 6 ∧
      s.writesFromCurrent (.serve false 0 0) = true := by
  obtain ⟨s, h_run, h_next, h_written, h_left⟩ : ∃ s,
      Run (Steps (guard (step id) writesAsTaker)) tenTokens (bothConsume (serves true 5) 13) s ∧
        ((guard (step id) writesAsTaker) s (.serve false 0 0)).isSome = true ∧
        s.written (.serve false 0 0) = [(false, ⟨"limits", "m", tokensPerMinute⟩)] ∧
        (s.server.state ⟨"limits", "m", tokensPerMinute⟩).capacity = some 6 :=
    exists_run_of_exec (by decide +kernel)
  obtain ⟨s', h_step⟩ := Option.isSome_iff_exists.mp h_next
  exact ⟨s, h_run, h_written, h_left, (writesFromCurrent_of_run tenTokens_idle h_run h_step).1⟩

/-- The lock runs out behind the last check: the other worker consumes, and its consumption is
    overwritten. -/
theorem consumeCapacity_lost :
    ¬ ∀ (s₀ s s' : LeasedWorkers Bool Bool) (events : List (LeaseEvent Bool))
        (event : LeaseEvent Bool), s₀.Idle → Run (Steps (step id)) s₀ events s →
      Steps (step id) s event s' → s.writesFromCurrent event = true := by
  intro h_current
  obtain ⟨s, h_run, h_next, h_stale⟩ : ∃ s,
      Run (Steps (step id)) tenTokens
        (bothConsume [.lapse ⟨"limits", "m", tokensPerMinute⟩] 18) s ∧
        (step id s (.serve true 0 0)).isSome = true ∧
        s.writesFromCurrent (.serve true 0 0) = false := exists_run_of_exec (by decide +kernel)
  obtain ⟨s', h_step⟩ := Option.isSome_iff_exists.mp h_next
  rw [h_current tenTokens s s' _ _ tenTokens_idle h_run h_step] at h_stale
  cases h_stale

end LeasedWorkers

end TokenThrottle
