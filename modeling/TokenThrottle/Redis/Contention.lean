/-
  TokenThrottle.Redis.Contention

  What a call of the Redis backend that ends by contention has changed.

  * `records` is what a retry would find: the states of the buckets, their overrides, the
    acquire markers and the tombstones, and the attributes of the backend.  Only a command
    that `mutates` changes them, and the repair of lost state.
  * A call is `clean` until its first change, and `refused` from the first lock that it does
    not get or no longer has.  Only a rebuild goes from `written` to `refused`.
-/
import TokenThrottle.Limiter.RebuildLimits
import TokenThrottle.Redis.Operations

namespace TokenThrottle

open Theory (Program Run)
open Theory.Program

/-! ## Changes -/

/-- What an operation changes, expiries aside. -/
structure Records where
  state : BucketKey → BucketFields
  maxCapacityOverride : BucketKey → Option OverrideRecord
  acquired : ReservationKey → Option AcquiredMarker
  refundDedup : ReservationKey → Option Token
  maxCapacityDefault : BucketId → MaxCapacity
  sortedBuckets : List BucketId

def Session.records (s : Session) : Records where
  state := s.server.state
  maxCapacityOverride := s.server.maxCapacityOverride
  acquired := s.server.acquired
  refundDedup := s.server.refundDedup
  maxCapacityDefault := s.client.maxCapacityDefault
  sortedBuckets := s.client.sortedBuckets

/-- One command of a call, as it was served. -/
abbrev ServedCommand := Served Command Command.Response BackendError Session Turn

namespace ServedCommand

/-- What the command meets: the others have gone first. -/
def meets (step : ServedCommand) : Session :=
  step.before.withServer (step.turn.others step.before.server)

/-- The command changes something, and it is not the repair of lost state. -/
def Changes (step : ServedCommand) : Prop :=
  (∀ keys currentTime, step.command ≠ .repairStates keys currentTime) ∧
    step.after.records ≠ (meets step).records

/-- The command checks a lock that the call no longer has. -/
def FindsLost (step : ServedCommand) : Prop :=
  ∃ key token, step.command = .reacquireLock key token ∧
    (meets step).server.locks key ≠ some token

/-- The command is answered, and with what the server makes of it. -/
structure Answered (step : ServedCommand) : Prop where
  answer : step.answer = .ok ((meets step).execute step.turn step.command).1
  after : step.after = ((meets step).execute step.turn step.command).2

end ServedCommand

/-! ### Which commands change something -/

section Records

variable {turn : Turn} {s : Session} {command : Command}

/-- The records with another server. -/
theorem records_withServer {server : RedisServer} (h_state : server.state = s.server.state)
    (h_override : server.maxCapacityOverride = s.server.maxCapacityOverride)
    (h_acquired : server.acquired = s.server.acquired)
    (h_dedup : server.refundDedup = s.server.refundDedup) :
    (s.withServer server).records = s.records := by
  unfold Session.records Session.withServer
  dsimp only
  rw [h_state, h_override, h_acquired, h_dedup]

theorem execute_records (h_mutates : command.mutates = false)
    (h_repairs : ∀ keys currentTime, command ≠ .repairStates keys currentTime) :
    (s.execute turn command).2.records = s.records := by
  cases command with
  | setStates | acquireMarkerSetScript | refundWithMarkerScript | setOverride | deleteOverride
  | setConfiguredMaxCapacity | installReconfiguredState => cases h_mutates
  | repairStates keys currentTime => exact absurd rfl (h_repairs keys currentTime)
  | acquireLock key token =>
    dsimp only [Session.execute]
    split
    · exact records_withServer rfl rfl rfl rfl
    · rfl
  | releaseLock key token =>
    dsimp only [Session.execute]
    split
    · exact records_withServer rfl rfl rfl rfl
    · rfl
  | refreshOverride key record expiresAt =>
    have h_override := Session.refreshOverride_override s.server key record expiresAt
    refine records_withServer ?_ h_override ?_ ?_ <;>
    · unfold RedisServer.refreshOverride
      split <;> rfl
  | _ => rfl

/-- A claim that the script rejects changes nothing. -/
theorem acquireScript_rejected {server : RedisServer} {key : ReservationKey}
    {marker : AcquiredMarker} {writes : List (BucketKey × ℚ)} {currentTime : ℚ}
    (h_status : (server.acquireMarkerSetScript key marker writes currentTime).1 ≠ .ok) :
    (server.acquireMarkerSetScript key marker writes currentTime).2 = server := by
  unfold RedisServer.acquireMarkerSetScript at h_status ⊢
  split at h_status
  · rfl
  · split at h_status
    · rename_i h_dedup
      rw [if_pos h_dedup]
    · exact absurd rfl h_status

theorem refundScript_rejected {server : RedisServer} {key : ReservationKey}
    {marker : AcquiredMarker} {token : Token} {writes : List (BucketKey × ℚ)} {currentTime : ℚ}
    (h_status : (server.refundWithMarkerScript key marker token writes currentTime).1 ≠ .ok) :
    (server.refundWithMarkerScript key marker token writes currentTime).2 = server := by
  unfold RedisServer.refundWithMarkerScript at h_status ⊢
  grind

theorem acquireScript_records {key : ReservationKey} {marker : AcquiredMarker}
    {writes : List (BucketKey × ℚ)} {currentTime : ℚ}
    (h_status : (s.server.acquireMarkerSetScript key marker writes currentTime).1 ≠ .ok) :
    (s.execute turn (.acquireMarkerSetScript key marker writes currentTime)).2.records =
      s.records := by
  show (s.withServer (s.server.acquireMarkerSetScript key marker writes currentTime).2).records = _
  rw [acquireScript_rejected h_status]
  rfl

theorem refundScript_records {key : ReservationKey} {marker : AcquiredMarker} {token : Token}
    {writes : List (BucketKey × ℚ)} {currentTime : ℚ}
    (h_status : (s.server.refundWithMarkerScript key marker token writes currentTime).1 ≠ .ok) :
    (s.execute turn (.refundWithMarkerScript key marker token writes currentTime)).2.records =
      s.records := by
  show (s.withServer
    (s.server.refundWithMarkerScript key marker token writes currentTime).2).records = _
  rw [refundScript_rejected h_status]
  rfl

end Records

/-! ## How a call goes on -/

namespace RedisBackend

variable {rebuild : Bool} {view view' : CallView} {step : ServedCommand}

/-- An answered command is a step of the discipline to what the call sees in the answer. -/
theorem observe_of_step (h_answered : step.Answered)
    (h_step : Step (discipline rebuild) view step view') :
    permits rebuild view step.command ∧ view' = view.observe step.command
      ((ServedCommand.meets step).execute step.turn step.command).1 := by
  obtain ⟨h_allowed, response, h_answer, h_view⟩ := h_step
  rw [h_answered.answer] at h_answer
  cases h_answer
  exact ⟨h_allowed, h_view⟩

/-- A change is made by a call to which no lock was refused. -/
theorem written_of_changes (h_answered : step.Answered)
    (h_step : Step (discipline rebuild) view step view') (h_changes : ServedCommand.Changes step) :
    view'.stage = .written := by
  obtain ⟨_, rfl⟩ := observe_of_step h_answered h_step
  obtain ⟨h_repairs, h_records⟩ := h_changes
  rw [h_answered.after] at h_records
  have h_mutates : step.command.mutates = true := by
    by_contra h_not
    exact h_records (execute_records (Bool.eq_false_iff.mpr h_not) h_repairs)
  obtain ⟨turn, command, before, answer, after⟩ := step
  cases command with
  | setStates | setOverride | deleteOverride | setConfiguredMaxCapacity
  | installReconfiguredState => rfl
  | acquireMarkerSetScript key marker writes currentTime =>
    have h_ok := not_imp_comm.mp acquireScript_records h_records
    exact congrArg CallView.stage (if_pos h_ok)
  | refundWithMarkerScript key marker token writes currentTime =>
    have h_ok := not_imp_comm.mp refundScript_records h_records
    exact congrArg CallView.stage (if_pos h_ok)
  | _ => cases h_mutates

theorem refused_of_findsLost (h_answered : step.Answered)
    (h_step : Step (discipline rebuild) view step view')
    (h_lost : ServedCommand.FindsLost step) : view'.stage = .refused := by
  obtain ⟨_, rfl⟩ := observe_of_step h_answered h_step
  obtain ⟨turn, command, before, answer, after⟩ := step
  obtain ⟨key, token, rfl, h_gone⟩ := h_lost
  have h_owned : (ServedCommand.meets ⟨turn, .reacquireLock key token, before, answer, after⟩).ownsLock
      key token = false := decide_eq_false h_gone
  show (view.checked _).stage = .refused
  rw [show ((Session.execute turn _ (.reacquireLock key token)).1 : Bool) = false from h_owned]
  rfl

/-- Once a lock is refused or lost, nothing is changed any more. -/
theorem stays_refused (h_answered : step.Answered)
    (h_step : Step (discipline rebuild) view step view') (h_refused : view.stage = .refused) :
    view'.stage = .refused := by
  obtain ⟨h_allowed, rfl⟩ := observe_of_step h_answered h_step
  obtain ⟨turn, command, before, answer, after⟩ := step
  cases command with
  | setStates | acquireMarkerSetScript | refundWithMarkerScript | setOverride | deleteOverride
  | setConfiguredMaxCapacity | installReconfiguredState =>
    exact absurd h_refused (h_allowed.2 rfl)
  | acquireLock key token =>
    dsimp only [CallView.observe]
    split
    · exact h_refused
    · rfl
  | reacquireLock key token =>
    dsimp only [CallView.observe, CallView.checked]
    split
    · exact h_refused
    · rfl
  | _ => exact h_refused

/-- After a change only the check of a lock can go wrong, and only a rebuild makes one. -/
theorem written_or_findsLost (h_answered : step.Answered)
    (h_step : Step (discipline rebuild) view step view') (h_written : view.stage = .written) :
    view'.stage = .written ∨ (ServedCommand.FindsLost step ∧ rebuild = true) := by
  obtain ⟨h_allowed, rfl⟩ := observe_of_step h_answered h_step
  obtain ⟨turn, command, before, answer, after⟩ := step
  cases command with
  | acquireLock key token => cases h_written.symm.trans h_allowed.2
  | reacquireLock key token =>
    by_cases h_owned : (ServedCommand.meets
        ⟨turn, .reacquireLock key token, before, answer, after⟩).server.locks key = some token
    · left
      have h_same : (ServedCommand.meets ⟨turn, .reacquireLock key token, before, answer,
          after⟩).ownsLock key token = true := decide_eq_true h_owned
      show (view.checked _).stage = .written
      rw [show ((Session.execute turn _ (.reacquireLock key token)).1 : Bool) = true from h_same]
      exact h_written
    · right
      rcases h_allowed with h_clean | h_rebuild
      · cases h_written.symm.trans h_clean
      · exact ⟨⟨key, token, rfl, h_owned⟩, h_rebuild.2⟩
  | acquireMarkerSetScript | refundWithMarkerScript =>
    left
    dsimp only [CallView.observe]
    split
    · rfl
    · exact h_written
  | setStates | setOverride | deleteOverride | setConfiguredMaxCapacity
  | installReconfiguredState => exact .inl rfl
  | _ => exact .inl h_written

/-- Where the server is asked about a lock after a change, the lock's key still carries the
    token of the call; when a lost lock was lost does not matter. -/
def KeepsLocks (steps : List ServedCommand) : Prop :=
  ∀ before check rest, steps = before ++ check :: rest →
    (∃ step ∈ before, ServedCommand.Changes step) →
      ∀ key token, check.command = .reacquireLock key token →
        (ServedCommand.meets check).server.locks key = some token

theorem run_stays_refused {steps : List ServedCommand}
    (h_answered : ∀ step ∈ steps, ServedCommand.Answered step)
    (h_run : Run (Step (discipline rebuild)) view steps view') (h_refused : view.stage = .refused) :
    view'.stage = .refused := by
  induction h_run with
  | nil => exact h_refused
  | cons h_step _ ih =>
    obtain ⟨h_first, h_rest⟩ := List.forall_mem_cons.mp h_answered
    exact ih h_rest (stays_refused h_first h_step h_refused)

/-- A call that has changed something and ends refused is a rebuild that has lost a lock. -/
theorem exists_findsLost {steps : List ServedCommand}
    (h_answered : ∀ step ∈ steps, ServedCommand.Answered step)
    (h_run : Run (Step (discipline rebuild)) view steps view') (h_written : view.stage = .written)
    (h_refused : view'.stage = .refused) :
    rebuild = true ∧ ∃ before check rest, steps = before ++ check :: rest ∧
      ServedCommand.FindsLost check := by
  induction h_run with
  | nil => cases h_written.symm.trans h_refused
  | @cons _ _ _ first rest h_step _ ih =>
    obtain ⟨h_first, h_rest⟩ := List.forall_mem_cons.mp h_answered
    rcases written_or_findsLost h_first h_step h_written with h_written' | ⟨h_lost, h_rebuild⟩
    · obtain ⟨h_rebuild, before, check, rest', h_split, h_lost⟩ := ih h_rest h_written' h_refused
      refine ⟨h_rebuild, first :: before, check, rest', ?_, h_lost⟩
      rw [h_split, List.cons_append]
    · exact ⟨h_rebuild, [], first, rest, rfl, h_lost⟩

/-! ## Calls -/

end RedisBackend

/-- A call of the backend's interface; of `await_for_capacity`, a single attempt. -/
inductive RedisCall
  | checkAndConsumeCapacity (usage : FrozenUsage) (reservationId : Option ReservationId)
      (reservationLifetimeSeconds : Option ℚ) (recovering : Bool)
  | consumeCapacity (usage : FrozenUsage) (reservationId : Option ReservationId)
      (reservationLifetimeSeconds : Option ℚ)
  | refundCapacityForBuckets (refund : RefundRequest)
  | setMaxCapacity (id : BucketId) (value : ℚ)
  | applyConfiguredMaxCapacity (id : BucketId) (value : ℚ)
  | prepareReconfiguredBackend (newBackend : RedisClient) (quotas : List (BucketId × MaxCapacity))

namespace RedisCall

open RedisBackend

/-- The call, whatever it returns. -/
def program : RedisCall → RedisProgram Unit
  | .checkAndConsumeCapacity usage reservationId lifetime recovering => do
    let _ ← RedisBackend.checkAndConsumeCapacity usage reservationId lifetime recovering
    return ()
  | .consumeCapacity usage reservationId lifetime => do
    let _ ← RedisBackend.consumeCapacity usage reservationId lifetime
    return ()
  | .refundCapacityForBuckets refund => RedisBackend.refundCapacityForBuckets refund
  | .setMaxCapacity id value => RedisBackend.setMaxCapacity id value
  | .applyConfiguredMaxCapacity id value => RedisBackend.applyConfiguredMaxCapacity id value
  | .prepareReconfiguredBackend newBackend quotas =>
    RedisBackend.prepareReconfiguredBackend newBackend quotas

/-- Whether the call is a rebuild. -/
def rebuilds : RedisCall → Bool
  | .prepareReconfiguredBackend _ _ => true
  | _ => false

/-- A call ends by contention exactly when a lock is refused to it or found lost. -/
theorem program_accounts (call : RedisCall) {rebuild : Bool}
    (h_rebuild : call.rebuilds = true → rebuild = true) :
    Accounts rebuild (fun _ => True) call.program .start := by
  cases call with
  | checkAndConsumeCapacity usage reservationId lifetime recovering =>
    exact accounts_bind
      (checkAndConsumeCapacity_accounts usage reservationId lifetime rfl recovering)
      fun _ _ h_stage => pure_accounts h_stage trivial
  | consumeCapacity usage reservationId lifetime =>
    exact accounts_bind (consumeCapacity_accounts usage reservationId lifetime rfl)
      fun _ _ h_stage => pure_accounts h_stage trivial
  | refundCapacityForBuckets refund => exact refundCapacityForBuckets_accounts rfl refund
  | setMaxCapacity id value => exact setMaxCapacity_accounts rfl id value
  | applyConfiguredMaxCapacity id value => exact applyConfiguredMaxCapacity_accounts rfl id value
  | prepareReconfiguredBackend newBackend quotas =>
    obtain rfl : rebuild = true := h_rebuild rfl
    exact prepareReconfiguredBackend_accounts rfl newBackend quotas

/-- Nothing but a lock gets in the way of a call. -/
def Answered (turns : List Turn) : Prop := ∀ turn ∈ turns, turn.delivery = .answered

/-- A call that raises a contention error has changed nothing. -/
def Harmless (call : RedisCall) (turns : List Turn) (s : Session)
    (result : Except BackendError Unit) : Prop :=
  Contended result →
    ∀ step ∈ call.program.trace Session.serve turns s, ¬ ServedCommand.Changes step

variable {call : RedisCall} {turns : List Turn} {s s' : Session} {result : Except BackendError Unit}

theorem answered_of_mem_trace (h_turns : Answered turns) :
    ∀ step ∈ call.program.trace Session.serve turns s, ServedCommand.Answered step := by
  intro step h_mem
  obtain ⟨h_turn, h_serve⟩ := serve_of_mem_trace h_mem
  unfold Session.serve at h_serve
  rw [h_turns step.turn h_turn] at h_serve
  exact ⟨(congrArg Prod.fst h_serve).symm, (congrArg Prod.snd h_serve).symm⟩

/-- The view of a call at its end. -/
theorem exists_view (h_turns : Answered turns)
    (h_run : call.program.run Session.serve turns s = some (result, s')) :
    ∃ view, Run (Step (discipline call.rebuilds)) .start
      (call.program.trace Session.serve turns s) view ∧ RedisBackend.Accounted result view := by
  obtain ⟨view, h_path, h_accounted⟩ := exists_path_of_follows (call.program_accounts id)
    (fun step h_mem _ _ => ⟨_, _, (answered_of_mem_trace h_turns step h_mem).answer, rfl⟩) h_run
  exact ⟨view, h_path, h_accounted.1⟩

/-- A call that raises a contention error has changed nothing, but for a rebuild that still
    asks for a lock after it has changed a bucket and no longer has it. -/
theorem harmless_iff (h_turns : Answered turns)
    (h_run : call.program.run Session.serve turns s = some (result, s')) :
    call.Harmless turns s result ↔
      (call.rebuilds = true → KeepsLocks (call.program.trace Session.serve turns s)) := by
  obtain ⟨view, h_path, h_accounted⟩ := exists_view h_turns h_run
  have h_answered := @answered_of_mem_trace call turns s h_turns
  constructor
  · rintro h_harmless _ before check rest h_split ⟨step, h_mem, h_changes⟩ key token h_command
    by_contra h_gone
    rw [h_split] at h_path h_answered
    obtain ⟨view₁, _, h_path⟩ := h_path.split
    cases h_path with
    | @cons _ view₂ _ _ _ h_check h_rest =>
      have h_refused : view₂.stage = .refused :=
        refused_of_findsLost (h_answered check (by simp)) h_check ⟨key, token, h_command, h_gone⟩
      have h_end : view.stage = .refused := run_stays_refused
        (fun step h_mem => h_answered step (by simp [h_mem])) h_rest h_refused
      refine h_harmless (h_accounted.mpr h_end) step ?_ h_changes
      rw [h_split]
      exact List.mem_append_left _ h_mem
  · intro h_keeps h_contended step h_mem h_changes
    obtain ⟨before, rest, h_split⟩ := List.append_of_mem h_mem
    rw [h_split] at h_path h_answered
    obtain ⟨view₁, _, h_path⟩ := h_path.split
    cases h_path with
    | @cons _ view₂ _ _ _ h_change h_rest =>
      have h_written : view₂.stage = .written :=
        written_of_changes (h_answered step (by simp)) h_change h_changes
      obtain ⟨h_rebuild, before', check, rest', h_split', key, token, h_command, h_gone⟩ :=
        exists_findsLost (fun step h_mem => h_answered step (by simp [h_mem])) h_rest h_written
          (h_accounted.mp h_contended)
      refine h_gone (h_keeps h_rebuild (before ++ step :: before') check rest' ?_ ⟨step, ?_,
        h_changes⟩ key token h_command)
      · rw [h_split, h_split', List.append_assoc, List.cons_append]
      · simp

/-! ### A lock that runs out -/

/-- A backend of two buckets, with 10 left in each of them at time 0. -/
def tenLeft : Session where
  server := (RedisServer.empty.setState ⟨"limits", "m", requestsPerMinute⟩ 10 0).setState
    ⟨"limits", "m", tokensPerMinute⟩ 10 0
  client := exampleBuilder.built tokensAndRequests

/-- A minute later; the lock of the requests runs out before command number `n`. -/
def runsOutAt (n : ℕ) : List Turn :=
  let minute : Turn := { quietTurn with currentTime := 60, monotonic := 60 }
  List.replicate n minute ++
    { minute with
      others := fun server => server.setLock ⟨"limits", "m", requestsPerMinute⟩ none } ::
    List.replicate 20 minute

theorem runsOutAt_answered (n : ℕ) : Answered (runsOutAt n) := by
  intro turn h_mem
  rcases List.mem_append.mp h_mem with h_mem | h_mem
  · rw [List.eq_of_mem_replicate h_mem]
    rfl
  · rcases List.mem_cons.mp h_mem with rfl | h_mem
    · rfl
    · rw [List.eq_of_mem_replicate h_mem]
      rfl

/-- The call ends by contention. -/
def endsContended : Except BackendError Unit × Session → Bool
  | (.error e, _) => isContention e
  | (.ok _, _) => false

theorem exists_contended {call : RedisCall} {turns : List Turn} {s : Session}
    (h_ends : (call.program.run Session.serve turns s).any endsContended = true) :
    ∃ result s', call.program.run Session.serve turns s = some (result, s') ∧
      Contended result := by
  obtain ⟨⟨result, s'⟩, h_run, h_contended⟩ := (Option.any_eq_true _ _).mp h_ends
  match result, h_contended with
  | .error e, h_contended => exact ⟨.error e, s', h_run, h_contended⟩

/-- The lock is lost when the limit of the tokens is to be set: nothing has changed. -/
theorem harmless_iff_setMaxCapacity :
    ∃ result s', (setMaxCapacity tokensPerMinute 50).program.run Session.serve (runsOutAt 6)
        tenLeft = some (result, s') ∧ Contended result ∧
      ∀ step ∈ (setMaxCapacity tokensPerMinute 50).program.trace Session.serve (runsOutAt 6)
        tenLeft, ¬ ServedCommand.Changes step := by
  obtain ⟨result, s', h_run, h_contended⟩ : ∃ result s',
      (setMaxCapacity tokensPerMinute 50).program.run Session.serve (runsOutAt 6) tenLeft =
        some (result, s') ∧ Contended result := exists_contended (by decide +kernel)
  have h_harmless := (harmless_iff (runsOutAt_answered 6) h_run).mpr nofun
  exact ⟨result, s', h_run, h_contended, h_harmless h_contended⟩

/-- A bucket gets another state, and not by a repair. -/
def moves (key : BucketKey) (step : ServedCommand) : Bool :=
  match step.command with
  | .repairStates _ _ => false
  | _ => step.after.server.state key ≠ (ServedCommand.meets step).server.state key

theorem changes_of_moves {key : BucketKey} {step : ServedCommand} (h_moves : moves key step = true) :
    ServedCommand.Changes step := by
  unfold moves at h_moves
  split at h_moves
  · cases h_moves
  · rename_i h_repairs
    refine ⟨h_repairs, fun h_same => of_decide_eq_true h_moves ?_⟩
    exact congrFun (congrArg Records.state h_same) key

/-- A rebuild that has committed the tokens finds the lock of the requests lost. -/
theorem prepareReconfiguredBackend_half :
    ¬ ∀ (call : RedisCall) (turns : List Turn) (s s' : Session) (result : Except BackendError Unit),
      Answered turns → call.program.run Session.serve turns s = some (result, s') →
        call.Harmless turns s result := by
  intro h_harmless
  let call : RedisCall := .prepareReconfiguredBackend (exampleBuilder.built tokensAndRequests)
    tokensAndRequests.items
  obtain ⟨result, s', h_run, h_contended⟩ : ∃ result s',
      call.program.run Session.serve (runsOutAt 35) tenLeft = some (result, s') ∧
        Contended result := exists_contended (by decide +kernel)
  have h_moves : (call.program.trace Session.serve (runsOutAt 35) tenLeft).any
      (moves ⟨"limits", "m", tokensPerMinute⟩) = true := by decide +kernel
  obtain ⟨step, h_mem, h_moved⟩ := List.any_eq_true.mp h_moves
  exact h_harmless call _ _ _ _ (runsOutAt_answered 35) h_run h_contended step h_mem
    (changes_of_moves h_moved)

end RedisCall

end TokenThrottle
