/-
  TokenThrottle.Sqlite.Tasks

  The calls of any number of asynchronous `SqliteBackend`s on one store, interleaved at their
  await points with each other, with cancellations and with the closing of a backend.

  * A backend has one worker thread.  A call submits a job to it and awaits the job's
    future, which is queued, running, settled with the result of the transaction, or
    cancelled by a shutdown.
  * A call that is cancelled withdraws a job that is still queued.  A job that runs is waited
    for, through further cancellations, and what it consumed is cleaned up by another job.
  * `commits` is the history of the transactions of each call that committed.
-/
import TokenThrottle.Sqlite.Transactions
import TokenThrottle.Sqlite.CallRows

namespace TokenThrottle

open Theory (Run Steps exists_run_of_exec)

abbrev TaskId := ℕ

/-! ## Calls -/

/-- The future of a job of the worker thread. -/
inductive SqliteTasks.Future
  | queued
  | running
  | settled (result : Except BackendError Outcome)
  | cancelled

/-- The await point a call is suspended at; `looping` is the head of the waiting loop, where
    the next job is submitted. -/
inductive SqliteTasks.Phase
  | looping
  /-- `await asyncio.shield(future)` -/
  | attempting (future : Future)
  /-- `_wait_for_future_while_cancelled` of an attempt. -/
  | settling (future : Future)
  /-- The callbacks of a wait. -/
  | waiting
  | sleeping
  /-- The callbacks after which nothing is cleaned up. -/
  | reporting
  /-- The callbacks after a consumption. -/
  | callbacks
  /-- `_wait_for_future_while_cancelled` of a cleanup. -/
  | cleaning (future : Future)
  | returned
  /-- Raised, once the failure of a cleanup was handed to `_record_acquire_cleanup_failure`
      or without one. -/
  | raised (recorded : Bool)

/-- `await_for_capacity`, where `rejectsBusy` is a timeout of zero, or a call that is one
    `_run_engine`. -/
inductive SqliteTasks.Operation
  | awaitForCapacity (usage : FrozenUsage) (reservationId : Option ReservationId)
      (reservationLifetimeSeconds : Option ℚ) (rejectsBusy : Bool)
  | runEngine (request : EngineRequest)

/-- A call of the backend `who`. -/
structure SqliteTasks.Task (ι : Type) where
  who : ι
  operation : Operation
  phase : Phase

/-- The worker thread of a backend, and how far the backend has been closed. -/
structure SqliteTasks.Worker where
  running : Option TaskId
  /-- `_pending_engine_calls` that are not done. -/
  pending : Finset TaskId
  closed : Bool
  engineClosed : Bool
  shutdown : Bool

structure SqliteTasks (ι : Type) where
  store : SharedStore ι
  workers : ι → SqliteTasks.Worker
  tasks : TaskId → Option (SqliteTasks.Task ι)
  commits : TaskId → List (EngineRequest × Outcome)

namespace SqliteTasks

variable {ι : Type}

/-! ## Futures -/

/-- The future a call awaits. -/
def Phase.future : Phase → Option Future
  | .attempting future | .settling future | .cleaning future => some future
  | _ => none

def Phase.withFuture (future : Future) : Phase → Phase
  | .attempting _ => .attempting future
  | .settling _ => .settling future
  | .cleaning _ => .cleaning future
  | phase => phase

/-- `not future.done()` -/
def Phase.outstanding (phase : Phase) : Bool :=
  match phase.future with
  | some .queued | some .running => true
  | _ => false

/-- The job that a call has submitted. -/
def Task.request (e : SqliteEngine) (task : Task ι) : EngineRequest :=
  match task.operation, task.phase with
  | .awaitForCapacity usage reservationId _ _, .cleaning _ =>
    .cleanupConsumption usage e.bucketIds reservationId
  | .awaitForCapacity usage reservationId lifetime _, _ =>
    .tryConsume usage reservationId lifetime
  | .runEngine request, _ => request

/-! ## What a call does when it wakes -/

/-- A call goes on to its next await point, or submits a job, which an executor that was shut
    down refuses. -/
inductive Action
  | goto (phase : Phase)
  | submit (rejectsBusy : Bool) (accepted refused : Phase)

/-- The call wakes without a cancellation. -/
def Task.resume (task : Task ι) (deadlinePassed : Bool) : Option Action :=
  match task.operation, task.phase with
  | .awaitForCapacity _ _ _ rejectsBusy, .looping =>
    some (.submit rejectsBusy (.attempting .queued) (.raised false))
  | .runEngine _, .looping => some (.submit false (.attempting .queued) (.raised false))
  | .awaitForCapacity _ _ _ _, .attempting (.settled (.ok .consumed)) => some (.goto .callbacks)
  | .awaitForCapacity _ _ _ _, .attempting (.settled (.ok .replayed)) => some (.goto .reporting)
  | .awaitForCapacity _ _ _ _, .attempting (.settled (.ok _)) => some (.goto .waiting)
  | .runEngine _, .attempting (.settled (.ok _)) => some (.goto .reporting)
  -- a lock that stays busy is tried again until the deadline
  | .awaitForCapacity _ _ _ _, .attempting (.settled (.error error)) =>
    some (.goto (if error = .lockContention ∧ ¬ deadlinePassed then .sleeping else .raised false))
  | .runEngine _, .attempting (.settled (.error _)) => some (.goto (.raised false))
  | _, .attempting .cancelled => some (.goto (.raised false))
  -- a consumption that settled under a cancellation is cleaned up; that submission is not
  -- inside the `try` whose handler records a failure
  | .awaitForCapacity _ _ _ _, .settling (.settled (.ok .consumed)) =>
    some (.submit false (.cleaning .queued) (.raised false))
  | _, .settling (.settled _) | _, .settling .cancelled => some (.goto (.raised false))
  | _, .waiting => some (.goto (if deadlinePassed then .raised false else .sleeping))
  | _, .sleeping => some (.goto .looping)
  | _, .reporting | _, .callbacks => some (.goto .returned)
  | _, .cleaning (.settled (.ok _)) => some (.goto (.raised false))
  | _, .cleaning (.settled (.error _)) | _, .cleaning .cancelled => some (.goto (.raised true))
  | _, _ => none

/-- A cancellation or the deadline's `asyncio.timeout` is delivered to the call, or a callback
    raises a critical exception. -/
def Task.interrupt (task : Task ι) : Option Action :=
  match task.operation, task.phase with
  -- `operation.cancel()`
  | .awaitForCapacity _ _ _ _, .attempting .queued | _, .attempting .cancelled =>
    some (.goto (.raised false))
  | _, .attempting future => some (.goto (.settling future))
  -- swallowed: the outcome of the job is waited for
  | _, .settling future => some (.goto (.settling future))
  | _, .cleaning future => some (.goto (.cleaning future))
  | _, .waiting | _, .sleeping | _, .reporting => some (.goto (.raised false))
  | _, .callbacks => some (.submit false (.cleaning .queued) (.raised true))
  | _, _ => none

/-! ## The transactions of a call -/

/-- The outcome of the transaction of a job, if it committed. -/
def Future.committed : Future → Option Outcome
  | .settled (.ok outcome) => some outcome
  | _ => none

/-- The history of an acquire: attempts that found too little, and then `tail`. -/
def Ends (attempt : EngineRequest) (commits tail : List (EngineRequest × Outcome)) : Prop :=
  ∃ denied, commits = List.replicate denied (attempt, .unavailable) ++ tail

/-- The history of an acquire at an await point. -/
def AcquireAccounts (attempt cleanup : EngineRequest) (shutdown : Bool)
    (commits : List (EngineRequest × Outcome)) : Phase → Prop
  | .looping | .waiting | .sleeping => Ends attempt commits []
  | .attempting future | .settling future =>
    match future.committed with
    | some outcome => outcome ≠ .done ∧ Ends attempt commits [(attempt, outcome)]
    | none => Ends attempt commits []
  | .reporting => Ends attempt commits [(attempt, .replayed)]
  | .callbacks => Ends attempt commits [(attempt, .consumed)]
  | .cleaning future =>
    match future.committed with
    | some _ => Ends attempt commits [(attempt, .consumed), (cleanup, .done)]
    | none => Ends attempt commits [(attempt, .consumed)]
  | .returned =>
    Ends attempt commits [(attempt, .consumed)] ∨ Ends attempt commits [(attempt, .replayed)]
  | .raised recorded =>
    Ends attempt commits [] ∨ Ends attempt commits [(attempt, .replayed)] ∨
      Ends attempt commits [(attempt, .consumed), (cleanup, .done)] ∨
      Ends attempt commits [(attempt, .consumed)] ∧ (recorded = true ∨ shutdown = true)

/-- The history of a call that is one `_run_engine`. -/
def EngineAccounts (request : EngineRequest) (commits : List (EngineRequest × Outcome)) :
    Phase → Prop
  | .looping => commits = []
  | .attempting future | .settling future =>
    match future.committed with
    | some outcome => commits = [(request, outcome)]
    | none => commits = []
  | .reporting | .returned => ∃ outcome, commits = [(request, outcome)]
  | .raised _ => commits = [] ∨ ∃ outcome, commits = [(request, outcome)]
  | .waiting | .sleeping | .callbacks | .cleaning _ => False

/-- The history of a call of a backend with the given buckets. -/
def Operation.Accounts (bucketIds : Finset BucketId) (shutdown : Bool)
    (commits : List (EngineRequest × Outcome)) (phase : Phase) : Operation → Prop
  | .awaitForCapacity usage reservationId lifetime _ =>
    AcquireAccounts (.tryConsume usage reservationId lifetime)
      (.cleanupConsumption usage bucketIds reservationId) shutdown commits phase
  | .runEngine request => EngineAccounts request commits phase

variable {attempt cleanup request : EngineRequest} {shutdown : Bool} {outcome : Outcome}
  {commits tail : List (EngineRequest × Outcome)} {bucketIds : Finset BucketId} {phase : Phase}

theorem Ends.denied (h_ends : Ends attempt commits [(attempt, .unavailable)]) :
    Ends attempt commits [] := by
  obtain ⟨denied, h_commits⟩ := h_ends
  refine ⟨denied + 1, ?_⟩
  rw [h_commits, List.replicate_succ', List.append_nil]

theorem Ends.outcomes (h_ends : Ends attempt commits tail) :
    ∃ denied, commits.map Prod.snd = List.replicate denied .unavailable ++ tail.map Prod.snd := by
  obtain ⟨denied, rfl⟩ := h_ends
  refine ⟨denied, ?_⟩
  rw [List.map_append, List.map_replicate]

theorem Ends.snoc (h_ends : Ends attempt commits tail) (entry : EngineRequest × Outcome) :
    Ends attempt (commits ++ [entry]) (tail ++ [entry]) := by
  obtain ⟨denied, rfl⟩ := h_ends
  exact ⟨denied, List.append_assoc _ _ _⟩

/-- A shutdown excuses more. -/
theorem AcquireAccounts.shutDown
    (h_accounts : AcquireAccounts attempt cleanup shutdown commits phase) :
    AcquireAccounts attempt cleanup true commits phase := by
  cases phase with
  | raised recorded =>
    obtain h_ends | h_ends | h_ends | ⟨h_ends, _⟩ := h_accounts
    · exact .inl h_ends
    · exact .inr (.inl h_ends)
    · exact .inr (.inr (.inl h_ends))
    · exact .inr (.inr (.inr ⟨h_ends, .inr rfl⟩))
  | _ => exact h_accounts

theorem Operation.Accounts.shutDown {operation : Operation}
    (h_accounts : operation.Accounts bucketIds shutdown commits phase) :
    operation.Accounts bucketIds true commits phase := by
  cases operation with
  | awaitForCapacity usage reservationId lifetime rejectsBusy =>
    exact AcquireAccounts.shutDown h_accounts
  | runEngine request => exact h_accounts

/-- What a call has at hand when its action was decided: the phase it goes to, whether or not
    the executor takes a job. -/
def Action.Accounts (operation : Operation) (bucketIds : Finset BucketId) (shutdown : Bool)
    (commits : List (EngineRequest × Outcome)) : Action → Prop
  | .goto phase => operation.Accounts bucketIds shutdown commits phase
  | .submit rejectsBusy accepted refused =>
    operation.Accounts bucketIds shutdown commits accepted ∧
      (shutdown = true → operation.Accounts bucketIds shutdown commits refused) ∧
      (rejectsBusy = true → operation.Accounts bucketIds shutdown commits (.raised false))

theorem resume_acquire {usage : FrozenUsage} {reservationId : Option ReservationId}
    {lifetime : Option ℚ} {rejectsBusy deadlinePassed : Bool} {who : ι} {action : Action}
    (h_accounts : (Operation.awaitForCapacity usage reservationId lifetime rejectsBusy).Accounts
      bucketIds shutdown commits phase)
    (h_action : Task.resume ⟨who, .awaitForCapacity usage reservationId lifetime rejectsBusy, phase⟩
      deadlinePassed = some action) :
    action.Accounts (.awaitForCapacity usage reservationId lifetime rejectsBusy) bucketIds shutdown
      commits := by
  cases phase with
  | looping =>
    cases h_action
    exact ⟨h_accounts, fun _ => .inl h_accounts, fun _ => .inl h_accounts⟩
  | attempting future =>
    cases future with
    | queued => cases h_action
    | running => cases h_action
    | settled result =>
      cases result with
      | ok outcome =>
        obtain ⟨h_outcome, h_ends⟩ := h_accounts
        cases outcome with
        | consumed =>
          cases h_action
          exact h_ends
        | replayed =>
          cases h_action
          exact h_ends
        | unavailable =>
          cases h_action
          exact h_ends.denied
        | done => exact absurd rfl h_outcome
      | error error =>
        cases h_action
        simp only [Action.Accounts]
        split
        · exact h_accounts
        · exact .inl h_accounts
    | cancelled =>
      cases h_action
      exact .inl h_accounts
  | settling future =>
    cases future with
    | queued => cases h_action
    | running => cases h_action
    | settled result =>
      cases result with
      | ok outcome =>
        obtain ⟨h_outcome, h_ends⟩ := h_accounts
        cases outcome with
        | consumed =>
          cases h_action
          -- cancelled while the job ran: cleaned up, unless the executor is gone
          exact ⟨h_ends, fun h_shutdown => .inr (.inr (.inr ⟨h_ends, .inr h_shutdown⟩)),
            fun h_rejects => absurd h_rejects Bool.false_ne_true⟩
        | replayed =>
          cases h_action
          exact .inr (.inl h_ends)
        | unavailable =>
          cases h_action
          exact .inl h_ends.denied
        | done => exact absurd rfl h_outcome
      | error error =>
        cases h_action
        exact .inl h_accounts
    | cancelled =>
      cases h_action
      exact .inl h_accounts
  | waiting =>
    cases h_action
    cases deadlinePassed with
    | true => exact .inl h_accounts
    | false => exact h_accounts
  | sleeping =>
    cases h_action
    exact h_accounts
  | reporting =>
    cases h_action
    exact .inr h_accounts
  | callbacks =>
    cases h_action
    exact .inl h_accounts
  | cleaning future =>
    cases future with
    | queued => cases h_action
    | running => cases h_action
    | settled result =>
      cases result with
      | ok outcome =>
        cases h_action
        exact .inr (.inr (.inl h_accounts))
      | error error =>
        cases h_action
        exact .inr (.inr (.inr ⟨h_accounts, .inl rfl⟩))
    | cancelled =>
      cases h_action
      exact .inr (.inr (.inr ⟨h_accounts, .inl rfl⟩))
  | returned => cases h_action
  | raised recorded => cases h_action

theorem resume_runEngine {deadlinePassed : Bool} {who : ι} {action : Action}
    (h_accounts : (Operation.runEngine request).Accounts bucketIds shutdown commits phase)
    (h_action : Task.resume ⟨who, .runEngine request, phase⟩ deadlinePassed = some action) :
    action.Accounts (.runEngine request) bucketIds shutdown commits := by
  cases phase with
  | looping =>
    cases h_action
    exact ⟨h_accounts, fun _ => .inl h_accounts, fun _ => .inl h_accounts⟩
  | attempting future =>
    cases future with
    | queued => cases h_action
    | running => cases h_action
    | settled result =>
      cases result with
      | ok outcome =>
        cases h_action
        exact ⟨outcome, h_accounts⟩
      | error error =>
        cases h_action
        exact .inl h_accounts
    | cancelled =>
      cases h_action
      exact .inl h_accounts
  | settling future =>
    cases future with
    | queued => cases h_action
    | running => cases h_action
    | settled result =>
      cases result with
      | ok outcome =>
        cases h_action
        exact .inr ⟨outcome, h_accounts⟩
      | error error =>
        cases h_action
        exact .inl h_accounts
    | cancelled =>
      cases h_action
      exact .inl h_accounts
  | waiting => exact absurd h_accounts not_false
  | sleeping => exact absurd h_accounts not_false
  | reporting =>
    cases h_action
    exact h_accounts
  | callbacks => exact absurd h_accounts not_false
  | cleaning future => exact absurd h_accounts not_false
  | returned => cases h_action
  | raised recorded => cases h_action

/-- A call that wakes accounts for its history wherever it goes. -/
theorem resume_accounts {task : Task ι} {deadlinePassed : Bool} {action : Action}
    (h_accounts : task.operation.Accounts bucketIds shutdown commits task.phase)
    (h_action : task.resume deadlinePassed = some action) :
    action.Accounts task.operation bucketIds shutdown commits := by
  obtain ⟨who, operation, phase⟩ := task
  cases operation with
  | awaitForCapacity usage reservationId lifetime rejectsBusy =>
    exact resume_acquire h_accounts h_action
  | runEngine request => exact resume_runEngine h_accounts h_action

/-- So does a call that is cancelled: it withdraws its job or goes on to wait for it. -/
theorem interrupt_accounts {task : Task ι} {action : Action}
    (h_accounts : task.operation.Accounts bucketIds shutdown commits task.phase)
    (h_action : task.interrupt = some action) :
    action.Accounts task.operation bucketIds shutdown commits := by
  obtain ⟨who, operation, phase⟩ := task
  cases operation with
  | awaitForCapacity usage reservationId lifetime rejectsBusy =>
    cases phase with
    | attempting future =>
      cases future with
      | queued =>
        cases h_action
        exact .inl h_accounts
      | cancelled =>
        cases h_action
        exact .inl h_accounts
      | running =>
        cases h_action
        exact h_accounts
      | settled result =>
        cases h_action
        exact h_accounts
    | settling future =>
      cases h_action
      exact h_accounts
    | cleaning future =>
      cases h_action
      exact h_accounts
    | waiting =>
      cases h_action
      exact .inl h_accounts
    | sleeping =>
      cases h_action
      exact .inl h_accounts
    | reporting =>
      cases h_action
      exact .inr (.inl h_accounts)
    | callbacks =>
      cases h_action
      exact ⟨h_accounts, fun _ => .inr (.inr (.inr ⟨h_accounts, .inl rfl⟩)),
        fun h_rejects => absurd h_rejects Bool.false_ne_true⟩
    | looping => cases h_action
    | returned => cases h_action
    | raised recorded => cases h_action
  | runEngine request =>
    cases phase with
    | attempting future =>
      cases future with
      | cancelled =>
        cases h_action
        exact .inl h_accounts
      | queued =>
        cases h_action
        exact h_accounts
      | running =>
        cases h_action
        exact h_accounts
      | settled result =>
        cases h_action
        exact h_accounts
    | settling future =>
      cases h_action
      exact h_accounts
    | reporting =>
      cases h_action
      exact .inr h_accounts
    | waiting => exact absurd h_accounts not_false
    | sleeping => exact absurd h_accounts not_false
    | callbacks => exact absurd h_accounts not_false
    | cleaning future => exact absurd h_accounts not_false
    | looping => cases h_action
    | returned => cases h_action
    | raised recorded => cases h_action

/-- A job that is not done has committed nothing yet. -/
theorem withFuture_accounts {operation : Operation} {future future' : Future}
    (h_accounts : operation.Accounts bucketIds shutdown commits phase)
    (h_future : phase.future = some future) (h_committed : future.committed = none)
    (h_committed' : future'.committed = none) :
    operation.Accounts bucketIds shutdown commits (phase.withFuture future') := by
  cases phase with
  | attempting held | settling held =>
    cases h_future
    cases operation <;>
      simpa only [Operation.Accounts, AcquireAccounts, EngineAccounts, Phase.withFuture,
        h_committed, h_committed'] using h_accounts
  | cleaning held =>
    cases h_future
    cases operation with
    | awaitForCapacity usage reservationId lifetime rejectsBusy =>
      simpa only [Operation.Accounts, AcquireAccounts, Phase.withFuture, h_committed,
        h_committed'] using h_accounts
    | runEngine request => exact absurd h_accounts not_false
  | _ => cases h_future

/-! ## Steps -/

variable [DecidableEq ι]

def init (engine : ι → SqliteEngine) (clock : ℚ) : SqliteTasks ι where
  store := .init engine clock
  workers _ := ⟨none, ∅, false, false, false⟩
  tasks _ := none
  commits _ := []

def setWorker (s : SqliteTasks ι) (who : ι) (f : Worker → Worker) : SqliteTasks ι :=
  { s with workers := Function.update s.workers who (f (s.workers who)) }

def Worker.setPending (i : TaskId) (outstanding : Bool) (w : Worker) : Worker :=
  { w with pending := if outstanding then insert i w.pending else w.pending.erase i }

def setPhase (s : SqliteTasks ι) (i : TaskId) (task : Task ι) (phase : Phase) : SqliteTasks ι :=
  { s.setWorker task.who (.setPending i phase.outstanding) with
    tasks := Function.update s.tasks i (some { task with phase := phase }) }

/-- Adds the transaction of a call, if it committed, to the call's history. -/
def record (commits : TaskId → List (EngineRequest × Outcome)) (i : TaskId)
    (request : EngineRequest) : Except BackendError Outcome → TaskId →
      List (EngineRequest × Outcome)
  | .ok outcome => Function.update commits i (commits i ++ [(request, outcome)])
  | .error _ => commits

def act (s : SqliteTasks ι) (i : TaskId) (task : Task ι) : Action → SqliteTasks ι
  | .goto phase => s.setPhase i task phase
  | .submit rejectsBusy accepted refused =>
    if rejectsBusy ∧ (s.workers task.who).pending ≠ ∅ then s.setPhase i task (.raised false)
    else if (s.workers task.who).shutdown then s.setPhase i task refused
    else s.setPhase i task accepted

/-- The worker thread is done with the job of a call. -/
def settle (s : SqliteTasks ι) (i : TaskId) (task : Task ι)
    (result : Except BackendError Outcome) : SqliteTasks ι :=
  (s.setPhase i task (task.phase.withFuture (.settled result))).setWorker task.who
    fun w => { w with running := none }

/-- `shutdown(cancel_futures=True)` -/
def Worker.shutDown (w : Worker) : Worker :=
  { w with shutdown := true, pending := w.pending.filter fun i => w.running = some i }

/-- A task whose job is still queued when the executor is shut down. -/
def Task.cancelQueued (who : ι) (task : Task ι) : Task ι :=
  match task.phase.future with
  | some .queued =>
    if task.who = who then { task with phase := task.phase.withFuture .cancelled } else task
  | _ => task

/-- What a call checks before its first job. -/
def Operation.isValid (e : SqliteEngine) : Operation → Bool
  | .awaitForCapacity usage _ _ _ => (validateBackendUsage usage e.metricNames).isOk
  | .runEngine _ => true

inductive Label (ι : Type)
  | start (i : TaskId) (who : ι) (operation : Operation)
  | resume (i : TaskId) (deadlinePassed : Bool)
  | interrupt (i : TaskId)
  /-- The worker thread takes a job; from then on it cannot be withdrawn. -/
  | pickUp (i : TaskId)
  | run (i : TaskId) (input : TxnInput)
  /-- The job raises before it has a transaction: the lock is busy, or the engine closed. -/
  | fail (i : TaskId) (error : BackendError)
  /-- `_begin_close` -/
  | beginClose (who : ι)
  | closeEngine (who : ι)
  | shutdown (who : ι)

/-- The exceptions of `_transaction` before its body. -/
def Worker.Raises (w : Worker) : BackendError → Bool
  | .lockContention | .lockTimeout => true
  | .runtimeError => w.engineClosed
  | _ => false

def step (s : SqliteTasks ι) : Label ι → Option (SqliteTasks ι)
  | .start i who operation =>
    if (s.tasks i).isNone ∧ ¬ (s.workers who).closed ∧
        operation.isValid (s.store.engine who) then
      some { s with tasks := Function.update s.tasks i (some ⟨who, operation, .looping⟩) }
    else none
  | .resume i deadlinePassed =>
    (s.tasks i).bind fun task => (task.resume deadlinePassed).map (s.act i task)
  | .interrupt i => (s.tasks i).bind fun task => task.interrupt.map (s.act i task)
  | .pickUp i =>
    (s.tasks i).bind fun task =>
      -- one worker thread: a job starts when no other one runs
      match task.phase.future, (s.workers task.who).running with
      | some .queued, none =>
        some ((s.setPhase i task (task.phase.withFuture .running)).setWorker task.who
          fun w => { w with running := some i })
      | _, _ => none
  | .run i input =>
    (s.tasks i).bind fun task =>
      match task.phase.future with
      | some .running =>
        if (s.workers task.who).engineClosed then none
        else
          let e := s.store.engine task.who
          let request := task.request e
          -- the thread runs the transaction whether its task still waits for it or not
          let result := (e.call input s.store.db request).1
          (s.store.step (task.who, input, request)).map fun store =>
            ({ s with store := store, commits := record s.commits i request result }).settle
              i task result
      | _ => none
  | .fail i error =>
    (s.tasks i).bind fun task =>
      match task.phase.future with
      | some .running =>
        if (s.workers task.who).Raises error then some (s.settle i task (.error error)) else none
      | _ => none
  | .beginClose who => some (s.setWorker who fun w => { w with closed := true })
  | .closeEngine who =>
    if (s.workers who).closed ∧ (s.workers who).running = none then
      some (s.setWorker who fun w => { w with engineClosed := true })
    else none
  | .shutdown who =>
    if (s.workers who).engineClosed then
      some { s.setWorker who .shutDown with
        tasks := fun i => (s.tasks i).map (Task.cancelQueued who) }
    else none

/-! ## What a step does -/

variable {s s' : SqliteTasks ι} {i : TaskId} {task : Task ι} {label : Label ι}

/-- The cases of a step, with what each does. -/
inductive Happens (s : SqliteTasks ι) : Label ι → SqliteTasks ι → Prop
  | started {i : TaskId} {who : ι} {operation : Operation} (h_new : s.tasks i = none) :
      Happens s (.start i who operation)
        { s with tasks := Function.update s.tasks i (some ⟨who, operation, .looping⟩) }
  | resumed {i : TaskId} {deadlinePassed : Bool} {task : Task ι} {action : Action}
      (h_task : s.tasks i = some task) (h_action : task.resume deadlinePassed = some action) :
      Happens s (.resume i deadlinePassed) (s.act i task action)
  | interrupted {i : TaskId} {task : Task ι} {action : Action}
      (h_task : s.tasks i = some task) (h_action : task.interrupt = some action) :
      Happens s (.interrupt i) (s.act i task action)
  | pickedUp {i : TaskId} {task : Task ι} (h_task : s.tasks i = some task)
      (h_future : task.phase.future = some .queued)
      (h_idle : (s.workers task.who).running = none) :
      Happens s (.pickUp i)
        ((s.setPhase i task (task.phase.withFuture .running)).setWorker task.who
          fun w => { w with running := some i })
  | ran {i : TaskId} {task : Task ι} {input : TxnInput} {request : EngineRequest}
      {result : Except BackendError Outcome} {store : SharedStore ι}
      (h_task : s.tasks i = some task) (h_future : task.phase.future = some .running)
      (h_request : request = task.request (s.store.engine task.who))
      (h_result : result = ((s.store.engine task.who).call input s.store.db request).1)
      (h_store : s.store.step (task.who, input, request) = some store) :
      Happens s (.run i input)
        (({ s with store := store, commits := record s.commits i request result }).settle
          i task result)
  | failed {i : TaskId} {task : Task ι} {error : BackendError}
      (h_task : s.tasks i = some task) (h_future : task.phase.future = some .running) :
      Happens s (.fail i error) (s.settle i task (.error error))
  | beganClose {who : ι} :
      Happens s (.beginClose who) (s.setWorker who fun w => { w with closed := true })
  | closedEngine {who : ι} :
      Happens s (.closeEngine who) (s.setWorker who fun w => { w with engineClosed := true })
  | shutDown {who : ι} :
      Happens s (.shutdown who)
        { s.setWorker who .shutDown with
          tasks := fun i => (s.tasks i).map (Task.cancelQueued who) }

theorem step_happens (h_step : s.step label = some s') : Happens s label s' := by
  cases label with
  | start i who operation =>
    simp only [step] at h_step
    split at h_step
    · rename_i h_guard
      cases h_step
      exact .started (Option.isNone_iff_eq_none.mp h_guard.1)
    · cases h_step
  | resume i deadlinePassed =>
    obtain ⟨task, h_task, h_step⟩ := Option.bind_eq_some_iff.mp h_step
    obtain ⟨action, h_action, rfl⟩ := Option.map_eq_some_iff.mp h_step
    exact .resumed h_task h_action
  | interrupt i =>
    obtain ⟨task, h_task, h_step⟩ := Option.bind_eq_some_iff.mp h_step
    obtain ⟨action, h_action, rfl⟩ := Option.map_eq_some_iff.mp h_step
    exact .interrupted h_task h_action
  | pickUp i =>
    obtain ⟨task, h_task, h_step⟩ := Option.bind_eq_some_iff.mp h_step
    split at h_step
    · rename_i h_future h_idle
      cases h_step
      exact .pickedUp h_task h_future h_idle
    · cases h_step
  | run i input =>
    obtain ⟨task, h_task, h_step⟩ := Option.bind_eq_some_iff.mp h_step
    split at h_step
    · rename_i h_future
      split at h_step
      · cases h_step
      · obtain ⟨store, h_store, rfl⟩ := Option.map_eq_some_iff.mp h_step
        exact .ran h_task h_future rfl rfl h_store
    · cases h_step
  | fail i error =>
    obtain ⟨task, h_task, h_step⟩ := Option.bind_eq_some_iff.mp h_step
    split at h_step
    · rename_i h_future
      split at h_step
      · cases h_step
        exact .failed h_task h_future
      · cases h_step
    · cases h_step
  | beginClose who =>
    cases h_step
    exact .beganClose
  | closeEngine who =>
    simp only [step] at h_step
    split at h_step
    · cases h_step
      exact .closedEngine
    · cases h_step
  | shutdown who =>
    simp only [step] at h_step
    split at h_step
    · cases h_step
      exact .shutDown
    · cases h_step

/-! ## Every call accounts for its history -/

variable {engine : ι → SqliteEngine} {clock : ℚ} {phase : Phase}

structure Sound (engine : ι → SqliteEngine) (s : SqliteTasks ι) : Prop where
  bucketIds : ∀ who, (s.store.engine who).bucketIds = (engine who).bucketIds
  unstarted : ∀ i, s.tasks i = none → s.commits i = []
  accounts : ∀ i task, s.tasks i = some task →
    task.operation.Accounts (engine task.who).bucketIds (s.workers task.who).shutdown
      (s.commits i) task.phase

omit [DecidableEq ι] in
theorem init_sound (engine : ι → SqliteEngine) (clock : ℚ) :
    Sound engine (init engine clock) where
  bucketIds _ := rfl
  unstarted _ _ := rfl
  accounts _ _ h_task := by cases h_task

theorem setWorker_workers (s : SqliteTasks ι) (who who' : ι) (f : Worker → Worker) :
    (s.setWorker who f).workers who' = if who' = who then f (s.workers who) else s.workers who' := by
  show Function.update _ _ _ _ = _
  rw [Function.update_apply]

theorem setWorker_shutdown (s : SqliteTasks ι) (who : ι) (f : Worker → Worker)
    (h_shutdown : ∀ w, (f w).shutdown = w.shutdown) (who' : ι) :
    ((s.setWorker who f).workers who').shutdown = (s.workers who').shutdown := by
  rw [setWorker_workers]
  split
  · rename_i h_eq
    rw [h_shutdown, h_eq]
  · rfl

theorem setPhase_shutdown (s : SqliteTasks ι) (i : TaskId) (task : Task ι) (phase : Phase)
    (who : ι) : ((s.setPhase i task phase).workers who).shutdown = (s.workers who).shutdown :=
  setWorker_shutdown s task.who (.setPending i phase.outstanding) (fun _ => rfl) who

theorem settle_shutdown (s : SqliteTasks ι) (i : TaskId) (task : Task ι)
    (result : Except BackendError Outcome) (who : ι) :
    ((s.settle i task result).workers who).shutdown = (s.workers who).shutdown :=
  (setWorker_shutdown (s.setPhase i task (task.phase.withFuture (.settled result))) task.who
    (fun w => { w with running := none }) (fun _ => rfl) who).trans (setPhase_shutdown s i task _ who)

omit [DecidableEq ι] in
/-- One call moves, and only its history grows. -/
theorem Sound.moved (h_sound : Sound engine s)
    (h_tasks : s'.tasks = Function.update s.tasks i (some { task with phase := phase }))
    (h_shutdown : ∀ who, (s'.workers who).shutdown = (s.workers who).shutdown)
    (h_ids : ∀ who, (s'.store.engine who).bucketIds = (s.store.engine who).bucketIds)
    (h_commits : ∀ j, j ≠ i → s'.commits j = s.commits j)
    (h_accounts : task.operation.Accounts (engine task.who).bucketIds
      (s.workers task.who).shutdown (s'.commits i) phase) : Sound engine s' where
  bucketIds who := (h_ids who).trans (h_sound.bucketIds who)
  unstarted j h_none := by
    rw [h_tasks] at h_none
    by_cases h_eq : j = i
    · rw [h_eq, Function.update_self] at h_none
      cases h_none
    · rw [Function.update_of_ne h_eq] at h_none
      rw [h_commits j h_eq, h_sound.unstarted j h_none]
  accounts j moved h_moved := by
    rw [h_shutdown]
    rw [h_tasks] at h_moved
    by_cases h_eq : j = i
    · rw [h_eq, Function.update_self] at h_moved
      cases h_moved
      rw [h_eq]
      exact h_accounts
    · rw [Function.update_of_ne h_eq] at h_moved
      rw [h_commits j h_eq]
      exact h_sound.accounts j moved h_moved

theorem Sound.setPhase (h_sound : Sound engine s)
    (h_accounts : task.operation.Accounts (engine task.who).bucketIds
      (s.workers task.who).shutdown (s.commits i) phase) :
    Sound engine (s.setPhase i task phase) :=
  h_sound.moved rfl (setPhase_shutdown s i task phase) (fun _ => rfl) (fun _ _ => rfl)
    h_accounts

theorem Sound.setWorker (h_sound : Sound engine s) {who : ι} {f : Worker → Worker}
    (h_shutdown : ∀ w, (f w).shutdown = w.shutdown) : Sound engine (s.setWorker who f) where
  bucketIds := h_sound.bucketIds
  unstarted := h_sound.unstarted
  accounts j task h_task := by
    rw [setWorker_shutdown s who f h_shutdown]
    exact h_sound.accounts j task h_task

theorem Sound.act {action : Action} (h_sound : Sound engine s)
    (h_accounts : action.Accounts task.operation (engine task.who).bucketIds
      (s.workers task.who).shutdown (s.commits i)) : Sound engine (s.act i task action) := by
  cases action with
  | goto phase => exact h_sound.setPhase h_accounts
  | submit rejectsBusy accepted refused =>
    obtain ⟨h_accepted, h_refused, h_rejected⟩ := h_accounts
    simp only [SqliteTasks.act]
    split
    · rename_i h_busy
      exact h_sound.setPhase (h_rejected h_busy.1)
    · split
      · rename_i h_shutdown
        exact h_sound.setPhase (h_refused h_shutdown)
      · exact h_sound.setPhase h_accepted

theorem tryConsume_outcome {e e' : SqliteEngine} {input : TxnInput} {db db' : Database}
    {usage : FrozenUsage} {reservationId : Option ReservationId} {lifetime : Option ℚ}
    {outcome : Outcome}
    (h_ok : e.call input db (.tryConsume usage reservationId lifetime) = (.ok outcome, e', db')) :
    outcome ≠ .done := by
  obtain ⟨result, _, rfl⟩ := SqliteEngine.of_answer_ok h_ok
  unfold TryConsumeResult.outcome CapacityResult.outcome
  split
  · split <;> simp
  · simp

theorem cleanupConsumption_outcome {e e' : SqliteEngine} {input : TxnInput} {db db' : Database}
    {usage : FrozenUsage} {bucketIds : Finset BucketId} {reservationId : Option ReservationId}
    {outcome : Outcome}
    (h_ok : e.call input db (.cleanupConsumption usage bucketIds reservationId) =
      (.ok outcome, e', db')) : outcome = .done := by
  obtain ⟨result, _, rfl⟩ := SqliteEngine.of_answer_ok h_ok
  rfl

omit [DecidableEq ι] in
/-- The transaction of a job settles its future and makes the history what it should be. -/
theorem ran_accounts {e : SqliteEngine} {input : TxnInput} {db : Database}
    {bucketIds : Finset BucketId} {shutdown : Bool}
    {commits : TaskId → List (EngineRequest × Outcome)} {result : Except BackendError Outcome}
    (h_accounts : task.operation.Accounts bucketIds shutdown (commits i) task.phase)
    (h_future : task.phase.future = some .running) (h_ids : e.bucketIds = bucketIds)
    (h_result : result = (e.call input db (task.request e)).1) :
    task.operation.Accounts bucketIds shutdown (record commits i (task.request e) result i)
      (task.phase.withFuture (.settled result)) := by
  have h_call : e.call input db (task.request e) = (result, (e.call input db (task.request e)).2) := by
    rw [h_result]
  cases result with
  | error error => exact withFuture_accounts h_accounts h_future rfl rfl
  | ok outcome =>
    have h_record : record commits i (task.request e) (.ok outcome) i =
      commits i ++ [(task.request e, outcome)] := Function.update_self ..
    rw [h_record]
    obtain ⟨who, operation, phase⟩ := task
    cases phase with
    | attempting future =>
      cases h_future
      cases operation with
      | awaitForCapacity usage reservationId lifetime rejectsBusy =>
        exact ⟨tryConsume_outcome h_call, Ends.snoc h_accounts _⟩
      | runEngine request =>
        show commits i ++ [(request, outcome)] = [(request, outcome)]
        have h_commits : commits i = [] := h_accounts
        rw [h_commits, List.nil_append]
    | settling future =>
      cases h_future
      cases operation with
      | awaitForCapacity usage reservationId lifetime rejectsBusy =>
        exact ⟨tryConsume_outcome h_call, Ends.snoc h_accounts _⟩
      | runEngine request =>
        show commits i ++ [(request, outcome)] = [(request, outcome)]
        have h_commits : commits i = [] := h_accounts
        rw [h_commits, List.nil_append]
    | cleaning future =>
      cases h_future
      cases operation with
      | awaitForCapacity usage reservationId lifetime rejectsBusy =>
        have h_done : outcome = .done := cleanupConsumption_outcome h_call
        rw [h_done, ← h_ids]
        rw [← h_ids] at h_accounts
        exact Ends.snoc h_accounts _
      | runEngine request => exact absurd h_accounts not_false
    | _ => cases h_future

theorem call_bucketIds (e : SqliteEngine) (input : TxnInput) (db : Database)
    (request : EngineRequest) : (e.call input db request).2.1.bucketIds = e.bucketIds := by
  obtain ⟨result, e', db', h_call⟩ : ∃ result e' db', e.call input db request =
    (result, e', db') := ⟨_, _, _, rfl⟩
  rw [h_call]
  cases result with
  | ok outcome =>
    obtain ⟨_, _, rfl, _⟩ := SqliteEngine.call_rows h_call
    rfl
  | error error =>
    obtain ⟨rfl, _⟩ := SqliteEngine.call_error h_call
    rfl

theorem store_bucketIds {store store' : SharedStore ι} {call : ι × TxnInput × EngineRequest}
    (h_step : store.step call = some store') (who : ι) :
    (store'.engine who).bucketIds = (store.engine who).bucketIds := by
  obtain ⟨caller, input, request⟩ := call
  simp only [SharedStore.step] at h_step
  split at h_step
  · cases h_step
    by_cases h_eq : who = caller
    · rw [h_eq]
      simp only [Function.update_self]
      exact call_bucketIds _ _ _ _
    · simp only [Function.update_of_ne h_eq]
  · cases h_step

theorem cancelQueued_who (who : ι) (task : Task ι) :
    (task.cancelQueued who).who = task.who := by
  unfold Task.cancelQueued
  split
  · split <;> rfl
  · rfl

theorem cancelQueued_accounts {bucketIds : Finset BucketId} {shutdown : Bool}
    {commits : List (EngineRequest × Outcome)} (who : ι)
    (h_accounts : task.operation.Accounts bucketIds shutdown commits task.phase) :
    (task.cancelQueued who).operation.Accounts bucketIds shutdown commits
      (task.cancelQueued who).phase := by
  unfold Task.cancelQueued
  split
  · rename_i h_future
    split
    · exact withFuture_accounts h_accounts h_future rfl rfl
    · exact h_accounts
  · exact h_accounts

theorem step_sound (h_sound : Sound engine s) (h_step : Steps step s label s') :
    Sound engine s' := by
  cases step_happens h_step with
  | @started i who operation h_new =>
    refine ⟨h_sound.bucketIds, fun j h_none => ?_, fun j task h_task => ?_⟩
    · by_cases h_eq : j = i
      · rw [h_eq]
        exact h_sound.unstarted i h_new
      · simp only [Function.update_of_ne h_eq] at h_none
        exact h_sound.unstarted j h_none
    · by_cases h_eq : j = i
      · simp only [h_eq, Function.update_self, Option.some.injEq] at h_task
        rw [h_eq, ← h_task, h_sound.unstarted i h_new]
        cases operation with
        | awaitForCapacity usage reservationId lifetime rejectsBusy => exact ⟨0, rfl⟩
        | runEngine request => rfl
      · simp only [Function.update_of_ne h_eq] at h_task
        exact h_sound.accounts j task h_task
  | resumed h_task h_action =>
    exact h_sound.act (resume_accounts (h_sound.accounts _ _ h_task) h_action)
  | interrupted h_task h_action =>
    exact h_sound.act (interrupt_accounts (h_sound.accounts _ _ h_task) h_action)
  | pickedUp h_task h_future _ =>
    exact (h_sound.setPhase (withFuture_accounts (h_sound.accounts _ _ h_task) h_future rfl
      rfl)).setWorker fun _ => rfl
  | @ran i task input request result store h_task h_future h_request h_result h_store =>
    refine h_sound.moved rfl (settle_shutdown _ i task result) (store_bucketIds h_store) ?_ ?_
    · intro j h_ne
      show record s.commits i request result j = s.commits j
      cases result with
      | ok outcome => exact Function.update_of_ne h_ne _ _
      | error error => rfl
    · rw [h_request] at h_result ⊢
      exact ran_accounts (h_sound.accounts i task h_task) h_future (h_sound.bucketIds task.who)
        h_result
  | @failed i task error h_task h_future =>
    exact h_sound.moved rfl (settle_shutdown s i task (.error error)) (fun _ => rfl)
      (fun _ _ => rfl) (withFuture_accounts (h_sound.accounts i task h_task) h_future rfl rfl)
  | beganClose => exact h_sound.setWorker fun _ => rfl
  | closedEngine => exact h_sound.setWorker fun _ => rfl
  | @shutDown who =>
    refine ⟨h_sound.bucketIds, fun j h_none => ?_, fun j cancelled h_cancelled => ?_⟩
    · exact h_sound.unstarted j (Option.map_eq_none_iff.mp h_none)
    · obtain ⟨task, h_task, rfl⟩ := Option.map_eq_some_iff.mp h_cancelled
      have h_accounts := cancelQueued_accounts who (h_sound.accounts j task h_task)
      rw [cancelQueued_who]
      by_cases h_who : task.who = who
      · have h_shutdown : ((s.setWorker who .shutDown).workers task.who).shutdown = true := by
          rw [setWorker_workers, if_pos h_who]
          rfl
        simp only [h_shutdown]
        exact h_accounts.shutDown
      · have h_same : (s.setWorker who .shutDown).workers task.who = s.workers task.who := by
          rw [setWorker_workers, if_neg h_who]
        simp only [h_same]
        exact h_accounts

theorem run_sound {labels : List (Label ι)}
    (h_run : Run (Steps step) (init engine clock) labels s) : Sound engine s :=
  h_run.invariant (fun _ _ _ => step_sound) (init_sound engine clock)

/-! ## A call that has ended -/

def Phase.ended : Phase → Bool
  | .returned | .raised _ => true
  | _ => false

theorem setPhase_tasks_of_ne (s : SqliteTasks ι) {i j : TaskId} (task : Task ι) (phase : Phase)
    (h_ne : j ≠ i) : (s.setPhase i task phase).tasks j = s.tasks j :=
  Function.update_of_ne h_ne _ _

theorem act_tasks_of_ne (s : SqliteTasks ι) {i j : TaskId} (task : Task ι) (action : Action)
    (h_ne : j ≠ i) : (s.act i task action).tasks j = s.tasks j := by
  cases action with
  | goto phase => exact setPhase_tasks_of_ne s task phase h_ne
  | submit rejectsBusy accepted refused =>
    simp only [act]
    split
    · exact setPhase_tasks_of_ne s task _ h_ne
    · split <;> exact setPhase_tasks_of_ne s task _ h_ne

theorem act_commits (s : SqliteTasks ι) (i : TaskId) (task : Task ι) (action : Action) :
    (s.act i task action).commits = s.commits := by
  cases action with
  | goto phase => rfl
  | submit rejectsBusy accepted refused =>
    simp only [act]
    split
    · rfl
    · split <;> rfl

/-- The arguments of an acquire. -/
def Operation.arguments :
    Operation → Option (FrozenUsage × Option ReservationId × Option ℚ × Bool)
  | .awaitForCapacity usage reservationId lifetime rejectsBusy =>
    some (usage, reservationId, lifetime, rejectsBusy)
  | .runEngine _ => none

theorem of_arguments {operation : Operation} {usage : FrozenUsage}
    {reservationId : Option ReservationId} {lifetime : Option ℚ} {rejectsBusy : Bool}
    (h_arguments : operation.arguments = some (usage, reservationId, lifetime, rejectsBusy)) :
    operation = .awaitForCapacity usage reservationId lifetime rejectsBusy := by
  cases operation with
  | runEngine request => cases h_arguments
  | awaitForCapacity usage' reservationId' lifetime' rejectsBusy' =>
    cases h_arguments
    rfl

/-- How a call has ended: by returning, or by raising. -/
def Phase.exit : Phase → Option (Option Bool)
  | .returned => some none
  | .raised recorded => some (some recorded)
  | _ => none

theorem of_exit_returned {phase : Phase} (h_exit : phase.exit = some none) :
    phase = .returned := by
  cases phase <;> cases h_exit
  rfl

end SqliteTasks

end TokenThrottle
