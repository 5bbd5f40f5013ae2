/-
  TokenThrottle.Callbacks.Dispatch

  The dispatch of an asynchronous callback: `_invoke_async_callback_with_timeout` of
  `_interfaces/_callbacks.py`, under `safe_invoke_async_callback`.

  * The dispatch is a step function of the calling task.  Between its suspensions anybody may
    cancel that task, the callback may go on or end, and the deadline may pass, in any order.
  * A callback is nothing but the way it ends: on every step it may suspend again, whatever it
    was sent, or end as it likes.
  * `wait_for` and `shield` are those of `asyncio` on Python 3.12: a deadline cancels the task
    that waits, and is told from a caller's cancellation by the count of `cancelling()`.
  * Left out: the texts that are logged (but not that the `str` of an exception may raise),
    callbacks that raise the private carrier themselves, and `coroutine.close()`.
-/
import TokenThrottle.Theory.Runs
import Mathlib.Data.Rat.Defs
import Mathlib.Algebra.Order.Ring.Unbundled.Rat

namespace TokenThrottle.Callbacks

/-! ## Exceptions -/

/-- The classes that the dispatch tells apart, each with its subclasses. -/
inductive ExcClass
  /-- `asyncio.CancelledError` -/
  | cancelledError
  /-- `concurrent.futures.CancelledError` -/
  | futuresCancelledError
  | keyboardInterrupt
  | systemExit
  | generatorExit
  | memoryError
  | recursionError
  | acquireRefundFailedError
  | timeoutError
  | baseExceptionGroup
  | other
deriving DecidableEq

/-- An exception: the members of a group, and what its `str` raises, if that raises. -/
inductive Exc
  | mk (cls : ExcClass) (members : List Exc) (str : Option Exc)

namespace Exc

def cls : Exc → ExcClass
  | .mk cls _ _ => cls

/-- What `str(exc)` raises. -/
def str : Exc → Option Exc
  | .mk _ _ str => str

def leaf (cls : ExcClass) : Exc := .mk cls [] none

def group (members : List Exc) : Exc := .mk .baseExceptionGroup members none

end Exc

/-- `asyncio.CancelledError()` -/
def cancelledError : Exc := .leaf .cancelledError

/-- The two dispatchers, by what they let through. -/
inductive Ladder
  | lifecycle
  | backend
deriving DecidableEq

/-- `LIFECYCLE_CALLBACK_CRITICAL_EXCEPTIONS` -/
def lifecycleCallbackCriticalExceptions : List ExcClass :=
  [.cancelledError, .futuresCancelledError, .keyboardInterrupt, .systemExit, .generatorExit,
    .memoryError, .recursionError]

/-- `BACKEND_CALLBACK_CRITICAL_EXCEPTIONS` -/
def backendCallbackCriticalExceptions : List ExcClass :=
  .acquireRefundFailedError :: lifecycleCallbackCriticalExceptions

def Ladder.critical : Ladder → List ExcClass
  | .lifecycle => lifecycleCallbackCriticalExceptions
  | .backend => backendCallbackCriticalExceptions

mutual

/-- `_exception_group_contains_critical`: `split` goes through the nested groups. -/
def exceptionGroupContainsCritical (critical : List ExcClass) : Exc → Bool
  | .mk .baseExceptionGroup members _ => membersContainCritical critical members
  | _ => false

def membersContainCritical (critical : List ExcClass) : List Exc → Bool
  | [] => false
  | member :: members =>
    critical.contains member.cls || exceptionGroupContainsCritical critical member ||
      membersContainCritical critical members

end

/-- The exception passes a handler of these classes: it is one, or a group with one in it. -/
def isCritical (critical : List ExcClass) (exc : Exc) : Bool :=
  critical.contains exc.cls || exceptionGroupContainsCritical critical exc

/-- `_masks_caller_cancellation` -/
def masksCallerCancellation (exc : Exc) : Bool :=
  !isCritical backendCallbackCriticalExceptions exc

/-! ## Ends -/

/-- How a callback ends. -/
inductive CallbackEnd
  | returned
  | raised (exc : Exc)

/-- How the callback's own task ends. -/
inductive TaskEnd
  | returned
  | cancelled
  | raised (exc : Exc)
  /-- `_CallbackCriticalCarrierError(exc)` -/
  | carried (exc : Exc)

/-- How a dispatch ends. -/
inductive Result
  | returned
  | raised (exc : Exc)

/-- `_run_timed_callback`, and the task that it is the coroutine of. -/
def runTimedCallback : CallbackEnd → TaskEnd
  | .returned => .returned
  | .raised exc =>
    match exc.cls with
    | .generatorExit | .keyboardInterrupt | .systemExit => .carried exc
    | .cancelledError => .cancelled
    | _ => .raised exc

/-- `raise asyncio.CancelledError from exc`, after the exception has been logged. -/
def restoreCancellation (exc : Exc) : Result :=
  .raised (exc.str.getD cancelledError)

/-- What the frame without a timeout makes of the callback. -/
def inlineResult (cancellationPending : Bool) : CallbackEnd → Result
  | .returned => .returned
  | .raised exc =>
    if masksCallerCancellation exc && cancellationPending then restoreCancellation exc
    else .raised exc

/-- The handler of `TimeoutError`: the callback's own error, or the deadline. -/
def timeoutResult : Option TaskEnd → Result
  | some (.raised exc) | some (.carried exc) => .raised exc
  | _ => .returned

/-- The handler of `CancelledError`, once the callback's task has ended. -/
def unwoundResult : TaskEnd → Result
  | .returned | .cancelled => .raised cancelledError
  | .carried exc => .raised exc
  | .raised exc => if masksCallerCancellation exc then restoreCancellation exc else .raised exc

/-- `safe_invoke_async_callback` -/
def safeInvokeAsyncCallback (ladder : Ladder) : Result → Result
  | .returned => .returned
  | .raised exc =>
    if isCritical ladder.critical exc then .raised exc
    else
      -- the message of the warning asks for `str(exc)`
      match exc.str with
      | none => .returned
      | some error => .raised error

/-! ## The calling task -/

/-- The callback: awaited by the calling task, or in a task of its own. -/
inductive Callback
  | notStarted (mustCancel : Bool)
  | running
  | ended (result : TaskEnd)

/-- The future that `shield` returns. -/
inductive Outer
  | pending
  | done (result : TaskEnd)

inductive Phase
  /-- `await callback(..)` -/
  | inline
  /-- `await wait_for(shield(task), timeout=callback_timeout)` -/
  | waiting (outer : Outer)
  /-- `await task` -/
  | unwinding
  | ended (result : Result)

structure Dispatch where
  callbackTimeout : Option {seconds : ℚ // 0 < seconds}
  ladder : Ladder

structure State where
  phase : Phase
  callback : Callback
  /-- The task is cancelled, but what it awaits is done already. -/
  mustCancel : Bool
  /-- The deadline of `wait_for` has passed. -/
  expiring : Bool
  /-- `cancelling()` of the task. -/
  cancelling : ℕ
  /-- `cancelling()` when `wait_for` was entered. -/
  entered : ℕ

/-- The calling task has come to its first suspension in the dispatch. -/
def start (d : Dispatch) (cancelling : ℕ) : State :=
  match d.callbackTimeout with
  | none => ⟨.inline, .running, false, false, cancelling, cancelling⟩
  | some _ => ⟨.waiting .pending, .notStarted false, false, false, cancelling, cancelling⟩

inductive Event
  /-- Somebody calls `cancel()` on the calling task. -/
  | cancel
  /-- Somebody calls `uncancel()` on it. -/
  | uncancel
  /-- The callback runs until it suspends again, or ends. -/
  | callback (finish : Option CallbackEnd)
  /-- `shield` passes the result of the task on. -/
  | relay
  | deadline
  /-- The calling task goes on, as what it awaits is done. -/
  | wake

def State.end (s : State) (d : Dispatch) (result : Result) : State :=
  { s with phase := .ended (safeInvokeAsyncCallback d.ladder result) }

/-- The end of the callback's task, where `task.done()`. -/
def Callback.result? : Callback → Option TaskEnd
  | .ended result => some result
  | _ => none

/-- `cancel()` on the task of the callback; one that runs is only sent the exception. -/
def Callback.cancel : Callback → Callback
  | .notStarted _ => .notStarted true
  | callback => callback

/-- `Task.cancel()` on the calling task: it cancels what the task awaits. -/
def State.requestCancel (s : State) : State :=
  let s := { s with cancelling := s.cancelling + 1 }
  match s.phase with
  | .inline | .ended _ => s
  | .waiting .pending => { s with phase := .waiting (.done .cancelled) }
  | .waiting (.done _) => { s with mustCancel := true }
  | .unwinding =>
    match s.callback with
    | .ended _ => { s with mustCancel := true }
    | callback => { s with callback := callback.cancel }

/-- `__aexit__` of the deadline: it takes its own cancellation back. -/
def State.exitTimeout (s : State) : State :=
  { s with
    mustCancel := false
    expiring := false
    cancelling := if s.expiring then s.cancelling - 1 else s.cancelling }

/-- The deadline has passed, and nobody else has cancelled the task. -/
def State.timedOut (s : State) : Bool :=
  s.expiring && s.cancelling - 1 ≤ s.entered

/-- The calling task goes on with what the `await` in `wait_for` gives. -/
def State.leaveWait (s : State) (d : Dispatch) (outer : TaskEnd) : State :=
  match if s.mustCancel then .cancelled else outer with
  | .returned => s.exitTimeout.end d .returned
  | .carried exc => s.exitTimeout.end d (.raised exc)
  | .raised exc =>
    if exc.cls = .timeoutError then s.exitTimeout.end d (timeoutResult s.callback.result?)
    else s.exitTimeout.end d (.raised exc)
  | .cancelled =>
    if s.timedOut then s.exitTimeout.end d (timeoutResult s.callback.result?)
    else
      match s.callback with
      | .ended result => s.exitTimeout.end d (unwoundResult result)
      | callback => { s.exitTimeout with phase := .unwinding, callback := callback.cancel }

/-- The callback runs; inline its end is the dispatch's. -/
def State.runCallback (s : State) (d : Dispatch) : Option CallbackEnd → State
  | none => { s with callback := .running }
  | some finish =>
    let s := { s with callback := .ended (runTimedCallback finish) }
    match s.phase with
    | .inline => s.end d (inlineResult (0 < s.cancelling) finish)
    | _ => s

def step (d : Dispatch) (s : State) : Event → Option State
  | .cancel =>
    match s.phase with
    | .ended _ => none
    | _ => some s.requestCancel
  | .uncancel =>
    match s.phase with
    | .ended _ => none
    | _ => some { s with cancelling := s.cancelling - 1 }
  | .callback finish =>
    match s.callback with
    | .ended _ => none
    | .notStarted true => some { s with callback := .ended .cancelled }
    | _ => some (s.runCallback d finish)
  | .relay =>
    match s.phase, s.callback with
    | .waiting .pending, .ended result => some { s with phase := .waiting (.done result) }
    | _, _ => none
  | .deadline =>
    match s.phase, s.expiring with
    | .waiting _, false => some { s.requestCancel with expiring := true }
    | _, _ => none
  | .wake =>
    match s.phase with
    | .waiting (.done outer) => some (s.leaveWait d outer)
    | .unwinding =>
      match s.callback with
      | .ended result =>
        -- a further cancellation takes the place of the result
        some (s.end d (unwoundResult (if s.mustCancel then .cancelled else result)))
      | _ => none
    | _ => none

end TokenThrottle.Callbacks
