/-
  TokenThrottle.Limiter.Acquire

  `_acquire_capacity`, `record_usage` and `aclose` of one limiter, interleaved at
  their await points: the pending, delivery-cleanup and in-flight tables, and the
  drained event that a close waits for.

  * A call is suspended while it gets its backend, while its backend task runs,
    while a shielded state update runs, in the lifecycle callback, or while its
    delivery refund runs.  `callStep` gives what it does up to the next await.
  * `_acquire_guard` is never held across an await, so taking it does not suspend
    and is part of the step around it.
  * A cancellation is delivered at an await.  While the backend task runs it goes
    to that task; a shielded task is not cancelled.
-/
import TokenThrottle.Basic
import TokenThrottle.Theory.Dict
import TokenThrottle.Theory.Runs

namespace TokenThrottle

open Theory (Dict)

abbrev AcquireCallId := ℕ

abbrev CloserId := ℕ

/-! ## The limiter's tables -/

structure AcquireTables where
  pendingAcquireReservations : Finset ReservationId
  acquireDeliveryCleanupReservations : Finset ReservationId
  inFlightReservationIds : Finset ReservationId
  maxInFlightReservations : ℕ
  pendingDrained : Bool
  closing : Bool
  closed : Bool
  closeDrained : Bool

namespace AcquireTables

def init (maxInFlightReservations : ℕ) : AcquireTables where
  pendingAcquireReservations := ∅
  acquireDeliveryCleanupReservations := ∅
  inFlightReservationIds := ∅
  maxInFlightReservations := maxInFlightReservations
  pendingDrained := true
  closing := false
  closed := false
  closeDrained := false

/-- `_raise_if_closed_or_closing` -/
def closedOrClosing (t : AcquireTables) : Bool := t.closed || t.closing

/-- The cap check: a new reservation finds no slot. -/
def inFlightFull (t : AcquireTables) (rid : ReservationId) : Bool :=
  rid ∉ t.inFlightReservationIds ∧ rid ∉ t.pendingAcquireReservations ∧
    t.maxInFlightReservations ≤
      t.inFlightReservationIds.card + t.pendingAcquireReservations.card

/-- `_refresh_pending_drained_locked` -/
def refreshPendingDrained (t : AcquireTables) : AcquireTables :=
  { t with
    pendingDrained :=
      t.pendingAcquireReservations = ∅ ∧ t.acquireDeliveryCleanupReservations = ∅ }

@[simp] theorem refreshPendingDrained_pending (t : AcquireTables) :
    t.refreshPendingDrained.pendingAcquireReservations = t.pendingAcquireReservations := rfl

@[simp] theorem refreshPendingDrained_delivery (t : AcquireTables) :
    t.refreshPendingDrained.acquireDeliveryCleanupReservations =
      t.acquireDeliveryCleanupReservations := rfl

@[simp] theorem refreshPendingDrained_inFlight (t : AcquireTables) :
    t.refreshPendingDrained.inFlightReservationIds = t.inFlightReservationIds := rfl

/-- `_begin_pending_acquire`: the tables it leaves, and whether it went through.  The
    event is cleared before the cap is checked. -/
def beginPendingAcquire (t : AcquireTables) (rid : ReservationId) : AcquireTables × Bool :=
  if t.closedOrClosing then (t, false)
  else
    let t := { t with pendingDrained := false }
    if t.inFlightFull rid then (t, false)
    else
      ({ t with pendingAcquireReservations := insert rid t.pendingAcquireReservations }, true)

/-- `_finalize_pending_acquire` -/
def finalizePendingAcquire (t : AcquireTables) (rid : ReservationId) : AcquireTables :=
  { t with
    pendingAcquireReservations := t.pendingAcquireReservations.erase rid
    inFlightReservationIds := insert rid t.inFlightReservationIds }.refreshPendingDrained

/-- `_rollback_pending_acquire` -/
def rollbackPendingAcquire (t : AcquireTables) (rid : ReservationId) : AcquireTables :=
  { t with
    pendingAcquireReservations := t.pendingAcquireReservations.erase rid }.refreshPendingDrained

/-- `_begin_acquire_delivery_cleanup` -/
def beginAcquireDeliveryCleanup (t : AcquireTables) (rid : ReservationId) : AcquireTables :=
  { t with
    acquireDeliveryCleanupReservations := insert rid t.acquireDeliveryCleanupReservations
    pendingDrained := false }

/-- `_end_acquire_delivery_cleanup` -/
def endAcquireDeliveryCleanup (t : AcquireTables) (rid : ReservationId) : AcquireTables :=
  { t with
    acquireDeliveryCleanupReservations :=
      t.acquireDeliveryCleanupReservations.erase rid }.refreshPendingDrained

/-- `_forget_in_flight_reservation`: the event is left as it is. -/
def forgetInFlightReservation (t : AcquireTables) (rid : ReservationId) : AcquireTables :=
  { t with
    inFlightReservationIds := t.inFlightReservationIds.erase rid
    pendingAcquireReservations := t.pendingAcquireReservations.erase rid
    acquireDeliveryCleanupReservations := t.acquireDeliveryCleanupReservations.erase rid }

/-- `_remember_in_flight_reservation`, after the closed check of an unlimited acquire. -/
def rememberInFlightReservation (t : AcquireTables) (rid : ReservationId) : AcquireTables :=
  if t.closedOrClosing || t.inFlightFull rid then t
  else { t with inFlightReservationIds := insert rid t.inFlightReservationIds }

/-- `_clear_retained_state_after_close` -/
def clearRetainedStateAfterClose (t : AcquireTables) : AcquireTables :=
  { t with
    pendingAcquireReservations := ∅
    acquireDeliveryCleanupReservations := ∅
    inFlightReservationIds := ∅ }

end AcquireTables

/-! ## One call -/

/-- How a call raises. -/
inductive RaiseKind
  | cancelled
  | error
  | refundFailed
  | critical
deriving DecidableEq

/-- How the backend task of a call ends. -/
inductive BackendResult
  | succeeded
  | failed
  /-- A cancellation ended it, before or after it had consumed. -/
  | cancelled (consumed : Bool)
  /-- Its own cleanup of a cancelled consumption failed: `recovery.error`. -/
  | cleanupFailed
  | critical
deriving DecidableEq

/-- What a call does once its reservation is finalized. -/
inductive AfterFinalize
  | deliver
  | afterCancel
  | refundFailed
deriving DecidableEq

/-- How far the refund of an undelivered reservation has come. -/
inductive DeliveryRefund
  | started
  | credited
  | committed
deriving DecidableEq

/-- The await point a call is suspended at, or how it ended. -/
inductive AcquirePhase
  | gettingBackend
  | inBackend (task : Option BackendResult) (interrupted : Bool)
  | rollingBack (outcome : RaiseKind) (ran interrupted : Bool)
  | finalizing (next : AfterFinalize) (ran interrupted : Bool)
  | emitting
  | refunding (interruptedBy : RaiseKind) (progress : DeliveryRefund)
  | returned
  | raised (kind : RaiseKind)
deriving DecidableEq

/-- What happens to a call at its await point. -/
inductive AcquireEvent
  | gotBackend
  | getBackendRaises (critical : Bool)
  | backendEnds (result : BackendResult)
  | resume
  /-- The task of a shielded state update runs. -/
  | updateRuns
  | refundCredits
  | refundCommits
  | refundReturns
  | refundRaises (critical forgets : Bool)
  | emitted
  | emitRaises (critical : Bool)
  | cancel
deriving DecidableEq

/-- What a call does to the tables and to the backend. -/
inductive TableOp
  | finalize
  | rollback
  | beginDelivery
  | endDelivery
  | forget
  | consume
  | credit
deriving DecidableEq

def raisedAs (critical : Bool) : RaiseKind := if critical then .critical else .error

/-- What the backend task has done when it ends.  The waiting path credits back a
    consumption that a cancellation hits, the record path keeps it; only the waiting
    path reports a cleanup that failed. -/
def BackendResult.ops (block : Bool) : BackendResult → Option (List TableOp)
  | .succeeded => some [.consume]
  | .failed | .critical | .cancelled false => some []
  | .cancelled true => some (if block then [.consume, .credit] else [.consume])
  | .cleanupFailed => if block then some [.consume] else none

/-- The delivery has been interrupted: refund the reservation, or forget it. -/
def undelivered (block : Bool) (interruptedBy : RaiseKind) : List TableOp × AcquirePhase :=
  if block then ([], .refunding interruptedBy .started)
  else ([.forget, .endDelivery], .raised interruptedBy)

/-- The awaited backend task is done and the call goes on. -/
def backendResumed (result : BackendResult) (interrupted : Bool) : List TableOp × AcquirePhase :=
  match result with
  | .succeeded =>
    ([.beginDelivery],
      .finalizing (if interrupted then .afterCancel else .deliver) false false)
  | .failed => ([], .rollingBack (if interrupted then .cancelled else .error) false false)
  | .cancelled _ => ([], .rollingBack .cancelled false false)
  | .cleanupFailed => ([], .finalizing .refundFailed false false)
  | .critical => ([], .rollingBack .critical false false)

/-- The reservation is in the in-flight table and the call goes on. -/
def finalizedResumed (block : Bool) (next : AfterFinalize) (interrupted : Bool) :
    List TableOp × AcquirePhase :=
  match next with
  | .deliver => if interrupted then undelivered block .cancelled else ([], .emitting)
  -- cancelled after the backend's success: only the waiting path undoes it
  | .afterCancel =>
    if block then ([], .refunding .cancelled .started)
    else ([.endDelivery], .raised .cancelled)
  | .refundFailed => ([], .raised .refundFailed)

/-- What a call does at an event, up to its next await point. -/
def callStep (block : Bool) : AcquirePhase → AcquireEvent → Option (List TableOp × AcquirePhase)
  | .gettingBackend, .gotBackend => some ([], .inBackend none false)
  | .gettingBackend, .getBackendRaises critical =>
    some ([], .rollingBack (raisedAs critical) false false)
  | .gettingBackend, .cancel => some ([], .rollingBack .cancelled false false)
  | .inBackend none interrupted, .backendEnds result =>
    (result.ops block).map fun ops => (ops, .inBackend (some result) interrupted)
  -- the cancellation goes to the backend task
  | .inBackend none interrupted, .cancel => some ([], .inBackend none interrupted)
  | .inBackend (some result) _, .cancel => some ([], .inBackend (some result) true)
  | .inBackend (some result) interrupted, .resume => some (backendResumed result interrupted)
  | .rollingBack outcome false interrupted, .updateRuns =>
    some ([.rollback], .rollingBack outcome true interrupted)
  | .rollingBack outcome ran _, .cancel => some ([], .rollingBack outcome ran true)
  | .rollingBack outcome true interrupted, .resume =>
    some ([], .raised (if interrupted then .cancelled else outcome))
  | .finalizing next false interrupted, .updateRuns =>
    some ([.finalize], .finalizing next true interrupted)
  | .finalizing next ran _, .cancel => some ([], .finalizing next ran true)
  | .finalizing next true interrupted, .resume =>
    some (finalizedResumed block next interrupted)
  | .emitting, .emitted => some ([.endDelivery], .returned)
  | .emitting, .emitRaises critical => some (undelivered block (raisedAs critical))
  | .emitting, .cancel => some (undelivered block .cancelled)
  -- the delivery refund is shielded: the cancellation is swallowed
  | .refunding kind progress, .cancel => some ([], .refunding kind progress)
  | .refunding kind .started, .refundCredits => some ([.credit], .refunding kind .credited)
  | .refunding kind .credited, .refundCommits => some ([.forget], .refunding kind .committed)
  | .refunding kind .committed, .refundReturns => some ([.endDelivery], .raised kind)
  | .refunding _ _, .refundRaises critical forgets =>
    some (if forgets then [.forget, .endDelivery] else [.endDelivery],
      .raised (if critical then .critical else .refundFailed))
  | _, _ => none

namespace AcquirePhase

/-- The call has ended. -/
def finished : AcquirePhase → Bool
  | .returned | .raised _ => true
  | _ => false

/-- The backend may still work for the call: it is looked up, it consumes, or it
    refunds the undelivered reservation. -/
def usesBackend : AcquirePhase → Bool
  | .gettingBackend | .inBackend none _ | .refunding _ .started | .refunding _ .credited => true
  | _ => false

end AcquirePhase

/-! ## The limiter -/

structure LimiterCall where
  reservationId : ReservationId
  block : Bool
  phase : AcquirePhase
  /-- History: a cancellation reached the call between the success of its backend task
      and its resumption. -/
  cancelledAfterSuccess : Bool
deriving DecidableEq

/-- The call after an event that leads to a phase. -/
def LimiterCall.after (call : LimiterCall) (event : AcquireEvent)
    (phase : AcquirePhase) : LimiterCall :=
  { call with
    phase := phase
    cancelledAfterSuccess := call.cancelledAfterSuccess ||
      match event, call.phase with
      | .cancel, .inBackend (some .succeeded) _ => true
      | _, _ => false }

/-- The await point a close is suspended at. -/
inductive CloserPhase
  | waitingDrain (woken : Bool)
  | waitingLifecycle
  | waitingRefunds
  | cleaning
deriving DecidableEq

inductive LifecycleHolder
  | closer (c : CloserId)
  | setMaxCapacity
deriving DecidableEq

/-- A limiter, its calls and its closes, and the history: the reservation ids given
    out, and how often each was consumed and credited back. -/
structure AcquireSystem where
  tables : AcquireTables
  calls : Dict AcquireCallId LimiterCall
  closers : Dict CloserId CloserPhase
  lifecycleLock : Option LifecycleHolder
  issued : Finset ReservationId
  unlimited : Finset ReservationId
  consumed : ReservationId → ℕ
  credited : ReservationId → ℕ

namespace AcquireSystem

def init (maxInFlightReservations : ℕ) : AcquireSystem where
  tables := .init maxInFlightReservations
  calls := .empty
  closers := .empty
  lifecycleLock := none
  issued := ∅
  unlimited := ∅
  consumed _ := 0
  credited _ := 0

def applyOp (s : AcquireSystem) (rid : ReservationId) : TableOp → AcquireSystem
  | .finalize => { s with tables := s.tables.finalizePendingAcquire rid }
  | .rollback => { s with tables := s.tables.rollbackPendingAcquire rid }
  | .beginDelivery => { s with tables := s.tables.beginAcquireDeliveryCleanup rid }
  | .endDelivery => { s with tables := s.tables.endAcquireDeliveryCleanup rid }
  | .forget => { s with tables := s.tables.forgetInFlightReservation rid }
  | .consume => { s with consumed := Function.update s.consumed rid (s.consumed rid + 1) }
  | .credit => { s with credited := Function.update s.credited rid (s.credited rid + 1) }

def applyOps (s : AcquireSystem) (rid : ReservationId) (ops : List TableOp) : AcquireSystem :=
  ops.foldl (·.applyOp rid ·) s

def setCall (s : AcquireSystem) (i : AcquireCallId) (call : LimiterCall) : AcquireSystem :=
  { s with calls := s.calls.set i call }

def setCloser (s : AcquireSystem) (c : CloserId) (phase : CloserPhase) : AcquireSystem :=
  { s with closers := s.closers.set c phase }

/-- The handler of a close that raises: the limiter is closed all the same. -/
def failClose (s : AcquireSystem) (c : CloserId) : AcquireSystem :=
  { s with
    tables := { s.tables with closed := true, closing := false }
    closers := s.closers.pop c
    lifecycleLock := if s.lifecycleLock = some (.closer c) then none else s.lifecycleLock }

/-- The close gets `_lifecycle_lock`. -/
def enterLifecycle (s : AcquireSystem) (c : CloserId) : AcquireSystem :=
  if s.tables.closeDrained then
    -- another close has been here: release the lock and clear what is retained
    { s with
      tables := s.tables.clearRetainedStateAfterClose
      closers := s.closers.pop c }
  else
    { s with
      tables := { s.tables with closed := true, closing := false }
      closers := s.closers.set c .waitingRefunds
      lifecycleLock := some (.closer c) }

inductive Label
  | begin (i : AcquireCallId) (rid : ReservationId) (block : Bool)
  | call (i : AcquireCallId) (event : AcquireEvent)
  /-- A refund of a reservation whose call has ended forgets it. -/
  | forget (i : AcquireCallId)
  | beginUnlimited (rid : ReservationId)
  | forgetUnlimited (rid : ReservationId)
  | close (c : CloserId)
  | closeWakes (c : CloserId)
  | closeResumes (c : CloserId)
  | closeTimesOut (c : CloserId)
  | closeEntersLifecycle (c : CloserId)
  | refundsDrained (c : CloserId)
  | closeCleaned (c : CloserId)
  | closeCleanupRaises (c : CloserId)
  | closeCancelled (c : CloserId)
  | setMaxCapacityEnters
  | setMaxCapacityLeaves

/-- One step between two await points. -/
def step (s : AcquireSystem) : Label → Option AcquireSystem
  | .begin i rid block =>
    if (s.calls.get i).isSome ∨ rid ∈ s.issued then none
    else
      let (tables, accepted) := s.tables.beginPendingAcquire rid
      let phase := if accepted then .gettingBackend else .raised .error
      some { s with
        tables := tables
        calls := s.calls.set i ⟨rid, block, phase, false⟩
        issued := insert rid s.issued }
  | .call i event =>
    match s.calls.get i with
    | some call =>
      match callStep call.block call.phase event with
      | some (ops, phase) =>
        some ((s.applyOps call.reservationId ops).setCall i (call.after event phase))
      | none => none
    | none => none
  | .forget i =>
    match s.calls.get i with
    | some call =>
      if call.phase.finished then
        some { s with tables := s.tables.forgetInFlightReservation call.reservationId }
      else none
    | none => none
  | .beginUnlimited rid =>
    if rid ∈ s.issued then none
    else some { s with
      tables := s.tables.rememberInFlightReservation rid
      issued := insert rid s.issued
      unlimited := insert rid s.unlimited }
  | .forgetUnlimited rid =>
    if rid ∈ s.unlimited then
      some { s with tables := s.tables.forgetInFlightReservation rid }
    else none
  | .close c =>
    match s.closers.get c with
    | some _ => none
    | none =>
      if s.tables.closed ∧ s.tables.closeDrained then some s
      else
        let tables := { s.tables with closing := !s.tables.closed }.refreshPendingDrained
        some ({ s with tables := tables }.setCloser c (.waitingDrain false))
  | .closeWakes c =>
    match s.closers.get c with
    | some (.waitingDrain _) =>
      if s.tables.pendingDrained then some (s.setCloser c (.waitingDrain true)) else none
    | _ => none
  | .closeResumes c =>
    match s.closers.get c with
    | some (.waitingDrain true) => some (s.setCloser c .waitingLifecycle)
    | _ => none
  | .closeTimesOut c =>
    match s.closers.get c with
    | some (.waitingDrain _) | some .waitingRefunds => some (s.failClose c)
    | _ => none
  | .closeEntersLifecycle c =>
    match s.closers.get c with
    | some .waitingLifecycle => if s.lifecycleLock = none then some (s.enterLifecycle c) else none
    | _ => none
  | .refundsDrained c =>
    match s.closers.get c with
    | some .waitingRefunds =>
      some ({ s with tables := { s.tables with closeDrained := true } }.setCloser c .cleaning)
    | _ => none
  | .closeCleaned c =>
    match s.closers.get c with
    | some .cleaning =>
      some { s with
        tables := s.tables.clearRetainedStateAfterClose
        closers := s.closers.pop c
        lifecycleLock := none }
    | _ => none
  | .closeCleanupRaises c =>
    match s.closers.get c with
    | some .cleaning => some (s.failClose c)
    | _ => none
  | .closeCancelled c =>
    match s.closers.get c with
    | some .waitingLifecycle => some (s.failClose c)
    -- the other waits note the cancellation and go on
    | some _ => some s
    | none => none
  | .setMaxCapacityEnters =>
    if s.lifecycleLock = none ∧ ¬ s.tables.closedOrClosing then
      some { s with lifecycleLock := some .setMaxCapacity }
    else none
  | .setMaxCapacityLeaves =>
    if s.lifecycleLock = some .setMaxCapacity then some { s with lifecycleLock := none }
    else none

end AcquireSystem

end TokenThrottle
