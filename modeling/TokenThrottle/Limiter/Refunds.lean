/-
  TokenThrottle.Limiter.Refunds

  Concurrent `refund_capacity` calls on one limiter, interleaved at their await
  points: the refund states of the reservations, the in-flight table, and the
  reference-counted lock of each reservation.

  * A call is suspended in the queue of its reservation's lock, while it refreshes
    the backend, inside the backend's refund, while its shielded commit runs, or
    in the lifecycle callback.  What it does between two of these points is one
    step.
  * `_refund_state_lock` is never held across an await, so taking it does not
    suspend and is part of the step around it.  Which waiter gets a free
    reservation lock is left open.
  * Whether a failed backend call changed the buckets is decided by comparing two
    readings of `_refund_backend_state_signature`; the labels carry the readings.
-/
import TokenThrottle.Basic
import TokenThrottle.Theory.Dict
import TokenThrottle.Theory.Runs

namespace TokenThrottle

open Theory (Dict Run Steps guard steps_guard_iff exists_run_of_exec)

abbrev RefundCallId := ℕ

/-- The identity of a reservation's lock object. -/
abbrev LockId := ℕ

/-- `_REFUND_STATE_PENDING`, `_REFUND_STATE_COMMITTED`, `_REFUND_STATE_FAILED` -/
inductive RefundState
  | pending
  | committed
  | failed
deriving DecidableEq

/-! ## The limiter's tables -/

structure RefundTables where
  inFlightReservationIds : Finset ReservationId
  /-- `_refunded_reservation_ids`, the oldest entry first. -/
  refundedReservationIds : List (ReservationId × RefundState)
  refundedIdsCap : ℕ
  refundInProgress : Finset ReservationId
  refundLocks : Dict ReservationId LockId
  refundLockRefcounts : Dict ReservationId ℕ
  /-- The next lock object that `asyncio.Lock()` creates. -/
  nextLock : LockId
  /-- The call that holds a lock object. -/
  holder : LockId → Option RefundCallId

namespace RefundTables

/-- `_refunded_reservation_ids.get` -/
def refundState (t : RefundTables) (rid : ReservationId) : Option RefundState :=
  t.refundedReservationIds.lookup rid

/-- `_remember_refund_state`: the entry becomes the newest, the oldest ones above the
    cap are dropped. -/
def rememberRefundState (t : RefundTables) (rid : ReservationId) (state : RefundState) :
    RefundTables :=
  let entries := t.refundedReservationIds.filter (·.1 ≠ rid) ++ [(rid, state)]
  { t with refundedReservationIds := entries.drop (entries.length - t.refundedIdsCap) }

/-- `_forget_in_flight_reservation` -/
def forgetInFlightReservation (t : RefundTables) (rid : ReservationId) : RefundTables :=
  { t with inFlightReservationIds := t.inFlightReservationIds.erase rid }

/-- `_commit_refund_state` -/
def commitRefundState (t : RefundTables) (rid : ReservationId) : RefundTables :=
  (t.rememberRefundState rid .committed).forgetInFlightReservation rid

/-- `_mark_refund_state_failed` -/
def markRefundStateFailed (t : RefundTables) (rid : ReservationId) : RefundTables :=
  if t.refundState rid = some .pending then t.rememberRefundState rid .failed else t

/-- `_clear_refund_state_if_pending` -/
def clearRefundStateIfPending (t : RefundTables) (rid : ReservationId)
    (forgetInFlight : Bool) : RefundTables :=
  let t :=
    if t.refundState rid = some .pending then
      { t with refundedReservationIds := t.refundedReservationIds.filter (·.1 ≠ rid) }
    else t
  if forgetInFlight then t.forgetInFlightReservation rid else t

/-- The lock object of a reservation, and one more reference to it: the start of
    `_acquire_reservation_refund_lock`. -/
def referenceRefundLock (t : RefundTables) (rid : ReservationId) : RefundTables × LockId :=
  match t.refundLocks.get rid with
  | some lock =>
    ({ t with
      refundLockRefcounts :=
        t.refundLockRefcounts.set rid ((t.refundLockRefcounts.get rid).getD 0 + 1) }, lock)
  | none =>
    ({ t with
      refundLocks := t.refundLocks.set rid t.nextLock
      refundLockRefcounts := t.refundLockRefcounts.set rid 1
      nextLock := t.nextLock + 1 }, t.nextLock)

/-- `_release_reservation_refund_lock_reference` -/
def releaseRefundLockReference (t : RefundTables) (rid : ReservationId) (lock : LockId) :
    RefundTables :=
  let count := (t.refundLockRefcounts.get rid).getD 0 - 1
  if count = 0 then
    if t.refundLocks.get rid = some lock then
      { t with
        refundLocks := t.refundLocks.pop rid
        refundLockRefcounts := t.refundLockRefcounts.pop rid }
    else t
  else { t with refundLockRefcounts := t.refundLockRefcounts.set rid count }

end RefundTables

/-! ## Calls -/

/-- What a call does once its shielded commit is done. -/
inductive AfterCommit
  /-- The backend returned: go on, or report the cancellation that came meanwhile. -/
  | emit
  /-- The backend raised: the exception reaches the outer handler. -/
  | handle
  /-- The outer handler has committed: the exception leaves the call. -/
  | finish
deriving DecidableEq

/-- The await point a refund call is suspended at.  `S` is what a reading of the
    backend's state signature gives. -/
inductive RefundPhase (S : Type)
  | waitingLock
  | refreshing
  | inBackend (signature : Option S) (applied : Bool)
  | committing (signature : Option S) (next : AfterCommit) (ran interrupted : Bool)
  | emitting (signature : Option S)

/-- The call holds its reservation's lock. -/
def RefundPhase.holds {S : Type} : RefundPhase S → Bool
  | .waitingLock => false
  | _ => true

structure RefundCall (S : Type) where
  reservationId : ReservationId
  lock : LockId
  phase : RefundPhase S

/-- How the backend's refund raises. -/
inductive BackendFailure
  | duplicateRefund
  | unknownReservation (forgetInFlight : Bool)
  | exception
  | critical
deriving DecidableEq

/-- A limiter's tables, the calls on them, and the history: the reservations it issued,
    the refunds the backend applied, and the refunds it committed. -/
structure RefundSystem (S : Type) where
  tables : RefundTables
  calls : Dict RefundCallId (RefundCall S)
  issued : Finset ReservationId
  applied : ReservationId → ℕ
  committed : Finset ReservationId

namespace RefundSystem

variable {S : Type}

def init (refundedIdsCap : ℕ) : RefundSystem S where
  tables := ⟨∅, [], refundedIdsCap, ∅, .empty, .empty, 0, fun _ => none⟩
  calls := .empty
  issued := ∅
  applied _ := 0
  committed := ∅

def setPhase (s : RefundSystem S) (i : RefundCallId) (call : RefundCall S)
    (phase : RefundPhase S) : RefundSystem S :=
  { s with calls := s.calls.set i { call with phase := phase } }

/-- Changes the tables of the refund states and of the in-flight reservations. -/
def withTables (s : RefundSystem S) (f : RefundTables → RefundTables) : RefundSystem S :=
  { s with tables := f s.tables }

/-- A waiter leaves the queue of its lock. -/
def abandon (s : RefundSystem S) (i : RefundCallId) (call : RefundCall S) : RefundSystem S :=
  { s with
    tables := s.tables.releaseRefundLockReference call.reservationId call.lock
    calls := s.calls.pop i }

/-- The two `finally` clauses of a call that has started: it is no longer in progress,
    and its lock and the reference to it are released. -/
def leave (s : RefundSystem S) (i : RefundCallId) (call : RefundCall S) : RefundSystem S :=
  let tables := { s.tables with
    refundInProgress := s.tables.refundInProgress.erase call.reservationId
    holder := Function.update s.tables.holder call.lock none }
  { s with
    tables := tables.releaseRefundLockReference call.reservationId call.lock
    calls := s.calls.pop i }

/-- The outer handler of a call that had not reached the backend. -/
def handleEarlyFailure (s : RefundSystem S) (i : RefundCallId) (call : RefundCall S) :
    RefundSystem S :=
  (s.withTables (·.clearRefundStateIfPending call.reservationId false)).leave i call

/-! ## Steps -/

/-- The readings of the signature are taken when the label happens. -/
inductive Label (S : Type)
  /-- An acquire delivers a reservation. -/
  | issue (rid : ReservationId)
  /-- A refund finds its reservation expired or unlimited and forgets it. -/
  | forget (rid : ReservationId)
  | start (i : RefundCallId) (rid : ReservationId)
  | grant (i : RefundCallId)
  | refreshFailed (i : RefundCallId)
  | enterBackend (i : RefundCallId) (signature : Option S)
  | backendApplies (i : RefundCallId)
  | backendReturns (i : RefundCallId)
  | backendRaises (i : RefundCallId) (failure : BackendFailure) (signature : Option S)
  | runCommit (i : RefundCallId)
  | resume (i : RefundCallId) (signature : Option S)
  | emitted (i : RefundCallId)
  | emitRaises (i : RefundCallId) (signature : Option S)
  | cancel (i : RefundCallId) (signature : Option S)

/-- The lock is given to a waiter, which checks the refund state. -/
def grantLock (s : RefundSystem S) (i : RefundCallId) (call : RefundCall S) : RefundSystem S :=
  let rid := call.reservationId
  -- a duplicate refund raises, and releases the lock it was just given
  if s.tables.refundState rid = some .committed then s.abandon i call
  else if rid ∈ s.tables.refundInProgress then s.abandon i call
  else
    let tables := s.tables.rememberRefundState rid .pending
    { s with
      tables := { tables with
        refundInProgress := insert rid tables.refundInProgress
        holder := Function.update tables.holder call.lock (some i) }
      calls := s.calls.set i { call with phase := .refreshing } }

section Failures

variable [DecidableEq S]

/-- `_refund_backend_state_changed` on two readings. -/
def stateChanged (before after : Option S) : Bool :=
  match before, after with
  | some signature, some signature' => signature ≠ signature'
  | _, _ => false

/-- The outer handler of a call whose backend call had started. -/
def handleFailure (s : RefundSystem S) (i : RefundCallId) (call : RefundCall S)
    (before after : Option S) : RefundSystem S :=
  if stateChanged before after then
    s.setPhase i call (.committing before .finish false false)
  else
    (s.withTables (·.markRefundStateFailed call.reservationId)).leave i call

/-- The backend call of a refund has raised. -/
def backendRaised (s : RefundSystem S) (i : RefundCallId) (call : RefundCall S)
    (failure : BackendFailure) (before after : Option S) : RefundSystem S :=
  match failure with
  | .duplicateRefund => s.setPhase i call (.committing before .handle false false)
  | .unknownReservation forgetInFlight =>
    (s.withTables (·.clearRefundStateIfPending call.reservationId forgetInFlight)).handleFailure
      i call before after
  | .exception =>
    if stateChanged before after then s.setPhase i call (.committing before .handle false false)
    else s.handleFailure i call before after
  | .critical => s.handleFailure i call before after

/-- The shielded commit is done and the call goes on. -/
def resumed (s : RefundSystem S) (i : RefundCallId) (call : RefundCall S)
    (next : AfterCommit) (interrupted : Bool) (before after : Option S) : RefundSystem S :=
  match next with
  | .emit =>
    if interrupted then s.handleFailure i call before after
    else s.setPhase i call (.emitting before)
  | .handle => s.handleFailure i call before after
  | .finish => s.leave i call

def step (s : RefundSystem S) : Label S → Option (RefundSystem S)
  | .issue rid =>
    if rid ∈ s.issued then none
    else some { s with
      tables := { s.tables with
        inFlightReservationIds := insert rid s.tables.inFlightReservationIds }
      issued := insert rid s.issued }
  | .forget rid => some (s.withTables (·.forgetInFlightReservation rid))
  | .start i rid =>
    match s.calls.get i with
    | some _ => none
    | none =>
      let (tables, lock) := s.tables.referenceRefundLock rid
      some { s with
        tables := tables
        calls := s.calls.set i ⟨rid, lock, .waitingLock⟩ }
  | .grant i =>
    match s.calls.get i with
    | some call =>
      match call.phase with
      | .waitingLock =>
        if s.tables.holder call.lock = none then some (s.grantLock i call) else none
      | _ => none
    | none => none
  | .refreshFailed i =>
    match s.calls.get i with
    | some call =>
      match call.phase with
      | .refreshing => some (s.handleEarlyFailure i call)
      | _ => none
    | none => none
  | .enterBackend i signature =>
    match s.calls.get i with
    | some call =>
      match call.phase with
      | .refreshing =>
        -- without marker authority, only an in-flight reservation reaches the backend
        if call.reservationId ∈ s.tables.inFlightReservationIds then
          some (s.setPhase i call (.inBackend signature false))
        else some (s.handleEarlyFailure i call)
      | _ => none
    | none => none
  | .backendApplies i =>
    match s.calls.get i with
    | some call =>
      match call.phase with
      | .inBackend signature false =>
        some { s.setPhase i call (.inBackend signature true) with
          applied := Function.update s.applied call.reservationId
            (s.applied call.reservationId + 1) }
      | _ => none
    | none => none
  | .backendReturns i =>
    match s.calls.get i with
    | some call =>
      match call.phase with
      | .inBackend signature true =>
        some (s.setPhase i call (.committing signature .emit false false))
      | _ => none
    | none => none
  | .backendRaises i failure signature =>
    match s.calls.get i with
    | some call =>
      match call.phase with
      | .inBackend before _ => some (s.backendRaised i call failure before signature)
      | _ => none
    | none => none
  | .runCommit i =>
    match s.calls.get i with
    | some call =>
      match call.phase with
      | .committing signature next false interrupted =>
        let s := s.withTables (·.commitRefundState call.reservationId)
        some { s.setPhase i call (.committing signature next true interrupted) with
          committed := insert call.reservationId s.committed }
      | _ => none
    | none => none
  | .resume i signature =>
    match s.calls.get i with
    | some call =>
      match call.phase with
      | .committing before next true interrupted =>
        some (s.resumed i call next interrupted before signature)
      | _ => none
    | none => none
  | .emitted i =>
    match s.calls.get i with
    | some call =>
      match call.phase with
      | .emitting _ => some (s.leave i call)
      | _ => none
    | none => none
  | .emitRaises i signature =>
    match s.calls.get i with
    | some call =>
      match call.phase with
      | .emitting before => some (s.handleFailure i call before signature)
      | _ => none
    | none => none
  | .cancel i signature =>
    match s.calls.get i with
    | some call =>
      match call.phase with
      | .waitingLock => some (s.abandon i call)
      | .refreshing => some (s.handleEarlyFailure i call)
      | .inBackend before _ => some (s.backendRaised i call .critical before signature)
      -- the commit is shielded: the cancellation is kept for later
      | .committing before next ran _ =>
        some (s.setPhase i call (.committing before next ran true))
      | .emitting before => some (s.handleFailure i call before signature)
    | none => none

end Failures

/-! ## The locks of the reservations -/

/-- The calls that hold or wait for the lock of a reservation. -/
def callsOn (s : RefundSystem S) (rid : ReservationId) : Finset RefundCallId :=
  s.calls.keys.filter fun i => (s.calls.get i).any (·.reservationId = rid)

/-- The lock table is what the calls make it: one object and one count for each
    reservation some call is on, held by the call that has been given it. -/
structure LocksCoherent (s : RefundSystem S) : Prop where
  refcount : ∀ rid, s.tables.refundLockRefcounts.get rid =
    if s.callsOn rid = ∅ then none else some (s.callsOn rid).card
  locked : ∀ rid, s.tables.refundLocks.get rid = none ↔ s.callsOn rid = ∅
  lock_of_call : ∀ i call, s.calls.get i = some call →
    s.tables.refundLocks.get call.reservationId = some call.lock
  lock_inj : ∀ rid rid' lock, s.tables.refundLocks.get rid = some lock →
    s.tables.refundLocks.get rid' = some lock → rid = rid'
  lock_lt : ∀ rid lock, s.tables.refundLocks.get rid = some lock → lock < s.tables.nextLock
  holder_call : ∀ lock i, s.tables.holder lock = some i →
    ∃ call, s.calls.get i = some call ∧ call.lock = lock ∧ call.phase.holds = true
  call_holder : ∀ i call, s.calls.get i = some call → call.phase.holds = true →
    s.tables.holder call.lock = some i
  in_progress : ∀ rid, rid ∈ s.tables.refundInProgress ↔
    ∃ i call, s.calls.get i = some call ∧ call.reservationId = rid ∧ call.phase.holds = true

variable {s s' : RefundSystem S} {i j : RefundCallId} {call call' : RefundCall S}
  {rid : ReservationId}

theorem mem_callsOn :
    i ∈ s.callsOn rid ↔ ∃ call, s.calls.get i = some call ∧ call.reservationId = rid := by
  unfold callsOn
  rw [Finset.mem_filter, s.calls.mem_keys]
  cases s.calls.get i with
  | none => simp
  | some call => simp

theorem mem_callsOn_of_get (h_call : s.calls.get i = some call) :
    i ∈ s.callsOn call.reservationId :=
  mem_callsOn.mpr ⟨call, h_call, rfl⟩

/-- Two calls on one reservation do not both hold its lock. -/
theorem LocksCoherent.exclusive (h_locks : s.LocksCoherent) (h_i : s.calls.get i = some call)
    (h_j : s.calls.get j = some call') (h_same : call.reservationId = call'.reservationId)
    (h_holds : call.phase.holds = true) (h_holds' : call'.phase.holds = true) : i = j := by
  have h_lock := h_locks.lock_of_call i call h_i
  have h_lock' := h_locks.lock_of_call j call' h_j
  rw [← h_same, h_lock] at h_lock'
  have h_holder := h_locks.call_holder i call h_i h_holds
  have h_holder' := h_locks.call_holder j call' h_j h_holds'
  rw [← Option.some.inj h_lock', h_holder] at h_holder'
  exact Option.some.inj h_holder'

theorem locksCoherent_init (refundedIdsCap : ℕ) :
    (init refundedIdsCap : RefundSystem S).LocksCoherent where
  refcount _ := rfl
  locked _ := ⟨fun _ => rfl, fun _ => rfl⟩
  lock_of_call _ _ h_call := by cases h_call
  lock_inj _ _ _ h_lock := by cases h_lock
  lock_lt _ _ h_lock := by cases h_lock
  holder_call _ _ h_holder := by cases h_holder
  call_holder _ _ h_call := by cases h_call
  in_progress _ := by
    constructor
    · intro h_mem
      cases h_mem
    · rintro ⟨_, _, h_call, _⟩
      cases h_call

/-- The lock part of the tables is the same. -/
structure SameLocks (t t' : RefundTables) : Prop where
  refundInProgress : t'.refundInProgress = t.refundInProgress
  refundLocks : t'.refundLocks = t.refundLocks
  refundLockRefcounts : t'.refundLockRefcounts = t.refundLockRefcounts
  nextLock : t'.nextLock = t.nextLock
  holder : t'.holder = t.holder

theorem SameLocks.refl (t : RefundTables) : SameLocks t t := ⟨rfl, rfl, rfl, rfl, rfl⟩

theorem rememberRefundState_sameLocks (t : RefundTables) (rid : ReservationId)
    (state : RefundState) : SameLocks t (t.rememberRefundState rid state) :=
  ⟨rfl, rfl, rfl, rfl, rfl⟩

theorem markRefundStateFailed_sameLocks (t : RefundTables) (rid : ReservationId) :
    SameLocks t (t.markRefundStateFailed rid) := by
  unfold RefundTables.markRefundStateFailed
  split
  · exact rememberRefundState_sameLocks t rid .failed
  · exact .refl t

theorem clearRefundStateIfPending_sameLocks (t : RefundTables) (rid : ReservationId)
    (forgetInFlight : Bool) : SameLocks t (t.clearRefundStateIfPending rid forgetInFlight) := by
  unfold RefundTables.clearRefundStateIfPending
  by_cases h_pending : t.refundState rid = some .pending
  · rw [if_pos h_pending]
    cases forgetInFlight <;> exact ⟨rfl, rfl, rfl, rfl, rfl⟩
  · rw [if_neg h_pending]
    cases forgetInFlight <;> exact ⟨rfl, rfl, rfl, rfl, rfl⟩

theorem LocksCoherent.congr (h_locks : s.LocksCoherent) (h_same : SameLocks s.tables s'.tables)
    (h_calls : s'.calls = s.calls) : s'.LocksCoherent := by
  obtain ⟨h_progress, h_lock, h_counts, h_next, h_holder⟩ := h_same
  have h_on : ∀ rid, s'.callsOn rid = s.callsOn rid := fun rid => by
    unfold callsOn
    rw [h_calls]
  refine ⟨fun rid => ?_, fun rid => ?_, ?_, ?_, ?_, ?_, ?_, fun rid => ?_⟩
  · rw [h_counts, h_on]
    exact h_locks.refcount rid
  · rw [h_lock, h_on]
    exact h_locks.locked rid
  · rw [h_calls, h_lock]
    exact h_locks.lock_of_call
  · rw [h_lock]
    exact h_locks.lock_inj
  · rw [h_lock, h_next]
    exact h_locks.lock_lt
  · rw [h_calls, h_holder]
    exact h_locks.holder_call
  · rw [h_calls, h_holder]
    exact h_locks.call_holder
  · rw [h_progress, h_calls]
    exact h_locks.in_progress rid

/-! ### What each move of a call keeps -/

theorem callsOn_set_same (h_call : s.calls.get i = some call)
    (h_same : call'.reservationId = call.reservationId) (rid : ReservationId) :
    { s with calls := s.calls.set i call' }.callsOn rid = s.callsOn rid := by
  refine Finset.ext fun j => ?_
  rw [mem_callsOn, mem_callsOn]
  show (∃ c, (s.calls.set i call').get j = some c ∧ _) ↔ _
  rw [Dict.get_set]
  by_cases h_eq : j = i
  · subst h_eq
    rw [if_pos rfl, h_call]
    simp [h_same]
  · rw [if_neg h_eq]

/-- A call that has its lock goes on with it. -/
theorem LocksCoherent.setPhase (h_locks : s.LocksCoherent) (h_call : s.calls.get i = some call)
    {phase : RefundPhase S} (h_holds : phase.holds = call.phase.holds) :
    (s.setPhase i call phase).LocksCoherent := by
  have h_on : ∀ rid, (s.setPhase i call phase).callsOn rid = s.callsOn rid :=
    callsOn_set_same h_call rfl
  have h_get : ∀ j c, (s.setPhase i call phase).calls.get j = some c →
      ∃ c', s.calls.get j = some c' ∧ c.reservationId = c'.reservationId ∧ c.lock = c'.lock ∧
        c.phase.holds = c'.phase.holds := by
    intro j c h_c
    have h_c : (s.calls.set i { call with phase := phase }).get j = some c := h_c
    rw [Dict.get_set] at h_c
    by_cases h_eq : j = i
    · rw [if_pos h_eq] at h_c
      cases h_c
      exact ⟨call, h_eq ▸ h_call, rfl, rfl, h_holds⟩
    · rw [if_neg h_eq] at h_c
      exact ⟨c, h_c, rfl, rfl, rfl⟩
  have h_set : ∀ j c, s.calls.get j = some c →
      ∃ c', (s.setPhase i call phase).calls.get j = some c' ∧
        c'.reservationId = c.reservationId ∧ c'.lock = c.lock ∧
        c'.phase.holds = c.phase.holds := by
    intro j c h_c
    show ∃ c', (s.calls.set i { call with phase := phase }).get j = some c' ∧ _
    rw [Dict.get_set]
    by_cases h_eq : j = i
    · subst h_eq
      rw [h_call] at h_c
      cases h_c
      exact ⟨_, if_pos rfl, rfl, rfl, h_holds⟩
    · exact ⟨c, by rw [if_neg h_eq, h_c], rfl, rfl, rfl⟩
  refine ⟨fun rid => ?_, fun rid => ?_, fun j c h_c => ?_, h_locks.lock_inj, h_locks.lock_lt,
    fun lock j h_holder => ?_, fun j c h_c h_holding => ?_, fun rid => ?_⟩
  · rw [h_on]
    exact h_locks.refcount rid
  · rw [h_on]
    exact h_locks.locked rid
  · obtain ⟨c', h_c', h_rid, h_lock, _⟩ := h_get j c h_c
    rw [h_rid, h_lock]
    exact h_locks.lock_of_call j c' h_c'
  · obtain ⟨c, h_c, h_lock, h_holding⟩ := h_locks.holder_call lock j h_holder
    obtain ⟨c', h_c', _, h_lock', h_holds'⟩ := h_set j c h_c
    exact ⟨c', h_c', h_lock'.trans h_lock, h_holds'.trans h_holding⟩
  · obtain ⟨c', h_c', _, h_lock, h_holds'⟩ := h_get j c h_c
    rw [h_lock]
    exact h_locks.call_holder j c' h_c' (h_holds' ▸ h_holding)
  · refine (h_locks.in_progress rid).trans ?_
    constructor
    · rintro ⟨j, c, h_c, h_rid, h_holding⟩
      obtain ⟨c', h_c', h_rid', _, h_holds'⟩ := h_set j c h_c
      exact ⟨j, c', h_c', h_rid'.trans h_rid, h_holds'.trans h_holding⟩
    · rintro ⟨j, c, h_c, h_rid, h_holding⟩
      obtain ⟨c', h_c', h_rid', _, h_holds'⟩ := h_get j c h_c
      exact ⟨j, c', h_c', h_rid' ▸ h_rid, h_holds' ▸ h_holding⟩

theorem callsOn_pop (h_call : s.calls.get i = some call) (rid : ReservationId) :
    { s with calls := s.calls.pop i }.callsOn rid =
      if rid = call.reservationId then (s.callsOn rid).erase i else s.callsOn rid := by
  refine Finset.ext fun j => ?_
  have h_mem : j ∈ { s with calls := s.calls.pop i }.callsOn rid ↔
      j ≠ i ∧ j ∈ s.callsOn rid := by
    rw [mem_callsOn, mem_callsOn]
    show (∃ c, (s.calls.pop i).get j = some c ∧ _) ↔ _
    rw [Dict.get_pop]
    by_cases h_eq : j = i
    · simp [h_eq]
    · simp [h_eq]
  rw [h_mem]
  by_cases h_rid : rid = call.reservationId
  · rw [if_pos h_rid, Finset.mem_erase]
  · rw [if_neg h_rid]
    constructor
    · exact And.right
    · intro h_on
      refine ⟨fun h_eq => h_rid ?_, h_on⟩
      obtain ⟨c, h_c, h_same⟩ := mem_callsOn.mp h_on
      rw [h_eq, h_call] at h_c
      cases h_c
      exact h_same.symm

/-- What giving back a reference leaves in the tables: the lock goes with its last one. -/
theorem release_tables {t : RefundTables} {lock : LockId} {n : ℕ}
    (h_lock : t.refundLocks.get rid = some lock)
    (h_count : t.refundLockRefcounts.get rid = some n) :
    (∀ rid', (t.releaseRefundLockReference rid lock).refundLocks.get rid' =
      if rid' = rid ∧ n - 1 = 0 then none else t.refundLocks.get rid') ∧
    (∀ rid', (t.releaseRefundLockReference rid lock).refundLockRefcounts.get rid' =
      if rid' = rid then (if n - 1 = 0 then none else some (n - 1))
      else t.refundLockRefcounts.get rid') ∧
    (t.releaseRefundLockReference rid lock).nextLock = t.nextLock ∧
    (t.releaseRefundLockReference rid lock).holder = t.holder ∧
    (t.releaseRefundLockReference rid lock).refundInProgress = t.refundInProgress := by
  unfold RefundTables.releaseRefundLockReference
  rw [h_count, Option.getD_some]
  by_cases h_last : n - 1 = 0
  · rw [if_pos h_last, if_pos h_lock]
    refine ⟨fun rid' => ?_, fun rid' => ?_, rfl, rfl, rfl⟩
    · rw [Dict.get_pop]
      simp [h_last]
    · rw [Dict.get_pop, if_pos h_last]
  · rw [if_neg h_last]
    refine ⟨fun rid' => ?_, fun rid' => ?_, rfl, rfl, rfl⟩
    · rw [if_neg fun h => h_last h.2]
    · rw [Dict.get_set, if_neg h_last]

/-- A call that ends gives back its reference, and its lock if it holds it. -/
theorem LocksCoherent.depart (h_locks : s.LocksCoherent) (h_call : s.calls.get i = some call)
    {t : RefundTables} (h_same : t.refundLocks = s.tables.refundLocks)
    (h_counts : t.refundLockRefcounts = s.tables.refundLockRefcounts)
    (h_next : t.nextLock = s.tables.nextLock)
    (h_holder : t.holder = if call.phase.holds then
      Function.update s.tables.holder call.lock none else s.tables.holder)
    (h_progress : t.refundInProgress = if call.phase.holds then
      s.tables.refundInProgress.erase call.reservationId else s.tables.refundInProgress) :
    { s with
      tables := t.releaseRefundLockReference call.reservationId call.lock
      calls := s.calls.pop i }.LocksCoherent := by
  have h_on := mem_callsOn_of_get h_call
  have h_ne : s.callsOn call.reservationId ≠ ∅ := Finset.ne_empty_of_mem h_on
  have h_lock := h_locks.lock_of_call i call h_call
  have h_count := h_locks.refcount call.reservationId
  rw [if_neg h_ne] at h_count
  rw [← h_same] at h_lock
  rw [← h_counts] at h_count
  obtain ⟨h_locks', h_counts', h_next', h_holder', h_progress'⟩ := release_tables h_lock h_count
  have h_calls := callsOn_pop h_call
  have h_card := Finset.card_erase_of_mem h_on
  have h_last : (s.callsOn call.reservationId).card - 1 = 0 ↔
      (s.callsOn call.reservationId).erase i = ∅ := by
    rw [← h_card, Finset.card_eq_zero]
  -- a call that stays is another one
  have h_get : ∀ j c, (s.calls.pop i).get j = some c → j ≠ i ∧ s.calls.get j = some c :=
    fun _ _ => Dict.get_pop_cases
  refine ⟨fun rid => ?_, fun rid => ?_, fun j c h_c => ?_, fun rid rid' lock h_rid h_rid' => ?_,
    fun rid lock h_rid => ?_, fun lock j h_holding => ?_, fun j c h_c h_holding => ?_,
    fun rid => ?_⟩
  -- one reference less, and none where no call is left
  · show (t.releaseRefundLockReference _ _).refundLockRefcounts.get rid =
      if { s with calls := s.calls.pop i }.callsOn rid = ∅ then _ else
        some ({ s with calls := s.calls.pop i }.callsOn rid).card
    rw [h_counts', h_calls, h_counts]
    by_cases h_eq : rid = call.reservationId
    · subst h_eq
      rw [if_pos rfl, if_pos rfl, ← h_card]
      simp only [Finset.card_eq_zero]
    · rw [if_neg h_eq, if_neg h_eq]
      exact h_locks.refcount rid
  -- the lock goes with the last call
  · show (t.releaseRefundLockReference _ _).refundLocks.get rid = none ↔
      { s with calls := s.calls.pop i }.callsOn rid = ∅
    rw [h_locks', h_calls, h_same]
    simp only [h_last]
    by_cases h_eq : rid = call.reservationId
    · subst h_eq
      rw [if_pos rfl]
      by_cases h_empty : (s.callsOn call.reservationId).erase i = ∅
      · simp [h_empty]
      · rw [if_neg fun h => h_empty h.2, h_locks.locked]
        simp [h_ne, h_empty]
    · rw [if_neg fun h => h_eq h.1, if_neg h_eq]
      exact h_locks.locked rid
  -- a call that stays keeps the lock in the table
  · obtain ⟨h_j, h_c⟩ := h_get j c h_c
    show (t.releaseRefundLockReference _ _).refundLocks.get c.reservationId = some c.lock
    rw [h_locks', if_neg ?_, h_same]
    · exact h_locks.lock_of_call j c h_c
    · rintro ⟨h_eq, h_last_one⟩
      have h_empty := h_last.mp h_last_one
      have h_mem : j ∈ (s.callsOn call.reservationId).erase i :=
        Finset.mem_erase.mpr ⟨h_j, h_eq ▸ mem_callsOn_of_get h_c⟩
      rw [h_empty] at h_mem
      cases h_mem
  · have h_rid : (t.releaseRefundLockReference _ _).refundLocks.get rid = some lock := h_rid
    have h_rid' : (t.releaseRefundLockReference _ _).refundLocks.get rid' = some lock := h_rid'
    rw [h_locks', h_same] at h_rid h_rid'
    split at h_rid
    · cases h_rid
    · split at h_rid'
      · cases h_rid'
      · exact h_locks.lock_inj rid rid' lock h_rid h_rid'
  · have h_rid : (t.releaseRefundLockReference _ _).refundLocks.get rid = some lock := h_rid
    show lock < (t.releaseRefundLockReference _ _).nextLock
    rw [h_locks', h_same] at h_rid
    rw [h_next', h_next]
    split at h_rid
    · cases h_rid
    · exact h_locks.lock_lt rid lock h_rid
  -- whoever still holds a lock is another call
  · have h_holding : (t.releaseRefundLockReference _ _).holder lock = some j := h_holding
    rw [h_holder', h_holder] at h_holding
    have h_old : s.tables.holder lock = some j ∧ j ≠ i := by
      by_cases h_holds : call.phase.holds = true
      · rw [if_pos h_holds, Function.update_apply] at h_holding
        by_cases h_eq : lock = call.lock
        · rw [if_pos h_eq] at h_holding
          cases h_holding
        · rw [if_neg h_eq] at h_holding
          refine ⟨h_holding, fun h_j => h_eq ?_⟩
          obtain ⟨c, h_c, h_lock, _⟩ := h_locks.holder_call lock j h_holding
          rw [h_j, h_call] at h_c
          cases h_c
          exact h_lock.symm
      · rw [if_neg h_holds] at h_holding
        refine ⟨h_holding, fun h_j => h_holds ?_⟩
        obtain ⟨c, h_c, _, h_c_holds⟩ := h_locks.holder_call lock j h_holding
        rw [h_j, h_call] at h_c
        cases h_c
        exact h_c_holds
    obtain ⟨c, h_c, h_rest⟩ := h_locks.holder_call lock j h_old.1
    exact ⟨c, (Dict.get_pop_of_ne h_old.2).trans h_c, h_rest⟩
  -- no other call holds the lock that is released
  · obtain ⟨h_j, h_c⟩ := h_get j c h_c
    have h_old := h_locks.call_holder j c h_c h_holding
    show (t.releaseRefundLockReference _ _).holder c.lock = some j
    rw [h_holder', h_holder]
    by_cases h_holds : call.phase.holds = true
    · rw [if_pos h_holds, Function.update_apply, if_neg ?_]
      · exact h_old
      · intro h_eq
        rw [h_eq, h_locks.call_holder i call h_call h_holds] at h_old
        exact h_j (Option.some.inj h_old).symm
    · rw [if_neg h_holds]
      exact h_old
  -- what is in progress loses the reservation exactly if this call had its lock
  · show rid ∈ (t.releaseRefundLockReference _ _).refundInProgress ↔
      ∃ j c, (s.calls.pop i).get j = some c ∧ _
    rw [h_progress', h_progress]
    have h_pop : (∃ j c, (s.calls.pop i).get j = some c ∧ c.reservationId = rid ∧
        c.phase.holds = true) ↔ ∃ j c, j ≠ i ∧ s.calls.get j = some c ∧ c.reservationId = rid ∧
        c.phase.holds = true := by
      constructor
      · rintro ⟨j, c, h_c, h_rest⟩
        exact ⟨j, c, (h_get j c h_c).1, (h_get j c h_c).2, h_rest⟩
      · rintro ⟨j, c, h_j, h_c, h_rest⟩
        exact ⟨j, c, (Dict.get_pop_of_ne h_j).trans h_c, h_rest⟩
    rw [h_pop]
    by_cases h_holds : call.phase.holds = true
    · rw [if_pos h_holds, Finset.mem_erase, h_locks.in_progress]
      constructor
      · rintro ⟨h_rid, j, c, h_c, h_c_rid, h_rest⟩
        refine ⟨j, c, fun h_j => h_rid ?_, h_c, h_c_rid, h_rest⟩
        rw [h_j, h_call] at h_c
        cases h_c
        exact h_c_rid.symm
      · rintro ⟨j, c, h_j, h_c, h_c_rid, h_rest⟩
        refine ⟨fun h_rid => h_j ?_, j, c, h_c, h_c_rid, h_rest⟩
        exact h_locks.exclusive h_c h_call (h_c_rid.trans h_rid) h_rest h_holds
    · rw [if_neg h_holds, h_locks.in_progress]
      constructor
      · rintro ⟨j, c, h_c, h_c_rid, h_rest⟩
        refine ⟨j, c, fun h_j => h_holds ?_, h_c, h_c_rid, h_rest⟩
        rw [h_j, h_call] at h_c
        cases h_c
        exact h_rest
      · rintro ⟨j, c, _, h_c, h_rest⟩
        exact ⟨j, c, h_c, h_rest⟩

theorem LocksCoherent.abandon (h_locks : s.LocksCoherent) (h_call : s.calls.get i = some call)
    (h_waiting : call.phase.holds = false) : (s.abandon i call).LocksCoherent :=
  h_locks.depart h_call rfl rfl rfl (by rw [h_waiting]; rfl) (by rw [h_waiting]; rfl)

theorem LocksCoherent.leave (h_locks : s.LocksCoherent) (h_call : s.calls.get i = some call)
    (h_holds : call.phase.holds = true) : (s.leave i call).LocksCoherent :=
  h_locks.depart h_call rfl rfl rfl (by rw [if_pos h_holds]) (by rw [if_pos h_holds])

theorem callsOn_set_new (h_new : s.calls.get i = none) (call : RefundCall S)
    (t : RefundTables) (rid : ReservationId) :
    { s with tables := t, calls := s.calls.set i call }.callsOn rid =
      if rid = call.reservationId then insert i (s.callsOn rid) else s.callsOn rid := by
  refine Finset.ext fun j => ?_
  have h_mem : j ∈ { s with tables := t, calls := s.calls.set i call }.callsOn rid ↔
      (j = i ∧ rid = call.reservationId) ∨ j ∈ s.callsOn rid := by
    rw [mem_callsOn, mem_callsOn]
    show (∃ c, (s.calls.set i call).get j = some c ∧ _) ↔ _
    rw [Dict.get_set]
    by_cases h_eq : j = i
    · subst h_eq
      simp [h_new, eq_comm]
    · simp [h_eq]
  rw [h_mem]
  by_cases h_rid : rid = call.reservationId
  · simp [h_rid]
  · simp [h_rid]

/-- What a reference leaves in the tables: the lock of the reservation, a new one if it had none,
    one reference more, and everything else. -/
theorem LocksCoherent.reference_tables (h_locks : s.LocksCoherent) (rid : ReservationId) :
    (s.tables.referenceRefundLock rid).1.refundLocks.get rid =
      some (s.tables.referenceRefundLock rid).2 ∧
    (∀ rid', rid' ≠ rid → (s.tables.referenceRefundLock rid).1.refundLocks.get rid' =
      s.tables.refundLocks.get rid') ∧
    (∀ rid', (s.tables.referenceRefundLock rid).1.refundLockRefcounts.get rid' =
      if rid' = rid then some ((s.callsOn rid).card + 1)
      else s.tables.refundLockRefcounts.get rid') ∧
    ((s.tables.referenceRefundLock rid).2 = s.tables.nextLock ∧
      s.tables.refundLocks.get rid = none ∧
      (s.tables.referenceRefundLock rid).1.nextLock = s.tables.nextLock + 1 ∨
      s.tables.refundLocks.get rid = some (s.tables.referenceRefundLock rid).2 ∧
      (s.tables.referenceRefundLock rid).1.nextLock = s.tables.nextLock) ∧
    (s.tables.referenceRefundLock rid).1.holder = s.tables.holder ∧
    (s.tables.referenceRefundLock rid).1.refundInProgress = s.tables.refundInProgress := by
  have h_old := h_locks.refcount rid
  unfold RefundTables.referenceRefundLock
  cases h_lock : s.tables.refundLocks.get rid with
  | none =>
    have h_empty := (h_locks.locked rid).mp h_lock
    refine ⟨Dict.get_set_self _ _ _, fun rid' h_ne => Dict.get_set_of_ne h_ne, fun rid' => ?_,
      .inl ⟨rfl, rfl, rfl⟩, rfl, rfl⟩
    rw [h_empty]
    exact Dict.get_set _ _ _ _
  | some lock =>
    have h_ne : s.callsOn rid ≠ ∅ := fun h_empty => by
      rw [(h_locks.locked rid).mpr h_empty] at h_lock
      cases h_lock
    rw [if_neg h_ne] at h_old
    refine ⟨h_lock, fun _ _ => rfl, fun rid' => ?_, .inr ⟨rfl, rfl⟩, rfl, rfl⟩
    simp only [h_old, Option.getD_some]
    exact Dict.get_set _ _ _ _

/-- A call that starts takes a reference to its reservation's lock. -/
theorem LocksCoherent.join (h_locks : s.LocksCoherent) (h_new : s.calls.get i = none)
    (rid : ReservationId) :
    { s with
      tables := (s.tables.referenceRefundLock rid).1
      calls := s.calls.set i ⟨rid, (s.tables.referenceRefundLock rid).2, .waitingLock⟩
      }.LocksCoherent := by
  have h_calls := callsOn_set_new h_new
    (⟨rid, (s.tables.referenceRefundLock rid).2, .waitingLock⟩ : RefundCall S)
    (s.tables.referenceRefundLock rid).1
  have h_fresh : i ∉ s.callsOn rid := fun h_on => by
    obtain ⟨c, h_c, _⟩ := mem_callsOn.mp h_on
    rw [h_new] at h_c
    cases h_c
  have h_card := Finset.card_insert_of_notMem h_fresh
  obtain ⟨h_lock, h_others, h_count, h_next, h_holder, h_progress⟩ := h_locks.reference_tables rid
  generalize s.tables.referenceRefundLock rid = referenced at *
  obtain ⟨t, lock⟩ := referenced
  dsimp only at h_calls h_lock h_others h_count h_next h_holder h_progress
  -- no other reservation's lock is the one this call refers to
  have h_other : ∀ rid', s.tables.refundLocks.get rid' = some lock → rid' = rid := by
    intro rid' h_rid'
    rcases h_next with ⟨h_eq, _, _⟩ | ⟨h_eq, _⟩
    · exact absurd (h_locks.lock_lt rid' lock h_rid') (by rw [h_eq]; exact lt_irrefl _)
    · exact h_locks.lock_inj rid' rid lock h_rid' h_eq
  have h_get : ∀ j c, (s.calls.set i ⟨rid, lock, .waitingLock⟩).get j = some c →
      j = i ∧ c = ⟨rid, lock, .waitingLock⟩ ∨ j ≠ i ∧ s.calls.get j = some c :=
    fun _ _ => Dict.get_set_cases
  have h_keep : ∀ j c, s.calls.get j = some c →
      (s.calls.set i ⟨rid, lock, .waitingLock⟩).get j = some c := by
    intro j c h_c
    have h_ne : j ≠ i := fun h_eq => by
      rw [h_eq, h_new] at h_c
      cases h_c
    rw [Dict.get_set_of_ne h_ne, h_c]
  refine ⟨fun rid' => ?_, fun rid' => ?_, fun j c h_c => ?_, fun r r' lock' h_r h_r' => ?_,
    fun r lock' h_r => ?_, fun lock' j h_holding => ?_, fun j c h_c h_holding => ?_,
    fun rid' => ?_⟩
  -- one reference more
  · show t.refundLockRefcounts.get rid' = _
    rw [h_count, h_calls]
    by_cases h_eq : rid' = rid
    · subst h_eq
      rw [if_pos rfl, if_pos rfl, h_card, if_neg (Finset.insert_ne_empty _ _)]
    · rw [if_neg h_eq, if_neg h_eq]
      exact h_locks.refcount rid'
  -- the reservation has a lock now, and a call
  · show t.refundLocks.get rid' = none ↔ _
    rw [h_calls]
    by_cases h_eq : rid' = rid
    · subst h_eq
      rw [if_pos rfl, h_lock]
      simp [Finset.insert_ne_empty]
    · rw [if_neg h_eq, h_others rid' h_eq]
      exact h_locks.locked rid'
  -- an old call on the reservation refers to the same lock
  · rcases h_get j c h_c with ⟨_, rfl⟩ | ⟨_, h_c⟩
    · exact h_lock
    · have h_old := h_locks.lock_of_call j c h_c
      by_cases h_eq : c.reservationId = rid
      · rcases h_next with ⟨_, h_none, _⟩ | ⟨h_some, _⟩
        · rw [h_eq, h_none] at h_old
          cases h_old
        · rw [h_eq, h_some] at h_old
          rw [← Option.some.inj h_old]
          show t.refundLocks.get c.reservationId = some lock
          rw [h_eq]
          exact h_lock
      · exact (h_others _ h_eq).trans h_old
  -- locks stay apart
  · have h_to : ∀ r, t.refundLocks.get r = some lock' → r = rid ∧ lock' = lock ∨
        r ≠ rid ∧ s.tables.refundLocks.get r = some lock' := by
      intro r h_r
      by_cases h_eq : r = rid
      · rw [h_eq, h_lock] at h_r
        exact .inl ⟨h_eq, (Option.some.inj h_r).symm⟩
      · rw [h_others r h_eq] at h_r
        exact .inr ⟨h_eq, h_r⟩
    rcases h_to r h_r with ⟨rfl, rfl⟩ | ⟨h_ne, h_old⟩
    · rcases h_to r' h_r' with ⟨rfl, _⟩ | ⟨_, h_old'⟩
      · rfl
      · exact (h_other r' h_old').symm
    · rcases h_to r' h_r' with ⟨rfl, rfl⟩ | ⟨_, h_old'⟩
      · exact absurd (h_other r h_old) h_ne
      · exact h_locks.lock_inj r r' lock' h_old h_old'
  -- a lock object is never made twice
  · show lock' < t.nextLock
    by_cases h_eq : r = rid
    · have h_r : t.refundLocks.get r = some lock' := h_r
      rw [h_eq, h_lock] at h_r
      cases h_r
      rcases h_next with ⟨h_fresh, _, h_succ⟩ | ⟨h_some, h_same⟩
      · rw [h_succ, h_fresh]
        exact Nat.lt_succ_self _
      · rw [h_same]
        exact h_locks.lock_lt rid lock h_some
    · have h_r : t.refundLocks.get r = some lock' := h_r
      rw [h_others r h_eq] at h_r
      have h_lt := h_locks.lock_lt r lock' h_r
      rcases h_next with ⟨_, _, h_succ⟩ | ⟨_, h_same⟩
      · rw [h_succ]
        exact Nat.lt_succ_of_lt h_lt
      · rw [h_same]
        exact h_lt
  · have h_holding : t.holder lock' = some j := h_holding
    rw [h_holder] at h_holding
    obtain ⟨c, h_c, h_rest⟩ := h_locks.holder_call lock' j h_holding
    exact ⟨c, h_keep j c h_c, h_rest⟩
  -- the new call waits
  · show t.holder c.lock = some j
    rw [h_holder]
    rcases h_get j c h_c with ⟨_, rfl⟩ | ⟨_, h_c⟩
    · cases h_holding
    · exact h_locks.call_holder j c h_c h_holding
  · show rid' ∈ t.refundInProgress ↔ _
    rw [h_progress, h_locks.in_progress]
    constructor
    · rintro ⟨j, c, h_c, h_rest⟩
      exact ⟨j, c, h_keep j c h_c, h_rest⟩
    · rintro ⟨j, c, h_c, h_rid, h_holding⟩
      rcases h_get j c h_c with ⟨_, rfl⟩ | ⟨_, h_c⟩
      · cases h_holding
      · exact ⟨j, c, h_c, h_rid, h_holding⟩

/-- A waiter is given its lock, which no call holds. -/
theorem LocksCoherent.take (h_locks : s.LocksCoherent) (h_call : s.calls.get i = some call)
    (h_waiting : call.phase.holds = false) (h_free : s.tables.holder call.lock = none)
    {t : RefundTables} (h_same : SameLocks s.tables t) {phase : RefundPhase S}
    (h_holds : phase.holds = true) :
    { s with
      tables := { t with
        refundInProgress := insert call.reservationId t.refundInProgress
        holder := Function.update t.holder call.lock (some i) }
      calls := s.calls.set i { call with phase := phase } }.LocksCoherent := by
  obtain ⟨h_progress, h_lock, h_counts, h_next, h_holder⟩ := h_same
  have h_on : ∀ rid, { s with calls := s.calls.set i { call with phase := phase } }.callsOn rid =
      s.callsOn rid := callsOn_set_same h_call rfl
  have h_get : ∀ j c, (s.calls.set i { call with phase := phase }).get j = some c →
      j = i ∧ c = { call with phase := phase } ∨ j ≠ i ∧ s.calls.get j = some c :=
    fun _ _ => Dict.get_set_cases
  -- a call that holds a lock is not the waiter
  have h_keep : ∀ j c, s.calls.get j = some c → c.phase.holds = true →
      j ≠ i ∧ (s.calls.set i { call with phase := phase }).get j = some c := by
    intro j c h_c h_holding
    have h_ne : j ≠ i := fun h_eq => by
      rw [h_eq, h_call] at h_c
      cases h_c
      rw [h_waiting] at h_holding
      cases h_holding
    exact ⟨h_ne, (Dict.get_set_of_ne h_ne).trans h_c⟩
  refine ⟨fun rid => ?_, fun rid => ?_, fun j c h_c => ?_, fun rid rid' lock h_rid h_rid' => ?_,
    fun rid lock h_rid => ?_, fun lock j h_holding => ?_, fun j c h_c h_holding => ?_,
    fun rid => ?_⟩
  · show t.refundLockRefcounts.get rid = if { s with
      calls := s.calls.set i { call with phase := phase } }.callsOn rid = ∅ then _ else
        some ({ s with calls := s.calls.set i { call with phase := phase } }.callsOn rid).card
    rw [h_counts, h_on]
    exact h_locks.refcount rid
  · show t.refundLocks.get rid = none ↔
      { s with calls := s.calls.set i { call with phase := phase } }.callsOn rid = ∅
    rw [h_lock, h_on]
    exact h_locks.locked rid
  · show t.refundLocks.get c.reservationId = some c.lock
    rw [h_lock]
    rcases h_get j c h_c with ⟨_, rfl⟩ | ⟨_, h_c⟩
    · exact h_locks.lock_of_call i call h_call
    · exact h_locks.lock_of_call j c h_c
  · have h_rid : t.refundLocks.get rid = some lock := h_rid
    have h_rid' : t.refundLocks.get rid' = some lock := h_rid'
    rw [h_lock] at h_rid h_rid'
    exact h_locks.lock_inj rid rid' lock h_rid h_rid'
  · have h_rid : t.refundLocks.get rid = some lock := h_rid
    show lock < t.nextLock
    rw [h_lock] at h_rid
    rw [h_next]
    exact h_locks.lock_lt rid lock h_rid
  · have h_holding : Function.update t.holder call.lock (some i) lock = some j := h_holding
    rw [Function.update_apply, h_holder] at h_holding
    by_cases h_eq : lock = call.lock
    · rw [if_pos h_eq] at h_holding
      cases h_holding
      exact ⟨_, Dict.get_set_self _ _ _, h_eq.symm, h_holds⟩
    · rw [if_neg h_eq] at h_holding
      obtain ⟨c, h_c, h_c_lock, h_c_holds⟩ := h_locks.holder_call lock j h_holding
      exact ⟨c, (h_keep j c h_c h_c_holds).2, h_c_lock, h_c_holds⟩
  · show Function.update t.holder call.lock (some i) c.lock = some j
    rw [Function.update_apply, h_holder]
    rcases h_get j c h_c with ⟨h_eq, rfl⟩ | ⟨_, h_c⟩
    · rw [if_pos rfl, h_eq]
    · have h_old := h_locks.call_holder j c h_c h_holding
      rw [if_neg ?_]
      · exact h_old
      · intro h_eq
        rw [h_eq, h_free] at h_old
        cases h_old
  · show rid ∈ insert call.reservationId t.refundInProgress ↔ _
    rw [Finset.mem_insert, h_progress, h_locks.in_progress]
    constructor
    · rintro (h_rid | ⟨j, c, h_c, h_rid, h_holding⟩)
      · exact ⟨i, _, Dict.get_set_self _ _ _, h_rid.symm, h_holds⟩
      · exact ⟨j, c, (h_keep j c h_c h_holding).2, h_rid, h_holding⟩
    · rintro ⟨j, c, h_c, h_rid, h_holding⟩
      rcases h_get j c h_c with ⟨_, rfl⟩ | ⟨_, h_c⟩
      · exact .inl h_rid.symm
      · exact .inr ⟨j, c, h_c, h_rid, h_holding⟩

end RefundSystem

end TokenThrottle
