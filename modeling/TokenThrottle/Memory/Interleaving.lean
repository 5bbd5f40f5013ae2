/-
  TokenThrottle.Memory.Interleaving

  Concurrent `await_for_capacity` calls on one memory backend, interleaved at
  their await points with each other, with refunds and with cancellations.

  * A call is somewhere between two await points: waiting for its next attempt,
    waiting for the lock to deregister itself, in its callbacks, or in the
    shielded cleanup a cancellation started.
  * What runs under the condition lock is one step; a cancellation may be
    delivered between any two steps.
  * The history of a run records which call's consumption published a live
    marker, how often each consumption was credited back, and the amounts
    consumed and credited under each reservation id.
-/
import TokenThrottle.Memory.RateBound
import TokenThrottle.Theory.Runs

namespace TokenThrottle
namespace MemoryBackend

open Theory (Run Steps guard steps_guard_iff exists_run_of_exec)

abbrev CallId := ℕ

/-! ## Calls -/

/-- How a call leaves its waiting loop. -/
inductive Exit
  | returned
  | callbacks
  | raised
deriving DecidableEq

/-- The await point a call is suspended at. -/
inductive Phase
  | waiting (registered : Bool)
  | deregistering (exit : Exit)
  | callbacks
  | cleaning
  | returned
  | raised
deriving DecidableEq

def Exit.phase : Exit → Phase
  | .returned => .returned
  | .callbacks => .callbacks
  | .raised => .raised

/-- The `finally` of the waiting loop: a registered waiter takes the lock again to
    remove itself. -/
def Exit.leave (registered : Bool) (exit : Exit) : Phase :=
  if registered then .deregistering exit else exit.phase

structure AcquireCall where
  usage : FrozenUsage
  reservationId : Option ReservationId
  phase : Phase

/-- A backend, the calls on it, and the history of consumptions and credits. -/
structure System where
  backend : MemoryBackend
  calls : CallId → Option AcquireCall
  owner : ReservationId → Option CallId
  credits : CallId → ℕ
  consumedTotal : ReservationId → BucketId → ℚ
  creditedTotal : ReservationId → BucketId → ℚ

namespace System

def init (buckets : List BucketId) (limit : BucketId → MaxCapacity) : System where
  backend := MemoryBackend.init buckets limit
  calls _ := none
  owner _ := none
  credits _ := 0
  consumedTotal _ _ := 0
  creditedTotal _ _ := 0

/-! ## Steps -/

inductive Label
  | start (i : CallId) (usage : FrozenUsage) (reservationId : Option ReservationId)
  | attempt (i : CallId) (time : ℚ) (deadlinePassed : Bool)
  | interrupt (i : CallId)
  | deregister (i : CallId)
  | callbacksDone (i : CallId)
  | cleanup (i : CallId) (time : ℚ)
  | refund (time : ℚ) (request : RefundRequest)

def setPhase (s : System) (i : CallId) (call : AcquireCall) (phase : Phase) : System :=
  { s with calls := Function.update s.calls i (some { call with phase := phase }) }

/-- Adds to the totals of an optional reservation id. -/
def addTotal (total : ReservationId → BucketId → ℚ) (reservationId : Option ReservationId)
    (amount : BucketId → ℚ) : ReservationId → BucketId → ℚ :=
  match reservationId with
  | none => total
  | some rid => Function.update total rid fun id => total rid id + amount id

/-- A consumption of call `i`: its usage is taken and its marker published. -/
def consume (s : System) (i : CallId) (call : AcquireCall) (backend : MemoryBackend) : System :=
  { s with
    backend := backend
    owner := updateMarker s.owner call.reservationId (some i)
    consumedTotal := addTotal s.consumedTotal call.reservationId fun id =>
      call.usage.amount id.metric }

/-- The positive credit a bucket is given by a change of the backend. -/
def positiveCredit (before after : MemoryBackend) (time : ℚ) (id : BucketId) : ℚ :=
  max 0 (after.capacityAt time id - before.capacityAt time id)

/-- A credit of a consumption, by a refund or a cleanup. -/
def credit (s : System) (consumption : Option CallId) (reservationId : Option ReservationId)
    (time : ℚ) (backend : MemoryBackend) : System :=
  { s with
    backend := backend
    owner := updateMarker s.owner reservationId none
    credits := fun i => if consumption = some i then s.credits i + 1 else s.credits i
    creditedTotal := addTotal s.creditedTotal reservationId
      (positiveCredit s.backend backend time) }

/-- One step between two await points. -/
def step (s : System) : Label → Option System
  | .start i usage reservationId =>
    match s.calls i, validateBackendUsage usage s.backend.usageMetricNames with
    | none, .ok () => some (s.setPhase i ⟨usage, reservationId, .waiting false⟩ (.waiting false))
    | _, _ => none
  | .attempt i time deadlinePassed =>
    match s.calls i with
    | some call =>
      match call.phase with
      | .waiting registered =>
        match s.backend.attempt call.usage call.reservationId time with
        | .ok (.consumed, backend) =>
          some ((s.consume i call backend).setPhase i call (Exit.callbacks.leave registered))
        | .ok (.unavailable, _) =>
          some (s.setPhase i call
            (if deadlinePassed then .deregistering .raised else .waiting true))
        | .ok _ => some (s.setPhase i call (Exit.returned.leave registered))
        | .error _ => some (s.setPhase i call (Exit.raised.leave registered))
      | _ => none
    | none => none
  | .interrupt i =>
    match s.calls i with
    | some call =>
      match call.phase with
      | .waiting registered => some (s.setPhase i call (Exit.raised.leave registered))
      -- a cancellation of the lock wait in `finally` skips the callbacks' cleanup
      | .deregistering _ => some (s.setPhase i call .raised)
      | .callbacks => some (s.setPhase i call .cleaning)
      -- the cleanup is shielded: the cancellation is swallowed
      | .cleaning => some s
      | _ => none
    | none => none
  | .deregister i =>
    match s.calls i with
    | some call =>
      match call.phase with
      | .deregistering exit => some (s.setPhase i call exit.phase)
      | _ => none
    | none => none
  | .callbacksDone i =>
    match s.calls i with
    | some call =>
      match call.phase with
      | .callbacks => some (s.setPhase i call .returned)
      | _ => none
    | none => none
  | .cleanup i time =>
    match s.calls i with
    | some call =>
      match call.phase with
      | .cleaning =>
        match s.backend.refundCancelledConsumption call.usage call.reservationId time with
        | .ok (_, backend) =>
          some ((s.credit (some i) call.reservationId time backend).setPhase i call .raised)
        | .error _ => some (s.setPhase i call .raised)
      | _ => none
    | none => none
  | .refund time request =>
    match s.backend.refundCapacityForBuckets request time with
    | .ok (_, backend) =>
      some (s.credit (request.reservationId.bind s.owner) request.reservationId time backend)
    | .error _ => some s

/-- A cleanup runs while the marker that its own consumption published is live. -/
def ownMarkerLive (s : System) (i : CallId) : Bool :=
  match (s.calls i).bind AcquireCall.reservationId with
  | none => true
  | some rid => s.owner rid = some i

/-- A refund of a live reservation presents no more than the usage that was reserved for
    it; the backend itself does not compare the two. -/
def presentsReservedUsage (s : System) (request : RefundRequest) : Bool :=
  match request.reservationId.bind s.backend.acquiredReservationValues with
  | none => true
  | some (_, usage) =>
    ∀ metric ∈ request.reservedUsage.keys,
      request.reservedUsage.amount metric ≤ usage.amount metric

/-- The condition under which a step credits no consumption beyond what is still owed. -/
def creditsOwed (s : System) : Label → Bool
  | .cleanup i _ => s.ownMarkerLive i
  | .refund _ request => s.presentsReservedUsage request
  | _ => true

/-- Every consumption is credited back at most once, and under every reservation id
    no bucket is credited more than was consumed. -/
structure CreditedAtMostOnce (buckets : List BucketId) (s : System) : Prop where
  once : ∀ i, s.credits i ≤ 1
  total : ∀ rid, ∀ id ∈ buckets, s.creditedTotal rid id ≤ s.consumedTotal rid id

/-! ## What a step does -/

end System

/-- The call has not consumed yet and may still. -/
def Phase.isWaiting : Phase → Bool
  | .waiting _ => true
  | _ => false

/-- The call has consumed and may still be cleaned up. -/
def Phase.holdsConsumption : Phase → Bool
  | .deregistering .callbacks | .callbacks | .cleaning => true
  | _ => false

namespace System

variable {s s' : System} {i : CallId} {call : AcquireCall} {phase : Phase} {label : Label}
  {backend : MemoryBackend} {time : ℚ}

/-- The effects a step can have: nothing, a new call, a move of one call, a
    consumption, a cleanup, or a refund. -/
inductive Effect (s : System) : Label → System → Prop
  | idle (label : Label) : Effect s label s
  | started (i : CallId) (usage : FrozenUsage) (reservationId : Option ReservationId)
      (h_new : s.calls i = none) (h_covers : Covers usage s.backend.usageMetricNames) :
      Effect s (.start i usage reservationId)
        (s.setPhase i ⟨usage, reservationId, .waiting false⟩ (.waiting false))
  | moved (label : Label) (i : CallId) (call : AcquireCall) (phase : Phase)
      (h_call : s.calls i = some call)
      (h_waiting : phase.isWaiting → call.phase.isWaiting)
      (h_holds : phase.holdsConsumption → call.phase.holdsConsumption) :
      Effect s label (s.setPhase i call phase)
  | consumed (i : CallId) (call : AcquireCall) (time : ℚ) (deadlinePassed : Bool)
      (backend : MemoryBackend) (phase : Phase) (h_call : s.calls i = some call)
      (h_before : call.phase.isWaiting) (h_after : phase.isWaiting = false)
      (h_ok : s.backend.attempt call.usage call.reservationId time =
        .ok (.consumed, backend)) :
      Effect s (.attempt i time deadlinePassed)
        ((s.consume i call backend).setPhase i call phase)
  | cleaned (i : CallId) (call : AcquireCall) (time : ℚ) (outcome : Outcome)
      (backend : MemoryBackend) (h_call : s.calls i = some call)
      (h_phase : call.phase = .cleaning)
      (h_ok : s.backend.refundCancelledConsumption call.usage call.reservationId time =
        .ok (outcome, backend)) :
      Effect s (.cleanup i time)
        ((s.credit (some i) call.reservationId time backend).setPhase i call .raised)
  | refunded (time : ℚ) (request : RefundRequest) (outcome : Outcome)
      (backend : MemoryBackend)
      (h_ok : s.backend.refundCapacityForBuckets request time = .ok (outcome, backend)) :
      Effect s (.refund time request)
        (s.credit (request.reservationId.bind s.owner) request.reservationId time backend)

theorem leave_isWaiting (registered : Bool) (exit : Exit) :
    (exit.leave registered).isWaiting = false := by
  cases registered <;> cases exit <;> rfl

theorem leave_holdsConsumption (registered : Bool) {exit : Exit} (h_exit : exit ≠ .callbacks) :
    (exit.leave registered).holdsConsumption = false := by
  cases exit with
  | callbacks => exact absurd rfl h_exit
  | returned => cases registered <;> rfl
  | raised => cases registered <;> rfl

theorem attempt_effect {deadlinePassed : Bool}
    (h_step : s.step (.attempt i time deadlinePassed) = some s') :
    Effect s (.attempt i time deadlinePassed) s' := by
  simp only [step] at h_step
  split at h_step
  · rename_i call h_call
    split at h_step
    · rename_i registered h_phase
      have h_waiting : call.phase.isWaiting = true := by rw [h_phase]; rfl
      split at h_step
      · rename_i backend h_ok
        cases h_step
        exact .consumed i call time deadlinePassed backend _ h_call h_waiting
          (leave_isWaiting _ _) h_ok
      · cases h_step
        refine .moved _ i call _ h_call (fun _ => h_waiting) fun h_holds => ?_
        cases deadlinePassed <;> cases h_holds
      · cases h_step
        refine .moved _ i call _ h_call (fun _ => h_waiting) fun h_holds => ?_
        rw [leave_holdsConsumption registered (by decide)] at h_holds
        cases h_holds
      · cases h_step
        refine .moved _ i call _ h_call (fun _ => h_waiting) fun h_holds => ?_
        rw [leave_holdsConsumption registered (by decide)] at h_holds
        cases h_holds
    · cases h_step
  · cases h_step

theorem interrupt_effect (h_step : s.step (.interrupt i) = some s') :
    Effect s (.interrupt i) s' := by
  simp only [step] at h_step
  split at h_step
  · rename_i call h_call
    split at h_step
    · rename_i registered h_phase
      cases h_step
      refine .moved _ i call _ h_call (fun _ => by rw [h_phase]; rfl) fun h_holds => ?_
      rw [leave_holdsConsumption registered (by decide)] at h_holds
      cases h_holds
    · cases h_step
      exact .moved _ i call _ h_call (fun h => by cases h) (fun h => by cases h)
    · rename_i h_phase
      cases h_step
      exact .moved _ i call _ h_call (fun h => by cases h) (fun _ => by rw [h_phase]; rfl)
    · cases h_step
      exact .idle _
    · cases h_step
  · cases h_step

theorem deregister_effect (h_step : s.step (.deregister i) = some s') :
    Effect s (.deregister i) s' := by
  simp only [step] at h_step
  split at h_step
  · rename_i call h_call
    split at h_step
    · rename_i exit h_phase
      cases h_step
      refine .moved _ i call _ h_call (fun h_waiting => ?_) fun h_holds => ?_
      · cases exit <;> cases h_waiting
      · rw [h_phase]
        cases exit with
        | callbacks => rfl
        | returned => cases h_holds
        | raised => cases h_holds
    · cases h_step
  · cases h_step

theorem cleanup_effect (h_step : s.step (.cleanup i time) = some s') :
    Effect s (.cleanup i time) s' := by
  simp only [step] at h_step
  split at h_step
  · rename_i call h_call
    split at h_step
    · rename_i h_phase
      split at h_step
      · rename_i outcome backend h_ok
        cases h_step
        exact .cleaned i call time outcome backend h_call h_phase h_ok
      · cases h_step
        exact .moved _ i call _ h_call (fun h => by cases h) (fun h => by cases h)
    · cases h_step
  · cases h_step

theorem step_effect (h_step : s.step label = some s') : Effect s label s' := by
  cases label with
  | start i usage reservationId =>
    simp only [step] at h_step
    split at h_step
    · rename_i h_new h_valid
      cases h_step
      exact .started i usage reservationId h_new (validateUsageMapping_eq_ok_iff.mp h_valid)
    · cases h_step
  | attempt i time deadlinePassed => exact attempt_effect h_step
  | interrupt i => exact interrupt_effect h_step
  | deregister i => exact deregister_effect h_step
  | callbacksDone i =>
    simp only [step] at h_step
    split at h_step
    · rename_i call h_call
      split at h_step
      · cases h_step
        exact .moved _ i call _ h_call (fun h => by cases h) (fun h => by cases h)
      · cases h_step
    · cases h_step
  | cleanup i time => exact cleanup_effect h_step
  | refund time request =>
    simp only [step] at h_step
    split at h_step
    · rename_i outcome backend h_ok
      cases h_step
      exact .refunded time request outcome backend h_ok
    · cases h_step
      exact .idle _

/-! ## Credits and what they return -/

variable {buckets : List BucketId} {limit : BucketId → MaxCapacity} {id : BucketId}

/-- A refund credits a bucket no more than the usage reserved for its metric. -/
theorem positiveCredit_refund_le {s : MemoryBackend} {request : RefundRequest}
    {outcome : Outcome} {reserved : ℚ} (h_inv : Bounded buckets limit s)
    (h_mem : id ∈ buckets) (h_nonneg : 0 ≤ reserved)
    (h_reserved : ∀ metric ∈ request.reservedUsage.keys, metric = id.metric →
      request.reservedUsage.amount metric ≤ reserved)
    (h_ok : s.refundCapacityForBuckets request time = .ok (outcome, backend)) :
    positiveCredit s backend time id ≤ reserved := by
  refine max_le h_nonneg ?_
  have h_buckets := h_inv.buckets_eq
  have h_floor := h_inv.neg_le_capacityAt h_mem time
  have h_max := (s.bucket id).maxCapacity.nonneg
  obtain h_eq | ⟨h_key, h_actual, h_eq⟩ :=
    refundCapacityForBuckets_bucket (h_buckets ▸ h_mem) h_ok
  · have h_same : backend.capacityAt time id = s.capacityAt time id := by
      unfold capacityAt
      rw [h_eq]
    linarith
  · have h_after : backend.capacityAt time id ≤ clampRefund (s.capacityAt time id)
        (request.reservedUsage.amount id.metric - request.actualUsage.amount id.metric)
        (s.maxCapacity id) := by
      unfold capacityAt at h_eq ⊢
      rw [h_eq, MemoryBucket.setCapacity_capacityAt]
      exact min_le_right _ _
    have h_rise : clampRefund (s.capacityAt time id)
        (request.reservedUsage.amount id.metric - request.actualUsage.amount id.metric)
        (s.maxCapacity id) - s.capacityAt time id ≤
          max 0 (request.reservedUsage.amount id.metric
            - request.actualUsage.amount id.metric) := clampRefund_sub_le h_floor h_max
    have h_amount := h_reserved _ h_key rfl
    have h_bound : max 0 (request.reservedUsage.amount id.metric
        - request.actualUsage.amount id.metric) ≤ reserved :=
      max_le h_nonneg (by linarith)
    linarith

/-- A cleanup credits a bucket no more than the usage it returns. -/
theorem positiveCredit_cleanup_le {s : MemoryBackend} {usage : FrozenUsage}
    {reservationId : Option ReservationId} {outcome : Outcome}
    (h_inv : Bounded buckets limit s) (h_mem : id ∈ buckets)
    (h_covers : Covers usage s.usageMetricNames)
    (h_ok : s.refundCancelledConsumption usage reservationId time =
      .ok (outcome, backend)) :
    positiveCredit s backend time id ≤ usage.amount id.metric := by
  have h_mem' : id ∈ s.buckets := h_inv.buckets_eq ▸ h_mem
  refine max_le (h_covers.amount_nonneg (mem_bucketIds.mpr h_mem')) ?_
  have h_after : backend.capacityAt time id ≤
      s.capacityAt time id + usage.amount id.metric := by
    have h_eq := refundCancelledConsumption_bucket h_mem' h_covers h_ok
    unfold capacityAt at h_eq ⊢
    rw [h_eq, MemoryBucket.setCapacity_capacityAt]
    exact (min_le_right _ _).trans (min_le_left _ _)
  linarith

/-! ## The ledger invariant -/

/-- What is still owed under a reservation id: the usage of its live marker. -/
def outstanding (backend : MemoryBackend) (rid : ReservationId) (id : BucketId) : ℚ :=
  match backend.acquiredReservationValues rid with
  | none => 0
  | some (_, usage) => usage.amount id.metric

/-- Every live marker belongs to one consumption that has not been credited, and
    credited plus outstanding never exceeds consumed. -/
structure LedgerInv (buckets : List BucketId) (limit : BucketId → MaxCapacity)
    (s : System) : Prop where
  bounded : Bounded buckets limit s.backend
  covers : ∀ i call, s.calls i = some call → Covers call.usage (metricNames buckets.toFinset)
  owned : ∀ rid i, s.owner rid = some i → s.credits i = 0 ∧ ∃ call, s.calls i = some call ∧
    call.reservationId = some rid ∧ call.phase.isWaiting = false ∧
    s.backend.acquiredReservationValues rid = some (s.backend.bucketIds, call.usage)
  marked : ∀ rid marker, s.backend.acquiredReservationValues rid = some marker →
    ∃ i, s.owner rid = some i
  unstarted : ∀ i, s.calls i = none → s.credits i = 0
  waiting : ∀ i call, s.calls i = some call → call.phase.isWaiting → s.credits i = 0
  anonymous : ∀ i call, s.calls i = some call → call.reservationId = none →
    call.phase.holdsConsumption → s.credits i = 0
  once : ∀ i, s.credits i ≤ 1
  paid : ∀ rid, ∀ id ∈ buckets,
    s.creditedTotal rid id + outstanding s.backend rid id ≤ s.consumedTotal rid id

theorem ledgerInv_init (buckets : List BucketId) (limit : BucketId → MaxCapacity) :
    LedgerInv buckets limit (init buckets limit) where
  bounded := bounded_init buckets limit
  covers _ _ h_call := by cases h_call
  owned _ _ h_owner := by cases h_owner
  marked _ _ h_marker := by cases h_marker
  unstarted _ _ := rfl
  waiting _ _ h_call := by cases h_call
  anonymous _ _ h_call := by cases h_call
  once _ := Nat.zero_le 1
  paid _ _ _ := le_of_eq (add_zero 0)

/-- The calls after one call has moved. -/
theorem setPhase_calls (s : System) (i j : CallId) (call : AcquireCall) (phase : Phase) :
    (s.setPhase i call phase).calls j =
      if j = i then some { call with phase := phase } else s.calls j :=
  Function.update_apply _ _ _ _

/-- A call that moves without consuming or crediting keeps the ledger. -/
theorem LedgerInv.setPhase (h_inv : LedgerInv buckets limit s)
    (h_call : s.calls i = some call) (h_waiting : phase.isWaiting → call.phase.isWaiting)
    (h_holds : phase.holdsConsumption → call.phase.holdsConsumption ∨ s.credits i = 0) :
    LedgerInv buckets limit (s.setPhase i call phase) where
  bounded := h_inv.bounded
  marked := h_inv.marked
  once := h_inv.once
  paid := h_inv.paid
  covers j call' h_call' := by
    rw [setPhase_calls] at h_call'
    split at h_call'
    · cases h_call'
      exact h_inv.covers i call h_call
    · exact h_inv.covers j call' h_call'
  owned rid j h_owner := by
    obtain ⟨h_credits, call', h_call', h_rid, h_phase, h_marker⟩ := h_inv.owned rid j h_owner
    refine ⟨h_credits, ?_⟩
    rw [setPhase_calls]
    by_cases h_eq : j = i
    · subst h_eq
      rw [h_call] at h_call'
      cases h_call'
      refine ⟨_, if_pos rfl, h_rid, ?_, h_marker⟩
      by_contra h_new
      have h_old := h_waiting (by simpa using h_new)
      rw [h_phase] at h_old
      cases h_old
    · exact ⟨call', by rw [if_neg h_eq]; exact h_call', h_rid, h_phase, h_marker⟩
  unstarted j h_none := by
    rw [setPhase_calls] at h_none
    split at h_none
    · cases h_none
    · exact h_inv.unstarted j h_none
  waiting j call' h_call' h_phase := by
    rw [setPhase_calls] at h_call'
    split at h_call'
    · rename_i h_eq
      subst h_eq
      cases h_call'
      exact h_inv.waiting j call h_call (h_waiting h_phase)
    · exact h_inv.waiting j call' h_call' h_phase
  anonymous j call' h_call' h_rid h_phase := by
    rw [setPhase_calls] at h_call'
    split at h_call'
    · rename_i h_eq
      subst h_eq
      cases h_call'
      rcases h_holds h_phase with h_held | h_zero
      · exact h_inv.anonymous j call h_call h_rid h_held
      · exact h_zero
    · exact h_inv.anonymous j call' h_call' h_rid h_phase

theorem addTotal_apply (total : ReservationId → BucketId → ℚ)
    (reservationId : Option ReservationId) (amount : BucketId → ℚ) (rid : ReservationId)
    (id : BucketId) :
    addTotal total reservationId amount rid id =
      if reservationId = some rid then total rid id + amount id else total rid id := by
  cases reservationId with
  | none => rfl
  | some r =>
    by_cases h_eq : rid = r
    · subst h_eq
      simp [addTotal]
    · simp [addTotal, h_eq, Ne.symm h_eq]

/-- A new call keeps the ledger. -/
theorem LedgerInv.start {usage : FrozenUsage} {reservationId : Option ReservationId}
    (h_inv : LedgerInv buckets limit s) (h_new : s.calls i = none)
    (h_covers : Covers usage s.backend.usageMetricNames) :
    LedgerInv buckets limit
      (s.setPhase i ⟨usage, reservationId, .waiting false⟩ (.waiting false)) where
  bounded := h_inv.bounded
  marked := h_inv.marked
  once := h_inv.once
  paid := h_inv.paid
  covers j call h_call := by
    rw [setPhase_calls] at h_call
    split at h_call
    · cases h_call
      unfold usageMetricNames bucketIds at h_covers
      rw [h_inv.bounded.buckets_eq] at h_covers
      exact h_covers
    · exact h_inv.covers j call h_call
  owned rid j h_owner := by
    obtain ⟨h_credits, call, h_call, h_rest⟩ := h_inv.owned rid j h_owner
    have h_ne : j ≠ i := by
      rintro rfl
      rw [h_new] at h_call
      cases h_call
    refine ⟨h_credits, call, ?_, h_rest⟩
    rw [setPhase_calls, if_neg h_ne]
    exact h_call
  unstarted j h_none := by
    rw [setPhase_calls] at h_none
    split at h_none
    · cases h_none
    · exact h_inv.unstarted j h_none
  waiting j call h_call h_phase := by
    rw [setPhase_calls] at h_call
    split at h_call
    · rename_i h_eq
      subst h_eq
      exact h_inv.unstarted j h_new
    · exact h_inv.waiting j call h_call h_phase
  anonymous j call h_call h_rid h_phase := by
    rw [setPhase_calls] at h_call
    split at h_call
    · rename_i h_eq
      subst h_eq
      exact h_inv.unstarted j h_new
    · exact h_inv.anonymous j call h_call h_rid h_phase

/-- A consumption under an unmarked id opens one uncredited entry of the ledger. -/
theorem LedgerInv.consume (h_inv : LedgerInv buckets limit s)
    (h_call : s.calls i = some call) (h_phase : call.phase.isWaiting = false)
    (h_zero : s.credits i = 0) (h_bounded : Bounded buckets limit backend)
    (h_unmarked : ∀ rid, call.reservationId = some rid →
      s.backend.acquiredReservationValues rid = none)
    (h_markers : backend.acquiredReservationValues =
      updateMarker s.backend.acquiredReservationValues call.reservationId
        (some (s.backend.bucketIds, call.usage))) :
    LedgerInv buckets limit (s.consume i call backend) := by
  have h_ids : backend.bucketIds = s.backend.bucketIds := by
    unfold bucketIds
    rw [h_bounded.buckets_eq, h_inv.bounded.buckets_eq]
  have h_marker : ∀ rid, backend.acquiredReservationValues rid =
      if call.reservationId = some rid then some (s.backend.bucketIds, call.usage)
      else s.backend.acquiredReservationValues rid := by
    intro rid
    rw [h_markers, updateMarker_apply]
  refine ⟨h_bounded, h_inv.covers, ?_, ?_, h_inv.unstarted, h_inv.waiting,
    h_inv.anonymous, h_inv.once, ?_⟩
  · intro rid j h_owner
    simp only [System.consume, updateMarker_apply, h_marker, h_ids] at h_owner ⊢
    by_cases h_rid : call.reservationId = some rid
    · rw [if_pos h_rid] at h_owner
      cases h_owner
      exact ⟨h_zero, call, h_call, h_rid, h_phase, if_pos h_rid⟩
    · rw [if_neg h_rid] at h_owner
      rw [if_neg h_rid]
      exact h_inv.owned rid j h_owner
  · intro rid marker h_some
    simp only [System.consume, updateMarker_apply, h_marker] at h_some ⊢
    by_cases h_rid : call.reservationId = some rid
    · exact ⟨i, if_pos h_rid⟩
    · rw [if_neg h_rid] at h_some ⊢
      exact h_inv.marked rid marker h_some
  · intro rid id h_mem
    have h_paid := h_inv.paid rid id h_mem
    simp only [System.consume, outstanding, h_marker, addTotal_apply]
    simp only [outstanding] at h_paid
    by_cases h_rid : call.reservationId = some rid
    · rw [h_unmarked rid h_rid] at h_paid
      rw [if_pos h_rid, if_pos h_rid]
      linarith
    · rw [if_neg h_rid, if_neg h_rid]
      exact h_paid

/-- A credit of an uncredited consumption, up to what is outstanding, closes its
    entry of the ledger. -/
theorem LedgerInv.credit {consumption : Option CallId}
    {reservationId : Option ReservationId} (h_inv : LedgerInv buckets limit s)
    (h_bounded : Bounded buckets limit backend)
    (h_uncredited : ∀ j, consumption = some j → s.credits j = 0 ∧
      ∃ call, s.calls j = some call ∧ call.reservationId = reservationId ∧
        call.phase.isWaiting = false ∧
        (reservationId = none → call.phase.holdsConsumption = false))
    (h_markers : backend.acquiredReservationValues =
      updateMarker s.backend.acquiredReservationValues reservationId none)
    (h_amount : ∀ rid, reservationId = some rid → ∀ id ∈ buckets,
      positiveCredit s.backend backend time id ≤ outstanding s.backend rid id) :
    LedgerInv buckets limit (s.credit consumption reservationId time backend) := by
  have h_ids : backend.bucketIds = s.backend.bucketIds := by
    unfold bucketIds
    rw [h_bounded.buckets_eq, h_inv.bounded.buckets_eq]
  have h_marker : ∀ rid, backend.acquiredReservationValues rid =
      if reservationId = some rid then none
      else s.backend.acquiredReservationValues rid := by
    intro rid
    rw [h_markers, updateMarker_apply]
  refine ⟨h_bounded, h_inv.covers, ?_, ?_, ?_, ?_, ?_, ?_, ?_⟩
  · intro rid j h_owner
    simp only [System.credit, updateMarker_apply, h_marker, h_ids] at h_owner ⊢
    split at h_owner
    · cases h_owner
    · rename_i h_ne
      obtain ⟨h_credits, call, h_call, h_rid, h_rest⟩ := h_inv.owned rid j h_owner
      refine ⟨?_, call, h_call, h_rid, ?_⟩
      · split
        · -- the credited consumption is under another id
          rename_i h_eq
          obtain ⟨_, call', h_call', h_rid', _⟩ := h_uncredited j h_eq
          rw [h_call] at h_call'
          cases h_call'
          exact absurd (h_rid'.symm.trans h_rid) h_ne
        · exact h_credits
      · rw [if_neg h_ne]
        exact h_rest
  · intro rid marker h_some
    simp only [System.credit, updateMarker_apply, h_marker] at h_some ⊢
    split at h_some
    · cases h_some
    · rename_i h_ne
      rw [if_neg h_ne]
      exact h_inv.marked rid marker h_some
  · intro j h_none
    have h_ne : consumption ≠ some j := by
      intro h_eq
      obtain ⟨_, call, h_call, _⟩ := h_uncredited j h_eq
      rw [show s.calls j = none from h_none] at h_call
      cases h_call
    simp only [System.credit, if_neg h_ne]
    exact h_inv.unstarted j h_none
  · intro j call h_call h_waiting
    have h_ne : consumption ≠ some j := by
      intro h_eq
      obtain ⟨_, call', h_call', _, h_phase, _⟩ := h_uncredited j h_eq
      rw [show s.calls j = some call from h_call] at h_call'
      cases h_call'
      rw [h_waiting] at h_phase
      cases h_phase
    simp only [System.credit, if_neg h_ne]
    exact h_inv.waiting j call h_call h_waiting
  · intro j call h_call h_rid h_holds
    have h_ne : consumption ≠ some j := by
      intro h_eq
      obtain ⟨_, call', h_call', h_rid', _, h_released⟩ := h_uncredited j h_eq
      rw [show s.calls j = some call from h_call] at h_call'
      cases h_call'
      rw [h_released (h_rid'.symm.trans h_rid)] at h_holds
      cases h_holds
    simp only [System.credit, if_neg h_ne]
    exact h_inv.anonymous j call h_call h_rid h_holds
  · intro j
    simp only [System.credit]
    split
    · rename_i h_eq
      rw [(h_uncredited j h_eq).1]
    · exact h_inv.once j
  · intro rid id h_mem
    have h_paid := h_inv.paid rid id h_mem
    simp only [System.credit, outstanding, h_marker]
    rw [addTotal_apply]
    by_cases h_eq : reservationId = some rid
    · have h_le := h_amount rid h_eq id h_mem
      rw [if_pos h_eq, if_pos h_eq]
      linarith
    · rw [if_neg h_eq, if_neg h_eq]
      exact h_paid

/-! ## Runs -/

/-- A consumption keeps the bounds of the buckets. -/
theorem attempt_bounded {usage : FrozenUsage} {reservationId : Option ReservationId}
    {outcome : Outcome} (h_bounded : Bounded buckets limit s.backend)
    (h_covers : Covers usage (metricNames buckets.toFinset))
    (h_ok : s.backend.attempt usage reservationId time = .ok (outcome, backend)) :
    Bounded buckets limit backend := by
  have h_valid : validateBackendUsage usage s.backend.usageMetricNames = .ok () := by
    unfold usageMetricNames bucketIds
    rw [h_bounded.buckets_eq]
    exact validateUsageMapping_eq_ok_iff.mpr h_covers
  have h_handle : s.backend.handle (.awaitForCapacity usage reservationId none) time =
      .ok (outcome, backend) := by
    simp only [handle, awaitForCapacity, h_valid]
    exact h_ok
  have h_keeps : (Request.awaitForCapacity usage reservationId none).KeepsLimits
      (metricNames buckets.toFinset) := trivial
  exact handle_bounded h_bounded h_keeps h_handle

/-- What a refund presents for a live reservation is at most what is outstanding. -/
theorem reserved_le_outstanding {request : RefundRequest} {rid : ReservationId}
    (h_inv : LedgerInv buckets limit s) (h_mem : id ∈ buckets)
    (h_presents : s.presentsReservedUsage request)
    (h_rid : request.reservationId = some rid) {marker : Finset BucketId × FrozenUsage}
    (h_marker : s.backend.acquiredReservationValues rid = some marker) :
    0 ≤ outstanding s.backend rid id ∧
      ∀ metric ∈ request.reservedUsage.keys, metric = id.metric →
        request.reservedUsage.amount metric ≤ outstanding s.backend rid id := by
  obtain ⟨i, h_owner⟩ := h_inv.marked rid marker h_marker
  obtain ⟨_, call, h_call, _, _, h_live⟩ := h_inv.owned rid i h_owner
  have h_nonneg := (h_inv.covers i call h_call).amount_nonneg (List.mem_toFinset.mpr h_mem)
  unfold presentsReservedUsage at h_presents
  rw [h_rid, Option.bind_some, h_live] at h_presents
  unfold outstanding
  rw [h_live]
  refine ⟨h_nonneg, fun metric h_key h_eq => ?_⟩
  subst h_eq
  exact of_decide_eq_true h_presents _ h_key

/-- One step keeps the ledger, if it credits no more than is owed. -/
theorem step_ledgerInv (h_inv : LedgerInv buckets limit s) (h_good : s.creditsOwed label = true)
    (h_step : s.step label = some s') : LedgerInv buckets limit s' := by
  have h_metrics : s.backend.usageMetricNames = metricNames buckets.toFinset := by
    unfold usageMetricNames bucketIds
    rw [h_inv.bounded.buckets_eq]
  cases step_effect h_step with
  | idle => exact h_inv
  | started i usage reservationId h_new h_covers => exact h_inv.start h_new h_covers
  | moved label i call phase h_call h_waiting h_holds =>
    exact h_inv.setPhase h_call h_waiting fun h => .inl (h_holds h)
  | consumed i call time deadlinePassed backend phase h_call h_before h_after h_ok =>
    have h_covers := h_inv.covers i call h_call
    have h_zero := h_inv.waiting i call h_call h_before
    have h_moved : LedgerInv buckets limit (s.setPhase i call phase) :=
      h_inv.setPhase h_call (fun _ => h_before) fun _ => .inr h_zero
    obtain ⟨h_unmarked, h_markers⟩ := attempt_markers h_ok
    have h_call' : (s.setPhase i call phase).calls i = some { call with phase := phase } := by
      rw [setPhase_calls, if_pos rfl]
    have h_consumed : LedgerInv buckets limit
        ((s.setPhase i call phase).consume i { call with phase := phase } backend) :=
      h_moved.consume h_call' h_after h_zero
        (attempt_bounded h_inv.bounded h_covers h_ok) h_unmarked h_markers
    exact h_consumed
  | cleaned i call time outcome backend h_call h_phase h_ok =>
    have h_covers := h_inv.covers i call h_call
    -- the condition: the live marker of the id is the one this call published
    have h_own : ∀ rid, call.reservationId = some rid → s.owner rid = some i := by
      intro rid h_rid
      simp only [creditsOwed, ownMarkerLive, h_call, Option.bind_some, h_rid] at h_good
      exact of_decide_eq_true h_good
    have h_moved : LedgerInv buckets limit (s.setPhase i call .raised) :=
      h_inv.setPhase h_call (fun h => by cases h) fun h => by cases h
    have h_markers := refundCancelledConsumption_markers h_ok
    have h_keeps : (Request.refundCancelledConsumption call.usage
        call.reservationId).KeepsLimits (metricNames buckets.toFinset) := h_covers
    have h_bounded : Bounded buckets limit backend :=
      handle_bounded h_inv.bounded h_keeps h_ok
    refine h_moved.credit h_bounded ?_ h_markers ?_
    · intro j h_eq
      cases h_eq
      refine ⟨?_, { call with phase := .raised }, ?_, rfl, rfl, fun _ => rfl⟩
      · cases h_rid : call.reservationId with
        | none => exact h_inv.anonymous i call h_call h_rid (by rw [h_phase]; rfl)
        | some rid => exact (h_inv.owned rid i (h_own rid h_rid)).1
      · rw [setPhase_calls, if_pos rfl]
    · intro rid h_rid id h_mem
      obtain ⟨_, call', h_call', _, _, h_live⟩ := h_inv.owned rid i (h_own rid h_rid)
      rw [h_call] at h_call'
      cases h_call'
      have h_outstanding : outstanding s.backend rid id = call.usage.amount id.metric := by
        unfold outstanding
        rw [h_live]
      exact (positiveCredit_cleanup_le h_inv.bounded h_mem (h_metrics ▸ h_covers)
        h_ok).trans_eq h_outstanding.symm
  | refunded time request outcome backend h_ok =>
    obtain ⟨h_acquired, h_markers⟩ := refundCapacityForBuckets_markers h_ok
    have h_keeps : (Request.refundCapacityForBuckets request).KeepsLimits
        (metricNames buckets.toFinset) := trivial
    have h_bounded : Bounded buckets limit backend :=
      handle_bounded h_inv.bounded h_keeps h_ok
    refine h_inv.credit h_bounded ?_ h_markers ?_
    · intro j h_eq
      obtain ⟨rid, h_rid, h_owner⟩ := Option.bind_eq_some_iff.mp h_eq
      obtain ⟨h_zero, call, h_call, h_call_rid, h_phase, _⟩ := h_inv.owned rid j h_owner
      refine ⟨h_zero, call, h_call, h_call_rid.trans h_rid.symm, h_phase, fun h_none => ?_⟩
      rw [h_rid] at h_none
      cases h_none
    · intro rid h_rid id h_mem
      obtain ⟨marker, h_marker⟩ := h_acquired rid h_rid
      obtain ⟨h_nonneg, h_reserved⟩ :=
        reserved_le_outstanding h_inv h_mem h_good h_rid h_marker
      exact positiveCredit_refund_le h_inv.bounded h_mem h_nonneg h_reserved h_ok

theorem LedgerInv.creditedAtMostOnce (h_inv : LedgerInv buckets limit s) :
    CreditedAtMostOnce buckets s where
  once := h_inv.once
  total rid id h_mem := by
    have h_paid := h_inv.paid rid id h_mem
    have h_owed : 0 ≤ outstanding s.backend rid id := by
      cases h_marker : s.backend.acquiredReservationValues rid with
      | none => exact le_of_eq (by simp [outstanding, h_marker])
      | some marker =>
        obtain ⟨i, h_owner⟩ := h_inv.marked rid marker h_marker
        obtain ⟨_, call, h_call, _, _, h_live⟩ := h_inv.owned rid i h_owner
        have h_nonneg :=
          (h_inv.covers i call h_call).amount_nonneg (List.mem_toFinset.mpr h_mem)
        unfold outstanding
        rw [h_live]
        exact h_nonneg
    linarith

/-- In every run whose cleanups run while the marker of their own consumption is live, and
    whose refunds present no more than was reserved, each consumption is credited back at
    most once. -/
theorem run_creditedAtMostOnce (buckets : List BucketId) (limit : BucketId → MaxCapacity)
    (labels : List Label) (s : System)
    (h_run : Run (Steps (guard step creditsOwed)) (init buckets limit) labels s) :
    CreditedAtMostOnce buckets s := by
  have h_inv : LedgerInv buckets limit s := by
    refine h_run.invariant (fun s label s' h_inv h_step => ?_) (ledgerInv_init buckets limit)
    obtain ⟨h_good, h_step⟩ := steps_guard_iff.mp h_step
    exact step_ledgerInv h_inv h_good h_step
  exact h_inv.creditedAtMostOnce

/-- Acquires 60 of 100 tokens under `a`, is cancelled in its callbacks and cleaned
    up; the id is then acquired again, replayed, and refunded. -/
def cleanupThenRefund : List Label :=
  [.start 0 (tokens 60) (some "a"), .attempt 0 0 false, .interrupt 0, .cleanup 0 1,
   .start 1 (tokens 60) (some "a"), .attempt 1 2 false, .callbacksDone 1,
   .start 2 (tokens 60) (some "a"), .attempt 2 3 false,
   .refund 4 ⟨tokens 60, tokens 20, none, some "a", none, none, none⟩]

theorem run_creditedAtMostOnce_cleanupThenRefund :
    ∃ s, s.credits 0 = 1 ∧ s.credits 1 = 1 ∧ CreditedAtMostOnce [tokensPerMinute] s := by
  obtain ⟨s, h_run, h_credits⟩ :
      ∃ s, Run (Steps (guard step creditsOwed)) (init [tokensPerMinute] fun _ => oneHundred)
        cleanupThenRefund s ∧ (s.credits 0 = 1 ∧ s.credits 1 = 1) :=
    exists_run_of_exec (by decide +kernel)
  exact ⟨s, h_credits.1, h_credits.2, run_creditedAtMostOnce _ _ _ _ h_run⟩

/-- The cleanup does not look at the marker: refunded while its call is suspended in
    a callback, the consumption is credited again when the call is cancelled. -/
def refundThenCleanup : List Label :=
  [.start 0 (tokens 60) (some "a"), .attempt 0 0 false,
   .start 1 (tokens 40) (some "b"), .attempt 1 0 false,
   .refund 0 ⟨tokens 60, tokens 0, none, some "a", none, none, none⟩,
   .interrupt 0, .cleanup 0 0]

theorem refundThenCleanup_credits_twice :
    ∃ s, Run (Steps step) (init [tokensPerMinute] fun _ => oneHundred) refundThenCleanup s ∧
      s.consumedTotal "a" tokensPerMinute = 60 ∧ s.creditedTotal "a" tokensPerMinute = 100 ∧
      ¬ CreditedAtMostOnce [tokensPerMinute] s := by
  obtain ⟨s, h_run, h_twice, h_consumed, h_credited⟩ :
      ∃ s, Run (Steps step) (init [tokensPerMinute] fun _ => oneHundred) refundThenCleanup s ∧
        (s.credits 0 = 2 ∧ s.consumedTotal "a" tokensPerMinute = 60 ∧
          s.creditedTotal "a" tokensPerMinute = 100) :=
    exists_run_of_exec (by decide +kernel)
  refine ⟨s, h_run, h_consumed, h_credited, fun h_once => ?_⟩
  have h_le := h_once.once 0
  omega

/-- Nor does a refund look at the usage behind the marker: 90 of 60 reserved tokens come
    back. -/
example : (Theory.exec step (init [tokensPerMinute] fun _ => oneHundred)
    [.start 0 (tokens 60) (some "a"), .attempt 0 0 false, .callbacksDone 0,
     .start 1 (tokens 40) (some "b"), .attempt 1 0 false,
     .refund 0 ⟨tokens 90, tokens 0, none, some "a", none, none, none⟩]).map
      (fun s => (s.consumedTotal "a" tokensPerMinute, s.creditedTotal "a" tokensPerMinute)) =
        some (60, 90) := by decide +kernel

end System

end MemoryBackend
end TokenThrottle
