/-
  TokenThrottle.Interface

  The backend interface: the requests a limiter sends to a backend and the
  outcomes it gets back, with the bucket arithmetic that the memory, SQLite and
  Redis backends each write out in their own words.

  A request is one call under one hold of the backend's lock (or one database
  transaction); `awaitForCapacity` is a single attempt of the waiting loop.
-/
import TokenThrottle.Capacity

namespace TokenThrottle

/-! ## Requests and outcomes -/

/-- The arguments of `refund_capacity_for_buckets`. -/
structure RefundRequest where
  reservedUsage : FrozenUsage
  actualUsage : FrozenUsage
  bucketIds : Option (Finset BucketId)
  reservationId : Option ReservationId
  reservationModelFamily : Option String
  reservationBucketIds : Option (Finset BucketId)
  reservationReservedUsage : Option FrozenUsage

/-- One call of a backend. -/
inductive Request
  | awaitForCapacity (usage : FrozenUsage) (reservationId : Option ReservationId)
      (reservationLifetimeSeconds : Option ℚ)
  | consumeCapacity (usage : FrozenUsage) (reservationId : Option ReservationId)
      (reservationLifetimeSeconds : Option ℚ)
  | refundCapacityForBuckets (refund : RefundRequest)
  | refundCancelledConsumption (usage : FrozenUsage) (reservationId : Option ReservationId)
  | setMaxCapacity (id : BucketId) (value : ℚ)
  | applyConfiguredMaxCapacity (id : BucketId) (value : ℚ)

/-- How the answer to a command comes back: it does, or an exception arrives after
    the server executed the command, or one arrives instead. -/
inductive Delivery
  | answered
  | lost (e : BackendError)
  | refused (e : BackendError)

/-- A request of a run whose limits stay as they are; the usage a cleanup credits
    is one the backend validated when it was acquired. -/
def Request.KeepsLimits (metrics : Finset String) : Request → Prop
  | .refundCancelledConsumption usage _ => Covers usage metrics
  | .setMaxCapacity _ _ | .applyConfiguredMaxCapacity _ _ => False
  | _ => True

/-- How a call that does not raise ends. -/
inductive Outcome
  | consumed
  | replayed
  | unavailable
  | done
deriving DecidableEq

/-! ## Capacities of several buckets -/

/-- `Capacities`: an amount for each bucket of the backend. -/
abbrev Capacities := BucketId → ℚ

/-- Builds a dictionary over the buckets in order; the first that raises ends it. -/
def collect {α : Type} [Inhabited α] (f : BucketId → Except BackendError α) :
    List BucketId → Except BackendError (BucketId → α)
  | [] => .ok fun _ => default
  | id :: ids => do
    let value ← f id
    let rest ← collect f ids
    .ok (Function.update rest id value)

theorem collect_ok {α : Type} [Inhabited α] {f : BucketId → Except BackendError α}
    {g : BucketId → α} {ids : List BucketId} (h_ok : ∀ id ∈ ids, f id = .ok (g id)) :
    collect f ids = .ok fun id => if id ∈ ids then g id else default := by
  induction ids with
  | nil => simp [collect]
  | cons id ids ih =>
    have h_rest := ih fun id' h_mem => h_ok id' (List.mem_cons_of_mem _ h_mem)
    simp only [collect, h_ok id List.mem_cons_self, h_rest, bind, Except.bind]
    congr 1
    funext id'
    by_cases h_eq : id' = id
    · subst h_eq
      simp
    · simp [h_eq]

theorem collect_error {α : Type} [Inhabited α] {f : BucketId → Except BackendError α}
    {e : BackendError} {ids : List BucketId} (h_ne : ids ≠ [])
    (h_error : ∀ id ∈ ids, f id = .error e) : collect f ids = .error e := by
  cases ids with
  | nil => exact absurd rfl h_ne
  | cons id ids =>
    simp only [collect, h_error id List.mem_cons_self, bind, Except.bind]

/-- Some bucket's matching usage is above its bound: the over-limit check (bound:
    the maximum) and the availability check (bound: the capacity) of every backend. -/
def usageExceeds (usage : FrozenUsage) (bound : BucketId → ℚ) (ids : List BucketId) : Bool :=
  ids.any fun id => (usage.lookup id.metric).any fun amount => bound id < amount

theorem usageExceeds_eq_false_iff_lookup {usage : FrozenUsage} {bound : BucketId → ℚ}
    {ids : List BucketId} : usageExceeds usage bound ids = false ↔
      ∀ id ∈ ids, ∀ amount, usage.lookup id.metric = some amount → amount ≤ bound id := by
  unfold usageExceeds
  rw [List.any_eq_false]
  refine forall₂_congr fun id _ => ?_
  cases usage.lookup id.metric with
  | none => simp
  | some amount => simp

theorem usageExceeds_eq_true_iff_lookup {usage : FrozenUsage} {bound : BucketId → ℚ}
    {ids : List BucketId} : usageExceeds usage bound ids = true ↔
      ∃ id ∈ ids, ∃ amount, usage.lookup id.metric = some amount ∧ bound id < amount := by
  unfold usageExceeds
  rw [List.any_eq_true]
  refine exists_congr fun id => and_congr_right fun _ => ?_
  cases usage.lookup id.metric with
  | none => simp
  | some amount => simp

theorem usageExceeds_congr {usage : FrozenUsage} {bound bound' : BucketId → ℚ}
    {ids : List BucketId} (h_bound : ∀ id ∈ ids, bound id = bound' id) :
    usageExceeds usage bound ids = usageExceeds usage bound' ids := by
  unfold usageExceeds
  rw [Bool.eq_iff_iff, List.any_eq_true, List.any_eq_true]
  refine exists_congr fun id => and_congr_right fun h_mem => ?_
  rw [h_bound id h_mem]

theorem usageExceeds_eq_false_iff {usage : FrozenUsage} {bound : BucketId → ℚ}
    {ids : List BucketId} (h_covers : Covers usage (metricNames ids.toFinset)) :
    usageExceeds usage bound ids = false ↔
      ∀ id ∈ ids, usage.amount id.metric ≤ bound id := by
  unfold usageExceeds
  rw [List.any_eq_false]
  refine forall₂_congr fun id h_mem => ?_
  rw [h_covers.lookup_bucket (List.mem_toFinset.mpr h_mem)]
  simp

/-- The capacities after an admitted request. -/
def subtractUsage (capacities : Capacities) (usage : FrozenUsage) : Capacities := fun id =>
  match usage.lookup id.metric with
  | none => capacities id
  | some amount => capacities id - amount

/-- The capacities after an unconditional consumption: floored at minus the limit. -/
def subtractUsageFloored (capacities : Capacities) (usage : FrozenUsage)
    (maxCapacity : BucketId → ℚ) : Capacities := fun id =>
  match usage.lookup id.metric with
  | none => capacities id
  | some amount => max (capacities id - amount) (-maxCapacity id)

/-- `refund_amount` of a metric: reserved minus actual, negative for over-use. -/
def refundAmount (reservedUsage actualUsage : FrozenUsage) (metric : String) : Option ℚ :=
  (reservedUsage.lookup metric).map fun reserved => reserved - actualUsage.amount metric

/-- A refund added to a capacity: over-use is charged up to the limit, and the
    sum is clamped to `[-max, max]`. -/
def clampRefund (capacity refund maxCapacity : ℚ) : ℚ :=
  max (-maxCapacity) (min (capacity + max refund (-maxCapacity)) maxCapacity)

/-- The capacities after a refund to the scoped buckets. -/
def applyRefund (capacities : Capacities) (reservedUsage actualUsage : FrozenUsage)
    (maxCapacity : BucketId → ℚ) : Capacities := fun id =>
  match refundAmount reservedUsage actualUsage id.metric with
  | none => capacities id
  | some refund => clampRefund (capacities id) refund (maxCapacity id)

/-- The capacities after a cancelled acquire is credited back. -/
def restoreUsage (capacities : Capacities) (usage : FrozenUsage)
    (maxCapacity : BucketId → ℚ) : Capacities := fun id =>
  match usage.lookup id.metric with
  | none => capacities id
  | some amount => min (capacities id + amount) (maxCapacity id)

/-! ## The arithmetic on a bucket the usage covers -/

section CoveredBucket

variable {usage : FrozenUsage} {capacities : Capacities} {maxCapacity : BucketId → ℚ}
  {id : BucketId} {amount : ℚ}

theorem subtractUsage_of_lookup (h_lookup : usage.lookup id.metric = some amount) :
    subtractUsage capacities usage id = capacities id - amount := by
  simp [subtractUsage, h_lookup]

theorem subtractUsageFloored_of_lookup (h_lookup : usage.lookup id.metric = some amount) :
    subtractUsageFloored capacities usage maxCapacity id =
      max (capacities id - amount) (-maxCapacity id) := by
  simp [subtractUsageFloored, h_lookup]

theorem restoreUsage_of_lookup (h_lookup : usage.lookup id.metric = some amount) :
    restoreUsage capacities usage maxCapacity id =
      min (capacities id + amount) (maxCapacity id) := by
  simp [restoreUsage, h_lookup]

theorem applyRefund_of_lookup {actualUsage : FrozenUsage}
    (h_lookup : usage.lookup id.metric = some amount) :
    applyRefund capacities usage actualUsage maxCapacity id =
      clampRefund (capacities id) (amount - actualUsage.amount id.metric)
        (maxCapacity id) := by
  simp [applyRefund, refundAmount, h_lookup]

end CoveredBucket

theorem neg_le_clampRefund (capacity refund maxCapacity : ℚ) :
    -maxCapacity ≤ clampRefund capacity refund maxCapacity :=
  le_max_left _ _

theorem clampRefund_le {capacity refund maxCapacity : ℚ} (h_max : 0 ≤ maxCapacity) :
    clampRefund capacity refund maxCapacity ≤ maxCapacity :=
  max_le (by linarith) (min_le_right _ _)

/-- Over-use never raises a capacity above what it was, the floor aside. -/
theorem clampRefund_le_of_nonpos {capacity refund maxCapacity : ℚ} (h_max : 0 ≤ maxCapacity)
    (h_refund : refund ≤ 0) :
    clampRefund capacity refund maxCapacity ≤ max capacity (-maxCapacity) := by
  refine max_le (le_max_right _ _) ((min_le_left _ _).trans ?_)
  have h_charge : max refund (-maxCapacity) ≤ 0 := max_le h_refund (by linarith)
  exact (by linarith : capacity + max refund (-maxCapacity) ≤ capacity).trans (le_max_left _ _)

/-- A refund raises a capacity that is not below the floor by its amount at most. -/
theorem clampRefund_sub_le {capacity refund maxCapacity : ℚ}
    (h_floor : -maxCapacity ≤ capacity) (h_max : 0 ≤ maxCapacity) :
    clampRefund capacity refund maxCapacity - capacity ≤ max 0 refund := by
  have h_charge : max refund (-maxCapacity) ≤ max 0 refund :=
    max_le (le_max_right _ _) (by linarith [le_max_left 0 refund])
  have h_zero := le_max_left 0 refund
  have h_clamp : clampRefund capacity refund maxCapacity ≤ capacity + max 0 refund :=
    max_le (by linarith) ((min_le_left _ _).trans (by linarith))
  linarith

end TokenThrottle
