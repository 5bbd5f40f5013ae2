/-
  TokenThrottle.Persistence

  What the SQLite and Redis backends share: the keys of their records, how long an
  indebted bucket is retained (`_debt_ttl.py`), when a runtime override still
  belongs to the limit a process is configured with, and the checks of a refund
  against the metadata of its reservation.
-/
import Mathlib.Data.Rat.Floor
import TokenThrottle.Interface

namespace TokenThrottle

/-! ## Keys -/

/-- The record of a bucket: the primary key of `buckets` in SQLite, the stem of a
    bucket's keys in Redis. -/
structure BucketKey where
  keyPrefix : String
  modelFamily : String
  id : BucketId
deriving DecidableEq

/-- The record of a reservation: its acquire marker and its refund tombstone. -/
structure ReservationKey where
  keyPrefix : String
  reservationId : ReservationId
deriving DecidableEq

/-! ## Retention of debt -/

/-- `MAX_STATE_TTL_SECONDS` -/
def maxStateTtlSeconds : ℕ := 2147483647

/-- `debt_ttl_seconds`: debt is kept until refill can reach the full limit on
    either side of an override's expiry. -/
def debtTtlSeconds (capacity : ℚ) (bucketTtlSeconds : ℕ) (perSeconds : ℕ)
    (maxCapacity configuredMaxCapacity : ℚ) : Except BackendError ℤ :=
  if 0 ≤ capacity then .ok bucketTtlSeconds
  else
    let required := (1 + -capacity / min maxCapacity configuredMaxCapacity) * perSeconds
    if required > maxStateTtlSeconds then .error (.valueError .retentionTooLong)
    else .ok (max (bucketTtlSeconds : ℤ) ⌈required⌉)

/-- Retention either lasts at least the bucket TTL or is refused. -/
theorem debtTtlSeconds_cases (capacity : ℚ) (bucketTtlSeconds perSeconds : ℕ)
    (maxCapacity configuredMaxCapacity : ℚ) :
    (∃ ttl : ℤ, (bucketTtlSeconds : ℤ) ≤ ttl ∧
      debtTtlSeconds capacity bucketTtlSeconds perSeconds maxCapacity
        configuredMaxCapacity = .ok ttl) ∨
    debtTtlSeconds capacity bucketTtlSeconds perSeconds maxCapacity
      configuredMaxCapacity = .error (.valueError .retentionTooLong) := by
  unfold debtTtlSeconds
  by_cases h_debt : 0 ≤ capacity
  · rw [if_pos h_debt]
    exact .inl ⟨_, le_refl _, rfl⟩
  · rw [if_neg h_debt]
    simp only
    split
    · exact .inr rfl
    · exact .inl ⟨_, le_max_left _ _, rfl⟩

/-! ## Override anchors -/

/-- `math.isclose(a, b, rel_tol=1e-12, abs_tol=0.0)` -/
def isclose (a b : ℚ) : Bool :=
  |a - b| ≤ 1 / 1000000000000 * max |a| |b|

theorem isclose_self (a : ℚ) : isclose a a = true := by
  simp [isclose]

/-- `_override_anchor_matches`: an override counts only under the configured limit
    it was set under. -/
def overrideAnchorMatches (configuredMaxCapacity : ℚ) (anchor : Option ℚ) : Bool :=
  anchor.any fun anchor => isclose anchor configuredMaxCapacity

@[simp] theorem overrideAnchorMatches_self (configuredMaxCapacity : ℚ) :
    overrideAnchorMatches configuredMaxCapacity (some configuredMaxCapacity) = true :=
  isclose_self _

/-! ## Reservation metadata -/

/-- `_require_marker_metadata` -/
def requireMarkerMetadata (refund : RefundRequest) :
    Except BackendError (String × Finset BucketId × FrozenUsage) :=
  match refund.reservationModelFamily, refund.reservationBucketIds,
      refund.reservationReservedUsage with
  | some family, some ids, some usage => .ok (family, ids, usage)
  | _, _, _ => .error (.valueError .reservationMetadataMissing)

/-- `_validate_marker_refund_scope` -/
def validateMarkerRefundScope (reservedUsage : FrozenUsage)
    (refundBucketIds markerBucketIds : Finset BucketId) (markerReservedUsage : FrozenUsage) :
    Except BackendError Unit :=
  if ¬ refundBucketIds ⊆ markerBucketIds then .error (.valueError .refundScopeMismatch)
  else if ∃ metric ∈ metricNames refundBucketIds, metric ∉ markerReservedUsage.keys ∨
      reservedUsage.amount metric ≠ markerReservedUsage.amount metric then
    .error (.valueError .refundScopeMismatch)
  else .ok ()

end TokenThrottle
