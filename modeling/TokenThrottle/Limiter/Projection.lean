/-
  TokenThrottle.Limiter.Projection

  `_project_refund_scope` of `_rate_limiter.py`: what a refund asks of a backend whose
  bucket set was reconfigured after the reservation was made.

  * A metric may have several windows, so it survives while one of its buckets does.
  * The projection is made by the limiter and checked twice by the backend, once against
    the active buckets and once against the acquire marker; `projectRefundScope_valid`
    says that the three agree for every overlap of the old and the new bucket set.
-/
import TokenThrottle.Interface
import TokenThrottle.Persistence

namespace TokenThrottle

/-! ## Usages on a set of metrics -/

/-- `{metric: usage.get(metric, 0.0) for metric in metrics}` -/
def FrozenUsage.onMetrics (usage : FrozenUsage) (metrics : Finset String) : FrozenUsage :=
  Finmap.keysLookupEquiv.symm
    ⟨(metrics, fun metric => if metric ∈ metrics then some (usage.amount metric) else none),
      fun metric => by by_cases h_mem : metric ∈ metrics <;> simp [h_mem]⟩

@[simp] theorem FrozenUsage.onMetrics_keys (usage : FrozenUsage) (metrics : Finset String) :
    (usage.onMetrics metrics).keys = metrics := by
  unfold onMetrics
  rw [Finmap.keysLookupEquiv_symm_apply_keys]

theorem FrozenUsage.onMetrics_amount {usage : FrozenUsage} {metrics : Finset String}
    {metric : String} (h_mem : metric ∈ metrics) :
    (usage.onMetrics metrics).amount metric = usage.amount metric := by
  have h_lookup : (usage.onMetrics metrics).lookup metric = some (usage.amount metric) := by
    unfold onMetrics
    rw [Finmap.keysLookupEquiv_symm_apply_lookup]
    exact if_pos h_mem
  exact FrozenUsage.amount_of_lookup h_lookup

/-- A covering usage covers the metrics it is cut down to. -/
theorem Covers.onMetrics {usage : FrozenUsage} {metrics kept : Finset String}
    (h_covers : Covers usage metrics) (h_sub : kept ⊆ metrics) :
    Covers (usage.onMetrics kept) kept where
  keys_eq := FrozenUsage.onMetrics_keys usage kept
  nonneg metric h_mem := by
    rw [FrozenUsage.onMetrics_amount h_mem]
    exact h_covers.nonneg metric (h_sub h_mem)

/-! ## The projection -/

/-- What `_project_refund_scope` returns; `dropped` says that nothing is left to refund. -/
structure ProjectedRefund where
  reservedUsage : FrozenUsage
  actualUsage : FrozenUsage
  bucketIds : Option (Finset BucketId)
  dropped : Bool

/-- `_project_refund_scope` -/
def projectRefundScope (reservedUsage actualUsage : FrozenUsage)
    (reservationBucketIds activeBucketIds : Option (Finset BucketId)) : ProjectedRefund :=
  match activeBucketIds, reservationBucketIds with
  | none, _ => ⟨reservedUsage, actualUsage, reservationBucketIds, false⟩
  | some active, none =>
    -- a reservation without bucket ids falls back to the metric names
    let activeMetricNames := metricNames active
    if reservedUsage.keys = activeMetricNames then
      ⟨reservedUsage, actualUsage, some active, false⟩
    else
      ⟨reservedUsage.onMetrics activeMetricNames, actualUsage.onMetrics activeMetricNames,
        some active, false⟩
  | some active, some reserved =>
    let surviving := reserved.filter (· ∈ active)
    if surviving = ∅ then ⟨∅, ∅, some surviving, true⟩
    else
      let survivingMetricNames := metricNames surviving
      if reservedUsage.keys = survivingMetricNames then
        ⟨reservedUsage, actualUsage, some surviving, false⟩
      else
        ⟨reservedUsage.onMetrics survivingMetricNames,
          actualUsage.onMetrics survivingMetricNames, some surviving, false⟩

/-- `_validate_acquire_marker_refund_scope`: the Redis backend makes the check that the
    SQLite backend makes. -/
def validateAcquireMarkerRefundScope (reservedUsage : FrozenUsage)
    (refundBucketIds markerBucketIds : Finset BucketId) (markerReservedUsage : FrozenUsage) :
    Except BackendError Unit :=
  validateMarkerRefundScope reservedUsage refundBucketIds markerBucketIds markerReservedUsage

variable {reservedUsage actualUsage : FrozenUsage} {reserved active : Finset BucketId}

theorem metricNames_inter_subset (reserved active : Finset BucketId) :
    metricNames (reserved ∩ active) ⊆ metricNames reserved :=
  Finset.image_subset_image Finset.inter_subset_left

theorem surviving_eq_inter (reserved active : Finset BucketId) :
    reserved.filter (· ∈ active) = reserved ∩ active :=
  Finset.filter_mem_eq_inter

/-- What a projection keeps: exactly the metrics of the surviving buckets, each with the
    amounts it had. -/
structure ProjectedRefund.Keeps (projected : ProjectedRefund)
    (reservedUsage actualUsage : FrozenUsage) (surviving : Finset BucketId) : Prop where
  bucketIds : projected.bucketIds = some surviving
  reserved : Covers projected.reservedUsage (metricNames surviving)
  actual : Covers projected.actualUsage (metricNames surviving)
  reserved_amount : ∀ metric ∈ metricNames surviving,
    projected.reservedUsage.amount metric = reservedUsage.amount metric
  actual_amount : ∀ metric ∈ metricNames surviving,
    projected.actualUsage.amount metric = actualUsage.amount metric

theorem covers_empty : Covers ∅ (metricNames ∅) where
  keys_eq := Finmap.keys_empty
  nonneg metric h_mem := absurd h_mem (Finset.notMem_empty metric)

/-- The three branches of the projection keep the surviving buckets. -/
theorem projectRefundScope_keeps (h_reserved : Covers reservedUsage (metricNames reserved))
    (h_actual : Covers actualUsage (metricNames reserved)) (active : Finset BucketId) :
    (projectRefundScope reservedUsage actualUsage (some reserved) (some active)).Keeps
      reservedUsage actualUsage (reserved ∩ active) := by
  have h_sub := metricNames_inter_subset reserved active
  unfold projectRefundScope
  dsimp only
  rw [surviving_eq_inter]
  by_cases h_none : reserved ∩ active = ∅
  · rw [if_pos h_none, h_none]
    have h_absurd : ∀ metric, metric ∉ metricNames ∅ := fun metric => Finset.notMem_empty metric
    exact ⟨rfl, covers_empty, covers_empty, fun metric h_mem => absurd h_mem (h_absurd metric),
      fun metric h_mem => absurd h_mem (h_absurd metric)⟩
  · rw [if_neg h_none]
    by_cases h_keys : reservedUsage.keys = metricNames (reserved ∩ active)
    · -- every metric survives, if not every bucket
      have h_same : metricNames reserved = metricNames (reserved ∩ active) := by
        rw [← h_reserved.keys_eq, h_keys]
      rw [if_pos h_keys]
      rw [h_same] at h_reserved h_actual
      exact ⟨rfl, h_reserved, h_actual, fun _ _ => rfl, fun _ _ => rfl⟩
    · rw [if_neg h_keys]
      exact ⟨rfl, h_reserved.onMetrics h_sub, h_actual.onMetrics h_sub,
        fun _ h_mem => FrozenUsage.onMetrics_amount h_mem,
        fun _ h_mem => FrozenUsage.onMetrics_amount h_mem⟩

/-- A covering refund of active buckets passes the backend's validator. -/
theorem validateBackendRefundUsage_ok {bucketIds : Finset BucketId}
    (h_sub : bucketIds ⊆ active) (h_reserved : Covers reservedUsage (metricNames bucketIds))
    (h_actual : Covers actualUsage (metricNames bucketIds)) :
    validateBackendRefundUsageForBucketIds reservedUsage actualUsage bucketIds active =
      .ok () := by
  unfold validateBackendRefundUsageForBucketIds
  by_cases h_empty : bucketIds = ∅
  · have h_no_metrics : metricNames bucketIds = ∅ := by rw [h_empty]; rfl
    have h_no_keys : ¬ (reservedUsage.keys ≠ ∅ ∨ actualUsage.keys ≠ ∅) := by
      rw [h_reserved.keys_eq, h_actual.keys_eq, h_no_metrics]
      simp
    rw [if_pos h_empty, if_neg h_no_keys]
  · rw [if_neg h_empty, if_neg (not_not.mpr h_sub), validateUsageMapping_eq_ok_iff.mpr h_reserved]
    show validateUsageMapping actualUsage reservedUsage.keys = .ok ()
    rw [h_reserved.keys_eq]
    exact validateUsageMapping_eq_ok_iff.mpr h_actual

/-- A refund of some of the marker's buckets, with the marker's amounts, is in its scope. -/
theorem validateMarkerRefundScope_ok {markerUsage : FrozenUsage}
    {bucketIds markerBucketIds : Finset BucketId} (h_sub : bucketIds ⊆ markerBucketIds)
    (h_marker : Covers markerUsage (metricNames markerBucketIds))
    (h_amount : ∀ metric ∈ metricNames bucketIds,
      reservedUsage.amount metric = markerUsage.amount metric) :
    validateMarkerRefundScope reservedUsage bucketIds markerBucketIds markerUsage = .ok () := by
  have h_metrics : metricNames bucketIds ⊆ metricNames markerBucketIds :=
    Finset.image_subset_image h_sub
  have h_scoped : ¬ ∃ metric ∈ metricNames bucketIds, metric ∉ markerUsage.keys ∨
      reservedUsage.amount metric ≠ markerUsage.amount metric := by
    rintro ⟨metric, h_mem, h_missing | h_differs⟩
    · rw [h_marker.keys_eq] at h_missing
      exact h_missing (h_metrics h_mem)
    · exact h_differs (h_amount metric h_mem)
  unfold validateMarkerRefundScope
  rw [if_neg (not_not.mpr h_sub), if_neg h_scoped]

/-- A rotation of the bucket set never makes a refund fail validation, and never changes
    what a surviving bucket is credited. -/
theorem projectRefundScope_valid (reserved active : Finset BucketId)
    (reservedUsage actualUsage : FrozenUsage)
    (h_reserved : Covers reservedUsage (metricNames reserved))
    (h_actual : Covers actualUsage (metricNames reserved)) :
    let projected := projectRefundScope reservedUsage actualUsage (some reserved) (some active)
    projected.bucketIds = some (reserved ∩ active) ∧
      validateBackendRefundUsageForBucketIds projected.reservedUsage projected.actualUsage
        (reserved ∩ active) active = .ok () ∧
      validateMarkerRefundScope projected.reservedUsage (reserved ∩ active) reserved
        reservedUsage = .ok () ∧
      validateAcquireMarkerRefundScope projected.reservedUsage (reserved ∩ active) reserved
        reservedUsage = .ok () ∧
      projected.reservedUsage.keys = metricNames (reserved ∩ active) ∧
      projected.actualUsage.keys = metricNames (reserved ∩ active) ∧
      (∀ metric ∈ metricNames (reserved ∩ active),
        projected.reservedUsage.amount metric - projected.actualUsage.amount metric =
          reservedUsage.amount metric - actualUsage.amount metric) ∧
      ∀ (pre maxCapacities : Capacities), ∀ id ∈ reserved ∩ active,
        applyRefund pre projected.reservedUsage projected.actualUsage maxCapacities id =
          applyRefund pre reservedUsage actualUsage maxCapacities id := by
  intro projected
  have h_keeps : projected.Keeps reservedUsage actualUsage (reserved ∩ active) :=
    projectRefundScope_keeps h_reserved h_actual active
  have h_scope := validateMarkerRefundScope_ok Finset.inter_subset_left h_reserved
    h_keeps.reserved_amount
  refine ⟨h_keeps.bucketIds, validateBackendRefundUsage_ok Finset.inter_subset_right
    h_keeps.reserved h_keeps.actual, h_scope, h_scope, h_keeps.reserved.keys_eq,
    h_keeps.actual.keys_eq, ?_, ?_⟩
  · intro metric h_mem
    rw [h_keeps.reserved_amount metric h_mem, h_keeps.actual_amount metric h_mem]
  · intro pre maxCapacities id h_id
    have h_metric : id.metric ∈ metricNames (reserved ∩ active) := metric_mem_metricNames h_id
    have h_before : id.metric ∈ metricNames reserved :=
      metricNames_inter_subset reserved active h_metric
    rw [applyRefund_of_lookup (h_keeps.reserved.lookup_eq h_metric),
      applyRefund_of_lookup (h_reserved.lookup_eq h_before),
      h_keeps.reserved_amount _ h_metric, h_keeps.actual_amount _ h_metric]

/-- A second window of the metric of the examples. -/
def tokensPerHour : BucketId := ⟨"tokens", 3600, by decide⟩

theorem tokens_covers (ids : Finset BucketId) (h_metrics : metricNames ids = {"tokens"})
    {amount : ℚ} (h_nonneg : 0 ≤ amount) : Covers (tokens amount) (metricNames ids) where
  keys_eq := by
    rw [h_metrics]
    exact Finmap.keys_singleton "tokens" amount
  nonneg metric h_mem := by
    rw [h_metrics, Finset.mem_singleton] at h_mem
    have h_amount : (tokens amount).amount "tokens" = amount :=
      FrozenUsage.amount_of_lookup Finmap.lookup_singleton_eq
    rw [h_mem, h_amount]
    exact h_nonneg

/-- One of two windows is removed: the metric survives with the other. -/
theorem projectRefundScope_valid_windowRemoved :
    let reserved := {tokensPerMinute, tokensPerHour}
    let active := {tokensPerHour}
    let projected := projectRefundScope (tokens 5) (tokens 3) (some reserved) (some active)
    projected.bucketIds = some (reserved ∩ active) ∧
      validateBackendRefundUsageForBucketIds projected.reservedUsage projected.actualUsage
        (reserved ∩ active) active = .ok () ∧
      validateMarkerRefundScope projected.reservedUsage (reserved ∩ active) reserved
        (tokens 5) = .ok () ∧
      validateAcquireMarkerRefundScope projected.reservedUsage (reserved ∩ active) reserved
        (tokens 5) = .ok () ∧
      projected.reservedUsage.keys = metricNames (reserved ∩ active) ∧
      projected.actualUsage.keys = metricNames (reserved ∩ active) ∧
      (∀ metric ∈ metricNames (reserved ∩ active),
        projected.reservedUsage.amount metric - projected.actualUsage.amount metric =
          (tokens 5).amount metric - (tokens 3).amount metric) ∧
      ∀ (pre maxCapacities : Capacities), ∀ id ∈ reserved ∩ active,
        applyRefund pre projected.reservedUsage projected.actualUsage maxCapacities id =
          applyRefund pre (tokens 5) (tokens 3) maxCapacities id :=
  projectRefundScope_valid {tokensPerMinute, tokensPerHour} {tokensPerHour} (tokens 5) (tokens 3)
    (tokens_covers _ (by decide) (by norm_num)) (tokens_covers _ (by decide) (by norm_num))

end TokenThrottle
