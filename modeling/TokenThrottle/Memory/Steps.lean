/-
  TokenThrottle.Memory.Steps

  What each operation of the memory backend does when it does not raise, said
  once per operation; the invariants of a run are derived from these.
-/
import TokenThrottle.Memory.Backend

namespace TokenThrottle
namespace MemoryBackend

variable {s s' : MemoryBackend} {usage : FrozenUsage} {reservationId : Option ReservationId}
  {currentTime : ℚ} {outcome : Outcome}

/-! ## Small facts about the state updates -/

@[simp] theorem setCapacities_buckets (s : MemoryBackend) (newCapacities : Capacities)
    (ids : Finset BucketId) (currentTime : ℚ) (allowNegative : Bool) :
    (s.setCapacities newCapacities ids currentTime allowNegative).buckets = s.buckets := rfl

@[simp] theorem setCapacities_bucketIds (s : MemoryBackend) (newCapacities : Capacities)
    (ids : Finset BucketId) (currentTime : ℚ) (allowNegative : Bool) :
    (s.setCapacities newCapacities ids currentTime allowNegative).bucketIds = s.bucketIds := rfl

theorem setCapacities_bucket (s : MemoryBackend) (newCapacities : Capacities)
    (ids : Finset BucketId) (currentTime : ℚ) (allowNegative : Bool) (id : BucketId) :
    (s.setCapacities newCapacities ids currentTime allowNegative).bucket id =
      if id ∈ ids then (s.bucket id).setCapacity (newCapacities id) currentTime allowNegative
      else s.bucket id := rfl

@[simp] theorem mem_bucketIds {id : BucketId} : id ∈ s.bucketIds ↔ id ∈ s.buckets :=
  List.mem_toFinset

@[simp] theorem recordAcquiredReservation_buckets (s : MemoryBackend) (rid : ReservationId)
    (usage : FrozenUsage) : (s.recordAcquiredReservation rid usage).buckets = s.buckets := rfl

@[simp] theorem recordAcquiredReservation_bucket (s : MemoryBackend) (rid : ReservationId)
    (usage : FrozenUsage) : (s.recordAcquiredReservation rid usage).bucket = s.bucket := rfl

@[simp] theorem forgetAcquiredReservation_buckets (s : MemoryBackend) (rid : ReservationId) :
    (s.forgetAcquiredReservation rid).buckets = s.buckets := rfl

@[simp] theorem forgetAcquiredReservation_bucket (s : MemoryBackend) (rid : ReservationId) :
    (s.forgetAcquiredReservation rid).bucket = s.bucket := rfl

@[simp] theorem closeReservation_buckets (s : MemoryBackend) (rid : ReservationId) :
    (s.closeReservation rid).buckets = s.buckets := by
  unfold closeReservation rememberRefundedReservationId
  split <;> rfl

@[simp] theorem closeReservation_bucket (s : MemoryBackend) (rid : ReservationId) :
    (s.closeReservation rid).bucket = s.bucket := by
  unfold closeReservation rememberRefundedReservationId
  split <;> rfl

section WithReservation

variable {f : MemoryBackend → ReservationId → MemoryBackend}

theorem withReservation_buckets (h_f : ∀ s rid, (f s rid).buckets = s.buckets) :
    (s.withReservation reservationId f).buckets = s.buckets := by
  cases reservationId with
  | none => rfl
  | some rid => exact h_f s rid

theorem withReservation_bucket (h_f : ∀ s rid, (f s rid).bucket = s.bucket) :
    (s.withReservation reservationId f).bucket = s.bucket := by
  cases reservationId with
  | none => rfl
  | some rid => exact h_f s rid

/-- Recording a marker touches no bucket. -/
@[simp] theorem withReservation_record_bucket :
    (s.withReservation reservationId (·.recordAcquiredReservation · usage)).bucket =
      s.bucket :=
  withReservation_bucket fun s rid => recordAcquiredReservation_bucket s rid usage

end WithReservation

/-! ## Reading -/

theorem getCapacities_ok (s : MemoryBackend) (h_time : 0 ≤ currentTime) :
    s.getCapacities currentTime =
      .ok fun id => if id ∈ s.buckets then s.capacityAt currentTime id else default := by
  refine collect_ok fun id _ => ?_
  rw [(s.bucket id).getCapacity_ok h_time]
  rfl

/-- What `_get_capacities` returns for the backend's own buckets. -/
theorem getCapacities_apply {capacities : Capacities}
    (h_ok : s.getCapacities currentTime = .ok capacities) {id : BucketId}
    (h_mem : id ∈ s.buckets) : capacities id = s.capacityAt currentTime id := by
  rcases lt_or_ge currentTime 0 with h_neg | h_time
  · have h_ne : s.buckets ≠ [] := List.ne_nil_of_mem h_mem
    have h_error : s.getCapacities currentTime = .error (.valueError .currentTimeNegative) := by
      refine collect_error h_ne fun id _ => ?_
      rw [(s.bucket id).getCapacity_negative h_neg]
      rfl
    rw [h_error] at h_ok
    cases h_ok
  · rw [s.getCapacities_ok h_time] at h_ok
    obtain rfl := Except.ok.inj h_ok
    exact if_pos h_mem

/-! ## One lemma for each operation -/

/-- `_try_consume_locked` admits only what every limit and every capacity allows. -/
theorem tryConsumeLocked_some {preconsumption postconsumption : Capacities}
    (h_ok : s.tryConsumeLocked usage preconsumption = .ok (some postconsumption)) :
    usageExceeds usage s.maxCapacity s.buckets = false ∧
      usageExceeds usage preconsumption s.buckets = false ∧
      postconsumption = subtractUsage preconsumption usage := by
  unfold tryConsumeLocked at h_ok
  split at h_ok
  · cases h_ok
  · split at h_ok
    · cases h_ok
    · rename_i h_limit
      split at h_ok
      · cases h_ok
      · rename_i h_capacity
        cases h_ok
        exact ⟨by simpa using h_limit, by simpa using h_capacity, rfl⟩

/-- An attempt that does not raise replays, is short of capacity, or consumes. -/
theorem attempt_cases
    (h_ok : s.attempt usage reservationId currentTime = .ok (outcome, s')) :
    (outcome ≠ .consumed ∧ s' = s) ∨
      (outcome = .consumed ∧ ∃ preconsumption,
        s.getCapacities currentTime = .ok preconsumption ∧
        s.isReplayed reservationId usage = .ok false ∧
        usageExceeds usage preconsumption s.buckets = false ∧
        s' = (s.withReservation reservationId
            (·.recordAcquiredReservation · usage)).setCapacities
          (subtractUsage preconsumption usage) s.bucketIds currentTime false) := by
  obtain ⟨replayed, h_replayed, h_ok⟩ := bind_eq_ok h_ok
  cases replayed with
  | true =>
    cases h_ok
    exact .inl ⟨by simp, rfl⟩
  | false =>
    obtain ⟨preconsumption, h_pre, h_ok⟩ := bind_eq_ok h_ok
    obtain ⟨result, h_result, h_ok⟩ := bind_eq_ok h_ok
    cases result with
    | none =>
      cases h_ok
      exact .inl ⟨by simp, rfl⟩
    | some postconsumption =>
      obtain ⟨_, h_available, rfl⟩ := tryConsumeLocked_some h_result
      cases h_ok
      refine .inr ⟨rfl, preconsumption, h_pre, h_replayed, h_available, ?_⟩
      congr 1
      cases reservationId <;> rfl

/-- `await_for_capacity` is an attempt with a usage that covers the metrics. -/
theorem awaitForCapacity_attempt
    (h_ok : s.awaitForCapacity usage reservationId currentTime = .ok (outcome, s')) :
    Covers usage s.usageMetricNames ∧
      s.attempt usage reservationId currentTime = .ok (outcome, s') := by
  obtain ⟨_, h_valid, h_attempt⟩ := bind_eq_ok h_ok
  exact ⟨validateUsageMapping_eq_ok_iff.mp h_valid, h_attempt⟩

/-- A consumption that does not raise replays or writes every bucket. -/
theorem consumeCapacity_cases
    (h_ok : s.consumeCapacity usage reservationId currentTime = .ok (outcome, s')) :
    Covers usage s.usageMetricNames ∧
      (s' = s ∨ ∃ preconsumption,
        s.getCapacities currentTime = .ok preconsumption ∧
        s' = (s.withReservation reservationId
            (·.recordAcquiredReservation · usage)).setCapacities
          (subtractUsageFloored preconsumption usage s.maxCapacity) s.bucketIds
          currentTime true) := by
  obtain ⟨_, h_valid, h_ok⟩ := bind_eq_ok h_ok
  refine ⟨validateUsageMapping_eq_ok_iff.mp h_valid, ?_⟩
  obtain ⟨replayed, _, h_ok⟩ := bind_eq_ok h_ok
  cases replayed with
  | true =>
    cases h_ok
    exact .inl rfl
  | false =>
    obtain ⟨preconsumption, h_pre, h_ok⟩ := bind_eq_ok h_ok
    cases h_ok
    refine .inr ⟨preconsumption, h_pre, ?_⟩
    cases reservationId <;> rfl

/-- A refund that does not raise closes its reservation, and writes the scoped
    buckets when there are any. -/
theorem refundCapacityForBuckets_cases {refund : RefundRequest}
    (h_ok : s.refundCapacityForBuckets refund currentTime = .ok (outcome, s')) :
    s.requireAcquired refund.reservationId = .ok () ∧
      (s' = s.withReservation refund.reservationId closeReservation ∨
        ∃ scope prerefund,
          scope ⊆ s.bucketIds ∧ Covers refund.reservedUsage (metricNames scope) ∧
          Covers refund.actualUsage (metricNames scope) ∧
          s.getCapacities currentTime = .ok prerefund ∧
          s' = (s.setCapacities
            (applyRefund prerefund refund.reservedUsage refund.actualUsage s.maxCapacity)
            scope currentTime true).withReservation refund.reservationId closeReservation) := by
  obtain ⟨_, h_valid, h_ok⟩ := bind_eq_ok h_ok
  generalize refund.bucketIds.getD s.bucketIds = scope at h_valid h_ok
  by_cases h_skip : scope = ∅ ∧ refund.reservationId = none
  · rw [if_pos h_skip] at h_ok
    cases h_ok
    rw [h_skip.2]
    exact ⟨rfl, .inl rfl⟩
  · rw [if_neg h_skip] at h_ok
    obtain ⟨_, h_acquired, h_ok⟩ := bind_eq_ok h_ok
    refine ⟨h_acquired, ?_⟩
    by_cases h_scope : scope = ∅
    · rw [if_pos h_scope] at h_ok
      cases h_ok
      exact .inl rfl
    · rw [if_neg h_scope] at h_ok
      obtain ⟨prerefund, h_pre, h_ok⟩ := bind_eq_ok h_ok
      obtain ⟨h_sub, h_reserved, h_actual⟩ := validateBackendRefundUsage_scope h_scope h_valid
      cases h_ok
      exact .inr ⟨scope, prerefund, h_sub, h_reserved, h_actual, h_pre, rfl⟩

/-- A cleanup that does not raise writes every bucket. -/
theorem refundCancelledConsumption_cases
    (h_ok : s.refundCancelledConsumption usage reservationId currentTime =
      .ok (outcome, s')) :
    ∃ capacities, s.getCapacities currentTime = .ok capacities ∧
      s' = (s.setCapacities (restoreUsage capacities usage s.maxCapacity) s.bucketIds
        currentTime true).withReservation reservationId forgetAcquiredReservation := by
  obtain ⟨capacities, h_pre, h_ok⟩ := bind_eq_ok h_ok
  cases h_ok
  exact ⟨capacities, h_pre, rfl⟩

/-! ## What each operation does to one bucket -/

section OneBucket

variable {id : BucketId}

theorem attempt_buckets
    (h_ok : s.attempt usage reservationId currentTime = .ok (outcome, s')) :
    s'.buckets = s.buckets := by
  obtain ⟨_, rfl⟩ | ⟨_, _, _, _, _, rfl⟩ := attempt_cases h_ok
  · rfl
  · exact withReservation_buckets fun _ _ => rfl

theorem consumeCapacity_buckets
    (h_ok : s.consumeCapacity usage reservationId currentTime = .ok (outcome, s')) :
    s'.buckets = s.buckets := by
  obtain ⟨_, rfl | ⟨_, _, rfl⟩⟩ := consumeCapacity_cases h_ok
  · rfl
  · exact withReservation_buckets fun _ _ => rfl

theorem refundCapacityForBuckets_buckets {refund : RefundRequest}
    (h_ok : s.refundCapacityForBuckets refund currentTime = .ok (outcome, s')) :
    s'.buckets = s.buckets := by
  obtain ⟨_, rfl | ⟨_, _, _, _, _, _, rfl⟩⟩ := refundCapacityForBuckets_cases h_ok
  · exact withReservation_buckets closeReservation_buckets
  · exact withReservation_buckets closeReservation_buckets

theorem refundCancelledConsumption_buckets
    (h_ok : s.refundCancelledConsumption usage reservationId currentTime =
      .ok (outcome, s')) : s'.buckets = s.buckets := by
  obtain ⟨_, _, rfl⟩ := refundCancelledConsumption_cases h_ok
  exact withReservation_buckets forgetAcquiredReservation_buckets

theorem setMaxCapacity_buckets {id : BucketId} {value : ℚ}
    (h_ok : s.setMaxCapacity id value currentTime = .ok (outcome, s')) :
    s'.buckets = s.buckets := by
  unfold setMaxCapacity at h_ok
  split at h_ok
  · cases h_ok
  · obtain ⟨_, _, h_ok⟩ := bind_eq_ok h_ok
    cases h_ok
    rfl

/-- No request changes which buckets a backend has. -/
theorem handle_buckets {request : Request}
    (h_ok : s.handle request currentTime = .ok (outcome, s')) : s'.buckets = s.buckets := by
  cases request with
  | awaitForCapacity usage reservationId lifetime =>
    exact attempt_buckets (awaitForCapacity_attempt h_ok).2
  | consumeCapacity usage reservationId lifetime => exact consumeCapacity_buckets h_ok
  | refundCapacityForBuckets refund => exact refundCapacityForBuckets_buckets h_ok
  | refundCancelledConsumption usage reservationId =>
    exact refundCancelledConsumption_buckets h_ok
  | setMaxCapacity id value => exact setMaxCapacity_buckets h_ok
  | applyConfiguredMaxCapacity id value =>
    obtain ⟨⟨outcome', changed⟩, h_set, h_ok⟩ := bind_eq_ok h_ok
    have h_changed : changed.buckets = s.buckets := setMaxCapacity_buckets h_set
    cases h_ok
    exact h_changed

/-- An admission takes the usage out of a capacity that held it. -/
theorem attempt_bucket (h_mem : id ∈ s.buckets) (h_covers : Covers usage s.usageMetricNames)
    (h_ok : s.attempt usage reservationId currentTime = .ok (outcome, s')) :
    (outcome ≠ .consumed ∧ s' = s) ∨
      (outcome = .consumed ∧ 0 ≤ usage.amount id.metric ∧
        usage.amount id.metric ≤ s.capacityAt currentTime id ∧
        s'.bucket id = (s.bucket id).setCapacity
          (s.capacityAt currentTime id - usage.amount id.metric) currentTime false) := by
  obtain h_kept | ⟨h_consumed, pre, h_pre, _, h_available, rfl⟩ := attempt_cases h_ok
  · exact .inl h_kept
  · have h_lookup := h_covers.lookup_bucket (mem_bucketIds.mpr h_mem)
    have h_pre_id := getCapacities_apply h_pre h_mem
    refine .inr ⟨h_consumed, h_covers.amount_nonneg (mem_bucketIds.mpr h_mem), ?_, ?_⟩
    · rw [← h_pre_id]
      exact (usageExceeds_eq_false_iff h_covers).mp h_available id h_mem
    · rw [setCapacities_bucket, if_pos (mem_bucketIds.mpr h_mem),
        withReservation_record_bucket, subtractUsage_of_lookup h_lookup, h_pre_id]

/-- An unconditional consumption charges a bucket down to minus its limit. -/
theorem consumeCapacity_bucket (h_mem : id ∈ s.buckets)
    (h_ok : s.consumeCapacity usage reservationId currentTime = .ok (outcome, s')) :
    s' = s ∨ (0 ≤ usage.amount id.metric ∧
      s'.bucket id = (s.bucket id).setCapacity
        (max (s.capacityAt currentTime id - usage.amount id.metric) (-s.maxCapacity id))
        currentTime true) := by
  obtain ⟨h_covers, h_kept | ⟨pre, h_pre, rfl⟩⟩ := consumeCapacity_cases h_ok
  · exact .inl h_kept
  · have h_lookup := h_covers.lookup_bucket (mem_bucketIds.mpr h_mem)
    refine .inr ⟨h_covers.amount_nonneg (mem_bucketIds.mpr h_mem), ?_⟩
    rw [setCapacities_bucket, if_pos (mem_bucketIds.mpr h_mem),
      withReservation_record_bucket, subtractUsageFloored_of_lookup h_lookup,
      getCapacities_apply h_pre h_mem]

/-- A refund leaves a bucket alone or adds reserved minus actual, clamped. -/
theorem refundCapacityForBuckets_bucket {refund : RefundRequest} (h_mem : id ∈ s.buckets)
    (h_ok : s.refundCapacityForBuckets refund currentTime = .ok (outcome, s')) :
    s'.bucket id = s.bucket id ∨
      (id.metric ∈ refund.reservedUsage.keys ∧ 0 ≤ refund.actualUsage.amount id.metric ∧
        s'.bucket id = (s.bucket id).setCapacity
          (clampRefund (s.capacityAt currentTime id)
            (refund.reservedUsage.amount id.metric - refund.actualUsage.amount id.metric)
            (s.maxCapacity id)) currentTime true) := by
  obtain ⟨_, rfl | ⟨scope, pre, _, h_reserved, h_actual, h_pre, rfl⟩⟩ :=
    refundCapacityForBuckets_cases h_ok
  · exact .inl (congrFun (withReservation_bucket closeReservation_bucket) id)
  · rw [withReservation_bucket closeReservation_bucket, setCapacities_bucket]
    by_cases h_scope : id ∈ scope
    · refine .inr ⟨?_, h_actual.amount_nonneg h_scope, ?_⟩
      · rw [h_reserved.keys_eq]
        exact metric_mem_metricNames h_scope
      · rw [if_pos h_scope, applyRefund_of_lookup (h_reserved.lookup_bucket h_scope),
          getCapacities_apply h_pre h_mem]
    · exact .inl (if_neg h_scope)

/-- A cleanup adds the usage back, up to the limit. -/
theorem refundCancelledConsumption_bucket (h_mem : id ∈ s.buckets)
    (h_covers : Covers usage s.usageMetricNames)
    (h_ok : s.refundCancelledConsumption usage reservationId currentTime =
      .ok (outcome, s')) :
    s'.bucket id = (s.bucket id).setCapacity
      (min (s.capacityAt currentTime id + usage.amount id.metric) (s.maxCapacity id))
      currentTime true := by
  obtain ⟨pre, h_pre, rfl⟩ := refundCancelledConsumption_cases h_ok
  rw [withReservation_bucket forgetAcquiredReservation_bucket, setCapacities_bucket,
    if_pos (mem_bucketIds.mpr h_mem),
    restoreUsage_of_lookup (h_covers.lookup_bucket (mem_bucketIds.mpr h_mem)),
    getCapacities_apply h_pre h_mem]

end OneBucket

/-! ## What each operation does to the markers -/

/-- A marker table with the entry of an optional reservation id replaced. -/
def updateMarker {α : Type} (markers : ReservationId → Option α)
    (reservationId : Option ReservationId) (marker : Option α) : ReservationId → Option α :=
  match reservationId with
  | none => markers
  | some rid => Function.update markers rid marker

theorem updateMarker_apply {α : Type} (markers : ReservationId → Option α)
    (reservationId : Option ReservationId) (marker : Option α) (rid : ReservationId) :
    updateMarker markers reservationId marker rid =
      if reservationId = some rid then marker else markers rid := by
  cases reservationId with
  | none => rfl
  | some r =>
    by_cases h_eq : rid = r
    · subst h_eq
      simp [updateMarker]
    · simp [updateMarker, h_eq, Ne.symm h_eq]

theorem withReservation_record_markers :
    (s.withReservation reservationId
        (·.recordAcquiredReservation · usage)).acquiredReservationValues =
      updateMarker s.acquiredReservationValues reservationId (some (s.bucketIds, usage)) := by
  cases reservationId <;> rfl

theorem closeReservation_markers (s : MemoryBackend) (rid : ReservationId) :
    (s.closeReservation rid).acquiredReservationValues =
      Function.update s.acquiredReservationValues rid none := by
  unfold closeReservation rememberRefundedReservationId
  split <;> rfl

theorem withReservation_close_markers :
    (s.withReservation reservationId closeReservation).acquiredReservationValues =
      updateMarker s.acquiredReservationValues reservationId none := by
  cases reservationId with
  | none => rfl
  | some rid => exact closeReservation_markers s rid

theorem withReservation_forget_markers :
    (s.withReservation reservationId forgetAcquiredReservation).acquiredReservationValues =
      updateMarker s.acquiredReservationValues reservationId none := by
  cases reservationId <;> rfl

/-- Only an id without a live marker is consumed under. -/
theorem isReplayed_false {rid : ReservationId}
    (h_ok : s.isReplayed (some rid) usage = .ok false) :
    s.acquiredReservationValues rid = none := by
  unfold isReplayed isReplayedAcquire at h_ok
  cases h_live : s.acquiredReservationValues rid with
  | none => rfl
  | some live =>
    simp only [h_live] at h_ok
    split at h_ok <;> cases h_ok

/-- Only an id with a live marker is refunded. -/
theorem requireAcquired_some {rid : ReservationId}
    (h_ok : s.requireAcquired (some rid) = .ok ()) :
    ∃ marker, s.acquiredReservationValues rid = some marker := by
  unfold requireAcquired at h_ok
  cases h_live : s.acquiredReservationValues rid with
  | some marker => exact ⟨marker, rfl⟩
  | none =>
    simp only [h_live] at h_ok
    split at h_ok
    · cases ‹(none : Option _).isSome = true›
    · split at h_ok <;> cases h_ok

theorem attempt_markers
    (h_ok : s.attempt usage reservationId currentTime = .ok (.consumed, s')) :
    (∀ rid, reservationId = some rid → s.acquiredReservationValues rid = none) ∧
      s'.acquiredReservationValues =
        updateMarker s.acquiredReservationValues reservationId (some (s.bucketIds, usage)) := by
  obtain ⟨h_ne, _⟩ | ⟨_, _, _, h_replayed, _, rfl⟩ := attempt_cases h_ok
  · exact absurd rfl h_ne
  · refine ⟨fun rid h_rid => ?_, withReservation_record_markers⟩
    subst h_rid
    exact isReplayed_false h_replayed

theorem refundCapacityForBuckets_markers {refund : RefundRequest}
    (h_ok : s.refundCapacityForBuckets refund currentTime = .ok (outcome, s')) :
    (∀ rid, refund.reservationId = some rid →
        ∃ marker, s.acquiredReservationValues rid = some marker) ∧
      s'.acquiredReservationValues =
        updateMarker s.acquiredReservationValues refund.reservationId none := by
  obtain ⟨h_acquired, h_cases⟩ := refundCapacityForBuckets_cases h_ok
  refine ⟨fun rid h_rid => requireAcquired_some (h_rid ▸ h_acquired), ?_⟩
  obtain rfl | ⟨_, _, _, _, _, _, rfl⟩ := h_cases
  · exact withReservation_close_markers
  · exact withReservation_close_markers

theorem refundCancelledConsumption_markers
    (h_ok : s.refundCancelledConsumption usage reservationId currentTime =
      .ok (outcome, s')) :
    s'.acquiredReservationValues =
      updateMarker s.acquiredReservationValues reservationId none := by
  obtain ⟨_, _, rfl⟩ := refundCancelledConsumption_cases h_ok
  exact withReservation_forget_markers

end MemoryBackend
end TokenThrottle
