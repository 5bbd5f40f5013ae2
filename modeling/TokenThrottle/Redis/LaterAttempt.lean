/-
  TokenThrottle.Redis.LaterAttempt

  An attempt of `_check_and_consume_capacity` after one that was denied, while nothing else
  happens on the server and no override runs out: the pair that the first one left is read
  again, so each bucket has grown at its rate.

  * `calculated_later` is the bucket: the same override, a history that switches the rate
    neither now nor then, and a pair that needs no normalizing.
  * `denied_of_check` says what a denied attempt leaves; `check_later` runs the next one on it.
-/
import TokenThrottle.Redis.Alone

namespace TokenThrottle

open Theory (Program)
open Theory.Program
open Theory.Accrual (Grows)

variable {t wait : ℚ} {s s' : Session}

/-! ## One bucket -/

section Accrual

variable {history history' : Option OverrideExpiry} {override : Option MaxCapacity}
  {configured : MaxCapacity} {id : BucketId} {last stored rate : ℚ}

/-- The history of an override counts once the override is gone. -/
theorem accrueWithExpiry_overridden (h_override : override.isSome = true) :
    accrueWithExpiry history override configured id last t stored rate =
      stored + max 0 (t - last) * rate := by
  unfold accrueWithExpiry
  cases history with
  | none => rfl
  | some history => exact if_pos (.inl h_override)

/-- Where no override expires in between, a bucket gains its rate. -/
theorem accrueWithExpiry_later (h_past : last ≤ t) (h_wait : 0 ≤ wait)
    (h_history : override = none → history' = history)
    (h_keeps : ∀ h, history' = some h → h.expiresAt ≤ t ∨ t + wait < h.expiresAt) :
    accrueWithExpiry history' override configured id last (t + wait) stored rate =
      accrueWithExpiry history override configured id last t stored rate + wait * rate := by
  have h_now : max 0 (t - last) = t - last := max_eq_right (by linarith)
  have h_later : max 0 (t + wait - last) = t + wait - last := max_eq_right (by linarith)
  cases h_override : override with
  | some value =>
    rw [accrueWithExpiry_overridden rfl, accrueWithExpiry_overridden rfl, h_now, h_later]
    ring
  | none =>
    rw [h_history h_override] at h_keeps ⊢
    unfold accrueWithExpiry
    cases history with
    | none =>
      dsimp only
      rw [h_now, h_later]
      ring
    | some history =>
      dsimp only
      by_cases h_foreign : ¬ isclose history.configured.value configured.value = true
      · rw [if_pos (.inr (.inl h_foreign)), if_pos (.inr (.inl h_foreign)), h_now, h_later]
        ring
      · rcases h_keeps history rfl with h_gone | h_lasting
        · -- the override ran out before both readings
          have h_not : ∀ now, t ≤ now → ¬ ((none : Option MaxCapacity).isSome = true ∨
              ¬ isclose history.configured.value configured.value = true ∨
                now < history.expiresAt) := by
            intro now h_le
            rintro (h_some | h_other | h_before)
            · cases h_some
            · exact h_foreign h_other
            · linarith
          have h_max := max_le h_past h_gone
          rw [if_neg (h_not _ (le_refl t)), if_neg (h_not (t + wait) (by linarith))]
          rw [max_eq_right (by linarith : (0 : ℚ) ≤ t + wait - max last history.expiresAt)]
          rw [max_eq_right (by linarith : (0 : ℚ) ≤ t - max last history.expiresAt)]
          ring
        · rw [if_pos (.inr (.inr h_lasting)), if_pos (.inr (.inr (by linarith))), h_now, h_later]
          ring

end Accrual

namespace RedisBackend

variable {keys : List BucketKey} {capacities : Capacities} {key : BucketKey}

/-- The limit that a client reads a bucket under. -/
def limitOf (s : Session) (key : BucketKey) : MaxCapacity :=
  (s.override key).getD (s.client.maxCapacityDefault key.id)

theorem ReadLeaves.override (h_leaves : ReadLeaves s t keys capacities s') (key : BucketKey) :
    s'.override key = s.override key ∧ limitOf s' key = limitOf s key := by
  obtain ⟨caches, h_client⟩ := h_leaves.client
  obtain ⟨state, overrideExpiry, h_server⟩ := h_leaves.server
  unfold limitOf Session.override
  rw [h_client, h_server]
  exact ⟨rfl, rfl⟩

/-- The limits of the buckets are cached by the read. -/
theorem ReadLeaves.maxCapacity (h_leaves : ReadLeaves s t keys capacities s') (h_mem : key ∈ keys) :
    s'.client.maxCapacity key.id = limitOf s key := by
  obtain ⟨caches, h_client⟩ := h_leaves.client
  have h_cached := (h_leaves.bucket key h_mem).cached
  unfold RedisClient.maxCapacity limitOf
  rw [h_cached, h_client]

/-- What a later read computes of a bucket that an earlier one has left. -/
theorem ReadLeaves.calculated_later (h_leaves : ReadLeaves s t keys capacities s')
    (h_mem : key ∈ keys) (h_wait : 0 ≤ wait)
    (h_past : ∀ last, (s'.server.state key).lastChecked = some last → last ≤ t)
    (h_keeps : ∀ history, s'.server.overrideExpiry key = some history →
      history.expiresAt ≤ t ∨ t + wait < history.expiresAt) :
    ∃ later isFreshStart, s'.calculated (t + wait) key = .ok ⟨later, isFreshStart⟩ ∧
      Grows (limitOf s key).value (calculateRatePerSec (limitOf s key) key.id) wait
        (capacities key.id) later := by
  obtain ⟨h_override, h_limit⟩ := h_leaves.override key
  obtain ⟨⟨isFreshStart, h_calculated⟩, h_state, h_history, _, h_unconfirmed⟩ :=
    h_leaves.bucket key h_mem
  have h_rate := calculateRatePerSec_pos (limitOf s key) key.id
  have h_time := Session.time_of_calculated h_calculated
  have h_later : 0 ≤ t + wait := by linarith
  have h_default : s'.client.maxCapacityDefault = s.client.maxCapacityDefault := by
    obtain ⟨caches, h_client⟩ := h_leaves.client
    rw [h_client]
  unfold Session.calculated at h_calculated ⊢
  rw [h_override, h_default]
  obtain ⟨h_none, h_unsuspected, _⟩ | h_whole := s.normalized_cases t key
  · -- still a fresh start: what was not suspected to be lost is not so later
    have h_normalized : s'.normalized (t + wait) key = ⟨none, none⟩ := by
      have h_later_unsuspected : s'.client.stateLossSuspected key.id (t + wait) = false := by
        obtain ⟨caches, h_client⟩ := h_leaves.client
        have h_ttl : s'.client.bucketTtlSeconds = s.client.bucketTtlSeconds := by rw [h_client]
        unfold RedisClient.stateLossSuspected at h_unsuspected ⊢
        rw [h_unconfirmed h_none, h_ttl]
        rw [Option.any_eq_false] at h_unsuspected ⊢
        intro confirmedAt h_confirmed
        have h_before := h_unsuspected confirmedAt h_confirmed
        rw [decide_eq_false_iff_not, not_lt] at h_before ⊢
        linarith
      unfold Session.normalized
      rw [h_state, h_none, h_later_unsuspected]
      rfl
    rw [h_none, calculateWithExpiry_none h_time] at h_calculated
    rw [h_normalized, calculateWithExpiry_none h_later]
    injection h_calculated with h_eq
    injection h_eq with h_amount
    refine ⟨_, _, rfl, ?_⟩
    rw [← h_amount]
    exact Grows.of_full _ _ _ (mul_nonneg h_wait h_rate.le)
  · obtain ⟨last, stored, h_whole⟩ := h_whole
    have h_normalized : s'.normalized (t + wait) key = ⟨some last, some stored⟩ := by
      unfold Session.normalized
      rw [h_state, h_whole]
      rfl
    have h_last : last ≤ t := by
      apply h_past last
      rw [h_state, h_whole]
    rw [h_whole, calculateWithExpiry_some _ _ h_time] at h_calculated
    rw [h_normalized, calculateWithExpiry_some _ _ h_later]
    injection h_calculated with h_eq
    injection h_eq with h_amount
    refine ⟨_, _, rfl, _, h_amount.symm, ?_⟩
    rw [accrueWithExpiry_later h_last h_wait h_history h_keeps]
    rfl

/-! ## One attempt under its locks -/

section UnderLocks

variable {usage : FrozenUsage} {reservationId : Option ReservationId} {lifetime : Option ℚ}
  {stack : LockStack} {attempt : LockedAttempt}

/-- What an attempt that is denied has found, while its locks are still held. -/
structure DeniedUnderLocks (s : Session) (currentTime : ℚ) (usage : FrozenUsage)
    (keys : List BucketKey) (capacities : Capacities) (s' : Session) : Prop where
  leaves : ReadLeaves s currentTime keys capacities s'
  covers : usage.keys ⊆ metricNames (idsOf keys)
  limit : ∀ key ∈ keys, ∀ amount, usage.lookup key.id.metric = some amount →
    amount ≤ (limitOf s key).value
  short : usageExceeds usage capacities (keys.map BucketKey.id) = true

theorem time_alone : Alone t (fun now s' => now = t ∧ s' = s) (send .time) s :=
  send_alone fun _ h_time => ⟨h_time, rfl⟩

theorem client_alone : Alone t (fun client s' => client = s.client ∧ s' = s) (send .client) s :=
  send_alone fun _ _ => ⟨rfl, rfl⟩

theorem invokeCallback_alone (slot : CallbackSlot) :
    Alone t (fun _ s' => s' = s) (invokeCallback slot) s := by
  refine client_alone.bind fun client s₁ ⟨_, h_s₁⟩ => ?_
  rw [h_s₁]
  exact Returns.when (fun _ => send_alone fun _ _ => rfl) fun _ => rfl

theorem freshStartBucketsCallback_alone (keys : List BucketKey) :
    Alone t (fun _ s' => s' = s) (freshStartBucketsCallback keys) s := by
  induction keys with
  | nil => exact Returns.pure rfl
  | cons key keys ih =>
    refine (invokeCallback_alone .onMissingConsumptionData).bind fun _ s₁ h_s₁ => ?_
    rw [h_s₁]
    exact ih

/-- The limits an attempt checks are the ones its read has found. -/
theorem ReadLeaves.usageExceeds_limit (h_leaves : ReadLeaves s t keys capacities s') :
    usageExceeds usage (maxCapacities s'.client) (keys.map BucketKey.id) = false ↔
      ∀ key ∈ keys, ∀ amount, usage.lookup key.id.metric = some amount →
        amount ≤ (limitOf s key).value := by
  rw [usageExceeds_eq_false_iff_lookup, List.forall_mem_map]
  refine forall₂_congr fun key h_mem => ?_
  unfold maxCapacities
  rw [h_leaves.maxCapacity h_mem]

theorem attemptUnderLocks_denied (h_nodup : (keys.map BucketKey.id).Nodup) :
    (attemptUnderLocks usage reservationId lifetime keys stack).Leads Session.serve (Turn.Alone t)
      (fun attempt s' => attempt.available = false →
        DeniedUnderLocks s t usage keys attempt.preconsumption s') s := by
  refine time_alone.then fun now s₁ ⟨h_now, h_s₁⟩ => ?_
  rw [h_now, h_s₁]
  refine Follows.bind (getCapacitiesUnsafe_alone h_nodup) (fun read s₂ h_leaves => ?_)
    fun _ _ _ => trivial
  have h_leaves : ReadLeaves s t keys read.capacities s₂ := h_leaves
  refine client_alone.then fun client s₃ ⟨h_client, h_s₃⟩ => ?_
  rw [h_client, h_s₃]
  dsimp only
  split
  · exact Leads.throw
  · rename_i h_covers
    split
    · exact Leads.throw
    · rename_i h_limit
      split
      · rename_i h_short
        refine (freshStartBucketsCallback_alone _).then fun _ s₄ h_s₄ => ?_
        rw [h_s₄]
        refine Leads.pure fun _ => ⟨h_leaves, not_not.mp h_covers, ?_, h_short⟩
        exact h_leaves.usageExceeds_limit.mp (Bool.not_eq_true _ ▸ h_limit)
      · -- an attempt that goes on to write does not end as denied
        refine Leads.bind_any fun _ _ => Leads.bind_any fun _ _ => Leads.bind_any fun written _ =>
          Leads.bind_any fun awaited _ => ?_
        cases written with
        | ok _ =>
          cases awaited with
          | ok _ => exact Leads.pure nofun
          | error _ => exact Leads.pure nofun
        | error _ =>
          cases awaited with
          | ok _ => exact Leads.throw
          | error _ => exact Leads.throw

/-! ### An attempt that writes -/

/-- An amount that is no debt can be retained. -/
theorem capacityTtl_consumed (client : RedisClient) (id : BucketId) (amount : ℚ) :
    client.capacityTtl id (normalizedAmount false amount) none =
      .ok client.bucketTtlSeconds := by
  have h_nonneg : 0 ≤ normalizedAmount false amount := le_max_left 0 amount
  unfold RedisClient.capacityTtl debtTtlSeconds
  rw [if_pos h_nonneg]

theorem stateWrites_consumed (client : RedisClient) (newCapacities : Capacities)
    (keys : List BucketKey) :
    ∃ writes, stateWrites client newCapacities false keys = .ok writes := by
  induction keys with
  | nil => exact ⟨[], rfl⟩
  | cons key keys ih =>
    obtain ⟨writes, h_writes⟩ := ih
    unfold stateWrites
    dsimp only
    rw [capacityTtl_consumed, h_writes]
    exact ⟨_, rfl⟩

theorem queueWrites_alone (newCapacities : Capacities) (keys : List BucketKey) :
    Alone t (fun _ s' => s' = s) (queueWrites newCapacities false keys) s := by
  induction keys with
  | nil => exact Returns.pure rfl
  | cons key keys ih =>
    refine client_alone.bind fun client s₁ ⟨_, h_s₁⟩ => ?_
    rw [h_s₁]
    have h_ttl : Alone t (fun _ s' => s' = s) (Program.lift (client.capacityTtl key.id
        (normalizedAmount false (newCapacities key.id)) none)) s :=
      Returns.lift (capacityTtl_consumed client key.id _) rfl
    refine h_ttl.bind fun _ s₂ h_s₂ => ?_
    rw [h_s₂]
    refine (retainCapacityHistory_alone key).bind fun _ s₃ h_s₃ => ?_
    rw [h_s₃]
    exact ih.bind fun writes s₄ h_s₄ => Returns.pure h_s₄

/-- A new reservation's consumption goes through. -/
theorem writeConsumption_alone {marker : Option (ReservationKey × AcquiredMarker)}
    (newCapacities : Capacities)
    (h_unmarked : ∀ reservation, marker = some reservation →
      s.server.acquired reservation.1 = none ∧ s.server.refundDedup reservation.1 = none) :
    Alone t (fun _ _ => True) (writeConsumption newCapacities keys t false marker) s := by
  cases marker with
  | none =>
    refine (queueWrites_alone newCapacities keys).bind fun writes s₁ _ => ?_
    exact send_alone_bind fun _ _ => send_alone_bind fun _ _ => Returns.pure trivial
  | some reservation =>
    obtain ⟨reservationKey, marker⟩ := reservation
    obtain ⟨h_acquired, h_dedup⟩ := h_unmarked _ rfl
    refine client_alone.bind fun client s₁ ⟨h_client, h_s₁⟩ => ?_
    rw [h_s₁]
    obtain ⟨writes, h_writes⟩ := stateWrites_consumed client newCapacities keys
    have h_lift : Alone t (fun writes' s' => writes' = writes ∧ s' = s)
        (Program.lift (stateWrites client newCapacities false keys)) s :=
      Returns.lift h_writes ⟨rfl, rfl⟩
    refine h_lift.bind fun writes' s₂ ⟨_, h_s₂⟩ => ?_
    rw [h_s₂]
    refine (retainHistories_alone _).bind fun _ s₃ h_s₃ => ?_
    rw [h_s₃]
    have h_script : Alone t (fun status _ => status = .ok)
        (send (.acquireMarkerSetScript reservationKey marker writes' t)) s := by
      refine send_alone fun turn _ => ?_
      show (s.server.acquireMarkerSetScript reservationKey marker writes' t).1 = .ok
      unfold RedisServer.acquireMarkerSetScript
      rw [h_acquired, h_dedup]
      rfl
    refine h_script.attempt.bind fun status s₄ h_status => ?_
    obtain ⟨_, rfl, rfl⟩ := h_status
    exact send_alone_bind fun _ _ => Returns.pure trivial

/-- The marker arguments of a consumption pass their checks. -/
theorem acquiredMarker_ok {client : RedisClient} (h_usage : ∀ metric ∈ usage.keys,
      0 ≤ usage.amount metric)
    (h_lifetime : reservationId.isSome = true → lifetime.any (0 < ·) = true) :
    ∃ marker, acquiredMarker client reservationId lifetime usage keys = .ok marker ∧
      ∀ reservation, marker = some reservation →
        ∃ rid, reservationId = some rid ∧ reservation.1 = client.reservationKey rid := by
  cases reservationId with
  | none => exact ⟨none, rfl, nofun⟩
  | some rid =>
    have h_valid : ¬ ∃ metric ∈ usage.keys, usage.amount metric < 0 :=
      fun ⟨metric, h_mem, h_lt⟩ => not_le.mpr h_lt (h_usage metric h_mem)
    unfold acquiredMarker redisAcquiredMarkerValue
    dsimp only
    rw [if_neg h_valid]
    show ∃ marker, (if lifetime.any (0 < ·) = true then _ else _) = _ ∧ _
    rw [if_pos (h_lifetime rfl)]
    refine ⟨_, rfl, fun reservation h_some => ?_⟩
    cases h_some
    exact ⟨rid, rfl, rfl⟩

/-- An attempt that holds its locks goes through, and consumes if the capacities it reads
    cover the usage. -/
theorem attemptUnderLocks_alone (h_nodup : (keys.map BucketKey.id).Nodup) (h_time : 0 ≤ t)
    (h_holds : s.Holds stack) (h_covers : usage.keys ⊆ metricNames (idsOf keys))
    (h_limit : ∀ key ∈ keys, ∀ amount, usage.lookup key.id.metric = some amount →
      amount ≤ (limitOf s key).value)
    (h_usage : ∀ metric ∈ usage.keys, 0 ≤ usage.amount metric)
    (h_lifetime : reservationId.isSome = true → lifetime.any (0 < ·) = true)
    (h_unmarked : ∀ rid, reservationId = some rid →
      s.server.acquired (s.client.reservationKey rid) = none ∧
        s.server.refundDedup (s.client.reservationKey rid) = none) :
    Alone t (fun attempt _ => attempt.raised = none ∧
        (∀ key ∈ keys, ∃ isFreshStart, s.calculated t key =
          .ok ⟨attempt.preconsumption key.id, isFreshStart⟩) ∧
        (attempt.available = true ↔
          usageExceeds usage attempt.preconsumption (keys.map BucketKey.id) = false))
      (attemptUnderLocks usage reservationId lifetime keys stack) s := by
  refine time_alone.bind fun now s₁ ⟨h_now, h_s₁⟩ => ?_
  rw [h_now, h_s₁]
  refine Follows.bind (getCapacitiesUnsafe_alone h_nodup) (fun read s₂ h_leaves => ?_)
    fun _ _ h_negative => absurd h_time (not_le.mpr h_negative)
  have h_leaves : ReadLeaves s t keys read.capacities s₂ := h_leaves
  refine client_alone.then fun client s₃ ⟨h_client, h_s₃⟩ => ?_
  rw [h_client, h_s₃]
  obtain ⟨caches, h_client₂⟩ := h_leaves.client
  obtain ⟨state, overrideExpiry, h_server₂⟩ := h_leaves.server
  have h_calculated : ∀ key ∈ keys, ∃ isFreshStart, s.calculated t key =
      .ok ⟨read.capacities key.id, isFreshStart⟩ :=
    fun key h_mem => (h_leaves.bucket key h_mem).calculated
  have h_within := h_leaves.usageExceeds_limit.mpr h_limit
  have h_covers : usage.keys ⊆ metricNames (keys.map BucketKey.id).toFinset := h_covers
  dsimp only
  rw [if_neg (not_not.mpr h_covers), if_neg (by rw [h_within]; exact Bool.false_ne_true)]
  -- both gates have been read: the limits let the usage through, the capacities decide
  by_cases h_short : usageExceeds usage read.capacities (keys.map BucketKey.id) = true
  · rw [if_pos h_short]
    refine (freshStartBucketsCallback_alone _).bind fun _ s₄ _ => Returns.pure ⟨rfl, h_calculated, ?_⟩
    rw [h_short]
    exact iff_of_false Bool.false_ne_true nofun
  · rw [if_neg h_short]
    have h_holds₂ : s₂.Holds stack := by
      intro lock h_mem
      rw [h_server₂]
      exact h_holds lock h_mem
    refine (extendLocks_alone h_holds₂).bind fun _ s₄ h_s₄ => ?_
    rw [h_s₄]
    obtain ⟨marker, h_marker, h_key⟩ := @acquiredMarker_ok keys usage reservationId lifetime
      s₂.client h_usage h_lifetime
    have h_lift : Alone t (fun marker' s' => marker' = marker ∧ s' = s₂)
        (Program.lift (acquiredMarker s₂.client reservationId lifetime usage keys)) s₂ :=
      Returns.lift h_marker ⟨rfl, rfl⟩
    refine h_lift.bind fun marker' s₅ ⟨h_marker', h_s₅⟩ => ?_
    rw [h_marker', h_s₅]
    -- the id is unknown to the server, so the marker script goes on to write
    have h_new : ∀ reservation, marker = some reservation →
        s₂.server.acquired reservation.1 = none ∧ s₂.server.refundDedup reservation.1 = none := by
      intro reservation h_some
      obtain ⟨rid, h_rid, h_reservation⟩ := h_key reservation h_some
      rw [h_reservation, h_client₂, h_server₂]
      exact h_unmarked rid h_rid
    refine (writeConsumption_alone _ h_new).attempt.bind fun written s₆ h_written => ?_
    obtain ⟨consumed, rfl, _⟩ := h_written
    have h_suspend : Alone t (fun _ _ => True) (send .suspend) s₆ := send_alone fun _ _ => trivial
    refine h_suspend.attempt.bind fun awaited s₇ h_awaited => ?_
    obtain ⟨_, rfl, _⟩ := h_awaited
    exact Returns.pure ⟨rfl, h_calculated, iff_of_true rfl (Bool.not_eq_true _ ▸ h_short)⟩

end UnderLocks

/-! ## The whole attempt -/

section Check

variable {usage : FrozenUsage} {reservationId : Option ReservationId} {lifetime : Option ℚ}
  {recovering : Bool} {stack : LockStack}

/-- What two sessions share that differ in their locks and drawn tokens only. -/
theorem same_of_unlocked (h_same : s'.unlocked = s.unlocked) :
    s'.client = s.client ∧ s'.server.state = s.server.state ∧
      s'.server.overrideExpiry = s.server.overrideExpiry ∧
      s'.server.acquired = s.server.acquired ∧ s'.server.refundDedup = s.server.refundDedup :=
  ⟨congrArg (fun s => s.client) h_same, congrArg (fun s => s.server.state) h_same,
    congrArg (fun s => s.server.overrideExpiry) h_same,
    congrArg (fun s => s.server.acquired) h_same, congrArg (fun s => s.server.refundDedup) h_same⟩

theorem calculated_of_unlocked (h_same : s'.unlocked = s.unlocked) (currentTime : ℚ)
    (key : BucketKey) : s'.calculated currentTime key = s.calculated currentTime key ∧
      limitOf s' key = limitOf s key := by
  have h_limit : limitOf s'.unlocked key = limitOf s.unlocked key := by rw [h_same]
  exact ⟨congrArg (fun s => s.calculated currentTime key) h_same, h_limit⟩

/-- The locks of a call are taken if they are free, and nothing else changes. -/
theorem lock_alone (h_nodup : keys.Nodup) :
    AloneEnds t (fun result s' => s'.unlocked = s.unlocked ∧
        match result with
        | .ok stack => s'.Holds stack ∧ stack.map Prod.fst = keys
        | .error _ => ∃ key ∈ keys, s.server.locks key ≠ none)
      (lock keys) s := by
  have h_locks : AloneEnds t _ (lockFrom [] keys) s := lockFrom_alone nofun nofun h_nodup
  have h_kept : AloneEnds t (fun _ s' => s'.unlocked = s.unlocked) (lockFrom [] keys) s :=
    (lockFrom_locking keys []).keeps serve_unlocked s
  apply Follows.mono (Follows.and h_locks h_kept)
  rintro result s' ⟨h_result, h_same⟩
  refine ⟨h_same, ?_⟩
  match result with
  | .ok stack => exact ⟨h_result.1, h_result.2.1⟩
  | .error _ => exact h_result

theorem bucketKeys_nodup (client : RedisClient) :
    client.bucketKeys.Nodup ∧ (client.bucketKeys.map BucketKey.id).Nodup := by
  have h_nodup : (client.bucketKeys.map BucketKey.id).Nodup := by
    rw [RedisClient.bucketKeys_ids]
    exact client.nodup
  exact ⟨List.Nodup.of_map _ h_nodup, h_nodup⟩

/-- A cleanup that takes over ends in the exception that set it off, or in its own. -/
theorem refundInterrupted_leads {α : Type} {post : α → Session → Prop} (e : BackendError) :
    (refundInterrupted usage reservationId recovering keys e : RedisProgram α).Leads Session.serve
      (Turn.Alone t) post s := by
  refine Follows.settle (follows_any _ s) fun cleaned s₁ _ => ?_
  split
  · exact Leads.throw
  · exact Leads.throw

/-- Of the ways in which an attempt finishes, one is the denial. -/
theorem finishAttempt_leads (attempt : LockedAttempt) (interruption : Option BackendError) :
    (finishAttempt usage reservationId recovering keys attempt interruption).Leads Session.serve
      (Turn.Alone t) (fun result s' => result.available = false → attempt.available = false ∧
        result = ⟨false, false, attempt.preconsumption, attempt.postconsumption, none, keys⟩ ∧
        s' = s) s := by
  unfold finishAttempt
  split
  · split
    · exact refundInterrupted_leads _
    · exact Leads.throw
  · split
    · rename_i h_unavailable
      exact Leads.pure fun _ => ⟨Bool.not_eq_true _ ▸ h_unavailable, rfl, rfl⟩
    · split
      · exact Leads.pure nofun
      · refine Follows.settle (follows_any _ s) fun called s₁ _ => ?_
        cases called with
        | ok _ => exact Leads.pure nofun
        | error e => exact refundInterrupted_leads e

/-- What a denied attempt leaves: what it found under its locks, which are free again. -/
structure Denied (currentTime : ℚ) (usage : FrozenUsage) (result : CheckResult) (s' : Session) :
    Prop where
  buckets : result.buckets = s'.client.bucketKeys
  free : ∀ key ∈ s'.client.bucketKeys, s'.server.locks key = none
  found : ∃ opened closed, closed.unlocked = s'.unlocked ∧
    DeniedUnderLocks opened currentTime usage s'.client.bucketKeys result.preconsumption closed

theorem check_denied (usage : FrozenUsage) (reservationId : Option ReservationId)
    (lifetime : Option ℚ) (recovering : Bool) (s : Session) :
    (checkAndConsumeCapacity usage reservationId lifetime recovering).Leads Session.serve
      (Turn.Alone t) (fun result s' => result.available = false → Denied t usage result s') s := by
  obtain ⟨h_nodup, h_ids⟩ := bucketKeys_nodup s.client
  refine client_alone.then fun client s₁ ⟨h_client, h_s₁⟩ => ?_
  rw [h_client, h_s₁]
  refine Follows.bind (lock_alone h_nodup) (fun stack s₂ ⟨h_opened, h_holds, h_keys⟩ => ?_)
    fun _ _ _ => trivial
  refine Leads.bind (attemptUnderLocks_denied h_ids).attempt fun attempted s₃ h_attempted => ?_
  cases attempted with
  | error e =>
    refine Leads.bind_any fun released s₄ => ?_
    cases released with
    | ok _ => exact Leads.throw
    | error _ => exact Leads.throw
  | ok attempt =>
    have h_denied := h_attempted attempt rfl
    have h_release : (releaseLocks stack).attempt.Leads Session.serve (Turn.Alone t)
        (fun _ s' => attempt.available = false →
          s'.unlocked = s₃.unlocked ∧ ∀ key ∈ s.client.bucketKeys, s'.server.locks key = none)
        s₃ := by
      by_cases h_available : attempt.available = false
      · obtain ⟨state, overrideExpiry, h_server⟩ := (h_denied h_available).leaves.server
        have h_holds₃ : s₃.Holds stack := by
          intro lock h_mem
          rw [h_server]
          exact h_holds lock h_mem
        have h_freed := (releaseLocks_alone h_holds₃ (h_keys ▸ h_nodup)).keeps
          (releaseLocks_locking stack) (fun turn command s h_good h_allowed =>
            @serve_unlocked t turn command s h_good h_allowed)
        refine h_freed.attempt.leads.mono fun released s₄ ⟨_, _, h_locks, h_same⟩ _ => ?_
        refine ⟨h_same, fun key h_mem => ?_⟩
        rw [h_locks key, h_keys, if_pos h_mem]
      · exact (follows_any _ s₃).mono fun released s₄ _ =>
          match released with
          | .ok _ => fun h => absurd h h_available
          | .error _ => trivial
    refine Leads.bind h_release fun released s₄ h_released => ?_
    have h_finish : ∀ interruption, (finishAttempt usage reservationId recovering
        s.client.bucketKeys attempt interruption).Leads Session.serve (Turn.Alone t)
          (fun result s' => result.available = false → Denied t usage result s') s₄ := by
      intro interruption
      refine (finishAttempt_leads attempt interruption).mono fun result s₅ h_result h_unavailable => ?_
      obtain ⟨h_available, rfl, h_s₅⟩ := h_result h_unavailable
      obtain ⟨h_same, h_free⟩ := h_released h_available
      have h_under := h_denied h_available
      have h_client₄ : s₄.client.bucketKeys = s.client.bucketKeys := by
        obtain ⟨caches, h_client₃⟩ := h_under.leaves.client
        rw [(same_of_unlocked h_same).1, h_client₃, (same_of_unlocked h_opened).1]
        rfl
      rw [h_s₅]
      refine ⟨h_client₄.symm, ?_, s₂, s₃, h_same.symm, ?_⟩
      · rw [h_client₄]
        exact h_free
      · rw [h_client₄]
        exact h_under
    cases released with
    | ok _ => exact h_finish attempt.raised
    | error e => exact h_finish (some e)

/-- The capacities that a read at a time computes. -/
def readCapacities (s : Session) (currentTime : ℚ) : Capacities := fun id =>
  match s.calculated currentTime (s.client.bucketKey id) with
  | .ok calculated => calculated.amount
  | .error _ => 0

theorem readCapacities_ok {id : BucketId} {calculated : CalculatedCapacity}
    (h_ok : s.calculated t (s.client.bucketKey id) = .ok calculated) :
    readCapacities s t id = calculated.amount := by
  unfold readCapacities
  rw [h_ok]

/-- The locks of a stack are released whether they are still held or not. -/
theorem releaseLocks_answered (stack : LockStack) :
    Alone t (fun _ _ => True) (releaseLocks stack) s := by
  induction stack generalizing s with
  | nil => exact Returns.pure trivial
  | cons lock stack ih =>
    refine Returns.ensuring ih fun _ s₁ _ => ?_
    exact send_alone_bind fun _ _ => Returns.pure trivial

theorem consumptionCallbacks_alone (freshStartBuckets : List BucketKey) :
    Alone t (fun _ _ => True) (consumptionCallbacks freshStartBuckets) s := by
  refine (freshStartBucketsCallback_alone freshStartBuckets).bind fun _ s₁ _ => ?_
  exact (invokeCallback_alone .onCapacityConsumed).mono fun _ _ _ => trivial

/-- The attempt after a denied one finds every bucket grown, and is admitted exactly if
    that covers the usage. -/
theorem check_later {result : CheckResult} (recovering : Bool) (h_wait : 0 ≤ wait)
    (h_denied : Denied t usage result s)
    (h_past : ∀ key ∈ s.client.bucketKeys, ∀ last, (s.server.state key).lastChecked = some last →
      last ≤ t)
    (h_keeps : ∀ key ∈ s.client.bucketKeys, ∀ history, s.server.overrideExpiry key = some history →
      history.expiresAt ≤ t ∨ t + wait < history.expiresAt)
    (h_usage : ∀ metric ∈ usage.keys, 0 ≤ usage.amount metric)
    (h_lifetime : reservationId.isSome = true → lifetime.any (0 < ·) = true)
    (h_unmarked : ∀ rid, reservationId = some rid →
      s.server.acquired (s.client.reservationKey rid) = none ∧
        s.server.refundDedup (s.client.reservationKey rid) = none) :
    (∀ id ∈ s.client.sortedBuckets, Grows (s.client.maxCapacity id).value
        (calculateRatePerSec (s.client.maxCapacity id) id) wait (result.preconsumption id)
        (readCapacities s (t + wait) id)) ∧
      Alone (t + wait) (fun result' _ => result'.available = true ↔
          usageExceeds usage (readCapacities s (t + wait)) s.client.sortedBuckets = false)
        (checkAndConsumeCapacity usage reservationId lifetime recovering) s := by
  obtain ⟨h_nodup, h_ids⟩ := bucketKeys_nodup s.client
  obtain ⟨opened, closed, h_closed, h_under⟩ := h_denied.found
  obtain ⟨h_clientClosed, h_stateClosed, h_expiryClosed, _⟩ := same_of_unlocked h_closed
  -- what the next read finds of each bucket
  have h_bucket : ∀ key ∈ s.client.bucketKeys, ∃ later isFreshStart,
      s.calculated (t + wait) key = .ok ⟨later, isFreshStart⟩ ∧
      Grows (s.client.maxCapacity key.id).value
        (calculateRatePerSec (s.client.maxCapacity key.id) key.id) wait
        (result.preconsumption key.id) later := by
    intro key h_mem
    have h_last : ∀ last, (closed.server.state key).lastChecked = some last → last ≤ t := by
      rw [h_stateClosed]
      exact h_past key h_mem
    have h_history : ∀ history, closed.server.overrideExpiry key = some history →
        history.expiresAt ≤ t ∨ t + wait < history.expiresAt := by
      rw [h_expiryClosed]
      exact h_keeps key h_mem
    have h_later := h_under.leaves.calculated_later h_mem h_wait h_last h_history
    rw [(calculated_of_unlocked h_closed (t + wait) key).1, ← h_under.leaves.maxCapacity h_mem,
      h_clientClosed] at h_later
    exact h_later
  have h_time : 0 ≤ t + wait := by
    obtain ⟨id, h_mem, _⟩ := List.any_eq_true.mp h_under.short
    obtain ⟨key, h_mem, _⟩ := List.mem_map.mp h_mem
    obtain ⟨later, isFreshStart, h_calculated, _⟩ := h_bucket key h_mem
    exact Session.time_of_calculated h_calculated
  have h_keyOf : ∀ id ∈ s.client.sortedBuckets, s.client.bucketKey id ∈ s.client.bucketKeys :=
    fun id h_mem => List.mem_map_of_mem h_mem
  constructor
  · intro id h_mem
    obtain ⟨later, isFreshStart, h_calculated, h_grows⟩ := h_bucket _ (h_keyOf id h_mem)
    rw [readCapacities_ok h_calculated]
    exact h_grows
  · refine client_alone.bind fun client s₁ ⟨h_client, h_s₁⟩ => ?_
    rw [h_client, h_s₁]
    refine Follows.bind (lock_alone h_nodup) (fun stack s₂ ⟨h_opened, h_holds, _⟩ => ?_)
      fun e s₂ ⟨_, key, h_mem, h_taken⟩ => absurd (h_denied.free key h_mem) h_taken
    have h_holds : s₂.Holds stack := h_holds
    obtain ⟨h_client₂, _, _, h_acquired₂, h_dedup₂⟩ := same_of_unlocked h_opened
    have h_limit : ∀ key ∈ s.client.bucketKeys, ∀ amount,
        usage.lookup key.id.metric = some amount → amount ≤ (limitOf s₂ key).value := by
      intro key h_mem
      rw [(calculated_of_unlocked h_opened t key).2, ← (calculated_of_unlocked h_closed t key).2,
        (h_under.leaves.override key).2]
      exact h_under.limit key h_mem
    have h_unmarked₂ : ∀ rid, reservationId = some rid →
        s₂.server.acquired (s₂.client.reservationKey rid) = none ∧
          s₂.server.refundDedup (s₂.client.reservationKey rid) = none := by
      rw [h_client₂, h_acquired₂, h_dedup₂]
      exact h_unmarked
    have h_attempt := attemptUnderLocks_alone h_ids h_time h_holds h_under.covers h_limit h_usage
      h_lifetime h_unmarked₂
    refine h_attempt.attempt.then fun attempted s₃ h_attempted => ?_
    obtain ⟨attempt, rfl, h_raised, h_read, h_available⟩ := h_attempted
    refine (releaseLocks_answered stack).attempt.then fun released s₄ h_released => ?_
    obtain ⟨_, rfl, _⟩ := h_released
    -- the attempt has read what the next read finds
    have h_same : ∀ id ∈ s.client.sortedBuckets,
        attempt.preconsumption id = readCapacities s (t + wait) id := by
      intro id h_mem
      obtain ⟨isFreshStart, h_calculated⟩ := h_read _ (h_keyOf id h_mem)
      rw [(calculated_of_unlocked h_opened (t + wait) _).1] at h_calculated
      exact (readCapacities_ok h_calculated).symm
    rw [RedisClient.bucketKeys_ids, usageExceeds_congr h_same] at h_available
    show Follows _ _ (finishAttempt usage reservationId recovering s.client.bucketKeys attempt
      attempt.raised) s₄
    rw [h_raised]
    unfold finishAttempt
    dsimp only
    split
    · rename_i h_unavailable
      rw [← h_available]
      exact Returns.pure (iff_of_false Bool.false_ne_true h_unavailable)
    · rename_i h_admitted
      rw [← h_available]
      have h_admitted : true = true ↔ attempt.available = true :=
        iff_of_true rfl (not_not.mp h_admitted)
      split
      · exact Returns.pure h_admitted
      · exact Returns.settle (consumptionCallbacks_alone _) fun _ _ _ => Returns.pure h_admitted

end Check

end RedisBackend

end TokenThrottle
