/-
  TokenThrottle.Redis.KeyLayout

  The keys of a Redis server are injective: a key joins segments by ':', which the validator
  forbids in each of them, so it says which identity it was built from.

  This is what lets the other modules index a server by `BucketKey` and `ReservationKey`.
-/
import Mathlib
import TokenThrottle.Redis.Keys
import TokenThrottle.Theory.Joined

namespace TokenThrottle

open Theory.Joined (Free)

/-! ## Identities -/

/-- What a Redis key is about. -/
inductive KeyIdentity
  | bucket (key : BucketKey) (role : KeyRole)
  | refundDedup (key : ReservationKey)
  | acquired (key : ReservationKey)
deriving DecidableEq

/-- A segment that the validator has returned, under some bound of its length. -/
def ValidSegment (u : UnicodeTables) (fieldName : KeyField) (segment : String) : Prop :=
  ∃ maxLength value, validateKeySegment u fieldName maxLength value = .ok segment

/-- The identity is made of validated segments. -/
def KeyIdentity.Valid (u : UnicodeTables) : KeyIdentity → Prop
  | .bucket key _ => ValidSegment u .keyPrefix key.keyPrefix ∧
      ValidSegment u .modelFamily key.modelFamily ∧ ValidSegment u .metric key.id.metric
  | .refundDedup key | .acquired key => ValidSegment u .keyPrefix key.keyPrefix ∧
      ValidSegment u .reservationId key.reservationId

/-- The key an identity is stored under. -/
def KeyIdentity.redisKey (u : UnicodeTables) : KeyIdentity → Except KeyError String
  | .bucket key role => redisBucketKey u key role
  | .refundDedup key => redisRefundDedupKey u key
  | .acquired key => redisAcquiredMarkerKey u key

/-- The segments that a key joins. -/
def KeyIdentity.segments : KeyIdentity → List String
  | .bucket key role => key.segments ++ [role.suffix]
  | .refundDedup key => [key.keyPrefix, redisNamespace, "refund_dedup", key.reservationId]
  | .acquired key => [key.keyPrefix, redisNamespace, "acquired", key.reservationId]

/-! ## What the validator returns -/

section Validator

variable {u : UnicodeTables} {fieldName : KeyField} {maxLength : Option ℕ}
  {value segment : String}

theorem of_check_ok {ε α : Type} {refused : Prop} [Decidable refused] {e : ε}
    {rest : Except ε α} {a : α} (h_ok : (if refused then .error e else rest) = .ok a) :
    ¬ refused ∧ rest = .ok a := by
  split at h_ok
  · cases h_ok
  · rename_i h_accepted
    exact ⟨h_accepted, h_ok⟩

/-- A validated segment is a normal form without the separator. -/
theorem validateKeySegment_ok (h_ok : validateKeySegment u fieldName maxLength value = .ok segment) :
    segment = u.normalize value ∧ ':' ∉ segment.toList := by
  unfold validateKeySegment at h_ok
  obtain ⟨_, h_ok⟩ := of_check_ok h_ok
  obtain ⟨_, h_ok⟩ := of_check_ok h_ok
  obtain ⟨_, h_ok⟩ := of_check_ok h_ok
  obtain ⟨_, h_ok⟩ := of_check_ok h_ok
  obtain ⟨_, h_ok⟩ := of_check_ok h_ok
  obtain ⟨_, h_ok⟩ := of_check_ok h_ok
  obtain ⟨_, h_ok⟩ := of_check_ok h_ok
  obtain ⟨h_separator, h_ok⟩ := of_check_ok h_ok
  obtain ⟨_, h_ok⟩ := of_check_ok h_ok
  cases h_ok
  exact ⟨rfl, h_separator⟩

theorem ValidSegment.normalized (h_valid : ValidSegment u fieldName segment) :
    u.normalize segment = segment := by
  obtain ⟨maxLength, value, h_ok⟩ := h_valid
  rw [(validateKeySegment_ok h_ok).1]
  exact u.normalize_normalize value

theorem ValidSegment.free (h_valid : ValidSegment u fieldName segment) :
    ':' ∉ segment.toList := by
  obtain ⟨maxLength, value, h_ok⟩ := h_valid
  exact (validateKeySegment_ok h_ok).2

/-- Validating a validated segment again changes nothing. -/
theorem ValidSegment.again (h_valid : ValidSegment u fieldName segment)
    {fieldName' : KeyField} {segment' : String}
    (h_ok : validateKeySegment u fieldName' maxLength segment = .ok segment') :
    segment' = segment := by
  rw [(validateKeySegment_ok h_ok).1]
  exact h_valid.normalized

theorem validateTotalKeyLength_ok (h_ok : validateTotalKeyLength value = .ok segment) :
    segment = value := by
  unfold validateTotalKeyLength at h_ok
  split at h_ok
  · cases h_ok
  · cases h_ok
    rfl

end Validator

/-! ## What the builders return -/

section Builders

variable {u : UnicodeTables} {key : BucketKey} {built : String}

/-- A key under a validated prefix is the join of its segments. -/
theorem redisNamespaceKey_ok {keyPrefix : String} {segments : List String}
    (h_keyPrefix : ValidSegment u .keyPrefix keyPrefix)
    (h_ok : redisNamespaceKey u keyPrefix segments = .ok built) :
    built = ":".intercalate (keyPrefix :: redisNamespace :: segments) := by
  obtain ⟨keyPrefix', h_again, h_ok⟩ := bind_eq_ok h_ok
  rw [h_keyPrefix.again h_again] at h_ok
  exact validateTotalKeyLength_ok h_ok

/-- `full_redis_key` is what `redis_namespace_key` makes of a validated bucket. -/
theorem redisBucketKey_ok {role : KeyRole} (h_keyPrefix : ValidSegment u .keyPrefix key.keyPrefix)
    (h_ok : redisBucketKey u key role = .ok built) :
    built = ":".intercalate (key.segments ++ [role.suffix]) := by
  obtain ⟨full, h_full, h_ok⟩ := bind_eq_ok h_ok
  have h_full : full = ":".intercalate key.segments := redisNamespaceKey_ok h_keyPrefix h_full
  have h_built := validateTotalKeyLength_ok h_ok
  rw [h_built, h_full]
  -- a suffix joined to a join is one join
  have h_some : key.segments ≠ [] := List.cons_ne_nil _ _
  rw [String.intercalate_cons_of_ne_nil (List.cons_ne_nil _ _),
    String.intercalate_append_of_ne_nil h_some (List.cons_ne_nil _ _)]

theorem redisReservationKey_ok {keyPrefix reservationId kind : String}
    (h_keyPrefix : ValidSegment u .keyPrefix keyPrefix)
    (h_id : ValidSegment u .reservationId reservationId)
    (h_ok : (do
      let reservationId ← validateReservationId u reservationId
      redisNamespaceKey u keyPrefix [kind, reservationId]) = .ok built) :
    built = ":".intercalate [keyPrefix, redisNamespace, kind, reservationId] := by
  obtain ⟨reservationId', h_again, h_ok⟩ := bind_eq_ok h_ok
  rw [h_id.again h_again] at h_ok
  exact redisNamespaceKey_ok h_keyPrefix h_ok

theorem KeyIdentity.redisKey_ok {identity : KeyIdentity} (h_valid : identity.Valid u)
    (h_ok : identity.redisKey u = .ok built) : built = ":".intercalate identity.segments := by
  cases identity with
  | bucket key role => exact redisBucketKey_ok h_valid.1 h_ok
  | refundDedup key => exact redisReservationKey_ok h_valid.1 h_valid.2 h_ok
  | acquired key => exact redisReservationKey_ok h_valid.1 h_valid.2 h_ok

end Builders

/-! ## Injectivity -/

theorem repr_free (n : ℕ) : ':' ∉ n.repr.toList := by
  intro h_mem
  have h_digit : ':'.isDigit = true := by
    rw [Nat.toList_repr] at h_mem
    exact Nat.isDigit_of_mem_toDigits (by omega) (by omega) h_mem
  cases h_digit

theorem KeyIdentity.segments_free {u : UnicodeTables} {identity : KeyIdentity}
    (h_valid : identity.Valid u) : Free ':' identity.segments := by
  have h_fixed : ∀ text ∈ [redisNamespace, "bucket", "refund_dedup", "acquired"],
      ':' ∉ text.toList := by decide
  cases identity with
  | bucket key role =>
    obtain ⟨h_keyPrefix, h_family, h_metric⟩ := h_valid
    have h_suffix : ':' ∉ role.suffix.toList := by
      cases role <;> decide
    exact .cons h_keyPrefix.free (.cons (h_fixed _ (by simp)) (.cons (h_fixed _ (by simp))
      (.cons h_family.free (.cons h_metric.free (.cons (repr_free _)
        (.cons h_suffix Theory.Joined.free_nil))))))
  | refundDedup key =>
    obtain ⟨h_keyPrefix, h_id⟩ := h_valid
    exact .cons h_keyPrefix.free (.cons (h_fixed _ (by simp)) (.cons (h_fixed _ (by simp))
      (.cons h_id.free Theory.Joined.free_nil)))
  | acquired key =>
    obtain ⟨h_keyPrefix, h_id⟩ := h_valid
    exact .cons h_keyPrefix.free (.cons (h_fixed _ (by simp)) (.cons (h_fixed _ (by simp))
      (.cons h_id.free Theory.Joined.free_nil)))

theorem KeyRole.suffix_injective : Function.Injective KeyRole.suffix := by
  intro role role' h_suffix
  cases role <;> cases role' <;> first | rfl | exact absurd h_suffix (by decide)

theorem BucketKey.segments_injective : Function.Injective BucketKey.segments := by
  rintro ⟨keyPrefix, modelFamily, id⟩ ⟨keyPrefix', modelFamily', id'⟩ h_segments
  obtain ⟨metric, perSeconds, _⟩ := id
  obtain ⟨metric', perSeconds', _⟩ := id'
  unfold segments at h_segments
  simp only [List.cons.injEq, Nat.repr_inj, and_true, true_and] at h_segments
  obtain ⟨rfl, rfl, rfl, rfl⟩ := h_segments
  rfl

/-- `full_redis_key` says which bucket it is of. -/
theorem BucketKey.fullRedisKey_inj {u : UnicodeTables} {key key' : BucketKey} {role : KeyRole}
    (h_valid : (KeyIdentity.bucket key role).Valid u)
    (h_valid' : (KeyIdentity.bucket key' role).Valid u)
    (h_full : key.fullRedisKey = key'.fullRedisKey) : key = key' := by
  have h_free : ∀ {key : BucketKey}, (KeyIdentity.bucket key role).Valid u →
      Free ':' key.segments := by
    intro key h_valid text h_mem
    exact KeyIdentity.segments_free h_valid text (List.mem_append_left _ h_mem)
  apply BucketKey.segments_injective
  exact Theory.Joined.joined_injective (h_free h_valid) (h_free h_valid') (List.cons_ne_nil _ _)
    (List.cons_ne_nil _ _) h_full

/-- The segments say which identity they are of: the third names the kind of key. -/
theorem KeyIdentity.segments_injective : Function.Injective KeyIdentity.segments := by
  have h_reservation : ∀ {kind : String} {key key' : ReservationKey},
      [key.keyPrefix, redisNamespace, kind, key.reservationId] =
        [key'.keyPrefix, redisNamespace, kind, key'.reservationId] → key = key' := by
    rintro kind ⟨keyPrefix, reservationId⟩ ⟨keyPrefix', reservationId'⟩ h_segments
    simp only [List.cons.injEq, and_true, true_and] at h_segments
    obtain ⟨rfl, rfl⟩ := h_segments
    rfl
  intro identity identity' h_segments
  have h_kind := congrArg (·[2]?) h_segments
  cases identity with
  | bucket key role =>
    cases identity' with
    | bucket key' role' =>
      obtain ⟨h_key, h_role⟩ := List.append_inj' h_segments rfl
      rw [BucketKey.segments_injective h_key,
        KeyRole.suffix_injective (List.singleton_injective h_role)]
    | refundDedup key' => exact absurd (Option.some.inj h_kind) (by decide)
    | acquired key' => exact absurd (Option.some.inj h_kind) (by decide)
  | refundDedup key =>
    cases identity' with
    | bucket key' role' => exact absurd (Option.some.inj h_kind) (by decide)
    | refundDedup key' => rw [h_reservation h_segments]
    | acquired key' => exact absurd (Option.some.inj h_kind) (by decide)
  | acquired key =>
    cases identity' with
    | bucket key' role' => exact absurd (Option.some.inj h_kind) (by decide)
    | refundDedup key' => exact absurd (Option.some.inj h_kind) (by decide)
    | acquired key' => rw [h_reservation h_segments]

/-- Distinct identities are stored under distinct keys. -/
theorem redisKey_ne {u : UnicodeTables} {identity identity' : KeyIdentity} {key key' : String}
    (h_valid : identity.Valid u) (h_valid' : identity'.Valid u) (h_ne : identity ≠ identity')
    (h_key : identity.redisKey u = .ok key) (h_key' : identity'.redisKey u = .ok key') :
    key ≠ key' := by
  intro h_eq
  have h_nonempty : ∀ identity : KeyIdentity, identity.segments ≠ [] := by
    intro identity
    cases identity <;> exact List.cons_ne_nil _ _
  rw [KeyIdentity.redisKey_ok h_valid h_key, KeyIdentity.redisKey_ok h_valid' h_key'] at h_eq
  apply h_ne
  apply KeyIdentity.segments_injective
  exact Theory.Joined.joined_injective (KeyIdentity.segments_free h_valid)
    (KeyIdentity.segments_free h_valid') (h_nonempty identity) (h_nonempty identity') h_eq

/-- The tables of the example, right for ASCII. -/
def asciiTables : UnicodeTables where
  normalize value := value
  normalize_normalize _ := rfl
  isSpace char := char.isWhitespace
  isControl char := char.toNat < 32 || char.toNat = 127
  isPrintable char := 32 ≤ char.toNat && char.toNat < 127

/-- A metric named like the record of a marker does not collide with the marker. -/
theorem redisKey_ne_acquiredMetric :
    (KeyIdentity.bucket ⟨"p", "m", ⟨"acquired", 60, by decide⟩⟩ .capacity).redisKey asciiTables =
        .ok "p:rate_limiting:bucket:m:acquired:60:capacity" ∧
      (KeyIdentity.acquired ⟨"p", "m"⟩).redisKey asciiTables = .ok "p:rate_limiting:acquired:m" ∧
      "p:rate_limiting:bucket:m:acquired:60:capacity" ≠ "p:rate_limiting:acquired:m" := by
  have h_bucket : (KeyIdentity.bucket ⟨"p", "m", ⟨"acquired", 60, by decide⟩⟩ .capacity).redisKey
      asciiTables = .ok "p:rate_limiting:bucket:m:acquired:60:capacity" := by decide +kernel
  have h_marker : (KeyIdentity.acquired ⟨"p", "m"⟩).redisKey asciiTables =
      .ok "p:rate_limiting:acquired:m" := by decide +kernel
  have h_p : ValidSegment asciiTables .keyPrefix "p" := ⟨none, "p", by decide +kernel⟩
  have h_m : ValidSegment asciiTables .modelFamily "m" := ⟨none, "m", by decide +kernel⟩
  have h_metric : ValidSegment asciiTables .metric "acquired" :=
    ⟨none, "acquired", by decide +kernel⟩
  have h_id : ValidSegment asciiTables .reservationId "m" := ⟨none, "m", by decide +kernel⟩
  have h_ne : KeyIdentity.bucket ⟨"p", "m", ⟨"acquired", 60, by decide⟩⟩ .capacity ≠
      .acquired ⟨"p", "m"⟩ := by decide
  have h_valid : (KeyIdentity.bucket ⟨"p", "m", ⟨"acquired", 60, by decide⟩⟩ .capacity).Valid
      asciiTables := ⟨h_p, h_m, h_metric⟩
  have h_valid' : (KeyIdentity.acquired ⟨"p", "m"⟩).Valid asciiTables := ⟨h_p, h_id⟩
  exact ⟨h_bucket, h_marker, redisKey_ne h_valid h_valid' h_ne h_bucket h_marker⟩

end TokenThrottle
