/-
  TokenThrottle.Redis.Keys

  The Redis keys of `_redis/_keys.py` and of `RedisBucket.__init__`, with
  `_validate_key_segment` of `_interfaces/_models.py`.

  * The other modules index a server by `BucketKey` and `ReservationKey`; here these
    identities get the strings that their values are stored under.
  * `UnicodeTables` stands for `unicodedata` and the predicates of `str`.  A value that is no
    `str` is refused before anything modelled here.
-/
import TokenThrottle.Persistence

namespace TokenThrottle

/-! ## Segments -/

/-- What the validator asks of Unicode. -/
structure UnicodeTables where
  /-- `unicodedata.normalize("NFC", value)` -/
  normalize : String → String
  normalize_normalize : ∀ value, normalize (normalize value) = normalize value
  isSpace : Char → Bool
  /-- `unicodedata.category(char).startswith("C")` -/
  isControl : Char → Bool
  isPrintable : Char → Bool

/-- What a key or a segment of one is refused for. -/
inductive KeyError
  | empty
  | tooLong (maxLength length : ℕ)
  | whitespaceOnly
  | surroundingWhitespace
  | whitespace
  | controlCharacter
  | notPrintable
  | separator
  | hashTag
deriving DecidableEq

inductive KeyField
  | metric
  | bucketIdMetric
  | modelFamily
  | modelName
  | alias
  | keyPrefix
  | reservationId
deriving DecidableEq

def maxModelFamilyLength : ℕ := 256
def maxMetricLength : ℕ := 64
def maxAliasLength : ℕ := 256
def maxKeyPrefixLength : ℕ := 128
def maxReservationIdLength : ℕ := 128
def maxTotalKeyLength : ℕ := 8192

/-- `_default_max_length_for_field` -/
def defaultMaxLengthForField : KeyField → ℕ
  | .metric | .bucketIdMetric => maxMetricLength
  | .modelFamily => maxModelFamilyLength
  | .modelName | .alias => maxAliasLength
  | .keyPrefix => maxKeyPrefixLength
  | .reservationId => maxReservationIdLength

/-- `str.strip` -/
def UnicodeTables.strip (u : UnicodeTables) (value : String) : String :=
  String.ofList ((value.toList.dropWhile u.isSpace).reverse.dropWhile u.isSpace).reverse

/-- `_validate_key_segment` -/
def validateKeySegment (u : UnicodeTables) (fieldName : KeyField) (maxLength : Option ℕ)
    (value : String) : Except KeyError String :=
  if value = "" then .error .empty
  else
    let normalized := u.normalize value
    let maxLength := maxLength.getD (defaultMaxLengthForField fieldName)
    if maxLength < normalized.length then .error (.tooLong maxLength normalized.length)
    else if u.strip normalized = "" then .error .whitespaceOnly
    else if normalized ≠ u.strip normalized then .error .surroundingWhitespace
    else if normalized.toList.any u.isSpace then .error .whitespace
    else if normalized.toList.any u.isControl then .error .controlCharacter
    else if normalized.toList.any (!u.isPrintable ·) then .error .notPrintable
    else if ':' ∈ normalized.toList then .error .separator
    else if '{' ∈ normalized.toList ∨ '}' ∈ normalized.toList then .error .hashTag
    else .ok normalized

/-- `_validate_key_prefix` -/
def validateKeyPrefix (u : UnicodeTables) (value : String) : Except KeyError String :=
  validateKeySegment u .keyPrefix (some maxKeyPrefixLength) value

/-- `_validate_reservation_id` -/
def validateReservationId (u : UnicodeTables) (value : String) : Except KeyError String :=
  validateKeySegment u .reservationId (some maxReservationIdLength) value

/-- `_validate_total_key_length` -/
def validateTotalKeyLength (key : String) : Except KeyError String :=
  if maxTotalKeyLength < key.length then .error (.tooLong maxTotalKeyLength key.length)
  else .ok key

/-! ## Keys -/

/-- `_REDIS_NAMESPACE` -/
def redisNamespace : String := "rate_limiting"

/-- `redis_namespace_key` -/
def redisNamespaceKey (u : UnicodeTables) (keyPrefix : String) (segments : List String) :
    Except KeyError String := do
  let keyPrefix ← validateKeyPrefix u keyPrefix
  validateTotalKeyLength (":".intercalate (keyPrefix :: redisNamespace :: segments))

/-- `redis_key_with_suffix` -/
def redisKeyWithSuffix (key : String) (suffixes : List String) : Except KeyError String :=
  validateTotalKeyLength (":".intercalate (key :: suffixes))

/-- `redis_refund_dedup_key` -/
def redisRefundDedupKey (u : UnicodeTables) (key : ReservationKey) : Except KeyError String := do
  let reservationId ← validateReservationId u key.reservationId
  redisNamespaceKey u key.keyPrefix ["refund_dedup", reservationId]

/-- `redis_acquired_marker_key` -/
def redisAcquiredMarkerKey (u : UnicodeTables) (key : ReservationKey) :
    Except KeyError String := do
  let reservationId ← validateReservationId u key.reservationId
  redisNamespaceKey u key.keyPrefix ["acquired", reservationId]

/-- The keys of a bucket, by what they hold. -/
inductive KeyRole
  | lastChecked
  | capacity
  | lock
  | maxCapacityOverride
  | overrideExpiry
deriving DecidableEq

def KeyRole.suffix : KeyRole → String
  | .lastChecked => "last_checked"
  | .capacity => "capacity"
  | .lock => "lock"
  | .maxCapacityOverride => "max_capacity_override"
  | .overrideExpiry => "override_expiry"

/-- The segments of `full_redis_key`. -/
def BucketKey.segments (key : BucketKey) : List String :=
  [key.keyPrefix, redisNamespace, "bucket", key.modelFamily, key.id.metric,
    key.id.perSeconds.repr]

/-- `full_redis_key`, of a bucket whose segments were validated. -/
def BucketKey.fullRedisKey (key : BucketKey) : String := ":".intercalate key.segments

/-- A key of `RedisBucket.__init__`. -/
def redisBucketKey (u : UnicodeTables) (key : BucketKey) (role : KeyRole) :
    Except KeyError String := do
  let fullRedisKey ← redisNamespaceKey u key.keyPrefix
    ["bucket", key.modelFamily, key.id.metric, key.id.perSeconds.repr]
  redisKeyWithSuffix fullRedisKey [role.suffix]

end TokenThrottle
