/-
  TokenThrottle.Limiter.Config

  What a limiter knows of a model's configuration: its family, its quotas, the
  signature that models of one family compare, and the caps on identifiers.

  * `UsageQuotas` keeps one limit for each metric and window, so a configuration
    is a dictionary from bucket ids to limits; it is unlimited when empty.
  * The errors of the limiter carry what a caller can tell apart; the numbers
    their texts interpolate are arguments of the call.
-/
import TokenThrottle.Capacity
import TokenThrottle.Theory.Dict

namespace TokenThrottle

open Theory (Dict)

abbrev ModelName := String

abbrev ModelFamily := String

/-! ## Errors -/

/-- What a `CardinalityLimitExceededError` says was exceeded. -/
inductive CardinalityCap
  | maxAliasLength
  | maxModelFamilyLength
  | maxMetricLength
  | maxMetricsPerFamily
  | maxModelFamilies
  | maxAliases
deriving DecidableEq

/-- The exceptions a limiter raises on its own account; `configGetter` is whatever
    the user's callable raised. -/
inductive LimiterError
  | cardinalityLimitExceeded (cap : CardinalityCap)
  | modelFamilyChanged
  | inconsistentConfig
  | configGetter
deriving DecidableEq

/-! ## Configurations -/

/-- `_quotas_snapshot`: the limit of each `(metric, per_seconds)`. -/
abbrev QuotasSnapshot := Dict BucketId MaxCapacity

structure PerModelConfig where
  modelFamily : ModelFamily
  quotas : QuotasSnapshot

namespace PerModelConfig

def isUnlimited (cfg : PerModelConfig) : Bool := cfg.quotas.keys = ∅

/-- `{quota.metric for quota in limit_config.quotas}` -/
def metrics (cfg : PerModelConfig) : Finset String := metricNames cfg.quotas.keys

end PerModelConfig

/-- `PerModelConfigGetter`: the user's callable, which may raise. -/
abbrev ConfigGetter := ModelName → Except LimiterError PerModelConfig

/-- What `_config_signature` returns. -/
structure ConfigSignature where
  isUnlimited : Bool
  snapshot : QuotasSnapshot
deriving DecidableEq

/-- `_config_signature`; the sorted tuple of the quotas is equal for two
    configurations exactly when the dictionaries are. -/
def configSignature (cfg : PerModelConfig) : ConfigSignature :=
  if cfg.isUnlimited then ⟨true, .empty⟩ else ⟨false, cfg.quotas⟩

/-! ## Caps -/

/-- The caps a limiter is constructed with. -/
structure Caps where
  maxAliasLength : ℕ
  maxModelFamilyLength : ℕ
  maxMetricLength : ℕ
  maxMetricsPerFamily : ℕ
  maxModelFamilies : ℕ
  maxAliases : ℕ

/-- `_enforce_resolved_config_caps` -/
def Caps.enforceResolvedConfigCaps (caps : Caps) (model : ModelName) (cfg : PerModelConfig) :
    Except LimiterError Unit :=
  if caps.maxAliasLength < model.length then
    .error (.cardinalityLimitExceeded .maxAliasLength)
  else if caps.maxModelFamilyLength < cfg.modelFamily.length then
    .error (.cardinalityLimitExceeded .maxModelFamilyLength)
  else if ∃ metric ∈ cfg.metrics, caps.maxMetricLength < metric.length then
    .error (.cardinalityLimitExceeded .maxMetricLength)
  else if caps.maxMetricsPerFamily < cfg.metrics.card then
    .error (.cardinalityLimitExceeded .maxMetricsPerFamily)
  else
    .ok ()

/-! ## Exceptions -/

/-- The classes of `Exception` that some handler of the limiter tells apart. -/
inductive ExceptionKind
  | valueError
  | typeError
  | assertionError
  | runtimeError
  | runtimeWarning
  | redisError
  | duplicateRefund
  /-- `UnknownReservationError`; the flag is `_unknown_reservation_should_forget_in_flight`. -/
  | unknownReservation (forgetsInFlight : Bool)
  | other
deriving DecidableEq

/-- What a handler can catch. -/
inductive PyException
  | exception (kind : ExceptionKind)
  | memoryError
  | recursionError
  /-- `concurrent.futures.CancelledError`, an `Exception`. -/
  | futuresCancelledError
  | cancelledError
  | keyboardInterrupt
  | systemExit
  | generatorExit
  /-- Any other `BaseException`. -/
  | baseException
  | group (members : List PyException)

namespace PyException

mutual

/-- `isinstance(exc, Exception)`; a group is one when all its members are. -/
def isException : PyException → Bool
  | exception _ | memoryError | recursionError | futuresCancelledError => true
  | cancelledError | keyboardInterrupt | systemExit | generatorExit | baseException => false
  | group members => allExceptions members

def allExceptions : List PyException → Bool
  | [] => true
  | e :: members => e.isException && allExceptions members

end

mutual

/-- In `LIFECYCLE_CALLBACK_CRITICAL_EXCEPTIONS`, or a group that contains one of them. -/
def isCritical : PyException → Bool
  | exception _ | baseException => false
  | memoryError | recursionError | futuresCancelledError | cancelledError | keyboardInterrupt
  | systemExit | generatorExit => true
  | group members => containsCritical members

/-- `_exception_group_contains_critical` -/
def containsCritical : List PyException → Bool
  | [] => false
  | e :: members => e.isCritical || containsCritical members

end

/-- What the last lines of the handler raise: `_raise_backend_external_error` of an
    `Exception`, which wraps a Redis error in a `RuntimeError`. -/
def external : PyException → PyException
  | exception .redisError => exception .runtimeError
  | e => e

end PyException

end TokenThrottle
