/-
  TokenThrottle.Redis.Discipline

  The discipline every operation of the Redis backend keeps, whatever the server
  answers: it writes only buckets whose state it has read since it took its locks,
  and once an ownership check has failed it changes nothing any more.

  * `CallView` is what a call knows of the buckets from the answers it got.
  * `discipline` says which commands a call may issue in a view.  Only a rebuild may
    check its locks again after it has changed something.
  * One lemma for each function of the backend, in the order of `Redis.Backend`; the
    lost-update and contention results read the discipline off a call's trace.
-/
import TokenThrottle.Redis.Backend

namespace TokenThrottle

open Theory (Program Protocol)
open Theory.Program

/-! ## Commands that write -/

/-- The bucket states a command writes, and the timestamp they get. -/
def Command.bucketWrites : Command → List (BucketKey × ℚ) × ℚ
  | .repairStates keys currentTime => (keys.map fun key => (key, 0), currentTime)
  | .setStates writes currentTime _ => (writes, currentTime)
  | .acquireMarkerSetScript _ _ writes currentTime => (writes, currentTime)
  | .refundWithMarkerScript _ _ _ writes currentTime => (writes, currentTime)
  | _ => ([], 0)

/-- What a list of writes leaves in a bucket: the last of them counts. -/
def writtenFields (currentTime : ℚ) : List (BucketKey × ℚ) → BucketKey → Option BucketFields
  | [], _ => none
  | write :: writes, key =>
    writtenFields currentTime writes key <|>
      if write.1 = key then some ⟨some currentTime, some write.2⟩ else none

/-- The commands that change what a retry would find: everything but locks, expiries
    and the repair of lost state. -/
def Command.mutates : Command → Bool
  | .setStates _ _ _ | .acquireMarkerSetScript _ _ _ _ | .refundWithMarkerScript _ _ _ _ _
  | .setOverride _ _ _ | .deleteOverride _ | .setConfiguredMaxCapacity _ _
  | .installReconfiguredState _ => true
  | _ => false

namespace RedisBackend

/-! ## What a call knows -/

/-- How far a call is: nothing changed yet, something changed, or a lock was refused
    or lost. -/
inductive Stage
  | clean
  | written
  | refused
deriving DecidableEq

structure CallView where
  stack : LockStack
  drawn : Option Token
  basis : BucketKey → Option BucketFields
  stage : Stage

namespace CallView

/-- The view of a call that has not begun. -/
def start : CallView where
  stack := []
  drawn := none
  basis _ := none
  stage := .clean

/-- After a read of some buckets. -/
def learn (view : CallView) (keys : List BucketKey) (fields : BucketKey → BucketFields) :
    CallView :=
  { view with basis := fun key => if key ∈ keys then some (fields key) else view.basis key }

/-- After a write of some buckets. -/
def wrote (view : CallView) (writes : List (BucketKey × ℚ)) (currentTime : ℚ) : CallView :=
  { view with basis := fun key => writtenFields currentTime writes key <|> view.basis key }

def withStage (view : CallView) (stage : Stage) : CallView := { view with stage := stage }

/-- After an ownership check. -/
def checked (view : CallView) (owned : Bool) : CallView :=
  if owned then view else view.withStage .refused

def observe (view : CallView) : (command : Command) → command.Response → CallView
  | .uuid, token => { view with drawn := some token }
  | .acquireLock key token, acquired =>
    if acquired then
      { view with
        drawn := none
        stack := view.stack ++ [(key, token)]
        basis := Function.update view.basis key none }
    else { view with drawn := none, stage := .refused }
  | .reacquireLock _ _, owned => view.checked owned
  -- what was read under a lock says nothing once it is released
  | .releaseLock key token, _ =>
    { view with
      stack := view.stack.filter (· ≠ (key, token))
      basis := Function.update view.basis key none }
  | .readBuckets keys, results => view.learn keys fun key => (results key).1
  | .readState key, fields => view.learn [key] fun _ => fields
  | .repairStates keys currentTime, _ =>
    view.wrote (keys.map fun key => (key, 0)) currentTime
  | .setStates writes currentTime _, _ => (view.wrote writes currentTime).withStage .written
  | .acquireMarkerSetScript _ _ writes currentTime, status =>
    if status = .ok then (view.wrote writes currentTime).withStage .written else view
  | .refundWithMarkerScript _ _ _ writes currentTime, status =>
    if status = .ok then (view.wrote writes currentTime).withStage .written else view
  | .setOverride _ _ _, _ | .deleteOverride _, _ | .setConfiguredMaxCapacity _ _, _
  | .installReconfiguredState _, _ => view.withStage .written
  | _, _ => view

/-- The state of the bucket was read under the locks of the call. -/
def ready (view : CallView) (key : BucketKey) : Prop := (view.basis key).isSome = true

/-- Whether the locks may be checked: a rebuild checks them between its commits. -/
def mayCheck (rebuild : Bool) (view : CallView) : Prop :=
  view.stage = .clean ∨ (view.stage = .written ∧ rebuild = true)

end CallView

/-- What a call may issue. -/
def permits (rebuild : Bool) (view : CallView) (command : Command) : Prop :=
  match command with
  | .acquireLock _ token => view.drawn = some token ∧ view.stage = .clean
  | .reacquireLock _ _ => view.mayCheck rebuild
  | command =>
    (∀ write ∈ command.bucketWrites.1, view.ready write.1) ∧
      (command.mutates = true → view.stage ≠ .refused)

/-- The discipline of a call all of whose commands are answered. -/
def discipline (rebuild : Bool) : Protocol Command Command.Response BackendError CallView :=
  .answering BackendError (permits rebuild) CallView.observe

/-! ## Outcomes of a part of a call -/

section Outcomes

variable {α : Type}

/-- A call that ends by contention. -/
def Contended (result : Except BackendError α) : Prop :=
  match result with
  | .ok _ => False
  | .error e => isContention e = true

/-- Nothing was lost: the locks, the stage and what was read are still there. -/
structure Kept (view view' : CallView) : Prop where
  stack : view'.stack = view.stack
  stage : view'.stage = view.stage
  ready : ∀ key, view.ready key → view'.ready key

/-- A part of a call that leaves its view as good as it was. -/
def Quiet (view : CallView) (result : Except BackendError α) (view' : CallView) : Prop :=
  Kept view view' ∧ ¬ Contended result

/-- A part of a call that may have changed something. -/
structure Settled (view : CallView) (result : Except BackendError α) (view' : CallView) :
    Prop where
  stage : view'.stage ≠ .refused
  ready : ∀ key, view.ready key → view'.ready key
  calm : ¬ Contended result

/-- An ownership check: it passes and leaves the view as good as it was, or it ends the
    call by contention. -/
def Checked (view : CallView) (result : Except BackendError α) (view' : CallView) : Prop :=
  match result with
  | .ok _ => Kept view view'
  | .error e => isContention e = true ∧ view'.stage = .refused

/-- An acquisition of locks by a call that has changed nothing. -/
def Taken (result : Except BackendError α) (view' : CallView) : Prop :=
  match result with
  | .ok _ => view'.stage = .clean
  | .error e => isContention e = true ∧ view'.stage = .refused

/-- A call ends by contention exactly when a lock was refused or lost. -/
def Accounted (result : Except BackendError α) (view' : CallView) : Prop :=
  Contended result ↔ view'.stage = .refused

theorem Kept.refl (view : CallView) : Kept view view := ⟨rfl, rfl, fun _ h => h⟩

theorem Kept.trans {view view' view'' : CallView} (h_first : Kept view view')
    (h_then : Kept view' view'') : Kept view view'' :=
  ⟨h_then.stack.trans h_first.stack, h_then.stage.trans h_first.stage,
    fun key h => h_then.ready key (h_first.ready key h)⟩

theorem Settled.accounted {result : Except BackendError α} {view view' : CallView}
    (h_settled : Settled view result view') : Accounted result view' :=
  ⟨fun h => absurd h h_settled.calm, fun h => absurd h h_settled.stage⟩

theorem Quiet.settled {result : Except BackendError α} {view view' : CallView}
    (h_quiet : Quiet view result view') (h_stage : view.stage ≠ .refused) :
    Settled view result view' :=
  ⟨h_quiet.1.stage ▸ h_stage, h_quiet.1.ready, h_quiet.2⟩

theorem Settled.after {result : Except BackendError α} {view view' view'' : CallView}
    (h_ready : ∀ key, view.ready key → view'.ready key)
    (h_settled : Settled view' result view'') : Settled view result view'' :=
  ⟨h_settled.stage, fun key h => h_settled.ready key (h_ready key h), h_settled.calm⟩

theorem not_contended_ok (a : α) : ¬ Contended (.ok a : Except BackendError α) := id

end Outcomes

/-! ## How the view moves -/

section Views

variable {view : CallView}

@[simp] theorem withStage_stack (stage : Stage) : (view.withStage stage).stack = view.stack := rfl

@[simp] theorem withStage_stage (stage : Stage) : (view.withStage stage).stage = stage := rfl

@[simp] theorem wrote_stage (writes : List (BucketKey × ℚ)) (currentTime : ℚ) :
    (view.wrote writes currentTime).stage = view.stage := rfl

theorem ready_learn {keys : List BucketKey} {fields : BucketKey → BucketFields}
    {key : BucketKey} (h_mem : key ∈ keys) : (view.learn keys fields).ready key := by
  simp [CallView.ready, CallView.learn, h_mem]

theorem kept_learn (keys : List BucketKey) (fields : BucketKey → BucketFields) :
    Kept view (view.learn keys fields) := by
  refine ⟨rfl, rfl, fun key h_ready => ?_⟩
  by_cases h_mem : key ∈ keys
  · exact ready_learn h_mem
  · simpa [CallView.ready, CallView.learn, h_mem] using h_ready

theorem kept_wrote (writes : List (BucketKey × ℚ)) (currentTime : ℚ) :
    Kept view (view.wrote writes currentTime) := by
  refine ⟨rfl, rfl, fun key h_ready => ?_⟩
  show (writtenFields currentTime writes key <|> view.basis key).isSome = true
  cases writtenFields currentTime writes key with
  | none => exact h_ready
  | some fields => rfl

end Views

/-! ## Checks raise no contention -/

section Checks

variable {α β : Type}

/-- A check that raises nothing but value errors. -/
def RaisesValueErrors (x : Except BackendError α) : Prop :=
  ∀ e, x = .error e → ∃ kind, e = .valueError kind

theorem RaisesValueErrors.not_contended {x : Except BackendError α}
    (h_raises : RaisesValueErrors x) : ¬ Contended x := by
  intro h_contended
  cases x with
  | ok a => exact h_contended
  | error e =>
    obtain ⟨kind, rfl⟩ := h_raises e rfl
    cases h_contended

theorem raisesValueErrors_ok (a : α) : RaisesValueErrors (.ok a : Except BackendError α) := by
  intro e h_eq
  cases h_eq

theorem raisesValueErrors_error (kind : ValueErrorKind) :
    RaisesValueErrors (.error (.valueError kind) : Except BackendError α) := by
  intro e h_eq
  cases h_eq
  exact ⟨kind, rfl⟩

theorem RaisesValueErrors.bind {x : Except BackendError α} {f : α → Except BackendError β}
    (h_x : RaisesValueErrors x) (h_f : ∀ a, RaisesValueErrors (f a)) :
    RaisesValueErrors (x >>= f) := by
  intro e h_eq
  cases x with
  | ok a => exact h_f a e h_eq
  | error e' =>
    cases h_eq
    exact h_x e rfl

theorem raisesValueErrors_ite {c : Prop} [Decidable c] {x y : Except BackendError α}
    (h_x : RaisesValueErrors x) (h_y : RaisesValueErrors y) :
    RaisesValueErrors (if c then x else y) := by
  split
  · exact h_x
  · exact h_y

theorem capacityTtl_raises (client : RedisClient) (id : BucketId) (capacity : ℚ)
    (maximum : Option MaxCapacity) :
    RaisesValueErrors (client.capacityTtl id capacity maximum) := by
  obtain ⟨ttl, _, h_eq⟩ | h_eq := debtTtlSeconds_cases capacity client.bucketTtlSeconds
    id.perSeconds (maximum.getD (client.maxCapacity id)).value
    (client.maxCapacityDefault id).value
  · unfold RedisClient.capacityTtl
    rw [h_eq]
    exact raisesValueErrors_ok ttl
  · unfold RedisClient.capacityTtl
    rw [h_eq]
    exact raisesValueErrors_error _

theorem stateWrites_raises (client : RedisClient) (newCapacities : Capacities)
    (allowNegative : Bool) (keys : List BucketKey) :
    RaisesValueErrors (stateWrites client newCapacities allowNegative keys) := by
  induction keys with
  | nil => exact raisesValueErrors_ok []
  | cons key keys ih =>
    exact (capacityTtl_raises _ _ _ _).bind fun _ => ih.bind fun _ => raisesValueErrors_ok _

theorem calculateCapacity_raises (lastChecked outdatedCapacity : Option ℚ) (currentTime : ℚ)
    (maxCapacity : MaxCapacity) (ratePerSec : ℚ) :
    RaisesValueErrors (calculateCapacity lastChecked outdatedCapacity currentTime maxCapacity
      ratePerSec) := by
  refine raisesValueErrors_ite (raisesValueErrors_error _) (RaisesValueErrors.bind ?_ ?_)
  · exact raisesValueErrors_ite (raisesValueErrors_error _) (raisesValueErrors_ok _)
  · intro rate
    split <;> exact raisesValueErrors_ok _

theorem calculate_raises (client : RedisClient) (id : BucketId) (fields : BucketFields)
    (raw : Option OverrideRecord) (history : Option OverrideExpiry) (currentTime : ℚ) :
    RaisesValueErrors (client.calculate id fields raw history currentTime) := by
  refine (calculateCapacity_raises _ _ _ _ _).bind fun _ => ?_
  split <;> exact raisesValueErrors_ok _

theorem redisAcquiredMarkerValue_raises (reservationId : ReservationId) (modelFamily : String)
    (bucketIds : Finset BucketId) (usage : FrozenUsage) :
    RaisesValueErrors (redisAcquiredMarkerValue reservationId modelFamily bucketIds usage) :=
  raisesValueErrors_ite (raisesValueErrors_error _) (raisesValueErrors_ok _)

theorem acquiredMarker_raises (client : RedisClient) (reservationId : Option ReservationId)
    (lifetime : Option ℚ) (usage : FrozenUsage) (keys : List BucketKey) :
    RaisesValueErrors (acquiredMarker client reservationId lifetime usage keys) := by
  cases reservationId with
  | none => exact raisesValueErrors_ok none
  | some rid =>
    exact (redisAcquiredMarkerValue_raises _ _ _ _).bind fun _ =>
      raisesValueErrors_ite (raisesValueErrors_ok _) (raisesValueErrors_error _)

theorem expectedMarker_raises (refund : RefundRequest) (refundBucketIds : Finset BucketId) :
    RaisesValueErrors (expectedMarker refund refundBucketIds) := by
  unfold expectedMarker
  split
  · exact raisesValueErrors_ok none
  · refine RaisesValueErrors.bind ?_ fun metadata => RaisesValueErrors.bind ?_ fun _ => ?_
    · unfold requireMarkerMetadata
      split
      · exact raisesValueErrors_ok _
      · exact raisesValueErrors_error _
    · exact raisesValueErrors_ite (raisesValueErrors_error _)
        (raisesValueErrors_ite (raisesValueErrors_error _) (raisesValueErrors_ok _))
    · exact (redisAcquiredMarkerValue_raises _ _ _ _).bind fun _ => raisesValueErrors_ok _

theorem validateUsageMapping_raises (usage : FrozenUsage) (metrics : Finset String) :
    RaisesValueErrors (validateUsageMapping usage metrics) :=
  raisesValueErrors_ite (raisesValueErrors_error _)
    (raisesValueErrors_ite (raisesValueErrors_error _) (raisesValueErrors_ok _))

theorem validateBackendRefundUsage_raises (reservedUsage actualUsage : FrozenUsage)
    (bucketIds backendBucketIds : Finset BucketId) :
    RaisesValueErrors (validateBackendRefundUsageForBucketIds reservedUsage actualUsage
      bucketIds backendBucketIds) := by
  refine raisesValueErrors_ite ?_ (raisesValueErrors_ite (raisesValueErrors_error _) ?_)
  · exact raisesValueErrors_ite (raisesValueErrors_error _) (raisesValueErrors_ok _)
  · exact (validateUsageMapping_raises _ _).bind fun _ => validateUsageMapping_raises _ _

theorem validateMaxCapacity_raises (value : ℚ) :
    RaisesValueErrors (validateMaxCapacityFinitePositive value) := by
  unfold validateMaxCapacityFinitePositive
  split
  · exact raisesValueErrors_ok _
  · exact raisesValueErrors_error _

theorem rebuildTargets_raises (current newBackend : RedisClient)
    (quotas : List (BucketId × MaxCapacity)) :
    RaisesValueErrors (rebuildTargets current newBackend quotas) :=
  raisesValueErrors_ite (raisesValueErrors_error _) (raisesValueErrors_ok _)

end Checks

/-! ## Plain commands -/

/-- The commands that neither touch a lock nor write a bucket. -/
def plain : Command → Bool
  | .acquireLock _ _ | .reacquireLock _ _ | .releaseLock _ _ | .repairStates _ _ => false
  | command => !command.mutates

section Quiet

variable {α β : Type} {rebuild : Bool} {view : CallView}

theorem permits_plain {command : Command} (h_plain : plain command = true) :
    permits rebuild view command := by
  cases command <;> first
    | exact absurd h_plain Bool.false_ne_true
    | exact ⟨fun write h_mem => absurd h_mem List.not_mem_nil, fun h => by cases h⟩

theorem kept_plain {command : Command} (h_plain : plain command = true)
    (response : command.Response) : Kept view (view.observe command response) := by
  cases command <;> first
    | exact absurd h_plain Bool.false_ne_true
    | exact Kept.refl view
    | exact kept_learn _ _
    | exact ⟨rfl, rfl, fun _ h => h⟩

theorem send_quiet {command : Command} (h_plain : plain command = true) :
    (send command).Follows (discipline rebuild) (Quiet view) view :=
  Follows.send (permits_plain h_plain) fun response =>
    ⟨kept_plain h_plain response, not_contended_ok response⟩

theorem pure_quiet (a : α) :
    (pure a : RedisProgram α).Follows (discipline rebuild) (Quiet view) view :=
  ⟨Kept.refl view, not_contended_ok a⟩

theorem lift_quiet {x : Except BackendError α} (h_raises : RaisesValueErrors x) :
    (Program.lift x : RedisProgram α).Follows (discipline rebuild) (Quiet view) view :=
  ⟨Kept.refl view, h_raises.not_contended⟩

theorem when_quiet {condition : Bool} {p : RedisProgram Unit}
    (h_p : p.Follows (discipline rebuild) (Quiet view) view) :
    (Program.when condition p).Follows (discipline rebuild) (Quiet view) view := by
  cases condition with
  | true => exact h_p
  | false => exact pure_quiet ()

/-- What a quiet part starts from may be forgotten. -/
theorem Quiet.after {view' view'' : CallView} {result : Except BackendError α}
    (h_kept : Kept view view') (h_quiet : Quiet view' result view'') :
    Quiet view result view'' :=
  ⟨h_kept.trans h_quiet.1, h_quiet.2⟩

/-- A quiet part, whatever comes after it. -/
theorem quiet_bind {p : RedisProgram α} {f : α → RedisProgram β}
    {post : Except BackendError β → CallView → Prop}
    (h_p : p.Follows (discipline rebuild) (Quiet view) view)
    (h_f : ∀ a view', Kept view view' → (f a).Follows (discipline rebuild) post view')
    (h_error : ∀ e view', Quiet view (.error e : Except BackendError β) view' →
      post (.error e) view') :
    (p >>= f).Follows (discipline rebuild) post view :=
  h_p.bind (fun a view' h_quiet => h_f a view' h_quiet.1)
    (fun e view' h_quiet => h_error e view' h_quiet)

/-- Two quiet parts are quiet. -/
theorem Quiet.bind {p : RedisProgram α} {f : α → RedisProgram β}
    (h_p : p.Follows (discipline rebuild) (Quiet view) view)
    (h_f : ∀ a view', Kept view view' →
      (f a).Follows (discipline rebuild) (Quiet view') view') :
    (p >>= f).Follows (discipline rebuild) (Quiet view) view :=
  quiet_bind h_p (fun a view' h_kept => (h_f a view' h_kept).mono fun _ _ => .after h_kept)
    fun _ _ h_quiet => h_quiet

/-- A command's own answer comes, whatever is done with its failure. -/
theorem attempt_send {command : Command} (h_allowed : permits rebuild view command)
    {f : Except BackendError command.Response → RedisProgram β}
    {post : Except BackendError β → CallView → Prop}
    (h_f : ∀ response, (f (.ok response)).Follows (discipline rebuild) post
      (view.observe command response)) :
    ((send command).attempt >>= f).Follows (discipline rebuild) post view := by
  refine Follows.bind
    (m := fun result view' =>
      ∃ response, result = .ok (.ok response) ∧ view' = view.observe command response)
    (Follows.attempt (Follows.send h_allowed fun response => ⟨response, rfl, rfl⟩))
    (fun result view' h_mid => ?_) (fun e view' h_mid => ?_)
  · obtain ⟨response, h_eq, rfl⟩ := h_mid
    cases h_eq
    exact h_f response
  · obtain ⟨response, h_eq, _⟩ := h_mid
    cases h_eq

theorem attempt_send_quiet {command : Command} (h_plain : plain command = true)
    {f : Except BackendError command.Response → RedisProgram β}
    {post : Except BackendError β → CallView → Prop}
    (h_f : ∀ response view', Kept view view' →
      (f (.ok response)).Follows (discipline rebuild) post view') :
    ((send command).attempt >>= f).Follows (discipline rebuild) post view :=
  attempt_send (permits_plain h_plain) fun response => h_f response _
    (kept_plain h_plain response)

end Quiet

end RedisBackend

end TokenThrottle
