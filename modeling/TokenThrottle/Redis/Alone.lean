/-
  TokenThrottle.Redis.Alone

  What the parts of a Redis call do while nothing else happens on the server: every
  command is answered, and the server's clock stands at one reading.

  * `Alone` is the total form of `Leads`: the program returns, and so.
  * Locks: `lock_alone` takes them or finds one taken, `releaseLocks_alone` frees them;
    neither touches anything else (`Session.unlocked`).
  * Reading: `Parses` is what the pipeline's result says of one bucket, and `ReadLeaves` what
    `_get_capacities_unsafe` makes of the session.
-/
import TokenThrottle.Redis.Footprint

namespace TokenThrottle

open Theory (Program)
open Theory.Program

/-- A turn in which nobody else does anything and the answer comes back. -/
structure Turn.Alone (currentTime : ℚ) (turn : Turn) : Prop where
  others : ∀ server, turn.others server = server
  currentTime : turn.currentTime = currentTime
  delivery : turn.delivery = .answered

/-- The turn of a call that has the server to itself. -/
def Turn.undisturbed (currentTime : ℚ) : Turn := ⟨id, currentTime, 0, .answered⟩

theorem Turn.undisturbed_alone (currentTime : ℚ) : (undisturbed currentTime).Alone currentTime :=
  ⟨fun _ => rfl, rfl, rfl⟩

/-- Alone on the server the program returns, with `post`. -/
abbrev Alone {α : Type} (currentTime : ℚ) (post : α → Session → Prop) (p : RedisProgram α)
    (s : Session) : Prop :=
  p.Returns Session.serve (Turn.Alone currentTime) post s

/-- What an alone run of the program ends with, returned or raised. -/
abbrev AloneEnds {α : Type} (currentTime : ℚ) (post : Except BackendError α → Session → Prop)
    (p : RedisProgram α) (s : Session) : Prop :=
  p.Follows (served Session.serve (Turn.Alone currentTime)) post s

variable {t : ℚ} {s : Session}

theorem serve_alone {turn : Turn} (h_alone : turn.Alone t) (command : Command) (s : Session) :
    Session.serve turn command s =
      (.ok (s.execute turn command).1, (s.execute turn command).2) := by
  have h_same : s.withServer (turn.others s.server) = s := by rw [h_alone.others]; rfl
  unfold Session.serve
  rw [h_same, h_alone.delivery]

theorem send_alone {command : Command} {post : command.Response → Session → Prop}
    (h_post : ∀ turn : Turn, turn.currentTime = t →
      post (s.execute turn command).1 (s.execute turn command).2) :
    Alone t post (send command) s := by
  apply Returns.perform
  intro turn answer s' h_alone h_serve
  rw [serve_alone h_alone] at h_serve
  cases h_serve
  exact ⟨_, rfl, h_post turn h_alone.currentTime⟩

/-- One answered command and what follows. -/
theorem send_alone_bind {β : Type} {command : Command} {next : command.Response → RedisProgram β}
    {post : β → Session → Prop}
    (h_next : ∀ turn : Turn, turn.currentTime = t →
      Alone t post (next (s.execute turn command).1) (s.execute turn command).2) :
    Alone t post (send command >>= next) s := by
  have h_send : Alone t (fun response s' => Alone t post (next response) s') (send command) s :=
    send_alone h_next
  exact h_send.bind fun _ _ h => h

/-! ## Locks -/

/-- The locks of the stack are held under their tokens. -/
def Session.Holds (s : Session) (stack : RedisBackend.LockStack) : Prop :=
  ∀ lock ∈ stack, s.server.locks lock.1 = some lock.2

/-- The session without its locks and its count of drawn tokens. -/
def Session.unlocked (s : Session) : Session :=
  s.withServer { s.server with locks := fun _ => none, nextToken := 0 }

/-- A command that touches locks and tokens only. -/
def Command.locking : Command → Bool
  | .acquireLock _ _ | .reacquireLock _ _ | .releaseLock _ _ | .uuid => true
  | _ => false

theorem send_locking {command : Command} (h_locking : command.locking = true) :
    Issues (fun command : Command => command.locking = true) (send command) :=
  .perform h_locking

theorem execute_unlocked (turn : Turn) (s : Session) {command : Command}
    (h_locking : command.locking = true) :
    (s.execute turn command).2.unlocked = s.unlocked := by
  cases command with
  | acquireLock key token =>
    dsimp only [Session.execute]
    split
    · rfl
    · rfl
  | releaseLock key token =>
    dsimp only [Session.execute]
    split
    · rfl
    · rfl
  | reacquireLock | uuid => rfl
  | _ => cases h_locking

theorem serve_unlocked (turn : Turn) (command : Command) (s : Session) (h_alone : turn.Alone t)
    (h_locking : command.locking = true) :
    (Session.serve turn command s).2.unlocked = s.unlocked := by
  rw [serve_alone h_alone]
  exact execute_unlocked turn s h_locking

namespace RedisBackend

variable {stack : LockStack}

theorem extendLocks_locking (stack : LockStack) :
    (extendLocks stack).Issues fun command => command.locking = true := by
  induction stack with
  | nil => exact .pure ()
  | cons lock stack ih =>
    refine (send_locking rfl).bind fun owned => ?_
    cases owned with
    | true => exact ih
    | false => exact .throw _

theorem releaseLocks_locking (stack : LockStack) :
    (releaseLocks stack).Issues fun command => command.locking = true := by
  induction stack with
  | nil => exact .pure ()
  | cons lock stack ih => exact ih.ensuring ((send_locking rfl).bind fun _ => .pure ())

theorem lockFrom_locking (keys : List BucketKey) (stack : LockStack) :
    (lockFrom stack keys).Issues fun command => command.locking = true := by
  induction keys generalizing stack with
  | nil => exact .pure stack
  | cons key keys ih =>
    refine Issues.bind (Issues.onError ?_ (releaseLocks_locking stack)) fun token => ih _
    refine (extendLocks_locking stack).bind fun _ => (send_locking rfl).bind fun token => ?_
    refine Issues.bind (Issues.onError (send_locking rfl)
      ((send_locking rfl).settle fun _ => .pure ())) fun acquired => ?_
    cases acquired with
    | true => exact .pure token
    | false => exact .throw _

/-- Held locks can be extended. -/
theorem extendLocks_alone (h_holds : s.Holds stack) :
    Alone t (fun _ s' => s' = s) (extendLocks stack) s := by
  induction stack with
  | nil => exact Returns.pure rfl
  | cons lock stack ih =>
    obtain ⟨key, token⟩ := lock
    have h_owned : s.ownsLock key token = true := by
      have h_lock := h_holds (key, token) List.mem_cons_self
      exact decide_eq_true h_lock
    refine send_alone_bind fun turn _ => ?_
    show Alone t _ (if s.ownsLock key token = true then extendLocks stack else throw .lockContention) s
    rw [if_pos h_owned]
    exact ih fun lock h_mem => h_holds lock (List.mem_cons_of_mem _ h_mem)

/-- A free lock is taken under a new token. -/
theorem acquireLock_free {key : BucketKey} (h_free : s.server.locks key = none) :
    Alone t (fun token s' => s'.server.locks = Function.update s.server.locks key (some token))
      (acquireLock key) s := by
  refine send_alone_bind fun turn _ => ?_
  refine Returns.bind (m := fun acquired s' => acquired = true ∧
    s'.server.locks = Function.update s.server.locks key (some s.server.nextToken)) ?_ ?_
  · refine Returns.onError (send_alone fun turn _ => ?_)
    unfold Session.execute
    dsimp only
    rw [if_pos]
    · exact ⟨rfl, rfl⟩
    · show (s.server.locks key).isNone = true
      rw [h_free]
      rfl
  · rintro acquired s' ⟨rfl, h_locks⟩
    exact Returns.pure h_locks

/-- A lock that is taken is not. -/
theorem acquireLock_refused {key : BucketKey} (h_taken : s.server.locks key ≠ none) :
    AloneEnds t (fun result _ => ∃ e, result = .error e) (acquireLock key) s := by
  have h_uuid : Alone t (fun _ s' => s'.server.locks = s.server.locks) (send .uuid) s :=
    send_alone fun _ _ => rfl
  refine h_uuid.then fun token s₁ h_locks => ?_
  have h_refused : Alone t (fun acquired _ => acquired = false)
      ((send (.acquireLock key token)).onError
        ((send (.releaseLock key token)).settle fun _ => pure ())) s₁ := by
    refine Returns.onError (send_alone fun turn _ => ?_)
    dsimp only [Session.execute]
    rw [if_neg]
    rw [h_locks, Option.isNone_iff_eq_none]
    exact h_taken
  refine h_refused.then fun acquired s₂ h_acquired => ?_
  rw [h_acquired]
  exact ⟨_, rfl⟩

/-- Nothing is claimed of what a program does. -/
theorem follows_any {α : Type} (p : RedisProgram α) (s : Session) :
    AloneEnds t (fun _ _ => True) p s := by
  induction p generalizing s with
  | done result => trivial
  | call command next ih => exact ⟨trivial, fun answer s' _ => ih answer s'⟩

/-- Locks are taken one after the other, if all of them are free. -/
theorem lockFrom_alone {keys : List BucketKey} (h_holds : s.Holds stack)
    (h_fresh : ∀ lock ∈ stack, lock.1 ∉ keys) (h_nodup : keys.Nodup) :
    AloneEnds t (fun result s' =>
        match result with
        | .ok stack' => s'.Holds stack' ∧ stack'.map Prod.fst = stack.map Prod.fst ++ keys ∧
            ∀ key ∈ keys, s.server.locks key = none
        | .error _ => ∃ key ∈ keys, s.server.locks key ≠ none)
      (lockFrom stack keys) s := by
  induction keys generalizing stack s with
  | nil => exact ⟨h_holds, (List.append_nil _).symm, nofun⟩
  | cons key keys ih =>
    obtain ⟨h_notMem, h_nodup⟩ := List.nodup_cons.mp h_nodup
    by_cases h_free : s.server.locks key = none
    · have h_taken : Alone t
          (fun token s' => s'.server.locks = Function.update s.server.locks key (some token))
          (Program.onError (do extendLocks stack; acquireLock key) (releaseLocks stack)) s := by
        refine Returns.onError ((extendLocks_alone h_holds).bind fun _ s₁ h_same => ?_)
        rw [h_same]
        exact acquireLock_free h_free
      refine h_taken.then fun token s₁ h_locks => ?_
      have h_others : ∀ key', key' ≠ key → s₁.server.locks key' = s.server.locks key' := by
        intro key' h_ne
        rw [h_locks, Function.update_of_ne h_ne]
      refine Follows.mono (ih ?_ ?_ h_nodup) fun result s' h_result => ?_
      · intro lock h_mem
        rcases List.mem_append.mp h_mem with h_old | h_new
        · have h_ne : lock.1 ≠ key := fun h_eq => h_fresh lock h_old (h_eq ▸ List.mem_cons_self)
          rw [h_others lock.1 h_ne]
          exact h_holds lock h_old
        · rw [List.mem_singleton.mp h_new, h_locks]
          exact Function.update_self ..
      · intro lock h_mem
        rcases List.mem_append.mp h_mem with h_old | h_new
        · exact fun h_later => h_fresh lock h_old (List.mem_cons_of_mem _ h_later)
        · rw [List.mem_singleton.mp h_new]
          exact h_notMem
      · match result with
        | .ok stack' =>
          obtain ⟨h_holds', h_keys, h_rest⟩ := h_result
          refine ⟨h_holds', ?_, fun key' h_mem => ?_⟩
          · rw [h_keys, List.map_append, List.append_assoc]
            rfl
          · rcases List.mem_cons.mp h_mem with rfl | h_mem
            · exact h_free
            · have h_ne : key' ≠ key := fun h_eq => h_notMem (h_eq ▸ h_mem)
              rw [← h_others key' h_ne]
              exact h_rest key' h_mem
        | .error _ =>
          obtain ⟨key', h_mem, h_taken'⟩ := h_result
          have h_ne : key' ≠ key := fun h_eq => h_notMem (h_eq ▸ h_mem)
          rw [h_others key' h_ne] at h_taken'
          exact ⟨key', List.mem_cons_of_mem _ h_mem, h_taken'⟩
    · -- the first of them is taken, so what is held is released and the call raises
      have h_refused : AloneEnds t (fun result _ => ∃ e, result = .error e)
          (Program.onError (do extendLocks stack; acquireLock key) (releaseLocks stack)) s := by
        have h_raises : AloneEnds t (fun result _ => ∃ e, result = .error e)
            (do extendLocks stack; acquireLock key) s := by
          refine (extendLocks_alone h_holds).then fun _ s₁ h_same => ?_
          rw [h_same]
          exact acquireLock_refused h_free
        refine Follows.onError h_raises (fun _ _ ⟨_, h_ok⟩ => by cases h_ok) fun e s₁ _ => ?_
        refine Follows.mono (follows_any (releaseLocks stack) s₁) fun cleaned _ _ => ?_
        cases cleaned with
        | ok _ => exact ⟨_, rfl⟩
        | error _ => exact ⟨_, rfl⟩
      refine Follows.bind h_refused (fun _ _ ⟨_, h_ok⟩ => by cases h_ok) fun _ _ _ => ?_
      exact ⟨key, List.mem_cons_self, h_free⟩

/-- Held locks are freed, and no others. -/
theorem releaseLocks_alone (h_holds : s.Holds stack) (h_nodup : (stack.map Prod.fst).Nodup) :
    Alone t (fun _ s' => ∀ key, s'.server.locks key =
        if key ∈ stack.map Prod.fst then none else s.server.locks key)
      (releaseLocks stack) s := by
  induction stack with
  | nil => exact Returns.pure fun key => rfl
  | cons lock stack ih =>
    obtain ⟨key, token⟩ := lock
    rw [List.map_cons] at h_nodup
    obtain ⟨h_notMem, h_nodup⟩ := List.nodup_cons.mp h_nodup
    have h_rest := ih (fun lock h_mem => h_holds lock (List.mem_cons_of_mem _ h_mem)) h_nodup
    refine Returns.ensuring h_rest fun _ s₁ h_freed => ?_
    refine send_alone_bind fun turn _ => Returns.pure ?_
    have h_owned : s₁.ownsLock key token = true := by
      have h_kept := h_freed key
      rw [if_neg h_notMem] at h_kept
      have h_lock := h_holds (key, token) List.mem_cons_self
      exact decide_eq_true (h_kept.trans h_lock)
    intro key'
    dsimp only [Session.execute]
    rw [if_pos h_owned]
    show Function.update s₁.server.locks key none key' = _
    by_cases h_eq : key' = key
    · rw [h_eq, Function.update_self, List.map_cons, if_pos List.mem_cons_self]
    · rw [Function.update_of_ne h_eq, h_freed key']
      simp only [List.map_cons, List.mem_cons, h_eq, false_or]

end RedisBackend

/-! ## What a read computes -/

section Calculate

variable {history : Option OverrideExpiry} {override : Option MaxCapacity}
  {configured : MaxCapacity} {id : BucketId}

theorem calculateWithExpiry_some (last stored : ℚ) (h_time : 0 ≤ t) :
    calculateWithExpiry history override configured id (some last) (some stored) t =
      .ok ⟨min (override.getD configured).value (accrueWithExpiry history override configured id
        last t stored (calculateRatePerSec (override.getD configured) id)), false⟩ := by
  unfold calculateWithExpiry
  dsimp only
  rw [calculateCapacity_ok h_time (calculateRatePerSec_pos _ _)]
  rfl

theorem calculateWithExpiry_none (h_time : 0 ≤ t) :
    calculateWithExpiry history override configured id none none t =
      .ok ⟨(override.getD configured).value, true⟩ := by
  unfold calculateWithExpiry
  dsimp only
  rw [calculateCapacity_ok h_time (calculateRatePerSec_pos _ _)]
  rfl

/-- A clock before zero is the one thing that a read refuses. -/
theorem calculateWithExpiry_negative {last stored : Option ℚ} (h_time : t < 0) :
    calculateWithExpiry history override configured id last stored t =
      .error (.valueError .currentTimeNegative) := by
  unfold calculateWithExpiry
  dsimp only
  rw [calculateCapacity_negative h_time]
  rfl

end Calculate

/-- A pair is whole once it is normalized, or both its halves are missing. -/
theorem BucketFields.normalize_cases (fields : BucketFields) (t : ℚ) (drains : Bool) :
    (fields.normalize t drains = ⟨none, none⟩ ∧ drains = false ∧ fields = ⟨none, none⟩) ∨
      (fields.normalize t drains = ⟨some t, some 0⟩ ∧ fields.incomplete = true) ∨
      ∃ last stored, fields.normalize t drains = ⟨some last, some stored⟩ ∧
        fields = ⟨some last, some stored⟩ := by
  obtain ⟨last, stored⟩ := fields
  cases last with
  | none =>
    cases stored with
    | none =>
      cases drains with
      | true => exact .inr (.inl ⟨rfl, rfl⟩)
      | false => exact .inl ⟨rfl, rfl, rfl⟩
    | some stored => exact .inr (.inl ⟨rfl, rfl⟩)
  | some last =>
    cases stored with
    | none => exact .inr (.inl ⟨rfl, rfl⟩)
    | some stored => exact .inr (.inr ⟨last, stored, rfl, rfl⟩)

namespace Session

/-- The pair of a bucket as a read takes it. -/
def normalized (s : Session) (currentTime : ℚ) (key : BucketKey) : BucketFields :=
  (s.server.state key).normalize currentTime (s.client.stateLossSuspected key.id currentTime)

/-- The override of a bucket that this client takes for one. -/
def override (s : Session) (key : BucketKey) : Option MaxCapacity :=
  s.client.deserializeMaxCapacityOverride key.id (s.server.maxCapacityOverride key)

/-- What a read of a bucket computes from its pair. -/
def calculated (s : Session) (currentTime : ℚ) (key : BucketKey) :
    Except BackendError CalculatedCapacity :=
  calculateWithExpiry (s.server.overrideExpiry key) (s.override key)
    (s.client.maxCapacityDefault key.id) key.id (s.normalized currentTime key).lastChecked
    (s.normalized currentTime key).capacity currentTime

/-- The pair of a bucket that is read is whole, or there is none and none is missed. -/
theorem normalized_cases (s : Session) (currentTime : ℚ) (key : BucketKey) :
    (s.normalized currentTime key = ⟨none, none⟩ ∧
        s.client.stateLossSuspected key.id currentTime = false ∧
        s.server.state key = ⟨none, none⟩) ∨
      ∃ last stored, s.normalized currentTime key = ⟨some last, some stored⟩ := by
  obtain h_none | ⟨h_lost, _⟩ | ⟨last, stored, h_whole, _⟩ :=
    (s.server.state key).normalize_cases currentTime
      (s.client.stateLossSuspected key.id currentTime)
  · exact .inl h_none
  · exact .inr ⟨currentTime, 0, h_lost⟩
  · exact .inr ⟨last, stored, h_whole⟩

theorem calculated_error {s : Session} {currentTime : ℚ} {key : BucketKey} {e : BackendError}
    (h_error : s.calculated currentTime key = .error e) : currentTime < 0 := by
  by_contra h_time
  have h_time : 0 ≤ currentTime := not_lt.mp h_time
  unfold calculated at h_error
  obtain ⟨h_none, _⟩ | ⟨last, stored, h_whole⟩ := s.normalized_cases currentTime key
  · rw [h_none, calculateWithExpiry_none h_time] at h_error
    cases h_error
  · rw [h_whole, calculateWithExpiry_some _ _ h_time] at h_error
    cases h_error

theorem time_of_calculated {s : Session} {currentTime : ℚ} {key : BucketKey}
    {calculated : CalculatedCapacity} (h_ok : s.calculated currentTime key = .ok calculated) :
    0 ≤ currentTime := by
  by_contra h_negative
  unfold Session.calculated at h_ok
  rw [calculateWithExpiry_negative (not_le.mp h_negative)] at h_ok
  cases h_ok

end Session

namespace RedisBackend

/-- What the pipeline's result says of one bucket. -/
structure Parses (s : Session) (currentTime : ℚ) (key : BucketKey) (read : ParsedCapacityRead) :
    Prop where
  key_eq : read.key = key
  incomplete : read.incomplete = (s.server.state key).incomplete
  override : read.override = s.override key
  calculated : s.calculated currentTime key = .ok read.calculated

theorem parseResults_alone (keys : List BucketKey) :
    AloneEnds t (fun result s' => s' = s ∧
        match result with
        | .ok reads => List.Forall₂ (Parses s t) keys reads
        | .error _ => t < 0)
      (parseResults (fun key => (s.server.state key, s.server.maxCapacityOverride key)) t keys)
      s := by
  induction keys with
  | nil => exact ⟨rfl, .nil⟩
  | cons key keys ih =>
    have h_client : Alone t (fun client s' => client = s.client ∧ s' = s) (send .client) s :=
      send_alone fun _ _ => ⟨rfl, rfl⟩
    refine h_client.then fun client s₁ ⟨h_client, h_s₁⟩ => ?_
    rw [h_client, h_s₁]
    have h_history : Alone t (fun history s' => history = s.server.overrideExpiry key ∧ s' = s)
        (send (.getExpiry key)) s := send_alone fun _ _ => ⟨rfl, rfl⟩
    refine h_history.then fun history s₂ ⟨h_history, h_s₂⟩ => ?_
    rw [h_history, h_s₂]
    show (Program.lift (s.calculated t key) >>= _ : RedisProgram _).Follows _ _ s
    refine Follows.lift_bind (fun calculated h_ok => ?_) fun e h_error => ⟨rfl, ?_⟩
    · refine Follows.bind ih (fun reads s₃ ⟨h_s₃, h_reads⟩ => ⟨h_s₃, ?_⟩)
        fun e s₃ ⟨h_s₃, h_negative⟩ => ⟨h_s₃, h_negative⟩
      exact .cons ⟨rfl, rfl, rfl, h_ok⟩ h_reads
    · exact Session.calculated_error h_error

theorem retainCapacityHistory_alone (key : BucketKey) :
    Alone t (fun _ s' => s' = s) (RedisBucket.retainCapacityHistory key) s := by
  refine send_alone_bind fun _ _ => ?_
  exact Returns.when (fun _ => send_alone fun _ _ => rfl) fun _ => rfl

theorem retainHistories_alone (keys : List BucketKey) :
    Alone t (fun _ s' => s' = s) (retainHistories keys) s := by
  induction keys with
  | nil => exact Returns.pure rfl
  | cons key keys ih =>
    refine (retainCapacityHistory_alone key).bind fun _ s₁ h_same => ?_
    rw [h_same]
    exact ih

theorem repairStates_alone (keys : List BucketKey) :
    Alone t (fun _ s' => s' = s.withServer
      (s.server.setStates (keys.map fun key => (key, 0)) t)) (repairStates keys t) s := by
  cases keys with
  | nil => exact Returns.pure rfl
  | cons key keys =>
    refine (retainHistories_alone (key :: keys)).bind fun _ s₁ h_same => ?_
    rw [h_same]
    exact send_alone fun _ _ => rfl

/-- A refresh moves the history of an override that this client takes for one. -/
structure Refreshes (s : Session) (moved : BucketKey → Prop) (s' : Session) : Prop where
  client : s'.client = s.client
  server : ∃ overrideExpiry, s'.server = { s.server with overrideExpiry := overrideExpiry } ∧
    ∀ key, ¬ moved key → overrideExpiry key = s.server.overrideExpiry key

theorem refreshOverride_refreshes (s : Session) (key : BucketKey) (record : OverrideRecord)
    (expiresAt : ℚ) :
    Refreshes s (· = key) (s.withServer (s.server.refreshOverride key record expiresAt).2) := by
  refine ⟨rfl, ?_⟩
  show ∃ overrideExpiry, (s.server.refreshOverride key record expiresAt).2 = _ ∧ _
  unfold RedisServer.refreshOverride
  split
  · refine ⟨Function.update s.server.overrideExpiry key
      (some (RedisServer.expiryOf record expiresAt)), ?_, fun key' h_ne => Function.update_of_ne h_ne ..⟩
    unfold RedisServer.putOverride
    rw [Function.update_eq_self]
  · exact ⟨s.server.overrideExpiry, rfl, fun _ _ => rfl⟩

theorem refreshOverrides_alone (reads : List ParsedCapacityRead) :
    Alone t (fun _ s' => Refreshes s
        (fun key => ∃ read ∈ reads, read.key = key ∧ read.override.isSome = true) s')
      (refreshOverrides reads) s := by
  induction reads generalizing s with
  | nil => exact Returns.pure ⟨rfl, s.server.overrideExpiry, rfl, fun _ _ => rfl⟩
  | cons read reads ih =>
    have h_first : Alone t (fun _ s' => Refreshes s
        (fun key => read.key = key ∧ read.override.isSome = true) s')
        (RedisBucket.refreshMaxCapacityOverrideTtl .running read.key read.override) s := by
      cases h_override : read.override with
      | none =>
        have h_same : Refreshes s (fun key => read.key = key ∧ (none : Option MaxCapacity).isSome =
            true) s := ⟨rfl, s.server.overrideExpiry, rfl, fun _ _ => rfl⟩
        refine send_alone_bind fun _ _ => ?_
        exact Returns.when (fun _ => send_alone fun _ _ => h_same) fun _ => h_same
      | some value =>
        refine send_alone_bind fun turn _ => send_alone_bind fun _ _ => ?_
        refine send_alone_bind fun _ _ => Returns.pure ?_
        obtain ⟨h_client, expiries, h_server, h_kept⟩ := refreshOverride_refreshes s read.key
          (RedisBucket.overrideRecord s.client read.key.id value)
          (turn.currentTime + s.client.overrideTtlSeconds)
        exact ⟨h_client, expiries, h_server, fun key h_not => h_kept key fun h_eq =>
          h_not ⟨h_eq.symm, rfl⟩⟩
    refine h_first.bind fun _ s₁ ⟨h_client₁, expiries₁, h_server₁, h_kept₁⟩ => ?_
    apply ih.mono
    rintro _ s₂ ⟨h_client₂, expiries₂, h_server₂, h_kept₂⟩
    refine ⟨h_client₂.trans h_client₁, expiries₂, ?_, fun key h_not => ?_⟩
    · rw [h_server₂, h_server₁]
    · rw [h_kept₂ key fun ⟨read', h_mem, h_read⟩ =>
        h_not ⟨read', List.mem_cons_of_mem _ h_mem, h_read⟩, h_server₁]
      exact h_kept₁ key fun h_read => h_not ⟨read, List.mem_cons_self, h_read⟩

/-! ### What the buckets remember -/

/-- The caches of a bucket after the read of it is noted. -/
def noteRead (currentTime : ℚ) (caches : BucketCaches) (read : ParsedCapacityRead) :
    BucketCaches :=
  let caches := caches.applyParsedMaxCapacityOverride read.key.id read.override
  if read.stateLost ∨ ¬ read.incomplete then caches.confirmStatePresent read.key.id currentTime
  else caches

theorem noteRead_override (caches : BucketCaches) (read : ParsedCapacityRead) (id : BucketId) :
    (noteRead t caches read).maxCapacityCached id =
      if id = read.key.id then read.override else caches.maxCapacityCached id := by
  unfold noteRead
  dsimp only
  split <;> exact Function.update_apply ..

theorem noteRead_confirmed (caches : BucketCaches) (read : ParsedCapacityRead) (id : BucketId) :
    (noteRead t caches read).stateConfirmedAtServerTime id =
      if id = read.key.id ∧ (read.stateLost = true ∨ ¬ read.incomplete = true) then some t
      else caches.stateConfirmedAtServerTime id := by
  unfold noteRead
  dsimp only
  by_cases h_confirms : read.stateLost = true ∨ ¬ read.incomplete = true
  · rw [if_pos h_confirms]
    unfold BucketCaches.confirmStatePresent
    simp only [Function.update_apply, h_confirms, and_true]
    rfl
  · rw [if_neg h_confirms, if_neg fun h => h_confirms h.2]
    rfl

theorem noteReads_cons (read : ParsedCapacityRead) (reads : List ParsedCapacityRead)
    (caches : BucketCaches) :
    noteReads t (read :: reads) caches = noteReads t reads (noteRead t caches read) := rfl

theorem noteReads_notMem {reads : List ParsedCapacityRead} {id : BucketId} (caches : BucketCaches)
    (h_notMem : id ∉ reads.map fun read => read.key.id) :
    (noteReads t reads caches).maxCapacityCached id = caches.maxCapacityCached id ∧
      (noteReads t reads caches).stateConfirmedAtServerTime id =
        caches.stateConfirmedAtServerTime id := by
  induction reads generalizing caches with
  | nil => exact ⟨rfl, rfl⟩
  | cons read reads ih =>
    rw [List.map_cons, List.mem_cons, not_or] at h_notMem
    obtain ⟨h_ne, h_notMem⟩ := h_notMem
    rw [noteReads_cons]
    obtain ⟨h_override, h_confirmed⟩ := ih (noteRead t caches read) h_notMem
    rw [h_override, h_confirmed, noteRead_override, noteRead_confirmed, if_neg h_ne,
      if_neg fun h => h_ne h.1]
    exact ⟨rfl, rfl⟩

/-- Each bucket remembers the override its read has found, and that its state is there. -/
theorem noteReads_mem {reads : List ParsedCapacityRead} {read : ParsedCapacityRead}
    (caches : BucketCaches) (h_nodup : (reads.map fun read => read.key.id).Nodup)
    (h_mem : read ∈ reads) :
    (noteReads t reads caches).maxCapacityCached read.key.id = read.override ∧
      (¬ (read.stateLost = true ∨ ¬ read.incomplete = true) →
        (noteReads t reads caches).stateConfirmedAtServerTime read.key.id =
          caches.stateConfirmedAtServerTime read.key.id) := by
  induction reads generalizing caches with
  | nil => cases h_mem
  | cons first reads ih =>
    rw [List.map_cons] at h_nodup
    obtain ⟨h_notMem, h_nodup⟩ := List.nodup_cons.mp h_nodup
    rw [noteReads_cons]
    rcases List.mem_cons.mp h_mem with rfl | h_mem
    · obtain ⟨h_override, h_confirmed⟩ := noteReads_notMem (noteRead t caches read) h_notMem
      rw [h_override, h_confirmed, noteRead_override, noteRead_confirmed, if_pos rfl]
      exact ⟨rfl, fun h_not => if_neg fun h => h_not h.2⟩
    · obtain ⟨h_override, h_confirmed⟩ := ih (noteRead t caches first) h_nodup h_mem
      have h_ne : read.key.id ≠ first.key.id := fun h_eq =>
        h_notMem (h_eq ▸ List.mem_map_of_mem h_mem)
      refine ⟨h_override, fun h_not => ?_⟩
      rw [h_confirmed h_not, noteRead_confirmed, if_neg fun h => h_ne h.1]

theorem capacitiesOf_mem {reads : List ParsedCapacityRead} {read : ParsedCapacityRead}
    (h_nodup : (reads.map fun read => read.key.id).Nodup) (h_mem : read ∈ reads) :
    capacitiesOf reads read.key.id = read.calculated.amount := by
  unfold capacitiesOf
  induction reads with
  | nil => cases h_mem
  | cons first reads ih =>
    rw [List.map_cons] at h_nodup
    obtain ⟨h_notMem, h_nodup⟩ := List.nodup_cons.mp h_nodup
    rcases List.mem_cons.mp h_mem with rfl | h_mem
    · have h_found : (read :: reads).find? (fun other => other.key.id = read.key.id) = some read :=
        List.find?_cons_of_pos (decide_eq_true rfl)
      rw [h_found]
      rfl
    · have h_ne : first.key.id ≠ read.key.id := fun h_eq =>
        h_notMem (h_eq ▸ List.mem_map_of_mem h_mem)
      rw [List.find?_cons_of_neg (by simpa using h_ne)]
      exact ih h_nodup h_mem

/-! ### The read -/

theorem setStates_state (server : RedisServer) (writes : List (BucketKey × ℚ)) :
    ∃ state, server.setStates writes t = { server with state := state } := by
  unfold RedisServer.setStates
  induction writes generalizing server with
  | nil => exact ⟨server.state, rfl⟩
  | cons write writes ih =>
    obtain ⟨state, h_state⟩ := ih (server.setState write.1 write.2 t)
    exact ⟨state, by rw [List.foldl_cons, h_state]; rfl⟩

/-- The drained buckets hold nothing as of now, the others what they held. -/
theorem setStates_drained (server : RedisServer) (keys : List BucketKey) (key : BucketKey) :
    (server.setStates (keys.map fun key => (key, 0)) t).state key =
      if key ∈ keys then ⟨some t, some 0⟩ else server.state key := by
  unfold RedisServer.setStates
  induction keys generalizing server with
  | nil => rfl
  | cons first keys ih =>
    rw [List.map_cons, List.foldl_cons, ih]
    by_cases h_mem : key ∈ keys
    · rw [if_pos h_mem, if_pos (List.mem_cons_of_mem _ h_mem)]
    · rw [if_neg h_mem]
      show Function.update server.state first ⟨some t, some 0⟩ key = _
      by_cases h_eq : key = first
      · rw [h_eq, Function.update_self, if_pos List.mem_cons_self]
      · rw [Function.update_of_ne h_eq, if_neg fun h => (List.mem_cons.mp h).elim h_eq h_mem]

/-- What a read has found of a bucket and leaves of it: the pair as it was normalized. -/
structure LeavesBucket (s : Session) (currentTime : ℚ) (capacities : Capacities)
    (s' : Session) (key : BucketKey) : Prop where
  calculated : ∃ isFreshStart, s.calculated currentTime key =
    .ok ⟨capacities key.id, isFreshStart⟩
  state : s'.server.state key = s.normalized currentTime key
  history : s.override key = none → s'.server.overrideExpiry key = s.server.overrideExpiry key
  cached : s'.client.caches.maxCapacityCached key.id = s.override key
  unconfirmed : s.normalized currentTime key = ⟨none, none⟩ →
    s'.client.caches.stateConfirmedAtServerTime key.id =
      s.client.caches.stateConfirmedAtServerTime key.id

/-- What `_get_capacities_unsafe` makes of the session. -/
structure ReadLeaves (s : Session) (currentTime : ℚ) (keys : List BucketKey)
    (capacities : Capacities) (s' : Session) : Prop where
  client : ∃ caches, s'.client = { s.client with caches := caches }
  server : ∃ state overrideExpiry,
    s'.server = { s.server with state := state, overrideExpiry := overrideExpiry }
  bucket : ∀ key ∈ keys, LeavesBucket s currentTime capacities s' key

/-- Whether a read counts a bucket's state as lost, and what it leaves of it. -/
theorem Parses.lost {key : BucketKey} {read : ParsedCapacityRead} (h_parses : Parses s t key read) :
    (if read.stateLost = true then ⟨some t, some 0⟩ else s.server.state key) = s.normalized t key ∧
      (s.normalized t key = ⟨none, none⟩ → ¬ (read.stateLost = true ∨ ¬ read.incomplete = true)) := by
  have h_calculated := h_parses.calculated
  have h_time := Session.time_of_calculated h_calculated
  unfold ParsedCapacityRead.stateLost
  rw [h_parses.incomplete]
  obtain ⟨h_none, _, h_fields⟩ | ⟨h_lost, h_incomplete⟩ | ⟨last, stored, h_whole, h_fields⟩ :=
    (s.server.state key).normalize_cases t (s.client.stateLossSuspected key.id t)
  · have h_normalized : s.normalized t key = ⟨none, none⟩ := h_none
    unfold Session.calculated at h_calculated
    rw [h_normalized, calculateWithExpiry_none h_time] at h_calculated
    injection h_calculated with h_eq
    rw [← h_eq, h_normalized, h_fields]
    exact ⟨rfl, fun _ => by simp [BucketFields.incomplete]⟩
  · have h_normalized : s.normalized t key = ⟨some t, some 0⟩ := h_lost
    unfold Session.calculated at h_calculated
    rw [h_normalized, calculateWithExpiry_some _ _ h_time] at h_calculated
    injection h_calculated with h_eq
    rw [← h_eq, h_normalized, h_incomplete]
    exact ⟨rfl, nofun⟩
  · have h_normalized : s.normalized t key = ⟨some last, some stored⟩ := h_whole
    rw [h_normalized, h_fields]
    exact ⟨rfl, nofun⟩

/-- A list parsed key by key. -/
theorem parses_ids {keys : List BucketKey} {reads : List ParsedCapacityRead}
    (h_parses : List.Forall₂ (Parses s t) keys reads) :
    (reads.map fun read => read.key.id) = keys.map BucketKey.id ∧
      ∀ key ∈ keys, ∃ read ∈ reads, Parses s t key read := by
  induction h_parses with
  | nil => exact ⟨rfl, nofun⟩
  | cons h_first _ ih =>
    refine ⟨by rw [List.map_cons, List.map_cons, ih.1, h_first.key_eq], fun key h_mem => ?_⟩
    rcases List.mem_cons.mp h_mem with rfl | h_mem
    · exact ⟨_, List.mem_cons_self, h_first⟩
    · obtain ⟨read, h_read, h_parses⟩ := ih.2 key h_mem
      exact ⟨read, List.mem_cons_of_mem _ h_read, h_parses⟩

theorem getCapacitiesUnsafe_alone {keys : List BucketKey}
    (h_nodup : (keys.map BucketKey.id).Nodup) :
    AloneEnds t (fun result s' =>
        match result with
        | .ok read => ReadLeaves s t keys read.capacities s'
        | .error _ => t < 0)
      (getCapacitiesUnsafe keys t) s := by
  have h_results : Alone t (fun results s' => s' = s ∧
      results = fun key => (s.server.state key, s.server.maxCapacityOverride key))
      (send (.readBuckets keys)) s := send_alone fun _ _ => ⟨rfl, rfl⟩
  refine h_results.then fun results s₁ ⟨h_s₁, h_results⟩ => ?_
  rw [h_s₁, h_results]
  refine Follows.bind (parseResults_alone keys) (fun reads s₂ ⟨h_s₂, h_parses⟩ => ?_)
    fun e s₂ h => h.2
  rw [h_s₂]
  obtain ⟨h_ids, h_read⟩ := parses_ids h_parses
  rw [← h_ids] at h_nodup
  refine (repairStates_alone _).then fun _ s₃ h_s₃ => ?_
  refine (refreshOverrides_alone reads).then fun _ s₄ h_s₄ => ?_
  have h_caches : Alone t (fun _ s' => s' = { s₄ with client := { s₄.client with
      caches := noteReads t reads s₄.client.caches } }) (send (.updateCaches (noteReads t reads)))
      s₄ := send_alone fun _ _ => rfl
  refine h_caches.then fun _ s₅ h_s₅ => ?_
  obtain ⟨h_client₄, overrideExpiry, h_server₄, h_kept⟩ := h_s₄
  rw [h_s₃] at h_client₄ h_server₄ h_kept
  generalize h_lostKeys : (reads.filter ParsedCapacityRead.stateLost).map ParsedCapacityRead.key =
    lostKeys at *
  obtain ⟨state, h_state⟩ := @setStates_state t s.server (lostKeys.map fun key => (key, 0))
  refine ⟨⟨noteReads t reads s.client.caches, ?_⟩, ⟨state, overrideExpiry, ?_⟩, fun key h_mem => ?_⟩
  · rw [h_s₅]
    show ({ s₄.client with caches := noteReads t reads s₄.client.caches } : RedisClient) = _
    rw [h_client₄]
    rfl
  · rw [h_s₅]
    show s₄.server = _
    rw [h_server₄]
    show { s.server.setStates _ t with overrideExpiry := overrideExpiry } = _
    rw [h_state]
  · obtain ⟨read, h_mem, h_found⟩ := h_read key h_mem
    obtain ⟨h_pair, h_fresh⟩ := h_found.lost
    have h_key := h_found.key_eq
    obtain ⟨h_override, h_confirmed⟩ := noteReads_mem s.client.caches h_nodup h_mem (t := t)
    -- the keys of lost buckets are those of lost reads
    have h_lost : key ∈ lostKeys ↔ read.stateLost = true := by
      rw [← h_lostKeys, List.mem_map]
      constructor
      · rintro ⟨other, h_other, h_same⟩
        obtain ⟨h_other, h_stateLost⟩ := List.mem_filter.mp h_other
        have h_eq : other = read := List.inj_on_of_nodup_map h_nodup h_other h_mem
          (by rw [h_same, h_key])
        rw [← h_eq]
        exact h_stateLost
      · exact fun h_stateLost => ⟨read, List.mem_filter.mpr ⟨h_mem, h_stateLost⟩, h_key⟩
    have h_client₅ : s₅.client.caches = noteReads t reads s.client.caches := by
      rw [h_s₅]
      show noteReads t reads s₄.client.caches = _
      rw [h_client₄]
      rfl
    have h_server₅ : s₅.server = s₄.server := by rw [h_s₅]
    constructor
    · have h_amount : capacitiesOf reads key.id = read.calculated.amount := by
        rw [← h_key]
        exact capacitiesOf_mem h_nodup h_mem
      have h_same : read.calculated =
          ⟨capacitiesOf reads key.id, read.calculated.isFreshStart⟩ := by rw [h_amount]
      rw [h_found.calculated]
      exact ⟨_, congrArg Except.ok h_same⟩
    · rw [h_server₅, h_server₄, ← h_pair]
      show (s.server.setStates _ t).state key = _
      rw [setStates_drained]
      exact if_congr h_lost rfl rfl
    · intro h_none
      rw [h_server₅, h_server₄]
      show overrideExpiry key = _
      have h_same := h_kept key ?_
      · rw [h_same]
        show (s.server.setStates _ t).overrideExpiry key = _
        rw [h_state]
      · rintro ⟨other, h_other, h_same, h_some⟩
        have h_eq : other = read := List.inj_on_of_nodup_map h_nodup h_other h_mem
          (by rw [h_same, h_key])
        rw [h_eq, h_found.override, h_none] at h_some
        cases h_some
    · rw [h_client₅, ← h_key, h_override, h_found.override, h_key]
    · intro h_normalized
      rw [h_client₅, ← h_key]
      exact h_confirmed (h_fresh h_normalized)

end RedisBackend

end TokenThrottle
