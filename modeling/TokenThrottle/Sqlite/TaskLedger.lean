/-
  TokenThrottle.Sqlite.TaskLedger

  The reservations of interleaved acquires.  The ledger of the store and the histories of the
  calls tell the same story: the transaction of an acquire leaves the marker of the newest
  consumption, the ledger never loses it, and what the ledger credits, some call gave back.
-/
import TokenThrottle.Sqlite.Tasks

namespace TokenThrottle

open Theory (Body Run Steps exists_run_of_exec)

/-- The marker of an acquire of an engine. -/
structure MarkerRow.IsOf (row : MarkerRow) (e : SqliteEngine) (usage : FrozenUsage) : Prop where
  modelFamily : row.modelFamily = e.modelFamily
  bucketIds : row.bucketIds = e.bucketIds
  reservedUsage : row.reservedUsage = usage

/-- The marker that an acquire leaves: inserted for the lifetime of its reservation, or found
    before it has expired. -/
structure MarkerRow.LeftBy (row : MarkerRow) (e : SqliteEngine) (usage : FrozenUsage)
    (lifetime : Option ℚ) (currentTime : ℚ) (outcome : Outcome) : Prop where
  isOf : row.IsOf e usage
  inserted : outcome = .consumed →
    row.createdAt = currentTime ∧ lifetime = some (row.expiresAt - currentTime)
  found : outcome = .replayed → currentTime < row.expiresAt

/-- The reservation that a call gives back. -/
def EngineRequest.givesBack : EngineRequest → Option ReservationId
  | .refund given _ => given.reservationId
  | .cleanupConsumption _ _ reservationId => reservationId
  | _ => none

/-! ## The marker that an acquire leaves -/

namespace SqliteEngine

variable {e e' : SqliteEngine} {input : TxnInput} {db db' : Database} {s s' : TxnState}
  {usage : FrozenUsage} {rid : ReservationId} {lifetime : Option ℚ} {currentTime : ℚ}

/-- A replay has found the marker of the same acquire. -/
theorem raiseIfDuplicateAcquire_replayed
    (h_ok : e.raiseIfDuplicateAcquire (some rid) currentTime usage s = .ok true s') :
    ∃ marker, s'.db.acquireMarkers (e.reservationKey rid) = some marker ∧
      marker.IsOf e usage ∧ currentTime < marker.expiresAt := by
  obtain ⟨marker, s₁, h_read, h_ok⟩ := Body.of_bind_ok h_ok
  obtain ⟨_, h_marker, _⟩ := readLiveMarker_ok h_read
  obtain ⟨tombstone, s₂, h_tombstone, h_ok⟩ := Body.of_bind_ok h_ok
  obtain ⟨_, _, h_markers⟩ := readLiveTombstone_ok h_tombstone
  cases marker with
  | some marker =>
    simp only at h_ok
    split at h_ok
    · rename_i h_same
      obtain ⟨_, rfl⟩ := Body.of_pure_ok h_ok
      exact ⟨marker, by rw [h_markers, h_marker], ⟨h_same.1, h_same.2.1, h_same.2.2⟩,
        readLiveMarker_live h_read⟩
    · cases h_ok
  | none =>
    cases tombstone with
    | some tombstone => cases h_ok
    | none =>
      obtain ⟨h_false, _⟩ := Body.of_pure_ok h_ok
      cases h_false

/-- An acquire that found capacity, or was a replay, leaves its marker in the table. -/
theorem tryConsume_marker {result : TryConsumeResult}
    (h_ok : e.tryConsume input db usage (some rid) lifetime = (.ok result, e', db'))
    (h_available : result.available = true) :
    ∃ marker, db'.acquireMarkers (e.reservationKey rid) = some marker ∧
      marker.LeftBy e usage lifetime input.currentTime result.outcome := by
  obtain ⟨s, h_run, rfl⟩ := transaction_ok h_ok
  obtain ⟨_, s₁, _, h_ok⟩ := Body.of_bind_ok h_run
  obtain ⟨replayed, s₂, h_duplicate, h_ok⟩ := Body.of_bind_ok h_ok
  obtain ⟨states, s₃, h_load, h_ok⟩ := Body.of_bind_ok h_ok
  have h_same : SameReservations s₂.db s₃.db := loadStates_sameReservations _ _ _ _ _ _ h_load
  cases replayed with
  | true =>
    obtain ⟨rfl, rfl⟩ := Body.of_pure_ok h_ok
    obtain ⟨marker, h_marker, h_isOf, h_live⟩ := raiseIfDuplicateAcquire_replayed h_duplicate
    refine ⟨marker, by rw [h_same.1, h_marker], h_isOf, ?_, fun _ => h_live⟩
    intro h_consumed
    cases h_consumed
  | false =>
    simp only [Bool.false_eq_true, if_false] at h_ok
    split at h_ok
    · cases h_ok
    · split at h_ok
      · obtain ⟨rfl, rfl⟩ := Body.of_pure_ok h_ok
        cases h_available
      · obtain ⟨_, s₄, _, h_ok⟩ := Body.of_bind_ok h_ok
        obtain ⟨_, s₅, h_insert, h_ok⟩ := Body.of_bind_ok h_ok
        obtain ⟨rfl, rfl⟩ := Body.of_pure_ok h_ok
        obtain ⟨h_none, _⟩ | ⟨rid', l, h_rid, rfl, h_db⟩ := insertMarker_ok h_insert
        · cases h_none
        · cases h_rid
          have h_marker : s.db.acquireMarkers (e.reservationKey rid) =
              some ⟨e.modelFamily, e.bucketIds, usage, input.currentTime, input.currentTime + l⟩ := by
            rw [h_db]
            exact Function.update_self _ _ _
          refine ⟨_, h_marker, ⟨rfl, rfl, rfl⟩, fun _ => ⟨rfl, ?_⟩, ?_⟩
          · rw [add_sub_cancel_left]
          · intro h_replayed
            cases h_replayed

theorem call_marker {outcome : Outcome}
    (h_ok : e.call input db (.tryConsume usage (some rid) lifetime) = (.ok outcome, e', db'))
    (h_outcome : outcome ≠ .unavailable) :
    ∃ marker, db'.acquireMarkers (e.reservationKey rid) = some marker ∧
      marker.LeftBy e usage lifetime input.currentTime outcome := by
  obtain ⟨result, h_try, rfl⟩ := of_answer_ok h_ok
  refine tryConsume_marker h_try ?_
  by_contra h_available
  unfold TryConsumeResult.outcome at h_outcome
  rw [if_neg h_available] at h_outcome
  exact h_outcome rfl

/-- A call that makes an entry of credit gives its reservation back. -/
theorem entry_credited {request : EngineRequest} {outcome : Outcome} {key : ReservationKey}
    (h_entry : e.entry input request (.ok outcome) = .credited key) :
    ∃ rid, request.givesBack = some rid ∧ e.reservationKey rid = key := by
  have h_credits : ∀ {reservationId : Option ReservationId},
      e.credits reservationId = .credited key →
        ∃ rid, reservationId = some rid ∧ e.reservationKey rid = key := by
    intro reservationId h_credits
    cases reservationId with
    | none => cases h_credits
    | some rid =>
      cases h_credits
      exact ⟨rid, rfl, rfl⟩
  have h_opens : ∀ {usage : FrozenUsage} {reservationId : Option ReservationId}
      {lifetime : Option ℚ}, e.opens input usage reservationId lifetime ≠ .credited key := by
    intro usage reservationId lifetime h_opens
    cases reservationId <;> cases lifetime <;> cases h_opens
  cases request with
  | tryConsume usage reservationId lifetime =>
    cases outcome with
    | consumed => exact absurd h_entry h_opens
    | _ => cases h_entry
  | consume usage reservationId lifetime =>
    cases outcome with
    | consumed => exact absurd h_entry h_opens
    | _ => cases h_entry
  | refund refund refundBucketIds => exact h_credits h_entry
  | cleanupConsumption usage bucketIds reservationId => exact h_credits h_entry
  | _ => cases h_entry

theorem entry_error (e : SqliteEngine) (input : TxnInput) (request : EngineRequest)
    (error : BackendError) : e.entry input request (.error error) = .nothing := by
  cases request <;> rfl

end SqliteEngine

/-! ## The ledger grows -/

namespace Ledger

variable {ledger : Ledger} {entry : Entry} {key : ReservationKey}

/-- No entry takes a consumption out of the ledger. -/
theorem enter_keeps {p : MarkerRow → Prop} (h_held : ∃ c ∈ ledger.history key, p c.marker) :
    ∃ c ∈ (ledger.enter entry).history key, p c.marker := by
  obtain ⟨c, h_mem, h_marker⟩ := h_held
  cases entry with
  | nothing => exact ⟨c, h_mem, h_marker⟩
  | opened key' marker =>
    by_cases h_key : key = key'
    · subst h_key
      refine ⟨c, ?_, h_marker⟩
      simp only [enter, Function.update_self]
      exact List.mem_cons_of_mem _ h_mem
    · refine ⟨c, ?_, h_marker⟩
      simpa only [enter, Function.update_of_ne h_key] using h_mem
  | credited key' =>
    cases h_history : ledger.history key' with
    | nil =>
      refine ⟨c, ?_, h_marker⟩
      simpa only [enter, h_history] using h_mem
    | cons newest earlier =>
      by_cases h_key : key = key'
      · subst h_key
        simp only [enter, h_history, Function.update_self]
        rw [h_history, List.mem_cons] at h_mem
        obtain rfl | h_mem := h_mem
        · exact ⟨_, List.mem_cons_self, h_marker⟩
        · exact ⟨c, List.mem_cons_of_mem _ h_mem, h_marker⟩
      · refine ⟨c, ?_, h_marker⟩
        simpa only [enter, h_history, Function.update_of_ne h_key] using h_mem

/-- A credit in the ledger was there before, or has just been entered. -/
theorem enter_credits {c : Consumption} (h_mem : c ∈ (ledger.enter entry).history key)
    (h_credits : c.credits ≠ 0) :
    (∃ c' ∈ ledger.history key, c'.credits ≠ 0) ∨ entry = .credited key := by
  cases entry with
  | nothing => exact .inl ⟨c, h_mem, h_credits⟩
  | opened key' marker =>
    by_cases h_key : key = key'
    · subst h_key
      simp only [enter, Function.update_self, List.mem_cons] at h_mem
      obtain rfl | h_mem := h_mem
      · exact absurd rfl h_credits
      · exact .inl ⟨c, h_mem, h_credits⟩
    · simp only [enter, Function.update_of_ne h_key] at h_mem
      exact .inl ⟨c, h_mem, h_credits⟩
  | credited key' =>
    by_cases h_key : key = key'
    · rw [h_key]
      exact .inr rfl
    · left
      cases h_history : ledger.history key' with
      | nil =>
        simp only [enter, h_history] at h_mem
        exact ⟨c, h_mem, h_credits⟩
      | cons newest earlier =>
        simp only [enter, h_history, Function.update_of_ne h_key] at h_mem
        exact ⟨c, h_mem, h_credits⟩

end Ledger

/-- A consumption that was not credited has its marker in the table until it expires. -/
theorem Accounted.kept {ledger : Ledger} {db : Database} {clock : ℚ} {key : ReservationKey}
    {c : Consumption} (h_acc : Accounted ledger db clock) (h_mem : c ∈ ledger.history key)
    (h_credits : c.credits = 0) :
    db.acquireMarkers key = some c.marker ∨ c.marker.expiresAt ≤ clock := by
  cases h_history : ledger.history key with
  | nil =>
    rw [h_history] at h_mem
    cases h_mem
  | cons newest earlier =>
    rw [h_history, List.mem_cons] at h_mem
    obtain rfl | h_mem := h_mem
    · exact h_acc.marker_kept key _ earlier h_history h_credits
    · exact .inr (h_acc.earlier_expired key newest earlier h_history c h_mem h_credits)

/-! ## Histories and the ledger -/

namespace SqliteTasks

variable {ι : Type} [DecidableEq ι] {engine : ι → SqliteEngine} {clock : ℚ}
  {s s' : SqliteTasks ι} {i : TaskId} {task : Task ι} {label : Label ι}

/-- What names the records of an engine never changes. -/
structure SameNames (e e' : SqliteEngine) : Prop where
  keyPrefix : e'.keyPrefix = e.keyPrefix
  modelFamily : e'.modelFamily = e.modelFamily
  bucketIds : e'.bucketIds = e.bucketIds

theorem SameNames.trans {e e' e'' : SqliteEngine} (h_first : SameNames e e')
    (h_second : SameNames e' e'') : SameNames e e'' where
  keyPrefix := h_second.keyPrefix.trans h_first.keyPrefix
  modelFamily := h_second.modelFamily.trans h_first.modelFamily
  bucketIds := h_second.bucketIds.trans h_first.bucketIds

theorem SameNames.reservationKey {e e' : SqliteEngine} (h_same : SameNames e e')
    (rid : ReservationId) : e'.reservationKey rid = e.reservationKey rid := by
  unfold SqliteEngine.reservationKey
  rw [h_same.keyPrefix]

theorem SameNames.leftBy {e e' : SqliteEngine} {row : MarkerRow} {usage : FrozenUsage}
    {lifetime : Option ℚ} {currentTime : ℚ} {outcome : Outcome} (h_same : SameNames e e')
    (h_left : row.LeftBy e' usage lifetime currentTime outcome) :
    row.LeftBy e usage lifetime currentTime outcome where
  isOf :=
    { modelFamily := h_left.isOf.modelFamily.trans h_same.modelFamily
      bucketIds := h_left.isOf.bucketIds.trans h_same.bucketIds
      reservedUsage := h_left.isOf.reservedUsage }
  inserted := h_left.inserted
  found := h_left.found

theorem call_sameNames (e : SqliteEngine) (input : TxnInput) (db : Database)
    (request : EngineRequest) : SameNames e (e.call input db request).2.1 := by
  obtain ⟨result, e', db', h_call⟩ : ∃ result e' db', e.call input db request =
    (result, e', db') := ⟨_, _, _, rfl⟩
  rw [h_call]
  cases result with
  | ok outcome =>
    obtain ⟨_, _, rfl, _⟩ := SqliteEngine.call_rows h_call
    exact ⟨rfl, rfl, rfl⟩
  | error error =>
    obtain ⟨rfl, _⟩ := SqliteEngine.call_error h_call
    exact ⟨rfl, rfl, rfl⟩

/-- The backend of a call. -/
def backend (s : SqliteTasks ι) (i : TaskId) : Option ι := (s.tasks i).map Task.who

theorem act_store (s : SqliteTasks ι) (i : TaskId) (task : Task ι) (action : Action) :
    (s.act i task action).store = s.store := by
  cases action with
  | goto phase => rfl
  | submit rejectsBusy accepted refused =>
    simp only [act]
    split
    · rfl
    · split <;> rfl

theorem act_backend (s : SqliteTasks ι) (i : TaskId) (task : Task ι) (action : Action) :
    (s.act i task action).backend i = some task.who := by
  have h_phase : ∀ phase, (s.setPhase i task phase).backend i = some task.who := by
    intro phase
    show (Function.update s.tasks i _ i).map Task.who = _
    rw [Function.update_self]
    rfl
  cases action with
  | goto phase => exact h_phase phase
  | submit rejectsBusy accepted refused =>
    simp only [act]
    split
    · exact h_phase _
    · split <;> exact h_phase _

/-- A call never changes its backend. -/
theorem step_backend {j : TaskId} {who : ι} (h_backend : s.backend j = some who)
    (h_step : Steps step s label s') : s'.backend j = some who := by
  obtain ⟨held, h_held, rfl⟩ := Option.map_eq_some_iff.mp h_backend
  -- the step of another call leaves this one alone, and its own keeps the backend
  have h_update : ∀ {i : TaskId} {task task' : Task ι}, s.tasks i = some task →
      task'.who = task.who →
      (Function.update s.tasks i (some task') j).map Task.who = some held.who := by
    intro i task task' h_task h_who
    by_cases h_eq : j = i
    · subst h_eq
      rw [h_held] at h_task
      cases h_task
      rw [Function.update_self, Option.map_some, h_who]
    · rw [Function.update_of_ne h_eq]
      exact h_backend
  have h_act : ∀ {i : TaskId} {task : Task ι} {action : Action}, s.tasks i = some task →
      (s.act i task action).backend j = some held.who := by
    intro i task action h_task
    by_cases h_eq : j = i
    · subst h_eq
      rw [h_held] at h_task
      cases h_task
      exact act_backend s j held action
    · show ((s.act i task action).tasks j).map Task.who = _
      rw [act_tasks_of_ne s task action h_eq]
      exact h_backend
  cases step_happens h_step with
  | @started i who operation h_new =>
    have h_ne : j ≠ i := by
      rintro rfl
      rw [h_held] at h_new
      cases h_new
    show (Function.update s.tasks i _ j).map Task.who = _
    rw [Function.update_of_ne h_ne]
    exact h_backend
  | resumed h_task _ => exact h_act h_task
  | interrupted h_task _ => exact h_act h_task
  | pickedUp h_task _ _ => exact h_update h_task rfl
  | ran h_task _ _ _ _ => exact h_update h_task rfl
  | failed h_task _ => exact h_update h_task rfl
  | beganClose => exact h_backend
  | closedEngine => exact h_backend
  | @shutDown who =>
    show ((s.tasks j).map (Task.cancelQueued who)).map Task.who = _
    rw [h_held, Option.map_some, Option.map_some, cancelQueued_who]

theorem run_backend {j : TaskId} {who : ι} {labels : List (Label ι)}
    (h_backend : s.backend j = some who) (h_run : Run (Steps step) s labels s') :
    s'.backend j = some who := by
  induction h_run with
  | nil => exact h_backend
  | cons h_step _ ih => exact ih (step_backend h_backend h_step)

/-- The ledger credits what the calls gave back. -/
structure OnBooks (engine : ι → SqliteEngine) (s : SqliteTasks ι) : Prop where
  names : ∀ who, SameNames (engine who) (s.store.engine who)
  inAccount : s.store.InAccount
  given : ∀ key, (∃ c ∈ s.store.ledger.history key, c.credits ≠ 0) →
    ∃ i who request outcome rid, s.backend i = some who ∧ (request, outcome) ∈ s.commits i ∧
      request.givesBack = some rid ∧ (engine who).reservationKey rid = key

omit [DecidableEq ι] in
theorem init_onBooks (engine : ι → SqliteEngine) (clock : ℚ) :
    OnBooks engine (init engine clock) where
  names _ := ⟨rfl, rfl, rfl⟩
  inAccount := Accounted.empty clock
  given key h_credited := by
    obtain ⟨c, h_mem, _⟩ := h_credited
    cases h_mem

/-- A step that runs no transaction. -/
theorem OnBooks.idle (h_books : OnBooks engine s)
    (h_step : Steps step s label s') (h_store : s'.store = s.store)
    (h_commits : s'.commits = s.commits) : OnBooks engine s' where
  names := by
    rw [h_store]
    exact h_books.names
  inAccount := by
    unfold SharedStore.InAccount
    rw [h_store]
    exact h_books.inAccount
  given key h_credited := by
    rw [h_store] at h_credited
    obtain ⟨i, who, request, outcome, rid, h_backend, h_mem, h_gives⟩ :=
      h_books.given key h_credited
    refine ⟨i, who, request, outcome, rid, step_backend h_backend h_step, ?_, h_gives⟩
    rw [h_commits]
    exact h_mem

theorem mem_record {commits : TaskId → List (EngineRequest × Outcome)} {j : TaskId}
    {request : EngineRequest} {result : Except BackendError Outcome}
    {entry : EngineRequest × Outcome} :
    entry ∈ record commits i request result j ↔
      entry ∈ commits j ∨ j = i ∧ ∃ outcome, result = .ok outcome ∧ entry = (request, outcome) := by
  cases result with
  | error error => simp [record]
  | ok outcome =>
    by_cases h_eq : j = i
    · subst h_eq
      simp [record]
    · simp [record, h_eq]

/-- The transaction of a call, and what it enters in the ledger. -/
theorem OnBooks.ran (h_books : OnBooks engine s)
    (h_step : Steps step s label s') {input : TxnInput} {request : EngineRequest}
    {result : Except BackendError Outcome} (h_task : s.tasks i = some task)
    (h_result : result = ((s.store.engine task.who).call input s.store.db request).1)
    (h_store : s.store.step (task.who, input, request) = some s'.store)
    (h_commits : s'.commits = record s.commits i request result) : OnBooks engine s' := by
  have h_account : s'.store.InAccount := SharedStore.step_inAccount h_books.inAccount h_store
  have h_backend : s.backend i = some task.who := by
    unfold backend
    rw [h_task]
    rfl
  have h_names := h_books.names task.who
  obtain ⟨result', e', db', h_call⟩ : ∃ result e' db',
    (s.store.engine task.who).call input s.store.db request = (result, e', db') := ⟨_, _, _, rfl⟩
  rw [h_call] at h_result
  subst h_result
  simp only [SharedStore.step, h_call] at h_store
  split at h_store
  swap
  · cases h_store
  have h_eq := Option.some.inj h_store
  have h_ledger : s'.store.ledger =
      s.store.ledger.enter ((s.store.engine task.who).entry input request result) := by
    rw [← h_eq]
  have h_engine : s'.store.engine = Function.update s.store.engine task.who e' := by rw [← h_eq]
  refine ⟨fun who => ?_, h_account, ?_⟩
  · rw [h_engine]
    by_cases h_who : who = task.who
    · rw [h_who, Function.update_self]
      have h_same := call_sameNames (s.store.engine task.who) input s.store.db request
      rw [h_call] at h_same
      exact h_names.trans h_same
    · rw [Function.update_of_ne h_who]
      exact h_books.names who
  · intro key h_credited
    obtain ⟨c, h_mem, h_credits⟩ := h_credited
    rw [h_ledger] at h_mem
    obtain h_old | h_entry := Ledger.enter_credits h_mem h_credits
    · obtain ⟨j, who, request', outcome, rid, h_before, h_mem, h_gives⟩ := h_books.given key h_old
      refine ⟨j, who, request', outcome, rid, step_backend h_before h_step, ?_, h_gives⟩
      rw [h_commits, mem_record]
      exact .inl h_mem
    · cases result with
      | error error =>
        rw [SqliteEngine.entry_error] at h_entry
        cases h_entry
      | ok outcome =>
        obtain ⟨rid, h_gives, h_key⟩ := SqliteEngine.entry_credited h_entry
        refine ⟨i, task.who, request, outcome, rid, step_backend h_backend h_step, ?_, h_gives, ?_⟩
        · rw [h_commits, mem_record]
          exact .inr ⟨rfl, outcome, rfl, rfl⟩
        · rw [← h_key, h_names.reservationKey]

theorem step_onBooks (h_books : OnBooks engine s) (h_step : Steps step s label s') :
    OnBooks engine s' := by
  have h_happens := step_happens h_step
  cases h_happens with
  | started _ => exact h_books.idle h_step rfl rfl
  | resumed _ _ => exact h_books.idle h_step (act_store _ _ _ _) (act_commits _ _ _ _)
  | interrupted _ _ => exact h_books.idle h_step (act_store _ _ _ _) (act_commits _ _ _ _)
  | pickedUp _ _ _ => exact h_books.idle h_step rfl rfl
  | ran h_task _ _ h_result h_store => exact h_books.ran h_step h_task h_result h_store rfl
  | failed _ _ => exact h_books.idle h_step rfl rfl
  | beganClose => exact h_books.idle h_step rfl rfl
  | closedEngine => exact h_books.idle h_step rfl rfl
  | shutDown => exact h_books.idle h_step rfl rfl

theorem run_onBooks {labels : List (Label ι)}
    (h_run : Run (Steps step) (init engine clock) labels s) : OnBooks engine s :=
  h_run.invariant (fun _ _ _ => step_onBooks) (init_onBooks engine clock)

/-- What a step adds to the history of a call, the call's transaction has committed. -/
theorem ran_of_committed {request : EngineRequest} {outcome : Outcome}
    (h_step : Steps step s label s') (h_new : (request, outcome) ∉ s.commits i)
    (h_mem : (request, outcome) ∈ s'.commits i) :
    ∃ task input e', label = .run i input ∧ s.tasks i = some task ∧
      (s.store.engine task.who).call input s.store.db request =
        (.ok outcome, e', s'.store.db) := by
  cases step_happens h_step with
  | resumed _ _ =>
    rw [act_commits] at h_mem
    exact absurd h_mem h_new
  | interrupted _ _ =>
    rw [act_commits] at h_mem
    exact absurd h_mem h_new
  | @ran j task input request' result store h_task _ _ h_result h_store =>
    obtain h_old | ⟨rfl, outcome', rfl, h_entry⟩ := mem_record.mp h_mem
    · exact absurd h_old h_new
    · obtain ⟨rfl, rfl⟩ := Prod.mk.inj h_entry
      obtain ⟨result, e', db', h_call⟩ : ∃ result e' db', (s.store.engine task.who).call input
        s.store.db request = (result, e', db') := ⟨_, _, _, rfl⟩
      simp only [SharedStore.step, h_call] at h_store
      split at h_store
      · rw [h_call] at h_result
        cases h_store
        cases h_result
        exact ⟨task, input, e', rfl, h_task, h_call⟩
      · cases h_store
  | _ => exact absurd h_mem h_new

/-- No step takes a consumption out of the ledger. -/
theorem step_keeps {p : MarkerRow → Prop} {key : ReservationKey} (h_step : Steps step s label s')
    (h_held : ∃ c ∈ s.store.ledger.history key, p c.marker) :
    ∃ c ∈ s'.store.ledger.history key, p c.marker := by
  cases step_happens h_step with
  | resumed _ _ =>
    rw [act_store]
    exact h_held
  | interrupted _ _ =>
    rw [act_store]
    exact h_held
  | @ran j task input request result store _ _ _ _ h_store =>
    simp only [SharedStore.step] at h_store
    split at h_store
    · cases h_store
      exact Ledger.enter_keeps h_held
    · cases h_store
  | _ => exact h_held

theorem run_keeps {p : MarkerRow → Prop} {key : ReservationKey} {labels : List (Label ι)}
    (h_run : Run (Steps step) s labels s')
    (h_held : ∃ c ∈ s.store.ledger.history key, p c.marker) :
    ∃ c ∈ s'.store.ledger.history key, p c.marker := by
  induction h_run with
  | nil => exact h_held
  | cons h_step _ ih => exact ih (step_keeps h_step h_held)

/-- An acquire that returned success, by consuming or as a replay, has its reservation in the
    table: unless a refund or a cleanup gave it back, the row that its own last transaction
    has inserted for the lifetime of the reservation, or has found unexpired, is there until
    that row expires. -/
theorem returned_reserved (engine : ι → SqliteEngine) (clock : ℚ) {labels : List (Label ι)}
    (h_run : Run (Steps step) (init engine clock) labels s) (h_task : s.tasks i = some task)
    {usage : FrozenUsage} {rid : ReservationId} {lifetime : Option ℚ} {rejectsBusy : Bool}
    (h_operation : task.operation = .awaitForCapacity usage (some rid) lifetime rejectsBusy)
    (h_returned : task.phase = .returned)
    (h_kept : ∀ j who request outcome other, s.backend j = some who →
      (request, outcome) ∈ s.commits j → request.givesBack = some other →
        (engine who).reservationKey other ≠ (engine task.who).reservationKey rid) :
    ∃ before input after s₁ s₂ outcome marker, labels = before ++ .run i input :: after ∧
      Run (Steps step) (init engine clock) before s₁ ∧ Steps step s₁ (.run i input) s₂ ∧
      Run (Steps step) s₂ after s ∧ outcome ≠ .unavailable ∧
      (EngineRequest.tryConsume usage (some rid) lifetime, outcome) ∈ s₂.commits i ∧
      s₂.store.db.acquireMarkers ((engine task.who).reservationKey rid) = some marker ∧
      marker.LeftBy (engine task.who) usage lifetime input.currentTime outcome ∧
      (s.store.db.acquireMarkers ((engine task.who).reservationKey rid) = some marker ∨
        marker.expiresAt ≤ s.store.clock) := by
  have h_books := run_onBooks h_run
  have h_backend : s.backend i = some task.who := by
    unfold backend
    rw [h_task]
    rfl
  -- the last transaction of a call that returned has found capacity or a marker
  obtain ⟨outcome, h_outcome, h_mem⟩ : ∃ outcome, outcome ≠ Outcome.unavailable ∧
      (EngineRequest.tryConsume usage (some rid) lifetime, outcome) ∈ s.commits i := by
    have h_accounts := (run_sound h_run).accounts i task h_task
    rw [h_operation, h_returned] at h_accounts
    obtain ⟨denied, h_ends⟩ | ⟨denied, h_ends⟩ := h_accounts
    · exact ⟨.consumed, by decide, by rw [h_ends]; simp⟩
    · exact ⟨.replayed, by decide, by rw [h_ends]; simp⟩
  obtain h_init | ⟨before, label, after, s₁, s₂, h_labels, h_before, h_step, h_after, h_new,
    h_mem₂⟩ := h_run.arises (p := fun s => (EngineRequest.tryConsume usage (some rid) lifetime,
      outcome) ∈ s.commits i) h_mem
  · cases h_init
  obtain ⟨task₁, input, e', rfl, h_task₁, h_call⟩ := ran_of_committed h_step h_new h_mem₂
  have h_who : task₁.who = task.who := by
    have h_backend₁ : s₁.backend i = some task₁.who := by
      unfold backend
      rw [h_task₁]
      rfl
    have h_backend₂ : s.backend i = some task₁.who :=
      run_backend (step_backend h_backend₁ h_step) h_after
    exact Option.some.inj (h_backend₂.symm.trans h_backend)
  rw [h_who] at h_call
  have h_names := (run_onBooks h_before).names task.who
  obtain ⟨marker, h_marker, h_left⟩ := SqliteEngine.call_marker h_call h_outcome
  rw [h_names.reservationKey] at h_marker
  refine ⟨before, input, after, s₁, s₂, outcome, marker, h_labels, h_before, h_step, h_after,
    h_outcome, h_mem₂, h_marker, h_names.leftBy h_left, ?_⟩
  -- the marker in the table is that of the newest consumption, and the ledger keeps it
  obtain ⟨earlier, h_history⟩ :=
    (run_onBooks (h_before.snoc h_step)).inAccount.marker_newest _ _ h_marker
  have h_held₂ : ∃ c ∈ s₂.store.ledger.history ((engine task.who).reservationKey rid),
      c.marker = marker := ⟨⟨marker, 0⟩, by rw [h_history]; exact List.mem_cons_self, rfl⟩
  obtain ⟨c, h_held, rfl⟩ := run_keeps (p := fun row => row = marker) h_after h_held₂
  apply h_books.inAccount.kept h_held
  by_contra h_credits
  obtain ⟨j, who, request, outcome', other, h_other, h_given, h_gives, h_key⟩ :=
    h_books.given _ ⟨c, h_held, h_credits⟩
  exact h_kept j who request outcome' other h_other h_given h_gives h_key

/-- The history of a call whose job never runs. -/
theorem run_commits_of_never {j : TaskId} {labels : List (Label ι)}
    (h_run : Run (Steps step) s labels s') (h_never : ∀ input, .run j input ∉ labels) :
    s'.commits j = s.commits j := by
  induction h_run with
  | nil => rfl
  | cons h_step h_rest ih =>
    rw [ih fun input h_mem => h_never input (List.mem_cons_of_mem _ h_mem)]
    cases step_happens h_step with
    | resumed _ _ => rw [act_commits]
    | interrupted _ _ => rw [act_commits]
    | @ran i task input request result store _ _ _ _ _ =>
      have h_ne : j ≠ i := by
        rintro rfl
        exact h_never input List.mem_cons_self
      cases result with
      | ok outcome => exact Function.update_of_ne h_ne _ _
      | error error => rfl
    | _ => rfl

/-- An acquire of 60 tokens that nobody disturbs. -/
def undisturbedAcquire : List (Label Unit) :=
  [.start 0 () (.awaitForCapacity (tokens 60) (some "a") (some 3600) false), .resume 0 false,
    .pickUp 0, .run 0 (.at 0), .resume 0 false, .resume 0 false]

theorem returned_reserved_undisturbedAcquire :
    ∃ s, Run (Steps step) (init (fun _ : Unit => exampleEngine) 0) undisturbedAcquire s ∧
      (s.store.db.acquireMarkers ⟨"p", "a"⟩).map MarkerRow.expiresAt = some 3600 ∧
      ∃ (input : TxnInput) (outcome : Outcome) (marker : MarkerRow),
        .run 0 input ∈ undisturbedAcquire ∧
        marker.LeftBy exampleEngine (tokens 60) (some 3600) input.currentTime outcome ∧
        (s.store.db.acquireMarkers ⟨"p", "a"⟩ = some marker ∨
          marker.expiresAt ≤ s.store.clock) := by
  obtain ⟨s, h_run, h_marker, h_gives, h_arguments, h_exit⟩ :
      ∃ s, Run (Steps step) (init (fun _ : Unit => exampleEngine) 0) undisturbedAcquire s ∧
        (s.store.db.acquireMarkers ⟨"p", "a"⟩).map MarkerRow.expiresAt = some 3600 ∧
        (s.commits 0).map (fun entry => entry.1.givesBack) = [none] ∧
        (s.tasks 0).bind (fun task => task.operation.arguments) =
          some (tokens 60, some "a", some 3600, false) ∧
        (s.tasks 0).bind (fun task => task.phase.exit) = some (none) :=
    exists_run_of_exec (by decide +kernel)
  obtain ⟨task, h_task, h_arguments⟩ := Option.bind_eq_some_iff.mp h_arguments
  rw [h_task] at h_exit
  have h_kept : ∀ (j : TaskId) (who : Unit) request outcome other, s.backend j = some who →
      (request, outcome) ∈ s.commits j → request.givesBack = some other →
        exampleEngine.reservationKey other ≠ exampleEngine.reservationKey "a" := by
    intro j who request outcome other h_backend h_mem h_given
    exfalso
    by_cases h_eq : j = 0
    · rw [h_eq] at h_mem
      have h_none : request.givesBack ∈ (s.commits 0).map fun entry => entry.1.givesBack :=
        List.mem_map_of_mem h_mem
      rw [h_gives, List.mem_singleton, h_given] at h_none
      cases h_none
    · rw [run_commits_of_never h_run fun input h_label => ?_] at h_mem
      · cases h_mem
      · simp [undisturbedAcquire, h_eq] at h_label
  obtain ⟨before, input, after, _, _, outcome, marker, h_labels, _, _, _, _, _, _, h_left,
    h_now⟩ := returned_reserved _ _ h_run h_task (of_arguments h_arguments)
      (of_exit_returned h_exit) h_kept
  refine ⟨s, h_run, h_marker, input, outcome, marker, ?_, h_left, h_now⟩
  rw [h_labels]
  exact List.mem_append_right _ List.mem_cons_self

end SqliteTasks

end TokenThrottle
