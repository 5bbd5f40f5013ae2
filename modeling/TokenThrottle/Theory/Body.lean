/-
  TokenThrottle.Theory.Body

  The body of a transaction: a sequence of statements on a store, any of which may
  fail.  A failing body keeps what it wrote so far; `atomically` is what undoes it.

  * `bind_ok` runs a body forward, `of_bind_ok` takes a successful run apart.
  * `Ensures rel` says that every successful run relates the stores before and
    after; for a reflexive and transitive `rel` it composes along a body.
  * `Ends raises post` is a triple for one store: the body returns with `post`, or
    raises an error that `raises` allows.
  * `onError` and `ensuring` are the handlers of a `try`; `Finishes post` says how a body
    ends and what store it leaves in either case.
  * `Couples post` compares two runs: they end with the same result, in related stores.
-/
import Mathlib.Logic.Basic

namespace TokenThrottle.Theory

variable {ε σ α β : Type}

/-- Statements on a store `σ`, failing with `ε`. -/
abbrev Body (ε σ α : Type) := EStateM ε σ α

namespace Body

theorem bind_ok {body : Body ε σ α} {next : α → Body ε σ β} {s s' : σ} {a : α}
    (h_ok : body s = .ok a s') : (body >>= next) s = next a s' := by
  simp only [bind, EStateM.bind, h_ok]

theorem bind_error {body : Body ε σ α} {next : α → Body ε σ β} {s s' : σ} {e : ε}
    (h_error : body s = .error e s') : (body >>= next) s = .error e s' := by
  simp only [bind, EStateM.bind, h_error]

theorem of_bind_ok {body : Body ε σ α} {next : α → Body ε σ β} {s s'' : σ} {b : β}
    (h_ok : (body >>= next) s = .ok b s'') :
    ∃ a s', body s = .ok a s' ∧ next a s' = .ok b s'' := by
  cases h_body : body s with
  | ok a s' =>
    rw [bind_ok h_body] at h_ok
    exact ⟨a, s', rfl, h_ok⟩
  | error e s' =>
    rw [bind_error h_body] at h_ok
    cases h_ok

theorem of_pure_ok {a b : α} {s s' : σ}
    (h_ok : (pure a : Body ε σ α) s = .ok b s') : b = a ∧ s' = s := by
  cases h_ok
  exact ⟨rfl, rfl⟩

/-- Lifts a computation that does not touch the store. -/
def lift (x : Except ε α) : Body ε σ α := fun s =>
  match x with
  | .ok a => .ok a s
  | .error e => .error e s

@[simp] theorem lift_ok (a : α) (s : σ) : (lift (.ok a) : Body ε σ α) s = .ok a s := rfl

@[simp] theorem lift_error (e : ε) (s : σ) :
    (lift (.error e) : Body ε σ α) s = .error e s := rfl

theorem of_lift_ok {x : Except ε α} {a : α} {s s' : σ}
    (h_ok : (lift x : Body ε σ α) s = .ok a s') : x = .ok a ∧ s' = s := by
  cases x with
  | ok b =>
    cases h_ok
    exact ⟨rfl, rfl⟩
  | error e => cases h_ok

/-- A statement that runs under a condition. -/
def when (condition : Bool) (body : Body ε σ Unit) : Body ε σ Unit :=
  if condition then body else Pure.pure ()

@[simp] theorem when_false (body : Body ε σ Unit) (s : σ) : when false body s = .ok () s := rfl

@[simp] theorem when_true (body : Body ε σ Unit) : when true body = body := rfl

/-- Every successful run of the body relates the stores before and after. -/
def Ensures (body : Body ε σ α) (rel : σ → σ → Prop) : Prop :=
  ∀ s a s', body s = .ok a s' → rel s s'

theorem Ensures.bind {rel : σ → σ → Prop} {body : Body ε σ α} {next : α → Body ε σ β}
    (h_trans : ∀ s s' s'', rel s s' → rel s' s'' → rel s s'')
    (h_body : body.Ensures rel) (h_next : ∀ a, (next a).Ensures rel) :
    (body >>= next).Ensures rel := by
  intro s b s'' h_ok
  obtain ⟨a, s', h_first, h_second⟩ := of_bind_ok h_ok
  exact h_trans _ _ _ (h_body s a s' h_first) (h_next a s' b s'' h_second)

theorem Ensures.pure {rel : σ → σ → Prop} (h_refl : ∀ s, rel s s) (a : α) :
    (Pure.pure a : Body ε σ α).Ensures rel := by
  intro s b s' h_ok
  obtain ⟨_, rfl⟩ := of_pure_ok h_ok
  exact h_refl _

theorem Ensures.when {rel : σ → σ → Prop} {condition : Bool} {body : Body ε σ Unit}
    (h_refl : ∀ s, rel s s) (h_body : condition = true → body.Ensures rel) :
    (Body.when condition body).Ensures rel := by
  cases condition with
  | true => exact h_body rfl
  | false => exact Ensures.pure h_refl ()

theorem Ensures.lift {rel : σ → σ → Prop} (h_refl : ∀ s, rel s s) (x : Except ε α) :
    (Body.lift x : Body ε σ α).Ensures rel := by
  intro s b s' h_ok
  obtain ⟨_, rfl⟩ := of_lift_ok h_ok
  exact h_refl _

/-- From `s` the body returns with `post` or raises an error that `raises` allows. -/
def Ends (raises : ε → Prop) (post : α → σ → Prop) (body : Body ε σ α) (s : σ) : Prop :=
  match body s with
  | .ok a s' => post a s'
  | .error e _ => raises e

section Ends

variable {raises : ε → Prop} {post : α → σ → Prop} {body : Body ε σ α} {s s' : σ}

theorem Ends.of_ok {a : α} (h_ok : body s = .ok a s') (h_post : post a s') :
    Ends raises post body s := by
  unfold Ends
  rw [h_ok]
  exact h_post

theorem Ends.of_error {e : ε} (h_error : body s = .error e s') (h_raises : raises e) :
    Ends raises post body s := by
  unfold Ends
  rw [h_error]
  exact h_raises

/-- One statement run forward. -/
theorem Ends.step {next : α → Body ε σ β} {post : β → σ → Prop} {a : α}
    (h_ok : body s = .ok a s') (h_rest : Ends raises post (next a) s') :
    Ends raises post (body >>= next) s := by
  unfold Ends at h_rest ⊢
  rw [bind_ok h_ok]
  exact h_rest

theorem Ends.fail {next : α → Body ε σ β} {post : β → σ → Prop} {e : ε}
    (h_error : body s = .error e s') (h_raises : raises e) :
    Ends raises post (body >>= next) s :=
  .of_error (bind_error h_error) h_raises

theorem Ends.bind {next : α → Body ε σ β} {mid : α → σ → Prop} {post : β → σ → Prop}
    (h_body : Ends raises mid body s)
    (h_next : ∀ a s', mid a s' → Ends raises post (next a) s') :
    Ends raises post (body >>= next) s := by
  unfold Ends at h_body
  cases h_run : body s with
  | ok a s' =>
    rw [h_run] at h_body
    exact .step h_run (h_next a s' h_body)
  | error e s' =>
    rw [h_run] at h_body
    exact .fail h_run h_body

theorem Ends.mono {raises' : ε → Prop} {post' : α → σ → Prop}
    (h_body : Ends raises post body s) (h_raises : ∀ e, raises e → raises' e)
    (h_post : ∀ a s', post a s' → post' a s') : Ends raises' post' body s := by
  unfold Ends at h_body ⊢
  cases h_run : body s with
  | ok a s' =>
    rw [h_run] at h_body
    exact h_post a s' h_body
  | error e s' =>
    rw [h_run] at h_body
    exact h_raises e h_body

end Ends

/-! ## Handlers -/

/-- `try: ... except: ...; raise` with a handler that only writes to the store. -/
def onError (body : Body ε σ α) (handler : ε → σ → σ) : Body ε σ α := fun s =>
  match body s with
  | .ok a s' => .ok a s'
  | .error e s' => .error e (handler e s')

/-- `try: ... finally: ...` with a last part that only writes to the store. -/
def ensuring (body : Body ε σ α) (finalizer : σ → σ) : Body ε σ α := fun s =>
  match body s with
  | .ok a s' => .ok a (finalizer s')
  | .error e s' => .error e (finalizer s')

section Handlers

variable {body : Body ε σ α} {s s' : σ}

theorem onError_ok {handler : ε → σ → σ} {a : α} (h_ok : body s = .ok a s') :
    body.onError handler s = .ok a s' := by
  unfold onError
  rw [h_ok]

theorem onError_error {handler : ε → σ → σ} {e : ε} (h_error : body s = .error e s') :
    body.onError handler s = .error e (handler e s') := by
  unfold onError
  rw [h_error]

theorem ensuring_ok {finalizer : σ → σ} {a : α} (h_ok : body s = .ok a s') :
    body.ensuring finalizer s = .ok a (finalizer s') := by
  unfold ensuring
  rw [h_ok]

theorem ensuring_error {finalizer : σ → σ} {e : ε} (h_error : body s = .error e s') :
    body.ensuring finalizer s = .error e (finalizer s') := by
  unfold ensuring
  rw [h_error]

end Handlers

/-- How the body ends, as a value. -/
def attempt (body : Body ε σ α) : Body ε σ (Except ε α) := fun s =>
  match body s with
  | .ok a s' => .ok (.ok a) s'
  | .error e s' => .ok (.error e) s'

/-- From `s` the body ends with a result and a store that meet `post`. -/
def Finishes (post : Except ε α → σ → Prop) (body : Body ε σ α) (s : σ) : Prop :=
  match body s with
  | .ok a s' => post (.ok a) s'
  | .error e s' => post (.error e) s'

namespace Finishes

variable {post post' : Except ε α → σ → Prop} {body : Body ε σ α} {s s' : σ}

theorem of_ok {a : α} (h_ok : body s = .ok a s') (h_post : post (.ok a) s') :
    Finishes post body s := by
  unfold Finishes
  rw [h_ok]
  exact h_post

theorem of_error {e : ε} (h_error : body s = .error e s') (h_post : post (.error e) s') :
    Finishes post body s := by
  unfold Finishes
  rw [h_error]
  exact h_post

theorem mono (h_body : Finishes post body s) (h_post : ∀ result s', post result s' → post' result s') :
    Finishes post' body s := by
  unfold Finishes at h_body ⊢
  cases h_run : body s with
  | ok a s' =>
    rw [h_run] at h_body
    exact h_post _ s' h_body
  | error e s' =>
    rw [h_run] at h_body
    exact h_post _ s' h_body

/-- One statement run forward. -/
theorem step {next : α → Body ε σ β} {post : Except ε β → σ → Prop} {a : α}
    (h_ok : body s = .ok a s') (h_rest : Finishes post (next a) s') :
    Finishes post (body >>= next) s := by
  unfold Finishes at h_rest ⊢
  rw [bind_ok h_ok]
  exact h_rest

/-- The first part ends somehow: with its error, or with a value the rest goes on from. -/
theorem bind {next : α → Body ε σ β} {mid : Except ε α → σ → Prop} {post : Except ε β → σ → Prop}
    (h_body : Finishes mid body s)
    (h_error : ∀ e s', mid (.error e) s' → post (.error e) s')
    (h_next : ∀ a s', mid (.ok a) s' → Finishes post (next a) s') :
    Finishes post (body >>= next) s := by
  unfold Finishes at h_body
  cases h_run : body s with
  | ok a s' =>
    rw [h_run] at h_body
    exact step h_run (h_next a s' h_body)
  | error e s' =>
    rw [h_run] at h_body
    exact of_error (bind_error h_run) (h_error e s' h_body)

/-- The rest goes on from however the first part has ended. -/
theorem attempt_bind {next : Except ε α → Body ε σ β} {post : Except ε β → σ → Prop}
    (h_body : Finishes (fun result s' => Finishes post (next result) s') body s) :
    Finishes post (body.attempt >>= next) s := by
  unfold Finishes at h_body
  cases h_run : body s with
  | ok a s' =>
    rw [h_run] at h_body
    have h_attempt : body.attempt s = .ok (.ok a) s' := by
      unfold Body.attempt
      rw [h_run]
    exact step h_attempt h_body
  | error e s' =>
    rw [h_run] at h_body
    have h_attempt : body.attempt s = .ok (.error e) s' := by
      unfold Body.attempt
      rw [h_run]
    exact step h_attempt h_body

end Finishes

/-! ## Two runs -/

/-- Two bodies from two stores end alike: with the same error, or with one value and with
    stores that `post` relates. -/
def Couples (post : α → σ → σ → Prop) (body body' : Body ε σ α) (s s' : σ) : Prop :=
  match body s, body' s' with
  | .ok a t, .ok a' t' => a = a' ∧ post a t t'
  | .error e _, .error e' _ => e = e'
  | _, _ => False

namespace Couples

variable {post post' : α → σ → σ → Prop} {body body' : Body ε σ α} {s s' t t' : σ}

theorem of_ok {a : α} (h_ok : body s = .ok a t) (h_ok' : body' s' = .ok a t')
    (h_post : post a t t') : Couples post body body' s s' := by
  unfold Couples
  rw [h_ok, h_ok']
  exact ⟨rfl, h_post⟩

theorem of_error {e : ε} (h_error : body s = .error e t) (h_error' : body' s' = .error e t') :
    Couples post body body' s s' := by
  unfold Couples
  rw [h_error, h_error']

/-- The two ways in which coupled bodies end. -/
theorem cases (h_couples : Couples post body body' s s') :
    (∃ a t t', body s = .ok a t ∧ body' s' = .ok a t' ∧ post a t t') ∨
      ∃ e t t', body s = .error e t ∧ body' s' = .error e t' := by
  unfold Couples at h_couples
  cases h_body : body s with
  | ok a t =>
    cases h_body' : body' s' with
    | ok a' t' =>
      rw [h_body, h_body'] at h_couples
      obtain ⟨rfl, h_post⟩ := h_couples
      exact .inl ⟨a, t, t', rfl, rfl, h_post⟩
    | error e' t' =>
      rw [h_body, h_body'] at h_couples
      exact h_couples.elim
  | error e t =>
    cases h_body' : body' s' with
    | ok a' t' =>
      rw [h_body, h_body'] at h_couples
      exact h_couples.elim
    | error e' t' =>
      rw [h_body, h_body'] at h_couples
      exact .inr ⟨e, t, t', rfl, h_couples ▸ rfl⟩

theorem pure {a : α} (h_post : post a s s') :
    Couples post (Pure.pure a : Body ε σ α) (Pure.pure a) s s' :=
  of_ok rfl rfl h_post

theorem lift {x : Except ε α} (h_post : ∀ a, x = .ok a → post a s s') :
    Couples post (Body.lift x : Body ε σ α) (Body.lift x) s s' := by
  cases x with
  | ok a => exact of_ok rfl rfl (h_post a rfl)
  | error e => exact of_error rfl rfl

/-- One statement run forward on each side, whatever it returns there. -/
theorem step {next next' : α → Body ε σ β} {post : β → σ → σ → Prop} {a a' : α}
    (h_ok : body s = .ok a t) (h_ok' : body' s' = .ok a' t')
    (h_rest : Couples post (next a) (next' a') t t') :
    Couples post (body >>= next) (body' >>= next') s s' := by
  unfold Couples at h_rest ⊢
  rw [bind_ok h_ok, bind_ok h_ok']
  exact h_rest

theorem bind {next next' : α → Body ε σ β} {post : β → σ → σ → Prop} {mid : α → σ → σ → Prop}
    (h_body : Couples mid body body' s s')
    (h_next : ∀ a t t', mid a t t' → Couples post (next a) (next' a) t t') :
    Couples post (body >>= next) (body' >>= next') s s' := by
  rcases h_body.cases with ⟨a, t, t', h_ok, h_ok', h_mid⟩ | ⟨e, t, t', h_error, h_error'⟩
  · exact step h_ok h_ok' (h_next a t t' h_mid)
  · exact of_error (bind_error h_error) (bind_error h_error')

theorem when {condition : Bool} {body body' : Body ε σ Unit} {post : Unit → σ → σ → Prop}
    (h_run : condition = true → Couples post body body' s s')
    (h_skip : condition = false → post () s s') :
    Couples post (Body.when condition body) (Body.when condition body') s s' := by
  cases condition with
  | true => exact h_run rfl
  | false => exact of_ok rfl rfl (h_skip rfl)

/-- Both runs take the same branch. -/
theorem ite {condition : Prop} [Decidable condition] {first first' second second' : Body ε σ α}
    (h_then : condition → Couples post first first' s s')
    (h_else : ¬ condition → Couples post second second' s s') :
    Couples post (if condition then first else second) (if condition then first' else second')
      s s' := by
  by_cases h_condition : condition
  · rw [if_pos h_condition, if_pos h_condition]
    exact h_then h_condition
  · rw [if_neg h_condition, if_neg h_condition]
    exact h_else h_condition

theorem mono (h_body : Couples post body body' s s') (h_post : ∀ a t t', post a t t' → post' a t t') :
    Couples post' body body' s s' := by
  rcases h_body.cases with ⟨a, t, t', h_ok, h_ok', h_mid⟩ | ⟨e, t, t', h_error, h_error'⟩
  · exact of_ok h_ok h_ok' (h_post a t t' h_mid)
  · exact of_error h_error h_error'

end Couples

end Body

/-- Runs a body and commits it, or undoes it when it fails. -/
def atomically (body : Body ε σ α) (s : σ) : Except ε α × σ :=
  match body s with
  | .ok a s' => (.ok a, s')
  | .error e _ => (.error e, s)

theorem atomically_ok {body : Body ε σ α} {s s' : σ} {a : α}
    (h_ok : atomically body s = (.ok a, s')) : body s = .ok a s' := by
  unfold atomically at h_ok
  split at h_ok
  · cases h_ok
    assumption
  · cases h_ok

/-- A body that fails leaves the store as it was, whatever it had written. -/
theorem atomically_error {body : Body ε σ α} {s s' : σ} {e : ε}
    (h_error : atomically body s = (.error e, s')) : s' = s := by
  unfold atomically at h_error
  split at h_error
  · cases h_error
  · cases h_error
    rfl

end TokenThrottle.Theory
