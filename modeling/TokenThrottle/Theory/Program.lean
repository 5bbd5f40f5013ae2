/-
  TokenThrottle.Theory.Program

  Programs that talk to a server: a tree of commands, each answered with its
  response or with an exception raised at the call.

  * `settle` sequences a program with what follows it, whether it returned or
    raised; `bind`, `tryCatch` and `ensuring` are instances of it.
  * `Follows protocol post` is the weakest precondition of a program against a
    protocol: which commands it may issue in a view, and how an answer changes the
    view.  One rule for `settle` gives the rules for the rest.
  * `run` executes a program against a server that takes one turn for each command;
    `trace` lists the commands served on the way.  `play` is the run in which every command
    gets the same turn.
-/
import TokenThrottle.Theory.Runs

namespace TokenThrottle.Theory

variable {C : Type} {R : C → Type} {ε α β σ τ : Type}

/-- A program over the commands `C`, answered in `R` or with an exception. -/
inductive Program (C : Type) (R : C → Type) (ε α : Type)
  | done (result : Except ε α)
  | call (command : C) (next : Except ε (R command) → Program C R ε α)

namespace Program

/-- A single command. -/
def perform (command : C) : Program C R ε (R command) :=
  .call command .done

/-- Runs `f` on the result of a program, returned or raised. -/
def settle : Program C R ε α → (Except ε α → Program C R ε β) → Program C R ε β
  | .done result, f => f result
  | .call command next, f => .call command fun answer => (next answer).settle f

instance : Monad (Program C R ε) where
  pure a := .done (.ok a)
  bind p f := p.settle fun result =>
    match result with
    | .ok a => f a
    | .error e => .done (.error e)

instance : MonadExceptOf ε (Program C R ε) where
  throw e := .done (.error e)
  tryCatch p handler := p.settle fun result =>
    match result with
    | .ok a => .done (.ok a)
    | .error e => handler e

/-- The result of a program as a value. -/
def attempt (p : Program C R ε α) : Program C R ε (Except ε α) :=
  p.settle fun result => .done (.ok result)

/-- Runs `cleanup` however the program ends; what `cleanup` raises takes precedence. -/
def ensuring (p : Program C R ε α) (cleanup : Program C R ε Unit) : Program C R ε α :=
  p.settle fun result => cleanup.settle fun cleaned =>
    match cleaned with
    | .ok () => .done result
    | .error e => .done (.error e)

/-- Runs `cleanup` when the program raises. -/
def onError (p : Program C R ε α) (cleanup : Program C R ε Unit) : Program C R ε α :=
  p.settle fun result =>
    match result with
    | .ok a => .done (.ok a)
    | .error e => cleanup.settle fun cleaned =>
      match cleaned with
      | .ok () => .done (.error e)
      | .error e' => .done (.error e')

/-- A computation that issues no command. -/
def lift (x : Except ε α) : Program C R ε α := .done x

/-- A program that runs under a condition. -/
def when (condition : Bool) (p : Program C R ε Unit) : Program C R ε Unit :=
  if condition then p else pure ()

end Program

/-! ## Protocols -/

/-- What a program may issue in a view, and the views an answer can lead to. -/
structure Protocol (C : Type) (R : C → Type) (ε τ : Type) where
  allowed : τ → C → Prop
  after : τ → (command : C) → Except ε (R command) → τ → Prop

/-- A protocol whose commands are all answered, and whose views follow the answers. -/
def Protocol.answering (ε : Type) (allowed : τ → C → Prop)
    (observe : τ → (command : C) → R command → τ) : Protocol C R ε τ where
  allowed := allowed
  after view command answer view' :=
    ∃ response, answer = .ok response ∧ view' = observe view command response

namespace Program

variable {protocol : Protocol C R ε τ} {post : Except ε α → τ → Prop} {view : τ}

/-- From a view the program keeps to the protocol and ends with `post`. -/
def Follows (protocol : Protocol C R ε τ) (post : Except ε α → τ → Prop) :
    Program C R ε α → τ → Prop
  | .done result, view => post result view
  | .call command next, view =>
    protocol.allowed view command ∧
      ∀ answer view', protocol.after view command answer view' →
        Follows protocol post (next answer) view'

theorem Follows.settle {p : Program C R ε α} {f : Except ε α → Program C R ε β}
    {m : Except ε α → τ → Prop} {post : Except ε β → τ → Prop}
    (h_p : p.Follows protocol m view)
    (h_f : ∀ result view', m result view' → (f result).Follows protocol post view') :
    (p.settle f).Follows protocol post view := by
  induction p generalizing view with
  | done result => exact h_f result view h_p
  | call command next ih =>
    exact ⟨h_p.1, fun answer view' h_after => ih answer (h_p.2 answer view' h_after)⟩

theorem Follows.mono {p : Program C R ε α} {post' : Except ε α → τ → Prop}
    (h_p : p.Follows protocol post view)
    (h_post : ∀ result view', post result view' → post' result view') :
    p.Follows protocol post' view := by
  induction p generalizing view with
  | done result => exact h_post result view h_p
  | call command next ih =>
    exact ⟨h_p.1, fun answer view' h_after => ih answer (h_p.2 answer view' h_after)⟩

theorem Follows.bind {p : Program C R ε α} {f : α → Program C R ε β}
    {m : Except ε α → τ → Prop} {post : Except ε β → τ → Prop}
    (h_p : p.Follows protocol m view)
    (h_ok : ∀ a view', m (.ok a) view' → (f a).Follows protocol post view')
    (h_error : ∀ e view', m (.error e) view' → post (.error e) view') :
    (p >>= f).Follows protocol post view :=
  h_p.settle fun result view' h_mid =>
    match result with
    | .ok a => h_ok a view' h_mid
    | .error e => h_error e view' h_mid

theorem Follows.perform {command : C} {post : Except ε (R command) → τ → Prop}
    (h_allowed : protocol.allowed view command)
    (h_after : ∀ answer view', protocol.after view command answer view' →
      post answer view') :
    (Program.perform command : Program C R ε _).Follows protocol post view :=
  ⟨h_allowed, h_after⟩

/-- One command and what follows its answer. -/
theorem Follows.perform_bind {command : C} {f : R command → Program C R ε β}
    {post : Except ε β → τ → Prop} (h_allowed : protocol.allowed view command)
    (h_ok : ∀ response view', protocol.after view command (.ok response) view' →
      (f response).Follows protocol post view')
    (h_error : ∀ e view', protocol.after view command (.error e) view' →
      post (.error e) view') :
    (Program.perform command >>= f).Follows protocol post view :=
  Follows.bind
    (m := fun answer view' => protocol.after view command answer view')
    (Follows.perform h_allowed fun _ _ h_after => h_after) h_ok h_error

theorem Follows.throw {e : ε} (h_post : post (.error e) view) :
    (MonadExcept.throw e : Program C R ε α).Follows protocol post view := h_post

theorem Follows.lift_bind {x : Except ε α} {f : α → Program C R ε β}
    {post : Except ε β → τ → Prop}
    (h_ok : ∀ a, x = .ok a → (f a).Follows protocol post view)
    (h_error : ∀ e, x = .error e → post (.error e) view) :
    (Program.lift x >>= f).Follows protocol post view := by
  cases x with
  | ok a => exact h_ok a rfl
  | error e => exact h_error e rfl

theorem Follows.attempt {p : Program C R ε α} {post : Except ε (Except ε α) → τ → Prop}
    (h_p : p.Follows protocol (fun result view' => post (.ok result) view') view) :
    p.attempt.Follows protocol post view :=
  h_p.settle fun _ _ h_post => h_post

/-- What follows a program sees its result as a value. -/
theorem Follows.attempt_bind {p : Program C R ε α} {f : Except ε α → Program C R ε β}
    {m : Except ε α → τ → Prop} {post : Except ε β → τ → Prop}
    (h_p : p.Follows protocol m view)
    (h_f : ∀ result view', m result view' → (f result).Follows protocol post view') :
    (p.attempt >>= f).Follows protocol post view := by
  induction p generalizing view with
  | done result => exact h_f result view h_p
  | call command next ih =>
    exact ⟨h_p.1, fun answer view' h_after => ih answer (h_p.2 answer view' h_after)⟩

theorem Follows.tryCatch {p : Program C R ε α} {handler : ε → Program C R ε α}
    {m : Except ε α → τ → Prop} (h_p : p.Follows protocol m view)
    (h_ok : ∀ a view', m (.ok a) view' → post (.ok a) view')
    (h_error : ∀ e view', m (.error e) view' →
      (handler e).Follows protocol post view') :
    (MonadExcept.tryCatch p handler).Follows protocol post view :=
  h_p.settle fun result view' h_mid =>
    match result with
    | .ok a => h_ok a view' h_mid
    | .error e => h_error e view' h_mid

theorem Follows.ensuring {p : Program C R ε α} {cleanup : Program C R ε Unit}
    {m : Except ε α → τ → Prop} (h_p : p.Follows protocol m view)
    (h_cleanup : ∀ result view', m result view' →
      cleanup.Follows protocol (fun cleaned view'' =>
        match cleaned with
        | .ok () => post result view''
        | .error e => post (.error e) view'') view') :
    (p.ensuring cleanup).Follows protocol post view :=
  h_p.settle fun result view' h_mid =>
    (h_cleanup result view' h_mid).settle fun cleaned _ h_post =>
      match cleaned with
      | .ok () => h_post
      | .error _ => h_post

theorem Follows.onError {p : Program C R ε α} {cleanup : Program C R ε Unit}
    {m : Except ε α → τ → Prop} (h_p : p.Follows protocol m view)
    (h_ok : ∀ a view', m (.ok a) view' → post (.ok a) view')
    (h_cleanup : ∀ e view', m (.error e) view' →
      cleanup.Follows protocol (fun cleaned view'' =>
        match cleaned with
        | .ok () => post (.error e) view''
        | .error e' => post (.error e') view'') view') :
    (p.onError cleanup).Follows protocol post view :=
  h_p.settle fun result view' h_mid =>
    match result with
    | .ok a => h_ok a view' h_mid
    | .error e => (h_cleanup e view' h_mid).settle fun cleaned _ h_post =>
      match cleaned with
      | .ok () => h_post
      | .error _ => h_post

section Answering

variable {allowed : τ → C → Prop} {observe : τ → (command : C) → R command → τ}

theorem Follows.send {command : C} {post : Except ε (R command) → τ → Prop}
    (h_allowed : allowed view command)
    (h_post : ∀ response, post (.ok response) (observe view command response)) :
    (Program.perform command : Program C R ε _).Follows (.answering ε allowed observe) post
      view := by
  refine Follows.perform h_allowed fun answer view' h_after => ?_
  obtain ⟨response, rfl, rfl⟩ := h_after
  exact h_post response

theorem Follows.send_bind {command : C} {f : R command → Program C R ε β}
    {post : Except ε β → τ → Prop} (h_allowed : allowed view command)
    (h_ok : ∀ response, (f response).Follows (.answering ε allowed observe) post
      (observe view command response)) :
    (Program.perform command >>= f).Follows (.answering ε allowed observe) post view := by
  refine Follows.perform_bind h_allowed (fun response view' h_after => ?_)
    (fun e view' h_after => ?_)
  · obtain ⟨response', h_eq, rfl⟩ := h_after
    cases h_eq
    exact h_ok response
  · obtain ⟨response', h_eq, _⟩ := h_after
    cases h_eq

end Answering

/-! ## Footprints -/

/-- Every command the program may issue meets a condition. -/
def Issues (allowed : C → Prop) : Program C R ε α → Prop
  | .done _ => True
  | .call command next => allowed command ∧ ∀ answer, (next answer).Issues allowed

section Footprint

variable {allowed : C → Prop}

theorem Issues.settle {p : Program C R ε α} {f : Except ε α → Program C R ε β}
    (h_p : p.Issues allowed) (h_f : ∀ result, (f result).Issues allowed) :
    (p.settle f).Issues allowed := by
  induction p with
  | done result => exact h_f result
  | call command next ih => exact ⟨h_p.1, fun answer => ih answer (h_p.2 answer)⟩

theorem Issues.bind {p : Program C R ε α} {f : α → Program C R ε β}
    (h_p : p.Issues allowed) (h_f : ∀ a, (f a).Issues allowed) : (p >>= f).Issues allowed :=
  h_p.settle fun result =>
    match result with
    | .ok a => h_f a
    | .error _ => trivial

theorem Issues.perform {command : C} (h_allowed : allowed command) :
    (Program.perform command : Program C R ε _).Issues allowed :=
  ⟨h_allowed, fun _ => trivial⟩

theorem Issues.pure (a : α) : (Pure.pure a : Program C R ε α).Issues allowed := trivial

theorem Issues.throw (e : ε) : (MonadExcept.throw e : Program C R ε α).Issues allowed := trivial

theorem Issues.lift (x : Except ε α) : (Program.lift x : Program C R ε α).Issues allowed := trivial

theorem Issues.when {condition : Bool} {p : Program C R ε Unit} (h_p : p.Issues allowed) :
    (Program.when condition p).Issues allowed := by
  cases condition with
  | true => exact h_p
  | false => trivial

theorem Issues.attempt {p : Program C R ε α} (h_p : p.Issues allowed) :
    p.attempt.Issues allowed :=
  h_p.settle fun _ => trivial

theorem Issues.tryCatch {p : Program C R ε α} {handler : ε → Program C R ε α}
    (h_p : p.Issues allowed) (h_handler : ∀ e, (handler e).Issues allowed) :
    (MonadExcept.tryCatch p handler).Issues allowed :=
  h_p.settle fun result =>
    match result with
    | .ok _ => trivial
    | .error e => h_handler e

theorem Issues.ensuring {p : Program C R ε α} {cleanup : Program C R ε Unit}
    (h_p : p.Issues allowed) (h_cleanup : cleanup.Issues allowed) :
    (p.ensuring cleanup).Issues allowed :=
  h_p.settle fun _ => h_cleanup.settle fun cleaned =>
    match cleaned with
    | .ok () => trivial
    | .error _ => trivial

theorem Issues.onError {p : Program C R ε α} {cleanup : Program C R ε Unit}
    (h_p : p.Issues allowed) (h_cleanup : cleanup.Issues allowed) :
    (p.onError cleanup).Issues allowed :=
  h_p.settle fun result =>
    match result with
    | .ok _ => trivial
    | .error _ => h_cleanup.settle fun cleaned =>
      match cleaned with
      | .ok () => trivial
      | .error _ => trivial

theorem Issues.mono {allowed' : C → Prop} {p : Program C R ε α} (h_p : p.Issues allowed)
    (h_allowed : ∀ command, allowed command → allowed' command) : p.Issues allowed' := by
  induction p with
  | done result => trivial
  | call command next ih =>
    exact ⟨h_allowed command h_p.1, fun answer => ih answer (h_p.2 answer)⟩

end Footprint

/-- Whatever the answers are, the program issues allowed commands only, and a result it
    returns meets `post`. -/
def Emits (allowed : C → Prop) (post : α → Prop) (p : Program C R ε α) : Prop :=
  p.Follows ⟨fun _ command => allowed command, fun _ _ _ _ => True⟩
    (fun result _ => match result with
      | .ok a => post a
      | .error _ => True) ()

section Emission

variable {allowed : C → Prop} {m post : α → Prop}

theorem Issues.emits {p : Program C R ε α} (h_p : p.Issues allowed) :
    p.Emits allowed fun _ => True := by
  unfold Emits
  induction p with
  | done result => cases result <;> trivial
  | call command next ih => exact ⟨h_p.1, fun answer _ _ => ih answer (h_p.2 answer)⟩

theorem Emits.bind {p : Program C R ε α} {f : α → Program C R ε β} {post : β → Prop}
    (h_p : p.Emits allowed m) (h_f : ∀ a, m a → (f a).Emits allowed post) :
    (p >>= f).Emits allowed post :=
  Follows.bind h_p (fun a _ h_mid => h_f a h_mid) fun _ _ _ => trivial

/-- What follows a program whose result does not matter. -/
theorem Issues.emits_bind {p : Program C R ε α} {f : α → Program C R ε β} {post : β → Prop}
    (h_p : p.Issues allowed) (h_f : ∀ a, (f a).Emits allowed post) :
    (p >>= f).Emits allowed post :=
  h_p.emits.bind fun a _ => h_f a

theorem Emits.pure {a : α} (h_post : post a) :
    (Pure.pure a : Program C R ε α).Emits allowed post := h_post

theorem Emits.throw {e : ε} : (MonadExcept.throw e : Program C R ε α).Emits allowed post := trivial

theorem Emits.mono {p : Program C R ε α} {allowed' : C → Prop} {post' : α → Prop}
    (h_p : p.Emits allowed post) (h_allowed : ∀ command, allowed command → allowed' command)
    (h_post : ∀ a, post a → post' a) : p.Emits allowed' post' := by
  unfold Emits at h_p ⊢
  induction p with
  | done result =>
    cases result with
    | ok a => exact h_post a h_p
    | error e => trivial
  | call command next ih =>
    exact ⟨h_allowed command h_p.1, fun answer _ _ => ih answer (h_p.2 answer () trivial)⟩

theorem Emits.ensuring {p : Program C R ε α} {cleanup : Program C R ε Unit}
    (h_p : p.Emits allowed post) (h_cleanup : cleanup.Issues allowed) :
    (p.ensuring cleanup).Emits allowed post := by
  refine Follows.ensuring h_p fun result _ h_result => ?_
  refine Follows.mono h_cleanup.emits fun cleaned _ _ => ?_
  cases cleaned with
  | ok _ => exact h_result
  | error e => trivial

theorem Emits.attempt {p : Program C R ε α} (h_p : p.Emits allowed post) :
    p.attempt.Emits allowed fun result => ∀ a, result = .ok a → post a := by
  refine Follows.attempt (Follows.mono h_p fun result _ h_result => ?_)
  rintro a rfl
  exact h_result

end Emission

/-! ## Execution against a server -/

section Run

variable {T : Type} (serve : T → (command : C) → σ → Except ε (R command) × σ)

/-- Executes a program, one turn for each command; `none` when the turns run out. -/
def run : Program C R ε α → List T → σ → Option (Except ε α × σ)
  | .done result, _, s => some (result, s)
  | .call _ _, [], _ => none
  | .call command next, turn :: turns, s =>
    run (next (serve turn command s).1) turns (serve turn command s).2

/-- One command as it was served. -/
structure Served (C : Type) (R : C → Type) (ε σ T : Type) where
  turn : T
  command : C
  before : σ
  answer : Except ε (R command)
  after : σ

/-- The commands a run has served, in order. -/
def trace : Program C R ε α → List T → σ → List (Served C R ε σ T)
  | .done _, _, _ => []
  | .call _ _, [], _ => []
  | .call command next, turn :: turns, s =>
    ⟨turn, command, s, (serve turn command s).1, (serve turn command s).2⟩ ::
      trace (next (serve turn command s).1) turns (serve turn command s).2

/-- The protocol of a server whose turns all meet a condition: every command is
    allowed, and the view is the server's state. -/
def served (good : T → Prop) : Protocol C R ε σ where
  allowed _ _ := True
  after s command answer s' := ∃ turn, good turn ∧ serve turn command s = (answer, s')

variable {serve} {good : T → Prop}

/-- A program that only issues commands which leave an observation alone leaves it. -/
theorem Issues.keeps {ω : Type} {allowed : C → Prop} {observe : σ → ω} {p : Program C R ε α}
    (h_issues : p.Issues allowed)
    (h_keeps : ∀ turn command s, good turn → allowed command →
      observe (serve turn command s).2 = observe s) (s : σ) :
    p.Follows (served serve good) (fun _ s' => observe s' = observe s) s := by
  induction p generalizing s with
  | done result => rfl
  | call command next ih =>
    refine ⟨trivial, ?_⟩
    rintro answer s' ⟨turn, h_good, h_serve⟩
    have h_same : observe s' = observe s := by
      rw [← h_keeps turn command s h_good h_issues.1, h_serve]
    exact (ih answer (h_issues.2 answer) s').mono fun _ _ h_eq => h_eq.trans h_same

/-! ### Programs that return -/

/-- Against its server a program that returns does so with `post`. -/
def Leads (serve : T → (command : C) → σ → Except ε (R command) × σ) (good : T → Prop)
    (post : α → σ → Prop) (p : Program C R ε α) (s : σ) : Prop :=
  p.Follows (served serve good)
    (fun result s' => match result with
      | .ok a => post a s'
      | .error _ => True) s

theorem Leads.bind {p : Program C R ε α} {f : α → Program C R ε β} {m : α → σ → Prop}
    {post : β → σ → Prop} {s : σ} (h_p : p.Leads serve good m s)
    (h_f : ∀ a s', m a s' → (f a).Leads serve good post s') :
    (p >>= f).Leads serve good post s :=
  Follows.bind h_p (fun a s' h_mid => h_f a s' h_mid) fun _ _ _ => trivial

theorem Leads.perform {command : C} {post : R command → σ → Prop} {s : σ}
    (h_post : ∀ turn response s', good turn → serve turn command s = (.ok response, s') →
      post response s') :
    (Program.perform command : Program C R ε _).Leads serve good post s := by
  refine ⟨trivial, ?_⟩
  rintro answer s' ⟨turn, h_good, h_serve⟩
  cases answer with
  | ok response => exact h_post turn response s' h_good h_serve
  | error e => trivial

theorem Leads.lift {x : Except ε α} {post : α → σ → Prop} {s : σ}
    (h_post : ∀ a, x = .ok a → post a s) :
    (Program.lift x : Program C R ε α).Leads serve good post s := by
  cases x with
  | ok a => exact h_post a rfl
  | error e => trivial

theorem Leads.pure {a : α} {post : α → σ → Prop} {s : σ} (h_post : post a s) :
    (Pure.pure a : Program C R ε α).Leads serve good post s := h_post

theorem Leads.throw {e : ε} {post : α → σ → Prop} {s : σ} :
    (MonadExcept.throw e : Program C R ε α).Leads serve good post s := trivial

theorem Leads.mono {p : Program C R ε α} {post post' : α → σ → Prop} {s : σ}
    (h_p : p.Leads serve good post s) (h_post : ∀ a s', post a s' → post' a s') :
    p.Leads serve good post' s :=
  Follows.mono h_p fun result s' h_result =>
    match result with
    | .ok a => h_post a s' h_result
    | .error _ => trivial

/-- What follows a program that nothing is known of. -/
theorem Leads.bind_any {p : Program C R ε α} {f : α → Program C R ε β} {post : β → σ → Prop}
    {s : σ} (h_f : ∀ a s', (f a).Leads serve good post s') :
    (p >>= f).Leads serve good post s := by
  induction p generalizing s with
  | done result =>
    cases result with
    | ok a => exact h_f a s
    | error e => trivial
  | call command next ih => exact ⟨trivial, fun answer s' _ => ih answer⟩

/-- A program that leaves an observation alone returns to it. -/
theorem Issues.leads {ω : Type} {allowed : C → Prop} {observe : σ → ω} {p : Program C R ε α}
    (h_issues : p.Issues allowed)
    (h_keeps : ∀ turn command s, good turn → allowed command →
      observe (serve turn command s).2 = observe s) (s : σ) :
    p.Leads serve good (fun _ s' => observe s' = observe s) s :=
  (h_issues.keeps h_keeps s).mono fun result _ h_same =>
    match result with
    | .ok _ => h_same
    | .error _ => trivial

theorem Leads.attempt {p : Program C R ε α} {post : α → σ → Prop} {s : σ}
    (h_p : p.Leads serve good post s) :
    p.attempt.Leads serve good (fun result s' => ∀ a, result = .ok a → post a s') s := by
  refine Follows.attempt (Follows.mono h_p fun result s' h_result => ?_)
  rintro a rfl
  exact h_result

/-- A cleanup that leaves the observation alone keeps a result that only depends on it. -/
theorem Leads.ensuring {ω : Type} (observe : σ → ω) (post : α → ω → Prop)
    {allowed : C → Prop} {p : Program C R ε α} {cleanup : Program C R ε Unit} {s : σ}
    (h_p : p.Leads serve good (fun a s' => post a (observe s')) s)
    (h_cleanup : cleanup.Issues allowed)
    (h_keeps : ∀ turn command s, good turn → allowed command →
      observe (serve turn command s).2 = observe s) :
    (p.ensuring cleanup).Leads serve good (fun a s' => post a (observe s')) s := by
  refine Follows.ensuring h_p fun result s' h_result => ?_
  refine (h_cleanup.keeps h_keeps s').mono fun cleaned s'' h_same => ?_
  cases cleaned with
  | ok _ =>
    cases result with
    | ok a =>
      show post a (observe s'')
      rw [h_same]
      exact h_result
    | error e => trivial
  | error e => trivial

/-! ### Programs that cannot fail -/

/-- Against its server the program returns, and does so with `post`. -/
def Returns (serve : T → (command : C) → σ → Except ε (R command) × σ) (good : T → Prop)
    (post : α → σ → Prop) (p : Program C R ε α) (s : σ) : Prop :=
  p.Follows (served serve good) (fun result s' => ∃ a, result = .ok a ∧ post a s') s

section Returns

variable {p : Program C R ε α} {m post : α → σ → Prop} {s : σ}

/-- What follows a program that returns sees its value, not an exception. -/
theorem Returns.settle {f : Except ε α → Program C R ε β} {post : Except ε β → σ → Prop}
    (h_p : p.Returns serve good m s)
    (h_f : ∀ a s', m a s' → (f (.ok a)).Follows (served serve good) post s') :
    (p.settle f).Follows (served serve good) post s := by
  apply Follows.settle h_p
  rintro result s' ⟨a, rfl, h_mid⟩
  exact h_f a s' h_mid

theorem Returns.then {f : α → Program C R ε β} {post : Except ε β → σ → Prop}
    (h_p : p.Returns serve good m s)
    (h_f : ∀ a s', m a s' → (f a).Follows (served serve good) post s') :
    (p >>= f).Follows (served serve good) post s :=
  Returns.settle h_p h_f

theorem Returns.bind {f : α → Program C R ε β} {post : β → σ → Prop}
    (h_p : p.Returns serve good m s) (h_f : ∀ a s', m a s' → (f a).Returns serve good post s') :
    (p >>= f).Returns serve good post s :=
  Returns.then h_p h_f

theorem Returns.perform {command : C} {post : R command → σ → Prop}
    (h_post : ∀ turn answer s', good turn → serve turn command s = (answer, s') →
      ∃ response, answer = .ok response ∧ post response s') :
    (Program.perform command : Program C R ε _).Returns serve good post s := by
  refine ⟨trivial, ?_⟩
  rintro answer s' ⟨turn, h_good, h_serve⟩
  exact h_post turn answer s' h_good h_serve

theorem Returns.pure {a : α} (h_post : post a s) :
    (Pure.pure a : Program C R ε α).Returns serve good post s :=
  ⟨a, rfl, h_post⟩

theorem Returns.lift {x : Except ε α} {a : α} (h_ok : x = .ok a) (h_post : post a s) :
    (Program.lift x : Program C R ε α).Returns serve good post s :=
  ⟨a, h_ok, h_post⟩

theorem Returns.mono {post' : α → σ → Prop} (h_p : p.Returns serve good post s)
    (h_post : ∀ a s', post a s' → post' a s') : p.Returns serve good post' s := by
  apply Follows.mono h_p
  rintro result s' ⟨a, rfl, h_result⟩
  exact ⟨a, rfl, h_post a s' h_result⟩

theorem Returns.leads (h_p : p.Returns serve good post s) : p.Leads serve good post s := by
  apply Follows.mono h_p
  rintro result s' ⟨a, rfl, h_result⟩
  exact h_result

theorem Returns.attempt (h_p : p.Returns serve good post s) :
    p.attempt.Returns serve good (fun result s' => ∃ a, result = .ok a ∧ post a s') s :=
  Returns.settle h_p fun a _ h_post => ⟨.ok a, rfl, a, rfl, h_post⟩

theorem Returns.onError {cleanup : Program C R ε Unit} (h_p : p.Returns serve good post s) :
    (p.onError cleanup).Returns serve good post s :=
  Returns.settle h_p fun a _ h_post => ⟨a, rfl, h_post⟩

theorem Returns.ensuring {cleanup : Program C R ε Unit} (h_p : p.Returns serve good m s)
    (h_cleanup : ∀ a s', m a s' → cleanup.Returns serve good (fun _ s'' => post a s'') s') :
    (p.ensuring cleanup).Returns serve good post s := by
  apply Returns.settle h_p
  intro a s' h_mid
  exact Returns.settle (h_cleanup a s' h_mid) fun _ _ h_post => ⟨a, rfl, h_post⟩

theorem Returns.when {condition : Bool} {p : Program C R ε Unit} {post : Unit → σ → Prop}
    (h_run : condition = true → p.Returns serve good post s)
    (h_skip : condition = false → post () s) :
    (Program.when condition p).Returns serve good post s := by
  cases condition with
  | true => exact h_run rfl
  | false => exact Returns.pure (h_skip rfl)

/-- Two facts about the same program. -/
theorem Follows.and {protocol : Protocol C R ε τ} {post post' : Except ε α → τ → Prop} {view : τ}
    {p : Program C R ε α} (h_p : p.Follows protocol post view)
    (h_p' : p.Follows protocol post' view) :
    p.Follows protocol (fun result view' => post result view' ∧ post' result view') view := by
  induction p generalizing view with
  | done result => exact ⟨h_p, h_p'⟩
  | call command next ih =>
    exact ⟨h_p.1, fun answer view' h_after => ih answer (h_p.2 answer view' h_after)
      (h_p'.2 answer view' h_after)⟩

/-- A program that returns and leaves an observation alone returns to it. -/
theorem Returns.keeps {ω : Type} {allowed : C → Prop} {observe : σ → ω}
    (h_p : p.Returns serve good post s) (h_issues : p.Issues allowed)
    (h_keeps : ∀ turn command s, good turn → allowed command →
      observe (serve turn command s).2 = observe s) :
    p.Returns serve good (fun a s' => post a s' ∧ observe s' = observe s) s := by
  apply Follows.mono (Follows.and h_p (h_issues.keeps h_keeps s))
  rintro result s' ⟨⟨a, rfl, h_post⟩, h_same⟩
  exact ⟨a, rfl, h_post, h_same⟩

/-- Executes a program, the same turn for every command. -/
def play (serve : T → (command : C) → σ → Except ε (R command) × σ) (turn : T) :
    Program C R ε α → σ → Except ε α × σ
  | .done result, s => (result, s)
  | .call command next, s =>
    play serve turn (next (serve turn command s).1) (serve turn command s).2

/-- It is the run that is given the turn often enough. -/
theorem run_replicate (serve : T → (command : C) → σ → Except ε (R command) × σ)
    (p : Program C R ε α) (turn : T) (s : σ) :
    ∃ n, p.run serve (List.replicate n turn) s = some (p.play serve turn s) := by
  induction p generalizing s with
  | done result => exact ⟨0, rfl⟩
  | call command next ih =>
    obtain ⟨n, h_run⟩ := ih (serve turn command s).1 (serve turn command s).2
    exact ⟨n + 1, h_run⟩

/-- Every program ends, if it is given turns enough. -/
theorem exists_run (serve : T → (command : C) → σ → Except ε (R command) × σ)
    (p : Program C R ε α) (turn : T) (s : σ) :
    ∃ n result s', p.run serve (List.replicate n turn) s = some (result, s') := by
  obtain ⟨n, h_run⟩ := run_replicate serve p turn s
  exact ⟨n, _, _, h_run⟩

end Returns

/-- What a program emits it returns, whatever its server does. -/
theorem Emits.leads {allowed : C → Prop} {post : α → Prop} {p : Program C R ε α}
    (h_p : p.Emits allowed post) (s : σ) : p.Leads serve good (fun a _ => post a) s := by
  unfold Emits at h_p
  induction p generalizing s with
  | done result => cases result <;> exact h_p
  | call command next ih =>
    exact ⟨trivial, fun answer s' _ => ih answer (h_p.2 answer () trivial) s'⟩

/-- What holds of a program against the protocol of its server holds of its runs. -/
theorem run_of_follows {p : Program C R ε α} {post : Except ε α → σ → Prop}
    {turns : List T} {s s' : σ} {result : Except ε α}
    (h_follows : p.Follows (served serve good) post s) (h_good : ∀ turn ∈ turns, good turn)
    (h_run : p.run serve turns s = some (result, s')) : post result s' := by
  induction p generalizing turns s with
  | done result' =>
    cases h_run
    exact h_follows
  | call command next ih =>
    cases turns with
    | nil => cases h_run
    | cons turn turns =>
      have h_next := h_follows.2 _ _ ⟨turn, h_good turn List.mem_cons_self, rfl⟩
      exact ih _ h_next (fun t h_mem => h_good t (List.mem_cons_of_mem _ h_mem)) h_run

theorem Returns.exists_run {p : Program C R ε α} {post : α → σ → Prop} {s : σ} {turn : T}
    (h_p : p.Returns serve good post s) (h_turn : good turn) :
    ∃ turns a s', (∀ turn ∈ turns, good turn) ∧ p.run serve turns s = some (.ok a, s') ∧
      post a s' := by
  obtain ⟨n, result, s', h_run⟩ := Program.exists_run serve p turn s
  have h_good : ∀ turn' ∈ List.replicate n turn, good turn' := by
    intro turn' h_mem
    rw [List.eq_of_mem_replicate h_mem]
    exact h_turn
  obtain ⟨a, rfl, h_post⟩ := run_of_follows h_p h_good h_run
  exact ⟨_, a, s', h_good, h_run, h_post⟩

/-- One served command, as the protocol sees it. -/
def Step (protocol : Protocol C R ε τ) (view : τ) (step : Served C R ε σ T) (view' : τ) : Prop :=
  protocol.allowed view step.command ∧ protocol.after view step.command step.answer view'

/-- The trace of a program that follows a protocol is a path of the protocol. -/
theorem exists_path_of_follows {p : Program C R ε α} {post : Except ε α → τ → Prop}
    {turns : List T} {s s' : σ} {result : Except ε α}
    (h_follows : p.Follows protocol post view)
    (h_answered : ∀ step ∈ p.trace serve turns s, ∀ view,
      protocol.allowed view step.command →
        ∃ view', protocol.after view step.command step.answer view')
    (h_run : p.run serve turns s = some (result, s')) :
    ∃ view', Run (Step protocol) view (p.trace serve turns s) view' ∧ post result view' := by
  induction p generalizing turns s view with
  | done result' =>
    cases h_run
    exact ⟨view, .nil view, h_follows⟩
  | call command next ih =>
    cases turns with
    | nil => cases h_run
    | cons turn turns =>
      obtain ⟨view₁, h_after⟩ := h_answered _ List.mem_cons_self view h_follows.1
      obtain ⟨view', h_path, h_post⟩ := ih _ (h_follows.2 _ view₁ h_after)
        (fun step h_mem => h_answered step (List.mem_cons_of_mem _ h_mem)) h_run
      exact ⟨view', .cons ⟨h_follows.1, h_after⟩ h_path, h_post⟩

/-- Each command of a run either leaves an observation alone or makes one change to it,
    always the same one: the run has made the change exactly when one of its commands has. -/
theorem Emits.run_observe {ω : Type} {allowed : C → Prop} {post : α → Prop} {observe : σ → ω}
    {leaves : ω → ω} {switched : Served C R ε σ T → Prop} {p : Program C R ε α}
    {turns : List T} {s s' : σ} {result : Except ε α} (h_emits : p.Emits allowed post)
    (h_idempotent : ∀ v, leaves (leaves v) = leaves v)
    (h_switched : ∀ step, good step.turn → allowed step.command → switched step →
      serve step.turn step.command step.before = (step.answer, step.after) →
        observe step.after = leaves (observe step.before))
    (h_kept : ∀ step, good step.turn → allowed step.command → ¬ switched step →
      serve step.turn step.command step.before = (step.answer, step.after) →
        observe step.after = observe step.before)
    (h_good : ∀ turn ∈ turns, good turn) (h_run : p.run serve turns s = some (result, s')) :
    ((∃ step ∈ p.trace serve turns s, switched step) → observe s' = leaves (observe s)) ∧
      ((∀ step ∈ p.trace serve turns s, ¬ switched step) → observe s' = observe s) := by
  induction p generalizing turns s with
  | done result' =>
    cases h_run
    exact ⟨fun ⟨_, h_mem, _⟩ => absurd h_mem List.not_mem_nil, fun _ => rfl⟩
  | call command next ih =>
    cases turns with
    | nil => cases h_run
    | cons turn turns =>
      have h_turn : good turn := h_good turn List.mem_cons_self
      have h_rest := ih _ (h_emits.2 _ () trivial)
        (fun t h_mem => h_good t (List.mem_cons_of_mem _ h_mem)) h_run
      let first : Served C R ε σ T :=
        ⟨turn, command, s, (serve turn command s).1, (serve turn command s).2⟩
      by_cases h_first : switched first
      · have h_left : observe (serve turn command s).2 = leaves (observe s) :=
          h_switched first h_turn h_emits.1 h_first rfl
        rw [h_left, h_idempotent] at h_rest
        refine ⟨fun _ => ?_, fun h_none => absurd h_first (h_none first List.mem_cons_self)⟩
        by_cases h_later : ∃ step ∈ (next first.answer).trace serve turns first.after, switched step
        · exact h_rest.1 h_later
        · exact h_rest.2 fun step h_mem h_step => h_later ⟨step, h_mem, h_step⟩
      · have h_same : observe (serve turn command s).2 = observe s :=
          h_kept first h_turn h_emits.1 h_first rfl
        rw [h_same] at h_rest
        constructor
        · rintro ⟨step, h_mem, h_step⟩
          rcases List.mem_cons.mp h_mem with rfl | h_mem
          · exact absurd h_step h_first
          · exact h_rest.1 ⟨step, h_mem, h_step⟩
        · exact fun h_none => h_rest.2 fun step h_mem => h_none step (List.mem_cons_of_mem _ h_mem)

/-- A program whose commands all leave an observation alone leaves it. -/
theorem Issues.run_keeps {ω : Type} {allowed : C → Prop} {observe : σ → ω}
    {p : Program C R ε α} {turns : List T} {s s' : σ} {result : Except ε α}
    (h_issues : p.Issues allowed)
    (h_keeps : ∀ turn command s, good turn → allowed command →
      observe (serve turn command s).2 = observe s)
    (h_good : ∀ turn ∈ turns, good turn) (h_run : p.run serve turns s = some (result, s')) :
    observe s' = observe s :=
  run_of_follows (h_issues.keeps h_keeps s) h_good h_run

/-- A program is only served what it issues. -/
theorem Issues.of_mem_trace {allowed : C → Prop} {p : Program C R ε α} {turns : List T} {s : σ}
    {step : Served C R ε σ T} (h_issues : p.Issues allowed) (h_mem : step ∈ p.trace serve turns s) :
    allowed step.command := by
  induction p generalizing turns s with
  | done result => cases h_mem
  | call command next ih =>
    cases turns with
    | nil => cases h_mem
    | cons turn turns =>
      rcases List.mem_cons.mp h_mem with rfl | h_mem
      · exact h_issues.1
      · exact ih _ (h_issues.2 _) h_mem

/-- A served command is what the server made of it. -/
theorem serve_of_mem_trace {p : Program C R ε α} {turns : List T} {s : σ}
    {step : Served C R ε σ T} (h_mem : step ∈ p.trace serve turns s) :
    step.turn ∈ turns ∧
      serve step.turn step.command step.before = (step.answer, step.after) := by
  induction p generalizing turns s with
  | done result => cases h_mem
  | call command next ih =>
    cases turns with
    | nil => cases h_mem
    | cons turn turns =>
      rcases List.mem_cons.mp h_mem with rfl | h_mem
      · exact ⟨List.mem_cons_self, rfl⟩
      · obtain ⟨h_turn, h_serve⟩ := ih _ h_mem
        exact ⟨List.mem_cons_of_mem _ h_turn, h_serve⟩

end Run

end Program

end TokenThrottle.Theory
