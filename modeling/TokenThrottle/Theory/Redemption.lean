/-
  TokenThrottle.Theory.Redemption

  Tickets that are redeemed at most once: a desk with the live ticket and the stub of each
  key, and a book of every ticket it ever issued.

  * A ticket is issued for a key that has neither a live ticket nor a stub, and redeemed
    where there is a live one; both may expire.
  * `Balanced` ties the desk to the book: every ticket but the live one is either redeemed
    once or expired, and the live one is neither; a stub stands for a redeemed ticket.
  * What the book says was issued or redeemed, it goes on saying.
-/
import Mathlib.Data.List.Basic
import Mathlib.Logic.Function.Basic

namespace TokenThrottle.Theory.Redemption

variable {K T : Type} [DecidableEq K] [DecidableEq T]

/-- The live tickets, and the stubs that redeemed ones leave. -/
@[ext]
structure Desk (K T : Type) where
  live : K → Option T
  stub : K → Bool

/-- A ticket in the book: how often it was redeemed, and whether it expired. -/
structure Record (T : Type) where
  ticket : T
  redeemed : ℕ
  expired : Bool

namespace Record

def issued (ticket : T) : Record T := ⟨ticket, 0, false⟩

/-- Redeemed once, or expired, and not both. -/
def Closed (record : Record T) : Prop :=
  record.redeemed = if record.expired then 0 else 1

/-- The same ticket, redeemed no less often. -/
def Keeps (record record' : Record T) : Prop :=
  record'.ticket = record.ticket ∧ record.redeemed ≤ record'.redeemed

omit [DecidableEq T] in
theorem Keeps.refl (record : Record T) : record.Keeps record := ⟨rfl, Nat.le_refl _⟩

end Record

/-- What is entered in the book. -/
inductive Entry (K T : Type)
  | nothing
  | issued (key : K) (ticket : T)
  | redeemed (key : K) (ticket : T)
  | expired (key : K)

/-- The tickets of each key, newest first; `stray` counts redemptions of anything else than
    the newest ticket of a key. -/
structure Book (K T : Type) where
  history : K → List (Record T)
  stray : ℕ

namespace Book

def empty : Book K T := ⟨fun _ => [], 0⟩

/-- The book with another history of a key. -/
def withHistory (book : Book K T) (key : K) (history : List (Record T)) : Book K T :=
  { book with history := Function.update book.history key history }

def enter (book : Book K T) : Entry K T → Book K T
  | .nothing => book
  | .issued key ticket => book.withHistory key (.issued ticket :: book.history key)
  | .redeemed key ticket =>
    match book.history key with
    | [] => { book with stray := book.stray + 1 }
    | record :: earlier =>
      if record.ticket = ticket then
        book.withHistory key ({ record with redeemed := record.redeemed + 1 } :: earlier)
      else { book with stray := book.stray + 1 }
  | .expired key =>
    match book.history key with
    | [] => book
    | record :: earlier => book.withHistory key ({ record with expired := true } :: earlier)

/-- The ticket was issued for the key. -/
def Issued (book : Book K T) (key : K) (ticket : T) : Prop :=
  ∃ record ∈ book.history key, record.ticket = ticket

/-- A ticket of the key was redeemed. -/
def Redeemed (book : Book K T) (key : K) : Prop :=
  ∃ record ∈ book.history key, 1 ≤ record.redeemed

section Enter

variable {book : Book K T} {entry : Entry K T} {key : K}

omit [DecidableEq T] in
/-- The history of one key has changed, and no record of it is lost. -/
theorem withHistory_keeps {history : List (Record T)}
    (h_key : ∀ record ∈ book.history key, ∃ record' ∈ history, record.Keeps record')
    {other : K} {record : Record T} (h_mem : record ∈ book.history other) :
    ∃ record' ∈ (book.withHistory key history).history other, record.Keeps record' := by
  simp only [withHistory]
  by_cases h_other : other = key
  · rw [h_other] at h_mem ⊢
    rw [Function.update_self]
    exact h_key record h_mem
  · rw [Function.update_of_ne h_other]
    exact ⟨record, h_mem, .refl record⟩

/-- No entry takes a record out of the book. -/
theorem enter_keeps (entry : Entry K T) {record : Record T} (h_mem : record ∈ book.history key) :
    ∃ record' ∈ (book.enter entry).history key, record.Keeps record' := by
  cases entry with
  | nothing => exact ⟨record, h_mem, .refl record⟩
  | issued issuedKey ticket =>
    refine withHistory_keeps (fun record h_mem => ?_) h_mem
    exact ⟨record, List.mem_cons_of_mem _ h_mem, .refl record⟩
  | redeemed redeemedKey ticket =>
    simp only [enter]
    split
    · exact ⟨record, h_mem, .refl record⟩
    -- a redemption changes the newest record only, and only by counting up
    · rename_i newest earlier h_history
      split
      · refine withHistory_keeps (fun record h_mem => ?_) h_mem
        rw [h_history] at h_mem
        rcases List.mem_cons.mp h_mem with rfl | h_mem
        · exact ⟨_, List.mem_cons_self, rfl, Nat.le_succ _⟩
        · exact ⟨record, List.mem_cons_of_mem _ h_mem, .refl record⟩
      · exact ⟨record, h_mem, .refl record⟩
  | expired expiredKey =>
    simp only [enter]
    split
    · exact ⟨record, h_mem, .refl record⟩
    · rename_i newest earlier h_history
      refine withHistory_keeps (fun record h_mem => ?_) h_mem
      rw [h_history] at h_mem
      rcases List.mem_cons.mp h_mem with rfl | h_mem
      · exact ⟨_, List.mem_cons_self, rfl, Nat.le_refl _⟩
      · exact ⟨record, List.mem_cons_of_mem _ h_mem, .refl record⟩

theorem Issued.enter {ticket : T} (h_issued : book.Issued key ticket) :
    (book.enter entry).Issued key ticket := by
  obtain ⟨record, h_mem, h_ticket⟩ := h_issued
  obtain ⟨record', h_mem', h_keeps⟩ := enter_keeps entry h_mem
  exact ⟨record', h_mem', h_keeps.1.trans h_ticket⟩

theorem Redeemed.enter (h_redeemed : book.Redeemed key) : (book.enter entry).Redeemed key := by
  obtain ⟨record, h_mem, h_times⟩ := h_redeemed
  obtain ⟨record', h_mem', h_keeps⟩ := enter_keeps entry h_mem
  exact ⟨record', h_mem', Nat.le_trans h_times h_keeps.2⟩

theorem issued_enter (book : Book K T) (key : K) (ticket : T) :
    (book.enter (.issued key ticket)).Issued key ticket := by
  refine ⟨.issued ticket, ?_, rfl⟩
  simp only [Book.enter, withHistory, Function.update_self]
  exact List.mem_cons_self

end Enter

end Book

/-- A move of the desk, with what it enters in the book. -/
inductive Move (desk : Desk K T) : Entry K T → Desk K T → Prop
  | idle : Move desk .nothing desk
  | issue {key : K} (ticket : T) (h_live : desk.live key = none) (h_stub : desk.stub key = false) :
      Move desk (.issued key ticket) ⟨Function.update desk.live key (some ticket), desk.stub⟩
  | redeem {key : K} {ticket : T} (h_live : desk.live key = some ticket) :
      Move desk (.redeemed key ticket)
        ⟨Function.update desk.live key none, Function.update desk.stub key true⟩
  | expireTicket {key : K} {ticket : T} (h_live : desk.live key = some ticket) :
      Move desk (.expired key) ⟨Function.update desk.live key none, desk.stub⟩
  | expireStub (key : K) :
      Move desk .nothing ⟨desk.live, Function.update desk.stub key false⟩

/-- The history of a key with this live ticket. -/
def Accounted : Option T → List (Record T) → Prop
  | none, history => ∀ record ∈ history, record.Closed
  | some ticket, history =>
    ∃ earlier, history = .issued ticket :: earlier ∧ ∀ record ∈ earlier, record.Closed

/-- The desk and the book agree. -/
structure Balanced (desk : Desk K T) (book : Book K T) : Prop where
  noStray : book.stray = 0
  exclusive : ∀ key, desk.live key = none ∨ desk.stub key = false
  accounted : ∀ key, Accounted (desk.live key) (book.history key)
  stubbed : ∀ key, desk.stub key = true → book.Redeemed key

section Accounts

variable {live : Option T} {history : List (Record T)} {record : Record T}

omit [DecidableEq T] in
/-- A ticket is redeemed at most once, and not once it has expired. -/
theorem Accounted.redeemed_le (h_accounted : Accounted live history) (h_mem : record ∈ history) :
    record.redeemed ≤ if record.expired then 0 else 1 := by
  cases live with
  | none => exact Nat.le_of_eq (h_accounted record h_mem)
  | some ticket =>
    obtain ⟨earlier, rfl, h_earlier⟩ := h_accounted
    rcases List.mem_cons.mp h_mem with rfl | h_mem
    · exact Nat.zero_le _
    · exact Nat.le_of_eq (h_earlier record h_mem)

omit [DecidableEq T] in
/-- A ticket that is neither redeemed nor expired is the live one. -/
theorem Accounted.live_of_open (h_accounted : Accounted live history) (h_mem : record ∈ history)
    (h_redeemed : record.redeemed = 0) (h_expired : record.expired = false) :
    live = some record.ticket := by
  have h_open : ¬ record.Closed := by
    unfold Record.Closed
    rw [h_redeemed, h_expired]
    exact Nat.zero_ne_one
  cases live with
  | none => exact absurd (h_accounted record h_mem) h_open
  | some ticket =>
    obtain ⟨earlier, rfl, h_earlier⟩ := h_accounted
    rcases List.mem_cons.mp h_mem with rfl | h_mem
    · rfl
    · exact absurd (h_earlier record h_mem) h_open

end Accounts

namespace Balanced

variable {desk desk' : Desk K T} {book : Book K T} {entry : Entry K T} {key : K} {ticket : T}

omit [DecidableEq K] [DecidableEq T] in
theorem empty : Balanced (⟨fun _ => none, fun _ => false⟩ : Desk K T) .empty where
  noStray := rfl
  exclusive _ := .inl rfl
  accounted _ _ h_mem := absurd h_mem List.not_mem_nil
  stubbed _ h_stub := absurd h_stub Bool.false_ne_true

omit [DecidableEq T] in
/-- Only the account of one key has changed. -/
theorem accounted_update (h_bal : Balanced desk book) {live : Option T} {history : List (Record T)}
    (h_key : Accounted live history) (other : K) :
    Accounted (Function.update desk.live key live other)
      ((book.withHistory key history).history other) := by
  simp only [Book.withHistory]
  by_cases h_other : other = key
  · rw [h_other, Function.update_self, Function.update_self]
    exact h_key
  · rw [Function.update_of_ne h_other, Function.update_of_ne h_other]
    exact h_bal.accounted other

omit [DecidableEq T] in
/-- Where a ticket is taken away, nothing is left to exclude. -/
theorem exclusive_update_none {live : K → Option T} {stub stub' : K → Bool}
    (h_exclusive : ∀ key, live key = none ∨ stub key = false)
    (h_stub : ∀ other, other ≠ key → stub' other = stub other) (other : K) :
    Function.update live key none other = none ∨ stub' other = false := by
  by_cases h_other : other = key
  · rw [h_other]
    exact .inl (Function.update_self ..)
  · rw [Function.update_of_ne h_other, h_stub other h_other]
    exact h_exclusive other

theorem issue (h_bal : Balanced desk book) (h_live : desk.live key = none)
    (h_stub : desk.stub key = false) :
    Balanced ⟨Function.update desk.live key (some ticket), desk.stub⟩
      (book.enter (.issued key ticket)) where
  noStray := h_bal.noStray
  exclusive other := by
    by_cases h_other : other = key
    · rw [h_other]
      exact .inr h_stub
    · simp only [Function.update_of_ne h_other]
      exact h_bal.exclusive other
  accounted := by
    have h_closed : Accounted none (book.history key) := h_live ▸ h_bal.accounted key
    exact h_bal.accounted_update ⟨book.history key, rfl, h_closed⟩
  stubbed other h_other := (h_bal.stubbed other h_other).enter

/-- The ticket that is redeemed is the newest one of its key. -/
theorem redeem (h_bal : Balanced desk book) (h_live : desk.live key = some ticket) :
    Balanced ⟨Function.update desk.live key none, Function.update desk.stub key true⟩
      (book.enter (.redeemed key ticket)) := by
  have h_account := h_bal.accounted key
  rw [h_live] at h_account
  obtain ⟨earlier, h_history, h_earlier⟩ := h_account
  have h_enter : book.enter (.redeemed key ticket) =
      book.withHistory key (⟨ticket, 1, false⟩ :: earlier) := by
    simp only [Book.enter, h_history]
    exact if_pos rfl
  have h_closed : Accounted none ((⟨ticket, 1, false⟩ : Record T) :: earlier) :=
    List.forall_mem_cons.mpr ⟨rfl, h_earlier⟩
  refine ⟨h_enter ▸ h_bal.noStray, exclusive_update_none h_bal.exclusive fun other h_other => ?_,
    h_enter ▸ h_bal.accounted_update h_closed, fun other h_stub => ?_⟩
  · exact Function.update_of_ne h_other ..
  -- the stub of this key stands for the redemption just entered, the others as before
  · by_cases h_other : other = key
    · refine ⟨⟨ticket, 1, false⟩, ?_, Nat.le_refl 1⟩
      rw [h_enter, h_other]
      simp only [Book.withHistory, Function.update_self]
      exact List.mem_cons_self
    · simp only [Function.update_of_ne h_other] at h_stub
      exact (h_bal.stubbed other h_stub).enter

theorem expireTicket (h_bal : Balanced desk book) (h_live : desk.live key = some ticket) :
    Balanced ⟨Function.update desk.live key none, desk.stub⟩ (book.enter (.expired key)) := by
  have h_account := h_bal.accounted key
  rw [h_live] at h_account
  obtain ⟨earlier, h_history, h_earlier⟩ := h_account
  have h_enter : book.enter (.expired key) =
      book.withHistory key (⟨ticket, 0, true⟩ :: earlier) := by
    simp only [Book.enter, h_history]
    rfl
  have h_closed : Accounted none ((⟨ticket, 0, true⟩ : Record T) :: earlier) :=
    List.forall_mem_cons.mpr ⟨rfl, h_earlier⟩
  exact ⟨h_enter ▸ h_bal.noStray, exclusive_update_none h_bal.exclusive fun _ _ => rfl,
    h_enter ▸ h_bal.accounted_update h_closed,
    fun other h_stub => (h_bal.stubbed other h_stub).enter⟩

omit [DecidableEq T] in
theorem expireStub (h_bal : Balanced desk book) (key : K) :
    Balanced ⟨desk.live, Function.update desk.stub key false⟩ book where
  noStray := h_bal.noStray
  exclusive other := by
    by_cases h_other : other = key
    · rw [h_other]
      exact .inr (Function.update_self ..)
    · simp only [Function.update_of_ne h_other]
      exact h_bal.exclusive other
  accounted := h_bal.accounted
  stubbed other h_stub := by
    by_cases h_other : other = key
    · rw [h_other] at h_stub
      simp only [Function.update_self] at h_stub
      cases h_stub
    · simp only [Function.update_of_ne h_other] at h_stub
      exact h_bal.stubbed other h_stub

omit [DecidableEq K] [DecidableEq T] in
/-- What is live was issued. -/
theorem issued_of_live (h_bal : Balanced desk book) (h_live : desk.live key = some ticket) :
    book.Issued key ticket := by
  have h_account := h_bal.accounted key
  rw [h_live] at h_account
  obtain ⟨earlier, h_history, _⟩ := h_account
  refine ⟨.issued ticket, ?_, rfl⟩
  rw [h_history]
  exact List.mem_cons_self

/-- A move and its entry keep the desk and the book in agreement. -/
theorem move (h_bal : Balanced desk book) (h_move : Move desk entry desk') :
    Balanced desk' (book.enter entry) := by
  cases h_move with
  | idle => exact h_bal
  | issue ticket h_live h_stub => exact h_bal.issue h_live h_stub
  | redeem h_live => exact h_bal.redeem h_live
  | expireTicket h_live => exact h_bal.expireTicket h_live
  | expireStub key => exact h_bal.expireStub key

end Balanced

end TokenThrottle.Theory.Redemption
