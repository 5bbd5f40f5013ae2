/-
  TokenThrottle.Theory.Dict

  Finite dictionaries: a lookup function together with the finite set of the
  keys it is defined on, so that a dictionary knows its size.

  Two dictionaries are equal when they look the same keys up to the same values;
  the order of insertion is not kept.
-/
import Mathlib.Algebra.BigOperators.Group.Finset.Basic
import Mathlib.Data.Finset.Card

namespace TokenThrottle.Theory

/-- A finite dictionary; `keys` are exactly the keys that have a value. -/
structure Dict (α β : Type) where
  get : α → Option β
  keys : Finset α
  mem_keys : ∀ a, a ∈ keys ↔ (get a).isSome

namespace Dict

variable {α β : Type}

theorem ext_get {d d' : Dict α β} (h_get : ∀ a, d.get a = d'.get a) : d = d' := by
  obtain ⟨get, keys, h_keys⟩ := d
  obtain ⟨get', keys', h_keys'⟩ := d'
  obtain rfl : get = get' := funext h_get
  obtain rfl : keys = keys' := Finset.ext fun a => (h_keys a).trans (h_keys' a).symm
  rfl

theorem mem_keys_of_get {d : Dict α β} {a : α} {b : β} (h_get : d.get a = some b) :
    a ∈ d.keys :=
  (d.mem_keys a).mpr (by rw [h_get]; rfl)

/-- `{}` -/
def empty : Dict α β where
  get _ := none
  keys := ∅
  mem_keys a := by simp

@[simp] theorem get_empty (a : α) : (empty : Dict α β).get a = none := rfl

/-- `len(d)` -/
def len (d : Dict α β) : ℕ := d.keys.card

section Operations

variable [DecidableEq α] (d : Dict α β) (a : α)

/-- Two dictionaries are the same when their keys and their values are. -/
instance [DecidableEq β] : DecidableEq (Dict α β) := fun d d' =>
  decidable_of_iff (d.keys = d'.keys ∧ ∀ a ∈ d.keys, d.get a = d'.get a) <| by
    constructor
    · rintro ⟨h_keys, h_get⟩
      refine ext_get fun a => ?_
      by_cases h_mem : a ∈ d.keys
      · exact h_get a h_mem
      · have h_mem' : a ∉ d'.keys := h_keys ▸ h_mem
        rw [d.mem_keys, Option.not_isSome_iff_eq_none] at h_mem
        rw [d'.mem_keys, Option.not_isSome_iff_eq_none] at h_mem'
        rw [h_mem, h_mem']
    · rintro rfl
      exact ⟨rfl, fun _ _ => rfl⟩

/-- `d[a] = b` -/
def set (b : β) : Dict α β where
  get := Function.update d.get a (some b)
  keys := insert a d.keys
  mem_keys a' := by
    by_cases h_eq : a' = a
    · subst h_eq
      simp
    · simp [h_eq, d.mem_keys]

/-- `d.pop(a, None)` -/
def pop : Dict α β where
  get := Function.update d.get a none
  keys := d.keys.erase a
  mem_keys a' := by
    by_cases h_eq : a' = a
    · subst h_eq
      simp
    · simp [h_eq, d.mem_keys]

theorem get_set (b : β) (a' : α) :
    (d.set a b).get a' = if a' = a then some b else d.get a' :=
  Function.update_apply d.get a (some b) a'

theorem get_pop (a' : α) : (d.pop a).get a' = if a' = a then none else d.get a' :=
  Function.update_apply d.get a none a'

@[simp] theorem get_set_self (b : β) : (d.set a b).get a = some b := by
  rw [get_set, if_pos rfl]

@[simp] theorem get_pop_self : (d.pop a).get a = none := by
  rw [get_pop, if_pos rfl]

variable {d a}

theorem get_set_of_ne {b : β} {a' : α} (h_ne : a' ≠ a) : (d.set a b).get a' = d.get a' := by
  rw [get_set, if_neg h_ne]

theorem get_pop_of_ne {a' : α} (h_ne : a' ≠ a) : (d.pop a).get a' = d.get a' := by
  rw [get_pop, if_neg h_ne]

/-- An entry after a write is the one written, or an older one of another key. -/
theorem get_set_cases {b b' : β} {a' : α} (h_get : (d.set a b).get a' = some b') :
    a' = a ∧ b' = b ∨ a' ≠ a ∧ d.get a' = some b' := by
  rw [get_set] at h_get
  by_cases h_eq : a' = a
  · rw [if_pos h_eq] at h_get
    exact .inl ⟨h_eq, (Option.some.inj h_get).symm⟩
  · rw [if_neg h_eq] at h_get
    exact .inr ⟨h_eq, h_get⟩

/-- An entry after a removal is an older one of another key. -/
theorem get_pop_cases {b' : β} {a' : α} (h_get : (d.pop a).get a' = some b') :
    a' ≠ a ∧ d.get a' = some b' := by
  rw [get_pop] at h_get
  by_cases h_eq : a' = a
  · rw [if_pos h_eq] at h_get
    cases h_get
  · rw [if_neg h_eq] at h_get
    exact ⟨h_eq, h_get⟩

end Operations

/-- The entries that meet a condition: what is left when the others are popped. -/
def keep (p : α → β → Bool) (d : Dict α β) : Dict α β where
  get a := (d.get a).filter (p a)
  keys := d.keys.filter fun a => (d.get a).any (p a)
  mem_keys a := by
    rw [Finset.mem_filter, d.mem_keys]
    cases d.get a with
    | none => simp
    | some b => by_cases h_p : p a b = true <;> simp [h_p]

theorem get_keep (p : α → β → Bool) (d : Dict α β) (a : α) :
    (d.keep p).get a = (d.get a).filter (p a) := rfl

/-- The sum of the values. -/
def total (d : Dict α ℕ) : ℕ := ∑ a ∈ d.keys, (d.get a).getD 0

/-! ## Dictionaries of one entry -/

section Single

variable [DecidableEq α]

/-- `{a: b}` -/
def single (a : α) (b : β) : Dict α β := empty.set a b

theorem get_single (a : α) (b : β) (a' : α) :
    (single a b).get a' = if a' = a then some b else none :=
  get_set empty a b a'

@[simp] theorem get_single_self (a : α) (b : β) : (single a b).get a = some b :=
  get_set_self empty a b

@[simp] theorem keys_single (a : α) (b : β) : (single a b).keys = {a} := rfl

theorem single_set (a : α) (b b' : β) : (single a b).set a b' = single a b' := by
  refine ext_get fun a' => ?_
  rw [get_set, get_single, get_single]
  by_cases h_eq : a' = a
  · rw [if_pos h_eq, if_pos h_eq]
  · rw [if_neg h_eq, if_neg h_eq, if_neg h_eq]

theorem single_pop_self (a : α) (b : β) : (single a b).pop a = empty := by
  refine ext_get fun a' => ?_
  rw [get_pop, get_single]
  by_cases h_eq : a' = a
  · rw [if_pos h_eq]
    rfl
  · rw [if_neg h_eq, if_neg h_eq]
    rfl

theorem single_pop_of_ne {a a' : α} (b : β) (h_ne : a' ≠ a) :
    (single a b).pop a' = single a b := by
  refine ext_get fun a'' => ?_
  rw [get_pop, get_single]
  by_cases h_eq : a'' = a'
  · rw [if_pos h_eq, if_neg (h_eq ▸ h_ne)]
  · rw [if_neg h_eq]

theorem total_single (a : α) (n : ℕ) : (single a n).total = n := by
  unfold total
  rw [keys_single, Finset.sum_singleton, get_single_self]
  rfl

end Single

end Dict

end TokenThrottle.Theory
