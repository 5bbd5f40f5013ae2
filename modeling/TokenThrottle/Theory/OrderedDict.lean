/-
  TokenThrottle.Theory.OrderedDict

  Dictionaries that keep the order of insertion: the list of their items, with no
  key twice, for code that iterates over what it looks up.
-/
import Mathlib.Data.Finset.Basic
import Mathlib.Data.List.Nodup

namespace TokenThrottle.Theory

structure OrderedDict (α β : Type) where
  items : List (α × β)
  nodup : (items.map Prod.fst).Nodup

namespace OrderedDict

variable {α β γ : Type}

def empty : OrderedDict α β := ⟨[], List.nodup_nil⟩

/-- The values by key, changed one by one. -/
def mapValues (d : OrderedDict α β) (f : α → β → γ) : OrderedDict α γ where
  items := d.items.map fun item => (item.1, f item.1 item.2)
  nodup := by
    rw [List.map_map]
    exact d.nodup

/-- The items that meet a condition. -/
def filter (d : OrderedDict α β) (p : α → Bool) : OrderedDict α β where
  items := d.items.filter fun item => p item.1
  nodup := d.nodup.sublist ((List.filter_sublist).map Prod.fst)

variable [DecidableEq α] (d : OrderedDict α β) (a : α)

/-- `d.get(a)` -/
def get : Option β := d.items.lookup a

def keys : Finset α := (d.items.map Prod.fst).toFinset

variable {d a} {b : β}

theorem mem_items_iff : (a, b) ∈ d.items ↔ d.get a = some b := by
  obtain ⟨items, h_nodup⟩ := d
  show (a, b) ∈ items ↔ items.lookup a = some b
  induction items with
  | nil => simp
  | cons item items ih =>
    obtain ⟨a', b'⟩ := item
    rw [List.map_cons, List.nodup_cons] at h_nodup
    rw [List.mem_cons, List.lookup_cons]
    by_cases h_eq : a = a'
    · subst h_eq
      have h_not_mem : (a, b) ∉ items := fun h_mem => h_nodup.1 (List.mem_map.mpr ⟨_, h_mem, rfl⟩)
      simp [h_not_mem, eq_comm]
    · rw [beq_false_of_ne h_eq]
      simp [h_eq, ih h_nodup.2]

theorem mem_keys_iff : a ∈ d.keys ↔ (d.get a).isSome := by
  unfold keys
  rw [List.mem_toFinset, List.mem_map, Option.isSome_iff_exists]
  constructor
  · rintro ⟨⟨a', b⟩, h_mem, rfl⟩
    exact ⟨b, mem_items_iff.mp h_mem⟩
  · rintro ⟨b, h_get⟩
    exact ⟨(a, b), mem_items_iff.mpr h_get, rfl⟩

theorem get_mapValues (f : α → β → γ) : (d.mapValues f).get a = (d.get a).map (f a) := by
  obtain ⟨items, _⟩ := d
  show (items.map _).lookup a = (items.lookup a).map (f a)
  induction items with
  | nil => rfl
  | cons item items ih =>
    rename_i h_nodup
    rw [List.map_cons, List.lookup_cons, List.lookup_cons]
    rw [List.map_cons, List.nodup_cons] at h_nodup
    by_cases h_eq : a = item.1
    · simp [h_eq]
    · rw [beq_false_of_ne h_eq]
      exact ih h_nodup.2

@[simp] theorem get_empty : (empty : OrderedDict α β).get a = none := rfl

/-! ## Writing an entry -/

/-- `items` with the value of a key replaced where it stands, or put at the end. -/
def setItem (a : α) (b : β) : List (α × β) → List (α × β)
  | [] => [(a, b)]
  | item :: items => if item.1 = a then (a, b) :: items else item :: setItem a b items

theorem mem_keys_setItem {items : List (α × β)} {a' : α}
    (h_mem : a' ∈ (setItem a b items).map Prod.fst) : a' = a ∨ a' ∈ items.map Prod.fst := by
  induction items with
  | nil => exact .inl (by simpa [setItem] using h_mem)
  | cons item items ih =>
    unfold setItem at h_mem
    by_cases h_eq : item.1 = a
    · rw [if_pos h_eq, List.map_cons, List.mem_cons] at h_mem
      exact h_mem.imp id fun h_tail => List.mem_cons_of_mem _ h_tail
    · rw [if_neg h_eq, List.map_cons, List.mem_cons] at h_mem
      rcases h_mem with rfl | h_tail
      · exact .inr List.mem_cons_self
      · exact (ih h_tail).imp id fun h_old => List.mem_cons_of_mem _ h_old

theorem nodup_setItem {items : List (α × β)} (h_nodup : (items.map Prod.fst).Nodup) :
    ((setItem a b items).map Prod.fst).Nodup := by
  induction items with
  | nil => exact List.nodup_singleton a
  | cons item items ih =>
    rw [List.map_cons, List.nodup_cons] at h_nodup
    unfold setItem
    by_cases h_eq : item.1 = a
    · rw [if_pos h_eq, List.map_cons, List.nodup_cons]
      exact ⟨h_eq ▸ h_nodup.1, h_nodup.2⟩
    · rw [if_neg h_eq, List.map_cons, List.nodup_cons]
      refine ⟨fun h_mem => ?_, ih h_nodup.2⟩
      exact (mem_keys_setItem h_mem).elim h_eq h_nodup.1

/-- `d[a] = b` -/
def set (d : OrderedDict α β) (a : α) (b : β) : OrderedDict α β where
  items := setItem a b d.items
  nodup := nodup_setItem d.nodup

theorem get_set (d : OrderedDict α β) (a : α) (b : β) (a' : α) :
    (d.set a b).get a' = if a' = a then some b else d.get a' := by
  obtain ⟨items, h_nodup⟩ := d
  show (setItem a b items).lookup a' = if a' = a then some b else items.lookup a'
  clear h_nodup
  induction items with
  | nil =>
    by_cases h_eq : a' = a
    · simp [setItem, h_eq]
    · simp [setItem, h_eq]
  | cons item items ih =>
    obtain ⟨key, old⟩ := item
    show (if key = a then (a, b) :: items else (key, old) :: setItem a b items).lookup a' = _
    by_cases h_item : key = a
    · rw [if_pos h_item, List.lookup_cons, List.lookup_cons, h_item]
      by_cases h_eq : a' = a
      · simp [h_eq]
      · simp [h_eq, beq_false_of_ne h_eq]
    · rw [if_neg h_item, List.lookup_cons, List.lookup_cons, ih]
      by_cases h_eq : a' = key
      · have h_ne : a' ≠ a := h_eq ▸ h_item
        simp [h_eq, h_item]
      · simp [beq_false_of_ne h_eq]

theorem keys_mapValues (f : α → β → γ) : (d.mapValues f).keys = d.keys := by
  ext a
  rw [mem_keys_iff, mem_keys_iff, get_mapValues, Option.isSome_map]

end OrderedDict

end TokenThrottle.Theory
