/-
  TokenThrottle.Factories.UnsupportedContent

  Which contents the chat counter rejects.

  `_check_nested_unsupported_content` descends into every list and every dictionary value, so
  structured input is rejected for an unsupported part at any depth.  The walk of
  `_count_text_fragments` leaves out what lies beside a `text` or a `content`, and looks for
  unsupported parts only while it comes from `content`: `countTextFragments_raises_iff` says
  what a walk is rejected for, and `countChatInputTokens_rejects_iff` when that covers an
  unsupported part somewhere in the content.
-/
import TokenThrottle.Factories.TokenCounter

namespace TokenThrottle.TokenCounter

open Relation (ReflTransGen)

/-- The call raises: every error here is a `ValueError`. -/
def Raises {α : Type} (result : Except CountError α) : Prop :=
  ∃ error, result = .error error

section Raises

variable {α β : Type}

@[simp] theorem raises_ok (a : α) : Raises (Except.ok a) ↔ False := by
  constructor
  · rintro ⟨_, h_eq⟩
    cases h_eq
  · exact False.elim

@[simp] theorem raises_pure (a : α) : Raises (pure a : Except CountError α) ↔ False :=
  raises_ok a

@[simp] theorem raises_error (error : CountError) : Raises (α := α) (.error error) ↔ True :=
  iff_true_intro ⟨error, rfl⟩

/-- The rest of a body runs only on a value. -/
theorem raises_bind (x : Except CountError α) (f : α → Except CountError β) :
    Raises (x >>= f) ↔ Raises x ∨ ∃ a, x = .ok a ∧ Raises (f a) := by
  cases x with
  | error error => simp [bind, Except.bind]
  | ok a => simp [bind, Except.bind]

/-- What follows a part changes the value only, or has an error of its own. -/
theorem raises_bind_of_forall {x : Except CountError α} {f : α → Except CountError β} {P : Prop}
    (h_rest : ∀ a, Raises (f a) ↔ P) : Raises (x >>= f) ↔ Raises x ∨ P := by
  rw [raises_bind]
  cases x with
  | error error => simp
  | ok a => simp [h_rest a]

theorem raises_bind_pure (x : Except CountError α) (f : α → β) :
    Raises (do let a ← x; return f a) ↔ Raises x := by
  rw [raises_bind_of_forall (P := False) (fun _ => raises_pure _), or_false]

/-- A sum raises where one of its parts does. -/
theorem raises_add (x y : Except CountError ℕ) :
    Raises (do let m ← x; let n ← y; return m + n) ↔ Raises x ∨ Raises y :=
  raises_bind_of_forall fun _ => raises_bind_pure y _

theorem raises_mapM (f : α → Except CountError β) (items : List α) :
    Raises (items.mapM f) ↔ ∃ item ∈ items, Raises (f item) := by
  induction items with
  | nil => simp
  | cons item items ih =>
    rw [List.mapM_cons, raises_bind_of_forall (P := Raises (items.mapM f)), ih]
    · simp
    · intro b
      exact raises_bind_pure _ _

end Raises

/-! ## Unsupported parts of a tree -/

/-- The tree holds a dictionary of an unsupported type, through lists and dictionary values. -/
inductive HoldsUnsupported : Value → Prop
  | here {entries : Entries} {partType : String} (h_type : get entries "type" = some (.str partType))
      (h_unsupported : partType ∈ unsupportedContentPartTypes) : HoldsUnsupported (.dict entries)
  | item {items : List Value} {item : Value} (h_mem : item ∈ items)
      (h_item : HoldsUnsupported item) : HoldsUnsupported (.list items)
  | entry {entries : Entries} {entry : DictKey × Value} (h_mem : entry ∈ entries)
      (h_entry : HoldsUnsupported entry.2) : HoldsUnsupported (.dict entries)

theorem unsupportedType_of_mem {entries : Entries} {partType : String}
    (h_type : get entries "type" = some (.str partType))
    (h_unsupported : partType ∈ unsupportedContentPartTypes) :
    unsupportedType entries = some partType := by
  unfold unsupportedType
  rw [h_type]
  exact if_pos h_unsupported

theorem isSome_orElse {α : Type} (a b : Option α) :
    (a <|> b).isSome = (a.isSome || b.isSome) := by
  cases a <;> rfl

theorem checkNestedItems_isSome {items : List Value} {item : Value} (h_mem : item ∈ items)
    (h_item : (checkNestedUnsupportedContent item).isSome) :
    (checkNestedItems items).isSome := by
  induction items with
  | nil => cases h_mem
  | cons head items ih =>
    rw [checkNestedItems, isSome_orElse, Bool.or_eq_true]
    rcases List.mem_cons.mp h_mem with rfl | h_mem
    · exact .inl h_item
    · exact .inr (ih h_mem)

theorem checkNestedEntries_isSome {entries : Entries} {entry : DictKey × Value}
    (h_mem : entry ∈ entries) (h_entry : (checkNestedUnsupportedContent entry.2).isSome) :
    (checkNestedEntries entries).isSome := by
  induction entries with
  | nil => cases h_mem
  | cons head entries ih =>
    rw [checkNestedEntries, isSome_orElse, Bool.or_eq_true]
    rcases List.mem_cons.mp h_mem with rfl | h_mem
    · exact .inl h_entry
    · exact .inr (ih h_mem)

/-- The structured walk misses no unsupported part. -/
theorem checkNestedUnsupportedContent_isSome {tree : Value} (h_holds : HoldsUnsupported tree) :
    (checkNestedUnsupportedContent tree).isSome := by
  induction h_holds with
  | here h_type h_unsupported =>
    rw [checkNestedUnsupportedContent, unsupportedType_of_mem h_type h_unsupported]
    rfl
  | item h_mem _ ih =>
    rw [checkNestedUnsupportedContent]
    exact checkNestedItems_isSome h_mem ih
  | entry h_mem _ ih =>
    rw [checkNestedUnsupportedContent]
    split
    · rfl
    · exact checkNestedEntries_isSome h_mem ih

/-! ## Structured input -/

theorem checkStructuredItem_raises {item : Entries} (h_holds : HoldsUnsupported (.dict item)) :
    Raises (checkStructuredItem item) := by
  have h_some : (getUnsupportedContentPartName item <|>
      checkNestedUnsupportedContent (.dict item)).isSome := by
    rw [isSome_orElse, checkNestedUnsupportedContent_isSome h_holds, Bool.or_true]
  obtain ⟨name, h_name⟩ := Option.isSome_iff_exists.mp h_some
  unfold checkStructuredItem
  rw [h_name]
  exact ⟨_, rfl⟩

theorem raises_forM (f : Entries → Except CountError Unit) (items : List Entries) :
    Raises (items.forM f) ↔ ∃ item ∈ items, Raises (f item) := by
  induction items with
  | nil => simp
  | cons item items ih =>
    show Raises (f item >>= fun _ => items.forM f) ↔ _
    rw [raises_bind_of_forall (fun _ => ih)]
    simp

/-- An item that is no message is rejected for an unsupported part at any depth. -/
theorem countStructuredInputTokens_dict_raises (encoding : Encoding) {item : Entries}
    (h_item : looksLikeMessage item = false) (h_holds : HoldsUnsupported (.dict item)) :
    Raises (countStructuredInputTokens encoding (.dict item)) := by
  unfold countStructuredInputTokens
  dsimp only
  rw [if_neg (by simp [h_item]), raises_bind]
  exact .inl (checkStructuredItem_raises h_holds)

theorem mem_of_mapM_entries {values : List Value} {items : List Entries} {item : Entries}
    (h_items : values.mapM Value.entries? = some items) (h_mem : .dict item ∈ values) :
    item ∈ items := by
  induction values generalizing items with
  | nil => cases h_mem
  | cons value values ih =>
    rw [List.mapM_cons] at h_items
    obtain ⟨head, h_head, h_items⟩ := Option.bind_eq_some_iff.mp h_items
    obtain ⟨rest, h_rest, h_items⟩ := Option.bind_eq_some_iff.mp h_items
    cases h_items
    rcases List.mem_cons.mp h_mem with rfl | h_mem
    · cases h_head
      exact List.mem_cons_self
    · exact List.mem_cons_of_mem _ (ih h_rest h_mem)

theorem countStructuredInputTokens_list_raises (encoding : Encoding) {item : Entries}
    {values : List Value} (h_mem : .dict item ∈ values) (h_item : looksLikeMessage item = false)
    (h_holds : HoldsUnsupported (.dict item)) :
    Raises (countStructuredInputTokens encoding (.list values)) := by
  have h_raises := checkStructuredItem_raises h_holds
  unfold countStructuredInputTokens
  dsimp only
  split
  · exact ⟨_, rfl⟩
  · rename_i items h_items
    have h_mem : item ∈ items := mem_of_mapM_entries h_items h_mem
    have h_some : ¬ (items.filter looksLikeMessage).length = items.length := by
      rw [List.length_filter_eq_length_iff]
      intro h_all
      rw [h_all item h_mem] at h_item
      cases h_item
    rw [if_neg h_some]
    split
    · -- no item is a message: all of them are checked
      rw [raises_bind, raises_forM]
      exact .inl ⟨item, h_mem, h_raises⟩
    · rw [raises_bind, raises_forM]
      exact .inl ⟨item, List.mem_filter.mpr ⟨h_mem, by simp [h_item]⟩, h_raises⟩

/-! ## The walk over a field of a message -/

/-- Where a walk over the text of a field stands, with the two flags it has there. -/
structure Fragment where
  value : Value
  contentPartContext : Bool
  coerceScalars : Bool

/-- The value is what the walk is rejected for, not something inside it. -/
inductive Fragment.Offends : Fragment → Prop
  | bool {value : Bool} {context : Bool} : Offends ⟨.bool value, context, false⟩
  | number {value : Number} {context : Bool} : Offends ⟨.number value, context, false⟩
  | tuple {items : List Value} {context coerce : Bool} : Offends ⟨.tuple items, context, coerce⟩
  | other {typeName : String} {context coerce : Bool} : Offends ⟨.other typeName, context, coerce⟩
  | key {entries : Entries} {context coerce : Bool}
      (h_keys : ¬ ∀ entry ∈ entries, entry.1.isStr = true) : Offends ⟨.dict entries, context, coerce⟩
  | unsupported {entries : Entries} {coerce : Bool} {name : String}
      (h_name : getUnsupportedContentPartName entries = some name) :
      Offends ⟨.dict entries, true, coerce⟩
  | untyped {entries : Entries} {context coerce : Bool}
      (h_type : ∀ partType, get entries "type" ≠ some (.str partType)) :
      Offends ⟨.dict entries, context, coerce⟩
  | text {entries : Entries} {context coerce : Bool} {value : Value}
      (h_text : get entries "text" = some value) (h_value : ∀ text, value ≠ .str text) :
      Offends ⟨.dict entries, context, coerce⟩

/-- One step of the walk.  A `text` hides the other values of its dictionary, and so does a
`content`; under any other key the walk no longer looks for unsupported parts. -/
inductive Fragment.Enters : Fragment → Fragment → Prop
  | item {items : List Value} {item : Value} {context coerce : Bool} (h_mem : item ∈ items) :
      Enters ⟨.list items, context, coerce⟩ ⟨item, context, coerce⟩
  | content {entries : Entries} {value : Value} {context coerce : Bool}
      (h_text : get entries "text" = none) (h_content : get entries "content" = some value) :
      Enters ⟨.dict entries, context, coerce⟩ ⟨value, context, coerce⟩
  | entry {entries : Entries} {entry : DictKey × Value} {context coerce : Bool}
      (h_text : get entries "text" = none) (h_content : get entries "content" = none)
      (h_mem : entry ∈ entries) :
      Enters ⟨.dict entries, context, coerce⟩ ⟨entry.2, false, coerce⟩

/-- The walk comes to a value it is rejected for. -/
def Fragment.Refused (fragment : Fragment) : Prop :=
  ∃ reached, ReflTransGen Fragment.Enters fragment reached ∧ reached.Offends

theorem Fragment.refused_iff (fragment : Fragment) :
    fragment.Refused ↔ fragment.Offends ∨ ∃ next, fragment.Enters next ∧ next.Refused := by
  constructor
  · rintro ⟨reached, h_path, h_offends⟩
    rcases h_path.cases_head with rfl | ⟨next, h_enters, h_path⟩
    · exact .inl h_offends
    · exact .inr ⟨next, h_enters, reached, h_path, h_offends⟩
  · rintro (h_offends | ⟨next, h_enters, reached, h_path, h_offends⟩)
    · exact ⟨fragment, .refl, h_offends⟩
    · exact ⟨reached, .head h_enters h_path, h_offends⟩

section Refused

variable {context coerce : Bool}

theorem refused_list (items : List Value) :
    Fragment.Refused ⟨.list items, context, coerce⟩ ↔
      ∃ item ∈ items, Fragment.Refused ⟨item, context, coerce⟩ := by
  rw [Fragment.refused_iff]
  constructor
  · rintro (h_offends | ⟨next, h_enters, h_refused⟩)
    · cases h_offends
    · cases h_enters with
      | item h_mem => exact ⟨_, h_mem, h_refused⟩
  · rintro ⟨item, h_mem, h_refused⟩
    exact .inr ⟨_, .item h_mem, h_refused⟩

/-- A value that the walk does not go into is refused for itself. -/
theorem refused_leaf {value : Value} (h_list : ∀ items, value ≠ .list items)
    (h_dict : ∀ entries, value ≠ .dict entries) :
    Fragment.Refused ⟨value, context, coerce⟩ ↔ Fragment.Offends ⟨value, context, coerce⟩ := by
  rw [Fragment.refused_iff]
  refine or_iff_left ?_
  rintro ⟨next, h_enters, -⟩
  cases h_enters with
  | item => exact h_list _ rfl
  | content => exact h_dict _ rfl
  | entry => exact h_dict _ rfl

variable {entries : Entries}

/-- The dictionary passes the checks that come before its keys are looked at. -/
structure TypedPart (context : Bool) (entries : Entries) : Prop where
  keys : ∀ entry ∈ entries, entry.1.isStr = true
  supported : context = true → getUnsupportedContentPartName entries = none
  typed : ∃ partType, get entries "type" = some (.str partType)

/-- Such a dictionary is rejected for itself only when its text is no string. -/
theorem TypedPart.offends_iff (h_typed : TypedPart context entries) :
    Fragment.Offends ⟨.dict entries, context, coerce⟩ ↔
      ∃ value, get entries "text" = some value ∧ ∀ text, value ≠ .str text := by
  constructor
  · intro h_offends
    cases h_offends with
    | key h_keys => exact absurd h_typed.keys h_keys
    | unsupported h_name =>
      rw [h_typed.supported rfl] at h_name
      cases h_name
    | untyped h_type =>
      obtain ⟨partType, h_eq⟩ := h_typed.typed
      exact absurd h_eq (h_type partType)
    | text h_text h_value => exact ⟨_, h_text, h_value⟩
  · rintro ⟨value, h_text, h_value⟩
    exact .text h_text h_value

theorem TypedPart.refused_of_text {text : Value} (h_typed : TypedPart context entries)
    (h_text : get entries "text" = some text) :
    Fragment.Refused ⟨.dict entries, context, coerce⟩ ↔ ∀ string, text ≠ .str string := by
  rw [Fragment.refused_iff, h_typed.offends_iff]
  constructor
  · rintro (⟨value, h_value, h_string⟩ | ⟨next, h_enters, -⟩)
    · rw [h_text] at h_value
      cases h_value
      exact h_string
    · cases h_enters with
      | content h_none => simp [h_text] at h_none
      | entry h_none => simp [h_text] at h_none
  · intro h_string
    exact .inl ⟨text, h_text, h_string⟩

theorem TypedPart.refused_of_content {value : Value} (h_typed : TypedPart context entries)
    (h_text : get entries "text" = none) (h_content : get entries "content" = some value) :
    Fragment.Refused ⟨.dict entries, context, coerce⟩ ↔
      Fragment.Refused ⟨value, context, coerce⟩ := by
  rw [Fragment.refused_iff, h_typed.offends_iff]
  constructor
  · rintro (⟨text, h_some, -⟩ | ⟨next, h_enters, h_refused⟩)
    · simp [h_text] at h_some
    · cases h_enters with
      | content _ h_value =>
        rw [h_content] at h_value
        cases h_value
        exact h_refused
      | entry _ h_none => simp [h_content] at h_none
  · intro h_refused
    exact .inr ⟨_, .content h_text h_content, h_refused⟩

theorem TypedPart.refused_of_entries (h_typed : TypedPart context entries)
    (h_text : get entries "text" = none) (h_content : get entries "content" = none) :
    Fragment.Refused ⟨.dict entries, context, coerce⟩ ↔
      ∃ entry ∈ entries, Fragment.Refused ⟨entry.2, false, coerce⟩ := by
  rw [Fragment.refused_iff, h_typed.offends_iff]
  constructor
  · rintro (⟨text, h_some, -⟩ | ⟨next, h_enters, h_refused⟩)
    · simp [h_text] at h_some
    · cases h_enters with
      | content _ h_some => simp [h_content] at h_some
      | entry _ _ h_mem => exact ⟨_, h_mem, h_refused⟩
  · rintro ⟨entry, h_mem, h_refused⟩
    exact .inr ⟨_, .entry h_text h_content h_mem, h_refused⟩

end Refused

/-! ## The walk of the code -/

section Walk

variable (encoding : Encoding) (invalidError : String)

theorem countContent_eq_none_iff (context coerce : Bool) (entries : Entries) :
    countContent encoding invalidError context coerce entries = none ↔
      get entries "content" = none := by
  induction entries with
  | nil => simp [countContent, get]
  | cons entry entries ih =>
    obtain ⟨key, value⟩ := entry
    rw [countContent, get, List.lookup_cons]
    by_cases h_key : key = .str "content"
    · simp [h_key]
    · have h_beq : (DictKey.str "content" == key) = false := by
        rw [beq_eq_false_iff_ne]
        exact fun h_eq => h_key h_eq.symm
      rw [if_neg h_key, h_beq]
      exact ih

/-- Without a `content`, every other value is walked out of the context of a content part. -/
theorem key_ne_of_get_none {entries : Entries} {key : String} (h_none : get entries key = none)
    {entry : DictKey × Value} (h_mem : entry ∈ entries) : entry.1 ≠ .str key := by
  intro h_key
  have h_ne := List.lookup_eq_none_iff.mp h_none entry h_mem
  rw [h_key] at h_ne
  simp at h_ne

mutual

/-- The code raises where the walk comes to a value that it is rejected for. -/
theorem countTextFragments_raises_iff (context coerce : Bool) : (value : Value) →
    (Raises (countTextFragments encoding invalidError context coerce value) ↔
      Fragment.Refused ⟨value, context, coerce⟩)
  | .none => by
    rw [refused_leaf (by simp) (by simp), countTextFragments, raises_ok, false_iff]
    rintro ⟨⟩
  | .str text => by
    rw [refused_leaf (by simp) (by simp), countTextFragments, raises_ok, false_iff]
    rintro ⟨⟩
  | .bool value => by
    rw [refused_leaf (by simp) (by simp), countTextFragments]
    cases coerce with
    | true =>
      rw [if_pos rfl, raises_ok, false_iff]
      rintro ⟨⟩
    | false => exact iff_of_true ⟨_, rfl⟩ .bool
  | .number value => by
    rw [refused_leaf (by simp) (by simp), countTextFragments]
    cases coerce with
    | true =>
      rw [if_pos rfl, raises_ok, false_iff]
      rintro ⟨⟩
    | false => exact iff_of_true ⟨_, rfl⟩ .number
  | .tuple items => by
    rw [refused_leaf (by simp) (by simp), countTextFragments]
    exact iff_of_true ⟨_, rfl⟩ .tuple
  | .other typeName => by
    rw [refused_leaf (by simp) (by simp), countTextFragments]
    exact iff_of_true ⟨_, rfl⟩ .other
  | .list items => by
    rw [refused_list, countTextFragments]
    exact countItems_raises_iff context coerce items
  | .dict entries => by
    have h_offends (h : Fragment.Offends ⟨.dict entries, context, coerce⟩) :
        Fragment.Refused ⟨.dict entries, context, coerce⟩ := ⟨_, .refl, h⟩
    rw [countTextFragments]
    split
    · rename_i h_keys
      refine iff_of_true ⟨_, rfl⟩ (h_offends (.key ?_))
      simpa using h_keys
    · rename_i h_keys
      have h_keys : ∀ entry ∈ entries, entry.1.isStr = true := by simpa using h_keys
      split
      · rename_i name h_name
        refine iff_of_true ⟨_, rfl⟩ (h_offends ?_)
        cases context with
        | true => exact .unsupported h_name
        | false => cases h_name
      · rename_i h_supported
        split
        · rename_i partType h_type
          -- every check of the dict itself has passed: what is left are its parts
          have h_typed : TypedPart context entries :=
            { keys := h_keys
              supported := fun h_context => by simpa [h_context] using h_supported
              typed := ⟨partType, h_type⟩ }
          split
          · rename_i text h_text
            rw [h_typed.refused_of_text h_text, raises_ok]
            simp
          · rename_i text h_string h_text
            rw [h_typed.refused_of_text h_text, raises_error, true_iff]
            exact h_string
          · rename_i h_text
            rcases h_content : get entries "content" with _ | content
            · have h_count := (countContent_eq_none_iff encoding invalidError context coerce
                entries).mpr h_content
              rw [h_count, h_typed.refused_of_entries h_text h_content]
              exact countEntries_raises_iff context coerce entries
                fun entry h_mem => key_ne_of_get_none h_content h_mem
            · obtain ⟨count, h_count, h_raises⟩ :=
                countContent_raises_iff context coerce entries content h_content
              rw [h_count, h_typed.refused_of_content h_text h_content]
              exact h_raises
        · rename_i h_untyped
          exact iff_of_true ⟨_, rfl⟩ (h_offends (.untyped fun partType h_type =>
            h_untyped partType h_type))

theorem countItems_raises_iff (context coerce : Bool) : (items : List Value) →
    (Raises (countItems encoding invalidError context coerce items) ↔
      ∃ item ∈ items, Fragment.Refused ⟨item, context, coerce⟩)
  | [] => by simp [countItems]
  | item :: items => by
    have h_item := countTextFragments_raises_iff context coerce item
    have h_items := countItems_raises_iff context coerce items
    rw [countItems, raises_add, h_item, h_items]
    simp

/-- The value under `content` is walked in the mode of its dictionary. -/
theorem countContent_raises_iff (context coerce : Bool) : (entries : Entries) →
    ∀ value, get entries "content" = some value → ∃ count,
      countContent encoding invalidError context coerce entries = some count ∧
      (Raises count ↔ Fragment.Refused ⟨value, context, coerce⟩)
  | [] => by simp [get]
  | (key, value) :: entries => by
    have h_value := countTextFragments_raises_iff context coerce value
    have h_entries := countContent_raises_iff context coerce entries
    intro content h_content
    rw [countContent]
    rw [get, List.lookup_cons] at h_content
    by_cases h_key : key = .str "content"
    · rw [if_pos h_key]
      simp only [h_key, beq_self_eq_true] at h_content
      cases h_content
      exact ⟨_, rfl, h_value⟩
    · have h_beq : (DictKey.str "content" == key) = false := by
        rw [beq_eq_false_iff_ne]
        exact fun h_eq => h_key h_eq.symm
      rw [if_neg h_key]
      rw [h_beq] at h_content
      exact h_entries content h_content

/-- The walk over the values of a dictionary that has no `content`. -/
theorem countEntries_raises_iff (context coerce : Bool) : (entries : Entries) →
    (∀ entry ∈ entries, entry.1 ≠ .str "content") →
    (Raises (countEntries encoding invalidError context coerce entries) ↔
      ∃ entry ∈ entries, Fragment.Refused ⟨entry.2, false, coerce⟩)
  | [] => by simp [countEntries]
  | (key, value) :: entries => by
    intro h_content
    have h_key : (key == DictKey.str "content") = false := by
      rw [beq_eq_false_iff_ne]
      exact h_content _ List.mem_cons_self
    have h_value := countTextFragments_raises_iff false coerce value
    have h_entries := countEntries_raises_iff context coerce entries
      fun entry h_mem => h_content entry (List.mem_cons_of_mem _ h_mem)
    have h_ne : (key != DictKey.str "content") = true := by rw [bne, h_key]; rfl
    rw [countEntries, h_key, h_ne, Bool.and_false, Bool.and_true, raises_add, h_value, h_entries]
    simp

end

end Walk

/-! ## Chat messages -/

/-- What an entry of a message is rejected for. -/
def EntryRefused (entry : DictKey × Value) : Prop :=
  if isCallKey entry.1 then jsonDumps entry.2 = none
  else Fragment.Refused ⟨entry.2, entry.1 == .str "content", entry.1 != .str "content"⟩

theorem countJsonSerializedTokens_raises_iff (encoding : Encoding) (value : Value)
    (invalidError : String) :
    Raises (countJsonSerializedTokens encoding value invalidError) ↔ jsonDumps value = none := by
  unfold countJsonSerializedTokens
  cases jsonDumps value <;> simp

theorem countMessageEntry_raises_iff (encoding : Encoding) (entry : DictKey × Value) :
    Raises (countMessageEntry encoding entry) ↔ EntryRefused entry := by
  unfold countMessageEntry
  rw [raises_bind_pure]
  unfold countMessageValue EntryRefused
  by_cases h_call : isCallKey entry.1 = true
  · rw [if_pos h_call, if_pos h_call, countJsonSerializedTokens_raises_iff]
  · rw [if_neg h_call, if_neg h_call, countTextFragments_raises_iff]

/-- The message is a dictionary with string keys. -/
def StringKeys (message : Entries) : Prop := ∀ entry ∈ message, entry.1.isStr = true

theorem countMessage_raises_iff (encoding : Encoding) {message : Entries}
    (h_keys : StringKeys message) :
    Raises (countMessage encoding message) ↔ ∃ entry ∈ message, EntryRefused entry := by
  have h_all : ¬ ¬ message.all (fun entry => entry.1.isStr) = true :=
    not_not.mpr (List.all_eq_true.mpr h_keys)
  unfold countMessage
  rw [if_neg h_all, raises_bind_pure, raises_mapM]
  simp only [countMessageEntry_raises_iff]

theorem countChatInputTokens_raises_iff (encoding : Encoding) {messages : List Entries}
    (h_keys : ∀ message ∈ messages, StringKeys message) :
    Raises (countChatInputTokens encoding messages) ↔
      ∃ message ∈ messages, ∃ entry ∈ message, EntryRefused entry := by
  unfold countChatInputTokens
  rw [raises_bind_pure, raises_mapM]
  constructor
  · rintro ⟨message, h_mem, h_raises⟩
    exact ⟨message, h_mem, (countMessage_raises_iff encoding (h_keys message h_mem)).mp h_raises⟩
  · rintro ⟨message, h_mem, h_refused⟩
    exact ⟨message, h_mem, (countMessage_raises_iff encoding (h_keys message h_mem)).mpr h_refused⟩

/-- The walk into a content comes to a part of an unsupported type: between the two are only
lists, and dictionaries without `text` whose `content` the part is in. -/
theorem entryRefused_of_reaches {tree : Value} {part : Entries} {coerce : Bool} {partType : String}
    (h_reaches : ReflTransGen Fragment.Enters ⟨tree, true, false⟩ ⟨.dict part, true, coerce⟩)
    (h_type : get part "type" = some (.str partType))
    (h_unsupported : partType ∈ unsupportedContentPartTypes) :
    EntryRefused (.str "content", tree) := by
  have h_name : getUnsupportedContentPartName part = some partType := by
    unfold getUnsupportedContentPartName
    rw [unsupportedType_of_mem h_type h_unsupported]
  show Fragment.Refused ⟨tree, true, false⟩
  exact ⟨_, h_reaches, .unsupported h_name⟩

/-- The items of structured input that hold a tree as one of their values are rejected,
alone or in a list. -/
def StructuredRejects (encoding : Encoding) (tree : Value) : Prop :=
  ∀ item : Entries, looksLikeMessage item = false → (∃ key, (key, tree) ∈ item) →
    Raises (countStructuredInputTokens encoding (.dict item)) ∧
    ∀ values, .dict item ∈ values → Raises (countStructuredInputTokens encoding (.list values))

theorem structuredRejects_of_holds (encoding : Encoding) {tree : Value}
    (h_holds : HoldsUnsupported tree) : StructuredRejects encoding tree := by
  rintro item h_item ⟨key, h_mem⟩
  have h_holds : HoldsUnsupported (.dict item) := .entry h_mem h_holds
  constructor
  · exact countStructuredInputTokens_dict_raises encoding h_item h_holds
  · intro values h_values
    exact countStructuredInputTokens_list_raises encoding h_values h_item h_holds

/-- Some content of the messages holds an unsupported part. -/
def ContentHoldsUnsupported (messages : List Entries) : Prop :=
  ∃ message ∈ messages, ∃ tree, get message "content" = some tree ∧ HoldsUnsupported tree

/-- Messages with an unsupported part somewhere in a content are rejected, as structured input
that holds this content is, exactly when some entry of them is refused. -/
theorem countChatInputTokens_rejects_iff (encoding : Encoding) (messages : List Entries)
    (h_keys : ∀ message ∈ messages, StringKeys message) :
    (∀ message ∈ messages, ∀ tree, get message "content" = some tree → HoldsUnsupported tree →
      Raises (countChatInputTokens encoding messages) ∧ StructuredRejects encoding tree) ↔
    (ContentHoldsUnsupported messages →
      ∃ message ∈ messages, ∃ entry ∈ message, EntryRefused entry) := by
  rw [← countChatInputTokens_raises_iff encoding h_keys]
  constructor
  · rintro h_rejects ⟨message, h_mem, tree, h_content, h_holds⟩
    exact (h_rejects message h_mem tree h_content h_holds).1
  · intro h_raises message h_mem tree h_content h_holds
    have h_some : ContentHoldsUnsupported messages := ⟨message, h_mem, tree, h_content, h_holds⟩
    exact ⟨h_raises h_some, structuredRejects_of_holds encoding h_holds⟩

/-- One token a character. -/
def characters : Encoding := ⟨fun text => text.toList.map Char.toNat⟩

def inputImage : Value := .dict [(.str "type", .str "input_image")]

/-- A content part that the counter walks without looking for unsupported parts. -/
def toolResult : Value := .dict [(.str "type", .str "tool_result"), (.str "output", .list [inputImage])]

def contentMessage (parts : List Value) : Entries :=
  [(.str "role", .str "user"), (.str "content", .list parts)]

theorem inputImage_holds : HoldsUnsupported inputImage :=
  .here rfl (by decide)

theorem countChatInputTokens_rejects_inputImage :
    Raises (countChatInputTokens characters [contentMessage [inputImage]]) ∧
      StructuredRejects characters (.list [inputImage]) := by
  have h_keys : ∀ message ∈ [contentMessage [inputImage]], StringKeys message := by
    intro message h_mem
    rw [List.mem_singleton.mp h_mem]
    simp [StringKeys, contentMessage, DictKey.isStr]
  have h_refused : EntryRefused (.str "content", .list [inputImage]) :=
    entryRefused_of_reaches (.single (.item List.mem_cons_self)) rfl
      (show "input_image" ∈ unsupportedContentPartTypes by decide)
  refine (countChatInputTokens_rejects_iff characters _ h_keys).mpr ?_ _ List.mem_cons_self
    (.list [inputImage]) rfl (.item List.mem_cons_self inputImage_holds)
  intro _
  refine ⟨_, List.mem_cons_self, _, ?_, h_refused⟩
  simp [contentMessage]

/-- The image that a tool returned is counted by its type name. -/
theorem countChatInputTokens_misses_inputImage :
    HoldsUnsupported (.list [toolResult]) ∧
    countChatInputTokens characters [contentMessage [toolResult]] = .ok 32 ∧
    StructuredRejects characters (.list [toolResult]) := by
  have h_holds : HoldsUnsupported (.list [toolResult]) := by
    apply HoldsUnsupported.item List.mem_cons_self
    have h_output : (DictKey.str "output", Value.list [inputImage]) ∈
        [(.str "type", .str "tool_result"), (.str "output", .list [inputImage])] := by simp
    exact .entry h_output (.item List.mem_cons_self inputImage_holds)
  refine ⟨h_holds, rfl, structuredRejects_of_holds characters h_holds⟩

end TokenThrottle.TokenCounter
