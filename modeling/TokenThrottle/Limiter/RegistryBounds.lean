/-
  TokenThrottle.Limiter.RegistryBounds

  The size of the registry, over every run of the calls that read or write it.

  * The two caps hold in every state, since a call that would pass one raises before it
    writes.
  * The alias count of a family is the number of its registered models, so that a family is
    registered as long as one of its models is.
  * Every registered family was touched, so that an eviction finds it once it is idle.
-/
import TokenThrottle.Limiter.Registry

namespace TokenThrottle

open Theory (Dict Run Steps exists_run_of_exec)

/-! ## Sizes of dictionaries -/

namespace Theory.Dict

variable {α β : Type} [DecidableEq α] {d : Dict α β} {a : α} {b : β} {n : ℕ}

/-- A write adds at most one key, and none if the key was there. -/
theorem len_set_le (h_len : d.len ≤ n) (h_room : d.get a = none → d.len < n) :
    (d.set a b).len ≤ n := by
  show (insert a d.keys).card ≤ n
  cases h_get : d.get a with
  | none =>
    have h_card : (insert a d.keys).card ≤ d.keys.card + 1 := Finset.card_insert_le a d.keys
    exact h_card.trans (h_room h_get)
  | some b' =>
    rw [Finset.insert_eq_of_mem (mem_keys_of_get h_get)]
    exact h_len

omit [DecidableEq α] in
theorem len_keep_le (p : α → β → Bool) (d : Dict α β) : (d.keep p).len ≤ d.len :=
  Finset.card_le_card (Finset.filter_subset _ d.keys)

end Theory.Dict

namespace FamilyRegistry

/-! ## Runs -/

/-- A step on the tables, or a call that is not in `Label`. -/
inductive Event
  | step (label : Label)
  /-- `_validate_shared_model_family_config` with `register=False` -/
  | check (call : Validation)
  /-- A finished acquire or refund touches its family, which may have been evicted. -/
  | touch (modelFamily : ModelFamily) (now : ℚ)
  /-- `_clear_retained_state_after_close` -/
  | close

def next (caps : Caps) (familyOf : ModelName → ModelFamily) (s : FamilyRegistry) :
    Event → Option FamilyRegistry
  | .step label => s.step caps familyOf label
  | .check call =>
    match s.validateSharedModelFamilyConfig caps call false with
    | .ok s' => some s'
    | .error _ => some s
  | .touch modelFamily now => some (s.touchModelFamily modelFamily now)
  | .close => some init

/-! ## What bounds the tables -/

/-- The registered models of a family. -/
def aliases (s : FamilyRegistry) (modelFamily : ModelFamily) : Finset ModelName :=
  s.modelNameToModelFamily.keys.filter fun model =>
    s.modelNameToModelFamily.get model = some modelFamily

/-- The caps on the number of aliases and of families. -/
structure WithinCaps (caps : Caps) (s : FamilyRegistry) : Prop where
  aliases : s.modelNameToModelFamily.len ≤ caps.maxAliases
  families : s.modelFamilyToValidatedSignature.len ≤ caps.maxModelFamilies

/-- The alias counts are the numbers of registered models. -/
def CountsAliases (s : FamilyRegistry) : Prop :=
  ∀ modelFamily, (s.modelFamilyAliasCounts.get modelFamily).getD 0 =
    (s.aliases modelFamily).card

/-- Eviction can find every registered family. -/
def Touched (s : FamilyRegistry) : Prop :=
  ∀ modelFamily, (s.modelFamilyToValidatedSignature.get modelFamily).isSome →
    (s.modelFamilyLastTouched.get modelFamily).isSome

/-- The invariant of the registry, a model keeping its family. -/
structure Sound (caps : Caps) (familyOf : ModelName → ModelFamily) (s : FamilyRegistry) :
    Prop where
  agrees : s.Agrees familyOf
  withinCaps : s.WithinCaps caps
  countsAliases : s.CountsAliases
  touched : s.Touched

variable {caps : Caps} {familyOf : ModelName → ModelFamily} {s s' : FamilyRegistry}
  {call : Validation} {model : ModelName} {modelFamily : ModelFamily}

theorem mem_aliases :
    model ∈ s.aliases modelFamily ↔ s.modelNameToModelFamily.get model = some modelFamily := by
  rw [aliases, Finset.mem_filter]
  constructor
  · exact fun h_mem => h_mem.2
  · exact fun h_get => ⟨Dict.mem_keys_of_get h_get, h_get⟩

theorem sound_init (caps : Caps) (familyOf : ModelName → ModelFamily) :
    init.Sound caps familyOf where
  agrees := agrees_init familyOf
  withinCaps := ⟨Nat.zero_le _, Nat.zero_le _⟩
  countsAliases _ := rfl
  touched _ h_some := by cases h_some

/-- Touching a family changes nothing but its time. -/
theorem Sound.touch (h_sound : s.Sound caps familyOf) (modelFamily : ModelFamily) (now : ℚ) :
    (s.touchModelFamily modelFamily now).Sound caps familyOf where
  agrees := ⟨h_sound.agrees.family_of, h_sound.agrees.known, h_sound.agrees.counted⟩
  withinCaps := ⟨h_sound.withinCaps.aliases, h_sound.withinCaps.families⟩
  countsAliases := h_sound.countsAliases
  touched other h_some := by
    show ((s.modelFamilyLastTouched.set modelFamily now).get other).isSome
    rw [Dict.get_set]
    split
    · rfl
    · exact h_sound.touched other h_some

/-! ### A registering call -/

/-- A model keeps the family it is registered with. -/
theorem Agrees.family_eq (h_agrees : s.Agrees familyOf)
    (h_get : s.modelNameToModelFamily.get model = some modelFamily) :
    modelFamily = familyOf model := by
  have h_map := (h_agrees.family_of model).symm.trans h_get
  obtain ⟨_, _, h_eq⟩ := Option.map_eq_some_iff.mp h_map
  exact h_eq.symm

/-- Where a call registers something new, there was room for it. -/
theorem validate_room (h_ok : s.validateSharedModelFamilyConfig caps call true = .ok s')
    (h_changed : s.modelNameToValidatedSignature.get call.model ≠
      some (configSignature call.cfg)) :
    (s.modelNameToModelFamily.get call.model = none →
      s.modelNameToModelFamily.len < caps.maxAliases) ∧
    (s.modelFamilyToValidatedSignature.get call.cfg.modelFamily = none →
      s.modelFamilyToValidatedSignature.len < caps.maxModelFamilies) := by
  unfold validateSharedModelFamilyConfig at h_ok
  rw [if_neg h_changed] at h_ok
  obtain ⟨settled, _, h_rest⟩ := bind_eq_ok h_ok
  obtain ⟨_, h_families, h_rest⟩ := bind_eq_ok h_rest
  obtain ⟨_, h_aliases, _⟩ := bind_eq_ok h_rest
  unfold enforceNewModelFamilyCap at h_families
  unfold enforceNewAliasCap at h_aliases
  constructor
  · intro h_new
    by_contra h_full
    rw [if_pos ⟨h_new, Nat.le_of_not_lt h_full⟩] at h_aliases
    cases h_aliases
  · intro h_new
    by_contra h_full
    rw [if_pos ⟨h_new, Nat.le_of_not_lt h_full⟩] at h_families
    cases h_families

section Register

variable {current : ConfigSignature} {previous : Option ConfigSignature}
  {currentCounts nextCounts : SignatureCounts} {reset : Bool} {now : ℚ}

/-- A registering call adds its model to its family, and to no other. -/
theorem register_aliases (h_agrees : s.Agrees familyOf) (h_family : modelFamily = familyOf model)
    (other : ModelFamily) :
    (s.register model modelFamily current previous currentCounts nextCounts reset now).aliases
      other = if other = modelFamily then insert model (s.aliases other) else s.aliases other := by
  ext name
  have h_get : (s.register model modelFamily current previous currentCounts nextCounts reset
      now).modelNameToModelFamily.get name =
        if name = model then some modelFamily else s.modelNameToModelFamily.get name :=
    Dict.get_set ..
  rw [mem_aliases, h_get]
  by_cases h_other : other = modelFamily
  · rw [if_pos h_other, Finset.mem_insert, mem_aliases, h_other]
    by_cases h_name : name = model
    · simp [h_name]
    · simp [h_name]
  · rw [if_neg h_other, mem_aliases]
    by_cases h_name : name = model
    · rw [if_pos h_name, h_name]
      constructor
      · intro h_eq
        exact absurd (Option.some.inj h_eq).symm h_other
      · intro h_known
        exact absurd ((h_agrees.family_eq h_known).trans h_family.symm) h_other
    · rw [if_neg h_name]

theorem register_countsAliases (h_agrees : s.Agrees familyOf)
    (h_family : modelFamily = familyOf model) (h_counts : s.CountsAliases) :
    (s.register model modelFamily current previous currentCounts nextCounts reset
      now).CountsAliases := by
  intro other
  rw [register_aliases h_agrees h_family other]
  cases h_known : s.modelNameToModelFamily.get model with
  | none =>
    -- a new alias is counted, and was in no family before
    have h_aliases : (s.register model modelFamily current previous currentCounts nextCounts
        reset now).modelFamilyAliasCounts = s.modelFamilyAliasCounts.set modelFamily
          ((s.modelFamilyAliasCounts.get modelFamily).getD 0 + 1) := by
      simp [register, h_known]
    rw [h_aliases, Dict.get_set]
    by_cases h_other : other = modelFamily
    · have h_not_mem : model ∉ s.aliases other := by
        rw [mem_aliases, h_known]
        intro h_eq
        cases h_eq
      rw [if_pos h_other, if_pos h_other, Finset.card_insert_of_notMem h_not_mem, ← h_counts other,
        h_other]
      rfl
    · rw [if_neg h_other, if_neg h_other]
      exact h_counts other
  | some known =>
    have h_aliases : (s.register model modelFamily current previous currentCounts nextCounts
        reset now).modelFamilyAliasCounts = s.modelFamilyAliasCounts := by
      simp [register, h_known]
    rw [h_aliases]
    by_cases h_other : other = modelFamily
    · have h_mem : model ∈ s.aliases other := by
        rw [mem_aliases, h_known, h_agrees.family_eq h_known, h_other, h_family]
      rw [if_pos h_other, Finset.insert_eq_of_mem h_mem]
      exact h_counts other
    · rw [if_neg h_other]
      exact h_counts other

end Register

theorem validate_sound (h_sound : s.Sound caps familyOf)
    (h_family : call.cfg.modelFamily = familyOf call.model)
    (h_ok : s.validateSharedModelFamilyConfig caps call true = .ok s') :
    s'.Sound caps familyOf := by
  have h_agrees : s'.Agrees familyOf := validate_agrees h_sound.agrees h_family h_ok
  rcases validate_cases h_ok with ⟨_, rfl⟩ | ⟨h_changed, settled, _, rfl⟩
  · exact h_sound.touch _ _
  · obtain ⟨h_aliases, h_families⟩ := validate_room h_ok h_changed
    refine ⟨h_agrees, ⟨?_, ?_⟩, ?_, fun other h_some => ?_⟩
    · exact Dict.len_set_le h_sound.withinCaps.aliases h_aliases
    · exact Dict.len_set_le h_sound.withinCaps.families h_families
    · exact register_countsAliases h_sound.agrees h_family h_sound.countsAliases
    · show ((s.modelFamilyLastTouched.set _ _).get other).isSome
      have h_some : ((s.modelFamilyToValidatedSignature.set _ _).get other).isSome := h_some
      rw [Dict.get_set] at h_some ⊢
      split
      · rfl
      · rename_i h_other
        rw [if_neg h_other] at h_some
        exact h_sound.touched other h_some

/-- A call that validates without registering touches its family at most. -/
theorem check_sound (h_sound : s.Sound caps familyOf)
    (h_ok : s.validateSharedModelFamilyConfig caps call false = .ok s') :
    s'.Sound caps familyOf := by
  unfold validateSharedModelFamilyConfig at h_ok
  by_cases h_same : s.modelNameToValidatedSignature.get call.model =
      some (configSignature call.cfg)
  · rw [if_pos h_same] at h_ok
    rw [← Except.ok.inj h_ok]
    exact h_sound.touch _ _
  · rw [if_neg h_same] at h_ok
    obtain ⟨settled, _, h_rest⟩ := bind_eq_ok h_ok
    obtain ⟨_, _, h_rest⟩ := bind_eq_ok h_rest
    obtain ⟨_, _, h_rest⟩ := bind_eq_ok h_rest
    rw [← Except.ok.inj h_rest]
    exact h_sound

/-! ### Eviction -/

theorem evict_aliases (expired : Finset ModelFamily) :
    (s.evict expired).aliases modelFamily =
      if modelFamily ∈ expired then ∅ else s.aliases modelFamily := by
  ext name
  have h_get : (s.evict expired).modelNameToModelFamily.get name =
      (s.modelNameToModelFamily.get name).filter fun known => decide (known ∉ expired) := rfl
  rw [mem_aliases, h_get, Option.filter_eq_some_iff]
  split
  · rename_i h_mem
    simp [h_mem]
  · rename_i h_mem
    rw [mem_aliases]
    simp [h_mem]

theorem keep_get {β : Type} (d : Dict ModelFamily β) (expired : Finset ModelFamily) :
    (d.keep fun modelFamily _ => modelFamily ∉ expired).get modelFamily =
      if modelFamily ∈ expired then none else d.get modelFamily := by
  rw [Dict.get_keep]
  by_cases h_mem : modelFamily ∈ expired
  · cases d.get modelFamily <;> simp [h_mem]
  · cases d.get modelFamily <;> simp [h_mem]

theorem evict_sound (h_sound : s.Sound caps familyOf) (expired : Finset ModelFamily) :
    (s.evict expired).Sound caps familyOf := by
  refine ⟨evict_agrees h_sound.agrees expired, ⟨?_, ?_⟩, fun other => ?_, fun other h_some => ?_⟩
  · exact (Dict.len_keep_le _ _).trans h_sound.withinCaps.aliases
  · exact (Dict.len_keep_le _ _).trans h_sound.withinCaps.families
  · have h_count : (s.evict expired).modelFamilyAliasCounts.get other =
        if other ∈ expired then none else s.modelFamilyAliasCounts.get other := keep_get _ _
    rw [h_count, evict_aliases]
    split
    · rfl
    · exact h_sound.countsAliases other
  · have h_signature : (s.evict expired).modelFamilyToValidatedSignature.get other =
        if other ∈ expired then none else s.modelFamilyToValidatedSignature.get other :=
      keep_get _ _
    have h_touched : (s.evict expired).modelFamilyLastTouched.get other =
        if other ∈ expired then none else s.modelFamilyLastTouched.get other := keep_get _ _
    rw [h_signature] at h_some
    rw [h_touched]
    split
    · rename_i h_mem
      rw [if_pos h_mem] at h_some
      cases h_some
    · rename_i h_mem
      rw [if_neg h_mem] at h_some
      exact h_sound.touched other h_some

theorem next_sound {event : Event} (h_sound : s.Sound caps familyOf)
    (h_next : Steps (next caps familyOf) s event s') : s'.Sound caps familyOf := by
  unfold Steps at h_next
  cases event with
  | step label =>
    cases label with
    | validate call =>
      simp only [next, step] at h_next
      split at h_next
      · rename_i h_family
        split at h_next
        · rename_i registered h_ok
          cases h_next
          exact validate_sound h_sound h_family h_ok
        · cases h_next
          exact h_sound
      · cases h_next
    | represent modelFamily model =>
      cases h_next
      exact ⟨⟨h_sound.agrees.family_of, h_sound.agrees.known, h_sound.agrees.counted⟩,
        ⟨h_sound.withinCaps.aliases, h_sound.withinCaps.families⟩, h_sound.countsAliases,
        h_sound.touched⟩
    | clearUnused unusedForSeconds now inFlightFamilies =>
      cases h_next
      exact evict_sound h_sound _
  | check call =>
    simp only [next] at h_next
    split at h_next
    · rename_i checked h_ok
      cases h_next
      exact check_sound h_sound h_ok
    · cases h_next
      exact h_sound
  | touch modelFamily now =>
    cases h_next
    exact h_sound.touch modelFamily now
  | close =>
    cases h_next
    exact sound_init caps familyOf

theorem run_sound {events : List Event} (h_run : Run (Steps (next caps familyOf)) init events s) :
    s.Sound caps familyOf :=
  h_run.invariant (fun _ _ _ h_sound h_next => next_sound h_sound h_next)
    (sound_init caps familyOf)

/-! ## What an eviction leaves -/

/-- The family has a reservation in flight, or was touched since. -/
def InUse (s : FamilyRegistry) (cutoff : ℚ) (inFlightFamilies : Finset ModelFamily)
    (modelFamily : ModelFamily) : Prop :=
  modelFamily ∈ inFlightFamilies ∨
    ∃ lastTouched, s.modelFamilyLastTouched.get modelFamily = some lastTouched ∧
      cutoff < lastTouched

/-- The family stands in all seven tables as it did. -/
structure Keeps (s' s : FamilyRegistry) (modelFamily : ModelFamily) : Prop where
  aliases : s'.aliases modelFamily = s.aliases modelFamily
  modelSignatures : ∀ model ∈ s.aliases modelFamily,
    s'.modelNameToValidatedSignature.get model = s.modelNameToValidatedSignature.get model
  signature : s'.modelFamilyToValidatedSignature.get modelFamily =
    s.modelFamilyToValidatedSignature.get modelFamily
  signatureCounts : s'.modelFamilySignatureCounts.get modelFamily =
    s.modelFamilySignatureCounts.get modelFamily
  aliasCounts : s'.modelFamilyAliasCounts.get modelFamily =
    s.modelFamilyAliasCounts.get modelFamily
  representative : s'.modelFamilyToModelName.get modelFamily =
    s.modelFamilyToModelName.get modelFamily
  lastTouched : s'.modelFamilyLastTouched.get modelFamily =
    s.modelFamilyLastTouched.get modelFamily

/-- Nothing stands of the family in six of the tables; the seventh is the one that names its
    representative. -/
structure Unregistered (familyOf : ModelName → ModelFamily) (s : FamilyRegistry)
    (modelFamily : ModelFamily) : Prop where
  aliases : s.aliases modelFamily = ∅
  modelSignatures : ∀ model, familyOf model = modelFamily →
    s.modelNameToValidatedSignature.get model = none
  signature : s.modelFamilyToValidatedSignature.get modelFamily = none
  signatureCounts : s.modelFamilySignatureCounts.get modelFamily = none
  aliasCounts : s.modelFamilyAliasCounts.get modelFamily = none
  lastTouched : s.modelFamilyLastTouched.get modelFamily = none

/-- Nothing is left of the family in any table. -/
structure Forgets (familyOf : ModelName → ModelFamily) (s : FamilyRegistry)
    (modelFamily : ModelFamily) : Prop where
  unregistered : s.Unregistered familyOf modelFamily
  representative : s.modelFamilyToModelName.get modelFamily = none

/-- Eviction keeps the families in use and forgets every other one that it can find.  A family
    without a time has no registration to forget; it may have a representative, from a runtime
    limit that was committed after its eviction, and keeps it. -/
structure ClearsUnused (familyOf : ModelName → ModelFamily) (s s' : FamilyRegistry)
    (inUse : ModelFamily → Prop) : Prop where
  keeps : ∀ modelFamily, inUse modelFamily → s'.Keeps s modelFamily
  forgets : ∀ modelFamily, ¬ inUse modelFamily →
    (s.modelFamilyLastTouched.get modelFamily).isSome → s'.Forgets familyOf modelFamily
  untouched : ∀ modelFamily, s.modelFamilyLastTouched.get modelFamily = none →
    s.Unregistered familyOf modelFamily ∧ s'.Keeps s modelFamily

/-- A family is registered as long as one of its models is. -/
theorem Sound.registered_iff (h_sound : s.Sound caps familyOf) :
    (s.modelFamilyToValidatedSignature.get modelFamily).isSome ↔
      (s.aliases modelFamily).Nonempty := by
  constructor
  · intro h_some
    obtain ⟨signature, h_signature⟩ := Option.isSome_iff_exists.mp h_some
    have h_counted := h_sound.agrees.counted modelFamily
    unfold Counted at h_counted
    rw [h_signature] at h_counted
    obtain ⟨n, h_pos, _, h_aliases⟩ := h_counted
    have h_card := h_sound.countsAliases modelFamily
    rw [h_aliases] at h_card
    exact Finset.card_pos.mp (h_card ▸ h_pos)
  · rintro ⟨model, h_mem⟩
    rw [mem_aliases] at h_mem
    rw [h_sound.agrees.family_eq h_mem]
    apply h_sound.agrees.known model
    rw [h_mem]
    rfl

/-- A family without models has no validated signature of a model either. -/
theorem Agrees.modelSignatures (h_agrees : s.Agrees familyOf)
    (h_aliases : s.aliases modelFamily = ∅) (h_family : familyOf model = modelFamily) :
    s.modelNameToValidatedSignature.get model = none := by
  by_contra h_some
  obtain ⟨signature, h_get⟩ := Option.ne_none_iff_exists'.mp h_some
  have h_mem : model ∈ s.aliases modelFamily := by
    rw [mem_aliases, h_agrees.family_of model, h_get, Option.map_some, h_family]
  rw [h_aliases] at h_mem
  exact Finset.notMem_empty model h_mem

/-- A family that was never touched stands nowhere but as a representative. -/
theorem Sound.unregistered (h_sound : s.Sound caps familyOf)
    (h_untouched : s.modelFamilyLastTouched.get modelFamily = none) :
    s.Unregistered familyOf modelFamily := by
  have h_none : s.modelFamilyToValidatedSignature.get modelFamily = none := by
    by_contra h_registered
    have h_touched := h_sound.touched modelFamily (Option.isSome_iff_ne_none.mpr h_registered)
    rw [h_untouched] at h_touched
    cases h_touched
  have h_counted := h_sound.agrees.counted modelFamily
  unfold Counted at h_counted
  rw [h_none] at h_counted
  have h_aliases : s.aliases modelFamily = ∅ := by
    have h_card := h_sound.countsAliases modelFamily
    rw [h_counted.2] at h_card
    exact Finset.card_eq_zero.mp h_card.symm
  exact ⟨h_aliases, fun _ => h_sound.agrees.modelSignatures h_aliases, h_none, h_counted.1,
    h_counted.2, h_untouched⟩

theorem mem_expiredFamilies {unusedForSeconds : ℕ} {now : ℚ}
    {inFlightFamilies : Finset ModelFamily} :
    modelFamily ∈ s.expiredFamilies unusedForSeconds now inFlightFamilies ↔
      (s.modelFamilyLastTouched.get modelFamily).isSome ∧
        ¬ s.InUse (now - unusedForSeconds) inFlightFamilies modelFamily := by
  unfold expiredFamilies InUse
  rw [Finset.mem_filter, Dict.mem_keys]
  cases s.modelFamilyLastTouched.get modelFamily with
  | none => simp
  | some lastTouched => simp

/-- A family that is not evicted. -/
theorem evict_keeps {expired : Finset ModelFamily} (h_not_mem : modelFamily ∉ expired) :
    (s.evict expired).Keeps s modelFamily where
  aliases := by rw [evict_aliases, if_neg h_not_mem]
  modelSignatures model h_mem := by
    show (s.modelNameToValidatedSignature.keep _).get model = _
    rw [Dict.get_keep, mem_aliases.mp h_mem]
    cases s.modelNameToValidatedSignature.get model <;> simp [h_not_mem]
  signature := (keep_get _ _).trans (if_neg h_not_mem)
  signatureCounts := (keep_get _ _).trans (if_neg h_not_mem)
  aliasCounts := (keep_get _ _).trans (if_neg h_not_mem)
  representative := (keep_get _ _).trans (if_neg h_not_mem)
  lastTouched := (keep_get _ _).trans (if_neg h_not_mem)

/-- A family that is. -/
theorem evict_forgets {expired : Finset ModelFamily} (h_agrees : s.Agrees familyOf)
    (h_mem : modelFamily ∈ expired) : (s.evict expired).Forgets familyOf modelFamily := by
  have h_aliases : (s.evict expired).aliases modelFamily = ∅ := by
    rw [evict_aliases, if_pos h_mem]
  have h_after := evict_agrees h_agrees expired
  refine ⟨⟨h_aliases, fun _ => h_after.modelSignatures h_aliases, ?_, ?_, ?_, ?_⟩, ?_⟩
  · exact (keep_get _ _).trans (if_pos h_mem)
  · exact (keep_get _ _).trans (if_pos h_mem)
  · exact (keep_get _ _).trans (if_pos h_mem)
  · exact (keep_get _ _).trans (if_pos h_mem)
  · exact (keep_get _ _).trans (if_pos h_mem)

theorem Sound.clearsUnused (h_sound : s.Sound caps familyOf) (unusedForSeconds : ℕ) (now : ℚ)
    (inFlightFamilies : Finset ModelFamily) :
    ClearsUnused familyOf s (s.evict (s.expiredFamilies unusedForSeconds now inFlightFamilies))
      (s.InUse (now - unusedForSeconds) inFlightFamilies) where
  keeps modelFamily h_use := by
    apply evict_keeps
    intro h_mem
    exact (mem_expiredFamilies.mp h_mem).2 h_use
  forgets modelFamily h_idle h_touched :=
    evict_forgets h_sound.agrees (mem_expiredFamilies.mpr ⟨h_touched, h_idle⟩)
  untouched modelFamily h_untouched := by
    refine ⟨h_sound.unregistered h_untouched, ?_⟩
    apply evict_keeps
    intro h_mem
    have h_touched := (mem_expiredFamilies.mp h_mem).1
    rw [h_untouched] at h_touched
    cases h_touched

/-! ## The registry over a run -/

/-- In every run the registry stays within its caps, counts its aliases, and has a family
    registered exactly while one of its models is; and an eviction keeps the families in use
    as they are and forgets every other one that was touched. -/
theorem run_withinCaps {events : List Event}
    (h_run : Run (Steps (next caps familyOf)) init events s) :
    s.WithinCaps caps ∧ s.CountsAliases ∧
      (∀ modelFamily, (s.modelFamilyToValidatedSignature.get modelFamily).isSome ↔
        (s.aliases modelFamily).Nonempty) ∧
      ∀ unusedForSeconds now inFlightFamilies,
        ClearsUnused familyOf s
          (s.evict (s.expiredFamilies unusedForSeconds now inFlightFamilies))
          (s.InUse (now - unusedForSeconds) inFlightFamilies) := by
  have h_sound := run_sound h_run
  refine ⟨h_sound.withinCaps, h_sound.countsAliases, fun modelFamily => ?_, ?_⟩
  · exact h_sound.registered_iff
  · exact h_sound.clearsUnused

/-- Room for two aliases of one family. -/
def twoAliases : Caps := { wideCaps with maxAliases := 2, maxModelFamilies := 1 }

/-- A third alias, and an alias of a second family, are refused; either family gets a
    representative. -/
def fourModels : List Event :=
  [.step (.validate ⟨"a", tokensConfig "f" oneHundred, fun _ => .error .configGetter, 0⟩),
    .step (.validate ⟨"b", tokensConfig "f" oneHundred, fun _ => .error .configGetter, 1⟩),
    .step (.validate ⟨"c", tokensConfig "f" oneHundred, fun _ => .error .configGetter, 2⟩),
    .step (.validate ⟨"d", tokensConfig "g" oneHundred, fun _ => .error .configGetter, 3⟩),
    .step (.represent "f" "a"), .step (.represent "g" "d")]

/-- The two aliases are there, and forgotten ten seconds later; the representative of the
    refused family stays. -/
theorem run_withinCaps_fourModels :
    ∃ s, Run (Steps (next twoAliases fun model => if model = "d" then "g" else "f")) init
        fourModels s ∧
      s.aliases "f" = {"a", "b"} ∧ s.WithinCaps twoAliases ∧
      (s.evict (s.expiredFamilies 5 10 ∅)).Forgets
        (fun model => if model = "d" then "g" else "f") "f" ∧
      (s.evict (s.expiredFamilies 5 10 ∅)).modelFamilyToModelName.get "g" = some "d" := by
  obtain ⟨s, h_run, h_aliases, h_touched, h_represented, h_refused⟩ :
      ∃ s, Run (Steps (next twoAliases fun model => if model = "d" then "g" else "f")) init
        fourModels s ∧ s.aliases "f" = {"a", "b"} ∧
          s.modelFamilyLastTouched.get "f" = some 1 ∧
          s.modelFamilyToModelName.get "g" = some "d" ∧
          s.modelFamilyLastTouched.get "g" = none :=
    exists_run_of_exec (by decide +kernel)
  obtain ⟨h_caps, _, _, h_clears⟩ := run_withinCaps h_run
  refine ⟨s, h_run, h_aliases, h_caps, (h_clears 5 10 ∅).forgets "f" ?_ ?_, ?_⟩
  · rintro (h_mem | ⟨lastTouched, h_get, h_lt⟩)
    · exact absurd h_mem (Finset.notMem_empty "f")
    · rw [h_touched] at h_get
      cases h_get
      norm_num at h_lt
  · rw [h_touched]
    rfl
  · exact ((h_clears 5 10 ∅).untouched "g" h_refused).2.representative.trans h_represented

end FamilyRegistry

end TokenThrottle
