/-
  TokenThrottle.Limiter.Registry

  The tables that make the models of one family agree on their configuration:
  which family and signature each model was validated with, how many models of a
  family stand behind each signature, and the model that last used the family.

  * `validateSharedModelFamilyConfig` is the source's method, with its fast path,
    its count bookkeeping and the reset it makes when the family's representative
    has moved to the configuration of the call.
  * The method raises before it writes, so a call that raises leaves the tables.
-/
import TokenThrottle.Limiter.Config
import TokenThrottle.Theory.Runs

namespace TokenThrottle

open Theory (Dict Run Steps exists_run_of_exec)

/-- `_model_family_signature_counts[family]` -/
abbrev SignatureCounts := Dict ConfigSignature ℕ

structure FamilyRegistry where
  modelNameToModelFamily : Dict ModelName ModelFamily
  modelNameToValidatedSignature : Dict ModelName ConfigSignature
  modelFamilySignatureCounts : Dict ModelFamily SignatureCounts
  modelFamilyAliasCounts : Dict ModelFamily ℕ
  modelFamilyToValidatedSignature : Dict ModelFamily ConfigSignature
  modelFamilyToModelName : Dict ModelFamily ModelName
  modelFamilyLastTouched : Dict ModelFamily ℚ

namespace FamilyRegistry

def init : FamilyRegistry := ⟨.empty, .empty, .empty, .empty, .empty, .empty, .empty⟩

/-! ## Validation and registration -/

/-- `_touch_model_family` -/
def touchModelFamily (s : FamilyRegistry) (modelFamily : ModelFamily) (now : ℚ) :
    FamilyRegistry :=
  { s with modelFamilyLastTouched := s.modelFamilyLastTouched.set modelFamily now }

/-- `_validated_model_family` -/
def validatedModelFamily (s : FamilyRegistry) (caps : Caps) (model : ModelName)
    (cfg : PerModelConfig) : Except LimiterError ModelFamily := do
  caps.enforceResolvedConfigCaps model cfg
  if (s.modelNameToModelFamily.get model).any (· ≠ cfg.modelFamily) then
    .error .modelFamilyChanged
  else
    .ok cfg.modelFamily

/-- `_enforce_new_model_family_cap` -/
def enforceNewModelFamilyCap (s : FamilyRegistry) (caps : Caps) (modelFamily : ModelFamily) :
    Except LimiterError Unit :=
  if s.modelFamilyToValidatedSignature.get modelFamily = none ∧
      caps.maxModelFamilies ≤ s.modelFamilyToValidatedSignature.len then
    .error (.cardinalityLimitExceeded .maxModelFamilies)
  else
    .ok ()

/-- `_enforce_new_alias_cap` -/
def enforceNewAliasCap (s : FamilyRegistry) (caps : Caps) (model : ModelName) :
    Except LimiterError Unit :=
  if s.modelNameToModelFamily.get model = none ∧
      caps.maxAliases ≤ s.modelNameToModelFamily.len then
    .error (.cardinalityLimitExceeded .maxAliases)
  else
    .ok ()

/-- The counts without the model's previous signature. -/
def withoutPrevious (counts : SignatureCounts) (previous : Option ConfigSignature) :
    SignatureCounts :=
  match previous with
  | none => counts
  | some signature =>
    if (counts.get signature).getD 0 ≤ 1 then counts.pop signature
    else counts.set signature ((counts.get signature).getD 0 - 1)

/-- Some other signature still has models behind it. -/
def conflicts (counts : SignatureCounts) (current : ConfigSignature) : Bool :=
  ∃ signature ∈ counts.keys, 0 < (counts.get signature).getD 0 ∧ signature ≠ current

/-- The representative of the family is another model, and the configuration getter
    now gives it the signature of the call. -/
def representativeMoved (s : FamilyRegistry) (caps : Caps) (configGetter : ConfigGetter)
    (model : ModelName) (modelFamily : ModelFamily) (current : ConfigSignature) :
    Except LimiterError Bool :=
  match s.modelFamilyToModelName.get modelFamily with
  | none => .ok false
  | some representative =>
    if representative = model then .ok false
    else do
      let representativeConfig ← configGetter representative
      let representativeFamily ← s.validatedModelFamily caps representative representativeConfig
      .ok (representativeFamily = modelFamily ∧
        configSignature representativeConfig = current)

/-- The counts to go on with, and whether they were reset to the current signature. -/
def settledCounts (s : FamilyRegistry) (caps : Caps) (configGetter : ConfigGetter)
    (model : ModelName) (modelFamily : ModelFamily) (current : ConfigSignature)
    (nextCounts : SignatureCounts) : Except LimiterError (SignatureCounts × Bool) :=
  if conflicts nextCounts current then do
    let moved ← s.representativeMoved caps configGetter model modelFamily current
    if moved then
      .ok (.single current ((s.modelFamilyAliasCounts.get modelFamily).getD 0), true)
    else
      .error .inconsistentConfig
  else
    .ok (nextCounts, false)

/-- The registering part of `_validate_shared_model_family_config`. -/
def register (s : FamilyRegistry) (model : ModelName) (modelFamily : ModelFamily)
    (current : ConfigSignature) (previous : Option ConfigSignature)
    (currentCounts nextCounts : SignatureCounts) (resetCountsToCurrent : Bool) (now : ℚ) :
    FamilyRegistry :=
  let isNewAlias : Bool := s.modelNameToModelFamily.get model = none
  let alreadyCounted := previous.any fun signature =>
    resetCountsToCurrent || (currentCounts.get signature).isNone
  let nextCounts :=
    -- a model is counted once, under the signature it has now
    if isNewAlias || !alreadyCounted then
      nextCounts.set current ((nextCounts.get current).getD 0 + 1)
    else nextCounts
  { s with
    modelNameToModelFamily := s.modelNameToModelFamily.set model modelFamily
    modelNameToValidatedSignature := s.modelNameToValidatedSignature.set model current
    modelFamilySignatureCounts := s.modelFamilySignatureCounts.set modelFamily nextCounts
    modelFamilyAliasCounts :=
      if isNewAlias then
        s.modelFamilyAliasCounts.set modelFamily
          ((s.modelFamilyAliasCounts.get modelFamily).getD 0 + 1)
      else s.modelFamilyAliasCounts
    modelFamilyToValidatedSignature :=
      s.modelFamilyToValidatedSignature.set modelFamily current
    modelFamilyLastTouched := s.modelFamilyLastTouched.set modelFamily now }

/-- The arguments of one validating call, and what the configuration getter gives
    while it runs. -/
structure Validation where
  model : ModelName
  cfg : PerModelConfig
  configGetter : ConfigGetter
  now : ℚ

/-- `_validate_shared_model_family_config` -/
def validateSharedModelFamilyConfig (s : FamilyRegistry) (caps : Caps) (call : Validation)
    (register : Bool) : Except LimiterError FamilyRegistry :=
  let modelFamily := call.cfg.modelFamily
  let current := configSignature call.cfg
  let previous := s.modelNameToValidatedSignature.get call.model
  -- the model has been validated with this configuration before
  if previous = some current then
    .ok (s.touchModelFamily modelFamily call.now)
  else do
    let currentCounts := (s.modelFamilySignatureCounts.get modelFamily).getD .empty
    let settled ← s.settledCounts caps call.configGetter call.model modelFamily current
      (withoutPrevious currentCounts previous)
    s.enforceNewModelFamilyCap caps modelFamily
    s.enforceNewAliasCap caps call.model
    if register then
      .ok (s.register call.model modelFamily current previous currentCounts settled.1 settled.2
        call.now)
    else
      .ok s

/-! ## Eviction -/

/-- The families `clear_unused_model_families` evicts. -/
def expiredFamilies (s : FamilyRegistry) (unusedForSeconds : ℕ) (now : ℚ)
    (inFlightFamilies : Finset ModelFamily) : Finset ModelFamily :=
  s.modelFamilyLastTouched.keys.filter fun modelFamily =>
    modelFamily ∉ inFlightFamilies ∧
      (s.modelFamilyLastTouched.get modelFamily).any (· ≤ now - unusedForSeconds)

/-- The pops of `clear_unused_model_families` on these tables. -/
def evict (s : FamilyRegistry) (expired : Finset ModelFamily) : FamilyRegistry where
  modelNameToModelFamily := s.modelNameToModelFamily.keep fun _ modelFamily =>
    modelFamily ∉ expired
  modelNameToValidatedSignature := s.modelNameToValidatedSignature.keep fun model _ =>
    !(s.modelNameToModelFamily.get model).any (· ∈ expired)
  modelFamilySignatureCounts := s.modelFamilySignatureCounts.keep fun modelFamily _ =>
    modelFamily ∉ expired
  modelFamilyAliasCounts := s.modelFamilyAliasCounts.keep fun modelFamily _ =>
    modelFamily ∉ expired
  modelFamilyToValidatedSignature := s.modelFamilyToValidatedSignature.keep fun modelFamily _ =>
    modelFamily ∉ expired
  modelFamilyToModelName := s.modelFamilyToModelName.keep fun modelFamily _ =>
    modelFamily ∉ expired
  modelFamilyLastTouched := s.modelFamilyLastTouched.keep fun modelFamily _ =>
    modelFamily ∉ expired

/-! ## Runs -/

inductive Label
  | validate (call : Validation)
  | represent (modelFamily : ModelFamily) (model : ModelName)
  | clearUnused (unusedForSeconds : ℕ) (now : ℚ) (inFlightFamilies : Finset ModelFamily)

/-- One step on the tables; a model keeps its family. -/
def step (caps : Caps) (familyOf : ModelName → ModelFamily) (s : FamilyRegistry) :
    Label → Option FamilyRegistry
  | .validate call =>
    if call.cfg.modelFamily = familyOf call.model then
      match s.validateSharedModelFamilyConfig caps call true with
      | .ok s' => some s'
      | .error _ => some s
    else none
  -- a finished acquire, or a committed runtime limit, makes its model the representative
  | .represent modelFamily model =>
    some { s with modelFamilyToModelName := s.modelFamilyToModelName.set modelFamily model }
  | .clearUnused unusedForSeconds now inFlightFamilies =>
    some (s.evict (s.expiredFamilies unusedForSeconds now inFlightFamilies))

/-! ## What the tables agree on -/

/-- All aliases of the family are counted behind one signature. -/
def CountedAs (s : FamilyRegistry) (modelFamily : ModelFamily) (signature : ConfigSignature) :
    Prop :=
  ∃ n, 0 < n ∧ s.modelFamilySignatureCounts.get modelFamily = some (.single signature n) ∧
    s.modelFamilyAliasCounts.get modelFamily = some n

/-- The counts of a family: nothing while it is unknown, and all its aliases behind
    the registered signature once it is known. -/
def Counted (s : FamilyRegistry) (modelFamily : ModelFamily) : Prop :=
  match s.modelFamilyToValidatedSignature.get modelFamily with
  | none => s.modelFamilySignatureCounts.get modelFamily = none ∧
      s.modelFamilyAliasCounts.get modelFamily = none
  | some signature => s.CountedAs modelFamily signature

/-- The invariant of the tables, a model keeping its family. -/
structure Agrees (familyOf : ModelName → ModelFamily) (s : FamilyRegistry) : Prop where
  family_of : ∀ model, s.modelNameToModelFamily.get model =
    (s.modelNameToValidatedSignature.get model).map fun _ => familyOf model
  known : ∀ model, (s.modelNameToModelFamily.get model).isSome →
    (s.modelFamilyToValidatedSignature.get (familyOf model)).isSome
  counted : ∀ modelFamily, s.Counted modelFamily

theorem agrees_init (familyOf : ModelName → ModelFamily) : init.Agrees familyOf where
  family_of _ := rfl
  known _ h_some := by cases h_some
  counted _ := ⟨rfl, rfl⟩

/-! ## One validating call -/

section Counts

variable {signature previous current : ConfigSignature} {n : ℕ}

theorem withoutPrevious_last (h_le : n ≤ 1) :
    withoutPrevious (.single signature n) (some signature) = .empty := by
  show (if _ then _ else _) = _
  rw [Dict.get_single_self, Option.getD_some, if_pos h_le]
  exact Dict.single_pop_self signature n

theorem withoutPrevious_one (h_lt : 1 < n) :
    withoutPrevious (.single signature n) (some signature) = .single signature (n - 1) := by
  show (if _ then _ else _) = _
  rw [Dict.get_single_self, Option.getD_some, if_neg (not_le.mpr h_lt)]
  exact Dict.single_set signature n (n - 1)

theorem withoutPrevious_of_ne (h_ne : previous ≠ signature) :
    withoutPrevious (.single signature n) (some previous) = .single signature n := by
  have h_get : (Dict.single signature n).get previous = none := by
    rw [Dict.get_single, if_neg h_ne]
  show (if _ then _ else _) = _
  rw [h_get, if_pos (by decide)]
  exact Dict.single_pop_of_ne n h_ne

theorem conflicts_single (h_pos : 0 < n) :
    conflicts (.single signature n) current = decide (signature ≠ current) := by
  unfold conflicts
  simp [h_pos]

end Counts

variable {caps : Caps} {familyOf : ModelName → ModelFamily} {s s' : FamilyRegistry}
  {call : Validation}

/-- Counts that conflict are only gone on with after a reset, others as they are. -/
theorem settledCounts_ok {configGetter : ConfigGetter} {model : ModelName}
    {modelFamily : ModelFamily} {current : ConfigSignature} {nextCounts : SignatureCounts}
    {settled : SignatureCounts × Bool}
    (h_ok : s.settledCounts caps configGetter model modelFamily current nextCounts =
      .ok settled) :
    if conflicts nextCounts current then
      settled = (.single current ((s.modelFamilyAliasCounts.get modelFamily).getD 0), true)
    else settled = (nextCounts, false) := by
  unfold settledCounts at h_ok
  by_cases h_conflict : conflicts nextCounts current = true
  · rw [if_pos h_conflict] at h_ok ⊢
    obtain ⟨moved, _, h_moved⟩ := bind_eq_ok h_ok
    cases moved with
    | true => exact (Except.ok.inj h_moved).symm
    | false => cases h_moved
  · rw [if_neg h_conflict] at h_ok ⊢
    exact (Except.ok.inj h_ok).symm

section Register

variable {model : ModelName} {modelFamily : ModelFamily} {current : ConfigSignature}
  {currentCounts nextCounts : SignatureCounts} {reset : Bool} {now : ℚ} {n : ℕ}

/-- A new alias is counted on top of what is left of the family's counts. -/
theorem register_new (h_new : s.modelNameToModelFamily.get model = none)
    (h_next : (nextCounts = .empty ∧ n = 0) ∨ nextCounts = .single current n)
    (h_aliases : (s.modelFamilyAliasCounts.get modelFamily).getD 0 = n) :
    (s.register model modelFamily current none currentCounts nextCounts reset now).CountedAs
      modelFamily current := by
  have h_set : nextCounts.set current ((nextCounts.get current).getD 0 + 1) =
      .single current (n + 1) := by
    rcases h_next with ⟨rfl, rfl⟩ | rfl
    · rfl
    · rw [Dict.get_single_self]
      exact Dict.single_set current n (n + 1)
  refine ⟨n + 1, n.succ_pos, ?_, ?_⟩
  · simp [register, h_new, h_set]
  · simp [register, h_new, h_aliases]

/-- An alias that is already counted leaves the counts as they were settled. -/
theorem register_counted {previous : ConfigSignature}
    (h_known : s.modelNameToModelFamily.get model = some modelFamily)
    (h_counted : reset = true ∨ currentCounts.get previous = none)
    (h_next : nextCounts = .single current n) (h_pos : 0 < n)
    (h_aliases : s.modelFamilyAliasCounts.get modelFamily = some n) :
    (s.register model modelFamily current (some previous) currentCounts nextCounts reset
      now).CountedAs modelFamily current := by
  have h_already : (reset || (currentCounts.get previous).isNone) = true := by
    rcases h_counted with h_reset | h_none
    · rw [h_reset]
      rfl
    · rw [h_none]
      exact Bool.or_true reset
  refine ⟨n, h_pos, ?_, ?_⟩
  · simp [register, h_known, h_already, h_next]
  · simp [register, h_known, h_aliases]

/-- The last alias behind the previous signature is counted behind the current one. -/
theorem register_last {previous : ConfigSignature}
    (h_known : s.modelNameToModelFamily.get model = some modelFamily)
    (h_counts : currentCounts = .single previous 1)
    (h_aliases : s.modelFamilyAliasCounts.get modelFamily = some 1) :
    (s.register model modelFamily current (some previous) currentCounts .empty false
      now).CountedAs modelFamily current := by
  refine ⟨1, one_pos, ?_, ?_⟩
  · simp [register, h_known, h_counts, Dict.single]
  · simp [register, h_known, h_aliases]

end Register

/-- Whatever the counts were, a registering call leaves all aliases of the family
    behind the signature of the call. -/
theorem register_countedAs {settled : SignatureCounts × Bool} (h_agrees : s.Agrees familyOf)
    (h_family : call.cfg.modelFamily = familyOf call.model)
    (h_changed : s.modelNameToValidatedSignature.get call.model ≠
      some (configSignature call.cfg))
    (h_settled : s.settledCounts caps call.configGetter call.model call.cfg.modelFamily
      (configSignature call.cfg)
      (withoutPrevious ((s.modelFamilySignatureCounts.get call.cfg.modelFamily).getD .empty)
        (s.modelNameToValidatedSignature.get call.model)) = .ok settled) :
    (s.register call.model call.cfg.modelFamily (configSignature call.cfg)
      (s.modelNameToValidatedSignature.get call.model)
      ((s.modelFamilySignatureCounts.get call.cfg.modelFamily).getD .empty)
      settled.1 settled.2 call.now).CountedAs call.cfg.modelFamily (configSignature call.cfg) := by
  have h_settled := settledCounts_ok h_settled
  have h_name := h_agrees.family_of call.model
  have h_known := h_agrees.known call.model
  rw [← h_family] at h_name h_known
  have h_counted := h_agrees.counted call.cfg.modelFamily
  generalize configSignature call.cfg = current at *
  generalize call.cfg.modelFamily = modelFamily at *
  unfold Counted at h_counted
  cases h_signature : s.modelFamilyToValidatedSignature.get modelFamily with
  | none =>
    -- an unknown family has no alias yet, so this one starts its counts
    rw [h_signature] at h_counted h_known
    have h_new : s.modelNameToModelFamily.get call.model = none :=
      Option.not_isSome_iff_eq_none.mp fun h_some => Bool.false_ne_true (h_known h_some)
    have h_previous : s.modelNameToValidatedSignature.get call.model = none := by
      rw [h_new] at h_name
      exact Option.map_eq_none_iff.mp h_name.symm
    rw [h_previous, h_counted.1] at h_settled
    rw [h_previous, h_counted.1]
    obtain rfl : settled = (.empty, false) := h_settled
    exact register_new h_new (.inl ⟨rfl, rfl⟩) (by rw [h_counted.2]; rfl)
  | some signature =>
    rw [h_signature] at h_counted
    obtain ⟨n, h_pos, h_counts, h_aliases⟩ := h_counted
    rw [h_counts, Option.getD_some] at h_settled ⊢
    rw [h_aliases, Option.getD_some] at h_settled
    cases h_previous : s.modelNameToValidatedSignature.get call.model with
    | none =>
      rw [h_previous] at h_settled h_name
      have h_next : settled.1 = .single current n := by
        rw [show withoutPrevious (.single signature n) none = .single signature n from rfl,
          conflicts_single h_pos] at h_settled
        by_cases h_eq : signature = current
        · subst h_eq
          rw [if_neg (by simp)] at h_settled
          rw [h_settled]
        · rw [if_pos (by simpa using h_eq)] at h_settled
          rw [h_settled]
      exact register_new h_name (.inr h_next) (by rw [h_aliases]; rfl)
    | some previous =>
      rw [h_previous] at h_settled h_name h_changed
      have h_ne : previous ≠ current := fun h_eq => h_changed (by rw [h_eq])
      by_cases h_previous_eq : previous = signature
      · subst h_previous_eq
        by_cases h_one : n ≤ 1
        · -- the last alias moves on alone
          obtain rfl : n = 1 := by omega
          rw [withoutPrevious_last le_rfl] at h_settled
          obtain rfl : settled = (.empty, false) := h_settled
          exact register_last h_name rfl h_aliases
        · -- the aliases left behind conflict, so the counts were reset
          rw [withoutPrevious_one (by omega), conflicts_single (by omega),
            if_pos (by simpa using h_ne)] at h_settled
          rw [h_settled]
          exact register_counted h_name (.inl rfl) rfl h_pos h_aliases
      · -- a signature an earlier reset left behind is counted nowhere
        have h_none : (Dict.single signature n).get previous = none := by
          rw [Dict.get_single, if_neg h_previous_eq]
        rw [withoutPrevious_of_ne h_previous_eq, conflicts_single h_pos] at h_settled
        have h_next : settled.1 = .single current n := by
          by_cases h_eq : signature = current
          · subst h_eq
            rw [if_neg (by simp)] at h_settled
            rw [h_settled]
          · rw [if_pos (by simpa using h_eq)] at h_settled
            rw [h_settled]
        exact register_counted h_name (.inr h_none) h_next h_pos h_aliases

/-- How a registering call ends: on the fast path, or with its model and signature
    registered. -/
theorem validate_cases
    (h_ok : s.validateSharedModelFamilyConfig caps call true = .ok s') :
    (s.modelNameToValidatedSignature.get call.model = some (configSignature call.cfg) ∧
      s' = s.touchModelFamily call.cfg.modelFamily call.now) ∨
    (s.modelNameToValidatedSignature.get call.model ≠ some (configSignature call.cfg) ∧
      ∃ settled, s.settledCounts caps call.configGetter call.model call.cfg.modelFamily
        (configSignature call.cfg)
        (withoutPrevious ((s.modelFamilySignatureCounts.get call.cfg.modelFamily).getD .empty)
          (s.modelNameToValidatedSignature.get call.model)) = .ok settled ∧
      s' = s.register call.model call.cfg.modelFamily (configSignature call.cfg)
        (s.modelNameToValidatedSignature.get call.model)
        ((s.modelFamilySignatureCounts.get call.cfg.modelFamily).getD .empty)
        settled.1 settled.2 call.now) := by
  unfold validateSharedModelFamilyConfig at h_ok
  by_cases h_same : s.modelNameToValidatedSignature.get call.model =
      some (configSignature call.cfg)
  · rw [if_pos h_same] at h_ok
    exact .inl ⟨h_same, (Except.ok.inj h_ok).symm⟩
  · rw [if_neg h_same] at h_ok
    obtain ⟨settled, h_settled, h_rest⟩ := bind_eq_ok h_ok
    obtain ⟨_, _, h_rest⟩ := bind_eq_ok h_rest
    obtain ⟨_, _, h_rest⟩ := bind_eq_ok h_rest
    exact .inr ⟨h_same, settled, h_settled, (Except.ok.inj h_rest).symm⟩

theorem Counted.congr {modelFamily : ModelFamily}
    (h_counts : s'.modelFamilySignatureCounts.get modelFamily =
      s.modelFamilySignatureCounts.get modelFamily)
    (h_aliases : s'.modelFamilyAliasCounts.get modelFamily =
      s.modelFamilyAliasCounts.get modelFamily)
    (h_signature : s'.modelFamilyToValidatedSignature.get modelFamily =
      s.modelFamilyToValidatedSignature.get modelFamily)
    (h_counted : s.Counted modelFamily) : s'.Counted modelFamily := by
  unfold Counted CountedAs at *
  rw [h_counts, h_aliases, h_signature]
  exact h_counted

/-- A registering call keeps the tables in agreement. -/
theorem validate_agrees (h_agrees : s.Agrees familyOf)
    (h_family : call.cfg.modelFamily = familyOf call.model)
    (h_ok : s.validateSharedModelFamilyConfig caps call true = .ok s') : s'.Agrees familyOf := by
  rcases validate_cases h_ok with ⟨_, rfl⟩ | ⟨h_changed, settled, h_settled, rfl⟩
  · exact ⟨h_agrees.family_of, h_agrees.known, h_agrees.counted⟩
  · have h_counted := register_countedAs h_agrees h_family h_changed h_settled
    refine ⟨fun model => ?_, fun model h_some => ?_, fun modelFamily => ?_⟩
    · show (s.modelNameToModelFamily.set _ _).get model =
        ((s.modelNameToValidatedSignature.set _ _).get model).map _
      rw [Dict.get_set, Dict.get_set]
      by_cases h_eq : model = call.model
      · rw [if_pos h_eq, if_pos h_eq, h_eq, h_family]
        rfl
      · rw [if_neg h_eq, if_neg h_eq]
        exact h_agrees.family_of model
    · show ((s.modelFamilyToValidatedSignature.set _ _).get (familyOf model)).isSome
      rw [Dict.get_set]
      by_cases h_same : familyOf model = call.cfg.modelFamily
      · rw [if_pos h_same]
        rfl
      · have h_ne : model ≠ call.model := fun h_eq => h_same (by rw [h_eq, h_family])
        rw [if_neg h_same]
        refine h_agrees.known model ?_
        rwa [show (s.register _ _ _ _ _ _ _ _).modelNameToModelFamily.get model =
          s.modelNameToModelFamily.get model from Dict.get_set_of_ne h_ne] at h_some
    · by_cases h_same : modelFamily = call.cfg.modelFamily
      · subst h_same
        unfold Counted
        rw [show (s.register _ _ _ _ _ _ _ _).modelFamilyToValidatedSignature.get _ =
          some (configSignature call.cfg) from Dict.get_set_self _ _ _]
        exact h_counted
      · refine Counted.congr ?_ ?_ ?_ (h_agrees.counted modelFamily)
        · exact Dict.get_set_of_ne h_same
        · unfold register
          by_cases h_new : s.modelNameToModelFamily.get call.model = none
          · simp [h_new, Dict.get_set_of_ne h_same]
          · simp [h_new]
        · exact Dict.get_set_of_ne h_same

/-- Eviction takes a family and all its models out of every table. -/
theorem evict_agrees (h_agrees : s.Agrees familyOf) (expired : Finset ModelFamily) :
    (s.evict expired).Agrees familyOf := by
  refine ⟨fun model => ?_, fun model h_some => ?_, fun modelFamily => ?_⟩
  · have h_name := h_agrees.family_of model
    show (s.modelNameToModelFamily.get model).filter _ =
      ((s.modelNameToValidatedSignature.get model).filter _).map _
    cases h_signature : s.modelNameToValidatedSignature.get model with
    | none =>
      rw [h_signature] at h_name
      rw [h_name]
      rfl
    | some signature =>
      rw [h_signature] at h_name
      by_cases h_mem : familyOf model ∈ expired
      · simp [h_name, h_mem, Option.filter]
      · simp [h_name, h_mem, Option.filter]
  · have h_some : ((s.modelNameToModelFamily.get model).filter
        fun modelFamily => decide (modelFamily ∉ expired)).isSome := h_some
    show ((s.modelFamilyToValidatedSignature.get (familyOf model)).filter _).isSome
    cases h_name : s.modelNameToModelFamily.get model with
    | none =>
      rw [h_name] at h_some
      cases h_some
    | some modelFamily =>
      have h_known := h_agrees.known model (by rw [h_name]; rfl)
      have h_eq : modelFamily = familyOf model := by
        have h_map := (h_agrees.family_of model).symm.trans h_name
        obtain ⟨_, _, h_eq⟩ := Option.map_eq_some_iff.mp h_map
        exact h_eq.symm
      rw [h_name, h_eq] at h_some
      obtain ⟨signature, h_signature⟩ := Option.isSome_iff_exists.mp h_known
      rw [h_signature]
      by_cases h_mem : familyOf model ∈ expired
      · simp [h_mem] at h_some
      · simp [h_mem]
  · have h_counted := h_agrees.counted modelFamily
    by_cases h_mem : modelFamily ∈ expired
    · have h_none {β : Type} (d : Dict ModelFamily β) :
          (d.keep fun modelFamily _ => modelFamily ∉ expired).get modelFamily = none := by
        rw [Dict.get_keep]
        cases d.get modelFamily <;> simp [h_mem]
      unfold Counted
      rw [show (s.evict expired).modelFamilyToValidatedSignature.get modelFamily = none from
        h_none _]
      exact ⟨h_none _, h_none _⟩
    · have h_kept {β : Type} (d : Dict ModelFamily β) :
          (d.keep fun modelFamily _ => modelFamily ∉ expired).get modelFamily =
            d.get modelFamily := by
        rw [Dict.get_keep]
        cases d.get modelFamily <;> simp [h_mem]
      exact Counted.congr (h_kept _) (h_kept _) (h_kept _) h_counted

theorem step_agrees {label : Label} (h_agrees : s.Agrees familyOf)
    (h_step : Steps (step caps familyOf) s label s') : s'.Agrees familyOf := by
  unfold Steps at h_step
  cases label with
  | validate call =>
    simp only [step] at h_step
    by_cases h_family : call.cfg.modelFamily = familyOf call.model
    · rw [if_pos h_family] at h_step
      cases h_result : s.validateSharedModelFamilyConfig caps call true with
      | error e =>
        rw [h_result] at h_step
        cases h_step
        exact h_agrees
      | ok registered =>
        rw [h_result] at h_step
        cases h_step
        exact validate_agrees h_agrees h_family h_result
    · rw [if_neg h_family] at h_step
      cases h_step
  | represent modelFamily model =>
    cases h_step
    exact ⟨h_agrees.family_of, h_agrees.known, h_agrees.counted⟩
  | clearUnused unusedForSeconds now inFlightFamilies =>
    cases h_step
    exact evict_agrees h_agrees _

/-! ## Agreement of a family's aliases -/

/-- The counts of a family are positive only for its registered signature, and sum to
    its alias count. -/
def CountsRegistered (s : FamilyRegistry) : Prop :=
  ∀ modelFamily counts, s.modelFamilySignatureCounts.get modelFamily = some counts →
    (∀ signature, 0 < (counts.get signature).getD 0 →
      s.modelFamilyToValidatedSignature.get modelFamily = some signature) ∧
    s.modelFamilyAliasCounts.get modelFamily = some counts.total

theorem Agrees.countsRegistered (h_agrees : s.Agrees familyOf) : s.CountsRegistered := by
  intro modelFamily counts h_counts
  have h_counted := h_agrees.counted modelFamily
  unfold Counted at h_counted
  cases h_signature : s.modelFamilyToValidatedSignature.get modelFamily with
  | none =>
    rw [h_signature, h_counts] at h_counted
    cases h_counted.1
  | some registered =>
    rw [h_signature] at h_counted
    obtain ⟨n, _, h_single, h_aliases⟩ := h_counted
    rw [h_counts] at h_single
    cases h_single
    refine ⟨fun signature h_pos => ?_, by rw [h_aliases, Dict.total_single]⟩
    by_cases h_eq : signature = registered
    · rw [h_eq]
    · rw [Dict.get_single, if_neg h_eq] at h_pos
      exact absurd h_pos (lt_irrefl 0)

/-- A call that returns leaves its signature as the registered one of its family. -/
def Registers (s : FamilyRegistry) (caps : Caps) (call : Validation) : Prop :=
  ∀ s', s.validateSharedModelFamilyConfig caps call true = .ok s' →
    s'.modelFamilyToValidatedSignature.get call.cfg.modelFamily =
      some (configSignature call.cfg)

/-- The model was last validated with the signature of the call, and its family has
    been registered with another one since. -/
def leftBehind (s : FamilyRegistry) (call : Validation) : Bool :=
  s.modelNameToValidatedSignature.get call.model = some (configSignature call.cfg) ∧
    s.modelFamilyToValidatedSignature.get call.cfg.modelFamily ≠
      some (configSignature call.cfg)

theorem registers_iff : s.Registers caps call ↔ s.leftBehind call = false := by
  unfold leftBehind
  rw [decide_eq_false_iff_not, not_and_not_right]
  constructor
  · intro h_registers h_same
    refine h_registers (s.touchModelFamily call.cfg.modelFamily call.now) ?_
    unfold validateSharedModelFamilyConfig
    rw [if_pos h_same]
  · intro h_current s' h_ok
    rcases validate_cases h_ok with ⟨h_same, rfl⟩ | ⟨_, settled, _, rfl⟩
    · exact h_current h_same
    · exact Dict.get_set_self _ _ _

/-! ### A family whose configuration moves and moves back -/

/-- Tokens per minute with one limit. -/
def tokensConfig (modelFamily : ModelFamily) (limit : MaxCapacity) : PerModelConfig :=
  ⟨modelFamily, .single tokensPerMinute limit⟩

def twoHundred : MaxCapacity := ⟨200, by norm_num [minMaxCapacity]⟩

def wideCaps : Caps := ⟨256, 256, 64, 64, 1000, 1000⟩

/-- Two aliases register one configuration, the first becomes the representative, and
    the second comes with the configuration the first has moved to. -/
def movedLabels : List Label :=
  [.validate ⟨"a", tokensConfig "f" oneHundred, fun _ => .error .configGetter, 0⟩,
    .validate ⟨"b", tokensConfig "f" oneHundred, fun _ => .error .configGetter, 0⟩,
    .represent "f" "a",
    .validate ⟨"b", tokensConfig "f" twoHundred,
      fun _ => .ok (tokensConfig "f" twoHundred), 1⟩]

/-- The first alias has moved back. -/
def movedBack : Validation :=
  ⟨"a", tokensConfig "f" oneHundred, fun _ => .ok (tokensConfig "f" oneHundred), 2⟩

/-- In every run the counts agree with the registered signatures, and the calls that
    leave their signature registered are exactly those whose model was not left
    behind by a reset of its family. -/
theorem run_registered {labels : List Label}
    (h_run : Run (Steps (step caps familyOf)) init labels s) :
    s.CountsRegistered ∧
      ∀ call : Validation, call.cfg.modelFamily = familyOf call.model →
        (s.Registers caps call ↔ s.leftBehind call = false) :=
  have h_agrees : s.Agrees familyOf :=
    h_run.invariant (fun _ _ _ h_agrees h_step => step_agrees h_agrees h_step)
      (agrees_init familyOf)
  ⟨h_agrees.countsRegistered, fun _ _ => registers_iff⟩

/-- The two aliases before the configuration moves. -/
theorem run_registered_twoAliases :
    ∃ s : FamilyRegistry, s.CountsRegistered ∧
      (s.Registers wideCaps movedBack ↔ s.leftBehind movedBack = false) ∧
      s.leftBehind movedBack = false := by
  obtain ⟨s, h_run, h_left⟩ :
      ∃ s, Run (Steps (step wideCaps fun _ => "f")) init (movedLabels.take 3) s ∧
        s.leftBehind movedBack = false := exists_run_of_exec (by decide +kernel)
  obtain ⟨h_counts, h_calls⟩ := run_registered h_run
  exact ⟨s, h_counts, h_calls movedBack rfl, h_left⟩

/-- After the reset the first alias passes with the configuration that its family is no
    longer registered with. -/
theorem movedBack_not_registered :
    ∃ s, Run (Steps (step wideCaps fun _ => "f")) init movedLabels s ∧
      movedBack.cfg.modelFamily = "f" ∧ ¬ s.Registers wideCaps movedBack := by
  obtain ⟨s, h_run, h_left⟩ : ∃ s, Run (Steps (step wideCaps fun _ => "f")) init movedLabels s ∧
      s.leftBehind movedBack = true := exists_run_of_exec (by decide +kernel)
  refine ⟨s, h_run, rfl, fun h_registers => ?_⟩
  rw [registers_iff, h_left] at h_registers
  cases h_registers

end FamilyRegistry

end TokenThrottle
