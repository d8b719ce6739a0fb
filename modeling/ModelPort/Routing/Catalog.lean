import ModelPort.Routing.Resolver

/-!
# The effective configuration

The organization's catalog is the checked-in configuration. The control plane edits it: providers
are deleted and disabled, overridden, given discovered models, credentials and model overrides;
aliases, the default provider and the order are replaced. `mergedConfig` makes the effective
configuration from both, and what it may take over from the control plane is bounded by the
catalog.

The maps of the control plane are visited by key (`byKey`). Display names, profiles and other
fields of a provider that routing does not read are left out.
-/

namespace ModelPort

open List

namespace StringMap

variable {V W : Type}

/-- Every value is changed by its key. -/
def mapValues (f : String → V → W) (m : StringMap V) : StringMap W :=
  ⟨m.entries.map fun e => ⟨e.1, f e.1 e.2⟩, by
    have hkeys : (m.entries.map fun e => (⟨e.1, f e.1 e.2⟩ : Sigma fun _ : String => W)).keys =
        m.entries.keys := by
      simp [List.keys, Function.comp_def]
    unfold List.NodupKeys
    rw [hkeys]
    exact m.nodupKeys⟩

/-- Some keys are removed. -/
def eraseAll (ids : List String) (m : StringMap V) : StringMap V :=
  ids.foldl (fun m id => m.erase id) m

lemma lookup_eraseAll (ids : List String) (m : StringMap V) (id : String) :
    (m.eraseAll ids).lookup id = if id ∈ ids then none else m.lookup id := by
  induction ids generalizing m with
  | nil => rfl
  | cons head rest ih =>
    have hstep : eraseAll (head :: rest) m = eraseAll rest (m.erase head) := rfl
    rw [hstep, ih]
    by_cases hrest : id ∈ rest
    · rw [if_pos hrest, if_pos (mem_cons_of_mem _ hrest)]
    · rw [if_neg hrest]
      by_cases hhead : id = head
      · subst hhead
        rw [AList.lookup_erase, if_pos mem_cons_self]
      · rw [AList.lookup_erase_ne hhead, if_neg (by simp [hhead, hrest])]

/-- The entries in the order of their keys. -/
def byKey (m : StringMap V) : List (String × V) :=
  (m.entries.map fun e => (e.1, e.2)).insertionSort fun a b => a.1 ≤ b.1

lemma mem_byKey {m : StringMap V} {id : String} {v : V} :
    (id, v) ∈ m.byKey ↔ m.lookup id = some v := by
  unfold byKey
  rw [(perm_insertionSort _ _).mem_iff, mem_map]
  constructor
  · rintro ⟨e, he, heq⟩
    cases heq
    exact AList.mem_lookup_iff.2 he
  · intro hlook
    exact ⟨⟨id, v⟩, AList.mem_lookup_iff.1 hlook, rfl⟩

lemma nodup_byKey (m : StringMap V) : (m.byKey.map Prod.fst).Nodup := by
  have hperm : (m.byKey.map Prod.fst).Perm (m.entries.map Sigma.fst) := by
    refine ((perm_insertionSort _ _).map Prod.fst).trans (List.Perm.of_eq ?_)
    simp
  exact hperm.nodup_iff.2 m.keys_nodup

end StringMap

namespace Routing

/-! ### What the control plane holds -/

/-- A provider as an operator has overridden it. -/
structure ProviderOverrideRecord where
  protocol : String
  baseUrl : String
  apiKeyEnv : Option String
  apiKeyRequired : Bool
  defaultKeyName : String
  defaultModel : String
  models : List String
  modelPrefixes : List String
  passthroughUnknownModels : Bool
  maxTokensField : String
  fidelityMode : String
  repairInvalidArguments : Bool
  tokenCounting : TokenCountingConfig
  maxAttempts : ℕ
  pricing : Option ModelPricing
  modelPricing : StringMap ModelPricingCard
  trustUpstreamCost : Bool

/-- The provider and routing sections of the control plane. -/
structure ProviderControls where
  providerOverrides : StringMap ProviderOverrideRecord := ∅
  disabledProviders : List String := []
  deletedProviders : List String := []
  /-- by provider and model, the status of the model -/
  providerModelOverrides : StringMap (StringMap String) := ∅
  /-- by provider and id -/
  providerCredentials : StringMap (StringMap ProviderCredentialRecord) := ∅
  activeProviderCredentials : StringMap String := ∅
  /-- the models that successful tests of providers have found -/
  discoveredModels : StringMap (List String) := ∅
  aliases : StringMap String := ∅
  deletedAliases : List String := []
  defaultProvider : Option String := none
  providerOrder : Option (List String) := none

def parseProviderProtocol (value : String) : Except AppError ProviderProtocol :=
  match trim value with
  | "anthropic" => .ok .anthropic
  | "openai-compat" | "openai_compat" | "openaiCompatible" => .ok .openaiCompat
  | _ => .error (.invalidRequest "protocol must be anthropic or openai-compat")

/-- `parse_max_tokens_field`, of which routing only sees whether it succeeds. -/
def parseMaxTokensField (value : String) : Except AppError Unit :=
  match trim value with
  | "max_completion_tokens" | "max-completion-tokens" | "max_tokens" | "max-tokens" | "both" =>
    .ok ()
  | _ => .error (.invalidRequest
      "maxTokensField must be max_completion_tokens, max_tokens, or both")

/-- `parse_fidelity_mode`, of which routing only sees whether it succeeds. -/
def parseFidelityMode (value : String) : Except AppError Unit :=
  match trim value with
  | "strict" | "best_effort" | "best-effort" | "stability" => .ok ()
  | _ => .error (.invalidRequest "fidelityMode must be strict, best_effort, or stability")

section

-- `env::var`
variable (readEnv : String → Option String)

/-- `provider_record_to_config`. -/
def ProviderOverrideRecord.toConfig (record : ProviderOverrideRecord) :
    Except AppError ProviderConfig := do
  let protocol ← parseProviderProtocol record.protocol
  parseMaxTokensField record.maxTokensField
  parseFidelityMode record.fidelityMode
  return {
    protocol := protocol
    baseUrl := record.baseUrl
    apiKeyEnv := record.apiKeyEnv
    apiKey := record.apiKeyEnv.bind readEnv
    apiKeyRequired := record.apiKeyRequired
    defaultKeyName := record.defaultKeyName
    defaultModel := record.defaultModel
    models := record.models
    modelPrefixes := record.modelPrefixes
    passthroughUnknownModels := record.passthroughUnknownModels
    repairInvalidArguments := record.repairInvalidArguments
    tokenCounting := record.tokenCounting
    maxAttempts := record.maxAttempts
    pricing := record.pricing
    modelPricing := record.modelPricing
    trustUpstreamCost := record.trustUpstreamCost }

/-! ### The steps of the merge -/

/-- An override stays within what the catalog has approved. -/
def withinCatalog (provider approved : ProviderConfig) : Bool :=
  provider.protocol = approved.protocol && provider.baseUrl = approved.baseUrl
    && provider.models.all approved.models.contains
    && provider.passthroughUnknownModels = approved.passthroughUnknownModels

/-- The provider an override puts in place, if it may. -/
def approvedOverride (catalog : StringMap ProviderConfig) (deleted : List String)
    (providerId : String) (record : ProviderOverrideRecord) : Option ProviderConfig :=
  if providerId ∈ deleted then none
  else
    match catalog.lookup providerId, record.toConfig readEnv with
    | some approved, .ok provider =>
      if withinCatalog provider approved then some provider else none
    | _, _ => none

/-- Providers and their order. -/
structure ProviderTable where
  providers : StringMap ProviderConfig
  providerOrder : List String

/-- Some providers are removed. -/
def ProviderTable.remove (ids : List String) (table : ProviderTable) : ProviderTable where
  providers := table.providers.eraseAll ids
  providerOrder := table.providerOrder.filter fun id => !ids.contains id

/-- One override is applied. -/
def ProviderTable.override (catalog : StringMap ProviderConfig) (deleted : List String)
    (table : ProviderTable) (entry : String × ProviderOverrideRecord) : ProviderTable :=
  match approvedOverride readEnv catalog deleted entry.1 entry.2 with
  | none => table
  | some provider =>
    { providers := table.providers.insert entry.1 provider
      providerOrder :=
        if table.providerOrder.contains entry.1 then table.providerOrder
        else table.providerOrder ++ [entry.1] }

open ProviderTable

/-- Discovered models that the catalog approves are added. -/
def addDiscovered (approved : ProviderConfig) (provider : ProviderConfig)
    (discovered : List String) : ProviderConfig :=
  { provider with
    models := discovered.foldl
      (fun models model =>
        if approved.models.contains model && !models.contains model then models ++ [model]
        else models)
      provider.models }

/-- The active credential of a provider, unless it is disabled. -/
def activeCredential (controls : ProviderControls) (providerId : String) :
    Option ProviderCredentialRecord :=
  ((controls.activeProviderCredentials.lookup providerId).bind fun credentialId =>
    (controls.providerCredentials.lookup providerId).bind (·.lookup credentialId)).filter
      fun record => record.status ≠ "disabled"

/-- `apply_provider_credentials`, for one provider. -/
def applyActiveCredential (controls : ProviderControls) (providerId : String)
    (provider : ProviderConfig) : ProviderConfig :=
  match activeCredential controls providerId with
  | none => provider
  | some record => provider.withCredential record (readEnv record.apiKeyEnv)

/-- A model is removed; if it was the default, the first of the others takes its place. -/
def ProviderConfig.withoutModel (provider : ProviderConfig) (model : String) : ProviderConfig :=
  let models := provider.models.filter (· ≠ model)
  { provider with
    models := models
    defaultModel :=
      if provider.defaultModel = model then models.headD provider.defaultModel
      else provider.defaultModel }

/-- One model override: a disabled model is removed, any other is added. -/
def applyModelOverride (provider : ProviderConfig) (entry : String × String) : ProviderConfig :=
  if entry.2 = "disabled" then provider.withoutModel entry.1
  else if provider.models.contains entry.1 then provider
  else { provider with models := provider.models ++ [entry.1] }

/-- `apply_provider_model_overrides`, for one provider. -/
def applyModelOverrides (controls : ProviderControls) (providerId : String)
    (provider : ProviderConfig) : ProviderConfig :=
  match controls.providerModelOverrides.lookup providerId with
  | none => provider
  | some overrides => overrides.byKey.foldl applyModelOverride provider

/-- A provider is held against the catalog: its models are approved ones, its default model too
unless the catalog's own is not, and nothing passes by a prefix or unknown. -/
def confineToCatalog (approved provider : ProviderConfig) : ProviderConfig :=
  let models := provider.models.filter approved.models.contains
  { provider with
    models := models
    defaultModel :=
      if models.contains provider.defaultModel then provider.defaultModel
      else approved.defaultModel
    modelPrefixes := []
    passthroughUnknownModels := false }

/-- All that happens to a provider after overriding. -/
def mergeProvider (catalog : StringMap ProviderConfig) (controls : ProviderControls)
    (providerId : String) (provider : ProviderConfig) : ProviderConfig :=
  let approved := catalog.lookup providerId
  let provider :=
    match approved, controls.discoveredModels.lookup providerId with
    | some approved, some discovered => addDiscovered approved provider discovered
    | _, _ => provider
  let provider := applyActiveCredential readEnv controls providerId provider
  let provider := applyModelOverrides controls providerId provider
  match approved with
  | some approved => confineToCatalog approved provider
  | none => provider

def effectiveAliases (base : StringMap String) (controls : ProviderControls) : StringMap String :=
  controls.aliases.byKey.foldl (fun aliases entry => aliases.insert entry.1 entry.2)
    (base.eraseAll controls.deletedAliases)

/-- The first occurrences of a list's members. -/
def firstOccurrences : List String → List String
  | [] => []
  | id :: rest => id :: (firstOccurrences rest).filter (· ≠ id)

/-- `normalize_provider_order`: the configured providers of the order, once each, then the
others by name. -/
def normalizeProviderOrder (providers : StringMap ProviderConfig) (order : List String) :
    List String :=
  let kept := firstOccurrences (order.filter fun id => (providers.lookup id).isSome)
  kept ++ (providers.keys.insertionSort (· ≤ ·)).filter fun id => !kept.contains id

/-- The providers and their order before normalisation. -/
def mergedTable (base : AppConfig) (controls : ProviderControls) (includeDisabled : Bool) :
    ProviderTable :=
  let table : ProviderTable := ⟨base.providers, base.providerOrder⟩
  let table := table.remove controls.deletedProviders
  let table := controls.providerOverrides.byKey.foldl
    (ProviderTable.override readEnv base.providers controls.deletedProviders) table
  if includeDisabled then table else table.remove controls.disabledProviders

/-- **The effective configuration.** -/
def mergedConfig (base : AppConfig) (controls : ProviderControls) (includeDisabled : Bool) :
    AppConfig :=
  let table := mergedTable readEnv base controls includeDisabled
  let providers := table.providers.mapValues (mergeProvider readEnv base.providers controls)
  let defaultProvider :=
    (controls.defaultProvider.filter fun id => (providers.lookup id).isSome).getD
      base.defaultProvider
  let order :=
    match controls.providerOrder.map (·.filter fun id => (providers.lookup id).isSome) with
    | some (id :: rest) => id :: rest
    | _ => table.providerOrder
  let order := normalizeProviderOrder providers order
  { base with
    providers := providers
    aliases := effectiveAliases base.aliases controls
    defaultProvider :=
      if (providers.lookup defaultProvider).isSome then defaultProvider
      else order.headD defaultProvider
    providerOrder := order }

def effectiveConfig (base : AppConfig) (controls : ProviderControls) : AppConfig :=
  mergedConfig readEnv base controls false

/-! ### What the merge can do -/

variable {readEnv} {catalog : StringMap ProviderConfig} {controls : ProviderControls}
  {deleted : List String} {id model : String} {provider : ProviderConfig} {base : AppConfig}

/-- A provider with the protocol and the address the catalog has for it. -/
structure Catalogued (catalog : StringMap ProviderConfig) (deleted : List String) (id : String)
    (provider : ProviderConfig) : Prop where
  notDeleted : id ∉ deleted
  approved : ∃ approved, catalog.lookup id = some approved ∧
    provider.protocol = approved.protocol ∧ provider.baseUrl = approved.baseUrl

lemma approvedOverride_spec {record : ProviderOverrideRecord}
    (h : approvedOverride readEnv catalog deleted id record = some provider) :
    Catalogued catalog deleted id provider := by
  unfold approvedOverride at h
  split_ifs at h with hdel
  split at h
  · rename_i approved parsed happr _
    split_ifs at h with hwith
    cases h
    simp only [withinCatalog, Bool.and_eq_true, decide_eq_true_eq] at hwith
    exact ⟨hdel, approved, happr, hwith.1.1.1, hwith.1.1.2⟩
  · cases h

lemma override_catalogued {table : ProviderTable}
    (htable : ∀ id provider, table.providers.lookup id = some provider →
      Catalogued catalog deleted id provider) (entry : String × ProviderOverrideRecord) :
    ∀ id provider,
      (override readEnv catalog deleted table entry).providers.lookup id =
        some provider → Catalogued catalog deleted id provider := by
  intro id provider hlook
  unfold override at hlook
  split at hlook
  · exact htable id provider hlook
  · rename_i overridden hoverride
    by_cases hid : id = entry.1
    · subst hid
      rw [AList.lookup_insert] at hlook
      cases hlook
      exact approvedOverride_spec hoverride
    · rw [AList.lookup_insert_ne hid] at hlook
      exact htable id provider hlook

/-- The providers of the merged table are catalogued, and none of them is disabled. -/
lemma mergedTable_lookup
    (h : (mergedTable readEnv base controls false).providers.lookup id = some provider) :
    Catalogued base.providers controls.deletedProviders id provider ∧
      id ∉ controls.disabledProviders := by
  have hbase : ∀ id provider,
      (remove controls.deletedProviders
        ⟨base.providers, base.providerOrder⟩).providers.lookup id = some provider →
      Catalogued base.providers controls.deletedProviders id provider := by
    intro id provider hlook
    unfold remove at hlook
    rw [StringMap.lookup_eraseAll] at hlook
    split_ifs at hlook with hdel
    exact ⟨hdel, provider, hlook, rfl, rfl⟩
  unfold mergedTable at h
  simp only [Bool.false_eq_true, if_false] at h
  unfold remove at h
  rw [StringMap.lookup_eraseAll] at h
  split_ifs at h with hdis
  exact ⟨List.foldlRecOn (motive := fun table : ProviderTable => ∀ id provider,
    table.providers.lookup id = some provider → Catalogued _ _ id provider) _ _ hbase
    (fun _ htable entry _ => override_catalogued htable entry) id provider h, hdis⟩

/-! ### Models and addresses of merged providers -/

/-- A control override has disabled the model. -/
def ModelDisabled (controls : ProviderControls) (id model : String) : Prop :=
  (controls.providerModelOverrides.lookup id).bind (·.lookup model) = some "disabled"

/-- Overrides of other models leave the presence of a model alone; its own decides it. -/
lemma mem_applyModelOverride {entry : String × String}
    (h : model ∈ (applyModelOverride provider entry).models) :
    (model = entry.1 ∧ entry.2 ≠ "disabled") ∨ (model ≠ entry.1 ∧ model ∈ provider.models) := by
  unfold applyModelOverride at h
  by_cases hmodel : model = entry.1
  · subst hmodel
    refine .inl ⟨rfl, fun hstat => ?_⟩
    rw [if_pos hstat] at h
    simp [ProviderConfig.withoutModel] at h
  · refine .inr ⟨hmodel, ?_⟩
    split_ifs at h
    · exact mem_of_mem_filter h
    · exact h
    · rcases mem_append.1 h with h | h
      · exact h
      · exact absurd (mem_singleton.1 h) hmodel

/-- **A disabled model is gone** after all overrides, since each model has one. -/
lemma foldl_applyModelOverride_disabled {entries : List (String × String)}
    (hnodup : (entries.map Prod.fst).Nodup) (hdis : (model, "disabled") ∈ entries) :
    model ∉ (entries.foldl applyModelOverride provider).models := by
  induction entries using List.reverseRecOn generalizing model with
  | nil => cases hdis
  | append_singleton entries entry ih =>
    rw [map_append, nodup_append] at hnodup
    rw [foldl_append]
    intro hmem
    replace hmem : model ∈ (applyModelOverride (entries.foldl applyModelOverride provider)
      entry).models := hmem
    rcases mem_append.1 hdis with hearl | hlast
    · rcases mem_applyModelOverride hmem with ⟨heq, -⟩ | ⟨-, hbef⟩
      · exact hnodup.2.2 model (mem_map_of_mem hearl) entry.1 (by simp) heq
      · exact ih hnodup.1 hearl hbef
    · obtain rfl := mem_singleton.1 hlast
      rcases mem_applyModelOverride hmem with ⟨-, hstat⟩ | ⟨hne, -⟩
      · exact hstat rfl
      · exact hne rfl

lemma applyModelOverrides_address (provider : ProviderConfig) :
    (applyModelOverrides controls id provider).baseUrl = provider.baseUrl ∧
      (applyModelOverrides controls id provider).protocol = provider.protocol := by
  unfold applyModelOverrides
  split
  · exact ⟨rfl, rfl⟩
  · refine List.foldlRecOn (motive := fun merged : ProviderConfig =>
      merged.baseUrl = provider.baseUrl ∧ merged.protocol = provider.protocol) _ _ ⟨rfl, rfl⟩
      fun merged hmerg entry _ => ?_
    unfold applyModelOverride
    split_ifs <;> exact hmerg

lemma applyModelOverrides_disabled (h : ModelDisabled controls id model) :
    model ∉ (applyModelOverrides controls id provider).models := by
  unfold ModelDisabled at h
  unfold applyModelOverrides
  cases hoverrides : controls.providerModelOverrides.lookup id with
  | none =>
    rw [hoverrides] at h
    cases h
  | some overrides =>
    rw [hoverrides] at h
    exact foldl_applyModelOverride_disabled overrides.nodup_byKey (StringMap.mem_byKey.2 h)

/-- The address the active credential gives a provider. -/
def activeAddress (controls : ProviderControls) (id baseUrl : String) : String :=
  ((activeCredential controls id).bind (·.baseUrl)).getD baseUrl

lemma applyActiveCredential_address (provider : ProviderConfig) :
    (applyActiveCredential readEnv controls id provider).baseUrl =
        activeAddress controls id provider.baseUrl ∧
      (applyActiveCredential readEnv controls id provider).protocol = provider.protocol := by
  unfold applyActiveCredential activeAddress
  cases activeCredential controls id with
  | none => exact ⟨rfl, rfl⟩
  | some record => exact ⟨rfl, rfl⟩

/-- **An effective provider** and what the catalog has approved of it. -/
structure Effective (base : AppConfig) (controls : ProviderControls) (id : String)
    (provider approved : ProviderConfig) : Prop where
  catalogued : base.providers.lookup id = some approved
  notDeleted : id ∉ controls.deletedProviders
  notDisabled : id ∉ controls.disabledProviders
  protocol : provider.protocol = approved.protocol
  baseUrl : provider.baseUrl = activeAddress controls id approved.baseUrl
  models : ∀ model ∈ provider.models, model ∈ approved.models ∧ ¬ ModelDisabled controls id model
  noPrefixes : provider.modelPrefixes = []
  noPassthrough : provider.passthroughUnknownModels = false

lemma mergeProvider_spec (readEnv : String → Option String) (controls : ProviderControls)
    (provider : ProviderConfig) {approved : ProviderConfig}
    (happr : catalog.lookup id = some approved) :
    ∃ merged, mergeProvider readEnv catalog controls id provider = confineToCatalog approved
        (applyModelOverrides controls id merged) ∧
      merged.baseUrl = activeAddress controls id provider.baseUrl ∧
      merged.protocol = provider.protocol := by
  unfold mergeProvider
  rw [happr]
  refine ⟨_, rfl, ?_⟩
  cases controls.discoveredModels.lookup id with
  | none => exact applyActiveCredential_address provider
  | some discovered =>
    exact applyActiveCredential_address (addDiscovered approved provider discovered)

/-- **The providers of the effective configuration.** -/
lemma effective_of_lookup
    (h : (effectiveConfig readEnv base controls).providers.lookup id = some provider) :
    ∃ approved, Effective base controls id provider approved := by
  obtain ⟨before, hlook, rfl⟩ := Option.map_eq_some_iff.1 ((dlookup_map₂ id).symm.trans h)
  obtain ⟨⟨hdel, approved, happr, hprot, hurl⟩, hdis⟩ := mergedTable_lookup hlook
  obtain ⟨merged, hmerge, hmergedUrl, hmergedProtocol⟩ :=
    mergeProvider_spec readEnv controls before happr
  obtain ⟨hoverriddenUrl, hoverriddenProtocol⟩ :
      (applyModelOverrides controls id merged).baseUrl = merged.baseUrl ∧ _ :=
    applyModelOverrides_address merged
  rw [hmerge]
  refine ⟨approved, happr, hdel, hdis, ?_, ?_, ?_, rfl, rfl⟩
  · exact (hoverriddenProtocol.trans hmergedProtocol).trans hprot
  · exact (hoverriddenUrl.trans hmergedUrl).trans (by rw [hurl])
  · intro model hmodel
    obtain ⟨hoverridden, hlist⟩ := mem_filter.1 hmodel
    refine ⟨by simpa using hlist, fun hoff => ?_⟩
    exact applyModelOverrides_disabled hoff hoverridden

end

end Routing

end ModelPort
