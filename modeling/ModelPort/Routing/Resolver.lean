import ModelPort.Gateway.Edge

/-!
# Resolution of a requested model

A client names a model. The name may be a provider and a model with a colon between them, an
alias, a model that some provider lists, a name that begins as some provider's models do, or
anything else, which the default provider answers for (`AppConfig.resolveInner`). Aliases may
point to aliases; a chain of more than nine names is refused, and the recursion is on the names
that are left.

* `resolveInner_configured`: what is found is a provider of the configuration.
-/

namespace ModelPort.Routing

open Gateway (RoutingProfile)

variable {a : ResolvedProvider} {provider : ProviderConfig} {id : String}

/-! ### Configuration -/

/-- What scores are used for. -/
inductive SmartRoutingMode where
  | off
  | shadow
  | active
  deriving DecidableEq

/-- A provider and a model of a route group. -/
structure RouteCandidateConfig where
  provider : String
  model : String
  quality : ℚ := 0.8
  latencyHintMs : ℕ := 1000
  enabled : Bool := true
  deriving DecidableEq

/-- Models behind an alias. -/
structure RouteGroupConfig where
  aliases : List String
  defaultProfile : Option RoutingProfile
  candidates : List RouteCandidateConfig
  deriving DecidableEq

/-- The smart router. -/
structure SmartRoutingConfig where
  mode : SmartRoutingMode := .off
  defaultProfile : RoutingProfile := .balanced
  policyVersion : String := "builtin-v1"
  activationPercent : ℕ := 0
  groups : StringMap RouteGroupConfig := ∅

/-- The part of the configuration that routing reads. -/
structure AppConfig where
  defaultProvider : String
  providerOrder : List String
  providers : StringMap ProviderConfig
  aliases : StringMap String := ∅
  smartRouting : SmartRoutingConfig := {}

namespace AppConfig

variable (config : AppConfig)

/-! ### Parsing -/

/-- `parse_provider_model`: a configured provider, a colon, and a model. -/
def parseProviderModel (value : String) : Option (String × String) :=
  match splitOnce ':' value with
  | none => none
  | some (providerId, model) =>
    if (config.providers.lookup providerId).isSome then some (providerId, trim model) else none

/-- The route group one of whose aliases is the trimmed name. -/
def smartRouteGroup (requestedModel : String) : Option (String × RouteGroupConfig) :=
  (config.smartRouting.groups.entries.find? fun entry =>
      entry.2.aliases.any (· == trim requestedModel)).map fun entry => (entry.1, entry.2)

/-- The first provider in order that lists the model. -/
def findProviderByExactModel (model : String) : Option (String × ProviderConfig) :=
  config.providerOrder.findSome? fun id =>
    ((config.providers.lookup id).filter fun provider => provider.models.contains model).map (id, ·)

/-- The first provider in order one of whose prefixes the model begins with. -/
def findProviderByModelPrefix (model : String) : Option (String × ProviderConfig) :=
  config.providerOrder.findSome? fun id =>
    ((config.providers.lookup id).filter fun provider =>
      provider.modelPrefixes.any (startsWith model)).map (id, ·)

/-! ### Resolution -/

/-- A provider, with the model unless that is blank, and its default model otherwise. -/
def resolveForProvider (providerId : String) (model : Option String) :
    Except AppError ResolvedProvider :=
  match config.providers.lookup providerId with
  | none => .error (.providerNotFound providerId)
  | some provider =>
    .ok ⟨providerId, provider,
      (model.filter fun m => !(trim m).isEmpty).getD provider.defaultModel⟩

/-- `resolve_alias_target`; `resolveName` resolves a target that names neither a provider nor a
provider and a model. -/
def resolveAliasTarget (resolveName : String → Except AppError ResolvedProvider)
    (aliasName target : String) : Except AppError ResolvedProvider :=
  match splitOnce ':' target with
  | some (providerId, model) =>
    if (config.providers.lookup providerId).isSome then
      config.resolveForProvider providerId (some model)
    else .error (.providerNotFound providerId)
  | none =>
    match config.providers.lookup target with
    | some provider =>
      .ok ⟨target, provider,
        if provider.models.contains aliasName then aliasName else provider.defaultModel⟩
    | none => resolveName target

/-- What the default provider is asked for when nothing else fits. -/
def resolveByDefault (requestedModel : String) : Except AppError ResolvedProvider :=
  match config.providers.lookup config.defaultProvider with
  | none => .error (.providerNotFound config.defaultProvider)
  | some provider =>
    .ok ⟨config.defaultProvider, provider,
      if provider.passthroughUnknownModels then requestedModel else provider.defaultModel⟩

/-- `resolve_inner`, with the number of names the chain of aliases may still have. -/
def resolveInner : ℕ → String → Except AppError ResolvedProvider
  | 0, _ => .error (.invalidRequest "model alias chain is too deep or cyclic")
  | left + 1, requestedModel =>
    if requestedModel.isEmpty then config.resolveForProvider config.defaultProvider none
    else
      match config.parseProviderModel requestedModel with
      | some (providerId, model) => config.resolveForProvider providerId (some model)
      | none =>
        match config.aliases.lookup requestedModel with
        | some target =>
          config.resolveAliasTarget (fun name => resolveInner left name) requestedModel
            target
        | none =>
          match config.findProviderByExactModel requestedModel with
          | some (providerId, provider) => .ok ⟨providerId, provider, requestedModel⟩
          | none =>
            match config.findProviderByModelPrefix requestedModel with
            | some (providerId, provider) => .ok ⟨providerId, provider, requestedModel⟩
            | none => config.resolveByDefault requestedModel

/-- **The provider and the model for a requested name.** -/
def resolve (requestedModel : String) : Except AppError ResolvedProvider :=
  config.resolveInner 9 (trim requestedModel)

variable {config} {model p : String}

/-- The model a selector asks a provider for. -/
def selectedModel (provider : ProviderConfig) (model : String) : String :=
  if (trim model).isEmpty then provider.defaultModel else model

lemma resolveForProvider_some (hp : config.providers.lookup p = some provider) (m : String) :
    config.resolveForProvider p (some m) = .ok ⟨p, provider, selectedModel provider m⟩ := by
  rw [resolveForProvider, hp, selectedModel]
  by_cases hm : (trim m).isEmpty
  · simp [Option.filter, hm]
  · simp [Option.filter, hm]

lemma isEmpty_of_selector {name m : String} (h : config.parseProviderModel name = some (p, m)) :
    name.isEmpty = false := by
  by_contra hempty
  rw [Bool.not_eq_false, String.isEmpty_iff] at hempty
  rw [hempty] at h
  cases h

/-- **What a `provider:model` selector resolves to.** -/
lemma resolve_selector {requestedModel m : String}
    (h : config.parseProviderModel (trim requestedModel) = some (p, m))
    (hp : config.providers.lookup p = some provider) :
    config.resolve requestedModel = .ok ⟨p, provider, selectedModel provider m⟩ := by
  unfold resolve resolveInner
  rw [isEmpty_of_selector h]
  simp only [h]
  exact resolveForProvider_some hp m

/-- **What a name leads to** that is no alias. -/
inductive Named (config : AppConfig) (name : String) : ResolvedProvider → Prop
  | blank {provider : ProviderConfig} (hblank : name = "")
      (hp : config.providers.lookup config.defaultProvider = some provider) :
      Named config name ⟨config.defaultProvider, provider, provider.defaultModel⟩
  | selector {p m : String} {provider : ProviderConfig}
      (hsel : config.parseProviderModel name = some (p, m))
      (hp : config.providers.lookup p = some provider) :
      Named config name ⟨p, provider, selectedModel provider m⟩
  /-- a model that a provider lists, or has a prefix for -/
  | known {p : String} {provider : ProviderConfig} (hne : name ≠ "")
      (hsel : config.parseProviderModel name = none)
      (h : (config.findProviderByExactModel name).or (config.findProviderByModelPrefix name) =
        some (p, provider)) : Named config name ⟨p, provider, name⟩
  | unknown {provider : ProviderConfig} (hne : name ≠ "")
      (hsel : config.parseProviderModel name = none)
      (h : (config.findProviderByExactModel name).or (config.findProviderByModelPrefix name) = none)
      (hp : config.providers.lookup config.defaultProvider = some provider) :
      Named config name ⟨config.defaultProvider, provider,
        if provider.passthroughUnknownModels then name else provider.defaultModel⟩

lemma resolve_iff_named {requestedModel : String}
    (halias : config.aliases.lookup (trim requestedModel) = none) :
    config.resolve requestedModel = .ok a ↔ config.Named (trim requestedModel) a := by
  rw [resolve, resolveInner.eq_2, halias]
  generalize trim requestedModel = name
  constructor
  · intro h
    split_ifs at h with hempty
    · rw [resolveForProvider] at h
      split at h
      · cases h
      · cases h
        exact .blank (String.isEmpty_iff.1 hempty) ‹_›
    have hne : name ≠ "" := fun hname => hempty (String.isEmpty_iff.2 hname)
    split at h
    · rename_i p m hsel
      cases hp : config.providers.lookup p with
      | none => simp [resolveForProvider, hp] at h
      | some provider =>
        rw [resolveForProvider_some hp] at h
        cases h
        exact .selector hsel hp
    · rename_i hsel
      dsimp only at h
      split at h
      · rename_i hexact
        cases h
        exact .known hne hsel (by rw [hexact]; rfl)
      · rename_i hexact
        split at h
        · rename_i hstart
          cases h
          exact .known hne hsel (by rw [hexact, hstart]; rfl)
        · rename_i hstart
          rw [resolveByDefault] at h
          split at h
          · cases h
          · cases h
            exact .unknown hne hsel (by rw [hexact, hstart]; rfl) ‹_›
  · intro h
    cases h with
    | blank hblank hp => simp [hblank, resolveForProvider, hp]
    | selector hsel hp =>
      simp [isEmpty_of_selector hsel, hsel, resolveForProvider_some hp]
    | known hne hsel h =>
      simp only [String.isEmpty_iff, hne, hsel, if_false]
      rcases Option.or_eq_some_iff.1 h with hexact | ⟨hexact, hstart⟩
      · rw [hexact]
      · rw [hexact, hstart]
    | unknown hne hsel h hp =>
      obtain ⟨hexact, hstart⟩ := Option.or_eq_none_iff.1 h
      simp [String.isEmpty_iff, hne, hsel, hexact, hstart, resolveByDefault, hp]

/-! ### What resolution finds is configured -/

/-- The target is a provider of the configuration. -/
def Configured (config : AppConfig) (a : ResolvedProvider) : Prop :=
  config.providers.lookup a.providerId = some a.provider

lemma resolveForProvider_configured {model : Option String}
    (h : config.resolveForProvider id model = .ok a) : config.Configured a := by
  unfold resolveForProvider at h
  split at h
  · cases h
  · rename_i provider hlook
    cases h
    exact hlook

lemma resolveAliasTarget_configured {resolveName : String → Except AppError ResolvedProvider}
    (hname : ∀ name a, resolveName name = .ok a → config.Configured a) {aliasName target : String}
    (h : config.resolveAliasTarget resolveName aliasName target = .ok a) : config.Configured a := by
  unfold resolveAliasTarget at h
  split at h
  · split_ifs at h
    exact resolveForProvider_configured h
  · split at h
    · rename_i provider hlook
      cases h
      exact hlook
    · exact hname target a h

lemma findProviderByExactModel_configured
    (h : config.findProviderByExactModel model = some (id, provider)) :
    config.providers.lookup id = some provider ∧ model ∈ provider.models := by
  obtain ⟨id', -, heq⟩ := List.exists_of_findSome?_eq_some h
  obtain ⟨provider', hfilt, hpair⟩ := Option.map_eq_some_iff.1 heq
  cases hpair
  obtain ⟨hlook, hlist⟩ := Option.filter_eq_some_iff.1 hfilt
  exact ⟨hlook, by simpa using hlist⟩

lemma findProviderByModelPrefix_configured
    (h : config.findProviderByModelPrefix model = some (id, provider)) :
    config.providers.lookup id = some provider := by
  obtain ⟨id', -, heq⟩ := List.exists_of_findSome?_eq_some h
  obtain ⟨provider', hfilt, hpair⟩ := Option.map_eq_some_iff.1 heq
  cases hpair
  exact (Option.filter_eq_some_iff.1 hfilt).1

lemma resolveInner_configured {left : ℕ} {name : String}
    (h : config.resolveInner left name = .ok a) : config.Configured a := by
  induction left generalizing name a with
  | zero => cases h
  | succ left ih =>
    unfold resolveInner at h
    split_ifs at h
    · exact resolveForProvider_configured h
    · split at h
      · exact resolveForProvider_configured h
      · split at h
        · exact resolveAliasTarget_configured (fun name a => ih) h
        · split at h
          · rename_i hexact
            cases h
            exact (findProviderByExactModel_configured hexact).1
          · split at h
            · rename_i hstart
              cases h
              exact findProviderByModelPrefix_configured hstart
            · unfold resolveByDefault at h
              split at h
              · cases h
              · rename_i provider hlook
                cases h
                exact hlook

end AppConfig

end ModelPort.Routing
