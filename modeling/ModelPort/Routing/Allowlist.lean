import ModelPort.Routing.Reviewed

/-!
# Model allowlists

A key and its team may list the models they allow. A rule is a name, or the beginning of names
followed by `*`. An attempt is allowed if some rule matches the model that was requested or the
model that is asked for. A requested name need not say anything about the model it leads to: a
name that the configuration does not know leads to the default model, and a selector to the model
behind its colon.

* `allowlist_kept_iff`: when the rules hold of the models that are asked for.
* `unknown_name_reaches_unlisted_model`: a name that gets around them.
-/

namespace ModelPort

open List

namespace Routing

/-! ### Rules -/

def policyValueMatches (rule value : String) : Bool :=
  let rule := trim rule
  if rule = "*" then true
  else
    match stripSuffix '*' rule with
    | some start => startsWith value start
    | none => rule = value

/-- Some rule of the list matches. -/
def matchesAny (rules : List String) (value : String) : Bool :=
  rules.any (policyValueMatches · value)

def enforceModelPolicy (label : String) (allowedModels : List String)
    (requestedModel resolvedModel : String) : Except AppError Unit :=
  if allowedModels.isEmpty || allowedModels.any fun rule =>
      policyValueMatches rule requestedModel || policyValueMatches rule resolvedModel then .ok ()
  else .error (.forbidden (label ++ " does not allow model " ++ requestedModel))

def enforceProviderPolicy (label : String) (allowedProviders : List String)
    (providerId : String) : Except AppError Unit :=
  if allowedProviders.isEmpty || matchesAny allowedProviders providerId then .ok ()
  else .error (.forbidden (label ++ " does not allow provider " ++ providerId))

end Routing

/-- `enforce_route`: the models and providers that a key and its team allow. -/
def ApiKeyPolicy.enforceRoute (policy : ApiKeyPolicy)
    (requestedModel resolvedModel providerId : String) : Except AppError Unit := do
  Routing.enforceModelPolicy "API key" policy.allowedModels requestedModel resolvedModel
  Routing.enforceProviderPolicy "API key" policy.allowedProviders providerId
  Routing.enforceModelPolicy "team" policy.teamAllowedModels requestedModel resolvedModel
  Routing.enforceProviderPolicy "team" policy.teamAllowedProviders providerId

/-- The lists of models that apply to a request. -/
def ApiKeyPolicy.modelLists (policy : ApiKeyPolicy) : List (List String) :=
  [policy.allowedModels, policy.teamAllowedModels].filter fun rules => !rules.isEmpty

/-- The lists of providers that apply to a request. -/
def ApiKeyPolicy.providerLists (policy : ApiKeyPolicy) : List (List String) :=
  [policy.allowedProviders, policy.teamAllowedProviders].filter fun rules => !rules.isEmpty

namespace Routing

open Gateway (RoutePlan)

lemma enforceModelPolicy_iff {label requested resolved : String} {rules : List String} {u : Unit} :
    enforceModelPolicy label rules requested resolved = .ok u ↔ (rules ≠ [] →
      matchesAny rules requested ∨ matchesAny rules resolved) := by
  have hany : (rules.any fun rule => policyValueMatches rule requested ||
      policyValueMatches rule resolved) =
        (matchesAny rules requested || matchesAny rules resolved) := by
    rw [Bool.eq_iff_iff]
    simp only [matchesAny, any_eq_true, Bool.or_eq_true, and_or_left, exists_or]
  rw [enforceModelPolicy, hany]
  cases rules with
  | nil => simp
  | cons rule rules => simp [or_iff_not_imp_left]

lemma enforceProviderPolicy_iff {label providerId : String} {rules : List String} {u : Unit} :
    enforceProviderPolicy label rules providerId = .ok u ↔
      (rules ≠ [] → matchesAny rules providerId) := by
  cases rules with
  | nil => simp [enforceProviderPolicy]
  | cons rule rules => simp [enforceProviderPolicy]

/-- **What is allowed**: every list of models that applies matches one of the two names, and every
list of providers the provider. -/
lemma enforceRoute_iff {policy : ApiKeyPolicy} {requested resolved providerId : String} :
    policy.enforceRoute requested resolved providerId = .ok () ↔
      (∀ rules ∈ policy.modelLists, matchesAny rules requested ∨
        matchesAny rules resolved) ∧
      ∀ rules ∈ policy.providerLists, matchesAny rules providerId := by
  simp only [ApiKeyPolicy.enforceRoute, ApiKeyPolicy.modelLists, ApiKeyPolicy.providerLists,
    Except.bind_eq_ok, enforceModelPolicy_iff, enforceProviderPolicy_iff]
  simp
  grind

/-! ### Names and models -/

/-- The requested name is an alias, of a model or of a route group. -/
def IsAlias (config : AppConfig) (requestedModel : String) : Prop :=
  (config.aliases.lookup (trim requestedModel)).isSome ∨
    (config.smartRouteGroup requestedModel).isSome

/-- Every list that applies allows the model, or the name as an alias. -/
def ListsAllow (config : AppConfig) (policy : ApiKeyPolicy) (requestedModel model : String) :
    Prop :=
  ∀ rules ∈ policy.modelLists, matchesAny rules model ∨
    (IsAlias config requestedModel ∧ matchesAny rules requestedModel)

/-- A provider is asked for the model of the primary, as the primary or after it. -/
def AskedFor (control : RouterControl) (config : AppConfig) (requestedModel : String)
    (primary : ResolvedProvider) (id : String) : Prop :=
  (id = primary.providerId ∧ PrimaryTried control config requestedModel primary) ∨
    (isExplicitProviderSelector config requestedModel = false ∧ id ∈ config.providerOrder ∧
      id ≠ primary.providerId ∧ control.providerInCooldown id = false ∧
      ∃ provider, config.providers.lookup id = some provider ∧
        fallbackModelForProvider provider requestedModel primary.model = some primary.model)

/-- What the inputs must be: the name is an alias; or the lists that let the name pass match the
model it leads to, unless no provider that is asked for that is allowed. -/
def NameBound (request : RoutingRequest) (policy : ApiKeyPolicy) : Prop :=
  IsAlias request.config request.exchange.model ∨
    ∀ primary, request.config.Named (trim request.exchange.model) primary →
      ∀ id, AskedFor request.control request.config request.exchange.model primary id →
      (∀ rules ∈ policy.providerLists, matchesAny rules id) →
      (∀ rules ∈ policy.modelLists, matchesAny rules request.exchange.model ∨
        matchesAny rules primary.model) →
      ∀ rules ∈ policy.modelLists, matchesAny rules primary.model

lemma askedFor_iff {control : RouterControl} {config : AppConfig} {requestedModel id : String}
    {primary : ResolvedProvider} : AskedFor control config requestedModel primary id ↔
      ∃ a ∈ staticRouteAttempts control config requestedModel primary,
        a.model = primary.model ∧ a.providerId = id := by
  constructor
  · rintro (⟨rfl, htried⟩ | ⟨hopen, hid, hne, hcool, provider, hprov, hmodel⟩)
    · exact ⟨primary, mem_staticRouteAttempts.2 (.inl ⟨rfl, htried⟩), rfl, rfl⟩
    · refine ⟨⟨id, provider, primary.model⟩, mem_staticRouteAttempts.2 (.inr ⟨hopen, ?_⟩), rfl, rfl⟩
      exact mem_fallbackAttempts.2 ⟨hid, hne, hcool, hprov, hmodel⟩
  · rintro ⟨a, ha, hmodel, rfl⟩
    rcases mem_staticRouteAttempts.1 ha with ⟨rfl, htried⟩ | ⟨hopen, hfb⟩
    · exact .inl ⟨rfl, htried⟩
    · obtain ⟨hid, hne, hcool, hprov, hasked⟩ := mem_fallbackAttempts.1 hfb
      exact .inr ⟨hopen, hid, hne, hcool, a.provider, hprov, hmodel ▸ hasked⟩

/-- An attempt of a static plan asks for the resolved or the requested model. -/
lemma model_of_mem_staticRouteAttempts {control : RouterControl} {config : AppConfig}
    {requestedModel : String} {primary a : ResolvedProvider}
    (ha : a ∈ staticRouteAttempts control config requestedModel primary) :
    a.model = primary.model ∨ a.model = requestedModel := by
  rcases mem_staticRouteAttempts.1 ha with ⟨rfl, -⟩ | ⟨-, hfb⟩
  · exact .inl rfl
  · obtain ⟨-, -, -, -, hmodel⟩ := mem_fallbackAttempts.1 hfb
    have hmem := mem_of_find?_eq_some hmodel
    simp only [mem_cons, not_mem_nil, or_false] at hmem
    exact hmem.symm

/-- **When allowlists bound the models that are asked for.** -/
theorem allowlist_kept_iff (env : RouterEnv) (request : RoutingRequest) (policy : ApiKeyPolicy)
    (plan' : RoutePlan) (hplan : plan env request = .ok plan') : (∀ a ∈ plan'.attempts,
        policy.enforceRoute request.exchange.model a.model a.providerId = .ok () →
        ListsAllow request.config policy request.exchange.model a.model) ↔
      NameBound request policy := by
  by_cases halias : IsAlias request.config request.exchange.model
  · -- an alias that a rule matches is what the rules are for
    refine ⟨fun _ => .inl halias, fun _ a _ hallowed rules hrules => ?_⟩
    rcases (enforceRoute_iff.1 hallowed).1 rules hrules with hreq | hmodel
    · exact .inr ⟨halias, hreq⟩
    · exact .inl hmodel
  · obtain ⟨hname, hgroup⟩ := not_or.1 halias
    rw [Option.not_isSome_iff_eq_none] at hname hgroup
    unfold plan at hplan
    rw [hgroup] at hplan
    simp only [staticPlan, Except.bind_eq_ok] at hplan
    obtain ⟨primary, hres, hplan⟩ := hplan
    cases hplan
    constructor
    · intro hall
      refine .inr fun primary' hnamed id hasked hproviders hmodels rules hrules => ?_
      obtain rfl : primary = primary' :=
        Except.ok.inj (hres.symm.trans ((AppConfig.resolve_iff_named hname).2 hnamed))
      obtain ⟨a, ha, hmodel, rfl⟩ := askedFor_iff.1 hasked
      rw [← hmodel] at hmodels ⊢
      rcases hall a ha (enforceRoute_iff.2 ⟨hmodels, hproviders⟩) rules hrules with h | ⟨h, -⟩
      · exact h
      · exact absurd h halias
    · rintro (h | hbound) a ha hallowed rules hrules
      · exact absurd h halias
      · refine .inl ?_
        obtain ⟨hmodels, hproviders⟩ := enforceRoute_iff.1 hallowed
        rcases model_of_mem_staticRouteAttempts ha with hmodel | hmodel
        · have hasked := askedFor_iff.2 ⟨a, ha, hmodel, rfl⟩
          rw [hmodel] at hmodels ⊢
          exact hbound primary ((AppConfig.resolve_iff_named hname).1 hres) a.providerId hasked
            hproviders hmodels rules hrules
        · rcases hmodels rules hrules with h | h
          · rw [hmodel]
            exact h
          · exact h

section

/-- A key for the models whose names begin with `gpt-`, and names of the provider's own. -/
def gptPolicy : ApiKeyPolicy where
  allowedModels := ["gpt-*", "main:*"]

/-- A key that allows the model of the catalog, and a request for it. -/
theorem allowlist_kept_iff_listed :
    let request := catalogRequest {} "model"
    let policy : ApiKeyPolicy := { allowedModels := ["model"] }
    ∃ plan', plan ⟨fun _ => 0⟩ request = .ok plan' ∧
      (∃ a ∈ plan'.attempts, policy.enforceRoute "model" a.model a.providerId = .ok ()) ∧
      ∀ a ∈ plan'.attempts, policy.enforceRoute "model" a.model a.providerId = .ok () →
        ListsAllow request.config policy "model" a.model := by
  intro request policy
  have hallowed : (plan ⟨fun _ => 0⟩ request).toOption.any (fun plan' => plan'.attempts.any
      fun a => policy.enforceRoute "model" a.model a.providerId = .ok ()) := by
    decide +kernel
  cases hplan : plan ⟨fun _ => 0⟩ request with
  | error e =>
    rw [hplan] at hallowed
    cases hallowed
  | ok plan' =>
    rw [hplan] at hallowed
    refine ⟨plan', rfl, by simpa [Except.toOption] using hallowed, ?_⟩
    refine (allowlist_kept_iff ⟨fun _ => 0⟩ request policy plan' hplan).2 (.inr ?_)
    rintro primary hnamed id - - - rules hrules
    obtain rfl : rules = ["model"] := by simpa [policy, ApiKeyPolicy.modelLists] using hrules
    have hmodel : (request.config.resolve request.exchange.model).toOption.map (·.model) =
        some "model" := by
      decide +kernel
    rw [(AppConfig.resolve_iff_named (by decide +kernel)).2 hnamed] at hmodel
    rw [show primary.model = "model" from Option.some.inj hmodel]
    decide

/-- **A name that gets around the list.** The catalog has one model, and the key allows names that
begin with `gpt-`. An unknown name of that form, and a selector that a rule matches, are allowed
to ask for the model. -/
theorem unknown_name_reaches_unlisted_model :
    plannedTargets (fun _ => none) (catalogRequest {} "gpt-unknown") =
        some [("main", "model", "https://main.example")] ∧
      plannedTargets (fun _ => none) (catalogRequest {} "main:model") =
        some [("main", "model", "https://main.example")] ∧
      gptPolicy.enforceRoute "gpt-unknown" "model" "main" = .ok () ∧
      gptPolicy.enforceRoute "main:model" "model" "main" = .ok () ∧
      matchesAny gptPolicy.allowedModels "model" = false ∧
      (effectiveConfig (fun _ => none) smallCatalog {}).aliases.entries = [] ∧
      (effectiveConfig (fun _ => none) smallCatalog {}).smartRouting.groups.entries = [] := by
  refine ⟨by decide +kernel, by decide +kernel, rfl, rfl, by decide +kernel, rfl, rfl⟩

end

end Routing

end ModelPort
