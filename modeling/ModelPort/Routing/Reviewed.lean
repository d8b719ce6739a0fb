import ModelPort.Routing.Catalog
import ModelPort.Routing.Selection

/-!
# Only what was reviewed

The organization reviews a catalog of providers, their addresses and their models. Plans are made
from the effective configuration, whose providers are those of the catalog that are neither
deleted nor disabled. The model of an attempt need not be one of the catalog: a selector, the
target of an alias and a candidate of a route group name a model of their own, and the default
model is never held against the list. The address need not be the catalog's: a credential may
bring another.

* `plan_reviewed_iff`: when all attempts of a plan are reviewed.
* `unreviewed_model_is_routed`: two that are not.
-/

namespace ModelPort.Routing

open Gateway (RoutePlan usableKey)

/-- An attempt with the credential that is selected for its provider. -/
def withSelected (readEnv : String → Option String)
    (select : String → Option ProviderCredentialRecord) (a : ResolvedProvider) :
    ResolvedProvider :=
  match select a.providerId with
  | none => a
  | some record =>
    { a with provider := a.provider.withCredential record (usableKey (readEnv record.apiKeyEnv)) }

/-- **An attempt as the organization has reviewed it.** -/
structure Reviewed (base : AppConfig) (controls : ProviderControls) (a : ResolvedProvider) :
    Prop where
  notDeleted : a.providerId ∉ controls.deletedProviders
  notDisabled : a.providerId ∉ controls.disabledProviders
  catalogued : ∃ approved, base.providers.lookup a.providerId = some approved ∧
    a.model ∈ approved.models ∧ a.provider.protocol = approved.protocol ∧
    a.provider.baseUrl = approved.baseUrl
  modelEnabled : ¬ ModelDisabled controls a.providerId a.model

/-- The catalog lists the model for the provider, and no override disables it. -/
def ModelReviewed (base : AppConfig) (controls : ProviderControls) (id model : String) : Prop :=
  (∃ approved, base.providers.lookup id = some approved ∧ model ∈ approved.models) ∧
    ¬ ModelDisabled controls id model

/-- The active and the selected credential of the provider leave the catalog's address. -/
def AddressReviewed (base : AppConfig) (controls : ProviderControls)
    (select : String → Option ProviderCredentialRecord) (id : String) : Prop :=
  ∀ approved, base.providers.lookup id = some approved →
    ((select id).bind (·.baseUrl)).getD (activeAddress controls id approved.baseUrl) =
      approved.baseUrl

variable {readEnv : String → Option String} {base : AppConfig} {controls : ProviderControls}
  {select : String → Option ProviderCredentialRecord} {a : ResolvedProvider}

/-- **What is left to ask** of an attempt of the effective configuration: its model and its
address. -/
lemma reviewed_iff (ha : (effectiveConfig readEnv base controls).Configured a) :
    Reviewed base controls (withSelected readEnv select a) ↔
      ModelReviewed base controls a.providerId a.model ∧
        AddressReviewed base controls select a.providerId := by
  obtain ⟨approved, heff⟩ := effective_of_lookup ha
  -- the credential changes the address only
  obtain ⟨provider, hselected, hprot, hurl⟩ : ∃ provider,
      withSelected readEnv select a = { a with provider } ∧
      provider.protocol = a.provider.protocol ∧ provider.baseUrl =
        ((select a.providerId).bind (·.baseUrl)).getD a.provider.baseUrl := by
    unfold withSelected
    cases select a.providerId with
    | none | some => exact ⟨_, rfl, rfl, rfl⟩
  rw [hselected]
  constructor
  · rintro ⟨-, -, ⟨approved', hlook, hlist, -, haddr⟩, hon⟩
    obtain rfl : approved = approved' := Option.some.inj (heff.catalogued.symm.trans hlook)
    refine ⟨⟨⟨approved, hlook, hlist⟩, hon⟩, fun approved' hlookup' => ?_⟩
    obtain rfl : approved = approved' := Option.some.inj (hlook.symm.trans hlookup')
    rw [← heff.baseUrl, ← hurl]
    exact haddr
  · rintro ⟨⟨⟨approved', hlook, hlist⟩, hon⟩, haddr⟩
    obtain rfl : approved = approved' := Option.some.inj (heff.catalogued.symm.trans hlook)
    refine ⟨heff.notDeleted, heff.notDisabled,
      ⟨approved, hlook, hlist, hprot.trans heff.protocol, ?_⟩, hon⟩
    rw [hurl, heff.baseUrl]
    exact haddr approved hlook

/-- A fallback is asked for a model that the effective configuration lists for it. -/
lemma modelReviewed_of_serves {provider : ProviderConfig} {id model : String}
    (hlook : (effectiveConfig readEnv base controls).providers.lookup id = some provider)
    (hserv : servesModel provider model) : ModelReviewed base controls id model := by
  obtain ⟨approved, heff⟩ := effective_of_lookup hlook
  unfold servesModel at hserv
  rw [heff.noPrefixes, heff.noPassthrough] at hserv
  have hlist : model ∈ provider.models := by simpa using hserv
  obtain ⟨happr, hon⟩ := heff.models model hlist
  exact ⟨⟨approved, heff.catalogued, happr⟩, hon⟩

/-- What the inputs must be for a plan to have reviewed attempts only. Of a static plan the model
of the primary matters, if it is tried, and the addresses of all who are tried; of a group plan
the models and addresses of the candidates that pass the gates. Models that the effective
configuration lists are reviewed. -/
structure PlanReviewed (base : AppConfig) (controls : ProviderControls)
    (select : String → Option ProviderCredentialRecord) (request : RoutingRequest) : Prop where
  /-- the name or the target of its last alias may select a model that is not listed, or lead to a
  default model that is not -/
  unlisted : request.config.smartRouteGroup request.exchange.model = none →
    ∀ primary, request.config.resolve request.exchange.model = .ok primary →
      PrimaryTried request.control request.config request.exchange.model primary →
      primary.model ∉ primary.provider.models →
      ModelReviewed base controls primary.providerId primary.model
  primary : request.config.smartRouteGroup request.exchange.model = none →
    ∀ primary, request.config.resolve request.exchange.model = .ok primary →
      PrimaryTried request.control request.config request.exchange.model primary →
      AddressReviewed base controls select primary.providerId
  followers : request.config.smartRouteGroup request.exchange.model = none →
    ∀ primary, request.config.resolve request.exchange.model = .ok primary →
      isExplicitProviderSelector request.config request.exchange.model = false →
      ∀ id, id ≠ primary.providerId →
        CanFollow request.control request.config request.exchange.model primary.model id →
        AddressReviewed base controls select id
  candidates : ∀ groupId group,
    request.config.smartRouteGroup request.exchange.model = some (groupId, group) →
    ∀ candidate ∈ group.candidates,
      candidateRejection request candidate (!usesCoolingFallback request group) = .ok none →
      ModelReviewed base controls candidate.provider candidate.model ∧
        AddressReviewed base controls select candidate.provider

variable {request : RoutingRequest} {plan' : RoutePlan} {env : RouterEnv}

lemma plan_configured (hplan : plan env request = .ok plan')
    (ha : a ∈ plan'.attempts) : request.config.Configured a := by
  unfold plan at hplan
  split at hplan
  · simp only [staticPlan, Except.bind_eq_ok] at hplan
    obtain ⟨primary, hres, hplan⟩ := hplan
    cases hplan
    rcases mem_staticRouteAttempts.1 ha with ⟨rfl, -⟩ | ⟨-, hfb⟩
    · exact AppConfig.resolveInner_configured hres
    · exact (mem_fallbackAttempts.1 hfb).2.2.2.1
  · obtain ⟨candidate, -, hpass⟩ := (mem_groupPlan hplan).1 ha
    unfold AppConfig.Configured
    rw [hpass.providerId]
    exact hpass.provider

lemma static_reviewed_iff {primary : ResolvedProvider}
    (hconfig : request.config = effectiveConfig readEnv base controls)
    (hgroup : request.config.smartRouteGroup request.exchange.model = none)
    (hres : request.config.resolve request.exchange.model = .ok primary) :
    (∀ a ∈ staticRouteAttempts request.control request.config request.exchange.model primary,
        ModelReviewed base controls a.providerId a.model ∧
          AddressReviewed base controls select a.providerId) ↔
      PlanReviewed base controls select request := by
  constructor
  · intro hall
    have hprimary : ∀ primary', request.config.resolve request.exchange.model = .ok primary' →
        PrimaryTried request.control request.config request.exchange.model primary' →
        ModelReviewed base controls primary'.providerId primary'.model ∧
          AddressReviewed base controls select primary'.providerId := by
      intro primary' hres' htried
      obtain rfl : primary' = primary := Except.ok.inj (hres'.symm.trans hres)
      exact hall primary' (mem_staticRouteAttempts.2 (.inl ⟨rfl, htried⟩))
    refine ⟨fun _ primary' hres' htried _ => (hprimary primary' hres' htried).1,
      fun _ primary' hres' htried => (hprimary primary' hres' htried).2,
      fun _ primary' hres' hopen id hne hfoll => ?_, fun groupId group hgroup' => ?_⟩
    · obtain rfl : primary = primary' := Except.ok.inj (hres.symm.trans hres')
      obtain ⟨a, ha, rfl⟩ := exists_fallback_iff.2 ⟨hne, hfoll⟩
      exact (hall a (mem_staticRouteAttempts.2 (.inr ⟨hopen, ha⟩))).2
    · rw [hgroup] at hgroup'
      cases hgroup'
  · intro hrev a ha
    rcases mem_staticRouteAttempts.1 ha with ⟨rfl, htried⟩ | ⟨hopen, hfb⟩
    · refine ⟨?_, hrev.primary hgroup a hres htried⟩
      by_cases hlist : a.model ∈ a.provider.models
      · have hlook : request.config.Configured a := AppConfig.resolveInner_configured hres
        rw [hconfig] at hlook
        exact modelReviewed_of_serves hlook (by simp [servesModel, hlist])
      · exact hrev.unlisted hgroup a hres htried hlist
    · obtain ⟨hne, hfoll⟩ := exists_fallback_iff.1 ⟨a, hfb, rfl⟩
      obtain ⟨-, -, -, hlook, hmodel⟩ := mem_fallbackAttempts.1 hfb
      rw [hconfig] at hlook
      refine ⟨modelReviewed_of_serves hlook (List.find?_some hmodel), ?_⟩
      exact hrev.followers hgroup primary hres hopen a.providerId hne hfoll

lemma group_reviewed_iff {groupId : String} {group : RouteGroupConfig}
    (hgroup : request.config.smartRouteGroup request.exchange.model = some (groupId, group))
    (hplan : groupPlan env request groupId group = .ok plan') :
    (∀ a ∈ plan'.attempts, ModelReviewed base controls a.providerId a.model ∧
        AddressReviewed base controls select a.providerId) ↔
      PlanReviewed base controls select request := by
  constructor
  · intro hall
    have hsome : request.config.smartRouteGroup request.exchange.model ≠ none := by simp [hgroup]
    refine ⟨fun h => absurd h hsome, fun h => absurd h hsome, fun h => absurd h hsome,
      fun groupId' group' hgroup' candidate hmem hgates => ?_⟩
    obtain rfl : group = group' :=
      (Prod.mk.inj (Option.some.inj (hgroup.symm.trans hgroup'))).2
    obtain ⟨provider, hprov⟩ := lookup_of_gates hgates
    exact hall ⟨candidate.provider, provider, candidate.model⟩
      ((mem_groupPlan hplan).2 ⟨candidate, hmem, hgates, rfl, hprov, rfl⟩)
  · intro hrev a ha
    obtain ⟨candidate, hmem, hpass⟩ := (mem_groupPlan hplan).1 ha
    rw [hpass.providerId, hpass.model]
    exact hrev.candidates groupId group hgroup candidate hmem hpass.gates

/-- **When a plan has reviewed attempts only.** -/
theorem plan_reviewed_iff (readEnv : String → Option String) (base : AppConfig)
    (controls : ProviderControls) (select : String → Option ProviderCredentialRecord)
    (env : RouterEnv) (request : RoutingRequest)
    (hconfig : request.config = effectiveConfig readEnv base controls) (plan' : RoutePlan)
    (hplan : plan env request = .ok plan') :
    (∀ a ∈ plan'.attempts, Reviewed base controls (withSelected readEnv select a)) ↔
      PlanReviewed base controls select request := by
  have hconf : ∀ a ∈ plan'.attempts,
      (Reviewed base controls (withSelected readEnv select a) ↔
      ModelReviewed base controls a.providerId a.model ∧
        AddressReviewed base controls select a.providerId) := by
    intro a ha
    have hlook := plan_configured hplan ha
    rw [hconfig] at hlook
    exact reviewed_iff hlook
  rw [forall₂_congr hconf]
  unfold plan at hplan
  split at hplan
  · rename_i hgroup
    simp only [staticPlan, Except.bind_eq_ok] at hplan
    obtain ⟨primary, hres, hplan⟩ := hplan
    cases hplan
    exact static_reviewed_iff hconfig hgroup hres
  · rename_i hgroup
    exact group_reviewed_iff hgroup hplan

section

/-- A catalog of one provider with one model. -/
def smallCatalog : AppConfig where
  defaultProvider := "main"
  providerOrder := ["main"]
  providers := AList.singleton "main" (Gateway.Sample.provider "https://main.example")

/-- A request to the effective configuration. -/
def catalogRequest (controls : ProviderControls) (requestedModel : String) : RoutingRequest :=
  { twoProviderRequest requestedModel [] with
    config := effectiveConfig (fun _ => none) smallCatalog controls }

/-- The targets of a plan, with their addresses after the selection of credentials. -/
def plannedTargets (select : String → Option ProviderCredentialRecord)
    (request : RoutingRequest) : Option (List (String × String × String)) :=
  (plan ⟨fun _ => 0⟩ request).toOption.map fun plan =>
    (plan.attempts.map (withSelected (fun _ => none) select)).map
      fun a => (a.providerId, a.model, a.provider.baseUrl)

/-- The only model of the catalog is disabled. -/
def modelDisabledControls : ProviderControls where
  providerModelOverrides := AList.singleton "main" (AList.singleton "model" "disabled")

/-- A credential with an address of its own. -/
def elsewhere : ProviderCredentialRecord := ⟨"cred_1", "MAIN_API_KEY",
  some "https://elsewhere.example", "active"⟩

/-- A model that is not in the catalog was found, and another is disabled. -/
def discoveredControls : ProviderControls where
  discoveredModels := AList.singleton "main" ["model", "found"]
  providerModelOverrides := AList.singleton "main" (AList.singleton "spare" "disabled")

/-- A request for the model of the catalog. -/
theorem plan_reviewed_iff_listed :
    let request := catalogRequest discoveredControls "model"
    ∃ plan', plan ⟨fun _ => 0⟩ request = .ok plan' ∧ plan'.attempts ≠ [] ∧
      ∀ a ∈ plan'.attempts, Reviewed smallCatalog discoveredControls
        (withSelected (fun _ => none) (fun _ => none) a) := by
  intro request
  have hplanned : (plan ⟨fun _ => 0⟩ request).toOption.any (!·.attempts.isEmpty) := by
    decide +kernel
  cases hplan : plan ⟨fun _ => 0⟩ request with
  | error e =>
    rw [hplan] at hplanned
    cases hplanned
  | ok plan' =>
    rw [hplan] at hplanned
    refine ⟨plan', rfl, by simpa [Except.toOption] using hplanned, ?_⟩
    have haddr : ∀ id, AddressReviewed smallCatalog discoveredControls (fun _ => none) id :=
      fun id approved _ => rfl
    refine (plan_reviewed_iff (fun _ => none) smallCatalog discoveredControls (fun _ => none)
      ⟨fun _ => 0⟩ request rfl plan' hplan).2 ⟨fun _ primary hres _ hlist => ?_,
      fun _ _ _ _ => haddr _, fun _ _ _ _ _ _ _ => haddr _, fun groupId group hgroup => ?_⟩
    · have hlisted : (request.config.resolve request.exchange.model).toOption.any
          fun primary => primary.model ∈ primary.provider.models := by decide +kernel
      rw [hres] at hlisted
      exact absurd (by simpa [Except.toOption] using hlisted) hlist
    · have hnone : request.config.smartRouteGroup request.exchange.model = none := by
        decide +kernel
      cases hnone.symm.trans hgroup

/-- **What was never reviewed is routed**: a selector of a model that the catalog does not list,
an unknown name while the default model is disabled, and a credential with another address. -/
theorem unreviewed_model_is_routed :
    (smallCatalog.providers.lookup "main").map (fun p => (p.models, p.baseUrl)) =
        some (["model"], "https://main.example") ∧
      plannedTargets (fun _ => none) (catalogRequest {} "main:unlisted") =
        some [("main", "unlisted", "https://main.example")] ∧
      ModelDisabled modelDisabledControls "main" "model" ∧
      plannedTargets (fun _ => none) (catalogRequest modelDisabledControls "unknown") =
        some [("main", "model", "https://main.example")] ∧
      plannedTargets (fun _ => some elsewhere) (catalogRequest {} "model") =
        some [("main", "model", "https://elsewhere.example")] := by
  unfold ModelDisabled
  decide +kernel

end

end ModelPort.Routing
