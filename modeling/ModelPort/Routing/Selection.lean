import ModelPort.Gateway.Egress
import ModelPort.Routing.SmartRouter

/-!
# Explicit selection of a provider

A client selects a provider by `provider:model`. The resolver reads the trimmed name and lets the
model be empty; the router, which decides whether other providers may follow, reads the name as it
came and wants a model. Where the two disagree the selected provider is only the first choice, and
while it is cooling down it is not even that.

* `explicit_selection_kept_iff`: when the selected provider is the only one.
* `padded_selector_leaves_provider`: a selector with a blank before it that goes elsewhere.
-/

namespace ModelPort.Routing

open Gateway (RoutePlan ClientRequest Snapshot Headers Externals History Op serve effects prepare
  prepare_ok upstreamRequests authorizedAttempts orderAttempts)

variable {request : RoutingRequest} {p m : String} {provider : ProviderConfig} {snapshot : Snapshot}

/-- The request names `p` and a model to the resolver, and no route group. -/
structure Selects (request : RoutingRequest) (p m : String) (provider : ProviderConfig) :
    Prop where
  noGroup : request.config.smartRouteGroup request.exchange.model = none
  selector : request.config.parseProviderModel (trim request.exchange.model) = some (p, m)
  configured : request.config.providers.lookup p = some provider

/-- **The plan of a selector.** -/
lemma plan_selector (env : RouterEnv) (h : Selects request p m provider) :
    ∃ evidence, plan env request = .ok ⟨staticRouteAttempts request.control request.config
      request.exchange.model ⟨p, provider, AppConfig.selectedModel provider m⟩, evidence⟩ := by
  have hstatic : plan env request = staticPlan request := by
    unfold plan
    rw [h.noGroup]
  rw [hstatic, staticPlan, AppConfig.resolve_selector h.selector h.configured]
  exact ⟨_, rfl⟩

/-- The selected provider stays alone: the router takes the name for a selector too, or no other
provider can follow. -/
def SelectionKept (request : RoutingRequest) (p m : String) (provider : ProviderConfig) : Prop :=
  isExplicitProviderSelector request.config request.exchange.model ∨
    ∀ id, CanFollow request.control request.config request.exchange.model
      (AppConfig.selectedModel provider m) id → id = p

/-- The plans of a gateway are the router's, whatever profile and session the headers name. -/
def RoutedBy (env : RouterEnv) (request : RoutingRequest) (snapshot : Snapshot) : Prop :=
  ∀ profile session, ∃ sessionHash activationKey outcomes decisionId,
    snapshot.plan profile session = plan env
      { request with
        profileOverride := profile
        sessionHash := sessionHash
        activationKey := activationKey
        outcomes := outcomes
        decisionId := decisionId }

/-- A request the gateway sends is for an attempt of some plan of the router. -/
lemma exists_planned_of_upstream {ext : Externals} {headers : Headers}
    {r : ClientRequest} {world : History → (op : Op) → op.Reply} {url : String}
    {target : ResolvedProvider} (hmem : (url, target) ∈
      upstreamRequests (effects ((serve ext snapshot headers r).run world []).2)) :
    ∃ profile session plan', snapshot.plan profile session = .ok plan' ∧
      ∃ a ∈ plan'.attempts, Gateway.Credentialed a target := by
  obtain ⟨_, -, planned, hp, -, ha, hcred⟩ := Gateway.planned_of_upstream hmem
  obtain ⟨profile, session, plan', hplan, -, hauth⟩ := (prepare_ok hp).plan
  rw [← hauth] at ha
  refine ⟨profile, session, plan', hplan, planned, ?_, hcred⟩
  -- what mode and policy leave of the attempts are attempts of the plan
  have hord := (List.mem_filter.1 ha).1
  unfold orderAttempts at hord
  split at hord
  · exact List.mem_of_mem_filter hord
  all_goals
    rcases List.mem_append.1 hord with hnear | hfar
    · exact List.mem_of_mem_filter hnear
    · exact List.mem_of_mem_filter hfar

/-- Every plan of a gateway for a selector that is kept has attempts for the provider only. -/
lemma attempts_kept {env : RouterEnv} (hselects : Selects request p m provider)
    (hkept : SelectionKept request p m provider)
    (hrout : RoutedBy env request snapshot) {profile : Option Gateway.RoutingProfile}
    {session : Option String} {plan' : RoutePlan}
    (hplan : snapshot.plan profile session = .ok plan') :
    ∀ a ∈ plan'.attempts, a.providerId = p := by
  obtain ⟨sessionHash, activationKey, outcomes, decisionId, hrouter⟩ := hrout profile session
  -- session, profile and observations do not matter for a static plan
  have hselects' : Selects { request with
      profileOverride := profile
      sessionHash := sessionHash
      activationKey := activationKey
      outcomes := outcomes
      decisionId := decisionId } p m provider :=
    ⟨hselects.noGroup, hselects.selector, hselects.configured⟩
  obtain ⟨evidence, hsel⟩ := plan_selector env hselects'
  rw [hrouter, hsel] at hplan
  cases hplan
  exact staticRouteAttempts_primary_iff.2 hkept

/-- **When an explicit selection is kept.** A selector always has a plan, with some attempt. All
its attempts are for the selected provider iff the router takes the name for a selector too, or no
other provider can follow; and then no run of the gateway sends the request to another. -/
theorem explicit_selection_kept_iff (env : RouterEnv) (request : RoutingRequest) (p m : String)
    (provider : ProviderConfig) (hselects : Selects request p m provider) :
    ∃ plan', plan env request = .ok plan' ∧ plan'.attempts ≠ [] ∧
      ((∀ a ∈ plan'.attempts, a.providerId = p) ↔ SelectionKept request p m provider) ∧
      (SelectionKept request p m provider →
        ∀ (ext : Externals) (snapshot : Snapshot) (headers : Headers)
          (world : History → (op : Op) → op.Reply), RoutedBy env request snapshot →
          ∀ url target, (url, target) ∈ upstreamRequests
              (effects ((serve ext snapshot headers request.exchange).run world []).2) →
            target.providerId = p) := by
  obtain ⟨evidence, hplan⟩ := plan_selector env hselects
  refine ⟨_, hplan, staticRouteAttempts_ne_nil, staticRouteAttempts_primary_iff, ?_⟩
  intro hkept ext snapshot headers world hrout url target hmem
  obtain ⟨profile, session, plan', hsnap, a, ha, hcred⟩ := exists_planned_of_upstream hmem
  rw [hcred.providerId]
  exact attempts_kept hselects hkept hrout hsnap a ha

section

open Gateway.Sample (clientRequest)

/-- Two providers that list the same model. -/
def twoProviders : AppConfig where
  defaultProvider := "main"
  providerOrder := ["main", "other"]
  providers := (AList.singleton "main" (Gateway.Sample.provider "https://main.example")).insert
    "other" (Gateway.Sample.provider "https://other.example")

/-- A request for a name, while the providers in `cooling` are cooling down. -/
def twoProviderRequest (requestedModel : String) (cooling : List String) : RoutingRequest where
  config := twoProviders
  control :=
    { providerInCooldown := cooling.contains
      credentialRouteAvailable := fun _ => none
      checkQuotas := fun _ _ _ => .ok ()
      routingSignals := fun _ => none }
  exchange := { clientRequest with model := requestedModel }
  profileOverride := none
  sessionHash := none
  activationKey := "key"
  outcomes := fun _ => none
  decisionId := "rtd_1"

/-- The providers of a plan. -/
def plannedProviders (request : RoutingRequest) : Option (List String) :=
  (plan ⟨fun _ => 0⟩ request).toOption.map fun plan => plan.attempts.map (·.providerId)

/-- A selector without blanks. -/
theorem explicit_selection_kept_iff_plain :
    let request := twoProviderRequest "main:model" ["main"]
    let provider := Gateway.Sample.provider "https://main.example"
    Selects request "main" "model" provider ∧
      ∃ plan', plan ⟨fun _ => 0⟩ request = .ok plan' ∧
        ((∀ a ∈ plan'.attempts, a.providerId = "main") ↔
          SelectionKept request "main" "model" provider) := by
  intro request provider
  have hselects : Selects request "main" "model" provider :=
    ⟨rfl, by decide +kernel, rfl⟩
  obtain ⟨plan', hplan, -, hiff, -⟩ :=
    explicit_selection_kept_iff ⟨fun _ => 0⟩ request "main" "model" provider hselects
  exact ⟨hselects, plan', hplan, hiff⟩

/-- **A selector that goes elsewhere.** With a blank before it, or without a model, a selector of
`main` resolves to `main`; `other` follows, and takes its place while `main` is cooling down. -/
theorem padded_selector_leaves_provider :
    twoProviders.parseProviderModel (trim " main:model") = some ("main", "model") ∧
      twoProviders.parseProviderModel (trim "main:") = some ("main", "") ∧
      plannedProviders (twoProviderRequest " main:model" []) = some ["main", "other"] ∧
      plannedProviders (twoProviderRequest " main:model" ["main"]) = some ["other"] ∧
      plannedProviders (twoProviderRequest "main:" ["main"]) = some ["other"] := by
  decide +kernel

end

end ModelPort.Routing
