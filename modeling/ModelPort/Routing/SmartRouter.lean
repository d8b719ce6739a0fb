import ModelPort.Routing.Resolver

/-!
# The smart router

The router turns a request into a plan: the attempts to make, in order, and the evidence of the
decision. A name that is an alias of a route group is planned from the group's candidates: those
that pass the gates (`candidateRejection`), in configured order or, where the route is active, by
their score. Any other name is resolved, and the providers that can serve it too follow the
resolved one (`staticRouteAttempts`). A name that selects a provider explicitly has no such
followers.

What the router asks the control store enters as `RouterControl`; digests enter as
`RouterEnv.digestHead`. Scores are exact rationals. The counters of the router's status page are
left out.
-/

namespace ModelPort.Routing

open List

open Gateway (RoutingProfile RoutePlan ClientRequest pricingForModel costWithPricing)

/-! ### What the router asks -/

/-- How often a provider was asked, and how often with success. -/
structure ProviderRoutingSignal where
  requestsTotal : ℕ
  successesTotal : ℕ

/-- What the router itself has seen of a candidate. -/
structure CandidateOutcome where
  attempts : ℕ
  latencyEwmaMs : ℚ

/-- The control store's answers. -/
structure RouterControl where
  providerInCooldown : String → Bool
  /-- whether a provider's pool of credentials has one to use; none without a pool -/
  credentialRouteAvailable : String → Option Bool
  checkQuotas : (requestedModel resolvedModel providerId : String) → Except AppError Unit
  routingSignals : String → Option ProviderRoutingSignal

/-- The first eight bytes of a SHA-256 digest, as a number. -/
structure RouterEnv where
  digestHead : String → ℕ

/-- What a plan is made from. -/
structure RoutingRequest where
  config : AppConfig
  control : RouterControl
  exchange : ClientRequest
  profileOverride : Option RoutingProfile
  sessionHash : Option String
  activationKey : String
  /-- the router's observations, by candidate -/
  outcomes : String → Option CandidateOutcome
  decisionId : String

/-! ### The gates of a route group -/

/-- Why a candidate is not eligible. -/
inductive Rejection where
  | capability
  | credential
  | disabled
  | missingProvider
  | policy
  | providerCooldown
  deriving DecidableEq

def Rejection.name : Rejection → String
  | .capability => "capability"
  | .credential => "credential"
  | .disabled => "disabled"
  | .missingProvider => "missing_provider"
  | .policy => "policy"
  | .providerCooldown => "provider_cooldown"

/-- All of them, by name. -/
def Rejection.all : List Rejection :=
  [.capability, .credential, .disabled, .missingProvider, .policy, .providerCooldown]

/-- `candidate_rejection`: the first gate that a candidate does not pass; an error if that is the
policy of the client's key. -/
def candidateRejection (request : RoutingRequest) (candidate : RouteCandidateConfig)
    (filterCooldown : Bool) : Except AppError (Option Rejection) :=
  if !candidate.enabled then .ok (some .disabled)
  else
    match request.config.providers.lookup candidate.provider with
    | none => .ok (some .missingProvider)
    | some provider =>
      let available := request.control.credentialRouteAvailable candidate.provider
      if available = some false
          ∨ (available = none ∧ provider.apiKeyRequired ∧ provider.apiKey = none) then
        .ok (some .credential)
      else if filterCooldown && request.control.providerInCooldown candidate.provider then
        .ok (some .providerCooldown)
      else if (request.exchange.validateProvider
          ⟨candidate.provider, provider, candidate.model⟩).isOk = false then
        .ok (some .capability)
      else do
        request.control.checkQuotas request.exchange.model candidate.model candidate.provider
        return none

/-- A candidate of a plan. -/
structure ScoredCandidate where
  resolved : ResolvedProvider
  quality : ℚ
  latencyHintMs : ℕ
  score : ℚ
  originalIndex : ℕ

/-- The candidate with its provider, if it passes every gate. -/
def eligibleCandidate (request : RoutingRequest) (filterCooldown : Bool)
    (candidate : RouteCandidateConfig) (originalIndex : ℕ) : Option ScoredCandidate :=
  match candidateRejection request candidate filterCooldown,
      request.config.providers.lookup candidate.provider with
  | .ok none, some provider =>
    some ⟨⟨candidate.provider, provider, candidate.model⟩, candidate.quality,
      candidate.latencyHintMs, 0, originalIndex⟩
  | _, _ => none

/-- `collect_eligible_candidates`: the candidates that pass the gates. -/
def eligibleCandidates (request : RoutingRequest) (candidates : List RouteCandidateConfig)
    (filterCooldown : Bool) : List ScoredCandidate :=
  candidates.zipIdx.filterMap fun (candidate, index) =>
    eligibleCandidate request filterCooldown candidate index

/-- The candidates rejected for a reason. -/
def rejectionCount (request : RoutingRequest) (candidates : List RouteCandidateConfig)
    (filterCooldown : Bool) (reason : Rejection) : ℕ :=
  candidates.countP fun candidate =>
    match candidateRejection request candidate filterCooldown with
    | .ok rejection => rejection = some reason
    | .error _ => reason = .policy

/-- The error of the first candidate the client's key does not allow. -/
def gateError (request : RoutingRequest) (candidates : List RouteCandidateConfig)
    (filterCooldown : Bool) : Option AppError :=
  candidates.findSome? fun candidate =>
    match candidateRejection request candidate filterCooldown with
    | .ok _ => none
    | .error e => some e

/-! ### Scores -/

/-- The name of a candidate in the router's tables. -/
def candidateKey (providerId model : String) : String := providerId ++ ":" ++ model

/-- The observed latency counts the more, the more attempts it comes from. -/
def blendLatencyHint (hintMs observedMs : ℚ) (attempts : ℕ) : ℚ :=
  let samples : ℚ := min attempts 1000
  let confidence := samples / (samples + 10)
  hintMs * (1 - confidence) + observedMs * confidence

/-- Quality, reliability, latency and cost of a candidate. -/
structure RawScore where
  quality : ℚ
  reliability : ℚ
  latency : ℚ
  cost : ℚ

/-- `u64::try_from(..).unwrap_or(u64::MAX)` of a quarter of the characters, rounded up. -/
def inputTokenEstimate (exchange : ClientRequest) : ℕ :=
  min ((exchange.serializedInputChars + 3) / 4) u64Max

def rawScore (request : RoutingRequest) (candidate : ScoredCandidate) : RawScore :=
  let resolved := candidate.resolved
  let signal := request.control.routingSignals resolved.providerId
  let attempts : ℚ := (signal.map (·.requestsTotal)).getD 0
  let successes : ℚ := (signal.map (·.successesTotal)).getD 0
  let outcome := (request.outcomes (candidateKey resolved.providerId resolved.model)).filter
    fun outcome => 0 < outcome.attempts
  { quality := candidate.quality
    reliability := (successes + 2) / (attempts + 4)
    latency := (outcome.map fun outcome =>
        blendLatencyHint candidate.latencyHintMs outcome.latencyEwmaMs outcome.attempts).getD
      candidate.latencyHintMs
    cost := costWithPricing
      { inputTokens := inputTokenEstimate request.exchange
        outputTokens := request.exchange.estimatedOutputTokens }
      (resolved.provider.pricing.getD (pricingForModel resolved.model)) }

/-- One for the least value, zero for the greatest; `2⁻⁵²` is `f64::EPSILON`. -/
def inverseNormalized (value least greatest : ℚ) : ℚ :=
  if |greatest - least| < 1 / 2 ^ 52 then 1
  else 1 - max 0 (min 1 ((value - least) / (greatest - least)))

/-- What a profile weighs. -/
structure ProfileWeights where
  quality : ℚ
  cost : ℚ
  latency : ℚ
  reliability : ℚ

def profileWeights : RoutingProfile → ProfileWeights
  | .quality => ⟨0.60, 0.10, 0.15, 0.15⟩
  | .balanced => ⟨0.35, 0.30, 0.20, 0.15⟩
  | .economy => ⟨0.15, 0.70, 0.05, 0.10⟩
  | .latency => ⟨0.20, 0.10, 0.60, 0.10⟩

/-- What a session adds to a candidate's score. -/
def sessionAffinity (env : RouterEnv) (session : Option String) (resolved : ResolvedProvider) : ℚ :=
  match session with
  | none => 0
  | some hash =>
    (env.digestHead (hash ++ "\x00" ++ resolved.providerId ++ "\x00" ++ resolved.model) : ℚ)
      / u64Max * 0.02

/-- The least of some values, with the first to begin with. -/
def leastOf (first : ℚ) (values : List ℚ) : ℚ := values.foldl min first

/-- The greatest of some values and zero. -/
def greatestOf (values : List ℚ) : ℚ := values.foldl max 0

def scoreCandidates (env : RouterEnv) (request : RoutingRequest) (profile : RoutingProfile)
    (candidates : List ScoredCandidate) : List ScoredCandidate :=
  let raws := candidates.map (rawScore request)
  let latencies := raws.map (·.latency)
  let costs := raws.map (·.cost)
  let weights := profileWeights profile
  candidates.map fun candidate =>
    let raw := rawScore request candidate
    { candidate with
      score := raw.quality * weights.quality + raw.reliability * weights.reliability
        + inverseNormalized raw.latency (leastOf raw.latency latencies) (greatestOf latencies)
          * weights.latency
        + inverseNormalized raw.cost (leastOf raw.cost costs) (greatestOf costs) * weights.cost
        + sessionAffinity env request.sessionHash candidate.resolved }

/-- The order of the scored candidates: the better score first, then the configured order. -/
def ScoredCandidate.before (a b : ScoredCandidate) : Bool :=
  b.score < a.score || (a.score = b.score && a.originalIndex ≤ b.originalIndex)

/-! ### Plans -/

/-- A name that the router takes for an explicit choice of a provider. -/
def isExplicitProviderSelector (config : AppConfig) (requestedModel : String) : Bool :=
  match splitOnce ':' requestedModel with
  | none => false
  | some (providerId, model) => !model.isEmpty && (config.providers.lookup providerId).isSome

/-- A provider can be asked for a model. -/
def servesModel (provider : ProviderConfig) (model : String) : Bool :=
  provider.models.contains model || provider.modelPrefixes.any (startsWith model)
    || provider.passthroughUnknownModels

/-- The model a fallback provider is asked for: the requested one, or the resolved one. -/
def fallbackModelForProvider (provider : ProviderConfig) (requestedModel primaryModel : String) :
    Option String :=
  [requestedModel, primaryModel].find? (servesModel provider)

/-- A provider in the order, as a fallback for the primary. -/
def fallbackAttempt (control : RouterControl) (config : AppConfig) (requestedModel : String)
    (primary : ResolvedProvider) (providerId : String) : Option ResolvedProvider :=
  if providerId = primary.providerId ∨ control.providerInCooldown providerId then none
  else
    match config.providers.lookup providerId with
    | none => none
    | some provider =>
      (fallbackModelForProvider provider requestedModel primary.model).map
        (⟨providerId, provider, ·⟩)

/-- The attempts after the primary. -/
def fallbackAttempts (control : RouterControl) (config : AppConfig) (requestedModel : String)
    (primary : ResolvedProvider) : List ResolvedProvider :=
  config.providerOrder.filterMap (fallbackAttempt control config requestedModel primary)

/-- The primary unless it is cooling, and the attempts after it. -/
def openAttempts (control : RouterControl) (config : AppConfig) (requestedModel : String)
    (primary : ResolvedProvider) : List ResolvedProvider :=
  (if control.providerInCooldown primary.providerId then [] else [primary])
    ++ fallbackAttempts control config requestedModel primary

def staticRouteAttempts (control : RouterControl) (config : AppConfig) (requestedModel : String)
    (primary : ResolvedProvider) : List ResolvedProvider :=
  if isExplicitProviderSelector config requestedModel then [primary]
  else if (openAttempts control config requestedModel primary).isEmpty then [primary]
  else openAttempts control config requestedModel primary

/-- The evidence of a static plan. -/
def staticEvidence (request : RoutingRequest) (attempts : List ResolvedProvider)
    (selected : ResolvedProvider) : RoutingDecisionEvidence where
  decisionId := request.decisionId
  groupId := none
  profile := "explicit"
  policyVersion := "static-v1"
  mode := "static"
  candidateCount := attempts.length
  selectedProvider := selected.providerId
  selectedModel := selected.model
  recommendedProvider := selected.providerId
  recommendedModel := selected.model
  selectedScore := 1
  recommendedScore := 1
  reasonCodes :=
    if isExplicitProviderSelector request.config request.exchange.model then
      ["explicit_provider_model"]
    else ["deterministic_resolution", "configured_provider_order"]
  sessionAffinity := false
  shadowDisagreement := false

def staticPlan (request : RoutingRequest) : Except AppError RoutePlan := do
  let primary ← request.config.resolve request.exchange.model
  let attempts := staticRouteAttempts request.control request.config request.exchange.model primary
  return ⟨attempts, staticEvidence request attempts (attempts.headD primary)⟩

/-- The name of a profile in the evidence. -/
def profileName : RoutingProfile → String
  | .quality => "quality"
  | .balanced => "balanced"
  | .economy => "economy"
  | .latency => "latency"

/-- The profile a group is planned by. -/
def effectiveProfile (request : RoutingRequest) (group : RouteGroupConfig) : RoutingProfile :=
  (request.profileOverride.or group.defaultProfile).getD request.config.smartRouting.defaultProfile

/-- The cooldown gate is dropped if it was one of those that left no candidate. -/
def usesCoolingFallback (request : RoutingRequest) (group : RouteGroupConfig) : Bool :=
  (eligibleCandidates request group.candidates true).isEmpty
    && 0 < rejectionCount request group.candidates true .providerCooldown

/-- The error when a group has no eligible candidate. -/
def noCandidateError (request : RoutingRequest) (groupId : String) (group : RouteGroupConfig)
    (filterCooldown : Bool) : AppError :=
  match gateError request group.candidates filterCooldown with
  | some e => e
  | none =>
    let credential := rejectionCount request group.candidates filterCooldown .credential
    let disabled := rejectionCount request group.candidates filterCooldown .disabled
    if 0 < credential ∧ credential + disabled = group.candidates.length then
      .notReady ("smart route group `" ++ groupId ++ "` has no credential-ready candidate")
    else .providerNotFound ("smart route group `" ++ groupId ++ "` has no eligible candidate")

/-- The route of this request follows the scores. -/
def routeIsActive (env : RouterEnv) (request : RoutingRequest) : Bool :=
  request.config.smartRouting.mode = .active
    && env.digestHead request.activationKey % 100 < request.config.smartRouting.activationPercent

/-- The name of the mode in the evidence. -/
def planMode (env : RouterEnv) (request : RoutingRequest) : String :=
  match request.config.smartRouting.mode with
  | .shadow => "shadow"
  | .active => if routeIsActive env request then "active" else "canary_control"
  | .off => "off_static"

/-- The reasons a group plan gives. -/
def reasonCodes (env : RouterEnv) (request : RoutingRequest) (group : RouteGroupConfig) :
    List String :=
  let cooling := usesCoolingFallback request group
  ["profile_" ++ profileName (effectiveProfile request group), "quality_prior", "expected_cost",
    "latency_hint", "runtime_reliability"]
  ++ (if request.sessionHash.isSome then ["session_affinity"] else [])
  ++ (if cooling then ["all_candidates_cooling"]
      else if 0 < rejectionCount request group.candidates true .providerCooldown then
        ["provider_cooldown_filtered"]
      else [])
  ++ (if request.config.smartRouting.mode = .off then ["smart_routing_off"]
      else if !routeIsActive env request then
        [if request.config.smartRouting.mode = .shadow then "shadow_no_route_change"
         else "canary_control_no_route_change"]
      else [])
  ++ ((Rejection.all.filter fun reason =>
        0 < rejectionCount request group.candidates (!cooling) reason).take 3).map
      fun reason => "filtered_" ++ reason.name

/-- A score as the evidence shows it, to four digits, half away from zero. -/
def roundScore (score : ℚ) : ℚ :=
  let scaled := score * 10000
  (if 0 ≤ scaled then ((⌊scaled + 1 / 2⌋ : ℤ) : ℚ) else ((⌈scaled - 1 / 2⌉ : ℤ) : ℚ)) / 10000

/-- The plan from the candidates that passed the gates. -/
def planFrom (env : RouterEnv) (request : RoutingRequest) (groupId : String)
    (group : RouteGroupConfig) (eligible : List ScoredCandidate) (best : ScoredCandidate)
    (scored : List ScoredCandidate) (first : ResolvedProvider) : RoutePlan :=
  let attempts := (if routeIsActive env request then scored else eligible).map (·.resolved)
  let mode := planMode env request
  let isFirst := fun (candidate : ScoredCandidate) =>
    candidate.resolved.providerId = first.providerId && candidate.resolved.model = first.model
  ⟨attempts,
    { decisionId := request.decisionId
      groupId := some groupId
      profile := profileName (effectiveProfile request group)
      policyVersion := request.config.smartRouting.policyVersion
      mode := mode
      candidateCount := eligible.length
      selectedProvider := first.providerId
      selectedModel := first.model
      recommendedProvider := best.resolved.providerId
      recommendedModel := best.resolved.model
      selectedScore := roundScore (((scored.find? isFirst).map (·.score)).getD 0)
      recommendedScore := roundScore best.score
      reasonCodes := reasonCodes env request group
      sessionAffinity := request.sessionHash.isSome
      shadowDisagreement := (mode = "shadow" || mode = "canary_control")
        && (first.providerId ≠ best.resolved.providerId || first.model ≠ best.resolved.model) }⟩

/-- The candidates a plan is made from: those that pass the gates, or all but the cooldown
gate. -/
def planCandidates (request : RoutingRequest) (group : RouteGroupConfig) : List ScoredCandidate :=
  eligibleCandidates request group.candidates (!usesCoolingFallback request group)

/-- The same, the best first. -/
def rankedCandidates (env : RouterEnv) (request : RoutingRequest) (group : RouteGroupConfig) :
    List ScoredCandidate :=
  (scoreCandidates env request (effectiveProfile request group)
    (planCandidates request group)).insertionSort fun a b => a.before b

/-- The plan of a request for a route group. -/
def groupPlan (env : RouterEnv) (request : RoutingRequest) (groupId : String)
    (group : RouteGroupConfig) : Except AppError RoutePlan :=
  match rankedCandidates env request group, planCandidates request group with
  | best :: rest, first :: more =>
    .ok (planFrom env request groupId group (first :: more) best (best :: rest)
      (if routeIsActive env request then best.resolved else first.resolved))
  | _, _ => .error (noCandidateError request groupId group (!usesCoolingFallback request group))

/-- **The plan of a request.** -/
def plan (env : RouterEnv) (request : RoutingRequest) : Except AppError RoutePlan :=
  match request.config.smartRouteGroup request.exchange.model with
  | none => staticPlan request
  | some (groupId, group) => groupPlan env request groupId group

/-! ### Static plans -/

section

variable {control : RouterControl} {config : AppConfig} {requestedModel : String}
  {primary a : ResolvedProvider}

/-- A provider that may follow the primary: it is in the order, not cooling, configured, and can
be asked for the requested or the resolved model. -/
def CanFollow (control : RouterControl) (config : AppConfig) (requestedModel primaryModel : String)
    (providerId : String) : Prop :=
  providerId ∈ config.providerOrder ∧ control.providerInCooldown providerId = false ∧
    ∃ provider, config.providers.lookup providerId = some provider ∧
      (servesModel provider requestedModel ∨ servesModel provider primaryModel)

lemma fallbackModelForProvider_isSome {provider : ProviderConfig} {primaryModel : String} :
    (fallbackModelForProvider provider requestedModel primaryModel).isSome ↔
      servesModel provider requestedModel ∨ servesModel provider primaryModel := by
  simp [fallbackModelForProvider]

/-- The fallback attempts name configured providers other than the primary. -/
lemma mem_fallbackAttempts : a ∈ fallbackAttempts control config requestedModel primary ↔
      a.providerId ∈ config.providerOrder ∧ a.providerId ≠ primary.providerId ∧
        control.providerInCooldown a.providerId = false ∧
        config.providers.lookup a.providerId = some a.provider ∧
        fallbackModelForProvider a.provider requestedModel primary.model = some a.model := by
  unfold fallbackAttempts
  rw [mem_filterMap]
  constructor
  · rintro ⟨id, hid, hatt⟩
    unfold fallbackAttempt at hatt
    split_ifs at hatt with hskip
    rw [not_or] at hskip
    split at hatt
    · cases hatt
    · rename_i provider hprov
      obtain ⟨model, hmodel, rfl⟩ := Option.map_eq_some_iff.1 hatt
      exact ⟨hid, hskip.1, Bool.eq_false_iff.2 hskip.2, hprov, hmodel⟩
  · rintro ⟨hid, hne, hcool, hprov, hmodel⟩
    refine ⟨a.providerId, hid, ?_⟩
    unfold fallbackAttempt
    rw [if_neg (by simp [hne, hcool]), hprov]
    exact Option.map_eq_some_iff.2 ⟨a.model, hmodel, rfl⟩

lemma exists_fallback_iff {p : String} :
    (∃ a ∈ fallbackAttempts control config requestedModel primary, a.providerId = p) ↔
      p ≠ primary.providerId ∧ CanFollow control config requestedModel primary.model p := by
  constructor
  · rintro ⟨a, ha, rfl⟩
    obtain ⟨hid, hne, hcool, hprov, hmodel⟩ := mem_fallbackAttempts.1 ha
    refine ⟨hne, hid, hcool, a.provider, hprov, ?_⟩
    exact fallbackModelForProvider_isSome.1 (Option.isSome_of_eq_some hmodel)
  · rintro ⟨hne, hid, hcool, provider, hprov, hserv⟩
    obtain ⟨model, hmodel⟩ :=
      Option.isSome_iff_exists.1 (fallbackModelForProvider_isSome.2 hserv)
    exact ⟨⟨p, provider, model⟩, mem_fallbackAttempts.2 ⟨hid, hne, hcool, hprov, hmodel⟩, rfl⟩

lemma staticRouteAttempts_ne_nil :
    staticRouteAttempts control config requestedModel primary ≠ [] := by
  unfold staticRouteAttempts
  split_ifs with hexpl hempty
  · exact cons_ne_nil _ _
  · exact cons_ne_nil _ _
  · rwa [List.isEmpty_iff] at hempty

lemma fallbackAttempts_eq_nil_iff : fallbackAttempts control config requestedModel primary = [] ↔
      ∀ id, CanFollow control config requestedModel primary.model id → id = primary.providerId := by
  constructor
  · intro hnil id hfoll
    by_contra hne
    obtain ⟨a, ha, -⟩ := exists_fallback_iff.2 ⟨hne, hfoll⟩
    rw [hnil] at ha
    cases ha
  · intro hnone
    refine eq_nil_iff_forall_not_mem.2 fun a ha => ?_
    obtain ⟨hne, hfoll⟩ := exists_fallback_iff.1 ⟨a, ha, rfl⟩
    exact hne (hnone _ hfoll)

/-- The primary is tried: it was chosen explicitly, or is not cooling, or nothing follows. -/
def PrimaryTried (control : RouterControl) (config : AppConfig) (requestedModel : String)
    (primary : ResolvedProvider) : Prop :=
  isExplicitProviderSelector config requestedModel ∨
    control.providerInCooldown primary.providerId = false ∨
    ∀ id, CanFollow control config requestedModel primary.model id → id = primary.providerId

/-- **The attempts of a static plan**: the primary if it is tried, and what follows unless the
name was explicit. -/
lemma mem_staticRouteAttempts : a ∈ staticRouteAttempts control config requestedModel primary ↔
      (a = primary ∧ PrimaryTried control config requestedModel primary) ∨
        (isExplicitProviderSelector config requestedModel = false ∧
          a ∈ fallbackAttempts control config requestedModel primary) := by
  unfold staticRouteAttempts PrimaryTried
  by_cases hexpl : isExplicitProviderSelector config requestedModel
  · simp [hexpl]
  · simp only [← fallbackAttempts_eq_nil_iff, hexpl]
    unfold openAttempts
    by_cases hcool : control.providerInCooldown primary.providerId
    · cases hfb : fallbackAttempts control config requestedModel primary with
      | nil => simp [hcool]
      | cons b rest => simp [hcool]
    · simp [hcool]

/-- **All attempts are the primary's** iff the name was explicit or no other provider can
follow. -/
lemma staticRouteAttempts_primary_iff :
    (∀ a ∈ staticRouteAttempts control config requestedModel primary,
        a.providerId = primary.providerId) ↔
      isExplicitProviderSelector config requestedModel ∨
        ∀ id, CanFollow control config requestedModel primary.model id →
          id = primary.providerId := by
  constructor
  · intro hall
    by_cases hexpl : isExplicitProviderSelector config requestedModel
    · exact .inl hexpl
    · refine .inr fun id hfoll => ?_
      by_contra hne
      obtain ⟨a, ha, rfl⟩ := exists_fallback_iff.2 ⟨hne, hfoll⟩
      exact hne (hall a (mem_staticRouteAttempts.2 (.inr ⟨by simpa using hexpl, ha⟩)))
  · intro hcond a ha
    rcases mem_staticRouteAttempts.1 ha with ⟨rfl, -⟩ | ⟨hexpl, hfb⟩
    · rfl
    · rcases hcond with hsel | hnone
      · rw [hexpl] at hsel
        cases hsel
      · obtain ⟨hne, hfoll⟩ := exists_fallback_iff.1 ⟨a, hfb, rfl⟩
        exact absurd (hnone _ hfoll) hne

end

/-! ### Group plans -/

section

variable {env : RouterEnv} {request : RoutingRequest} {groupId : String} {group : RouteGroupConfig}
  {filterCooldown : Bool} {a : ResolvedProvider}

/-- A candidate that passes the gates, as an attempt. -/
structure Passes (request : RoutingRequest) (filterCooldown : Bool)
    (candidate : RouteCandidateConfig) (a : ResolvedProvider) : Prop where
  gates : candidateRejection request candidate filterCooldown = .ok none
  providerId : a.providerId = candidate.provider
  provider : request.config.providers.lookup candidate.provider = some a.provider
  model : a.model = candidate.model

lemma lookup_of_gates {candidate : RouteCandidateConfig}
    (h : candidateRejection request candidate filterCooldown = .ok none) :
    ∃ provider, request.config.providers.lookup candidate.provider = some provider := by
  cases hlook : request.config.providers.lookup candidate.provider with
  | some provider => exact ⟨provider, rfl⟩
  | none =>
    unfold candidateRejection at h
    rw [hlook] at h
    by_cases hon : (!candidate.enabled)
    · rw [if_pos hon] at h
      cases h
    · rw [if_neg hon] at h
      cases h

lemma mem_eligibleCandidates {candidates : List RouteCandidateConfig} :
    a ∈ (eligibleCandidates request candidates filterCooldown).map (·.resolved) ↔
      ∃ candidate ∈ candidates, Passes request filterCooldown candidate a := by
  rw [mem_map]
  constructor
  · rintro ⟨scored, hscored, rfl⟩
    obtain ⟨⟨candidate, index⟩, hmem, helig⟩ := mem_filterMap.1 hscored
    refine ⟨candidate, fst_mem_of_mem_zipIdx hmem, ?_⟩
    simp only [eligibleCandidate] at helig
    split at helig
    · rename_i provider hgates hprov
      cases helig
      exact ⟨hgates, rfl, hprov, rfl⟩
    · cases helig
  · rintro ⟨candidate, hmem, hgates, hid, hprov, hmodel⟩
    obtain ⟨index, hindex, rfl⟩ := mem_iff_getElem.1 hmem
    obtain ⟨scored, hscored, heq⟩ : ∃ scored, eligibleCandidate request filterCooldown
        candidates[index] index = some scored ∧ scored.resolved = a := by
      rw [eligibleCandidate, hgates, hprov]
      refine ⟨_, rfl, ?_⟩
      cases a
      simp_all
    refine ⟨scored, mem_filterMap.2 ⟨(candidates[index], index), ?_, hscored⟩, heq⟩
    exact mem_zipIdx_iff_getElem?.2 (List.getElem?_eq_getElem hindex)

/-- **The attempts of a group plan** are the candidates that pass, with the cooldown gate dropped
only if it left none. -/
lemma mem_groupPlan {plan' : RoutePlan} (h : groupPlan env request groupId group = .ok plan') :
    a ∈ plan'.attempts ↔
      ∃ candidate ∈ group.candidates, Passes request (!usesCoolingFallback request group)
        candidate a := by
  have hperm : ((rankedCandidates env request group).map (·.resolved)).Perm
      ((planCandidates request group).map (·.resolved)) := by
    have hsort := (perm_insertionSort (fun a b => ScoredCandidate.before a b)
      (scoreCandidates env request (effectiveProfile request group)
        (planCandidates request group))).map (·.resolved)
    have hscores : ∀ scored, (scoreCandidates env request (effectiveProfile request group)
        scored).map (·.resolved) = scored.map (·.resolved) := fun _ => by simp [scoreCandidates]
    rwa [hscores] at hsort
  have helig : a ∈ (planCandidates request group).map (·.resolved) ↔ _ :=
    mem_eligibleCandidates
  rw [← helig]
  unfold groupPlan at h
  split at h
  · rename_i best rest first more hranked hplan
    cases h
    rw [hranked, hplan] at hperm
    rw [hplan, planFrom]
    by_cases hact : routeIsActive env request
    · simp only [hact]
      exact hperm.mem_iff
    · simp only [hact]
      rfl
  · cases h

end

end ModelPort.Routing
