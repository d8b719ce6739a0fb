import ModelPort.Gateway.Governance
import ModelPort.Gateway.Pricing
import ModelPort.Lib.Except

/-!
# The edge: from an arriving request to authorized attempts

`prepare` is the first half of `handle_inference`: authentication, validation of body and
headers, tenant scope, classification and mode, routing, and the project's policy, in the
source's order. It asks the stores each of its questions once; their answers stand in a
`Snapshot`. It makes no call to a provider or to the ledger.

What the JSON of a body contains beyond the fields used here (messages, tools, system text) is
represented by the outcome of its checks.

* `prepare_ok`: what is known of a request that passes.
-/

namespace ModelPort.Gateway

open Routing

/-! ### Functions of libraries -/

/-- Functions of libraries outside the repository. -/
structure Externals where
  /-- the host of a URL, `Url::parse(..).host_str()` -/
  urlHost : String → Option String
  /-- a text that `HeaderValue::from_str` accepts -/
  headerValueOk : String → Bool
  /-- the SHA-256 digest of a text, in hexadecimal -/
  sha256Hex : String → String

/-! ### Requests -/

/-- The protocol a client speaks. -/
inductive ClientProtocol where
  | anthropicMessages
  | openAiChatCompletions
  deriving DecidableEq

def ClientProtocol.asStr : ClientProtocol → String
  | .anthropicMessages => "anthropic-messages"
  | .openAiChatCompletions => "openai-chat-completions"

/-- The path of the route that takes requests of a protocol. -/
def ClientProtocol.requestPath : ClientProtocol → String
  | .anthropicMessages => "/v1/messages"
  | .openAiChatCompletions => "/v1/chat/completions"

/-- A request body. -/
structure ClientRequest where
  protocol : ClientProtocol
  model : String
  maxTokens : Option ℕ
  /-- only an OpenAI body has this field -/
  maxCompletionTokens : Option ℕ
  stream : Option Bool
  /-- the outcome of the checks on the number of messages -/
  messagesCheck : Except AppError Unit
  /-- the outcome of the checks on the sizes and shapes of messages, system text and tools -/
  contentCheck : Except AppError Unit
  /-- the outcome of `ExchangeRequest::from_client` -/
  exchangeCheck : Except AppError Unit
  /-- the body as it is serialized for the fingerprint -/
  serialized : Except AppError String
  serializedInputChars : ℕ
  usesTools : Bool
  hasToolResults : Bool
  thinkingDisabled : Bool
  /-- `validate_provider`: whether a provider has the capabilities the request needs -/
  validateProvider : ResolvedProvider → Except AppError Unit

namespace ClientRequest

variable (r : ClientRequest)

/-- The request came in through the Anthropic route. -/
def isAnthropicClient : Bool := r.protocol = .anthropicMessages

/-- The output tokens a request asks for, if it says so. -/
def maxOutputTokens : Option ℕ :=
  match r.protocol with
  | .anthropicMessages => r.maxTokens
  | .openAiChatCompletions => r.maxCompletionTokens.or r.maxTokens

/-- The output tokens a request is taken to ask for. -/
def estimatedOutputTokens : ℕ := r.maxOutputTokens.getD 4096

def isStream : Bool := r.stream.getD false

/-- The fingerprint that idempotent repetitions are compared by. -/
def requestFingerprint (ext : Externals) (r : ClientRequest) : Except AppError String := do
  let body ← r.serialized
  return ext.sha256Hex (r.protocol.asStr ++ "\x00" ++ body)

end ClientRequest

/-- The limits of the edge that the environment sets. -/
structure EdgeLimits where
  maxModelNameChars : ℕ := 240
  maxOutputTokens : ℕ := 131072

variable (limits : EdgeLimits)

/-- The checks on the model's name. -/
def validateModelName (model : String) : Except AppError Unit :=
  if (trim model).isEmpty then .error (.invalidRequest "model is required")
  else if limits.maxModelNameChars < model.length then
    .error (.invalidRequest
      ("model is too long; max=" ++ toString limits.maxModelNameChars ++ " chars"))
  else .ok ()

/-- The checks on an Anthropic body. -/
def validateMessageRequest (r : ClientRequest) : Except AppError Unit := do
  validateModelName limits r.model
  r.messagesCheck
  r.contentCheck
  match r.maxTokens with
  | none => .error (.invalidRequest "max_tokens is required")
  | some n =>
    if n = 0 then .error (.invalidRequest "max_tokens must be greater than 0")
    else if limits.maxOutputTokens < n then
      .error (.invalidRequest
        ("max_tokens exceeds configured limit; max=" ++ toString limits.maxOutputTokens))
    else .ok ()

/-- The checks on an OpenAI body. -/
def validateOpenaiChatRequest (r : ClientRequest) : Except AppError Unit := do
  validateModelName limits r.model
  r.messagesCheck
  if (r.maxCompletionTokens.or r.maxTokens).any (limits.maxOutputTokens < ·) then
    .error (.invalidRequest
      ("max_completion_tokens/max_tokens exceeds configured limit; max="
        ++ toString limits.maxOutputTokens))
  else .ok ()
  r.contentCheck

def validateBody (r : ClientRequest) : Except AppError Unit :=
  match r.protocol with
  | .anthropicMessages => validateMessageRequest limits r
  | .openAiChatCompletions => validateOpenaiChatRequest limits r

/-! ### Headers -/

/-- A header: absent, present but not visible ASCII (`some none`), or a text. -/
abbrev Header := Option (Option String)

/-- The headers that are read. -/
structure Headers where
  idempotencyKey : Header := none
  trafficClass : Header := none
  requestId : Header := none
  dataClassification : Header := none
  hybridMode : Header := none
  routingProfile : Header := none
  sessionId : Header := none
  organizationId : Header := none
  projectId : Header := none
  environmentId : Header := none

/-- A byte of printable ASCII that is not a blank. -/
def isVisibleAscii (c : Char) : Bool := 0x21 ≤ c.toNat && c.toNat ≤ 0x7e

def requestIdempotencyKey : Header → Except AppError (Option String)
  | none => .ok none
  | some none => .error (.invalidRequest "Idempotency-Key must be ASCII")
  | some (some value) =>
    let value := trim value
    if value.isEmpty || 200 < byteLen value then
      .error (.invalidRequest "Idempotency-Key must contain 1 to 200 visible ASCII characters")
    else if !value.toList.all isVisibleAscii then
      .error (.invalidRequest
        "Idempotency-Key must contain only visible ASCII characters without whitespace")
    else .ok (some value)

def requestTrafficClass : Header → Except AppError String
  | none => .ok "business"
  | some none => .error (.invalidRequest "traffic class must be ASCII")
  | some (some value) =>
    match asciiLower (trim value) with
    | "business" => .ok "business"
    | "batch" => .ok "batch"
    | "synthetic" => .ok "synthetic"
    | "diagnostic" => .ok "diagnostic"
    | _ => .error (.invalidRequest
        "x-modelport-traffic-class must be business, batch, synthetic, or diagnostic")

/-- `request_routing_header`: a bounded header; a blank one counts as absent. -/
def requestRoutingHeader (label : String) (maxLen : ℕ) : Header → Except AppError (Option String)
  | none => .ok none
  | some none => .error (.invalidRequest (label ++ " must be ASCII"))
  | some (some value) =>
    let value := trim value
    if value.isEmpty then .ok none
    else if maxLen < byteLen value || hasControl value then
      .error (.invalidRequest
        (label ++ " must contain at most " ++ toString maxLen ++ " non-control bytes"))
    else .ok (some value)

def validTenantIdentifier (value : String) : Bool :=
  !value.isEmpty && byteLen value ≤ 128
    && value.toList.all fun c => c.isAlphanum || c = '.' || c = '_' || c = ':' || c = '-'

/-- One of the tenant scope headers. -/
def tenantHeader : Header → Except AppError (Option String)
  | none => .ok none
  | some none => .error (.invalidRequest "ModelPort tenant scope headers must be ASCII")
  | some (some value) =>
    let value := trim value
    if validTenantIdentifier value then .ok (some value)
    else .error (.invalidRequest "ModelPort tenant scope headers contain an invalid identifier")

/-- `request_tenant_scope`: the tenant the key is bound to; headers may only repeat it. -/
def requestTenantScope (headers : Headers) (bound : TenantKey) : Except AppError TenantKey := do
  let organizationId ← tenantHeader headers.organizationId
  let projectId ← tenantHeader headers.projectId
  let environmentId ← tenantHeader headers.environmentId
  match organizationId, projectId, environmentId with
  | none, none, none => .ok bound
  | some organizationId, some projectId, some environmentId =>
    if organizationId = bound.organizationId ∧ projectId = bound.projectId
        ∧ environmentId = bound.environmentId then .ok bound
    else .error (.forbidden "requested ModelPort tenant scope is not bound to this API key")
  | _, _, _ => .error (.invalidRequest
      ("x-modelport-organization-id, x-modelport-project-id, and x-modelport-environment-id "
        ++ "must be supplied together"))

/-- `RequestId::from_external_or_new`. -/
def requestIdFromExternalOrNew (fresh : String) : Header → String
  | some (some value) =>
    let value := trim value
    if !value.isEmpty && byteLen value ≤ 256 then value else fresh
  | _ => fresh

/-- What routing weighs most. -/
inductive RoutingProfile where
  | quality
  | balanced
  | economy
  | latency
  deriving DecidableEq

def RoutingProfile.parse (value : String) : Option RoutingProfile :=
  match asciiLower (trim value) with
  | "quality" => some .quality
  | "balanced" => some .balanced
  | "economy" => some .economy
  | "latency" => some .latency
  | _ => none

/-- A header whose text must be one of a set of names. -/
def parseHeader {α : Type} (parse : String → Option α) (label message : String)
    (header : Header) : Except AppError (Option α) := do
  match ← requestRoutingHeader label 32 header with
  | none => .ok none
  | some value =>
    match parse value with
    | some a => .ok (some a)
    | none => .error (.invalidRequest message)

def classificationHeader : Header → Except AppError (Option DataClassification) :=
  parseHeader DataClassification.parse "x-modelport-data-classification"
    "x-modelport-data-classification must be unknown, sensitive, internal, or public"

def hybridModeHeader : Header → Except AppError (Option HybridMode) :=
  parseHeader HybridMode.parse "x-modelport-hybrid-mode"
    "x-modelport-hybrid-mode must be local_strict, local_first, balanced, or cloud_first"

/-- The profile a routing profile header names. -/
def parseRoutingProfile : Option String → Except AppError (Option RoutingProfile)
  | none => .ok none
  | some value =>
    match RoutingProfile.parse value with
    | some profile => .ok (some profile)
    | none => .error (.invalidRequest
        "x-modelport-routing-profile must be quality, balanced, economy, or latency")

/-! ### What the stores answer -/

/-- The authenticated client, as far as handler and ledger use it. -/
structure ClientIdentity where
  userId : String
  username : String
  apiKeyId : Option String
  quotaSubjectId : Option String
  apiKeyName : Option String
  apiKeyGroup : Option String
  teamId : Option String
  teamName : Option String
  deriving DecidableEq

/-- A route plan of the router. -/
structure RoutePlan where
  attempts : List ResolvedProvider
  evidence : RoutingDecisionEvidence

/-- What the stores answer to the questions of one request. -/
structure Snapshot where
  limits : EdgeLimits := {}
  draining : Bool := false
  identity : Except AppError ClientIdentity
  boundTenant : Except AppError TenantKey
  policy : TenantKey → ProjectPolicy
  /-- the router's plan, by the routing profile and the session the headers name -/
  plan : Option RoutingProfile → Option String → Except AppError RoutePlan
  freshRequestId : String
  clientIp : Option String

/-! ### Preparation -/

/-- A request that has passed the edge, with the attempts it may make. -/
structure Prepared where
  request : ClientRequest
  identity : ClientIdentity
  idempotencyKey : Option String
  fingerprint : String
  clientIp : Option String
  trafficClass : String
  tenant : TenantKey
  requestId : String
  policy : ProjectPolicy
  classification : DataClassification
  mode : HybridMode
  evidence : RoutingDecisionEvidence
  /-- the first authorized attempt -/
  resolved : ResolvedProvider
  /-- the others -/
  fallbacks : List ResolvedProvider

/-- The attempts the request may make. -/
def Prepared.authorized (p : Prepared) : List ResolvedProvider := p.resolved :: p.fallbacks

/-- The workload class the local scheduler queues the request in. -/
def Prepared.workload (p : Prepared) : WorkloadClass :=
  (WorkloadClass.parse p.trafficClass).getD .interactive

/-- The first attempt the policy refuses, with the refusal. -/
def firstPolicyError (urlHost : String → Option String) (policy : ProjectPolicy)
    (attempts : List ResolvedProvider) : Option AppError :=
  attempts.findSome? fun a =>
    match policy.enforceAttempt urlHost a with
    | .ok _ => none
    | .error e => some e

/-- The attempts that the mode and the policy leave. -/
def authorizedAttempts (urlHost : String → Option String) (policy : ProjectPolicy)
    (mode : HybridMode) (attempts : List ResolvedProvider) : List ResolvedProvider :=
  (orderAttempts urlHost attempts mode).filter fun a =>
    (policy.enforceAttempt urlHost a).isOk

def ensureAcceptingInference (snapshot : Snapshot) : Except AppError Unit :=
  if snapshot.draining then
    .error (.notReady "gateway is draining and is not accepting new inference requests")
  else .ok ()

/-- The first half of `handle_inference`: up to the choice of the first attempt. -/
def prepare (ext : Externals) (snapshot : Snapshot) (headers : Headers)
    (request : ClientRequest) : Except AppError Prepared := do
  ensureAcceptingInference snapshot
  let identity ← snapshot.identity
  validateBody snapshot.limits request
  request.exchangeCheck
  let idempotencyKey ← requestIdempotencyKey headers.idempotencyKey
  let fingerprint ← request.requestFingerprint ext
  let trafficClass ← requestTrafficClass headers.trafficClass
  let bound ← snapshot.boundTenant
  let tenant ← requestTenantScope headers bound
  let policy := snapshot.policy tenant
  let classification ← classificationHeader headers.dataClassification
  let classification := classification.getD policy.defaultClassification
  let requestedMode ← hybridModeHeader headers.hybridMode
  let mode ← policy.effectiveMode requestedMode classification
  let profile ← requestRoutingHeader "x-modelport-routing-profile" 32 headers.routingProfile
  let sessionId ← requestRoutingHeader "x-modelport-session-id" 128 headers.sessionId
  let profile ← parseRoutingProfile profile
  let plan ← snapshot.plan profile sessionId
  let ordered := orderAttempts ext.urlHost plan.attempts mode
  match authorizedAttempts ext.urlHost policy mode plan.attempts with
  | [] =>
    .error ((firstPolicyError ext.urlHost policy ordered).getD
      (.providerNotFound
        ("no " ++ mode.asStr ++ " provider is authorized for this project")))
  | resolved :: fallbacks =>
    .ok {
      request := request
      identity := identity
      idempotencyKey := idempotencyKey
      fingerprint := fingerprint
      clientIp := snapshot.clientIp
      trafficClass := trafficClass
      tenant := tenant
      requestId := requestIdFromExternalOrNew snapshot.freshRequestId headers.requestId
      policy := policy
      classification := classification
      mode := mode
      evidence := plan.evidence
      resolved := resolved
      fallbacks := fallbacks }

/-- What is known of a request that has passed the edge. -/
structure PreparedBy (ext : Externals) (snapshot : Snapshot) (headers : Headers)
    (request : ClientRequest) (p : Prepared) : Prop where
  requested : p.request = request
  identity : snapshot.identity = .ok p.identity
  body : validateBody snapshot.limits request = .ok ()
  idempotencyKey : requestIdempotencyKey headers.idempotencyKey = .ok p.idempotencyKey
  fingerprint : request.requestFingerprint ext = .ok p.fingerprint
  trafficClass : requestTrafficClass headers.trafficClass = .ok p.trafficClass
  clientIp : p.clientIp = snapshot.clientIp
  requestId : p.requestId = requestIdFromExternalOrNew snapshot.freshRequestId headers.requestId
  policy : p.policy = snapshot.policy p.tenant
  classification : ∃ named, classificationHeader headers.dataClassification = .ok named ∧
    p.classification = named.getD p.policy.defaultClassification
  mode : ∃ requested, hybridModeHeader headers.hybridMode = .ok requested ∧
    p.policy.effectiveMode requested p.classification = .ok p.mode
  plan : ∃ profile session plan, snapshot.plan profile session = .ok plan ∧
    p.evidence = plan.evidence ∧
    authorizedAttempts ext.urlHost p.policy p.mode plan.attempts = p.authorized

lemma prepare_ok {ext : Externals} {snapshot : Snapshot} {headers : Headers}
    {request : ClientRequest} {p : Prepared} (hok : prepare ext snapshot headers request = .ok p) :
    PreparedBy ext snapshot headers request p := by
  unfold prepare at hok
  simp only [Except.bind_eq_ok] at hok
  obtain ⟨_, _, identity, hident, _, hbody, _, _, key, hkey, fingerprint, hfingerprint,
    trafficClass, htraffic, bound, _, tenant, _, named, hnamed, requested, hreq, mode, hmode,
    profileText, _, session, _, profile, _, plan, hplan, hok⟩ := hok
  rcases hauth : authorizedAttempts ext.urlHost (snapshot.policy tenant) mode plan.attempts with
    _ | ⟨resolved, fallbacks⟩
  · rw [hauth] at hok
    cases hok
  · rw [hauth] at hok
    cases hok
    exact {
      requested := rfl
      identity := hident
      body := hbody
      idempotencyKey := hkey
      fingerprint := hfingerprint
      trafficClass := htraffic
      clientIp := rfl
      requestId := rfl
      policy := rfl
      classification := ⟨named, hnamed, rfl⟩
      mode := ⟨requested, hreq, hmode⟩
      plan := ⟨profile, session, plan, hplan, rfl, hauth⟩ }

end ModelPort.Gateway
