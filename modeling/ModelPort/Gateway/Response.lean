import ModelPort.Gateway.Handler

/-!
# The response, and the finalization of a stream

What `handle_inference` does after the attempt loop: it computes the usage of the request, and
either finalizes the request and answers, or hands the streamed body over to a finalizer that
runs when the body ends, fails or is dropped (`streamBody`). `handleInference` is the whole
handler, and `serve` the handler together with the life of the body it returns.

A failing `expect` of the source is the exit `aborted`.
-/

namespace ModelPort.Gateway

open Routing Interaction Interaction.Prog

/-! ### The usage of a request -/

def classifyToolOutcome (requested continuation success timedOut : Bool) (terminalReason : String)
    (errorMessage : Option String) (observed : Lifecycle) : ToolOutcome :=
  if !requested then .notRequested
  else if success then
    if 0 < observed.toolCallCount then
      if continuation then .continuationToolCalled else .toolCalled
    else if continuation then .finalAnswer
    else if observed.textPresent then .answeredWithoutTool
    else .completedUnobserved
  else if terminalReason = "downstream_cancelled" then .clientCancelled
  else if timedOut || contains terminalReason "timeout" then .timeout
  else if AppError.containsToolProtocolMarker (errorMessage.getD "") then .protocolError
  else .upstreamOrDeliveryError

/-- A result that is a transport timeout. -/
def resultTimedOut : Except AppError UpstreamResponse → Bool
  | .error (.transport message) => contains message "timed out"
  | _ => false

/-- What the loop leaves as the usage of the request. -/
def requestEstimate (s : LoopState) : UsageEstimate :=
  mergeUsageEstimates s.priorAttemptUsage
    (((resultUsage s.result).map usageEstimateFromCharge).getD
      ((s.lastSent.map (·.estimate)).getD {}))

/-- The billing mode of a request. -/
def requestBillingMode (s : LoopState) : String :=
  let reported := (resultUsage s.result).isSome
  if s.toolRepairAttempted && reported then "upstream-returned+tool-repair"
  else if 0 < s.retryCount && reported then "mixed-attempts"
  else if 0 < s.retryCount then "local-estimate+retry"
  else if reported then "upstream-returned"
  else "local-estimate"

/-- The terminal reason of a request that did not stream. -/
def requestTerminalReason (result : Except AppError UpstreamResponse) : String :=
  if succeeded result then "completed"
  else if resultTimedOut result then "timeout_before_response"
  else "failed_before_response"

variable (p : Prepared)

/-- What the request is finalized with after the loop. -/
def requestUsage (s : LoopState) (latencyMs : ℕ) (observed : Lifecycle)
    (firstByteLatencyMs : Option ℕ) : UsageEventInput where
  requestId := p.requestId
  attemptId := s.lastSent.map (·.attemptId)
  resolvedModel := (s.lastSent.map (·.model)).getD s.upstreamModel
  provider := (s.lastSent.map (·.providerId)).getD s.providerId
  protocol := (s.lastSent.map (·.protocol)).getD s.protocol
  toolUseRequested := p.request.usesTools
  toolOutcome := classifyToolOutcome p.request.usesTools p.request.hasToolResults
    (succeeded s.result) (resultTimedOut s.result) (requestTerminalReason s.result)
    (resultError s.result) observed
  trafficClass := p.trafficClass
  toolRepairAttempted := s.toolRepairAttempted
  toolRepairRecovered := s.toolRepairRecovered
  success := succeeded s.result
  timedOut := resultTimedOut s.result
  statusCode := resultStatus s.result
  terminalReason := requestTerminalReason s.result
  estimate := requestEstimate s
  modelPricing := s.lastSent.map (·.pricing)
  pricingEvidence := ((resultUsage s.result).bind (·.pricingEvidence)).or s.priorPricingEvidence
  billingMode := requestBillingMode s
  chargeable := s.lastSent.isSome
  latencyMs := latencyMs
  firstByteLatencyMs := firstByteLatencyMs
  retryCount := s.retryCount
  fallbackFromProvider := s.fallbackFromProvider
  errorMessage := resultError s.result

/-- `attach_routing_response_headers`: every text has to be a header value. -/
def attachRoutingResponseHeaders (headerValueOk : String → Bool) (p : Prepared)
    (usage : UsageEventInput) : Except AppError Unit :=
  if !headerValueOk p.requestId then
    .error (.config "invalid request ID response metadata")
  else if !headerValueOk p.request.model then
    .error (.config "invalid logical model response metadata")
  else if !headerValueOk usage.provider then
    .error (.config "invalid resolved provider response metadata")
  else if !headerValueOk usage.resolvedModel then
    .error (.config "invalid resolved model response metadata")
  else if !headerValueOk p.evidence.decisionId then
    .error (.config "invalid routing decision ID")
  else if !headerValueOk p.evidence.mode then .error (.config "invalid routing mode")
  else .ok ()

/-! ### Streams -/

/-- How a stream ended. -/
inductive StreamTerminalOutcome where
  | completed
  | upstreamFailed (error : String)
  | deliveryFailed (error : String)
  | downstreamCancelled (upstream : UpstreamStreamState)
  deriving DecidableEq

namespace StreamTerminalOutcome

def afterEof : UpstreamStreamState → StreamTerminalOutcome
  | .completed => .completed
  | .failed error => .upstreamFailed error
  | .pending => .upstreamFailed "stream body ended without a protocol terminal signal"

def afterBodyError (error : String) : UpstreamStreamState → StreamTerminalOutcome
  | .failed upstreamError => .upstreamFailed upstreamError
  | .completed | .pending => .deliveryFailed error

def success : StreamTerminalOutcome → Bool
  | .completed => true
  | _ => false

def errorMessage : StreamTerminalOutcome → Option String
  | .completed => none
  | .upstreamFailed error | .deliveryFailed error => some error
  | .downstreamCancelled (.failed error) => some error
  | .downstreamCancelled _ => some "downstream cancelled before stream delivery completed"

variable (o : StreamTerminalOutcome)

def timedOut : Bool :=
  o.errorMessage.any fun message => contains (asciiLower message) "timed out"

def statusCode : ℕ :=
  match o with
  | .completed => 200
  | .upstreamFailed _ => if o.timedOut then 504 else 502
  | .deliveryFailed _ => 502
  | .downstreamCancelled _ => 499

def terminalReason : String :=
  match o with
  | .completed => "completed"
  | .upstreamFailed _ => if o.timedOut then "upstream_timeout" else "upstream_error"
  | .deliveryFailed _ => "delivery_error"
  | .downstreamCancelled .completed => "downstream_cancelled_after_upstream_complete"
  | .downstreamCancelled _ => "downstream_cancelled"

def auditSafeStreamError (error : String) : String :=
  let normalized := asciiLower error
  if contains normalized "timed out" then "upstream stream timed out [details redacted]"
  else if AppError.balanceMarkers.any (contains normalized) then
    "upstream stream error: insufficient balance [details redacted]"
  else if contains normalized "rate limit" then
    "upstream stream error: rate limit [details redacted]"
  else if AppError.toolMarkers.any (contains normalized) then
    "upstream tool stream protocol error [details redacted]"
  else "upstream stream error [details redacted]"

def auditErrorMessage : StreamTerminalOutcome → Option String
  | .completed => none
  | .upstreamFailed error => some (auditSafeStreamError error)
  | .deliveryFailed _ => some "stream delivery error [details redacted]"
  | .downstreamCancelled (.failed error) => some (auditSafeStreamError error)
  | .downstreamCancelled _ => some "downstream cancelled before stream delivery completed"

end StreamTerminalOutcome

/-- What the finalizer of a streamed response holds. -/
structure StreamFinalizationContext where
  usage : UsageEventInput
  toolContinuation : Bool
  attemptId : String
  pricing : ModelPricing
  pricingCard : Option ModelPricingCard
  trustUpstreamCost : Bool
  ledgerRequest : LedgerRequest
  ledgerAttempt : LedgerAttempt
  priorAttemptUsage : UsageEstimate

/-- `LedgerOutcome::from_usage_with_latency`. -/
def ledgerOutcomeFromUsage (usage : UsageEventInput) (latencyMs : ℕ) : LedgerOutcome where
  state :=
    if usage.success then .completed
    else if contains usage.terminalReason "cancel" then .cancelled
    else .failed
  statusCode := usage.statusCode
  terminalReason := usage.terminalReason
  errorMessage := usage.errorMessage
  estimate := usage.estimate
  pricingEvidence := usage.pricingEvidence
  billingMode := usage.billingMode
  chargeable := usage.chargeable
  latencyMs := toI64 latencyMs
  firstByteLatencyMs := usage.firstByteLatencyMs.map toI64
  toolOutcome := usage.toolOutcome
  toolRepairAttempted := usage.toolRepairAttempted
  toolRepairRecovered := usage.toolRepairRecovered
  retryCount := min usage.retryCount (2 ^ 31 - 1)
  fallbackFromProvider := usage.fallbackFromProvider

/-- One of the things the stream lifecycle of an attempt has recorded. -/
def readLifecycle {α : Type} (field : Lifecycle → α) (attemptId : String) : Handler α := do
  let lifecycle ← ask (.lifecycle attemptId)
  return field lifecycle

namespace StreamFinalizationContext

variable (c : StreamFinalizationContext)

/-- The usage once the stream has reported one. -/
def reported (reportedCost : Option ℚ) (usage : Option TokenUsageBreakdown) : UsageEventInput :=
  match usage.or (reportedCost.map fun _ => {}) with
  | none => c.usage
  | some usage =>
    let charge := chargeWithEvidence c.usage.provider c.usage.resolvedModel usage
      (some c.pricing) c.pricingCard reportedCost
    { c.usage with
      estimate := mergeUsageEstimates c.priorAttemptUsage (usageEstimateFromCharge charge)
      pricingEvidence := charge.pricingEvidence.or c.usage.pricingEvidence
      billingMode := if 0 < c.usage.retryCount then "mixed-attempts" else "upstream-returned" }

/-- The usage the stream is finalized with. -/
def finalUsage (outcome : StreamTerminalOutcome)
    (reportedCost : Option ℚ) (usage : Option TokenUsageBreakdown) (observed : Lifecycle)
    (latencyMs : ℕ) (firstByteLatencyMs : Option ℕ) : UsageEventInput :=
  { c.reported reportedCost usage with
    success := outcome.success
    timedOut := outcome.timedOut
    statusCode := outcome.statusCode
    terminalReason := outcome.terminalReason
    errorMessage := outcome.auditErrorMessage
    toolOutcome := classifyToolOutcome c.usage.toolUseRequested c.toolContinuation
      outcome.success outcome.timedOut outcome.terminalReason outcome.auditErrorMessage observed
    latencyMs := latencyMs
    firstByteLatencyMs := firstByteLatencyMs }

/-- The cost the provider reported, if it is trusted to. -/
def reportedCost : Handler (Option ℚ) :=
  if c.trustUpstreamCost then readLifecycle (·.providerReportedCost) c.attemptId else pure none

/-- `StreamFinalizationContext::finalize`: attempt and request are finalized by a spawned task,
if there is a runtime to spawn it on. -/
def finalize (outcome : StreamTerminalOutcome) : Handler Unit := do
  let latency ← ask .elapsedMs
  let reportedCost ← c.reportedCost
  let usage ← readLifecycle (·.usage) c.attemptId
  let observed ← readLifecycle id c.attemptId
  let firstByte ← readLifecycle (·.firstSemanticLatencyMs) c.attemptId
  let final := c.finalUsage outcome reportedCost usage observed latency firstByte
  let attemptLatency ← ask .elapsedMs
  let runtime : Bool ← ask .hasRuntime
  if runtime then
    let _ ← ask (.finalizeAttempt c.ledgerAttempt (ledgerOutcomeFromUsage final attemptLatency))
    let _ ← ask (.finalizeRequest c.ledgerRequest final)

end StreamFinalizationContext

/-- The guard that finalizes a stream once: it holds the context until then. -/
abbrev StreamFinalizationGuard := Option StreamFinalizationContext

namespace StreamFinalizationGuard

/-- `StreamFinalizationGuard::finish`. -/
def finish (guard : StreamFinalizationGuard) (outcome : StreamTerminalOutcome) :
    Handler StreamFinalizationGuard :=
  match guard with
  | some c => do
      c.finalize outcome
      return none
  | none => pure none

/-- `Drop for StreamFinalizationGuard`. -/
def drop (guard : StreamFinalizationGuard) : Handler Unit :=
  match guard with
  | some c => do
      let state ← readLifecycle (·.state) c.attemptId
      c.finalize (.downstreamCancelled state)
  | none => pure ()

end StreamFinalizationGuard

/-- A streamed body is delivered; what is left of its guard. -/
def deliver (c : StreamFinalizationContext) : Handler StreamFinalizationGuard := do
  let guard : StreamFinalizationGuard := some c
  match ← ask .deliverBody with
  | .eof =>
    let state ← readLifecycle (·.state) c.attemptId
    guard.finish (.afterEof state)
  | .error message =>
    let state ← readLifecycle (·.state) c.attemptId
    guard.finish (.afterBodyError message state)
  | .dropped => return guard

/-- The life of a streamed body: it is delivered, and its guard is dropped. -/
def streamBody (c : StreamFinalizationContext) : Handler Unit := do
  let guard ← deliver c
  guard.drop

/-! ### The handler -/

/-- How the handler returns. -/
inductive Exit where
  /-- `Err`: the request is refused -/
  | refused (error : AppError)
  /-- `Ok`, with a complete body -/
  | answered (status : ℕ)
  /-- `Ok`, with a streamed body and its finalizer -/
  | streaming (context : StreamFinalizationContext)
  /-- an `expect` failed -/
  | aborted

/-- What the handler tells the ledger about a request. -/
def Prepared.claim : RequestClaim where
  requestId := p.requestId
  tenant := p.tenant
  principalId := p.identity.userId
  protocol := p.request.protocol
  requestedModel := p.request.model
  stream := p.request.isStream
  idempotencyKey := p.idempotencyKey
  fingerprint := p.fingerprint
  metadata := {
    requestPath := p.request.protocol.requestPath
    trafficClass := p.trafficClass
    toolUseRequested := p.request.usesTools
    username := p.identity.username
    apiKeyId := p.identity.apiKeyId
    quotaSubjectId := p.identity.quotaSubjectId
    apiKeyName := p.identity.apiKeyName
    apiKeyGroup := p.identity.apiKeyGroup
    teamId := p.identity.teamId
    teamName := p.identity.teamName
    clientIp := p.clientIp
    routingDecision := some p.evidence }

/-- What was observed of the last response. -/
def observeLast (s : LoopState) : Handler Lifecycle :=
  match s.lastSent with
  | some sent => readLifecycle id sent.attemptId
  | none => pure {}

/-- The latency of a stream's first semantic event. -/
def firstByteLatency (s : LoopState) : Handler (Option ℕ) :=
  match p.request.isStream, s.lastSent with
  | true, some sent => readLifecycle (·.firstSemanticLatencyMs) sent.attemptId
  | _, _ => pure none

/-- What the finalizer of a stream is handed over. -/
def streamContext (request : LedgerRequest) (s : LoopState)
    (usage : UsageEventInput) (sent : SentAttempt) : StreamFinalizationContext where
  usage := usage
  toolContinuation := p.request.hasToolResults
  attemptId := sent.attemptId
  pricing := sent.pricing
  pricingCard := sent.pricingCard
  trustUpstreamCost := sent.trustUpstreamCost
  ledgerRequest := request
  ledgerAttempt := sent.ledgerAttempt
  priorAttemptUsage := s.priorAttemptUsage

/-- The end of the handler: the stream is handed over, or the request is finalized. -/
def respond (headerValueOk : String → Bool) (p : Prepared) (request : LedgerRequest)
    (s : LoopState) : Handler Exit := do
  let latency ← ask .elapsedMs
  let observed ← observeLast s
  let firstByte ← firstByteLatency p s
  let usage := requestUsage p s latency observed firstByte
  if p.request.isStream && succeeded s.result then
    match attachRoutingResponseHeaders headerValueOk p usage with
    | .error e => return .refused e
    | .ok _ =>
      match s.lastSent with
      | none => return .aborted
      | some sent => return .streaming (streamContext p request s usage sent)
  else
    let _ ← ask (.finalizeRequest request usage)
    match attachRoutingResponseHeaders headerValueOk p usage with
    | .error e => return .refused e
    | .ok _ => return .answered (resultStatus s.result)

/-- A stream needs a permit. -/
def streamPermit : Handler Bool :=
  if p.request.isStream then ask .acquireStreamPermit else pure true

/-- The second half of `handle_inference`, from the client's rate limit on. -/
def execute (ext : Externals) (p : Prepared) : Handler Exit := do
  match ← ask .checkRate with
  | .error e => return .refused e
  | .ok _ =>
  match ← enforceContextAdmission p.request p.resolved with
  | .error e => return .refused e
  | .ok _ =>
  let permit ← streamPermit p
  if !permit then return .refused (.rateLimited "concurrent stream limit exceeded" 1)
  else
    match ← ask (.beginRequest p.claim) with
    | .error e => return .refused e
    | .ok request => do
        let s ← attemptLoop ext.urlHost p request (LoopState.initial p)
        respond ext.headerValueOk p request s

def handleInference (ext : Externals) (snapshot : Snapshot) (headers : Headers)
    (request : ClientRequest) : Handler Exit :=
  match prepare ext snapshot headers request with
  | .error e => pure (.refused e)
  | .ok p => execute ext p

/-- The handler, and the life of the body it returns. -/
def serve (ext : Externals) (snapshot : Snapshot) (headers : Headers) (request : ClientRequest) :
    Handler Exit := do
  match ← handleInference ext snapshot headers request with
  | .streaming c => do
      streamBody c
      return .streaming c
  | exit => return exit

end ModelPort.Gateway
