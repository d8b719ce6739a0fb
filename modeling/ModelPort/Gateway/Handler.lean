import ModelPort.Gateway.Edge
import ModelPort.Ledger.Statements
import ModelPort.Lib.Program

/-!
# The inference handler

The second half of `handle_inference` as a program over the interface of everything it asks:
stores, rate limiters, the local scheduler, the ledger, and the providers it sends requests to.
The answers are arbitrary, so every sequence of outcomes is covered.

The attempt loop is `attemptLoop`. One round (`attemptRound`) takes an attempt off the queue,
`admitAttempt` runs the gates an attempt passes before it is sent, `sendAttempt` sends it and
finalizes its ledger row, and `LoopState.after` decides what comes next: the end, the same
attempt again, or the next in the queue. The rounds are bounded by `LoopState.remaining`, so the
loop is the source's `while` loop (`attemptLoop_eq`).

Left out are metrics, logs, provider health, retry delays, and the lease objects.
-/

namespace ModelPort.Gateway

open Routing Interaction Interaction.Prog

/-! ### The handler's questions -/

/-- The local scheduler's answer. -/
inductive LocalAdmission where
  | acquired
  | overflowToCloud
  deriving DecidableEq

/-- What the control store selects for a provider. -/
structure CredentialChoice where
  record : Option ProviderCredentialRecord
  hasPool : Bool
  poolMode : String

/-- An upstream response: its status, and the usage header the provider adapter attached. -/
structure UpstreamResponse where
  status : ℕ
  usage : Option UsageCharge

/-- How far a stream has come. -/
inductive UpstreamStreamState where
  | pending
  | completed
  | failed (error : String)
  deriving DecidableEq

/-- What was observed of a response so far. -/
structure Lifecycle where
  state : UpstreamStreamState := .pending
  usage : Option TokenUsageBreakdown := none
  providerReportedCost : Option ℚ := none
  firstSemanticLatencyMs : Option ℕ := none
  toolCallCount : ℕ := 0
  textPresent : Bool := false

/-- How the delivery of a streamed body ended, after any number of chunks. -/
inductive BodyEnd where
  | eof
  | error (message : String)
  /-- the client is gone -/
  | dropped
  deriving DecidableEq

/-- The arguments of `begin_request_with_metadata`. -/
structure RequestClaim where
  requestId : String
  tenant : TenantKey
  principalId : String
  protocol : ClientProtocol
  requestedModel : String
  stream : Bool
  idempotencyKey : Option String
  fingerprint : String
  metadata : LedgerRequestMetadata

/-- The arguments of `begin_attempt_with_pricing`. -/
structure AttemptClaim where
  request : LedgerRequest
  attemptId : String
  providerId : String
  model : String
  protocol : String
  estimate : UsageEstimate
  verified : Bool
  usagePolicy : UsagePolicySnapshot

/-- What a request is finalized with. -/
structure UsageEventInput where
  requestId : String
  attemptId : Option String
  resolvedModel : String
  provider : String
  protocol : String
  toolUseRequested : Bool
  toolOutcome : ToolOutcome
  trafficClass : String
  toolRepairAttempted : Bool
  toolRepairRecovered : Bool
  success : Bool
  timedOut : Bool
  statusCode : ℕ
  terminalReason : String
  estimate : UsageEstimate
  modelPricing : Option ModelPricing
  pricingEvidence : Option PricingEvidence
  billingMode : String
  chargeable : Bool
  latencyMs : ℕ
  firstByteLatencyMs : Option ℕ
  retryCount : ℕ
  fallbackFromProvider : Option String
  errorMessage : Option String

/-- Everything the handler asks. -/
inductive Op where
  | elapsedMs
  /-- the client's rate limit -/
  | checkRate
  | selectCredential (providerId : String)
  /-- `env::var` -/
  | readEnv (name : String)
  /-- the address of a provider is resolved and checked -/
  | checkDns (providerId baseUrl : String)
  /-- an HTTP request to a token-counting endpoint -/
  | countTokens (url : String) (target : ResolvedProvider)
  | acquireStreamPermit
  | beginRequest (claim : RequestClaim)
  | newAttemptId
  | acquireLocal (userId : String) (mode : HybridMode) (workload : WorkloadClass)
      (cloudAvailable : Bool)
  | checkQuotas (requestedModel upstreamModel providerId : String)
  | checkProviderRate (providerId model : String)
  | beginAttempt (claim : AttemptClaim)
  /-- an HTTP inference request -/
  | send (url : String) (target : ResolvedProvider) (attemptId : String) (repair : Bool)
  /-- what the stream lifecycle of an attempt has recorded -/
  | lifecycle (attemptId : String)
  | finalizeAttempt (attempt : LedgerAttempt) (outcome : LedgerOutcome)
  | finalizeRequest (request : LedgerRequest) (usage : UsageEventInput)
  /-- the response body is delivered -/
  | deliverBody
  /-- a Tokio runtime is there to spawn on -/
  | hasRuntime

/-- The types of the answers. -/
@[reducible] def Op.Reply : Op → Type
  | .elapsedMs => ℕ
  | .checkRate => Except AppError Unit
  | .selectCredential _ => CredentialChoice
  | .readEnv _ => Option String
  | .checkDns _ _ => Except AppError Unit
  | .countTokens _ _ => Except AppError ℕ
  | .acquireStreamPermit => Bool
  | .beginRequest _ => Except AppError LedgerRequest
  | .newAttemptId => String
  | .acquireLocal _ _ _ _ => Except AppError LocalAdmission
  | .checkQuotas _ _ _ => Except AppError UsagePolicySnapshot
  | .checkProviderRate _ _ => Except AppError Unit
  | .beginAttempt _ => Except AppError LedgerAttempt
  | .send _ _ _ _ => Except AppError UpstreamResponse
  | .lifecycle _ => Lifecycle
  | .finalizeAttempt _ _ => Except AppError Unit
  | .finalizeRequest _ _ => Except AppError Unit
  | .deliverBody => BodyEnd
  | .hasRuntime => Bool

/-- The interface of the gateway. -/
@[reducible] def interface : Interface := ⟨Op, Op.Reply⟩

/-- A program of the gateway. -/
abbrev Handler (α : Type) := Prog interface α

/-- A question of the gateway. -/
def ask (op : Op) : Handler op.Reply := Prog.perform (S := interface) op

/-! ### Admission by context and output -/

/-- The limit on the output of a request for a logical model. -/
def outputLimit (requestedModel : String) (admission : TokenCountingConfig) : Option ℕ :=
  (admission.modelMaxOutputTokens.lookup requestedModel).or admission.maxOutputTokens

def validateOutputBudget (requestedModel : String) (outputTokens : ℕ)
    (admission : TokenCountingConfig) : Except AppError Unit :=
  match outputLimit requestedModel admission with
  | none => .ok ()
  | some limit =>
    if limit < outputTokens then
      let scope :=
        if (admission.modelMaxOutputTokens.lookup requestedModel).isSome then
          "logical model `" ++ requestedModel ++ "`"
        else "selected provider"
      .error (.invalidRequest ("output admission rejected request: max_output_tokens="
        ++ toString outputTokens ++ " exceeds configured limit=" ++ toString limit ++ " for "
        ++ scope ++ "; reduce max_tokens"))
    else .ok ()

def recommendedInputLimit (requestedModel : String) (admission : TokenCountingConfig) : Option ℕ :=
  (admission.modelRecommendedInputTokens.lookup requestedModel).or
    admission.recommendedReasoningInputTokens

def validateContextBudget (inputTokens outputTokens contextTokens : ℕ)
    (recommended : Option ℕ) (thinkingDisabled : Bool) : Except AppError Unit :=
  let requestedTotal := saturatingAdd inputTokens outputTokens
  if contextTokens < requestedTotal then
    .error (.invalidRequest ("context admission rejected request: input_tokens="
      ++ toString inputTokens ++ " + max_output_tokens=" ++ toString outputTokens
      ++ " exceeds context_tokens=" ++ toString contextTokens
      ++ "; reduce input or max_tokens by at least " ++ toString (requestedTotal - contextTokens)
      ++ " tokens; input is never silently truncated"))
  else
    match recommended with
    | some limit =>
      if !thinkingDisabled && limit < inputTokens then
        .error (.invalidRequest ("reasoning context admission rejected request: input_tokens="
          ++ toString inputTokens ++ " exceeds recommended_reasoning_input_tokens="
          ++ toString limit ++ "; reduce input by at least " ++ toString (inputTokens - limit)
          ++ " tokens or explicitly disable thinking for a non-reasoning task"))
      else .ok ()
    | none => .ok ()

variable (request : ClientRequest)

variable (provider : ProviderConfig)

/-- A repair of tool arguments is possible. -/
def repairEnabled : Bool :=
  request.isAnthropicClient && !request.isStream && provider.protocol = .openaiCompat
    && provider.repairInvalidArguments

/-- The margin for a repair of tool arguments. -/
def repairReserve : ℕ :=
  if repairEnabled request provider && request.usesTools then 256 else 0

/-- The output tokens to reserve. -/
def reservedOutput : ℕ :=
  saturatingAdd request.estimatedOutputTokens (repairReserve request provider)

/-- The key an environment variable holds, unless it is blank. -/
def usableKey (value : Option String) : Option String := value.filter fun v => !(trim v).isEmpty

/-- `apply_selected_provider_credential_for_request`: the provider with the selected credential,
and the credential's id. -/
def applySelectedProviderCredential (providerId : String) (provider : ProviderConfig) :
    Handler (Except AppError (ProviderConfig × Option String)) := do
  let choice ← ask (.selectCredential providerId)
  match choice.record with
  | none =>
    if choice.hasPool then
      return .error (.notReady ("provider " ++ providerId ++ " has no usable credential in "
        ++ choice.poolMode ++ " pool mode"))
    else return .ok (provider, none)
  | some record =>
    let key ← ask (.readEnv record.apiKeyEnv)
    return .ok (provider.withCredential record (usableKey key), some record.id)

variable (target : ResolvedProvider)

/-- The address of a provider is checked, and its key is there if it needs one. -/
def checkProvider : Handler (Except AppError Unit) := do
  match ← ask (.checkDns target.providerId target.provider.baseUrl) with
  | .error e => return .error e
  | .ok _ =>
    if target.provider.apiKeyRequired then return target.provider.requireApiKey.map fun _ => ()
    else return .ok ()

/-- The token-counting endpoint of a provider. -/
def countTokensUrl : String :=
  match provider.protocol with
  | .anthropic => provider.endpoint "/v1/messages/count_tokens"
  | .openaiCompat => provider.endpoint "/messages/count_tokens"

/-- `enforce_context_admission`: the output limit, and for an Anthropic request to a provider
with a declared context the exact count of input tokens. -/
def enforceContextAdmission (resolved : ResolvedProvider) : Handler (Except AppError Unit) := do
  let admission := resolved.provider.tokenCounting
  match validateOutputBudget request.model request.estimatedOutputTokens admission with
  | .error e => return .error e
  | .ok _ =>
  match admission.contextTokens with
  | none => return .ok ()
  | some contextTokens =>
  if !request.isAnthropicClient then return .ok ()
  else if admission.mode ≠ .anthropic then
    return .error (.config ("provider `" ++ resolved.providerId
      ++ "` context admission requires exact Anthropic token counting"))
  else
    match ← applySelectedProviderCredential resolved.providerId resolved.provider with
    | .error e => return .error e
    | .ok (provider, _) =>
    match ← checkProvider { resolved with provider } with
    | .error e => return .error e
    | .ok _ =>
    match ← ask (.countTokens (countTokensUrl provider) { resolved with provider }) with
    | .error e => return .error e
    | .ok inputTokens =>
      return validateContextBudget inputTokens (reservedOutput request resolved.provider)
        contextTokens (recommendedInputLimit request.model admission) request.thinkingDisabled

/-! ### One attempt -/

/-- An attempt that has been sent. -/
structure SentAttempt where
  attemptId : String
  providerId : String
  model : String
  protocol : String
  boundary : ProviderBoundary
  credentialId : Option String
  estimate : UsageEstimate
  pricing : ModelPricing
  pricingCard : Option ModelPricingCard
  trustUpstreamCost : Bool
  ledgerAttempt : LedgerAttempt

/-- An attempt in the queue: whether it is a repair, and how often this provider was tried. -/
structure QueuedAttempt where
  target : ResolvedProvider
  repair : Bool
  ordinal : ℕ

/-- The variables of the attempt loop. -/
structure LoopState where
  attempts : List QueuedAttempt
  providerId : String
  upstreamModel : String
  protocol : String
  retryCount : ℕ
  fallbackFromProvider : Option String
  result : Except AppError UpstreamResponse
  firstSentProvider : Option String
  sentAttempts : ℕ
  lastSent : Option SentAttempt
  toolRepairAttempted : Bool
  toolRepairRecovered : Bool
  priorAttemptUsage : UsageEstimate
  priorPricingEvidence : Option PricingEvidence

/-- The variables before the first round. -/
def LoopState.initial (p : Prepared) : LoopState where
  attempts := p.authorized.map fun a => ⟨a, false, 0⟩
  providerId := ""
  upstreamModel := ""
  protocol := ""
  retryCount := 0
  fallbackFromProvider := none
  result := .error (.providerNotFound p.request.model)
  firstSentProvider := none
  sentAttempts := 0
  lastSent := none
  toolRepairAttempted := false
  toolRepairRecovered := false
  priorAttemptUsage := {}
  priorPricingEvidence := none

/-- `estimate_usage`: a quarter of the characters as input, the requested output. -/
def estimateUsage (pricing : ModelPricing) : UsageEstimate :=
  let inputTokens := min ((request.serializedInputChars + 3) / 4) u64Max
  let outputTokens := request.estimatedOutputTokens
  { inputTokens := inputTokens
    outputTokens := outputTokens
    costEstimate := costWithPricing
      { inputTokens := inputTokens, outputTokens := outputTokens } pricing }

/-- How the gates before an attempt ended. -/
inductive Gate where
  /-- this attempt is not made; the error is the result, if there is one -/
  | skip (error : Option AppError)
  /-- no further attempt is made -/
  | stop (error : AppError)
  /-- the attempt has a ledger row and is sent with this configuration -/
  | pass (provider : ProviderConfig) (sent : SentAttempt)

/-- The price that applies to an attempt. -/
def appliedPricing : ModelPricing :=
  (target.provider.effectivePricing target.model).getD (pricingForModel target.model)

variable (urlHost : String → Option String)

/-- A local attempt waits for the local scheduler; `later` are the attempts still queued. -/
def acquireLocalLease (p : Prepared)
    (later : List QueuedAttempt) (target : ResolvedProvider) :
    Handler (Except AppError LocalAdmission) :=
  if ProviderBoundary.forResolved urlHost target = .localNet then
    ask (.acquireLocal p.identity.userId p.mode p.workload
      (later.any fun q => ProviderBoundary.forResolved urlHost q.target = .cloud))
  else pure (.ok .acquired)

/-- The gates an attempt passes before it is sent. -/
def admitAttempt (p : Prepared) (request : LedgerRequest)
    (later : List QueuedAttempt) (target : ResolvedProvider) : Handler Gate := do
  let attemptId ← ask .newAttemptId
  match ← acquireLocalLease urlHost p later target with
  | .error e => return .stop e
  | .ok .overflowToCloud => return .skip none
  | .ok .acquired =>
  match ← applySelectedProviderCredential target.providerId target.provider with
  | .error e => return .skip (some e)
  | .ok (provider, credentialId) =>
  let selected : ResolvedProvider := { target with provider }
  let pricing := appliedPricing selected
  let estimate := estimateUsage p.request pricing
  match ← ask (.checkQuotas p.request.model target.model target.providerId) with
  | .error e => return .skip (some e)
  | .ok usagePolicy =>
  match ← checkProvider selected with
  | .error e => return .skip (some e)
  | .ok _ =>
  match p.request.validateProvider selected with
  | .error e => return .skip (some e)
  | .ok _ =>
  match ← ask (.checkProviderRate target.providerId target.model) with
  | .error e => return .skip (some e)
  | .ok _ =>
  let card := provider.modelPricingCard target.model
  match ← ask (.beginAttempt {
      request := request
      attemptId := attemptId
      providerId := target.providerId
      model := target.model
      protocol := target.provider.protocol.value
      estimate := estimate
      verified := card.isSome || provider.trustUpstreamCost
      usagePolicy := usagePolicy }) with
  | .error e => return .stop e
  | .ok ledgerAttempt =>
    return .pass provider {
      attemptId := attemptId
      providerId := target.providerId
      model := target.model
      protocol := target.provider.protocol.value
      boundary := ProviderBoundary.forResolved urlHost target
      credentialId := credentialId
      estimate := estimate
      pricing := pricing
      pricingCard := card
      trustUpstreamCost := provider.trustUpstreamCost
      ledgerAttempt := ledgerAttempt }

/-- The inference endpoint of a provider. -/
def inferenceUrl : String :=
  match provider.protocol with
  | .anthropic => provider.endpoint "/v1/messages"
  | .openaiCompat => provider.endpoint "/chat/completions"

/-- The status of a result. -/
def resultStatus : Except AppError UpstreamResponse → ℕ
  | .ok response => response.status
  | .error e => e.httpStatus

/-- The audit text of a failed result. -/
def resultError : Except AppError UpstreamResponse → Option String
  | .ok _ => none
  | .error e => some e.auditMessage

/-- The usage a successful response came with. -/
def resultUsage : Except AppError UpstreamResponse → Option UsageCharge
  | .ok response => response.usage
  | .error _ => none

/-- The charge of an attempt that is over: what the response reports, or what came with rejected
tool arguments. -/
def attemptCharge (pricing : ModelPricing)
    (result : Except AppError UpstreamResponse) : Option UsageCharge :=
  (resultUsage result).or
    (match result with
      | .ok _ => none
      | .error e => e.toolArgumentUsage.map fun usage =>
        chargeWithEvidence target.providerId target.model usage (some pricing)
          (target.provider.modelPricingCard target.model) none)

/-- `LedgerOutcome::provider_attempt_with_evidence`. -/
def providerAttemptWithEvidence (success : Bool) (statusCode : ℕ) (errorMessage : Option String)
    (estimate : UsageEstimate) (pricingEvidence : Option PricingEvidence)
    (billingMode : String) (latencyMs : ℕ) : LedgerOutcome where
  state := if success then .completed else .failed
  statusCode := statusCode
  terminalReason := if success then "completed" else "failed_before_response"
  errorMessage := errorMessage
  estimate := estimate
  pricingEvidence := pricingEvidence
  billingMode := billingMode
  chargeable := true
  latencyMs := toI64 latencyMs
  firstByteLatencyMs := none
  toolOutcome := .notRequested
  toolRepairAttempted := false
  toolRepairRecovered := false
  retryCount := 0
  fallbackFromProvider := none

/-- A result is a success. -/
def succeeded (result : Except AppError UpstreamResponse) : Bool := result.isOk

/-- What an attempt that is over is finalized with. -/
def finalEstimate (sent : SentAttempt)
    (result : Except AppError UpstreamResponse) : UsageEstimate :=
  ((attemptCharge target sent.pricing result).map usageEstimateFromCharge).getD sent.estimate

/-- An attempt is sent. Unless its response streams, its ledger row is finalized. -/
def sendAttempt (stream : Bool) (target : ResolvedProvider) (provider : ProviderConfig)
    (repair : Bool) (sent : SentAttempt) : Handler (Except AppError UpstreamResponse) := do
  let result ← ask (.send (inferenceUrl provider) { target with provider } sent.attemptId repair)
  if stream && succeeded result then return result
  else
    let charge := attemptCharge target sent.pricing result
    let latency ← ask .elapsedMs
    let _ ← ask (.finalizeAttempt sent.ledgerAttempt
      (providerAttemptWithEvidence (succeeded result) (resultStatus result) (resultError result)
        (finalEstimate target sent result) (charge.bind (·.pricingEvidence))
        (if charge.isSome then "upstream-returned" else "local-estimate") latency))
    return result

def isRetryableMessageError : AppError → Bool
  | .transport _ => true
  | .upstream status _ _ => status = 429 || 500 ≤ status
  | _ => false

/-- The error is about tool arguments. -/
def isToolArgumentsInvalid : AppError → Bool
  | .toolArgumentsInvalid _ _ _ => true
  | _ => false

namespace LoopState

/-- `u32::saturating_add` of one. -/
def bump (n : ℕ) : ℕ := min (n + 1) (2 ^ 32 - 1)

/-- The attempt under way. -/
def take (s : LoopState) (q : QueuedAttempt) (rest : List QueuedAttempt) : LoopState :=
  { s with
    attempts := rest
    providerId := q.target.providerId
    upstreamModel := q.target.model
    protocol := q.target.provider.protocol.value }

/-- The attempt is sent. -/
def send (s : LoopState) (sent : SentAttempt) : LoopState :=
  { s with
    retryCount := if 0 < s.sentAttempts then bump s.retryCount else s.retryCount
    fallbackFromProvider :=
      if 0 < s.sentAttempts ∧ s.firstSentProvider ≠ some sent.providerId then
        s.firstSentProvider
      else s.fallbackFromProvider
    firstSentProvider :=
      if 0 < s.sentAttempts then s.firstSentProvider else some sent.providerId
    sentAttempts := bump s.sentAttempts
    lastSent := some sent }

/-- The usage of an attempt that will be followed by another is kept. -/
def keep (s : LoopState) (usage : UsageEstimate) : LoopState :=
  { s with priorAttemptUsage := mergeUsageEstimates s.priorAttemptUsage usage }

/-- What is recorded of an attempt's result: the result, and the evidence of its charge. The
ledger row of an attempt whose response streams is finalized later. -/
def record (s : LoopState) (stream : Bool) (target : ResolvedProvider) (sent : SentAttempt)
    (result : Except AppError UpstreamResponse) : LoopState :=
  { s with
    result := result
    priorPricingEvidence :=
      if stream && succeeded result then s.priorPricingEvidence
      else ((attemptCharge target sent.pricing result).bind (·.pricingEvidence)).or
        s.priorPricingEvidence }

end LoopState

/-- What follows an attempt. -/
inductive Followup where
  /-- the loop ends: with a success, or an error that is not retried -/
  | stop
  /-- the same attempt, with its tool arguments repaired -/
  | repair
  /-- the same attempt -/
  | again
  /-- the next attempt in the queue -/
  | next
  deriving DecidableEq

/-- What follows a result: one repair is made, and errors of the transport are retried. -/
def followup (repairAttempted : Bool) (q : QueuedAttempt) :
    Except AppError UpstreamResponse → Followup
  | .ok _ => .stop
  | .error e =>
    if isToolArgumentsInvalid e && repairEnabled request q.target.provider
        && !repairAttempted then .repair
    else if !isRetryableMessageError e then .stop
    else if q.ordinal + 1 < q.target.provider.maxAttempts then .again
    else .next

namespace LoopState

/-- After an attempt: the state, and whether the loop goes on. -/
def after (s : LoopState) (q : QueuedAttempt) (sent : SentAttempt)
    (result : Except AppError UpstreamResponse) : LoopState × Bool :=
  let usage :=
    if request.isStream && succeeded result then sent.estimate
    else finalEstimate q.target sent result
  let s' := s.record request.isStream q.target sent result
  match followup request s.toolRepairAttempted q result with
  | .stop =>
    ({ s' with
        toolRepairRecovered := if succeeded result then q.repair else s'.toolRepairRecovered },
      false)
  | .repair =>
    ({ s'.keep usage with
        toolRepairAttempted := true
        attempts := ⟨q.target, true, q.ordinal⟩ :: s'.attempts }, true)
  | .again =>
    ({ s'.keep usage with
        attempts := ⟨q.target, q.repair, q.ordinal + 1⟩ :: s'.attempts }, true)
  | .next => (s'.keep usage, !s'.attempts.isEmpty)

/-- The tries that queued attempts have left. -/
def triesLeft (attempts : List QueuedAttempt) : ℕ :=
  (attempts.map fun q => max 1 (q.target.provider.maxAttempts - q.ordinal)).sum

/-- A bound on the rounds to come: the tries left, and one repair. -/
def remaining (s : LoopState) : ℕ :=
  triesLeft s.attempts + (!s.toolRepairAttempted).toNat

end LoopState

/-- One round of the attempt loop. -/
def attemptRound (p : Prepared) (request : LedgerRequest)
    (s : LoopState) : Handler (LoopState × Bool) :=
  match s.attempts with
  | [] => pure (s, false)
  | q :: rest => do
      let s := s.take q rest
      match ← admitAttempt urlHost p request rest q.target with
      | .skip none => return (s, true)
      | .skip (some e) => return ({ s with result := .error e }, true)
      | .stop e => return ({ s with result := .error e }, false)
      | .pass provider sent =>
        let result ← sendAttempt p.request.isStream q.target provider q.repair sent
        return LoopState.after p.request (s.send sent) q sent result

/-- The attempt loop. -/
def attemptLoop (p : Prepared) (request : LedgerRequest) (s : LoopState) : Handler LoopState :=
  iterate (attemptRound urlHost p request) (s.remaining + 1) s

end ModelPort.Gateway
