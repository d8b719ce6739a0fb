import ModelPort.Core.IpAddr
import ModelPort.Ledger.Schema

/-!
# Validation of request metadata

What the ledger requires of the metadata of a request before it opens a transaction. All
lengths are in bytes.
-/

namespace ModelPort

namespace LedgerRequestMetadata

/-- `validate_metadata_text`: at most 256 bytes without control characters. -/
def validateText (field : String) (value : Option String) (required : Bool) :
    Except AppError Unit :=
  if required && value.all (·.isEmpty) then
    .error (.invalidRequest (field ++ " metadata is required"))
  else if value.any fun v => 256 < byteLen v || hasControl v then
    .error (.invalidRequest (field ++ " metadata must not exceed 256 non-control bytes"))
  else .ok ()

/-- A non-empty text of at most `maxLen` bytes without control characters. -/
def boundedText (maxLen : ℕ) (value : String) : Bool :=
  !value.isEmpty && byteLen value ≤ maxLen && !hasControl value

/-- One of the texts of a routing decision. -/
def validateDecisionText (field value : String) (maxLen : ℕ) : Except AppError Unit :=
  if boundedText maxLen value then .ok ()
  else .error (.invalidRequest
    ("routing " ++ field ++ " must contain 1-" ++ toString maxLen ++ " non-control bytes"))

/-- The bounds on the rest of a routing decision. -/
def decisionInBounds (decision : RoutingDecisionEvidence) : Bool :=
  decision.groupId.all (boundedText 80)
    && (1 ≤ decision.candidateCount && decision.candidateCount ≤ 256)
    && (0 ≤ decision.selectedScore && decision.selectedScore ≤ 2)
    && (0 ≤ decision.recommendedScore && decision.recommendedScore ≤ 2)
    && decision.reasonCodes.length ≤ 16
    && decision.reasonCodes.all (boundedText 80)

def validateDecision (decision : RoutingDecisionEvidence) : Except AppError Unit := do
  validateDecisionText "decisionId" decision.decisionId 80
  validateDecisionText "routingProfile" decision.profile 32
  validateDecisionText "routingMode" decision.mode 32
  validateDecisionText "policyVersion" decision.policyVersion 64
  validateDecisionText "selectedProvider" decision.selectedProvider 80
  validateDecisionText "selectedModel" decision.selectedModel 240
  validateDecisionText "recommendedProvider" decision.recommendedProvider 80
  validateDecisionText "recommendedModel" decision.recommendedModel 240
  if decisionInBounds decision then .ok ()
  else .error (.invalidRequest "routing decision evidence is outside supported bounds")

/-- `validate_request_metadata`. -/
def validate (metadata : LedgerRequestMetadata) : Except AppError Unit := do
  validateText "username" (some metadata.username) true
  validateText "apiKeyId" metadata.apiKeyId false
  validateText "apiKeyName" metadata.apiKeyName false
  validateText "apiKeyGroup" metadata.apiKeyGroup false
  validateText "teamId" metadata.teamId false
  validateText "teamName" metadata.teamName false
  if metadata.clientIp.any fun ip => (IpAddr.parse ip).isNone then
    .error (.invalidRequest "client IP metadata must be an IPv4 or IPv6 address")
  else .ok ()
  match metadata.routingDecision with
  | some decision => validateDecision decision
  | none => .ok ()

/-- The checks `begin_request_with_metadata` makes before its transaction. -/
def accept (metadata : LedgerRequestMetadata) (requestFingerprint : String) :
    Except AppError Unit := do
  if metadata.requestPath = "/v1/messages" ∨ metadata.requestPath = "/v1/chat/completions" then
    .ok ()
  else .error (.invalidRequest "unsupported request path for enterprise ledger")
  if metadata.trafficClass = "business" ∨ metadata.trafficClass = "synthetic"
      ∨ metadata.trafficClass = "diagnostic" then .ok ()
  else .error (.invalidRequest "unsupported traffic class for enterprise ledger")
  metadata.validate
  if byteLen requestFingerprint = 64 then .ok ()
  else .error (.database "request fingerprint must be a SHA-256 hex digest")

end LedgerRequestMetadata

end ModelPort
