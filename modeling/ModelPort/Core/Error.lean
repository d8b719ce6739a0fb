import ModelPort.Core.Text
import ModelPort.Core.Usage
import ModelPort.Lib.WriteThrough

/-!
# Errors

`AppError` has one constructor for each error of the gateway. A refusal for quota carries its
reason as data (`QuotaRefusal`); `QuotaRefusal.message` is the text sent to the client.
`AppError.auditMessage` is the text kept in durable records.
-/

namespace ModelPort

/-- A non-negative amount with four decimals, ties to even. -/
def fixed4 (q : ℚ) : String :=
  let n := ⌊q * 10000⌋
  let r := q * 10000 - n
  let m := if r < 1 / 2 ∨ (r = 1 / 2 ∧ n % 2 = 0) then n else n + 1
  let digits := toString (m % 10000)
  toString (m / 10000) ++ "." ++ "".pushn '0' (4 - digits.length) ++ digits

/-- Why an admission was refused for quota. -/
inductive QuotaRefusal where
  /-- the tenant's budget has no room for this reservation -/
  | budget (reservedMicrounits : ℤ)
  /-- a spend limit of the API key or of its team -/
  | spend (label : String) (used limit : ℚ)
  /-- a quota of the user -/
  | quota (quotaType username : String)
  deriving DecidableEq

/-- The text of a refusal. -/
def QuotaRefusal.message : QuotaRefusal → String
  | .budget reserved =>
    "enterprise budget has insufficient available balance for a " ++ toString reserved
      ++ " microunit reservation"
  | .spend label used limit =>
    "API key " ++ label ++ " limit exceeded (" ++ fixed4 used ++ " / " ++ fixed4 limit
      ++ " USD)"
  | .quota quotaType username => quotaType ++ " quota exceeded for user " ++ username

/-- Every error a handler or the ledger can return. -/
inductive AppError where
  | auth
  | config (message : String)
  | database (message : String)
  | forbidden (message : String)
  | idempotencyConflict (message : String)
  | stateConflict (message : String)
  | quotaExceeded (refusal : QuotaRefusal)
  | pricingUnverified (message : String)
  | rateLimited (message : String) (retryAfterSecs : ℕ)
  | invalidRequest (message : String)
  | missingSecret (name : String)
  | notReady (message : String)
  | notFound (message : String)
  | providerNotFound (id : String)
  | transport (message : String)
  | upstream (status : ℕ) (body : String) (retryAfterSecs : Option ℕ)
  | upstreamProtocol (message : String)
  | toolArgumentsInvalid (instancePath schemaPath : String) (usage : Option TokenUsageBreakdown)
  | io (message : String)
  | json (message : String)
  deriving DecidableEq

namespace AppError

/-- The status code an error is answered with. -/
def httpStatus : AppError → ℕ
  | .auth => 401
  | .config _ | .database _ | .missingSecret _ | .io _ | .json _ => 500
  | .forbidden _ => 403
  | .idempotencyConflict _ | .stateConflict _ => 409
  | .quotaExceeded _ | .rateLimited _ _ => 429
  | .pricingUnverified _ | .invalidRequest _ | .providerNotFound _ => 400
  | .notReady _ => 503
  | .notFound _ => 404
  | .transport _ | .upstreamProtocol _ | .toolArgumentsInvalid _ _ _ => 502
  | .upstream status _ _ => if 400 ≤ status ∧ status ≤ 599 then status else 502

/-- Usage reported with a rejected tool call. -/
def toolArgumentUsage : AppError → Option TokenUsageBreakdown
  | .toolArgumentsInvalid _ _ usage => usage
  | _ => none

/-- The words by which a message counts as one about tools. -/
def toolMarkers : List String := ["tool", "function", "input_json", "tool_use", "tool_result"]

/-- A message about tools. -/
def containsToolProtocolMarker (message : String) : Bool :=
  toolMarkers.any (contains (asciiLower message))

/-- The words by which an upstream message counts as one about the account's balance. -/
def balanceMarkers : List String :=
  ["insufficient_balance", "insufficient balance", "insufficient account balance",
    "balance not enough", "余额不足"]

/-- What the audit trail keeps of an upstream error body. -/
def upstreamAuditCategory (status : ℕ) (body : String) : String :=
  let normalized := asciiLower body
  if balanceMarkers.any (contains normalized) then "insufficient balance [body redacted]"
  else if status = 401 ∨ status = 403 then
    "authentication or authorization failed [body redacted]"
  else if status = 429 ∨ contains normalized "rate limit" = true then
    "rate limit [body redacted]"
  else "body [redacted]"

/-- The text of an error, in full. -/
def display : AppError → String
  | .auth => "client authentication failed"
  | .config message => "configuration error: " ++ message
  | .database message => "database error: " ++ message
  | .forbidden message => "forbidden: " ++ message
  | .idempotencyConflict message => "idempotency conflict: " ++ message
  | .stateConflict message => "state conflict: " ++ message
  | .quotaExceeded refusal => "quota exceeded: " ++ refusal.message
  | .pricingUnverified message => "verified pricing unavailable: " ++ message
  | .rateLimited message _ => "rate limited: " ++ message
  | .invalidRequest message => "invalid request: " ++ message
  | .missingSecret name => "missing secret environment variable: " ++ name
  | .notReady message => "service not ready: " ++ message
  | .notFound message => "not found: " ++ message
  | .providerNotFound id => "provider not found: " ++ id
  | .transport message => "transport error: " ++ message
  | .upstream status body _ => "upstream returned HTTP " ++ toString status ++ ": " ++ body
  | .upstreamProtocol message => "upstream protocol error: " ++ message
  | .toolArgumentsInvalid instancePath schemaPath _ =>
    "upstream tool arguments failed strict schema validation at " ++ instancePath
      ++ " (schema path " ++ schemaPath ++ "; value [redacted])"
  | .io message => message
  | .json message => message

/-- The text of an error for the client. -/
def clientMessage : AppError → String
  | .auth => "client authentication failed"
  | .config _ => "ModelPort configuration is unavailable"
  | .database _ => "ModelPort storage is unavailable"
  | .forbidden message => "request forbidden: " ++ message
  | .idempotencyConflict message => "idempotency conflict: " ++ message
  | .stateConflict _ => "management state changed; reload and retry"
  | .quotaExceeded refusal => "quota exceeded: " ++ refusal.message
  | .pricingUnverified _ => "amount-based limits require verified model pricing"
  | .rateLimited message _ => "rate limited: " ++ message
  | .invalidRequest message => "invalid request: " ++ message
  | .missingSecret _ => "a required provider credential is unavailable"
  | .notReady _ => "ModelPort is not ready to serve requests"
  | .notFound message => "not found: " ++ message
  | .providerNotFound _ => "no approved provider can serve this model"
  | .transport message =>
    if contains (asciiLower message) "timed out" then "upstream provider timed out"
    else "upstream provider connection failed"
  | .io _ => "upstream provider connection failed"
  | .upstream status body _ =>
    "upstream provider failed: " ++ upstreamAuditCategory status body
  | .upstreamProtocol _ => "upstream provider returned an incompatible response"
  | .toolArgumentsInvalid _ _ _ => "upstream provider returned invalid tool arguments"
  | .json _ => "request JSON could not be processed"

/-- The text of an error in durable records. -/
def auditMessage : AppError → String
  | .auth => "client authentication failed"
  | .config _ => "configuration error [details redacted]"
  | .database _ => "database error [details redacted]"
  | .forbidden _ => "forbidden [details redacted]"
  | .idempotencyConflict _ => "idempotency conflict [details redacted]"
  | .stateConflict _ => "state conflict [details redacted]"
  | .quotaExceeded _ => "quota exceeded [details redacted]"
  | .pricingUnverified _ => "verified pricing unavailable [details redacted]"
  | .rateLimited _ _ => "rate limited [details redacted]"
  | .invalidRequest _ => "invalid request [details redacted]"
  | .missingSecret _ => "missing secret environment variable [name redacted]"
  | .notReady _ => "service not ready [details redacted]"
  | .notFound _ => "not found [details redacted]"
  | .providerNotFound _ => "provider not found [details redacted]"
  | .transport message =>
    if contains (asciiLower message) "timed out" then
      "upstream transport timed out [details redacted]"
    else "upstream transport error [details redacted]"
  | .upstream status body _ =>
    "upstream returned HTTP " ++ toString status ++ ": " ++ upstreamAuditCategory status body
  | .upstreamProtocol message =>
    if containsToolProtocolMarker message then "upstream tool protocol error [details redacted]"
    else "upstream protocol error [details redacted]"
  | .toolArgumentsInvalid _ _ _ =>
    "upstream tool arguments failed strict schema validation "
      ++ "[value and validation paths redacted]"
  | .io _ => "I/O error [details redacted]"
  | .json _ => "JSON error [details redacted]"

end AppError

/-- The error of a failed save of a document. -/
def documentError (name : String) (revision : ℕ) : WriteThrough.SaveError → AppError
  | .conflict => .stateConflict (name ++ " state changed after revision " ++ toString revision
      ++ "; reload the latest state before retrying")
  | .unavailable => .database ("the " ++ name ++ " document was not written")

end ModelPort
