import ModelPort.Core.Error

/-!
# Provider configuration

The part of a provider's configuration that routing, admission and accounting read.
`ProviderConfig.endpoint` is the address a request to the provider is sent to; a credential of
the provider may replace the base URL (`ProviderConfig.withCredential`).
-/

namespace ModelPort

/-- A map with string keys. -/
abbrev StringMap (V : Type) := AList fun _ : String => V

namespace Routing

/-- The protocol a provider speaks. -/
inductive ProviderProtocol where
  | anthropic
  | openaiCompat
  deriving DecidableEq

/-- The name of a protocol in ledger rows. -/
def ProviderProtocol.value : ProviderProtocol → String
  | .anthropic => "anthropic"
  | .openaiCompat => "openai-compat"

/-- How tokens are counted. -/
inductive TokenCountingMode where
  | none
  | anthropic
  deriving DecidableEq

/-- How a provider counts tokens, and the limits it admits requests by. -/
structure TokenCountingConfig where
  mode : TokenCountingMode := .none
  contextTokens : Option ℕ := none
  recommendedReasoningInputTokens : Option ℕ := none
  modelRecommendedInputTokens : StringMap ℕ := ∅
  maxOutputTokens : Option ℕ := none
  modelMaxOutputTokens : StringMap ℕ := ∅
  deriving DecidableEq

/-- A configured provider. -/
structure ProviderConfig where
  protocol : ProviderProtocol
  baseUrl : String
  apiKeyEnv : Option String
  apiKey : Option String
  apiKeyRequired : Bool
  /-- `{DISPLAY_NAME}_API_KEY`, the name a missing key is reported under by default -/
  defaultKeyName : String
  defaultModel : String
  models : List String
  modelPrefixes : List String
  passthroughUnknownModels : Bool
  /-- `tool_use.repair_invalid_arguments` -/
  repairInvalidArguments : Bool
  tokenCounting : TokenCountingConfig
  /-- `retry.max_attempts` -/
  maxAttempts : ℕ
  pricing : Option ModelPricing
  modelPricing : StringMap ModelPricingCard
  trustUpstreamCost : Bool
  deriving DecidableEq

/-- A provider and the model to ask it for. -/
structure ResolvedProvider where
  providerId : String
  provider : ProviderConfig
  model : String
  deriving DecidableEq

/-- A credential of a provider, possibly with an address of its own. -/
structure ProviderCredentialRecord where
  id : String
  apiKeyEnv : String
  baseUrl : Option String
  status : String
  deriving DecidableEq

namespace ProviderConfig

variable (p : ProviderConfig)

/-- The rate card of a model. -/
def modelPricingCard (model : String) : Option ModelPricingCard :=
  p.modelPricing.lookup model

/-- The prices of a model: its rate card's, or the provider-wide estimate. -/
def effectivePricing (model : String) : Option ModelPricing :=
  ((p.modelPricingCard model).map (·.rates)).or p.pricing

/-- The provider's API key; an error when one is required and missing. -/
def requireApiKey : Except AppError (Option String) :=
  match p.apiKey with
  | some key => .ok (some key)
  | none =>
    if p.apiKeyRequired then .error (.missingSecret (p.apiKeyEnv.getD p.defaultKeyName))
    else .ok none

/-- The URL of a path below the provider's base URL. -/
def endpoint (path : String) : String :=
  trimEndMatches '/' p.baseUrl ++ "/" ++ trimStartMatches '/' path

/-- A provider with the key and, if it has one, the address of a credential. -/
def withCredential (record : ProviderCredentialRecord) (key : Option String) : ProviderConfig :=
  { p with
    apiKeyEnv := some record.apiKeyEnv
    apiKey := key
    baseUrl := record.baseUrl.getD p.baseUrl }

end ProviderConfig

end Routing

end ModelPort
