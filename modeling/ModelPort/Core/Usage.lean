import Mathlib

/-!
# Token usage, prices and amounts

Token counters are natural numbers; the saturating sums of `u64` are written out as
`saturatingAdd`. Dollar amounts are exact rationals, and the ledger's microunits are integers.

* `toI64` is the saturating conversion into a `BIGINT` column.
-/

namespace ModelPort

/-- `u64::MAX`. -/
def u64Max : ℕ := 2 ^ 64 - 1

/-- `i64::MAX`, the largest `BIGINT`. -/
def i64Max : ℤ := 2 ^ 63 - 1

/-- `u64::saturating_add`. -/
def saturatingAdd (a b : ℕ) : ℕ := min (a + b) u64Max

/-- Token counters as a provider reports them. -/
structure TokenUsageBreakdown where
  inputTokens : ℕ := 0
  outputTokens : ℕ := 0
  cacheWriteTokens : ℕ := 0
  cacheReadTokens : ℕ := 0
  deriving DecidableEq

/-- Dollar prices per million tokens. -/
structure ModelPricing where
  inputPerMillion : ℚ
  outputPerMillion : ℚ
  cacheWritePerMillion : ℚ
  cacheReadPerMillion : ℚ
  deriving DecidableEq

/-- Where a price comes from. -/
inductive PricingSource where
  | providerPublished
  | providerContract
  | internalChargeback
  | legacyEstimate
  deriving DecidableEq

/-- The tier that is charged. -/
inductive PricingServiceTier where
  | standard
  | batch
  | flex
  | priority
  | custom
  deriving DecidableEq

/-- A versioned rate card for one exact model. -/
structure ModelPricingCard where
  rates : ModelPricing
  version : String
  effectiveAt : String
  currency : String
  source : PricingSource
  serviceTier : PricingServiceTier
  region : Option String
  evidence : String
  deriving DecidableEq

/-- How a cost was found. -/
inductive PricingMethod where
  | providerReported
  | exactRateCard
  deriving DecidableEq

/-- What a billable amount rests on. -/
structure PricingEvidence where
  provider : String
  model : String
  method : PricingMethod
  currency : String
  version : String
  effectiveAt : String
  source : PricingSource
  serviceTier : PricingServiceTier
  region : Option String
  evidence : String
  rates : Option ModelPricing
  deriving DecidableEq

/-- The usage of an attempt or of a request, measured or estimated. -/
structure UsageEstimate where
  inputTokens : ℕ := 0
  outputTokens : ℕ := 0
  cacheWriteTokens : ℕ := 0
  cacheReadTokens : ℕ := 0
  costEstimate : ℚ := 0
  actualCost : Option ℚ := none
  billableCost : Option ℚ := none
  deriving DecidableEq

instance : Inhabited UsageEstimate := ⟨{}⟩

/-- A usage as it travels from a provider adapter to the handler. -/
structure UsageCharge where
  inputTokens : ℕ
  outputTokens : ℕ
  cacheWriteTokens : ℕ
  cacheReadTokens : ℕ
  costEstimate : ℚ
  actualCost : Option ℚ
  billableCost : Option ℚ
  pricingEvidence : Option PricingEvidence
  deriving DecidableEq

/-! ### Microunits -/

/-- Saturating conversion of a counter into a `BIGINT`. -/
def toI64 (value : ℕ) : ℤ := min (value : ℤ) i64Max

/-- Dollars in microunits: rounded to the nearest, never negative, capped at `i64::MAX`. -/
def costMicrounits (value : ℚ) : ℤ :=
  if value ≤ 0 then 0 else min ⌊value * 1000000 + 1 / 2⌋ i64Max

/-- Microunits in dollars; negative amounts count as zero. -/
def microunitsUsd (value : ℤ) : ℚ := (max value 0 : ℤ) / 1000000

/-- All four counters of an estimate. -/
def estimateTotalTokens (estimate : UsageEstimate) : ℕ :=
  saturatingAdd
    (saturatingAdd (saturatingAdd estimate.inputTokens estimate.outputTokens)
      estimate.cacheWriteTokens)
    estimate.cacheReadTokens

lemma toI64_nonneg (value : ℕ) : 0 ≤ toI64 value := by
  unfold toI64 i64Max
  omega

lemma costMicrounits_nonneg (value : ℚ) : 0 ≤ costMicrounits value := by
  unfold costMicrounits
  split
  · exact le_rfl
  · have hfloor : 0 ≤ ⌊value * 1000000 + 1 / 2⌋ := Int.floor_nonneg.2 (by linarith)
    exact le_min hfloor (by decide)

end ModelPort
