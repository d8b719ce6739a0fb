import ModelPort.Core.Error

/-!
# Prices, charges and the sum of usages

`pricingForModel` is the built-in price table, `chargeWithEvidence` turns reported token counts
into a charge, and `mergeUsageEstimates` adds the usages of two attempts. Counters saturate,
dollar amounts are exact, and an absent billable amount is neutral.
-/

namespace ModelPort.Gateway

/-! ### Prices -/

/-- The built-in table: the first entry one of whose words stands in the model's name applies. -/
def priceTable : List (List String × ModelPricing) :=
  [(["deepseek-v4-pro"], ⟨0.435, 0.87, 0.435, 0.003625⟩),
    (["deepseek-v4-flash", "deepseek-chat", "deepseek-reasoner"], ⟨0.14, 0.28, 0.14, 0.0028⟩),
    (["claude-fable-5", "claude-mythos-5"], ⟨10, 50, 12.5, 1⟩),
    (["claude-opus-4"], ⟨5, 25, 6.25, 0.5⟩),
    (["claude-sonnet-4"], ⟨3, 15, 3.75, 0.3⟩),
    (["claude-haiku-4-5"], ⟨1, 5, 1.25, 0.1⟩),
    (["claude-3-5-haiku"], ⟨0.8, 4, 1, 0.08⟩),
    (["gpt-5.5-pro", "gpt-5.4-pro"], ⟨15, 90, 15, 15⟩),
    (["gpt-5.5"], ⟨2.5, 15, 2.5, 0.25⟩),
    (["gpt-5.4-mini"], ⟨0.75, 4.5, 0.9375, 0.075⟩),
    (["gpt-5.4-nano"], ⟨0.20, 1.25, 0.25, 0.02⟩),
    (["gpt-5.4"], ⟨2.5, 15, 3.125, 0.25⟩),
    (["mimo-"], ⟨0.14, 0.28, 0, 0.0028⟩),
    (["gpt-4o-mini"], ⟨0.15, 0.60, 0.15, 0.075⟩),
    (["gpt-4o"], ⟨2.5, 10, 2.5, 1.25⟩),
    (["gpt-", "openai/"], ⟨1.25, 7.5, 1.25, 0.125⟩),
    (["gemini-"], ⟨1.25, 10, 1.25, 0.125⟩),
    (["qwen-", "kimi-", "glm-"], ⟨0.6, 2.4, 0.6, 0.06⟩)]

/-- The price of a model nobody configured one for. -/
def pricingForModel (model : String) : ModelPricing :=
  match priceTable.find? fun entry => entry.1.any (contains (asciiLower model)) with
  | some entry => entry.2
  | none => ⟨1, 4, 1, 0.1⟩

/-- The price of some tokens. -/
def costComponent (tokens : ℕ) (pricePerMillion : ℚ) : ℚ := tokens / 1000000 * pricePerMillion

/-- The price of a usage. -/
def costWithPricing (usage : TokenUsageBreakdown) (pricing : ModelPricing) : ℚ :=
  costComponent usage.inputTokens pricing.inputPerMillion
    + costComponent usage.outputTokens pricing.outputPerMillion
    + costComponent usage.cacheWriteTokens pricing.cacheWritePerMillion
    + costComponent usage.cacheReadTokens pricing.cacheReadPerMillion

/-! ### Charges -/

/-- The evidence for a cost the provider itself reported. -/
def reportedEvidence (provider model : String) : PricingEvidence where
  provider := provider
  model := model
  method := .providerReported
  currency := "USD"
  version := "provider-response-v1"
  effectiveAt := "response-time"
  source := .providerContract
  serviceTier := .standard
  region := none
  evidence := "upstream usage.cost"
  rates := none

/-- The evidence for a cost computed from a rate card. -/
def cardEvidence (provider model : String) (card : ModelPricingCard) : PricingEvidence where
  provider := provider
  model := model
  method := .exactRateCard
  currency := card.currency
  version := card.version
  effectiveAt := card.effectiveAt
  source := card.source
  serviceTier := card.serviceTier
  region := card.region
  evidence := card.evidence
  rates := some card.rates

/-- The charge for reported token counts. Only a cost that the provider reported, or one from a
rate card, is billable. -/
def chargeWithEvidence (provider model : String) (usage : TokenUsageBreakdown)
    (legacyPricing : Option ModelPricing) (card : Option ModelPricingCard)
    (reportedCost : Option ℚ) : UsageCharge :=
  let applied := ((card.map (·.rates)).or legacyPricing).getD (pricingForModel model)
  let calculated := costWithPricing usage applied
  let (actual, evidence) :=
    match reportedCost.filter (0 ≤ ·), card with
    | some cost, _ => (some cost, some (reportedEvidence provider model))
    | none, some card => (some calculated, some (cardEvidence provider model card))
    | none, none => (none, none)
  { inputTokens := usage.inputTokens
    outputTokens := usage.outputTokens
    cacheWriteTokens := usage.cacheWriteTokens
    cacheReadTokens := usage.cacheReadTokens
    costEstimate := calculated
    actualCost := actual
    billableCost := actual
    pricingEvidence := evidence }

/-- The usage of a charge. -/
def usageEstimateFromCharge (charge : UsageCharge) : UsageEstimate where
  inputTokens := charge.inputTokens
  outputTokens := charge.outputTokens
  cacheWriteTokens := charge.cacheWriteTokens
  cacheReadTokens := charge.cacheReadTokens
  costEstimate := charge.costEstimate
  actualCost := charge.actualCost
  billableCost := charge.billableCost

/-! ### Sums of usages -/

/-- The actual cost of two attempts: known when both are, or when one is and the other used
nothing. -/
def mergeCompleteCost (left right : UsageEstimate) : Option ℚ :=
  match left.actualCost, right.actualCost with
  | some l, some r => some (l + r)
  | none, some r =>
    if estimateTotalTokens left = 0 ∧ left.costEstimate = 0 then some r else none
  | some l, none =>
    if estimateTotalTokens right = 0 ∧ right.costEstimate = 0 then some l else none
  | none, none => none

/-- The billable cost of two attempts: what is known of it. -/
def mergeBillableCost : Option ℚ → Option ℚ → Option ℚ
  | some l, some r => some (l + r)
  | some l, none => some l
  | none, some r => some r
  | none, none => none

/-- The usage of two attempts. -/
def mergeUsageEstimates (left right : UsageEstimate) : UsageEstimate where
  inputTokens := saturatingAdd left.inputTokens right.inputTokens
  outputTokens := saturatingAdd left.outputTokens right.outputTokens
  cacheWriteTokens := saturatingAdd left.cacheWriteTokens right.cacheWriteTokens
  cacheReadTokens := saturatingAdd left.cacheReadTokens right.cacheReadTokens
  costEstimate := left.costEstimate + right.costEstimate
  actualCost := mergeCompleteCost left right
  billableCost := mergeBillableCost left.billableCost right.billableCost

end ModelPort.Gateway
