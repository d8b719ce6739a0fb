import ModelPort.Ledger.Schema

/-!
# Spend limits and quotas of an API key, its team and its user

The policy an attempt is admitted under, the totals it is compared with, and the comparison.

* `usagePolicyHasHardLimit`: whether an admission under the policy needs a usage reservation.
* `effectiveQuotaSubject`, `effectiveQuotaSubjectAliases`: the scope of the key's spend.
* `enforceUsageSpendLimits`, `enforceQuota`: the comparison with every limit of the policy.
-/

namespace ModelPort

open Relational

/-- The policy carried by a client identity. -/
structure ApiKeyPolicy where
  teamId : Option String := none
  ipRestricted : Bool := false
  allowedIps : List String := []
  allowedModels : List String := []
  allowedProviders : List String := []
  teamAllowedModels : List String := []
  teamAllowedProviders : List String := []
  teamDailyLimitUsd : ℚ := 0
  teamMonthlyLimitUsd : ℚ := 0
  spendLimitUsd : ℚ := 0
  rateLimited : Bool := false
  fiveHourLimitUsd : ℚ := 0
  dailyLimitUsd : ℚ := 0
  weeklyLimitUsd : ℚ := 0
  monthlyLimitUsd : ℚ := 0
  deriving DecidableEq

/-- What a user quota counts; any other name counts nothing. -/
inductive QuotaType where
  | requests
  | tokens
  | cost
  | other (name : String)
  deriving DecidableEq

def QuotaType.name : QuotaType → String
  | .requests => "requests"
  | .tokens => "tokens"
  | .cost => "cost"
  | .other name => name

/-- A limit on tokens or cost. -/
structure UsageQuotaLimit where
  id : String
  userId : String
  quotaType : QuotaType
  limit : ℚ
  periodStartMs : ℕ
  deriving DecidableEq

/-- The limits an attempt is admitted under. -/
structure UsagePolicySnapshot where
  userId : String := ""
  username : String := ""
  apiKeyId : Option String := none
  quotaSubjectId : Option String := none
  quotaSubjectAliases : List String := []
  teamId : Option String := none
  apiKeyPolicy : ApiKeyPolicy := {}
  quotas : List UsageQuotaLimit := []
  deriving DecidableEq

/-! ### Which limits a policy has -/

variable (policy : UsagePolicySnapshot)

def usagePolicyHasAmountLimit : Bool :=
  let limits := policy.apiKeyPolicy
  0 < limits.spendLimitUsd
    || 0 < limits.fiveHourLimitUsd
    || 0 < limits.dailyLimitUsd
    || 0 < limits.weeklyLimitUsd
    || 0 < limits.monthlyLimitUsd
    || 0 < limits.teamDailyLimitUsd
    || 0 < limits.teamMonthlyLimitUsd
    || policy.quotas.any fun quota => quota.quotaType == .cost

def usagePolicyHasHardLimit : Bool :=
  usagePolicyHasAmountLimit policy || !policy.quotas.isEmpty

/-- Whether an attempt under this policy reserves usage capacity. -/
def reservesUsage : Bool :=
  !policy.userId.isEmpty && usagePolicyHasHardLimit policy

def validateUsageReservationPricing (pricingVerified : Bool) : Except AppError Unit :=
  if pricingVerified || policy.userId.isEmpty || !usagePolicyHasAmountLimit policy then .ok ()
  else .error (.pricingUnverified
    "API key, team, or user amount limit requires configured model pricing")

def effectiveQuotaSubject : Option String :=
  policy.quotaSubjectId.or policy.apiKeyId

/-- `sort` and `dedup` of a list of strings. -/
def sortDedup (l : List String) : List String := (l.insertionSort (· ≤ ·)).dedup

@[simp] lemma mem_sortDedup {a : String} {l : List String} : a ∈ sortDedup l ↔ a ∈ l := by
  simp [sortDedup]

def effectiveQuotaSubjectAliases : List String :=
  sortDedup (policy.quotaSubjectAliases ++ (effectiveQuotaSubject policy).toList
    ++ policy.apiKeyId.toList)

/-- The advisory locks of an admission, in the order they are taken. -/
def usageScopes : List String :=
  sortDedup (("usage:user:" ++ policy.userId)
    :: ((effectiveQuotaSubject policy).map ("usage:subject:" ++ ·)).toList
    ++ (policy.teamId.map ("usage:team:" ++ ·)).toList)

/-! ### Totals -/

/-- The cast to `BIGINT`, which raises an error out of range. -/
def bigint (value : ℤ) : Except AppError ℤ :=
  if -i64Max - 1 ≤ value ∧ value ≤ i64Max then .ok value
  else .error (.database "bigint out of range")

lemma bigint_eq_ok {value result : ℤ} (h : bigint value = .ok result) : result = value := by
  unfold bigint at h
  split at h
  · exact (Except.ok.inj h).symm
  · cases h

/-- A finished request that counts towards spend and quotas. -/
def RequestRow.counts (r : RequestRow) : Bool := r.record.state != .started && r.record.chargeable

/-- The sum of a column over the finished chargeable requests and another over the open usage
reservations, each restricted to rows in scope. -/
def usageTotal (d : Ledger) (inRequest : RequestRow → Bool) (ofRequest : RequestRow → ℤ)
    (inUsage : UsageRow → Bool) (ofUsage : UsageRow → ℤ) : ℤ :=
  (d.requests.total fun r => if r.counts && inRequest r then ofRequest r else 0)
    + d.usage.total fun u => if u.state = .reserved && inUsage u then ofUsage u else 0

/-- A moving window: everything, or what was created since a point in time. -/
def inWindow (since : Option Timestamp) (createdAt : Timestamp) : Bool :=
  since.all (· ≤ createdAt)

/-- The spend of a scope, given by its quota subjects and teams, inside a window. -/
def spendMicrounits (d : Ledger) (inScope : Option String → Option String → Bool)
    (since : Option Timestamp) : ℤ :=
  usageTotal d
    (fun r => inScope r.metadata.quotaSubjectId r.metadata.teamId
      && inWindow since r.record.createdAt)
    (fun r => r.record.billableCostMicrounits.getD 0)
    (fun u => inScope u.quotaSubjectId u.teamId && inWindow since u.createdAt)
    (fun u => u.reservedCostMicrounits)

/-- `quota_subject_id = ANY(aliases)`. -/
def inSubjects (aliases : List String) (subject _team : Option String) : Bool :=
  subject.any aliases.contains

/-- `team_id = team`, which no row satisfies without a team. -/
def inTeam (team : Option String) (_subject rowTeam : Option String) : Bool :=
  team.isSome && rowTeam == team

/-- The length of the moving windows, in microseconds. -/
def hours (n : ℤ) : ℤ := n * 3600000000

/-- Spend in each window. -/
structure UsageSpendTotals where
  apiKeyAllTime : ℚ
  apiKeyFiveHours : ℚ
  apiKeyDay : ℚ
  apiKeyWeek : ℚ
  apiKeyMonth : ℚ
  teamDay : ℚ
  teamMonth : ℚ
  deriving DecidableEq

def usageSpendTotals (now : Timestamp) (d : Ledger) : Except AppError UsageSpendTotals := do
  let key := inSubjects (effectiveQuotaSubjectAliases policy)
  let team := inTeam policy.teamId
  let allTime ← bigint (spendMicrounits d key none)
  let fiveHours ← bigint (spendMicrounits d key (some (now - hours 5)))
  let day ← bigint (spendMicrounits d key (some (now - hours 24)))
  let week ← bigint (spendMicrounits d key (some (now - hours (24 * 7))))
  let month ← bigint (spendMicrounits d key (some (now - hours (24 * 30))))
  let teamDay ← bigint (spendMicrounits d team (some (now - hours 24)))
  let teamMonth ← bigint (spendMicrounits d team (some (now - hours (24 * 30))))
  return {
    apiKeyAllTime := microunitsUsd allTime
    apiKeyFiveHours := microunitsUsd fiveHours
    apiKeyDay := microunitsUsd day
    apiKeyWeek := microunitsUsd week
    apiKeyMonth := microunitsUsd month
    teamDay := microunitsUsd teamDay
    teamMonth := microunitsUsd teamMonth }

variable (quota : UsageQuotaLimit)

/-- The start of a quota's period as a timestamp. -/
def UsageQuotaLimit.periodStart : Timestamp :=
  toI64 quota.periodStartMs * 1000

/-- One of the three totals of a quota. -/
def quotaTotal (d : Ledger) (ofRequest : RequestRow → ℤ) (ofUsage : UsageRow → ℤ) : ℤ :=
  usageTotal d
    (fun r => r.principalId == quota.userId && decide (quota.periodStart ≤ r.record.createdAt))
    ofRequest
    (fun u => u.userId == quota.userId && decide (quota.periodStart ≤ u.createdAt))
    ofUsage

def RequestRow.tokens (r : RequestRow) : ℤ :=
  r.record.inputTokens + r.record.outputTokens + r.record.cacheWriteTokens
    + r.record.cacheReadTokens

/-- Requests, tokens and microunits used in a quota's period. -/
def quotaTotals (d : Ledger) : Except AppError (ℕ × ℕ × ℤ) := do
  let requests ← bigint (quotaTotal quota d (fun _ => 1) UsageRow.reservedRequests)
  let tokens ← bigint (quotaTotal quota d RequestRow.tokens UsageRow.reservedTokens)
  let cost ← bigint (quotaTotal quota d (fun r => r.record.billableCostMicrounits.getD 0)
    UsageRow.reservedCostMicrounits)
  return (requests.toNat, tokens.toNat, cost)

/-! ### Comparison -/

/-- What one more attempt reserves. -/
structure UsageReservationIncrement where
  requests : ℕ
  tokens : ℕ
  costMicrounits : ℤ
  deriving DecidableEq

def UsageReservationIncrement.forAttempt (estimate : UsageEstimate) (firstAttempt : Bool) :
    UsageReservationIncrement where
  requests := if firstAttempt then 1 else 0
  tokens := estimateTotalTokens estimate
  costMicrounits := ModelPort.costMicrounits estimate.costEstimate

def quotaValueFromTotals (quotaType : QuotaType) (requests tokens : ℕ) (costMicrounits : ℤ) : ℚ :=
  match quotaType with
  | .requests => requests
  | .tokens => tokens
  | .cost => microunitsUsd costMicrounits
  | .other _ => 0

def UsageReservationIncrement.quotaValue (increment : UsageReservationIncrement)
    (quotaType : QuotaType) : ℚ :=
  quotaValueFromTotals quotaType increment.requests increment.tokens increment.costMicrounits

def enforceSpendLimit (label : String) (limit used incoming : ℚ) : Except AppError Unit :=
  if 0 < limit ∧ limit < used + incoming then
    .error (.quotaExceeded (.spend label (used + incoming) limit))
  else .ok ()

/-- The moving windows of a rate-limited key. -/
def enforceRateLimits (limits : ApiKeyPolicy) (spend : UsageSpendTotals) (incoming : ℚ) :
    Except AppError Unit :=
  if limits.rateLimited then do
    enforceSpendLimit "5 hour spend" limits.fiveHourLimitUsd spend.apiKeyFiveHours incoming
    enforceSpendLimit "daily spend" limits.dailyLimitUsd spend.apiKeyDay incoming
    enforceSpendLimit "7 day spend" limits.weeklyLimitUsd spend.apiKeyWeek incoming
    enforceSpendLimit "monthly spend" limits.monthlyLimitUsd spend.apiKeyMonth incoming
  else .ok ()

def enforceUsageSpendLimits (spend : UsageSpendTotals)
    (incomingCostMicrounits : ℤ) : Except AppError Unit := do
  let incoming := microunitsUsd incomingCostMicrounits
  let limits := policy.apiKeyPolicy
  enforceSpendLimit "total spend" limits.spendLimitUsd spend.apiKeyAllTime incoming
  enforceRateLimits limits spend incoming
  enforceSpendLimit "team daily spend" limits.teamDailyLimitUsd spend.teamDay incoming
  enforceSpendLimit "team monthly spend" limits.teamMonthlyLimitUsd spend.teamMonth incoming

def enforceQuota
    (increment : UsageReservationIncrement) (totals : ℕ × ℕ × ℤ) : Except AppError Unit :=
  let used := quotaValueFromTotals quota.quotaType totals.1 totals.2.1 totals.2.2
  let incoming := increment.quotaValue quota.quotaType
  if 0 < incoming ∧ quota.limit < used + incoming then
    .error (.quotaExceeded (.quota quota.quotaType.name policy.username))
  else .ok ()

end ModelPort
