import ModelPort.Core.Error
import ModelPort.Lib.Sql

/-!
# The tables of the enterprise ledger

The rows of the PostgreSQL backend, their unique keys and `CHECK` constraints, and the
database `Ledger` they form. Columns of gateway requests and provider attempts that have the
same name and meaning are one record, `RecordColumns`.

* `RecordColumns.finish` is the `SET` clause that writes a terminal outcome.
* `Ledger.requestsT` and its siblings are the lenses the statements go through.
-/

namespace ModelPort

open Relational

/-- A point in time, in microseconds. -/
abbrev Timestamp := ℤ

/-- The scope of every ledger row. -/
structure TenantKey where
  organizationId : String
  projectId : String
  environmentId : String
  deriving DecidableEq

/-! ### Terminal outcomes -/

/-- The `state` column of requests and attempts. -/
inductive RecordState where
  | started
  | completed
  | failed
  | cancelled
  deriving DecidableEq

/-- The states a record can end in. -/
inductive TerminalState where
  | completed
  | failed
  | cancelled
  deriving DecidableEq

/-- A terminal state as a column value. -/
def TerminalState.toRecord : TerminalState → RecordState
  | .completed => .completed
  | .failed => .failed
  | .cancelled => .cancelled

@[simp] lemma TerminalState.toRecord_ne_started (s : TerminalState) : s.toRecord ≠ .started := by
  cases s <;> decide

/-- What became of tool calls. -/
inductive ToolOutcome where
  | notRequested
  | continuationToolCalled
  | toolCalled
  | finalAnswer
  | answeredWithoutTool
  | completedUnobserved
  | clientCancelled
  | timeout
  | protocolError
  | upstreamOrDeliveryError
  deriving DecidableEq

/-- What a finished attempt or request is recorded with. -/
structure LedgerOutcome where
  state : TerminalState
  statusCode : ℕ
  terminalReason : String
  errorMessage : Option String
  estimate : UsageEstimate
  pricingEvidence : Option PricingEvidence
  billingMode : String
  chargeable : Bool
  latencyMs : ℤ
  firstByteLatencyMs : Option ℤ
  toolOutcome : ToolOutcome
  toolRepairAttempted : Bool
  toolRepairRecovered : Bool
  retryCount : ℤ
  fallbackFromProvider : Option String
  deriving DecidableEq

/-- The columns that requests and attempts have in common. -/
structure RecordColumns where
  state : RecordState := .started
  statusCode : Option ℕ := none
  terminalReason : Option String := none
  errorMessage : Option String := none
  inputTokens : ℤ := 0
  outputTokens : ℤ := 0
  cacheWriteTokens : ℤ := 0
  cacheReadTokens : ℤ := 0
  costAmountMicrounits : ℤ := 0
  actualCostMicrounits : Option ℤ := none
  billableCostMicrounits : Option ℤ := none
  pricingEvidence : Option PricingEvidence := none
  billingMode : Option String := none
  chargeable : Bool := false
  latencyMs : ℤ := 0
  firstByteLatencyMs : Option ℤ := none
  toolOutcome : ToolOutcome := .notRequested
  toolRepairAttempted : Bool := false
  toolRepairRecovered : Bool := false
  retryCount : ℤ := 0
  fallbackFromProvider : Option String := none
  leaseOwner : String
  leaseExpiresAt : Timestamp
  createdAt : Timestamp
  updatedAt : Timestamp
  completedAt : Option Timestamp := none
  deriving DecidableEq

namespace RecordColumns

/-- The columns of a record begun at `now` with a lease of `ttl` seconds. -/
def fresh (leaseOwner : String) (ttl : ℕ) (now : Timestamp) : RecordColumns where
  leaseOwner := leaseOwner
  leaseExpiresAt := now + ttl * 1000000
  createdAt := now
  updatedAt := now

/-- The `SET` clause of `update_terminal_record_pg`. -/
def finish (outcome : LedgerOutcome) (now : Timestamp) (c : RecordColumns) : RecordColumns :=
  { c with
    state := outcome.state.toRecord
    statusCode := some outcome.statusCode
    terminalReason := some outcome.terminalReason
    errorMessage := outcome.errorMessage
    inputTokens := toI64 outcome.estimate.inputTokens
    outputTokens := toI64 outcome.estimate.outputTokens
    cacheWriteTokens := toI64 outcome.estimate.cacheWriteTokens
    cacheReadTokens := toI64 outcome.estimate.cacheReadTokens
    costAmountMicrounits := costMicrounits outcome.estimate.costEstimate
    actualCostMicrounits := outcome.estimate.actualCost.map costMicrounits
    billableCostMicrounits := outcome.estimate.billableCost.map costMicrounits
    pricingEvidence := outcome.pricingEvidence
    billingMode := some outcome.billingMode
    chargeable := outcome.chargeable
    latencyMs := outcome.latencyMs
    firstByteLatencyMs := outcome.firstByteLatencyMs
    toolOutcome := outcome.toolOutcome
    toolRepairAttempted := outcome.toolRepairAttempted
    toolRepairRecovered := outcome.toolRepairRecovered
    retryCount := outcome.retryCount
    fallbackFromProvider := outcome.fallbackFromProvider
    updatedAt := now
    completedAt := some now }

/-- The `SET` clause of `reconcile_expired`, with the error text of the table. -/
def expire (errorMessage : String) (now : Timestamp) (c : RecordColumns) : RecordColumns :=
  { c with
    state := .failed
    statusCode := some 500
    terminalReason := some "lease_expired_unreconciled"
    errorMessage := some errorMessage
    billingMode := some "unreconciled"
    chargeable := false
    latencyMs := max 0 ((now - c.createdAt + 500) / 1000)
    updatedAt := now
    completedAt := some now }

/-- The `SET` clause of a lease renewal. -/
def renew (ttl : ℕ) (now : Timestamp) (c : RecordColumns) : RecordColumns :=
  { c with leaseExpiresAt := now + ttl * 1000000, updatedAt := now }

/-- The `CHECK` constraints on these columns. -/
def check (c : RecordColumns) : Bool :=
  (c.statusCode.all fun s => 100 ≤ s ∧ s ≤ 599)
    && (0 ≤ c.inputTokens && 0 ≤ c.outputTokens && 0 ≤ c.cacheWriteTokens
      && 0 ≤ c.cacheReadTokens && 0 ≤ c.costAmountMicrounits)
    && (c.actualCostMicrounits.all (0 ≤ ·) && c.billableCostMicrounits.all (0 ≤ ·)
      && (c.billableCostMicrounits.isNone || c.pricingEvidence.isSome))
    && (0 ≤ c.latencyMs && c.firstByteLatencyMs.all (0 ≤ ·) && 0 ≤ c.retryCount)

end RecordColumns

/-! ### Gateway requests -/

/-- The evidence of a routing decision, as the router hands it over. -/
structure RoutingDecisionEvidence where
  decisionId : String
  groupId : Option String
  profile : String
  policyVersion : String
  mode : String
  candidateCount : ℕ
  selectedProvider : String
  selectedModel : String
  recommendedProvider : String
  recommendedModel : String
  selectedScore : ℚ
  recommendedScore : ℚ
  reasonCodes : List String
  sessionAffinity : Bool
  shadowDisagreement : Bool
  deriving DecidableEq

/-- What the handler tells the ledger about a request. -/
structure LedgerRequestMetadata where
  requestPath : String
  trafficClass : String
  toolUseRequested : Bool
  username : String
  apiKeyId : Option String
  quotaSubjectId : Option String
  apiKeyName : Option String
  apiKeyGroup : Option String
  teamId : Option String
  teamName : Option String
  clientIp : Option String
  routingDecision : Option RoutingDecisionEvidence
  deriving DecidableEq

/-- The keys of a gateway request: its id, and its entry in the partial unique index on
idempotency keys. -/
inductive RequestKey where
  | ledgerId (id : String)
  | idempotency (tenant : TenantKey) (keyHash : String)
  deriving DecidableEq

/-- A row of `modelport_gateway_requests`. -/
structure RequestRow where
  ledgerId : String
  tenant : TenantKey
  requestId : String
  principalId : String
  clientProtocol : String
  requestedModel : String
  stream : Bool
  metadata : LedgerRequestMetadata
  idempotencyKeyHash : Option String
  requestFingerprint : String
  providerId : Option String := none
  resolvedModel : Option String := none
  providerProtocol : Option String := none
  lastAttemptId : Option String := none
  record : RecordColumns
  deriving DecidableEq

def RequestRow.keys (r : RequestRow) : List RequestKey :=
  .ledgerId r.ledgerId :: (r.idempotencyKeyHash.map (.idempotency r.tenant)).toList

/-- The keys of a routing decision: its id and, one decision a request, the request. -/
inductive DecisionKey where
  | decisionId (id : String)
  | request (ledgerId : String)
  deriving DecidableEq

/-- A row of `modelport_routing_decisions`. -/
structure DecisionRow where
  requestLedgerId : String
  tenant : TenantKey
  evidence : RoutingDecisionEvidence
  deriving DecidableEq

def DecisionRow.keys (r : DecisionRow) : List DecisionKey :=
  [.decisionId r.evidence.decisionId, .request r.requestLedgerId]

/-! ### Provider attempts -/

/-- A row of `modelport_provider_attempts`. -/
structure AttemptRow where
  attemptId : String
  requestLedgerId : String
  tenant : TenantKey
  providerId : String
  resolvedModel : String
  providerProtocol : String
  record : RecordColumns
  deriving DecidableEq

def AttemptRow.keys (r : AttemptRow) : List String := [r.attemptId]

/-! ### Budgets -/

/-- A row of `modelport_budget_accounts`, in dollars. -/
structure AccountRow where
  tenant : TenantKey
  limitMicrounits : Option ℤ := none
  reservedMicrounits : ℤ := 0
  settledMicrounits : ℤ := 0
  version : ℤ := 0
  deriving DecidableEq

def AccountRow.keys (r : AccountRow) : List TenantKey := [r.tenant]

/-- The state of a reservation. -/
inductive ReservationState where
  | reserved
  | settled
  | released
  deriving DecidableEq

/-- The keys of a budget reservation: its id, and the attempt it is for. -/
inductive ReservationKey where
  | id (reservationId : String)
  | attempt (tenant : TenantKey) (attemptId : String)
  deriving DecidableEq

/-- A row of `modelport_budget_reservations`. -/
structure ReservationRow where
  reservationId : String
  tenant : TenantKey
  requestLedgerId : String
  attemptId : String
  reservedMicrounits : ℤ
  settledMicrounits : ℤ := 0
  state : ReservationState := .reserved
  evidenceSource : Option String := none
  billingMode : Option String := none
  createdAt : Timestamp
  updatedAt : Timestamp
  terminalAt : Option Timestamp := none
  deriving DecidableEq

def ReservationRow.keys (r : ReservationRow) : List ReservationKey :=
  [.id r.reservationId, .attempt r.tenant r.attemptId]

/-- What a budget event records. -/
inductive EventType where
  | reservationCreated
  | settled
  | released
  | adjustment
  deriving DecidableEq

/-- A row of the append-only table `modelport_budget_events`. -/
structure BudgetEvent where
  tenant : TenantKey
  reservationId : Option String
  requestLedgerId : Option String
  attemptId : Option String
  eventType : EventType
  reservedDelta : ℤ
  settledDelta : ℤ
  evidenceSource : String
  billingMode : Option String
  reason : Option String
  actorId : Option String
  inputTokens : ℤ := 0
  outputTokens : ℤ := 0
  cacheWriteTokens : ℤ := 0
  cacheReadTokens : ℤ := 0
  createdAt : Timestamp
  deriving DecidableEq

/-! ### Usage reservations -/

/-- A row of `modelport_usage_reservations`: one for each logical request. -/
structure UsageRow where
  tenant : TenantKey
  requestLedgerId : String
  quotaSubjectId : Option String
  teamId : Option String
  userId : String
  reservedRequests : ℤ
  reservedTokens : ℤ
  reservedCostMicrounits : ℤ
  actualRequests : ℤ := 0
  actualTokens : ℤ := 0
  actualCostMicrounits : ℤ := 0
  state : ReservationState := .reserved
  evidenceSource : Option String := none
  billingMode : Option String := none
  createdAt : Timestamp
  updatedAt : Timestamp
  terminalAt : Option Timestamp := none
  deriving DecidableEq

def UsageRow.keys (r : UsageRow) : List (TenantKey × String) := [(r.tenant, r.requestLedgerId)]

/-! ### The database -/

/-- The ledger's database. -/
structure Ledger where
  environments : Table (fun t : TenantKey => [t])
  requests : Table RequestRow.keys
  decisions : Table DecisionRow.keys
  attempts : Table AttemptRow.keys
  accounts : Table AccountRow.keys
  reservations : Table ReservationRow.keys
  /-- the newest first -/
  events : List BudgetEvent
  usage : Table UsageRow.keys

namespace Ledger

/-- A ledger without rows. -/
def empty : Ledger where
  environments := Table.empty
  requests := Table.empty
  decisions := Table.empty
  attempts := Table.empty
  accounts := Table.empty
  reservations := Table.empty
  events := []
  usage := Table.empty

/-! ### Writes of a single table -/

@[simps] def setEnvironments (t : Table fun t : TenantKey => [t]) (d : Ledger) : Ledger :=
  { d with environments := t }

@[simps] def setRequests (t : Table RequestRow.keys) (d : Ledger) : Ledger :=
    { d with requests := t }

@[simps] def setDecisions (t : Table DecisionRow.keys) (d : Ledger) : Ledger :=
    { d with decisions := t }

@[simps] def setAttempts (t : Table AttemptRow.keys) (d : Ledger) : Ledger :=
    { d with attempts := t }

@[simps] def setAccounts (t : Table AccountRow.keys) (d : Ledger) : Ledger :=
    { d with accounts := t }

@[simps] def setReservations (t : Table ReservationRow.keys) (d : Ledger) : Ledger :=
    { d with reservations := t }

@[simps] def setUsage (t : Table UsageRow.keys) (d : Ledger) : Ledger := { d with usage := t }

/-- A new event. -/
@[simps] def pushEvent (e : BudgetEvent) (d : Ledger) : Ledger :=
  { d with events := e :: d.events }

/-! ### Lenses -/

@[simps] def environmentsT : Lens Ledger
    (Table fun t : TenantKey => [t]) := ⟨environments, setEnvironments,
  fun _ _ => rfl, fun _ => rfl⟩

@[simps] def requestsT : Lens Ledger (Table RequestRow.keys) := ⟨requests, setRequests,
  fun _ _ => rfl, fun _ => rfl⟩

@[simps] def attemptsT : Lens Ledger (Table AttemptRow.keys) := ⟨attempts, setAttempts,
  fun _ _ => rfl, fun _ => rfl⟩

@[simps] def accountsT : Lens Ledger (Table AccountRow.keys) := ⟨accounts, setAccounts,
  fun _ _ => rfl, fun _ => rfl⟩

@[simps] def reservationsT : Lens Ledger
    (Table ReservationRow.keys) := ⟨reservations, setReservations,
  fun _ _ => rfl, fun _ => rfl⟩

@[simps] def usageT : Lens Ledger (Table UsageRow.keys) := ⟨usage, setUsage,
  fun _ _ => rfl, fun _ => rfl⟩

end Ledger

/-- What a transaction can hold until it ends. -/
inductive Lock where
  | environment (tenant : TenantKey)
  | request (key : RequestKey)
  | decision (key : DecisionKey)
  | attempt (attemptId : String)
  | account (tenant : TenantKey)
  | reservation (key : ReservationKey)
  | usage (key : TenantKey × String)
  /-- `pg_advisory_xact_lock` on the hash of a scope -/
  | advisory (scope : String)
  deriving DecidableEq

end ModelPort
