import ModelPort.Ledger.Finish

/-!
# Calls of the ledger

The administration of a tenant's account, `updateBudget` and `adjustBudget`, and the type
`Call` of all calls a process can make. `Call.program` is the transaction a call runs.
-/

namespace ModelPort

open Relational Transaction

namespace Ledger

/-! ### Administration of an account -/

/-- A trimmed text of `1` to `maxLen` bytes without control characters. -/
def validBudgetText (maxLen : ℕ) (value : String) : Bool :=
  !(trim value).isEmpty && byteLen (trim value) ≤ maxLen && !hasControl (trim value)

def validatedTenantId (field value : String) : Except AppError String :=
  if validBudgetText 128 value then .ok (trim value)
  else .error (.invalidRequest ("budget " ++ field ++ " must contain 1-128 non-control bytes"))

def tenantFromParts (organizationId projectId environmentId : String) :
    Except AppError TenantKey := do
  let organizationId ← validatedTenantId "organizationId" organizationId
  let projectId ← validatedTenantId "projectId" projectId
  let environmentId ← validatedTenantId "environmentId" environmentId
  return ⟨organizationId, projectId, environmentId⟩

/-- A new limit for a tenant. -/
structure EnterpriseBudgetUpdate where
  organizationId : String
  projectId : String
  environmentId : String
  unlimited : Bool
  limitMicrounits : Option ℤ
  deriving DecidableEq

def EnterpriseBudgetUpdate.validatedLimit (input : EnterpriseBudgetUpdate) :
    Except AppError (Option ℤ) :=
  match input.unlimited, input.limitMicrounits with
  | true, none => .ok none
  | true, some _ =>
    .error (.invalidRequest "unlimited budget cannot also provide limitMicrounits")
  | false, some limit =>
    if 0 ≤ limit then .ok (some limit)
    else .error (.invalidRequest
      "a non-negative limitMicrounits value is required unless unlimited is true")
  | false, none =>
    .error (.invalidRequest
      "a non-negative limitMicrounits value is required unless unlimited is true")

/-- The `SET` clause of a new limit. -/
def setLimit (limit : Option ℤ) (a : AccountRow) : AccountRow :=
  { a with limitMicrounits := limit, version := a.version + 1 }

lemma setLimit_keys (limit : Option ℤ) (a : AccountRow) : (setLimit limit a).keys = a.keys := rfl

/-- `INSERT … ON CONFLICT DO UPDATE SET limit_microunits`. -/
def upsertLimit (tenant : TenantKey) (limit : Option ℤ) : LedgerStmt Unit where
  locks _ := [.account tenant]
  exec d :=
    let row : AccountRow := { tenant := tenant, limitMicrounits := limit }
    if d.accounts.Free row then
      if tenant ∈ d.environments.rows then
        .ok ((), fun e => e.setAccounts (e.accounts.insert row))
      else .error (foreignKeyViolation "modelport_budget_accounts")
    else
      match (updateAccounts (·.tenant == tenant) (setLimit limit) (setLimit_keys limit)).exec d with
      | .error e => .error e
      | .ok (_, w) => .ok ((), w)

def updateBudget (input : EnterpriseBudgetUpdate) : LedgerTxn Unit := do
  let tenant ← ofExcept (tenantFromParts input.organizationId input.projectId input.environmentId)
  let limit ← ofExcept input.validatedLimit
  Txn.stmt (upsertLimit tenant limit)

/-- A correction of a balance. -/
structure EnterpriseBudgetAdjustmentInput where
  organizationId : String
  projectId : String
  environmentId : String
  deltaMicrounits : ℤ
  reason : String
  evidenceReference : String
  deriving DecidableEq

def EnterpriseBudgetAdjustmentInput.validate (input : EnterpriseBudgetAdjustmentInput) :
    Except AppError Unit := do
  require (input.deltaMicrounits != 0)
    (.invalidRequest "budget adjustment deltaMicrounits must not be zero")
  require (validBudgetText 500 input.reason)
    (.invalidRequest "budget adjustment reason must contain 1-500 non-control bytes")
  require (validBudgetText 500 input.evidenceReference)
    (.invalidRequest "budget adjustment evidenceReference must contain 1-500 non-control bytes")

/-- The sum in the `WHERE` clause of `adjustSettled` fits a `BIGINT`. -/
def adjustmentInRange (tenant : TenantKey) (delta : ℤ) (d : Ledger) : Except AppError Unit :=
  d.accounts.rows.forM fun a =>
    if a.tenant == tenant then do
      let _ ← bigint (a.settledMicrounits + delta)
    else .ok ()

/-- The `SET` clause of an adjustment. -/
def addSettled (delta : ℤ) (a : AccountRow) : AccountRow :=
  { a with settledMicrounits := a.settledMicrounits + delta, version := a.version + 1 }

lemma addSettled_keys (delta : ℤ) (a : AccountRow) : (addSettled delta a).keys = a.keys := rfl

/-- `UPDATE … SET settled_microunits = settled_microunits + delta`, unless it would turn
negative. -/
def adjustSettled (tenant : TenantKey) (delta : ℤ) : LedgerStmt Unit :=
  checked
    (guarded (adjustmentInRange tenant delta)
      (updateAccounts (fun a => a.tenant == tenant && decide (0 ≤ a.settledMicrounits + delta))
        (addSettled delta) (addSettled_keys delta)))
    fun updated => require (updated.length == 1)
      (.invalidRequest "budget adjustment cannot make settled spend negative")

/-- The event of an adjustment. -/
def adjustmentEvent (tenant : TenantKey) (input : EnterpriseBudgetAdjustmentInput)
    (actorId : String) (now : Timestamp) : BudgetEvent where
  tenant := tenant
  reservationId := none
  requestLedgerId := none
  attemptId := none
  eventType := .adjustment
  reservedDelta := 0
  settledDelta := input.deltaMicrounits
  evidenceSource := input.evidenceReference
  billingMode := none
  reason := some input.reason
  actorId := some actorId
  createdAt := now

def adjustBudget (input : EnterpriseBudgetAdjustmentInput) (actorId : String) (now : Timestamp) :
    LedgerTxn Unit := do
  let tenant ← ofExcept (tenantFromParts input.organizationId input.projectId input.environmentId)
  ofExcept input.validate
  Txn.stmt (insertAccount tenant)
  Txn.stmt (adjustSettled tenant input.deltaMicrounits)
  Txn.stmt (insertBudgetEvent (adjustmentEvent tenant input actorId now))

section

variable {d d' : Ledger} {w : Ledger → Ledger} {u : Unit} {tenant : TenantKey}
  {input : EnterpriseBudgetUpdate} {limit : Option ℤ}

lemma upsertLimit_cases (h : (upsertLimit tenant limit).exec d = .ok (u, w)) :
    (d.accounts.Free { tenant := tenant, limitMicrounits := limit } ∧ w = fun e =>
          e.setAccounts (e.accounts.insert { tenant := tenant, limitMicrounits := limit })) ∨
      ¬ d.accounts.Free { tenant := tenant, limitMicrounits := limit } ∧
        ∃ rs, (updateAccounts (·.tenant == tenant) (setLimit limit) (setLimit_keys limit)).exec d
          = .ok (rs, w) := by
  simp only [upsertLimit] at h
  split at h
  · rename_i hfree
    split at h
    · simp only [Except.ok.injEq, Prod.mk.injEq] at h
      exact .inl ⟨hfree, h.2.symm⟩
    · cases h
  · rename_i hfree
    split at h
    · cases h
    · rename_i rs w' hw
      simp only [Except.ok.injEq, Prod.mk.injEq] at h
      exact .inr ⟨hfree, rs, by rw [hw, h.2]⟩

lemma upsertLimit_exec (h : (upsertLimit tenant limit).exec d = .ok (u, w)) :
    (d.accounts.Free { tenant := tenant, limitMicrounits := limit } ∧ w = fun e =>
          e.setAccounts (e.accounts.insert { tenant := tenant, limitMicrounits := limit })) ∨
      (w d = d.setAccounts
          (d.accounts.update (·.tenant == tenant) (setLimit limit) (setLimit_keys limit)) ∧
        ∀ a ∈ d.accounts.rows.filter (·.tenant == tenant),
          checkAccount (setLimit limit a) = .ok ()) := by
  rcases upsertLimit_cases h with hinsert | ⟨-, rs, hw⟩
  · exact .inl hinsert
  · exact .inr (updateAccounts_exec hw).2

section

variable (h : (updateBudget input).run d = .ok (u, d'))

include h

lemma updateBudget_run_tenant : ∃ tenant limit w,
      tenantFromParts input.organizationId input.projectId input.environmentId = .ok tenant ∧
        (upsertLimit tenant limit).exec d = .ok (u, w) ∧ d' = w d := by
  obtain ⟨tenant, h1, h⟩ := run_ofExcept_bind h
  obtain ⟨limit, h2, h⟩ := run_ofExcept_bind h
  obtain ⟨w, hw, rfl⟩ := Txn.run_stmt_ok h
  exact ⟨tenant, limit, w, h1, hw, rfl⟩

lemma updateBudget_run :
    ∃ tenant limit w, (upsertLimit tenant limit).exec d = .ok (u, w) ∧ d' = w d := by
  obtain ⟨tenant, limit, w, -, hw⟩ := updateBudget_run_tenant h
  exact ⟨tenant, limit, w, hw⟩

lemma updateBudget_accounts : ∃ tenant,
      tenantFromParts input.organizationId input.projectId input.environmentId = .ok tenant ∧
        d'.accounts.find tenant ≠ d.accounts.find tenant ∧
          ∀ t, t ≠ tenant → d'.accounts.find t = d.accounts.find t := by
  obtain ⟨tenant, limit, w, hten, hw, rfl⟩ := updateBudget_run_tenant h
  refine ⟨tenant, hten, ?_⟩
  rcases upsertLimit_cases hw with ⟨hfree, rfl⟩ | ⟨hused, rs, hupd⟩
  · refine ⟨?_, fun t ht => ?_⟩
    · have hnew : (d.accounts.insert { tenant := tenant, limitMicrounits := limit }).find tenant
          = some { tenant := tenant, limitMicrounits := limit } :=
        Table.find_insert_self hfree (by simp [AccountRow.keys])
      have hold : d.accounts.find tenant = none :=
        Table.find_of_free hfree (by simp [AccountRow.keys])
      rw [hold]
      exact fun h => Option.some_ne_none _ (hnew.symm.trans h)
    · exact Table.find_insert_of_notMem _ (by simpa [AccountRow.keys] using ht)
  · obtain ⟨-, hrun, -⟩ := updateAccounts_exec hupd
    have hfind : ∀ t, (w d).accounts.find t
        = (d.accounts.find t).map (Table.assign (·.tenant == tenant) (setLimit limit)) := by
      intro t
      rw [hrun]
      exact Table.find_update _ _ _ (setLimit_keys limit) t
    refine ⟨?_, fun t ht => ?_⟩
    · obtain ⟨a, ha⟩ : ∃ a, d.accounts.find tenant = some a := by
        by_contra hnone
        refine hused fun a ha k hk hka => hnone ⟨a, ?_⟩
        obtain rfl : k = tenant := List.mem_singleton.1 hk
        exact Table.find_eq_some.2 ⟨ha, hka⟩
      have hten : a.tenant = tenant := (List.mem_singleton.1 (Table.find_eq_some.1 ha).2).symm
      rw [hfind, ha, Option.map_some, Table.assign_of_pos (by simp [hten])]
      -- the update counts the version up
      intro h
      have hvers := congrArg AccountRow.version (Option.some.inj h)
      simp [setLimit] at hvers
    · rw [hfind]
      cases ha : d.accounts.find t with
      | none => rfl
      | some a =>
        have hten : a.tenant = t := (List.mem_singleton.1 (Table.find_eq_some.1 ha).2).symm
        rw [Option.map_some, Table.assign_of_neg (by simpa [hten] using ht)]

end

/-- **A successful adjustment**: the account, created if it was missing, takes the amount, and an
event records it. -/
lemma adjustBudget_run {input : EnterpriseBudgetAdjustmentInput} {actorId : String}
    {now : Timestamp} (h : (adjustBudget input actorId now).run d = .ok (u, d')) :
    ∃ tenant accounts a p, (accounts = d.accounts ∨ d.accounts.Free { tenant := tenant } ∧
        accounts = d.accounts.insert { tenant := tenant }) ∧
      accounts.rows.filter p = [a] ∧ a.tenant = tenant ∧
      checkAccount (addSettled input.deltaMicrounits a) = .ok () ∧
      d' = (d.setAccounts (accounts.update p (addSettled input.deltaMicrounits)
        (addSettled_keys input.deltaMicrounits))).pushEvent
          (adjustmentEvent tenant input actorId now) := by
  obtain ⟨tenant, h1, h⟩ := run_ofExcept_bind h
  obtain ⟨_, h2, h⟩ := run_ofExcept_bind h
  obtain ⟨_, w3, hw3, h⟩ := Txn.run_stmt_bind h
  obtain ⟨_, w4, hw4, h⟩ := Txn.run_stmt_bind h
  obtain ⟨w5, hw5, rfl⟩ := Txn.run_stmt_ok h
  obtain rfl := insertBudgetEvent_exec hw5
  obtain ⟨rs, hrs, hlen⟩ := checked_exec hw4
  obtain ⟨a, p, hone, hat, hset, hcheck⟩ := updateOne_exec (guarded_exec hrs) hlen
  rw [hset]
  rcases insertAccount_exec hw3 with ⟨hfree, rfl⟩ | ⟨-, rfl⟩
  · exact ⟨tenant, _, a, p, .inr ⟨hfree, rfl⟩, hone, hat, hcheck, rfl⟩
  · exact ⟨tenant, _, a, p, .inl rfl, hone, hat, hcheck, rfl⟩

end

/-! ### Calls -/

/-- A call of the ledger, from any process. -/
inductive Call where
  | beginRequest (b : BeginRequest)
  | beginAttempt (b : BeginAttempt)
  | finalizeAttempt (attempt : LedgerAttempt) (outcome : LedgerOutcome)
  | finalizeRequest (request : LedgerRequest) (outcome : LedgerOutcome)
      (snapshot : Option ProviderSnapshot)
  | renewLease (request : LedgerRequest) (leaseTtl : ℕ)
  | reconcileExpired
  | updateBudget (input : EnterpriseBudgetUpdate)
  | adjustBudget (input : EnterpriseBudgetAdjustmentInput) (actorId : String)
  deriving DecidableEq

/-- The transaction of a call begun at `now`. Its result, a handle or a count, goes to the
caller and is dropped here. -/
def Call.program (sha256Hex : String → String) (call : Call) (now : Timestamp) : LedgerTxn Unit :=
  match call with
  | .beginRequest b => do let _ ← beginRequestWithMetadata sha256Hex b now
  | .beginAttempt b => do let _ ← beginAttemptWithPricing b now
  | .finalizeAttempt attempt outcome => Ledger.finalizeAttempt attempt outcome now
  | .finalizeRequest request outcome snapshot =>
    finalizeRequestUsage request outcome snapshot now
  | .renewLease request leaseTtl => Ledger.renewLease request leaseTtl now
  | .reconcileExpired => do let _ ← Ledger.reconcileExpired now
  | .updateBudget input => Ledger.updateBudget input
  | .adjustBudget input actorId => Ledger.adjustBudget input actorId now

/-- The ledger after a sequence of calls, each one transaction, at the times they ran. -/
def after (sha256Hex : String → String) : Ledger → List (Timestamp × Call) → Ledger
  | d, [] => d
  | d, (now, call) :: calls => after sha256Hex ((call.program sha256Hex now).commit d) calls

/-- **The induction over a run of calls**: what every successful call keeps holds afterwards. -/
lemma after_induction {sha : String → String} {P : Ledger → Prop}
    (hstep : ∀ {d d' now} {call : Call} {u}, (call.program sha now).run d = .ok (u, d') →
      P d → P d') {d : Ledger} (calls : List (Timestamp × Call)) (h : P d) :
    P (after sha d calls) := by
  induction calls generalizing d with
  | nil => exact h
  | cons c calls ih =>
    refine ih ?_
    rcases Txn.commit_cases (c.2.program sha c.1) d with ⟨u, hok⟩ | hrolled
    · exact hstep hok h
    · rwa [hrolled]

/-! ### A sample flow -/

namespace Sample

def tenant : TenantKey := ⟨"org", "project", "prod"⟩

def metadata : LedgerRequestMetadata where
  requestPath := "/v1/messages"
  trafficClass := "business"
  toolUseRequested := false
  username := "alice"
  apiKeyId := none
  quotaSubjectId := none
  apiKeyName := none
  apiKeyGroup := none
  teamId := none
  teamName := none
  clientIp := none
  routingDecision := none

/-- A request without an idempotency key. -/
def beginRequest (ledgerId : String) : BeginRequest where
  ledgerId := ledgerId
  tenant := tenant
  leaseOwner := "node"
  leaseTtl := 60
  requestId := "req"
  principalId := "user"
  clientProtocol := "anthropic"
  requestedModel := "model"
  stream := false
  idempotencyKey := none
  requestFingerprint := "0123456789abcdef0123456789abcdef0123456789abcdef0123456789abcdef"
  metadata := metadata

/-- An attempt of that request, estimated at `cost` dollars. -/
def beginAttempt (ledgerId attemptId : String) (cost : ℚ) (policy : UsagePolicySnapshot) :
    BeginAttempt where
  request := ⟨ledgerId, tenant, "node"⟩
  attemptId := attemptId
  reservationId := "res-" ++ attemptId
  leaseTtl := 60
  providerId := "provider"
  resolvedModel := "model"
  providerProtocol := "anthropic"
  estimate := { inputTokens := 10, costEstimate := cost, billableCost := some cost }
  pricingVerified := true
  usagePolicy := policy

/-- A chargeable outcome of `cost` dollars. -/
def outcome (cost : ℚ) : LedgerOutcome where
  state := .completed
  statusCode := 200
  terminalReason := "completed"
  errorMessage := none
  estimate := { inputTokens := 10, costEstimate := cost, billableCost := some cost }
  pricingEvidence := some
    { provider := "provider", model := "model", method := .exactRateCard, currency := "USD"
      version := "1", effectiveAt := "2026-01-01", source := .providerPublished
      serviceTier := .standard, region := none, evidence := "card", rates := none }
  billingMode := "upstream-returned"
  chargeable := true
  latencyMs := 1
  firstByteLatencyMs := none
  toolOutcome := .notRequested
  toolRepairAttempted := false
  toolRepairRecovered := false
  retryCount := 0
  fallbackFromProvider := none

end Sample

end Ledger

end ModelPort
