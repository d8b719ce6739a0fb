import ModelPort.Ledger.Statements

/-!
# Admission of requests and attempts

`beginRequestWithMetadata` and `beginAttemptWithPricing` as the transactions they run, one
statement of the source a statement here, in the same order. `reserveUsageCapacity` is the part
of an attempt's admission that takes the advisory locks of its policy and compares totals with
limits; `reserveBudget` is the conditional update of the tenant's account.
-/

namespace ModelPort

open Relational Transaction

namespace Ledger

/-! ### Beginning a request -/

/-- The arguments of `begin_request_with_metadata`, with the id it draws. -/
structure BeginRequest where
  ledgerId : String
  tenant : TenantKey
  leaseOwner : String
  leaseTtl : ℕ
  requestId : String
  principalId : String
  clientProtocol : String
  requestedModel : String
  stream : Bool
  idempotencyKey : Option String
  requestFingerprint : String
  metadata : LedgerRequestMetadata
  deriving DecidableEq

def idempotencyConflict (sameRequest terminal : Bool) : AppError :=
  .idempotencyConflict <|
    match sameRequest, terminal with
    | true, false => "the original request is still in progress"
    | true, true =>
      "the original request is terminal; response replay is not available in this release"
    | false, _ => "the key was already used with a different request body"

/-- The row that already holds the idempotency key of `r`. -/
def claimant (r : RequestRow) (d : Ledger) : Option RequestRow :=
  r.idempotencyKeyHash.bind fun hash =>
    d.requests.rows.find? fun s => s.tenant == r.tenant && s.idempotencyKeyHash == some hash

/-- `INSERT INTO modelport_gateway_requests … ON CONFLICT (idempotency key) DO NOTHING`. -/
def insertRequest (r : RequestRow) : LedgerStmt Bool where
  locks d := if (claimant r d).isSome then [] else r.keys.map .request
  exec d :=
    if (claimant r d).isSome then .ok (false, id)
    else if d.requests.Free r then
      if r.idempotencyKeyHash.all (·.length == 64) then
        .ok (true, fun e => e.setRequests (e.requests.insert r))
      else .error (checkViolation "modelport_gateway_requests")
    else .error (uniqueViolation "modelport_gateway_requests")

/-- The `CHECK` constraints of `modelport_routing_decisions`, in characters. -/
def checkDecision (r : DecisionRow) : Bool :=
  let e := r.evidence
  let bounded (n : ℕ) (s : String) := 1 ≤ s.length && s.length ≤ n
  ["explicit", "quality", "balanced", "economy", "latency"].contains e.profile
    && ["static", "off_static", "shadow", "canary_control", "active"].contains e.mode
    && (1 ≤ e.candidateCount && e.candidateCount ≤ 256)
    && (0 ≤ e.selectedScore && e.selectedScore ≤ 2)
    && (0 ≤ e.recommendedScore && e.recommendedScore ≤ 2)
    && bounded 80 e.decisionId && bounded 64 e.policyVersion && e.groupId.all (bounded 80)
    && bounded 80 e.selectedProvider && bounded 240 e.selectedModel
    && bounded 80 e.recommendedProvider && bounded 240 e.recommendedModel
    && e.reasonCodes.length ≤ 16

/-- `INSERT INTO modelport_routing_decisions`. -/
def insertDecision (r : DecisionRow) : LedgerStmt Unit where
  locks _ := r.keys.map .decision
  exec d :=
    if checkDecision r then
      if d.decisions.Free r then .ok ((), fun e => e.setDecisions (e.decisions.insert r))
      else .error (uniqueViolation "modelport_routing_decisions")
    else .error (checkViolation "modelport_routing_decisions")

/-- The row a new request is inserted as. -/
def BeginRequest.row (sha256Hex : String → String) (now : Timestamp) (b : BeginRequest) :
    RequestRow where
  ledgerId := b.ledgerId
  tenant := b.tenant
  requestId := b.requestId
  principalId := b.principalId
  clientProtocol := b.clientProtocol
  requestedModel := b.requestedModel
  stream := b.stream
  metadata := b.metadata
  idempotencyKeyHash := b.idempotencyKey.map sha256Hex
  requestFingerprint := b.requestFingerprint
  record := RecordColumns.fresh b.leaseOwner b.leaseTtl now

/-- The refusal of a request whose key is taken. -/
def refuseDuplicate (row : RequestRow) : LedgerStmt LedgerRequest :=
  select fun d =>
    match claimant row d with
    | some existing =>
      .error (idempotencyConflict (existing.requestFingerprint == row.requestFingerprint)
        (existing.record.state != .started))
    | none => .error rowNotFound

/-- `begin_request_with_metadata`. The digest of the idempotency key is a parameter. -/
def beginRequestWithMetadata (sha256Hex : String → String) (b : BeginRequest) (now : Timestamp) :
    LedgerTxn LedgerRequest := do
  ofExcept (b.metadata.accept b.requestFingerprint)
  let row := b.row sha256Hex now
  let _ ← Txn.stmt (insertOrIgnore environmentsT Lock.environment b.tenant)
  let inserted ← Txn.stmt (insertRequest row)
  if inserted then
    match b.metadata.routingDecision with
    | some evidence => Txn.stmt (insertDecision ⟨b.ledgerId, b.tenant, evidence⟩)
    | none => pure ()
    pure ⟨b.ledgerId, b.tenant, b.leaseOwner⟩
  else Txn.stmt (refuseDuplicate row)

/-! ### Admission of usage -/

/-- `lock_usage_scopes_pg`: the advisory locks of a policy, one statement each. -/
def lockUsageScopes : List String → LedgerTxn Unit
  | [] => pure ()
  | scope :: scopes => do
      Txn.stmt (lockOnly [.advisory scope])
      lockUsageScopes scopes

/-- The quota checks of an admission, one statement each. -/
def enforceQuotas (policy : UsagePolicySnapshot) (increment : UsageReservationIncrement) :
    List UsageQuotaLimit → LedgerTxn Unit
  | [] => pure ()
  | quota :: quotas => do
      Txn.stmt (checked (select (quotaTotals quota)) (enforceQuota policy quota increment))
      enforceQuotas policy increment quotas

/-- The scope columns of a usage reservation agree with the policy of a retry. -/
def sameUsageScope (policy : UsagePolicySnapshot) (u : UsageRow) : Bool :=
  u.state == .reserved && u.quotaSubjectId == effectiveQuotaSubject policy
    && u.teamId == policy.teamId && u.userId == policy.userId

/-- The usage reservation of a request's first attempt. -/
def newUsageRow (request : LedgerRequest) (policy : UsagePolicySnapshot)
    (increment : UsageReservationIncrement) (now : Timestamp) : UsageRow where
  tenant := request.tenant
  requestLedgerId := request.ledgerId
  quotaSubjectId := effectiveQuotaSubject policy
  teamId := policy.teamId
  userId := policy.userId
  reservedRequests := toI64 increment.requests
  reservedTokens := toI64 increment.tokens
  reservedCostMicrounits := increment.costMicrounits
  createdAt := now
  updatedAt := now

/-- A retry on top of what its request has reserved. -/
def addToUsageRow (increment : UsageReservationIncrement) (now : Timestamp) (u : UsageRow) :
    UsageRow :=
  { u with
    reservedTokens := u.reservedTokens + toI64 increment.tokens
    reservedCostMicrounits := u.reservedCostMicrounits + increment.costMicrounits
    updatedAt := now }

lemma addToUsageRow_keys (increment : UsageReservationIncrement) (now : Timestamp) (u : UsageRow) :
    (addToUsageRow increment now u).keys = u.keys := rfl

/-- The write of an admission: a retry adds to the open row, a first attempt inserts it. -/
def writeUsage (request : LedgerRequest) (policy : UsagePolicySnapshot)
    (increment : UsageReservationIncrement) (now : Timestamp) (existing : Bool) :
    LedgerTxn Unit :=
  if existing then
    Txn.stmt (checked
      (updateUsage (UsageRow.openFor request.tenant request.ledgerId)
        (addToUsageRow increment now) (addToUsageRow_keys increment now))
      fun updated => require (updated.length == 1)
        (.database "open usage reservation disappeared during admission"))
  else
    Txn.stmt (insertRow usageT Lock.usage (newUsageRow request policy increment now)
      (uniqueViolation "modelport_usage_reservations"))

/-- `SELECT … FROM modelport_usage_reservations … FOR UPDATE`, and the check that the row, if
any, is open and in the policy's scope. -/
def existingUsage (request : LedgerRequest) (policy : UsagePolicySnapshot) : LedgerStmt Bool :=
  checked
    (selectForUpdate usageT (fun u => .usage (u.tenant, u.requestLedgerId))
      (UsageRow.isFor request.tenant request.ledgerId))
    fun rows =>
      match rows.head? with
      | none => .ok false
      | some u =>
        if sameUsageScope policy u then .ok true
        else .error (.database "usage reservation scope changed during a logical request")

/-- `usage_spend_totals_pg_tx` and the comparison with the spend limits. -/
def enforceSpend (policy : UsagePolicySnapshot) (increment : UsageReservationIncrement)
    (now : Timestamp) : LedgerStmt Unit :=
  checked (select (usageSpendTotals policy now)) fun spend =>
    enforceUsageSpendLimits policy spend increment.costMicrounits

/-- `reserve_usage_capacity_pg`. -/
def reserveUsageCapacity (request : LedgerRequest) (policy : UsagePolicySnapshot)
    (estimate : UsageEstimate) (now : Timestamp) : LedgerTxn Unit :=
  if reservesUsage policy then do
    lockUsageScopes (usageScopes policy)
    let existing ← Txn.stmt (existingUsage request policy)
    let increment := UsageReservationIncrement.forAttempt estimate !existing
    Txn.stmt (enforceSpend policy increment now)
    enforceQuotas policy increment policy.quotas
    writeUsage request policy increment now existing
  else pure ()

/-! ### Beginning an attempt -/

/-- The arguments of `begin_attempt_with_pricing`, with the id it draws. -/
structure BeginAttempt where
  request : LedgerRequest
  attemptId : String
  reservationId : String
  leaseTtl : ℕ
  providerId : String
  resolvedModel : String
  providerProtocol : String
  estimate : UsageEstimate
  pricingVerified : Bool
  usagePolicy : UsagePolicySnapshot
  deriving DecidableEq

namespace BeginAttempt

variable (b : BeginAttempt)

/-- What the attempt reserves of its tenant's budget. -/
def reservedMicrounits : ℤ := costMicrounits b.estimate.costEstimate

/-- The handle of the attempt. -/
def handle : LedgerAttempt :=
  ⟨b.attemptId, b.request.ledgerId, b.reservationId, b.request.tenant, b.request.leaseOwner⟩

def attemptRow (now : Timestamp) : AttemptRow where
  attemptId := b.attemptId
  requestLedgerId := b.request.ledgerId
  tenant := b.request.tenant
  providerId := b.providerId
  resolvedModel := b.resolvedModel
  providerProtocol := b.providerProtocol
  record := RecordColumns.fresh b.request.leaseOwner b.leaseTtl now

def reservationRow (now : Timestamp) : ReservationRow where
  reservationId := b.reservationId
  tenant := b.request.tenant
  requestLedgerId := b.request.ledgerId
  attemptId := b.attemptId
  reservedMicrounits := b.reservedMicrounits
  createdAt := now
  updatedAt := now

end BeginAttempt

/-- An event of an attempt's reservation. -/
def attemptEvent (attempt : LedgerAttempt) (eventType : EventType)
    (reservedDelta settledDelta : ℤ) (evidenceSource : String) (billingMode reason : Option String)
    (estimate : UsageEstimate) (now : Timestamp) : BudgetEvent where
  tenant := attempt.tenant
  reservationId := some attempt.reservationId
  requestLedgerId := some attempt.requestLedgerId
  attemptId := some attempt.attemptId
  eventType := eventType
  reservedDelta := reservedDelta
  settledDelta := settledDelta
  evidenceSource := evidenceSource
  billingMode := billingMode
  reason := reason
  actorId := none
  inputTokens := toI64 estimate.inputTokens
  outputTokens := toI64 estimate.outputTokens
  cacheWriteTokens := toI64 estimate.cacheWriteTokens
  cacheReadTokens := toI64 estimate.cacheReadTokens
  createdAt := now

/-- `INSERT INTO modelport_provider_attempts … SELECT … FROM modelport_gateway_requests`: the
attempt of a request that is open under the handle's lease. -/
def insertAttempt (request : LedgerRequest) (row : AttemptRow) : LedgerStmt Unit where
  locks _ := [.attempt row.attemptId]
  exec d :=
    if (d.requests.rows.filter request.opens).length = 1 then
      if d.attempts.Free row then
        .ok ((), fun e => e.setAttempts (e.attempts.insert row))
      else .error (uniqueViolation "modelport_provider_attempts")
    else .error rowNotFound

variable (tenant : TenantKey)

/-- `SELECT limit_microunits`, and the refusal of unverified prices under a hard budget. -/
def checkHardBudget (pricingVerified : Bool) : LedgerStmt Unit :=
  select fun d =>
    match d.accounts.rows.find? (·.tenant == tenant) with
    | none => .error rowNotFound
    | some account =>
      if account.limitMicrounits.isSome && !pricingVerified then
        .error (.pricingUnverified "enterprise amount budget requires configured model pricing")
      else .ok ()

variable (amount : ℤ)

/-- The account has room for `amount` more. -/
def hasRoom (a : AccountRow) : Bool :=
  a.tenant == tenant
    && a.limitMicrounits.all fun limit =>
      a.settledMicrounits + a.reservedMicrounits + amount ≤ limit

/-- The sum in the `WHERE` clause of `reserveBudget` fits a `BIGINT`. -/
def budgetSumInRange (d : Ledger) : Except AppError Unit :=
  d.accounts.rows.forM fun a =>
    if a.tenant == tenant && a.limitMicrounits.isSome then do
      let consumed ← bigint (a.settledMicrounits + a.reservedMicrounits)
      let _ ← bigint (consumed + amount)
    else .ok ()

/-- The `SET` clause of a reservation. -/
def addReserved (a : AccountRow) : AccountRow :=
  { a with reservedMicrounits := a.reservedMicrounits + amount, version := a.version + 1 }

lemma addReserved_keys (a : AccountRow) : (addReserved amount a).keys = a.keys := rfl

/-- `UPDATE modelport_budget_accounts SET reserved_microunits = reserved_microunits + amount`,
where the limit allows it; without an updated row the attempt is refused. -/
def reserveBudget : LedgerStmt Unit :=
  checked
    (guarded (budgetSumInRange tenant amount)
      (updateAccounts (hasRoom tenant amount) (addReserved amount) (addReserved_keys amount)))
    fun updated => require (!updated.isEmpty) (.quotaExceeded (.budget amount))

/-- The second half of `begin_attempt_with_pricing`: the account, the reservation and the event. -/
def reserveAttempt (b : BeginAttempt) (now : Timestamp) : LedgerTxn LedgerAttempt := do
  Txn.stmt (insertAccount b.request.tenant)
  Txn.stmt (checkHardBudget b.request.tenant b.pricingVerified)
  Txn.stmt (reserveBudget b.request.tenant b.reservedMicrounits)
  Txn.stmt (insertRow reservationsT Lock.reservation (b.reservationRow now)
    (uniqueViolation "modelport_budget_reservations"))
  Txn.stmt (insertBudgetEvent (attemptEvent b.handle .reservationCreated b.reservedMicrounits 0
    "local-estimate" none (some "Provider Attempt budget reservation") b.estimate now))
  pure b.handle

def beginAttemptWithPricing (b : BeginAttempt) (now : Timestamp) : LedgerTxn LedgerAttempt := do
  Txn.stmt (insertAttempt b.request (b.attemptRow now))
  ofExcept (validateUsageReservationPricing b.usagePolicy b.pricingVerified)
  reserveUsageCapacity b.request b.usagePolicy b.estimate now
  reserveAttempt b now

/-! ### What the statements do -/

variable {request : LedgerRequest}

section

variable {d : Ledger} {w : Ledger → Ledger} {u : Unit}

lemma insertAttempt_exec {row : AttemptRow} (h : (insertAttempt request row).exec d = .ok (u, w)) :
    (∃ r, d.requests.rows.filter request.opens = [r]) ∧ d.attempts.Free row ∧
      w = fun e => e.setAttempts (e.attempts.insert row) := by
  simp only [insertAttempt] at h
  split at h
  · rename_i hone
    split at h
    · rename_i hfree
      simp only [Except.ok.injEq, Prod.mk.injEq] at h
      exact ⟨List.length_eq_one_iff.1 hone, hfree, h.2.symm⟩
    · cases h
  · cases h

lemma reserveBudget_exec {tenant : TenantKey} {amount : ℤ}
    (h : (reserveBudget tenant amount).exec d = .ok (u, w)) :
    ∃ a, d.accounts.rows.filter (hasRoom tenant amount) = [a] ∧ w d = d.setAccounts
        (d.accounts.update (hasRoom tenant amount) (addReserved amount) (addReserved_keys amount)) ∧
      checkAccount (addReserved amount a) = .ok () := by
  obtain ⟨rs, hrs, hne⟩ := checked_exec h
  obtain ⟨hrs, hw, hcheck⟩ := updateAccounts_exec (guarded_exec hrs)
  simp only [require_eq_ok, Bool.not_eq_true', List.isEmpty_eq_false_iff] at hne
  rw [hrs, ne_eq, List.map_eq_nil_iff] at hne
  obtain ⟨a, ha⟩ := List.exists_mem_of_ne_nil _ hne
  have hten : ∀ b, hasRoom tenant amount b → b.tenant = tenant := by
    intro b hb
    simp only [hasRoom, Bool.and_eq_true, beq_iff_eq] at hb
    exact hb.1
  obtain ⟨hmem, hroom⟩ := List.mem_filter.1 ha
  refine ⟨a, Table.filter_eq_singleton hmem hroom fun b hb => ⟨tenant, ?_, ?_⟩, hw, hcheck a ha⟩
  · simp [AccountRow.keys, hten b hb]
  · simp [AccountRow.keys, hten a hroom]

end

/-! ### Which tables the transactions write -/

variable {now : Timestamp} {policy : UsagePolicySnapshot}

section

variable {W : (Ledger → Ledger) → Prop}

lemma lockUsageScopes_writes (hid : W id) (scopes : List String) :
    (lockUsageScopes scopes).All fun _ s => s.Writes W := by
  induction scopes with
  | nil => exact Txn.all_done _
  | cons scope scopes ih =>
    exact .seq (lockOnly_writes hid _) fun _ => ih

lemma enforceQuotas_writes (hid : W id) (policy : UsagePolicySnapshot)
    (increment : UsageReservationIncrement) (quotas : List UsageQuotaLimit) :
    (enforceQuotas policy increment quotas).All fun _ s => s.Writes W := by
  induction quotas with
  | nil => exact Txn.all_done _
  | cons quota quotas ih =>
    exact .bind (.stmt (checked_writes (select_writes hid _) _)) fun _ => ih

lemma reserveUsageCapacity_writes {request : LedgerRequest}
    (hid : W id) (hupd : ∀ increment q, W fun d => setUsage (d.usage.update q
      (addToUsageRow increment now) (addToUsageRow_keys increment now)) d)
    (hinsert : reservesUsage policy → ∀ increment,
      W fun d => setUsage (d.usage.insert (newUsageRow request policy increment now)) d)
    (estimate : UsageEstimate) :
    (reserveUsageCapacity request policy estimate now).All fun _ s => s.Writes W := by
  unfold reserveUsageCapacity
  split
  · rename_i hres
    refine .bind (lockUsageScopes_writes hid _) fun _ => ?_
    refine .seq (checked_writes (selectForUpdate_writes hid _ _ _) _) fun existing => ?_
    refine .seq (checked_writes (select_writes hid _) _) fun _ => ?_
    refine .bind (enforceQuotas_writes hid _ _ _) fun _ => ?_
    cases existing with
    | true => exact .stmt (checked_writes (updateWhere_writes (hupd _)) _)
    | false =>
      refine .stmt fun d a w h => ?_
      rw [(insertRow_exec h).2]
      exact hinsert hres _
  · exact Txn.all_done _

lemma beginRequest_writes {sha : String → String} {b : BeginRequest}
    (hid : W id) (henv : ∀ t : Ledger → _, W fun d => setEnvironments (t d) d)
    (hreq : W fun d => setRequests (d.requests.insert (b.row sha now)) d)
    (hdec : ∀ t : Ledger → _, W fun d => setDecisions (t d) d) :
    (beginRequestWithMetadata sha b now).All fun _ s => s.Writes W := by
  refine .bind (all_ofExcept _) fun _ => ?_
  refine .seq (fun d a w h => ?_) fun _ => ?_
  · rcases insertOrIgnore_write h with rfl | rfl
    · exact henv _
    · exact hid
  refine .seq (fun d a w h => ?_) fun inserted => ?_
  · simp only [insertRequest] at h
    split at h
    · simp only [Except.ok.injEq, Prod.mk.injEq] at h
      rw [← h.2]
      exact hid
    · split at h
      · split at h
        · simp only [Except.ok.injEq, Prod.mk.injEq] at h
          rw [← h.2]
          exact hreq
        · cases h
      · cases h
  cases inserted with
  | false => exact .stmt (select_writes hid _)
  | true =>
    cases b.metadata.routingDecision with
    | none => exact Txn.all_done _
    | some evidence =>
      refine Txn.All.seq (fun d a w h => ?_) fun _ => Txn.all_done _
      simp only [insertDecision] at h
      split at h
      · split at h
        · simp only [Except.ok.injEq, Prod.mk.injEq] at h
          rw [← h.2]
          exact hdec _
        · cases h
      · cases h

end

/-! ### A successful admission -/

lemma reserveUsageCapacity_run
    {estimate : UsageEstimate} {d d' : Ledger} {u : Unit}
    (h : (reserveUsageCapacity request policy estimate now).run d = .ok (u, d')) :
    ∃ usage, d' = d.setUsage usage := by
  refine (reserveUsageCapacity_writes (W := fun w => ∀ d, ∃ usage, w d = d.setUsage usage)
    (fun d => ⟨d.usage, rfl⟩) (fun _ _ _ => ⟨_, rfl⟩) (fun _ _ _ => ⟨_, rfl⟩) estimate).run_rel
    (R := fun d d' => ∃ usage, d' = d.setUsage usage) (fun d => ⟨d.usage, rfl⟩) ?_ h
  rintro a b c ⟨t, rfl⟩ ⟨t', rfl⟩
  exact ⟨t', rfl⟩

/-- **A begun attempt**: its row, its reservation and its event are new, and
the account, created if it was missing, has room for the reservation. -/
lemma beginAttempt_run {b : BeginAttempt} {d d' : Ledger}
    {attempt : LedgerAttempt} (h : (beginAttemptWithPricing b now).run d = .ok (attempt, d')) :
    ∃ (usage : Table UsageRow.keys) (accounts : Table AccountRow.keys) (a : AccountRow),
      d.attempts.Free (b.attemptRow now) ∧
      (accounts = d.accounts ∨ d.accounts.Free { tenant := b.request.tenant } ∧
        accounts = d.accounts.insert { tenant := b.request.tenant }) ∧
      accounts.rows.filter (hasRoom b.request.tenant b.reservedMicrounits) = [a] ∧
      checkAccount (addReserved b.reservedMicrounits a) = .ok () ∧
      d.reservations.Free (b.reservationRow now) ∧
      d' = ((((d.setAttempts (d.attempts.insert (b.attemptRow now))).setUsage usage).setAccounts
        (accounts.update (hasRoom b.request.tenant b.reservedMicrounits)
          (addReserved b.reservedMicrounits)
            (addReserved_keys b.reservedMicrounits))).setReservations
        (d.reservations.insert (b.reservationRow now))).pushEvent
        (attemptEvent b.handle .reservationCreated b.reservedMicrounits 0 "local-estimate" none
          (some "Provider Attempt budget reservation") b.estimate now) := by
  obtain ⟨_, w1, hw1, h⟩ := Txn.run_stmt_bind h
  obtain ⟨-, hfree, rfl⟩ := insertAttempt_exec hw1
  obtain ⟨_, d2, h2, h⟩ := Txn.run_bind_ok h
  obtain ⟨-, rfl⟩ := run_ofExcept_ok h2
  obtain ⟨_, d3, h3, h⟩ := Txn.run_bind_ok h
  obtain ⟨usage, rfl⟩ := reserveUsageCapacity_run h3
  obtain ⟨_, w4, hw4, h⟩ := Txn.run_stmt_bind h
  obtain ⟨_, w5, hw5, h⟩ := Txn.run_stmt_bind h
  obtain ⟨-, rfl⟩ := select_exec hw5
  obtain ⟨_, w6, hw6, h⟩ := Txn.run_stmt_bind h
  obtain ⟨a, hroom, hset, hcheck⟩ := reserveBudget_exec hw6
  obtain ⟨_, w7, hw7, h⟩ := Txn.run_stmt_bind h
  obtain ⟨hres, rfl⟩ := insertRow_exec hw7
  obtain ⟨_, w8, hw8, h⟩ := Txn.run_stmt_bind h
  obtain rfl := insertBudgetEvent_exec hw8
  simp only [Txn.pure_eq, Txn.run_done, Except.ok.injEq, Prod.mk.injEq] at h
  rw [hset] at h hres
  rcases insertAccount_exec hw4 with ⟨hnew, rfl⟩ | ⟨-, rfl⟩
  · exact ⟨usage, _, a, hfree, .inr ⟨hnew, rfl⟩, hroom, hcheck, hres, h.2.symm⟩
  · exact ⟨usage, _, a, hfree, .inl rfl, hroom, hcheck, hres, h.2.symm⟩

end Ledger

end ModelPort
