import ModelPort.Ledger.Begin

/-!
# Terminal outcomes and leases

The transactions that close attempts and requests: `finalizeAttempt` settles or releases the
budget reservation of an attempt (`settleBudget`, `releaseBudget`), `finalizeRequestUsage`
closes the usage reservation of a request, and `reconcileExpired` does both for records whose
lease has run out.
-/

namespace ModelPort

open Relational Transaction ReservationRow Txn List

namespace Ledger

variable {tenant : TenantKey} {attemptId mode source : String}

/-! ### Settlement and release -/

def validateBillingOutcome (outcome : LedgerOutcome) : Except AppError Unit := do
  require (outcome.estimate.actualCost.all (0 ≤ ·) && outcome.estimate.billableCost.all (0 ≤ ·))
    (.database "billing outcome contains an invalid reconciled amount")
  require (outcome.estimate.billableCost.isNone || outcome.pricingEvidence.isSome)
    (.database "billable outcome requires pricing evidence")

def outcomeEvidenceSource (outcome : LedgerOutcome) : String :=
  match outcome.pricingEvidence.map PricingEvidence.method with
  | some .providerReported => "provider-reported-cost"
  | some .exactRateCard => "verified-rate-card"
  | none =>
    if outcome.billingMode = "upstream-returned" then "provider-usage-unpriced"
    else "local-estimate"

/-- The `SET` clause that closes a reservation. -/
def closeRow (state : ReservationState) (settledMicrounits : Option ℤ)
    (evidenceSource billingMode : String) (now : Timestamp) (r : ReservationRow) :
    ReservationRow :=
  { r with
    state := state
    settledMicrounits := settledMicrounits.getD r.settledMicrounits
    evidenceSource := some evidenceSource
    billingMode := some billingMode
    updatedAt := now
    terminalAt := some now }

lemma closeRow_keys (state : ReservationState) (settledMicrounits : Option ℤ)
    (evidenceSource billingMode : String) (now : Timestamp) (r : ReservationRow) :
    (closeRow state settledMicrounits evidenceSource billingMode now r).keys = r.keys := rfl

/-- The `UPDATE` that closes the open reservation of an attempt; the row it closed, if any. -/
def closeReservation (tenant : TenantKey) (attemptId : String) (state : ReservationState)
    (settledMicrounits : Option ℤ) (evidenceSource billingMode : String) (now : Timestamp) :
    LedgerStmt (List ReservationRow) :=
  updateReservations (ReservationRow.openFor tenant attemptId)
    (closeRow state settledMicrounits evidenceSource billingMode now)
    (closeRow_keys state settledMicrounits evidenceSource billingMode now)

/-- The `SET` clause that moves a closed reservation out of the reserved balance. -/
def moveOut (reserved settled : ℤ) (a : AccountRow) : AccountRow :=
  { a with
    reservedMicrounits := a.reservedMicrounits - reserved
    settledMicrounits := a.settledMicrounits + settled
    version := a.version + 1 }

lemma moveOut_keys (reserved settled : ℤ) (a : AccountRow) :
    (moveOut reserved settled a).keys = a.keys := rfl

/-- The `UPDATE` that moves a closed reservation out of the account's reserved balance. -/
def moveReserved (tenant : TenantKey) (reserved settled : ℤ) (failure : AppError) :
    LedgerStmt Unit :=
  checked
    (updateAccounts (fun a => a.tenant == tenant && decide (reserved ≤ a.reservedMicrounits))
      (moveOut reserved settled) (moveOut_keys reserved settled))
    fun updated => require (updated.length == 1) failure

/-- The amount a chargeable outcome settles. -/
def settledMicrounits (outcome : LedgerOutcome) : ℤ :=
  costMicrounits (outcome.estimate.billableCost.getD 0)

/-- `settle_budget_pg`. -/
def settleBudget (attempt : LedgerAttempt) (outcome : LedgerOutcome) (now : Timestamp) :
    LedgerTxn Unit := do
  let settled := settledMicrounits outcome
  let closed ← Txn.stmt (closeReservation attempt.tenant attempt.attemptId .settled (some settled)
    (outcomeEvidenceSource outcome) outcome.billingMode now)
  match closed.head? with
  | none => Txn.throw (.database "open budget reservation is missing")
  | some r =>
    Txn.stmt (moveReserved attempt.tenant r.reservedMicrounits settled
      (.database "budget account reserved balance invariant failed"))
    Txn.stmt (insertBudgetEvent (attemptEvent attempt .settled (-r.reservedMicrounits) settled
      (outcomeEvidenceSource outcome) (some outcome.billingMode) (some outcome.terminalReason)
      outcome.estimate now))

/-- `release_budget_pg`. -/
def releaseBudget (attemptId : String) (tenant : TenantKey)
    (evidenceSource billingMode reason : String) (now : Timestamp) : LedgerTxn Unit := do
  let closed ← Txn.stmt (closeReservation tenant attemptId .released none evidenceSource
    billingMode now)
  match closed.head? with
  | none => pure ()
  | some r =>
    Txn.stmt (moveReserved tenant r.reservedMicrounits 0
      (.database "budget account reserved balance invariant failed during release"))
    Txn.stmt (insertBudgetEvent (attemptEvent
      ⟨attemptId, r.requestLedgerId, r.reservationId, tenant, ""⟩ .released
      (-r.reservedMicrounits) 0 evidenceSource (some billingMode) (some reason) {} now))

/-! ### Terminal outcomes -/

/-- The `SET` clause of a finished attempt. -/
def finishAttemptRow (outcome : LedgerOutcome) (now : Timestamp) (r : AttemptRow) : AttemptRow :=
  { r with record := r.record.finish outcome now }

variable (outcome : LedgerOutcome) (now : Timestamp) {state : ReservationState}
  {rs : List ReservationRow} {settled : Option ℤ}

lemma finishAttemptRow_keys (r : AttemptRow) : (finishAttemptRow outcome now r).keys = r.keys := rfl

/-- The `SET` clause of a finished request. -/
def finishRequestRow (outcome : LedgerOutcome) (now : Timestamp) (r : RequestRow) : RequestRow :=
  { r with record := r.record.finish outcome now }

lemma finishRequestRow_keys (r : RequestRow) : (finishRequestRow outcome now r).keys = r.keys := rfl

/-- `update_terminal_record_pg` on an attempt: whether a row was still open. -/
def finishAttempt (attempt : LedgerAttempt) (outcome : LedgerOutcome) (now : Timestamp) :
    LedgerStmt Bool :=
  checked
    (updateAttempts (fun r => attempt.names r && r.record.state == .started)
      (finishAttemptRow outcome now) (finishAttemptRow_keys outcome now))
    fun updated => .ok (updated.length == 1)

variable (request : LedgerRequest)

/-- `update_terminal_record_pg` on a request: whether a row was still open. -/
def finishRequest (outcome : LedgerOutcome) (now : Timestamp) : LedgerStmt Bool :=
  checked
    (updateRequests request.opens (finishRequestRow outcome now)
      (finishRequestRow_keys outcome now))
    fun updated => .ok (updated.length == 1)

/-- The outcome settles the reservation; any other outcome releases it. -/
def settles (outcome : LedgerOutcome) : Bool :=
  outcome.chargeable && outcome.estimate.billableCost.isSome

def finalizeAttempt (attempt : LedgerAttempt) (outcome : LedgerOutcome) (now : Timestamp) :
    LedgerTxn Unit := do
  ofExcept (validateBillingOutcome outcome)
  let updated ← Txn.stmt (finishAttempt attempt outcome now)
  if updated then
    if settles outcome then settleBudget attempt outcome now
    else
      releaseBudget attempt.attemptId attempt.tenant (outcomeEvidenceSource outcome)
        outcome.billingMode outcome.terminalReason now
  else
    -- a record finalized before is left as it is
    Txn.stmt (select fun d =>
      match d.attempts.rows.find? attempt.names with
      | some r => if r.record.state = .started then .error missingScopedRecord else .ok ()
      | none => .error missingScopedRecord)

/-- The provider columns of a finished request: of the last attempt that was sent. -/
structure ProviderSnapshot where
  providerId : String
  resolvedModel : String
  providerProtocol : String
  attemptId : String
  deriving DecidableEq

/-- The `SET` clause that records the provider of a finished request. -/
def withSnapshot (snapshot : Option ProviderSnapshot) (r : RequestRow) : RequestRow :=
  { r with
    providerId := snapshot.map (·.providerId)
    resolvedModel := snapshot.map (·.resolvedModel)
    providerProtocol := snapshot.map (·.providerProtocol)
    lastAttemptId := snapshot.map (·.attemptId) }

lemma withSnapshot_keys (snapshot : Option ProviderSnapshot) (r : RequestRow) :
    (withSnapshot snapshot r).keys = r.keys := rfl

/-- The `SET` clause of `settle_usage_reservation_by_id_pg`: a chargeable request settles what
it used, any other releases the reservation. -/
def settleUsageRow (outcome : LedgerOutcome) (now : Timestamp) (u : UsageRow) : UsageRow :=
  { u with
    state := if outcome.chargeable then .settled else .released
    actualRequests := if outcome.chargeable then 1 else 0
    actualTokens :=
      if outcome.chargeable then toI64 (estimateTotalTokens outcome.estimate) else 0
    actualCostMicrounits := if outcome.chargeable then settledMicrounits outcome else 0
    evidenceSource := some (outcomeEvidenceSource outcome)
    billingMode := some outcome.billingMode
    updatedAt := now
    terminalAt := some now }

lemma settleUsageRow_keys (u : UsageRow) : (settleUsageRow outcome now u).keys = u.keys := rfl

/-- The `UPDATE` of `settle_usage_reservation_by_id_pg`. -/
def settleUsage (outcome : LedgerOutcome) (now : Timestamp) : LedgerStmt (List UsageRow) :=
  updateUsage (UsageRow.openFor request.tenant request.ledgerId) (settleUsageRow outcome now)
    (settleUsageRow_keys outcome now)

def finalizeRequestUsage (outcome : LedgerOutcome)
    (snapshot : Option ProviderSnapshot) (now : Timestamp) : LedgerTxn Unit := do
  ofExcept (validateBillingOutcome outcome)
  let updated ← Txn.stmt (finishRequest request outcome now)
  if updated then
    let _ ← Txn.stmt (updateRequests
      (fun r => r.ledgerId == request.ledgerId && r.tenant == request.tenant
        && r.record.leaseOwner == request.leaseOwner)
      (withSnapshot snapshot) (withSnapshot_keys snapshot))
    let _ ← Txn.stmt (settleUsage request outcome now)
    pure ()
  else Txn.throw missingScopedRecord

/-! ### Leases -/

def renewRequestRow (leaseTtl : ℕ) (now : Timestamp) (r : RequestRow) : RequestRow :=
  { r with record := r.record.renew leaseTtl now }

lemma renewRequestRow_keys (leaseTtl : ℕ) (now : Timestamp) (r : RequestRow) :
    (renewRequestRow leaseTtl now r).keys = r.keys := rfl

def renewAttemptRow (leaseTtl : ℕ) (now : Timestamp) (r : AttemptRow) : AttemptRow :=
  { r with record := r.record.renew leaseTtl now }

lemma renewAttemptRow_keys (leaseTtl : ℕ) (now : Timestamp) (r : AttemptRow) :
    (renewAttemptRow leaseTtl now r).keys = r.keys := rfl

def renewLease (leaseTtl : ℕ) (now : Timestamp) : LedgerTxn Unit := do
  let _ ← Txn.stmt (updateRequests request.opens (renewRequestRow leaseTtl now)
    (renewRequestRow_keys leaseTtl now))
  let _ ← Txn.stmt (updateAttempts
    (fun r => r.requestLedgerId == request.ledgerId && r.tenant == request.tenant
      && r.record.leaseOwner == request.leaseOwner && r.record.state == .started)
    (renewAttemptRow leaseTtl now) (renewAttemptRow_keys leaseTtl now))
  pure ()

/-- An open record whose lease has run out. -/
def leaseExpired (now : Timestamp) (c : RecordColumns) : Bool :=
  c.state == .started && decide (c.leaseExpiresAt ≤ now)

/-- The `SET` clause of an attempt whose lease has run out. -/
def expireAttemptRow (now : Timestamp) (r : AttemptRow) : AttemptRow :=
  { r with
    record := r.record.expire
      "ledger lease expired before a terminal Provider outcome was persisted" now }

lemma expireAttemptRow_keys (r : AttemptRow) : (expireAttemptRow now r).keys = r.keys := rfl

/-- The `SET` clause of a request whose lease has run out. -/
def expireRequestRow (now : Timestamp) (r : RequestRow) : RequestRow :=
  { r with
    record := { r.record.expire
      "ledger lease expired before a terminal request outcome was persisted" now with
      toolOutcome :=
        if r.metadata.toolUseRequested then .upstreamOrDeliveryError else .notRequested } }

lemma expireRequestRow_keys (r : RequestRow) : (expireRequestRow now r).keys = r.keys := rfl

/-- The `UPDATE` that fails the attempts whose lease has run out. -/
def expireAttempts (now : Timestamp) : LedgerStmt (List AttemptRow) :=
  updateAttempts (fun r => leaseExpired now r.record) (expireAttemptRow now)
    (expireAttemptRow_keys now)

/-- The `UPDATE` that fails the requests whose lease has run out. -/
def expireRequests (now : Timestamp) : LedgerStmt (List RequestRow) :=
  updateRequests (fun r => leaseExpired now r.record) (expireRequestRow now)
    (expireRequestRow_keys now)

/-- The releases of `reconcile_expired`, one reservation at a time. -/
def releaseExpired (now : Timestamp) : List AttemptRow → LedgerTxn Unit
  | [] => pure ()
  | a :: rest => do
      releaseBudget a.attemptId a.tenant "lease-expired" "unreconciled"
        "expired Provider Attempt lease released its budget reservation" now
      releaseExpired now rest

/-- The `SET` clause of `release_usage_reservation_pg`. -/
def releaseUsageRow (now : Timestamp) (u : UsageRow) : UsageRow :=
  { u with
    state := .released
    evidenceSource := some "lease-expired"
    billingMode := some "unreconciled"
    updatedAt := now
    terminalAt := some now }

lemma releaseUsageRow_keys (u : UsageRow) : (releaseUsageRow now u).keys = u.keys := rfl

/-- `release_usage_reservation_pg`. -/
def releaseUsage (requestLedgerId : String) (tenant : TenantKey) (now : Timestamp) :
    LedgerStmt (List UsageRow) :=
  updateUsage (UsageRow.openFor tenant requestLedgerId) (releaseUsageRow now)
    (releaseUsageRow_keys now)

/-- The usage releases of `reconcile_expired`. -/
def releaseExpiredUsage (now : Timestamp) : List RequestRow → LedgerTxn Unit
  | [] => pure ()
  | r :: rest => do
      let _ ← Txn.stmt (releaseUsage r.ledgerId r.tenant now)
      releaseExpiredUsage now rest

/-- `reconcile_expired`: how many requests and attempts it closed. -/
def reconcileExpired (now : Timestamp) : LedgerTxn (ℕ × ℕ) := do
  let attempts ← Txn.stmt (expireAttempts now)
  releaseExpired now attempts
  let requests ← Txn.stmt (expireRequests now)
  releaseExpiredUsage now requests
  pure (requests.length, attempts.length)

/-! ### What the statements do -/

section

variable {d : Ledger} {w : Ledger → Ledger} {u : Unit}

lemma closeReservation_exec {now : Timestamp}
    (h : (closeReservation tenant attemptId state settled source mode now).exec d = .ok (rs, w)) :
    rs = (d.reservations.rows.filter (openFor tenant attemptId)).map
        (closeRow state settled source mode now) ∧
      w d = d.setReservations (d.reservations.update (openFor tenant attemptId)
          (closeRow state settled source mode now) (closeRow_keys state settled source mode now)) ∧
      ∀ r ∈ rs, 0 ≤ r.reservedMicrounits := by
  obtain ⟨rfl, hw, hcheck⟩ := updateWhere_exec (fun a ha b hb hab =>
    d.reservations.eq_of_key ha hb (k := .id a.reservationId) (by simp [ReservationRow.keys])
      (by simp_all [ReservationRow.keys])) h
  refine ⟨rfl, hw, fun r hr => ?_⟩
  obtain ⟨s, hs, rfl⟩ := mem_map.1 hr
  have hs := hcheck s hs
  simp only [checkReservation, require_eq_ok, Bool.and_eq_true, decide_eq_true_eq] at hs
  exact hs.1

lemma filter_openFor {r : ReservationRow}
    (hr : r ∈ d.reservations.rows.filter (openFor tenant attemptId)) :
    d.reservations.rows.filter (openFor tenant attemptId) = [r] := by
  obtain ⟨hmem, hpr⟩ := mem_filter.1 hr
  refine Table.filter_eq_singleton hmem hpr fun s hs => ⟨.attempt tenant attemptId, ?_, ?_⟩
  · simp [openFor, ReservationRow.keys] at hs ⊢
    simp [hs]
  · simp [openFor, ReservationRow.keys] at hpr ⊢
    simp [hpr]

lemma filter_attempt_eq {p : AttemptRow → Bool} (attemptId : String) {r : AttemptRow}
    (hp : ∀ s, p s → s.attemptId = attemptId) (hr : r ∈ d.attempts.rows.filter p) :
    d.attempts.rows.filter p = [r] := by
  obtain ⟨hmem, hpr⟩ := mem_filter.1 hr
  refine Table.filter_eq_singleton hmem hpr fun s hs => ⟨attemptId, ?_, ?_⟩
  · simp [AttemptRow.keys, hp s hs]
  · simp [AttemptRow.keys, hp r hpr]

/-- An update that has to reach one account of a tenant. -/
lemma updateOne_exec {p : AccountRow → Bool} {f : AccountRow → AccountRow}
    {hf : ∀ r, (f r).keys = r.keys} {rs : List AccountRow} {failure : AppError}
    (h : (updateAccounts (fun a => a.tenant == tenant && p a) f hf).exec d = .ok (rs, w))
    (hlen : require (rs.length == 1) failure = .ok u) :
    ∃ a p, d.accounts.rows.filter p = [a] ∧ a.tenant = tenant ∧
      w d = d.setAccounts (d.accounts.update p f hf) ∧ checkAccount (f a) = .ok () := by
  obtain ⟨hrs, hw, hcheck⟩ := updateAccounts_exec h
  simp only [require_eq_ok, beq_iff_eq, hrs, length_map] at hlen
  obtain ⟨a, ha⟩ := length_eq_one_iff.1 hlen
  have hmem := mem_filter.1 (ha ▸ mem_singleton_self a)
  simp only [Bool.and_eq_true, beq_iff_eq] at hmem
  exact ⟨a, _, ha, hmem.2.1, hw, hcheck a (by simp [ha])⟩

end

/-! ### Closing a reservation -/

/-- What it takes to close the open reservation of an attempt: the reservation and its account
as they are in `d`, and the event that records the move. -/
structure Closing (d : Ledger) (tenant : TenantKey) (attemptId : String) where
  reservation : ReservationRow
  isOpen : d.reservations.rows.filter (ReservationRow.openFor tenant attemptId) = [reservation]
  account : AccountRow
  selected : AccountRow → Bool
  isSelected : d.accounts.rows.filter selected = [account]
  accountTenant : account.tenant = tenant
  /-- what the reservation settles -/
  settled : ℤ
  accountChecked :
    checkAccount (moveOut reservation.reservedMicrounits settled account) = .ok ()
  close : ReservationRow → ReservationRow
  keepsKeys : ∀ r, (close r).keys = r.keys
  event : BudgetEvent
  eventTenant : event.tenant = tenant
  eventAttempt : event.attemptId = some attemptId
  reservedDelta : event.reservedDelta = -reservation.reservedMicrounits
  settledDelta : event.settledDelta = settled
  outcome :
    (∀ r, (close r).state = .settled ∧ (close r).settledMicrounits = settled) ∧
        event.eventType = .settled ∨
      (∀ r, (close r).state = .released) ∧ settled = 0 ∧ event.eventType = .released

/-- The ledger with the reservation closed. -/
def Closing.result {d : Ledger} (c : Closing d tenant attemptId) : Ledger :=
  ((d.setReservations (d.reservations.update (ReservationRow.openFor tenant attemptId) c.close
    c.keepsKeys)).setAccounts
      (d.accounts.update c.selected (moveOut c.reservation.reservedMicrounits c.settled)
        (moveOut_keys c.reservation.reservedMicrounits c.settled))).pushEvent c.event

section

variable {d d' : Ledger} {now : Timestamp} {u : Unit}

lemma closeReservation_cases {w : Ledger → Ledger}
    (h : (closeReservation tenant attemptId state settled source mode now).exec d = .ok (rs, w)) :
    (d.reservations.rows.filter (openFor tenant attemptId) = [] ∧ rs = [] ∧
        w d = d) ∨ ∃ r, d.reservations.rows.filter (openFor tenant attemptId) = [r] ∧
        rs = [closeRow state settled source mode now r] ∧
        w d = d.setReservations (d.reservations.update (openFor tenant attemptId)
          (closeRow state settled source mode now)
          (closeRow_keys state settled source mode now)) := by
  obtain ⟨hrs, hw, -⟩ := closeReservation_exec h
  cases hsel : d.reservations.rows.filter (openFor tenant attemptId) with
  | nil =>
    rw [Table.update_eq_self hsel] at hw
    exact .inl ⟨rfl, by rw [hrs, hsel, map_nil], hw⟩
  | cons r l =>
    have hone := filter_openFor (hsel ▸ mem_cons_self : r ∈ d.reservations.rows.filter
      (openFor tenant attemptId))
    rw [hsel] at hone
    exact .inr ⟨r, hone, by rw [hrs, hsel, hone, map_singleton], hw⟩

variable {outcome : LedgerOutcome} {attempt : LedgerAttempt}

lemma settleBudget_run (h : (settleBudget attempt outcome now).run d = .ok (u, d')) :
    ∃ c : Closing d attempt.tenant attempt.attemptId,
      c.settled = settledMicrounits outcome ∧ d' = c.result := by
  obtain ⟨closed, w, hw, h⟩ := run_stmt_bind h
  rcases closeReservation_cases hw with ⟨-, rfl, -⟩ | ⟨r, hsel, rfl, hd1⟩
  · simp at h
  · obtain ⟨_, w2, hw2, h⟩ := run_stmt_bind h
    obtain ⟨w3, hw3, rfl⟩ := run_stmt_ok h
    obtain rfl := insertBudgetEvent_exec hw3
    obtain ⟨rs, hrs, hlen⟩ := checked_exec hw2
    obtain ⟨a, p, hone, hat, hset, hcheck⟩ := updateOne_exec hrs hlen
    rw [hset, hd1]
    rw [hd1] at hone
    exact ⟨{
      reservation := r, isOpen := hsel, account := a, selected := p, isSelected := hone
      accountTenant := hat, settled := _, accountChecked := hcheck
      close := closeRow .settled (some (settledMicrounits outcome)) _ _ now
      keepsKeys := closeRow_keys _ _ _ _ _
      event := _, eventTenant := rfl, eventAttempt := rfl, reservedDelta := rfl, settledDelta := rfl
      outcome := .inl ⟨fun _ => ⟨rfl, rfl⟩, rfl⟩ }, rfl, rfl⟩

lemma releaseBudget_run {reason : String}
    (h : (releaseBudget attemptId tenant source mode reason now).run d = .ok (u, d')) :
    (d.reservations.rows.filter (openFor tenant attemptId) = [] ∧ d' = d) ∨
      ∃ c : Closing d tenant attemptId, c.settled = 0 ∧ d' = c.result := by
  obtain ⟨closed, w, hw, h⟩ := run_stmt_bind h
  rcases closeReservation_cases hw with ⟨hnone, rfl, hd1⟩ | ⟨r, hsel, rfl, hd1⟩
  · simp only [List.head?_nil, pure_eq, run_done, Except.ok.injEq, Prod.mk.injEq] at h
    exact .inl ⟨hnone, by rw [← h.2, hd1]⟩
  · obtain ⟨_, w2, hw2, h⟩ := run_stmt_bind h
    obtain ⟨w3, hw3, rfl⟩ := run_stmt_ok h
    obtain rfl := insertBudgetEvent_exec hw3
    obtain ⟨rs, hrs, hlen⟩ := checked_exec hw2
    obtain ⟨a, p, hone, hat, hset, hcheck⟩ := updateOne_exec hrs hlen
    rw [hset, hd1]
    rw [hd1] at hone
    exact .inr ⟨{
      reservation := r, isOpen := hsel, account := a, selected := p, isSelected := hone
      accountTenant := hat, settled := _, accountChecked := hcheck
      close := closeRow .released none _ _ now, keepsKeys := closeRow_keys _ _ _ _ _
      event := _, eventTenant := rfl, eventAttempt := rfl, reservedDelta := rfl, settledDelta := rfl
      outcome := .inr ⟨fun _ => rfl, rfl, rfl⟩ }, rfl, rfl⟩

/-- **A successful finalization**: either it finishes the one open row the handle names and
closes the reservation of the attempt, or it finds the row finished and changes nothing. -/
lemma finalizeAttempt_run (h : (finalizeAttempt attempt outcome now).run d = .ok (u, d')) :
    (∃ r, d.attempts.rows.filter (fun r => attempt.names r && r.record.state == .started) = [r] ∧
      ∃ d1, d1 = d.setAttempts (d.attempts.update
          (fun r => attempt.names r && r.record.state == .started)
          (finishAttemptRow outcome now) (finishAttemptRow_keys outcome now)) ∧
        ((∃ c : Closing d1 attempt.tenant attempt.attemptId,
            (c.settled = 0 ∨ c.settled = settledMicrounits outcome) ∧ d' = c.result) ∨
          d1.reservations.rows.filter
            (openFor attempt.tenant attempt.attemptId) = [] ∧ d' = d1)) ∨
      ((∃ r ∈ d.attempts.rows, attempt.names r ∧ r.record.state ≠ .started) ∧ d' = d) := by
  obtain ⟨_, h0, h⟩ := run_ofExcept_bind h
  obtain ⟨updated, w, hw, h⟩ := run_stmt_bind h
  obtain ⟨rs, hrs, hupd⟩ := checked_exec hw
  obtain ⟨hrs, hset⟩ := updateAttempts_exec hrs
  simp only [Except.ok.injEq] at hupd
  cases updated with
  | true =>
    simp only [beq_iff_eq, hrs, length_map] at hupd
    obtain ⟨r, hr⟩ := length_eq_one_iff.1 hupd
    refine .inl ⟨r, hr, _, hset, ?_⟩
    simp only [if_true] at h
    split at h
    · obtain ⟨c, hc, rfl⟩ := settleBudget_run h
      exact .inl ⟨c, .inr hc, rfl⟩
    · rcases releaseBudget_run h with hnone | ⟨c, hc, rfl⟩
      · exact .inr hnone
      · exact .inl ⟨c, .inl hc, rfl⟩
  | false =>
    obtain ⟨w2, hw2, rfl⟩ := run_stmt_ok h
    obtain ⟨hfound, rfl⟩ := select_exec hw2
    -- the handle fixes the id, so not one row means none, and the update changed nothing
    have hnone : d.attempts.rows.filter
        (fun r => attempt.names r && r.record.state == .started) = [] := by
      by_contra hne
      obtain ⟨r, hr⟩ := exists_mem_of_ne_nil _ hne
      have hone := filter_attempt_eq attempt.attemptId (by
        intro s hs
        simp only [LedgerAttempt.names, Bool.and_eq_true, beq_iff_eq] at hs
        exact hs.1.1.1) hr
      simp [hrs, hone] at hupd
    rw [Table.update_eq_self hnone] at hset
    have hd : w d = d := hset
    rw [hd] at hfound ⊢
    split at hfound
    · rename_i r hr
      split at hfound
      · cases hfound
      · rename_i hterminal
        exact .inr ⟨⟨r, mem_of_find?_eq_some hr, List.find?_some hr, hterminal⟩, rfl⟩
    · cases hfound

/-! ### The other terminal transactions -/

/-- The releases of a reconciliation keep every relation that closing a reservation keeps. -/
lemma releaseExpired_rel {R : Ledger → Ledger → Prop} (hrefl : ∀ d, R d d)
    (htrans : ∀ {a b c}, R a b → R b c → R a c) {attempts : List AttemptRow}
    (hclose : ∀ a ∈ attempts, ∀ {d} (c : Closing d a.tenant a.attemptId), R d c.result)
    (h : (releaseExpired now attempts).run d = .ok (u, d')) : R d d' := by
  induction attempts generalizing d with
  | nil =>
    simp only [releaseExpired, pure_eq, run_done, Except.ok.injEq, Prod.mk.injEq] at h
    rw [← h.2]
    exact hrefl d
  | cons a rest ih =>
    obtain ⟨_, d1, h1, h⟩ := run_bind_ok h
    refine htrans ?_ (ih (fun b hb => hclose b (mem_cons_of_mem a hb)) h)
    rcases releaseBudget_run h1 with ⟨-, rfl⟩ | ⟨c, -, rfl⟩
    · exact hrefl d1
    · exact hclose a mem_cons_self c

lemma releaseExpiredUsage_run {requests : List RequestRow}
    (h : (releaseExpiredUsage now requests).run d = .ok (u, d')) :
    ∃ usage, d' = d.setUsage usage := by
  induction requests generalizing d with
  | nil =>
    simp only [releaseExpiredUsage, pure_eq, run_done, Except.ok.injEq, Prod.mk.injEq] at h
    exact ⟨d.usage, h.2.symm⟩
  | cons r rest ih =>
    obtain ⟨_, w, hw, h⟩ := run_stmt_bind h
    obtain ⟨usage, rfl⟩ := ih h
    exact ⟨usage, by rw [(updateUsage_exec hw).2]; rfl⟩

/-- **A successful reconciliation**: the attempts whose lease has run out are failed, then their
reservations are released; the rest concerns requests and their usage. -/
lemma reconcileExpired_run {n : ℕ × ℕ} (h : (reconcileExpired now).run d = .ok (n, d')) :
    ∃ d2 requests usage,
      (releaseExpired now ((d.attempts.rows.filter fun r => leaseExpired now r.record).map
          (expireAttemptRow now))).run
        (d.setAttempts (d.attempts.update (fun r => leaseExpired now r.record)
          (expireAttemptRow now) (expireAttemptRow_keys now))) = .ok ((), d2) ∧
      d' = (d2.setRequests requests).setUsage usage := by
  obtain ⟨attempts, w, hw, h⟩ := run_stmt_bind h
  obtain ⟨rfl, hset⟩ := updateAttempts_exec hw
  obtain ⟨_, d2, h2, h⟩ := run_bind_ok h
  obtain ⟨requests, w3, hw3, h⟩ := run_stmt_bind h
  obtain ⟨_, d4, h4, h⟩ := run_bind_ok h
  obtain ⟨usage, rfl⟩ := releaseExpiredUsage_run h4
  simp only [pure_eq, run_done, Except.ok.injEq, Prod.mk.injEq] at h
  rw [hset] at h2
  rw [(updateRequests_exec hw3).2] at h
  exact ⟨d2, _, usage, h2, h.2.symm⟩

variable {W : (Ledger → Ledger) → Prop} {leaseTtl : ℕ}

lemma expireAttempts_writes (hW : ∀ q, W fun d => setAttempts (d.attempts.update q
    (expireAttemptRow now) (expireAttemptRow_keys now)) d) : (expireAttempts now).Writes W := by
  unfold expireAttempts
  exact updateWhere_writes hW

lemma expireRequests_writes (hW : ∀ q, W fun d => setRequests (d.requests.update q
    (expireRequestRow now) (expireRequestRow_keys now)) d) : (expireRequests now).Writes W := by
  unfold expireRequests
  exact updateWhere_writes hW

lemma releaseExpiredUsage_writes (hW : ∀ q, W fun d => setUsage (d.usage.update q
    (releaseUsageRow now) (releaseUsageRow_keys now)) d) (requests : List RequestRow) :
    (releaseExpiredUsage now requests).All fun _ s => s.Writes W := by
  induction requests with
  | nil => exact all_done _
  | cons r rest ih =>
    refine .seq ?_ fun _ => ih
    exact updateWhere_writes hW

lemma finalizeRequestUsage_writes {snapshot : Option ProviderSnapshot}
    (hfin : ∀ q, W fun d => setRequests (d.requests.update q (finishRequestRow outcome now)
        (finishRequestRow_keys outcome now)) d)
    (hsnap : ∀ q, W fun d => setRequests (d.requests.update q (withSnapshot snapshot)
        (withSnapshot_keys snapshot)) d)
    (husage : ∀ q, W fun d => setUsage (d.usage.update q (settleUsageRow outcome now)
        (settleUsageRow_keys outcome now)) d) (request : LedgerRequest) :
    (finalizeRequestUsage request outcome snapshot now).All fun _ s => s.Writes W := by
  refine .bind (all_ofExcept _) fun _ => ?_
  refine .seq (checked_writes (updateWhere_writes hfin) _) fun updated => ?_
  cases updated with
  | false => exact all_throw _
  | true =>
    refine .seq (updateWhere_writes hsnap) fun _ => ?_
    refine .seq (updateWhere_writes husage) fun _ => ?_
    exact all_done _

/-- **A lease renewal** writes a request and its open attempts. -/
lemma renewLease_run {request : LedgerRequest}
    (h : (renewLease request leaseTtl now).run d = .ok (u, d')) :
    ∃ requests, d' = (d.setRequests requests).setAttempts (d.attempts.update
      (fun r => r.requestLedgerId == request.ledgerId && r.tenant == request.tenant
        && r.record.leaseOwner == request.leaseOwner && r.record.state == .started)
      (renewAttemptRow leaseTtl now) (renewAttemptRow_keys leaseTtl now)) := by
  obtain ⟨_, w, hw, h⟩ := run_stmt_bind h
  obtain ⟨_, w2, hw2, h⟩ := run_stmt_bind h
  simp only [pure_eq, run_done, Except.ok.injEq, Prod.mk.injEq] at h
  rw [(updateAttempts_exec hw2).2, (updateRequests_exec hw).2] at h
  exact ⟨_, h.2.symm⟩

lemma renewLease_writes
    (hreq : ∀ q, W fun d => setRequests (d.requests.update q (renewRequestRow leaseTtl now)
      (renewRequestRow_keys leaseTtl now)) d)
    (hatt : ∀ q, W fun d => setAttempts (d.attempts.update q (renewAttemptRow leaseTtl now)
      (renewAttemptRow_keys leaseTtl now)) d) (request : LedgerRequest) :
    (renewLease request leaseTtl now).All fun _ s => s.Writes W := by
  refine .seq (updateWhere_writes hreq) fun _ => ?_
  exact .seq (updateWhere_writes hatt) fun _ => all_done _

end

end Ledger

end ModelPort
