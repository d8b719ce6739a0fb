import ModelPort.Ledger.Metadata
import ModelPort.Lib.Except
import ModelPort.Ledger.UsagePolicy

/-!
# Statements on the ledger's tables

The statements the ledger's transactions are made of, table by table, with the `CHECK`
constraints and foreign keys that can make them fail, and the handles by which a process names
its requests and attempts.
-/

namespace ModelPort

open Relational Transaction

variable {f : RequestRow → RequestRow} {α : Type} {u : Unit} {p : RequestRow → Bool}
  {rs : List RequestRow} {tenant : TenantKey} {ledgerId : String}

/-- A transaction of the ledger. -/
abbrev LedgerTxn (α : Type) := Txn Ledger Lock AppError α

/-- A statement of the ledger. -/
abbrev LedgerStmt (α : Type) := Stmt Ledger Lock AppError α

namespace Ledger

/-- `Result::Err` of a check made by the process, inside a transaction. -/
def ofExcept : Except AppError α → LedgerTxn α
  | .ok a => .done a
  | .error e => .throw e

/-- The value of a fallible check, or its error. -/
def require (check : Bool) (e : AppError) : Except AppError Unit :=
  if check then .ok () else .error e

@[simp] lemma require_eq_ok {check : Bool} {e : AppError} : require check e = .ok u ↔ check := by
  cases check <;> simp [require]

/-- A violated `CHECK` constraint. -/
def checkViolation (table : String) : AppError :=
  .database ("new row for relation " ++ table ++ " violates a check constraint")

/-- A violated unique constraint. -/
def uniqueViolation (table : String) : AppError :=
  .database ("duplicate key value violates a unique constraint of " ++ table)

/-- A violated foreign key. -/
def foreignKeyViolation (table : String) : AppError :=
  .database ("insert or update on table " ++ table ++ " violates a foreign key constraint")

/-- A row expected and not found (`sqlx::Error::RowNotFound`). -/
def rowNotFound : AppError :=
  .database "no rows returned by a query that expected to return at least one row"

def missingScopedRecord : AppError :=
  .database "ledger record does not exist in the supplied tenant and lease scope"

/-! ### Statements on the tables -/

/-- `UPDATE modelport_gateway_requests`. -/
def updateRequests (p : RequestRow → Bool) (f : RequestRow → RequestRow)
    (hf : ∀ r, (f r).keys = r.keys) : LedgerStmt (List RequestRow) :=
  updateWhere requestsT (fun r => .request (.ledgerId r.ledgerId)) p f hf
    fun r => require r.record.check (checkViolation "modelport_gateway_requests")

/-- `UPDATE modelport_provider_attempts`. -/
def updateAttempts (p : AttemptRow → Bool) (f : AttemptRow → AttemptRow)
    (hf : ∀ r, (f r).keys = r.keys) : LedgerStmt (List AttemptRow) :=
  updateWhere attemptsT (fun r => .attempt r.attemptId) p f hf
    fun r => require r.record.check (checkViolation "modelport_provider_attempts")

/-- The `CHECK` of `modelport_budget_accounts`, and the range of its `BIGINT` columns. -/
def checkAccount (r : AccountRow) : Except AppError Unit := do
  let _ ← bigint r.reservedMicrounits
  let _ ← bigint r.settledMicrounits
  let _ ← bigint r.version
  require (r.limitMicrounits.all (0 ≤ ·) && 0 ≤ r.reservedMicrounits && 0 ≤ r.settledMicrounits
    && 0 ≤ r.version) (checkViolation "modelport_budget_accounts")

/-- `UPDATE modelport_budget_accounts`. -/
def updateAccounts (p : AccountRow → Bool) (f : AccountRow → AccountRow)
    (hf : ∀ r, (f r).keys = r.keys) : LedgerStmt (List AccountRow) :=
  updateWhere accountsT (fun r => .account r.tenant) p f hf checkAccount

/-- The `CHECK` of `modelport_budget_reservations`. -/
def checkReservation (r : ReservationRow) : Except AppError Unit :=
  require (0 ≤ r.reservedMicrounits && 0 ≤ r.settledMicrounits)
    (checkViolation "modelport_budget_reservations")

/-- `UPDATE modelport_budget_reservations`. -/
def updateReservations (p : ReservationRow → Bool) (f : ReservationRow → ReservationRow)
    (hf : ∀ r, (f r).keys = r.keys) : LedgerStmt (List ReservationRow) :=
  updateWhere reservationsT (fun r => .reservation (.id r.reservationId)) p f hf
    checkReservation

/-- The `CHECK` of `modelport_usage_reservations`, and the range of its `BIGINT` columns. -/
def checkUsage (r : UsageRow) : Except AppError Unit := do
  let _ ← bigint r.reservedTokens
  let _ ← bigint r.reservedCostMicrounits
  require (0 ≤ r.reservedRequests && r.reservedRequests ≤ 1 && 0 ≤ r.reservedTokens
    && 0 ≤ r.reservedCostMicrounits && 0 ≤ r.actualRequests && r.actualRequests ≤ 1
    && 0 ≤ r.actualTokens && 0 ≤ r.actualCostMicrounits)
    (checkViolation "modelport_usage_reservations")

/-- `UPDATE modelport_usage_reservations`. -/
def updateUsage (p : UsageRow → Bool) (f : UsageRow → UsageRow)
    (hf : ∀ r, (f r).keys = r.keys) : LedgerStmt (List UsageRow) :=
  updateWhere usageT (fun r => .usage (r.tenant, r.requestLedgerId)) p f hf checkUsage

/-- `INSERT INTO modelport_budget_accounts … ON CONFLICT DO NOTHING`: a new account needs its
environment in the tenant catalog. -/
def insertAccount (tenant : TenantKey) : LedgerStmt Unit where
  locks d := if d.accounts.Free { tenant := tenant } then [.account tenant] else []
  exec d :=
    if d.accounts.Free { tenant := tenant } then
      if tenant ∈ d.environments.rows then
        .ok ((), fun e => e.setAccounts (e.accounts.insert { tenant := tenant }))
      else .error (foreignKeyViolation "modelport_budget_accounts")
    else .ok ((), id)

/-- `INSERT INTO modelport_budget_events`: an event of a reservation needs that reservation. -/
def insertBudgetEvent (event : BudgetEvent) : LedgerStmt Unit where
  locks _ := []
  exec d :=
    if event.reservationId.all fun id =>
        d.reservations.rows.any fun r => r.reservationId == id && r.tenant == event.tenant then
      .ok ((), pushEvent event)
    else .error (foreignKeyViolation "modelport_budget_events")

/-! ### What the statements do -/

section

variable {d d' : Ledger} {w : Ledger → Ledger} {x : Except AppError α}

lemma attempt_eq {r s : AttemptRow} (hr : r ∈ d.attempts.rows) (hs : s ∈ d.attempts.rows)
    (h : r.attemptId = s.attemptId) : r = s :=
  d.attempts.eq_of_key hr hs (k := s.attemptId) (by simp [AttemptRow.keys, h])
    (by simp [AttemptRow.keys])

lemma updateRequests_exec {hf : ∀ r, (f r).keys = r.keys}
    (h : (updateRequests p f hf).exec d = .ok (rs, w)) : rs = (d.requests.rows.filter p).map f ∧
      w d = d.setRequests (d.requests.update p f hf) := by
  obtain ⟨hrs, hw, -⟩ := updateWhere_exec (fun a ha b hb hab =>
    d.requests.eq_of_key ha hb (k := .ledgerId a.ledgerId) (by simp [RequestRow.keys])
      (by simp_all [RequestRow.keys])) h
  exact ⟨hrs, hw⟩

lemma updateAttempts_exec {p : AttemptRow → Bool} {f : AttemptRow → AttemptRow}
    {hf : ∀ r, (f r).keys = r.keys} {rs : List AttemptRow}
    (h : (updateAttempts p f hf).exec d = .ok (rs, w)) : rs = (d.attempts.rows.filter p).map f ∧
      w d = d.setAttempts (d.attempts.update p f hf) := by
  obtain ⟨hrs, hw, -⟩ := updateWhere_exec (fun a ha b hb hab =>
    attempt_eq ha hb (Lock.attempt.inj hab)) h
  exact ⟨hrs, hw⟩

lemma updateAccounts_exec {p : AccountRow → Bool} {f : AccountRow → AccountRow}
    {hf : ∀ r, (f r).keys = r.keys} {rs : List AccountRow}
    (h : (updateAccounts p f hf).exec d = .ok (rs, w)) : rs = (d.accounts.rows.filter p).map f ∧
      w d = d.setAccounts (d.accounts.update p f hf) ∧
      ∀ a ∈ d.accounts.rows.filter p, checkAccount (f a) = .ok () :=
  updateWhere_exec (fun a ha b hb hab =>
    d.accounts.eq_of_key ha hb (k := a.tenant) (by simp [AccountRow.keys])
      (by simp_all [AccountRow.keys])) h

lemma updateUsage_exec {p : UsageRow → Bool} {f : UsageRow → UsageRow}
    {hf : ∀ r, (f r).keys = r.keys} {rs : List UsageRow}
    (h : (updateUsage p f hf).exec d = .ok (rs, w)) :
    rs = (d.usage.rows.filter p).map f ∧ w d = d.setUsage (d.usage.update p f hf) := by
  obtain ⟨hrs, hw, -⟩ := updateWhere_exec (fun a ha b hb hab =>
    d.usage.eq_of_key ha hb (k := (a.tenant, a.requestLedgerId)) (by simp [UsageRow.keys])
      (by simp_all [UsageRow.keys])) h
  exact ⟨hrs, hw⟩

lemma updateRequests_write {hf : ∀ r, (f r).keys = r.keys}
    (hp : ∀ r, p r → r.ledgerId = ledgerId) (h : (updateRequests p f hf).exec d = .ok (rs, w)) :
    (d.requests.rows.filter p = [] ∧ w = id) ∨ (d.requests.rows.filter p ≠ [] ∧
        w = fun e => e.setRequests (e.requests.update (·.ledgerId == ledgerId) f hf)) :=
  updateWhere_write_key (fun r hr s => by simp [hp r hr, Bool.beq_comm]) h

/-- The write of an `UPDATE` of requests: those with the ids it has selected. -/
lemma updateRequests_write_ids {hf : ∀ r, (f r).keys = r.keys}
    (h : (updateRequests p f hf).exec d = .ok (rs, w)) :
    ∃ q, (∀ r, q r = decide (r.ledgerId ∈ (d.requests.rows.filter p).map (·.ledgerId))) ∧
      w = fun e => e.setRequests (e.requests.update q f hf) := by
  refine ⟨_, fun r => ?_, updateWhere_write h⟩
  rw [Bool.eq_iff_iff, List.any_eq_true, decide_eq_true_iff, List.mem_map]
  simp only [beq_iff_eq, Lock.request.injEq, RequestKey.ledgerId.injEq]
  rfl

lemma all_ofExcept {P : (β : Type) → LedgerStmt β → Prop} (x : Except AppError α) :
    (ofExcept x).All P := by
  cases x
  · exact Txn.all_throw _
  · exact Txn.all_done _

lemma run_ofExcept_ok {a : α} (h : (ofExcept x).run d = .ok (a, d')) : x = .ok a ∧ d' = d := by
  cases x with
  | error e => simp [ofExcept] at h
  | ok b =>
    simp only [ofExcept, Txn.run_done, Except.ok.injEq, Prod.mk.injEq] at h
    exact ⟨by rw [h.1], h.2.symm⟩

lemma run_ofExcept_bind {β : Type} {f : α → LedgerTxn β} {b : β}
    (h : (ofExcept x >>= f).run d = .ok (b, d')) : ∃ a, x = .ok a ∧ (f a).run d = .ok (b, d') := by
  obtain ⟨a, e, hrun, hf⟩ := Txn.run_bind_ok h
  obtain ⟨hx, rfl⟩ := run_ofExcept_ok hrun
  exact ⟨a, hx, hf⟩

lemma insertAccount_exec (h : (insertAccount tenant).exec d = .ok (u, w)) :
    (d.accounts.Free { tenant := tenant } ∧
        w = fun e => e.setAccounts (e.accounts.insert { tenant := tenant })) ∨
      (¬ d.accounts.Free { tenant := tenant } ∧ w = id) := by
  simp only [insertAccount] at h
  split at h
  · rename_i hfree
    split at h
    · simp only [Except.ok.injEq, Prod.mk.injEq] at h
      exact Or.inl ⟨hfree, h.2.symm⟩
    · cases h
  · rename_i hfree
    simp only [Except.ok.injEq, Prod.mk.injEq] at h
    exact Or.inr ⟨hfree, h.2.symm⟩

lemma insertBudgetEvent_exec {event : BudgetEvent}
    (h : (insertBudgetEvent event).exec d = .ok (u, w)) : w = pushEvent event := by
  simp only [insertBudgetEvent] at h
  split at h
  · simp only [Except.ok.injEq, Prod.mk.injEq] at h
    exact h.2.symm
  · cases h

end

end Ledger

/-! ### Handles -/

/-- The handle of a begun request. -/
structure LedgerRequest where
  ledgerId : String
  tenant : TenantKey
  leaseOwner : String
  deriving DecidableEq

/-- The handle of a begun attempt. -/
structure LedgerAttempt where
  attemptId : String
  requestLedgerId : String
  reservationId : String
  tenant : TenantKey
  leaseOwner : String
  deriving DecidableEq

/-- The row a request handle names, while it is open. -/
def LedgerRequest.opens (request : LedgerRequest) (r : RequestRow) : Bool :=
  r.ledgerId == request.ledgerId && r.tenant == request.tenant
    && r.record.leaseOwner == request.leaseOwner && r.record.state == .started

/-- The row an attempt handle names. -/
def LedgerAttempt.names (attempt : LedgerAttempt) (r : AttemptRow) : Bool :=
  r.attemptId == attempt.attemptId && r.tenant == attempt.tenant
    && r.record.leaseOwner == attempt.leaseOwner

/-- The reservation of an attempt, while it is open. -/
def ReservationRow.openFor (tenant : TenantKey) (attemptId : String) (r : ReservationRow) : Bool :=
  r.attemptId == attemptId && r.tenant == tenant && r.state == .reserved

/-- The usage reservation of a request. -/
def UsageRow.isFor (tenant : TenantKey) (requestLedgerId : String) (r : UsageRow) : Bool :=
  r.tenant == tenant && r.requestLedgerId == requestLedgerId

/-- The usage reservation of a request, while it holds capacity. -/
def UsageRow.openFor (tenant : TenantKey) (requestLedgerId : String) (r : UsageRow) : Bool :=
  r.isFor tenant requestLedgerId && r.state == .reserved

lemma Ledger.updateUsage_write {f : UsageRow → UsageRow} {hf : ∀ u, (f u).keys = u.keys}
    {rs : List UsageRow} {d : Ledger} {w : Ledger → Ledger}
    (h : (Ledger.updateUsage (UsageRow.openFor tenant ledgerId) f hf).exec d = .ok (rs, w)) :
    (d.usage.rows.filter (UsageRow.openFor tenant ledgerId) = [] ∧ w = id) ∨
      (d.usage.rows.filter (UsageRow.openFor tenant ledgerId) ≠ [] ∧
        w = fun e => e.setUsage (e.usage.update (UsageRow.isFor tenant ledgerId) f hf)) := by
  refine updateWhere_write_key (fun u hu v => ?_) h
  have hfor : u.tenant = tenant ∧ u.requestLedgerId = ledgerId := by
    simp only [UsageRow.openFor, UsageRow.isFor, Bool.and_eq_true, beq_iff_eq] at hu
    exact hu.1
  rw [Bool.eq_iff_iff]
  simp only [beq_iff_eq, Lock.usage.injEq, Prod.mk.injEq, UsageRow.isFor, Bool.and_eq_true, hfor.1,
    hfor.2]
  exact and_congr eq_comm eq_comm

end ModelPort
