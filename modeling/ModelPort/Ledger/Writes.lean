import ModelPort.Ledger.Call

/-!
# Which tables the calls write

Attempts, accounts, reservations and events form one group of tables, requests and usage
reservations another.
-/

namespace ModelPort

open Relational Transaction

namespace Ledger

/-- `W` holds for the writes of attempts, accounts, reservations and events. -/
structure BudgetWrites (W : (Ledger → Ledger) → Prop) : Prop where
  idle : W id
  attempts : ∀ t : Ledger → Table AttemptRow.keys, W fun d => setAttempts (t d) d
  accounts : ∀ t : Ledger → Table AccountRow.keys, W fun d => setAccounts (t d) d
  reservations : ∀ t : Ledger → Table ReservationRow.keys, W fun d => setReservations (t d) d
  event : ∀ e, W (pushEvent e)

/-- A write that leaves requests and usage reservations alone. -/
def Aside (w : Ledger → Ledger) : Prop :=
  ∀ d, (w d).requests = d.requests ∧ (w d).usage = d.usage

lemma aside_budgetWrites : BudgetWrites Aside where
  idle _ := ⟨rfl, rfl⟩
  attempts _ _ := ⟨rfl, rfl⟩
  accounts _ _ := ⟨rfl, rfl⟩
  reservations _ _ := ⟨rfl, rfl⟩
  event _ _ := ⟨rfl, rfl⟩

variable {W : (Ledger → Ledger) → Prop} {now : Timestamp}

namespace BudgetWrites

/-! ### Statements -/

variable (hW : BudgetWrites W)

include hW

lemma updateAccounts {p : AccountRow → Bool} {f : AccountRow → AccountRow}
    {hf : ∀ a, (f a).keys = a.keys} : (Ledger.updateAccounts p f hf).Writes W :=
  updateWhere_writes fun _ => hW.accounts _

lemma closeReservation {tenant : TenantKey} {attemptId : String}
    {state : ReservationState} {settled : Option ℤ} {source mode : String} :
    (Ledger.closeReservation tenant attemptId state settled source mode now).Writes W :=
  updateWhere_writes fun _ => hW.reservations _

lemma insertBudgetEvent (event : BudgetEvent) : (Ledger.insertBudgetEvent event).Writes W := by
  intro d u w h
  rw [insertBudgetEvent_exec h]
  exact hW.event event

lemma insertAccount (tenant : TenantKey) : (Ledger.insertAccount tenant).Writes W := by
  intro d u w h
  rcases insertAccount_exec h with ⟨-, rfl⟩ | ⟨-, rfl⟩
  · exact hW.accounts _
  · exact hW.idle

lemma insertAttempt (request : LedgerRequest) (row : AttemptRow) :
    (Ledger.insertAttempt request row).Writes W := by
  intro d u w h
  rw [(insertAttempt_exec h).2.2]
  exact hW.attempts _

lemma moveReserved (tenant : TenantKey) (reserved settled : ℤ)
    (failure : AppError) : (Ledger.moveReserved tenant reserved settled failure).Writes W :=
  checked_writes hW.updateAccounts _

/-! ### Transactions -/

lemma releaseBudget (attemptId : String) (tenant : TenantKey) (source mode reason : String) :
    (Ledger.releaseBudget attemptId tenant source mode reason now).All fun _ s => s.Writes W := by
  refine .seq hW.closeReservation fun closed => ?_
  cases closed.head? with
  | none => exact Txn.all_done _
  | some r =>
    exact .seq (hW.moveReserved _ _ _ _) fun _ =>
      Txn.All.stmt (hW.insertBudgetEvent _)

lemma settleBudget (attempt : LedgerAttempt) (outcome : LedgerOutcome) :
    (Ledger.settleBudget attempt outcome now).All fun _ s => s.Writes W := by
  refine .seq hW.closeReservation fun closed => ?_
  cases closed.head? with
  | none => exact Txn.all_throw _
  | some r =>
    exact .seq (hW.moveReserved _ _ _ _) fun _ =>
      Txn.All.stmt (hW.insertBudgetEvent _)

lemma finalizeAttempt (attempt : LedgerAttempt) (outcome : LedgerOutcome) :
    (Ledger.finalizeAttempt attempt outcome now).All fun _ s => s.Writes W := by
  refine .bind (all_ofExcept _) fun _ => ?_
  refine .seq (checked_writes (updateWhere_writes fun _ => hW.attempts _) _) fun updated => ?_
  cases updated with
  | false => exact .stmt (select_writes hW.idle _)
  | true =>
    simp only [if_true]
    split
    · exact hW.settleBudget attempt outcome
    · exact hW.releaseBudget _ _ _ _ _

lemma releaseExpired (attempts : List AttemptRow) :
    (Ledger.releaseExpired now attempts).All fun _ s => s.Writes W := by
  induction attempts with
  | nil => exact Txn.all_done _
  | cons a rest ih => exact .bind (hW.releaseBudget _ _ _ _ _) fun _ => ih

/-- A reconciliation writes requests and usage reservations as well. -/
lemma reconcileExpired (hexpire : (expireRequests now).Writes W)
    (hrel : ∀ requests, (releaseExpiredUsage now requests).All fun _ s => s.Writes W) :
    (Ledger.reconcileExpired now).All fun _ s => s.Writes W := by
  refine .seq (expireAttempts_writes fun _ => hW.attempts _) fun attempts => ?_
  refine .bind (hW.releaseExpired attempts) fun _ => ?_
  refine .seq hexpire fun requests => ?_
  exact Txn.All.bind (hrel requests) fun _ => Txn.all_done _

lemma updateBudget (input : EnterpriseBudgetUpdate) :
    (Ledger.updateBudget input).All fun _ s => s.Writes W := by
  refine .bind (all_ofExcept _) fun tenant => ?_
  refine .bind (all_ofExcept _) fun limit => .stmt fun d u w h => ?_
  rcases upsertLimit_cases h with ⟨-, rfl⟩ | ⟨-, rs, hw⟩
  · exact hW.accounts _
  · exact hW.updateAccounts d rs w hw

lemma adjustBudget (input : EnterpriseBudgetAdjustmentInput)
    (actorId : String) : (Ledger.adjustBudget input actorId now).All fun _ s => s.Writes W := by
  refine .bind (all_ofExcept _) fun tenant => ?_
  refine .bind (all_ofExcept _) fun _ => ?_
  refine .seq (hW.insertAccount tenant) fun _ => ?_
  refine .seq (checked_writes (guarded_writes hW.updateAccounts _) _) fun _ => ?_
  exact .stmt (hW.insertBudgetEvent _)

lemma reserveAttempt (b : BeginAttempt) (now : Timestamp) :
    (Ledger.reserveAttempt b now).All fun _ s => s.Writes W := by
  refine .seq (hW.insertAccount _) fun _ => ?_
  refine .seq (select_writes hW.idle _) fun _ => ?_
  refine .seq (checked_writes (guarded_writes hW.updateAccounts _) _) fun _ => ?_
  refine .seq (fun d u w h => ?_) fun _ => ?_
  · rw [(insertRow_exec h).2]
    exact hW.reservations _
  exact Txn.All.seq (hW.insertBudgetEvent _) fun _ => Txn.all_done _

/-- An attempt writes usage reservations as well. -/
lemma beginAttempt {b : BeginAttempt} (husage : (reserveUsageCapacity b.request b.usagePolicy
      b.estimate now).All fun _ s => s.Writes W) :
    (beginAttemptWithPricing b now).All fun _ s => s.Writes W := by
  refine .seq (hW.insertAttempt _ _) fun _ => .bind (all_ofExcept _) fun _ => ?_
  exact .bind husage fun _ => hW.reserveAttempt b now

/-- Without limits there is none. -/
lemma beginAttempt_of_not {b : BeginAttempt} (hres : reservesUsage b.usagePolicy = false) :
    (beginAttemptWithPricing b now).All fun _ s => s.Writes W := by
  refine hW.beginAttempt ?_
  rw [reserveUsageCapacity, hres]
  exact Txn.all_done _

end BudgetWrites

end Ledger

end ModelPort
