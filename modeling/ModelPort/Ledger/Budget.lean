import ModelPort.Ledger.Call

/-!
# Budget conservation

Three tables record a tenant's money: the account, the reservations of its attempts, and the
append-only events. Every call moves all three by the same amounts, so they agree after any
sequence of calls.
-/

namespace ModelPort

open Relational Transaction List

namespace Ledger

variable {d d' : Ledger} {p : AccountRow → Bool} {f : AccountRow → AccountRow}
  {column : AccountRow → ℤ} {tenant : TenantKey} {accounts : Table AccountRow.keys}
  {attemptId : String} {row : AccountRow}

/-! ### The records of a balance -/

/-- A balance of the tenant's account; zero without an account. -/
def balance (column : AccountRow → ℤ) (tenant : TenantKey) (accounts : Table AccountRow.keys) : ℤ :=
  ((accounts.rows.find? (·.tenant == tenant)).map column).getD 0

/-- The amounts of the tenant's reservations that are in a state. -/
def reservationSum (state : ReservationState) (column : ReservationRow → ℤ) (tenant : TenantKey)
    (reservations : Table ReservationRow.keys) : ℤ :=
  reservations.total fun r => if r.tenant = tenant ∧ r.state = state then column r else 0

/-- A sum over the tenant's events. -/
def eventSum (column : BudgetEvent → ℤ) (tenant : TenantKey) (events : List BudgetEvent) : ℤ :=
  (events.map fun e => if e.tenant = tenant then column e else 0).sum

/-- What adjustments have added to the settled balance. -/
def adjustments : TenantKey → List BudgetEvent → ℤ :=
  eventSum fun e => if e.eventType = .adjustment then e.settledDelta else 0

section

variable {a : AccountRow}

lemma filter_tenant (ha : a ∈ accounts.rows) :
    (accounts.rows.filter (·.tenant == a.tenant)) = [a] :=
  Table.filter_eq_singleton ha (by simp) fun s hs =>
    ⟨s.tenant, by simp [AccountRow.keys], by simpa [AccountRow.keys] using hs⟩

lemma balance_eq_total (column : AccountRow → ℤ) (tenant : TenantKey) :
    balance column tenant accounts
      = accounts.total fun a => if a.tenant == tenant then column a else 0 := by
  rw [Table.total_ite, balance]
  cases hf : accounts.rows.find? (·.tenant == tenant) with
  | none =>
    have hnil := filter_eq_nil_iff.2 (List.find?_eq_none.1 hf)
    simp [hnil]
  | some a =>
    have hat : a.tenant = tenant := by simpa using List.find?_some hf
    have hfilt := filter_tenant (mem_of_find?_eq_some hf)
    rw [hat] at hfilt
    simp [hfilt]

/-- An update of one account moves its balances by the change in its row. -/
lemma balance_update {hf : ∀ a, (f a).keys = a.keys} (hsel : accounts.rows.filter p = [a])
    (column : AccountRow → ℤ) (t : TenantKey) : balance column t (accounts.update p f hf)
      = balance column t accounts + if a.tenant = t then column (f a) - column a else 0 := by
  have hten : (f a).tenant = a.tenant := by simpa [AccountRow.keys] using hf a
  rw [balance_eq_total, balance_eq_total, Table.total_update_single _ hsel]
  by_cases ha : a.tenant = t <;> simp [ha, hten]

lemma balance_insert (hfree : accounts.Free row) (hzero : column row = 0) (t : TenantKey) :
    balance column t (accounts.insert row) = balance column t accounts := by
  rw [balance_eq_total, balance_eq_total, Table.total_insert hfree]
  simp [hzero]

/-- Closing a reservation takes it out of the open sum, and into the settled one. -/
lemma reservationSum_close {reservations : Table ReservationRow.keys} {r : ReservationRow}
    (hsel : reservations.rows.filter (ReservationRow.openFor tenant attemptId) = [r])
    {f : ReservationRow → ReservationRow} {hf : ∀ r, (f r).keys = r.keys}
    (state : ReservationState) (column : ReservationRow → ℤ) (t : TenantKey) :
    reservationSum state column t
        (reservations.update (ReservationRow.openFor tenant attemptId) f hf)
      = reservationSum state column t reservations
        + ((if tenant = t ∧ (f r).state = state then column (f r) else 0)
          - if tenant = t ∧ .reserved = state then column r else 0) := by
  have hmem := mem_filter.1 (hsel ▸ mem_singleton_self r)
  have hopen : (r.attemptId = attemptId ∧ r.tenant = tenant) ∧ r.state = .reserved := by
    simpa [ReservationRow.openFor] using hmem.2
  have hten : (f r).tenant = r.tenant := by
    have hkeys := hf r
    simp only [ReservationRow.keys, List.cons.injEq, ReservationKey.attempt.injEq] at hkeys
    exact hkeys.2.1.1
  unfold reservationSum
  rw [Table.total_update_single _ hsel]
  simp only [hten, hopen.1.2, hopen.2]

lemma eventSum_cons (column : BudgetEvent → ℤ) (t : TenantKey) (e : BudgetEvent)
    (events : List BudgetEvent) : eventSum column t (e :: events)
      = eventSum column t events + if e.tenant = t then column e else 0 := by
  simp [eventSum, add_comm]

end

/-! ### Balanced moves -/

/-- The three records of the reserved balance move together, and so do those of the settled
balance; no balance turns negative. -/
structure Balanced (d d' : Ledger) : Prop where
  moves : ∀ t, ∃ dr ds : ℤ,
    balance (·.reservedMicrounits) t d'.accounts
      = balance (·.reservedMicrounits) t d.accounts + dr ∧
    reservationSum .reserved (·.reservedMicrounits) t d'.reservations
      = reservationSum .reserved (·.reservedMicrounits) t d.reservations + dr ∧
    eventSum (·.reservedDelta) t d'.events = eventSum (·.reservedDelta) t d.events + dr ∧
    balance (·.settledMicrounits) t d'.accounts
      = balance (·.settledMicrounits) t d.accounts + ds ∧
    reservationSum .settled (·.settledMicrounits) t d'.reservations + adjustments t d'.events
      = reservationSum .settled (·.settledMicrounits) t d.reservations + adjustments t d.events
        + ds ∧
    eventSum (·.settledDelta) t d'.events = eventSum (·.settledDelta) t d.events + ds
  nonneg : (∀ a ∈ d.accounts.rows, 0 ≤ a.reservedMicrounits ∧ 0 ≤ a.settledMicrounits) →
    ∀ a ∈ d'.accounts.rows, 0 ≤ a.reservedMicrounits ∧ 0 ≤ a.settledMicrounits

lemma Balanced.refl (d : Ledger) : Balanced d d where
  moves t := ⟨0, 0, by simp⟩
  nonneg h := h

lemma Balanced.trans {a b c : Ledger} (hab : Balanced a b) (hbc : Balanced b c) : Balanced a c where
  moves t := by
    obtain ⟨r, s, h1, h2, h3, h4, h5, h6⟩ := hab.moves t
    obtain ⟨r', s', k1, k2, k3, k4, k5, k6⟩ := hbc.moves t
    refine ⟨r + r', s + s', ?_, ?_, ?_, ?_, ?_, ?_⟩ <;> omega
  nonneg h := hbc.nonneg (hab.nonneg h)

lemma Balanced.of_eq (ha : d'.accounts = d.accounts)
    (hr : d'.reservations = d.reservations) (he : d'.events = d.events) : Balanced d d' where
  moves t := ⟨0, 0, by simp [ha, hr, he]⟩
  nonneg h := by rwa [ha]

lemma balanced_setAttempts (d : Ledger) (t : Table AttemptRow.keys) :
    Balanced d (d.setAttempts t) := .of_eq rfl rfl rfl

lemma nonneg_update (hf : ∀ a, (f a).keys = a.keys)
    (hcheck : ∀ a ∈ accounts.rows.filter p, checkAccount (f a) = .ok ())
    (h : ∀ b ∈ accounts.rows, 0 ≤ b.reservedMicrounits ∧ 0 ≤ b.settledMicrounits) :
    ∀ b ∈ (accounts.update p f hf).rows, 0 ≤ b.reservedMicrounits ∧ 0 ≤ b.settledMicrounits := by
  intro b hb
  obtain ⟨c, hc, rfl⟩ := (Table.mem_update _).1 hb
  cases hp : p c with
  | false => rw [Table.assign_of_neg hp]; exact h c hc
  | true =>
    rw [Table.assign_of_pos hp]
    have hchecked := hcheck c (mem_filter.2 ⟨hc, hp⟩)
    simp only [checkAccount, Except.bind_eq_ok] at hchecked
    obtain ⟨-, -, -, -, -, -, hchecked⟩ := hchecked
    simp at hchecked
    exact ⟨hchecked.1.1.2, hchecked.1.2⟩

lemma balanced_insert_account (hfree : d.accounts.Free row)
    (hr : row.reservedMicrounits = 0) (hs : row.settledMicrounits = 0) :
    Balanced d (d.setAccounts (d.accounts.insert row)) where
  moves t := ⟨0, 0, by simp [balance_insert hfree hr, balance_insert hfree hs]⟩
  nonneg h a ha := by
    rcases Table.mem_insert ha with rfl | ha
    · simp [hr, hs]
    · exact h a ha

/-- An `INSERT … ON CONFLICT DO NOTHING` of an account is balanced. -/
lemma balanced_accounts (h : accounts = d.accounts ∨ d.accounts.Free { tenant := tenant } ∧
      accounts = d.accounts.insert { tenant := tenant }) :
    Balanced d (d.setAccounts accounts) := by
  rcases h with rfl | ⟨hnew, rfl⟩
  · exact .of_eq rfl rfl rfl
  · exact balanced_insert_account hnew rfl rfl

/-! ### Balanced transactions -/

/-- **Closing a reservation is balanced**: the reservation, the account and the event it is
recorded with move by the same amounts. -/
lemma Closing.balanced (c : Closing d tenant attemptId) : Balanced d c.result := by
  have htype : c.event.eventType ≠ .adjustment := by
    rcases c.outcome with ⟨-, h⟩ | ⟨-, -, h⟩ <;> simp [h]
  refine ⟨fun t => ?_, fun h => ?_⟩
  · refine ⟨if tenant = t then -c.reservation.reservedMicrounits else 0,
      if tenant = t then c.settled else 0, ?_, ?_, ?_, ?_, ?_, ?_⟩
    · simp only [Closing.result, pushEvent_accounts, setAccounts_accounts]
      rw [balance_update c.isSelected]
      simp [c.accountTenant, moveOut]
    · simp only [Closing.result, pushEvent_reservations, setAccounts_reservations,
        setReservations_reservations]
      rw [reservationSum_close c.isOpen]
      rcases c.outcome with ⟨hst, -⟩ | ⟨hst, -⟩ <;> by_cases ht : tenant = t <;> simp [hst, ht]
    · simp [Closing.result, eventSum_cons, c.eventTenant, c.reservedDelta]
    · simp only [Closing.result, pushEvent_accounts, setAccounts_accounts]
      rw [balance_update c.isSelected]
      simp [c.accountTenant, moveOut]
    · simp only [Closing.result, pushEvent_reservations, setAccounts_reservations,
        setReservations_reservations, pushEvent_events, adjustments, eventSum_cons, htype]
      rw [reservationSum_close c.isOpen]
      rcases c.outcome with ⟨hst, -⟩ | ⟨hst, hs, -⟩
      · by_cases ht : tenant = t
        · simp [hst]
          omega
        · simp [ht]
      · simp [hst, hs]
    · simp [Closing.result, eventSum_cons, c.eventTenant, c.settledDelta]
  · simp only [Closing.result, pushEvent_accounts, setAccounts_accounts]
    refine nonneg_update _ (fun b hb => ?_) h
    rw [c.isSelected, mem_singleton] at hb
    rw [hb]
    exact c.accountChecked

section

variable {now : Timestamp} {u : Unit} {attempt : LedgerAttempt}

/-- A begun attempt moves its reservation into the account, the reservations and the events. -/
lemma beginAttempt_balanced {b : BeginAttempt}
    (h : (beginAttemptWithPricing b now).run d = .ok (attempt, d')) : Balanced d d' := by
  obtain ⟨usage, accounts, a, -, haccounts, hroom, hcheck, hfree, rfl⟩ := beginAttempt_run h
  refine (balanced_accounts haccounts).trans ⟨fun t => ?_, fun h => ?_⟩
  · have hat : a.tenant = b.request.tenant := by
      have hmem := mem_filter.1 (hroom ▸ mem_singleton_self a)
      have := hmem.2
      simp only [hasRoom, Bool.and_eq_true, beq_iff_eq] at this
      exact this.1
    refine ⟨if b.request.tenant = t then b.reservedMicrounits else 0, 0, ?_, ?_, ?_, ?_, ?_, ?_⟩
    · simp only [pushEvent_accounts, setReservations_accounts, setAccounts_accounts]
      rw [balance_update hroom]
      simp [hat, addReserved]
    · simp only [pushEvent_reservations, setReservations_reservations]
      simp only [reservationSum]
      rw [Table.total_insert hfree]
      simp [BeginAttempt.reservationRow, add_comm]
    · simp [eventSum_cons, attemptEvent, BeginAttempt.handle]
    · simp only [pushEvent_accounts, setReservations_accounts, setAccounts_accounts]
      rw [balance_update hroom]
      simp [addReserved]
    · simp only [pushEvent_reservations, setReservations_reservations]
      simp only [reservationSum]
      rw [Table.total_insert hfree]
      simp [BeginAttempt.reservationRow, adjustments, eventSum_cons, attemptEvent]
    · simp [eventSum_cons, attemptEvent]
  · simp only [pushEvent_accounts, setReservations_accounts, setAccounts_accounts] at h ⊢
    refine nonneg_update _ (fun b hb => ?_) h
    rw [hroom, mem_singleton] at hb
    rwa [hb]

lemma finalizeAttempt_balanced {outcome : LedgerOutcome}
    (h : (finalizeAttempt attempt outcome now).run d = .ok (u, d')) : Balanced d d' := by
  rcases finalizeAttempt_run h with ⟨r, -, d1, rfl, ⟨c, -, rfl⟩ | ⟨-, rfl⟩⟩ | ⟨-, rfl⟩
  · exact (balanced_setAttempts d _).trans c.balanced
  · exact balanced_setAttempts d _
  · exact .refl d'

lemma reconcileExpired_balanced {n : ℕ × ℕ} (h : (reconcileExpired now).run d = .ok (n, d')) :
    Balanced d d' := by
  obtain ⟨d2, requests, usage, h2, rfl⟩ := reconcileExpired_run h
  have hrel := releaseExpired_rel Balanced.refl Balanced.trans (fun _ _ _ c => c.balanced) h2
  exact ((balanced_setAttempts d _).trans hrel).trans (.of_eq rfl rfl rfl)

lemma updateBudget_balanced {input : EnterpriseBudgetUpdate}
    (h : (updateBudget input).run d = .ok (u, d')) : Balanced d d' := by
  obtain ⟨tenant, limit, w, hw, rfl⟩ := updateBudget_run h
  rcases upsertLimit_exec hw with ⟨hfree, rfl⟩ | ⟨hset, hcheck⟩
  · exact balanced_insert_account hfree rfl rfl
  · rw [hset]
    refine ⟨fun t => ⟨0, 0, ?_⟩, nonneg_update (setLimit_keys limit) hcheck⟩
    have hcol : ∀ column : AccountRow → ℤ, (∀ a, column (setLimit limit a) = column a) →
        balance column t (d.accounts.update (·.tenant == tenant) (setLimit limit)
          (setLimit_keys limit)) = balance column t d.accounts := by
      intro column h
      rw [balance_eq_total, balance_eq_total, Table.total_update]
      refine Table.total_congr fun a _ => ?_
      unfold Table.assign
      split
      · rw [h, setLimit]
      · rfl
    simp [hcol (·.reservedMicrounits) fun _ => rfl, hcol (·.settledMicrounits) fun _ => rfl]

lemma adjustBudget_balanced {input : EnterpriseBudgetAdjustmentInput} {actorId : String}
    (h : (adjustBudget input actorId now).run d = .ok (u, d')) : Balanced d d' := by
  obtain ⟨tenant, accounts, a, p, haccounts, hone, hat, hcheck, rfl⟩ := adjustBudget_run h
  refine (balanced_accounts haccounts).trans ?_
  refine ⟨fun t => ?_, fun h => ?_⟩
  · refine ⟨0, if tenant = t then input.deltaMicrounits else 0, ?_, ?_, ?_, ?_, ?_, ?_⟩
    · simp only [pushEvent_accounts, setAccounts_accounts]
      rw [balance_update hone]
      simp [addSettled]
    · simp
    · simp [eventSum_cons, adjustmentEvent]
    · simp only [pushEvent_accounts, setAccounts_accounts]
      rw [balance_update hone]
      simp [hat, addSettled]
    · simp [adjustments, eventSum_cons, adjustmentEvent, add_assoc]
    · simp [eventSum_cons, adjustmentEvent]
  · simp only [pushEvent_accounts, setAccounts_accounts]
    refine nonneg_update _ (fun b hb => ?_) h
    rw [hone, mem_singleton] at hb
    rwa [hb]

end

/-! ### Runs of calls -/

/-- **A successful call is balanced.** -/
theorem Call.balanced {sha : String → String} {call : Call} {now : Timestamp} {u : Unit}
    (h : (call.program sha now).run d = .ok (u, d')) : Balanced d d' := by
  cases call with
  | beginRequest b =>
    obtain ⟨_, h1⟩ := Txn.run_discard h
    exact (beginRequest_writes Balanced.refl (fun _ _ => .of_eq rfl rfl rfl)
      (fun _ => .of_eq rfl rfl rfl) (fun _ _ => .of_eq rfl rfl rfl)).run_rel
        Balanced.refl Balanced.trans h1
  | beginAttempt b =>
    obtain ⟨_, h1⟩ := Txn.run_discard h
    exact beginAttempt_balanced h1
  | finalizeAttempt attempt outcome => exact finalizeAttempt_balanced h
  | finalizeRequest request outcome snapshot =>
    exact (finalizeRequestUsage_writes (fun _ _ => .of_eq rfl rfl rfl)
      (fun _ _ => .of_eq rfl rfl rfl) (fun _ _ => .of_eq rfl rfl rfl) request).run_rel
      Balanced.refl Balanced.trans h
  | renewLease request leaseTtl =>
    obtain ⟨requests, rfl⟩ := renewLease_run h
    exact .of_eq rfl rfl rfl
  | reconcileExpired =>
    obtain ⟨_, h1⟩ := Txn.run_discard h
    exact reconcileExpired_balanced h1
  | updateBudget input => exact updateBudget_balanced h
  | adjustBudget input actorId => exact adjustBudget_balanced h

lemma after_balanced (sha : String → String) (d : Ledger) (calls : List (Timestamp × Call)) :
    Balanced d (after sha d calls) :=
  after_induction (P := Balanced d) (fun hok h => h.trans (Call.balanced hok)) calls
    (.refl d)

/-- **Conservation**: the account, the reservations and the events of a tenant agree on its
reserved and on its settled balance, and no balance is negative. -/
structure Conserved (t : TenantKey) (d : Ledger) : Prop where
  reserved_reservations : balance (·.reservedMicrounits) t d.accounts
    = reservationSum .reserved (·.reservedMicrounits) t d.reservations
  reserved_events : balance (·.reservedMicrounits) t d.accounts
    = eventSum (·.reservedDelta) t d.events
  settled_reservations : balance (·.settledMicrounits) t d.accounts
    = reservationSum .settled (·.settledMicrounits) t d.reservations + adjustments t d.events
  settled_events : balance (·.settledMicrounits) t d.accounts
    = eventSum (·.settledDelta) t d.events
  reserved_nonneg : 0 ≤ balance (·.reservedMicrounits) t d.accounts
  settled_nonneg : 0 ≤ balance (·.settledMicrounits) t d.accounts

/-- Between two ledgers of a run, an account moves by the events in between. -/
lemma Balanced.of_events (h : Balanced d d') {new : List BudgetEvent}
    (he : d'.events = new ++ d.events) (t : TenantKey) :
    balance (·.reservedMicrounits) t d'.accounts
        = balance (·.reservedMicrounits) t d.accounts + eventSum (·.reservedDelta) t new ∧
      balance (·.settledMicrounits) t d'.accounts
        = balance (·.settledMicrounits) t d.accounts + eventSum (·.settledDelta) t new := by
  obtain ⟨dr, ds, h1, -, h3, h4, -, h6⟩ := h.moves t
  simp only [he, eventSum, map_append, sum_append] at h3 h6 ⊢
  omega

lemma balance_nonneg
    (h : ∀ a ∈ accounts.rows, 0 ≤ column a) (t : TenantKey) : 0 ≤ balance column t accounts := by
  unfold balance
  cases hf : accounts.rows.find? (·.tenant == t) with
  | none => simp
  | some a => exact h a (mem_of_find?_eq_some hf)

/-- What is balanced with empty tables is conserved. -/
lemma Balanced.conserved (h : Balanced d d') (ha : d.accounts = Table.empty)
    (hr : d.reservations = Table.empty) (he : d.events = []) (t : TenantKey) : Conserved t d' := by
  obtain ⟨dr, ds, h1, h2, h3, h4, h5, h6⟩ := h.moves t
  have hnonn := h.nonneg (by simp [ha])
  have hzero : balance (·.reservedMicrounits) t d.accounts = 0 ∧
      reservationSum .reserved (·.reservedMicrounits) t d.reservations = 0 ∧
      eventSum (·.reservedDelta) t d.events = 0 ∧
      balance (·.settledMicrounits) t d.accounts = 0 ∧
      reservationSum .settled (·.settledMicrounits) t d.reservations = 0 ∧
      adjustments t d.events = 0 ∧ eventSum (·.settledDelta) t d.events = 0 := by
    simp [ha, hr, he, balance, reservationSum, adjustments, eventSum]
  refine ⟨?_, ?_, ?_, ?_, ?_, ?_⟩
  · omega
  · omega
  · omega
  · omega
  · exact balance_nonneg (fun a ha => (hnonn a ha).1) t
  · exact balance_nonneg (fun a ha => (hnonn a ha).2) t

/-- **Budget conservation.** From empty budget tables, whatever the other tables hold, the three
records of every tenant's money agree after every sequence of calls, successful or failing, in
any order; and a call that fails there changes nothing. -/
theorem budget_conserved (sha256Hex : String → String) {d : Ledger}
    (ha : d.accounts = Table.empty) (hr : d.reservations = Table.empty) (he : d.events = [])
    (calls : List (Timestamp × Call)) (t : TenantKey) : Conserved t (after sha256Hex d calls) ∧
      ∀ now (call : Call) e, (call.program sha256Hex now).run (after sha256Hex d calls) = .error e →
          (call.program sha256Hex now).commit (after sha256Hex d calls)
            = after sha256Hex d calls := by
  constructor
  · exact (after_balanced sha256Hex d calls).conserved ha hr he t
  · intro now call e herr
    simp only [Txn.commit, herr]

/-- An attempt reserved at five and settled at three microunits. -/
def sampleSettlement : List (Timestamp × Call) :=
  [(0, .beginRequest (Sample.beginRequest "r")),
    (1, .beginAttempt (Sample.beginAttempt "r" "a" (5 / 1000000) {})),
    (2, .finalizeAttempt (Sample.beginAttempt "r" "a" 5 {}).handle (Sample.outcome (3 / 1000000)))]

theorem budget_conserved_sample : balance (·.settledMicrounits) Sample.tenant
        (after id Ledger.empty sampleSettlement).accounts = 3 ∧
      Conserved Sample.tenant (after id Ledger.empty sampleSettlement) :=
  ⟨by decide +kernel, (budget_conserved id rfl rfl rfl sampleSettlement Sample.tenant).1⟩

end Ledger

end ModelPort
