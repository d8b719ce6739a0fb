import ModelPort.Ledger.Budget
import ModelPort.Lib.Schedule

/-!
# The hard budget limit under concurrency

Transactions of any number of processes interleave statement by statement. The account of a
tenant is rewritten under its row lock only, so a transaction that has rewritten it can count on
it until it commits.
-/

namespace ModelPort

open Relational Transaction Protocol Except List

namespace Ledger

variable {t : TenantKey} {limit : ℤ} {call : TimedCall} {held : List Lock} {pend : Ledger → Ledger}
  {x : List TimedCall × Ledger}

variable {e : AppError} {w : Ledger → Ledger} {now : Timestamp} {tenant : TenantKey} {d : Ledger}
  {u : Unit} {a : AccountRow} {amount reserved : ℤ} {attempt : LedgerAttempt}
  {outcome : LedgerOutcome} {f : AccountRow → AccountRow} {attemptId source mode : String}
  {policy : UsagePolicySnapshot} {hf : ∀ a, (f a).keys = a.keys} {p : AccountRow → Bool}
  {rs : List AccountRow}

/-! ### The account of a tenant -/

/-- The account of a tenant. -/
def account (t : TenantKey) (d : Ledger) : Option AccountRow :=
  d.accounts.rows.find? (·.tenant == t)

/-- There is an account with this limit, and settled and reserved stay within it. -/
def WithinLimit (limit : ℤ) (a : Option AccountRow) : Prop :=
  ∃ row, a = some row ∧ row.limitMicrounits = some limit ∧
    row.settledMicrounits + row.reservedMicrounits ≤ limit

/-- Reservations stay, with the amount they have reserved. -/
def Persists (d d' : Ledger) : Prop :=
  ∀ r ∈ d.reservations.rows, ∃ r' ∈ d'.reservations.rows, r'.tenant = r.tenant ∧
    r'.attemptId = r.attemptId ∧ r'.reservedMicrounits = r.reservedMicrounits

section

lemma account_tenant (h : account t d = some a) : a.tenant = t := by
  simpa using List.find?_some h

lemma account_mem (h : account t d = some a) : a ∈ d.accounts.rows :=
  mem_of_find?_eq_some h

lemma account_eq_some (ha : a ∈ d.accounts.rows) (ht : a.tenant = t) : account t d = some a := by
  cases hf : account t d with
  | none =>
    have := List.find?_eq_none.1 hf a ha
    simp [ht] at this
  | some b =>
    have hab := d.accounts.eq_of_key (account_mem hf) ha (k := t)
      (by simp [AccountRow.keys, account_tenant hf]) (by simp [AccountRow.keys, ht])
    rw [hab]

lemma account_update (p : AccountRow → Bool) (f : AccountRow → AccountRow)
    (hf : ∀ a, (f a).keys = a.keys) : account t (d.setAccounts (d.accounts.update p f hf))
      = (account t d).map (Table.assign p f) := by
  have hten : ∀ a, (Table.assign p f a).tenant = a.tenant :=
    Table.apply_assign fun a => by simpa [AccountRow.keys] using hf a
  simp only [account, setAccounts_accounts, Table.rows_update, List.find?_map]
  congr 1
  refine congrArg (fun q => d.accounts.rows.find? q) (funext fun a => ?_)
  simp [hten]

/-- **What an `UPDATE` of accounts does to one account**: nothing, on any database, or it has
selected the account, holds its lock and rewrites it. -/
lemma updateAccounts_account (t : TenantKey) (h : (updateAccounts p f hf).exec d = .ok (rs, w)) :
    (∀ e, account t (w e) = account t e) ∧ (∀ a, account t d = some a → p a = false) ∨
      Lock.account t ∈ (updateAccounts p f hf).locks d ∧
        (∀ e, account t (w e) = (account t e).map f) ∧ ∃ a, account t d = some a ∧ p a := by
  have hw := updateWhere_write h
  by_cases hsel : ∃ a ∈ d.accounts.rows.filter p, a.tenant = t
  · obtain ⟨a, ha, hat⟩ := hsel
    obtain ⟨hmem, hpa⟩ := mem_filter.1 ha
    refine Or.inr ⟨mem_map.2 ⟨a, ha, by rw [hat]⟩, fun e => ?_, a, account_eq_some hmem hat, hpa⟩
    rw [hw]
    simp only [accountsT_get, accountsT_set, account_update]
    cases he : account t e with
    | none => rfl
    | some b =>
      simp only [Option.map_some, Option.some.injEq]
      refine Table.assign_of_pos (any_eq_true.2 ⟨a, ha, ?_⟩)
      simp [hat, account_tenant he]
  · refine Or.inl ⟨fun e => ?_, fun a ha => ?_⟩
    · rw [hw]
      simp only [accountsT_get, accountsT_set, account_update]
      cases he : account t e with
      | none => rfl
      | some b =>
        simp only [Option.map_some, Option.some.injEq]
        refine Table.assign_of_neg (any_eq_false.2 fun a ha => ?_)
        have hne : a.tenant ≠ t := fun hat => hsel ⟨a, ha, hat⟩
        simpa [account_tenant he] using hne
    · by_contra hpa
      exact hsel ⟨a, mem_filter.2 ⟨account_mem ha, by simpa using hpa⟩, account_tenant ha⟩

lemma Persists.refl (d : Ledger) : Persists d d := fun r hr => ⟨r, hr, rfl, rfl, rfl⟩

lemma Persists.trans {a b c : Ledger} (hab : Persists a b) (hbc : Persists b c) : Persists a c := by
  intro r hr
  obtain ⟨r', hr', ht, hid, hres⟩ := hab r hr
  obtain ⟨r'', hr'', ht', hid', hres'⟩ := hbc r' hr'
  exact ⟨r'', hr'', ht'.trans ht, hid'.trans hid, hres'.trans hres⟩

end

/-! ### The protocol -/

/-- A call with the time it begins at. -/
abbrev TimedCall := Timestamp × Call

/-- A transaction that can end with an error that is not a refusal for budget. -/
def NotBudget (e : AppError) : Prop := ∀ amount, e ≠ .quotaExceeded (.budget amount)

/-- What is promised about calls on the tenant `t`: its limit stays fixed, adjustments are not
positive, and a settlement, which moves the account, is at most what its attempt has reserved. -/
def LimitPromise (t : TenantKey) (limit : ℤ) (d d' : Ledger) : Call → Prop
  | .finalizeAttempt attempt outcome => attempt.tenant = t → settles outcome →
      account t d' ≠ account t d → ∀ r ∈ d.reservations.rows, r.tenant = t →
        r.attemptId = attempt.attemptId →
        settledMicrounits outcome ≤ r.reservedMicrounits
  | .updateBudget input =>
    tenantFromParts input.organizationId input.projectId input.environmentId = .ok t →
      input.validatedLimit = .ok (some limit)
  | .adjustBudget input _ =>
    tenantFromParts input.organizationId input.projectId input.environmentId = .ok t →
      input.deltaMicrounits ≤ 0
  | _ => True

/-- The protocol of the tenant's account. -/
def limitProtocol (t : TenantKey) (limit : ℤ) : Protocol Ledger Lock AppError TimedCall where
  inv _ d := WithinLimit limit (account t d)
  guar _ locks _ d d' := (Lock.account t ∈ locks ∨ account t d' = account t d) ∧ Persists d d'
  ok call _ d d' := LimitPromise t limit d d' call.2
  apart _ _ _ _ _ := True
  refusal call e _ d := ∀ b amount, call.2 = .beginAttempt b → b.request.tenant = t →
    e = .quotaExceeded (.budget amount) → ∃ a, account t d = some a ∧
      limit < a.settledMicrounits + a.reservedMicrounits + b.reservedMicrounits

/-- A write that concerns neither the account nor what reservations have reserved. -/
def Neutral (t : TenantKey) (w : Ledger → Ledger) : Prop :=
  (∀ d, account t (w d) = account t d) ∧ ∀ d, Persists d (w d)

/-- The assertion of a transaction in progress: its writes act on the account alone, under its
lock, and leave it within the limit. -/
structure Kept (t : TenantKey) (limit : ℤ) (held : List Lock) (pend : Ledger → Ledger)
    (x : List TimedCall × Ledger) : Prop where
  within : WithinLimit limit (account t x.2)
  effect : ∃ g : Option AccountRow → Option AccountRow,
    (∀ d, account t (pend d) = g (account t d)) ∧ (g = id ∨ Lock.account t ∈ held) ∧
      WithinLimit limit (g (account t x.2))
  persists : ∀ d, Persists d (pend d)

section

variable {y : List TimedCall × Ledger}

lemma kept_id (h : WithinLimit limit (account t x.2)) : Kept t limit [] id x :=
  ⟨h, ⟨id, fun _ => rfl, .inl rfl, h⟩, .refl⟩

lemma kept_stable : (limitProtocol t limit).Stable call (Kept t limit) := by
  rintro held pend x y h ⟨_, locks, hlocks, -, -, ⟨hguar, -⟩, -, hinv⟩
  obtain ⟨g, hg, hlock, hwith⟩ := h.effect
  refine ⟨hinv, ⟨g, hg, hlock, ?_⟩, h.persists⟩
  rcases hlock with rfl | hlock
  · exact hinv
  · rcases hguar with hmem | hsame
    · exact absurd hlock (hlocks _ hmem)
    · rwa [hsame]

section

variable (h : Kept t limit held pend x)

include h

lemma Kept.final : (limitProtocol t limit).Final call () held pend x := by
  intro _
  obtain ⟨g, hg, hlock, hwith⟩ := h.effect
  refine ⟨⟨?_, h.persists x.2⟩, ?_⟩
  · rcases hlock with rfl | hlock
    · exact .inr (hg x.2)
    · exact .inl hlock
  · change WithinLimit limit (account t (pend x.2))
    rwa [hg]

lemma Kept.neutral (hw : Neutral t w)
    (held' : List Lock) : Kept t limit (held' ++ held) (w ∘ pend) x := by
  obtain ⟨g, hg, hlock, hwith⟩ := h.effect
  refine ⟨h.within, ⟨g, fun d => (hw.1 _).trans (hg d),
    hlock.imp_right (mem_append_right held'), hwith⟩, fun d => ?_⟩
  exact (h.persists d).trans (hw.2 _)

/-- A write of the locked account keeps the assertion if the account stays within the limit. -/
lemma Kept.locked {locks : List Lock} (hlock : Lock.account t ∈ locks)
    (hw : ∀ d, account t (w d) = (account t d).map f) (hpers : ∀ d, Persists d (w d))
    (hwith : WithinLimit limit ((account t (pend x.2)).map f)) :
    Kept t limit (locks ++ held) (w ∘ pend) x := by
  obtain ⟨g, hg, -, -⟩ := h.effect
  refine ⟨h.within, ⟨fun a => (g a).map f, fun d => ?_,
    Or.inr (mem_append_left held hlock), ?_⟩, fun d => (h.persists d).trans (hpers _)⟩
  · rw [Function.comp_apply, hw, hg]
  · rw [hg] at hwith
    exact hwith

end

/-- The assertion before the account is written. -/
structure Untouched (t : TenantKey) (limit : ℤ) (pend : Ledger → Ledger)
    (x : List TimedCall × Ledger) : Prop where
  within : WithinLimit limit (account t x.2)
  neutral : Neutral t pend

lemma Untouched.kept (h : Untouched t limit pend x) (held : List Lock) : Kept t limit held pend x :=
  ⟨h.within, ⟨id, h.neutral.1, .inl rfl, h.within⟩, h.neutral.2⟩

lemma untouched_stable : (limitProtocol t limit).Stable call fun _ => Untouched t limit := by
  rintro held pend x y h ⟨_, _, -, -, -, -, -, hinv⟩
  exact ⟨hinv, h.neutral⟩

lemma Neutral.comp {v : Ledger → Ledger} (hw : Neutral t w) (hv : Neutral t v) :
    Neutral t (w ∘ v) :=
  ⟨fun d => (hw.1 _).trans (hv.1 d), fun d => (hv.2 d).trans (hw.2 _)⟩

/-! ### Rules for parts of a transaction -/

variable {α : Type} {p : LedgerTxn α}

/-- Errors that say nothing about the budget. -/
lemma refusal_of_notBudget (h : NotBudget e) (lg : List TimedCall) (d : Ledger) :
    (limitProtocol t limit).refusal call e lg d :=
  fun _ amount _ _ he => absurd he (h amount)

lemma errors_of_notBudget (h : p.Errors NotBudget) :
    p.Errors fun e => ∀ lg d, (limitProtocol t limit).refusal call e lg d :=
  h.imp fun _ he => refusal_of_notBudget he

lemma refusal_of_other (h : ∀ b, call.2 ≠ .beginAttempt b) (e : AppError) (lg : List TimedCall)
    (d : Ledger) : (limitProtocol t limit).refusal call e lg d :=
  fun b _ hb => absurd hb (h b)

lemma errors_of_other (h : ∀ b, call.2 ≠ .beginAttempt b) (p : LedgerTxn α) :
    p.Errors fun e => ∀ lg d, (limitProtocol t limit).refusal call e lg d :=
  Txn.errors_of_forall (refusal_of_other h) p

lemma kept_pure {a : α} :
    (limitProtocol t limit).Triple call (Kept t limit) (pure a) fun _ => Kept t limit :=
  Triple.done kept_stable fun _ _ _ h => h

/-- Statements with neutral writes, before the account is written. -/
lemma untouched_of_neutral (herr : p.Errors NotBudget)
    (hp : p.All fun _ st => st.Writes (Neutral t)) : (limitProtocol t limit).Triple call
      (fun _ => Untouched t limit) p fun _ _ => Untouched t limit :=
  .of_all untouched_stable (errors_of_notBudget herr) (hp.imp fun _ _ hst _ _ _ hy b w hb =>
    ⟨hy.within, (hst _ b w hb).comp hy.neutral⟩)

lemma kept_of_neutral (herr : p.Errors fun e => ∀ lg d, (limitProtocol t limit).refusal call e lg d)
    (hp : p.All fun _ st => st.Writes (Neutral t)) :
    (limitProtocol t limit).Triple call (Kept t limit) p fun _ => Kept t limit :=
  .of_all kept_stable herr (hp.imp fun _ _ hst _ _ _ hy b w hb => hy.neutral (hst _ b w hb) _)

end

/-! ### Neutral writes -/

section

lemma neutral_of_eq (ha : ∀ d, (w d).accounts = d.accounts)
    (hr : ∀ d, (w d).reservations = d.reservations) : Neutral t w := by
  refine ⟨fun d => by rw [account, account, ha], fun d r hr' => ⟨r, ?_, rfl, rfl, rfl⟩⟩
  rwa [hr]

lemma neutral_id : Neutral t id := neutral_of_eq (fun _ => rfl) fun _ => rfl

lemma neutral_insertAccount {row : AccountRow} (h : row.tenant ≠ t) :
    Neutral t fun d => d.setAccounts (d.accounts.insert row) := by
  refine ⟨fun d => ?_, fun d => .refl d⟩
  by_cases hfree : d.accounts.Free row
  · simp [account, Table.rows_insert hfree, h]
  · simp only [Table.insert_of_not_free hfree]
    rfl

lemma closeReservation_neutral {state : ReservationState} {settled : Option ℤ} :
    (closeReservation tenant attemptId state settled source mode now).Writes (Neutral t) := by
  intro d rs w h
  rw [updateWhere_write h]
  refine ⟨fun _ => rfl, fun e r hr => ⟨_, (Table.mem_update
    (closeRow_keys state settled source mode now)).2 ⟨r, hr, rfl⟩, ?_⟩⟩
  exact ⟨Table.apply_assign (f := closeRow state settled source mode now) (fun _ => rfl) r,
    Table.apply_assign (f := closeRow state settled source mode now) (fun _ => rfl) r,
    Table.apply_assign (f := closeRow state settled source mode now) (fun _ => rfl) r⟩

lemma insertBudgetEvent_neutral (event : BudgetEvent) :
    (insertBudgetEvent event).Writes (Neutral t) := by
  intro d u w h
  rw [insertBudgetEvent_exec h]
  exact neutral_of_eq (fun _ => rfl) fun _ => rfl

end

/-! ### Errors of an admission -/

section

lemma bigint_errors (value : ℤ) : (bigint value).Errors NotBudget :=
  .ite (errors_ok _) (errors_error nofun)

lemma require_errors (check : Bool) (he : NotBudget e) : (require check e).Errors NotBudget :=
  .ite (errors_ok _) (errors_error he)

lemma usageSpendTotals_errors : (usageSpendTotals policy now d).Errors NotBudget := by
  iterate 7 refine .bind (bigint_errors _) fun _ => ?_
  exact errors_ok _

lemma enforceSpendLimit_errors (label : String) (limit used incoming : ℚ) :
    (enforceSpendLimit label limit used incoming).Errors NotBudget :=
  .ite (errors_error nofun) (errors_ok _)

lemma enforceUsageSpendLimits_errors (spend : UsageSpendTotals) (incoming : ℤ) :
    (enforceUsageSpendLimits policy spend incoming).Errors NotBudget := by
  refine .bind (enforceSpendLimit_errors _ _ _ _) fun _ => .bind ?_ fun _ =>
    .bind (enforceSpendLimit_errors _ _ _ _) fun _ => enforceSpendLimit_errors _ _ _ _
  unfold enforceRateLimits
  split
  · iterate 3 refine .bind (enforceSpendLimit_errors _ _ _ _) fun _ => ?_
    exact enforceSpendLimit_errors _ _ _ _
  · exact errors_ok _

lemma quotaTotals_errors (quota : UsageQuotaLimit) : (quotaTotals quota d).Errors NotBudget :=
  .bind (bigint_errors _) fun _ => .bind (bigint_errors _) fun _ => .bind (bigint_errors _) fun _ =>
    errors_ok _

lemma checkUsage_errors (u : UsageRow) : (checkUsage u).Errors NotBudget :=
  .bind (bigint_errors _) fun _ => .bind (bigint_errors _) fun _ => require_errors _ nofun

lemma checkAccount_errors (a : AccountRow) : (checkAccount a).Errors NotBudget :=
  .bind (bigint_errors _) fun _ => .bind (bigint_errors _) fun _ => .bind (bigint_errors _) fun _ =>
    require_errors _ nofun

lemma errors_ofExcept {α : Type} {T : AppError → Prop} {x : Except AppError α} (h : x.Errors T) :
    (ofExcept x).Errors T := by
  cases x with
  | error e => exact h e rfl
  | ok a => trivial

lemma lockUsageScopes_errors (scopes : List String) :
    (lockUsageScopes scopes).Errors NotBudget := by
  induction scopes with
  | nil => trivial
  | cons scope scopes ih =>
    exact .bind (.stmt nofun) fun _ => ih

lemma enforceQuotas_errors (policy : UsagePolicySnapshot) (increment : UsageReservationIncrement)
    (quotas : List UsageQuotaLimit) : (enforceQuotas policy increment quotas).Errors NotBudget := by
  induction quotas with
  | nil => trivial
  | cons quota quotas ih =>
    refine .bind (.stmt ?_) fun _ => ih
    exact checked_errors (select_errors fun _ => quotaTotals_errors quota) fun _ =>
      Errors.ite (errors_error nofun) (errors_ok _)

lemma reserveUsageCapacity_errors (request : LedgerRequest) (policy : UsagePolicySnapshot)
    (estimate : UsageEstimate) (now : Timestamp) :
    (reserveUsageCapacity request policy estimate now).Errors NotBudget := by
  unfold reserveUsageCapacity
  split
  · refine .bind (lockUsageScopes_errors _) fun _ => ?_
    refine .bind (.stmt (checked_errors (by rintro _ _ ⟨⟩) fun rows => ?_)) fun existing => ?_
    · split
      · exact errors_ok _
      · exact Errors.ite (errors_ok _) (errors_error (by rintro _ ⟨⟩))
    refine .bind (.stmt (checked_errors (select_errors fun _ => usageSpendTotals_errors) fun _ =>
        enforceUsageSpendLimits_errors _ _)) fun _ => ?_
    refine .bind (enforceQuotas_errors _ _ _) fun _ => ?_
    unfold writeUsage
    split
    · exact .stmt (checked_errors (updateWhere_errors checkUsage_errors) fun _ =>
        require_errors _ (by rintro _ ⟨⟩))
    · exact .stmt (insertRow_errors (by rintro _ ⟨⟩))
  · trivial

lemma checkHardBudget_errors (tenant : TenantKey) (pricingVerified : Bool) :
    (checkHardBudget tenant pricingVerified).Errors NotBudget := by
  refine select_errors fun d => ?_
  split
  · exact errors_error nofun
  · exact Errors.ite (errors_error nofun) (errors_ok _)

end

/-! ### The calls -/

section

/-- The account of the tenant is there, so `INSERT … ON CONFLICT DO NOTHING` leaves it alone. -/
lemma insertAccount_neutral
    (hd : WithinLimit limit (account t d)) (h : (insertAccount tenant).exec d = .ok (u, w)) :
    Neutral t w := by
  rcases insertAccount_exec h with ⟨hfree, rfl⟩ | ⟨-, rfl⟩
  · refine neutral_insertAccount fun hten => ?_
    obtain ⟨a, ha, -⟩ := hd
    exact hfree a (account_mem ha) tenant (by simp [AccountRow.keys])
      (by simp [AccountRow.keys, account_tenant ha, ← hten])
  · exact neutral_id

/-- A refusal for budget by the conditional `UPDATE` means that it selected no account. -/
lemma reserveBudget_refused {amount' : ℤ}
    (h : (reserveBudget tenant amount).exec d = .error (.quotaExceeded (.budget amount'))) :
    d.accounts.rows.filter (hasRoom tenant amount) = [] := by
  have herr : (guarded (budgetSumInRange tenant amount) (updateAccounts (hasRoom tenant amount)
      (addReserved amount) (addReserved_keys amount))).Errors NotBudget := by
    refine guarded_errors (updateWhere_errors checkAccount_errors) fun d e he => ?_
    obtain ⟨a, ha⟩ := forM_error he
    refine (Errors.ite ?_ (errors_ok _)) e ha
    exact .bind (bigint_errors _) fun _ => .bind (bigint_errors _) fun _ => errors_ok _
  simp only [reserveBudget, checked] at h
  split at h
  · rename_i e he
    exact absurd (Except.error.inj h) (herr d e he amount')
  · rename_i rs w hrs
    obtain ⟨hrs, -, -⟩ := updateAccounts_exec (guarded_exec hrs)
    split at h
    · rename_i e he
      unfold require at he
      split at he
      · cases he
      · rename_i hempty
        simpa [hrs] using hempty
    · cases h

/-- An `UPDATE` of accounts leaves the reservations alone. -/
lemma persists_updateAccounts (hw : (updateAccounts p f hf).exec d = .ok (rs, w)) (e : Ledger) :
    Persists e (w e) := by
  rw [updateWhere_write hw]
  exact .refl e

/-- An `UPDATE` of accounts keeps the assertion if it keeps the tenant's row within the limit. -/
lemma Kept.update
    (h : Kept t limit held pend x) (hw : (updateAccounts p f hf).exec (pend x.2) = .ok (rs, w))
    (hrow : ∀ a, a.tenant = t → p a → a.limitMicrounits = some limit →
      a.settledMicrounits + a.reservedMicrounits ≤ limit → (f a).limitMicrounits = some limit ∧
        (f a).settledMicrounits + (f a).reservedMicrounits ≤ limit) :
    Kept t limit ((updateAccounts p f hf).locks (pend x.2) ++ held) (w ∘ pend) x := by
  rcases updateAccounts_account t hw with ⟨hsame, -⟩ | ⟨hlock, hset, a, ha, hp⟩
  · exact h.neutral ⟨hsame, persists_updateAccounts hw⟩ _
  · refine h.locked hlock hset (persists_updateAccounts hw) ?_
    obtain ⟨g, hg, -, row, hrow', hlimit, hsum⟩ := h.effect
    rw [← hg, ha, Option.some.injEq] at hrow'
    subst hrow'
    rw [ha]
    exact ⟨_, rfl, hrow a (account_tenant ha) hp hlimit hsum⟩

/-- A reservation that the conditional `UPDATE` makes stays within the limit. -/
lemma reserveBudget_kept (h : Kept t limit held pend x)
    (hw : (reserveBudget tenant amount).exec (pend x.2) = .ok (u, w)) :
    Kept t limit ((reserveBudget tenant amount).locks (pend x.2) ++ held) (w ∘ pend) x := by
  obtain ⟨rs, hrs, -⟩ := checked_exec hw
  refine h.update (guarded_exec hrs) fun a _ hroom hlimit _ => ⟨hlimit, ?_⟩
  simp only [hasRoom, hlimit, Option.all_some, Bool.and_eq_true, decide_eq_true_eq] at hroom
  simp only [addReserved]
  omega

/-- **An admission** reserves within the limit, and is refused for budget only beyond it. -/
lemma beginAttempt_safe {b : BeginAttempt} : (limitProtocol t limit).Triple (now, .beginAttempt b)
    (fun _ => Untouched t limit) (beginAttemptWithPricing b now) fun _ => Kept t limit := by
  have hset : ∀ h : Ledger → Table UsageRow.keys, Neutral t fun d => setUsage (h d) d :=
    fun _ => neutral_of_eq (fun _ => rfl) fun _ => rfl
  -- up to the account's own statement nothing concerns the account
  refine .seq (untouched_of_neutral (.stmt fun _ => Errors.ite (.ite (errors_ok _)
    (errors_error (by rintro _ ⟨⟩))) (errors_error (by rintro _ ⟨⟩))) (.stmt fun d u w h => ?_))
    fun _ => ?_
  · rw [(insertAttempt_exec h).2.2]
    exact neutral_of_eq (fun _ => rfl) fun _ => rfl
  refine .seq (untouched_of_neutral (errors_ofExcept (.ite (errors_ok _)
    (errors_error (by rintro _ ⟨⟩)))) (all_ofExcept _)) fun _ => ?_
  refine .seq (untouched_of_neutral (reserveUsageCapacity_errors _ _ _ _)
    (reserveUsageCapacity_writes neutral_id (fun _ _ => hset _) (fun _ _ => hset _) _)) fun _ => ?_
  refine .seq (.stmt untouched_stable (fun _ => untouched_stable) (fun held pend y hy u w hw => ?_)
    fun _ _ _ _ e he => refusal_of_notBudget (Errors.ite (.ite (errors_ok _)
      (errors_error (by rintro _ ⟨⟩))) (errors_ok _) e he) _ _) fun _ => ?_
  · have hwith : WithinLimit limit (account t (pend y.2)) := by
      rw [hy.neutral.1]
      exact hy.within
    exact ⟨hy.within, (insertAccount_neutral hwith hw).comp hy.neutral⟩
  refine .seq (untouched_of_neutral (.stmt (checkHardBudget_errors _ _))
    (.stmt (select_writes neutral_id _))) fun _ => ?_
  -- the conditional `UPDATE`
  refine .seq (.stmt untouched_stable (fun _ => kept_stable) (fun held pend y hy u w hw =>
    reserveBudget_kept (hy.kept held) hw) fun held pend y hy e he => ?_) fun _ => ?_
  · rintro b' amount hb' hten rfl
    cases hb'
    have hempty := reserveBudget_refused he
    rw [hten] at hempty
    obtain ⟨a, ha, hlimit, -⟩ := hy.within
    refine ⟨a, ha, ?_⟩
    have hview := (hy.neutral.1 y.2).trans ha
    have hno := filter_eq_nil_iff.1 hempty a (account_mem hview)
    simpa [hasRoom, account_tenant ha, hlimit] using hno
  refine .seq (kept_of_neutral (errors_of_notBudget (.stmt (insertRow_errors (by rintro _ ⟨⟩))))
    (.stmt fun d u w h => ?_)) fun _ => ?_
  · rw [(insertRow_exec h).2]
    exact ⟨fun _ => rfl, fun _ r hr => ⟨r, Table.mem_insert_of_mem hr, rfl, rfl, rfl⟩⟩
  refine .seq (kept_of_neutral (errors_of_notBudget (.stmt fun _ => Errors.ite (errors_ok _)
    (errors_error (by rintro _ ⟨⟩)))) (.stmt (insertBudgetEvent_neutral _))) fun _ => ?_
  exact kept_pure

/-- Moving a reservation out of the account keeps the limit if no more is settled than was
reserved. -/
lemma moveReserved_kept {settled : ℤ} {failure : AppError} (h : Kept t limit held pend x)
    (hle : tenant = t → settled ≤ reserved)
    (hw : (moveReserved tenant reserved settled failure).exec (pend x.2) = .ok (u, w)) :
    Kept t limit ((moveReserved tenant reserved settled failure).locks (pend x.2) ++ held)
      (w ∘ pend) x := by
  obtain ⟨rs, hupd, -⟩ := checked_exec hw
  refine h.update hupd fun a ha hp hlimit hsum => ⟨hlimit, ?_⟩
  simp only [Bool.and_eq_true, beq_iff_eq] at hp
  have := hle (hp.1.symm.trans ha)
  simp only [moveOut]
  omega

/-- What the process has read of a reservation it closes. -/
def HasReserved (tenant : TenantKey) (attemptId : String) (reserved : ℤ) (d : Ledger) : Prop :=
  ∃ r ∈ d.reservations.rows, r.tenant = tenant ∧ r.attemptId = attemptId ∧
    r.reservedMicrounits = reserved

lemma HasReserved.persists
    {d' : Ledger} (h : HasReserved tenant attemptId reserved d) (hd : Persists d d') :
    HasReserved tenant attemptId reserved d' := by
  obtain ⟨r, hr, ht, hid, hres⟩ := h
  obtain ⟨r', hr', ht', hid', hres'⟩ := hd r hr
  exact ⟨r', hr', ht'.trans ht, hid'.trans hid, hres'.trans hres⟩

lemma rely_within {y : List TimedCall × Ledger}
    (h : (limitProtocol t limit).Rely call held x y) : WithinLimit limit (account t y.2) := by
  obtain ⟨_, _, -, -, -, -, -, hinv⟩ := h
  exact hinv

lemma rely_persists {y : List TimedCall × Ledger}
    (h : (limitProtocol t limit).Rely call held x y) : Persists x.2 y.2 := by
  obtain ⟨_, _, -, -, -, ⟨-, hpers⟩, -, -⟩ := h
  exact hpers

/-- The assertion of a settlement. What is promised at its commit is not known before it. -/
structure Settling (t : TenantKey) (limit : ℤ) (attempt : LedgerAttempt) (outcome : LedgerOutcome)
    (reserved : ℤ) (held : List Lock) (pend : Ledger → Ledger) (y : List TimedCall × Ledger) :
    Prop where
  within : WithinLimit limit (account t y.2)
  persists : ∀ d, Persists d (pend d)
  read : HasReserved attempt.tenant attempt.attemptId reserved y.2
  kept : (attempt.tenant = t → settledMicrounits outcome ≤ reserved) → Kept t limit held pend y

lemma settling_stable :
    (limitProtocol t limit).Stable call (Settling t limit attempt outcome reserved) :=
  fun _ _ _ _ h hrely => ⟨rely_within hrely, h.persists, h.read.persists (rely_persists hrely),
    fun hle => kept_stable _ _ _ _ (h.kept hle) hrely⟩

lemma Settling.final (h : Settling t limit attempt outcome reserved held pend x)
    (hsettl : settles outcome) :
    (limitProtocol t limit).Final (now, .finalizeAttempt attempt outcome) () held pend x := by
  intro hok
  by_cases hsame : account t (pend x.2) = account t x.2
  · refine ⟨⟨.inr hsame, h.persists x.2⟩, ?_⟩
    change WithinLimit limit (account t (pend x.2))
    rw [hsame]
    exact h.within
  refine (h.kept fun ht => ?_).final hok
  obtain ⟨s, hs, hst, hsid, hres⟩ := h.read
  rw [← hres]
  exact hok ht hsettl hsame s hs (hst.trans ht) hsid

/-- The assertion of a finalization before it closes the reservation. -/
def Unclosed (t : TenantKey) (limit : ℤ) : Assertion Ledger Lock TimedCall := fun _ pend y =>
  Untouched t limit pend y ∧ ∀ d, (pend d).reservations = d.reservations

lemma unclosed_stable : (limitProtocol t limit).Stable call (Unclosed t limit) :=
  fun held _ _ _ h hrely => ⟨untouched_stable held _ _ _ h.1 hrely, h.2⟩

/-- **A settlement** keeps the limit if it is at most what was reserved. -/
lemma settleBudget_safe (hsettl : settles outcome) :
    (limitProtocol t limit).Triple (now, .finalizeAttempt attempt outcome)
    (Unclosed t limit) (settleBudget attempt outcome now)
    ((limitProtocol t limit).Final (now, .finalizeAttempt attempt outcome)) := by
  -- the closed row has the amount of a row that is there
  refine Triple.seq (Triple.stmt (Q := fun (closed : List ReservationRow) _ pend y =>
      Untouched t limit pend y ∧ ∀ r ∈ closed,
        HasReserved attempt.tenant attempt.attemptId r.reservedMicrounits y.2)
    unclosed_stable (fun closed held _ _ _ h hrely => ⟨untouched_stable held _ _ _ h.1 hrely,
      fun r hr => (h.2 r hr).persists (rely_persists hrely)⟩) (fun held pend y hy closed w hw => ?_)
    fun _ _ _ _ e _ => refusal_of_other (by simp) e _ _) fun closed held pend y hy => ?_
  · refine ⟨⟨hy.1.within, (closeReservation_neutral _ _ _ hw).comp hy.1.neutral⟩, fun r hr => ?_⟩
    obtain ⟨hclos, -⟩ := closeReservation_exec hw
    rw [hclos, hy.2] at hr
    obtain ⟨s, hs, rfl⟩ := mem_map.1 hr
    obtain ⟨hmem, hopen⟩ := mem_filter.1 hs
    simp only [ReservationRow.openFor, Bool.and_eq_true, beq_iff_eq] at hopen
    exact ⟨s, hmem, hopen.1.2, hopen.1.1, rfl⟩
  · cases hclos : closed.head? with
    | none => exact safe_throw.2 fun _ _ => refusal_of_other (by simp) _ _ _
    | some r =>
      have hr := hy.2 r (mem_of_mem_head? hclos)
      refine Triple.mono (Triple.of_all settling_stable (errors_of_other (by simp) _)
        (Txn.All.seq (fun held pend y h u w hw => ?_) fun _ =>
          Txn.All.stmt fun held pend y h u w hw => ?_))
        (fun _ _ _ _ h => h.final hsettl) held pend y
          ⟨hy.1.within, hy.1.neutral.2, hr, fun _ => hy.1.kept held⟩
      · obtain ⟨rs, hupd, -⟩ := checked_exec hw
        exact ⟨h.within, fun d => (h.persists d).trans (persists_updateAccounts hupd _), h.read,
          fun hle => moveReserved_kept (h.kept hle) hle hw⟩
      · have hw : Neutral t w := insertBudgetEvent_neutral _ _ _ _ hw
        exact ⟨h.within, fun d => (h.persists d).trans (hw.2 _), h.read,
          fun hle => (h.kept hle).neutral hw _⟩

/-- **A release** keeps the limit. -/
lemma releaseBudget_safe {reason : String} (hcall : ∀ b, call.2 ≠ .beginAttempt b) :
    (limitProtocol t limit).Triple call (Kept t limit)
      (releaseBudget attemptId tenant source mode reason now) fun _ => Kept t limit := by
  refine .seq (.stmt (Q := fun (closed : List ReservationRow) held pend y =>
      Kept t limit held pend y ∧ ∀ r ∈ closed, 0 ≤ r.reservedMicrounits) kept_stable
    (fun _ _ _ _ _ h hrely => ⟨kept_stable _ _ _ _ h.1 hrely, h.2⟩)
    (fun _ _ y hy closed w hw => ⟨hy.neutral (closeReservation_neutral _ _ _ hw) _,
      (closeReservation_exec hw).2.2⟩) fun _ _ _ _ e _ => refusal_of_other hcall e _ _)
    fun closed held pend y hy => ?_
  cases hclos : closed.head? with
  | none => exact kept_pure held pend y hy.1
  | some r =>
    have hr := hy.2 r (mem_of_mem_head? hclos)
    exact Triple.of_all kept_stable (errors_of_other hcall _)
      (.seq (fun _ _ _ h _ _ hw => moveReserved_kept h (fun _ => hr) hw)
        fun _ => .stmt fun _ _ _ h _ _ hw =>
          h.neutral (insertBudgetEvent_neutral _ _ _ _ hw) _) held pend y hy.1

/-- **A finalization** follows the protocol. -/
lemma finalizeAttempt_safe : (limitProtocol t limit).Triple (now, .finalizeAttempt attempt outcome)
    (Unclosed t limit) (finalizeAttempt attempt outcome now)
    ((limitProtocol t limit).Final (now, .finalizeAttempt attempt outcome)) := by
  refine .seq (.of_all unclosed_stable (errors_of_other (by simp) _) (all_ofExcept _)) fun _ => ?_
  refine .seq (.of_all unclosed_stable (errors_of_other (by simp) _)
    (.stmt fun held pend y h updated w hw => ?_)) fun updated held pend y hy => ?_
  · have hneutral := checked_writes (W := fun w => Neutral t w ∧
      ∀ d, (w d).reservations = d.reservations) (updateWhere_writes fun _ =>
        ⟨neutral_of_eq (fun _ => rfl) fun _ => rfl, fun _ => rfl⟩) _ _ _ _ hw
    exact ⟨⟨h.1.within, hneutral.1.comp h.1.neutral⟩, fun d => (hneutral.2 _).trans (h.2 d)⟩
  · cases updated with
    | true =>
      simp only [if_true]
      split
      · rename_i hsettl
        exact settleBudget_safe hsettl held pend y hy
      · exact (releaseBudget_safe (by simp) held pend y (hy.1.kept held)).mono
          fun _ _ _ _ h => h.final
    | false =>
      exact (kept_of_neutral (errors_of_other (by simp) _) (.stmt (select_writes neutral_id _))
        held pend y (hy.1.kept held)).mono fun _ _ _ _ h => h.final

/-- **A reconciliation** keeps the limit. -/
lemma reconcileExpired_safe : (limitProtocol t limit).Triple (now, .reconcileExpired)
    (Kept t limit) (reconcileExpired now) fun _ => Kept t limit := by
  have hrel : ∀ attempts, (limitProtocol t limit).Triple (now, .reconcileExpired)
      (Kept t limit) (releaseExpired now attempts) fun _ => Kept t limit := by
    intro attempts
    induction attempts with
    | nil => exact kept_pure
    | cons a rest ih => exact (releaseBudget_safe (by simp)).seq fun _ => ih
  refine .seq (kept_of_neutral (errors_of_other (by simp) _) (.stmt
    (expireAttempts_writes fun _ => neutral_of_eq (fun _ => rfl) fun _ => rfl)))
    fun attempts => (hrel attempts).seq fun _ => ?_
  refine .seq (kept_of_neutral (errors_of_other (by simp) _) (.stmt
    (expireRequests_writes fun _ => neutral_of_eq (fun _ => rfl) fun _ => rfl)))
    fun requests => ?_
  refine .seq (kept_of_neutral (errors_of_other (by simp) _) (releaseExpiredUsage_writes
    (fun _ => neutral_of_eq (fun _ => rfl) fun _ => rfl) requests)) fun _ => ?_
  exact kept_pure

/-- Setting the limit it has already keeps the limit. -/
lemma upsertLimit_kept {new : Option ℤ}
    (h : Kept t limit held pend x) (hnew : tenant = t → new = some limit)
    (hw : (upsertLimit tenant new).exec (pend x.2) = .ok (u, w)) :
    Kept t limit ((upsertLimit tenant new).locks (pend x.2) ++ held) (w ∘ pend) x := by
  obtain ⟨g, hg, -, row, hrow, hlimit, hsum⟩ := h.effect
  rw [← hg] at hrow
  by_cases hten : tenant = t
  · rcases upsertLimit_cases hw with ⟨hfree, -⟩ | ⟨-, rs, hupd⟩
    · exact absurd (by simp [AccountRow.keys, account_tenant hrow, hten])
        (hfree row (account_mem hrow) tenant (by simp [AccountRow.keys]))
    · have hpers : ∀ d, Persists d (w d) := by
        rw [updateWhere_write hupd]
        exact fun d => .refl d
      rcases updateAccounts_account t hupd with ⟨hsame, -⟩ | ⟨-, hset, -⟩
      · exact h.neutral ⟨hsame, hpers⟩ _
      · refine h.locked (by simp [upsertLimit, hten]) hset hpers ?_
        rw [hrow]
        exact ⟨_, rfl, hnew hten, hsum⟩
  · refine h.neutral ?_ _
    rcases upsertLimit_cases hw with ⟨-, rfl⟩ | ⟨-, rs, hupd⟩
    · exact neutral_insertAccount hten
    · rcases updateAccounts_account t hupd with ⟨hw, -⟩ | ⟨-, -, a, ha, hpa⟩
      · refine ⟨hw, fun e => ?_⟩
        rw [updateWhere_write hupd]
        exact .refl e
      · simp only [beq_iff_eq] at hpa
        exact absurd (hpa.symm.trans (account_tenant ha)) hten

lemma updateBudget_safe {input : EnterpriseBudgetUpdate} : (limitProtocol t limit).Triple
    (now, .updateBudget input) (Kept t limit) (updateBudget input)
    ((limitProtocol t limit).Final (now, .updateBudget input)) := by
  intro held pend x hx
  unfold updateBudget
  cases hten : tenantFromParts input.organizationId input.projectId input.environmentId with
  | error e => exact safe_throw.2 fun _ _ => refusal_of_other (by simp) _ _ _
  | ok tenant =>
    cases hlimit : input.validatedLimit with
    | error e => exact safe_throw.2 fun _ _ => refusal_of_other (by simp) _ _ _
    | ok new =>
      refine Triple.mono (Triple.of_all
        (A := fun held pend y => (tenant = t → new = some limit) → Kept t limit held pend y)
        (fun _ _ _ _ h hrely hnew => kept_stable _ _ _ _ (h hnew) hrely)
        (errors_of_other (by simp) _)
        (.stmt fun _ _ _ h _ _ hw hnew => upsertLimit_kept (h hnew) hnew hw))
        (fun _ _ _ _ h hok => ?_) held pend x fun _ => hx
      refine (h fun ht => ?_).final hok
      have hok : tenantFromParts input.organizationId input.projectId input.environmentId
          = .ok t → input.validatedLimit = .ok (some limit) := hok
      rw [hten, hlimit, ht] at hok
      exact Except.ok.inj (hok rfl)

lemma adjustBudget_safe {input : EnterpriseBudgetAdjustmentInput} {actorId : String} :
    (limitProtocol t limit).Triple (now, .adjustBudget input actorId) (Kept t limit)
      (adjustBudget input actorId now)
      ((limitProtocol t limit).Final (now, .adjustBudget input actorId)) := by
  intro held pend x hx
  unfold adjustBudget
  cases hten : tenantFromParts input.organizationId input.projectId input.environmentId with
  | error e => exact safe_throw.2 fun _ _ => refusal_of_other (by simp) _ _ _
  | ok tenant =>
    refine Triple.mono (x := ofExcept input.validate >>= fun _ =>
      Txn.stmt (insertAccount tenant) >>= fun _ =>
      Txn.stmt (adjustSettled tenant input.deltaMicrounits) >>= fun _ =>
      Txn.stmt (insertBudgetEvent (adjustmentEvent tenant input actorId now))) (Triple.of_all
      (A := fun held pend y =>
        (tenant = t → input.deltaMicrounits ≤ 0) → Kept t limit held pend y)
      (fun _ _ _ _ h hrely hdelta => kept_stable _ _ _ _ (h hdelta) hrely)
      (errors_of_other (by simp) _)
      (Txn.All.bind (all_ofExcept _) fun _ => Txn.All.bind
        (Txn.All.stmt fun held pend y h u w hw hdelta => ?_) fun _ => Txn.All.bind
        (Txn.All.stmt fun held pend y h u w hw hdelta => ?_)
        fun _ => Txn.All.stmt fun _ _ _ h _ _ hw hdelta =>
          (h hdelta).neutral (insertBudgetEvent_neutral _ _ _ _ hw) _))
      (fun _ _ _ _ h hok => ?_) held pend x fun _ => hx
    · have hkept := h hdelta
      obtain ⟨g, hg, -, hwith⟩ := hkept.effect
      exact hkept.neutral (insertAccount_neutral ((hg _).symm ▸ hwith) hw) _
    · -- an adjustment that is not positive keeps the limit
      obtain ⟨rs, hrs, -⟩ := checked_exec hw
      refine (h hdelta).update (guarded_exec hrs) fun a ha hp hlimit hsum => ⟨hlimit, ?_⟩
      simp only [Bool.and_eq_true, beq_iff_eq] at hp
      have := hdelta (hp.1.symm.trans ha)
      simp only [addSettled]
      omega
    · refine (h fun ht => ?_).final hok
      have hok : tenantFromParts input.organizationId input.projectId input.environmentId
          = .ok t → input.deltaMicrounits ≤ 0 := hok
      rw [hten, ht] at hok
      exact hok rfl

/-- **Every call follows the protocol.** -/
lemma Call.safe_limit (sha : String → String) :
    (limitProtocol t limit).Follows fun call => call.2.program sha call.1 := by
  rintro ⟨now, call⟩ lg d (hd : WithinLimit limit (account t d))
  have hfinal : ∀ {x : LedgerTxn Unit}, (limitProtocol t limit).Triple (now, call) (Kept t limit) x
      (fun _ => Kept t limit) → (limitProtocol t limit).Safe (now, call) [] id x
        ((limitProtocol t limit).Final (now, call)) (lg, d) :=
    fun h => (h [] id _ (kept_id hd)).mono fun _ _ _ _ h => h.final
  cases call with
  | beginRequest b =>
    refine hfinal ((kept_of_neutral (errors_of_other (by simp) _) (beginRequest_writes neutral_id
      (fun _ => ?_) ?_ fun _ => ?_)).seq fun _ => kept_pure)
    all_goals exact neutral_of_eq (fun _ => rfl) fun _ => rfl
  | beginAttempt b =>
    exact beginAttempt_safe.seq (fun _ => .done kept_stable fun _ _ _ h => h.final) [] id _
      ⟨hd, neutral_id⟩
  | finalizeAttempt attempt outcome =>
    exact finalizeAttempt_safe [] id _ ⟨⟨hd, neutral_id⟩, fun _ => rfl⟩
  | finalizeRequest request outcome snapshot =>
    refine hfinal (kept_of_neutral (errors_of_other (by simp) _)
      (finalizeRequestUsage_writes (fun _ => ?_) (fun _ => ?_) (fun _ => ?_) request))
    all_goals exact neutral_of_eq (fun _ => rfl) fun _ => rfl
  | renewLease request leaseTtl =>
    refine hfinal (kept_of_neutral (errors_of_other (by simp) _)
      (renewLease_writes (fun _ => ?_) (fun _ => ?_) request))
    all_goals exact neutral_of_eq (fun _ => rfl) fun _ => rfl
  | reconcileExpired =>
    exact hfinal (reconcileExpired_safe.seq fun _ => kept_pure)
  | updateBudget input => exact updateBudget_safe [] id _ (kept_id hd)
  | adjustBudget input actorId => exact adjustBudget_safe [] id _ (kept_id hd)

end

/-! ### The limit -/

/-- The transaction of a call with its time. -/
def TimedCall.program (sha256Hex : String → String) (call : TimedCall) : LedgerTxn Unit :=
  call.2.program sha256Hex call.1

instance (t : TenantKey) (limit : ℤ) (d d' : Ledger) : DecidablePred (LimitPromise t limit d d') :=
  fun call => by induction call using Call.casesOn <;> unfold LimitPromise <;> infer_instance

instance (t : TenantKey) (limit : ℤ) (call : TimedCall) (lg : List TimedCall) (d d' : Ledger) :
    Decidable ((limitProtocol t limit).ok call lg d d') :=
  inferInstanceAs (Decidable (LimitPromise t limit d d' call.2))

instance (t : TenantKey) (limit : ℤ) (call me : TimedCall) (lg : List TimedCall) (d : Ledger)
    (held : List Lock) : Decidable ((limitProtocol t limit).apart call lg d me held) :=
  .isTrue trivial

/-- **The hard budget limit under concurrency.** In every interleaving that keeps the promises,
settled and reserved stay within the limit after every commit, and an attempt is refused for
budget only when it would not fit into the account as it is at that moment. -/
theorem budget_limit_held (sha256Hex : String → String) {t : TenantKey} {limit : ℤ} {d : Ledger}
    (hd : WithinLimit limit (account t d)) {s : Sys Ledger Lock AppError TimedCall}
    (hs : Reach (TimedCall.program sha256Hex) (limitProtocol t limit).Promised (Sys.idle d) s) :
    WithinLimit limit (account t s.committed) ∧
      ∀ i session b amount s', s.sessions i = some session →
        session.call.2 = .beginAttempt b → b.request.tenant = t →
        Step (TimedCall.program sha256Hex) s (.fail i (.quotaExceeded (.budget amount))) s' →
        ∃ a, account t s.committed = some a ∧
          limit < a.settledMicrounits + a.reservedMicrounits + b.reservedMicrounits := by
  have hsound := sound (Call.safe_limit sha256Hex) hd hs
  refine ⟨hsound.inv, fun i session b amount s' hi hb ht hstep => ?_⟩
  exact hsound.refused hi hstep b amount hb ht rfl

/-- A ledger with one request and a limit of one and a half dollars. -/
def Sample.limited : Ledger := after id Ledger.empty
  [(0, .beginRequest (beginRequest "req")),
    (0, .updateBudget ⟨"org", "project", "prod", false, some 1500000⟩)]

/-- Two attempts of a dollar each, the second begun before the first commits. -/
def Sample.twoAttempts : List (Move TimedCall) :=
  [.start 0 (1, .beginAttempt (beginAttempt "req" "one" 1 {})),
    .start 1 (1, .beginAttempt (beginAttempt "req" "two" 1 {}))]
    ++ .replicate 2 (.go 0) ++ .replicate 3 (.go 1) ++ .replicate 5 (.go 0) ++ [.go 1]

/-- The first attempt commits, the second is refused. -/
theorem budget_limit_held_sample :
    ∃ s, Reach (TimedCall.program id) (limitProtocol Sample.tenant 1500000).Promised
        (Sys.idle Sample.limited) s ∧
      (account Sample.tenant s.committed).map (·.reservedMicrounits) = some 1000000 ∧
      WithinLimit 1500000 (account Sample.tenant s.committed) := by
  have hlimited : WithinLimit 1500000 (account Sample.tenant Sample.limited) :=
    ⟨{ tenant := Sample.tenant, limitMicrounits := some 1500000 }, by decide +kernel, rfl,
      by decide⟩
  have hrun : ∃ s, Reach (TimedCall.program id) (limitProtocol Sample.tenant 1500000).Promised
      (.idle Sample.limited) s ∧
        (account Sample.tenant s.committed).map (·.reservedMicrounits) = some 1000000 :=
    Sys.exists_reach 2 Sample.twoAttempts (by decide +kernel)
  obtain ⟨s, hs, hreserved⟩ := hrun
  exact ⟨s, hs, hreserved, (budget_limit_held id hlimited hs).1⟩

end Ledger

end ModelPort
