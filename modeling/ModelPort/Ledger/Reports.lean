import ModelPort.Ledger.Call

/-!
# What operators are told

Operators see sums of the ledger: the state of a budget, and the failures of a window.

* `hard_limit_truthful_iff`: where the report of a budget agrees with the check that guards it.
* `failures_counted_once_iff`: the failure ratio of the operations agent counts a request once for
  every filter it passes, and an upstream failure passes two.
-/

namespace ModelPort

namespace Ledger

/-! ### The report of a budget -/

/-- A sum of `i64` amounts, saturated. -/
def saturateI64 (amount : ℤ) : ℤ := max (-i64Max - 1) (min amount i64Max)

def utilizationBps (consumed limit : ℤ) : ℤ :=
  if limit = 0 then if consumed = 0 then 0 else i64Max
  else
    let points := (consumed * 10000).tdiv limit
    if -i64Max - 1 ≤ points ∧ points ≤ i64Max then points else i64Max

/-- An account as it is reported. -/
structure EnterpriseBudgetAccount extends AccountRow where
  currency : String := "USD"
  availableMicrounits : Option ℤ
  utilizationBasisPoints : Option ℤ
  warningThresholdReached : Bool
  hardLimitReached : Bool

/-- What an account has reserved and settled. -/
def consumed (account : AccountRow) : ℤ :=
  saturateI64 (account.reservedMicrounits + account.settledMicrounits)

def budgetAccount (account : AccountRow) : EnterpriseBudgetAccount :=
  let utilization := account.limitMicrounits.map (utilizationBps (consumed account))
  { account with
    availableMicrounits :=
      account.limitMicrounits.map fun limit => saturateI64 (limit - consumed account)
    utilizationBasisPoints := utilization
    warningThresholdReached := utilization.any (8000 ≤ ·)
    hardLimitReached := utilization.any (10000 ≤ ·) }

/-- The check of `begin_attempt_with_pricing` before it reserves an amount. -/
def exceedsBudget (account : AccountRow) (amount : ℤ) : Bool :=
  account.limitMicrounits.any (· < saturateI64
    (saturateI64 (account.settledMicrounits + account.reservedMicrounits) + amount))

section

variable {used limit : ℤ}

lemma tdiv_of_neg (hused : used < 0) : (used * 10000).tdiv limit = -(-used * 10000 / limit) := by
  rw [← neg_neg (used * 10000), Int.neg_tdiv, Int.tdiv_eq_ediv_of_nonneg (by omega), neg_mul]

lemma hard_limit_iff (hlimit : 0 < limit) : 10000 ≤ utilizationBps used limit ↔
    limit ≤ used ∨ (used * 10000).tdiv limit < -i64Max - 1 := by
  have hfull : 10000 ≤ (used * 10000).tdiv limit ↔ limit ≤ used := by
    rcases le_or_gt 0 used with hused | hused
    · rw [Int.tdiv_eq_ediv_of_nonneg (by omega), Int.le_ediv_iff_mul_le hlimit]
      omega
    · have hnonn : 0 ≤ -used * 10000 / limit := Int.ediv_nonneg (by omega) hlimit.le
      rw [tdiv_of_neg hused]
      omega
  simp only [utilizationBps, i64Max]
  split_ifs <;> omega

end

/-- **The hard-limit indicator** tells the truth, and what is available can be reserved, unless
the limit is zero with nothing consumed, the limit is the largest amount and used up, or the
consumption is so far below zero that its ratio to the limit overflows. -/
theorem hard_limit_truthful_iff {account : AccountRow} {limit : ℤ}
    (hlimit : account.limitMicrounits = some limit) (hrange : 0 ≤ limit ∧ limit ≤ i64Max) :
    (((budgetAccount account).hardLimitReached ↔
        ∀ r, 1 ≤ r → r ≤ i64Max → exceedsBudget account r) ∧
      ∀ r, 0 ≤ r → r ≤ i64Max →
        -i64Max - 1 ≤ account.reservedMicrounits + account.settledMicrounits →
        account.reservedMicrounits + account.settledMicrounits + r ≤ i64Max →
        (¬ exceedsBudget account r ↔
          ∃ available ∈ (budgetAccount account).availableMicrounits, r ≤ available)) ↔
    (limit = 0 → 0 < consumed account) ∧ (limit = i64Max → consumed account < i64Max) ∧
      (0 < limit → -i64Max - 1 ≤ (consumed account * 10000).tdiv limit) := by
  have hbounds : -i64Max - 1 ≤ consumed account ∧ consumed account ≤ i64Max :=
    ⟨le_max_left .., max_le (by decide) (min_le_right ..)⟩
  have hhard : (budgetAccount account).hardLimitReached ↔
      10000 ≤ utilizationBps (consumed account) limit := by
    simp [budgetAccount, hlimit]
  have hexc : ∀ r, exceedsBudget account r ↔ limit < saturateI64 (consumed account + r) := by
    simp [exceedsBudget, hlimit, consumed, add_comm]
  have hall : (∀ r, 1 ≤ r → r ≤ i64Max → exceedsBudget account r) ↔
      limit ≤ consumed account ∧ limit < i64Max := by
    simp only [hexc, saturateI64]
    refine ⟨fun h => ?_, fun h r => ?_⟩
    · have := h 1 le_rfl (by decide)
      omega
    · omega
  rw [hhard, hall]
  refine (and_iff_left fun r hr hmax hlow hhigh => ?_).trans ?_
  · have hexact : consumed account = account.reservedMicrounits + account.settledMicrounits := by
      rw [consumed, saturateI64, min_eq_left (by omega), max_eq_right hlow]
    simp only [hexc, budgetAccount, hlimit, Option.map_some, Option.mem_some_iff,
      exists_eq_left', saturateI64]
    omega
  generalize consumed account = used at *
  rcases hrange.1.eq_or_lt with rfl | hpos
  · have hmax : (10000 : ℤ) ≤ i64Max := by decide
    rw [utilizationBps]
    split_ifs <;> omega
  · have hnonn : 0 ≤ used → 0 ≤ (used * 10000).tdiv limit := fun hused =>
      Int.tdiv_nonneg (by omega) hpos.le
    rw [hard_limit_iff hpos]
    omega

/-- Nothing is consumed of a limit of zero: the indicator is off, and everything is refused. -/
theorem zero_limit_not_reached : (budgetAccount ⟨Sample.tenant, some 0, 0, 0, 1⟩).hardLimitReached
      = false ∧ ∀ r, 1 ≤ r → r ≤ i64Max → exceedsBudget ⟨Sample.tenant, some 0, 0, 0, 1⟩ r := by
  refine ⟨rfl, fun r hr hmax => ?_⟩
  simp [exceedsBudget, saturateI64, i64Max]
  omega

theorem hard_limit_truthful_sample :
    (budgetAccount ⟨Sample.tenant, some 5, 2, 3, 1⟩).hardLimitReached ∧
      ∀ r, 1 ≤ r → r ≤ i64Max → exceedsBudget ⟨Sample.tenant, some 5, 2, 3, 1⟩ r :=
  ⟨rfl, ((hard_limit_truthful_iff rfl (by decide)).2 (by decide)).1.1 rfl⟩

/-! ### The failure ratio -/

/-- The counters of `ops_runtime_snapshot` that the failure ratio is made of. -/
structure OpsRequestWindow where
  totalRequests : ℕ
  serverErrors : ℕ
  protocolFailures : ℕ
  streamFailures : ℕ

def serverError (r : RequestRow) : Bool := r.record.statusCode.any (500 ≤ ·)

def protocolFailure (r : RequestRow) : Bool :=
  r.record.toolOutcome == .protocolError || r.record.terminalReason.any (contains · "protocol")

def streamFailure (r : RequestRow) : Bool :=
  r.record.terminalReason.any fun reason =>
    contains reason "stream" || reason == "downstream_cancelled"

/-- The business requests of the window, which is a minute to an hour long. -/
def windowRows (windowSeconds : ℕ) (now : Timestamp) (d : Ledger) : List RequestRow :=
  let windowSeconds := max 60 (min windowSeconds 3600)
  d.requests.rows.filter fun r =>
    r.metadata.trafficClass == "business" && now - windowSeconds * 1000000 ≤ r.record.createdAt

def opsRequestWindow (rows : List RequestRow) : OpsRequestWindow where
  totalRequests := rows.length
  serverErrors := rows.countP serverError
  protocolFailures := rows.countP protocolFailure
  streamFailures := rows.countP streamFailure

/-- The failures in the ratio of `request_anomalies`. -/
def OpsRequestWindow.failures (requests : OpsRequestWindow) : ℕ :=
  saturatingAdd (saturatingAdd requests.serverErrors requests.protocolFailures)
    requests.streamFailures

/-- A request that passes one of the filters. -/
def failed (r : RequestRow) : Bool := serverError r || protocolFailure r || streamFailure r

/-- The counters add up to the failed requests, and more where filters overlap. -/
lemma countP_failed (rows : List RequestRow) : rows.countP failed ≤
    rows.countP serverError + rows.countP protocolFailure + rows.countP streamFailure ∧
      (rows.countP serverError + rows.countP protocolFailure + rows.countP streamFailure
          = rows.countP failed ↔
        ∀ r ∈ rows, (serverError r).toNat + (protocolFailure r).toNat + (streamFailure r).toNat
          ≤ 1) := by
  induction rows with
  | nil => simp
  | cons r rows ih =>
    simp only [List.countP_cons, List.forall_mem_cons, ← ih.2, failed]
    by_cases hserver : serverError r <;> by_cases hprot : protocolFailure r <;>
      by_cases hstr : streamFailure r <;> simp [hserver, hprot, hstr] <;> omega

/-- **Every failed request is counted once** exactly if no request of the window passes two of the
three filters. -/
theorem failures_counted_once_iff {windowSeconds : ℕ} {now : Timestamp} {d : Ledger}
    (hsize : d.requests.rows.length < u64Max) :
    (opsRequestWindow (windowRows windowSeconds now d)).failures
        = (windowRows windowSeconds now d).countP failed ↔
      ∀ r ∈ windowRows windowSeconds now d,
        (serverError r).toNat + (protocolFailure r).toNat + (streamFailure r).toNat ≤ 1 := by
  obtain ⟨hle, heq⟩ := countP_failed (windowRows windowSeconds now d)
  have hfew : (windowRows windowSeconds now d).countP failed ≤ d.requests.rows.length :=
    List.countP_le_length.trans (List.length_filter_le _ _)
  rw [← heq]
  simp only [OpsRequestWindow.failures, opsRequestWindow, saturatingAdd]
  omega

/-- A request that fails. -/
def failure (id : String) (status : ℕ) (reason : String) : List (Timestamp × Call) :=
  [(0, .beginRequest (Sample.beginRequest id)), (1, .finalizeRequest
    ⟨id, Sample.tenant, "node"⟩ { Sample.outcome 0 with
      state := .failed, statusCode := status, terminalReason := reason } none)]

/-- A request that failed upstream. -/
def upstreamFailure : Ledger := after id Ledger.empty (failure "req" 502 "upstream_error")

/-- An upstream failure is a server error, and its reason contains "stream": two failures of one
request. -/
theorem upstream_failure_counted_twice :
    (windowRows 3600 1 upstreamFailure).length = 1 ∧
      (opsRequestWindow (windowRows 3600 1 upstreamFailure)).failures = 2 := by
  decide +kernel

/-- Three failures, each of its own kind. -/
def threeFailures : Ledger := after id Ledger.empty (failure "a" 500 "internal_error"
  ++ failure "b" 499 "downstream_cancelled" ++ failure "c" 400 "protocol_error")

theorem failures_counted_once_three :
    (windowRows 3600 1 threeFailures).countP failed = 3 ∧
      (opsRequestWindow (windowRows 3600 1 threeFailures)).failures
        = (windowRows 3600 1 threeFailures).countP failed :=
  ⟨by decide +kernel, (failures_counted_once_iff (by decide +kernel)).2 (by decide +kernel)⟩

end Ledger

end ModelPort
