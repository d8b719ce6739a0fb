import ModelPort.Ledger.Writes

/-!
# Limits and what counts towards them

A spend limit or a quota is a bound on a column, summed over the finished chargeable requests and
the open usage reservations of a scope that were created inside a window.

* `Tidy`: rows whose amounts are not negative, and what the writes of the calls do to `used`.
-/

namespace ModelPort

open Relational Transaction List Option

namespace Ledger

variable {policy : UsagePolicySnapshot}

/-! ### Limits -/

/-- What a limit counts. -/
inductive Column where
  | requests
  | tokens
  | cost
  deriving DecidableEq

namespace Column

def ofRequest : Column → RequestRow → ℤ
  | .requests, _ => 1
  | .tokens, r => r.tokens
  | .cost, r => r.record.billableCostMicrounits.getD 0

def ofUsage : Column → UsageRow → ℤ
  | .requests, u => u.reservedRequests
  | .tokens, u => u.reservedTokens
  | .cost, u => u.reservedCostMicrounits

/-- What an admission adds. -/
def ofIncrement : Column → UsageReservationIncrement → ℤ
  | .requests, i => i.requests
  | .tokens, i => i.tokens
  | .cost, i => i.costMicrounits

/-- The unit of the limit: dollars, or plain counts. -/
def amount : Column → ℤ → ℚ
  | .cost, n => microunitsUsd n
  | .requests, n => n
  | .tokens, n => n

lemma amount_mono (c : Column) {m n : ℤ} (h : m ≤ n) : c.amount m ≤ c.amount n := by
  cases c with
  | cost =>
    simp only [amount, microunitsUsd]
    gcongr
  | requests | tokens => simpa [amount] using h

lemma amount_add_le (c : Column) (m n : ℤ) : c.amount (m + n) ≤ c.amount m + c.amount n := by
  cases c with
  | cost =>
    have hmax : max (m + n) 0 ≤ max m 0 + max n 0 := by omega
    simp only [amount, microunitsUsd, ← add_div]
    gcongr
    exact_mod_cast hmax
  | requests => simp [amount]
  | tokens => simp [amount]

lemma nonpos_of_amount {c : Column} {n : ℤ} (h : c.amount n ≤ 0) : n ≤ 0 := by
  by_contra hpos
  have hone : c.amount 1 ≤ 0 := (c.amount_mono (by omega)).trans h
  cases c <;> norm_num [amount, microunitsUsd] at hone

end Column

/-- Who shares a limit: the subjects of a key, a team or a user. -/
inductive Scope where
  | subjects (aliases : List String)
  | team (id : String)
  | user (id : String)
  deriving DecidableEq

def Scope.hasRequest : Scope → RequestRow → Bool
  | .subjects aliases, r => r.metadata.quotaSubjectId.any aliases.contains
  | .team id, r => r.metadata.teamId == some id
  | .user id, r => r.principalId == id

def Scope.hasUsage : Scope → UsageRow → Bool
  | .subjects aliases, u => u.quotaSubjectId.any aliases.contains
  | .team id, u => u.teamId == some id
  | .user id, u => u.userId == id

/-- A bound on a column of a scope, over everything or what was created since a point in time. -/
structure Limit where
  scope : Scope
  column : Column
  since : Option Timestamp
  bound : ℚ
  deriving DecidableEq

namespace Limit

/-- What a request counts. -/
def ofRequest (l : Limit) (r : RequestRow) : ℤ :=
  if r.counts && (l.scope.hasRequest r && inWindow l.since r.record.createdAt) then
    l.column.ofRequest r
  else 0

/-- What a usage reservation counts. -/
def ofUsage (l : Limit) (u : UsageRow) : ℤ :=
  if u.state = .reserved && (l.scope.hasUsage u && inWindow l.since u.createdAt) then
    l.column.ofUsage u
  else 0

/-- The usage of finished chargeable requests plus the open usage reservations. -/
def used (l : Limit) (d : Ledger) : ℤ := d.requests.total l.ofRequest + d.usage.total l.ofUsage

/-- The limit is respected. -/
def Holds (l : Limit) (d : Ledger) : Prop := l.column.amount (l.used d) ≤ l.bound

/-- The limit has room for one more admission. -/
def Room (l : Limit) (increment : UsageReservationIncrement) (d : Ledger) : Prop :=
  l.column.amount (l.used d + l.column.ofIncrement increment) ≤ l.bound

end Limit

/-! ### The limits of a policy -/

/-- The spend limits that an admission compares with. -/
def spendLimits (policy : UsagePolicySnapshot) (now : Timestamp) : List Limit :=
  let limits := policy.apiKeyPolicy
  let key := Scope.subjects (effectiveQuotaSubjectAliases policy)
  let windows : List Limit :=
    [⟨key, .cost, some (now - hours 5), limits.fiveHourLimitUsd⟩,
      ⟨key, .cost, some (now - hours 24), limits.dailyLimitUsd⟩,
      ⟨key, .cost, some (now - hours (24 * 7)), limits.weeklyLimitUsd⟩,
      ⟨key, .cost, some (now - hours (24 * 30)), limits.monthlyLimitUsd⟩]
  let team (id : String) : List Limit :=
    [⟨.team id, .cost, some (now - hours 24), limits.teamDailyLimitUsd⟩,
      ⟨.team id, .cost, some (now - hours (24 * 30)), limits.teamMonthlyLimitUsd⟩]
  (⟨key, .cost, none, limits.spendLimitUsd⟩
    :: (if limits.rateLimited then windows else []) ++ (policy.teamId.map team).getD []).filter
      fun l => 0 < l.bound

/-- What a quota counts; a quota of an unknown type counts nothing. -/
def quotaColumn : QuotaType → Option Column
  | .requests => some .requests
  | .tokens => some .tokens
  | .cost => some .cost
  | .other _ => none

/-- A quota as a limit. -/
def quotaLimit (quota : UsageQuotaLimit) : Option Limit :=
  (quotaColumn quota.quotaType).map fun column =>
    ⟨.user quota.userId, column, some quota.periodStart, quota.limit⟩

/-- The limits that an admission under the policy compares its totals with. -/
def enforcedLimits (policy : UsagePolicySnapshot) (now : Timestamp) : List Limit :=
  spendLimits policy now ++ policy.quotas.filterMap quotaLimit

/-! ### What the comparisons establish -/

variable {l : Limit}

section

variable {d : Ledger} {now : Timestamp} {increment : UsageReservationIncrement}
  {w : Ledger → Ledger} {u : Unit}

/-- A total and what comes on top of it leave room if their sum is within the bound. -/
lemma Limit.room_of_le {used : ℚ} (hused : l.column.amount (l.used d) ≤ used)
    (h : used + l.column.amount (l.column.ofIncrement increment) ≤ l.bound) : l.Room increment d :=
  (l.column.amount_add_le _ _).trans ((add_le_add_left hused _).trans h)

/-- **The comparison with the spend limits** leaves room in each of them. -/
lemma enforceSpend_room (h : (enforceSpend policy increment now).exec d = .ok (u, w)) :
    w = id ∧ ∀ l ∈ spendLimits policy now, l.Room increment d := by
  obtain ⟨spend, hsel, hcheck⟩ := checked_exec h
  obtain ⟨htot, rfl⟩ := select_exec hsel
  refine ⟨rfl, fun l hl => ?_⟩
  simp only [usageSpendTotals, Except.bind_eq_ok] at htot
  obtain ⟨a1, h1, a2, h2, a3, h3, a4, h4, a5, h5, a6, h6, a7, h7, htot⟩ := htot
  rw [bigint_eq_ok h1, bigint_eq_ok h2, bigint_eq_ok h3, bigint_eq_ok h4, bigint_eq_ok h5,
    bigint_eq_ok h6, bigint_eq_ok h7] at htot
  obtain rfl := Except.ok.inj htot
  simp only [enforceUsageSpendLimits, Except.bind_eq_ok] at hcheck
  obtain ⟨_, htotal, _, hrate, _, hteamDay, hteamMonth⟩ := hcheck
  obtain ⟨hl, hbound⟩ := mem_filter.1 hl
  have hbound : 0 < l.bound := by simpa using hbound
  have hroom : ∀ {label : String} {total : ℤ}, l.used d = total →
      enforceSpendLimit label l.bound (microunitsUsd total)
        (microunitsUsd increment.costMicrounits) = .ok () → l.column = .cost →
      l.Room increment d := by
    rintro label _ rfl hok hcost
    refine Limit.room_of_le (le_of_eq rfl) ?_
    rw [hcost]
    unfold enforceSpendLimit at hok
    split at hok
    · cases hok
    · rename_i hno
      exact not_lt.1 fun hlt => hno ⟨hbound, hlt⟩
  rcases mem_append.1 hl with hl | hl
  · rcases mem_cons.1 hl with rfl | hl
    · exact hroom rfl htotal rfl
    · split at hl
      · rename_i hlimited
        simp only [enforceRateLimits, hlimited, if_true, Except.bind_eq_ok] at hrate
        obtain ⟨_, hfive, _, hday, _, hweek, hmonth⟩ := hrate
        simp only [mem_cons, not_mem_nil, or_false] at hl
        rcases hl with rfl | rfl | rfl | rfl
        · exact hroom rfl hfive rfl
        · exact hroom rfl hday rfl
        · exact hroom rfl hweek rfl
        · exact hroom rfl hmonth rfl
      · cases hl
  · cases hteam : policy.teamId with
    | none => simp [hteam] at hl
    | some id =>
      rw [hteam] at hteamDay hteamMonth
      simp only [hteam, map_some, getD_some, mem_cons, not_mem_nil, or_false] at hl
      rcases hl with rfl | rfl
      · exact hroom rfl hteamDay rfl
      · exact hroom rfl hteamMonth rfl

lemma le_toNat (n : ℤ) : (n : ℚ) ≤ n.toNat := by
  exact_mod_cast Int.self_le_toNat n

/-- **The comparison with a quota** leaves room in it, if it was respected before: an admission
that adds nothing is not compared. -/
lemma enforceQuota_room {quota : UsageQuotaLimit}
    (h : (checked (select (quotaTotals quota)) (enforceQuota policy quota increment)
      : LedgerStmt Unit).exec d = .ok (u, w)) (hl : quotaLimit quota = some l) (hd : l.Holds d) :
    w = id ∧ l.Room increment d := by
  obtain ⟨totals, hsel, hcheck⟩ := checked_exec h
  obtain ⟨htot, rfl⟩ := select_exec hsel
  refine ⟨rfl, ?_⟩
  simp only [quotaTotals, Except.bind_eq_ok] at htot
  obtain ⟨_, h1, _, h2, _, h3, htot⟩ := htot
  rw [← Except.ok.inj htot, bigint_eq_ok h1, bigint_eq_ok h2, bigint_eq_ok h3] at hcheck
  simp only [enforceQuota] at hcheck
  split at hcheck
  · cases hcheck
  rename_i hno
  simp only [not_and_or, not_lt] at hno
  have hroom : ∀ {used : ℚ}, l.column.amount (l.used d) ≤ used →
      (l.column.amount (l.column.ofIncrement increment) ≤ 0 ∨
        used + l.column.amount (l.column.ofIncrement increment) ≤ l.bound) →
      l.Room increment d := by
    rintro used hused (hzero | hle)
    · have hinc := Column.nonpos_of_amount hzero
      exact (l.column.amount_mono (by omega)).trans hd
    · exact Limit.room_of_le hused hle
  cases htype : quota.quotaType with
  | requests | tokens =>
    simp only [quotaLimit, htype, quotaColumn, map_some, Option.some.injEq] at hl hno
    subst hl
    exact hroom (le_toNat _) hno
  | cost =>
    simp only [quotaLimit, htype, quotaColumn, map_some, Option.some.injEq] at hl hno
    subst hl
    exact hroom le_rfl hno
  | other name => simp [quotaLimit, htype, quotaColumn] at hl

end

/-! ### Locks -/

/-- The advisory lock that whoever adds to a scope holds. Every subject belongs to one user, its
`owner`. -/
def Scope.GuardedBy (owner : String → String) : Scope → String → Prop
  | .subjects aliases, lock =>
    ∃ user, lock = "usage:user:" ++ user ∧ ∀ subject ∈ aliases, owner subject = user
  | .team id, lock => lock = "usage:team:" ++ id
  | .user id, lock => lock = "usage:user:" ++ id

/-- The subjects and quotas of a policy belong to its user. -/
structure Owned (owner : String → String) (policy : UsagePolicySnapshot) : Prop where
  subjects : ∀ subject ∈ effectiveQuotaSubjectAliases policy, owner subject = policy.userId
  quotas : ∀ quota ∈ policy.quotas, quota.userId = policy.userId

/-- The scope columns of a usage reservation are those of the policy. -/
def InScope (policy : UsagePolicySnapshot) (u : UsageRow) : Prop :=
  u.quotaSubjectId = effectiveQuotaSubject policy ∧ u.teamId = policy.teamId ∧
    u.userId = policy.userId

section

variable {owner : String → String}

lemma userLock_mem (policy : UsagePolicySnapshot) :
    "usage:user:" ++ policy.userId ∈ usageScopes policy := by
  simp [usageScopes]

lemma teamLock_mem {id : String} (h : policy.teamId = some id) :
    "usage:team:" ++ id ∈ usageScopes policy := by
  simp [usageScopes, h]

/-- **Every enforced limit is guarded** by a lock that the admission takes. -/
lemma exists_guard (hown : Owned owner policy) (now : Timestamp)
    (hl : l ∈ enforcedLimits policy now) :
    ∃ lock ∈ usageScopes policy, l.scope.GuardedBy owner lock := by
  have hkey : (Scope.subjects (effectiveQuotaSubjectAliases policy)).GuardedBy owner
      ("usage:user:" ++ policy.userId) := ⟨policy.userId, rfl, hown.subjects⟩
  rcases mem_append.1 hl with hl | hl
  · rcases mem_append.1 (mem_filter.1 hl).1 with hl | hl
    · refine ⟨_, userLock_mem policy, ?_⟩
      rcases mem_cons.1 hl with rfl | hl
      · exact hkey
      · split at hl
        · simp only [mem_cons, not_mem_nil, or_false] at hl
          rcases hl with rfl | rfl | rfl | rfl <;> exact hkey
        · cases hl
    · cases hteam : policy.teamId with
      | none => simp [hteam] at hl
      | some id =>
        refine ⟨_, teamLock_mem hteam, ?_⟩
        simp only [hteam, map_some, getD_some, mem_cons, not_mem_nil, or_false] at hl
        rcases hl with rfl | rfl <;> rfl
  · obtain ⟨quota, hquota, hl⟩ := mem_filterMap.1 hl
    obtain ⟨column, -, rfl⟩ := map_eq_some_iff.1 hl
    exact ⟨_, userLock_mem policy, by rw [Scope.GuardedBy, hown.quotas quota hquota]⟩

/-- **Whoever adds to a scope holds its lock.** -/
lemma guard_mem (hown : Owned owner policy) {u : UsageRow} (hu : InScope policy u) {scope : Scope}
    {lock : String} (hlock : scope.GuardedBy owner lock) (hscope : scope.hasUsage u) :
    lock ∈ usageScopes policy := by
  obtain ⟨hsubj, hteam, huser⟩ := hu
  cases scope with
  | subjects aliases =>
    obtain ⟨user, rfl, howner⟩ := hlock
    simp only [Scope.hasUsage, hsubj, Option.any_eq_true, contains_eq_mem,
      decide_eq_true_eq] at hscope
    obtain ⟨subject, heff, hmem⟩ := hscope
    have hself := hown.subjects subject (by simp [effectiveQuotaSubjectAliases, heff])
    rw [← howner subject hmem, hself]
    exact userLock_mem policy
  | team id =>
    simp only [Scope.hasUsage, hteam, beq_iff_eq] at hscope
    rw [hlock]
    exact teamLock_mem hscope
  | user id =>
    simp only [Scope.hasUsage, huser, beq_iff_eq] at hscope
    rw [hlock, ← hscope]
    exact userLock_mem policy

end

end Ledger

end ModelPort
