import ModelPort.Ledger.Limits

/-!
# What the writes do to the usage of a scope

A finalization records at most what the reservation it closes had reserved, and an admission adds
at most what it has announced. Every other write leaves what a scope has used, or lowers it.
-/

namespace ModelPort

open Relational Transaction Table UsageRow

namespace Ledger

variable {r : RequestRow} {d : Ledger} {now : Timestamp} {request : LedgerRequest}

variable {u : UsageRow} {r' : RequestRow} {f : RequestRow → RequestRow} {p : RequestRow → Bool}
  {hf : ∀ r, (f r).keys = r.keys}

/-! ### Rows -/

/-- A request without negative amounts. -/
def TidyRequest (r : RequestRow) : Prop :=
  0 ≤ r.tokens ∧ 0 ≤ r.record.billableCostMicrounits.getD 0

/-- A usage reservation of at least one request, without negative amounts. -/
def TidyUsage (u : UsageRow) : Prop :=
  1 ≤ u.reservedRequests ∧ 0 ≤ u.reservedTokens ∧ 0 ≤ u.reservedCostMicrounits

/-- Requests and usage reservations without negative amounts. -/
structure Tidy (d : Ledger) : Prop where
  requests : ∀ r ∈ d.requests.rows, TidyRequest r
  usage : ∀ u ∈ d.usage.rows, TidyUsage u

/-- What never changes in a request. -/
def requestOrigin (r : RequestRow) :
    String × TenantKey × LedgerRequestMetadata × String × Timestamp :=
  (r.ledgerId, r.tenant, r.metadata, r.principalId, r.record.createdAt)

/-- What never changes in a usage reservation. -/
def usageOrigin (u : UsageRow) :
    TenantKey × String × Option String × Option String × String × Timestamp :=
  (u.tenant, u.requestLedgerId, u.quotaSubjectId, u.teamId, u.userId, u.createdAt)

/-- The request of a usage reservation: in the same scope, and not younger. -/
structure Matches (r : RequestRow) (u : UsageRow) : Prop where
  tenant : r.tenant = u.tenant
  ledgerId : r.ledgerId = u.requestLedgerId
  subject : r.metadata.quotaSubjectId = none ∨ r.metadata.quotaSubjectId = u.quotaSubjectId
  team : r.metadata.teamId = none ∨ r.metadata.teamId = u.teamId
  user : r.principalId = u.userId
  createdAt : r.record.createdAt ≤ u.createdAt

/-- Every usage reservation has its request. -/
def Matched (d : Ledger) : Prop :=
  ∀ u ∈ d.usage.rows, ∃ r ∈ d.requests.rows, Matches r u

section

variable {l : Limit} {u' : UsageRow}

lemma Limit.ofRequest_nonneg (l : Limit) (h : TidyRequest r) : 0 ≤ l.ofRequest r := by
  unfold Limit.ofRequest
  split
  · cases l.column with
    | requests => exact zero_le_one
    | tokens => exact h.1
    | cost => exact h.2
  · exact le_rfl

lemma Limit.ofUsage_nonneg (l : Limit) (h : TidyUsage u) : 0 ≤ l.ofUsage u := by
  unfold Limit.ofUsage
  split
  · cases l.column with
    | requests => exact zero_le_one.trans h.1
    | tokens => exact h.2.1
    | cost => exact h.2.2
  · exact le_rfl

lemma Limit.ofUsage_closed (l : Limit) (h : u.state ≠ .reserved) : l.ofUsage u = 0 := by
  simp [Limit.ofUsage, h]

lemma Limit.ofRequest_uncounted (l : Limit) (h : r.counts = false) : l.ofRequest r = 0 := by
  simp [Limit.ofRequest, h]

lemma Scope.hasRequest_of_origin (scope : Scope)
    (h : requestOrigin r' = requestOrigin r) : scope.hasRequest r' = scope.hasRequest r := by
  simp only [requestOrigin, Prod.mk.injEq] at h
  obtain ⟨-, -, hmeta, hprinc, -⟩ := h
  cases scope <;> simp [Scope.hasRequest, hmeta, hprinc]

lemma Scope.hasUsage_of_origin (scope : Scope)
    (h : usageOrigin u' = usageOrigin u) : scope.hasUsage u' = scope.hasUsage u := by
  simp only [usageOrigin, Prod.mk.injEq] at h
  obtain ⟨-, -, hsubj, hteam, huser, -⟩ := h
  cases scope <;> simp [Scope.hasUsage, hsubj, hteam, huser]

lemma Limit.ofRequest_le {n : ℤ} (hn : 0 ≤ n) (h : l.scope.hasRequest r →
    inWindow l.since r.record.createdAt → l.column.ofRequest r ≤ n) : l.ofRequest r ≤ n := by
  unfold Limit.ofRequest
  split
  · rename_i hcnt
    simp only [Bool.and_eq_true] at hcnt
    exact h hcnt.2.1 hcnt.2.2
  · exact hn

/-- A request counts the same when only other columns change. -/
lemma Limit.ofRequest_congr (l : Limit)
    (horig : requestOrigin r' = requestOrigin r) (hcnt : r'.counts = r.counts)
    (htok : r'.tokens = r.tokens)
    (hcost : r'.record.billableCostMicrounits = r.record.billableCostMicrounits) :
    l.ofRequest r' = l.ofRequest r := by
  have hcreat : r'.record.createdAt = r.record.createdAt := by
    simp only [requestOrigin, Prod.mk.injEq] at horig
    exact horig.2.2.2.2
  have hcol : l.column.ofRequest r' = l.column.ofRequest r := by
    cases l.column <;> simp [Column.ofRequest, htok, hcost]
  simp only [Limit.ofRequest, hcnt, l.scope.hasRequest_of_origin horig, hcreat, hcol]

lemma Matches.of_origin (h : Matches r u)
    (hr : requestOrigin r' = requestOrigin r) (hu : usageOrigin u' = usageOrigin u) :
    Matches r' u' := by
  simp only [requestOrigin, usageOrigin, Prod.mk.injEq] at hr hu
  obtain ⟨h1, h2, h3, h4, h5⟩ := hr
  obtain ⟨k1, k2, k3, k4, k5, k6⟩ := hu
  constructor
  · rw [h2, k1]
    exact h.tenant
  · rw [h1, k2]
    exact h.ledgerId
  · rw [h3, k3]
    exact h.subject
  · rw [h3, k4]
    exact h.team
  · rw [h4, k5]
    exact h.user
  · rw [h5, k6]
    exact h.createdAt

/-- A request counts in a scope only if its reservation does. -/
lemma Matches.inScope (h : Matches r u) {scope : Scope} (hr : scope.hasRequest r) :
    scope.hasUsage u := by
  cases scope with
  | subjects aliases =>
    simp only [Scope.hasRequest, Scope.hasUsage] at hr ⊢
    rcases h.subject with hnone | heq
    · simp [hnone] at hr
    · rwa [← heq]
  | team id =>
    simp only [Scope.hasRequest, Scope.hasUsage] at hr ⊢
    rcases h.team with hnone | heq
    · simp [hnone] at hr
    · rwa [← heq]
  | user id =>
    simp only [Scope.hasRequest, Scope.hasUsage] at hr ⊢
    rwa [← h.user]

lemma Matches.inWindow (h : Matches r u) {since : Option Timestamp}
    (hr : ModelPort.inWindow since r.record.createdAt) : ModelPort.inWindow since u.createdAt := by
  cases since with
  | none => rfl
  | some t =>
    simp only [ModelPort.inWindow, Option.all_some, decide_eq_true_eq] at hr ⊢
    exact hr.trans h.createdAt

end

/-! ### Changes after which nothing has been used in addition -/

/-- Rows stay tidy and keep their origin. -/
structure Extends (d d' : Ledger) : Prop where
  tidy : Tidy d → Tidy d'
  requests : ∀ r ∈ d.requests.rows, ∃ r' ∈ d'.requests.rows, requestOrigin r' = requestOrigin r
  usage : ∀ u ∈ d.usage.rows, ∃ u' ∈ d'.usage.rows, usageOrigin u' = usageOrigin u

/-- No scope has used more, and no reservation is new. -/
structure Shrinks (d d' : Ledger) : Prop extends Extends d d' where
  used : Tidy d → ∀ l : Limit, l.used d' ≤ l.used d
  usage_back : ∀ u' ∈ d'.usage.rows, ∃ u ∈ d.usage.rows, usageOrigin u = usageOrigin u'

namespace Extends

lemma trans {a b c : Ledger} (hab : Extends a b) (hbc : Extends b c) : Extends a c where
  tidy h := hbc.tidy (hab.tidy h)
  requests r hr := by
    obtain ⟨r', hr', h'⟩ := hab.requests r hr
    obtain ⟨r'', hr'', h''⟩ := hbc.requests r' hr'
    exact ⟨r'', hr'', h''.trans h'⟩
  usage u hu := by
    obtain ⟨u', hu', h'⟩ := hab.usage u hu
    obtain ⟨u'', hu'', h''⟩ := hbc.usage u' hu'
    exact ⟨u'', hu'', h''.trans h'⟩

lemma updateRequests
    (horig : ∀ r, requestOrigin (f r) = requestOrigin r)
    (htidy : ∀ r, TidyRequest r → TidyRequest (f r)) :
    Extends d (d.setRequests (d.requests.update p f hf)) where
  tidy h := by
    refine ⟨fun r hr => ?_, h.usage⟩
    obtain ⟨s, hs, rfl⟩ := (mem_update hf).1 hr
    exact assign_of (htidy s (h.requests s hs)) (h.requests s hs)
  requests r hr := ⟨_, (mem_update hf).2 ⟨_, hr, rfl⟩, apply_assign horig r⟩
  usage u hu := ⟨u, hu, rfl⟩

lemma updateUsage {p : UsageRow → Bool} {f : UsageRow → UsageRow}
    (hf : ∀ u, (f u).keys = u.keys) (horig : ∀ u, usageOrigin (f u) = usageOrigin u)
    (htidy : ∀ u, TidyUsage u → TidyUsage (f u)) :
    Extends d (d.setUsage (d.usage.update p f hf)) where
  tidy h := by
    refine ⟨h.requests, fun u hu => ?_⟩
    obtain ⟨v, hv, rfl⟩ := (mem_update hf).1 hu
    exact assign_of (htidy v (h.usage v hv)) (h.usage v hv)
  requests r hr := ⟨r, hr, rfl⟩
  usage u hu := ⟨_, (mem_update hf).2 ⟨_, hu, rfl⟩, apply_assign horig u⟩

lemma insertUsage {row : UsageRow} (htidy : TidyUsage row) :
    Extends d (d.setUsage (d.usage.insert row)) where
  tidy h := by
    refine ⟨h.requests, fun u hu => ?_⟩
    rcases mem_insert hu with rfl | hu
    · exact htidy
    · exact h.usage u hu
  requests r hr := ⟨r, hr, rfl⟩
  usage u hu := ⟨u, mem_insert_of_mem hu, rfl⟩

end Extends

namespace Shrinks

variable {d' : Ledger}

lemma of_eq (hr : d'.requests = d.requests) (hu : d'.usage = d.usage) : Shrinks d d' where
  tidy h := ⟨by rw [hr]; exact h.requests, by rw [hu]; exact h.usage⟩
  requests r h := ⟨r, by rwa [hr], rfl⟩
  usage u h := ⟨u, by rwa [hu], rfl⟩
  used _ l := by rw [Limit.used, Limit.used, hr, hu]
  usage_back u h := ⟨u, by rwa [hu] at h, rfl⟩

lemma refl (d : Ledger) : Shrinks d d := of_eq rfl rfl

lemma trans {a b c : Ledger} (hab : Shrinks a b) (hbc : Shrinks b c) : Shrinks a c where
  toExtends := hab.toExtends.trans hbc.toExtends
  used h l := (hbc.used (hab.tidy h) l).trans (hab.used h l)
  usage_back u hu := by
    obtain ⟨u', hu', h'⟩ := hbc.usage_back u hu
    obtain ⟨u'', hu'', h''⟩ := hab.usage_back u' hu'
    exact ⟨u'', hu'', h''.trans h'⟩

lemma matched (h : Shrinks d d') (hd : Matched d) : Matched d' := by
  intro u' hu'
  obtain ⟨u, hu, horig⟩ := h.usage_back u' hu'
  obtain ⟨r, hr, hmatch⟩ := hd u hu
  obtain ⟨r', hr', horigin'⟩ := h.requests r hr
  exact ⟨r', hr', hmatch.of_origin horigin' horig.symm⟩

/-- An `UPDATE` of requests that lowers what they count. -/
lemma updateRequests
    (horig : ∀ r, requestOrigin (f r) = requestOrigin r)
    (htidy : ∀ r, TidyRequest r → TidyRequest (f r))
    (hle : ∀ (l : Limit) r, TidyRequest r → l.ofRequest (f r) ≤ l.ofRequest r) :
    Shrinks d (d.setRequests (d.requests.update p f hf)) where
  toExtends := .updateRequests horig htidy
  used h l := by
    have := total_update_le (p := p) (g := l.ofRequest) hf fun r hr => hle l r (h.requests r hr)
    simp only [Limit.used, setRequests_requests, setRequests_usage]
    omega
  usage_back u hu := ⟨u, hu, rfl⟩

lemma insertRequest {row : RequestRow} (hrow : row.counts = false) (htidy : TidyRequest row) :
    Shrinks d (d.setRequests (d.requests.insert row)) where
  tidy h := by
    refine ⟨fun r hr => ?_, h.usage⟩
    rcases mem_insert hr with rfl | hr
    · exact htidy
    · exact h.requests r hr
  requests r hr := ⟨r, mem_insert_of_mem hr, rfl⟩
  usage u hu := ⟨u, hu, rfl⟩
  used h l := by
    have hzero := l.ofRequest_uncounted hrow
    have := total_insert_le d.requests (le_of_eq hzero.symm)
    simp only [Limit.used, setRequests_requests, setRequests_usage]
    omega
  usage_back u hu := ⟨u, hu, rfl⟩

lemma closeUsage {p : UsageRow → Bool} {f : UsageRow → UsageRow}
    (hf : ∀ u, (f u).keys = u.keys) (horig : ∀ u, usageOrigin (f u) = usageOrigin u)
    (htidy : ∀ u, TidyUsage u → TidyUsage (f u)) (hclos : ∀ u, (f u).state ≠ .reserved) :
    Shrinks d (d.setUsage (d.usage.update p f hf)) where
  toExtends := .updateUsage hf horig htidy
  used h l := by
    have := total_update_le (p := p) (g := l.ofUsage) hf fun u hu => by
      rw [l.ofUsage_closed (hclos u)]
      exact l.ofUsage_nonneg (h.usage u hu)
    simp only [Limit.used, setUsage_requests, setUsage_usage]
    omega
  usage_back u hu := by
    obtain ⟨v, hv, rfl⟩ := (mem_update hf).1 hu
    exact ⟨v, hv, (apply_assign horig v).symm⟩

end Shrinks

/-! ### Calls that add no usage -/

/-- A write after which nothing has been used in addition. -/
def Shrinking (w : Ledger → Ledger) : Prop := ∀ d, Shrinks d (w d)

section

lemma shrinking_budgetWrites : BudgetWrites Shrinking where
  idle := .refl
  attempts _ _ := .of_eq rfl rfl
  accounts _ _ := .of_eq rfl rfl
  reservations _ _ := .of_eq rfl rfl
  event _ _ := .of_eq rfl rfl

lemma shrinking_reconcileExpired : (reconcileExpired now).All fun _ st => st.Writes Shrinking := by
  refine shrinking_budgetWrites.reconcileExpired (expireRequests_writes fun q d => ?_)
    (releaseExpiredUsage_writes fun q d => ?_)
  · refine .updateRequests (fun _ => rfl) (fun _ h => h) fun l r hr => ?_
    exact l.ofRequest_nonneg hr
  · exact .closeUsage _ (fun _ => rfl) (fun _ h => h) fun _ => by simp [releaseUsageRow]

end

/-! ### Finalization of a request -/

/-- The tokens a finalization records. -/
def recordedTokens (outcome : LedgerOutcome) : ℤ :=
  toI64 outcome.estimate.inputTokens + toI64 outcome.estimate.outputTokens
    + toI64 outcome.estimate.cacheWriteTokens + toI64 outcome.estimate.cacheReadTokens

/-- The finalization of the request, from `d` to `d'`, records at most what the request has
reserved, in the usage reservation that it closes. -/
def RecordsReserved (request : LedgerRequest) (outcome : LedgerOutcome) (d d' : Ledger) : Prop :=
  outcome.chargeable → ∃ u ∈ d.usage.rows, u.openFor request.tenant request.ledgerId ∧
    (∀ v ∈ d'.usage.rows, v.openFor request.tenant request.ledgerId = false) ∧
    recordedTokens outcome ≤ u.reservedTokens ∧
    settledMicrounits outcome ≤ u.reservedCostMicrounits

section

variable {outcome : LedgerOutcome} {d' : Ledger}

lemma tidy_finishRequestRow (outcome : LedgerOutcome) (now : Timestamp) (r : RequestRow) :
    TidyRequest (finishRequestRow outcome now r) := by
  constructor
  · have h1 := toI64_nonneg outcome.estimate.inputTokens
    have h2 := toI64_nonneg outcome.estimate.outputTokens
    have h3 := toI64_nonneg outcome.estimate.cacheWriteTokens
    have h4 := toI64_nonneg outcome.estimate.cacheReadTokens
    simp only [RequestRow.tokens, finishRequestRow, RecordColumns.finish]
    omega
  · simp only [finishRequestRow, RecordColumns.finish]
    cases outcome.estimate.billableCost with
    | none => exact le_rfl
    | some cost => exact costMicrounits_nonneg cost

lemma filter_request (hr : r ∈ d.requests.rows) :
    d.requests.rows.filter (·.ledgerId == r.ledgerId) = [r] := by
  refine filter_eq_singleton hr (by simp) fun s hs => ⟨.ledgerId r.ledgerId, ?_, ?_⟩
  · simp only [beq_iff_eq] at hs
    simp [RequestRow.keys, hs]
  · simp [RequestRow.keys]

lemma filter_usage {tenant : TenantKey} {ledgerId : String}
    (hu : u ∈ d.usage.rows) (hfor : u.isFor tenant ledgerId) :
    d.usage.rows.filter (isFor tenant ledgerId) = [u] := by
  simp only [isFor, Bool.and_eq_true, beq_iff_eq] at hfor
  refine filter_eq_singleton hu (by simp [isFor, hfor]) fun v hv =>
    ⟨(tenant, ledgerId), ?_, ?_⟩
  · simp only [isFor, Bool.and_eq_true, beq_iff_eq] at hv
    simp [keys, hv]
  · simp [keys, hfor]

/-- What a finished request counts is what its reservation counted, at most. -/
lemma ofRequest_finish_le (l : Limit) (hmatch : Matches r u)
    (hu : TidyUsage u) (hopen : u.state = .reserved)
    (htok : recordedTokens outcome ≤ u.reservedTokens)
    (hcost : settledMicrounits outcome ≤ u.reservedCostMicrounits) :
    l.ofRequest (finishRequestRow outcome now r) ≤ l.ofUsage u := by
  refine Limit.ofRequest_le (l.ofUsage_nonneg hu) fun hscope hwindow => ?_
  have hfin : requestOrigin (finishRequestRow outcome now r) = requestOrigin r := rfl
  rw [l.scope.hasRequest_of_origin hfin] at hscope
  have husage : l.ofUsage u = l.column.ofUsage u :=
    if_pos (by simp [hopen, hmatch.inScope hscope, hmatch.inWindow hwindow])
  rw [husage]
  cases l.column with
  | requests => exact hu.1
  | tokens => exact htok
  | cost =>
    refine le_trans (le_of_eq ?_) hcost
    simp only [Column.ofRequest, finishRequestRow, RecordColumns.finish, settledMicrounits]
    cases outcome.estimate.billableCost <;> simp [costMicrounits]

/-- The tables of requests and usage reservations once a request is finished. -/
def finished (request : LedgerRequest) (outcome : LedgerOutcome) (now : Timestamp)
    (closes : Bool) (d : Ledger) : Ledger :=
  (d.setRequests (d.requests.update (·.ledgerId == request.ledgerId)
      (finishRequestRow outcome now) (finishRequestRow_keys outcome now))).setUsage
    (if closes then
      d.usage.update (UsageRow.isFor request.tenant request.ledgerId) (settleUsageRow outcome now)
        (settleUsageRow_keys outcome now)
    else d.usage)

/-- Closing the reservation and counting the request instead adds nothing. -/
lemma used_finished_le (hd : Tidy d) (hmatched : Matched d) (hcharge : outcome.chargeable)
    (hrec : RecordsReserved request outcome d d') (l : Limit) :
    l.used (finished request outcome now true d) ≤ l.used d := by
  obtain ⟨u, hu, hopen, -, htok, hcost⟩ := hrec hcharge
  simp only [openFor, Bool.and_eq_true, beq_iff_eq] at hopen
  obtain ⟨r, hr, hmatch⟩ := hmatched u hu
  have hfor : u.tenant = request.tenant ∧ u.requestLedgerId = request.ledgerId := by
    simpa [isFor] using hopen.1
  have hone := filter_request hr
  rw [hmatch.ledgerId, hfor.2] at hone
  have hfin : l.ofRequest (finishRequestRow outcome now r) ≤ l.ofUsage u :=
    ofRequest_finish_le l hmatch (hd.usage u hu) hopen.2 htok hcost
  have hreq := total_update_single (finishRequestRow_keys outcome now) hone l.ofRequest
  have husage := total_update_single (settleUsageRow_keys outcome now)
    (filter_usage hu hopen.1) l.ofUsage
  have hclos : l.ofUsage (settleUsageRow outcome now u) = 0 :=
    l.ofUsage_closed (by simp only [settleUsageRow]; split <;> simp)
  have hnonn := l.ofRequest_nonneg (hd.requests r hr)
  simp only [finished, if_true, Limit.used, setUsage_requests, setUsage_usage, setRequests_requests]
  omega

/-- **The finalization of a request** that records at most what it closes. -/
lemma Shrinks.finish (hmatched : Matched d) {closes : Bool}
    (hrec : RecordsReserved request outcome d (finished request outcome now closes d)) :
    Shrinks d (finished request outcome now closes d) := by
  let d1 := d.setRequests (d.requests.update (·.ledgerId == request.ledgerId)
    (finishRequestRow outcome now) (finishRequestRow_keys outcome now))
  have hreq : Extends d d1 :=
    .updateRequests (fun _ => rfl) fun r _ => tidy_finishRequestRow outcome now r
  have hfree : outcome.chargeable = false → Shrinks d d1 := by
    intro hcharge
    refine .updateRequests (fun _ => rfl) (fun r _ => tidy_finishRequestRow outcome now r)
      fun l r hr => ?_
    rw [l.ofRequest_uncounted
      (by simp [RequestRow.counts, finishRequestRow, RecordColumns.finish, hcharge])]
    exact l.ofRequest_nonneg hr
  cases closes with
  | false =>
    -- without a reservation to close nothing is charged
    refine hfree (Bool.eq_false_iff.2 fun hcharge => ?_)
    obtain ⟨u, hu, hopen, hclos, -⟩ := hrec hcharge
    rw [hclos u hu] at hopen
    cases hopen
  | true =>
    have hclose : Shrinks d1 (finished request outcome now true d) :=
      .closeUsage (settleUsageRow_keys outcome now) (fun _ => rfl) (fun _ h => h) fun u => by
        simp only [settleUsageRow]
        split <;> simp
    refine ⟨hreq.trans hclose.toExtends, fun hd l => ?_, hclose.usage_back⟩
    cases hcharge : outcome.chargeable with
    | true => exact used_finished_le hd hmatched hcharge hrec l
    | false => exact (hclose.used (hreq.tidy hd) l).trans ((hfree hcharge).used hd l)

end

/-! ### The write of an admission -/

/-- The ledger after the usage of an admission is written: a retry adds to the row of its request,
a first attempt inserts it. -/
def admitUsage (b : BeginAttempt) (now : Timestamp) (existing : Bool) (d : Ledger) : Ledger :=
  d.setUsage <|
    if existing then
      d.usage.update (UsageRow.isFor b.request.tenant b.request.ledgerId)
        (addToUsageRow (.forAttempt b.estimate false) now) (addToUsageRow_keys _ now)
    else d.usage.insert (newUsageRow b.request b.usagePolicy (.forAttempt b.estimate true) now)

section

variable {b : BeginAttempt} {estimate : UsageEstimate} {existing : Bool}

lemma toI64_le (n : ℕ) : toI64 n ≤ n := min_le_left _ _

lemma tidy_newUsageRow (b : BeginAttempt) (now : Timestamp) :
    TidyUsage (newUsageRow b.request b.usagePolicy (.forAttempt b.estimate true) now) :=
  ⟨le_of_eq rfl, toI64_nonneg _, costMicrounits_nonneg _⟩

lemma ofIncrement_nonneg (c : Column) (firstAttempt : Bool) :
    0 ≤ c.ofIncrement (.forAttempt estimate firstAttempt) := by
  cases c with
  | requests | tokens => exact Int.natCast_nonneg _
  | cost => exact costMicrounits_nonneg _

lemma ofUsage_addToUsageRow_le (l : Limit) (u : UsageRow) :
    l.ofUsage (addToUsageRow (.forAttempt estimate false) now u)
      ≤ l.ofUsage u + l.column.ofIncrement (.forAttempt estimate false) := by
  have hscope := l.scope.hasUsage_of_origin
    (show usageOrigin (addToUsageRow (.forAttempt estimate false) now u) = usageOrigin u from rfl)
  by_cases hcnt : u.state = .reserved && (l.scope.hasUsage u && inWindow l.since u.createdAt)
  · have hadd : l.ofUsage (addToUsageRow (.forAttempt estimate false) now u)
        = l.column.ofUsage (addToUsageRow (.forAttempt estimate false) now u) :=
      if_pos (by rw [hscope]; exact hcnt)
    have hrow : l.ofUsage u = l.column.ofUsage u := if_pos hcnt
    rw [hadd, hrow]
    cases l.column with
    | requests => exact le_of_eq (add_zero _).symm
    | tokens => exact Int.add_le_add_left (toI64_le _) _
    | cost => exact le_of_eq rfl
  · have hadd : l.ofUsage (addToUsageRow (.forAttempt estimate false) now u) = 0 :=
      if_neg (by rw [hscope]; exact hcnt)
    have hrow : l.ofUsage u = 0 := if_neg hcnt
    rw [hadd, hrow, zero_add]
    exact ofIncrement_nonneg _ _

/-- **The write of an admission** adds what it has announced, at most. -/
lemma used_admit_le (l : Limit) : l.used (admitUsage b now existing d)
    ≤ l.used d + l.column.ofIncrement (.forAttempt b.estimate !existing) := by
  cases existing with
  | false =>
    have htotal := total_insert_le d.usage (l.ofUsage_nonneg (tidy_newUsageRow b now))
    have hrow : l.ofUsage (newUsageRow b.request b.usagePolicy (.forAttempt b.estimate true) now)
      ≤ l.column.ofIncrement (.forAttempt b.estimate true) := by
      unfold Limit.ofUsage
      split
      · cases l.column with
        | requests => exact le_of_eq rfl
        | tokens => exact toI64_le _
        | cost => exact le_of_eq rfl
      · exact ofIncrement_nonneg _ _
    simp only [admitUsage, Limit.used, setUsage_requests, setUsage_usage, Bool.not_false,
      Bool.false_eq_true, if_false]
    omega
  | true =>
    simp only [admitUsage, Limit.used, setUsage_requests, setUsage_usage, Bool.not_true, if_true]
    by_cases hrow : ∃ u ∈ d.usage.rows, u.isFor b.request.tenant b.request.ledgerId
    · obtain ⟨u, hu, hfor⟩ := hrow
      rw [total_update_single _ (filter_usage hu hfor)]
      have hadd : l.ofUsage (addToUsageRow (.forAttempt b.estimate false) now u)
        ≤ l.ofUsage u + l.column.ofIncrement (.forAttempt b.estimate false) :=
          ofUsage_addToUsageRow_le l u
      omega
    · have hnone := List.filter_eq_nil_iff.2 fun u hu hfor => hrow ⟨u, hu, hfor⟩
      rw [update_eq_self hnone]
      have hinc : 0 ≤ l.column.ofIncrement (.forAttempt b.estimate false) := ofIncrement_nonneg _ _
      omega

/-- An admission adds nothing to a scope that its reservation is not in. -/
lemma used_admit_eq {l : Limit}
    (hscope : ∀ u : UsageRow, InScope b.usagePolicy u → l.scope.hasUsage u = false)
    (hexisting : existing → ∀ u ∈ d.usage.rows, u.isFor b.request.tenant b.request.ledgerId →
      InScope b.usagePolicy u) : l.used (admitUsage b now existing d) ≤ l.used d := by
  have hzero : ∀ u : UsageRow, InScope b.usagePolicy u → l.ofUsage u = 0 := by
    intro u hu
    simp [Limit.ofUsage, hscope u hu]
  cases existing with
  | false =>
    have hnew : l.ofUsage (newUsageRow b.request b.usagePolicy (.forAttempt b.estimate true) now)
        = 0 := hzero _ ⟨rfl, rfl, rfl⟩
    have htotal := total_insert_le d.usage (le_of_eq hnew.symm)
    simp only [admitUsage, Limit.used, setUsage_requests, setUsage_usage, Bool.false_eq_true,
      if_false]
    omega
  | true =>
    simp only [admitUsage, Limit.used, setUsage_requests, setUsage_usage, if_true, total_update]
    have hle := total_mono (t := d.usage) (h := l.ofUsage) (g := fun u => l.ofUsage
      (assign (isFor b.request.tenant b.request.ledgerId)
        (addToUsageRow (.forAttempt b.estimate false) now) u)) fun u hu => ?_
    · omega
    · unfold assign
      split
      · rename_i hfor
        have hu' := hexisting rfl u hu hfor
        rw [hzero u hu', hzero (addToUsageRow _ now u) hu']
      · exact le_rfl

lemma admit_extends : Extends d (admitUsage b now existing d) := by
  cases existing with
  | false => exact .insertUsage (tidy_newUsageRow b now)
  | true =>
    exact .updateUsage (addToUsageRow_keys _ now) (fun _ => rfl) fun u hu =>
      ⟨hu.1, add_nonneg hu.2.1 (toI64_nonneg _), add_nonneg hu.2.2 (costMicrounits_nonneg _)⟩

lemma mem_admitUsage (hu : u ∈ (admitUsage b now existing d).usage.rows) :
    (∃ v ∈ d.usage.rows, usageOrigin v = usageOrigin u) ∨
      u = newUsageRow b.request b.usagePolicy (.forAttempt b.estimate true) now := by
  cases existing with
  | false =>
    rcases mem_insert hu with rfl | hu
    · exact .inr rfl
    · exact .inl ⟨u, hu, rfl⟩
  | true =>
    obtain ⟨v, hv, rfl⟩ := (mem_update (addToUsageRow_keys _ now)).1 hu
    exact .inl ⟨v, hv, (apply_assign (f := addToUsageRow _ _) (fun _ => rfl) v).symm⟩

end

end Ledger

end ModelPort
