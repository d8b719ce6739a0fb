import ModelPort.Ledger.UsageChange
import ModelPort.Ledger.BudgetLimit

/-!
# Spend limits and quotas under concurrency

An admission adds the totals of its scopes up after it has taken their advisory locks. Whoever
adds to a scope holds its lock, and everything else only lowers what a scope has used, so the sums
stay valid until the admission commits.

* `admission_within_limits`: after every admission, every limit it was compared with is respected.
-/

namespace ModelPort

open Relational Transaction Protocol List

namespace Ledger

variable {now : Timestamp}

variable {w : Ledger → Ledger} {request : LedgerRequest} {l : Limit} {d : Ledger}

/-! ### The protocol -/

/-- The request was begun under the identity of the policy, and before the attempt. -/
def SameIdentity (policy : UsagePolicySnapshot) (now : Timestamp) (r : RequestRow) : Prop :=
  (r.metadata.quotaSubjectId = none ∨
      r.metadata.quotaSubjectId = effectiveQuotaSubject policy) ∧
    (r.metadata.teamId = none ∨ r.metadata.teamId = policy.teamId) ∧
    r.principalId = policy.userId ∧ r.record.createdAt ≤ now

/-- The subjects of a policy are its user's, and so are its quotas, which stay fixed. -/
def FixedPolicy (owner : String → String) (quotasOf : String → List UsageQuotaLimit)
    (policy : UsagePolicySnapshot) : Prop :=
  Owned owner policy ∧ policy.quotas = quotasOf policy.userId

/-- What a run promises about the commit of a call, from `d` to `d'`. -/
def AdmissionPromise (owner : String → String) (quotasOf : String → List UsageQuotaLimit)
    (d d' : Ledger) (now : Timestamp) : Call → Prop
  | .beginAttempt b => reservesUsage b.usagePolicy →
      FixedPolicy owner quotasOf b.usagePolicy ∧
        ∀ r ∈ d.requests.rows, r.tenant = b.request.tenant → r.ledgerId = b.request.ledgerId →
          SameIdentity b.usagePolicy now r
  | .finalizeRequest request outcome _ => RecordsReserved request outcome d d'
  | _ => True

/-- The state between commits: rows are in order, and quotas are respected. -/
structure AdmissionInv (quotasOf : String → List UsageQuotaLimit) (d : Ledger) : Prop where
  tidy : Tidy d
  matched : Matched d
  owned : ∀ user, ∀ quota ∈ quotasOf user, quota.userId = user
  quotas : ∀ user, ∀ quota ∈ quotasOf user, ∀ l, quotaLimit quota = some l → l.Holds d

/-- What the commit of a call does. -/
structure AdmissionStep (owner : String → String) (call : TimedCall) (locks : List Lock)
    (d d' : Ledger) : Prop extends Extends d d' where
  guarded : ∀ (l : Limit) lock, l.scope.GuardedBy owner lock → Lock.advisory lock ∉ locks →
    l.used d' ≤ l.used d
  admits : ∀ b, call.2 = .beginAttempt b → reservesUsage b.usagePolicy →
    ∀ l ∈ enforcedLimits b.usagePolicy call.1, l.Holds d'

/-- The protocol of admissions. -/
def admissionProtocol (owner : String → String) (quotasOf : String → List UsageQuotaLimit) :
    Protocol Ledger Lock AppError TimedCall where
  inv _ d := AdmissionInv quotasOf d
  guar call locks _ d d' := AdmissionStep owner call locks d d'
  ok call _ d d' := AdmissionPromise owner quotasOf d d' call.1 call.2
  apart _ _ _ _ _ := True
  refusal _ _ _ _ := True

section

variable {owner : String → String} {quotasOf : String → List UsageQuotaLimit} {call : TimedCall}
  {held : List Lock} {pend : Ledger → Ledger} {x y : List TimedCall × Ledger} {d' : Ledger}

lemma Limit.Holds.mono (h : l.Holds d) (hle : l.used d' ≤ l.used d) : l.Holds d' :=
  (l.column.amount_mono hle).trans h

/-- Nothing is said about refusals. -/
lemma no_refusal {α : Type} (p : LedgerTxn α) : p.Errors fun e => ∀ lg d,
    (admissionProtocol owner quotasOf).refusal call e lg d :=
  Txn.errors_of_forall (fun _ _ _ => trivial) p

lemma rely_inv (h : (admissionProtocol owner quotasOf).Rely call held x y) :
    AdmissionInv quotasOf y.2 := by
  obtain ⟨_, _, -, -, -, -, -, hinv⟩ := h
  exact hinv

/-- What a transaction knows of its own writes stays, and so does the invariant. -/
lemma inv_stable (p : (Ledger → Ledger) → Prop) : (admissionProtocol owner quotasOf).Stable call
    fun _ pend y => AdmissionInv quotasOf y.2 ∧ p pend :=
  fun _ _ _ _ h hrely => ⟨rely_inv hrely, h.2⟩

/-! ### Calls that add no usage -/

lemma final_of_shrinks (hx : AdmissionInv quotasOf x.2)
    (h : (admissionProtocol owner quotasOf).ok call x.1 x.2 (pend x.2) → Shrinks x.2 (pend x.2))
    (hcall : ∀ b, call.2 = .beginAttempt b → reservesUsage b.usagePolicy = false) :
    (admissionProtocol owner quotasOf).Final call () held pend x := by
  intro hok
  have hshr := h hok
  refine ⟨⟨hshr.toExtends, fun l _ _ _ => hshr.used hx.tidy l, fun b hb hres => ?_⟩,
    hshr.tidy hx.tidy, hshr.matched hx.matched, hx.owned, fun user q hq l hl => ?_⟩
  · rw [hcall b hb] at hres
    cases hres
  · exact (hx.quotas user q hq l hl).mono (hshr.used hx.tidy l)

/-- **A transaction whose writes add no usage.** -/
lemma safe_shrinking {p : LedgerTxn Unit} (hp : p.All fun _ st => st.Writes Shrinking)
    (hcall : ∀ b, call.2 = .beginAttempt b → reservesUsage b.usagePolicy = false)
    (hx : AdmissionInv quotasOf x.2) : (admissionProtocol owner quotasOf).Safe call [] id p
      ((admissionProtocol owner quotasOf).Final call) x := by
  refine Triple.mono (Triple.of_all (inv_stable Shrinking) (no_refusal p)
    (hp.imp fun _ st hst held pend y hy b w hb => ?_))
    (fun _ _ _ _ h => final_of_shrinks h.1 (fun _ => h.2 _) hcall) [] id x ⟨hx, Shrinks.refl⟩
  exact ⟨hy.1, fun d => (hy.2 d).trans (hst _ b w hb _)⟩

/-! ### Finalization of a request -/

/-- The assertion of a finalization: what it does to requests, and whether it closes the usage
reservation. -/
structure Finalizing (quotasOf : String → List UsageQuotaLimit) (request : LedgerRequest)
    (outcome : LedgerOutcome) (snapshot : Option ProviderSnapshot) (now : Timestamp)
    (closes : Bool) (pend : Ledger → Ledger) (x : List TimedCall × Ledger) : Prop where
  inv : AdmissionInv quotasOf x.2
  requests : ∃ q, ∀ d, (pend d).requests = (finished request outcome now closes d).requests.update q
    (withSnapshot snapshot) (withSnapshot_keys snapshot)
  usage : ∀ d, (pend d).usage = (finished request outcome now closes d).usage

section

variable {outcome : LedgerOutcome} {snapshot : Option ProviderSnapshot} {closes : Bool}

lemma finalizing_stable : (admissionProtocol owner quotasOf).Stable call fun _ =>
    Finalizing quotasOf request outcome snapshot now closes :=
  fun _ _ _ _ h hrely => ⟨rely_inv hrely, h.requests, h.usage⟩

lemma Finalizing.final (h : Finalizing quotasOf request outcome snapshot now closes pend x) :
    (admissionProtocol owner quotasOf).Final (now, .finalizeRequest request outcome snapshot) ()
      held pend x := by
  refine final_of_shrinks h.inv (fun hok => ?_) fun b hb => by cases hb
  obtain ⟨q, hreq⟩ := h.requests
  let d1 := finished request outcome now closes x.2
  have hrec : RecordsReserved request outcome x.2 d1 := by
    rw [RecordsReserved, ← h.usage]
    exact hok
  have hfinish : Shrinks x.2 d1 := .finish h.inv.matched hrec
  have hsnap : Shrinks d1 (d1.setRequests (d1.requests.update q (withSnapshot snapshot)
      (withSnapshot_keys snapshot))) :=
    .updateRequests (fun _ => rfl) (fun _ h => h) fun l _ _ =>
      le_of_eq (l.ofRequest_congr rfl rfl rfl rfl)
  exact (hfinish.trans hsnap).trans (.of_eq (hreq x.2) (h.usage x.2))

/-- The first statement of a finalization that goes on. -/
lemma finishRequest_write (h : (finishRequest request outcome now).exec d = .ok (true, w)) :
    w = finished request outcome now false ∧ ∃ r ∈ d.requests.rows.filter request.opens,
      r.ledgerId = request.ledgerId ∧ r.tenant = request.tenant := by
  obtain ⟨rs, hrs, hlen⟩ := checked_exec h
  have hnames : ∀ r, request.opens r → r.ledgerId = request.ledgerId ∧
      r.tenant = request.tenant := by
    intro r hr
    simp only [LedgerRequest.opens, Bool.and_eq_true, beq_iff_eq] at hr
    exact hr.1.1
  rcases updateRequests_write (fun r hr => (hnames r hr).1) hrs with ⟨hnone, -⟩ | ⟨hsome, rfl⟩
  · rw [(updateRequests_exec hrs).1, hnone] at hlen
    cases hlen
  · obtain ⟨r, hr⟩ := exists_mem_of_ne_nil _ hsome
    exact ⟨rfl, r, hr, hnames r (mem_filter.1 hr).2⟩

/-- The last statement of a finalization closes the reservation if there is one. -/
lemma Finalizing.settle (h : Finalizing quotasOf request outcome snapshot now false pend x)
    {rs : List UsageRow} (hw : (settleUsage request outcome now).exec (pend x.2) = .ok (rs, w)) :
    ∃ closes, Finalizing quotasOf request outcome snapshot now closes (w ∘ pend) x := by
  have husage : ∀ d, (pend d).usage = d.usage := h.usage
  rcases updateUsage_write hw with ⟨-, rfl⟩ | ⟨-, rfl⟩
  · exact ⟨false, h⟩
  · refine ⟨true, h.inv, h.requests, fun d => ?_⟩
    simp only [Function.comp_apply, setUsage_usage, husage, finished, if_true]

/-- **A finalization** adds no usage: what it records was reserved in the row it closes. -/
lemma finalizeRequest_safe : (admissionProtocol owner quotasOf).Triple
    (now, .finalizeRequest request outcome snapshot)
    (fun _ pend y => AdmissionInv quotasOf y.2 ∧ pend = id)
    (finalizeRequestUsage request outcome snapshot now)
    ((admissionProtocol owner quotasOf).Final
      (now, .finalizeRequest request outcome snapshot)) := by
  refine .seq (.of_all (inv_stable _) (no_refusal _) (all_ofExcept _)) fun _ => ?_
  refine .seq (.stmt (Q := fun (updated : Bool) _ pend y => AdmissionInv quotasOf y.2 ∧
      (updated → pend = finished request outcome now false)) (inv_stable _)
    (fun _ => inv_stable _) (fun _ pend y hy updated w hw => ⟨hy.1, fun hup => ?_⟩)
    fun _ _ _ _ _ _ => trivial) fun updated => ?_
  · subst hup
    rw [hy.2] at hw ⊢
    exact (finishRequest_write hw).1
  cases updated with
  | false => exact fun _ _ _ _ => safe_throw.2 fun _ _ => trivial
  | true =>
    refine .seq (.stmt
      (Q := fun _ _ => Finalizing quotasOf request outcome snapshot now false) (inv_stable _)
      (fun _ => finalizing_stable) (fun _ pend y hy rs w hw => ?_) fun _ _ _ _ _ _ => trivial)
      fun _ => ?_
    · have hpend := hy.2 rfl
      obtain ⟨q, rfl⟩ : ∃ q, w = fun e => e.setRequests (e.requests.update q
          (withSnapshot snapshot) (withSnapshot_keys snapshot)) := ⟨_, updateWhere_write hw⟩
      exact ⟨hy.1, ⟨q, fun _ => by rw [hpend]; rfl⟩, fun _ => by rw [hpend]; rfl⟩
    refine .seq (.stmt finalizing_stable (fun _ => .exists fun _ => finalizing_stable)
      (fun _ _ y hy rs w hw => hy.settle hw) fun _ _ _ _ _ _ => trivial) fun _ => ?_
    exact .done (.exists fun _ => finalizing_stable) fun _ _ _ ⟨closes, hfin⟩ => hfin.final

end

/-! ### Admission of an attempt -/

/-- The request of an attempt is there. -/
def HasRequest (request : LedgerRequest) (d : Ledger) : Prop :=
  ∃ r ∈ d.requests.rows, r.tenant = request.tenant ∧ r.ledgerId = request.ledgerId

/-- The assertion of an admission before it adds anything up. -/
structure Opened (quotasOf : String → List UsageQuotaLimit) (request : LedgerRequest)
    (pend : Ledger → Ledger) (x : List TimedCall × Ledger) : Prop where
  inv : AdmissionInv quotasOf x.2
  request : HasRequest request x.2
  aside : Aside pend

/-- The assertion of an admission that holds its locks: the limits it has been compared with have
room for it. -/
structure Ready (owner : String → String) (quotasOf : String → List UsageQuotaLimit)
    (b : BeginAttempt) (existing : Bool) (limits : List Limit) (held : List Lock)
    (x : List TimedCall × Ledger) : Prop where
  inv : AdmissionInv quotasOf x.2
  request : HasRequest b.request x.2
  locks : ∀ scope ∈ usageScopes b.usagePolicy, Lock.advisory scope ∈ held
  row : existing → ∃ u ∈ x.2.usage.rows, u.isFor b.request.tenant b.request.ledgerId ∧
    InScope b.usagePolicy u
  room : ∀ l ∈ limits, (∃ lock ∈ usageScopes b.usagePolicy, l.scope.GuardedBy owner lock) ∧
    l.Room (.forAttempt b.estimate !existing) x.2

section

variable {b : BeginAttempt} {existing : Bool} {limits : List Limit}

lemma HasRequest.extends (h : HasRequest request d)
    (hextends : Extends d d') : HasRequest request d' := by
  obtain ⟨r, hr, hten, hid⟩ := h
  obtain ⟨r', hr', horig⟩ := hextends.requests r hr
  simp only [requestOrigin, Prod.mk.injEq] at horig
  exact ⟨r', hr', horig.2.1.trans hten, horig.1.trans hid⟩

/-- The assertion of an admission that has taken the locks of these scopes. -/
def Locking (quotasOf : String → List UsageQuotaLimit) (request : LedgerRequest)
    (scopes : List String) : Assertion Ledger Lock TimedCall := fun held pend y =>
  Opened quotasOf request pend y ∧ ∀ scope ∈ scopes, Lock.advisory scope ∈ held

lemma locking_stable {scopes : List String} : (admissionProtocol owner quotasOf).Stable call
    (Locking quotasOf request scopes) := by
  rintro held pend x y ⟨h, hlocks⟩ ⟨_, _, -, -, -, hguar, -, hinv⟩
  exact ⟨⟨hinv, h.request.extends hguar.toExtends, h.aside⟩, hlocks⟩

section

variable (h : Ready owner quotasOf b existing limits held x)

include h

/-- **The sums stay valid**: others raise what a scope has used only under its lock. -/
lemma Ready.stable (hrely : (admissionProtocol owner quotasOf).Rely call held x y) :
    Ready owner quotasOf b existing limits held y := by
  obtain ⟨_, _, hlocks, -, -, hguar, -, hinv⟩ := hrely
  refine ⟨hinv, h.request.extends hguar.toExtends, h.locks, fun hex => ?_, fun l hl => ?_⟩
  · obtain ⟨u, hu, hfor, hscope⟩ := h.row hex
    obtain ⟨u', hu', horig⟩ := hguar.usage u hu
    simp only [usageOrigin, Prod.mk.injEq] at horig
    obtain ⟨h1, h2, h3, h4, h5, -⟩ := horig
    refine ⟨u', hu', ?_, ?_⟩
    · simpa only [UsageRow.isFor, h1, h2] using hfor
    · simpa only [InScope, h3, h4, h5] using hscope
  · obtain ⟨⟨lock, hmem, hguard⟩, hroom⟩ := h.room l hl
    refine ⟨⟨lock, hmem, hguard⟩, (l.column.amount_mono ?_).trans hroom⟩
    have hle := hguar.guarded l lock hguard fun hlock => hlocks _ hlock (h.locks lock hmem)
    omega

lemma Ready.mono {held' : List Lock} : Ready owner quotasOf b existing limits (held' ++ held) x :=
  ⟨h.inv, h.request, fun scope hs => mem_append_right _ (h.locks scope hs), h.row, h.room⟩

end

/-- The assertion of an admission that has been compared with these limits. -/
def Comparing (owner : String → String) (quotasOf : String → List UsageQuotaLimit)
    (b : BeginAttempt) (existing : Bool) (limits : List Limit) : Assertion Ledger Lock TimedCall :=
  fun held pend y => Aside pend ∧ Ready owner quotasOf b existing limits held y

lemma comparing_stable : (admissionProtocol owner quotasOf).Stable call
    (Comparing owner quotasOf b existing limits) :=
  fun _ _ _ _ h hrely => ⟨h.1, h.2.stable hrely⟩

lemma lockUsageScopes_safe (scopes taken : List String) :
    (admissionProtocol owner quotasOf).Triple call (Locking quotasOf request taken)
      (lockUsageScopes scopes) fun _ => Locking quotasOf request (scopes.reverse ++ taken) := by
  induction scopes generalizing taken with
  | nil => exact .done locking_stable fun _ _ _ h => h
  | cons scope scopes ih =>
    rw [reverse_cons, append_assoc]
    refine .seq (.stmt locking_stable (fun _ => locking_stable)
      (fun held pend y hy u w hw => ?_) fun _ _ _ _ _ _ => trivial) fun _ => ih (scope :: taken)
    simp only [lockOnly, Except.ok.injEq, Prod.mk.injEq] at hw
    rw [← hw.2]
    exact ⟨hy.1, forall_mem_cons.2 ⟨mem_append_left _ (by simp [lockOnly]),
      fun s hs => mem_append_right _ (hy.2 s hs)⟩⟩

/-- The reservation of the request, if it has one, is in the policy's scope. -/
lemma existingUsage_exec (haside : Aside pend)
    (hw : (existingUsage b.request b.usagePolicy).exec (pend d) = .ok (existing, w)) :
    w = id ∧ (existing → ∃ u ∈ d.usage.rows, u.isFor b.request.tenant b.request.ledgerId ∧
      InScope b.usagePolicy u) := by
  obtain ⟨rows, hrows, hcheck⟩ := checked_exec hw
  obtain ⟨rfl, rfl⟩ := hrows
  refine ⟨rfl, fun hex => ?_⟩
  subst hex
  split at hcheck
  · cases hcheck
  · rename_i u hu
    split at hcheck
    · rename_i hscope
      obtain ⟨hmem, hfor⟩ := mem_filter.1 (mem_of_mem_head? hu)
      rw [usageT_get, (haside d).2] at hmem
      simp only [sameUsageScope, Bool.and_eq_true, beq_iff_eq] at hscope
      exact ⟨u, hmem, hfor, hscope.1.1.2, hscope.1.2, hscope.2⟩
    · cases hcheck

lemma Aside.used (h : Aside pend) (l : Limit) (d : Ledger) : l.used (pend d) = l.used d := by
  rw [Limit.used, Limit.used, (h d).1, (h d).2]

/-- **The spend limits have room.** -/
lemma Ready.spend (h : Ready owner quotasOf b existing [] held x) (haside : Aside pend)
    (hown : Owned owner b.usagePolicy) {u : Unit}
    (hw : (enforceSpend b.usagePolicy (.forAttempt b.estimate !existing) now).exec (pend x.2)
      = .ok (u, w)) :
    w = id ∧ Ready owner quotasOf b existing (spendLimits b.usagePolicy now) held x := by
  obtain ⟨rfl, hroom⟩ := enforceSpend_room hw
  refine ⟨rfl, h.inv, h.request, h.locks, h.row, fun l hl => ?_⟩
  refine ⟨exists_guard hown now (mem_append_left _ hl), ?_⟩
  have := hroom l hl
  rwa [Limit.Room, haside.used] at this

/-- **The quotas have room**, one after another. -/
lemma enforceQuotas_safe (hfixed : FixedPolicy owner quotasOf b.usagePolicy)
    (quotas : List UsageQuotaLimit) (hquotas : ∀ q ∈ quotas, q ∈ b.usagePolicy.quotas) :
    (admissionProtocol owner quotasOf).Triple call (Comparing owner quotasOf b existing limits)
      (enforceQuotas b.usagePolicy (.forAttempt b.estimate !existing) quotas)
      fun _ => Comparing owner quotasOf b existing (limits ++ quotas.filterMap quotaLimit) := by
  induction quotas generalizing limits with
  | nil =>
    rw [filterMap_nil, append_nil]
    exact .done comparing_stable fun _ _ _ h => h
  | cons quota quotas ih =>
    have hlim : limits ++ (quota :: quotas).filterMap quotaLimit
        = limits ++ (quotaLimit quota).toList ++ quotas.filterMap quotaLimit := by
      rw [append_assoc]
      cases hl : quotaLimit quota <;> simp [hl]
    rw [hlim]
    refine .seq (.stmt comparing_stable (fun _ => comparing_stable)
      (fun _ _ y ⟨haside, hy⟩ u w hw => ?_) fun _ _ _ _ _ _ => trivial)
      fun _ => ih fun q hq => hquotas q (mem_cons_of_mem _ hq)
    obtain ⟨totals, hsel, -⟩ := checked_exec hw
    obtain ⟨-, rfl⟩ := select_exec hsel
    refine ⟨haside, .mono ⟨hy.inv, hy.request, hy.locks, hy.row, fun l hl => ?_⟩⟩
    rcases mem_append.1 hl with hl | hl
    · exact hy.room l hl
    · have hl : quotaLimit quota = some l := by simpa using hl
      have hmem := hquotas quota mem_cons_self
      have hholds := hy.inv.quotas _ quota (hfixed.2 ▸ hmem) l hl
      have hroom := (enforceQuota_room hw hl (by rwa [Limit.Holds, haside.used])).2
      rw [Limit.Room, haside.used] at hroom
      exact ⟨exists_guard hfixed.1 0 (mem_append_right _
        (mem_filterMap.2 ⟨quota, hmem, hl⟩)), hroom⟩

/-- The usage of the attempt is written, and nothing else of requests and usage. -/
def Reserves (b : BeginAttempt) (now : Timestamp) (existing : Bool) (pend : Ledger → Ledger) :
    Prop :=
  ∀ d, (pend d).requests = d.requests ∧ (pend d).usage = (admitUsage b now existing d).usage

lemma Aside.reserves (h : Aside pend) :
    Reserves b now existing (admitUsage b now existing ∘ pend) :=
  fun d => ⟨(h d).1, by simp only [Function.comp_apply, admitUsage, setUsage_usage, (h d).2]⟩

lemma Reserves.comp (h : Reserves b now existing pend) (hw : Aside w) :
    Reserves b now existing (w ∘ pend) :=
  fun d => ⟨(hw _).1.trans (h d).1, (hw _).2.trans (h d).2⟩

lemma Reserves.used (h : Reserves b now existing pend) (l : Limit) (d : Ledger) :
    l.used (pend d) = l.used (admitUsage b now existing d) := by
  rw [Limit.used, (h d).1, (h d).2]
  rfl

/-- **The write of an admission** under any protocol: it holds the lock of the reservation, and a
reservation that it inserts was not there. -/
lemma writeUsage_safe {P : Protocol Ledger Lock AppError TimedCall}
    {A : Assertion Ledger Lock TimedCall} {Q : Unit → Assertion Ledger Lock TimedCall}
    (hA : P.Stable call A) (hQ : ∀ u, P.Stable call (Q u))
    (href : ∀ e lg d, P.refusal call e lg d)
    (hwrite : ∀ held pend y locks, A held pend y →
      Lock.usage (b.request.tenant, b.request.ledgerId) ∈ locks →
      (existing = false → (pend y.2).usage.Free
        (newUsageRow b.request b.usagePolicy (.forAttempt b.estimate true) now)) →
      Q () (locks ++ held) (admitUsage b now existing ∘ pend) y) :
    P.Triple call A (writeUsage b.request b.usagePolicy (.forAttempt b.estimate !existing) now
      existing) Q := by
  cases existing with
  | false =>
    refine .stmt hA hQ (fun held pend y hy _ w hw => ?_) fun _ _ _ _ _ _ => href _ _ _
    obtain ⟨hfree, rfl⟩ := insertRow_exec hw
    exact hwrite held pend y _ hy (by simp [insertRow, newUsageRow, UsageRow.keys]) fun _ => hfree
  | true =>
    refine .stmt hA hQ (fun held pend y hy _ w hw => ?_) fun _ _ _ _ _ _ => href _ _ _
    obtain ⟨rs, hrs, hlen⟩ := checked_exec hw
    rcases updateUsage_write hrs with ⟨hnone, -⟩ | ⟨hsome, rfl⟩
    · rw [(updateUsage_exec hrs).1, hnone] at hlen
      simp at hlen
    · obtain ⟨u, hu⟩ := exists_mem_of_ne_nil _ hsome
      refine hwrite held pend y _ hy (mem_map.2 ⟨u, hu, ?_⟩) (by simp)
      have hopen := (mem_filter.1 hu).2
      simp only [UsageRow.openFor, UsageRow.isFor, Bool.and_eq_true, beq_iff_eq] at hopen
      rw [hopen.1.1, hopen.1.2]

/-- The assertion of an admission once it has reserved its usage. -/
structure Admitting (owner : String → String) (quotasOf : String → List UsageQuotaLimit)
    (b : BeginAttempt) (now : Timestamp) (existing : Bool) (held : List Lock)
    (pend : Ledger → Ledger) (x : List TimedCall × Ledger) : Prop where
  ready : Ready owner quotasOf b existing (enforcedLimits b.usagePolicy now) held x
  reserves : Reserves b now existing pend

lemma admitting_stable : (admissionProtocol owner quotasOf).Stable call
    (Admitting owner quotasOf b now existing) :=
  fun _ _ _ _ h hrely => ⟨h.ready.stable hrely, h.reserves⟩

lemma writeUsage_admitting : (admissionProtocol owner quotasOf).Triple call
    (Comparing owner quotasOf b existing (enforcedLimits b.usagePolicy now))
    (writeUsage b.request b.usagePolicy (.forAttempt b.estimate !existing) now existing)
    fun _ => Admitting owner quotasOf b now existing :=
  writeUsage_safe comparing_stable (fun _ => admitting_stable) (fun _ _ _ => trivial)
    fun _ _ _ _ hy _ _ => ⟨hy.2.mono, hy.1.reserves⟩

lemma Ready.inScope (h : Ready owner quotasOf b existing limits held x) (hex : existing) :
    ∀ u ∈ x.2.usage.rows, u.isFor b.request.tenant b.request.ledgerId →
      InScope b.usagePolicy u := by
  intro v hv hvfor
  obtain ⟨u, hu, hfor, hscope⟩ := h.row hex
  have hone := filter_usage hu hfor
  rw [filter_usage hv hvfor] at hone
  rwa [(List.cons.inj hone).1]

section

variable (h : Admitting owner quotasOf b now existing held pend x)

include h

/-- An admission adds nothing to a scope that its policy is not in. -/
lemma Admitting.used_le
    (hscope : ∀ u : UsageRow, InScope b.usagePolicy u → l.scope.hasUsage u = false) :
    l.used (pend x.2) ≤ l.used x.2 :=
  (h.reserves.used l x.2).trans_le (used_admit_eq hscope h.ready.inScope)

/-- An admission respects the limits it was compared with. -/
lemma Admitting.holds (hl : l ∈ enforcedLimits b.usagePolicy now) : l.Holds (pend x.2) :=
  (l.column.amount_mono ((h.reserves.used l x.2).trans_le (used_admit_le l))).trans
    (h.ready.room l hl).2

lemma Admitting.extends : Extends x.2 (pend x.2) := by
  have hsame : Shrinks (admitUsage b now existing x.2) (pend x.2) :=
    .of_eq (h.reserves x.2).1 (h.reserves x.2).2
  exact admit_extends.trans hsame.toExtends

lemma Admitting.matched (hident : ∀ r ∈ x.2.requests.rows, r.tenant = b.request.tenant →
      r.ledgerId = b.request.ledgerId → SameIdentity b.usagePolicy now r) : Matched (pend x.2) := by
  intro u hu
  rw [(h.reserves x.2).2] at hu
  rw [(h.reserves x.2).1]
  rcases mem_admitUsage hu with ⟨v, hv, horig⟩ | rfl
  · obtain ⟨r, hr, hmatch⟩ := h.ready.inv.matched v hv
    exact ⟨r, hr, hmatch.of_origin rfl horig.symm⟩
  · obtain ⟨r, hr, hten, hid⟩ := h.ready.request
    obtain ⟨hsubj, hteam, huser, hcreat⟩ := hident r hr hten hid
    exact ⟨r, hr, hten, hid, hsubj, hteam, huser, hcreat⟩

/-- **The commit of an admission.** -/
lemma Admitting.final (hres : reservesUsage b.usagePolicy) :
    (admissionProtocol owner quotasOf).Final (now, .beginAttempt b) () held pend x := by
  intro hok
  obtain ⟨⟨hown, hfixed⟩, hident⟩ := hok hres
  have hinv := h.ready.inv
  refine ⟨⟨h.extends, fun l lock hguard hlock => ?_, fun b' hb _ l hl => ?_⟩,
    h.extends.tidy hinv.tidy,
    h.matched hident, hinv.owned, fun user q hq l hl => ?_⟩
  · -- the scope's lock is not held, so the reservation is not in the scope
    refine h.used_le fun u hu => Bool.eq_false_iff.2 fun hscope => hlock ?_
    exact h.ready.locks lock (guard_mem hown hu hguard hscope)
  · obtain rfl := Call.beginAttempt.inj hb
    exact h.holds hl
  · by_cases huser : user = b.usagePolicy.userId
    · refine h.holds (mem_append_right _ (mem_filterMap.2 ⟨q, ?_, hl⟩))
      rwa [hfixed, ← huser]
    · refine (hinv.quotas user q hq l hl).mono (h.used_le fun u hu => ?_)
      obtain ⟨column, -, rfl⟩ := Option.map_eq_some_iff.1 hl
      simp only [Scope.hasUsage, hu.2.2, hinv.owned user q hq, beq_eq_false_iff_ne]
      exact fun heq => huser heq.symm

end

/-- **The admission of usage**: locks, sums, comparisons, write. -/
lemma reserveUsageCapacity_safe (hres : reservesUsage b.usagePolicy)
    (hfixed : FixedPolicy owner quotasOf b.usagePolicy) :
    (admissionProtocol owner quotasOf).Triple call (Locking quotasOf b.request [])
      (reserveUsageCapacity b.request b.usagePolicy b.estimate now)
      fun _ held pend y => ∃ existing, Admitting owner quotasOf b now existing held pend y := by
  unfold reserveUsageCapacity
  rw [if_pos hres]
  refine .seq (lockUsageScopes_safe (usageScopes b.usagePolicy) []) fun _ => ?_
  refine .seq (.stmt (Q := fun existing => Comparing owner quotasOf b existing [])
    locking_stable (fun _ => comparing_stable) (fun held pend y hy existing w hw => ?_)
    fun _ _ _ _ _ _ => trivial) fun existing => ?_
  · obtain ⟨rfl, hrow⟩ := existingUsage_exec hy.1.aside hw
    exact ⟨hy.1.aside, .mono ⟨hy.1.inv, hy.1.request,
      fun scope hs => hy.2 scope (by simpa using hs),
      hrow, forall_mem_nil _⟩⟩
  refine .seq (.stmt
    (Q := fun _ => Comparing owner quotasOf b existing (spendLimits b.usagePolicy now))
    comparing_stable (fun _ => comparing_stable) (fun _ _ y ⟨haside, hy⟩ u w hw => ?_)
    fun _ _ _ _ _ _ => trivial) fun _ => ?_
  · obtain ⟨rfl, hready⟩ := hy.spend haside hfixed.1 hw
    exact ⟨haside, hready.mono⟩
  refine .seq (enforceQuotas_safe hfixed b.usagePolicy.quotas fun _ h => h) fun _ => ?_
  exact writeUsage_admitting.mono fun _ _ _ _ h => ⟨existing, h⟩

/-- **An admission** follows the protocol. -/
lemma beginAttempt_safe_admission (sha : String → String)
    (hres : reservesUsage b.usagePolicy) : (admissionProtocol owner quotasOf).Triple
      (now, .beginAttempt b) (fun _ pend y => AdmissionInv quotasOf y.2 ∧ pend = id)
      ((Call.beginAttempt b).program sha now)
      ((admissionProtocol owner quotasOf).Final (now, .beginAttempt b)) := by
  by_cases hfixed : FixedPolicy owner quotasOf b.usagePolicy
  · have hstable : (admissionProtocol owner quotasOf).Stable (now, .beginAttempt b)
        fun held pend y => ∃ existing, Admitting owner quotasOf b now existing held pend y :=
      .exists fun _ => admitting_stable
    refine .seq ?_ fun _ => .done hstable fun _ _ _ ⟨existing, h⟩ => h.final hres
    refine .seq (.stmt (Q := fun _ => Locking quotasOf b.request []) (inv_stable _)
      (fun _ => locking_stable) (fun held pend y hy u w hw => ?_) fun _ _ _ _ _ _ => trivial)
      fun _ => ?_
    · obtain ⟨hinv, rfl⟩ := hy
      obtain ⟨⟨r, hr⟩, -, rfl⟩ := insertAttempt_exec hw
      obtain ⟨hmem, hopens⟩ := mem_filter.1 (hr ▸ mem_singleton_self r)
      simp only [LedgerRequest.opens, Bool.and_eq_true, beq_iff_eq] at hopens
      exact ⟨⟨hinv, ⟨r, hmem, hopens.1.1.2, hopens.1.1.1⟩, fun d => ⟨rfl, rfl⟩⟩, nofun⟩
    refine .seq (.of_all locking_stable (no_refusal _) (all_ofExcept _)) fun _ => ?_
    refine .seq (reserveUsageCapacity_safe hres hfixed) fun _ => ?_
    exact .of_all hstable (no_refusal _) ((aside_budgetWrites.reserveAttempt b now).imp
      fun _ st hst held pend y ⟨existing, hy⟩ u w hw =>
        ⟨existing, hy.ready.mono, hy.reserves.comp (hst _ u w hw)⟩)
  · exact fun held pend x _ => (Triple.of_all (A := fun _ _ _ => True)
      (fun _ _ _ _ _ _ => trivial) (no_refusal _)
      (Txn.all_of_forall (fun _ _ _ _ _ _ _ _ _ => trivial) _) held pend x trivial).mono
      fun _ _ _ y _ hok => absurd (hok hres).1 hfixed

end

/-- **Every call follows the protocol.** -/
lemma Call.safe_admission (sha : String → String) :
    (admissionProtocol owner quotasOf).Follows (TimedCall.program sha) := by
  rintro ⟨now, call⟩ lg d hd
  cases call with
  | beginRequest b =>
    refine safe_shrinking (.bind (beginRequest_writes Shrinks.refl
      (fun _ _ => .of_eq rfl rfl) (fun d => ?_) fun _ _ => .of_eq rfl rfl) fun _ => Txn.all_done _)
      (fun b hb => by cases hb) hd
    exact .insertRequest rfl ⟨le_rfl, le_rfl⟩
  | beginAttempt b =>
    cases hres : reservesUsage b.usagePolicy with
    | true => exact beginAttempt_safe_admission sha hres [] id _ ⟨hd, rfl⟩
    | false =>
      refine safe_shrinking (Txn.All.bind (shrinking_budgetWrites.beginAttempt_of_not hres) fun _ =>
        Txn.all_done _) (fun b' hb => ?_) hd
      rwa [← Call.beginAttempt.inj hb]
  | finalizeAttempt attempt outcome =>
    exact safe_shrinking (shrinking_budgetWrites.finalizeAttempt attempt outcome)
      (fun b hb => by cases hb) hd
  | finalizeRequest request outcome snapshot => exact finalizeRequest_safe [] id _ ⟨hd, rfl⟩
  | renewLease request leaseTtl =>
    refine safe_shrinking (renewLease_writes (fun q d => ?_) (fun _ _ => .of_eq rfl rfl) request)
      (fun b hb => by cases hb) hd
    exact .updateRequests (fun _ => rfl) (fun _ h => h) fun l _ _ =>
      le_of_eq (l.ofRequest_congr rfl rfl rfl rfl)
  | reconcileExpired =>
    exact safe_shrinking (Txn.All.bind shrinking_reconcileExpired fun _ => Txn.all_done _)
      (fun b hb => by cases hb) hd
  | updateBudget input =>
    exact safe_shrinking (shrinking_budgetWrites.updateBudget input) (fun b hb => by cases hb) hd
  | adjustBudget input actorId =>
    exact safe_shrinking (shrinking_budgetWrites.adjustBudget input actorId)
      (fun b hb => by cases hb) hd

end

/-! ### The promises can be evaluated -/

instance (owner : String → String) : DecidablePred (Owned owner) := fun policy =>
  decidable_of_iff ((∀ subject ∈ effectiveQuotaSubjectAliases policy,
      owner subject = policy.userId) ∧ ∀ quota ∈ policy.quotas, quota.userId = policy.userId)
    ⟨fun h => ⟨h.1, h.2⟩, fun h => ⟨h.1, h.2⟩⟩

instance (policy : UsagePolicySnapshot) (now : Timestamp) :
    DecidablePred (SameIdentity policy now) :=
  fun _ => by unfold SameIdentity; infer_instance

instance (owner : String → String) (quotasOf : String → List UsageQuotaLimit) :
    DecidablePred (FixedPolicy owner quotasOf) :=
  fun _ => by unfold FixedPolicy; infer_instance

instance (request : LedgerRequest) (outcome : LedgerOutcome) (d d' : Ledger) :
    Decidable (RecordsReserved request outcome d d') := by
  unfold RecordsReserved
  infer_instance

instance (owner : String → String) (quotasOf : String → List UsageQuotaLimit) (d d' : Ledger)
    (now : Timestamp) : DecidablePred (AdmissionPromise owner quotasOf d d' now) :=
  fun call => by induction call using Call.casesOn <;> unfold AdmissionPromise <;> infer_instance

instance (owner : String → String) (quotasOf : String → List UsageQuotaLimit) (call : TimedCall)
    (lg : List TimedCall) (d d' : Ledger) :
    Decidable ((admissionProtocol owner quotasOf).ok call lg d d') :=
  inferInstanceAs (Decidable (AdmissionPromise owner quotasOf d d' call.1 call.2))

instance (owner : String → String) (quotasOf : String → List UsageQuotaLimit)
    (call me : TimedCall) (lg : List TimedCall) (d : Ledger) (held : List Lock) :
    Decidable ((admissionProtocol owner quotasOf).apart call lg d me held) :=
  .isTrue trivial

/-! ### The limits -/

namespace Sample

/-- A quota of one request. -/
def quota : UsageQuotaLimit where
  id := "quota"
  userId := "user"
  quotaType := .requests
  limit := 1
  periodStartMs := 0

def quotasOf (user : String) : List UsageQuotaLimit := if user = "user" then [quota] else []

/-- A key of the user, limited to one and a half dollars. -/
def policy : UsagePolicySnapshot where
  userId := "user"
  apiKeyId := some "key"
  apiKeyPolicy := { spendLimitUsd := 3 / 2 }
  quotas := [quota]

/-- A ledger with two requests. -/
def twoRequests : Ledger := after id Ledger.empty
  [(0, .beginRequest (beginRequest "req")), (0, .beginRequest (beginRequest "other"))]

lemma mem_quotasOf {user : String} {q : UsageQuotaLimit} (h : q ∈ quotasOf user) :
    user = "user" ∧ q = quota := by
  unfold quotasOf at h
  split at h
  · rename_i huser
    exact ⟨huser, mem_singleton.1 h⟩
  · cases h

def attempt : BeginAttempt := beginAttempt "req" "one" 1 policy

/-- An attempt of each request, the second begun before the first commits. -/
def twoAdmissions : List (Move TimedCall) :=
  [.start 0 (1, .beginAttempt attempt),
    .start 1 (1, .beginAttempt (beginAttempt "other" "two" 1 policy))]
    ++ .replicate 3 (.go 0) ++ [.go 1] ++ .replicate 9 (.go 0)

end Sample

end Ledger

end ModelPort
