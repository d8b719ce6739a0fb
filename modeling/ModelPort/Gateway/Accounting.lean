import ModelPort.Gateway.Steps

/-!
# The usage of a request and the usages of its attempts

Each attempt that is sent is finalized with a usage, and so is the request. The attempt loop
keeps the usages of attempts that another one follows, and the end of the handler adds what it
takes to be the usage of the last one.

* `Counted`, `Stopped`: the invariant of the attempt loop, and what its last round leaves.
* `request_usage_is_sum_iff`: when the usage of the request is the sum over its attempts.
-/

namespace ModelPort

open List

variable {request : LedgerRequest}

variable {es es' : List Effect} {total : UsageEstimate} {sent : SentAttempt} {s : LoopState}
  {q : QueuedAttempt} {result : Except AppError UpstreamResponse} {provider : ProviderConfig}
  {claim : AttemptClaim} {o : Outcome} {earlier : List Outcome}

/-! ### Sums of usages -/

/-- The token counters of a usage. -/
inductive Counter where
  | input
  | output
  | cacheWrite
  | cacheRead
  deriving DecidableEq

def UsageEstimate.count (e : UsageEstimate) : Counter → ℕ
  | .input => e.inputTokens
  | .output => e.outputTokens
  | .cacheWrite => e.cacheWriteTokens
  | .cacheRead => e.cacheReadTokens

namespace Gateway

open Routing Interaction Interaction.Prog

/-- One counter, summed over usages. -/
def countSum (l : List UsageEstimate) (c : Counter) : ℕ := (l.map (·.count c)).sum

def costSum (l : List UsageEstimate) : ℚ := (l.map (·.costEstimate)).sum

/-- The billable costs that are known, summed over usages. -/
def billableSum : List UsageEstimate → Option ℚ
  | [] => none
  | e :: l => mergeBillableCost (billableSum l) e.billableCost

/-- **The sum, component by component.** -/
@[mk_iff]
structure IsSum (l : List UsageEstimate) (total : UsageEstimate) : Prop where
  count : ∀ c, total.count c = countSum l c
  cost : total.costEstimate = costSum l
  billable : total.billableCost = billableSum l

/-- What merging usages one after the other gives: counters saturate. -/
structure Accumulated (l : List UsageEstimate) (total : UsageEstimate) : Prop where
  count : ∀ c, total.count c = min (countSum l c) u64Max
  cost : total.costEstimate = costSum l
  billable : total.billableCost = billableSum l

lemma count_mergeUsageEstimates (a b : UsageEstimate) (c : Counter) :
    (mergeUsageEstimates a b).count c = saturatingAdd (a.count c) (b.count c) := by
  cases c <;> rfl

@[simp] lemma count_default (c : Counter) : ({} : UsageEstimate).count c = 0 := by
  cases c <;> rfl

@[simp] lemma countSum_cons (e : UsageEstimate) (l : List UsageEstimate) (c : Counter) :
    countSum (e :: l) c = e.count c + countSum l c := by
  simp [countSum]

@[simp] lemma costSum_cons (e : UsageEstimate) (l : List UsageEstimate) :
    costSum (e :: l) = e.costEstimate + costSum l := by
  simp [costSum]

lemma Accumulated.nil : Accumulated [] {} where
  count := fun c => by simp [countSum]
  cost := rfl
  billable := rfl

variable {l : List UsageEstimate}

lemma Accumulated.cons (h : Accumulated l total) (e : UsageEstimate) :
    Accumulated (e :: l) (mergeUsageEstimates total e) where
  count := by
    intro c
    rw [count_mergeUsageEstimates, h.count, countSum_cons]
    unfold saturatingAdd
    omega
  cost := by
    rw [costSum_cons, ← h.cost, add_comm]
    rfl
  billable := by
    rw [billableSum, ← h.billable]
    rfl

/-- Adding `added` to the usages `kept` comes to the same as adding `final`, exactly. -/
@[mk_iff]
structure Adds (kept : List UsageEstimate) (added final : UsageEstimate) : Prop where
  count : ∀ c, (countSum kept c + added.count c ≤ u64Max ∧ added.count c = final.count c) ∨
    (u64Max < countSum kept c + added.count c ∧ countSum kept c + final.count c = u64Max)
  cost : added.costEstimate = final.costEstimate
  billable : mergeBillableCost (billableSum kept) added.billableCost =
    mergeBillableCost (billableSum kept) final.billableCost

variable {kept : List UsageEstimate}

lemma isSum_merge_iff (h : Accumulated kept total) (added final : UsageEstimate) :
    IsSum (final :: kept) (mergeUsageEstimates total added) ↔ Adds kept added final := by
  have hmerg := h.cons added
  rw [isSum_iff, adds_iff, hmerg.cost, hmerg.billable]
  refine and_congr (forall_congr' fun c => ?_) (and_congr ?_ Iff.rfl)
  · rw [hmerg.count, countSum_cons, countSum_cons]
    omega
  · rw [costSum_cons, costSum_cons, add_left_inj]

lemma isSum_default_cons : IsSum ({} :: l) total ↔ IsSum l total := by
  have hbill : billableSum ({} :: l) = billableSum l := by
    show mergeBillableCost (billableSum l) none = _
    cases billableSum l <;> rfl
  simp [isSum_iff, hbill]

/-- The usages come to nothing. -/
@[mk_iff]
structure ComesToNothing (l : List UsageEstimate) : Prop where
  count : ∀ c, countSum l c = 0
  cost : costSum l = 0
  billable : (billableSum l).getD 0 = 0

/-- A total that is itself among the usages is their sum only if the others come to nothing. -/
lemma isSum_self_iff (h : Accumulated kept total) (added : UsageEstimate) :
    IsSum (mergeUsageEstimates total added :: kept) (mergeUsageEstimates total added) ↔
      ComesToNothing kept := by
  have hbill : (mergeUsageEstimates total added).billableCost =
      mergeBillableCost (billableSum kept)
        (mergeUsageEstimates total added).billableCost ↔ (billableSum kept).getD 0 = 0 := by
    rw [(h.cons added).billable, billableSum]
    rcases billableSum kept with _ | b <;> rcases added.billableCost with _ | a <;>
      simp [mergeBillableCost]
  simp [isSum_iff, comesToNothing_iff, hbill, billableSum]

/-! ### Outcomes of attempts -/

/-- An attempt that was sent, and its result. -/
structure Outcome where
  target : ResolvedProvider
  result : Except AppError UpstreamResponse

open Outcome

namespace Outcome

/-- The outcome of a planned attempt that is sent with this configuration of its provider. -/
def of (planned : ResolvedProvider) (provider : ProviderConfig)
    (result : Except AppError UpstreamResponse) : Outcome :=
  ⟨{ planned with provider }, result⟩

variable (r : ClientRequest) (o : Outcome)

/-- What the gateway itself estimates. -/
def localEstimate : UsageEstimate := estimateUsage r (appliedPricing o.target)

/-- The usage the attempt comes with, as the end of the handler sees it. -/
def reportedEstimate : UsageEstimate :=
  ((resultUsage o.result).map usageEstimateFromCharge).getD (o.localEstimate r)

/-- The usage the attempt is finalized with, unless its response streams. -/
def finalEstimate : UsageEstimate :=
  ((attemptCharge o.target (appliedPricing o.target) o.result).map usageEstimateFromCharge).getD
    (o.localEstimate r)

/-- The attempt failed with tool arguments that may be repaired. -/
def repairable : Bool :=
  match o.result with
  | .ok _ => false
  | .error e => isToolArgumentsInvalid e && repairEnabled r o.target.provider

/-- The attempt is retried or repaired, or another provider is tried. -/
def retried (earlier : List Outcome) : Bool :=
  match o.result with
  | .ok _ => false
  | .error e => isRetryableMessageError e ||
      (o.repairable r && !earlier.any (·.repairable r))

end Outcome

/-- **When each attempt is counted once.** The outcomes are listed with the last one first.

* The usage of a streamed response is finalized, for attempt and request alike, as the total.
* The usage of a last attempt that the loop kept for a retry is added again, as an estimate.
* Otherwise the usage of the last attempt is added, as far as the response reports it. -/
def CountedOnce (r : ClientRequest) : List Outcome → Prop
  | [] => True
  | o :: earlier =>
    let kept := earlier.map (·.finalEstimate r)
    if r.isStream && succeeded o.result then ComesToNothing kept
    else if o.retried r earlier then Adds (o.finalEstimate r :: kept) (o.localEstimate r) {}
    else Adds kept (o.reportedEstimate r) (o.finalEstimate r)

/-! ### What effects say about attempts -/

def Effect.outcome : Effect → Option Outcome
  | .sent _ target _ _ result => some ⟨target, result⟩
  | _ => none

def Effect.begunAttempt : Effect → Option LedgerAttempt
  | .attemptBegun _ attempt => some attempt
  | _ => none

def Effect.finalizedAttempt : Effect → Option (LedgerAttempt × UsageEstimate)
  | .attemptFinalized attempt outcome => some (attempt, outcome.estimate)
  | _ => none

def Effect.begunRequest : Effect → Option LedgerRequest
  | .requestBegun _ request => some request
  | _ => none

def Effect.finalizedRequest : Effect → Option (LedgerRequest × UsageEstimate)
  | .requestFinalized request usage => some (request, usage.estimate)
  | _ => none

/-- The attempts that were sent, the last one first. -/
def outcomes (es : List Effect) : List Outcome := es.filterMap Effect.outcome

/-- The ledger rows of the attempts. -/
def begunAttempts (es : List Effect) : List LedgerAttempt := es.filterMap Effect.begunAttempt

/-- The finalizations of attempts, with their usages. -/
def finalizedAttempts (es : List Effect) : List (LedgerAttempt × UsageEstimate) :=
  es.filterMap Effect.finalizedAttempt

/-- The ledger rows of the requests. -/
def begunRequests (es : List Effect) : List LedgerRequest := es.filterMap Effect.begunRequest

/-- The finalizations of requests, with their usages. -/
def finalizedRequests (es : List Effect) : List (LedgerRequest × UsageEstimate) :=
  es.filterMap Effect.finalizedRequest

/-! ### The attempt loop -/

section

variable {p : Prepared} {r : LoopState × Bool}

lemma finalEstimate_eq {target : ResolvedProvider}
    (hadm : Admitted p request target provider sent claim)
    (result : Except AppError UpstreamResponse) : finalEstimate target sent result =
      (of target provider result).finalEstimate p.request := by
  have hcard := hadm.credentialed.modelPricingCard target.model
  have hcharge : attemptCharge target sent.pricing result =
      attemptCharge { target with provider } (appliedPricing { target with provider }) result := by
    rw [← hadm.pricing]
    unfold attemptCharge
    cases result with
    | ok response => rfl
    | error e => rw [hcard]
  unfold finalEstimate Outcome.finalEstimate localEstimate
  rw [hcharge, hadm.estimate, hadm.pricing]
  rfl

section

variable {attempted : Bool}

lemma followup_stop_iff (r : ClientRequest) (result : Except AppError UpstreamResponse)
    (hcred : Credentialed q.target { q.target with provider })
    (hattempted : attempted = earlier.any (·.repairable r)) :
    followup r attempted q result = .stop ↔
      (of q.target provider result).retried r earlier = false := by
  have hrep := hcred.repairEnabled r
  rcases result with e | response
  · unfold retried
    rw [← hattempted]
    simp only [followup, of, repairable, hrep]
    cases isToolArgumentsInvalid e && repairEnabled r q.target.provider <;> cases attempted <;>
      cases isRetryableMessageError e <;> simp <;> split <;> simp
  · simp [followup, of, retried]

lemma followup_repair_iff (r : ClientRequest) (attempted : Bool)
    (result : Except AppError UpstreamResponse)
    (hcred : Credentialed q.target { q.target with provider }) :
    followup r attempted q result = .repair ↔
      ((of q.target provider result).repairable r && !attempted) := by
  have hrep := hcred.repairEnabled r
  rcases result with e | response
  · simp only [followup, of, repairable, hrep]
    cases isToolArgumentsInvalid e && repairEnabled r q.target.provider <;> cases attempted <;>
      cases isRetryableMessageError e <;> simp <;> split <;> simp
  · simp [followup, of, repairable]

end

/-- The invariant: all attempts so far were retried, their usages are kept, and they are
finalized with them. -/
structure Counted (r : ClientRequest) (s : LoopState) (es : List Effect) : Prop where
  prior : Accumulated ((outcomes es).map (·.finalEstimate r)) s.priorAttemptUsage
  last : s.lastSent.map (·.estimate) = (outcomes es).head?.map (·.localEstimate r)
  repair : s.toolRepairAttempted = (outcomes es).any (·.repairable r)
  retried : ∀ o earlier, outcomes es = o :: earlier → o.retried r earlier
  failed : succeeded s.result = false
  attempts : (finalizedAttempts es).map Prod.fst = begunAttempts es
  usages : (finalizedAttempts es).map Prod.snd = (outcomes es).map (·.finalEstimate r)

/-- What the loop leaves when it stops at an attempt. The row of an attempt whose response streams
is not finalized yet. -/
structure StoppedAt (r : ClientRequest) (s : LoopState) (es : List Effect) (o : Outcome)
    (earlier : List Outcome) (sent : SentAttempt) : Prop where
  order : outcomes es = o :: earlier
  retried : o.retried r earlier = false
  prior : Accumulated (earlier.map (·.finalEstimate r)) s.priorAttemptUsage
  last : s.lastSent = some sent
  estimate : sent.estimate = o.localEstimate r
  providerId : sent.providerId = o.target.providerId
  model : sent.model = o.target.model
  result : s.result = o.result
  streams : (r.isStream && succeeded o.result) →
    sent.ledgerAttempt :: (finalizedAttempts es).map Prod.fst = begunAttempts es ∧
      (finalizedAttempts es).map Prod.snd = earlier.map (·.finalEstimate r)
  complete : (r.isStream && succeeded o.result) = false →
    (finalizedAttempts es).map Prod.fst = begunAttempts es ∧
      (finalizedAttempts es).map Prod.snd = (o :: earlier).map (·.finalEstimate r)

/-- What the loop leaves. -/
def Tallied (r : ClientRequest) (s : LoopState) (es : List Effect) : Prop :=
  Counted r s es ∨ ∃ o earlier sent, StoppedAt r s es o earlier sent

lemma Counted.start (hcnt : OnlyCounts p.request p.resolved [] es) :
    Counted p.request (LoopState.initial p) (.requestBegun p.claim request :: es) := by
  rcases hcnt with rfl | ⟨-, target, reply, -, rfl⟩ <;>
    exact ⟨.nil, rfl, rfl, fun _ _ heq => (cons_ne_nil _ _ heq.symm).elim, rfl, rfl, rfl⟩

lemma after_stop {r : ClientRequest} (sent : SentAttempt)
    (hstop : followup r s.toolRepairAttempted q result = .stop) :
    ∃ s', LoopState.after r s q sent result = (s', false) ∧
      s'.priorAttemptUsage = s.priorAttemptUsage ∧ s'.lastSent = s.lastSent ∧
      s'.result = result := by
  simp only [LoopState.after, hstop]
  exact ⟨_, rfl, rfl, rfl, rfl⟩

lemma after_retried {r : ClientRequest} (sent : SentAttempt)
    (hgo : followup r s.toolRepairAttempted q result ≠ .stop) : succeeded result = false ∧
      ∃ s' go, LoopState.after r s q sent result = (s', go) ∧ s'.priorAttemptUsage =
        mergeUsageEstimates s.priorAttemptUsage (finalEstimate q.target sent result) ∧
      s'.lastSent = s.lastSent ∧ s'.result = result ∧ (s'.toolRepairAttempted ↔
        s.toolRepairAttempted ∨ followup r s.toolRepairAttempted q result = .repair) := by
  rcases result with e | response
  · have hfail : succeeded (.error e : Except AppError UpstreamResponse) = false := rfl
    rcases hfoll : followup r s.toolRepairAttempted q (.error e) with _ | _ | _ | _
    · exact absurd hfoll hgo
    all_goals
      simp only [LoopState.after, hfoll, hfail, Bool.and_false]
      refine ⟨trivial, _, _, rfl, rfl, rfl, rfl, ?_⟩
      simp [LoopState.keep, LoopState.record]
  · exact absurd rfl hgo

lemma SendSpec.account (hadmitted : Admitted p request q.target provider sent claim)
    (hsend : SendSpec p.request.isStream q.target provider q.repair sent result
      (.attemptBegun claim sent.ledgerAttempt :: es) es') :
    outcomes es' = of q.target provider result :: outcomes es ∧
      begunAttempts es' = sent.ledgerAttempt :: begunAttempts es ∧
      finalizedAttempts es' = if p.request.isStream && succeeded result then finalizedAttempts es
        else (sent.ledgerAttempt, (of q.target provider result).finalEstimate p.request)
          :: finalizedAttempts es := by
  simp only [SendSpec] at hsend
  by_cases hstr : (p.request.isStream && succeeded result)
  · rw [if_pos hstr] at hsend ⊢
    subst hsend
    exact ⟨rfl, rfl, rfl⟩
  · rw [if_neg hstr] at hsend ⊢
    obtain ⟨outcome, hestimate, rfl⟩ := hsend
    refine ⟨rfl, rfl, ?_⟩
    rw [← finalEstimate_eq hadmitted result, ← hestimate]
    rfl

/-- The round in which an attempt is sent. -/
lemma Counted.round_sent (hcounted : Counted p.request s es) {rest : List QueuedAttempt}
    (hadmitted : Admitted p request q.target provider sent claim)
    (hsend : SendSpec p.request.isStream q.target provider q.repair sent result
      (.attemptBegun claim sent.ledgerAttempt :: es) es') :
    let r := LoopState.after p.request ((s.take q rest).send sent) q sent result
    if r.2 then Counted p.request r.1 es' else Tallied p.request r.1 es' := by
  obtain ⟨houtc, hbegun, hfinalized⟩ := hsend.account hadmitted
  have hlocal : sent.estimate = (of q.target provider result).localEstimate
      p.request := by
    rw [hadmitted.estimate, hadmitted.pricing]
    rfl
  have hrep : ((s.take q rest).send sent).toolRepairAttempted =
      (outcomes es).any (·.repairable p.request) := hcounted.repair
  have hiff := followup_stop_iff p.request result hadmitted.credentialed hrep
  by_cases hstop : followup p.request ((s.take q rest).send sent).toolRepairAttempted q result =
      .stop
  · obtain ⟨s', hafter, hprior, hlast, hres⟩ := after_stop sent hstop
    rw [hafter]
    refine .inr ⟨of q.target provider result, outcomes es, sent, ?_⟩
    exact {
      order := houtc
      retried := hiff.1 hstop
      prior := by
        rw [hprior]
        exact hcounted.prior
      last := hlast
      estimate := hlocal
      providerId := hadmitted.providerId
      model := hadmitted.model
      result := hres
      streams := by
        intro (hstr : (p.request.isStream && succeeded result))
        rw [if_pos hstr] at hfinalized
        rw [hfinalized, hbegun, hcounted.attempts]
        exact ⟨rfl, hcounted.usages⟩
      complete := by
        intro (hstr : (p.request.isStream && succeeded result) = false)
        rw [if_neg (by rw [hstr]; exact Bool.false_ne_true)] at hfinalized
        rw [hfinalized, hbegun, ← hcounted.attempts]
        exact ⟨rfl, congrArg (_ :: ·) hcounted.usages⟩ }
  · obtain ⟨hfail, s', go, hafter, hprior, hlast, hres, hattempted⟩ := after_retried sent hstop
    have hfinalized' : finalizedAttempts es' = (sent.ledgerAttempt,
        (of q.target provider result).finalEstimate p.request) ::
          finalizedAttempts es := by
      rw [hfinalized, hfail, Bool.and_false]
      rfl
    have hcount' : Counted p.request s' es' := {
      prior := by
        rw [hprior, houtc, finalEstimate_eq hadmitted result]
        exact hcounted.prior.cons _
      last := by
        rw [hlast, houtc]
        exact congrArg some hlocal
      repair := by
        rw [hrep] at hattempted
        rw [Bool.eq_iff_iff, hattempted, houtc, any_cons,
          followup_repair_iff p.request _ result hadmitted.credentialed]
        cases (outcomes es).any (·.repairable p.request) <;> simp
      retried := by
        intro o earlier heq
        rw [houtc] at heq
        cases heq
        exact Bool.eq_true_of_not_eq_false fun hnot => hstop (hiff.2 hnot)
      failed := by
        rw [hres]
        exact hfail
      attempts := by
        rw [hfinalized', hbegun, ← hcounted.attempts]
        rfl
      usages := by
        rw [hfinalized', houtc]
        exact congrArg (_ :: ·) hcounted.usages }
    rw [hafter]
    cases go with
    | true => exact hcount'
    | false => exact .inl hcount'

/-- **A round keeps the account**, and the last one leaves it complete. -/
lemma Counted.round (hcounted : Counted p.request s es) (hround : RoundSpec p request s r es es') :
    if r.2 then Counted p.request r.1 es' else Tallied p.request r.1 es' := by
  cases hround with
  | empty hs => exact .inl hcounted
  | skip hs result hres =>
    refine { hcounted with failed := ?_ }
    rcases hres with rfl | ⟨e, rfl⟩
    · exact hcounted.failed
    · rfl
  | stop hs e => exact .inl { hcounted with failed := rfl }
  | @sent _ _ q rest hs provider sent claim hadmitted result hsend =>
    exact hcounted.round_sent hadmitted hsend

lemma RoundSpec.requests (hround : RoundSpec p request s r es es') :
    begunRequests es' = begunRequests es ∧ finalizedRequests es' = finalizedRequests es := by
  cases hround with
  | empty hs => exact ⟨rfl, rfl⟩
  | skip hs result hres => exact ⟨rfl, rfl⟩
  | stop hs e => exact ⟨rfl, rfl⟩
  | sent hs hadmitted hsend =>
    simp only [SendSpec] at hsend
    split_ifs at hsend
    · subst hsend
      exact ⟨rfl, rfl⟩
    · obtain ⟨outcome, -, rfl⟩ := hsend
      exact ⟨rfl, rfl⟩

end

/-! ### The end -/

/-- The account of a finished request: each attempt was sent and is finalized once, and the usage
of the request is their sum exactly if `CountedOnce` says so. -/
structure Settled (r : ClientRequest) (es : List Effect) (total : UsageEstimate) : Prop where
  attempts : (finalizedAttempts es).map Prod.fst = begunAttempts es
  sent : (begunAttempts es).length = (outcomes es).length
  usage : IsSum ((finalizedAttempts es).map Prod.snd) total ↔ CountedOnce r (outcomes es)

variable {r : ClientRequest} {usage : UsageEventInput}

lemma Outcome.failed_of_retried (h : o.retried r earlier) : succeeded o.result = false := by
  unfold retried at h
  split at h
  · cases h
  · rename_i e heq
    rw [heq]
    rfl

lemma Counted.settled (hcounted : Counted r s es) : Settled r es (requestEstimate s) := by
  have hlength : (begunAttempts es).length = (outcomes es).length := by
    rw [← hcounted.attempts, length_map, ← length_map Prod.snd, hcounted.usages, length_map]
  refine ⟨hcounted.attempts, hlength, ?_⟩
  have hnone : resultUsage s.result = none := by
    have hfailed := hcounted.failed
    rcases hres : s.result with e | response
    · rfl
    · rw [hres] at hfailed
      cases hfailed
  rw [hcounted.usages]
  have hlast := hcounted.last
  have hprior := hcounted.prior
  unfold requestEstimate
  rw [hnone, hlast]
  rcases houtc : outcomes es with _ | ⟨o, earlier⟩
  · rw [houtc] at hprior
    rw [← isSum_default_cons]
    refine (isSum_merge_iff hprior _ _).trans ⟨fun _ => trivial, fun _ => ⟨?_, rfl, rfl⟩⟩
    intro c
    simp [countSum]
  · -- the usage of the last attempt is kept already, and its estimate is added
    rw [houtc] at hprior
    have hretr := hcounted.retried o earlier houtc
    rw [← isSum_default_cons]
    refine (isSum_merge_iff hprior _ _).trans ?_
    simp only [CountedOnce, failed_of_retried hretr, Bool.and_false, hretr]
    rfl

lemma StoppedAt.settled (hstopp : StoppedAt r s es o earlier sent)
    (hstr : (r.isStream && succeeded s.result) = false) : Settled r es (requestEstimate s) := by
  rw [hstopp.result] at hstr
  obtain ⟨hatt, husag⟩ := hstopp.complete hstr
  have hlength : (begunAttempts es).length = (outcomes es).length := by
    rw [← hatt, length_map, ← length_map Prod.snd, husag, length_map, hstopp.order]
  refine ⟨hatt, hlength, ?_⟩
  rw [husag, hstopp.order]
  have hadded : ((resultUsage s.result).map usageEstimateFromCharge).getD
      ((s.lastSent.map (·.estimate)).getD {}) = o.reportedEstimate r := by
    rw [hstopp.result, hstopp.last]
    exact congrArg _ hstopp.estimate
  unfold requestEstimate
  rw [hadded]
  refine (isSum_merge_iff hstopp.prior _ _).trans ?_
  simp only [CountedOnce, hstr, hstopp.retried]
  rfl

/-- The attempt whose response streams is the last thing the loop leaves. -/
lemma Tallied.streams (htall : Tallied r s es)
    (hstr : (r.isStream && succeeded s.result)) :
    ∃ o earlier sent, StoppedAt r s es o earlier sent := by
  rcases htall with hcounted | hstopp
  · rw [hcounted.failed, Bool.and_false] at hstr
    cases hstr
  · exact hstopp

lemma Tallied.settled (htall : Tallied r s es)
    (hstr : (r.isStream && succeeded s.result) = false) : Settled r es (requestEstimate s) := by
  rcases htall with hcounted | ⟨o, earlier, sent, hstopp⟩
  · exact hcounted.settled
  · exact hstopp.settled hstr

/-- A stream is finalized with one total for the attempt and the request. -/
lemma StoppedAt.settled_stream (hstopp : StoppedAt r s es o earlier sent)
    (hstr : (r.isStream && succeeded s.result))
    {outcome : LedgerOutcome} {added : UsageEstimate}
    (husage : usage.estimate = mergeUsageEstimates s.priorAttemptUsage added)
    (houtcome : outcome.estimate = usage.estimate) :
    Settled r (.requestFinalized request usage :: .attemptFinalized sent.ledgerAttempt outcome
      :: es) usage.estimate := by
  rw [hstopp.result] at hstr
  obtain ⟨hatt, husag⟩ := hstopp.streams hstr
  refine ⟨hatt, ?_, ?_⟩
  · change (begunAttempts es).length = (outcomes es).length
    rw [← hatt, hstopp.order, length_cons, length_cons, length_map,
      ← length_map Prod.snd, husag, length_map]
  · change IsSum (outcome.estimate :: (finalizedAttempts es).map Prod.snd) usage.estimate ↔
      CountedOnce r (outcomes es)
    rw [houtcome, husage, husag, isSum_self_iff hstopp.prior, hstopp.order]
    simp only [CountedOnce, hstr, if_true]

/-- What the loop leaves, for a request that has begun. -/
structure Worked (p : Prepared) (request : LedgerRequest) (s : LoopState) (es : List Effect) :
    Prop where
  tallied : Tallied p.request s es
  begun : begunRequests es = [request]
  open_ : finalizedRequests es = []
  spawned : Effect.unspawned ∉ es

/-- How a run ends for a request that has passed the edge. -/
inductive Ended (ext : Externals) (p : Prepared) : List Effect → Prop where
  /-- refused before it has begun -/
  | refused {es : List Effect} (hcnt : OnlyCounts p.request p.resolved [] es) : Ended ext p es
  /-- finalized at the end of the handler -/
  | finalized {request : LedgerRequest} {s : LoopState} {es : List Effect}
      {usage : UsageEventInput} (hwork : Worked p request s es)
      (hstr : (p.request.isStream && succeeded s.result) = false)
      (husage : usage.estimate = requestEstimate s) :
      Ended ext p (.requestFinalized request usage :: es)
  /-- the response streams, but its headers cannot be written -/
  | unheaded {request : LedgerRequest} {s : LoopState} {es : List Effect} {o : Outcome}
      {earlier : List Outcome} {sent : SentAttempt} {latency : ℕ} {observed : Lifecycle}
      {firstByte : Option ℕ} {e : AppError} (hwork : Worked p request s es)
      (hstopp : StoppedAt p.request s es o earlier sent)
      (hstr : (p.request.isStream && succeeded s.result))
      (hhead : attachRoutingResponseHeaders ext.headerValueOk p
        (requestUsage p s latency observed firstByte) = .error e) : Ended ext p es
  /-- finalized with the stream, if there is a runtime -/
  | streamed {request : LedgerRequest} {s : LoopState} {es es' : List Effect} {o : Outcome}
      {earlier : List Outcome} {sent : SentAttempt} {latency : ℕ} {observed : Lifecycle}
      {firstByte : Option ℕ} (hwork : Worked p request s es)
      (hstopp : StoppedAt p.request s es o earlier sent)
      (hstr : (p.request.isStream && succeeded s.result))
      (hhead : attachRoutingResponseHeaders ext.headerValueOk p
        (requestUsage p s latency observed firstByte) = .ok ())
      (hend : StreamSpec (streamContext p request s (requestUsage p s latency observed firstByte)
        sent) es es') : Ended ext p es'

/-- **How a run ends.** -/
lemma serve_ends (ext : Externals) (snapshot : Snapshot) (headers : Headers) (r : ClientRequest) :
    Ensures (fun _ h' => effects h' = [] ∨
        ∃ p, prepare ext snapshot headers r = .ok p ∧ Ended ext p (effects h'))
      (serve ext snapshot headers r) [] := by
  have hexec : ∀ p, prepare ext snapshot headers r = .ok p → Ensures (fun exit h' =>
      ExecuteSpec ext p (Worked p) [] exit (effects h')) (execute ext p) [] := by
    intro p hp
    refine execute_spec ext (h := []) (I := fun request s es => Counted p.request s es ∧
      begunRequests es = [request] ∧ finalizedRequests es = [] ∧ Effect.unspawned ∉ es) ?_ ?_
    · intro request es hcnt _
      refine ⟨Counted.start hcnt, ?_⟩
      rcases hcnt with rfl | ⟨-, _, _, -, rfl⟩ <;> exact ⟨rfl, rfl, by simp [effects]⟩
    · rintro request s r es es' ⟨hcounted, hbegun, hopen, hspawned⟩ hround
      have hkept := hcounted.round hround
      obtain ⟨hbegun', hopen'⟩ := hround.requests
      rw [← hbegun'] at hbegun
      rw [← hopen'] at hopen
      have hspawned' : Effect.unspawned ∉ es' := by
        intro hmem
        rcases hround.mem hmem with hmem | ⟨_, _, _, _, _, _, _, he | he | ⟨_, he⟩⟩
        · exact hspawned hmem
        all_goals cases he
      split_ifs at hkept ⊢ <;> exact ⟨hkept, hbegun, hopen, hspawned'⟩
  refine (serve_spec ext snapshot headers r hexec).mono fun exit h' hserve => ?_
  rcases hserve with ⟨e, -, -, heff⟩ | ⟨p, es, hp, hexit, hend⟩
  · exact .inl heff
  refine .inr ⟨p, hp, ?_⟩
  rcases hexit with ⟨e, rfl, hcnt⟩ | ⟨request, s, latency, observed, firstByte, es0, hwork, hresp⟩
  · rw [← hend] at hcnt
    exact .refused hcnt
  unfold RespondSpec at hresp
  by_cases hstr : (p.request.isStream && succeeded s.result)
  · rw [if_pos hstr] at hresp
    obtain ⟨rfl, hexit⟩ := hresp
    obtain ⟨o, earlier, sent, hstopp⟩ := hwork.tallied.streams hstr
    rw [hstopp.last] at hexit
    rcases hhead : attachRoutingResponseHeaders ext.headerValueOk p
      (requestUsage p s latency observed firstByte) with e | u
    · simp only [hhead] at hexit
      subst hexit
      rw [show effects h' = es from hend]
      exact .unheaded hwork hstopp hstr hhead
    · simp only [hhead] at hexit
      subst hexit
      exact .streamed hwork hstopp hstr hhead hend
  · rw [if_neg hstr] at hresp
    have hnot := Bool.eq_false_of_not_eq_true hstr
    obtain ⟨rfl, hexit⟩ := hresp
    have heff : effects h' = .requestFinalized request
        (requestUsage p s latency observed firstByte) :: es0 := by
      rcases hhead : attachRoutingResponseHeaders ext.headerValueOk p
        (requestUsage p s latency observed firstByte) with e | u <;>
        simp only [hhead] at hexit <;> subst hexit <;> exact hend
    rw [heff]
    exact .finalized hwork hnot rfl

/-- The request is finalized once. -/
lemma mem_finalizedRequests (hopen : finalizedRequests es = []) {request' : LedgerRequest}
    (hmem : (request, total) ∈ finalizedRequests (.requestFinalized request' usage :: es)) :
    total = usage.estimate := by
  have hmem : (request, total) ∈ (request', usage.estimate) :: finalizedRequests es := hmem
  rw [hopen, mem_singleton] at hmem
  exact congrArg Prod.snd hmem

/-- **Request and attempts.** Whatever the outcomes of the attempts are, each attempt that was sent
is finalized once; and the usage that the request is finalized with is the sum of the usages of
its attempts exactly if the sequence of outcomes is one of `CountedOnce`. -/
theorem request_usage_is_sum_iff (ext : Externals) (snapshot : Snapshot) (headers : Headers)
    (r : ClientRequest) (world : History → (op : Op) → op.Reply) (request : LedgerRequest)
    (total : UsageEstimate) (hfinalized : (request, total) ∈
      finalizedRequests (effects ((serve ext snapshot headers r).run world []).2)) :
    Settled r (effects ((serve ext snapshot headers r).run world []).2) total := by
  rcases (serve_ends ext snapshot headers r).run world with hnone | ⟨p, hp, hended⟩
  · rw [hnone] at hfinalized
    cases hfinalized
  obtain rfl := (prepare_ok hp).requested
  generalize effects ((serve ext snapshot headers p.request).run world []).2 = es' at *
  cases hended with
  | refused hcnt =>
    rcases hcnt with rfl | ⟨-, _, _, -, rfl⟩ <;> cases hfinalized
  | @finalized ledgerRequest s es usage hwork hstr husage =>
    have htotal := mem_finalizedRequests hwork.open_ hfinalized
    have hset := hwork.tallied.settled hstr
    rw [← husage, ← htotal] at hset
    exact ⟨hset.attempts, hset.sent, hset.usage⟩
  | unheaded hwork hstopp hstr hhead =>
    rw [hwork.open_] at hfinalized
    cases hfinalized
  | @streamed ledgerRequest s es _ o earlier sent latency observed firstByte hwork hstopp
      hstr hhead hend =>
      rcases hend with ⟨cost, reported, final, latency', hfinal, rfl⟩ | rfl
      · have hopen := hwork.open_
        have htotal := mem_finalizedRequests hopen hfinalized
        -- the usage of a stream is the kept usage and something more
        obtain ⟨added, hadded⟩ : ∃ added, ((streamContext p ledgerRequest s (requestUsage p s
            latency observed firstByte) sent).reported cost reported).estimate =
              mergeUsageEstimates s.priorAttemptUsage added := by
          unfold StreamFinalizationContext.reported
          split <;> exact ⟨_, rfl⟩
        rw [htotal]
        exact hstopp.settled_stream hstr (hfinal.trans hadded) rfl
      · have hnone : finalizedRequests (.unspawned :: es) = [] := hwork.open_
        rw [hnone] at hfinalized
        cases hfinalized

/-- A request that a second provider answers. -/
theorem request_usage_is_sum_iff_answered :
    let es := Sample.effectsOf [⟨"spare", Sample.provider "https://spare.example", "model"⟩,
      Sample.main] Sample.clientRequest fun target =>
        if target.providerId = "main" then .ok ⟨200, none⟩ else .error (.transport "refused")
    (finalizedAttempts es).map (·.2.outputTokens) = [4096, 4096] ∧
      ∃ request total, (request, total) ∈ finalizedRequests es ∧
        Settled Sample.clientRequest es total := by
  intro es
  have hne : finalizedRequests es ≠ [] := by decide +kernel
  obtain ⟨⟨request, total⟩, hmem⟩ := exists_mem_of_ne_nil _ hne
  refine ⟨by decide +kernel, request, total, hmem, ?_⟩
  exact request_usage_is_sum_iff _ _ _ _ _ request total hmem

/-- **A failed attempt is counted twice.** The only attempt fails, and the loop keeps its usage
for a retry that no provider is left for. -/
theorem failed_attempt_counted_twice :
    let es := Sample.effectsOf [Sample.main] Sample.clientRequest fun _ =>
      .error (.transport "connection refused")
    (finalizedAttempts es).map (·.2.outputTokens) = [4096] ∧
      (finalizedRequests es).map (·.2.outputTokens) = [8192] ∧
      ∃ request total, (request, total) ∈ finalizedRequests es ∧
        ¬ IsSum ((finalizedAttempts es).map Prod.snd) total := by
  intro es
  have hatt : (finalizedAttempts es).map (·.2.outputTokens) = [4096] := by decide +kernel
  have hreq : (finalizedRequests es).map (·.2.outputTokens) = [8192] := by decide +kernel
  refine ⟨hatt, hreq, ?_⟩
  obtain ⟨⟨request, total⟩, hmem, htotal⟩ := mem_map.1
    (hreq ▸ mem_singleton_self 8192 :
      8192 ∈ (finalizedRequests es).map (·.2.outputTokens))
  refine ⟨request, total, hmem, fun hsum => ?_⟩
  have hcount : total.outputTokens = ((finalizedAttempts es).map (·.2.outputTokens)).sum :=
    hsum.count .output
  rw [hatt, htotal] at hcount
  exact absurd hcount (by decide)

end Gateway

end ModelPort
