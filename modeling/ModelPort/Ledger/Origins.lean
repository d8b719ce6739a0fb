import ModelPort.Ledger.UsageChange

/-!
# Where rows come from

What a request or a usage reservation was begun with is written once: its ids, its tenant, its
metadata, its scope. Afterwards no call changes it.
-/

namespace ModelPort

open Relational Transaction

namespace Ledger

/-- The origins of requests. -/
abbrev RequestOrigin := String × TenantKey × LedgerRequestMetadata × String × Timestamp

/-- The origins of usage reservations. -/
abbrev UsageOrigin := TenantKey × String × Option String × Option String × String × Timestamp

/-- Every row after the write has the origin of a row before it, or one that `C` or `U` allow. -/
structure Originates (C : RequestOrigin → Prop) (U : UsageOrigin → Prop) (w : Ledger → Ledger) :
    Prop where
  requests : ∀ d, ∀ r ∈ (w d).requests.rows, C (requestOrigin r) ∨
    ∃ r0 ∈ d.requests.rows, requestOrigin r0 = requestOrigin r
  usage : ∀ d, ∀ u ∈ (w d).usage.rows, U (usageOrigin u) ∨
    ∃ u0 ∈ d.usage.rows, usageOrigin u0 = usageOrigin u

namespace Originates

variable {C C' : RequestOrigin → Prop} {U U' : UsageOrigin → Prop} {v w : Ledger → Ledger}

lemma of_aside (h : Aside w) : Originates C U w where
  requests d r hr := .inr ⟨r, by rwa [(h d).1] at hr, rfl⟩
  usage d u hu := .inr ⟨u, by rwa [(h d).2] at hu, rfl⟩

lemma refl : Originates C U id := of_aside fun _ => ⟨rfl, rfl⟩

lemma mono (hC : ∀ o, C o → C' o) (hU : ∀ o, U o → U' o) (h : Originates C U w) :
    Originates C' U' w where
  requests d r hr := (h.requests d r hr).imp_left (hC _)
  usage d u hu := (h.usage d u hu).imp_left (hU _)

lemma comp (hv : Originates C U v) (hw : Originates C U w) : Originates C U (w ∘ v) where
  requests d r hr := by
    rcases hw.requests (v d) r hr with hC | ⟨r1, hr1, horig⟩
    · exact .inl hC
    · rw [← horig]
      exact hv.requests d r1 hr1
  usage d u hu := by
    rcases hw.usage (v d) u hu with hU | ⟨u1, hu1, horig⟩
    · exact .inl hU
    · rw [← horig]
      exact hv.usage d u1 hu1

lemma budgetWrites : BudgetWrites (Originates C U) where
  idle := refl
  attempts _ := of_aside fun _ => ⟨rfl, rfl⟩
  accounts _ := of_aside fun _ => ⟨rfl, rfl⟩
  reservations _ := of_aside fun _ => ⟨rfl, rfl⟩
  event _ := of_aside fun _ => ⟨rfl, rfl⟩

lemma updateRequests {q : RequestRow → Bool} {f : RequestRow → RequestRow}
    {hf : ∀ r, (f r).keys = r.keys} (horig : ∀ r, requestOrigin (f r) = requestOrigin r) :
    Originates C U fun d => d.setRequests (d.requests.update q f hf) where
  requests d r hr := by
    obtain ⟨s, hs, rfl⟩ := (Table.mem_update hf).1 hr
    exact Or.inr ⟨s, hs, (Table.apply_assign horig s).symm⟩
  usage d u hu := .inr ⟨u, hu, rfl⟩

lemma updateUsage {q : UsageRow → Bool} {f : UsageRow → UsageRow}
    {hf : ∀ u, (f u).keys = u.keys} (horig : ∀ u, usageOrigin (f u) = usageOrigin u) :
    Originates C U fun d => d.setUsage (d.usage.update q f hf) where
  requests d r hr := Or.inr ⟨r, hr, rfl⟩
  usage d u hu := by
    obtain ⟨v, hv, rfl⟩ := (Table.mem_update hf).1 hu
    exact Or.inr ⟨v, hv, (Table.apply_assign horig v).symm⟩

lemma insertRequest {row : RequestRow} (hrow : C (requestOrigin row)) :
    Originates C U fun d => d.setRequests (d.requests.insert row) where
  requests d r hr := by
    rcases Table.mem_insert hr with rfl | hr
    · exact .inl hrow
    · exact .inr ⟨r, hr, rfl⟩
  usage d u hu := .inr ⟨u, hu, rfl⟩

lemma insertUsage {row : UsageRow} (hrow : U (usageOrigin row)) :
    Originates C U fun d => d.setUsage (d.usage.insert row) where
  requests d r hr := Or.inr ⟨r, hr, rfl⟩
  usage d u hu := by
    rcases Table.mem_insert hu with rfl | hu
    · exact .inl hrow
    · exact .inr ⟨u, hu, rfl⟩

end Originates

/-! ### Calls -/

/-- The origins of the rows a call begun at `now` may insert are among some given ones. -/
def Call.Brings (C : RequestOrigin → Prop) (U : UsageOrigin → Prop) (now : Timestamp) :
    Call → Prop
  | .beginRequest b => C (b.ledgerId, b.tenant, b.metadata, b.principalId, now)
  | .beginAttempt b => reservesUsage b.usagePolicy →
      U (b.request.tenant, b.request.ledgerId, effectiveQuotaSubject b.usagePolicy,
        b.usagePolicy.teamId, b.usagePolicy.userId, now)
  | _ => True

section

variable {C : RequestOrigin → Prop} {U : UsageOrigin → Prop} {now : Timestamp}

lemma originates_reserveUsageCapacity {b : BeginAttempt} (h : reservesUsage b.usagePolicy →
      U (b.request.tenant, b.request.ledgerId, effectiveQuotaSubject b.usagePolicy,
        b.usagePolicy.teamId, b.usagePolicy.userId, now)) :
    (reserveUsageCapacity b.request b.usagePolicy b.estimate now).All
      fun _ st => st.Writes (Originates C U) := by
  refine reserveUsageCapacity_writes .refl (fun _ _ => ?_) (fun hres _ => ?_) _
  · exact .updateUsage fun _ => rfl
  · exact .insertUsage (h hres)

/-- **Every call writes rows of known origin.** -/
lemma Call.originates (sha : String → String) {call : Call} (h : call.Brings C U now) :
    (call.program sha now).All fun _ st => st.Writes (Originates C U) := by
  cases call with
  | beginRequest b =>
    refine .bind (beginRequest_writes .refl (fun _ => .of_aside fun _ => ⟨rfl, rfl⟩)
      (.insertRequest h) fun _ => .of_aside fun _ => ⟨rfl, rfl⟩) fun _ => Txn.all_done _
  | beginAttempt b =>
    exact Txn.All.bind (Originates.budgetWrites.beginAttempt (originates_reserveUsageCapacity h))
      fun _ => Txn.all_done _
  | finalizeAttempt attempt outcome =>
    exact Originates.budgetWrites.finalizeAttempt attempt outcome
  | finalizeRequest request outcome snapshot =>
    exact finalizeRequestUsage_writes (fun _ => .updateRequests fun _ => rfl)
      (fun _ => .updateRequests fun _ => rfl) (fun _ => .updateUsage fun _ => rfl) request
  | renewLease request leaseTtl =>
    exact renewLease_writes (fun _ => .updateRequests fun _ => rfl)
      (fun _ => Originates.budgetWrites.attempts _) request
  | reconcileExpired =>
    exact .bind (Originates.budgetWrites.reconcileExpired
      (expireRequests_writes fun _ => .updateRequests fun _ => rfl)
      (releaseExpiredUsage_writes fun _ => .updateUsage fun _ => rfl)) fun _ => Txn.all_done _
  | updateBudget input => exact Originates.budgetWrites.updateBudget input
  | adjustBudget input actorId => exact Originates.budgetWrites.adjustBudget input actorId

end

end Ledger

end ModelPort
