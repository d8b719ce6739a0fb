import ModelPort.Governance.Run

/-!
# A high-risk change takes effect once

The check of a change request, its effect and the mark that it was applied are separate critical
sections. If no two applications of a change overlap, and none is cut off between its effect and its
mark, then every change takes effect at most once, after two administrators have approved it.

* `high_risk_change_applied_once`: so it is on every run.
* `overlapping_applications`: two applications that overlap bring an old policy back.
-/

namespace ModelPort.Governance

open Relational WriteThrough Runs
open List hiding take

/-! ### Conditions on a run -/

/-- The process has just read its document. -/
structure Loaded (sys : System) : Prop where
  pending : sys.pending = []
  memory : sys.store.memory = sys.store.document
  revision : sys.store.revision = sys.store.documentRevision
  approvals : ∀ r ∈ sys.store.memory.changeRequests.rows, (r.approvals.map (·.actorId)).Nodup

/-- The id that is drawn for a change request is new. -/
def Event.Fresh (sys : System) : Event → Prop
  | .create _ _ uuid _ _ =>
    sys.store.memory.changeRequests.find ("chg_" ++ uuid) = none ∧
      sys.store.document.changeRequests.find ("chg_" ++ uuid) = none
  | _ => True

/-- The application is of this change. -/
def Pending.concerns (c : String) (p : Pending) : Bool := p.change = some c

/-- **The condition on an event**: an application begins when no other one of the same change is
under way; the answer to an update of a budget is not lost; the mark that follows it is saved; and
the process does not end before that. -/
def orderly (sys : System) : Event → Bool
  | .apply _ requestId => !sys.pending.any (·.concerns requestId)
  | .updateBudget _ header _ =>
    (header.map trim).all fun requestId => !sys.pending.any (·.concerns requestId)
  | .resume i _ write =>
    match sys.pending[i]? with
    | some (.updateBudget _ _ _) => write ≠ .unacknowledged
    | some (.markApplied _ _) =>
      write = .acknowledged && sys.store.documentRevision = sys.store.revision
    | _ => true
  | .restart => !sys.pending.any (·.isMark)
  | _ => true

/-! ### How far an application has got -/

/-- The change is marked as applied. -/
def marked (r : Option ChangeRequest) : Bool := r.any fun r => r.status = .applied

/-- How far the application of a change has got, and how often it has taken effect. -/
inductive Phase (c : String) (sys : System) : ℕ → Prop
  | waiting (hmemory : marked (sys.store.memory.changeRequests.find c) = false)
      (hdocument : marked (sys.store.document.changeRequests.find c) = false)
      (hpend : ∀ dual, .markApplied c dual ∉ sys.pending) : Phase c sys 0
  /-- the budget is updated, the mark is to come -/
  | marking (dual : Bool) (hpend : .markApplied c dual ∈ sys.pending) : Phase c sys 1
  | done (hmemory : marked (sys.store.memory.changeRequests.find c))
      (hdocument : marked (sys.store.document.changeRequests.find c)) : Phase c sys 1
  /-- the policy is in the document, but the process does not know -/
  | ahead {r : ChangeRequest} (hrevision : sys.store.documentRevision ≠ sys.store.revision)
      (hdocument : marked (sys.store.document.changeRequests.find c))
      (hmemory : sys.store.memory.changeRequests.find c = some r)
      (hact : r.action = "project_policy.upsert") : Phase c sys 1

/-- **The invariant** of a change that has taken effect `n` times. -/
structure Inv (c : String) (n : ℕ) (sys : System) : Prop where
  synced : sys.store.documentRevision = sys.store.revision →
    sys.store.memory.changeRequests = sys.store.document.changeRequests
  alone : sys.pending.countP (·.concerns c) ≤ 1
  ready : ∀ p ∈ sys.pending, p.change = some c →
    ∃ r, sys.store.memory.changeRequests.find c = some r ∧ Ready r p.action
  phase : Phase c sys n

variable {i n : ℕ} {sys : System} {c : String} {α : Type} {x : α} {l : List α}

lemma countP_eraseIdx (h : l[i]? = some x)
    (f : α → Bool) : l.countP f = (l.eraseIdx i).countP f + if f x then 1 else 0 := by
  obtain ⟨hi, rfl⟩ := List.getElem?_eq_some_iff.1 h
  rw [← (getElem_cons_eraseIdx_perm hi).countP_eq f, countP_cons]

lemma mem_eraseIdx_of_ne {y : α} (h : l[i]? = some x)
    (hy : y ∈ l) (hne : y ≠ x) : y ∈ l.eraseIdx i := by
  obtain ⟨hi, rfl⟩ := List.getElem?_eq_some_iff.1 h
  have hmem := (getElem_cons_eraseIdx_perm hi).mem_iff.2 hy
  exact (mem_cons.1 hmem).resolve_left hne

section

variable {env : GovernanceEnv} {sys : System} {e : Event} {c : String} {n now : ℕ} {write : Write}
  {r : ChangeRequest} {p : Pending} {new : Option ChangeRequest} {pending : List Pending}
  {policy : ProjectPolicy} {dual : Bool}

/-- Of what is under way, a phase reads only the marks; it reads no policies. -/
lemma Phase.congr (h : Phase c sys n)
    (hpend : ∀ dual, .markApplied c dual ∈ pending ↔ .markApplied c dual ∈ sys.pending)
    (policies : Policies) (ledger : Ledger) :
    Phase c ⟨{ sys.store with memory.projectPolicies := policies }, ledger, pending⟩ n := by
  cases h with
  | waiting hm hd hp => exact .waiting hm hd fun dual => (hpend dual).not.2 (hp dual)
  | marking dual hp => exact .marking dual ((hpend dual).2 hp)
  | done hm hd => exact .done hm hd
  | ahead hrev hd hm ha => exact .ahead hrev hd hm ha

lemma Inv.congr {sys' : System} (h : Inv c n sys) (hstore : sys'.store = sys.store)
    (hpend : sys'.pending = sys.pending) : Inv c n sys' := by
  obtain ⟨store, ledger, pending⟩ := sys
  obtain ⟨store', ledger', pending'⟩ := sys'
  obtain rfl : store' = store := hstore
  obtain rfl : pending' = pending := hpend
  exact ⟨h.synced, h.alone, h.ready, h.phase.congr (fun _ => .rfl) _ _⟩

lemma Loaded.inv (h : Loaded sys) (c : String) :
    Inv c (if marked (sys.store.memory.changeRequests.find c) then 1 else 0) sys where
  synced _ := by rw [h.memory]
  alone := by simp [h.pending]
  ready p hp := by simp [h.pending] at hp
  phase := by
    split
    · rename_i hmarked
      exact .done hmarked (h.memory ▸ hmarked)
    · rename_i hmarked
      have hfalse : marked (sys.store.memory.changeRequests.find c) = false := by
        simpa using hmarked
      exact .waiting hfalse (h.memory ▸ hfalse) (by simp [h.pending])

/-! ### Events that do not apply the change -/

/-- The change stays marked or not, and as ready as it was. -/
structure Harmless (old new : Option ChangeRequest) : Prop where
  marked_eq : marked new = marked old
  kept : ∀ r, old = some r → ∃ r', new = some r' ∧ r'.action = r.action ∧
    (r.status = .approved → r'.status = .approved) ∧ r.approvals.length ≤ r'.approvals.length

lemma Harmless.refl (old : Option ChangeRequest) : Harmless old old :=
  ⟨rfl, fun r hr => ⟨r, hr, rfl, id, le_rfl⟩⟩

/-- The event does not mark the change. -/
def Bystander (sys : System) (e : Event) (c : String) : Prop :=
  ∀ p write, e.Resumes sys p write →
    (∀ policy, p ≠ .writePolicy c policy) ∧ ∀ dual, p ≠ .markApplied c dual

lemma Fate.harmless (hfresh : e.Fresh sys) (hother : Bystander sys e c)
    (h : Fate sys e c (sys.store.memory.changeRequests.find c) new) :
    Harmless (sys.store.memory.changeRequests.find c) new := by
  generalize hold : sys.store.memory.changeRequests.find c = old at h
  cases h with
  | same => exact .refl _
  | created a happr hnew hstat happrovals =>
    obtain ⟨actor, input, uuid, now, write, rfl, rfl⟩ := hnew
    rw [hfresh.1] at hold
    subst hold
    exact ⟨by simp [marked, hstat], nofun⟩
  | approved a name now happr hstat hnew =>
    refine ⟨by simp [marked, ChangeRequest.approve, hstat], fun r hr => ?_⟩
    obtain rfl := Option.some.inj hr
    exact ⟨_, rfl, rfl, fun _ => rfl, by simp [ChangeRequest.approve]⟩
  | applied now p write hres hp =>
    obtain ⟨hpol, hmark⟩ := hother p write hres
    rcases hp with ⟨policy, rfl⟩ | ⟨dual, rfl⟩
    · exact absurd rfl (hpol policy)
    · exact absurd rfl (hmark dual)

/-- A save by another request. -/
lemma Inv.saved {store : GovernanceStore} {next : GovernanceDocument}
    (h : Inv c n sys) (hsaved : sys.store.Saved id write next store)
    (hkeep : Harmless (sys.store.memory.changeRequests.find c) (next.changeRequests.find c)) :
    Inv c n { sys with store := store } := by
  cases hsaved with
  | failed => exact h
  | acknowledged hrev =>
    refine ⟨fun _ => rfl, h.alone, fun p hp hc => ?_, ?_⟩
    · obtain ⟨r, hr, hready⟩ := h.ready p hp hc
      obtain ⟨r', hr', hact, hstat, hlength⟩ := hkeep.kept r hr
      exact ⟨r', hr', hstat hready.status, hready.approvals.trans hlength, hact.trans hready.action⟩
    · cases h.phase with
      | waiting hm hd hp =>
        exact .waiting (hkeep.marked_eq.trans hm) (hkeep.marked_eq.trans hm) hp
      | marking dual hp => exact .marking dual hp
      | done hm hd => exact .done (hkeep.marked_eq.trans hm) (hkeep.marked_eq.trans hm)
      | ahead hne => exact absurd hrev hne
  | unacknowledged hrev =>
    have hout : sys.store.documentRevision + 1 ≠ sys.store.revision := by omega
    refine ⟨fun hin => absurd hin hout, h.alone, h.ready, ?_⟩
    cases h.phase with
    | waiting hm hd hp => exact .waiting hm (hkeep.marked_eq.trans hm) hp
    | marking dual hp => exact .marking dual hp
    | done hm hd => exact .done hm (hkeep.marked_eq.trans hm)
    | ahead hne => exact absurd hrev hne

/-- What another event does to the store is harmless. -/
lemma Inv.bystander (env : GovernanceEnv) (h : Inv c n sys) (hfresh : e.Fresh sys)
    (hother : Bystander sys e c) (hrest : e ≠ .restart) :
    Inv c n { sys with store := (sys.next env e).store } := by
  have hstep := storeStep_next env sys e
  generalize (sys.next env e).store = store at hstep
  cases hstep with
  | same => exact h
  | stray requestId policy write hres hunknown =>
    exact ⟨h.synced, h.alone, h.ready, h.phase.congr (fun _ => .rfl) _ _⟩
  | saved write next hsaved hfate => exact h.saved hsaved ((hfate c).harmless hfresh hother)
  | reload he => exact absurd he hrest

/-! ### Applications under way -/

lemma countP_concerns : pending.countP (·.concerns c) = 0 ↔ ∀ p ∈ pending, p.change ≠ some c := by
  simp [Pending.concerns]

section

variable (h : Inv c n sys)

include h

/-- An application ends, or goes on elsewhere, before a mark is due. -/
lemma Inv.drop (hp : sys.pending[i]? = some p)
    (hmark : ∀ dual, p ≠ .markApplied c dual) : Inv c n (sys.take i) := by
  refine ⟨h.synced, (Nat.le.intro (countP_eraseIdx hp _).symm).trans h.alone, fun q hq hc => ?_, ?_⟩
  · exact h.ready q (mem_of_mem_eraseIdx hq) hc
  · refine h.phase.congr (fun dual => ⟨mem_of_mem_eraseIdx, fun hq => ?_⟩) _ _
    exact mem_eraseIdx_of_ne hp hq (hmark dual).symm

/-- Applications begin or go on, and none of them is a mark of the change. -/
lemma Inv.append {qs : List Pending} (hmark : ∀ dual, .markApplied c dual ∉ qs)
    (hqs : ∀ q ∈ qs, q.change = some c → qs = [q] ∧ (∀ p ∈ sys.pending, p.change ≠ some c) ∧
      ∃ r, sys.store.memory.changeRequests.find c = some r ∧ Ready r q.action) :
    Inv c n { sys with pending := sys.pending ++ qs } := by
  refine ⟨h.synced, ?_, fun p hp hc => ?_, h.phase.congr (fun dual => ?_) _ _⟩
  · rw [countP_append]
    by_cases hnone : qs.countP (·.concerns c) = 0
    · rw [hnone]
      exact h.alone
    · obtain ⟨q, hq, hc⟩ := countP_pos_iff.1 (Nat.pos_of_ne_zero hnone)
      obtain ⟨rfl, hfree, -⟩ := hqs q hq (of_decide_eq_true hc)
      rw [countP_concerns.2 hfree, Nat.zero_add]
      exact countP_le_length
  · rcases mem_append.1 hp with hp | hp
    · exact h.ready p hp hc
    · exact (hqs p hp hc).2.2
  · rw [mem_append, or_iff_left (hmark dual)]

/-- No other application of the change is under way. -/
lemma Inv.alone_of_getElem? (hp : sys.pending[i]? = some p) (hc : p.change = some c) :
    ∀ q ∈ sys.pending.eraseIdx i, q.change ≠ some c := by
  have hcount := countP_eraseIdx hp (·.concerns c)
  have halone := h.alone
  have hself : p.concerns c := decide_eq_true hc
  rw [if_pos hself] at hcount
  exact countP_concerns.1 (by omega)

/-- A change that is about to take effect has not done so before. -/
lemma Inv.waiting_of_getElem? (hp : sys.pending[i]? = some p) (hc : p.change = some c)
    (hmark : ∀ dual, p ≠ .markApplied c dual) (hcurr : p.action = "project_policy.upsert" →
      sys.store.documentRevision = sys.store.revision) : n = 0 := by
  obtain ⟨r, hr, hready⟩ := h.ready p (mem_of_getElem? hp) hc
  cases h.phase with
  | waiting => rfl
  | marking dual hmem =>
    have hother := mem_eraseIdx_of_ne hp hmem (hmark dual).symm
    exact absurd rfl (h.alone_of_getElem? hp hc _ hother)
  | done hm => simp [marked, hr, hready.status] at hm
  | ahead hrev hd hm ha =>
    rw [hr] at hm
    obtain rfl := Option.some.inj hm
    exact absurd (hcurr (hready.action.symm.trans ha)) hrev

end

/-! ### Sections of an application -/

/-- How often the change takes effect in an event. -/
def System.effectOn (sys : System) (e : Event) (c : String) : ℕ := (sys.effect e).toList.count c

open Governance.System

lemma System.effectOn_of_none (h : sys.effect e = none) : sys.effectOn e c = 0 := by
  simp [effectOn, h]

lemma System.effectOn_self (h : sys.effect e = some c) : sys.effectOn e c = 1 := by
  simp [effectOn, h]

lemma Inv.resume_other (h : Inv c n sys) (hp : sys.pending[i]? = some p) (hc : p.change ≠ some c) :
    Inv c (n + sys.effectOn (.resume i now write) c) (sys.next env (.resume i now write)) := by
  have hzero : sys.effectOn (.resume i now write) c = 0 := by
    rw [effectOn, count_eq_zero, Option.mem_toList]
    exact fun heff => hc (change_of_effect hp heff)
  have hother : Bystander sys (.resume i now write) c := by
    rintro q w ⟨j, now', heq, hq⟩
    cases heq
    obtain rfl : q = p := Option.some.inj (hq.symm.trans hp)
    exact ⟨fun policy hq => hc (hq ▸ rfl), fun dual hq => hc (hq ▸ rfl)⟩
  have hmark : ∀ dual, p ≠ .markApplied c dual := fun dual hq => hc (hq ▸ rfl)
  have hstore := h.bystander env (e := .resume i now write) trivial hother (by simp)
  have hdrop : Inv c n { sys with
      store := (sys.next env (.resume i now write)).store
      pending := sys.pending.eraseIdx i } :=
    hstore.drop hp hmark
  rw [hzero]
  have hfoll : ∀ q ∈ sys.followUp env p now write, q.change ≠ some c := fun q hq => by
    rw [change_followUp hq]
    exact hc
  have hnext := hdrop.append (fun dual hq => hfoll _ hq rfl) fun q hq hc' =>
    absurd hc' (hfoll q hq)
  refine hnext.congr rfl ?_
  rw [next_resume hp, pending_advance]

lemma Inv.resume_applyPolicy {actorId : String} (h : Inv c n sys)
    (hp : sys.pending[i]? = some (.applyPolicy c actorId)) :
    Inv c (n + sys.effectOn (.resume i now write) c) (sys.next env (.resume i now write)) := by
  have hzero : sys.effectOn (.resume i now write) c = 0 :=
    effectOn_of_none (by simp only [System.effect, hp])
  rw [hzero]
  have hdrop : Inv c n (sys.take i) := h.drop hp (by simp)
  rw [next_resume hp]
  simp only [advance]
  cases policyToApply env c actorId now (sys.take i).store.memory with
  | error => exact hdrop
  | ok policy =>
    refine hdrop.append (by simp) fun q hq _ => ?_
    obtain rfl := mem_singleton.1 hq
    exact ⟨rfl, h.alone_of_getElem? hp rfl,
      h.ready (.applyPolicy c actorId) (mem_of_getElem? hp) rfl⟩

lemma marked_put (requests : ChangeRequests) (r : ChangeRequest) (now : ℕ) :
    marked ((requests.put (r.markApplied now)).find r.id) := by
  rw [Table.find_put_single]
  simp [marked, ChangeRequest.markApplied]

/-- The document in which a policy is written. -/
def GovernanceDocument.apply (doc : GovernanceDocument) (r : ChangeRequest)
    (policy : ProjectPolicy) (now : ℕ) : GovernanceDocument where
  projectPolicies := doc.projectPolicies.put policy
  changeRequests := doc.changeRequests.put (r.markApplied now)

lemma next_writePolicy (env : GovernanceEnv) (now : ℕ) (write : Write)
    (hp : sys.pending[i]? = some (.writePolicy c policy))
    (hr : sys.store.memory.changeRequests.find c = some r) :
    ∃ store, sys.store.Saved id write (sys.store.memory.apply r policy now) store ∧
      sys.next env (.resume i now write) = { sys.take i with store := store } := by
  refine ⟨_, Cell.commit_save saveError write sys.store _ (.ok policy), ?_⟩
  rw [next_resume hp]
  simp only [advance, Governance.writePolicy, take, hr]
  rfl

lemma Inv.resume_writePolicy
    (h : Inv c n sys) (hp : sys.pending[i]? = some (.writePolicy c policy)) :
    Inv c (n + sys.effectOn (.resume i now write) c) (sys.next env (.resume i now write)) := by
  obtain ⟨r, hr, hready⟩ := h.ready _ (mem_of_getElem? hp) rfl
  obtain ⟨-, rfl⟩ := find_change_eq_some.1 hr
  have hdrop : Inv r.id n (sys.take i) := h.drop hp (by simp)
  have hempty := h.alone_of_getElem? hp rfl
  have heff : sys.effect (.resume i now write)
      = if sys.saves write then some r.id else none := by
    simp [System.effect, hp, hr]
  have hfirst : sys.store.documentRevision = sys.store.revision → write ≠ .refused →
      n + sys.effectOn (.resume i now write) r.id = 1 := by
    intro hrev hwrite
    rw [h.waiting_of_getElem? hp rfl (by simp) fun _ => hrev, effectOn_self]
    rw [heff]
    simp [saves, hrev, hwrite]
  have hmarked := marked_put sys.store.memory.changeRequests r now
  obtain ⟨store, hsaved, hnext⟩ := next_writePolicy env now write hp hr
  rw [hnext]
  cases hsaved with
  | failed hfail =>
    have hnone : sys.effect (.resume i now write) = none := by
      rcases hfail with hrev | rfl <;> simp [saves, *]
    rw [effectOn_of_none hnone]
    exact hdrop
  | acknowledged hrev hwrite =>
    rw [hfirst hrev (by simp [hwrite])]
    exact ⟨fun _ => rfl, hdrop.alone, fun q hq hc => absurd hc (hempty q hq), .done hmarked hmarked⟩
  | unacknowledged hrev hwrite =>
    have hout : sys.store.documentRevision + 1 ≠ sys.store.revision := by omega
    rw [hfirst hrev (by simp [hwrite])]
    exact ⟨fun hin => absurd hin hout, hdrop.alone, fun q hq hc => absurd hc (hempty q hq),
      .ahead hout hmarked hr hready.action⟩

lemma Inv.resume_updateBudget {update : Ledger.EnterpriseBudgetUpdate} (h : Inv c n sys)
    (hp : sys.pending[i]? = some (.updateBudget (some c) update dual))
    (hwrite : write ≠ .unacknowledged) :
    Inv c (n + sys.effectOn (.resume i now write) c) (sys.next env (.resume i now write)) := by
  have hdrop : Inv c n (sys.take i) := h.drop hp (by simp)
  have hempty := h.alone_of_getElem? hp rfl
  have heff : sys.effect (.resume i now write) =
      if write ≠ .refused ∧ ((Ledger.updateBudget update).run sys.ledger).isOk then some c
      else none := by
    simp only [System.effect, hp]
  have hstore : (sys.next env (.resume i now write)).store = sys.store := by
    rw [next_resume hp, advance, store_runUpdate]
    rfl
  have hpend : (sys.next env (.resume i now write)).pending = sys.pending.eraseIdx i ++
      if write = .acknowledged ∧ ((Ledger.updateBudget update).run sys.ledger).isOk then
        [.markApplied c dual] else [] := by
    rw [next_resume hp, advance, pending_runUpdate]
    rfl
  generalize ((Ledger.updateBudget update).run sys.ledger).isOk = ok at heff hpend
  by_cases hdone : write = .acknowledged ∧ ok
  · -- the budget is updated, and the mark is to come
    obtain ⟨rfl, rfl⟩ := hdone
    have hzero : n = 0 := h.waiting_of_getElem? hp rfl (by simp) (by simp [Pending.action])
    have hsome : sys.effect (.resume i now .acknowledged) = some c := by simp [heff]
    rw [effectOn_self hsome, hzero]
    simp only [and_self, if_true] at hpend
    refine ⟨?_, ?_, fun q hq hc => ?_, .marking dual ?_⟩
    · rw [hstore]
      exact h.synced
    · rw [hpend, countP_append, countP_concerns.2 hempty, Nat.zero_add]
      exact countP_le_length
    · rw [hstore]
      rw [hpend] at hq
      rcases mem_append.1 hq with hq | hq
      · exact absurd hc (hempty q hq)
      · obtain rfl := mem_singleton.1 hq
        exact h.ready (.updateBudget (some c) update dual) (mem_of_getElem? hp) rfl
    · rw [hpend]
      simp
  · have hnone : sys.effect (.resume i now write) = none := by
      rw [heff, if_neg]
      rintro ⟨href, hok⟩
      cases write with
      | acknowledged => exact hdone ⟨rfl, hok⟩
      | refused => exact href rfl
      | unacknowledged => exact hwrite rfl
    rw [effectOn_of_none hnone]
    rw [if_neg hdone, append_nil] at hpend
    exact hdrop.congr hstore hpend

lemma mayApply_of_ready {action : String} (h : Ready r action) (dual : Bool) : r.mayApply dual := by
  have hlength := h.approvals
  cases dual with
  | false =>
    have hone : 1 ≤ r.approvals.length := by omega
    simp [ChangeRequest.mayApply, h.status, hone]
  | true => simp [ChangeRequest.mayApply, h.status, hlength]

lemma Inv.resume_markApplied (h : Inv c n sys) (hp : sys.pending[i]? = some (.markApplied c dual))
    (hrev : sys.store.documentRevision = sys.store.revision) :
    Inv c (n + sys.effectOn (.resume i now .acknowledged) c)
      (sys.next env (.resume i now .acknowledged)) := by
  obtain ⟨r, hr, hready⟩ := h.ready _ (mem_of_getElem? hp) rfl
  obtain ⟨-, rfl⟩ := find_change_eq_some.1 hr
  have hempty := h.alone_of_getElem? hp rfl
  have hone : n = 1 := by
    cases h.phase with
    | waiting hm hd hno => exact absurd (mem_of_getElem? hp) (hno dual)
    | marking => rfl
    | done => rfl
    | ahead => rfl
  have hmarked := marked_put sys.store.memory.changeRequests r now
  have hchg := changeForApplication_eq_ok.2 ⟨hr, mayApply_of_ready hready dual⟩
  have hstore : (sys.next env (.resume i now .acknowledged)).store =
      ⟨{ sys.store.memory with
          changeRequests := sys.store.memory.changeRequests.put (r.markApplied now) },
        sys.store.revision + 1,
        { sys.store.memory with
          changeRequests := sys.store.memory.changeRequests.put (r.markApplied now) },
        sys.store.documentRevision + 1⟩ := by
    rw [next_resume hp]
    simp only [advance, take, markChangeAppliedForMode, hchg, save, commit, Cell.commit,
      Cell.save, hrev]
    rfl
  have hpend : (sys.next env (.resume i now .acknowledged)).pending
      = sys.pending.eraseIdx i := by
    rw [next_resume hp, pending_advance]
    simp [followUp]
  have hnone : sys.effect (.resume i now .acknowledged) = none := by
    simp only [System.effect, hp]
  rw [effectOn_of_none hnone, hone]
  refine ⟨fun _ => ?_, ?_, fun q hq hc => ?_, .done ?_ ?_⟩
  · rw [hstore]
  · rw [hpend]
    exact (Nat.le.intro (countP_eraseIdx hp _).symm).trans h.alone
  · rw [hpend] at hq
    exact absurd hc (hempty q hq)
  · rw [hstore]
    exact hmarked
  · rw [hstore]
    exact hmarked

/-! ### Events -/

/-- No other application of the change is under way when one begins. -/
lemma free_of_orderly (h : orderly sys e) {d : String} (hbeg : e.begins = some d) :
    sys.pending.any (·.concerns d) = false := by
  cases e with
  | apply actor requestId => simpa [orderly, Option.some.inj hbeg] using h
  | updateBudget actor header body =>
    simpa [orderly, show header.map trim = some d from hbeg] using h
  | _ => cases hbeg

lemma Inv.reload (h : Inv c n sys) (hmark : sys.pending.any (·.isMark) = false) :
    Inv c n sys.reload := by
  refine ⟨fun _ => rfl, Nat.zero_le _, fun p hp => (not_mem_nil hp).elim, ?_⟩
  cases h.phase with
  | waiting hm hd hp => exact .waiting hd hd fun dual => not_mem_nil
  | marking dual hp => exact absurd rfl (any_eq_false.1 hmark _ hp)
  | done hm hd => exact .done hd hd
  | ahead hrev hd hm ha => exact .done hd hd

/-- **An event keeps track** of how often the change has taken effect. -/
lemma Inv.next (hdual : env.requireDualApproval) (h : Inv c n sys) (hfresh : e.Fresh sys)
    (horderly : orderly sys e) : Inv c (n + sys.effectOn e c) (sys.next env e) := by
  by_cases hresume : ∃ i now write, e = .resume i now write
  · obtain ⟨i, now, write, rfl⟩ := hresume
    cases hp : sys.pending[i]? with
    | none =>
      have hnext : sys.next env (.resume i now write) = sys := by simp only [System.next, hp]
      rw [effectOn_of_none (by simp only [System.effect, hp]), hnext]
      exact h
    | some p =>
      by_cases hc : p.change = some c
      · cases p with
        | applyPolicy requestId actorId =>
          obtain rfl : requestId = c := Option.some.inj hc
          exact h.resume_applyPolicy hp
        | writePolicy requestId policy =>
          obtain rfl : requestId = c := Option.some.inj hc
          exact h.resume_writePolicy hp
        | updateBudget approval update dual =>
          obtain rfl : approval = some c := hc
          exact h.resume_updateBudget hp (by simpa [orderly, hp] using horderly)
        | markApplied requestId dual =>
          obtain rfl : requestId = c := Option.some.inj hc
          simp only [orderly, hp, Bool.and_eq_true, decide_eq_true_eq] at horderly
          obtain ⟨rfl, hrev⟩ := horderly
          exact h.resume_markApplied hp hrev
      · exact h.resume_other hp hc
  have heff : sys.effect e = none := by
    cases e with
    | resume i now write => exact absurd ⟨i, now, write, rfl⟩ hresume
    | _ => rfl
  rw [effectOn_of_none heff]
  by_cases hrest : e = .restart
  · subst hrest
    exact h.reload (by simpa [orderly] using horderly)
  have hstore := h.bystander env hfresh
    (by rintro p write ⟨i, now, he, -⟩; exact absurd ⟨i, now, write, he⟩ hresume) hrest
  have hagenda := agenda_next env sys e
  generalize hpend : (sys.next env e).pending = pending at hagenda
  cases hagenda with
  | same => exact hstore.congr rfl hpend
  | begun q hq hsame =>
    refine (h.append (fun dual hmark => ?_) fun q' hq' hc => ?_).congr hsame hpend
    · have hisMark := (hq.request c (mem_singleton.1 hmark ▸ rfl)).2.1
      rw [← mem_singleton.1 hmark] at hisMark
      cases hisMark
    · obtain rfl := mem_singleton.1 hq'
      obtain ⟨hbeg, -, r, hr, -, hready⟩ := hq.request c hc
      refine ⟨rfl, fun p hp => ?_, r, hr, hready hdual⟩
      have hfree := free_of_orderly horderly hbeg
      simpa [Pending.concerns] using any_eq_false.1 hfree p hp
  | resumed i p now write he => exact absurd ⟨i, now, write, he⟩ hresume
  | cleared he => exact absurd he hrest

/-! ### Approvals -/

/-- The approvals of a change are by different administrators of a set. -/
def Backed (A : String → Prop) (r : Option ChangeRequest) : Prop :=
  ∀ s, r = some s → (s.approvals.map (·.actorId)).Nodup ∧ ∀ a ∈ s.approvals.map (·.actorId), A a

variable {A A' : String → Prop}

lemma Backed.mono {r : Option ChangeRequest} (h : Backed A r) (hA : ∀ a, A a → A' a) :
    Backed A' r :=
  fun s hs => ⟨(h s hs).1, fun a ha => hA a ((h s hs).2 a ha)⟩

lemma Fate.backed {old : Option ChangeRequest} (h : Fate sys e c old new) (hold : Backed A old)
    (hA : ∀ a, A a → A' a) (hnew : ∀ a, e.Approves c a → A' a) : Backed A' new := by
  cases h with
  | same => exact hold.mono hA
  | created a happr hcreate hstat happrovals =>
    intro s hs
    obtain rfl := Option.some.inj hs
    rw [happrovals]
    exact ⟨nodup_singleton a, fun b hb => mem_singleton.1 hb ▸ hnew a happr⟩
  | @approved r a name now happr hstat hfresh =>
    intro s hs
    obtain rfl := Option.some.inj hs
    obtain ⟨hnodup, hall⟩ := hold r rfl
    simp only [ChangeRequest.approve, map_append, map_cons]
    refine ⟨nodup_append.2 ⟨hnodup, nodup_singleton a, ?_⟩, fun b hb => ?_⟩
    · rintro b hb d hd rfl
      exact hfresh (mem_singleton.1 hd ▸ hb)
    · rcases mem_append.1 hb with hb | hb
      · exact hA b (hall b hb)
      · exact mem_singleton.1 hb ▸ hnew a happr
  | @applied r now p write hres hp =>
    intro s hs
    obtain rfl := Option.some.inj hs
    exact hold.mono hA r rfl

/-- So it is in memory and in the document. -/
structure Vouched (A : String → Prop) (c : String) (sys : System) : Prop where
  memory : Backed A (sys.store.memory.changeRequests.find c)
  document : Backed A (sys.store.document.changeRequests.find c)

lemma Vouched.next (env : GovernanceEnv) (h : Vouched A c sys) (hA : ∀ a, A a → A' a)
    (hnew : ∀ a, e.Approves c a → A' a) : Vouched A' c (sys.next env e) := by
  have hstep := storeStep_next env sys e
  suffices hstore : Backed A' ((sys.next env e).store.memory.changeRequests.find c) ∧
      Backed A' ((sys.next env e).store.document.changeRequests.find c) from ⟨hstore.1, hstore.2⟩
  generalize (sys.next env e).store = store at hstep
  cases hstep with
  | same | stray => exact ⟨h.memory.mono hA, h.document.mono hA⟩
  | saved write next hsaved hfate =>
    have hback := (hfate c).backed h.memory hA hnew
    cases hsaved with
    | acknowledged => exact ⟨hback, hback⟩
    | unacknowledged => exact ⟨h.memory.mono hA, hback⟩
    | failed => exact ⟨h.memory.mono hA, h.document.mono hA⟩
  | reload => exact ⟨h.document.mono hA, h.document.mono hA⟩

lemma Backed.two (h : Backed A (some r)) (hlength : 2 ≤ r.approvals.length) :
    ∃ a b, a ≠ b ∧ A a ∧ A b := by
  obtain ⟨hnodup, hall⟩ := h r rfl
  match happrovals : r.approvals, hlength with
  | x :: y :: rest, _ =>
    rw [happrovals] at hnodup hall
    refine ⟨x.actorId, y.actorId, ?_, hall _ (by simp), hall _ (by simp)⟩
    simp only [map_cons, nodup_cons, mem_cons, not_or] at hnodup
    exact hnodup.1.1

/-! ### Policies and budgets change by effects only -/

/-- Every application is of a change, and the policies are those of the document. -/
structure Framed (sys : System) : Prop where
  identified : ∀ p ∈ sys.pending, p.change ≠ none
  policies : PoliciesSynced sys

lemma Framed.pending_next (hdual : env.requireDualApproval) (h : Framed sys) :
    ∀ p ∈ (sys.next env e).pending, p.change ≠ none := by
  have hagenda := agenda_next env sys e
  generalize (sys.next env e).pending = pending at hagenda
  intro q hq
  cases hagenda with
  | same => exact h.identified q hq
  | begun p hp =>
    rcases mem_append.1 hq with hq | hq
    · exact h.identified q hq
    · exact mem_singleton.1 hq ▸ hp.identified hdual
  | resumed i p now write he hp =>
    rcases mem_append.1 hq with hq | hq
    · exact h.identified q (mem_of_mem_eraseIdx hq)
    · rw [change_followUp hq]
      exact h.identified p (mem_of_getElem? hp)
  | cleared => cases hq

lemma Framed.document_policies (env : GovernanceEnv) (h : Framed sys)
    (heff : sys.effect e = none) :
    (sys.next env e).store.document.projectPolicies = sys.store.document.projectPolicies := by
  have hstep := storeStep_next env sys e
  generalize (sys.next env e).store = store at hstep
  cases hstep with
  | same => rfl
  | stray => rfl
  | saved write next hsaved hfate hpolicies =>
    have hkept : sys.store.documentRevision = sys.store.revision → write ≠ .refused →
        next.projectPolicies = sys.store.document.projectPolicies := by
      intro hrev hwrite
      generalize next.projectPolicies = policies at hpolicies
      cases hpolicies with
      | same => exact h.policies hrev
      | written requestId policy hres =>
        obtain ⟨i, now, rfl, hp⟩ := hres
        simp [System.effect, hp, saves, hrev, hwrite] at heff
    cases hsaved with
    | acknowledged hrev hwrite => exact hkept hrev (by simp [hwrite])
    | unacknowledged hrev hwrite => exact hkept hrev (by simp [hwrite])
    | failed => rfl
  | reload => rfl

lemma Framed.ledger (env : GovernanceEnv) (h : Framed sys) (heff : sys.effect e = none)
    (hledg : ∀ d, e ≠ .ledger d) : (sys.next env e).ledger = sys.ledger := by
  cases e with
  | create | approve =>
    simp only [System.next]
    split <;> rfl
  | apply actor requestId =>
    simp only [System.next]
    cases admitApplication env actor requestId sys.store.memory <;> rfl
  | updateBudget actor header body =>
    simp only [System.next]
    cases admitBudgetUpdate env actor header body sys.store.memory <;> rfl
  | ledger d => exact absurd rfl (hledg d)
  | restart => rfl
  | resume i now write =>
    cases hp : sys.pending[i]? with
    | none => simp only [System.next, hp]
    | some p =>
      rw [next_resume hp]
      cases p with
      | applyPolicy requestId actorId =>
        simp only [advance]
        cases policyToApply env requestId actorId now (sys.take i).store.memory <;> rfl
      | writePolicy requestId policy => rfl
      | updateBudget approval update dual =>
        rw [advance, ledger_runUpdate]
        · rfl
        · intro hdone
          simp only [take] at hdone
          simp only [System.effect, hp] at heff
          rw [if_pos hdone] at heff
          exact h.identified _ (mem_of_getElem? hp) heff
      | markApplied requestId dual => rfl

end

/-! ### Runs -/

/-- The administrator approved the change before the run or in it. -/
def Approver (start : System) (events : List Event) (c a : String) : Prop :=
  (∃ r, start.store.memory.changeRequests.find c = some r ∧ a ∈ r.approvals.map (·.actorId)) ∨
    ∃ e ∈ events, e.Approves c a

section

variable {env : GovernanceEnv} {start : System} {events : List Event}

lemma Loaded.vouched (h : Loaded start) (c : String) : Vouched (Approver start [] c) c start := by
  have hback : Backed (Approver start [] c) (start.store.memory.changeRequests.find c) :=
    fun s hs => ⟨h.approvals s (find_change_eq_some.1 hs).1, fun a ha => .inl ⟨s, hs, ha⟩⟩
  exact ⟨hback, h.memory ▸ hback⟩

lemma vouched_after (env : GovernanceEnv) (hstart : Loaded start) (events : List Event)
    (c : String) : Vouched (Approver start events c) c (after (System.next env) start events) := by
  induction events using List.reverseRecOn with
  | nil => exact hstart.vouched c
  | append_singleton events e ih =>
    rw [after_concat]
    refine ih.next env (fun a ha => ha.imp_right ?_) fun a ha => .inr ⟨e, by simp, ha⟩
    rintro ⟨d, hd, hda⟩
    exact ⟨d, by simp [hd], hda⟩

variable (hdual : env.requireDualApproval) (hstart : Loaded start)
  (hfresh : Throughout (System.next env) (fun sys e => e.Fresh sys) start events)
  (horderly : Throughout (System.next env) (fun sys e => orderly sys e) start events)

include hdual hstart hfresh horderly

lemma inv_after (c : String) :
    Inv c ((if marked (start.store.memory.changeRequests.find c) then 1 else 0)
      + (effects env start events).count c) (after (System.next env) start events) := by
  induction events using List.reverseRecOn with
  | nil => exact hstart.inv c
  | append_singleton events e ih =>
    rw [effects_concat, count_append, after_concat, ← Nat.add_assoc]
    exact (ih hfresh.init horderly.init).next hdual hfresh.last horderly.last

lemma framed_after : Framed (after (System.next env) start events) := by
  induction events using List.reverseRecOn with
  | nil => exact ⟨by simp [hstart.pending], fun _ => by simp [hstart.memory]⟩
  | append_singleton events e ih =>
    rw [after_concat]
    have hfram := ih hfresh.init horderly.init
    refine ⟨hfram.pending_next hdual, hfram.policies.next env fun p hp d hd => ?_⟩
    have hinv := inv_after hdual hstart hfresh.init horderly.init d
    obtain ⟨r, hr, -⟩ := hinv.ready p hp hd
    exact Option.isSome_of_eq_some hr

end

lemma Phase.le_one (h : Phase c sys n) : n ≤ 1 := by
  cases h <;> omega

lemma ready_of_effect {e : Event} (h : Inv c n sys) (heff : sys.effect e = some c) :
    ∃ r, sys.store.memory.changeRequests.find c = some r ∧ 2 ≤ r.approvals.length := by
  cases e with
  | resume i now write =>
    cases hp : sys.pending[i]? with
    | none => simp [System.effect, hp] at heff
    | some p =>
      obtain ⟨r, hr, hready⟩ := h.ready p (mem_of_getElem? hp) (change_of_effect hp heff)
      exact ⟨r, hr, hready.approvals⟩
  | _ => cases heff

/-- **A high-risk change takes effect at most once, with its approvals.** For every change and every
run whose events are `orderly`, from a document that has just been read, with fresh ids: the change
takes effect at most once, and not at all if it was marked as applied before the run; when it does,
two different administrators have approved it before; and no event without an effect changes a
stored policy or, apart from other work on the ledger, a budget. -/
theorem high_risk_change_applied_once (env : GovernanceEnv)
    (hdual : env.requireDualApproval) (start : System) (events : List Event)
    (hstart : Loaded start)
    (hfresh : Throughout (System.next env) (fun sys e => e.Fresh sys) start events)
    (horderly : Throughout (System.next env) (fun sys e => orderly sys e) start events)
    (c : String) :
    (if marked (start.store.memory.changeRequests.find c) then 1 else 0)
        + (effects env start events).count c ≤ 1 ∧
      ∀ earlier e later, events = earlier ++ e :: later →
        let sys := after (System.next env) start earlier
        (sys.effect e = some c →
          ∃ a b, a ≠ b ∧ Approver start earlier c a ∧ Approver start earlier c b) ∧
        (sys.effect e = none →
          (sys.next env e).store.document.projectPolicies = sys.store.document.projectPolicies ∧
            ((∀ d, e ≠ .ledger d) → (sys.next env e).ledger = sys.ledger)) := by
  refine ⟨(inv_after hdual hstart hfresh horderly c).phase.le_one, ?_⟩
  intro earlier e later hsplit
  subst hsplit
  refine ⟨fun heff => ?_, fun heff => ?_⟩
  · have hinv := inv_after hdual hstart hfresh.init horderly.init c
    obtain ⟨r, hr, hlength⟩ := ready_of_effect hinv heff
    have hback := (vouched_after env hstart earlier c).memory
    rw [hr] at hback
    exact hback.two hlength
  · have hfram := framed_after hdual hstart hfresh.init horderly.init
    exact ⟨hfram.document_policies env heff, hfram.ledger env heff⟩

/-! ### Two runs -/

namespace Sample

/-- Digests and texts do not matter here. -/
def env : GovernanceEnv := ⟨fun _ => "text", fun _ => "digest", true⟩

def alice : Auth.PublicUser := ⟨"usr_a", "alice", "a@x", "admin", "active"⟩

def bob : Auth.PublicUser := ⟨"usr_b", "bob", "b@x", "admin", "active"⟩

/-- No policies, no change requests, nothing under way. -/
def start : System where
  store := ⟨⟨Table.empty, Table.empty⟩, 0, ⟨Table.empty, Table.empty⟩, 0⟩
  ledger := Ledger.empty
  pending := []

/-- A policy for a project, with the providers it allows. -/
def policyPayload (project : String) (providers : List String) : Json :=
  .obj [("allowedProviders", .arr (providers.map .str)), ("environmentId", .str "env"),
    ("organizationId", .str "org"), ("projectId", .str project)]

/-- Alice asks for a change, and Bob approves it. -/
def requested (uuid target : String) (payload : Json) : List Event :=
  [.create alice ⟨"project_policy.upsert", target, payload, "a good reason"⟩ uuid 1 .acknowledged,
    .approve bob ("chg_" ++ uuid) 2 .acknowledged]

def resume (i : ℕ) : Event := .resume i 3 .acknowledged

/-- The providers that the policy of a project allows. -/
def allowed (sys : System) (project : String) : Option (List String) :=
  (sys.store.memory.projectPolicies.find (policyKey "org" project "env")).map (·.allowedProviders)

lemma loaded_start : Loaded start := ⟨rfl, rfl, rfl, fun _ hr => (not_mem_nil hr).elim⟩

/-- A change, whose policy has been read and not yet written. -/
def reading : List Event :=
  requested "1" "org/prj/env" (policyPayload "prj" ["old"]) ++ [.apply alice "chg_1", resume 0]

lemma fresh_reading : Throughout (System.next env) (fun sys e => e.Fresh sys) start reading :=
  throughout_cons ⟨rfl, rfl⟩ (throughout_cons trivial (throughout_cons trivial
    (throughout_cons trivial throughout_nil)))

/-- Two changes of one policy. The first one is applied twice, and the second one in between. -/
def overlapping : List Event :=
  requested "1" "org/prj/env" (policyPayload "prj" ["old"])
    ++ requested "2" "org/prj/env" (policyPayload "prj" ["new"])
    ++ [.apply alice "chg_1", .apply bob "chg_1", resume 0, resume 0, resume 0]
    ++ [.apply alice "chg_2", resume 1, resume 1]
    ++ [resume 0]

end Sample

open Sample

/-- The theorem for a change whose policy is to be written. -/
theorem high_risk_change_applied_once_reading :
    (after (System.next Sample.env) start reading).effect (resume 0) = some "chg_1" ∧
      (effects Sample.env start (reading ++ [resume 0])).count "chg_1" ≤ 1 := by
  have hfresh : Throughout (.next Sample.env) (fun sys e => e.Fresh sys) start
      (reading ++ [resume 0]) := throughout_concat.2 ⟨fresh_reading, trivial⟩
  have horderly : Throughout (.next Sample.env) (fun sys e => orderly sys e) start
      (reading ++ [resume 0]) := by
    refine throughout_cons ?_ (throughout_cons ?_ (throughout_cons ?_ (throughout_cons ?_
      (throughout_cons ?_ throughout_nil))))
    all_goals decide +kernel
  have honce := high_risk_change_applied_once Sample.env rfl start (reading ++ [resume 0])
    loaded_start hfresh horderly "chg_1"
  exact ⟨by decide +kernel, (Nat.le_add_left _ _).trans honce.1⟩

/-- **Applications that overlap.** Both check the change before either writes its policy. The one
that writes last brings the old policy back. -/
theorem overlapping_applications :
    Sample.env.requireDualApproval ∧ Loaded start ∧
      effects Sample.env start overlapping = ["chg_1", "chg_2", "chg_1"] ∧
      allowed (after (System.next Sample.env) start overlapping.dropLast) "prj" = some ["new"] ∧
      allowed (after (System.next Sample.env) start overlapping) "prj" = some ["old"] :=
  ⟨rfl, loaded_start, by decide +kernel, by decide +kernel, by decide +kernel⟩

end ModelPort.Governance
