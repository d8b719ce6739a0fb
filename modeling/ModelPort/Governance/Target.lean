import ModelPort.Governance.AppliedOnce

/-!
# What an approved change touches

A change request has a target, which is what its approvers see, and a payload, which says what is
written. Nothing compares the two. An application touches the project that its payload names and no
other one; so it touches its target only if the payload names the target. The budget route fixes
the target to a word that names no project at all.

* `Sourced`, `sourced_after`: what an application is about to write comes from the payload.
* `application_touches_target_iff`: it is the target if and only if the payload names it.
-/

namespace ModelPort.Governance

open Relational WriteThrough Runs
open List hiding take

variable {r : ChangeRequest} {doc : GovernanceDocument} {q : Pending} {now : ℕ}

/-! ### The project that a payload names -/

/-- The project in the payload of a change. -/
def payloadTenant (r : ChangeRequest) : Option TenantKey :=
  if r.action = "project_policy.upsert" then (ProjectPolicy.ofJson r.payload).map (·.tenant)
  else if r.action = "budget.hard_limit" then
    (budgetUpdateOfJson r.payload).bind fun update =>
      (Ledger.tenantFromParts update.organizationId update.projectId
        update.environmentId).toOption
  else none

/-- A target names a project in the way dashboards do. -/
def names (target : String) (t : TenantKey) : Prop := tenantName t = trim target

/-- The policy of a project, in memory and in the document, and its budget account. -/
def System.standing (sys : System) (t : TenantKey) :
    Option ProjectPolicy × Option ProjectPolicy × Option AccountRow :=
  (sys.store.memory.projectPolicies.find (tenantName t),
    sys.store.document.projectPolicies.find (tenantName t), sys.ledger.accounts.find t)

open Governance.System

/-- No project differs but those that the target names. -/
def OnlyTouches (sys sys' : System) (target : String) : Prop :=
  ∀ t, sys'.standing t ≠ sys.standing t → names target t

/-- The event writes a policy that is in force already. -/
def repeats (sys : System) : Event → Prop
  | .resume i _ _ =>
    match sys.pending[i]? with
    | some (.writePolicy _ policy) =>
      sys.store.memory.projectPolicies.find policy.key = some policy
    | _ => False
  | _ => False

/-! ### Where an application has it from -/

/-- The requests of the applications are there, and the policies are those of the document. -/
structure Traced (sys : System) : Prop where
  sourced : ∀ p ∈ sys.pending, ∀ c, p.change = some c →
    ∃ r, sys.store.memory.changeRequests.find c = some r ∧ Sourced r p
  policies : PoliciesSynced sys

section

variable {env : GovernanceEnv} {sys : System} {e : Event} {c : String} {policy : ProjectPolicy}
  {write : Write} {i : ℕ}

/-- What a change request says stays. -/
structure SameText (r r' : ChangeRequest) : Prop where
  action : r'.action = r.action
  target : r'.target = r.target
  payload : r'.payload = r.payload

lemma SameText.sourced {r' : ChangeRequest} {p : Pending} (h : SameText r r')
    (hp : Sourced r p) : Sourced r' p := by
  cases p with
  | applyPolicy => trivial
  | markApplied => trivial
  | writePolicy requestId policy =>
    simp only [Sourced, h.action, h.payload]
    exact hp
  | updateBudget approval update dual =>
    simp only [Sourced, h.action, h.payload, h.target]
    exact hp

lemma Fate.sameText {new : Option ChangeRequest} (hfresh : e.Fresh sys)
    (hr : sys.store.memory.changeRequests.find c = some r)
    (h : Fate sys e c (some r) new) : ∃ r', new = some r' ∧ SameText r r' := by
  cases h with
  | same => exact ⟨r, rfl, rfl, rfl, rfl⟩
  | created a happr hnew =>
    obtain ⟨actor, input, uuid, now, write, rfl, rfl⟩ := hnew
    rw [hfresh.1] at hr
    cases hr
  | approved | applied => exact ⟨_, rfl, rfl, rfl, rfl⟩

/-- A change request in memory keeps its text, as long as the process runs. -/
lemma sameText_next (env : GovernanceEnv) (hfresh : e.Fresh sys)
    (hrest : e ≠ .restart) (hr : sys.store.memory.changeRequests.find c = some r) :
    ∃ r', (sys.next env e).store.memory.changeRequests.find c = some r' ∧ SameText r r' := by
  have hkept : ∃ r', sys.store.memory.changeRequests.find c = some r' ∧ SameText r r' :=
    ⟨r, hr, rfl, rfl, rfl⟩
  have hstep := storeStep_next env sys e
  generalize (sys.next env e).store = store at hstep
  cases hstep with
  | same => exact hkept
  | stray => exact hkept
  | saved write next hsaved hfate =>
    cases hsaved with
    | acknowledged => exact (hr ▸ hfate c).sameText hfresh hr
    | unacknowledged => exact hkept
    | failed => exact hkept
  | reload he => exact absurd he hrest

lemma policyToApply_eq_ok {requestId actorId : String}
    (h : policyToApply env requestId actorId now doc = .ok policy) :
    ∃ r, doc.changeRequests.find requestId = some r ∧
      Sourced r (.writePolicy requestId policy) := by
  obtain ⟨r, hr, h⟩ := Except.bind_eq_ok.1 h
  obtain ⟨_, hact, h⟩ := Except.bind_eq_ok.1 h
  simp only [Except.ensure_eq_ok, decide_eq_true_eq] at hact
  refine ⟨r, (changeForApplication_eq_ok.1 hr).1, hact, ?_⟩
  split at h
  · cases h
  · rename_i read hread
    obtain ⟨_, -, h⟩ := Except.bind_eq_ok.1 h
    cases h
    exact ⟨read, hread, rfl⟩

/-- A request is there for every application that an event adds or leaves. -/
lemma Traced.pending_next (h : Traced sys) (hq : q ∈ (sys.next env e).pending)
    (hc : q.change = some c) :
    ∃ r, sys.store.memory.changeRequests.find c = some r ∧ Sourced r q := by
  have hagenda := agenda_next env sys e
  generalize (sys.next env e).pending = pending at hagenda hq
  cases hagenda with
  | same => exact h.sourced q hq c hc
  | begun p hp =>
    rcases mem_append.1 hq with hq | hq
    · exact h.sourced q hq c hc
    · obtain rfl := mem_singleton.1 hq
      obtain ⟨-, -, r, hr, hsourc, -⟩ := hp.request c hc
      exact ⟨r, hr, hsourc⟩
  | cleared => cases hq
  | resumed i p now write he hp =>
    rcases mem_append.1 hq with hq | hq
    · exact h.sourced q (mem_of_mem_eraseIdx hq) c hc
    · have hchg : p.change = some c := (change_followUp hq).symm.trans hc
      obtain ⟨r, hr, -⟩ := h.sourced p (mem_of_getElem? hp) c hchg
      cases p with
      | applyPolicy requestId actorId =>
        simp only [followUp] at hq
        split at hq
        · cases hq
        · rename_i policy hpol
          obtain rfl := mem_singleton.1 hq
          obtain rfl : requestId = c := Option.some.inj hc
          exact policyToApply_eq_ok hpol
      | writePolicy | markApplied => simp [followUp] at hq
      | updateBudget approval update dual =>
        simp only [followUp] at hq
        split at hq
        · simp only [Option.mem_toList, Option.map_eq_some_iff] at hq
          obtain ⟨requestId, -, rfl⟩ := hq
          exact ⟨r, hr, trivial⟩
        · cases hq

/-- **An event keeps the sources.** -/
lemma Traced.next (env : GovernanceEnv) (h : Traced sys) (hfresh : e.Fresh sys) :
    Traced (sys.next env e) := by
  constructor
  · intro q hq d hd
    by_cases hrest : e = .restart
    · subst hrest
      exact (not_mem_nil hq).elim
    · obtain ⟨r, hr, hsourc⟩ := h.pending_next hq hd
      obtain ⟨r', hr', htext⟩ := sameText_next env hfresh hrest hr
      exact ⟨r', hr', htext.sourced hsourc⟩
  · refine h.policies.next env fun p hp d hd => ?_
    obtain ⟨r, hr, -⟩ := h.sourced p hp d hd
    exact Option.isSome_of_eq_some hr

/-! ### What an effect touches -/

lemma onlyTouches_iff {sys' : System} {t : TenantKey} {target : String}
    (hdiff : sys'.standing t ≠ sys.standing t)
    (honly : ∀ t', sys'.standing t' ≠ sys.standing t' → tenantName t' = tenantName t) :
    OnlyTouches sys sys' target ↔ names target t :=
  ⟨fun h => h t hdiff, fun h t' ht' => (honly t' ht').trans h⟩

lemma tenantName_ne_enterprise_budget (t : TenantKey) : ¬ names "enterprise-budget" t := by
  intro h
  have hslash : '/' ∈ (tenantName t).toList := by simp [tenantName, policyKey]
  rw [h] at hslash
  revert hslash
  decide

/-- A policy that is written touches its own project, unless it is in force already. -/
lemma standing_writePolicy (env : GovernanceEnv) (h : Traced sys)
    (hp : sys.pending[i]? = some (.writePolicy c policy))
    (heffect : sys.effect (.resume i now write) = some c) (t : TenantKey) :
    (sys.next env (.resume i now write)).standing t ≠ sys.standing t ↔
      tenantName t = tenantName policy.tenant ∧
        sys.store.memory.projectPolicies.find policy.key ≠ some policy := by
  obtain ⟨r, hr, -⟩ := h.sourced _ (mem_of_getElem? hp) c rfl
  obtain ⟨store, hsaved, hnext⟩ := next_writePolicy env now write hp hr
  have hsaves : sys.store.documentRevision = sys.store.revision ∧ write ≠ .refused := by
    by_contra hno
    simp [effect, hp, hr, saves, hno] at heffect
  have hsync := h.policies hsaves.1
  -- the project differs if its policy does
  have hpol : (sys.next env (.resume i now write)).standing t = sys.standing t ↔
      (sys.store.memory.apply r policy now).projectPolicies.find (tenantName t)
        = sys.store.memory.projectPolicies.find (tenantName t) := by
    rw [hnext]
    cases hsaved with
    | acknowledged | unacknowledged => simp [standing, take, hsync]
    | failed hfail => exact absurd hsaves (by tauto)
  have hput : (sys.store.memory.apply r policy now).projectPolicies.find (tenantName t)
      = if tenantName policy.tenant = tenantName t then some policy
        else sys.store.memory.projectPolicies.find (tenantName t) :=
    Table.find_put_single _ policy _
  rw [Ne, hpol, hput]
  split
  · rename_i hname
    rw [← hname]
    exact ⟨fun hne => ⟨rfl, fun hsame => hne hsame.symm⟩, fun hne hsame => hne.2 hsame.symm⟩
  · rename_i hname
    exact ⟨fun hne => absurd rfl hne, fun hne => absurd hne.1.symm hname⟩

/-- An update of a budget touches the project of its account. -/
lemma standing_updateBudget (env : GovernanceEnv)
    {update : Ledger.EnterpriseBudgetUpdate} {dual : Bool}
    (hp : sys.pending[i]? = some (.updateBudget (some c) update dual))
    (heffect : sys.effect (.resume i now write) = some c) :
    ∃ t, Ledger.tenantFromParts update.organizationId update.projectId update.environmentId
        = .ok t ∧ (sys.next env (.resume i now write)).standing t ≠ sys.standing t ∧
      ∀ t', (sys.next env (.resume i now write)).standing t' ≠ sys.standing t' → t' = t := by
  have hstore : (sys.next env (.resume i now write)).store = sys.store := by
    rw [next_resume hp, advance, store_runUpdate]
    rfl
  obtain ⟨u, d, hrun, hledg⟩ : ∃ u d, (Ledger.updateBudget update).run sys.ledger = .ok (u, d) ∧
      (sys.next env (.resume i now write)).ledger = d := by
    simp only [effect, hp] at heffect
    split at heffect
    · rename_i hdone
      cases hrun : (Ledger.updateBudget update).run sys.ledger with
      | error => simp [hrun, Except.toBool] at hdone
      | ok result =>
        refine ⟨result.1, result.2, rfl, ?_⟩
        rw [next_resume hp]
        exact ledger_runUpdate_of_ok (sys.take i) (some c) dual hdone.1 hrun
    · cases heffect
  obtain ⟨t, ht, hdiff, hsame⟩ := Ledger.updateBudget_accounts hrun
  refine ⟨t, ht, fun h => hdiff ?_, fun t' h => ?_⟩
  · have hacc := congrArg (·.2.2) h
    simpa only [standing, hledg] using hacc
  · by_contra hne
    refine h ?_
    simp only [standing, hstore, hledg, hsame t' hne]

end

/-- **What an application touches.** In every run from a document that has just been read, with
fresh ids: when a change takes effect, no project differs but the one its target names, if and only
if the payload of the change names that project, or the policy is in force already. -/
theorem application_touches_target_iff (env : GovernanceEnv) (start : System)
    (events : List Event) (hstart : Loaded start)
    (hfresh : Throughout (System.next env) (fun sys e => e.Fresh sys) start events) (e : Event)
    (c : String) (r : ChangeRequest)
    (heffect : (after (System.next env) start events).effect e = some c)
    (hr : (after (System.next env) start events).store.memory.changeRequests.find c = some r) :
    OnlyTouches (after (System.next env) start events)
        ((after (System.next env) start events).next env e) r.target ↔
      (∃ t, payloadTenant r = some t ∧ names r.target t) ∨
        repeats (after (System.next env) start events) e := by
  have hloaded : Traced start := ⟨by simp [hstart.pending], fun _ => by rw [hstart.memory]⟩
  have htraced := hfresh.invariant hloaded fun _ _ h hfresh => h.next env hfresh
  generalize after (next env) start events = sys at htraced heffect hr
  cases e with
  | resume i now write =>
    cases hp : sys.pending[i]? with
    | none => simp [effect, hp] at heffect
    | some p =>
      have hchg := change_of_effect hp heffect
      obtain ⟨r', hr', hsourc⟩ := htraced.sourced p (mem_of_getElem? hp) c hchg
      obtain rfl : r' = r := Option.some.inj (hr'.symm.trans hr)
      cases p with
      | applyPolicy | markApplied => simp [effect, hp] at heffect
      | writePolicy requestId policy =>
        obtain rfl : requestId = c := Option.some.inj hchg
        obtain ⟨hact, read, hread, hten⟩ := hsourc
        have hstand := standing_writePolicy env htraced hp heffect
        have hpayload : payloadTenant r' = some policy.tenant := by
          simp [payloadTenant, hact, hread, hten]
        by_cases hrep : sys.store.memory.projectPolicies.find policy.key = some policy
        · have hnone : OnlyTouches sys (sys.next env (.resume i now write)) r'.target :=
            fun t hdiff => absurd hrep ((hstand t).1 hdiff).2
          simp [hnone, repeats, hp, hrep]
        · rw [onlyTouches_iff ((hstand policy.tenant).2 ⟨rfl, hrep⟩)
            fun t hdiff => ((hstand t).1 hdiff).1, hpayload]
          simp [repeats, hp, hrep]
      | updateBudget approval update dual =>
        obtain rfl : approval = some c := hchg
        obtain ⟨hact, hsrc⟩ := hsourc
        obtain ⟨t, ht, hdiff, honly⟩ := standing_updateBudget env hp heffect
        rw [onlyTouches_iff hdiff fun t' h => congrArg tenantName (honly t' h)]
        rcases hsrc with hsrc | htarg
        · simp [payloadTenant, hact, hsrc, ht, Except.toOption, repeats, hp]
        · rw [htarg]
          simp [tenantName_ne_enterprise_budget, repeats, hp]
  | _ => cases heffect

/-! ### A request that says one thing and does another -/

/-- The target is one project, the payload another. -/
def Sample.disguised : List Event :=
  requested "1" "org/prj/env" (policyPayload "victim" ["any"])
    ++ [.apply alice "chg_1", resume 0]

open Sample

/-- The theorem for a change whose payload names its target. -/
theorem application_touches_target_iff_reading :
    OnlyTouches (after (System.next Sample.env) start reading)
      ((after (System.next Sample.env) start reading).next Sample.env (resume 0))
      "org/prj/env" := by
  obtain ⟨r, hr⟩ : ∃ r, (after (next Sample.env) start
      reading).store.memory.changeRequests.find "chg_1" = some r :=
    Option.isSome_iff_exists.1 (by decide +kernel)
  have htarg : ((after (next Sample.env) start
      reading).store.memory.changeRequests.find "chg_1").map (·.target) = some "org/prj/env" := by
    decide +kernel
  have hten : ((after (next Sample.env) start
      reading).store.memory.changeRequests.find "chg_1").bind payloadTenant
        = some ⟨"org", "prj", "env"⟩ := by
    decide +kernel
  rw [hr] at htarg hten
  have htarg : r.target = "org/prj/env" := Option.some.inj htarg
  rw [← htarg, application_touches_target_iff Sample.env start reading loaded_start
    fresh_reading (resume 0) "chg_1" r (by decide +kernel) hr]
  exact .inl ⟨_, hten, by rw [names, htarg]; decide +kernel⟩

/-- **A disguised change.** What is approved is a change of one project; what is written is the
policy of another. -/
theorem disguised_change_touches_another_project :
    let sys := after (System.next Sample.env) start disguised
    (sys.store.memory.changeRequests.find "chg_1").map (·.target) = some "org/prj/env" ∧
      sys.effect (resume 0) = some "chg_1" ∧
      ¬ OnlyTouches sys (sys.next Sample.env (resume 0)) "org/prj/env" := by
  refine ⟨by decide +kernel, by decide +kernel, fun h => ?_⟩
  have hnames := h ⟨"org", "victim", "env"⟩ (by decide +kernel)
  rw [names] at hnames
  revert hnames
  decide +kernel

end ModelPort.Governance
