import ModelPort.Governance.Store
import ModelPort.Lib.Runs

/-!
# Runs of the governance store and the budget ledger

A run is any sequence of critical sections of any number of requests. `System.pending` holds the
applications that are under way: a policy is checked, read and written in three sections; a budget
is updated in the ledger between a check and a mark.
-/

namespace ModelPort.Governance

open Relational WriteThrough Runs

variable {write : Write} {i now : ℕ} {p : Pending} {r : ChangeRequest} {actor : Auth.PublicUser}
  {requestId : String}

/-! ### Events -/

/-- An application that is under way, by what comes next. -/
inductive Pending where
  /-- read the policy -/
  | applyPolicy (requestId actorId : String)
  /-- write the policy -/
  | writePolicy (requestId : String) (policy : ProjectPolicy)
  /-- update the budget -/
  | updateBudget (approval : Option String) (update : Ledger.EnterpriseBudgetUpdate)
      (requireDualApproval : Bool)
  /-- mark the change as applied -/
  | markApplied (requestId : String) (requireDualApproval : Bool)

/-- Store, ledger and calls under way. -/
structure System where
  store : GovernanceStore
  ledger : Ledger
  pending : List Pending

/-- A critical section, with what it gets from outside. -/
inductive Event where
  | create (actor : Auth.PublicUser) (input : ChangeRequestInput) (uuid : String) (now : ℕ)
      (write : Write)
  | approve (actor : Auth.PublicUser) (requestId : String) (now : ℕ) (write : Write)
  /-- the first section of `admin_apply_change_request` -/
  | apply (actor : Auth.PublicUser) (requestId : String)
  /-- the first section of `admin_update_enterprise_budget` -/
  | updateBudget (actor : Auth.PublicUser) (header : Option String)
      (body : Ledger.EnterpriseBudgetUpdate)
  /-- the next section of an application -/
  | resume (i : ℕ) (now : ℕ) (write : Write)
  /-- other work on the ledger -/
  | ledger (d : Ledger)
  | restart

section

variable (env : GovernanceEnv)

/-- `admin_apply_change_request` up to the application itself. -/
def admitApplication (actor : Auth.PublicUser) (requestId : String) (doc : GovernanceDocument) :
    Except AppError Pending := do
  requireAdminUser actor
  let change ← changeForApplication requestId env.requireDualApproval doc
  if change.action = "project_policy.upsert" then return .applyPolicy requestId actor.id
  else if change.action = "budget.hard_limit" then
    match budgetUpdateOfJson change.payload with
    | none => .error (.json "the payload is not an update of a budget")
    | some update => return .updateBudget (some requestId) update env.requireDualApproval
  else .error (.invalidRequest ("approved action " ++ change.action
    ++ " must be applied by its dedicated production runbook"))

/-- `admin_update_enterprise_budget` up to the update. -/
def admitBudgetUpdate (actor : Auth.PublicUser) (header : Option String)
    (body : Ledger.EnterpriseBudgetUpdate) (doc : GovernanceDocument) :
    Except AppError Pending := do
  requireAdminUser actor
  let approval ← requireHighRiskChange env header "budget.hard_limit" "enterprise-budget"
    (budgetUpdateToJson body) doc
  return .updateBudget approval body true

namespace System

/-- The application goes on, unless its section has failed. -/
def push (sys : System) : Except AppError Pending → System
  | .error _ => sys
  | .ok p => { sys with pending := sys.pending ++ [p] }

/-- A critical section of the store. -/
def save {α : Type} (sys : System) (write : Write) (outcome : Outcome α) : System :=
  { sys with store := (commit write sys.store outcome).1 }

/-- `update_budget` and, if it succeeds, the way to the mark. The update is also lost to the caller
when only the view that is read after it fails. -/
def runUpdate (sys : System) (approval : Option String) (update : Ledger.EnterpriseBudgetUpdate)
    (requireDualApproval : Bool) (write : Write) : System :=
  match write, (Ledger.updateBudget update).run sys.ledger with
  | .acknowledged, .ok (_, d) =>
    { sys with
      ledger := d
      pending := sys.pending
        ++ (approval.map fun requestId => .markApplied requestId requireDualApproval).toList }
  | .unacknowledged, .ok (_, d) => { sys with ledger := d }
  | _, _ => sys

/-- The next section of an application. -/
def advance (sys : System) (p : Pending) (now : ℕ) (write : Write) : System :=
  match p with
  | .applyPolicy requestId actorId =>
    sys.push ((policyToApply env requestId actorId now sys.store.memory).map
      (.writePolicy requestId))
  | .writePolicy requestId policy =>
    sys.save write (Governance.writePolicy requestId policy now sys.store.memory)
  | .updateBudget approval update requireDualApproval =>
    sys.runUpdate approval update requireDualApproval write
  | .markApplied requestId requireDualApproval =>
    sys.save write (markChangeAppliedForMode requestId requireDualApproval now sys.store.memory)

/-- The system with an application taken up. -/
def take (sys : System) (i : ℕ) : System := { sys with pending := sys.pending.eraseIdx i }

/-- The process is gone, and another one reads the document. -/
def reload (sys : System) : System where
  store := ⟨sys.store.document, sys.store.documentRevision, sys.store.document,
    sys.store.documentRevision⟩
  ledger := sys.ledger
  pending := []

/-- The system after one event. -/
def next (sys : System) : Event → System
  | .create actor input uuid now write =>
    match requireAdminUser actor with
    | .error _ => sys
    | .ok () =>
      sys.save write
        (createChangeRequest env actor.id actor.username input uuid now sys.store.memory)
  | .approve actor requestId now write =>
    match requireAdminUser actor with
    | .error _ => sys
    | .ok () =>
      sys.save write
        (approveChangeRequest requestId actor.id actor.username now sys.store.memory)
  | .apply actor requestId => sys.push (admitApplication env actor requestId sys.store.memory)
  | .updateBudget actor header body =>
    sys.push (admitBudgetUpdate env actor header body sys.store.memory)
  | .resume i now write =>
    match sys.pending[i]? with
    | none => sys
    | some p => (sys.take i).advance env p now write
  | .ledger d => { sys with ledger := d }
  | .restart => sys.reload

/-- A save is carried out: the revisions agree, and the database does not refuse it. -/
def saves (sys : System) (write : Write) : Bool :=
  sys.store.documentRevision = sys.store.revision && write ≠ .refused

/-- The change that takes effect in an event: its policy is written, or its budget is updated. -/
def effect (sys : System) : Event → Option String
  | .resume i _ write =>
    match sys.pending[i]? with
    | some (.writePolicy requestId _) =>
      if sys.saves write || (sys.store.memory.changeRequests.find requestId).isNone then
        some requestId
      else none
    | some (.updateBudget approval update _) =>
      if write ≠ .refused ∧ ((Ledger.updateBudget update).run sys.ledger).isOk then approval
      else none
    | _ => none
  | _ => none

end System

/-- The changes that take effect in a run, in their order. -/
def effects (start : System) : List Event → List String
  | [] => []
  | e :: events => (start.effect e).toList ++ effects (start.next env e) events

end

lemma effects_concat (env : GovernanceEnv) (start : System) (events : List Event) (e : Event) :
    effects env start (events ++ [e]) = effects env start events
      ++ ((after (System.next env) start events).effect e).toList := by
  induction events generalizing start with
  | nil => simp [effects]
  | cons d events ih => simp [effects, ih, after_cons]

/-! ### What an event does to a change request -/

lemma find_change_eq_some {requests : ChangeRequests} {c : String} :
    requests.find c = some r ↔ r ∈ requests.rows ∧ r.id = c := by
  rw [Table.find_eq_some, List.mem_singleton, eq_comm (a := c)]

/-- The change an application is of. -/
def Pending.change : Pending → Option String
  | .applyPolicy requestId _ => some requestId
  | .writePolicy requestId _ => some requestId
  | .updateBudget approval _ _ => approval
  | .markApplied requestId _ => some requestId

/-- The call is one of an administrator that counts as an approval of a change. -/
def Event.Approves (c a : String) : Event → Prop
  | .create actor _ uuid _ _ => actor.role = "admin" ∧ actor.id = a ∧ "chg_" ++ uuid = c
  | .approve actor requestId _ _ => actor.role = "admin" ∧ actor.id = a ∧ requestId = c
  | _ => False

/-- The event carries on an application. -/
def Event.Resumes (sys : System) (p : Pending) (write : Write) (e : Event) : Prop :=
  ∃ i now, e = .resume i now write ∧ sys.pending[i]? = some p

/-- What an event does to a change request. -/
inductive Fate (sys : System) (e : Event) (c : String) :
    Option ChangeRequest → Option ChangeRequest → Prop
  | same (old : Option ChangeRequest) : Fate sys e c old old
  | created {old : Option ChangeRequest} {r : ChangeRequest} (a : String)
      (happroves : e.Approves c a) (hnew : ∃ actor input uuid now write,
        e = .create actor input uuid now write ∧ "chg_" ++ uuid = c)
      (hstat : r.status = .pendingSecondApproval)
      (happrovals : r.approvals.map (·.actorId) = [a]) : Fate sys e c old (some r)
  | approved {r : ChangeRequest} (a name : String) (now : ℕ) (happroves : e.Approves c a)
      (hstat : r.status ≠ .applied) (hnew : a ∉ r.approvals.map (·.actorId)) :
      Fate sys e c (some r) (some (r.approve a name now))
  | applied {r : ChangeRequest} (now : ℕ) (p : Pending) (write : Write)
      (hres : e.Resumes sys p write)
      (hp : (∃ policy, p = .writePolicy c policy) ∨ ∃ dual, p = .markApplied c dual) :
      Fate sys e c (some r) (some (r.markApplied now))

/-- What a save does to the policies. -/
inductive PolicyStep (sys : System) (e : Event) (write : Write) : Policies → Prop
  | same : PolicyStep sys e write sys.store.memory.projectPolicies
  | written (requestId : String) (policy : ProjectPolicy)
      (hres : e.Resumes sys (.writePolicy requestId policy) write)
      (hknown : (sys.store.memory.changeRequests.find requestId).isSome) :
      PolicyStep sys e write (sys.store.memory.projectPolicies.put policy)

/-- What an event does to the store. -/
inductive StoreStep (sys : System) (e : Event) : GovernanceStore → Prop
  | same : StoreStep sys e sys.store
  /-- a policy is written in memory only, for a change that is not there -/
  | stray (requestId : String) (policy : ProjectPolicy) (write : Write)
      (hres : e.Resumes sys (.writePolicy requestId policy) write)
      (hunknown : sys.store.memory.changeRequests.find requestId = none) :
      StoreStep sys e { sys.store with
        memory := { sys.store.memory with
          projectPolicies := sys.store.memory.projectPolicies.put policy } }
  | saved {store : GovernanceStore} (write : Write) (next : GovernanceDocument)
      (hsaved : sys.store.Saved id write next store)
      (hfate : ∀ c, Fate sys e c (sys.store.memory.changeRequests.find c)
        (next.changeRequests.find c))
      (hpolicies : PolicyStep sys e write next.projectPolicies) : StoreStep sys e store
  | reload (he : e = .restart) : StoreStep sys e sys.reload.store

section

variable {env : GovernanceEnv} {sys : System} {e : Event} {q : Pending}

lemma changeForApplication_eq_ok {dual : Bool} {doc : GovernanceDocument} :
    changeForApplication requestId dual doc = .ok r ↔
      doc.changeRequests.find requestId = some r ∧ r.mayApply dual := by
  unfold changeForApplication
  cases doc.changeRequests.find requestId with
  | none => simp
  | some request =>
    dsimp only
    split
    · rename_i h
      constructor
      · rintro ⟨⟩
        exact ⟨rfl, h⟩
      · rintro ⟨hr, -⟩
        rw [Option.some.inj hr]
    · rename_i h
      constructor
      · rintro ⟨⟩
      · rintro ⟨hr, hmay⟩
        exact absurd (Option.some.inj hr ▸ hmay) h

lemma fate_markApplied {next : GovernanceDocument} (hres : e.Resumes sys p write)
    (hp : (∃ policy, p = .writePolicy requestId policy) ∨ ∃ dual, p = .markApplied requestId dual)
    (hfind : sys.store.memory.changeRequests.find requestId = some r)
    (hnext : next.changeRequests = sys.store.memory.changeRequests.put (r.markApplied now))
    (c : String) :
    Fate sys e c (sys.store.memory.changeRequests.find c) (next.changeRequests.find c) := by
  obtain ⟨-, rfl⟩ := find_change_eq_some.1 hfind
  rw [hnext, Table.find_put_single]
  split
  · rename_i hid
    have hc : r.id = c := hid
    subst hc
    rw [hfind]
    exact .applied now p write hres hp
  · exact .same _

lemma System.store_runUpdate (sys : System) (approval : Option String)
    (update : Ledger.EnterpriseBudgetUpdate) (dual : Bool) (write : Write) :
    (sys.runUpdate approval update dual write).store = sys.store := by
  unfold System.runUpdate
  generalize (Ledger.updateBudget update).run sys.ledger = answer
  cases write <;> cases answer <;> rfl

lemma System.ledger_runUpdate (sys : System) (approval : Option String)
    (update : Ledger.EnterpriseBudgetUpdate) (dual : Bool) (write : Write)
    (h : ¬ (write ≠ .refused ∧ ((Ledger.updateBudget update).run sys.ledger).isOk)) :
    (sys.runUpdate approval update dual write).ledger = sys.ledger := by
  unfold System.runUpdate
  generalize (Ledger.updateBudget update).run sys.ledger = answer at h ⊢
  cases write <;> cases answer <;> simp [Except.toBool] at h ⊢

lemma System.ledger_runUpdate_of_ok {update : Ledger.EnterpriseBudgetUpdate} {u : Unit}
    {d : Ledger} (sys : System) (approval : Option String) (dual : Bool)
    (hwrite : write ≠ .refused) (hrun : (Ledger.updateBudget update).run sys.ledger = .ok (u, d)) :
    (sys.runUpdate approval update dual write).ledger = d := by
  unfold System.runUpdate
  rw [hrun]
  cases write with
  | acknowledged => rfl
  | refused => exact absurd rfl hwrite
  | unacknowledged => rfl

lemma storeStep_advance (hp : sys.pending[i]? = some p) :
    StoreStep sys (.resume i now write) ((sys.take i).advance env p now write).store := by
  have hres : (Event.resume i now write).Resumes sys p write := ⟨i, now, rfl, hp⟩
  cases p with
  | applyPolicy requestId actorId =>
    simp only [System.advance]
    cases policyToApply env requestId actorId now (sys.take i).store.memory with
    | error => exact .same
    | ok => exact .same
  | writePolicy requestId policy =>
    simp only [System.advance, Governance.writePolicy]
    cases hfind : (sys.take i).store.memory.changeRequests.find requestId with
    | none => exact .stray requestId policy write hres hfind
    | some r =>
      exact .saved write _ (Cell.commit_save saveError write sys.store _ _)
        (fate_markApplied hres (.inl ⟨_, rfl⟩) hfind rfl)
        (.written requestId policy hres (Option.isSome_of_eq_some hfind))
  | updateBudget approval update dual =>
    rw [System.advance, System.store_runUpdate]
    exact .same
  | markApplied requestId dual =>
    simp only [System.advance, markChangeAppliedForMode]
    cases hchg : changeForApplication requestId dual (sys.take i).store.memory with
    | error => exact .same
    | ok r =>
      exact .saved write _ (Cell.commit_save saveError write sys.store _ _)
        (fate_markApplied hres (.inr ⟨_, rfl⟩) (changeForApplication_eq_ok.1 hchg).1 rfl)
        .same

/-- The application that follows a section. -/
def System.followUp (env : GovernanceEnv) (sys : System) (p : Pending) (now : ℕ) (write : Write) :
    List Pending :=
  match p with
  | .applyPolicy requestId actorId =>
    match policyToApply env requestId actorId now sys.store.memory with
    | .error _ => []
    | .ok policy => [.writePolicy requestId policy]
  | .updateBudget approval update dual =>
    if write = .acknowledged ∧ ((Ledger.updateBudget update).run sys.ledger).isOk then
      (approval.map fun requestId => .markApplied requestId dual).toList
    else []
  | .writePolicy _ _ | .markApplied _ _ => []

open Governance.System

lemma System.pending_runUpdate (sys : System) (approval : Option String)
    (update : Ledger.EnterpriseBudgetUpdate) (dual : Bool) (write : Write) :
    (sys.runUpdate approval update dual write).pending = sys.pending ++
      if write = .acknowledged ∧ ((Ledger.updateBudget update).run sys.ledger).isOk then
        (approval.map fun requestId => .markApplied requestId dual).toList else [] := by
  unfold runUpdate
  generalize (Ledger.updateBudget update).run sys.ledger = answer
  cases write <;> cases answer <;> simp [Except.toBool]

lemma System.pending_advance (env : GovernanceEnv) (sys : System) (i : ℕ) (p : Pending) (now : ℕ)
    (write : Write) : ((sys.take i).advance env p now write).pending
      = sys.pending.eraseIdx i ++ sys.followUp env p now write := by
  cases p with
  | applyPolicy requestId actorId =>
    simp only [advance, followUp, take]
    cases policyToApply env requestId actorId now sys.store.memory with
    | error | ok => simp [Except.map, push]
  | writePolicy requestId policy => simp [advance, followUp, save, take]
  | updateBudget approval update dual =>
    rw [advance, pending_runUpdate]
    rfl
  | markApplied requestId dual => simp [advance, followUp, save, take]

lemma change_followUp (h : q ∈ sys.followUp env p now write) : q.change = p.change := by
  unfold followUp at h
  split at h
  · split at h
    · cases h
    · rw [List.mem_singleton.1 h]
      rfl
  · split at h
    · simp only [Option.mem_toList, Option.map_eq_some_iff] at h
      obtain ⟨requestId, rfl, rfl⟩ := h
      rfl
    · cases h
  · cases h
  · cases h

/-- **What an event does to the store.** -/
lemma storeStep_next (env : GovernanceEnv) (sys : System) (e : Event) :
    StoreStep sys e (sys.next env e).store := by
  cases e with
  | create actor input uuid now write =>
    simp only [next]
    split
    · exact .same
    · rename_i hadmin
      unfold createChangeRequest
      split
      · exact .same
      · refine .saved write _ (Cell.commit_save saveError write sys.store _ _) (fun c => ?_) .same
        rw [Table.find_put_single]
        split
        · rename_i hid
          exact .created actor.id ⟨by simpa [requireAdminUser] using hadmin, rfl, hid⟩
            ⟨actor, input, uuid, now, write, rfl, hid⟩ rfl rfl
        · exact .same _
  | approve actor requestId now write =>
    simp only [next]
    split
    · exact .same
    · rename_i hadmin
      unfold approveChangeRequest
      cases hfind : sys.store.memory.changeRequests.find requestId with
      | none => exact .same
      | some request =>
        obtain ⟨-, rfl⟩ := find_change_eq_some.1 hfind
        dsimp only
        split
        · exact .same
        rename_i hstat
        split
        · exact .same
        rename_i hnew
        refine .saved write _ (Cell.commit_save saveError write sys.store _ _) (fun c => ?_) .same
        rw [Table.find_put_single]
        split
        · rename_i hid
          have hc : request.id = c := hid
          subst hc
          rw [hfind]
          exact .approved _ _ _ ⟨by simpa [requireAdminUser] using hadmin, rfl, rfl⟩ hstat
            (by simpa using hnew)
        · exact .same _
  | apply actor requestId =>
    simp only [next]
    cases admitApplication env actor requestId sys.store.memory with
    | error => exact .same
    | ok => exact .same
  | updateBudget actor header body =>
    simp only [next]
    cases admitBudgetUpdate env actor header body sys.store.memory with
    | error => exact .same
    | ok => exact .same
  | resume i now write =>
    simp only [next]
    cases hp : sys.pending[i]? with
    | none => exact .same
    | some p => exact storeStep_advance hp
  | ledger d => exact .same
  | restart => exact .reload rfl

lemma change_of_effect {d : String}
    (hp : sys.pending[i]? = some p) (h : sys.effect (.resume i now write) = some d) :
    p.change = some d := by
  simp only [effect, hp] at h
  cases p with
  | applyPolicy requestId actorId => cases h
  | writePolicy | updateBudget =>
    dsimp only at h
    split at h
    · exact h
    · cases h
  | markApplied requestId dual => cases h

lemma System.next_resume (hp : sys.pending[i]? = some p) :
    sys.next env (.resume i now write) = (sys.take i).advance env p now write := by
  simp only [next, hp]

/-- The policies are those of the document, unless the memory is behind it. -/
def PoliciesSynced (sys : System) : Prop :=
  sys.store.documentRevision = sys.store.revision →
    sys.store.memory.projectPolicies = sys.store.document.projectPolicies

lemma PoliciesSynced.next (env : GovernanceEnv) (h : PoliciesSynced sys)
    (hknown : ∀ p ∈ sys.pending, ∀ c, p.change = some c →
      (sys.store.memory.changeRequests.find c).isSome) :
    PoliciesSynced (sys.next env e) := by
  unfold PoliciesSynced
  have hstep := storeStep_next env sys e
  generalize (sys.next env e).store = store at hstep
  cases hstep with
  | same => exact h
  | stray requestId policy write hres hunknown =>
    obtain ⟨i, now, -, hp⟩ := hres
    have hsome := hknown _ (List.mem_of_getElem? hp) requestId rfl
    rw [hunknown] at hsome
    cases hsome
  | saved write next hsaved =>
    cases hsaved with
    | acknowledged => exact fun _ => rfl
    | unacknowledged hrev =>
      intro hin
      have hout : sys.store.documentRevision + 1 = sys.store.revision := hin
      omega
    | failed => exact h
  | reload => exact fun _ => rfl

/-! ### What an event does to the applications -/

def Pending.isMark : Pending → Bool
  | .markApplied _ _ => true
  | _ => false

/-- The action of the changes that an application is of. -/
def Pending.action : Pending → String
  | .applyPolicy _ _ | .writePolicy _ _ => "project_policy.upsert"
  | .updateBudget _ _ _ | .markApplied _ _ => "budget.hard_limit"

/-- The request is ready for an application of this kind. -/
structure Ready (r : ChangeRequest) (action : String) : Prop where
  status : r.status = .approved
  approvals : 2 ≤ r.approvals.length
  action : r.action = action

/-- What an application is about to write comes from its request. -/
def Sourced (r : ChangeRequest) : Pending → Prop
  | .writePolicy _ policy =>
    r.action = "project_policy.upsert" ∧
      ∃ read, ProjectPolicy.ofJson r.payload = some read ∧ policy.tenant = read.tenant
  | .updateBudget _ update _ =>
    r.action = "budget.hard_limit" ∧
      (budgetUpdateOfJson r.payload = some update ∨ r.target = "enterprise-budget")
  | _ => True

/-- The change whose application a call begins. -/
def Event.begins : Event → Option String
  | .apply _ requestId => some requestId
  | .updateBudget _ header _ => header.map trim
  | _ => none

/-- **An application that is admitted** is of the change that the call names. The change is ready
for it, and says what is to be written. -/
structure Admitted (env : GovernanceEnv) (sys : System) (e : Event) (q : Pending) : Prop where
  identified : env.requireDualApproval = true → q.change ≠ none
  request : ∀ c, q.change = some c → e.begins = some c ∧ q.isMark = false ∧
    ∃ r, sys.store.memory.changeRequests.find c = some r ∧ Sourced r q ∧
      (env.requireDualApproval → Ready r q.action)

lemma mayApply_true : r.mayApply true ↔ r.status = .approved ∧ 2 ≤ r.approvals.length := by
  simp [ChangeRequest.mayApply]

lemma admitted_apply (h : admitApplication env actor requestId sys.store.memory = .ok q) :
    Admitted env sys (.apply actor requestId) q := by
  obtain ⟨-, -, h⟩ := Except.bind_eq_ok.1 h
  obtain ⟨r, hr, h⟩ := Except.bind_eq_ok.1 h
  obtain ⟨hfind, hmay⟩ := changeForApplication_eq_ok.1 hr
  have hready : r.action = q.action → env.requireDualApproval → Ready r q.action := by
    intro hact hdual
    obtain ⟨hstat, hlength⟩ := mayApply_true.1 (hdual ▸ hmay)
    exact ⟨hstat, hlength, hact⟩
  split at h
  · rename_i hact
    cases h
    refine ⟨fun _ => Option.some_ne_none _, ?_⟩
    rintro _ ⟨⟩
    exact ⟨rfl, rfl, r, hfind, trivial, hready hact⟩
  · split at h
    · rename_i hact
      split at h
      · cases h
      · rename_i update hupd
        cases h
        refine ⟨fun _ => Option.some_ne_none _, ?_⟩
        rintro _ ⟨⟩
        exact ⟨rfl, rfl, r, hfind, ⟨hact, .inl hupd⟩, hready hact⟩
    · cases h

lemma admitted_updateBudget {header : Option String} {body : Ledger.EnterpriseBudgetUpdate}
    (h : admitBudgetUpdate env actor header body sys.store.memory = .ok q) :
    Admitted env sys (.updateBudget actor header body) q := by
  obtain ⟨-, -, h⟩ := Except.bind_eq_ok.1 h
  obtain ⟨approval, happr, h⟩ := Except.bind_eq_ok.1 h
  cases h
  unfold requireHighRiskChange at happr
  split at happr
  · split at happr
    · cases happr
    · rename_i hdual
      cases happr
      exact ⟨fun h => absurd h hdual, nofun⟩
  · rename_i requestId hhead
    obtain ⟨r', hr', happr⟩ := Except.bind_eq_ok.1 happr
    cases happr
    obtain ⟨r, hr, hr'⟩ := Except.bind_eq_ok.1 hr'
    obtain ⟨_, hmatch, -⟩ := Except.bind_eq_ok.1 hr'
    obtain ⟨hfind, hmay⟩ := changeForApplication_eq_ok.1 hr
    obtain ⟨hstat, hlength⟩ := mayApply_true.1 hmay
    simp only [Except.ensure_eq_ok, Bool.and_eq_true, decide_eq_true_eq] at hmatch
    refine ⟨fun _ => Option.some_ne_none _, ?_⟩
    rintro _ ⟨⟩
    exact ⟨(Option.filter_eq_some_iff.1 hhead).1, rfl, r, hfind, ⟨hmatch.1.1, .inr hmatch.1.2⟩,
      fun _ => ⟨hstat, hlength, hmatch.1.1⟩⟩

/-- The applications under way after an event. -/
inductive Agenda (env : GovernanceEnv) (sys : System) (e : Event) : List Pending → Prop
  | same : Agenda env sys e sys.pending
  | begun (q : Pending) (hq : Admitted env sys e q)
      (hstore : (sys.next env e).store = sys.store) : Agenda env sys e (sys.pending ++ [q])
  | resumed (i : ℕ) (p : Pending) (now : ℕ) (write : Write) (he : e = .resume i now write)
      (hp : sys.pending[i]? = some p) :
      Agenda env sys e (sys.pending.eraseIdx i ++ sys.followUp env p now write)
  | cleared (he : e = .restart) : Agenda env sys e []

/-- **What an event does to the applications.** -/
lemma agenda_next (env : GovernanceEnv) (sys : System) (e : Event) :
    Agenda env sys e (sys.next env e).pending := by
  have hpush : ∀ answer, sys.next env e = sys.push answer →
      (∀ q, answer = .ok q → Admitted env sys e q) → Agenda env sys e (sys.next env e).pending := by
    intro answer hnext hanswer
    cases answer with
    | error =>
      rw [hnext]
      exact .same
    | ok q =>
      have hbegun := Agenda.begun q (hanswer q rfl) (by rw [hnext]; rfl)
      rw [hnext]
      exact hbegun
  cases e with
  | create | approve =>
    simp only [next]
    split <;> exact .same
  | apply actor requestId => exact hpush _ rfl fun q => admitted_apply
  | updateBudget actor header body => exact hpush _ rfl fun q => admitted_updateBudget
  | ledger d => exact .same
  | restart => exact .cleared rfl
  | resume i now write =>
    cases hp : sys.pending[i]? with
    | none =>
      simp only [next, hp]
      exact .same
    | some p =>
      rw [next_resume hp, pending_advance]
      exact .resumed i p now write rfl hp

end

end ModelPort.Governance
