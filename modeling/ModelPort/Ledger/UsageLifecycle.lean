import ModelPort.Ledger.Admission

/-!
# Usage reservations follow their request

The usage reservation of a request is a function of two things: whether the request is open, and
the estimates of the attempts admitted for it (`expected`). Every call keeps it so, as long as the
attempt that creates a reservation commits while its request is open and nobody is finishing it.
Nothing in the code sees to that last condition: an attempt whose request is finished between its
first statement and its commit leaves a reservation that is never closed.

* `usage_follows_request`: the lifecycle in every run that keeps the promise.
* `reservation_outlives_request`: a run that does not keep it.
-/

namespace ModelPort

open Relational Transaction Protocol UsageRow List

namespace Ledger

variable {w : Ledger → Ledger} {t : TenantKey} {i : String} {d : Ledger} {now : Timestamp}

/-! ### Requests and their reservations -/

/-- A request as its lifecycle sees it: the tenant, and whether it is open. -/
def standing (ledgerId : String) (d : Ledger) : Option (TenantKey × Bool) :=
  (d.requests.find (.ledgerId ledgerId)).map fun r => (r.tenant, r.record.state == .started)

/-- A usage reservation as its lifecycle sees it: whether it holds capacity, and how much. -/
structure Capacity where
  isOpen : Bool
  requests : ℤ
  tokens : ℤ
  costMicrounits : ℤ
  deriving DecidableEq

namespace Capacity

/-- The reservation, closed if the condition holds. -/
def closeIf (closes : Bool) (c : Capacity) : Capacity := { c with isOpen := c.isOpen && !closes }

/-- The reservation with the estimate of one more attempt. -/
def add (estimate : UsageEstimate) (c : Capacity) : Capacity :=
  { c with
    tokens := c.tokens + toI64 (estimateTotalTokens estimate)
    costMicrounits := c.costMicrounits + ModelPort.costMicrounits estimate.costEstimate }

/-- The reservation of a request with these admitted attempts. -/
def ofEstimates (isOpen : Bool) (estimates : List UsageEstimate) : Capacity where
  isOpen := isOpen
  requests := 1
  tokens := (estimates.map fun e => toI64 (estimateTotalTokens e)).sum
  costMicrounits := (estimates.map fun e => ModelPort.costMicrounits e.costEstimate).sum

@[simp] lemma closeIf_false (c : Capacity) : c.closeIf false = c := by
  simp [closeIf]

lemma map_closeIf_false (c : Option Capacity) : c.map (closeIf false) = c := by
  rw [show closeIf false = id from funext closeIf_false, Option.map_id, id_eq]

lemma closeIf_closeIf (a b : Bool) (c : Capacity) :
    (c.closeIf a).closeIf b = c.closeIf (b || a) := by
  cases a <;> cases b <;> simp [closeIf]

end Capacity

def capacityOf (u : UsageRow) : Capacity :=
  ⟨u.state == .reserved, u.reservedRequests, u.reservedTokens, u.reservedCostMicrounits⟩

/-- The usage reservation of a request. -/
def capacity (tenant : TenantKey) (ledgerId : String) (d : Ledger) : Option Capacity :=
  (d.usage.find (tenant, ledgerId)).map capacityOf

/-- The estimate that the call adds to the usage reservation of the request. -/
def Call.adds (tenant : TenantKey) (ledgerId : String) : Call → Option UsageEstimate
  | .beginAttempt b =>
    if b.request.tenant = tenant ∧ b.request.ledgerId = ledgerId ∧ reservesUsage b.usagePolicy then
      some b.estimate
    else none
  | _ => none

/-- The estimates of the attempts of a request that were admitted under a limit. -/
def estimates (tenant : TenantKey) (ledgerId : String) (lg : List TimedCall) : List UsageEstimate :=
  lg.filterMap fun call => call.2.adds tenant ledgerId

/-- **The reservation a request should have**, from its standing and its admitted attempts. -/
def expected (tenant : TenantKey) (request : Option (TenantKey × Bool))
    (admitted : List UsageEstimate) : Option Capacity :=
  if admitted = [] then none else some (.ofEstimates (request == some (tenant, true)) admitted)

section

variable {tenant : TenantKey} {ledgerId : String} {f : RequestRow → RequestRow}
  {q : RequestRow → Bool} {d' : Ledger}

lemma beq_started (started : Bool) : (some (t, started) == some (t, true)) = started := by
  cases started <;> simp

lemma find_request {r : RequestRow} :
    d.requests.find (.ledgerId i) = some r ↔ r ∈ d.requests.rows ∧ r.ledgerId = i := by
  rw [Table.find_eq_some]
  refine and_congr_right fun _ => ?_
  cases r.idempotencyKeyHash <;> simp [RequestRow.keys, eq_comm]

lemma find_usage {u : UsageRow} :
    d.usage.find (t, i) = some u ↔ u ∈ d.usage.rows ∧ u.isFor t i := by
  rw [Table.find_eq_some]
  refine and_congr_right fun _ => ?_
  simp only [UsageRow.keys, mem_singleton, Prod.mk.injEq, isFor, Bool.and_eq_true, beq_iff_eq]
  exact and_congr eq_comm eq_comm

lemma standing_eq_some {started : Bool} : standing i d = some (t, started) ↔
    ∃ r ∈ d.requests.rows, r.ledgerId = i ∧ r.tenant = t ∧
      (r.record.state == .started) = started := by
  simp only [standing, Option.map_eq_some_iff, find_request, Prod.mk.injEq, and_assoc]

lemma capacity_eq_some {c : Capacity} : capacity t i d = some c ↔
    ∃ u ∈ d.usage.rows, u.isFor t i ∧ capacityOf u = c := by
  simp only [capacity, Option.map_eq_some_iff, find_usage, and_assoc]

lemma standing_congr (h : d'.requests = d.requests) : standing i d' = standing i d := by
  rw [standing, standing, h]

lemma capacity_congr (h : d'.usage = d.usage) : capacity t i d' = capacity t i d := by
  rw [capacity, capacity, h]

/-- An update of requests that leaves tenants and states alone. -/
lemma standing_update (hf : ∀ r, (f r).keys = r.keys) (hten : ∀ r, (f r).tenant = r.tenant)
    (hstate : ∀ r, (f r).record.state = r.record.state) :
    standing i (d.setRequests (d.requests.update q f hf)) = standing i d := by
  simp only [standing, setRequests_requests, Table.find_update, Option.map_map]
  congr 1
  funext r
  simp only [Function.comp_apply, Table.assign]
  split
  · rw [hten, hstate]
  · rfl

lemma standing_finish (hf : ∀ r, (f r).keys = r.keys) (hten : ∀ r, (f r).tenant = r.tenant)
    (hstate : ∀ r, (f r).record.state ≠ .started) {ids : List String}
    (hq : ∀ r, q r = decide (r.ledgerId ∈ ids)) :
    standing i (d.setRequests (d.requests.update q f hf))
      = (standing i d).map fun s => (s.1, s.2 && decide (i ∉ ids)) := by
  simp only [standing, setRequests_requests, Table.find_update]
  cases hfind : d.requests.find (.ledgerId i) with
  | none => rfl
  | some r =>
    have hid : r.ledgerId = i := (find_request.1 hfind).2
    simp only [Option.map_some, Table.assign, hq, hid]
    by_cases hmem : i ∈ ids
    · simp [hmem, hten, hstate]
    · simp [hmem]

lemma capacity_close {f : UsageRow → UsageRow} (hf : ∀ u, (f u).keys = u.keys)
    (hclose : ∀ u, capacityOf (f u) = (capacityOf u).closeIf true) :
    capacity t i (d.setUsage (d.usage.update (isFor tenant ledgerId) f hf))
      = (capacity t i d).map (Capacity.closeIf (decide ((t, i) = (tenant, ledgerId)))) := by
  simp only [capacity, setUsage_usage, Table.find_update]
  cases hfind : d.usage.find (t, i) with
  | none => rfl
  | some u =>
    have hfor := (find_usage.1 hfind).2
    simp only [isFor, Bool.and_eq_true, beq_iff_eq] at hfor
    simp only [Option.map_some, Table.assign, isFor, hfor.1, hfor.2]
    by_cases h : t = tenant ∧ i = ledgerId
    · simp [h.1, h.2, hclose]
    · have hfalse : (t == tenant && i == ledgerId) = false := by simpa using h
      simp [h]

end

/-! ### The protocol -/

/-- The reservation of the request holds capacity. -/
def HoldsCapacity (tenant : TenantKey) (ledgerId : String) (d : Ledger) : Prop :=
  (capacity tenant ledgerId d).any Capacity.isOpen

/-- The call closes requests. -/
def Call.Finishes : Call → Prop
  | .finalizeRequest _ _ _ => True
  | .reconcileExpired => True
  | _ => False

/-- The attempt creates the usage reservation of its request. -/
def Creates (b : BeginAttempt) (d : Ledger) : Prop :=
  reservesUsage b.usagePolicy ∧ capacity b.request.tenant b.request.ledgerId d = none

/-- An attempt that creates a reservation commits while its request is open. -/
def OpenAtCommit (d : Ledger) : Call → Prop
  | .beginAttempt b => Creates b d → standing b.request.ledgerId d = some (b.request.tenant, true)
  | _ => True

/-- An attempt that creates a reservation does not commit while another transaction has the
request locked in order to finish it. -/
def NotFinishing (d : Ledger) (call me : Call) (held : List Lock) : Prop :=
  match call with
  | .beginAttempt b => Creates b d → me.Finishes →
      Lock.request (.ledgerId b.request.ledgerId) ∉ held
  | _ => True

/-- **The state between commits**: reservations are what they should be, and a request with
admitted attempts is there. -/
structure LifecycleInv (lg : List TimedCall) (d : Ledger) : Prop where
  reservation : ∀ t i, capacity t i d = expected t (standing i d) (estimates t i lg)
  begun : ∀ t i, estimates t i lg ≠ [] → ∃ started, standing i d = some (t, started)

/-- What the commit of a call does. -/
structure LifecycleStep (call : TimedCall) (locks : List Lock) (d d' : Ledger) : Prop where
  /-- requests stay, and a finished one stays finished -/
  standing : ∀ t i started, standing i d = some (t, started) →
    ∃ started', Ledger.standing i d' = some (t, started') ∧ (started' → started)
  /-- reservations change only under their lock -/
  locked : ∀ t i, Lock.usage (t, i) ∉ locks → capacity t i d' = capacity t i d
  /-- reservations stay -/
  stays : ∀ t i, capacity t i d ≠ none → capacity t i d' ≠ none
  /-- only a new reservation can hold capacity that was not held before -/
  opens : ∀ t i, HoldsCapacity t i d' → HoldsCapacity t i d ∨
    ∃ b, call.2 = .beginAttempt b ∧ b.request.tenant = t ∧ b.request.ledgerId = i ∧ Creates b d

/-- The protocol of the lifecycle. -/
def lifecycleProtocol : Protocol Ledger Lock AppError TimedCall where
  inv lg d := LifecycleInv lg d
  guar call locks _ d d' := LifecycleStep call locks d d'
  ok call _ d _ := OpenAtCommit d call.2
  apart call _ d me held := NotFinishing d call.2 me.2 held
  refusal _ _ _ _ := True

section

variable {call : TimedCall} {held : List Lock} {pend : Ledger → Ledger}
  {x y : List TimedCall × Ledger} {α : Type}

lemma estimates_cons_of_none (h : call.2.adds t i = none)
    (lg : List TimedCall) : estimates t i (call :: lg) = estimates t i lg :=
  filterMap_cons_none h

lemma estimates_cons_of_some {e : UsageEstimate}
    (h : call.2.adds t i = some e) (lg : List TimedCall) :
    estimates t i (call :: lg) = e :: estimates t i lg :=
  filterMap_cons_some h

/-- Refusals are not restricted. -/
lemma lifecycle_errors (p : LedgerTxn α) :
    p.Errors fun e => ∀ lg d, lifecycleProtocol.refusal call e lg d :=
  Txn.errors_of_forall (fun _ _ _ => trivial) p

lemma inv_stable_lifecycle (p : (Ledger → Ledger) → Prop) : lifecycleProtocol.Stable call
    fun _ pend y => LifecycleInv y.1 y.2 ∧ p pend := by
  rintro _ _ _ _ h ⟨_, _, -, -, -, -, -, hinv⟩
  exact ⟨hinv, h.2⟩

/-- Statements that write neither requests nor reservations. -/
lemma safe_aside {p : LedgerTxn α} (hp : p.All fun _ st => st.Writes Aside) :
    lifecycleProtocol.Triple call (fun _ pend y => LifecycleInv y.1 y.2 ∧ Aside pend) p
      fun _ _ pend y => LifecycleInv y.1 y.2 ∧ Aside pend := by
  refine .of_all (inv_stable_lifecycle Aside) (lifecycle_errors p)
    (hp.imp fun _ st hst held pend y hy b w hb => ⟨hy.1, fun d => ?_⟩)
  exact ⟨((hst _ b w hb _).1).trans (hy.2 d).1, ((hst _ b w hb _).2).trans (hy.2 d).2⟩

/-! ### Calls that leave the lifecycle alone -/

/-- A write after which every request and every reservation stands as before; new requests
apart. -/
structure Quiet (w : Ledger → Ledger) : Prop where
  standing : ∀ d i, Ledger.standing i (w d) = Ledger.standing i d ∨ Ledger.standing i d = none
  capacity : ∀ d t i, Ledger.capacity t i (w d) = Ledger.capacity t i d

lemma Quiet.of_eq (hreq : ∀ d, (w d).requests = d.requests)
    (husage : ∀ d, (w d).usage = d.usage) : Quiet w :=
  ⟨fun d _ => .inl (standing_congr (hreq d)), fun d _ _ => capacity_congr (husage d)⟩

lemma Quiet.comp (hw : Quiet w) (hpend : Quiet pend) : Quiet (w ∘ pend) := by
  refine ⟨fun d i => ?_, fun d t i => (hw.capacity _ t i).trans (hpend.capacity d t i)⟩
  rcases hpend.standing d i with h | h
  · rw [← h]
    exact hw.standing _ i
  · exact .inr h

lemma quiet_budgetWrites : BudgetWrites Quiet where
  idle := .of_eq (fun _ => rfl) fun _ => rfl
  attempts _ := .of_eq (fun _ => rfl) fun _ => rfl
  accounts _ := .of_eq (fun _ => rfl) fun _ => rfl
  reservations _ := .of_eq (fun _ => rfl) fun _ => rfl
  event _ := .of_eq (fun _ => rfl) fun _ => rfl

lemma quiet_insertRequest (row : RequestRow) :
    Quiet fun d => d.setRequests (d.requests.insert row) := by
  refine ⟨fun d i => ?_, fun _ _ _ => rfl⟩
  cases hfind : d.requests.find (.ledgerId i) with
  | none => exact .inr (by rw [standing, hfind]; rfl)
  | some r =>
    refine .inl ?_
    rw [standing, setRequests_requests, Table.find_insert_of_some hfind, standing, hfind]

/-- **A transaction whose writes are all quiet.** -/
lemma safe_quiet {p : LedgerTxn Unit} (hp : p.All fun _ st => st.Writes Quiet)
    (hcall : ∀ t i, call.2.adds t i = none) (hx : LifecycleInv x.1 x.2) :
    lifecycleProtocol.Safe call [] id p (lifecycleProtocol.Final call) x := by
  refine Triple.mono (Triple.of_all (inv_stable_lifecycle Quiet) (lifecycle_errors p)
    (hp.imp fun _ st hst held pend y hy b w hb => ⟨hy.1, (hst _ b w hb).comp hy.2⟩))
    (fun _ held pend y ⟨hinv, hquiet⟩ _ => ?_) [] id x ⟨hx, quiet_budgetWrites.idle⟩
  refine ⟨⟨fun t i started h => ?_, fun t i _ => hquiet.capacity _ t i, fun t i h => ?_,
    fun t i h => Or.inl ?_⟩, fun t i => ?_, fun t i h => ?_⟩
  · rcases hquiet.standing y.2 i with hsame | hnone
    · exact ⟨started, hsame.trans h, fun h => h⟩
    · rw [hnone] at h
      cases h
  · rwa [hquiet.capacity]
  · rwa [HoldsCapacity, hquiet.capacity] at h
  · rw [hquiet.capacity, estimates_cons_of_none (hcall t i), hinv.reservation]
    rcases hquiet.standing y.2 i with hsame | hnone
    · rw [hsame]
    · have hempty : estimates t i y.1 = [] := by
        by_contra hne
        obtain ⟨_, hstand⟩ := hinv.begun t i hne
        rw [hnone] at hstand
        cases hstand
      rw [hempty]
      rfl
  · rw [estimates_cons_of_none (hcall t i)] at h
    obtain ⟨started, hstand⟩ := hinv.begun t i h
    rcases hquiet.standing y.2 i with hsame | hnone
    · exact ⟨started, hsame.trans hstand⟩
    · rw [hnone] at hstand
      cases hstand

/-! ### Calls that finish requests -/

/-- The assertion of a transaction that finishes the requests `ids`: it has seen to the
reservations of `processed`, of which it closes `closed`; the others hold no capacity. -/
structure Finishing (ids processed closed : List (TenantKey × String)) (held : List Lock)
    (pend : Ledger → Ledger) (x : List TimedCall × Ledger) : Prop where
  inv : LifecycleInv x.1 x.2
  standing : ∀ d i, Ledger.standing i (pend d)
    = (Ledger.standing i d).map fun s => (s.1, s.2 && decide (i ∉ ids.map Prod.snd))
  capacity : ∀ d t i, Ledger.capacity t i (pend d)
    = (Ledger.capacity t i d).map (Capacity.closeIf (decide ((t, i) ∈ closed)))
  begun : ∀ k ∈ ids, ∃ started, Ledger.standing k.2 x.2 = some (k.1, started)
  requestLocks : ∀ k ∈ ids, Lock.request (.ledgerId k.2) ∈ held
  usageLocks : ∀ k ∈ closed, Lock.usage k ∈ held
  closed_sub : ∀ k ∈ closed, k ∈ ids
  processed_sub : ∀ k ∈ processed, k ∈ ids
  settled : ∀ k ∈ processed, k ∈ closed ∨ ¬ HoldsCapacity k.1 k.2 x.2

section

variable {ids processed closed : List (TenantKey × String)} {request : LedgerRequest}
  {outcome : LedgerOutcome} {rs : List RequestRow}

/-- The requests are finished; their reservations are still to be seen to. -/
lemma Finishing.start (hx : LifecycleInv x.1 x.2) (hstand : ∀ d i, Ledger.standing i (pend d)
      = (Ledger.standing i d).map fun s => (s.1, s.2 && decide (i ∉ ids.map Prod.snd)))
    (husage : ∀ d, (pend d).usage = d.usage)
    (hbegun : ∀ k ∈ ids, (∃ started, Ledger.standing k.2 x.2 = some (k.1, started)) ∧
      Lock.request (.ledgerId k.2) ∈ held) : Finishing ids [] [] held pend x := by
  refine ⟨hx, hstand, fun d t i => ?_, fun k hk => (hbegun k hk).1, fun k hk => (hbegun k hk).2,
    nofun, nofun, nofun, nofun⟩
  simp only [not_mem_nil, decide_false, Capacity.map_closeIf_false]
  exact capacity_congr (husage d)

/-- Nobody opens a reservation of a request that is being finished. -/
lemma finishing_stable (hcall : call.2.Finishes) :
    lifecycleProtocol.Stable call (Finishing ids processed closed) := by
  rintro held pend x y h ⟨other, _, -, -, hapart, hguar, -, hinv⟩
  refine ⟨hinv, h.standing, h.capacity, fun k hk => ?_, h.requestLocks, h.usageLocks,
    h.closed_sub, h.processed_sub, fun k hk => ?_⟩
  · obtain ⟨started, hk⟩ := h.begun k hk
    obtain ⟨started', hk', -⟩ := hguar.standing _ _ _ hk
    exact ⟨started', hk'⟩
  · refine (h.settled k hk).imp_right fun hnot hholds => ?_
    rcases hguar.opens _ _ hholds with hbef | ⟨b, hb, hten, hid, hcreates⟩
    · exact hnot hbef
    · simp only [lifecycleProtocol, hb] at hapart
      refine hapart hcreates hcall ?_
      rw [hid]
      exact h.requestLocks k (h.processed_sub k hk)

/-- A statement that leaves requests and reservations standing. -/
lemma Finishing.write (h : Finishing ids processed closed held pend x)
    (hstand : ∀ d i, Ledger.standing i (w d) = Ledger.standing i d)
    (hcapacity : ∀ d t i, Ledger.capacity t i (w d) = Ledger.capacity t i d) (locks : List Lock) :
    Finishing ids processed closed (locks ++ held) (w ∘ pend) x where
  inv := h.inv
  standing d i := (hstand _ i).trans (h.standing d i)
  capacity d t i := (hcapacity _ t i).trans (h.capacity d t i)
  begun := h.begun
  requestLocks k hk := mem_append_right _ (h.requestLocks k hk)
  usageLocks k hk := mem_append_right _ (h.usageLocks k hk)
  closed_sub := h.closed_sub
  processed_sub := h.processed_sub
  settled := h.settled

lemma not_holdsCapacity (h : d.usage.rows.filter (openFor t i) = []) : ¬ HoldsCapacity t i d := by
  intro hholds
  obtain ⟨c, hc, hopen⟩ := (Option.any_eq_true _ _).1 hholds
  obtain ⟨u, hu, hfor, rfl⟩ := capacity_eq_some.1 hc
  refine filter_eq_nil_iff.1 h u hu ?_
  simp only [openFor, hfor]
  exact hopen

/-- **The release of one reservation**: it is closed, or it holds no capacity. -/
lemma Finishing.release (h : Finishing ids processed closed held pend x) (hmem : (t, i) ∈ ids)
    {f : UsageRow → UsageRow} {hf : ∀ u, (f u).keys = u.keys}
    (hclose : ∀ u, capacityOf (f u) = (capacityOf u).closeIf true) {rs : List UsageRow}
    (hw : (updateUsage (openFor t i) f hf).exec (pend x.2) = .ok (rs, w)) :
    ∃ closed', Finishing ids ((t, i) :: processed) closed'
      ((updateUsage (openFor t i) f hf).locks (pend x.2) ++ held) (w ∘ pend) x := by
  have hprocessed := forall_mem_cons.2 ⟨hmem, h.processed_sub⟩
  rcases updateUsage_write hw with ⟨hnone, rfl⟩ | ⟨hsome, rfl⟩
  · -- no open row: the reservation is closed already, or never held capacity
    have hwrite := h.write (w := id) (fun _ _ => rfl) (fun _ _ _ => rfl)
      ((updateUsage (openFor t i) f hf).locks (pend x.2))
    refine ⟨closed, { hwrite with
      processed_sub := hprocessed, settled := forall_mem_cons.2 ⟨?_, h.settled⟩ }⟩
    by_cases hclos : (t, i) ∈ closed
    · exact .inl hclos
    · refine .inr fun hholds => not_holdsCapacity hnone ?_
      rwa [HoldsCapacity, h.capacity, decide_eq_false hclos, Capacity.map_closeIf_false]
  · obtain ⟨u, hu⟩ := exists_mem_of_ne_nil _ hsome
    obtain ⟨hu, hopen⟩ := mem_filter.1 hu
    have hlock : Lock.usage (t, i) ∈ (updateUsage (openFor t i) f hf).locks (pend x.2) := by
      refine mem_map.2 ⟨u, mem_filter.2 ⟨hu, hopen⟩, ?_⟩
      simp only [openFor, isFor, Bool.and_eq_true, beq_iff_eq] at hopen
      rw [hopen.1.1, hopen.1.2]
    refine ⟨(t, i) :: closed, h.inv, fun d j => ?_, fun d t' j => ?_, h.begun,
      fun k hk => mem_append_right _ (h.requestLocks k hk),
      forall_mem_cons.2 ⟨mem_append_left _ hlock,
        fun k hk => mem_append_right _ (h.usageLocks k hk)⟩,
      forall_mem_cons.2 ⟨hmem, h.closed_sub⟩, hprocessed,
      forall_mem_cons.2 ⟨.inl mem_cons_self,
        fun k hk => (h.settled k hk).imp_left (mem_cons_of_mem _)⟩⟩
    · rw [← h.standing]
      exact standing_congr rfl
    · rw [Function.comp_apply, capacity_close hf hclose, h.capacity, Option.map_map]
      congr 1
      funext c
      rw [Function.comp_apply, Capacity.closeIf_closeIf]
      simp only [mem_cons, Bool.decide_or]

/-- **The commit of a transaction that has seen to all reservations of the requests it
finishes.** -/
lemma Finishing.final (h : Finishing ids processed closed held pend x)
    (hids : ∀ k ∈ ids, k ∈ processed) (hcall : ∀ t i, call.2.adds t i = none) :
    lifecycleProtocol.Final call () held pend x := by
  intro _
  refine ⟨⟨fun t i started hstand => ?_, fun t i hlock => ?_, fun t i hne => ?_,
    fun t i hholds => Or.inl ?_⟩, fun t i => ?_, fun t i hne => ?_⟩
  · refine ⟨started && decide (i ∉ ids.map Prod.snd), ?_, fun hboth => ?_⟩
    · rw [h.standing, hstand]
      rfl
    · exact (Bool.and_eq_true_iff.1 hboth).1
  · have hclos : (t, i) ∉ closed := fun hmem => hlock (h.usageLocks _ hmem)
    rw [h.capacity, decide_eq_false hclos, Capacity.map_closeIf_false]
  · rwa [h.capacity, ne_eq, Option.map_eq_none_iff]
  · obtain ⟨c, hc, hopen⟩ := (Option.any_eq_true _ _).1 hholds
    rw [h.capacity, Option.map_eq_some_iff] at hc
    obtain ⟨c', hc', rfl⟩ := hc
    exact (Option.any_eq_true _ _).2 ⟨c', hc', (Bool.and_eq_true_iff.1 hopen).1⟩
  · rw [h.capacity, h.standing, estimates_cons_of_none (hcall t i), h.inv.reservation]
    by_cases hempty : estimates t i x.1 = []
    · simp [expected, hempty]
    · obtain ⟨started, hstand⟩ := h.inv.begun t i hempty
      have hopen : HoldsCapacity t i x.2 ↔ started := by
        simp [HoldsCapacity, h.inv.reservation, expected, hempty, hstand, Capacity.ofEstimates]
      -- a reservation that is left alone holds no capacity, if its request is among the finished
      have hsame : (started && !decide ((t, i) ∈ closed))
          = (started && decide (i ∉ ids.map Prod.snd)) := by
        by_cases hmem : i ∈ ids.map Prod.snd
        · obtain ⟨⟨t', _⟩, hk, rfl⟩ := mem_map.1 hmem
          obtain ⟨_, ht'⟩ := h.begun _ hk
          rw [hstand, Option.some.injEq] at ht'
          obtain ⟨rfl, rfl⟩ := ht'
          rcases h.settled _ (hids _ hk) with hclos | hnot
          · simp [hclos, hmem]
          · have hfalse : started = false := Bool.eq_false_iff.2 fun hs => hnot (hopen.2 hs)
            simp [hfalse]
        · have hclos : (t, i) ∉ closed := fun hc =>
            hmem (mem_map.2 ⟨(t, i), h.closed_sub _ hc, rfl⟩)
          simp [hclos, hmem]
      simp only [expected, hempty, if_false, hstand, Option.map_some, beq_started,
        Capacity.closeIf, Capacity.ofEstimates, hsame]
  · rw [estimates_cons_of_none (hcall t i)] at hne
    obtain ⟨started, hstand⟩ := h.inv.begun t i hne
    refine ⟨started && decide (i ∉ ids.map Prod.snd), ?_⟩
    rw [h.standing, hstand]
    rfl

lemma capacityOf_settleUsageRow (outcome : LedgerOutcome) (now : Timestamp) (u : UsageRow) :
    capacityOf (settleUsageRow outcome now u) = (capacityOf u).closeIf true := by
  simp only [capacityOf, settleUsageRow, Capacity.closeIf]
  cases outcome.chargeable <;> simp

/-- The first statement of a finalization that goes on. -/
lemma finishRequest_finishing (hx : LifecycleInv x.1 x.2)
    (hw : (finishRequest request outcome now).exec x.2 = .ok (true, w)) :
    Finishing [(request.tenant, request.ledgerId)] [] []
      ((finishRequest request outcome now).locks x.2 ++ held) (w ∘ id) x := by
  obtain ⟨rfl, r, hr, hid, hten⟩ := finishRequest_write hw
  refine .start hx (fun d i => ?_) (fun _ => rfl) fun k hk => ?_
  · refine standing_finish (finishRequestRow_keys outcome now) (fun _ => rfl) (fun _ => ?_)
      fun r => ?_
    · exact TerminalState.toRecord_ne_started _
    · simp only [map_cons, map_nil, mem_singleton]
      rfl
  · obtain rfl := mem_singleton.1 hk
    refine ⟨⟨_, standing_eq_some.2 ⟨r, (mem_filter.1 hr).1, hid, hten, rfl⟩⟩, ?_⟩
    refine mem_append_left _ (mem_map.2 ⟨r, hr, ?_⟩)
    rw [hid]

/-- **A finalization** closes the reservation of its request. -/
lemma finalizeRequest_safe_lifecycle {snapshot : Option ProviderSnapshot} :
    lifecycleProtocol.Triple (now, .finalizeRequest request outcome snapshot)
      (fun _ pend y => LifecycleInv y.1 y.2 ∧ pend = id)
      (finalizeRequestUsage request outcome snapshot now)
      (lifecycleProtocol.Final (now, .finalizeRequest request outcome snapshot)) := by
  let key := (request.tenant, request.ledgerId)
  have hstable : ∀ {processed closed}, lifecycleProtocol.Stable
      (now, .finalizeRequest request outcome snapshot) (Finishing [key] processed closed) :=
    finishing_stable trivial
  refine .seq (.of_all (inv_stable_lifecycle _) (lifecycle_errors _) (all_ofExcept _)) fun _ => ?_
  refine .seq (.stmt
    (Q := fun (updated : Bool) held pend y => updated → Finishing [key] [] [] held pend y)
    (inv_stable_lifecycle _) (fun _ _ _ _ _ h hrely hup => hstable _ _ _ _ (h hup) hrely)
    (fun _ _ y hy updated w hw hup => ?_) fun _ _ _ _ _ _ => trivial) fun updated => ?_
  · subst hup
    rw [hy.2] at hw ⊢
    exact finishRequest_finishing hy.1 hw
  cases updated with
  | false => exact fun _ _ _ _ => safe_throw.2 fun _ _ => trivial
  | true =>
    refine .seq (.stmt (Q := fun _ => Finishing [key] [] [])
      (fun _ _ _ _ h hrely _ => hstable _ _ _ _ (h rfl) hrely) (fun _ => hstable)
      (fun _ _ y hy rs w hw => ?_) fun _ _ _ _ _ _ => trivial) fun _ => ?_
    · obtain ⟨q, -, rfl⟩ := updateRequests_write_ids hw
      have hkeep : ∀ d i, standing i (d.setRequests (d.requests.update q
          (withSnapshot snapshot) (withSnapshot_keys snapshot))) = standing i d :=
        fun d i => standing_update _ (fun _ => rfl) fun _ => rfl
      exact (hy rfl).write hkeep (fun _ _ _ => capacity_congr rfl) _
    have hclos : lifecycleProtocol.Stable (now, .finalizeRequest request outcome snapshot)
        fun held pend y => ∃ closed, Finishing [key] [key] closed held pend y :=
      .exists fun _ => hstable
    refine .seq (.stmt hstable (fun _ => hclos) (fun _ _ y hy rs w hw => ?_)
      fun _ _ _ _ _ _ => trivial) fun _ => ?_
    · exact hy.release mem_cons_self (capacityOf_settleUsageRow outcome now) hw
    · exact .done hclos fun _ _ _ ⟨closed, hfin⟩ =>
        hfin.final (fun _ hk => hk) fun _ _ => rfl

lemma expireRequests_finishing (hx : LifecycleInv x.1 x.2) (haside : Aside pend)
    (hw : (expireRequests now).exec (pend x.2) = .ok (rs, w)) :
    Finishing (rs.map fun r => (r.tenant, r.ledgerId)) [] []
      ((expireRequests now).locks (pend x.2) ++ held) (w ∘ pend) x := by
  obtain ⟨hrs, -⟩ := updateRequests_exec hw
  obtain ⟨q, hq, rfl⟩ := updateRequests_write_ids hw
  rw [(haside x.2).1] at hrs hq
  have hexp : ∀ k ∈ rs.map fun r => (r.tenant, r.ledgerId),
      ∃ r ∈ x.2.requests.rows.filter fun r => leaseExpired now r.record,
        (r.tenant, r.ledgerId) = k := by
    intro k hk
    rw [hrs, map_map] at hk
    exact mem_map.1 hk
  refine .start hx (fun d i => ?_) (fun d => (haside d).2) fun k hk => ?_
  · have hids : (rs.map fun r => (r.tenant, r.ledgerId)).map Prod.snd
        = (x.2.requests.rows.filter fun r => leaseExpired now r.record).map (·.ledgerId) := by
      simp only [hrs, map_map]
      rfl
    rw [hids, ← standing_congr (haside d).1]
    refine standing_finish (expireRequestRow_keys now) (fun _ => rfl) (fun _ => ?_) hq
    simp [expireRequestRow, RecordColumns.expire]
  · obtain ⟨r, hr, rfl⟩ := hexp k hk
    refine ⟨⟨_, standing_eq_some.2 ⟨r, (mem_filter.1 hr).1, rfl, rfl, rfl⟩⟩, ?_⟩
    refine mem_append_left _ (mem_map.2 ⟨r, ?_, rfl⟩)
    rwa [requestsT_get, (haside x.2).1]

/-- The releases of a reconciliation, one reservation at a time. -/
lemma releaseExpiredUsage_safe (hcall : call.2.Finishes)
    (hrs : ∀ r ∈ rs, (r.tenant, r.ledgerId) ∈ ids) : lifecycleProtocol.Triple call
      (fun held pend y => ∃ closed, Finishing ids processed closed held pend y)
      (releaseExpiredUsage now rs) fun _ held pend y => ∃ closed,
        Finishing ids ((rs.map fun r => (r.tenant, r.ledgerId)).reverse ++ processed) closed
          held pend y := by
  induction rs generalizing processed with
  | nil => exact .done (.exists fun _ => finishing_stable hcall) fun _ _ _ h => h
  | cons r rest ih =>
    rw [map_cons, reverse_cons, append_assoc]
    refine .seq (.stmt (.exists fun _ => finishing_stable hcall)
      (fun _ => .exists fun _ => finishing_stable hcall) (fun _ _ y ⟨_, hy⟩ _ w hw => ?_)
      fun _ _ _ _ _ _ => trivial) fun _ => ih fun s hs => hrs s (mem_cons_of_mem r hs)
    refine hy.release (hrs r mem_cons_self) (fun u => ?_) hw
    simp [capacityOf, releaseUsageRow, Capacity.closeIf]

/-- **A reconciliation** closes the reservations of the requests it fails. -/
lemma reconcileExpired_safe_lifecycle : lifecycleProtocol.Triple (now, .reconcileExpired)
    (fun _ pend y => LifecycleInv y.1 y.2 ∧ Aside pend) (do let _ ← reconcileExpired now)
    (lifecycleProtocol.Final (now, .reconcileExpired)) := by
  have hcall : Call.reconcileExpired.Finishes := trivial
  have hstable : ∀ {ids processed}, lifecycleProtocol.Stable (now, .reconcileExpired)
      fun held pend y => ∃ closed, Finishing ids processed closed held pend y :=
    .exists fun _ => finishing_stable hcall
  refine .seq (R := fun _ held pend y => ∃ ids closed,
    Finishing ids (ids.reverse ++ []) closed held pend y) ?_ fun _ =>
      Triple.done (.exists fun _ => hstable) fun _ _ _ ⟨ids, closed, hfin⟩ => ?_
  · refine .seq (safe_aside (.stmt (expireAttempts_writes
      fun _ => aside_budgetWrites.attempts _))) fun attempts => ?_
    refine .seq (safe_aside (aside_budgetWrites.releaseExpired attempts)) fun _ => ?_
    refine .seq (.stmt (Q := fun (rs : List RequestRow) held pend y => ∃ closed,
        Finishing (rs.map fun r => (r.tenant, r.ledgerId)) [] closed held pend y)
      (inv_stable_lifecycle Aside) (fun _ => hstable) (fun _ _ y hy rs w hw =>
        ⟨[], expireRequests_finishing hy.1 hy.2 hw⟩) fun _ _ _ _ _ _ => trivial) fun rs => ?_
    refine .seq (releaseExpiredUsage_safe hcall fun r hr => mem_map.2 ⟨r, hr, rfl⟩)
      fun _ => .done hstable fun _ _ _ h => ⟨_, h⟩
  · exact hfin.final (fun k hk => by simpa using hk) fun _ _ => rfl

end

/-! ### Admission of an attempt -/

section

variable {b : BeginAttempt} {existing : Bool}

/-- The write of an admission concerns one reservation only. -/
lemma capacity_admit_other (h : (t, i) ≠ (b.request.tenant, b.request.ledgerId)) :
    capacity t i (admitUsage b now existing d) = capacity t i d := by
  cases existing with
  | false =>
    simp only [capacity, setUsage_usage, admitUsage, Bool.false_eq_true, if_false]
    rw [Table.find_insert_of_notMem]
    simpa [newUsageRow, UsageRow.keys] using h
  | true =>
    simp only [capacity, setUsage_usage, admitUsage, if_true, Table.find_update]
    cases hfind : d.usage.find (t, i) with
    | none => rfl
    | some u =>
      have hfor := (find_usage.1 hfind).2
      have hnot : u.isFor b.request.tenant b.request.ledgerId = false := by
        simp only [isFor, Bool.and_eq_true, beq_iff_eq] at hfor
        simpa [isFor, hfor.1, hfor.2] using h
      simp only [Option.map_some, Table.assign_of_neg hnot]

lemma capacity_admit_retry :
    capacity b.request.tenant b.request.ledgerId (admitUsage b now true d)
      = (capacity b.request.tenant b.request.ledgerId d).map (Capacity.add b.estimate) := by
  simp only [capacity, setUsage_usage, admitUsage, if_true, Table.find_update]
  cases hfind : d.usage.find (b.request.tenant, b.request.ledgerId) with
  | none => rfl
  | some u =>
    have hfor := (find_usage.1 hfind).2
    simp only [Option.map_some, Table.assign_of_pos hfor]
    rfl

lemma capacity_admit_first (h : capacity b.request.tenant b.request.ledgerId d = none) :
    capacity b.request.tenant b.request.ledgerId (admitUsage b now false d)
      = some (.ofEstimates true [b.estimate]) := by
  have hfree : d.usage.Free (newUsageRow b.request b.usagePolicy (.forAttempt b.estimate true)
      now) := by
    intro u hu k hk
    obtain rfl : k = (b.request.tenant, b.request.ledgerId) := mem_singleton.1 hk
    exact Table.find_eq_none.1 (Option.map_eq_none_iff.1 h) u hu
  have hfind := Table.find_insert_self hfree
    (mem_singleton.2 rfl : (b.request.tenant, b.request.ledgerId) ∈ _)
  simp only [capacity, setUsage_usage, admitUsage, Bool.false_eq_true, if_false, hfind]
  simp [capacityOf, newUsageRow, Capacity.ofEstimates, UsageReservationIncrement.forAttempt, toI64,
    i64Max]

/-- The assertion of an admission that has looked for the reservation of its request. -/
structure Looked (b : BeginAttempt) (existing : Bool) (pend : Ledger → Ledger)
    (x : List TimedCall × Ledger) : Prop where
  inv : LifecycleInv x.1 x.2
  aside : Aside pend
  row : existing → capacity b.request.tenant b.request.ledgerId x.2 ≠ none

/-- The assertion of an admission once it has reserved its usage. -/
structure Adding (b : BeginAttempt) (now : Timestamp) (existing : Bool) (held : List Lock)
    (pend : Ledger → Ledger) (x : List TimedCall × Ledger) : Prop where
  inv : LifecycleInv x.1 x.2
  reserves : Reserves b now existing pend
  lock : Lock.usage (b.request.tenant, b.request.ledgerId) ∈ held
  row : existing → capacity b.request.tenant b.request.ledgerId x.2 ≠ none
  free : existing = false → capacity b.request.tenant b.request.ledgerId x.2 = none

lemma looked_stable : lifecycleProtocol.Stable call fun _ => Looked b existing := by
  rintro held pend x y h ⟨_, _, -, -, -, hguar, -, hinv⟩
  exact ⟨hinv, h.aside, fun hex => hguar.stays _ _ (h.row hex)⟩

lemma adding_stable : lifecycleProtocol.Stable call (Adding b now existing) := by
  rintro held pend x y h ⟨_, _, hlocks, -, -, hguar, -, hinv⟩
  refine ⟨hinv, h.reserves, h.lock, fun hex => hguar.stays _ _ (h.row hex), fun hex => ?_⟩
  rw [hguar.locked _ _ fun hlock => hlocks _ hlock h.lock]
  exact h.free hex

lemma adds_beginAttempt (hres : reservesUsage b.usagePolicy) (t : TenantKey) (i : String) :
    (Call.beginAttempt b).adds t i
      = if (t, i) = (b.request.tenant, b.request.ledgerId) then some b.estimate else none := by
  simp only [Call.adds, hres, and_true, Prod.mk.injEq, eq_comm]

section

variable (h : Adding b now existing held pend x)

include h

lemma Adding.capacity_write (t : TenantKey) (i : String) :
    capacity t i (pend x.2) = capacity t i (admitUsage b now existing x.2) :=
  capacity_congr (h.reserves x.2).2

/-- The reservation of the request at the commit of an admission. -/
lemma Adding.capacity_eq (hok : OpenAtCommit x.2 (.beginAttempt b))
    (hres : reservesUsage b.usagePolicy) :
    capacity b.request.tenant b.request.ledgerId (pend x.2)
      = expected b.request.tenant (standing b.request.ledgerId x.2)
        (b.estimate :: estimates b.request.tenant b.request.ledgerId x.1) := by
  have hbef := h.inv.reservation b.request.tenant b.request.ledgerId
  rw [h.capacity_write]
  cases existing with
  | true =>
    have hne : estimates b.request.tenant b.request.ledgerId x.1 ≠ [] := by
      intro hempty
      rw [hempty] at hbef
      exact h.row rfl hbef
    rw [capacity_admit_retry, hbef]
    simp [expected, hne, Capacity.ofEstimates, Capacity.add, add_comm]
  | false =>
    have hnone := h.free rfl
    have hempty : estimates b.request.tenant b.request.ledgerId x.1 = [] := by
      by_contra hne
      rw [hnone] at hbef
      simp [expected, hne] at hbef
    rw [capacity_admit_first hnone, hempty, hok ⟨hres, hnone⟩]
    simp [expected]

/-- **The commit of an admission.** -/
lemma Adding.final (hres : reservesUsage b.usagePolicy) :
    lifecycleProtocol.Final (now, .beginAttempt b) () held pend x := by
  intro hok
  have hstand : ∀ i, standing i (pend x.2) = standing i x.2 := fun i =>
    standing_congr (h.reserves x.2).1
  have hother : ∀ t i, (t, i) ≠ (b.request.tenant, b.request.ledgerId) →
      capacity t i (pend x.2) = capacity t i x.2 := by
    intro t i hne
    rw [h.capacity_write, capacity_admit_other hne]
  have hself := h.capacity_eq hok hres
  refine ⟨⟨fun t i started hs => ⟨started, (hstand i).trans hs, fun h => h⟩, fun t i hlock => ?_,
    fun t i hne => ?_, fun t i hholds => ?_⟩, fun t i => ?_, fun t i hne => ?_⟩
  · refine hother t i fun hkey => hlock ?_
    rw [hkey]
    exact h.lock
  · by_cases hkey : (t, i) = (b.request.tenant, b.request.ledgerId)
    · obtain ⟨rfl, rfl⟩ := Prod.mk.inj hkey
      simp [hself, expected]
    · rwa [hother t i hkey]
  · by_cases hkey : (t, i) = (b.request.tenant, b.request.ledgerId)
    · obtain ⟨rfl, rfl⟩ := Prod.mk.inj hkey
      cases existing with
      | false => exact .inr ⟨b, rfl, rfl, rfl, hres, h.free rfl⟩
      | true =>
        left
        have hretry : capacity b.request.tenant b.request.ledgerId (pend x.2)
            = (capacity b.request.tenant b.request.ledgerId x.2).map
              (.add b.estimate) := by
          rw [h.capacity_write, capacity_admit_retry]
        rw [HoldsCapacity, hretry, Option.any_map] at hholds
        exact hholds
    · rw [HoldsCapacity, hother t i hkey] at hholds
      exact .inl hholds
  · by_cases hkey : (t, i) = (b.request.tenant, b.request.ledgerId)
    · obtain ⟨rfl, rfl⟩ := Prod.mk.inj hkey
      rw [hself, hstand, estimates_cons_of_some ((adds_beginAttempt hres _ _).trans (if_pos rfl))]
    · rw [hother t i hkey, hstand,
        estimates_cons_of_none ((adds_beginAttempt hres t i).trans (if_neg hkey))]
      exact h.inv.reservation t i
  · simp only [hstand]
    by_cases hkey : (t, i) = (b.request.tenant, b.request.ledgerId)
    · obtain ⟨rfl, rfl⟩ := Prod.mk.inj hkey
      cases existing with
      | false => exact ⟨true, hok ⟨hres, h.free rfl⟩⟩
      | true =>
        refine h.inv.begun _ _ fun hempty => h.row rfl ?_
        rw [h.inv.reservation, hempty]
        rfl
    · rw [estimates_cons_of_none ((adds_beginAttempt hres t i).trans (if_neg hkey))] at hne
      exact h.inv.begun t i hne

end

/-- **The admission of usage.** -/
lemma reserveUsageCapacity_safe_lifecycle (hres : reservesUsage b.usagePolicy) :
    lifecycleProtocol.Triple call (fun _ pend y => LifecycleInv y.1 y.2 ∧ Aside pend)
      (reserveUsageCapacity b.request b.usagePolicy b.estimate now)
      fun _ held pend y => ∃ existing, Adding b now existing held pend y := by
  have hlooked : ∀ existing {p : LedgerTxn Unit}, (p.All fun _ st => st.Writes (· = id)) →
      lifecycleProtocol.Triple call (fun _ => Looked b existing) p
        fun _ _ => Looked b existing := by
    intro existing p hp
    refine .of_all looked_stable (lifecycle_errors p)
      (hp.imp fun _ st hst held pend y hy u w hw => ?_)
    rw [hst _ u w hw]
    exact hy
  unfold reserveUsageCapacity
  rw [if_pos hres]
  refine .seq (safe_aside (lockUsageScopes_writes aside_budgetWrites.idle _)) fun _ => ?_
  refine .seq (.stmt (Q := fun existing _ => Looked b existing)
    (inv_stable_lifecycle Aside) (fun _ => looked_stable) (fun _ _ y hy existing w hw => ?_)
    fun _ _ _ _ _ _ => trivial) fun existing => ?_
  · obtain ⟨rfl, hrow⟩ := existingUsage_exec hy.2 hw
    refine ⟨hy.1, hy.2, fun hex hnone => ?_⟩
    obtain ⟨u, hmem, hfor, -⟩ := hrow hex
    cases hnone.symm.trans (capacity_eq_some.2 ⟨u, hmem, hfor, rfl⟩)
  refine .seq (hlooked existing (.stmt
    (checked_writes (select_writes (W := (· = id)) rfl _) _))) fun _ => ?_
  refine .seq (hlooked existing (enforceQuotas_writes (W := (· = id)) rfl _ _ _)) fun _ => ?_
  refine writeUsage_safe looked_stable (fun _ => .exists fun _ => adding_stable)
    (fun _ _ _ => trivial) fun _ _ y _ hy hlock hfree => ⟨existing, hy.inv,
      hy.aside.reserves, mem_append_left _ hlock, hy.row, fun hex => ?_⟩
  rw [capacity, ← (hy.aside y.2).2]
  exact Option.map_eq_none_iff.2 (Table.find_of_free (hfree hex) (mem_singleton.2 rfl))

/-- **An admission** follows the protocol. -/
lemma beginAttempt_safe_lifecycle (hres : reservesUsage b.usagePolicy) :
    lifecycleProtocol.Triple (now, .beginAttempt b)
      (fun _ pend y => LifecycleInv y.1 y.2 ∧ Aside pend)
      (do let _ ← beginAttemptWithPricing b now)
      (lifecycleProtocol.Final (now, .beginAttempt b)) := by
  have hstable : lifecycleProtocol.Stable (now, .beginAttempt b)
      fun held pend y => ∃ existing, Adding b now existing held pend y :=
    .exists fun _ => adding_stable
  refine .seq ?_ fun _ => .done hstable fun _ _ _ ⟨existing, h⟩ => h.final hres
  refine .seq (safe_aside (.stmt (aside_budgetWrites.insertAttempt _ _))) fun _ => ?_
  refine .seq (safe_aside (all_ofExcept _)) fun _ => ?_
  refine .seq (reserveUsageCapacity_safe_lifecycle hres) fun _ => ?_
  exact .of_all hstable (lifecycle_errors _) ((aside_budgetWrites.reserveAttempt b now).imp
    fun _ st hst held pend y ⟨existing, hy⟩ u w hw => ⟨existing, hy.inv,
      hy.reserves.comp (hst _ u w hw), mem_append_right _ hy.lock, hy.row, hy.free⟩)

end

/-- **Every call follows the protocol.** -/
lemma Call.safe_lifecycle (sha : String → String) :
    lifecycleProtocol.Follows (TimedCall.program sha) := by
  rintro ⟨now, call⟩ lg d hd
  cases call with
  | beginRequest b =>
    refine safe_quiet (.bind (beginRequest_writes quiet_budgetWrites.idle (fun _ => ?_)
      (quiet_insertRequest _) fun _ => ?_) fun _ => Txn.all_done _) (fun _ _ => rfl) hd
    all_goals exact .of_eq (fun _ => rfl) fun _ => rfl
  | beginAttempt b =>
    cases hres : reservesUsage b.usagePolicy with
    | true => exact beginAttempt_safe_lifecycle hres [] id _ ⟨hd, aside_budgetWrites.idle⟩
    | false =>
      exact safe_quiet (Txn.All.bind (quiet_budgetWrites.beginAttempt_of_not hres) fun _ =>
        Txn.all_done _) (fun t i => by simp [Call.adds, hres]) hd
  | finalizeAttempt attempt outcome =>
    exact safe_quiet (quiet_budgetWrites.finalizeAttempt attempt outcome) (fun _ _ => rfl) hd
  | finalizeRequest request outcome snapshot =>
    exact finalizeRequest_safe_lifecycle [] id _ ⟨hd, rfl⟩
  | renewLease request leaseTtl =>
    refine safe_quiet (renewLease_writes (fun q => ⟨fun d i => .inl ?_, fun _ _ _ => ?_⟩)
      (fun _ => quiet_budgetWrites.attempts _) request) (fun _ _ => rfl) hd
    · exact standing_update (renewRequestRow_keys leaseTtl now) (fun _ => rfl) fun _ => rfl
    · exact capacity_congr rfl
  | reconcileExpired =>
    exact reconcileExpired_safe_lifecycle [] id _ ⟨hd, aside_budgetWrites.idle⟩
  | updateBudget input =>
    exact safe_quiet (quiet_budgetWrites.updateBudget input) (fun _ _ => rfl) hd
  | adjustBudget input actorId =>
    exact safe_quiet (quiet_budgetWrites.adjustBudget input actorId) (fun _ _ => rfl) hd

end

/-! ### The lifecycle -/

instance (b : BeginAttempt) (d : Ledger) : Decidable (Creates b d) :=
  inferInstanceAs (Decidable (_ ∧ _))

instance : DecidablePred Call.Finishes :=
  fun call => by induction call using Call.casesOn <;> unfold Call.Finishes <;> infer_instance

instance (d : Ledger) : DecidablePred (OpenAtCommit d) :=
  fun call => by induction call using Call.casesOn <;> unfold OpenAtCommit <;> infer_instance

instance (d : Ledger) (call me : Call) (held : List Lock) :
    Decidable (NotFinishing d call me held) := by
  induction call using Call.casesOn <;> unfold NotFinishing <;> infer_instance

instance (call : TimedCall) (lg : List TimedCall) (d d' : Ledger) :
    Decidable (lifecycleProtocol.ok call lg d d') :=
  inferInstanceAs (Decidable (OpenAtCommit d call.2))

instance (call me : TimedCall) (lg : List TimedCall) (d : Ledger) (held : List Lock) :
    Decidable (lifecycleProtocol.apart call lg d me held) :=
  inferInstanceAs (Decidable (NotFinishing d call.2 me.2 held))

/-- The reservation holds capacity while the request is open, once an attempt was admitted. -/
lemma LifecycleInv.holdsCapacity_iff {lg : List TimedCall} (h : LifecycleInv lg d) :
    HoldsCapacity t i d ↔ standing i d = some (t, true) ∧ estimates t i lg ≠ [] := by
  rw [HoldsCapacity, h.reservation, expected]
  by_cases hempty : estimates t i lg = []
  · simp [hempty]
  · simp [hempty, Capacity.ofEstimates]

lemma holdsCapacity_iff :
    HoldsCapacity t i d ↔ ∃ u ∈ d.usage.rows, u.isFor t i ∧ u.state = .reserved := by
  rw [HoldsCapacity, Option.any_eq_true]
  constructor
  · rintro ⟨c, hc, hopen⟩
    obtain ⟨u, hu, hfor, rfl⟩ := capacity_eq_some.1 hc
    exact ⟨u, hu, hfor, by simpa [capacityOf] using hopen⟩
  · rintro ⟨u, hu, hfor, hstate⟩
    exact ⟨_, capacity_eq_some.2 ⟨u, hu, hfor, rfl⟩, by simp [capacityOf, hstate]⟩

/-- **Usage reservations follow their request.** In every interleaving in which an attempt that
creates a reservation commits while its request is open and not being finished: a request has at
most one reservation; it is `reserved` exactly while the request is `started` and has had an
attempt admitted under a limit; it counts one request and the sums of the admitted estimates; and
once the request is finished, it never holds capacity again. -/
theorem usage_follows_request (sha256Hex : String → String) {s : Sys Ledger Lock AppError TimedCall}
    (hs : Reach (TimedCall.program sha256Hex) lifecycleProtocol.Promised (Sys.idle Ledger.empty) s)
    (t : TenantKey) (i : String) :
    (∀ u ∈ s.committed.usage.rows, ∀ v ∈ s.committed.usage.rows, u.isFor t i → v.isFor t i →
      u = v) ∧ ((∃ u ∈ s.committed.usage.rows, u.isFor t i ∧ u.state = .reserved) ↔
      (∃ r ∈ s.committed.requests.rows, r.ledgerId = i ∧ r.tenant = t ∧
        r.record.state = .started) ∧ estimates t i s.log ≠ []) ∧
    (∀ u ∈ s.committed.usage.rows, u.isFor t i → u.reservedRequests = 1 ∧ u.reservedTokens
        = ((estimates t i s.log).map fun e => toI64 (estimateTotalTokens e)).sum ∧
      u.reservedCostMicrounits
        = ((estimates t i s.log).map fun e => costMicrounits e.costEstimate).sum) ∧
    ∀ s', Reach (TimedCall.program sha256Hex) lifecycleProtocol.Promised s s' →
      (∃ r ∈ s.committed.requests.rows, r.ledgerId = i ∧ r.tenant = t ∧ r.record.state ≠ .started) →
      ∀ u ∈ s'.committed.usage.rows, u.isFor t i → u.state ≠ .reserved := by
  have hsafe := Call.safe_lifecycle sha256Hex
  have hsound := sound hsafe ⟨fun _ _ => rfl, fun _ _ h => absurd rfl h⟩ hs
  have hinv := hsound.inv
  refine ⟨fun u hu v hv hut hvt => ?_, ?_, fun u hu hut => ?_, fun s' hs' hfinished u hu hut => ?_⟩
  · exact Option.some.inj ((find_usage.2 ⟨hu, hut⟩).symm.trans (find_usage.2 ⟨hv, hvt⟩))
  · rw [← holdsCapacity_iff, hinv.holdsCapacity_iff, standing_eq_some]
    simp only [beq_iff_eq]
  · have hrow := hinv.reservation t i
    rw [capacity_eq_some.2 ⟨u, hu, hut, rfl⟩, expected] at hrow
    split at hrow
    · cases hrow
    · simp only [Option.some.injEq, capacityOf, Capacity.ofEstimates, Capacity.mk.injEq] at hrow
      exact hrow.2
  · -- a finished request stays finished, so at `s'` its reservation holds no capacity
    obtain ⟨r, hr, hid, hten, hstate⟩ := hfinished
    have hbef : standing i s.committed = some (t, false) :=
      standing_eq_some.2 ⟨r, hr, hid, hten, by simpa using hstate⟩
    have hafter : standing i s'.committed = some (t, false) := by
      refine hsound.keeps hsafe (K := fun d => standing i d = some (t, false))
        (fun _ _ _ d d' hguar h => ?_) hs' hbef
      obtain ⟨started, h', himp⟩ := hguar.standing _ _ _ h
      rw [h', Bool.eq_false_iff.2 fun hs => Bool.false_ne_true (himp hs)]
    have hinv' := (hsound.reach hsafe hs').inv
    intro hopen
    have hholds := hinv'.holdsCapacity_iff.1 (holdsCapacity_iff.2 ⟨u, hu, hut, hopen⟩)
    rw [hafter] at hholds
    cases hholds.1

namespace Sample

/-- A request, and the beginning of its first attempt. -/
def firstAttempt : List (Move TimedCall) :=
  [.start 0 (0, .beginRequest (beginRequest "req"))] ++ .replicate 3 (.go 0) ++
    [.start 0 (1, .beginAttempt (beginAttempt "req" "one" (1 / 2) policy))]

/-- The attempt commits, and so does a retry. -/
def retried : List (Move TimedCall) :=
  firstAttempt ++ .replicate 13 (.go 0) ++
    [.start 0 (2, .beginAttempt (beginAttempt "req" "two" (1 / 2) policy))] ++
    .replicate 13 (.go 0)

/-- The request is finished before its attempt reserves usage. -/
def finishedEarly : List (Move TimedCall) :=
  firstAttempt ++ [.go 0,
    .start 1 (2, .finalizeRequest ⟨"req", tenant, "node"⟩
      { outcome 0 with chargeable := false } none)]
    ++ .replicate 4 (.go 1) ++ .replicate 12 (.go 0)

end Sample

/-- A request with a retry. -/
theorem usage_follows_request_sample :
    ∃ s, Reach (TimedCall.program id) lifecycleProtocol.Promised (Sys.idle Ledger.empty) s ∧
      s.committed.usage.rows.length = 1 ∧ s.log.length = 3 ∧
      ∀ u ∈ s.committed.usage.rows, u.isFor Sample.tenant "req" → u.reservedRequests = 1 := by
  have hrun : ∃ s, Reach (TimedCall.program id) lifecycleProtocol.Promised
      (.idle Ledger.empty) s ∧ (s.committed.usage.rows.length = 1 ∧ s.log.length = 3) :=
    Sys.exists_reach 1 Sample.retried (by decide +kernel)
  obtain ⟨s, hs, hrows, hlog⟩ := hrun
  exact ⟨s, hs, hrows, hlog, fun u hu hfor =>
    ((usage_follows_request id hs Sample.tenant "req").2.2.1 u hu hfor).1⟩

/-- **A reservation that outlives its request**: the request is finished after its attempt has
found it open and before the attempt reserves usage. The reservation is committed on the finished
request, and nothing closes it any more. -/
theorem reservation_outlives_request :
    ∃ s, Reach (TimedCall.program id) (fun _ _ => True) (Sys.idle Ledger.empty) s ∧
      ∃ r ∈ s.committed.requests.rows, r.record.state = .completed ∧
        ∃ u ∈ s.committed.usage.rows, u.isFor r.tenant r.ledgerId ∧ u.state = .reserved :=
  Sys.exists_run 2 Sample.finishedEarly (by decide +kernel)

end Ledger

end ModelPort
