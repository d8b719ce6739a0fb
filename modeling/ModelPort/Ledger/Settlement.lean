import ModelPort.Ledger.Budget

/-!
# One reservation and one settlement per attempt

An attempt is begun with one event and closed with another, whoever closes it: the process that
sent it or a reconciliation after its lease ran out.
-/

namespace ModelPort

open Relational Transaction ReservationRow Table List

namespace Ledger

variable {d d' : Ledger} {now : Timestamp} {u : Unit}

variable {r : AttemptRow} {sha : String → String} {call : Call} {p : AttemptRow → Bool}
  {f : AttemptRow → AttemptRow} {attempt : LedgerAttempt} {tenant : TenantKey}

/-! ### Events of an attempt -/

/-- How often the attempt's reservation was created. -/
def created (attemptId : String) (events : List BudgetEvent) : ℕ :=
  events.countP fun e => e.attemptId == some attemptId && e.eventType == .reservationCreated

/-- How often the attempt's reservation was settled or released. -/
def closings (attemptId : String) (events : List BudgetEvent) : ℕ :=
  events.countP fun e =>
    e.attemptId == some attemptId && (e.eventType == .settled || e.eventType == .released)

/-- The attempt still holds its reservation. -/
def Live (pending : List String) (r : AttemptRow) : Prop :=
  r.record.state = .started ∨ r.attemptId ∈ pending

instance (pending : List String) (r : AttemptRow) : Decidable (Live pending r) :=
  inferInstanceAs (Decidable (_ ∨ _))

/-- Every attempt was created once, has been closed unless it is live, and its reservation is
open as long as it is; no event is about an attempt that is not there. -/
structure Tracked (pending : List String) (d : Ledger) : Prop where
  created : ∀ r ∈ d.attempts.rows, created r.attemptId d.events = 1
  closings : ∀ r ∈ d.attempts.rows,
    closings r.attemptId d.events = if Live pending r then 0 else 1
  reservation : ∀ r ∈ d.attempts.rows, ∃ s ∈ d.reservations.rows,
    s.attemptId = r.attemptId ∧ s.tenant = r.tenant ∧ (s.state = .reserved ↔ Live pending r)
  event : ∀ e ∈ d.events, ∀ id, e.attemptId = some id →
    ∃ r ∈ d.attempts.rows, r.attemptId = id

section

variable {pending pending' : List String} {events : List BudgetEvent}

lemma counts_eq_zero {id : String} (h : ∀ e ∈ events, e.attemptId ≠ some id) :
    Ledger.created id events = 0 ∧ Ledger.closings id events = 0 := by
  constructor
  · refine countP_eq_zero.2 fun e he => ?_
    simp [h e he]
  · refine countP_eq_zero.2 fun e he => ?_
    simp [h e he]

lemma counts_cons_of_ne {id : String} {e : BudgetEvent}
    (h : e.attemptId ≠ some id) : Ledger.created id (e :: events) = Ledger.created id events ∧
      Ledger.closings id (e :: events) = Ledger.closings id events := by
  constructor
  · exact countP_cons_of_neg (by simp [h])
  · exact countP_cons_of_neg (by simp [h])

lemma Tracked.isOpen (h : Tracked pending d) (hr : r ∈ d.attempts.rows) (hlive : Live pending r) :
    d.reservations.rows.filter (openFor r.tenant r.attemptId) ≠ [] := by
  obtain ⟨s, hs, hid, hten, hstate⟩ := h.reservation r hr
  refine ne_nil_of_mem (mem_filter.2 ⟨hs, ?_⟩)
  simp [openFor, hid, hten, hstate.2 hlive]

/-- A rewrite of the attempts that keeps their ids and tenants, and who is live. -/
lemma Tracked.setAttempts {t : Table AttemptRow.keys} (h : Tracked pending d)
    (hrows : ∀ r' ∈ t.rows, ∃ r ∈ d.attempts.rows, r'.attemptId = r.attemptId ∧
      r'.tenant = r.tenant ∧ (Live pending' r' ↔ Live pending r))
    (hids : ∀ r ∈ d.attempts.rows, ∃ r' ∈ t.rows, r'.attemptId = r.attemptId) :
    Tracked pending' (d.setAttempts t) where
  created r' hr' := by
    obtain ⟨r, hr, hid, -, -⟩ := hrows r' hr'
    rw [hid]
    exact h.created r hr
  closings r' hr' := by
    obtain ⟨r, hr, hid, -, hlive⟩ := hrows r' hr'
    simp only [hid, hlive]
    exact h.closings r hr
  reservation r' hr' := by
    obtain ⟨r, hr, hid, hten, hlive⟩ := hrows r' hr'
    rw [hid, hten, hlive]
    exact h.reservation r hr
  event e he id hid := by
    obtain ⟨r, hr, rfl⟩ := h.event e he id hid
    exact hids r hr

/-- Rewriting open rows into finished ones puts them on the pending list. -/
lemma Tracked.finish (hf : ∀ r, (f r).keys = r.keys) (h : Tracked [] d)
    (hp : ∀ r, p r → r.record.state = .started)
    (hfinish : ∀ r, (f r).record.state ≠ .started ∧ (f r).tenant = r.tenant) :
    Tracked ((d.attempts.rows.filter p).map (·.attemptId))
      (d.setAttempts (d.attempts.update p f hf)) := by
  have hid : ∀ r, (f r).attemptId = r.attemptId := fun r => by
    simpa [AttemptRow.keys] using hf r
  refine h.setAttempts (fun r' hr' => ?_) fun r hr => ?_
  · obtain ⟨r, hr, rfl⟩ := (mem_update _).1 hr'
    refine ⟨r, hr, ?_⟩
    cases hpr : p r with
    | true =>
      rw [assign_of_pos hpr]
      refine ⟨hid r, (hfinish r).2, ?_⟩
      have hmem : r.attemptId ∈ (d.attempts.rows.filter p).map (·.attemptId) :=
        mem_map.2 ⟨r, mem_filter.2 ⟨hr, hpr⟩, rfl⟩
      simp only [Live, hid r, hmem, hp r hpr, or_true, true_or]
    | false =>
      rw [assign_of_neg hpr]
      refine ⟨rfl, rfl, ?_⟩
      -- the id determines the row, so a row that was not selected is not pending
      have hmem : r.attemptId ∉ (d.attempts.rows.filter p).map (·.attemptId) := by
        intro hmem
        obtain ⟨s, hs, hsid⟩ := mem_map.1 hmem
        have hps := (mem_filter.1 hs).2
        rw [attempt_eq (mem_filter.1 hs).1 hr hsid, hpr] at hps
        cases hps
      simp only [Live, hmem, not_mem_nil]
  · refine ⟨_, (mem_update _).2 ⟨_, hr, rfl⟩, ?_⟩
    cases hpr : p r with
    | true => rw [assign_of_pos hpr, hid]
    | false => rw [assign_of_neg hpr]

/-- **Closing a reservation** takes its attempt off the pending list. -/
lemma Closing.tracked {id : String} (c : Closing d tenant id)
    (h : Tracked (id :: pending) d) (hid : id ∉ pending)
    {r0 : AttemptRow} (hr0 : r0 ∈ d.attempts.rows) (hid0 : r0.attemptId = id)
    (htenant0 : r0.tenant = tenant) (hstate0 : r0.record.state ≠ .started) :
    Tracked pending c.result := by
  have hother : ∀ r : AttemptRow, r.attemptId ≠ id → (Live (id :: pending) r ↔ Live pending r) := by
    intro r hr
    simp [Live, hr]
  have hself : ∀ r ∈ d.attempts.rows, r.attemptId = id → ¬ Live pending r := by
    intro r hr hrid
    obtain rfl := attempt_eq hr hr0 (hrid.trans hid0.symm)
    simp [Live, hstate0, hrid, hid]
  have hevents : c.result.events = c.event :: d.events := rfl
  refine ⟨fun r hr => ?_, fun r hr => ?_, fun r hr => ?_, fun e he id' hid' => ?_⟩
  · rw [hevents, Ledger.created, countP_cons_of_neg]
    · exact h.created r hr
    · rcases c.outcome with ⟨-, htype⟩ | ⟨-, -, htype⟩ <;> simp [htype]
  · by_cases hrid : r.attemptId = id
    · have hbef := h.closings r hr
      rw [if_pos (by simp [Live, hrid])] at hbef
      rw [if_neg (hself r hr hrid), hevents, Ledger.closings, countP_cons_of_pos]
      · unfold Ledger.closings at hbef
        omega
      · rcases c.outcome with ⟨-, htype⟩ | ⟨-, -, htype⟩ <;> simp [htype, c.eventAttempt, hrid]
    · rw [hevents, (counts_cons_of_ne (by simp [c.eventAttempt, Ne.symm hrid])).2]
      simp only [← hother r hrid]
      exact h.closings r hr
  · obtain ⟨s, hs, hsid, hst, hstate⟩ := h.reservation r hr
    have hkeys := c.keepsKeys s
    simp only [ReservationRow.keys, List.cons.injEq, ReservationKey.attempt.injEq,
      and_true] at hkeys
    refine ⟨_, (mem_update c.keepsKeys).2 ⟨_, hs, rfl⟩, ?_⟩
    by_cases hrid : r.attemptId = id
    · have hopen : openFor tenant id s := by
        have hreserved : s.state = .reserved := hstate.2 (by simp [Live, hrid])
        obtain rfl := attempt_eq hr hr0 (hrid.trans hid0.symm)
        simp [openFor, hsid, hrid, hst, htenant0, hreserved]
      rw [assign_of_pos hopen]
      refine ⟨by rw [hkeys.2.2, hsid], by rw [hkeys.2.1, hst], ?_⟩
      have hclos : (c.close s).state ≠ .reserved := by
        rcases c.outcome with ⟨hst, -⟩ | ⟨hst, -⟩ <;> simp [hst]
      simp only [hclos, hself r hr hrid]
    · have hopen : openFor tenant id s = false := by
        simp [openFor, hsid, hrid]
      rw [assign_of_neg hopen]
      exact ⟨hsid, hst, hstate.trans (hother r hrid)⟩
  · rcases mem_cons.1 he with rfl | he
    · rw [c.eventAttempt, Option.some.injEq] at hid'
      exact ⟨r0, hr0, hid0.trans hid'⟩
    · exact h.event e he id' hid'

/-! ### What a call does to the attempts -/

/-- Attempts and reservations are the same, and no new event is about an attempt. -/
structure Frame (d d' : Ledger) : Prop where
  attempts : d'.attempts = d.attempts
  reservations : d'.reservations = d.reservations
  events : ∃ new, d'.events = new ++ d.events ∧ ∀ e ∈ new, e.attemptId = none

lemma Frame.of_eq (ha : d'.attempts = d.attempts) (hr : d'.reservations = d.reservations)
    (he : d'.events = d.events) : Frame d d' :=
  ⟨ha, hr, [], by simpa using he, by simp⟩

lemma Frame.refl (d : Ledger) : Frame d d := .of_eq rfl rfl rfl

lemma Frame.trans {a b c : Ledger} (hab : Frame a b) (hbc : Frame b c) : Frame a c := by
  obtain ⟨ha, hr, new, he, hnew⟩ := hab
  obtain ⟨ha', hr', new', he', hnew'⟩ := hbc
  exact ⟨ha'.trans ha, hr'.trans hr, new' ++ new, by rw [he', he, append_assoc],
    forall_mem_append.2 ⟨hnew', hnew⟩⟩

lemma Tracked.frame (h : Tracked pending d) (hframe : Frame d d') : Tracked pending d' := by
  obtain ⟨ha, hr, new, he, hnew⟩ := hframe
  have hcnt : ∀ id, Ledger.created id d'.events = Ledger.created id d.events ∧
      Ledger.closings id d'.events = Ledger.closings id d.events := by
    intro id
    have hzero : Ledger.created id new = 0 ∧ Ledger.closings id new = 0 :=
      counts_eq_zero fun e hmem => by simp [hnew e hmem]
    simp only [Ledger.created, Ledger.closings] at hzero
    simp only [he, Ledger.created, Ledger.closings, countP_append, hzero.1, hzero.2, zero_add,
      and_self]
  refine ⟨?_, ?_, ?_, ?_⟩
  · simpa only [ha, hcnt] using h.created
  · simpa only [ha, hcnt] using h.closings
  · simpa only [ha, hr] using h.reservation
  · intro e hmem id hid
    rw [he] at hmem
    rcases mem_append.1 hmem with hmem | hmem
    · rw [hnew e hmem] at hid
      cases hid
    · rw [ha]
      exact h.event e hmem id hid

/-- **A begun attempt** is created, live and has its reservation. -/
lemma beginAttempt_tracked {b : BeginAttempt} (h : Tracked [] d)
    (hrun : (beginAttemptWithPricing b now).run d = .ok (attempt, d')) : Tracked [] d' := by
  obtain ⟨usage, accounts, a, hfree, -, -, -, hres, rfl⟩ := beginAttempt_run hrun
  have hne : ∀ r ∈ d.attempts.rows, r.attemptId ≠ b.attemptId := by
    intro r hr heq
    exact hfree r hr b.attemptId (by simp [AttemptRow.keys, BeginAttempt.attemptRow])
      (by simp [AttemptRow.keys, heq])
  have hnew : ∀ e ∈ d.events, e.attemptId ≠ some b.attemptId := by
    intro e he hid
    obtain ⟨r, hr, hrid⟩ := h.event e he _ hid
    exact hne r hr hrid
  have hzero := counts_eq_zero hnew
  have hlive : Live [] (b.attemptRow now) := .inl rfl
  refine ⟨fun r hr => ?_, fun r hr => ?_, fun r hr => ?_, fun e he id hid => ?_⟩
  · rcases mem_insert hr with rfl | hr
    · change Ledger.created b.attemptId _ = 1
      rw [pushEvent_events, Ledger.created, countP_cons_of_pos (by simp [attemptEvent,
        BeginAttempt.handle])]
      exact congrArg (· + 1) hzero.1
    · rw [pushEvent_events, (counts_cons_of_ne (by simp [attemptEvent, BeginAttempt.handle,
        Ne.symm (hne r hr)])).1]
      exact h.created r hr
  · rcases mem_insert hr with rfl | hr
    · rw [pushEvent_events, Ledger.closings, countP_cons_of_neg (by simp [attemptEvent])]
      exact hzero.2
    · rw [pushEvent_events, (counts_cons_of_ne (by simp [attemptEvent, BeginAttempt.handle,
        Ne.symm (hne r hr)])).2]
      exact h.closings r hr
  · rcases mem_insert hr with rfl | hr
    · exact ⟨b.reservationRow now, mem_insert_self hres, rfl, rfl, fun _ => hlive, fun _ => rfl⟩
    · obtain ⟨s, hs, hrest⟩ := h.reservation r hr
      exact ⟨s, mem_insert_of_mem hs, hrest⟩
  · rcases mem_cons.1 he with rfl | he
    · refine ⟨b.attemptRow now, mem_insert_self hfree, ?_⟩
      simpa [attemptEvent, BeginAttempt.handle, BeginAttempt.attemptRow] using hid
    · obtain ⟨r, hr, hrid⟩ := h.event e he id hid
      exact ⟨r, mem_insert_of_mem hr, hrid⟩

/-- **A finalized attempt** is closed once. -/
lemma finalizeAttempt_tracked {outcome : LedgerOutcome}
    (h : Tracked [] d) (hrun : (finalizeAttempt attempt outcome now).run d = .ok (u, d')) :
    Tracked [] d' := by
  rcases finalizeAttempt_run hrun with ⟨r, hsel, d1, hd1, hclose⟩ | ⟨-, rfl⟩
  · have hmem := mem_filter.1 (hsel ▸ mem_singleton_self r)
    have hnames : ((r.attemptId = attempt.attemptId ∧ r.tenant = attempt.tenant) ∧
        r.record.leaseOwner = attempt.leaseOwner) ∧ r.record.state = .started := by
      simpa [LedgerAttempt.names] using hmem.2
    have hfin := h.finish (p := fun r => attempt.names r && r.record.state == .started)
      (finishAttemptRow_keys outcome now)
      (fun r hr => by simp at hr; exact hr.2)
      (fun r => ⟨outcome.state.toRecord_ne_started, rfl⟩)
    rw [hsel, ← hd1, map_singleton, hnames.1.1.1] at hfin
    have hrow : finishAttemptRow outcome now r ∈ d1.attempts.rows := by
      rw [hd1]
      exact (mem_update_cases (finishAttemptRow_keys outcome now)).2 (.inl ⟨r, hmem.1, hmem.2, rfl⟩)
    have hid : (finishAttemptRow outcome now r).attemptId = attempt.attemptId := hnames.1.1.1
    have hten : (finishAttemptRow outcome now r).tenant = attempt.tenant := hnames.1.1.2
    rcases hclose with ⟨c, -, rfl⟩ | ⟨hnone, -⟩
    · exact c.tracked hfin (by simp) hrow hid hten outcome.state.toRecord_ne_started
    · refine absurd ?_ (hfin.isOpen hrow (.inr (by simp [hid])))
      rwa [hid, hten]
  · exact h

/-- The releases of a reconciliation close the pending attempts one by one. -/
lemma releaseExpired_tracked {attempts : List AttemptRow}
    (h : Tracked (attempts.map (·.attemptId)) d) (hnodup : (attempts.map (·.attemptId)).Nodup)
    (hrows : ∀ a ∈ attempts, a ∈ d.attempts.rows ∧ a.record.state ≠ .started)
    (hrun : (releaseExpired now attempts).run d = .ok (u, d')) : Tracked [] d' := by
  induction attempts generalizing d with
  | nil =>
    simp only [releaseExpired, Txn.pure_eq, Txn.run_done, Except.ok.injEq, Prod.mk.injEq] at hrun
    rw [← hrun.2]
    exact h
  | cons a rest ih =>
    obtain ⟨_, d1, h1, hrun⟩ := Txn.run_bind_ok hrun
    rw [map_cons, nodup_cons] at hnodup
    obtain ⟨hmem, hstate⟩ := hrows a mem_cons_self
    rcases releaseBudget_run h1 with ⟨hnone, -⟩ | ⟨c, -, rfl⟩
    · exact absurd hnone (h.isOpen hmem (.inr (by simp)))
    · exact ih (c.tracked h hnodup.1 hmem rfl rfl hstate) hnodup.2
        (fun b hb => hrows b (mem_cons_of_mem a hb)) hrun

lemma nodup_attemptIds (t : Table AttemptRow.keys) : (t.rows.map (·.attemptId)).Nodup := by
  rw [List.Nodup, pairwise_map]
  refine t.apart.imp fun {r s} hrs heq => ?_
  exact hrs r.attemptId (by simp [AttemptRow.keys]) (by simp [AttemptRow.keys, heq])

lemma reconcileExpired_tracked {n : ℕ × ℕ} (h : Tracked [] d)
    (hrun : (reconcileExpired now).run d = .ok (n, d')) : Tracked [] d' := by
  obtain ⟨d2, requests, usage, h2, rfl⟩ := reconcileExpired_run hrun
  have hfin := h.finish (p := fun r => leaseExpired now r.record)
    (expireAttemptRow_keys now)
    (fun r hr => by simp [leaseExpired] at hr; exact hr.1)
    (fun r => ⟨by simp [expireAttemptRow, RecordColumns.expire], rfl⟩)
  have hids : ((d.attempts.rows.filter fun r => leaseExpired now r.record).map
      (expireAttemptRow now)).map (·.attemptId)
        = (d.attempts.rows.filter fun r => leaseExpired now r.record).map (·.attemptId) := by
    rw [map_map]
    rfl
  have hframe : Frame d2 ((d2.setRequests requests).setUsage usage) := .of_eq rfl rfl rfl
  refine .frame ?_ hframe
  refine releaseExpired_tracked (by rwa [hids]) ?_ (fun a ha => ?_) h2
  · rw [hids]
    exact ((nodup_attemptIds d.attempts).sublist (filter_sublist.map _))
  · obtain ⟨r, hr, rfl⟩ := mem_map.1 ha
    have hmem := mem_filter.1 hr
    exact ⟨(mem_update_cases (expireAttemptRow_keys now)).2 (.inl ⟨r, hmem.1, hmem.2, rfl⟩),
      by simp [expireAttemptRow, RecordColumns.expire]⟩

lemma renewLease_tracked {request : LedgerRequest} {leaseTtl : ℕ} (h : Tracked [] d)
    (hrun : (renewLease request leaseTtl now).run d = .ok (u, d')) : Tracked [] d' := by
  obtain ⟨requests, rfl⟩ := renewLease_run hrun
  have hframe : Frame d (d.setRequests requests) := .of_eq rfl rfl rfl
  refine (h.frame hframe).setAttempts (fun r' hr' => ?_) fun r hr => ?_
  · obtain ⟨r, hr, rfl⟩ := (mem_update _).1 hr'
    refine ⟨r, hr, ?_⟩
    unfold assign
    split
    · exact ⟨rfl, rfl, Iff.rfl⟩
    · exact ⟨rfl, rfl, Iff.rfl⟩
  · exact ⟨_, (mem_update _).2 ⟨_, hr, rfl⟩,
      apply_assign (f := renewAttemptRow leaseTtl now) (fun _ => rfl) r⟩

/-- The calls that concern no attempt. -/
def Call.sparesAttempts : Call → Bool
  | .beginRequest _ | .finalizeRequest .. | .updateBudget _ | .adjustBudget .. => true
  | _ => false

lemma Call.frame (hrun : (call.program sha now).run d = .ok (u, d'))
    (hcall : call.sparesAttempts) : Frame d d' := by
  cases call with
  | beginAttempt | finalizeAttempt | renewLease | reconcileExpired => cases hcall
  | beginRequest b =>
    obtain ⟨_, h1⟩ := Txn.run_discard hrun
    exact (beginRequest_writes Frame.refl (fun _ _ => .of_eq rfl rfl rfl)
      (fun _ => .of_eq rfl rfl rfl) (fun _ _ => .of_eq rfl rfl rfl)).run_rel
      Frame.refl Frame.trans h1
  | finalizeRequest r o s =>
    exact (finalizeRequestUsage_writes (fun _ _ => .of_eq rfl rfl rfl)
      (fun _ _ => .of_eq rfl rfl rfl) (fun _ _ => .of_eq rfl rfl rfl) r).run_rel
      Frame.refl Frame.trans hrun
  | updateBudget i =>
    obtain ⟨tenant, limit, w, hw, rfl⟩ := updateBudget_run hrun
    rcases upsertLimit_exec hw with ⟨-, rfl⟩ | ⟨hset, -⟩
    · exact .of_eq rfl rfl rfl
    · rw [hset]
      exact .of_eq rfl rfl rfl
  | adjustBudget i a =>
    obtain ⟨tenant, accounts, row, p, -, -, -, -, rfl⟩ := adjustBudget_run hrun
    exact ⟨rfl, rfl, [_], rfl, by simp [adjustmentEvent]⟩

/-- **Every successful call keeps track of the attempts.** -/
lemma Call.tracked (h : Tracked [] d)
    (hrun : (call.program sha now).run d = .ok (u, d')) : Tracked [] d' := by
  have hframe := Call.frame hrun
  cases call with
  | beginAttempt b =>
    obtain ⟨_, h1⟩ := Txn.run_discard hrun
    exact beginAttempt_tracked h h1
  | finalizeAttempt attempt outcome => exact finalizeAttempt_tracked h hrun
  | renewLease request leaseTtl => exact renewLease_tracked h hrun
  | reconcileExpired =>
    obtain ⟨_, h1⟩ := Txn.run_discard hrun
    exact reconcileExpired_tracked h h1
  | beginRequest | finalizeRequest | updateBudget | adjustBudget => exact h.frame (hframe rfl)

lemma after_tracked (h : Tracked [] d)
    (calls : List (Timestamp × Call)) : Tracked [] (after sha d calls) :=
  after_induction (P := Tracked []) (fun hok h => Call.tracked h hok) calls h

end

/-! ### Closed attempts -/

/-- The attempt's row, its reservation and its events are the same. -/
structure Elsewhere (id : String) (d d' : Ledger) : Prop where
  attempts : d'.attempts.rows.filter (·.attemptId == id)
    = d.attempts.rows.filter (·.attemptId == id)
  reservations : d'.reservations.rows.filter (·.attemptId == id)
    = d.reservations.rows.filter (·.attemptId == id)
  events : ∃ new, d'.events = new ++ d.events ∧ ∀ e ∈ new, e.attemptId ≠ some id

section

variable {id : String}

lemma Elsewhere.refl (d : Ledger) : Elsewhere id d d := ⟨rfl, rfl, [], rfl, by simp⟩

lemma Elsewhere.trans {a b c : Ledger} (hab : Elsewhere id a b) (hbc : Elsewhere id b c) :
    Elsewhere id a c := by
  obtain ⟨ha, hr, new, he, hnew⟩ := hab
  obtain ⟨ha', hr', new', he', hnew'⟩ := hbc
  exact ⟨ha'.trans ha, hr'.trans hr, new' ++ new, by rw [he', he, append_assoc],
    forall_mem_append.2 ⟨hnew', hnew⟩⟩

lemma Frame.elsewhere (h : Frame d d') : Elsewhere id d d' := by
  obtain ⟨ha, hr, new, he, hnew⟩ := h
  exact ⟨by rw [ha], by rw [hr], new, he, fun e hmem => by simp [hnew e hmem]⟩

/-- A filter that no rewritten row passes, before or after, does not see the rewriting. -/
lemma filter_map_assign {ρ : Type} {p q : ρ → Bool} {f : ρ → ρ} {l : List ρ}
    (hq : ∀ r ∈ l, p r → q r = false ∧ q (f r) = false) :
    (l.map (assign p f)).filter q = l.filter q := by
  induction l with
  | nil => rfl
  | cons r l ih =>
    have ih := ih fun s hs => hq s (mem_cons_of_mem r hs)
    cases hp : p r with
    | false => rw [map_cons, assign_of_neg hp, filter_cons, filter_cons, ih]
    | true =>
      obtain ⟨hr, hfr⟩ := hq r mem_cons_self hp
      rw [map_cons, assign_of_pos hp, filter_cons_of_neg (by simp [hfr]),
        filter_cons_of_neg (by simp [hr]), ih]

lemma elsewhere_setAttempts
    {hf : ∀ r, (f r).keys = r.keys} (hp : ∀ r ∈ d.attempts.rows, p r → r.attemptId ≠ id) :
    Elsewhere id d (d.setAttempts (d.attempts.update p f hf)) := by
  refine ⟨filter_map_assign fun r hr hpr => ?_, rfl, [], rfl, by simp⟩
  have hkeys : (f r).attemptId = r.attemptId := by simpa [AttemptRow.keys] using hf r
  simp [hkeys, hp r hr hpr]

lemma Closing.elsewhere {id' : String} (c : Closing d tenant id')
    (h : id' ≠ id) : Elsewhere id d c.result := by
  refine ⟨rfl, filter_map_assign fun s _ hs => ?_, [c.event], rfl, ?_⟩
  · have hsid : s.attemptId = id' := by
      simp only [openFor, Bool.and_eq_true, beq_iff_eq] at hs
      exact hs.1.1
    have hkeys := c.keepsKeys s
    simp only [ReservationRow.keys, List.cons.injEq, ReservationKey.attempt.injEq] at hkeys
    simp [hkeys.2.1.2, hsid, h]
  · simp [c.eventAttempt, h]

/-- **A closed attempt is left alone**: no call changes its row, its reservation or its
events. -/
lemma Call.elsewhere (hr : r ∈ d.attempts.rows) (hclos : r.record.state ≠ .started)
    (hrun : (call.program sha now).run d = .ok (u, d')) : Elsewhere r.attemptId d d' := by
  -- a row that an update of open rows selects is another row
  have hopen : ∀ s ∈ d.attempts.rows, s.record.state = .started → s.attemptId ≠ r.attemptId := by
    intro s hs hstate heq
    rw [attempt_eq hs hr heq] at hstate
    exact hclos hstate
  have hframe := Call.frame hrun
  cases call with
  | beginAttempt b =>
    obtain ⟨_, h1⟩ := Txn.run_discard hrun
    obtain ⟨usage, accounts, a, hfree, -, -, -, hres, rfl⟩ := beginAttempt_run h1
    have hne : b.attemptId ≠ r.attemptId := by
      intro heq
      exact hfree r hr b.attemptId (by simp [AttemptRow.keys, BeginAttempt.attemptRow])
        (by simp [AttemptRow.keys, heq])
    refine ⟨?_, ?_, [_], rfl, ?_⟩
    · change (d.attempts.insert _).rows.filter _ = _
      rw [rows_insert hfree]
      simp [BeginAttempt.attemptRow, hne]
    · change (d.reservations.insert _).rows.filter _ = _
      rw [rows_insert hres]
      simp [BeginAttempt.reservationRow, hne]
    · simp [attemptEvent, BeginAttempt.handle, hne]
  | finalizeAttempt attempt outcome =>
    rcases finalizeAttempt_run hrun with ⟨s, hsel, d1, rfl, hclose⟩ | ⟨-, rfl⟩
    · have hmem := mem_filter.1 (hsel ▸ mem_singleton_self s)
      have hnames : ((s.attemptId = attempt.attemptId ∧ s.tenant = attempt.tenant) ∧
          s.record.leaseOwner = attempt.leaseOwner) ∧ s.record.state = .started := by
        simpa [LedgerAttempt.names] using hmem.2
      have hne := hopen s hmem.1 hnames.2
      rw [hnames.1.1.1] at hne
      have hfinish : Elsewhere r.attemptId d (d.setAttempts (d.attempts.update
          (fun r => attempt.names r && r.record.state == .started)
          (finishAttemptRow outcome now) (finishAttemptRow_keys outcome now))) :=
        elsewhere_setAttempts fun s hs hps => hopen s hs (by simp at hps; exact hps.2)
      rcases hclose with ⟨c, -, rfl⟩ | ⟨-, rfl⟩
      · exact hfinish.trans (c.elsewhere hne)
      · exact hfinish
    · exact .refl d'
  | renewLease request leaseTtl =>
    obtain ⟨requests, rfl⟩ := renewLease_run hrun
    have hsame : Frame d (d.setRequests requests) := .of_eq rfl rfl rfl
    refine hsame.elsewhere.trans (elsewhere_setAttempts fun s hs hps => ?_)
    exact hopen s hs (by simp at hps; exact hps.2)
  | reconcileExpired =>
    obtain ⟨_, h1⟩ := Txn.run_discard hrun
    obtain ⟨d2, requests, usage, h2, rfl⟩ := reconcileExpired_run h1
    have hsame : Frame d2 ((d2.setRequests requests).setUsage usage) := .of_eq rfl rfl rfl
    have hexp : ∀ s ∈ d.attempts.rows, leaseExpired now s.record →
        s.attemptId ≠ r.attemptId := by
      intro s hs hps
      simp only [leaseExpired, Bool.and_eq_true, beq_iff_eq] at hps
      exact hopen s hs hps.1
    refine ((elsewhere_setAttempts hexp).trans
      (releaseExpired_rel .refl .trans (fun a ha _ c => c.elsewhere ?_) h2)).trans hsame.elsewhere
    obtain ⟨s, hs, rfl⟩ := mem_map.1 ha
    exact hexp s (mem_filter.1 hs).1 (mem_filter.1 hs).2
  | beginRequest | finalizeRequest | updateBudget | adjustBudget => exact (hframe rfl).elsewhere

lemma Elsewhere.mem (h : Elsewhere id d d') (hr : r ∈ d.attempts.rows)
    (hid : r.attemptId = id) : r ∈ d'.attempts.rows := by
  have hmem : r ∈ d.attempts.rows.filter (·.attemptId == id) :=
    mem_filter.2 ⟨hr, by simp [hid]⟩
  rw [← h.attempts] at hmem
  exact (mem_filter.1 hmem).1

lemma after_elsewhere (sha : String → String) (hr : r ∈ d.attempts.rows)
    (hclos : r.record.state ≠ .started) (calls : List (Timestamp × Call)) :
    Elsewhere r.attemptId d (after sha d calls) :=
  after_induction (P := Elsewhere r.attemptId d)
    (fun hok h => h.trans (Call.elsewhere (h.mem hr rfl) hclos hok)) calls (.refl d)

/-- A finalization of a closed attempt changes nothing, whether it succeeds or not. -/
lemma finalizeAttempt_closed (hr : r ∈ d.attempts.rows) (hclos : r.record.state ≠ .started)
    (hid : attempt.attemptId = r.attemptId) (outcome : LedgerOutcome) (now : Timestamp) :
    (finalizeAttempt attempt outcome now).commit d = d := by
  rcases Txn.commit_cases (finalizeAttempt attempt outcome now) d with ⟨u, hok⟩ | hrolled
  · rcases finalizeAttempt_run hok with ⟨s, hsel, -⟩ | ⟨-, hsame⟩
    · have hmem := mem_filter.1 (hsel ▸ mem_singleton_self s)
      simp only [LedgerAttempt.names, Bool.and_eq_true, beq_iff_eq] at hmem
      rw [attempt_eq hmem.1 hr (hmem.2.1.1.1.trans hid)] at hmem
      exact absurd hmem.2.2 hclos
    · exact hsame
  · exact hrolled

end

/-! ### The life of an attempt -/

section

lemma exists_attempt_update (hf : ∀ r, (f r).keys = r.keys) {id : String}
    (h : ∃ r ∈ d.attempts.rows, r.attemptId = id) :
    ∃ r ∈ (d.attempts.update p f hf).rows, r.attemptId = id := by
  obtain ⟨r, hr, rfl⟩ := h
  exact ⟨_, (mem_update _).2 ⟨_, hr, rfl⟩,
    apply_assign (fun r => by simpa [AttemptRow.keys] using hf r) r⟩

lemma Call.exists_attempt {id : String} (hrun : (call.program sha now).run d = .ok (u, d'))
    (h : ∃ r ∈ d.attempts.rows, r.attemptId = id) : ∃ r ∈ d'.attempts.rows, r.attemptId = id := by
  have hframe := Call.frame hrun
  cases call with
  | beginAttempt b =>
    obtain ⟨_, h1⟩ := Txn.run_discard hrun
    obtain ⟨usage, accounts, a, -, -, -, -, -, rfl⟩ := beginAttempt_run h1
    obtain ⟨r, hr, hid⟩ := h
    exact ⟨r, mem_insert_of_mem hr, hid⟩
  | finalizeAttempt attempt outcome =>
    rcases finalizeAttempt_run hrun with ⟨s, -, d1, rfl, ⟨c, -, rfl⟩ | ⟨-, rfl⟩⟩ | ⟨-, rfl⟩
    · exact exists_attempt_update (finishAttemptRow_keys outcome now) h
    · exact exists_attempt_update (finishAttemptRow_keys outcome now) h
    · exact h
  | renewLease request leaseTtl =>
    obtain ⟨requests, rfl⟩ := renewLease_run hrun
    exact exists_attempt_update (renewAttemptRow_keys leaseTtl now) h
  | reconcileExpired =>
    obtain ⟨_, h1⟩ := Txn.run_discard hrun
    obtain ⟨d2, requests, usage, h2, rfl⟩ := reconcileExpired_run h1
    have hsame := releaseExpired_rel (R := fun d d' => d'.attempts = d.attempts) (fun _ => rfl)
      (fun hab hbc => hbc.trans hab) (fun _ _ _ _ => rfl) h2
    change ∃ r ∈ d2.attempts.rows, _
    rw [hsame]
    exact exists_attempt_update (expireAttemptRow_keys now) h
  | beginRequest | finalizeRequest | updateBudget | adjustBudget => rwa [(hframe rfl).attempts]

end

/-- **One reservation, at most one settlement.** After a begun attempt and any later calls, of any
processes and in any order, the attempt was created once and closed at most once, and it was
closed exactly when its row is terminal. From then on its row, its reservation and its events
stay as they are, finalizing it again changes nothing at all, and the accounts move only by the
events of others. -/
theorem attempt_settled_once (sha256Hex : String → String) {d0 : Ledger}
    (ha : d0.attempts = Table.empty) (he : d0.events = []) (before : List (Timestamp × Call))
    {b : BeginAttempt} {now : Timestamp} {u : Unit} {d1 : Ledger}
    (hbegun : ((Call.beginAttempt b).program sha256Hex now).run (after sha256Hex d0 before)
      = .ok (u, d1)) (later : List (Timestamp × Call)) :
    let d := after sha256Hex d1 later
    ∃ r ∈ d.attempts.rows, r.attemptId = b.attemptId ∧
      created b.attemptId d.events = 1 ∧ closings b.attemptId d.events ≤ 1 ∧
      (closings b.attemptId d.events = 1 ↔ r.record.state ≠ .started) ∧
      (r.record.state ≠ .started → ∀ more : List (Timestamp × Call),
        let d' := after sha256Hex d more
        r ∈ d'.attempts.rows ∧
        d'.reservations.rows.filter (·.attemptId == b.attemptId)
          = d.reservations.rows.filter (·.attemptId == b.attemptId) ∧
        (∃ new, d'.events = new ++ d.events ∧ (∀ e ∈ new, e.attemptId ≠ some b.attemptId) ∧
          ∀ t, balance (·.reservedMicrounits) t d'.accounts
              = balance (·.reservedMicrounits) t d.accounts + eventSum (·.reservedDelta) t new ∧
            balance (·.settledMicrounits) t d'.accounts
              = balance (·.settledMicrounits) t d.accounts + eventSum (·.settledDelta) t new) ∧
        ∀ (attempt : LedgerAttempt) (outcome : LedgerOutcome) (now' : Timestamp),
          attempt.attemptId = b.attemptId →
            (finalizeAttempt attempt outcome now').commit d' = d') := by
  intro d
  have hempty : Tracked [] d0 := by constructor <;> simp [ha, he]
  have htracked : Tracked [] d :=
    after_tracked (Call.tracked (after_tracked hempty before) hbegun) later
  have hrow : ∃ r ∈ d.attempts.rows, r.attemptId = b.attemptId := by
    refine after_induction (P := fun d => ∃ r ∈ d.attempts.rows, r.attemptId = b.attemptId)
      Call.exists_attempt later ?_
    obtain ⟨_, h2⟩ := Txn.run_discard hbegun
    obtain ⟨usage, accounts, a, hfree, -, -, -, -, rfl⟩ := beginAttempt_run h2
    exact ⟨_, mem_insert_self hfree, rfl⟩
  obtain ⟨r, hr, hid⟩ := hrow
  have hclosings := htracked.closings r hr
  have hlive : Live [] r ↔ r.record.state = .started := by simp [Live]
  simp only [hid] at hclosings
  refine ⟨r, hr, hid, hid ▸ htracked.created r hr, ?_, ?_, fun hclos more => ?_⟩
  · rw [hclosings]
    split <;> omega
  · rw [hclosings]
    split <;> simp_all
  · have helse := after_elsewhere sha256Hex hr hclos more
    have hr' := helse.mem hr rfl
    obtain ⟨-, hres, new, hnew, hoth⟩ := helse
    rw [hid] at hres hoth
    refine ⟨hr', hres, ⟨new, hnew, hoth, (after_balanced sha256Hex d more).of_events hnew⟩, ?_⟩
    intro attempt outcome now' hatt
    exact finalizeAttempt_closed hr' hclos (hatt.trans hid.symm) outcome now'

/-- An attempt that is begun, settled, and then expires. -/
theorem attempt_settled_once_sample :
    ∃ d1, ((Call.beginAttempt (Sample.beginAttempt "r" "a" 5 {})).program id 1).run
        (after id Ledger.empty [(0, .beginRequest (Sample.beginRequest "r"))]) = .ok ((), d1) ∧
      ∃ r ∈ (after id d1
          [(2, .finalizeAttempt (Sample.beginAttempt "r" "a" 5 {}).handle (Sample.outcome 3)),
            (100000000, .reconcileExpired)]).attempts.rows, r.attemptId = "a" := by
  obtain ⟨u, d1, hbegun⟩ := Txn.exists_run_ok (x :=
    (Call.beginAttempt (Sample.beginAttempt "r" "a" 5 {})).program id 1)
    (d := after id Ledger.empty [(0, .beginRequest (Sample.beginRequest "r"))])
    (by decide +kernel)
  obtain ⟨r, hr, hid, -⟩ := attempt_settled_once id rfl rfl _ hbegun
    [(2, .finalizeAttempt (Sample.beginAttempt "r" "a" 5 {}).handle (Sample.outcome 3)),
      (100000000, .reconcileExpired)]
  exact ⟨d1, hbegun, r, hr, hid⟩

end Ledger

end ModelPort
