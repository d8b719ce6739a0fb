import ModelPort.Gateway.Accounting

/-!
# Every begun request is finalized

However the handler returns after `begin_request`, the request is finalized: before it returns,
or by the finalizer of the streamed body. There is one exit that forgets it. The headers of a
streamed response are written before the finalizer is installed, and a text that is no header
value ends the handler there.

* `begun_finalized_once_iff`: request and attempts are finalized once each, in all other runs, if
  there is a runtime to finalize a stream on.
* `stream_not_finalized`: a streamed request for a model whose name ends in a line break.
-/

namespace ModelPort.Gateway

open Routing Interaction Interaction.Prog

variable {o : Outcome} {s : LoopState} {es : List Effect}

/-- The texts of the response headers, for the last attempt. -/
def Prepared.headerTexts (p : Prepared) (o : Outcome) : List String :=
  [p.requestId, p.request.model, o.target.providerId, o.target.model, p.evidence.decisionId,
    p.evidence.mode]

/-- The last attempt succeeded, its response streams, and one of its headers is no header
value. -/
def Unheaded (ext : Externals) (p : Prepared) (es : List Effect) : Prop :=
  ∃ o earlier, outcomes es = o :: earlier ∧ (p.request.isStream && succeeded o.result) ∧
    ∃ text ∈ p.headerTexts o, ext.headerValueOk text = false

variable {ext : Externals} {p : Prepared} {earlier : List Outcome} {r : ClientRequest}

lemma StoppedAt.attach_ok_iff {sent : SentAttempt} (hstop : StoppedAt r s es o earlier sent)
    (latency : ℕ) (observed : Lifecycle) (firstByte : Option ℕ) :
    attachRoutingResponseHeaders ext.headerValueOk p (requestUsage p s latency observed firstByte)
        = .ok () ↔ ∀ text ∈ p.headerTexts o, ext.headerValueOk text := by
  have hprov : (requestUsage p s latency observed firstByte).provider = o.target.providerId := by
    change (s.lastSent.map (·.providerId)).getD s.providerId = _
    rw [hstop.last]
    exact hstop.providerId
  have hmodel : (requestUsage p s latency observed firstByte).resolvedModel = o.target.model := by
    change (s.lastSent.map (·.model)).getD s.upstreamModel = _
    rw [hstop.last]
    exact hstop.model
  unfold attachRoutingResponseHeaders Prepared.headerTexts
  split_ifs <;> simp_all

/-- The result of the loop tells whether the last response streams. -/
lemma Tallied.not_streams
    (htall : Tallied r s es) (hstr : (r.isStream && succeeded s.result) = false)
    (ho : outcomes es = o :: earlier) : (r.isStream && succeeded o.result) = false := by
  rcases htall with hcount | ⟨o', earlier', sent, hstop⟩
  · rw [Outcome.failed_of_retried (hcount.retried o earlier ho), Bool.and_false]
  · have heq := hstop.order.symm.trans ho
    cases heq
    rw [← hstop.result]
    exact hstr

/-- **Every begun request is finalized**, with all its attempts, once each; except exactly when its
response streams and a header text is no header value, or there is no runtime to finalize the
stream on. -/
theorem begun_finalized_once_iff (ext : Externals) (snapshot : Snapshot) (headers : Headers)
    (r : ClientRequest) (world : History → (op : Op) → op.Reply) (request : LedgerRequest)
    (hbegun : request ∈ begunRequests (effects ((serve ext snapshot headers r).run world []).2)) :
    let es := effects ((serve ext snapshot headers r).run world []).2
    ((finalizedRequests es).map Prod.fst = [request] ∧
        (finalizedAttempts es).map Prod.fst = begunAttempts es) ↔
      (∀ p, prepare ext snapshot headers r = .ok p → ¬ Unheaded ext p es) ∧
        Effect.unspawned ∉ es := by
  intro es
  have hends := (serve_ends ext snapshot headers r).run world
  change request ∈ begunRequests es at hbegun
  change es = [] ∨ ∃ p, _ ∧ Ended ext p es at hends
  clear_value es
  rcases hends with rfl | ⟨p, hp, hended⟩
  · cases hbegun
  have hprep : (∀ p, prepare ext snapshot headers r = .ok p → ¬ Unheaded ext p es) ↔
      ¬ Unheaded ext p es := by
    refine ⟨fun h => h p hp, fun h p' hp' => ?_⟩
    obtain rfl : p = p' := Except.ok.inj (hp.symm.trans hp')
    exact h
  rw [hprep]
  cases hended with
  | refused hcnt => rcases hcnt with rfl | ⟨-, _, _, -, rfl⟩ <;> cases hbegun
  | @finalized ledgerRequest s es usage hwork hstr husage =>
    obtain rfl := List.mem_singleton.1 (hwork.begun ▸ hbegun)
    refine iff_of_true ⟨?_, (hwork.tallied.settled hstr).attempts⟩ ⟨?_, ?_⟩
    · change request :: (finalizedRequests es).map Prod.fst = _
      rw [hwork.open_]
      rfl
    · rintro ⟨o, earlier, ho, hstreams, -⟩
      rw [hwork.tallied.not_streams hstr ho] at hstreams
      cases hstreams
    · simpa using hwork.spawned
  | @unheaded ledgerRequest s es o earlier sent latency observed firstByte e hwork hstop
      hstr hhead =>
      refine iff_of_false (fun hfin => ?_) fun hcond => hcond.1 ?_
      · rw [hwork.open_] at hfin
        cases hfin.1
      · refine ⟨o, earlier, hstop.order, ?_, ?_⟩
        · rw [← hstop.result]
          exact hstr
        · by_contra hall
          have hok := (hstop.attach_ok_iff latency observed firstByte).2 fun text htext =>
            Bool.eq_true_of_not_eq_false fun hrej => hall ⟨text, htext, hrej⟩
          rw [hok] at hhead
          cases hhead
  | @streamed ledgerRequest s es _ o earlier sent latency observed firstByte hwork hstop
      hstr hhead hend =>
      have hheaded : ∀ es', outcomes es' = outcomes es → ¬ Unheaded ext p es' := by
        rintro es' heq ⟨o', earlier', ho, -, text, htext, hrej⟩
        rw [heq, hstop.order] at ho
        cases ho
        rw [(hstop.attach_ok_iff latency observed firstByte).1 hhead text htext] at hrej
        cases hrej
      rcases hend with ⟨cost, reported, final, latency', hfinal, rfl⟩ | rfl
      · obtain rfl := List.mem_singleton.1 (hwork.begun ▸ hbegun)
        refine iff_of_true ⟨?_, ?_⟩ ⟨hheaded _ rfl, ?_⟩
        · change request :: (finalizedRequests es).map Prod.fst = _
          rw [hwork.open_]
          rfl
        · rw [hstop.result] at hstr
          exact (hstop.streams hstr).1
        · simpa using hwork.spawned
      · refine iff_of_false (fun hfin => ?_) fun hcond => hcond.2 (List.mem_cons_self ..)
        have hnone : finalizedRequests (.unspawned :: es) = [] := hwork.open_
        rw [hnone] at hfin
        cases hfin.1

/-- An effect that says that there was no runtime. -/
def Effect.isUnspawned : Effect → Bool
  | .unspawned => true
  | _ => false

/-- A request that is answered. -/
theorem begun_finalized_once_iff_answered :
    let es := Sample.effectsOf [Sample.main] Sample.clientRequest fun _ => .ok ⟨200, none⟩
    ∃ request ∈ begunRequests es,
      (finalizedRequests es).map Prod.fst = [request] ∧
        (finalizedAttempts es).map Prod.fst = begunAttempts es := by
  intro es
  have hne : begunRequests es ≠ [] := by decide +kernel
  have hspawned : es.any Effect.isUnspawned = false := by decide +kernel
  obtain ⟨request, hmem⟩ := List.exists_mem_of_ne_nil _ hne
  refine ⟨request, hmem, (begun_finalized_once_iff Sample.externals (Sample.snapshot [Sample.main])
    {} Sample.clientRequest _ request hmem).2 ⟨?_, fun hun => ?_⟩⟩
  · rintro p hp ⟨o, earlier, -, hstr, -⟩
    rw [(prepare_ok hp).requested] at hstr
    cases hstr
  · exact List.any_eq_false.1 hspawned _ hun rfl

/-- **A stream that is never finalized.** The model's name ends in a line break, which is no header
value; the response has begun to stream, and neither attempt nor request is finalized. -/
theorem stream_not_finalized :
    let r := { Sample.clientRequest with model := "model\n", stream := some true }
    let es := Sample.effectsOf [Sample.main] r fun _ => .ok ⟨200, none⟩
    validateBody {} r = .ok () ∧ (begunRequests es).length = 1 ∧
      (begunAttempts es).length = 1 ∧ (outcomes es).all (succeeded ·.result) ∧
      finalizedRequests es = [] ∧ finalizedAttempts es = [] := by
  decide +kernel

end ModelPort.Gateway
