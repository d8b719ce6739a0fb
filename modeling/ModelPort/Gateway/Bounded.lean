import ModelPort.Gateway.Accounting

/-!
# The attempt loop is bounded

However scheduling, credentials, quotas, checks, the ledger and the providers answer, the attempt
loop ends, and it sends at most the tries of the planned attempts and one more request.
-/

namespace ModelPort.Gateway

open Interaction Prog Routing LoopState
open List hiding take after

variable {urlHost : String → Option String} {p : Prepared} {request : LedgerRequest}
  {s : LoopState} {h : History} {es es' : List Effect} {r : LoopState × Bool}

/-! ### Requests sent -/

lemma initial_remaining : (initial p).remaining =
    (p.authorized.map fun a => max 1 a.provider.maxAttempts).sum + 1 := by
  simp [remaining, initial, triesLeft, Function.comp_def]

lemma RoundSpec.outcomes (hround : RoundSpec p request s r es es') : outcomes es' = outcomes es ∨
      s.attempts ≠ [] ∧ ∃ o, outcomes es' = o :: outcomes es := by
  cases hround with
  | empty hs => exact .inl rfl
  | skip hs result hres => exact .inl rfl
  | stop hs e => exact .inl rfl
  | sent hs hadm hsend =>
    exact .inr ⟨hs ▸ cons_ne_nil _ _, _, (hsend.account hadm).1⟩

/-- **What the loop sends**, by the attempts it has left and by what follows an attempt. -/
lemma loop_sends (urlHost : String → Option String) (p : Prepared) (request : LedgerRequest) :
    Ensures (fun _ h' => (outcomes (effects h')).length ≤ (initial p).remaining ∧
      ∀ o earlier, o :: earlier <:+ (outcomes (effects h')).tail →
        o.retried p.request earlier) (attemptLoop urlHost p request (.initial p)) [] := by
  have hstart : Counted p.request (initial p) [] :=
    ⟨.nil, rfl, rfl, fun _ _ heq => (cons_ne_nil _ _ heq.symm).elim, rfl, rfl, rfl⟩
  refine attemptLoop_rule (I := fun s es => Counted p.request s es ∧
      (outcomes es).length + s.remaining ≤ (initial p).remaining ∧
      ∀ o earlier, o :: earlier <:+ (outcomes es).tail → o.retried p.request earlier)
    (J := fun _ es => (outcomes es).length ≤ (initial p).remaining ∧
      ∀ o earlier, o :: earlier <:+ (outcomes es).tail → o.retried p.request earlier)
    ?_ ⟨hstart, Nat.le_of_eq (Nat.zero_add _), fun _ _ hsuff =>
      absurd (suffix_nil.1 hsuff) (cons_ne_nil _ _)⟩
  rintro s r es es' ⟨hcount, hsends, hretr⟩ hround
  -- an attempt that is followed by another was the last one so far, and retried
  have hretried' : ∀ o earlier, o :: earlier <:+ (outcomes es').tail →
      o.retried p.request earlier := by
    intro o earlier hmem
    rcases hround.outcomes with heq | ⟨-, o', heq⟩
    · exact hretr o earlier (heq ▸ hmem)
    · rw [heq] at hmem
      cases houtc : outcomes es with
      | nil =>
        rw [houtc] at hmem
        cases suffix_nil.1 hmem
      | cons o1 earlier1 =>
        rw [houtc] at hmem
        rcases suffix_cons_iff.1 hmem with hlast | hmem
        · exact hcount.retried o earlier (houtc.trans hlast.symm)
        · exact hretr o earlier (houtc ▸ hmem)
  have hlength : (outcomes es').length ≤ (outcomes es).length + 1 ∧
      (s.remaining = 0 → (outcomes es').length = (outcomes es).length) := by
    rcases hround.outcomes with heq | ⟨hne, o', heq⟩
    · rw [heq]
      exact ⟨Nat.le_succ _, fun _ => rfl⟩
    · rw [heq]
      refine ⟨Nat.le_refl _, fun hzero => ?_⟩
      obtain ⟨q, rest, hq⟩ := exists_cons_of_ne_nil hne
      rw [remaining, hq, triesLeft_cons] at hzero
      omega
  by_cases hgo : r.2
  · have hlt := hround.remaining_lt hgo
    have hcount' := hcount.round hround
    rw [if_pos hgo] at hcount' ⊢
    exact ⟨hcount', by omega, hretried'⟩
  · rw [if_neg hgo]
    exact ⟨by omega, hretried'⟩

/-! ### Refusals of the ledger -/

/-- **Nothing is sent after a refusal.** -/
lemma loop_refused (s : LoopState) (hnone : Step.refused ∉ steps h) :
    Ensures (fun _ h' => Step.refused ∉ (steps h').tail) (attemptLoop urlHost p request s) h := by
  refine ensures_iterate (μ := remaining) (I := fun _ h => Step.refused ∉ steps h)
    ?_ hnone (Nat.lt_succ_self _)
  intro s h hnone
  refine (attemptRound_spec s h).mono fun r h' ⟨hround, hsteps⟩ => ?_
  have hlt := hround.remaining_lt
  rcases hsteps with heq | heq | ⟨hlast, heq⟩
  · rw [heq]
    split
    · exact ⟨hnone, hlt ‹_›⟩
    · exact fun hmem => hnone (mem_of_mem_tail hmem)
  · rw [heq]
    split
    · exact ⟨by simpa using hnone, hlt ‹_›⟩
    · exact hnone
  · rw [heq, if_neg (by simp [hlast])]
    exact hnone

/-! ### Repairs -/

def Effect.isRepair : Effect → Bool
  | .sent _ _ _ repair _ => repair
  | _ => false

/-- The repaired requests that were sent. -/
def repairs (es : List Effect) : ℕ := es.countP Effect.isRepair

/-- A repaired request that fails in transport was the last try of its provider. -/
def Effect.RepairedOnce : Effect → Prop
  | .sent _ target _ true (.error e) =>
    isRetryableMessageError e → target.provider.maxAttempts ≤ 1
  | _ => True

/-- Repairs sent, queued and to come. -/
def repairsLeft (s : LoopState) (es : List Effect) : ℕ :=
  repairs es + s.attempts.countP (·.repair) + (!s.toolRepairAttempted).toNat

lemma SendSpec.repairs {q : QueuedAttempt} {stream : Bool} {provider : ProviderConfig}
    {sent : SentAttempt} {result : Except AppError UpstreamResponse}
    (hsend : SendSpec stream q.target provider q.repair sent result es es') :
    repairs es' = repairs es + q.repair.toNat := by
  simp only [SendSpec] at hsend
  split_ifs at hsend
  · subst hsend
    cases hq : q.repair <;> simp [Gateway.repairs, countP_cons, Effect.isRepair]
  · obtain ⟨outcome, -, rfl⟩ := hsend
    cases hq : q.repair <;> simp [Gateway.repairs, countP_cons, Effect.isRepair]

lemma RoundSpec.repairs_le (hround : RoundSpec p request s r es es')
    (honce : ∀ e ∈ es', e.RepairedOnce) : repairsLeft r.1 es' ≤ repairsLeft s es := by
  cases hround with
  | empty hs => exact Nat.le_refl _
  | skip hs result hres =>
    simp only [repairsLeft, take, hs, countP_cons]
    omega
  | stop hs e =>
    simp only [repairsLeft, take, hs, countP_cons]
    omega
  | @sent _ _ q rest hs provider sent claim hadm result hsend =>
    have hrepairs : repairs es' = repairs es + q.repair.toNat := hsend.repairs
    have hq : (if q.repair = true then 1 else 0) = q.repair.toNat := by cases q.repair <;> rfl
    have htake : ((s.take q rest).send sent).toolRepairAttempted = s.toolRepairAttempted := rfl
    unfold repairsLeft after
    rw [hs, countP_cons, hrepairs]
    rcases hfoll : followup p.request ((s.take q rest).send sent).toolRepairAttempted q result
      with _ | _ | _ | _
    · exact Nat.le_of_eq (by simp [record, send, take]; omega)
    · -- the one repair is queued
      have hfirst := followup_repair hfoll
      rw [htake] at hfirst
      simp [record, send, take, hfirst]
      omega
    · have hnot : q.repair = false := by
        by_contra hrep
        rw [Bool.not_eq_false] at hrep
        have hmem := hsend.sent_mem
        rw [hrep] at hmem
        have hmax : provider.maxAttempts = q.target.provider.maxAttempts := by
          rcases hadm.credentialed.provider with heq | ⟨record, key, heq⟩
          · exact congrArg ProviderConfig.maxAttempts heq
          · exact (congrArg ProviderConfig.maxAttempts heq).trans rfl
        have hlt := followup_again hfoll
        rcases result with e | response
        · have hretry : isRetryableMessageError e := by
            unfold followup at hfoll
            simp only at hfoll
            split_ifs at hfoll with _ hretry
            simpa using hretry
          have hle : provider.maxAttempts ≤ 1 := honce _ hmem hretry
          omega
        · cases hfoll
      simp [keep, record, send, take, hnot]
    · simp only [keep, record, send, take]
      omega

/-- **One repair at most is sent**, if no repaired request is tried again. -/
lemma loop_repairs : Ensures (fun _ h' => (∀ e ∈ effects h', e.RepairedOnce) →
      repairs (effects h') ≤ 1) (attemptLoop urlHost p request (.initial p)) [] := by
  refine attemptLoop_rule (I := fun s es => (∀ e ∈ es, e.RepairedOnce) → repairsLeft s es ≤ 1)
    (J := fun _ es => (∀ e ∈ es, e.RepairedOnce) → repairs es ≤ 1) ?_ fun _ => ?_
  · intro s r es es' hleft hround
    have hle : (∀ e ∈ es', e.RepairedOnce) → repairsLeft r.1 es' ≤ 1 := fun honce =>
      (hround.repairs_le honce).trans (hleft fun e he => honce e (hround.suffix.subset he))
    split
    · exact hle
    · intro honce
      have := hle honce
      unfold repairsLeft at this
      omega
  · simp [repairsLeft, repairs, effects, initial]

/-! ### The loop -/

/-- **The attempt loop is bounded**, whatever it is answered. It ends: more rounds would change
nothing. Only the number of repairs depends on the answers. -/
theorem attempt_loop_bounded (urlHost : String → Option String) (p : Prepared)
    (request : LedgerRequest) (world : History → (op : Op) → op.Reply) :
    let loop := attemptLoop urlHost p request (.initial p)
    let h := (loop.run world []).2
    (∀ n, (LoopState.initial p).remaining < n →
      iterate (attemptRound urlHost p request) n (.initial p) = loop) ∧
    (outcomes (effects h)).length ≤
      (p.authorized.map fun a => max 1 a.provider.maxAttempts).sum + 1 ∧
    (∀ o earlier, o :: earlier <:+ (outcomes (effects h)).tail →
      o.retried p.request earlier) ∧
    Step.refused ∉ (steps h).tail ∧
    ((∀ e ∈ effects h, e.RepairedOnce) → repairs (effects h) ≤ 1) := by
  obtain ⟨hsends, hretr⟩ := (loop_sends urlHost p request).run world
  rw [initial_remaining] at hsends
  refine ⟨fun n hn => ?_, hsends, hretr, (loop_refused _ not_mem_nil).run world,
    loop_repairs.run world⟩
  exact iterate_stable (fun s h => attemptRound_lt s h) hn (Nat.lt_succ_self _)

/-- A provider that repairs arguments and is tried twice. -/
def repairing : ResolvedProvider :=
  ⟨"main", { Sample.provider "https://main.example" with
    protocol := .openaiCompat
    repairInvalidArguments := true
    maxAttempts := 2 }, "model"⟩

/-- The first answer has invalid tool arguments; then the connection fails. -/
def badArguments (h : History) : (op : Op) → op.Reply :=
  Sample.answer fun _ => .error <|
    if steps h = [] then .toolArgumentsInvalid "/path" "/type" none
    else .transport "connection reset"

/-- A repaired request that fails in transport is sent again: two repairs for one request. -/
theorem two_repairs_sent :
    repairs (effects ((serve Sample.externals (Sample.snapshot [repairing]) {}
      { Sample.clientRequest with usesTools := true }).run badArguments []).2) = 2 := by
  decide +kernel

end ModelPort.Gateway
