import ModelPort.Gateway.Response

/-!
# What the handler can do

Of a run's history only its effects matter: HTTP requests to providers, and calls to the ledger
that succeed or finalize. For each part of the handler one lemma says which effects it has and
what it returns, whatever it is answered; the results about the handler are derived from these.

* `enforceContextAdmission_spec`, `admitAttempt_spec`, `sendAttempt_spec`: the parts.
* `respond_spec`, `streamBody_spec`: the end.
-/

namespace ModelPort.Gateway

open Routing Interaction Interaction.Prog LoopState
open List hiding take

section

variable {after before es es' : List Effect} {s : LoopState} {target : ResolvedProvider}
  {result : Except AppError UpstreamResponse} {r : ClientRequest} {provider : ProviderConfig}
  {repair stream : Bool} {sent : SentAttempt} {q : QueuedAttempt} {h : History} {url id : String}
  {e : Effect} {reply : Except AppError ℕ}

/-- What has happened, the newest first. -/
abbrev History := List (Event interface)

/-! ### Effects -/

/-- What leaves the gateway, or changes the ledger. -/
inductive Effect where
  | counted (url : String) (target : ResolvedProvider) (reply : Except AppError ℕ)
  | requestBegun (claim : RequestClaim) (request : LedgerRequest)
  | attemptBegun (claim : AttemptClaim) (attempt : LedgerAttempt)
  | sent (url : String) (target : ResolvedProvider) (attemptId : String) (repair : Bool)
      (reply : Except AppError UpstreamResponse)
  | attemptFinalized (attempt : LedgerAttempt) (outcome : LedgerOutcome)
  | requestFinalized (request : LedgerRequest) (usage : UsageEventInput)
  /-- there was no runtime to finalize a stream on -/
  | unspawned

/-- The effect of a question with its answer. -/
def effect : Event interface → Option Effect
  | ⟨.countTokens url target, reply⟩ => some (.counted url target reply)
  | ⟨.beginRequest claim, reply⟩ =>
    match (reply : Except AppError LedgerRequest) with
    | .ok request => some (.requestBegun claim request)
    | .error _ => none
  | ⟨.beginAttempt claim, reply⟩ =>
    match (reply : Except AppError LedgerAttempt) with
    | .ok attempt => some (.attemptBegun claim attempt)
    | .error _ => none
  | ⟨.send url target attemptId repair, reply⟩ => some (.sent url target attemptId repair reply)
  | ⟨.finalizeAttempt attempt outcome, _⟩ => some (.attemptFinalized attempt outcome)
  | ⟨.finalizeRequest request usage, _⟩ => some (.requestFinalized request usage)
  | ⟨.hasRuntime, runtime⟩ => if (runtime : Bool) then none else some .unspawned
  | _ => none

/-- The effects of a history, the newest first. -/
def effects (h : History) : List Effect := h.filterMap effect

/-- What an attempt can come to before its reply. -/
inductive Step where
  | sent
  | refused
  deriving DecidableEq

def step : Event interface → Option Step
  | ⟨.send _ _ _ _, _⟩ => some .sent
  | ⟨.beginAttempt _, reply⟩ =>
    match (reply : Except AppError LedgerAttempt) with
    | .ok _ => none
    | .error _ => some .refused
  | _ => none

/-- The requests that were sent and the attempts that the ledger refused, the newest first. -/
def steps (h : History) : List Step := h.filterMap step

/-- Nothing happened that counts. -/
def Unobserved (h h' : History) : Prop := effects h' = effects h ∧ steps h' = steps h

lemma Unobserved.trans {h1 h2 h3 : History} (h : Unobserved h1 h2) (h' : Unobserved h2 h3) :
    Unobserved h1 h3 := ⟨h'.1.trans h.1, h'.2.trans h.2⟩

/-- Requests to the token-counting endpoints are effects as they happen. -/
lemma counted_mem_effects (hmem : Effect.counted url target reply ∈ effects h) :
    (⟨.countTokens url target, reply⟩ : Event interface) ∈ h := by
  obtain ⟨⟨op, r⟩, he, heff⟩ := mem_filterMap.1 hmem
  cases op with
  | countTokens url' target' =>
    cases heff
    exact he
  | beginRequest claim =>
    cases r <;> cases heff
  | beginAttempt claim =>
    cases r <;> cases heff
  | hasRuntime =>
    cases r <;> cases heff
  | _ => cases heff

/-- An answer to each question. -/
def Op.someReply : (op : Op) → op.Reply
  | .elapsedMs => (0 : ℕ)
  | .checkRate => (.ok () : Except AppError Unit)
  | .selectCredential _ => (⟨none, false, ""⟩ : CredentialChoice)
  | .readEnv _ => (none : Option String)
  | .checkDns _ _ => (.ok () : Except AppError Unit)
  | .countTokens _ _ => (.ok 0 : Except AppError ℕ)
  | .acquireStreamPermit => true
  | .beginRequest _ => (.error .auth : Except AppError LedgerRequest)
  | .newAttemptId => ""
  | .acquireLocal _ _ _ _ => (.ok .acquired : Except AppError LocalAdmission)
  | .checkQuotas _ _ _ => (.error .auth : Except AppError UsagePolicySnapshot)
  | .checkProviderRate _ _ => (.ok () : Except AppError Unit)
  | .beginAttempt _ => (.error .auth : Except AppError LedgerAttempt)
  | .send _ _ _ _ => (.error .auth : Except AppError UpstreamResponse)
  | .lifecycle _ => ({} : Lifecycle)
  | .finalizeAttempt _ _ => (.ok () : Except AppError Unit)
  | .finalizeRequest _ _ => (.ok () : Except AppError Unit)
  | .deliverBody => BodyEnd.eof
  | .hasRuntime => true

instance (op : interface.Op) : Nonempty (interface.Reply op) := ⟨Op.someReply op⟩

section

variable {α : Type} {Q : α → History → Prop}

/-- A question first. -/
lemma ensures_ask_bind {op : Op} {f : op.Reply → Handler α} :
    Ensures Q (ask op >>= f) h ↔ ∀ r, Ensures Q (f r) (⟨op, r⟩ :: h) := ensures_ask

lemma ensures_pure {a : α} : Ensures Q (pure a : Handler α) h ↔ Q a h := ensures_ret

lemma ensures_readLifecycle {β : Type} {field : Lifecycle → β}
    {Q : β → History → Prop} (hQ : ∀ lifecycle : Lifecycle,
      Q (field lifecycle) (⟨.lifecycle id, lifecycle⟩ :: h)) :
    Ensures Q (readLifecycle field id) h :=
  ensures_ask_bind.2 fun r => ensures_pure.2 (hQ r)

end

/-! ### Credentials -/

/-- `target` is the planned attempt with some credential of its provider. -/
structure Credentialed (planned target : ResolvedProvider) : Prop where
  providerId : target.providerId = planned.providerId
  model : target.model = planned.model
  provider : target.provider = planned.provider ∨
    ∃ record value, target.provider = planned.provider.withCredential record (usableKey value)

namespace Credentialed

variable {planned : ResolvedProvider}

/-- What no credential changes. -/
lemma kept (h : Credentialed planned target) {α : Type} (field : ProviderConfig → α)
    (hfield : ∀ record key, field (planned.provider.withCredential record key) =
      field planned.provider) : field target.provider = field planned.provider := by
  rcases h.provider with heq | ⟨record, key, heq⟩
  · rw [heq]
  · rw [heq, hfield]

lemma protocol (h : Credentialed planned target) :
    target.provider.protocol = planned.provider.protocol := h.kept (·.protocol) fun _ _ => rfl

lemma tokenCounting (h : Credentialed planned target) :
    target.provider.tokenCounting = planned.provider.tokenCounting :=
  h.kept (·.tokenCounting) fun _ _ => rfl

lemma repairEnabled (h : Credentialed planned target) (request : ClientRequest) :
    repairEnabled request target.provider = repairEnabled request planned.provider := by
  unfold Gateway.repairEnabled
  rw [h.protocol, h.kept (·.repairInvalidArguments) fun _ _ => rfl]

lemma modelPricingCard (h : Credentialed planned target) (model : String) :
    target.provider.modelPricingCard model = planned.provider.modelPricingCard model :=
  h.kept (·.modelPricingCard model) fun _ _ => rfl

end Credentialed

lemma applySelectedProviderCredential_spec (planned : ResolvedProvider) (h : History) :
    Ensures (fun r h' => Unobserved h h' ∧
        ∀ provider id, r = .ok (provider, id) → Credentialed planned { planned with provider })
      (applySelectedProviderCredential planned.providerId planned.provider) h := by
  refine ensures_ask_bind.2 fun choice => ?_
  rcases hrec : choice.record with _ | record
  · by_cases hpool : choice.hasPool
    · rw [if_pos hpool]
      exact ensures_pure.2 ⟨⟨rfl, rfl⟩, fun _ _ heq => by cases heq⟩
    · rw [if_neg hpool]
      refine ensures_pure.2 ⟨⟨rfl, rfl⟩, fun provider id heq => ?_⟩
      cases heq
      exact ⟨rfl, rfl, .inl rfl⟩
  · refine ensures_ask_bind.2 fun key => ensures_pure.2 ⟨⟨rfl, rfl⟩, fun provider id heq => ?_⟩
    cases heq
    exact ⟨rfl, rfl, .inr ⟨record, _, rfl⟩⟩

/-- The provider's key is there if it needs one. -/
def HasKey (provider : ProviderConfig) : Prop :=
  provider.apiKeyRequired → provider.apiKey.isSome

lemma checkProvider_spec (target : ResolvedProvider) (h : History) :
    Ensures (fun r h' => Unobserved h h' ∧ (r = .ok () → HasKey target.provider))
      (checkProvider target) h := by
  refine ensures_ask_bind.2 fun r => ?_
  cases r with
  | error e => exact ensures_pure.2 ⟨⟨rfl, rfl⟩, nofun⟩
  | ok u =>
    by_cases hreq : target.provider.apiKeyRequired
    · simp only [hreq]
      refine ensures_pure.2 ⟨⟨rfl, rfl⟩, fun heq hreq => ?_⟩
      rcases hkey : target.provider.requireApiKey with e | key
      · rw [hkey] at heq
        cases heq
      · unfold ProviderConfig.requireApiKey at hkey
        rcases hapi : target.provider.apiKey with _ | k
        · simp [hapi, hreq] at hkey
        · rfl
    · simp only [hreq]
      exact ensures_pure.2 ⟨⟨rfl, rfl⟩, fun _ hreq' => absurd hreq' hreq⟩

/-! ### Admission -/

/-- What a passed context admission says about the request. -/
structure ContextAdmitted (request : ClientRequest) (resolved : ResolvedProvider)
    (before after : List Effect) : Prop where
  output : validateOutputBudget request.model request.estimatedOutputTokens
    resolved.provider.tokenCounting = .ok ()
  context : ∀ contextTokens, resolved.provider.tokenCounting.contextTokens = some contextTokens →
    request.isAnthropicClient → resolved.provider.tokenCounting.mode = .anthropic ∧
    ∃ target inputTokens, Credentialed resolved target ∧
      after = .counted (countTokensUrl target.provider) target (.ok inputTokens) :: before ∧
      validateContextBudget inputTokens (reservedOutput request resolved.provider) contextTokens
        (recommendedInputLimit request.model resolved.provider.tokenCounting)
        request.thinkingDisabled = .ok ()

/-- The context of a provider is checked by a count of the request's tokens. -/
def CountsTokens (request : ClientRequest) (resolved : ResolvedProvider) : Prop :=
  resolved.provider.tokenCounting.contextTokens.isSome ∧
    request.isAnthropicClient ∧ resolved.provider.tokenCounting.mode = .anthropic

/-- At most one request leaves the gateway, to the token-counting endpoint of the provider. -/
def OnlyCounts (request : ClientRequest) (resolved : ResolvedProvider)
    (before after : List Effect) : Prop :=
  after = before ∨ (CountsTokens request resolved ∧ ∃ target reply, Credentialed resolved target ∧
    after = .counted (countTokensUrl target.provider) target reply :: before)

lemma enforceContextAdmission_spec (request : ClientRequest) (resolved : ResolvedProvider)
    (h : History) : Ensures (fun r h' => OnlyCounts request resolved (effects h) (effects h') ∧
        (r = .ok () → ContextAdmitted request resolved (effects h) (effects h')))
      (enforceContextAdmission request resolved) h := by
  simp only [enforceContextAdmission]
  rcases hout : validateOutputBudget request.model request.estimatedOutputTokens
    resolved.provider.tokenCounting with e | u
  · exact ensures_pure.2 ⟨.inl rfl, nofun⟩
  rcases hctx : resolved.provider.tokenCounting.contextTokens with _ | contextTokens
  · exact ensures_pure.2 ⟨.inl rfl, fun _ => ⟨hout, fun c hc => by simp [hctx] at hc⟩⟩
  by_cases hclient : request.isAnthropicClient
  · simp only [hclient]
    by_cases hmode : resolved.provider.tokenCounting.mode = .anthropic
    · rw [if_neg (not_not.2 hmode)]
      have hcnt : CountsTokens request resolved := ⟨by rw [hctx]; rfl, hclient, hmode⟩
      refine .bind ((applySelectedProviderCredential_spec resolved h).mono fun r h1 hcred => ?_)
      obtain ⟨⟨heff, -⟩, hcred⟩ := hcred
      rcases r with e | ⟨provider, id⟩
      · exact ensures_pure.2 ⟨.inl heff, nofun⟩
      have hcred := hcred provider id rfl
      refine .bind ((checkProvider_spec _ h1).mono fun r h2 hcheck => ?_)
      obtain ⟨⟨heff2, -⟩, -⟩ := hcheck
      rcases r with e | u
      · exact ensures_pure.2 ⟨.inl (heff2.trans heff), nofun⟩
      refine ensures_ask_bind.2 fun reply => ?_
      have hafter := congrArg (Effect.counted (countTokensUrl provider)
        { resolved with provider } reply :: ·) (heff2.trans heff)
      cases reply with
      | error e =>
        exact ensures_pure.2 ⟨.inr ⟨hcnt, _, _, hcred, hafter⟩, nofun⟩
      | ok inputTokens =>
        refine ensures_pure.2 ⟨.inr ⟨hcnt, _, _, hcred, hafter⟩, fun heq => ?_⟩
        refine ⟨hout, fun c hc _ => ⟨hmode, _, inputTokens, hcred, hafter, ?_⟩⟩
        rw [hctx] at hc
        cases hc
        exact heq
    · rw [if_pos hmode]
      exact ensures_pure.2 ⟨.inl rfl, nofun⟩
  · simp only [hclient]
    exact ensures_pure.2 ⟨.inl rfl, fun _ => ⟨hout, fun _ _ hc => absurd hc hclient⟩⟩

/-! ### The gates of an attempt -/

/-- An attempt that passed its gates. -/
structure Admitted (p : Prepared) (request : LedgerRequest) (target : ResolvedProvider)
    (provider : ProviderConfig) (sent : SentAttempt) (claim : AttemptClaim) : Prop where
  credentialed : Credentialed target { target with provider }
  key : HasKey provider
  valid : p.request.validateProvider { target with provider } = .ok ()
  providerId : sent.providerId = target.providerId
  model : sent.model = target.model
  request : claim.request = request
  attemptId : claim.attemptId = sent.attemptId
  pricing : sent.pricing = appliedPricing { target with provider }
  estimate : sent.estimate = estimateUsage p.request sent.pricing

/-- How the gates of an attempt can end. -/
def GateSpec (p : Prepared) (request : LedgerRequest) (target : ResolvedProvider) :
    Gate → List Effect → List Effect → Prop
  | .skip _, before, after => after = before
  | .stop _, before, after => after = before
  | .pass provider sent, before, after => ∃ claim, Admitted p request target provider sent claim ∧
      after = .attemptBegun claim sent.ledgerAttempt :: before

lemma acquireLocalLease_spec (urlHost : String → Option String) (p : Prepared)
    (later : List QueuedAttempt) (target : ResolvedProvider) (h : History) :
    Ensures (fun _ h' => Unobserved h h') (acquireLocalLease urlHost p later target) h := by
  unfold acquireLocalLease
  by_cases hlocal : ProviderBoundary.forResolved urlHost target = .localNet
  · rw [if_pos hlocal]
    exact ensures_ask.2 fun r => ensures_ret.2 ⟨rfl, rfl⟩
  · rw [if_neg hlocal]
    exact ensures_pure.2 ⟨rfl, rfl⟩

/-- The gates send nothing, and stop where the ledger refuses the attempt. -/
lemma admitAttempt_spec (urlHost : String → Option String) (p : Prepared)
    (request : LedgerRequest) (later : List QueuedAttempt) (target : ResolvedProvider)
    (h : History) :
    Ensures (fun gate h' => GateSpec p request target gate (effects h) (effects h') ∧
        (steps h' = steps h ∨ (∃ e, gate = .stop e) ∧ steps h' = .refused :: steps h))
      (admitAttempt urlHost p request later target) h := by
  refine ensures_ask_bind.2 fun attemptId => ?_
  refine .bind
    ((acquireLocalLease_spec urlHost p later target _).mono fun admission h1 hsame1 => ?_)
  rcases admission with e | _ | _
  · exact ensures_pure.2 ⟨hsame1.1, .inl hsame1.2⟩
  · refine .bind ((applySelectedProviderCredential_spec target h1).mono fun r h2 hcred => ?_)
    obtain ⟨hsame2, hcred⟩ := hcred
    replace hsame2 : Unobserved h h2 := .trans hsame1 hsame2
    rcases r with e | ⟨provider, credentialId⟩
    · exact ensures_pure.2 ⟨hsame2.1, .inl hsame2.2⟩
    have hcred := hcred provider credentialId rfl
    refine ensures_ask_bind.2 fun quotas => ?_
    cases quotas with
    | error e => exact ensures_pure.2 ⟨hsame2.1, .inl hsame2.2⟩
    | ok usagePolicy =>
    refine .bind ((checkProvider_spec _ _).mono fun r h3 hcheck => ?_)
    have hsame3 : Unobserved h h3 := hsame2.trans hcheck.1
    rcases r with e | u
    · exact ensures_pure.2 ⟨hsame3.1, .inl hsame3.2⟩
    have hkey := hcheck.2 rfl
    rcases hvalid : p.request.validateProvider { target with provider } with e | u
    · exact ensures_pure.2 ⟨hsame3.1, .inl hsame3.2⟩
    refine ensures_ask_bind.2 fun rate => ?_
    cases rate with
    | error e => exact ensures_pure.2 ⟨hsame3.1, .inl hsame3.2⟩
    | ok u =>
    refine ensures_ask_bind.2 fun begun => ?_
    cases begun with
    | error e =>
      refine ensures_pure.2 ⟨hsame3.1, .inr ⟨⟨e, rfl⟩, ?_⟩⟩
      exact congrArg (.refused :: ·) hsame3.2
    | ok ledgerAttempt =>
      refine ensures_pure.2 ⟨⟨_, ?_, congrArg (Effect.attemptBegun _ ledgerAttempt :: ·)
        hsame3.1⟩, .inl hsame3.2⟩
      exact ⟨hcred, hkey, hvalid, rfl, rfl, rfl, rfl, rfl, rfl⟩
  · exact ensures_pure.2 ⟨hsame1.1, .inl hsame1.2⟩

/-! ### Sending -/

/-- The effects of sending an attempt. -/
def SendSpec (stream : Bool) (target : ResolvedProvider) (provider : ProviderConfig)
    (repair : Bool) (sent : SentAttempt) (result : Except AppError UpstreamResponse)
    (before after : List Effect) : Prop :=
  let sending : Effect :=
    .sent (inferenceUrl provider) { target with provider } sent.attemptId repair result
  if stream && succeeded result then after = sending :: before
  else ∃ outcome : LedgerOutcome, outcome.estimate = finalEstimate target sent result ∧
    after = .attemptFinalized sent.ledgerAttempt outcome :: sending :: before

lemma sendAttempt_spec (stream : Bool) (target : ResolvedProvider) (provider : ProviderConfig)
    (repair : Bool) (sent : SentAttempt) (h : History) : Ensures (fun result h' =>
        SendSpec stream target provider repair sent result (effects h) (effects h') ∧
          steps h' = .sent :: steps h) (sendAttempt stream target provider repair sent) h := by
  refine ensures_ask_bind.2 fun result => ?_
  by_cases hstr : (stream && succeeded result)
  · rw [if_pos hstr]
    refine ensures_pure.2 ⟨?_, rfl⟩
    unfold SendSpec
    rw [if_pos hstr]
    rfl
  · rw [if_neg hstr]
    refine ensures_ask_bind.2 fun _ => ensures_ask_bind.2 fun _ => ensures_pure.2 ⟨?_, rfl⟩
    unfold SendSpec
    rw [if_neg hstr]
    exact ⟨_, rfl, rfl⟩

section

variable (hsend : SendSpec stream target provider repair sent result before after)

include hsend

/-- What is new after sending: the request, and perhaps the finalization of the attempt. -/
lemma SendSpec.mem (he : e ∈ after) :
    e = .sent (inferenceUrl provider) { target with provider } sent.attemptId repair result ∨
      (∃ outcome, e = .attemptFinalized sent.ledgerAttempt outcome) ∨ e ∈ before := by
  simp only [SendSpec] at hsend
  split_ifs at hsend
  · subst hsend
    rcases mem_cons.1 he with rfl | he
    · exact .inl rfl
    · exact .inr (.inr he)
  · obtain ⟨outcome, -, rfl⟩ := hsend
    rcases mem_cons.1 he with rfl | he
    · exact .inr (.inl ⟨outcome, rfl⟩)
    rcases mem_cons.1 he with rfl | he
    · exact .inl rfl
    · exact .inr (.inr he)

lemma SendSpec.sent_mem :
    .sent (inferenceUrl provider) { target with provider } sent.attemptId repair result
      ∈ after := by
  simp only [SendSpec] at hsend
  split_ifs at hsend
  · subst hsend
    exact mem_cons_self ..
  · obtain ⟨outcome, -, rfl⟩ := hsend
    exact mem_cons_of_mem _ (mem_cons_self ..)

lemma SendSpec.suffix : before <:+ after := by
  simp only [SendSpec] at hsend
  split_ifs at hsend
  · subst hsend
    exact suffix_cons _ _
  · obtain ⟨outcome, -, rfl⟩ := hsend
    exact (suffix_cons _ _).trans (suffix_cons _ _)

end

/-! ### Rounds of the attempt loop -/

/-- The ways in which a round can end, by the state before and the effects before and after. -/
inductive RoundSpec (p : Prepared) (request : LedgerRequest) (s : LoopState) :
    LoopState × Bool → List Effect → List Effect → Prop where
  | empty {es : List Effect} (hs : s.attempts = []) : RoundSpec p request s (s, false) es es
  /-- the attempt is not made -/
  | skip {es : List Effect} {q : QueuedAttempt} {rest : List QueuedAttempt}
      (hs : s.attempts = q :: rest) (result : Except AppError UpstreamResponse)
      (hres : result = s.result ∨ ∃ e, result = .error e) :
      RoundSpec p request s ({ s.take q rest with result := result }, true) es es
  /-- no further attempt is made -/
  | stop {es : List Effect} {q : QueuedAttempt} {rest : List QueuedAttempt}
      (hs : s.attempts = q :: rest) (e : AppError) :
      RoundSpec p request s ({ s.take q rest with result := .error e }, false) es es
  /-- the attempt is made -/
  | sent {es es' : List Effect} {q : QueuedAttempt} {rest : List QueuedAttempt}
      (hs : s.attempts = q :: rest) {provider : ProviderConfig} {sent : SentAttempt}
      {claim : AttemptClaim} (hadmitted : Admitted p request q.target provider sent claim)
      {result : Except AppError UpstreamResponse}
      (hsend : SendSpec p.request.isStream q.target provider q.repair sent result
        (.attemptBegun claim sent.ledgerAttempt :: es) es') :
      RoundSpec p request s
        (LoopState.after p.request ((s.take q rest).send sent) q sent result) es es'

variable {urlHost : String → Option String} {p : Prepared} {request : LedgerRequest}
  {resolved : ResolvedProvider} {attempted : Bool}

/-- How a round ends; one in which the ledger refuses the attempt is the last. -/
lemma attemptRound_spec (s : LoopState) (h : History) :
    Ensures (fun r h' => RoundSpec p request s r (effects h) (effects h') ∧
        (steps h' = steps h ∨ steps h' = .sent :: steps h ∨
          r.2 = false ∧ steps h' = .refused :: steps h)) (attemptRound urlHost p request s) h := by
  unfold attemptRound
  rcases hs : s.attempts with _ | ⟨q, rest⟩
  · exact ensures_pure.2 ⟨.empty hs, .inl rfl⟩
  refine .bind
    ((admitAttempt_spec urlHost p request rest q.target h).mono fun gate h1 ⟨hgate, hsteps⟩ => ?_)
  rcases gate with (_ | e) | e | ⟨provider, sent⟩
  · have heff : effects h1 = effects h := hgate
    refine ensures_pure.2 ⟨?_, hsteps.imp_right nofun⟩
    rw [heff]
    exact .skip hs s.result (.inl rfl)
  · have heff : effects h1 = effects h := hgate
    refine ensures_pure.2 ⟨?_, hsteps.imp_right nofun⟩
    rw [heff]
    exact .skip hs (.error e) (.inr ⟨e, rfl⟩)
  · have heff : effects h1 = effects h := hgate
    refine ensures_pure.2 ⟨?_, hsteps.imp_right fun hstop => .inr ⟨rfl, hstop.2⟩⟩
    rw [heff]
    exact .stop hs e
  · obtain ⟨claim, hadmitted, heff⟩ := hgate
    replace hsteps : steps h1 = steps h := hsteps.resolve_right nofun
    refine .bind ((sendAttempt_spec p.request.isStream q.target provider q.repair sent h1).mono
        fun result h2 ⟨hsend, hsent⟩ => ensures_pure.2 ⟨?_, .inr (.inl (hsteps ▸ hsent))⟩)
    rw [heff] at hsend
    exact .sent hs hadmitted hsend

/-- What is in the queue after an attempt was in it before, or is that attempt again. -/
lemma mem_attempts_after {q' : QueuedAttempt}
    (hq : q' ∈ (LoopState.after r s q sent result).1.attempts) :
    q' ∈ s.attempts ∨ q'.target = q.target := by
  unfold LoopState.after at hq
  rcases hfoll : followup r s.toolRepairAttempted q result with _ | _ | _ | _ <;>
    simp only [hfoll] at hq
  · exact .inl hq
  · rcases mem_cons.1 hq with rfl | hq
    · exact .inr rfl
    · exact .inl hq
  · rcases mem_cons.1 hq with rfl | hq
    · exact .inr rfl
    · exact .inl hq
  · exact .inl hq

/-- **A round adds no target to the queue.** -/
lemma RoundSpec.queued {r : LoopState × Bool}
    (hround : RoundSpec p request s r es es') (hq : q ∈ r.1.attempts) :
    ∃ q' ∈ s.attempts, q'.target = q.target := by
  cases hround with
  | empty hs => exact ⟨q, hq, rfl⟩
  | skip hs result hres =>
    rw [hs]
    exact ⟨q, mem_cons_of_mem _ hq, rfl⟩
  | stop hs e =>
    rw [hs]
    exact ⟨q, mem_cons_of_mem _ hq, rfl⟩
  | @sent _ _ q0 rest hs provider sent claim hadmitted result hsend =>
    rw [hs]
    rcases mem_attempts_after hq with hq | heq
    · exact ⟨q, mem_cons_of_mem _ hq, rfl⟩
    · exact ⟨q0, mem_cons_self .., heq.symm⟩

/-- What is new after a round: an attempt is begun and sent, and perhaps finalized. -/
lemma RoundSpec.mem {r : LoopState × Bool}
    (hround : RoundSpec p request s r es es') (he : e ∈ es') :
    e ∈ es ∨ ∃ q ∈ s.attempts, ∃ provider sent claim result,
      Admitted p request q.target provider sent claim ∧
      (e = .sent (inferenceUrl provider) { q.target with provider } sent.attemptId q.repair result ∨
        e = .attemptBegun claim sent.ledgerAttempt ∨
        ∃ outcome, e = .attemptFinalized sent.ledgerAttempt outcome) := by
  cases hround with
  | empty hs => exact .inl he
  | skip hs result hres => exact .inl he
  | stop hs e => exact .inl he
  | @sent _ _ q rest hs provider sent claim hadmitted result hsend =>
    have hq : q ∈ s.attempts := by
      rw [hs]
      exact mem_cons_self ..
    rcases hsend.mem he with rfl | ⟨outcome, rfl⟩ | he
    · exact .inr ⟨q, hq, provider, sent, claim, result, hadmitted, .inl rfl⟩
    · exact .inr ⟨q, hq, provider, sent, claim, result, hadmitted, .inr (.inr ⟨outcome, rfl⟩)⟩
    · rcases mem_cons.1 he with rfl | he
      · exact .inr ⟨q, hq, provider, sent, claim, result, hadmitted, .inr (.inl rfl)⟩
      · exact .inl he

lemma RoundSpec.suffix {r : LoopState × Bool}
    (hround : RoundSpec p request s r es es') : es <:+ es' := by
  cases hround with
  | empty | skip | stop => exact suffix_refl _
  | sent hs hadmitted hsend => exact (suffix_cons _ _).trans hsend.suffix

lemma triesLeft_cons (q : QueuedAttempt) (rest : List QueuedAttempt) :
    triesLeft (q :: rest) =
      max 1 (q.target.provider.maxAttempts - q.ordinal) + triesLeft rest := rfl

/-- What follows the repair or the retry of an attempt was an error. -/
lemma followup_repair (hfoll : followup r attempted q result = .repair) : attempted = false := by
  rcases result with e | response
  · unfold followup at hfoll
    simp only at hfoll
    split_ifs at hfoll with hrep
    simp only [Bool.and_eq_true, Bool.not_eq_true'] at hrep
    exact hrep.2
  · cases hfoll

lemma followup_again (hfoll : followup r attempted q result = .again) :
    q.ordinal + 1 < q.target.provider.maxAttempts := by
  rcases result with e | response
  · unfold followup at hfoll
    simp only at hfoll
    split_ifs at hfoll with hrep hretry hagain
    exact hagain
  · cases hfoll

/-- **A round that is not the last uses up one of the rounds.** -/
lemma RoundSpec.remaining_lt {r : LoopState × Bool}
    (hround : RoundSpec p request s r es es') (hgo : r.2) : r.1.remaining < s.remaining := by
  cases hround with
  | empty hs => cases hgo
  | skip hs result hres =>
    simp only [remaining, take, hs, triesLeft_cons]
    omega
  | stop hs e => cases hgo
  | @sent _ _ q rest hs provider sent claim hadmitted result hsend =>
    have htake : ((s.take q rest).send sent).toolRepairAttempted = s.toolRepairAttempted := rfl
    unfold LoopState.after at hgo ⊢
    rcases hfoll : followup p.request ((s.take q rest).send sent).toolRepairAttempted q result
      with _ | _ | _ | _
    · simp only [hfoll] at hgo
      cases hgo
    · -- there is only one repair
      have hfirst := followup_repair hfoll
      rw [htake] at hfirst
      simp only [remaining, record, send, take, hs, triesLeft_cons, hfirst]
      simp
    · have hlt := followup_again hfoll
      simp only [remaining, record, keep, send, take, hs, triesLeft_cons]
      omega
    · simp only [remaining, record, keep, send, take, hs, triesLeft_cons]
      omega

lemma attemptRound_lt (s : LoopState) (h : History) :
    Ensures (fun r _ => r.2 → r.1.remaining < s.remaining) (attemptRound urlHost p request s) h :=
  (attemptRound_spec s h).mono fun _ _ hround => hround.1.remaining_lt

/-- **The attempt loop is a `while` loop**: a round, and the loop again while rounds say so. -/
lemma attemptLoop_eq (s : LoopState) :
    attemptLoop urlHost p request s = attemptRound urlHost p request s >>= fun r =>
      if r.2 then attemptLoop urlHost p request r.1 else pure r.1 :=
  iterate_eq fun s h => attemptRound_lt s h

/-- **The rule of the attempt loop**: rounds that go on keep `I`, and the last leaves `J`. -/
lemma attemptLoop_rule {I J : LoopState → List Effect → Prop}
    (hround : ∀ s r es es', I s es → RoundSpec p request s r es es' →
      if r.2 then I r.1 es' else J r.1 es') (hs : I s (effects h)) :
    Ensures (fun s' h' => J s' (effects h')) (attemptLoop urlHost p request s) h := by
  refine ensures_iterate (μ := remaining) (I := fun s h => I s (effects h)) ?_ hs
    (Nat.lt_succ_self _)
  intro s h hI
  refine (attemptRound_spec s h).mono fun r h' ⟨hr, _⟩ => ?_
  have hI' := hround s r _ _ hI hr
  by_cases hgo : r.2
  · rw [if_pos hgo] at hI' ⊢
    exact ⟨hI', hr.remaining_lt hgo⟩
  · rw [if_neg hgo] at hI' ⊢
    exact hI'

/-! ### The end of the handler -/

/-- How the handler can end after the loop, given the usage it computes. -/
def RespondSpec (headerValueOk : String → Bool) (p : Prepared) (request : LedgerRequest)
    (s : LoopState) (usage : UsageEventInput) (exit : Exit) (before after : List Effect) : Prop :=
  if p.request.isStream && succeeded s.result then
    after = before ∧
      match attachRoutingResponseHeaders headerValueOk p usage, s.lastSent with
      | .error e, _ => exit = .refused e
      | .ok _, none => exit = .aborted
      | .ok _, some sent => exit = .streaming (streamContext p request s usage sent)
  else
    after = .requestFinalized request usage :: before ∧
      match attachRoutingResponseHeaders headerValueOk p usage with
      | .error e => exit = .refused e
      | .ok _ => exit = .answered (resultStatus s.result)

lemma observeLast_spec (s : LoopState) (h : History) :
    Ensures (fun _ h' => effects h' = effects h) (observeLast s) h := by
  unfold observeLast
  split
  · exact ensures_readLifecycle fun _ => rfl
  · exact ensures_pure.2 rfl

lemma firstByteLatency_spec (p : Prepared) (s : LoopState) (h : History) :
    Ensures (fun _ h' => effects h' = effects h) (firstByteLatency p s) h := by
  unfold firstByteLatency
  split
  · exact ensures_readLifecycle fun _ => rfl
  · exact ensures_pure.2 rfl

lemma respond_spec (headerValueOk : String → Bool) (s : LoopState) (h : History) :
    Ensures (fun exit h' => ∃ latency observed firstByte,
        RespondSpec headerValueOk p request s (requestUsage p s latency observed firstByte) exit
          (effects h) (effects h')) (respond headerValueOk p request s) h := by
  refine ensures_ask_bind.2 fun latency => ?_
  refine .bind ((observeLast_spec s _).mono fun observed h1 heff1 => ?_)
  refine .bind ((firstByteLatency_spec p s h1).mono fun firstByte h2 heff2 => ?_)
  have heff : effects h2 = effects h := heff2.trans heff1
  simp only [RespondSpec]
  by_cases hstr : (p.request.isStream && succeeded s.result)
  · simp only [hstr]
    rcases hhead : attachRoutingResponseHeaders headerValueOk p
      (requestUsage p s latency observed firstByte) with e | u
    · exact ensures_pure.2 ⟨latency, observed, firstByte, heff, by simp only [hhead]⟩
    · cases hlast : s.lastSent <;>
        exact ensures_pure.2 ⟨latency, observed, firstByte, heff, by simp only [hhead]⟩
  · simp only [hstr]
    refine ensures_ask_bind.2 fun done => ?_
    have hafter := congrArg (Effect.requestFinalized request
      (requestUsage p s latency observed firstByte) :: ·) heff
    cases hhead : attachRoutingResponseHeaders headerValueOk p
        (requestUsage p s latency observed firstByte) <;>
      exact ensures_pure.2 ⟨latency, observed, firstByte, hafter, by simp only [hhead]⟩

/-! ### The life of a streamed body -/

/-- A stream is finalized, attempt and request once each, unless there is no runtime. -/
def StreamSpec (c : StreamFinalizationContext) (before after : List Effect) : Prop :=
  (∃ reportedCost usage final latency,
      final.estimate = (c.reported reportedCost usage).estimate ∧
      after = .requestFinalized c.ledgerRequest final
        :: .attemptFinalized c.ledgerAttempt (ledgerOutcomeFromUsage final latency) :: before) ∨
    after = .unspawned :: before

variable (c : StreamFinalizationContext)

lemma reportedCost_spec (h : History) :
    Ensures (fun _ h' => effects h' = effects h) c.reportedCost h := by
  unfold StreamFinalizationContext.reportedCost
  split
  · exact ensures_readLifecycle fun _ => rfl
  · exact ensures_pure.2 rfl

lemma finalize_spec (outcome : StreamTerminalOutcome) (h : History) :
    Ensures (fun _ h' => StreamSpec c (effects h) (effects h')) (c.finalize outcome) h := by
  refine ensures_ask_bind.2 fun latency => ?_
  refine .bind ((reportedCost_spec c _).mono fun cost h1 heff1 => ?_)
  refine .bind (ensures_readLifecycle fun l2 => ?_)
  refine .bind (ensures_readLifecycle fun l3 => ?_)
  refine .bind (ensures_readLifecycle fun l4 => ?_)
  refine ensures_ask_bind.2 fun attemptLatency => ensures_ask_bind.2 fun runtime => ?_
  cases runtime with
  | false => exact ensures_pure.2 (.inr (congrArg (Effect.unspawned :: ·) heff1))
  | true =>
    refine ensures_ask_bind.2 fun done => ensures_ask_bind.2 fun done' => ensures_pure.2 ?_
    refine .inl ⟨cost, l2.usage, c.finalUsage outcome cost l2.usage l3 latency
      l4.firstSemanticLatencyMs, attemptLatency, rfl, ?_⟩
    have heff : effects h1 = effects h := heff1
    change Effect.requestFinalized _ _ :: Effect.attemptFinalized _ _ :: effects h1 = _
    rw [heff]
    rfl

/-- **A streamed body finalizes its attempt and its request once**, however it ends. -/
lemma streamBody_spec (h : History) :
    Ensures (fun _ h' => StreamSpec c (effects h) (effects h')) (streamBody c) h := by
  have hfin : ∀ (outcome : StreamTerminalOutcome) (h1 : History), effects h1 = effects h →
      Ensures (fun guard h' => guard = none ∧ StreamSpec c (effects h) (effects h'))
        (StreamFinalizationGuard.finish (some c) outcome) h1 := by
    intro outcome h1 heff
    refine Ensures.bind ((finalize_spec c outcome h1).mono fun _ h2 hspec => ensures_pure.2 ?_)
    rw [heff] at hspec
    exact ⟨rfl, hspec⟩
  have hdeliver : Ensures (fun guard h' =>
      (guard = none ∧ StreamSpec c (effects h) (effects h')) ∨
        (guard = some c ∧ effects h' = effects h))
      (deliver c) h := by
    refine ensures_ask_bind.2 fun ending => ?_
    cases ending with
    | eof | error =>
      refine Ensures.bind (ensures_readLifecycle fun l => ?_)
      exact Ensures.mono (hfin _ _ rfl) fun _ _ hspec => .inl hspec
    | dropped => exact ensures_pure.2 (.inr ⟨rfl, rfl⟩)
  refine Ensures.bind (hdeliver.mono fun guard h1 hguard => ?_)
  rcases hguard with ⟨rfl, hspec⟩ | ⟨rfl, heff⟩
  · exact ensures_pure.2 hspec
  · refine Ensures.bind (ensures_readLifecycle fun l => ?_)
    refine (finalize_spec c _ _).mono fun _ h2 hspec => ?_
    have heff' : effects (⟨.lifecycle c.attemptId, l⟩ :: h1 : History) = effects h := heff
    rw [heff'] at hspec
    exact hspec

/-! ### The whole handler -/

/-- How `execute` can end, given what the attempt loop leaves. -/
def ExecuteSpec (ext : Externals) (p : Prepared)
    (J : LedgerRequest → LoopState → List Effect → Prop) (before : List Effect) (exit : Exit)
    (after : List Effect) : Prop :=
  (∃ e, exit = .refused e ∧ OnlyCounts p.request p.resolved before after) ∨
    ∃ request s latency observed firstByte es, J request s es ∧
      RespondSpec ext.headerValueOk p request s (requestUsage p s latency observed firstByte) exit
        es after

lemma streamPermit_spec (p : Prepared) (h : History) :
    Ensures (fun _ h' => effects h' = effects h) (streamPermit p) h := by
  unfold streamPermit
  split
  · exact ensures_ask.2 fun r => ensures_ret.2 rfl
  · exact ensures_pure.2 rfl

variable (ext : Externals)

/-- The second half of the handler, by an invariant `I` of the attempt loop that holds once the
request has begun, and what the last round leaves. -/
lemma execute_spec {I J : LedgerRequest → LoopState → List Effect → Prop}
    (hstart : ∀ request es, OnlyCounts p.request p.resolved (effects h) es →
      ContextAdmitted p.request p.resolved (effects h) es →
      I request (initial p) (.requestBegun p.claim request :: es))
    (hround : ∀ request s r es es', I request s es → RoundSpec p request s r es es' →
      if r.2 then I request r.1 es' else J request r.1 es') :
    Ensures (fun exit h' => ExecuteSpec ext p J (effects h) exit (effects h'))
      (execute ext p) h := by
  refine ensures_ask_bind.2 fun rate => ?_
  cases rate with
  | error e => exact ensures_pure.2 (.inl ⟨e, rfl, .inl rfl⟩)
  | ok u =>
  refine .bind ((enforceContextAdmission_spec p.request p.resolved _).mono fun r h1 hadm => ?_)
  obtain ⟨hcnt, hadm⟩ := hadm
  rcases r with e | u
  · exact ensures_pure.2 (.inl ⟨e, rfl, hcnt⟩)
  have hadm := hadm rfl
  refine .bind ((streamPermit_spec p h1).mono fun permit h2 heff2 => ?_)
  rw [← heff2] at hcnt hadm
  cases permit with
  | false => exact ensures_pure.2 (.inl ⟨_, rfl, hcnt⟩)
  | true =>
  refine ensures_ask_bind.2 fun begun => ?_
  cases begun with
  | error e => exact ensures_pure.2 (.inl ⟨e, rfl, hcnt⟩)
  | ok request =>
    have hI := hstart request (effects h2) hcnt hadm
    refine .bind (.mono (attemptLoop_rule (hround request) hI) fun s h3 hJ3 => ?_)
    refine (respond_spec ext.headerValueOk s h3).mono fun exit h4 hresp => ?_
    obtain ⟨latency, observed, firstByte, hresp⟩ := hresp
    exact .inr ⟨request, s, latency, observed, firstByte, effects h3, hJ3, hresp⟩

/-- How `serve` can end, given what is known of the handler. -/
def ServeSpec (ext : Externals) (snapshot : Snapshot) (headers : Headers)
    (request : ClientRequest) (P : Prepared → Exit → List Effect → Prop) (exit : Exit)
    (es' : List Effect) : Prop :=
  (∃ e, prepare ext snapshot headers request = .error e ∧ exit = .refused e ∧ es' = []) ∨
    ∃ p es, prepare ext snapshot headers request = .ok p ∧ P p exit es ∧
      match exit with
      | .streaming c => StreamSpec c es es'
      | _ => es' = es

variable (snapshot : Snapshot)

/-- The handler and the body it returns, by what is known of the second half. -/
lemma serve_spec (headers : Headers)
    (request : ClientRequest) {P : Prepared → Exit → List Effect → Prop}
    (hP : ∀ p, prepare ext snapshot headers request = .ok p →
      Ensures (fun exit h' => P p exit (effects h')) (execute ext p) []) :
    Ensures (fun exit h' => ServeSpec ext snapshot headers request P exit (effects h'))
      (serve ext snapshot headers request) [] := by
  refine .bind ?_
  unfold handleInference
  rcases hprep : prepare ext snapshot headers request with e | p
  · exact ensures_pure.2 (ensures_pure.2 (.inl ⟨e, hprep, rfl, rfl⟩))
  · refine (hP p hprep).mono fun exit h1 hexit => ?_
    cases exit with
    | streaming c =>
      refine .bind ((streamBody_spec c h1).mono fun _ h2 hstr => ensures_pure.2 ?_)
      exact .inr ⟨p, effects h1, hprep, hexit, hstr⟩
    | refused | answered | aborted => exact ensures_pure.2 (.inr ⟨p, effects h1, hprep, hexit, rfl⟩)

/-- An effect of the end of the handler or of its stream. -/
inductive Effect.Finalizes : Effect → Prop where
  | request (request : LedgerRequest) (usage : UsageEventInput) :
      Finalizes (.requestFinalized request usage)
  | attempt (attempt : LedgerAttempt) (outcome : LedgerOutcome) :
      Finalizes (.attemptFinalized attempt outcome)
  | unspawned : Finalizes .unspawned

/-- Finalizations follow. -/
def ThenFinalized (es es' : List Effect) : Prop :=
  es <:+ es' ∧ ∀ e ∈ es', e ∈ es ∨ e.Finalizes

lemma ThenFinalized.refl (es : List Effect) : ThenFinalized es es :=
  ⟨suffix_refl es, fun _ he => .inl he⟩

lemma ThenFinalized.cons (h : ThenFinalized es es')
    (he : e.Finalizes) : ThenFinalized es (e :: es') := by
  exact ⟨h.1.trans (suffix_cons e es'), forall_mem_cons.2 ⟨.inr he, h.2⟩⟩

lemma StreamSpec.thenFinalized {c : StreamFinalizationContext}
    (hstr : StreamSpec c es es') : ThenFinalized es es' := by
  rcases hstr with ⟨_, _, final, latency, -, rfl⟩ | rfl
  · exact ((ThenFinalized.refl es).cons (.attempt _ _)).cons (.request _ _)
  · exact (ThenFinalized.refl es).cons .unspawned

lemma RespondSpec.thenFinalized {headerValueOk : String → Bool}
    {usage : UsageEventInput} {exit : Exit}
    (hresp : RespondSpec headerValueOk p request s usage exit es es') :
    ThenFinalized es es' := by
  unfold RespondSpec at hresp
  split at hresp
  · rw [hresp.1]
    exact .refl es
  · rw [hresp.1]
    exact (ThenFinalized.refl es).cons (.request _ _)

lemma ThenFinalized.trans {es'' : List Effect} (h : ThenFinalized es es')
    (h' : ThenFinalized es' es'') : ThenFinalized es es'' := by
  refine ⟨h.1.trans h'.1, fun e he => ?_⟩
  rcases h'.2 e he with he | he
  · exact h.2 e he
  · exact .inr he

/-- **The effects of a whole run**, by an invariant of the attempt loop: there is none, or only a
count of tokens, or those of the loop and finalizations after them. -/
lemma serve_effects (headers : Headers)
    (r : ClientRequest) {J : Prepared → LedgerRequest → LoopState → List Effect → Prop}
    (hstart : ∀ p, prepare ext snapshot headers r = .ok p → ∀ request es,
      OnlyCounts p.request p.resolved [] es → ContextAdmitted p.request p.resolved [] es →
      J p request (initial p) (.requestBegun p.claim request :: es))
    (hround : ∀ p request s r es es', J p request s es → RoundSpec p request s r es es' →
      J p request r.1 es') :
    Ensures (fun _ h' => effects h' = [] ∨ ∃ p, prepare ext snapshot headers r = .ok p ∧
        (OnlyCounts p.request p.resolved [] (effects h') ∨
          ∃ request s es, J p request s es ∧ ThenFinalized es (effects h')))
      (serve ext snapshot headers r) [] := by
  have hexec : ∀ p, prepare ext snapshot headers r = .ok p →
      Ensures (fun exit h' => ExecuteSpec ext p (J p) [] exit (effects h')) (execute ext p) [] :=
    fun p hp => execute_spec ext (h := []) (hstart p hp)
      fun request s r es es' hJ hr => by
        have hJ' := hround p request s r es es' hJ hr
        split <;> exact hJ'
  refine (serve_spec ext snapshot headers r hexec).mono fun exit h' hserve => ?_
  rcases hserve with ⟨e, -, -, heff⟩ | ⟨p, es, hp, hexit, hend⟩
  · exact .inl heff
  refine .inr ⟨p, hp, ?_⟩
  rcases hexit with ⟨e, rfl, hcnt⟩ | ⟨request, s, _, _, _, es0, hJ, hresp⟩
  · rw [← hend] at hcnt
    exact .inl hcnt
  · refine .inr ⟨request, s, es0, hJ, hresp.thenFinalized.trans ?_⟩
    cases exit with
    | streaming c => exact StreamSpec.thenFinalized hend
    | _ =>
      have heff : effects h' = es := hend
      rw [heff]
      exact .refl es

/-! ### What leaves the gateway was planned -/

/-- Queue and requests come from the plan: tokens are counted for its first attempt, and an
attempt is sent with a key if it needs one, to a provider with the capabilities it needs. -/
structure Planned (p : Prepared) (s : LoopState) (es : List Effect) : Prop where
  queued : ∀ q ∈ s.attempts, q.target ∈ p.authorized
  counted : ∀ url target reply, Effect.counted url target reply ∈ es →
    url = countTokensUrl target.provider ∧ Credentialed p.resolved target
  sent : ∀ url target id repair reply, Effect.sent url target id repair reply ∈ es →
    url = inferenceUrl target.provider ∧ ∃ a ∈ p.authorized, Credentialed a target ∧
      HasKey target.provider ∧ p.request.validateProvider target = .ok ()

lemma OnlyCounts.counted (hcnt : OnlyCounts r resolved [] es)
    (hmem : Effect.counted url target reply ∈ es) :
    url = countTokensUrl target.provider ∧ Credentialed resolved target := by
  rcases hcnt with rfl | ⟨-, target', reply', hcred, rfl⟩
  · cases hmem
  · cases mem_singleton.1 hmem
    exact ⟨rfl, hcred⟩

lemma OnlyCounts.not_sent (hcnt : OnlyCounts r resolved [] es)
    {reply : Except AppError UpstreamResponse} : Effect.sent url target id repair reply ∉ es := by
  rcases hcnt with rfl | ⟨-, _, _, -, rfl⟩ <;> simp

lemma Planned.start (hcnt : OnlyCounts p.request p.resolved [] es) :
    Planned p (initial p) (.requestBegun p.claim request :: es) where
  queued := by
    intro q hq
    obtain ⟨a, ha, rfl⟩ := mem_map.1 hq
    exact ha
  counted := by
    intro url target reply hmem
    exact hcnt.counted ((mem_cons.1 hmem).resolve_left nofun)
  sent := by
    intro url target id repair reply hmem
    exact absurd ((mem_cons.1 hmem).resolve_left nofun) hcnt.not_sent

lemma Planned.round {r : LoopState × Bool}
    (hplan : Planned p s es) (hround : RoundSpec p request s r es es') : Planned p r.1 es' where
  queued := by
    intro q hq
    obtain ⟨q', hq', heq⟩ := hround.queued hq
    rw [← heq]
    exact hplan.queued q' hq'
  counted := by
    intro url target reply hmem
    rcases hround.mem hmem with hmem | ⟨_, _, _, _, _, _, -, he | he | ⟨_, he⟩⟩
    · exact hplan.counted url target reply hmem
    all_goals cases he
  sent := by
    intro url target id repair reply hmem
    rcases hround.mem hmem with hmem | ⟨q, hq, provider, sent, claim, result, hadmitted, he⟩
    · exact hplan.sent url target id repair reply hmem
    · rcases he with he | he | ⟨outcome, he⟩ <;> cases he
      exact ⟨rfl, q.target, hplan.queued q hq, hadmitted.credentialed, hadmitted.key,
        hadmitted.valid⟩

/-- **What leaves the gateway was planned**, in every run. -/
lemma serve_planned (headers : Headers)
    (r : ClientRequest) : Ensures (fun _ h' =>
        (∀ url target reply, Effect.counted url target reply ∈ effects h' →
          ∃ p, prepare ext snapshot headers r = .ok p ∧
            url = countTokensUrl target.provider ∧ Credentialed p.resolved target) ∧
        ∀ url target id repair reply, Effect.sent url target id repair reply ∈ effects h' →
          ∃ p, prepare ext snapshot headers r = .ok p ∧ url = inferenceUrl target.provider ∧
            ∃ a ∈ p.authorized, Credentialed a target ∧ HasKey target.provider ∧
              p.request.validateProvider target = .ok ()) (serve ext snapshot headers r) [] := by
  refine (serve_effects ext snapshot headers r (J := fun p _ s es => Planned p s es)
    (fun p _ request es hcnt _ => .start hcnt)
    fun p request s r es es' hplan hround => hplan.round hround).mono ?_
  intro exit h' hrun
  rcases hrun with hnone | ⟨p, hp, hcnt | ⟨request, s, es, hplan, hsuff, hnew⟩⟩
  · rw [hnone]
    exact ⟨fun _ _ _ hmem => absurd hmem not_mem_nil, fun _ _ _ _ _ hmem => absurd hmem not_mem_nil⟩
  · exact ⟨fun url target reply hmem => ⟨p, hp, hcnt.counted hmem⟩,
      fun url target id repair reply hmem => absurd hmem hcnt.not_sent⟩
  · constructor
    · intro url target reply hmem
      rcases hnew _ hmem with hmem | hfinalizes
      · exact ⟨p, hp, hplan.counted url target reply hmem⟩
      · cases hfinalizes
    · intro url target id repair reply hmem
      rcases hnew _ hmem with hmem | hfinalizes
      · exact ⟨p, hp, hplan.sent url target id repair reply hmem⟩
      · cases hfinalizes

end

/-! ### A small deployment -/

namespace Sample

/-- A provider in the cloud that declares no limits and is tried once. -/
def provider (baseUrl : String) : ProviderConfig where
  protocol := .anthropic
  baseUrl := baseUrl
  apiKeyEnv := none
  apiKey := some "key"
  apiKeyRequired := true
  defaultKeyName := "PROVIDER_API_KEY"
  defaultModel := "model"
  models := ["model"]
  modelPrefixes := []
  passthroughUnknownModels := false
  repairInvalidArguments := false
  tokenCounting := {}
  maxAttempts := 1
  pricing := none
  modelPricing := ∅
  trustUpstreamCost := false

def externals : Externals where
  urlHost := fun _ => none
  headerValueOk := fun value => !hasControl value
  sha256Hex := id

def tenant : TenantKey := ⟨"org", "project", "env"⟩

def policy : ProjectPolicy where
  maximumMode := .cloudFirst
  defaultClassification := .publicData
  allowedProviders := ["*"]
  allowedModels := ["*"]
  allowedRegions := ["*"]
  allowedApiVersions := ["*"]
  cloudEnabled := true

def evidence : RoutingDecisionEvidence where
  decisionId := "rtd_1"
  groupId := none
  profile := "explicit"
  policyVersion := "static-v1"
  mode := "static"
  candidateCount := 2
  selectedProvider := "main"
  selectedModel := "model"
  recommendedProvider := "main"
  recommendedModel := "model"
  selectedScore := 1
  recommendedScore := 1
  reasonCodes := []
  sessionAffinity := false
  shadowDisagreement := false

def identity : ClientIdentity where
  userId := "user"
  username := "user"
  apiKeyId := some "key"
  quotaSubjectId := some "key"
  apiKeyName := some "key"
  apiKeyGroup := none
  teamId := none
  teamName := none

/-- The stores, with a route plan of these attempts. -/
def snapshot (attempts : List ResolvedProvider) : Snapshot where
  identity := .ok identity
  boundTenant := .ok tenant
  policy := fun _ => policy
  plan := fun _ _ => .ok ⟨attempts, evidence⟩
  freshRequestId := "req_1"
  clientIp := none

/-- An Anthropic request that every provider can serve. -/
def clientRequest : ClientRequest where
  protocol := .anthropicMessages
  model := "model"
  maxTokens := some 4096
  maxCompletionTokens := none
  stream := none
  messagesCheck := .ok ()
  contentCheck := .ok ()
  exchangeCheck := .ok ()
  serialized := .ok ""
  serializedInputChars := 40
  usesTools := false
  hasToolResults := false
  thinkingDisabled := false
  validateProvider := fun _ => .ok ()

/-- Stores and ledger accept everything; providers answer by `reply`. -/
def answer (reply : ResolvedProvider → Except AppError UpstreamResponse) : (op : Op) → op.Reply
  | .checkQuotas _ _ _ => (.ok {} : Except AppError UsagePolicySnapshot)
  | .beginRequest claim =>
    (.ok ⟨claim.requestId, claim.tenant, "owner"⟩ : Except AppError LedgerRequest)
  | .beginAttempt claim =>
    (.ok ⟨claim.attemptId, claim.request.ledgerId, "res_1", claim.request.tenant, "owner"⟩ :
      Except AppError LedgerAttempt)
  | .send _ target _ _ => reply target
  | op => op.someReply

/-- The effects of a request with these attempts and these replies. -/
def effectsOf (attempts : List ResolvedProvider) (request : ClientRequest)
    (reply : ResolvedProvider → Except AppError UpstreamResponse) : List Effect :=
  effects ((serve externals (snapshot attempts) {} request).run (fun _ => answer reply) []).2

/-- The provider of most examples. -/
def main : ResolvedProvider := ⟨"main", provider "https://main.example", "model"⟩

end Sample

end ModelPort.Gateway
