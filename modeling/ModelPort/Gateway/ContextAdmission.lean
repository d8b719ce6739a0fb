import ModelPort.Gateway.Steps

/-!
# Context and output limits of the attempts

Before the attempt loop the handler holds the request against the limits of the first attempt of
the route plan. The loop may go on to the other attempts of the plan, and their limits are not
looked at again.

* `sent_withinLimits_iff`: every attempt that is sent is within its provider's limits, in every
  run, exactly if the limits of the first attempt imply those of every attempt of the plan that
  can be sent at all.
* `fallback_beyond_limits`: a plan whose second provider has a lower output limit.
-/

namespace ModelPort.Gateway

open Routing Interaction Interaction.Prog List

variable {target planned : ResolvedProvider} {request : ClientRequest} {es : List Effect}

/-! ### Limits -/

/-- A request whose input counts `inputTokens` is within the limits of a provider. -/
structure WithinLimits (request : ClientRequest) (provider : ProviderConfig)
    (inputTokens : ℕ) : Prop where
  output : ∀ limit, outputLimit request.model provider.tokenCounting = some limit →
    request.estimatedOutputTokens ≤ limit
  context : request.isAnthropicClient →
    ∀ contextTokens, provider.tokenCounting.contextTokens = some contextTokens →
      inputTokens + (request.estimatedOutputTokens + repairReserve request provider)
        ≤ contextTokens
  reasoning : request.isAnthropicClient →
    provider.tokenCounting.contextTokens.isSome → request.thinkingDisabled = false →
    ∀ limit, recommendedInputLimit request.model provider.tokenCounting = some limit →
      inputTokens ≤ limit

/-- The checks before the attempt loop pass, with `tokens` as the count of the input tokens. -/
structure Admissible (tokens : ℕ) (request : ClientRequest) (provider : ProviderConfig) :
    Prop where
  output : validateOutputBudget request.model request.estimatedOutputTokens
    provider.tokenCounting = .ok ()
  context : ∀ contextTokens, provider.tokenCounting.contextTokens = some contextTokens →
    request.isAnthropicClient → provider.tokenCounting.mode = .anthropic ∧
      validateContextBudget tokens (reservedOutput request provider) contextTokens
        (recommendedInputLimit request.model provider.tokenCounting)
        request.thinkingDisabled = .ok ()

/-- A planned attempt can be sent: some credential gives the provider the key it needs, and the
provider has the capabilities that the request needs. -/
def Sendable (request : ClientRequest) (planned : ResolvedProvider) : Prop :=
  ∃ target, Credentialed planned target ∧ HasKey target.provider ∧
    request.validateProvider target = .ok ()

/-- The token-counting endpoints answer by `tokens`, a count for each provider and model. -/
def CountsBy (tokens : String → String → ℕ) (es : List Effect) : Prop :=
  ∀ url target n, Effect.counted url target (.ok n) ∈ es →
    n = tokens target.providerId target.model

lemma withinLimits_credentialed {n : ℕ} (hcred : Credentialed planned target) :
    WithinLimits request target.provider n ↔ WithinLimits request planned.provider n := by
  have hreserve : repairReserve request target.provider =
      repairReserve request planned.provider := by
    unfold repairReserve
    rw [hcred.repairEnabled]
  constructor
  · rintro ⟨hout, hctx, hreas⟩
    rw [hcred.tokenCounting] at hout hctx hreas
    rw [hreserve] at hctx
    exact ⟨hout, hctx, hreas⟩
  · rintro ⟨hout, hctx, hreas⟩
    rw [← hcred.tokenCounting] at hout hctx hreas
    rw [← hreserve] at hctx
    exact ⟨hout, hctx, hreas⟩

/-! ### Every run -/

variable {p : Prepared} {tokens : String → String → ℕ}

lemma CountsBy.cons (hcnt : CountsBy tokens es) {e : Effect}
    (he : ∀ url target n, e ≠ .counted url target (.ok n)) : CountsBy tokens (e :: es) := by
  intro url target n hmem
  rcases mem_cons.1 hmem with heq | hmem
  · exact absurd heq.symm (he url target n)
  · exact hcnt url target n hmem

lemma CountsBy.mono {es' : List Effect} (hcnt : CountsBy tokens es') (hsub : es <:+ es') :
    CountsBy tokens es :=
  fun url target n hmem => hcnt url target n (hsub.subset hmem)

lemma admissible_of_sent (ext : Externals) (snapshot : Snapshot) (headers : Headers)
    (request : ClientRequest) :
    Ensures (fun _ h' => CountsBy tokens (effects h') → ∀ url target id repair reply,
        Effect.sent url target id repair reply ∈ effects h' →
        ∃ p, prepare ext snapshot headers request = .ok p ∧ Admissible
          (tokens p.resolved.providerId p.resolved.model) p.request p.resolved.provider)
      (serve ext snapshot headers request) [] := by
  refine (serve_effects ext snapshot headers request (J := fun p _ _ es => CountsBy tokens es →
    Admissible (tokens p.resolved.providerId p.resolved.model) p.request p.resolved.provider)
    ?_ fun p _ s r es es' hadm hround hby => hadm (hby.mono hround.suffix)).mono ?_
  · intro p hp ledgerRequest es hcnt hadm hby
    refine ⟨hadm.output, fun contextTokens hctx hclient => ?_⟩
    obtain ⟨hmode, target, n, hcred, rfl, hok⟩ := hadm.context contextTokens hctx hclient
    have hn := hby (countTokensUrl target.provider) target n (by simp)
    rw [hcred.providerId, hcred.model] at hn
    rw [← hn]
    exact ⟨hmode, hok⟩
  · intro exit h' hrun hby url target id repair reply hmem
    rcases hrun with hnone | ⟨p, hp, hcnt | ⟨ledgerRequest, s, es, hadm, hsuff, hnew⟩⟩
    · rw [hnone] at hmem
      cases hmem
    · exact absurd hmem hcnt.not_sent
    · exact ⟨p, hp, hadm (hby.mono hsuff)⟩

/-! ### Some run -/

section

variable {α : Type} {Q : α → History → Prop} {h : History}

lemma can_ask_bind {op : Op} {f : op.Reply → Handler α} (r : op.Reply)
    (hf : Can Q (f r) (⟨op, r⟩ :: h)) : Can Q (ask op >>= f) h := can_ask.2 ⟨r, hf⟩

lemma can_pure {a : α} (ha : Q a h) : Can Q (pure a : Handler α) h := can_ret.2 ha

end

lemma can_credential {provider : ProviderConfig}
    (hcred : Credentialed planned { planned with provider }) (h : History) :
    Can (fun r h' => effects h' = effects h ∧ ∃ id, r = .ok (provider, id))
      (applySelectedProviderCredential planned.providerId planned.provider) h := by
  rcases hcred.provider with heq | ⟨record, value, heq⟩
  · have heq : provider = planned.provider := heq
    rw [heq]
    exact can_ask_bind (⟨none, false, ""⟩ : CredentialChoice) (can_pure ⟨rfl, none, rfl⟩)
  · have heq : provider = planned.provider.withCredential record (usableKey value) := heq
    rw [heq]
    refine can_ask_bind (⟨some record, true, ""⟩ : CredentialChoice) (can_ask.2 ⟨value, ?_⟩)
    exact can_pure ⟨rfl, some record.id, rfl⟩

lemma exists_credential (planned : ResolvedProvider) :
    ∃ provider, Credentialed planned { planned with provider } ∧ HasKey provider := by
  refine ⟨planned.provider.withCredential ⟨"", "", none, ""⟩ (usableKey (some "key")),
    ⟨rfl, rfl, .inr ⟨_, _, rfl⟩⟩, fun _ => ?_⟩
  have husable : (usableKey (some "key")).isSome = true := by decide
  exact husable

lemma can_checkProvider (hkey : HasKey target.provider) (h : History) :
    Can (fun r h' => effects h' = effects h ∧ r = .ok ()) (checkProvider target) h := by
  refine can_ask_bind (.ok () : Except AppError Unit) ?_
  by_cases hreq : target.provider.apiKeyRequired
  · obtain ⟨key, hsome⟩ := Option.isSome_iff_exists.1 (hkey hreq)
    simp only [hreq, ProviderConfig.requireApiKey, hsome]
    exact can_pure ⟨rfl, rfl⟩
  · simp only [hreq]
    exact can_pure ⟨rfl, rfl⟩

/-- **What is admissible can be admitted**, with the count of the tokens that is due. -/
lemma can_enforceContextAdmission {resolved : ResolvedProvider}
    (hadm : Admissible (tokens resolved.providerId resolved.model) request resolved.provider)
    (h : History) (hby : CountsBy tokens (effects h)) :
    Can (fun r h' => r = .ok () ∧ CountsBy tokens (effects h'))
      (enforceContextAdmission request resolved) h := by
  simp only [enforceContextAdmission, hadm.output]
  rcases hctx : resolved.provider.tokenCounting.contextTokens with _ | contextTokens
  · exact can_pure ⟨rfl, hby⟩
  by_cases hclient : request.isAnthropicClient
  · obtain ⟨hmode, hok⟩ := hadm.context contextTokens hctx hclient
    simp only [hclient, hmode]
    obtain ⟨provider, hcred, hkey⟩ := exists_credential resolved
    refine .bind ((can_credential hcred h).mono ?_)
    rintro _ h1 ⟨heff1, id, rfl⟩
    refine .bind (.mono (can_checkProvider hkey h1) ?_)
    rintro _ h2 ⟨heff2, rfl⟩
    refine can_ask_bind (.ok (tokens resolved.providerId resolved.model) : Except AppError ℕ)
      (can_pure ⟨hok, fun url target n hmem => ?_⟩)
    have hmem : Effect.counted url target (.ok n) ∈ Effect.counted (countTokensUrl provider)
        { resolved with provider } (.ok (tokens resolved.providerId resolved.model))
          :: effects h2 := hmem
    rw [heff2, heff1] at hmem
    rcases mem_cons.1 hmem with heq | hmem
    · cases heq
      rfl
    · exact hby url target n hmem
  · simp only [hclient]
    exact can_pure ⟨rfl, hby⟩

variable (urlHost : String → Option String) {a : ResolvedProvider} {h : History}

lemma can_acquireLocalLease (p : Prepared) (later : List QueuedAttempt) (target : ResolvedProvider)
    (h : History) : Can (fun r h' => effects h' = effects h ∧ r = .ok .acquired)
      (acquireLocalLease urlHost p later target) h := by
  unfold acquireLocalLease
  by_cases hlocal : ProviderBoundary.forResolved urlHost target = .localNet
  · rw [if_pos hlocal]
    exact can_ask.2 ⟨(.ok .acquired : Except AppError LocalAdmission), can_ret.2 ⟨rfl, rfl⟩⟩
  · rw [if_neg hlocal]
    exact can_pure ⟨rfl, rfl⟩

/-- Every attempt can be skipped: its quota may be used up. -/
lemma can_skip (p : Prepared) (request : LedgerRequest) (later : List QueuedAttempt)
    (target : ResolvedProvider) (h : History) :
    Can (fun gate h' => effects h' = effects h ∧ gate = .skip (some .auth))
      (admitAttempt urlHost p request later target) h := by
  refine can_ask_bind ("" : Op.Reply .newAttemptId)
    (.bind ((can_acquireLocalLease urlHost p later target _).mono ?_))
  rintro _ h1 ⟨heff1, rfl⟩
  refine .bind (.mono (can_credential (⟨rfl, rfl, .inl rfl⟩ :
    Credentialed target { target with provider := target.provider }) h1) ?_)
  rintro _ h2 ⟨heff2, id, rfl⟩
  exact can_ask_bind (.error .auth : Except AppError UsagePolicySnapshot)
    (can_pure ⟨heff2.trans heff1, rfl⟩)

/-- **What is sendable can pass the gates.** -/
lemma can_pass {p : Prepared} (request : LedgerRequest) (later : List QueuedAttempt)
    (hsend : Sendable p.request target) (h : History) :
    Can (fun gate _ => ∃ provider sent, gate = .pass provider sent)
      (admitAttempt urlHost p request later target) h := by
  obtain ⟨sent, hcred, hkey, hvalid⟩ := hsend
  rcases sent with ⟨providerId, provider, model⟩
  obtain rfl := hcred.providerId
  obtain rfl := hcred.model
  refine can_ask_bind ("" : Op.Reply .newAttemptId)
    (.bind ((can_acquireLocalLease urlHost p later target _).mono ?_))
  rintro _ h1 ⟨-, rfl⟩
  refine .bind ((can_credential hcred h1).mono ?_)
  rintro _ h2 ⟨-, id, rfl⟩
  refine can_ask_bind (.ok {} : Except AppError UsagePolicySnapshot) (.bind
    (.mono (can_checkProvider hkey _) ?_))
  rintro _ h3 ⟨-, rfl⟩
  simp only [hvalid]
  refine can_ask_bind (.ok () : Except AppError Unit) (can_ask_bind
    (.ok ⟨"", "", "", p.tenant, ""⟩ : Except AppError LedgerAttempt) (can_pure ?_))
  exact ⟨provider, _, rfl⟩

/-- Answers in which tokens are counted by `tokens`. -/
def answerBy (tokens : String → String → ℕ) : (op : Op) → op.Reply
  | .countTokens _ target =>
    (.ok (tokens target.providerId target.model) : Except AppError ℕ)
  | op => op.someReply

lemma countsBy_append {new : History} (hnew : ∀ e ∈ new, e = ⟨e.op, answerBy tokens e.op⟩)
    (hby : CountsBy tokens (effects h)) : CountsBy tokens (effects (new ++ h)) := by
  intro url target n hmem
  rcases mem_append.1 (counted_mem_effects hmem) with hmem | hmem
  · have heq := hnew _ hmem
    cases heq
    rfl
  · exact hby url target n (mem_filterMap.2 ⟨_, hmem, rfl⟩)

/-- The planned attempt `a` was sent, and tokens were counted by `tokens`. -/
def WasSent (tokens : String → String → ℕ) (a : ResolvedProvider) (es : List Effect) : Prop :=
  CountsBy tokens es ∧ ∃ url target id repair reply,
    Effect.sent url target id repair reply ∈ es ∧ Credentialed a target

/-- Once the attempt was sent, every program can go on in this way. -/
lemma WasSent.can {α : Type} (hsent : WasSent tokens a (effects h)) (x : Handler α) :
    Can (fun _ h' => WasSent tokens a (effects h')) x h := by
  refine (can_answer (answerBy tokens) x h).mono ?_
  rintro _ _ ⟨new, rfl, hnew⟩
  obtain ⟨hby, url, target, id, repair, reply, hmem, hcred⟩ := hsent
  refine ⟨countsBy_append hnew hby, url, target, id, repair, reply, ?_, hcred⟩
  unfold effects
  rw [filterMap_append]
  exact mem_append_right _ hmem

/-- **Every sendable attempt in the queue can be sent**: those before it are skipped. -/
lemma can_send (request : LedgerRequest) {q : QueuedAttempt}
    (hsendable : Sendable p.request q.target) (post : List QueuedAttempt) :
    ∀ (pre : List QueuedAttempt) (s : LoopState) (h : History), s.attempts = pre ++ q :: post →
      CountsBy tokens (effects h) →
      Can (fun _ h' => WasSent tokens q.target (effects h')) (attemptLoop urlHost p request s)
        h := by
  intro pre
  induction pre with
  | nil =>
    intro s h hs hby
    refine .bind ?_
    simp only [attemptRound, hs]
    refine .bind (((admitAttempt_spec urlHost p request post q.target h).and_can
      (can_pass urlHost request post hsendable h)).mono ?_)
    rintro _ h1 ⟨⟨hgate, -⟩, provider, sent, rfl⟩
    obtain ⟨claim, hadmitted, heff⟩ := hgate
    have hby1 : CountsBy tokens (effects h1) := by
      rw [heff]
      exact hby.cons fun _ _ _ => by rintro ⟨⟩
    refine .bind (((sendAttempt_spec p.request.isStream q.target provider q.repair sent
      h1).and_can (can_answer (answerBy tokens) _ h1)).mono ?_)
    rintro result _ ⟨⟨hsend, -⟩, new, rfl, hnew⟩
    have hsent : WasSent tokens q.target (effects (new ++ h1)) := by
      refine ⟨countsBy_append hnew hby1, inferenceUrl provider, { q.target with provider },
        sent.attemptId, q.repair, result, ?_, hadmitted.credentialed⟩
      exact hsend.sent_mem
    exact can_pure (hsent.can _)
  | cons first pre ih =>
    intro s h hs hby
    rw [attemptLoop_eq]
    refine .bind ?_
    simp only [attemptRound, hs]
    refine .bind ((can_skip urlHost p request _ first.target h).mono ?_)
    rintro _ h1 ⟨heff, rfl⟩
    rw [← heff] at hby
    exact can_pure (ih _ h1 rfl hby)

lemma can_streamPermit (p : Prepared) (h : History) :
    Can (fun permit h' => effects h' = effects h ∧ permit = true) (streamPermit p) h := by
  unfold streamPermit
  split
  · exact can_ask.2 ⟨true, can_ret.2 ⟨rfl, rfl⟩⟩
  · exact can_pure ⟨rfl, rfl⟩

/-- **Every sendable attempt of the plan can be sent**, once the first attempt is admissible. -/
lemma can_serve {ext : Externals} {snapshot : Snapshot} {headers : Headers}
    (hp : prepare ext snapshot headers request = .ok p)
    (hadm : Admissible (tokens p.resolved.providerId p.resolved.model) p.request
      p.resolved.provider) (ha : a ∈ p.authorized) (hsendable : Sendable p.request a) :
    Can (fun _ h' => WasSent tokens a (effects h')) (serve ext snapshot headers request) [] := by
  refine Can.bind ?_
  simp only [handleInference, hp]
  refine can_ask_bind (.ok () : Except AppError Unit) (Can.bind
    ((can_enforceContextAdmission hadm _ (fun _ _ _ hmem => by cases hmem)).mono ?_))
  rintro _ h1 ⟨rfl, hby⟩
  refine Can.bind ((can_streamPermit p h1).mono ?_)
  rintro _ h2 ⟨heff2, rfl⟩
  refine can_ask_bind (.ok ⟨"", p.tenant, ""⟩ : Except AppError LedgerRequest) (Can.bind ?_)
  obtain ⟨pre, post, hsplit⟩ := append_of_mem ha
  have hqueue : (LoopState.initial p).attempts =
      pre.map (fun a => ⟨a, false, 0⟩) ++ ⟨a, false, 0⟩ :: post.map fun a => ⟨a, false, 0⟩ := by
    simp [LoopState.initial, hsplit]
  rw [← heff2] at hby
  have hbegun : CountsBy tokens (.requestBegun p.claim ⟨"", p.tenant, ""⟩ :: effects h2) :=
    hby.cons fun _ _ _ => by rintro ⟨⟩
  refine Can.mono (can_send ext.urlHost _ hsendable _ _ _ _ hqueue hbegun) fun s h3 hsent => ?_
  exact Can.mono (hsent.can _) fun exit h4 hsent => hsent.can _

/-! ### The limits of every attempt -/

/-- **Every attempt that is sent is within its provider's limits**, in every run in which tokens
are counted by `tokens`, if and only if this holds for every attempt of the plan that can be sent,
as soon as the first attempt passes the checks. -/
theorem sent_withinLimits_iff (ext : Externals) (snapshot : Snapshot) (headers : Headers)
    (request : ClientRequest) (tokens : String → String → ℕ) :
    (∀ world, CountsBy tokens (effects ((serve ext snapshot headers request).run world []).2) →
      ∀ url target id repair reply, Effect.sent url target id repair reply ∈
        effects ((serve ext snapshot headers request).run world []).2 →
      WithinLimits request target.provider (tokens target.providerId target.model)) ↔
    ∀ p, prepare ext snapshot headers request = .ok p →
      Admissible (tokens p.resolved.providerId p.resolved.model) request p.resolved.provider →
      ∀ a ∈ p.authorized, Sendable request a →
        WithinLimits request a.provider (tokens a.providerId a.model) := by
  constructor
  · intro hall p hp hadm a ha hsendable
    have hrequest : p.request = request := (prepare_ok hp).requested
    rw [← hrequest] at hadm hsendable
    have hens : Ensures (fun _ h' => CountsBy tokens (effects h') →
        ∀ url target id repair reply, .sent url target id repair reply ∈ effects h' →
        WithinLimits request target.provider (tokens target.providerId target.model))
        (serve ext snapshot headers request) [] := ensures_iff_run.2 hall
    obtain ⟨_, _, hlim, hby, url, target, id, repair, reply, hmem, hcred⟩ :=
      (hens.and_can (can_serve hp hadm ha hsendable)).exists
    have hwith := hlim hby url target id repair reply hmem
    rw [withinLimits_credentialed hcred, hcred.providerId, hcred.model] at hwith
    exact hwith
  · intro hplan world hby url target id repair reply hmem
    obtain ⟨p, hp, -, a, ha, hcred, hkey, hvalid⟩ :=
      ((serve_planned ext snapshot headers request).run world).2 url target id repair reply hmem
    obtain ⟨p', hp', hadm⟩ :=
      (admissible_of_sent ext snapshot headers request).run world hby url target id repair reply
        hmem
    obtain rfl : p = p' := Except.ok.inj (hp.symm.trans hp')
    rw [(prepare_ok hp).requested] at hvalid hadm
    rw [withinLimits_credentialed hcred, hcred.providerId, hcred.model]
    exact hplan p hp hadm a ha ⟨target, hcred, hkey, hvalid⟩

/-- The target of an inference request. -/
def Effect.sentTo : Effect → Option ResolvedProvider
  | .sent _ target _ _ _ => some target
  | _ => none

/-- The token-counting requests among effects. -/
def Effect.isCounted : Effect → Bool
  | .counted _ _ _ => true
  | _ => false

/-- A provider that answers at most 100 tokens. -/
def smallProvider : ProviderConfig :=
  { Sample.provider "https://small.example" with tokenCounting := { maxOutputTokens := some 100 } }

/-- The effects of a request whose first provider cannot be reached and has no limits; the second
is the small provider. -/
def fallbackEffects : List Effect :=
  Sample.effectsOf [Sample.main, ⟨"small", smallProvider, "model"⟩] Sample.clientRequest
    fun target =>
      if target.providerId = "main" then .error (.transport "connection refused")
      else .ok ⟨200, none⟩

/-- **A fallback beyond its limits**: the request for 4096 tokens is sent to a provider whose limit
is 100. -/
theorem fallback_beyond_limits :
    CountsBy (fun _ _ => 10) fallbackEffects ∧ ∃ url target id repair reply,
      Effect.sent url target id repair reply ∈ fallbackEffects ∧
        ¬ WithinLimits Sample.clientRequest target.provider 10 := by
  have hnone : fallbackEffects.any Effect.isCounted = false := by decide +kernel
  have hsmall : ∃ target ∈ fallbackEffects.filterMap Effect.sentTo,
      outputLimit "model" target.provider.tokenCounting = some 100 := by decide +kernel
  refine ⟨fun url target n hmem => ?_, ?_⟩
  · have hcount := any_eq_false.1 hnone _ hmem
    exact absurd rfl hcount
  · obtain ⟨target, hsent, hlimit⟩ := hsmall
    obtain ⟨e, he, hto⟩ := mem_filterMap.1 hsent
    cases e with
    | sent url target' id repair reply =>
      cases hto
      refine ⟨url, target, id, repair, reply, he, fun hwith => ?_⟩
      have hle : 4096 ≤ 100 := hwith.output 100 hlimit
      omega
    | _ => cases hto

end ModelPort.Gateway
