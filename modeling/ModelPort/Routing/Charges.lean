import ModelPort.Routing.Selection

/-!
# What the router takes an attempt to cost

The router scores a candidate by an expected cost, and the attempt loop reserves one. The router
reads the provider-wide prices and then the built-in table; the attempt loop reads the price card
of the model before them. The two agree where the card, if there is one, has the rates that the
router applies.

* `router_ranks_by_charge_iff`: when the router ranks by what an attempt is charged.
* `price_card_ignored`: a candidate with a cheap price card that the router takes for a dear one.
-/

namespace ModelPort.Routing

open List

open Gateway (RoutingProfile appliedPricing estimateUsage pricingForModel costWithPricing
  costComponent)

variable {env : RouterEnv} {request : RoutingRequest} {profile : RoutingProfile}
  {candidates : List ScoredCandidate} {target : ResolvedProvider} {c d : ScoredCandidate}
  {values : List ℚ} {x y : ℚ}

/-- What the attempt loop reserves for an attempt. -/
def reservedCost (request : RoutingRequest) (target : ResolvedProvider) : ℚ :=
  (estimateUsage request.exchange (appliedPricing target)).costEstimate

/-- The prices the router applies. -/
def routerPricing (target : ResolvedProvider) : ModelPricing :=
  target.provider.pricing.getD (pricingForModel target.model)

/-- The card of the model, if there is one, has the rates that the router applies. -/
def CardAgrees (target : ResolvedProvider) : Prop :=
  ∀ card, target.provider.modelPricingCard target.model = some card →
    card.rates.inputPerMillion = (routerPricing target).inputPerMillion ∧
      card.rates.outputPerMillion = (routerPricing target).outputPerMillion

/-- Two candidates with the same signals, apart from their cost. -/
structure SameSignals (env : RouterEnv) (request : RoutingRequest) (c d : ScoredCandidate) :
    Prop where
  quality : c.quality = d.quality
  reliability : (rawScore request c).reliability = (rawScore request d).reliability
  latency : (rawScore request c).latency = (rawScore request d).latency
  affinity : sessionAffinity env request.sessionHash c.resolved
    = sessionAffinity env request.sessionHash d.resolved

/-- **The router ranks by the charge**: it takes every candidate to cost what an attempt reserves,
and of two candidates with the same signals the one that is charged less scores no less. -/
structure RanksByCharge (env : RouterEnv) (request : RoutingRequest) (profile : RoutingProfile)
    (candidates : List ScoredCandidate) : Prop where
  cost : ∀ c ∈ candidates, (rawScore request c).cost = reservedCost request c.resolved
  score : ∀ c ∈ scoreCandidates env request profile candidates,
    ∀ d ∈ scoreCandidates env request profile candidates, SameSignals env request c d →
      reservedCost request c.resolved ≤ reservedCost request d.resolved → d.score ≤ c.score

/-! ### Scores -/

lemma leastOf_spec (hx : x ∈ values) :
    leastOf x values ∈ values ∧ ∀ y ∈ values, leastOf x values ≤ y := by
  have hmin : (x :: values).min? = some (leastOf x values) := List.min?_cons'
  obtain ⟨hmem, hle⟩ := List.min?_eq_some_iff.1 hmin
  refine ⟨?_, fun y hy => hle y (mem_cons_of_mem x hy)⟩
  rcases mem_cons.1 hmem with heq | hmem
  · rwa [heq]
  · exact hmem

lemma leastOf_eq (hx : x ∈ values) (hy : y ∈ values) : leastOf x values = leastOf y values :=
  le_antisymm ((leastOf_spec hx).2 _ (leastOf_spec hy).1)
    ((leastOf_spec hy).2 _ (leastOf_spec hx).1)

lemma le_greatestOf (hx : x ∈ values) : x ≤ greatestOf values := by
  have hmax : (0 :: values).max? = some (greatestOf values) := List.max?_cons'
  exact (List.max?_eq_some_iff.1 hmax).2 x (mem_cons_of_mem 0 hx)

lemma inverseNormalized_antitone {least greatest : ℚ} (hle : least ≤ greatest) (h : x ≤ y) :
    inverseNormalized y least greatest ≤ inverseNormalized x least greatest := by
  unfold inverseNormalized
  split
  · exact le_rfl
  · gcongr

/-- **Of two candidates with the same signals the cheaper one scores no less.** -/
lemma score_le_of_cost_le (hc : c ∈ scoreCandidates env request profile candidates)
    (hd : d ∈ scoreCandidates env request profile candidates) (hsame : SameSignals env request c d)
    (hcost : (rawScore request c).cost ≤ (rawScore request d).cost) : d.score ≤ c.score := by
  obtain ⟨c', hc', rfl⟩ := mem_map.1 hc
  obtain ⟨d', hd', rfl⟩ := mem_map.1 hd
  have hmem : ∀ e ∈ candidates, (rawScore request e).cost
      ∈ (candidates.map (rawScore request)).map (·.cost) := fun e he =>
    mem_map_of_mem (mem_map_of_mem he)
  have hleast := (leastOf_spec (hmem c' hc')).2 _ (hmem c' hc')
  have hweight : 0 ≤ (profileWeights profile).cost := by
    cases profile <;> norm_num [profileWeights]
  have hsame : SameSignals env request c' d' := ⟨hsame.1, hsame.2, hsame.3, hsame.4⟩
  have hquality : (rawScore request c').quality = (rawScore request d').quality := hsame.quality
  dsimp only
  rw [← leastOf_eq (hmem c' hc') (hmem d' hd'), hquality, hsame.reliability, hsame.latency,
    hsame.affinity]
  gcongr
  exact inverseNormalized_antitone (hleast.trans (le_greatestOf (hmem c' hc'))) hcost

lemma cost_eq_of_cardAgrees (h : CardAgrees c.resolved) :
    (rawScore request c).cost = reservedCost request c.resolved := by
  change costWithPricing _ (routerPricing c.resolved) =
    costWithPricing _ (appliedPricing c.resolved)
  rw [appliedPricing, ProviderConfig.effectivePricing]
  cases hcard : c.resolved.provider.modelPricingCard c.resolved.model with
  | none => rfl
  | some card =>
    obtain ⟨hinput, houtp⟩ := h card hcard
    simp [costWithPricing, costComponent, inputTokenEstimate, hinput, houtp]

/-- A request with a body of this size that asks for so many tokens. -/
def sized (chars tokens : ℕ) : RoutingRequest :=
  { twoProviderRequest "fast" [] with
    exchange := { Gateway.Sample.clientRequest with
      serializedInputChars := chars, maxTokens := some tokens } }

/-- **The router ranks by the charge** iff no price card differs from the prices it applies. -/
theorem router_ranks_by_charge_iff (targets : Set ResolvedProvider) :
    (∀ env request profile candidates, (∀ c ∈ candidates, c.resolved ∈ targets) →
      RanksByCharge env request profile candidates) ↔ ∀ target ∈ targets, CardAgrees target := by
  constructor
  · intro h target htarg card hcard
    have hcost : ∀ chars tokens, (rawScore (sized chars tokens) ⟨target, 0, 0, 0, 0⟩).cost
        = reservedCost (sized chars tokens) target := fun chars tokens =>
      (h ⟨fun _ => 0⟩ _ .balanced [⟨target, 0, 0, 0, 0⟩] (by simpa)).cost _ mem_cons_self
    have happlied : appliedPricing target = card.rates := by
      rw [appliedPricing, ProviderConfig.effectivePricing, hcard]
      rfl
    -- a request of one input token and no output tokens, and the other way round
    have hinput : costWithPricing ⟨1, 0, 0, 0⟩ (routerPricing target)
        = costWithPricing ⟨1, 0, 0, 0⟩ (appliedPricing target) := hcost 4 0
    have houtp : costWithPricing ⟨0, 1, 0, 0⟩ (routerPricing target)
        = costWithPricing ⟨0, 1, 0, 0⟩ (appliedPricing target) := hcost 0 1
    rw [happlied] at hinput houtp
    simp only [costWithPricing, costComponent] at hinput houtp
    constructor <;> norm_num at hinput houtp <;> linarith
  · intro h env request profile candidates hmem
    have hcost : ∀ c ∈ candidates, (rawScore request c).cost = reservedCost request c.resolved :=
      fun c hc => cost_eq_of_cardAgrees (h _ (hmem c hc))
    refine ⟨hcost, fun c hc d hd hsame hle => score_le_of_cost_le hc hd hsame ?_⟩
    obtain ⟨c', hc', rfl⟩ := mem_map.1 hc
    obtain ⟨d', hd', rfl⟩ := mem_map.1 hd
    exact ((hcost c' hc').trans_le hle).trans_eq (hcost d' hd').symm

/-- **A candidate that is charged less and scored below**: its card makes it the cheaper one, and
the router reads the prices of its provider. -/
theorem price_card_ignored :
    let card : ModelPricingCard :=
      ⟨⟨1, 1, 1, 1⟩, "1", "2026-01-01", "USD", .providerPublished, .standard, none, ""⟩
    let carded : ResolvedProvider := ⟨"carded", { Gateway.Sample.provider "" with
      pricing := some ⟨9, 9, 9, 9⟩, modelPricing := AList.singleton "model" card }, "model"⟩
    let plain : ResolvedProvider := ⟨"plain", { Gateway.Sample.provider "" with
      pricing := some ⟨2, 2, 2, 2⟩ }, "model"⟩
    reservedCost (sized 40 10) carded < reservedCost (sized 40 10) plain ∧
      (scoreCandidates ⟨fun _ => 0⟩ (sized 40 10) .economy
        [⟨carded, 1, 100, 0, 0⟩, ⟨plain, 1, 100, 0, 1⟩]).map (·.score) = [1 / 4, 19 / 20] := by
  decide +kernel

end ModelPort.Routing
