import ModelPort.Stream.OpenAiClientStream

/-!
# Token counts through normalisation

A usage object of an OpenAI response is parsed (`openaiUsage`) and rendered again
(`openaiUsageValue`). Tokens written to the cache are a part of the prompt, and are added to it
once more.

* `usage_survives_iff`: which consistent usage objects come back with the counts they had.
-/

namespace ModelPort.Stream

open Gateway

/-- The counts of a usage object, under the names that providers give them. -/
structure UsageCounts where
  prompt : ℕ
  completion : ℕ
  total : ℕ
  cached : Option ℕ
  cacheWrite : ℕ
  cacheHit : Option ℕ
  cacheMiss : Option ℕ

namespace UsageCounts

def ofJson (usage : Json) : UsageCounts where
  prompt := getU64 usage ["prompt_tokens", "input_tokens"]
  completion := getU64 usage ["completion_tokens", "output_tokens"]
  total := getU64 usage ["total_tokens"]
  cached := [["prompt_tokens_details", "cached_tokens"],
    ["input_tokens_details", "cached_tokens"]].findSome? fun path =>
      (path.foldl (fun current segment => (current.get segment).getD .null) usage).asUnsigned
  cacheWrite := max (getU64 usage ["cache_creation_input_tokens", "prompt_cache_write_tokens"])
    (getNestedU64 usage [["prompt_tokens_details", "cache_write_tokens"],
      ["input_tokens_details", "cache_write_tokens"]])
  cacheHit := (usage.get "prompt_cache_hit_tokens").bind Json.asUnsigned
  cacheMiss := (usage.get "prompt_cache_miss_tokens").bind Json.asUnsigned

variable (c : UsageCounts)

/-- The tokens read from the cache: those of the details or, without them, the hits. -/
def cacheRead : ℕ := c.cached.getD (c.cacheHit.getD 0)

/-- The parts of the prompt fit into it, and the sums are right. -/
structure Consistent : Prop where
  parts : c.cached.getD 0 + c.cacheWrite ≤ c.prompt
  hits : c.cacheHit.getD 0 + c.cacheWrite ≤ c.prompt
  split : ∀ hit ∈ c.cacheHit, ∀ miss ∈ c.cacheMiss, hit + miss = c.prompt
  total_eq : c.total = c.prompt + c.completion

/-- The usage has the counts: it is rendered with them, and no token of the prompt is counted or
priced twice. -/
structure SurvivesIn (u : TokenUsageBreakdown) : Prop where
  rendered : openaiUsageValue u = .obj [("prompt_tokens", .int c.prompt),
    ("completion_tokens", .int c.completion), ("total_tokens", .int c.total),
    ("prompt_tokens_details", .obj [("cached_tokens", .int c.cacheRead)])]
  counted : u.inputTokens + u.cacheWriteTokens + u.cacheReadTokens = c.prompt
  priced : ∀ rate output, costWithPricing u ⟨rate, output, rate, rate⟩ =
    costComponent c.prompt rate + costComponent c.completion output

end UsageCounts

lemma openaiUsage_eq {response usage : Json} (husage : response.get "usage" = some usage) :
    let c := UsageCounts.ofJson usage
    let read := max (c.cacheHit.getD 0) (c.cached.getD 0)
    openaiUsage response = {
      inputTokens := if 0 < c.cacheMiss.getD 0 then c.cacheMiss.getD 0 else c.prompt - read
      outputTokens := c.completion
      cacheWriteTokens := c.cacheWrite
      cacheReadTokens := read } := by
  simp [openaiUsage, husage, UsageCounts.ofJson, getU64, getNestedU64]

lemma getU64_lt (usage : Json) (fields : List String) : getU64 usage fields < 2 ^ 64 := by
  unfold getU64
  cases hfound : fields.findSome? fun field => (usage.get field).bind Json.asUnsigned with
  | none => simp
  | some n =>
    obtain ⟨field, -, hfield⟩ := List.exists_of_findSome?_eq_some hfound
    obtain ⟨json, -, hjson⟩ := Option.bind_eq_some_iff.1 hfield
    exact Json.asUnsigned_lt hjson

/-- What survives is the sum of the parts of the prompt, and the cached part. -/
lemma UsageCounts.survivesIn_iff {c : UsageCounts} {u : TokenUsageBreakdown}
    (houtp : u.outputTokens = c.completion) (htotal : c.total = c.prompt + c.completion)
    (hlt : c.total < 2 ^ 64) : c.SurvivesIn u ↔
      u.inputTokens + u.cacheWriteTokens + u.cacheReadTokens = c.prompt ∧
        u.cacheReadTokens = c.cacheRead := by
  constructor
  · rintro ⟨hrendered, hcount, -⟩
    exact ⟨hcount, by simp_all [openaiUsageValue]⟩
  · rintro ⟨hcount, hcached⟩
    refine ⟨?_, hcount, fun rate output => ?_⟩
    · have hprompt : saturatingAdd (saturatingAdd u.inputTokens u.cacheWriteTokens)
          u.cacheReadTokens = c.prompt := by
        simp only [saturatingAdd, u64Max]
        omega
      have hsum : saturatingAdd c.prompt c.completion = c.total := by
        simp only [saturatingAdd, u64Max]
        omega
      simp only [openaiUsageValue, hprompt, houtp, hsum]
      rw [hcached]
    · simp only [costWithPricing, costComponent, ← hcount, houtp]
      push_cast
      ring

/-- **A consistent usage survives normalisation** exactly when the cached tokens are not reported
as fewer than the hits, and nothing was written to the cache or, if misses are reported, they
leave room for what was. -/
theorem usage_survives_iff {response usage : Json} (husage : response.get "usage" = some usage)
    (hc : (UsageCounts.ofJson usage).Consistent) :
    let c := UsageCounts.ofJson usage
    let miss := c.cacheMiss.getD 0
    c.SurvivesIn (openaiUsage response) ↔ c.cacheHit.getD 0 ≤ c.cacheRead ∧
      (0 < miss → miss + c.cacheWrite + max (c.cacheHit.getD 0) (c.cached.getD 0) = c.prompt) ∧
      (miss = 0 → c.cacheWrite = 0) := by
  intro c miss
  have hparts : c.cached.getD 0 + c.cacheWrite ≤ c.prompt := hc.parts
  have hhits : c.cacheHit.getD 0 + c.cacheWrite ≤ c.prompt := hc.hits
  have hread : max (c.cacheHit.getD 0) (c.cached.getD 0) = c.cacheRead ↔
      c.cacheHit.getD 0 ≤ c.cacheRead := by
    unfold UsageCounts.cacheRead
    cases c.cached <;> simp
  rw [openaiUsage_eq husage, UsageCounts.survivesIn_iff rfl hc.total_eq (getU64_lt usage _), hread]
  show (if 0 < miss then miss else c.prompt - max (c.cacheHit.getD 0) (c.cached.getD 0))
    + c.cacheWrite + max (c.cacheHit.getD 0) (c.cached.getD 0) = c.prompt ∧ _ ↔ _
  split <;> omega

/-- The written tokens are counted twice. -/
theorem written_counted_twice :
    let usage := Json.obj [("prompt_tokens", .int 10), ("completion_tokens", .int 1),
      ("total_tokens", .int 11),
      ("prompt_tokens_details", .obj [("cached_tokens", .int 2), ("cache_write_tokens", .int 3)])]
    let c := UsageCounts.ofJson usage
    c.Consistent ∧ ¬ c.SurvivesIn (openaiUsage (.obj [("usage", usage)])) := by
  intro usage c
  have hc : c.Consistent := ⟨by decide, by decide, by decide, by decide⟩
  exact ⟨hc, fun h => absurd h.counted (by decide)⟩

theorem usage_survives_sample :
    let usage := Json.obj [("prompt_tokens", .int 10), ("completion_tokens", .int 1),
      ("total_tokens", .int 11), ("prompt_tokens_details", .obj [("cached_tokens", .int 2)])]
    (UsageCounts.ofJson usage).SurvivesIn (openaiUsage (.obj [("usage", usage)])) :=
  (usage_survives_iff rfl ⟨by decide, by decide, by decide, by decide⟩).2 (by decide)

end ModelPort.Stream
