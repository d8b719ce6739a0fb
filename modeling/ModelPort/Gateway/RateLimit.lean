import ModelPort.Gateway.Edge
import ModelPort.Lib.SlidingWindow

/-!
# The rate limiter

`RateLimiter` keeps one queue of times for each key. `checkRules` takes the rules of one call,
prunes and tests the queue of each rule's key in turn, and only when every test has passed pushes
the current time on all of them; at the end it prunes every queue and forgets the empty ones.

A rule whose limit is zero is neither tested nor recorded.

* `times_admit`: the queues after an admitted call.
* `rate_limit_sliding_window`: the limit over every window of a run.
* `retry_after_sufficient_iff`: when waiting as long as a refusal says is enough.
-/

namespace ModelPort.Gateway

open SlidingWindow List

/-! ### Configuration, state and rules -/

/-- The limits per window. -/
structure RateLimitConfig where
  enabled : Bool
  windowMs : ℕ
  globalPerMinute : ℕ
  apiKeyPerMinute : ℕ
  ipPerMinute : ℕ
  providerPerMinute : ℕ
  modelPerMinute : ℕ
  deriving DecidableEq

/-- The queues of times, by key. -/
structure RateLimitState where
  windows : String → Option (List ℕ)

variable (s : RateLimitState) (key : String)

namespace RateLimitState

/-- No key has been used yet. -/
def init : RateLimitState := ⟨fun _ => none⟩

/-- The recorded admissions of a key. -/
def times (s : RateLimitState) (key : String) : List ℕ := (s.windows key).getD []

/-- The state with another queue for a key. -/
def set (s : RateLimitState) (key : String) (queue : Option (List ℕ)) : RateLimitState :=
  ⟨fun k => if k = key then queue else s.windows k⟩

lemma times_set (queue : Option (List ℕ)) (k : String) :
    (s.set key queue).times k = if k = key then queue.getD [] else s.times k := by
  unfold times set
  by_cases h : k = key <;> simp [h]

end RateLimitState

/-- A rule of a call: its key, its limit, and the message of a refusal. -/
structure RateRule where
  key : String
  limit : ℕ
  message : String
  deriving DecidableEq

/-! ### One call -/

def pruneRateWindow (s : RateLimitState) (key : String) (windowStart : ℕ) : RateLimitState :=
  s.set key ((s.windows key).map (prune windowStart))

lemma times_pruneRateWindow (start : ℕ) (k : String) : (pruneRateWindow s key start).times k =
      if k = key then prune start (s.times k) else s.times k := by
  rw [pruneRateWindow, RateLimitState.times_set]
  by_cases h : k = key
  · subst h
    unfold RateLimitState.times
    cases s.windows k <;> simp [prune]
  · simp [h]

/-- `u64::div_ceil(1_000).max(1)`: a time in whole seconds, at least one. -/
def ceilSeconds (ms : ℕ) : ℕ := max ((ms + 999) / 1000) 1

/-- Seconds until the oldest recorded admission leaves the window. -/
def retryAfterSecs (config : RateLimitConfig) (now : ℕ) (queue : List ℕ) : ℕ :=
  match queue with
  | oldest :: _ => ceilSeconds (saturatingAdd oldest config.windowMs - now)
  | [] => 1

/-- The refusal of a rule. -/
def rateRefusal (config : RateLimitConfig) (now : ℕ) (rule : RateRule) (queue : List ℕ) :
    AppError :=
  .rateLimited
    (rule.message ++ "; limit=" ++ toString rule.limit ++ "/"
      ++ toString (ceilSeconds config.windowMs) ++ "s")
    (retryAfterSecs config now queue)

/-- The first loop of `check_rules`: prune and test the queue of each rule's key. -/
def scan (config : RateLimitConfig) (now : ℕ) :
    List RateRule → RateLimitState → Except AppError Unit × RateLimitState
  | [], s => (.ok (), s)
  | rule :: rules, s =>
    let s := pruneRateWindow s rule.key (now - config.windowMs)
    let queue := s.times rule.key
    if 0 < rule.limit ∧ rule.limit ≤ queue.length then
      (.error (rateRefusal config now rule queue), s)
    else scan config now rules s

/-- The second loop: push the current time for every rule with a limit. -/
def recordAdmission (now : ℕ) : List RateRule → RateLimitState → RateLimitState
  | [], s => s
  | rule :: rules, s =>
    if rule.limit = 0 then recordAdmission now rules s
    else recordAdmission now rules (s.set rule.key (some (s.times rule.key ++ [now])))

/-- `windows.retain`: prune every queue and forget the empty ones. -/
def retainWindows (windowStart : ℕ) (s : RateLimitState) : RateLimitState :=
  ⟨fun k => ((s.windows k).map (prune windowStart)).filter fun queue => !queue.isEmpty⟩

/-- `RateLimiter::check_rules` at the time `now`. -/
def checkRules (config : RateLimitConfig) (now : ℕ) (rules : List RateRule) (s : RateLimitState) :
    Except AppError Unit × RateLimitState :=
  match scan config now rules s with
  | (.error e, s) => (.error e, s)
  | (.ok _, s) => (.ok (), retainWindows (now - config.windowMs) (recordAdmission now rules s))

/-! ### The callers' rules -/

/-- Whom a check is for. -/
structure RateLimitScope where
  identity : ClientIdentity
  clientIp : Option String
  providerId : Option String
  model : Option String

/-- The rules of `RateLimiter::check`. -/
def RateLimitScope.rules (config : RateLimitConfig) (scope : RateLimitScope) : List RateRule :=
  [⟨"global:inference", config.globalPerMinute, "global request rate limit exceeded"⟩,
    ⟨"api-key:" ++ scope.identity.quotaSubjectId.getD "legacy-router-token",
      config.apiKeyPerMinute, "API key request rate limit exceeded"⟩]
    ++ (scope.clientIp.map fun ip =>
      ⟨"ip:" ++ ip, config.ipPerMinute, "client IP request rate limit exceeded"⟩).toList
    ++ (scope.providerId.map fun id =>
      ⟨"provider:" ++ id, config.providerPerMinute,
        "provider request rate limit exceeded"⟩).toList
    ++ (scope.model.map fun model =>
      ⟨"model:" ++ model, config.modelPerMinute, "model request rate limit exceeded"⟩).toList

/-- `RateLimiter::check`. -/
def rateCheck (config : RateLimitConfig) (now : ℕ) (scope : RateLimitScope) (s : RateLimitState) :
    Except AppError Unit × RateLimitState :=
  if config.enabled then checkRules config now (scope.rules config) s else (.ok (), s)

variable (config : RateLimitConfig) {rules : List RateRule} {now now' : ℕ}

/-- The keys of a call of `check` are distinct: they start with different letters. -/
lemma RateLimitScope.rules_nodup (scope : RateLimitScope) :
    ((scope.rules config).map RateRule.key).Nodup := by
  refine List.Nodup.of_map (fun key => key.toList.head?) ?_
  unfold RateLimitScope.rules
  cases scope.clientIp <;> cases scope.providerId <;> cases scope.model <;> simp

/-! ### What the tests of a call say -/

section

variable {config : RateLimitConfig} {now start : ℕ}

/-- Some queues of `s'` are those of `s` pruned, the others are as they were. -/
def PrunedFrom (start : ℕ) (s s' : RateLimitState) : Prop :=
  ∀ k, s'.times k = s.times k ∨ s'.times k = prune start (s.times k)

lemma PrunedFrom.prune_eq {later : ℕ} {s s' : RateLimitState} (h : PrunedFrom start s s')
    (hle : start ≤ later) (k : String) : prune later (s'.times k) = prune later (s.times k) := by
  rcases h k with h | h
  · rw [h]
  · rw [h, prune_prune hle]

lemma PrunedFrom.trans {s s' s'' : RateLimitState} (h : PrunedFrom start s s')
    (h' : PrunedFrom start s' s'') : PrunedFrom start s s'' := by
  intro k
  rcases h' k with hk | hk
  · rw [hk]
    exact h k
  · rw [hk, h.prune_eq le_rfl]
    exact .inr rfl

lemma prunedFrom_pruneRateWindow (start : ℕ) :
    PrunedFrom start s (pruneRateWindow s key start) := by
  intro k
  rw [times_pruneRateWindow]
  by_cases h : k = key <;> simp [h]

/-- The tests of a call only prune. -/
lemma scan_pruned (rules : List RateRule) (s : RateLimitState) :
    PrunedFrom (now - config.windowMs) s (scan config now rules s).2 := by
  induction rules generalizing s with
  | nil => exact fun _ => .inl rfl
  | cons rule rules ih =>
    have hfirst := prunedFrom_pruneRateWindow s rule.key (now - config.windowMs)
    simp only [scan]
    split
    · exact hfirst
    · exact hfirst.trans (ih _)

/-- The window of the rule's key is full. -/
def full (config : RateLimitConfig) (now : ℕ) (s : RateLimitState) (rule : RateRule) : Bool :=
  0 < rule.limit ∧ rule.limit ≤ (prune (now - config.windowMs) (s.times rule.key)).length

lemma full_iff {s : RateLimitState} {rule : RateRule} : full config now s rule ↔
    0 < rule.limit ∧ rule.limit ≤ (prune (now - config.windowMs) (s.times rule.key)).length :=
  decide_eq_true_iff

/-- A call is refused by the first of its rules whose window is full. -/
lemma scan_result (rules : List RateRule) (s : RateLimitState) : (scan config now rules s).1 =
    match rules.find? (full config now s) with
    | none => .ok ()
    | some rule => .error (rateRefusal config now rule
        (prune (now - config.windowMs) (s.times rule.key))) := by
  induction rules generalizing s with
  | nil => rfl
  | cons rule rules ih =>
    have hfirst := prunedFrom_pruneRateWindow s rule.key (now - config.windowMs)
    have hfull : full config now (pruneRateWindow s rule.key (now - config.windowMs)) =
        full config now s := by
      funext rule'
      rw [full, full, hfirst.prune_eq le_rfl]
    rw [scan, List.find?_cons]
    simp only [times_pruneRateWindow, if_true]
    by_cases h : full config now s rule
    · rw [if_pos (full_iff.1 h), h]
    · rw [if_neg fun h' => h (full_iff.2 h'), ih, hfull, Bool.eq_false_iff.2 h]
      simp only [hfirst.prune_eq le_rfl]

lemma checkRules_fst (rules : List RateRule) (s : RateLimitState) :
    (checkRules config now rules s).1 = (scan config now rules s).1 := by
  unfold checkRules
  rcases scan config now rules s with ⟨_ | _, _⟩ <;> rfl

lemma checkRules_passed {s : RateLimitState}
    (h : (checkRules config now rules s).1 = .ok ()) {rule : RateRule} (hrule : rule ∈ rules)
    (hpos : 0 < rule.limit) :
    (prune (now - config.windowMs) (s.times rule.key)).length < rule.limit := by
  rw [checkRules_fst, scan_result] at h
  split at h
  · rename_i hnone
    have hroom := List.find?_eq_none.1 hnone rule hrule
    rw [full_iff] at hroom
    omega
  · cases h

end

/-! ### What an admission records -/

/-- A rule with a limit for this key. -/
def records (k : String) (rules : List RateRule) : Bool :=
  rules.any fun rule => rule.key = k ∧ 0 < rule.limit

lemma times_recordAdmission
    (hkeys : (rules.map RateRule.key).Nodup) (s : RateLimitState) (k : String) :
    (recordAdmission now rules s).times k = s.times k ++ if records k rules then [now] else [] := by
  induction rules generalizing s with
  | nil => simp [recordAdmission, records]
  | cons rule rules ih =>
    obtain ⟨hnotin, hrest⟩ := nodup_cons.1 hkeys
    have hrec : records k (rule :: rules) =
        (decide (rule.key = k ∧ 0 < rule.limit) || records k rules) := rfl
    have hother : rule.key = k → records k rules = false := by
      rintro rfl
      simp only [records, any_eq_false]
      intro r hr
      have : r.key ≠ rule.key := fun h => hnotin (h ▸ mem_map_of_mem hr)
      simp [this]
    rw [recordAdmission, hrec]
    by_cases hzero : rule.limit = 0
    · rw [if_pos hzero, ih hrest]
      simp [hzero]
    · rw [if_neg hzero, ih hrest, RateLimitState.times_set]
      by_cases hk : k = rule.key
      · subst hk
        simp [hother rfl, Nat.pos_of_ne_zero hzero]
      · simp [hk, Ne.symm hk]

lemma times_retainWindows (start : ℕ) (s : RateLimitState) (k : String) :
    (retainWindows start s).times k = prune start (s.times k) := by
  simp only [retainWindows, RateLimitState.times]
  cases s.windows k with
  | none => rfl
  | some queue =>
    by_cases h : prune start queue = [] <;> simp [Option.filter, h]

lemma checkRules_refused {config : RateLimitConfig}
    {s : RateLimitState} {e : AppError} (h : (checkRules config now rules s).1 = .error e) :
    PrunedFrom (now - config.windowMs) s (checkRules config now rules s).2 := by
  have hscan : PrunedFrom (now - config.windowMs) s (scan config now rules s).2 :=
    scan_pruned rules s
  unfold checkRules at h ⊢
  rcases hs : scan config now rules s with ⟨_ | _, s'⟩
  · rwa [hs] at hscan
  · simp [hs] at h

lemma checkRules_admitted {config : RateLimitConfig}
    {s : RateLimitState} (hkeys : (rules.map RateRule.key).Nodup)
    (h : (checkRules config now rules s).1 = .ok ()) (k : String) :
    (checkRules config now rules s).2.times k =
      prune (now - config.windowMs) (s.times k) ++ if records k rules then [now] else [] := by
  have hscan : PrunedFrom (now - config.windowMs) s (scan config now rules s).2 :=
    scan_pruned rules s
  unfold checkRules at h ⊢
  rcases hs : scan config now rules s with ⟨_ | _, s'⟩
  · simp [hs] at h
  · rw [hs] at hscan
    simp only [times_retainWindows, times_recordAdmission hkeys]
    split
    · rw [prune_append (Nat.sub_le _ _), hscan.prune_eq le_rfl]
    · rw [append_nil, append_nil, hscan.prune_eq le_rfl]

/-! ### Runs -/

/-- A call of `check_rules`. -/
structure RateCall where
  now : ℕ
  rules : List RateRule
  deriving DecidableEq

/-- The rules have a limit of at most `limit`, and not zero, for this key. -/
def RateCall.uses (call : RateCall) (key : String) (limit : ℕ) : Bool :=
  call.rules.any fun rule => rule.key = key ∧ 0 < rule.limit ∧ rule.limit ≤ limit

/-- A call and its outcome. -/
structure RateDecision where
  call : RateCall
  result : Except AppError Unit

/-- The call was let through. -/
def RateDecision.admitted (d : RateDecision) : Bool := d.result.isOk

/-- One more call of a run. -/
def rateStep (config : RateLimitConfig) (run : RateLimitState × List RateDecision)
    (call : RateCall) : RateLimitState × List RateDecision :=
  let (result, s) := checkRules config call.now call.rules run.1
  (s, run.2 ++ [⟨call, result⟩])

/-- The state and the decisions after these calls. -/
def rateRun (config : RateLimitConfig) (calls : List RateCall) :
    RateLimitState × List RateDecision :=
  calls.foldl (rateStep config) (.init, [])

/-- The times at which a run admitted a call that is recorded under `k`. -/
def admissions (log : List RateDecision) (k : String) : List ℕ :=
  (log.filter fun d => d.admitted && records k d.call.rules).map fun d => d.call.now

/-- How many calls with a limit of at most `limit` for `key` were admitted from `a` to `b`. -/
def admittedWithin (log : List RateDecision) (key : String) (limit a b : ℕ) : ℕ :=
  log.countP fun d =>
    d.admitted && d.call.uses key limit && decide (a ≤ d.call.now ∧ d.call.now ≤ b)

/-- What is known of a run whose last call was not after `now`: the queues are the recent part of
the admissions, and no window has seen more admissions than its limit. -/
structure Tracks (config : RateLimitConfig) (now : ℕ) (s : RateLimitState)
    (log : List RateDecision) : Prop where
  past : ∀ d ∈ log, d.call.now ≤ now
  sorted : (log.map fun d => d.call.now).Pairwise (· ≤ ·)
  recent : ∀ k, Recent (now - config.windowMs) (s.times k) (admissions log k)
  limited : ∀ key limit a, admittedWithin log key limit a (a + config.windowMs) ≤ limit

namespace Tracks

variable {config : RateLimitConfig} {now : ℕ} {s : RateLimitState} {log : List RateDecision}

lemma init (config : RateLimitConfig) : Tracks config 0 .init [] where
  past := by simp
  sorted := List.Pairwise.nil
  recent k := Recent.nil _
  limited := by simp [admittedWithin]

variable (h : Tracks config now s log)

include h

/-- Time passes. -/
lemma later (hle : now ≤ now') : Tracks config now' s log where
  past d hd := (h.past d hd).trans hle
  sorted := h.sorted
  recent k := (h.recent k).mono (by omega)
  limited := h.limited

/-- The pruned queue of a key holds the admissions of the window. -/
lemma prune_times (k : String) : prune (now - config.windowMs) (s.times k) =
      (admissions log k).filter fun t => now - config.windowMs ≤ t := by
  refine (h.recent k).prune_eq ?_
  have hsub : (admissions log k).Sublist (log.map fun d => d.call.now) :=
    List.Sublist.map _ filter_sublist
  exact h.sorted.sublist hsub

/-- Everything admitted under a key in a window that ends now is in the key's pruned queue. -/
lemma admittedWithin_le (limit : ℕ) {a : ℕ}
    (ha : now ≤ a + config.windowMs) : admittedWithin log key limit a (a + config.windowMs) ≤
      (prune (now - config.windowMs) (s.times key)).length := by
  rw [h.prune_times, admissions, filter_map, length_map, filter_filter, ← countP_eq_length_filter]
  refine countP_mono_left fun d _ hd => ?_
  simp only [RateCall.uses, records, Function.comp, Bool.and_eq_true, any_eq_true,
    decide_eq_true_eq] at hd ⊢
  obtain ⟨⟨hadm, rule, hrule, hkey, hpos, -⟩, hfrom, -⟩ := hd
  exact ⟨by omega, hadm, rule, hrule, hkey, hpos⟩

lemma recent_step (hkeys : (rules.map RateRule.key).Nodup) (k : String) :
    Recent (now - config.windowMs) ((checkRules config now rules s).2.times k)
      (admissions (log ++ [⟨⟨now, rules⟩, (checkRules config now rules s).1⟩]) k) := by
  have hk := h.recent k
  simp only [admissions, filter_append, map_append]
  rcases hres : (checkRules config now rules s).1 with e | u
  · -- a refused call is not an admission
    have hnone : RateDecision.admitted ⟨⟨now, rules⟩, .error e⟩ = false := rfl
    simp only [hnone, Bool.false_and, filter_cons_of_neg, filter_nil, map_nil,
      append_nil, Bool.false_eq_true, not_false_eq_true]
    rcases checkRules_refused hres k with hsame | hprun
    · rw [hsame]
      exact hk
    · rw [hprun]
      exact hk.prune
  · have hadm : RateDecision.admitted ⟨⟨now, rules⟩, .ok u⟩ := rfl
    rw [checkRules_admitted hkeys hres k]
    by_cases hrec : records k rules
    · simp only [hadm, hrec, Bool.and_self, filter_cons_of_pos]
      exact hk.prune.push (Nat.sub_le _ _)
    · simp only [hrec, Bool.and_false, filter_cons_of_neg, filter_nil, map_nil, append_nil,
        Bool.false_eq_true, not_false_eq_true, if_false]
      exact hk.prune

lemma limited_step (limit a : ℕ) :
    admittedWithin (log ++ [⟨⟨now, rules⟩, (checkRules config now rules s).1⟩]) key limit a
      (a + config.windowMs) ≤ limit := by
  have hold := h.limited key limit a
  unfold admittedWithin at hold ⊢
  rw [countP_append, countP_singleton]
  split
  · rename_i hlast
    simp only [RateCall.uses, Bool.and_eq_true, any_eq_true, decide_eq_true_eq] at hlast
    obtain ⟨⟨hadm, rule, hrule, rfl, hpos, hle⟩, -, hend⟩ := hlast
    -- the call passed its own test, so that the window before it had room
    have hok : (checkRules config now rules s).1 = .ok () := by
      rcases hres : (checkRules config now rules s).1 with e | u
      · rw [hres] at hadm
        cases hadm
      · rfl
    have hroom := checkRules_passed hok hrule hpos
    have hwindow := h.admittedWithin_le rule.key limit hend
    unfold admittedWithin at hwindow
    omega
  · omega

lemma step (hkeys : (rules.map RateRule.key).Nodup) :
    Tracks config now (rateStep config (s, log) ⟨now, rules⟩).1
      (rateStep config (s, log) ⟨now, rules⟩).2 where
  past := by
    intro d hd
    rcases mem_append.1 hd with hd | hd
    · exact h.past d hd
    · rw [mem_singleton.1 hd]
  sorted := by
    simp only [rateStep, map_append]
    refine pairwise_append.2 ⟨h.sorted, pairwise_singleton _ _, ?_⟩
    intro t ht t' ht'
    obtain ⟨d, hd, rfl⟩ := mem_map.1 ht
    rw [mem_singleton.1 ht']
    exact h.past d hd
  recent := h.recent_step hkeys
  limited := h.limited_step

end Tracks

/-- Every run keeps its queues in step with its admissions. -/
lemma rateRun_tracks {calls : List RateCall}
    (hkeys : ∀ call ∈ calls, (call.rules.map RateRule.key).Nodup)
    (htimes : (calls.map RateCall.now).Pairwise (· ≤ ·)) (hnow : ∀ call ∈ calls, call.now ≤ now) :
    Tracks config now (rateRun config calls).1 (rateRun config calls).2 := by
  induction calls using List.reverseRecOn generalizing now with
  | nil => exact (Tracks.init config).later (Nat.zero_le _)
  | append_singleton calls call ih =>
    rw [map_append, pairwise_append] at htimes
    have hbef : ∀ c ∈ calls, c.now ≤ call.now := fun c hc =>
      htimes.2.2 c.now (mem_map_of_mem hc) call.now (by simp)
    have hkeys' : ∀ c ∈ calls, (c.rules.map RateRule.key).Nodup := fun c hc =>
      hkeys c (mem_append_left _ hc)
    have hcalls := ih hkeys' htimes.1 hbef
    rw [rateRun, foldl_concat]
    exact (hcalls.step (hkeys call (by simp))).later (hnow call (by simp))

/-- **The sliding window of the rate limiter**, for every configuration and every sequence of
calls in the order of their times. A closed interval as long as the window holds at most `limit`
admitted calls with that limit for a key. A refused call leaves what is recorded within the
window as it was, and is refused because one of its keys has seen as many admissions as its
limit within the window that ends with the call. -/
theorem rate_limit_sliding_window (config : RateLimitConfig) (calls : List RateCall)
    (hkeys : ∀ call ∈ calls, (call.rules.map RateRule.key).Nodup)
    (htimes : (calls.map RateCall.now).Pairwise (· ≤ ·)) : (∀ key limit a, 0 < limit →
      admittedWithin (rateRun config calls).2 key limit a (a + config.windowMs) ≤ limit) ∧
    ∀ earlier call later e, calls = earlier ++ call :: later →
      (checkRules config call.now call.rules (rateRun config earlier).1).1 = .error e → (∀ key,
          ((checkRules config call.now call.rules (rateRun config earlier).1).2.times key).filter
              (fun t => call.now - config.windowMs ≤ t) =
            ((rateRun config earlier).1.times key).filter fun t => call.now - config.windowMs ≤ t) ∧
        ∃ rule ∈ call.rules, 0 < rule.limit ∧
          rule.limit ≤ ((admissions (rateRun config earlier).2 rule.key).filter
            fun t => call.now - config.windowMs ≤ t ∧ t ≤ call.now).length := by
  constructor
  · intro key limit a _
    obtain ⟨now, hnow⟩ : ∃ now, ∀ call ∈ calls, call.now ≤ now :=
      ⟨(calls.map RateCall.now).sum, fun call hcall =>
        le_sum_of_mem (mem_map_of_mem hcall)⟩
    exact (rateRun_tracks config hkeys htimes hnow).limited key limit a
  · intro earlier call later e hcalls href
    subst hcalls
    have hearl : ∀ c ∈ earlier, c.now ≤ call.now := by
      intro c hc
      rw [map_append, pairwise_append] at htimes
      exact htimes.2.2 c.now (mem_map_of_mem hc) call.now (by simp)
    have htracks := rateRun_tracks config (fun c hc => hkeys c (mem_append_left _ hc))
      ((pairwise_append.1 (map_append ▸ htimes)).1) hearl
    constructor
    · intro key
      rw [← filter_prune, (checkRules_refused href).prune_eq le_rfl, filter_prune]
    · rw [checkRules_fst, scan_result] at href
      split at href
      · cases href
      rename_i rule hfind
      obtain ⟨hpos, hle⟩ := full_iff.1 (List.find?_some hfind)
      refine ⟨rule, mem_of_find?_eq_some hfind, hpos, ?_⟩
      rw [htracks.prune_times] at hle
      have hcongr : (admissions (rateRun config earlier).2 rule.key).filter
            (fun t => call.now - config.windowMs ≤ t ∧ t ≤ call.now) =
          (admissions (rateRun config earlier).2 rule.key).filter
            fun t => call.now - config.windowMs ≤ t := by
        refine filter_congr fun t ht => ?_
        obtain ⟨d, hd, rfl⟩ := mem_map.1 ht
        simp [htracks.past d (mem_filter.1 hd).1]
      rw [hcongr]
      exact hle

/-- A limiter with a window of a second. -/
def oneSecondLimiter : RateLimitConfig where
  enabled := true
  windowMs := 1000
  globalPerMinute := 0
  apiKeyPerMinute := 2
  ipPerMinute := 0
  providerPerMinute := 0
  modelPerMinute := 0

/-- Three calls of one API key, the last of them just within a second of the first. -/
def threeCalls : List RateCall := [5, 600, 1005].map fun now => ⟨now, RateLimitScope.rules
  oneSecondLimiter ⟨⟨"u", "u", none, some "k", none, none, none, none⟩, none, none, none⟩⟩

theorem rate_limit_sliding_window_three_calls :
    (rateRun oneSecondLimiter threeCalls).2.map RateDecision.admitted = [true, true, false] ∧
      admittedWithin (rateRun oneSecondLimiter threeCalls).2 "api-key:k" 2 5 1005 ≤ 2 :=
  ⟨by decide +kernel,
    (rate_limit_sliding_window oneSecondLimiter threeCalls (by decide) (by decide)).1
      "api-key:k" 2 5 (by decide)⟩

/-- What all earlier decisions say of a call: the first rule that has seen as many admissions as
its limit within the window refuses it. -/
def historyDecision (config : RateLimitConfig) (log : List RateDecision) (call : RateCall) :
    Except AppError Unit :=
  let recent (rule : RateRule) :=
    (admissions log rule.key).filter fun t => call.now - config.windowMs ≤ t
  match call.rules.find? fun rule => 0 < rule.limit ∧ rule.limit ≤ (recent rule).length with
  | none => .ok ()
  | some rule => .error (rateRefusal config call.now rule (recent rule))

/-- The decisions of a limiter that keeps its whole history. -/
def historyRun (config : RateLimitConfig) (calls : List RateCall) : List RateDecision :=
  calls.foldl (fun log call => log ++ [⟨call, historyDecision config log call⟩]) []

/-- **The queues are an optimisation**: pruned and forgotten as they are, every call of a run is
answered as the whole history of admissions says. -/
theorem rateRun_refines_history (config : RateLimitConfig) (calls : List RateCall)
    (hkeys : ∀ call ∈ calls, (call.rules.map RateRule.key).Nodup)
    (htimes : (calls.map RateCall.now).Pairwise (· ≤ ·)) :
    (rateRun config calls).2 = historyRun config calls := by
  induction calls using List.reverseRecOn with
  | nil => rfl
  | append_singleton calls call ih =>
    rw [forall_mem_append] at hkeys
    rw [map_append, pairwise_append] at htimes
    have htracks := rateRun_tracks config hkeys.1 htimes.1 fun c hc =>
      htimes.2.2 c.now (mem_map_of_mem hc) call.now (by simp)
    rw [historyRun, foldl_concat, ← historyRun, ← ih hkeys.1 htimes.1, rateRun, foldl_concat,
      ← rateRun]
    simp only [rateStep, checkRules_fst, scan_result, historyDecision, ← htracks.prune_times]
    rfl

theorem rateRun_refines_history_three_calls : (rateRun oneSecondLimiter threeCalls).2 =
    historyRun oneSecondLimiter threeCalls :=
  rateRun_refines_history oneSecondLimiter threeCalls
    (forall_mem_map.2 fun _ _ => RateLimitScope.rules_nodup _ _) (by decide)

/-! ### The time to wait -/

/-- From one time to another every call is refused. -/
inductive Refusals (config : RateLimitConfig) :
    ℕ → RateLimitState → ℕ → RateLimitState → Prop
  | none {now now' : ℕ} {s : RateLimitState} (hle : now ≤ now') : Refusals config now s now' s
  | call {now now' : ℕ} {s s' : RateLimitState} {c : RateCall} {e : AppError} (hle : now ≤ c.now)
      (href : (checkRules config c.now c.rules s).1 = .error e)
      (hrest : Refusals config c.now (checkRules config c.now c.rules s).2 now' s') :
      Refusals config now s now' s'

/-- They leave what the window at the end of that time holds. -/
lemma Refusals.prune_eq {config : RateLimitConfig} {s s' : RateLimitState}
    (h : Refusals config now s now' s') (k : String) : now ≤ now' ∧
      prune (now' - config.windowMs) (s'.times k) = prune (now' - config.windowMs) (s.times k) := by
  induction h with
  | none hle => exact ⟨hle, rfl⟩
  | call hle href hrest ih =>
    refine ⟨hle.trans ih.1, ih.2.trans ?_⟩
    exact (checkRules_refused href).prune_eq (Nat.sub_le_sub_right ih.1 _) k

/-- **A wait as long as a refusal says.** A call is refused by the first of its rules whose window
is full. If nothing is admitted meanwhile, a check of just that rule passes at every time from
`retryAfterSecs` seconds on, if and only if by then the times that have to leave the window, so
that it is no longer full, are strictly before it: a time on its edge still counts. -/
theorem retry_after_sufficient_iff (config : RateLimitConfig) (now : ℕ) (rules : List RateRule)
    (s : RateLimitState) (rule : RateRule) (hrule : rules.find? (full config now s) = some rule) :
    let queue := prune (now - config.windowMs) (s.times rule.key)
    let retryAt := now + 1000 * retryAfterSecs config now queue
    (checkRules config now rules s).1 = .error (rateRefusal config now rule queue) ∧
      ((∀ now' s', Refusals config now (checkRules config now rules s).2 now' s' →
          retryAt ≤ now' → (checkRules config now' [rule] s').1 = .ok ()) ↔
        ∀ t ∈ queue.take (queue.length + 1 - rule.limit), t + config.windowMs < retryAt) := by
  intro queue retryAt
  obtain ⟨hpos, (hle : rule.limit ≤ queue.length)⟩ := full_iff.1 (List.find?_some hrule)
  have href : (checkRules config now rules s).1 =
      .error (rateRefusal config now rule queue) := by
    rw [checkRules_fst, scan_result, hrule]
  have hagain : ∀ now' s', Refusals config now (checkRules config now rules s).2 now' s' →
      ((checkRules config now' [rule] s').1 = .ok () ↔
        ∀ t ∈ queue.take (queue.length + 1 - rule.limit), t < now' - config.windowMs) := by
    intro now' s' hmeanwhile
    obtain ⟨hnow, hprune⟩ := hmeanwhile.prune_eq rule.key
    have hedge : now - config.windowMs ≤ now' - config.windowMs := Nat.sub_le_sub_right hnow _
    have hqueue : prune (now' - config.windowMs) (s'.times rule.key) =
        prune (now' - config.windowMs) queue := by
      rw [hprune, (checkRules_refused href).prune_eq hedge, prune_prune hedge]
    rw [← length_prune_add_le_iff (by omega), checkRules_fst, scan_result, List.find?_singleton]
    have hroom := @full_iff config now' s' rule
    rw [hqueue] at hroom
    by_cases hfull : full config now' s' rule
    · rw [if_pos hfull]
      have := hroom.1 hfull
      exact iff_of_false nofun (by omega)
    · rw [if_neg hfull]
      rw [hroom] at hfull
      exact iff_of_true rfl (by omega)
  refine ⟨href, fun h t ht => ?_, fun h now' s' hmeanwhile hretry => ?_⟩
  · have hleaves := (hagain retryAt _ (.none (Nat.le_add_right _ _))).1
      (h retryAt _ (.none (Nat.le_add_right _ _)) le_rfl) t ht
    omega
  · refine (hagain now' s' hmeanwhile).2 fun t ht => ?_
    have := h t ht
    omega

/-- The rule of an API key that may make one call in a second. -/
def soleCall : RateRule := ⟨"api-key:k", 1, "API key request rate limit exceeded"⟩

/-- Such a call was admitted. -/
def afterSoleCall : RateLimitState := (rateRun oneSecondLimiter [⟨5, [soleCall]⟩]).1

theorem retry_after_sufficient_half_second_later : (checkRules oneSecondLimiter 1505 [soleCall]
      (checkRules oneSecondLimiter 505 [soleCall] afterSoleCall).2).1 = .ok () :=
  (retry_after_sufficient_iff oneSecondLimiter 505 [soleCall] afterSoleCall soleCall
    (by decide +kernel)).2.2 (by decide +kernel) 1505 _ (.none (by decide)) (by decide +kernel)

/-- A call at the time of the admission is told to come back after a second, and then the admission
is just within the window. -/
theorem retry_after_too_short :
    let e := AppError.rateLimited "API key request rate limit exceeded; limit=1/1s" 1
    (checkRules oneSecondLimiter 5 [soleCall] afterSoleCall).1 = .error e ∧
      (checkRules oneSecondLimiter 1005 [soleCall]
        (checkRules oneSecondLimiter 5 [soleCall] afterSoleCall).2).1 = .error e := by
  decide +kernel

end ModelPort.Gateway
