import ModelPort.Gateway.Pricing

/-!
# The sum of usages

`mergeUsageEstimates` adds up the usages of the attempts of a request. Neither their order matters
nor how they are bracketed: every way of merging them gives their `usageSum`.

* `unused_usageSum`: a sum is empty if all its parts are, so a partial sum decides about the actual
  cost as its parts do.
-/

namespace ModelPort.Gateway

open List

/-- No tokens and no estimated cost. -/
def unused (e : UsageEstimate) : Bool := decide (estimateTotalTokens e = 0 ∧ e.costEstimate = 0)

/-- The actual cost is known, or there is none to know. -/
def accounted (e : UsageEstimate) : Bool := e.actualCost.isSome || unused e

/-- The actual cost of some attempts, if it is known of each that used something, and of one. -/
def actualSum (l : List UsageEstimate) : Option ℚ :=
  if l.any (·.actualCost.isSome) && l.all accounted then some (l.filterMap (·.actualCost)).sum
  else none

/-- The billable cost of some attempts, as far as it is known. -/
def billedSum (l : List UsageEstimate) : Option ℚ :=
  if l.any (·.billableCost.isSome) then some (l.filterMap (·.billableCost)).sum else none

/-- The sum of usages. -/
def usageSum (l : List UsageEstimate) : UsageEstimate where
  inputTokens := (l.map (·.inputTokens)).sum
  outputTokens := (l.map (·.outputTokens)).sum
  cacheWriteTokens := (l.map (·.cacheWriteTokens)).sum
  cacheReadTokens := (l.map (·.cacheReadTokens)).sum
  costEstimate := (l.map (·.costEstimate)).sum
  actualCost := actualSum l
  billableCost := billedSum l

/-- Costs are not negative, and no counter saturates. -/
structure Summable (l : List UsageEstimate) : Prop where
  cost : ∀ e ∈ l, 0 ≤ e.costEstimate
  input : (l.map (·.inputTokens)).sum ≤ u64Max
  output : (l.map (·.outputTokens)).sum ≤ u64Max
  cacheWrite : (l.map (·.cacheWriteTokens)).sum ≤ u64Max
  cacheRead : (l.map (·.cacheReadTokens)).sum ≤ u64Max

/-- A way of merging estimates, with the empty one anywhere among them. -/
inductive Bracketing where
  | empty
  | one (e : UsageEstimate)
  | both (left right : Bracketing)

def Bracketing.estimates : Bracketing → List UsageEstimate
  | empty => []
  | one e => [e]
  | both left right => left.estimates ++ right.estimates

def Bracketing.merged : Bracketing → UsageEstimate
  | empty => {}
  | one e => e
  | both left right => mergeUsageEstimates left.merged right.merged

variable {l r : List UsageEstimate}

lemma Summable.append (h : Summable (l ++ r)) : Summable l ∧ Summable r := by
  obtain ⟨hcost, hinput, houtp, hwrite, hread⟩ := h
  simp only [map_append, sum_append] at hinput houtp hwrite hread
  refine ⟨⟨fun e he => hcost e (mem_append_left r he), ?_, ?_, ?_, ?_⟩,
    fun e he => hcost e (mem_append_right l he), ?_, ?_, ?_, ?_⟩ <;> omega

/-- The order of the parts matters neither for their sum nor for what it rests on. -/
lemma usageSum_perm (h : Summable l) (hperm : r.Perm l) : Summable r ∧ usageSum r = usageSum l := by
  have hsum : ∀ {α : Type} [AddCommMonoid α] (f : UsageEstimate → α),
      (r.map f).sum = (l.map f).sum := fun f => (hperm.map f).sum_eq
  refine ⟨⟨fun e he => h.cost e (hperm.mem_iff.1 he), ?_, ?_, ?_, ?_⟩, ?_⟩
  · exact hsum (·.inputTokens) ▸ h.input
  · exact hsum (·.outputTokens) ▸ h.output
  · exact hsum (·.cacheWriteTokens) ▸ h.cacheWrite
  · exact hsum (·.cacheReadTokens) ▸ h.cacheRead
  · simp only [usageSum, actualSum, billedSum, hsum, (hperm.filterMap _).sum_eq, hperm.any_eq,
      hperm.all_eq]

/-! ### Merging sums -/

lemma unused_iff {e : UsageEstimate} : unused e ↔
    (e.inputTokens = 0 ∧ e.outputTokens = 0 ∧ e.cacheWriteTokens = 0 ∧ e.cacheReadTokens = 0) ∧
      e.costEstimate = 0 := by
  unfold unused estimateTotalTokens saturatingAdd u64Max
  rw [decide_eq_true_iff]
  refine and_congr_left fun _ => ?_
  omega

lemma unused_usageSum (h : ∀ e ∈ l, 0 ≤ e.costEstimate) : unused (usageSum l) = l.all unused := by
  rw [Bool.eq_iff_iff, unused_iff, all_eq_true]
  induction l with
  | nil => simp [usageSum]
  | cons e l ih =>
    have ih := ih fun e he => h e (mem_cons_of_mem _ he)
    have hnonn : 0 ≤ (l.map (·.costEstimate)).sum :=
      sum_nonneg (by simpa using fun e he => h e (mem_cons_of_mem _ he))
    rw [forall_mem_cons, unused_iff]
    simp only [usageSum, map_cons, sum_cons, Nat.add_eq_zero_iff,
      add_eq_zero_iff_of_nonneg (h e mem_cons_self) hnonn]
    tauto

/-- Where no cost is known there is nothing to add up. -/
lemma sum_eq_zero {f : UsageEstimate → Option ℚ} (h : (l.any fun e => (f e).isSome) = false) :
    (l.filterMap f).sum = 0 := by
  have hnil : l.filterMap f = [] := by simpa using h
  rw [hnil, sum_nil]

/-- What is known of the actual cost: nothing was used and nothing is known, it is known where it
has to be, or it is missing somewhere. -/
lemma actual_cases (l : List UsageEstimate) :
    actualSum l = none ∧ l.any (·.actualCost.isSome) = false ∧ l.all unused ∧
        l.all accounted ∨ actualSum l = some (l.filterMap (·.actualCost)).sum ∧
        l.any (·.actualCost.isSome) ∧ l.all accounted ∨
      actualSum l = none ∧ l.all unused = false ∧ l.all accounted = false := by
  have himp : l.all unused → l.all accounted := by simp_all [accounted]
  have hnone : l.any (·.actualCost.isSome) = false → l.all accounted →
      l.all unused := by simp_all [accounted]
  unfold actualSum
  cases hany : l.any (·.actualCost.isSome) <;> cases hall : l.all accounted <;>
    cases hused : l.all unused <;> simp_all

lemma mergeCompleteCost_usageSum (h : ∀ e ∈ l ++ r, 0 ≤ e.costEstimate) :
    mergeCompleteCost (usageSum l) (usageSum r) = actualSum (l ++ r) := by
  have hempty : ∀ {l : List UsageEstimate}, (∀ e ∈ l, 0 ≤ e.costEstimate) →
      (estimateTotalTokens (usageSum l) = 0 ∧ (usageSum l).costEstimate = 0 ↔
        l.all unused = true) := fun h => by rw [← unused_usageSum h, unused, decide_eq_true_iff]
  have hfield : ∀ l, (usageSum l).actualCost = actualSum l := fun _ => rfl
  have happend : actualSum (l ++ r) =
      if (l.any (·.actualCost.isSome) || r.any (·.actualCost.isSome)) &&
        (l.all accounted && r.all accounted) then
        some ((l.filterMap (·.actualCost)).sum + (r.filterMap (·.actualCost)).sum)
      else none := by
    simp only [actualSum, any_append, all_append, filterMap_append, sum_append]
  simp only [mergeCompleteCost, hempty fun e he => h e (mem_append_left r he),
    hempty fun e he => h e (mem_append_right l he)]
  rcases actual_cases l with ⟨hl, hal, hul, hcl⟩ | ⟨hl, hal, hcl⟩ | ⟨hl, hul, hcl⟩ <;>
    rcases actual_cases r with ⟨hr, har, hur, hcr⟩ | ⟨hr, har, hcr⟩ | ⟨hr, hur, hcr⟩ <;>
    simp [*, sum_eq_zero]

/-- **Two sums merge to the sum of both lists.** -/
lemma mergeUsageEstimates_usageSum (h : Summable (l ++ r)) :
    mergeUsageEstimates (usageSum l) (usageSum r) = usageSum (l ++ r) := by
  have hbill : mergeBillableCost (billedSum l) (billedSum r) = billedSum (l ++ r) := by
    simp only [billedSum]
    cases hl : l.any (·.billableCost.isSome) <;> cases hr : r.any (·.billableCost.isSome) <;>
      simp [mergeBillableCost, sum_eq_zero, hl, hr]
  have hactual := mergeCompleteCost_usageSum h.cost
  obtain ⟨-, hinput, houtp, hwrite, hread⟩ := h
  simp only [map_append, sum_append] at hinput houtp hwrite hread
  simp only [mergeUsageEstimates, hactual]
  simp only [usageSum, hbill, map_append, sum_append, saturatingAdd,
    min_eq_left hinput, min_eq_left houtp, min_eq_left hwrite, min_eq_left hread]

lemma usageSum_singleton (e : UsageEstimate) : usageSum [e] = e := by
  obtain ⟨input, output, write, read, cost, actual, billable⟩ := e
  cases actual <;> cases billable <;> simp [usageSum, actualSum, billedSum, accounted]

/-! ### Every way of merging -/

lemma Bracketing.merged_eq {t : Bracketing} (h : Summable t.estimates) :
    t.merged = usageSum t.estimates := by
  induction t with
  | empty => rfl
  | one e => exact (usageSum_singleton e).symm
  | both left right ihl ihr =>
    obtain ⟨hl, hr⟩ := h.append
    rw [merged, ihl hl, ihr hr, mergeUsageEstimates_usageSum h, estimates]

lemma foldl_merge (h : Summable l) : l.foldl mergeUsageEstimates {} = usageSum l := by
  induction l using List.reverseRecOn with
  | nil => rfl
  | append_singleton l e ih =>
    have hmerge := mergeUsageEstimates_usageSum h
    rw [usageSum_singleton] at hmerge
    rw [foldl_concat, ih h.append.1, hmerge]

/-- **Merging usage is order-independent, and all or nothing on actual cost.** -/
theorem usage_merge_order_independent {l : List UsageEstimate} (h : Summable l) :
    let total := l.foldl mergeUsageEstimates {}
    (∀ l' : List UsageEstimate, l'.Perm l → l'.foldl mergeUsageEstimates {} = total) ∧
    (∀ t : Bracketing, t.estimates.Perm l → t.merged = total) ∧
    total.inputTokens = (l.map (·.inputTokens)).sum ∧
    total.outputTokens = (l.map (·.outputTokens)).sum ∧
    total.cacheWriteTokens = (l.map (·.cacheWriteTokens)).sum ∧
    total.cacheReadTokens = (l.map (·.cacheReadTokens)).sum ∧
    total.costEstimate = (l.map (·.costEstimate)).sum ∧
    (total.actualCost.isSome ↔
      (∀ e ∈ l, estimateTotalTokens e ≠ 0 ∨ e.costEstimate ≠ 0 → e.actualCost.isSome) ∧
        ∃ e ∈ l, e.actualCost.isSome) ∧
    (∀ cost, total.actualCost = some cost → cost = (l.filterMap (·.actualCost)).sum) ∧
    (total.billableCost = none ↔ ∀ e ∈ l, e.billableCost = none) ∧
    ∀ cost, total.billableCost = some cost → cost = (l.filterMap (·.billableCost)).sum := by
  intro total
  have htotal : total = usageSum l := foldl_merge h
  rw [htotal]
  refine ⟨fun l' hl' => ?_, fun t ht => ?_, rfl, rfl, rfl, rfl, rfl, ?_, fun cost hcost => ?_, ?_,
    fun cost hcost => ?_⟩
  · obtain ⟨h', heq⟩ := usageSum_perm h hl'
    rw [foldl_merge h', heq]
  · obtain ⟨h', heq⟩ := usageSum_perm h ht
    rw [Bracketing.merged_eq h', heq]
  · have hasked : ∀ e, accounted e ↔
        (estimateTotalTokens e ≠ 0 ∨ e.costEstimate ≠ 0 → e.actualCost.isSome) := by
      intro e
      rw [accounted, unused, Bool.or_eq_true, decide_eq_true_iff]
      tauto
    simp only [← hasked]
    simp [usageSum, actualSum, and_comm]
  · simp only [usageSum, actualSum, Option.ite_none_right_eq_some] at hcost
    exact (Option.some.inj hcost.2).symm
  · simp [usageSum, billedSum]
  · simp only [usageSum, billedSum, Option.ite_none_right_eq_some] at hcost
    exact (Option.some.inj hcost.2).symm

/-- An attempt of unknown cost and a billed one, merged in the other order. -/
theorem usage_merge_order_independent_two_attempts :
    [{ inputTokens := 3, costEstimate := 1 }, { outputTokens := 2, billableCost := some 1 }].foldl
        mergeUsageEstimates {} =
      [{ outputTokens := 2, billableCost := some 1 }, { inputTokens := 3, costEstimate := 1 }].foldl
        mergeUsageEstimates {} :=
  (usage_merge_order_independent ⟨by simp, by decide, by decide, by decide, by decide⟩).1 _
    (.swap _ _ _)

end ModelPort.Gateway
