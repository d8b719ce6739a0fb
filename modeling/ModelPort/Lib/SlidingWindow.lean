import Mathlib

/-!
# Queues of times under a sliding window

A limiter that keeps the times of past events in a queue drops, now and then, the times before
the window from its front. `Recent start queue history` says what such a queue is to the list of
all times so far: the history without some of its leading times before `start`.

* `Recent.mono`, `Recent.prune`, `Recent.push`: the relation along a moving window.
* `Recent.prune_eq`: after pruning, the queue holds exactly the times of the window.
-/

namespace SlidingWindow

/-- The queue once its leading times before `start` are gone. -/
def prune (start : ℕ) (times : List ℕ) : List ℕ := times.dropWhile fun t => t < start

lemma prune_prune {a b : ℕ} (h : a ≤ b) (times : List ℕ) :
    prune b (prune a times) = prune b times := by
  induction times with
  | nil => rfl
  | cons t times ih =>
    by_cases hta : t < a
    · have htb : t < b := by omega
      simpa [prune, hta, htb] using ih
    · simp [prune, hta]

variable {start now : ℕ} {times : List ℕ}

/-- A time that is not before `start` stays at the back. -/
lemma prune_append (h : start ≤ now) (times : List ℕ) :
    prune start (times ++ [now]) = prune start times ++ [now] := by
  induction times with
  | nil => simp [prune, h]
  | cons t times ih =>
    by_cases ht : t < start
    · simpa [prune, ht] using ih
    · simp [prune, ht]

/-- Pruning takes nothing of the window away. -/
lemma filter_prune (start : ℕ) (times : List ℕ) :
    (prune start times).filter (fun t => start ≤ t) = times.filter fun t => start ≤ t := by
  induction times with
  | nil => rfl
  | cons t times ih =>
    by_cases ht : t < start
    · simpa [prune, ht] using ih
    · simp [prune, ht]

/-- Pruning takes at least `k` times away exactly if the first `k` of them are before `start`. -/
lemma length_prune_add_le_iff {k : ℕ} (hk : k ≤ times.length) :
    (prune start times).length + k ≤ times.length ↔ ∀ t ∈ times.take k, t < start := by
  induction times generalizing k with
  | nil => simp_all [prune]
  | cons t times ih =>
    cases k with
    | zero => exact iff_of_true (List.dropWhile_sublist _).length_le (by simp)
    | succ k =>
      have hrest := ih (Nat.le_of_succ_le_succ hk)
      by_cases ht : t < start
      · rw [List.take_succ_cons, List.forall_mem_cons, ← hrest]
        simp [prune, ht, ← Nat.add_assoc]
      · simp [prune, ht]

/-- Of times in order, pruning leaves those of the window. -/
lemma prune_eq_filter (h : times.Pairwise (· ≤ ·)) :
    prune start times = times.filter fun t => start ≤ t := by
  induction times with
  | nil => rfl
  | cons t times ih =>
    obtain ⟨hfirst, hrest⟩ := List.pairwise_cons.1 h
    by_cases ht : t < start
    · simpa [prune, ht] using ih hrest
    · have hall : ∀ x ∈ t :: times, start ≤ x := by
        intro x hx
        rcases List.mem_cons.1 hx with rfl | hx
        · omega
        · have := hfirst x hx
          omega
      rw [List.filter_eq_self.2 fun x hx => by simpa using hall x hx]
      simp [prune, ht]

/-- The queue is the history without some of its leading times before `start`. -/
def Recent (start : ℕ) (queue history : List ℕ) : Prop := ∃ c ≤ start, queue = prune c history

namespace Recent

variable {start : ℕ} {queue history : List ℕ}

lemma nil (start : ℕ) : Recent start [] [] := ⟨start, le_rfl, rfl⟩

variable (h : Recent start queue history)

include h

lemma mono {later : ℕ} (hle : start ≤ later) : Recent later queue history := by
  obtain ⟨c, hc, hqueue⟩ := h
  exact ⟨c, Nat.le_trans hc hle, hqueue⟩

lemma prune : Recent start (prune start queue) history := by
  obtain ⟨c, hc, rfl⟩ := h
  exact ⟨start, le_rfl, prune_prune hc history⟩

lemma push (hnow : start ≤ now) : Recent start (queue ++ [now]) (history ++ [now]) := by
  obtain ⟨c, hc, rfl⟩ := h
  exact ⟨c, hc, (prune_append (Nat.le_trans hc hnow) history).symm⟩

/-- After pruning, the queue holds the events of the window, all of them and no others. -/
lemma prune_eq (hsort : history.Pairwise (· ≤ ·)) :
    SlidingWindow.prune start queue = history.filter fun t => start ≤ t := by
  obtain ⟨c, hc, rfl⟩ := h
  rw [prune_prune hc, prune_eq_filter hsort]

end Recent

end SlidingWindow
