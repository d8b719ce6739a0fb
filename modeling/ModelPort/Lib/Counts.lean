import Mathlib

/-!
# Counts by key

A map from keys to natural numbers with finitely many entries, as a program keeps one to count
how many of something each owner has: an entry appears when it is first counted up and goes away
when it is counted down to zero.

* `get_set`, `get_remove`: reading after a change.
* `total_set`, `total_remove`: how a change moves the sum of all counts.
* `get_decr`, `total_decr`: counting down undoes counting up as long as the count is positive.
-/

/-- Counts by key, each key at most once. -/
structure Counts (κ : Type) where
  entries : List (κ × ℕ)
  nodup : (entries.map Prod.fst).Nodup

namespace Counts

open List

variable {κ : Type} [DecidableEq κ]

/-- No entries. -/
def empty : Counts κ := ⟨[], nodup_nil⟩

/-- The count of a key, zero if it has no entry. -/
def get (c : Counts κ) (k : κ) : ℕ := ((c.entries.find? fun e => e.1 = k).map Prod.snd).getD 0

/-- The sum of all counts. -/
def total (c : Counts κ) : ℕ := (c.entries.map Prod.snd).sum

/-- Without the entry of a key. -/
def remove (c : Counts κ) (k : κ) : Counts κ :=
  ⟨c.entries.filter fun e => e.1 ≠ k, c.nodup.sublist (filter_sublist.map _)⟩

/-- With this entry for a key. -/
def set (c : Counts κ) (k : κ) (n : ℕ) : Counts κ :=
  ⟨(k, n) :: (c.remove k).entries, by
    rw [map_cons, nodup_cons]
    refine ⟨fun h => ?_, (c.remove k).nodup⟩
    obtain ⟨e, he, hk⟩ := mem_map.1 h
    simp [remove, hk] at he⟩

/-- The entry of a key, made if there is none. -/
def touch (c : Counts κ) (k : κ) : Counts κ := c.set k (c.get k)

/-- One more. -/
def incr (c : Counts κ) (k : κ) : Counts κ := c.set k (c.get k + 1)

/-- One less; an entry of zero is removed. -/
def decr (c : Counts κ) (k : κ) : Counts κ :=
  if c.get k - 1 = 0 then c.remove k else c.set k (c.get k - 1)

variable (k : κ)

/-! ### Reading -/

variable {c : Counts κ}

lemma get_remove (j : κ) : (c.remove k).get j = if j = k then 0 else c.get j := by
  unfold get remove
  rw [List.find?_filter]
  by_cases h : j = k
  · subst h
    rw [if_pos rfl, List.find?_eq_none.2]
    · rfl
    · simp
  · rw [if_neg h]
    congr 3
    funext e
    by_cases he : e.1 = j
    · simp [he, h]
    · simp [he]

lemma get_set (n : ℕ) (j : κ) : (c.set k n).get j = if j = k then n else c.get j := by
  by_cases h : j = k
  · subst h
    simp [get, set]
  · have hrest : (c.set k n).get j = (c.remove k).get j := by
      simp [get, set, Ne.symm h]
    rw [hrest, get_remove, if_neg h, if_neg h]

@[simp] lemma get_touch (j : κ) : (c.touch k).get j = c.get j := by
  rw [touch, get_set]
  split
  · rename_i h
    rw [h]
  · rfl

lemma get_incr (j : κ) : (c.incr k).get j = c.get j + if j = k then 1 else 0 := by
  rw [incr, get_set]
  by_cases h : j = k <;> simp [h]

lemma get_decr {k : κ} (h : 0 < c.get k) (j : κ) :
    (c.decr k).get j + (if j = k then 1 else 0) = c.get j := by
  have hget : (c.decr k).get j = if j = k then c.get k - 1 else c.get j := by
    unfold decr
    split
    · rename_i hzero
      rw [get_remove, hzero]
    · rw [get_set]
  rw [hget]
  by_cases hj : j = k
  · subst hj
    simp only [if_true]
    omega
  · simp [hj]

/-! ### Sums -/

lemma total_remove : (c.remove k).total + c.get k = c.total := by
  obtain ⟨entries, nodup⟩ := c
  simp only [total, get, remove]
  induction entries with
  | nil => rfl
  | cons e entries ih =>
    obtain ⟨hnotin, hrest⟩ := nodup_cons.1 nodup
    by_cases he : e.1 = k
    · -- the entry of `k`: no other entry of that key follows
      have hoth : entries.filter (fun e => e.1 ≠ k) = entries := by
        refine filter_eq_self.2 fun e' he' => ?_
        have : e'.1 ≠ k := fun hk => hnotin (he.trans hk.symm ▸ mem_map_of_mem he')
        simp [this]
      simp only [filter_cons, he, ne_eq, not_true_eq_false, decide_false, Bool.false_eq_true,
        if_false, hoth, List.find?_cons_of_pos, decide_true, Option.map_some, Option.getD_some,
        map_cons, sum_cons]
      omega
    · have := ih hrest
      simp only [filter_cons, he, ne_eq, not_false_eq_true, decide_true, if_true,
        List.find?_cons_of_neg, decide_false, Bool.false_eq_true, map_cons,
        sum_cons] at this ⊢
      omega

lemma total_set (n : ℕ) : (c.set k n).total + c.get k = c.total + n := by
  have hset : (c.set k n).total = n + (c.remove k).total := by simp [total, set]
  have := c.total_remove k
  omega

@[simp] lemma total_touch : (c.touch k).total = c.total := by
  have := c.total_set k (c.get k)
  unfold touch
  omega

lemma total_incr : (c.incr k).total = c.total + 1 := by
  have := c.total_set k (c.get k + 1)
  unfold incr
  omega

lemma total_decr {k : κ} (h : 0 < c.get k) : (c.decr k).total + 1 = c.total := by
  have hremove := c.total_remove k
  have hset := c.total_set k (c.get k - 1)
  unfold decr
  split <;> omega

end Counts
