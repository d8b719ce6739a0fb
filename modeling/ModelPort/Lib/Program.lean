import Mathlib

/-!
# Programs that ask their surroundings

A handler computes, and now and then asks its surroundings something: a database, an upstream
service, a store, a clock. A program over an `Interface` is the tree of its questions, with one
branch for each answer. What the surroundings answer is not restricted, so what holds for every
world holds for every behaviour of the database, the network and the stores.

* `Prog.run`: a program in a world that may answer by all that has happened so far. The history
  holds the questions with their answers, the newest first.
* `Prog.Ensures`: a postcondition on result and history, whatever the answers are. It holds iff
  it holds in every world (`Prog.ensures_iff_run`).
* `Prog.Can`: a postcondition that some answers lead to.
* `Prog.iterate`: a loop. `Prog.ensures_iterate` is its invariant rule; the invariant comes with
  a measure, so the rounds suffice, and `Prog.iterate_eq` says that more of them change nothing.
-/

namespace Interaction

/-- Questions, and the type of the answers to each. -/
structure Interface where
  Op : Type
  Reply : Op → Type

variable {S : Interface} {α β : Type}

/-- A question with its answer. -/
structure Event (S : Interface) where
  op : S.Op
  reply : S.Reply op

/-- A program: it returns, or it asks and goes on with the answer. -/
inductive Prog (S : Interface) (α : Type) : Type where
  | ret (a : α)
  | ask (op : S.Op) (k : S.Reply op → Prog S α)

namespace Prog

/-- Sequencing. -/
protected def bind : Prog S β → (β → Prog S α) → Prog S α
  | .ret b, f => f b
  | .ask op k, f => .ask op fun r => (k r).bind f

instance : Monad (Prog S) where
  pure := .ret
  bind := Prog.bind

/-- One question. -/
def perform (op : S.Op) : Prog S (S.Reply op) := .ask op .ret

/-! ### Runs -/

/-- A program in a world, from a history. -/
def run (world : List (Event S) → (op : S.Op) → S.Reply op) :
    Prog S α → List (Event S) → α × List (Event S)
  | .ret a, h => (a, h)
  | .ask op k, h => run world (k (world h op)) (⟨op, world h op⟩ :: h)

/-! ### Postconditions -/

/-- Whatever the answers are, the program ends with `Q`. -/
def Ensures (Q : α → List (Event S) → Prop) : Prog S α → List (Event S) → Prop
  | .ret a, h => Q a h
  | .ask op k, h => ∀ r, Ensures Q (k r) (⟨op, r⟩ :: h)

variable {x : Prog S α} {f : β → Prog S α} {op : S.Op} {a : α} {k : S.Reply op → Prog S α}

section

variable {Q Q' : α → List (Event S) → Prop} {h : List (Event S)}

lemma ensures_ret : Ensures Q (.ret a) h ↔ Q a h := Iff.rfl

lemma ensures_ask :
    Ensures Q (.ask op k) h ↔ ∀ r, Ensures Q (k r) (⟨op, r⟩ :: h) := Iff.rfl

-- Unfolding `Ensures` would run the program inside the elaborator.
attribute [irreducible] Ensures

/-- **Sequencing.** -/
lemma Ensures.bind {x : Prog S β}
    (hx : Ensures (fun b h => Ensures Q (f b) h) x h) : Ensures Q (x >>= f) h := by
  induction x generalizing h with
  | ret b =>
    have hret := ensures_ret.1 hx
    exact hret
  | ask op k ih => exact ensures_ask.2 fun r => ih r (ensures_ask.1 hx r)

/-- The rule of consequence. -/
lemma Ensures.mono (hx : Ensures Q x h) (hQ : ∀ a h, Q a h → Q' a h) : Ensures Q' x h := by
  induction x generalizing h with
  | ret a => exact ensures_ret.2 (hQ a h (ensures_ret.1 hx))
  | ask op k ih => exact ensures_ask.2 fun r => ih r (ensures_ask.1 hx r)

/-- **What a program ensures holds in every world.** -/
lemma Ensures.run (hx : Ensures Q x h) (world : List (Event S) → (op : S.Op) → S.Reply op) :
    Q (x.run world h).1 (x.run world h).2 := by
  induction x generalizing h with
  | ret a => exact ensures_ret.1 hx
  | ask op k ih => exact ih _ (ensures_ask.1 hx _)

/-- **And what holds in every world is ensured**, given that each question has an answer: a
world may answer differently after each history, so every choice of answers is some world's. -/
lemma ensures_iff_run [∀ op, Nonempty (S.Reply op)] :
    Ensures Q x h ↔ ∀ world, Q (x.run world h).1 (x.run world h).2 := by
  refine ⟨fun hx world => hx.run world, fun hx => ?_⟩
  induction x generalizing h with
  | ret a =>
    exact ensures_ret.2 (hx fun _ op => Classical.choice (inferInstance : Nonempty (S.Reply op)))
  | ask op k ih =>
    refine ensures_ask.2 fun r => ih r fun world => ?_
    -- this world answers the present question with `r`, and later ones as `world` does
    classical
    let world' : List (Event S) → (op : S.Op) → S.Reply op := fun h' op' =>
      if heq : h' = h ∧ op' = op then heq.2 ▸ r else world h' op'
    have hnow : world' h op = r := dif_pos ⟨rfl, rfl⟩
    have hlater : ∀ (y : Prog S α) (h' : List (Event S)), h.length < h'.length →
        y.run world' h' = y.run world h' := by
      intro y
      induction y with
      | ret a => exact fun h' _ => rfl
      | ask op' k' ih' =>
        intro h' hlen
        have hne : h' ≠ h := fun heq => absurd hlen (by rw [heq]; exact Nat.lt_irrefl _)
        have heq : world' h' op' = world h' op' := dif_neg fun hboth => hne hboth.1
        rw [run, heq]
        exact ih' _ _ (Nat.lt_succ_of_lt hlen)
    have hrun := hx world'
    rw [run, hnow, hlater _ _ (Nat.lt_succ_self _)] at hrun
    exact hrun

end

/-! ### Possible ends -/

/-- Some answers lead the program to an end with `Q`. -/
def Can (Q : α → List (Event S) → Prop) : Prog S α → List (Event S) → Prop
  | .ret a, h => Q a h
  | .ask op k, h => ∃ r, Can Q (k r) (⟨op, r⟩ :: h)

section

variable {P Q Q' : α → List (Event S) → Prop} {h : List (Event S)}

lemma can_ret : Can Q (.ret a) h ↔ Q a h := Iff.rfl

lemma can_ask :
    Can Q (.ask op k) h ↔ ∃ r, Can Q (k r) (⟨op, r⟩ :: h) := Iff.rfl

attribute [irreducible] Can

lemma Can.bind {x : Prog S β} (hx : Can (fun b h => Can Q (f b) h) x h) : Can Q (x >>= f) h := by
  induction x generalizing h with
  | ret b =>
    have hret := can_ret.1 hx
    exact hret
  | ask op k ih =>
    obtain ⟨r, hr⟩ := can_ask.1 hx
    exact can_ask.2 ⟨r, ih r hr⟩

lemma Can.mono (hx : Can Q x h) (hQ : ∀ a h, Q a h → Q' a h) : Can Q' x h := by
  induction x generalizing h with
  | ret a => exact can_ret.2 (hQ a h (can_ret.1 hx))
  | ask op k ih =>
    obtain ⟨r, hr⟩ := can_ask.1 hx
    exact can_ask.2 ⟨r, ih r hr⟩

/-- What is ensured holds at every possible end. -/
lemma Ensures.and_can (hP : Ensures P x h) (hQ : Can Q x h) :
    Can (fun a h => P a h ∧ Q a h) x h := by
  induction x generalizing h with
  | ret a => exact can_ret.2 ⟨ensures_ret.1 hP, can_ret.1 hQ⟩
  | ask op k ih =>
    obtain ⟨r, hr⟩ := can_ask.1 hQ
    exact can_ask.2 ⟨r, ih r (ensures_ask.1 hP r) hr⟩

/-- A possible end exists. -/
lemma Can.exists (hQ : Can Q x h) : ∃ a h, Q a h := by
  induction x generalizing h with
  | ret a => exact ⟨a, h, can_ret.1 hQ⟩
  | ask op k ih =>
    obtain ⟨r, hr⟩ := can_ask.1 hQ
    exact ih r hr

/-- Every program can end, whatever answers are given from now on. -/
lemma can_answer (answer : (op : S.Op) → S.Reply op) (x : Prog S α) (h : List (Event S)) :
    Can (fun _ h' => ∃ new, h' = new ++ h ∧ ∀ e ∈ new, e = ⟨e.op, answer e.op⟩) x h := by
  induction x generalizing h with
  | ret a => exact can_ret.2 ⟨[], rfl, by simp⟩
  | ask op k ih =>
    refine can_ask.2 ⟨answer op, (ih (answer op) _).mono fun a h' hend => ?_⟩
    obtain ⟨new, rfl, hnew⟩ := hend
    refine ⟨new ++ [⟨op, answer op⟩], by rw [List.append_assoc]; rfl, fun e he => ?_⟩
    rcases List.mem_append.1 he with he | he
    · exact hnew e he
    · rw [List.mem_singleton.1 he]

end

/-- Two continuations that agree on every result of a program. -/
lemma bind_congr {P : β → Prop} {x : Prog S β} {h : List (Event S)}
    (hx : Ensures (fun b _ => P b) x h) {g : β → Prog S α} (hfg : ∀ b, P b → f b = g b) :
    (x >>= f) = (x >>= g) := by
  induction x generalizing h with
  | ret b => exact hfg b (ensures_ret.1 hx)
  | ask op k ih =>
    exact congrArg (Prog.ask op) (funext fun r => ih r (ensures_ask.1 hx r))

/-! ### Loops -/

section

variable {σ : Type}

/-- At most `n` rounds of `step`, until a round says that it was the last. -/
def iterate (step : σ → Prog S (σ × Bool)) : ℕ → σ → Prog S σ
  | 0, s => .ret s
  | n + 1, s => step s >>= fun r => if r.2 then iterate step n r.1 else .ret r.1

variable {step : σ → Prog S (σ × Bool)} {μ : σ → ℕ} {n m : ℕ} {s : σ} {h : List (Event S)}

/-- **The invariant rule.** A round keeps `I` and lowers `μ`, or it is the last and leaves `Q`. -/
lemma ensures_iterate {I Q : σ → List (Event S) → Prop} (hstep : ∀ s h, I s h → Ensures
      (fun r h' => if r.2 then I r.1 h' ∧ μ r.1 < μ s else Q r.1 h') (step s) h)
    (hs : I s h) (hn : μ s < n) : Ensures Q (iterate step n s) h := by
  induction n generalizing s h with
  | zero => exact absurd hn (Nat.not_lt_zero _)
  | succ n ih =>
    refine Ensures.bind ((hstep s h hs).mono fun r h' hr => ?_)
    split at hr
    · rename_i hgo
      rw [if_pos hgo]
      exact ih hr.1 (Nat.lt_of_lt_of_le hr.2 (Nat.le_of_lt_succ hn))
    · rename_i hend
      rw [if_neg hend]
      exact ensures_ret.2 hr

section

variable (hstep : ∀ s h, Ensures (fun r _ => r.2 → μ r.1 < μ s) (step s) h)

include hstep

/-- Rounds beyond the measure are never used. -/
lemma iterate_stable (hn : μ s < n) (hm : μ s < m) : iterate step n s = iterate step m s := by
  induction n generalizing s m with
  | zero => exact absurd hn (Nat.not_lt_zero _)
  | succ n ih =>
    cases m with
    | zero => exact absurd hm (Nat.not_lt_zero _)
    | succ m =>
      refine bind_congr (hstep s []) fun r hr => ?_
      by_cases hgo : r.2
      · have hlt := hr hgo
        rw [if_pos hgo, if_pos hgo]
        exact ih (by omega) (by omega)
      · rw [if_neg hgo, if_neg hgo]

/-- **A loop with enough rounds is a `while` loop**: one round, and the loop again. -/
lemma iterate_eq : iterate step (μ s + 1) s =
      step s >>= fun r => if r.2 then iterate step (μ r.1 + 1) r.1 else .ret r.1 := by
  refine bind_congr (hstep s []) fun r hr => ?_
  by_cases hgo : r.2
  · rw [if_pos hgo, if_pos hgo]
    exact iterate_stable hstep (hr hgo) (Nat.lt_succ_self _)
  · rw [if_neg hgo, if_neg hgo]

end

end

end Prog

end Interaction
