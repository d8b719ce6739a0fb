import Mathlib

/-!
# Runs of a deterministic system

A system is a function from a state and an event to the next state. Conditions on the events of a
run are about each event in the state before it.

* `Throughout`: a condition holds of every event of a run; `Throughout.init`, `Throughout.last`,
  `Throughout.shift` take runs apart, `throughout_cons` builds them.
* `Throughout.invariant`: what every event keeps holds at the end.
* `Since`: an event of some kind has occurred, and a property of states has held ever since;
  `Since.begin`, `Since.carry` say how it comes about and how it goes on.
* `since_of_holds`: what holds at the end was begun by an event and spared by all events after it.
-/

namespace Runs

open List

variable {σ ε : Type} {step : σ → ε → σ} {start : σ} {events more : List ε} {e : ε}

/-- The state after a list of events. -/
def after (step : σ → ε → σ) (start : σ) (events : List ε) : σ := events.foldl step start

@[simp] lemma after_nil : after step start [] = start := rfl

lemma after_cons : after step start (e :: events) = after step (step start e) events := rfl

lemma after_append :
    after step start (events ++ more) = after step (after step start events) more :=
  foldl_append

lemma after_concat : after step start (events ++ [e]) = step (after step start events) e := by
  rw [after_append, after_cons, after_nil]

/-! ### Conditions on the events of a run -/

/-- Every event of the run meets a condition in the state before it. -/
def Throughout (step : σ → ε → σ) (P : σ → ε → Prop) (start : σ) (events : List ε) : Prop :=
  ∀ earlier e later, events = earlier ++ e :: later → P (after step start earlier) e

variable {P : σ → ε → Prop}

lemma throughout_nil : Throughout step P start [] := by
  intro earlier e later hsplit
  simp at hsplit

lemma throughout_cons (he : P start e) (h : Throughout step P (step start e) events) :
    Throughout step P start (e :: events) := by
  intro earlier d later hsplit
  cases earlier with
  | nil =>
    obtain ⟨rfl, -⟩ := List.cons.inj hsplit
    exact he
  | cons c earlier =>
    rw [cons_append, List.cons.injEq] at hsplit
    obtain ⟨rfl, hsplit⟩ := hsplit
    exact h earlier d later hsplit

lemma throughout_concat : Throughout step P start (events ++ [e]) ↔
    Throughout step P start events ∧ P (after step start events) e := by
  refine ⟨fun h => ⟨fun earlier d later hsplit => ?_, h events e [] rfl⟩, ?_⟩
  · exact h earlier d (later ++ [e]) (by rw [hsplit]; simp)
  rintro ⟨h, he⟩ earlier d later hsplit
  rcases eq_nil_or_concat later with rfl | ⟨later, x, rfl⟩
  · obtain ⟨rfl, hd⟩ := append_inj' hsplit rfl
    obtain rfl := singleton_inj.1 hd
    exact he
  · refine h earlier d later ?_
    have hinit : events ++ [e] = (earlier ++ d :: later) ++ [x] := by simpa using hsplit
    exact (append_inj' hinit rfl).1

namespace Throughout

lemma init (h : Throughout step P start (events ++ more)) : Throughout step P start events :=
  fun earlier e later hsplit => h earlier e (later ++ more) (by rw [hsplit]; simp)

lemma last (h : Throughout step P start (events ++ e :: more)) : P (after step start events) e :=
  h events e more rfl

lemma shift (h : Throughout step P start (events ++ more)) :
    Throughout step P (after step start events) more := by
  intro earlier e later hsplit
  rw [← after_append]
  exact h (events ++ earlier) e later (by rw [hsplit]; simp)

/-- **The invariant rule.** -/
lemma invariant {I : σ → Prop} (h : Throughout step P start events) (hstart : I start)
    (hstep : ∀ s e, I s → P s e → I (step s e)) : I (after step start events) := by
  induction events using List.reverseRecOn with
  | nil => exact hstart
  | append_singleton events e ih =>
    rw [after_concat]
    exact hstep _ e (ih h.init) h.last

end Throughout

/-! ### Since an event -/

/-- An event with `A` has occurred, and all states since then have `Q`. -/
def Since (step : σ → ε → σ) (A : σ → ε → Prop) (Q : σ → Prop) (start : σ) (events : List ε) :
    Prop :=
  ∃ earlier e later, events = earlier ++ e :: later ∧ A (after step start earlier) e ∧
    ∀ l1 l2, later = l1 ++ l2 → Q (after step start (earlier ++ e :: l1))

namespace Since

variable {A : σ → ε → Prop} {Q : σ → Prop}

lemma begin (hA : A (after step start events) e) (hQ : Q (after step start (events ++ [e]))) :
    Since step A Q start (events ++ [e]) := by
  refine ⟨events, e, [], rfl, hA, fun l1 l2 hsplit => ?_⟩
  obtain ⟨rfl, -⟩ := append_eq_nil_iff.1 hsplit.symm
  exact hQ

lemma carry (h : Since step A Q start events) (hQ : Q (after step start (events ++ [e]))) :
    Since step A Q start (events ++ [e]) := by
  obtain ⟨earlier, d, later, rfl, hA, hsince⟩ := h
  refine ⟨earlier, d, later ++ [e], by simp, hA, fun l1 l2 hsplit => ?_⟩
  rcases eq_nil_or_concat l2 with rfl | ⟨l2, x, rfl⟩
  · -- the state after the new event
    rw [append_nil] at hsplit
    rw [← hsplit]
    simpa using hQ
  · have hinit : later ++ [e] = (l1 ++ l2) ++ [x] := by simpa using hsplit
    exact hsince l1 l2 (append_inj' hinit rfl).1

/-- The last state has the property. -/
lemma holds (h : Since step A Q start events) : Q (after step start events) := by
  obtain ⟨earlier, e, later, rfl, -, hsince⟩ := h
  exact hsince later [] (by simp)

end Since

/-- **What holds at the end was begun by an event and spared by all events after it**, if every
event after which it holds begins it or spares what held before. -/
lemma since_of_holds {H : σ → Prop} {A K : ε → Prop} (h : H (after step start events))
    (hstart : ¬ H start) (hstep : ∀ s e, H (step s e) → A e ∨ H s ∧ K e) :
    ∃ earlier e later, events = earlier ++ e :: later ∧ A e ∧ ∀ d ∈ later, K d := by
  induction events using List.reverseRecOn with
  | nil => exact absurd h hstart
  | append_singleton events e ih =>
    rw [after_concat] at h
    rcases hstep _ e h with hA | ⟨hH, hK⟩
    · exact ⟨events, e, [], rfl, hA, nofun⟩
    · obtain ⟨earlier, d, later, rfl, hA, hlater⟩ := ih hH
      refine ⟨earlier, d, later ++ [e], by simp, hA, fun x hx => ?_⟩
      rcases mem_append.1 hx with hx | hx
      · exact hlater x hx
      · rwa [mem_singleton.1 hx]

end Runs
