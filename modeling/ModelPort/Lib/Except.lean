import Mathlib

/-!
# Fallible computations

How a sequence of fallible steps is taken apart, by its success and by its error, and what all its
errors have in common.
-/

namespace Except

variable {ε α β : Type} {x : Except ε α} {f : α → Except ε β} {e : ε}

lemma bind_eq_ok {b : β} : (x >>= f) = .ok b ↔ ∃ a, x = .ok a ∧ f a = .ok b := by
  cases x with
  | error | ok => simp [bind, Except.bind]

lemma bind_eq_error : (x >>= f) = .error e ↔ x = .error e ∨ ∃ a, x = .ok a ∧ f a = .error e := by
  cases x with
  | error | ok => simp [bind, Except.bind]

lemma isOk_iff_exists : x.isOk ↔ ∃ a, x = .ok a := by
  cases x with
  | error | ok => simp [Except.toBool]

/-- Success if a condition holds. -/
def ensure (condition : Bool) (e : ε) : Except ε Unit := if condition then .ok () else .error e

@[simp] lemma ensure_eq_ok {condition : Bool} {u : Unit} :
    ensure condition e = .ok u ↔ condition := by
  cases condition <;> simp [ensure]

/-- Every error the computation can end with has the property. -/
def Errors (T : ε → Prop) (x : Except ε α) : Prop := ∀ e, x = .error e → T e

section

variable {T : ε → Prop}

lemma errors_ok (a : α) : (ok a : Except ε α).Errors T := nofun

lemma errors_error (h : T e) : (error e : Except ε α).Errors T := by
  rintro _ ⟨⟩
  exact h

lemma Errors.bind (hx : x.Errors T) (hf : ∀ a, (f a).Errors T) : (x >>= f).Errors T := by
  intro e he
  rcases bind_eq_error.1 he with h | ⟨a, -, h⟩
  · exact hx e h
  · exact hf a e h

lemma Errors.ite {c : Prop} [Decidable c] {y : Except ε α} (hx : x.Errors T) (hy : y.Errors T) :
    (if c then x else y).Errors T := by
  split
  · exact hx
  · exact hy

end

end Except
