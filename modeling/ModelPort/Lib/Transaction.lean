import Mathlib

/-!
# Transactions over a database

A transaction is a program of statements. A statement sees a view of the database, takes the
locks of the rows it selects, and returns a result together with a write. `Txn.run` executes a
transaction alone; `Txn.commit` is the database afterwards, on which a failed transaction leaves
no trace.

* `Txn.run_bind_ok`, `Txn.run_step_ok` take a successful run apart.
* `Txn.All` says that every statement a program can execute has a property, and `All.run_rel`
  turns a relation kept by every statement into one kept by the whole run.
-/

namespace Transaction

/-- One statement of a transaction, over a database `D`, locks `L` and errors `E`. -/
structure Stmt (D L E α : Type) where
  /-- the locks of the rows it selects -/
  locks : D → List L
  /-- its result and its write, or the error it raises -/
  exec : D → Except E (α × (D → D))

/-- Whatever the view, the write of the statement has the property. -/
def Stmt.Writes {D L E α : Type} (W : (D → D) → Prop) (s : Stmt D L E α) : Prop :=
  ∀ d a w, s.exec d = .ok (a, w) → W w

/-- Whatever the view, the errors of the statement have the property. -/
def Stmt.Errors {D L E α : Type} (T : E → Prop) (s : Stmt D L E α) : Prop :=
  ∀ d e, s.exec d = .error e → T e

/-- A transaction: statements in sequence, each depending on the results before it. -/
inductive Txn (D L E α : Type) : Type 1 where
  | done (a : α)
  | throw (e : E)
  | step {β : Type} (s : Stmt D L E β) (k : β → Txn D L E α)

variable {D L E α β γ : Type}

namespace Txn

/-- Sequencing. -/
def bind : Txn D L E α → (α → Txn D L E β) → Txn D L E β
  | done a, f => f a
  | throw e, _ => throw e
  | step s k, f => step s fun b => (k b).bind f

instance : Monad (Txn D L E) where
  pure := done
  bind := bind

/-- A statement as a transaction. -/
def stmt (s : Stmt D L E α) : Txn D L E α := step s done

@[simp] lemma pure_eq (a : α) : (pure a : Txn D L E α) = done a := rfl

@[simp] lemma throw_bind (e : E) (f : α → Txn D L E β) : (throw e >>= f) = throw e := rfl

/-! ### Execution alone -/

/-- The transaction executed alone from `d`: its result and the database it commits. -/
def run : Txn D L E α → D → Except E (α × D)
  | done a, d => .ok (a, d)
  | throw e, _ => .error e
  | step s k, d =>
    match s.exec d with
    | .error e => .error e
    | .ok (b, w) => (k b).run (w d)

@[simp] lemma run_done (a : α) (d : D) : (done a : Txn D L E α).run d = .ok (a, d) := rfl

@[simp] lemma run_throw (e : E) (d : D) : (throw e : Txn D L E α).run d = .error e := rfl

variable {k : β → Txn D L E α} {d' d : D} {a : α}

lemma run_step_ok {s : Stmt D L E β} (h : (step s k).run d = .ok (a, d')) :
    ∃ b w, s.exec d = .ok (b, w) ∧ (k b).run (w d) = .ok (a, d') := by
  simp only [run] at h
  split at h
  · cases h
  · rename_i b w hb
    exact ⟨b, w, hb, h⟩

variable {x : Txn D L E α} {f : α → Txn D L E β} {s : Stmt D L E α} {b : β}

lemma run_bind_ok (h : (x >>= f).run d = .ok (b, d')) :
    ∃ a e, x.run d = .ok (a, e) ∧ (f a).run e = .ok (b, d') := by
  induction x generalizing d with
  | done a => exact ⟨a, d, rfl, h⟩
  | throw e => simp at h
  | step s k ih =>
    obtain ⟨c, w, hc, hk⟩ := run_step_ok h
    obtain ⟨a, e, ha, hf⟩ := ih c hk
    refine ⟨a, e, ?_, hf⟩
    simp only [run, hc]
    exact ha

lemma run_stmt_ok (h : (stmt s).run d = .ok (a, d')) : ∃ w, s.exec d = .ok (a, w) ∧ d' = w d := by
  obtain ⟨b, w, hb, hk⟩ := run_step_ok h
  obtain ⟨rfl, rfl⟩ := hk
  exact ⟨w, hb, rfl⟩

lemma run_stmt_bind (h : (stmt s >>= f).run d = .ok (b, d')) :
    ∃ a w, s.exec d = .ok (a, w) ∧ (f a).run (w d) = .ok (b, d') :=
  run_step_ok h

lemma run_discard {u : Unit}
    (h : (do let _ ← x : Txn D L E Unit).run d = .ok (u, d')) : ∃ a, x.run d = .ok (a, d') := by
  obtain ⟨a, e, hx, h⟩ := run_bind_ok h
  cases h
  exact ⟨a, hx⟩

lemma exists_run_ok (h : (x.run d).toOption.isSome) : ∃ a d', x.run d = .ok (a, d') := by
  cases hx : x.run d with
  | error e => simp [hx, Except.toOption] at h
  | ok r => exact ⟨r.1, r.2, rfl⟩

/-- The database after a call, successful or not: a failed transaction is rolled back. -/
def commit (x : Txn D L E α) (d : D) : D :=
  match x.run d with
  | .ok (_, d') => d'
  | .error _ => d

lemma commit_cases (x : Txn D L E α) (d : D) :
    (∃ a, x.run d = .ok (a, x.commit d)) ∨ x.commit d = d := by
  unfold commit
  split
  · rename_i a d' h
    exact Or.inl ⟨a, h⟩
  · exact Or.inr rfl

/-! ### Properties of all statements -/

/-- Every statement the program can reach satisfies `P`. -/
def All (P : (β : Type) → Stmt D L E β → Prop) : Txn D L E α → Prop
  | done _ => True
  | throw _ => True
  | step s k => P _ s ∧ ∀ b, (k b).All P

section

variable {P : (β : Type) → Stmt D L E β → Prop}

@[simp] lemma all_done (a : α) : (done a : Txn D L E α).All P := trivial

@[simp] lemma all_throw (e : E) : (throw e : Txn D L E α).All P := trivial

lemma all_step {s : Stmt D L E β} : (step s k).All P ↔ P _ s ∧ ∀ b, (k b).All P := Iff.rfl

lemma All.stmt (h : P _ s) : (Txn.stmt s).All P := ⟨h, fun _ => trivial⟩

lemma All.imp {Q : (β : Type) → Stmt D L E β → Prop}
    (h : ∀ β (s : Stmt D L E β), P β s → Q β s) (hx : x.All P) : x.All Q := by
  induction x with
  | done a => trivial
  | throw e => trivial
  | step s k ih => exact ⟨h _ s hx.1, fun b => ih b (hx.2 b)⟩

lemma All.bind (hx : x.All P) (hf : ∀ a, (f a).All P) : (x >>= f).All P := by
  induction x with
  | done a => exact hf a
  | throw e => trivial
  | step s k ih => exact ⟨hx.1, fun b => ih b (hx.2 b)⟩

/-- A statement first. -/
lemma All.seq (hs : P _ s) (hf : ∀ a, (f a).All P) : (Txn.stmt s >>= f).All P :=
  All.bind (All.stmt hs) hf

lemma all_of_forall (h : ∀ β (s : Stmt D L E β), P β s) (x : Txn D L E α) : x.All P := by
  induction x with
  | done a => trivial
  | throw e => trivial
  | step s k ih => exact ⟨h _ s, ih⟩

/-- A reflexive and transitive relation that every write keeps holds between the database
before a successful run and the database after it. -/
lemma All.run_rel {R : D → D → Prop} (hrefl : ∀ d, R d d)
    (htrans : ∀ {a b c}, R a b → R b c → R a c)
    (hx : x.All fun _ s => s.Writes fun w => ∀ d, R d (w d))
    (h : x.run d = .ok (a, d')) : R d d' := by
  induction x generalizing d with
  | done b =>
    simp only [run_done, Except.ok.injEq, Prod.mk.injEq] at h
    rw [← h.2]
    exact hrefl d
  | throw e => simp at h
  | step s k ih =>
    obtain ⟨b, w, hb, hk⟩ := run_step_ok h
    exact htrans (hx.1 d b w hb d) (ih b (hx.2 b) hk)

-- Unfolding `All` would run the program inside the elaborator.
attribute [irreducible] All

end

/-- Every error the program can end with satisfies `T`. -/
def Errors (T : E → Prop) : Txn D L E α → Prop
  | done _ => True
  | throw e => T e
  | step s k => s.Errors T ∧ ∀ b, (k b).Errors T

section

variable {T : E → Prop}

lemma Errors.stmt (h : s.Errors T) : (Txn.stmt s).Errors T :=
  ⟨h, fun _ => trivial⟩

lemma Errors.imp {T' : E → Prop} (hx : x.Errors T) (h : ∀ e, T e → T' e) : x.Errors T' := by
  induction x with
  | done a => trivial
  | throw e => exact h e hx
  | step s k ih => exact ⟨fun d e he => h e (hx.1 d e he), fun b => ih b (hx.2 b)⟩

lemma Errors.bind (hx : x.Errors T) (hf : ∀ a, (f a).Errors T) : (x >>= f).Errors T := by
  induction x with
  | done a => exact hf a
  | throw e => exact hx
  | step s k ih => exact ⟨hx.1, fun b => ih b (hx.2 b)⟩

lemma errors_of_forall (h : ∀ e, T e) (x : Txn D L E α) : x.Errors T := by
  induction x with
  | done a => trivial
  | throw e => exact h e
  | step s k ih => exact ⟨fun _ e _ => h e, ih⟩

end

end Txn

end Transaction
