import Mathlib

/-!
# A state in memory and its versioned document

A `Cell` keeps a state in memory and a copy of it as a document that carries a revision. A save
compares revisions first, so that it is refused once the document has moved on. A write that the
database carries out may still be reported as failed (`Write.unacknowledged`): the memory is then
behind its own document until a restart reads the document back.

Let `R` relate every state to the states that are saved over it, and every state to what a
restart makes of it.

* `Cell.Follows`: the document is the memory's, or that of a state reached from it along `R`.
* `Cell.Follows.save`, `Cell.Follows.restart`: the two operations keep it.
* `Cell.memory_save`, `Cell.Follows.memory_restart`: the memory only moves along `R`.
* `Cell.Saved`, `Cell.commit_save`: the three ways in which a save ends.
-/

namespace WriteThrough

open Relation

/-- How a write to the database ends. -/
inductive Write where
  | acknowledged
  | refused
  /-- the write was carried out, but its acknowledgement was lost -/
  | unacknowledged
  deriving DecidableEq

/-- Why a save fails. -/
inductive SaveError where
  | conflict
  | unavailable
  deriving DecidableEq

/-- How a critical section ends: with an answer and the state it leaves, or by saving `next` over
`base`. -/
inductive Section (μ ε α : Type) where
  | answer (memory : μ) (result : Except ε α)
  | save (base next : μ) (result : Except ε α)

/-- A state in memory, its document, and the revisions of both. -/
structure Cell (μ δ : Type) where
  memory : μ
  revision : ℕ
  document : δ
  documentRevision : ℕ

namespace Cell

variable {μ δ : Type} (dump : μ → δ) (view : δ → μ) (repair : δ → δ)

/-- Save a state. When it fails, the memory stays what it was. -/
def save (write : Write) (next : μ) (c : Cell μ δ) : Cell μ δ × Option SaveError :=
  if c.documentRevision = c.revision then
    match write with
    | .acknowledged => (⟨next, c.revision + 1, dump next, c.documentRevision + 1⟩, none)
    | .refused => (c, some .unavailable)
    | .unacknowledged =>
      ({ c with document := dump next, documentRevision := c.documentRevision + 1 },
        some .unavailable)
  else (c, some .conflict)

/-- Read the document back, repaired; a repaired document is written. -/
def restart [DecidableEq δ] (c : Cell μ δ) : Cell μ δ :=
  let revision := if repair c.document = c.document then c.documentRevision
    else c.documentRevision + 1
  ⟨view (repair c.document), revision, repair c.document, revision⟩

/-- Carry out a critical section. -/
def commit {ε α : Type} (saveError : ℕ → SaveError → ε) (write : Write) (c : Cell μ δ) :
    Section μ ε α → Cell μ δ × Except ε α
  | .answer memory result => ({ c with memory := memory }, result)
  | .save base next result =>
    match ({ c with memory := base } : Cell μ δ).save dump write next with
    | (c', none) => (c', result)
    | (c', some e) => (c', .error (saveError c.revision e))

/-- The document is that of the memory, or of a state reached from it. -/
def Follows (R : μ → μ → Prop) (c : Cell μ δ) : Prop :=
  ∃ d, c.document = dump d ∧
    (c.documentRevision = c.revision ∧ d = c.memory ∨
      c.documentRevision ≠ c.revision ∧ ReflTransGen R c.memory d)

variable {dump view repair} {R : μ → μ → Prop} {c : Cell μ δ}

lemma Follows.mono {S : μ → μ → Prop} (h : c.Follows dump R) (hRS : ∀ a b, R a b → S a b) :
    c.Follows dump S := by
  obtain ⟨d, hd, hstep | ⟨hrev, hpath⟩⟩ := h
  · exact ⟨d, hd, .inl hstep⟩
  · exact ⟨d, hd, .inr ⟨hrev, .mono hRS _ _ hpath⟩⟩

/-- The document belongs to a state reached from the memory. -/
lemma Follows.exists_path (h : c.Follows dump R) :
    ∃ d, c.document = dump d ∧ ReflTransGen R c.memory d := by
  obtain ⟨d, hd, ⟨-, rfl⟩ | ⟨-, hpath⟩⟩ := h
  · exact ⟨c.memory, hd, .refl⟩
  · exact ⟨d, hd, hpath⟩

lemma memory_save (write : Write) (next : μ) : (c.save dump write next).1.memory = c.memory ∨
      (c.save dump write next).1.memory = next := by
  unfold save
  split
  · cases write with
    | acknowledged => exact .inr rfl
    | refused => exact .inl rfl
    | unacknowledged => exact .inl rfl
  · exact .inl rfl

/-- The three ways in which a save of `next` ends. -/
inductive Saved (dump : μ → δ) (c : Cell μ δ) (write : Write) (next : μ) : Cell μ δ → Prop
  | acknowledged (hrev : c.documentRevision = c.revision) (hwrite : write = .acknowledged) :
      Saved dump c write next ⟨next, c.revision + 1, dump next, c.documentRevision + 1⟩
  | unacknowledged (hrev : c.documentRevision = c.revision) (hwrite : write = .unacknowledged) :
      Saved dump c write next ⟨c.memory, c.revision, dump next, c.documentRevision + 1⟩
  | failed (hfail : c.documentRevision ≠ c.revision ∨ write = .refused) :
      Saved dump c write next c

lemma saved_save (c : Cell μ δ) (write : Write) (next : μ) :
    Saved dump c write next (c.save dump write next).1 := by
  unfold save
  split
  · rename_i hrev
    cases write with
    | acknowledged => exact .acknowledged hrev rfl
    | refused => exact .failed (.inr rfl)
    | unacknowledged => exact .unacknowledged hrev rfl
  · rename_i hrev
    exact .failed (.inl hrev)

lemma commit_save {ε α : Type} (saveError : ℕ → SaveError → ε) (write : Write) (c : Cell μ δ)
    (next : μ) (result : Except ε α) :
    Saved dump c write next (c.commit dump saveError write (.save c.memory next result)).1 := by
  have h : Saved dump c write next (c.save dump write next).1 := saved_save c write next
  simp only [commit]
  split <;> rename_i hsave <;> rw [hsave] at h <;> exact h

/-- A save of a state that `R` allows. -/
lemma Follows.save (h : c.Follows dump R) (write : Write) {next : μ} (hnext : R c.memory next) :
    (c.save dump write next).1.Follows dump R := by
  unfold Cell.save
  split
  · rename_i hrev
    cases write with
    | acknowledged => exact ⟨next, rfl, .inl ⟨by simp [hrev], rfl⟩⟩
    | refused => exact h
    | unacknowledged =>
      exact ⟨next, rfl, .inr ⟨by simp [hrev], .single hnext⟩⟩
  · exact h

section

variable [DecidableEq δ]

lemma Follows.restart (hdump : ∀ d, dump (view (repair (dump d))) = repair (dump d))
    (h : c.Follows dump R) : (c.restart view repair).Follows dump R := by
  obtain ⟨d, hd, -⟩ := h
  refine ⟨view (repair c.document), ?_, .inl ⟨rfl, rfl⟩⟩
  rw [hd, hdump]
  simp [Cell.restart, hd]

/-- A restart moves the memory along `R`. -/
lemma Follows.memory_restart (hR : ∀ d, R d (view (repair (dump d)))) (h : c.Follows dump R) :
    ReflTransGen R c.memory (c.restart view repair).memory := by
  obtain ⟨d, hd, hpath⟩ := h.exists_path
  have hmem : (c.restart view repair).memory = view (repair (dump d)) := by
    simp [Cell.restart, hd]
  rw [hmem]
  exact hpath.tail (hR d)

end

end Cell

end WriteThrough
