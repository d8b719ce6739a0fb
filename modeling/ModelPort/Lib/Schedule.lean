import ModelPort.Lib.Interleaving

/-!
# Executing a schedule

* `Sys.move`: one transaction starts, or goes on with its next statement.
* `Sys.play`: a schedule of moves that keep the promises of a protocol.
* `exists_reach`, `exists_step`: what a schedule computes is reached.
* `play_run`: the same in a larger system, which may restrict what is started.
* `exists_run`: the same without promises.
-/

namespace Transaction

open Option

variable {D L E C : Type}

/-- A move of a schedule: start a call, or let a transaction go on. -/
inductive Move (C : Type) where
  | start (i : ℕ) (call : C)
  | go (i : ℕ)

namespace Sys

section

variable [DecidableEq L] (prog : C → Txn D L E Unit) (n : ℕ)

/-- Among the first `n` transactions none but `i` holds one of the locks. -/
def freeBelow (s : Sys D L E C) (i : ℕ) (locks : List L) : Bool :=
  (List.range n).all fun j => j == i || (s.sessions j).all fun t => locks.all (· ∉ t.held)

/-- The next step of the transaction at `i`. -/
def go (s : Sys D L E C) (i : ℕ) (t : Session D L E C) : Option (Label C E × Sys D L E C) :=
  match t.rest with
  | .done () => some (.commit i,
      { s.put i none with committed := t.pending s.committed, log := t.call :: s.log })
  | .throw e => some (.fail i e, s.put i none)
  | .step st k =>
    match st.exec (t.pending s.committed) with
    | .error e => some (.fail i e, s.put i none)
    | .ok (b, w) =>
      if s.freeBelow n i (st.locks (t.pending s.committed)) then
        some (.stmt i, s.put i (some (t.advance st k s.committed b w)))
      else none

/-- One move, among `n` transactions. -/
def move (s : Sys D L E C) : Move C → Option (Label C E × Sys D L E C)
  | .start i call =>
    if i < n ∧ (s.sessions i).isNone then
      some (.start i call, s.put i (some ⟨call, [], id, prog call⟩))
    else none
  | .go i => (s.sessions i).bind (s.go n i)

variable (P : Protocol D L E C) [∀ c lg d d', Decidable (P.ok c lg d d')]
  [∀ c lg d me held, Decidable (P.apart c lg d me held)]

/-- The promises of a protocol at a step, among `n` transactions. -/
def promises (s : Sys D L E C) : Label C E → Bool
  | .commit i => (s.sessions i).all fun t =>
    P.ok t.call s.log s.committed (t.pending s.committed) && (List.range n).all fun j =>
      j == i || (s.sessions j).all fun u => P.apart t.call s.log s.committed u.call u.held
  | _ => true

/-- A schedule of moves that all keep the promises. -/
def play : Sys D L E C → List (Move C) → Option (Sys D L E C)
  | s, [] => some s
  | s, m :: moves => (s.move prog n m).bind fun next =>
    if s.promises n P next.1 then play next.2 moves else none

end

/-- Only the first `n` transactions are in use. -/
def Within (n : ℕ) (s : Sys D L E C) : Prop := ∀ i, n ≤ i → s.sessions i = none

variable {i : ℕ}

lemma Within.put {n : ℕ} {s : Sys D L E C} (h : s.Within n) {t : Option (Session D L E C)}
    (hi : i < n ∨ t = none) : (s.put i t).Within n := by
  intro j hj
  by_cases hji : j = i
  · rcases hi with hi | rfl
    · omega
    · rw [hji, put_self]
  · rw [put_ne s t hji, h j hj]

variable {p : Sys D L E C → Prop} {d : D}

section

variable [DecidableEq L] {prog : C → Txn D L E Unit} {n : ℕ} {s s' : Sys D L E C} {l : Label C E}
  {t : Session D L E C}

lemma freeBelow_spec (h : s.Within n) {locks : List L}
    (hfree : s.freeBelow n i locks) : ∀ l ∈ locks, s.FreeFor i l := by
  intro l hl j t hji ht
  by_cases hj : j < n
  · have := List.all_eq_true.1 hfree j (List.mem_range.2 hj)
    simp only [ht, all_some, Bool.or_eq_true, beq_iff_eq, hji, false_or, List.all_eq_true] at this
    simpa using this l hl
  · rw [h j (by omega)] at ht
    cases ht

lemma go_step (h : s.Within n) (ht : s.sessions i = some t)
    (hgo : s.go n i t = some (l, s')) :
    Step prog s l s' ∧ s'.Within n ∧ ∀ j call, l ≠ .start j call := by
  have hi : i < n := by
    by_contra hi
    rw [h i (by omega)] at ht
    cases ht
  unfold go at hgo
  split at hgo
  · rename_i hrest
    obtain ⟨rfl, rfl⟩ := Prod.mk.inj (Option.some.inj hgo)
    exact ⟨.commit ht hrest, h.put (Or.inl hi), nofun⟩
  · rename_i hrest
    obtain ⟨rfl, rfl⟩ := Prod.mk.inj (Option.some.inj hgo)
    exact ⟨.throw ht hrest, h.put (Or.inl hi), nofun⟩
  · rename_i hrest
    split at hgo
    · rename_i hexec
      obtain ⟨rfl, rfl⟩ := Prod.mk.inj (Option.some.inj hgo)
      exact ⟨.refuse ht hrest hexec, h.put (Or.inl hi), nofun⟩
    · rename_i hexec
      split at hgo
      · rename_i hfree
        obtain ⟨rfl, rfl⟩ := Prod.mk.inj (Option.some.inj hgo)
        exact ⟨.stmt ht hrest (freeBelow_spec h hfree) hexec, h.put (Or.inl hi), nofun⟩
      · cases hgo

lemma move_step (h : s.Within n) {m : Move C}
    (hmove : s.move prog n m = some (l, s')) :
    Step prog s l s' ∧ s'.Within n ∧ ∀ j call, l = .start j call → m = .start j call := by
  cases m with
  | start i call =>
    simp only [move] at hmove
    split at hmove
    · rename_i hfree
      obtain ⟨rfl, rfl⟩ := Prod.mk.inj (Option.some.inj hmove)
      refine ⟨.start call (isNone_iff_eq_none.1 hfree.2), h.put (Or.inl hfree.1), ?_⟩
      rintro j call ⟨⟩
      rfl
    · cases hmove
  | go i =>
    obtain ⟨t, ht, hgo⟩ := bind_eq_some_iff.1 hmove
    obtain ⟨hstep, hwith, hlabel⟩ := go_step h ht hgo
    exact ⟨hstep, hwith, fun j call hl => absurd hl (hlabel j call)⟩

variable {P : Protocol D L E C} [∀ c lg d d', Decidable (P.ok c lg d d')]
  [∀ c lg d me held, Decidable (P.apart c lg d me held)] {s0 : Sys D L E C}

omit [DecidableEq L] in
lemma promises_spec (h : s.Within n) (hl : s.promises n P l) : P.Promised s l := by
  cases l with
  | commit i =>
    intro t ht
    simp only [promises, ht, all_some, Bool.and_eq_true, decide_eq_true_eq, List.all_eq_true] at hl
    refine ⟨hl.1, fun j u hji hu => ?_⟩
    by_cases hj : j < n
    · have := hl.2 j (List.mem_range.2 hj)
      simpa [hji, hu] using this
    · rw [h j (by omega)] at hu
      cases hu
  | start i call => trivial
  | stmt i => trivial
  | fail i e => trivial
  | abort i => trivial

/-- A schedule whose moves keep the promises is a run. -/
lemma play_reach {moves : List (Move C)} (hs : Reach prog P.Promised s0 s) (h : s.Within n)
    (hplay : s.play prog n P moves = some s') : Reach prog P.Promised s0 s' ∧ s'.Within n := by
  induction moves generalizing s with
  | nil =>
    obtain rfl := Option.some.inj hplay
    exact ⟨hs, h⟩
  | cons m moves ih =>
    obtain ⟨⟨l, t⟩, hmove, hplay⟩ := bind_eq_some_iff.1 hplay
    obtain ⟨hstep, ht, -⟩ := move_step h hmove
    split at hplay
    · rename_i hl
      exact ih (hs.step (promises_spec h hl) hstep) ht hplay
    · cases hplay

/-- A schedule is a run of any system whose steps include those of the transactions, if it starts
only what may be started there. -/
lemma play_run {R : Sys D L E C → Sys D L E C → Prop} {ok : C → Prop}
    (hR : ∀ s l s', Step prog s l s' → (∀ j call, l = .start j call → ok call) → R s s')
    {moves : List (Move C)} (hmoves : ∀ j call, .start j call ∈ moves → ok call)
    (h : s.Within n) (hplay : s.play prog n P moves = some s') :
    Relation.ReflTransGen R s s' := by
  induction moves generalizing s with
  | nil =>
    obtain rfl := Option.some.inj hplay
    exact .refl
  | cons m moves ih =>
    obtain ⟨⟨l, t⟩, hmove, hplay⟩ := bind_eq_some_iff.1 hplay
    obtain ⟨hstep, ht, hlabel⟩ := move_step h hmove
    have hok : ∀ j call, l = .start j call → ok call := fun j call hl =>
      hmoves j call (hlabel j call hl ▸ List.mem_cons_self)
    split at hplay
    · exact .head (hR s l t hstep hok)
        (ih (fun j call hmem => hmoves j call (List.mem_cons_of_mem _ hmem)) ht hplay)
    · cases hplay

/-- **What a schedule computes is reached.** -/
lemma exists_reach (n : ℕ) (moves : List (Move C))
    [DecidablePred p] (h : ((Sys.idle d).play prog n P moves).any fun s => p s) :
    ∃ s, Reach prog P.Promised (Sys.idle d) s ∧ p s := by
  obtain ⟨s, hplay, hp⟩ := (any_eq_true _ _).1 h
  exact ⟨s, (play_reach .init (fun _ _ => rfl) hplay).1, of_decide_eq_true hp⟩

/-- What a schedule computes is reached, and so is the state one move later. -/
lemma exists_step (n : ℕ) (moves : List (Move C)) (m : Move C)
    {p : Sys D L E C → Label C E → Sys D L E C → Prop} [∀ s l s', Decidable (p s l s')]
    (h : ((Sys.idle d).play prog n P moves).any fun s =>
      (s.move prog n m).any fun next => s.promises n P next.1 && p s next.1 next.2) :
    ∃ s l s', Reach prog P.Promised (Sys.idle d) s ∧ P.Promised s l ∧ Step prog s l s' ∧
      p s l s' := by
  obtain ⟨s, hplay, hmove⟩ := (any_eq_true _ _).1 h
  obtain ⟨⟨l, s'⟩, hmove, hp⟩ := (any_eq_true _ _).1 hmove
  simp only [Bool.and_eq_true, decide_eq_true_eq] at hp
  obtain ⟨hs, hwith⟩ := play_reach .init (fun _ _ => rfl) hplay
  exact ⟨s, l, s', hs, promises_spec hwith hp.1, (move_step hwith hmove).1, hp.2⟩

end

/-- The protocol that asks for nothing. -/
def unrestricted : Protocol D L E C where
  inv _ _ := True
  guar _ _ _ _ _ := True
  ok _ _ _ _ := True
  apart _ _ _ _ _ := True
  refusal _ _ _ _ := True

instance (c : C) (lg : List C) (d d' : D) :
    Decidable ((unrestricted : Protocol D L E C).ok c lg d d') :=
  .isTrue trivial

instance (c me : C) (lg : List C) (d : D) (held : List L) :
    Decidable ((unrestricted : Protocol D L E C).apart c lg d me held) :=
  .isTrue trivial

/-- What a schedule computes is reached, whatever its moves are. -/
lemma exists_run [DecidableEq L] {prog : C → Txn D L E Unit} (n : ℕ) (moves : List (Move C))
    [DecidablePred p] (h : ((Sys.idle d).play prog n unrestricted moves).any fun s => p s) :
    ∃ s, Reach prog (fun _ _ => True) (Sys.idle d) s ∧ p s := by
  obtain ⟨s, hs, hp⟩ := exists_reach n moves h
  exact ⟨s, hs.imp fun _ _ _ => trivial, hp⟩

end Sys

end Transaction
