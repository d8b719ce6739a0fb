import ModelPort.Lib.Transaction

/-!
# Interleaved transactions

Any number of transactions run at the same time, statement by statement. A statement sees the
committed database with the transaction's own writes on top, and it runs only when no other
transaction holds one of its locks; locks are held until the transaction ends. A commit applies
the writes to the database as it is then, and a transaction that fails or is aborted leaves no
trace.

* `Step`, `Reach`: the runs of the system.
* `Sys.Writing.step`: what holds of all writes of the calls that are started holds of all changes.
* `Protocol`: what commits keep (`inv`), what a commit may do given the locks it holds (`guar`),
  and what runs promise about a commit (`ok`, `apart`).
* `Protocol.Safe`: the weakest precondition of a transaction among others that follow the
  protocol. `Protocol.Triple`: its Hoare triples, with the invariant rule `Triple.of_all`.
* `Protocol.sound`: if every call is safe then every reachable state is.
-/

namespace Transaction

variable {D L E C α β : Type} {j : ℕ}

/-- A transaction in progress. -/
structure Session (D L E C : Type) : Type 1 where
  call : C
  /-- the locks it holds -/
  held : List L
  /-- its writes so far -/
  pending : D → D
  /-- the statements to come -/
  rest : Txn D L E Unit

/-- The committed database, the calls that committed it, newest first, and the transactions in
progress. -/
structure Sys (D L E C : Type) : Type 1 where
  committed : D
  log : List C
  sessions : ℕ → Option (Session D L E C)

namespace Sys

/-- A database nobody is working on. -/
def idle (d : D) : Sys D L E C := ⟨d, [], fun _ => none⟩

/-- The system with the transaction at `i` replaced. -/
def put (s : Sys D L E C) (i : ℕ) (t : Option (Session D L E C)) : Sys D L E C :=
  { s with sessions := fun j => if j = i then t else s.sessions j }

variable (s : Sys D L E C)

@[simp] lemma put_self (i : ℕ) (t : Option (Session D L E C)) :
    (s.put i t).sessions i = t := if_pos rfl

lemma put_ne {i : ℕ} (t : Option (Session D L E C)) (h : j ≠ i) :
    (s.put i t).sessions j = s.sessions j := if_neg h

/-- No transaction but `i` holds the lock. -/
def FreeFor (s : Sys D L E C) (i : ℕ) (l : L) : Prop :=
  ∀ j t, j ≠ i → s.sessions j = some t → l ∉ t.held

end Sys

/-- What happens in a step of the system. -/
inductive Label (C E : Type) where
  | start (i : ℕ) (call : C)
  | stmt (i : ℕ)
  | fail (i : ℕ) (e : E)
  | commit (i : ℕ)
  | abort (i : ℕ)
  deriving DecidableEq

/-- The transaction, its next statement executed with this result on the database `d`. -/
def Session.advance (t : Session D L E C) (st : Stmt D L E β) (k : β → Txn D L E Unit) (d : D)
    (b : β) (w : D → D) : Session D L E C where
  call := t.call
  held := st.locks (t.pending d) ++ t.held
  pending := w ∘ t.pending
  rest := k b

/-- The steps of the system, where `prog` gives the transaction of a call. -/
inductive Step (prog : C → Txn D L E Unit) : Sys D L E C → Label C E → Sys D L E C → Prop where
  | start {s : Sys D L E C} {i : ℕ} (call : C) (h : s.sessions i = none) :
      Step prog s (.start i call) (s.put i (some ⟨call, [], id, prog call⟩))
  | stmt {s : Sys D L E C} {i : ℕ} {t : Session D L E C} {β : Type} {st : Stmt D L E β}
      {k : β → Txn D L E Unit} {b : β} {w : D → D} (h : s.sessions i = some t)
      (hrest : t.rest = .step st k)
      (hfree : ∀ l ∈ st.locks (t.pending s.committed), s.FreeFor i l)
      (hexec : st.exec (t.pending s.committed) = .ok (b, w)) :
      Step prog s (.stmt i) (s.put i (some (t.advance st k s.committed b w)))
  | refuse {s : Sys D L E C} {i : ℕ} {t : Session D L E C} {β : Type} {st : Stmt D L E β}
      {k : β → Txn D L E Unit} {e : E} (h : s.sessions i = some t) (hrest : t.rest = .step st k)
      (hexec : st.exec (t.pending s.committed) = .error e) :
      Step prog s (.fail i e) (s.put i none)
  | throw {s : Sys D L E C} {i : ℕ} {t : Session D L E C} {e : E} (h : s.sessions i = some t)
      (hrest : t.rest = .throw e) : Step prog s (.fail i e) (s.put i none)
  | commit {s : Sys D L E C} {i : ℕ} {t : Session D L E C} (h : s.sessions i = some t)
      (hrest : t.rest = .done ()) :
      Step prog s (.commit i)
        { s.put i none with committed := t.pending s.committed, log := t.call :: s.log }
  | abort {s : Sys D L E C} {i : ℕ} {t : Session D L E C} (h : s.sessions i = some t) :
      Step prog s (.abort i) (s.put i none)

/-- The states reached from `s0` by steps that all meet a condition. -/
inductive Reach (prog : C → Txn D L E Unit) (cond : Sys D L E C → Label C E → Prop)
    (s0 : Sys D L E C) : Sys D L E C → Prop where
  | init : Reach prog cond s0 s0
  | step {s s' : Sys D L E C} {l : Label C E} (hs : Reach prog cond s0 s) (hcond : cond s l)
      (hstep : Step prog s l s') : Reach prog cond s0 s'

variable {s s' : Sys D L E C} {z : List C × D} {i : ℕ} {cond : Sys D L E C → Label C E → Prop}
  {t : Session D L E C} {prog : C → Txn D L E Unit} {l : Label C E}

lemma Reach.imp {cond' : Sys D L E C → Label C E → Prop}
    {s0 : Sys D L E C} (h : ∀ s l, cond s l → cond' s l) (hs : Reach prog cond s0 s) :
    Reach prog cond' s0 s := by
  induction hs with
  | init => exact .init
  | step _ hl hstep ih => exact ih.step (h _ _ hl) hstep

/-! ### Writes -/

/-- Every transaction in progress has written, and will write, as `W` says. -/
def Sys.Writing (W : (D → D) → Prop) (s : Sys D L E C) : Prop :=
  ∀ i t, s.sessions i = some t → W t.pending ∧ t.rest.All fun _ st => st.Writes W

namespace Sys.Writing

variable {W : (D → D) → Prop}

lemma mono {W' : (D → D) → Prop} (hW : ∀ w, W w → W' w) (h : s.Writing W) : s.Writing W' := by
  intro i t ht
  obtain ⟨hpend, hrest⟩ := h i t ht
  exact ⟨hW _ hpend, hrest.imp fun _ _ hst d b w hw => hW w (hst d b w hw)⟩

lemma put (h : s.Writing W) {t : Option (Session D L E C)}
    (ht : ∀ u, t = some u → W u.pending ∧ u.rest.All fun _ st => st.Writes W) :
    (s.put i t).Writing W := by
  intro j u hu
  by_cases hj : j = i
  · subst hj
    rw [put_self] at hu
    exact ht u hu
  · rw [put_ne _ _ hj] at hu
    exact h j u hu

/-- A step leaves the database as it is or applies a write to it. -/
lemma step (h : s.Writing W) (hid : W id) (hcomp : ∀ v w, W v → W w → W (w ∘ v))
    (hstart : ∀ i call, l = .start i call → (prog call).All fun _ st => st.Writes W)
    (hstep : Step prog s l s') :
    s'.Writing W ∧ (s'.committed = s.committed ∨ ∃ w, W w ∧ s'.committed = w s.committed) := by
  have hnone : ∀ u : Session D L E C, (none : Option (Session D L E C)) = some u →
      W u.pending ∧ u.rest.All fun _ st => st.Writes W := nofun
  cases hstep with
  | @start i call hfree =>
    refine ⟨h.put fun u hu => ?_, .inl rfl⟩
    cases hu
    exact ⟨hid, hstart i call rfl⟩
  | @stmt i t β st k b w ht hrest hfree hexec =>
    refine ⟨h.put fun u hu => ?_, .inl rfl⟩
    cases hu
    obtain ⟨hpend, hall⟩ := h i t ht
    rw [hrest, Txn.all_step] at hall
    exact ⟨hcomp t.pending w hpend (hall.1 _ b w hexec), hall.2 b⟩
  | refuse | throw | abort => exact ⟨h.put hnone, .inl rfl⟩
  | @commit i t ht hrest =>
    exact ⟨h.put hnone, .inr ⟨t.pending, (h i t ht).1, rfl⟩⟩

end Sys.Writing

/-! ### Protocols -/

/-- A protocol for transactions. `inv` and `guar` speak about the log and the database. -/
structure Protocol (D L E C : Type) where
  /-- what every commit keeps -/
  inv : List C → D → Prop
  /-- what the commit of a call that holds these locks may do -/
  guar : C → List L → List C → D → D → Prop
  /-- what runs promise about the database before the commit of a call and after it -/
  ok : C → List C → D → D → Prop
  /-- what runs promise, at the commit of a call, about another call in progress and the locks
  it holds -/
  apart : C → List C → D → C → List L → Prop
  /-- what the refusal of a call with an error says about the database -/
  refusal : C → E → List C → D → Prop

namespace Protocol

variable (P : Protocol D L E C)

/-- One commit of another transaction, seen by the transaction of `me` that holds `held`. -/
def Rely (me : C) (held : List L) (x y : List C × D) : Prop :=
  ∃ call locks, (∀ l ∈ locks, l ∉ held) ∧ P.ok call x.1 x.2 y.2 ∧
    P.apart call x.1 x.2 me held ∧ P.guar call locks x.1 x.2 y.2 ∧ y.1 = call :: x.1 ∧ P.inv y.1 y.2

/-- Any number of commits of other transactions. -/
def Relies (me : C) (held : List L) : List C × D → List C × D → Prop :=
  Relation.ReflTransGen (P.Rely me held)

/-- The transaction `x` of a call, with these locks and writes, is safe: whatever the others
commit, it is refused only as the protocol says, and ends with `Q`. -/
def Safe (call : C) : List L → (D → D) → Txn D L E α →
    (α → List L → (D → D) → List C × D → Prop) → List C × D → Prop
  | held, pend, .done a, Q, x => ∀ y, P.Relies call held x y → Q a held pend y
  | held, _, .throw e, _, x => ∀ y, P.Relies call held x y → P.refusal call e y.1 y.2
  | held, pend, .step st k, Q, x => ∀ y, P.Relies call held x y →
      (∀ b w, st.exec (pend y.2) = .ok (b, w) →
        Safe call (st.locks (pend y.2) ++ held) (w ∘ pend) (k b) Q y) ∧
      ∀ e, st.exec (pend y.2) = .error e → P.refusal call e y.1 y.2

/-- What has to hold when a transaction commits. -/
def Final (call : C) (_ : Unit) (held : List L) (pend : D → D) (x : List C × D) : Prop :=
  P.ok call x.1 x.2 (pend x.2) →
    P.guar call held x.1 x.2 (pend x.2) ∧ P.inv (call :: x.1) (pend x.2)

/-- An assertion of a transaction: about its locks and writes, the log and the database. -/
abbrev Assertion (D L C : Type) := List L → (D → D) → List C × D → Prop

/-- The commits of others keep the assertion. -/
def Stable (call : C) (A : Assertion D L C) : Prop :=
  ∀ held pend x y, A held pend x → P.Rely call held x y → A held pend y

/-- Wherever the assertion holds, the transaction is safe and ends with `Q`. -/
def Triple (call : C) (A : Assertion D L C) (x : Txn D L E α) (Q : α → Assertion D L C) : Prop :=
  ∀ held pend z, A held pend z → P.Safe call held pend x Q z

/-- Every call is safe from every state of the invariant. -/
def Follows (prog : C → Txn D L E Unit) : Prop :=
  ∀ call lg d, P.inv lg d → P.Safe call [] id (prog call) (P.Final call) (lg, d)

variable {P} {call : C} {held : List L} {pend : D → D} {e : E}

section

variable {A : Assertion D L C} {Q Q' : α → Assertion D L C} {x : Txn D L E α} {f : β → Txn D L E α}
  {y : List C × D} {a : α}

lemma safe_done :
    P.Safe call held pend (.done a) Q z ↔ ∀ y, P.Relies call held z y → Q a held pend y := Iff.rfl

lemma safe_throw : P.Safe call held pend (.throw e) Q z ↔
    ∀ y, P.Relies call held z y → P.refusal call e y.1 y.2 := Iff.rfl

lemma safe_step {st : Stmt D L E β} {k : β → Txn D L E α} :
    P.Safe call held pend (.step st k) Q z ↔ ∀ y, P.Relies call held z y →
      (∀ b w, st.exec (pend y.2) = .ok (b, w) →
        P.Safe call (st.locks (pend y.2) ++ held) (w ∘ pend) (k b) Q y) ∧
      ∀ e, st.exec (pend y.2) = .error e → P.refusal call e y.1 y.2 := Iff.rfl

-- Unfolding `Safe` would run the transaction inside the elaborator.
attribute [irreducible] Safe

/-- Safety survives the commits of others. -/
lemma Safe.relies (h : P.Safe call held pend x Q z)
    (hzy : P.Relies call held z y) : P.Safe call held pend x Q y := by
  cases x with
  | done a => exact safe_done.2 fun y' hy' => safe_done.1 h y' (hzy.trans hy')
  | throw e => exact safe_throw.2 fun y' hy' => safe_throw.1 h y' (hzy.trans hy')
  | step st k => exact safe_step.2 fun y' hy' => safe_step.1 h y' (hzy.trans hy')

/-- The rule of consequence. -/
lemma Safe.mono (h : P.Safe call held pend x Q z)
    (hQ : ∀ a held pend y, Q a held pend y → Q' a held pend y) :
    P.Safe call held pend x Q' z := by
  induction x generalizing held pend z with
  | done a => exact safe_done.2 fun y hy => hQ a held pend y (safe_done.1 h y hy)
  | throw e => exact safe_throw.2 (safe_throw.1 h)
  | step st k ih =>
    refine safe_step.2 fun y hy => ?_
    obtain ⟨hok, herr⟩ := safe_step.1 h y hy
    exact ⟨fun b w hb => ih b (hok b w hb), herr⟩

/-- Sequencing. -/
lemma Safe.bind {x : Txn D L E β}
    (h : P.Safe call held pend x (fun b held pend y => P.Safe call held pend (f b) Q y) z) :
    P.Safe call held pend (x >>= f) Q z := by
  induction x generalizing held pend z with
  | done b => exact safe_done.1 h z .refl
  | throw e => exact safe_throw.2 (safe_throw.1 h)
  | step st k ih =>
    refine safe_step.2 fun y hy => ?_
    obtain ⟨hok, herr⟩ := safe_step.1 h y hy
    exact ⟨fun b w hb => ih b (hok b w hb), herr⟩

/-- What one commit of others keeps, any number of them keep. -/
lemma Stable.relies (hA : P.Stable call A) (hzy : P.Relies call held z y)
    (hz : A held pend z) : A held pend y := by
  induction hzy with
  | refl => exact hz
  | tail _ hstep ih => exact hA _ _ _ _ ih hstep

lemma Stable.exists {ι : Type} {A : ι → Assertion D L C} (h : ∀ i, P.Stable call (A i)) :
    P.Stable call fun held pend y => ∃ i, A i held pend y :=
  fun _ _ _ _ ⟨i, hi⟩ hrely => ⟨i, h i _ _ _ _ hi hrely⟩

lemma Triple.mono (h : P.Triple call A x Q)
    (hQ : ∀ a held pend y, Q a held pend y → Q' a held pend y) : P.Triple call A x Q' :=
  fun held pend z hz => (h held pend z hz).mono hQ

/-- **Sequencing**, with an assertion in between. -/
lemma Triple.seq {R : β → Assertion D L C} {x : Txn D L E β}
    (h : P.Triple call A x R) (hf : ∀ b, P.Triple call (R b) (f b) Q) :
    P.Triple call A (x >>= f) Q :=
  fun held pend z hz => .bind ((h held pend z hz).mono hf)

lemma Triple.done (hA : P.Stable call A) (hQ : ∀ held pend y, A held pend y →
    Q a held pend y) : P.Triple call A (.done a) Q :=
  fun _ _ _ hz => safe_done.2 fun y hy => hQ _ _ y (hA.relies hy hz)

/-- **One statement**, from an assertion to another that the commits of others keep. -/
lemma Triple.stmt {st : Stmt D L E α} (hA : P.Stable call A) (hQ : ∀ b, P.Stable call (Q b))
    (hok : ∀ held pend y, A held pend y → ∀ b w, st.exec (pend y.2) = .ok (b, w) →
      Q b (st.locks (pend y.2) ++ held) (w ∘ pend) y)
    (herr : ∀ held pend y, A held pend y → ∀ e, st.exec (pend y.2) = .error e →
      P.refusal call e y.1 y.2) : P.Triple call A (Txn.stmt st) Q := by
  refine fun held pend z hz => safe_step.2 fun y hy => ?_
  have hAy := hA.relies hy hz
  exact ⟨fun b w hb => safe_done.2 fun y' hy' => (hQ b).relies hy' (hok _ _ y hAy b w hb),
    herr _ _ y hAy⟩

/-- **The invariant rule.** An assertion that the commits of others keep, and that every statement
of the transaction keeps, holds when the transaction ends. -/
lemma Triple.of_all (hstable : P.Stable call A)
    (href : x.Errors fun e => ∀ lg d, P.refusal call e lg d)
    (hx : x.All fun _ st => ∀ held pend y, A held pend y → ∀ b w,
      st.exec (pend y.2) = .ok (b, w) → A (st.locks (pend y.2) ++ held) (w ∘ pend) y) :
    P.Triple call A x fun _ => A := by
  intro held pend z h
  induction x generalizing held pend z with
  | done a => exact safe_done.2 fun y hy => hstable.relies hy h
  | throw e => exact safe_throw.2 fun y _ => href y.1 y.2
  | step st k ih =>
    refine safe_step.2 fun y hy => ?_
    refine ⟨fun b w hb => ih b (href.2 b) ((Txn.all_step.1 hx).2 b) _ _ _ ?_,
      fun e he => href.1 _ e he y.1 y.2⟩
    exact (Txn.all_step.1 hx).1 held pend y (hstable.relies hy h) b w hb

end

/-! ### Soundness -/

/-- The promise of a run at a step: at a commit, the protocol's promises hold. -/
def Promised (P : Protocol D L E C) (s : Sys D L E C) : Label C E → Prop
  | .commit i => ∀ t, s.sessions i = some t →
      P.ok t.call s.log s.committed (t.pending s.committed) ∧ ∀ j u, j ≠ i → s.sessions j = some u →
        P.apart t.call s.log s.committed u.call u.held
  | _ => True

/-- Every transaction in progress is safe, no lock is held twice, and the invariant holds. -/
structure Sound (P : Protocol D L E C) (s : Sys D L E C) : Prop where
  inv : P.inv s.log s.committed
  safe : ∀ i t, s.sessions i = some t →
    P.Safe t.call t.held t.pending t.rest (P.Final t.call) (s.log, s.committed)
  disjoint : ∀ i j t u, i ≠ j → s.sessions i = some t → s.sessions j = some u →
    ∀ l ∈ t.held, l ∉ u.held

variable {prog : C → Txn D L E Unit} {d : D}

lemma sound_idle (h : P.inv [] d) : P.Sound (Sys.idle d : Sys D L E C) where
  inv := h
  safe _ _ ht := nomatch ht
  disjoint _ _ _ _ _ ht := nomatch ht

/-- Ending a transaction without a commit. -/
lemma Sound.drop (h : P.Sound s) (i : ℕ) : P.Sound (s.put i none) := by
  have hsub : ∀ j t, (s.put i none).sessions j = some t → s.sessions j = some t := by
    intro j t ht
    by_cases hji : j = i
    · rw [hji, Sys.put_self] at ht
      cases ht
    · rwa [Sys.put_ne s none hji] at ht
  exact ⟨h.inv, fun j t ht => h.safe j t (hsub j t ht),
    fun j k t u hjk ht hu => h.disjoint j k t u hjk (hsub j t ht) (hsub k u hu)⟩

/-- Starting a transaction, or executing one of its statements. -/
lemma Sound.put (h : P.Sound s)
    (hsafe : P.Safe t.call t.held t.pending t.rest (P.Final t.call) (s.log, s.committed))
    (hfree : ∀ l ∈ t.held, s.FreeFor i l) : P.Sound (s.put i (some t)) := by
  refine ⟨h.inv, fun j u hu => ?_, fun j k u v hjk hu hv l hl hl' => ?_⟩
  · by_cases hji : j = i
    · rw [hji, Sys.put_self, Option.some.injEq] at hu
      rw [← hu]
      exact hsafe
    · rw [Sys.put_ne s _ hji] at hu
      exact h.safe j u hu
  · by_cases hji : j = i
    · have hki : k ≠ i := fun hki => hjk (hji.trans hki.symm)
      rw [hji, Sys.put_self, Option.some.injEq] at hu
      rw [Sys.put_ne s _ hki] at hv
      exact hfree l (hu ▸ hl) k v hki hv hl'
    · rw [Sys.put_ne s _ hji] at hu
      by_cases hki : k = i
      · rw [hki, Sys.put_self, Option.some.injEq] at hv
        exact hfree l (hv ▸ hl') j u hji hu hl
      · rw [Sys.put_ne s _ hki] at hv
        exact h.disjoint j k u v hjk hu hv l hl hl'

/-- A commit is what the others rely on. -/
lemma Sound.rely (h : P.Sound s) (ht : s.sessions i = some t) (hdone : t.rest = .done ())
    (hok : P.ok t.call s.log s.committed (t.pending s.committed)) {u : Session D L E C}
    (hji : j ≠ i) (hu : s.sessions j = some u)
    (hapart : P.apart t.call s.log s.committed u.call u.held) :
    P.Rely u.call u.held (s.log, s.committed) (t.call :: s.log, t.pending s.committed) := by
  have hfinal := h.safe i t ht
  rw [hdone] at hfinal
  have hcomm := safe_done.1 hfinal (s.log, s.committed) .refl hok
  exact ⟨t.call, t.held, h.disjoint i j t u (.symm hji) ht hu, hok, hapart, hcomm.1, rfl, hcomm.2⟩

/-- **A step of the system keeps it sound.** -/
lemma Sound.step (hprog : P.Follows prog) (h : P.Sound s)
    (hprom : P.Promised s l) (hstep : Step prog s l s') : P.Sound s' := by
  cases hstep with
  | start call hnone => exact h.put (hprog call s.log s.committed h.inv) (by simp)
  | @stmt i t _ st k b w ht hrest hfree hexec =>
    have hsafe := h.safe i t ht
    rw [hrest] at hsafe
    refine h.put ((safe_step.1 hsafe _ .refl).1 b w hexec) (List.forall_mem_append.2 ⟨hfree, ?_⟩)
    exact fun l hl j u hji hu => h.disjoint i j t u (.symm hji) ht hu l hl
  | refuse ht hrest hexec => exact h.drop _
  | throw ht hrest => exact h.drop _
  | @commit i t ht hrest =>
    obtain ⟨hok, hapart⟩ := hprom t ht
    have hfinal := h.safe i t ht
    rw [hrest] at hfinal
    have hdrop := h.drop i
    refine ⟨(safe_done.1 hfinal (s.log, s.committed) .refl hok).2, fun j u hu => ?_, hdrop.disjoint⟩
    have hji : j ≠ i := by
      intro hji
      rw [hji] at hu
      simp at hu
    have hu' : s.sessions j = some u := by
      have := Sys.put_ne s none hji
      exact this ▸ hu
    exact (h.safe j u hu').relies (.single (h.rely ht hrest hok hji hu' (hapart j u hji hu')))
  | abort ht => exact h.drop _

/-- A run keeps the system sound. -/
lemma Sound.reach (hprog : P.Follows prog) (h : P.Sound s) (hs : Reach prog P.Promised s s') :
    P.Sound s' := by
  induction hs with
  | init => exact h
  | step _ hl hstep ih => exact ih.step hprog hl hstep

/-- **Soundness.** If the calls follow the protocol, then every state that a run keeping its
promises can reach is sound. -/
theorem sound (hprog : P.Follows prog) (hd : P.inv [] d)
    (hs : Reach prog P.Promised (Sys.idle d) s) : P.Sound s :=
  (sound_idle hd).reach hprog hs

/-- What a commit of a sound system does. -/
lemma Sound.commit (h : P.Sound s)
    (ht : s.sessions i = some t) (hprom : P.Promised s (.commit i))
    (hstep : Step prog s (.commit i) s') :
    s'.log = t.call :: s.log ∧ P.guar t.call t.held s.log s.committed s'.committed := by
  cases hstep with
  | @commit _ t' ht' hrest =>
    obtain rfl : t = t' := Option.some.inj (ht.symm.trans ht')
    have hfinal := h.safe i t ht
    rw [hrest] at hfinal
    exact ⟨rfl, (safe_done.1 hfinal (s.log, s.committed) .refl (hprom t ht).1).1⟩

/-- What every commit keeps that the protocol allows, a run keeps. -/
lemma Sound.keeps (hprog : P.Follows prog) {K : D → Prop}
    (hK : ∀ call locks lg d d', P.guar call locks lg d d' → K d → K d') (h : P.Sound s)
    (hs : Reach prog P.Promised s s') (hkeep : K s.committed) : K s'.committed := by
  induction hs with
  | init => exact hkeep
  | step hs hl hstep ih =>
    have hsound := h.reach hprog hs
    cases hstep with
    | commit ht hrest =>
      have hcomm : Step prog _ (.commit _) _ := .commit ht hrest
      exact hK _ _ _ _ _ (hsound.commit ht hl hcomm).2 ih
    | start _ _ => exact ih
    | stmt _ _ _ _ => exact ih
    | refuse _ _ _ => exact ih
    | throw _ _ => exact ih
    | abort _ => exact ih

/-- What a refusal in a sound system says. -/
lemma Sound.refused (h : P.Sound s) (ht : s.sessions i = some t)
    (hstep : Step prog s (.fail i e) s') : P.refusal t.call e s.log s.committed := by
  cases hstep with
  | @refuse _ t' _ st k _ ht' hrest hexec =>
    obtain rfl : t = t' := Option.some.inj (ht.symm.trans ht')
    have hsafe := h.safe i t ht
    rw [hrest] at hsafe
    exact (safe_step.1 hsafe _ .refl).2 e hexec
  | @throw _ t' _ ht' hrest =>
    obtain rfl : t = t' := Option.some.inj (ht.symm.trans ht')
    have hsafe := h.safe i t ht
    rw [hrest] at hsafe
    exact safe_throw.1 hsafe _ .refl

end Protocol

end Transaction
