import ModelPort.Lib.Table
import ModelPort.Lib.Transaction

/-!
# SQL statements over keyed tables

The statements of a transaction on a database whose tables are reached through lenses. An
`UPDATE` locks the rows it selects and rewrites exactly these rows, wherever the write is
applied later; an `INSERT` locks the keys of its row. Each statement comes with the lemma that
says what it does when executed on a view.

* `select`: a read of one snapshot, without locks.
* `updateWhere`: `UPDATE … SET f WHERE p RETURNING *`, with the `CHECK`s of the table.
* `insertRow`: `INSERT`, failing on a taken key.
* `insertOrIgnore`: `INSERT … ON CONFLICT DO NOTHING`, returning whether a row was added.
* `lockOnly`: an explicit lock, such as an advisory lock.
-/

namespace Relational

open Transaction List

/-- A table of a database: how to read it and how to replace it. -/
structure Lens (D S : Type) where
  get : D → S
  set : S → D → D
  get_set : ∀ s d, get (set s d) = s
  set_get : ∀ d, set (get d) d = d

attribute [simp] Lens.get_set Lens.set_get

variable {D L E α ρ κ β : Type} {keys : ρ → List κ} {s : Stmt D L E α} {check : ρ → Except E Unit}
  {guard : D → Except E Unit} {w : D → D} {g : D → Except E α} {T' : E → Prop} {d : D} {l : List ρ}

/-! ### Reads and locks -/

/-- A `SELECT`: the value of `g` in the snapshot, or an error in evaluating it. -/
def select (g : D → Except E α) : Stmt D L E α where
  locks _ := []
  exec d := (g d).map fun a => (a, id)

/-- A `SELECT … FOR UPDATE`: the rows that satisfy `p`, which stay locked. -/
def selectForUpdate (T : Lens D (Table keys)) (lock : ρ → L) (p : ρ → Bool) :
    Stmt D L E (List ρ) where
  locks d := ((T.get d).rows.filter p).map lock
  exec d := .ok ((T.get d).rows.filter p, id)

/-- A statement that only takes locks. -/
def lockOnly (ls : List L) : Stmt D L E Unit where
  locks _ := ls
  exec _ := .ok ((), id)

/-- A statement whose result is checked by the process before anything else happens. -/
def checked {β : Type} (s : Stmt D L E α) (check : α → Except E β) : Stmt D L E β where
  locks := s.locks
  exec d :=
    match s.exec d with
    | .error e => .error e
    | .ok (a, w) =>
      match check a with
      | .error e => .error e
      | .ok b => .ok (b, w)

/-- A statement whose evaluation can fail before it selects any row. -/
def guarded (guard : D → Except E Unit) (s : Stmt D L E α) : Stmt D L E α where
  locks := s.locks
  exec d :=
    match guard d with
    | .error e => .error e
    | .ok () => s.exec d

lemma guarded_exec {r : α × (D → D)} (h : (guarded guard s).exec d = .ok r) : s.exec d = .ok r := by
  simp only [guarded] at h
  split at h
  · cases h
  · exact h

lemma select_exec {a : α}
    (h : (select g : Stmt D L E α).exec d = .ok (a, w)) : g d = .ok a ∧ w = id := by
  unfold select at h
  cases hg : g d with
  | error e => simp [hg, Except.map] at h
  | ok b =>
    simp only [hg] at h
    obtain ⟨rfl, rfl⟩ := h
    exact ⟨rfl, rfl⟩

lemma checked_exec {check : α → Except E β} {b : β} (h : (checked s check).exec d = .ok (b, w)) :
    ∃ a, s.exec d = .ok (a, w) ∧ check a = .ok b := by
  simp only [checked] at h
  split at h
  · cases h
  · rename_i a w' ha
    split at h
    · cases h
    · rename_i b' hb
      obtain ⟨rfl, rfl⟩ := h
      exact ⟨a, ha, hb⟩

section

variable {W : (D → D) → Prop}

lemma select_writes (hid : W id) (g : D → Except E α) : (select g : Stmt D L E α).Writes W := by
  intro d a w h
  rw [(select_exec h).2]
  exact hid

lemma selectForUpdate_writes (hid : W id) (T : Lens D (Table keys)) (lock : ρ → L)
    (p : ρ → Bool) : (selectForUpdate T lock p : Stmt D L E (List ρ)).Writes W := by
  intro d a w h
  simp only [selectForUpdate, Except.ok.injEq, Prod.mk.injEq] at h
  rw [← h.2]
  exact hid

lemma lockOnly_writes (hid : W id) (ls : List L) : (lockOnly ls : Stmt D L E Unit).Writes W := by
  intro d a w h
  simp only [lockOnly, Except.ok.injEq, Prod.mk.injEq] at h
  rw [← h.2]
  exact hid

lemma checked_writes (hs : s.Writes W) (check : α → Except E β) : (checked s check).Writes W := by
  intro d b w h
  obtain ⟨a, ha, -⟩ := checked_exec h
  exact hs d a w ha

lemma guarded_writes (hs : s.Writes W) (guard : D → Except E Unit) : (guarded guard s).Writes W :=
  fun d b w h => hs d b w (guarded_exec h)

end

section

variable {T : E → Prop}

lemma select_errors (h : ∀ d e, g d = .error e → T e) : (select g : Stmt D L E α).Errors T := by
  intro d e he
  unfold select at he
  cases hg : g d with
  | error e' =>
    simp only [hg, Except.map, Except.error.injEq] at he
    exact he ▸ h d e' hg
  | ok a => simp [hg, Except.map] at he

lemma checked_errors {check : α → Except E β} (hs : s.Errors T)
    (hcheck : ∀ a e, check a = .error e → T e) : (checked s check).Errors T := by
  intro d e he
  simp only [checked] at he
  split at he
  · rename_i e' hs'
    rw [Except.error.injEq] at he
    exact he ▸ hs d e' hs'
  · split at he
    · rename_i e' hc
      rw [Except.error.injEq] at he
      exact he ▸ hcheck _ e' hc
    · cases he

lemma guarded_errors (hs : s.Errors T)
    (hguard : ∀ d e, guard d = .error e → T e) : (guarded guard s).Errors T := by
  intro d e he
  simp only [guarded] at he
  split at he
  · rename_i e' hg
    rw [Except.error.injEq] at he
    exact he ▸ hguard d e' hg
  · exact hs d e he

end

/-! ### Updates -/

lemma forM_ok (h : l.forM check = .ok ()) : ∀ r ∈ l, check r = .ok () := by
  induction l with
  | nil => simp
  | cons a l ih =>
    change (check a >>= fun _ => l.forM check) = .ok () at h
    cases ha : check a with
    | error e => rw [ha] at h; cases h
    | ok u =>
      rw [ha] at h
      exact forall_mem_cons.2 ⟨ha, ih h⟩

lemma forM_error {e : E} (h : l.forM check = .error e) : ∃ r, check r = .error e := by
  induction l with
  | nil => cases h
  | cons a l ih =>
    change (check a >>= fun _ => l.forM check) = .error e at h
    cases ha : check a with
    | error e' =>
      rw [ha] at h
      exact ⟨a, ha.trans h⟩
    | ok u =>
      rw [ha] at h
      exact ih h

section

variable [DecidableEq L] (T : Lens D (Table keys)) (lock : ρ → L)

/-- `UPDATE … SET f WHERE p RETURNING *`. `check` is the table's `CHECK` on the new rows. The
write rewrites the rows selected here, also when it is applied to a later database. -/
def updateWhere (p : ρ → Bool) (f : ρ → ρ) (hf : ∀ r, keys (f r) = keys r)
    (check : ρ → Except E Unit) : Stmt D L E (List ρ) where
  locks d := ((T.get d).rows.filter p).map lock
  exec d :=
    let sel := (T.get d).rows.filter p
    match sel.forM (fun r => check (f r)) with
    | .error e => .error e
    | .ok () =>
      .ok (sel.map f, fun d' =>
        T.set ((T.get d').update (fun r => sel.any fun s => lock s == lock r) f hf) d')

variable {T lock} {p : ρ → Bool} {f : ρ → ρ} {hf : ∀ r, keys (f r) = keys r}
  {check : ρ → Except E Unit} {d : D} {rs : List ρ} {w : D → D}

/-- The write of an `UPDATE`, on any database: the rows it locked are rewritten. -/
lemma updateWhere_write (h : (updateWhere T lock p f hf check).exec d = .ok (rs, w)) :
    w = fun d' => T.set ((T.get d').update
      (fun r => ((T.get d).rows.filter p).any fun s => lock s == lock r) f hf) d' := by
  simp only [updateWhere] at h
  split at h
  · cases h
  · simp only [Except.ok.injEq, Prod.mk.injEq] at h
    exact h.2.symm

lemma updateWhere_writes {W : (D → D) → Prop}
    (hW : ∀ q, W fun d => T.set ((T.get d).update q f hf) d) :
    (updateWhere T lock p f hf check).Writes W := by
  intro d rs w h
  rw [updateWhere_write h]
  exact hW _

lemma updateWhere_rows (h : (updateWhere T lock p f hf check).exec d = .ok (rs, w)) :
    rs = ((T.get d).rows.filter p).map f ∧ ∀ r ∈ (T.get d).rows.filter p, check (f r) = .ok () := by
  simp only [updateWhere] at h
  split at h
  · cases h
  · rename_i hcheck
    simp only [Except.ok.injEq, Prod.mk.injEq] at h
    exact ⟨h.1.symm, forM_ok hcheck⟩

/-- On the view it was computed from, the write of an `UPDATE` is the update itself. -/
lemma updateWhere_exec (hlock : ∀ a ∈ (T.get d).rows, ∀ b ∈ (T.get d).rows, lock a = lock b → a = b)
    (h : (updateWhere T lock p f hf check).exec d = .ok (rs, w)) :
    rs = ((T.get d).rows.filter p).map f ∧ w d = T.set ((T.get d).update p f hf) d ∧
      ∀ r ∈ (T.get d).rows.filter p, check (f r) = .ok () := by
  obtain ⟨hrs, hcheck⟩ := updateWhere_rows h
  refine ⟨hrs, ?_, hcheck⟩
  rw [updateWhere_write h]
  refine congrArg (T.set · d) (Table.ext (map_congr_left fun r hr => ?_))
  have hsel : (((T.get d).rows.filter p).any fun s => lock s == lock r) = p r := by
    rw [Bool.eq_iff_iff, any_eq_true]
    constructor
    · rintro ⟨s, hs, hsr⟩
      obtain ⟨hmem, hps⟩ := mem_filter.1 hs
      rwa [← hlock s hmem r hr (by simpa using hsr)]
    · intro hp
      exact ⟨r, mem_filter.2 ⟨hr, hp⟩, by simp⟩
  simp only [Table.assign, hsel]

/-- **The write of an `UPDATE` by key**: nothing if it has selected no row, and otherwise the
update of that key, on any database. -/
lemma updateWhere_write_key {q : ρ → Bool} (hq : ∀ r, p r → ∀ s, (lock r == lock s) = q s)
    (h : (updateWhere T lock p f hf check).exec d = .ok (rs, w)) :
    ((T.get d).rows.filter p = [] ∧ w = id) ∨
      ((T.get d).rows.filter p ≠ [] ∧ w = fun d' => T.set ((T.get d').update q f hf) d') := by
  rw [updateWhere_write h]
  cases hsel : (T.get d).rows.filter p with
  | nil =>
    refine Or.inl ⟨rfl, funext fun d' => ?_⟩
    rw [Table.update_eq_self (by simp), Lens.set_get]
    rfl
  | cons r rest =>
    have hany : (fun s => (r :: rest).any fun t => lock t == lock s) = q := by
      funext s
      have hmem : ∀ t ∈ r :: rest, (lock t == lock s) = q s := fun t ht =>
        hq t (mem_filter.1 (hsel ▸ ht)).2 s
      rw [Bool.eq_iff_iff, any_eq_true]
      constructor
      · rintro ⟨t, ht, heq⟩
        rwa [← hmem t ht]
      · intro hqs
        exact ⟨r, mem_cons_self, by rwa [hmem r mem_cons_self]⟩
    refine Or.inr ⟨cons_ne_nil r rest, ?_⟩
    simp only [hany]

lemma updateWhere_errors (hcheck : ∀ r e, check r = .error e → T' e) :
    (updateWhere T lock p f hf check).Errors T' := by
  intro d e he
  simp only [updateWhere] at he
  split at he
  · rename_i e' hforM
    rw [Except.error.injEq] at he
    obtain ⟨r, hr⟩ := forM_error hforM
    exact he ▸ hcheck (f r) e' hr
  · cases he

end

/-! ### Insertions -/

section

variable [DecidableEq κ] (T : Lens D (Table keys)) (lock : κ → L)

/-- `INSERT`: fails with `taken` when a key of the row is in use. -/
def insertRow (r : ρ) (taken : E) : Stmt D L E Unit where
  locks _ := (keys r).map lock
  exec d :=
    if (T.get d).Free r then .ok ((), fun d' => T.set ((T.get d').insert r) d')
    else .error taken

/-- `INSERT … ON CONFLICT DO NOTHING`: whether the row was added. -/
def insertOrIgnore (r : ρ) : Stmt D L E Bool where
  locks d := if (T.get d).Free r then (keys r).map lock else []
  exec d :=
    if (T.get d).Free r then .ok (true, fun d' => T.set ((T.get d').insert r) d')
    else .ok (false, id)

variable {T lock} {r : ρ} {taken : E}

lemma insertRow_exec {u : Unit} (h : (insertRow T lock r taken).exec d = .ok (u, w)) :
    (T.get d).Free r ∧ w = fun d' => T.set ((T.get d').insert r) d' := by
  simp only [insertRow] at h
  split at h
  · rename_i hfree
    simp only [Except.ok.injEq, Prod.mk.injEq] at h
    exact ⟨hfree, h.2.symm⟩
  · cases h

lemma insertOrIgnore_write {b : Bool}
    (h : (insertOrIgnore T lock r : Stmt D L E Bool).exec d = .ok (b, w)) :
    (w = fun d' => T.set ((T.get d').insert r) d') ∨ w = id := by
  simp only [insertOrIgnore] at h
  split at h
  · exact .inl (congrArg Prod.snd (Except.ok.inj h)).symm
  · exact .inr (congrArg Prod.snd (Except.ok.inj h)).symm

lemma insertRow_errors (h : T' taken) : (insertRow T lock r taken).Errors T' := by
  intro d e he
  simp only [insertRow] at he
  split at he
  · cases he
  · rw [Except.error.injEq] at he
    exact he ▸ h

end

end Relational
