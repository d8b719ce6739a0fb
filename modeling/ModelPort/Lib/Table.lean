import Mathlib

/-!
# Tables with unique keys

A `Table keys` is a list of rows no two of which share a key. A row may have any number of
keys: a primary key, further unique constraints, and the entry of a partial unique index,
which is present for some rows only. Uniqueness is a field of the table, so every table that
can be built satisfies its constraints.

* `Table.update` is `UPDATE … SET f WHERE p`, for an assignment `f` that keeps the keys.
* `Table.insert` adds a row whose keys are all free and leaves the table alone otherwise.
* `Table.find` is the row with a key; `Table.find_update` and `Table.find_insert_self` say what
  the two operations do to it.
* `Table.retain` removes rows, `Table.put` replaces the rows that share a key with a new one,
  and `Table.ofRows` builds a table from a list.
* `Table.total` is the `SUM` of a column; `Table.total_update`, `Table.total_update_single`
  and `Table.total_insert` say what the two operations do to it.
-/

namespace Relational

open List

variable {ρ κ : Type} {keys : ρ → List κ}

/-- Two rows are *apart* when they share no key. -/
def Apart (keys : ρ → List κ) (a b : ρ) : Prop := ∀ k ∈ keys a, k ∉ keys b

instance : Std.Symm (Apart keys) := ⟨fun _ _ h k hb ha => h k ha hb⟩

/-- A list of rows, no two of which share a key. -/
structure Table (keys : ρ → List κ) where
  /-- the rows, the newest first -/
  rows : List ρ
  apart : rows.Pairwise (Apart keys)

namespace Table

/-- The table without rows. -/
def empty : Table keys := ⟨[], List.Pairwise.nil⟩

instance : Inhabited (Table keys) := ⟨empty⟩

@[simp] lemma rows_empty : (empty : Table keys).rows = [] := rfl

@[ext] lemma ext {t u : Table keys} (h : t.rows = u.rows) : t = u := by
  cases t
  cases u
  simpa using h

variable {k : κ}

lemma eq_of_key (t : Table keys) {a b : ρ} (ha : a ∈ t.rows) (hb : b ∈ t.rows)
    (hka : k ∈ keys a) (hkb : k ∈ keys b) : a = b := by
  by_contra hne
  exact t.apart.forall ha hb hne k hka hkb

variable {p : ρ → Bool} {r : ρ}

/-- A condition under which all selected rows share a key selects at most one row. -/
lemma filter_eq_singleton {t : Table keys} (hr : r ∈ t.rows) (hp : p r)
    (hshare : ∀ s, p s → ∃ k ∈ keys s, k ∈ keys r) : t.rows.filter p = [r] := by
  have hall : ∀ s ∈ t.rows.filter p, s = r := by
    intro s hs
    obtain ⟨hmem, hps⟩ := mem_filter.1 hs
    obtain ⟨k, hks, hkr⟩ := hshare s hps
    exact t.eq_of_key hmem hr hks hkr
  have hmem : r ∈ t.rows.filter p := mem_filter.2 ⟨hr, hp⟩
  have hpw : (t.rows.filter p).Pairwise (Apart keys) := t.apart.sublist filter_sublist
  match hl : t.rows.filter p with
  | [] => simp [hl] at hmem
  | [a] => rw [hl] at hall; rw [hall a (by simp)]
  | a :: b :: l =>
    -- two selected rows would both be `r`, which shares a key with itself
    rw [hl] at hall hpw
    obtain rfl := hall a (by simp)
    obtain rfl := hall b (by simp)
    obtain ⟨k, hk, -⟩ := hshare b hp
    exact absurd hk ((pairwise_cons.1 hpw).1 b (by simp) k hk)

/-! ### Update -/

/-- The assignment of an `UPDATE`: `f` on the rows that satisfy `p`. -/
def assign (p : ρ → Bool) (f : ρ → ρ) (r : ρ) : ρ := if p r then f r else r

variable {f : ρ → ρ} {p : ρ → Bool} {s : ρ}

lemma assign_of_pos (h : p r) : assign p f r = f r :=
  if_pos h

lemma assign_of_neg (h : p r = false) : assign p f r = r := by
  simp [assign, h]

/-- What `f` keeps, the assignment keeps. -/
lemma assign_of {P : ρ → Prop} (hf : P (f r)) (hr : P r) : P (assign p f r) := by
  unfold assign
  split
  · exact hf
  · exact hr

lemma apply_assign {γ : Type} {g : ρ → γ} (hf : ∀ r, g (f r) = g r) (r : ρ) :
    g (assign p f r) = g r :=
  assign_of (P := fun s => g s = g r) (hf r) rfl

lemma apart_map (hf : ∀ r, keys (f r) = keys r) {l : List ρ} (hl : l.Pairwise (Apart keys)) :
    (l.map f).Pairwise (Apart keys) := by
  refine pairwise_map.2 (hl.imp fun hab => ?_)
  simpa only [Apart, hf] using hab

/-- `UPDATE … SET f WHERE p`, for an assignment that leaves the keys alone. -/
def update (t : Table keys) (p : ρ → Bool) (f : ρ → ρ) (hf : ∀ r, keys (f r) = keys r) :
    Table keys :=
  ⟨t.rows.map (assign p f), apart_map (apply_assign hf) t.apart⟩

section

variable {t : Table keys} {hf : ∀ r, keys (f r) = keys r}

@[simp] lemma rows_update : (t.update p f hf).rows = t.rows.map (assign p f) := rfl

lemma mem_update (hf : ∀ r, keys (f r) = keys r) :
    r ∈ (t.update p f hf).rows ↔ ∃ s ∈ t.rows, assign p f s = r := by
  simp

lemma mem_update_cases (hf : ∀ r, keys (f r) = keys r) : r ∈ (t.update p f hf).rows ↔
    (∃ s ∈ t.rows, p s ∧ r = f s) ∨ r ∈ t.rows ∧ ¬ p r := by
  rw [mem_update]
  constructor
  · rintro ⟨s, hs, rfl⟩
    by_cases h : p s
    · exact .inl ⟨s, hs, h, assign_of_pos h⟩
    · exact .inr (by simp [assign, h, hs])
  · rintro (⟨s, hs, h, rfl⟩ | ⟨hr, h⟩)
    · exact ⟨s, hs, assign_of_pos h⟩
    · exact ⟨r, hr, assign_of_neg (Bool.eq_false_iff.2 h)⟩

lemma update_eq_self (h : t.rows.filter p = []) : t.update p f hf = t := by
  refine Table.ext ((map_congr_left fun r hr => ?_).trans (map_id _))
  exact assign_of_neg (by simpa using filter_eq_nil_iff.1 h r hr)

end

/-! ### Insertion -/

section

variable [DecidableEq κ]

instance (a b : ρ) : Decidable (Apart keys a b) :=
  inferInstanceAs (Decidable (∀ k ∈ keys a, k ∉ keys b))

/-- No key of `r` is in use. -/
def Free (t : Table keys) (r : ρ) : Prop := ∀ s ∈ t.rows, Apart keys r s

instance (t : Table keys) (r : ρ) : Decidable (t.Free r) :=
  inferInstanceAs (Decidable (∀ s ∈ t.rows, Apart keys r s))

/-- `INSERT` of a row: the row is added when its keys are free. -/
def insert (t : Table keys) (r : ρ) : Table keys :=
  if h : t.Free r then ⟨r :: t.rows, pairwise_cons.2 ⟨h, t.apart⟩⟩ else t

variable {t : Table keys}

lemma rows_insert (h : t.Free r) : (t.insert r).rows = r :: t.rows := by
  simp [insert, h]

lemma insert_of_not_free (h : ¬ t.Free r) : t.insert r = t := by
  simp [insert, h]

lemma mem_insert (h : s ∈ (t.insert r).rows) : s = r ∨ s ∈ t.rows := by
  by_cases hfree : t.Free r
  · simpa [rows_insert hfree] using h
  · rw [insert_of_not_free hfree] at h
    exact Or.inr h

lemma mem_insert_self (h : t.Free r) : r ∈ (t.insert r).rows := by
  rw [rows_insert h]
  simp

lemma mem_insert_of_mem (h : s ∈ t.rows) : s ∈ (t.insert r).rows := by
  by_cases hfree : t.Free r
  · simp [rows_insert hfree, h]
  · rwa [insert_of_not_free hfree]

end

/-! ### Lookup -/

section

variable [DecidableEq κ]

/-- The row with a key. -/
def find (t : Table keys) (k : κ) : Option ρ := t.rows.find? fun r => k ∈ keys r

variable {t : Table keys}

lemma find_eq_some : t.find k = some r ↔ r ∈ t.rows ∧ k ∈ keys r := by
  constructor
  · intro h
    exact ⟨mem_of_find?_eq_some h, by simpa using List.find?_some (p := (k ∈ keys ·)) h⟩
  · rintro ⟨hr, hk⟩
    cases h : t.find k with
    | none => exact absurd (decide_eq_true hk) (List.find?_eq_none.1 h r hr)
    | some s =>
      have hks : k ∈ keys s := by simpa using List.find?_some (p := (k ∈ keys ·)) h
      rw [t.eq_of_key (mem_of_find?_eq_some h) hr hks hk]

lemma find_eq_none : t.find k = none ↔ ∀ r ∈ t.rows, k ∉ keys r := by
  simp [find]

lemma find_update (t : Table keys) (p : ρ → Bool) (f : ρ → ρ) (hf : ∀ r, keys (f r) = keys r)
    (k : κ) : (t.update p f hf).find k = (t.find k).map (assign p f) := by
  simp only [find, rows_update, List.find?_map]
  congr 2
  funext r
  simp only [Function.comp_apply, apply_assign hf]

lemma find_insert_of_notMem (t : Table keys) (h : k ∉ keys r) : (t.insert r).find k = t.find k := by
  by_cases hfree : t.Free r
  · simp [find, rows_insert hfree, h]
  · rw [insert_of_not_free hfree]

lemma find_insert_self (hfree : t.Free r) (h : k ∈ keys r) : (t.insert r).find k = some r := by
  simp [find, rows_insert hfree, h]

lemma find_insert_of_some (h : t.find k = some s) : (t.insert r).find k = some s := by
  obtain ⟨hs, hk⟩ := find_eq_some.1 h
  exact find_eq_some.2 ⟨mem_insert_of_mem hs, hk⟩

lemma find_of_free (hfree : t.Free r) (h : k ∈ keys r) : t.find k = none :=
  find_eq_none.2 fun s hs => hfree s hs k h

end

/-! ### Removal, replacement and bulk loading -/

/-- The rows that satisfy a condition. -/
def retain (t : Table keys) (p : ρ → Bool) : Table keys := ⟨t.rows.filter p, t.apart.filter p⟩

@[simp] lemma rows_retain (t : Table keys) (p : ρ → Bool) :
    (t.retain p).rows = t.rows.filter p := rfl

section

variable [DecidableEq κ]

/-- The table with a row in place of those that share a key with it. -/
def put (t : Table keys) (r : ρ) : Table keys :=
  ⟨r :: t.rows.filter fun s => Apart keys r s,
    pairwise_cons.2 ⟨fun _ hs => of_decide_eq_true (mem_filter.1 hs).2, t.apart.filter _⟩⟩

variable {t : Table keys}

lemma mem_put : s ∈ (t.put r).rows ↔ s = r ∨ s ∈ t.rows ∧ Apart keys r s := by
  simp [put]

lemma find_put_self (h : k ∈ keys r) : (t.put r).find k = some r :=
  find_eq_some.2 ⟨mem_put.2 (.inl rfl), h⟩

lemma find_put_of_apart (h : t.find k = some s) (happart : Apart keys r s) :
    (t.put r).find k = some s := by
  obtain ⟨hs, hk⟩ := find_eq_some.1 h
  exact find_eq_some.2 ⟨mem_put.2 (.inr ⟨hs, happart⟩), hk⟩

lemma find_put_single {key : ρ → κ} (t : Table fun r => [key r]) (r : ρ) (k : κ) :
    (t.put r).find k = if key r = k then some r else t.find k := by
  split
  · rename_i h
    exact find_put_self (by simp [h])
  · rename_i h
    have hk : k ∉ [key r] := by simpa using Ne.symm h
    cases hfind : t.find k with
    | none =>
      refine find_eq_none.2 fun s hs => ?_
      rcases mem_put.1 hs with rfl | ⟨hs, -⟩
      · exact hk
      · exact find_eq_none.1 hfind s hs
    | some s =>
      refine find_put_of_apart hfind fun k' hk' hs => hk ?_
      obtain ⟨-, hks⟩ := find_eq_some.1 hfind
      rw [mem_singleton] at hk' hs hks
      rw [mem_singleton, hks, ← hs, hk']

lemma find_retain (t : Table keys) (p : ρ → Bool) (k : κ) :
    (t.retain p).find k = (t.find k).filter p := by
  refine Option.ext fun s => ?_
  rw [Option.filter_eq_some_iff, find_eq_some, find_eq_some, rows_retain, mem_filter,
    and_right_comm]

lemma find_retain_of_some (h : t.find k = some s) (hp : p s) : (t.retain p).find k = some s := by
  rw [find_retain, h, Option.filter_some_pos hp]

/-- The table of a list of rows, in which a later row takes the place of an earlier one. -/
def ofRows : List ρ → Table keys
  | [] => empty
  | r :: l => (ofRows l).insert r

/-- Rows that are apart are all kept, in their order. -/
lemma rows_ofRows : ∀ {l : List ρ}, l.Pairwise (Apart keys) → (ofRows l : Table keys).rows = l
  | [], _ => rfl
  | r :: l, h => by
      obtain ⟨hr, hl⟩ := pairwise_cons.1 h
      have hrows := rows_ofRows hl
      rw [ofRows, rows_insert, hrows]
      intro s hs
      exact hr s (hrows ▸ hs)

lemma ofRows_rows (t : Table keys) : ofRows t.rows = t := ext (rows_ofRows t.apart)

end

/-! ### Column sums -/

section

variable {M : Type} [AddCommGroup M]

/-- The `SUM` of a column over the whole table. -/
def total (t : Table keys) (g : ρ → M) : M := (t.rows.map g).sum

@[simp] lemma total_empty (g : ρ → M) : (empty : Table keys).total g = 0 := by
  simp [total]

variable {t : Table keys} {g h : ρ → M} {f : ρ → ρ}

/-- The table without a row. -/
def erase [DecidableEq ρ] (t : Table keys) (r : ρ) : Table keys :=
  ⟨t.rows.erase r, t.apart.sublist erase_sublist⟩

lemma total_erase [DecidableEq ρ] (hr : r ∈ t.rows) (g : ρ → M) :
    t.total g = g r + (t.erase r).total g := by
  rw [total, ((perm_cons_erase hr).map g).sum_eq, map_cons, sum_cons]
  rfl

lemma total_insert [DecidableEq κ] (h : t.Free r) (g : ρ → M) :
    (t.insert r).total g = g r + t.total g := by
  simp [total, rows_insert h]

/-- The column after an update, summed over the table before it. -/
lemma total_update (t : Table keys) (p : ρ → Bool) (f : ρ → ρ)
    (hf : ∀ r, keys (f r) = keys r) (g : ρ → M) :
    (t.update p f hf).total g = t.total fun r => g (assign p f r) := by
  simp [total, Function.comp_def]

lemma total_congr (hgh : ∀ r ∈ t.rows, g r = h r) : t.total g = t.total h := by
  unfold total
  rw [map_congr_left hgh]

/-- The `SUM` over the rows that satisfy a condition. -/
lemma total_ite (t : Table keys) (p : ρ → Bool) (g : ρ → M) :
    (t.total fun r => if p r then g r else 0) = ((t.rows.filter p).map g).sum := by
  unfold total
  induction t.rows with
  | nil => rfl
  | cons a l ih =>
    cases ha : p a with
    | false => simp [ha, ih]
    | true => simp [ha, ih]

lemma sum_map_assign (l : List ρ) (p : ρ → Bool) (f : ρ → ρ) (g : ρ → M) :
    (l.map fun r => g (assign p f r)).sum
      = (l.map g).sum + ((l.filter p).map fun r => g (f r) - g r).sum := by
  induction l with
  | nil => simp
  | cons a l ih =>
    cases ha : p a with
    | false => simp [assign_of_neg ha, ha, ih, add_assoc]
    | true =>
      simp only [map_cons, sum_cons, assign_of_pos ha, ih, ha, filter_cons_of_pos]
      abel

lemma total_update_single (hf : ∀ r, keys (f r) = keys r) (h : t.rows.filter p = [r]) (g : ρ → M) :
    (t.update p f hf).total g = t.total g + (g (f r) - g r) := by
  rw [total_update]
  simp [total, sum_map_assign, h]

/-! #### Order -/

variable [PartialOrder M] [IsOrderedAddMonoid M]

lemma total_mono (hgh : ∀ r ∈ t.rows, g r ≤ h r) : t.total g ≤ t.total h :=
  sum_le_sum hgh

lemma total_update_le (hf : ∀ r, keys (f r) = keys r)
    (h : ∀ r ∈ t.rows, g (f r) ≤ g r) : (t.update p f hf).total g ≤ t.total g := by
  rw [total_update]
  exact total_mono fun r hr => assign_of (P := fun s => g s ≤ g r) (h r hr) le_rfl

lemma total_insert_le [DecidableEq κ] (t : Table keys) (h : 0 ≤ g r) :
    (t.insert r).total g ≤ g r + t.total g := by
  by_cases hfree : t.Free r
  · rw [total_insert hfree]
  · rw [insert_of_not_free hfree]
    exact le_add_of_nonneg_left h

/-- Two rows of a table make up at most its total. -/
lemma add_le_total (h : ∀ r ∈ t.rows, 0 ≤ g r) (hr : r ∈ t.rows)
    (hs : s ∈ t.rows) (hrs : r ≠ s) : g r + g s ≤ t.total g := by
  classical
  have hperm : t.rows.Perm (r :: s :: (t.rows.erase r).erase s) := by
    refine (perm_cons_erase hr).trans (List.Perm.cons r (perm_cons_erase ?_))
    exact (mem_erase_of_ne hrs.symm).2 hs
  have hrest : 0 ≤ (((t.rows.erase r).erase s).map g).sum := by
    refine sum_nonneg fun m hm => ?_
    obtain ⟨q, hq, rfl⟩ := mem_map.1 hm
    exact h q (mem_of_mem_erase (mem_of_mem_erase hq))
  unfold total
  rw [(hperm.map g).sum_eq, map_cons, map_cons, sum_cons, sum_cons, ← add_assoc]
  exact le_add_of_nonneg_right hrest

end

end Table

end Relational
