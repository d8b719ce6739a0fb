import Mathlib

/-!
# Generators

A generator computes on a state and yields items as it goes. It ends with a value, or it is left
early by a signal: an error, or the end of its enclosing function. What it has yielded and the
state it has reached stay in both cases.

* `Gen.forEach`: a loop over a list. Loops over a concatenation and nested loops are taken apart
  by `Gen.forEach_append` and `Gen.forEach_flatMap`.
-/

namespace Generator

variable {σ ω ε α β ι κ : Type}

/-- What a generator has done when it ends: what it yielded, the state it left, its result. -/
@[ext]
structure Outcome (σ ω ε α : Type) where
  items : List ω
  state : σ
  result : Except ε α

/-- A generator on states `σ` that yields items `ω`. -/
def Gen (σ ω ε α : Type) : Type := σ → Outcome σ ω ε α

namespace Gen

/-- Sequencing: what comes after a signal is not run. -/
protected def bind (x : Gen σ ω ε β) (f : β → Gen σ ω ε α) : Gen σ ω ε α := fun s =>
  match x s with
  | ⟨items, s', .ok b⟩ =>
    let next := f b s'
    ⟨items ++ next.items, next.state, next.result⟩
  | ⟨items, s', .error e⟩ => ⟨items, s', .error e⟩

instance : Monad (Gen σ ω ε) where
  pure a := fun s => ⟨[], s, .ok a⟩
  bind := Gen.bind

/-- Yields an item. -/
def yield (item : ω) : Gen σ ω ε Unit := fun s => ⟨[item], s, .ok ()⟩

/-- Leaves the generator. -/
def leave (e : ε) : Gen σ ω ε α := fun s => ⟨[], s, .error e⟩

/-- Reads the state. -/
def get : Gen σ ω ε σ := fun s => ⟨[], s, .ok s⟩

/-- Changes the state. -/
def modify (f : σ → σ) : Gen σ ω ε Unit := fun s => ⟨[], f s, .ok ()⟩

/-- A fallible computation; its error leaves the generator. -/
def lift : Except ε α → Gen σ ω ε α
  | .ok a => pure a
  | .error e => leave e

/-- A loop over a list. -/
def forEach (body : ι → Gen σ ω ε Unit) : List ι → Gen σ ω ε Unit
  | [] => pure ()
  | x :: xs => body x >>= fun _ => forEach body xs

/-! ### Equations -/

@[simp] lemma pure_apply (a : α) (s : σ) : (pure a : Gen σ ω ε α) s = ⟨[], s, .ok a⟩ := rfl

@[simp] lemma yield_apply (item : ω) (s : σ) :
    (yield item : Gen σ ω ε Unit) s = ⟨[item], s, .ok ()⟩ := rfl

@[simp] lemma leave_apply (e : ε) (s : σ) : (leave e : Gen σ ω ε α) s = ⟨[], s, .error e⟩ := rfl

@[simp] lemma modify_apply (f : σ → σ) (s : σ) :
    (modify f : Gen σ ω ε Unit) s = ⟨[], f s, .ok ()⟩ := rfl

variable {f : β → Gen σ ω ε α} {x : Gen σ ω ε β} {items : List ω} {b : β} {e : ε}

lemma bind_of_ok {s s' : σ} (hx : x s = ⟨items, s', .ok b⟩) :
    (x >>= f) s = ⟨items ++ (f b s').items, (f b s').state, (f b s').result⟩ := by
  show Gen.bind x f s = _
  rw [Gen.bind, hx]

lemma bind_of_error {s s' : σ}
    (hx : x s = ⟨items, s', .error e⟩) : (x >>= f) s = ⟨items, s', .error e⟩ := by
  show Gen.bind x f s = _
  rw [Gen.bind, hx]

instance : LawfulMonad (Gen σ ω ε) := by
  refine LawfulMonad.mk' (Gen σ ω ε) ?_ ?_ ?_
  · intro α x
    funext s
    show Gen.bind x (fun a => pure a) s = x s
    rcases hx : x s with ⟨items, s', e | a⟩
    · exact bind_of_error hx
    · exact (bind_of_ok hx).trans (by rw [pure_apply, List.append_nil])
  · intro α β a f
    funext s
    exact (bind_of_ok (pure_apply a s)).trans (by rw [List.nil_append])
  · intro α β γ x f g
    funext s
    rcases hx : x s with ⟨items, s', e | b⟩
    · rw [bind_of_error hx, bind_of_error (bind_of_error hx)]
    · rw [bind_of_ok hx]
      rcases hf : f b s' with ⟨items', s'', e | c⟩
      · rw [bind_of_error hf, bind_of_error ((bind_of_ok hx).trans (by rw [hf]))]
      · rw [bind_of_ok hf, bind_of_ok ((bind_of_ok hx).trans (by rw [hf])), List.append_assoc]

@[simp] lemma get_bind (f : σ → Gen σ ω ε α) (s : σ) : (get >>= f) s = f s s := by
  rw [bind_of_ok (rfl : (get : Gen σ ω ε σ) s = ⟨[], s, .ok s⟩), List.nil_append]

@[simp] lemma modify_bind (f : σ → σ) (g : Unit → Gen σ ω ε α) (s : σ) :
    (modify f >>= g) s = g () (f s) := by
  rw [bind_of_ok (rfl : (modify f : Gen σ ω ε Unit) s = ⟨[], f s, .ok ()⟩), List.nil_append]

@[simp] lemma yield_bind (item : ω) (f : Unit → Gen σ ω ε α) (s : σ) :
    (yield item >>= f) s = ⟨item :: (f () s).items, (f () s).state, (f () s).result⟩ := by
  rw [bind_of_ok (rfl : (yield item : Gen σ ω ε Unit) s = ⟨[item], s, .ok ()⟩),
    List.singleton_append]

@[simp] lemma leave_bind (e : ε) (f : β → Gen σ ω ε α) (s : σ) :
    (leave e >>= f) s = ⟨[], s, .error e⟩ := bind_of_error rfl

lemma lift_bind_ok {x : Except ε β} (hx : x = .ok b) (f : β → Gen σ ω ε α) (s : σ) :
    (lift x >>= f) s = f b s := by
  subst hx
  rw [bind_of_ok (rfl : (lift (.ok b) : Gen σ ω ε β) s = ⟨[], s, .ok b⟩), List.nil_append]

lemma lift_bind_error {x : Except ε β} (hx : x = .error e) (f : β → Gen σ ω ε α) (s : σ) :
    (lift x >>= f) s = ⟨[], s, .error e⟩ := by
  subst hx
  exact bind_of_error rfl

variable (body : ι → Gen σ ω ε Unit)

lemma forEach_append (xs ys : List ι) :
    forEach body (xs ++ ys) = forEach body xs >>= fun _ => forEach body ys := by
  induction xs with
  | nil => simp [forEach]
  | cons x xs ih => simp [forEach, ih]

lemma forEach_map (f : κ → ι) (xs : List κ) :
    forEach body (xs.map f) = forEach (fun x => body (f x)) xs := by
  induction xs with
  | nil => rfl
  | cons x xs ih => simp [forEach, ih]

/-- A loop inside a loop is one loop. -/
lemma forEach_flatMap (f : κ → List ι) (xs : List κ) :
    forEach body (xs.flatMap f) = forEach (fun x => forEach body (f x)) xs := by
  induction xs with
  | nil => rfl
  | cons x xs ih => simp [forEach, forEach_append, ih]

end Gen

end Generator
