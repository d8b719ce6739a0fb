import Mathlib

/-!
# Maps in key order

A map with numeric keys as the list of its entries in the order of their keys.
-/

/-- The entries of a map, by increasing key. -/
abbrev OrdMap (α : Type) := List (ℕ × α)

namespace OrdMap

variable {α : Type}

/-- The map with the value of a key replaced, or the key added in its place. -/
def put (k : ℕ) (v : α) : OrdMap α → OrdMap α
  | [] => [(k, v)]
  | entry :: rest =>
    if k < entry.1 then (k, v) :: entry :: rest
    else if k = entry.1 then (k, v) :: rest
    else entry :: put k v rest

def remove (k : ℕ) (m : OrdMap α) : OrdMap α := m.filter fun entry => entry.1 != k

/-- The later of two values counts. -/
lemma put_put (k : ℕ) (v v' : α) (m : OrdMap α) : (m.put k v).put k v' = m.put k v' := by
  induction m with
  | nil => simp [put]
  | cons head rest ih =>
    by_cases hlt : k < head.1
    · simp [put, hlt]
    · by_cases heq : k = head.1
      · simp [put, heq]
      · simp [put, hlt, heq, ih]

end OrdMap
