import Mathlib

/-!
# JSON values

`Json` is a value of a JSON text. The readers follow what a derived deserialiser accepts: a record
is an object, whose members are taken by name, or an array, whose items are taken by position
(`Json.members`); an enumeration is the name of a variant.

* `Json.required`, `Json.defaulted`: a member that must be there, and one that may be absent.
-/

/-- A JSON value. -/
inductive Json where
  | null
  | bool (b : Bool)
  | int (n : ℤ)
  | float (q : ℚ)
  | str (s : String)
  | arr (items : List Json)
  | obj (fields : List (String × Json))

namespace Json

variable {α : Type}

/-! ### Scalars and lists -/

def asBool : Json → Option Bool
  | .bool b => some b
  | _ => none

def asString : Json → Option String
  | .str s => some s
  | _ => none

/-- An unsigned number of 64 bits. -/
def asUnsigned : Json → Option ℕ
  | .int n => if 0 ≤ n ∧ n < 2 ^ 64 then some n.toNat else none
  | _ => none

lemma asUnsigned_lt {json : Json} {n : ℕ} (h : json.asUnsigned = some n) : n < 2 ^ 64 := by
  cases json with
  | int k =>
    obtain ⟨hk, rfl⟩ := Option.ite_some_none_eq_some.1 h
    omega
  | null | bool | float | str | arr | obj => cases h

/-- A signed number of 64 bits. -/
def asSigned : Json → Option ℤ
  | .int n => if -2 ^ 63 ≤ n ∧ n < 2 ^ 63 then some n else none
  | _ => none

variable (read : Json → Option α)

def asList : Json → Option (List α)
  | .arr items => items.mapM read
  | _ => none

/-- A value or `null`. -/
def asOption : Json → Option (Option α)
  | .null => some none
  | json => (read json).map some

/-- The name of a variant; as an object it has one member, without a value. -/
def asVariant (names : List (String × α)) : Json → Option α
  | .str name => names.lookup name
  | .obj [(name, .null)] => names.lookup name
  | _ => none

/-! ### Reading a value -/

/-- The member of an object. -/
def get (key : String) : Json → Option Json
  | .obj fields => fields.lookup key
  | _ => none

def isNull : Json → Bool
  | .null => true
  | _ => false

def isObject : Json → Bool
  | .obj _ => true
  | _ => false

def asArray : Json → Option (List Json)
  | .arr items => some items
  | _ => none

/-- A number, exactly. -/
def asNumber : Json → Option ℚ
  | .int n => some n
  | .float q => some q
  | _ => none

/-- A text member of an object. -/
def getString (key : String) (json : Json) : Option String := (json.get key).bind asString

/-- An object with a member replaced; nothing else has members. -/
def replace (json : Json) (key : String) (value : Json) : Json :=
  match json with
  | .obj fields =>
    .obj (fields.map fun field => if field.1 = key then (field.1, value) else field)
  | json => json

lemma get_replace_ne {key key' : String} (hne : key' ≠ key) (json value : Json) :
    (json.replace key value).get key' = json.get key' := by
  cases json with
  | obj fields =>
    show List.lookup key' (fields.map _) = fields.lookup key'
    induction fields with
    | nil => rfl
    | cons field fields ih =>
      by_cases hfield : field.1 = key
      · have hbeq : (key' == field.1) = false := by simpa [hfield] using hne
        rw [List.map_cons, if_pos hfield, List.lookup_cons, List.lookup_cons, hbeq, ih]
      · rw [List.map_cons, if_neg hfield, List.lookup_cons, List.lookup_cons, ih]
  | null | bool | int | float | str | arr => rfl

/-! ### Records -/

/-- The members of a record. -/
def members (names : List String) : Json → Option (List (Option Json))
  | .obj fields => some (names.map fun name => fields.lookup name)
  | .arr items =>
    if items.length ≤ names.length then
      some ((List.range names.length).map fun i => items[i]?)
    else none
  | _ => none

def isArray : Json → Bool
  | .arr _ => true
  | _ => false

def required (member : Option Json) : Option α := member.bind read

def defaulted (value : α) : Option Json → Option α
  | none => some value
  | some member => read member

end Json
