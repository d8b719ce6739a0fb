import Mathlib

/-!
# Internet addresses

`IpAddr` and its parser, after `std::net`: an IPv4 address is four decimal octets without
leading zeros; an IPv6 address is up to eight groups of one to four hexadecimal digits, with at
most one `::` and optionally an IPv4 address in place of the last two groups.
-/

namespace ModelPort

open List Option

variable {c : Char} {rest s : List Char} {first : Bool}

instance neZero4 : NeZero 4 := ⟨by decide⟩

instance neZero8 : NeZero 8 := ⟨by decide⟩

instance neZero256 : NeZero 256 := ⟨by decide⟩

instance neZero65536 : NeZero 65536 := ⟨by decide⟩

/-- An IPv4 or IPv6 address. -/
inductive IpAddr where
  | v4 (octets : Fin 4 → Fin 256)
  | v6 (segments : Fin 8 → Fin 65536)
  deriving DecidableEq

namespace IpAddr

/-- A parser reads a prefix of its input, or fails. -/
abbrev Parser (α : Type) := List Char → Option (α × List Char)

/-- `char::to_digit`. -/
def digitValue (radix : ℕ) (c : Char) : Option ℕ :=
  let n := c.toNat
  let v :=
    if '0'.toNat ≤ n ∧ n ≤ '9'.toNat then some (n - '0'.toNat)
    else if 'a'.toNat ≤ n ∧ n ≤ 'f'.toNat then some (n - 'a'.toNat + 10)
    else if 'A'.toNat ≤ n ∧ n ≤ 'F'.toNat then some (n - 'A'.toNat + 10)
    else none
  v.filter (· < radix)

/-- A number below `bound` of at most `maxDigits` digits. -/
def readNumber (radix maxDigits : ℕ) (allowZeroPrefix : Bool) (bound : ℕ) : Parser ℕ := fun s =>
  let digits := s.takeWhile fun c => (digitValue radix c).isSome
  let leadingZero := digits.head? == some '0' && 1 < digits.length
  let value := digits.foldl (fun a c => a * radix + (digitValue radix c).getD 0) 0
  if digits.isEmpty || maxDigits < digits.length || (!allowZeroPrefix && leadingZero)
      || bound ≤ value then none
  else some (value, s.drop digits.length)

/-- A separator, except before the first element, and then an element. -/
def readSeparator {α : Type} (sep : Char) (first : Bool) (inner : Parser α) : Parser α := fun s =>
  if first then inner s
  else
    match s with
    | c :: rest => if c = sep then inner rest else none
    | [] => none

/-- An octet of an IPv4 address. -/
def readOctet (first : Bool) : Parser ℕ := readSeparator '.' first (readNumber 10 3 false 256)

/-- Four octets. -/
def readIpv4 : Parser (ℕ × ℕ × ℕ × ℕ) := fun s => do
  let (a, s) ← readOctet true s
  let (b, s) ← readOctet false s
  let (c, s) ← readOctet false s
  let (d, s) ← readOctet false s
  return ((a, b, c, d), s)

/-- Up to `n` groups, the last two of which may be an IPv4 address; whether they were. -/
def readGroups : ℕ → Bool → List Char → List ℕ × Bool × List Char
  | 0, _, s => ([], false, s)
  | n + 1, first, s =>
    match if 0 < n then readSeparator ':' first readIpv4 s else none with
    | some ((a, b, c, d), rest) => ([a * 256 + b, c * 256 + d], true, rest)
    | none =>
      match readSeparator ':' first (readNumber 16 4 true 65536) s with
      | some (g, rest) =>
        let (gs, embedded, rest) := readGroups n false rest
        (g :: gs, embedded, rest)
      | none => ([], false, s)

/-- Eight groups, a run of zero groups possibly written as `::`. -/
def readIpv6 : Parser (List ℕ) := fun s =>
  let (head, embedded, rest) := readGroups 8 true s
  if head.length = 8 then some (head, rest)
  else if embedded then none
  else
    match rest with
    | ':' :: ':' :: rest =>
      let (tail, _, rest) := readGroups (7 - head.length) true rest
      some (head ++ List.replicate (8 - head.length - tail.length) 0 ++ tail, rest)
    | _ => none

/-- The address with these octets. -/
def ofOctets (a b c d : ℕ) : IpAddr := .v4 fun i => Fin.ofNat 256 ([a, b, c, d].getD i 0)

/-- The address with these groups. -/
def ofGroups (groups : List ℕ) : IpAddr := .v6 fun i => Fin.ofNat 65536 (groups.getD i 0)

/-- `str::parse::<IpAddr>`: an address and nothing after it. -/
def parse (s : String) : Option IpAddr :=
  match readIpv4 s.toList with
  | some ((a, b, c, d), rest) => if rest.isEmpty then some (ofOctets a b c d) else none
  | none =>
    match readIpv6 s.toList with
    | some (groups, rest) => if rest.isEmpty then some (ofGroups groups) else none
    | none => none

/-! ### What the parser does with a continuation -/

variable {zero : Bool} {maxDigits radix bound : ℕ}

/-- A parser of a number stops at a character that is no digit. -/
lemma readNumber_append
    (hc : (digitValue radix c).isSome = false) (s rest : List Char) :
    readNumber radix maxDigits zero bound (s ++ c :: rest) =
      (readNumber radix maxDigits zero bound s).map fun r => (r.1, r.2 ++ c :: rest) := by
  have htake : (s ++ c :: rest).takeWhile (fun c => (digitValue radix c).isSome) =
      s.takeWhile fun c => (digitValue radix c).isSome := by
    induction s with
    | nil => simp [hc]
    | cons a s ih => by_cases ha : (digitValue radix a).isSome <;> simp [ha, ih]
  simp only [readNumber, htake]
  split
  · rfl
  · rw [drop_append_of_le_length ( takeWhile_prefix _).length_le]
    rfl

lemma readOctet_append (hdigit : (digitValue 10 c).isSome = false)
    (hdot : c ≠ '.') (s rest : List Char) : readOctet first (s ++ c :: rest) =
      (readOctet first s).map fun r => (r.1, r.2 ++ c :: rest) := by
  unfold readOctet readSeparator
  cases first with
  | true => exact readNumber_append hdigit s rest
  | false =>
    cases s with
    | nil => simp [hdot]
    | cons a s =>
      by_cases ha : a = '.'
      · simpa [ha] using readNumber_append hdigit s rest
      · simp [ha]

lemma readIpv4_append (hdigit : (digitValue 10 c).isSome = false) (hdot : c ≠ '.')
    (s rest : List Char) :
    readIpv4 (s ++ c :: rest) = (readIpv4 s).map fun r => (r.1, r.2 ++ c :: rest) := by
  have hoctet : ∀ first s, readOctet first (s ++ c :: rest) =
      (readOctet first s).map fun r => (r.1, r.2 ++ c :: rest) :=
    fun first s => readOctet_append hdigit hdot s rest
  unfold readIpv4
  rw [hoctet]
  rcases readOctet true s with _ | ⟨a, s1⟩
  · rfl
  simp only [map_some, bind_eq_bind, bind_some, hoctet]
  rcases readOctet false s1 with _ | ⟨b, s2⟩
  · rfl
  simp only [map_some, bind_some, hoctet]
  rcases readOctet false s2 with _ | ⟨d, s3⟩
  · rfl
  simp only [map_some, bind_some, hoctet]
  rcases readOctet false s3 with _ | ⟨e, s4⟩ <;> rfl

variable {octets : Fin 4 → Fin 256} {ip : IpAddr} {v : ℕ}

lemma readIpv4_of_parse {s : String}
    (h : parse s = some (.v4 octets)) : ∃ x, readIpv4 s.toList = some (x, []) := by
  unfold parse at h
  rcases h4 : readIpv4 s.toList with _ | ⟨x, rest⟩
  · rw [h4] at h
    rcases h6 : readIpv6 s.toList with _ | ⟨groups, rest⟩
    · simp [h6] at h
    · simp only [h6] at h
      split at h
      · cases h
      · cases h
  · simp only [h4] at h
    split at h
    · rename_i hrest
      exact ⟨x, by rw [isEmpty_iff.1 hrest]⟩
    · cases h

lemma parse_port {s : String} (h : parse s = some (.v4 octets))
    (port : String) : parse (s ++ ":" ++ port) = none := by
  obtain ⟨x, hx⟩ := readIpv4_of_parse h
  have happend : (s ++ ":" ++ port).toList = s.toList ++ ':' :: port.toList := by simp
  unfold parse
  rw [happend, readIpv4_append (by decide) (by decide), hx]
  rfl

lemma parse_bracket (s : String) : parse ("[" ++ s) = none := by
  have htoList : ("[" ++ s).toList = '[' :: s.toList := by simp
  have hnumber : ∀ radix maxDigits zero bound, (digitValue radix '[').isSome = false →
      readNumber radix maxDigits zero bound ('[' :: s.toList) = none := by
    intro radix maxDigits zero bound h
    simp [readNumber, h]
  have h4 : readIpv4 ('[' :: s.toList) = none := by
    simp [readIpv4, readOctet, readSeparator, hnumber 10 _ _ _ (by decide)]
  have h6 : readIpv6 ('[' :: s.toList) = none := by
    simp [readIpv6, readGroups, readSeparator, h4, hnumber 16 _ _ _ (by decide)]
  unfold parse
  rw [htoList, h4, h6]

/-! ### The characters of an address -/

/-- A character that the parser can take. -/
def isAddressChar (c : Char) : Bool := (digitValue 16 c).isSome || c = '.' || c = ':'

lemma isAddressChar_range (h : isAddressChar c) : 46 ≤ c.toNat ∧ c.toNat ≤ 102 := by
  simp only [isAddressChar, Bool.or_eq_true, decide_eq_true_eq] at h
  rcases h with (h | rfl) | rfl
  · unfold digitValue at h
    simp only [Option.isSome_filter, Option.any_eq_true] at h
    obtain ⟨v, hv, -⟩ := h
    have h0 : '0'.toNat = 48 := rfl
    have h9 : '9'.toNat = 57 := rfl
    have ha : 'a'.toNat = 97 := rfl
    have hf : 'f'.toNat = 102 := rfl
    have hA : 'A'.toNat = 65 := rfl
    have hF : 'F'.toNat = 70 := rfl
    split at hv
    · omega
    · split at hv
      · omega
      · split at hv
        · omega
        · cases hv
  · decide
  · decide

/-- What was read ends where `rest` begins and is made of such characters. -/
def Took (s rest : List Char) : Prop := ∃ used, s = used ++ rest ∧ used.all isAddressChar

namespace Took

variable {t : List Char}

lemma refl (s : List Char) : Took s s := ⟨[], rfl, rfl⟩

lemma trans (h : Took s t) (h' : Took t rest) : Took s rest := by
  obtain ⟨used, rfl, hused⟩ := h
  obtain ⟨used', rfl, hused'⟩ := h'
  exact ⟨used ++ used', by simp, by rw [all_append, hused, hused', Bool.and_self]⟩

lemma cons (hc : isAddressChar c) (h : Took s rest) : Took (c :: s) rest := by
  obtain ⟨used, rfl, hused⟩ := h
  exact ⟨c :: used, rfl, by rw [all_cons, hc, hused, Bool.and_self]⟩

end Took

lemma isAddressChar_of_decimal (h : (digitValue 10 c).isSome) : isAddressChar c := by
  have hhex : (digitValue 16 c).isSome := by
    unfold digitValue at h ⊢
    simp only [Option.isSome_filter, Option.any_eq_true, decide_eq_true_eq] at h ⊢
    obtain ⟨v, hv, hlt⟩ := h
    exact ⟨v, hv, by omega⟩
  simp [isAddressChar, hhex]

lemma took_readNumber
    (hradix : ∀ c, (digitValue radix c).isSome → isAddressChar c)
    (h : readNumber radix maxDigits zero bound s = some (v, rest)) : Took s rest := by
  simp only [readNumber] at h
  split at h
  · cases h
  · simp only [Option.some.injEq, Prod.mk.injEq] at h
    refine ⟨s.takeWhile fun c => (digitValue radix c).isSome, ?_, ?_⟩
    · rw [← h.2]
      exact (prefix_iff_eq_append.1 ( takeWhile_prefix _)).symm
    · refine all_eq_true.2 fun c hc => hradix c ?_
      exact all_eq_true.1 (all_takeWhile) c hc

lemma took_readSeparator {α : Type} {sep : Char} (hsep : isAddressChar sep)
    {inner : Parser α} (hinner : ∀ s v rest, inner s = some (v, rest) → Took s rest) {v : α}
    (h : readSeparator sep first inner s = some (v, rest)) : Took s rest := by
  unfold readSeparator at h
  split at h
  · exact hinner s v rest h
  · split at h
    · split at h
      · rename_i hc
        exact (hinner _ v rest h).cons (hc ▸ hsep)
      · cases h
    · cases h

lemma took_readOctet (h : readOctet first s = some (v, rest)) : Took s rest :=
  took_readSeparator (by decide)
    (fun _ _ _ => took_readNumber fun _ => isAddressChar_of_decimal) h

lemma took_readIpv4 {v : ℕ × ℕ × ℕ × ℕ} (h : readIpv4 s = some (v, rest)) : Took s rest := by
  simp only [readIpv4, bind_eq_bind, bind_eq_some_iff, Prod.exists] at h
  obtain ⟨a, s1, h1, b, s2, h2, c, s3, h3, d, s4, h4, hret⟩ := h
  obtain rfl : s4 = rest := by
    simp only [Option.pure_def, Option.some.injEq, Prod.mk.injEq] at hret
    exact hret.2
  exact (took_readOctet h1).trans
    ((took_readOctet h2).trans ((took_readOctet h3).trans (took_readOctet h4)))

lemma took_readGroups (n : ℕ) (first : Bool) (s : List Char) :
    Took s (readGroups n first s).2.2 := by
  induction n generalizing first s with
  | zero => exact Took.refl s
  | succ n ih =>
    rw [readGroups]
    split
    · rename_i heq
      split at heq
      · exact took_readSeparator (by decide) (fun _ _ _ => took_readIpv4) heq
      · cases heq
    · split
      · rename_i heq
        refine Took.trans ?_ (ih false _)
        exact took_readSeparator (by decide)
          (fun _ _ _ => took_readNumber fun c hc => by simp [isAddressChar, hc]) heq
      · exact Took.refl s

lemma took_readIpv6 {groups : List ℕ} (h : readIpv6 s = some (groups, rest)) : Took s rest := by
  have hhead := took_readGroups 8 true s
  simp only [readIpv6] at h
  split at h
  · simp only [Option.some.injEq, Prod.mk.injEq] at h
    exact h.2 ▸ hhead
  · split at h
    · cases h
    · split at h
      · rename_i tail heq
        simp only [Option.some.injEq, Prod.mk.injEq] at h
        rw [heq] at hhead
        have htail := took_readGroups (7 - (readGroups 8 true s).1.length) true tail
        rw [h.2] at htail
        exact hhead.trans ((htail.cons (by decide)).cons (by decide))
      · cases h

lemma all_isAddressChar_of_parse {s : String} (h : parse s = some ip) :
    s.toList.all isAddressChar := by
  have htook : Took s.toList [] := by
    unfold parse at h
    split at h
    · rename_i heq
      split at h
      · rename_i hrest
        exact isEmpty_iff.1 hrest ▸ took_readIpv4 heq
      · cases h
    · split at h
      · rename_i heq
        split at h
        · rename_i hrest
          exact isEmpty_iff.1 hrest ▸ took_readIpv6 heq
        · cases h
      · cases h
  obtain ⟨used, hused, hall⟩ := htook
  rw [hused, append_nil]
  exact hall

lemma range_of_parse {s : String} (h : parse s = some ip) :
    ∀ c ∈ s.toList, 46 ≤ c.toNat ∧ c.toNat ≤ 102 := fun c hc =>
  isAddressChar_range (all_eq_true.1 (all_isAddressChar_of_parse h) c hc)

/-! ### Writing an address -/

/-- `{:x}`. -/
def hex (n : ℕ) : String := String.ofList (Nat.toDigits 16 n)

/-- The start and the length of the first longest run of zero groups. -/
def longestZeros (groups : List ℕ) : ℕ × ℕ :=
  let step (acc : (ℕ × ℕ) × (ℕ × ℕ)) (item : ℕ × ℕ) : (ℕ × ℕ) × (ℕ × ℕ) :=
    let (longest, current) := acc
    if item.1 = 0 then
      let current := (if current.2 = 0 then item.2 else current.1, current.2 + 1)
      (if longest.2 < current.2 then current else longest, current)
    else (longest, (0, 0))
  (groups.zipIdx.foldl step ((0, 0), (0, 0))).1

/-- Groups of an IPv6 address with colons between them. -/
def writeGroups (groups : List ℕ) : String := ":".intercalate (groups.map hex)

/-- `Display`: an IPv4-mapped address ends in an IPv4 address, and the longest run of at least two
zero groups is written as `::`. -/
def display : IpAddr → String
  | .v4 o => ".".intercalate ((List.finRange 4).map fun i => toString (o i).val)
  | .v6 g =>
    let groups := (List.finRange 8).map fun i => (g i).val
    if groups.take 6 = [0, 0, 0, 0, 0, 0xffff] then
      let octets := (groups.drop 6).flatMap fun n => [n / 256, n % 256]
      "::ffff:" ++ ".".intercalate (octets.map toString)
    else
      let (start, length) := longestZeros groups
      if 1 < length then
        writeGroups (groups.take start) ++ "::" ++ writeGroups (groups.drop (start + length))
      else writeGroups groups

lemma readNumber_toString (n : Fin 256) :
    readNumber 10 3 false 256 (toString n.val).toList = some (n.val, []) := by
  revert n
  decide +kernel

lemma readNumber_toString_dot (n : Fin 256) (rest : List Char) :
    readNumber 10 3 false 256 ((toString n.val).toList ++ '.' :: rest) =
      some (n.val, '.' :: rest) := by
  rw [readNumber_append (by decide), readNumber_toString]
  rfl

lemma parse_display (o : Fin 4 → Fin 256) : parse (display (.v4 o)) = some (.v4 o) := by
  have htext : (display (.v4 o)).toList = (toString (o 0).val).toList ++ '.' ::
      ((toString (o 1).val).toList ++ '.' :: ((toString (o 2).val).toList ++ '.' ::
        (toString (o 3).val).toList)) := by
    simp [display, finRange_succ]
  have hread : readIpv4 (display (.v4 o)).toList =
      some (((o 0).val, (o 1).val, (o 2).val, (o 3).val), []) := by
    simp only [htext, readIpv4, readOctet, readSeparator, readNumber_toString_dot,
      readNumber_toString, if_true, Bool.false_eq_true, if_false, bind_eq_bind,
      Option.bind_some, Option.pure_def]
  simp only [parse, hread, isEmpty_nil, if_true, ofOctets, Option.some.injEq, v4.injEq]
  funext i
  match i with
  | 0 | 1 | 2 | 3 => simp

/-- The address as a number, most significant part first. -/
def toBits : IpAddr → ℕ
  | .v4 o => (List.finRange 4).foldl (fun n i => n * 256 + (o i).val) 0
  | .v6 g => (List.finRange 8).foldl (fun n i => n * 65536 + (g i).val) 0

/-- `IpAddr::is_loopback`. -/
def isLoopback : IpAddr → Bool
  | .v4 o => o 0 = 127
  | .v6 g => (IpAddr.v6 g).toBits = 1

example : (ofGroups [0xfe80, 0, 0, 1, 0, 0, 0, 1]).display = "fe80:0:0:1::1" := by decide +kernel
example : parse "fe80::1" = some (ofGroups [0xfe80, 0, 0, 0, 0, 0, 0, 1]) := by decide
example : parse "[::1]" = none := by decide

end IpAddr

end ModelPort
