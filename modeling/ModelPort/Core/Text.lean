import Mathlib

/-!
# Text

The string functions of the Rust standard library that the gateway's validators use. Lengths
come in two units: `String.length` counts characters, `byteLen` counts UTF-8 bytes.
-/

namespace ModelPort

open List

/-- `char::is_control`: the Unicode category `Cc`. -/
def isControl (c : Char) : Bool := c.toNat < 0x20 || (0x7f ≤ c.toNat && c.toNat < 0xa0)

/-- `char::is_whitespace`: the Unicode property `White_Space`. -/
def isWhitespace (c : Char) : Bool :=
  let n := c.toNat
  (0x09 ≤ n && n ≤ 0x0d) || n == 0x20 || n == 0x85 || n == 0xa0 || n == 0x1680
    || (0x2000 ≤ n && n ≤ 0x200a) || n == 0x2028 || n == 0x2029 || n == 0x202f || n == 0x205f
    || n == 0x3000

/-- `str::trim`. -/
def trim (s : String) : String :=
  String.ofList (((s.toList.dropWhile isWhitespace).reverse.dropWhile isWhitespace).reverse)

/-- `str::trim_start`. -/
def trimStart (s : String) : String := String.ofList (s.toList.dropWhile isWhitespace)

/-- `str::len`: the length in UTF-8 bytes. -/
def byteLen (s : String) : ℕ := s.utf8ByteSize

/-- `value.chars().any(char::is_control)`. -/
def hasControl (s : String) : Bool := s.toList.any isControl

/-- `str::starts_with`. -/
def startsWith (s pre : String) : Bool := pre.toList.isPrefixOf s.toList

/-- `str::ends_with`. -/
def endsWith (s suf : String) : Bool := suf.toList.isSuffixOf s.toList

/-- `str::contains`. -/
def contains (s sub : String) : Bool := s.toList.tails.any fun t => sub.toList.isPrefixOf t

/-- `char::to_ascii_lowercase`. -/
def asciiLowerChar (c : Char) : Char :=
  if 'A'.toNat ≤ c.toNat ∧ c.toNat ≤ 'Z'.toNat then Char.ofNat (c.toNat + 32) else c

/-- `str::to_ascii_lowercase`. -/
def asciiLower (s : String) : String := String.ofList (s.toList.map asciiLowerChar)

/-- `str::trim_start_matches` for one character. -/
def trimStartMatches (c : Char) (s : String) : String :=
  String.ofList (s.toList.dropWhile (· == c))

/-- `str::trim_end_matches` for one character. -/
def trimEndMatches (c : Char) (s : String) : String :=
  String.ofList (s.toList.reverse.dropWhile (· == c)).reverse

/-- `str::split_once` at a character: what stands before its first occurrence, and after. -/
def splitOnce (c : Char) (s : String) : Option (String × String) :=
  match s.toList.dropWhile (· != c) with
  | [] => none
  | _ :: rest => some (String.ofList (s.toList.takeWhile (· != c)), String.ofList rest)

/-- `str::rsplit_once` at a character: what stands before its last occurrence, and after. -/
def rsplitOnce (c : Char) (s : String) : Option (String × String) :=
  match s.toList.reverse.dropWhile (· != c) with
  | [] => none
  | _ :: before =>
    some (String.ofList before.reverse,
      String.ofList (s.toList.reverse.takeWhile (· != c)).reverse)

/-- The pieces between the occurrences of a character. -/
def splitChars (c : Char) : List Char → List (List Char)
  | [] => [[]]
  | x :: xs =>
    if x = c then [] :: splitChars c xs
    else
      match splitChars c xs with
      | [] => [[x]]
      | piece :: pieces => (x :: piece) :: pieces

/-- `str::split` at a character. -/
def split (c : Char) (s : String) : List String := (splitChars c s.toList).map String.ofList

/-- `str::strip_suffix` for one character. -/
def stripSuffix (c : Char) (s : String) : Option String :=
  match s.toList.reverse with
  | [] => none
  | last :: rest => if last = c then some (String.ofList rest.reverse) else none

/-- `str::strip_prefix`. -/
def stripStart (pre s : String) : Option String :=
  if startsWith s pre then some (String.ofList (s.toList.drop pre.toList.length)) else none

/-- `str::lines`: each line without its ending, which is a line feed and one carriage return
before it. -/
def lines (s : String) : List String :=
  let pieces := split '\n' s
  pieces.dropLast.map (fun line => (stripSuffix '\r' line).getD line)
    ++ (pieces.getLast?.toList.filter fun last => last != "")

lemma splitChars_ne_nil (c : Char) (s : List Char) : splitChars c s ≠ [] := by
  cases s with
  | nil => simp [splitChars]
  | cons x xs =>
    simp only [splitChars]
    split
    · simp
    · split <;> simp

lemma splitChars_append (c : Char) (s rest : List Char) :
    splitChars c (s ++ c :: rest) = splitChars c s ++ splitChars c rest := by
  induction s with
  | nil => simp [splitChars]
  | cons x xs ih =>
    by_cases hx : x = c
    · simp [splitChars, hx, ih]
    · simp only [cons_append, splitChars, if_neg hx, ih]
      cases hs : splitChars c xs with
      | nil => exact absurd hs (splitChars_ne_nil c xs)
      | cons piece pieces => rfl

variable {c : Char}

lemma splitChars_of_notMem {s : List Char} (h : c ∉ s) : splitChars c s = [s] := by
  induction s with
  | nil => rfl
  | cons x xs ih =>
    rw [mem_cons, not_or] at h
    simp [splitChars, Ne.symm h.1, ih h.2]

variable {s : String}

lemma rsplitOnce_append {rest : String} (h : c ∉ rest.toList) :
    rsplitOnce c (s ++ c.toString ++ rest) = some (s, rest) := by
  have hne : ∀ x ∈ rest.toList.reverse, (x != c) := by
    intro x hx
    rw [bne_iff_ne]
    rintro rfl
    exact h (mem_reverse.1 hx)
  have hrev : (s ++ c.toString ++ rest).toList.reverse =
      rest.toList.reverse ++ c :: s.toList.reverse := by simp
  unfold rsplitOnce
  rw [hrev, dropWhile_append_of_pos hne, takeWhile_append_of_pos hne]
  simp

lemma trim_of_no_whitespace (h : ∀ c ∈ s.toList, isWhitespace c = false) : trim s = s := by
  have hdrop : ∀ l : List Char, (∀ c ∈ l, isWhitespace c = false) →
      l.dropWhile isWhitespace = l := by
    intro l hl
    cases l with
    | nil => rfl
    | cons c l => simp [hl c mem_cons_self]
  unfold trim
  rw [hdrop _ h, hdrop _ fun c hc => h c (mem_reverse.1 hc), reverse_reverse, String.ofList_toList]

lemma trim_trim (s : String) : trim (trim s) = trim s := by
  have htrim : ∀ s, trim s =
      String.ofList ((s.toList.dropWhile isWhitespace).rdropWhile isWhitespace) := fun _ => rfl
  have hfront := dropWhile_idempotent isWhitespace s.toList
  generalize hl : s.toList.dropWhile isWhitespace = l at hfront
  -- cutting the end leaves the front without a blank
  have hcore : (l.rdropWhile isWhitespace).dropWhile isWhitespace = l.rdropWhile isWhitespace := by
    have hcut := rdropWhile_prefix isWhitespace l
    rw [dropWhile_eq_self_iff] at hfront ⊢
    intro hpos
    rw [hcut.getElem hpos]
    exact hfront (Nat.lt_of_lt_of_le hpos hcut.length_le)
  rw [htrim (trim s), htrim s, hl, String.toList_ofList, hcore, rdropWhile_idempotent]

lemma splitOnce_of_notMem (h : c ∉ s.toList) : splitOnce c s = none := by
  have hdrop : s.toList.dropWhile (· != c) = [] := by
    rw [dropWhile_eq_nil_iff]
    rintro x hx
    rw [bne_iff_ne]
    rintro rfl
    exact h hx
  rw [splitOnce, hdrop]

lemma splitOnce_append {l r : List Char} (h : c ∉ l) :
    splitOnce c (String.ofList (l ++ c :: r)) = some (String.ofList l, String.ofList r) := by
  have hne : ∀ x ∈ l, (x != c) := by
    intro x hx
    rw [bne_iff_ne]
    rintro rfl
    exact h hx
  unfold splitOnce
  rw [String.toList_ofList, dropWhile_append_of_pos hne, takeWhile_append_of_pos hne]
  simp

/-- **Trimming a text with a separator**: what stands before the separator is trimmed at the start,
and what follows at the end. -/
lemma splitOnce_trim (hc : isWhitespace c = false) (h : c ∈ s.toList) :
    ∃ p m m', splitOnce c s = some (p, m) ∧ splitOnce c (trim s) = some (trimStart p, m') ∧
      trim m' = trim m ∧ c ∉ p.toList ∧ c ∉ (trimStart p).toList := by
  obtain ⟨l, r, hs, hl⟩ := eq_append_cons_of_mem h
  have hcut : ∀ l r : List Char,
      (l ++ c :: r).dropWhile isWhitespace = l.dropWhile isWhitespace ++ c :: r := by
    intro l r
    rw [dropWhile_append]
    split
    · simp_all
    · rfl
  have hblank : ∀ x ∈ r.rtakeWhile isWhitespace, isWhitespace x :=
    fun x => mem_rtakeWhile_imp
  have hl' : c ∉ l.dropWhile isWhitespace := fun h => hl ((dropWhile_sublist _).mem h)
  refine ⟨String.ofList l, String.ofList r, String.ofList (r.rdropWhile isWhitespace), ?_, ?_, ?_,
    by simpa using hl, by simpa [trimStart] using hl'⟩
  · rw [← String.ofList_toList (s := s), hs, splitOnce_append hl]
  · rw [trim, hs, hcut, reverse_append, reverse_cons, append_assoc,
      singleton_append, hcut, trimStart, String.toList_ofList, ← splitOnce_append hl']
    simp [List.rdropWhile]
  · rw [trim, trim, String.toList_ofList, String.toList_ofList]
    nth_rewrite 2 [← rdropWhile_append_rtakeWhile (p := isWhitespace) (l := r)]
    rw [dropWhile_append]
    split
    · rename_i hempty
      rw [dropWhile_eq_nil_iff.2 hblank, isEmpty_iff.1 hempty]
    · rw [reverse_append, dropWhile_append_of_pos (by simpa using hblank)]

lemma mem_of_mem_trim (h : c ∈ (trim s).toList) : c ∈ s.toList := by
  rw [trim, String.toList_ofList, mem_reverse] at h
  exact (dropWhile_sublist _).mem (mem_reverse.1 ((dropWhile_sublist _).mem h))

/-! ### UTF-8 -/

/-- A continuation byte. -/
def isContinuation (b : UInt8) : Bool := 0x80 ≤ b && b ≤ 0xbf

/-- The second bytes that may follow the lead byte of a sequence of three or four. They keep out
longer spellings of a character, surrogates and what lies above the last character. -/
def mayFollow (lead second : UInt8) : Bool :=
  if lead = 0xe0 then 0xa0 ≤ second && second ≤ 0xbf
  else if lead = 0xed then 0x80 ≤ second && second ≤ 0x9f
  else if lead = 0xf0 then 0x90 ≤ second && second ≤ 0xbf
  else if lead = 0xf4 then 0x80 ≤ second && second ≤ 0x8f
  else isContinuation second

/-- The character at the start of a byte sequence with the bytes it takes; a longest beginning of
a character that does not go on as one is replaced. -/
def decodeChar : List UInt8 → Char × ℕ
  | [] => ('\uFFFD', 1)
  | a :: rest =>
    let value (b : UInt8) : ℕ := b.toNat % 64
    if a < 0x80 then (Char.ofNat a.toNat, 1)
    else if 0xc2 ≤ a ∧ a ≤ 0xdf then
      match rest with
      | b :: _ =>
        if isContinuation b then (Char.ofNat (a.toNat % 32 * 64 + value b), 2)
        else ('\uFFFD', 1)
      | [] => ('\uFFFD', 1)
    else if 0xe0 ≤ a ∧ a ≤ 0xef then
      match rest with
      | b :: c :: _ =>
        if !mayFollow a b then ('\uFFFD', 1)
        else if isContinuation c then
          (Char.ofNat (a.toNat % 16 * 4096 + value b * 64 + value c), 3)
        else ('\uFFFD', 2)
      | [b] => ('\uFFFD', if mayFollow a b then 2 else 1)
      | [] => ('\uFFFD', 1)
    else if 0xf0 ≤ a ∧ a ≤ 0xf4 then
      match rest with
      | b :: c :: d :: _ =>
        if !mayFollow a b then ('\uFFFD', 1)
        else if !isContinuation c then ('\uFFFD', 2)
        else if isContinuation d then
          (Char.ofNat
            (a.toNat % 8 * 262144 + value b * 4096 + value c * 64 + value d), 4)
        else ('\uFFFD', 3)
      | [b, c] => ('\uFFFD', if !mayFollow a b then 1 else if isContinuation c then 3 else 2)
      | [b] => ('\uFFFD', if mayFollow a b then 2 else 1)
      | [] => ('\uFFFD', 1)
    else ('\uFFFD', 1)

/-- The characters of a byte sequence, at most `fuel` of them. -/
def decodeChars : ℕ → List UInt8 → List Char
  | 0, _ => []
  | _ + 1, [] => []
  | fuel + 1, b :: rest =>
    let next := decodeChar (b :: rest)
    next.1 :: decodeChars fuel ((b :: rest).drop next.2)

/-- `String::from_utf8_lossy`. Each character takes a byte or more. -/
def fromUtf8Lossy (bytes : List UInt8) : String :=
  String.ofList (decodeChars bytes.length bytes)

example : fromUtf8Lossy [0x61, 0xc3, 0xa9, 0xe2, 0x82, 0xf0, 0x9f, 0x98, 0x80, 0xff] =
    "aé\uFFFD😀\uFFFD" := by
  decide +kernel

/-! ### Numbers -/

/-- `str::parse` for an unsigned integer type whose values lie below `bound`: digits, possibly
after a plus sign. -/
def parseUnsigned (bound : ℕ) (s : String) : Option ℕ :=
  let digits := if s.toList.head? = some '+' then s.toList.tail else s.toList
  if digits.isEmpty || !digits.all Char.isDigit then none
  else (some (Nat.ofDigitChars 10 digits 0)).filter (· < bound)

lemma toList_toString (n : ℕ) : (toString n).toList = Nat.toDigits 10 n := by
  simp

lemma parseUnsigned_toString {bound n : ℕ} (h : n < bound) :
    parseUnsigned bound (toString n) = some n := by
  have hdigit : ∀ c ∈ Nat.toDigits 10 n, c.isDigit := fun c hc =>
    Nat.isDigit_of_mem_toDigits (by decide) le_rfl hc
  have hne : Nat.toDigits 10 n ≠ [] := Nat.toDigits_ne_nil
  have hplus : (Nat.toDigits 10 n).head? ≠ some '+' := by
    intro hhead
    exact absurd (hdigit '+' (mem_of_mem_head? hhead)) (by decide)
  simp only [parseUnsigned, toList_toString, if_neg hplus]
  simp [all_eq_true.2 hdigit, h]

lemma trim_toString (n : ℕ) : trim (toString n) = toString n := by
  have hblank : ∀ c ∈ Nat.toDigits 10 n, isWhitespace c = false := by
    intro c hc
    have hdigit := Nat.isDigit_of_mem_toDigits (by decide) le_rfl hc
    simp only [Char.isDigit, Bool.and_eq_true, decide_eq_true_eq] at hdigit
    have hlow : 48 ≤ c.toNat := hdigit.1
    have hhigh : c.toNat ≤ 57 := hdigit.2
    simp only [isWhitespace, Bool.or_eq_false_iff, Bool.and_eq_false_imp, decide_eq_true_eq,
      decide_eq_false_iff_not, beq_eq_false_iff_ne]
    omega
  exact trim_of_no_whitespace (by simpa using hblank)

end ModelPort
