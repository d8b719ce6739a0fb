import ModelPort.Control.Records
import ModelPort.Gateway.ClientIp

/-!
# The address allowlist of a key

The rules of an allowlist are texts: an address, or an address and the length of a network's
prefix. `normalizeIpRules` accepts a list of them, `enforceIpPolicy` compares a client's address
with them.

* `ip_allowlist_exact`: the accepted clients are those in one of the networks.
-/

namespace ModelPort

open Except

variable {ip : IpAddr}

namespace IpAddr

/-- The number of bits of an address. -/
def bits : IpAddr → ℕ
  | .v4 _ => 32
  | .v6 _ => 128

/-- The bit at a position, counted from the most significant one. -/
def bit (ip : IpAddr) (i : ℕ) : Bool := ip.toBits.testBit (ip.bits - 1 - i)

lemma foldl_digits_lt {ι : Type} {base : ℕ} (digit : ι → Fin base) (l : List ι) {n m : ℕ}
    (h : n < base ^ m) :
    l.foldl (fun n i => n * base + (digit i).val) n < base ^ (m + l.length) := by
  induction l generalizing n m with
  | nil => exact h
  | cons i l ih =>
    rw [List.foldl_cons, List.length_cons, Nat.add_comm l.length, ← Nat.add_assoc]
    refine ih ?_
    calc n * base + (digit i).val < n * base + base := Nat.add_lt_add_left (digit i).isLt _
      _ = (n + 1) * base := (Nat.succ_mul n base).symm
      _ ≤ base ^ m * base := Nat.mul_le_mul_right base h

lemma toBits_lt (ip : IpAddr) : ip.toBits < 2 ^ ip.bits := by
  have hzero : ∀ base, 0 < base ^ 0 := fun base => Nat.zero_lt_one
  cases ip with
  | v4 o =>
    rw [bits, show 2 ^ 32 = 256 ^ (0 + (List.finRange 4).length) by norm_num]
    exact foldl_digits_lt o _ (hzero 256)
  | v6 g =>
    rw [bits, show 2 ^ 128 = 65536 ^ (0 + (List.finRange 8).length) by norm_num]
    exact foldl_digits_lt g _ (hzero 65536)

lemma notMem_slash {s : String} (h : parse s = some ip) : '/' ∉ s.toList := by
  intro hmem
  exact absurd (List.all_eq_true.1 (all_isAddressChar_of_parse h) '/' hmem) (by decide)

end IpAddr

namespace Gateway

/-- The rule is the address, or a network that has it. -/
def RuleCovers (rule : String) (ip : IpAddr) : Prop :=
  IpAddr.parse rule = some ip ∨
    ∃ base width b p, splitOnce '/' rule = some (base, width) ∧ IpAddr.parse base = some b ∧
      parseUnsigned 256 width = some p ∧ b.bits = ip.bits ∧ ∀ i < p, b.bit i = ip.bit i

variable {b : IpAddr} {p : ℕ}

/-- The first bits are what a shift leaves. -/
lemma cidrMatches_iff (hfam : b.bits = ip.bits) (hp : p ≤ ip.bits) :
    cidrMatches b.toBits ip.toBits p ip.bits ↔ ∀ i < p, b.bit i = ip.bit i := by
  have hshift : cidrMatches b.toBits ip.toBits p ip.bits ↔
      b.toBits >>> (ip.bits - p) = ip.toBits >>> (ip.bits - p) := by
    rcases Nat.eq_zero_or_pos p with rfl | hpos
    · simp [cidrMatches, Nat.shiftRight_eq_div_pow, Nat.div_eq_of_lt ip.toBits_lt,
        Nat.div_eq_of_lt (hfam ▸ b.toBits_lt)]
    · simp [cidrMatches, hpos.ne']
  rw [hshift]
  simp only [IpAddr.bit, hfam]
  constructor
  · intro h i hi
    have hbit := congrArg (Nat.testBit · (p - 1 - i)) h
    simp only [Nat.testBit_shiftRight] at hbit
    rwa [show ip.bits - p + (p - 1 - i) = ip.bits - 1 - i by omega] at hbit
  · intro h
    refine Nat.eq_of_testBit_eq fun j => ?_
    rw [Nat.testBit_shiftRight, Nat.testBit_shiftRight]
    rcases Nat.lt_or_ge j p with hj | hj
    · have hbit := h (p - 1 - j) (by omega)
      rwa [show ip.bits - 1 - (p - 1 - j) = ip.bits - p + j by omega] at hbit
    · have hle : ip.bits ≤ ip.bits - p + j := by omega
      rw [Nat.testBit_lt_two_pow (ip.toBits_lt.trans_le (Nat.pow_le_pow_right (by decide) hle)),
        Nat.testBit_lt_two_pow ((hfam ▸ b.toBits_lt).trans_le
          (Nat.pow_le_pow_right (by decide) hle))]

lemma ipRuleMatches_cidr (hp : p ≤ b.bits) :
    ipRuleMatches (.cidr b p) ip ↔ b.bits = ip.bits ∧ ∀ i < p, b.bit i = ip.bit i := by
  have hmatches : ipRuleMatches (.cidr b p) ip ↔
      b.bits = ip.bits ∧ cidrMatches b.toBits ip.toBits p ip.bits := by
    cases b with
    | v4 o => cases ip <;> simp_all [ipRuleMatches, IpAddr.bits]
    | v6 g => cases ip <;> simp_all [ipRuleMatches, IpAddr.bits]
  rw [hmatches]
  exact and_congr_right fun hfam => cidrMatches_iff hfam (hfam ▸ hp)

variable {rule : String}

/-- What an accepted rule is. -/
lemma parseIpRule_of_valid (hvalid : Control.validateIpRule rule = .ok ())
    (hexact : IpAddr.parse rule = none) :
    ∃ base width b p, splitOnce '/' rule = some (base, width) ∧ IpAddr.parse base = some b ∧
      parseUnsigned 256 width = some p ∧ p ≤ b.bits ∧ parseIpRule rule = some (.cidr b p) := by
  simp only [Control.validateIpRule, parseIpRule, hexact, Option.isSome_none, Bool.false_eq_true,
    if_false] at hvalid ⊢
  rcases hsplit : splitOnce '/' rule with _ | ⟨base, width⟩
  · simp [hsplit] at hvalid
  rcases hbase : IpAddr.parse base with _ | b
  · simp [hsplit, hbase] at hvalid
  rcases hwidth : parseUnsigned 256 width with _ | p
  · cases b <;> simp [hsplit, hbase, hwidth] at hvalid
  have hp : p ≤ b.bits := by
    cases b <;> simpa [hsplit, hbase, hwidth, IpAddr.bits] using hvalid
  refine ⟨base, width, b, p, rfl, hbase, hwidth, hp, ?_⟩
  cases b <;> simpa [hbase, hwidth, IpAddr.bits] using hp

/-- An accepted rule matches the addresses it covers. -/
lemma allowedIpMatches_iff (hvalid : Control.validateIpRule rule = .ok ()) :
    allowedIpMatches rule ip ↔ RuleCovers rule ip := by
  unfold allowedIpMatches RuleCovers
  cases hexact : IpAddr.parse rule with
  | some exact =>
    simp [parseIpRule, hexact, ipRuleMatches, splitOnce_of_notMem (IpAddr.notMem_slash hexact)]
  | none =>
    obtain ⟨base, width, b, p, hsplit, hbase, hwidth, hp, hparse⟩ :=
      parseIpRule_of_valid hvalid hexact
    rw [hparse, Option.any_some, ipRuleMatches_cidr hp]
    simp [hsplit, hbase, hwidth]

/-- **An allowlist accepts exactly the clients in its networks.** -/
theorem ip_allowlist_exact {values rules : List String} {text : String}
    (hrules : Control.normalizeIpRules values = .ok rules) (hip : IpAddr.parse text = some ip) :
    enforceIpPolicy true rules (some text) = .ok () ↔ ∃ rule ∈ rules, RuleCovers rule ip := by
  have hparse : parseIpWithOptionalPort text = some ip := by
    simp only [parseIpWithOptionalPort, trim_of_parse hip, hip]
  have hmatches : (rules.any fun rule => allowedIpMatches rule ip) ↔
      ∃ rule ∈ rules, RuleCovers rule ip := by
    rw [List.any_eq_true]
    refine exists_congr fun rule => and_congr_right fun hrule => allowedIpMatches_iff ?_
    exact (Control.normalizeEntries_spec hrules rule).2 hrule
  unfold enforceIpPolicy
  simp only [Bool.not_true, Bool.false_eq_true, hparse]
  rw [← hmatches]
  cases rules with
  | nil => simp
  | cons first rest =>
    simp only [List.isEmpty_cons, Bool.false_eq_true, if_false]
    split <;> simp_all

/-- A client whose network is listed, twice and with a blank. -/
theorem ip_allowlist_exact_sample :
    enforceIpPolicy true ["10.1.0.0/16"] (some "10.1.2.3") = .ok () := by
  have hrules : Control.normalizeIpRules [" 10.1.0.0/16", "10.1.0.0/16"] = .ok ["10.1.0.0/16"] := by
    decide +kernel
  have hip : IpAddr.parse "10.1.2.3" = some (.ofOctets 10 1 2 3) := by decide +kernel
  refine (ip_allowlist_exact hrules hip).2 ⟨_, List.mem_singleton_self _, .inr ?_⟩
  exact ⟨"10.1.0.0", "16", .ofOctets 10 1 0 0, 16, by decide +kernel, by decide +kernel,
    by decide +kernel, rfl, by decide +kernel⟩

end Gateway

end ModelPort
