import ModelPort.Gateway.Edge
import ModelPort.Ledger.UsagePolicy

/-!
# API keys and teams

The records of the control store and the functions on single records: the quota subject of a
key, the limits of a subject, whether a key is usable, and the normal forms of the lists a
policy is given as.

A key's status and its principal type are the names the source compares them with; any other
status a document may hold is `KeyStatus.other`.

* `mem_put_iff`, `mem_modify`: which records the store holds after a change.
-/

namespace ModelPort.Control

open Relational

/-! ### Records -/

inductive KeyStatus where
  | active
  | revoked
  | deleted
  | pendingRotation
  | other (name : String)
  deriving DecidableEq

/-- Who a key is for. -/
inductive PrincipalType where
  | user
  | serviceAccount
  deriving DecidableEq

inductive TeamStatus where
  | active
  | archived
  | disabled
  deriving DecidableEq

/-- A team and its limits. -/
structure TeamRecord where
  id : String
  name : String
  slug : String
  status : TeamStatus
  dailyLimitUsd : ℚ
  monthlyLimitUsd : ℚ
  allowedModels : List String
  allowedProviders : List String
  deriving DecidableEq

/-- The spend and rate limits that belong to a quota subject. Zero is no limit. -/
structure SpendLimits where
  spendLimitUsd : ℚ := 0
  rateLimited : Bool := false
  fiveHourLimitUsd : ℚ := 0
  dailyLimitUsd : ℚ := 0
  weeklyLimitUsd : ℚ := 0
  monthlyLimitUsd : ℚ := 0
  deriving DecidableEq

/-- A key of the gateway. -/
structure ApiKeyRecord where
  id : String
  userId : String
  username : String
  name : String
  principalType : PrincipalType
  purpose : Option String
  keyHash : String
  keyPrefix : String
  keyPreview : String
  group : Option String
  teamId : Option String
  teamName : Option String
  allowedModels : List String
  allowedProviders : List String
  tenant : TenantKey
  createdAtMs : ℕ
  expiresAtMs : Option ℕ
  status : KeyStatus
  rotationFromKeyId : Option String
  supersededByKeyId : Option String
  quotaSubjectId : String
  quotaSubjectAliases : List String
  ipRestricted : Bool
  allowedIps : List String
  limits : SpendLimits
  deriving DecidableEq

/-- The keys of the store, by id. -/
abbrev Keys := Table fun r : ApiKeyRecord => [r.id]

/-- The teams of the store, by id. -/
abbrev Teams := Table fun t : TeamRecord => [t.id]

variable {keys : Keys} {id : String} {r s : ApiKeyRecord}

lemma eq_of_id (hr : r ∈ keys.rows) (hs : s ∈ keys.rows) (h : r.id = s.id) : r = s :=
  keys.eq_of_key hr hs (k := r.id) (by simp) (by simp [h])

lemma find_id_eq_some : keys.find id = some r ↔ r ∈ keys.rows ∧ r.id = id := by
  rw [Table.find_eq_some, List.mem_singleton, eq_comm (a := id)]

lemma mem_put_iff : s ∈ (keys.put r).rows ↔ s = r ∨ s ∈ keys.rows ∧ s.id ≠ r.id := by
  simp [Table.mem_put, Apart, eq_comm]

/-- The keys with one record rewritten. -/
def modify (keys : Keys) (id : String) (f : ApiKeyRecord → ApiKeyRecord)
    (hf : ∀ r, (f r).id = r.id) : Keys :=
  keys.update (fun r => r.id = id) f fun r => by simp [hf]

lemma mem_modify {f : ApiKeyRecord → ApiKeyRecord}
    {hf : ∀ r, (f r).id = r.id} : s ∈ (modify keys id f hf).rows ↔
      (∃ r ∈ keys.rows, r.id = id ∧ s = f r) ∨ s ∈ keys.rows ∧ s.id ≠ id := by
  simp only [modify, Table.mem_update_cases, decide_eq_true_eq]

/-! ### Secrets and quota subjects -/

section

-- the SHA-256 digest of a text, in hexadecimal
variable (sha256Hex : String → String)

def hashSecret (value : String) : String := sha256Hex value

/-- The subject of a seed. -/
def quotaSubjectForSeed (seed : String) : String :=
  "qsub_" ++ hashSecret sha256Hex ("modelport-quota-subject-v1:" ++ seed)

/-- The first and the last characters of a secret. -/
def previewSecret (value : String) : String :=
  String.ofList (value.toList.take 8) ++ "..." ++
    String.ofList (value.toList.reverse.take 4).reverse

def ApiKeyRecord.effectiveQuotaSubjectId (r : ApiKeyRecord) : String :=
  if r.quotaSubjectId.isEmpty then r.id else r.quotaSubjectId

def ApiKeyRecord.effectiveQuotaSubjectAliases (r : ApiKeyRecord) : List String :=
  sortDedup (r.quotaSubjectAliases
    ++ [r.id, quotaSubjectForSeed sha256Hex r.id, r.effectiveQuotaSubjectId])

end

/-- A sorted list without repetitions is determined by its elements. -/
lemma sortDedup_congr {l m : List String} (h : ∀ a, a ∈ l ↔ a ∈ m) : sortDedup l = sortDedup m := by
  have hsort : ∀ l : List String, (sortDedup l).Pairwise (· ≤ ·) := fun l =>
    (List.pairwise_insertionSort (· ≤ ·) l).sublist (List.dedup_sublist _)
  have hperm : (sortDedup l).Perm (sortDedup m) :=
    (List.perm_ext_iff_of_nodup (List.nodup_dedup _) (List.nodup_dedup _)).2 (by simpa using h)
  exact hperm.eq_of_pairwise (fun a b _ _ hab hba => le_antisymm hab hba) (hsort l) (hsort m)

/-! ### Limits -/

/-- The stricter of two limits, zero being none. -/
def stricterPositiveLimit (current candidate : ℚ) : ℚ :=
  if 0 < candidate then if 0 < current then min current candidate else candidate else current

/-- Limits tightened by others: `inherit_stricter_spend_limits`, and the fold of
`api_key_policy_with_subject`. -/
def SpendLimits.inherit (target source : SpendLimits) : SpendLimits where
  spendLimitUsd := stricterPositiveLimit target.spendLimitUsd source.spendLimitUsd
  rateLimited := target.rateLimited || source.rateLimited
  fiveHourLimitUsd := stricterPositiveLimit target.fiveHourLimitUsd source.fiveHourLimitUsd
  dailyLimitUsd := stricterPositiveLimit target.dailyLimitUsd source.dailyLimitUsd
  weeklyLimitUsd := stricterPositiveLimit target.weeklyLimitUsd source.weeklyLimitUsd
  monthlyLimitUsd := stricterPositiveLimit target.monthlyLimitUsd source.monthlyLimitUsd

/-- The policy a key carries by itself and from its team. -/
def apiKeyPolicy (r : ApiKeyRecord) (team : Option TeamRecord) : ApiKeyPolicy where
  teamId := r.teamId
  ipRestricted := r.ipRestricted
  allowedIps := r.allowedIps
  allowedModels := r.allowedModels
  allowedProviders := r.allowedProviders
  teamAllowedModels := (team.map (·.allowedModels)).getD []
  teamAllowedProviders := (team.map (·.allowedProviders)).getD []
  teamDailyLimitUsd := (team.map (·.dailyLimitUsd)).getD 0
  teamMonthlyLimitUsd := (team.map (·.monthlyLimitUsd)).getD 0
  spendLimitUsd := r.limits.spendLimitUsd
  rateLimited := r.limits.rateLimited
  fiveHourLimitUsd := r.limits.fiveHourLimitUsd
  dailyLimitUsd := r.limits.dailyLimitUsd
  weeklyLimitUsd := r.limits.weeklyLimitUsd
  monthlyLimitUsd := r.limits.monthlyLimitUsd

/-- The strictest limits of the records of a subject, starting from some limits. -/
def subjectLimits (start : SpendLimits) (subject : String) (records : List ApiKeyRecord) :
    SpendLimits :=
  (records.filter fun r => r.effectiveQuotaSubjectId = subject).foldl
    (fun limits r => limits.inherit r.limits) start

/-- The policy a key is used under: the strictest limits of its subject. -/
def apiKeyPolicyWithSubject (r : ApiKeyRecord) (team : Option TeamRecord)
    (records : List ApiKeyRecord) : ApiKeyPolicy :=
  let limits := subjectLimits r.limits r.effectiveQuotaSubjectId records
  { apiKeyPolicy r team with
    spendLimitUsd := limits.spendLimitUsd
    rateLimited := limits.rateLimited
    fiveHourLimitUsd := limits.fiveHourLimitUsd
    dailyLimitUsd := limits.dailyLimitUsd
    weeklyLimitUsd := limits.weeklyLimitUsd
    monthlyLimitUsd := limits.monthlyLimitUsd }

/-! ### Policy lists -/

/-- The distinct non-blank entries of a list, trimmed, each of which passes a check. -/
def normalizeEntries (check : String → Except AppError Unit) (values : List String) :
    Except AppError (List String) :=
  values.foldlM
    (fun output value =>
      let value := trim value
      if value.isEmpty then .ok output
      else do
        check value
        return if output.contains value then output else output ++ [value])
    []

lemma foldlM_normalize {check : String → Except AppError Unit} {values acc out : List String}
    (h : values.foldlM
      (fun output value =>
        let value := trim value
        if value.isEmpty then .ok output
        else do
          check value
          return if output.contains value then output else output ++ [value]) acc = .ok out)
    (entry : String) :
    (entry ∈ out ↔ entry ∈ acc ∨ entry ≠ "" ∧ ∃ value ∈ values, trim value = entry) ∧
      (entry ∈ out → entry ∈ acc ∨ check entry = .ok ()) := by
  induction values generalizing acc with
  | nil =>
    cases h
    simpa using Or.inl
  | cons value values ih =>
    obtain ⟨next, hnext, h⟩ := Except.bind_eq_ok.1 h
    simp only [String.isEmpty_iff] at hnext
    split at hnext
    · cases hnext
      grind
    · obtain ⟨_, hcheck, hnext⟩ := Except.bind_eq_ok.1 hnext
      cases hnext
      grind

/-- A normalized list has the entries that are not blank, trimmed, and they pass the check. -/
lemma normalizeEntries_spec {check : String → Except AppError Unit} {values out : List String}
    (h : normalizeEntries check values = .ok out) (entry : String) :
    (entry ∈ out ↔ entry ≠ "" ∧ ∃ value ∈ values, trim value = entry) ∧
      (entry ∈ out → check entry = .ok ()) := by
  simpa using foldlM_normalize h entry

def normalizePolicyList (values : List String) : Except AppError (List String) :=
  normalizeEntries
    (fun value =>
      if 160 < byteLen value then
        .error (.invalidRequest "policy entries must be 160 characters or shorter")
      else .ok ())
    values

def validateIpRule (value : String) : Except AppError Unit :=
  let invalid := AppError.invalidRequest ("invalid IP allowlist entry: " ++ value)
  if (IpAddr.parse value).isSome then .ok ()
  else
    match splitOnce '/' value with
    | none => .error invalid
    | some (addr, width) =>
      match IpAddr.parse addr, parseUnsigned 256 width with
      | some (.v4 _), some n => if 32 < n then .error invalid else .ok ()
      | some (.v6 _), some n => if 128 < n then .error invalid else .ok ()
      | _, _ => .error invalid

def normalizeIpRules (values : List String) : Except AppError (List String) :=
  normalizeEntries validateIpRule values

/-! ### Liveness -/

namespace ApiKeyRecord

/-- The key has expired. -/
def expired (r : ApiKeyRecord) (now : ℕ) : Bool := r.expiresAtMs.any (· ≤ now)

/-- The key has no team, or its team is active. -/
def teamActive (r : ApiKeyRecord) (teams : Teams) : Bool :=
  r.teamId.all fun teamId => (teams.find teamId).any fun team => team.status = .active

/-- `api_key_is_usable_for_catalog`. -/
def usableForCatalog (r : ApiKeyRecord) (teams : Teams) (now : ℕ) : Bool :=
  r.status = .active && !r.expired now
    && (!r.ipRestricted || match normalizeIpRules r.allowedIps with
        | .ok rules => !rules.isEmpty
        | .error _ => false)
    && r.teamActive teams

/-- The record is a prepared rotation of a key. -/
def isPendingOf (keyId : String) (r : ApiKeyRecord) : Bool :=
  r.status = .pendingRotation && r.rotationFromKeyId = some keyId

end ApiKeyRecord

end ModelPort.Control
