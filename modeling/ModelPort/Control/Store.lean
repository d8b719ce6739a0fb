import ModelPort.Control.Repair

/-!
# The operations of the control store on API keys and teams

Every operation reads the state under the store's lock. It is refused, or it answers, or it
prepares a changed state to be saved (`Outcome`). What saving does is said in `Control.Run`.
Times, random ids and fresh secrets are arguments.

The control file has more sections (quotas, routes, provider settings); no operation on keys and
teams reads them.
-/

namespace ModelPort.Control

open Relational Except

/-! ### State -/

/-- The part of the store that concerns keys and teams. -/
structure ControlInner where
  teams : Teams
  apiKeys : Keys
  /-- from the hash of a secret to the id of its key -/
  apiKeyHashIndex : StringMap String

/-- The persisted document. -/
structure ControlFile where
  teams : List TeamRecord
  apiKeys : List ApiKeyRecord
  deriving DecidableEq

/-- The index of a set of keys: a cleared hash is not in it. -/
def hashIndex (keys : Keys) : StringMap String :=
  (keys.rows.filter fun r => !r.keyHash.isEmpty).foldl
    (fun index r => index.insert r.keyHash r.id) ∅

def ControlInner.rebuildApiKeyHashIndex (inner : ControlInner) : ControlInner :=
  { inner with apiKeyHashIndex := hashIndex inner.apiKeys }

/-- The document of a state. -/
def ControlInner.toFile (inner : ControlInner) : ControlFile where
  teams := inner.teams.rows
  apiKeys := inner.apiKeys.rows

/-- The state of a document. -/
def ControlFile.toInner (file : ControlFile) : ControlInner where
  teams := Table.ofRows file.teams
  apiKeys := Table.ofRows file.apiKeys
  apiKeyHashIndex := hashIndex (Table.ofRows file.apiKeys)

/-- What an operation that is not refused does: it answers, or it saves a changed state and then
returns a result. -/
inductive Outcome (α : Type) where
  | answer (result : α)
  | save (next : ControlInner) (result : Except AppError α)

/-- The outcome without its result. -/
def Outcome.discard {α : Type} : Outcome α → Outcome Unit
  | .answer _ => .answer ()
  | .save next result => .save next (result.map fun _ => ())

/-! ### Changes of the set of keys -/

/-- The keys without the prepared rotations of a key. -/
def purge (keys : Keys) (keyId : String) : Keys := keys.retain fun r => !r.isPendingOf keyId

/-- The keys with one of them revoked. -/
def revoke (keys : Keys) (keyId : String) : Keys :=
  modify keys keyId (fun r => { r with status := .revoked }) fun _ => rfl

/-- The keys with one of them deleted. -/
def tombstone (keys : Keys) (keyId : String) : Keys :=
  modify keys keyId (fun r => { r with status := .deleted, keyHash := "" }) fun _ => rfl

/-- The keys after a rotation: the source is retired and the replacement stands in for it. -/
def handover (keys : Keys) (keyId : String) (replacement : ApiKeyRecord) : Keys :=
  (modify keys keyId (·.retire replacement.id) fun r => r.retire_id _).put replacement

/-! ### Authentication -/

/-- The headers a secret is presented in. -/
structure ClientHeaders where
  xApiKey : Gateway.Header := none
  authorization : Gateway.Header := none

def clientToken (headers : ClientHeaders) : Option String :=
  headers.xApiKey.join.or (headers.authorization.join.bind (stripStart "Bearer "))

/-- The client a secret stands for. -/
structure ClientIdentity extends Gateway.ClientIdentity where
  principalType : PrincipalType
  purpose : Option String
  quotaSubjectAliases : List String
  enforceQuotas : Bool
  apiKeyPolicy : ApiKeyPolicy

section

variable (sha256Hex : String → String)

/-- The identity of the holder of a key. -/
def identityOf (record : ApiKeyRecord) (inner : ControlInner) : ClientIdentity where
  userId := record.userId
  username := record.username
  apiKeyId := some record.id
  quotaSubjectId := some record.effectiveQuotaSubjectId
  apiKeyName := some record.name
  apiKeyGroup := record.group
  teamId := record.teamId
  teamName := record.teamName
  principalType := record.principalType
  purpose := record.purpose
  quotaSubjectAliases := record.effectiveQuotaSubjectAliases sha256Hex
  enforceQuotas := true
  apiKeyPolicy := apiKeyPolicyWithSubject record (record.teamId.bind inner.teams.find)
    inner.apiKeys.rows

/-- What becomes of a presented secret whose key was found. -/
def admitKey (record : ApiKeyRecord) (now : ℕ) (inner : ControlInner) :
    Except AppError (Outcome (Option ClientIdentity)) :=
  if record.status ≠ .active then .error .auth
  else if record.expired now then
    .ok (.save { inner with apiKeys := revoke inner.apiKeys record.id } (.error .auth))
  else if record.teamActive inner.teams then
    .ok (.answer (some (identityOf sha256Hex record inner)))
  else .error (.forbidden "API key team is not active")

/-- The key of a secret, by the index. -/
def keyOfToken (inner : ControlInner) (token : String) : Option ApiKeyRecord :=
  (inner.apiKeyHashIndex.lookup (hashSecret sha256Hex token)).bind inner.apiKeys.find

def authenticateHeaders (headers : ClientHeaders) (now : ℕ) (inner : ControlInner) :
    Except AppError (Outcome (Option ClientIdentity)) :=
  match (clientToken headers).bind (keyOfToken sha256Hex inner) with
  | none => .ok (.answer none)
  | some record => admitKey sha256Hex record now inner

end

/-! ### Checks -/

def findKey (inner : ControlInner) (keyId message : String) : Except AppError ApiKeyRecord :=
  match inner.apiKeys.find keyId with
  | some record => .ok record
  | none => .error (.invalidRequest message)

def pendingRotationMutationError : AppError :=
  .invalidRequest "a pending API key rotation can only be confirmed or cancelled"

/-- A record that may still be modified: no prepared rotation, not deleted, not superseded. -/
def ensureMutable (record : ApiKeyRecord) (deletedMessage supersededMessage : String) :
    Except AppError Unit := do
  ensure (record.status ≠ .pendingRotation) pendingRotationMutationError
  ensure (record.status ≠ .deleted) (.invalidRequest deletedMessage)
  ensure record.supersededByKeyId.isNone (.invalidRequest supersededMessage)

def validateKeyName (name : String) : Except AppError String := do
  let name := trim name
  ensure (!name.isEmpty && byteLen name ≤ 80)
    (.invalidRequest "API key name must be 1-80 characters")
  return name

variable (value : String)

/-- A timestamp in milliseconds; a blank text is none. -/
def parseExpiresAt : Except AppError (Option ℕ) :=
  let value := trim value
  if value.isEmpty then .ok none
  else
    match parseUnsigned (2 ^ 64) value with
    | some expiresAt => .ok (some expiresAt)
    | none => .error (.invalidRequest "expiresAt must be a millisecond timestamp")

def parsePrincipalType (value : Option String) : Except AppError PrincipalType :=
  match asciiLower (trim (value.getD "user")) with
  | "user" => .ok .user
  | "service_account" => .ok .serviceAccount
  | _ => .error (.invalidRequest "principalType must be user or service_account")

/-- The longest lifetime of a service account's key: 90 days. -/
def maxServiceAccountTtlMs : ℕ := 90 * 24 * 60 * 60 * 1000

/-- What a key of a service account must have. -/
def checkServiceAccount (now : ℕ) (expiresAtMs : Option ℕ)
    (allowedModels allowedProviders : List String)
    (purpose : Option String) : Except AppError Unit := do
  ensure expiresAtMs.isSome
    (.invalidRequest "service accounts require an explicit expiresAt timestamp")
  ensure (!expiresAtMs.any fun expiresAt => maxServiceAccountTtlMs < expiresAt - now)
    (.invalidRequest "service account lifetime cannot exceed 90 days")
  ensure (!allowedModels.isEmpty && !allowedProviders.isEmpty)
    (.invalidRequest "service accounts require explicit model and provider scopes")
  ensure (purpose.any fun value => 8 ≤ byteLen value && byteLen value ≤ 240)
    (.invalidRequest "service account purpose must contain 8-240 characters")

def checkPrincipal (principalType : PrincipalType) (now : ℕ) (expiresAtMs : Option ℕ)
    (allowedModels allowedProviders : List String) (purpose : Option String) :
    Except AppError Unit :=
  match principalType with
  | .user => .ok ()
  | .serviceAccount => checkServiceAccount now expiresAtMs allowedModels allowedProviders purpose

def normalizedTenantId (field value : String) : Except AppError String := do
  let value := trim value
  ensure (Gateway.validTenantIdentifier value)
    (.invalidRequest ("API key " ++ field ++ " must contain 1-128 safe scope characters"))
  return value

def defaultTenant : TenantKey where
  organizationId := "org_local"
  projectId := "prj_default"
  environmentId := "env_default"

def normalizeTenantScope : Option String → Option String → Option String →
    Except AppError TenantKey
  | none, none, none => .ok defaultTenant
  | some organizationId, some projectId, some environmentId => do
      let organizationId ← normalizedTenantId "organizationId" organizationId
      let projectId ← normalizedTenantId "projectId" projectId
      let environmentId ← normalizedTenantId "environmentId" environmentId
      return { organizationId, projectId, environmentId }
  | _, _, _ => .error (.invalidRequest
      "API key organizationId, projectId, and environmentId must be supplied together")

/-- The team an id names, with its name; a blank id names none. -/
def resolveTeamRef (inner : ControlInner) (teamId : Option String) :
    Except AppError (Option String × Option String) :=
  match (teamId.map trim).filter fun id => !id.isEmpty with
  | none => .ok (none, none)
  | some teamId =>
    match inner.teams.find teamId with
    | some team => .ok (some team.id, some team.name)
    | none => .error (.invalidRequest "team not found")

def validateUsdLimit (field : String) (value : ℚ) : Except AppError Unit :=
  ensure (0 ≤ value) (.invalidRequest (field ++ " must be zero or greater"))

/-! ### Creation -/

/-- A key to create. -/
structure CreateApiKeyInput where
  userId : String
  username : Option String := none
  name : String
  principalType : Option String := none
  purpose : Option String := none
  group : Option String := none
  teamId : Option String := none
  allowedModels : Option (List String) := none
  allowedProviders : Option (List String) := none
  expiresAt : Option String := none

/-- A record together with the secret that is shown once. -/
structure CreatedApiKey where
  record : ApiKeyRecord
  key : String

/-- The keys of an owner who is a person. -/
def isUserKeyOf (owner : String) (r : ApiKeyRecord) : Bool :=
  r.userId = owner && r.principalType = .user

/-- The user may have another usable key. -/
def checkActiveLimit (inner : ControlInner) (userId : String) (now : ℕ) :
    Option ℕ → Except AppError Unit
  | none => .ok ()
  | some maxActive =>
    ensure ((inner.apiKeys.rows.countP fun r =>
        r.userId = userId && r.usableForCatalog inner.teams now) < maxActive)
      (.forbidden ("self-service is limited to " ++ toString maxActive ++ " active API keys"))

section

variable (sha256Hex : String → String)

/-- The subject that all keys of an owner share from now on: the subject of the oldest key. -/
def ownerSubject (keys : Keys) (owner : String) : String :=
  (((keys.rows.filter (isUserKeyOf owner)).argmin fun r => toLex (r.createdAtMs, r.id)).map
      (·.effectiveQuotaSubjectId)).getD
    (quotaSubjectForSeed sha256Hex ("self-service-user:" ++ owner))

/-- The aliases that all keys of an owner share from now on. -/
def ownerAliases (keys : Keys) (record : ApiKeyRecord) : List String :=
  sortDedup (record.effectiveQuotaSubjectAliases sha256Hex
    ++ (keys.rows.filter (isUserKeyOf record.userId)).flatMap
      (·.effectiveQuotaSubjectAliases sha256Hex)
    ++ [ownerSubject sha256Hex keys record.userId])

/-- The limits of a new key: the strictest of the owner's keys. -/
def ownerLimits (keys : Keys) (record : ApiKeyRecord) : SpendLimits :=
  (keys.rows.filter (isUserKeyOf record.userId)).foldl
    (fun limits r => limits.inherit r.limits) record.limits

/-- A record on the subject of its owner. -/
def joinOwner (keys : Keys) (record r : ApiKeyRecord) : ApiKeyRecord :=
  { r with
    quotaSubjectId := ownerSubject sha256Hex keys record.userId
    quotaSubjectAliases := ownerAliases sha256Hex keys record
    limits := ownerLimits keys record }

/-- A key created in self-service brings all keys of its owner onto one subject. -/
def enroll (keys : Keys) (record : ApiKeyRecord) : Keys :=
  (keys.update (isUserKeyOf record.userId) (joinOwner sha256Hex keys record)
    fun _ => rfl).put (joinOwner sha256Hex keys record record)

/-- The record of a new key, from the input; the store assigns subject and limits later. -/
def newApiKeyRecord (input : CreateApiKeyInput) (now : ℕ) (uuid key : String)
    (inner : ControlInner) : Except AppError ApiKeyRecord := do
  let name ← validateKeyName input.name
  let userId := trim input.userId
  ensure (!userId.isEmpty) (.invalidRequest "userId is required")
  let allowedModels ← normalizePolicyList (input.allowedModels.getD [])
  let allowedProviders ← normalizePolicyList (input.allowedProviders.getD [])
  let principalType ← parsePrincipalType input.principalType
  let purpose := (input.purpose.map trim).filter fun value => !value.isEmpty
  let tenant ← normalizeTenantScope none none none
  let expiresAtMs ← (input.expiresAt.elim (.ok none) parseExpiresAt : Except AppError (Option ℕ))
  ensure (!expiresAtMs.any (· ≤ now)) (.invalidRequest "cannot create an expired API key")
  checkPrincipal principalType now expiresAtMs allowedModels allowedProviders purpose
  let team ← resolveTeamRef inner input.teamId
  return {
    id := "key_" ++ uuid
    userId := userId
    username := input.username.getD userId
    name := name
    principalType := principalType
    purpose := purpose
    keyHash := hashSecret sha256Hex key
    keyPrefix := String.ofList (key.toList.take 12)
    keyPreview := previewSecret key
    group := input.group.filter fun value => !(trim value).isEmpty
    teamId := team.1
    teamName := team.2
    allowedModels := allowedModels
    allowedProviders := allowedProviders
    tenant := tenant
    createdAtMs := now
    expiresAtMs := expiresAtMs
    status := .active
    rotationFromKeyId := none
    supersededByKeyId := none
    quotaSubjectId := quotaSubjectForSeed sha256Hex ("key_" ++ uuid)
    quotaSubjectAliases := ["key_" ++ uuid]
    ipRestricted := false
    allowedIps := []
    limits := {} }

/-- `create_api_key_inner`; `maxActive` is given in self-service. -/
def createApiKeyInner (input : CreateApiKeyInput) (maxActive : Option ℕ) (now : ℕ)
    (uuid key : String) (inner : ControlInner) : Except AppError (Outcome CreatedApiKey) := do
  let record ← newApiKeyRecord sha256Hex input now uuid key inner
  checkActiveLimit inner record.userId now maxActive
  match maxActive with
  | none => return .save { inner with apiKeys := inner.apiKeys.put record } (.ok ⟨record, key⟩)
  | some _ =>
    return .save { inner with apiKeys := enroll sha256Hex inner.apiKeys record }
      (.ok ⟨joinOwner sha256Hex inner.apiKeys record record, key⟩)

/-! ### Rotation -/

/-- The aliases of a replacement: those of its source, and its own. -/
def lineageAliases (current : ApiKeyRecord) (replacementId : String) : List String :=
  sortDedup (current.effectiveQuotaSubjectAliases sha256Hex
    ++ [replacementId, quotaSubjectForSeed sha256Hex replacementId])

/-- A prepared replacement of a key. -/
def prepareReplacement (current : ApiKeyRecord) (id key : String) (now : ℕ) : ApiKeyRecord :=
  { current with
    id := id
    keyHash := hashSecret sha256Hex key
    keyPrefix := String.ofList (key.toList.take 12)
    keyPreview := previewSecret key
    createdAtMs := now
    status := .pendingRotation
    rotationFromKeyId := some current.id
    supersededByKeyId := none
    quotaSubjectId := current.effectiveQuotaSubjectId
    quotaSubjectAliases := lineageAliases sha256Hex current id }

def rotateApiKey (keyId : String) (now : ℕ) (uuid key : String) (inner : ControlInner) :
    Except AppError (Outcome CreatedApiKey) := do
  let current ← findKey inner keyId "API key not found"
  ensure (current.status = .active) (.invalidRequest "only an active API key can be rotated")
  ensure (!current.expired now) (.invalidRequest "an expired API key cannot be rotated")
  let replacement := prepareReplacement sha256Hex current ("key_" ++ uuid) key now
  return .save { inner with apiKeys := (purge inner.apiKeys keyId).put replacement }
    (.ok ⟨replacement, key⟩)

/-- The replacement when it takes over: everything but the secret is the source's. -/
def takeOver (current replacement : ApiKeyRecord) : ApiKeyRecord :=
  { current with
    id := replacement.id
    keyHash := replacement.keyHash
    keyPrefix := replacement.keyPrefix
    keyPreview := replacement.keyPreview
    createdAtMs := replacement.createdAtMs
    status := .active
    rotationFromKeyId := some current.id
    supersededByKeyId := none
    quotaSubjectAliases := lineageAliases sha256Hex current replacement.id }

/-- The replacement when its confirmation is repeated. -/
def refresh (current replacement : ApiKeyRecord) : ApiKeyRecord :=
  { replacement with
    quotaSubjectId := current.effectiveQuotaSubjectId
    quotaSubjectAliases := lineageAliases sha256Hex current replacement.id }

def confirmApiKeyRotation (keyId replacementId : String) (now : ℕ) (inner : ControlInner) :
    Except AppError (Outcome ApiKeyRecord) := do
  let current ← findKey inner keyId "API key not found"
  let replacement ← findKey inner replacementId "prepared API key rotation not found"
  -- a repeated confirmation returns the replacement that is already active
  if replacement.status = .active ∧ replacement.rotationFromKeyId = some keyId then
    let replacement := refresh sha256Hex current replacement
    return .save { inner with apiKeys := handover inner.apiKeys keyId replacement }
      (.ok replacement)
  else do
    ensure (current.status = .active && !current.expired now)
      (.invalidRequest "source API key is no longer active")
    ensure (replacement.isPendingOf keyId)
      (.invalidRequest "replacement does not belong to this API key rotation")
    let replacement := takeOver sha256Hex current replacement
    return .save { inner with apiKeys := handover inner.apiKeys keyId replacement }
      (.ok replacement)

end

def cancelApiKeyRotation (keyId replacementId : String) (inner : ControlInner) :
    Except AppError (Outcome Unit) :=
  let sourceIsActive := (inner.apiKeys.find keyId).any fun r => r.status = .active
  let pendingMatches := (inner.apiKeys.find replacementId).any (·.isPendingOf keyId)
  if sourceIsActive && (inner.apiKeys.find replacementId).isNone then .ok (.answer ())
  else do
    ensure pendingMatches (.invalidRequest "prepared API key rotation not found")
    return .save { inner with apiKeys := inner.apiKeys.retain fun r => r.id ≠ replacementId }
      (.ok ())

/-! ### Modification -/

/-- The fields of a key to change. -/
structure UpdateApiKeyInput where
  name : Option String := none
  group : Option String := none
  teamId : Option String := none
  allowedModels : Option (List String) := none
  allowedProviders : Option (List String) := none
  expiresAt : Option String := none
  status : Option String := none
  ipRestricted : Option Bool := none
  allowedIps : Option (List String) := none
  spendLimitUsd : Option ℚ := none
  rateLimited : Option Bool := none
  fiveHourLimitUsd : Option ℚ := none
  dailyLimitUsd : Option ℚ := none
  weeklyLimitUsd : Option ℚ := none
  monthlyLimitUsd : Option ℚ := none

namespace UpdateApiKeyInput

variable (input : UpdateApiKeyInput)

/-- The limits with those that are given replaced. -/
def applyLimits (limits : SpendLimits) : SpendLimits where
  spendLimitUsd := input.spendLimitUsd.getD limits.spendLimitUsd
  rateLimited := input.rateLimited.getD limits.rateLimited
  fiveHourLimitUsd := input.fiveHourLimitUsd.getD limits.fiveHourLimitUsd
  dailyLimitUsd := input.dailyLimitUsd.getD limits.dailyLimitUsd
  weeklyLimitUsd := input.weeklyLimitUsd.getD limits.weeklyLimitUsd
  monthlyLimitUsd := input.monthlyLimitUsd.getD limits.monthlyLimitUsd

/-- Some limit is given. -/
def changesLimits : Bool :=
  input.spendLimitUsd.isSome || input.rateLimited.isSome || input.fiveHourLimitUsd.isSome
    || input.dailyLimitUsd.isSome || input.weeklyLimitUsd.isSome || input.monthlyLimitUsd.isSome

/-- The limits that are given are not negative. -/
def checkLimits : Except AppError Unit := do
  input.spendLimitUsd.elim (.ok ()) (validateUsdLimit "spendLimitUsd")
  input.fiveHourLimitUsd.elim (.ok ()) (validateUsdLimit "fiveHourLimitUsd")
  input.dailyLimitUsd.elim (.ok ()) (validateUsdLimit "dailyLimitUsd")
  input.weeklyLimitUsd.elim (.ok ()) (validateUsdLimit "weeklyLimitUsd")
  input.monthlyLimitUsd.elim (.ok ()) (validateUsdLimit "monthlyLimitUsd")

end UpdateApiKeyInput

/-- The statuses an update may set. -/
def parseKeyStatus : Except AppError KeyStatus :=
  match trim value with
  | "active" => .ok .active
  | "revoked" => .ok .revoked
  | _ => .error (.invalidRequest "invalid API key status")

/-- The group of a key; a blank one is none. -/
def updatedGroup (current : Option String) : Option String → Option String
  | none => current
  | some group => if (trim group).isEmpty then none else some (trim group)

/-- A field that an update may leave as it is. -/
def updatedField {α β : Type} (current : α) (parse : β → Except AppError α) :
    Option β → Except AppError α
  | none => .ok current
  | some value => parse value

/-- The record after an update. -/
def updatedRecord (input : UpdateApiKeyInput) (now : ℕ) (inner : ControlInner)
    (record : ApiKeyRecord) : Except AppError ApiKeyRecord := do
  input.checkLimits
  let name ← updatedField record.name validateKeyName input.name
  let team ← updatedField (record.teamId, record.teamName)
    (fun teamId => resolveTeamRef inner (some teamId)) input.teamId
  let allowedModels ← updatedField record.allowedModels normalizePolicyList input.allowedModels
  let allowedProviders ←
    updatedField record.allowedProviders normalizePolicyList input.allowedProviders
  let expiresAtMs ← updatedField record.expiresAtMs parseExpiresAt input.expiresAt
  let status ← updatedField record.status parseKeyStatus input.status
  let allowedIps ← updatedField record.allowedIps normalizeIpRules input.allowedIps
  ensure (!(status = .active && expiresAtMs.any (· ≤ now)))
    (.invalidRequest "cannot activate an expired API key")
  return { record with
    name := name
    group := updatedGroup record.group input.group
    teamId := team.1
    teamName := team.2
    allowedModels := allowedModels
    allowedProviders := allowedProviders
    expiresAtMs := expiresAtMs
    status := status
    ipRestricted := input.ipRestricted.getD record.ipRestricted
    allowedIps := allowedIps
    limits := input.applyLimits record.limits }

/-- The given limits, on every record of a subject. -/
def syncLimits (input : UpdateApiKeyInput) (subject : String) (keys : Keys) : Keys :=
  if input.changesLimits then
    keys.update (fun r => r.effectiveQuotaSubjectId = subject)
      (fun r => { r with limits := input.applyLimits r.limits }) fun _ => rfl
  else keys

def updateApiKey (keyId : String) (input : UpdateApiKeyInput) (now : ℕ) (inner : ControlInner) :
    Except AppError (Outcome ApiKeyRecord) := do
  let record ← findKey inner keyId "API key not found"
  ensureMutable record "a deleted API key cannot be modified"
    "a superseded API key cannot be restored or modified"
  let updated ← updatedRecord input now inner record
  let keys := syncLimits input updated.effectiveQuotaSubjectId (inner.apiKeys.put updated)
  let keys := if updated.status = .revoked then purge keys keyId else keys
  return .save { inner with apiKeys := keys } (.ok updated)

/-- The tenant to bind a key to. -/
structure BindApiKeyScopeInput where
  organizationId : String
  projectId : String
  environmentId : String

def bindApiKeyScope (keyId : String) (input : BindApiKeyScopeInput) (inner : ControlInner) :
    Except AppError (Outcome ApiKeyRecord) := do
  let tenant ← normalizeTenantScope (some input.organizationId) (some input.projectId)
    (some input.environmentId)
  let record ← findKey inner keyId "API key not found"
  ensureMutable record "a deleted API key cannot be rebound"
    "a superseded API key cannot be rebound"
  let updated := { record with tenant := tenant }
  return .save { inner with apiKeys := inner.apiKeys.put updated } (.ok updated)

/-! ### Revocation and deletion -/

def revokeApiKey (keyId : String) (inner : ControlInner) : Except AppError (Outcome Unit) := do
  let record ← findKey inner keyId "API key not found"
  ensure (record.status ≠ .pendingRotation) pendingRotationMutationError
  if record.status = .deleted then return .answer ()
  else return .save { inner with apiKeys := purge (revoke inner.apiKeys keyId) keyId } (.ok ())

def deleteApiKey (keyId : String) (inner : ControlInner) : Except AppError (Outcome Unit) := do
  let record ← findKey inner keyId "API key not found"
  ensure (record.status ≠ .pendingRotation) pendingRotationMutationError
  if record.status = .deleted then return .answer ()
  else return .save { inner with apiKeys := purge (tombstone inner.apiKeys keyId) keyId } (.ok ())

/-- The keys after the deletion of a user: prepared rotations are removed, the other keys of the
user that are not deleted are revoked. -/
def dropUser (keys : Keys) (userId : String) : Keys :=
  (keys.retain fun r => !(r.userId = userId && r.status = .pendingRotation)).update
    (fun r => r.userId = userId && r.status ≠ .deleted)
    (fun r => { r with status := .revoked }) fun _ => rfl

def deleteUserResources (userId : String) (inner : ControlInner) : Except AppError (Outcome Unit) :=
  .ok (.save { inner with apiKeys := dropUser inner.apiKeys userId } (.ok ()))

/-! ### Teams -/

/-- A team to create or change. -/
structure UpsertTeamInput where
  id : Option String := none
  name : String
  slug : Option String := none
  status : Option String := none
  dailyLimitUsd : Option ℚ := none
  monthlyLimitUsd : Option ℚ := none
  allowedModels : Option (List String) := none
  allowedProviders : Option (List String) := none

def validateTeamName : Except AppError String := do
  let value := trim value
  ensure (!value.isEmpty && byteLen value ≤ 80)
    (.invalidRequest "team name must be 1-80 characters")
  return value

/-- A lowercase ASCII letter, a digit, a dash or an underscore. -/
def isSlugChar (c : Char) : Bool := c.isLower || c.isDigit || c = '-' || c = '_'

def validateTeamSlug : Except AppError String := do
  let value := asciiLower (trim value)
  ensure (!value.isEmpty && byteLen value ≤ 64 && value.toList.all isSlugChar)
    (.invalidRequest
      "team slug may only contain lowercase letters, numbers, dashes, and underscores")
  return value

def validateTeamStatus : Except AppError TeamStatus :=
  match trim value with
  | "active" => .ok .active
  | "archived" => .ok .archived
  | "disabled" => .ok .disabled
  | _ => .error (.invalidRequest "invalid team status")

def slugFromName (value uuid : String) : String :=
  let slug := (asciiLower value).toList.foldl
    (fun slug c =>
      if c.isAlphanum || c = '-' || c = '_' then slug ++ [c]
      else if isWhitespace c && slug.getLast? ≠ some '-' then slug ++ ['-']
      else slug) []
  if slug.isEmpty then "team-" ++ uuid
  else
    String.ofList ((trimEndMatches '-' (trimStartMatches '-' (String.ofList slug))).toList.take 64)

/-- The keys with the name of a team renewed. -/
def renameTeam (keys : Keys) (teamId name : String) : Keys :=
  keys.update (fun r => r.teamId = some teamId) (fun r => { r with teamName := some name })
    fun _ => rfl

def upsertTeam (input : UpsertTeamInput) (slugUuid uuid : String) (inner : ControlInner) :
    Except AppError (Outcome TeamRecord) := do
  let name ← validateTeamName input.name
  let slug ← updatedField (slugFromName name slugUuid) validateTeamSlug input.slug
  let status ← updatedField TeamStatus.active validateTeamStatus input.status
  input.dailyLimitUsd.elim (.ok ()) (validateUsdLimit "dailyLimitUsd")
  input.monthlyLimitUsd.elim (.ok ()) (validateUsdLimit "monthlyLimitUsd")
  let allowedModels ← normalizePolicyList (input.allowedModels.getD [])
  let allowedProviders ← normalizePolicyList (input.allowedProviders.getD [])
  ensure (!inner.teams.rows.any fun team => team.slug = slug && input.id ≠ some team.id)
    (.invalidRequest "team slug already exists")
  let id := (input.id.filter fun value => !(trim value).isEmpty).getD ("team_" ++ uuid)
  let team : TeamRecord :=
    { id, name, slug, status, allowedModels, allowedProviders
      dailyLimitUsd := input.dailyLimitUsd.getD 0
      monthlyLimitUsd := input.monthlyLimitUsd.getD 0 }
  return .save
    { inner with teams := inner.teams.put team, apiKeys := renameTeam inner.apiKeys id name }
    (.ok team)

def deleteTeam (teamId : String) (inner : ControlInner) : Except AppError (Outcome Unit) := do
  let referencing := inner.apiKeys.rows.countP fun r =>
    r.status ≠ .deleted && r.teamId = some teamId
  ensure (referencing = 0)
    (.invalidRequest ("team is still referenced by " ++ toString referencing
      ++ " API key(s); reassign or delete those keys first"))
  if (inner.teams.find teamId).isNone then return .answer ()
  else return .save { inner with teams := inner.teams.retain fun team => team.id ≠ teamId } (.ok ())

end ModelPort.Control
