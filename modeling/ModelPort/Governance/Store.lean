import ModelPort.Gateway.Edge
import ModelPort.Auth.Records
import ModelPort.Ledger.Call
import ModelPort.Lib.Json

/-!
# The governance store

Project policies and the change requests that lead to them. A high-risk change is requested by one
administrator and approved by another; it is then applied by whoever asks for it.

An application is not one critical section. A policy is read out of its request in one and written
in another; a budget is updated in the ledger between the check of the request and the mark that it
was applied. The sections are separate definitions here; `Governance.Run` puts them together.

The SHA-256 digest and the text of a JSON value are parameters.
-/

namespace ModelPort.Governance

open Relational WriteThrough

/-! ### Records -/

/-- A policy as it is stored, with the project it is for. -/
structure ProjectPolicy extends Gateway.ProjectPolicy where
  organizationId : String
  projectId : String
  environmentId : String
  updatedBy : String
  updatedAtMs : ℕ
  deriving DecidableEq

def policyKey (organizationId projectId environmentId : String) : String :=
  organizationId ++ "/" ++ projectId ++ "/" ++ environmentId

/-- The name of a tenant, as dashboards and policies spell it. -/
def tenantName (t : TenantKey) : String :=
  policyKey t.organizationId t.projectId t.environmentId

def ProjectPolicy.tenant (policy : ProjectPolicy) : TenantKey where
  organizationId := policy.organizationId
  projectId := policy.projectId
  environmentId := policy.environmentId

def ProjectPolicy.key (policy : ProjectPolicy) : String := tenantName policy.tenant

/-- A change that is asked for. -/
structure ChangeRequestInput where
  action : String
  target : String
  payload : Json
  reason : String

/-- A vote for a change. -/
structure ChangeApproval where
  actorId : String
  actorName : String
  approvedAtMs : ℕ
  deriving DecidableEq

/-- The status of a change. -/
inductive ChangeStatus where
  | pendingSecondApproval
  | approved
  | applied
  deriving DecidableEq

/-- A change and its approvals. -/
structure ChangeRequest where
  id : String
  action : String
  target : String
  payload : Json
  payloadSha256 : String
  reason : String
  status : ChangeStatus
  requestedBy : String
  requestedByName : String
  approvals : List ChangeApproval
  createdAtMs : ℕ
  updatedAtMs : ℕ
  appliedAtMs : Option ℕ

abbrev Policies := Table (fun p : ProjectPolicy => [p.key])

abbrev ChangeRequests := Table (fun r : ChangeRequest => [r.id])

/-- All that the store keeps. -/
structure GovernanceDocument where
  projectPolicies : Policies
  changeRequests : ChangeRequests

/-- The document is a copy of the memory. -/
abbrev GovernanceStore := Cell GovernanceDocument GovernanceDocument

/-- How a critical section of the store ends. -/
abbrev Outcome (α : Type) := WriteThrough.Section GovernanceDocument AppError α

def saveError := documentError "governance"

/-- Carry out a critical section: `save_or_restore`. -/
def commit {α : Type} (write : Write) (store : GovernanceStore) (outcome : Outcome α) :
    GovernanceStore × Except AppError α :=
  store.commit id saveError write outcome

/-! ### Payloads -/

/-- Functions of libraries, and the setting that two approvals are needed. -/
structure GovernanceEnv where
  /-- the text of a JSON value -/
  toVec : Json → String
  /-- the SHA-256 digest of a text, in hexadecimal -/
  sha256Hex : String → String
  requireDualApproval : Bool

/-- A member among others that are sorted by name; of two with one name the later one counts. -/
def insertField (name : String) (value : Json) : List (String × Json) → List (String × Json)
  | [] => [(name, value)]
  | (other, v) :: rest =>
    if name < other then (name, value) :: (other, v) :: rest
    else if name = other then (other, v) :: rest
    else (other, v) :: insertField name value rest

mutual

/-- `canonical_json`: the members of objects are sorted. -/
def canonicalJson : Json → Json
  | .obj fields => .obj (canonicalFields fields)
  | .arr items => .arr (canonicalItems items)
  | .null => .null
  | .bool b => .bool b
  | .int n => .int n
  | .float q => .float q
  | .str s => .str s

def canonicalFields : List (String × Json) → List (String × Json)
  | [] => []
  | (name, value) :: rest => insertField name (canonicalJson value) (canonicalFields rest)

def canonicalItems : List Json → List Json
  | [] => []
  | item :: rest => canonicalJson item :: canonicalItems rest

end

def hybridModes : List (String × Gateway.HybridMode) :=
  [("local_strict", .localStrict), ("local_first", .localFirst), ("balanced", .balanced),
    ("cloud_first", .cloudFirst)]

def dataClassifications : List (String × Gateway.DataClassification) :=
  [("unknown", .unknown), ("sensitive", .sensitive), ("internal", .internal),
    ("public", .publicData)]

/-- Reads a policy; everything but the project has a default. -/
def ProjectPolicy.ofJson (json : Json) : Option ProjectPolicy := do
  let [organizationId, projectId, environmentId, maximumMode, defaultClassification,
      allowedProviders, allowedModels, allowedRegions, allowedApiVersions, cloudEnabled, updatedBy,
      updatedAtMs] ← json.members ["organizationId", "projectId", "environmentId", "maximumMode",
        "defaultClassification", "allowedProviders", "allowedModels", "allowedRegions",
        "allowedApiVersions", "cloudEnabled", "updatedBy", "updatedAtMs"]
    | none
  return {
    organizationId := ← Json.required Json.asString organizationId
    projectId := ← Json.required Json.asString projectId
    environmentId := ← Json.required Json.asString environmentId
    maximumMode := ← Json.defaulted (Json.asVariant hybridModes) .localStrict maximumMode
    defaultClassification :=
      ← Json.defaulted (Json.asVariant dataClassifications) .unknown defaultClassification
    allowedProviders := ← Json.defaulted (Json.asList Json.asString) [] allowedProviders
    allowedModels := ← Json.defaulted (Json.asList Json.asString) [] allowedModels
    allowedRegions := ← Json.defaulted (Json.asList Json.asString) [] allowedRegions
    allowedApiVersions := ← Json.defaulted (Json.asList Json.asString) [] allowedApiVersions
    cloudEnabled := ← Json.defaulted Json.asBool false cloudEnabled
    updatedBy := ← Json.defaulted Json.asString "" updatedBy
    updatedAtMs := ← Json.defaulted Json.asUnsigned 0 updatedAtMs }

/-- Reads an update of a budget. An absent limit is none, except in an array, where `unlimited` is
the only item that may be missing. -/
def budgetUpdateOfJson (json : Json) : Option Ledger.EnterpriseBudgetUpdate := do
  let [organizationId, projectId, environmentId, limitMicrounits, unlimited] ← json.members
      ["organizationId", "projectId", "environmentId", "limitMicrounits", "unlimited"]
    | none
  return {
    organizationId := ← Json.required Json.asString organizationId
    projectId := ← Json.required Json.asString projectId
    environmentId := ← Json.required Json.asString environmentId
    limitMicrounits := ←
      if json.isArray then Json.required (Json.asOption Json.asSigned) limitMicrounits
      else Json.defaulted (Json.asOption Json.asSigned) none limitMicrounits
    unlimited := ← Json.defaulted Json.asBool false unlimited }

def budgetUpdateToJson (update : Ledger.EnterpriseBudgetUpdate) : Json :=
  .obj [("organizationId", .str update.organizationId), ("projectId", .str update.projectId),
    ("environmentId", .str update.environmentId),
    ("limitMicrounits", update.limitMicrounits.elim .null .int),
    ("unlimited", .bool update.unlimited)]

/-! ### Checks -/

def supportedActions : List String :=
  ["project_policy.upsert", "provider.allowlist_change", "routing.cloud_first",
    "budget.hard_limit", "identity.permission", "model.production_promotion",
    "data_egress.change", "database.major_migration", "secret.rotation"]

section

variable (env : GovernanceEnv)

def payloadSha256 (payload : Json) : String := env.sha256Hex (env.toVec (canonicalJson payload))

def validateChangeInput (input : ChangeRequestInput) : Except AppError Unit := do
  Except.ensure (supportedActions.contains input.action)
    (.invalidRequest "unsupported high-risk change action")
  Except.ensure (!((trim input.target).isEmpty || 240 < byteLen input.target))
    (.invalidRequest "change request target must contain 1-240 characters")
  Except.ensure (!(byteLen (trim input.reason) < 8 || 1000 < byteLen input.reason))
    (.invalidRequest "change request reason must contain 8-1000 characters")
  Except.ensure (byteLen (env.toVec input.payload) ≤ 64 * 1024)
    (.invalidRequest "change request payload exceeds 64 KiB")

end

/-- An allowlist of at most 256 entries that are not blank and not too long. -/
def validAllowlist (list : List String) : Bool :=
  !(256 < list.length || list.any fun value => (trim value).isEmpty || 160 < byteLen value)

def validateProjectPolicy (policy : ProjectPolicy) : Except AppError Unit := do
  Except.ensure
    ([policy.organizationId, policy.projectId, policy.environmentId].all
      Gateway.validTenantIdentifier)
    (.invalidRequest "project policy contains an invalid tenant identifier")
  Except.ensure (policy.cloudEnabled || policy.maximumMode = .localStrict)
    (.invalidRequest "cloud-disabled project policy must use local_strict maximum mode")
  Except.ensure
    ([policy.allowedProviders, policy.allowedModels, policy.allowedRegions,
      policy.allowedApiVersions].all validAllowlist)
    (.invalidRequest "project policy allowlists contain invalid entries")

/-! ### Change requests -/

section

variable (env : GovernanceEnv)

/-- The request as it is created; its author's approval is the first one. -/
def newChangeRequest (actorId actorName : String) (input : ChangeRequestInput) (uuid : String)
    (now : ℕ) : ChangeRequest where
  id := "chg_" ++ uuid
  action := input.action
  target := input.target
  payload := input.payload
  payloadSha256 := payloadSha256 env input.payload
  reason := trim input.reason
  status := .pendingSecondApproval
  requestedBy := actorId
  requestedByName := actorName
  approvals := [⟨actorId, actorName, now⟩]
  createdAtMs := now
  updatedAtMs := now
  appliedAtMs := none

def createChangeRequest (actorId actorName : String) (input : ChangeRequestInput) (uuid : String)
    (now : ℕ) (doc : GovernanceDocument) : Outcome ChangeRequest :=
  match validateChangeInput env input with
  | .error e => .answer doc (.error e)
  | .ok () =>
    let request := newChangeRequest env actorId actorName input uuid now
    .save doc { doc with changeRequests := doc.changeRequests.put request } (.ok request)

def ChangeRequest.approve (request : ChangeRequest) (actorId actorName : String) (now : ℕ) :
    ChangeRequest :=
  { request with
    approvals := request.approvals ++ [⟨actorId, actorName, now⟩]
    status := .approved
    updatedAtMs := now }

def approveChangeRequest (requestId actorId actorName : String) (now : ℕ)
    (doc : GovernanceDocument) : Outcome ChangeRequest :=
  match doc.changeRequests.find requestId with
  | none => .answer doc (.error (.notFound "change request not found"))
  | some request =>
    if request.status = .applied then
      .answer doc (.error (.stateConflict "change request has already been applied"))
    else if request.approvals.any fun approval => approval.actorId = actorId then
      .answer doc
        (.error (.invalidRequest "the same administrator cannot provide both approvals"))
    else
      let approved := request.approve actorId actorName now
      .save doc { doc with changeRequests := doc.changeRequests.put approved } (.ok approved)

/-- The request has the approvals that its application needs. -/
def ChangeRequest.mayApply (requireDualApproval : Bool) (request : ChangeRequest) : Bool :=
  (request.status = .approved || (!requireDualApproval && request.status = .pendingSecondApproval))
    && (if requireDualApproval then 2 else 1) ≤ request.approvals.length

def approvalsMissing (requireDualApproval : Bool) : AppError :=
  .forbidden (if requireDualApproval then
    "high-risk change requires two distinct administrator approvals"
  else "change request requires an administrator approval before application")

def changeForApplication (requestId : String) (requireDualApproval : Bool)
    (doc : GovernanceDocument) : Except AppError ChangeRequest :=
  match doc.changeRequests.find requestId with
  | none => .error (.notFound "change request not found")
  | some request =>
    if request.mayApply requireDualApproval then .ok request
    else .error (approvalsMissing requireDualApproval)

def verifyApprovedChange (requestId action target : String) (payload : Json)
    (doc : GovernanceDocument) : Except AppError ChangeRequest := do
  let request ← changeForApplication requestId true doc
  Except.ensure (request.action = action && request.target = target
      && request.payloadSha256 = payloadSha256 env payload)
    (.forbidden "approved change request does not match this action, target, and payload")
  return request

def ChangeRequest.markApplied (request : ChangeRequest) (now : ℕ) : ChangeRequest :=
  { request with status := .applied, appliedAtMs := some now, updatedAtMs := now }

def markChangeAppliedForMode (requestId : String) (requireDualApproval : Bool) (now : ℕ)
    (doc : GovernanceDocument) : Outcome Unit :=
  match changeForApplication requestId requireDualApproval doc with
  | .error e => .answer doc (.error e)
  | .ok request =>
    .save doc { doc with changeRequests := doc.changeRequests.put (request.markApplied now) }
      (.ok ())

/-! ### Application of a policy -/

/-- The first section of `apply_project_policy`: the policy that is to be written. -/
def policyToApply (requestId actorId : String) (now : ℕ) (doc : GovernanceDocument) :
    Except AppError ProjectPolicy := do
  let request ← changeForApplication requestId env.requireDualApproval doc
  Except.ensure (request.action = "project_policy.upsert")
    (.invalidRequest "change request is not a project policy update")
  match ProjectPolicy.ofJson request.payload with
  | none => .error (.json "the payload is not a project policy")
  | some policy =>
    validateProjectPolicy policy
    return { policy with updatedBy := actorId, updatedAtMs := now }

/-- The second section of `apply_project_policy`. The request is not checked again. -/
def writePolicy (requestId : String) (policy : ProjectPolicy) (now : ℕ)
    (doc : GovernanceDocument) : Outcome ProjectPolicy :=
  let written := { doc with projectPolicies := doc.projectPolicies.put policy }
  match doc.changeRequests.find requestId with
  -- the error leaves the policy in memory
  | none => .answer written (.error (.notFound "change request not found"))
  | some request =>
    .save doc
      { written with changeRequests := doc.changeRequests.put (request.markApplied now) }
      (.ok policy)

/-! ### Routes -/

/-- `require_admin_user`, of a user whose session has been accepted. -/
def requireAdminUser (actor : Auth.PublicUser) : Except AppError Unit :=
  Except.ensure (actor.role = "admin") (.forbidden "admin role required")

/-- `require_high_risk_change`; the header is the value of `x-modelport-change-request-id`. -/
def requireHighRiskChange (header : Option String) (action target : String) (payload : Json)
    (doc : GovernanceDocument) : Except AppError (Option String) :=
  match (header.map trim).filter fun value => !value.isEmpty with
  | none =>
    if env.requireDualApproval then
      .error (.forbidden
        "high-risk change requires x-modelport-change-request-id with two distinct approvals")
    else .ok none
  | some requestId => do
      let _ ← verifyApprovedChange env requestId action target payload doc
      return some requestId

end

end ModelPort.Governance
