import ModelPort.Gateway.Steps

/-!
# Where requests go

Mode and project policy are held against the attempts of the route plan. The address a request is
sent to is the planned one, unless the credential that is selected later brings an address of its
own; and an attempt counts as local by the name of its provider too.

* `egress_confined_iff`: when a request of the gateway stays where mode and policy want it.
* `credential_leaves_boundary`: a strictly local request that goes to the cloud.
* `local_boundary_exact_iff`: which addresses count as local.
-/

namespace ModelPort.Gateway

open Routing Interaction Interaction.Prog ProviderBoundary IpAddr

variable {urlHost : String → Option String} {target planned : ResolvedProvider}

/-- A loopback, private or link-local address. -/
def isPrivateAddress (address : IpAddr) : Bool :=
  isLocalAddress address && address ≠ IpAddr.ofOctets 0 0 0 0

/-- The address that the host of a URL is a literal of; one of IPv6 stands in brackets. -/
def hostAddress (host : String) : Option IpAddr :=
  (parse host).or (((stripStart "[" host).bind (stripSuffix ']')).bind parse)

/-- `localhost`, or a loopback, private or link-local address. -/
def isPrivateHost (host : String) : Bool :=
  asciiLower host = "localhost" || (hostAddress host).any isPrivateAddress

/-- The host of the URL is on this machine or in its neighbourhood. -/
def Confined (urlHost : String → Option String) (url : String) : Prop :=
  ∀ host, urlHost url = some host → isPrivateHost host

/-- A path below a base URL has the host of the base URL. -/
def HostKept (urlHost : String → Option String) : Prop :=
  ∀ (provider : ProviderConfig) (path host host' : String),
    urlHost provider.baseUrl = some host → urlHost (provider.endpoint path) = some host' →
      host' = host

/-- The HTTP requests among effects: their URLs and what they were made for. -/
def Effect.upstream : Effect → Option (String × ResolvedProvider)
  | .counted url target _ => some (url, target)
  | .sent url target _ _ _ => some (url, target)
  | _ => none

def upstreamRequests (es : List Effect) : List (String × ResolvedProvider) :=
  es.filterMap Effect.upstream

/-- **Mode and policy are kept** by a request to `url` for `target`. -/
structure EgressKept (urlHost : String → Option String) (p : Prepared) (url : String)
    (target : ResolvedProvider) : Prop where
  confined : p.mode = .localStrict → Confined urlHost url
  allowed : p.policy.Allows urlHost target

/-- The provider counts as local by its name. -/
def isLocalName (providerId : String) : Bool :=
  startsWith providerId "local_" || startsWith providerId "cpa_" || providerId = "ollama"

/-- The attempt at another address. -/
def movedTo (a : ResolvedProvider) (baseUrl : String) : ResolvedProvider :=
  { a with provider := { a.provider with baseUrl := baseUrl } }

/-- **What the addresses have to be like**: the planned one, and that of the credential if it brings
one of its own. The policy was held against the planned address, and what it says of providers and
models does not depend on the address. -/
structure AddressKept (urlHost : String → Option String) (p : Prepared)
    (planned : ResolvedProvider) (own : Option String) : Prop where
  /-- in strict mode a planned address is private also if it counts as local by the provider's name,
  or as the unspecified address -/
  plannedPrivate : p.mode = .localStrict → own = none → isLocalName planned.providerId ∨
      (urlHost planned.provider.baseUrl).any (parse · = some (ofOctets 0 0 0 0)) →
    (urlHost planned.provider.baseUrl).any isPrivateHost
  ownPrivate : p.mode = .localStrict → ∀ baseUrl ∈ own, (urlHost baseUrl).any isPrivateHost
  ownCloud : ∀ baseUrl ∈ own, isLocalName planned.providerId = false →
    (urlHost baseUrl).any isLocalHost = false → p.policy.cloudEnabled
  ownRegion : ∀ baseUrl ∈ own, ProjectPolicy.allows p.policy.allowedRegions
    (providerGovernanceMetadata urlHost (movedTo planned baseUrl)).1
  ownVersion : ∀ baseUrl ∈ own, ProjectPolicy.allows p.policy.allowedApiVersions
    (providerGovernanceMetadata urlHost (movedTo planned baseUrl)).2

section

variable {p : Prepared} {own : Option String} {a b : ResolvedProvider}

lemma forResolved_eq_cloud : forResolved urlHost a = .cloud ↔
    isLocalName a.providerId = false ∧ (urlHost a.provider.baseUrl).any isLocalHost = false := by
  rw [forResolved, isLocalName, ← Bool.or_eq_false_iff]
  split_ifs with h <;> simp [h]

/-- What the policy looks at. -/
lemma allows_congr {policy : ProjectPolicy} (hid : a.providerId = b.providerId)
    (hmodel : a.model = b.model) (haddr : a.provider.baseUrl = b.provider.baseUrl)
    (hprot : a.provider.protocol = b.provider.protocol) (h : policy.Allows urlHost a) :
    policy.Allows urlHost b := by
  have hboundary : forResolved urlHost a = forResolved urlHost b := by
    rw [forResolved, forResolved, hid, haddr]
  have hmeta : providerGovernanceMetadata urlHost a = providerGovernanceMetadata urlHost b := by
    unfold providerGovernanceMetadata
    rw [hboundary, haddr, hprot]
  exact ⟨hboundary ▸ h.cloud, hid ▸ h.provider, hmodel ▸ h.model, hmeta ▸ h.region,
    hmeta ▸ h.apiVersion⟩

/-- A planned address that is local, but neither by the provider's name nor as the unspecified
address, is private. -/
lemma private_of_local (hlocal : forResolved urlHost a = .localNet)
    (hname : isLocalName a.providerId = false)
    (hspecified : (urlHost a.provider.baseUrl).any (parse · = some (ofOctets 0 0 0 0)) = false) :
    (urlHost a.provider.baseUrl).any isPrivateHost := by
  have hhost : (urlHost a.provider.baseUrl).any isLocalHost := by
    by_contra h
    cases hlocal.symm.trans (forResolved_eq_cloud.2 ⟨hname, by simpa using h⟩)
  obtain ⟨host, hbase, hhost⟩ := (Option.any_eq_true _ _).1 hhost
  rw [hbase, Option.any_some, decide_eq_false_iff_not] at hspecified
  rw [isLocalHost, Bool.or_eq_true, Option.any_eq_true] at hhost
  rw [hbase, Option.any_some, isPrivateHost, Bool.or_eq_true, hostAddress]
  refine hhost.imp_right ?_
  rintro ⟨address, hparse, haddr⟩
  have hne : address ≠ ofOctets 0 0 0 0 := fun h => hspecified (h ▸ hparse)
  simp [hparse, isPrivateAddress, hne, haddr]

/-- Mode and policy are kept at the base URL, if it is the planned one or that of the credential. -/
lemma addressKept_iff (hplan : p.policy.Allows urlHost planned)
    (hlocal : p.mode = .localStrict → forResolved urlHost planned = .localNet)
    (hcred : Credentialed planned target)
    (haddr : target.provider.baseUrl = own.getD planned.provider.baseUrl) :
    AddressKept urlHost p planned own ↔
      (p.mode = .localStrict → (urlHost target.provider.baseUrl).any isPrivateHost) ∧
        p.policy.Allows urlHost target := by
  rw [haddr]
  cases own with
  | none =>
    refine ⟨fun h => ⟨fun hmode => ?_, ?_⟩, fun h => ⟨fun hmode _ _ => h.1 hmode, nofun, nofun,
      nofun, nofun⟩⟩
    · by_contra hnot
      have hneed := mt (h.plannedPrivate hmode rfl) hnot
      rw [not_or, Bool.not_eq_true, Bool.not_eq_true] at hneed
      exact hnot (private_of_local (hlocal hmode) hneed.1 hneed.2)
    · exact allows_congr hcred.providerId.symm hcred.model.symm haddr.symm hcred.protocol.symm
        hplan
  | some baseUrl =>
    refine ⟨fun h => ⟨(h.ownPrivate · baseUrl rfl), ?_⟩, fun h => ?_⟩
    · have hmoved : p.policy.Allows urlHost (movedTo planned baseUrl) :=
        ⟨fun hcloud => h.ownCloud _ rfl (forResolved_eq_cloud.1 hcloud).1
          (forResolved_eq_cloud.1 hcloud).2, hplan.provider, hplan.model, h.ownRegion _ rfl,
          h.ownVersion _ rfl⟩
      exact allows_congr (a := movedTo planned baseUrl) hcred.providerId.symm hcred.model.symm
        haddr.symm hcred.protocol.symm hmoved
    · have hmoved : p.policy.Allows urlHost (movedTo planned baseUrl) :=
        allows_congr hcred.providerId hcred.model haddr hcred.protocol h.2
      refine ⟨nofun, fun hmode => ?_, ?_, ?_, ?_⟩
      all_goals rintro _ ⟨⟩
      exacts [h.1 hmode, fun hname hhost => hmoved.cloud (forResolved_eq_cloud.2 ⟨hname, hhost⟩),
        hmoved.region, hmoved.apiVersion]

end

/-- A request is made for an attempt of the plan, with a credential of its provider. -/
lemma planned_of_upstream {ext : Externals} {snapshot : Snapshot} {headers : Headers}
    {r : ClientRequest} {world : History → (op : Op) → op.Reply} {url : String}
    (hmem : (url, target) ∈
      upstreamRequests (effects ((serve ext snapshot headers r).run world []).2)) :
    ∃ p path planned, prepare ext snapshot headers r = .ok p ∧
      url = target.provider.endpoint path ∧ planned ∈ p.authorized ∧
        Credentialed planned target := by
  obtain ⟨hcount, hsent⟩ := (serve_planned ext snapshot headers r).run world
  obtain ⟨e, he, heq⟩ := List.mem_filterMap.1 hmem
  cases e with
  | counted url' target' reply =>
    cases heq
    obtain ⟨p, hp, hurl, hcred⟩ := hcount url target reply he
    rw [countTokensUrl] at hurl
    split at hurl <;> exact ⟨p, _, p.resolved, hp, hurl, List.mem_cons_self .., hcred⟩
  | sent url' target' id repair reply =>
    cases heq
    obtain ⟨p, hp, hurl, a, ha, hcred, -, -⟩ := hsent url target id repair reply he
    rw [inferenceUrl] at hurl
    split at hurl <;> exact ⟨p, _, a, hp, hurl, ha, hcred⟩
  | _ => cases heq

/-- **Every HTTP request of every run.** It is made for an attempt of the plan, with a credential of
its provider or without; unknown and sensitive data make the mode strictly local; and mode and
policy are kept if the addresses are as they have to be, and only then if the base URL and the URL
have a host at all. -/
theorem egress_confined_iff (ext : Externals) (hhost : HostKept ext.urlHost)
    (snapshot : Snapshot) (headers : Headers) (r : ClientRequest)
    (world : History → (op : Op) → op.Reply) (url : String) (target : ResolvedProvider)
    (hmem : (url, target) ∈
      upstreamRequests (effects ((serve ext snapshot headers r).run world []).2)) :
    ∃ p, prepare ext snapshot headers r = .ok p ∧
      (p.classification.forcesLocal → p.mode = .localStrict) ∧
      ∃ planned ∈ p.authorized, Credentialed planned target ∧
        ∃ (credential : Option ProviderCredentialRecord) (key : Option String),
          target.provider = credential.elim planned.provider
            (planned.provider.withCredential · key) ∧
          (AddressKept ext.urlHost p planned (credential.bind (·.baseUrl)) →
            EgressKept ext.urlHost p url target) ∧
          ((ext.urlHost target.provider.baseUrl).isSome → (ext.urlHost url).isSome →
            EgressKept ext.urlHost p url target →
              AddressKept ext.urlHost p planned (credential.bind (·.baseUrl))) := by
  obtain ⟨p, path, planned, hp, rfl, ha, hcred⟩ := planned_of_upstream hmem
  have hprep := prepare_ok hp
  obtain ⟨requested, -, hmode⟩ := hprep.mode
  obtain ⟨_, _, plan, -, -, hauth⟩ := hprep.plan
  rw [← hauth] at ha
  -- authorized attempts are allowed, and in strict mode they are local
  obtain ⟨hord, hok⟩ := List.mem_filter.1 ha
  rcases henforce : p.policy.enforceAttempt ext.urlHost planned with e | u
  · rw [henforce] at hok
    cases hok
  have hplan := (ProjectPolicy.enforceAttempt_ok_iff _ planned).1 henforce
  have hlocal : p.mode = .localStrict → forResolved ext.urlHost planned = .localNet := by
    intro hstr
    rw [hstr] at hord
    exact of_decide_eq_true (List.mem_filter.1 hord).2
  obtain ⟨credential, key, hprov⟩ : ∃ credential key, target.provider =
      Option.elim credential planned.provider (planned.provider.withCredential · key) := by
    rcases hcred.provider with heq | ⟨record, value, heq⟩
    · exact ⟨none, none, heq⟩
    · exact ⟨some record, _, heq⟩
  have haddr : target.provider.baseUrl =
      (credential.bind (·.baseUrl)).getD planned.provider.baseUrl := by
    rw [hprov]
    cases credential <;> rfl
  have hkept := addressKept_iff hplan hlocal hcred haddr
  refine ⟨p, hp, fun hclass => Except.ok.inj (hmode.symm.trans (if_pos hclass)), planned,
    hauth ▸ ha, hcred, credential, key, hprov, fun h => ?_, fun hbase hurl h => ?_⟩
  · obtain ⟨hpriv, hallows⟩ := hkept.1 h
    refine ⟨fun hstr host hurl => ?_, hallows⟩
    obtain ⟨base, hbase, hpriv⟩ := (Option.any_eq_true _ _).1 (hpriv hstr)
    rwa [hhost target.provider path base host hbase hurl]
  · obtain ⟨base, hbase⟩ := Option.isSome_iff_exists.1 hbase
    obtain ⟨host, hurl⟩ := Option.isSome_iff_exists.1 hurl
    refine hkept.2 ⟨fun hstr => ?_, h.allowed⟩
    rw [hbase, Option.any_some, ← hhost target.provider path base host hbase hurl]
    exact h.confined hstr host hurl

section

/-- Hosts of the URLs below. -/
def sampleHost (url : String) : Option String :=
  if startsWith url "https://cloud.example" then some "cloud.example" else some "127.0.0.1"

/-- A provider on this machine, for a project without a policy. -/
def localSnapshot : Snapshot :=
  { Sample.snapshot [⟨"main", Sample.provider "http://127.0.0.1:8000", "model"⟩] with
    policy := fun _ => ProjectPolicy.failClosed }

/-- Its credential, with an address of its own. -/
def cloudCredential : CredentialChoice where
  record := some ⟨"cred_1", "MAIN_API_KEY", some "https://cloud.example", "active"⟩
  hasPool := true
  poolMode := "round_robin"

/-- The control store selects `choice`. -/
def credentialAnswer (choice : CredentialChoice) : (op : Op) → op.Reply
  | .selectCredential _ => choice
  | .readEnv _ => (some "key" : Option String)
  | op => Sample.answer (fun _ => .ok ⟨200, none⟩) op

/-- A request that stays on this machine. -/
theorem egress_confined_iff_local :
    let ext := { Sample.externals with urlHost := fun _ => some "127.0.0.1" }
    HostKept ext.urlHost ∧ ∃ url target, (url, target) ∈ upstreamRequests (effects
        ((serve ext localSnapshot {} Sample.clientRequest).run
          (fun _ => credentialAnswer ⟨none, false, ""⟩) []).2) ∧
      ∃ p, prepare ext localSnapshot {} Sample.clientRequest = .ok p ∧ p.mode = .localStrict ∧
        EgressKept ext.urlHost p url target := by
  intro ext
  have hkept : HostKept ext.urlHost := fun _ _ _ _ hbase hurl =>
    Option.some.inj (hurl.symm.trans hbase)
  have hne : upstreamRequests (effects ((serve ext localSnapshot {} Sample.clientRequest).run
      (fun _ => credentialAnswer ⟨none, false, ""⟩) []).2) ≠ [] := by decide +kernel
  obtain ⟨⟨url, target⟩, hmem⟩ := List.exists_mem_of_ne_nil _ hne
  obtain ⟨p, hp, -, planned, -, -, _, _, -, h, -⟩ :=
    egress_confined_iff ext hkept _ _ _ _ url target hmem
  have hprep : (prepare ext localSnapshot {} Sample.clientRequest).toOption.map
      (fun p => (p.mode, p.policy)) = some (.localStrict, .failClosed) := by decide +kernel
  rw [hp] at hprep
  obtain ⟨hmode, hpol⟩ := Prod.mk.inj (Option.some.inj hprep)
  have hpriv : isPrivateHost "127.0.0.1" = true := by decide
  have hhost : isLocalHost "127.0.0.1" = true := by decide
  have hlocal : ∀ baseUrl, providerGovernanceMetadata ext.urlHost (movedTo planned baseUrl) =
      ("local", "openai-compatible-v1") := by
    intro baseUrl
    rw [providerGovernanceMetadata, if_pos (by simp [forResolved, ext, hhost])]
  refine ⟨hkept, url, target, hmem, p, hp, hmode, h ⟨fun _ _ _ => hpriv, fun _ _ _ => hpriv,
    fun _ _ _ h => absurd (hhost.symm.trans h) (by decide), fun _ _ => ?_, fun _ _ => ?_⟩⟩
  · rw [hlocal, hpol]
    rfl
  · rw [hlocal, hpol]
    rfl

/-- **A strictly local request that goes to the cloud.** The provider is on this machine and the
mode is strict; the credential selected for it has the address of a cloud service. -/
theorem credential_leaves_boundary :
    let ext := { Sample.externals with urlHost := sampleHost }
    let es := effects ((serve ext localSnapshot {} Sample.clientRequest).run
      (fun _ => credentialAnswer cloudCredential) []).2
    (prepare ext localSnapshot {} Sample.clientRequest).toOption.map
        (fun p => (p.mode, p.policy.cloudEnabled)) = some (.localStrict, false) ∧
      (upstreamRequests es).map Prod.fst = ["https://cloud.example/v1/messages"] ∧
      sampleHost "https://cloud.example/v1/messages" = some "cloud.example" ∧
      isPrivateHost "cloud.example" = false := by
  decide +kernel

end

/-! ### Addresses of URLs -/

/-- The host of a parsed URL. Under a scheme that the URL standard does not know, a host that is
not in brackets is kept as it is written. -/
inductive UrlHost where
  | domain (name : String)
  | ipv4 (octets : Fin 4 → Fin 256)
  | ipv6 (segments : Fin 8 → Fin 65536)

open UrlHost

namespace UrlHost

/-- `Url::host_str`. -/
def str : UrlHost → String
  | .domain name => name
  | .ipv4 o => (IpAddr.v4 o).display
  | .ipv6 s => "[" ++ ((IpAddr.v6 s).display ++ "]")

/-- The address that the host is a literal of. -/
def address : UrlHost → Option IpAddr
  | .domain name => IpAddr.parse name
  | .ipv4 o => some (.v4 o)
  | .ipv6 s => some (.v6 s)

/-- The host is `localhost` or a local address. -/
def IsLocal (host : UrlHost) : Prop :=
  asciiLower host.str = "localhost" ∨ ∃ ip, host.address = some ip ∧ isLocalAddress ip

end UrlHost

/-- **Local by address.** A provider that is not local by its name counts as local if and only if
its host is `localhost` or a local address, except that an IPv6 literal never does: it is written
in brackets, which the parser of addresses does not take. -/
theorem local_boundary_exact_iff (parseUrl : String → Option UrlHost)
    (provider : ResolvedProvider) (hid : isLocalName provider.providerId = false) :
    (ProviderBoundary.forResolved (fun url => (parseUrl url).map UrlHost.str) provider = .localNet
        ↔ ∃ host, parseUrl provider.provider.baseUrl = some host ∧ host.IsLocal) ↔
      ∀ s, parseUrl provider.provider.baseUrl = some (.ipv6 s) →
        isLocalAddress (.v6 s) = false := by
  obtain ⟨hlocal, hollama⟩ := Bool.or_eq_false_iff.1 hid
  rw [forResolved, hlocal, hollama]
  rcases parseUrl provider.provider.baseUrl with _ | host
  · simp
  · simp only [Option.map_some, ite_eq_left_iff, isLocalHost, reduceCtorEq, imp_false, not_not,
      Bool.or_eq_true, decide_eq_true_eq, Option.any_eq_true, UrlHost.IsLocal, Option.some.injEq,
      exists_eq_left']
    cases host with
    | domain name => simp [str, address]
    | ipv4 o => simp [str, address, parse_display]
    | ipv6 s =>
      have hname : asciiLower (ipv6 s).str ≠ "localhost" := by
        intro h
        have hhead : asciiLowerChar '[' = 'l' := by
          simpa [str, asciiLower] using congrArg (·.toList.head?) h
        exact absurd hhead (by decide)
      simp only [hname]
      simp [str, address, parse_bracket]

/-- The loopback address of IPv6. -/
def loopbackSegments (i : Fin 8) : Fin 65536 := if i = 7 then 1 else 0

/-- A provider there counts as one in the cloud. -/
theorem loopback_literal_in_cloud :
    ProviderBoundary.forResolved (fun _ => some (UrlHost.ipv6 loopbackSegments).str)
        ⟨"lab", Sample.provider "http://[::1]:8000", "model"⟩ = .cloud ∧
      isLocalAddress (.v6 loopbackSegments) := by
  decide +kernel

theorem local_boundary_exact_iff_private :
    ProviderBoundary.forResolved (fun _ => some (UrlHost.ipv4 fun _ => 10).str)
      ⟨"lab", Sample.provider "http://10.10.10.10", "model"⟩ = .localNet :=
  ((local_boundary_exact_iff (fun _ => some (.ipv4 fun _ => 10)) _ (by decide)).2
    fun _ h => nomatch h).2 ⟨_, rfl, .inr ⟨_, rfl, by decide⟩⟩

end ModelPort.Gateway
