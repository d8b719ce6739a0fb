import ModelPort.Core.Error
import ModelPort.Core.IpAddr
import ModelPort.Lib.Except

/-!
# Provider endpoints

Before a request is sent, the address of its provider is checked: as a URL, and, if its host is a
name, by the addresses the name resolves to, to which the connection is then pinned. Some
providers may have addresses that others may not: local ones may be on this machine, and the
client API of a neighbouring proxy may be reached in plain text.

The two checks do not ask the same. For a local provider, and for a proxy under a name without a
dot, any address is pinned, while as a literal only a loopback address passes.

URLs are parsed by a library; `Url` is what it reports. Addresses come without scope ids.

* `privateOrMetadataIp`, `internal_not_public`: which addresses count as public.
* `dns_grants_no_more_iff`: when a name grants no more than its addresses would.
* `local_name_reaches_private_network`: a name that does.
-/

namespace ModelPort.Routing

open IpAddr List

variable {s : Fin 8 → Fin 65536} {ip : IpAddr} {o : Fin 4 → Fin 256}

/-! ### Addresses -/

def privateOrMetadataIpv4 (o : Fin 4 → Fin 256) : Bool :=
  let (first, second, third) := ((o 0).val, (o 1).val, (o 2).val)
  first = 0 || first = 10 || (first = 100 && 64 ≤ second && second ≤ 127) || first = 127
    || (first = 169 && second = 254) || (first = 172 && 16 ≤ second && second ≤ 31)
    || (first = 192 && second = 0 && third = 0) || (first = 192 && second = 0 && third = 2)
    || (first = 192 && second = 88 && third = 99) || (first = 192 && second = 168)
    || (first = 198 && (second = 18 || second = 19))
    || (first = 198 && second = 51 && third = 100) || (first = 203 && second = 0 && third = 113)
    || 224 ≤ first

/-- `special_use_ipv6`: not global unicast, or one of the special ranges within or beside it. -/
def specialUseIpv6 (s : Fin 8 → Fin 65536) : Bool :=
  let globalUnicast := (s 0).val / 8192 = 1
  let ietfSpecialUse := s 0 = 0x2001 && (s 1).val / 512 = 0
  let documentation := (s 0 = 0x2001 && s 1 = 0x0db8) || (s 0 = 0x3fff && (s 1).val / 4096 = 0)
  let ipv4Compatible := s 0 = 0 && s 1 = 0 && s 2 = 0 && s 3 = 0 && s 4 = 0 && s 5 = 0
  let nat64WellKnown := s 0 = 0x0064 && s 1 = 0xff9b && s 2 = 0 && s 3 = 0 && s 4 = 0 && s 5 = 0
  let nat64Local := s 0 = 0x0064 && s 1 = 0xff9b && s 2 = 1
  !globalUnicast || ietfSpecialUse || documentation || s 0 = 0x2002 || s 0 = 0x5f00
    || ipv4Compatible || nat64WellKnown || nat64Local

/-- `Ipv6Addr::to_ipv4_mapped`. -/
def toIpv4Mapped (s : Fin 8 → Fin 65536) : Option (Fin 4 → Fin 256) :=
  if s 0 = 0 && s 1 = 0 && s 2 = 0 && s 3 = 0 && s 4 = 0 && s 5 = 0xffff then
    some fun i => Fin.ofNat 256
      ([(s 6).val / 256, (s 6).val % 256, (s 7).val / 256, (s 7).val % 256].getD i 0)
  else none

def privateOrMetadataIp : IpAddr → Bool
  | .v4 o => privateOrMetadataIpv4 o
  | .v6 s =>
    match toIpv4Mapped s with
    | some o => privateOrMetadataIpv4 o
    | none => specialUseIpv6 s

/-- `IpAddr::is_loopback`. -/
def isLoopback : IpAddr → Bool
  | .v4 o => o 0 = 127
  | .v6 s => s 0 = 0 && s 1 = 0 && s 2 = 0 && s 3 = 0 && s 4 = 0 && s 5 = 0 && s 6 = 0 && s 7 = 1

/-! ### The two checks -/

/-- A parsed URL. -/
structure Url where
  scheme : String
  username : String := ""
  password : Option String := none
  fragment : Option String := none
  query : Option String := none
  hostStr : Option String
  /-- the port, or the scheme's -/
  port : Option ℕ
  deriving DecidableEq

/-- `str::trim_matches(['[', ']'])`. -/
def unbracket (host : String) : String :=
  let inner := (host.toList.dropWhile fun c => c == '[' || c == ']').reverse
  String.ofList (inner.dropWhile fun c => c == '[' || c == ']').reverse

/-- The host without brackets and trailing dots. -/
def hostName (host : String) : String := trimEndMatches '.' (unbracket host)

/-- Providers that may be on this machine. -/
def providerAllowsLoopbackBaseUrl (providerId : String) : Bool :=
  startsWith providerId "local_" || providerId = "custom" || providerId = "ollama"

/-- Proxies that may be reached in plain text, by the names and addresses of this machine and by
names without a dot. -/
def providerAllowsTrustedInternalHttp (providerId host : String) : Bool :=
  startsWith providerId "cpa_"
    && (asciiLower host = "localhost" || asciiLower host = "host.docker.internal"
      || (IpAddr.parse host).any isLoopback || !host.toList.contains '.')

/-- What else the checks depend on: `MODELPORT_ALLOW_INSECURE_PROVIDER_HTTP`, and how addresses
are shown. -/
structure EndpointEnv where
  insecureHttp : Bool
  showIp : IpAddr → String

section

variable (env : EndpointEnv) (providerId : String)

/-- A URL in plain text is refused. -/
def refusesHttp (url : Url) (host : String) (allowPrivate : Bool) : Bool :=
  let privateLiteralHost :=
    asciiLower host = "localhost" || (IpAddr.parse host).any privateOrMetadataIp
  url.scheme = "http" && !providerAllowsLoopbackBaseUrl providerId
    && !providerAllowsTrustedInternalHttp providerId host
    && (!allowPrivate || !privateLiteralHost) && !env.insecureHttp

/-- The check of the host, where private addresses are not allowed in general. -/
def checkHost (host : String) : Except String Unit :=
  let local' := providerAllowsLoopbackBaseUrl providerId
    || providerAllowsTrustedInternalHttp providerId host
  if asciiLower host = "localhost" then
    if local' then .ok ()
    else .error "localhost base URLs are only allowed for local/custom/CPA providers"
  else
    match IpAddr.parse host with
    | none => .ok ()
    | some ip =>
      if isLoopback ip && local' then .ok ()
      else if privateOrMetadataIp ip then
        .error ("non-public or special-use IP `" ++ env.showIp ip
          ++ "` requires MODELPORT_ALLOW_PRIVATE_PROVIDER_URLS=1")
      else .ok ()

/-- `validate_provider_base_url_policy`, on what the URL library reports. -/
def validateProviderBaseUrlPolicy (parsed : Except String Url) (allowPrivate : Bool) :
    Except String Unit :=
  match parsed with
  | .error e => .error ("invalid URL: " ++ e)
  | .ok url =>
    if ¬ (url.scheme = "http" ∨ url.scheme = "https") then
      .error "URL scheme must be http or https"
    else if url.username ≠ "" ∨ url.password.isSome then .error "URL userinfo is not allowed"
    else if url.fragment.isSome then .error "URL fragments are not allowed"
    else if url.query.isSome then
      .error "URL query parameters are not allowed; provider credentials must use headers"
    else
      match url.hostStr with
      | none => .error "URL host is required"
      | some host =>
        if hostName host = "" then .error "URL host is required"
        else if refusesHttp env providerId url (hostName host) allowPrivate then
          .error ("remote provider URLs must use https; set "
            ++ "MODELPORT_ALLOW_INSECURE_PROVIDER_HTTP=1 only for a trusted internal HTTP "
            ++ "upstream")
        else if allowPrivate then .ok ()
        else checkHost env providerId (hostName host)

/-- The addresses a connection may go to, with the name it is made under. -/
structure ProviderEndpointPin where
  dnsName : Option String
  addresses : List IpAddr
  port : ℕ

/-- The numbers addresses are ordered by. -/
def addressKey : IpAddr → List ℕ
  | .v4 o => 0 :: (List.ofFn o).map Fin.val
  | .v6 s => 1 :: (List.ofFn s).map Fin.val

/-- The addresses in order, once each. -/
def sortAddresses (addresses : List IpAddr) : List IpAddr :=
  (addresses.insertionSort fun a b => addressKey a ≤ addressKey b).dedup

/-- Any address may be pinned. -/
def privateAddressesAllowed (host : String) (allowPrivate : Bool) : Bool :=
  allowPrivate || providerAllowsLoopbackBaseUrl providerId
    || providerAllowsTrustedInternalHttp providerId host

/-- What a connection may go to, before it is checked: the literal address, or what the resolver
answers. -/
def candidateAddresses (lookupHost : String → ℕ → Option (List IpAddr)) (host : String)
    (port : ℕ) : Option (List IpAddr) :=
  match IpAddr.parse host with
  | some ip => some [ip]
  | none => lookupHost host port

/-- The name a connection is made under, if the host is one. -/
def pinnedName (rawHost : String) : Option String :=
  if (IpAddr.parse (hostName rawHost)).isNone then some (unbracket rawHost) else none

/-- The connection is pinned to the addresses, if they may be reached. -/
def pinAddresses (rawHost : String) (port : ℕ) (allowPrivate : Bool) :
    Option (List IpAddr) → Except AppError ProviderEndpointPin
  | none => .error (.transport "provider endpoint DNS resolution failed")
  | some answers =>
    if answers.isEmpty then .error (.transport "provider endpoint DNS returned no addresses")
    else if !privateAddressesAllowed providerId (hostName rawHost) allowPrivate
        && (sortAddresses answers).any privateOrMetadataIp then
      .error (.forbidden
        "provider endpoint DNS resolved to a non-public or special-use address")
    else .ok ⟨pinnedName rawHost, sortAddresses answers, port⟩

/-- `resolve_provider_base_url_for_connection`; `lookupHost` is what the resolver answers. -/
def resolveProviderBaseUrlForConnection (parsed : Except String Url) (allowPrivate : Bool)
    (lookupHost : String → ℕ → Option (List IpAddr)) : Except AppError ProviderEndpointPin :=
  match validateProviderBaseUrlPolicy env providerId parsed allowPrivate with
  | .error e => .error (.invalidRequest e)
  | .ok _ =>
    match parsed with
    | .error _ => .error (.invalidRequest "provider endpoint URL is invalid")
    | .ok url =>
      match url.hostStr with
      | none => .error (.invalidRequest "provider endpoint host is missing")
      | some rawHost =>
        match url.port with
        | none => .error (.invalidRequest "provider endpoint port could not be determined")
        | some port =>
          pinAddresses providerId rawHost port allowPrivate
            (candidateAddresses lookupHost (hostName rawHost) port)

end

/-! ### Which addresses are public -/

/-- A loopback, private or link-local IPv4 address; the metadata services of clouds are at
link-local ones. -/
def InternalV4 (o : Fin 4 → Fin 256) : Prop :=
  o 0 = 127 ∨ o 0 = 10 ∨ (o 0 = 172 ∧ 16 ≤ (o 1).val ∧ (o 1).val ≤ 31) ∨
    (o 0 = 192 ∧ o 1 = 168) ∨ (o 0 = 169 ∧ o 1 = 254)

/-- Two groups hold the octets of an IPv4 address. -/
structure Holds (high low : Fin 65536) (o : Fin 4 → Fin 256) : Prop where
  high : high.val = (o 0).val * 256 + (o 1).val
  low : low.val = (o 2).val * 256 + (o 3).val

/-- **An internal address**, in any of the forms it can be written in. -/
inductive Internal : IpAddr → Prop
  | plain {o : Fin 4 → Fin 256} (h : InternalV4 o) : Internal (.v4 o)
  | mapped {s : Fin 8 → Fin 65536} {o : Fin 4 → Fin 256} (h : InternalV4 o)
      (hzero : s 0 = 0 ∧ s 1 = 0 ∧ s 2 = 0 ∧ s 3 = 0 ∧ s 4 = 0) (hmark : s 5 = 0xffff)
      (hholds : Holds (s 6) (s 7) o) : Internal (.v6 s)
  | compatible {s : Fin 8 → Fin 65536} {o : Fin 4 → Fin 256} (h : InternalV4 o)
      (hzero : s 0 = 0 ∧ s 1 = 0 ∧ s 2 = 0 ∧ s 3 = 0 ∧ s 4 = 0) (hmark : s 5 = 0)
      (hholds : Holds (s 6) (s 7) o) : Internal (.v6 s)
  | sixToFour {s : Fin 8 → Fin 65536} {o : Fin 4 → Fin 256} (h : InternalV4 o)
      (hmark : s 0 = 0x2002) (hholds : Holds (s 1) (s 2) o) : Internal (.v6 s)
  /-- the client's address is in the last groups, complemented -/
  | teredo {s : Fin 8 → Fin 65536} {o : Fin 4 → Fin 256} (h : InternalV4 o)
      (hmark : s 0 = 0x2001 ∧ s 1 = 0) (hholds : Holds (s 6).rev (s 7).rev o) : Internal (.v6 s)
  | nat64 {s : Fin 8 → Fin 65536} {o : Fin 4 → Fin 256} (h : InternalV4 o)
      (hmark : s 0 = 0x64 ∧ s 1 = 0xff9b) (hsub : s 2 = 0 ∨ s 2 = 1)
      (hholds : Holds (s 6) (s 7) o) : Internal (.v6 s)
  | loopback {s : Fin 8 → Fin 65536} (h : isLoopback (.v6 s)) : Internal (.v6 s)
  | uniqueLocal {s : Fin 8 → Fin 65536} (h : (s 0).val / 512 = 126) : Internal (.v6 s)
  | linkLocal {s : Fin 8 → Fin 65536} (h : (s 0).val / 64 = 1018) : Internal (.v6 s)

lemma privateOrMetadataIpv4_of_internal (h : InternalV4 o) : privateOrMetadataIpv4 o := by
  unfold privateOrMetadataIpv4
  rcases h with h | h | ⟨h, hlow, hhigh⟩ | ⟨h, h'⟩ | ⟨h, h'⟩
  · simp [h]
  · simp [h]
  · simp [h, hlow, hhigh]
  · simp [h, h']
  · simp [h, h']

/-- Outside of `2000::/3` nothing is public. -/
lemma special_of_not_global (hmapped : toIpv4Mapped s = none)
    (h : (s 0).val / 8192 ≠ 1) : privateOrMetadataIp (.v6 s) := by
  simp only [privateOrMetadataIp, hmapped, specialUseIpv6]
  simp [h]

lemma toIpv4Mapped_eq_none (h : s 0 ≠ 0 ∨ s 5 ≠ 0xffff) : toIpv4Mapped s = none := by
  unfold toIpv4Mapped
  rw [if_neg]
  intro hall
  simp only [Bool.and_eq_true, decide_eq_true_eq] at hall
  rcases h with h | h
  · exact h hall.1.1.1.1.1
  · exact h hall.2

lemma toIpv4Mapped_of_holds
    (hzero : s 0 = 0 ∧ s 1 = 0 ∧ s 2 = 0 ∧ s 3 = 0 ∧ s 4 = 0) (hmark : s 5 = 0xffff)
    (hholds : Holds (s 6) (s 7) o) : toIpv4Mapped s = some o := by
  obtain ⟨h0, h1, h2, h3, h4⟩ := hzero
  unfold toIpv4Mapped
  rw [if_pos (by simp [h0, h1, h2, h3, h4, hmark]), hholds.high, hholds.low]
  congr 1
  funext i
  refine Fin.ext ?_
  fin_cases i
  · simp only [Fin.ofNat, getD_cons_zero, Fin.zero_eta]
    omega
  · simp
  · simp
    omega
  · simp

/-- **No form of an internal address is public.** -/
lemma internal_not_public (h : Internal ip) : privateOrMetadataIp ip := by
  cases h with
  | plain h => exact privateOrMetadataIpv4_of_internal h
  | mapped h hzero hmark hholds =>
    simp only [privateOrMetadataIp, toIpv4Mapped_of_holds hzero hmark hholds]
    exact privateOrMetadataIpv4_of_internal h
  | compatible h hzero hmark hholds =>
    exact special_of_not_global (toIpv4Mapped_eq_none (.inr (by simp [hmark]))) (by simp [hzero.1])
  | @sixToFour s o h hmark hholds =>
    have hnone := toIpv4Mapped_eq_none (s := s) (.inl (by simp [hmark]))
    simp [privateOrMetadataIp, hnone, specialUseIpv6, hmark]
  | @teredo s o h hmark hholds =>
    have hnone := toIpv4Mapped_eq_none (s := s) (.inl (by simp [hmark.1]))
    simp [privateOrMetadataIp, hnone, specialUseIpv6, hmark.1, hmark.2]
  | nat64 h hmark hsub hholds =>
    exact special_of_not_global (toIpv4Mapped_eq_none (.inl (by simp [hmark.1])))
      (by simp [hmark.1])
  | loopback h =>
    simp only [isLoopback, Bool.and_eq_true, decide_eq_true_eq] at h
    obtain ⟨⟨⟨⟨⟨⟨⟨h0, -⟩, -⟩, -⟩, -⟩, h5⟩, -⟩, -⟩ := h
    exact special_of_not_global (toIpv4Mapped_eq_none (.inr (by simp [h5]))) (by simp [h0])
  | uniqueLocal h =>
    refine special_of_not_global (toIpv4Mapped_eq_none (.inl ?_)) (by omega)
    intro h0
    rw [h0] at h
    cases h
  | linkLocal h =>
    refine special_of_not_global (toIpv4Mapped_eq_none (.inl ?_)) (by omega)
    intro h0
    rw [h0] at h
    cases h

/-! ### What the checks accept -/

section

variable {env : EndpointEnv} {id : String} {url : Url} {allowPrivate : Bool} {raw host : String}
  {pin : ProviderEndpointPin} {port : ℕ}

/-- A URL of the allowed kind. -/
structure CleanUrl (url : Url) : Prop where
  scheme : url.scheme = "http" ∨ url.scheme = "https"
  userinfo : url.username = "" ∧ url.password = none
  fragment : url.fragment = none
  query : url.query = none

/-- **What the check of the URL accepts.** -/
lemma policy_ok_iff (hraw : url.hostStr = some raw) :
    validateProviderBaseUrlPolicy env id (.ok url) allowPrivate = .ok () ↔
      CleanUrl url ∧ hostName raw ≠ "" ∧
        refusesHttp env id url (hostName raw) allowPrivate = false ∧
        (allowPrivate ∨ checkHost env id (hostName raw) = .ok ()) := by
  unfold validateProviderBaseUrlPolicy
  simp only [hraw]
  constructor
  · intro h
    split_ifs at h with hsch huser hfrag hquery hempty hhttp hpriv
    · rw [not_or] at huser
      exact ⟨⟨hsch, ⟨not_not.1 huser.1, by simpa using huser.2⟩,
        by simpa using hfrag, by simpa using hquery⟩, hempty, by simpa using hhttp,
        .inl hpriv⟩
    · rw [not_or] at huser
      exact ⟨⟨hsch, ⟨not_not.1 huser.1, by simpa using huser.2⟩,
        by simpa using hfrag, by simpa using hquery⟩, hempty, by simpa using hhttp, .inr h⟩
  · rintro ⟨⟨hsch, ⟨huser, hpass⟩, hfrag, hquery⟩, hempty, hhttp, hhost⟩
    rw [if_neg (not_not.2 hsch), if_neg (by simp [huser, hpass]),
      if_neg (by simp [hfrag]), if_neg (by simp [hquery]), if_neg hempty,
      if_neg (by simp [hhttp])]
    rcases hhost with hpriv | hhost
    · rw [if_pos hpriv]
    · split_ifs
      · rfl
      · exact hhost

lemma mem_sortAddresses {addresses : List IpAddr} :
    ip ∈ sortAddresses addresses ↔ ip ∈ addresses := by
  unfold sortAddresses
  rw [mem_dedup]
  exact (perm_insertionSort _ _).mem_iff

lemma pinAddresses_ok_iff {answers : Option (List IpAddr)} :
    pinAddresses id raw port allowPrivate answers = .ok pin ↔ ∃ ips, answers = some ips ∧ ips ≠ [] ∧
        (privateAddressesAllowed id (hostName raw) allowPrivate ∨
          ∀ ip ∈ ips, privateOrMetadataIp ip = false) ∧
        pin = ⟨pinnedName raw, sortAddresses ips, port⟩ := by
  have hany : ∀ ips : List IpAddr, (sortAddresses ips).any privateOrMetadataIp = false ↔
      ∀ ip ∈ ips, privateOrMetadataIp ip = false := fun ips => by
    simp only [any_eq_false, mem_sortAddresses, Bool.not_eq_true]
  cases answers with
  | none => simp [pinAddresses]
  | some ips =>
    simp only [pinAddresses, List.isEmpty_iff]
    by_cases hempty : ips = []
    · simp [hempty]
    · rw [if_neg hempty]
      constructor
      · intro h
        split_ifs at h with href
        refine ⟨ips, rfl, hempty, ?_, (Except.ok.inj h).symm⟩
        rw [Bool.and_eq_true, not_and_or] at href
        rcases href with hallowed | hpub
        · exact .inl (by simpa using hallowed)
        · exact .inr ((hany ips).1 (by simpa using hpub))
      · rintro ⟨ips', heq, -, hallowed, rfl⟩
        cases heq
        rw [if_neg]
        rw [Bool.and_eq_true, not_and_or]
        rcases hallowed with hallowed | hpub
        · exact .inl (by simp [hallowed])
        · exact .inr (by rw [(hany ips).2 hpub]; exact Bool.false_ne_true)

/-- **What the check of the connection accepts.** -/
lemma connection_ok_iff {lookupHost : String → ℕ → Option (List IpAddr)}
    (hraw : url.hostStr = some raw) :
    resolveProviderBaseUrlForConnection env id (.ok url) allowPrivate lookupHost = .ok pin ↔
      validateProviderBaseUrlPolicy env id (.ok url) allowPrivate = .ok () ∧
        ∃ port, url.port = some port ∧ pinAddresses id raw port allowPrivate
            (candidateAddresses lookupHost (hostName raw) port) = .ok pin := by
  unfold resolveProviderBaseUrlForConnection
  cases validateProviderBaseUrlPolicy env id (.ok url) allowPrivate with
  | error e => simp
  | ok u =>
    simp only [hraw]
    cases url.port with
    | none => simp
    | some port => simp

/-! ### Literal hosts -/

/-- A host that is an address. The URL library writes IPv4 addresses with dots and IPv6 addresses
without. -/
structure IsLiteral (ip : IpAddr) (text : String) : Prop where
  parses : IpAddr.parse (hostName text) = some ip
  dotted : (hostName text).toList.contains '.' = match ip with
    | .v4 _ => true
    | .v6 _ => false

/-- A name that begins with a letter after `f` is no address. -/
lemma asciiLower_ne_of_parse (h : parse host = some ip) {name : String}
    {first : Char} {rest : List Char} (hname : name.toList = first :: rest)
    (hfirst : 103 ≤ first.toNat ∧ first.toNat ≤ 122) : asciiLower host ≠ name := by
  intro heq
  have hall := all_isAddressChar_of_parse h
  have hmap : host.toList.map asciiLowerChar = first :: rest := by
    rw [← hname, ← heq, asciiLower, String.toList_ofList]
  cases hhost : host.toList with
  | nil =>
    rw [hhost] at hmap
    cases hmap
  | cons c cs =>
    rw [hhost, map_cons, List.cons.injEq] at hmap
    rw [hhost, all_cons, Bool.and_eq_true] at hall
    have hrange := isAddressChar_range hall.1
    obtain ⟨hlower, -⟩ := hmap
    unfold asciiLowerChar at hlower
    split_ifs at hlower with hupper
    · -- an upper-case letter of an address is at most `F`
      have hvalue := hall.1
      have hnat : first.toNat = c.toNat + 32 := by
        have hvalid : (c.toNat + 32).isValidChar := .inl (by omega)
        rw [← hlower, Char.ofNat, dif_pos hvalid]
        rfl
      simp only [isAddressChar, digitValue, Bool.or_eq_true, decide_eq_true_eq,
        Option.isSome_filter, Option.any_eq_true] at hvalue
      have h9 : '9'.toNat = 57 := rfl
      have ha : 'a'.toNat = 97 := rfl
      have hF : 'F'.toNat = 70 := rfl
      rcases hvalue with (⟨v, hv, -⟩ | rfl) | rfl
      · rw [if_neg (by omega), if_neg (by omega), if_neg (by omega)] at hv
        cases hv
      · exact absurd hupper (by decide)
      · exact absurd hupper (by decide)
    · rw [hlower] at hrange
      omega

/-- A proxy may be reached in plain text at this literal address. -/
def trustsLiteral (id : String) (ip : IpAddr) : Bool :=
  startsWith id "cpa_" && (isLoopback ip || match ip with
    | .v4 _ => false
    | .v6 _ => true)

variable {text : String}

lemma trustedInternalHttp_literal (h : IsLiteral ip text) :
    providerAllowsTrustedInternalHttp id (hostName text) = trustsLiteral id ip := by
  have hlocal : asciiLower (hostName text) ≠ "localhost" :=
    asciiLower_ne_of_parse h.parses rfl (by decide)
  have hdocker : asciiLower (hostName text) ≠ "host.docker.internal" :=
    asciiLower_ne_of_parse h.parses rfl (by decide)
  unfold providerAllowsTrustedInternalHttp trustsLiteral
  rw [h.parses, h.dotted]
  cases ip with
  | v4 | v6 => simp [hlocal, hdocker]

/-- **What is accepted with a literal host.** -/
lemma literal_accepted_iff (hclean : CleanUrl url) (hport : url.port = some port)
    (h : IsLiteral ip text) (lookupHost : String → ℕ → Option (List IpAddr)) :
    (resolveProviderBaseUrlForConnection env id (.ok { url with hostStr := some text })
        allowPrivate lookupHost).isOk ↔
      (url.scheme = "http" → env.insecureHttp = false → providerAllowsLoopbackBaseUrl id = false →
        trustsLiteral id ip ∨ (allowPrivate ∧ privateOrMetadataIp ip)) ∧
      (allowPrivate ∨ privateOrMetadataIp ip = false ∨ (isLoopback ip ∧
          (providerAllowsLoopbackBaseUrl id ∨ trustsLiteral id ip))) := by
  have htrusted : providerAllowsTrustedInternalHttp id (hostName text) = trustsLiteral id ip :=
    trustedInternalHttp_literal h
  have hlocal : asciiLower (hostName text) ≠ "localhost" :=
    asciiLower_ne_of_parse h.parses rfl (by decide)
  have hne : hostName text ≠ "" := by
    intro hempty
    have hparses := h.parses
    rw [hempty] at hparses
    cases hparses
  have hhttp : refusesHttp env id { url with hostStr := some text } (hostName text) allowPrivate =
      false ↔ (url.scheme = "http" → env.insecureHttp = false →
        providerAllowsLoopbackBaseUrl id = false →
        trustsLiteral id ip ∨ (allowPrivate ∧ privateOrMetadataIp ip)) := by
    have hany : (some ip).any privateOrMetadataIp = privateOrMetadataIp ip := rfl
    unfold refusesHttp
    rw [htrusted, h.parses, hany]
    by_cases hsch : url.scheme = "http"
    · cases env.insecureHttp <;> cases providerAllowsLoopbackBaseUrl id <;>
        cases trustsLiteral id ip <;> cases allowPrivate <;> cases privateOrMetadataIp ip <;>
        simp [hlocal]
    · simp [hsch]
  have hcheck : checkHost env id (hostName text) = .ok () ↔ privateOrMetadataIp ip = false ∨
      (isLoopback ip ∧
        (providerAllowsLoopbackBaseUrl id ∨ trustsLiteral id ip)) := by
    unfold checkHost
    simp only [if_neg hlocal, htrusted, h.parses]
    cases isLoopback ip <;> cases providerAllowsLoopbackBaseUrl id <;> cases trustsLiteral id ip <;>
      cases privateOrMetadataIp ip <;> simp
  have hpol : validateProviderBaseUrlPolicy env id (.ok { url with hostStr := some text })
      allowPrivate = .ok () ↔ _ := policy_ok_iff rfl
  rw [hhttp, hcheck] at hpol
  rw [Except.isOk_iff_exists]
  constructor
  · rintro ⟨pin, hpin⟩
    obtain ⟨-, -, hplain, hhost⟩ := hpol.1 ((connection_ok_iff rfl).1 hpin).1
    exact ⟨hplain, hhost⟩
  · rintro ⟨hplain, hhost⟩
    refine ⟨⟨pinnedName text, sortAddresses [ip], port⟩, (connection_ok_iff rfl).2
      ⟨hpol.2 ⟨⟨hclean.scheme, hclean.userinfo, hclean.fragment, hclean.query⟩, hne, hplain,
        hhost⟩, port, hport, pinAddresses_ok_iff.2 ⟨[ip], ?_, by simp, ?_, rfl⟩⟩⟩
    · unfold candidateAddresses
      rw [h.parses]
    · -- what passes as a literal is public, or may be private anyway
      unfold privateAddressesAllowed
      rw [htrusted]
      rcases hhost with hpriv | hpub | ⟨-, hlocal⟩
      · exact .inl (by simp [hpriv])
      · exact .inr (by simpa using hpub)
      · rcases hlocal with hlocal | hlocal
        · exact .inl (by simp [hlocal])
        · exact .inl (by simp [hlocal])

end

/-! ### Names -/

/-- What the inputs must be for a name to grant no more than its addresses: without the permission
only public addresses are answered to a provider that any address may be pinned for, and in plain
text only such as a literal may be. -/
structure DnsConfined (env : EndpointEnv) (id : String) (url : Url) (allowPrivate : Bool)
    (host : String) (answers : List IpAddr) : Prop where
  publicOnly : allowPrivate = false →
    (providerAllowsLoopbackBaseUrl id ∨ providerAllowsTrustedInternalHttp id host) →
    ∀ ip ∈ answers, privateOrMetadataIp ip = false
  plainText : url.scheme = "http" → env.insecureHttp = false →
    providerAllowsLoopbackBaseUrl id = false → ∀ ip ∈ answers,
      trustsLiteral id ip ∨ (allowPrivate ∧ privateOrMetadataIp ip)

/-- **When a name grants no more than its addresses.** A URL whose host is a name is accepted and
pinned. Each of the addresses would be accepted as a literal host of the same URL, and without the
permission all of them are public, iff the resolver's answers are confined; and no form of an
internal address is public. -/
theorem dns_grants_no_more_iff (env : EndpointEnv) (id : String) (url : Url) (allowPrivate : Bool)
    (raw : String) (lookupHost : String → ℕ → Option (List IpAddr)) (pin : ProviderEndpointPin)
    (literal : IpAddr → String) (hraw : url.hostStr = some raw)
    (hname : IpAddr.parse (hostName raw) = none)
    (hpin : resolveProviderBaseUrlForConnection env id (.ok url) allowPrivate lookupHost = .ok pin)
    (hliteral : ∀ ip ∈ pin.addresses, IsLiteral ip (literal ip)) :
    (∀ ip, Internal ip → privateOrMetadataIp ip) ∧
    ∃ port answers, url.port = some port ∧ lookupHost (hostName raw) port = some answers ∧
      (∀ ip, ip ∈ pin.addresses ↔ ip ∈ answers) ∧
      (((∀ ip ∈ pin.addresses, (resolveProviderBaseUrlForConnection env id
            (.ok { url with hostStr := some (literal ip) }) allowPrivate lookupHost).isOk) ∧
          (allowPrivate = false → ∀ ip ∈ pin.addresses, privateOrMetadataIp ip = false)) ↔
        DnsConfined env id url allowPrivate (hostName raw) answers) := by
  obtain ⟨hpol, port, hport, hpinned⟩ := (connection_ok_iff hraw).1 hpin
  obtain ⟨hclean, -, -, -⟩ := (policy_ok_iff hraw).1 hpol
  obtain ⟨answers, hanswers, -, hallowed, rfl⟩ := pinAddresses_ok_iff.1 hpinned
  unfold candidateAddresses at hanswers
  rw [hname] at hanswers
  simp only [mem_sortAddresses] at hliteral ⊢
  refine ⟨fun ip => internal_not_public, port, answers, hport, hanswers, fun ip => Iff.rfl, ?_⟩
  have hacc : ∀ ip ∈ answers, ((resolveProviderBaseUrlForConnection env id
      (.ok { url with hostStr := some (literal ip) }) allowPrivate lookupHost).isOk ↔ _) :=
    fun ip hip => literal_accepted_iff hclean hport (hliteral ip hip) lookupHost
  constructor
  · rintro ⟨hall, hpub⟩
    refine ⟨fun hoff _ => hpub hoff, fun hhttp hsecure hremote ip hip => ?_⟩
    exact ((hacc ip hip).1 (hall ip hip)).1 hhttp hsecure hremote
  · intro hconf
    have hpub : allowPrivate = false → ∀ ip ∈ answers, privateOrMetadataIp ip = false := by
      intro hoff
      rcases hallowed with hallowed | hpub
      · refine hconf.publicOnly hoff ?_
        unfold privateAddressesAllowed at hallowed
        rw [hoff, Bool.or_eq_true] at hallowed
        exact hallowed
      · exact hpub
    refine ⟨fun ip hip => (hacc ip hip).2 ⟨fun hhttp hsecure hremote => ?_, ?_⟩, hpub⟩
    · exact hconf.plainText hhttp hsecure hremote ip hip
    · cases hoff : allowPrivate with
      | true => exact .inl rfl
      | false => exact .inr (.inl (hpub hoff ip hip))

section

def secureEnv : EndpointEnv := ⟨false, fun _ => ""⟩

/-- A URL with this scheme and host. -/
def urlOf (scheme host : String) : Url :=
    { scheme := scheme, hostStr := some host, port := some 443 }

/-- A resolver that answers one address. -/
def answersWith (ip : IpAddr) : String → ℕ → Option (List IpAddr) := fun _ _ => some [ip]

/-- A name of a public service. -/
theorem dns_grants_no_more_iff_public :
    let ip := IpAddr.ofOctets 93 184 216 34
    let url := urlOf "https" "api.example"
    ∃ pin, resolveProviderBaseUrlForConnection secureEnv "acme" (.ok url) false (answersWith ip) =
        .ok pin ∧ pin.addresses = [ip] ∧
      ∃ answers, (((∀ ip ∈ pin.addresses, (resolveProviderBaseUrlForConnection secureEnv "acme"
            (.ok { url with hostStr := some "93.184.216.34" }) false
            (answersWith (IpAddr.ofOctets 93 184 216 34))).isOk) ∧
          (false = false → ∀ ip ∈ pin.addresses, privateOrMetadataIp ip = false)) ↔
        DnsConfined secureEnv "acme" url false (hostName "api.example") answers) := by
  intro ip url
  have hpin : resolveProviderBaseUrlForConnection secureEnv "acme" (.ok url) false
      (answersWith ip) = .ok ⟨pinnedName "api.example", sortAddresses [ip], 443⟩ := by
    refine (connection_ok_iff rfl).2 ⟨(policy_ok_iff rfl).2 ?_, 443, rfl,
      pinAddresses_ok_iff.2 ⟨[ip], ?_, by simp, ?_, rfl⟩⟩
    · refine ⟨⟨.inr rfl, ⟨rfl, rfl⟩, rfl, rfl⟩, by decide +kernel, by decide +kernel, .inr ?_⟩
      decide +kernel
    · decide +kernel
    · exact .inr (by decide +kernel)
  have hliteral : ∀ pinned ∈ sortAddresses [ip], IsLiteral pinned "93.184.216.34" := by
    intro pinned hpinned
    rw [mem_singleton.1 (mem_sortAddresses.1 hpinned)]
    exact ⟨by decide +kernel, by decide +kernel⟩
  obtain ⟨-, port, answers, -, -, -, hiff⟩ :=
    dns_grants_no_more_iff secureEnv "acme" url false "api.example" (answersWith ip) _
      (fun _ => "93.184.216.34") rfl (by decide +kernel) hpin hliteral
  exact ⟨_, hpin, by decide +kernel, answers, hiff⟩

/-- What a connection is pinned to. -/
def pinnedAddresses (providerId scheme host : String) (answer : IpAddr) : Option (List IpAddr) :=
  ((resolveProviderBaseUrlForConnection secureEnv providerId (.ok (urlOf scheme host)) false
    (answersWith answer)).toOption).map (·.addresses)

/-- **A name that grants more.** For a local provider a name is pinned to an address of the private
network, and for a proxy a name without a dot to the metadata service; as literal hosts both
addresses are refused. -/
theorem local_name_reaches_private_network :
    pinnedAddresses "local_vllm" "https" "models.example" (IpAddr.ofOctets 10 0 0 5) =
        some [IpAddr.ofOctets 10 0 0 5] ∧
      pinnedAddresses "local_vllm" "https" "10.0.0.5" (IpAddr.ofOctets 10 0 0 5) = none ∧
      pinnedAddresses "cpa_codex" "http" "proxy" (IpAddr.ofOctets 169 254 169 254) =
        some [IpAddr.ofOctets 169 254 169 254] ∧
      pinnedAddresses "cpa_codex" "http" "169.254.169.254" (IpAddr.ofOctets 169 254 169 254) =
        none ∧
      privateOrMetadataIp (IpAddr.ofOctets 10 0 0 5) ∧
      privateOrMetadataIp (IpAddr.ofOctets 169 254 169 254) := by
  decide +kernel

end

end ModelPort.Routing
