import ModelPort.Gateway.RateLimit

/-!
# The client's address behind proxies

A trusted proxy names its client in `X-Forwarded-For`. `forwardedClientIp` reads that header from
the right: it skips the addresses of trusted proxies and takes the first that is not one. What a
client writes itself stands to the left of the entry its proxy appends.

The header may come in several lines, of which `HeaderMap::get` gives the first; a line with a
byte beyond visible ASCII is not read at all (`HeaderValue::to_str`); and an entry that does not
parse is left out.

* `client_address_unspoofable_iff`: when the client's own part of the header is without effect.
-/

namespace ModelPort.Gateway

open IpAddr List

variable {proxies : TrustedProxyConfig}

/-! ### Trusted proxies -/

/-- An address or a network. -/
inductive IpRule where
  | exact (ip : IpAddr)
  | cidr (base : IpAddr) (width : ℕ)
  deriving DecidableEq

def cidrMatches (base ip width bits : ℕ) : Bool :=
  width = 0 || base >>> (bits - width) = ip >>> (bits - width)

def ipRuleMatches : IpRule → IpAddr → Bool
  | .exact exact, ip => exact = ip
  | .cidr (.v4 base) width, .v4 ip =>
    width ≤ 32 && cidrMatches (IpAddr.v4 base).toBits (IpAddr.v4 ip).toBits width 32
  | .cidr (.v6 base) width, .v6 ip =>
    width ≤ 128 && cidrMatches (IpAddr.v6 base).toBits (IpAddr.v6 ip).toBits width 128
  | .cidr _ _, _ => false

def parseIpRule (value : String) : Option IpRule :=
  match IpAddr.parse value with
  | some ip => some (.exact ip)
  | none =>
    match splitOnce '/' value with
    | none => none
    | some (base, width) =>
      match IpAddr.parse base, parseUnsigned 256 width with
      | some base, some width =>
        let maxWidth := match base with
          | .v4 _ => 32
          | .v6 _ => 128
        if maxWidth < width then none else some (.cidr base width)
      | _, _ => none

/-- The proxies that are believed. -/
structure TrustedProxyConfig where
  rules : List IpRule

namespace TrustedProxyConfig

/-- `TrustedProxyConfig::is_trusted`. -/
def isTrusted (proxies : TrustedProxyConfig) (ip : IpAddr) : Bool :=
  ip.isLoopback || proxies.rules.any fun rule => ipRuleMatches rule ip

end TrustedProxyConfig

/-! ### Headers -/

/-- A byte that `HeaderValue::to_str` accepts. A byte is written as the character of its code. -/
def isVisible (b : Char) : Bool := (32 ≤ b.toNat && b.toNat < 127) || b = '\t'

/-- A header value. -/
structure HeaderValue where
  bytes : List Char
  deriving DecidableEq

/-- `HeaderValue::to_str`. -/
def HeaderValue.toStr (value : HeaderValue) : Option String :=
  if value.bytes.all isVisible then some (String.ofList value.bytes) else none

/-- The headers that name a client, each with its lines in the order they came in. -/
structure ForwardingHeaders where
  xForwardedFor : List HeaderValue
  xRealIp : List HeaderValue
  cfConnectingIp : List HeaderValue

/-- `HeaderMap::get` and `to_str`: the text of the first line. -/
def firstLine (lines : List HeaderValue) : Option String := lines.head?.bind HeaderValue.toStr

/-- `parse_ip_with_optional_port`, and `parse_client_ip` of the key policy. -/
def parseIpWithOptionalPort (value : String) : Option IpAddr :=
  let value := trim value
  match IpAddr.parse value with
  | some ip => some ip
  | none => (rsplitOnce ':' value).bind fun hostPort => IpAddr.parse hostPort.1

/-! ### The address -/

section

variable (proxies : TrustedProxyConfig) (peer : IpAddr)

/-- The hops of an `X-Forwarded-For` line that parse. -/
def hops (value : String) : List IpAddr := (split ',' value).filterMap parseIpWithOptionalPort

/-- The hop nearest to the peer that is no trusted proxy, or the peer. -/
def nearestUntrusted (chain : List IpAddr) : IpAddr :=
  ((chain ++ [peer]).reverse.find? fun ip => !proxies.isTrusted ip).getD peer

/-- `X-Real-IP` or, without it, `CF-Connecting-IP`. -/
def singleAddressHeader (headers : ForwardingHeaders) : Option IpAddr :=
  [headers.xRealIp, headers.cfConnectingIp].findSome? fun lines =>
    (firstLine lines).bind parseIpWithOptionalPort

def forwardedClientIp (headers : ForwardingHeaders) : Option IpAddr :=
  match firstLine headers.xForwardedFor with
  | some value =>
    if (hops value).isEmpty then singleAddressHeader headers
    else some (nearestUntrusted proxies peer (hops value))
  | none => singleAddressHeader headers

/-- The address that `client_ip` writes out, for a connection from `peer`. -/
def clientAddress (headers : ForwardingHeaders) : IpAddr :=
  if proxies.isTrusted peer then (forwardedClientIp proxies peer headers).getD peer else peer

/-- `client_ip`, for a connection from `peer`. -/
def clientIp (headers : ForwardingHeaders) : Option String :=
  some (clientAddress proxies peer headers).display

end

/-! ### Decisions by address -/

/-- `ip_rule_matches` of the key policy, whose rules are texts. -/
def allowedIpMatches (rule : String) (ip : IpAddr) : Bool :=
  (parseIpRule rule).any fun rule => ipRuleMatches rule ip

def enforceIpPolicy (ipRestricted : Bool) (allowedIps : List String) (clientIp : Option String) :
    Except AppError Unit :=
  if !ipRestricted then .ok ()
  else if allowedIps.isEmpty then
    .error (.forbidden "API key IP restriction has no allowed IPs configured")
  else
    match clientIp with
    | none => .error (.forbidden "client IP is required for this API key")
    | some text =>
      match parseIpWithOptionalPort text with
      | none => .error (.forbidden "client IP is invalid for this API key")
      | some ip =>
        if allowedIps.any fun rule => allowedIpMatches rule ip then .ok ()
        else .error (.forbidden ("client IP " ++ ip.display ++ " is not allowed for this API key"))

/-- The same address, and with it the same decisions of the key's allowlist and of the rate
limiter. -/
structure SameClient (proxies : TrustedProxyConfig) (peer : IpAddr) (h h' : ForwardingHeaders) :
    Prop where
  address : clientAddress proxies peer h = clientAddress proxies peer h'
  allowlist : ∀ ipRestricted allowedIps,
    enforceIpPolicy ipRestricted allowedIps (clientIp proxies peer h) =
      enforceIpPolicy ipRestricted allowedIps (clientIp proxies peer h')
  rateLimit : ∀ config now (scope : RateLimitScope) s,
    rateCheck config now { scope with clientIp := clientIp proxies peer h } s =
      rateCheck config now { scope with clientIp := clientIp proxies peer h' } s

lemma sameClient_iff {proxies : TrustedProxyConfig} {peer : IpAddr} {h h' : ForwardingHeaders} :
    SameClient proxies peer h h' ↔
      clientAddress proxies peer h = clientAddress proxies peer h' := by
  refine ⟨SameClient.address, fun haddr => ?_⟩
  have hip : clientIp proxies peer h = clientIp proxies peer h' := by
    rw [clientIp, clientIp, haddr]
  exact ⟨haddr, fun _ _ => by rw [hip], fun _ _ _ _ => by rw [hip]⟩

/-! ### Entries of proxies -/

/-- The forms in which proxies write a hop. -/
inductive HopForm where
  | plain
  /-- an IPv4 address and a port -/
  | withPort (port : String)
  /-- an IPv6 address in brackets and a port -/
  | bracketed (port : String)

def HopForm.isBracketed : HopForm → Bool
  | .bracketed _ => true
  | _ => false

/-- The text is the address in this form. -/
def HopForm.Writes (address : IpAddr) (text : String) : HopForm → Prop
  | .plain => IpAddr.parse text = some address
  | .withPort port =>
    port.toList.all Char.isDigit ∧ ∃ host octets, IpAddr.parse host = some address ∧
      address = .v4 octets ∧ text = host ++ ":" ++ port
  | .bracketed port =>
    port.toList.all Char.isDigit ∧ ∃ host groups, IpAddr.parse host = some address ∧
      address = .v6 groups ∧ text = "[" ++ host ++ "]:" ++ port

/-- The entry that the proxy facing the client appends: an untrusted address in one of the forms,
possibly with blanks around it. -/
structure Hop (proxies : TrustedProxyConfig) where
  address : IpAddr
  form : HopForm
  text : String
  writes : form.Writes address (trim text)
  untrusted : proxies.isTrusted address = false
  visible : text.toList.all isVisible
  single : ',' ∉ text.toList

lemma notMem_of_isDigit {port : String} (h : port.toList.all Char.isDigit) : ':' ∉ port.toList := by
  intro hmem
  exact absurd (all_eq_true.1 h ':' hmem) (by decide)

lemma Hop.parse_of_not_bracketed (hop : Hop proxies) (h : hop.form.isBracketed = false) :
    parseIpWithOptionalPort hop.text = some hop.address := by
  have hwrit := hop.writes
  unfold parseIpWithOptionalPort
  cases hform : hop.form with
  | plain =>
    rw [hform] at hwrit
    simp only [show parse (trim hop.text) = some hop.address from hwrit]
  | withPort port =>
    rw [hform] at hwrit
    obtain ⟨hport, host, octets, hparse, hv4, htext⟩ := hwrit
    have hnone : parse (host ++ ":" ++ port) = none := by
      rw [hv4] at hparse
      exact parse_port hparse port
    have hsplit : rsplitOnce ':' (host ++ ":" ++ port) = some (host, port) :=
      rsplitOnce_append (notMem_of_isDigit hport)
    simp only [htext, hnone, hsplit, Option.bind_some, hparse]
  | bracketed port =>
    rw [hform] at h
    cases h

lemma Hop.parse_of_bracketed (hop : Hop proxies) (h : hop.form.isBracketed) :
    parseIpWithOptionalPort hop.text = none := by
  have hwrit := hop.writes
  unfold parseIpWithOptionalPort
  cases hform : hop.form with
  | plain | withPort =>
    rw [hform] at h
    cases h
  | bracketed port =>
    rw [hform] at hwrit
    obtain ⟨hport, host, groups, -, -, htext⟩ := hwrit
    have hassoc : "[" ++ host ++ "]:" ++ port = "[" ++ (host ++ "]:" ++ port) := by
      simp only [String.append_assoc]
    have hbracket : "[" ++ host ++ "]:" ++ port = ("[" ++ (host ++ "]")) ++ ":" ++ port := by
      rw [← String.toList_inj]
      simp
    have hsplit : rsplitOnce ':' ("[" ++ host ++ "]:" ++ port) =
        some ("[" ++ (host ++ "]"), port) := by
      rw [hbracket]
      exact rsplitOnce_append (notMem_of_isDigit hport)
    simp only [htext, hsplit, Option.bind_some, parse_bracket]
    rw [hassoc, parse_bracket]

/-! ### What the client writes -/

/-- What stands to the left of the proxy's entry: whole lines before, and text in its line. -/
structure ClientPart where
  earlier : List HeaderValue
  left : Option (List Char)

/-- What a client may write: further lines, and bytes that are not visible ASCII. -/
structure Freedom where
  severalLines : Bool
  anyBytes : Bool

/-- The client stays within its freedom. -/
structure ClientPart.Fits (part : ClientPart) (f : Freedom) : Prop where
  lines : f.severalLines = false → part.earlier = []
  bytes : f.anyBytes = false →
    (∀ line ∈ part.earlier, line.bytes.all isVisible) ∧
      ∀ left, part.left = some left → left.all isVisible

/-- The line that the proxy completes. -/
def ClientPart.lastLine (part : ClientPart) (entry : String) : HeaderValue :=
  match part.left with
  | none => ⟨entry.toList⟩
  | some left => ⟨left ++ ',' :: entry.toList⟩

/-- The headers of a request that differ from `others` only in the client's part. -/
def ClientPart.headers (part : ClientPart) (entry : String) (others : ForwardingHeaders) :
    ForwardingHeaders :=
  { others with xForwardedFor := part.earlier ++ [part.lastLine entry] }

section

variable {peer ip : IpAddr} {headers : ForwardingHeaders}

lemma nearestUntrusted_append (hpeer : proxies.isTrusted peer) (chain : List IpAddr)
    (hip : proxies.isTrusted ip = false) : nearestUntrusted proxies peer (chain ++ [ip]) = ip := by
  simp [nearestUntrusted, hpeer, hip]

/-- A line with the single hop `ip` never gives another untrusted address. -/
lemma nearestUntrusted_singleton_ne (hpeer : proxies.isTrusted peer) {address : IpAddr}
    (hne : ip ≠ address) (haddr : proxies.isTrusted address = false) :
    nearestUntrusted proxies peer [ip] ≠ address := by
  have hpeer' : peer ≠ address := by
    rintro rfl
    rw [hpeer] at haddr
    cases haddr
  cases hip : proxies.isTrusted ip <;> simp [nearestUntrusted, hpeer, hip, hne, hpeer']

lemma hops_single {entry : String} (hsingle : ',' ∉ entry.toList) :
    hops entry = (parseIpWithOptionalPort entry).toList := by
  unfold hops split
  rw [splitChars_of_notMem hsingle, map_singleton, String.ofList_toList, filterMap_cons]
  cases parseIpWithOptionalPort entry <;> rfl

lemma clientAddress_of_line (hpeer : proxies.isTrusted peer)
    {value : String} (hline : firstLine headers.xForwardedFor = some value)
    (hhops : hops value ≠ []) :
    clientAddress proxies peer headers = nearestUntrusted proxies peer (hops value) := by
  simp [clientAddress, hpeer, forwardedClientIp, hline, hhops]

lemma clientAddress_of_no_line (hpeer : proxies.isTrusted peer)
    (hline : ∀ value, firstLine headers.xForwardedFor = some value → hops value = []) :
    clientAddress proxies peer headers = (singleAddressHeader headers).getD peer := by
  unfold clientAddress forwardedClientIp
  rw [if_pos hpeer]
  split
  · rename_i value heq
    simp [hline value heq]
  · rfl

variable (hop : Hop proxies) (others : ForwardingHeaders) {part : ClientPart} {s : String}

lemma firstLine_lastLine (hearl : part.earlier = [])
    (hvis : ∀ left, part.left = some left → left.all isVisible) :
    firstLine (part.headers hop.text others).xForwardedFor =
      some (String.ofList (part.lastLine hop.text).bytes) := by
  have hall : (part.lastLine hop.text).bytes.all isVisible := by
    unfold ClientPart.lastLine
    cases hleft : part.left with
    | none => exact hop.visible
    | some left =>
      rw [all_append, hvis left hleft, all_cons, hop.visible]
      decide
  simp [firstLine, ClientPart.headers, hearl, HeaderValue.toStr, hall]

lemma hops_lastLine (part : ClientPart) : hops (String.ofList (part.lastLine hop.text).bytes) =
      (part.left.map fun left => hops (String.ofList left)).getD []
        ++ (parseIpWithOptionalPort hop.text).toList := by
  unfold ClientPart.lastLine
  cases part.left with
  | none => simp [hops_single hop.single]
  | some left =>
    rw [← hops_single hop.single]
    unfold hops split
    rw [String.toList_ofList, splitChars_append, map_append, filterMap_append,
      Option.map_some, Option.getD_some, String.toList_ofList]

/-- One visible line whose entry is not in brackets gives the entry's address. -/
lemma clientAddress_of_plain (hpeer : proxies.isTrusted peer)
    (hform : hop.form.isBracketed = false) (hearl : part.earlier = [])
    (hvis : ∀ left, part.left = some left → left.all isVisible) :
    clientAddress proxies peer (part.headers hop.text others) = hop.address := by
  have hhops := hops_lastLine hop part
  rw [hop.parse_of_not_bracketed hform] at hhops
  rw [clientAddress_of_line hpeer (firstLine_lastLine hop others hearl hvis)
    (by rw [hhops]; simp), hhops]
  exact nearestUntrusted_append hpeer _ hop.untrusted

lemma exists_other_address (address : IpAddr) :
    ∃ (text : String) (ip : IpAddr), hops text = [ip] ∧ ip ≠ address ∧
      text.toList.all isVisible := by
  by_cases h : address = ofOctets 9 9 9 9
  · refine ⟨"8.8.8.8", ofOctets 8 8 8 8, by decide +kernel, ?_, by decide⟩
    rw [h]
    decide
  · exact ⟨"9.9.9.9", ofOctets 9 9 9 9, by decide +kernel, .symm h, by decide⟩

/-- The client writes nothing. -/
def ClientPart.nothing : ClientPart := ⟨[], none⟩

/-- The client writes text in the line that the proxy completes. -/
def ClientPart.text (s : String) : ClientPart := ⟨[], some s.toList⟩

lemma ClientPart.fits_nothing (f : Freedom) : ClientPart.nothing.Fits f where
  lines _ := rfl
  bytes _ := ⟨by simp [nothing], by simp [nothing]⟩

lemma ClientPart.fits_text (h : s.toList.all isVisible) (f : Freedom) :
    (ClientPart.text s).Fits f where
  lines _ := rfl
  bytes _ := ⟨by simp [text], by simpa [text] using h⟩

/-- With an entry in brackets, the line means what the client wrote in it. -/
lemma clientAddress_text_of_bracketed (hpeer : proxies.isTrusted peer)
    (hform : hop.form.isBracketed) (hvis : s.toList.all isVisible)
    (hhops : hops s ≠ []) :
    clientAddress proxies peer ((ClientPart.text s).headers hop.text others) =
      nearestUntrusted proxies peer (hops s) := by
  have hline : hops (String.ofList ((ClientPart.text s).lastLine hop.text).bytes) = hops s := by
    rw [hops_lastLine, hop.parse_of_bracketed hform]
    simp [ClientPart.text]
  have hread : firstLine ((ClientPart.text s).headers hop.text others).xForwardedFor =
      some (String.ofList ((ClientPart.text s).lastLine hop.text).bytes) :=
    firstLine_lastLine hop others rfl (by simpa [ClientPart.text] using hvis)
  rw [clientAddress_of_line hpeer hread (by rw [hline]; exact hhops), hline]

lemma trim_of_parse (h : parse s = some ip) : trim s = s := by
  refine trim_of_no_whitespace fun c hc => ?_
  have hrange := range_of_parse h c hc
  simp only [isWhitespace, Bool.or_eq_false_iff, Bool.and_eq_false_imp, decide_eq_true_eq,
    decide_eq_false_iff_not, beq_eq_false_iff_ne]
  omega

lemma exists_text_of_bracketed (hform : hop.form.isBracketed) :
    ∃ s : String, hops s = [hop.address] ∧ s.toList.all isVisible := by
  have hwrit := hop.writes
  cases hf : hop.form with
  | plain | withPort =>
    rw [hf] at hform
    cases hform
  | bracketed port =>
    rw [hf] at hwrit
    obtain ⟨-, host, groups, hparse, -, -⟩ := hwrit
    have hrange := range_of_parse hparse
    have hsingle : ',' ∉ host.toList := by
      intro hc
      exact absurd (hrange ',' hc).1 (by decide)
    refine ⟨host, ?_, all_eq_true.2 fun c hc => ?_⟩
    · rw [hops_single hsingle, parseIpWithOptionalPort, trim_of_parse hparse, hparse]
      rfl
    · have := hrange c hc
      simp only [isVisible, Bool.or_eq_true, Bool.and_eq_true, decide_eq_true_eq]
      omega

/-- An entry in brackets leaves the address to the client. -/
lemma spoofed_of_bracketed (hpeer : proxies.isTrusted peer)
    (hform : hop.form.isBracketed) (f : Freedom) :
    ∃ p p' : ClientPart, p.Fits f ∧ p'.Fits f ∧
      clientAddress proxies peer (p.headers hop.text others) ≠
        clientAddress proxies peer (p'.headers hop.text others) := by
  obtain ⟨own, hown, hownVisible⟩ := exists_text_of_bracketed hop hform
  obtain ⟨other, ip, hother, hne, hotherVisible⟩ := exists_other_address hop.address
  refine ⟨.text own, .text other, ClientPart.fits_text hownVisible f,
    ClientPart.fits_text hotherVisible f, ?_⟩
  rw [clientAddress_text_of_bracketed hop others hpeer hform hownVisible (by simp [hown]),
    clientAddress_text_of_bracketed hop others hpeer hform hotherVisible (by simp [hother]),
    hown, hother]
  have hleft := nearestUntrusted_append hpeer [] hop.untrusted
  rw [nil_append] at hleft
  rw [hleft]
  exact (nearestUntrusted_singleton_ne hpeer hne hop.untrusted).symm

end

/-- **Forwarded addresses.** Take a trusted peer and an entry that its proxy appends. Whatever two
clients write to the left of the entry, they are the same client to the gateway if and only if
the entry is not an address in brackets, all of the header is one line, and that line is visible
ASCII or the single-address headers name the entry's address as well. -/
theorem client_address_unspoofable_iff (proxies : TrustedProxyConfig) (peer : IpAddr)
    (hpeer : proxies.isTrusted peer) (hop : Hop proxies) (others : ForwardingHeaders)
    (f : Freedom) : (∀ p p' : ClientPart, p.Fits f → p'.Fits f →
      SameClient proxies peer (p.headers hop.text others) (p'.headers hop.text others)) ↔
      hop.form.isBracketed = false ∧ f.severalLines = false ∧
        (f.anyBytes → singleAddressHeader others = some hop.address) := by
  have hpeerNe : peer ≠ hop.address := by
    intro h
    have := hop.untrusted
    rw [← h, hpeer] at this
    cases this
  constructor
  · intro hsame
    have hplain : hop.form.isBracketed = false := by
      by_contra hbracketed
      obtain ⟨p, p', hp, hp', hne⟩ :=
        spoofed_of_bracketed hop others hpeer (by simpa using hbracketed) f
      exact hne (hsame p p' hp hp').address
    have hnothing : clientAddress proxies peer (ClientPart.nothing.headers hop.text others) =
        hop.address :=
      clientAddress_of_plain hop others hpeer hplain rfl (by simp [ClientPart.nothing])
    refine ⟨hplain, ?_, fun hbytes => ?_⟩
    · -- a line of its own comes before that of the proxy
      by_contra hlines
      obtain ⟨text, ip, htext, hne, hvis⟩ := exists_other_address hop.address
      let spoof : ClientPart := ⟨[⟨text.toList⟩], none⟩
      have hfits : spoof.Fits f :=
        ⟨fun h => absurd h hlines, fun _ => ⟨by simpa [spoof] using hvis, by simp⟩⟩
      have hline : firstLine (spoof.headers hop.text others).xForwardedFor = some text := by
        simp only [spoof, ClientPart.headers, firstLine, cons_append, List.head?_cons,
          Option.bind_some, HeaderValue.toStr, hvis, if_true, String.ofList_toList]
      have hspoof := clientAddress_of_line hpeer hline (by simp [htext])
      rw [htext] at hspoof
      refine nearestUntrusted_singleton_ne hpeer hne hop.untrusted ?_
      rw [← hspoof, ← hnothing]
      exact (hsame spoof .nothing hfits (ClientPart.fits_nothing f)).address
    · -- a byte that keeps the line from being read
      let spoof : ClientPart := ⟨[], some [Char.ofNat 255]⟩
      have hfits : spoof.Fits f := ⟨fun _ => rfl, fun h => by rw [h] at hbytes; cases hbytes⟩
      have hline : firstLine (spoof.headers hop.text others).xForwardedFor = none := by
        have hunseen : isVisible (Char.ofNat 255) = false := by decide
        simp [spoof, firstLine, ClientPart.headers, ClientPart.lastLine, HeaderValue.toStr, hunseen]
      have hspoof : clientAddress proxies peer (spoof.headers hop.text others) =
          (singleAddressHeader others).getD peer :=
        clientAddress_of_no_line hpeer (by simp [hline])
      have hsingle : (singleAddressHeader others).getD peer = hop.address := by
        rw [← hnothing, ← (hsame spoof .nothing hfits (ClientPart.fits_nothing f)).address, hspoof]
      cases hhead : singleAddressHeader others with
      | none =>
        rw [hhead] at hsingle
        exact absurd hsingle hpeerNe
      | some ip =>
        rw [hhead] at hsingle
        exact congrArg some hsingle
  · rintro ⟨hplain, hlines, hbytes⟩ p p' hp hp'
    -- whatever the client writes, the address is the entry's
    have haddr : ∀ part : ClientPart, part.Fits f →
        clientAddress proxies peer (part.headers hop.text others) = hop.address := by
      intro part hfits
      have hearl := hfits.lines hlines
      by_cases hvis : ∀ left, part.left = some left → left.all isVisible
      · exact clientAddress_of_plain hop others hpeer hplain hearl hvis
      · have hany : f.anyBytes := by
          by_contra hno
          exact hvis (hfits.bytes (by simpa using hno)).2
        push Not at hvis
        obtain ⟨left, hleft, hunseen⟩ := hvis
        have hline : firstLine (part.headers hop.text others).xForwardedFor = none := by
          simp [firstLine, ClientPart.headers, hearl, ClientPart.lastLine, hleft,
            HeaderValue.toStr, Bool.eq_false_iff.2 hunseen]
        rw [clientAddress_of_no_line hpeer (by simp [hline])]
        have hsame : singleAddressHeader (part.headers hop.text others) =
            singleAddressHeader others := rfl
        rw [hsame, hbytes hany]
        rfl
    rw [sameClient_iff, haddr p hp, haddr p' hp']

/-- Only the loopback addresses are trusted. -/
def loopbackProxies : TrustedProxyConfig := ⟨[]⟩

/-- The proxy's entry for a client at 203.0.113.7, as proxies write it after a comma. -/
def documentationHop : Hop loopbackProxies where
  address := IpAddr.ofOctets 203 0 113 7
  form := .plain
  text := " 203.0.113.7"
  writes := by
    change IpAddr.parse (trim " 203.0.113.7") = some _
    decide +kernel
  untrusted := by decide
  visible := by decide
  single := by decide

theorem client_address_unspoofable_plain_line :
    loopbackProxies.isTrusted (IpAddr.ofOctets 127 0 0 1) ∧
      SameClient loopbackProxies (IpAddr.ofOctets 127 0 0 1)
        ((ClientPart.text "8.8.8.8, 9.9.9.9").headers documentationHop.text ⟨[], [], []⟩)
        (ClientPart.nothing.headers documentationHop.text ⟨[], [], []⟩) :=
  ⟨by decide,
    (client_address_unspoofable_iff loopbackProxies (.ofOctets 127 0 0 1) (by decide)
      documentationHop ⟨[], [], []⟩ ⟨false, false⟩).2 ⟨rfl, rfl, nofun⟩
      (.text "8.8.8.8, 9.9.9.9") .nothing (ClientPart.fits_text (by decide) _)
      (ClientPart.fits_nothing _)⟩

/-- A line of the client before that of the proxy, an entry in brackets, and a byte beyond visible
ASCII: each lets the client choose the address or hide its own. -/
theorem client_chooses_its_address :
    let address (lines : List String) : IpAddr :=
      clientAddress loopbackProxies (IpAddr.ofOctets 127 0 0 1)
        ⟨lines.map fun line => ⟨line.toList⟩, [], []⟩
    (address ["203.0.113.7"] = IpAddr.ofOctets 203 0 113 7 ∧
      address ["8.8.8.8", "203.0.113.7"] = IpAddr.ofOctets 8 8 8 8) ∧
    (address ["[2001:db8::7]:4711"] = IpAddr.ofOctets 127 0 0 1 ∧
      address ["8.8.8.8, [2001:db8::7]:4711"] = IpAddr.ofOctets 8 8 8 8) ∧
    address ["ÿ, 203.0.113.7"] = IpAddr.ofOctets 127 0 0 1 := by
  decide +kernel

end ModelPort.Gateway
