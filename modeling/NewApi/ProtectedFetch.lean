import Mathlib.Data.List.Basic
import NewApi.NetAddr

/-! Fetches that are protected against server side request forgery. The URL is
checked before the request, again at each redirect, and the address once more
where it is dialled, each time by splitting and classifying the host anew. The
resolver may answer differently each time. What is proved is exactly which dials
stay inside the filter. No proxy is in use. -/
namespace NewApi.ProtectedFetch
open NewApi.NetAddr
open NewApi.GoText (trimSpace hasPrefix hasSuffix trimPrefix trimSuffix)

/-- The parts of `url.URL` that are checked: the host has its port, and its
brackets. -/
structure URL where
  scheme : String
  host : String
  deriving DecidableEq, Repr

/-- What the standard library does to text: lower case, names beyond ASCII, and a
URL that is printed and parsed again. -/
structure Library where
  toLower : String → String
  toASCII : String → Option String
  reparse : URL → Option URL

/-! ## Settings -/

/-- `setting/system_setting/fetch_setting.go::FetchSetting`. -/
structure FetchSetting where
  enableSSRFProtection : Bool := true
  allowPrivateIp : Bool := false
  domainFilterMode : Bool := false
  ipFilterMode : Bool := false
  domainList : List String := []
  ipList : List String := []
  allowedPorts : List String := ["80", "443", "8080", "8443"]
  applyIPFilterForDomain : Bool := true

/-- `common/ssrf_protection.go::SSRFProtection`. -/
structure SSRFProtection where
  allowPrivateIp : Bool
  domainFilterMode : Bool
  domainList : List String
  ipFilterMode : Bool
  ipList : List String
  allowedPorts : List Int
  applyIPFilterForDomain : Bool

/-- Why a target or a URL is refused. -/
inductive FetchError where
  | invalidPortConfiguration (config : String)
  | invalidURL
  | unsupportedProtocol (scheme : String)
  | invalidDialAddress (addr : String)
  | invalidHost
  | invalidPortText (text : String)
  | invalidPort (port : Int)
  | portNotAllowed (port : Int)
  | privateIP (host : String) (ip : IP)
  | ipNotInWhitelist (host : String) (ip : IP)
  | ipInBlacklist (host : String) (ip : IP)
  | domainNotInWhitelist (host : String)
  | domainInBlacklist (host : String)
  | resolutionFailed (host : String)
  | noUsableAddress (host : String)
  | dialFailed
  deriving DecidableEq, Repr

/-- One entry of `common/ssrf_protection.go::parsePortRanges`, without its
spaces. -/
def parsePortRange (config : String) : Option (List Int) :=
  if '-' ∈ config.toList then
    match NewApi.GoText.split '-' config with
    | [first, last] => do
      let start ← atoi (trimSpace first)
      let end_ ← atoi (trimSpace last)
      if start ≤ end_ ∧ 1 ≤ start ∧ end_ ≤ 65535 then
        some ((List.range (end_ - start + 1).toNat).map fun offset => start + offset)
      else none
    | _ => none
  else (atoi config).bind fun port => if 1 ≤ port ∧ port ≤ 65535 then some [port] else none

def parsePortRanges : List String → Except FetchError (List Int)
  | [] => .ok []
  | config :: rest =>
    if trimSpace config = "" then parsePortRanges rest
    else match parsePortRange (trimSpace config) with
      | none => .error (.invalidPortConfiguration (trimSpace config))
      | some ports => (parsePortRanges rest).map (ports ++ ·)

/-- `common/ssrf_protection.go::NewSSRFProtectionFromFetchSetting`. -/
def newSSRFProtectionFromFetchSetting (setting : FetchSetting) : Except FetchError SSRFProtection :=
  (parsePortRanges setting.allowedPorts).map fun ports =>
    { allowPrivateIp := setting.allowPrivateIp
      domainFilterMode := setting.domainFilterMode
      domainList := setting.domainList
      ipFilterMode := setting.ipFilterMode
      ipList := setting.ipList
      allowedPorts := ports
      applyIPFilterForDomain := setting.applyIPFilterForDomain }

/-- `service/protected_fetch_client.go::currentFetchProtection`; no protection
where it is not enabled. -/
def currentFetchProtection (setting : FetchSetting) : Except FetchError (Option SSRFProtection) :=
  if setting.enableSSRFProtection then (newSSRFProtectionFromFetchSetting setting).map some
  else .ok none

/-! ## Addresses -/

def ipv4Net (first second third fourth ones : Nat) : IPNet :=
  { ip := ofIPv4 (BitVec.ofNat 32 (ofDigits 256 [first, second, third, fourth])), ones, bits := 32 }

/-- `common/ssrf_protection.go::privateIPv4Nets`. -/
def privateIPv4Nets : List IPNet :=
  [ipv4Net 0 0 0 0 8, ipv4Net 10 0 0 0 8, ipv4Net 100 64 0 0 10, ipv4Net 127 0 0 0 8,
    ipv4Net 169 254 0 0 16, ipv4Net 172 16 0 0 12, ipv4Net 192 0 0 0 24, ipv4Net 192 0 2 0 24,
    ipv4Net 192 168 0 0 16, ipv4Net 198 18 0 0 15, ipv4Net 198 51 100 0 24, ipv4Net 203 0 113 0 24,
    ipv4Net 224 0 0 0 4, ipv4Net 240 0 0 0 4, ipv4Net 255 255 255 255 32]

/-- `common/ssrf_protection.go::privateIPv6Nets`. -/
def privateIPv6Nets : List IPNet :=
  ["::/128", "::1/128", "::ffff:0:0/96", "64:ff9b::/96", "100::/64", "2001::/23", "2001:db8::/32",
    "fc00::/7", "fe80::/10", "ff00::/8"].filterMap parseCIDR

/-- The ranges of `net.IP` whose methods `isPrivateIP` asks: `IsUnspecified`,
`IsLoopback`, `IsLinkLocalUnicast`, `IsLinkLocalMulticast`, and
`IsInterfaceLocalMulticast`. -/
def isSpecial (ip : IP) : Bool :=
  match to4 ip with
  | some v4 => v4 = 0 || v4 >>> 24 = 127 || v4 >>> 16 = 0xa9fe || v4 >>> 8 = 0xe00000
  | none => ip = 0 || ip = 1 || ip >>> 118 = 0x3fa ||
    (ip >>> 120 = 0xff && (ip >>> 112) &&& 0x0f ∈ [2#128, 1#128])

/-- `net.IP.IsPrivate`, of an address that has no form of 4 bytes. -/
def isPrivate (ip : IP) : Bool := ip >>> 121 = 0x7e

/-- `common/ssrf_protection.go::isPrivateIP`. -/
def isPrivateIP (ip : IP) : Bool :=
  isSpecial ip ||
    match to4 ip with
    | some _ => privateIPv4Nets.any (·.contains ip)
    | none => privateIPv6Nets.any (·.contains ip) || isPrivate ip

/-- `common/ip.go::IsIpInCIDRList`. -/
def isIpInCIDRList (ip : IP) (cidrList : List String) : Bool :=
  cidrList.any fun cidr =>
    match parseCIDR cidr with
    | some network => network.contains ip
    | none => parseIP cidr = some ip

/-- `common/ssrf_protection.go::IsIPAccessAllowed`. -/
def isIPAccessAllowed (protection : SSRFProtection) (ip : IP) : Bool :=
  if isPrivateIP ip && !protection.allowPrivateIp then false
  else
    let listed := isIpInCIDRList ip protection.ipList
    if protection.ipFilterMode then listed else !listed

/-- `common/ssrf_protection.go::ipAccessError`. -/
def ipAccessError (protection : SSRFProtection) (host : String) (ip : IP) : FetchError :=
  if isPrivateIP ip && !protection.allowPrivateIp then .privateIP host ip
  else if protection.ipFilterMode then .ipNotInWhitelist host ip
  else .ipInBlacklist host ip

/-- `common/ssrf_protection.go::ValidateResolvedIP`. -/
def validateResolvedIP (protection : SSRFProtection) (host : String) (ip : IP) : Except FetchError Unit :=
  if isIPAccessAllowed protection ip then .ok () else .error (ipAccessError protection host ip)

def isAllowedPort (protection : SSRFProtection) (port : Int) : Bool :=
  protection.allowedPorts = [] || port ∈ protection.allowedPorts

/-! ## Names -/

def entryMatches (domain entry : String) : Bool :=
  entry ≠ "" && (domain = entry ||
    (hasPrefix entry "*." &&
      (hasSuffix domain ("." ++ trimPrefix entry "*.") || domain = trimPrefix entry "*.")))

variable (library : Library)

/-- `common/ssrf_protection.go::isDomainListed`. -/
def isDomainListed (domain : String) (list : List String) : Bool :=
  list.any fun entry => entryMatches (library.toLower domain) (library.toLower (trimSpace entry))

/-- `common/ssrf_protection.go::isDomainAllowed`. -/
def isDomainAllowed (protection : SSRFProtection) (domain : String) : Bool :=
  if protection.domainFilterMode then isDomainListed library domain protection.domainList
  else !isDomainListed library domain protection.domainList

/-- `common/ssrf_protection.go::ValidateNetworkTarget`. -/
def validateNetworkTarget (protection : SSRFProtection) (host : String) (port : Int) :
    Except FetchError Unit :=
  let host := trimSpace host
  if host = "" then .error .invalidHost
  else if port < 1 ∨ 65535 < port then .error (.invalidPort port)
  else if !isAllowedPort protection port then .error (.portNotAllowed port)
  else match parseIP host with
    | some ip => if isIPAccessAllowed protection ip then .ok () else .error (ipAccessError protection "" ip)
    | none =>
      if isDomainAllowed library protection host then .ok ()
      else if protection.domainFilterMode then .error (.domainNotInWhitelist host)
      else .error (.domainInBlacklist host)

/-! ## URLs -/

/-- `url.splitHostPort`, which cuts a port off and takes the brackets away. -/
def splitURLHost (host : String) : String × String :=
  let (host, port) := match cutLast ':' host.toList with
    | some (before, after) => if after.all Char.isDigit then (before, after) else (host.toList, [])
    | none => (host.toList, [])
  if host.head? = some '[' ∧ host.getLast? = some ']' then
    (String.ofList host.tail.dropLast, String.ofList port)
  else (String.ofList host, String.ofList port)

def URL.hostname (url : URL) : String := (splitURLHost url.host).1

def URL.port (url : URL) : String := (splitURLHost url.host).2

def defaultPort (scheme : String) : String := if scheme = "https" then "443" else "80"

def validateResolvedIPs (protection : SSRFProtection) (host : String) : List IP → Except FetchError Unit
  | [] => .ok ()
  | ip :: rest => do
    validateResolvedIP protection host ip
    validateResolvedIPs protection host rest

/-- `common/ssrf_protection.go::ValidateURL`; the addresses are the answer to
`net.LookupIP`, if there is one. -/
def validateURL (protection : SSRFProtection) (url : URL) (lookup : Option (List IP)) :
    Except FetchError Unit :=
  match library.reparse url with
  | none => .error .invalidURL
  | some url =>
    if url.scheme ≠ "http" ∧ url.scheme ≠ "https" then .error (.unsupportedProtocol url.scheme)
    else
      let (host, portText) := (splitHostPort url.host).getD (url.hostname, defaultPort url.scheme)
      match atoi portText with
      | none => .error (.invalidPortText portText)
      | some port => do
        validateNetworkTarget library protection host port
        if (parseIP host).isSome ∨ protection.applyIPFilterForDomain = false then .ok ()
        else match lookup with
          | none => .error (.resolutionFailed host)
          | some ips => validateResolvedIPs protection host ips

/-- `service/http_client.go::ValidateSSRFProtectedFetchURL`. -/
def validateSSRFProtectedFetchURL (setting : FetchSetting) (url : URL) (lookup : Option (List IP)) :
    Except FetchError Unit :=
  if setting.enableSSRFProtection then do
    let protection ← newSSRFProtectionFromFetchSetting setting
    validateURL library protection url lookup
  else .ok ()

/-! ## Dials -/

/-- What is handed to the dialer: a text as it came, or an address that is written
out with its port. -/
inductive Address where
  | asGiven (addr : String)
  | formatted (ip : IP) (portText : String)
  deriving DecidableEq, Repr

def Address.literal : Address → Option IP
  | .asGiven addr => (splitHostPort addr).bind fun (host, _) => (parseAddr host).map Addr.ip
  | .formatted ip _ => some ip

def Address.portText : Address → Option String
  | .asGiven addr => (splitHostPort addr).map Prod.snd
  | .formatted _ portText => some portText

/-- A call of the transport: the network, the address, what the resolver answers
if it is asked, and the addresses that can be reached. -/
structure DialCall where
  network : String := "tcp"
  addr : String
  answer : Option (List (Option IP))
  reachable : Address → Bool

structure DialResult where
  dialled : List Address
  conn : Except FetchError Address

/-- The loop over the candidates of `DialContext`, up to the first that can be
reached. -/
def dialCandidates (call : DialCall) (portText : String) (unreached : FetchError) : List IP → DialResult
  | [] => { dialled := [], conn := .error unreached }
  | ip :: rest =>
    let address := Address.formatted ip portText
    if call.reachable address then { dialled := [address], conn := .ok address }
    else
      let later := dialCandidates call portText .dialFailed rest
      { later with dialled := address :: later.dialled }

def dialOne (call : DialCall) (address : Address) : DialResult :=
  { dialled := [address], conn := if call.reachable address then .ok address else .error .dialFailed }

def refuse (error : FetchError) : DialResult := { dialled := [], conn := .error error }

/-- `service/protected_fetch_client.go::networkAllowsIP`. -/
def networkAllowsIP (network : String) (ip : IP) : Bool :=
  match network with
  | "tcp4" => (to4 ip).isSome
  | "tcp6" => (to4 ip).isNone
  | _ => true

def usable (network : String) (resolved : List (Option IP)) : List IP :=
  (resolved.filterMap id).filter (networkAllowsIP network)

/-- `service/protected_fetch_client.go::protectedFetchDialer.DialContext` with a
protection. -/
def protectedDial (protection : SSRFProtection) (call : DialCall) : DialResult :=
  match splitHostPort call.addr with
  | none => refuse (.invalidDialAddress call.addr)
  | some (host, portText) => match atoi portText with
    | none => refuse (.invalidPortText portText)
    | some port => match validateNetworkTarget library protection host port with
      | .error error => refuse error
      | .ok () => match parseIP host with
        | some ip => dialOne call (.formatted ip portText)
        | none =>
          if protection.applyIPFilterForDomain = false then dialOne call (.asGiven call.addr)
          else match call.answer with
            | none => refuse (.resolutionFailed host)
            | some resolved =>
              match validateResolvedIPs protection host (usable call.network resolved) with
              | .error error => refuse error
              | .ok () => dialCandidates call portText (.noUsableAddress host) (usable call.network resolved)

def dialContext (setting : FetchSetting) (call : DialCall) : DialResult :=
  match currentFetchProtection setting with
  | .error error => refuse error
  | .ok none => dialOne call (.asGiven call.addr)
  | .ok (some protection) => protectedDial library protection call

/-! ## Fetches -/

/-- One request of a fetch: its URL, what the resolver answers to the check of
the redirect and to the check of the request, and the dials of the transport,
which may take a connection that is open already or try again. -/
structure Hop where
  url : URL
  redirectLookup : Option (List IP)
  requestLookup : Option (List IP)
  dials : List (Option (List (Option IP)) × (Address → Bool))

/-- `http.canonicalAddr`. -/
def canonicalAddr (url : URL) : String :=
  let port := if url.port = "" then defaultPort url.scheme else url.port
  joinHostPort ((library.toASCII url.hostname).getD url.hostname) port

/-- `service/http_client.go::checkProtectedFetchRedirect`. -/
def checkProtectedFetchRedirect (setting : FetchSetting) (hop : Hop) (via : Nat) : Bool :=
  (validateSSRFProtectedFetchURL library setting hop.url hop.redirectLookup).isOk && via < 10

/-- The calls that a fetch makes: each request after the first is a redirect, and
`RoundTrip` checks the URL before the transport dials. -/
def dialCalls (setting : FetchSetting) : Nat → List Hop → List DialCall
  | _, [] => []
  | via, hop :: rest =>
    if 0 < via ∧ checkProtectedFetchRedirect library setting hop via = false then []
    else if (validateSSRFProtectedFetchURL library setting hop.url hop.requestLookup).isOk = false then []
    else
      (hop.dials.map fun (answer, reachable) =>
        { addr := canonicalAddr library hop.url, answer, reachable }) ++ dialCalls setting (via + 1) rest

/-! ## Staying inside the filter -/

def dnsName (text : String) : String := trimSuffix (library.toLower text) "."

def isNameAllowed (protection : SSRFProtection) (name : String) : Bool :=
  let listed := protection.domainList.any fun entry =>
    entryMatches (dnsName library name) (dnsName library (trimSpace entry))
  if protection.domainFilterMode then listed else !listed

structure Inside (protection : SSRFProtection) (call : DialCall) (address : Address) : Prop where
  port : ∃ text port, address.portText = some text ∧ atoi text = some port ∧
    1 ≤ port ∧ port ≤ 65535 ∧ isAllowedPort protection port = true
  literal : ∀ ip, address.literal = some ip → isIPAccessAllowed protection ip = true
  name : ∀ host portText, splitHostPort call.addr = some (host, portText) → parseAddr host = none →
    isNameAllowed library protection host = true
  resolved : ∀ host portText, splitHostPort call.addr = some (host, portText) → parseIP host = none →
    protection.applyIPFilterForDomain = true →
      (∃ ip portText, address = .formatted ip portText ∧ isIPAccessAllowed protection ip = true) ∧
        ∀ resolved, call.answer = some resolved →
          ∀ ip ∈ usable call.network resolved, isIPAccessAllowed protection ip = true

def StaysInside (setting : FetchSetting) (call : DialCall) : Prop :=
  ∀ address ∈ (dialContext library setting call).dialled,
    ∃ protection, currentFetchProtection setting = .ok (some protection) ∧ Inside library protection call address

def Answers (protection : SSRFProtection) (call : DialCall) : Prop :=
  ∃ resolved, call.answer = some resolved ∧ usable call.network resolved ≠ [] ∧
    ∀ ip ∈ usable call.network resolved, isIPAccessAllowed protection ip = true

/-- The domain filter reads the host as a DNS name: no spaces surround it, and
neither it nor an entry of the list ends in a dot. -/
structure PlainName (protection : SSRFProtection) (host : String) : Prop where
  unspaced : trimSpace host = host
  undotted : hasSuffix (library.toLower host) "." = false
  entries : ∀ entry ∈ protection.domainList, hasSuffix (library.toLower (trimSpace entry)) "." = false

/-- Where the check takes the host of a dial for a name, a literal with a zone is
allowed, and so is a name that is not plain, compared as a DNS name. -/
def Classified (protection : SSRFProtection) (call : DialCall) : Prop :=
  ∀ host portText port, splitHostPort call.addr = some (host, portText) → atoi portText = some port →
    validateNetworkTarget library protection host port = .ok () → parseIP host = none →
    (protection.applyIPFilterForDomain = true → Answers protection call) →
      (∀ addr, parseAddr host = some addr → addr.zone ≠ "" → protection.applyIPFilterForDomain = false →
        isIPAccessAllowed protection addr.ip = true) ∧
      (parseAddr host = none → ¬ PlainName library protection host →
        isNameAllowed library protection host = true)

variable {library} {protection : SSRFProtection} {call : DialCall} {host portText : String} {port : Int}

theorem resolved_ips_ok_iff (host : String) (ips : List IP) :
    validateResolvedIPs protection host ips = .ok () ↔ ∀ ip ∈ ips, isIPAccessAllowed protection ip = true := by
  induction ips with
  | nil => simp [validateResolvedIPs]
  | cons ip rest ih =>
    simp only [validateResolvedIPs, validateResolvedIP]
    by_cases allowed : isIPAccessAllowed protection ip = true
    · rw [if_pos allowed, List.forall_mem_cons, ← ih]
      exact ⟨fun checked => ⟨allowed, checked⟩, And.right⟩
    · rw [if_neg allowed]
      exact iff_of_false nofun fun all => allowed (all ip List.mem_cons_self)

theorem target_ok (passed : validateNetworkTarget library protection host port = .ok ()) :
    (1 ≤ port ∧ port ≤ 65535 ∧ isAllowedPort protection port = true) ∧
      ∀ ip, parseIP (trimSpace host) = some ip → isIPAccessAllowed protection ip = true := by
  simp only [validateNetworkTarget] at passed
  split at passed
  · cases passed
  · split at passed
    · cases passed
    · rename_i ranged
      obtain ⟨low, high⟩ := not_or.mp ranged
      split at passed
      · cases passed
      · rename_i allowed
        refine ⟨⟨Int.not_lt.mp low, Int.not_lt.mp high, by simpa using allowed⟩, fun ip literal => ?_⟩
        rw [literal] at passed
        dsimp only at passed
        split at passed
        · assumption
        · cases passed

theorem plain_name_allowed (passed : validateNetworkTarget library protection host port = .ok ())
    (name : parseIP host = none) (plain : PlainName library protection host) :
    isNameAllowed library protection host = true := by
  have undotted : ∀ text, hasSuffix (library.toLower text) "." = false →
      dnsName library text = library.toLower text := by
    intro text none_
    rw [dnsName, trimSuffix, none_, if_neg Bool.false_ne_true]
  have same : isNameAllowed library protection host = isDomainAllowed library protection host := by
    have listed : (protection.domainList.any fun entry =>
        entryMatches (dnsName library host) (dnsName library (trimSpace entry))) =
          isDomainListed library host protection.domainList := by
      rw [isDomainListed, Bool.eq_iff_iff, List.any_eq_true, List.any_eq_true]
      refine exists_congr fun entry => and_congr_right fun member => ?_
      rw [undotted host plain.undotted, undotted _ (plain.entries entry member)]
    rw [isNameAllowed, listed, isDomainAllowed]
  simp only [validateNetworkTarget, plain.unspaced, name] at passed
  rw [same]
  grind

theorem name_allowed (passed : validateNetworkTarget library protection host port = .ok ())
    (name : parseIP host = none)
    (other : ¬ PlainName library protection host → isNameAllowed library protection host = true) :
    isNameAllowed library protection host = true :=
  (em (PlainName library protection host)).elim (plain_name_allowed passed name) other

theorem candidates_dialled (call : DialCall) (portText : String) (unreached : FetchError) (ips : List IP) :
    (∀ address ∈ (dialCandidates call portText unreached ips).dialled,
        ∃ ip ∈ ips, address = .formatted ip portText) ∧
      (ips ≠ [] → (dialCandidates call portText unreached ips).dialled ≠ []) := by
  induction ips generalizing unreached with
  | nil => exact ⟨fun _ member => absurd member List.not_mem_nil, fun some_ => absurd rfl some_⟩
  | cons ip rest ih =>
    simp only [dialCandidates]
    split
    · refine ⟨fun address member => ⟨ip, List.mem_cons_self, ?_⟩, fun _ => List.cons_ne_nil _ _⟩
      exact List.mem_singleton.mp member
    · refine ⟨fun address member => ?_, fun _ => List.cons_ne_nil _ _⟩
      rcases List.mem_cons.mp member with rfl | later
      · exact ⟨ip, List.mem_cons_self, rfl⟩
      · obtain ⟨other, inRest, same⟩ := (ih .dialFailed).1 address later
        exact ⟨other, List.mem_cons_of_mem ip inRest, same⟩

structure Passes (library : Library) (protection : SSRFProtection) (call : DialCall)
    (host portText : String) (port : Int) : Prop where
  split : splitHostPort call.addr = some (host, portText)
  number : atoi portText = some port
  target : validateNetworkTarget library protection host port = .ok ()

theorem dialled_passes
    (member : address ∈ (protectedDial library protection call).dialled) :
    ∃ host portText port, Passes library protection call host portText port := by
  unfold protectedDial at member
  split at member
  · cases member
  · rename_i host portText split
    split at member
    · cases member
    · rename_i port number
      split at member
      · cases member
      · rename_i target
        exact ⟨host, portText, port, split, number, target⟩

theorem literal_dialled (passes : Passes library protection call host portText port)
    (literal : parseIP host = some ip) :
    (protectedDial library protection call).dialled = [.formatted ip portText] ∧
      isIPAccessAllowed protection ip = true := by
  simp only [protectedDial, passes.split, passes.number, passes.target, literal]
  exact ⟨rfl, (target_ok passes.target).2 ip (by rw [parse_ip_trimmed literal, literal])⟩

theorem name_dialled (passes : Passes library protection call host portText port)
    (name : parseIP host = none) (unfiltered : protection.applyIPFilterForDomain = false) :
    (protectedDial library protection call).dialled = [.asGiven call.addr] := by
  simp only [protectedDial, passes.split, passes.number, passes.target, name, unfiltered, if_true, dialOne]

theorem answer_dialled (passes : Passes library protection call host portText port)
    (name : parseIP host = none) (filtered : protection.applyIPFilterForDomain = true) :
    ((protectedDial library protection call).dialled ≠ [] ↔ Answers protection call) ∧
      ∀ address ∈ (protectedDial library protection call).dialled,
        ∃ resolved, call.answer = some resolved ∧ ∃ ip ∈ usable call.network resolved,
          address = .formatted ip portText := by
  simp only [protectedDial, passes.split, passes.number, passes.target, name, filtered, Bool.true_eq_false,
    if_false]
  cases answered : call.answer with
  | none =>
    refine ⟨iff_of_false (fun some_ => some_ rfl) ?_, fun _ member => absurd member List.not_mem_nil⟩
    rintro ⟨resolved, same, -⟩
    cases answered.symm.trans same
  | some resolved =>
    have answers : Answers protection call ↔ usable call.network resolved ≠ [] ∧
        ∀ ip ∈ usable call.network resolved, isIPAccessAllowed protection ip = true := by
      constructor
      · rintro ⟨other, same, left_⟩
        cases answered.symm.trans same
        exact left_
      · exact fun left_ => ⟨resolved, answered, left_⟩
    rw [answers, ← resolved_ips_ok_iff host]
    dsimp only
    cases checked : validateResolvedIPs protection host (usable call.network resolved) with
    | error error =>
      refine ⟨iff_of_false (fun some_ => some_ rfl) ?_, fun _ member => absurd member List.not_mem_nil⟩
      rintro ⟨-, passed⟩
      cases passed
    | ok =>
      obtain ⟨from_, some_⟩ := candidates_dialled call portText (.noUsableAddress host)
        (usable call.network resolved)
      refine ⟨⟨fun dialled => ⟨fun none_ => ?_, rfl⟩, fun both => some_ both.1⟩, fun address member => ?_⟩
      · rw [none_] at dialled
        exact dialled rfl
      · obtain ⟨ip, listed, rfl⟩ := from_ address member
        exact ⟨resolved, rfl, ip, listed, rfl⟩

theorem protected_dial_iff (library : Library) (protection : SSRFProtection) (call : DialCall) :
    (∀ address ∈ (protectedDial library protection call).dialled, Inside library protection call address) ↔
      Classified library protection call := by
  constructor
  · intro inside host portText port split number target name reached
    have passes : Passes library protection call host portText port := ⟨split, number, target⟩
    have some_ : ∃ address, address ∈ (protectedDial library protection call).dialled := by
      cases filtered : protection.applyIPFilterForDomain with
      | false => exact ⟨_, by rw [name_dialled passes name filtered]; exact List.mem_singleton_self _⟩
      | true =>
        exact List.exists_mem_of_ne_nil _ ((answer_dialled passes name filtered).1.mpr (reached filtered))
    refine ⟨fun addr literal _ unfiltered => ?_, fun notLiteral _ => ?_⟩
    · have member : Address.asGiven call.addr ∈ (protectedDial library protection call).dialled := by
        rw [name_dialled passes name unfiltered]
        exact List.mem_singleton_self _
      exact (inside _ member).literal addr.ip (by simp [Address.literal, split, literal])
    · obtain ⟨address, member⟩ := some_
      exact (inside address member).name host portText split notLiteral
  · intro classified address member
    obtain ⟨host, portText, port, passes⟩ := dialled_passes member
    have unique : ∀ {other text}, splitHostPort call.addr = some (other, text) → other = host := by
      intro other text same
      cases passes.split.symm.trans same
      rfl
    have inRange := (target_ok passes.target).1
    cases literal : parseIP host with
    | some ip =>
      obtain ⟨dialled, allowed⟩ := literal_dialled passes literal
      rw [dialled, List.mem_singleton] at member
      subst member
      refine ⟨⟨portText, port, rfl, passes.number, inRange⟩, fun other same => ?_, ?_, ?_⟩
      · cases same
        exact allowed
      · intro other text split notLiteral
        obtain rfl := unique split
        simp [parseIP, notLiteral] at literal
      · intro other text split name
        obtain rfl := unique split
        cases literal.symm.trans name
    | none =>
      cases filtered : protection.applyIPFilterForDomain with
      | false =>
        obtain ⟨zoned, named⟩ := classified host portText port passes.split passes.number passes.target literal
          fun is => by cases filtered.symm.trans is
        rw [name_dialled passes literal filtered, List.mem_singleton] at member
        subst member
        refine ⟨⟨portText, port, by simp [Address.portText, passes.split], passes.number, inRange⟩,
          fun ip same => ?_, fun other text split notLiteral => ?_, fun _ _ _ _ is => ?_⟩
        · simp only [Address.literal, passes.split, Option.bind_some, Option.map_eq_some_iff] at same
          obtain ⟨addr, parsed, rfl⟩ := same
          exact zoned addr parsed (fun none_ => by simp [parseIP, parsed, none_] at literal) filtered
        · obtain rfl := unique split
          exact name_allowed passes.target literal (named notLiteral)
        · cases filtered.symm.trans is
      | true =>
        obtain ⟨some_, from_⟩ := answer_dialled passes literal filtered
        have answers := some_.mp (List.ne_nil_of_mem member)
        obtain ⟨-, named⟩ := classified host portText port passes.split passes.number passes.target literal
          fun _ => answers
        obtain ⟨resolved, answered, ip, listed, rfl⟩ := from_ address member
        obtain ⟨other, same, -, allowed⟩ := answers
        cases answered.symm.trans same
        refine ⟨⟨portText, port, rfl, passes.number, inRange⟩, fun dialled same => ?_,
          fun other text split notLiteral => ?_, fun _ _ _ _ _ => ⟨⟨ip, portText, rfl, allowed ip listed⟩, ?_⟩⟩
        · cases same
          exact allowed ip listed
        · obtain rfl := unique split
          exact name_allowed passes.target literal (named notLiteral)
        · intro again same
          cases answered.symm.trans same
          exact allowed

/-- With the protection enabled, every address that a fetch hands to the dialer,
whatever its URLs, its redirects and the answers of the resolver, is inside the
filter exactly when the host of every dial is what the check takes it for. -/
theorem fetch_stays_inside_iff (library : Library) (setting : FetchSetting)
    (enabled : setting.enableSSRFProtection = true) (hops : List Hop) :
    (∀ call ∈ dialCalls library setting 0 hops, StaysInside library setting call) ↔
      ∀ call ∈ dialCalls library setting 0 hops, ∀ protection,
        currentFetchProtection setting = .ok (some protection) → Classified library protection call := by
  refine forall₂_congr fun call _ => ?_
  unfold StaysInside dialContext
  cases current : currentFetchProtection setting with
  | error error =>
    refine iff_of_true (fun address member => absurd member List.not_mem_nil) fun _ same => ?_
    cases same
  | ok answer =>
    cases answer with
    | none =>
      simp only [currentFetchProtection, enabled, if_true] at current
      cases ports : newSSRFProtectionFromFetchSetting setting <;> rw [ports] at current <;> cases current
    | some protection =>
      constructor
      · intro inside other same
        cases same
        refine (protected_dial_iff library protection call).mp fun address member => ?_
        obtain ⟨other, same, held⟩ := inside address member
        cases same
        exact held
      · intro classified address member
        exact ⟨protection, rfl,
          (protected_dial_iff library protection call).mpr (classified protection rfl) address member⟩

def ascii : Library where
  toLower := NewApi.GoText.toLower
  toASCII := some
  reparse := some

def unfilteredDomains : FetchSetting := { applyIPFilterForDomain := false }

def oneHop (host : String) : Hop where
  url := { scheme := "http", host }
  redirectLookup := none
  requestLookup := none
  dials := [(none, fun _ => true)]

theorem public_literal_inside :
    (dialCalls ascii unfilteredDomains 0 [oneHop "8.8.8.8"]).Forall
      (StaysInside ascii unfilteredDomains) := by
  refine List.forall_iff_forall_mem.mpr
    ((fetch_stays_inside_iff ascii unfilteredDomains rfl [oneHop "8.8.8.8"]).mpr ?_)
  intro call member protection _ host portText port split _ _ name _
  have addr : call.addr = "8.8.8.8:80" := by
    have all : ((dialCalls ascii unfilteredDomains 0 [oneHop "8.8.8.8"]).all fun call =>
        call.addr = "8.8.8.8:80") = true := by
      decide +kernel
    simpa using List.all_eq_true.mp all call member
  have known : splitHostPort "8.8.8.8:80" = some ("8.8.8.8", "80") := by decide +kernel
  rw [addr, known] at split
  cases split
  have literal : (parseIP "8.8.8.8").isSome = true := by decide +kernel
  rw [name] at literal
  cases literal

/-- A link local address with its zone is dialled as a name. -/
theorem zoned_literal_outside :
    ¬ ∀ call ∈ dialCalls ascii unfilteredDomains 0 [oneHop "[fe80::1%eth0]"],
      StaysInside ascii unfilteredDomains call := by
  intro inside
  have made : (dialCalls ascii unfilteredDomains 0 [oneHop "[fe80::1%eth0]"]).map
      (fun call => (dialContext ascii unfilteredDomains call).dialled) = [[.asGiven "[fe80::1%eth0]:80"]] := by
    decide +kernel
  obtain ⟨call, member, dialled⟩ := List.mem_map.mp (made ▸ List.mem_singleton_self _)
  obtain ⟨protection, current, held⟩ := inside call member (.asGiven "[fe80::1%eth0]:80")
    (dialled ▸ List.mem_singleton_self _)
  have literal : (Address.asGiven "[fe80::1%eth0]:80").literal = some 0xfe800000000000000000000000000001#128 := by
    decide +kernel
  have refused : (currentFetchProtection unfilteredDomains).toOption.join.map
      (isIPAccessAllowed · 0xfe800000000000000000000000000001#128) = some false := by
    decide +kernel
  have allowed := held.literal _ literal
  simp [current, Except.toOption, allowed] at refused

end NewApi.ProtectedFetch
