import Troop.Python.Json
import Troop.Python.Text

namespace Troop.Outbound

open List

inductive Address where
  | v4 (bits : BitVec 32)
  | v6 (bits : BitVec 128)
deriving DecidableEq

inductive Network where
  | v4 (base : BitVec 32) (length : Nat)
  | v6 (base : BitVec 128) (length : Nat)

def octets (a b c d : BitVec 8) : BitVec 32 := a ++ b ++ c ++ d

/-- `address in network`: an address of the other version is in none. -/
def Network.contains : Network → Address → Bool
  | .v4 base length, .v4 bits => bits >>> (32 - length) = base >>> (32 - length)
  | .v6 base length, .v6 bits => bits >>> (128 - length) = base >>> (128 - length)
  | _, _ => false

def blockedHosts : List String :=
  ["localhost", "localhost.localdomain", "metadata.google.internal", "metadata", "instance-data"]

def blockedNetworks : List Network :=
  [.v4 (octets 0 0 0 0) 8, .v4 (octets 10 0 0 0) 8, .v4 (octets 127 0 0 0) 8, .v4 (octets 169 254 0 0) 16,
    .v4 (octets 172 16 0 0) 12, .v4 (octets 192 168 0 0) 16, .v6 1 128, .v6 (0xfc00 <<< 112) 7, .v6 (0xfe80 <<< 112) 10]

def blocked (address : Address) : Bool := blockedNetworks.any (·.contains address)

/-- What `urlparse` finds; reading a port that is no number raises. -/
structure ParsedUrl where
  scheme : String
  hostname : Option String
  port : Except PyError (Option Nat)

structure Surroundings where
  /-- `TROOP_ALLOW_PRIVATE_CONNECTOR_URLS` -/
  environ : Option String
  urlparse : String → Except PyError ParsedUrl
  urljoin : String → String → Except PyError String
  /-- `ipaddress.ip_address`; any other text raises a `ValueError` -/
  ipAddress : String → Option Address
  /-- `socket.getaddrinfo`; a host that cannot be resolved raises -/
  getaddrinfo : String → Option (List Address)

def Surroundings.allowPrivate (net : Surroundings) : Bool :=
  Text.lower (net.environ.getD "") ∈ ["1", "true", "yes"]

/-- `try: ... except ValueError: pass` -/
def passValueError (attempt : Except PyError Unit) : Except PyError Unit :=
  match attempt with
  | .error (.valueError _) => .ok ()
  | other => other

/-- The check of a host that is written as an address. An `UnsafeURLError` is a `ValueError`. -/
def literalCheck (net : Surroundings) (host : String) : Except PyError Unit :=
  match net.ipAddress host with
  | none => .error (.valueError "does not appear to be an IPv4 or IPv6 address")
  | some literal =>
    if blocked literal ∧ ¬ net.allowPrivate then .error (.valueError "Address is not allowed") else .ok ()

def checkTarget (net : Surroundings) (allowHttp : Option Bool) (parsed : ParsedUrl) : Except PyError Unit :=
  let scheme := Text.lower parsed.scheme
  let privateOk := net.allowPrivate
  let httpOk := if allowHttp = some false then false else privateOk
  let allowedSchemes := if httpOk then ["http", "https"] else ["https"]
  let host := Text.lower (Text.strip (parsed.hostname.getD ""))
  if scheme ∉ allowedSchemes then
    .error (.valueError
      (if scheme = "http" then "Only https URLs are allowed (set TROOP_ALLOW_PRIVATE_CONNECTOR_URLS=1 for local http)"
      else "URL scheme must be one of: " ++ ", ".intercalate allowedSchemes))
  else if host = "" then .error (.valueError "URL host is required")
  else if host ∈ blockedHosts ∧ ¬ privateOk then .error (.valueError ("Host '" ++ host ++ "' is not allowed"))
  else if ".internal".toList.isSuffixOf host.toList ∧ ¬ privateOk then .error (.valueError "Internal hosts are not allowed")
  else
    (passValueError (literalCheck net host)).bind fun _ =>
      parsed.port.bind fun _ =>
        match net.getaddrinfo host with
        | none => .error (.valueError ("Unable to resolve host '" ++ host ++ "'"))
        | some addresses =>
          if addresses.any blocked ∧ ¬ privateOk then .error (.valueError "Resolved address is not allowed") else .ok ()

def validateOutboundUrl (net : Surroundings) (allowHttp : Option Bool) (url : String) : Except PyError String :=
  if Text.strip url = "" then .error (.valueError "URL is required")
  else (net.urlparse (Text.strip url)).bind fun parsed => (checkTarget net allowHttp parsed).map fun _ => Text.strip url

structure Response where
  isRedirect : Bool
  location : Option String
deriving DecidableEq

/-- The arguments of `safe_outbound_request` that every request of it repeats. -/
structure Call where
  method : String
  headers : Dict String
  params : Dict Json
  allowHttp : Option Bool
deriving DecidableEq

structure Request where
  call : Call
  url : String
deriving DecidableEq

/-- The loop of `safe_outbound_request`: the requests it makes and how it ends. `respond` is what the client answers, by the
    number of the request; `redirects` are those that are left. -/
def requestLoop (net : Surroundings) (respond : Nat → Request → Except PyError Response) (call : Call) :
    Nat → Nat → String → List Request × Except PyError Response
  | redirects, index, current =>
    match validateOutboundUrl net call.allowHttp current with
    | .error raised => ([], .error raised)
    | .ok _ =>
      match respond index ⟨call, current⟩ with
      | .error raised => ([⟨call, current⟩], .error raised)
      | .ok response =>
        match redirects, response.isRedirect, response.location.filter (· ≠ "") with
        | left + 1, true, some location =>
          match (net.urljoin current location).bind (validateOutboundUrl net call.allowHttp) with
          | .error raised => ([⟨call, current⟩], .error raised)
          | .ok next =>
            let rest := requestLoop net respond call left (index + 1) next
            (⟨call, current⟩ :: rest.1, rest.2)
        | _, _, _ => ([⟨call, current⟩], .ok response)

def safeOutboundRequest (net : Surroundings) (respond : Nat → Request → Except PyError Response) (call : Call) (url : String)
    (maxRedirects : Int) : List Request × Except PyError Response :=
  match validateOutboundUrl net call.allowHttp url with
  | .error raised => ([], .error raised)
  | .ok current => requestLoop net respond call maxRedirects.toNat 0 current

/-- The IPv4 address that an IPv6 address is written for: mapped (`::ffff:a.b.c.d`) or compatible (`::a.b.c.d`), the unspecified
    address among them. -/
def Address.embedded : Address → Option Address
  | .v4 _ => none
  | .v6 bits => if bits >>> 32 = 0xffff ∨ bits >>> 32 = 0 then some (.v4 (bits.setWidth 32)) else none

def Address.denoted (address : Address) : List Address := address :: address.embedded.toList

def PublicTarget (net : Surroundings) (url : String) : Prop :=
  ∃ parsed addresses, net.urlparse url = .ok parsed ∧ Text.lower parsed.scheme = "https" ∧
    net.getaddrinfo (Text.lower (Text.strip (parsed.hostname.getD ""))) = some addresses ∧
    ∀ address ∈ addresses, ∀ denoted ∈ address.denoted, blocked denoted = false

/-- Every call, for every chain of responses, only makes requests to public targets, and not too many. -/
def StaysOutside (net : Surroundings) : Prop :=
  ∀ respond call url maxRedirects,
    (∀ request ∈ (safeOutboundRequest net respond call url maxRedirects).1, PublicTarget net request.url) ∧
    (safeOutboundRequest net respond call url maxRedirects).1.length ≤ maxRedirects.toNat + 1

/-- What of a parsed URL passes the checks, with what its host resolves to. -/
structure Passes (net : Surroundings) (parsed : ParsedUrl) (addresses : List Address) : Prop where
  scheme : Text.lower parsed.scheme = "https"
  host : Text.lower (Text.strip (parsed.hostname.getD "")) ∉ "" :: blockedHosts
  outside : ¬ ".internal".toList.isSuffixOf (Text.lower (Text.strip (parsed.hostname.getD ""))).toList = true
  port : ∃ port, parsed.port = .ok port
  resolved : net.getaddrinfo (Text.lower (Text.strip (parsed.hostname.getD ""))) = some addresses
  allowed : ∀ address ∈ addresses, blocked address = false

section Validation

variable {net : Surroundings} {allowHttp : Option Bool} {url raw : String} {parsed : ParsedUrl} {addresses : List Address}

theorem passes_literal (net : Surroundings) (host : String) : passValueError (literalCheck net host) = .ok () := by
  unfold literalCheck
  cases net.ipAddress host with
  | none => rfl
  | some literal =>
    dsimp only
    split <;> rfl

theorem not_private (unset : net.environ = none) : net.allowPrivate = false := by
  rw [Surroundings.allowPrivate, unset]
  decide

theorem any_blocked_iff : addresses.any blocked = false ↔ ∀ address ∈ addresses, blocked address = false := by
  constructor <;> simp_all

theorem checkTarget_ok_iff (unset : net.environ = none) :
    checkTarget net allowHttp parsed = .ok () ↔ ∃ addresses, Passes net parsed addresses := by
  have only : (if (if allowHttp = some false then false else net.allowPrivate) = true then ["http", "https"] else ["https"]) =
      ["https"] := by
    rw [not_private unset, ite_self]
    rfl
  unfold checkTarget
  dsimp only
  rw [only, not_private unset, passes_literal]
  constructor
  · intro checked
    split at checked
    case isTrue => cases checked
    rename_i secure
    split at checked
    case isTrue => cases checked
    split at checked
    case isTrue => cases checked
    split at checked
    case isTrue => cases checked
    rename_i outside
    cases numbered : parsed.port with
    | error raised =>
      rw [numbered] at checked
      cases checked
    | ok port =>
      rw [numbered] at checked
      cases resolved : net.getaddrinfo (Text.lower (Text.strip (parsed.hostname.getD ""))) with
      | none => simp_all [Except.bind]
      | some addresses =>
        simp only [Except.bind, resolved] at checked
        split at checked
        case isTrue => cases checked
        rename_i public_
        refine ⟨addresses, ?_, ?_, ?_, ⟨port, numbered⟩, resolved, any_blocked_iff.mp ?_⟩
        · simpa using secure
        · simp_all
        · exact fun inside => outside ⟨inside, by decide⟩
        · simpa using public_
  · intro ⟨addresses, passes⟩
    obtain ⟨port, numbered⟩ := passes.port
    have host := passes.host
    rw [mem_cons, not_or] at host
    have none_ := any_blocked_iff.mpr passes.allowed
    rw [if_neg (by simp [passes.scheme]), if_neg host.1, if_neg fun known => host.2 known.1,
      if_neg fun inside => passes.outside inside.1, numbered]
    simp only [Except.bind, passes.resolved, none_]
    rfl

theorem validate_stripped (validated : validateOutboundUrl net allowHttp url = .ok raw) : raw = Text.strip url := by
  unfold validateOutboundUrl at validated
  split at validated
  case isTrue => cases validated
  cases read : net.urlparse (Text.strip url) with
  | error raised =>
    rw [read] at validated
    cases validated
  | ok parsed =>
    cases checked : checkTarget net allowHttp parsed with
    | error raised =>
      simp only [read, Except.bind, checked] at validated
      cases validated
    | ok done =>
      simp only [read, Except.bind, checked] at validated
      exact (Except.ok.inj validated).symm

theorem validate_ok_iff (unset : net.environ = none) : validateOutboundUrl net allowHttp url = .ok raw ↔
    raw = Text.strip url ∧ raw ≠ "" ∧ ∃ parsed addresses, net.urlparse raw = .ok parsed ∧ Passes net parsed addresses := by
  unfold validateOutboundUrl
  constructor
  · intro validated
    split at validated
    case isTrue => cases validated
    rename_i present
    cases read : net.urlparse (Text.strip url) with
    | error raised =>
      rw [read] at validated
      cases validated
    | ok parsed =>
      rw [read] at validated
      cases checked : checkTarget net allowHttp parsed with
      | error raised =>
        simp only [Except.bind, checked] at validated
        cases validated
      | ok done =>
        simp only [Except.bind, checked] at validated
        have same : Text.strip url = raw := Except.ok.inj validated
        subst same
        obtain ⟨addresses, passes⟩ := (checkTarget_ok_iff unset).mp checked
        exact ⟨rfl, present, parsed, addresses, read, passes⟩
  · intro ⟨same, present, parsed, addresses, read, passes⟩
    have checked : checkTarget net allowHttp parsed = .ok () := (checkTarget_ok_iff unset).mpr ⟨addresses, passes⟩
    rw [← same, if_neg present, read]
    simp only [Except.bind, checked]
    rfl

end Validation

section Requests

variable {net : Surroundings} {respond : Nat → Request → Except PyError Response} {call : Call}

def Vetted (net : Surroundings) (request : Request) : Prop :=
  Text.strip request.url = request.url ∧ ∃ raw, validateOutboundUrl net request.call.allowHttp request.url = .ok raw

theorem requestLoop_vetted : ∀ (redirects index : Nat) (current : String), Text.strip current = current →
    (∀ request ∈ (requestLoop net respond call redirects index current).1, Vetted net request) ∧
    (requestLoop net respond call redirects index current).1.length ≤ redirects + 1 := by
  intro redirects
  induction redirects with
  | zero =>
    intro index current stripped
    unfold requestLoop
    cases validated : validateOutboundUrl net call.allowHttp current with
    | error raised => exact ⟨forall_mem_nil _, Nat.zero_le _⟩
    | ok raw =>
      have once : ∀ request ∈ [Request.mk call current], Vetted net request :=
        forall_mem_singleton.mpr ⟨stripped, raw, validated⟩
      cases respond index ⟨call, current⟩ with
      | _ => exact ⟨once, le_refl _⟩
  | succ left ih =>
    intro index current stripped
    unfold requestLoop
    cases validated : validateOutboundUrl net call.allowHttp current with
    | error raised => exact ⟨forall_mem_nil _, Nat.zero_le _⟩
    | ok raw =>
      have vetted : Vetted net ⟨call, current⟩ := ⟨stripped, raw, validated⟩
      have once := forall_mem_singleton.mpr vetted
      have short : [Request.mk call current].length ≤ left + 1 + 1 := Nat.le_add_left 1 _
      cases respond index ⟨call, current⟩ with
      | error raised => exact ⟨once, short⟩
      | ok response =>
        dsimp only
        split
        · rename_i remaining location counted _ _
          have same : left = remaining := Nat.succ.inj counted
          subst same
          cases joined : net.urljoin current location with
          | error raised => exact ⟨once, short⟩
          | ok target =>
            cases followed : validateOutboundUrl net call.allowHttp target with
            | error raised => grind [Except.bind]
            | ok next =>
              simp only [Except.bind, followed]
              have clean : Text.strip next = next := by
                rw [validate_stripped followed]
                exact Text.strip_strip target
              obtain ⟨all, bound⟩ := ih (index + 1) next clean
              constructor
              · exact forall_mem_cons.mpr ⟨vetted, all⟩
              · grind
        · exact ⟨once, short⟩

theorem denoted_allowed {address : Address} (allowed : blocked address = false)
    (outside : ∀ embedded, address.embedded = some embedded → blocked embedded = false) :
    ∀ denoted ∈ address.denoted, blocked denoted = false := by
  intro denoted member
  rcases mem_cons.mp member with same | inside
  · exact same ▸ allowed
  · exact outside denoted (Option.mem_toList.mp inside)

/-- Requests only reach public targets exactly when no acceptable host resolves, with no directly blocked address beside it, to
    an IPv6 address that is written for a blocked IPv4 address. -/
theorem stays_outside_iff (net : Surroundings) (unset : net.environ = none) :
    StaysOutside net ↔
      ∀ url parsed addresses, url ≠ "" → Text.strip url = url → net.urlparse url = .ok parsed → Passes net parsed addresses →
        ∀ address ∈ addresses, ∀ embedded, address.embedded = some embedded → blocked embedded = false := by
  constructor
  · intro stays url parsed addresses present stripped read passes address member embedded written
    let call : Call := ⟨"GET", [], [], none⟩
    let silent : Nat → Request → Except PyError Response := fun _ _ => .ok ⟨false, none⟩
    have validated : validateOutboundUrl net call.allowHttp url = .ok url :=
      (validate_ok_iff unset).mpr ⟨stripped.symm, present, parsed, addresses, read, passes⟩
    have sent : (safeOutboundRequest net silent call url 0).1 = [⟨call, url⟩] := by
      unfold safeOutboundRequest
      rw [validated]
      show (requestLoop net silent call 0 0 url).1 = _
      unfold requestLoop
      rw [validated]
    have target := (stays silent call url 0).1 ⟨call, url⟩ (by rw [sent]; exact mem_cons_self)
    obtain ⟨other, found, same, _, resolved, outside⟩ := target
    rw [read] at same
    cases same
    rw [passes.resolved] at resolved
    cases resolved
    exact outside address member embedded (by simp [Address.denoted, written])
  · intro outside respond call url maxRedirects
    have public_ : ∀ request, Vetted net request → PublicTarget net request.url := by
      intro request ⟨stripped, raw, validated⟩
      obtain ⟨same, present, parsed, addresses, read, passes⟩ := (validate_ok_iff unset).mp validated
      rw [stripped] at same
      subst same
      refine ⟨parsed, addresses, read, passes.scheme, passes.resolved, fun address member => ?_⟩
      exact denoted_allowed (passes.allowed address member)
        (outside _ parsed addresses present stripped read passes address member)
    unfold safeOutboundRequest
    cases validated : validateOutboundUrl net call.allowHttp url with
    | error raised => exact ⟨forall_mem_nil _, Nat.zero_le _⟩
    | ok current =>
      have clean : Text.strip current = current := by
        rw [validate_stripped validated]
        exact Text.strip_strip url
      obtain ⟨all, bound⟩ := @requestLoop_vetted net respond call maxRedirects.toNat 0 current clean
      exact ⟨fun request member => public_ request (all request member), bound⟩

def knowing (url host : String) (address : Address) (literal : Option Address) : Surroundings where
  environ := none
  urlparse text := if text = url then .ok ⟨"https", some host, .ok none⟩ else .error (.valueError "Invalid URL")
  urljoin _ location := .ok location
  ipAddress text := if text = host then literal else none
  getaddrinfo text := if text = host then some [address] else none

def publicSite : Surroundings := knowing "https://example.com/" "example.com" (.v4 (octets 93 184 216 34)) none

theorem public_site_stays_outside : publicSite.environ = none ∧ StaysOutside publicSite := by
  refine ⟨rfl, (stays_outside_iff publicSite rfl).mpr ?_⟩
  intro url parsed addresses _ _ read passes address member embedded written
  have known : url = "https://example.com/" := by
    by_contra other
    have refused : publicSite.urlparse url = .error (.valueError "Invalid URL") := if_neg other
    simp [refused] at read
  have found : publicSite.urlparse url = .ok ⟨"https", some "example.com", .ok none⟩ := if_pos known
  rw [found] at read
  have same := Except.ok.inj read
  subst same
  have resolved := passes.resolved
  cases resolved
  rw [mem_singleton.mp member] at written
  cases written

def mappedLoopback : Address := .v6 0xffff7f000001

def mappedSite : Surroundings :=
  knowing "https://[::ffff:127.0.0.1]/" "::ffff:127.0.0.1" mappedLoopback (some mappedLoopback)

theorem mapped_loopback_requested :
    (safeOutboundRequest mappedSite (fun _ _ => .ok ⟨false, none⟩) ⟨"GET", [], [], none⟩ "https://[::ffff:127.0.0.1]/" 5).1 =
      [⟨⟨"GET", [], [], none⟩, "https://[::ffff:127.0.0.1]/"⟩] ∧
    Address.v4 (octets 127 0 0 1) ∈ mappedLoopback.denoted ∧ blocked (.v4 (octets 127 0 0 1)) = true ∧
    ¬ (∀ net : Surroundings, net.environ = none → StaysOutside net) := by
  have sent : (safeOutboundRequest mappedSite (fun _ _ => .ok ⟨false, none⟩) ⟨"GET", [], [], none⟩
      "https://[::ffff:127.0.0.1]/" 5).1 = [⟨⟨"GET", [], [], none⟩, "https://[::ffff:127.0.0.1]/"⟩] := by decide
  have loopback : Address.v4 (octets 127 0 0 1) ∈ mappedLoopback.denoted := by decide
  have inside : blocked (.v4 (octets 127 0 0 1)) = true := by decide
  refine ⟨sent, loopback, inside, fun claimed => ?_⟩
  have target := (claimed mappedSite rfl (fun _ _ => .ok ⟨false, none⟩) ⟨"GET", [], [], none⟩ "https://[::ffff:127.0.0.1]/" 5).1
    ⟨⟨"GET", [], [], none⟩, "https://[::ffff:127.0.0.1]/"⟩ (by rw [sent]; exact mem_cons_self)
  obtain ⟨parsed, addresses, read, _, resolved, outside⟩ := target
  have same := Except.ok.inj read
  subst same
  cases resolved
  simp_all

end Requests

end Troop.Outbound
