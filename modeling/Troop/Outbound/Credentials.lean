import Troop.Outbound.Requests

namespace Troop.Outbound

open List

structure Origin where
  scheme : String
  host : String
  port : Nat
deriving DecidableEq

def ParsedUrl.origin (parsed : ParsedUrl) : Except PyError Origin :=
  parsed.port.map fun port =>
    { scheme := Text.lower parsed.scheme
      host := Text.lower (Text.strip (parsed.hostname.getD ""))
      port := port.getD (if Text.lower parsed.scheme = "https" then 443 else 80) }

def originOf (net : Surroundings) (url : String) : Option Origin := ((net.urlparse url).bind ParsedUrl.origin).toOption

structure Secrets where
  headers : Dict String
  params : Dict Json
deriving DecidableEq

def Secrets.empty (secrets : Secrets) : Bool := secrets.headers = [] ∧ secrets.params = []

structure Errand where
  method : String
  url : String
  allowHttp : Option Bool
  maxRedirects : Int

def Errand.call (errand : Errand) (secrets : Secrets) : Call :=
  ⟨errand.method, secrets.headers, secrets.params, errand.allowHttp⟩

def Call.secrets (call : Call) : Secrets := ⟨call.headers, call.params⟩

section Runs

variable (net : Surroundings) (chain : Nat → Except PyError Response)

def Errand.requests (errand : Errand) (secrets : Secrets) : List Request :=
  (safeOutboundRequest net (fun index _ => chain index) (errand.call secrets) errand.url errand.maxRedirects).1

def received (origin : Option Origin) (requests : List Request) : List Request :=
  requests.filter fun request => originOf net request.url = origin

def Errand.origin (errand : Errand) : Option Origin := originOf net (Text.strip errand.url)

structure Confined (errand : Errand) : Prop where
  sent : ∀ secrets, ∀ request ∈ errand.requests net chain secrets, request.call.secrets.empty = false →
    originOf net request.url = errand.origin net
  indistinguishable : ∀ secrets others origin, origin ≠ errand.origin net →
    received net origin (errand.requests net chain secrets) = received net origin (errand.requests net chain others)

def followed (allowHttp : Option Bool) (current : String) (answer : Except PyError Response) : Option String :=
  match answer with
  | .error _ => none
  | .ok response =>
    if response.isRedirect then
      match response.location.filter (· ≠ "") with
      | none => none
      | some location => ((net.urljoin current location).bind (validateOutboundUrl net allowHttp)).toOption
    else none

def itinerary (allowHttp : Option Bool) : Nat → Nat → String → List String
  | redirects, index, current =>
    match validateOutboundUrl net allowHttp current with
    | .error _ => []
    | .ok _ =>
      current :: match redirects with
        | 0 => []
        | left + 1 =>
          match followed net allowHttp current (chain index) with
          | none => []
          | some next => itinerary allowHttp left (index + 1) next

def Errand.urls (errand : Errand) : List String :=
  match validateOutboundUrl net errand.allowHttp errand.url with
  | .error _ => []
  | .ok current => itinerary net chain errand.allowHttp errand.maxRedirects.toNat 0 current

variable {net chain}

theorem requestLoop_itinerary (call : Call) (redirects : Nat) : ∀ (index : Nat) (current : String),
    (requestLoop net (fun index _ => chain index) call redirects index current).1 =
      (itinerary net chain call.allowHttp redirects index current).map (Request.mk call) := by
  induction redirects with
  | zero =>
    intro index current
    unfold requestLoop itinerary
    cases validateOutboundUrl net call.allowHttp current with
    | error raised => rfl
    | ok raw =>
      cases chain index <;> rfl
  | succ left ih =>
    intro index current
    unfold requestLoop itinerary
    cases validateOutboundUrl net call.allowHttp current with
    | error raised => rfl
    | ok raw =>
      cases chain index with
      | error raised => rfl
      | ok response =>
        dsimp only [followed]
        cases response.isRedirect with
        | false => rfl
        | true =>
          cases response.location.filter (· ≠ "") with
          | none => rfl
          | some location =>
            dsimp only
            cases (net.urljoin current location).bind (validateOutboundUrl net call.allowHttp) with
            | error raised => rfl
            | ok next => simp_all [Except.toOption, map_cons]

variable (errand : Errand)

theorem requests_eq (secrets : Secrets) :
    errand.requests net chain secrets = (errand.urls net chain).map (Request.mk (errand.call secrets)) := by
  unfold Errand.requests safeOutboundRequest Errand.urls
  change (match validateOutboundUrl net errand.allowHttp errand.url with
    | .error raised => ([], Except.error raised)
    | .ok current => requestLoop net (fun index _ => chain index) (errand.call secrets) errand.maxRedirects.toNat 0 current).1 = _
  cases validateOutboundUrl net errand.allowHttp errand.url with
  | error raised => rfl
  | ok current => exact requestLoop_itinerary _ _ _ _

theorem received_eq (secrets : Secrets) (origin : Option Origin) :
    received net origin (errand.requests net chain secrets) =
      ((errand.urls net chain).filter fun url => originOf net url = origin).map (Request.mk (errand.call secrets)) := by
  unfold received
  rw [requests_eq, filter_map]
  rfl

def bearer : Secrets := ⟨[("Authorization", "secret")], []⟩

theorem sent_iff :
    (∀ secrets, ∀ request ∈ errand.requests net chain secrets, request.call.secrets.empty = false →
      originOf net request.url = errand.origin net) ↔
      ∀ url ∈ errand.urls net chain, originOf net url = errand.origin net := by
  constructor
  · intro sent url member
    have request : ⟨errand.call bearer, url⟩ ∈ errand.requests net chain bearer := by
      rw [requests_eq]
      exact mem_map_of_mem member
    exact sent bearer _ request rfl
  · intro home secrets request member _
    rw [requests_eq] at member
    obtain ⟨url, listed, rfl⟩ := mem_map.mp member
    exact home url listed

theorem indistinguishable_iff :
    (∀ secrets others origin, origin ≠ errand.origin net →
      received net origin (errand.requests net chain secrets) = received net origin (errand.requests net chain others)) ↔
      ∀ url ∈ errand.urls net chain, originOf net url = errand.origin net := by
  constructor
  · intro same url member
    by_contra foreign
    have seen := same bearer ⟨[], []⟩ (originOf net url) foreign
    rw [received_eq, received_eq] at seen
    have reached : url ∈ (errand.urls net chain).filter fun other => originOf net other = originOf net url :=
      mem_filter.mpr ⟨member, decide_eq_true rfl⟩
    -- the server that is reached tells the two calls apart by any one of its requests
    have told : ⟨errand.call bearer, url⟩ ∈ ((errand.urls net chain).filter fun other =>
        originOf net other = originOf net url).map (Request.mk (errand.call ⟨[], []⟩)) := by
      rw [← seen]
      exact mem_map_of_mem reached
    obtain ⟨_, _, equal⟩ := mem_map.mp told
    have headers := congrArg (fun request : Request => request.call.headers) equal
    cases headers
  · intro home secrets others origin foreign
    have nothing : ((errand.urls net chain).filter fun url => originOf net url = origin) = [] := by
      rw [filter_eq_nil_iff]
      intro url member same
      exact foreign ((of_decide_eq_true same).symm.trans (home url member))
    rw [received_eq, received_eq, nothing, map_nil, map_nil]

end Runs

/-- The headers and parameters of a caller stay with the origin of the start URL exactly when no redirect that is followed
    leads to another scheme, host or port. -/
theorem confined_iff (net : Surroundings) (chain : Nat → Except PyError Response) (errand : Errand) :
    Confined net chain errand ↔ ∀ url ∈ errand.urls net chain, originOf net url = errand.origin net := by
  constructor
  · intro confined
    exact (indistinguishable_iff errand).mp confined.indistinguishable
  · intro home
    exact ⟨(sent_iff errand).mpr home, (indistinguishable_iff errand).mpr home⟩

def twoSites : Surroundings where
  environ := none
  urlparse text :=
    if text = "https://api.example/" then .ok ⟨"https", some "api.example", .ok none⟩
    else if text = "https://other.example/" then .ok ⟨"https", some "other.example", .ok none⟩
    else .error (.valueError "Invalid URL")
  urljoin _ location := .ok location
  ipAddress _ := none
  getaddrinfo _ := some [.v4 (octets 93 184 216 34)]

def awayOnce : Nat → Except PyError Response
  | 0 => .ok ⟨true, some "https://other.example/"⟩
  | _ => .ok ⟨false, none⟩

def apiErrand : Errand := ⟨"GET", "https://api.example/", none, 5⟩

theorem authorization_follows_redirect :
    apiErrand.requests twoSites awayOnce bearer =
      [⟨apiErrand.call bearer, "https://api.example/"⟩, ⟨apiErrand.call bearer, "https://other.example/"⟩] ∧
    originOf twoSites "https://other.example/" ≠ apiErrand.origin twoSites ∧
    ¬ ∀ net chain errand, Confined net chain errand := by
  have sent : apiErrand.requests twoSites awayOnce bearer =
      [⟨apiErrand.call bearer, "https://api.example/"⟩, ⟨apiErrand.call bearer, "https://other.example/"⟩] := by decide
  have foreign : originOf twoSites "https://other.example/" ≠ apiErrand.origin twoSites := by decide
  refine ⟨sent, foreign, fun claimed => ?_⟩
  have request : ⟨apiErrand.call bearer, "https://other.example/"⟩ ∈ apiErrand.requests twoSites awayOnce bearer := by
    simp_all
  exact foreign ((claimed twoSites awayOnce apiErrand).sent bearer _ request rfl)

end Troop.Outbound
