import Wireforge.Web.Context

/-!
# What the REST handlers share

The representations of interfaces, peers and tokens, the errors and how they arise from those of the
application, the parsers of the request fields, and the caller of a request: the owner of a bearer
token if there is one, and the user of the session otherwise.
-/

namespace Wireforge

open Effect

/-! ## Representations -/

/-- An interface without its private key. -/
structure InterfaceDto where
  id : String
  name : String
  publicKey : String
  listenPort : UInt16
  endpoint : Option String
  gateway : Option String
  ipv4Cidr : Option String
  ipv6Cidr : Option String
  mtu : Option UInt16
  dns : List String
  onUp : Option String
  onDown : Option String
  status : String
  createdAt : String
  updatedAt : String

/-- A peer without its keys apart from the public one. -/
structure PeerDto where
  id : String
  interfaceId : String
  name : String
  publicKey : String
  allowedIps : List String
  primaryDns : Option String
  secondaryDns : Option String
  nat : Bool
  endpoint : Option String
  persistentKeepalive : Option UInt16
  bandwidthUsedBytes : UInt64
  enabled : Bool
  createdAt : String
  updatedAt : String

/-- A token without its hash. -/
structure TokenDto where
  id : String
  name : String
  scopes : List String
  createdAt : String
  expiresAt : Option String
  revokedAt : Option String

section Representations

variable (crates : WebCrates)

def InterfaceDto.from (i : Interface) : InterfaceDto where
  id := i.id.display
  name := i.name
  publicKey := i.publicKey.asStr
  listenPort := i.listenPort
  endpoint := i.endpoint
  gateway := i.gateway
  ipv4Cidr := i.ipv4Cidr.map IpNet.display
  ipv6Cidr := i.ipv6Cidr.map IpNet.display
  mtu := i.mtu
  dns := i.dns
  onUp := i.onUp
  onDown := i.onDown
  status := i.status.asStr
  createdAt := crates.rfc3339 i.createdAt
  updatedAt := crates.rfc3339 i.updatedAt

def PeerDto.from (p : Peer) : PeerDto where
  id := p.id.display
  interfaceId := p.interfaceId.display
  name := p.name
  publicKey := p.publicKey.asStr
  allowedIps := p.allowedIps.map IpNet.display
  primaryDns := p.primaryDns
  secondaryDns := p.secondaryDns
  nat := p.nat
  endpoint := p.endpoint
  persistentKeepalive := p.persistentKeepalive
  bandwidthUsedBytes := p.bandwidthUsedBytes
  enabled := p.enabled
  createdAt := crates.rfc3339 p.createdAt
  updatedAt := crates.rfc3339 p.updatedAt

def TokenDto.from (t : ApiToken) : TokenDto where
  id := t.id.display
  name := t.name
  scopes := t.scopes
  createdAt := crates.rfc3339 t.createdAt
  expiresAt := t.expiresAt.map crates.rfc3339
  revokedAt := t.revokedAt.map crates.rfc3339

end Representations

/-- The bodies of the responses. -/
inductive ApiResponse where
  | health (status version : String)
  | interface (dto : InterfaceDto)
  | interfaces (dtos : List InterfaceDto)
  | peer (dto : PeerDto)
  | peers (dtos : List PeerDto)
  | config (text : String)
  | qr (svg : String)
  | tokens (dtos : List TokenDto)
  | createdToken (token : String) (info : TokenDto)
  | noContent

/-! ## Errors -/

/-- An error response. -/
structure ApiError where
  error : String
  status : Nat
  deriving DecidableEq

namespace ApiError

def unauthorized : ApiError := ⟨"unauthorized", 401⟩

def forbidden (message : String) : ApiError := ⟨message, 403⟩

def notFound : ApiError := ⟨"not found", 404⟩

def badRequest (message : String) : ApiError := ⟨message, 400⟩

/-- The response to an error of the application. -/
def fromCore (e : CoreError) : ApiError :=
  let status :=
    match e with
    | .notFound _ => 404
    | .conflict _ => 409
    | .validation _ => 400
    | .forbidden _ => 403
    | .unauthorized => 401
    | _ => 500
  ⟨e.display, status⟩

end ApiError

/-- A REST handler: it calls the outside world and may stop with an `ApiError` or with the
process. -/
abbrev Api : Type → Type := Fallible SiteCall SiteCall.Reply (Stop ApiError)

namespace Api

variable {α : Type}

/-- Stop with an error. -/
def fail (e : ApiError) : Api α :=
  throw (.error e)

/-- Go on with a value, or stop with an error. -/
def ofExcept (result : Except ApiError α) : Api α :=
  match result with
  | .ok value => pure value
  | .error e => fail e

/-- A repository method, whose error is converted. -/
def repo (program : Repo α) : Api α :=
  orElse (fun e => .error (.fromCore e)) program.run

/-- An operation of a service, whose error is converted. -/
def service (program : App α) : Api α :=
  repo (Web.host program)

/-- A value that has to be there; otherwise the handler stops with the error. -/
def orFail (e : ApiError) (value : Option α) : Api α :=
  match value with
  | some value => pure value
  | none => fail e

/-! ## Parsers -/

/-- Read the identifier in a path. -/
def parseId {marker : Type} (crates : WebCrates) (text : String) : Except ApiError (Id marker) :=
  match crates.parseUuid text with
  | some value => .ok ⟨value⟩
  | none => .error .notFound

/-- Read a network; none for a blank or an absent text. -/
def parseCidrOpt (crates : WebCrates) (s : Option String) (label : String) :
    Except ApiError (Option IpNet) :=
  match s.map Text.trim with
  | none => .ok none
  | some v =>
      if v.isEmpty then .ok none
      else
        match crates.parseIpNet v with
        | some net => .ok (some net)
        | none => .error (.badRequest s!"invalid {label}")

/-- Read a list of networks, without the blank texts. -/
def parseCidrs (crates : WebCrates) (items : List String) (label : String) :
    Except ApiError (List IpNet) :=
  ((items.map Text.trim).filter (!·.isEmpty)).mapM fun v =>
    match crates.parseIpNet v with
    | some net => .ok net
    | none => .error (.badRequest s!"invalid {label}")

/-- The trimmed text, unless it is blank or absent. -/
def blankToNone (s : Option String) : Option String :=
  (s.map Text.trim).filter (!·.isEmpty)

/-- A text of a length within bounds, or the report of the failed check. -/
def checkLength (field value : String) (min max : Nat) : List String :=
  if min ≤ value.length ∧ value.length ≤ max then [] else [s!"{field}: length of {value}"]

/-- A port other than zero, or the report of the failed check. -/
def checkPort (port : UInt16) : List String :=
  if 1 ≤ port then [] else ["listen_port: range"]

/-- Stop if a check has failed. -/
def validate (crates : WebCrates) (failed : List String) : Except ApiError Unit :=
  if failed.isEmpty then .ok () else .error (.badRequest (crates.validationText failed))

end Api

/-! ## The caller -/

/-- The caller of a request: a bearer token or the session of a cookie. -/
structure Credentials where
  bearer : Option String
  session : SessionId

namespace ApiAuthUser

/-- The owner of an active token. -/
def fromBearer (crates : WebCrates) (bearer : String) : Api AuthUser := do
  let found ← orElse (fun _ => .error .unauthorized)
    (SqliteApiTokenRepository.findActiveByHash (crates.sha256 bearer)).run
  let token ← Api.orFail .unauthorized found
  let now ← always (SiteCall.host .utcNow).request
  let token ← Api.orFail .unauthorized (some token |>.filter (·.isActive now))
  let owner ← orElse (fun _ => .error .unauthorized)
    (SqliteUserRepository.findById token.userId).run
  let user ← Api.orFail .unauthorized owner
  return ⟨user.id, user.username, user.role⟩

/-- The caller of a request. A bearer token is tried first, and only then. -/
def fromRequestParts (crates : WebCrates) (credentials : Credentials) : Api AuthUser :=
  match credentials.bearer with
  | some bearer => fromBearer crates bearer
  | none =>
      orElse (fun stop => match stop with
        | .error _ => .error .unauthorized
        | .panic panic => .panic panic) (AuthUser.fromRequestParts credentials.session).run

/-- The caller may change interfaces and peers. -/
def requireMutate (user : AuthUser) : Except ApiError Unit :=
  if user.role.canMutate then .ok ()
  else .error (.forbidden "insufficient role for this operation")

end ApiAuthUser

end Wireforge
