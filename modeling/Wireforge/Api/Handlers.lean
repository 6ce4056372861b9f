import Wireforge.Api.Dto
import Wireforge.Lib.Base64
import Wireforge.Service.Peer
import Wireforge.Service.PeerConf

/-!
# The REST handlers

Interfaces, peers and tokens. A handler that changes an interface or a peer checks the caller's role
first and the request next, and hands everything else to the services.
-/

namespace Wireforge

open Effect

/-- The body of a request for a new interface. -/
structure CreateInterfaceRequest where
  name : String
  listenPort : UInt16
  endpoint : Option String
  gateway : Option String
  ipv4Cidr : Option String
  ipv6Cidr : Option String
  mtu : Option UInt16
  dns : List String
  onUp : Option String
  onDown : Option String
  privateKey : Option String

/-- The body of a request that edits an interface. -/
structure UpdateInterfaceRequest where
  listenPort : UInt16
  endpoint : Option String
  gateway : Option String
  ipv4Cidr : Option String
  ipv6Cidr : Option String
  mtu : Option UInt16
  dns : List String
  onUp : Option String
  onDown : Option String
  privateKey : Option String

/-- The body of a request for a new peer. -/
structure CreatePeerRequest where
  interfaceId : String
  name : String
  allowedIps : Option (List String)
  primaryDns : Option String
  secondaryDns : Option String
  nat : Bool
  persistentKeepalive : Option UInt16
  publicKey : String
  privateKey : String

/-- The body of a request that edits a peer. -/
structure UpdatePeerRequest where
  name : String
  interfaceId : String
  allowedIps : List String
  primaryDns : Option String
  secondaryDns : Option String
  nat : Bool
  persistentKeepalive : Option UInt16
  enabled : Bool
  publicKey : String
  privateKey : String

/-- The body of a request for a new token. -/
structure CreateTokenRequest where
  name : String
  expiresInDays : Option Int

namespace Api

/-- `GET /api/v1/health`. -/
def healthz : Api ApiResponse :=
  return .health "ok" "0.1.0"

variable (crates : WebCrates) (user : AuthUser)

/-! ## Interfaces -/

namespace Interfaces

/-- `GET /api/v1/interfaces`. -/
def list : Api ApiResponse := do
  let ifaces ← Api.service SqliteInterfaceRepository.list
  return .interfaces (ifaces.map (InterfaceDto.from crates))

/-- `GET /api/v1/interfaces/{id}`. -/
def getOne (path : String) : Api ApiResponse := do
  let id ← ofExcept (parseId crates path)
  let found ← Api.service (SqliteInterfaceRepository.findById id)
  let iface ← orFail .notFound found
  return .interface (.from crates iface)

/-- What a request asks the service to create. -/
def createInput (req : CreateInterfaceRequest) : Except ApiError CreateInterfaceInput := do
  let ipv4Cidr ← parseCidrOpt crates req.ipv4Cidr "IPv4 CIDR"
  let ipv6Cidr ← parseCidrOpt crates req.ipv6Cidr "IPv6 CIDR"
  return { name := Text.trim req.name, listenPort := req.listenPort
           endpoint := blankToNone req.endpoint, gateway := blankToNone req.gateway
           ipv4Cidr, ipv6Cidr, mtu := req.mtu, dns := req.dns
           onUp := blankToNone req.onUp, onDown := blankToNone req.onDown
           privateKey := req.privateKey.getD "" }

/-- `POST /api/v1/interfaces`. -/
def create (req : CreateInterfaceRequest) : Api ApiResponse := do
  ofExcept (ApiAuthUser.requireMutate user)
  ofExcept (validate crates (checkLength "name" req.name 1 15 ++ checkPort req.listenPort))
  let input ← ofExcept (createInput crates req)
  let iface ← Api.service (InterfaceService.create crates.toCrates input)
  return .interface (.from crates iface)

/-- What a request asks the service to change. -/
def updateInput (req : UpdateInterfaceRequest) : Except ApiError UpdateInterfaceInput := do
  let ipv4Cidr ← parseCidrOpt crates req.ipv4Cidr "IPv4 CIDR"
  let ipv6Cidr ← parseCidrOpt crates req.ipv6Cidr "IPv6 CIDR"
  return { listenPort := req.listenPort, endpoint := blankToNone req.endpoint
           gateway := blankToNone req.gateway, ipv4Cidr, ipv6Cidr, mtu := req.mtu, dns := req.dns
           onUp := blankToNone req.onUp, onDown := blankToNone req.onDown
           privateKey := req.privateKey.getD "" }

/-- `PUT /api/v1/interfaces/{id}`. -/
def update (path : String) (req : UpdateInterfaceRequest) : Api ApiResponse := do
  ofExcept (ApiAuthUser.requireMutate user)
  ofExcept (validate crates (checkPort req.listenPort))
  let id ← ofExcept (parseId crates path)
  let input ← ofExcept (updateInput crates req)
  let iface ← Api.service (InterfaceService.update crates.toCrates id input)
  return .interface (.from crates iface)

/-- `DELETE /api/v1/interfaces/{id}`. -/
def delete (path : String) : Api ApiResponse := do
  ofExcept (ApiAuthUser.requireMutate user)
  let id ← ofExcept (parseId crates path)
  Api.service (InterfaceService.delete id)
  return .noContent

/-- `POST /api/v1/interfaces/{id}/start`. -/
def start (path : String) : Api ApiResponse := do
  ofExcept (ApiAuthUser.requireMutate user)
  let id ← ofExcept (parseId crates path)
  let iface ← Api.service (InterfaceService.start crates.toCrates id)
  return .interface (.from crates iface)

/-- `POST /api/v1/interfaces/{id}/stop`. -/
def stop (path : String) : Api ApiResponse := do
  ofExcept (ApiAuthUser.requireMutate user)
  let id ← ofExcept (parseId crates path)
  let iface ← Api.service (InterfaceService.stop id)
  return .interface (.from crates iface)

end Interfaces

/-! ## Peers -/

namespace Peers

/-- `GET /api/v1/peers`. -/
def list : Api ApiResponse := do
  let peers ← Api.service SqlitePeerRepository.listAll
  return .peers (peers.map (PeerDto.from crates))

/-- `GET /api/v1/peers/{id}`. -/
def getOne (path : String) : Api ApiResponse := do
  let id ← ofExcept (parseId crates path)
  let found ← Api.service (SqlitePeerRepository.findById id)
  let peer ← orFail .notFound found
  return .peer (.from crates peer)

/-- The networks of a new peer, if the request has a list of them. -/
def parseAllowed : Option (List String) → Except ApiError (Option (List IpNet))
  | some items => do
      let nets ← parseCidrs crates items "allowed IP"
      return some nets
  | none => return none

/-- What a request asks the service to create. -/
def createInput (req : CreatePeerRequest) : Except ApiError CreatePeerInput := do
  let interfaceId ← parseId crates req.interfaceId
  let allowedIps ← parseAllowed crates req.allowedIps
  return { interfaceId, name := Text.trim req.name, allowedIps
           primaryDns := req.primaryDns, secondaryDns := req.secondaryDns, nat := req.nat
           persistentKeepalive := req.persistentKeepalive, ownerUserId := none
           publicKey := req.publicKey, privateKey := req.privateKey }

/-- `POST /api/v1/peers`. -/
def create (req : CreatePeerRequest) : Api ApiResponse := do
  ofExcept (ApiAuthUser.requireMutate user)
  ofExcept (validate crates (checkLength "name" req.name 1 64))
  let input ← ofExcept (createInput crates req)
  let peer ← Api.service (PeerService.createWithServerKeypair crates.toCrates input)
  return .peer (.from crates peer)

/-- What a request asks the service to change. -/
def updateInput (req : UpdatePeerRequest) : Except ApiError UpdatePeerInput := do
  let interfaceId ← parseId crates req.interfaceId
  let allowedIps ← parseCidrs crates req.allowedIps "allowed IP"
  return { name := Text.trim req.name, interfaceId, allowedIps
           primaryDns := req.primaryDns, secondaryDns := req.secondaryDns, nat := req.nat
           persistentKeepalive := req.persistentKeepalive, enabled := req.enabled
           publicKey := req.publicKey, privateKey := req.privateKey }

/-- `PUT /api/v1/peers/{id}`. -/
def update (path : String) (req : UpdatePeerRequest) : Api ApiResponse := do
  ofExcept (ApiAuthUser.requireMutate user)
  ofExcept (validate crates (checkLength "name" req.name 1 64))
  let id ← ofExcept (parseId crates path)
  let input ← ofExcept (updateInput crates req)
  let peer ← Api.service (PeerService.update crates.toCrates id input)
  return .peer (.from crates peer)

/-- `PATCH /api/v1/peers/{id}`. -/
def setEnabled (path : String) (enabled : Bool) : Api ApiResponse := do
  ofExcept (ApiAuthUser.requireMutate user)
  let id ← ofExcept (parseId crates path)
  let peer ← Api.service (PeerService.setEnabled crates.toCrates id enabled)
  return .peer (.from crates peer)

/-- `DELETE /api/v1/peers/{id}`. -/
def delete (path : String) : Api ApiResponse := do
  ofExcept (ApiAuthUser.requireMutate user)
  let id ← ofExcept (parseId crates path)
  Api.service (PeerService.delete id)
  return .noContent

/-- The client configuration of a peer. -/
def peerConf (path : String) : Api String := do
  let id ← ofExcept (parseId crates path)
  let found ← Api.service (SqlitePeerRepository.findById id)
  let peer ← orFail .notFound found
  let found ← Api.service (SqliteInterfaceRepository.findById peer.interfaceId)
  let iface ← orFail .notFound found
  let s ← always SiteCall.readSettings.request
  let endpoint := s.endpoint.getD "vpn.example.com"
  ofExcept ((renderPeerConf crates.toCrates iface peer endpoint).mapError .fromCore)

/-- `GET /api/v1/peers/{id}/config`. -/
def config (path : String) : Api ApiResponse := do
  let conf ← peerConf crates path
  return .config conf

/-- `GET /api/v1/peers/{id}/qr`. -/
def qr (path : String) : Api ApiResponse := do
  let conf ← peerConf crates path
  let svg ← ofExcept ((crates.qrSvg 256 conf).mapError fun e => .badRequest s!"qr encode: {e}")
  return .qr svg

end Peers

/-! ## Tokens -/

namespace Tokens

/-- `GET /api/v1/tokens`. -/
def list : Api ApiResponse := do
  let tokens ← Api.repo (SqliteApiTokenRepository.listForUser user.id)
  return .tokens (tokens.map (TokenDto.from crates))

/-- The text of bytes in the alphabet for URLs, without padding. -/
def urlSafe (bytes : List UInt8) : String :=
  String.ofList (((Base64.encode bytes).filter (· ≠ '=')).map fun c =>
    if c = '+' then '-' else if c = '/' then '_' else c)

/-- The text of a token. -/
def plaintext (seed : TokenSeed) : String :=
  "wf_" ++ urlSafe seed.val

/-- The instant a number of days from now; the time library ends the process when it is out of
range. -/
def expiry : Option Int → Api (Option DateTime)
  | none => return none
  | some days =>
      if 0 < days then do
        let now ← always (SiteCall.host .utcNow).request
        match TimeDelta.days days >>= now.add with
        | .ok t => return some t
        | .error panic => throw (.panic panic)
      else fail (.badRequest "expires_in_days must be positive")

/-- `POST /api/v1/tokens`. -/
def create (req : CreateTokenRequest) : Api ApiResponse := do
  ofExcept (validate crates (checkLength "name" req.name 1 64))
  let expiresAt ← expiry req.expiresInDays
  let seed ← always SiteCall.drawToken.request
  let token ← Api.repo (SqliteApiTokenRepository.create
    { userId := user.id, name := Text.trim req.name
      tokenHash := crates.sha256 (plaintext seed), scopes := ["*"], expiresAt })
  return .createdToken (plaintext seed) (.from crates token)

/-- `DELETE /api/v1/tokens/{id}`. -/
def revoke (path : String) : Api ApiResponse := do
  let id ← ofExcept (parseId crates path)
  Api.repo (SqliteApiTokenRepository.revoke id user.id)
  return .noContent

end Tokens

end Api

end Wireforge
