import Wireforge.Service.Peer
import Wireforge.Service.PeerConf
import Wireforge.Web.Context

/-!
# The peer pages

Forms are read field by field, and the first field that cannot be read decides the message of the
page. Every page that changes a peer checks the caller's role first.
-/

namespace Wireforge

open Effect

/-- The fields of the page for new peers. -/
structure PeerForm where
  name : String
  interfaceId : String
  allowedIps : String
  primaryDns : String
  secondaryDns : String
  nat : Option String
  persistentKeepalive : String
  publicKey : String
  privateKey : String

/-- The fields of the page of a peer. -/
structure PeerEditForm extends PeerForm where
  enabled : Option String

namespace Routes.Peers

/-- Networks separated by commas; `none` for a blank text. -/
def parseAllowed (crates : WebCrates) (s : String) : Except String (Option (List IpNet)) :=
  if (Text.trim s).isEmpty then .ok none
  else
    match (splitCommas s).mapM fun net => crates.parseIpNet (Text.trim net) with
    | some nets => .ok (some nets)
    | none => .error "Invalid Allowed IPs"

/-- A keepalive interval; `none` for a blank text. -/
def parseKeepalive (s : String) : Except String (Option UInt16) :=
  if (Text.trim s).isEmpty then .ok none
  else
    match parseU16 (Text.trim s) with
    | some secs => .ok (some secs)
    | none => .error "Invalid keepalive"

/-- The text of an address; `none` for a blank text. -/
def parseDns (s : String) : Except String (Option String) :=
  if (Text.trim s).isEmpty then .ok none
  else if (IpAddr.parse (Text.trim s)).isSome then .ok (some (Text.trim s))
  else .error "Invalid DNS address"

/-- The identifier of an interface. -/
def parseInterface (crates : WebCrates) (s : String) : Except String (Id InterfaceMarker) :=
  match crates.parseUuid s with
  | some value => .ok ⟨value⟩
  | none => .error "Invalid interface"

/-- The networks of an edited peer, of which there has to be one. -/
def requireAllowed (crates : WebCrates) (s : String) : Except String (List IpNet) :=
  match parseAllowed crates s with
  | .ok (some nets) => if nets.isEmpty then .error "Allowed IPs required" else .ok nets
  | .ok none => .error "Allowed IPs required"
  | .error message => .error message

/-- The request that a form makes. -/
def createInput (crates : WebCrates) (user : AuthUser) (form : PeerForm) :
    Except String CreatePeerInput := do
  let interfaceId ← parseInterface crates form.interfaceId
  let allowedIps ← parseAllowed crates form.allowedIps
  let persistentKeepalive ← parseKeepalive form.persistentKeepalive
  let primaryDns ← parseDns form.primaryDns
  let secondaryDns ← parseDns form.secondaryDns
  return { interfaceId, name := Text.trim form.name, allowedIps, primaryDns, secondaryDns
           nat := form.nat.isSome, persistentKeepalive, ownerUserId := some user.id
           publicKey := Text.trim form.publicKey, privateKey := Text.trim form.privateKey }

/-- The edit that a form makes. -/
def updateInput (crates : WebCrates) (form : PeerEditForm) : Except String UpdatePeerInput := do
  let allowedIps ← requireAllowed crates form.allowedIps
  let persistentKeepalive ← parseKeepalive form.persistentKeepalive
  let primaryDns ← parseDns form.primaryDns
  let secondaryDns ← parseDns form.secondaryDns
  let interfaceId ← parseInterface crates form.interfaceId
  return { name := Text.trim form.name, interfaceId, allowedIps, primaryDns, secondaryDns
           nat := form.nat.isSome, persistentKeepalive, enabled := form.enabled = some "on"
           publicKey := Text.trim form.publicKey, privateKey := Text.trim form.privateKey }

/-- The interfaces to choose from. -/
def options (interfaces : List Interface) : List InterfaceOption :=
  interfaces.map fun iface => ⟨iface.id.display, iface.name⟩

/-- The fields as they were sent. -/
def formState (form : PeerForm) : PeerFormState where
  name := form.name
  interfaceId := form.interfaceId
  allowedIps := form.allowedIps
  primaryDns := form.primaryDns
  secondaryDns := form.secondaryDns
  nat := form.nat.isSome
  persistentKeepalive := form.persistentKeepalive
  publicKey := form.publicKey
  privateKey := form.privateKey

variable (crates : WebCrates) (session : SessionId) (user : AuthUser)

/-- The page for new peers with an error. -/
def formError (form : PeerForm) (message : String) : Web Response := do
  let interfaces ← Web.listOrEmpty SqliteInterfaceRepository.list
  return .html 200 (.newPeer user none (some message) (formState form) (options interfaces))

/-- The page of a peer with an error. -/
def editFormError (id : Id PeerMarker) (form : PeerEditForm) (message : String) :
    Web Response := do
  let found ← attempt (Web.host (SqlitePeerRepository.findById id))
  let shown := (found.toOption.join.map Peer.id).getD id
  let interfaces ← Web.listOrEmpty SqliteInterfaceRepository.list
  return .html 200 (.editPeer user none (some message) shown.display
    ⟨formState form.toPeerForm, form.enabled = some "on"⟩ (options interfaces))

/-- The row of a peer in the list. -/
def peerRow (interfaces : List Interface) (peer : Peer) : PeerRow where
  id := peer.id.display
  name := peer.name
  interfaceName :=
    ((interfaces.find? (·.id = peer.interfaceId)).map Interface.name).getD "(orphan)"
  publicKeyShort := shortPk peer.publicKey.asStr
  allowedIps := displayNets peer.allowedIps
  enabled := peer.enabled
  hasPrivateKey := peer.privateKeySealed.isSome

/-- `GET /peers`. -/
def list : Web Response := do
  let interfaces ← Web.service SqliteInterfaceRepository.list
  let peers ← Web.service SqlitePeerRepository.listAll
  let flash ← Web.takeFlash session
  return .html 200 (.peers user flash (peers.map (peerRow interfaces)) (!interfaces.isEmpty))

/-- `GET /peers/new`. -/
def newPage : Web Response := do
  match ← Web.service SqliteInterfaceRepository.list with
  | [] => return .redirect "/interfaces/new"
  | first :: rest => do
      let flash ← Web.takeFlash session
      let form : PeerFormState := ⟨"", first.id.display, "", "", "", true, "25", "", ""⟩
      return .html 200 (.newPeer user flash none form (options (first :: rest)))

/-- The row of a peer, which has to exist. -/
def findPeer (id : Id PeerMarker) : Web Peer := do
  let found ← Web.service (SqlitePeerRepository.findById id)
  Web.orFail .notFound found

/-- The client configuration of a peer of an interface. -/
def renderConf (iface : Interface) (peer : Peer) : Web String := do
  let endpoint ← Web.endpoint
  Web.ofCore (renderPeerConf crates.toCrates iface peer endpoint)

/-- The client configuration of a peer. -/
def peerConf (peer : Peer) : Web String := do
  let found ← Web.service (SqliteInterfaceRepository.findById peer.interfaceId)
  let iface ← Web.orFail .notFound found
  renderConf crates iface peer

/-- The interface of a new peer. The service has read it before. -/
def rereadInterface (id : Id InterfaceMarker) : Repo (Option Interface) :=
  orElse mapErr (SiteCall.rereadInterface id).request

/-- Show the configuration of a new peer. -/
def created (peer : Peer) : Web Response := do
  let found ← Web.repo (rereadInterface peer.interfaceId)
  let iface ← Web.orFail .notFound found
  let config ← renderConf crates iface peer
  Web.auditRecord (some user.id) none .peerCreated (some "peer") (some peer.id.display)
    (some [("name", .str peer.name), ("interface_id", .str peer.interfaceId.display)])
  return .html 200 (.peerCreated user none peer.id.display peer.name config)

/-- `POST /peers/new`. -/
def create (form : PeerForm) : Web Response := do
  user.requireMutate
  match createInput crates user form with
  | .error message => formError user form message
  | .ok input => do
      match ← attempt (Web.host (PeerService.createWithServerKeypair crates.toCrates input)) with
      | .ok peer => created crates user peer
      | .error (.validation message) | .error (.conflict message)
      | .error (.ipPoolExhausted message) => formError user form message
      | .error e => Web.fail (.core e)

/-- The private key of a peer, or the empty text. -/
def revealPrivateKey (peer : Peer) : String :=
  (peer.privateKeySealed.map crates.unsealText).getD ""

/-- The fields of a peer as its page shows them. -/
def editState (peer : Peer) : PeerEditFormState where
  name := peer.name
  interfaceId := peer.interfaceId.display
  allowedIps := displayNets peer.allowedIps
  primaryDns := peer.primaryDns.getD ""
  secondaryDns := peer.secondaryDns.getD ""
  nat := peer.nat
  persistentKeepalive := (peer.persistentKeepalive.map toString).getD ""
  publicKey := peer.publicKey.asStr
  privateKey := revealPrivateKey crates peer
  enabled := peer.enabled

/-- `GET /peers/{id}/edit`. -/
def editPage (path : String) : Web Response := do
  let id ← Web.parseId crates path
  let peer ← findPeer id
  let interfaces ← Web.service SqliteInterfaceRepository.list
  let flash ← Web.takeFlash session
  return .html 200 (.editPeer user flash none peer.id.display (editState crates peer)
    (options interfaces))

/-- `POST /peers/{id}/edit`. -/
def edit (path : String) (form : PeerEditForm) : Web Response := do
  user.requireMutate
  let id ← Web.parseId crates path
  match updateInput crates form with
  | .error message => editFormError user id form message
  | .ok input => do
      match ← attempt (Web.host (PeerService.update crates.toCrates id input)) with
      | .ok peer => do
          Web.setFlash session (Web.flashSuccess s!"Peer '{peer.name}' updated")
          return .redirect "/peers"
      | .error (.validation message) | .error (.conflict message) =>
          editFormError user id form message
      | .error e => Web.fail (.core e)

/-- `POST /peers/{id}/toggle`. -/
def toggle (path : String) : Web Response := do
  user.requireMutate
  let id ← Web.parseId crates path
  let peer ← findPeer id
  let updated ← Web.service (PeerService.setEnabled crates.toCrates id (!peer.enabled))
  Web.auditRecord (some user.id) none (if updated.enabled then .peerEnabled else .peerDisabled)
    (some "peer") (some updated.id.display) none
  return .html 200 (.peerEnabled updated.id.display updated.enabled)

/-- `POST /peers/{id}/delete`. -/
def delete (path : String) : Web Response := do
  user.requireMutate
  let id ← Web.parseId crates path
  Web.service (PeerService.delete id)
  Web.auditRecord (some user.id) none .peerDeleted (some "peer") (some id.display) none
  Web.setFlash session (Web.flashSuccess "Peer deleted")
  return .redirect "/peers"

/-- The name with an underscore for every character that is not safe in a file name. -/
def sanitizeFilename (name : String) : String :=
  String.ofList (name.toList.map fun c =>
    if c.isAlphanum || c = '-' || c = '_' then c else '_')

/-- `GET /peers/{id}/download`. -/
def download (path : String) : Web Response := do
  let id ← Web.parseId crates path
  let peer ← findPeer id
  let config ← peerConf crates peer
  let filename := sanitizeFilename peer.name
  return .text "text/plain; charset=utf-8"
    (some s!"attachment; filename=\"{filename}.conf\"") config

/-- `GET /peers/{id}/qr`. -/
def qr (path : String) : Web Response := do
  let id ← Web.parseId crates path
  let peer ← findPeer id
  let config ← peerConf crates peer
  let svg ← Web.ofExcept ((crates.qrSvg 256 config).mapError fun e =>
    .internal s!"qr encode: {e}")
  return .svg svg

end Routes.Peers

end Wireforge
