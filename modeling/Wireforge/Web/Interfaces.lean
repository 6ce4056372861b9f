import Wireforge.Service.Interface
import Wireforge.Web.Context

/-!
# The interface pages

The form of an interface is read field by field, and the first field that cannot be read decides the
message of the page. Every page that changes an interface checks the caller's role first.
-/

namespace Wireforge

open Effect

/-- The fields of the pages for new and for existing interfaces. -/
structure InterfaceForm where
  name : String
  listenPort : String
  ipv4Cidr : String
  ipv6Cidr : String
  mtu : String
  dns : String
  gateway : String
  onUp : String
  onDown : String
  publicKey : String
  privateKey : String

/-- The `iptables` commands for an interface, one a line. -/
def renderNatRules (wg gateway : String) (hasV6 : Bool) : String :=
  let families : List Family := if hasV6 then [.v4, .v6] else [.v4]
  String.join (families.flatMap fun family => (natRules wg gateway).map fun rule =>
    family.binary ++ " " ++ " ".intercalate (rule.argv "-I") ++ "\n")

namespace Routes.Interfaces

/-- What is read from the form of an interface. -/
structure ParsedForm where
  listenPort : UInt16
  ipv4Cidr : Option IpNet
  ipv6Cidr : Option IpNet
  mtu : Option UInt16
  dns : List String

/-- A port other than zero. -/
def parseListenPort (s : String) : Except String UInt16 :=
  match parseU16 s with
  | some port => if 0 < port then .ok port else .error "Listen port must be 1-65535"
  | none => .error "Listen port must be 1-65535"

/-- A network; `none` for a blank text. -/
def parseCidr (crates : WebCrates) (message s : String) : Except String (Option IpNet) :=
  if (Text.trim s).isEmpty then .ok none
  else
    match crates.parseIpNet (Text.trim s) with
    | some net => .ok (some net)
    | none => .error message

/-- A packet size; `none` for a blank text. -/
def parseMtu (s : String) : Except String (Option UInt16) :=
  if (Text.trim s).isEmpty then .ok none
  else
    match parseU16 (Text.trim s) with
    | some size => .ok (some size)
    | none => .error "Invalid MTU"

/-- Read the form of an interface. -/
def parseForm (crates : WebCrates) (form : InterfaceForm) : Except String ParsedForm := do
  let listenPort ← parseListenPort form.listenPort
  let ipv4Cidr ← parseCidr crates "Invalid IPv4 CIDR" form.ipv4Cidr
  let ipv6Cidr ← parseCidr crates "Invalid IPv6 CIDR" form.ipv6Cidr
  let mtu ← parseMtu form.mtu
  let dns := ((splitCommas form.dns).map Text.trim).filter fun s => !s.isEmpty
  return { listenPort, ipv4Cidr, ipv6Cidr, mtu, dns }

/-- The request that a form makes. -/
def createInput (form : InterfaceForm) (parsed : ParsedForm) : CreateInterfaceInput where
  name := Text.trim form.name
  listenPort := parsed.listenPort
  endpoint := none
  gateway := blankToNone form.gateway
  ipv4Cidr := parsed.ipv4Cidr
  ipv6Cidr := parsed.ipv6Cidr
  mtu := parsed.mtu
  dns := parsed.dns
  onUp := blankToNone form.onUp
  onDown := blankToNone form.onDown
  privateKey := Text.trim form.privateKey

/-- The edit that a form makes. -/
def updateInput (form : InterfaceForm) (parsed : ParsedForm) : UpdateInterfaceInput where
  listenPort := parsed.listenPort
  endpoint := none
  gateway := blankToNone form.gateway
  ipv4Cidr := parsed.ipv4Cidr
  ipv6Cidr := parsed.ipv6Cidr
  mtu := parsed.mtu
  dns := parsed.dns
  onUp := blankToNone form.onUp
  onDown := blankToNone form.onDown
  privateKey := Text.trim form.privateKey

/-- The fields as they were sent. -/
def formState (form : InterfaceForm) : InterfaceFormState where
  name := form.name
  listenPort := form.listenPort
  ipv4Cidr := form.ipv4Cidr
  ipv6Cidr := form.ipv6Cidr
  mtu := form.mtu
  dns := form.dns
  gateway := form.gateway
  onUp := form.onUp
  onDown := form.onDown
  publicKey := form.publicKey
  privateKey := form.privateKey

/-- The host interfaces that can be chosen as gateway: neither loopback nor tunnels. -/
def gateways : Web (List GatewayOption) := do
  let links ← Web.listOrEmpty GetifaddrsAdapter.list
  let eligible := links.filter fun i => i.name ≠ "lo" && !i.name.startsWith "wg"
  return eligible.map fun i => ⟨i.name, i.up⟩

/-- The commands that an interface's gateway leads to. -/
def generatedRulesFor (iface : Interface) : String :=
  match iface.gateway with
  | some gw => if gw.isEmpty then "" else renderNatRules iface.name gw iface.ipv6Cidr.isSome
  | none => ""

variable (crates : WebCrates) (session : SessionId) (user : AuthUser)

/-- The private key of an interface, or the empty text. -/
def revealInterfacePrivateKey (iface : Interface) : String :=
  crates.unsealText iface.privateKeySealed

/-- The page for new interfaces with an error. -/
def formErrorNew (form : InterfaceForm) (message : String) : Web Response := do
  let gateways ← gateways
  return .html 200 (.newInterface user none (some message) (formState form) gateways)

/-- The page of an interface with an error. -/
def formErrorEdit (iface : Interface) (form : InterfaceForm) (message : String) :
    Web Response := do
  let gateways ← gateways
  return .html 200 (.editInterface user none (some message) iface.id.display iface.name
    iface.status.asStr (formState form) gateways (generatedRulesFor iface))

/-- The rows of the list of interfaces, each with the number of its peers. -/
def rows : List Interface → Web (List InterfaceRow)
  | [] => pure []
  | iface :: rest => do
      let peers ← Web.service (SqlitePeerRepository.listForInterface iface.id)
      let row : InterfaceRow :=
        { id := iface.id.display, name := iface.name
          publicKeyShort := shortPk iface.publicKey.asStr, listenPort := iface.listenPort
          status := iface.status.asStr, peerCount := peers.length }
      let rest ← rows rest
      return row :: rest

/-- `GET /interfaces`. -/
def list : Web Response := do
  let interfaces ← Web.service SqliteInterfaceRepository.list
  let rows ← rows interfaces
  let flash ← Web.takeFlash session
  return .html 200 (.interfaces user flash rows)

/-- The fields of a new interface, with a fresh pair of keys to start from. -/
def newState (keys : String × String) : InterfaceFormState where
  name := ""
  listenPort := "51820"
  ipv4Cidr := "10.7.0.1/24"
  ipv6Cidr := ""
  mtu := "1420"
  dns := "1.1.1.1, 1.0.0.1"
  gateway := ""
  onUp := ""
  onDown := ""
  publicKey := keys.2
  privateKey := keys.1

/-- A fresh pair of keys as texts. -/
def freshKeypair : App (String × String) := do
  let (privateKey, publicKey) ← DefguardAdapter.generateKeypair crates.toCrates
  return (privateKey.asStr, publicKey.asStr)

/-- `GET /interfaces/new`. -/
def newPage : Web Response := do
  let flash ← Web.takeFlash session
  let keys ← attempt (Web.host (freshKeypair crates))
  let gateways ← gateways
  return .html 200 (.newInterface user flash none (newState (keys.toOption.getD ("", "")))
    gateways)

/-- `POST /interfaces/new`. -/
def create (form : InterfaceForm) : Web Response := do
  user.requireMutate
  match parseForm crates form with
  | .error message => formErrorNew user form message
  | .ok parsed => do
      let input := createInput form parsed
      match ← attempt (Web.host (InterfaceService.create crates.toCrates input)) with
      | .ok iface => do
          Web.auditRecord (some user.id) none .interfaceCreated (some "interface")
            (some iface.id.display) (some [("name", .str iface.name)])
          Web.setFlash session (Web.flashSuccess s!"Interface '{iface.name}' created")
          return .redirect "/interfaces"
      | .error (.conflict message) | .error (.validation message) =>
          formErrorNew user form message
      | .error e => Web.fail (.core e)

/-- The row of an interface, which has to exist. -/
def findInterface (id : Id InterfaceMarker) : Web Interface := do
  let found ← Web.service (SqliteInterfaceRepository.findById id)
  Web.orFail .notFound found

/-- The fields of an interface as its page shows them. -/
def editState (iface : Interface) : InterfaceFormState where
  name := iface.name
  listenPort := toString iface.listenPort
  ipv4Cidr := (iface.ipv4Cidr.map IpNet.display).getD ""
  ipv6Cidr := (iface.ipv6Cidr.map IpNet.display).getD ""
  mtu := (iface.mtu.map toString).getD ""
  dns := ", ".intercalate iface.dns
  gateway := iface.gateway.getD ""
  onUp := iface.onUp.getD ""
  onDown := iface.onDown.getD ""
  publicKey := iface.publicKey.asStr
  privateKey := revealInterfacePrivateKey crates iface

/-- `GET /interfaces/{id}/edit`. -/
def editPage (path : String) : Web Response := do
  let id ← Web.parseId crates path
  let iface ← findInterface id
  let flash ← Web.takeFlash session
  let gateways ← gateways
  return .html 200 (.editInterface user flash none iface.id.display iface.name iface.status.asStr
    (editState crates iface) gateways (generatedRulesFor iface))

/-- `POST /interfaces/{id}/edit`. -/
def edit (path : String) (form : InterfaceForm) : Web Response := do
  user.requireMutate
  let id ← Web.parseId crates path
  let iface ← findInterface id
  match parseForm crates form with
  | .error message => formErrorEdit user iface form message
  | .ok parsed => do
      let input := updateInput form parsed
      match ← attempt (Web.host (InterfaceService.update crates.toCrates id input)) with
      | .ok _ => do
          Web.setFlash session (Web.flashSuccess s!"Interface '{iface.name}' updated")
          return .redirect "/interfaces"
      | .error (.validation message) => formErrorEdit user iface form message
      | .error e => Web.fail (.core e)

/-- `POST /interfaces/{id}/start`. -/
def start (path : String) : Web Response := do
  user.requireMutate
  let id ← Web.parseId crates path
  let iface ← Web.service (InterfaceService.start crates.toCrates id)
  Web.auditRecord (some user.id) none .interfaceStarted (some "interface")
    (some iface.id.display) none
  Web.setFlash session (Web.flashSuccess s!"Interface '{iface.name}' is up")
  return .redirect "/interfaces"

/-- `POST /interfaces/{id}/stop`. -/
def stop (path : String) : Web Response := do
  user.requireMutate
  let id ← Web.parseId crates path
  let iface ← Web.service (InterfaceService.stop id)
  Web.auditRecord (some user.id) none .interfaceStopped (some "interface")
    (some iface.id.display) none
  Web.setFlash session (Web.flashSuccess s!"Interface '{iface.name}' is down")
  return .redirect "/interfaces"

/-- `POST /interfaces/{id}/delete`. -/
def delete (path : String) : Web Response := do
  user.requireMutate
  let id ← Web.parseId crates path
  Web.service (InterfaceService.delete id)
  Web.auditRecord (some user.id) none .interfaceDeleted (some "interface") (some id.display) none
  Web.setFlash session (Web.flashSuccess "Interface deleted")
  return .redirect "/interfaces"

end Routes.Interfaces

end Wireforge
