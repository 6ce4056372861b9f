import Wireforge.Infra.Nat
import Wireforge.Infra.Persistence
import Wireforge.Infra.WireGuard

/-!
# The interface service

Creating, starting, stopping, editing and deleting interfaces, over the repositories, the
WireGuard adapter and the NAT adapter.
-/

namespace Wireforge

open Effect

variable (crates : Crates)

/-- The network interfaces of the host. -/
def GetifaddrsAdapter.list : App (List SysInterface) :=
  orElse (fun e => .internal s!"getifaddrs: {e}") Sys.listLinks.request

/-- Names of one to fifteen letters, digits, dashes and underscores. -/
def validateIfaceName (name : String) : Except CoreError Unit :=
  if name.isEmpty || 15 < name.utf8ByteSize then
    .error (.validation "interface name must be 1-15 characters")
  else if !name.toList.all fun c => c.isAlphanum || c = '-' || c = '_' then
    .error (.validation "interface name may only contain a-z, 0-9, '-', '_'")
  else .ok ()

/-- The characters and the length of a gateway name; loopback is refused. -/
def gatewayCharsetOk (gw : String) : Bool :=
  !gw.isEmpty && gw.utf8ByteSize ≤ 15 && gw ≠ "lo" &&
    gw.toList.all fun c => c.isAlphanum || c = '-' || c = '_' || c = '.' || c = ':'

/-- The fields of a request to create an interface. -/
structure CreateInterfaceInput where
  name : String
  listenPort : UInt16
  endpoint : Option String
  gateway : Option String
  ipv4Cidr : Option IpNet
  ipv6Cidr : Option IpNet
  mtu : Option UInt16
  dns : List String
  onUp : Option String
  onDown : Option String
  privateKey : String

/-- A request with no more than a name, a gateway and an IPv6 network. -/
def CreateInterfaceInput.plain (name : String) (gateway : Option String)
    (ipv6Cidr : Option IpNet) : CreateInterfaceInput where
  name := name
  listenPort := 51820
  endpoint := none
  gateway := gateway
  ipv4Cidr := none
  ipv6Cidr := ipv6Cidr
  mtu := none
  dns := []
  onUp := none
  onDown := none
  privateKey := ""

/-- The fields of a request to edit an interface. -/
structure UpdateInterfaceInput where
  listenPort : UInt16
  endpoint : Option String
  gateway : Option String
  ipv4Cidr : Option IpNet
  ipv6Cidr : Option IpNet
  mtu : Option UInt16
  dns : List String
  onUp : Option String
  onDown : Option String
  privateKey : String

/-- An edit that sets no more than a gateway and an IPv6 network. -/
def UpdateInterfaceInput.plain (gateway : Option String) (ipv6Cidr : Option IpNet) :
    UpdateInterfaceInput where
  listenPort := 51820
  endpoint := none
  gateway := gateway
  ipv4Cidr := none
  ipv6Cidr := ipv6Cidr
  mtu := none
  dns := []
  onUp := none
  onDown := none
  privateKey := ""

/-- The row with the fields of an edit, apart from its keys. -/
def UpdateInterfaceInput.edit (input : UpdateInterfaceInput) (iface : Interface) : Interface :=
  { iface with
    listenPort := input.listenPort, endpoint := input.endpoint, gateway := input.gateway
    ipv4Cidr := input.ipv4Cidr, ipv6Cidr := input.ipv6Cidr, mtu := input.mtu, dns := input.dns
    onUp := input.onUp, onDown := input.onDown }

/-- The sealed text, or the empty text if it cannot be unsealed. -/
def Crates.unsealText (crates : Crates) (sealed : ByteArray) : String :=
  ((crates.unseal sealed).toOption.bind String.fromUTF8?).getD ""

/-- Seal a private key. -/
def Crates.sealKeyText (crates : Crates) (key : WgPrivateKey) : App ByteArray :=
  App.ofExcept (crates.seal key.asStr.toUTF8)

namespace InterfaceService

/-- The gateway has a valid name and is an interface of the host. -/
def validateGateway (gw : String) : App Unit := do
  if !gatewayCharsetOk gw then
    throw (.validation "invalid gateway interface name")
  let links ← GetifaddrsAdapter.list
  if !links.any (·.name = gw) then
    throw (.validation s!"gateway '{gw}' is not a host interface")

/-- The gateway, if there is one, is valid. -/
def validateConfigured : Option String → App Unit
  | some gw => validateGateway gw
  | none => pure ()

/-- Run a hook script, if there is one; failures are ignored. -/
def runConfiguredHook : Option String → App Unit
  | some script => ignore (IptablesNatAdapter.runHook script)
  | none => pure ()

/-- Remove the rules for a gateway, if there is one; failures are ignored. -/
def removeConfigured (iface : Interface) : Option String → App Unit
  | some gw => ignore (IptablesNatAdapter.remove iface gw)
  | none => pure ()

/-- The row with an identifier. -/
def get (id : Id InterfaceMarker) : App Interface := do
  match ← SqliteInterfaceRepository.findById id with
  | some iface => pure iface
  | none => throw (.notFound s!"interface {id.display}")

/-- The key pair of a new interface: the supplied private key, or a fresh one. -/
def keypair (supplied : String) : App (WgPrivateKey × WgPublicKey) :=
  if supplied.isEmpty then DefguardAdapter.generateKeypair crates
  else do
    let pk ← App.ofExcept (WgPrivateKey.fromBase64 supplied)
    let pubk ← DefguardAdapter.derivePublicKey crates pk
    return (pk, pubk)

/-- What the interface is created from, once its keys are known. -/
def newInterface (input : CreateInterfaceInput) (privateKey : WgPrivateKey)
    (publicKey : WgPublicKey) : NewInterface :=
  { name := input.name, privateKey, publicKey, listenPort := input.listenPort
    endpoint := input.endpoint, gateway := input.gateway, ipv4Cidr := input.ipv4Cidr
    ipv6Cidr := input.ipv6Cidr, mtu := input.mtu, dns := input.dns, onUp := input.onUp
    onDown := input.onDown }

/-- Create an interface. -/
def create (input : CreateInterfaceInput) : App Interface := do
  App.ofExcept (validateIfaceName input.name)
  validateConfigured input.gateway
  if (← SqliteInterfaceRepository.findByName input.name).isSome then
    throw (.conflict s!"interface '{input.name}' already exists")
  let (privateKey, publicKey) ← keypair crates (Text.trim input.privateKey)
  let sealed ← crates.sealKeyText privateKey
  let iface ← SqliteInterfaceRepository.create (newInterface input privateKey publicKey) sealed
  ignore (DefguardAdapter.createInterface iface)
  return iface

/-- Masquerade a tunnel that has come up. On a failure the tunnel is taken down again. -/
def masquerade (iface : Interface) : App Unit :=
  match iface.gateway with
  | none => pure ()
  | some gw => do
      let result ← attempt (do
        validateGateway gw
        IptablesNatAdapter.apply iface gw)
      match result with
      | .ok _ => pure ()
      | .error e => do
          ignore (DefguardAdapter.interfaceDown iface)
          throw e

/-- Bring an interface up. -/
def start (id : Id InterfaceMarker) : App Interface := do
  let iface ← get id
  let peers ← SqlitePeerRepository.listForInterface iface.id
  DefguardAdapter.interfaceUp crates iface peers
  runConfiguredHook iface.onUp
  masquerade iface
  let iface := iface.withStatus .up
  SqliteInterfaceRepository.update iface
  return iface

/-- Take an interface down. -/
def stop (id : Id InterfaceMarker) : App Interface := do
  let iface ← get id
  removeConfigured iface iface.gateway
  runConfiguredHook iface.onDown
  DefguardAdapter.interfaceDown iface
  let iface := iface.withStatus .down
  SqliteInterfaceRepository.update iface
  return iface

/-- Take over a changed private key and the public key it has. -/
def rekey (iface : Interface) (newPrivate : String) : App Interface :=
  if !newPrivate.isEmpty && newPrivate ≠ crates.unsealText iface.privateKeySealed then do
    let privKey ← App.ofExcept (WgPrivateKey.fromBase64 newPrivate)
    let derived ← DefguardAdapter.derivePublicKey crates privKey
    let sealed ← crates.sealKeyText privKey
    return { iface with privateKeySealed := sealed, publicKey := derived }
  else pure iface

/-- Install the rules for a gateway, if there is one; failures are ignored. -/
def applyConfigured (iface : Interface) : Option String → App Unit
  | some gw => ignore (IptablesNatAdapter.apply iface gw)
  | none => pure ()

/-- Configure a running interface anew. -/
def reapply (iface : Interface) (oldGateway : Option String) : App Unit := do
  let peers ← SqlitePeerRepository.listForInterface iface.id
  ignore (DefguardAdapter.interfaceUp crates iface peers)
  removeConfigured iface oldGateway
  applyConfigured iface iface.gateway

/-- Edit an interface. -/
def update (id : Id InterfaceMarker) (input : UpdateInterfaceInput) : App Interface := do
  let old ← get id
  validateConfigured input.gateway
  let iface ← rekey crates (input.edit old) (Text.trim input.privateKey)
  SqliteInterfaceRepository.update iface
  if iface.status = .up then
    reapply crates iface old.gateway
  return iface

/-- Delete an interface. -/
def delete (id : Id InterfaceMarker) : App Unit := do
  let iface ← get id
  removeConfigured iface iface.gateway
  ignore (DefguardAdapter.interfaceDown iface)
  ignore (DefguardAdapter.deleteInterface iface)
  SqliteInterfaceRepository.delete id

end InterfaceService

end Wireforge
