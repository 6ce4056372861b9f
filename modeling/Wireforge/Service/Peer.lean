import Wireforge.Service.Interface

/-!
# The peer service

Creating, editing, enabling, disabling and deleting peers. A peer's row is written first and the
kernel follows on a best-effort basis.
-/

namespace Wireforge

open Effect

variable (crates : Crates)

/-- The fields of a request to create a peer. -/
structure CreatePeerInput where
  interfaceId : Id InterfaceMarker
  name : String
  allowedIps : Option (List IpNet)
  primaryDns : Option String
  secondaryDns : Option String
  nat : Bool
  persistentKeepalive : Option UInt16
  ownerUserId : Option (Id UserMarker)
  publicKey : String
  privateKey : String

/-- A request with no more than a name, an interface and addresses. -/
def CreatePeerInput.plain (name : String) (interfaceId : Id InterfaceMarker)
    (allowedIps : Option (List IpNet)) : CreatePeerInput where
  interfaceId := interfaceId
  name := name
  allowedIps := allowedIps
  primaryDns := none
  secondaryDns := none
  nat := false
  persistentKeepalive := none
  ownerUserId := none
  publicKey := ""
  privateKey := ""

/-- The fields of a request to edit a peer. -/
structure UpdatePeerInput where
  name : String
  interfaceId : Id InterfaceMarker
  allowedIps : List IpNet
  primaryDns : Option String
  secondaryDns : Option String
  nat : Bool
  persistentKeepalive : Option UInt16
  enabled : Bool
  publicKey : String
  privateKey : String

/-- The row with the fields of an edit, apart from its keys. -/
def UpdatePeerInput.edit (input : UpdatePeerInput) (peer : Peer) : Peer :=
  { peer with
    interfaceId := input.interfaceId, name := input.name, allowedIps := input.allowedIps
    primaryDns := input.primaryDns, secondaryDns := input.secondaryDns, nat := input.nat
    persistentKeepalive := input.persistentKeepalive, enabled := input.enabled }

/-- No requested address is assigned to an existing peer. -/
def ensureNoConflict (want : List IpNet) (existing : List Peer) : Except CoreError Unit :=
  match want.find? fun ip => ip ∈ existing.flatMap (·.allowedIps) with
  | some ip => .error (.conflict s!"ip {ip.display} already assigned")
  | none => .ok ()

/-- The length of a prefix of one address. -/
def maxPrefix : IpNet → Nat
  | .v4 _ _ => 32
  | .v6 _ _ => 128

/-- The first host address, after the server's own, that is no peer's network address. -/
def nextFreeIpv4 (cidr : IpNet) (existing : List Peer) : Option IpAddr :=
  let used := existing.flatMap fun p => p.allowedIps.map IpNet.network
  cidr.findHost 1 fun host => host ∉ used

/-- The addresses of a new peer: the requested ones, or the next free one. -/
def allocate (iface : Interface) (existing : List Peer) (requested : Option (List IpNet)) :
    Except CoreError (List IpNet) :=
  match requested with
  | some (ip :: rest) => do
      ensureNoConflict (ip :: rest) existing
      return ip :: rest
  | _ =>
      match iface.ipv4Cidr with
      | none => .error (.validation "interface has no IPv4 CIDR")
      | some cidr =>
          match nextFreeIpv4 cidr existing with
          | none => .error (.ipPoolExhausted cidr.display)
          | some ip =>
              match IpNet.new ip (maxPrefix cidr) with
              | none => .error (.validation "host net: invalid prefix length")
              | some hostCidr => .ok [hostCidr]

namespace PeerService

/-- The interface with an identifier. -/
def getInterface (id : Id InterfaceMarker) : App Interface := do
  match ← SqliteInterfaceRepository.findById id with
  | some iface => pure iface
  | none => throw (.notFound s!"interface {id.display}")

/-- The row with an identifier. -/
def get (id : Id PeerMarker) : App Peer := do
  match ← SqlitePeerRepository.findById id with
  | some peer => pure peer
  | none => throw (.notFound s!"peer {id.display}")

/-- The keys of a new peer: derived from a supplied private key, a supplied public key alone, or a
fresh pair. -/
def keys (newPrivate newPublic : String) : App (WgPublicKey × Option ByteArray) :=
  if !newPrivate.isEmpty then do
    let pk ← App.ofExcept (WgPrivateKey.fromBase64 newPrivate)
    let derived ← DefguardAdapter.derivePublicKey crates pk
    let sealed ← crates.sealKeyText pk
    return (derived, some sealed)
  else if !newPublic.isEmpty then do
    let publicKey ← App.ofExcept (WgPublicKey.fromBase64 newPublic)
    return (publicKey, none)
  else do
    let (privateKey, publicKey) ← DefguardAdapter.generateKeypair crates
    let sealed ← crates.sealKeyText privateKey
    return (publicKey, some sealed)

/-- Create a peer. -/
def createWithServerKeypair (input : CreatePeerInput) : App Peer := do
  if (Text.trim input.name).isEmpty then
    throw (.validation "peer name is required")
  let iface ← getInterface input.interfaceId
  let existing ← SqlitePeerRepository.listForInterface iface.id
  let allowed ← App.ofExcept (allocate iface existing input.allowedIps)
  let (publicKey, privateSealed) ← keys crates (Text.trim input.privateKey)
    (Text.trim input.publicKey)
  let new : NewPeer :=
    { interfaceId := iface.id, name := input.name, publicKey, allowedIps := allowed
      primaryDns := input.primaryDns, secondaryDns := input.secondaryDns, nat := input.nat
      endpoint := none, persistentKeepalive := input.persistentKeepalive
      bandwidthQuotaBytes := none, expiresAt := none, ownerUserId := input.ownerUserId
      privateKeySealed := privateSealed }
  let peer ← SqlitePeerRepository.create new none
  ignore (DefguardAdapter.applyPeer crates iface peer)
  return peer

/-- Take over changed keys: a changed private key decides; without one, a changed public key
replaces the stored pair. -/
def rekey (peer : Peer) (newPrivate newPublic : String) : App Peer :=
  let currentPrivate := (peer.privateKeySealed.map crates.unsealText).getD ""
  if !newPrivate.isEmpty && newPrivate ≠ currentPrivate then do
    let privKey ← App.ofExcept (WgPrivateKey.fromBase64 newPrivate)
    let derived ← DefguardAdapter.derivePublicKey crates privKey
    let sealed ← crates.sealKeyText privKey
    return { peer with privateKeySealed := some sealed, publicKey := derived }
  else if newPrivate.isEmpty && !newPublic.isEmpty && newPublic ≠ peer.publicKey.asStr then do
    let publicKey ← App.ofExcept (WgPublicKey.fromBase64 newPublic)
    return { peer with publicKey, privateKeySealed := none }
  else pure peer

/-- Bring the kernel in line with a peer's row: install an enabled peer and remove a disabled
one. -/
def pushPeer (iface : Interface) (peer : Peer) : App Unit :=
  if peer.enabled then ignore (DefguardAdapter.applyPeer crates iface peer)
  else ignore (DefguardAdapter.removePeer iface peer.publicKey)

/-- Remove the entry a peer had before an edit that moved it or changed its key. -/
def removeStale (old peer : Peer) (target : Interface) : App Unit :=
  if peer.interfaceId ≠ old.interfaceId then do
    let found : Except CoreError _ ←
      attempt (SqliteInterfaceRepository.findById old.interfaceId)
    match found with
    | .ok (some oldIface) => ignore (DefguardAdapter.removePeer oldIface old.publicKey)
    | _ => pure ()
  else if peer.publicKey.asStr ≠ old.publicKey.asStr then
    ignore (DefguardAdapter.removePeer target old.publicKey)
  else pure ()

/-- Edit a peer. -/
def update (id : Id PeerMarker) (input : UpdatePeerInput) : App Peer := do
  if (Text.trim input.name).isEmpty then
    throw (.validation "peer name is required")
  let old ← get id
  let target ← getInterface input.interfaceId
  let onTarget ← SqlitePeerRepository.listForInterface input.interfaceId
  App.ofExcept (ensureNoConflict input.allowedIps (onTarget.filter (·.id ≠ old.id)))
  let peer ← rekey crates (input.edit old) (Text.trim input.privateKey) (Text.trim input.publicKey)
  SqlitePeerRepository.update peer
  removeStale old peer target
  pushPeer crates target peer
  return peer

/-- Enable or disable a peer. -/
def setEnabled (id : Id PeerMarker) (enabled : Bool) : App Peer := do
  let old ← get id
  let peer := { old with enabled }
  SqlitePeerRepository.update peer
  let iface ← getInterface peer.interfaceId
  pushPeer crates iface peer
  return peer

/-- Delete a peer. -/
def delete (id : Id PeerMarker) : App Unit := do
  let peer ← get id
  let iface ← getInterface peer.interfaceId
  ignore (DefguardAdapter.removePeer iface peer.publicKey)
  SqlitePeerRepository.delete id

end PeerService

end Wireforge
