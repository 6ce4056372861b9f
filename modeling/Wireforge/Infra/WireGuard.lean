import Wireforge.Host.World

/-!
# WireGuard

The adapter over the WireGuard library: keys, devices and their peer tables. Every operation on a
device opens the library for its name first.
-/

namespace Wireforge

open Effect

variable (crates : Crates)

/-- Decode a base64 key; the two texts say what is wrong with one that is not. -/
def decodeB64 (notBase64 notKey : String) (s : String) : Except CoreError Key :=
  match Base64.decode s.toList with
  | none => .error (.crypto notBase64)
  | some bytes => if h : bytes.length = keyLen then .ok ⟨bytes, h⟩ else .error (.crypto notKey)

/-- A key text that was accepted once decodes to its key. -/
theorem decode_b64_text (notBase64 notKey : String) (k : KeyText) :
    decodeB64 notBase64 notKey k.text = .ok k.key := by
  have hkey : decodeKey k.text = some k.key := (Option.some_get k.valid).symm
  unfold decodeKey at hkey
  unfold decodeB64
  split at hkey
  · rename_i bytes hbytes
    split at hkey
    · rename_i hlen
      rw [hbytes, ← Option.some.inj hkey]
      exact dif_pos hlen
    · cases hkey
  · cases hkey

/-- The bytes of a public key. -/
def WgPublicKey.key (k : WgPublicKey) : Key :=
  k.inner.key

/-- The bytes of a private key. -/
def WgPrivateKey.key (k : WgPrivateKey) : Key :=
  k.inner.key

namespace DefguardAdapter

/-- Decode a stored public key. -/
def decodeB64Key (s : String) : Except CoreError Key :=
  decodeB64 "key b64" "key bytes" s

/-- The private key of an interface. -/
def unsealPrivate (iface : Interface) : Except CoreError WgPrivateKey := do
  let bytes ← crates.unseal iface.privateKeySealed
  match String.fromUTF8? bytes with
  | none => .error (.crypto "private key utf8")
  | some s => WgPrivateKey.fromBase64 s

/-- A peer as it is configured on a device. -/
def toWgPeer (peer : Peer) : Except CoreError WgPeer := do
  let key ← decodeB64Key peer.publicKey.asStr
  return {
    publicKey := key
    allowedIps := peer.allowedIps.map fun cidr => ⟨cidr.network, cidr.prefixLenNat⟩
    endpoint := peer.endpoint.bind crates.parseSocketAddr
    persistentKeepaliveInterval := peer.persistentKeepalive }

/-- The configuration of an interface with its enabled peers. -/
def configuration (iface : Interface) (peers : List Peer) :
    Except CoreError InterfaceConfiguration := do
  let privateKey ← unsealPrivate crates iface
  let wgPeers ← (peers.filter (·.enabled)).mapM (toWgPeer crates)
  return {
    name := iface.name
    prvkey := privateKey.asStr
    addresses := (iface.ipv4Cidr.toList ++ iface.ipv6Cidr.toList).map fun c =>
      ⟨c.network, c.prefixLenNat⟩
    port := iface.listenPort
    peers := wgPeers
    mtu := iface.mtu.map UInt16.toUInt32 }

/-- Open the library for a device. -/
def openApi (name : String) : App Unit :=
  orElse (fun e => .wireGuard s!"wgapi open '{name}': {e}") (Sys.openApi name).request

/-- Call the library for a device. -/
def callApi (name : String) (rename : String → CoreError)
    (call : Program Sys Sys.Reply (Except String Unit)) : App Unit := do
  openApi name
  orElse rename call

/-- Derive the public key of a private key. -/
def derivePublicKey (priv : WgPrivateKey) : App WgPublicKey :=
  App.ofExcept do
    let key ← decodeB64 "priv b64" "priv key" priv.asStr
    WgPublicKey.fromBase64 (encodeKey (crates.publicKey key))

/-- Draw a key pair. -/
def generateKeypair : App (WgPrivateKey × WgPublicKey) := do
  let key ← always Sys.generateKey.request
  let privateKey ← App.ofExcept (WgPrivateKey.fromBase64 (encodeKey key))
  let publicKey ← App.ofExcept (WgPublicKey.fromBase64 (encodeKey (crates.publicKey key)))
  return (privateKey, publicKey)

/-- Create the device. -/
def createInterface (iface : Interface) : App Unit :=
  callApi iface.name (fun e => .wireGuard s!"create {iface.name}: {e}")
    (Sys.createDevice iface.name).request

/-- Configure the device and the routes of its peers. -/
def interfaceUp (iface : Interface) (peers : List Peer) : App Unit := do
  let cfg ← App.ofExcept (configuration crates iface peers)
  callApi iface.name (fun e => .wireGuard s!"configure {iface.name}: {e}")
    (Sys.configureDevice cfg).request
  orElse (fun e => .wireGuard s!"routing {iface.name}: {e}")
    (Sys.configurePeerRouting iface.name cfg.peers).request

/-- Remove the device. -/
def interfaceDown (iface : Interface) : App Unit :=
  callApi iface.name (fun e => .wireGuard s!"down {iface.name}: {e}")
    (Sys.removeDevice iface.name).request

/-- Deleting is taking down; a failure is ignored. -/
def deleteInterface (iface : Interface) : App Unit :=
  ignore (interfaceDown iface)

/-- Install or replace the entry of a peer. -/
def applyPeer (iface : Interface) (peer : Peer) : App Unit := do
  let wgPeer ← App.ofExcept (toWgPeer crates peer)
  callApi iface.name (fun e => .wireGuard s!"apply peer {iface.name}: {e}")
    (Sys.configurePeer iface.name wgPeer).request

/-- Remove the entry of a key. -/
def removePeer (iface : Interface) (peerPubkey : WgPublicKey) : App Unit := do
  let key ← App.ofExcept (decodeB64Key peerPubkey.asStr)
  callApi iface.name (fun e => .wireGuard s!"remove peer {iface.name}: {e}")
    (Sys.removePeer iface.name key).request

/-- The last second of the largest time that can be represented. -/
def maxTimestamp : Nat := 8210266876799

/-- The counters of one peer. -/
def toPeerStats (p : HostPeer) : Except CoreError PeerStats := do
  let publicKey ← WgPublicKey.fromBase64 (encodeKey p.publicKey)
  return {
    publicKey
    lastHandshake := p.lastHandshake.bind fun secs =>
      if secs ≤ maxTimestamp then some ⟨secs * 10 ^ 9⟩ else none
    rxBytes := p.rxBytes
    txBytes := p.txBytes
    endpoint := p.endpoint }

/-- The counters of every peer of the device. -/
def peerStats (iface : Interface) : App (List PeerStats) := do
  openApi iface.name
  let host ← orElse (fun e => .wireGuard s!"read {iface.name}: {e}")
    (Sys.readDevice iface.name).request
  App.ofExcept (host.mapM toPeerStats)

end DefguardAdapter

/-! ## Key pairs -/

/-- The text of a raw key is accepted. -/
@[simp] theorem WgPrivateKey.from_base64_encode (key : Key) :
    WgPrivateKey.fromBase64 (encodeKey key) = .ok ⟨.ofKey key⟩ :=
  from_base64_as_str ⟨.ofKey key⟩

/-- The text of a raw key is accepted. -/
@[simp] theorem WgPublicKey.from_base64_encode (key : Key) :
    WgPublicKey.fromBase64 (encodeKey key) = .ok ⟨.ofKey key⟩ :=
  from_base64_as_str ⟨.ofKey key⟩

/-- The public key of a private key. -/
def WgPrivateKey.public (key : WgPrivateKey) : WgPublicKey :=
  ⟨.ofKey (crates.publicKey key.key)⟩

namespace DefguardAdapter

variable {σ : Type} {handler : Handler Sys Sys.Reply σ} {plan : Plan} {w : World}

/-- Deriving a public key is a computation. -/
theorem derive_public_key_pure (key : WgPrivateKey) :
    derivePublicKey crates key = pure (key.public crates) := by
  unfold derivePublicKey WgPrivateKey.asStr
  rw [decode_b64_text]
  simp [bind, Except.bind, WgPrivateKey.public, WgPrivateKey.key, App.ofExcept]

/-- Deriving a public key never fails. -/
@[simp] theorem eval_derive_public_key (key : WgPrivateKey) (state : σ) :
    eval handler (derivePublicKey crates key) state = (.ok (key.public crates), state) := by
  rw [derive_public_key_pure, eval_pure]

/-- Drawing a key pair never fails. -/
@[simp] theorem eval_generate_keypair :
    eval (handle plan) (generateKeypair crates) w =
      (.ok (⟨.ofKey w.env.key⟩, WgPrivateKey.public crates ⟨.ofKey w.env.key⟩), w) := by
  simp [generateKeypair, handle, WgPrivateKey.public, WgPrivateKey.key]

end DefguardAdapter

/-! ## What the kernel gets -/

/-- The entry of a peer in the table of its device. -/
def Peer.wgPeer (peer : Peer) : WgPeer where
  publicKey := peer.publicKey.key
  allowedIps := peer.allowedIps.map fun cidr => ⟨cidr.network, cidr.prefixLenNat⟩
  endpoint := peer.endpoint.bind crates.parseSocketAddr
  persistentKeepaliveInterval := peer.persistentKeepalive

namespace DefguardAdapter

/-- Building the entry of a stored peer never fails. -/
@[simp] theorem to_wg_peer_eq (peer : Peer) : toWgPeer crates peer = .ok (peer.wgPeer crates) := by
  unfold toWgPeer decodeB64Key WgPublicKey.asStr
  rw [decode_b64_text]
  rfl

theorem map_to_wg_peer (peers : List Peer) :
    peers.mapM (toWgPeer crates) = .ok (peers.map (Peer.wgPeer crates)) := by
  induction peers with
  | nil => rfl
  | cons peer rest ih =>
      rw [List.mapM_cons, to_wg_peer_eq, ih]
      rfl

end DefguardAdapter

/-- The counters of an entry, under the text of its key. -/
def HostPeer.stats (p : HostPeer) : PeerStats where
  publicKey := ⟨.ofKey p.publicKey⟩
  lastHandshake := p.lastHandshake.bind fun secs =>
    if secs ≤ DefguardAdapter.maxTimestamp then some ⟨secs * 10 ^ 9⟩ else none
  rxBytes := p.rxBytes
  txBytes := p.txBytes
  endpoint := p.endpoint

namespace DefguardAdapter

/-- Reading the counters of an entry never fails. -/
@[simp] theorem to_peer_stats_eq (p : HostPeer) : toPeerStats p = .ok p.stats := by
  unfold toPeerStats
  rw [WgPublicKey.from_base64_encode]
  rfl

theorem map_to_peer_stats (host : List HostPeer) :
    host.mapM toPeerStats = .ok (host.map HostPeer.stats) := by
  induction host with
  | nil => rfl
  | cons p rest ih =>
      rw [List.mapM_cons, to_peer_stats_eq, ih]
      rfl

/-- The configuration of an interface with a private key. -/
def configWith (iface : Interface) (peers : List Peer) (privateKey : WgPrivateKey) :
    InterfaceConfiguration where
  name := iface.name
  prvkey := privateKey.asStr
  addresses := (iface.ipv4Cidr.toList ++ iface.ipv6Cidr.toList).map fun c =>
    ⟨c.network, c.prefixLenNat⟩
  port := iface.listenPort
  peers := (peers.filter (·.enabled)).map (Peer.wgPeer crates)
  mtu := iface.mtu.map UInt16.toUInt32

/-- Building a configuration fails only if the private key cannot be recovered. -/
theorem configuration_eq (iface : Interface) (peers : List Peer) :
    configuration crates iface peers =
      (unsealPrivate crates iface).map (configWith crates iface peers) := by
  unfold configuration
  rw [map_to_wg_peer]
  cases unsealPrivate crates iface <;> rfl

end DefguardAdapter

end Wireforge
