import Wireforge.Service.Interface

/-!
# Client configurations

The text that a user loads into a WireGuard client in order to connect as a peer.
-/

namespace Wireforge

/-- The network with its host bits cleared. -/
def IpNet.trunc : IpNet → IpNet
  | .v4 addr len => .v4 ((addr >>> (32 - len.val)) <<< (32 - len.val)) len
  | .v6 addr len => .v6 ((addr >>> (128 - len.val)) <<< (128 - len.val)) len

/-- A text that is neither absent nor empty. -/
def nonEmpty (text : Option String) : List String :=
  (text.filter (!·.isEmpty)).toList

/-- A line `key = value`, or no line at all. -/
def optionalLine (key : String) : Option String → String
  | some value => s!"{key} = {value}\n"
  | none => ""

namespace PeerConf

variable (crates : Crates) (iface : Interface) (peer : Peer) (serverEndpoint : String)

/-- The private key of a peer. -/
def privateKey : Except CoreError String :=
  match peer.privateKeySealed with
  | some blob => do
      let bytes ← crates.unseal blob
      match String.fromUTF8? bytes with
      | some text => .ok text
      | none => .error (.crypto "peer privkey utf8")
  | none =>
      .error (.validation "peer has no server-side private key; provide one or regenerate")

/-- The addresses of the peer. -/
def address : String :=
  ", ".intercalate (peer.allowedIps.map IpNet.display)

/-- The server's address, with the port of the interface unless it names one. -/
def endpoint : String :=
  if ':' ∈ serverEndpoint.toList then serverEndpoint
  else s!"{serverEndpoint}:{iface.listenPort}"

/-- The name servers of the peer, or those of the interface if it has none. -/
def dns : List String :=
  let own := nonEmpty peer.primaryDns ++ nonEmpty peer.secondaryDns
  if own.isEmpty then iface.dns else own

/-- The value of the line of name servers, if there is one. -/
def dnsValue : Option String :=
  if (dns iface peer).isEmpty then none else some (", ".intercalate (dns iface peer))

/-- Everything is routed through the server. -/
def fullTunnel : String := "0.0.0.0/0, ::/0"

/-- The networks that are routed through the server. -/
def clientAllowedIps : String :=
  if peer.nat then fullTunnel
  else
    let nets := (iface.ipv4Cidr.toList ++ iface.ipv6Cidr.toList).map fun c => c.trunc.display
    if nets.isEmpty then fullTunnel else ", ".intercalate nets

end PeerConf

open PeerConf in
/-- The configuration of a client that connects to an interface as a peer. -/
def renderPeerConf (crates : Crates) (iface : Interface) (peer : Peer)
    (serverEndpoint : String) : Except CoreError String := do
  let privateKey ← privateKey crates peer
  return s!"[Interface]\n# {peer.name} ({iface.name})\nPrivateKey = {privateKey}\n"
    ++ s!"Address = {address peer}\n"
    ++ optionalLine "DNS" (dnsValue iface peer)
    ++ optionalLine "MTU" (iface.mtu.map toString)
    ++ s!"\n[Peer]\nPublicKey = {iface.publicKey.asStr}\n"
    ++ s!"AllowedIPs = {clientAllowedIps iface peer}\n"
    ++ s!"Endpoint = {endpoint iface serverEndpoint}\n"
    ++ optionalLine "PersistentKeepalive" (peer.persistentKeepalive.map toString)

end Wireforge
