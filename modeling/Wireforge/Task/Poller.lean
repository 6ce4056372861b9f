import Wireforge.Infra.Persistence
import Wireforge.Infra.WireGuard
import Wireforge.Task.Task

/-!
# The poller

Each pass reads the traffic counters of every interface that is up, stores them, and disables the
peers that have used up their quota.
-/

namespace Wireforge

open Effect

/-- Addition that stops at the largest value. -/
def saturatingAdd (a b : UInt64) : UInt64 :=
  UInt64.ofNat (min (a.toNat + b.toNat) (2 ^ 64 - 1))

namespace Poller

/-- Disable a peer in the database and in the kernel. -/
def disablePeer (peerId : Id PeerMarker) : Task Unit := do
  match ← Task.run (SqlitePeerRepository.findById peerId) with
  | none => throw (.message "peer vanished")
  | some peer =>
      match ← Task.run (SqliteInterfaceRepository.findById peer.interfaceId) with
      | none => throw (.message "iface vanished")
      | some iface => do
          let peer := { peer with enabled := false }
          Task.run (SqlitePeerRepository.update peer)
          ignore (DefguardAdapter.removePeer iface peer.publicKey)

/-- The peer with a public key. Peers with one key hide those listed before them. -/
def byPubkey (peers : List Peer) (key : String) : Option Peer :=
  peers.reverse.find? (·.publicKey.asStr = key)

/-- Store one reading and enforce the quota of its peer. -/
def record (peers : List Peer) (s : PeerStats) : Task Unit :=
  match byPubkey peers s.publicKey.asStr with
  | none => pure ()
  | some peer => do
      let total := saturatingAdd s.rxBytes s.txBytes
      ignore (SqliteTrafficRepository.snapshot peer.id s.txBytes s.rxBytes s.lastHandshake)
      ignore (SqlitePeerRepository.recordBandwidth peer.id total)
      match peer.bandwidthQuotaBytes with
      | none => pure ()
      | some quota => if quota ≤ total && peer.enabled then ignore (disablePeer peer.id)
                      else pure ()

/-- Poll one interface; one that is not up, or whose counters cannot be read, is skipped. -/
def pollInterface (iface : Interface) : Task Unit :=
  if iface.status = .up then do
    let result : Except CoreError _ ← attempt (DefguardAdapter.peerStats iface)
    match result with
    | .error _ => pure ()
    | .ok stats => do
        let peers ← Task.run (SqlitePeerRepository.listForInterface iface.id)
        forEach (record peers) stats
  else pure ()

/-- One pass over all interfaces. -/
def pollOnce : Task Unit := do
  let ifaces ← Task.run SqliteInterfaceRepository.list
  forEach pollInterface ifaces

end Poller

end Wireforge
