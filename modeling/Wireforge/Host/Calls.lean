import Wireforge.Domain.Entities
import Wireforge.Lib.Program

/-!
# Calls to the host

`Sys` lists everything the adapters ask of the outside world: SQL statements, calls of the
WireGuard library, `iptables` processes, reads and writes of the forwarding flags, and the lock
around the table of forwarding snapshots. Services and adapters are programs over these calls.
The dry-run switch of the adapters, under which no call is made, is taken to be off, and the host
to be Linux.
-/

namespace Wireforge

open Effect

/-- The address families, each with a rule table and a forwarding flag of its own. -/
inductive Family where
  | v4
  | v6
  deriving DecidableEq, Repr

/-- Whether forwarding was on before an interface enabled it. -/
structure ForwardSnapshot where
  v4WasOn : Bool
  v6WasOn : Bool
  deriving DecidableEq, Repr

/-- The snapshot of one family. -/
def ForwardSnapshot.wasOn (snapshot : ForwardSnapshot) : Family → Bool
  | .v4 => snapshot.v4WasOn
  | .v6 => snapshot.v6WasOn

/-- The calls. A statement carries the values bound to it. -/
inductive Sys where
  | uuidV7
  | utcNow
  | findInterface (id : Id InterfaceMarker)
  | findInterfaceByName (name : String)
  | listInterfaces
  | insertInterface (row : Interface)
  | updateInterface (row : Interface) (now : DateTime)
  | deleteInterface (id : Id InterfaceMarker)
  | findPeer (id : Id PeerMarker)
  | listPeersOf (id : Id InterfaceMarker)
  | listPeers
  | insertPeer (row : Peer)
  | updatePeer (row : Peer) (now : DateTime)
  | deletePeer (id : Id PeerMarker)
  | recordBandwidth (id : Id PeerMarker) (bytes : UInt64)
  | insertSnapshot (peerId : Id PeerMarker) (tx rx : UInt64) (lastHandshake : Option DateTime)
      (now : DateTime)
  | generateKey
  | openApi (name : String)
  | createDevice (name : String)
  | configureDevice (config : InterfaceConfiguration)
  | configurePeerRouting (name : String) (peers : List WgPeer)
  | removeDevice (name : String)
  | configurePeer (name : String) (peer : WgPeer)
  | removePeer (name : String) (key : Key)
  | readDevice (name : String)
  | runIpt (family : Family) (args : List String)
  | readForward (family : Family)
  | writeForward (family : Family) (on : Bool)
  | rememberForward (name : String) (snapshot : ForwardSnapshot)
  | takeForward (name : String)
  | spawn (command : String) (args : List String)
  | listLinks

/-- What a call returns. A call whose reply is an `Except` can fail with the text of the error. -/
@[reducible] def Sys.Reply : Sys → Type
  | .uuidV7 => Uuid
  | .utcNow => DateTime
  | .findInterface _ | .findInterfaceByName _ => Except String (Option Interface)
  | .listInterfaces => Except String (List Interface)
  | .findPeer _ => Except String (Option Peer)
  | .listPeersOf _ | .listPeers => Except String (List Peer)
  | .insertInterface _ | .updateInterface _ _ | .deleteInterface _ => Except String Unit
  | .insertPeer _ | .updatePeer _ _ | .deletePeer _ => Except String Unit
  | .recordBandwidth _ _ | .insertSnapshot _ _ _ _ _ => Except String Unit
  | .generateKey => Key
  | .openApi _ | .createDevice _ | .configureDevice _ => Except String Unit
  | .configurePeerRouting _ _ | .removeDevice _ => Except String Unit
  | .configurePeer _ _ | .removePeer _ _ => Except String Unit
  | .readDevice _ => Except String (List HostPeer)
  | .runIpt _ _ | .spawn _ _ => Except String Bool
  | .readForward _ => Except String Bool
  | .writeForward _ _ => Except String Unit
  | .rememberForward _ _ => Unit
  | .takeForward _ => Option ForwardSnapshot
  | .listLinks => Except String (List SysInterface)

/-- The program that issues one call. -/
abbrev Sys.request (call : Sys) : Program Sys Sys.Reply call.Reply :=
  Program.request call

/-- A program of the application: it calls the host and may stop with a `CoreError`. -/
abbrev App : Type → Type := Fallible Sys Sys.Reply CoreError

/-- Lift the outcome of a pure computation. -/
def App.ofExcept {α : Type} (result : Except CoreError α) : App α :=
  match result with
  | .ok value => pure value
  | .error e => throw e

variable {σ α : Type} {handler : Handler Sys Sys.Reply σ}

@[simp] theorem eval_of_except (result : Except CoreError α) (state : σ) :
    eval handler (App.ofExcept result) state = (result, state) := by
  cases result <;> rfl

end Wireforge
