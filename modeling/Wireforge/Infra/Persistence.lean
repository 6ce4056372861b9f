import Wireforge.Host.World

/-!
# Persistence

The SQLite repositories: every method is one statement. A statement that writes a row stamps it
with the time, and an insertion also draws the row's identifier.
-/

namespace Wireforge

open Effect

/-- Every failure of a statement is a persistence error. -/
def mapErr (text : String) : CoreError :=
  .persistence text

/-- A fresh UUID. -/
def nowV7 : App Uuid :=
  always Sys.uuidV7.request

/-- The time. -/
def utcNow : App DateTime :=
  always Sys.utcNow.request

namespace Plan

/-- The row of an interface as a service reads it. -/
def readInterface (plan : Plan) (db : Db) (id : Id InterfaceMarker) : Option Interface :=
  if (plan.error (.findInterface id)).isNone then db.interfaces.find id else .none

/-- The row of a peer as a service reads it. -/
def readPeer (plan : Plan) (db : Db) (id : Id PeerMarker) : Option Peer :=
  if (plan.error (.findPeer id)).isNone then db.peers.find id else .none

/-- The peers of an interface can be listed. -/
def listsPeers (plan : Plan) (id : Id InterfaceMarker) : Bool :=
  (plan.error (.listPeersOf id)).isNone

/-- The row of an interface can be written. -/
def savesInterface (plan : Plan) (row : Interface) (now : DateTime) : Bool :=
  (plan.error (.updateInterface row now)).isNone

/-- The row of an interface can be deleted. -/
def deletesInterface (plan : Plan) (id : Id InterfaceMarker) : Bool :=
  (plan.error (.deleteInterface id)).isNone

variable {plan : Plan} {db : Db}

theorem read_interface_some {id : Id InterfaceMarker} {iface : Interface}
    (h : plan.readInterface db id = some iface) : iface ∈ db.interfaces.rows ∧ iface.id = id := by
  unfold readInterface at h
  split at h
  · exact Table.find_eq_some.mp h
  · cases h

theorem read_peer_some {id : Id PeerMarker} {peer : Peer} (h : plan.readPeer db id = some peer) :
    peer ∈ db.peers.rows ∧ peer.id = id := by
  unfold readPeer at h
  split at h
  · exact Table.find_eq_some.mp h
  · cases h

end Plan

variable {plan : Plan} {w : World}

/-- A statement changes the database, unless it fails or a constraint forbids it; then nothing has
changed. -/
theorem eval_statement (plan : Plan) (w : World) (call : Sys) (change : Db → Except String Db)
    (program : Program Sys Sys.Reply (Except String Unit))
    (hprogram : program.exec (handle plan) w = plan.write call change w) :
    (∃ db, plan.error call = none ∧ change w.db = .ok db ∧
      eval (handle plan) (orElse mapErr program) w = (.ok (), { w with db })) ∨
    ((plan.error call).isSome = true ∨ ∃ e, change w.db = .error e) ∧
      ∃ e, eval (handle plan) (orElse mapErr program) w = (.error e, w) := by
  rw [eval_or_else, hprogram, Plan.write, Plan.run]
  cases plan.error call with
  | some e => exact .inr ⟨.inl rfl, _, rfl⟩
  | none =>
      cases hchange : change w.db with
      | ok db => exact .inl ⟨db, rfl, rfl, by simp [Except.mapError]⟩
      | error e => exact .inr ⟨.inr ⟨e, rfl⟩, _, by simp [Except.mapError]; rfl⟩

@[simp] theorem eval_now_v7 : eval (handle plan) nowV7 w = (.ok w.env.uuid, w) := rfl

@[simp] theorem eval_utc_now : eval (handle plan) utcNow w = (.ok w.env.now, w) := rfl

namespace SqliteInterfaceRepository

/-- The row of a new interface, which is down. -/
def newRow (id : Uuid) (now : DateTime) (new : NewInterface) (privateKeySealed : ByteArray) :
    Interface :=
  { id := ⟨id⟩, name := new.name, publicKey := new.publicKey, privateKeySealed
    listenPort := new.listenPort, endpoint := new.endpoint, gateway := new.gateway
    ipv4Cidr := new.ipv4Cidr, ipv6Cidr := new.ipv6Cidr, mtu := new.mtu, dns := new.dns
    onUp := new.onUp, onDown := new.onDown, status := .down, createdAt := now, updatedAt := now }

/-- Insert a row for a new interface. -/
def create (new : NewInterface) (privateKeySealed : ByteArray) : App Interface := do
  let id ← nowV7
  let now ← utcNow
  let row := newRow id now new privateKeySealed
  orElse mapErr (Sys.insertInterface row).request
  return row

/-- The row with an identifier. -/
def findById (id : Id InterfaceMarker) : App (Option Interface) :=
  orElse mapErr (Sys.findInterface id).request

/-- The row with a name. -/
def findByName (name : String) : App (Option Interface) :=
  orElse mapErr (Sys.findInterfaceByName name).request

/-- All rows by name. -/
def list : App (List Interface) :=
  orElse mapErr Sys.listInterfaces.request

/-- Write a row back. -/
def update (iface : Interface) : App Unit := do
  let now ← utcNow
  orElse mapErr (Sys.updateInterface iface now).request

/-- Delete a row. -/
def delete (id : Id InterfaceMarker) : App Unit :=
  orElse mapErr (Sys.deleteInterface id).request

@[simp] theorem eval_find_by_id (id : Id InterfaceMarker) :
    eval (handle plan) (findById id) w =
      ((plan.outcome (.findInterface id) (w.db.interfaces.find id)).mapError mapErr, w) :=
  eval_or_else _ _ _

@[simp] theorem eval_find_by_name (name : String) :
    eval (handle plan) (findByName name) w =
      ((plan.outcome (.findInterfaceByName name) (w.db.findInterfaceByName name)).mapError mapErr,
        w) :=
  eval_or_else _ _ _

@[simp] theorem eval_list :
    eval (handle plan) list w =
      ((plan.outcome .listInterfaces (sortedBy Interface.name w.db.interfaces.rows)).mapError
        mapErr, w) :=
  eval_or_else _ _ _

theorem eval_update (plan : Plan) (w : World) (iface : Interface) :
    (plan.savesInterface iface w.env.now = true ∧ eval (handle plan) (update iface) w =
      (.ok (), { w with db := w.db.updateInterface iface w.env.now })) ∨
    (plan.savesInterface iface w.env.now = false ∧
      ∃ e, eval (handle plan) (update iface) w = (.error e, w)) := by
  rw [update, eval_bind, eval_utc_now, Plan.savesInterface]
  rcases eval_statement plan w (.updateInterface iface w.env.now)
      (fun db => .ok (db.updateInterface iface w.env.now))
      (Sys.updateInterface iface w.env.now).request rfl with
    ⟨db, hnone, hdb, heval⟩ | ⟨hsome | ⟨_, hdb⟩, heval⟩
  · cases hdb
    exact .inl ⟨by rw [hnone]; rfl, heval⟩
  · exact .inr ⟨by simpa [Option.isSome_iff_ne_none] using hsome, heval⟩
  · cases hdb

theorem eval_create (plan : Plan) (w : World) (new : NewInterface) (sealed : ByteArray) :
    (∃ db, w.db.insertInterface (newRow w.env.uuid w.env.now new sealed) = .ok db ∧
      eval (handle plan) (create new sealed) w =
        (.ok (newRow w.env.uuid w.env.now new sealed), { w with db })) ∨
    ∃ e, eval (handle plan) (create new sealed) w = (.error e, w) := by
  simp only [create, eval_bind, eval_now_v7, eval_utc_now]
  rcases eval_statement plan w (.insertInterface (newRow w.env.uuid w.env.now new sealed))
      (·.insertInterface (newRow w.env.uuid w.env.now new sealed))
      (Sys.insertInterface (newRow w.env.uuid w.env.now new sealed)).request rfl with
    ⟨db, -, hdb, heval⟩ | ⟨-, e, heval⟩
  · exact .inl ⟨db, hdb, by rw [heval]; rfl⟩
  · exact .inr ⟨e, by rw [heval]⟩

theorem eval_delete (plan : Plan) (w : World) (id : Id InterfaceMarker) :
    (plan.deletesInterface id = true ∧ eval (handle plan) (delete id) w =
      (.ok (), { w with db := w.db.deleteInterface id })) ∨
    (plan.deletesInterface id = false ∧
      ∃ e, eval (handle plan) (delete id) w = (.error e, w)) := by
  rw [Plan.deletesInterface]
  rcases eval_statement plan w (.deleteInterface id) (fun db => .ok (db.deleteInterface id))
      (Sys.deleteInterface id).request rfl with ⟨db, hnone, hdb, heval⟩ | ⟨hsome | ⟨_, hdb⟩, heval⟩
  · cases hdb
    exact .inl ⟨by rw [hnone]; rfl, heval⟩
  · exact .inr ⟨by simpa [Option.isSome_iff_ne_none] using hsome, heval⟩
  · cases hdb

end SqliteInterfaceRepository

namespace SqlitePeerRepository

/-- The row of a new peer, which is enabled. -/
def newRow (id : Uuid) (now : DateTime) (new : NewPeer) (presharedSealed : Option ByteArray) :
    Peer :=
  { id := ⟨id⟩, interfaceId := new.interfaceId, name := new.name, publicKey := new.publicKey
    privateKeySealed := new.privateKeySealed, presharedKeySealed := presharedSealed
    allowedIps := new.allowedIps, primaryDns := new.primaryDns, secondaryDns := new.secondaryDns
    nat := new.nat, endpoint := new.endpoint, persistentKeepalive := new.persistentKeepalive
    bandwidthQuotaBytes := new.bandwidthQuotaBytes, bandwidthUsedBytes := 0
    expiresAt := new.expiresAt, schedule := none, enabled := true, ownerUserId := new.ownerUserId
    createdAt := now, updatedAt := now }

/-- Insert a row for a new peer. -/
def create (new : NewPeer) (presharedSealed : Option ByteArray) : App Peer := do
  let id ← nowV7
  let now ← utcNow
  let row := newRow id now new presharedSealed
  orElse mapErr (Sys.insertPeer row).request
  return row

/-- The row with an identifier. -/
def findById (id : Id PeerMarker) : App (Option Peer) :=
  orElse mapErr (Sys.findPeer id).request

/-- The peers of an interface, the oldest first. -/
def listForInterface (ifaceId : Id InterfaceMarker) : App (List Peer) :=
  orElse mapErr (Sys.listPeersOf ifaceId).request

/-- All peers, the oldest first. -/
def listAll : App (List Peer) :=
  orElse mapErr Sys.listPeers.request

/-- Write a row back. -/
def update (peer : Peer) : App Unit := do
  let now ← utcNow
  orElse mapErr (Sys.updatePeer peer now).request

/-- Delete a row. -/
def delete (id : Id PeerMarker) : App Unit :=
  orElse mapErr (Sys.deletePeer id).request

/-- Set the traffic counter of a row. -/
def recordBandwidth (id : Id PeerMarker) (bytes : UInt64) : App Unit :=
  orElse mapErr (Sys.recordBandwidth id bytes).request

@[simp] theorem eval_find_by_id (id : Id PeerMarker) :
    eval (handle plan) (findById id) w =
      ((plan.outcome (.findPeer id) (w.db.peers.find id)).mapError mapErr, w) :=
  eval_or_else _ _ _

@[simp] theorem eval_list_for_interface (id : Id InterfaceMarker) :
    eval (handle plan) (listForInterface id) w =
      ((plan.outcome (.listPeersOf id) (w.db.peersOf id)).mapError mapErr, w) :=
  eval_or_else _ _ _

@[simp] theorem eval_list_all :
    eval (handle plan) listAll w =
      ((plan.outcome .listPeers (sortedBy Peer.createdAt w.db.peers.rows)).mapError mapErr, w) :=
  eval_or_else _ _ _

/-- The insertion of a new row, and why it fails. -/
theorem eval_create (plan : Plan) (w : World) (new : NewPeer) (psk : Option ByteArray) :
    let row := newRow w.env.uuid w.env.now new psk
    (∃ db, plan.error (.insertPeer row) = none ∧ w.db.insertPeer row = .ok db ∧
      eval (handle plan) (create new psk) w = (.ok row, { w with db })) ∨
    ¬ (plan.error (.insertPeer row) = none ∧ ∃ db, w.db.insertPeer row = .ok db) ∧
      ∃ e, eval (handle plan) (create new psk) w = (.error e, w) := by
  intro row
  simp only [create, eval_bind, eval_now_v7, eval_utc_now]
  rcases eval_statement plan w (.insertPeer row) (·.insertPeer row) (Sys.insertPeer row).request
    rfl with ⟨db, hnone, hdb, heval⟩ | ⟨hfails, e, heval⟩
  · exact .inl ⟨db, hnone, hdb, by rw [heval]; rfl⟩
  · refine .inr ⟨fun ⟨hnone, db, hdb⟩ => ?_, e, by rw [heval]⟩
    rcases hfails with hsome | ⟨text, herror⟩
    · rw [hnone] at hsome
      cases hsome
    · cases hdb.symm.trans herror

theorem eval_update (plan : Plan) (w : World) (peer : Peer) :
    (∃ db, w.db.updatePeer peer w.env.now = .ok db ∧
      eval (handle plan) (update peer) w = (.ok (), { w with db })) ∨
    ((plan.error (.updatePeer peer w.env.now)).isSome = true ∨
      ∃ e, w.db.updatePeer peer w.env.now = .error e) ∧
      ∃ e, eval (handle plan) (update peer) w = (.error e, w) := by
  rw [update, eval_bind, eval_utc_now]
  rcases eval_statement plan w (.updatePeer peer w.env.now) (·.updatePeer peer w.env.now)
      (Sys.updatePeer peer w.env.now).request rfl with ⟨db, -, hdb, heval⟩ | h
  · exact .inl ⟨db, hdb, heval⟩
  · exact .inr h

theorem eval_delete (plan : Plan) (w : World) (id : Id PeerMarker) :
    (plan.error (.deletePeer id) = none ∧ eval (handle plan) (delete id) w =
      (.ok (), { w with db := w.db.deletePeer id })) ∨
    (plan.error (.deletePeer id) ≠ none ∧
      ∃ e, eval (handle plan) (delete id) w = (.error e, w)) := by
  rcases eval_statement plan w (.deletePeer id) (fun db => .ok (db.deletePeer id))
      (Sys.deletePeer id).request rfl with ⟨db, hnone, hdb, heval⟩ | ⟨hsome | ⟨_, hdb⟩, heval⟩
  · cases hdb
    exact .inl ⟨hnone, heval⟩
  · exact .inr ⟨Option.isSome_iff_ne_none.mp hsome, heval⟩
  · cases hdb

/-- The world after an attempt to record a counter. -/
theorem record_bandwidth_after (plan : Plan) (w : World) (id : Id PeerMarker) (bytes : UInt64) :
    (eval (handle plan) (recordBandwidth id bytes) w).2 = w ∨
    (eval (handle plan) (recordBandwidth id bytes) w).2 =
      { w with db := w.db.recordBandwidth id bytes } := by
  rcases eval_statement plan w (.recordBandwidth id bytes)
      (fun db => .ok (db.recordBandwidth id bytes)) (Sys.recordBandwidth id bytes).request rfl with
    ⟨db, _, hdb, heval⟩ | ⟨_, e, heval⟩
  · cases hdb
    exact .inr (congrArg Prod.snd heval)
  · exact .inl (congrArg Prod.snd heval)

end SqlitePeerRepository

namespace SqliteTrafficRepository

/-- Append a reading of a peer's counters. -/
def snapshot (peerId : Id PeerMarker) (tx rx : UInt64) (lastHandshake : Option DateTime) :
    App Unit := do
  let now ← utcNow
  orElse mapErr (Sys.insertSnapshot peerId tx rx lastHandshake now).request

/-- The world after an attempt to store a reading. -/
theorem snapshot_after (plan : Plan) (w : World) (peerId : Id PeerMarker) (tx rx : UInt64)
    (lastHandshake : Option DateTime) :
    (eval (handle plan) (snapshot peerId tx rx lastHandshake) w).2 = w ∨
    ∃ db row, w.db.insertSnapshot row = .ok db ∧
      (eval (handle plan) (snapshot peerId tx rx lastHandshake) w).2 = { w with db } := by
  rw [snapshot, eval_bind, eval_utc_now]
  rcases eval_statement plan w (.insertSnapshot peerId tx rx lastHandshake w.env.now)
      (·.insertSnapshot ⟨peerId, tx, rx, lastHandshake, w.env.now⟩)
      (Sys.insertSnapshot peerId tx rx lastHandshake w.env.now).request rfl with
    ⟨db, _, hdb, heval⟩ | ⟨_, e, heval⟩
  · exact .inr ⟨db, _, hdb, congrArg Prod.snd heval⟩
  · exact .inl (congrArg Prod.snd heval)

end SqliteTrafficRepository

end Wireforge
