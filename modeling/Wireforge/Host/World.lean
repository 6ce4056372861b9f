import Wireforge.Host.Calls
import Wireforge.Lib.Table

/-!
# The host

`World` is the state behind the calls: the database with its constraints, the WireGuard devices of
the kernel, the `iptables` and `ip6tables` rules, the two forwarding flags, and the snapshots of
those flags that the adapter keeps. `handle plan` gives every call its meaning; `Plan` chooses the
calls that fail. A failed call changes nothing.
-/

namespace Wireforge

open Effect

/-! ## The database -/

/-- A row of `traffic_snapshots`. -/
structure TrafficSnapshot where
  peerId : Id PeerMarker
  tx : UInt64
  rx : UInt64
  lastHandshake : Option DateTime
  recordedAt : DateTime

/-- The tables the services write. Interface names are unique and every peer belongs to an
interface, as the schema demands. -/
structure Db where
  interfaces : Table Interface.id
  peers : Table Peer.id
  traffic : List TrafficSnapshot
  uniqueNames : (interfaces.rows.map Interface.name).Nodup
  references : ∀ peer ∈ peers.rows, (interfaces.find peer.interfaceId).isSome

namespace Db

/-- The database of a fresh installation. -/
def empty : Db where
  interfaces := ⟨[], by simp⟩
  peers := ⟨[], by simp⟩
  traffic := []
  uniqueNames := by simp
  references := by simp

/-- A database with one interface, a peer on it and snapshots of the peer. -/
def single (iface : Interface) (peer : Peer) (traffic : List TrafficSnapshot) : Db where
  interfaces := ⟨[iface], List.nodup_singleton _⟩
  peers := ⟨[{ peer with interfaceId := iface.id }], List.nodup_singleton _⟩
  traffic
  uniqueNames := List.nodup_singleton _
  references := by
    intro row hrow
    obtain rfl := List.mem_singleton.mp hrow
    exact Option.isSome_iff_exists.mpr
      ⟨iface, Table.find_eq_some.mpr ⟨List.mem_singleton_self iface, rfl⟩⟩

/-- `SELECT * FROM interfaces WHERE name = ?`. -/
def findInterfaceByName (db : Db) (name : String) : Option Interface :=
  db.interfaces.rows.find? (·.name = name)

/-- `SELECT * FROM peers WHERE interface_id = ? ORDER BY created_at ASC`. -/
def peersOf (db : Db) (id : Id InterfaceMarker) : List Peer :=
  sortedBy Peer.createdAt (db.peers.rows.filter (·.interfaceId = id))

/-- `INSERT INTO interfaces`. -/
def insertInterface (db : Db) (row : Interface) : Except String Db :=
  if hid : db.interfaces.find row.id = none then
    if hname : db.findInterfaceByName row.name = none then
      .ok { db with
        interfaces := db.interfaces.insert row hid
        uniqueNames := by
          simp only [findInterfaceByName, List.find?_eq_none, decide_eq_true_eq] at hname
          rw [Table.insert, List.map_append, List.nodup_append]
          refine ⟨db.uniqueNames, by simp, fun name hmem name' hmem' => ?_⟩
          obtain ⟨row', hrow', rfl⟩ := List.mem_map.mp hmem
          simp only [List.map_cons, List.map_nil, List.mem_singleton] at hmem'
          exact hmem' ▸ hname row' hrow'
        references := fun peer hpeer => by
          obtain ⟨row', hrow'⟩ := Option.isSome_iff_exists.mp (db.references peer hpeer)
          have hmem := Table.find_eq_some.mp hrow'
          rw [Table.find_eq_some.mpr ⟨Table.mem_insert.mpr (.inl hmem.1), hmem.2⟩]
          rfl }
    else .error "UNIQUE constraint failed: interfaces.name"
  else .error "UNIQUE constraint failed: interfaces.id"

/-- The row an `UPDATE interfaces` statement leaves: the name and the creation time are not
among the columns it sets. -/
def setInterface (row : Interface) (now : DateTime) (old : Interface) : Interface :=
  if old.id = row.id then
    { row with name := old.name, createdAt := old.createdAt, updatedAt := now }
  else old

@[simp] theorem set_interface_id (row : Interface) (now : DateTime) (old : Interface) :
    (setInterface row now old).id = old.id := by
  unfold setInterface
  split
  · exact Eq.symm ‹_›
  · rfl

@[simp] theorem set_interface_name (row : Interface) (now : DateTime) (old : Interface) :
    (setInterface row now old).name = old.name := by
  unfold setInterface
  split <;> rfl

/-- `UPDATE interfaces SET … WHERE id = ?`. -/
def updateInterface (db : Db) (row : Interface) (now : DateTime) : Db :=
  { db with
    interfaces := db.interfaces.modify (setInterface row now) (set_interface_id row now)
    uniqueNames := by
      rw [Table.modify, List.map_map,
        show Interface.name ∘ setInterface row now = Interface.name from
          funext (set_interface_name row now)]
      exact db.uniqueNames
    references := fun peer hpeer => by
      rw [Table.find_modify, Option.isSome_map]
      exact db.references peer hpeer }

/-- `DELETE FROM interfaces WHERE id = ?`, which deletes the interface's peers and their traffic. -/
def deleteInterface (db : Db) (id : Id InterfaceMarker) : Db :=
  { interfaces := db.interfaces.filter (·.id ≠ id)
    peers := db.peers.filter (·.interfaceId ≠ id)
    traffic := db.traffic.filter fun row =>
      ((db.peers.filter (·.interfaceId ≠ id)).find row.peerId).isSome
    uniqueNames := db.uniqueNames.sublist (List.filter_sublist.map _)
    references := fun peer hpeer => by
      obtain ⟨hmem, hne⟩ := Table.mem_filter.mp hpeer
      obtain ⟨row, hrow⟩ := Option.isSome_iff_exists.mp (db.references peer hmem)
      obtain ⟨hrow, hid⟩ := Table.find_eq_some.mp hrow
      rw [Table.find_eq_some.mpr ⟨Table.mem_filter.mpr ⟨hrow, by simpa [hid] using hne⟩, hid⟩]
      rfl }

section Interfaces

variable {db db' : Db} {row row' : Interface}

/-- Rows of one name are one row. -/
theorem eq_of_name (h : row ∈ db.interfaces.rows) (h' : row' ∈ db.interfaces.rows)
    (hname : row.name = row'.name) : row = row' :=
  List.inj_on_of_nodup_map db.uniqueNames h h' hname

theorem eq_of_interface_id (h : row ∈ db.interfaces.rows) (h' : row' ∈ db.interfaces.rows)
    (hid : row.id = row'.id) : row = row' :=
  Table.eq_of_key h h' hid

/-- An insertion adds the row under a fresh identifier and a fresh name. -/
theorem insert_interface_ok (h : db.insertInterface row = .ok db') :
    (∀ row' ∈ db.interfaces.rows, row'.id ≠ row.id ∧ row'.name ≠ row.name) ∧
      (∀ row', row' ∈ db'.interfaces.rows ↔ row' ∈ db.interfaces.rows ∨ row' = row) ∧
      db'.peers = db.peers := by
  unfold insertInterface at h
  split at h
  · rename_i hid
    split at h
    · rename_i hname
      cases h
      refine ⟨fun row' hrow' => ⟨Table.find_eq_none.mp hid row' hrow', ?_⟩,
        fun row' => Table.mem_insert (h := hid), rfl⟩
      simpa using List.find?_eq_none.mp hname row' hrow'
    · cases h
  · cases h

/-- The rows after a row has been written: the one with its identifier, and the others. -/
theorem mem_update_interface {now : DateTime} :
    row' ∈ (db.updateInterface row now).interfaces.rows ↔
      (row' ∈ db.interfaces.rows ∧ row'.id ≠ row.id) ∨
      ∃ old ∈ db.interfaces.rows, old.id = row.id ∧
        row' = { row with name := old.name, createdAt := old.createdAt, updatedAt := now } := by
  simp only [updateInterface, Table.mem_modify, setInterface]
  constructor
  · rintro ⟨old, hold, rfl⟩
    split
    · rename_i hid
      exact .inr ⟨old, hold, hid, rfl⟩
    · rename_i hid
      exact .inl ⟨hold, hid⟩
  · rintro (⟨hrow', hid⟩ | ⟨old, hold, hid, rfl⟩)
    · exact ⟨row', hrow', if_neg hid⟩
    · exact ⟨old, hold, if_pos hid⟩

/-- Writing a row keeps the identifiers and the names. -/
theorem update_interface_source {now : DateTime}
    (h : row' ∈ (db.updateInterface row now).interfaces.rows) :
    ∃ old ∈ db.interfaces.rows, old.id = row'.id ∧ old.name = row'.name := by
  rcases mem_update_interface.mp h with ⟨hrow', _⟩ | ⟨old, hold, hid, rfl⟩
  · exact ⟨row', hrow', rfl, rfl⟩
  · exact ⟨old, hold, hid, rfl⟩

theorem mem_delete_interface {id : Id InterfaceMarker} :
    row' ∈ (db.deleteInterface id).interfaces.rows ↔
      row' ∈ db.interfaces.rows ∧ row'.id ≠ id := by
  simp [deleteInterface]

end Interfaces

/-- `INSERT INTO peers`. -/
def insertPeer (db : Db) (row : Peer) : Except String Db :=
  if hid : db.peers.find row.id = none then
    if href : (db.interfaces.find row.interfaceId).isSome then
      .ok { db with
        peers := db.peers.insert row hid
        references := fun peer hpeer => by
          rcases Table.mem_insert.mp hpeer with hpeer | rfl
          · exact db.references peer hpeer
          · exact href }
    else .error "FOREIGN KEY constraint failed"
  else .error "UNIQUE constraint failed: peers.id"

/-- The database with the given rows, but for those that a constraint forbids. -/
def filled (ifaces : List Interface) (peers : List Peer) : Db :=
  let withInterfaces := ifaces.foldl (fun db row => (db.insertInterface row).toOption.getD db) empty
  peers.foldl (fun db row => (db.insertPeer row).toOption.getD db) withInterfaces

/-- The row an `UPDATE peers` statement leaves: the preshared key, the traffic counter, the owner
and the creation time are not among the columns it sets. -/
def setPeer (row : Peer) (now : DateTime) (old : Peer) : Peer :=
  if old.id = row.id then
    { row with
      presharedKeySealed := old.presharedKeySealed
      bandwidthUsedBytes := old.bandwidthUsedBytes
      ownerUserId := old.ownerUserId
      createdAt := old.createdAt
      updatedAt := now }
  else old

@[simp] theorem set_peer_id (row : Peer) (now : DateTime) (old : Peer) :
    (setPeer row now old).id = old.id := by
  unfold setPeer
  split
  · exact Eq.symm ‹_›
  · rfl

/-- `UPDATE peers SET … WHERE id = ?`. -/
def updatePeer (db : Db) (row : Peer) (now : DateTime) : Except String Db :=
  if href : (db.peers.find row.id).isSome → (db.interfaces.find row.interfaceId).isSome then
    .ok { db with
      peers := db.peers.modify (setPeer row now) (set_peer_id row now)
      references := fun peer hpeer => by
        obtain ⟨old, hold, rfl⟩ := Table.mem_modify.mp hpeer
        unfold setPeer
        split
        · rename_i hid
          exact href (by rw [← hid, Table.find_of_mem hold]; rfl)
        · exact db.references old hold }
  else .error "FOREIGN KEY constraint failed"

/-- An update writes the row under its identifier and leaves the interfaces alone. -/
theorem update_peer_ok {db db' : Db} {row : Peer} {now : DateTime}
    (h : db.updatePeer row now = .ok db') :
    db'.peers.rows = db.peers.rows.map (setPeer row now) ∧ db'.interfaces = db.interfaces := by
  unfold updatePeer at h
  split at h
  · cases h
    exact ⟨rfl, rfl⟩
  · cases h

/-- An update finds the row it writes, and leaves the traffic alone. -/
theorem find_update_peer {db db' : Db} {row : Peer} {now : DateTime}
    (h : db.updatePeer row now = .ok db') :
    (∀ id, db'.peers.find id = (db.peers.find id).map (setPeer row now)) ∧
      db'.traffic = db.traffic := by
  unfold updatePeer at h
  split at h
  · cases h
    exact ⟨fun _ => Table.find_modify (h := set_peer_id row now), rfl⟩
  · cases h

/-- A row whose interface exists can be written. -/
theorem update_peer_exists {db : Db} {row : Peer}
    (h : (db.interfaces.find row.interfaceId).isSome) (now : DateTime) :
    ∃ db', db.updatePeer row now = .ok db' := by
  unfold updatePeer
  rw [dif_pos fun _ => h]
  exact ⟨_, rfl⟩

/-- The rows after a row has been written: the ones with other identifiers, and the written one. -/
theorem mem_update_peer {db db' : Db} {row old peer : Peer} {now : DateTime}
    (h : db.updatePeer row now = .ok db') (hold : old ∈ db.peers.rows) (hid : old.id = row.id) :
    peer ∈ db'.peers.rows ↔
      peer ∈ db.peers.rows ∧ peer.id ≠ row.id ∨ peer = setPeer row now old := by
  rw [(update_peer_ok h).1, List.mem_map]
  constructor
  · rintro ⟨before, hbefore, rfl⟩
    by_cases hsame : before.id = row.id
    · rw [Table.eq_of_key hbefore hold (hsame.trans hid.symm)]
      exact .inr rfl
    · rw [setPeer, if_neg hsame]
      exact .inl ⟨hbefore, hsame⟩
  · rintro (⟨hpeer, hne⟩ | rfl)
    · exact ⟨peer, hpeer, if_neg hne⟩
    · exact ⟨old, hold, rfl⟩

/-- An insertion adds the row under a fresh identifier and leaves the interfaces alone. -/
theorem insert_peer_ok {db db' : Db} {row : Peer} (h : db.insertPeer row = .ok db') :
    (∀ peer ∈ db.peers.rows, peer.id ≠ row.id) ∧ db'.peers.rows = db.peers.rows ++ [row] ∧
      db'.interfaces = db.interfaces := by
  unfold insertPeer at h
  split at h
  · rename_i hid
    split at h
    · cases h
      exact ⟨Table.find_eq_none.mp hid, rfl, rfl⟩
    · cases h
  · cases h

/-- `DELETE FROM peers WHERE id = ?`, which deletes the peer's traffic. -/
def deletePeer (db : Db) (id : Id PeerMarker) : Db :=
  { db with
    peers := db.peers.filter (·.id ≠ id)
    traffic := db.traffic.filter (·.peerId ≠ id)
    references := fun peer hpeer => db.references peer (Table.mem_filter.mp hpeer).1 }

/-- The row a write of the traffic counter leaves. -/
def setBandwidth (id : Id PeerMarker) (bytes : UInt64) (old : Peer) : Peer :=
  if old.id = id then { old with bandwidthUsedBytes := bytes } else old

@[simp] theorem set_bandwidth_id (id : Id PeerMarker) (bytes : UInt64) (old : Peer) :
    (setBandwidth id bytes old).id = old.id := by
  unfold setBandwidth
  split <;> rfl

@[simp] theorem set_bandwidth_interface_id (id : Id PeerMarker) (bytes : UInt64) (old : Peer) :
    (setBandwidth id bytes old).interfaceId = old.interfaceId := by
  unfold setBandwidth
  split <;> rfl

/-- `UPDATE peers SET bandwidth_used_bytes = ? WHERE id = ?`. -/
def recordBandwidth (db : Db) (id : Id PeerMarker) (bytes : UInt64) : Db :=
  { db with
    peers := db.peers.modify (setBandwidth id bytes) (set_bandwidth_id id bytes)
    references := fun peer hpeer => by
      obtain ⟨old, hold, rfl⟩ := Table.mem_modify.mp hpeer
      rw [set_bandwidth_interface_id]
      exact db.references old hold }

/-- `INSERT INTO traffic_snapshots`. -/
def insertSnapshot (db : Db) (row : TrafficSnapshot) : Except String Db :=
  if (db.peers.find row.peerId).isSome then .ok { db with traffic := db.traffic ++ [row] }
  else .error "FOREIGN KEY constraint failed"

end Db

/-! ## What the background tasks leave alone -/

/-- The row apart from what the background tasks change. -/
def Peer.core (peer : Peer) : Peer :=
  { peer with enabled := true, bandwidthUsedBytes := 0, updatedAt := ⟨0⟩ }

/-- The rows apart from what the background tasks change. -/
def Db.cores (db : Db) : List Peer :=
  db.peers.rows.map Peer.core

namespace Db

variable {db db' : Db} {peer : Peer}

/-- Writing a row back with no more than its status changed. -/
theorem cores_update {enabled : Bool} {now : DateTime} (hcore : peer.core ∈ db.cores)
    (h : db.updatePeer { peer with enabled } now = .ok db') : db'.cores = db.cores := by
  obtain ⟨current, hcurrent, hsame⟩ := List.mem_map.mp hcore
  rw [cores, (update_peer_ok h).1, List.map_map]
  refine List.map_congr_left fun old hold => ?_
  unfold Function.comp setPeer
  split
  · rename_i hid
    have heq : old = current := Table.eq_of_key hold hcurrent
      (hid.trans (congrArg Peer.id hsame).symm)
    subst heq
    simp only [Peer.core, Peer.mk.injEq] at hsame ⊢
    tauto
  · rfl

theorem cores_record {id : Id PeerMarker} {bytes : UInt64} :
    (db.recordBandwidth id bytes).cores = db.cores := by
  refine List.map_map.trans (List.map_congr_left fun old _ => ?_)
  unfold Function.comp setBandwidth
  split <;> rfl

/-- What the background tasks leave alone in every row. -/
theorem source_of_cores (h : db'.cores = db.cores) (hpeer : peer ∈ db'.peers.rows) :
    ∃ old ∈ db.peers.rows, old.id = peer.id ∧ old.interfaceId = peer.interfaceId ∧
      old.publicKey = peer.publicKey ∧ old.allowedIps = peer.allowedIps := by
  have hcore : peer.core ∈ db'.cores := List.mem_map_of_mem hpeer
  rw [h] at hcore
  obtain ⟨old, hold, heq⟩ := List.mem_map.mp hcore
  simp only [Peer.core, Peer.mk.injEq] at heq
  exact ⟨old, hold, by tauto⟩

theorem insert_snapshot_ok {row : TrafficSnapshot} (h : db.insertSnapshot row = .ok db') :
    db'.peers = db.peers ∧ db'.interfaces = db.interfaces := by
  unfold insertSnapshot at h
  split at h
  · cases h
    exact ⟨rfl, rfl⟩
  · cases h

end Db

/-! ## The kernel -/

/-- A WireGuard device. It is up once it has a configuration. -/
structure Device where
  config : Option InterfaceConfiguration
  peers : Key → Option WgPeer

/-- A device without configuration or peers. -/
def Device.fresh : Device := ⟨none, fun _ => none⟩

/-- The devices by name. -/
abbrev Devices := String → Option Device

/-- The peer table that configuring a list of peers leaves. -/
def peerTable (peers : List WgPeer) : Key → Option WgPeer :=
  peers.foldl (fun table peer => Function.update table peer.publicKey (some peer)) fun _ => none

namespace Devices

/-- Add a device, unless there is one of that name. -/
def create (devices : Devices) (name : String) : Devices :=
  Function.update devices name (some ((devices name).getD .fresh))

/-- Configure a device and replace its whole peer table. -/
def configure (devices : Devices) (config : InterfaceConfiguration) : Devices :=
  Function.update devices config.name (some ⟨some config, peerTable config.peers⟩)

/-- Remove a device. -/
def remove (devices : Devices) (name : String) : Devices :=
  Function.update devices name none

/-- Change the entry of a key on a device, if there is one of that name. -/
def setPeer (devices : Devices) (name : String) (key : Key) (entry : Option WgPeer) : Devices :=
  Function.update devices name ((devices name).map fun device =>
    { device with peers := Function.update device.peers key entry })

/-- There is a device of that name. -/
def has (devices : Devices) (name : String) : Bool :=
  (devices name).isSome

/-- The device is there and has a configuration. -/
def isUp (devices : Devices) (name : String) : Bool :=
  ((devices name).bind Device.config).isSome

variable (devices : Devices) (name other : String)

@[simp] theorem has_create :
    (devices.create name).has other = (decide (other = name) || devices.has other) := by
  unfold has create
  by_cases h : other = name <;> simp [h]

@[simp] theorem has_configure (config : InterfaceConfiguration) :
    (devices.configure config).has other = (decide (other = config.name) || devices.has other) := by
  unfold has configure
  by_cases h : other = config.name <;> simp [h]

@[simp] theorem has_remove :
    (devices.remove name).has other = (decide (other ≠ name) && devices.has other) := by
  unfold has remove
  by_cases h : other = name <;> simp [h]

@[simp] theorem is_up_create : (devices.create name).isUp other = devices.isUp other := by
  unfold isUp create
  by_cases h : other = name
  · subst h
    rw [Function.update_self]
    cases devices other <;> rfl
  · rw [Function.update_of_ne h]

@[simp] theorem is_up_configure (config : InterfaceConfiguration) :
    (devices.configure config).isUp other =
      (decide (other = config.name) || devices.isUp other) := by
  unfold isUp configure
  by_cases h : other = config.name <;> simp [h]

@[simp] theorem is_up_remove :
    (devices.remove name).isUp other = (decide (other ≠ name) && devices.isUp other) := by
  unfold isUp remove
  by_cases h : other = name <;> simp [h]

end Devices

/-- An `iptables` rule as the kernel holds it: its table, and its chain with the specification. -/
structure Entry where
  table : String
  spec : List String
  deriving DecidableEq, Repr

/-- The firewall and forwarding state, with the snapshots the adapter holds. -/
@[ext] structure NetState where
  tables : Family → List Entry
  forward : Family → Bool
  snapshots : String → Option ForwardSnapshot

/-- Replace one family's rules. -/
def NetState.setTable (net : NetState) (family : Family) (table : List Entry) : NetState :=
  { net with tables := Function.update net.tables family table }

/-- Switch one family's forwarding flag. -/
def NetState.setForward (net : NetState) (family : Family) (on : Bool) : NetState :=
  { net with forward := Function.update net.forward family on }

/-- The `-C`, `-I` and `-D` actions. -/
inductive Action where
  | check
  | insert
  | delete
  deriving DecidableEq

/-- The action and the entry that an argument list denotes. -/
def parseArgs : List String → Option (Action × Entry)
  | "-t" :: table :: "-C" :: spec => some (.check, ⟨table, spec⟩)
  | "-t" :: table :: "-I" :: spec => some (.insert, ⟨table, spec⟩)
  | "-t" :: table :: "-D" :: spec => some (.delete, ⟨table, spec⟩)
  | "-C" :: spec => some (.check, ⟨"filter", spec⟩)
  | "-I" :: spec => some (.insert, ⟨"filter", spec⟩)
  | "-D" :: spec => some (.delete, ⟨"filter", spec⟩)
  | _ => none

/-- Run one `iptables` command: whether it exits 0 and the rules it leaves. An insertion goes to
the front and a deletion takes the first match. -/
def iptables (args : List String) (rules : List Entry) : Bool × List Entry :=
  match parseArgs args with
  | some (.check, entry) => (entry ∈ rules, rules)
  | some (.insert, entry) => (true, entry :: rules)
  | some (.delete, entry) => (entry ∈ rules, rules.erase entry)
  | none => (false, rules)

/-! ## The world -/

/-- What the host shows during an operation: its network interfaces, the time, the next UUID and
key, and the counters of each device. -/
structure Env where
  links : List SysInterface
  now : DateTime
  uuid : Uuid
  key : Key
  counters : String → List HostPeer

/-- The state behind the calls. -/
structure World where
  db : Db
  devices : Devices
  net : NetState
  spawned : List (List String)
  env : Env

/-- A host on which nothing has been set up yet, with the given network interfaces. -/
def World.fresh (links : List String) : World where
  db := .empty
  devices _ := none
  net := ⟨fun _ => [], fun _ => false, fun _ => none⟩
  spawned := []
  env :=
    { links := links.map fun name => ⟨name, true, [], [], none, []⟩
      now := ⟨0⟩
      uuid := 0
      key := .zero
      counters _ := [] }

/-- Worlds that differ in equal firewalls are equal. -/
theorem World.with_net {w : World} {net net' : NetState} (h : net = net') :
    { w with net } = { w with net := net' } := by
  rw [h]

/-- The calls that fail and the texts they fail with, and the `iptables` processes and hooks that
exit with a failure although the kernel would accept them. -/
structure Plan where
  error : Sys → Option String
  exit : Sys → Bool

/-- Nothing fails. -/
def Plan.none : Plan := ⟨fun _ => .none, fun _ => true⟩

/-- The outcome of a call that has nothing but a value to return. -/
def Plan.outcome {α : Type} (plan : Plan) (call : Sys) (value : α) : Except String α :=
  match plan.error call with
  | some text => .error text
  | .none => .ok value

@[simp] theorem Plan.outcome_none {α : Type} (call : Sys) (value : α) :
    Plan.none.outcome call value = .ok value := rfl

/-- A call that may fail: it either returns the planned error or has its effect. -/
def Plan.run {α : Type} (plan : Plan) (call : Sys) (effect : World → Except String α × World)
    (w : World) : Except String α × World :=
  match plan.error call with
  | some text => (.error text, w)
  | .none => effect w

/-- A call that reads. -/
def Plan.read {α : Type} (plan : Plan) (call : Sys) (value : World → α) (w : World) :
    Except String α × World :=
  (plan.outcome call (value w), w)

/-- A statement that changes the database unless a constraint forbids it. -/
def Plan.write (plan : Plan) (call : Sys) (change : Db → Except String Db) :
    World → Except String Unit × World :=
  plan.run call fun w =>
    match change w.db with
    | .ok db => (.ok (), { w with db })
    | .error text => (.error text, w)

/-- A call that changes the devices. -/
def Plan.kernel (plan : Plan) (call : Sys) (change : Devices → Devices) :
    World → Except String Unit × World :=
  plan.run call fun w => (.ok (), { w with devices := change w.devices })

/-- The meaning of every call. -/
def handle (plan : Plan) : Handler Sys Sys.Reply World
  | .uuidV7, w => (w.env.uuid, w)
  | .utcNow, w => (w.env.now, w)
  | .findInterface id, w => plan.read (.findInterface id) (·.db.interfaces.find id) w
  | .findInterfaceByName name, w =>
      plan.read (.findInterfaceByName name) (·.db.findInterfaceByName name) w
  | .listInterfaces, w =>
      plan.read .listInterfaces (fun w => sortedBy Interface.name w.db.interfaces.rows) w
  | .insertInterface row, w => plan.write (.insertInterface row) (·.insertInterface row) w
  | .updateInterface row now, w =>
      plan.write (.updateInterface row now) (fun db => .ok (db.updateInterface row now)) w
  | .deleteInterface id, w =>
      plan.write (.deleteInterface id) (fun db => .ok (db.deleteInterface id)) w
  | .findPeer id, w => plan.read (.findPeer id) (·.db.peers.find id) w
  | .listPeersOf id, w => plan.read (.listPeersOf id) (·.db.peersOf id) w
  | .listPeers, w =>
      plan.read .listPeers (fun w => sortedBy Peer.createdAt w.db.peers.rows) w
  | .insertPeer row, w => plan.write (.insertPeer row) (·.insertPeer row) w
  | .updatePeer row now, w => plan.write (.updatePeer row now) (·.updatePeer row now) w
  | .deletePeer id, w => plan.write (.deletePeer id) (fun db => .ok (db.deletePeer id)) w
  | .recordBandwidth id bytes, w =>
      plan.write (.recordBandwidth id bytes) (fun db => .ok (db.recordBandwidth id bytes)) w
  | .insertSnapshot peerId tx rx lastHandshake now, w =>
      plan.write (.insertSnapshot peerId tx rx lastHandshake now)
        (·.insertSnapshot ⟨peerId, tx, rx, lastHandshake, now⟩) w
  | .generateKey, w => (w.env.key, w)
  | .openApi name, w => plan.read (.openApi name) (fun _ => ()) w
  | .createDevice name, w =>
      plan.kernel (.createDevice name) (·.create name) w
  | .configureDevice config, w =>
      plan.kernel (.configureDevice config) (·.configure config) w
  | .configurePeerRouting name peers, w =>
      plan.read (.configurePeerRouting name peers) (fun _ => ()) w
  | .removeDevice name, w =>
      plan.kernel (.removeDevice name) (·.remove name) w
  | .configurePeer name peer, w =>
      plan.kernel (.configurePeer name peer) (·.setPeer name peer.publicKey (some peer)) w
  | .removePeer name key, w =>
      plan.kernel (.removePeer name key) (·.setPeer name key .none) w
  | .readDevice name, w => plan.read (.readDevice name) (·.env.counters name) w
  | .runIpt family args, w =>
      plan.run (.runIpt family args) (fun w =>
        if plan.exit (.runIpt family args) then
          let (exit, rules) := iptables args (w.net.tables family)
          (.ok exit, { w with net := w.net.setTable family rules })
        else (.ok false, w)) w
  | .readForward family, w => plan.read (.readForward family) (·.net.forward family) w
  | .writeForward family on, w =>
      plan.run (.writeForward family on) (fun w =>
        (.ok (), { w with net := w.net.setForward family on })) w
  | .rememberForward name snapshot, w =>
      ((), { w with net := { w.net with
        snapshots := Function.update w.net.snapshots name (some snapshot) } })
  | .takeForward name, w =>
      (w.net.snapshots name, { w with net := { w.net with
        snapshots := Function.update w.net.snapshots name .none } })
  | .spawn command args, w =>
      plan.run (.spawn command args) (fun w =>
        (.ok (plan.exit (.spawn command args)),
          { w with spawned := w.spawned ++ [command :: args] })) w
  | .listLinks, w => plan.read .listLinks (·.env.links) w

end Wireforge
