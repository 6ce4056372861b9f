import Wireforge.Infra.RowsSpec
import Wireforge.Lib.Json

/-!
# Lookups after statements

What a lookup decodes after a creation or a save. The stored rows represent the tables of the
database model, and the two statements are its insertion and its modification.
`rows_round_trip` is the law of the four statements.
-/

namespace Wireforge

open Sql

/-- The texts of different identifiers are different values. -/
theorem display_value_injective {Marker : Type} :
    Function.Injective fun id : Id Marker => Value.text id.display := by
  intro id id' h
  injection h with h
  exact Id.display_injective h

/-- An identifier is the one that its text is read back as. -/
theorem RowCrates.ReadsId.eq {crates : RowCrates} {Marker : Type} {id id' : Id Marker}
    (h : crates.ReadsId id) (hparse : crates.parseUuid id.display = .ok id'.value) : id' = id := by
  have hvalue : id.value = id'.value := Except.ok.inj (Eq.trans (Eq.symm h) hparse)
  cases id
  cases id'
  exact congrArg Id.mk hvalue.symm

namespace Persistence.Peers

variable {crates : RowCrates} {check : Rows → Option String} {rows rows' : Rows} {peer old : Peer}
  {now : DateTime} {id : Uuid} {new : NewPeer} {psk : Option ByteArray}

/-- What an insertion that has succeeded returns. -/
theorem create_ok (h : create crates check id now new psk rows = .ok (peer, rows')) :
    peer = SqlitePeerRepository.newRow id now new psk ∧
      Relation.insert check insert (insertBinds crates id now new psk) rows = .ok rows' := by
  obtain ⟨_, hinsert, hpair⟩ := Outcome.bind_ok.mp h
  cases hpair
  exact ⟨rfl, Outcome.map_error_ok.mp hinsert⟩

/-- A creation succeeds exactly if the identifier is free and the rows with the new one are
accepted. -/
theorem create_succeeds_iff :
    (∃ rows', create crates check id now new psk rows =
        .ok (SqlitePeerRepository.newRow id now new psk, rows')) ↔
      findById crates ⟨id⟩ rows = .ok none ∧
        Relation.Accepts check
          (rows.rows ++ [insert.newRow (insertBinds crates id now new psk)]) := by
  have hnull : insert.newRow (insertBinds crates id now new psk) .id ≠ .null :=
    Value.text_ne_null _
  have hfree : findById crates ⟨id⟩ rows = .ok none ↔
      rows.select (insert.newRow (insertBinds crates id now new psk) .id) = none :=
    Relation.select_map_none
  rw [hfree, ← Relation.insert_succeeds_iff hnull]
  constructor
  · rintro ⟨rows', h⟩
    exact ⟨rows', (create_ok h).2⟩
  · rintro ⟨rows', hinsert⟩
    refine ⟨rows', ?_⟩
    rw [create, hinsert]
    rfl

/-- A save succeeds exactly if the rows with the rewritten one are accepted. -/
theorem save_succeeds_iff :
    (∃ rows', save crates check now peer rows = .ok rows') ↔
      Relation.Accepts check (rows.rows.map (update.apply .id (updateBinds crates now peer))) :=
  (exists_congr fun _ => Outcome.map_error_ok).trans Relation.update_succeeds_iff

/-- A peer that has been created is found as it was returned. -/
theorem find_created (h : create crates check id now new psk rows = .ok (peer, rows'))
    (hreads : ReadsBack crates peer) (howner : ∀ owner ∈ new.ownerUserId, crates.ReadsId owner)
    (hnow : crates.ReadsTime now) : findById crates peer.id rows' = .ok (some peer) := by
  obtain ⟨rfl, hinsert⟩ := create_ok h
  refine Relation.select_map_ok.mpr
    ⟨insert.newRow (insertBinds crates id now new psk), ?_,
      decode_of_shows (insert_shows hreads howner hnow)⟩
  rw [(Relation.select_insert hinsert (Value.text_ne_null _)).1]
  exact if_pos rfl

/-- A peer that has been saved is found with the columns that the update does not set as before. -/
theorem find_saved (h : save crates check now peer rows = .ok rows')
    (hold : findById crates peer.id rows = .ok (some old)) (hreads : ReadsBack crates peer)
    (hnow : crates.ReadsTime now) :
    findById crates peer.id rows' = .ok (some { peer with
      presharedKeySealed := old.presharedKeySealed
      bandwidthUsedBytes := old.bandwidthUsedBytes
      ownerUserId := old.ownerUserId
      createdAt := old.createdAt
      updatedAt := now }) := by
  obtain ⟨row, hrow, hdecode⟩ := Relation.select_map_ok.mp hold
  refine Relation.select_map_ok.mpr
    ⟨update.apply .id (updateBinds crates now peer) row, ?_,
      decode_of_shows (update_shows (shows_of_decode hdecode) (Relation.select_key hrow).1 hreads
        hnow)⟩
  rw [Relation.select_update (Outcome.map_error_ok.mp h), hrow]
  rfl

/-- The stored rows are the peers of a table. -/
abbrev Represents (crates : RowCrates) (rows : Rows) (table : Table Peer.id) : Prop :=
  Relation.Represents (decode crates) (fun id => .text id.display) rows table

/-- A creation inserts the peer into the table. -/
theorem represents_created {table : Table Peer.id} (hrows : Represents crates rows table)
    (h : create crates check id now new psk rows = .ok (peer, rows'))
    (hreads : ReadsBack crates peer) (howner : ∀ owner ∈ new.ownerUserId, crates.ReadsId owner)
    (hnow : crates.ReadsTime now) :
    ∃ hnone, Represents crates rows' (table.insert peer hnone) := by
  obtain ⟨rfl, hinsert⟩ := create_ok h
  exact hrows.insert (fun _ => Value.text_ne_null _) display_value_injective hinsert rfl
    (decode_of_shows (insert_shows hreads howner hnow))

/-- A save modifies the peer in the table. -/
theorem represents_saved {table : Table Peer.id} (hrows : Represents crates rows table)
    (h : save crates check now peer rows = .ok rows') (hreads : ReadsBack crates peer)
    (hnow : crates.ReadsTime now) :
    Represents crates rows' (table.modify (Db.setPeer peer now) (Db.set_peer_id peer now)) := by
  refine hrows.update display_value_injective (Outcome.map_error_ok.mp h) rfl
    (fun other hother => if_neg hother) fun row old hkey hdecode => ?_
  have hold := shows_of_decode hdecode
  obtain ⟨text, htext, hparse⟩ := hold.id
  obtain rfl : text = peer.id.display := by
    rw [hkey] at htext
    injection htext with htext
    exact htext.symm
  rw [Db.setPeer, if_pos (hreads.id.eq hparse)]
  exact decode_of_shows (update_shows hold hkey hreads hnow)

/-- Recording a counter sets it in the table, although the column is signed. -/
theorem represents_recorded {table : Table Peer.id} (hrows : Represents crates rows table)
    {id : Id PeerMarker} {bytes : UInt64} (h : recordBandwidth check id bytes rows = .ok rows')
    (hreads : crates.ReadsId id) :
    Represents crates rows' (table.modify (Db.setBandwidth id bytes)
      (Db.set_bandwidth_id id bytes)) := by
  refine hrows.update display_value_injective (Outcome.map_error_ok.mp h) rfl
    (fun other hother => if_neg hother) fun row old hkey hdecode => ?_
  have hold := shows_of_decode hdecode
  obtain ⟨text, htext, hparse⟩ := hold.id
  obtain rfl : text = id.display := by
    rw [hkey] at htext
    injection htext with htext
    exact htext.symm
  rw [Db.setBandwidth, if_pos (hreads.eq hparse)]
  exact decode_of_shows (record_shows hold hkey bytes)

end Persistence.Peers

namespace Persistence.Interfaces

variable {crates : RowCrates} {check : Rows → Option String} {rows rows' : Rows}
  {iface old : Interface} {now : DateTime} {id : Uuid} {new : NewInterface} {sealed : ByteArray}

/-- What an insertion that has succeeded returns. -/
theorem create_ok (h : create crates check id now new sealed rows = .ok (iface, rows')) :
    iface = SqliteInterfaceRepository.newRow id now new sealed ∧
      Relation.insert check insert (insertBinds crates id now new sealed) rows = .ok rows' := by
  obtain ⟨_, hinsert, hpair⟩ := Outcome.bind_ok.mp h
  cases hpair
  exact ⟨rfl, Outcome.map_error_ok.mp hinsert⟩

/-- A creation succeeds exactly if the identifier is free and the rows with the new one are
accepted. -/
theorem create_succeeds_iff :
    (∃ rows', create crates check id now new sealed rows =
        .ok (SqliteInterfaceRepository.newRow id now new sealed, rows')) ↔
      findById crates ⟨id⟩ rows = .ok none ∧
        Relation.Accepts check
          (rows.rows ++ [insert.newRow (insertBinds crates id now new sealed)]) := by
  have hnull : insert.newRow (insertBinds crates id now new sealed) .id ≠ .null :=
    Value.text_ne_null _
  have hfree : findById crates ⟨id⟩ rows = .ok none ↔
      rows.select (insert.newRow (insertBinds crates id now new sealed) .id) = none :=
    Relation.select_map_none
  rw [hfree, ← Relation.insert_succeeds_iff hnull]
  constructor
  · rintro ⟨rows', h⟩
    exact ⟨rows', (create_ok h).2⟩
  · rintro ⟨rows', hinsert⟩
    refine ⟨rows', ?_⟩
    rw [create, hinsert]
    rfl

/-- A save succeeds exactly if the rows with the rewritten one are accepted. -/
theorem save_succeeds_iff :
    (∃ rows', save crates check now iface rows = .ok rows') ↔
      Relation.Accepts check (rows.rows.map (update.apply .id (updateBinds crates now iface))) :=
  (exists_congr fun _ => Outcome.map_error_ok).trans Relation.update_succeeds_iff

/-- An interface that has been created is found as it was returned. -/
theorem find_created (h : create crates check id now new sealed rows = .ok (iface, rows'))
    (hreads : ReadsBack crates iface) (hnow : crates.ReadsTime now) :
    findById crates iface.id rows' = .ok (some iface) := by
  obtain ⟨rfl, hinsert⟩ := create_ok h
  refine Relation.select_map_ok.mpr
    ⟨insert.newRow (insertBinds crates id now new sealed), ?_,
      decode_of_shows (insert_shows hreads hnow)⟩
  rw [(Relation.select_insert hinsert (Value.text_ne_null _)).1]
  exact if_pos rfl

/-- An interface that has been saved is found with the columns that the update does not set as
before. -/
theorem find_saved (h : save crates check now iface rows = .ok rows')
    (hold : findById crates iface.id rows = .ok (some old)) (hreads : ReadsBack crates iface)
    (hnow : crates.ReadsTime now) :
    findById crates iface.id rows' = .ok (some { iface with
      name := old.name
      createdAt := old.createdAt
      updatedAt := now }) := by
  obtain ⟨row, hrow, hdecode⟩ := Relation.select_map_ok.mp hold
  refine Relation.select_map_ok.mpr
    ⟨update.apply .id (updateBinds crates now iface) row, ?_,
      decode_of_shows (update_shows (shows_of_decode hdecode) (Relation.select_key hrow).1 hreads
        hnow)⟩
  rw [Relation.select_update (Outcome.map_error_ok.mp h), hrow]
  rfl

/-- The stored rows are the interfaces of a table. -/
abbrev Represents (crates : RowCrates) (rows : Rows) (table : Table Interface.id) : Prop :=
  Relation.Represents (decode crates) (fun id => .text id.display) rows table

/-- A creation inserts the interface into the table. -/
theorem represents_created {table : Table Interface.id} (hrows : Represents crates rows table)
    (h : create crates check id now new sealed rows = .ok (iface, rows'))
    (hreads : ReadsBack crates iface) (hnow : crates.ReadsTime now) :
    ∃ hnone, Represents crates rows' (table.insert iface hnone) := by
  obtain ⟨rfl, hinsert⟩ := create_ok h
  exact hrows.insert (fun _ => Value.text_ne_null _) display_value_injective hinsert rfl
    (decode_of_shows (insert_shows hreads hnow))

/-- A save modifies the interface in the table. -/
theorem represents_saved {table : Table Interface.id} (hrows : Represents crates rows table)
    (h : save crates check now iface rows = .ok rows') (hreads : ReadsBack crates iface)
    (hnow : crates.ReadsTime now) :
    Represents crates rows'
      (table.modify (Db.setInterface iface now) (Db.set_interface_id iface now)) := by
  refine hrows.update display_value_injective (Outcome.map_error_ok.mp h) rfl
    (fun other hother => if_neg hother) fun row old hkey hdecode => ?_
  have hold := shows_of_decode hdecode
  obtain ⟨text, htext, hparse⟩ := hold.id
  obtain rfl : text = iface.id.display := by
    rw [hkey] at htext
    injection htext with htext
    exact htext.symm
  rw [Db.setInterface, if_pos (hreads.id.eq hparse)]
  exact decode_of_shows (update_shows hold hkey hreads hnow)

end Persistence.Interfaces

/-- A creation under a free identifier and a save succeed exactly if the schema accepts the rows
that they leave. What a creation returns is what is found under its identifier then, and what a
save leaves is the saved value, with the columns that the update does not set as they were and the
time of the save: for peers and for interfaces, whatever their fields are. -/
theorem rows_round_trip (crates : RowCrates) (now : DateTime) (hnow : crates.ReadsTime now) :
    (∀ (check : Persistence.Peers.Rows → Option String) (rows : Persistence.Peers.Rows) (id : Uuid)
        (new : NewPeer) (psk : Option ByteArray),
      (∃ rows', Persistence.Peers.create crates check id now new psk rows =
          .ok (SqlitePeerRepository.newRow id now new psk, rows')) ↔
        Persistence.Peers.findById crates ⟨id⟩ rows = .ok none ∧
          Relation.Accepts check (rows.rows ++ [Persistence.Peers.insert.newRow
            (Persistence.Peers.insertBinds crates id now new psk)])) ∧
    (∀ (check : Persistence.Peers.Rows → Option String) (rows rows' : Persistence.Peers.Rows)
        (id : Uuid) (new : NewPeer) (psk : Option ByteArray) (peer : Peer),
      Persistence.Peers.ReadsBack crates (SqlitePeerRepository.newRow id now new psk) →
      (∀ owner ∈ new.ownerUserId, crates.ReadsId owner) →
      Persistence.Peers.create crates check id now new psk rows = .ok (peer, rows') →
      Persistence.Peers.findById crates peer.id rows' = .ok (some peer)) ∧
    (∀ (check : Persistence.Peers.Rows → Option String) (rows : Persistence.Peers.Rows)
        (peer : Peer),
      (∃ rows', Persistence.Peers.save crates check now peer rows = .ok rows') ↔
        Relation.Accepts check (rows.rows.map (Persistence.Peers.update.apply .id
          (Persistence.Peers.updateBinds crates now peer)))) ∧
    (∀ (check : Persistence.Peers.Rows → Option String) (rows rows' : Persistence.Peers.Rows)
        (peer old : Peer),
      Persistence.Peers.ReadsBack crates peer →
      Persistence.Peers.findById crates peer.id rows = .ok (some old) →
      Persistence.Peers.save crates check now peer rows = .ok rows' →
      Persistence.Peers.findById crates peer.id rows' = .ok (some { peer with
        presharedKeySealed := old.presharedKeySealed
        bandwidthUsedBytes := old.bandwidthUsedBytes
        ownerUserId := old.ownerUserId
        createdAt := old.createdAt
        updatedAt := now })) ∧
    (∀ (check : Persistence.Interfaces.Rows → Option String) (rows : Persistence.Interfaces.Rows)
        (id : Uuid) (new : NewInterface) (sealed : ByteArray),
      (∃ rows', Persistence.Interfaces.create crates check id now new sealed rows =
          .ok (SqliteInterfaceRepository.newRow id now new sealed, rows')) ↔
        Persistence.Interfaces.findById crates ⟨id⟩ rows = .ok none ∧
          Relation.Accepts check (rows.rows ++ [Persistence.Interfaces.insert.newRow
            (Persistence.Interfaces.insertBinds crates id now new sealed)])) ∧
    (∀ (check : Persistence.Interfaces.Rows → Option String)
        (rows rows' : Persistence.Interfaces.Rows) (id : Uuid) (new : NewInterface)
        (sealed : ByteArray) (iface : Interface),
      Persistence.Interfaces.ReadsBack crates
        (SqliteInterfaceRepository.newRow id now new sealed) →
      Persistence.Interfaces.create crates check id now new sealed rows = .ok (iface, rows') →
      Persistence.Interfaces.findById crates iface.id rows' = .ok (some iface)) ∧
    (∀ (check : Persistence.Interfaces.Rows → Option String) (rows : Persistence.Interfaces.Rows)
        (iface : Interface),
      (∃ rows', Persistence.Interfaces.save crates check now iface rows = .ok rows') ↔
        Relation.Accepts check (rows.rows.map (Persistence.Interfaces.update.apply .id
          (Persistence.Interfaces.updateBinds crates now iface)))) ∧
    (∀ (check : Persistence.Interfaces.Rows → Option String)
        (rows rows' : Persistence.Interfaces.Rows) (iface old : Interface),
      Persistence.Interfaces.ReadsBack crates iface →
      Persistence.Interfaces.findById crates iface.id rows = .ok (some old) →
      Persistence.Interfaces.save crates check now iface rows = .ok rows' →
      Persistence.Interfaces.findById crates iface.id rows' = .ok (some { iface with
        name := old.name
        createdAt := old.createdAt
        updatedAt := now })) := by
  refine ⟨fun _ _ _ _ _ => Persistence.Peers.create_succeeds_iff, ?_,
    fun _ _ _ => Persistence.Peers.save_succeeds_iff, ?_,
    fun _ _ _ _ _ => Persistence.Interfaces.create_succeeds_iff, ?_,
    fun _ _ _ => Persistence.Interfaces.save_succeeds_iff, ?_⟩
  · intro check rows rows' id new psk peer hreads howner h
    obtain ⟨rfl, -⟩ := Persistence.Peers.create_ok h
    exact Persistence.Peers.find_created h hreads howner hnow
  · intro check rows rows' peer old hreads hold h
    exact Persistence.Peers.find_saved h hold hreads hnow
  · intro check rows rows' id new sealed iface hreads h
    obtain ⟨rfl, -⟩ := Persistence.Interfaces.create_ok h
    exact Persistence.Interfaces.find_created h hreads hnow
  · intro check rows rows' iface old hreads hold h
    exact Persistence.Interfaces.find_saved h hold hreads hnow

/-- Libraries that print every time as the epoch and read back what they print for one host of the
lab and one name server. -/
def RowCrates.lab : RowCrates where
  printTime _ := "1970-01-01T00:00:00+00:00"
  readTime value :=
    if value = .text "1970-01-01T00:00:00+00:00" then .ok ⟨0⟩ else .error "invalid datetime"
  toJson texts := .ok ("[" ++ ",".intercalate (texts.map Json.quote) ++ "]")
  fromJson text :=
    if text = "[\"10.7.0.5/24\"]" then .ok ["10.7.0.5/24"]
    else if text = "[\"1.1.1.1\"]" then .ok ["1.1.1.1"]
    else .error "expected value"
  parseUuid text :=
    if text = "00000000-0000-0000-0000-000000000000" then .ok 0 else .error "invalid character"
  parseIpNet text :=
    if text = "10.7.0.5/24" then .ok (.labHost 5) else .error "invalid IP address syntax"
  mismatchedTypes _ := "mismatched types"

/-- A peer with host bits in its network and the largest quota. -/
def NewPeer.lab : NewPeer where
  interfaceId := ⟨0⟩
  name := "phone"
  publicKey := ⟨.ofKey .zero⟩
  allowedIps := [.labHost 5]
  primaryDns := none
  secondaryDns := none
  nat := true
  endpoint := none
  persistentKeepalive := some 25
  bandwidthQuotaBytes := some 18446744073709551615
  expiresAt := some ⟨0⟩
  ownerUserId := none
  privateKeySealed := none

/-- An interface with a name server and an address. -/
def NewInterface.lab : NewInterface where
  name := "wg0"
  privateKey := ⟨.ofKey .zero⟩
  publicKey := ⟨.ofKey .zero⟩
  listenPort := 51820
  endpoint := none
  gateway := some "eth0"
  ipv4Cidr := some (.labHost 5)
  ipv6Cidr := none
  mtu := some 1420
  dns := ["1.1.1.1"]
  onUp := none
  onDown := none

/-- The libraries of the lab read back its peers. -/
theorem Persistence.Peers.lab_reads_back {peer : Peer} (hid : peer.id = ⟨0⟩)
    (hinterface : peer.interfaceId = ⟨0⟩) (hnets : peer.allowedIps = [.labHost 5])
    (hexpires : peer.expiresAt = some ⟨0⟩) : ReadsBack .lab peer where
  id := hid ▸ rfl
  interfaceId := hinterface ▸ rfl
  nets net hnet := by
    rw [hnets] at hnet
    exact List.mem_singleton.mp hnet ▸ rfl
  list := by
    rw [hnets]
    exact ⟨_, rfl, rfl⟩
  expiresAt t ht := by
    rw [hexpires] at ht
    exact Option.some.inj ht ▸ rfl

/-- The libraries of the lab read back its interfaces. -/
theorem Persistence.Interfaces.lab_reads_back {iface : Interface} (hid : iface.id = ⟨0⟩)
    (hipv4 : iface.ipv4Cidr = some (.labHost 5)) (hipv6 : iface.ipv6Cidr = none)
    (hdns : iface.dns = ["1.1.1.1"]) : ReadsBack .lab iface where
  id := hid ▸ rfl
  ipv4Cidr net hnet := by
    rw [hipv4] at hnet
    exact Option.some.inj hnet ▸ rfl
  ipv6Cidr net hnet := by
    rw [hipv6] at hnet
    cases hnet
  dns := by
    rw [hdns]
    exact ⟨_, rfl, rfl⟩

/-- The peer of the lab once it has been created. -/
def Peer.lab : Peer := SqlitePeerRepository.newRow 0 ⟨0⟩ .lab none

/-- The interface of the lab once it has been created. -/
def Interface.lab : Interface := SqliteInterfaceRepository.newRow 0 ⟨0⟩ .lab .empty

/-- The counter that is saved with a new name of the peer is not stored, nor is the name of the
interface that is saved as up. -/
theorem rows_round_trip_lab :
    (∃ rows rows',
      Persistence.Peers.create .lab (fun _ => none) 0 ⟨0⟩ .lab none .empty = .ok (.lab, rows) ∧
      Persistence.Peers.findById .lab ⟨0⟩ rows = .ok (some .lab) ∧
      Persistence.Peers.save .lab (fun _ => none) ⟨0⟩
        { Peer.lab with name := "tablet", bandwidthUsedBytes := 7 } rows = .ok rows' ∧
      Persistence.Peers.findById .lab ⟨0⟩ rows' = .ok (some { Peer.lab with name := "tablet" })) ∧
    ∃ rows rows',
      Persistence.Interfaces.create .lab (fun _ => none) 0 ⟨0⟩ .lab .empty .empty =
        .ok (.lab, rows) ∧
      Persistence.Interfaces.findById .lab ⟨0⟩ rows = .ok (some .lab) ∧
      Persistence.Interfaces.save .lab (fun _ => none) ⟨0⟩
        { Interface.lab with name := "wg1", status := .up } rows = .ok rows' ∧
      Persistence.Interfaces.findById .lab ⟨0⟩ rows' =
        .ok (some { Interface.lab with status := .up }) := by
  obtain ⟨hpeerCreated, hpeerFound, hpeerSaved, hpeerKept, hcreated, hfound, hsaved, hkept⟩ :=
    rows_round_trip .lab ⟨0⟩ rfl
  constructor
  · let edited : Peer := { Peer.lab with name := "tablet", bandwidthUsedBytes := 7 }
    obtain ⟨rows, hcreate⟩ := (hpeerCreated (fun _ => none) .empty 0 .lab none).mpr
      ⟨rfl, fun _ _ => rfl⟩
    obtain ⟨rows', hsave⟩ := (hpeerSaved (fun _ => none) rows edited).mpr fun _ _ => rfl
    have hfind := hpeerFound (fun _ => none) .empty rows 0 .lab none .lab
      (Persistence.Peers.lab_reads_back rfl rfl rfl rfl) nofun hcreate
    have hkeep := hpeerKept (fun _ => none) rows rows' edited .lab
      (Persistence.Peers.lab_reads_back rfl rfl rfl rfl) hfind hsave
    exact ⟨rows, rows', hcreate, hfind, hsave, hkeep⟩
  · let edited : Interface := { Interface.lab with name := "wg1", status := .up }
    obtain ⟨rows, hcreate⟩ := (hcreated (fun _ => none) .empty 0 .lab .empty).mpr
      ⟨rfl, fun _ _ => rfl⟩
    obtain ⟨rows', hsave⟩ := (hsaved (fun _ => none) rows edited).mpr fun _ _ => rfl
    have hfind := hfound (fun _ => none) .empty rows 0 .lab .empty .lab
      (Persistence.Interfaces.lab_reads_back rfl rfl rfl rfl) hcreate
    have hkeep := hkept (fun _ => none) rows rows' edited .lab
      (Persistence.Interfaces.lab_reads_back rfl rfl rfl rfl) hfind hsave
    exact ⟨rows, rows', hcreate, hfind, hsave, hkeep⟩

end Wireforge
