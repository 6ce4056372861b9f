import Wireforge.Infra.Rows

/-!
# What is stored is read back

`Peers.Shows` and `Interfaces.Shows` say column by column which entity a row stands for. A row is
decoded into an entity exactly when it shows it (`decode_ok`). The insertion leaves a row that shows
the new entity, and the update leaves one that shows the entity with the columns that it does not
set as they were, provided that the libraries read back the texts that they have printed for it.
-/

namespace Wireforge

open Sql

namespace RowCrates

variable {crates : RowCrates} {value : Value}

/-! ## Columns -/

@[simp] theorem string_ok {s : String} : crates.string value = .ok s ↔ value = .text s := by
  cases value <;> simp [string]

@[simp] theorem int_ok {n : Int64} : crates.int value = .ok n ↔ value = .integer n := by
  cases value <;> simp [int]

@[simp] theorem bytes_ok {b : ByteArray} : crates.bytes value = .ok b ↔ value = .blob b := by
  cases value <;> simp [bytes]

@[simp] theorem nullable_string_ok {x : Option String} :
    value.nullable crates.string = .ok x ↔ value = .ofOption .text x :=
  Value.nullable_ok string_ok fun _ h => by cases h

@[simp] theorem nullable_int_ok {x : Option Int64} :
    value.nullable crates.int = .ok x ↔ value = .ofOption .integer x :=
  Value.nullable_ok int_ok fun _ h => by cases h

@[simp] theorem nullable_bytes_ok {x : Option ByteArray} :
    value.nullable crates.bytes = .ok x ↔ value = .ofOption .blob x :=
  Value.nullable_ok bytes_ok fun _ h => by cases h

/-! ## Texts that are read back -/

variable (crates)

/-- The time is read back. -/
def ReadsTime (t : DateTime) : Prop :=
  crates.readTime (crates.bindTime t) = .ok t

/-- The list is read back. -/
def ReadsList (texts : List String) : Prop :=
  ∃ text, crates.toJson texts = .ok text ∧ crates.fromJson text = .ok texts

/-- The identifier is read back. -/
def ReadsId {Marker : Type} (id : Id Marker) : Prop :=
  crates.parseUuid id.display = .ok id.value

/-- The network is read back. -/
def ReadsNet (net : IpNet) : Prop :=
  crates.parseIpNet net.display = .ok net

variable {crates}

theorem read_list_text {texts : List String} (h : crates.ReadsList texts) :
    crates.readList (some (crates.listText texts)) = texts := by
  obtain ⟨text, hprint, hread⟩ := h
  simp [readList, listText, hprint, hread, Except.toOption]

/-- Networks are read back from the list of their texts. -/
theorem read_nets {nets : List IpNet} (hlist : crates.ReadsList (nets.map IpNet.display))
    (h : ∀ net ∈ nets, crates.ReadsNet net) :
    (crates.readList (some (crates.listText (nets.map IpNet.display)))).mapM crates.parseIpNet =
      .ok nets := by
  rw [read_list_text hlist]
  clear hlist
  induction nets with
  | nil => rfl
  | cons net rest ih =>
      have hnet : crates.parseIpNet net.display = .ok net := h net (.head _)
      rw [List.map_cons, List.mapM_cons, hnet, ih fun net' hmem => h net' (.tail _ hmem)]
      rfl

theorem read_time_option {t : Option DateTime} (h : ∀ time ∈ t, crates.ReadsTime time) :
    (Value.ofOption crates.bindTime t).nullable crates.readTime = .ok t :=
  Value.nullable_of_option (fun _ h => by cases h) h

end RowCrates

/-- A number of 16 bits survives the wider type. -/
theorem i64_as_u16_map (n : Option UInt16) : (n.map u16AsI64).map i64AsU16 = n := by
  cases n with
  | none => rfl
  | some n => simp [i64AsU16, u16AsI64]

/-- A number of 64 bits survives the signed type. -/
theorem to_u_int64_map (n : Option UInt64) : (n.map UInt64.toInt64).map Int64.toUInt64 = n := by
  cases n with
  | none => rfl
  | some n => rfl

/-- A flag is read back from its number. -/
theorem flag_read (b : Bool) : decide (b.toInt64 ≠ 0) = b := by
  cases b <;> rfl

namespace Persistence.Peers

variable {crates : RowCrates} {row : Row PeerColumn} {peer old : Peer} {now : DateTime}

/-- What the columns of a row say of a peer. -/
structure Shows (crates : RowCrates) (row : Row PeerColumn) (peer : Peer) : Prop where
  id : ∃ text, row .id = .text text ∧ crates.parseUuid text = .ok peer.id.value
  interfaceId : ∃ text, row .interfaceId = .text text ∧
    crates.parseUuid text = .ok peer.interfaceId.value
  name : row .name = .text peer.name
  publicKey : row .publicKey = .text peer.publicKey.asStr
  privateKeySealed : row .privateKeySealed = .ofOption .blob peer.privateKeySealed
  presharedKeySealed : row .presharedKeySealed = .ofOption .blob peer.presharedKeySealed
  allowedIps : ∃ text, row .allowedIps = .ofOption .text text ∧
    (crates.readList text).mapM crates.parseIpNet = .ok peer.allowedIps
  primaryDns : row .primaryDns = .ofOption .text peer.primaryDns
  secondaryDns : row .secondaryDns = .ofOption .text peer.secondaryDns
  nat : ∃ n, row .nat = .integer n ∧ decide (n ≠ 0) = peer.nat
  endpoint : row .endpoint = .ofOption .text peer.endpoint
  persistentKeepalive : ∃ n : Option Int64, row .persistentKeepalive = .ofOption .integer n ∧
    n.map i64AsU16 = peer.persistentKeepalive
  bandwidthQuotaBytes : ∃ n : Option Int64, row .bandwidthQuotaBytes = .ofOption .integer n ∧
    n.map Int64.toUInt64 = peer.bandwidthQuotaBytes
  bandwidthUsedBytes : ∃ n : Int64, row .bandwidthUsedBytes = .integer n ∧
    n.toUInt64 = peer.bandwidthUsedBytes
  expiresAt : (row .expiresAt).nullable crates.readTime = .ok peer.expiresAt
  schedule : row .schedule = .ofOption .text peer.schedule
  enabled : ∃ n, row .enabled = .integer n ∧ decide (n ≠ 0) = peer.enabled
  ownerUserId : ∃ text : Option String, row .ownerUserId = .ofOption .text text ∧
    text.mapM crates.parseUuid = .ok (peer.ownerUserId.map Id.value)
  createdAt : crates.readTime (row .createdAt) = .ok peer.createdAt
  updatedAt : crates.readTime (row .updatedAt) = .ok peer.updatedAt

/-- A row that is decoded shows the peer. -/
theorem shows_of_decode (h : decode crates row = .ok peer) : Shows crates row peer := by
  simp only [decode, PeerRow.fromRow, Outcome.bind_ok, Outcome.map_error_ok,
    RowCrates.nullable_string_ok, RowCrates.nullable_int_ok, RowCrates.nullable_bytes_ok,
    RowCrates.string_ok, RowCrates.int_ok] at h
  obtain ⟨_, ⟨_, hid, _, hinterface, _, hname, _, hkey, _, hprivate, _, hpsk, _, hips, _, hprimary,
    _, hsecondary, _, hnat, _, hendpoint, _, hkeepalive, _, hquota, _, hused, _, hexpires, _,
    hschedule, _, henabled, _, howner, _, hcreated, _, hupdated, hrow⟩, hpeer⟩ := h
  cases hrow
  simp only [PeerRow.intoDomain, Outcome.bind_ok, Outcome.map_error_ok] at hpeer
  obtain ⟨_, hnets, owner, howner', _, hid', _, hinterface', _, hkey', hpeer⟩ := hpeer
  cases hpeer
  exact {
    id := ⟨_, hid, hid'⟩
    interfaceId := ⟨_, hinterface, hinterface'⟩
    name := hname
    publicKey := by rw [hkey, WgPublicKey.from_base64_ok.mp hkey']
    privateKeySealed := hprivate
    presharedKeySealed := hpsk
    allowedIps := ⟨_, hips, hnets⟩
    primaryDns := hprimary
    secondaryDns := hsecondary
    nat := ⟨_, hnat, rfl⟩
    endpoint := hendpoint
    persistentKeepalive := ⟨_, hkeepalive, rfl⟩
    bandwidthQuotaBytes := ⟨_, hquota, rfl⟩
    bandwidthUsedBytes := ⟨_, hused, rfl⟩
    expiresAt := hexpires
    schedule := hschedule
    enabled := ⟨_, henabled, rfl⟩
    ownerUserId := ⟨_, howner, by rw [howner']; cases owner <;> rfl⟩
    createdAt := hcreated
    updatedAt := hupdated }

/-- A row that shows a peer is decoded into it. -/
theorem decode_of_shows (h : Shows crates row peer) : decode crates row = .ok peer := by
  obtain ⟨_, hid, hid'⟩ := h.id
  obtain ⟨_, hinterface, hinterface'⟩ := h.interfaceId
  obtain ⟨_, hips, hnets⟩ := h.allowedIps
  obtain ⟨_, hnat, hnat'⟩ := h.nat
  obtain ⟨_, hkeepalive, hkeepalive'⟩ := h.persistentKeepalive
  obtain ⟨_, hquota, hquota'⟩ := h.bandwidthQuotaBytes
  obtain ⟨_, hused, hused'⟩ := h.bandwidthUsedBytes
  obtain ⟨_, henabled, henabled'⟩ := h.enabled
  obtain ⟨_, howner, howner'⟩ := h.ownerUserId
  have hmarked : (peer.ownerUserId.map Id.value).map Id.mk = peer.ownerUserId := by
    cases peer.ownerUserId <;> rfl
  simp only [decode, PeerRow.fromRow, Outcome.bind_ok, Outcome.map_error_ok,
    RowCrates.nullable_string_ok, RowCrates.nullable_int_ok, RowCrates.nullable_bytes_ok,
    RowCrates.string_ok, RowCrates.int_ok]
  refine ⟨_, ⟨_, hid, _, hinterface, _, h.name, _, h.publicKey, _, h.privateKeySealed, _,
    h.presharedKeySealed, _, hips, _, h.primaryDns, _, h.secondaryDns, _, hnat, _, h.endpoint, _,
    hkeepalive, _, hquota, _, hused, _, h.expiresAt, _, h.schedule, _, henabled, _, howner, _,
    h.createdAt, _, h.updatedAt, rfl⟩, ?_⟩
  simp only [PeerRow.intoDomain, Outcome.bind_ok, Outcome.map_error_ok]
  refine ⟨_, hnets, _, howner', _, hid', _, hinterface', _, WgPublicKey.from_base64_as_str _, ?_⟩
  rw [hnat', hkeepalive', hquota', hused', henabled', hmarked]
  rfl

/-- The libraries read back what they print for the columns that both statements write. -/
structure ReadsBack (crates : RowCrates) (peer : Peer) : Prop where
  id : crates.ReadsId peer.id
  interfaceId : crates.ReadsId peer.interfaceId
  nets : ∀ net ∈ peer.allowedIps, crates.ReadsNet net
  list : crates.ReadsList (peer.allowedIps.map IpNet.display)
  expiresAt : ∀ t ∈ peer.expiresAt, crates.ReadsTime t

/-- The inserted row shows the new peer. -/
theorem insert_shows {id : Uuid} {new : NewPeer} {psk : Option ByteArray}
    (h : ReadsBack crates (SqlitePeerRepository.newRow id now new psk))
    (howner : ∀ owner ∈ new.ownerUserId, crates.ReadsId owner) (hnow : crates.ReadsTime now) :
    Shows crates (insert.newRow (insertBinds crates id now new psk))
      (SqlitePeerRepository.newRow id now new psk) where
  id := ⟨_, rfl, h.id⟩
  interfaceId := ⟨_, rfl, h.interfaceId⟩
  name := rfl
  publicKey := rfl
  privateKeySealed := rfl
  presharedKeySealed := rfl
  allowedIps := ⟨some _, rfl, RowCrates.read_nets h.list h.nets⟩
  primaryDns := rfl
  secondaryDns := rfl
  nat := ⟨_, rfl, flag_read _⟩
  endpoint := rfl
  persistentKeepalive := ⟨_, rfl, i64_as_u16_map _⟩
  bandwidthQuotaBytes := ⟨_, rfl, to_u_int64_map _⟩
  bandwidthUsedBytes := ⟨_, rfl, rfl⟩
  expiresAt := RowCrates.read_time_option h.expiresAt
  schedule := rfl
  enabled := ⟨_, rfl, rfl⟩
  ownerUserId := ⟨_, rfl, by
    cases hnew : new.ownerUserId with
    | none =>
        rw [SqlitePeerRepository.newRow, hnew]
        rfl
    | some owner =>
        have hread : crates.parseUuid owner.display = .ok owner.value := howner owner hnew
        simp [SqlitePeerRepository.newRow, hnew, hread]⟩
  createdAt := hnow
  updatedAt := hnow

/-- The updated row shows the peer, with the columns that the update does not set. -/
theorem update_shows (hold : Shows crates row old) (hkey : row .id = .text peer.id.display)
    (h : ReadsBack crates peer) (hnow : crates.ReadsTime now) :
    Shows crates (update.apply .id (updateBinds crates now peer) row)
      { peer with
        presharedKeySealed := old.presharedKeySealed
        bandwidthUsedBytes := old.bandwidthUsedBytes
        ownerUserId := old.ownerUserId
        createdAt := old.createdAt
        updatedAt := now } := by
  have hnull : row .id ≠ .null := by rw [hkey]; exact fun hnull => by cases hnull
  have hset (column : PeerColumn) (hcolumn : (update.sets.lookup column).isSome) :
      update.apply .id (updateBinds crates now peer) row column =
        (update.sets.lookup column).elim .null (Expr.eval (updateBinds crates now peer)) :=
    Update.apply_set hkey hnull hcolumn
  have hkept {column : PeerColumn} (hcolumn : update.sets.lookup column = none) :
      update.apply .id (updateBinds crates now peer) row column = row column :=
    Update.apply_kept hcolumn
  exact {
    id := ⟨_, (hkept rfl).trans hkey, h.id⟩
    interfaceId := ⟨_, hset .interfaceId rfl, h.interfaceId⟩
    name := hset .name rfl
    publicKey := hset .publicKey rfl
    privateKeySealed := hset .privateKeySealed rfl
    presharedKeySealed := (hkept rfl).trans hold.presharedKeySealed
    allowedIps := ⟨some _, hset .allowedIps rfl, RowCrates.read_nets h.list h.nets⟩
    primaryDns := hset .primaryDns rfl
    secondaryDns := hset .secondaryDns rfl
    nat := ⟨_, hset .nat rfl, flag_read peer.nat⟩
    endpoint := hset .endpoint rfl
    persistentKeepalive := ⟨_, hset .persistentKeepalive rfl, i64_as_u16_map _⟩
    bandwidthQuotaBytes := ⟨_, hset .bandwidthQuotaBytes rfl, to_u_int64_map _⟩
    bandwidthUsedBytes := by rw [hkept rfl]; exact hold.bandwidthUsedBytes
    expiresAt := by rw [hset .expiresAt rfl]; exact RowCrates.read_time_option h.expiresAt
    schedule := hset .schedule rfl
    enabled := ⟨_, hset .enabled rfl, flag_read peer.enabled⟩
    ownerUserId := by rw [hkept rfl]; exact hold.ownerUserId
    createdAt := by rw [hkept rfl]; exact hold.createdAt
    updatedAt := by rw [hset .updatedAt rfl]; exact hnow }

/-- The row whose counter has been set shows the peer with the counter, whatever it is. -/
theorem record_shows (hold : Shows crates row old) {id : Id PeerMarker}
    (hkey : row .id = .text id.display) (bytes : UInt64) :
    Shows crates (bandwidthUpdate.apply .id [.integer bytes.toInt64, .text id.display] row)
      { old with bandwidthUsedBytes := bytes } := by
  have hnull : row .id ≠ .null := by rw [hkey]; exact fun hnull => by cases hnull
  have hset : bandwidthUpdate.apply .id [.integer bytes.toInt64, .text id.display] row
      .bandwidthUsedBytes = .integer bytes.toInt64 :=
    Update.apply_set hkey hnull rfl
  have hkept {column : PeerColumn} (hcolumn : bandwidthUpdate.sets.lookup column = none) :
      bandwidthUpdate.apply .id [.integer bytes.toInt64, .text id.display] row column =
        row column :=
    Update.apply_kept hcolumn
  exact {
    id := by rw [hkept rfl]; exact hold.id
    interfaceId := by rw [hkept rfl]; exact hold.interfaceId
    name := (hkept rfl).trans hold.name
    publicKey := (hkept rfl).trans hold.publicKey
    privateKeySealed := (hkept rfl).trans hold.privateKeySealed
    presharedKeySealed := (hkept rfl).trans hold.presharedKeySealed
    allowedIps := by rw [hkept rfl]; exact hold.allowedIps
    primaryDns := (hkept rfl).trans hold.primaryDns
    secondaryDns := (hkept rfl).trans hold.secondaryDns
    nat := by rw [hkept rfl]; exact hold.nat
    endpoint := (hkept rfl).trans hold.endpoint
    persistentKeepalive := by rw [hkept rfl]; exact hold.persistentKeepalive
    bandwidthQuotaBytes := by rw [hkept rfl]; exact hold.bandwidthQuotaBytes
    bandwidthUsedBytes := ⟨_, hset, rfl⟩
    expiresAt := by rw [hkept rfl]; exact hold.expiresAt
    schedule := (hkept rfl).trans hold.schedule
    enabled := by rw [hkept rfl]; exact hold.enabled
    ownerUserId := by rw [hkept rfl]; exact hold.ownerUserId
    createdAt := by rw [hkept rfl]; exact hold.createdAt
    updatedAt := by rw [hkept rfl]; exact hold.updatedAt }

end Persistence.Peers

namespace Persistence.Interfaces

variable {crates : RowCrates} {row : Row InterfaceColumn} {iface old : Interface} {now : DateTime}

/-- What the columns of a row say of an interface. -/
structure Shows (crates : RowCrates) (row : Row InterfaceColumn) (iface : Interface) : Prop where
  id : ∃ text, row .id = .text text ∧ crates.parseUuid text = .ok iface.id.value
  name : row .name = .text iface.name
  publicKey : row .publicKey = .text iface.publicKey.asStr
  privateKeySealed : row .privateKeySealed = .blob iface.privateKeySealed
  listenPort : ∃ n, row .listenPort = .integer n ∧ i64AsU16 n = iface.listenPort
  endpoint : row .endpoint = .ofOption .text iface.endpoint
  gateway : row .gateway = .ofOption .text iface.gateway
  ipv4Cidr : ∃ text, row .ipv4Cidr = .ofOption .text text ∧
    IfaceRow.parseCidr crates text = .ok iface.ipv4Cidr
  ipv6Cidr : ∃ text, row .ipv6Cidr = .ofOption .text text ∧
    IfaceRow.parseCidr crates text = .ok iface.ipv6Cidr
  mtu : ∃ n : Option Int64, row .mtu = .ofOption .integer n ∧ n.map i64AsU16 = iface.mtu
  dns : ∃ text, row .dns = .ofOption .text text ∧ crates.readList text = iface.dns
  onUp : row .onUp = .ofOption .text iface.onUp
  onDown : row .onDown = .ofOption .text iface.onDown
  status : ∃ text, row .status = .text text ∧ IfaceRow.parseStatus text = iface.status
  createdAt : crates.readTime (row .createdAt) = .ok iface.createdAt
  updatedAt : crates.readTime (row .updatedAt) = .ok iface.updatedAt

/-- A row that is decoded shows the interface. -/
theorem shows_of_decode (h : decode crates row = .ok iface) : Shows crates row iface := by
  simp only [decode, IfaceRow.fromRow, Outcome.bind_ok, Outcome.map_error_ok,
    RowCrates.nullable_string_ok, RowCrates.nullable_int_ok, RowCrates.bytes_ok,
    RowCrates.string_ok, RowCrates.int_ok] at h
  obtain ⟨_, ⟨_, hid, _, hname, _, hkey, _, hprivate, _, hport, _, hendpoint, _, hgateway, _, hv4,
    _,
    hv6, _, hmtu, _, hdns, _, hup, _, hdown, _, hstatus, _, hcreated, _, hupdated, hrow⟩,
    hiface⟩ := h
  cases hrow
  simp only [IfaceRow.intoDomain, Outcome.bind_ok, Outcome.map_error_ok] at hiface
  obtain ⟨_, hid', _, hkey', _, hv4', _, hv6', hiface⟩ := hiface
  cases hiface
  exact {
    id := ⟨_, hid, hid'⟩
    name := hname
    publicKey := by rw [hkey, WgPublicKey.from_base64_ok.mp hkey']
    privateKeySealed := hprivate
    listenPort := ⟨_, hport, rfl⟩
    endpoint := hendpoint
    gateway := hgateway
    ipv4Cidr := ⟨_, hv4, hv4'⟩
    ipv6Cidr := ⟨_, hv6, hv6'⟩
    mtu := ⟨_, hmtu, rfl⟩
    dns := ⟨_, hdns, rfl⟩
    onUp := hup
    onDown := hdown
    status := ⟨_, hstatus, rfl⟩
    createdAt := hcreated
    updatedAt := hupdated }

/-- A row that shows an interface is decoded into it. -/
theorem decode_of_shows (h : Shows crates row iface) : decode crates row = .ok iface := by
  obtain ⟨_, hid, hid'⟩ := h.id
  obtain ⟨_, hport, hport'⟩ := h.listenPort
  obtain ⟨_, hv4, hv4'⟩ := h.ipv4Cidr
  obtain ⟨_, hv6, hv6'⟩ := h.ipv6Cidr
  obtain ⟨_, hmtu, hmtu'⟩ := h.mtu
  obtain ⟨_, hdns, hdns'⟩ := h.dns
  obtain ⟨_, hstatus, hstatus'⟩ := h.status
  simp only [decode, IfaceRow.fromRow, Outcome.bind_ok, Outcome.map_error_ok,
    RowCrates.nullable_string_ok, RowCrates.nullable_int_ok, RowCrates.bytes_ok,
    RowCrates.string_ok, RowCrates.int_ok]
  refine ⟨_, ⟨_, hid, _, h.name, _, h.publicKey, _, h.privateKeySealed, _, hport, _, h.endpoint, _,
    h.gateway, _, hv4, _, hv6, _, hmtu, _, hdns, _, h.onUp, _, h.onDown, _, hstatus, _,
    h.createdAt, _, h.updatedAt, rfl⟩, ?_⟩
  simp only [IfaceRow.intoDomain, Outcome.bind_ok, Outcome.map_error_ok]
  refine ⟨_, hid', _, WgPublicKey.from_base64_as_str _, _, hv4', _, hv6', ?_⟩
  rw [hport', hmtu', hdns', hstatus']
  rfl

/-- The libraries read back what they print for the columns that both statements write. -/
structure ReadsBack (crates : RowCrates) (iface : Interface) : Prop where
  id : crates.ReadsId iface.id
  ipv4Cidr : ∀ net ∈ iface.ipv4Cidr, crates.ReadsNet net
  ipv6Cidr : ∀ net ∈ iface.ipv6Cidr, crates.ReadsNet net
  dns : crates.ReadsList iface.dns

/-- A network that may be absent is read back. -/
theorem parse_cidr_display {net : Option IpNet} (h : ∀ n ∈ net, crates.ReadsNet n) :
    IfaceRow.parseCidr crates (net.map IpNet.display) = .ok net := by
  cases net with
  | none => rfl
  | some net =>
      have hread : crates.parseIpNet net.display = .ok net := h net rfl
      simp [IfaceRow.parseCidr, hread, Except.map, Except.mapError]

/-- Every status is read back from its name. -/
theorem parse_status_as_str (status : InterfaceStatus) :
    IfaceRow.parseStatus status.asStr = status := by
  cases status <;> decide

/-- The inserted row shows the new interface. -/
theorem insert_shows {id : Uuid} {new : NewInterface} {sealed : ByteArray}
    (h : ReadsBack crates (SqliteInterfaceRepository.newRow id now new sealed))
    (hnow : crates.ReadsTime now) :
    Shows crates (insert.newRow (insertBinds crates id now new sealed))
      (SqliteInterfaceRepository.newRow id now new sealed) where
  id := ⟨_, rfl, h.id⟩
  name := rfl
  publicKey := rfl
  privateKeySealed := rfl
  listenPort := ⟨_, rfl, UInt16.toUInt16_toUInt64 _⟩
  endpoint := rfl
  gateway := rfl
  ipv4Cidr := ⟨_, rfl, parse_cidr_display h.ipv4Cidr⟩
  ipv6Cidr := ⟨_, rfl, parse_cidr_display h.ipv6Cidr⟩
  mtu := ⟨_, rfl, i64_as_u16_map _⟩
  dns := ⟨some _, rfl, RowCrates.read_list_text h.dns⟩
  onUp := rfl
  onDown := rfl
  status := ⟨_, rfl, parse_status_as_str .down⟩
  createdAt := hnow
  updatedAt := hnow

/-- The updated row shows the interface, with the columns that the update does not set. -/
theorem update_shows (hold : Shows crates row old) (hkey : row .id = .text iface.id.display)
    (h : ReadsBack crates iface) (hnow : crates.ReadsTime now) :
    Shows crates (update.apply .id (updateBinds crates now iface) row)
      { iface with name := old.name, createdAt := old.createdAt, updatedAt := now } := by
  have hnull : row .id ≠ .null := by rw [hkey]; exact fun hnull => by cases hnull
  have hset (column : InterfaceColumn) (hcolumn : (update.sets.lookup column).isSome) :
      update.apply .id (updateBinds crates now iface) row column =
        (update.sets.lookup column).elim .null (Expr.eval (updateBinds crates now iface)) :=
    Update.apply_set hkey hnull hcolumn
  have hkept {column : InterfaceColumn} (hcolumn : update.sets.lookup column = none) :
      update.apply .id (updateBinds crates now iface) row column = row column :=
    Update.apply_kept hcolumn
  exact {
    id := ⟨_, (hkept rfl).trans hkey, h.id⟩
    name := (hkept rfl).trans hold.name
    publicKey := hset .publicKey rfl
    privateKeySealed := hset .privateKeySealed rfl
    listenPort := ⟨_, hset .listenPort rfl, UInt16.toUInt16_toUInt64 _⟩
    endpoint := hset .endpoint rfl
    gateway := hset .gateway rfl
    ipv4Cidr := ⟨_, hset .ipv4Cidr rfl, parse_cidr_display h.ipv4Cidr⟩
    ipv6Cidr := ⟨_, hset .ipv6Cidr rfl, parse_cidr_display h.ipv6Cidr⟩
    mtu := ⟨_, hset .mtu rfl, i64_as_u16_map _⟩
    dns := ⟨some _, hset .dns rfl, RowCrates.read_list_text h.dns⟩
    onUp := hset .onUp rfl
    onDown := hset .onDown rfl
    status := ⟨_, hset .status rfl, parse_status_as_str iface.status⟩
    createdAt := by rw [hkept rfl]; exact hold.createdAt
    updatedAt := by rw [hset .updatedAt rfl]; exact hnow }

end Persistence.Interfaces

end Wireforge
