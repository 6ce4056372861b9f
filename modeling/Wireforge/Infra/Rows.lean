import Wireforge.Infra.Persistence
import Wireforge.Lib.Statements

/-!
# Stored rows

The statements of the two repositories with their positional parameters, as SQLite receives them,
and the decoders of the rows that it returns. A row is first read column by column into a record of
plain values, which is then turned into the entity. A peer is read back exactly when every column
holds what `ShowsPeer` says, and likewise an interface, so that the statements are compared with
that description column by column.
-/

namespace Wireforge

open Sql

/-- The functions of `chrono`, `serde_json`, `uuid`, `ipnet` and `sqlx` that store and read
columns. -/
structure RowCrates where
  printTime : DateTime → String
  readTime : Value → Except String DateTime
  toJson : List String → Except String String
  fromJson : String → Except String (List String)
  parseUuid : String → Except String Uuid
  parseIpNet : String → Except String IpNet
  mismatchedTypes : Value → String

namespace RowCrates

variable (crates : RowCrates)

/-- Read a `TEXT` column. -/
def string : Value → Except String String
  | .text s => .ok s
  | value => .error (crates.mismatchedTypes value)

/-- Read an `INTEGER` column. -/
def int : Value → Except String Int64
  | .integer n => .ok n
  | value => .error (crates.mismatchedTypes value)

/-- Read a `BLOB` column. -/
def bytes : Value → Except String ByteArray
  | .blob bytes => .ok bytes
  | value => .error (crates.mismatchedTypes value)

/-- Bind a time. -/
def bindTime (t : DateTime) : Value :=
  .text (crates.printTime t)

/-- The text of a list, or of the empty list if the list has none. -/
def listText (texts : List String) : String :=
  (crates.toJson texts).toOption.getD "[]"

/-- The list of a column, which is empty if there is no list to read. -/
def readList (column : Option String) : List String :=
  column.elim [] fun text => (crates.fromJson text).toOption.getD []

end RowCrates

/-- `n as i64`. -/
def u16AsI64 (n : UInt16) : Int64 :=
  n.toUInt64.toInt64

/-- `n as u16`. -/
def i64AsU16 (n : Int64) : UInt16 :=
  n.toUInt64.toUInt16

/-! ## Peers -/

/-- The columns of `peers`. -/
inductive PeerColumn where
  | id | interfaceId | name | publicKey | privateKeySealed | presharedKeySealed | allowedIps
  | endpoint | persistentKeepalive | bandwidthQuotaBytes | bandwidthUsedBytes | expiresAt
  | schedule | enabled | ownerUserId | createdAt | updatedAt | primaryDns | secondaryDns | nat
  deriving DecidableEq

namespace Persistence.Peers

/-- A row of `peers` as it is read. -/
structure PeerRow where
  id : String
  interfaceId : String
  name : String
  publicKey : String
  privateKeySealed : Option ByteArray
  presharedKeySealed : Option ByteArray
  allowedIps : Option String
  primaryDns : Option String
  secondaryDns : Option String
  nat : Int64
  endpoint : Option String
  persistentKeepalive : Option Int64
  bandwidthQuotaBytes : Option Int64
  bandwidthUsedBytes : Int64
  expiresAt : Option DateTime
  schedule : Option String
  enabled : Int64
  ownerUserId : Option String
  createdAt : DateTime
  updatedAt : DateTime

namespace PeerRow

/-- Read the columns. -/
def fromRow (crates : RowCrates) (row : Row PeerColumn) : Except String PeerRow := do
  let id ← crates.string (row .id)
  let interfaceId ← crates.string (row .interfaceId)
  let name ← crates.string (row .name)
  let publicKey ← crates.string (row .publicKey)
  let privateKeySealed ← (row .privateKeySealed).nullable crates.bytes
  let presharedKeySealed ← (row .presharedKeySealed).nullable crates.bytes
  let allowedIps ← (row .allowedIps).nullable crates.string
  let primaryDns ← (row .primaryDns).nullable crates.string
  let secondaryDns ← (row .secondaryDns).nullable crates.string
  let nat ← crates.int (row .nat)
  let endpoint ← (row .endpoint).nullable crates.string
  let persistentKeepalive ← (row .persistentKeepalive).nullable crates.int
  let bandwidthQuotaBytes ← (row .bandwidthQuotaBytes).nullable crates.int
  let bandwidthUsedBytes ← crates.int (row .bandwidthUsedBytes)
  let expiresAt ← (row .expiresAt).nullable crates.readTime
  let schedule ← (row .schedule).nullable crates.string
  let enabled ← crates.int (row .enabled)
  let ownerUserId ← (row .ownerUserId).nullable crates.string
  let createdAt ← crates.readTime (row .createdAt)
  let updatedAt ← crates.readTime (row .updatedAt)
  return {
    id, interfaceId, name, publicKey, privateKeySealed, presharedKeySealed, allowedIps, primaryDns,
    secondaryDns, nat, endpoint, persistentKeepalive, bandwidthQuotaBytes, bandwidthUsedBytes,
    expiresAt, schedule, enabled, ownerUserId, createdAt, updatedAt }

/-- The peer of a row. -/
def intoDomain (crates : RowCrates) (row : PeerRow) : Except CoreError Peer := do
  let allowed := crates.readList row.allowedIps
  let allowedIps ← (allowed.mapM crates.parseIpNet).mapError fun e =>
    .persistence s!"allowed_ip: {e}"
  let owner ← (row.ownerUserId.mapM crates.parseUuid).mapError fun e =>
    .persistence s!"owner uuid: {e}"
  let id ← (crates.parseUuid row.id).mapError fun e => .persistence s!"peer uuid: {e}"
  let interfaceId ← (crates.parseUuid row.interfaceId).mapError fun e =>
    .persistence s!"iface uuid: {e}"
  let publicKey ← WgPublicKey.fromBase64 row.publicKey
  return {
    id := ⟨id⟩
    interfaceId := ⟨interfaceId⟩
    name := row.name
    publicKey
    privateKeySealed := row.privateKeySealed
    presharedKeySealed := row.presharedKeySealed
    allowedIps
    primaryDns := row.primaryDns
    secondaryDns := row.secondaryDns
    nat := row.nat ≠ 0
    endpoint := row.endpoint
    persistentKeepalive := row.persistentKeepalive.map i64AsU16
    bandwidthQuotaBytes := row.bandwidthQuotaBytes.map Int64.toUInt64
    bandwidthUsedBytes := row.bandwidthUsedBytes.toUInt64
    expiresAt := row.expiresAt
    schedule := row.schedule
    enabled := row.enabled ≠ 0
    ownerUserId := owner.map .mk
    createdAt := row.createdAt
    updatedAt := row.updatedAt }

end PeerRow

/-- Insert a peer. -/
def insert : Insert PeerColumn where
  columns := [.id, .interfaceId, .name, .publicKey, .privateKeySealed, .presharedKeySealed,
    .allowedIps, .endpoint, .persistentKeepalive, .bandwidthQuotaBytes,
    .bandwidthUsedBytes, .expiresAt, .schedule, .enabled, .ownerUserId,
    .createdAt, .updatedAt, .primaryDns, .secondaryDns, .nat]
  values := [.param 1, .param 2, .param 3, .param 4, .param 5, .param 6, .param 7, .param 8,
    .param 9, .param 10, .literal (.integer 0), .param 11, .literal .null, .literal (.integer 1),
    .param 12, .param 13, .param 13, .param 14, .param 15, .param 16]

/-- Write a peer back. -/
def update : Update PeerColumn where
  sets := [(.name, .param 1), (.interfaceId, .param 2), (.publicKey, .param 3),
    (.privateKeySealed, .param 4), (.allowedIps, .param 5), (.primaryDns, .param 6),
    (.secondaryDns, .param 7), (.nat, .param 8), (.endpoint, .param 9),
    (.persistentKeepalive, .param 10), (.bandwidthQuotaBytes, .param 11), (.expiresAt, .param 12),
    (.schedule, .param 13), (.enabled, .param 14), (.updatedAt, .param 15)]
  wanted := .param 16

/-- Write the traffic counter of a peer. -/
def bandwidthUpdate : Update PeerColumn where
  sets := [(.bandwidthUsedBytes, .param 1)]
  wanted := .param 2

variable (crates : RowCrates)

/-- What the insertion binds. -/
def insertBinds (id : Uuid) (now : DateTime) (new : NewPeer) (presharedSealed : Option ByteArray) :
    List Value :=
  let allowedJson := crates.listText (new.allowedIps.map IpNet.display)
  [.text (Id.mk id : Id PeerMarker).display,
    .text new.interfaceId.display,
    .text new.name,
    .text new.publicKey.asStr,
    .ofOption .blob new.privateKeySealed,
    .ofOption .blob presharedSealed,
    .text allowedJson,
    .ofOption .text new.endpoint,
    .ofOption .integer (new.persistentKeepalive.map u16AsI64),
    .ofOption .integer (new.bandwidthQuotaBytes.map UInt64.toInt64),
    .ofOption crates.bindTime new.expiresAt,
    .ofOption .text (new.ownerUserId.map Id.display),
    crates.bindTime now,
    .ofOption .text new.primaryDns,
    .ofOption .text new.secondaryDns,
    .integer new.nat.toInt64]

/-- What the update binds. -/
def updateBinds (now : DateTime) (peer : Peer) : List Value :=
  let allowedJson := crates.listText (peer.allowedIps.map IpNet.display)
  [.text peer.name,
    .text peer.interfaceId.display,
    .text peer.publicKey.asStr,
    .ofOption .blob peer.privateKeySealed,
    .text allowedJson,
    .ofOption .text peer.primaryDns,
    .ofOption .text peer.secondaryDns,
    .integer peer.nat.toInt64,
    .ofOption .text peer.endpoint,
    .ofOption .integer (peer.persistentKeepalive.map u16AsI64),
    .ofOption .integer (peer.bandwidthQuotaBytes.map UInt64.toInt64),
    .ofOption crates.bindTime peer.expiresAt,
    .ofOption .text peer.schedule,
    .integer peer.enabled.toInt64,
    crates.bindTime now,
    .text peer.id.display]

/-- The rows of `peers`. -/
abbrev Rows := Relation PeerColumn.id

/-- Insert a row for a new peer. -/
def create (check : Rows → Option String) (id : Uuid) (now : DateTime) (new : NewPeer)
    (presharedSealed : Option ByteArray) (rows : Rows) : Except CoreError (Peer × Rows) := do
  let rows ← (Relation.insert check insert (insertBinds crates id now new presharedSealed)
    rows).mapError mapErr
  return (SqlitePeerRepository.newRow id now new presharedSealed, rows)

/-- The peer of a row. -/
def decode (row : Row PeerColumn) : Except CoreError Peer := do
  let row ← (PeerRow.fromRow crates row).mapError mapErr
  row.intoDomain crates

/-- The peer with an identifier. -/
def findById (id : Id PeerMarker) (rows : Rows) : Except CoreError (Option Peer) :=
  (rows.select (.text id.display)).mapM (decode crates)

/-- Write a peer back. -/
def save (check : Rows → Option String) (now : DateTime) (peer : Peer) (rows : Rows) :
    Except CoreError Rows :=
  (Relation.update check update (updateBinds crates now peer) rfl rows).mapError mapErr

/-- Set the traffic counter of a peer. -/
def recordBandwidth (check : Rows → Option String) (id : Id PeerMarker) (bytes : UInt64)
    (rows : Rows) : Except CoreError Rows :=
  (Relation.update check bandwidthUpdate [.integer bytes.toInt64, .text id.display] rfl
    rows).mapError mapErr

end Persistence.Peers

/-! ## Interfaces -/

/-- The columns of `interfaces`. -/
inductive InterfaceColumn where
  | id | name | publicKey | privateKeySealed | listenPort | endpoint | gateway | ipv4Cidr | ipv6Cidr
  | mtu | dns | onUp | onDown | status | createdAt | updatedAt
  deriving DecidableEq

namespace Persistence.Interfaces

/-- A row of `interfaces` as it is read. -/
structure IfaceRow where
  id : String
  name : String
  publicKey : String
  privateKeySealed : ByteArray
  listenPort : Int64
  endpoint : Option String
  gateway : Option String
  ipv4Cidr : Option String
  ipv6Cidr : Option String
  mtu : Option Int64
  dns : Option String
  onUp : Option String
  onDown : Option String
  status : String
  createdAt : DateTime
  updatedAt : DateTime

namespace IfaceRow

/-- Read the columns. -/
def fromRow (crates : RowCrates) (row : Row InterfaceColumn) : Except String IfaceRow := do
  let id ← crates.string (row .id)
  let name ← crates.string (row .name)
  let publicKey ← crates.string (row .publicKey)
  let privateKeySealed ← crates.bytes (row .privateKeySealed)
  let listenPort ← crates.int (row .listenPort)
  let endpoint ← (row .endpoint).nullable crates.string
  let gateway ← (row .gateway).nullable crates.string
  let ipv4Cidr ← (row .ipv4Cidr).nullable crates.string
  let ipv6Cidr ← (row .ipv6Cidr).nullable crates.string
  let mtu ← (row .mtu).nullable crates.int
  let dns ← (row .dns).nullable crates.string
  let onUp ← (row .onUp).nullable crates.string
  let onDown ← (row .onDown).nullable crates.string
  let status ← crates.string (row .status)
  let createdAt ← crates.readTime (row .createdAt)
  let updatedAt ← crates.readTime (row .updatedAt)
  return {
    id, name, publicKey, privateKeySealed, listenPort, endpoint, gateway, ipv4Cidr, ipv6Cidr, mtu,
    dns, onUp, onDown, status, createdAt, updatedAt }

/-- The network of a column. -/
def parseCidr (crates : RowCrates) : Option String → Except CoreError (Option IpNet)
  | none => .ok none
  | some s => ((crates.parseIpNet s).map some).mapError fun e => .persistence s!"cidr: {e}"

/-- The status of a name; other names than these two mean down. -/
def parseStatus (status : String) : InterfaceStatus :=
  if status = "up" then .up else if status = "error" then .error else .down

/-- The interface of a row. -/
def intoDomain (crates : RowCrates) (row : IfaceRow) : Except CoreError Interface := do
  let dns := crates.readList row.dns
  let status := parseStatus row.status
  let id ← (crates.parseUuid row.id).mapError fun e => .persistence s!"iface uuid: {e}"
  let publicKey ← WgPublicKey.fromBase64 row.publicKey
  let ipv4Cidr ← parseCidr crates row.ipv4Cidr
  let ipv6Cidr ← parseCidr crates row.ipv6Cidr
  return {
    id := ⟨id⟩
    name := row.name
    publicKey
    privateKeySealed := row.privateKeySealed
    listenPort := i64AsU16 row.listenPort
    endpoint := row.endpoint
    gateway := row.gateway
    ipv4Cidr
    ipv6Cidr
    mtu := row.mtu.map i64AsU16
    dns
    onUp := row.onUp
    onDown := row.onDown
    status
    createdAt := row.createdAt
    updatedAt := row.updatedAt }

end IfaceRow

/-- Insert an interface. -/
def insert : Insert InterfaceColumn where
  columns := [.id, .name, .publicKey, .privateKeySealed, .listenPort, .endpoint,
    .gateway, .ipv4Cidr, .ipv6Cidr, .mtu, .dns, .onUp, .onDown, .status,
    .createdAt, .updatedAt]
  values := [.param 1, .param 2, .param 3, .param 4, .param 5, .param 6, .param 7, .param 8,
    .param 9, .param 10, .param 11, .param 12, .param 13, .literal (.text "down"), .param 14,
    .param 14]

/-- Write an interface back. -/
def update : Update InterfaceColumn where
  sets := [(.listenPort, .param 1), (.endpoint, .param 2), (.gateway, .param 3),
    (.ipv4Cidr, .param 4), (.ipv6Cidr, .param 5), (.mtu, .param 6), (.dns, .param 7),
    (.onUp, .param 8), (.onDown, .param 9), (.publicKey, .param 10), (.privateKeySealed, .param 11),
    (.status, .param 12), (.updatedAt, .param 13)]
  wanted := .param 14

variable (crates : RowCrates)

/-- What the insertion binds. -/
def insertBinds (id : Uuid) (now : DateTime) (new : NewInterface) (privateKeySealed : ByteArray) :
    List Value :=
  [.text (Id.mk id : Id InterfaceMarker).display,
    .text new.name,
    .text new.publicKey.asStr,
    .blob privateKeySealed,
    .integer (u16AsI64 new.listenPort),
    .ofOption .text new.endpoint,
    .ofOption .text new.gateway,
    .ofOption .text (new.ipv4Cidr.map IpNet.display),
    .ofOption .text (new.ipv6Cidr.map IpNet.display),
    .ofOption .integer (new.mtu.map u16AsI64),
    .text (crates.listText new.dns),
    .ofOption .text new.onUp,
    .ofOption .text new.onDown,
    crates.bindTime now]

/-- What the update binds. -/
def updateBinds (now : DateTime) (iface : Interface) : List Value :=
  [.integer (u16AsI64 iface.listenPort),
    .ofOption .text iface.endpoint,
    .ofOption .text iface.gateway,
    .ofOption .text (iface.ipv4Cidr.map IpNet.display),
    .ofOption .text (iface.ipv6Cidr.map IpNet.display),
    .ofOption .integer (iface.mtu.map u16AsI64),
    .text (crates.listText iface.dns),
    .ofOption .text iface.onUp,
    .ofOption .text iface.onDown,
    .text iface.publicKey.asStr,
    .blob iface.privateKeySealed,
    .text iface.status.asStr,
    crates.bindTime now,
    .text iface.id.display]

/-- The rows of `interfaces`. -/
abbrev Rows := Relation InterfaceColumn.id

/-- Insert a row for a new interface. -/
def create (check : Rows → Option String) (id : Uuid) (now : DateTime) (new : NewInterface)
    (privateKeySealed : ByteArray) (rows : Rows) : Except CoreError (Interface × Rows) := do
  let rows ← (Relation.insert check insert (insertBinds crates id now new privateKeySealed)
    rows).mapError mapErr
  return (SqliteInterfaceRepository.newRow id now new privateKeySealed, rows)

/-- The interface of a row. -/
def decode (row : Row InterfaceColumn) : Except CoreError Interface := do
  let row ← (IfaceRow.fromRow crates row).mapError mapErr
  row.intoDomain crates

/-- The interface with an identifier. -/
def findById (id : Id InterfaceMarker) (rows : Rows) : Except CoreError (Option Interface) :=
  (rows.select (.text id.display)).mapM (decode crates)

/-- Write an interface back. -/
def save (check : Rows → Option String) (now : DateTime) (iface : Interface) (rows : Rows) :
    Except CoreError Rows :=
  (Relation.update check update (updateBinds crates now iface) rfl rows).mapError mapErr

end Persistence.Interfaces

end Wireforge
