import Wireforge.Service.Interface
import Wireforge.Web.Context

/-!
# Dashboard, host interfaces, audit log, metrics and probes

The pages and endpoints that only show something. The event streams are cut off after a number of
ticks.
-/

namespace Wireforge

open Effect

/-! ## Numbers -/

/-- The nearest integer to a quotient, and the even one of two. -/
def roundHalfEven (n d : Nat) : Nat :=
  if 2 * (n % d) < d then n / d
  else if d < 2 * (n % d) then n / d + 1
  else if n / d % 2 = 0 then n / d
  else n / d + 1

/-- The nearest number of 53 binary digits, as a floating-point number holds it. -/
def roundDouble (n : Nat) : Nat :=
  roundHalfEven n (2 ^ (n.log2 - 52)) * 2 ^ (n.log2 - 52)

/-- A number of bytes with its unit and one decimal. -/
def humanBytes (n : UInt64) : String :=
  if n < 1024 then s!"{n} B"
  else
    let value := roundDouble n.toNat
    let idx := min 5 (value.log2 / 10)
    let tenths := roundHalfEven (value * 10) (1024 ^ idx)
    let unit := ["B", "KiB", "MiB", "GiB", "TiB", "PiB"].getD idx ""
    s!"{tenths / 10}.{tenths % 10} {unit}"

example : humanBytes 512 = "512 B" ∧ humanBytes 1536 = "1.5 KiB" ∧
    humanBytes (5 * 1024 * 1024 * 1024) = "5.0 GiB" := by decide +kernel

namespace Routes

/-! ## Dashboard -/

namespace Dashboard

/-- The last counters of a peer, zero if there are none. -/
def countersOf (latest : List PeerTrafficRow) (id : Id PeerMarker) : UInt64 × UInt64 :=
  ((latest.reverse.find? (·.peerId = id)).map fun row => (row.tx, row.rx)).getD (0, 0)

/-- The sums of the counters of some peers. -/
def totalsOf (latest : List PeerTrafficRow) (peers : List Peer) : UInt64 × UInt64 :=
  peers.foldl (fun sum peer =>
    (sum.1 + (countersOf latest peer.id).1, sum.2 + (countersOf latest peer.id).2)) (0, 0)

/-- The row of an interface. -/
def ifaceRow (latest : List PeerTrafficRow) (peers : List Peer) (iface : Interface) :
    IfaceTraffic :=
  let totals := totalsOf latest (peers.filter (·.interfaceId = iface.id))
  ⟨iface.name, iface.status.asStr, humanBytes totals.1, humanBytes totals.2⟩

/-- The traffic of a peer and its row, unless it has had no traffic. -/
def peerRow (latest : List PeerTrafficRow) (interfaces : List Interface) (peer : Peer) :
    Option (UInt64 × PeerTraffic) :=
  let counters := countersOf latest peer.id
  let total := counters.1 + counters.2
  if total = 0 then none
  else
    let iface := ((interfaces.reverse.find? (·.id = peer.interfaceId)).map Interface.name).getD ""
    some (total, ⟨peer.name, iface, humanBytes counters.1, humanBytes counters.2⟩)

/-- The five peers with the most traffic. -/
def top (latest : List PeerTrafficRow) (interfaces : List Interface) (peers : List Peer) :
    List (UInt64 × PeerTraffic) :=
  ((peers.filterMap (peerRow latest interfaces)).insertionSort fun a b => b.1 ≤ a.1).take 5

/-- What the dashboard shows of the traffic. -/
def trafficView (crates : WebCrates) (latest : List PeerTrafficRow) (peers : List Peer)
    (interfaces : List Interface) (series : List SeriesPoint) : TrafficView where
  interfaces := interfaces.map (ifaceRow latest peers)
  peers := (top latest interfaces peers).map Prod.snd
  totalTx := humanBytes (totalsOf latest peers).1
  totalRx := humanBytes (totalsOf latest peers).2
  hasData := !latest.isEmpty || !series.isEmpty
  labels := series.map fun point => crates.minuteLabel point.bucket
  tx := series.map SeriesPoint.tx
  rx := series.map SeriesPoint.rx
  peerLabels := (top latest interfaces peers).map fun row => row.2.name
  peerTotals := (top latest interfaces peers).map Prod.fst

/-- The time delta to the day before. -/
def dayBefore : TimeDelta := ⟨-(86400 * nanosPerSec), by decide⟩

variable (crates : WebCrates)

/-- Read what the dashboard shows of the traffic. -/
def buildTrafficSnapshot : Web TrafficView := do
  let latest ← Web.repo SqliteTrafficRepository.latestPerPeer
  let peers ← Web.service SqlitePeerRepository.listAll
  let interfaces ← Web.service SqliteInterfaceRepository.list
  let now ← Web.repo siteNow
  match now.add dayBefore with
  | .error panic => throw (.panic panic)
  | .ok since => do
      let series ← Web.repo (SqliteTrafficRepository.seriesTotals since)
      return trafficView crates latest peers interfaces series

/-- `GET /`. -/
def index (session : SessionId) (user : AuthUser) : Web Response := do
  let interfaces ← Web.service SqliteInterfaceRepository.list
  let peers ← Web.service SqlitePeerRepository.listAll
  let links ← Web.listOrEmpty GetifaddrsAdapter.list
  let traffic ← buildTrafficSnapshot crates
  let flash ← Web.takeFlash session
  return .html 200 (.dashboard user flash interfaces.length peers.length
    (interfaces.countP (·.status = .up)) links.length (links.countP SysInterface.up) traffic)

/-- The event of one tick. An error becomes a comment; the end of the process ends the stream. -/
def tick : Web (Option TrafficView) := do
  match ← attempt (buildTrafficSnapshot crates) with
  | .ok traffic => return some traffic
  | .error (.error _) => return none
  | .error (.panic panic) => throw (.panic panic)

/-- The events of some ticks. -/
def ticks : Nat → Web (List (Option TrafficView))
  | 0 => return []
  | n + 1 => do
      let event ← tick crates
      let rest ← ticks n
      return event :: rest

/-- `GET /dashboard/traffic/stream`. -/
def trafficStream (n : Nat) : Web Response := do
  let events ← ticks crates n
  return .trafficEvents events

end Dashboard

/-! ## Host interfaces -/

namespace System

/-- `GET /system`. -/
def index (session : SessionId) (user : AuthUser) : Web Response := do
  let interfaces ← Web.listOrEmpty GetifaddrsAdapter.list
  let flash ← Web.takeFlash session
  return .html 200 (.system user flash interfaces)

/-- The events of some ticks. -/
def ticks : Nat → Web (List (List SysInterface))
  | 0 => return []
  | n + 1 => do
      let event ← Web.listOrEmpty GetifaddrsAdapter.list
      let rest ← ticks n
      return event :: rest

/-- `GET /system/interfaces/stream`. -/
def stream (n : Nat) : Web Response := do
  let events ← ticks n
  return .systemEvents events

end System

/-! ## Audit log -/

namespace Audit

/-- What stands in the place of an absent user or resource. -/
def dash : String := "—"

/-- The text of metadata, whose fields are kept in the order of their names. -/
def metadataText (metadata : Json.Object) : String :=
  Json.display (sortedBy Prod.fst metadata)

/-- The row of an event. -/
def auditRow (crates : WebCrates) (e : AuditEvent) : AuditRow where
  createdAt := crates.rfc3339 e.createdAt
  actor := (e.actorUserId.map Id.display).getD dash
  actorIp := e.actorIp.getD ""
  action := e.action.asStr
  resource :=
    match e.resourceType, e.resourceId with
    | some t, some i => s!"{t}:{i}"
    | _, _ => dash
  metadata := (e.metadata.map metadataText).getD ""

/-- `GET /audit`. -/
def list (crates : WebCrates) (session : SessionId) (user : AuthUser) : Web Response := do
  if !user.role.canReadAudit then
    Web.fail .forbidden
  else do
    let events ← Web.repo (SqliteAuditRepository.list 200)
    let flash ← Web.takeFlash session
    return .html 200 (.audit user flash (events.map (auditRow crates)))

end Audit

/-! ## Metrics and probes -/

/-- The version of the server. -/
def version : String := "0.1.0"

namespace Metrics

/-- The lines of a metric. -/
def metric (name help kind value : String) : String :=
  s!"# HELP {name} {help}\n# TYPE {name} {kind}\n{name}{value}\n"

/-- `GET /metrics`. -/
def handler : Web Response := do
  let interfaces ← Web.service SqliteInterfaceRepository.list
  let peers ← Web.service SqlitePeerRepository.listAll
  let up := interfaces.countP (·.status = .up)
  let enabled := peers.countP Peer.enabled
  let bandwidth := peers.foldl (fun sum peer => sum + peer.bandwidthUsedBytes) 0
  return .text "text/plain; version=0.0.4; charset=utf-8" none
    (metric "wireforge_build_info" "Wireforge build information." "gauge"
        s!"\x7bversion=\"{version}\"\x7d 1"
      ++ metric "wireforge_interfaces_total" "Number of configured WireGuard interfaces." "gauge"
        s!" {interfaces.length}"
      ++ metric "wireforge_interfaces_up" "Number of interfaces currently up." "gauge" s!" {up}"
      ++ metric "wireforge_peers_total" "Number of configured peers." "gauge" s!" {peers.length}"
      ++ metric "wireforge_peers_enabled" "Peers with enabled=true." "gauge" s!" {enabled}"
      ++ metric "wireforge_bandwidth_used_bytes_total"
        "Lifetime bandwidth consumed across all peers." "counter" s!" {bandwidth}")

end Metrics

namespace Health

/-- `GET /healthz`. -/
def healthz : Web Response :=
  return .health 200 [("status", .str "ok"), ("version", .str version)]

/-- `GET /readyz`. -/
def readyz : Web Response := do
  match ← attempt SqliteUserRepository.count with
  | .ok _ => return .health 200 [("status", .str "ready")]
  | .error e => return .health 503 [("status", .str "degraded"), ("error", .str e.display)]

end Health

namespace Ws

/-- The times of some heartbeats. -/
def ticks (crates : WebCrates) : Nat → Web (List String)
  | 0 => return []
  | n + 1 => do
      let now ← Web.repo siteNow
      let rest ← ticks crates n
      return crates.rfc3339 now :: rest

/-- `GET /ws/events`. -/
def events (crates : WebCrates) (n : Nat) : Web Response := do
  let times ← ticks crates n
  return .heartbeats times

end Ws

end Routes

end Wireforge
