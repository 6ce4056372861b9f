import Wireforge.Site.Series
import Wireforge.Web.ContextSpec
import Wireforge.Web.Views
import Mathlib.Data.UInt

/-!
# The figures of the dashboard

The byte totals behind the rows of the interfaces, those that are shown for all interfaces, and the
ranking of the peers, against the latest snapshots of the peers. The totals are kept in a map whose
keys are the interfaces of the peers, and the map is read in any order. `dashboard_adds_up_iff` says
when the figures add up.
-/

namespace Wireforge

open Effect Tally

/-! ## Counters -/

/-- The counter of a pair. -/
def Direction.of (d : Direction) (counters : UInt64 × UInt64) : UInt64 :=
  match d with
  | .tx => counters.1
  | .rx => counters.2

theorem Direction.of_sum (d : Direction) (l : List (UInt64 × UInt64)) :
    d.of l.sum = (l.map d.of).sum := by
  induction l with
  | nil => cases d <;> rfl
  | cons first rest ih =>
      rw [List.sum_cons, List.map_cons, List.sum_cons, ← ih]
      cases d <;> rfl

/-- A sum that fits in 64 bits is the sum of the numbers. -/
theorem to_nat_sum {l : List UInt64} (h : (l.map UInt64.toNat).sum < 2 ^ 64) :
    l.sum.toNat = (l.map UInt64.toNat).sum := by
  induction l with
  | nil => rfl
  | cons first rest ih =>
      simp only [List.map_cons, List.sum_cons] at h ⊢
      rw [UInt64.toNat_add, ih (by omega)]
      exact Nat.mod_eq_of_lt h

/-- The bytes of the latest snapshot of a peer, none if it has no snapshot. -/
def latestBytes (d : Direction) (rows : List TrafficSnapshot) (peer : Peer) : Nat :=
  ((lastSnapshot rows peer.id).map fun row => (d.counter row).toNat).getD 0

/-- The bytes of the latest snapshot of a peer, in both directions. -/
def latestTotal (rows : List TrafficSnapshot) (peer : Peer) : Nat :=
  latestBytes .tx rows peer + latestBytes .rx rows peer

namespace Routes.Dashboard

variable {latest : List PeerTrafficRow} {traffic : List TrafficSnapshot}

/-- The counters that are read for a peer are those of its latest snapshot, as they are stored. -/
theorem counters_of_latest (d : Direction) (traffic : List TrafficSnapshot)
    (peerId : Id PeerMarker) :
    d.of (countersOf (latestPerPeer traffic) peerId) =
      ((lastSnapshot traffic peerId).map fun row => storedCounter (d.counter row)).getD 0 := by
  have hmem : ∀ row : PeerTrafficRow, row ∈ latestPerPeer traffic →
      (lastSnapshot traffic row.peerId).map (fun last =>
        (storedCounter last.tx, storedCounter last.rx)) = some (row.tx, row.rx) := by
    intro row hrow
    obtain ⟨id, -, hrow⟩ := List.mem_filterMap.mp hrow
    obtain ⟨last, hlast, rfl⟩ := Option.map_eq_some_iff.mp hrow
    show (lastSnapshot traffic id).map _ = _
    rw [lastSnapshot, hlast]
    rfl
  unfold countersOf
  cases hfind : (latestPerPeer traffic).reverse.find? (·.peerId = peerId) with
  | none =>
      have hnone : lastSnapshot traffic peerId = none := by
        refine last_snapshot_eq_none.mpr fun row hrow hid => ?_
        -- a peer with a snapshot has a row
        cases hlast : lastSnapshot traffic peerId with
        | none => exact last_snapshot_eq_none.mp hlast row hrow hid
        | some last =>
            have hrow : (⟨peerId, storedCounter last.tx, storedCounter last.rx,
                last.lastHandshake⟩ : PeerTrafficRow) ∈ latestPerPeer traffic := by
              refine List.mem_filterMap.mpr ⟨peerId, ?_, ?_⟩
              · exact List.mem_dedup.mpr (hid ▸ List.mem_map_of_mem hrow)
              · show (lastSnapshot traffic peerId).map _ = _
                rw [hlast]
                rfl
            have hfound := List.find?_eq_none.mp hfind _ (List.mem_reverse.mpr hrow)
            simp at hfound
      rw [hnone]
      cases d <;> rfl
  | some row =>
      have hid : row.peerId = peerId := by simpa using List.find?_some hfind
      have hrow := hmem row (List.mem_reverse.mp (List.mem_of_find?_eq_some hfind))
      rw [hid] at hrow
      obtain ⟨last, hlast, hpair⟩ := Option.map_eq_some_iff.mp hrow
      obtain ⟨htx, hrx⟩ := Prod.mk.inj hpair
      rw [hlast]
      cases d with
      | tx => exact htx.symm
      | rx => exact hrx.symm

/-! ## The maps -/

/-- The totals of the interfaces, by the interface of every peer in turn. -/
def ifaceTotals (latest : List PeerTrafficRow) (peers : List Peer) :
    List (Id InterfaceMarker × (UInt64 × UInt64)) :=
  tally (peers.map fun peer => (peer.interfaceId, countersOf latest peer.id))

/-- The totals of the rows of the interfaces, and those of all interfaces. -/
structure Figures where
  ifaces : List (UInt64 × UInt64)
  total : UInt64 × UInt64

/-- The figures, with the map of the totals in the order in which its values are read. -/
def figures (latest : List PeerTrafficRow) (peers : List Peer) (interfaces : List Interface)
    (values : List (Id InterfaceMarker × (UInt64 × UInt64))) : Figures where
  ifaces := interfaces.map fun iface => totalOf (ifaceTotals latest peers) iface.id
  total := ((values.map fun value => value.2.1).sum, (values.map fun value => value.2.2).sum)

theorem totals_of_eq_sum (latest : List PeerTrafficRow) (peers : List Peer) :
    totalsOf latest peers = (peers.map fun peer => countersOf latest peer.id).sum := by
  rw [List.sum_eq_foldl, List.foldl_map]
  rfl

/-- The total under an interface is the sum over its peers. -/
theorem total_of_iface (latest : List PeerTrafficRow) (peers : List Peer)
    (id : Id InterfaceMarker) :
    totalOf (ifaceTotals latest peers) id =
      totalsOf latest (peers.filter (·.interfaceId = id)) := by
  rw [ifaceTotals, total_of_tally, totals_of_eq_sum, List.filter_map, List.map_map]
  rfl

/-- The values of the map add up to the sum over all peers. -/
theorem sum_values {peers : List Peer} {values : List (Id InterfaceMarker × (UInt64 × UInt64))}
    (hvalues : values.Perm (ifaceTotals latest peers)) (d : Direction) :
    d.of (figures latest peers [] values).total = d.of (totalsOf latest peers) := by
  have hsum : (values.map Prod.snd).sum = totalsOf latest peers := by
    rw [(hvalues.map Prod.snd).sum_eq, ifaceTotals, sum_tally, List.map_map, totals_of_eq_sum]
    rfl
  rw [← hsum, Direction.of_sum, List.map_map]
  cases d <;> rfl

/-- The figures behind what the dashboard shows. -/
structure Behind (f : Figures) (interfaces : List Interface) (view : TrafficView) : Prop where
  ifaces : view.interfaces = List.zipWith (fun iface total =>
    ⟨iface.name, iface.status.asStr, humanBytes total.1, humanBytes total.2⟩) interfaces f.ifaces
  tx : view.totalTx = humanBytes f.total.1
  rx : view.totalRx = humanBytes f.total.2

/-- What is shown are the figures. -/
theorem view_figures (crates : WebCrates) {peers : List Peer} (interfaces : List Interface)
    (series : List SeriesPoint) {values : List (Id InterfaceMarker × (UInt64 × UInt64))}
    (hvalues : values.Perm (ifaceTotals latest peers)) :
    Behind (figures latest peers interfaces values) interfaces
      (trafficView crates latest peers interfaces series) where
  ifaces := by
    simp only [figures, List.zipWith_map_right, List.zipWith_self, total_of_iface]
    rfl
  tx := congrArg humanBytes (sum_values hvalues .tx).symm
  rx := congrArg humanBytes (sum_values hvalues .rx).symm

/-! ## The sums -/

/-- The sums fit in 64 bits. -/
structure SumsFit (db : Db) : Prop where
  all : ∀ d, (db.peers.rows.map (latestBytes d db.traffic)).sum < 2 ^ 64
  each : ∀ peer ∈ db.peers.rows, latestTotal db.traffic peer < 2 ^ 64

/-- The latest snapshot of every peer has counters that a signed column holds. -/
def CountersSigned (db : Db) : Prop :=
  ∀ peer ∈ db.peers.rows, ∀ row ∈ lastSnapshot db.traffic peer.id, ∀ d : Direction,
    (d.counter row).toNat < 2 ^ 63

/-- The bytes that are read for a peer. -/
def readBytes (d : Direction) (traffic : List TrafficSnapshot) (peer : Peer) : Nat :=
  (d.of (countersOf (latestPerPeer traffic) peer.id)).toNat

theorem stored_counter_le (n : UInt64) : (storedCounter n).toNat ≤ n.toNat := by
  unfold storedCounter
  split
  · exact Nat.le_refl _
  · exact Nat.zero_le _

theorem stored_counter_eq_iff (n : UInt64) :
    (storedCounter n).toNat = n.toNat ↔ n.toNat < 2 ^ 63 := by
  unfold storedCounter
  split
  · rename_i h
    exact iff_of_true rfl h
  · rename_i h
    refine iff_of_false (fun heq => h ?_) h
    have hzero : (0 : UInt64).toNat = 0 := rfl
    omega

theorem read_bytes_le (d : Direction) (traffic : List TrafficSnapshot) (peer : Peer) :
    readBytes d traffic peer ≤ latestBytes d traffic peer := by
  rw [readBytes, latestBytes, counters_of_latest]
  cases lastSnapshot traffic peer.id with
  | none => exact Nat.le_refl _
  | some row => exact stored_counter_le _

theorem read_bytes_eq_iff (d : Direction) (traffic : List TrafficSnapshot) (peer : Peer) :
    readBytes d traffic peer = latestBytes d traffic peer ↔
      ∀ row ∈ lastSnapshot traffic peer.id, (d.counter row).toNat < 2 ^ 63 := by
  rw [readBytes, latestBytes, counters_of_latest]
  cases lastSnapshot traffic peer.id with
  | none => exact iff_of_true rfl fun row hrow => by cases hrow
  | some row =>
      refine (stored_counter_eq_iff _).trans ⟨fun h other hother => ?_, fun h => h row rfl⟩
      cases hother
      exact h

/-- The sum over some peers, if that over all of them fits. -/
theorem to_nat_totals_of (d : Direction) {traffic : List TrafficSnapshot} {peers : List Peer}
    (h : (peers.map (latestBytes d traffic)).sum < 2 ^ 64) :
    (d.of (totalsOf (latestPerPeer traffic) peers)).toNat =
      (peers.map (readBytes d traffic)).sum := by
  have hsum : ((peers.map (d.of ∘ fun peer =>
      countersOf (latestPerPeer traffic) peer.id)).map UInt64.toNat).sum =
        (peers.map (readBytes d traffic)).sum := by
    rw [List.map_map]
    rfl
  have hle : (peers.map (readBytes d traffic)).sum ≤ (peers.map (latestBytes d traffic)).sum :=
    List.sum_le_sum fun peer _ => read_bytes_le d traffic peer
  rw [totals_of_eq_sum, Direction.of_sum, List.map_map]
  exact (to_nat_sum (by rw [hsum]; omega)).trans hsum

/-! ## The ranking -/

/-- The traffic of a peer, as it is ranked. -/
def rankedTotal (latest : List PeerTrafficRow) (peer : Peer) : UInt64 :=
  (countersOf latest peer.id).1 + (countersOf latest peer.id).2

/-- The row of a peer that has had traffic. -/
def rowOf (latest : List PeerTrafficRow) (interfaces : List Interface) (peer : Peer) :
    PeerTraffic :=
  ⟨peer.name, ((interfaces.reverse.find? (·.id = peer.interfaceId)).map Interface.name).getD "",
    humanBytes (countersOf latest peer.id).1, humanBytes (countersOf latest peer.id).2⟩

/-- The peers that are listed. -/
def listed (latest : List PeerTrafficRow) (peers : List Peer) : List Peer :=
  highest 5 (fun peer => (rankedTotal latest peer).toNat)
    (peers.filter (rankedTotal latest · ≠ 0))

/-- The rows that are shown are those of the listed peers, each with its traffic. -/
theorem top_eq_listed (latest : List PeerTrafficRow) (interfaces : List Interface)
    (peers : List Peer) :
    top latest interfaces peers = (listed latest peers).map fun peer =>
      (rankedTotal latest peer, rowOf latest interfaces peer) := by
  have hrows : peers.filterMap (peerRow latest interfaces) =
      (peers.filter (rankedTotal latest · ≠ 0)).map fun peer =>
        (rankedTotal latest peer, rowOf latest interfaces peer) := by
    rw [← List.filterMap_eq_map, List.filterMap_filter]
    refine List.filterMap_congr fun peer _ => ?_
    show (if rankedTotal latest peer = 0 then none else _) = _
    by_cases h : rankedTotal latest peer = 0
    · simp [h]
    · simp only [h, if_false, ne_eq, not_false_eq_true, decide_true, if_true]
      rfl
  rw [top, hrows, listed, highest, List.map_take]
  refine congrArg (List.take 5) (List.map_insertionSort _ _ _ _ fun a _ b _ => ?_).symm
  exact UInt64.le_iff_toNat_le.symm

/-- The row of a peer, from its interface and its latest snapshot. -/
def latestRow (db : Db) (peer : Peer) : PeerTraffic :=
  ⟨peer.name, ((db.interfaces.find peer.interfaceId).map Interface.name).getD "",
    humanBytes (.ofNat (latestBytes .tx db.traffic peer)),
    humanBytes (.ofNat (latestBytes .rx db.traffic peer))⟩

/-- What the view lists are these peers, in this order. -/
structure Lists (db : Db) (view : TrafficView) (peers : List Peer) : Prop where
  labels : view.peerLabels = peers.map Peer.name
  totals : view.peerTotals.map UInt64.toNat = peers.map (latestTotal db.traffic)
  rows : view.peers = peers.map (latestRow db)

/-- These are the peers with the most traffic. -/
structure Leading (db : Db) (peers : List Peer) : Prop where
  nodup : peers.Nodup
  stored : ∀ peer ∈ peers, peer ∈ db.peers.rows
  length : peers.length = min 5 (db.peers.rows.countP (latestTotal db.traffic · ≠ 0))
  ranked : (peers.map (latestTotal db.traffic)).Pairwise (· ≥ ·)
  leftOut : ∀ peer ∈ db.peers.rows, peer ∉ peers → ∀ other ∈ peers,
    latestTotal db.traffic peer ≤ latestTotal db.traffic other

/-- The dashboard adds up. -/
structure AddsUp (db : Db) (f : Figures) (view : TrafficView) : Prop where
  ifaces : ∀ d : Direction,
    (f.ifaces.map fun total => (d.of total).toNat).sum = (d.of f.total).toNat
  total : ∀ d : Direction,
    (d.of f.total).toNat = (db.peers.rows.map (latestBytes d db.traffic)).sum
  ranking : ∃ peers, Lists db view peers ∧ Leading db peers

section Listed

variable {db : Db} {peers : List Peer}

/-- Counters that a signed column holds are read as they are. -/
theorem read_bytes_signed (hsigned : CountersSigned db) {peer : Peer} (hpeer : peer ∈ db.peers.rows)
    (d : Direction) :
    (d.of (countersOf (latestPerPeer db.traffic) peer.id)).toNat = latestBytes d db.traffic peer :=
  (read_bytes_eq_iff d db.traffic peer).mpr fun row hrow => hsigned peer hpeer row hrow d

theorem ranked_total_signed (hsigned : CountersSigned db) (hfits : SumsFit db) {peer : Peer}
    (hpeer : peer ∈ db.peers.rows) :
    (rankedTotal (latestPerPeer db.traffic) peer).toNat = latestTotal db.traffic peer := by
  have htx := read_bytes_signed hsigned hpeer .tx
  have hrx := read_bytes_signed hsigned hpeer .rx
  have heach := hfits.each peer hpeer
  unfold latestTotal at heach ⊢
  rw [rankedTotal, UInt64.toNat_add, ← htx, ← hrx]
  rw [← htx, ← hrx] at heach
  exact Nat.mod_eq_of_lt heach

/-- The interface of a peer is found in the list of all interfaces. -/
theorem row_of_signed (hsigned : CountersSigned db) {peer : Peer} (hpeer : peer ∈ db.peers.rows) :
    rowOf (latestPerPeer db.traffic) (sortedBy Interface.name db.interfaces.rows) peer =
      latestRow db peer := by
  have hiface : (sortedBy Interface.name db.interfaces.rows).reverse.find?
      (·.id = peer.interfaceId) = db.interfaces.find peer.interfaceId := by
    refine find_eq_of_unique (fun iface => ?_) fun iface hiface other hother h h' => ?_
    · rw [List.mem_reverse, mem_sorted_by]
    · rw [decide_eq_true_eq] at h h'
      exact Table.eq_of_key hiface hother (h.trans h'.symm)
  have hread : ∀ d : Direction, d.of (countersOf (latestPerPeer db.traffic) peer.id) =
      .ofNat (latestBytes d db.traffic peer) := fun d => by
    rw [← read_bytes_signed hsigned hpeer d, UInt64.ofNat_toNat]
  have htx : (countersOf (latestPerPeer db.traffic) peer.id).1 = _ := hread .tx
  have hrx : (countersOf (latestPerPeer db.traffic) peer.id).2 = _ := hread .rx
  rw [rowOf, hiface, htx, hrx]
  rfl

/-- The listed peers are those with the most traffic. -/
theorem listed_leading (hsigned : CountersSigned db) (hfits : SumsFit db)
    (hpeers : peers.Perm db.peers.rows) :
    Leading db (listed (latestPerPeer db.traffic) peers) := by
  have htotal : ∀ peer ∈ db.peers.rows,
      (rankedTotal (latestPerPeer db.traffic) peer).toNat = latestTotal db.traffic peer :=
    fun peer hpeer => ranked_total_signed hsigned hfits hpeer
  have hzero : ∀ peer ∈ db.peers.rows,
      rankedTotal (latestPerPeer db.traffic) peer ≠ 0 ↔ latestTotal db.traffic peer ≠ 0 := by
    intro peer hpeer
    rw [← htotal peer hpeer]
    exact not_congr ⟨fun h => congrArg UInt64.toNat h, fun h => UInt64.toNat_inj.mp h⟩
  have hmem : ∀ {peer}, peer ∈ listed (latestPerPeer db.traffic) peers → peer ∈ db.peers.rows :=
    fun hpeer => hpeers.mem_iff.mp (List.mem_filter.mp (mem_of_highest hpeer)).1
  have hnodup : peers.Nodup :=
    hpeers.nodup_iff.mpr (List.Nodup.of_map _ db.peers.nodup)
  refine ⟨nodup_highest (hnodup.filter _), fun peer => hmem, ?_, ?_, ?_⟩
  · rw [listed, length_highest, ← List.countP_eq_length_filter, hpeers.countP_eq]
    refine congrArg (min 5) (List.countP_congr fun peer hpeer => ?_)
    simp only [decide_eq_true_eq]
    exact hzero peer hpeer
  · rw [List.pairwise_map]
    refine ranked_highest.imp_of_mem fun {a b} ha hb hrank => ?_
    rw [← htotal a (hmem ha), ← htotal b (hmem hb)]
    exact hrank
  · intro peer hpeer hout other hother
    by_cases hnone : latestTotal db.traffic peer = 0
    · rw [hnone]
      exact Nat.zero_le _
    · have hin : peer ∈ peers.filter (rankedTotal (latestPerPeer db.traffic) · ≠ 0) :=
        List.mem_filter.mpr ⟨hpeers.mem_iff.mpr hpeer,
          decide_eq_true ((hzero peer hpeer).mpr hnone)⟩
      have hrank := rank_le_highest hin hout hother
      rwa [htotal peer hpeer, htotal other (hmem hother)] at hrank

/-- The view lists them. -/
theorem lists_listed (crates : WebCrates) (series : List SeriesPoint)
    (hsigned : CountersSigned db) (hfits : SumsFit db) (hpeers : peers.Perm db.peers.rows) :
    Lists db (trafficView crates (latestPerPeer db.traffic) peers
      (sortedBy Interface.name db.interfaces.rows) series)
      (listed (latestPerPeer db.traffic) peers) := by
  have hmem : ∀ {peer}, peer ∈ listed (latestPerPeer db.traffic) peers → peer ∈ db.peers.rows :=
    fun hpeer => hpeers.mem_iff.mp (List.mem_filter.mp (mem_of_highest hpeer)).1
  constructor
  · simp only [trafficView, top_eq_listed, List.map_map]
    rfl
  · simp only [trafficView, top_eq_listed, List.map_map]
    exact List.map_congr_left fun peer hpeer => ranked_total_signed hsigned hfits (hmem hpeer)
  · simp only [trafficView, top_eq_listed, List.map_map]
    exact List.map_congr_left fun peer hpeer => row_of_signed hsigned (hmem hpeer)

/-- The totals of the interfaces add up to the total, since every peer has an interface. -/
theorem ifaces_add_up (d : Direction) (hfits : SumsFit db) (hpeers : peers.Perm db.peers.rows)
    {interfaces : List Interface} (hinterfaces : interfaces.Perm db.interfaces.rows)
    {values : List (Id InterfaceMarker × (UInt64 × UInt64))}
    (hvalues : values.Perm (ifaceTotals (latestPerPeer db.traffic) peers)) :
    (d.of (figures (latestPerPeer db.traffic) peers interfaces values).total).toNat =
        (db.peers.rows.map (readBytes d db.traffic)).sum ∧
      ((figures (latestPerPeer db.traffic) peers interfaces values).ifaces.map
          fun total => (d.of total).toNat).sum =
        (db.peers.rows.map (readBytes d db.traffic)).sum := by
  have hall : (peers.map (latestBytes d db.traffic)).sum < 2 ^ 64 := by
    rw [(hpeers.map _).sum_eq]
    exact hfits.all d
  have hsame := (hpeers.map (readBytes d db.traffic)).sum_eq
  constructor
  · have htotal : d.of (figures (latestPerPeer db.traffic) peers interfaces values).total =
        d.of (totalsOf (latestPerPeer db.traffic) peers) := sum_values hvalues d
    rw [htotal, to_nat_totals_of d hall, hsame]
  · -- the sum over the interfaces is a sum group by group
    have hkeys : (interfaces.map Interface.id).Nodup :=
      (hinterfaces.map _).nodup_iff.mpr db.interfaces.nodup
    have hcover : ∀ peer ∈ peers, peer.interfaceId ∈ interfaces.map Interface.id := by
      intro peer hpeer
      obtain ⟨iface, hiface⟩ :=
        Option.isSome_iff_exists.mp (db.references peer (hpeers.mem_iff.mp hpeer))
      obtain ⟨hmem, hid⟩ := Table.find_eq_some.mp hiface
      exact List.mem_map.mpr ⟨iface, hinterfaces.mem_iff.mpr hmem, hid⟩
    rw [← hsame, ← sum_fibers hkeys Peer.interfaceId (readBytes d db.traffic) hcover, figures,
      List.map_map, List.map_map]
    refine congrArg List.sum (List.map_congr_left fun iface _ => ?_)
    have hsome : ((peers.filter (·.interfaceId = iface.id)).map
        (latestBytes d db.traffic)).sum < 2 ^ 64 :=
      Nat.lt_of_le_of_lt
        ((List.filter_sublist.map (latestBytes d db.traffic)).sum_le_sum fun _ _ => Nat.zero_le _)
        hall
    show (d.of (totalOf (ifaceTotals (latestPerPeer db.traffic) peers) iface.id)).toNat = _
    rw [total_of_iface, to_nat_totals_of d hsome]
    rfl

end Listed

/-! ## The dashboard -/

/-- A snapshot that is built shows what the tables hold. -/
theorem eval_build {crates : WebCrates} {outage : Outage} {s s' : Site} {view : TrafficView}
    (h : eval (serve outage) (buildTrafficSnapshot crates) s = (.ok view, s')) :
    ∃ series, view = trafficView crates (latestPerPeer s.host.db.traffic)
      (sortedBy Peer.createdAt s.host.db.peers.rows)
      (sortedBy Interface.name s.host.db.interfaces.rows) series := by
  obtain ⟨latest, s1, hlatest, h⟩ := eval_bind_ok.mp h
  obtain ⟨peers, s2, hpeers, h⟩ := eval_bind_ok.mp h
  obtain ⟨interfaces, s3, hinterfaces, h⟩ := eval_bind_ok.mp h
  obtain ⟨now, s4, -, h⟩ := eval_bind_ok.mp h
  -- none of the reads changes the tables
  obtain ⟨rfl, rfl⟩ : latest = latestPerPeer s.host.db.traffic ∧ s1 = s := by
    rw [Web.eval_repo_ok, SqliteTrafficRepository.latestPerPeer, eval_or_else] at hlatest
    simp only [exec_request, serve, Outage.read, Outage.outcome] at hlatest
    cases herror : outage.error .latestPerPeer with
    | none =>
        rw [herror] at hlatest
        cases hlatest
        exact ⟨rfl, rfl⟩
    | some text =>
        rw [herror] at hlatest
        cases hlatest
  obtain ⟨rfl, rfl⟩ := Web.service_read_ok (fun _ => SqlitePeerRepository.eval_list_all) hpeers
  obtain ⟨rfl, rfl⟩ := Web.service_read_ok (fun _ => SqliteInterfaceRepository.eval_list)
    hinterfaces
  cases hsince : now.add dayBefore with
  | error panic =>
      rw [hsince] at h
      cases h
  | ok since =>
      rw [hsince] at h
      obtain ⟨series, s5, -, h⟩ := eval_bind_ok.mp h
      cases h
      exact ⟨series, rfl⟩

/-- The figures behind the dashboard, with the map of the totals in the order in which its values
are read. -/
def dashboardFigures (db : Db) (values : List (Id InterfaceMarker × (UInt64 × UInt64))) :
    Figures :=
  figures (latestPerPeer db.traffic) (sortedBy Peer.createdAt db.peers.rows)
    (sortedBy Interface.name db.interfaces.rows) values

/-- The map of the totals behind the dashboard. -/
def dashboardTotals (db : Db) : List (Id InterfaceMarker × (UInt64 × UInt64)) :=
  ifaceTotals (latestPerPeer db.traffic) (sortedBy Peer.createdAt db.peers.rows)

/-- While the sums fit in 64 bits, a dashboard that is shown adds up if and only if the latest
snapshot of every peer has counters that the signed columns hold. -/
theorem dashboard_adds_up_iff (crates : WebCrates) (outage : Outage) {s s' : Site}
    {view : TrafficView}
    (hview : eval (serve outage) (buildTrafficSnapshot crates) s = (.ok view, s'))
    (hfits : SumsFit s.host.db) {values : List (Id InterfaceMarker × (UInt64 × UInt64))}
    (hvalues : values.Perm (dashboardTotals s.host.db)) :
    Behind (dashboardFigures s.host.db values)
        (sortedBy Interface.name s.host.db.interfaces.rows) view ∧
      (AddsUp s.host.db (dashboardFigures s.host.db values) view ↔
        CountersSigned s.host.db) := by
  obtain ⟨series, rfl⟩ := eval_build hview
  have hpeers : (sortedBy Peer.createdAt s.host.db.peers.rows).Perm s.host.db.peers.rows :=
    List.perm_insertionSort _ _
  have hinterfaces : (sortedBy Interface.name s.host.db.interfaces.rows).Perm
      s.host.db.interfaces.rows := List.perm_insertionSort _ _
  have hsums := fun d => ifaces_add_up d hfits hpeers hinterfaces hvalues
  refine ⟨view_figures crates _ series hvalues, fun h => ?_, fun hsigned => ?_⟩
  · -- a counter that is read as less than it is makes the total too small
    intro peer hpeer row hrow d
    have hread : readBytes d s.host.db.traffic peer = latestBytes d s.host.db.traffic peer := by
      by_contra hne
      have hlt := Nat.lt_of_le_of_ne (read_bytes_le d s.host.db.traffic peer) hne
      have hsum := List.sum_lt_sum (readBytes d s.host.db.traffic)
        (latestBytes d s.host.db.traffic)
        (fun other _ => read_bytes_le d s.host.db.traffic other) ⟨peer, hpeer, hlt⟩
      exact absurd ((hsums d).1.symm.trans (h.total d)) (Nat.ne_of_lt hsum)
    exact (read_bytes_eq_iff d s.host.db.traffic peer).mp hread row hrow
  · have hread : ∀ d, (s.host.db.peers.rows.map (readBytes d s.host.db.traffic)).sum =
        (s.host.db.peers.rows.map (latestBytes d s.host.db.traffic)).sum := fun d =>
      congrArg List.sum (List.map_congr_left fun peer hpeer => read_bytes_signed hsigned hpeer d)
    exact {
      ifaces := fun d => (hsums d).2.trans (hsums d).1.symm
      total := fun d => (hsums d).1.trans (hread d)
      ranking := ⟨_, lists_listed crates series hsigned hfits hpeers,
        listed_leading hsigned hfits hpeers⟩ }

/-- A site with one interface and one peer, whose only snapshot has this many sent bytes. -/
def meteredSite (tx : UInt64) : Site :=
  let db : Db := .single (.plain 0 "wg0" none none) (.plain 0 0 "laptop" none none)
    [⟨⟨0⟩, tx, 7, none, ⟨0⟩⟩]
  { Site.fresh .default with host := { World.fresh [] with db } }

theorem metered_sums_fit (tx : UInt64) (htx : tx.toNat + 7 < 2 ^ 64) :
    SumsFit (meteredSite tx).host.db where
  all d := by
    cases d with
    | tx => exact Nat.lt_of_le_of_lt (Nat.le_add_right tx.toNat 7) htx
    | rx => exact (by decide : 7 < 2 ^ 64)
  each peer hpeer := by
    obtain rfl := List.mem_singleton.mp hpeer
    exact htx

/-- A peer that has sent 2^63 bytes does not count. -/
theorem dashboard_misses_counter :
    SumsFit (meteredSite 9223372036854775808).host.db ∧ ∃ view s',
      eval (serve .none) (buildTrafficSnapshot .transparent) (meteredSite 9223372036854775808) =
        (.ok view, s') ∧
      view.totalTx = "0 B" ∧
      ¬ AddsUp (meteredSite 9223372036854775808).host.db
        (dashboardFigures (meteredSite 9223372036854775808).host.db
          (dashboardTotals (meteredSite 9223372036854775808).host.db)) view := by
  refine ⟨metered_sums_fit _ (by decide +kernel), _, _, rfl, by decide +kernel, fun h => ?_⟩
  have hfigures : (Direction.tx.of (dashboardFigures (meteredSite 9223372036854775808).host.db
      (dashboardTotals (meteredSite 9223372036854775808).host.db)).total).toNat = 0 ∧
      ((meteredSite 9223372036854775808).host.db.peers.rows.map (latestBytes .tx
        (meteredSite 9223372036854775808).host.db.traffic)).sum = 9223372036854775808 := by
    decide +kernel
  have htotal := h.total .tx
  rw [hfigures.1, hfigures.2] at htotal
  cases htotal

/-- Six peers on two interfaces, of which the last has sent the most. -/
def busySite : Site :=
  let peers := (List.range 6).map fun n => Peer.plain n (n % 2) s!"peer-{n}" none none
  let traffic : List TrafficSnapshot := (List.range 6).map fun (n : Nat) =>
    ⟨⟨n⟩, 1024 * n.toUInt64, 7, none, ⟨0⟩⟩
  let db := Db.filled [.plain 0 "wg0" none none, .plain 1 "wg1" none none] peers
  { Site.fresh .default with host := { World.fresh [] with db := { db with traffic } } }

theorem busy_sums_fit : SumsFit busySite.host.db where
  all d := by cases d <;> decide +kernel
  each := by decide +kernel

theorem busy_counters_signed : CountersSigned busySite.host.db := by
  have hsigned : ∀ peer ∈ busySite.host.db.peers.rows,
      ∀ row ∈ lastSnapshot busySite.host.db.traffic peer.id,
        row.tx.toNat < 2 ^ 63 ∧ row.rx.toNat < 2 ^ 63 := by decide +kernel
  intro peer hpeer row hrow d
  obtain ⟨htx, hrx⟩ := hsigned peer hpeer row hrow
  cases d with
  | tx => exact htx
  | rx => exact hrx

/-- The interfaces add up to the total, and the five peers with the most traffic are ranked. -/
theorem dashboard_adds_up_busy :
    ∃ view s', eval (serve .none) (buildTrafficSnapshot .transparent) busySite = (.ok view, s') ∧
      Behind (dashboardFigures busySite.host.db (dashboardTotals busySite.host.db))
        (sortedBy Interface.name busySite.host.db.interfaces.rows) view ∧
      AddsUp busySite.host.db
        (dashboardFigures busySite.host.db (dashboardTotals busySite.host.db)) view ∧
      view.interfaces.map IfaceTraffic.tx = ["6.0 KiB", "9.0 KiB"] ∧ view.totalTx = "15.0 KiB" ∧
      view.peerLabels = ["peer-5", "peer-4", "peer-3", "peer-2", "peer-1"] := by
  have hshown : (eval (serve .none) (buildTrafficSnapshot .transparent) busySite).1.map
      (fun view => (view.interfaces.map IfaceTraffic.tx, view.totalTx, view.peerLabels)) =
        .ok (["6.0 KiB", "9.0 KiB"], "15.0 KiB",
          ["peer-5", "peer-4", "peer-3", "peer-2", "peer-1"]) := by decide +kernel
  cases hview : eval (serve .none) (buildTrafficSnapshot .transparent) busySite with
  | mk result s' =>
      rw [hview] at hshown
      cases result with
      | error e => cases hshown
      | ok view =>
          obtain ⟨hbehind, hadds⟩ :=
            dashboard_adds_up_iff .transparent .none hview busy_sums_fit .rfl
          obtain ⟨hifaces, hrest⟩ := Prod.mk.inj (Except.ok.inj hshown)
          obtain ⟨htotal, hlabels⟩ := Prod.mk.inj hrest
          exact ⟨view, s', rfl, hbehind, hadds.mpr busy_counters_signed, hifaces, htotal,
            hlabels⟩

end Routes.Dashboard

end Wireforge
