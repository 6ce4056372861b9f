import Wireforge.Lifecycle.Agreement

/-!
# A pass of the poller

While nothing fails, a pass stores the counters that the kernel reports and cuts off exactly the
enabled peers that have used up their quota. Every part of a pass maps the rows of the peers and
takes the entries of the rows that it disables out of the devices; `Passes` says so of a map, and
the maps of the parts compose.
-/

namespace Wireforge

open Effect DefguardAdapter Poller

variable {now : DateTime} {w w' w'' : World} {peer : Peer} {f g : Peer → Peer}

/-! ## What a reading makes of a row -/

/-- The row after a reading: the counters are added up, and a peer whose quota is not above the sum
is disabled. -/
def Peer.metered (now : DateTime) (s : PeerStats) (peer : Peer) : Peer :=
  let total := saturatingAdd s.rxBytes s.txBytes
  let spent := peer.enabled && peer.bandwidthQuotaBytes.any (· ≤ total)
  { peer with
    bandwidthUsedBytes := total
    enabled := peer.enabled && !spent
    updatedAt := if spent then now else peer.updatedAt }

/-- The reading of a key. -/
def readingOf (stats : List PeerStats) (key : WgPublicKey) : Option PeerStats :=
  stats.find? (·.publicKey = key)

/-- The row after the readings of its interface. -/
def Peer.meteredBy (now : DateTime) (stats : List PeerStats) (peer : Peer) : Peer :=
  match readingOf stats peer.publicKey with
  | some s => peer.metered now s
  | none => peer

/-! ## Maps of the rows -/

/-- A map of the rows that keeps what identifies a peer and enables none. -/
structure Metering (f : Peer → Peer) : Prop where
  id : ∀ peer, (f peer).id = peer.id
  interfaceId : ∀ peer, (f peer).interfaceId = peer.interfaceId
  publicKey : ∀ peer, (f peer).publicKey = peer.publicKey
  enabled : ∀ peer, (f peer).enabled = true → peer.enabled = true

theorem Metering.comp (hg : Metering g) (hf : Metering f) : Metering (g ∘ f) where
  id peer := (hg.id _).trans (hf.id peer)
  interfaceId peer := (hg.interfaceId _).trans (hf.interfaceId peer)
  publicKey peer := (hg.publicKey _).trans (hf.publicKey peer)
  enabled peer h := hf.enabled peer (hg.enabled _ h)

theorem metering_id : Metering id :=
  ⟨fun _ => rfl, fun _ => rfl, fun _ => rfl, fun _ h => h⟩

theorem metering_metered (now : DateTime) (s : PeerStats) : Metering (Peer.metered now s) where
  id _ := rfl
  interfaceId _ := rfl
  publicKey _ := rfl
  enabled _ h := (Bool.and_eq_true_iff.mp h).1

/-- A map of some of the rows. -/
theorem Metering.ite (h : Metering f) (c : Peer → Prop) [DecidablePred c] :
    Metering fun peer => if c peer then f peer else peer where
  id peer := by split; exacts [h.id peer, rfl]
  interfaceId peer := by split; exacts [h.interfaceId peer, rfl]
  publicKey peer := by split; exacts [h.publicKey peer, rfl]
  enabled peer := by split; exacts [h.enabled peer, fun h => h]

/-- The map disables a peer with this key on the device of this name. -/
def CutOff (db : Db) (f : Peer → Peer) (name : String) (key : Key) : Prop :=
  ∃ peer ∈ db.peers.rows, ∃ iface, db.interfaces.find peer.interfaceId = some iface ∧
    iface.name = name ∧ peer.publicKey.key = key ∧ peer.enabled = true ∧ (f peer).enabled = false

/-- The entries that are cut off are gone, and the others are as they were. -/
structure Unlisted (cut : String → Key → Prop) (devices devices' : Devices) : Prop where
  config : ∀ name, (devices' name).map Device.config = (devices name).map Device.config
  gone : ∀ name device key, devices' name = some device → cut name key → device.peers key = none
  kept : ∀ name key, ¬ cut name key →
    (devices' name).map (·.peers key) = (devices name).map (·.peers key)

/-- A part of a pass: it maps the rows, takes the entries of the rows that it disables out of the
devices, and leaves everything else but the stored readings alone. -/
structure Passes (w w' : World) (f : Peer → Peer) : Prop where
  metering : Metering f
  rows : w'.db.peers.rows = w.db.peers.rows.map f
  devices : Unlisted (CutOff w.db f) w.devices w'.devices
  interfaces : w'.db.interfaces = w.db.interfaces
  net : w'.net = w.net
  spawned : w'.spawned = w.spawned
  env : w'.env = w.env

namespace Unlisted

variable {cut cut' : String → Key → Prop} {devices devices' devices'' : Devices}

theorem refl (h : ∀ name key, ¬ cut name key) : Unlisted cut devices devices where
  config _ := rfl
  gone name _ key _ hcut := absurd hcut (h name key)
  kept _ _ _ := rfl

theorem congr (h : Unlisted cut devices devices')
    (hcut : ∀ name key, cut name key ↔ cut' name key) : Unlisted cut' devices devices' where
  config := h.config
  gone name device key hdevice hkey := h.gone name device key hdevice ((hcut name key).mpr hkey)
  kept name key hkey := h.kept name key (mt (hcut name key).mp hkey)

/-- What one change and then another one takes out. -/
theorem trans (h : Unlisted cut devices devices') (h' : Unlisted cut' devices' devices'') :
    Unlisted (fun name key => cut name key ∨ cut' name key) devices devices'' where
  config name := (h'.config name).trans (h.config name)
  gone name device key hdevice hcut := by
    by_cases hlater : cut' name key
    · exact h'.gone name device key hdevice hlater
    · -- the entry was taken out before, and has not come back
      have hearlier := hcut.resolve_right hlater
      have hsame := h'.kept name key hlater
      rw [hdevice, Option.map_some] at hsame
      obtain ⟨before, hbefore, heq⟩ := Option.map_eq_some_iff.mp hsame.symm
      exact heq.symm.trans (h.gone name before key hbefore hearlier)
  kept name key hcut :=
    (h'.kept name key fun hkey => hcut (.inr hkey)).trans
      (h.kept name key fun hkey => hcut (.inl hkey))

/-- Removing the entry of one key. -/
theorem remove_one (devices : Devices) (name : String) (key : Key) :
    Unlisted (fun n k => n = name ∧ k = key) devices (devices.setPeer name key none) where
  config n := by
    unfold Devices.setPeer
    by_cases hn : n = name
    · subst hn
      rw [Function.update_self, Option.map_map]
      rfl
    · rw [Function.update_of_ne hn]
  gone n device k hdevice hcut := by
    obtain ⟨rfl, rfl⟩ := hcut
    rw [Devices.setPeer, Function.update_self] at hdevice
    obtain ⟨before, -, rfl⟩ := Option.map_eq_some_iff.mp hdevice
    exact Function.update_self ..
  kept n k hcut := by
    unfold Devices.setPeer
    by_cases hn : n = name
    · subst hn
      have hk : k ≠ key := fun heq => hcut ⟨rfl, heq⟩
      rw [Function.update_self, Option.map_map]
      refine congrArg (Option.map · _) (funext fun device => ?_)
      exact Function.update_of_ne hk _ _
    · rw [Function.update_of_ne hn]

end Unlisted

namespace Passes

theorem refl (w : World) : Passes w w id where
  metering := metering_id
  rows := (List.map_id _).symm
  devices := .refl fun name key hcut => by
    obtain ⟨peer, -, iface, -, -, -, henabled, hdisabled⟩ := hcut
    rw [id, henabled] at hdisabled
    cases hdisabled
  interfaces := rfl
  net := rfl
  spawned := rfl
  env := rfl

/-- Two parts, one after the other. -/
theorem trans (h : Passes w w' f) (h' : Passes w' w'' g) : Passes w w'' (g ∘ f) where
  metering := h'.metering.comp h.metering
  rows := by rw [h'.rows, h.rows, List.map_map]
  devices := by
    refine (h.devices.trans h'.devices).congr fun name key => ?_
    unfold CutOff
    constructor
    · rintro (⟨peer, hpeer, iface, hiface, hname, hkey, henabled, hdisabled⟩ |
        ⟨peer', hpeer', iface, hiface, hname, hkey, henabled, hdisabled⟩)
      · refine ⟨peer, hpeer, iface, hiface, hname, hkey, henabled, ?_⟩
        exact Bool.eq_false_iff.mpr fun hlast =>
          Bool.false_ne_true (hdisabled.symm.trans (h'.metering.enabled _ hlast))
      · rw [h.rows] at hpeer'
        obtain ⟨peer, hpeer, rfl⟩ := List.mem_map.mp hpeer'
        rw [h.interfaces, h.metering.interfaceId] at hiface
        rw [h.metering.publicKey] at hkey
        exact ⟨peer, hpeer, iface, hiface, hname, hkey, h.metering.enabled _ henabled, hdisabled⟩
    · rintro ⟨peer, hpeer, iface, hiface, hname, hkey, henabled, hdisabled⟩
      cases hfirst : (f peer).enabled with
      | false => exact .inl ⟨peer, hpeer, iface, hiface, hname, hkey, henabled, hfirst⟩
      | true =>
          refine .inr ⟨f peer, ?_, iface, ?_, hname, ?_, hfirst, hdisabled⟩
          · rw [h.rows]
            exact List.mem_map_of_mem hpeer
          · rw [h.interfaces, h.metering.interfaceId]
            exact hiface
          · rw [h.metering.publicKey]
            exact hkey
  interfaces := h'.interfaces.trans h.interfaces
  net := h'.net.trans h.net
  spawned := h'.spawned.trans h.spawned
  env := h'.env.trans h.env

/-- Only what the map makes of the rows counts. -/
theorem congr (h : Passes w w' f) (hg : Metering g) (heq : ∀ peer ∈ w.db.peers.rows,
    f peer = g peer) : Passes w w' g where
  metering := hg
  rows := h.rows.trans (List.map_congr_left heq)
  devices := h.devices.congr fun name key => by
    unfold CutOff
    refine exists_congr fun peer => and_congr_right fun hpeer => ?_
    rw [heq peer hpeer]
  interfaces := h.interfaces
  net := h.net
  spawned := h.spawned
  env := h.env

end Passes

/-! ## One reading -/

/-- The row with an identifier is mapped. -/
def atPeer (id : Id PeerMarker) (f : Peer → Peer) (row : Peer) : Peer :=
  if row.id = id then f row else row

theorem metering_at_peer (peerId : Id PeerMarker) (h : Metering f) : Metering (atPeer peerId f) :=
  h.ite (·.id = peerId)

/-- The row that a reading is for. -/
def IsMetered (iface : Interface) (s : PeerStats) (row : Peer) : Prop :=
  row.interfaceId = iface.id ∧ row.publicKey = s.publicKey

instance (iface : Interface) (s : PeerStats) : DecidablePred (IsMetered iface s) :=
  fun _ => inferInstanceAs (Decidable (_ ∧ _))

/-- A change of the database that keeps the peers and the interfaces. -/
theorem Passes.of_db {db : Db} (hpeers : db.peers = w.db.peers)
    (hinterfaces : db.interfaces = w.db.interfaces) : Passes w { w with db } id where
  metering := metering_id
  rows := by rw [List.map_id]; exact congrArg Table.rows hpeers
  devices := (Passes.refl w).devices
  interfaces := hinterfaces
  net := rfl
  spawned := rfl
  env := rfl

/-- Storing a reading passes over the rows. -/
theorem snapshot_passes (w : World) (peerId : Id PeerMarker) (tx rx : UInt64)
    (lastHandshake : Option DateTime) :
    Passes w (eval (handle .none)
      (SqliteTrafficRepository.snapshot peerId tx rx lastHandshake) w).2 id := by
  rcases SqliteTrafficRepository.snapshot_after .none w peerId tx rx lastHandshake with
    heq | ⟨db, row, hdb, heq⟩
  · rw [heq]
    exact .refl w
  · rw [heq]
    obtain ⟨hpeers, hinterfaces⟩ := Db.insert_snapshot_ok hdb
    exact .of_db hpeers hinterfaces

/-- Recording a counter maps the row with the identifier. -/
theorem record_bandwidth_passes (w : World) (peerId : Id PeerMarker) (bytes : UInt64) :
    Passes w (eval (handle .none) (SqlitePeerRepository.recordBandwidth peerId bytes) w).2
      (atPeer peerId fun row => { row with bandwidthUsedBytes := bytes }) := by
  have heval : (eval (handle .none) (SqlitePeerRepository.recordBandwidth peerId bytes) w).2 =
      { w with db := w.db.recordBandwidth peerId bytes } := rfl
  have hused : Metering fun row => { row with bandwidthUsedBytes := bytes } :=
    ⟨fun _ => rfl, fun _ => rfl, fun _ => rfl, fun _ h => h⟩
  rw [heval]
  refine ⟨metering_at_peer peerId hused, rfl, .refl fun name key hcut => ?_, rfl, rfl, rfl, rfl⟩
  obtain ⟨peer, -, iface, -, -, -, henabled, hdisabled⟩ := hcut
  unfold atPeer at hdisabled
  split at hdisabled <;> rw [henabled] at hdisabled <;> cases hdisabled

/-- Disabling an enabled peer maps its row and takes its entry out of the device. -/
theorem disable_peer_passes (hpeer : peer ∈ w.db.peers.rows) (henabled : peer.enabled = true) :
    ∃ w', eval (handle .none) (disablePeer peer.id) w = (.ok (), w') ∧
      Passes w w' (atPeer peer.id fun row =>
        { row with enabled := false, updatedAt := w.env.now }) := by
  obtain ⟨iface, hiface⟩ := Option.isSome_iff_exists.mp (w.db.references peer hpeer)
  have howned : (w.db.interfaces.find
      ({ peer with enabled := false } : Peer).interfaceId).isSome := w.db.references peer hpeer
  obtain ⟨db, hdb⟩ := Db.update_peer_exists howned w.env.now
  have hupdate : eval (handle .none)
      (SqlitePeerRepository.update { peer with enabled := false }) w = (.ok (), { w with db }) := by
    rcases SqlitePeerRepository.eval_update .none w { peer with enabled := false } with
      ⟨db', hdb', heval⟩ | ⟨hfails | ⟨e, hfails⟩, -⟩
    · obtain rfl : db' = db := Except.ok.inj (hdb'.symm.trans hdb)
      exact heval
    · cases hfails
    · cases hfails.symm.trans hdb
  have hdisabled : Metering fun row => { row with enabled := false, updatedAt := w.env.now } :=
    ⟨fun _ => rfl, fun _ => rfl, fun _ => rfl, fun _ h => by cases h⟩
  refine ⟨{ w with db, devices := w.devices.setPeer iface.name peer.publicKey.key none }, ?_,
    metering_at_peer peer.id hdisabled, ?_, ?_, (Db.update_peer_ok hdb).2, rfl, rfl, rfl⟩
  · unfold disablePeer
    simp only [eval_bind, eval_task_run, SqlitePeerRepository.eval_find_by_id, Plan.outcome_none,
      Table.find_of_mem hpeer, Except.mapError, SqliteInterfaceRepository.eval_find_by_id, hiface,
      hupdate, eval_ignore, remove_peer_after, Plan.uninstalled_none]
  · rw [(Db.update_peer_ok hdb).1]
    refine List.map_congr_left fun row hrow => ?_
    unfold Db.setPeer atPeer
    by_cases hid : row.id = peer.id
    · rw [if_pos hid, if_pos hid, Table.eq_of_key hrow hpeer hid]
    · rw [if_neg hid, if_neg hid]
  · refine (Unlisted.remove_one w.devices iface.name peer.publicKey.key).congr fun name key => ?_
    unfold CutOff atPeer
    constructor
    · rintro ⟨rfl, rfl⟩
      exact ⟨peer, hpeer, iface, hiface, rfl, rfl, henabled, by rw [if_pos rfl]⟩
    · rintro ⟨row, hrow, iface', hiface', rfl, rfl, hrowEnabled, hdisabled⟩
      by_cases hid : row.id = peer.id
      · obtain rfl := Table.eq_of_key hrow hpeer hid
        obtain rfl := Option.some.inj (hiface.symm.trans hiface')
        exact ⟨rfl, rfl⟩
      · rw [if_neg hid, hrowEnabled] at hdisabled
        cases hdisabled

/-- A row that was read is enforced: its counter is stored, and it is disabled if its quota is used
up. -/
theorem record_passes (hdistinct : KeysDistinct w.db) (iface : Interface) (peers : List Peer)
    (s : PeerStats)
    (hfound : byPubkey peers s.publicKey.asStr = w.db.peers.rows.find? (IsMetered iface s ·)) :
    ∃ w', eval (handle .none) (record peers s) w = (.ok (), w') ∧
      Passes w w' fun row => if IsMetered iface s row then row.metered w.env.now s else row := by
  have hmetering : Metering fun row =>
      if IsMetered iface s row then row.metered w.env.now s else row :=
    (metering_metered w.env.now s).ite (IsMetered iface s)
  unfold record
  rw [hfound]
  cases hfind : w.db.peers.rows.find? (IsMetered iface s ·) with
  | none =>
      refine ⟨w, rfl, (Passes.refl w).congr hmetering fun row hrow => ?_⟩
      have hnot : ¬ IsMetered iface s row := by
        simpa using List.find?_eq_none.mp hfind row hrow
      rw [if_neg hnot]
      rfl
  | some peer =>
      have hpeer : peer ∈ w.db.peers.rows := List.mem_of_find?_eq_some hfind
      have hmetered : IsMetered iface s peer := by simpa using List.find?_some hfind
      -- no other row of the interface has the key
      have honly : ∀ row ∈ w.db.peers.rows, IsMetered iface s row ↔ row.id = peer.id := by
        intro row hrow
        constructor
        · intro hrow'
          exact hdistinct row hrow peer hpeer (hrow'.1.trans hmetered.1.symm)
            (hrow'.2.trans hmetered.2.symm)
        · intro hid
          rwa [Table.eq_of_key hrow hpeer hid]
      have hsnapshot := snapshot_passes w peer.id s.txBytes s.rxBytes s.lastHandshake
      have hrecord := hsnapshot.trans (record_bandwidth_passes _ peer.id
        (saturatingAdd s.rxBytes s.txBytes))
      simp only [eval_bind, eval_ignore]
      generalize (eval (handle .none) (SqlitePeerRepository.recordBandwidth peer.id
        (saturatingAdd s.rxBytes s.txBytes)) _).2 = w' at hrecord ⊢
      cases hspent : peer.enabled && peer.bandwidthQuotaBytes.any
          (· ≤ saturatingAdd s.rxBytes s.txBytes) with
      | false =>
          refine ⟨w', ?_, hrecord.congr hmetering fun row hrow => ?_⟩
          · cases hquota : peer.bandwidthQuotaBytes with
            | none => rfl
            | some quota =>
                rw [hquota, Option.any_some, Bool.and_comm] at hspent
                simp only [hspent, Bool.false_eq_true, if_false, eval_pure]
          · show atPeer peer.id _ row = _
            unfold atPeer
            by_cases hid : row.id = peer.id
            · obtain rfl := Table.eq_of_key hrow hpeer hid
              rw [if_pos rfl, if_pos hmetered]
              unfold Peer.metered
              simp [hspent]
            · rw [if_neg hid, if_neg (mt (honly row hrow).mp hid)]
      | true =>
          obtain ⟨henabled, hquota⟩ := Bool.and_eq_true_iff.mp hspent
          -- the row as it is after the counter was stored
          have hrow : { peer with bandwidthUsedBytes := saturatingAdd s.rxBytes s.txBytes } ∈
              w'.db.peers.rows := by
            rw [hrecord.rows]
            exact List.mem_map.mpr ⟨peer, hpeer, if_pos rfl⟩
          obtain ⟨w'', heval, hdisable⟩ := disable_peer_passes hrow henabled
          refine ⟨w'', ?_, (hrecord.trans hdisable).congr hmetering fun row hrow => ?_⟩
          · cases hsome : peer.bandwidthQuotaBytes with
            | none =>
                rw [hsome] at hquota
                cases hquota
            | some quota =>
                rw [hsome, Option.any_some] at hquota
                simp only [hquota, henabled, Bool.and_self, if_true, eval_ignore]
                rw [heval]
          · show atPeer peer.id _ (atPeer peer.id _ row) = _
            unfold atPeer
            by_cases hid : row.id = peer.id
            · obtain rfl := Table.eq_of_key hrow hpeer hid
              rw [if_pos rfl, if_pos rfl, if_pos hmetered, hrecord.env]
              unfold Peer.metered
              simp [hspent]
            · rw [if_neg hid, if_neg hid, if_neg (mt (honly row hrow).mp hid)]

/-! ## All readings of an interface -/

/-- The row after the readings of one interface. -/
def Peer.meteredAt (now : DateTime) (iface : Interface) (stats : List PeerStats) (peer : Peer) :
    Peer :=
  if peer.interfaceId = iface.id then peer.meteredBy now stats else peer

theorem metering_metered_at (now : DateTime) (iface : Interface) (stats : List PeerStats) :
    Metering (Peer.meteredAt now iface stats) := by
  have hby : ∀ peer : Peer, peer.meteredBy now stats = peer ∨
      ∃ s, peer.meteredBy now stats = peer.metered now s := by
    intro peer
    unfold Peer.meteredBy
    cases readingOf stats peer.publicKey with
    | none => exact .inl rfl
    | some s => exact .inr ⟨s, rfl⟩
  have hmetering : Metering (Peer.meteredBy now stats) := by
    constructor <;> intro peer <;> rcases hby peer with h | ⟨s, h⟩ <;> rw [h]
    · exact (metering_metered now s).id peer
    · exact (metering_metered now s).interfaceId peer
    · exact (metering_metered now s).publicKey peer
    · exact fun h => h
    · exact (metering_metered now s).enabled peer
  exact hmetering.ite (·.interfaceId = iface.id)

/-- A pass keeps the keys of an interface distinct. -/
theorem Passes.distinct (h : Passes w w' f) (hdistinct : KeysDistinct w.db) :
    KeysDistinct w'.db := by
  intro peer hpeer other hother hiface hkey
  rw [h.rows] at hpeer hother
  obtain ⟨old, hold, rfl⟩ := List.mem_map.mp hpeer
  obtain ⟨old', hold', rfl⟩ := List.mem_map.mp hother
  rw [h.metering.interfaceId, h.metering.interfaceId] at hiface
  rw [h.metering.publicKey, h.metering.publicKey] at hkey
  rw [h.metering.id, h.metering.id]
  exact hdistinct old hold old' hold' hiface hkey

/-- Rows with other keys are found as before a reading was enforced. -/
theorem find_metered {rows : List Peer} {iface : Interface} {s s' : PeerStats}
    (hne : s.publicKey ≠ s'.publicKey) :
    (rows.map fun row => if IsMetered iface s row then row.metered now s else row).find?
        (IsMetered iface s' ·) =
      rows.find? (IsMetered iface s' ·) := by
  have hmetering := (metering_metered now s).ite (IsMetered iface s)
  rw [List.find?_map]
  have hsame : ((fun row => decide (IsMetered iface s' row)) ∘ fun row =>
      if IsMetered iface s row then row.metered now s else row) =
        fun row => decide (IsMetered iface s' row) := by
    funext row
    refine decide_eq_decide.mpr (and_congr ?_ ?_)
    · exact Eq.congr_left (hmetering.interfaceId row)
    · exact Eq.congr_left (hmetering.publicKey row)
  rw [hsame]
  cases hfind : rows.find? (IsMetered iface s' ·) with
  | none => rfl
  | some row =>
      have hrow : IsMetered iface s' row := by simpa using List.find?_some hfind
      have hnot : ¬ IsMetered iface s row := fun h => hne (h.2.symm.trans hrow.2)
      rw [Option.map_some, if_neg hnot]

/-- The readings of an interface, one after the other. -/
theorem records_passes (iface : Interface) (peers : List Peer) (stats : List PeerStats)
    (hdistinct : KeysDistinct w.db) (hstats : (stats.map PeerStats.publicKey).Nodup)
    (hfound : ∀ s ∈ stats,
      byPubkey peers s.publicKey.asStr = w.db.peers.rows.find? (IsMetered iface s ·)) :
    ∃ w', eval (handle .none) (forEach (record peers) stats) w = (.ok (), w') ∧
      Passes w w' (Peer.meteredAt w.env.now iface stats) := by
  induction stats generalizing w with
  | nil =>
      refine ⟨w, rfl, (Passes.refl w).congr (metering_metered_at _ _ _) fun row hrow => ?_⟩
      unfold Peer.meteredAt Peer.meteredBy readingOf
      simp
  | cons s rest ih =>
      obtain ⟨hfresh, hrest⟩ := List.nodup_cons.mp hstats
      obtain ⟨w1, heval, hfirst⟩ :=
        record_passes hdistinct iface peers s (hfound s List.mem_cons_self)
      have hother : ∀ s' ∈ rest, s.publicKey ≠ s'.publicKey := fun s' hs' heq =>
        hfresh (heq ▸ List.mem_map_of_mem hs')
      obtain ⟨w', heval', hlater⟩ := ih (w := w1) (hfirst.distinct hdistinct) hrest
        fun s' hs' => by
          rw [hfirst.rows, find_metered (hother s' hs')]
          exact hfound s' (List.mem_cons_of_mem _ hs')
      refine ⟨w', ?_, (hfirst.trans hlater).congr (metering_metered_at _ _ _) fun row _ => ?_⟩
      · rw [eval_for_each_cons, heval]
        exact heval'
      · rw [Function.comp_apply, hfirst.env]
        by_cases hmetered : IsMetered iface s row
        · -- none of the other readings is for this row
          have hnone : readingOf rest (row.metered w.env.now s).publicKey = none := by
            refine List.find?_eq_none.mpr fun s' hs' => ?_
            simpa using fun heq => hother s' hs' (hmetered.2.symm.trans heq.symm)
          have hmine : readingOf (s :: rest) row.publicKey = some s := by
            unfold readingOf
            rw [List.find?_cons_of_pos (by simpa using hmetered.2.symm)]
          rw [if_pos hmetered, Peer.meteredAt, Peer.meteredAt, if_pos hmetered.1,
            if_pos (show (row.metered w.env.now s).interfaceId = iface.id from hmetered.1),
            Peer.meteredBy, hnone, Peer.meteredBy, hmine]
        · rw [if_neg hmetered]
          unfold Peer.meteredAt
          by_cases hiface : row.interfaceId = iface.id
          · have hkey : row.publicKey ≠ s.publicKey := fun heq => hmetered ⟨hiface, heq⟩
            have hskip : readingOf (s :: rest) row.publicKey = readingOf rest row.publicKey := by
              unfold readingOf
              rw [List.find?_cons_of_neg (by simpa using Ne.symm hkey)]
            rw [if_pos hiface, if_pos hiface, Peer.meteredBy, Peer.meteredBy, hskip]
          · rw [if_neg hiface, if_neg hiface]

/-! ## All interfaces -/

/-- The lookup of a key finds the row of the interface that has it. -/
theorem by_pubkey_peers_of (hdistinct : KeysDistinct w.db) (iface : Interface) (s : PeerStats) :
    byPubkey (w.db.peersOf iface.id) s.publicKey.asStr =
      w.db.peers.rows.find? (IsMetered iface s ·) := by
  unfold byPubkey Db.peersOf
  refine find_eq_of_unique (fun row => ?_) fun row hrow other hother hmine hyours => ?_
  · simp only [List.mem_reverse, mem_sorted_by, List.mem_filter, decide_eq_true_eq,
      WgPublicKey.as_str_inj, and_assoc]
    exact Iff.rfl
  · rw [decide_eq_true_eq] at hmine hyours
    exact Table.eq_of_key hrow hother (hdistinct row hrow other hother
      (hmine.1.trans hyours.1.symm) (hmine.2.trans hyours.2.symm))

/-- The row after a pass over one interface. -/
def Peer.polledAt (env : Env) (iface : Interface) (peer : Peer) : Peer :=
  if iface.status = .up then
    peer.meteredAt env.now iface ((env.counters iface.name).map HostPeer.stats)
  else peer

theorem metering_polled_at (env : Env) (iface : Interface) :
    Metering (Peer.polledAt env iface) := by
  unfold Peer.polledAt
  split
  · exact metering_metered_at _ _ _
  · exact metering_id

/-- The counters of each device name a key at most once. -/
def CountersDistinct (env : Env) : Prop :=
  ∀ name, ((env.counters name).map HostPeer.publicKey).Nodup

theorem nodup_stats {env : Env} (h : CountersDistinct env) (name : String) :
    (((env.counters name).map HostPeer.stats).map PeerStats.publicKey).Nodup := by
  refine List.Nodup.of_map WgPublicKey.key ?_
  rw [List.map_map, List.map_map]
  have hkey : (WgPublicKey.key ∘ PeerStats.publicKey) ∘ HostPeer.stats = HostPeer.publicKey :=
    funext fun p => KeyText.key_of_key p.publicKey
  rw [hkey]
  exact h name

/-- Polling one interface. -/
theorem poll_interface_passes (hdistinct : KeysDistinct w.db) (hcounters : CountersDistinct w.env)
    (iface : Interface) :
    ∃ w', eval (handle .none) (pollInterface iface) w = (.ok (), w') ∧
      Passes w w' (Peer.polledAt w.env iface) := by
  unfold pollInterface Peer.polledAt
  by_cases hup : iface.status = .up
  · simp only [hup, if_true]
    obtain ⟨w', heval, hpasses⟩ := records_passes iface (w.db.peersOf iface.id)
      ((w.env.counters iface.name).map HostPeer.stats) hdistinct (nodup_stats hcounters iface.name)
      fun s _ => by_pubkey_peers_of hdistinct iface s
    refine ⟨w', ?_, hpasses⟩
    simp only [eval_bind, eval_attempt, eval_peer_stats, eval_task_run,
      SqlitePeerRepository.eval_list_for_interface, Plan.outcome_none, Except.mapError]
    exact heval
  · simp only [hup, if_false]
    exact ⟨w, rfl, Passes.refl w⟩

/-- The row after a pass over some interfaces. -/
def Peer.polledIn (env : Env) (ifaces : List Interface) (peer : Peer) : Peer :=
  match ifaces.find? (·.id = peer.interfaceId) with
  | some iface => peer.polledAt env iface
  | none => peer

theorem metering_polled_in (env : Env) (ifaces : List Interface) :
    Metering (Peer.polledIn env ifaces) := by
  have hone : ∀ peer : Peer, peer.polledIn env ifaces = peer ∨
      ∃ iface, peer.polledIn env ifaces = peer.polledAt env iface := by
    intro peer
    unfold Peer.polledIn
    split
    · exact .inr ⟨_, rfl⟩
    · exact .inl rfl
  constructor <;> intro peer <;> rcases hone peer with h | ⟨iface, h⟩ <;> rw [h]
  · exact (metering_polled_at env iface).id peer
  · exact (metering_polled_at env iface).interfaceId peer
  · exact (metering_polled_at env iface).publicKey peer
  · exact fun h => h
  · exact (metering_polled_at env iface).enabled peer

/-- Polling interfaces one after the other. -/
theorem poll_interfaces_passes (hdistinct : KeysDistinct w.db)
    (hcounters : CountersDistinct w.env) (ifaces : List Interface)
    (hifaces : (ifaces.map Interface.id).Nodup) :
    ∃ w', eval (handle .none) (forEach pollInterface ifaces) w = (.ok (), w') ∧
      Passes w w' (Peer.polledIn w.env ifaces) := by
  induction ifaces generalizing w with
  | nil => exact ⟨w, rfl, Passes.refl w⟩
  | cons iface rest ih =>
      obtain ⟨hfresh, hrest⟩ := List.nodup_cons.mp hifaces
      obtain ⟨w1, heval, hfirst⟩ := poll_interface_passes hdistinct hcounters iface
      obtain ⟨w', heval', hlater⟩ := ih (w := w1) (hfirst.distinct hdistinct)
        (hfirst.env ▸ hcounters) hrest
      refine ⟨w', ?_, (hfirst.trans hlater).congr (metering_polled_in _ _) fun row _ => ?_⟩
      · rw [eval_for_each_cons, heval]
        exact heval'
      · rw [Function.comp_apply, hfirst.env]
        have hsame : (row.polledAt w.env iface).interfaceId = row.interfaceId :=
          (metering_polled_at w.env iface).interfaceId row
        unfold Peer.polledIn
        rw [hsame]
        by_cases hid : iface.id = row.interfaceId
        · -- no other interface has the row
          have hnone : rest.find? (·.id = row.interfaceId) = none := by
            refine List.find?_eq_none.mpr fun other hother => ?_
            simpa using fun heq : other.id = row.interfaceId =>
              hfresh (hid.trans heq.symm ▸ List.mem_map_of_mem hother)
          rw [hnone, List.find?_cons_of_pos (by simpa using hid)]
        · have hskip : row.polledAt w.env iface = row := by
            unfold Peer.polledAt Peer.meteredAt
            rw [if_neg (Ne.symm hid), ite_self]
          rw [hskip, List.find?_cons_of_neg (by simpa using hid)]

/-- A pass over all interfaces. -/
theorem poll_once_passes (hdistinct : KeysDistinct w.db) (hcounters : CountersDistinct w.env) :
    ∃ w', eval (handle .none) pollOnce w = (.ok (), w') ∧
      Passes w w' (Peer.polledIn w.env w.db.interfaces.rows) := by
  have hifaces : ((sortedBy Interface.name w.db.interfaces.rows).map Interface.id).Nodup :=
    nodup_map_sorted_by w.db.interfaces.nodup
  obtain ⟨w', heval, hpasses⟩ := poll_interfaces_passes hdistinct hcounters _ hifaces
  refine ⟨w', ?_, hpasses.congr (metering_polled_in _ _) fun peer _ => ?_⟩
  · unfold pollOnce
    simp only [eval_bind, eval_task_run, SqliteInterfaceRepository.eval_list, Plan.outcome_none,
      Except.mapError]
    exact heval
  · unfold Peer.polledIn
    rw [find_eq_of_unique (fun iface => by rw [mem_sorted_by]) fun iface hiface other hother h h' =>
      Table.eq_of_key hiface hother (by simp_all)]

/-! ## Quotas -/

/-- The kernel reports this entry of a peer, on the device of its interface, which is up. -/
def Reported (w : World) (peer : Peer) (p : HostPeer) : Prop :=
  ∃ iface, w.db.interfaces.find peer.interfaceId = some iface ∧ iface.status = .up ∧
    p ∈ w.env.counters iface.name ∧ p.publicKey = peer.publicKey.key

/-- The traffic of an entry, up to what 64 bits hold. -/
def HostPeer.total (p : HostPeer) : Nat :=
  min (p.rxBytes.toNat + p.txBytes.toNat) (2 ^ 64 - 1)

/-- An enabled peer whose reported traffic reaches its quota. -/
def UsedUp (w : World) (peer : Peer) : Prop :=
  peer.enabled = true ∧ ∃ p quota, Reported w peer p ∧ peer.bandwidthQuotaBytes = some quota ∧
    quota.toNat ≤ p.total

/-- What a pass leaves of a row. -/
structure RowPolled (w : World) (peer row : Peer) : Prop where
  used : ∀ p, Reported w peer p → row.bandwidthUsedBytes.toNat = p.total
  unread : (¬ ∃ p, Reported w peer p) → row = peer
  disabled : UsedUp w peer → row.enabled = false
  kept : ¬ UsedUp w peer → row.enabled = peer.enabled
  fields : row = { peer with
    bandwidthUsedBytes := row.bandwidthUsedBytes
    enabled := row.enabled
    updatedAt := row.updatedAt }

/-- The pass has used up the quota of a peer with this key on the device of this name. -/
def UsedUpOn (w : World) (name : String) (key : Key) : Prop :=
  ∃ peer ∈ w.db.peers.rows, ∃ iface, w.db.interfaces.find peer.interfaceId = some iface ∧
    iface.name = name ∧ peer.publicKey.key = key ∧ UsedUp w peer

/-- A pass enforces the quotas: every row is polled, the entries of exactly the peers whose quota
is used up leave the devices, and nothing else changes but the stored readings. -/
structure QuotasEnforced (w w' : World) : Prop where
  rows : List.Forall₂ (RowPolled w) w.db.peers.rows w'.db.peers.rows
  devices : Unlisted (UsedUpOn w) w.devices w'.devices
  interfaces : w'.db.interfaces = w.db.interfaces
  net : w'.net = w.net
  spawned : w'.spawned = w.spawned

theorem stats_key_iff (p : HostPeer) (key : WgPublicKey) :
    p.stats.publicKey = key ↔ p.publicKey = key.key := by
  have htext : p.stats.publicKey.asStr = key.asStr ↔ p.stats.publicKey.key = key.key :=
    KeyText.text_inj
  rw [← WgPublicKey.as_str_inj, htext]
  rw [show p.stats.publicKey.key = p.publicKey from KeyText.key_of_key p.publicKey]

/-- The reading of a key is that of the entry with the key. -/
theorem reading_of_stats (host : List HostPeer) (key : WgPublicKey) :
    readingOf (host.map HostPeer.stats) key =
      (host.find? (·.publicKey = key.key)).map HostPeer.stats := by
  have hsame : (fun s : PeerStats => decide (s.publicKey = key)) ∘ HostPeer.stats =
      fun p => decide (p.publicKey = key.key) :=
    funext fun p => decide_eq_decide.mpr (stats_key_iff p key)
  rw [readingOf, List.find?_map, hsame]

/-- A pass finds the entry that is reported of a peer. -/
theorem polled_in_reported (hcounters : CountersDistinct w.env) {p : HostPeer}
    (h : Reported w peer p) :
    peer.polledIn w.env w.db.interfaces.rows = peer.metered w.env.now p.stats := by
  obtain ⟨iface, hiface, hup, hp, hkey⟩ := h
  have hfind : w.db.interfaces.rows.find? (·.id = peer.interfaceId) = some iface := hiface
  have hid : peer.interfaceId = iface.id := (Table.find_eq_some.mp hiface).2.symm
  have hreading : readingOf ((w.env.counters iface.name).map HostPeer.stats) peer.publicKey =
      some p.stats := by
    rw [reading_of_stats]
    cases hfound : (w.env.counters iface.name).find? (·.publicKey = peer.publicKey.key) with
    | none => exact absurd (decide_eq_true hkey) (List.find?_eq_none.mp hfound p hp)
    | some q =>
        have hq : q.publicKey = peer.publicKey.key := by simpa using List.find?_some hfound
        have hsame : q = p := List.inj_on_of_nodup_map (hcounters iface.name)
          (List.mem_of_find?_eq_some hfound) hp (hq.trans hkey.symm)
        rw [hsame]
        rfl
  unfold Peer.polledIn
  rw [hfind]
  show peer.polledAt w.env iface = _
  rw [Peer.polledAt, if_pos hup, Peer.meteredAt, if_pos hid, Peer.meteredBy, hreading]

/-- A pass leaves a row alone of which nothing is reported. -/
theorem polled_in_unreported (h : ¬ ∃ p, Reported w peer p) :
    peer.polledIn w.env w.db.interfaces.rows = peer := by
  unfold Peer.polledIn
  cases hfind : w.db.interfaces.rows.find? (·.id = peer.interfaceId) with
  | none => rfl
  | some iface =>
      show peer.polledAt w.env iface = _
      unfold Peer.polledAt Peer.meteredAt Peer.meteredBy
      by_cases hup : iface.status = .up
      · rw [if_pos hup, reading_of_stats]
        cases hfound : (w.env.counters iface.name).find? (·.publicKey = peer.publicKey.key) with
        | none => exact ite_self peer
        | some p =>
            have hp : p.publicKey = peer.publicKey.key := by simpa using List.find?_some hfound
            exact absurd ⟨p, iface, hfind, hup, List.mem_of_find?_eq_some hfound, hp⟩ h
      · rw [if_neg hup]

/-- A row whose reading is that of an entry uses up its quota exactly if the sum of the counters
reaches it. -/
theorem used_up_iff (hcounters : CountersDistinct w.env) {p : HostPeer} (hp : Reported w peer p) :
    UsedUp w peer ↔ (peer.enabled && peer.bandwidthQuotaBytes.any
      (· ≤ saturatingAdd p.stats.rxBytes p.stats.txBytes)) = true := by
  -- the entry is the only one that is reported of the peer
  have htotal : ∀ p', Reported w peer p' →
      p'.total = (saturatingAdd p.stats.rxBytes p.stats.txBytes).toNat := by
    intro p' hp'
    have hsame := (polled_in_reported hcounters hp').symm.trans (polled_in_reported hcounters hp)
    have hused : saturatingAdd p'.rxBytes p'.txBytes =
        saturatingAdd p.stats.rxBytes p.stats.txBytes := congrArg Peer.bandwidthUsedBytes hsame
    rw [← hused, to_nat_saturating_add]
    rfl
  rw [Bool.and_eq_true_iff]
  refine and_congr_right fun _ => ?_
  constructor
  · rintro ⟨p', quota, hp', hquota, hle⟩
    rw [hquota, Option.any_some, decide_eq_true_eq, UInt64.le_iff_toNat_le]
    rwa [htotal p' hp'] at hle
  · intro hany
    cases hquota : peer.bandwidthQuotaBytes with
    | none =>
        rw [hquota] at hany
        cases hany
    | some quota =>
        rw [hquota, Option.any_some, decide_eq_true_eq, UInt64.le_iff_toNat_le] at hany
        exact ⟨p, quota, hp, rfl, by rwa [htotal p hp]⟩

/-- What a pass leaves of every row. -/
theorem row_polled (hcounters : CountersDistinct w.env) (peer : Peer) :
    RowPolled w peer (peer.polledIn w.env w.db.interfaces.rows) := by
  by_cases hreported : ∃ p, Reported w peer p
  · obtain ⟨p, hp⟩ := hreported
    have hspent := used_up_iff hcounters hp
    exact {
      used := fun p' hp' => by
        rw [polled_in_reported hcounters hp']
        exact to_nat_saturating_add _ _
      unread := fun h => absurd ⟨p, hp⟩ h
      disabled := fun h => by
        rw [polled_in_reported hcounters hp]
        show (peer.enabled && !_) = false
        rw [hspent.mp h, Bool.not_true, Bool.and_false]
      kept := fun h => by
        rw [polled_in_reported hcounters hp]
        show (peer.enabled && !_) = peer.enabled
        rw [Bool.eq_false_iff.mpr (mt hspent.mpr h), Bool.not_false, Bool.and_true]
      fields := by
        rw [polled_in_reported hcounters hp]
        rfl }
  · rw [polled_in_unreported hreported]
    have hnot : ¬ UsedUp w peer := fun h => by
      obtain ⟨-, p, -, hp, -⟩ := h
      exact hreported ⟨p, hp⟩
    exact {
      used := fun p hp => absurd ⟨p, hp⟩ hreported
      unread := fun _ => rfl
      disabled := fun h => absurd h hnot
      kept := fun _ => rfl
      fields := rfl }

/-- While nothing fails, a pass over any database in which no interface has two peers with one key
enforces the quotas, whatever the kernel reports, with at most one entry for a key. -/
theorem poll_enforces_quotas (w : World) (hdistinct : KeysDistinct w.db)
    (hcounters : CountersDistinct w.env) :
    ∃ w', eval (handle .none) pollOnce w = (.ok (), w') ∧ QuotasEnforced w w' := by
  obtain ⟨w', heval, hpasses⟩ := poll_once_passes hdistinct hcounters
  refine ⟨w', heval, ?_, hpasses.devices.congr fun name key => ?_, hpasses.interfaces, hpasses.net,
    hpasses.spawned⟩
  · rw [hpasses.rows, List.forall₂_map_right_iff, List.forall₂_same]
    exact fun peer _ => row_polled hcounters peer
  · refine exists_congr fun peer => and_congr_right fun _ => exists_congr fun iface => ?_
    refine and_congr_right fun _ => and_congr_right fun _ => and_congr_right fun _ => ?_
    constructor
    · rintro ⟨henabled, hdisabled⟩
      by_contra hnot
      rw [(row_polled hcounters peer).kept hnot, henabled] at hdisabled
      cases hdisabled
    · intro hused
      exact ⟨hused.1, (row_polled hcounters peer).disabled hused⟩

/-- Two peers with quotas and one that is disabled. -/
def quotaPeers : List Peer :=
  [{ Peer.plain 0 0 "laptop" (some 10) none with publicKey := ⟨.ofKey (.fill 1)⟩ },
    { Peer.plain 1 0 "phone" (some 100) none with publicKey := ⟨.ofKey (.fill 2)⟩ },
    { Peer.plain 2 0 "tablet" none none with
      publicKey := ⟨.ofKey (.fill 3)⟩, enabled := false }]

/-- A host whose device has the entries of the two peers. The traffic of one exceeds its quota. -/
def quotaHost : World :=
  let iface := (Interface.plain 0 "wg0" none none).withStatus .up
  let counters := [⟨.fill 1, none, 6, 7, none⟩, ⟨.fill 2, none, 6, 7, none⟩]
  { World.fresh [] with
    db := .filled [iface] quotaPeers
    devices := (Devices.create (fun _ => none) "wg0").configure
      (configWith .transparent iface quotaPeers ⟨.ofKey .zero⟩)
    env := { (World.fresh []).env with counters := fun _ => counters } }

/-- The peer is disabled and its entry removed; the entry of the other stays. -/
theorem poll_enforces_quotas_shared :
    ∃ w', eval (handle .none) pollOnce quotaHost = (.ok (), w') ∧ QuotasEnforced quotaHost w' ∧
      w'.db.peers.rows.map (fun row => (row.name, row.bandwidthUsedBytes, row.enabled)) =
        [("laptop", 13, false), ("phone", 13, true), ("tablet", 0, false)] ∧
      (w'.devices "wg0").map (fun device =>
        ((device.peers (.fill 1)).isSome, (device.peers (.fill 2)).isSome)) =
          some (false, true) := by
  obtain ⟨w', heval, henforced⟩ := poll_enforces_quotas quotaHost (by decide +kernel)
    fun _ => (by decide +kernel : ([.fill 1, .fill 2] : List Key).Nodup)
  have hfinal : w' = (eval (handle .none) pollOnce quotaHost).2 := (congrArg Prod.snd heval).symm
  refine ⟨w', heval, henforced, ?_, ?_⟩
  · rw [hfinal]
    decide +kernel
  · rw [hfinal]
    decide +kernel

end Wireforge
