import Mathlib.Data.List.Sort
import Wireforge.Lib.Overlay
import Wireforge.Lifecycle.Counters
import Wireforge.Lifecycle.Quotas
import Wireforge.Lib.Runs

/-!
# Cumulative use

A pass of the poller overwrites the recorded use of a peer with the present counter of its entry.
`pass_records` says what a pass records, of any database. `use_grows_iff` draws the line for runs
during which nothing fails: no peer's use decreases if and only if no pass finds a counter behind
the recorded use, and no counter falls behind as long as no entry of a peer with recorded use is
created anew, so that no use decreases (`use_kept`). `use_falls` is a run that enables a peer again.
-/

namespace Wireforge

open Effect Runs DefguardAdapter Poller FiniteMap

variable {crates : Crates} {plan : Plan} {w w' w'' : World} {db db' : Db} {id : Id PeerMarker}
  {peer : Peer}

/-- The bytes that are recorded of a peer. -/
def Db.used (db : Db) (id : Id PeerMarker) : Option UInt64 :=
  (db.peers.find id).map Peer.bandwidthUsedBytes

/-- No peer's use has decreased. -/
def UseGrows (w w' : World) : Prop :=
  ∀ id used used', w.db.used id = some used → w'.db.used id = some used' → used ≤ used'

/-! ## What a pass records -/

/-- What is recorded of one reading: the sum of its counters, under the peer that is found for its
key. -/
def recorded (peers : List Peer) (s : PeerStats) : List (Id PeerMarker × UInt64) :=
  ((byPubkey peers s.publicKey.asStr).map fun peer =>
    (peer.id, saturatingAdd s.rxBytes s.txBytes)).toList

/-- What is recorded of an interface. -/
def Interface.recordings (db : Db) (env : Env) (iface : Interface) :
    List (Id PeerMarker × UInt64) :=
  if iface.status = .up then
    ((env.counters iface.name).map HostPeer.stats).flatMap (recorded (db.peersOf iface.id))
  else []

/-- What a pass records, in order. -/
def World.recordings (w : World) : List (Id PeerMarker × UInt64) :=
  (sortedBy Interface.name w.db.interfaces.rows).flatMap (Interface.recordings w.db w.env)

/-- The recordings have been made, and what they depend on is as before. -/
structure PassRecords (recordings : List (Id PeerMarker × UInt64)) (w w' : World) : Prop where
  used : w'.db.used = overwrite w.db.used recordings
  cores : w'.db.cores = w.db.cores
  interfaces : w'.db.interfaces = w.db.interfaces
  env : w'.env = w.env

variable {recordings later : List (Id PeerMarker × UInt64)}

namespace PassRecords

theorem refl (w : World) : PassRecords [] w w :=
  ⟨rfl, rfl, rfl, rfl⟩

theorem trans (h : PassRecords recordings w w') (h' : PassRecords later w' w'') :
    PassRecords (recordings ++ later) w w'' where
  used := by rw [h'.used, h.used, overwrite_append]
  cores := h'.cores.trans h.cores
  interfaces := h'.interfaces.trans h.interfaces
  env := h'.env.trans h.env

end PassRecords

theorem used_of_mem (h : peer ∈ db.peers.rows) :
    db.used peer.id = some peer.bandwidthUsedBytes := by
  rw [Db.used, Table.find_of_mem h]
  rfl

theorem used_of_peers (h : db'.peers = db.peers) : db'.used = db.used := by
  unfold Db.used
  rw [h]

/-- Writing a row back keeps what is recorded. -/
theorem used_update {now : DateTime} (h : db.updatePeer peer now = .ok db') :
    db'.used = db.used := by
  funext id
  unfold Db.used
  rw [(Db.find_update_peer h).1 id, Option.map_map]
  refine congrArg (Option.map · _) (funext fun old => ?_)
  unfold Function.comp Db.setPeer
  split <;> rfl

theorem used_record (h : ∃ used, db.used id = some used) (bytes : UInt64) :
    (db.recordBandwidth id bytes).used = overwrite db.used [(id, bytes)] := by
  funext other
  show ((db.recordBandwidth id bytes).peers.find other).map _ =
    Function.update db.used id (some bytes) other
  rw [Db.recordBandwidth, Table.find_modify, Option.map_map]
  by_cases hother : other = id
  · subst hother
    obtain ⟨used, hused⟩ := h
    obtain ⟨old, hold, -⟩ := Option.map_eq_some_iff.mp hused
    rw [Function.update_self, hold, Option.map_some, Function.comp_apply, Db.setBandwidth,
      if_pos (Table.find_eq_some.mp hold).2]
  · rw [Function.update_of_ne hother]
    unfold Db.used
    cases hold : db.peers.find other with
    | none => rfl
    | some old =>
        have hne : old.id ≠ id := fun heq => hother ((Table.find_eq_some.mp hold).2.symm.trans heq)
        rw [Option.map_some, Option.map_some, Function.comp_apply, Db.setBandwidth, if_neg hne]

theorem Switched.used {row : Peer} (h : Switched plan crates w row w') :
    w'.db.used = w.db.used := by
  cases h with
  | unsaved => rfl
  | detached db hdb _ => exact used_update hdb
  | pushed iface db hdb _ => exact used_update hdb

/-- Recording one reading. -/
theorem record_records (crates : Crates) (peers : List Peer) (s : PeerStats)
    (hpeers : ∀ peer, byPubkey peers s.publicKey.asStr = some peer → peer.core ∈ w.db.cores) :
    ∃ w', eval (handle .none) (record peers s) w = (.ok (), w') ∧
      PassRecords (recorded peers s) w w' := by
  unfold record recorded
  cases hfound : byPubkey peers s.publicKey.asStr with
  | none => exact ⟨w, rfl, .refl w⟩
  | some peer =>
      have hcore := hpeers peer hfound
      have hsnapshot : PassRecords [] w (eval (handle .none)
          (SqliteTrafficRepository.snapshot peer.id s.txBytes s.rxBytes s.lastHandshake) w).2 := by
        rcases SqliteTrafficRepository.snapshot_after .none w peer.id s.txBytes s.rxBytes
          s.lastHandshake with heq | ⟨db, row, hdb, heq⟩
        · rw [heq]
          exact .refl w
        · rw [heq]
          obtain ⟨hrows, hinterfaces⟩ := Db.insert_snapshot_ok hdb
          exact ⟨used_of_peers hrows, by rw [Db.cores, Db.cores, hrows], hinterfaces, rfl⟩
      simp only [eval_bind, eval_ignore]
      generalize (eval (handle .none) (SqliteTrafficRepository.snapshot peer.id s.txBytes s.rxBytes
        s.lastHandshake) w).2 = w1 at hsnapshot ⊢
      have hrecord : PassRecords [(peer.id, saturatingAdd s.rxBytes s.txBytes)] w1
          { w1 with db := w1.db.recordBandwidth peer.id (saturatingAdd s.rxBytes s.txBytes) } := by
        refine ⟨used_record ?_ _, Db.cores_record, rfl, rfl⟩
        rw [← hsnapshot.cores] at hcore
        obtain ⟨row, hrow, hsame⟩ := List.mem_map.mp hcore
        have hid : row.core.id = peer.core.id := congrArg Peer.id hsame
        replace hid : row.id = peer.id := hid
        exact ⟨_, hid ▸ used_of_mem hrow⟩
      have hboth := hsnapshot.trans hrecord
      have hbandwidth : (eval (handle .none) (SqlitePeerRepository.recordBandwidth peer.id
          (saturatingAdd s.rxBytes s.txBytes)) w1).2 =
        { w1 with db := w1.db.recordBandwidth peer.id (saturatingAdd s.rxBytes s.txBytes) } := rfl
      rw [hbandwidth]
      generalize ({ w1 with
        db := w1.db.recordBandwidth peer.id (saturatingAdd s.rxBytes s.txBytes) } : World) = w2
        at hboth ⊢
      have hdisable : PassRecords [] w2 (eval (handle .none) (disablePeer peer.id) w2).2 := by
        rcases disable_peer_spec .none crates w2 peer.id with heq | ⟨row, hread, hswitched⟩
        · rw [heq]
          exact .refl w2
        · obtain ⟨hcores, hinterfaces, henv⟩ := hswitched.frame (core_mem_of_read hread)
          exact ⟨hswitched.used, hcores, hinterfaces, henv⟩
      cases peer.bandwidthQuotaBytes with
      | none => exact ⟨w2, rfl, hboth⟩
      | some quota =>
          simp only [eval_ite, eval_ignore, eval_pure]
          split
          · exact ⟨_, rfl, hboth.trans hdisable⟩
          · exact ⟨w2, rfl, hboth⟩

/-- Recording all readings of an interface. -/
theorem records_records (crates : Crates) (peers : List Peer) (stats : List PeerStats)
    (hpeers : ∀ s ∈ stats, ∀ peer, byPubkey peers s.publicKey.asStr = some peer →
      peer.core ∈ w.db.cores) :
    ∃ w', eval (handle .none) (forEach (record peers) stats) w = (.ok (), w') ∧
      PassRecords (stats.flatMap (recorded peers)) w w' := by
  induction stats generalizing w with
  | nil => exact ⟨w, rfl, .refl w⟩
  | cons s rest ih =>
      obtain ⟨w1, heval, hfirst⟩ := record_records crates peers s (hpeers s List.mem_cons_self)
      obtain ⟨w2, heval', hlater⟩ := ih (w := w1) fun s' hs' peer hpeer =>
        hfirst.cores ▸ hpeers s' (List.mem_cons_of_mem _ hs') peer hpeer
      refine ⟨w2, ?_, by rw [List.flatMap_cons]; exact hfirst.trans hlater⟩
      rw [eval_for_each_cons, heval]
      exact heval'

theorem by_pubkey_mem {peers : List Peer} {key : String} (h : byPubkey peers key = some peer) :
    peer ∈ peers ∧ peer.publicKey.asStr = key := by
  refine ⟨List.mem_reverse.mp (List.mem_of_find?_eq_some h), ?_⟩
  simpa using List.find?_some h

/-- Polling one interface. -/
theorem poll_interface_records (crates : Crates) (w : World) (iface : Interface) :
    ∃ w', eval (handle .none) (pollInterface iface) w = (.ok (), w') ∧
      PassRecords (iface.recordings w.db w.env) w w' := by
  unfold pollInterface Interface.recordings
  by_cases hup : iface.status = .up
  · simp only [hup, if_true]
    obtain ⟨w', heval, hrecords⟩ := records_records (w := w) crates (w.db.peersOf iface.id)
      ((w.env.counters iface.name).map HostPeer.stats) fun s _ peer hpeer =>
        List.mem_map_of_mem (mem_peers_of.mp (by_pubkey_mem hpeer).1).1
    refine ⟨w', ?_, hrecords⟩
    simp only [eval_bind, eval_attempt, eval_peer_stats, eval_task_run,
      SqlitePeerRepository.eval_list_for_interface, Plan.outcome_none, Except.mapError]
    exact heval
  · simp only [hup, if_false]
    exact ⟨w, rfl, .refl w⟩

/-- Which peer is found for a key depends on nothing that a pass changes. -/
theorem recordings_congr (hcores : db'.cores = db.cores) (env : Env) (iface : Interface) :
    iface.recordings db' env = iface.recordings db env := by
  have hpeers (db : Db) : (db.peersOf iface.id).map Peer.core =
      sortedBy Peer.createdAt (db.cores.filter (·.interfaceId = iface.id)) := by
    unfold Db.peersOf Db.cores sortedBy
    have hsorted (rows : List Peer) :
        (rows.insertionSort (fun a b => a.createdAt ≤ b.createdAt)).map Peer.core =
          (rows.map Peer.core).insertionSort (fun a b => a.createdAt ≤ b.createdAt) :=
      List.map_insertionSort _ _ Peer.core rows fun _ _ _ _ => Iff.rfl
    rw [hsorted, List.filter_map]
    rfl
  have hfound (peers : List Peer) (key : String) :
      (byPubkey peers key).map Peer.core = byPubkey (peers.map Peer.core) key := by
    unfold byPubkey
    rw [← List.map_reverse, List.find?_map]
    rfl
  have hid (peers : List Peer) (s : PeerStats) : recorded peers s =
      (((byPubkey peers s.publicKey.asStr).map Peer.core).map fun peer =>
        (peer.id, saturatingAdd s.rxBytes s.txBytes)).toList := by
    rw [Option.map_map]
    rfl
  have hrecorded : recorded (db'.peersOf iface.id) = recorded (db.peersOf iface.id) := by
    funext s
    rw [hid, hid, hfound, hfound, hpeers, hpeers, hcores]
  unfold Interface.recordings
  rw [hrecorded]

theorem poll_interfaces_records (crates : Crates) (w : World) (ifaces : List Interface) :
    ∃ w', eval (handle .none) (forEach pollInterface ifaces) w = (.ok (), w') ∧
      PassRecords (ifaces.flatMap (Interface.recordings w.db w.env)) w w' := by
  induction ifaces generalizing w with
  | nil => exact ⟨w, rfl, .refl w⟩
  | cons iface rest ih =>
      obtain ⟨w1, heval, hfirst⟩ := poll_interface_records crates w iface
      obtain ⟨w2, heval', hlater⟩ := ih w1
      have hsame : Interface.recordings w1.db w1.env = Interface.recordings w.db w.env := by
        rw [hfirst.env]
        exact funext (recordings_congr hfirst.cores w.env)
      rw [hsame] at hlater
      refine ⟨w2, ?_, by rw [List.flatMap_cons]; exact hfirst.trans hlater⟩
      rw [eval_for_each_cons, heval]
      exact heval'

/-- What a pass records, whatever the database and the counters are. -/
theorem pass_records (crates : Crates) (w : World) :
    ∃ w', eval (handle .none) pollOnce w = (.ok (), w') ∧ PassRecords w.recordings w w' := by
  obtain ⟨w', heval, hrecords⟩ :=
    poll_interfaces_records crates w (sortedBy Interface.name w.db.interfaces.rows)
  refine ⟨w', ?_, hrecords⟩
  unfold pollOnce
  simp only [eval_bind, eval_task_run, SqliteInterfaceRepository.eval_list, Plan.outcome_none,
    Except.mapError]
  exact heval

/-! ## What a step keeps -/

/-- The same peers have the same entries. -/
structure SameEntries (db db' : Db) : Prop where
  cores : db'.cores = db.cores
  names : ∀ id, (db'.interfaces.find id).map Interface.name =
    (db.interfaces.find id).map Interface.name

namespace SameEntries

theorem of_interfaces (hcores : db'.cores = db.cores) (h : db'.interfaces = db.interfaces) :
    SameEntries db db' :=
  ⟨hcores, fun id => by rw [h]⟩

theorem refl (db : Db) : SameEntries db db :=
  of_interfaces rfl rfl

/-- Writing an interface back does not rename it. -/
theorem of_update (db : Db) (row : Interface) (now : DateTime) :
    SameEntries db (db.updateInterface row now) := by
  refine ⟨rfl, fun id => ?_⟩
  show ((db.interfaces.modify (Db.setInterface row now)
    (Db.set_interface_id row now)).find id).map Interface.name = _
  rw [Table.find_modify, Option.map_map]
  exact congrArg (Option.map · _) (funext (Db.set_interface_name row now))

/-- Every peer was there before, with its entry. -/
theorem source (h : SameEntries db db') (hpeer : peer ∈ db'.peers.rows) :
    ∃ old ∈ db.peers.rows, old.id = peer.id ∧
      ∀ name key, peer.IsAt db' name key → old.IsAt db name key := by
  obtain ⟨old, hold, hid, hinterface, hkey, -⟩ := Db.source_of_cores h.cores hpeer
  refine ⟨old, hold, hid, fun name key hat => ?_⟩
  obtain ⟨iface, hfind, hname, hpublic⟩ := hat
  have hnames := h.names peer.interfaceId
  rw [hfind, Option.map_some] at hnames
  obtain ⟨before, hbefore, hsame⟩ := Option.map_eq_some_iff.mp hnames.symm
  exact ⟨before, hinterface ▸ hbefore, hsame.trans hname, hkey ▸ hpublic⟩

end SameEntries

/-- A pass of the scheduler records nothing. -/
theorem PassEnforces.used (h : PassEnforces crates w w') : w'.db.used = w.db.used := by
  funext id
  have hfind : w'.db.peers.find id =
      (w.db.peers.find id).map (Peer.enforced crates w.env.now) := by
    unfold Table.find
    rw [h.rows, List.find?_map]
    refine congrArg (Option.map _) (congrArg (List.find? · _) (funext fun row => ?_))
    rw [Function.comp_apply, Peer.enforced_id]
  unfold Db.used
  rw [hfind, Option.map_map]
  refine congrArg (Option.map · _) (funext fun row => ?_)
  unfold Function.comp Peer.enforced
  split
  · split <;> rfl
  · rfl

theorem PassEnforces.cores (h : PassEnforces crates w w') : w'.db.cores = w.db.cores := by
  unfold Db.cores
  rw [h.rows, List.map_map]
  refine List.map_congr_left fun row _ => ?_
  unfold Function.comp Peer.enforced
  split
  · split <;> rfl
  · rfl

/-- The host after a program, apart from the counters. -/
theorem Counted.afterwards_host {ε α : Type} (s : Counted) (env : Env)
    (program : Fallible Sys Sys.Reply ε α) :
    (s.afterwards env program).1 = (eval (handle .none) program (s.seen env)).2 :=
  eval_noting program (s.seen env, s.2)

/-- Only the poller records, and nothing changes which entry a peer has. -/
theorem step_keeps (crates : Crates) (s : Counted) (a : CountedStep) :
    SameEntries s.1.db (countedStep crates s a).1.db ∧
      (a.call ≠ .pollOnce → (countedStep crates s a).1.db.used = s.1.db.used) := by
  rcases a with ⟨call, env⟩
  unfold countedStep
  cases call with
  | start id =>
      simp only [Counted.afterwards_host]
      obtain ⟨result, w', heval, hend⟩ :=
        InterfaceService.start_spec .none crates (s.seen env) id
      rw [heval]
      cases hend with
      | unconfigured | unrouted => exact ⟨.refl _, fun _ => rfl⟩
      | unmasqueraded e iface spawned w' _ _ h =>
          rw [show w'.db = s.1.db from h.frame.1]
          exact ⟨.refl _, fun _ => rfl⟩
      | unsaved e iface spawned w' _ _ h =>
          rw [show w'.db = s.1.db from h.frame.1]
          exact ⟨.refl _, fun _ => rfl⟩
      | saved => exact ⟨.of_update _ _ _, fun _ => rfl⟩
  | stop id =>
      simp only [Counted.afterwards_host]
      obtain ⟨result, w', heval, hend⟩ := InterfaceService.stop_spec .none (s.seen env) id
      rw [heval]
      cases hend with
      | saved => exact ⟨.of_update _ _ _, fun _ => rfl⟩
      | absent | refused | unsaved => exact ⟨.refl _, fun _ => rfl⟩
  | setEnabled id enabled =>
      simp only [Counted.afterwards_host]
      rcases PeerService.set_enabled_spec .none crates (s.seen env) id enabled with
        heq | ⟨old, hread, hswitched⟩
      · rw [heq]
        exact ⟨.refl _, fun _ => rfl⟩
      · obtain ⟨hcores, hinterfaces, -⟩ := hswitched.frame (core_mem_of_read hread)
        exact ⟨.of_interfaces hcores hinterfaces, fun _ => hswitched.used⟩
  | runOnce =>
      simp only [Counted.afterwards_host]
      obtain ⟨w', hpass⟩ := pass_enforces crates (s.seen env)
      rw [hpass.completes]
      exact ⟨.of_interfaces hpass.cores hpass.frame.1, fun _ => hpass.used⟩
  | pollOnce =>
      simp only [Counted.afterwards_host]
      obtain ⟨w', heval, hrecords⟩ := pass_records crates (s.seen env)
      rw [heval]
      exact ⟨.of_interfaces hrecords.cores hrecords.interfaces, fun hpoll => absurd rfl hpoll⟩
  | traffic sent => exact ⟨.refl _, fun _ => rfl⟩

/-! ## Runs -/

/-- A pass finds no counter behind the use that is recorded of the peer with its key. -/
def CaughtUp (s : Counted) (a : CountedStep) : Prop :=
  a.call = .pollOnce → ∀ iface ∈ s.1.db.interfaces.rows, iface.status = .up →
    ∀ reading ∈ s.shown a.env.counters iface.name, ∀ peer,
      byPubkey (s.1.db.peersOf iface.id) reading.stats.publicKey.asStr = some peer →
        peer.bandwidthUsedBytes ≤ (s.2 iface.name reading.publicKey).total

/-- Every counter has reached the use that is recorded of the peers it belongs to. -/
def Covered (s : Counted) : Prop :=
  ∀ peer ∈ s.1.db.peers.rows, ∀ name key, peer.IsAt s.1.db name key →
    s.1.devices.lists name key = true → peer.bandwidthUsedBytes ≤ (s.2 name key).total

/-- The entries that the step creates anew belong to peers without recorded use. -/
def Unused (crates : Crates) (s : Counted) (a : CountedStep) : Prop :=
  ∀ name key, a.CreatesEntry crates s name key → ∀ peer ∈ s.1.db.peers.rows,
    peer.IsAt s.1.db name key → peer.bandwidthUsedBytes = 0

variable {s : Counted} {a : CountedStep} {name : String} {key : Key}

/-- A peer has one entry. -/
theorem is_at_unique {other : String} {k : Key} (h : peer.IsAt db name key)
    (h' : peer.IsAt db other k) : other = name ∧ k = key := by
  obtain ⟨iface, hfind, rfl, rfl⟩ := h
  obtain ⟨iface', hfind', rfl, rfl⟩ := h'
  obtain rfl : iface' = iface := Option.some.inj (hfind'.symm.trans hfind)
  exact ⟨rfl, rfl⟩

theorem mem_shown {host : String → List HostPeer} {reading : HostPeer}
    (h : reading ∈ s.shown host name) :
    s.1.devices.lists name reading.publicKey = true ∧
      reading.rxBytes = (s.2 name reading.publicKey).rx ∧
      reading.txBytes = (s.2 name reading.publicKey).tx := by
  obtain ⟨entry, hentry, rfl⟩ := List.mem_map.mp h
  exact ⟨(List.mem_filter.mp hentry).2, rfl, rfl⟩

/-- The recordings of a pass are those of the peers that are found for what the kernel shows. -/
theorem mem_recordings {env : Env} {bytes : UInt64} :
    (id, bytes) ∈ (s.seen env).recordings ↔
      ∃ iface ∈ s.1.db.interfaces.rows, iface.status = .up ∧
        ∃ reading ∈ s.shown env.counters iface.name, ∃ peer,
          byPubkey (s.1.db.peersOf iface.id) reading.stats.publicKey.asStr = some peer ∧
            peer.id = id ∧ bytes = (s.2 iface.name reading.publicKey).total := by
  unfold World.recordings
  rw [List.mem_flatMap]
  refine exists_congr fun iface => and_congr mem_sorted_by ?_
  unfold Interface.recordings
  by_cases hup : iface.status = .up
  · rw [if_pos hup, List.flatMap_map, List.mem_flatMap]
    refine Iff.trans (exists_congr fun reading => and_congr_right fun hreading => ?_)
      (and_iff_right hup).symm
    obtain ⟨-, hrx, htx⟩ := mem_shown hreading
    have htotal : saturatingAdd reading.stats.rxBytes reading.stats.txBytes =
        (s.2 iface.name reading.publicKey).total := by
      show saturatingAdd reading.rxBytes reading.txBytes = _
      rw [hrx, htx]
      rfl
    unfold recorded
    rw [htotal, Option.mem_toList, Option.map_eq_some_iff]
    refine exists_congr fun peer => and_congr_right fun _ => ?_
    rw [Prod.mk.injEq, eq_comm (a := bytes)]
  · rw [if_neg hup]
    exact iff_of_false List.not_mem_nil fun h => hup h.1

/-- What is recorded of a peer is the counter of its entry. -/
theorem recording_at {env : Env} {bytes : UInt64} (h : (id, bytes) ∈ (s.seen env).recordings) :
    ∃ peer ∈ s.1.db.peers.rows, peer.id = id ∧ ∃ name key, peer.IsAt s.1.db name key ∧
      s.1.devices.lists name key = true ∧ bytes = (s.2 name key).total := by
  obtain ⟨iface, hiface, -, reading, hreading, peer, hfound, hid, hbytes⟩ := mem_recordings.mp h
  obtain ⟨hmem, htext⟩ := by_pubkey_mem hfound
  obtain ⟨hrow, hinterface⟩ := mem_peers_of.mp hmem
  refine ⟨peer, hrow, hid, iface.name, reading.publicKey, ⟨iface, ?_, rfl, ?_⟩,
    (mem_shown hreading).1, hbytes⟩
  · exact Table.find_eq_some.mpr ⟨hiface, hinterface.symm⟩
  · exact ((stats_key_iff reading _).mp (WgPublicKey.as_str_inj.mp htext.symm)).symm

/-- A pass leaves of a peer the counter of its entry, if it is recorded, and else the use as it
was. -/
theorem used_after_pass (crates : Crates) (s : Counted) (env : Env) (id : Id PeerMarker) :
    (∀ bytes, (id, bytes) ∈ (s.seen env).recordings →
      (countedStep crates s ⟨.pollOnce, env⟩).1.db.used id = some bytes) ∧
    ((∀ bytes, (id, bytes) ∉ (s.seen env).recordings) →
      (countedStep crates s ⟨.pollOnce, env⟩).1.db.used id = s.1.db.used id) := by
  obtain ⟨w', heval, hrecords⟩ := pass_records crates (s.seen env)
  have hused : (countedStep crates s ⟨.pollOnce, env⟩).1.db.used =
      overwrite s.1.db.used (s.seen env).recordings := by
    unfold countedStep
    rw [Counted.afterwards_host, heval]
    exact hrecords.used
  rw [hused]
  refine ⟨fun bytes hbytes => overwrite_of_agree (fun other hother => ?_) hbytes,
    overwrite_of_not_mem⟩
  -- all recordings of a peer are of one entry
  obtain ⟨peer, hrow, hid, name, key, hat, -, rfl⟩ := recording_at hbytes
  obtain ⟨peer', hrow', hid', name', key', hat', -, rfl⟩ := recording_at hother
  obtain rfl : peer' = peer := Table.eq_of_key hrow' hrow (hid'.trans hid.symm)
  obtain ⟨rfl, rfl⟩ := is_at_unique hat hat'
  rfl

/-- A step lets no use decrease exactly if it finds no counter behind. -/
theorem step_grows_iff (crates : Crates) (s : Counted) (a : CountedStep) :
    UseGrows s.1 (countedStep crates s a).1 ↔ CaughtUp s a := by
  by_cases hcall : a.call = .pollOnce
  · obtain ⟨call, env⟩ := a
    subst hcall
    constructor
    · intro hgrows _ iface hiface hup reading hreading peer hfound
      have hrow := (mem_peers_of.mp (by_pubkey_mem hfound).1).1
      have hmem : (peer.id, (s.2 iface.name reading.publicKey).total) ∈ (s.seen env).recordings :=
        mem_recordings.mpr ⟨iface, hiface, hup, reading, hreading, peer, hfound, rfl, rfl⟩
      exact hgrows peer.id _ _ (used_of_mem hrow) ((used_after_pass crates s env _).1 _ hmem)
    · intro hcaught id used used' hbefore hafter
      by_cases hmem : ∃ bytes, (id, bytes) ∈ (s.seen env).recordings
      · obtain ⟨bytes, hbytes⟩ := hmem
        obtain rfl : bytes = used' :=
          Option.some.inj (((used_after_pass crates s env id).1 bytes hbytes).symm.trans hafter)
        obtain ⟨iface, hiface, hup, reading, hreading, peer, hfound, rfl, rfl⟩ :=
          mem_recordings.mp hbytes
        have hrow := (mem_peers_of.mp (by_pubkey_mem hfound).1).1
        obtain rfl : peer.bandwidthUsedBytes = used :=
          Option.some.inj ((used_of_mem hrow).symm.trans hbefore)
        exact hcaught rfl iface hiface hup reading hreading peer hfound
      · have hkept := (used_after_pass crates s env id).2 (not_exists.mp hmem)
        exact Option.some.inj (hbefore.symm.trans (hkept.symm.trans hafter)) ▸ UInt64.le_refl _
  · refine iff_of_true (fun id used used' hbefore hafter => ?_) fun hpoll => absurd hpoll hcall
    have hkept := congrFun ((step_keeps crates s a).2 hcall) id
    exact Option.some.inj (hbefore.symm.trans (hkept.symm.trans hafter)) ▸ UInt64.le_refl _

/-- While the counters cover the use, a pass finds none behind. -/
theorem Covered.caught_up (h : Covered s) : CaughtUp s a := by
  intro hcall iface hiface hup reading hreading peer hfound
  obtain ⟨hmem, htext⟩ := by_pubkey_mem hfound
  obtain ⟨hrow, hinterface⟩ := mem_peers_of.mp hmem
  refine h peer hrow iface.name reading.publicKey ⟨iface, ?_, rfl, ?_⟩ (mem_shown hreading).1
  · exact Table.find_eq_some.mpr ⟨hiface, hinterface.symm⟩
  · exact ((stats_key_iff reading _).mp (WgPublicKey.as_str_inj.mp htext.symm)).symm

theorem Meter.total_le_add (meter sent : Meter) : meter.total ≤ (meter.add sent).total := by
  rw [UInt64.le_iff_toNat_le]
  simp only [Meter.total, Meter.add, to_nat_saturating_add]
  omega

/-- The recorded use stays covered as long as only entries of unused peers are created. -/
theorem Covered.meters (crates : Crates) (h : Covered s) (ha : Unused crates s a)
    (hpeer : peer ∈ s.1.db.peers.rows) (hat : peer.IsAt s.1.db name key)
    (hlists : (countedStep crates s a).1.devices.lists name key = true) :
    peer.bandwidthUsedBytes ≤ ((countedStep crates s a).2 name key).total := by
  by_cases htraffic : ∃ sent, a.call = .traffic sent
  · obtain ⟨sent, hcall⟩ := htraffic
    obtain ⟨call, env⟩ := a
    subst hcall
    have hgrows : (s.2 name key).total ≤ ((s.2 name key).add (sent name key)).total :=
      Meter.total_le_add _ _
    exact UInt64.le_trans (h peer hpeer name key hat hlists) hgrows
  · rcases step_counts_on crates s a (not_exists.mp htraffic) name key hlists with
      hcreated | ⟨hbefore, hsame⟩
    · rw [ha name key hcreated peer hpeer hat]
      exact UInt64.le_iff_toNat_le.mpr (Nat.zero_le _)
    · rw [hsame]
      exact h peer hpeer name key hat hbefore

/-- The counters keep covering the use as long as only entries of unused peers are created. -/
theorem step_covered (crates : Crates) (h : Covered s) (ha : Unused crates s a) :
    Covered (countedStep crates s a) := by
  intro peer hpeer name key hat hlists
  -- the row and its entry before the step
  obtain ⟨old, hold, hid, hbefore⟩ := (step_keeps crates s a).1.source hpeer
  replace hat := hbefore name key hat
  have hcovered := h.meters crates ha hold hat hlists
  have hafter := used_of_mem hpeer
  by_cases hcall : a.call = .pollOnce
  · obtain ⟨call, env⟩ := a
    subst hcall
    by_cases hmem : ∃ bytes, (peer.id, bytes) ∈ (s.seen env).recordings
    · obtain ⟨bytes, hbytes⟩ := hmem
      rw [(used_after_pass crates s env _).1 bytes hbytes] at hafter
      obtain ⟨found, hfound, hsame, name', key', hat', hlisted, rfl⟩ := recording_at hbytes
      obtain rfl : found = old := Table.eq_of_key hfound hold (hsame.trans hid.symm)
      obtain ⟨rfl, rfl⟩ := is_at_unique hat' hat
      rw [← Option.some.inj hafter]
      -- the pass creates no entry, so that the counter is the one that was read
      have hno : ∀ sent, CountedCall.pollOnce ≠ .traffic sent := fun sent h => by cases h
      rcases step_counts_on crates s ⟨.pollOnce, env⟩ hno name key hlists with
        ⟨_, _, _, hcreated⟩ | ⟨-, hmeter⟩
      · exact hcreated.elim
      · rw [hmeter]
        exact UInt64.le_refl _
    · rw [(used_after_pass crates s env _).2 (not_exists.mp hmem), ← hid, used_of_mem hold]
        at hafter
      rwa [← Option.some.inj hafter]
  · rw [(step_keeps crates s a).2 hcall, ← hid, used_of_mem hold] at hafter
    rwa [← Option.some.inj hafter]

/-- If the counters start out covering the use, no pass of a run finds one behind as long as only
entries of unused peers are created. -/
theorem Covered.run_caught_up (crates : Crates) (h : Covered s) {run : List CountedStep}
    (hunused : EachStep (countedStep crates) (Unused crates) s run) :
    EachStep (countedStep crates) CaughtUp s run := by
  have hall := always_of_each_step (fun s a => step_covered crates) h hunused
  exact hall.each_step.mono fun s a h => h.caught_up

/-- Along a run, no peer's recorded use ever decreases if and only if no pass of the poller finds a
counter behind the use that is recorded of a peer. None does as long as the counters start out
covering the use and the entries that are created anew belong to peers of which no use is
recorded. -/
theorem use_grows_iff (crates : Crates) (s : Counted) (run : List CountedStep) :
    (EachStep (countedStep crates) (fun s a => UseGrows s.1 (countedStep crates s a).1) s run ↔
      EachStep (countedStep crates) CaughtUp s run) ∧
    (Covered s → EachStep (countedStep crates) (Unused crates) s run →
      EachStep (countedStep crates) CaughtUp s run) := by
  constructor
  · constructor
    · exact fun h => h.mono fun s a => (step_grows_iff crates s a).mp
    · exact fun h => h.mono fun s a => (step_grows_iff crates s a).mpr
  · exact fun hcovered hunused => hcovered.run_caught_up crates hunused

/-- A pass of the poller creates no entry. -/
theorem unused_poll (crates : Crates) (s : Counted) (env : Env) :
    Unused crates s ⟨.pollOnce, env⟩ :=
  fun _ _ ⟨_, _, _, hcall⟩ => hcall.elim

/-- Traffic creates no entry. -/
theorem unused_traffic (crates : Crates) (s : Counted) (sent : String → Key → Meter) (env : Env) :
    Unused crates s ⟨.traffic sent, env⟩ :=
  fun _ _ ⟨_, _, _, hcall⟩ => hcall.elim

/-- What the kernel shows of the peers, if the device has their entries. -/
def countedEnv : Env :=
  let counters := [⟨.fill 1, none, 0, 0, none⟩, ⟨.fill 2, none, 0, 0, none⟩,
    ⟨.fill 3, none, 0, 0, none⟩]
  { (World.fresh []).env with counters := fun _ => counters }

/-- The device of peers of which nothing has been recorded. -/
def usedHost : Counted where
  fst := { quotaHost with devices := Devices.create (fun _ => none) "wg0" }
  snd _ _ := .zero

/-- The peers' interface is started, and one of them uses up its quota. -/
def usedUp : List CountedStep :=
  [⟨.start ⟨0⟩, countedEnv⟩, ⟨.traffic fun _ _ => ⟨6, 7⟩, countedEnv⟩, ⟨.pollOnce, countedEnv⟩]

theorem used_host_unused : ∀ peer ∈ usedHost.1.db.peers.rows, peer.bandwidthUsedBytes = 0 := by
  decide +kernel

theorem used_host_covered : Covered usedHost := by
  intro peer hpeer name key _ _
  rw [used_host_unused peer hpeer]
  exact UInt64.le_iff_toNat_le.mpr (Nat.zero_le _)

/-- The run creates entries only while nothing is recorded. -/
theorem used_up_unused :
    EachStep (countedStep .transparent) (Unused .transparent) usedHost usedUp :=
  ⟨fun _ _ _ peer hpeer _ => used_host_unused peer hpeer, unused_traffic _ _ _ _, unused_poll _ _ _,
    trivial⟩

/-- No pass of the run finds a counter behind, and no use decreases. -/
theorem caught_up_used_up :
    EachStep (countedStep .transparent) CaughtUp usedHost usedUp ∧
      EachStep (countedStep .transparent)
        (fun s a => UseGrows s.1 (countedStep .transparent s a).1) usedHost usedUp := by
  obtain ⟨hiff, hcaught⟩ := use_grows_iff .transparent usedHost usedUp
  have hrun := hcaught used_host_covered used_up_unused
  exact ⟨hrun, hiff.mpr hrun⟩

/-- Along a run, no peer's recorded use decreases as long as the counters start out covering the use
and only entries of peers of which no use is recorded are created anew. -/
theorem use_kept (crates : Crates) (s : Counted) (hcovered : Covered s) (run : List CountedStep)
    (hunused : EachStep (countedStep crates) (Unused crates) s run) :
    EachStep (countedStep crates) (fun s a => UseGrows s.1 (countedStep crates s a).1) s run :=
  (hcovered.run_caught_up crates hunused).mono fun s a => (step_grows_iff crates s a).mpr

/-- The peer that was disabled is enabled, and more traffic is counted. -/
def joinedLater : List CountedStep :=
  [⟨.setEnabled ⟨2⟩ true, countedEnv⟩, ⟨.traffic fun _ _ => ⟨1, 2⟩, countedEnv⟩,
    ⟨.pollOnce, countedEnv⟩]

theorem use_kept_joined :
    EachStep (countedStep .transparent)
      (fun s a => UseGrows s.1 (countedStep .transparent s a).1) usedHost
      (usedUp ++ joinedLater) := by
  refine use_kept .transparent usedHost used_host_covered _ (each_step_append.mpr
    ⟨used_up_unused, ?_, unused_traffic _ _ _ _, unused_poll _ _ _, trivial⟩)
  -- nothing has been recorded under the key of the new entry
  have hunused : ∀ peer ∈ (after (countedStep .transparent) usedHost usedUp).1.db.peers.rows,
      ∀ other ∈ (after (countedStep .transparent) usedHost usedUp).1.db.peers.rows,
        peer.id = ⟨2⟩ → other.publicKey.key = peer.publicKey.key →
          other.bandwidthUsedBytes = 0 := by decide +kernel
  rintro name key ⟨peer, hpeer, ⟨_, -, -, hkey⟩, hid, -⟩ other hother ⟨_, -, -, hsame⟩
  exact hunused peer hpeer other hother hid (hsame.trans hkey.symm)

/-- Enabling a peer whose quota is used up lets its use decrease. -/
theorem use_falls :
    ¬ EachStep (countedStep .transparent)
      (fun s a => UseGrows s.1 (countedStep .transparent s a).1) usedHost
      (usedUp ++ [⟨.setEnabled ⟨0⟩ true, countedEnv⟩, ⟨.pollOnce, countedEnv⟩]) := by
  intro h
  have hlast := (each_step_append.mp h).2.2.1 ⟨0⟩ 13 0 (by decide +kernel) (by decide +kernel)
  exact absurd hlast (by decide)

end Wireforge
