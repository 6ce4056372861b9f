import Wireforge.Lib.Trace
import Wireforge.Task.TaskSpec

/-!
# A pass of the scheduler

While nothing fails, a pass enforces every window it can read, tells the kernel of exactly the
peers whose status has changed, and leaves everything else alone; a second pass at the same time
only reads. `pass_enforces` proves all of this of one pass over any database.
-/

namespace Wireforge

open Effect DefguardAdapter Scheduler

variable {crates : Crates} {now : DateTime} {w : World} {peer : Peer}

/-- The calls that go to the kernel. -/
def Sys.isKernel : Sys → Bool
  | .openApi _ | .createDevice _ | .configureDevice _ | .configurePeerRouting _ _ => true
  | .removeDevice _ | .configurePeer _ _ | .removePeer _ _ | .readDevice _ => true
  | .runIpt _ _ | .readForward _ | .writeForward _ _ | .spawn _ _ | .listLinks => true
  | _ => false

/-- Whether the window of a peer is open, if its schedule can be read. -/
def Peer.due (crates : Crates) (now : DateTime) (peer : Peer) : Option Bool :=
  (peer.schedule.bind fun json => (crates.parseSchedule json).toOption).map fun schedule =>
    isInWindow crates schedule now

/-- What a pass makes of a row: a window that has opened or closed decides the status. -/
def Peer.enforced (crates : Crates) (now : DateTime) (peer : Peer) : Peer :=
  match peer.due crates now with
  | some enabled =>
      if enabled = peer.enabled then peer else { peer with enabled, updatedAt := now }
  | none => peer

/-- What a pass tells the kernel of a peer: to install the peer on the device of its interface if
its window has opened, to remove it if the window has closed, and else nothing. -/
def switchCalls (crates : Crates) (db : Db) (now : DateTime) (peer : Peer) : List Sys :=
  match peer.due crates now, db.interfaces.find peer.interfaceId with
  | some enabled, some iface =>
      if enabled = peer.enabled then []
      else if enabled then [.openApi iface.name, .configurePeer iface.name (peer.wgPeer crates)]
      else [.openApi iface.name, .removePeer iface.name peer.publicKey.key]
  | _, _ => []

/-- What a pass at the present time does, and what a second one at the same time does. -/
structure PassEnforces (crates : Crates) (w w' : World) : Prop where
  completes : eval (handle .none) (runOnce crates) w = (.ok (), w')
  rows : w'.db.peers.rows = w.db.peers.rows.map (Peer.enforced crates w.env.now)
  windows : ∀ peer ∈ w'.db.peers.rows, ∀ json schedule, peer.schedule = some json →
    crates.parseSchedule json = .ok schedule →
      peer.enabled = isInWindow crates schedule w.env.now
  frame : w'.db.interfaces = w.db.interfaces ∧ w'.db.traffic = w.db.traffic ∧ w'.net = w.net ∧
    w'.spawned = w.spawned
  kernel : (trace (handle .none) (runOnce crates) w).filter Sys.isKernel =
    (sortedBy Peer.createdAt w.db.peers.rows).flatMap (switchCalls crates w.db w.env.now)
  again : ∀ env, env.now = w.env.now →
    trace (handle .none) (runOnce crates) { w' with env } = [.utcNow, .listPeers] ∧
      eval (handle .none) (runOnce crates) { w' with env } = (.ok (), { w' with env })

/-! ## One row -/

/-- A pass leaves a peer alone, or switches it. -/
theorem enforce_eq (crates : Crates) (now : DateTime) (peer : Peer) :
    enforce crates now peer = match peer.due crates now with
      | some enabled => if enabled = peer.enabled then pure () else toggle crates peer enabled
      | none => pure () := by
  unfold enforce Peer.due
  cases peer.schedule with
  | none => rfl
  | some json =>
      simp only [Option.bind_some]
      cases crates.parseSchedule json <;> rfl

namespace Peer

@[simp] theorem enforced_id (peer : Peer) : (peer.enforced crates now).id = peer.id := by
  unfold enforced
  split
  · split <;> rfl
  · rfl

@[simp] theorem enforced_schedule (peer : Peer) :
    (peer.enforced crates now).schedule = peer.schedule := by
  unfold enforced
  split
  · split <;> rfl
  · rfl

@[simp] theorem enforced_due (peer : Peer) :
    (peer.enforced crates now).due crates now = peer.due crates now := by
  unfold due
  rw [enforced_schedule]

/-- The status of an enforced row is the one that is due. -/
theorem enforced_enabled {enabled : Bool} (h : peer.due crates now = some enabled) :
    (peer.enforced crates now).enabled = enabled := by
  unfold enforced
  rw [h]
  simp only
  split
  · exact Eq.symm ‹_›
  · rfl

/-- An enforced row is left alone. -/
theorem enforce_enforced (peer : Peer) :
    enforce crates now (peer.enforced crates now) = pure () := by
  rw [enforce_eq, enforced_due]
  cases hdue : peer.due crates now with
  | none => rfl
  | some enabled => exact if_pos (enforced_enabled hdue).symm

end Peer

/-! ## Switching a peer -/

section Toggle

theorem trace_update (plan : Plan) (w : World) (row : Peer) :
    trace (handle plan) (SqlitePeerRepository.update row) w =
      [.utcNow, .updatePeer row w.env.now] := by
  unfold SqlitePeerRepository.update
  rw [trace_bind_ok eval_utc_now]
  rfl

theorem trace_apply_peer (crates : Crates) (w : World) (iface : Interface) (peer : Peer) :
    trace (handle .none) (applyPeer crates iface peer) w =
      [.openApi iface.name, .configurePeer iface.name (peer.wgPeer crates)] := by
  unfold applyPeer
  rw [to_wg_peer_eq]
  rfl

theorem trace_remove_peer (w : World) (iface : Interface) (key : WgPublicKey) :
    trace (handle .none) (removePeer iface key) w =
      [.openApi iface.name, .removePeer iface.name key.key] := by
  unfold removePeer decodeB64Key WgPublicKey.asStr
  rw [decode_b64_text]
  rfl

/-- A row that was read is written with a new status, and the kernel is told. -/
theorem toggle_effect (enabled : Bool) (hpeer : peer ∈ w.db.peers.rows) {iface : Interface}
    (hiface : w.db.interfaces.find peer.interfaceId = some iface) :
    ∃ db devices, w.db.updatePeer { peer with enabled } w.env.now = .ok db ∧
      eval (handle .none) (toggle crates peer enabled) w = (.ok (), { w with db, devices }) ∧
      (trace (handle .none) (toggle crates peer enabled) w).filter Sys.isKernel =
        if enabled then [.openApi iface.name, .configurePeer iface.name (peer.wgPeer crates)]
        else [.openApi iface.name, .removePeer iface.name peer.publicKey.key] := by
  have href : (w.db.interfaces.find ({ peer with enabled } : Peer).interfaceId).isSome :=
    w.db.references peer hpeer
  obtain ⟨db, hdb⟩ := Db.update_peer_exists href w.env.now
  have hupdate : eval (handle .none) (Task.run (SqlitePeerRepository.update { peer with enabled }))
      w = (.ok (), { w with db }) := by
    rw [eval_task_run]
    rcases SqlitePeerRepository.eval_update .none w { peer with enabled } with
      ⟨db', hdb', heval⟩ | ⟨hfails | ⟨e, hfails⟩, -⟩
    · obtain rfl : db' = db := Except.ok.inj (hdb'.symm.trans hdb)
      rw [heval]
      rfl
    · cases hfails
    · cases hfails.symm.trans hdb
  have hfind : eval (handle .none)
      (Task.run (SqliteInterfaceRepository.findById peer.interfaceId)) { w with db } =
        (.ok (some iface), { w with db }) := by
    rw [eval_task_run, SqliteInterfaceRepository.eval_find_by_id, Plan.outcome_none,
      (Db.update_peer_ok hdb).2, hiface]
    rfl
  have htrace : trace (handle .none) (Task.run (SqlitePeerRepository.update { peer with enabled }))
      w = [.utcNow, .updatePeer { peer with enabled } w.env.now] :=
    (trace_or_else ..).trans (trace_update .none w { peer with enabled })
  unfold toggle
  cases enabled with
  | true =>
      refine ⟨db, Plan.none.installed crates iface { peer with enabled := true } w.devices, hdb,
        ?_, ?_⟩
      · rw [eval_bind, hupdate]
        simp only [eval_bind, hfind, if_true, eval_ignore, apply_peer_after]
      · rw [trace_bind_ok hupdate, htrace, trace_bind_ok hfind]
        simp only [if_true, trace_ignore, trace_apply_peer]
        rfl
  | false =>
      refine ⟨db, Plan.none.uninstalled iface peer.publicKey w.devices, hdb, ?_, ?_⟩
      · rw [eval_bind, hupdate]
        simp only [eval_bind, hfind, Bool.false_eq_true, if_false, eval_ignore, remove_peer_after]
      · rw [trace_bind_ok hupdate, htrace, trace_bind_ok hfind]
        simp only [Bool.false_eq_true, if_false, trace_ignore, trace_remove_peer]
        rfl

end Toggle

/-! ## All rows -/

/-- Enforcing the window of a row that was read enforces it in the database. -/
theorem enforce_effect (hpeer : peer ∈ w.db.peers.rows) :
    ∃ db devices, eval (handle .none) (enforce crates w.env.now peer) w =
        (.ok (), { w with db, devices }) ∧
      db.peers.rows = w.db.peers.rows.map (fun row =>
        if row.id = peer.id then row.enforced crates w.env.now else row) ∧
      db.interfaces = w.db.interfaces ∧ db.traffic = w.db.traffic ∧
      (trace (handle .none) (enforce crates w.env.now peer) w).filter Sys.isKernel =
        switchCalls crates w.db w.env.now peer := by
  obtain ⟨iface, hiface⟩ := Option.isSome_iff_exists.mp (w.db.references peer hpeer)
  -- the row with the identifier is the one that was read
  have hrows : ∀ f : Peer → Peer, (∀ row ∈ w.db.peers.rows, row.id = peer.id → f row =
      row.enforced crates w.env.now) → (∀ row, row.id ≠ peer.id → f row = row) →
        w.db.peers.rows.map f = w.db.peers.rows.map (fun row =>
          if row.id = peer.id then row.enforced crates w.env.now else row) := by
    intro f hsame hother
    refine List.map_congr_left fun row hrow => ?_
    by_cases hid : row.id = peer.id
    · rw [if_pos hid]
      exact hsame row hrow hid
    · rw [if_neg hid]
      exact hother row hid
  have hunchanged : peer.enforced crates w.env.now = peer → w.db.peers.rows =
      w.db.peers.rows.map (fun row =>
        if row.id = peer.id then row.enforced crates w.env.now else row) := by
    intro hkeep
    rw [← hrows id (fun row hrow hid => ?_) (fun _ _ => rfl), List.map_id]
    rw [Table.eq_of_key hrow hpeer hid, hkeep]
    rfl
  rw [enforce_eq]
  unfold switchCalls
  cases hdue : peer.due crates w.env.now with
  | none =>
      refine ⟨w.db, w.devices, rfl, hunchanged ?_, rfl, rfl, rfl⟩
      unfold Peer.enforced
      rw [hdue]
  | some enabled =>
      simp only [hiface]
      by_cases hsame : enabled = peer.enabled
      · rw [if_pos hsame, if_pos hsame]
        refine ⟨w.db, w.devices, rfl, hunchanged ?_, rfl, rfl, rfl⟩
        unfold Peer.enforced
        rw [hdue]
        exact if_pos hsame
      · rw [if_neg hsame, if_neg hsame]
        obtain ⟨db, devices, hdb, heval, htrace⟩ := toggle_effect enabled hpeer hiface
        refine ⟨db, devices, heval, ?_, (Db.update_peer_ok hdb).2, (Db.find_update_peer hdb).2,
          htrace⟩
        rw [(Db.update_peer_ok hdb).1]
        refine hrows _ (fun row hrow hid => ?_) fun row hid => ?_
        · rw [Table.eq_of_key hrow hpeer hid, Db.setPeer, if_pos rfl]
          unfold Peer.enforced
          rw [hdue]
          exact (if_neg hsame).symm
        · exact if_neg hid

/-- Enforcing the windows of rows that were read, one after the other. -/
theorem enforce_all (peers : List Peer) (hdistinct : (peers.map Peer.id).Nodup)
    (hpeers : ∀ peer ∈ peers, peer ∈ w.db.peers.rows) :
    ∃ db devices, eval (handle .none) (forEach (enforce crates w.env.now) peers) w =
        (.ok (), { w with db, devices }) ∧
      db.peers.rows = w.db.peers.rows.map (fun row =>
        if row.id ∈ peers.map Peer.id then row.enforced crates w.env.now else row) ∧
      db.interfaces = w.db.interfaces ∧ db.traffic = w.db.traffic ∧
      (trace (handle .none) (forEach (enforce crates w.env.now) peers) w).filter Sys.isKernel =
        peers.flatMap (switchCalls crates w.db w.env.now) := by
  induction peers generalizing w with
  | nil =>
      refine ⟨w.db, w.devices, rfl, ?_, rfl, rfl, rfl⟩
      simp
  | cons peer rest ih =>
      obtain ⟨hfresh, hrest⟩ := List.nodup_cons.mp hdistinct
      obtain ⟨db, devices, heval, hrows, hinterfaces, htraffic, hcalls⟩ :=
        @enforce_effect crates w peer (hpeers peer List.mem_cons_self)
      -- the other rows are still as they were read
      have hkept : ∀ other ∈ rest, other ∈ db.peers.rows := by
        intro other hother
        rw [hrows]
        refine List.mem_map.mpr ⟨other, hpeers other (List.mem_cons_of_mem _ hother), if_neg ?_⟩
        exact fun hid => hfresh (hid ▸ List.mem_map_of_mem hother)
      obtain ⟨db', devices', heval', hrows', hinterfaces', htraffic', hcalls'⟩ :=
        ih (w := { w with db, devices }) hrest hkept
      refine ⟨db', devices', ?_, ?_, hinterfaces'.trans hinterfaces, htraffic'.trans htraffic, ?_⟩
      · rw [eval_for_each_cons, heval]
        exact heval'
      · rw [hrows', hrows, List.map_map]
        refine List.map_congr_left fun row _ => ?_
        simp only [Function.comp_apply, List.map_cons]
        by_cases hid : row.id = peer.id
        · have hnot : row.id ∉ rest.map Peer.id := hid ▸ hfresh
          have hlisted : row.id ∈ peer.id :: rest.map Peer.id := hid ▸ List.mem_cons_self
          rw [if_pos hid, Peer.enforced_id, if_neg hnot, if_pos hlisted]
        · rw [if_neg hid]
          by_cases hmem : row.id ∈ rest.map Peer.id
          · rw [if_pos hmem, if_pos (List.mem_cons_of_mem _ hmem)]
          · rw [if_neg hmem, if_neg (by simpa [hid] using hmem)]
      · rw [trace_for_each_cons heval, List.filter_append, hcalls, hcalls', List.flatMap_cons]
        have hcongr : switchCalls crates db w.env.now = switchCalls crates w.db w.env.now := by
          unfold switchCalls
          rw [hinterfaces]
        show _ ++ rest.flatMap (switchCalls crates db w.env.now) = _
        rw [hcongr]

/-- Enforcing rows whose windows are enforced already only reads. -/
theorem enforce_all_enforced {peers : List Peer}
    (h : ∀ peer ∈ peers, ∃ old : Peer, old.enforced crates now = peer) (w : World) :
    eval (handle .none) (forEach (enforce crates now) peers) w = (.ok (), w) ∧
      trace (handle .none) (forEach (enforce crates now) peers) w = [] := by
  induction peers with
  | nil => exact ⟨rfl, rfl⟩
  | cons peer rest ih =>
      obtain ⟨old, rfl⟩ := h peer List.mem_cons_self
      obtain ⟨heval, htrace⟩ := ih fun peer hpeer => h peer (List.mem_cons_of_mem _ hpeer)
      have hfirst : eval (handle .none) (enforce crates now (old.enforced crates now)) w =
          (.ok (), w) := by
        rw [Peer.enforce_enforced]
        rfl
      constructor
      · rw [eval_for_each_cons, hfirst]
        exact heval
      · rw [trace_for_each_cons hfirst, htrace, Peer.enforce_enforced]
        rfl

/-! ## A pass -/

theorem eval_run_once (crates : Crates) (w : World) :
    eval (handle .none) (runOnce crates) w = eval (handle .none)
      (forEach (enforce crates w.env.now) (sortedBy Peer.createdAt w.db.peers.rows)) w := by
  unfold runOnce
  simp only [eval_bind, eval_task_run, eval_utc_now, SqlitePeerRepository.eval_list_all,
    Except.mapError, Plan.outcome_none]

theorem trace_run_once (crates : Crates) (w : World) :
    trace (handle .none) (runOnce crates) w = .utcNow :: .listPeers :: trace (handle .none)
      (forEach (enforce crates w.env.now) (sortedBy Peer.createdAt w.db.peers.rows)) w := by
  have hnow : eval (handle .none) (Task.run utcNow) w = (.ok w.env.now, w) := rfl
  have hlist : eval (handle .none) (Task.run SqlitePeerRepository.listAll) w =
      (.ok (sortedBy Peer.createdAt w.db.peers.rows), w) := rfl
  unfold runOnce
  rw [trace_bind_ok hnow, trace_bind_ok hlist]
  rfl

/-- While nothing fails, a pass of the scheduler enforces the windows. -/
theorem pass_enforces (crates : Crates) (w : World) : ∃ w', PassEnforces crates w w' := by
  have hdistinct : ((sortedBy Peer.createdAt w.db.peers.rows).map Peer.id).Nodup :=
    nodup_map_sorted_by w.db.peers.nodup
  obtain ⟨db, devices, heval, hrows, hinterfaces, htraffic, hcalls⟩ :=
    @enforce_all crates w (sortedBy Peer.createdAt w.db.peers.rows) hdistinct
      fun peer hpeer => mem_sorted_by.mp hpeer
  have hall : db.peers.rows = w.db.peers.rows.map (Peer.enforced crates w.env.now) := by
    rw [hrows]
    refine List.map_congr_left fun row hrow => if_pos ?_
    exact List.mem_map_of_mem (mem_sorted_by.mpr hrow)
  refine ⟨{ w with db, devices }, ?_, hall, fun peer hpeer json schedule hjson hparse => ?_,
    ⟨hinterfaces, htraffic, rfl, rfl⟩, ?_, fun env hnow => ?_⟩
  · rw [eval_run_once]
    exact heval
  · obtain ⟨old, -, rfl⟩ := List.mem_map.mp (hall ▸ hpeer)
    rw [Peer.enforced_schedule] at hjson
    refine Peer.enforced_enabled ?_
    unfold Peer.due
    rw [hjson, Option.bind_some, hparse]
    rfl
  · rw [trace_run_once]
    exact hcalls
  · have henforced : ∀ peer ∈ sortedBy Peer.createdAt db.peers.rows,
        ∃ old : Peer, old.enforced crates w.env.now = peer := by
      intro peer hpeer
      obtain ⟨old, -, heq⟩ := List.mem_map.mp (hall ▸ mem_sorted_by.mp hpeer)
      exact ⟨old, heq⟩
    obtain ⟨heval', htrace'⟩ := enforce_all_enforced henforced { w with db, devices, env }
    rw [trace_run_once, eval_run_once]
    simp only [hnow]
    rw [htrace']
    exact ⟨rfl, heval'⟩

end Wireforge
