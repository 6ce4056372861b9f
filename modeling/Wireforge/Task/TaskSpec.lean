import Wireforge.Service.PeerSpec
import Wireforge.Task.Poller
import Wireforge.Task.Scheduler

/-!
# What the background tasks preserve

The scheduler and the poller change the database and the kernel only by switching peers, storing
readings and recording counters. An invariant that survives these three survives every pass.
-/

namespace Wireforge

open Effect DefguardAdapter

variable {plan : Plan} {crates : Crates} {w w' : World}

/-- Switching a peer keeps the interfaces and, apart from its status, the peers. -/
theorem Switched.frame {peer : Peer} {enabled : Bool} (hcore : peer.core ∈ w.db.cores)
    (h : Switched plan crates w { peer with enabled } w') :
    w'.db.cores = w.db.cores ∧ w'.db.interfaces = w.db.interfaces ∧ w'.env = w.env := by
  cases h with
  | unsaved => exact ⟨rfl, rfl, rfl⟩
  | detached db hdb _ => exact ⟨Db.cores_update hcore hdb, (Db.update_peer_ok hdb).2, rfl⟩
  | pushed iface db hdb _ => exact ⟨Db.cores_update hcore hdb, (Db.update_peer_ok hdb).2, rfl⟩

/-- An invariant that switching a peer, storing a reading and recording a counter preserve. -/
structure TaskInvariant (plan : Plan) (crates : Crates) (inv : World → Prop) : Prop where
  switched : ∀ w w' (peer : Peer) enabled, inv w → peer.core ∈ w.db.cores →
    Switched plan crates w { peer with enabled } w' → inv w'
  counted : ∀ w id bytes, inv w → inv { w with db := w.db.recordBandwidth id bytes }
  stored : ∀ w db row, inv w → w.db.insertSnapshot row = .ok db → inv { w with db }

variable {inv : World → Prop}

/-- A peer that was read is one of the rows. -/
theorem core_mem_of_read {id : Id PeerMarker} {peer : Peer}
    (h : plan.readPeer w.db id = some peer) : peer.core ∈ w.db.cores :=
  List.mem_map_of_mem (Plan.read_peer_some h).1

theorem TaskInvariant.set_enabled (h : TaskInvariant plan crates inv) (id : Id PeerMarker)
    (enabled : Bool) : Keeps (handle plan) inv (PeerService.setEnabled crates id enabled) := by
  intro w hinv
  rcases PeerService.set_enabled_spec plan crates w id enabled with heq | ⟨old, hread, hswitched⟩
  · rwa [heq]
  · exact h.switched w _ old enabled hinv (core_mem_of_read hread) hswitched

/-! ## The scheduler -/

namespace Scheduler

theorem toggle_spec (plan : Plan) (crates : Crates) (w : World) (peer : Peer) (inWindow : Bool) :
    Switched plan crates w { peer with enabled := inWindow }
      (eval (handle plan) (toggle crates peer inWindow) w).2 := by
  unfold toggle
  simp only [eval_bind, eval_task_run]
  rcases SqlitePeerRepository.eval_update plan w { peer with enabled := inWindow } with
    ⟨db, hdb, hupdate⟩ | ⟨_, e, hupdate⟩
  · rw [hupdate]
    simp only [Except.mapError, SqliteInterfaceRepository.eval_find_by_id, Plan.outcome]
    cases hfails : plan.error (.findInterface peer.interfaceId) with
    | some e => exact .detached db hdb (by simp [Plan.readInterface, hfails])
    | none =>
        cases hfind : db.interfaces.find peer.interfaceId with
        | none => exact .detached db hdb (by simp [Plan.readInterface, hfails, hfind])
        | some iface =>
            have hread : plan.readInterface db peer.interfaceId = some iface := by
              simp [Plan.readInterface, hfails, hfind]
            cases inWindow with
            | true =>
                simp only [if_true, eval_ignore, apply_peer_after]
                exact .pushed iface db hdb hread
            | false =>
                simp only [Bool.false_eq_true, if_false, eval_ignore, remove_peer_after]
                exact .pushed iface db hdb hread
  · rw [hupdate]
    exact .unsaved

/-- Enforcing a window leaves the world alone or switches the peer. -/
theorem enforce_keeps (h : TaskInvariant plan crates inv) (now : DateTime) (peer : Peer)
    {cores : List Peer} (hcore : peer.core ∈ cores) :
    Keeps (handle plan) (fun w => inv w ∧ w.db.cores = cores) (enforce crates now peer) := by
  intro w hinv
  unfold enforce
  split
  · exact hinv
  · split
    · exact hinv
    · simp only [eval_ite]
      split
      · exact hinv
      · obtain ⟨hinv, rfl⟩ := hinv
        have hswitched := toggle_spec plan crates w peer
        exact ⟨h.switched w _ peer _ hinv hcore (hswitched _), ((hswitched _).frame hcore).1⟩

theorem run_once_keeps (h : TaskInvariant plan crates inv) :
    Keeps (handle plan) inv (runOnce crates) := by
  intro w hinv
  unfold runOnce
  simp only [eval_bind, eval_task_run, eval_utc_now, SqlitePeerRepository.eval_list_all,
    Except.mapError, Plan.outcome]
  cases plan.error .listPeers with
  | some e => exact hinv
  | none =>
      simp only
      have hloop : Keeps (handle plan) (fun w' => inv w' ∧ w'.db.cores = w.db.cores)
          (forEach (enforce crates w.env.now) (sortedBy Peer.createdAt w.db.peers.rows)) :=
        .for_each fun peer hpeer => enforce_keeps h w.env.now peer
          (List.mem_map_of_mem (mem_sorted_by.mp hpeer))
      exact (hloop w ⟨hinv, rfl⟩).1

end Scheduler

/-! ## The poller -/

/-- Addition that stops at the largest value. -/
theorem to_nat_saturating_add (a b : UInt64) :
    (saturatingAdd a b).toNat = min (a.toNat + b.toNat) (2 ^ 64 - 1) := by
  unfold saturatingAdd
  rw [UInt64.toNat_ofNat_of_lt']
  exact Nat.lt_of_le_of_lt (Nat.min_le_right _ _) (by decide)

namespace Poller

theorem disable_peer_spec (plan : Plan) (crates : Crates) (w : World) (id : Id PeerMarker) :
    (eval (handle plan) (disablePeer id) w).2 = w ∨
    ∃ peer, plan.readPeer w.db id = some peer ∧
      Switched plan crates w { peer with enabled := false }
        (eval (handle plan) (disablePeer id) w).2 := by
  unfold disablePeer
  simp only [eval_bind, eval_task_run, SqlitePeerRepository.eval_find_by_id, Plan.outcome]
  cases hfails : plan.error (.findPeer id) with
  | some e => exact .inl rfl
  | none =>
      cases hfind : w.db.peers.find id with
      | none => exact .inl rfl
      | some peer =>
          have hread : plan.readPeer w.db id = some peer := by simp [Plan.readPeer, hfails, hfind]
          simp only [Except.mapError, eval_bind, eval_task_run,
            SqliteInterfaceRepository.eval_find_by_id, Plan.outcome]
          cases hifails : plan.error (.findInterface peer.interfaceId) with
          | some e => exact .inl rfl
          | none =>
              cases hifind : w.db.interfaces.find peer.interfaceId with
              | none => exact .inl rfl
              | some iface =>
                  refine .inr ⟨peer, hread, ?_⟩
                  simp only [eval_bind, eval_task_run]
                  rcases SqlitePeerRepository.eval_update plan w { peer with enabled := false }
                    with ⟨db, hdb, hupdate⟩ | ⟨_, e, hupdate⟩
                  · rw [hupdate]
                    simp only [Except.mapError, eval_ignore, remove_peer_after]
                    refine .pushed iface db hdb ?_
                    simp [Plan.readInterface, hifails, (Db.update_peer_ok hdb).2, hifind]
                  · rw [hupdate]
                    exact .unsaved

theorem disable_peer_keeps (h : TaskInvariant plan crates inv) (id : Id PeerMarker) :
    Keeps (handle plan) inv (disablePeer id) := by
  intro w hinv
  rcases disable_peer_spec plan crates w id with heq | ⟨peer, hread, hswitched⟩
  · rwa [heq]
  · exact h.switched w _ peer false hinv (core_mem_of_read hread) hswitched

theorem record_keeps (h : TaskInvariant plan crates inv) (peers : List Peer) (s : PeerStats) :
    Keeps (handle plan) inv (record peers s) := by
  have hsnapshot : ∀ peer : Peer, Keeps (handle plan) inv
      (SqliteTrafficRepository.snapshot peer.id s.txBytes s.rxBytes s.lastHandshake) := by
    intro peer w hinv
    rcases SqliteTrafficRepository.snapshot_after plan w peer.id s.txBytes s.rxBytes
      s.lastHandshake with heq | ⟨db, row, hdb, heq⟩
    · rwa [heq]
    · rw [heq]
      exact h.stored w db row hinv hdb
  have hbandwidth : ∀ (peer : Peer) bytes, Keeps (handle plan) inv
      (SqlitePeerRepository.recordBandwidth peer.id bytes) := by
    intro peer bytes w hinv
    rcases SqlitePeerRepository.record_bandwidth_after plan w peer.id bytes with heq | heq
    · rwa [heq]
    · rw [heq]
      exact h.counted w peer.id bytes hinv
  unfold record
  split
  · exact .pure ()
  · refine (hsnapshot _).ignore.bind fun _ => (hbandwidth _ _).ignore.bind fun _ => ?_
    split
    · exact .pure ()
    · exact .ite (disable_peer_keeps h _).ignore (.pure ())

theorem poll_interface_keeps (h : TaskInvariant plan crates inv) (iface : Interface) :
    Keeps (handle plan) inv (pollInterface iface) := by
  refine .ite (.bind (.attempt (.of_eq fun w => peer_stats_after plan w iface)) fun result => ?_)
    (.pure ())
  cases result with
  | error e => exact .pure ()
  | ok stats =>
      refine .bind (.of_eq fun w => ?_) fun peers =>
        .for_each fun s _ => record_keeps h peers s
      rw [eval_task_run, SqlitePeerRepository.eval_list_for_interface]

theorem poll_once_keeps (h : TaskInvariant plan crates inv) :
    Keeps (handle plan) inv pollOnce := by
  refine .bind (.of_eq fun w => ?_) fun ifaces =>
    .for_each fun iface _ => poll_interface_keeps h iface
  rw [eval_task_run, SqliteInterfaceRepository.eval_list]

/-- The calls of a pass: it writes no row that is enabled, and installs no entry. -/
def Issued : Sys → Prop
  | .utcNow | .findInterface _ | .listInterfaces | .findPeer _ | .listPeersOf _
  | .recordBandwidth _ _ | .insertSnapshot _ _ _ _ _ | .openApi _ | .removePeer _ _
  | .readDevice _ => True
  | .updatePeer row _ => row.enabled = false
  | _ => False

theorem disable_peer_issues (id : Id PeerMarker) :
    Issues Issued (ExceptT.run (disablePeer id)) := by
  refine Issues.run_bind (Issues.run_or_else (Issues.run_or_else (Issues.request trivial)))
    fun found => ?_
  cases found with
  | none => exact Issues.run_throw _
  | some peer =>
      refine Issues.run_bind (Issues.run_or_else (Issues.run_or_else (Issues.request trivial)))
        fun found => ?_
      cases found with
      | none => exact Issues.run_throw _
      | some iface =>
          refine Issues.run_bind (Issues.run_or_else (Issues.run_bind (Issues.run_always
            (Issues.request trivial)) fun now => Issues.run_or_else (Issues.request ?_))) fun _ =>
              Issues.run_ignore ?_
          · exact rfl
          · exact DefguardAdapter.remove_peer_issues (fun _ => trivial) (fun _ _ => trivial) _ _

theorem record_issues (peers : List Peer) (s : PeerStats) :
    Issues Issued (ExceptT.run (record peers s)) := by
  unfold record
  cases byPubkey peers s.publicKey.asStr with
  | none => exact Issues.run_pure _
  | some peer =>
      refine Issues.run_bind (Issues.run_ignore ?_) fun _ =>
        Issues.run_bind (Issues.run_ignore ?_) fun _ => ?_
      · exact Issues.run_bind (Issues.run_always (Issues.request trivial)) fun _ =>
          Issues.run_or_else (Issues.request trivial)
      · exact Issues.run_or_else (Issues.request trivial)
      · cases peer.bandwidthQuotaBytes with
        | none => exact Issues.run_pure _
        | some quota =>
            exact Issues.run_ite (Issues.run_ignore (disable_peer_issues peer.id))
              (Issues.run_pure _)

theorem poll_once_issues : Issues Issued (ExceptT.run pollOnce) := by
  refine Issues.run_bind (Issues.run_or_else (Issues.run_or_else (Issues.request trivial)))
    fun ifaces => Issues.run_for_each (fun iface => ?_) _
  unfold pollInterface
  refine Issues.run_ite (Issues.run_bind (Issues.run_attempt ?_) fun result => ?_)
    (Issues.run_pure _)
  · exact Issues.run_bind (DefguardAdapter.open_api_issues trivial) fun _ => Issues.run_bind
      (Issues.run_or_else (Issues.request trivial)) fun host => of_except_issues _
  · cases result with
    | error e => exact Issues.run_pure _
    | ok stats =>
        exact Issues.run_bind (Issues.run_or_else (Issues.run_or_else (Issues.request trivial)))
          fun peers => Issues.run_for_each (record_issues peers) _

end Poller

end Wireforge
