import Wireforge.Lib.Similar
import Wireforge.Lifecycle.InterfaceRun
import Wireforge.Service.Peer
import Wireforge.Task.Poller
import Wireforge.Task.Scheduler

/-!
# Traffic accounting

The poller writes the traffic counter of a peer while other programs read whole rows and write them
back. `bandwidth_undisturbed` shows for every interleaving that the counter ends as it was last
recorded and that every other column ends as it would have without the poller's writes: no other
statement sets the counter, and no program looks at it.
-/

namespace Wireforge

open Effect

/-! ## Without the counter -/

/-- The row apart from its traffic counter. -/
def Peer.uncounted (peer : Peer) : Peer :=
  { peer with bandwidthUsedBytes := 0 }

/-- The call with the values it binds. Neither statement binds the counter of an existing row. -/
def Sys.uncounted : Sys → Sys
  | .insertPeer row => .insertPeer row.uncounted
  | .updatePeer row now => .updatePeer row.uncounted now
  | c => c

/-- Rows that differ at most in their counters. -/
def SameRow (peer other : Peer) : Prop :=
  peer.uncounted = other.uncounted

/-- The same rows one by one. -/
def SameRows : List Peer → List Peer → Prop :=
  List.Forall₂ SameRow

/-- No row, or the same row. -/
inductive SameFound : Option Peer → Option Peer → Prop
  | none : SameFound none none
  | some {peer other : Peer} (h : SameRow peer other) : SameFound (some peer) (some other)

/-- Replies that differ at most in counters. -/
inductive SameReply : (c c' : Sys) → c.Reply → c'.Reply → Prop
  | same (c : Sys) (reply : c.Reply) : SameReply c c reply reply
  | found (id : Id PeerMarker) {peer other : Option Peer} (h : SameFound peer other) :
      SameReply (.findPeer id) (.findPeer id) (.ok peer) (.ok other)
  | listedOf (id : Id InterfaceMarker) {peers others : List Peer} (h : SameRows peers others) :
      SameReply (.listPeersOf id) (.listPeersOf id) (.ok peers) (.ok others)
  | listed {peers others : List Peer} (h : SameRows peers others) :
      SameReply .listPeers .listPeers (.ok peers) (.ok others)
  | inserted (row row' : Peer) (reply : Except String Unit) :
      SameReply (.insertPeer row) (.insertPeer row') reply reply
  | updated (row row' : Peer) (now : DateTime) (reply : Except String Unit) :
      SameReply (.updatePeer row now) (.updatePeer row' now) reply reply

/-- The calls of the peer service and of the background tasks, as long as one peer is kept. -/
def Sys.OfPeers (kept : Id PeerMarker) : Sys → Prop
  | .uuidV7 | .utcNow | .findInterface _ | .listInterfaces | .findPeer _ | .listPeersOf _
  | .listPeers | .insertPeer _ | .updatePeer _ _ | .recordBandwidth _ _
  | .insertSnapshot _ _ _ _ _ | .generateKey | .openApi _ | .configurePeer _ _ | .removePeer _ _
  | .readDevice _ => True
  | .deletePeer id => id ≠ kept
  | _ => False

/-- Calls and replies that differ at most in counters. -/
def counterless (kept : Id PeerMarker) : Similarity Sys Sys.Reply where
  calls c c' := c.OfPeers kept ∧ c.uncounted = c'.uncounted
  replies := SameReply

/-! ## The programs do not look at the counter -/

/-- Programs that differ at most in counters. -/
abbrev Counterless {ε α : Type} (kept : Id PeerMarker) (same : α → α → Prop)
    (program program' : Fallible Sys Sys.Reply ε α) : Prop :=
  Similar (counterless kept) (SameOutcome same) program.run program'.run

/-- The calls of the peer service and of the background tasks whose replies hold no peers. -/
def Sys.Plain (kept : Id PeerMarker) : Sys → Prop
  | .findPeer _ | .listPeersOf _ | .listPeers => False
  | c => c.OfPeers kept

variable {kept : Id PeerMarker}

theorem Sys.Plain.of_peers {c : Sys} (h : c.Plain kept) : c.OfPeers kept := by
  cases c <;> first | exact h | exact False.elim h

/-- A program that reads no peers does not depend on counters. -/
theorem counterless_of_plain {ε α : Type} {program : Fallible Sys Sys.Reply ε α}
    (h : Issues (Sys.Plain kept) program.run) : Counterless kept Eq program program := by
  have hsame : Similar (counterless kept) Eq program.run program.run := by
    refine Similar.of_issues (h.mono fun c hc =>
      ⟨⟨hc.of_peers, rfl⟩, fun reply reply' hreply => ?_⟩)
    cases hreply with
    | same => rfl
    | found => cases hc
    | listedOf => cases hc
    | listed => cases hc
    | inserted => rfl
    | updated => rfl
  refine hsame.mono fun value value' heq => ?_
  subst heq
  cases value with
  | ok value => exact .ok rfl
  | error e => exact .error e

theorem same_found_refl : (found : Option Peer) → SameFound found found
  | none => .none
  | some _ => .some rfl

theorem same_rows_refl (peers : List Peer) : SameRows peers peers :=
  List.forall₂_same.mpr fun _ _ => rfl

/-- An outcome is the same as itself. -/
theorem same_outcome_refl {ε α : Type} {same : α → α → Prop} (hrefl : ∀ value, same value value) :
    (outcome : Except ε α) → SameOutcome same outcome outcome
  | .ok value => .ok (hrefl value)
  | .error e => .error e

namespace SqlitePeerRepository

theorem find_counterless (id : Id PeerMarker) :
    Counterless kept SameFound (findById id) (findById id) := by
  have hrequest : Similar (counterless kept) (SameReply (.findPeer id) (.findPeer id))
      (Sys.findPeer id).request (Sys.findPeer id).request := Similar.request ⟨trivial, rfl⟩
  refine Similar.run_or_else (hrequest.mono fun reply reply' hreply => ?_)
  cases hreply with
  | same => exact same_outcome_refl same_found_refl _
  | found _ h => exact .ok h

theorem list_counterless (id : Id InterfaceMarker) :
    Counterless kept SameRows (listForInterface id) (listForInterface id) := by
  have hrequest : Similar (counterless kept) (SameReply (.listPeersOf id) (.listPeersOf id))
      (Sys.listPeersOf id).request (Sys.listPeersOf id).request := Similar.request ⟨trivial, rfl⟩
  refine Similar.run_or_else (hrequest.mono fun reply reply' hreply => ?_)
  cases hreply with
  | same => exact same_outcome_refl same_rows_refl _
  | listedOf _ h => exact .ok h

theorem list_all_counterless : Counterless kept SameRows listAll listAll := by
  have hrequest : Similar (counterless kept) (SameReply .listPeers .listPeers)
      Sys.listPeers.request Sys.listPeers.request := Similar.request ⟨trivial, rfl⟩
  refine Similar.run_or_else (hrequest.mono fun reply reply' hreply => ?_)
  cases hreply with
  | same => exact same_outcome_refl same_rows_refl _
  | listed h => exact .ok h

/-- Writing the same row back. -/
theorem update_counterless {peer other : Peer} (h : SameRow peer other) :
    Counterless kept Eq (update peer) (update other) := by
  have hnow : Issues (Sys.Plain kept) utcNow.run := Issues.run_always (Issues.request trivial)
  refine Similar.run_bind (counterless_of_plain hnow) ?_
  rintro now _ rfl
  have hrequest : Similar (counterless kept)
      (SameReply (.updatePeer peer now) (.updatePeer other now))
      (Sys.updatePeer peer now).request (Sys.updatePeer other now).request :=
    Similar.request ⟨trivial, congrArg (Sys.updatePeer · now) h⟩
  refine Similar.run_or_else (hrequest.mono fun reply reply' hreply => ?_)
  cases hreply <;> exact same_outcome_refl (fun _ => rfl) _

end SqlitePeerRepository

/-! ### Programs that read no peers -/

namespace DefguardAdapter

theorem apply_plain (crates : Crates) (iface : Interface) (peer : Peer) :
    Issues (Sys.Plain kept) (applyPeer crates iface peer).run :=
  apply_peer_issues (fun _ => trivial) (fun _ _ => trivial) crates iface peer

theorem remove_plain (iface : Interface) (key : WgPublicKey) :
    Issues (Sys.Plain kept) (removePeer iface key).run :=
  remove_peer_issues (fun _ => trivial) (fun _ _ => trivial) iface key

theorem stats_plain (iface : Interface) : Issues (Sys.Plain kept) (peerStats iface).run :=
  Issues.run_bind (open_api_issues trivial) fun _ => Issues.run_bind
    (Issues.run_or_else (Issues.request trivial)) fun _ => of_except_issues _

end DefguardAdapter

theorem find_interface_plain (id : Id InterfaceMarker) :
    Issues (Sys.Plain kept) (SqliteInterfaceRepository.findById id).run :=
  Issues.run_or_else (Issues.request trivial)

namespace PeerService

variable (crates : Crates)

theorem get_interface_plain (id : Id InterfaceMarker) :
    Issues (Sys.Plain kept) (getInterface id).run := by
  refine Issues.run_bind (find_interface_plain id) fun found => ?_
  cases found <;> trivial

theorem push_plain (iface : Interface) (peer : Peer) :
    Issues (Sys.Plain kept) (pushPeer crates iface peer).run :=
  Issues.run_ite (Issues.run_ignore (DefguardAdapter.apply_plain crates iface peer))
    (Issues.run_ignore (DefguardAdapter.remove_plain iface peer.publicKey))

theorem remove_stale_plain (old peer : Peer) (target : Interface) :
    Issues (Sys.Plain kept) (removeStale old peer target).run := by
  refine Issues.run_ite ?_ (Issues.run_ite
    (Issues.run_ignore (DefguardAdapter.remove_plain _ _)) (Issues.run_pure _))
  refine Issues.run_bind (Issues.run_attempt (find_interface_plain _)) fun found => ?_
  match found with
  | .ok (some iface) => exact Issues.run_ignore (DefguardAdapter.remove_plain _ _)
  | .ok none => trivial
  | .error e => trivial

theorem keys_plain (newPrivate newPublic : String) :
    Issues (Sys.Plain kept) (keys crates newPrivate newPublic).run := by
  refine Issues.run_ite ?_ (Issues.run_ite ?_ ?_)
  · exact Issues.run_bind (of_except_issues _) fun _ => Issues.run_bind (of_except_issues _)
      fun _ => Issues.run_bind (of_except_issues _) fun _ => Issues.run_pure _
  · exact Issues.run_bind (of_except_issues _) fun _ => Issues.run_pure _
  · refine Issues.run_bind ?_ fun _ => Issues.run_bind (of_except_issues _) fun _ =>
      Issues.run_pure _
    refine Issues.run_bind (Issues.run_always (Issues.request trivial)) fun _ => ?_
    exact Issues.run_bind (of_except_issues _) fun _ => Issues.run_bind (of_except_issues _)
      fun _ => Issues.run_pure _

end PeerService

/-! ### The operations and the passes -/

/-- Rows that are the same agree in every column but the counter. -/
theorem SameRow.column {β : Type} {peer other : Peer} (h : SameRow peer other) (f : Peer → β)
    (hf : ∀ peer, f peer.uncounted = f peer) : f peer = f other := by
  rw [← hf, h, hf]

/-- What ignores the counter keeps the same rows. -/
theorem SameRows.filter {peers others : List Peer} (h : SameRows peers others) (keep : Peer → Bool)
    (hkeep : ∀ peer, keep peer.uncounted = keep peer) :
    SameRows (peers.filter keep) (others.filter keep) := by
  induction h with
  | nil => exact .nil
  | cons hrow _ ih =>
      rw [List.filter_cons, List.filter_cons, SameRow.column hrow keep hkeep]
      split
      · exact .cons hrow ih
      · exact ih

/-- What ignores the counter finds the same row. -/
theorem SameRows.find {peers others : List Peer} (h : SameRows peers others) (want : Peer → Bool)
    (hwant : ∀ peer, want peer.uncounted = want peer) :
    SameFound (peers.find? want) (others.find? want) := by
  induction h with
  | nil => exact .none
  | cons hrow _ ih =>
      rw [List.find?_cons, List.find?_cons, SameRow.column hrow want hwant]
      split
      · exact .some hrow
      · exact ih

/-- What ignores the counter is the same for the same rows. -/
theorem flat_map_same {β : Type} {f : Peer → List β} (hf : ∀ peer, f peer.uncounted = f peer)
    {peers others : List Peer} (h : SameRows peers others) :
    peers.flatMap f = others.flatMap f := by
  induction h with
  | nil => rfl
  | cons hrow _ ih =>
      rw [List.flatMap_cons, List.flatMap_cons, ih, ← hf, hrow, hf]

theorem no_conflict_same (want : List IpNet) {peers others : List Peer}
    (h : SameRows peers others) : ensureNoConflict want peers = ensureNoConflict want others := by
  have hips : peers.flatMap (·.allowedIps) = others.flatMap (·.allowedIps) :=
    flat_map_same (fun _ => rfl) h
  unfold ensureNoConflict
  rw [hips]

theorem allocate_same {peers others : List Peer} (h : SameRows peers others) (iface : Interface)
    (requested : Option (List IpNet)) :
    allocate iface peers requested = allocate iface others requested := by
  have hused : peers.flatMap (fun p => p.allowedIps.map IpNet.network) =
      others.flatMap fun p => p.allowedIps.map IpNet.network := flat_map_same (fun _ => rfl) h
  unfold allocate nextFreeIpv4
  simp only [no_conflict_same _ h, hused]

namespace PeerService

variable (crates : Crates)

theorem create_counterless (input : CreatePeerInput) :
    Counterless kept Eq (createWithServerKeypair crates input)
      (createWithServerKeypair crates input) := by
  unfold createWithServerKeypair
  dsimp only
  refine Similar.run_ite (Similar.run_throw _) ?_
  refine Similar.run_bind (counterless_of_plain (get_interface_plain _)) ?_
  rintro iface _ rfl
  refine Similar.run_bind (SqlitePeerRepository.list_counterless _) fun peers others h => ?_
  rw [allocate_same h]
  refine counterless_of_plain (Issues.run_bind (of_except_issues _) fun allowed => ?_)
  refine Issues.run_bind (keys_plain crates _ _) fun pair => ?_
  refine Issues.run_bind ?_ fun peer => Issues.run_bind
    (Issues.run_ignore (DefguardAdapter.apply_plain crates _ _)) fun _ => Issues.run_pure _
  exact Issues.run_bind (Issues.run_always (Issues.request trivial)) fun _ => Issues.run_bind
    (Issues.run_always (Issues.request trivial)) fun _ => Issues.run_bind
      (Issues.run_or_else (Issues.request trivial)) fun _ => Issues.run_pure _

theorem get_counterless (id : Id PeerMarker) : Counterless kept SameRow (get id) (get id) := by
  refine Similar.run_bind (SqlitePeerRepository.find_counterless id) fun found found' h => ?_
  cases h with
  | none => exact Similar.run_throw _
  | some h => exact Similar.run_pure h

theorem rekey_counterless {peer other : Peer} (h : SameRow peer other)
    (newPrivate newPublic : String) :
    Counterless kept SameRow (rekey crates peer newPrivate newPublic)
      (rekey crates other newPrivate newPublic) := by
  have hpure {α : Type} (result : Except CoreError α) :
      Counterless kept Eq (App.ofExcept result) (App.ofExcept result) :=
    counterless_of_plain (of_except_issues result)
  unfold rekey
  rw [h.column Peer.privateKeySealed fun _ => rfl, h.column Peer.publicKey fun _ => rfl]
  refine Similar.run_ite ?_ (Similar.run_ite ?_ (Similar.run_pure h))
  · refine Similar.run_bind (hpure _) ?_
    rintro key _ rfl
    refine Similar.run_bind (hpure _) ?_
    rintro derived _ rfl
    refine Similar.run_bind (hpure _) ?_
    rintro sealed _ rfl
    exact Similar.run_pure (h.column (fun row =>
      ({ row with privateKeySealed := some sealed, publicKey := derived } : Peer).uncounted)
      fun _ => rfl)
  · refine Similar.run_bind (hpure _) ?_
    rintro key _ rfl
    exact Similar.run_pure (h.column (fun row =>
      ({ row with publicKey := key, privateKeySealed := none } : Peer).uncounted) fun _ => rfl)

theorem update_counterless (id : Id PeerMarker) (input : UpdatePeerInput) :
    Counterless kept SameRow (update crates id input) (update crates id input) := by
  unfold update
  dsimp only
  refine Similar.run_ite (Similar.run_throw _) ?_
  refine Similar.run_bind (get_counterless id) fun old old' hold => ?_
  refine Similar.run_bind (counterless_of_plain (get_interface_plain _)) ?_
  rintro target _ rfl
  refine Similar.run_bind (SqlitePeerRepository.list_counterless _) fun peers others h => ?_
  have hothers : SameRows (peers.filter (·.id ≠ old.id)) (others.filter (·.id ≠ old'.id)) := by
    rw [hold.column Peer.id fun _ => rfl]
    exact h.filter _ fun _ => rfl
  rw [no_conflict_same _ hothers]
  refine Similar.run_bind (counterless_of_plain (of_except_issues _)) fun _ _ _ => ?_
  have hedit : SameRow (input.edit old) (input.edit old') :=
    hold.column (fun row => (input.edit row).uncounted) fun _ => rfl
  refine Similar.run_bind (rekey_counterless crates hedit _ _) fun peer peer' hpeer => ?_
  refine Similar.run_bind (SqlitePeerRepository.update_counterless hpeer) fun _ _ _ => ?_
  have hstale : removeStale old peer target = removeStale old' peer' target :=
    (hold.column (removeStale · peer target) fun _ => rfl).trans
      (hpeer.column (removeStale old' · target) fun _ => rfl)
  have hpush : pushPeer crates target peer = pushPeer crates target peer' :=
    hpeer.column (pushPeer crates target) fun _ => rfl
  rw [hstale, hpush]
  refine Similar.run_bind (counterless_of_plain (remove_stale_plain _ _ _)) fun _ _ _ => ?_
  exact Similar.run_bind (counterless_of_plain (push_plain crates _ _)) fun _ _ _ =>
    Similar.run_pure hpeer

theorem set_enabled_counterless (id : Id PeerMarker) (enabled : Bool) :
    Counterless kept SameRow (setEnabled crates id enabled) (setEnabled crates id enabled) := by
  refine Similar.run_bind (get_counterless id) fun old old' hold => ?_
  have hpeer : SameRow { old with enabled } { old' with enabled } :=
    hold.column (fun row => ({ row with enabled } : Peer).uncounted) fun _ => rfl
  dsimp only
  generalize ({ old with enabled } : Peer) = peer, ({ old' with enabled } : Peer) = peer' at hpeer ⊢
  refine Similar.run_bind (SqlitePeerRepository.update_counterless hpeer) fun _ _ _ => ?_
  rw [hold.column Peer.interfaceId fun _ => rfl]
  refine Similar.run_bind (counterless_of_plain (get_interface_plain _)) ?_
  rintro iface _ rfl
  rw [hpeer.column (pushPeer crates iface) fun _ => rfl]
  exact Similar.run_bind (counterless_of_plain (push_plain crates _ _)) fun _ _ _ =>
    Similar.run_pure hpeer

theorem delete_counterless {id : Id PeerMarker} (hid : id ≠ kept) :
    Counterless kept Eq (delete id) (delete id) := by
  refine Similar.run_bind (get_counterless id) fun peer peer' hpeer => ?_
  rw [hpeer.column Peer.interfaceId fun _ => rfl, hpeer.column Peer.publicKey fun _ => rfl]
  refine counterless_of_plain (Issues.run_bind (get_interface_plain _) fun iface => ?_)
  exact Issues.run_bind (Issues.run_ignore (DefguardAdapter.remove_plain _ _)) fun _ =>
    Issues.run_or_else (Issues.request hid)

end PeerService

/-- A part of a task is similar to itself with the same rows if it is as a program. -/
theorem task_counterless {α : Type} {same : α → α → Prop} {program program' : App α}
    (h : Counterless kept same program program') :
    Counterless kept same (Task.run program) (Task.run program') :=
  Similar.run_or_else h

namespace Scheduler

variable (crates : Crates)

theorem toggle_counterless {peer other : Peer} (h : SameRow peer other) (inWindow : Bool) :
    Counterless kept Eq (toggle crates peer inWindow) (toggle crates other inWindow) := by
  have hpeer : SameRow { peer with enabled := inWindow } { other with enabled := inWindow } :=
    h.column (fun row => ({ row with enabled := inWindow } : Peer).uncounted) fun _ => rfl
  unfold toggle
  dsimp only
  generalize ({ peer with enabled := inWindow } : Peer) = row,
    ({ other with enabled := inWindow } : Peer) = row' at hpeer ⊢
  refine Similar.run_bind (task_counterless (SqlitePeerRepository.update_counterless hpeer))
    fun _ _ _ => ?_
  rw [h.column Peer.interfaceId fun _ => rfl, h.column Peer.publicKey fun _ => rfl]
  refine Similar.run_bind (task_counterless (counterless_of_plain (find_interface_plain _))) ?_
  rintro found _ rfl
  cases found with
  | none => exact Similar.run_throw _
  | some iface =>
      dsimp only
      rw [hpeer.column (DefguardAdapter.applyPeer crates iface) fun _ => rfl]
      refine Similar.run_ite ?_ ?_
      · exact Similar.run_ignore (counterless_of_plain (DefguardAdapter.apply_plain _ _ _))
      · exact Similar.run_ignore (counterless_of_plain (DefguardAdapter.remove_plain _ _))

theorem enforce_counterless {peer other : Peer} (h : SameRow peer other) (now : DateTime) :
    Counterless kept Eq (enforce crates now peer) (enforce crates now other) := by
  unfold enforce
  rw [h.column Peer.schedule fun _ => rfl]
  cases other.schedule with
  | none => exact Similar.run_pure rfl
  | some scheduleJson =>
      dsimp only
      cases crates.parseSchedule scheduleJson with
      | error e => exact Similar.run_pure rfl
      | ok schedule =>
          dsimp only
          rw [h.column Peer.enabled fun _ => rfl]
          exact Similar.run_ite (Similar.run_pure rfl) (toggle_counterless crates h _)

theorem run_once_counterless : Counterless kept Eq (runOnce crates) (runOnce crates) := by
  have hnow : Issues (Sys.Plain kept) utcNow.run := Issues.run_always (Issues.request trivial)
  refine Similar.run_bind (task_counterless (counterless_of_plain hnow)) ?_
  rintro now _ rfl
  refine Similar.run_bind (task_counterless SqlitePeerRepository.list_all_counterless)
    fun peers others h => ?_
  exact Similar.run_for_each h fun _ _ hrow => enforce_counterless crates hrow now

end Scheduler

namespace Poller

theorem disable_counterless (id : Id PeerMarker) :
    Counterless kept Eq (disablePeer id) (disablePeer id) := by
  refine Similar.run_bind (task_counterless (SqlitePeerRepository.find_counterless id))
    fun found found' hfound => ?_
  cases hfound with
  | none => exact Similar.run_throw _
  | @some peer other h =>
      have hpeer : SameRow { peer with enabled := false } { other with enabled := false } :=
        h.column (fun row => ({ row with enabled := false } : Peer).uncounted) fun _ => rfl
      dsimp only
      generalize ({ peer with enabled := false } : Peer) = row,
        ({ other with enabled := false } : Peer) = row' at hpeer ⊢
      rw [h.column Peer.interfaceId fun _ => rfl, h.column Peer.publicKey fun _ => rfl]
      refine Similar.run_bind (task_counterless (counterless_of_plain (find_interface_plain _))) ?_
      rintro found _ rfl
      cases found with
      | none => exact Similar.run_throw _
      | some iface =>
          refine Similar.run_bind (task_counterless (SqlitePeerRepository.update_counterless hpeer))
            fun _ _ _ => ?_
          exact Similar.run_ignore (counterless_of_plain (DefguardAdapter.remove_plain _ _))

theorem record_counterless {peers others : List Peer} (h : SameRows peers others)
    (s : PeerStats) : Counterless kept Eq (record peers s) (record others s) := by
  have hfound : SameFound (byPubkey peers s.publicKey.asStr) (byPubkey others s.publicKey.asStr) :=
    SameRows.find (List.rel_reverse h) _ fun _ => rfl
  unfold record
  generalize byPubkey peers s.publicKey.asStr = found, byPubkey others s.publicKey.asStr = found'
    at hfound ⊢
  cases hfound with
  | none => exact Similar.run_pure rfl
  | @some peer other hrow =>
      dsimp only
      rw [hrow.column Peer.id fun _ => rfl, hrow.column Peer.bandwidthQuotaBytes fun _ => rfl,
        hrow.column Peer.enabled fun _ => rfl]
      have hsnapshot : Issues (Sys.Plain kept) (SqliteTrafficRepository.snapshot other.id s.txBytes
          s.rxBytes s.lastHandshake).run :=
        Issues.run_bind (Issues.run_always (Issues.request trivial)) fun _ =>
          Issues.run_or_else (Issues.request trivial)
      have hrecord (total : UInt64) :
          Issues (Sys.Plain kept) (SqlitePeerRepository.recordBandwidth other.id total).run :=
        Issues.run_or_else (Issues.request trivial)
      refine Similar.run_bind (Similar.run_ignore (counterless_of_plain hsnapshot))
        fun _ _ _ => ?_
      refine Similar.run_bind (Similar.run_ignore (counterless_of_plain (hrecord _)))
        fun _ _ _ => ?_
      cases other.bandwidthQuotaBytes with
      | none => exact Similar.run_pure rfl
      | some quota =>
          exact Similar.run_ite (Similar.run_ignore (disable_counterless _)) (Similar.run_pure rfl)

theorem poll_interface_counterless (iface : Interface) :
    Counterless kept Eq (pollInterface iface) (pollInterface iface) := by
  refine Similar.run_ite ?_ (Similar.run_pure rfl)
  refine Similar.run_bind (Similar.run_attempt
    (counterless_of_plain (DefguardAdapter.stats_plain iface))) fun stats stats' hstats => ?_
  cases hstats with
  | error e => exact Similar.run_pure rfl
  | ok heq =>
      obtain rfl := heq
      refine Similar.run_bind (task_counterless (SqlitePeerRepository.list_counterless _))
        fun peers others h => ?_
      refine Similar.run_for_each (List.forall₂_same.mpr fun s _ => rfl) ?_
      rintro s _ rfl
      exact record_counterless h s

theorem poll_once_counterless : Counterless kept Eq pollOnce pollOnce := by
  have hlist : Issues (Sys.Plain kept) SqliteInterfaceRepository.list.run :=
    Issues.run_or_else (Issues.request trivial)
  refine Similar.run_bind (task_counterless (counterless_of_plain hlist)) ?_
  rintro ifaces _ rfl
  refine Similar.run_for_each (List.forall₂_same.mpr fun iface _ => rfl) ?_
  rintro iface _ rfl
  exact poll_interface_counterless iface

end Poller

/-! ## Worlds that differ at most in counters -/

/-- What a call meets: the failures, which do not depend on the counter of a row since no statement
binds it, and what the host shows. -/
structure Weather where
  error : Sys → Option String
  exit : Sys → Bool
  env : Env

namespace Weather

/-- The calls that fail. -/
def plan (m : Weather) : Plan :=
  ⟨fun c => m.error c.uncounted, m.exit⟩

/-- The meaning of every call. -/
def handle (m : Weather) : Handler Sys Sys.Reply World := fun c w =>
  Wireforge.handle m.plan c (w.seen m.env)

/-- The meaning of every call if no counter were written. -/
def unrecorded (m : Weather) : Handler Sys Sys.Reply World
  | .recordBandwidth id bytes, w =>
      (m.plan.outcome (.recordBandwidth id bytes) (), w.seen m.env)
  | c, w => m.handle c w

end Weather

/-- The worlds differ at most in the counters of peers. -/
structure SameButCounters (w w' : World) : Prop where
  interfaces : w.db.interfaces = w'.db.interfaces
  peers : SameRows w.db.peers.rows w'.db.peers.rows
  traffic : w.db.traffic = w'.db.traffic
  devices : w.devices = w'.devices
  net : w.net = w'.net
  spawned : w.spawned = w'.spawned

namespace SameButCounters

variable {w w' : World}

theorem refl (w : World) : SameButCounters w w :=
  ⟨rfl, same_rows_refl _, rfl, rfl, rfl, rfl⟩

theorem find (h : SameButCounters w w') (id : Id PeerMarker) :
    SameFound (w.db.peers.find id) (w'.db.peers.find id) :=
  h.peers.find _ fun _ => rfl

/-- The same rows are found. -/
theorem has_peer (h : SameButCounters w w') (id : Id PeerMarker) :
    (w.db.peers.find id).isSome = (w'.db.peers.find id).isSome := by
  have hfind := h.find id
  generalize w.db.peers.find id = found, w'.db.peers.find id = found' at hfind ⊢
  cases hfind <;> rfl

end SameButCounters

theorem same_rows_iff {peers others : List Peer} :
    SameRows peers others ↔ peers.map Peer.uncounted = others.map Peer.uncounted := by
  rw [← List.forall₂_eq_eq_eq, List.forall₂_map_left_iff, List.forall₂_map_right_iff]
  rfl

/-- Sorting keeps the same rows. -/
theorem SameRows.sorted {peers others : List Peer} (h : SameRows peers others) :
    SameRows (sortedBy Peer.createdAt peers) (sortedBy Peer.createdAt others) := by
  have hmap (peers : List Peer) : (sortedBy Peer.createdAt peers).map Peer.uncounted =
      sortedBy Peer.createdAt (peers.map Peer.uncounted) :=
    List.map_insertionSort _ _ _ _ fun _ _ _ _ => Iff.rfl
  rw [same_rows_iff] at h ⊢
  rw [hmap, hmap, h]

/-- A call that writes no peer has the same values bound to it. -/
theorem eq_of_uncounted {c c' : Sys} (h : c.uncounted = c'.uncounted)
    (hinsert : ∀ row, c ≠ .insertPeer row) (hupdate : ∀ row now, c ≠ .updatePeer row now) :
    c' = c := by
  have hc : c.uncounted = c := by
    unfold Sys.uncounted
    split
    · exact absurd rfl (hinsert _)
    · exact absurd rfl (hupdate _ _)
    · rfl
  rw [hc] at h
  unfold Sys.uncounted at h
  split at h
  · exact absurd h (hinsert _)
  · exact absurd h (hupdate _ _)
  · exact h.symm

theorem insert_of_uncounted {row : Peer} {c : Sys}
    (h : (Sys.insertPeer row).uncounted = c.uncounted) :
    ∃ row', c = .insertPeer row' ∧ SameRow row row' := by
  replace h : Sys.insertPeer row.uncounted = c.uncounted := h
  unfold Sys.uncounted at h
  split at h
  · exact ⟨_, rfl, Sys.insertPeer.inj h⟩
  · cases h
  · rename_i hinsert _
    exact absurd h.symm (hinsert _)

theorem update_of_uncounted {row : Peer} {now : DateTime} {c : Sys}
    (h : (Sys.updatePeer row now).uncounted = c.uncounted) :
    ∃ row', c = .updatePeer row' now ∧ SameRow row row' := by
  replace h : Sys.updatePeer row.uncounted now = c.uncounted := h
  unfold Sys.uncounted at h
  split at h
  · cases h
  · obtain ⟨hrow, rfl⟩ := Sys.updatePeer.inj h
    exact ⟨_, rfl, hrow⟩
  · rename_i _ hupdate
    exact absurd h.symm (hupdate _ _)

namespace SameButCounters

variable {w w' : World}

/-- The outcomes of a change of the database. -/
inductive Changes : Except String Db → Except String Db → Prop
  | done {db db' : Db} (hinterfaces : db.interfaces = db'.interfaces)
      (hpeers : SameRows db.peers.rows db'.peers.rows) (htraffic : db.traffic = db'.traffic) :
      Changes (.ok db) (.ok db')
  | refused (text : String) : Changes (.error text) (.error text)

theorem insert (h : SameButCounters w w') {row row' : Peer} (hrow : SameRow row row') :
    Changes (w.db.insertPeer row) (w'.db.insertPeer row') := by
  have hid : row.id = row'.id := hrow.column Peer.id fun _ => rfl
  have hinterface : row.interfaceId = row'.interfaceId := hrow.column _ fun _ => rfl
  have hfind : w.db.peers.find row.id = none ↔ w'.db.peers.find row'.id = none := by
    rw [← Option.isNone_iff_eq_none, ← Option.isNone_iff_eq_none, ← Option.not_isSome,
      ← Option.not_isSome, h.has_peer, hid]
  unfold Db.insertPeer
  by_cases hnone : w.db.peers.find row.id = none
  · rw [dif_pos hnone, dif_pos (hfind.mp hnone)]
    by_cases href : (w.db.interfaces.find row.interfaceId).isSome
    · rw [dif_pos href, dif_pos (by rw [← h.interfaces, ← hinterface]; exact href)]
      exact .done h.interfaces (List.rel_append h.peers (.cons hrow .nil)) h.traffic
    · rw [dif_neg href, dif_neg (by rw [← h.interfaces, ← hinterface]; exact href)]
      exact .refused _
  · rw [dif_neg hnone, dif_neg (hfind.not.mp hnone)]
    exact .refused _

theorem update (h : SameButCounters w w') {row row' : Peer} (hrow : SameRow row row')
    (now : DateTime) : Changes (w.db.updatePeer row now) (w'.db.updatePeer row' now) := by
  have hid : row.id = row'.id := hrow.column Peer.id fun _ => rfl
  have hinterface : row.interfaceId = row'.interfaceId := hrow.column _ fun _ => rfl
  have hsame : ((w'.db.peers.find row'.id).isSome →
      (w'.db.interfaces.find row'.interfaceId).isSome) ↔
      ((w.db.peers.find row.id).isSome → (w.db.interfaces.find row.interfaceId).isSome) := by
    rw [← h.has_peer, ← h.interfaces, ← hid, ← hinterface]
  unfold Db.updatePeer
  by_cases href : (w.db.peers.find row.id).isSome → (w.db.interfaces.find row.interfaceId).isSome
  · rw [dif_pos href, dif_pos (hsame.mpr href)]
    refine .done h.interfaces (List.rel_map (fun old old' hold => ?_) h.peers) h.traffic
    have hold_id : old.id = old'.id := SameRow.column hold Peer.id fun _ => rfl
    have hwritten : SameRow (Db.setPeer row now old) (Db.setPeer row now old') :=
      SameRow.column hold (fun old => (Db.setPeer row now old).uncounted) fun old => by
        unfold Db.setPeer Peer.uncounted
        split <;> rfl
    refine hwritten.trans
      (hrow.column (fun row => (Db.setPeer row now old').uncounted) fun row => ?_)
    unfold Db.setPeer Peer.uncounted
    split <;> rfl
  · rw [dif_neg href, dif_neg (hsame.not.mpr href)]
    exact .refused _

theorem delete (h : SameButCounters w w') (id : Id PeerMarker) :
    Changes (.ok (w.db.deletePeer id)) (.ok (w'.db.deletePeer id)) :=
  .done h.interfaces (h.peers.filter _ fun _ => rfl)
    (congrArg (List.filter fun row : TrafficSnapshot => row.peerId ≠ id) h.traffic)

theorem snapshot (h : SameButCounters w w') (row : TrafficSnapshot) :
    Changes (w.db.insertSnapshot row) (w'.db.insertSnapshot row) := by
  unfold Db.insertSnapshot
  rw [h.has_peer]
  split
  · exact .done h.interfaces h.peers (congrArg (· ++ [row]) h.traffic)
  · exact .refused _

/-- Writing a counter on one side changes nothing but counters. -/
theorem record (h : SameButCounters w w') (id : Id PeerMarker) (bytes : UInt64) :
    SameButCounters { w with db := w.db.recordBandwidth id bytes } w' := by
  refine { h with peers := same_rows_iff.mpr ?_ }
  rw [← same_rows_iff.mp h.peers]
  refine List.map_map.trans (List.map_congr_left fun old _ => ?_)
  unfold Function.comp Db.setBandwidth
  split <;> rfl

/-- Statements that change the database alike return the same reply. -/
theorem write (h : SameButCounters w w') {plan : Plan} {c c' : Sys}
    (hplan : plan.error c = plan.error c') (change change' : Db → Except String Db)
    (hchange : Changes (change w.db) (change' w'.db)) :
    (plan.write c change w).1 = (plan.write c' change' w').1 ∧
      SameButCounters (plan.write c change w).2 (plan.write c' change' w').2 := by
  unfold Plan.write Plan.run
  rw [hplan]
  cases plan.error c' with
  | some text => exact ⟨rfl, h⟩
  | none =>
      dsimp only
      generalize change w.db = result, change' w'.db = result' at hchange ⊢
      cases hchange with
      | done hinterfaces hpeers htraffic =>
          exact ⟨rfl, hinterfaces, hpeers, htraffic, h.devices, h.net, h.spawned⟩
      | refused text => exact ⟨rfl, h⟩

/-- Calls that change the devices alike return the same reply. -/
theorem kernel (h : SameButCounters w w') (plan : Plan) (c : Sys) (change : Devices → Devices) :
    (plan.kernel c change w).1 = (plan.kernel c change w').1 ∧
      SameButCounters (plan.kernel c change w).2 (plan.kernel c change w').2 := by
  unfold Plan.kernel Plan.run
  cases plan.error c with
  | some text => exact ⟨rfl, h⟩
  | none =>
      exact ⟨rfl, h.interfaces, h.peers, h.traffic, congrArg change h.devices, h.net, h.spawned⟩

end SameButCounters

/-- A reply that is equal is the same. -/
theorem SameReply.of_eq {c : Sys} {reply reply' : c.Reply} (h : reply = reply') :
    SameReply c c reply reply' :=
  h ▸ .same c reply

theorem SameReply.of_inserted {row row' : Peer} {reply reply' : Except String Unit}
    (h : reply = reply') : SameReply (.insertPeer row) (.insertPeer row') reply reply' :=
  h ▸ .inserted row row' reply

theorem SameReply.of_updated {row row' : Peer} {now : DateTime} {reply reply' : Except String Unit}
    (h : reply = reply') : SameReply (.updatePeer row now) (.updatePeer row' now) reply reply' :=
  h ▸ .updated row row' now reply

theorem SameReply.of_found {id : Id PeerMarker} {reply reply' : Except String (Option Peer)}
    (h : SameOutcome SameFound reply reply') :
    SameReply (.findPeer id) (.findPeer id) reply reply' := by
  cases h with
  | ok h => exact .found id h
  | error text => exact .same (.findPeer id) _

theorem SameReply.of_listed_of {id : Id InterfaceMarker} {reply reply' : Except String (List Peer)}
    (h : SameOutcome SameRows reply reply') :
    SameReply (.listPeersOf id) (.listPeersOf id) reply reply' := by
  cases h with
  | ok h => exact .listedOf id h
  | error text => exact .same (.listPeersOf id) _

theorem SameReply.of_listed {reply reply' : Except String (List Peer)}
    (h : SameOutcome SameRows reply reply') : SameReply .listPeers .listPeers reply reply' := by
  cases h with
  | ok h => exact .listed h
  | error text => exact .same .listPeers _

namespace Weather

/-- A counter that is not written makes no difference to anything else. -/
theorem record_respects (m : Weather) {w w' : World} (h : SameButCounters w w')
    (id : Id PeerMarker) (bytes : UInt64) :
    (m.handle (.recordBandwidth id bytes) w).1 =
        (m.unrecorded (.recordBandwidth id bytes) w').1 ∧
      SameButCounters (m.handle (.recordBandwidth id bytes) w).2 (w'.seen m.env) := by
  have hseen : SameButCounters (w.seen m.env) (w'.seen m.env) := { h with }
  show (m.plan.write _ _ _).1 = m.plan.outcome _ _ ∧ SameButCounters (m.plan.write _ _ _).2 _
  unfold Plan.write Plan.run Plan.outcome
  cases m.plan.error (.recordBandwidth id bytes) with
  | some text => exact ⟨rfl, hseen⟩
  | none => exact ⟨rfl, hseen.record id bytes⟩

/-- Reading rows that are the same. -/
theorem read_respects {plan : Plan} {c : Sys} {α : Type} {same : α → α → Prop} {value value' : α}
    (h : same value value') : SameOutcome same (plan.outcome c value) (plan.outcome c value') := by
  unfold Plan.outcome
  cases plan.error c with
  | some text => exact .error text
  | none => exact .ok h

/-- Writing no counters makes no difference to anything else. -/
theorem respects (m : Weather) :
    Pool.Respects (counterless kept) SameButCounters m.handle m.unrecorded := by
  rintro c c' ⟨hpeers, hcall⟩ w w' h
  have hseen : SameButCounters (w.seen m.env) (w'.seen m.env) := { h with }
  cases c with
  | insertPeer row =>
      obtain ⟨row', rfl, hrow⟩ := insert_of_uncounted hcall
      have hplan : m.plan.error (.insertPeer row) = m.plan.error (.insertPeer row') :=
        congrArg m.error hcall
      obtain ⟨hreply, hstate⟩ := hseen.write hplan (·.insertPeer row) (·.insertPeer row')
        (hseen.insert hrow)
      exact ⟨.of_inserted hreply, hstate⟩
  | updatePeer row now =>
      obtain ⟨row', rfl, hrow⟩ := update_of_uncounted hcall
      have hplan : m.plan.error (.updatePeer row now) = m.plan.error (.updatePeer row' now) :=
        congrArg m.error hcall
      obtain ⟨hreply, hstate⟩ := hseen.write hplan (·.updatePeer row now) (·.updatePeer row' now)
        (hseen.update hrow now)
      exact ⟨.of_updated hreply, hstate⟩
  | recordBandwidth id bytes =>
      obtain rfl := eq_of_uncounted hcall (by simp) (by simp)
      obtain ⟨hreply, hstate⟩ := m.record_respects h id bytes
      exact ⟨.of_eq hreply, hstate⟩
  | deletePeer id =>
      obtain rfl := eq_of_uncounted hcall (by simp) (by simp)
      obtain ⟨hreply, hstate⟩ := hseen.write rfl (fun db => .ok (db.deletePeer id))
        (fun db => .ok (db.deletePeer id)) (hseen.delete id)
      exact ⟨.of_eq hreply, hstate⟩
  | insertSnapshot peerId tx rx lastHandshake now =>
      obtain rfl := eq_of_uncounted hcall (by simp) (by simp)
      obtain ⟨hreply, hstate⟩ := hseen.write rfl (·.insertSnapshot _) (·.insertSnapshot _)
        (hseen.snapshot ⟨peerId, tx, rx, lastHandshake, now⟩)
      exact ⟨.of_eq hreply, hstate⟩
  | configurePeer name peer =>
      obtain rfl := eq_of_uncounted hcall (by simp) (by simp)
      obtain ⟨hreply, hstate⟩ := hseen.kernel _ _ _
      exact ⟨.of_eq hreply, hstate⟩
  | removePeer name key =>
      obtain rfl := eq_of_uncounted hcall (by simp) (by simp)
      obtain ⟨hreply, hstate⟩ := hseen.kernel _ _ _
      exact ⟨.of_eq hreply, hstate⟩
  | findPeer id =>
      obtain rfl := eq_of_uncounted hcall (by simp) (by simp)
      exact ⟨.of_found (read_respects (hseen.find id)), hseen⟩
  | listPeersOf id =>
      obtain rfl := eq_of_uncounted hcall (by simp) (by simp)
      have hrows : SameRows (w.db.peersOf id) (w'.db.peersOf id) :=
        (h.peers.filter _ fun _ => rfl).sorted
      exact ⟨.of_listed_of (read_respects hrows), hseen⟩
  | listPeers =>
      obtain rfl := eq_of_uncounted hcall (by simp) (by simp)
      exact ⟨.of_listed (read_respects h.peers.sorted), hseen⟩
  | findInterface id =>
      obtain rfl := eq_of_uncounted hcall (by simp) (by simp)
      exact ⟨.of_eq (congrArg (fun rows : Table Interface.id =>
        m.plan.outcome (.findInterface id) (rows.find id)) h.interfaces), hseen⟩
  | listInterfaces =>
      obtain rfl := eq_of_uncounted hcall (by simp) (by simp)
      exact ⟨.of_eq (congrArg (fun rows : Table Interface.id =>
        m.plan.outcome .listInterfaces (sortedBy Interface.name rows.rows)) h.interfaces), hseen⟩
  | uuidV7 | utcNow | generateKey | openApi | readDevice =>
      obtain rfl := eq_of_uncounted hcall (by simp) (by simp)
      exact ⟨.same _ _, hseen⟩
  | _ => exact False.elim hpeers

end Weather

/-- A reply without a similar one does not occur. -/
theorem similar_reply {c c' : Sys} (h : (counterless kept).calls c c') (reply : c.Reply) :
    ∃ reply', SameReply c c' reply reply' := by
  cases c with
  | insertPeer row =>
      obtain ⟨row', rfl, -⟩ := insert_of_uncounted h.2
      exact ⟨reply, .inserted _ _ _⟩
  | updatePeer row now =>
      obtain ⟨row', rfl, -⟩ := update_of_uncounted h.2
      exact ⟨reply, .updated _ _ _ _⟩
  | _ =>
      obtain rfl := eq_of_uncounted h.2 (by simp) (by simp)
      exact ⟨reply, .same _ _⟩

/-! ## Work on the peers -/

/-- What reads and writes peers: the operations of the peer service, the passes of the background
tasks, and the statements of which the poller consists. -/
inductive PeerWork where
  | createPeer (input : CreatePeerInput)
  | updatePeer (id : Id PeerMarker) (input : UpdatePeerInput)
  | setEnabled (id : Id PeerMarker) (enabled : Bool)
  | deletePeer (id : Id PeerMarker)
  | runOnce
  | pollOnce
  | disablePeer (id : Id PeerMarker)
  | recordBandwidth (id : Id PeerMarker) (bytes : UInt64)

/-- The program of a piece of work. -/
def PeerWork.program (crates : Crates) : PeerWork → Program Sys Sys.Reply Unit
  | createPeer input => (fun _ => ()) <$> (PeerService.createWithServerKeypair crates input).run
  | updatePeer id input => (fun _ => ()) <$> (PeerService.update crates id input).run
  | setEnabled id enabled => (fun _ => ()) <$> (PeerService.setEnabled crates id enabled).run
  | deletePeer id => (fun _ => ()) <$> (PeerService.delete id).run
  | runOnce => (fun _ => ()) <$> ExceptT.run (Scheduler.runOnce crates)
  | pollOnce => (fun _ => ()) <$> ExceptT.run Poller.pollOnce
  | disablePeer id => (fun _ => ()) <$> ExceptT.run (Poller.disablePeer id)
  | recordBandwidth id bytes =>
      (fun _ => ()) <$> (SqlitePeerRepository.recordBandwidth id bytes).run

/-- To record a counter is one statement, with the value given. -/
theorem PeerWork.record_bandwidth_program (crates : Crates) (id : Id PeerMarker) (bytes : UInt64) :
    (PeerWork.recordBandwidth id bytes).program crates =
      .call (.recordBandwidth id bytes) fun _ => .done () :=
  rfl

/-- Work that is done at the same time. -/
def peerWorks (crates : Crates) (w : World) (works : List PeerWork) :
    Pool Sys Sys.Reply World Unit :=
  ⟨works.map (PeerWork.program crates), w⟩

/-- Dropping the value a program returns. -/
theorem counterless_drop {ε α : Type} {same : α → α → Prop}
    {program program' : Fallible Sys Sys.Reply ε α} (h : Counterless kept same program program') :
    Similar (counterless kept) (fun _ _ => True) ((fun _ => ()) <$> program.run)
      ((fun _ => ()) <$> program'.run) :=
  h.map fun _ _ _ => trivial

/-- No work looks at the counter. -/
theorem PeerWork.counterless {work : PeerWork} (crates : Crates)
    (hkept : work ≠ .deletePeer kept) :
    Similar (counterless kept) (fun _ _ => True) (work.program crates) (work.program crates) := by
  cases work with
  | createPeer input => exact counterless_drop (PeerService.create_counterless crates input)
  | updatePeer id input => exact counterless_drop (PeerService.update_counterless crates id input)
  | setEnabled id enabled =>
      exact counterless_drop (PeerService.set_enabled_counterless crates id enabled)
  | deletePeer id =>
      have hid : id ≠ kept := fun heq => hkept (heq ▸ rfl)
      exact counterless_drop (PeerService.delete_counterless hid)
  | runOnce => exact counterless_drop (Scheduler.run_once_counterless crates)
  | pollOnce => exact counterless_drop Poller.poll_once_counterless
  | disablePeer id => exact counterless_drop (Poller.disable_counterless id)
  | recordBandwidth id bytes =>
      have hrecord : Issues (Sys.Plain kept) (SqlitePeerRepository.recordBandwidth id bytes).run :=
        Issues.run_or_else (Issues.request trivial)
      exact counterless_drop (counterless_of_plain hrecord)

/-! ## The counter -/

/-- The value that was last recorded for a peer. -/
def lastRecorded (id : Id PeerMarker) : Observer Sys World Weather (Option UInt64) :=
  fun last slot _ c =>
    match c with
    | .recordBandwidth id' bytes =>
        if id' = id ∧ (slot.moment.plan.error c).isNone then some bytes else last
    | _ => last

/-- The counter of the peer is the one that was last recorded. -/
def LastCounted (id : Id PeerMarker) (initial : UInt64) (w : World) (last : Option UInt64) : Prop :=
  ∃ row, w.db.peers.find id = some row ∧ row.bandwidthUsedBytes = last.getD initial

/-- A row that is found with the same counter after a write. -/
theorem last_counted_write {initial : UInt64} {plan : Plan} {c : Sys} {w : World}
    {last : Option UInt64} {change : Db → Except String Db} (h : LastCounted kept initial w last)
    (hchange : ∀ db row, change w.db = .ok db → w.db.peers.find kept = some row →
      ∃ new, db.peers.find kept = some new ∧ new.bandwidthUsedBytes = row.bandwidthUsedBytes) :
    LastCounted kept initial (plan.write c change w).2 last := by
  unfold Plan.write Plan.run
  cases plan.error c with
  | some text => exact h
  | none =>
      dsimp only
      cases hdb : change w.db with
      | error text => exact h
      | ok db =>
          obtain ⟨row, hrow, hbytes⟩ := h
          obtain ⟨new, hnew, hsame⟩ := hchange db row hdb hrow
          exact ⟨new, hnew, hsame.trans hbytes⟩

/-- A write of a row keeps the counter of every row. -/
theorem set_peer_counter (row : Peer) (now : DateTime) (old : Peer) :
    (Db.setPeer row now old).bandwidthUsedBytes = old.bandwidthUsedBytes := by
  unfold Db.setPeer
  split <;> rfl

/-- The row of the peer after its counter has been written. -/
theorem find_record (db : Db) (id : Id PeerMarker) (bytes : UInt64) {row : Peer}
    (h : db.peers.find kept = some row) :
    (db.recordBandwidth id bytes).peers.find kept = some (Db.setBandwidth id bytes row) := by
  show (db.peers.modify (Db.setBandwidth id bytes) (Db.set_bandwidth_id id bytes)).find kept = _
  rw [Table.find_modify, h]
  rfl

/-- No statement but the poller's sets the counter. -/
theorem last_counted_call {initial : UInt64} (slot : Slot Weather) (c : Sys) (w : World)
    (last : Option UInt64) (hc : c.OfPeers kept) (h : LastCounted kept initial w last) :
    LastCounted kept initial (slot.moment.handle c w).2 (lastRecorded kept last slot w c) := by
  cases c with
  | insertPeer new =>
      refine last_counted_write (w := w.seen slot.moment.env) h fun db row hdb hrow => ?_
      obtain ⟨-, hrows, -⟩ := Db.insert_peer_ok hdb
      obtain ⟨hmem, hid⟩ := Table.find_eq_some.mp hrow
      exact ⟨row, Table.find_eq_some.mpr ⟨by rw [hrows]; exact List.mem_append_left _ hmem, hid⟩,
        rfl⟩
  | updatePeer new now =>
      refine last_counted_write (w := w.seen slot.moment.env) h fun db row hdb hrow => ?_
      obtain ⟨hmem, hid⟩ := Table.find_eq_some.mp hrow
      refine ⟨Db.setPeer new now row, Table.find_eq_some.mpr ⟨?_, ?_⟩, set_peer_counter new now row⟩
      · rw [(Db.update_peer_ok hdb).1]
        exact List.mem_map_of_mem hmem
      · rw [Db.set_peer_id, hid]
  | deletePeer id =>
      refine last_counted_write (w := w.seen slot.moment.env) h fun db row hdb hrow => ?_
      obtain rfl : w.db.deletePeer id = db := Except.ok.inj hdb
      obtain ⟨hmem, hid⟩ := Table.find_eq_some.mp hrow
      refine ⟨row, Table.find_eq_some.mpr ⟨Table.mem_filter.mpr ⟨hmem, ?_⟩, hid⟩, rfl⟩
      exact decide_eq_true (hid ▸ Ne.symm hc)
  | recordBandwidth id bytes =>
      obtain ⟨row, hrow, hbytes⟩ := h
      obtain ⟨-, hid⟩ := Table.find_eq_some.mp hrow
      show LastCounted kept initial (slot.moment.plan.write _ _ _).2 (if _ then _ else _)
      unfold Plan.write Plan.run
      cases hplan : slot.moment.plan.error (.recordBandwidth id bytes) with
      | some text => exact ⟨row, hrow, by simpa using hbytes⟩
      | none =>
          refine ⟨_, find_record _ id bytes hrow, ?_⟩
          unfold Db.setBandwidth
          by_cases hsame : id = kept
          · rw [if_pos (hid.trans hsame.symm), if_pos ⟨hsame, rfl⟩]
            rfl
          · rw [if_neg fun heq => hsame (heq.symm.trans hid), if_neg fun h => hsame h.1]
            exact hbytes
  | insertSnapshot =>
      refine last_counted_write (w := w.seen slot.moment.env) h fun db row hdb hrow => ?_
      rw [(Db.insert_snapshot_ok hdb).1]
      exact ⟨row, hrow, rfl⟩
  | configurePeer name peer =>
      show LastCounted kept initial (slot.moment.plan.kernel _ _ _).2 last
      unfold Plan.kernel Plan.run
      cases slot.moment.plan.error (.configurePeer name peer) <;> exact h
  | removePeer name key =>
      show LastCounted kept initial (slot.moment.plan.kernel _ _ _).2 last
      unfold Plan.kernel Plan.run
      cases slot.moment.plan.error (.removePeer name key) <;> exact h
  | uuidV7 | utcNow | generateKey | openApi | readDevice => exact h
  | findInterface | listInterfaces | findPeer | listPeersOf | listPeers => exact h
  | _ => exact False.elim hc

/-- In whatever order the statements come, the counter ends as it was last recorded, and every other
column as it would have if no counter had been written. -/
theorem bandwidth_undisturbed (crates : Crates) (w : World) (id : Id PeerMarker) (row : Peer)
    (hrow : w.db.peers.find id = some row) (works : List PeerWork)
    (hkept : ∀ work ∈ works, work ≠ .deletePeer id) (schedule : List (Slot Weather)) :
    ∃ other,
      (Runs.after (Pool.turn Weather.unrecorded) (peerWorks crates w works)
        schedule).state.db.peers.find id = some other ∧
      (Runs.after (Pool.turn Weather.handle) (peerWorks crates w works)
        schedule).state.db.peers.find id = some { other with
          bandwidthUsedBytes :=
            (Runs.after (Observed.step Weather.handle (lastRecorded id))
              ⟨peerWorks crates w works, none⟩ schedule).record.getD row.bandwidthUsedBytes } := by
  have hsimilar : ∀ program ∈ (peerWorks crates w works).threads,
      Similar (counterless id) (fun _ _ => True) program program := by
    intro program hprogram
    obtain ⟨work, hwork, rfl⟩ := List.mem_map.mp hprogram
    exact PeerWork.counterless crates (hkept work hwork)
  have hissues : (peerWorks crates w works).Issues (Sys.OfPeers id) := by
    intro program hprogram
    refine ((hsimilar program hprogram).issues fun _ _ => similar_reply).mono fun c hc => ?_
    obtain ⟨-, hc, -⟩ := hc
    exact hc
  have hpool : Pool.Similar (counterless id) SameButCounters (peerWorks crates w works)
      (peerWorks crates w works) :=
    ⟨List.forall₂_same.mpr hsimilar, .refl w⟩
  have hcolumns := (hpool.turns Weather.respects schedule).state.find id
  have hcounter : LastCounted id row.bandwidthUsedBytes _ _ :=
    Observed.run_of_issues (s := ⟨peerWorks crates w works, none⟩) hissues ⟨row, hrow, rfl⟩
      last_counted_call schedule
  rw [Observed.pool_after] at hcounter
  obtain ⟨final, hfinal, hbytes⟩ := hcounter
  rw [hfinal] at hcolumns ⊢
  generalize (Runs.after (Pool.turn Weather.unrecorded) _ schedule).state.db.peers.find id = found
    at hcolumns ⊢
  cases hcolumns with
  | @some _ other hsame =>
      refine ⟨other, rfl, congrArg some ?_⟩
      rw [← hbytes]
      exact hsame.column
        (fun peer => ({ peer with bandwidthUsedBytes := final.bandwidthUsedBytes } : Peer))
        fun _ => rfl

/-- A peer that is switched off while its counter is recorded. -/
def switchedWhileRecorded : Pool Sys Sys.Reply World Unit :=
  peerWorks .transparent phoneWorld [.setEnabled ⟨0⟩ false, .recordBandwidth ⟨0⟩ 4096]

/-- The switch reads the row, the counter is recorded, and the switch writes the row back. -/
def recordedBetween : List (Slot Weather) :=
  [0, 0, 1, 0].map fun thread => ⟨thread, ⟨fun _ => none, fun _ => true, (World.fresh []).env⟩⟩

/-- The counter ends as it was recorded, although the switch has read the row before. -/
theorem bandwidth_undisturbed_switch :
    ∃ other,
      (Runs.after (Pool.turn Weather.unrecorded) switchedWhileRecorded
        recordedBetween).state.db.peers.find ⟨0⟩ = some other ∧
      (Runs.after (Pool.turn Weather.handle) switchedWhileRecorded
        recordedBetween).state.db.peers.find ⟨0⟩ =
          some { other with bandwidthUsedBytes := 4096 } := by
  obtain ⟨other, hwithout, hwith⟩ := bandwidth_undisturbed .transparent phoneWorld ⟨0⟩
    (.plain 0 0 "phone" none none) rfl [.setEnabled ⟨0⟩ false, .recordBandwidth ⟨0⟩ 4096]
    (by simp) recordedBetween
  have hrecord : (Runs.after (Observed.step Weather.handle (lastRecorded ⟨0⟩))
      ⟨switchedWhileRecorded, none⟩ recordedBetween).record = some 4096 := by decide +kernel
  refine ⟨other, hwithout, hwith.trans ?_⟩
  rw [show peerWorks .transparent phoneWorld [.setEnabled ⟨0⟩ false, .recordBandwidth ⟨0⟩ 4096] =
    switchedWhileRecorded from rfl, hrecord, Option.getD_some]

end Wireforge
