import Wireforge.Lifecycle.Agreement

/-!
# Failed operations

A request that the services refuse has changed nothing, whatever the reason and whatever else
fails: `refused_requests_change_nothing`. A statement of a repository that fails is another matter.
Enabling a peer writes the row before it looks up the interface, and deleting a peer removes the
kernel's entry before the row: `failed_call_keeps_agreement_iff` says when that splits the kernel
and the database.
-/

namespace Wireforge

open Effect DefguardAdapter

/-- The operations of the peer service. -/
inductive PeerCall where
  | create (input : CreatePeerInput)
  | update (id : Id PeerMarker) (input : UpdatePeerInput)
  | setEnabled (id : Id PeerMarker) (enabled : Bool)
  | delete (id : Id PeerMarker)

/-- The program of an operation, without the row it returns. -/
def PeerCall.program (crates : Crates) : PeerCall → App Unit
  | .create input => do
      let _ ← PeerService.createWithServerKeypair crates input
  | .update id input => do
      let _ ← PeerService.update crates id input
  | .setEnabled id enabled => do
      let _ ← PeerService.setEnabled crates id enabled
  | .delete id => PeerService.delete id

variable {plan : Plan} {crates : Crates} {w w' : World} {e : CoreError}

/-! ## Refused requests -/

/-- The errors with which a request is refused. -/
def CoreError.Refusal : CoreError → Prop
  | .validation _ | .conflict _ | .notFound _ | .ipPoolExhausted _ => True
  | _ => False

/-- A request to create or to edit a peer or an interface. -/
inductive SubmittedRequest where
  | createPeer (input : CreatePeerInput)
  | updatePeer (id : Id PeerMarker) (input : UpdatePeerInput)
  | createInterface (input : CreateInterfaceInput)
  | updateInterface (id : Id InterfaceMarker) (input : UpdateInterfaceInput)

/-- The program of a request, without the row it returns. -/
def SubmittedRequest.program (crates : Crates) : SubmittedRequest → App Unit
  | .createPeer input => (PeerCall.create input).program crates
  | .updatePeer id input => (PeerCall.update id input).program crates
  | .createInterface input => (InterfaceCall.create input).program crates
  | .updateInterface id input => (InterfaceCall.update id input).program crates

/-- An error of a program is an error of the program without its value. -/
theorem eval_error_of_drop {α : Type} {program : App α}
    (h : eval (handle plan) (do let _ ← program : App Unit) w = (.error e, w')) :
    eval (handle plan) program w = (.error e, w') := by
  rcases eval_bind_error.mp h with h | ⟨value, middle, -, h⟩
  · exact h
  · cases h

/-- Configuring a running interface anew fails only if its peers cannot be listed. -/
theorem InterfaceService.reapply_error {iface : Interface} {oldGateway : Option String}
    (h : eval (handle plan) (InterfaceService.reapply crates iface oldGateway) w =
      (.error e, w')) : ∃ text, e = .persistence text := by
  cases hfails : plan.error (.listPeersOf iface.id) with
  | some text =>
      unfold InterfaceService.reapply at h
      rw [eval_bind, SqlitePeerRepository.eval_list_for_interface, Plan.outcome, hfails] at h
      cases h
      exact ⟨text, rfl⟩
  | none =>
      rcases InterfaceService.eval_reapply plan crates w iface oldGateway with
        ⟨-, net, -, heval⟩ | ⟨hlists, -⟩
      · cases heval.symm.trans h
      · rw [Plan.listsPeers, hfails] at hlists
        cases hlists

/-- An edit of an interface that fails has changed nothing, or the row was written and the error is
one of the database. -/
theorem InterfaceService.update_error {id : Id InterfaceMarker} {input : UpdateInterfaceInput}
    (h : eval (handle plan) (InterfaceService.update crates id input) w = (.error e, w')) :
    w' = w ∨ ∃ text, e = .persistence text := by
  unfold InterfaceService.update at h
  rw [eval_bind] at h
  rcases InterfaceService.eval_get plan w id with ⟨old, -, heval⟩ | ⟨-, e', heval⟩ <;>
    rw [heval] at h
  · simp only [eval_bind] at h
    rcases InterfaceService.eval_validate_configured plan w input.gateway with
      ⟨-, heval⟩ | ⟨-, e', heval⟩ <;> rw [heval] at h
    · simp only [InterfaceService.eval_rekey] at h
      cases hkeys : rekeyed crates (input.edit old) (Text.trim input.privateKey) with
      | error e' =>
          rw [hkeys] at h
          cases h
          exact .inl rfl
      | ok iface =>
          rw [hkeys] at h
          simp only at h
          rcases SqliteInterfaceRepository.eval_update plan w iface with
            ⟨-, heval⟩ | ⟨-, e', heval⟩ <;> rw [heval] at h
          · -- from here on the row is written
            simp only [eval_ite] at h
            split at h
            · rcases eval_bind_error.mp h with herror | ⟨value, final, -, hpure⟩
              · exact .inr (InterfaceService.reapply_error herror)
              · cases hpure
            · cases h
          · cases h
            exact .inl rfl
    · cases h
      exact .inl rfl
  · cases h
    exact .inl rfl

/-- A refused request to create or to edit a peer or an interface has changed nothing, whichever
calls fail. -/
theorem refused_requests_change_nothing (crates : Crates) (plan : Plan) (w w' : World)
    (request : SubmittedRequest) (e : CoreError)
    (h : eval (handle plan) (request.program crates) w = (.error e, w')) (hrefused : e.Refusal) :
    w' = w := by
  cases request with
  | createPeer input =>
      obtain ⟨result, final, heval, hend⟩ := PeerService.create_spec plan crates w input
      obtain ⟨rfl, rfl⟩ := Prod.mk.inj (heval.symm.trans (eval_error_of_drop h))
      cases hend
      rfl
  | updatePeer id input =>
      obtain ⟨result, final, heval, hend⟩ := PeerService.update_spec plan crates w id input
      obtain ⟨rfl, rfl⟩ := Prod.mk.inj (heval.symm.trans (eval_error_of_drop h))
      cases hend
      rfl
  | createInterface input =>
      obtain ⟨result, final, heval, hend⟩ := InterfaceService.create_spec plan crates w input
      obtain ⟨rfl, rfl⟩ := Prod.mk.inj (heval.symm.trans (eval_error_of_drop h))
      cases hend
      rfl
  | updateInterface id input =>
      rcases InterfaceService.update_error (eval_error_of_drop h) with hsame | ⟨text, rfl⟩
      · exact hsame
      · exact hrefused.elim

/-- A host with an interface and a peer that has an address. -/
def addressedHost : World :=
  { World.fresh [] with
    db := .filled [.plain 0 "wg0" none none]
      [{ Peer.plain 0 0 "phone" none none with allowedIps := [.single (ipv4 10 7 0 2)] }]
    devices := Devices.create (fun _ => none) "wg0" }

/-- A request for another peer with that address. -/
def takenAddress : SubmittedRequest :=
  .createPeer (.plain "laptop" ⟨0⟩ (some [.single (ipv4 10 7 0 2)]))

theorem refused_requests_change_nothing_conflict :
    eval (handle .none) (takenAddress.program .transparent) addressedHost =
      (.error (.conflict "ip 10.7.0.2/32 already assigned"), addressedHost) := by
  have herror : (eval (handle .none) (takenAddress.program .transparent) addressedHost).1 =
      .error (.conflict "ip 10.7.0.2/32 already assigned") := by decide +kernel
  exact Prod.ext herror (refused_requests_change_nothing .transparent .none addressedHost _
    takenAddress _ (Prod.ext herror rfl) trivial)

/-! ## Failed calls -/

/-- The statements of the repositories. -/
def Sys.isStatement : Sys → Bool
  | .findInterface _ | .findInterfaceByName _ | .listInterfaces => true
  | .insertInterface _ | .updateInterface _ _ | .deleteInterface _ => true
  | .findPeer _ | .listPeersOf _ | .listPeers => true
  | .insertPeer _ | .updatePeer _ _ | .deletePeer _ => true
  | .recordBandwidth _ _ | .insertSnapshot _ _ _ _ _ => true
  | _ => false

/-- Nothing fails but statements of the repositories. -/
def Plan.FailsStatements (plan : Plan) : Prop :=
  ∀ c, c.isStatement = false → plan.error c = .none

/-- The operation fails between its statement and its kernel call, and the two differ in what they
make of the kernel's entry. -/
def PeerCall.Splits (plan : Plan) (crates : Crates) (w : World) : PeerCall → Prop
  | .create _ | .update _ _ => False
  | .setEnabled id enabled => ∃ old iface, plan.readPeer w.db id = some old ∧
      plan.error (.updatePeer { old with enabled } w.env.now) = none ∧
      plan.error (.findInterface old.interfaceId) ≠ none ∧
      w.db.interfaces.find old.interfaceId = some iface ∧ iface.status = .up ∧
      old.enabled ≠ enabled ∧
      ∀ other ∈ w.db.enabledPeers iface.id, other.id ≠ id →
        other.wgPeer crates ≠ old.wgPeer crates
  | .delete id => ∃ peer iface, plan.readPeer w.db id = some peer ∧
      plan.readInterface w.db peer.interfaceId = some iface ∧
      plan.error (.deletePeer id) ≠ none ∧ iface.status = .up ∧
      ∃ other ∈ w.db.enabledPeers iface.id, other.key = peer.key

namespace Plan

variable {iface : Interface} {peer : Peer} {devices : Devices}

/-- While nothing but statements fails, a kernel call takes effect. -/
theorem FailsStatements.uninstalled (h : plan.FailsStatements) {key : WgPublicKey} :
    plan.uninstalled iface key devices = devices.setPeer iface.name key.key .none := by
  simp only [Plan.uninstalled, Plan.opens, h (.openApi _) rfl, h (.removePeer _ _) rfl]
  rfl

end Plan

/-! ### What a device shows -/

section Shown

variable {devices : Devices} {name : String} {peers peers' : Set Peer} {db db' : Db}
  {old : Peer} {enabled : Bool} {now : DateTime}

/-- A device that shows some peers shows others exactly if they have the same entries. -/
theorem Devices.Shows.iff_entries (h : devices.Shows crates name peers) :
    devices.Shows crates name peers' ↔
      Peer.wgPeer crates '' peers = Peer.wgPeer crates '' peers' := by
  obtain ⟨device, hdevice, hmirrors⟩ := h
  have hentry : ∀ {shown : Set Peer}, Mirrors shown Peer.key (Peer.wgPeer crates) device.peers →
      ∀ v, v ∈ Peer.wgPeer crates '' shown ↔ device.peers v.publicKey = some v := by
    intro shown hshown v
    rw [hshown v.publicKey v]
    constructor
    · rintro ⟨peer, hpeer, rfl⟩
      exact ⟨peer, hpeer, rfl, rfl⟩
    · rintro ⟨peer, hpeer, -, rfl⟩
      exact ⟨peer, hpeer, rfl⟩
  constructor
  · rintro ⟨device', hdevice', hmirrors'⟩
    obtain rfl : device = device' := Option.some.inj (hdevice.symm.trans hdevice')
    ext v
    rw [hentry hmirrors, hentry hmirrors']
  · intro heq
    refine ⟨device, hdevice, fun k v => ?_⟩
    have hkey : ∀ shown : Set Peer, (∃ r ∈ shown, Peer.key r = k ∧ Peer.wgPeer crates r = v) ↔
        v ∈ Peer.wgPeer crates '' shown ∧ v.publicKey = k := by
      intro shown
      constructor
      · rintro ⟨peer, hpeer, hk, rfl⟩
        exact ⟨⟨peer, hpeer, rfl⟩, hk⟩
      · rintro ⟨⟨peer, hpeer, rfl⟩, hk⟩
        exact ⟨peer, hpeer, hk, rfl⟩
    rw [hmirrors k v, hkey, hkey, heq]

/-- The entries of an interface's enabled peers, those of one peer set apart. -/
theorem mem_entries (hold : old ∈ db.peers.rows) {id : Id InterfaceMarker} {v : WgPeer} :
    v ∈ Peer.wgPeer crates '' db.enabledPeers id ↔
      v ∈ Peer.wgPeer crates '' {peer ∈ db.enabledPeers id | peer.id ≠ old.id} ∨
        old.interfaceId = id ∧ old.enabled = true ∧ old.wgPeer crates = v := by
  constructor
  · rintro ⟨peer, hpeer, rfl⟩
    by_cases hid : peer.id = old.id
    · obtain rfl := Table.eq_of_key hpeer.1 hold hid
      exact .inr ⟨hpeer.2.1, hpeer.2.2, rfl⟩
    · exact .inl ⟨peer, ⟨hpeer, hid⟩, rfl⟩
  · rintro (⟨peer, ⟨hpeer, -⟩, rfl⟩ | ⟨hiface, henabled, rfl⟩)
    · exact ⟨peer, hpeer, rfl⟩
    · exact ⟨old, ⟨hold, hiface, henabled⟩, rfl⟩

/-- The entries after the status of a peer has been written. -/
theorem mem_entries_switched (hdb : db.updatePeer { old with enabled } now = .ok db')
    (hold : old ∈ db.peers.rows) {id : Id InterfaceMarker} {v : WgPeer} :
    v ∈ Peer.wgPeer crates '' db'.enabledPeers id ↔
      v ∈ Peer.wgPeer crates '' {peer ∈ db.enabledPeers id | peer.id ≠ old.id} ∨
        old.interfaceId = id ∧ enabled = true ∧ old.wgPeer crates = v := by
  have hrows : ∀ peer, peer ∈ db'.peers.rows ↔ _ := fun _ => Db.mem_update_peer hdb hold rfl
  have hrow : Db.setPeer { old with enabled } now old = { old with enabled, updatedAt := now } := by
    rw [Db.setPeer, if_pos rfl]
  constructor
  · rintro ⟨peer, ⟨hpeer, hiface, henabled⟩, rfl⟩
    rcases (hrows peer).mp hpeer with ⟨hpeer, hid⟩ | rfl
    · exact .inl ⟨peer, ⟨⟨hpeer, hiface, henabled⟩, hid⟩, rfl⟩
    · rw [hrow] at hiface henabled ⊢
      exact .inr ⟨hiface, henabled, rfl⟩
  · rintro (⟨peer, ⟨⟨hpeer, hiface, henabled⟩, hid⟩, rfl⟩ | ⟨hiface, henabled, rfl⟩)
    · exact ⟨peer, ⟨(hrows peer).mpr (.inl ⟨hpeer, hid⟩), hiface, henabled⟩, rfl⟩
    · refine ⟨_, ⟨(hrows _).mpr (.inr rfl), ?_, ?_⟩, ?_⟩ <;> rw [hrow]
      · exact hiface
      · exact henabled
      · rfl

/-- The status of a peer has been written and the kernel has not followed: the two still agree
unless the interface is up, the status is a new one and no other enabled peer has the peer's
entry. -/
theorem detached_agrees_iff {iface : Interface} (h : AgreeIn crates db devices)
    (hdb : db.updatePeer { old with enabled } now = .ok db') (hold : old ∈ db.peers.rows)
    (hfind : db.interfaces.find old.interfaceId = some iface) :
    AgreeIn crates db' devices ↔ ¬ (iface.status = .up ∧ old.enabled ≠ enabled ∧
      ∀ other ∈ db.enabledPeers iface.id, other.id ≠ old.id →
        other.wgPeer crates ≠ old.wgPeer crates) := by
  obtain ⟨hmem, hid⟩ := Table.find_eq_some.mp hfind
  have hinterfaces := (Db.update_peer_ok hdb).2
  constructor
  · rintro h' ⟨hup, hne, halone⟩
    have hsame := (h iface hmem hup).iff_entries.mp (h' iface (hinterfaces ▸ hmem) hup)
    have hentry := Set.ext_iff.mp hsame (old.wgPeer crates)
    rw [mem_entries hold, mem_entries_switched hdb hold] at hentry
    have hother : old.wgPeer crates ∉
        Peer.wgPeer crates '' {peer ∈ db.enabledPeers iface.id | peer.id ≠ old.id} := by
      rintro ⟨other, ⟨hother, hoid⟩, heq⟩
      exact halone other hother hoid heq
    simp only [hother, hid.symm, false_or, true_and, and_true] at hentry
    exact hne (Bool.eq_iff_iff.mpr hentry)
  · intro hkeeps row hrow hup
    rw [hinterfaces] at hrow
    refine (h row hrow hup).iff_entries.mpr (Set.ext fun v => ?_)
    rw [mem_entries hold, mem_entries_switched hdb hold]
    refine or_congr_right' fun hnot => and_congr_right fun hiface => ?_
    -- the entry of the peer is not among the others'
    refine and_congr_left fun hv => ?_
    obtain rfl : row = iface := Db.eq_of_interface_id hrow hmem (hiface.symm.trans hid.symm)
    by_cases hsame : old.enabled = enabled
    · rw [hsame]
    · refine absurd ⟨hup, hsame, fun other hother hoid heq => hnot ?_⟩ hkeeps
      exact ⟨other, ⟨hother, hoid⟩, heq.trans hv⟩

/-- The entry of a key has been removed: the kernel and the database still agree unless the
interface is up and one of its enabled peers has the key. -/
theorem removed_agrees_iff {iface : Interface} {key : Key} (h : AgreeIn crates db devices)
    (hmem : iface ∈ db.interfaces.rows) :
    AgreeIn crates db (devices.setPeer iface.name key none) ↔
      ¬ (iface.status = .up ∧ ∃ other ∈ db.enabledPeers iface.id, other.key = key) := by
  constructor
  · rintro h' ⟨hup, other, hother, rfl⟩
    have hsame := ((h iface hmem hup).uninstall other.key).iff_entries.mp (h' iface hmem hup)
    obtain ⟨peer, ⟨-, hne⟩, heq⟩ := hsame.symm ▸ Set.mem_image_of_mem (Peer.wgPeer crates) hother
    exact hne (congrArg WgPeer.publicKey heq)
  · intro hkeeps row hrow hup
    by_cases hsame : row = iface
    · subst hsame
      refine ((h row hrow hup).uninstall key).congr_peers fun peer =>
        and_iff_left_of_imp fun hpeer hkey => hkeeps ⟨hup, peer, hpeer, hkey⟩
    · have hname : row.name ≠ iface.name := fun hname => hsame (Db.eq_of_name hrow hmem hname)
      exact (h row hrow hup).congr (Devices.set_peer_of_ne hname)

end Shown

/-! ### The operations -/

/-- A row that the database takes is written unless the statement fails. -/
theorem SqlitePeerRepository.eval_update_row (plan : Plan) {row : Peer} {db : Db}
    (hdb : w.db.updatePeer row w.env.now = .ok db) :
    (plan.error (.updatePeer row w.env.now) = none ∧
      eval (handle plan) (SqlitePeerRepository.update row) w = (.ok (), { w with db })) ∨
    (plan.error (.updatePeer row w.env.now) ≠ none ∧
      ∃ e, eval (handle plan) (SqlitePeerRepository.update row) w = (.error e, w)) := by
  rw [SqlitePeerRepository.update, eval_bind, eval_utc_now]
  rcases eval_statement plan w (.updatePeer row w.env.now) (·.updatePeer row w.env.now)
      (Sys.updatePeer row w.env.now).request rfl with
    ⟨db', hnone, hdb', heval⟩ | ⟨hsome | ⟨e, hfails⟩, heval⟩
  · obtain rfl : db' = db := Except.ok.inj (hdb'.symm.trans hdb)
    exact .inl ⟨hnone, heval⟩
  · exact .inr ⟨Option.isSome_iff_ne_none.mp hsome, heval⟩
  · cases hfails.symm.trans hdb

/-- How enabling or disabling a peer fails: after the row has been written if its interface cannot
be read, and else before. -/
theorem PeerService.set_enabled_error {id : Id PeerMarker} {enabled : Bool} :
    (∃ old db e, plan.readPeer w.db id = some old ∧
      plan.error (.updatePeer { old with enabled } w.env.now) = none ∧
      plan.error (.findInterface old.interfaceId) ≠ none ∧
      w.db.updatePeer { old with enabled } w.env.now = .ok db ∧
      eval (handle plan) (PeerService.setEnabled crates id enabled) w =
        (.error e, { w with db })) ∨
    ((∀ old, plan.readPeer w.db id = some old →
        plan.error (.updatePeer { old with enabled } w.env.now) = none →
        plan.error (.findInterface old.interfaceId) = none) ∧
      ∀ e w', eval (handle plan) (PeerService.setEnabled crates id enabled) w = (.error e, w') →
        w' = w) := by
  unfold PeerService.setEnabled
  rw [eval_bind]
  rcases PeerService.eval_get plan w id with ⟨old, hread, hget⟩ | ⟨hread, e, hget⟩
  · have honly : ∀ old', plan.readPeer w.db id = some old' → old' = old := fun old' hold =>
      Option.some.inj (hold.symm.trans hread)
    have href : (w.db.interfaces.find ({ old with enabled } : Peer).interfaceId).isSome :=
      w.db.references old (Plan.read_peer_some hread).1
    obtain ⟨db, hdb⟩ : ∃ db, w.db.updatePeer { old with enabled } w.env.now = .ok db :=
      Db.update_peer_exists href w.env.now
    rw [hget]
    simp only [eval_bind]
    rcases SqlitePeerRepository.eval_update_row plan hdb with
      ⟨hnone, hupdate⟩ | ⟨hfails, e, hupdate⟩
    · rw [hupdate]
      simp only
      rcases PeerService.eval_get_interface plan { w with db } old.interfaceId with
        ⟨iface, hiface, hget⟩ | ⟨hiface, e, hget⟩
      · rw [hget]
        refine .inr ⟨fun old' hold _ => ?_, fun e w' h => ?_⟩
        · rw [honly old' hold]
          unfold Plan.readInterface at hiface
          split at hiface
          next herror => exact Option.isNone_iff_eq_none.mp herror
          next => cases hiface
        · simp only [eval_push_peer, eval_pure] at h
          cases h
      · rw [hget]
        refine .inl ⟨old, db, e, hread, hnone, fun herror => ?_, hdb, rfl⟩
        have hnone' : db.interfaces.find old.interfaceId = none := by
          simpa [Plan.readInterface, herror] using hiface
        rw [(Db.update_peer_ok hdb).2] at hnone'
        rw [hnone'] at href
        cases href
    · rw [hupdate]
      refine .inr ⟨fun old' hold hnone => ?_, fun e' w' h => ?_⟩
      · rw [honly old' hold] at hnone
        exact absurd hnone hfails
      · cases h
        rfl
  · rw [hget]
    refine .inr ⟨fun old hold => ?_, fun e' w' h => ?_⟩
    · cases hread.symm.trans hold
    · cases h
      rfl

/-- How deleting a peer fails: after its entry has been removed if the statement fails, and else
before. -/
theorem PeerService.delete_error (plan : Plan) (w : World) (id : Id PeerMarker) :
    (∃ peer iface e, plan.readPeer w.db id = some peer ∧
      plan.readInterface w.db peer.interfaceId = some iface ∧
      plan.error (.deletePeer id) ≠ none ∧
      eval (handle plan) (PeerService.delete id) w =
        (.error e, { w with devices := plan.uninstalled iface peer.publicKey w.devices })) ∨
    ((∀ peer iface, plan.readPeer w.db id = some peer →
        plan.readInterface w.db peer.interfaceId = some iface →
        plan.error (.deletePeer id) = none) ∧
      ∀ e w', eval (handle plan) (PeerService.delete id) w = (.error e, w') → w' = w) := by
  unfold PeerService.delete
  rw [eval_bind]
  rcases PeerService.eval_get plan w id with ⟨peer, hread, hget⟩ | ⟨hread, e, hget⟩
  · rw [hget]
    simp only [eval_bind]
    rcases PeerService.eval_get_interface plan w peer.interfaceId with
      ⟨iface, hiface, hget⟩ | ⟨hiface, e, hget⟩
    · rw [hget]
      simp only [eval_ignore, remove_peer_after]
      rcases SqlitePeerRepository.eval_delete plan
          { w with devices := plan.uninstalled iface peer.publicKey w.devices } id with
        ⟨hnone, hdelete⟩ | ⟨hfails, e, hdelete⟩
      · rw [hdelete]
        exact .inr ⟨fun _ _ _ _ => hnone, nofun⟩
      · exact .inl ⟨peer, iface, e, hread, hiface, hfails, hdelete⟩
    · rw [hget]
      refine .inr ⟨fun peer' iface hread' hiface' => ?_, fun e' w' h => ?_⟩
      · obtain rfl := Option.some.inj (hread.symm.trans hread')
        cases hiface.symm.trans hiface'
      · cases h
        rfl
  · rw [hget]
    refine .inr ⟨fun peer iface hread' => ?_, fun e' w' h => ?_⟩
    · cases hread.symm.trans hread'
    · cases h
      rfl

/-- While nothing but statements fails, an operation that fails keeps the agreement of kernel and
database exactly if it does not split them. -/
theorem failed_call_keeps_agreement_iff (crates : Crates) (plan : Plan) (w : World)
    (call : PeerCall) (hplan : plan.FailsStatements) (hagree : Agreement crates w) :
    (∀ e w', eval (handle plan) (call.program crates) w = (.error e, w') → Agreement crates w') ↔
      ¬ call.Splits plan crates w := by
  cases call with
  | create input =>
      refine iff_of_true (fun e w' h => ?_) fun hsplits => hsplits
      obtain ⟨result, final, heval, hend⟩ := PeerService.create_spec plan crates w input
      obtain ⟨rfl, rfl⟩ := Prod.mk.inj (heval.symm.trans (eval_error_of_drop h))
      cases hend
      exact hagree
  | update id input =>
      refine iff_of_true (fun e w' h => ?_) fun hsplits => hsplits
      obtain ⟨result, final, heval, hend⟩ := PeerService.update_spec plan crates w id input
      obtain ⟨rfl, rfl⟩ := Prod.mk.inj (heval.symm.trans (eval_error_of_drop h))
      cases hend
      exact hagree
  | setEnabled id enabled =>
      rcases @PeerService.set_enabled_error plan crates w id enabled with
        ⟨old, db, e, hread, hnone, hfails, hdb, heval⟩ | ⟨hnever, hsame⟩
      · obtain ⟨hold, rfl⟩ := Plan.read_peer_some hread
        obtain ⟨iface, hfind⟩ := Option.isSome_iff_exists.mp (w.db.references old hold)
        have hafter : (∀ e w', eval (handle plan) ((PeerCall.setEnabled old.id enabled).program
            crates) w = (.error e, w') → Agreement crates w') ↔ AgreeIn crates db w.devices := by
          constructor
          · intro h
            exact h e { w with db } (by rw [PeerCall.program, eval_drop heval]; rfl)
          · intro h e' w' herror
            obtain rfl := (Prod.mk.inj (heval.symm.trans (eval_error_of_drop herror))).2
            exact h
        rw [hafter, detached_agrees_iff hagree hdb hold hfind]
        refine not_congr ⟨fun ⟨hup, hne, halone⟩ => ?_, ?_⟩
        · exact ⟨old, iface, hread, hnone, hfails, hfind, hup, hne, halone⟩
        · rintro ⟨old', iface', hread', -, -, hfind', hup, hne, halone⟩
          obtain rfl := Option.some.inj (hread.symm.trans hread')
          obtain rfl := Option.some.inj (hfind.symm.trans hfind')
          exact ⟨hup, hne, halone⟩
      · refine iff_of_true (fun e w' h => ?_) ?_
        · rw [hsame e w' (eval_error_of_drop h)]
          exact hagree
        · rintro ⟨old, iface, hread, hnone, hfails, -⟩
          exact hfails (hnever old hread hnone)
  | delete id =>
      rcases PeerService.delete_error plan w id with
        ⟨peer, iface, e, hread, hiface, hfails, heval⟩ | ⟨hnever, hsame⟩
      · obtain ⟨hmem, -⟩ := Plan.read_interface_some hiface
        have hafter : (∀ e w', eval (handle plan) ((PeerCall.delete id).program crates) w =
            (.error e, w') → Agreement crates w') ↔
              AgreeIn crates w.db (w.devices.setPeer iface.name peer.key none) := by
          rw [hplan.uninstalled] at heval
          constructor
          · intro h
            exact h e _ heval
          · intro h e' w' herror
            obtain rfl := (Prod.mk.inj (heval.symm.trans herror)).2
            exact h
        rw [hafter, removed_agrees_iff hagree hmem]
        refine not_congr ⟨fun ⟨hup, hother⟩ => ?_, ?_⟩
        · exact ⟨peer, iface, hread, hiface, hfails, hup, hother⟩
        · rintro ⟨peer', iface', hread', hiface', -, hup, hother⟩
          obtain rfl := Option.some.inj (hread.symm.trans hread')
          obtain rfl := Option.some.inj (hiface.symm.trans hiface')
          exact ⟨hup, hother⟩
      · refine iff_of_true (fun e w' h => ?_) ?_
        · rw [hsame e w' h]
          exact hagree
        · rintro ⟨peer, iface, hread, hiface, hfails, -⟩
          exact hfails (hnever peer iface hread hiface)

/-! ## Examples -/

/-- A host on which an interface with one peer is up. -/
def runningHost : World where
  db := .single ((Interface.plain 0 "wg0" none none).withStatus .up)
    (.plain 0 0 "laptop" none none) []
  devices := Devices.configure (fun _ => none) (configWith .transparent
    ((Interface.plain 0 "wg0" none none).withStatus .up) [Peer.plain 0 0 "laptop" none none]
    ⟨.ofKey .zero⟩)
  net := (World.fresh []).net
  spawned := []
  env := (World.fresh []).env

theorem running_host_agrees : Agreement .transparent runningHost := by
  intro row hrow _
  obtain rfl := List.mem_singleton.mp hrow
  refine (Devices.shows_configure ?_).congr_peers fun peer => ?_
  · exact List.nodup_singleton _
  · constructor
    · rintro ⟨hpeer, henabled⟩
      obtain rfl := List.mem_singleton.mp hpeer
      exact ⟨List.mem_singleton_self _, rfl, henabled⟩
    · rintro ⟨hpeer, -, henabled⟩
      exact ⟨hpeer, henabled⟩

/-- No row of a peer can be deleted. -/
def lockedPeers : Plan where
  error
    | .deletePeer _ => some "database is locked"
    | _ => none
  exit _ := true

theorem locked_peers_fails_statements : lockedPeers.FailsStatements := by
  intro c hc
  cases c <;> first | rfl | cases hc

/-- The peer is still there, and the kernel has forgotten it. -/
theorem failed_deletion_splits : ¬ ∀ (plan : Plan) (w : World) (call : PeerCall) e w',
    plan.FailsStatements → Agreement .transparent w →
      eval (handle plan) (call.program .transparent) w = (.error e, w') →
        Agreement .transparent w' := by
  intro h
  rcases PeerService.delete_error lockedPeers runningHost ⟨0⟩ with
    ⟨peer, iface, e, hread, hiface, -, heval⟩ | ⟨hnever, -⟩
  · have hagree := h lockedPeers runningHost (.delete ⟨0⟩) e _ locked_peers_fails_statements
      running_host_agrees heval
    rw [locked_peers_fails_statements.uninstalled] at hagree
    obtain ⟨hmem, -⟩ := Plan.read_interface_some hiface
    obtain ⟨hpeer, -⟩ := Plan.read_peer_some hread
    obtain rfl := List.mem_singleton.mp hmem
    obtain rfl := List.mem_singleton.mp hpeer
    refine (removed_agrees_iff running_host_agrees hmem).mp hagree ⟨rfl, _, ⟨hpeer, rfl, rfl⟩, rfl⟩
  · cases hnever _ _ rfl rfl

theorem failed_call_keeps_agreement_locked :
    (∀ e w', eval (handle lockedPeers) ((PeerCall.delete ⟨0⟩).program .transparent) runningHost =
        (.error e, w') → Agreement .transparent w') ↔
      ¬ (PeerCall.delete ⟨0⟩).Splits lockedPeers .transparent runningHost :=
  failed_call_keeps_agreement_iff .transparent lockedPeers runningHost (.delete ⟨0⟩)
    locked_peers_fails_statements running_host_agrees

end Wireforge
