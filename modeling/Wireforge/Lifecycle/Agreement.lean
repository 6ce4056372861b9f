import Wireforge.Infra.PeerTable
import Wireforge.Lifecycle.ServiceRun

/-!
# The kernel and the database

While nothing fails, the peer table of every interface that is up shows its enabled peers, whatever
the services and the background tasks do in between. The one exception is a start of an interface
that is up already and whose gateway is refused; `agreement_iff` shows that it is the only one.
-/

namespace Wireforge

open Effect DefguardAdapter

/-- The enabled peers of an interface. -/
def Db.enabledPeers (db : Db) (id : Id InterfaceMarker) : Set Peer :=
  {peer | peer ∈ db.peers.rows ∧ peer.interfaceId = id ∧ peer.enabled = true}

/-- The devices of the interfaces that are up show their enabled peers. -/
def AgreeIn (crates : Crates) (db : Db) (devices : Devices) : Prop :=
  ∀ row ∈ db.interfaces.rows, row.status = .up →
    devices.Shows crates row.name (db.enabledPeers row.id)

/-- The kernel agrees with the database. -/
def Agreement (crates : Crates) (w : World) : Prop :=
  AgreeIn crates w.db w.devices

/-- No interface has two peers with one public key. -/
def KeysDistinct (db : Db) : Prop :=
  ∀ peer ∈ db.peers.rows, ∀ other ∈ db.peers.rows, peer.interfaceId = other.interfaceId →
    peer.publicKey = other.publicKey → peer.id = other.id

instance (db : Db) : Decidable (KeysDistinct db) :=
  inferInstanceAs (Decidable (∀ peer ∈ db.peers.rows, _))

/-- A start of an interface that is up finds its gateway on the host. -/
def KeepsAgreement (crates : Crates) (w : World) (a : ServiceStep) : Prop :=
  match a.call with
  | .interface (.start id) => ∀ iface,
      InterfaceService.Configured a.plan crates (w.seen a.env) id iface → iface.status = .up →
      a.plan.acceptsConfigured a.env iface.gateway = true
  | _ => True

variable {crates : Crates} {w w' : World} {db db' : Db} {devices devices' : Devices}
  {iface target : Interface} {peer old row : Peer}

theorem KeysDistinct.eq (h : KeysDistinct db) (hpeer : peer ∈ db.peers.rows)
    (hold : old ∈ db.peers.rows) (hiface : peer.interfaceId = old.interfaceId)
    (hkey : peer.key = old.key) : peer.id = old.id :=
  h peer hpeer old hold hiface (Peer.key_inj.mp hkey)

/-- Keys are not among what the background tasks change. -/
theorem KeysDistinct.of_cores (h : KeysDistinct db) (hcores : db'.cores = db.cores) :
    KeysDistinct db' := by
  intro peer hpeer other hother
  obtain ⟨old, hold, hid, hiface, hkey, -⟩ := Db.source_of_cores hcores hpeer
  obtain ⟨old', hold', hid', hiface', hkey', -⟩ := Db.source_of_cores hcores hother
  rw [← hid, ← hid', ← hiface, ← hiface', ← hkey, ← hkey']
  exact h old hold old' hold'

/-! ## Changes of one peer -/

/-- The entry of a peer is removed. -/
theorem uninstalled_shows (h : AgreeIn crates db devices) (hkeys : KeysDistinct db)
    (hold : old ∈ db.peers.rows) (hmem : target ∈ db.interfaces.rows)
    (htarget : old.interfaceId = target.id) (hiface : iface ∈ db.interfaces.rows)
    (hup : iface.status = .up) :
    (Plan.none.uninstalled target old.publicKey devices).Shows crates iface.name
      {peer ∈ db.enabledPeers iface.id | peer.id ≠ old.id} := by
  rw [Plan.uninstalled_none]
  by_cases hsame : iface = target
  · subst hsame
    refine ((h iface hiface hup).uninstall old.key).congr_peers fun peer =>
      and_congr_right fun hpeer => not_congr ⟨fun hkey => ?_, fun hid => ?_⟩
    · exact hkeys.eq hpeer.1 hold (hpeer.2.1.trans htarget.symm) hkey
    · rw [Table.eq_of_key hpeer.1 hold hid]
  · have hname : iface.name ≠ target.name := fun hname => hsame (Db.eq_of_name hiface hmem hname)
    refine ((h iface hiface hup).congr (Devices.set_peer_of_ne hname)).congr_peers fun peer =>
      (and_iff_left_of_imp fun hpeer hid => hsame ?_).symm
    rw [Table.eq_of_key hpeer.1 hold hid] at hpeer
    exact Db.eq_of_interface_id hiface hmem (hpeer.2.1.symm.trans htarget)

/-- The devices show all other peers, and at most an entry that installing the row replaces. -/
def Cleared (crates : Crates) (db : Db) (devices : Devices) (row : Peer) : Prop :=
  ∀ iface ∈ db.interfaces.rows, iface.status = .up → ∃ shown : Set Peer,
    devices.Shows crates iface.name shown ∧
      (∀ peer ∈ db.enabledPeers iface.id, peer.id ≠ row.id → peer ∈ shown) ∧
      ∀ peer ∈ shown, peer ∈ db.enabledPeers iface.id ∧
        (peer.id = row.id → iface.id = row.interfaceId ∧ peer.key = row.key)

/-- A row is added or rewritten, and the kernel is brought in line with it. -/
theorem pushed_agrees (h : Cleared crates db devices row)
    (hinterfaces : db'.interfaces = db.interfaces)
    (hrows : ∀ peer, peer ∈ db'.peers.rows ↔
      peer ∈ db.peers.rows ∧ peer.id ≠ row.id ∨ peer = row)
    (hkeys : KeysDistinct db') (hmem : target ∈ db.interfaces.rows)
    (htarget : row.interfaceId = target.id) :
    AgreeIn crates db' (Plan.none.pushed crates target row devices) := by
  intro iface hiface hup
  rw [hinterfaces] at hiface
  obtain ⟨shown, hshows, hall, honly⟩ := h iface hiface hup
  have henabled : ∀ peer, peer ∈ db'.enabledPeers iface.id ↔
      peer ∈ db.enabledPeers iface.id ∧ peer.id ≠ row.id ∨
      peer = row ∧ row.interfaceId = iface.id ∧ row.enabled = true := by
    intro peer
    simp only [Db.enabledPeers, Set.mem_ofPred_eq, hrows]
    constructor
    · rintro ⟨⟨hpeer, hne⟩ | rfl, hrest⟩
      · exact .inl ⟨⟨hpeer, hrest⟩, hne⟩
      · exact .inr ⟨rfl, hrest⟩
    · rintro (⟨⟨hpeer, hrest⟩, hne⟩ | ⟨rfl, hrest⟩)
      · exact ⟨.inl ⟨hpeer, hne⟩, hrest⟩
      · exact ⟨.inr rfl, hrest⟩
  by_cases hsame : iface = target
  · subst hsame
    have hothers : ∀ peer, peer ∈ shown ∧ peer.key ≠ row.key ↔
        peer ∈ db.enabledPeers iface.id ∧ peer.id ≠ row.id := by
      intro peer
      constructor
      · rintro ⟨hpeer, hkey⟩
        exact ⟨(honly peer hpeer).1, fun hid => hkey ((honly peer hpeer).2 hid).2⟩
      · rintro ⟨hpeer, hid⟩
        refine ⟨hall peer hpeer hid, fun hkey => hid ?_⟩
        exact hkeys.eq ((hrows peer).mpr (.inl ⟨hpeer.1, hid⟩)) ((hrows row).mpr (.inr rfl))
          (hpeer.2.1.trans htarget.symm) hkey
    unfold Plan.pushed
    split
    · rename_i henable
      refine (hshows.install row).congr_peers fun peer => ?_
      rw [henabled, ← hothers]
      simp [htarget, henable, or_comm]
    · rename_i hdisable
      refine (hshows.uninstall row.key).congr_peers fun peer => ?_
      rw [henabled, ← hothers]
      simp [hdisable]
  · have hname : iface.name ≠ target.name := fun hname => hsame (Db.eq_of_name hiface hmem hname)
    have hid : row.interfaceId ≠ iface.id := fun hid =>
      hsame (Db.eq_of_interface_id hiface hmem (hid.symm.trans htarget))
    have hdevice : Plan.none.pushed crates target row devices iface.name = devices iface.name := by
      unfold Plan.pushed
      split <;> exact Devices.set_peer_of_ne hname
    refine (hshows.congr hdevice).congr_peers fun peer => ?_
    rw [henabled]
    constructor
    · exact fun hpeer => .inl ⟨(honly peer hpeer).1,
        fun hsame => hid ((honly peer hpeer).2 hsame).1.symm⟩
    · rintro (⟨hpeer, hne⟩ | ⟨-, hiface, -⟩)
      · exact hall peer hpeer hne
      · exact absurd hiface hid

/-- Nothing has to be removed for a peer that is new, or that stays and keeps its key. -/
theorem cleared_of_agrees (h : AgreeIn crates db devices)
    (hrow : ∀ peer ∈ db.peers.rows, peer.id = row.id →
      peer.interfaceId = row.interfaceId ∧ peer.key = row.key) :
    Cleared crates db devices row := by
  intro iface hiface hup
  refine ⟨_, h iface hiface hup, fun peer hpeer _ => hpeer,
    fun peer hpeer => ⟨hpeer, fun hid => ?_⟩⟩
  obtain ⟨hsame, hkey⟩ := hrow peer hpeer.1 hid
  exact ⟨hpeer.2.1.symm.trans hsame, hkey⟩

/-- Once the entry it had is removed, a peer can be moved and can change its key. -/
theorem cleared_of_uninstalled (h : AgreeIn crates db devices) (hkeys : KeysDistinct db)
    (hold : old ∈ db.peers.rows) (hmem : target ∈ db.interfaces.rows)
    (htarget : old.interfaceId = target.id) (hid : old.id = row.id) :
    Cleared crates db (Plan.none.uninstalled target old.publicKey devices) row := by
  intro iface hiface hup
  refine ⟨_, uninstalled_shows h hkeys hold hmem htarget hiface hup, fun peer hpeer hne => ?_,
    fun peer hpeer => ⟨hpeer.1, fun hsame => ?_⟩⟩
  · exact ⟨hpeer, hid ▸ hne⟩
  · exact absurd (hsame.trans hid.symm) hpeer.2

/-! ## The peer service -/

theorem peer_created_agrees {input : CreatePeerInput} {result : Except CoreError Peer}
    (h : Agreement crates w) (hkeys : KeysDistinct w'.db)
    (hend : PeerService.Created .none crates w input result w') : Agreement crates w' := by
  cases hend with
  | rejected e => exact h
  | created iface peer db hread _ _ hiface henabled hdb =>
      obtain ⟨hfresh, hrows, hinterfaces⟩ := Db.insert_peer_ok hdb
      have hpushed : Plan.none.installed crates iface peer w.devices =
          Plan.none.pushed crates iface peer w.devices := by simp [Plan.pushed, henabled]
      have hcleared : Cleared crates w.db w.devices peer :=
        cleared_of_agrees h fun other hother hid => absurd hid (hfresh other hother)
      rw [Agreement, hpushed]
      refine pushed_agrees hcleared hinterfaces (fun other => ?_) hkeys
        (Plan.read_interface_some hread).1 hiface
      rw [hrows, List.mem_append, List.mem_singleton]
      exact or_congr_left (and_iff_left_of_imp (hfresh other)).symm

/-- A row is rewritten, and the kernel is brought in line with it. -/
theorem written_agrees {now : DateTime} (h : Cleared crates db devices peer)
    (hdb : db.updatePeer peer now = .ok db') (hold : old ∈ db.peers.rows) (hid : old.id = peer.id)
    (hkeys : KeysDistinct db') (hmem : target ∈ db.interfaces.rows)
    (htarget : peer.interfaceId = target.id) :
    AgreeIn crates db' (Plan.none.pushed crates target peer devices) := by
  -- The stored row has the columns that decide about the entry.
  have hcleared : Cleared crates db devices (Db.setPeer peer now old) := by
    rw [Db.setPeer, if_pos hid]
    exact h
  have hpushed : Plan.none.pushed crates target (Db.setPeer peer now old) devices =
      Plan.none.pushed crates target peer devices := by
    rw [Db.setPeer, if_pos hid]
    rfl
  rw [← hpushed]
  refine pushed_agrees hcleared (Db.update_peer_ok hdb).2 (fun other => ?_) hkeys hmem ?_
  · rw [Db.mem_update_peer hdb hold hid, Db.set_peer_id, hid]
  · rw [Db.setPeer, if_pos hid]
    exact htarget

theorem peer_updated_agrees {id : Id PeerMarker} {input : UpdatePeerInput}
    {result : Except CoreError Peer} (h : Agreement crates w) (hkeys : KeysDistinct w.db)
    (hkeys' : KeysDistinct w'.db)
    (hend : PeerService.Updated .none crates w id input result w') : Agreement crates w' := by
  cases hend with
  | rejected e => exact h
  | updated old peer target db hread htarget _ hpeer hdb =>
      have hold := (Plan.read_peer_some hread).1
      obtain ⟨hmem, htid⟩ := Plan.read_interface_some htarget
      obtain ⟨hid, hiface⟩ : old.id = peer.id ∧ peer.interfaceId = input.interfaceId := by
        obtain ⟨hid, hiface, -⟩ := PeerService.rekeyed_row hpeer
        exact ⟨hid.symm, hiface⟩
      refine written_agrees ?_ hdb hold hid hkeys' hmem (hiface.trans htid.symm)
      unfold Plan.unstaled
      split
      · obtain ⟨oldIface, hfind⟩ := Option.isSome_iff_exists.mp (w.db.references old hold)
        have hread' : Plan.none.readInterface db old.interfaceId = some oldIface := by
          rw [← hfind, ← (Db.update_peer_ok hdb).2]
          rfl
        obtain ⟨hmem', hid'⟩ := Table.find_eq_some.mp hfind
        simp only [hread']
        exact cleared_of_uninstalled h hkeys hold hmem' hid'.symm hid
      · rename_i hstays
        have hsame : old.interfaceId = target.id :=
          (not_not.mp hstays).symm.trans (hiface.trans htid.symm)
        split
        · exact cleared_of_uninstalled h hkeys hold hmem hsame hid
        · rename_i hkey
          refine cleared_of_agrees h fun other hother hother' => ?_
          rw [Table.eq_of_key hother hold (hother'.trans hid.symm)]
          exact ⟨(not_not.mp hstays).symm, Peer.key_inj.mpr (not_not.mp hkey).symm⟩

theorem switched_agrees {enabled : Bool} (h : Agreement crates w) (hkeys : KeysDistinct w.db)
    (hcore : peer.core ∈ w.db.cores)
    (hend : Switched .none crates w { peer with enabled } w') : Agreement crates w' := by
  have hkeys' := hkeys.of_cores (hend.frame hcore).1
  obtain ⟨old, hold, hsame⟩ := List.mem_map.mp hcore
  obtain ⟨hid, hiface, hkey⟩ : old.id = peer.id ∧ old.interfaceId = peer.interfaceId ∧
      old.publicKey = peer.publicKey := by
    simp only [Peer.core, Peer.mk.injEq] at hsame
    tauto
  obtain ⟨iface, hfind⟩ := Option.isSome_iff_exists.mp (w.db.references old hold)
  obtain ⟨hmem, hiid⟩ := Table.find_eq_some.mp hfind
  cases hend with
  | unsaved => exact h
  | detached db hdb hread =>
      have : db.interfaces.find peer.interfaceId = none := hread
      rw [(Db.update_peer_ok hdb).2, ← hiface, hfind] at this
      cases this
  | pushed iface' db hdb hread =>
      have : db.interfaces.find peer.interfaceId = some iface' := hread
      rw [(Db.update_peer_ok hdb).2, ← hiface, hfind] at this
      cases this
      refine written_agrees (cleared_of_agrees h fun other hother hother' => ?_) hdb hold hid hkeys'
        hmem (hiface.symm.trans hiid.symm)
      rw [Table.eq_of_key hother hold (hother'.trans hid.symm)]
      exact ⟨hiface, Peer.key_inj.mpr hkey⟩

theorem peer_deleted_agrees {id : Id PeerMarker} {result : Except CoreError Unit}
    (h : Agreement crates w) (hkeys : KeysDistinct w.db)
    (hend : PeerService.Deleted .none w id result w') : Agreement crates w' := by
  cases hend with
  | rejected e => exact h
  | kept e peer iface _ _ hfails => exact absurd rfl hfails
  | deleted peer iface hread hiface =>
      obtain ⟨hpeer, hid⟩ := Plan.read_peer_some hread
      obtain ⟨hmem, hiid⟩ := Plan.read_interface_some hiface
      intro row hrow hup
      refine (uninstalled_shows h hkeys hpeer hmem hiid.symm hrow hup).congr_peers fun other => ?_
      simp [Db.enabledPeers, Db.deletePeer, hid, and_right_comm]

/-! ## The background tasks -/

/-- Rewriting columns that neither decide about the entry of a peer nor about its interface. -/
theorem agrees_of_columns {f : Peer → Peer} (h : AgreeIn crates db devices)
    (hinterfaces : db'.interfaces = db.interfaces)
    (hrows : ∀ peer, peer ∈ db'.peers.rows ↔ ∃ old ∈ db.peers.rows, f old = peer)
    (hcolumns : ∀ peer, (f peer).interfaceId = peer.interfaceId ∧
      (f peer).enabled = peer.enabled ∧ (f peer).key = peer.key ∧
      (f peer).wgPeer crates = peer.wgPeer crates) :
    AgreeIn crates db' devices := by
  intro iface hiface hup
  obtain ⟨device, hdevice, hmirrors⟩ := h iface (hinterfaces ▸ hiface) hup
  refine ⟨device, hdevice, fun key entry => (hmirrors key entry).trans ⟨?_, ?_⟩⟩
  · rintro ⟨peer, ⟨hpeer, hpid, hpup⟩, hkey, hentry⟩
    obtain ⟨hfid, hfup, hfkey, hfentry⟩ := hcolumns peer
    exact ⟨f peer, ⟨(hrows _).mpr ⟨peer, hpeer, rfl⟩, hfid.trans hpid, hfup.trans hpup⟩,
      hfkey.trans hkey, hfentry.trans hentry⟩
  · rintro ⟨_, ⟨hpeer, hpid, hpup⟩, hkey, hentry⟩
    obtain ⟨peer, hmem, rfl⟩ := (hrows _).mp hpeer
    obtain ⟨hfid, hfup, hfkey, hfentry⟩ := hcolumns peer
    exact ⟨peer, ⟨hmem, hfid.symm.trans hpid, hfup.symm.trans hpup⟩, hfkey.symm.trans hkey,
      hfentry.symm.trans hentry⟩

theorem agreement_task_invariant (crates : Crates) :
    TaskInvariant .none crates fun w => Agreement crates w ∧ KeysDistinct w.db where
  switched w w' peer enabled h hcore hswitched :=
    ⟨switched_agrees h.1 h.2 hcore hswitched, h.2.of_cores (hswitched.frame hcore).1⟩
  counted w id bytes h := by
    refine ⟨agrees_of_columns (f := Db.setBandwidth id bytes) h.1 rfl (fun _ => List.mem_map)
      fun peer => ?_, h.2.of_cores Db.cores_record⟩
    unfold Db.setBandwidth
    split <;> exact ⟨rfl, rfl, rfl, rfl⟩
  stored w db row h hdb := by
    obtain ⟨hpeers, hinterfaces⟩ := Db.insert_snapshot_ok hdb
    refine ⟨agrees_of_columns (f := id) h.1 hinterfaces (fun peer => ?_)
      fun peer => ⟨rfl, rfl, rfl, rfl⟩, h.2.of_cores (by rw [Db.cores, hpeers]; rfl)⟩
    simp [hpeers]

/-! ## The interface service -/

/-- Only one interface and its device have changed. -/
theorem agrees_of_row (h : AgreeIn crates db devices) (hmem : iface ∈ db.interfaces.rows)
    (hothers : ∀ name, name ≠ iface.name → devices' name = devices name)
    (hpeers : ∀ id, id ≠ iface.id → db'.enabledPeers id = db.enabledPeers id)
    (hrows : ∀ row ∈ db'.interfaces.rows, row ∈ db.interfaces.rows ∧ row.id ≠ iface.id ∨
      row.id = iface.id ∧ row.name = iface.name ∧
        (row.status = .up → devices'.Shows crates iface.name (db'.enabledPeers iface.id))) :
    AgreeIn crates db' devices' := by
  intro row hrow hup
  rcases hrows row hrow with ⟨hrow, hne⟩ | ⟨hid, hname, hshows⟩
  · have hname : row.name ≠ iface.name := fun hname =>
      hne (congrArg Interface.id (Db.eq_of_name hrow hmem hname))
    rw [hpeers row.id hne]
    exact (h row hrow hup).congr (hothers row.name hname)
  · rw [hid, hname]
    exact hshows hup

/-- The peers that a device is configured with have distinct keys. -/
theorem KeysDistinct.nodup (h : KeysDistinct db) (id : Id InterfaceMarker) :
    (((db.peersOf id).filter (·.enabled)).map Peer.key).Nodup := by
  have hrows : ((db.peers.rows.filter (·.interfaceId = id)).map Peer.id).Nodup :=
    db.peers.nodup.sublist (List.filter_sublist.map _)
  refine List.Nodup.map_on ?_ ((nodup_map_sorted_by hrows).of_map.filter _)
  intro peer hpeer other hother hkey
  obtain ⟨hpeer, hpid⟩ := mem_peers_of.mp (List.mem_filter.mp hpeer).1
  obtain ⟨hother, hoid⟩ := mem_peers_of.mp (List.mem_filter.mp hother).1
  exact Table.eq_of_key hpeer hother (h.eq hpeer hother (hpid.trans hoid.symm) hkey)

/-- Configuring a device installs exactly the enabled peers. -/
theorem up_shows (hkeys : KeysDistinct db)
    (hconfigures : Plan.none.configures crates iface (db.peersOf iface.id) = true) :
    (Plan.none.up crates iface (db.peersOf iface.id) devices).Shows crates iface.name
      (db.enabledPeers iface.id) := by
  rcases Plan.up_none crates iface (db.peersOf iface.id) devices with
    ⟨hfails, _⟩ | ⟨_, privateKey, hup⟩
  · rw [hfails] at hconfigures
    cases hconfigures
  · rw [hup]
    refine (Devices.shows_configure (hkeys.nodup iface.id)).congr_peers fun peer => ?_
    simp [mem_peers_of, Db.enabledPeers, and_assoc]

/-- Bringing an interface up touches no other device. -/
theorem up_of_ne {l : List Peer} {name : String} (h : name ≠ iface.name) :
    Plan.none.up crates iface l devices name = devices name := by
  rcases Plan.up_none crates iface l devices with
    ⟨_, hup⟩ | ⟨_, privateKey, hup⟩
  · rw [hup]
  · rw [hup]
    exact Devices.configure_of_ne h

/-- The row of an interface has been written, and only its device has changed. -/
theorem agrees_of_update {now : DateTime} {new : Interface} (h : AgreeIn crates db devices)
    (hmem : iface ∈ db.interfaces.rows) (hid : new.id = iface.id)
    (hothers : ∀ name, name ≠ iface.name → devices' name = devices name)
    (hshows : new.status = .up → devices'.Shows crates iface.name (db.enabledPeers iface.id)) :
    AgreeIn crates (db.updateInterface new now) devices' := by
  refine agrees_of_row h hmem hothers (fun _ _ => rfl) fun row hrow => ?_
  rcases Db.mem_update_interface.mp hrow with ⟨hrow, hne⟩ | ⟨old, hold, hsame, rfl⟩
  · exact .inl ⟨hrow, hid ▸ hne⟩
  · rw [Db.eq_of_interface_id hold hmem (hsame.trans hid)]
    exact .inr ⟨hid, rfl, hshows⟩

theorem interface_created_agrees {input : CreateInterfaceInput}
    {result : Except CoreError Interface} (h : Agreement crates w)
    (hend : InterfaceService.Created .none crates w input result w') : Agreement crates w' := by
  cases hend with
  | rejected e => exact h
  | created row db key _ _ hstatus _ _ _ _ hdb =>
      obtain ⟨hfresh, hmem, hpeers⟩ := Db.insert_interface_ok hdb
      intro row' hrow' hup
      rcases (hmem row').mp hrow' with hrow' | rfl
      · have henabled : db.enabledPeers row'.id = w.db.enabledPeers row'.id := by
          rw [Db.enabledPeers, hpeers]
          rfl
        rw [henabled]
        exact (h row' hrow' hup).congr (Devices.create_of_ne (hfresh row' hrow').2)
      · rw [hstatus] at hup
        cases hup

theorem interface_stopped_agrees {id : Id InterfaceMarker} {result : Except CoreError Interface}
    (h : Agreement crates w) (hend : InterfaceService.Stopped .none w id result w') :
    Agreement crates w' := by
  cases hend with
  | absent e _ => exact h
  | refused e iface spawned _ hdown => cases hdown
  | unsaved e iface spawned _ _ hsaves => cases hsaves
  | saved iface spawned hread _ _ =>
      exact agrees_of_update h (Plan.read_interface_some hread).1 (iface.with_status_id .down)
        (fun name hname => Devices.remove_of_ne hname) (fun hup => nomatch hup)

theorem interface_deleted_agrees {id : Id InterfaceMarker} {result : Except CoreError Unit}
    (h : Agreement crates w) (hend : InterfaceService.Deleted .none w id result w') :
    Agreement crates w' := by
  cases hend with
  | absent e _ => exact h
  | kept e iface _ hdeletes => cases hdeletes
  | deleted iface hread _ =>
      obtain ⟨hmem, rfl⟩ := Plan.read_interface_some hread
      refine agrees_of_row h hmem (fun name hname => ?_) (fun id hid => ?_) fun row hrow =>
        .inl (Db.mem_delete_interface.mp hrow)
      · exact (Devices.remove_of_ne hname).trans (Devices.remove_of_ne hname)
      · ext peer
        simp only [Db.enabledPeers, Db.deleteInterface, Set.mem_ofPred_eq, Table.mem_filter]
        constructor
        · exact fun ⟨⟨hpeer, _⟩, hrest⟩ => ⟨hpeer, hrest⟩
        · rintro ⟨hpeer, rfl, henabled⟩
          exact ⟨⟨hpeer, by simpa using hid⟩, rfl, henabled⟩

theorem interface_updated_agrees {id : Id InterfaceMarker} {input : UpdateInterfaceInput}
    {result : Except CoreError Interface} (h : Agreement crates w) (hkeys : KeysDistinct w.db)
    (hend : InterfaceService.Updated .none crates w id input result w') : Agreement crates w' := by
  cases hend with
  | rejected e _ => exact h
  | idle old iface haccepted hstatus =>
      obtain ⟨hid, -, hsame, -⟩ := haccepted.row
      exact agrees_of_update h (Plan.read_interface_some haccepted.read).1 hid (fun _ _ => rfl)
        fun hup => absurd (hsame.symm.trans hup) hstatus
  | unlisted e old iface _ _ hlists => cases hlists
  | reapplied old iface net haccepted hstatus _ _ =>
      obtain ⟨hid, hname, -⟩ := haccepted.row
      have hmem := (Plan.read_interface_some haccepted.read).1
      rw [← hid]
      refine agrees_of_update h hmem hid (fun name hne => up_of_ne (hname ▸ hne)) fun _ => ?_
      -- A device that cannot be configured keeps the table it has.
      rcases Plan.up_none crates iface (w.db.peersOf iface.id) w.devices with
        ⟨_, hup⟩ | ⟨hconfigures, _⟩
      · rw [hup]
        exact h old hmem hstatus
      · rw [← hname, ← hid]
        exact up_shows hkeys hconfigures

/-- A start keeps the agreement unless it takes down a device whose interface stays up. -/
theorem interface_started_agrees {id : Id InterfaceMarker} {result : Except CoreError Interface}
    (h : Agreement crates w) (hkeys : KeysDistinct w.db)
    (hend : InterfaceService.Started .none crates w id result w') :
    Agreement crates w' ↔ ∀ iface, InterfaceService.Configured .none crates w id iface →
      iface.status = .up → Plan.none.acceptsConfigured w.env iface.gateway = true := by
  have hsame : ∀ {iface iface'}, InterfaceService.Configured .none crates w id iface →
      InterfaceService.Configured .none crates w id iface' → iface' = iface :=
    fun hconf hconf' => Option.some.inj (hconf'.read.symm.trans hconf.read)
  cases hend with
  | unconfigured e hnone =>
      exact iff_of_true h fun iface hconf => absurd hconf (hnone iface)
  | unrouted e iface _ hroutes => cases hroutes
  | unmasqueraded e iface spawned w' hconf _ hmasq =>
      have hmem := (Plan.read_interface_some hconf.read).1
      have hrefused : Plan.none.acceptsConfigured w.env iface.gateway = false := by
        rw [← Plan.masquerades_none w.env iface w.net]
        exact Bool.eq_false_iff.mpr fun htrue => nomatch hmasq.ok_iff.mpr htrue
      have hdevices : w'.devices =
          (Plan.none.up crates iface (w.db.peersOf iface.id) w.devices).remove iface.name := by
        cases hmasq <;> rfl
      rw [Agreement, hmasq.frame.1, hdevices]
      constructor
      · intro h' iface' hconf' hup
        rw [hsame hconf hconf'] at hup
        have := (h' iface hmem hup).has
        simp at this
      · intro hkeeps
        refine agrees_of_row h hmem (fun name hne => ?_) (fun _ _ => rfl) fun row hrow => ?_
        · exact (Devices.remove_of_ne hne).trans (up_of_ne hne)
        · by_cases hid : row.id = iface.id
          · rw [Db.eq_of_interface_id hrow hmem hid]
            refine .inr ⟨rfl, rfl, fun hup => ?_⟩
            have := hkeeps iface hconf hup
            rw [hrefused] at this
            cases this
          · exact .inl ⟨hrow, hid⟩
  | unsaved e iface spawned w' _ _ _ hsaves => cases hsaves
  | saved iface spawned w' hconf _ hmasq _ =>
      have hdevices : w'.devices = Plan.none.up crates iface (w.db.peersOf iface.id) w.devices := by
        cases hmasq <;> rfl
      have haccepts : Plan.none.acceptsConfigured w.env iface.gateway = true := by
        rw [← Plan.masquerades_none w.env iface w.net]
        exact hmasq.ok_iff.mp rfl
      rw [Agreement, hdevices]
      refine iff_of_true ?_ fun iface' hconf' _ => by rwa [hsame hconf hconf']
      exact agrees_of_update h (Plan.read_interface_some hconf.read).1 (iface.with_status_id .up)
        (fun name hne => up_of_ne hne) fun _ => up_shows hkeys hconf.configures

/-! ## Runs -/

/-- One operation or pass during which nothing fails. -/
theorem agreement_step {a : ServiceStep} (hplan : a.plan = .none) (hkeys : KeysDistinct w.db)
    (hkeys' : KeysDistinct (serviceStep crates w a).db) (h : Agreement crates w) :
    Agreement crates (serviceStep crates w a) ↔ KeepsAgreement crates w a := by
  rcases a with ⟨call, plan, env⟩
  obtain rfl : plan = .none := hplan
  have htasks := agreement_task_invariant crates
  cases call with
  | interface call =>
      have hseen : Agreement crates (w.seen env) := h
      have hend := ended crates w ⟨call, .none, env⟩
      change Agreement crates (interfaceStep crates w ⟨call, .none, env⟩) ↔ _
      generalize interfaceStep crates w ⟨call, .none, env⟩ = w' at hend ⊢
      generalize (InterfaceStep.outcome crates ⟨call, .none, env⟩ w).1 = result at hend
      cases hend with
      | create result hend => exact iff_of_true (interface_created_agrees hseen hend) trivial
      | start result hend => exact interface_started_agrees hseen hkeys hend
      | stop result hend => exact iff_of_true (interface_stopped_agrees hseen hend) trivial
      | update result hend => exact iff_of_true (interface_updated_agrees hseen hkeys hend) trivial
      | delete result hend => exact iff_of_true (interface_deleted_agrees hseen hend) trivial
  | createPeer input =>
      obtain ⟨result, w', heval, hend⟩ := PeerService.create_spec .none crates (w.seen env) input
      simp only [serviceStep, World.afterwards, heval] at hkeys' ⊢
      exact iff_of_true (peer_created_agrees (w := w.seen env) h hkeys' hend) trivial
  | updatePeer id input =>
      obtain ⟨result, w', heval, hend⟩ := PeerService.update_spec .none crates (w.seen env) id input
      simp only [serviceStep, World.afterwards, heval] at hkeys' ⊢
      exact iff_of_true (peer_updated_agrees (w := w.seen env) h hkeys hkeys' hend) trivial
  | setEnabled id enabled =>
      exact iff_of_true (htasks.set_enabled id enabled (w.seen env) ⟨h, hkeys⟩).1 trivial
  | deletePeer id =>
      obtain ⟨result, w', heval, hend⟩ := PeerService.delete_spec .none (w.seen env) id
      simp only [serviceStep, World.afterwards, heval]
      exact iff_of_true (peer_deleted_agrees (w := w.seen env) h hkeys hend) trivial
  | runOnce => exact iff_of_true (Scheduler.run_once_keeps htasks (w.seen env) ⟨h, hkeys⟩).1 trivial
  | pollOnce => exact iff_of_true (Poller.poll_once_keeps htasks (w.seen env) ⟨h, hkeys⟩).1 trivial

/-- In a run during which nothing fails and no interface has two peers with one public key, the
kernel agrees with the database in every state if and only if no interface that is up is started
again when its gateway is refused. -/
theorem agreement_iff (crates : Crates) (w : World) (run : List ServiceStep)
    (hplans : ∀ a ∈ run, a.plan = .none)
    (hkeys : Runs.Always (serviceStep crates) (fun w => KeysDistinct w.db) w run)
    (h : Agreement crates w) :
    Runs.Always (serviceStep crates) (Agreement crates) w run ↔
      Runs.EachStep (serviceStep crates) (KeepsAgreement crates) w run := by
  refine Runs.always_iff_each_step (fun s a hok h hkeeps => ?_) (fun s a hok h hbreak hnext => ?_)
    ((Runs.EachStep.of_mem hplans).and (hkeys.each_step.and hkeys.each_next)) h
  · exact (agreement_step hok.1 hok.2.1 hok.2.2 h).mpr hkeeps
  · exact hbreak ((agreement_step hok.1 hok.2.1 hok.2.2 h).mp hnext)

/-- An interface with a peer runs, and is started again after its gateway has disappeared from the
host. -/
def gatewayGoneWithPeer : List ServiceStep :=
  let env := (World.fresh ["eth0"]).env
  [⟨.interface (.create (.plain "wg0" (some "eth0") none)), .none, env⟩,
    ⟨.createPeer (.plain "laptop" ⟨0⟩ (some [.single (ipv4 10 7 0 2)])), .none, env⟩,
    ⟨.interface (.start ⟨0⟩), .none, env⟩,
    ⟨.interface (.start ⟨0⟩), .none, (World.fresh []).env⟩]

theorem gateway_gone_plans : ∀ a ∈ gatewayGoneWithPeer, a.plan = .none := by
  simp [gatewayGoneWithPeer]

theorem gateway_gone_keys :
    Runs.Always (serviceStep .transparent) (fun w => KeysDistinct w.db) (.fresh ["eth0"])
      gatewayGoneWithPeer := by
  simp only [gatewayGoneWithPeer, Runs.Always]
  decide +kernel

/-- A fresh installation has no interface that could disagree. -/
theorem agreement_fresh (crates : Crates) (links : List String) :
    Agreement crates (.fresh links) :=
  fun _ hrow => absurd hrow List.not_mem_nil

theorem Agreement.has (h : Agreement crates w) :
    ∀ row ∈ w.db.interfaces.rows, row.status = .up → w.devices.has row.name = true :=
  fun row hrow hup => (h row hrow hup).has

theorem gateway_gone_device :
    let last := Runs.after (serviceStep .transparent) (.fresh ["eth0"]) gatewayGoneWithPeer
    ¬ ∀ row ∈ last.db.interfaces.rows, row.status = .up → last.devices.has row.name = true := by
  decide +kernel

/-- The interface is still up and has an enabled peer, and there is no device. -/
theorem agreement_lost :
    (∀ a ∈ gatewayGoneWithPeer, a.plan = .none) ∧
      Runs.Always (serviceStep .transparent) (fun w => KeysDistinct w.db) (.fresh ["eth0"])
        gatewayGoneWithPeer ∧
      Agreement .transparent (.fresh ["eth0"]) ∧
      ¬ Runs.Always (serviceStep .transparent) (Agreement .transparent) (.fresh ["eth0"])
        gatewayGoneWithPeer := by
  exact ⟨gateway_gone_plans, gateway_gone_keys, agreement_fresh _ _,
    fun h => gateway_gone_device h.last.has⟩

theorem agreement_iff_fresh :
    Runs.Always (serviceStep .transparent) (Agreement .transparent) (.fresh ["eth0"])
        gatewayGoneWithPeer ↔
      Runs.EachStep (serviceStep .transparent) (KeepsAgreement .transparent) (.fresh ["eth0"])
        gatewayGoneWithPeer :=
  agreement_iff _ _ _ gateway_gone_plans gateway_gone_keys (agreement_fresh _ _)

end Wireforge
