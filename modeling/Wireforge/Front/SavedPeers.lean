import Wireforge.Front.AllowedIps
import Wireforge.Front.Recorded
import Wireforge.Lifecycle.Failures
import Wireforge.Web.Fields

/-!
# Saving an unchanged peer form

The page of a peer shows the fields of its row as texts. `Peer.Shown` says which rows come back
unchanged when the form is submitted as it was shown, and `shown_run` that the pages store no
others. The kernel is another matter: a disabled peer is removed from it once more, by its key,
which may be the key of another peer. `saved_unchanged_iff` shows that nothing else goes wrong.
-/

namespace Wireforge

open Effect DefguardAdapter

variable {crates : WebCrates} {server : Server}

/-! ## Rows that the page can show -/

/-- The fields of a row are shown and read back as they are. -/
structure Peer.Shown (crates : Crates) (peer : Peer) : Prop where
  name : FieldText peer.name
  addressed : peer.allowedIps ≠ []
  primaryDns : ∀ text ∈ peer.primaryDns, Routes.Peers.DnsText text
  secondaryDns : ∀ text ∈ peer.secondaryDns, Routes.Peers.DnsText text
  key : ∀ sealed ∈ peer.privateKeySealed,
    ∃ key : WgPrivateKey, crates.seal key.asStr.toUTF8 = .ok sealed

/-- All rows can be shown. -/
def AllShown (crates : Crates) (db : Db) : Prop :=
  ∀ peer ∈ db.peers.rows, peer.Shown crates

/-- What the background tasks change is not shown. -/
theorem Peer.Shown.of_core {crates : Crates} {peer old : Peer} (h : old.Shown crates)
    (hcore : old.core = peer.core) : peer.Shown crates := by
  simp only [Peer.core, Peer.mk.injEq] at hcore
  obtain ⟨-, -, hname, -, hsealed, -, hips, hprimary, hsecondary, -⟩ := hcore
  exact ⟨hname ▸ h.name, hips ▸ h.addressed, hprimary ▸ h.primaryDns, hsecondary ▸ h.secondaryDns,
    hsealed ▸ h.key⟩

theorem all_shown_invariant (crates : Crates) : PeerInvariant (AllShown crates) where
  subset _ _ h hsub peer hpeer := h peer (hsub peer hpeer)
  cores db db' h hcores peer hpeer := by
    have hcore : peer.core ∈ db'.cores := List.mem_map_of_mem hpeer
    rw [hcores] at hcore
    obtain ⟨old, hold, heq⟩ := List.mem_map.mp hcore
    exact (h old hold).of_core heq

/-- The form of a new peer asks for fields that can be shown. -/
theorem web_create_input_shown {user : AuthUser} {form : PeerForm} {input : CreatePeerInput}
    (h : Routes.Peers.createInput crates user form = .ok input) :
    Text.trim input.name = input.name ∧
      (∀ text ∈ input.primaryDns, Routes.Peers.DnsText text) ∧
      ∀ text ∈ input.secondaryDns, Routes.Peers.DnsText text := by
  obtain ⟨id, -, h⟩ := Outcome.bind_ok.mp h
  obtain ⟨nets, -, h⟩ := Outcome.bind_ok.mp h
  obtain ⟨keepalive, -, h⟩ := Outcome.bind_ok.mp h
  obtain ⟨primary, hprimary, h⟩ := Outcome.bind_ok.mp h
  obtain ⟨secondary, hsecondary, h⟩ := Outcome.bind_ok.mp h
  obtain rfl := Except.ok.inj h
  exact ⟨Text.trim_trim _, Routes.Peers.dns_text_of_parse hprimary,
    Routes.Peers.dns_text_of_parse hsecondary⟩

/-- So does the form of an existing peer. -/
theorem web_update_input_shown {form : PeerEditForm} {input : UpdatePeerInput}
    (h : Routes.Peers.updateInput crates form = .ok input) :
    Text.trim input.name = input.name ∧
      (∀ text ∈ input.primaryDns, Routes.Peers.DnsText text) ∧
      ∀ text ∈ input.secondaryDns, Routes.Peers.DnsText text := by
  obtain ⟨nets, -, h⟩ := Outcome.bind_ok.mp h
  obtain ⟨keepalive, -, h⟩ := Outcome.bind_ok.mp h
  obtain ⟨primary, hprimary, h⟩ := Outcome.bind_ok.mp h
  obtain ⟨secondary, hsecondary, h⟩ := Outcome.bind_ok.mp h
  obtain ⟨id, -, h⟩ := Outcome.bind_ok.mp h
  obtain rfl := Except.ok.inj h
  exact ⟨Text.trim_trim _, Routes.Peers.dns_text_of_parse hprimary,
    Routes.Peers.dns_text_of_parse hsecondary⟩

/-- A peer that is created with such fields can be shown. -/
theorem PeerService.Inserts.shown {plan : Plan} {crates : Crates} {w : World}
    {input : CreatePeerInput} {iface : Interface} {row : Peer}
    (h : Inserts plan crates w input iface row) (hname : Text.trim input.name = input.name)
    (hprimary : ∀ text ∈ input.primaryDns, Routes.Peers.DnsText text)
    (hsecondary : ∀ text ∈ input.secondaryDns, Routes.Peers.DnsText text) : row.Shown crates := by
  have hnamed := h.named
  rw [hname] at hnamed
  have hfields : row.name = input.name ∧ row.primaryDns = input.primaryDns ∧
      row.secondaryDns = input.secondaryDns := by
    rw [← h.fields]
    exact ⟨rfl, rfl, rfl⟩
  constructor
  · rw [hfields.1]
    exact ⟨hnamed, hname⟩
  · exact allocate_ne_nil h.allowed
  · rw [hfields.2.1]
    exact hprimary
  · rw [hfields.2.2]
    exact hsecondary
  · intro sealed hsealed
    rcases new_keys_ok h.keys with hnone | ⟨key, sealed', hseal, -, hsome⟩
    · rw [hnone] at hsealed
      cases hsealed
    · obtain rfl := Option.some.inj (hsome.symm.trans hsealed)
      exact ⟨key, hseal⟩

/-- An edit succeeds only with a name. -/
theorem PeerService.update_named {plan : Plan} {crates : Crates} {w w' : World}
    {id : Id PeerMarker} {input : UpdatePeerInput} {row : Peer}
    (h : eval (handle plan) (update crates id input) w = (.ok row, w')) :
    (Text.trim input.name).isEmpty = false := by
  unfold update at h
  rw [eval_ite] at h
  split_ifs at h with hblank
  · cases h
  · simpa using hblank

/-- A row that is edited with such fields can be shown. -/
theorem rekeyed_shown {crates : Crates} {input : UpdatePeerInput} {old row : Peer}
    {newPrivate newPublic : String} (h : old.Shown crates)
    (hrow : PeerService.rekeyed crates (input.edit old) newPrivate newPublic = .ok row)
    (hname : FieldText input.name) (hnets : input.allowedIps ≠ [])
    (hprimary : ∀ text ∈ input.primaryDns, Routes.Peers.DnsText text)
    (hsecondary : ∀ text ∈ input.secondaryDns, Routes.Peers.DnsText text) : row.Shown crates := by
  rcases PeerService.rekeyed_cases hrow with rfl | ⟨publicKey, rfl⟩ | ⟨key, sealed, hseal, rfl⟩
  · exact ⟨hname, hnets, hprimary, hsecondary, h.key⟩
  · exact ⟨hname, hnets, hprimary, hsecondary, nofun⟩
  · refine ⟨hname, hnets, hprimary, hsecondary, fun sealed' hsealed => ⟨key, ?_⟩⟩
    obtain rfl := Option.some.inj hsealed
    exact hseal

/-- An operation that the pages ask for keeps the rows such that they can be shown. -/
theorem shown_step {w : World} {a : ServiceStep} {user : AuthUser} {route : WebRoute}
    (h : AllShown crates.toCrates w.db) (hasks : route.Asks crates user a.call) :
    AllShown crates.toCrates (serviceStep crates.toCrates w a).db := by
  rcases a with ⟨call, plan, env⟩
  have hother : (∀ input, call ≠ .createPeer input) → (∀ id input, call ≠ .updatePeer id input) →
      AllShown crates.toCrates (serviceStep crates.toCrates w ⟨call, plan, env⟩).db := by
    intro hcreate hupdate
    exact (all_shown_invariant crates.toCrates).step crates.toCrates w ⟨call, plan, env⟩ h
      (fun input hcall => absurd hcall (hcreate input))
      fun id input hcall => absurd hcall (hupdate id input)
  cases hasks with
  | @createPeer form input hinput =>
      obtain ⟨hname, hprimary, hsecondary⟩ := web_create_input_shown hinput
      rcases PeerService.eval_create_iff plan crates.toCrates (w.seen env) input with
        ⟨iface, row, db, hrow, hdb, heval⟩ | ⟨-, e, heval⟩ <;>
        simp only [serviceStep, World.afterwards, heval]
      · intro peer hpeer
        rw [(Db.insert_peer_ok hdb).2.1, List.mem_append, List.mem_singleton] at hpeer
        rcases hpeer with hpeer | rfl
        · exact h peer hpeer
        · exact hrow.shown hname hprimary hsecondary
      · exact h
  | @editPeer path id form input hid hinput =>
      obtain ⟨hname, hprimary, hsecondary⟩ := web_update_input_shown hinput
      obtain ⟨result, w', heval, hend⟩ :=
        PeerService.update_spec plan crates.toCrates (w.seen env) ⟨id⟩ input
      simp only [serviceStep, World.afterwards, heval]
      cases hend with
      | rejected e => exact h
      | updated old row target db hread _ _ hrekeyed hdb =>
          have hnamed := PeerService.update_named heval
          rw [hname] at hnamed
          have hrow := rekeyed_shown (h old (Plan.read_peer_some hread).1) hrekeyed
            ⟨hnamed, hname⟩ (web_update_input_ne_nil hinput) hprimary hsecondary
          intro peer hpeer
          rw [(Db.update_peer_ok hdb).1] at hpeer
          obtain ⟨before, hbefore, rfl⟩ := List.mem_map.mp hpeer
          unfold Db.setPeer
          split
          · exact ⟨hrow.name, hrow.addressed, hrow.primaryDns, hrow.secondaryDns, hrow.key⟩
          · exact h before hbefore
  | _ => exact hother (fun _ h => by cases h) fun _ _ h => by cases h

/-- The request is not one of the REST API. -/
def Request.IsWeb : Request → Prop
  | api _ _ => False
  | _ => True

/-- In every run of web requests from a site without peers, the rows can be shown and no address
has two peers. -/
theorem shown_run (server : Server) (s : Site) (run : List Served)
    (hempty : s.host.db.peers.rows = []) (hweb : ∀ a ∈ run, a.request.IsWeb) :
    Runs.Always (serveStep server)
      (fun s => AllShown server.crates.toCrates s.host.db ∧ UniqueAddresses s.host.db) s run := by
  refine Runs.always_of_each_step (fun s a h hguard => ?_) ?_ (Runs.EachStep.of_mem hweb)
  · refine front_keeps
      (fun w => AllShown server.crates.toCrates w.db ∧ UniqueAddresses w.db) (fun _ _ h => h)
      (fun call hasks h => ⟨?_, unique_addresses_step server.crates.toCrates _ _ h.2⟩) h
    obtain ⟨user, -, hasks⟩ := hasks
    rcases a with ⟨request, moment⟩
    cases request with
    | visit | health => exact hasks.elim
    | web session route => exact shown_step h.1 hasks.2
    | api credentials route => exact hguard.elim
  · constructor
    · intro peer hpeer
      rw [hempty] at hpeer
      cases hpeer
    · intro peer hpeer
      rw [hempty] at hpeer
      cases hpeer

/-! ## The form -/

/-- A form that is submitted as it was shown: a checked box sends `on`, another one nothing. -/
def PeerEditFormState.submitted (state : PeerEditFormState) : PeerEditForm where
  name := state.name
  interfaceId := state.interfaceId
  allowedIps := state.allowedIps
  primaryDns := state.primaryDns
  secondaryDns := state.secondaryDns
  nat := if state.nat then some "on" else none
  persistentKeepalive := state.persistentKeepalive
  publicKey := state.publicKey
  privateKey := state.privateKey
  enabled := if state.enabled then some "on" else none

/-- The edit that changes nothing. -/
def Peer.unchanged (crates : Crates) (peer : Peer) : UpdatePeerInput where
  name := peer.name
  interfaceId := peer.interfaceId
  allowedIps := peer.allowedIps
  primaryDns := peer.primaryDns
  secondaryDns := peer.secondaryDns
  nat := peer.nat
  persistentKeepalive := peer.persistentKeepalive
  enabled := peer.enabled
  publicKey := peer.publicKey.asStr
  privateKey := (peer.privateKeySealed.map crates.unsealText).getD ""

/-- The libraries read back what the page shows of a peer. -/
structure ReadsBack (crates : WebCrates) (peer : Peer) : Prop where
  id : crates.parseUuid peer.id.display = some peer.id.value
  interface : crates.parseUuid peer.interfaceId.display = some peer.interfaceId.value
  nets : ∀ net ∈ peer.allowedIps, crates.parseIpNet net.display = some net

/-- The text of a private key that was sealed. -/
theorem unseal_text_sealed {crates : Crates} {key : WgPrivateKey} {sealed : ByteArray}
    (hcrates : crates.SealsBack) (h : crates.seal key.asStr.toUTF8 = .ok sealed) :
    crates.unsealText sealed = key.asStr := by
  rw [Crates.unsealText, Crates.unseal_seal hcrates h]
  exact congrArg (·.getD "") (Text.from_utf8_to_utf8 key.asStr)

/-- The private key that the page shows has nothing to trim. -/
theorem trim_revealed {crates : Crates} {peer : Peer} (h : peer.Shown crates)
    (hcrates : crates.SealsBack) :
    Text.trim ((peer.privateKeySealed.map crates.unsealText).getD "") =
      (peer.privateKeySealed.map crates.unsealText).getD "" := by
  cases hsealed : peer.privateKeySealed with
  | none => exact (by decide : Text.trim "" = "")
  | some sealed =>
      obtain ⟨key, hseal⟩ := h.key sealed hsealed
      show Text.trim (crates.unsealText sealed) = crates.unsealText sealed
      rw [unseal_text_sealed hcrates hseal]
      exact (PlainText.key key.inner).trim

/-- The form that is submitted as it was shown asks for the edit that changes nothing. -/
theorem update_input_unchanged {peer : Peer} (h : peer.Shown crates.toCrates)
    (hcrates : crates.toCrates.SealsBack) (hreads : ReadsBack crates peer) :
    Routes.Peers.updateInput crates (Routes.Peers.editState crates peer).submitted =
      .ok (peer.unchanged crates.toCrates) := by
  have hnets : Routes.Peers.requireAllowed crates (displayNets peer.allowedIps) =
      .ok peer.allowedIps := Routes.Peers.require_allowed_shown h.addressed hreads.nets
  have hkeepalive := Routes.Peers.parse_keepalive_shown peer.persistentKeepalive
  have hprimary := Routes.Peers.parse_dns_shown h.primaryDns
  have hsecondary := Routes.Peers.parse_dns_shown h.secondaryDns
  have hinterface := Routes.Peers.parse_interface_shown hreads.interface
  have hnat : (if peer.nat then some "on" else none).isSome = peer.nat := by
    cases peer.nat <;> rfl
  have henabled : decide ((if peer.enabled then some "on" else none) = some "on") =
      peer.enabled := by
    cases peer.enabled <;> rfl
  have hpublic : Text.trim peer.publicKey.asStr = peer.publicKey.asStr :=
    (PlainText.key peer.publicKey.inner).trim
  simp only [Routes.Peers.updateInput, Routes.Peers.editState, PeerEditFormState.submitted,
    Routes.Peers.revealPrivateKey, hnets, hkeepalive, hprimary, hsecondary, hinterface, hpublic,
    h.name.2, trim_revealed h hcrates]
  refine congrArg Except.ok ?_
  simp only [Peer.unchanged, UpdatePeerInput.mk.injEq, true_and, and_true]
  exact ⟨hnat, henabled⟩

theorem rekeyed_unchanged {crates : Crates} {peer : Peer} (h : peer.Shown crates)
    (hcrates : crates.SealsBack) :
    PeerService.rekeyed crates peer (Text.trim (peer.unchanged crates).privateKey)
      (Text.trim (peer.unchanged crates).publicKey) = .ok peer := by
  have hpublic : Text.trim peer.publicKey.asStr = peer.publicKey.asStr :=
    (PlainText.key peer.publicKey.inner).trim
  show PeerService.rekeyed crates peer
    (Text.trim ((peer.privateKeySealed.map crates.unsealText).getD ""))
    (Text.trim peer.publicKey.asStr) = .ok peer
  rw [trim_revealed h hcrates, hpublic]
  simp [PeerService.rekeyed]

/-! ## The kernel -/

section Kernel

variable {plan : Plan} {crates : Crates} {db db' : Db} {devices : Devices} {peer : Peer}
  {target : Interface} {now : DateTime} {name : String} {peers : Set Peer}

/-- Saving a disabled peer takes the entry of another one: their interface is up and shows its
enabled peers, the removal gets through, and an enabled peer has the same key. -/
structure Evicts (plan : Plan) (crates : Crates) (db : Db) (devices : Devices) (peer : Peer)
    (target : Interface) : Prop where
  disabled : peer.enabled = false
  up : target.status = .up
  agrees : devices.Shows crates target.name (db.enabledPeers target.id)
  removes : plan.opens target.name = true ∧ plan.error (.removePeer target.name peer.key) = none
  shared : ∃ other ∈ db.enabledPeers target.id, other.key = peer.key

/-- A row that is written back keeps its entry. -/
theorem entries_saved (hdb : db.updatePeer peer now = .ok db') (hpeer : peer ∈ db.peers.rows)
    (id : Id InterfaceMarker) :
    Peer.wgPeer crates '' db'.enabledPeers id = Peer.wgPeer crates '' db.enabledPeers id := by
  have hdb' : db.updatePeer { peer with enabled := peer.enabled } now = .ok db' := hdb
  ext v
  rw [mem_entries_switched hdb' hpeer, mem_entries hpeer]

/-- Installing a peer that is shown changes nothing. -/
theorem Devices.Shows.set_peer_self (h : devices.Shows crates name peers) (hpeer : peer ∈ peers) :
    devices.setPeer name peer.key (some (peer.wgPeer crates)) = devices := by
  obtain ⟨device, hdevice, hmirrors⟩ := h
  have hentry : device.peers peer.key = some (peer.wgPeer crates) :=
    (hmirrors _ _).mpr ⟨peer, hpeer, rfl, rfl⟩
  unfold Devices.setPeer
  rw [hdevice, Option.map_some, ← hentry, Function.update_eq_self, ← hdevice,
    Function.update_eq_self]

theorem pushed_of_ne {other : String} (h : other ≠ target.name) :
    plan.pushed crates target peer devices other = devices other := by
  unfold Plan.pushed Plan.installed Plan.uninstalled
  split_ifs
  · exact Devices.set_peer_of_ne h
  · rfl
  · exact Devices.set_peer_of_ne h
  · rfl

/-- The devices still show the enabled peers after a row has been saved, unless this takes the
entry of another peer. -/
theorem saved_agrees_iff (hmem : target ∈ db.interfaces.rows)
    (htarget : peer.interfaceId = target.id) (hpeer : peer ∈ db.peers.rows)
    (hdb : db.updatePeer peer now = .ok db') :
    (∀ iface ∈ db.interfaces.rows, iface.status = .up →
      devices.Shows crates iface.name (db.enabledPeers iface.id) →
        (plan.pushed crates target peer devices).Shows crates iface.name
          (db'.enabledPeers iface.id)) ↔
      ¬ Evicts plan crates db devices peer target := by
  have hkept : ∀ {devices : Devices} {iface : Interface},
      devices.Shows crates iface.name (db.enabledPeers iface.id) →
        devices.Shows crates iface.name (db'.enabledPeers iface.id) :=
    fun h => h.iff_entries.mpr (entries_saved hdb hpeer _).symm
  constructor
  · intro hall h
    have hremoved : plan.pushed crates target peer devices =
        devices.setPeer target.name peer.key none := by
      have hopens : (plan.opens target.name && (plan.error (.removePeer target.name
          peer.publicKey.key)).isNone) = true := by
        rw [Bool.and_eq_true, Option.isNone_iff_eq_none]
        exact h.removes
      unfold Plan.pushed Plan.uninstalled
      rw [if_neg (by simp [h.disabled]), if_pos hopens]
      rfl
    have hshows := hall target hmem h.up h.agrees
    rw [hremoved] at hshows
    have hentries := (h.agrees.uninstall peer.key).iff_entries.mp hshows
    rw [entries_saved hdb hpeer] at hentries
    obtain ⟨other, hother, hkey⟩ := h.shared
    -- the entry of the other peer is gone
    obtain ⟨shown, ⟨-, hne⟩, heq⟩ := hentries ▸ Set.mem_image_of_mem (Peer.wgPeer crates) hother
    exact hne ((congrArg WgPeer.publicKey heq).trans hkey)
  · intro hnot iface hiface hup hshows
    by_cases hsame : iface = target
    · subst hsame
      unfold Plan.pushed
      split
      next henabled =>
        unfold Plan.installed
        split
        · have hself : devices.setPeer iface.name peer.publicKey.key (some (peer.wgPeer crates)) =
              devices := hshows.set_peer_self ⟨hpeer, htarget, henabled⟩
          rw [hself]
          exact hkept hshows
        · exact hkept hshows
      next hdisabled =>
        unfold Plan.uninstalled
        split
        next hremoves =>
          rw [Bool.and_eq_true, Option.isNone_iff_eq_none] at hremoves
          refine hkept ((hshows.uninstall peer.key).congr_peers fun other =>
            and_iff_left_of_imp fun hother hkey => hnot ?_)
          exact ⟨by simpa using hdisabled, hup, hshows, hremoves, other, hother, hkey⟩
        next => exact hkept hshows
    · have hname : iface.name ≠ target.name :=
        fun hname => hsame (Db.eq_of_name hiface hmem hname)
      exact (hkept hshows).congr (pushed_of_ne hname)

end Kernel

/-! ## The page -/

/-- Addresses that no other peer has are free. -/
theorem ensure_no_conflict_free {want : List IpNet} {existing : List Peer}
    (h : ∀ ip ∈ want, ∀ peer ∈ existing, ip ∉ peer.allowedIps) :
    ensureNoConflict want existing = .ok () := by
  have hnone : want.find? (fun ip => ip ∈ existing.flatMap (·.allowedIps)) = none := by
    refine List.find?_eq_none.mpr fun ip hip hmem => ?_
    obtain ⟨peer, hpeer, hnet⟩ := List.mem_flatMap.mp (of_decide_eq_true hmem)
    exact h ip hip peer hpeer hnet
  rw [ensureNoConflict, hnone]

/-- Nothing stands in the way of writing a row back as it is. -/
theorem unchanged_edits {plan : Plan} {crates : Crates} {w : World} {peer : Peer}
    (hstatements : ∀ c, c.isStatement = true → plan.error c = none)
    (hcrates : crates.SealsBack) (hshown : peer.Shown crates) (hunique : UniqueAddresses w.db)
    (hpeer : peer ∈ w.db.peers.rows) :
    ∃ target db, target ∈ w.db.interfaces.rows ∧ peer.interfaceId = target.id ∧
      PeerService.Edits plan crates w peer.id (peer.unchanged crates) peer peer target db := by
  obtain ⟨target, htarget⟩ := Option.isSome_iff_exists.mp (w.db.references peer hpeer)
  obtain ⟨hmem, hid⟩ := Table.find_eq_some.mp htarget
  obtain ⟨db, hdb⟩ := Db.update_peer_exists (w.db.references peer hpeer) w.env.now
  refine ⟨target, db, hmem, hid.symm, ?_⟩
  constructor
  · rw [show (peer.unchanged crates).name = peer.name from rfl, hshown.name.2]
    exact hshown.name.1
  · rw [Plan.readPeer, hstatements _ rfl]
    exact Table.find_of_mem hpeer
  · rw [Plan.readInterface, hstatements _ rfl]
    exact htarget
  · rw [Plan.listsPeers, hstatements _ rfl]
    rfl
  · refine ensure_no_conflict_free fun ip hip other hother => ?_
    rw [List.mem_filter, mem_peers_of, decide_eq_true_eq] at hother
    obtain ⟨⟨hother, hsame⟩, hne⟩ := hother
    exact hunique peer hpeer other hother (Ne.symm hne) hsame.symm ip hip
  · exact rekeyed_unchanged hshown hcrates
  · exact hstatements _ rfl
  · exact hdb

namespace Routes.Peers

variable {outage : Outage} {s s' : Site} {session : SessionId} {user : AuthUser} {peer : Peer}

/-- The page of a peer comes up if the repositories can be read. -/
theorem eval_edit_page {page : Moment} (hid : crates.parseUuid peer.id.display = some peer.id.value)
    (hpeer : peer ∈ s.host.db.peers.rows)
    (hstatements : ∀ c, c.isStatement = true → page.outage.host.error c = none) :
    ∃ flash choices shown, eval (serve page.outage)
        (editPage crates session user peer.id.display) (s.seen page) =
      (.ok (.html 200
        (.editPeer user flash none peer.id.display (editState crates peer) choices)), shown) := by
  have hfound : eval (serve page.outage) (findPeer peer.id) (s.seen page) =
      (.ok peer, s.seen page) := by
    refine eval_bind_ok.mpr ⟨some peer, s.seen page, ?_, rfl⟩
    have hfind : (s.seen page).host.db.peers.find peer.id = some peer := Table.find_of_mem hpeer
    rw [Web.service, Web.eval_repo_ok, Web.host, eval_embed (site_embedding_acts page.outage),
      SqlitePeerRepository.eval_find_by_id, Plan.outcome, hstatements _ rfl, hfind]
    rfl
  obtain ⟨interfaces, hlist⟩ : ∃ interfaces, eval (serve page.outage)
      (Web.service SqliteInterfaceRepository.list) (s.seen page) =
        (.ok interfaces, s.seen page) := by
    refine ⟨sortedBy Interface.name s.host.db.interfaces.rows, ?_⟩
    rw [Web.service, Web.eval_repo_ok, Web.host, eval_embed (site_embedding_acts page.outage),
      SqliteInterfaceRepository.eval_list, Plan.outcome, hstatements _ rfl]
    rfl
  obtain ⟨flash, shown, hflash⟩ := Web.eval_take_flash page.outage session (s.seen page)
  refine ⟨flash, options interfaces, shown, ?_⟩
  unfold editPage
  rw [eval_bind, Web.eval_parse_id hid]
  simp only
  rw [eval_bind, hfound]
  simp only
  rw [eval_bind, hlist]
  simp only
  rw [eval_bind, hflash]
  rfl

/-- The page of a peer shows the fields of its row. -/
theorem edit_page_shows {viewer : AuthUser} {flash : Option Flash} {shown path : String}
    {form : PeerEditFormState} {choices : List InterfaceOption}
    (hpath : crates.parseUuid path = some peer.id.value) (hpeer : peer ∈ s.host.db.peers.rows)
    (h : eval (serve outage) (editPage crates session user path) s =
      (.ok (.html 200 (.editPeer viewer flash none shown form choices)), s')) :
    form = editState crates peer := by
  obtain ⟨id, s₁, hid, h⟩ := eval_bind_ok.mp h
  obtain ⟨found, s₂, hfound, h⟩ := eval_bind_ok.mp h
  obtain ⟨interfaces, s₃, -, h⟩ := eval_bind_ok.mp h
  obtain ⟨message, s₄, -, hanswer⟩ := eval_bind_ok.mp h
  obtain ⟨rfl, rfl⟩ : peer.id = id ∧ s = s₁ := by
    rw [Web.eval_parse_id hpath] at hid
    cases hid
    exact ⟨rfl, rfl⟩
  -- the row is the one that is found
  obtain ⟨row, s₆, hrow, hfound⟩ := eval_bind_ok.mp hfound
  obtain ⟨rfl, rfl⟩ := Web.eval_or_fail_ok.mp hfound
  obtain rfl : peer = found := by
    have hvalue :=
      (Web.service_read_ok (fun _ => SqlitePeerRepository.eval_find_by_id peer.id) hrow).1
    rw [Table.find_of_mem hpeer] at hvalue
    exact (Option.some.inj hvalue).symm
  cases hanswer
  rfl

/-- A row that is written back is saved: the page goes on to the list. -/
theorem eval_edit_saved {form : PeerEditForm} {path : String} {input : UpdatePeerInput}
    {row : Peer} {target : Interface} {db : Db} (hmutate : user.role.canMutate = true)
    (hpath : crates.parseUuid path = some peer.id.value)
    (hinput : updateInput crates form = .ok input)
    (h : PeerService.Edits outage.host crates.toCrates s.host peer.id input peer row target db) :
    (eval (serve outage) (edit crates session user path form) s).1 = .ok (.redirect "/peers") ∧
      (eval (serve outage) (edit crates session user path form) s).2.host = { s.host with
        db
        devices := outage.host.pushed crates.toCrates target row
          (outage.host.unstaled db peer row target s.host.devices) } := by
  unfold edit AuthUser.requireMutate
  rw [if_pos hmutate, eval_bind, eval_pure]
  simp only
  rw [eval_bind, Web.eval_parse_id hpath]
  simp only [hinput]
  rw [eval_bind, Web.eval_attempt_host, h.eval]
  simp only
  rw [eval_bind, Web.setFlash, Web.sessionInsert, eval_ignore]
  refine ⟨rfl, ?_⟩
  -- the message of the next page is kept in the session
  have hflash : Permitted .none
      (Web.setFlash session (Web.flashSuccess s!"Peer '{row.name}' updated")) :=
    Web.session_insert_permitted session .flash _
  exact hflash.host rfl outage { s with host := { s.host with db, devices := _ } }

/-- What saving a peer as it is shown should do: the page goes on to the list, nothing in the row
is new but the time of the change, and the interfaces that are up and showed their enabled peers
go on to show them. -/
structure SavedUnchanged (crates : Crates) (s : Site) (peer : Peer)
    (answer : Except (Stop WebError) Response) (s' : Site) : Prop where
  answered : answer = .ok (.redirect "/peers")
  row : s'.host.db.peers.find peer.id = some { peer with updatedAt := s.host.env.now }
  agrees : ∀ iface ∈ s.host.db.interfaces.rows, iface.status = .up →
    s.host.devices.Shows crates iface.name (s.host.db.enabledPeers iface.id) →
      s'.host.devices.Shows crates iface.name (s'.host.db.enabledPeers iface.id)

/-- Saving what the page shows of a row changes nothing, unless it takes the entry of another
peer. -/
theorem edit_unchanged_iff (hcrates : crates.toCrates.SealsBack)
    (hstatements : ∀ c, c.isStatement = true → outage.host.error c = none)
    (hmutate : user.role.canMutate = true) (hshown : peer.Shown crates.toCrates)
    (hunique : UniqueAddresses s.host.db) (hpeer : peer ∈ s.host.db.peers.rows)
    (hreads : ReadsBack crates peer) :
    let saved := eval (serve outage)
      (edit crates session user peer.id.display (editState crates peer).submitted) s
    SavedUnchanged crates.toCrates s peer saved.1 saved.2 ↔
      ∀ target, s.host.db.interfaces.find peer.interfaceId = some target →
        ¬ Evicts outage.host crates.toCrates s.host.db s.host.devices peer target := by
  intro saved
  obtain ⟨target, db, htarget, hown, hedits⟩ :=
    unchanged_edits hstatements hcrates hshown hunique hpeer
  obtain ⟨hanswer, hhost⟩ := @eval_edit_saved crates outage s session user peer _ _ _ peer target db
    hmutate hreads.id (update_input_unchanged hshown hcrates hreads) hedits
  have hunstaled : outage.host.unstaled db peer peer target s.host.devices = s.host.devices := by
    rw [Plan.unstaled, if_neg (not_not.mpr rfl), if_neg (not_not.mpr rfl)]
  rw [hunstaled] at hhost
  have hfind : s.host.db.interfaces.find peer.interfaceId = some target :=
    hown ▸ Table.find_of_mem htarget
  have hrow : db.peers.find peer.id = some { peer with updatedAt := s.host.env.now } := by
    rw [(Db.find_update_peer hedits.stored).1, Table.find_of_mem hpeer, Option.map_some,
      Db.setPeer, if_pos rfl]
  have hkernel := @saved_agrees_iff outage.host crates.toCrates s.host.db db s.host.devices peer
    target s.host.env.now htarget hown hpeer hedits.stored
  constructor
  · intro h target' htarget'
    obtain rfl := Option.some.inj (hfind.symm.trans htarget')
    refine hkernel.mp fun iface hiface hup hshows => ?_
    have hagrees := h.agrees iface hiface hup hshows
    rw [hhost] at hagrees
    exact hagrees
  · intro hnot
    refine ⟨hanswer, ?_, ?_⟩
    · rw [hhost]
      exact hrow
    · rw [hhost]
      exact hkernel.mpr (hnot target hfind)

/-- The page of a peer leaves the host as it is, so that it shows the row that is saved. -/
theorem shown_unchanged_iff {page save : Moment} {shown : Site} {viewer : AuthUser}
    {flash : Option Flash} {form : PeerEditFormState} {choices : List InterfaceOption}
    (hcrates : crates.toCrates.SealsBack) (hshown : AllShown crates.toCrates s.host.db)
    (hunique : UniqueAddresses s.host.db) (hpeer : peer ∈ s.host.db.peers.rows)
    (hreads : ReadsBack crates peer)
    (hpage : eval (serve page.outage) (editPage crates session user peer.id.display)
      (s.seen page) =
        (.ok (.html 200 (.editPeer viewer flash none peer.id.display form choices)), shown))
    (hmutate : user.role.canMutate = true)
    (hstatements : ∀ c, c.isStatement = true → save.outage.host.error c = none) :
    let saved := eval (serve save.outage)
      (edit crates session user peer.id.display form.submitted) (shown.seen save)
    SavedUnchanged crates.toCrates (shown.seen save) peer saved.1 saved.2 ↔
      ∀ target, s.host.db.interfaces.find peer.interfaceId = some target →
        ¬ Evicts save.outage.host crates.toCrates s.host.db s.host.devices peer target := by
  have hseen : peer ∈ (s.seen page).host.db.peers.rows := hpeer
  obtain rfl := edit_page_shows hreads.id hseen hpage
  have hviewed : Permitted .none (editPage crates session user peer.id.display) :=
    edit_page_permitted peer.id.display
  have hhost := hviewed.host rfl page.outage (s.seen page)
  rw [hpage] at hhost
  simp only at hhost
  have hdb : (shown.seen save).host.db = s.host.db := by
    show shown.host.db = (s.seen page).host.db
    rw [hhost]
  have hdevices : (shown.seen save).host.devices = s.host.devices := by
    show shown.host.devices = (s.seen page).host.devices
    rw [hhost]
  rw [← hdb, ← hdevices]
  rw [← hdb] at hpeer hshown hunique
  exact edit_unchanged_iff hcrates hstatements hmutate (hshown peer hpeer) hunique hpeer hreads

/-- After every run of web requests from a site without peers, saving what the page of a peer
shows, changes nothing exactly if it does not take the entry of another peer. -/
theorem saved_unchanged_iff (server : Server) (hcrates : server.crates.toCrates.SealsBack)
    (start : Site) (run : List Served) (hempty : start.host.db.peers.rows = [])
    (hweb : ∀ a ∈ run, a.request.IsWeb) (peer : Peer) (session : SessionId) (user : AuthUser)
    (page save : Moment) (s shown : Site) (viewer : AuthUser) (flash : Option Flash)
    (form : PeerEditFormState) (choices : List InterfaceOption)
    (hs : s = Runs.after (serveStep server) start run) (hpeer : peer ∈ s.host.db.peers.rows)
    (hreads : ReadsBack server.crates peer)
    (hpage : eval (serve page.outage) (editPage server.crates session user peer.id.display)
      (s.seen page) =
        (.ok (.html 200 (.editPeer viewer flash none peer.id.display form choices)), shown))
    (hmutate : user.role.canMutate = true)
    (hstatements : ∀ c, c.isStatement = true → save.outage.host.error c = none) :
    let saved := eval (serve save.outage)
      (edit server.crates session user peer.id.display form.submitted) (shown.seen save)
    SavedUnchanged server.crates.toCrates (shown.seen save) peer saved.1 saved.2 ↔
      ∀ target, s.host.db.interfaces.find peer.interfaceId = some target →
        ¬ Evicts save.outage.host server.crates.toCrates s.host.db s.host.devices peer target := by
  obtain ⟨hshown, hunique⟩ : AllShown server.crates.toCrates s.host.db ∧
      UniqueAddresses s.host.db := by
    rw [hs]
    exact Runs.always_iff_initial.mp (shown_run server start run hempty hweb) run List.prefix_rfl
  exact shown_unchanged_iff hcrates hshown hunique hpeer hreads hpage hmutate hstatements

/-- A server whose libraries read the identifiers and the networks of the next run. -/
def twinServer : Server :=
  let parseUuid (text : String) : Option Uuid :=
    if text = (Id.mk 0 : Id PeerMarker).display then some 0
    else if text = (Id.mk 1 : Id PeerMarker).display then some 1 else none
  let parseIpNet (text : String) : Option IpNet :=
    [IpNet.lab, .labHost 2, .labHost 3].find? (·.display = text)
  { Server.transparent with crates := { WebCrates.transparent with parseUuid, parseIpNet } }

/-- The form of a peer that brings a private key, the same for all of them. -/
def twinForm (name allowedIps : String) : PeerForm :=
  { PeerForm.plain name allowedIps with privateKey := encodeKey .zero }

/-- An interface and two peers with one key are created, and the second of them is disabled. -/
def twinRun : List Served :=
  let moment := Moment.calm auditedSite .inserted
  [⟨.web ⟨0⟩ (.createInterface (.plain "wg0" "10.7.0.0/24")), moment⟩,
    ⟨.web ⟨0⟩ (.createPeer (twinForm "laptop" "10.7.0.2/24")), moment⟩,
    ⟨.web ⟨0⟩ (.createPeer (twinForm "phone" "10.7.0.3/24")),
      { moment with env := { moment.env with uuid := 1 } }⟩,
    ⟨.web ⟨0⟩ (.togglePeer (Id.mk 1 : Id PeerMarker).display), moment⟩]

/-- The site after that run. -/
def twinSite : Site := Runs.after (serveStep twinServer) auditedSite twinRun

/-- The interface is started. -/
def twinStart : Served :=
  ⟨.web ⟨0⟩ (.startInterface (Id.mk 0 : Id InterfaceMarker).display), .calm auditedSite .inserted⟩

theorem twin_run_web : ∀ a ∈ twinRun ++ [twinStart], a.request.IsWeb := by
  intro a ha
  simp only [twinRun, List.cons_append, List.nil_append, List.mem_cons, List.not_mem_nil,
    or_false] at ha
  rcases ha with rfl | rfl | rfl | rfl | rfl <;> trivial

/-- The site after the interface has been started. -/
def twinUp : Site := serveStep twinServer twinSite twinStart

/-- What the two peers of the run differ in, and what they share. -/
structure TwinEntry where
  id : Id PeerMarker
  interfaceId : Id InterfaceMarker
  allowedIps : List IpNet
  enabled : Bool
  key : Key
  deriving DecidableEq

def twinEntry (peer : Peer) : TwinEntry :=
  ⟨peer.id, peer.interfaceId, peer.allowedIps, peer.enabled, peer.key⟩

/-- The entries of the two peers. -/
def twinEntries : List TwinEntry :=
  [⟨⟨0⟩, ⟨0⟩, [.labHost 2], true, .zero⟩, ⟨⟨1⟩, ⟨0⟩, [.labHost 3], false, .zero⟩]

/-- What the two tables hold before and after the start. -/
theorem twin_rows :
    twinSite.host.db.interfaces.rows.map (·.status) = [.down] ∧
      twinSite.host.db.peers.rows.map twinEntry = twinEntries ∧
      (((twinSite.host.db.peersOf ⟨0⟩).filter (·.enabled)).map Peer.key).Nodup ∧
      twinUp.host.db.interfaces.rows.map (fun row => (row.id, row.status)) = [(⟨0⟩, .up)] ∧
      twinUp.host.db.peers.rows.map twinEntry = twinEntries := by
  decide +kernel

theorem mem_of_entries {rows : List Peer} (h : rows.map twinEntry = twinEntries)
    {entry : TwinEntry}
    (hentry : entry ∈ twinEntries) :
    ∃ peer ∈ rows, twinEntry peer = entry := by
  rw [← h] at hentry
  exact List.mem_map.mp hentry

/-- The libraries read back what the page shows of the two peers. -/
theorem twin_reads {peer : Peer} (hid : peer.id ∈ [⟨0⟩, ⟨1⟩]) (hiface : peer.interfaceId = ⟨0⟩)
    (hnets : ∀ net ∈ peer.allowedIps, net ∈ [IpNet.labHost 2, .labHost 3]) :
    ReadsBack twinServer.crates peer := by
  refine ⟨?_, ?_, fun net hnet => ?_⟩
  · rcases List.mem_cons.mp hid with heq | hid
    · rw [heq]
      decide +kernel
    · rw [List.mem_singleton.mp hid]
      decide +kernel
  · rw [hiface]
    decide +kernel
  · rcases List.mem_cons.mp (hnets net hnet) with rfl | hnet
    · decide +kernel
    · rw [List.mem_singleton.mp hnet]
      decide +kernel

theorem saved_unchanged_laptop : ∃ peer flash choices shown,
    peer ∈ twinSite.host.db.peers.rows ∧
      eval (serve .none) (editPage twinServer.crates ⟨0⟩ ⟨⟨0⟩, "admin", .admin⟩ peer.id.display)
          (twinSite.seen twinStart.moment) =
        (.ok (.html 200 (.editPeer ⟨⟨0⟩, "admin", .admin⟩ flash none peer.id.display
          (editState twinServer.crates peer) choices)), shown) ∧
      let saved := eval (serve .none)
        (edit twinServer.crates ⟨0⟩ ⟨⟨0⟩, "admin", .admin⟩ peer.id.display
          (editState twinServer.crates peer).submitted) (shown.seen twinStart.moment)
      SavedUnchanged twinServer.crates.toCrates (shown.seen twinStart.moment) peer saved.1
        saved.2 := by
  obtain ⟨-, hrows, -⟩ := twin_rows
  obtain ⟨peer, hpeer, htwin⟩ := mem_of_entries hrows List.mem_cons_self
  simp only [twinEntry, TwinEntry.mk.injEq] at htwin
  obtain ⟨hid, hiface, hnets, henabled, -⟩ := htwin
  have hreads : ReadsBack twinServer.crates peer := by
    refine twin_reads (hid ▸ List.mem_cons_self) hiface fun net hnet => ?_
    rw [hnets] at hnet
    exact List.mem_singleton.mp hnet ▸ List.mem_cons_self
  obtain ⟨flash, choices, shown, hpage⟩ := @eval_edit_page twinServer.crates twinSite ⟨0⟩
    ⟨⟨0⟩, "admin", .admin⟩ peer twinStart.moment hreads.id hpeer fun _ _ => rfl
  refine ⟨peer, flash, choices, shown, hpeer, hpage, ?_⟩
  refine (saved_unchanged_iff twinServer Crates.seals_back_transparent auditedSite twinRun rfl
    (fun a ha => twin_run_web a (List.mem_append_left _ ha)) peer ⟨0⟩
    ⟨⟨0⟩, "admin", .admin⟩ twinStart.moment twinStart.moment twinSite shown
    ⟨⟨0⟩, "admin", .admin⟩ flash (editState twinServer.crates peer) choices rfl hpeer hreads
    hpage rfl fun _ _ => rfl).mpr fun target _ h => ?_
  exact Bool.false_ne_true (h.disabled.symm.trans henabled)

/-- After a start the device shows the enabled peers, if no two of them have one key. -/
theorem started_shows {crates : Crates} {w w' : World} {id : Id InterfaceMarker}
    {result : Except CoreError Interface} {row : Interface}
    (hend : InterfaceService.Started .none crates w id result w')
    (hkeys : (((w.db.peersOf id).filter (·.enabled)).map Peer.key).Nodup)
    (hdown : ∀ old ∈ w.db.interfaces.rows, old.status ≠ .up) (hrow : row ∈ w'.db.interfaces.rows)
    (hup : row.status = .up) :
    w'.devices.Shows crates row.name (w'.db.enabledPeers row.id) := by
  cases hend with
  | unconfigured | unrouted => exact absurd hup (hdown row hrow)
  | unmasqueraded e old spawned _ _ _ hmasq | unsaved e old spawned _ _ _ hmasq =>
      rw [hmasq.frame.1] at hrow
      exact absurd hup (hdown row hrow)
  | saved old spawned final hconf _ hmasq _ =>
      obtain ⟨-, rfl⟩ := Plan.read_interface_some hconf.read
      rcases Db.mem_update_interface.mp hrow with ⟨hold, -⟩ | ⟨before, hbefore, hid, rfl⟩
      · exact absurd hup (hdown row hold)
      · obtain rfl : before = old :=
          Db.eq_of_interface_id hbefore (Plan.read_interface_some hconf.read).1 hid
        have hdevices : final.devices =
            Plan.none.up crates before (w.db.peersOf before.id) w.devices := by
          cases hmasq <;> rfl
        rcases Plan.up_none crates before (w.db.peersOf before.id) w.devices with
          ⟨hfails, -⟩ | ⟨-, privateKey, hconfigured⟩
        · rw [hconf.configures] at hfails
          cases hfails
        · show final.devices.Shows crates before.name (w.db.enabledPeers before.id)
          rw [hdevices, hconfigured]
          refine (Devices.shows_configure hkeys).congr_peers fun peer => ?_
          simp [mem_peers_of, Db.enabledPeers, and_assoc]

/-- The entry of the enabled peer is in the kernel after the start, and saving the disabled one
takes it. -/
theorem twin_evicts {s s' : Site} {peer : Peer} (hs : s' = serveStep twinServer s twinStart)
    (hdown : s.host.db.interfaces.rows.map (·.status) = [.down])
    (hkeys : (((s.host.db.peersOf ⟨0⟩).filter (·.enabled)).map Peer.key).Nodup)
    (hup : s'.host.db.interfaces.rows.map (fun row => (row.id, row.status)) = [(⟨0⟩, .up)])
    (hrows : s'.host.db.peers.rows.map twinEntry = twinEntries)
    (hpeer : twinEntry peer = ⟨⟨1⟩, ⟨0⟩, [.labHost 3], false, .zero⟩) :
    ∃ target, s'.host.db.interfaces.find peer.interfaceId = some target ∧
      Evicts .none twinServer.crates.toCrates s'.host.db s'.host.devices peer target := by
  simp only [twinEntry, TwinEntry.mk.injEq] at hpeer
  obtain ⟨-, hiface, -, hdisabled, hkey⟩ := hpeer
  obtain ⟨target, htarget, htentry⟩ := List.mem_map.mp (hup ▸ List.mem_singleton_self _)
  obtain ⟨htid, hstatus⟩ := Prod.mk.inj htentry
  obtain ⟨other, hother, hoentry⟩ := mem_of_entries hrows List.mem_cons_self
  simp only [twinEntry, TwinEntry.mk.injEq] at hoentry
  obtain ⟨-, hoiface, -, hoenabled, hokey⟩ := hoentry
  have hold : ∀ old ∈ s.host.db.interfaces.rows, old.status ≠ .up := by
    intro old hold hup
    have hmem : old.status ∈ s.host.db.interfaces.rows.map (·.status) := List.mem_map_of_mem hold
    rw [hdown, hup] at hmem
    cases List.mem_singleton.mp hmem
  have hshows : s'.host.devices.Shows twinServer.crates.toCrates target.name
      (s'.host.db.enabledPeers target.id) := by
    subst hs
    rcases serve_step_operates twinServer s twinStart with hsame | ⟨call, hasks, hhost⟩
    · rw [hsame] at htarget
      exact absurd hstatus (hold target htarget)
    · obtain ⟨user, -, -, hasks⟩ := hasks
      cases hasks with
      | @startInterface _ id hpath =>
          obtain rfl : 0 = id := Option.some.inj
            ((by decide +kernel : some 0 = twinServer.crates.parseUuid
              (Id.mk 0 : Id InterfaceMarker).display).trans hpath)
          obtain ⟨result, w', heval, hend⟩ := InterfaceService.start_spec .none
            twinServer.crates.toCrates (s.host.seen twinStart.moment.env) ⟨0⟩
          have hhost' : (serveStep twinServer s twinStart).host = w' :=
            hhost.trans (congrArg Prod.snd (eval_drop heval))
          rw [hhost'] at htarget ⊢
          exact started_shows hend hkeys hold htarget hstatus
  refine ⟨target, ?_, hdisabled, hstatus, hshows, ⟨rfl, rfl⟩, other, ?_, hokey.trans hkey.symm⟩
  · rw [hiface, ← htid]
    exact Table.find_of_mem htarget
  · rw [htid]
    exact ⟨hother, hoiface, hoenabled⟩

/-- The form of a disabled peer is saved as it is, and another peer loses its entry. -/
theorem saved_peer_evicts : ¬ ∀ (server : Server) (start : Site) (run : List Served) (peer : Peer)
    (session : SessionId) (user : AuthUser) (page save : Moment) (s shown : Site)
    (viewer : AuthUser) (flash : Option Flash) (form : PeerEditFormState)
    (choices : List InterfaceOption), server.crates.toCrates.SealsBack →
      start.host.db.peers.rows = [] → (∀ a ∈ run, a.request.IsWeb) →
      s = Runs.after (serveStep server) start run → peer ∈ s.host.db.peers.rows →
      ReadsBack server.crates peer →
      eval (serve page.outage) (editPage server.crates session user peer.id.display)
        (s.seen page) =
          (.ok (.html 200 (.editPeer viewer flash none peer.id.display form choices)), shown) →
      user.role.canMutate = true →
      (∀ c, c.isStatement = true → save.outage.host.error c = none) →
      let saved := eval (serve save.outage)
        (edit server.crates session user peer.id.display form.submitted) (shown.seen save)
      SavedUnchanged server.crates.toCrates (shown.seen save) peer saved.1 saved.2 := by
  intro h
  have hafter : twinUp = Runs.after (serveStep twinServer) auditedSite (twinRun ++ [twinStart]) :=
    (Runs.after_snoc ..).symm
  obtain ⟨hdown, -, hkeys, hup, hrows⟩ := twin_rows
  obtain ⟨peer, hpeer, htwin⟩ :=
    mem_of_entries hrows (List.mem_cons_of_mem _ (List.mem_singleton_self _))
  obtain ⟨target, htarget, hevicts⟩ :=
    @twin_evicts twinSite twinUp peer rfl hdown hkeys hup hrows htwin
  simp only [twinEntry, TwinEntry.mk.injEq] at htwin
  obtain ⟨hid, hiface, hnets, -, -⟩ := htwin
  have hreads : ReadsBack twinServer.crates peer := by
    have hlisted : peer.id ∈ [⟨0⟩, ⟨1⟩] := hid ▸ List.mem_cons_of_mem _ List.mem_cons_self
    refine twin_reads hlisted hiface fun net hnet => ?_
    rw [hnets] at hnet
    exact List.mem_singleton.mp hnet ▸ List.mem_cons_of_mem _ List.mem_cons_self
  obtain ⟨flash, choices, shown, hpage⟩ := @eval_edit_page twinServer.crates twinUp ⟨0⟩
    ⟨⟨0⟩, "admin", .admin⟩ peer twinStart.moment hreads.id hpeer fun _ _ => rfl
  have hsaved := h twinServer auditedSite (twinRun ++ [twinStart]) peer ⟨0⟩
    ⟨⟨0⟩, "admin", .admin⟩ twinStart.moment twinStart.moment twinUp shown
    ⟨⟨0⟩, "admin", .admin⟩ flash (editState twinServer.crates peer) choices
    Crates.seals_back_transparent rfl twin_run_web hafter hpeer hreads hpage rfl fun _ _ => rfl
  obtain ⟨hshown, hunique⟩ : AllShown twinServer.crates.toCrates twinUp.host.db ∧
      UniqueAddresses twinUp.host.db := by
    rw [hafter]
    exact Runs.always_iff_initial.mp
      (shown_run twinServer auditedSite (twinRun ++ [twinStart]) rfl twin_run_web) _
      List.prefix_rfl
  exact (@shown_unchanged_iff twinServer.crates twinUp ⟨0⟩ ⟨⟨0⟩, "admin", .admin⟩ peer
    twinStart.moment twinStart.moment shown ⟨⟨0⟩, "admin", .admin⟩ flash
    (editState twinServer.crates peer) choices Crates.seals_back_transparent hshown hunique hpeer
    hreads hpage rfl fun _ _ => rfl).mp hsaved target htarget hevicts

end Routes.Peers

end Wireforge
