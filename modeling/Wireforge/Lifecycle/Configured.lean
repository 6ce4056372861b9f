import Wireforge.Lifecycle.Keys
import Wireforge.Lifecycle.Prefixes

/-!
# Configured devices

The device of an interface that is up is configured as its row says: with the private key that
unseals, the port and the networks of the row. Creating, editing, switching and deleting peers and
the background tasks leave the configuration of every device alone, and an edit of a running
interface configures its device anew. `configured_step` follows the configurations through the
operations during which nothing fails.
-/

namespace Wireforge

open Effect DefguardAdapter

variable {crates : Crates} {plan : Plan} {w w' : World} {db db' : Db} {devices devices' : Devices}
  {iface : Interface} {name other : String}

namespace Devices

/-- The configuration of the device of that name, if it is there and is configured. -/
def config (devices : Devices) (name : String) : Option InterfaceConfiguration :=
  (devices name).bind Device.config

theorem config_congr (h : devices' name = devices name) :
    devices'.config name = devices.config name :=
  congrArg (Option.bind · Device.config) h

@[simp] theorem config_set_peer {key : Key} {entry : Option WgPeer} :
    (devices.setPeer name key entry).config other = devices.config other := by
  by_cases h : other = name
  · subst h
    unfold config setPeer
    rw [Function.update_self]
    cases devices other <;> rfl
  · exact config_congr (set_peer_of_ne h)

@[simp] theorem config_configure (cfg : InterfaceConfiguration) :
    (devices.configure cfg).config cfg.name = some cfg := by
  simp [config, configure]

/-- The device is configured as the row of the interface says. -/
def RunsAs (crates : Crates) (devices : Devices) (row : Interface) : Prop :=
  ∃ key peers, unsealPrivate crates row = .ok key ∧
    devices.config row.name = some (configWith crates row peers key)

theorem RunsAs.congr {row row' : Interface} (h : devices.RunsAs crates row)
    (hconfig : devices'.config row.name = devices.config row.name)
    (hcolumns : row'.privateKeySealed = row.privateKeySealed ∧ row'.name = row.name ∧
      row'.cidrs = row.cidrs ∧ row'.listenPort = row.listenPort ∧ row'.mtu = row.mtu) :
    devices'.RunsAs crates row' := by
  obtain ⟨key, peers, hkey, hdevice⟩ := h
  obtain ⟨hsealed, hname, hcidrs, hport, hmtu⟩ := hcolumns
  refine ⟨key, peers, ?_, ?_⟩
  · rw [unsealPrivate, hsealed]
    exact hkey
  · have hsame : configWith crates row' peers key = configWith crates row peers key := by
      show InterfaceConfiguration.mk row'.name _ (row'.cidrs.map _) row'.listenPort _
        (row'.mtu.map _) = _
      rw [hname, hcidrs, hport, hmtu]
      rfl
    rw [hname, hconfig, hdevice, hsame]

end Devices

/-- The devices of the interfaces that are up are configured as their rows say. -/
def ConfiguredIn (crates : Crates) (db : Db) (devices : Devices) : Prop :=
  ∀ row ∈ db.interfaces.rows, row.status = .up → devices.RunsAs crates row

theorem ConfiguredIn.congr (h : ConfiguredIn crates db devices)
    (hinterfaces : db'.interfaces = db.interfaces)
    (hconfig : ∀ name, devices'.config name = devices.config name) :
    ConfiguredIn crates db' devices' := by
  intro row hrow hup
  rw [hinterfaces] at hrow
  exact (h row hrow hup).congr (hconfig row.name) ⟨rfl, rfl, rfl, rfl, rfl⟩

/-! ## Peers -/

namespace Plan

variable {peer old : Peer} {target : Interface} {key : WgPublicKey}

@[simp] theorem config_installed :
    (plan.installed crates iface peer devices).config name = devices.config name := by
  unfold installed
  split <;> simp

@[simp] theorem config_uninstalled :
    (plan.uninstalled iface key devices).config name = devices.config name := by
  unfold uninstalled
  split <;> simp

@[simp] theorem config_pushed :
    (plan.pushed crates iface peer devices).config name = devices.config name := by
  unfold pushed
  split <;> simp

@[simp] theorem config_unstaled :
    (plan.unstaled db old peer target devices).config name = devices.config name := by
  unfold unstaled
  split
  · split <;> simp
  · split <;> simp

end Plan

/-- Switching a peer and counting its bytes change no configuration. -/
theorem configured_task_invariant (plan : Plan) (crates : Crates) :
    TaskInvariant plan crates fun w => ConfiguredIn crates w.db w.devices where
  switched w w' peer enabled h _ hswitched := by
    cases hswitched with
    | unsaved => exact h
    | detached db hdb _ => exact h.congr (Db.update_peer_ok hdb).2 fun _ => rfl
    | pushed iface db hdb _ => exact h.congr (Db.update_peer_ok hdb).2 fun _ => by simp
  counted w id bytes h := h.congr rfl fun _ => rfl
  stored w db row h hdb := h.congr (Db.insert_snapshot_ok hdb).2 fun _ => rfl

theorem peer_created_configured {input : CreatePeerInput} {result : Except CoreError Peer}
    (h : ConfiguredIn crates w.db w.devices)
    (hend : PeerService.Created plan crates w input result w') :
    ConfiguredIn crates w'.db w'.devices := by
  cases hend with
  | rejected e => exact h
  | created iface peer db _ _ _ _ _ hdb =>
      exact h.congr (Db.insert_peer_ok hdb).2.2 fun _ => by simp

theorem peer_updated_configured {id : Id PeerMarker} {input : UpdatePeerInput}
    {result : Except CoreError Peer} (h : ConfiguredIn crates w.db w.devices)
    (hend : PeerService.Updated plan crates w id input result w') :
    ConfiguredIn crates w'.db w'.devices := by
  cases hend with
  | rejected e => exact h
  | updated old peer target db _ _ _ _ hdb =>
      exact h.congr (Db.update_peer_ok hdb).2 fun _ => by simp

theorem peer_deleted_configured {id : Id PeerMarker} {result : Except CoreError Unit}
    (h : ConfiguredIn crates w.db w.devices) (hend : PeerService.Deleted plan w id result w') :
    ConfiguredIn crates w'.db w'.devices := by
  cases hend with
  | rejected e => exact h
  | kept e peer iface _ _ _ => exact h.congr rfl fun _ => by simp
  | deleted peer iface _ _ => exact h.congr rfl fun _ => by simp

/-! ## Interfaces -/

/-- Only one interface and its device have changed. -/
theorem configured_of_row (h : ConfiguredIn crates db devices) (hmem : iface ∈ db.interfaces.rows)
    (hothers : ∀ name, name ≠ iface.name → devices' name = devices name)
    (hrows : ∀ row ∈ db'.interfaces.rows, row ∈ db.interfaces.rows ∧ row.id ≠ iface.id ∨
      row.id = iface.id ∧ (row.status = .up → devices'.RunsAs crates row)) :
    ConfiguredIn crates db' devices' := by
  intro row hrow hup
  rcases hrows row hrow with ⟨hrow, hne⟩ | ⟨-, hruns⟩
  · have hname : row.name ≠ iface.name := fun hname =>
      hne (congrArg Interface.id (Db.eq_of_name hrow hmem hname))
    exact (h row hrow hup).congr (Devices.config_congr (hothers row.name hname))
      ⟨rfl, rfl, rfl, rfl, rfl⟩
  · exact hruns hup

/-- The row of an interface has been written, and only its device has changed. -/
theorem configured_of_update {now : DateTime} {new : Interface}
    (h : ConfiguredIn crates db devices) (hmem : iface ∈ db.interfaces.rows)
    (hid : new.id = iface.id) (hname : new.name = iface.name)
    (hothers : ∀ name, name ≠ iface.name → devices' name = devices name)
    (hruns : new.status = .up → devices'.RunsAs crates new) :
    ConfiguredIn crates (db.updateInterface new now) devices' := by
  refine configured_of_row h hmem hothers fun row hrow => ?_
  rcases Db.mem_update_interface.mp hrow with ⟨hrow, hne⟩ | ⟨old, hold, hsame, rfl⟩
  · exact .inl ⟨hrow, hid ▸ hne⟩
  · rw [Db.eq_of_interface_id hold hmem (hsame.trans hid)]
    exact .inr ⟨hid, fun hup => (hruns hup).congr (by rw [hname]) ⟨rfl, hname.symm, rfl, rfl, rfl⟩⟩

/-- A device that takes the configuration of a row runs as the row says. -/
theorem runs_as_up {l : List Peer} (hconfigures : Plan.none.configures crates iface l = true) :
    (Plan.none.up crates iface l devices).RunsAs crates iface := by
  unfold Plan.up
  cases hkey : unsealPrivate crates iface with
  | error e => simp [Plan.configures, hkey] at hconfigures
  | ok key =>
      simp only [hconfigures, if_true]
      exact ⟨key, l, hkey, Devices.config_configure (configWith crates iface l key)⟩

/-- The private key of an interface with matched keys can be recovered. -/
theorem unseal_of_pairs (h : crates.Pairs iface.privateKeySealed iface.publicKey) :
    ∃ key, unsealPrivate crates iface = .ok key ∧ key.public crates = iface.publicKey := by
  obtain ⟨key, hunseal, hpublic⟩ := h
  refine ⟨key, ?_, hpublic⟩
  simp only [unsealPrivate, hunseal, Bind.bind, Except.bind, Text.from_utf8_to_utf8,
    WgPrivateKey.from_base64_as_str]

theorem configures_of_pairs {l : List Peer}
    (h : crates.Pairs iface.privateKeySealed iface.publicKey) :
    Plan.none.configures crates iface l = true := by
  obtain ⟨key, hkey, -⟩ := unseal_of_pairs h
  simp [Plan.configures, hkey, Plan.opens, Plan.none]

theorem interface_created_configured {input : CreateInterfaceInput}
    {result : Except CoreError Interface} (h : ConfiguredIn crates w.db w.devices)
    (hend : InterfaceService.Created .none crates w input result w') :
    ConfiguredIn crates w'.db w'.devices := by
  cases hend with
  | rejected e => exact h
  | created row db key _ _ hstatus _ _ _ _ hdb =>
      obtain ⟨hfresh, hmem, -⟩ := Db.insert_interface_ok hdb
      intro row' hrow' hup
      rcases (hmem row').mp hrow' with hrow' | rfl
      · exact (h row' hrow' hup).congr
          (Devices.config_congr (Devices.create_of_ne (hfresh row' hrow').2))
          ⟨rfl, rfl, rfl, rfl, rfl⟩
      · -- The new row is down.
        rw [hstatus] at hup
        cases hup

theorem interface_stopped_configured {id : Id InterfaceMarker}
    {result : Except CoreError Interface} (h : ConfiguredIn crates w.db w.devices)
    (hend : InterfaceService.Stopped .none w id result w') :
    ConfiguredIn crates w'.db w'.devices := by
  cases hend with
  | absent e _ => exact h
  | refused e iface spawned _ hdown => cases hdown
  | unsaved e iface spawned _ _ hsaves => cases hsaves
  | saved iface spawned hread _ _ =>
      exact configured_of_update h (Plan.read_interface_some hread).1
        (iface.with_status_id .down) rfl (fun name hname => Devices.remove_of_ne hname)
        (fun hup => nomatch hup)

theorem interface_deleted_configured {id : Id InterfaceMarker} {result : Except CoreError Unit}
    (h : ConfiguredIn crates w.db w.devices)
    (hend : InterfaceService.Deleted .none w id result w') :
    ConfiguredIn crates w'.db w'.devices := by
  cases hend with
  | absent e _ => exact h
  | kept e iface _ hdeletes => cases hdeletes
  | deleted iface hread _ =>
      obtain ⟨hmem, rfl⟩ := Plan.read_interface_some hread
      refine configured_of_row h hmem (fun name hname => ?_) fun row hrow =>
        .inl (Db.mem_delete_interface.mp hrow)
      exact (Devices.remove_of_ne hname).trans (Devices.remove_of_ne hname)

/-- An edit of a running interface configures its device anew. -/
theorem interface_updated_configured {id : Id InterfaceMarker} {input : UpdateInterfaceInput}
    {result : Except CoreError Interface} (h : ConfiguredIn crates w.db w.devices)
    (hmatched : ∀ row ∈ w'.db.interfaces.rows, crates.Pairs row.privateKeySealed row.publicKey)
    (hend : InterfaceService.Updated .none crates w id input result w') :
    ConfiguredIn crates w'.db w'.devices := by
  cases hend with
  | rejected e _ => exact h
  | idle old iface haccepted hstatus =>
      obtain ⟨hid, hname, hsame, -⟩ := haccepted.row
      exact configured_of_update h (Plan.read_interface_some haccepted.read).1 hid hname
        (fun _ _ => rfl) fun hup => absurd (hsame.symm.trans hup) hstatus
  | unlisted e old iface _ _ hlists => cases hlists
  | reapplied old iface net haccepted hstatus _ _ =>
      obtain ⟨hid, hname, -⟩ := haccepted.row
      have hmem := (Plan.read_interface_some haccepted.read).1
      refine configured_of_update h hmem hid hname (fun name hne => up_of_ne (hname ▸ hne))
        fun _ => runs_as_up ?_
      -- The stored row has the keys that the device is configured with.
      have hrow := hmatched { iface with
          name := old.name, createdAt := old.createdAt, updatedAt := w.env.now }
        (Db.mem_update_interface.mpr (.inr ⟨old, hmem, hid.symm, rfl⟩))
      exact configures_of_pairs hrow

/-- A start that finds its gateway configures the device. -/
theorem interface_started_configured {id : Id InterfaceMarker}
    {result : Except CoreError Interface} (h : ConfiguredIn crates w.db w.devices)
    (hkeeps : ∀ iface, InterfaceService.Configured .none crates w id iface →
      iface.status = .up → Plan.none.acceptsConfigured w.env iface.gateway = true)
    (hend : InterfaceService.Started .none crates w id result w') :
    ConfiguredIn crates w'.db w'.devices := by
  cases hend with
  | unconfigured e hnone => exact h
  | unrouted e iface _ hroutes => cases hroutes
  | unmasqueraded e iface spawned w' hconf _ hmasq =>
      have hmem := (Plan.read_interface_some hconf.read).1
      have hrefused : Plan.none.acceptsConfigured w.env iface.gateway = false := by
        rw [← Plan.masquerades_none w.env iface w.net]
        exact Bool.eq_false_iff.mpr fun htrue => nomatch hmasq.ok_iff.mpr htrue
      have hdevices : w'.devices =
          (Plan.none.up crates iface (w.db.peersOf iface.id) w.devices).remove iface.name := by
        cases hmasq <;> rfl
      rw [hmasq.frame.1, hdevices]
      refine configured_of_row h hmem (fun name hne => ?_) fun row hrow => ?_
      · exact (Devices.remove_of_ne hne).trans (up_of_ne hne)
      · by_cases hid : row.id = iface.id
        · -- The device is gone because its gateway was refused, so the row was not up before.
          refine .inr ⟨hid, fun hup => ?_⟩
          rw [Db.eq_of_interface_id hrow hmem hid] at hup
          have haccepts := hkeeps iface hconf hup
          rw [hrefused] at haccepts
          cases haccepts
        · exact .inl ⟨hrow, hid⟩
  | unsaved e iface spawned w' _ _ _ hsaves => cases hsaves
  | saved iface spawned w' hconf _ hmasq _ =>
      have hdevices : w'.devices = Plan.none.up crates iface (w.db.peersOf iface.id) w.devices := by
        cases hmasq <;> rfl
      rw [hdevices]
      refine configured_of_update h (Plan.read_interface_some hconf.read).1
        (iface.with_status_id .up) rfl (fun name hne => up_of_ne hne) fun _ => ?_
      exact (runs_as_up hconf.configures).congr rfl ⟨rfl, rfl, rfl, rfl, rfl⟩

/-! ## Runs -/

/-- One operation or pass during which nothing fails. -/
theorem configured_step {a : ServiceStep} (hplan : a.plan = .none)
    (hmatched : KeysMatched crates (serviceStep crates w a).db)
    (hkeeps : KeepsAgreement crates w a) (h : ConfiguredIn crates w.db w.devices) :
    ConfiguredIn crates (serviceStep crates w a).db (serviceStep crates w a).devices := by
  rcases a with ⟨call, plan, env⟩
  obtain rfl : plan = .none := hplan
  have htasks := configured_task_invariant .none crates
  cases call with
  | interface call =>
      have hend := ended crates w ⟨call, .none, env⟩
      change ConfiguredIn crates (interfaceStep crates w ⟨call, .none, env⟩).db
        (interfaceStep crates w ⟨call, .none, env⟩).devices
      replace hmatched := hmatched.interfaces
      change ∀ row ∈ (interfaceStep crates w ⟨call, .none, env⟩).db.interfaces.rows, _ at hmatched
      generalize interfaceStep crates w ⟨call, .none, env⟩ = w' at hend hmatched ⊢
      generalize (InterfaceStep.outcome crates ⟨call, .none, env⟩ w).1 = result at hend
      cases hend with
      | create result hend => exact interface_created_configured (w := w.seen env) h hend
      | start result hend => exact interface_started_configured (w := w.seen env) h hkeeps hend
      | stop result hend => exact interface_stopped_configured (w := w.seen env) h hend
      | update result hend =>
          exact interface_updated_configured (w := w.seen env) h hmatched hend
      | delete result hend => exact interface_deleted_configured (w := w.seen env) h hend
  | createPeer input =>
      obtain ⟨result, w', heval, hend⟩ := PeerService.create_spec .none crates (w.seen env) input
      simp only [serviceStep, World.afterwards, heval]
      exact peer_created_configured (w := w.seen env) h hend
  | updatePeer id input =>
      obtain ⟨result, w', heval, hend⟩ := PeerService.update_spec .none crates (w.seen env) id input
      simp only [serviceStep, World.afterwards, heval]
      exact peer_updated_configured (w := w.seen env) h hend
  | setEnabled id enabled => exact htasks.set_enabled id enabled (w.seen env) h
  | deletePeer id =>
      obtain ⟨result, w', heval, hend⟩ := PeerService.delete_spec .none (w.seen env) id
      simp only [serviceStep, World.afterwards, heval]
      exact peer_deleted_configured (w := w.seen env) h hend
  | runOnce => exact Scheduler.run_once_keeps htasks (w.seen env) h
  | pollOnce => exact Poller.poll_once_keeps htasks (w.seen env) h

end Wireforge
