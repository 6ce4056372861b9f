import Wireforge.Lifecycle.InterfaceRun

/-!
# Starting again

The device of an interface is created together with its row, `start` configures it and `stop`
removes it. `restartable_iff` says which operations leave an interface that can be started.
-/

namespace Wireforge

open Effect InterfaceService DefguardAdapter

/-- Nothing fails, except that a device that is not there cannot be configured. -/
def Plan.deviceBound (devices : Devices) : Plan where
  error
    | .configureDevice config => if devices.has config.name then .none else some "no such device"
    | _ => .none
  exit _ := true

/-- An operation and what the host shows. -/
structure HostStep where
  call : InterfaceCall
  env : Env

/-- The operation on a host on which nothing else fails. -/
def HostStep.on (a : HostStep) (w : World) : InterfaceStep :=
  ⟨a.call, .deviceBound w.devices, a.env⟩

/-- One operation on such a host. -/
def hostStep (crates : Crates) (w : World) (a : HostStep) : World :=
  interfaceStep crates w (a.on w)

/-- A `start` finds the gateway of the row valid. -/
def FindsGateway (w : World) (a : HostStep) : Prop :=
  match a.call with
  | .start id => ∀ row ∈ w.db.interfaces.rows, row.id = id →
      (Plan.deviceBound w.devices).acceptsConfigured a.env row.gateway = true
  | _ => True

instance (w : World) : (a : HostStep) → Decidable (FindsGateway w a)
  | ⟨.start _, _⟩ => inferInstanceAs (Decidable (∀ row ∈ w.db.interfaces.rows, _))
  | ⟨.create _, _⟩ => .isTrue trivial
  | ⟨.stop _, _⟩ => .isTrue trivial
  | ⟨.update _ _, _⟩ => .isTrue trivial
  | ⟨.delete _, _⟩ => .isTrue trivial

/-- Wherever the gateway is valid, a `start` returns `Ok` and leaves the device up. -/
def Restarts (crates : Crates) (w : World) (row : Interface) : Prop :=
  ∀ env, (Plan.deviceBound w.devices).acceptsConfigured env row.gateway = true →
    (∃ iface, (eval (handle (.deviceBound w.devices)) (start crates row.id) (w.seen env)).1 =
      .ok iface) ∧
    (eval (handle (.deviceBound w.devices)) (start crates row.id)
      (w.seen env)).2.devices.isUp row.name = true

/-- The interface can be started, if there is a row for it. -/
def Restartable (crates : Crates) (id : Id InterfaceMarker) (w : World) : Prop :=
  ∀ row ∈ w.db.interfaces.rows, row.id = id → Restarts crates w row

/-- The operation does not stop the interface. -/
def SparesDevice (id : Id InterfaceMarker) (w : World) (a : HostStep) : Prop :=
  match a.call with
  | .stop id' => id' = id → ∀ row ∈ w.db.interfaces.rows, row.id ≠ id
  | _ => True

/-- Every private key can be recovered, and every gateway has a valid name. -/
def Sound (crates : Crates) (db : Db) : Prop :=
  ∀ row ∈ db.interfaces.rows, (∃ key, unsealPrivate crates row = .ok key) ∧
    ∀ gw ∈ row.gateway, gatewayCharsetOk gw = true

variable {crates : Crates} {plan : Plan} {w w' : World} {id : Id InterfaceMarker}
  {iface row : Interface} {devices : Devices} {env : Env}

/-! ## What a row keeps -/

theorem charset_ok_of_accepts {gateway : Option String}
    (h : plan.acceptsConfigured env gateway = true) :
    ∀ gw ∈ gateway, gatewayCharsetOk gw = true := by
  rintro gw ⟨⟩
  simp only [Plan.acceptsConfigured, Plan.acceptsGateway, Bool.and_eq_true] at h
  exact h.1.1

theorem sound_row_invariant (hcrates : crates.SealsBack) :
    RowInvariant crates fun row => (∃ key, unsealPrivate crates row = .ok key) ∧
      ∀ gw ∈ row.gateway, gatewayCharsetOk gw = true where
  created _ _ _ key hsealed _ haccepts :=
    ⟨⟨key, unseal_private_ok hcrates hsealed⟩, charset_ok_of_accepts haccepts⟩
  updated plan w id input old iface haccepted hold := by
    refine ⟨?_, haccepted.row.2.2.2.1 ▸ charset_ok_of_accepts haccepted.gateway⟩
    rcases rekeyed_ok haccepted.keys with rfl | ⟨key, sealed, hsealed, rfl⟩
    · exact hold.1
    · exact ⟨key, unseal_private_ok hcrates hsealed⟩
  status _ _ h := h
  stored _ _ _ h := h

/-- Whatever fails, no operation stores a key that cannot be recovered or a gateway without a valid
name. -/
theorem sound_step (hcrates : crates.SealsBack) {a : InterfaceStep} (h : Sound crates w.db) :
    Sound crates (interfaceStep crates w a).db :=
  (sound_row_invariant hcrates).step w a h

/-! ## When a start works -/

namespace Plan

theorem runs_iptables_device_bound (devices : Devices) : (deviceBound devices).RunsIptables :=
  fun _ _ => ⟨rfl, rfl⟩

/-- Only the device can keep an interface from being configured. -/
theorem configures_device_bound {peers : List Peer}
    (hkey : ∃ key, unsealPrivate crates row = .ok key) :
    (deviceBound devices).configures crates row peers = devices.has row.name := by
  obtain ⟨key, hkey⟩ := hkey
  simp only [Plan.configures, hkey, Plan.opens, deviceBound, configWith]
  cases devices.has row.name <;> rfl

/-- Only the gateway can keep a tunnel from being masqueraded. -/
theorem masquerades_device_bound {net : NetState} :
    (deviceBound devices).masquerades env row net =
      (deviceBound devices).acceptsConfigured env row.gateway := by
  unfold Plan.masquerades Plan.acceptsConfigured
  cases row.gateway with
  | none => rfl
  | some gw =>
      simp [(runs_iptables_device_bound devices).applies fun _ => rfl]

/-- A gateway with a valid name is valid on some host. -/
theorem accepts_device_bound {gateway : Option String}
    (h : ∀ gw ∈ gateway, gatewayCharsetOk gw = true) :
    (deviceBound devices).acceptsConfigured (World.fresh gateway.toList).env gateway = true := by
  cases gateway with
  | none => rfl
  | some gw =>
      simp [Plan.acceptsConfigured, Plan.acceptsGateway, h gw rfl, World.fresh, deviceBound]

end Plan

/-- An interface can be started exactly when its device is there. -/
theorem restarts_iff (hsound : Sound crates w.db) (hrow : row ∈ w.db.interfaces.rows) :
    Restarts crates w row ↔ w.devices.has row.name = true := by
  obtain ⟨hkey, hgateway⟩ := hsound row hrow
  have hread : (Plan.deviceBound w.devices).readInterface w.db row.id = some row :=
    Table.find_of_mem hrow
  constructor
  · intro h
    obtain ⟨iface, hok⟩ := (h _ (Plan.accepts_device_bound hgateway)).1
    obtain ⟨result, w', heval, hend⟩ := start_spec (.deviceBound w.devices) crates
      (w.seen (World.fresh row.gateway.toList).env) row.id
    rw [heval] at hok
    subst hok
    cases hend with
    | saved iface _ _ hconf _ _ _ =>
        obtain rfl := Option.some.inj (hread.symm.trans hconf.read)
        exact (Plan.configures_device_bound hkey).symm.trans hconf.configures
  · intro hdevice env haccepts
    obtain ⟨result, w', heval, hend⟩ := start_spec (.deviceBound w.devices) crates (w.seen env)
      row.id
    rw [heval]
    have hsame : ∀ {iface}, Configured (.deviceBound w.devices) crates (w.seen env) row.id iface →
        iface = row := fun hconf => Option.some.inj (hconf.read.symm.trans hread)
    cases hend with
    | unconfigured e hnone =>
        exact absurd ⟨hread, rfl, (Plan.configures_device_bound hkey).trans hdevice⟩ (hnone row)
    | unrouted e iface _ hroutes => cases hroutes
    | unmasqueraded e iface spawned _ hconf _ hmasq =>
        obtain rfl := hsame hconf
        have hok := hmasq.ok_iff.mpr (Plan.masquerades_device_bound.trans haccepts)
        cases hok
    | unsaved e iface _ _ _ _ _ hsaves => cases hsaves
    | saved iface spawned w₂ hconf _ hmasq _ =>
        obtain rfl := hsame hconf
        have hdevices : w₂.devices =
            (Plan.deviceBound w.devices).up crates iface (w.db.peersOf iface.id) w.devices := by
          cases hmasq <;> rfl
        exact ⟨⟨_, rfl⟩, by simp [hdevices, Plan.configures_device_bound hkey, hdevice]⟩

/-! ## One operation -/

/-- The device of the interface is there, if there is a row for it. -/
def HasDevice (id : Id InterfaceMarker) (w : World) : Prop :=
  ∀ row ∈ w.db.interfaces.rows, row.id = id → w.devices.has row.name = true

theorem restartable_iff_has_device (hsound : Sound crates w.db) :
    Restartable crates id w ↔ HasDevice id w :=
  forall_congr' fun _ => forall_congr' fun hrow => forall_congr' fun _ =>
    restarts_iff hsound hrow

/-- An operation that adds no row and removes no device. -/
theorem has_device_of_more (h : HasDevice id w)
    (hrows : ∀ row' ∈ w'.db.interfaces.rows, ∃ row ∈ w.db.interfaces.rows,
      row.id = row'.id ∧ row.name = row'.name)
    (hdevices : ∀ name, w.devices.has name = true → w'.devices.has name = true) :
    HasDevice id w' := by
  intro row' hrow' hid
  obtain ⟨row, hrow, hsame, hname⟩ := hrows row' hrow'
  exact hname ▸ hdevices _ (h row hrow (hsame.trans hid))

/-- An operation leaves the device of an interface exactly when it does not stop it. -/
theorem has_device_step {a : HostStep} (h : HasDevice id w) (hgateway : FindsGateway w a) :
    HasDevice id (hostStep crates w a) ↔ SparesDevice id w a := by
  rcases a with ⟨call, env⟩
  have hend : Ended crates w ⟨call, .deviceBound w.devices, env⟩ _
      (hostStep crates w ⟨call, env⟩) := ended crates w _
  generalize hostStep crates w ⟨call, env⟩ = w' at hend ⊢
  generalize InterfaceStep.outcome _ _ _ = outcome at hend
  generalize outcome.1 = result at hend
  cases hend with
  | create result hend =>
      refine iff_of_true ?_ trivial
      cases hend with
      | rejected e => exact h
      | created row db key _ _ _ _ _ _ _ hdb =>
          intro row' hrow' hid
          show (Devices.create w.devices row.name).has row'.name = true
          rcases ((Db.insert_interface_ok hdb).2.1 row').mp hrow' with hrow' | rfl
          · simp [h row' hrow' hid]
          · simp
  | start result hend =>
      refine iff_of_true ?_ trivial
      cases hend with
      | unconfigured => exact h
      | unrouted e iface _ hroutes => cases hroutes
      | unmasqueraded e iface spawned _ hconf _ hmasq =>
          obtain ⟨hmem, hid⟩ := Plan.read_interface_some hconf.read
          have hok := hmasq.ok_iff.mpr
            (Plan.masquerades_device_bound.trans (hgateway iface hmem hid))
          cases hok
      | unsaved e iface _ _ _ _ _ hsaves => cases hsaves
      | saved iface _ w₂ _ _ hmasq _ =>
          have hdevices : w₂.devices =
              (Plan.deviceBound w.devices).up crates iface (w.db.peersOf iface.id) w.devices := by
            cases hmasq <;> rfl
          refine has_device_of_more h (fun _ => Db.update_interface_source) fun name hhas => ?_
          simp [hdevices, hhas]
  | stop result hend =>
      cases hend with
      | absent e hnone =>
          exact iff_of_true h fun heq => heq ▸ Table.find_eq_none.mp hnone
      | refused e iface _ _ htakes => cases htakes
      | unsaved e iface _ _ _ hsaves => cases hsaves
      | saved iface _ hread _ _ =>
          obtain ⟨hmem, hid⟩ := Plan.read_interface_some hread
          simp only [SparesDevice, ← hid]
          by_cases heq : iface.id = id
          · refine iff_of_false (fun hhas => ?_) fun hspares => hspares heq iface hmem heq
            have := hhas _ (Db.mem_update_interface.mpr
              (.inr ⟨iface, hmem, (iface.with_status_id .down).symm, rfl⟩)) heq
            simp at this
          · refine iff_of_true (fun row hrow hsame => ?_) fun hstop => absurd hstop heq
            rcases Db.mem_update_interface.mp hrow with ⟨hrow, hne⟩ | ⟨old, _, _, rfl⟩
            · have hname : row.name ≠ iface.name := fun hname =>
                heq (congrArg Interface.id (Db.eq_of_name hmem hrow hname.symm) ▸ hsame)
              simpa [hname] using h row hrow hsame
            · exact absurd hsame heq
  | update result hend =>
      refine iff_of_true ?_ trivial
      cases hend with
      | rejected => exact h
      | idle => exact has_device_of_more h (fun _ => Db.update_interface_source) fun _ hhas => hhas
      | unlisted e _ _ _ _ hlists => cases hlists
      | reapplied =>
          exact has_device_of_more h (fun _ => Db.update_interface_source) fun _ hhas => by
            simp [hhas]
  | delete result hend =>
      refine iff_of_true ?_ trivial
      cases hend with
      | absent => exact h
      | kept e iface _ hdeletes => cases hdeletes
      | deleted iface hread _ =>
          obtain ⟨hmem, hid⟩ := Plan.read_interface_some hread
          intro row hrow hsame
          obtain ⟨hrow, hne⟩ := Db.mem_delete_interface.mp hrow
          have hname : row.name ≠ iface.name := fun hname =>
            hne (hid ▸ congrArg Interface.id (Db.eq_of_name hrow hmem hname))
          simpa [hname] using h row hrow hsame

/-- An interface can be started again in every state of a run from a fresh installation exactly
when no step stops it. -/
theorem restartable_iff (crates : Crates) (id : Id InterfaceMarker) (w : World)
    (run : List HostStep) (hcrates : crates.SealsBack) (hfresh : w.db = .empty)
    (hgateway : Runs.EachStep (hostStep crates) FindsGateway w run) :
    Runs.Always (hostStep crates) (Restartable crates id) w run ↔
      Runs.EachStep (hostStep crates) (SparesDevice id) w run := by
  have hstep : ∀ w a, Sound crates w.db → Sound crates (hostStep crates w a).db :=
    fun _ _ => sound_step hcrates
  have hsound : Runs.Always (hostStep crates) (fun w => Sound crates w.db) w run :=
    Runs.always_of_step hstep (by simp [hfresh, Sound, Db.empty]) run
  have hdevice : Runs.Always (hostStep crates) (HasDevice id) w run ↔
      Runs.EachStep (hostStep crates) (SparesDevice id) w run :=
    Runs.always_iff_each_step (fun _ _ hfinds h => (has_device_step h hfinds).mpr)
      (fun _ _ hfinds h hstops h' => hstops ((has_device_step h hfinds).mp h')) hgateway
      (by simp [hfresh, HasDevice, Db.empty])
  rw [← hdevice]
  exact Runs.always_congr hsound fun _ h => restartable_iff_has_device h

/-- An interface is created, started and stopped. -/
def createdStartedStopped : List HostStep :=
  [⟨.create (.plain "wg0" (some "eth0") none), (World.fresh ["eth0"]).env⟩,
    ⟨.start ⟨0⟩, (World.fresh ["eth0"]).env⟩,
    ⟨.stop ⟨0⟩, (World.fresh ["eth0"]).env⟩]

/-- After the stop there is no device to configure. -/
theorem not_restartable :
    Crates.transparent.SealsBack ∧
      Runs.EachStep (hostStep .transparent) FindsGateway (.fresh []) createdStartedStopped ∧
      ¬ Runs.Always (hostStep .transparent) (Restartable .transparent ⟨0⟩) (.fresh [])
        createdStartedStopped := by
  refine ⟨Crates.seals_back_transparent, ⟨trivial, by decide +kernel, trivial, trivial⟩,
    fun h => ?_⟩
  obtain ⟨row, hrow, hid, hgateway⟩ : ∃ row ∈ (Runs.after (hostStep .transparent) (.fresh [])
      createdStartedStopped).db.interfaces.rows, row.id = ⟨0⟩ ∧ row.gateway = some "eth0" := by
    decide +kernel
  obtain ⟨iface, hok⟩ := (h.last row hrow hid (World.fresh ["eth0"]).env
    (hgateway ▸ by decide)).1
  rw [hid] at hok
  cases hok

theorem restartable_iff_started :
    Runs.Always (hostStep .transparent) (Restartable .transparent ⟨0⟩) (.fresh [])
        (createdStartedStopped.take 2) ↔
      Runs.EachStep (hostStep .transparent) (SparesDevice ⟨0⟩) (.fresh [])
        (createdStartedStopped.take 2) :=
  restartable_iff _ _ _ _ Crates.seals_back_transparent rfl
    ⟨trivial, by decide +kernel, trivial⟩

end Wireforge
