import Wireforge.Lifecycle.InterfaceRun

/-!
# The status and the tunnel

The status of a row is what the poller, the dashboard and later edits act on. `tunnels_alive_iff`
says which operations leave a row that is up without a tunnel.
-/

namespace Wireforge

open Effect InterfaceService

/-- Every row that is up has its device, and the device is up. -/
def AliveIn (db : Db) (devices : Devices) : Prop :=
  ∀ row ∈ db.interfaces.rows, row.status = .up → devices.isUp row.name = true

/-- Every row that is up has its tunnel. -/
def TunnelsAlive (w : World) : Prop :=
  AliveIn w.db w.devices

instance (w : World) : Decidable (TunnelsAlive w) :=
  inferInstanceAs (Decidable (∀ row ∈ w.db.interfaces.rows, _))

/-- An operation takes a tunnel down only together with its status: a `start` of a row that is up
does not get as far as the teardown, and a `stop` or a `delete` that tears down also writes or
deletes the row. -/
def KeepsTunnels (crates : Crates) (w : World) (a : InterfaceStep) : Prop :=
  match a.call with
  | .create _ => True
  | .start id => ∀ iface, Configured a.plan crates (w.seen a.env) id iface → iface.status = .up →
      a.plan.routes crates iface (w.db.peersOf iface.id) = true →
      a.plan.takesDown iface.name = true → a.plan.masquerades a.env iface w.net = true
  | .stop id => ∀ iface, a.plan.readInterface w.db id = some iface → iface.status = .up →
      a.plan.takesDown iface.name = true →
      a.plan.savesInterface (iface.withStatus .down) a.env.now = true
  | .update _ _ => True
  | .delete id => ∀ iface, a.plan.readInterface w.db id = some iface → iface.status = .up →
      a.plan.takesDown iface.name = true → a.plan.deletesInterface id = true

variable {crates : Crates} {plan : Plan} {w w' : World} {id : Id InterfaceMarker}
  {iface row : Interface} {devices : Devices} {now : DateTime}

/-! ## One row -/

/-- Only one row's device can have changed. -/
theorem alive_of_devices (h : TunnelsAlive w) (hmem : iface ∈ w.db.interfaces.rows)
    (hothers : ∀ name, name ≠ iface.name → devices.isUp name = w.devices.isUp name) :
    AliveIn w.db devices ↔ (iface.status = .up → devices.isUp iface.name = true) := by
  refine ⟨fun h' => h' iface hmem, fun h' row hrow hup => ?_⟩
  by_cases hname : row.name = iface.name
  · rw [Db.eq_of_name hrow hmem hname] at hup ⊢
    exact h' hup
  · rw [hothers row.name hname]
    exact h row hrow hup

/-- Only one row was written, and only its device can have changed. -/
theorem alive_of_update (h : TunnelsAlive w) (hmem : iface ∈ w.db.interfaces.rows)
    (hid : row.id = iface.id)
    (hothers : ∀ name, name ≠ iface.name → devices.isUp name = w.devices.isUp name) :
    AliveIn (w.db.updateInterface row now) devices ↔
      (row.status = .up → devices.isUp iface.name = true) := by
  constructor
  · intro h' hup
    exact h' { row with name := iface.name, createdAt := iface.createdAt, updatedAt := now }
      (Db.mem_update_interface.mpr (.inr ⟨iface, hmem, hid.symm, rfl⟩)) hup
  · intro h' row' hrow' hup
    rcases Db.mem_update_interface.mp hrow' with ⟨hrow', hne⟩ | ⟨old, hold, hsame, rfl⟩
    · rw [hothers row'.name fun hname => hne (hid ▸ congrArg Interface.id
        (Db.eq_of_name hrow' hmem hname))]
      exact h row' hrow' hup
    · rw [Db.eq_of_interface_id hold hmem (hsame.trans hid)]
      exact h' hup

/-! ## One operation -/

theorem created_alive {input : CreateInterfaceInput} {result : Except CoreError Interface}
    (h : TunnelsAlive w) (hend : Created plan crates w input result w') : TunnelsAlive w' := by
  cases hend with
  | rejected e => exact h
  | created row db key _ _ hstatus _ _ _ _ hdb =>
      obtain ⟨-, hmem, -⟩ := Db.insert_interface_ok hdb
      intro row' hrow' hup
      rcases (hmem row').mp hrow' with hrow' | rfl
      · simpa using h row' hrow' hup
      · rw [hstatus] at hup
        cases hup

theorem started_alive {result : Except CoreError Interface} (h : TunnelsAlive w)
    (hend : Started plan crates w id result w') :
    TunnelsAlive w' ↔ ∀ iface, Configured plan crates w id iface → iface.status = .up →
      plan.routes crates iface (w.db.peersOf iface.id) = true →
      plan.takesDown iface.name = true → plan.masquerades w.env iface w.net = true := by
  have hsame : ∀ {iface iface'}, Configured plan crates w id iface →
      Configured plan crates w id iface' → iface' = iface :=
    fun hconf hconf' => Option.some.inj (hconf'.read.symm.trans hconf.read)
  cases hend with
  | unconfigured e hnone =>
      exact iff_of_true h fun iface hconf => absurd hconf (hnone iface)
  | unrouted e iface hconf hroutes =>
      have hmem := (Plan.read_interface_some hconf.read).1
      refine (alive_of_devices h hmem fun name hname => by simp [hname]).trans ?_
      refine iff_of_true (fun _ => by simp [hconf.configures]) fun iface' hconf' _ hroutes' => ?_
      rw [hsame hconf hconf', hroutes] at hroutes'
      cases hroutes'
  | unmasqueraded e iface spawned w' hconf hroutes hmasq =>
      have hmem := (Plan.read_interface_some hconf.read).1
      have hfail : plan.masquerades w.env iface w.net = false :=
        Bool.eq_false_iff.mpr fun htrue => nomatch hmasq.ok_iff.mpr htrue
      have hdevices : w'.devices = plan.down iface.name
          (plan.up crates iface (w.db.peersOf iface.id) w.devices) := by
        cases hmasq <;> rfl
      rw [TunnelsAlive, hmasq.frame.1, hdevices]
      refine (alive_of_devices h hmem fun name hname => by simp [hname]).trans ?_
      simp only [Plan.is_up_down, Plan.is_up_up, hconf.configures, decide_true, Bool.true_and,
        Bool.true_or, Bool.and_true, Bool.not_eq_true']
      constructor
      · intro hdown iface' hconf' hup _ htakes
        rw [hsame hconf hconf'] at hup htakes
        rw [hdown hup] at htakes
        cases htakes
      · intro hkeeps hup
        by_contra htakes
        have := hkeeps iface hconf hup hroutes (by simpa using htakes)
        rw [hfail] at this
        cases this
  | unsaved e iface spawned w' hconf hroutes hmasq _ =>
      have hmem := (Plan.read_interface_some hconf.read).1
      have hdevices : w'.devices = plan.up crates iface (w.db.peersOf iface.id) w.devices := by
        cases hmasq <;> rfl
      rw [TunnelsAlive, hmasq.frame.1, hdevices]
      refine (alive_of_devices h hmem fun name hname => by simp [hname]).trans ?_
      refine iff_of_true (fun _ => by simp [hconf.configures]) fun iface' hconf' _ _ _ => ?_
      rw [hsame hconf hconf']
      exact hmasq.ok_iff.mp rfl
  | saved iface spawned w' hconf hroutes hmasq _ =>
      have hmem := (Plan.read_interface_some hconf.read).1
      have hdevices : w'.devices = plan.up crates iface (w.db.peersOf iface.id) w.devices := by
        cases hmasq <;> rfl
      rw [TunnelsAlive, hdevices]
      refine (alive_of_update h hmem (iface.with_status_id .up)
        fun name hname => by simp [hname]).trans ?_
      refine iff_of_true (fun _ => by simp [hconf.configures]) fun iface' hconf' _ _ _ => ?_
      rw [hsame hconf hconf']
      exact hmasq.ok_iff.mp rfl

theorem stopped_alive {result : Except CoreError Interface} (h : TunnelsAlive w)
    (hend : Stopped plan w id result w') :
    TunnelsAlive w' ↔ ∀ iface, plan.readInterface w.db id = some iface → iface.status = .up →
      plan.takesDown iface.name = true →
      plan.savesInterface (iface.withStatus .down) w.env.now = true := by
  cases hend with
  | absent e hnone => exact iff_of_true h fun iface hread => by simp [hnone] at hread
  | refused e iface spawned hread htakes =>
      refine iff_of_true h fun iface' hread' _ htakes' => ?_
      obtain rfl := Option.some.inj (hread.symm.trans hread')
      exact absurd (htakes.symm.trans htakes') Bool.false_ne_true
  | unsaved e iface spawned hread htakes hsaves =>
      refine (alive_of_devices h (Plan.read_interface_some hread).1
        fun name hname => by simp [hname]).trans ?_
      simp [hread, htakes, hsaves]
  | saved iface spawned hread htakes hsaves =>
      refine (alive_of_update h (Plan.read_interface_some hread).1 (iface.with_status_id .down)
        fun name hname => by simp [hname]).trans ?_
      simp [hread, hsaves]

theorem updated_alive {input : UpdateInterfaceInput} {result : Except CoreError Interface}
    (h : TunnelsAlive w) (hend : Updated plan crates w id input result w') : TunnelsAlive w' := by
  cases hend with
  | rejected e _ => exact h
  | idle old iface haccepted _ =>
      obtain ⟨hid, -, hstatus, -⟩ := haccepted.row
      have hmem := (Plan.read_interface_some haccepted.read).1
      exact (alive_of_update h hmem hid fun _ _ => rfl).mpr (hstatus ▸ h old hmem)
  | unlisted e old iface haccepted _ _ =>
      obtain ⟨hid, -, hstatus, -⟩ := haccepted.row
      have hmem := (Plan.read_interface_some haccepted.read).1
      exact (alive_of_update h hmem hid fun _ _ => rfl).mpr (hstatus ▸ h old hmem)
  | reapplied old iface net haccepted _ _ _ =>
      obtain ⟨hid, hname, hstatus, -⟩ := haccepted.row
      have hmem := (Plan.read_interface_some haccepted.read).1
      refine (alive_of_update h hmem hid fun name hne => by simp [hname, hne]).mpr fun hup => ?_
      simp [h old hmem (hstatus ▸ hup)]

theorem deleted_alive {result : Except CoreError Unit} (h : TunnelsAlive w)
    (hend : Deleted plan w id result w') :
    TunnelsAlive w' ↔ ∀ iface, plan.readInterface w.db id = some iface → iface.status = .up →
      plan.takesDown iface.name = true → plan.deletesInterface id = true := by
  cases hend with
  | absent e hnone => exact iff_of_true h fun iface hread => by simp [hnone] at hread
  | kept e iface hread hdeletes =>
      have hmem := (Plan.read_interface_some hread).1
      refine (alive_of_devices h hmem fun name hname => by simp [hname]).trans ?_
      have halive := h iface hmem
      cases htakes : plan.takesDown iface.name <;> simp [hread, hdeletes, htakes]
      exact halive
  | deleted iface hread hdeletes =>
      refine iff_of_true (fun row hrow hup => ?_) (by simp [hdeletes])
      obtain ⟨hmem, hid⟩ := Plan.read_interface_some hread
      obtain ⟨hrow, hne⟩ := Db.mem_delete_interface.mp hrow
      have hname : row.name ≠ iface.name := fun hname =>
        hne (hid ▸ congrArg Interface.id (Db.eq_of_name hrow hmem hname))
      simpa [hname] using h row hrow hup

/-- An operation keeps every tunnel of a row that is up exactly when it meets its condition. -/
theorem tunnels_alive_step {a : InterfaceStep} (h : TunnelsAlive w) :
    TunnelsAlive (interfaceStep crates w a) ↔ KeepsTunnels crates w a := by
  have hseen : ∀ env, TunnelsAlive (w.seen env) := fun _ => h
  have hend := ended crates w a
  generalize interfaceStep crates w a = w' at hend ⊢
  generalize (a.outcome crates w).1 = result at hend
  cases hend with
  | create result hend => exact iff_of_true (created_alive (hseen _) hend) trivial
  | start result hend => exact started_alive (hseen _) hend
  | stop result hend => exact stopped_alive (hseen _) hend
  | update result hend => exact iff_of_true (updated_alive (hseen _) hend) trivial
  | delete result hend => exact (deleted_alive (hseen _) hend :)

/-- From a state in which every row that is up has its tunnel, this stays so throughout a run
exactly when every operation keeps the tunnels. -/
theorem tunnels_alive_iff (crates : Crates) (w : World) (run : List InterfaceStep)
    (h : TunnelsAlive w) :
    Runs.Always (interfaceStep crates) TunnelsAlive w run ↔
      Runs.EachStep (interfaceStep crates) (KeepsTunnels crates) w run := by
  have hok : Runs.EachStep (interfaceStep crates) (fun _ _ => True) w run :=
    .of_forall fun _ _ => trivial
  exact Runs.always_iff_each_step (fun _ _ _ h hkeeps => (tunnels_alive_step h).mpr hkeeps)
    (fun _ _ _ h hkeeps halive => hkeeps ((tunnels_alive_step h).mp halive)) hok h

/-- A running interface is started again after its gateway has disappeared from the host. -/
def gatewayGone : List InterfaceStep :=
  [⟨.create (.plain "wg0" (some "eth0") none), .none, (World.fresh ["eth0"]).env⟩,
    ⟨.start ⟨0⟩, .none, (World.fresh ["eth0"]).env⟩,
    ⟨.start ⟨0⟩, .none, (World.fresh []).env⟩]

/-- The row is still up, and the tunnel is gone. -/
theorem tunnel_lost :
    TunnelsAlive (.fresh ["eth0"]) ∧
      ¬ Runs.Always (interfaceStep .transparent) TunnelsAlive (.fresh ["eth0"]) gatewayGone := by
  refine ⟨by decide, fun h => ?_⟩
  have hlost : ¬ TunnelsAlive
      (Runs.after (interfaceStep .transparent) (.fresh ["eth0"]) gatewayGone) := by
    decide +kernel
  exact hlost h.last

theorem tunnels_alive_iff_fresh :
    Runs.Always (interfaceStep .transparent) TunnelsAlive (.fresh ["eth0"]) (gatewayGone.take 2) ↔
      Runs.EachStep (interfaceStep .transparent) (KeepsTunnels .transparent) (.fresh ["eth0"])
        (gatewayGone.take 2) :=
  tunnels_alive_iff _ _ _ (by decide)

end Wireforge
