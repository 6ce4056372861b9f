import Wireforge.Lifecycle.InterfaceRun

/-!
# Up and masqueraded

`start` takes a tunnel down again when it cannot be masqueraded, so that a tunnel is never up
without its rules. `never_bare` states for which operations this holds.
-/

namespace Wireforge

open Effect InterfaceService

/-- If the row is up, has a gateway and its device is up, its rules are installed. -/
def MaskedIn (id : Id InterfaceMarker) (db : Db) (devices : Devices) (net : NetState) : Prop :=
  ∀ row ∈ db.interfaces.rows, row.id = id → row.status = .up → ∀ gw ∈ row.gateway,
    devices.isUp row.name = true → RulesInstalled net row gw

/-- The interface is not up without its rules. -/
def NeverBare (id : Id InterfaceMarker) (w : World) : Prop :=
  MaskedIn id w.db w.devices w.net

instance (id : Id InterfaceMarker) (w : World) : Decidable (NeverBare id w) :=
  inferInstanceAs (Decidable (∀ row ∈ w.db.interfaces.rows, _))

/-- The operation starts, stops or edits the interface. -/
def InterfaceCall.Operates (id : Id InterfaceMarker) : InterfaceCall → Prop
  | .start id' => id' = id
  | .stop id' => id' = id
  | .update id' _ => id' = id
  | _ => False

/-- Removing the rules for a gateway leaves them all: each cannot be deleted or has a second
copy. -/
def Plan.SparesRules (plan : Plan) (iface : Interface) (gateway : String) (net : NetState) :
    Prop :=
  ∀ family ∈ iface.families, ∀ rule ∈ natRules iface.name gateway,
    plan.deletes family rule = true → 2 ≤ (net.tables family).count rule.entry

/-- An operation on an interface that is up does not leave its device up without rules: a `start`
without the rules can set the routes, and install the rules or tear down; a `stop` tears down what
it takes the rules from; an edit finds its peers and installs the rules, or finds them installed. -/
def KeepsRules (crates : Crates) (w : World) (a : InterfaceStep) : Prop :=
  match a.call with
  | .start id => ∀ iface gw, Configured a.plan crates (w.seen a.env) id iface →
      iface.status = .up → iface.gateway = some gw → ¬ RulesInstalled w.net iface gw →
      a.plan.routes crates iface (w.db.peersOf iface.id) = true ∧
        (a.plan.masquerades a.env iface w.net = true ∨ a.plan.takesDown iface.name = true)
  | .stop id => ∀ iface gw, a.plan.readInterface w.db id = some iface → iface.status = .up →
      iface.gateway = some gw → w.devices.isUp iface.name = true →
      a.plan.takesDown iface.name = true ∨ a.plan.SparesRules iface gw w.net
  | .update id input => ∀ old iface gw,
      Accepted a.plan crates (w.seen a.env) id input old iface → old.status = .up →
      iface.gateway = some gw →
      if a.plan.listsPeers old.id = true then
        a.plan.configures crates iface (w.db.peersOf old.id) = true ∨
            w.devices.isUp old.name = true →
          a.plan.applies iface gw (a.plan.unmasqueraded iface old.gateway w.net) = true
      else w.devices.isUp old.name = true → RulesInstalled w.net iface gw
  | _ => True

variable {crates : Crates} {plan : Plan} {w w' : World} {id : Id InterfaceMarker}
  {iface row : Interface} {devices : Devices} {net : NetState} {now : DateTime}

/-! ## One row -/

/-- The property is about one row. -/
theorem masked_of_row (hmem : iface ∈ w.db.interfaces.rows) (hid : iface.id = id)
    (h : iface.status = .up → ∀ gw, iface.gateway = some gw → devices.isUp iface.name = true →
      RulesInstalled net iface gw) : MaskedIn id w.db devices net := by
  intro row hrow hsame
  rw [Db.eq_of_interface_id hrow hmem (hsame.trans hid.symm)]
  exact h

/-- The property after the row has been written. -/
theorem masked_of_update (hmem : iface ∈ w.db.interfaces.rows) (hid : iface.id = id)
    (hrow : row.id = id) (hname : row.name = iface.name)
    (h : row.status = .up → ∀ gw, row.gateway = some gw → devices.isUp row.name = true →
      RulesInstalled net row gw) :
    MaskedIn id (w.db.updateInterface row now) devices net := by
  intro row' hrow' hsame
  rcases Db.mem_update_interface.mp hrow' with ⟨-, hne⟩ | ⟨old, hold, heq, rfl⟩
  · exact absurd (hsame.trans hrow.symm) hne
  · rw [Db.eq_of_interface_id hold hmem (heq.trans (hrow.trans hid.symm)), ← hname]
    exact h

/-! ## One operation -/

theorem started_masked {result : Except CoreError Interface} (h : NeverBare id w)
    (hend : Started plan crates w id result w')
    (hkeeps : ∀ iface gw, Configured plan crates w id iface → iface.status = .up →
      iface.gateway = some gw → ¬ RulesInstalled w.net iface gw →
      plan.routes crates iface (w.db.peersOf iface.id) = true ∧
        (plan.masquerades w.env iface w.net = true ∨ plan.takesDown iface.name = true)) :
    NeverBare id w' := by
  have hrow : ∀ {iface}, Configured plan crates w id iface →
      iface ∈ w.db.interfaces.rows ∧ iface.id = id :=
    fun hconf => Plan.read_interface_some hconf.read
  have hinstalled : ∀ {iface w₁ w₂ gw}, Masqueraded plan iface w₁ (.ok ()) w₂ →
      iface.gateway = some gw → RulesInstalled w₂.net iface gw := by
    intro iface w₁ w₂ gw hmasq hgw
    cases hmasq with
    | ungated hnone => exact nomatch hnone.symm.trans hgw
    | applied gw' net hgw' _ happlied =>
        cases hgw.symm.trans hgw'
        exact happlied.installed
  cases hend with
  | unconfigured e _ => exact h
  | unrouted e iface hconf hroutes =>
      refine masked_of_row (hrow hconf).1 (hrow hconf).2 fun hup gw hgw _ => ?_
      by_contra hmissing
      exact Bool.false_ne_true (hroutes.symm.trans (hkeeps iface gw hconf hup hgw hmissing).1)
  | unmasqueraded e iface spawned _ hconf hroutes hmasq =>
      have hfail : plan.masquerades w.env iface w.net = false :=
        Bool.eq_false_iff.mpr fun htrue => nomatch hmasq.ok_iff.mpr htrue
      have hdevices : w'.devices = plan.down iface.name
          (plan.up crates iface (w.db.peersOf iface.id) w.devices) := by
        cases hmasq <;> rfl
      have hmem : ∀ family entry, entry ∈ w.net.tables family → entry ∈ w'.net.tables family := by
        intro family entry hentry
        cases hmasq with
        | rejected => exact hentry
        | failed _ _ _ _ _ happlied => exact happlied.mem hentry
      rw [NeverBare, hmasq.frame.1]
      refine masked_of_row (hrow hconf).1 (hrow hconf).2 fun hup gw hgw hdev => ?_
      have htakes : plan.takesDown iface.name = false := by
        rw [hdevices] at hdev
        simp only [Plan.is_up_down, decide_true, Bool.true_and, Bool.and_eq_true,
          Bool.not_eq_true'] at hdev
        exact hdev.1
      have hbefore : RulesInstalled w.net iface gw := by
        by_contra hmissing
        have := (hkeeps iface gw hconf hup hgw hmissing).2
        simp [hfail, htakes] at this
      exact fun family hfamily rule hrule => hmem _ _ (hbefore family hfamily rule hrule)
  | unsaved e iface spawned _ hconf _ hmasq _ =>
      rw [NeverBare, hmasq.frame.1]
      exact masked_of_row (hrow hconf).1 (hrow hconf).2 fun _ gw hgw _ => hinstalled hmasq hgw
  | saved iface spawned w₂ hconf _ hmasq _ =>
      exact masked_of_update (hrow hconf).1 (hrow hconf).2 (hrow hconf).2 rfl
        fun _ gw hgw _ => (hinstalled hmasq hgw :)

theorem stopped_masked {result : Except CoreError Interface} (h : NeverBare id w)
    (hend : Stopped plan w id result w')
    (hkeeps : ∀ iface gw, plan.readInterface w.db id = some iface → iface.status = .up →
      iface.gateway = some gw → w.devices.isUp iface.name = true →
      plan.takesDown iface.name = true ∨ plan.SparesRules iface gw w.net) : NeverBare id w' := by
  cases hend with
  | absent e _ => exact h
  | refused e iface spawned hread htakes =>
      obtain ⟨hmem, hid⟩ := Plan.read_interface_some hread
      refine masked_of_row hmem hid fun hup gw hgw hdev family hfamily rule hrule => ?_
      have hspares := (hkeeps iface gw hread hup hgw hdev).resolve_left (by simp [htakes])
      have hbefore := h iface hmem hid hup gw hgw hdev family hfamily rule hrule
      simp only [Plan.unmasqueraded, hgw, Plan.removed, if_pos hfamily]
      rw [Plan.mem_erased (nodup_nat_rules _ _) hrule]
      split
      · exact hspares family hfamily rule hrule ‹_›
      · exact hbefore
  | unsaved e iface spawned hread _ _ =>
      obtain ⟨hmem, hid⟩ := Plan.read_interface_some hread
      exact masked_of_row hmem hid fun _ _ _ hdev => by simp at hdev
  | saved iface spawned hread _ _ =>
      obtain ⟨hmem, hid⟩ := Plan.read_interface_some hread
      exact masked_of_update hmem hid hid rfl fun hup => by cases hup

theorem updated_masked {input : UpdateInterfaceInput} {result : Except CoreError Interface}
    (h : NeverBare id w)
    (hend : Updated plan crates w id input result w')
    (hkeeps : ∀ old iface gw, Accepted plan crates w id input old iface → old.status = .up →
      iface.gateway = some gw →
      if plan.listsPeers old.id = true then
        plan.configures crates iface (w.db.peersOf old.id) = true ∨
            w.devices.isUp old.name = true →
          plan.applies iface gw (plan.unmasqueraded iface old.gateway w.net) = true
      else w.devices.isUp old.name = true → RulesInstalled w.net iface gw) : NeverBare id w' := by
  cases hend with
  | rejected e _ => exact h
  | idle old iface haccepted hdown =>
      obtain ⟨hid, hname, hstatus, -⟩ := haccepted.row
      obtain ⟨hmem, hold⟩ := Plan.read_interface_some haccepted.read
      exact masked_of_update hmem hold (hid.trans hold) hname
        fun hup => absurd (hstatus.symm.trans hup) hdown
  | unlisted e old iface haccepted hup hlists =>
      obtain ⟨hid, hname, -⟩ := haccepted.row
      obtain ⟨hmem, hold⟩ := Plan.read_interface_some haccepted.read
      refine masked_of_update hmem hold (hid.trans hold) hname fun _ gw hgw hdev => ?_
      have := hkeeps old iface gw haccepted hup hgw
      rw [if_neg (by simp [hlists])] at this
      exact this (hname ▸ hdev)
  | reapplied old iface net haccepted hup hlists hnet =>
      obtain ⟨hid, hname, -⟩ := haccepted.row
      obtain ⟨hmem, hold⟩ := Plan.read_interface_some haccepted.read
      refine masked_of_update hmem hold (hid.trans hold) hname fun _ gw hgw hdev => ?_
      have happlies := hkeeps old iface gw haccepted hup hgw
      rw [if_pos hlists] at happlies
      cases hnet with
      | ungated hnone => exact nomatch hnone.symm.trans hgw
      | applied gw' result _ hgw' happlied =>
          cases hgw.symm.trans hgw'
          have hok : result = .ok () := happlied.ok_iff.mpr (happlies (by simpa [hname] using hdev))
          exact (hok ▸ happlied).installed

/-- An operation on the interface that meets its condition keeps it from being up without its
rules. -/
theorem never_bare_step {a : InterfaceStep} (h : NeverBare id w) (hcall : a.call.Operates id)
    (hkeeps : KeepsRules crates w a) : NeverBare id (interfaceStep crates w a) := by
  have hseen : ∀ env, NeverBare id (w.seen env) := fun _ => h
  have hend := ended crates w a
  generalize interfaceStep crates w a = w' at hend ⊢
  generalize (a.outcome crates w).1 = result at hend
  cases hend with
  | create result hend => exact hcall.elim
  | start result hend =>
      cases hcall
      exact started_masked (hseen _) hend hkeeps
  | stop result hend =>
      cases hcall
      exact stopped_masked (hseen _) hend hkeeps
  | update result hend =>
      cases hcall
      exact updated_masked (hseen _) hend hkeeps
  | delete result hend => exact hcall.elim

/-- An interface that is not up without its rules stays so throughout a run of operations on it
that all meet their condition. -/
theorem never_bare (crates : Crates) (id : Id InterfaceMarker) (w : World)
    (run : List InterfaceStep) (hcalls : ∀ a ∈ run, a.call.Operates id) (h : NeverBare id w)
    (hkeeps : Runs.EachStep (interfaceStep crates) (KeepsRules crates) w run) :
    Runs.Always (interfaceStep crates) (NeverBare id) w run :=
  Runs.always_of_each_step (fun _ _ h hboth => never_bare_step h hboth.1 hboth.2) h
    ((Runs.EachStep.of_mem hcalls).and hkeeps)

/-- The device cannot be removed. -/
def Plan.stuckDevice : Plan where
  error
    | .removeDevice _ => some "device or resource busy"
    | _ => .none
  exit _ := true

/-- An interface is started, and stopped while its device cannot be removed. -/
def stuckStop : List InterfaceStep :=
  [⟨.start ⟨0⟩, .none, (World.fresh ["eth0"]).env⟩,
    ⟨.stop ⟨0⟩, .stuckDevice, (World.fresh ["eth0"]).env⟩]

/-- The interface stays up, without its rules. -/
theorem left_bare :
    (∀ a ∈ stuckStop, a.call.Operates ⟨0⟩) ∧
      NeverBare ⟨0⟩ (.withInterface (.plain 0 "wg0" (some "eth0") none)) ∧
      ¬ Runs.Always (interfaceStep .transparent) (NeverBare ⟨0⟩)
        (.withInterface (.plain 0 "wg0" (some "eth0") none)) stuckStop := by
  refine ⟨by simp [stuckStop, InterfaceCall.Operates], by decide +kernel, fun h => ?_⟩
  have hbare : ¬ NeverBare ⟨0⟩ (Runs.after (interfaceStep .transparent)
      (.withInterface (.plain 0 "wg0" (some "eth0") none)) stuckStop) := by
    decide +kernel
  exact hbare h.last

theorem never_bare_stopped :
    Runs.Always (interfaceStep .transparent) (NeverBare ⟨0⟩)
      (.withInterface (.plain 0 "wg0" (some "eth0") none)) startedAndStopped :=
  never_bare _ _ _ _ (by simp [startedAndStopped, InterfaceCall.Operates]) (by decide +kernel)
    ⟨fun _ _ _ _ _ _ => ⟨rfl, .inr rfl⟩, fun _ _ _ _ _ _ => .inl rfl, trivial⟩

end Wireforge
