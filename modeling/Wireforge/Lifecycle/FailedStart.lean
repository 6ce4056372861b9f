import Wireforge.Lifecycle.InterfaceRun

/-!
# What a failed start leaves

When NAT cannot be applied, `start` takes the device down again but leaves the forwarding flags and
the rules that were applied before the failure; a failure after that leaves everything.
`failed_start_iff` lists what the host must look like for a failed start to leave no trace.
-/

namespace Wireforge

open Effect InterfaceService

/-- The rule that `apply` tries first. -/
def inboundRule (wg : String) : Rule :=
  ⟨none, ["FORWARD", "-i", wg, "-j", "ACCEPT"]⟩

/-- The rules and the forwarding flags are as before, and the device is not up. -/
def Undone (name : String) (w w' : World) : Prop :=
  (w'.net.tables = w.net.tables ∧ w'.net.forward = w.net.forward) ∧ w'.devices.isUp name = false

/-- An `apply` that fails has changed a flag or a rule: forwarding was off and could be switched
on, or all of forwarding is on and the first rule could be applied. -/
def Plan.Touches (plan : Plan) (iface : Interface) (net : NetState) : Prop :=
  plan.raises .v4 net = true ∧ (net.forward .v4 = false ∨
    (∀ family ∈ iface.families, plan.raises family net = true) ∧
      ((∃ family ∈ iface.families, net.forward family = false) ∨
        plan.lands .v4 (inboundRule iface.name) (net.tables .v4) = true))

/-- A `start` that fails and leaves a trace: the device is configured and then the routes fail, or
the row cannot be written, or masquerading fails with a device that cannot be removed or after it
has changed the firewall. -/
def LeavesTrace (plan : Plan) (crates : Crates) (w : World) (iface : Interface) : Prop :=
  Configured plan crates w iface.id iface ∧
    (plan.routes crates iface (w.db.peersOf iface.id) = false ∨
      if plan.masquerades w.env iface w.net then
        plan.savesInterface (iface.withStatus .up) w.env.now = false
      else plan.takesDown iface.name = false ∨
        ∃ gw, iface.gateway = some gw ∧ plan.acceptsGateway w.env gw = true ∧
          plan.Touches iface w.net)

variable {plan : Plan} {crates : Crates} {w : World} {iface : Interface} {gw : String}
  {net net' : NetState}

/-- A failed `apply` over a table without its first rule leaves the firewall alone exactly when it
touches nothing. -/
theorem Applied.untouched_iff {e : CoreError} (h : Applied plan iface gw net (.error e) net')
    (hnew : (inboundRule iface.name).entry ∉ net.tables .v4) :
    net'.tables = net.tables ∧ net'.forward = net.forward ↔ ¬ plan.Touches iface net := by
  have hfirst : iface.families.head? = some .v4 := by
    unfold Interface.families
    split <;> rfl
  cases h with
  | v4Stuck _ hstuck =>
      exact iff_of_true ⟨rfl, rfl⟩ fun h => Bool.false_ne_true (hstuck.symm.trans h.1)
  | v6Stuck _ hv4 hsome hstuck =>
      have hsame : Function.update net.forward .v4 true = net.forward ↔ net.forward .v4 = true :=
        Function.update_eq_self_iff.trans eq_comm
      have hnotall : ¬ ∀ family ∈ iface.families, plan.raises family net = true := fun h =>
        Bool.false_ne_true (hstuck.symm.trans (h .v6 (mem_families.mpr fun _ => hsome)))
      simp [Plan.Touches, NetState.setForward, hv4, hnotall, hsame]
  | forwarded _ tables hraises hins =>
      have hv4 : .v4 ∈ iface.families := List.mem_of_mem_head? hfirst
      have hflags : (fun family => decide (family ∈ iface.families) || net.forward family) =
          net.forward ↔ ¬ ∃ family ∈ iface.families, net.forward family = false := by
        rw [funext_iff]
        push Not
        refine forall_congr' fun family => ?_
        by_cases h : family ∈ iface.families <;> simp [h]
      have htables : tables = net.tables ↔
          plan.lands .v4 (inboundRule iface.name) (net.tables .v4) = false := by
        have hhead := hins.first .v4 hfirst (inboundRule iface.name) rfl
        split at hhead
        · rename_i hlands
          rw [hlands]
          exact iff_of_false (fun heq => hnew (heq ▸ hhead)) fun h => Bool.false_ne_true h.symm
        · rename_i hlands
          exact iff_of_true hhead (by simpa using hlands)
      have hoff : net.forward .v4 = false → ∃ family ∈ iface.families,
          net.forward family = false := fun hoff => ⟨.v4, hv4, hoff⟩
      simp only [Plan.Touches, htables, hflags, hraises .v4 hv4, eq_true hraises, true_and,
        ← Bool.not_eq_true (plan.lands _ _ _)]
      rw [or_iff_right_of_imp fun h => .inl (hoff h), not_or, and_comm]

/-- A `start` of an interface that is down and has no rules leaves no trace if it fails, exactly
when it does not end in one of the ways that leave one. -/
theorem failed_start_iff (plan : Plan) (crates : Crates) (w : World) (iface : Interface)
    (hrow : iface ∈ w.db.interfaces.rows) (hdown : w.devices.isUp iface.name = false)
    (hnew : (inboundRule iface.name).entry ∉ w.net.tables .v4) :
    (∀ e, (eval (handle plan) (start crates iface.id) w).1 = .error e →
        Undone iface.name w (eval (handle plan) (start crates iface.id) w).2) ↔
      ¬ LeavesTrace plan crates w iface := by
  obtain ⟨result, w', heval, hend⟩ := start_spec plan crates w iface.id
  have hsame : ∀ {iface'}, Configured plan crates w iface.id iface' → iface' = iface :=
    fun hconf => Db.eq_of_interface_id (Plan.read_interface_some hconf.read).1 hrow
      (Plan.read_interface_some hconf.read).2
  simp only [heval]
  cases hend with
  | unconfigured e hnone =>
      exact iff_of_true (fun _ _ => ⟨⟨rfl, rfl⟩, hdown⟩) fun h => hnone iface h.1
  | unrouted e iface' hconf hroutes =>
      obtain rfl := hsame hconf
      refine iff_of_false (fun h => ?_) fun h => h ⟨hconf, .inl hroutes⟩
      have := (h e rfl).2
      simp [hconf.configures] at this
  | unmasqueraded e iface' spawned _ hconf hroutes hmasq =>
      obtain rfl := hsame hconf
      have hfail : plan.masquerades w.env iface' w.net = false :=
        Bool.eq_false_iff.mpr fun htrue => nomatch hmasq.ok_iff.mpr htrue
      have hdevice : w'.devices.isUp iface'.name = false ↔ plan.takesDown iface'.name = true := by
        have hdevices : w'.devices = plan.down iface'.name
            (plan.up crates iface' (w.db.peersOf iface'.id) w.devices) := by
          cases hmasq <;> rfl
        simp [hdevices, hconf.configures]
      have hnet : w'.net.tables = w.net.tables ∧ w'.net.forward = w.net.forward ↔
          ¬ ∃ gw, iface'.gateway = some gw ∧ plan.acceptsGateway w.env gw = true ∧
            plan.Touches iface' w.net := by
        cases hmasq with
        | rejected gw _ hgw haccepts => simp [hgw, haccepts]
        | failed gw _ net hgw haccepts happlied =>
            simp [hgw, haccepts, happlied.untouched_iff hnew]
      simp only [Except.error.injEq, forall_eq', Undone, hdevice, hnet, LeavesTrace, hconf, hroutes,
        hfail]
      simp
      tauto
  | unsaved e iface' spawned _ hconf hroutes hmasq hsaves =>
      obtain rfl := hsame hconf
      have hdevices : w'.devices = plan.up crates iface' (w.db.peersOf iface'.id) w.devices := by
        cases hmasq <;> rfl
      refine iff_of_false (fun h => ?_) fun h => h ⟨hconf, .inr ?_⟩
      · have := (h e rfl).2
        simp [hdevices, hconf.configures] at this
      · rwa [if_pos (hmasq.ok_iff.mp rfl)]
  | saved iface' spawned w₂ hconf hroutes hmasq hsaves =>
      obtain rfl := hsame hconf
      refine iff_of_true nofun fun h => ?_
      rcases h.2 with h | h
      · exact Bool.false_ne_true (h.symm.trans hroutes)
      · rw [if_pos (hmasq.ok_iff.mp rfl)] at h
        exact Bool.false_ne_true (h.symm.trans hsaves)

theorem failed_start_iff_plain :
    (∀ e, (eval (handle .none) (start .transparent ⟨0⟩)
          (.withInterface (.plain 0 "wg0" (some "eth0") none))).1 = .error e →
        Undone "wg0" (.withInterface (.plain 0 "wg0" (some "eth0") none))
          (eval (handle .none) (start .transparent ⟨0⟩)
            (.withInterface (.plain 0 "wg0" (some "eth0") none))).2) ↔
      ¬ LeavesTrace .none .transparent (.withInterface (.plain 0 "wg0" (some "eth0") none))
        (.plain 0 "wg0" (some "eth0") none) :=
  failed_start_iff .none .transparent (.withInterface (.plain 0 "wg0" (some "eth0") none))
    (.plain 0 "wg0" (some "eth0") none) (by simp [World.withInterface]) rfl
    List.not_mem_nil

/-- The masquerading rule cannot be inserted. -/
def Plan.noMasquerade : Plan where
  error _ := .none
  exit
    | .runIpt _ ("-t" :: "nat" :: "-I" :: _) => false
    | _ => true

/-- The start fails, and forwarding is on and the first two rules are there. -/
theorem trace_left :
    (World.withInterface (.plain 0 "wg0" (some "eth0") none)).devices.isUp "wg0" = false ∧
      (∀ family, (World.withInterface (.plain 0 "wg0" (some "eth0") none)).net.tables family = []) ∧
      ∃ e w', eval (handle .noMasquerade) (start .transparent ⟨0⟩)
          (.withInterface (.plain 0 "wg0" (some "eth0") none)) = (.error e, w') ∧
        ¬ Undone "wg0" (.withInterface (.plain 0 "wg0" (some "eth0") none)) w' := by
  refine ⟨by decide +kernel, fun _ => rfl, _, _, rfl, fun h => ?_⟩
  exact absurd (congrFun h.1.2 .v4) (by decide +kernel)

end Wireforge
