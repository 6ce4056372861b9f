import Wireforge.Firewall.NatRun
import Wireforge.Lib.Along

/-!
# Applying NAT again

An `apply` that stops midway leaves some of the rules, and the next one completes them. As long as
the probes tell the truth, no number of calls, failing anywhere, makes a second copy of a rule or
touches any other rule: `reapplied_rules_kept`.
-/

namespace Wireforge

open Effect RuleTable Runs

/-- A probe that can be spawned says whether the rule is present. -/
def Plan.ProbesTruthfully (plan : Plan) : Prop :=
  ∀ family rule, plan.exits family rule "-C" = true

/-- Compared with an earlier firewall, no rule of the interface has more copies than one or than
it had, and all other rules are the same in the same order. -/
def RulesKept (iface : Interface) (gateway : String) (net net' : NetState) : Prop :=
  ∀ family, Kept ((natRules iface.name gateway).map Rule.entry) (net.tables family)
    (net'.tables family)

/-- Ensuring a rule of the interface keeps the rules. -/
theorem RulesKept.ensure {iface : Interface} {gateway : String} {net : NetState} {w : World}
    {rule : Rule} (hrule : rule ∈ natRules iface.name gateway)
    (family : Family) (h : RulesKept iface gateway net w.net) :
    RulesKept iface gateway net
      (w.net.setTable family (RuleTable.ensure (w.net.tables family) rule.entry)) := by
  intro f
  unfold NetState.setTable
  by_cases hf : f = family
  · subst hf
    dsimp only
    rw [Function.update_self]
    exact (h f).ensure (List.mem_map_of_mem hrule)
  · dsimp only
    rw [Function.update_of_ne hf]
    exact h f

namespace IptablesNatAdapter

variable {plan : Plan} {iface : Interface} {gateway : String} {net : NetState} {w : World}

/-- A call that leaves the rules alone. -/
def SparesRules (plan : Plan) (c : Sys) : Prop :=
  ∀ w, (handle plan c w).2.net.tables = w.net.tables

/-- Enabling forwarding leaves the rules alone. -/
theorem enable_forward_spares (plan : Plan) (family : Family) :
    Issues (SparesRules plan) (enableForward family).run := by
  refine enable_forward_issues (fun w => rfl) fun w => ?_
  show (plan.run _ _ w).2.net.tables = _
  unfold Plan.run
  split <;> rfl

/-- A command runs in a firewall that is kept if it keeps the firewall. -/
theorem run_ipt_throughout {family : Family} {args : List String}
    (hkept : RulesKept iface gateway net w.net)
    (hlast : RulesKept iface gateway net (eval (handle plan) (runIpt family args) w).2.net) :
    Throughout (handle plan) (fun w => RulesKept iface gateway net w.net)
      (runIpt family args).run w :=
  ⟨along_map.mpr ⟨hkept, trivial⟩, hlast⟩

/-- Applying a rule of the interface keeps the rules throughout. -/
theorem apply_rule_throughout (hplan : plan.ProbesTruthfully) {rule : Rule}
    (hrule : rule ∈ natRules iface.name gateway) (family : Family)
    (hkept : RulesKept iface gateway net w.net) :
    Throughout (handle plan) (fun w => RulesKept iface gateway net w.net)
      (applyRule family rule).run w := by
  obtain ⟨hcheck, hinsert, -⟩ := parse_args_argv rule
  have hexits : plan.exit (.runIpt family (rule.argv "-C")) = true := hplan family rule
  -- the probe changes nothing, and finds the rule exactly if it is there
  have hprobe : ∀ result w', eval (handle plan) (runIpt family (rule.argv "-C")) w =
      (result, w') → w' = w ∧ ∀ found, result = .ok found →
        found = decide (rule.entry ∈ w.net.tables family) := by
    intro result w' heval
    cases hC : plan.error (.runIpt family (rule.argv "-C")) with
    | some e =>
        rw [eval_run_ipt_error hC] at heval
        obtain ⟨rfl, rfl⟩ := Prod.mk.inj heval
        exact ⟨rfl, fun found hfound => by cases hfound⟩
    | none =>
        rw [eval_run_ipt_ok hC, if_pos hexits] at heval
        simp only [iptables, hcheck, set_table_self] at heval
        obtain ⟨rfl, rfl⟩ := Prod.mk.inj heval
        exact ⟨rfl, fun found hfound => (Except.ok.inj hfound).symm⟩
  refine Throughout.run_bind (run_ipt_throughout hkept ?_) fun found w' heval => ?_
  · have hsame : (eval (handle plan) (runIpt family (rule.argv "-C")) w).2 = w :=
      (hprobe _ _ rfl).1
    rwa [hsame]
  obtain ⟨rfl, hfound⟩ := hprobe _ _ heval
  have hfound := hfound found rfl
  cases found with
  | true => exact ⟨trivial, hkept⟩
  | false =>
      have hnew : rule.entry ∉ w'.net.tables family := of_decide_eq_false hfound.symm
      have hlast : RulesKept iface gateway net
          (eval (handle plan) (runIpt family (rule.argv "-I")) w').2.net := by
        cases hI : plan.error (.runIpt family (rule.argv "-I")) with
        | some e =>
            rw [eval_run_ipt_error hI]
            exact hkept
        | none =>
            rw [eval_run_ipt_ok hI]
            split
            · have hins := hkept.ensure hrule family
              rw [RuleTable.ensure, if_neg hnew] at hins
              simpa only [iptables, hinsert] using hins
            · exact hkept
      refine Throughout.run_bind (run_ipt_throughout hkept hlast) fun inserted w'' heval => ?_
      rw [heval] at hlast
      cases inserted with
      | true => exact ⟨trivial, hlast⟩
      | false => exact ⟨trivial, hlast⟩

/-- Applying NAT keeps the rules throughout. -/
theorem apply_throughout (hplan : plan.ProbesTruthfully)
    (hkept : RulesKept iface gateway net w.net) :
    Throughout (handle plan) (fun w => RulesKept iface gateway net w.net)
      (apply iface gateway).run w := by
  have hframe : ∀ c, SparesRules plan c → ∀ w, RulesKept iface gateway net w.net →
      RulesKept iface gateway net (handle plan c w).2.net := by
    intro c hc w hw family
    rw [hc w]
    exact hw family
  have hspares : ∀ {α : Type} {program : App α} {w : World},
      Issues (SparesRules plan) program.run → RulesKept iface gateway net w.net →
        Throughout (handle plan) (fun w => RulesKept iface gateway net w.net) program.run w :=
    fun h hw => .of_issues h hframe hw
  have hremember : ∀ name snapshot, SparesRules plan (.rememberForward name snapshot) :=
    fun _ _ _ => rfl
  have hthen : ∀ {α : Type} {program : App α} {w w' : World} {value : α},
      Throughout (handle plan) (fun w => RulesKept iface gateway net w.net) program.run w →
        eval (handle plan) program w = (.ok value, w') → RulesKept iface gateway net w'.net := by
    intro α program w w' value h heval
    have hlast := h.last
    rwa [heval] at hlast
  -- the snapshot, and then the rules of each family in turn
  have hrules : ∀ v4WasOn v6WasOn w, RulesKept iface gateway net w.net →
      Throughout (handle plan) (fun w => RulesKept iface gateway net w.net) (do
        always (Sys.rememberForward iface.name ⟨v4WasOn, v6WasOn⟩).request
        forEach (fun family => applyRules family (natRules iface.name gateway))
          iface.families : App Unit).run w := by
    intro v4WasOn v6WasOn w hw
    have hsaved : Throughout (handle plan) (fun w => RulesKept iface gateway net w.net)
        (always (Sys.rememberForward iface.name ⟨v4WasOn, v6WasOn⟩).request : App Unit).run w :=
      hspares (Issues.run_always (Issues.request (hremember _ _))) hw
    refine hsaved.run_bind fun _ w' heval => ?_
    refine Throughout.run_for_each (fun family _ w hw => ?_) (hthen hsaved heval)
    exact Throughout.run_for_each
      (fun rule hrule w hw => apply_rule_throughout hplan hrule family hw) hw
  unfold apply
  have hv4 := hspares (enable_forward_spares plan .v4) hkept
  refine hv4.run_bind fun v4WasOn w' h4 => ?_
  dsimp only
  split
  · have hv6 := hspares (enable_forward_spares plan .v6) (hthen hv4 h4)
    exact hv6.run_bind fun v6WasOn w'' h6 => hrules v4WasOn v6WasOn w'' (hthen hv6 h6)
  · exact hrules v4WasOn true w' (hthen hv4 h4)

end IptablesNatAdapter

/-- The host after one more `apply`. -/
def reapply (iface : Interface) (gateway : String) (w : World) (plan : Plan) : World :=
  (eval (handle plan) (IptablesNatAdapter.apply iface gateway) w).2

/-- In every run of `apply` calls for one interface and gateway whose probes tell the truth,
whatever else fails: the rules are kept in every state of every call, compared with the firewall
that the run began with, and every call that returns `Ok` leaves all rules installed. -/
theorem reapplied_rules_kept (iface : Interface) (gateway : String) (w : World)
    (plans : List Plan) (hplans : ∀ plan ∈ plans, plan.ProbesTruthfully) :
    EachStep (reapply iface gateway) (fun s plan =>
      Throughout (handle plan) (fun s' => RulesKept iface gateway w.net s'.net)
        (IptablesNatAdapter.apply iface gateway).run s ∧
      ((eval (handle plan) (IptablesNatAdapter.apply iface gateway) s).1 = .ok () →
        RulesInstalled (reapply iface gateway s plan).net iface gateway)) w plans := by
  have hguard : EachStep (reapply iface gateway) (fun _ plan => plan.ProbesTruthfully) w plans :=
    .of_mem hplans
  have hkept : Always (reapply iface gateway) (fun s => RulesKept iface gateway w.net s.net) w
      plans :=
    always_of_each_step
      (fun s plan hs hplan => (IptablesNatAdapter.apply_throughout hplan hs).last)
      (fun family => Kept.refl _ _) hguard
  refine (hkept.each_step.and hguard).mono fun s plan h => ?_
  refine ⟨IptablesNatAdapter.apply_throughout h.2 h.1, fun hok => ?_⟩
  obtain ⟨result, net, heval, happlied⟩ := IptablesNatAdapter.apply_spec plan s iface gateway
  rw [heval] at hok
  obtain rfl : result = .ok () := hok
  unfold reapply
  rw [heval]
  exact happlied.installed

/-- Two calls on a fresh host. -/
theorem reapplied_rules_kept_twice :
    EachStep (reapply (.plain 0 "wg0" none none) "eth0") (fun s plan =>
      Throughout (handle plan)
        (fun s' => RulesKept (.plain 0 "wg0" none none) "eth0" (World.fresh []).net s'.net)
        (IptablesNatAdapter.apply (.plain 0 "wg0" none none) "eth0").run s ∧
      ((eval (handle plan) (IptablesNatAdapter.apply (.plain 0 "wg0" none none) "eth0") s).1 =
          .ok () →
        RulesInstalled (reapply (.plain 0 "wg0" none none) "eth0" s plan).net
          (.plain 0 "wg0" none none) "eth0")) (World.fresh []) [.none, .none] :=
  reapplied_rules_kept (.plain 0 "wg0" none none) "eth0" (World.fresh []) [.none, .none]
    fun plan hplan => by
      simp only [List.mem_cons, List.not_mem_nil, or_false, or_self] at hplan
      subst hplan
      exact fun family rule => rfl

end Wireforge
