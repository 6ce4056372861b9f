import Wireforge.Firewall.NatRun

/-!
# Rules that interfaces share

The masquerading rule names the gateway only, so interfaces behind one gateway share one entry:
`apply` finds it there, and every `remove` deletes it. `rules_present_iff` says exactly which
removals leave the others without it.
-/

namespace Wireforge

open Effect RuleTable

/-- Every rule of what is applied is present, in the IPv6 table too if there is an IPv6 network. -/
def RulesPresent (s : NatRun) : Prop :=
  ∀ entry ∈ s.applied, RulesInstalled s.world.net entry.1 entry.2

/-- The rule that masquerades behind a gateway. -/
def masqueradeRule (gateway : String) : Rule :=
  ⟨some "nat", ["POSTROUTING", "-o", gateway, "-j", "MASQUERADE"]⟩

/-- A removal finds a second copy of the masquerading rule wherever another applied interface has
the same gateway. -/
def SparesShared (s : NatRun) (a : NatStep) : Prop :=
  match a.call with
  | .apply _ _ => True
  | .remove iface gateway => ∀ entry ∈ s.applied, entry.1.name ≠ iface.name →
      entry.2 = gateway → ∀ family ∈ entry.1.families, family ∈ iface.families →
      2 ≤ (s.world.net.tables family).count (masqueradeRule gateway).entry

variable {s : NatRun} {plan : Plan} {iface : Interface} {gateway : String}

/-- Different interfaces share no rule but the masquerading rule of a common gateway. -/
theorem shared_rule_iff {name name' gateway' : String} (hne : name ≠ name') {rule : Rule}
    (hmem : rule ∈ natRules name gateway) :
    rule.entry ∈ (natRules name' gateway').map Rule.entry ↔
      rule = masqueradeRule gateway ∧ gateway = gateway' := by
  simp only [natRules, List.mem_cons, List.not_mem_nil, or_false] at hmem
  rcases hmem with rfl | rfl | rfl <;>
    simp [natRules, masqueradeRule, Rule.entry, hne]

/-- Applying takes no rule away and adds its own. -/
theorem rules_present_apply (h : RulesPresent s) :
    RulesPresent (natStep s ⟨.apply iface gateway, plan⟩) := by
  obtain ⟨result, net, heval, happlied⟩ :=
    IptablesNatAdapter.apply_spec plan s.world iface gateway
  have hresult : NatStep.result ⟨.apply iface gateway, plan⟩ s = result :=
    congrArg Prod.fst heval
  have hworld : (natStep s ⟨.apply iface gateway, plan⟩).world = { s.world with net } :=
    congrArg Prod.snd heval
  have hold : ∀ entry ∈ s.applied, RulesInstalled net entry.1 entry.2 :=
    fun entry hentry family hfamily rule hrule =>
      happlied.mem (h entry hentry family hfamily rule hrule)
  intro entry hentry
  rw [hworld]
  cases result with
  | error e =>
      have happlied' : (natStep s ⟨.apply iface gateway, plan⟩).applied = s.applied := by
        simp only [natStep, hresult]
      exact hold entry (happlied' ▸ hentry)
  | ok value =>
      have happlied' : (natStep s ⟨.apply iface gateway, plan⟩).applied =
          (iface, gateway) :: s.applied := by
        simp only [natStep, hresult]
      rcases List.mem_cons.mp (happlied' ▸ hentry) with rfl | hentry
      · exact happlied.installed
      · exact hold entry hentry

/-- A removal leaves the others their rules exactly when it spares the shared ones. -/
theorem rules_present_remove (hplan : plan.RunsIptables) (h : RulesPresent s) :
    RulesPresent (natStep s ⟨.remove iface gateway, plan⟩) ↔
      SparesShared s ⟨.remove iface gateway, plan⟩ := by
  rw [nat_step_remove]
  have hcount : ((natRules iface.name gateway).map Rule.entry).count
      (masqueradeRule gateway).entry = 1 :=
    List.count_eq_one_of_mem (nodup_nat_rules _ _) (by simp [natRules, masqueradeRule])
  constructor
  · intro hleft entry hentry hne hgateway family hfamily hshared
    subst hgateway
    have := hleft entry (List.mem_filter.mpr ⟨hentry, by simpa using hne⟩) family hfamily
      (masqueradeRule entry.2) (by simp [natRules, masqueradeRule])
    simp only [Plan.removed, if_pos hshared, hplan.erased, mem_erase_all, hcount] at this
    exact this
  · intro hspares entry hentry family hfamily rule hrule
    obtain ⟨hentry, hne⟩ := List.mem_filter.mp hentry
    have hpresent := h entry hentry family hfamily rule hrule
    simp only [Plan.removed, hplan.erased]
    split
    · rename_i hshared
      by_cases hmem : rule.entry ∈ (natRules iface.name gateway).map Rule.entry
      · obtain ⟨rfl, hgateway⟩ := (shared_rule_iff (by simpa using hne) hrule).mp hmem
        rw [hgateway] at hpresent ⊢
        rw [mem_erase_all, hcount]
        exact hspares entry hentry (by simpa using hne) hgateway family hfamily hshared
      · exact (mem_erase_all_of_not_mem hmem).mpr hpresent
    · exact hpresent

/-- Every `iptables` and `ip6tables` command of the call runs and exits as the rules demand. -/
def IptablesWork (_ : NatRun) (a : NatStep) : Prop :=
  a.plan.RunsIptables

/-- While all commands succeed, every applied interface has its rules throughout a run exactly
when no removal takes the last copy of a masquerading rule that another one shares. -/
theorem rules_present_iff (w : World) (run : List NatStep)
    (hok : Runs.EachStep natStep IptablesWork ⟨w, []⟩ run) :
    Runs.Always natStep RulesPresent ⟨w, []⟩ run ↔
      Runs.EachStep natStep SparesShared ⟨w, []⟩ run := by
  refine Runs.always_iff_each_step ?_ ?_ hok fun entry hentry => absurd hentry List.not_mem_nil
  · rintro s ⟨⟨iface, gateway⟩ | ⟨iface, gateway⟩, plan⟩ hplan h hspares
    · exact rules_present_apply h
    · exact (rules_present_remove hplan h).mpr hspares
  · rintro s ⟨⟨iface, gateway⟩ | ⟨iface, gateway⟩, plan⟩ hplan h hspares
    · exact absurd trivial hspares
    · exact fun hleft => hspares ((rules_present_remove hplan h).mp hleft)

/-- Two interfaces behind one gateway, of which one is removed. -/
def oneOfTwoRemoved : List NatStep :=
  [⟨.apply (.plain 0 "wg0" (some "eth0") none) "eth0", .none⟩,
    ⟨.apply (.plain 1 "wg1" (some "eth0") none) "eth0", .none⟩,
    ⟨.remove (.plain 1 "wg1" (some "eth0") none) "eth0", .none⟩]

/-- The interface that is left is no longer masqueraded. -/
theorem masquerade_lost :
    Runs.EachStep natStep IptablesWork ⟨.fresh ["eth0"], []⟩ oneOfTwoRemoved ∧
      ¬ Runs.Always natStep RulesPresent ⟨.fresh ["eth0"], []⟩ oneOfTwoRemoved := by
  refine ⟨⟨Plan.runs_iptables_none, Plan.runs_iptables_none, Plan.runs_iptables_none, trivial⟩,
    fun h => ?_⟩
  have happlied : (Runs.after natStep ⟨.fresh ["eth0"], []⟩ oneOfTwoRemoved).applied =
      [(.plain 0 "wg0" (some "eth0") none, "eth0")] := rfl
  have hmem := h.last _ (happlied ▸ List.mem_cons_self) .v4 (by decide) (masqueradeRule "eth0")
    (by decide)
  exact absurd hmem (by decide)

/-- Two interfaces behind different gateways, of which one is removed. -/
def gatewaysApart : List NatStep :=
  [⟨.apply (.plain 0 "wg0" (some "eth0") none) "eth0", .none⟩,
    ⟨.apply (.plain 1 "wg1" (some "eth1") none) "eth1", .none⟩,
    ⟨.remove (.plain 1 "wg1" (some "eth1") none) "eth1", .none⟩]

theorem rules_present_iff_apart :
    Runs.Always natStep RulesPresent ⟨.fresh ["eth0", "eth1"], []⟩ gatewaysApart ↔
      Runs.EachStep natStep SparesShared ⟨.fresh ["eth0", "eth1"], []⟩ gatewaysApart :=
  rules_present_iff _ _
    ⟨Plan.runs_iptables_none, Plan.runs_iptables_none, Plan.runs_iptables_none, trivial⟩

end Wireforge
