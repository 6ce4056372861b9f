import Wireforge.Infra.Nat
import Wireforge.Lib.Issues
import Wireforge.Lib.RuleTable

/-!
# What the NAT adapter does to the firewall

`apply_spec` and `remove_spec` say, for every choice of failing calls, what `apply` and `remove`
return and which rules, flags and snapshots they leave. Everything later that concerns NAT is
derived from these two theorems. The last part lists the calls of the adapter.
-/

namespace Wireforge

open Effect RuleTable

/-! ## Which calls fail -/

namespace Plan

/-- The forwarding flag can be read. -/
def reads (plan : Plan) (family : Family) : Bool :=
  (plan.error (.readForward family)).isNone

/-- The forwarding flag can be written. -/
def writes (plan : Plan) (family : Family) (on : Bool) : Bool :=
  (plan.error (.writeForward family on)).isNone

/-- The command for an action on a rule can be spawned. -/
def spawns (plan : Plan) (family : Family) (rule : Rule) (action : String) : Bool :=
  (plan.error (.runIpt family (rule.argv action))).isNone

/-- The command for an action on a rule does not exit with a failure of its own. -/
def exits (plan : Plan) (family : Family) (rule : Rule) (action : String) : Bool :=
  plan.exit (.runIpt family (rule.argv action))

/-- Forwarding can be enabled: it reads as on, or it can be switched on. -/
def raises (plan : Plan) (family : Family) (net : NetState) : Bool :=
  plan.reads family && net.forward family || plan.writes family true

/-- The probe finds the rule. -/
def finds (plan : Plan) (family : Family) (rule : Rule) (table : List Entry) : Bool :=
  plan.exits family rule "-C" && decide (rule.entry ∈ table)

/-- The rule can be applied: the probe runs, and it finds the rule or the rule can be inserted. -/
def lands (plan : Plan) (family : Family) (rule : Rule) (table : List Entry) : Bool :=
  plan.spawns family rule "-C" &&
    (plan.finds family rule table || plan.spawns family rule "-I" && plan.exits family rule "-I")

/-- The table after a rule was applied. -/
def landed (plan : Plan) (family : Family) (rule : Rule) (table : List Entry) : List Entry :=
  if plan.finds family rule table then table else rule.entry :: table

/-- The rule can be deleted. -/
def deletes (plan : Plan) (family : Family) (rule : Rule) : Bool :=
  plan.spawns family rule "-D" && plan.exits family rule "-D"

/-- Every `iptables` and `ip6tables` command runs and exits as the rules demand. -/
def RunsIptables (plan : Plan) : Prop :=
  ∀ family args, plan.error (.runIpt family args) = .none ∧
    plan.exit (.runIpt family args) = true

theorem runs_iptables_none : Plan.none.RunsIptables :=
  fun _ _ => ⟨rfl, rfl⟩

variable {plan : Plan} {family : Family} {rule : Rule} {table : List Entry}

theorem RunsIptables.lands (h : plan.RunsIptables) : plan.lands family rule table = true := by
  simp [Plan.lands, spawns, exits, (h _ _).1, (h _ _).2]

theorem RunsIptables.landed (h : plan.RunsIptables) :
    plan.landed family rule table = ensure table rule.entry := by
  simp [Plan.landed, finds, exits, (h _ _).2, ensure]

theorem RunsIptables.deletes (h : plan.RunsIptables) : plan.deletes family rule = true := by
  simp [Plan.deletes, spawns, exits, (h _ _).1, (h _ _).2]

theorem mem_landed : rule.entry ∈ plan.landed family rule table := by
  unfold Plan.landed finds
  split
  · simp_all
  · simp

theorem mem_landed_of_ne {entry : Entry} (hne : entry ≠ rule.entry) :
    entry ∈ plan.landed family rule table ↔ entry ∈ table := by
  unfold Plan.landed
  split <;> simp [hne]

end Plan

/-! ## Rules -/

theorem parse_args_argv (rule : Rule) :
    parseArgs (rule.argv "-C") = some (.check, rule.entry) ∧
    parseArgs (rule.argv "-I") = some (.insert, rule.entry) ∧
    parseArgs (rule.argv "-D") = some (.delete, rule.entry) := by
  rcases rule with ⟨_ | _, _⟩ <;> exact ⟨rfl, rfl, rfl⟩

/-- The rules of an interface are pairwise different. -/
theorem nodup_nat_rules (wg gateway : String) : ((natRules wg gateway).map Rule.entry).Nodup := by
  simp [natRules, Rule.entry]

theorem nodup_families (iface : Interface) : iface.families.Nodup := by
  unfold Interface.families
  split <;> decide

theorem mem_families {iface : Interface} {family : Family} :
    family ∈ iface.families ↔ (family = .v6 → iface.ipv6Cidr.isSome) := by
  unfold Interface.families
  cases family <;> split <;> simp_all

@[simp] theorem set_table_self (net : NetState) (family : Family) :
    net.setTable family (net.tables family) = net := by
  simp [NetState.setTable]

/-- The rules of one family that `apply` leaves, given its result. -/
structure Installs (plan : Plan) (families : List Family) (rules : List Rule)
    (tables : Family → List Entry) (result : Except CoreError Unit)
    (tables' : Family → List Entry) : Prop where
  grown : ∀ family, Grown (rules.map Rule.entry) (tables family) (tables' family)
  frame : ∀ family, family ∉ families → tables' family = tables family
  present : result = .ok () →
    ∀ family ∈ families, ∀ rule ∈ rules, rule.entry ∈ tables' family
  ok_iff : result = .ok () ↔
    ∀ family ∈ families, ∀ rule ∈ rules, plan.lands family rule (tables family) = true
  exact : plan.RunsIptables →
    ∀ family ∈ families, tables' family = ensureAll (rules.map Rule.entry) (tables family)
  first : ∀ family ∈ families.head?, ∀ rule ∈ rules.head?,
    if plan.lands family rule (tables family) then rule.entry ∈ tables' family
    else tables' = tables

/-- What `apply` returns and leaves. Forwarding that cannot be enabled stops it before any rule is
touched; afterwards the rules of each family are applied in order. -/
inductive Applied (plan : Plan) (iface : Interface) (gateway : String) (net : NetState) :
    Except CoreError Unit → NetState → Prop where
  | v4Stuck (e : CoreError) : plan.raises .v4 net = false →
      Applied plan iface gateway net (.error e) net
  | v6Stuck (e : CoreError) : plan.raises .v4 net = true → iface.ipv6Cidr.isSome = true →
      plan.raises .v6 net = false →
      Applied plan iface gateway net (.error e) (net.setForward .v4 true)
  | forwarded (result : Except CoreError Unit) (tables : Family → List Entry) :
      (∀ family ∈ iface.families, plan.raises family net = true) →
      Installs plan iface.families (natRules iface.name gateway) net.tables result tables →
      Applied plan iface gateway net result
        { tables
          forward := fun family => decide (family ∈ iface.families) || net.forward family
          snapshots := Function.update net.snapshots iface.name (some
            ⟨plan.reads .v4 && net.forward .v4,
              !iface.ipv6Cidr.isSome || plan.reads .v6 && net.forward .v6⟩) }

/-- NAT can be applied: forwarding can be enabled, and each rule of each family applied. -/
def Plan.applies (plan : Plan) (iface : Interface) (gateway : String) (net : NetState) : Bool :=
  iface.families.all fun family => plan.raises family net &&
    (natRules iface.name gateway).all fun rule => plan.lands family rule (net.tables family)

theorem Plan.RunsIptables.applies {plan : Plan} (h : plan.RunsIptables)
    (hwrites : ∀ family, plan.writes family true = true) (iface : Interface) (gateway : String)
    (net : NetState) : plan.applies iface gateway net = true := by
  simp only [Plan.applies, List.all_eq_true, Bool.and_eq_true]
  exact fun family _ => ⟨by simp [Plan.raises, hwrites], fun rule _ => h.lands⟩

theorem Plan.applies_none (iface : Interface) (gateway : String) (net : NetState) :
    Plan.none.applies iface gateway net = true :=
  Plan.runs_iptables_none.applies (fun _ => rfl) iface gateway net

theorem Applied.ok_iff {plan : Plan} {iface : Interface} {gateway : String} {net net' : NetState}
    {result : Except CoreError Unit} (h : Applied plan iface gateway net result net') :
    result = .ok () ↔ plan.applies iface gateway net = true := by
  simp only [Plan.applies, List.all_eq_true, Bool.and_eq_true]
  cases h with
  | v4Stuck e hstuck =>
      refine ⟨nofun, fun h => ?_⟩
      have hv4 := (h .v4 (mem_families.mpr (by simp))).1
      exact absurd (hstuck.symm.trans hv4) Bool.false_ne_true
  | v6Stuck e _ hsome hstuck =>
      refine ⟨nofun, fun h => ?_⟩
      have hv6 := (h .v6 (mem_families.mpr fun _ => hsome)).1
      exact absurd (hstuck.symm.trans hv6) Bool.false_ne_true
  | forwarded result tables hraises hins =>
      rw [hins.ok_iff]
      exact ⟨fun h family hfamily => ⟨hraises family hfamily, h family hfamily⟩,
        fun h family hfamily => (h family hfamily).2⟩

/-- Every rule of an interface behind a gateway is present. -/
def RulesInstalled (net : NetState) (iface : Interface) (gateway : String) : Prop :=
  ∀ family ∈ iface.families, ∀ rule ∈ natRules iface.name gateway, rule.entry ∈ net.tables family

instance (net : NetState) (iface : Interface) (gateway : String) :
    Decidable (RulesInstalled net iface gateway) :=
  inferInstanceAs (Decidable (∀ _ ∈ _, ∀ _ ∈ _, _))

/-- `apply` takes no rule away. -/
theorem Applied.mem {plan : Plan} {iface : Interface} {gateway : String} {net net' : NetState}
    {result : Except CoreError Unit} (h : Applied plan iface gateway net result net')
    {family : Family} {entry : Entry} (hmem : entry ∈ net.tables family) :
    entry ∈ net'.tables family := by
  cases h with
  | v4Stuck => exact hmem
  | v6Stuck => exact hmem
  | forwarded _ _ _ hins => exact (hins.grown family).mem hmem

/-- `apply` installs the rules when it succeeds. -/
theorem Applied.installed {plan : Plan} {iface : Interface} {gateway : String}
    {net net' : NetState} (h : Applied plan iface gateway net (.ok ()) net') :
    RulesInstalled net' iface gateway := by
  cases h with
  | forwarded _ _ _ hins => exact hins.present rfl

/-- The table after the deletions that succeed. -/
def Plan.erased (plan : Plan) (family : Family) (rules : List Rule) (table : List Entry) :
    List Entry :=
  rules.foldl (fun table rule =>
    if plan.deletes family rule then table.erase rule.entry else table) table

namespace Plan

variable {plan : Plan} {family : Family} {rules : List Rule} {table : List Entry}

theorem erased_eq (plan : Plan) (family : Family) (rules : List Rule) (table : List Entry) :
    plan.erased family rules table =
      eraseAll ((rules.filter (plan.deletes family)).map Rule.entry) table := by
  induction rules generalizing table with
  | nil => rfl
  | cons head rest ih =>
      have hstep : plan.erased family (head :: rest) table = plan.erased family rest
          (if plan.deletes family head then table.erase head.entry else table) := rfl
      rw [hstep, ih]
      cases h : plan.deletes family head <;> simp [h]

theorem RunsIptables.erased (h : plan.RunsIptables) :
    plan.erased family rules table = eraseAll (rules.map Rule.entry) table := by
  rw [erased_eq, List.filter_eq_self.mpr fun _ _ => h.deletes]

/-- Deleting distinct rules spares those that cannot be deleted and those with a second copy. -/
theorem mem_erased {rule : Rule} (hnodup : (rules.map Rule.entry).Nodup) (hrule : rule ∈ rules) :
    rule.entry ∈ plan.erased family rules table ↔
      if plan.deletes family rule then 2 ≤ table.count rule.entry else rule.entry ∈ table := by
  have hdeleted : ((rules.filter (plan.deletes family)).map Rule.entry).Nodup :=
    hnodup.sublist (List.filter_sublist.map _)
  rw [erased_eq]
  split
  · rename_i hdeletes
    rw [mem_erase_all, List.count_eq_one_of_mem hdeleted (List.mem_map.mpr
      ⟨rule, List.mem_filter.mpr ⟨hrule, hdeletes⟩, rfl⟩)]
    rfl
  · rename_i hdeletes
    refine mem_erase_all_of_not_mem fun hmem => hdeletes ?_
    obtain ⟨other, hother, heq⟩ := List.mem_map.mp hmem
    obtain ⟨hother, hdel⟩ := List.mem_filter.mp hother
    exact List.inj_on_of_nodup_map hnodup hother hrule heq ▸ hdel

end Plan

/-- The firewall after `remove`. -/
def Plan.removed (plan : Plan) (iface : Interface) (gateway : String) (net : NetState) :
    NetState where
  tables family :=
    if family ∈ iface.families then
      plan.erased family (natRules iface.name gateway) (net.tables family)
    else net.tables family
  forward family :=
    if family ∈ iface.families ∧
        (net.snapshots iface.name).map (·.wasOn family) = some false ∧
        plan.writes family false = true then false
    else net.forward family
  snapshots := Function.update net.snapshots iface.name .none

namespace IptablesNatAdapter

variable {plan : Plan} {w : World} {family : Family} {rule : Rule}

/-- A process that cannot be spawned is an error. -/
theorem eval_run_ipt_error {args : List String} {e : String}
    (h : plan.error (.runIpt family args) = some e) :
    eval (handle plan) (runIpt family args) w =
      (.error (.wireGuard s!"{family.binary}: {e} (is iptables installed?)"), w) := by
  simp [runIpt, handle, Plan.run, h, Except.mapError]

theorem eval_run_ipt_ok {args : List String} (h : plan.error (.runIpt family args) = none) :
    eval (handle plan) (runIpt family args) w =
      if plan.exit (.runIpt family args) then
        (.ok (iptables args (w.net.tables family)).1,
          { w with net := w.net.setTable family (iptables args (w.net.tables family)).2 })
      else (.ok false, w) := by
  simp only [runIpt, eval_or_else, exec_request, handle, Plan.run, h]
  split <;> rfl

/-- A rule that lands is in the table afterwards; otherwise the error stops the program and
nothing has changed. -/
theorem eval_apply_rule (plan : Plan) (w : World) (family : Family) (rule : Rule) :
    (plan.lands family rule (w.net.tables family) = true ∧
      eval (handle plan) (applyRule family rule) w =
        (.ok (), { w with
          net := w.net.setTable family (plan.landed family rule (w.net.tables family)) })) ∨
    (plan.lands family rule (w.net.tables family) = false ∧
      ∃ e, eval (handle plan) (applyRule family rule) w = (.error e, w)) := by
  obtain ⟨hcheck, hinsert, -⟩ := parse_args_argv rule
  unfold applyRule
  cases hC : plan.error (.runIpt family (rule.argv "-C")) with
  | some e =>
      have herror := eval_run_ipt_error (w := w) hC
      exact .inr ⟨by simp [Plan.lands, Plan.spawns, hC], _, by rw [eval_bind, herror]⟩
  | none =>
      have hprobe : eval (handle plan) (runIpt family (rule.argv "-C")) w =
          (.ok (plan.finds family rule (w.net.tables family)), w) := by
        rw [eval_run_ipt_ok hC]
        simp only [iptables, hcheck, set_table_self, Plan.finds, Plan.exits]
        split <;> simp_all
      rw [eval_bind, hprobe]
      cases hfinds : plan.finds family rule (w.net.tables family) with
      | true =>
          refine .inl ⟨by simp [Plan.lands, Plan.spawns, hC, hfinds], ?_⟩
          simp [Plan.landed, hfinds, set_table_self]
      | false =>
          cases hI : plan.error (.runIpt family (rule.argv "-I")) with
          | some e =>
              have herror := eval_run_ipt_error (w := w) hI
              exact .inr ⟨by simp [Plan.lands, Plan.spawns, hfinds, hI], _, by simp [herror]; rfl⟩
          | none =>
              cases hexit : plan.exit (.runIpt family (rule.argv "-I")) with
              | true =>
                  refine .inl ⟨by simp [Plan.lands, Plan.spawns, Plan.exits, hC, hI, hexit], ?_⟩
                  simp [eval_run_ipt_ok hI, hexit, iptables, hinsert, Plan.landed, hfinds]
              | false =>
                  refine .inr ⟨by simp [Plan.lands, Plan.exits, hfinds, hexit],
                    insertFailed family rule, ?_⟩
                  simp [eval_run_ipt_ok hI, hexit]

/-- Applying rules with different entries one after the other. -/
theorem eval_apply_rules (plan : Plan) (w : World) (family : Family) {rules : List Rule}
    (hnodup : (rules.map Rule.entry).Nodup) :
    ∃ result table,
      eval (handle plan) (applyRules family rules) w =
        (result, { w with net := w.net.setTable family table }) ∧
      Grown (rules.map Rule.entry) (w.net.tables family) table ∧
      (result = .ok () → ∀ rule ∈ rules, rule.entry ∈ table) ∧
      (result = .ok () ↔ ∀ rule ∈ rules, plan.lands family rule (w.net.tables family) = true) ∧
      (plan.RunsIptables → table = ensureAll (rules.map Rule.entry) (w.net.tables family)) ∧
      (∀ rule ∈ rules.head?, if plan.lands family rule (w.net.tables family) then
        rule.entry ∈ table else table = w.net.tables family) := by
  induction rules generalizing w with
  | nil =>
      refine ⟨.ok (), w.net.tables family, ?_, .refl _ _, by simp, by simp, fun _ => rfl, by simp⟩
      rw [set_table_self]
      rfl
  | cons rule rest ih =>
      obtain ⟨hfresh, hrest⟩ := List.nodup_cons.mp hnodup
      have hbind : eval (handle plan) (forEach (applyRule family) (rule :: rest)) w = _ :=
        eval_for_each_cons _ _ _ _
      rcases eval_apply_rule plan w family rule with ⟨hlands, heval⟩ | ⟨hlands, e, heval⟩
      · obtain ⟨result, table, hloop, hgrown, hpresent, hok, hexact, -⟩ := ih
          { w with net := w.net.setTable family (plan.landed family rule (w.net.tables family)) }
          hrest
        simp only [NetState.setTable, Function.update_self, Function.update_idem] at *
        -- The entries differ, so what the probe of a later rule finds is not changed by this one.
        have hlater : ∀ r ∈ rest, plan.lands family r
            (plan.landed family rule (w.net.tables family)) =
            plan.lands family r (w.net.tables family) := by
          intro r hr
          have hne : r.entry ≠ rule.entry := fun heq =>
            hfresh (List.mem_map.mpr ⟨r, hr, heq⟩)
          simp only [Plan.lands, Plan.finds, Plan.mem_landed_of_ne hne]
        have hhead : Grown ((rule :: rest).map Rule.entry) (w.net.tables family)
            (plan.landed family rule (w.net.tables family)) := by
          unfold Plan.landed
          split
          · exact .refl _ _
          · exact .cons (by simp) (.refl _ _)
        refine ⟨result, table, by rw [applyRules, hbind, heval]; exact hloop, ?_, ?_, ?_, ?_, ?_⟩
        · exact hhead.trans (hgrown.mono fun _ hmem => by simp [hmem])
        · intro hresult r hr
          rcases List.mem_cons.mp hr with rfl | hr
          · exact hgrown.mem Plan.mem_landed
          · exact hpresent hresult r hr
        · rw [hok, List.forall_mem_cons]
          exact ⟨fun h => ⟨hlands, fun r hr => hlater r hr ▸ h r hr⟩,
            fun h r hr => (hlater r hr).trans (h.2 r hr)⟩
        · intro hplan
          rw [hexact hplan, hplan.landed]
          rfl
        · rintro _ ⟨⟩
          rw [if_pos hlands]
          exact hgrown.mem Plan.mem_landed
      · refine ⟨.error e, w.net.tables family, ?_, .refl _ _, by simp, ?_, ?_, ?_⟩
        · rw [applyRules, hbind, heval, set_table_self]
        · simp [hlands]
        · intro hplan
          rw [hplan.lands] at hlands
          cases hlands
        · rintro _ ⟨⟩
          rw [if_neg (by simp [hlands])]

/-- Applying rules with different entries in several families. -/
theorem eval_install (plan : Plan) (w : World) {families : List Family} {rules : List Rule}
    (hfamilies : families.Nodup) (hrules : (rules.map Rule.entry).Nodup) :
    ∃ result tables,
      eval (handle plan) (forEach (fun family => applyRules family rules) families) w =
        (result, { w with net := { w.net with tables } }) ∧
      Installs plan families rules w.net.tables result tables := by
  induction families generalizing w with
  | nil =>
      exact ⟨.ok (), w.net.tables, rfl,
        { grown := fun _ => .refl _ _
          frame := fun _ _ => rfl
          present := by simp
          ok_iff := by simp
          exact := by simp
          first := by simp }⟩
  | cons family rest ih =>
      obtain ⟨hfresh, hrest⟩ := List.nodup_cons.mp hfamilies
      have hloop : eval (handle plan)
          (forEach (fun family => applyRules family rules) (family :: rest)) w = _ :=
        eval_for_each_cons _ _ _ _
      obtain ⟨first, table, heval, hgrown, hpresent, hok, hexact, hhead⟩ :=
        eval_apply_rules plan w family hrules
      have hother : ∀ f ∈ rest, f ≠ family := fun f hf heq => hfresh (heq ▸ hf)
      rw [heval] at hloop
      rcases first with e | ⟨⟩
      · refine ⟨.error e, Function.update w.net.tables family table, hloop, ?_⟩
        have hfail : ¬ ∀ rule ∈ rules, plan.lands family rule (w.net.tables family) = true :=
          fun h => nomatch hok.mpr h
        exact
          { grown := fun f => by
              by_cases hf : f = family
              · subst hf
                rwa [Function.update_self]
              · rw [Function.update_of_ne hf]
                exact .refl _ _
            frame := fun f hf => Function.update_of_ne (fun heq => hf (by simp [heq])) _ _
            present := by simp
            ok_iff := ⟨by simp, fun h => absurd (h family (by simp)) hfail⟩
            exact := fun hplan => absurd (fun rule _ => hplan.lands) hfail
            first := by
              rintro _ ⟨⟩ rule hrule
              have := hhead rule hrule
              split at this
              · rwa [if_pos ‹_›, Function.update_self]
              · rw [if_neg ‹_›, this, Function.update_eq_self] }
      · obtain ⟨result, tables, hrun, hins⟩ := ih
          (w := { w with net := w.net.setTable family table }) hrest
        simp only [NetState.setTable] at hrun hins hloop
        have hfamily : tables family = table := by
          rw [hins.frame family hfresh, Function.update_self]
        refine ⟨result, tables, hloop.trans hrun, ?_⟩
        exact
          { grown := fun f => by
              by_cases hf : f = family
              · subst hf
                rwa [hfamily]
              · have := hins.grown f
                rwa [Function.update_of_ne hf] at this
            frame := fun f hf => by
              rw [List.mem_cons, not_or] at hf
              rw [hins.frame f hf.2, Function.update_of_ne hf.1]
            present := fun hresult f hf => by
              rcases List.mem_cons.mp hf with rfl | hf
              · rw [hfamily]
                exact hpresent rfl
              · exact hins.present hresult f hf
            ok_iff := by
              rw [hins.ok_iff, List.forall_mem_cons]
              refine ⟨fun h => ⟨hok.mp rfl, fun f hf => ?_⟩, fun h f hf => ?_⟩
              · have := h f hf
                rwa [Function.update_of_ne (hother f hf)] at this
              · rw [Function.update_of_ne (hother f hf)]
                exact h.2 f hf
            exact := fun hplan f hf => by
              rcases List.mem_cons.mp hf with rfl | hf
              · rw [hfamily, hexact hplan]
              · rw [hins.exact hplan f hf, Function.update_of_ne (hother f hf)]
            first := by
              rintro _ ⟨⟩ rule hrule
              have hlands := hok.mp rfl rule (List.mem_of_mem_head? hrule)
              rw [if_pos hlands, hfamily]
              exact hpresent rfl rule (List.mem_of_mem_head? hrule) }

/-! ## Forwarding -/

@[simp] theorem eval_read_forward :
    eval (handle plan) (readForward family) w =
      (.ok (plan.reads family && w.net.forward family), w) := by
  simp only [readForward, eval_always, exec_map, exec_request, handle, Plan.read, Plan.outcome,
    Plan.reads]
  cases plan.error (.readForward family) <;> rfl

theorem eval_write_forward (plan : Plan) (w : World) (family : Family) (on : Bool) :
    (plan.writes family on = true ∧ eval (handle plan) (writeForward family on) w =
      (.ok (), { w with net := w.net.setForward family on })) ∨
    (plan.writes family on = false ∧
      ∃ e, eval (handle plan) (writeForward family on) w = (.error e, w)) := by
  cases h : plan.error (.writeForward family on) with
  | none =>
      refine .inl ⟨by simp [Plan.writes, h], ?_⟩
      simp [writeForward, handle, Plan.run, h, Except.mapError]
  | some e =>
      refine .inr ⟨by simp [Plan.writes, h], ?_⟩
      simp [writeForward, handle, Plan.run, h, Except.mapError]

/-- Enabling forwarding leaves it on and returns what was read, or changes nothing. -/
theorem eval_enable_forward (plan : Plan) (w : World) (family : Family) :
    (plan.raises family w.net = true ∧ eval (handle plan) (enableForward family) w =
      (.ok (plan.reads family && w.net.forward family),
        { w with net := w.net.setForward family true })) ∨
    (plan.raises family w.net = false ∧
      ∃ e, eval (handle plan) (enableForward family) w = (.error e, w)) := by
  unfold enableForward Plan.raises
  rw [eval_bind, eval_read_forward]
  cases hon : plan.reads family && w.net.forward family with
  | true =>
      have hforward : w.net.forward family = true := by
        simp only [Bool.and_eq_true] at hon
        exact hon.2
      refine .inl ⟨rfl, ?_⟩
      have hsame : Function.update w.net.forward family true = w.net.forward := by
        rw [← hforward, Function.update_eq_self]
      simp [NetState.setForward, hsame]
  | false =>
      rcases eval_write_forward plan w family true with ⟨hwrites, heval⟩ | ⟨hwrites, e, heval⟩
      · exact .inl ⟨by simp [hwrites], by simp [heval]⟩
      · exact .inr ⟨by simp [hwrites], e, by simp [heval]⟩

/-! ## Applying and removing -/

/-- Every outcome of `apply`. -/
theorem apply_spec (plan : Plan) (w : World) (iface : Interface) (gateway : String) :
    ∃ result net, eval (handle plan) (apply iface gateway) w = (result, { w with net }) ∧
      Applied plan iface gateway w.net result net := by
  unfold apply
  rcases eval_enable_forward plan w .v4 with ⟨hv4, heval⟩ | ⟨hv4, e, heval⟩
  · cases hv6 : iface.ipv6Cidr.isSome with
    | false =>
        have hfamilies : iface.families = [.v4] := by simp [Interface.families, hv6]
        obtain ⟨result, tables, hrun, hins⟩ := eval_install plan
          { w with net := { w.net.setForward .v4 true with
            snapshots := Function.update w.net.snapshots iface.name
              (some ⟨plan.reads .v4 && w.net.forward .v4, true⟩) } }
          (nodup_families iface) (nodup_nat_rules iface.name gateway)
        refine ⟨result, _, ?_, .forwarded result tables (by simp [hfamilies, hv4]) hins⟩
        simp only [Bool.false_eq_true, if_false, eval_bind, heval, eval_pure, eval_always,
          exec_request, handle, NetState.setForward]
        refine hrun.trans ?_
        simp only [hfamilies, hv6, NetState.setForward]
        congr 3
        funext family
        cases family <;> simp
    | true =>
        have hfamilies : iface.families = [.v4, .v6] := by simp [Interface.families, hv6]
        have hraises : plan.raises .v6 (w.net.setForward .v4 true) = plan.raises .v6 w.net := by
          simp [Plan.raises, NetState.setForward]
        rcases eval_enable_forward plan { w with net := w.net.setForward .v4 true } .v6 with
          ⟨hraise, heval'⟩ | ⟨hraise, e, heval'⟩
        · obtain ⟨result, tables, hrun, hins⟩ := eval_install plan
            { w with net := { (w.net.setForward .v4 true).setForward .v6 true with
              snapshots := Function.update w.net.snapshots iface.name
                (some ⟨plan.reads .v4 && w.net.forward .v4,
                  plan.reads .v6 && w.net.forward .v6⟩) } }
            (nodup_families iface) (nodup_nat_rules iface.name gateway)
          refine ⟨result, _, ?_, .forwarded result tables ?_ hins⟩
          · simp only [if_true, eval_bind, heval, heval', eval_always, exec_request, handle]
            refine hrun.trans ?_
            simp only [hfamilies, hv6, NetState.setForward]
            congr 3
            funext family
            cases family <;> simp
          · simp [hfamilies, hv4, ← hraises, hraise]
        · refine ⟨.error e, _, ?_, .v6Stuck e hv4 hv6 (hraises ▸ hraise)⟩
          simp only [if_true, eval_bind, heval, heval']
  · exact ⟨.error e, w.net, by simp only [eval_bind, heval], .v4Stuck e hv4⟩

/-- Deleting rules never stops the program. -/
theorem eval_remove_rules (plan : Plan) (w : World) (family : Family) (rules : List Rule) :
    eval (handle plan) (removeRules family rules) w =
      (.ok (), { w with
        net := w.net.setTable family (plan.erased family rules (w.net.tables family)) }) := by
  have hstep : ∀ (rule : Rule) (w : World),
      (eval (handle plan) (runIpt family (rule.argv "-D")) w).2 =
        { w with net := w.net.setTable family (if plan.deletes family rule then
          (w.net.tables family).erase rule.entry else w.net.tables family) } := by
    intro rule w
    obtain ⟨-, -, hdelete⟩ := parse_args_argv rule
    unfold Plan.deletes Plan.spawns Plan.exits
    cases hD : plan.error (.runIpt family (rule.argv "-D")) with
    | some e => simp [eval_run_ipt_error hD]
    | none =>
        rw [eval_run_ipt_ok hD]
        split <;> simp_all [iptables]
  refine (eval_for_each_ok (fun rule w => by rw [eval_ignore, hstep]) rules w).trans ?_
  induction rules generalizing w with
  | nil => simp [Plan.erased]
  | cons rule rest ih =>
      refine (ih _).trans ?_
      simp [NetState.setTable, Plan.erased]

/-- Restoring never stops the program. -/
theorem eval_restore_forward (plan : Plan) (w : World) (snapshot : ForwardSnapshot)
    (family : Family) :
    eval (handle plan) (restoreForward snapshot family) w =
      (.ok (), { w with
        net := w.net.setForward family (if snapshot.wasOn family = false ∧
          plan.writes family false = true then false else w.net.forward family) }) := by
  unfold restoreForward
  cases snapshot.wasOn family with
  | true => simp [NetState.setForward]
  | false =>
      rcases eval_write_forward plan w family false with ⟨hwrites, heval⟩ | ⟨hwrites, e, heval⟩ <;>
        simp [hwrites, heval, NetState.setForward]

/-- Changing the rules of several families one after the other. -/
theorem foldl_set_table {families : List Family} (hnodup : families.Nodup)
    (change : Family → List Entry → List Entry) (w : World) :
    families.foldl (fun w family =>
        { w with net := w.net.setTable family (change family (w.net.tables family)) }) w =
      { w with
        net := { w.net with
          tables := fun family => if family ∈ families then change family (w.net.tables family)
            else w.net.tables family } } := by
  induction families generalizing w with
  | nil => simp
  | cons family rest ih =>
      obtain ⟨hfresh, hrest⟩ := List.nodup_cons.mp hnodup
      rw [List.foldl_cons, ih hrest]
      refine World.with_net (NetState.ext (funext fun f => ?_) rfl rfl)
      by_cases hf : f = family
      · subst hf
        simp [NetState.setTable, hfresh]
      · simp [NetState.setTable, hf]

/-- Changing the flags of several families one after the other. -/
theorem foldl_set_forward {families : List Family} (hnodup : families.Nodup)
    (change : Family → Bool → Bool) (w : World) :
    families.foldl (fun w family =>
        { w with net := w.net.setForward family (change family (w.net.forward family)) }) w =
      { w with
        net := { w.net with
          forward := fun family => if family ∈ families then change family (w.net.forward family)
            else w.net.forward family } } := by
  induction families generalizing w with
  | nil => simp
  | cons family rest ih =>
      obtain ⟨hfresh, hrest⟩ := List.nodup_cons.mp hnodup
      rw [List.foldl_cons, ih hrest]
      refine World.with_net (NetState.ext rfl (funext fun f => ?_) rfl)
      by_cases hf : f = family
      · subst hf
        simp [NetState.setForward, hfresh]
      · simp [NetState.setForward, hf]

/-- `remove` never fails. -/
theorem eval_remove (plan : Plan) (w : World) (iface : Interface) (gateway : String) :
    eval (handle plan) (remove iface gateway) w =
      (.ok (), { w with net := plan.removed iface gateway w.net }) := by
  unfold remove
  rw [eval_bind, eval_for_each_ok fun family w => eval_remove_rules plan w family _,
    foldl_set_table (nodup_families iface)]
  simp only [eval_bind, eval_always, exec_request, handle]
  cases hsnap : w.net.snapshots iface.name with
  | none => simp [Plan.removed, hsnap]
  | some snapshot =>
      simp only [eval_for_each_ok fun family w => eval_restore_forward plan w snapshot family]
      refine congrArg (Prod.mk _) ((foldl_set_forward (nodup_families iface)
        (fun family on => if snapshot.wasOn family = false ∧ plan.writes family false = true then
          false else on) _).trans ?_)
      refine World.with_net (NetState.ext rfl (funext fun family => ?_) rfl)
      simp only [Plan.removed, hsnap, Option.map_some, Option.some.injEq]
      split <;> simp_all

/-! ## The calls -/

/-- The calls of the adapter. -/
def Issued : Sys → Prop
  | .runIpt _ _ | .readForward _ | .writeForward _ _ | .rememberForward _ _ | .takeForward _
  | .spawn _ _ => True
  | _ => False

theorem enable_forward_issues {allowed : Sys → Prop} {family : Family}
    (hread : allowed (.readForward family)) (hwrite : allowed (.writeForward family true)) :
    Issues allowed (enableForward family).run := by
  refine Issues.run_bind (Issues.run_always (Issues.map (Issues.request hread))) fun wasOn => ?_
  cases wasOn with
  | true => exact Issues.run_pure _
  | false => exact Issues.run_bind (Issues.run_or_else (Issues.request hwrite)) fun _ => trivial

theorem apply_rule_issues (family : Family) (rule : Rule) :
    Issues Issued (applyRule family rule).run := by
  refine Issues.run_bind (Issues.run_or_else (Issues.request trivial)) fun found => ?_
  cases found with
  | true => exact Issues.run_pure _
  | false =>
      refine Issues.run_bind (Issues.run_or_else (Issues.request trivial)) fun inserted => ?_
      cases inserted with
      | true => exact Issues.run_pure _
      | false => exact Issues.run_throw _

theorem apply_issues (iface : Interface) (gateway : String) :
    Issues Issued (apply iface gateway).run := by
  unfold apply
  have hrest (v4WasOn v6WasOn : Bool) : Issues Issued (do
      always (Sys.rememberForward iface.name ⟨v4WasOn, v6WasOn⟩).request
      forEach (fun family => applyRules family (natRules iface.name gateway))
        iface.families : App Unit).run :=
    Issues.run_bind (Issues.run_always (Issues.request trivial)) fun _ =>
      Issues.run_for_each (fun family => Issues.run_for_each (apply_rule_issues family) _) _
  refine Issues.run_bind (enable_forward_issues trivial trivial) fun v4WasOn => ?_
  dsimp only
  split
  · exact Issues.run_bind (enable_forward_issues trivial trivial) fun v6WasOn =>
      hrest v4WasOn v6WasOn
  · exact hrest v4WasOn true

theorem remove_issues (iface : Interface) (gateway : String) :
    Issues Issued (remove iface gateway).run := by
  refine Issues.run_bind (Issues.run_for_each (fun family => Issues.run_for_each (fun rule =>
    Issues.run_ignore (Issues.run_or_else (Issues.request trivial))) _) _) fun _ => ?_
  refine Issues.run_bind (Issues.run_always (Issues.request trivial)) fun snapshot => ?_
  cases snapshot with
  | none => exact Issues.run_pure _
  | some snapshot =>
      refine Issues.run_for_each (fun family => ?_) _
      exact Issues.run_ite (Issues.run_ignore (Issues.run_or_else (Issues.request trivial)))
        (Issues.run_pure _)

theorem run_hook_issues (script : String) : Issues Issued (runHook script).run := by
  refine Issues.run_ite (Issues.run_pure _) (Issues.run_for_each (fun line => ?_) _)
  unfold runLine
  refine Issues.run_ite (Issues.run_pure _) ?_
  split
  · exact Issues.run_pure _
  · exact Issues.run_ignore (Issues.run_or_else (Issues.request trivial))

end IptablesNatAdapter

end Wireforge
