import Wireforge.Lifecycle.InterfaceRun

/-!
# Rules that are left behind

What `apply` installs depends on the gateway and the IPv6 network of the row at that time, and what
`remove` deletes on those of the row at a later time. `no_residue` says when the two match, so that
stopping or deleting an interface leaves no rule that names it.
-/

namespace Wireforge

open Effect InterfaceService RuleTable

/-- The rule names the interface. -/
def Entry.Mentions (entry : Entry) (name : String) : Prop :=
  name ∈ entry.spec

instance (entry : Entry) (name : String) : Decidable (entry.Mentions name) :=
  inferInstanceAs (Decidable (name ∈ entry.spec))

/-- No rule names the interface. -/
def Unmentioned (name : String) (net : NetState) : Prop :=
  ∀ family, ∀ entry ∈ net.tables family, ¬ entry.Mentions name

/-- What is installed of one family for an interface behind a gateway. -/
def Interface.ruleEntries (iface : Interface) (gateway : Option String) (family : Family) :
    List Entry :=
  match gateway with
  | some gw => if family ∈ iface.families then (natRules iface.name gw).map Rule.entry else []
  | none => []

/-- Every rule that names the interface is an expected one, and there once. -/
def Accounted (name : String) (net : NetState) (expected : Family → List Entry) : Prop :=
  ∀ family, ∀ entry ∈ net.tables family, entry.Mentions name →
    entry ∈ expected family ∧ (net.tables family).count entry ≤ 1

/-- Rules that name the interface are those that its row accounts for, and they are there only
while it is up. -/
def Tidy (id : Id InterfaceMarker) (name : String) (w : World) : Prop :=
  (∀ row ∈ w.db.interfaces.rows, row.id = id → row.name = name) ∧
    (Unmentioned name w.net ∨ ∃ row ∈ w.db.interfaces.rows, row.id = id ∧ row.status = .up ∧
      Accounted name w.net (row.ruleEntries row.gateway))

/-- An operation on one interface. -/
def InterfaceCall.Manages (id : Id InterfaceMarker) : InterfaceCall → Prop
  | .create _ => False
  | .start id' => id' = id
  | .stop id' => id' = id
  | .update id' _ => id' = id
  | .delete id' => id' = id

/-- The operation is a `stop` or a `delete`. -/
def InterfaceCall.TearsDown : InterfaceCall → Prop
  | .stop _ => True
  | .delete _ => True
  | _ => False

/-- If the operation is a `stop` or a `delete` that returns `Ok`, no rule names the interface. -/
def LeavesNoResidue (crates : Crates) (name : String) (w : World) (a : InterfaceStep) : Prop :=
  a.call.TearsDown → (a.outcome crates w).1 = .ok () →
    Unmentioned name (interfaceStep crates w a).net

/-- An edit of a running interface does not give up an address family with rules that name the
interface. -/
def KeepsFamilies (crates : Crates) (w : World) (a : InterfaceStep) : Prop :=
  match a.call with
  | .update id input => ∀ old iface, Accepted a.plan crates (w.seen a.env) id input old iface →
      old.status = .up → ∀ family ∉ iface.families, ∀ entry ∈ w.net.tables family,
        ¬ entry.Mentions old.name
  | _ => True

variable {crates : Crates} {plan : Plan} {w w' : World} {id : Id InterfaceMarker}
  {name gw : String} {iface old row : Interface} {net net' : NetState}
  {expected : Family → List Entry}

/-! ## The tables -/

theorem Unmentioned.accounted (h : Unmentioned name net) : Accounted name net expected :=
  fun family entry hentry hmentions => absurd hmentions (h family entry hentry)

theorem mem_rule_entries {family : Family} {entry : Entry} :
    entry ∈ iface.ruleEntries (some gw) family ↔
      family ∈ iface.families ∧ entry ∈ (natRules iface.name gw).map Rule.entry := by
  unfold Interface.ruleEntries
  by_cases h : family ∈ iface.families <;> simp [h]

/-- What is accounted for by the rules of no gateway is not there. -/
theorem Accounted.unmentioned (h : Accounted name net (iface.ruleEntries none)) :
    Unmentioned name net :=
  fun family entry hentry hmentions => nomatch (h family entry hentry hmentions).1

theorem removed_tables (hplan : plan.RunsIptables) (family : Family) :
    (plan.removed iface gw net).tables family =
      if family ∈ iface.families then
        eraseAll ((natRules iface.name gw).map Rule.entry) (net.tables family)
      else net.tables family := by
  simp only [Plan.removed, hplan.erased]

/-- Removing the rules that are accounted for leaves none, in the families of the interface that
they are removed for. -/
theorem Accounted.removed (hplan : plan.RunsIptables) {gateway : Option String}
    (h : Accounted name net (old.ruleEntries gateway)) (hname : iface.name = old.name)
    (hothers : ∀ family ∉ iface.families, ∀ entry ∈ net.tables family, ¬ entry.Mentions name) :
    Unmentioned name (plan.unmasqueraded iface gateway net) := by
  cases gateway with
  | none => exact h.unmentioned
  | some gw =>
      intro family entry hentry hmentions
      simp only [Plan.unmasqueraded, removed_tables hplan] at hentry
      split at hentry
      · have hbefore : entry ∈ net.tables family :=
          List.count_pos_iff.mp ((Nat.zero_le _).trans_lt (mem_erase_all.mp hentry))
        obtain ⟨hexpected, hcount⟩ := h family entry hbefore hmentions
        refine absurd hentry (not_mem_erase_all ?_ hcount)
        exact hname ▸ (mem_rule_entries.mp hexpected).2
      · exact hothers family ‹_› entry hentry hmentions

/-- Applying the rules that are accounted for adds at most those. -/
theorem Accounted.applied (hplan : plan.RunsIptables)
    (h : Accounted name net (iface.ruleEntries (some gw)))
    (happlied : Applied plan iface gw net (.ok ()) net') :
    Accounted name net' (iface.ruleEntries (some gw)) := by
  cases happlied with
  | forwarded _ tables _ hins =>
      intro family entry hentry hmentions
      by_cases hfamily : family ∈ iface.families
      · simp only [hins.exact hplan family hfamily] at hentry ⊢
        have hbefore : (net.tables family).count entry ≤ 1 := by
          by_cases hmem : entry ∈ net.tables family
          · exact (h family entry hmem hmentions).2
          · rw [List.count_eq_zero_of_not_mem hmem]
            exact Nat.zero_le 1
        refine ⟨?_, count_ensure_all_le.trans (max_le le_rfl hbefore)⟩
        rcases mem_ensure_all.mp hentry with hrule | hold
        · exact mem_rule_entries.mpr ⟨hfamily, hrule⟩
        · exact (h family entry hold hmentions).1
      · simp only [hins.frame family hfamily] at hentry ⊢
        exact h family entry hentry hmentions

/-! ## One operation -/

theorem Tidy.accounted (h : Tidy id name w) (hmem : row ∈ w.db.interfaces.rows)
    (hid : row.id = id) : Accounted name w.net (row.ruleEntries row.gateway) := by
  rcases h.2 with hnone | ⟨row', hrow', hid', _, haccounted⟩
  · exact hnone.accounted
  · rw [Db.eq_of_interface_id hmem hrow' (hid.trans hid'.symm)]
    exact haccounted

/-- Outside the families of the row nothing names the interface. -/
theorem Accounted.others {gateway : Option String}
    (h : Accounted name net (row.ruleEntries gateway)) :
    ∀ family ∉ row.families, ∀ entry ∈ net.tables family, ¬ entry.Mentions name := by
  intro family hfamily entry hentry hmentions
  have hexpected := (h family entry hentry hmentions).1
  cases gateway with
  | none => cases hexpected
  | some gw => exact hfamily (mem_rule_entries.mp hexpected).1

/-- Writing a row keeps the names. -/
theorem names_of_update {now : DateTime}
    (h : ∀ row ∈ w.db.interfaces.rows, row.id = id → row.name = name) :
    ∀ row' ∈ (w.db.updateInterface row now).interfaces.rows, row'.id = id → row'.name = name := by
  intro row' hrow' hid
  obtain ⟨old, hold, hsame, hname⟩ := Db.update_interface_source hrow'
  exact hname ▸ h old hold (hsame.trans hid)

theorem started_tidy {result : Except CoreError Interface} (h : Tidy id name w)
    (hend : Started Plan.none crates w id result w') : Tidy id name w' := by
  cases hend with
  | unconfigured e _ => exact h
  | unrouted e iface _ hroutes => cases hroutes
  | unmasqueraded e iface spawned _ _ _ hmasq =>
      cases hmasq with
      | rejected gw _ _ _ => exact h
      | failed gw _ net _ _ happlied =>
          have hok := happlied.ok_iff.mpr (Plan.applies_none _ _ _)
          cases hok
  | unsaved e iface spawned _ _ _ _ hsaves => cases hsaves
  | saved iface spawned w₂ hconf _ hmasq _ =>
      obtain ⟨hmem, hid⟩ := Plan.read_interface_some hconf.read
      refine ⟨names_of_update h.1, .inr ⟨_, Db.mem_update_interface.mpr
        (.inr ⟨iface, hmem, iface.with_status_id .up, rfl⟩), hid, rfl, ?_⟩⟩
      have haccounted := h.accounted hmem hid
      show Accounted name w₂.net (iface.ruleEntries iface.gateway)
      cases hmasq with
      | ungated _ => exact haccounted
      | applied gw net hgw _ happlied =>
          rw [hgw] at haccounted ⊢
          exact haccounted.applied Plan.runs_iptables_none happlied

/-- Removing the rules of a row that accounts for all leaves none that name the interface. -/
theorem Tidy.removed (h : Tidy id name w) (hread : Plan.none.readInterface w.db id = some iface) :
    Unmentioned name (Plan.none.unmasqueraded iface iface.gateway w.net) := by
  obtain ⟨hmem, hid⟩ := Plan.read_interface_some hread
  have haccounted := h.accounted hmem hid
  exact haccounted.removed Plan.runs_iptables_none rfl haccounted.others

theorem stopped_tidy {result : Except CoreError Interface} (h : Tidy id name w)
    (hend : Stopped Plan.none w id result w') :
    Tidy id name w' ∧ ∀ iface, result = .ok iface → Unmentioned name w'.net := by
  cases hend with
  | absent e _ => exact ⟨h, fun _ hok => nomatch hok⟩
  | refused e iface spawned _ htakes => cases htakes
  | unsaved e iface spawned _ _ hsaves => cases hsaves
  | saved iface spawned hread _ _ =>
      have hclean := h.removed hread
      exact ⟨⟨names_of_update h.1, .inl hclean⟩, fun _ _ => hclean⟩

theorem deleted_tidy {result : Except CoreError Unit} (h : Tidy id name w)
    (hend : Deleted Plan.none w id result w') :
    Tidy id name w' ∧ (result = .ok () → Unmentioned name w'.net) := by
  cases hend with
  | absent e _ => exact ⟨h, nofun⟩
  | kept e iface _ hdeletes => cases hdeletes
  | deleted iface hread _ =>
      have hclean := h.removed hread
      exact ⟨⟨fun row hrow => h.1 row (Db.mem_delete_interface.mp hrow).1, .inl hclean⟩,
        fun _ => hclean⟩

theorem updated_tidy {input : UpdateInterfaceInput} {result : Except CoreError Interface}
    (h : Tidy id name w) (hend : Updated Plan.none crates w id input result w')
    (hkeeps : ∀ old iface, Accepted Plan.none crates w id input old iface → old.status = .up →
      ∀ family ∉ iface.families, ∀ entry ∈ w.net.tables family, ¬ entry.Mentions old.name) :
    Tidy id name w' := by
  cases hend with
  | rejected e _ => exact h
  | idle old iface haccepted hdown =>
      refine ⟨names_of_update h.1, .inl (h.2.resolve_right ?_)⟩
      rintro ⟨row, hrow, hid, hup, -⟩
      obtain ⟨hmem, hold⟩ := Plan.read_interface_some haccepted.read
      exact hdown (Db.eq_of_interface_id hrow hmem (hid.trans hold.symm) ▸ hup)
  | unlisted e old iface _ _ hlists => cases hlists
  | reapplied old iface net haccepted hup _ hnet =>
      obtain ⟨hid, hname, hstatus, -⟩ := haccepted.row
      obtain ⟨hmem, hold⟩ := Plan.read_interface_some haccepted.read
      have hclean : Unmentioned name (Plan.none.unmasqueraded iface old.gateway w.net) :=
        (h.accounted hmem hold).removed Plan.runs_iptables_none hname
          (h.1 old hmem hold ▸ hkeeps old iface haccepted hup)
      refine ⟨names_of_update h.1, ?_⟩
      cases hnet with
      | ungated hnone => exact .inl hclean
      | applied gw result net hgw happlied =>
          have hok : result = .ok () := happlied.ok_iff.mpr (Plan.applies_none _ _ _)
          have haccounted : Accounted name net (iface.ruleEntries iface.gateway) := by
            rw [hgw]
            exact hclean.accounted.applied Plan.runs_iptables_none (hok ▸ happlied)
          exact .inr ⟨{ iface with createdAt := old.createdAt, updatedAt := w.env.now },
            Db.mem_update_interface.mpr (.inr ⟨old, hmem, hid.symm, by rw [← hname]⟩),
            hid.trans hold, hstatus.trans hup, haccounted⟩

/-- An operation without failures keeps the rules accounted for, and a `stop` or `delete` that
returns `Ok` leaves none that names the interface. -/
theorem tidy_step {a : InterfaceStep} (h : Tidy id name w) (hcall : a.call.Manages id)
    (hplan : a.plan = .none) (hkeeps : KeepsFamilies crates w a) :
    Tidy id name (interfaceStep crates w a) ∧ LeavesNoResidue crates name w a := by
  unfold LeavesNoResidue
  have hseen : ∀ env, Tidy id name (w.seen env) := fun _ => h
  have hend := ended crates w a
  generalize interfaceStep crates w a = w' at hend ⊢
  generalize (a.outcome crates w).1 = result at hend ⊢
  cases hend with
  | create result hend => exact hcall.elim
  | start result hend =>
      cases hcall
      cases hplan
      exact ⟨started_tidy (hseen _) hend, False.elim⟩
  | stop result hend =>
      cases hcall
      cases hplan
      obtain ⟨htidy, hclean⟩ := stopped_tidy (hseen _) hend
      refine ⟨htidy, fun _ hok => ?_⟩
      cases result with
      | error e => cases hok
      | ok iface => exact hclean iface rfl
  | update result hend =>
      cases hcall
      cases hplan
      exact ⟨updated_tidy (hseen _) hend hkeeps, False.elim⟩
  | delete result hend =>
      cases hcall
      cases hplan
      obtain ⟨htidy, hclean⟩ := deleted_tidy (hseen _) hend
      exact ⟨htidy, fun _ hok => hclean hok⟩

/-- In a run without failures that starts without a rule that names the interface, every `stop` and
`delete` that returns `Ok` leaves none, provided that no edit of the running interface gives up an
address family that still has one. -/
theorem no_residue (crates : Crates) (id : Id InterfaceMarker) (name : String) (w : World)
    (run : List InterfaceStep)
    (hname : ∀ row ∈ w.db.interfaces.rows, row.id = id → row.name = name)
    (hclean : Unmentioned name w.net) (hcalls : ∀ a ∈ run, a.call.Manages id)
    (hplan : ∀ a ∈ run, a.plan = .none)
    (hkeeps : Runs.EachStep (interfaceStep crates) (KeepsFamilies crates) w run) :
    Runs.EachStep (interfaceStep crates) (LeavesNoResidue crates name) w run := by
  have hstep := ((Runs.EachStep.of_mem hcalls).and (Runs.EachStep.of_mem hplan)).and hkeeps
  have htidy : Runs.Always (interfaceStep crates) (Tidy id name) w run :=
    Runs.always_of_each_step (fun _ _ h hall => (tidy_step h hall.1.1 hall.1.2 hall.2).1)
      ⟨hname, .inl hclean⟩ hstep
  exact (htidy.each_step.and hstep).mono fun _ _ hall =>
    (tidy_step hall.1 hall.2.1.1 hall.2.1.2 hall.2.2).2

/-- A running interface loses its IPv6 network and is stopped. -/
def familyGivenUp : List InterfaceStep :=
  [⟨.start ⟨0⟩, .none, (World.fresh ["eth0"]).env⟩,
    ⟨.update ⟨0⟩ (.plain (some "eth0") none), .none, (World.fresh ["eth0"]).env⟩,
    ⟨.stop ⟨0⟩, .none, (World.fresh ["eth0"]).env⟩]

/-- The `ip6tables` rules of the interface are left behind. -/
theorem residue_left :
    (∀ row ∈ (World.withInterface
        (.plain 0 "wg0" (some "eth0") (some (.v6 0 0)))).db.interfaces.rows,
        row.id = ⟨0⟩ → row.name = "wg0") ∧
      Unmentioned "wg0" (World.withInterface (.plain 0 "wg0" (some "eth0") (some (.v6 0 0)))).net ∧
      (∀ a ∈ familyGivenUp, a.call.Manages ⟨0⟩ ∧ a.plan = .none) ∧
      ¬ Runs.EachStep (interfaceStep .transparent) (LeavesNoResidue .transparent "wg0")
        (.withInterface (.plain 0 "wg0" (some "eth0") (some (.v6 0 0)))) familyGivenUp := by
  refine ⟨by decide +kernel, fun _ _ hentry => absurd hentry List.not_mem_nil,
    by simp [familyGivenUp, InterfaceCall.Manages], fun h => ?_⟩
  refine h.2.2.1 trivial rfl .v6 ⟨"filter", ["FORWARD", "-i", "wg0", "-j", "ACCEPT"]⟩ ?_ ?_
  · decide +kernel
  · decide

theorem no_residue_stopped :
    Runs.EachStep (interfaceStep .transparent) (LeavesNoResidue .transparent "wg0")
      (.withInterface (.plain 0 "wg0" (some "eth0") none)) startedAndStopped :=
  no_residue _ ⟨0⟩ _ _ _ (by decide +kernel) (fun _ _ hentry => absurd hentry List.not_mem_nil)
    (by simp [startedAndStopped, InterfaceCall.Manages]) (by simp [startedAndStopped])
    ⟨trivial, trivial, trivial⟩

end Wireforge
