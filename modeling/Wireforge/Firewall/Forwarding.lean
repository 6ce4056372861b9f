import Wireforge.Firewall.NatRun
import Wireforge.Lib.SavedFlag

/-!
# Forwarding over runs of the NAT adapter

Seen through `flagOf`, each forwarding flag with the adapter's snapshots of it is a shared flag of
which every interface saves the prior value; `forwarding_held_iff` and `forwarding_restored_iff`
are the two laws of such flags, read back.
-/

namespace Wireforge

open Effect SavedFlag

/-- The forwarding flags can be read and written. -/
def FlagsWork (_ : NatRun) (a : NatStep) : Prop :=
  ∀ family, a.plan.reads family = true ∧ ∀ on, a.plan.writes family on = true

variable {s : NatRun} {a : NatStep} {run : List NatStep} {family : Family}

/-! ## The forwarding flags as shared flags -/

/-- One family's flag, what the interfaces saved of it, and the interfaces that rely on it. -/
def flagOf (family : Family) (s : NatRun) : State String where
  on := s.world.net.forward family
  saved name := (s.world.net.snapshots name).map (·.wasOn family)
  held := {name | ∃ entry ∈ s.applied, family ∈ entry.1.families ∧ entry.1.name = name}

/-- What a call does to one family's flag. -/
def flagOp (family : Family) (a : NatStep) : Op String :=
  match a.call with
  | .apply iface _ =>
      if family ∈ iface.families then .acquire iface.name (a.plan.reads family)
      else .note iface.name
  | .remove iface _ =>
      if family ∈ iface.families then .release iface.name (a.plan.writes family false)
      else .forget iface.name

/-- A snapshot of what was read, for a family the interface uses. -/
theorem was_on_of_mem {iface : Interface} {v4 v6 : Bool} (h : family ∈ iface.families) :
    (⟨v4, !iface.ipv6Cidr.isSome || v6⟩ : ForwardSnapshot).wasOn family =
      match family with
      | .v4 => v4
      | .v6 => v6 := by
  cases family with
  | v4 => rfl
  | v6 => simp [ForwardSnapshot.wasOn, mem_families.mp h rfl]

/-- A family the interface does not use is saved as on. -/
theorem was_on_of_not_mem {iface : Interface} {v4 v6 : Bool} (h : family ∉ iface.families) :
    (⟨v4, !iface.ipv6Cidr.isSome || v6⟩ : ForwardSnapshot).wasOn family = true := by
  rw [mem_families, Classical.not_imp] at h
  obtain ⟨rfl, hnone⟩ := h
  simp [ForwardSnapshot.wasOn, hnone]

theorem flag_of_apply {iface : Interface} {gateway : String} {plan : Plan}
    (h : Succeeds s ⟨.apply iface gateway, plan⟩) :
    flagOf family (natStep s ⟨.apply iface gateway, plan⟩) =
      step (flagOf family s) (flagOp family ⟨.apply iface gateway, plan⟩) := by
  obtain ⟨tables, hstep, -⟩ := nat_step_apply h
  rw [hstep]
  by_cases hmem : family ∈ iface.families
  · refine State.ext ?_ (funext fun name => ?_) (Set.ext fun name => ?_)
    · simp [flagOf, flagOp, step, hmem]
    · simp only [flagOf, flagOp, step, hmem, if_true]
      by_cases hname : name = iface.name
      · subst hname
        rw [Function.update_self, Function.update_self, Option.map_some, was_on_of_mem hmem]
        cases family <;> rfl
      · rw [Function.update_of_ne hname, Function.update_of_ne hname]
    · simp only [flagOf, flagOp, step, hmem, if_true, Set.mem_ofPred_eq, Set.mem_insert_iff,
        List.exists_mem_cons_iff, true_and, eq_comm (a := iface.name)]
  · refine State.ext ?_ (funext fun name => ?_) (Set.ext fun name => ?_)
    · simp [flagOf, flagOp, step, hmem]
    · simp only [flagOf, flagOp, step, hmem, if_false]
      by_cases hname : name = iface.name
      · subst hname
        rw [Function.update_self, Function.update_self, Option.map_some, was_on_of_not_mem hmem]
      · rw [Function.update_of_ne hname, Function.update_of_ne hname]
    · simp only [flagOf, flagOp, step, hmem, if_false, Set.mem_ofPred_eq,
        List.exists_mem_cons_iff, false_and, false_or]

theorem flag_of_remove (s : NatRun) (iface : Interface) (gateway : String) (plan : Plan) :
    flagOf family (natStep s ⟨.remove iface gateway, plan⟩) =
      step (flagOf family s) (flagOp family ⟨.remove iface gateway, plan⟩) := by
  rw [nat_step_remove]
  have hsaved : ∀ name, (Function.update s.world.net.snapshots iface.name none name).map
      (·.wasOn family) = Function.update (flagOf family s).saved iface.name none name := by
    intro name
    by_cases hname : name = iface.name
    · subst hname
      simp
    · simp [hname, flagOf]
  have hheld : ∀ name, (∃ entry ∈ s.applied.filter (·.1.name ≠ iface.name),
      family ∈ entry.1.families ∧ entry.1.name = name) ↔
      name ∈ (flagOf family s).held \ {iface.name} := by
    intro name
    simp only [List.mem_filter, decide_eq_true_eq, flagOf, Set.mem_sdiff, Set.mem_ofPred_eq,
      Set.mem_singleton_iff]
    constructor
    · rintro ⟨entry, ⟨hentry, hne⟩, hmem, rfl⟩
      exact ⟨⟨entry, hentry, hmem, rfl⟩, hne⟩
    · rintro ⟨⟨entry, hentry, hmem, rfl⟩, hne⟩
      exact ⟨entry, ⟨hentry, hne⟩, hmem, rfl⟩
  by_cases hmem : family ∈ iface.families
  · refine State.ext ?_ (funext fun name => ?_) (Set.ext fun name => ?_)
    · simp [flagOf, flagOp, step, hmem, Plan.removed]
    · simpa [flagOf, flagOp, step, hmem, Plan.removed] using hsaved name
    · simpa [flagOf, flagOp, step, hmem] using hheld name
  · refine State.ext ?_ (funext fun name => ?_) (Set.ext fun name => ?_)
    · simp [flagOf, flagOp, step, hmem, Plan.removed]
    · simpa [flagOf, flagOp, step, hmem, Plan.removed] using hsaved name
    · simpa [flagOf, flagOp, step, hmem] using hheld name

/-- A successful call acts on each family's flag as its operation says. -/
theorem flag_of_step (h : Succeeds s a) :
    flagOf family (natStep s a) = step (flagOf family s) (flagOp family a) := by
  rcases a with ⟨⟨iface, gateway⟩ | ⟨iface, gateway⟩, plan⟩
  · exact flag_of_apply h
  · exact flag_of_remove s iface gateway plan

/-! ## Forwarding stays on while anyone needs it -/

/-- Every interface that is applied finds forwarding on, for IPv6 if it has an IPv6 network. -/
def ForwardingHeld (s : NatRun) : Prop :=
  ∀ entry ∈ s.applied, s.world.net.forward .v4 = true ∧
    (entry.1.ipv6Cidr.isSome = true → s.world.net.forward .v6 = true)

/-- The snapshot of an interface says that a family's forwarding was off. -/
def SavedOff (net : NetState) (name : String) (family : Family) : Prop :=
  (net.snapshots name).map (·.wasOn family) = some false

/-- A removal that switches a family's forwarding off leaves no other interface that needs it. -/
def SparesOthers (s : NatRun) (a : NatStep) : Prop :=
  match a.call with
  | .apply _ _ => True
  | .remove iface _ => ∀ family ∈ iface.families,
      SavedOff s.world.net iface.name family → a.plan.writes family false = true →
      ∀ entry ∈ s.applied, family ∈ entry.1.families → entry.1.name = iface.name

theorem forwarding_held_iff_stays_on :
    ForwardingHeld s ↔ ∀ family, StaysOn (flagOf family s) := by
  constructor
  · rintro h family ⟨name, entry, hentry, hmem, rfl⟩
    obtain ⟨hv4, hv6⟩ := h entry hentry
    cases family with
    | v4 => exact hv4
    | v6 => exact hv6 (mem_families.mp hmem rfl)
  · intro h entry hentry
    have key : ∀ family ∈ entry.1.families, s.world.net.forward family = true :=
      fun family hmem => h family ⟨entry.1.name, entry, hentry, hmem, rfl⟩
    exact ⟨key .v4 (mem_families.mpr (by simp)),
      fun hv6 => key .v6 (mem_families.mpr fun _ => hv6)⟩

theorem spares_others_iff_keeps_others :
    SparesOthers s a ↔ ∀ family, KeepsOthers (flagOf family s) (flagOp family a) := by
  rcases a with ⟨⟨iface, gateway⟩ | ⟨iface, gateway⟩, plan⟩
  · refine ⟨fun _ family => ?_, fun _ => trivial⟩
    simp only [flagOp]
    split <;> trivial
  · refine forall_congr' fun family => ?_
    by_cases hmem : family ∈ iface.families
    · simp only [flagOp, KeepsOthers, hmem, true_imp_iff]
      refine imp_congr_right fun _ => imp_congr_right fun _ => ?_
      refine ⟨fun h name => ?_, fun h entry hentry hfamily => h _ ⟨entry, hentry, hfamily, rfl⟩⟩
      rintro ⟨entry, hentry, hfamily, rfl⟩
      exact h entry hentry hfamily
    · simp [flagOp, hmem, KeepsOthers]

/-- Forwarding stays on for everyone throughout a run of successful calls exactly when no removal
switches it off under another interface. -/
theorem forwarding_held_iff (w : World) (run : List NatStep)
    (hok : Runs.EachStep natStep Succeeds ⟨w, []⟩ run) :
    Runs.Always natStep ForwardingHeld ⟨w, []⟩ run ↔
      Runs.EachStep natStep SparesOthers ⟨w, []⟩ run := by
  have hheld : ForwardingHeld = fun s => ∀ family, StaysOn (flagOf family s) :=
    funext fun s => propext forwarding_held_iff_stays_on
  have hspares : SparesOthers =
      fun s a => ∀ family, KeepsOthers (flagOf family s) (flagOp family a) :=
    funext fun s => funext fun a => propext spares_others_iff_keeps_others
  rw [hheld, hspares, Runs.always_forall_iff, Runs.each_step_forall_iff]
  refine forall_congr' fun family => ?_
  have halways : Runs.Always natStep (fun s => StaysOn (flagOf family s)) ⟨w, []⟩ run ↔
      Runs.Always step StaysOn (flagOf family ⟨w, []⟩) (run.map (flagOp family)) :=
    Runs.always_map_iff (fun _ _ => flag_of_step) (fun _ => Iff.rfl) hok
  have heach : Runs.EachStep natStep (fun s a => KeepsOthers (flagOf family s) (flagOp family a))
      ⟨w, []⟩ run ↔ Runs.EachStep step KeepsOthers (flagOf family ⟨w, []⟩)
        (run.map (flagOp family)) :=
    Runs.each_step_map_iff (fun _ _ => flag_of_step) (fun _ _ _ => Iff.rfl) hok
  rw [halways, heach]
  exact stays_on_iff fun ⟨_, entry, hentry, _⟩ => absurd hentry List.not_mem_nil

/-- Two interfaces behind one gateway: the first one up is the first one down. -/
def firstUpFirstDown : List NatStep :=
  [⟨.apply (.plain 0 "wg0" (some "eth0") none) "eth0", .none⟩,
    ⟨.apply (.plain 1 "wg1" (some "eth0") none) "eth0", .none⟩,
    ⟨.remove (.plain 0 "wg0" (some "eth0") none) "eth0", .none⟩]

/-- The interface that is still up has lost forwarding. -/
theorem forwarding_lost :
    Runs.EachStep natStep Succeeds ⟨.fresh ["eth0"], []⟩ firstUpFirstDown ∧
      ¬ Runs.Always natStep ForwardingHeld ⟨.fresh ["eth0"], []⟩ firstUpFirstDown := by
  refine ⟨⟨rfl, rfl, rfl, trivial⟩, fun h => ?_⟩
  have hoff : (Runs.after natStep ⟨.fresh ["eth0"], []⟩ firstUpFirstDown).world.net.forward .v4 =
      false := rfl
  have happlied : (Runs.after natStep ⟨.fresh ["eth0"], []⟩ firstUpFirstDown).applied =
      [(.plain 1 "wg1" (some "eth0") none, "eth0")] := rfl
  have hon := (h.last _ (happlied ▸ List.mem_cons_self)).1
  rw [hoff] at hon
  cases hon

/-- One interface that is applied and removed. -/
def appliedOnce : List NatStep :=
  [⟨.apply (.plain 0 "wg0" (some "eth0") none) "eth0", .none⟩,
    ⟨.remove (.plain 0 "wg0" (some "eth0") none) "eth0", .none⟩]

theorem forwarding_held_iff_once :
    Runs.Always natStep ForwardingHeld ⟨.fresh ["eth0"], []⟩ appliedOnce ↔
      Runs.EachStep natStep SparesOthers ⟨.fresh ["eth0"], []⟩ appliedOnce :=
  forwarding_held_iff _ _ ⟨rfl, rfl, trivial⟩

/-! ## Forwarding is given back -/

/-- The call does not drop a saved "off": `apply` does not save over one, and `remove` does not
pass over the snapshot of a family that the interface does not have. -/
def KeepsSavedOff (s : NatRun) (a : NatStep) : Prop :=
  match a.call with
  | .apply iface _ => ∀ family, ¬ SavedOff s.world.net iface.name family
  | .remove iface _ => ∀ family, family ∉ iface.families →
      ¬ SavedOff s.world.net iface.name family

theorem keeps_saved_off_iff_lossless :
    KeepsSavedOff s a ↔ ∀ family, Lossless (flagOf family s) (flagOp family a) := by
  rcases a with ⟨⟨iface, gateway⟩ | ⟨iface, gateway⟩, plan⟩
  · refine forall_congr' fun family => ?_
    simp only [flagOp]
    split <;> rfl
  · refine forall_congr' fun family => ?_
    by_cases hmem : family ∈ iface.families
    · simp [flagOp, hmem, Lossless]
    · simp [flagOp, hmem, Lossless, SavedOff, flagOf]

/-- A snapshot is kept for applied interfaces only. -/
def SavedByApplied (s : NatRun) : Prop :=
  ∀ name, s.world.net.snapshots name ≠ none → ∃ entry ∈ s.applied, entry.1.name = name

theorem saved_by_applied_step (h : SavedByApplied s) (hok : Succeeds s a) :
    SavedByApplied (natStep s a) := by
  rcases a with ⟨⟨iface, gateway⟩ | ⟨iface, gateway⟩, plan⟩
  · obtain ⟨tables, hstep, -⟩ := nat_step_apply hok
    rw [hstep]
    intro name hname
    by_cases heq : name = iface.name
    · exact ⟨(iface, gateway), by simp, heq.symm⟩
    · simp only [Function.update_of_ne heq] at hname
      obtain ⟨entry, hentry, hsame⟩ := h name hname
      exact ⟨entry, List.mem_cons_of_mem _ hentry, hsame⟩
  · rw [nat_step_remove]
    intro name hname
    by_cases heq : name = iface.name
    · simp [Plan.removed, heq] at hname
    · simp only [Plan.removed, Function.update_of_ne heq] at hname
      obtain ⟨entry, hentry, rfl⟩ := h name hname
      exact ⟨entry, by simp [hentry, heq], rfl⟩

/-- A run of a new adapter that reads and writes the flags without failure and leaves nothing
applied leaves both flags as they were exactly when no call drops a saved "off". -/
theorem forwarding_restored_iff (w : World) (run : List NatStep)
    (hnew : ∀ name, w.net.snapshots name = none)
    (hok : Runs.EachStep natStep Succeeds ⟨w, []⟩ run)
    (hflags : Runs.EachStep natStep FlagsWork ⟨w, []⟩ run)
    (hend : (Runs.after natStep ⟨w, []⟩ run).applied = []) :
    (∀ family, (Runs.after natStep ⟨w, []⟩ run).world.net.forward family = w.net.forward family) ↔
      Runs.EachStep natStep KeepsSavedOff ⟨w, []⟩ run := by
  have hlossless : KeepsSavedOff =
      fun s a => ∀ family, Lossless (flagOf family s) (flagOp family a) :=
    funext fun s => funext fun a => propext keeps_saved_off_iff_lossless
  have hsaved : SavedByApplied (Runs.after natStep ⟨w, []⟩ run) :=
    (Runs.always_of_each_step (fun _ _ => saved_by_applied_step)
      (fun name hname => absurd (hnew name) hname) hok).last
  rw [hlossless, Runs.each_step_forall_iff]
  refine forall_congr' fun family => ?_
  have heach : Runs.EachStep natStep (fun s a => Lossless (flagOf family s) (flagOp family a))
      ⟨w, []⟩ run ↔ Runs.EachStep step Lossless (flagOf family ⟨w, []⟩)
        (run.map (flagOp family)) :=
    Runs.each_step_map_iff (fun _ _ => flag_of_step) (fun _ _ _ => Iff.rfl) hok
  rw [heach]
  have hafter : flagOf family (Runs.after natStep ⟨w, []⟩ run) =
      Runs.after step (flagOf family ⟨w, []⟩) (run.map (flagOp family)) :=
    Runs.after_map (fun _ _ => flag_of_step) hok
  have hsound : ∀ op ∈ run.map (flagOp family), Sound op := by
    intro op hop
    obtain ⟨a, ha, rfl⟩ := List.mem_map.mp hop
    obtain ⟨first, rest, heq⟩ := List.append_of_mem ha
    have hwork := Runs.each_step_iff.mp hflags first a rest heq family
    rcases a with ⟨⟨iface, gateway⟩ | ⟨iface, gateway⟩, plan⟩ <;> simp only [flagOp] <;> split
    · exact hwork.1
    · trivial
    · exact hwork.2 false
    · trivial
  rw [← restored_iff hsound (fun name => by simp [flagOf, hnew]) ?_, ← hafter]
  · rfl
  · intro name
    rw [← hafter]
    by_contra hname
    have hsome : (Runs.after natStep ⟨w, []⟩ run).world.net.snapshots name ≠ none := by
      intro hnone
      simp [flagOf, hnone] at hname
    obtain ⟨entry, hentry, -⟩ := hsaved name hsome
    rw [hend] at hentry
    exact absurd hentry List.not_mem_nil

/-- A start of an interface that is already running, and a stop. -/
def appliedTwice : List NatStep :=
  [⟨.apply (.plain 0 "wg0" (some "eth0") none) "eth0", .none⟩,
    ⟨.apply (.plain 0 "wg0" (some "eth0") none) "eth0", .none⟩,
    ⟨.remove (.plain 0 "wg0" (some "eth0") none) "eth0", .none⟩]

/-- Nothing is applied any more, and forwarding is still on. -/
theorem forwarding_kept :
    Runs.EachStep natStep Succeeds ⟨.fresh ["eth0"], []⟩ appliedTwice ∧
      Runs.EachStep natStep FlagsWork ⟨.fresh ["eth0"], []⟩ appliedTwice ∧
      (Runs.after natStep ⟨.fresh ["eth0"], []⟩ appliedTwice).applied = [] ∧
      (Runs.after natStep ⟨.fresh ["eth0"], []⟩ appliedTwice).world.net.forward .v4 ≠
        (World.fresh ["eth0"]).net.forward .v4 := by
  have hwork : ∀ s call, FlagsWork s ⟨call, .none⟩ := fun _ _ _ => ⟨rfl, fun _ => rfl⟩
  exact ⟨⟨rfl, rfl, rfl, trivial⟩, ⟨hwork _ _, hwork _ _, hwork _ _, trivial⟩, rfl, by decide⟩

theorem forwarding_restored_iff_once :
    (∀ family, (Runs.after natStep ⟨.fresh ["eth0"], []⟩ appliedOnce).world.net.forward family =
        (World.fresh ["eth0"]).net.forward family) ↔
      Runs.EachStep natStep KeepsSavedOff ⟨.fresh ["eth0"], []⟩ appliedOnce :=
  forwarding_restored_iff _ _ (fun _ => rfl) ⟨rfl, rfl, trivial⟩
    ⟨fun _ => ⟨rfl, fun _ => rfl⟩, fun _ => ⟨rfl, fun _ => rfl⟩, trivial⟩ rfl

end Wireforge
