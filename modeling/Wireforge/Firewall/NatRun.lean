import Wireforge.Infra.NatSpec
import Wireforge.Lib.Runs

/-!
# Runs of the NAT adapter

A run is a sequence of `apply` and `remove` calls over any interfaces, each with its own choice of
failing calls, and keeps a record of what has been applied and not removed since.
-/

namespace Wireforge

open Effect

/-- The two calls of the adapter. -/
inductive NatCall where
  | apply (iface : Interface) (gateway : String)
  | remove (iface : Interface) (gateway : String)

/-- The program of a call. -/
def NatCall.program : NatCall → App Unit
  | .apply iface gateway => IptablesNatAdapter.apply iface gateway
  | .remove iface gateway => IptablesNatAdapter.remove iface gateway

/-- A call with the failures that happen during it. -/
structure NatStep where
  call : NatCall
  plan : Plan

/-- The host, and the interfaces that have been applied and not removed since, each with the
gateway it was applied with. -/
structure NatRun where
  world : World
  applied : List (Interface × String)

/-- What a call returns. -/
def NatStep.result (a : NatStep) (s : NatRun) : Except CoreError Unit :=
  (eval (handle a.plan) a.call.program s.world).1

/-- One call. An `apply` counts once it has returned `Ok`. -/
def natStep (s : NatRun) (a : NatStep) : NatRun where
  world := (eval (handle a.plan) a.call.program s.world).2
  applied :=
    match a.call, a.result s with
    | .apply iface gateway, .ok _ => (iface, gateway) :: s.applied
    | .apply _ _, .error _ => s.applied
    | .remove iface _, _ => s.applied.filter (·.1.name ≠ iface.name)

/-- The call returns `Ok`. -/
def Succeeds (s : NatRun) (a : NatStep) : Prop :=
  a.result s = .ok ()

variable {s : NatRun}

/-! ## One step -/

theorem nat_step_apply {iface : Interface} {gateway : String} {plan : Plan}
    (h : Succeeds s ⟨.apply iface gateway, plan⟩) :
    ∃ tables, natStep s ⟨.apply iface gateway, plan⟩ =
      { world := { s.world with
          net := {
            tables
            forward := fun family => decide (family ∈ iface.families) || s.world.net.forward family
            snapshots := Function.update s.world.net.snapshots iface.name (some
              ⟨plan.reads .v4 && s.world.net.forward .v4,
                !iface.ipv6Cidr.isSome || plan.reads .v6 && s.world.net.forward .v6⟩) } }
        applied := (iface, gateway) :: s.applied } ∧
      Installs plan iface.families (natRules iface.name gateway) s.world.net.tables (.ok ())
        tables := by
  obtain ⟨result, net, heval, happlied⟩ :=
    IptablesNatAdapter.apply_spec plan s.world iface gateway
  have hresult : result = .ok () := by
    rw [← show _ = result from congrArg Prod.fst heval]
    exact h
  subst hresult
  cases happlied with
  | forwarded _ tables _ hins =>
      refine ⟨tables, ?_, hins⟩
      simp only [natStep, NatStep.result, NatCall.program, heval]

theorem nat_step_remove (s : NatRun) (iface : Interface) (gateway : String) (plan : Plan) :
    natStep s ⟨.remove iface gateway, plan⟩ =
      { world := { s.world with net := plan.removed iface gateway s.world.net }
        applied := s.applied.filter (·.1.name ≠ iface.name) } := by
  simp only [natStep, NatCall.program, IptablesNatAdapter.eval_remove]

end Wireforge
