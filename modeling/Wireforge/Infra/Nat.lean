import Wireforge.Host.World
import Wireforge.Lib.Text

/-!
# NAT

The adapter that masquerades the traffic of an interface: it switches forwarding on, remembering
whether it was on before, and installs three rules per address family. Removal deletes the rules
and gives the forwarding flags back. The same module runs the hook scripts.
-/

namespace Wireforge

open Effect

/-- The program that edits a family's rules. -/
def Family.binary : Family → String
  | .v4 => "iptables"
  | .v6 => "ip6tables"

/-- The file of a family's forwarding flag. -/
def Family.forwardPath : Family → String
  | .v4 => "/proc/sys/net/ipv4/ip_forward"
  | .v6 => "/proc/sys/net/ipv6/conf/all/forwarding"

/-- A firewall rule, independent of what is done with it. -/
structure Rule where
  table : Option String
  body : List String
  deriving DecidableEq, Repr

namespace Rule

/-- The arguments that apply an action to the rule. -/
def argv (rule : Rule) (action : String) : List String :=
  (match rule.table with
    | some table => ["-t", table]
    | none => []) ++ action :: rule.body

/-- The rule as the kernel holds it. -/
def entry (rule : Rule) : Entry :=
  ⟨rule.table.getD "filter", rule.body⟩

end Rule

/-- The rules that let traffic of `wg` through and masquerade it behind `gateway`. -/
def natRules (wg gateway : String) : List Rule :=
  [⟨none, ["FORWARD", "-i", wg, "-j", "ACCEPT"]⟩,
    ⟨none, ["FORWARD", "-o", wg, "-j", "ACCEPT"]⟩,
    ⟨some "nat", ["POSTROUTING", "-o", gateway, "-j", "MASQUERADE"]⟩]

/-- Every family the rules of an interface are installed for. -/
def Interface.families (iface : Interface) : List Family :=
  if iface.ipv6Cidr.isSome then [.v4, .v6] else [.v4]

namespace IptablesNatAdapter

/-- Run the family's program; the result says whether it exited 0. -/
def runIpt (family : Family) (args : List String) : App Bool :=
  orElse (fun e => .wireGuard s!"{family.binary}: {e} (is iptables installed?)")
    (Sys.runIpt family args).request

/-- The arguments as the error message shows them. -/
def debugArgs (args : List String) : String :=
  "[" ++ ", ".intercalate (args.map String.quote) ++ "]"

/-- The error of an insertion that exits with a failure. -/
def insertFailed (family : Family) (rule : Rule) : CoreError :=
  let args := debugArgs (rule.argv "-I")
  .wireGuard s!"{family.binary} failed to insert rule: {args}"

/-- Insert a rule unless it is already present. -/
def applyRule (family : Family) (rule : Rule) : App Unit := do
  if !(← runIpt family (rule.argv "-C")) then
    if !(← runIpt family (rule.argv "-I")) then
      throw (insertFailed family rule)

/-- Insert each rule that is not already present. -/
def applyRules (family : Family) (rules : List Rule) : App Unit :=
  forEach (applyRule family) rules

/-- Delete each rule; failures are ignored. -/
def removeRules (family : Family) (rules : List Rule) : App Unit :=
  forEach (fun rule => ignore (runIpt family (rule.argv "-D"))) rules

/-- Whether forwarding is on; a flag that cannot be read counts as off. -/
def readForward (family : Family) : App Bool :=
  always ((fun result => result.toOption.getD false) <$> (Sys.readForward family).request)

/-- Switch forwarding. -/
def writeForward (family : Family) (on : Bool) : App Unit :=
  orElse (fun e => .wireGuard s!"write {family.forwardPath}: {e}")
    (Sys.writeForward family on).request

/-- Switch forwarding on unless it is on, and return whether it was. -/
def enableForward (family : Family) : App Bool := do
  let wasOn ← readForward family
  if !wasOn then
    writeForward family true
  return wasOn

/-- Enable forwarding, remember the prior values and install the rules. -/
def apply (iface : Interface) (gateway : String) : App Unit := do
  let hasV6 := iface.ipv6Cidr.isSome
  let v4WasOn ← enableForward .v4
  let v6WasOn ← if hasV6 then enableForward .v6 else pure true
  always (Sys.rememberForward iface.name ⟨v4WasOn, v6WasOn⟩).request
  forEach (fun family => applyRules family (natRules iface.name gateway)) iface.families

/-- Switch forwarding off if the snapshot says it was off; a failure is ignored. -/
def restoreForward (snapshot : ForwardSnapshot) (family : Family) : App Unit :=
  if !snapshot.wasOn family then ignore (writeForward family false) else pure ()

/-- Delete the rules and restore the forwarding flags that `apply` switched on. -/
def remove (iface : Interface) (gateway : String) : App Unit := do
  forEach (fun family => removeRules family (natRules iface.name gateway)) iface.families
  match ← always (Sys.takeForward iface.name).request with
  | none => pure ()
  | some snapshot => forEach (restoreForward snapshot) iface.families

/-- Run one line of a hook script: no shell, failures are ignored. -/
def runLine (raw : String) : App Unit :=
  let line := Text.trim raw
  if line.isEmpty || line.startsWith "#" then pure ()
  else
    match Text.splitWhitespace line with
    | [] => pure ()
    | cmd :: args => ignore (orElse CoreError.internal (Sys.spawn cmd args).request)

/-- Run a hook script line by line. -/
def runHook (script : String) : App Unit :=
  if (Text.trim script).isEmpty then pure ()
  else forEach runLine (Text.lines script)

end IptablesNatAdapter

end Wireforge
