import Wireforge.Infra.Persistence
import Wireforge.Infra.WireGuard
import Wireforge.Task.Task

/-!
# The scheduler

Peers may carry an access window. Each pass enables the peers whose window is open and disables
those whose window is closed.
-/

namespace Wireforge

open Effect

variable (crates : Crates)

/-- Whole days since the epoch. -/
def DateTime.days (t : DateTime) : Int :=
  t.nanos.fdiv (86400 * 10 ^ 9)

/-- The ISO weekday, from 1 for Monday to 7. The epoch was a Thursday. -/
def DateTime.weekday (t : DateTime) : UInt8 :=
  UInt8.ofNat ((t.days + 3).emod 7 + 1).toNat

/-- The time of day in whole minutes. -/
def DateTime.minuteOfDay (t : DateTime) : NaiveTime :=
  Fin.ofNat 1440 ((t.nanos.fdiv (60 * 10 ^ 9)).emod 1440).toNat

/-- The window is open: the weekday is listed and the time lies between the two times of day,
which may wrap around midnight. -/
def isInWindow (schedule : Schedule) (now : DateTime) : Bool :=
  if now.weekday ∉ schedule.weekdays then false
  else
    match crates.parseTime schedule.fromTime, crates.parseTime schedule.toTime with
    | some start, some stop =>
        let current := now.minuteOfDay
        if start ≤ stop then start ≤ current && current ≤ stop
        else start ≤ current || current ≤ stop
    | _, _ => false

namespace Scheduler

/-- Switch a peer whose window has opened or closed. -/
def toggle (peer : Peer) (inWindow : Bool) : Task Unit := do
  let peer := { peer with enabled := inWindow }
  Task.run (SqlitePeerRepository.update peer)
  match ← Task.run (SqliteInterfaceRepository.findById peer.interfaceId) with
  | none => throw (.message "iface vanished")
  | some iface =>
      if inWindow then ignore (DefguardAdapter.applyPeer crates iface peer)
      else ignore (DefguardAdapter.removePeer iface peer.publicKey)

/-- Enforce the window of one peer; peers without a readable schedule are left alone. -/
def enforce (now : DateTime) (peer : Peer) : Task Unit :=
  match peer.schedule with
  | none => pure ()
  | some scheduleJson =>
      match crates.parseSchedule scheduleJson with
      | .error _ => pure ()
      | .ok schedule =>
          let inWindow := isInWindow crates schedule now
          if inWindow = peer.enabled then pure () else toggle crates peer inWindow

/-- One pass over all peers. -/
def runOnce : Task Unit := do
  let now ← Task.run utcNow
  let peers ← Task.run SqlitePeerRepository.listAll
  forEach (enforce crates now) peers

end Scheduler

end Wireforge
