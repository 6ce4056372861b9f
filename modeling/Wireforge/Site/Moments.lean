import Wireforge.Site.State

/-!
# Moments

A `Moment` decides everything about a call that the program and the state of the server leave open:
whether it fails, what the host shows, what the sources of randomness yield, and in which order a
hash map is read.
-/

namespace Wireforge

open Effect

/-- The order in which hash maps yield their entries. -/
structure HashOrder where
  iterate : List (String × String) → List (String × String)
  perm : ∀ entries, (iterate entries).Perm entries

/-- Entries in the order in which they were inserted. -/
def HashOrder.inserted : HashOrder := ⟨id, fun _ => .rfl⟩

/-- What the outcome of a call depends on. -/
structure Moment where
  outage : Outage
  env : Env
  draws : Draws
  order : HashOrder

/-- The server as it is at a moment. -/
def Site.seen (s : Site) (m : Moment) : Site :=
  { s with host := { s.host with env := m.env }, draws := m.draws }

/-- The meaning of every call at a moment. -/
def Moment.serve (m : Moment) : Handler SiteCall SiteCall.Reply Site
  | .allSettings, s =>
      let (reply, s) := Wireforge.serve m.outage .allSettings (s.seen m)
      (reply.map m.order.iterate, s)
  | .applyOverrides overrides, s =>
      Wireforge.serve m.outage (.applyOverrides (m.order.iterate overrides)) (s.seen m)
  | call, s => Wireforge.serve m.outage call (s.seen m)

/-- A moment at which nothing fails. -/
def Moment.calm (s : Site) (order : HashOrder) : Moment :=
  ⟨.none, s.host.env, s.draws, order⟩

end Wireforge
