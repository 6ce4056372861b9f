import Wireforge.Domain.Entities

/-!
# Time arithmetic

Durations and time deltas, and the operations of the time library that do not return when their
result is out of range: making a delta of a number of days, and adding a delta to an instant. The
delta of a duration is checked instead, and is absent when the duration is too long.
-/

namespace Wireforge

/-- A computation of a library does not return. -/
inductive Panic where
  | durationOverflow
  | dateOverflow
  deriving DecidableEq, Repr

instance : LT DateTime := ⟨fun a b => a.nanos < b.nanos⟩
instance : DecidableLT DateTime := fun a b => inferInstanceAs (Decidable (a.nanos < b.nanos))

theorem DateTime.le_iff {a b : DateTime} : a ≤ b ↔ a.nanos ≤ b.nanos := Iff.rfl

theorem DateTime.lt_iff {a b : DateTime} : a < b ↔ a.nanos < b.nanos := Iff.rfl

theorem DateTime.not_lt {a b : DateTime} : ¬ a < b ↔ b ≤ a := Int.not_lt

/-- Nanoseconds in a second. -/
def nanosPerSec : Int := 1000000000

/-- A duration of the standard library. -/
structure Duration where
  secs : UInt64
  subsecNanos : UInt32
  subsec : subsecNanos.toNat < 1000000000

/-- A whole number of seconds. -/
def Duration.fromSecs (secs : UInt64) : Duration := ⟨secs, 0, by decide⟩

/-- The length of a duration. -/
def Duration.nanos (duration : Duration) : Int :=
  duration.secs.toNat * nanosPerSec + duration.subsecNanos.toNat

/-- The longest time delta: `i64::MAX` milliseconds. -/
def TimeDelta.maxNanos : Int := 9223372036854775807 * 1000000

/-- A signed length of time. -/
structure TimeDelta where
  nanos : Int
  inRange : -TimeDelta.maxNanos ≤ nanos ∧ nanos ≤ TimeDelta.maxNanos

namespace TimeDelta

/-- The delta of a length, if it is in range. -/
def ofNanos (nanos : Int) : Option TimeDelta :=
  if h : -maxNanos ≤ nanos ∧ nanos ≤ maxNanos then some ⟨nanos, h⟩ else none

/-- The delta of a duration, if it is in range. -/
def fromStd (duration : Duration) : Option TimeDelta :=
  ofNanos duration.nanos

/-- A number of days. -/
def days (count : Int) : Except Panic TimeDelta :=
  match ofNanos (count * 86400 * nanosPerSec) with
  | some delta => .ok delta
  | none => .error .durationOverflow

/-- One minute. -/
def minute : TimeDelta := ⟨60 * nanosPerSec, by decide⟩

end TimeDelta

/-- The first instant of year -262143. -/
def DateTime.minUtc : DateTime := ⟨-8334601228800 * nanosPerSec⟩

/-- The last instant of year 262142. -/
def DateTime.maxUtc : DateTime := ⟨8210266876800 * nanosPerSec - 1⟩

/-- The instant lies in the range of the time library. -/
def DateTime.InRange (t : DateTime) : Prop :=
  DateTime.minUtc ≤ t ∧ t ≤ DateTime.maxUtc

instance (t : DateTime) : Decidable t.InRange :=
  inferInstanceAs (Decidable (_ ∧ _))

/-- The instant a length of time later. -/
def DateTime.shift (t : DateTime) (delta : TimeDelta) : DateTime :=
  ⟨t.nanos + delta.nanos⟩

/-- An instant and a delta, if the sum is in range. -/
def DateTime.add (t : DateTime) (delta : TimeDelta) : Except Panic DateTime :=
  if (t.shift delta).InRange then .ok (t.shift delta) else .error .dateOverflow

end Wireforge
