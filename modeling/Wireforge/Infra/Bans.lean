import Wireforge.Domain.Time
import Wireforge.Lib.Table

/-!
# Login bans

The table of failed logins, one row for each IP. `recordFailure` is a transaction: it reads the
row, computes the next one and writes it. The next row depends on which of three arms is taken: the
IP has no row, its ban is active, or its row is that of a ban that is over or has not begun.
-/

namespace Wireforge

/-- Login-attempt accounting of one IP. -/
structure IpBan where
  ip : String
  bannedUntil : DateTime
  attemptCount : Int
  updatedAt : DateTime
  deriving DecidableEq, Repr

/-- The ban is active. -/
def IpBan.isActive (ban : IpBan) (now : DateTime) : Bool :=
  now < ban.bannedUntil

/-- The rows of `ip_bans`. -/
abbrev Bans := Table IpBan.ip

/-- An `i64` that wraps around. -/
def asI64 (n : Int) : Int := (n + 2 ^ 63) % 2 ^ 64 - 2 ^ 63

/-- The low 32 bits. -/
def asU32 (n : Int) : Nat := (n % 2 ^ 32).toNat

namespace SqliteBanRepository

/-- The row of an IP. -/
def find (bans : Bans) (ip : String) : Option IpBan :=
  Table.find bans ip

/-- How long a lockout lasts. -/
def lockoutDelta (lockout : Duration) : TimeDelta :=
  (TimeDelta.fromStd lockout).getD .minute

/-- The row that a failure at `now` leaves. -/
def nextBan (existing : Option IpBan) (ip : String) (maxAttempts : UInt32) (lockout : Duration)
    (now : DateTime) : Except Panic IpBan :=
  match existing with
  | some ban =>
      if now < ban.bannedUntil then
        .ok ⟨ip, ban.bannedUntil, asI64 (ban.attemptCount + 1), now⟩
      else
        let newCount := asI64 (ban.attemptCount + 1)
        if maxAttempts.toNat ≤ asU32 newCount then do
          let bannedUntil ← now.add (lockoutDelta lockout)
          return ⟨ip, bannedUntil, 0, now⟩
        else .ok ⟨ip, ban.bannedUntil, newCount, now⟩
  | none => .ok ⟨ip, now, 1, now⟩

/-- Record a failed login. -/
def recordFailure (bans : Bans) (ip : String) (maxAttempts : UInt32) (lockout : Duration)
    (now : DateTime) : Except Panic (IpBan × Bans) := do
  let ban ← nextBan (find bans ip) ip maxAttempts lockout now
  return (ban, bans.upsert ban)

/-- Forget an IP. -/
def clear (bans : Bans) (ip : String) : Bans :=
  bans.filter fun ban => ban.ip ≠ ip

variable {bans : Bans} {ip : String} {maxAttempts : UInt32} {lockout : Duration} {now : DateTime}

/-- What recording a failure does, by the arm it takes. -/
inductive Recorded (bans : Bans) (ip : String) (maxAttempts : UInt32) (lockout : Duration)
    (now : DateTime) : Except Panic IpBan → Prop where
  | first (hnone : find bans ip = none) : Recorded bans ip maxAttempts lockout now
      (.ok ⟨ip, now, 1, now⟩)
  | active (ban : IpBan) (hfind : find bans ip = some ban) (hactive : ban.isActive now = true) :
      Recorded bans ip maxAttempts lockout now
        (.ok ⟨ip, ban.bannedUntil, asI64 (ban.attemptCount + 1), now⟩)
  | counted (ban : IpBan) (hfind : find bans ip = some ban) (hover : ban.isActive now = false)
      (hbelow : asU32 (asI64 (ban.attemptCount + 1)) < maxAttempts.toNat) :
      Recorded bans ip maxAttempts lockout now
        (.ok ⟨ip, ban.bannedUntil, asI64 (ban.attemptCount + 1), now⟩)
  | locked (ban : IpBan) (hfind : find bans ip = some ban) (hover : ban.isActive now = false)
      (hreached : maxAttempts.toNat ≤ asU32 (asI64 (ban.attemptCount + 1)))
      (hrange : (now.shift (lockoutDelta lockout)).InRange) :
      Recorded bans ip maxAttempts lockout now
        (.ok ⟨ip, now.shift (lockoutDelta lockout), 0, now⟩)
  | stuck (ban : IpBan) (hfind : find bans ip = some ban) (hover : ban.isActive now = false)
      (hreached : maxAttempts.toNat ≤ asU32 (asI64 (ban.attemptCount + 1)))
      (hrange : ¬ (now.shift (lockoutDelta lockout)).InRange) :
      Recorded bans ip maxAttempts lockout now (.error .dateOverflow)

/-- The next row is that of one of the arms. -/
theorem next_ban_spec : Recorded bans ip maxAttempts lockout now
    (nextBan (find bans ip) ip maxAttempts lockout now) := by
  cases hfind : find bans ip with
  | none => exact .first hfind
  | some ban =>
      by_cases hactive : now < ban.bannedUntil
      · rw [nextBan, if_pos hactive]
        exact .active ban hfind (decide_eq_true hactive)
      have hover : ban.isActive now = false := decide_eq_false hactive
      rw [nextBan, if_neg hactive]
      by_cases hreached : maxAttempts.toNat ≤ asU32 (asI64 (ban.attemptCount + 1))
      · by_cases hrange : (now.shift (lockoutDelta lockout)).InRange
        · rw [if_pos hreached, DateTime.add, if_pos hrange]
          exact .locked ban hfind hover hreached hrange
        · rw [if_pos hreached, DateTime.add, if_neg hrange]
          exact .stuck ban hfind hover hreached hrange
      · rw [if_neg hreached]
        exact .counted ban hfind hover (not_le.mp hreached)

/-- A count below 2^32 does not wrap. -/
theorem as_i64_of_lt {n : Int} (hpos : 0 ≤ n) (hlt : n < 2 ^ 32) : asI64 n = n := by
  unfold asI64
  omega

/-- A count below 2^32 keeps all its bits. -/
theorem as_u32_of_lt {n : Int} (hpos : 0 ≤ n) (hlt : n < 2 ^ 32) : (asU32 n : Int) = n := by
  unfold asU32
  omega

/-- A lockout does not end before it begins. -/
theorem lockout_delta_nonneg (lockout : Duration) : 0 ≤ (lockoutDelta lockout).nanos := by
  unfold lockoutDelta TimeDelta.fromStd TimeDelta.ofNanos
  split
  · show 0 ≤ lockout.nanos
    unfold Duration.nanos nanosPerSec
    omega
  · show 0 ≤ TimeDelta.minute.nanos
    decide

end SqliteBanRepository

end Wireforge
