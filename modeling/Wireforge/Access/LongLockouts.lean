import Wireforge.Domain.Settings
import Wireforge.Infra.Bans

/-!
# Long lockouts

A lockout that is too long for a time delta is replaced by one minute, but the instant at which a
ban ends is not checked: a ban that ends after the last instant of the time library stops the
process. `record_failure_returns_iff` is the exact range in which recording a failure returns.
-/

namespace Wireforge

namespace SqliteBanRepository

variable {bans : Bans} {ip : String} {maxAttempts : UInt32} {now : DateTime}

/-- The arm that starts a lockout is taken. -/
def StartsLockout (bans : Bans) (ip : String) (maxAttempts : UInt32) (now : DateTime) : Prop :=
  ∃ ban, find bans ip = some ban ∧ ban.isActive now = false ∧
    maxAttempts.toNat ≤ asU32 (asI64 (ban.attemptCount + 1))

/-- The seconds that a ban lasts: as configured, or a minute for what does not fit a time delta. -/
def banSecs (secs : UInt64) : Nat :=
  if secs.toNat ≤ 9223372036854775 then secs.toNat else 60

/-- A number of seconds fits a time delta exactly if it is at most `i64::MAX` milliseconds. -/
theorem from_std_secs (secs : UInt64) :
    (TimeDelta.fromStd (.fromSecs secs)).isSome = true ↔ secs.toNat ≤ 9223372036854775 := by
  unfold TimeDelta.fromStd TimeDelta.ofNanos
  rw [show (Duration.fromSecs secs).nanos = secs.toNat * nanosPerSec from Int.add_zero _]
  unfold TimeDelta.maxNanos nanosPerSec
  split
  · simp only [Option.isSome_some, true_iff]
    omega
  · simp only [Option.isSome_none, Bool.false_eq_true, false_iff]
    omega

/-- The delta of a lockout. -/
theorem lockout_delta_nanos (secs : UInt64) :
    (lockoutDelta (.fromSecs secs)).nanos = banSecs secs * nanosPerSec := by
  have hfits := from_std_secs secs
  unfold lockoutDelta banSecs
  cases hdelta : TimeDelta.fromStd (.fromSecs secs) with
  | none =>
      rw [hdelta] at hfits
      rw [if_neg fun h => Bool.false_ne_true (hfits.mpr h)]
      rfl
  | some delta =>
      rw [if_pos (hfits.mp (by rw [hdelta]; rfl))]
      unfold TimeDelta.fromStd TimeDelta.ofNanos at hdelta
      split at hdelta
      · cases hdelta
        show (Duration.fromSecs secs).nanos = _
        exact Int.add_zero _
      · cases hdelta

/-- The end of a ban that starts now is in range exactly if it is not after the last instant. -/
theorem shift_in_range_iff (hnow : now.InRange) (secs : UInt64) :
    (now.shift (lockoutDelta (.fromSecs secs))).InRange ↔
      now.nanos + banSecs secs * nanosPerSec ≤ DateTime.maxUtc.nanos := by
  have hmin : DateTime.minUtc.nanos ≤ now.nanos := hnow.1
  have hnonneg := lockout_delta_nonneg (.fromSecs secs)
  have hdelta := lockout_delta_nanos secs
  constructor
  · intro h
    have hmax : now.nanos + (lockoutDelta (.fromSecs secs)).nanos ≤ DateTime.maxUtc.nanos := h.2
    rwa [hdelta] at hmax
  · intro h
    rw [← hdelta] at h
    refine ⟨?_, h⟩
    show DateTime.minUtc.nanos ≤ now.nanos + (lockoutDelta (.fromSecs secs)).nanos
    omega

/-- The ban lasts as long as is configured, or one minute if that does not fit a time delta. -/
def BannedFor (ban : IpBan) (secs : UInt64) (now : DateTime) : Prop :=
  ban.bannedUntil.nanos = now.nanos + secs.toNat * nanosPerSec ∨
    TimeDelta.fromStd (.fromSecs secs) = none ∧ ban.bannedUntil.nanos = now.nanos + 60 * nanosPerSec

/-- A failure is recorded, and a lockout that it starts lasts as long as it should. -/
def RecordsFailure (s : RuntimeSettings) (bans : Bans) (ip : String) (now : DateTime) : Prop :=
  ∃ ban bans', recordFailure bans ip s.loginMaxAttempts (.fromSecs s.loginLockoutSecs) now =
      .ok (ban, bans') ∧
    (StartsLockout bans ip s.loginMaxAttempts now → BannedFor ban s.loginLockoutSecs now)

/-- A ban with the delta of a lockout lasts as long as it should. -/
theorem banned_for_delta (ip : String) (count : Int) (secs : UInt64) (now updated : DateTime) :
    BannedFor ⟨ip, now.shift (lockoutDelta (.fromSecs secs)), count, updated⟩ secs now := by
  have hfits := from_std_secs secs
  have hdelta := lockout_delta_nanos secs
  unfold BannedFor
  show now.nanos + (lockoutDelta (.fromSecs secs)).nanos = _ ∨
    _ ∧ now.nanos + (lockoutDelta (.fromSecs secs)).nanos = _
  rw [hdelta]
  unfold banSecs
  by_cases h : secs.toNat ≤ 9223372036854775
  · rw [if_pos h]
    exact .inl rfl
  · rw [if_neg h]
    refine .inr ⟨?_, rfl⟩
    cases hnone : TimeDelta.fromStd (.fromSecs secs) with
    | none => rfl
    | some delta =>
        rw [hnone] at hfits
        exact absurd (hfits.mp rfl) h

/-- Recording a failure returns, with a ban of the right length if it starts one, exactly if no
lockout starts or the ban ends at or before the last instant of the time library. -/
theorem record_failure_returns_iff (s : RuntimeSettings) (bans : Bans) (ip : String)
    (now : DateTime) (hnow : now.InRange) :
    RecordsFailure s bans ip now ↔
      (StartsLockout bans ip s.loginMaxAttempts now →
        now.nanos + banSecs s.loginLockoutSecs * nanosPerSec ≤ DateTime.maxUtc.nanos) := by
  rw [← shift_in_range_iff hnow]
  have hspec : Recorded bans ip s.loginMaxAttempts (.fromSecs s.loginLockoutSecs) now
      (nextBan (find bans ip) ip s.loginMaxAttempts (.fromSecs s.loginLockoutSecs) now) :=
    next_ban_spec
  unfold RecordsFailure recordFailure
  generalize nextBan (find bans ip) ip s.loginMaxAttempts (.fromSecs s.loginLockoutSecs) now =
    outcome at hspec ⊢
  cases hspec with
  | first hnone =>
      have hcalm : ¬ StartsLockout bans ip s.loginMaxAttempts now := by
        intro hstarts
        obtain ⟨ban, hfind, -⟩ := hstarts
        rw [hnone] at hfind
        cases hfind
      exact iff_of_true ⟨_, _, rfl, fun h => absurd h hcalm⟩ fun h => absurd h hcalm
  | active ban hfind hactive =>
      have hcalm : ¬ StartsLockout bans ip s.loginMaxAttempts now := by
        intro hstarts
        obtain ⟨row, hrow, hover, -⟩ := hstarts
        obtain rfl : ban = row := Option.some.inj (hfind.symm.trans hrow)
        rw [hactive] at hover
        cases hover
      exact iff_of_true ⟨_, _, rfl, fun h => absurd h hcalm⟩ fun h => absurd h hcalm
  | counted ban hfind hover hbelow =>
      have hcalm : ¬ StartsLockout bans ip s.loginMaxAttempts now := by
        intro hstarts
        obtain ⟨row, hrow, -, hreached⟩ := hstarts
        obtain rfl : ban = row := Option.some.inj (hfind.symm.trans hrow)
        omega
      exact iff_of_true ⟨_, _, rfl, fun h => absurd h hcalm⟩ fun h => absurd h hcalm
  | locked ban hfind hover hreached hrange =>
      exact iff_of_true ⟨_, _, rfl, fun _ => banned_for_delta _ _ _ _ _⟩ fun _ => hrange
  | stuck ban hfind hover hreached hrange =>
      refine iff_of_false ?_ fun h => hrange (h ⟨ban, hfind, hover, hreached⟩)
      rintro ⟨row, bans', hok, -⟩
      cases hok

end SqliteBanRepository

open SqliteBanRepository

/-- Settings whose lockout is read from a persisted value. -/
def lockoutSettings (secs : String) : RuntimeSettings :=
  RuntimeSettings.default.applyOverrides [("login_lockout_secs", secs)]

/-- An IP with four failures. -/
def fourFailures : Bans := ⟨[⟨"192.0.2.1", ⟨0⟩, 4, ⟨0⟩⟩], by simp⟩

theorem record_failure_returns_default :
    RecordsFailure .default fourFailures "192.0.2.1" ⟨0⟩ :=
  (record_failure_returns_iff .default fourFailures "192.0.2.1" ⟨0⟩ (by decide)).mpr
    fun _ => by decide

/-- With a lockout of ten million million seconds the fifth failure does not return. -/
theorem long_lockout_panics : ¬ ∀ (s : RuntimeSettings) (bans : Bans) (ip : String)
    (now : DateTime), now.InRange → RecordsFailure s bans ip now := by
  intro h
  obtain ⟨ban, bans', hok, -⟩ := h (lockoutSettings "10000000000000") fourFailures "192.0.2.1" ⟨0⟩
    (by decide)
  have hpanics : (recordFailure fourFailures "192.0.2.1"
      (lockoutSettings "10000000000000").loginMaxAttempts
      (.fromSecs (lockoutSettings "10000000000000").loginLockoutSecs) ⟨0⟩).isOk = false := by
    decide +kernel
  rw [hok] at hpanics
  cases hpanics

end Wireforge
