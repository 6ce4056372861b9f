import Wireforge.Domain.Settings
import Wireforge.Infra.Bans
import Wireforge.Lib.Runs

/-!
# Lockouts

How many failed logins lock an IP out. A first round of failures locks it out at the last one the
policy allows, unless the policy allows a single one: `locks_on_time_iff`. Once a lockout is over
the IP has a full round again, provided that no failure was recorded while the lockout lasted:
`clean_slate`. Such failures are counted towards the next lockout, so it comes early:
`lockout_shortened`.
-/

namespace Wireforge

open SqliteBanRepository

/-- What failed logins are counted under. -/
structure LockoutPolicy where
  maxAttempts : UInt32
  lockout : Duration

/-- The policy of a form of the settings page. -/
def SettingsForm.lockoutPolicy (f : SettingsForm) : LockoutPolicy :=
  ⟨f.loginMaxAttempts, .fromSecs f.loginLockoutSecs⟩

/-- The IP is locked out. -/
def locked (bans : Bans) (ip : String) (now : DateTime) : Bool :=
  (find bans ip).any (·.isActive now)

namespace LockoutPolicy

/-- Record a failure under the policy. -/
def record (policy : LockoutPolicy) (ip : String) (bans : Bans) (now : DateTime) :
    Except Panic Bans := do
  let (_, bans) ← recordFailure bans ip policy.maxAttempts policy.lockout now
  return bans

/-- Record a failure at each of the times, in turn. -/
def recordAll (policy : LockoutPolicy) (ip : String) : Bans → List DateTime → Except Panic Bans
  | bans, [] => .ok bans
  | bans, now :: rest => do
      let bans ← policy.record ip bans now
      policy.recordAll ip bans rest

variable {policy : LockoutPolicy} {ip : String} {bans : Bans} {now : DateTime}

theorem record_eq :
    policy.record ip bans now =
      (nextBan (find bans ip) ip policy.maxAttempts policy.lockout now).map bans.upsert := by
  unfold record recordFailure
  cases nextBan (find bans ip) ip policy.maxAttempts policy.lockout now <;> rfl

theorem record_all_append (first second : List DateTime) :
    policy.recordAll ip bans (first ++ second) =
      (policy.recordAll ip bans first).bind fun bans => policy.recordAll ip bans second := by
  induction first generalizing bans with
  | nil => rfl
  | cons now rest ih =>
      simp only [List.cons_append, recordAll]
      cases policy.record ip bans now with
      | error panic => rfl
      | ok bans' => exact ih

/-! ## The first round -/

/-- A failure below the threshold is counted, and the end of the ban stays. -/
theorem record_counted {ban : IpBan} (hfind : find bans ip = some ban)
    (hover : ¬ now < ban.bannedUntil) (hpos : 0 ≤ ban.attemptCount)
    (hbelow : ban.attemptCount + 1 < policy.maxAttempts.toNat) :
    policy.record ip bans now =
      .ok (bans.upsert ⟨ip, ban.bannedUntil, ban.attemptCount + 1, now⟩) := by
  have hmax := policy.maxAttempts.toNat_lt
  have hcount := as_u32_of_lt (n := ban.attemptCount + 1) (by omega) (by omega)
  have hnot : ¬ policy.maxAttempts.toNat ≤ asU32 (ban.attemptCount + 1) := by
    omega
  rw [record_eq, hfind, nextBan, if_neg hover, as_i64_of_lt (by omega) (by omega), if_neg hnot]
  rfl

/-- The failure that reaches the threshold starts a lockout, if its end is an instant. -/
theorem record_reached {ban : IpBan} (hfind : find bans ip = some ban)
    (hover : ¬ now < ban.bannedUntil) (hpos : 0 ≤ ban.attemptCount)
    (hreached : ban.attemptCount + 1 = policy.maxAttempts.toNat) :
    policy.record ip bans now =
      if (now.shift (lockoutDelta policy.lockout)).InRange then
        .ok (bans.upsert ⟨ip, now.shift (lockoutDelta policy.lockout), 0, now⟩)
      else .error .dateOverflow := by
  have hmax := policy.maxAttempts.toNat_lt
  have hcount := as_u32_of_lt (n := ban.attemptCount + 1) (by omega) (by omega)
  have hle : policy.maxAttempts.toNat ≤ asU32 (ban.attemptCount + 1) := by
    omega
  rw [record_eq, hfind, nextBan, if_neg hover, as_i64_of_lt (by omega) (by omega), if_pos hle,
    DateTime.add]
  split <;> rfl

/-- A round of failures that stays below the threshold is counted, each failure once. -/
theorem record_all_counted {rest : List DateTime} {ban : IpBan}
    (hfind : find bans ip = some ban) (hover : ∀ now ∈ rest, ¬ now < ban.bannedUntil)
    (hpos : 0 ≤ ban.attemptCount)
    (hbelow : ban.attemptCount + rest.length < policy.maxAttempts.toNat) :
    ∃ bans' ban', policy.recordAll ip bans rest = .ok bans' ∧ find bans' ip = some ban' ∧
      ban'.bannedUntil = ban.bannedUntil ∧
      ban'.attemptCount = ban.attemptCount + rest.length := by
  induction rest generalizing bans ban with
  | nil => exact ⟨bans, ban, rfl, hfind, rfl, by simp⟩
  | cons now rest ih =>
      rw [List.length_cons] at hbelow ⊢
      have hstep : policy.record ip bans now =
          .ok (bans.upsert ⟨ip, ban.bannedUntil, ban.attemptCount + 1, now⟩) :=
        record_counted hfind (hover now List.mem_cons_self) hpos (by omega)
      let next : IpBan := ⟨ip, ban.bannedUntil, ban.attemptCount + 1, now⟩
      have hnext : find (bans.upsert next) ip = some next := by
        simp [find, next]
      obtain ⟨bans', ban', hall, hfind', huntil, hcount⟩ := ih hnext
        (fun later hlater => hover later (List.mem_cons_of_mem _ hlater))
        (show 0 ≤ ban.attemptCount + 1 by omega)
        (show ban.attemptCount + 1 + rest.length < policy.maxAttempts.toNat by omega)
      refine ⟨bans', ban', ?_, hfind', huntil, ?_⟩
      · rw [recordAll, hstep]
        exact hall
      · rw [hcount]
        show ban.attemptCount + 1 + rest.length = _
        omega

/-- The failures lock the IP at the last of them, if and only if they are as many as the policy
allows. -/
def LocksOnTime (policy : LockoutPolicy) (ip : String) (bans : Bans) (earlier : List DateTime)
    (last : DateTime) : Prop :=
  ∃ bans', policy.recordAll ip bans (earlier ++ [last]) = .ok bans' ∧
    (locked bans' ip last = true ↔ earlier.length + 1 = policy.maxAttempts.toNat)

/-- The first failure of an IP does not lock it. -/
theorem locks_on_time_first (hnew : find bans ip = none) (last : DateTime) :
    policy.LocksOnTime ip bans [] last ↔ policy.maxAttempts.toNat ≠ 1 := by
  have hstep : policy.recordAll ip bans [last] = .ok (bans.upsert ⟨ip, last, 1, last⟩) := by
    rw [recordAll, record_eq, hnew]
    rfl
  have hfree : locked (bans.upsert ⟨ip, last, 1, last⟩) ip last = false := by
    simp [locked, find, IpBan.isActive, DateTime.lt_iff]
  have hlocks : policy.LocksOnTime ip bans [] last ↔ ¬ 1 = policy.maxAttempts.toNat := by
    simp [LocksOnTime, hstep, hfree]
  rw [hlocks]
  exact not_congr eq_comm

/-- The last of several failures locks the IP when the threshold is reached, unless the lockout
would end at no instant. -/
theorem locks_on_time_later (hnew : find bans ip = none) {first last : DateTime}
    {middle : List DateTime} (hsorted : (first :: middle ++ [last]).Pairwise (· ≤ ·))
    (hlen : middle.length + 2 ≤ policy.maxAttempts.toNat)
    (hlockout : 0 < (lockoutDelta policy.lockout).nanos) :
    policy.LocksOnTime ip bans (first :: middle) last ↔
      (middle.length + 2 = policy.maxAttempts.toNat →
        (last.shift (lockoutDelta policy.lockout)).InRange) := by
  let start : IpBan := ⟨ip, first, 1, first⟩
  have hstart : find (bans.upsert start) ip = some start := by
    simp [find, start]
  have hafter : ∀ now ∈ middle ++ [last], ¬ now < first := by
    rw [List.cons_append, List.pairwise_cons] at hsorted
    exact fun now hnow => DateTime.not_lt.mpr (hsorted.1 now hnow)
  have hbefore : ∀ now ∈ middle, ¬ now < start.bannedUntil :=
    fun now hnow => hafter now (by simp [hnow])
  have hbelow : start.attemptCount + middle.length < policy.maxAttempts.toNat := by
    show (1 : Int) + middle.length < policy.maxAttempts.toNat
    omega
  obtain ⟨bans', ban', hmiddle, hfind, huntil, hcount⟩ :=
    record_all_counted hstart hbefore (show (0 : Int) ≤ 1 by omega) hbelow
  replace hcount : ban'.attemptCount = 1 + middle.length := hcount
  have hover : ¬ last < ban'.bannedUntil := by
    rw [huntil]
    exact hafter last (by simp)
  have hall : policy.recordAll ip bans (first :: middle ++ [last]) =
      policy.record ip bans' last := by
    have hfirst : policy.record ip bans first = .ok (bans.upsert start) := by
      rw [record_eq, hnew]
      rfl
    rw [List.cons_append, recordAll, hfirst]
    show policy.recordAll ip (bans.upsert start) (middle ++ [last]) = _
    rw [record_all_append, hmiddle]
    show policy.recordAll ip bans' [last] = _
    rw [recordAll]
    cases policy.record ip bans' last <;> rfl
  unfold LocksOnTime
  rw [hall, List.length_cons]
  rcases Nat.lt_or_eq_of_le hlen with hbelow | hreached
  · rw [record_counted hfind hover (by omega) (by omega)]
    have hfree : locked (bans'.upsert ⟨ip, ban'.bannedUntil, ban'.attemptCount + 1, last⟩) ip
        last = false := by
      simp [locked, find, IpBan.isActive, hover]
    refine iff_of_true ⟨_, rfl, ?_⟩ fun h => absurd h hbelow.ne
    rw [hfree]
    exact iff_of_false Bool.false_ne_true hbelow.ne
  · rw [record_reached hfind hover (by omega) (by omega)]
    have hlocked : locked (bans'.upsert ⟨ip, last.shift (lockoutDelta policy.lockout), 0, last⟩)
        ip last = true := by
      simpa [locked, find, IpBan.isActive, DateTime.lt_iff, DateTime.shift] using hlockout
    split
    · rename_i hrange
      exact iff_of_true ⟨_, rfl, iff_of_true hlocked hreached⟩ fun _ => hrange
    · rename_i hrange
      refine iff_of_false ?_ fun h => hrange (h hreached)
      rintro ⟨_, hok, -⟩
      cases hok

end LockoutPolicy

/-- A lockout of a whole number of seconds, of at most a day, lasts that long. -/
theorem lockout_delta_from_secs {secs : UInt64} (h : secs.toNat ≤ 86400) :
    (lockoutDelta (.fromSecs secs)).nanos = secs.toNat * nanosPerSec := by
  have hnanos : (Duration.fromSecs secs).nanos = secs.toNat * nanosPerSec := by
    simp [Duration.nanos, Duration.fromSecs]
  have hrange : -TimeDelta.maxNanos ≤ (Duration.fromSecs secs).nanos ∧
      (Duration.fromSecs secs).nanos ≤ TimeDelta.maxNanos := by
    rw [hnanos]
    unfold TimeDelta.maxNanos nanosPerSec
    omega
  rw [lockoutDelta, TimeDelta.fromStd, TimeDelta.ofNanos, dif_pos hrange]
  exact hnanos

/-- Under every policy that the settings page accepts, a first round of failures locks the IP
exactly when there are as many of them as the policy allows, unless the policy allows a single
one or the lockout would end at no instant. -/
theorem locks_on_time_iff (f : SettingsForm) (hform : f.validate = .ok ()) (bans : Bans)
    (ip : String) (hnew : find bans ip = none) (earlier : List DateTime) (last : DateTime)
    (hsorted : (earlier ++ [last]).Pairwise (· ≤ ·))
    (hlen : earlier.length + 1 ≤ f.loginMaxAttempts.toNat) :
    f.lockoutPolicy.LocksOnTime ip bans earlier last ↔
      f.loginMaxAttempts.toNat ≠ 1 ∧
        (earlier.length + 1 = f.loginMaxAttempts.toNat →
          (last.shift (lockoutDelta f.lockoutPolicy.lockout)).InRange) := by
  obtain ⟨-, hsecs, hday⟩ := f.lockout_bounds hform
  have hlockout : 0 < (lockoutDelta f.lockoutPolicy.lockout).nanos := by
    rw [SettingsForm.lockoutPolicy, lockout_delta_from_secs hday, nanosPerSec]
    omega
  cases earlier with
  | nil =>
      rw [LockoutPolicy.locks_on_time_first hnew]
      refine ⟨fun hne => ⟨hne, fun heq => absurd heq.symm hne⟩, And.left⟩
  | cons first middle =>
      rw [List.length_cons] at hlen ⊢
      have hne : f.loginMaxAttempts.toNat ≠ 1 := by
        omega
      rw [LockoutPolicy.locks_on_time_later hnew hsorted hlen hlockout]
      exact (and_iff_right hne).symm

/-- The settings page with a policy, and otherwise as it comes. -/
def SettingsForm.withPolicy (attempts : UInt32) (secs : UInt64) : SettingsForm where
  localeDefault := "en"
  totpIssuer := "Wireforge"
  loginMaxAttempts := attempts
  loginLockoutSecs := secs
  sessionTimeoutHours := 12
  endpoint := ""
  trafficPollerIntervalSecs := 30
  trafficEnabled := true
  backupRetentionDays := 30
  logLevel := "info"

/-- A policy of a single attempt is accepted, but the first failure does not lock the IP. -/
theorem single_attempt_free :
    (SettingsForm.withPolicy 1 60).validate = .ok () ∧
      ¬ (SettingsForm.withPolicy 1 60).lockoutPolicy.LocksOnTime "192.0.2.7" .empty [] ⟨0⟩ := by
  refine ⟨by decide, ?_⟩
  rw [LockoutPolicy.locks_on_time_first rfl]
  exact not_not.mpr rfl

theorem locks_on_time_iff_three :
    (SettingsForm.withPolicy 3 60).lockoutPolicy.LocksOnTime "192.0.2.7" .empty [⟨0⟩, ⟨0⟩] ⟨5⟩ :=
  (locks_on_time_iff (.withPolicy 3 60) (by decide) .empty "192.0.2.7" rfl [⟨0⟩, ⟨0⟩] ⟨5⟩
    (by simp [DateTime.le_iff]) (by decide)).mpr (by decide)

/-! ## After a lockout -/

namespace LockoutPolicy

/-- The table after a failure. A transaction that does not return is not committed. -/
def fail (policy : LockoutPolicy) (ip : String) (bans : Bans) (now : DateTime) : Bans :=
  (policy.record ip bans now).toOption.getD bans

/-- The failure locks an IP that was free, and this is the instant at which the lockout ends. -/
def locksUntil (policy : LockoutPolicy) (ip : String) (bans : Bans) (now : DateTime) :
    Option DateTime :=
  if locked bans ip now then none
  else
    ((find (policy.fail ip bans now) ip).filter (·.isActive now)).map IpBan.bannedUntil

/-- Whenever a failure locks the IP and a later one locks it again, the policy's number of failures
has been recorded since the first lockout ended. -/
def CleanSlate (policy : LockoutPolicy) (ip : String) (bans : Bans) (times : List DateTime) :
    Prop :=
  ∀ first start middle next rest, times = first ++ start :: (middle ++ next :: rest) →
    ∀ ending,
      policy.locksUntil ip (Runs.after (policy.fail ip) bans first) start = some ending →
      (policy.locksUntil ip
        (Runs.after (policy.fail ip) bans (first ++ start :: middle)) next).isSome →
      policy.maxAttempts.toNat ≤ (middle ++ [next]).countP fun now => ending ≤ now

/-- After a lockout that ends at `ending`, the failures seen since then cover the counter. -/
def Covered (policy : LockoutPolicy) (ip : String) (ending : DateTime) (seen : List DateTime)
    (bans : Bans) : Prop :=
  ∃ ban, find bans ip = some ban ∧ ending ≤ ban.bannedUntil ∧ 0 ≤ ban.attemptCount ∧
    ban.attemptCount < policy.maxAttempts.toNat ∧
    ban.attemptCount ≤ seen.countP fun now => ending ≤ now

variable {policy : LockoutPolicy} {ip : String} {bans : Bans} {now : DateTime}

/-- The row of the IP after a failure, by the arm it takes. -/
theorem find_fail (policy : LockoutPolicy) (ip : String) (bans : Bans) (now : DateTime) :
    ∃ result, Recorded bans ip policy.maxAttempts policy.lockout now result ∧
      find (policy.fail ip bans now) ip = (result.toOption <|> find bans ip) := by
  have hspec : Recorded bans ip policy.maxAttempts policy.lockout now _ := next_ban_spec
  refine ⟨_, hspec, ?_⟩
  rw [fail, record_eq]
  generalize nextBan (find bans ip) ip policy.maxAttempts policy.lockout now = result at hspec ⊢
  cases hspec with
  | stuck ban hfind hover hreached hrange => rfl
  | first | active | counted | locked =>
      simp [Except.map, Except.toOption, find]

/-- A failure that locks a free IP reaches the threshold and leaves the counter at zero. -/
theorem locks_until_some {ending : DateTime} (h : policy.locksUntil ip bans now = some ending) :
    find (policy.fail ip bans now) ip = some ⟨ip, ending, 0, now⟩ ∧
      ∃ ban, find bans ip = some ban ∧ ban.isActive now = false ∧
        policy.maxAttempts.toNat ≤ asU32 (asI64 (ban.attemptCount + 1)) := by
  obtain ⟨result, hrecorded, hfail⟩ := find_fail policy ip bans now
  unfold locksUntil at h
  split at h
  · cases h
  rename_i hfree
  obtain ⟨row, hrow, rfl⟩ := Option.map_eq_some_iff.mp h
  obtain ⟨hrow, hactive⟩ := Option.filter_eq_some_iff.mp hrow
  rw [hfail] at hrow ⊢
  cases hrecorded with
  | first hnone =>
      cases hrow
      simp [IpBan.isActive, DateTime.lt_iff] at hactive
  | active ban hfind hbanned =>
      simp [locked, hfind, hbanned] at hfree
  | counted ban hfind hover hbelow =>
      cases hrow
      exact absurd (hactive.symm.trans hover) Bool.noConfusion
  | locked ban hfind hover hreached hrange =>
      cases hrow
      exact ⟨rfl, ban, hfind, hover, hreached⟩
  | stuck ban hfind hover hreached hrange =>
      cases hfind.symm.trans hrow
      exact absurd (hactive.symm.trans hover) Bool.noConfusion

/-- A failure of a free IP after the lockout is one more failure seen since its end. -/
theorem covered_step {ending : DateTime} {seen : List DateTime}
    (h : policy.Covered ip ending seen bans) (hfree : locked bans ip now = false) :
    policy.Covered ip ending (seen ++ [now]) (policy.fail ip bans now) := by
  have hbound := policy.maxAttempts.toNat_lt
  obtain ⟨old, hold, huntil, hpos, hlt, hseen⟩ := h
  have hover : ¬ now < old.bannedUntil := by
    simpa [locked, hold, IpBan.isActive] using hfree
  have hsince : (seen ++ [now]).countP (fun now => ending ≤ now) =
      seen.countP (fun now => ending ≤ now) + 1 := by
    have hnow : ending ≤ now := Int.le_trans huntil (DateTime.not_lt.mp hover)
    simp [hnow]
  obtain ⟨result, hrecorded, hfail⟩ := find_fail policy ip bans now
  unfold Covered
  rw [hfail, hsince]
  cases hrecorded with
  | first hnone => rw [hold] at hnone; cases hnone
  | active ban hfind hactive =>
      simp [locked, hfind, hactive] at hfree
  | counted ban hfind hfree' hbelow =>
      obtain rfl : old = ban := Option.some.inj (hold.symm.trans hfind)
      have hsame := as_i64_of_lt (n := old.attemptCount + 1) (by omega) (by omega)
      have hcount := as_u32_of_lt (n := old.attemptCount + 1) (by omega) (by omega)
      rw [hsame] at hbelow ⊢
      refine ⟨_, rfl, huntil, ?_, ?_, ?_⟩
      · show 0 ≤ old.attemptCount + 1
        omega
      · show old.attemptCount + 1 < policy.maxAttempts.toNat
        omega
      · show old.attemptCount + 1 ≤ (seen.countP _ + 1 : Nat)
        omega
  | locked ban hfind hfree' hreached hrange =>
      refine ⟨_, rfl, ?_, Int.le_refl _, ?_, ?_⟩
      · have hlater := lockout_delta_nonneg policy.lockout
        rw [DateTime.le_iff] at huntil ⊢
        rw [DateTime.lt_iff] at hover
        show ending.nanos ≤ now.nanos + (lockoutDelta policy.lockout).nanos
        omega
      · show (0 : Int) < policy.maxAttempts.toNat
        omega
      · show (0 : Int) ≤ (seen.countP _ + 1 : Nat)
        omega
  | stuck ban hfind hfree' hreached hrange =>
      refine ⟨old, by simp [Except.toOption, hold], huntil, hpos, hlt, ?_⟩
      omega

/-- Failures of a free IP after the lockout are all seen since its end. -/
theorem covered_run {ending : DateTime} {seen times : List DateTime}
    (h : policy.Covered ip ending seen bans)
    (hfree : Runs.EachStep (policy.fail ip) (fun bans now => locked bans ip now = false) bans
      times) :
    policy.Covered ip ending (seen ++ times) (Runs.after (policy.fail ip) bans times) := by
  induction times generalizing bans seen with
  | nil => simpa using h
  | cons now rest ih =>
      have hrest := ih (covered_step h hfree.1) hfree.2
      rwa [List.append_assoc] at hrest

/-- The failure that locks the IP again is preceded by enough failures since the lockout ended. -/
theorem covered_locks {ending : DateTime} {seen : List DateTime}
    (h : policy.Covered ip ending seen bans)
    (hlocks : (policy.locksUntil ip bans now).isSome) :
    policy.maxAttempts.toNat ≤ (seen ++ [now]).countP fun now => ending ≤ now := by
  have hbound := policy.maxAttempts.toNat_lt
  obtain ⟨old, hold, huntil, hpos, hlt, hseen⟩ := h
  obtain ⟨next, hnext⟩ := Option.isSome_iff_exists.mp hlocks
  obtain ⟨-, ban, hfind, hover, hreached⟩ := locks_until_some hnext
  obtain rfl : old = ban := Option.some.inj (hold.symm.trans hfind)
  have hsame := as_i64_of_lt (n := old.attemptCount + 1) (by omega) (by omega)
  have hcount := as_u32_of_lt (n := old.attemptCount + 1) (by omega) (by omega)
  have hnow : ending ≤ now :=
    Int.le_trans huntil (DateTime.not_lt.mp (of_decide_eq_false hover))
  have hsince : (seen ++ [now]).countP (fun now => ending ≤ now) =
      seen.countP (fun now => ending ≤ now) + 1 := by
    simp [hnow]
  rw [hsame] at hreached
  omega

/-- If no failure is recorded while the IP is locked out, every lockout ends with a clean slate. -/
theorem clean_slate (policy : LockoutPolicy) (hmax : 2 ≤ policy.maxAttempts.toNat) (ip : String)
    (bans : Bans) (times : List DateTime)
    (hfree : Runs.EachStep (policy.fail ip) (fun bans now => locked bans ip now = false) bans
      times) :
    policy.CleanSlate ip bans times := by
  rintro first start middle next rest rfl ending hstart hnext
  obtain ⟨-, -, hmiddle⟩ := Runs.each_step_append.mp hfree
  rw [Runs.after_append, Runs.after_cons] at hnext
  have hcovered : policy.Covered ip ending []
      (policy.fail ip (Runs.after (policy.fail ip) bans first) start) := by
    refine ⟨_, (locks_until_some hstart).1, Int.le_refl _, Int.le_refl _, ?_, by simp⟩
    show (0 : Int) < policy.maxAttempts.toNat
    omega
  exact covered_locks (covered_run hcovered (Runs.each_step_append.mp hmiddle).1) hnext

/-- Two attempts and a minute. -/
def strict : LockoutPolicy := ⟨2, .fromSecs 60⟩

/-- Seconds after the epoch. -/
def atSecs (n : Int) : DateTime := ⟨n * nanosPerSec⟩

/-- Two failures lock the IP for a minute, a third arrives ten seconds later, and the first failure
after the lockout locks the IP again. -/
theorem lockout_shortened :
    [atSecs 0, atSecs 0, atSecs 10, atSecs 70].Pairwise (· ≤ ·) ∧
      ¬ strict.CleanSlate "192.0.2.7" .empty [atSecs 0, atSecs 0, atSecs 10, atSecs 70] := by
  refine ⟨by decide, fun h => ?_⟩
  have hslate := h [atSecs 0] (atSecs 0) [atSecs 10] (atSecs 70) [] rfl (atSecs 60)
    (by decide) (by decide)
  exact absurd hslate (by decide)

theorem clean_slate_strict :
    strict.CleanSlate "192.0.2.7" .empty [atSecs 0, atSecs 0, atSecs 70, atSecs 80] :=
  clean_slate strict (by decide) "192.0.2.7" .empty _
    ⟨by decide, by decide, by decide, by decide, trivial⟩

end LockoutPolicy

end Wireforge
