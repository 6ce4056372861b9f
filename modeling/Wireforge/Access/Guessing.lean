import Wireforge.Access.SecondFactor

/-!
# Guesses

An IP sends passwords and codes, one request after the other, over any sessions. The documentation
promises that `login_max_attempts` consecutive failures lock the IP out. The login consults the
lockout, counts wrong passwords, and forgets them at a right one; the second factor does none of
this. `guesses_bounded` shows that the promise is kept while no failure is uncounted or forgotten,
and `codes_unbounded` that wrong codes are never stopped.
-/

namespace Wireforge

open Effect Routes.Auth SqliteBanRepository

/-- A password or a code that is sent. -/
inductive Guess where
  | password (session : SessionId) (form : LoginForm)
  | code (session : SessionId) (form : TotpForm)

namespace Guess

variable (crates : WebCrates) (ip : String) (outage : Outage)

/-- The handler of a guess. -/
def submit : Guess → Web Response
  | password session form => loginSubmit crates session ip form
  | code session form => totpSubmit crates session ip form

/-- The part of `totpSubmit` that evaluates the code of the pending user. -/
def evaluateCode (pending : PendingUser) (form : TotpForm) : Web Bool := do
  let user ← pendingRow crates pending
  let secret ← storedSecret crates user
  let s ← Web.settingsSnapshot
  Web.verifyCode crates secret (Text.trim form.code) s.totpIssuer user.username

/-- Whether a guess is right, provided that it is evaluated. -/
def verdict (s : Site) : Guess → Option Bool
  | password _ form =>
      match (eval (serve outage) (lockedOut ip) s).1 with
      | .ok false =>
          match (eval (serve outage)
            (AuthService.authenticatePassword crates form.username form.password) s).1 with
          | .ok _ => some true
          | .error .invalidCredentials => some false
          | .error _ => none
      | _ => none
  | code session form =>
      match (eval (serve outage) (Web.sessionGet session .pendingUser) s).1 with
      | .ok (some pending) => (eval (serve outage) (evaluateCode crates pending form) s).1.toOption
      | _ => none

end Guess

/-- The response to a completed login. -/
def completes : Except (Stop WebError) Response → Bool
  | .ok (.redirect path) => path = "/"
  | _ => false

/-! ## The promise -/

/-- The consecutive failures since the last completed login or lockout, and the end of the lockout
that lasts. -/
structure Streak where
  failures : Nat
  lockedUntil : Option DateTime
  deriving DecidableEq

namespace Streak

/-- No failures and no lockout. -/
def fresh : Streak := ⟨0, none⟩

/-- A lockout is over when its end has come. -/
def tick (r : Streak) (now : DateTime) : Streak :=
  { r with lockedUntil := r.lockedUntil.filter (now < ·) }

/-- A right guess ends the streak if it completes the login. A wrong one is a failure, and the last
one that is allowed starts a lockout. -/
def note (r : Streak) (limit : Nat) (ending : DateTime) (completed : Bool) : Option Bool → Streak
  | none => r
  | some true => if completed then { r with failures := 0 } else r
  | some false =>
      if r.failures + 1 = limit then ⟨0, some ending⟩ else { r with failures := r.failures + 1 }

end Streak

/-- The end of a lockout that starts now. -/
def RuntimeSettings.lockoutEnd (live : RuntimeSettings) (now : DateTime) : DateTime :=
  ⟨now.nanos + live.loginLockoutSecs.toNat * nanosPerSec⟩

/-- A guess, with the calls that fail meanwhile, or anything else: other users, other sessions,
another time, but the same bans and the same policy. -/
inductive GuessAction where
  | guess (guess : Guess) (outage : Outage)
  | elsewhere (site : Site)

/-- The server and the streak of the IP. -/
structure Guessing where
  site : Site
  streak : Streak

namespace Guessing

variable (crates : WebCrates) (ip : String)

/-- The server after something else has happened. -/
def moved (s site : Site) : Site :=
  { site with
    bans := s.bans
    live := { site.live with
      loginMaxAttempts := s.live.loginMaxAttempts
      loginLockoutSecs := s.live.loginLockoutSecs } }

/-- One action. -/
def step (w : Guessing) : GuessAction → Guessing
  | .guess guess outage =>
      let now := w.site.host.env.now
      let ran := eval (serve outage) (guess.submit crates ip) w.site
      { site := ran.2
        streak := (w.streak.tick now).note w.site.live.loginMaxAttempts.toNat
          (w.site.live.lockoutEnd now) (completes ran.1) (guess.verdict crates ip outage w.site) }
  | .elsewhere site => { w with site := moved w.site site }

/-- No guess is evaluated while a lockout lasts. -/
def Bounded (w : Guessing) : GuessAction → Prop
  | .guess guess outage =>
      (guess.verdict crates ip outage w.site).isSome →
        (w.streak.tick w.site.host.env.now).lockedUntil = none
  | .elsewhere _ => True

end Guessing

/-! ## What the login does to the bans -/

/-- What a lockout depends on. -/
def Site.lockout (s : Site) : Bans × RuntimeSettings × Env :=
  (s.bans, s.live, s.host.env)

/-- The bans after a wrong password. -/
def failed (outage : Outage) (ip : String) (s : Site) : Bans :=
  match outage.error
    (.recordFailure ip s.live.loginMaxAttempts (.fromSecs s.live.loginLockoutSecs)) with
  | some _ => s.bans
  | none =>
      LockoutPolicy.fail ⟨s.live.loginMaxAttempts, .fromSecs s.live.loginLockoutSecs⟩ ip s.bans
        s.host.env.now

/-- The bans after a right password. -/
def forgiven (outage : Outage) (ip : String) (s : Site) : Bans :=
  match outage.error (.clearBan ip) with
  | some _ => s.bans
  | none => clear s.bans ip

/-- A user with a right password is logged in: there is no second factor, and the login can be
stored. -/
def LogsIn (outage : Outage) (s : Site) (session : SessionId) (user : User) : Prop :=
  user.totpEnabled = false ∧ outage.error (.touchLastLogin user.id s.host.env.now) = none ∧
    outage.error (.insertSession session .authUser (authUser user)) = none

instance (outage : Outage) (s : Site) (session : SessionId) (user : User) :
    Decidable (LogsIn outage s session user) :=
  inferInstanceAs (Decidable (_ ∧ _ ∧ _))

variable {crates : WebCrates} {ip : String} {outage : Outage} {s : Site} {session : SessionId}

/-- How a login changes what a lockout depends on, by the verdict on the password. -/
inductive PasswordEnd (outage : Outage) (ip : String) (s : Site) (session : SessionId)
    (form : LoginForm) (result : Except (Stop WebError) Response) (s' : Site) :
    Option Bool → Prop where
  | unevaluated (h : s'.lockout = s.lockout) :
      PasswordEnd outage ip s session form result s' none
  | wrong (hfree : locked s.bans ip s.host.env.now = false)
      (h : s'.lockout = (failed outage ip s, s.live, s.host.env)) :
      PasswordEnd outage ip s session form result s' (some false)
  | right (user : User) (hfree : locked s.bans ip s.host.env.now = false)
      (huser : s.accounts.findUserByName form.username = some user)
      (hcompletes : completes result = true ↔ LogsIn outage s session user)
      (h : s'.lockout = (forgiven outage ip s, s.live, s.host.env)) :
      PasswordEnd outage ip s session form result s' (some true)

/-- An audit event leaves the lockout alone. -/
theorem audit_lockout (actor : Option (Id UserMarker)) (actorIp : Option String)
    (action : AuditAction) (resourceType resourceId : Option String)
    (metadata : Option Json.Object) {ε : Type} :
    Issues (fun c => ∀ s, (serve outage c s).2.lockout = s.lockout)
      (Web.auditRecord (ε := ε) actor actorIp action resourceType resourceId metadata).run :=
  Web.audit_record_issues (fun _ => rfl)
    (fun _ => Outage.write_frame Site.lockout fun _ _ _ => rfl) _ _ _ _ _ _

/-- The last login of a user leaves the lockout alone. -/
theorem touch_lockout (id : Id UserMarker) :
    Issues (fun c => ∀ s, (serve outage c s).2.lockout = s.lockout)
      (SqliteUserRepository.touchLastLogin id).run :=
  SqliteUserRepository.touch_last_login_issues (fun _ => rfl)
    (fun _ _ => Outage.write_frame Site.lockout fun _ _ _ => rfl) _

/-- A failure is recorded as far as the call allows. -/
theorem record_failure_lockout (s : Site) :
    (serve outage (.recordFailure ip s.live.loginMaxAttempts
      (.fromSecs s.live.loginLockoutSecs)) s).2.lockout =
      (failed outage ip s, s.live, s.host.env) := by
  simp only [serve, failed]
  cases outage.error (.recordFailure ip s.live.loginMaxAttempts
    (.fromSecs s.live.loginLockoutSecs)) with
  | some text => rfl
  | none =>
      simp only [LockoutPolicy.fail, LockoutPolicy.record]
      cases recordFailure s.bans ip s.live.loginMaxAttempts (.fromSecs s.live.loginLockoutSecs)
        s.host.env.now <;> rfl

/-- A wrong password is recorded. -/
theorem password_refused_lockout (form : LoginForm) :
    Triple (serve outage) (· = s) (passwordRefused ip form) fun _ s' =>
      s'.lockout = (failed outage ip s, s.live, s.host.env) := by
  refine Triple.bind_read (Issues.run_always (Issues.request (serve_reads outage trivial)))
    (fun e he => by cases he) fun settings hsettings => ?_
  obtain rfl : s.live = settings := Except.ok.inj hsettings
  have hrecord : Triple (serve outage) (· = s) (recordRow (ε := WebError) ip
      s.live.loginMaxAttempts (.fromSecs s.live.loginLockoutSecs)) fun _ s' =>
        s'.lockout = (failed outage ip s, s.live, s.host.env) := by
    rintro _ rfl
    rw [recordRow, eval_bind, eval_or_else, exec_request, ← record_failure_lockout]
    rcases serve outage (.recordFailure ip _ _) _ with ⟨_ | _, _⟩ <;> rfl
  refine hrecord.bind (fun _ => ?_) fun _ _ h => h
  exact Triple.bind_frame (audit_lockout _ _ _ _ _ _) (fun _ _ h => h) fun _ _ h => h

/-- A call that can only fail as planned returns exactly when it is not planned to fail. -/
def AsPlanned (outage : Outage) (c : SiteCall) {ε α : Type} : Except ε α → Prop
  | .ok _ => outage.error c = none
  | .error _ => outage.error c ≠ none

/-- The last login of a user is stored as planned. -/
theorem touch_as_planned (user : User) {x : Bans × RuntimeSettings × Env} :
    Triple (serve outage) (Site.lockout · = x)
      (Web.repo (SqliteUserRepository.touchLastLogin user.id)) fun result s' =>
        s'.lockout = x ∧ AsPlanned outage (.touchLastLogin user.id x.2.2.now) result := by
  rintro s rfl
  refine ⟨(Issues.run_or_else (touch_lockout user.id)).frame (fun _ hc => hc) s, ?_⟩
  show AsPlanned outage (.touchLastLogin user.id s.host.env.now)
    (Except.mapError _ (Except.mapError _ (outage.write (.touchLastLogin user.id s.host.env.now)
      (fun accounts => .ok (accounts.touchLastLogin user.id s.host.env.now)) s).1))
  unfold Outage.write Outage.run
  cases herror : outage.error (.touchLastLogin user.id s.host.env.now) with
  | some text =>
      show outage.error _ ≠ none
      rw [herror]
      exact Option.some_ne_none text
  | none => exact herror

/-- A login is stored in the session as planned. -/
theorem store_as_planned (user : AuthUser) {x : Bans × RuntimeSettings × Env} :
    Triple (serve outage) (Site.lockout · = x) (user.store session) fun result s' =>
      s'.lockout = x ∧ AsPlanned outage (.insertSession session .authUser user) result := by
  rintro s rfl
  have hframe : Issues (fun c => ∀ s, (serve outage c s).2.lockout = s.lockout)
      (user.store session).run :=
    Issues.run_or_else (Issues.request (Outage.run_frame Site.lockout fun _ => rfl))
  refine ⟨hframe.frame (fun _ hc => hc) s, ?_⟩
  show AsPlanned outage (.insertSession session .authUser user)
    (Except.mapError _ (outage.session (.insertSession session .authUser user) session
      (·.set .authUser (some user)) s).1)
  unfold Outage.session Outage.run
  cases herror : outage.error (.insertSession session .authUser user) with
  | some text =>
      show outage.error _ ≠ none
      rw [herror]
      exact Option.some_ne_none text
  | none => exact herror

/-- A right password completes the login of a user without a second factor, if it can be stored. -/
theorem password_accepted_completes (user : User) {x : Bans × RuntimeSettings × Env}
    (hnow : x.2.2 = s.host.env) :
    Triple (serve outage) (Site.lockout · = x)
      (if user.totpEnabled then do
        Web.sessionInsert session .pendingUser ⟨user.id.display, user.username⟩
        return renderTotp none
      else do
        Web.repo (SqliteUserRepository.touchLastLogin user.id)
        (authUser user).store session
        Web.auditRecord (some user.id) (some ip) .userLogin (some "user")
          (some user.id.display) none
        return .redirect "/" : Web Response)
      fun result s' =>
        (completes result = true ↔ LogsIn outage s session user) ∧ s'.lockout = x := by
  unfold LogsIn
  rw [← hnow]
  cases user.totpEnabled with
  | true =>
      have hinsert : Issues (fun c => ∀ s, (serve outage c s).2.lockout = s.lockout)
          (Web.sessionInsert session .pendingUser ⟨user.id.display, user.username⟩).run :=
        Issues.run_ignore (Issues.run_or_else (Issues.request
          (Outage.run_frame Site.lockout fun _ => rfl)))
      exact Triple.bind_frame hinsert (fun _ _ h => ⟨by simp [completes], h⟩)
        fun _ _ h => ⟨by simp [completes, renderTotp], h⟩
  | false =>
      refine (touch_as_planned user).bind (fun _ => ?_) fun _ _ ⟨h, hfails⟩ =>
        ⟨by simp [completes, show outage.error _ ≠ none from hfails], h⟩
      rintro s1 ⟨hs1, htouch⟩
      have htouch : outage.error (.touchLastLogin user.id x.2.2.now) = none := htouch
      rw [htouch]
      suffices hstored : Triple (serve outage) (Site.lockout · = x) _ (fun result s' =>
          (completes result = true ↔ _) ∧ s'.lockout = x) from hstored s1 hs1
      refine (store_as_planned (authUser user)).bind (fun _ => ?_) fun _ _ ⟨h, hfails⟩ =>
        ⟨by simp [completes, show outage.error _ ≠ none from hfails], h⟩
      rintro s2 ⟨hs2, hstore⟩
      have hstore : outage.error (.insertSession session .authUser (authUser user)) = none := hstore
      rw [hstore]
      suffices hlast : Triple (serve outage) (Site.lockout · = x) _ (fun result s' =>
          (completes result = true ↔ _) ∧ s'.lockout = x) from hlast s2 hs2
      exact Triple.bind_ignored
        (Issues.run_bind (site_now_issues fun _ => rfl) fun _ => Issues.run_or_else
          (Issues.request (Outage.write_frame Site.lockout fun _ _ _ => rfl)))
        fun _ h => ⟨by simp [completes], h⟩

/-- A right password is forgiven, and completes the login of a user without a second factor. -/
theorem password_accepted_lockout (user : User) :
    Triple (serve outage) (· = s) (passwordAccepted session ip user) fun result s' =>
      (completes result = true ↔ LogsIn outage s session user) ∧
        s'.lockout = (forgiven outage ip s, s.live, s.host.env) := by
  rintro s rfl
  have hclear : eval (serve outage) (ignore (clearRow ip) : Web Unit) s =
      (.ok (), { s with bans := forgiven outage ip s }) := by
    rw [eval_ignore]
    refine Prod.ext rfl ?_
    show (outage.run (.clearBan ip) (fun s => (.ok (), { s with bans := clear s.bans ip })) s).2
      = _
    unfold Outage.run forgiven
    cases outage.error (.clearBan ip) <;> rfl
  rw [passwordAccepted, eval_bind, hclear]
  exact password_accepted_completes user rfl _ rfl

/-- A login changes what a lockout depends on as `PasswordEnd` says. -/
theorem login_submit_lockout (form : LoginForm) :
    Triple (serve outage) (· = s) (loginSubmit crates session ip form) fun result s' =>
      PasswordEnd outage ip s session form result s'
        ((Guess.password session form).verdict crates ip outage s) := by
  unfold Guess.verdict
  refine Triple.bind_read locked_out_reads (fun e he => ?_) fun lockedNow hlocked => ?_
  · rw [he]
    exact .unevaluated rfl
  have hfree := locked_out_ok hlocked
  rw [hlocked]
  cases lockedNow with
  | true =>
      exact Triple.at_state (Triple.bind_frame (audit_lockout _ _ _ _ _ _)
        (fun _ _ h => .unevaluated h) fun _ _ h => .unevaluated h)
  | false =>
      refine Triple.bind_read (Issues.run_attempt (authenticate_password_reads _ _))
        (fun e he => by rw [eval_attempt] at he; cases he) fun result hresult => ?_
      rw [eval_attempt] at hresult
      obtain rfl := Except.ok.inj hresult
      dsimp only
      have hright : ∀ user, (eval (serve outage) (AuthService.authenticatePassword crates
          form.username form.password) s).1 = .ok user → _ := fun _ => authenticate_password_ok
      generalize (eval (serve outage) (AuthService.authenticatePassword crates form.username
        form.password) s).1 = result at hright ⊢
      cases result with
      | ok user =>
          exact (password_accepted_lockout user).mono fun _ _ h =>
            .right user hfree (hright user rfl).1 h.1 h.2
      | error e =>
          cases e with
          | invalidCredentials =>
              exact (password_refused_lockout form).mono fun _ _ h => .wrong hfree h
          | _ =>
              rintro _ rfl
              exact .unevaluated rfl

/-- A code leaves what a lockout depends on alone. -/
theorem totp_submit_lockout (form : TotpForm) :
    Issues (fun c => ∀ s, (serve outage c s).2.lockout = s.lockout)
      (totpSubmit crates session ip form).run := by
  have hread {c : SiteCall} (h : c.Reads) : ∀ s, (serve outage c s).2.lockout = s.lockout :=
    fun s => congrArg Site.lockout (serve_reads outage h s)
  refine Issues.run_bind (Web.session_get_issues (hread trivial)) fun found => ?_
  cases found with
  | none => exact Issues.run_pure _
  | some pending =>
      refine Issues.run_bind ((pending_row_reads pending).mono fun _ hc s => by rw [hc])
        fun user => ?_
      refine Issues.run_bind ((stored_secret_reads user).mono fun _ hc s => by rw [hc])
        fun secret => ?_
      refine Issues.run_bind (Issues.run_always (Issues.request (hread trivial))) fun settings => ?_
      refine Issues.run_bind (Web.verify_code_issues crates (fun _ => rfl) _ _ _ _) fun right => ?_
      refine Issues.run_ite ?_ (Issues.run_bind (audit_lockout _ _ _ _ _ _) fun _ =>
        Issues.run_pure _)
      refine Issues.run_bind (Issues.run_ignore (Issues.run_or_else (Issues.request
        (Outage.run_frame Site.lockout fun _ => rfl)))) fun _ => ?_
      refine Issues.run_bind (Issues.run_or_else (touch_lockout _)) fun _ => ?_
      refine Issues.run_bind (Issues.run_or_else (Issues.request
        (Outage.run_frame Site.lockout fun _ => rfl))) fun _ => ?_
      exact Issues.run_bind (audit_lockout _ _ _ _ _ _) fun _ => Issues.run_pure _

/-! ## The streak -/

/-- While failures are counted there have been fewer than the policy allows, and the row counts the
same. While a lockout lasts the row ends with it and counts none. -/
inductive StreakStage (limit : Nat) (row : Option IpBan) (now : DateTime) (r : Streak) : Prop
  | counting (hlocked : r.lockedUntil = none) (hbelow : r.failures < limit)
      (hrow : row = none ∧ r.failures = 0 ∨
        ∃ ban, row = some ban ∧ ban.bannedUntil ≤ now ∧ ban.attemptCount = r.failures)
  | locked (ban : IpBan) (hlocked : r.lockedUntil = some ban.bannedUntil)
      (hnone : r.failures = 0) (hrow : row = some ban) (hcount : ban.attemptCount = 0)

namespace StreakStage

variable {limit : Nat} {row : Option IpBan} {now : DateTime} {r : Streak}

/-- Time passes. -/
theorem later {future : DateTime} (h : StreakStage limit row now r) (hlater : now ≤ future) :
    StreakStage limit row future r := by
  cases h with
  | counting hlocked hbelow hrow =>
      refine .counting hlocked hbelow (hrow.imp_right ?_)
      rintro ⟨ban, hban, huntil, hcount⟩
      exact ⟨ban, hban, Int.le_trans huntil hlater, hcount⟩
  | locked ban hlocked hnone hrow hcount => exact .locked ban hlocked hnone hrow hcount

/-- A lockout is forgotten when its end has come. -/
theorem tick (h : StreakStage limit row now r) (hlimit : 0 < limit) :
    StreakStage limit row now (r.tick now) := by
  cases h with
  | counting hlocked hbelow hrow =>
      exact .counting (by simp [Streak.tick, hlocked]) hbelow hrow
  | locked ban hlocked hnone hrow hcount =>
      by_cases hlasts : now < ban.bannedUntil
      · exact .locked ban (by simp [Streak.tick, hlocked, hlasts]) hnone hrow hcount
      · refine .counting (by simp [Streak.tick, hlocked, hlasts]) ?_ (.inr ⟨ban, hrow, ?_, ?_⟩)
        · show r.failures < limit
          omega
        · exact DateTime.not_lt.mp hlasts
        · show ban.attemptCount = r.failures
          omega

/-- An IP is let through only while no lockout lasts. -/
theorem unlocked {bans : Bans} {ip : String} (h : StreakStage limit (find bans ip) now r)
    (hfree : Wireforge.locked bans ip now = false) : (r.tick now).lockedUntil = none := by
  cases h with
  | counting hlocked hbelow hrow => simp [Streak.tick, hlocked]
  | locked ban hlocked hnone hrow hcount =>
      have hover : ¬ now < ban.bannedUntil := by
        simpa [Wireforge.locked, hrow, IpBan.isActive] using hfree
      simp [Streak.tick, hlocked, hover]

/-- A wrong password of a free IP is counted, and the last one that is allowed starts a lockout. -/
theorem wrong (policy : LockoutPolicy) {bans : Bans} {ip : String} {ending : DateTime}
    {completed : Bool} (h : StreakStage policy.maxAttempts.toNat (find bans ip) now r)
    (hlimit : 2 ≤ policy.maxAttempts.toNat) (hfree : r.lockedUntil = none)
    (hends : r.failures + 1 = policy.maxAttempts.toNat →
      (now.shift (lockoutDelta policy.lockout)).InRange ∧
        now.shift (lockoutDelta policy.lockout) = ending) :
    StreakStage policy.maxAttempts.toNat (find (policy.fail ip bans now) ip) now
      (r.note policy.maxAttempts.toNat ending completed (some false)) := by
  have hmax := policy.maxAttempts.toNat_lt
  obtain ⟨result, hrecorded, hfail⟩ := LockoutPolicy.find_fail policy ip bans now
  rw [hfail]
  cases h with
  | locked ban hlocked => cases hfree.symm.trans hlocked
  | counting hlocked hbelow hrow =>
      rw [Streak.note]
      rcases hrow with ⟨hrow, hnone⟩ | ⟨old, hrow, huntil, hcount⟩
      · rw [if_neg (by omega)]
        cases hrecorded with
        | first =>
            exact .counting hlocked (show r.failures + 1 < _ by omega)
              (.inr ⟨_, rfl, Int.le_refl _, show (1 : Int) = (r.failures + 1 : Nat) by omega⟩)
        | active old hfind => cases hrow.symm.trans hfind
        | counted old hfind => cases hrow.symm.trans hfind
        | locked old hfind => cases hrow.symm.trans hfind
        | stuck old hfind => cases hrow.symm.trans hfind
      · have hover : old.isActive now = false := decide_eq_false (DateTime.not_lt.mpr huntil)
        have hsame := as_i64_of_lt (n := old.attemptCount + 1) (by omega) (by omega)
        have hbits := as_u32_of_lt (n := old.attemptCount + 1) (by omega) (by omega)
        cases hrecorded with
        | first hnone => cases hnone.symm.trans hrow
        | active old' hfind hactive =>
            obtain rfl : old = old' := Option.some.inj (hrow.symm.trans hfind)
            exact absurd (hactive.symm.trans hover) Bool.noConfusion
        | counted old' hfind hover' hunder =>
            obtain rfl : old = old' := Option.some.inj (hrow.symm.trans hfind)
            rw [hsame] at hunder
            rw [if_neg (by omega)]
            refine .counting hlocked (show r.failures + 1 < _ by omega)
              (.inr ⟨_, rfl, huntil, ?_⟩)
            show asI64 (old.attemptCount + 1) = (r.failures + 1 : Nat)
            omega
        | locked old' hfind hover' hreached hrange =>
            obtain rfl : old = old' := Option.some.inj (hrow.symm.trans hfind)
            rw [hsame] at hreached
            have hlast : r.failures + 1 = policy.maxAttempts.toNat := by
              omega
            rw [if_pos hlast]
            exact .locked _ (by rw [← (hends hlast).2]) rfl rfl rfl
        | stuck old' hfind hover' hreached hrange =>
            obtain rfl : old = old' := Option.some.inj (hrow.symm.trans hfind)
            rw [hsame] at hreached
            exact absurd (hends (by omega)).1 hrange

/-- A right password ends the streak if the failures are forgotten exactly when the login is
completed. -/
theorem right {outage : Outage} {s : Site} {ip : String} {ending : DateTime} {completed : Bool}
    (h : StreakStage limit (find s.bans ip) now r) (hfree : r.lockedUntil = none)
    (hforgives : r.failures = 0 ∨ (outage.error (.clearBan ip) = none ↔ completed = true)) :
    StreakStage limit (find (forgiven outage ip s) ip) now
      (r.note limit ending completed (some true)) := by
  cases h with
  | locked ban hlocked => cases hfree.symm.trans hlocked
  | counting hlocked hbelow hrow =>
      have hnote : r.note limit ending completed (some true) =
          { r with failures := if completed then 0 else r.failures } := by
        cases completed <;> rfl
      rw [hnote]
      refine .counting hlocked (by dsimp only; split <;> omega) ?_
      unfold forgiven
      cases hclear : outage.error (.clearBan ip) with
      | none =>
          have hgone : find (clear s.bans ip) ip = none :=
            Table.find_eq_none.mpr fun ban hban => of_decide_eq_true (Table.mem_filter.mp hban).2
          refine .inl ⟨hgone, ?_⟩
          rcases hforgives with hnone | hiff
          · simp [hnone]
          · simp [hiff.mp hclear]
      | some text =>
          have hsame : (if completed then 0 else r.failures) = r.failures := by
            rcases hforgives with hnone | hiff
            · simp [hnone]
            · rw [if_neg fun h => by cases hclear.symm.trans (hiff.mpr h)]
          dsimp only
          rw [hsame]
          exact hrow

end StreakStage

/-! ## Runs -/

namespace Guessing

variable (crates : WebCrates) (ip : String)

/-- The failure that a wrong password is can be recorded, with a lockout that ends when it should
if it is the last one that is allowed. -/
def Recordable (outage : Outage) (ip : String) (s : Site) (r : Streak) : Prop :=
  outage.error (.recordFailure ip s.live.loginMaxAttempts (.fromSecs s.live.loginLockoutSecs)) =
      none ∧
    (r.failures + 1 = s.live.loginMaxAttempts.toNat →
      (s.host.env.now.shift (lockoutDelta (.fromSecs s.live.loginLockoutSecs))).InRange ∧
      s.host.env.now.shift (lockoutDelta (.fromSecs s.live.loginLockoutSecs)) =
        s.live.lockoutEnd s.host.env.now)

instance (outage : Outage) (ip : String) (s : Site) (r : Streak) :
    Decidable (Recordable outage ip s r) :=
  inferInstanceAs (Decidable (_ ∧ (_ → _ ∧ _)))

/-- The failures before a right password are forgotten exactly when it completes the login. -/
def ForgivesLogins (outage : Outage) (ip : String) (s : Site) (session : SessionId)
    (form : LoginForm) : Prop :=
  ∀ user ∈ s.accounts.findUserByName form.username,
    outage.error (.clearBan ip) = none ↔ LogsIn outage s session user

instance (outage : Outage) (ip : String) (s : Site) (session : SessionId) (form : LoginForm) :
    Decidable (ForgivesLogins outage ip s session form) :=
  inferInstanceAs (Decidable (∀ user ∈ s.accounts.findUserByName form.username, _))

/-- A wrong password is recorded, and a right one after failures forgets them exactly when it
completes the login. -/
def PasswordTallied (outage : Outage) (ip : String) (s : Site) (r : Streak) (session : SessionId)
    (form : LoginForm) : Option Bool → Prop
  | none => True
  | some false => Recordable outage ip s r
  | some true => r.failures = 0 ∨ ForgivesLogins outage ip s session form

instance (outage : Outage) (ip : String) (s : Site) (r : Streak) (session : SessionId)
    (form : LoginForm) :
    (verdict : Option Bool) → Decidable (PasswordTallied outage ip s r session form verdict)
  | none => .isTrue trivial
  | some false => inferInstanceAs (Decidable (Recordable outage ip s r))
  | some true => inferInstanceAs (Decidable (_ ∨ ForgivesLogins outage ip s session form))

/-- The clock does not go backwards, no failure by a password goes uncounted or is forgotten, and a
code is evaluated only if it is right and neither failures are counted nor a lockout lasts. -/
def Tallied (w : Guessing) : GuessAction → Prop
  | .elsewhere site => w.site.host.env.now ≤ site.host.env.now
  | .guess (.password session form) outage =>
      PasswordTallied outage ip w.site (w.streak.tick w.site.host.env.now) session form
        ((Guess.password session form).verdict crates ip outage w.site)
  | .guess (.code session form) outage =>
      ∀ right ∈ (Guess.code session form).verdict crates ip outage w.site,
        right = true ∧ w.streak.tick w.site.host.env.now = .fresh

instance (w : Guessing) : (action : GuessAction) → Decidable (w.Tallied crates ip action)
  | .elsewhere _ => inferInstanceAs (Decidable (_ ≤ _))
  | .guess (.password _ _) _ => inferInstanceAs (Decidable (PasswordTallied _ _ _ _ _ _ _))
  | .guess (.code session form) outage =>
      inferInstanceAs (Decidable (∀ right ∈ (Guess.code session form).verdict crates ip outage
        w.site, right = true ∧ w.streak.tick w.site.host.env.now = .fresh))

instance (w : Guessing) : (action : GuessAction) → Decidable (w.Bounded crates ip action)
  | .guess _ _ => inferInstanceAs (Decidable (_ → _))
  | .elsewhere _ => .isTrue trivial

variable {crates ip}

/-- The streak is that of the table, and several failures are allowed. -/
def Kept (ip : String) (w : Guessing) : Prop :=
  2 ≤ w.site.live.loginMaxAttempts.toNat ∧
    StreakStage w.site.live.loginMaxAttempts.toNat (find w.site.bans ip) w.site.host.env.now
      w.streak

variable {w : Guessing} {action : GuessAction}

/-- A streak is kept when it is that of the bans after a guess. -/
theorem kept_of_lockout {s' : Site} {r : Streak} {bans : Bans}
    (hlimit : 2 ≤ w.site.live.loginMaxAttempts.toNat)
    (hsame : s'.lockout = (bans, w.site.live, w.site.host.env))
    (h : StreakStage w.site.live.loginMaxAttempts.toNat (find bans ip) w.site.host.env.now r) :
    Kept ip ⟨s', r⟩ := by
  obtain ⟨hbans, hlive, henv⟩ : s'.bans = bans ∧ s'.live = w.site.live ∧
      s'.host.env = w.site.host.env := by
    simpa [Site.lockout] using hsame
  unfold Kept
  rw [hbans, hlive, henv]
  exact ⟨hlimit, h⟩

/-- One action keeps the streak that of the table, and no guess is evaluated during a lockout. -/
theorem kept_step (h : w.Kept ip) (hguard : w.Tallied crates ip action) :
    (w.step crates ip action).Kept ip ∧ w.Bounded crates ip action := by
  obtain ⟨hlimit, hstage⟩ := h
  cases action with
  | elsewhere site => exact ⟨⟨hlimit, hstage.later hguard⟩, trivial⟩
  | guess guess outage =>
      have hticked := hstage.tick (by omega)
      cases guess with
      | password session form =>
          have hend : PasswordEnd outage ip w.site session form _ _
            ((Guess.password session form).verdict crates ip outage w.site) :=
            login_submit_lockout form w.site rfl
          show Kept ip ⟨_, (w.streak.tick _).note _ _ _
            ((Guess.password session form).verdict crates ip outage w.site)⟩ ∧
            (((Guess.password session form).verdict crates ip outage w.site).isSome → _)
          replace hguard : PasswordTallied outage ip w.site _ session form
            ((Guess.password session form).verdict crates ip outage w.site) := hguard
          generalize (Guess.password session form).verdict crates ip outage w.site = verdict
            at hend hguard ⊢
          cases hend with
          | unevaluated hsame =>
              exact ⟨kept_of_lockout hlimit hsame hticked, fun h => absurd h Bool.false_ne_true⟩
          | wrong hfree hsame =>
              obtain ⟨hworks, hends⟩ : Recordable outage ip w.site _ := hguard
              have hunlocked := hstage.unlocked hfree
              rw [failed, hworks] at hsame
              refine ⟨kept_of_lockout hlimit hsame ?_, fun _ => hunlocked⟩
              exact StreakStage.wrong
                ⟨w.site.live.loginMaxAttempts, .fromSecs w.site.live.loginLockoutSecs⟩ hticked
                hlimit hunlocked hends
          | right user hfree huser hcompletes hsame =>
              have hunlocked := hstage.unlocked hfree
              have hforgives : _ ∨ (outage.error (.clearBan ip) = none ↔ _) :=
                Or.imp_right (fun h => (h user huser).trans hcompletes.symm) hguard
              refine ⟨kept_of_lockout hlimit hsame ?_, fun _ => hunlocked⟩
              exact hticked.right hunlocked hforgives
      | code session form =>
          have hsame : (eval (serve outage) (totpSubmit crates session ip form) w.site).2.lockout =
              w.site.lockout := (totp_submit_lockout form).frame (fun _ hc => hc) w.site
          show Kept ip ⟨_, (w.streak.tick _).note _ _ _
            ((Guess.code session form).verdict crates ip outage w.site)⟩ ∧
            (((Guess.code session form).verdict crates ip outage w.site).isSome → _)
          replace hguard : ∀ right ∈ (Guess.code session form).verdict crates ip outage w.site, _ :=
            hguard
          generalize (Guess.code session form).verdict crates ip outage w.site = verdict
            at hguard ⊢
          cases verdict with
          | none =>
              exact ⟨kept_of_lockout hlimit hsame hticked, fun h => absurd h Bool.false_ne_true⟩
          | some right =>
              obtain ⟨rfl, hfresh⟩ := hguard right rfl
              rw [hfresh] at hticked ⊢
              refine ⟨kept_of_lockout hlimit hsame ?_, fun _ => rfl⟩
              rw [Streak.note]
              split <;> exact hticked

/-- What every action keeps, every run keeps. -/
theorem bounded_of_kept {run : List GuessAction} (h : w.Kept ip)
    (htallied : Runs.EachStep (step crates ip) (Tallied crates ip) w run) :
    Runs.EachStep (step crates ip) (Bounded crates ip) w run := by
  induction run generalizing w with
  | nil => trivial
  | cons action rest ih =>
      obtain ⟨hnext, hbounded⟩ := kept_step h htallied.1
      exact ⟨hbounded, ih hnext htallied.2⟩

end Guessing

/-- From an IP without a ban, once as many consecutive guesses have failed as the policy allows, no
password and no code is evaluated until the lockout is over, in every run in which no failure goes
uncounted, is forgotten without a completed login, or outlives one. -/
theorem guesses_bounded (crates : WebCrates) (ip : String) (s : Site)
    (hlimit : 2 ≤ s.live.loginMaxAttempts.toNat) (hnew : find s.bans ip = none)
    (run : List GuessAction)
    (htallied : Runs.EachStep (Guessing.step crates ip) (Guessing.Tallied crates ip) ⟨s, .fresh⟩
      run) :
    Runs.EachStep (Guessing.step crates ip) (Guessing.Bounded crates ip) ⟨s, .fresh⟩ run := by
  refine Guessing.bounded_of_kept ⟨hlimit, .counting rfl ?_ (.inl ⟨hnew, rfl⟩)⟩ htallied
  show 0 < s.live.loginMaxAttempts.toNat
  omega

/-- A server whose user has a second factor, and that allows two failures. -/
def guardedSite : Site :=
  { enrolledSite with live := { RuntimeSettings.default with loginMaxAttempts := 2 } }

/-- Two wrong passwords, and another one a second later. -/
def wrongPasswords : List GuessAction :=
  let attempt : GuessAction := .guess (.password ⟨0⟩ ⟨"admin", "letmein"⟩) .none
  [attempt, attempt, .elsewhere { guardedSite with
    host := { guardedSite.host with
      env := { guardedSite.host.env with now := LockoutPolicy.atSecs 1 } } },
    attempt]

/-- The right password, and four wrong codes. -/
def wrongCodes : List GuessAction :=
  .guess (.password ⟨0⟩ ⟨"admin", "correct horse"⟩) .none ::
    List.replicate 4 (.guess (.code ⟨0⟩ ⟨"123456"⟩) .none)

/-- Wrong passwords are bounded. -/
theorem guesses_bounded_passwords :
    Runs.EachStep (Guessing.step .transparent "192.0.2.7")
      (Guessing.Bounded .transparent "192.0.2.7") ⟨guardedSite, .fresh⟩ wrongPasswords :=
  guesses_bounded .transparent "192.0.2.7" guardedSite (by decide) (by decide +kernel) _
    (by decide +kernel)

/-- Wrong codes are evaluated on and on. -/
theorem codes_unbounded :
    2 ≤ guardedSite.live.loginMaxAttempts.toNat ∧ find guardedSite.bans "192.0.2.7" = none ∧
      ¬ Runs.EachStep (Guessing.step .transparent "192.0.2.7")
        (Guessing.Bounded .transparent "192.0.2.7") ⟨guardedSite, .fresh⟩ wrongCodes := by
  decide +kernel

end Wireforge
