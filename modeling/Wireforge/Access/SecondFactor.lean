import Wireforge.Access.Lockout
import Wireforge.Lib.History
import Wireforge.Web.Auth
import Wireforge.Web.ContextSpec

/-!
# The second factor

A run is any sequence of logins, codes, logouts and setups on any number of sessions, with anything
else happening in between. A session that has a user has it for one of three reasons, each since
the last logout of the session: a password of a user without a second factor, a password and later
a code of a user with one, or the setup of the first user: `second_factor_never_skipped`. The
invariant gives a reason for the user of a session and for the user it waits for.
-/

namespace Wireforge

open Effect History Routes.Auth

/-! ## Facts of a state -/

/-- The password of a user is right, and the IP is not locked out. -/
def PasswordVerified (crates : WebCrates) (s : Site) (clientIp : String) (form : LoginForm)
    (user : User) : Prop :=
  locked s.bans clientIp s.host.env.now = false ∧
    s.accounts.findUserByName form.username = some user ∧
    crates.verifyPassword form.password user.passwordHash = .ok true

/-- The code is right for the secret that is stored for a user. -/
def CodeVerified (crates : WebCrates) (s : Site) (form : TotpForm) (user : User) : Prop :=
  s.accounts.users.find user.id = some user ∧
    ∃ blob bytes secret, user.totpSecretEncrypted = some blob ∧
      crates.unseal blob = .ok bytes ∧ String.fromUTF8? bytes = some secret ∧
      0 ≤ s.host.env.now.nanos ∧
      verifyTotp crates.totp secret (Text.trim form.code) s.live.totpIssuer user.username
        (s.host.env.now.nanos / nanosPerSec).toNat = true

/-! ## What the handlers do to the sessions -/

variable {crates : WebCrates} {outage : Outage} {s : Site} {session : SessionId}
  {clientIp : String}

/-- How a login changes the sessions. -/
inductive LoginEnd (crates : WebCrates) (s : Site) (session : SessionId) (clientIp : String)
    (form : LoginForm) (s' : Site) : Prop where
  | refused (h : s'.sessions = s.sessions)
  | waiting (user : User) (hverified : PasswordVerified crates s clientIp form user)
      (htotp : user.totpEnabled = true)
      (h : s'.sessions =
        (s.setSession session .pendingUser (some ⟨user.id.display, user.username⟩)).sessions)
  | loggedIn (user : User) (hverified : PasswordVerified crates s clientIp form user)
      (htotp : user.totpEnabled = false)
      (h : s'.sessions = (s.setSession session .authUser (some (authUser user))).sessions)

/-- How a code changes the sessions. -/
inductive CodeEnd (crates : WebCrates) (s : Site) (session : SessionId) (form : TotpForm)
    (s' : Site) : Prop where
  | refused (h : s'.sessions = s.sessions)
  | dropped (h : s'.sessions = (s.setSession session .pendingUser none).sessions)
  | loggedIn (pending : PendingUser) (user : User)
      (hpending : (s.sessions session).pendingUser = some pending)
      (hid : crates.parseUuid pending.userId = some user.id.value)
      (hverified : CodeVerified crates s form user)
      (h : s'.sessions = ((s.setSession session .pendingUser none).setSession session .authUser
        (some (authUser user))).sessions)

/-- How a setup changes the sessions. -/
inductive SetupEnd (s : Site) (session : SessionId) (s' : Site) : Prop where
  | refused (h : s'.sessions = s.sessions)
  | created (user : User) (hempty : s.accounts.users.rows = [])
      (hcreated : (s'.accounts.users.find user.id).isSome)
      (h : s'.sessions =
        (s.setSession session .authUser (some ⟨user.id, user.username, .admin⟩)).sessions)

/-- The lookup of a ban only reads. -/
theorem locked_out_reads : Issues (fun c => ∀ s, (serve outage c s).2 = s)
    (lockedOut clientIp).run := by
  refine Issues.run_bind (Issues.run_or_else (Issues.run_or_else
    (Issues.request (serve_reads outage trivial)))) fun ban => ?_
  cases ban with
  | none => exact Issues.run_pure _
  | some ban =>
      exact Issues.run_bind (Issues.run_or_else (site_now_issues (serve_reads outage trivial)))
        fun _ => Issues.run_pure _

/-- An IP is let through only if it is not locked out. -/
theorem locked_out_ok {result : Bool}
    (h : (eval (serve outage) (lockedOut clientIp) s).1 = .ok result) :
    locked s.bans clientIp s.host.env.now = result := by
  obtain ⟨found, s', hread, hrest⟩ := eval_bind_ok.mp (Prod.ext h rfl)
  have hban := SqliteBanRepository.find_row_ok (congrArg Prod.fst (Web.eval_repo_ok.mp hread))
  obtain rfl : s = s' := congrArg Prod.snd hread
  cases found with
  | none =>
      have hresult : false = result := Except.ok.inj (congrArg Prod.fst hrest)
      simp [locked, hban, hresult]
  | some ban =>
      have hresult : ban.isActive s.host.env.now = result :=
        Except.ok.inj (congrArg Prod.fst hrest)
      simp [locked, hban, hresult]

/-! ### Login -/

/-- Checking a password only reads. -/
theorem authenticate_password_reads (username password : String) :
    Issues (fun c => ∀ s, (serve outage c s).2 = s)
      (AuthService.authenticatePassword crates username password).run := by
  refine Issues.run_bind (Issues.run_or_else (Issues.request (serve_reads outage trivial)))
    fun found => ?_
  cases found with
  | none => exact Issues.run_throw _
  | some user =>
      dsimp only
      split
      · exact Issues.run_throw _
      · exact Issues.run_throw _
      · exact Issues.run_pure _

/-- A user is authenticated only by the password of its row. -/
theorem authenticate_password_ok {username password : String} {user : User}
    (h : (eval (serve outage) (AuthService.authenticatePassword crates username password) s).1 =
      .ok user) :
    s.accounts.findUserByName username = some user ∧
      crates.verifyPassword password user.passwordHash = .ok true := by
  obtain ⟨found, s', hread, hrest⟩ := eval_bind_ok.mp (Prod.ext h rfl)
  have hfound := SqliteUserRepository.find_by_username_ok (congrArg Prod.fst hread)
  cases found with
  | none => cases congrArg Prod.fst hrest
  | some row =>
      dsimp only at hrest
      cases hpassword : AuthService.verifyPassword crates password row.passwordHash with
      | error e =>
          rw [hpassword] at hrest
          cases congrArg Prod.fst hrest
      | ok right =>
          rw [hpassword] at hrest
          cases right with
          | false => cases congrArg Prod.fst hrest
          | true =>
              obtain rfl : row = user := Except.ok.inj (congrArg Prod.fst hrest)
              exact ⟨hfound, Outcome.map_error_ok.mp hpassword⟩

/-- What follows a right password: the session has the user, or waits for the code. -/
theorem password_accepted_sessions (hwork : outage.KeepsSessions) (user : User) :
    Triple (serve outage) (Site.sessions · = s.sessions)
      (passwordAccepted session clientIp user) fun _ s' =>
        s'.sessions = s.sessions ∨
        (user.totpEnabled = true ∧ s'.sessions =
          (s.setSession session .pendingUser (some ⟨user.id.display, user.username⟩)).sessions) ∨
        (user.totpEnabled = false ∧
          s'.sessions = (s.setSession session .authUser (some (authUser user))).sessions) := by
  have hclear : Issues (fun c => ∀ s, (serve outage c s).2.sessions = s.sessions)
      (ignore (SqliteBanRepository.clearRow clientIp) : Web Unit).run :=
    Issues.run_ignore (Issues.run_or_else (Issues.request (SiteCall.leaves_sessions id)))
  refine Triple.bind_frame hclear (fun _ _ h => .inl h) fun _ => ?_
  split
  next htotp =>
    exact Web.session_insert_bind hwork fun s' hs' => .inr (.inl ⟨htotp, hs'⟩)
  next htotp =>
    have htouch : Issues (fun c => ∀ s, (serve outage c s).2.sessions = s.sessions)
        (Web.repo (SqliteUserRepository.touchLastLogin user.id)).run :=
      Issues.run_or_else (SqliteUserRepository.touch_last_login_issues
        (SiteCall.leaves_sessions id) (fun _ _ => SiteCall.leaves_sessions id) _)
    refine Triple.bind_frame htouch (fun _ _ h => .inl h) fun _ => ?_
    refine AuthUser.store_bind hwork (Web.audit_record_bind fun _ hs' => ?_)
    exact .inr (.inr ⟨eq_false_of_ne_true htotp, hs'⟩)

/-- A login without a right password leaves the sessions alone, whatever fails. -/
theorem login_submit_unless {post : Site → Prop} (form : LoginForm)
    (hrefused : ∀ s', s'.sessions = s.sessions → post s')
    (haccepted : ∀ user, PasswordVerified crates s clientIp form user →
      Triple (serve outage) (· = s) (passwordAccepted session clientIp user) fun _ => post) :
    Triple (serve outage) (· = s) (loginSubmit crates session clientIp form) fun _ => post := by
  refine Triple.bind_read locked_out_reads (fun _ _ => hrefused s rfl) fun lockedNow hlocked => ?_
  cases lockedNow with
  | true =>
      rw [if_pos rfl]
      exact Triple.at_state (Web.audit_record_bind fun s' hs' => hrefused s' hs')
  | false =>
      rw [if_neg Bool.false_ne_true]
      refine Triple.bind_read (Issues.run_attempt (authenticate_password_reads _ _))
        (fun _ _ => hrefused s rfl) fun result hresult => ?_
      rw [eval_attempt] at hresult
      obtain rfl := Except.ok.inj hresult
      -- Only a right password gets past this point.
      split
      next user huser =>
        obtain ⟨hfound, hpassword⟩ := authenticate_password_ok huser
        exact haccepted user ⟨locked_out_ok hlocked, hfound, hpassword⟩
      next =>
        refine Triple.bind_read (Issues.run_always (Issues.request (serve_reads outage trivial)))
          (fun _ _ => hrefused s rfl) fun settings _ => ?_
        refine Triple.at_state (Triple.bind_frame (SqliteBanRepository.record_row_issues
          (fun _ _ _ => SiteCall.leaves_sessions id) _ _ _) (fun _ s' h => hrefused s' h)
          fun _ => ?_)
        exact Web.audit_record_bind fun s' hs' => hrefused s' hs'
      next => exact fun s' h => hrefused s' (h ▸ rfl)

/-- A login changes the sessions as `LoginEnd` says. -/
theorem login_submit_sessions (hwork : outage.KeepsSessions) (form : LoginForm) :
    Triple (serve outage) (· = s) (loginSubmit crates session clientIp form) fun _ s' =>
      LoginEnd crates s session clientIp form s' := by
  refine login_submit_unless form (fun _ => .refused) fun user hverified => ?_
  refine (password_accepted_sessions hwork user).at_state.mono ?_
  rintro _ s' (h | ⟨htotp, h⟩ | ⟨htotp, h⟩)
  · exact .refused h
  · exact .waiting user hverified htotp h
  · exact .loggedIn user hverified htotp h

/-! ### Code -/

/-- Finding the row of the pending user only reads. -/
theorem pending_row_reads (pending : PendingUser) :
    Issues (fun c => ∀ s, (serve outage c s).2 = s) (pendingRow crates pending).run :=
  Issues.run_bind (Web.or_fail_issues _ _) fun _ =>
    Issues.run_bind (Issues.run_or_else (Issues.run_or_else
      (Issues.request (serve_reads outage trivial)))) fun _ => Web.or_fail_issues _ _

/-- The row of the pending user is the row of its identifier. -/
theorem pending_row_ok {pending : PendingUser} {user : User}
    (h : (eval (serve outage) (pendingRow crates pending) s).1 = .ok user) :
    crates.parseUuid pending.userId = some user.id.value ∧
      s.accounts.users.find user.id = some user := by
  obtain ⟨id, s1, hid, hrest⟩ := eval_bind_ok.mp (Prod.ext h rfl)
  obtain ⟨found, s2, hread, hfound⟩ := eval_bind_ok.mp hrest
  obtain ⟨hparse, rfl⟩ := Web.eval_or_fail_ok.mp hid
  obtain ⟨rfl, -⟩ := Web.eval_or_fail_ok.mp hfound
  have hrow := SqliteUserRepository.find_by_id_ok (congrArg Prod.fst (Web.eval_repo_ok.mp hread))
  have hid : user.id = ⟨id⟩ := (Table.find_eq_some.mp hrow).2
  rw [hid]
  exact ⟨hparse, hrow⟩

/-- Reading the stored secret only reads. -/
theorem stored_secret_reads (user : User) :
    Issues (fun c => ∀ s, (serve outage c s).2 = s) (storedSecret crates user).run :=
  Issues.run_bind (Web.or_fail_issues _ _) fun _ =>
    Issues.run_bind (Web.of_core_issues _) fun _ => Web.or_fail_issues _ _

/-- The stored secret is the unsealed text of the row. -/
theorem stored_secret_ok {user : User} {secret : String}
    (h : (eval (serve outage) (storedSecret crates user) s).1 = .ok secret) :
    ∃ blob bytes, user.totpSecretEncrypted = some blob ∧ crates.unseal blob = .ok bytes ∧
      String.fromUTF8? bytes = some secret := by
  obtain ⟨blob, s1, hblob, hrest⟩ := eval_bind_ok.mp (Prod.ext h rfl)
  obtain ⟨bytes, s2, hbytes, htext⟩ := eval_bind_ok.mp hrest
  exact ⟨blob, bytes, (Web.eval_or_fail_ok.mp hblob).1, (Web.eval_of_core_ok.mp hbytes).1,
    (Web.eval_or_fail_ok.mp htext).1⟩

/-- The verdict on a code is that of the library at the current time. -/
theorem verify_code_ok {secret code issuer account : String} {result : Bool}
    (h : (eval (serve outage) (Web.verifyCode crates secret code issuer account) s).1 =
      .ok result) :
    (decide (0 ≤ s.host.env.now.nanos) && verifyTotp crates.totp secret code issuer account
      (s.host.env.now.nanos / nanosPerSec).toNat) = result :=
  Except.ok.inj h

/-- What follows a right code: the session waits for no user any more, and has the user unless the
login could not be recorded. -/
theorem code_accepted_sessions (hwork : outage.KeepsSessions) (user : User) :
    Triple (serve outage) (Site.sessions · = s.sessions)
      (codeAccepted session clientIp user) fun _ s' =>
        s'.sessions = (s.setSession session .pendingUser none).sessions ∨
        s'.sessions = ((s.setSession session .pendingUser none).setSession session .authUser
          (some (authUser user))).sessions := by
  refine Web.session_remove_bind hwork ?_
  have htouch : Issues (fun c => ∀ s, (serve outage c s).2.sessions = s.sessions)
      (Web.repo (SqliteUserRepository.touchLastLogin user.id)).run :=
    Issues.run_or_else (SqliteUserRepository.touch_last_login_issues
      (SiteCall.leaves_sessions id) (fun _ _ => SiteCall.leaves_sessions id) _)
  refine Triple.bind_frame htouch (fun _ _ h => .inl h) fun _ => ?_
  exact AuthUser.store_bind hwork (Web.audit_record_bind fun _ hs' => .inr hs')

/-- A code changes the sessions as `CodeEnd` says. -/
theorem totp_submit_sessions (hwork : outage.KeepsSessions) (form : TotpForm) :
    Triple (serve outage) (· = s) (totpSubmit crates session clientIp form) fun _ s' =>
      CodeEnd crates s session form s' := by
  have hread {c : SiteCall} (h : c.Reads) : ∀ s, (serve outage c s).2 = s := serve_reads outage h
  refine Triple.bind_read (Web.session_get_issues (hread trivial)) (fun _ _ => .refused rfl)
    fun found hfound => ?_
  rw [Web.eval_session_get hwork] at hfound
  cases found with
  | none => exact fun _ h => .refused (h ▸ rfl)
  | some pending =>
      have hpending : (s.sessions session).pendingUser = some pending := Except.ok.inj hfound
      refine Triple.bind_read (pending_row_reads pending) (fun _ _ => .refused rfl)
        fun user huser => ?_
      refine Triple.bind_read (stored_secret_reads user) (fun _ _ => .refused rfl)
        fun secret hsecret => ?_
      refine Triple.bind_read (Issues.run_always (Issues.request (hread trivial)))
        (fun _ _ => .refused rfl) fun settings hsettings => ?_
      obtain rfl : s.live = settings := Except.ok.inj hsettings
      refine Triple.bind_read (Web.verify_code_issues crates (hread (c := .host .utcNow) trivial)
        _ _ _ _)
        (fun _ _ => .refused rfl) fun right hright => ?_
      have hverdict := verify_code_ok hright
      cases right with
      | false =>
          rw [if_neg Bool.false_ne_true]
          exact Triple.at_state (Web.audit_record_bind fun _ hs' => .refused hs')
      | true =>
          rw [if_pos rfl]
          obtain ⟨hid, hrow⟩ := pending_row_ok huser
          obtain ⟨blob, bytes, hblob, hbytes, htext⟩ := stored_secret_ok hsecret
          obtain ⟨hnow, hcode⟩ := Bool.and_eq_true_iff.mp hverdict
          have hverified : CodeVerified crates s form user :=
            ⟨hrow, blob, bytes, secret, hblob, hbytes, htext, of_decide_eq_true hnow, hcode⟩
          refine (code_accepted_sessions hwork user).at_state.mono ?_
          rintro _ s' (h | h)
          · exact .dropped h
          · exact .loggedIn pending user hpending hid hverified h

/-! ### Logout and setup -/

/-- A logout leaves a session without a user and waiting for none. -/
theorem logout_sessions (hwork : outage.KeepsSessions) :
    Triple (serve outage) (· = s) (logout session) fun _ s' =>
      s'.sessions = ((s.setSession session .authUser none).setSession session .pendingUser
        none).sessions := by
  have hread : Issues (fun c => ∀ s, (serve outage c s).2 = s)
      (AuthUser.readSessionUser session).run :=
    Web.session_get_issues (serve_reads outage trivial)
  refine Triple.bind_read hread (fun e he => ?_) fun found _ => ?_
  · rw [AuthUser.readSessionUser, Web.eval_session_get hwork] at he
    cases he
  · cases found with
    | none =>
        exact Triple.at_state (AuthUser.clear_bind hwork
          (Web.session_remove_bind hwork fun _ hs' => hs'))
    | some user =>
        exact Triple.at_state (Web.audit_record_bind (AuthUser.clear_bind hwork
          (Web.session_remove_bind hwork fun _ hs' => hs')))

/-- An audit event leaves the users and the sessions alone. -/
theorem insert_audit_frame (event : AuditEvent) (s : Site) :
    ((serve outage (.insertAudit event) s).2.sessions,
      (serve outage (.insertAudit event) s).2.accounts.users) = (s.sessions, s.accounts.users) := by
  refine Outage.write_frame (fun s => (s.sessions, s.accounts.users)) (fun s accounts h => ?_) s
  unfold Accounts.insertAudit at h
  split at h
  · cases h
    rfl
  · cases h

/-- The first user is logged in as soon as it exists. -/
theorem bootstrap_sessions (hwork : outage.KeepsSessions) (form : SetupForm) :
    SetupEnd s session (eval (serve outage) (bootstrap crates session clientIp form) s).2 := by
  rw [bootstrap, eval_bind]
  have hregister : Issues (fun c => ∀ s, (serve outage c s).2.sessions = s.sessions)
      (Web.repo (AuthService.registerInitialAdmin crates form.username form.password
        form.email)).run :=
    Issues.run_or_else (AuthService.register_initial_admin_issues (SiteCall.leaves_sessions id)
      (SiteCall.leaves_sessions id) (SiteCall.leaves_sessions id) (SiteCall.leaves_sessions id)
      (fun _ => SiteCall.leaves_sessions id) _ _ _ _)
  have hsame := hregister.frame (fun _ hc => hc) s
  rcases heval : eval (serve outage) (Web.repo (AuthService.registerInitialAdmin crates
      form.username form.password form.email)) s with ⟨e | user, s1⟩
  · exact .refused ((congrArg Site.sessions (congrArg Prod.snd heval)).symm.trans hsame)
  · have hs1 : s1.sessions = s.sessions :=
      (congrArg Site.sessions (congrArg Prod.snd heval)).symm.trans hsame
    obtain ⟨hempty, hcreated⟩ :=
      AuthService.register_initial_admin_ok (Web.eval_repo_ok.mp heval)
    dsimp only
    rw [eval_bind, AuthUser.eval_store hwork]
    let s2 := s1.setSession session .authUser (some ⟨user.id, user.username, .admin⟩)
    have haudit : Triple (serve outage)
        (fun s => (s.sessions, s.accounts.users) = (s2.sessions, s2.accounts.users))
        (do Web.auditRecord (some user.id) (some clientIp) .userCreated (some "user")
              (some user.id.display) (some [("bootstrap", .bool true)])
            return Response.redirect "/" : Web Response)
        fun _ s' => (s'.sessions, s'.accounts.users) = (s2.sessions, s2.accounts.users) :=
      Triple.bind_ignored (Issues.run_bind (site_now_issues fun _ => rfl) fun _ =>
        Issues.run_or_else (Issues.request (insert_audit_frame _))) fun _ h => h
    obtain ⟨hsessions, husers⟩ := Prod.ext_iff.mp (haudit s2 rfl)
    refine .created user hempty ?_ (hsessions.trans (Site.set_session_congr hs1 _ _ _))
    show ((Site.accounts _).users.find user.id).isSome
    rw [show (Site.accounts _).users = _ from husers]
    exact hcreated

/-- A setup changes the sessions as `SetupEnd` says. -/
theorem setup_submit_sessions (hwork : outage.KeepsSessions) (form : SetupForm) :
    Triple (serve outage) (· = s) (setupSubmit crates session clientIp form) fun _ s' =>
      SetupEnd s session s' := by
  refine Triple.bind_read (Issues.run_or_else (Issues.run_or_else
    (Issues.request (serve_reads outage trivial)))) (fun _ _ => .refused rfl) fun users _ => ?_
  split
  · exact fun _ h => .refused (h ▸ rfl)
  · split
    · exact fun _ h => .refused (h ▸ rfl)
    · split
      · exact fun _ h => .refused (h ▸ rfl)
      · intro _ h
        rw [h]
        exact bootstrap_sessions hwork form

/-! ## Runs -/

/-- The requests that log a session in or out. -/
inductive LoginRequest where
  | login (form : LoginForm)
  | totp (form : TotpForm)
  | logout
  | setup (form : SetupForm)

/-- The handler of a request. -/
def LoginRequest.submit (crates : WebCrates) (session : SessionId) (clientIp : String) :
    LoginRequest → Web Response
  | .login form => loginSubmit crates session clientIp form
  | .totp form => totpSubmit crates session clientIp form
  | .logout => Routes.Auth.logout session
  | .setup form => setupSubmit crates session clientIp form

/-- A request of a session, with the calls that fail meanwhile, or anything else: other users, other
settings and other secrets, another time, but the same users in the sessions. -/
inductive LoginAction where
  | request (session : SessionId) (clientIp : String) (request : LoginRequest) (outage : Outage)
  | elsewhere (site : Site)

namespace LoginAction

/-- The session store works during the action. -/
def KeepsSessions : LoginAction → Prop
  | request _ _ _ outage => outage.KeepsSessions
  | elsewhere _ => True

/-- The action is a logout of the session. -/
def LogsOut (session : SessionId) : LoginAction → Prop
  | request session' _ .logout _ => session' = session
  | _ => False

end LoginAction

/-- The session with the users of another one. -/
def Session.withUsersOf (session other : Session) : Session :=
  { session with authUser := other.authUser, pendingUser := other.pendingUser }

/-- One action. -/
def loginStep (crates : WebCrates) (s : Site) : LoginAction → Site
  | .request session clientIp request outage =>
      (eval (serve outage) (request.submit crates session clientIp) s).2
  | .elsewhere site =>
      { site with sessions := fun id => (site.sessions id).withUsersOf (s.sessions id) }

section Reasons

variable (crates : WebCrates) (s : Site) (session : SessionId) (u : Id UserMarker)

/-- The site before the next action of a run. -/
abbrev siteAfter (earlier : List LoginAction) : Site :=
  Runs.after (loginStep crates) s earlier

/-- A login of the session verifies the password of a user who does, or does not, have a second
factor. -/
def LoginVerifies (totp : Bool) (earlier : List LoginAction) : LoginAction → Prop
  | .request session' clientIp (.login form) _ => session' = session ∧ ∃ user,
      PasswordVerified crates (siteAfter crates s earlier) clientIp form user ∧ user.id = u ∧
        user.totpEnabled = totp
  | _ => False

/-- A code of the session is verified against the secret of a user. -/
def CodeVerifies (earlier : List LoginAction) : LoginAction → Prop
  | .request session' _ (.totp form) _ => session' = session ∧ ∃ user,
      CodeVerified crates (siteAfter crates s earlier) form user ∧ user.id = u
  | _ => False

/-- A setup of the session creates a user in an empty table. -/
def SetupCreates (earlier : List LoginAction) : LoginAction → Prop
  | .request session' clientIp (.setup form) outage => session' = session ∧
      (siteAfter crates s earlier).accounts.users.rows = [] ∧
      ((siteAfter crates s (earlier ++ [.request session' clientIp (.setup form)
        outage])).accounts.users.find u).isSome
  | _ => False

/-- A code is verified after a password of a user with a second factor. -/
def CodeAfterPassword (earlier : List LoginAction) (a : LoginAction) : Prop :=
  CodeVerifies crates s session u earlier a ∧
    Since (LoginVerifies crates s session u true) (LoginAction.LogsOut session) earlier

/-- Since its last logout the session has been given the user by a password of a user without a
second factor, by a password and later a code, or by the setup of the first user. -/
def LoggedIn (run : List LoginAction) : Prop :=
  Since (LoginVerifies crates s session u false) (LoginAction.LogsOut session) run ∨
  Since (CodeAfterPassword crates s session u) (LoginAction.LogsOut session) run ∨
  Since (SetupCreates crates s session u) (LoginAction.LogsOut session) run

/-- Since its last logout a password of a user with a second factor has been verified. -/
def Waiting (run : List LoginAction) : Prop :=
  Since (LoginVerifies crates s session u true) (LoginAction.LogsOut session) run

end Reasons

/-- Every user of a session has been logged in, and every user that a session waits for has given
a password. -/
structure UsersHaveReasons (crates : WebCrates) (s : Site) (run : List LoginAction) (s' : Site) :
    Prop where
  authUser : ∀ session user, (s'.sessions session).authUser = some user →
    LoggedIn crates s session user.id run
  pendingUser : ∀ session pending, (s'.sessions session).pendingUser = some pending →
    ∃ u : Id UserMarker, pending.userId = u.display ∧ Waiting crates s session u run

variable {run : List LoginAction} {u : Id UserMarker} {a : LoginAction}

theorem LoggedIn.snoc (h : LoggedIn crates s session u run) (ha : ¬ a.LogsOut session) :
    LoggedIn crates s session u (run ++ [a]) := by
  rcases h with h | h | h
  · exact .inl (since_snoc.mpr (.inr ⟨h, ha⟩))
  · exact .inr (.inl (since_snoc.mpr (.inr ⟨h, ha⟩)))
  · exact .inr (.inr (since_snoc.mpr (.inr ⟨h, ha⟩)))

theorem Waiting.snoc (h : Waiting crates s session u run) (ha : ¬ a.LogsOut session) :
    Waiting crates s session u (run ++ [a]) :=
  since_snoc.mpr (.inr ⟨h, ha⟩)

/-- The users of the sessions have reasons after an action when each of them was there before, in a
session that is not logged out, or has been given a reason by the action. -/
theorem UsersHaveReasons.snoc {s' s'' : Site} (h : UsersHaveReasons crates s run s')
    (hauth : ∀ session user, (s''.sessions session).authUser = some user →
      ((s'.sessions session).authUser = some user ∧ ¬ a.LogsOut session) ∨
        LoggedIn crates s session user.id (run ++ [a]))
    (hpending : ∀ session pending, (s''.sessions session).pendingUser = some pending →
      ((s'.sessions session).pendingUser = some pending ∧ ¬ a.LogsOut session) ∨
        ∃ u : Id UserMarker, pending.userId = u.display ∧
          Waiting crates s session u (run ++ [a])) :
    UsersHaveReasons crates s (run ++ [a]) s'' where
  authUser session user huser := by
    rcases hauth session user huser with ⟨hold, ha⟩ | hnew
    · exact (h.authUser session user hold).snoc ha
    · exact hnew
  pendingUser session pending hwaits := by
    rcases hpending session pending hwaits with ⟨hold, ha⟩ | hnew
    · obtain ⟨u, hu, hwaiting⟩ := h.pendingUser session pending hold
      exact ⟨u, hu, hwaiting.snoc ha⟩
    · exact hnew

/-- An action that is no logout and leaves the users of the sessions alone leaves their reasons. -/
theorem UsersHaveReasons.same {s' s'' : Site} (h : UsersHaveReasons crates s run s')
    (ha : ∀ session, ¬ a.LogsOut session) (hsame : s''.sessions = s'.sessions) :
    UsersHaveReasons crates s (run ++ [a]) s'' :=
  h.snoc (fun session _ huser => .inl ⟨hsame ▸ huser, ha session⟩)
    (fun session _ hpending => .inl ⟨hsame ▸ hpending, ha session⟩)

section Markers

variable (s : Site) (session other : SessionId)

theorem Site.sessions_set_session (key : SessionKey) (value : Option key.Value) :
    (s.setSession session key value).sessions other =
      if other = session then (s.sessions session).set key value else s.sessions other := by
  simp only [Site.setSession, Function.update_apply]

theorem Site.set_auth_user_auth (value : Option AuthUser) :
    ((s.setSession session .authUser value).sessions other).authUser =
      if other = session then value else (s.sessions other).authUser := by
  rw [Site.sessions_set_session]
  split <;> rfl

theorem Site.set_auth_user_pending (value : Option AuthUser) :
    ((s.setSession session .authUser value).sessions other).pendingUser =
      (s.sessions other).pendingUser := by
  rw [Site.sessions_set_session]
  split
  next heq => rw [heq]; rfl
  next => rfl

theorem Site.set_pending_user_auth (value : Option PendingUser) :
    ((s.setSession session .pendingUser value).sessions other).authUser =
      (s.sessions other).authUser := by
  rw [Site.sessions_set_session]
  split
  next heq => rw [heq]; rfl
  next => rfl

theorem Site.set_pending_user_pending (value : Option PendingUser) :
    ((s.setSession session .pendingUser value).sessions other).pendingUser =
      if other = session then value else (s.sessions other).pendingUser := by
  rw [Site.sessions_set_session]
  split <;> rfl

end Markers

/-- A login keeps the reasons. -/
theorem UsersHaveReasons.login {s' : Site}
    (h : UsersHaveReasons crates s run (siteAfter crates s run)) {form : LoginForm}
    (hend : LoginEnd crates (siteAfter crates s run) session clientIp form s') :
    UsersHaveReasons crates s (run ++ [.request session clientIp (.login form) outage]) s' := by
  have ha : ∀ other, ¬ LoginAction.LogsOut other
      (.request session clientIp (.login form) outage) := fun _ => id
  cases hend with
  | refused hsame => exact h.same ha hsame
  | waiting user hverified htotp hsessions =>
      refine h.snoc (fun other user' huser' => ?_) (fun other pending hpending => ?_)
      · rw [hsessions, Site.set_pending_user_auth] at huser'
        exact .inl ⟨huser', ha other⟩
      · rw [hsessions, Site.set_pending_user_pending] at hpending
        split at hpending
        next heq =>
          obtain rfl := Option.some.inj hpending
          refine .inr ⟨user.id, rfl, since_snoc.mpr (.inl ?_)⟩
          exact ⟨heq.symm, user, hverified, rfl, htotp⟩
        next => exact .inl ⟨hpending, ha other⟩
  | loggedIn user hverified htotp hsessions =>
      refine h.snoc (fun other user' huser' => ?_) (fun other pending hpending => ?_)
      · rw [hsessions, Site.set_auth_user_auth] at huser'
        split at huser'
        next heq =>
          obtain rfl := Option.some.inj huser'
          refine .inr (.inl (since_snoc.mpr (.inl ?_)))
          exact ⟨heq.symm, user, hverified, rfl, htotp⟩
        next => exact .inl ⟨huser', ha other⟩
      · rw [hsessions, Site.set_auth_user_pending] at hpending
        exact .inl ⟨hpending, ha other⟩

/-- A code keeps the reasons: the session waited for the user, who had given a password. -/
theorem UsersHaveReasons.totp {s' : Site}
    (h : UsersHaveReasons crates s run (siteAfter crates s run))
    (hparse : ∀ (u : Id UserMarker) value, crates.parseUuid u.display = some value →
      value = u.value)
    {form : TotpForm} (hend : CodeEnd crates (siteAfter crates s run) session form s') :
    UsersHaveReasons crates s (run ++ [.request session clientIp (.totp form) outage]) s' := by
  have ha : ∀ other, ¬ LoginAction.LogsOut other
      (.request session clientIp (.totp form) outage) := fun _ => id
  cases hend with
  | refused hsame => exact h.same ha hsame
  | dropped hsessions =>
      refine h.snoc (fun other user' huser' => ?_) (fun other pending hpending => ?_)
      · rw [hsessions, Site.set_pending_user_auth] at huser'
        exact .inl ⟨huser', ha other⟩
      · rw [hsessions, Site.set_pending_user_pending] at hpending
        split at hpending
        next => cases hpending
        next => exact .inl ⟨hpending, ha other⟩
  | loggedIn pending user hpending hid hverified hsessions =>
      -- The marker of the session tells which user gave the password.
      obtain ⟨u, hu, hwaiting⟩ := h.pendingUser session pending hpending
      obtain rfl : user.id = u := congrArg Id.mk (hparse u user.id.value (hu ▸ hid))
      refine h.snoc (fun other user' huser' => ?_) (fun other pending' hpending' => ?_)
      · rw [hsessions, Site.set_auth_user_auth, Site.set_pending_user_auth] at huser'
        split at huser'
        next heq =>
          obtain rfl := Option.some.inj huser'
          subst heq
          refine .inr (.inr (.inl (since_snoc.mpr (.inl ?_))))
          exact ⟨⟨rfl, user, hverified, rfl⟩, hwaiting⟩
        next => exact .inl ⟨huser', ha other⟩
      · rw [hsessions, Site.set_auth_user_pending, Site.set_pending_user_pending] at hpending'
        split at hpending'
        next => cases hpending'
        next => exact .inl ⟨hpending', ha other⟩

/-- A logout keeps the reasons: its session has no user and waits for none. -/
theorem UsersHaveReasons.logout {s' : Site}
    (h : UsersHaveReasons crates s run (siteAfter crates s run))
    (hsessions : s'.sessions = (((siteAfter crates s run).setSession session .authUser
      none).setSession session .pendingUser none).sessions) :
    UsersHaveReasons crates s (run ++ [.request session clientIp .logout outage]) s' := by
  refine h.snoc (fun other user huser => ?_) (fun other pending hpending => ?_)
  · rw [hsessions, Site.set_pending_user_auth, Site.set_auth_user_auth] at huser
    split at huser
    next => cases huser
    next hne => exact .inl ⟨huser, fun heq => hne heq.symm⟩
  · rw [hsessions, Site.set_pending_user_pending, Site.set_auth_user_pending] at hpending
    split at hpending
    next => cases hpending
    next hne => exact .inl ⟨hpending, fun heq => hne heq.symm⟩

/-- A setup keeps the reasons. -/
theorem UsersHaveReasons.setup (h : UsersHaveReasons crates s run (siteAfter crates s run))
    {form : SetupForm}
    (hend : SetupEnd (siteAfter crates s run) session
      (siteAfter crates s (run ++ [.request session clientIp (.setup form) outage]))) :
    UsersHaveReasons crates s (run ++ [.request session clientIp (.setup form) outage])
      (siteAfter crates s (run ++ [.request session clientIp (.setup form) outage])) := by
  have ha : ∀ other, ¬ LoginAction.LogsOut other
      (.request session clientIp (.setup form) outage) := fun _ => id
  cases hend with
  | refused hsame => exact h.same ha hsame
  | created user hempty hcreated hsessions =>
      refine h.snoc (fun other user' huser' => ?_) (fun other pending hpending => ?_)
      · rw [hsessions, Site.set_auth_user_auth] at huser'
        split at huser'
        next heq =>
          obtain rfl := Option.some.inj huser'
          refine .inr (.inr (.inr (since_snoc.mpr (.inl ?_))))
          exact ⟨heq.symm, hempty, hcreated⟩
        next => exact .inl ⟨huser', ha other⟩
      · rw [hsessions, Site.set_auth_user_pending] at hpending
        exact .inl ⟨hpending, ha other⟩

/-- Every user of a session has a reason, in every state of every run. -/
theorem users_have_reasons (crates : WebCrates)
    (hparse : ∀ (u : Id UserMarker) value, crates.parseUuid u.display = some value →
      value = u.value) {s : Site}
    (hstart : ∀ session, (s.sessions session).authUser = none ∧
      (s.sessions session).pendingUser = none)
    (run : List LoginAction) (hwork : ∀ a ∈ run, a.KeepsSessions) :
    UsersHaveReasons crates s run (siteAfter crates s run) := by
  have hinit : UsersHaveReasons crates s [] s :=
    { authUser := fun session user huser => by rw [(hstart session).1] at huser; cases huser
      pendingUser := fun session _ hpending => by
        rw [(hstart session).2] at hpending
        cases hpending }
  refine History.invariant hinit (fun run a ha h => ?_) run hwork
  cases a with
  | elsewhere site =>
      exact h.snoc (fun _ _ huser => .inl ⟨huser, id⟩) (fun _ _ hpending => .inl ⟨hpending, id⟩)
  | request session clientIp request outage =>
      cases request with
      | login form => exact h.login (login_submit_sessions ha form _ rfl)
      | totp form => exact h.totp hparse (totp_submit_sessions ha form _ rfl)
      | logout => exact h.logout (logout_sessions ha _ rfl)
      | setup form =>
          have hend : SetupEnd (siteAfter crates s run) session (loginStep crates
              (siteAfter crates s run) (.request session clientIp (.setup form) outage)) :=
            setup_submit_sessions ha form _ rfl
          have hnext : siteAfter crates s
              (run ++ [.request session clientIp (.setup form) outage]) =
              loginStep crates (siteAfter crates s run)
                (.request session clientIp (.setup form) outage) := Runs.after_snoc _
          rw [← hnext] at hend ⊢
          exact h.setup hend

/-- The second factor is never skipped: in every run whose session reads and writes succeed, a
session that has a user has been given it since its last logout by a password of the user when it
had no second factor, by a password and a later code, or by the setup that created the user. -/
theorem second_factor_never_skipped (crates : WebCrates)
    (hparse : ∀ (u : Id UserMarker) value, crates.parseUuid u.display = some value →
      value = u.value) {s : Site}
    (hstart : ∀ session, (s.sessions session).authUser = none ∧
      (s.sessions session).pendingUser = none)
    (run : List LoginAction) (hwork : ∀ a ∈ run, a.KeepsSessions) (session : SessionId)
    (user : AuthUser)
    (huser : ((siteAfter crates s run).sessions session).authUser = some user) :
    LoggedIn crates s session user.id run :=
  (users_have_reasons crates hparse hstart run hwork).authUser session user huser

/-- A user with a second factor. -/
def enrolledUser : User where
  id := ⟨0⟩
  username := "admin"
  email := none
  passwordHash := "correct horse"
  role := .admin
  totpEnabled := true
  totpSecretEncrypted := some "AAAAAAAAAAAAAAAAAAAAAAAAAA".toUTF8
  oidcSubject := none
  createdAt := ⟨0⟩
  updatedAt := ⟨0⟩
  lastLoginAt := none

/-- A server with that user. -/
def enrolledSite : Site :=
  match Accounts.empty.insertUser enrolledUser with
  | .ok accounts => { Site.fresh .default with accounts }
  | .error _ => .fresh .default

/-- A login and the code that it asks for. -/
def loginWithCode : List LoginAction :=
  [.request ⟨0⟩ "10.0.0.1" (.login ⟨"admin", "correct horse"⟩) .none,
    .request ⟨0⟩ "10.0.0.1" (.totp ⟨"000000"⟩) .none]

/-- The password and a code log the user in. -/
theorem second_factor_given :
    ((siteAfter .transparent enrolledSite loginWithCode).sessions ⟨0⟩).authUser =
        some ⟨⟨0⟩, "admin", .admin⟩ ∧
      LoggedIn .transparent enrolledSite ⟨0⟩ ⟨0⟩ loginWithCode := by
  have huser : ((siteAfter .transparent enrolledSite loginWithCode).sessions ⟨0⟩).authUser =
      some ⟨⟨0⟩, "admin", .admin⟩ := by decide +kernel
  have hnone : Outage.none.KeepsSessions := ⟨fun _ _ => rfl, fun _ _ _ => rfl, fun _ _ => rfl⟩
  have hwork : ∀ a ∈ loginWithCode, a.KeepsSessions := by
    intro a ha
    rcases List.mem_cons.mp ha with rfl | ha
    · exact hnone
    · rw [List.mem_singleton.mp ha]
      exact hnone
  exact ⟨huser, second_factor_never_skipped .transparent WebCrates.parse_uuid_transparent
    (fun _ => ⟨rfl, rfl⟩) loginWithCode hwork ⟨0⟩ _ huser⟩

end Wireforge
