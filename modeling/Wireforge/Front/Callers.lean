import Wireforge.Front.Lasting
import Wireforge.Front.OwnAccounts

/-!
# Callers

Every request keeps the contract `callers`, whatever other requests do between its calls: it writes
a user into a session only after it has read or inserted the row of the user, and it inserts a user
only with the hash of a long password.
-/

namespace Wireforge

open Effect Routes.Auth

/-! ## Programs -/

section Programs

variable {crates : WebCrates} {s : Site}

/-- The calls that write no user, neither into the table nor into a session. -/
def SiteCall.Harmless : SiteCall → Prop
  | insertUser _ => False
  | insertSession _ key _ => key.Scratch
  | _ => True

theorem SiteCall.Harmless.truthful {c : SiteCall} (h : c.Harmless) (s : Site) :
    c.Truthful crates s := by
  cases c with
  | insertUser row => exact h.elim
  | insertSession id key value =>
      cases key with
      | authUser | pendingUser => exact h.elim
      | totpSetup | flash => trivial
  | _ => trivial

/-- What is read is harmless. -/
theorem SiteCall.Reads.harmless {c : SiteCall} (h : c.Reads) : c.Harmless := by
  cases c with
  | insertUser | insertSession => exact h.elim
  | _ => trivial

/-- What may be done on behalf of a user is harmless. -/
theorem SiteCall.Confined.harmless {session : Option SessionId} {user : Id UserMarker}
    {c : SiteCall} (h : c.Confined session user) : c.Harmless := by
  cases c with
  | insertUser => exact h.elim
  | insertSession id key value => exact h.2
  | _ => trivial

/-- A program of harmless calls keeps the contract. -/
theorem harmless_guarantees {α : Type} {program : Program SiteCall SiteCall.Reply α}
    (h : Issues SiteCall.Harmless program) :
    Guarantees (callers crates) (fun _ _ => True) program s :=
  .of_issues (h.mono fun _ hc => hc.truthful)

/-- What follows a program of harmless calls. -/
theorem harmless_then {ε α β : Type} {program : Fallible SiteCall SiteCall.Reply ε α}
    {next : α → Fallible SiteCall SiteCall.Reply ε β} (h : Issues SiteCall.Harmless program.run)
    (hnext : ∀ value s', s.Evolves crates s' →
      Guarantees (callers crates) (fun _ _ => True) (next value).run s') :
    Guarantees (callers crates) (fun _ _ => True) (program >>= next).run s :=
  .run_after (h.mono fun _ hc => hc.truthful) hnext fun _ _ => trivial

/-! ### What replies tell -/

/-- A row that is read is a row of its user from then on. -/
theorem find_by_username_guarantees (username : String) :
    Guarantees (callers crates)
      (fun result s => ∀ row, result = .ok (some row) → s.Has (authUser row))
      (SqliteUserRepository.findByUsername username).run s := by
  refine .map (.request (fun _ _ => trivial) ?_)
  intro m s' _ s'' hlater row hresult
  have hfound : s'.accounts.findUserByName username = some row :=
    Outage.read_ok (·.accounts.findUserByName username) hresult
  have hmem : row ∈ s'.accounts.users.rows := List.mem_of_find?_eq_some hfound
  exact (Site.Has.of_find (Table.find_of_mem hmem)).later hlater.users

theorem find_by_id_guarantees (id : Id UserMarker) :
    Guarantees (callers crates)
      (fun result s => ∀ row, result = .ok (some row) → s.Has (authUser row))
      (SqliteUserRepository.findById id).run s := by
  refine .map (.request (fun _ _ => trivial) ?_)
  intro m s' _ s'' hlater row hresult
  have hfound : s'.accounts.users.find id = some row :=
    Outage.read_ok (·.accounts.users.find id) hresult
  exact (Site.Has.of_find hfound).later hlater.users

/-- A hash is that of the password. -/
theorem hash_password_guarantees (password : String) :
    Guarantees (callers crates)
      (fun result _ => ∀ hash, result = .ok hash →
        ∃ salt, crates.hashPassword salt password = .ok hash)
      (AuthService.hashPassword crates password).run s := by
  refine .run_bind (.map (.request (fun _ _ => trivial) ?_)) ?_
  · intro m s' _ s'' _ salt hsalt
    split
    · refine .pure fun s _ hash hhash => ?_
      obtain rfl := Except.ok.inj hhash
      exact ⟨salt, ‹_›⟩
    · refine .pure fun s _ hash hhash => ?_
      cases hhash
  · intro e s hash hhash
    cases hhash

/-- A user that is created has a row from then on. -/
theorem create_guarantees (new : NewUser) (hnew : crates.Sturdy new.passwordHash) :
    Guarantees (callers crates)
      (fun result s => ∀ row, result = .ok row → s.Has ⟨row.id, row.username, new.role⟩)
      (SqliteUserRepository.create new).run s := by
  have herror (e : CoreError) (s : Site) (row : User)
      (h : (.error e : Except CoreError User) = .ok row) :
      s.Has ⟨row.id, row.username, new.role⟩ := by
    cases h
  refine .run_after (site_uuid_issues fun _ => trivial) (fun id s1 _ => ?_) herror
  refine .run_after (site_now_issues fun _ => trivial) (fun now s2 _ => ?_) herror
  refine .run_bind (.map (.request (fun _ _ => hnew) ?_)) herror
  intro m s' _ s'' hlater _ hresult
  -- The insertion has succeeded, so that the row is there.
  obtain ⟨accounts, hchange, hstate⟩ := Outage.write_ok (s := s'.seen m) hresult
  have hrows := (Accounts.insert_user_ok hchange).2.1
  have hmem : SqliteUserRepository.newRow id now new ∈ accounts.users.rows := by
    rw [hrows]
    exact List.mem_append_right _ (List.mem_singleton_self _)
  have hhas : Site.Has { s'.seen m with accounts }
      (authUser (SqliteUserRepository.newRow id now new)) :=
    .of_find (Table.find_of_mem hmem)
  have hlater' : Site.Evolves crates { s'.seen m with accounts } s'' := hstate ▸ hlater
  refine .pure fun s hs row hrow => ?_
  obtain rfl := Except.ok.inj hrow
  exact (hhas.later hlater'.users).later hs.users

/-- A user is authenticated by its row. -/
theorem authenticate_guarantees (username password : String) :
    Guarantees (callers crates)
      (fun result s => ∀ row, result = .ok row → s.Has (authUser row))
      (AuthService.authenticatePassword crates username password).run s := by
  have hthrow (e : CoreError) (s : Site) : Guarantees (callers crates)
      (fun result s => ∀ row, result = .ok row → s.Has (authUser row))
      (throw e : Repo User).run s := .pure fun s _ row hrow => by cases hrow
  refine .run_bind ((find_by_username_guarantees username).mono ?_) fun e s row hrow => by
    cases hrow
  intro result s hfound found hresult
  cases found with
  | none => exact hthrow _ s
  | some user =>
      have hhas : s.Has (authUser user) := hfound user hresult
      dsimp only
      -- The password may be wrong, or the hash may be no hash.
      split
      · exact hthrow _ s
      · exact hthrow _ s
      · refine .pure fun s' hs row hrow => ?_
        obtain rfl := Except.ok.inj hrow
        exact hhas.later hs.users

/-- The first user is created with a row, as an administrator. -/
theorem register_guarantees (username password : String) (email : Option String)
    (hlong : 12 ≤ password.utf8ByteSize) :
    Guarantees (callers crates)
      (fun result s => ∀ row, result = .ok row → s.Has ⟨row.id, row.username, .admin⟩)
      (AuthService.registerInitialAdmin crates username password email).run s := by
  have herror (e : CoreError) (s : Site) (row : User)
      (h : (.error e : Except CoreError User) = .ok row) :
      s.Has ⟨row.id, row.username, .admin⟩ := by
    cases h
  have hcount : Issues SiteCall.Harmless SqliteUserRepository.count.run :=
    Issues.run_or_else (Issues.request trivial)
  refine .run_after (hcount.mono fun _ hc => hc.truthful) (fun users s1 _ => ?_) herror
  split
  · exact .pure fun s _ row hrow => by cases hrow
  refine .run_bind ((hash_password_guarantees password).mono ?_) herror
  intro result s2 hhash hash hresult
  obtain ⟨salt, hsalt⟩ := hhash hash hresult
  exact create_guarantees ⟨username, email, hash, .admin⟩ ⟨salt, password, hlong, hsalt⟩

/-! ### Login and setup -/

section Visits

variable {session : SessionId} {clientIp : String}

theorem audit_harmless {ε : Type} (actor : Option (Id UserMarker)) (ip : Option String)
    (action : AuditAction) (resourceType resourceId : Option String)
    (metadata : Option Json.Object) :
    Issues SiteCall.Harmless
      (Web.auditRecord (ε := ε) actor ip action resourceType resourceId metadata).run :=
  Web.audit_record_issues trivial (fun _ => trivial) _ _ _ _ _ _

/-- Putting a user with a row into a session. -/
theorem store_then {α : Type} {user : AuthUser} {next : Web α} (huser : s.Has user)
    (hnext : Issues SiteCall.Harmless next.run) :
    Guarantees (callers crates) (fun _ _ => True)
      (user.store session >>= fun _ => next).run s := by
  refine .run_bind (.map (.request (fun s' hs => huser.later hs.users) ?_)) fun _ _ => trivial
  intro m s' _ s'' _ _ _
  exact harmless_guarantees hnext

theorem password_accepted_guarantees {user : User} (huser : s.Has (authUser user)) :
    Guarantees (callers crates) (fun _ _ => True)
      (passwordAccepted session clientIp user).run s := by
  refine harmless_then (Issues.run_ignore (Issues.run_or_else (Issues.request trivial)))
    fun _ s1 hs1 => ?_
  have huser1 := huser.later hs1.users
  split
  · -- The session waits for the user.
    refine .run_bind (.map (.map (.request (fun s' hs => ?_) ?_))) fun _ _ => trivial
    · exact ⟨user, huser1.later hs.users, rfl⟩
    · intro m s' _ s'' _ _ _
      exact .pure fun _ _ => trivial
  · refine harmless_then (Issues.run_or_else (SqliteUserRepository.touch_last_login_issues
      trivial (fun _ _ => trivial) _)) fun _ s2 hs2 => ?_
    refine store_then (huser1.later hs2.users) ?_
    exact Issues.run_bind (audit_harmless ..) fun _ => Issues.run_pure _

theorem login_guarantees (form : LoginForm) :
    Guarantees (callers crates) (fun _ _ => True)
      (loginSubmit crates session clientIp form).run s := by
  have hlocked : Issues SiteCall.Harmless (lockedOut clientIp).run := by
    refine Issues.run_bind (Issues.run_or_else (Issues.run_or_else (Issues.request trivial)))
      fun ban => ?_
    cases ban with
    | none => exact Issues.run_pure _
    | some ban =>
        exact Issues.run_bind (Issues.run_or_else (site_now_issues trivial))
          fun _ => Issues.run_pure _
  refine harmless_then hlocked fun locked s1 _ => ?_
  split
  · exact harmless_guarantees (Issues.run_bind (audit_harmless ..) fun _ => Issues.run_pure _)
  refine .run_bind (.map ((authenticate_guarantees form.username form.password).mono ?_))
    fun _ _ => trivial
  intro result s2 hfound outcome houtcome
  obtain rfl := Except.ok.inj houtcome
  split
  next user => exact password_accepted_guarantees (hfound user rfl)
  next =>
    refine harmless_guarantees (Issues.run_bind (Issues.run_always (Issues.request trivial))
      fun settings => Issues.run_bind (SqliteBanRepository.record_row_issues
        (fun _ _ _ => trivial) _ _ _) fun _ => ?_)
    exact Issues.run_bind (audit_harmless ..) fun _ => Issues.run_pure _
  next => exact .pure fun _ _ => trivial

/-- The row of the pending user is a row of its user from then on. -/
theorem pending_row_guarantees (pending : PendingUser) :
    Guarantees (callers crates)
      (fun result s => ∀ row, result = .ok row → s.Has (authUser row))
      (pendingRow crates pending).run s := by
  have herror (e : Stop WebError) (s : Site) (row : User)
      (h : (.error e : Except (Stop WebError) User) = .ok row) : s.Has (authUser row) := by
    cases h
  refine .run_after (Web.or_fail_issues _ _) (fun id s1 _ => ?_) herror
  refine .run_bind (.map ((find_by_id_guarantees ⟨id⟩).mono ?_)) herror
  intro result s2 hfound found hresult
  cases found with
  | none => exact .pure fun s _ row hrow => by cases hrow
  | some user =>
      have huser := hfound user (Outcome.map_error_ok.mp hresult)
      refine .pure fun s' hs row hrow => ?_
      obtain rfl := Except.ok.inj hrow
      exact huser.later hs.users

theorem code_accepted_guarantees {user : User} (huser : s.Has (authUser user)) :
    Guarantees (callers crates) (fun _ _ => True) (codeAccepted session clientIp user).run s := by
  refine harmless_then (Issues.run_ignore (Issues.run_or_else (Issues.request trivial)))
    fun _ s1 hs1 => ?_
  refine harmless_then (Issues.run_or_else (SqliteUserRepository.touch_last_login_issues
    trivial (fun _ _ => trivial) _)) fun _ s2 hs2 => ?_
  refine store_then ((huser.later hs1.users).later hs2.users) ?_
  exact Issues.run_bind (audit_harmless ..) fun _ => Issues.run_pure _

theorem totp_guarantees (form : TotpForm) :
    Guarantees (callers crates) (fun _ _ => True)
      (totpSubmit crates session clientIp form).run s := by
  refine harmless_then (Web.session_get_issues trivial) fun found s1 _ => ?_
  cases found with
  | none => exact .pure fun _ _ => trivial
  | some pending =>
      refine .run_bind ((pending_row_guarantees pending).mono ?_) fun _ _ => trivial
      intro result s2 hfound user hresult
      have huser := hfound user hresult
      have hsecret : Issues SiteCall.Harmless (storedSecret crates user).run :=
        Issues.run_bind (Web.or_fail_issues _ _) fun _ =>
          Issues.run_bind (Web.of_core_issues _) fun _ => Web.or_fail_issues _ _
      refine harmless_then hsecret fun secret s3 hs3 => ?_
      refine harmless_then (Issues.run_always (Issues.request trivial)) fun settings s4 hs4 => ?_
      refine harmless_then (Web.verify_code_issues crates trivial _ _ _ _) fun right s5 hs5 => ?_
      split
      · exact code_accepted_guarantees
          (((huser.later hs3.users).later hs4.users).later hs5.users)
      · exact harmless_guarantees (Issues.run_bind (audit_harmless ..) fun _ => Issues.run_pure _)

theorem logout_harmless : Issues SiteCall.Harmless (logout session).run := by
  refine Issues.run_bind (Web.session_get_issues trivial) fun user => ?_
  have hrecord : Issues SiteCall.Harmless (recordLogout user).run := by
    cases user with
    | none => exact Issues.run_pure _
    | some user => exact audit_harmless ..
  refine Issues.run_bind hrecord fun _ => ?_
  refine Issues.run_bind (Issues.run_or_else (Issues.request trivial)) fun _ => ?_
  exact Issues.run_bind (Issues.run_ignore (Issues.run_or_else (Issues.request trivial)))
    fun _ => Issues.run_pure _

theorem setup_guarantees (form : SetupForm) :
    Guarantees (callers crates) (fun _ _ => True)
      (setupSubmit crates session clientIp form).run s := by
  refine harmless_then (Issues.run_or_else (Issues.run_or_else (Issues.request trivial)))
    fun users s1 _ => ?_
  split
  · exact .pure fun _ _ => trivial
  split
  · exact .pure fun _ _ => trivial
  split
  · exact .pure fun _ _ => trivial
  next hlong =>
    refine .run_bind (.map ((register_guarantees form.username form.password form.email
      (Nat.le_of_not_lt hlong)).mono ?_)) fun _ _ => trivial
    intro result s2 hfound user hresult
    have huser := hfound user (Outcome.map_error_ok.mp hresult)
    exact store_then huser (Issues.run_bind (audit_harmless ..) fun _ => Issues.run_pure _)

/-- A page that needs no login keeps the contract. -/
theorem PublicRoute.handler_guarantees (route : PublicRoute) :
    Guarantees (callers crates) (fun _ _ => True)
      (route.handler crates session clientIp).run s := by
  have hcount : Issues SiteCall.Harmless (Web.repo SqliteUserRepository.count).run :=
    Issues.run_or_else (Issues.run_or_else (Issues.request trivial))
  cases route with
  | healthz => exact harmless_guarantees trivial
  | readyz =>
      refine harmless_guarantees (Issues.run_bind (Issues.run_attempt
        (Issues.run_or_else (Issues.request trivial))) fun result => ?_)
      cases result <;> exact Issues.run_pure _
  | metrics =>
      have hmetrics : Confined none (Id.mk 0) Routes.Metrics.handler :=
        (Web.service_confined _).bind fun _ => (Web.service_confined _).bind fun _ => .pure _
      exact harmless_guarantees (hmetrics.issues.mono fun _ hc => hc.harmless)
  | loginPage =>
      exact harmless_guarantees (Issues.run_bind hcount fun _ => Issues.run_ite trivial trivial)
  | login form => exact login_guarantees form
  | totp form => exact totp_guarantees form
  | logout => exact harmless_guarantees logout_harmless
  | setupPage =>
      exact harmless_guarantees (Issues.run_bind hcount fun _ => Issues.run_ite trivial trivial)
  | setup form => exact setup_guarantees form

end Visits

end Programs

/-! ## Requests -/

/-- Whatever the others do between its calls, a request keeps the contract. -/
theorem request_guarantees (crates : WebCrates) (config : WebConfig) (request : Request)
    (s : Site) :
    Guarantees (callers crates) (fun _ _ => True) (request.program crates config) s := by
  cases request with
  | visit session clientIp route => exact .map (PublicRoute.handler_guarantees route)
  | web session route =>
      have hcaller : Issues SiteCall.Harmless (AuthUser.fromRequestParts session).run :=
        Issues.run_bind (Issues.run_or_else (Issues.request trivial))
          fun _ => Web.or_fail_issues _ _
      have hhandler (user : AuthUser) : Confined (some session) user.id
          (route.handler crates config session user) := WebRoute.handler_confined config route
      exact .map (harmless_guarantees (Issues.run_bind hcaller fun user =>
        (hhandler user).issues.mono fun _ hc => hc.harmless))
  | health => exact .map (harmless_guarantees trivial)
  | api credentials route =>
      have hcaller := (ApiAuthUser.from_parts_reads crates credentials).mono
        fun _ hc => hc.harmless
      have hhandler (user : AuthUser) : Confined none user.id (route.handler crates user) :=
        ApiRoute.handler_confined route
      exact .map (harmless_guarantees (Issues.run_bind hcaller fun user =>
        (hhandler user).issues.mono fun _ hc => hc.harmless))

end Wireforge
