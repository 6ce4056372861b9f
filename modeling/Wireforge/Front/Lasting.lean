import Wireforge.Lib.Interference
import Wireforge.Site.Frames
import Wireforge.Site.Moments
import Wireforge.Web.Auth

/-!
# What lasts

Sessions carry a copy of the identifier, the name and the role of their user. `Site.Evolves` says
that the copies stay right: users keep their rows, with name and role, and a session gets a user
only when the user has a row. Tokens and audit events last as well, and no hash of a short password
is stored. A call may let the site evolve so if it is truthful; `callers` is the contract of these
calls.
-/

namespace Wireforge

open Effect Routes.Auth

/-! ## What lasts -/

/-- The row apart from the password, the second factor and the time of the last login. -/
def User.identity (row : User) : User :=
  { row with
    passwordHash := "", totpEnabled := false, totpSecretEncrypted := none, updatedAt := ⟨0⟩
    lastLoginAt := none }

/-- The later row is of the same user. -/
def User.Lasts (row row' : User) : Prop :=
  row'.identity = row.identity

/-- The later row is the same token, which may have been revoked in the meantime. -/
def ApiToken.Lasts (token token' : ApiToken) : Prop :=
  token' = token ∨ token.revokedAt = none ∧ ∃ now, token' = { token with revokedAt := some now }

theorem User.lasts_refl (row : User) : row.Lasts row :=
  rfl

theorem User.lasts_trans (row row' row'' : User) (h : row.Lasts row') (h' : row'.Lasts row'') :
    row.Lasts row'' :=
  h'.trans h

theorem ApiToken.lasts_refl (token : ApiToken) : token.Lasts token :=
  .inl rfl

theorem ApiToken.lasts_trans (token token' token'' : ApiToken) (h : token.Lasts token')
    (h' : token'.Lasts token'') : token.Lasts token'' := by
  rcases h with rfl | ⟨hactive, now, rfl⟩
  · exact h'
  · rcases h' with rfl | ⟨hrevoked, -⟩
    · exact .inr ⟨hactive, now, rfl⟩
    · cases hrevoked

/-- The hash of a password that is long enough. -/
def WebCrates.Sturdy (crates : WebCrates) (hash : String) : Prop :=
  ∃ salt password, 12 ≤ password.utf8ByteSize ∧ crates.hashPassword salt password = .ok hash

/-- There is a row for the user. -/
def Site.Has (s : Site) (user : AuthUser) : Prop :=
  ∃ row, s.accounts.users.find user.id = some row ∧ authUser row = user

/-- There is a row for the user that a session waits for. -/
def Site.Expects (s : Site) (pending : PendingUser) : Prop :=
  ∃ row : User, s.Has (authUser row) ∧ pending = ⟨row.id.display, row.username⟩

/-- A user that the session has or waits for has a row, with that name and role. -/
structure Site.Identified (s : Site) (id : SessionId) : Prop where
  authUser : ∀ user, (s.sessions id).authUser = some user → s.Has user
  pendingUser : ∀ pending, (s.sessions id).pendingUser = some pending → s.Expects pending

/-- Every user has a password that is long enough. -/
def Site.LongPasswords (crates : WebCrates) (s : Site) : Prop :=
  ∀ row ∈ s.accounts.users.rows, crates.Sturdy row.passwordHash

/-- Users and tokens last, events stay in the audit log, a session that names nobody or a user with
a row still does so, and passwords are still long. -/
structure Site.Evolves (crates : WebCrates) (s s' : Site) : Prop where
  users : s.accounts.users.Persists User.Lasts s'.accounts.users
  tokens : s.accounts.tokens.Persists ApiToken.Lasts s'.accounts.tokens
  audit : s.accounts.audit <+: s'.accounts.audit
  identified : ∀ id, s.Identified id → s'.Identified id
  passwords : s.LongPasswords crates → s'.LongPasswords crates

section Evolution

variable {crates : WebCrates} {s s' s'' : Site}

theorem Site.Has.later {user : AuthUser} (huser : s.Has user)
    (h : s.accounts.users.Persists User.Lasts s'.accounts.users) : s'.Has user := by
  obtain ⟨row, hrow, rfl⟩ := huser
  obtain ⟨row', hrow', hlasts⟩ := h _ row hrow
  refine ⟨row', hrow', ?_⟩
  show (⟨row'.identity.id, row'.identity.username, row'.identity.role⟩ : AuthUser) = _
  rw [hlasts]
  rfl

theorem Site.Expects.later {pending : PendingUser} (hpending : s.Expects pending)
    (h : s.accounts.users.Persists User.Lasts s'.accounts.users) : s'.Expects pending := by
  obtain ⟨row, hrow, rfl⟩ := hpending
  exact ⟨row, hrow.later h, rfl⟩

/-- A row that is found is a row for its user. -/
theorem Site.Has.of_find {id : Id UserMarker} {row : User}
    (h : s.accounts.users.find id = some row) : s.Has (Routes.Auth.authUser row) := by
  obtain rfl : row.id = id := (Table.find_eq_some.mp h).2
  exact ⟨row, h, rfl⟩

namespace Site.Evolves

/-- Only the tables change, and passwords that are new are long enough. -/
theorem of_tables (husers : s.accounts.users.Persists User.Lasts s'.accounts.users)
    (hpasswords : ∀ row' ∈ s'.accounts.users.rows, crates.Sturdy row'.passwordHash ∨
      ∃ row ∈ s.accounts.users.rows, row'.passwordHash = row.passwordHash)
    (htokens : s.accounts.tokens.Persists ApiToken.Lasts s'.accounts.tokens)
    (haudit : s.accounts.audit <+: s'.accounts.audit) (hsessions : s'.sessions = s.sessions) :
    s.Evolves crates s' := by
  refine ⟨husers, htokens, haudit, fun id hidentified => ⟨?_, ?_⟩, ?_⟩
  · intro user huser
    rw [hsessions] at huser
    exact (hidentified.authUser user huser).later husers
  · intro pending hpending
    rw [hsessions] at hpending
    exact (hidentified.pendingUser pending hpending).later husers
  · intro hlong row' hrow'
    rcases hpasswords row' hrow' with hnew | ⟨row, hrow, hsame⟩
    · exact hnew
    · rw [hsame]
      exact hlong row hrow

/-- The users stay as they are. -/
theorem of_kept (husers : s'.accounts.users = s.accounts.users)
    (htokens : s.accounts.tokens.Persists ApiToken.Lasts s'.accounts.tokens)
    (haudit : s.accounts.audit <+: s'.accounts.audit) (hsessions : s'.sessions = s.sessions) :
    s.Evolves crates s' := by
  refine of_tables (husers ▸ .refl User.lasts_refl _) (fun row' hrow' => .inr ⟨row', ?_, rfl⟩)
    htokens haudit hsessions
  rw [husers] at hrow'
  exact hrow'

/-- Neither the users, nor the tokens, nor the audit log change. -/
theorem of_same (husers : s'.accounts.users = s.accounts.users)
    (htokens : s'.accounts.tokens = s.accounts.tokens)
    (haudit : s'.accounts.audit = s.accounts.audit) (hsessions : s'.sessions = s.sessions) :
    s.Evolves crates s' :=
  of_kept husers (htokens ▸ .refl ApiToken.lasts_refl _) (haudit ▸ List.prefix_rfl) hsessions

theorem refl (s : Site) : s.Evolves crates s :=
  of_same rfl rfl rfl rfl

theorem trans (h : s.Evolves crates s') (h' : s'.Evolves crates s'') : s.Evolves crates s'' where
  users := h.users.trans User.lasts_trans h'.users
  tokens := h.tokens.trans ApiToken.lasts_trans h'.tokens
  audit := h.audit.trans h'.audit
  identified id hid := h'.identified id (h.identified id hid)
  passwords hs := h'.passwords (h.passwords hs)

theorem of_run {α : Type} {outage : Outage} {call : SiteCall}
    {effect : Site → Except String α × Site} (h : ∀ s, Evolves crates s (effect s).2) (s : Site) :
    s.Evolves crates (outage.run call effect s).2 := by
  unfold Outage.run
  split
  · exact refl s
  · exact h s

theorem of_write {outage : Outage} {call : SiteCall} {change : Accounts → Except String Accounts}
    (h : ∀ s accounts, change s.accounts = .ok accounts → Evolves crates s { s with accounts })
    (s : Site) : s.Evolves crates (outage.write call change s).2 := by
  refine of_run (fun s => ?_) s
  cases hchange : change s.accounts with
  | ok accounts => exact h s accounts hchange
  | error text => exact refl s

/-- An `UPDATE users` statement that leaves the identity alone. -/
theorem modify_users (s : Site) {f : User → User} (hid : ∀ user, (f user).id = user.id)
    (hname : ∀ user, (f user).username = user.username)
    (hemail : ∀ user, (f user).email = user.email) (hlasts : ∀ user : User, user.Lasts (f user))
    (hpassword : ∀ user, crates.Sturdy (f user).passwordHash ∨
      (f user).passwordHash = user.passwordHash) :
    s.Evolves crates { s with accounts := s.accounts.modifyUsers f hid hname hemail } := by
  refine of_tables (.modify hid hlasts) (fun row' hrow' => ?_) (.refl ApiToken.lasts_refl _)
    List.prefix_rfl rfl
  obtain ⟨row, hrow, rfl⟩ := List.mem_map.mp hrow'
  exact (hpassword row).imp_right fun hsame => ⟨row, hrow, hsame⟩

/-- A user with a long password is inserted. -/
theorem insert_user {row : User} {accounts : Accounts} (hrow : crates.Sturdy row.passwordHash)
    (h : s.accounts.insertUser row = .ok accounts) : s.Evolves crates { s with accounts } := by
  obtain ⟨-, hrows, htokens, -⟩ := Accounts.insert_user_ok h
  have haudit : accounts.audit = s.accounts.audit := by
    unfold Accounts.insertUser at h
    split_ifs at h
    obtain rfl := Except.ok.inj h
    rfl
  refine of_tables (.of_append User.lasts_refl hrows) (fun row' hrow' => ?_)
    (htokens ▸ .refl ApiToken.lasts_refl _) (haudit ▸ List.prefix_rfl) rfl
  have hmem : row' ∈ s.accounts.users.rows ++ [row] := hrows ▸ hrow'
  rcases List.mem_append.mp hmem with hold | hnew
  · exact .inr ⟨row', hold, rfl⟩
  · rw [List.mem_singleton.mp hnew]
    exact .inl hrow

/-- A session is written to, and if a user is written into it, the user has a row. -/
theorem session (s : Site) (id : SessionId) (key : SessionKey) (value : Option key.Value)
    (hauth : ∀ user, (Session.fresh.set key value).authUser = some user → s.Has user)
    (hpending : ∀ pending, (Session.fresh.set key value).pendingUser = some pending →
      s.Expects pending) :
    s.Evolves crates
      { s with sessions := Function.update s.sessions id ((s.sessions id).set key value) } where
  users := .refl User.lasts_refl _
  tokens := .refl ApiToken.lasts_refl _
  audit := List.prefix_rfl
  passwords hlong := hlong
  identified other hidentified := by
    by_cases hother : other = id
    · subst hother
      have hwritten : (Function.update s.sessions other ((s.sessions other).set key value)) other =
          (s.sessions other).set key value := Function.update_self ..
      constructor
      · intro user huser
        change (Function.update s.sessions other _ other).authUser = some user at huser
        rw [hwritten] at huser
        -- A value under another key leaves the user of the session as it was.
        cases key with
        | authUser => exact hauth user huser
        | pendingUser | totpSetup | flash => exact hidentified.authUser user huser
      · intro pending huser
        change (Function.update s.sessions other _ other).pendingUser = some pending at huser
        rw [hwritten] at huser
        cases key with
        | pendingUser => exact hpending pending huser
        | authUser | totpSetup | flash => exact hidentified.pendingUser pending huser
    · -- the other sessions are as they were
      have hkept : (Function.update s.sessions id ((s.sessions id).set key value)) other =
          s.sessions other := Function.update_of_ne hother ..
      constructor
      · intro user huser
        change (Function.update s.sessions id _ other).authUser = some user at huser
        rw [hkept] at huser
        exact hidentified.authUser user huser
      · intro pending huser
        change (Function.update s.sessions id _ other).pendingUser = some pending at huser
        rw [hkept] at huser
        exact hidentified.pendingUser pending huser

end Site.Evolves

end Evolution

/-! ## Calls -/

section Calls

variable (crates : WebCrates)

/-- A user that is written into a session has a row, and a new user a long password. -/
def SiteCall.Truthful : SiteCall → Site → Prop
  | insertSession _ .authUser user, s => s.Has user
  | insertSession _ .pendingUser pending, s => s.Expects pending
  | insertUser row, _ => crates.Sturdy row.passwordHash
  | _, _ => True

variable {crates}

/-- How the site evolves by a truthful call. -/
theorem serve_evolves (outage : Outage) {c : SiteCall} {s : Site} (h : c.Truthful crates s) :
    s.Evolves crates (serve outage c s).2 := by
  cases c with
  | insertUser row => exact .of_write (fun s accounts hok => .insert_user h hok) s
  | updateTotp id enabled secret now =>
      refine .of_write (fun s accounts hok => ?_) s
      obtain rfl := Except.ok.inj hok
      refine .modify_users s _ _ _ (fun user => ?_) fun user => .inr ?_
      · unfold Accounts.setTotp
        split <;> rfl
      · unfold Accounts.setTotp
        split <;> rfl
  | touchLastLogin id now =>
      refine .of_write (fun s accounts hok => ?_) s
      obtain rfl := Except.ok.inj hok
      refine .modify_users s _ _ _ (fun user => ?_) fun user => .inr ?_
      · unfold Accounts.setLastLogin
        split <;> rfl
      · unfold Accounts.setLastLogin
        split <;> rfl
  | insertToken row =>
      refine .of_write (fun s accounts hok => ?_) s
      obtain ⟨-, -, hrows, husers, -⟩ := Accounts.insert_token_ok hok
      refine .of_kept husers (.of_append ApiToken.lasts_refl hrows) ?_ rfl
      unfold Accounts.insertToken at hok
      split_ifs at hok
      obtain rfl := Except.ok.inj hok
      exact List.prefix_rfl
  | revokeToken id owner now =>
      refine .of_run (fun s => .of_kept rfl ?_ List.prefix_rfl rfl) s
      refine .modify (Accounts.set_revoked_id id owner now) fun token => ?_
      unfold Accounts.setRevoked
      split
      -- Only a token that has not been revoked before is changed.
      next hrevocable =>
        simp only [Accounts.revocable, Bool.and_eq_true] at hrevocable
        exact .inr ⟨Option.isNone_iff_eq_none.mp hrevocable.2, now, rfl⟩
      next => exact token.lasts_refl
  | upsertSetting key value actor now =>
      refine .of_write (fun s accounts hok => ?_) s
      unfold Accounts.upsertSetting at hok
      split at hok
      · obtain rfl := Except.ok.inj hok
        exact .of_same rfl rfl rfl rfl
      · cases hok
  | insertAudit event =>
      refine .of_write (fun s accounts hok => ?_) s
      unfold Accounts.insertAudit at hok
      split at hok
      · obtain rfl := Except.ok.inj hok
        exact .of_kept rfl (.refl ApiToken.lasts_refl _) (List.prefix_append _ _) rfl
      · cases hok
  | recordFailure ip maxAttempts lockout =>
      have hkeep {τ : Type} (part : Site → τ) (hpart : ∀ s bans, part { s with bans } = part s) :
          part (serve outage (.recordFailure ip maxAttempts lockout) s).2 = part s :=
        Outage.record_failure_frame part hpart s
      exact .of_same (hkeep (·.accounts.users) fun _ _ => rfl)
        (hkeep (·.accounts.tokens) fun _ _ => rfl) (hkeep (·.accounts.audit) fun _ _ => rfl)
        (hkeep (·.sessions) fun _ _ => rfl)
  | clearBan ip => exact .of_run (fun s => .of_same rfl rfl rfl rfl) s
  | seriesTotals since => exact .of_run (fun s => .refl s) s
  | insertSession id key value =>
      unfold serve Outage.session Outage.run
      dsimp only
      split
      · exact .refl s
      · refine .session s id key (some value) ?_ ?_
        · intro user huser
          cases key with
          | authUser =>
              obtain rfl := Option.some.inj huser
              exact h
          | pendingUser | totpSetup | flash => cases huser
        · intro pending hpending
          cases key with
          | pendingUser =>
              obtain rfl := Option.some.inj hpending
              exact h
          | authUser | totpSetup | flash => cases hpending
  | removeSession id key =>
      refine .of_run (fun s => .session s id key none ?_ ?_) s
      · intro user huser
        cases key <;> cases huser
      · intro pending hpending
        cases key <;> cases hpending
  | _ => exact .of_same rfl rfl rfl rfl

/-- How the site evolves by a truthful call at a moment. -/
theorem Moment.serve_evolves (m : Moment) (c : SiteCall) (s : Site) (h : c.Truthful crates s) :
    s.Evolves crates (m.serve c s).2 := by
  have hseen : s.Evolves crates (s.seen m) := .of_same rfl rfl rfl rfl
  refine hseen.trans ?_
  cases c with
  | allSettings => exact .refl _
  | applyOverrides overrides => exact .of_same rfl rfl rfl rfl
  | insertUser row => exact Wireforge.serve_evolves m.outage h
  | insertSession id key value =>
      refine Wireforge.serve_evolves m.outage ?_
      cases key <;> exact h
  | _ => exact Wireforge.serve_evolves m.outage trivial

/-- Sessions get users that have rows, users get long passwords, and rows last. -/
def callers (crates : WebCrates) : Contract Moment.serve where
  good := SiteCall.Truthful crates
  evolves := Site.Evolves crates
  refl := .refl
  trans _ _ _ := .trans
  step := Moment.serve_evolves

end Calls

end Wireforge
