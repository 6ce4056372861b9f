import Wireforge.Front.Permitted

/-!
# Confined programs

On behalf of a user a handler may change rows of that user only: the second factor and the tokens.
What it records or configures names the user, and of the sessions it writes to its own, without
logging anyone in or out. A program is confined if all its calls are. `Confined.keeps` says what a
confined program leaves of the site.
-/

namespace Wireforge

open Effect

/-! ## Calls -/

/-- The keys that the pages of a logged-in user write to. -/
def SessionKey.Scratch : SessionKey → Prop
  | totpSetup | flash => True
  | _ => False

/-- The calls that may be issued on behalf of a user, in a session if there is one. -/
def SiteCall.Confined (session : Option SessionId) (user : Id UserMarker) : SiteCall → Prop
  | insertUser _ | touchLastLogin _ _ | recordFailure _ _ _ | clearBan _ => False
  | updateTotp id _ _ _ => id = user
  | insertToken row => row.userId = user
  | revokeToken _ owner _ => owner = user
  | upsertSetting _ _ actor _ => actor = some user
  | insertAudit event => event.actorUserId = some user
  | insertSession id key _ | removeSession id key => session = some id ∧ key.Scratch
  | _ => True

/-! ## What confined calls leave -/

/-- The row apart from the second factor. -/
def User.apartFromTotp (row : User) : User :=
  { row with totpEnabled := false, totpSecretEncrypted := none, updatedAt := ⟨0⟩ }

/-- The users that a session has and waits for. -/
def Session.users (session : Session) : Option AuthUser × Option PendingUser :=
  (session.authUser, session.pendingUser)

/-- What a request on behalf of a user, in a session if there is one, leaves of the site: the rows
and tokens of the others, their sessions, and who is logged in. Whatever it adds to the audit log
and to the settings names the user. -/
structure ConfinedTo (session : Option SessionId) (user : Id UserMarker) (s s' : Site) : Prop where
  identities : s'.accounts.users.rows.map User.apartFromTotp =
    s.accounts.users.rows.map User.apartFromTotp
  others : ∀ id, id ≠ user → s'.accounts.users.find id = s.accounts.users.find id
  tokens : s'.accounts.tokens.rows.filter (·.userId ≠ user) =
    s.accounts.tokens.rows.filter (·.userId ≠ user)
  settings : ∀ key, s'.accounts.settings.find key = s.accounts.settings.find key ∨
    ∃ row, s'.accounts.settings.find key = some row ∧ row.updatedBy = some user
  audit : ∃ events, s'.accounts.audit = s.accounts.audit ++ events ∧
    ∀ event ∈ events, event.actorUserId = some user
  bans : s'.bans = s.bans
  sessions : ∀ id, some id ≠ session → s'.sessions id = s.sessions id
  loggedIn : ∀ id, (s'.sessions id).users = (s.sessions id).users

variable {session : Option SessionId} {user : Id UserMarker} {s s' s'' : Site}

namespace ConfinedTo

theorem refl (s : Site) : ConfinedTo session user s s where
  identities := rfl
  others _ _ := rfl
  tokens := rfl
  settings _ := .inl rfl
  audit := ⟨[], (List.append_nil _).symm, fun _ h => absurd h List.not_mem_nil⟩
  bans := rfl
  sessions _ _ := rfl
  loggedIn _ := rfl

theorem trans (h : ConfinedTo session user s s') (h' : ConfinedTo session user s' s'') :
    ConfinedTo session user s s'' where
  identities := h'.identities.trans h.identities
  others id hid := (h'.others id hid).trans (h.others id hid)
  tokens := h'.tokens.trans h.tokens
  settings key := by
    rcases h'.settings key with hkept | hnew
    · rw [hkept]
      exact h.settings key
    · exact .inr hnew
  audit := by
    obtain ⟨events, happended, hactor⟩ := h.audit
    obtain ⟨events', happended', hactor'⟩ := h'.audit
    refine ⟨events ++ events', by rw [happended', happended, List.append_assoc], ?_⟩
    intro event hevent
    rcases List.mem_append.mp hevent with hevent | hevent
    · exact hactor event hevent
    · exact hactor' event hevent
  bans := h'.bans.trans h.bans
  sessions id hid := (h'.sessions id hid).trans (h.sessions id hid)
  loggedIn id := (h'.loggedIn id).trans (h.loggedIn id)

/-- Nothing has changed that a confined call could do harm to. -/
theorem of_accounts (haccounts : s'.accounts = s.accounts) (hbans : s'.bans = s.bans)
    (hsessions : s'.sessions = s.sessions) : ConfinedTo session user s s' where
  identities := by rw [haccounts]
  others _ _ := by rw [haccounts]
  tokens := by rw [haccounts]
  settings _ := .inl (by rw [haccounts])
  audit := ⟨[], by rw [haccounts, List.append_nil], fun _ h => absurd h List.not_mem_nil⟩
  bans := hbans
  sessions _ _ := by rw [hsessions]
  loggedIn _ := by rw [hsessions]

/-- Setting the second factor of the user. -/
theorem totp (s : Site) (enabled : Bool) (secret : Option ByteArray) (now : DateTime) :
    ConfinedTo session user s
      { s with accounts := s.accounts.updateTotp user enabled secret now } where
  identities := by
    show (s.accounts.users.rows.map (Accounts.setTotp user enabled secret now)).map _ = _
    rw [List.map_map]
    refine List.map_congr_left fun row _ => ?_
    unfold Function.comp Accounts.setTotp
    split <;> rfl
  others id hid := by
    have hkey : ∀ row, (Accounts.setTotp user enabled secret now row).id = row.id := by
      intro row
      unfold Accounts.setTotp
      split <;> rfl
    show (s.accounts.users.modify (Accounts.setTotp user enabled secret now) hkey).find id = _
    rw [Table.find_modify]
    cases hrow : s.accounts.users.find id with
    | none => rfl
    | some row =>
        have hother : row.id ≠ user := (Table.find_eq_some.mp hrow).2 ▸ hid
        rw [Option.map_some, Accounts.setTotp, if_neg hother]
  tokens := rfl
  settings _ := .inl rfl
  audit := ⟨[], (List.append_nil _).symm, fun _ h => absurd h List.not_mem_nil⟩
  bans := rfl
  sessions _ _ := rfl
  loggedIn _ := rfl

/-- Issuing a token to the user. -/
theorem issue {row : ApiToken} {accounts : Accounts} (hrow : row.userId = user)
    (h : s.accounts.insertToken row = .ok accounts) :
    ConfinedTo session user s { s with accounts } := by
  unfold Accounts.insertToken at h
  split_ifs at h
  obtain rfl := Except.ok.inj h
  refine { refl s with tokens := ?_ }
  show (s.accounts.tokens.rows ++ [row]).filter _ = _
  rw [List.filter_append, List.filter_singleton]
  simp [hrow]

/-- Revoking a token of the user. -/
theorem revoke (s : Site) (id : Id ApiTokenMarker) (now : DateTime) :
    ConfinedTo session user s
      { s with accounts := (s.accounts.revokeToken id user now).2 } := by
  refine { refl s with tokens := ?_ }
  show (s.accounts.tokens.rows.map (Accounts.setRevoked id user now)).filter _ = _
  -- The statement asks for the owner, so a token of anybody else is not revocable.
  have hsame : ∀ token ∈ s.accounts.tokens.rows.filter (·.userId ≠ user),
      Accounts.setRevoked id user now token = token := by
    intro token htoken
    have hother : token.userId ≠ user := by simpa using (List.mem_filter.mp htoken).2
    simp [Accounts.setRevoked, Accounts.revocable, hother]
  rw [List.filter_map]
  have hkey : (fun token : ApiToken => decide (token.userId ≠ user)) ∘
      Accounts.setRevoked id user now = fun token => decide (token.userId ≠ user) := by
    funext token
    rw [Function.comp_apply, Accounts.set_revoked_user]
  rw [hkey, List.map_congr_left hsame, List.map_id']

/-- Writing a setting in the name of the user. -/
theorem configure {key value : String} {now : DateTime} {accounts : Accounts}
    (h : s.accounts.upsertSetting key value (some user) now = .ok accounts) :
    ConfinedTo session user s { s with accounts } := by
  unfold Accounts.upsertSetting at h
  split at h
  · obtain rfl := Except.ok.inj h
    refine { refl s with settings := fun other => ?_ }
    simp only [Table.find_upsert]
    split
    · exact .inr ⟨_, rfl, rfl⟩
    · exact .inl rfl
  · cases h

/-- Recording an event of the user. -/
theorem record {event : AuditEvent} {accounts : Accounts} (hevent : event.actorUserId = some user)
    (h : s.accounts.insertAudit event = .ok accounts) :
    ConfinedTo session user s { s with accounts } := by
  unfold Accounts.insertAudit at h
  split at h
  · obtain rfl := Except.ok.inj h
    refine { refl s with audit := ⟨[event], rfl, fun other hother => ?_⟩ }
    rw [List.mem_singleton.mp hother]
    exact hevent
  · cases h

/-- Writing to the session, without logging anyone in or out. -/
theorem scribble {id : SessionId} {key : SessionKey} (hkey : key.Scratch)
    (value : Option key.Value) (s : Site) :
    ConfinedTo (some id) user s
      { s with sessions := Function.update s.sessions id ((s.sessions id).set key value) } where
  identities := rfl
  others _ _ := rfl
  tokens := rfl
  settings _ := .inl rfl
  audit := ⟨[], (List.append_nil _).symm, fun _ h => absurd h List.not_mem_nil⟩
  bans := rfl
  sessions other hother := Function.update_of_ne (fun heq => hother (congrArg some heq)) _ _
  loggedIn other := by
    show (Function.update s.sessions id _ other).users = _
    by_cases hid : other = id
    · subst hid
      rw [Function.update_self]
      -- Who is logged in, or waits for a second factor, stands under other keys.
      cases key with
      | authUser | pendingUser => exact hkey.elim
      | totpSetup | flash => rfl
    · rw [Function.update_of_ne hid]

end ConfinedTo

/-- What a call that may fail does is confined if its effect is. -/
theorem ConfinedTo.of_run {α : Type} {outage : Outage} {call : SiteCall}
    {effect : Site → Except String α × Site}
    (h : ∀ s, ConfinedTo session user s (effect s).2) (s : Site) :
    ConfinedTo session user s (outage.run call effect s).2 := by
  unfold Outage.run
  split
  · exact .refl s
  · exact h s

theorem ConfinedTo.of_write {outage : Outage} {call : SiteCall}
    {change : Accounts → Except String Accounts}
    (h : ∀ s accounts, change s.accounts = .ok accounts →
      ConfinedTo session user s { s with accounts }) (s : Site) :
    ConfinedTo session user s (outage.write call change s).2 := by
  refine of_run (fun s => ?_) s
  cases hchange : change s.accounts with
  | ok accounts => exact h s accounts hchange
  | error text => exact .refl s

/-- What a confined call leaves. -/
theorem serve_confined (outage : Outage) {c : SiteCall} (h : c.Confined session user) (s : Site) :
    ConfinedTo session user s (serve outage c s).2 := by
  cases c with
  | insertUser | touchLastLogin | recordFailure | clearBan => exact h.elim
  | updateTotp id enabled secret now =>
      obtain rfl : id = user := h
      refine .of_write (fun s accounts hok => ?_) s
      obtain rfl := Except.ok.inj hok
      exact .totp s enabled secret now
  | insertToken row => exact .of_write (fun s accounts hok => .issue h hok) s
  | revokeToken id owner now =>
      obtain rfl : owner = user := h
      exact .of_run (fun s => .revoke s id now) s
  | upsertSetting key value actor now =>
      obtain rfl : actor = some user := h
      exact .of_write (fun s accounts hok => .configure hok) s
  | insertAudit event => exact .of_write (fun s accounts hok => .record h hok) s
  | insertSession id key value =>
      obtain ⟨rfl, hkey⟩ := h
      exact .of_run (.scribble hkey (some value)) s
  | removeSession id key =>
      obtain ⟨rfl, hkey⟩ := h
      exact .of_run (.scribble hkey none) s
  | seriesTotals since => exact .of_run (fun s => .refl s) s
  | _ => exact .of_accounts rfl rfl rfl

/-! ## Programs -/

section Programs

variable {α β ε ε' : Type}

/-- All calls of the program may be issued on behalf of the user. -/
structure Confined (session : Option SessionId) (user : Id UserMarker)
    (program : Fallible SiteCall SiteCall.Reply ε α) : Prop where
  issues : Issues (SiteCall.Confined session user) program.run

namespace Confined

variable {program : Fallible SiteCall SiteCall.Reply ε α}

theorem pure (value : α) :
    Confined session user (Pure.pure value : Fallible SiteCall SiteCall.Reply ε α) :=
  ⟨trivial⟩

theorem throw (e : ε) :
    Confined session user (MonadExcept.throw e : Fallible SiteCall SiteCall.Reply ε α) :=
  ⟨trivial⟩

theorem bind {next : α → Fallible SiteCall SiteCall.Reply ε β} (h : Confined session user program)
    (hnext : ∀ value, Confined session user (next value)) :
    Confined session user (program >>= next) :=
  ⟨Issues.run_bind h.issues fun value => (hnext value).issues⟩

theorem ite {c : Prop} [Decidable c] {other : Fallible SiteCall SiteCall.Reply ε α}
    (h : Confined session user program) (hother : Confined session user other) :
    Confined session user (if c then program else other) :=
  ⟨Issues.run_ite h.issues hother.issues⟩

theorem attempt (h : Confined session user program) :
    Confined session user
      (Effect.attempt program : Fallible SiteCall SiteCall.Reply ε' (Except ε α)) :=
  ⟨Issues.run_attempt h.issues⟩

theorem always {c : SiteCall} (h : c.Confined session user) :
    Confined session user
      (Effect.always c.request : Fallible SiteCall SiteCall.Reply ε c.Reply) :=
  ⟨Issues.run_always (Issues.request h)⟩

theorem or_else {rename : ε' → ε} {calls : Program SiteCall SiteCall.Reply (Except ε' α)}
    (h : Issues (SiteCall.Confined session user) calls) :
    Confined session user (orElse rename calls) :=
  ⟨Issues.run_or_else h⟩

/-- What a confined program leaves. -/
theorem keeps (h : Confined session user program) (outage : Outage) (s : Site) :
    ConfinedTo session user s (eval (serve outage) program s).2 :=
  h.issues.keeps (fun _ hc s' hinv => hinv.trans (serve_confined outage hc s')) (.refl s)

end Confined

/-! ## Building blocks -/

theorem Web.repo_confined {program : Repo α} (h : Confined session user program) :
    Confined session user (Web.repo program) :=
  .or_else h.issues

theorem Api.repo_confined {program : Repo α} (h : Confined session user program) :
    Confined session user (Api.repo program) :=
  .or_else h.issues

/-- The operations of the services touch neither accounts nor sessions. -/
theorem Web.host_confined (program : App α) : Confined session user (Web.host program) := by
  have hall : Issues (fun _ => True) program.run := Issues.of_forall (fun _ => trivial) _
  exact ⟨Issues.map (Issues.embed hall fun _ _ => trivial)⟩

theorem Web.service_confined (program : App α) : Confined session user (Web.service program) :=
  Web.repo_confined (Web.host_confined program)

theorem Api.service_confined (program : App α) : Confined session user (Api.service program) :=
  Api.repo_confined (Web.host_confined program)

theorem Web.of_except_confined (result : Except WebError α) :
    Confined session user (Web.ofExcept result) := by
  cases result <;> exact ⟨trivial⟩

theorem Api.of_except_confined (result : Except ApiError α) :
    Confined session user (Api.ofExcept result) := by
  cases result <;> exact ⟨trivial⟩

theorem Web.or_fail_confined (e : WebError) (value : Option α) :
    Confined session user (Web.orFail e value) :=
  ⟨Web.or_fail_issues e value⟩

theorem Api.or_fail_confined (e : ApiError) (value : Option α) :
    Confined session user (Api.orFail e value) := by
  cases value <;> exact ⟨trivial⟩

theorem Web.list_confined (program : App (List α)) :
    Confined session user (Web.listOrEmpty program) :=
  (Web.host_confined program).attempt.bind fun _ => .pure _

theorem Web.parse_id_confined {marker : Type} (crates : WebCrates) (path : String) :
    Confined session user (Web.parseId crates path : Web (Id marker)) :=
  (Web.or_fail_confined _ _).bind fun _ => .pure _

theorem AuthUser.require_mutate_confined (caller : AuthUser) :
    Confined session user caller.requireMutate :=
  .ite (.pure ()) (.throw _)

end Programs

theorem site_now_confined : Confined session user siteNow :=
  ⟨site_now_issues trivial⟩

/-- An event that names the user. -/
theorem Web.audit_confined {ε : Type} (user : Id UserMarker) (ip : Option String)
    (action : AuditAction) (resourceType resourceId : Option String)
    (metadata : Option Json.Object) :
    Confined session user
      (Web.auditRecord (ε := ε) (some user) ip action resourceType resourceId metadata) :=
  ⟨Issues.run_ignore (Issues.run_bind (site_now_issues trivial) fun _ =>
    Issues.run_or_else (Issues.request rfl))⟩

theorem Web.settings_confined : Confined session user Web.settingsSnapshot :=
  .always (c := .readSettings) trivial

theorem Web.endpoint_confined : Confined session user Web.endpoint :=
  Web.settings_confined.bind fun _ => .pure _

section Session

variable (id : SessionId)

theorem Web.session_insert_confined (key : SessionKey) (hkey : key.Scratch) (value : key.Value) :
    Confined (some id) user (Web.sessionInsert id key value) :=
  ⟨Issues.run_ignore (Issues.run_or_else (Issues.request ⟨rfl, hkey⟩))⟩

theorem Web.session_remove_confined (key : SessionKey) (hkey : key.Scratch) :
    Confined (some id) user (Web.sessionRemove id key) :=
  ⟨Issues.run_ignore (Issues.run_or_else (Issues.request ⟨rfl, hkey⟩))⟩

theorem Web.session_get_confined (key : SessionKey) :
    Confined session user (Web.sessionGet id key) :=
  ⟨Web.session_get_issues trivial⟩

theorem Web.set_flash_confined (flash : Flash) : Confined (some id) user (Web.setFlash id flash) :=
  Web.session_insert_confined id .flash trivial flash

theorem Web.take_flash_confined : Confined (some id) user (Web.takeFlash id) :=
  (Web.session_get_confined id .flash).bind fun _ =>
    .ite ((Web.session_remove_confined id .flash trivial).bind fun _ => .pure _) (.pure _)

end Session

end Wireforge
