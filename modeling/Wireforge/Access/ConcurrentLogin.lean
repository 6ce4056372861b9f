import Wireforge.Access.Lockout
import Wireforge.Lib.Observed
import Wireforge.Site.Moments
import Wireforge.Web.Auth
import Wireforge.Web.ContextSpec

/-!
# Concurrent logins

A login looks the ban of its IP up, verifies the password and records the failure in statements of
its own. When the requests of one IP overlap, all of them may pass the first check before the first
failure is recorded: `lockout_outrun`. `logins_bounded` shows that this is the only way to verify
more passwords than the policy allows before the first lockout has expired.
-/

namespace Wireforge

open Effect SqliteBanRepository

/-- How far a login with a form has come. A login is astray when its password is not refused. -/
inductive LoginPhase where
  | arriving (form : LoginForm)
  | found (form : LoginForm) (ban : IpBan)
  | free (form : LoginForm)
  | refused
  | limited (limits : RuntimeSettings)
  | finished
  | astray

open LoginPhase

/-- A login looks the ban up, then the user, and records a failure under the live settings. -/
def login (crates : WebCrates) (ip : String) :
    Protocol SiteCall SiteCall.Reply LoginPhase where
  allowed phase c :=
    match phase with
    | arriving _ => c = .findBan ip
    | found _ _ => c = .host .utcNow
    | free form => c = .findUserByName form.username
    | refused => c = .readSettings
    | limited limits =>
        c = .recordFailure ip limits.loginMaxAttempts (.fromSecs limits.loginLockoutSecs)
    | finished => c = .host .utcNow ∨ ∃ event, c = .insertAudit event
    | astray => True
  next phase c reply :=
    match phase with
    | arriving form =>
        match c, reply with
        | .findBan _, .ok none => free form
        | .findBan _, .ok (some ban) => found form ban
        | _, _ => finished
    | found form ban =>
        match c, reply with
        | .host .utcNow, now => if ban.isActive now then finished else free form
        | _, _ => finished
    | free form =>
        match c, reply with
        | .findUserByName _, .ok (some user) =>
            match crates.verifyPassword form.password user.passwordHash with
            | .ok false => refused
            | _ => astray
        | .findUserByName _, .ok none => refused
        | _, _ => finished
    | refused =>
        match c, reply with
        | .readSettings, limits => limited limits
        | _, _ => finished
    | limited _ => finished
    | finished => finished
    | astray => astray

variable {crates : WebCrates} {ip : String} {phase : LoginPhase}

/-! ## A request -/

/-- A program that has gone astray may do anything. -/
theorem astray_follows {α : Type} (program : Program SiteCall SiteCall.Reply α) :
    Follows (login crates ip) (fun _ _ => True) astray program := by
  induction program with
  | done value => trivial
  | call c next ih => exact ⟨trivial, fun reply => ih reply⟩

/-- A request that has finished records no more than an event. -/
theorem audit_over {ε : Type} (actor : Option (Id UserMarker)) (actorIp : Option String)
    (action : AuditAction) (resourceType resourceId : Option String)
    (metadata : Option Json.Object) :
    Silent (ε := ε) (login crates ip) finished
      (Web.auditRecord actor actorIp action resourceType resourceId metadata) :=
  .of_issues (Web.audit_record_issues ⟨.inl rfl, fun _ => rfl⟩
    (fun event => ⟨.inr ⟨event, rfl⟩, fun _ => rfl⟩) _ _ _ _ _ _)

/-- An IP is locked out if the ban that was found is active. -/
theorem locked_out_follows {post : LoginPhase → Except (Stop WebError) Bool → Prop}
    {form : LoginForm} (hfree : post (free form) (.ok false)) (hlocked : post finished (.ok true))
    (herror : ∀ e, post finished (.error e)) :
    Follows (login crates ip) post (arriving form) (Routes.Auth.lockedOut ip).run := by
  refine Follows.run_bind.mpr (Follows.run_or_else.mpr (Follows.run_or_else.mpr ?_))
  refine ⟨rfl, fun reply => ?_⟩
  match reply with
  | .ok none => exact hfree
  | .error text => exact herror _
  | .ok (some ban) =>
      refine Follows.run_bind.mpr (Follows.run_or_else.mpr (Follows.run_always.mpr ?_))
      refine ⟨rfl, fun now => ?_⟩
      show post (if ban.isActive now then finished else free form) (.ok (ban.isActive now))
      cases ban.isActive now with
      | true => exact hlocked
      | false => exact hfree

/-- A password that does not verify leads to a failure. -/
theorem login_next_refused {form : LoginForm} {user : User}
    (h : crates.verifyPassword form.password user.passwordHash = .ok false) :
    (login crates ip).next (free form) (.findUserByName form.username) (.ok (some user)) =
      refused := by
  simp only [login, h]

/-- A password that verifies, or cannot be verified, leads astray. -/
theorem login_next_astray {form : LoginForm} {user : User}
    (h : crates.verifyPassword form.password user.passwordHash ≠ .ok false) :
    (login crates ip).next (free form) (.findUserByName form.username) (.ok (some user)) =
      astray := by
  simp only [login]

/-- A password that is refused leads to a failure; any other outcome leads astray or ends the
request. -/
theorem authenticate_follows {post : LoginPhase → Except CoreError User → Prop}
    {form : LoginForm} (hrefused : post refused (.error .invalidCredentials))
    (hastray : ∀ result, post astray result)
    (herror : ∀ text, post finished (.error (mapErr text))) :
    Follows (login crates ip) post (free form)
      (AuthService.authenticatePassword crates form.username form.password).run := by
  refine Follows.run_bind.mpr (Follows.run_or_else.mpr ⟨rfl, fun reply => ?_⟩)
  match reply with
  | .error text => exact herror text
  | .ok none => exact hrefused
  | .ok (some user) =>
      show Follows _ _ ((login crates ip).next (free form) (.findUserByName form.username)
        (.ok (some user))) _
      cases hverify : crates.verifyPassword form.password user.passwordHash with
      | error text =>
          rw [login_next_astray fun h => nomatch hverify.symm.trans h]
          simp only [Effect.Follows, AuthService.verifyPassword, hverify, Except.mapError]
          exact hastray _
      | ok right =>
          simp only [Effect.Follows, AuthService.verifyPassword, hverify, Except.mapError]
          cases right with
          | false =>
              rw [login_next_refused hverify]
              exact hrefused
          | true =>
              rw [login_next_astray fun h => nomatch hverify.symm.trans h]
              exact hastray _

/-- A refused password is recorded under the live settings. -/
theorem password_refused_follows (form : LoginForm) :
    Follows (login crates ip) (fun _ _ => True) refused
      (Routes.Auth.passwordRefused ip form).run := by
  refine Follows.run_bind.mpr (Follows.run_always.mpr ⟨rfl, fun limits => ?_⟩)
  refine Follows.run_bind.mpr (Follows.run_bind.mpr (Follows.run_or_else.mpr ?_))
  refine ⟨rfl, fun reply => ?_⟩
  cases reply with
  | error panic => trivial
  | ok result =>
      refine Follows.run_bind.mpr ((audit_over _ _ _ _ _ _).follows fun result => ?_)
      cases result <;> trivial

theorem login_submit_follows (session : SessionId) (form : LoginForm) :
    Follows (login crates ip) (fun _ _ => True) (arriving form)
      (Routes.Auth.loginSubmit crates session ip form).run := by
  refine Follows.run_bind.mpr (locked_out_follows ?_ ?_ fun e => trivial)
  · show Follows _ _ (free form)
      (attempt (AuthService.authenticatePassword crates form.username form.password) >>= _).run
    refine Follows.run_bind.mpr (Follows.run_attempt.mpr ?_)
    refine authenticate_follows (password_refused_follows form) (fun result => ?_) fun text => ?_
    · exact astray_follows _
    · trivial
  · refine Follows.run_bind.mpr ((audit_over _ _ _ _ _ _).follows fun result => ?_)
    cases result <;> trivial

/-! ## A pool of requests -/

/-- Requests that are handled at the same time. -/
abbrev LoginRequests : Type := Pool SiteCall SiteCall.Reply Site Unit

/-- The requests of an IP as they arrive. -/
def loginRequests (crates : WebCrates) (ip : String) (s : Site)
    (requests : List (SessionId × LoginForm)) : LoginRequests :=
  ⟨requests.map fun request =>
    (fun _ => ()) <$> (Routes.Auth.loginSubmit crates request.1 ip request.2).run, s⟩

/-- What has been noted of the requests. `stale` holds of a request when a failure has been recorded
since it looked the ban up, and `unrecorded` lists the requests whose password has been verified and
whose failure has not been recorded. `verified` counts the passwords verified before the first
lockout has expired. -/
structure LoginNotes where
  stale : Nat → Bool
  unrecorded : List Nat
  verified : Nat
  lockedUntil : Option DateTime
  expired : Bool

/-- Nothing has been noted. -/
def LoginNotes.none : LoginNotes := ⟨fun _ => false, [], 0, .none, false⟩

/-- The call leads to the verification of a password. -/
def verifies (m : Moment) (s : Site) : SiteCall → Bool
  | .findUserByName username =>
      (m.outage.error (.findUserByName username)).isNone &&
        (s.accounts.findUserByName username).isSome
  | _ => false

/-- The row that the call commits. -/
def commits (m : Moment) (s : Site) : SiteCall → Option IpBan
  | .recordFailure ip maxAttempts lockout =>
      match m.outage.error (.recordFailure ip maxAttempts lockout) with
      | some _ => .none
      | .none => (nextBan (find s.bans ip) ip maxAttempts lockout m.env.now).toOption
  | _ => .none

/-- The call looks a ban up. -/
def SiteCall.looksUp : SiteCall → Bool
  | .findBan _ => true
  | _ => false

namespace LoginNotes

/-- The first lockout is over when its end has come. -/
def tick (r : LoginNotes) (now : DateTime) : LoginNotes :=
  { r with expired := r.expired || r.lockedUntil.any (· ≤ now) }

/-- A password is verified. -/
def verify (r : LoginNotes) (thread : Nat) : LoginNotes :=
  { r with
    unrecorded := thread :: r.unrecorded
    verified := if r.expired then r.verified else r.verified + 1 }

/-- A failure is recorded. A lockout starts when the counter begins anew. -/
def record (r : LoginNotes) (thread : Nat) (ban : IpBan) : LoginNotes :=
  { r with
    stale := fun _ => true
    unrecorded := r.unrecorded.filter (· ≠ thread)
    lockedUntil := r.lockedUntil.or (if ban.attemptCount = 0 then some ban.bannedUntil else .none) }

/-- A ban is looked up. -/
def lookUp (r : LoginNotes) (thread : Nat) : LoginNotes :=
  { r with stale := Function.update r.stale thread false }

end LoginNotes

/-- What is noted of a call. -/
def loginObserver : Observer SiteCall Site Moment LoginNotes := fun r slot s c =>
  let r := r.tick slot.moment.env.now
  match commits slot.moment s c with
  | some ban => r.record slot.thread ban
  | none =>
      if verifies slot.moment s c then r.verify slot.thread
      else if c.looksUp then r.lookUp slot.thread
      else r

/-- The requests under observation. -/
abbrev WatchedLogins : Type := Observed SiteCall SiteCall.Reply Site Unit LoginNotes

namespace WatchedLogins

/-- One turn of the requests. -/
def step : WatchedLogins → Slot Moment → WatchedLogins :=
  Observed.step Moment.serve loginObserver

/-- The requests as they arrive. -/
def start (crates : WebCrates) (ip : String) (s : Site)
    (requests : List (SessionId × LoginForm)) : WatchedLogins :=
  ⟨loginRequests crates ip s requests, .none⟩

/-- No password is verified while the failure of another one has not been recorded, or after a
failure has been recorded since the request looked the ban up. -/
def Apart : WatchedLogins → Slot Moment → Prop :=
  Observed.Meets fun r slot s c =>
    verifies slot.moment s c = true → r.stale slot.thread = false ∧ r.unrecorded = []

instance (w : WatchedLogins) (slot : Slot Moment) : Decidable (w.Apart slot) :=
  inferInstanceAs (Decidable (Observed.Meets _ w slot))

end WatchedLogins

/-! ## What a request knows -/

/-- The first lockout has started and is not over. -/
def LoginNotes.Locked (r : LoginNotes) : Prop :=
  r.lockedUntil.isSome ∧ r.expired = false

/-- A ban that was found is the stored one unless it is stale; a request that passed the check
passed it before the first lockout, unless that is over; and limits that were read are in force. No
request goes astray. -/
def LoginKnown (wrong : LoginForm → Prop) (limits : RuntimeSettings) (row : Option IpBan)
    (r : LoginNotes) (thread : Nat) : LoginPhase → Prop
  | arriving form => wrong form
  | found form ban => wrong form ∧ (r.stale thread = false → row = some ban)
  | free form => wrong form ∧ (r.stale thread = false → ¬ r.Locked)
  | limited limits' => limits' = limits
  | refused | finished => True
  | astray => False

/-- Before the first lockout the failures that have been recorded cover the passwords that have
been verified, but for one whose failure is still to come. When the lockout starts there have been
as many as the policy allows, and while it lasts no more are verified. -/
inductive LoginStage (limit : Nat) (row : Option IpBan) (now : DateTime) (r : LoginNotes) : Prop
  | counting (count : Nat) (hlocked : r.lockedUntil = none) (hexpired : r.expired = false)
      (hone : r.unrecorded.length ≤ 1) (hbelow : count < limit)
      (hcovered : r.verified ≤ count + r.unrecorded.length)
      (hrow : row = none ∧ count = 0 ∨ ∃ ban, row = some ban ∧ ban.bannedUntil ≤ now ∧
        ban.attemptCount = count ∧ 0 < count)
  | locked (ban : IpBan) (hlocked : r.lockedUntil = some ban.bannedUntil)
      (hexpired : r.expired = false) (hrow : row = some ban) (hbound : r.verified ≤ limit)
  | expired (hexpired : r.expired = true) (hbound : r.verified ≤ limit)

namespace LoginStage

variable {limit : Nat} {row : Option IpBan} {now later : DateTime} {r : LoginNotes}

theorem bound (h : LoginStage limit row now r) : r.verified ≤ limit := by
  cases h with
  | counting count hlocked hexpired hone hbelow hcovered hrow => omega
  | locked ban hlocked hexpired hrow hbound => exact hbound
  | expired hexpired hbound => exact hbound

/-- Time passes. -/
theorem tick (h : LoginStage limit row now r) (hlater : now ≤ later) :
    LoginStage limit row later (r.tick later) := by
  cases h with
  | counting count hlocked hexpired hone hbelow hcovered hrow =>
      have hsame : r.tick later = r := by
        unfold LoginNotes.tick
        rw [hlocked, hexpired]
        cases r
        simp_all
      rw [hsame]
      refine .counting count hlocked hexpired hone hbelow hcovered (hrow.imp_right ?_)
      rintro ⟨ban, hban, huntil, hcount⟩
      exact ⟨ban, hban, Int.le_trans huntil hlater, hcount⟩
  | locked ban hlocked hexpired hrow hbound =>
      by_cases hover : ban.bannedUntil ≤ later
      · refine .expired ?_ hbound
        simp [LoginNotes.tick, hlocked, hover]
      · refine .locked ban hlocked ?_ hrow hbound
        simp [LoginNotes.tick, hlocked, hexpired, hover]
  | expired hexpired hbound =>
      exact .expired (by simp [LoginNotes.tick, hexpired]) hbound

/-- A password is verified when nothing is unrecorded and the first lockout has not started, or is
over. -/
theorem verify (thread : Nat) (h : LoginStage limit row now r) (hnone : r.unrecorded = [])
    (hfree : ¬ r.Locked) : LoginStage limit row now (r.verify thread) := by
  cases h with
  | counting count hlocked hexpired hone hbelow hcovered hrow =>
      rw [hnone, List.length_nil] at hcovered
      refine .counting count hlocked hexpired ?_ hbelow ?_ hrow
      · simp [LoginNotes.verify, hnone]
      · simp only [LoginNotes.verify, hexpired, hnone, List.length_singleton]
        simp only [Bool.false_eq_true, if_false]
        omega
  | locked ban hlocked hexpired hrow hbound =>
      exact absurd ⟨by rw [hlocked]; rfl, hexpired⟩ hfree
  | expired hexpired hbound =>
      exact .expired hexpired (by simp only [LoginNotes.verify, hexpired, if_true]; exact hbound)

/-- A failure is recorded while time stands still. -/
theorem record {bans : Bans} {ip : String} {maxAttempts : UInt32} {lockout : Duration}
    {ban : IpBan} (thread : Nat)
    (h : LoginStage maxAttempts.toNat (find bans ip) now r) (hlimit : 2 ≤ maxAttempts.toNat)
    (hactive : ∀ old, r.lockedUntil = some old → r.expired = false → now < old)
    (hrecorded : Recorded bans ip maxAttempts lockout now (.ok ban)) :
    LoginStage maxAttempts.toNat (some ban) now (r.record thread ban) := by
  have hmax := maxAttempts.toNat_lt
  cases h with
  | counting count hlocked hexpired hone hbelow hcovered hrow =>
      -- At most one failure has been outstanding, so that the new count covers the same passwords.
      have hnext : r.verified ≤ count + 1 + (r.record thread ban).unrecorded.length := by
        omega
      have hone' : (r.record thread ban).unrecorded.length ≤ 1 :=
        (List.length_filter_le _ _).trans hone
      rcases hrow with ⟨hrow, rfl⟩ | ⟨old, hrow, huntil, hcount, hpos⟩
      · cases hrecorded with
        | first hnone =>
            exact .counting 1 (by simp [LoginNotes.record, hlocked]) hexpired hone' hlimit hnext
              (.inr ⟨_, rfl, Int.le_refl _, rfl, Nat.one_pos⟩)
        | active old hfind => cases hrow.symm.trans hfind
        | counted old hfind => cases hrow.symm.trans hfind
        | locked old hfind => cases hrow.symm.trans hfind
      · have hover : old.isActive now = false := decide_eq_false (DateTime.not_lt.mpr huntil)
        have hsame := as_i64_of_lt (n := old.attemptCount + 1) (by omega) (by omega)
        have hbits := as_u32_of_lt (n := old.attemptCount + 1) (by omega) (by omega)
        cases hrecorded with
        | first hnone => cases hnone.symm.trans hrow
        | active old' hfind hactive' =>
            obtain rfl : old = old' := Option.some.inj (hrow.symm.trans hfind)
            exact absurd hactive' (hover ▸ Bool.false_ne_true)
        | counted old' hfind hover' hbelow' =>
            obtain rfl : old = old' := Option.some.inj (hrow.symm.trans hfind)
            rw [hsame] at hbelow'
            have hnot : asI64 (old.attemptCount + 1) ≠ 0 := by omega
            refine .counting (count + 1) ?_ hexpired hone' (by omega) hnext
              (.inr ⟨_, rfl, huntil, ?_, Nat.succ_pos count⟩)
            · simp [LoginNotes.record, hlocked, hnot]
            · show asI64 (old.attemptCount + 1) = (count + 1 : Nat)
              omega
        | locked old' hfind hover' hreached hrange =>
            obtain rfl : old = old' := Option.some.inj (hrow.symm.trans hfind)
            refine .locked _ ?_ hexpired rfl ?_
            · simp [LoginNotes.record, hlocked]
            · show r.verified ≤ _
              omega
  | locked old hlocked hexpired hrow hbound =>
      have hstill : old.isActive now = true := decide_eq_true (hactive _ hlocked hexpired)
      cases hrecorded with
      | first hnone => cases hnone.symm.trans hrow
      | active old' hfind hactive' =>
          obtain rfl : old = old' := Option.some.inj (hrow.symm.trans hfind)
          exact .locked _ (by simp [LoginNotes.record, hlocked]) hexpired rfl hbound
      | counted old' hfind hover' hbelow' =>
          obtain rfl : old = old' := Option.some.inj (hrow.symm.trans hfind)
          exact absurd hstill (hover' ▸ Bool.false_ne_true)
      | locked old' hfind hover' hreached hrange =>
          obtain rfl : old = old' := Option.some.inj (hrow.symm.trans hfind)
          exact absurd hstill (hover' ▸ Bool.false_ne_true)
  | expired hexpired hbound => exact .expired hexpired hbound

end LoginStage

/-- A stage that has been reached lasts until something is noted. -/
theorem LoginStage.later {limit : Nat} {row : Option IpBan} {now later : DateTime}
    {r : LoginNotes} (h : LoginStage limit row now r) (hlater : now ≤ later) :
    LoginStage limit row later r := by
  cases h with
  | counting count hlocked hexpired hone hbelow hcovered hrow =>
      refine .counting count hlocked hexpired hone hbelow hcovered (hrow.imp_right ?_)
      rintro ⟨ban, hban, huntil, hcount⟩
      exact ⟨ban, hban, Int.le_trans huntil hlater, hcount⟩
  | locked ban hlocked hexpired hrow hbound => exact .locked ban hlocked hexpired hrow hbound
  | expired hexpired hbound => exact .expired hexpired hbound

/-- An IP without a row is not locked out, and the lockout of one with a row ends when the row
says. -/
theorem LoginStage.row_of_locked {limit : Nat} {row : Option IpBan} {now : DateTime}
    {r : LoginNotes} (h : LoginStage limit row now r) (hlocked : r.Locked) :
    ∃ ban, row = some ban ∧ r.lockedUntil = some ban.bannedUntil := by
  obtain ⟨hsome, hexpired⟩ := hlocked
  cases h with
  | counting count hlocked =>
      rw [hlocked] at hsome
      cases hsome
  | locked ban hlocked hexpired hrow hbound => exact ⟨ban, hrow, hlocked⟩
  | expired hover => exact absurd (hexpired.symm.trans hover) Bool.noConfusion

theorem LoginStage.lookUp {limit : Nat} {row : Option IpBan} {now : DateTime} {r : LoginNotes}
    (h : LoginStage limit row now r) (thread : Nat) :
    LoginStage limit row now (r.lookUp thread) := by
  cases h with
  | counting count hlocked hexpired hone hbelow hcovered hrow =>
      exact .counting count hlocked hexpired hone hbelow hcovered hrow
  | locked ban hlocked hexpired hrow hbound => exact .locked ban hlocked hexpired hrow hbound
  | expired hexpired hbound => exact .expired hexpired hbound

namespace LoginKnown

variable {wrong : LoginForm → Prop} {limits : RuntimeSettings} {row : Option IpBan}
  {r r' : LoginNotes} {thread : Nat}

/-- A request that has not been dealt with knows what it knew. -/
theorem congr (h : LoginKnown wrong limits row r thread phase)
    (hstale : r'.stale thread = r.stale thread) (hlocked : r'.Locked → r.Locked) :
    LoginKnown wrong limits row r' thread phase := by
  cases phase with
  | found form ban => exact ⟨h.1, fun hfresh => h.2 (hstale ▸ hfresh)⟩
  | free form => exact ⟨h.1, fun hfresh hlock => h.2 (hstale ▸ hfresh) (hlocked hlock)⟩
  | arriving | refused | limited | finished | astray => exact h

/-- What was looked up is stale after a failure. -/
theorem stale {row' : Option IpBan} (h : LoginKnown wrong limits row r thread phase)
    (hstale : r'.stale thread = true) : LoginKnown wrong limits row' r' thread phase := by
  cases phase with
  | found form ban => exact ⟨h.1, fun hfresh => absurd (hstale ▸ hfresh) Bool.noConfusion⟩
  | free form => exact ⟨h.1, fun hfresh => absurd (hstale ▸ hfresh) Bool.noConfusion⟩
  | arriving | refused | limited | finished | astray => exact h

end LoginKnown

/-- Time does not start a lockout. -/
theorem LoginNotes.locked_of_tick (r : LoginNotes) (now : DateTime) (h : (r.tick now).Locked) :
    r.Locked ∧ ∀ ending, r.lockedUntil = some ending → now < ending := by
  obtain ⟨hsome, hexpired⟩ := h
  simp only [LoginNotes.tick, Bool.or_eq_false_iff] at hsome hexpired
  refine ⟨⟨hsome, hexpired.1⟩, fun ending hending => ?_⟩
  have hover := hexpired.2
  rw [hending] at hover
  exact DateTime.lt_iff.mpr (Int.not_le.mp (of_decide_eq_false hover))

section Replies

variable {wrong : LoginForm → Prop} {limits : RuntimeSettings} {limit : Nat} {m : Moment}
  {s : Site} {r : LoginNotes} {thread : Nat}

/-- What a request knows that has looked the ban up. -/
theorem known_looked_up {form : LoginForm} (hwrong : wrong form)
    (hstage : LoginStage limit (find s.bans ip) m.env.now r) :
    LoginKnown wrong limits (find s.bans ip) (r.lookUp thread) thread
      ((login crates ip).next (arriving form) (.findBan ip) (m.serve (.findBan ip) s).1) := by
  have hreply : (m.serve (.findBan ip) s).1 =
      m.outage.outcome (.findBan ip) (find s.bans ip) := rfl
  rw [hreply, Outage.outcome]
  cases m.outage.error (.findBan ip) with
  | some text => trivial
  | none =>
      cases hrow : find s.bans ip with
      | some ban => exact ⟨hwrong, fun _ => rfl⟩
      | none =>
          refine ⟨hwrong, fun _ hlocked => ?_⟩
          obtain ⟨ban, hban, -⟩ := hstage.row_of_locked hlocked
          exact Option.some_ne_none ban (hban.symm.trans hrow)

/-- What a request knows that has compared the ban with the time. -/
theorem known_checked {form : LoginForm} {ban : IpBan} {before : DateTime}
    (hknow : LoginKnown wrong limits (find s.bans ip) r thread (found form ban))
    (hstage : LoginStage limit (find s.bans ip) before r) :
    LoginKnown wrong limits (find s.bans ip) (r.tick m.env.now) thread
      ((login crates ip).next (found form ban) (.host .utcNow) (m.serve (.host .utcNow) s).1) := by
  obtain ⟨hwrong, hrow⟩ := hknow
  show LoginKnown _ _ _ _ _ (if ban.isActive m.env.now then finished else free form)
  cases hactive : ban.isActive m.env.now with
  | true => trivial
  | false =>
      refine ⟨hwrong, fun hfresh hlocked => ?_⟩
      obtain ⟨hbefore, hending⟩ := r.locked_of_tick m.env.now hlocked
      obtain ⟨stored, hstored, huntil⟩ := hstage.row_of_locked hbefore
      obtain rfl : ban = stored := Option.some.inj ((hrow hfresh).symm.trans hstored)
      exact absurd (hending _ huntil) (of_decide_eq_false hactive)

/-- A request that has found a user has verified its password, in vain. -/
theorem known_found_user {form : LoginForm} {row : Option IpBan} {r' : LoginNotes}
    (hrefuses : ∀ user, s.accounts.findUserByName form.username = some user →
      crates.verifyPassword form.password user.passwordHash = .ok false) :
    LoginKnown wrong limits row r' thread ((login crates ip).next (free form)
      (.findUserByName form.username) (m.serve (.findUserByName form.username) s).1) := by
  have hreply : (m.serve (.findUserByName form.username) s).1 =
      m.outage.outcome (.findUserByName form.username)
        (s.accounts.findUserByName form.username) := rfl
  rw [hreply, Outage.outcome]
  cases m.outage.error (.findUserByName form.username) with
  | some text => trivial
  | none =>
      cases huser : s.accounts.findUserByName form.username with
      | none => trivial
      | some user =>
          show LoginKnown _ _ _ _ _
            (match crates.verifyPassword form.password user.passwordHash with
            | .ok false => refused
            | _ => astray)
          rw [hrefuses user huser]
          trivial

end Replies

/-- The transaction writes the row that it commits. -/
theorem serve_record_failure (m : Moment) (s : Site) (maxAttempts : UInt32)
    (lockout : Duration) :
    (m.serve (.recordFailure ip maxAttempts lockout) s).2 =
      match commits m s (.recordFailure ip maxAttempts lockout) with
      | some ban => { s.seen m with bans := s.bans.upsert ban }
      | none => s.seen m := by
  simp only [Moment.serve, serve, commits]
  cases m.outage.error (.recordFailure ip maxAttempts lockout) with
  | some text => rfl
  | none =>
      have hsame : recordFailure (s.seen m).bans ip maxAttempts lockout (s.seen m).host.env.now =
          (nextBan (find s.bans ip) ip maxAttempts lockout m.env.now).map
            fun ban => (ban, s.bans.upsert ban) := by
        show (nextBan (find s.bans ip) ip maxAttempts lockout m.env.now >>= fun ban =>
          pure (ban, s.bans.upsert ban)) = _
        cases nextBan (find s.bans ip) ip maxAttempts lockout m.env.now <;> rfl
      simp only [hsame]
      cases nextBan (find s.bans ip) ip maxAttempts lockout m.env.now <;> rfl

/-- A row that is committed is that of one of the arms, and is found under the IP. -/
theorem commits_spec {m : Moment} {s : Site} {maxAttempts : UInt32} {lockout : Duration}
    {ban : IpBan} (h : commits m s (.recordFailure ip maxAttempts lockout) = some ban) :
    Recorded s.bans ip maxAttempts lockout m.env.now (.ok ban) ∧
      find (s.bans.upsert ban) ip = some ban := by
  have hspec : Recorded s.bans ip maxAttempts lockout m.env.now _ := next_ban_spec
  simp only [commits] at h
  split at h
  · cases h
  generalize nextBan (find s.bans ip) ip maxAttempts lockout m.env.now = result at hspec h
  cases hspec with
  | stuck ban hfind hover hreached hrange => cases h
  | first hnone =>
      obtain rfl := Option.some.inj h
      exact ⟨.first hnone, by simp [find]⟩
  | active old hfind hactive =>
      obtain rfl := Option.some.inj h
      exact ⟨.active old hfind hactive, by simp [find]⟩
  | counted old hfind hover hbelow =>
      obtain rfl := Option.some.inj h
      exact ⟨.counted old hfind hover hbelow, by simp [find]⟩
  | locked old hfind hover hreached hrange =>
      obtain rfl := Option.some.inj h
      exact ⟨.locked old hfind hover hreached hrange, by simp [find]⟩

/-! ## Every interleaving -/

namespace WatchedLogins

variable {w : WatchedLogins} {slot : Slot Moment} {wrong : LoginForm → Prop}
  {limits : RuntimeSettings} {users : Table User.id} {now : DateTime}

/-- The settings and the users are what they were, and every request has come as far as it
knows. -/
structure Coherent (crates : WebCrates) (ip : String) (wrong : LoginForm → Prop)
    (limits : RuntimeSettings) (users : Table User.id) (now : DateTime) (w : WatchedLogins) :
    Prop where
  live : w.pool.state.live = limits
  users : w.pool.state.accounts.users = users
  stage : LoginStage limits.loginMaxAttempts.toNat (find w.pool.state.bans ip) now w.record
  known : w.pool.Follows (login crates ip)
    (LoginKnown wrong limits (find w.pool.state.bans ip) w.record)

/-- The passwords of the form's user are refused. -/
def Refuses (crates : WebCrates) (users : Table User.id) (form : LoginForm) : Prop :=
  ∀ user, users.rows.find? (·.username = form.username) = some user →
    crates.verifyPassword form.password user.passwordHash = .ok false

instance (form : LoginForm) : Decidable (Refuses crates users form) :=
  inferInstanceAs (Decidable (∀ user ∈ users.rows.find? (·.username = form.username),
    crates.verifyPassword form.password user.passwordHash = .ok false))

/-- After a turn the requests keep to the protocol, and each knows what it can conclude from what it
knew and, if it was its turn, from the reply. -/
def GoesOn (crates : WebCrates) (ip : String) (wrong : LoginForm → Prop) (limits : RuntimeSettings)
    (w : WatchedLogins) (slot : Slot Moment) (phase : LoginPhase) (c : SiteCall) : Prop :=
  ∀ know : Nat → LoginPhase → Prop,
    know slot.thread ((login crates ip).next phase c (slot.moment.serve c w.pool.state).1) →
    (∀ other phase, other ≠ slot.thread →
      LoginKnown wrong limits (find w.pool.state.bans ip) w.record other phase →
        know other phase) →
    (w.step slot).pool.Follows (login crates ip) know

namespace Coherent

variable {c : SiteCall}

/-- A turn that leaves bans, users and settings alone keeps the requests coherent. -/
theorem quiet (h : w.Coherent crates ip wrong limits users now) {r : LoginNotes}
    (hlive : (w.step slot).pool.state.live = w.pool.state.live)
    (husers : (w.step slot).pool.state.accounts.users = w.pool.state.accounts.users)
    (hbans : (w.step slot).pool.state.bans = w.pool.state.bans) (hr : (w.step slot).record = r)
    (hstage : LoginStage limits.loginMaxAttempts.toNat (find w.pool.state.bans ip)
      slot.moment.env.now r)
    (hstale : ∀ other, other ≠ slot.thread → r.stale other = w.record.stale other)
    (hlocked : r.Locked → (w.record.tick slot.moment.env.now).Locked)
    (hnext : GoesOn crates ip wrong limits w slot phase c)
    (hself : LoginKnown wrong limits (find w.pool.state.bans ip) r slot.thread
      ((login crates ip).next phase c (slot.moment.serve c w.pool.state).1)) :
    (w.step slot).Coherent crates ip wrong limits users slot.moment.env.now := by
  refine ⟨hlive.trans h.live, husers.trans h.users, by rw [hbans, hr]; exact hstage, ?_⟩
  rw [hbans, hr]
  -- the other requests know what they knew, as nothing they looked up gets stale
  exact hnext _ hself fun other phase hne hother => hother.congr (hstale other hne) fun hl =>
    (w.record.locked_of_tick slot.moment.env.now (hlocked hl)).1

/-- A turn that changes nothing keeps the requests coherent, and a verified password is noted. -/
theorem reads (h : w.Coherent crates ip wrong limits users now) {r : LoginNotes}
    (hs : (w.step slot).pool.state = w.pool.state.seen slot.moment)
    (hr : (w.step slot).record = r)
    (hstage : LoginStage limits.loginMaxAttempts.toNat (find w.pool.state.bans ip)
      slot.moment.env.now r)
    (hstale : ∀ other, other ≠ slot.thread → r.stale other = w.record.stale other)
    (hlocked : r.Locked → (w.record.tick slot.moment.env.now).Locked)
    (hnext : GoesOn crates ip wrong limits w slot phase c)
    (hself : LoginKnown wrong limits (find w.pool.state.bans ip) r slot.thread
      ((login crates ip).next phase c (slot.moment.serve c w.pool.state).1)) :
    (w.step slot).Coherent crates ip wrong limits users slot.moment.env.now :=
  h.quiet ((congrArg Site.live hs).trans rfl)
    ((congrArg (fun s : Site => s.accounts.users) hs).trans rfl)
    ((congrArg Site.bans hs).trans rfl) hr hstage hstale hlocked hnext hself

/-- The lookup of the user: if there is one, a password is verified. -/
theorem user_looked_up {form : LoginForm} (h : w.Coherent crates ip wrong limits users now)
    (hlater : now ≤ slot.moment.env.now) (hrefuses : Refuses crates users form)
    (hpending : w.pool.pending slot.thread = some (.findUserByName form.username))
    (hguard : w.Apart slot)
    (hknow : LoginKnown wrong limits (find w.pool.state.bans ip) w.record slot.thread (free form))
    (hs : (w.step slot).pool.state = w.pool.state.seen slot.moment)
    (hrecord : (w.step slot).record =
      loginObserver w.record slot w.pool.state (.findUserByName form.username))
    (hnext : GoesOn crates ip wrong limits w slot (free form) (.findUserByName form.username)) :
    (w.step slot).Coherent crates ip wrong limits users slot.moment.env.now := by
  have htick := h.stage.tick hlater
  have hself : ∀ r, LoginKnown wrong limits (find w.pool.state.bans ip) r slot.thread
      ((login crates ip).next (free form) (.findUserByName form.username)
        (slot.moment.serve (.findUserByName form.username) w.pool.state).1) := by
    refine fun r => known_found_user fun user huser => hrefuses user ?_
    rw [← h.users]
    exact huser
  cases hverifies : verifies slot.moment w.pool.state (.findUserByName form.username) with
  | false =>
      have hr : (w.step slot).record = w.record.tick slot.moment.env.now := by
        refine hrecord.trans ?_
        simp only [loginObserver, commits, hverifies, SiteCall.looksUp, Bool.false_eq_true,
          if_false]
      exact h.reads hs hr htick (fun _ _ => rfl) id hnext (hself _)
  | true =>
      -- The password is verified. The request passed the check before the first lockout.
      have hr : (w.step slot).record =
          (w.record.tick slot.moment.env.now).verify slot.thread := by
        refine hrecord.trans ?_
        simp only [loginObserver, commits, hverifies, if_true]
      obtain ⟨hfresh, hnone⟩ := hguard _ hpending hverifies
      have hstage := htick.verify slot.thread hnone fun hlocked =>
        hknow.2 hfresh (w.record.locked_of_tick slot.moment.env.now hlocked).1
      exact h.reads hs hr hstage (fun _ _ => rfl) id hnext (hself _)

/-- The failure is recorded, and what the others have looked up is stale, or nothing happens. -/
theorem failure_recorded (h : w.Coherent crates ip wrong limits users now)
    (hlater : now ≤ slot.moment.env.now) (hlimit : 2 ≤ limits.loginMaxAttempts.toNat)
    (hstate : (w.step slot).pool.state = (slot.moment.serve (.recordFailure ip
      limits.loginMaxAttempts (.fromSecs limits.loginLockoutSecs)) w.pool.state).2)
    (hrecord : (w.step slot).record = loginObserver w.record slot w.pool.state
      (.recordFailure ip limits.loginMaxAttempts (.fromSecs limits.loginLockoutSecs)))
    (hnext : GoesOn crates ip wrong limits w slot (limited limits)
      (.recordFailure ip limits.loginMaxAttempts (.fromSecs limits.loginLockoutSecs))) :
    (w.step slot).Coherent crates ip wrong limits users slot.moment.env.now := by
  have htick := h.stage.tick hlater
  rw [serve_record_failure] at hstate
  cases hcommits : commits slot.moment w.pool.state
      (.recordFailure ip limits.loginMaxAttempts (.fromSecs limits.loginLockoutSecs)) with
  | none =>
      rw [hcommits] at hstate
      have hr : (w.step slot).record = w.record.tick slot.moment.env.now := by
        refine hrecord.trans ?_
        simp only [loginObserver, hcommits, verifies, SiteCall.looksUp, Bool.false_eq_true,
          if_false]
      exact h.reads hstate hr htick (fun _ _ => rfl) id hnext trivial
  | some ban =>
      rw [hcommits] at hstate
      obtain ⟨hrecorded, hfind⟩ := commits_spec hcommits
      have hs : (w.step slot).pool.state =
          { w.pool.state.seen slot.moment with bans := w.pool.state.bans.upsert ban } := hstate
      have hr : (w.step slot).record =
          (w.record.tick slot.moment.env.now).record slot.thread ban := by
        refine hrecord.trans ?_
        simp only [loginObserver, hcommits]
      have hstage := htick.record slot.thread hlimit
        (fun ending hending hexpired =>
          (w.record.locked_of_tick slot.moment.env.now
            ⟨Option.isSome_iff_exists.mpr ⟨ending, hending⟩, hexpired⟩).2 ending hending)
        hrecorded
      refine ⟨hs ▸ h.live, hs ▸ h.users, ?_, ?_⟩
      · rw [hs, hr]
        show LoginStage _ (find (w.pool.state.bans.upsert ban) ip) _ _
        rw [hfind]
        exact hstage
      · rw [hs, hr]
        exact hnext _ trivial fun other phase _ hother => hother.stale rfl

/-- The event of the request is recorded. -/
theorem event_recorded (h : w.Coherent crates ip wrong limits users now)
    (hlater : now ≤ slot.moment.env.now)
    (hallowed : c = .host .utcNow ∨ ∃ event, c = .insertAudit event)
    (hstate : (w.step slot).pool.state = (slot.moment.serve c w.pool.state).2)
    (hrecord : (w.step slot).record = loginObserver w.record slot w.pool.state c)
    (hnext : GoesOn crates ip wrong limits w slot finished c) :
    (w.step slot).Coherent crates ip wrong limits users slot.moment.env.now := by
  have hr : (w.step slot).record = w.record.tick slot.moment.env.now := by
    rcases hallowed with rfl | ⟨event, rfl⟩ <;> exact hrecord
  have hframe : ∀ {τ : Type} (part : Site → τ),
      (∀ s accounts, part { s with accounts } = part s) →
      part (w.step slot).pool.state = part (w.pool.state.seen slot.moment) := by
    intro τ part hpart
    rcases hallowed with rfl | ⟨event, rfl⟩
    · exact congrArg part hstate
    · exact (congrArg part hstate).trans
        (Outage.write_frame part (fun _ _ _ => hpart _ _) (w.pool.state.seen slot.moment))
  have husers : (w.step slot).pool.state.accounts.users = w.pool.state.accounts.users := by
    rcases hallowed with rfl | ⟨event, rfl⟩
    · exact (congrArg (fun s : Site => s.accounts.users) hstate).trans rfl
    · exact (congrArg (fun s : Site => s.accounts.users) hstate).trans
        (Outage.write_frame (fun s => s.accounts.users)
          (fun _ _ haudit => (Accounts.insert_audit_ok haudit).1)
          (w.pool.state.seen slot.moment))
  exact h.quiet (hframe Site.live fun _ _ => rfl) husers (hframe Site.bans fun _ _ => rfl) hr
    (h.stage.tick hlater) (fun _ _ => rfl) id hnext trivial

end Coherent

/-- A turn keeps the requests coherent. -/
theorem coherent_step (hlimit : 2 ≤ limits.loginMaxAttempts.toNat)
    (hrefuses : ∀ form, wrong form → Refuses crates users form)
    (h : w.Coherent crates ip wrong limits users now) (hlater : now ≤ slot.moment.env.now)
    (hguard : w.Apart slot) :
    (w.step slot).Coherent crates ip wrong limits users slot.moment.env.now := by
  rcases Observed.step_cases h.known with
    ⟨-, hstay⟩ | ⟨phase, c, hpending, hallowed, hknow, hstate, hrecord, hnext⟩
  · rw [show w.step slot = w from hstay]
    exact ⟨h.live, h.users, h.stage.later hlater, h.known⟩
  have htick := h.stage.tick hlater
  cases phase with
  | astray => exact False.elim hknow
  | arriving form =>
      obtain rfl : c = .findBan ip := hallowed
      exact h.reads hstate hrecord (htick.lookUp slot.thread)
        (fun _ hne => Function.update_of_ne hne _ _) id hnext (known_looked_up hknow htick)
  | found form ban =>
      obtain rfl : c = .host .utcNow := hallowed
      exact h.reads hstate hrecord htick (fun _ _ => rfl) id hnext (known_checked hknow h.stage)
  | free form =>
      obtain rfl : c = .findUserByName form.username := hallowed
      exact h.user_looked_up hlater (hrefuses form hknow.1) hpending hguard hknow hstate hrecord
        hnext
  | refused =>
      obtain rfl : c = .readSettings := hallowed
      exact h.reads hstate hrecord htick (fun _ _ => rfl) id hnext h.live
  | limited limits' =>
      obtain rfl : c = .recordFailure ip limits'.loginMaxAttempts
        (.fromSecs limits'.loginLockoutSecs) := hallowed
      obtain rfl : limits' = limits := hknow
      exact h.failure_recorded hlater hlimit hstate hrecord hnext
  | finished => exact h.event_recorded hlater hallowed hstate hrecord hnext

/-- The requests stay coherent while the clock does not go backwards. -/
theorem coherent_run (hlimit : 2 ≤ limits.loginMaxAttempts.toNat)
    (hrefuses : ∀ form, wrong form → Refuses crates users form)
    {schedule : List (Slot Moment)} (h : w.Coherent crates ip wrong limits users now)
    (hlater : ∀ slot ∈ schedule, now ≤ slot.moment.env.now)
    (hclock : schedule.Pairwise fun a b => a.moment.env.now ≤ b.moment.env.now)
    (hapart : Runs.EachStep step Apart w schedule) :
    ∃ last, (Runs.after step w schedule).Coherent crates ip wrong limits users last := by
  induction schedule generalizing w now with
  | nil => exact ⟨now, h⟩
  | cons slot rest ih =>
      obtain ⟨hrest, hclock⟩ := List.pairwise_cons.mp hclock
      exact ih (coherent_step hlimit hrefuses h (hlater slot List.mem_cons_self) hapart.1) hrest
        hclock hapart.2

end WatchedLogins

/-- While the clock does not go backwards, no interleaving of requests with wrong passwords from an
IP without a ban verifies more of them than the policy allows before the first lockout has expired,
if none is verified while the failure of another has not been recorded, or after a failure has been
recorded since its request looked the ban up. -/
theorem logins_bounded (crates : WebCrates) (ip : String) (s : Site)
    (requests : List (SessionId × LoginForm)) (schedule : List (Slot Moment))
    (hlimit : 2 ≤ s.live.loginMaxAttempts.toNat) (hnew : find s.bans ip = none)
    (hwrong : ∀ request ∈ requests, WatchedLogins.Refuses crates s.accounts.users request.2)
    (hclock : schedule.Pairwise fun a b => a.moment.env.now ≤ b.moment.env.now)
    (hapart : Runs.EachStep WatchedLogins.step WatchedLogins.Apart (.start crates ip s requests)
      schedule) :
    (Runs.after WatchedLogins.step (.start crates ip s requests) schedule).record.verified ≤
      s.live.loginMaxAttempts.toNat := by
  have hstart : ∀ now, (WatchedLogins.start crates ip s requests).Coherent crates ip
      (WatchedLogins.Refuses crates s.accounts.users) s.live s.accounts.users now := by
    intro now
    refine ⟨rfl, rfl, ?_, fun thread program hprogram => ?_⟩
    · exact .counting 0 rfl rfl (Nat.zero_le 1) (by omega) (Nat.zero_le _) (.inl ⟨hnew, rfl⟩)
    · obtain ⟨request, hrequest, rfl⟩ := List.mem_map.mp (List.mem_of_getElem? hprogram)
      exact ⟨arriving request.2, Follows.map.mpr (login_submit_follows request.1 request.2),
        hwrong request hrequest⟩
  cases schedule with
  | nil => exact Nat.zero_le _
  | cons slot rest =>
      have hlater : ∀ later ∈ slot :: rest, slot.moment.env.now ≤ later.moment.env.now :=
        List.forall_mem_cons.mpr ⟨Int.le_refl _, (List.pairwise_cons.mp hclock).1⟩
      obtain ⟨last, hlast⟩ := WatchedLogins.coherent_run hlimit (fun _ h => h) (hstart _) hlater
        hclock hapart
      exact hlast.stage.bound

/-- A user with a password. -/
def passwordUser : User where
  id := ⟨0⟩
  username := "admin"
  email := none
  passwordHash := "correct horse"
  role := .admin
  totpEnabled := false
  totpSecretEncrypted := none
  oidcSubject := none
  createdAt := ⟨0⟩
  updatedAt := ⟨0⟩
  lastLoginAt := none

/-- A server with one user that locks an IP out after two failures. -/
def strictSite : Site :=
  { Site.fresh { RuntimeSettings.default with loginMaxAttempts := 2 } with
    accounts := (Accounts.empty.insertUser passwordUser).toOption.getD .empty }

/-- Three guesses of the password. -/
def threeGuesses : List (SessionId × LoginForm) :=
  [(⟨0⟩, ⟨"admin", "letmein"⟩), (⟨1⟩, ⟨"admin", "hunter2"⟩), (⟨2⟩, ⟨"admin", "swordfish"⟩)]

/-- Turns of the given requests while time stands still. -/
def loginTurns (threads : List Nat) : List (Slot Moment) :=
  threads.map fun thread => ⟨thread, .calm strictSite .inserted⟩

/-- One after the other no more than two of the guesses are verified. -/
theorem logins_bounded_in_turn :
    (Runs.after WatchedLogins.step (.start .transparent "192.0.2.7" strictSite threeGuesses)
      (loginTurns (List.replicate 6 0 ++ List.replicate 6 1 ++ List.replicate 6 2))).record.verified
        ≤ strictSite.live.loginMaxAttempts.toNat :=
  logins_bounded .transparent "192.0.2.7" strictSite threeGuesses _ (by decide) rfl
    (by decide +kernel) (by decide +kernel) (by decide +kernel)

/-- When all three have looked the ban up before the first failure is recorded, all three guesses
are verified, although the policy allows two. -/
theorem lockout_outrun :
    let final := Runs.after WatchedLogins.step
      (.start .transparent "192.0.2.7" strictSite threeGuesses)
      (loginTurns ([0, 1, 2, 0, 1, 2] ++ List.replicate 4 0 ++ List.replicate 4 1 ++
        List.replicate 4 2))
    find strictSite.bans "192.0.2.7" = none ∧ final.record.verified = 3 ∧
      ¬ final.record.verified ≤ strictSite.live.loginMaxAttempts.toNat := by
  decide +kernel

end Wireforge
