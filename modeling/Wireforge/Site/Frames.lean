import Wireforge.Site.State

/-!
# What calls leave alone

Calls that only read change nothing, and only two calls write to sessions. Every call of the web
server that is not a call of the services leaves the host alone.
-/

namespace Wireforge

open Effect

namespace Accounts

variable {accounts accounts' : Accounts}

/-- A new user is appended, and nothing else changes. -/
theorem insert_user_ok {row : User} (h : accounts.insertUser row = .ok accounts') :
    accounts.users.find row.id = none ∧ accounts'.users.rows = accounts.users.rows ++ [row] ∧
      accounts'.tokens = accounts.tokens ∧ accounts'.settings = accounts.settings := by
  unfold insertUser at h
  split_ifs at h with hid hname hemail
  obtain rfl := Except.ok.inj h
  exact ⟨hid, rfl, rfl, rfl⟩

/-- A new token is appended, and nothing else changes. -/
theorem insert_token_ok {row : ApiToken} (h : accounts.insertToken row = .ok accounts') :
    row.tokenHash ∉ accounts.tokens.rows.map ApiToken.tokenHash ∧
      (accounts.users.find row.userId).isSome ∧
      accounts'.tokens.rows = accounts.tokens.rows ++ [row] ∧ accounts'.users = accounts.users ∧
      accounts'.settings = accounts.settings := by
  unfold insertToken at h
  split_ifs at h with hid hhash howner
  obtain rfl := Except.ok.inj h
  exact ⟨hhash, howner, rfl, rfl, rfl⟩

/-- An event is appended to the audit log, and nothing else changes. -/
theorem insert_audit_ok {event : AuditEvent} (h : accounts.insertAudit event = .ok accounts') :
    accounts'.users = accounts.users ∧ accounts'.tokens = accounts.tokens ∧
      accounts'.settings = accounts.settings := by
  unfold insertAudit at h
  split at h
  · obtain rfl := Except.ok.inj h
    exact ⟨rfl, rfl, rfl⟩
  · cases h

end Accounts

variable (outage : Outage)

namespace Outage

variable {outage}

/-- A call that may fail leaves alone what its effect leaves alone. -/
theorem run_frame {α τ : Type} {call : SiteCall} {effect : Site → Except String α × Site}
    (part : Site → τ) (h : ∀ s, part (effect s).2 = part s) (s : Site) :
    part (outage.run call effect s).2 = part s := by
  unfold run
  split
  · rfl
  · exact h s

/-- A statement on the tables leaves everything else alone. -/
theorem write_frame {τ : Type} {call : SiteCall} {change : Accounts → Except String Accounts}
    (part : Site → τ)
    (h : ∀ s accounts, change s.accounts = .ok accounts → part { s with accounts } = part s)
    (s : Site) : part (outage.write call change s).2 = part s := by
  refine run_frame part (fun s => ?_) s
  cases hchange : change s.accounts with
  | ok accounts => exact h s accounts hchange
  | error text => rfl

/-- A call that succeeds has its effect. -/
theorem run_ok {α ε : Type} {call : SiteCall} {effect : Site → Except String α × Site}
    {rename : String → ε} {s : Site} {value : α}
    (h : (outage.run call effect s).1.mapError rename = .ok value) :
    outage.run call effect s = effect s ∧ (effect s).1 = .ok value := by
  unfold run at h ⊢
  split at h
  · cases h
  · exact ⟨rfl, Outcome.map_error_ok.mp h⟩

/-- A statement on the tables that succeeds has its effect. -/
theorem write_ok {ε : Type} {call : SiteCall} {change : Accounts → Except String Accounts}
    {rename : String → ε} {s : Site}
    (h : (outage.write call change s).1.mapError rename = .ok ()) :
    ∃ accounts, change s.accounts = .ok accounts ∧
      (outage.write call change s).2 = { s with accounts } := by
  unfold write at h ⊢
  obtain ⟨hrun, hvalue⟩ := run_ok h
  rw [hrun]
  cases hchange : change s.accounts with
  | ok accounts => exact ⟨accounts, rfl, rfl⟩
  | error text =>
      simp only [hchange] at hvalue
      cases hvalue

/-- Recording a failed login leaves everything but the bans alone. -/
theorem record_failure_frame {τ : Type} {ip : String} {maxAttempts : UInt32} {lockout : Duration}
    (part : Site → τ) (h : ∀ s bans, part { s with bans } = part s) (s : Site) :
    part (serve outage (.recordFailure ip maxAttempts lockout) s).2 = part s := by
  simp only [serve]
  split
  · rfl
  · split
    · exact h s _
    · rfl

end Outage

namespace SiteCall

/-- The calls that only read. -/
def Reads : SiteCall → Prop
  | host .utcNow | rereadInterface _ | countUsers | findUser _ | findUserByName _
  | findActiveToken _ | listTokens _ | findBan _ | allSettings | readSettings | reloadLog _
  | listAudit _ | latestPerPeer | getSession _ _ | drawToken | drawTotpSecret | drawSalt => True
  | _ => False

/-- The calls that write to a session. -/
def WritesSession : SiteCall → Prop
  | insertSession _ _ _ | removeSession _ _ => True
  | _ => False

end SiteCall

/-- A call that only reads changes nothing. -/
theorem serve_reads {c : SiteCall} (h : c.Reads) (s : Site) : (serve outage c s).2 = s := by
  cases c with
  | host call => cases call <;> first | rfl | cases h
  | _ => first | rfl | cases h

/-- Only two calls write to sessions. -/
theorem serve_sessions {c : SiteCall} (h : ¬ c.WritesSession) (s : Site) :
    (serve outage c s).2.sessions = s.sessions := by
  cases c with
  | insertUser | updateTotp | touchLastLogin | insertToken | upsertSetting | insertAudit =>
      exact Outage.write_frame Site.sessions (fun _ _ _ => rfl) s
  | revokeToken | clearBan | seriesTotals =>
      exact Outage.run_frame Site.sessions (fun _ => rfl) s
  | recordFailure => exact Outage.record_failure_frame Site.sessions (fun _ _ => rfl) s
  | insertSession | removeSession => exact absurd trivial h
  | _ => rfl

end Wireforge
