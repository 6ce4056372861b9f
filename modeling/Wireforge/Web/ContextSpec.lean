import Wireforge.Service.AccountsSpec
import Wireforge.Web.Context

/-!
# The calls of what web handlers share

For every building block of the handlers, which calls it issues, and for those that write to a
session what they leave, given that the session store works.
-/

namespace Wireforge

open Effect

variable {allowed : SiteCall → Prop}

/-! ## Calls -/

namespace Web

variable {α : Type}

theorem or_fail_issues (e : WebError) (value : Option α) : Issues allowed (orFail e value).run := by
  cases value <;> exact trivial

theorem of_core_issues (result : Except CoreError α) : Issues allowed (ofCore result).run := by
  cases result <;> exact trivial

theorem audit_record_issues {ε : Type} (hnow : allowed (.host .utcNow))
    (hinsert : ∀ event, allowed (.insertAudit event)) (actor : Option (Id UserMarker))
    (actorIp : Option String) (action : AuditAction) (resourceType resourceId : Option String)
    (metadata : Option Json.Object) :
    Issues allowed
      (auditRecord (ε := ε) actor actorIp action resourceType resourceId metadata).run :=
  Issues.run_ignore (Issues.run_bind (site_now_issues hnow) fun _ =>
    Issues.run_or_else (Issues.request (hinsert _)))

theorem session_get_issues {session : SessionId} {key : SessionKey}
    (h : allowed (.getSession session key)) : Issues allowed (sessionGet session key).run :=
  Issues.run_bind (Issues.run_always (Issues.request h)) fun _ => Issues.run_pure _

theorem verify_code_issues (crates : WebCrates) (hnow : allowed (.host .utcNow))
    (secret code issuer account : String) :
    Issues allowed (verifyCode crates secret code issuer account).run :=
  Issues.run_bind (Issues.run_or_else (site_now_issues hnow)) fun _ => Issues.run_pure _

theorem eval_or_fail_ok {e : WebError} {value : Option α} {outage : Outage} {s s' : Site}
    {result : α} :
    eval (serve outage) (orFail e value) s = (.ok result, s') ↔ value = some result ∧ s = s' := by
  cases value <;> simp [orFail, fail, Prod.ext_iff]

theorem eval_of_core_ok {outcome : Except CoreError α} {outage : Outage} {s s' : Site}
    {result : α} :
    eval (serve outage) (ofCore outcome) s = (.ok result, s') ↔
      outcome = .ok result ∧ s = s' := by
  cases outcome <;> simp [ofCore, ofExcept, fail, Except.mapError, Prod.ext_iff]

theorem eval_repo_ok {σ : Type} {handler : Handler SiteCall SiteCall.Reply σ} {program : Repo α}
    {s s' : σ} {value : α} :
    eval handler (repo program) s = (.ok value, s') ↔
      eval handler program s = (.ok value, s') := by
  simp [repo, eval, orElse, Prod.ext_iff]

/-- A listing or a lookup of the services that succeeds returns what there is. -/
theorem service_read_ok {outage : Outage} {program : App α} {call : Sys} {value : World → α}
    (hread : ∀ w, eval (handle outage.host) program w =
      ((outage.host.outcome call (value w)).mapError mapErr, w))
    {s s' : Site} {found : α} (h : eval (serve outage) (service program) s = (.ok found, s')) :
    found = value s.host ∧ s' = s := by
  rw [service, eval_repo_ok, host, eval_embed (site_embedding_acts outage), hread,
    Plan.outcome] at h
  cases herror : outage.host.error call with
  | none =>
      rw [herror] at h
      cases h
      exact ⟨rfl, rfl⟩
  | some e =>
      rw [herror] at h
      cases h

theorem eval_parse_id {marker : Type} {crates : WebCrates} {outage : Outage} {s : Site}
    {path : String} {id : Id marker} (hpath : crates.parseUuid path = some id.value) :
    eval (serve outage) (parseId crates path) s = (.ok id, s) := by
  rw [parseId, hpath]
  rfl

/-- A message that cannot be read is no message. -/
theorem eval_take_flash (outage : Outage) (session : SessionId) (s : Site) :
    ∃ flash shown, eval (serve outage) (takeFlash session) s = (.ok flash, shown) := by
  unfold takeFlash sessionGet
  simp only [eval_bind, eval_always, eval_pure]
  split
  · exact ⟨_, _, rfl⟩
  · exact ⟨_, _, rfl⟩

end Web

/-! ## Sessions -/

/-- The calls of the session store succeed. -/
structure Outage.KeepsSessions (outage : Outage) : Prop where
  get : ∀ id key, outage.error (.getSession id key) = Option.none
  insert : ∀ id key value, outage.error (.insertSession id key value) = Option.none
  remove : ∀ id key, outage.error (.removeSession id key) = Option.none

/-- The site with another value under a key of a session. -/
def Site.setSession (s : Site) (session : SessionId) (key : SessionKey)
    (value : Option key.Value) : Site :=
  { s with sessions :=
      Function.update s.sessions session ((s.sessions session).set key value) }

theorem Site.set_session_congr {s s' : Site} (h : s.sessions = s'.sessions)
    (session : SessionId) (key : SessionKey) (value : Option key.Value) :
    (s.setSession session key value).sessions = (s'.setSession session key value).sessions := by
  simp only [Site.setSession, h]

section Sessions

variable {outage : Outage} (hwork : outage.KeepsSessions) {session : SessionId} {s : Site}
  {α : Type} {next : Unit → Web α} {post : Except (Stop WebError) α → Site → Prop}
include hwork

theorem Web.eval_session_get (key : SessionKey) :
    eval (serve outage) (Web.sessionGet session key) s =
      (.ok ((s.sessions session).get key), s) := by
  simp [Web.sessionGet, serve, Outage.read, Outage.outcome, hwork.get, Except.toOption]

/-- Sequential rules for the calls that write to a session. -/
theorem Web.session_insert_bind {key : SessionKey} {value : key.Value}
    (hnext : Triple (serve outage)
      (Site.sessions · = (s.setSession session key (some value)).sessions) (next ()) post) :
    Triple (serve outage) (Site.sessions · = s.sessions)
      (Web.sessionInsert session key value >>= next) post := by
  intro s1 hs1
  have heval : eval (serve outage) (Web.sessionInsert session key value) s1 =
      (.ok (), s1.setSession session key (some value)) := by
    simp [Web.sessionInsert, serve, Outage.session, Outage.run, hwork.insert, Site.setSession]
  rw [eval_bind, heval]
  exact hnext _ (Site.set_session_congr hs1 _ _ _)

theorem Web.session_remove_bind {key : SessionKey}
    (hnext : Triple (serve outage)
      (Site.sessions · = (s.setSession session key none).sessions) (next ()) post) :
    Triple (serve outage) (Site.sessions · = s.sessions)
      (Web.sessionRemove session key >>= next) post := by
  intro s1 hs1
  have heval : eval (serve outage) (Web.sessionRemove session key) s1 =
      (.ok (), s1.setSession session key none) := by
    simp [Web.sessionRemove, serve, Outage.session, Outage.run, hwork.remove, Site.setSession]
  rw [eval_bind, heval]
  exact hnext _ (Site.set_session_congr hs1 _ _ _)

theorem AuthUser.eval_store (user : AuthUser) :
    eval (serve outage) (user.store session) s =
      (.ok (), s.setSession session .authUser (some user)) := by
  simp [AuthUser.store, serve, Outage.session, Outage.run, hwork.insert, Site.setSession,
    Except.mapError]

theorem AuthUser.store_bind {user : AuthUser}
    (hnext : Triple (serve outage)
      (Site.sessions · = (s.setSession session .authUser (some user)).sessions) (next ()) post) :
    Triple (serve outage) (Site.sessions · = s.sessions) (user.store session >>= next) post := by
  intro s1 hs1
  rw [eval_bind, AuthUser.eval_store hwork]
  exact hnext _ (Site.set_session_congr hs1 _ _ _)

theorem AuthUser.clear_bind
    (hnext : Triple (serve outage)
      (Site.sessions · = (s.setSession session .authUser none).sessions) (next ()) post) :
    Triple (serve outage) (Site.sessions · = s.sessions)
      (AuthUser.clear session >>= next) post := by
  intro s1 hs1
  have heval : eval (serve outage) (AuthUser.clear session) s1 =
      (.ok (), s1.setSession session .authUser none) := by
    simp [AuthUser.clear, serve, Outage.session, Outage.run, hwork.remove, Site.setSession,
      Except.mapError]
  rw [eval_bind, heval]
  exact hnext _ (Site.set_session_congr hs1 _ _ _)

end Sessions

/-- The calls that write to no session leave the sessions alone. -/
theorem SiteCall.leaves_sessions {outage : Outage} {c : SiteCall} (h : ¬ c.WritesSession) :
    ∀ s, (serve outage c s).2.sessions = s.sessions :=
  serve_sessions outage h

/-- Sequential rule for an audit event. -/
theorem Web.audit_record_bind {outage : Outage} {s : Site} {α : Type}
    {actor : Option (Id UserMarker)} {actorIp : Option String} {action : AuditAction}
    {resourceType resourceId : Option String} {metadata : Option Json.Object}
    {next : Unit → Web α} {post : Except (Stop WebError) α → Site → Prop}
    (hnext : Triple (serve outage) (Site.sessions · = s.sessions) (next ()) post) :
    Triple (serve outage) (Site.sessions · = s.sessions)
      (Web.auditRecord actor actorIp action resourceType resourceId metadata >>= next) post := by
  refine Triple.bind_ignored ?_ hnext
  exact Issues.run_bind (site_now_issues (SiteCall.leaves_sessions id)) fun _ =>
    Issues.run_or_else (Issues.request (SiteCall.leaves_sessions id))

end Wireforge
