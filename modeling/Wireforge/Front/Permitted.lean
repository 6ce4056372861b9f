import Wireforge.Front.Routes
import Wireforge.Web.ContextSpec

/-!
# What is permitted

Without the right to mutate only those calls to the host are permitted that read, and without the
right to manage the settings no call that writes them. A program is permitted if all its calls are.
`Permitted.host` and `Permitted.configuration` say what a permitted program leaves alone; the other
lemmas are about the building blocks of the handlers.
-/

namespace Wireforge

open Effect

/-! ## Calls -/

/-- The calls to the host that only read. -/
def Sys.Reads : Sys → Prop
  | uuidV7 | utcNow | findInterface _ | findInterfaceByName _ | listInterfaces | findPeer _
  | listPeersOf _ | listPeers | generateKey | openApi _ | readDevice _ | readForward _
  | listLinks => True
  | _ => False

/-- Whether interfaces and peers may be changed, and whether the settings may. -/
structure Rights where
  mutate : Bool
  settings : Bool

/-- Neither may be changed. -/
def Rights.none : Rights := ⟨false, false⟩

/-- The rights that come with a role. -/
def Role.rights (role : Role) : Rights := ⟨role.canMutate, role.canManageSettings⟩

/-- The calls that are permitted with some rights. -/
def SiteCall.Permitted (rights : Rights) : SiteCall → Prop
  | host call => call.Reads ∨ rights.mutate = true
  | upsertSetting _ _ _ _ | applyOverrides _ => rights.settings = true
  | _ => True

/-- The table of settings and the live settings. -/
def Site.configuration (s : Site) : Table SettingRow.key × RuntimeSettings :=
  (s.accounts.settings, s.live)

variable {rights : Rights}

theorem handle_reads (plan : Plan) {c : Sys} (h : c.Reads) (w : World) :
    (handle plan c w).2 = w := by
  cases c <;> first | rfl | exact h.elim

/-- Without the right to mutate the host stays as it is. -/
theorem serve_host (outage : Outage) {c : SiteCall} (h : c.Permitted rights)
    (hrights : rights.mutate = false) (s : Site) : (serve outage c s).2.host = s.host := by
  cases c with
  | host call =>
      rcases h with hreads | hmutate
      · exact handle_reads outage.host hreads s.host
      · rw [hrights] at hmutate
        cases hmutate
  | insertUser | updateTotp | touchLastLogin | insertToken | upsertSetting | insertAudit =>
      exact Outage.write_frame Site.host (fun _ _ _ => rfl) s
  | revokeToken | clearBan | insertSession | removeSession | seriesTotals =>
      exact Outage.run_frame Site.host (fun _ => rfl) s
  | recordFailure => exact Outage.record_failure_frame Site.host (fun _ _ => rfl) s
  | _ => rfl

/-- Without the right to manage the settings they stay as they are. -/
theorem serve_configuration (outage : Outage) {c : SiteCall} (h : c.Permitted rights)
    (hrights : rights.settings = false) (s : Site) :
    (serve outage c s).2.configuration = s.configuration := by
  cases c with
  | upsertSetting | applyOverrides => exact absurd (hrights.symm.trans h) nofun
  | insertUser =>
      refine Outage.write_frame Site.configuration (fun s accounts hok => ?_) s
      exact congrArg (·, s.live) (Accounts.insert_user_ok hok).2.2.2
  | insertToken =>
      refine Outage.write_frame Site.configuration (fun s accounts hok => ?_) s
      exact congrArg (·, s.live) (Accounts.insert_token_ok hok).2.2.2.2
  | insertAudit =>
      refine Outage.write_frame Site.configuration (fun s accounts hok => ?_) s
      exact congrArg (·, s.live) (Accounts.insert_audit_ok hok).2.2
  | updateTotp | touchLastLogin =>
      refine Outage.write_frame Site.configuration (fun s accounts hok => ?_) s
      obtain rfl := Except.ok.inj hok
      rfl
  | revokeToken | clearBan | insertSession | removeSession | seriesTotals =>
      exact Outage.run_frame Site.configuration (fun _ => rfl) s
  | recordFailure => exact Outage.record_failure_frame Site.configuration (fun _ _ => rfl) s
  | _ => rfl

/-! ## Programs -/

section Programs

variable {α β ε ε' : Type}

/-- All calls of the program are permitted. -/
structure Permitted (rights : Rights) (program : Fallible SiteCall SiteCall.Reply ε α) : Prop where
  issues : Issues (SiteCall.Permitted rights) program.run

/-- The program issues reading calls only. -/
structure Reading (program : App α) : Prop where
  issues : Issues Sys.Reads program.run

namespace Permitted

variable {program : Fallible SiteCall SiteCall.Reply ε α}

theorem pure (value : α) :
    Permitted rights (Pure.pure value : Fallible SiteCall SiteCall.Reply ε α) :=
  ⟨trivial⟩

theorem throw (e : ε) :
    Permitted rights (MonadExcept.throw e : Fallible SiteCall SiteCall.Reply ε α) :=
  ⟨trivial⟩

theorem bind {next : α → Fallible SiteCall SiteCall.Reply ε β} (h : Permitted rights program)
    (hnext : ∀ value, Permitted rights (next value)) : Permitted rights (program >>= next) :=
  ⟨Issues.run_bind h.issues fun value => (hnext value).issues⟩

theorem ite {c : Prop} [Decidable c] {other : Fallible SiteCall SiteCall.Reply ε α}
    (h : Permitted rights program) (hother : Permitted rights other) :
    Permitted rights (if c then program else other) :=
  ⟨Issues.run_ite h.issues hother.issues⟩

theorem attempt (h : Permitted rights program) :
    Permitted rights
      (Effect.attempt program : Fallible SiteCall SiteCall.Reply ε' (Except ε α)) :=
  ⟨Issues.run_attempt h.issues⟩

theorem ignore (h : Permitted rights program) :
    Permitted rights (Effect.ignore program : Fallible SiteCall SiteCall.Reply ε' Unit) :=
  ⟨Issues.run_ignore h.issues⟩

theorem always {c : SiteCall} (h : c.Permitted rights) :
    Permitted rights (Effect.always c.request : Fallible SiteCall SiteCall.Reply ε c.Reply) :=
  ⟨Issues.run_always (Issues.request h)⟩

theorem or_else {rename : ε' → ε} {calls : Program SiteCall SiteCall.Reply (Except ε' α)}
    (h : Issues (SiteCall.Permitted rights) calls) : Permitted rights (orElse rename calls) :=
  ⟨Issues.run_or_else h⟩

/-- Without the right to mutate a program leaves the host as it is. -/
theorem host (h : Permitted rights program) (hrights : rights.mutate = false) (outage : Outage)
    (s : Site) : (eval (serve outage) program s).2.host = s.host :=
  h.issues.frame (fun _ hc => serve_host outage hc hrights) s

/-- Without the right to manage the settings a program leaves them as they are. -/
theorem configuration (h : Permitted rights program) (hrights : rights.settings = false)
    (outage : Outage) (s : Site) :
    (eval (serve outage) program s).2.configuration = s.configuration :=
  h.issues.frame (fun _ hc => serve_configuration outage hc hrights) s

end Permitted

/-! ## Building blocks -/

theorem Web.repo_permitted {program : Repo α} (h : Permitted rights program) :
    Permitted rights (Web.repo program) :=
  .or_else h.issues

theorem Api.repo_permitted {program : Repo α} (h : Permitted rights program) :
    Permitted rights (Api.repo program) :=
  .or_else h.issues

/-- An operation of a service is permitted if it only reads, or with the right to mutate. -/
theorem Web.host_permitted {program : App α} (h : Reading program ∨ rights.mutate = true) :
    Permitted rights (Web.host program) := by
  rcases h with hreads | hmutate
  · exact ⟨Issues.map (Issues.embed hreads.issues fun _ hc => .inl hc)⟩
  · have hall : Issues (fun _ => True) program.run := Issues.of_forall (fun _ => trivial) _
    exact ⟨Issues.map (Issues.embed hall fun _ _ => .inr hmutate)⟩

theorem Web.service_permitted {program : App α} (h : Reading program ∨ rights.mutate = true) :
    Permitted rights (Web.service program) :=
  Web.repo_permitted (Web.host_permitted h)

theorem Api.service_permitted {program : App α} (h : Reading program ∨ rights.mutate = true) :
    Permitted rights (Api.service program) :=
  Api.repo_permitted (Web.host_permitted h)

theorem Web.of_except_permitted (result : Except WebError α) :
    Permitted rights (Web.ofExcept result) := by
  cases result <;> exact ⟨trivial⟩

theorem Api.of_except_permitted (result : Except ApiError α) :
    Permitted rights (Api.ofExcept result) := by
  cases result <;> exact ⟨trivial⟩

theorem Web.or_fail_permitted (e : WebError) (value : Option α) :
    Permitted rights (Web.orFail e value) :=
  ⟨Web.or_fail_issues e value⟩

theorem Api.or_fail_permitted (e : ApiError) (value : Option α) :
    Permitted rights (Api.orFail e value) := by
  cases value <;> exact ⟨trivial⟩

theorem Web.list_permitted {program : App (List α)} (h : Reading program) :
    Permitted rights (Web.listOrEmpty program) :=
  (Web.host_permitted (.inl h)).attempt.bind fun _ => .pure _

theorem Web.parse_id_permitted {marker : Type} (crates : WebCrates) (path : String) :
    Permitted rights (Web.parseId crates path : Web (Id marker)) :=
  (Web.or_fail_permitted _ _).bind fun _ => .pure _

/-- What follows the check of the caller's role is permitted if it is for those who can mutate. -/
theorem AuthUser.require_mutate_bind {user : AuthUser} {next : Unit → Web α}
    (h : user.role.canMutate = true → Permitted rights (next ())) :
    Permitted rights (user.requireMutate >>= next) := by
  cases hmutate : user.role.canMutate with
  | false =>
      have hfail : user.requireMutate = Web.fail .forbidden := by
        simp [AuthUser.requireMutate, hmutate]
      rw [hfail]
      exact .throw _
  | true =>
      have hpass : user.requireMutate = Pure.pure () := by
        simp [AuthUser.requireMutate, hmutate]
      rw [hpass]
      exact h hmutate

theorem ApiAuthUser.require_mutate_bind {user : AuthUser} {next : Unit → Api α}
    (h : user.role.canMutate = true → Permitted rights (next ())) :
    Permitted rights (Api.ofExcept (ApiAuthUser.requireMutate user) >>= next) := by
  cases hmutate : user.role.canMutate with
  | false =>
      have hfail : ApiAuthUser.requireMutate user =
          .error (.forbidden "insufficient role for this operation") := by
        simp [ApiAuthUser.requireMutate, hmutate]
      rw [hfail]
      exact .throw _
  | true =>
      have hpass : ApiAuthUser.requireMutate user = .ok () := by
        simp [ApiAuthUser.requireMutate, hmutate]
      rw [hpass]
      exact h hmutate

end Programs

theorem site_now_permitted : Permitted rights siteNow :=
  ⟨site_now_issues (.inl trivial)⟩

theorem Web.audit_permitted {ε : Type} (actor : Option (Id UserMarker)) (ip : Option String)
    (action : AuditAction) (resourceType resourceId : Option String)
    (metadata : Option Json.Object) :
    Permitted rights
      (Web.auditRecord (ε := ε) actor ip action resourceType resourceId metadata) :=
  ⟨Web.audit_record_issues (.inl trivial) (fun _ => trivial) actor ip action resourceType
    resourceId metadata⟩

theorem Web.settings_permitted : Permitted rights Web.settingsSnapshot :=
  .always (c := .readSettings) trivial

theorem Web.endpoint_permitted : Permitted rights Web.endpoint :=
  Web.settings_permitted.bind fun _ => .pure _

section Session

variable (session : SessionId)

theorem Web.session_insert_permitted (key : SessionKey) (value : key.Value) :
    Permitted rights (Web.sessionInsert session key value) :=
  .ignore (.or_else (Issues.request trivial))

theorem Web.session_remove_permitted (key : SessionKey) :
    Permitted rights (Web.sessionRemove session key) :=
  .ignore (.or_else (Issues.request trivial))

theorem Web.session_get_permitted (key : SessionKey) :
    Permitted rights (Web.sessionGet session key) :=
  ⟨Web.session_get_issues trivial⟩

theorem Web.set_flash_permitted (flash : Flash) : Permitted rights (Web.setFlash session flash) :=
  Web.session_insert_permitted session .flash flash

theorem Web.take_flash_permitted : Permitted rights (Web.takeFlash session) :=
  (Web.session_get_permitted session .flash).bind fun _ =>
    .ite ((Web.session_remove_permitted session .flash).bind fun _ => .pure _) (.pure _)

theorem AuthUser.store_permitted (user : AuthUser) : Permitted rights (user.store session) :=
  .or_else (Issues.request trivial)

theorem AuthUser.clear_permitted : Permitted rights (AuthUser.clear session) :=
  .or_else (Issues.request trivial)

theorem AuthUser.from_parts_permitted : Permitted rights (AuthUser.fromRequestParts session) :=
  Permitted.bind (.or_else (Issues.request trivial)) fun _ => Web.or_fail_permitted _ _

end Session

/-! ## Reading the host -/

theorem SqliteInterfaceRepository.list_reading : Reading list :=
  ⟨Issues.run_or_else (Issues.request trivial)⟩

theorem SqliteInterfaceRepository.find_reading (id : Id InterfaceMarker) :
    Reading (findById id) :=
  ⟨Issues.run_or_else (Issues.request trivial)⟩

theorem SqlitePeerRepository.list_reading : Reading listAll :=
  ⟨Issues.run_or_else (Issues.request trivial)⟩

theorem SqlitePeerRepository.find_reading (id : Id PeerMarker) : Reading (findById id) :=
  ⟨Issues.run_or_else (Issues.request trivial)⟩

theorem SqlitePeerRepository.list_for_interface_reading (id : Id InterfaceMarker) :
    Reading (listForInterface id) :=
  ⟨Issues.run_or_else (Issues.request trivial)⟩

theorem GetifaddrsAdapter.list_reading : Reading list :=
  ⟨Issues.run_or_else (Issues.request trivial)⟩

end Wireforge
