import Wireforge.Access.TokenRuns
import Wireforge.Front.Confined

/-!
# Requests and accounts

Every handler is confined to the accounts of its caller. Hence a request whose caller is known
changes no row, token or session of anybody else, and logs nobody in or out (`requests_confined`);
a request without a caller is answered without touching the site.
-/

namespace Wireforge

open Effect

section Handlers

variable {crates : WebCrates} {session : SessionId} {user : AuthUser}

/-! ## Interface pages -/

namespace Routes.Interfaces

theorem gateways_confined : Confined (some session) user.id gateways :=
  (Web.list_confined _).bind fun _ => .pure _

theorem form_error_new_confined (form : InterfaceForm) (message : String) :
    Confined (some session) user.id (formErrorNew user form message) :=
  gateways_confined.bind fun _ => .pure _

theorem form_error_edit_confined (iface : Interface) (form : InterfaceForm) (message : String) :
    Confined (some session) user.id (formErrorEdit user iface form message) :=
  gateways_confined.bind fun _ => .pure _

theorem rows_confined (interfaces : List Interface) :
    Confined (some session) user.id (rows interfaces) := by
  induction interfaces with
  | nil => exact .pure _
  | cons iface rest ih =>
      exact (Web.service_confined _).bind fun _ =>
          ih.bind fun _ => .pure _

theorem list_confined : Confined (some session) user.id (list session user) :=
  (Web.service_confined _).bind fun _ =>
    (rows_confined _).bind fun _ =>
      (Web.take_flash_confined session).bind fun _ => .pure _

theorem new_page_confined : Confined (some session) user.id (newPage crates session user) :=
  (Web.take_flash_confined session).bind fun _ =>
    (Web.host_confined _).attempt.bind fun _ =>
      gateways_confined.bind fun _ => .pure _

theorem find_interface_confined (id : Id InterfaceMarker) :
    Confined (some session) user.id (findInterface id) :=
  (Web.service_confined _).bind fun _ =>
    Web.or_fail_confined _ _

theorem edit_page_confined (path : String) :
    Confined (some session) user.id (editPage crates session user path) :=
  (Web.parse_id_confined crates path).bind fun id =>
    (find_interface_confined id).bind fun _ =>
      (Web.take_flash_confined session).bind fun _ =>
        gateways_confined.bind fun _ => .pure _

theorem create_confined (form : InterfaceForm) :
    Confined (some session) user.id (create crates session user form) := by
  refine (AuthUser.require_mutate_confined user).bind fun _ => ?_
  cases parseForm crates form with
  | error message => exact form_error_new_confined form message
  | ok parsed =>
      refine Confined.bind (.attempt (Web.host_confined _)) fun result => ?_
      cases result with
      | ok iface =>
          exact (Web.audit_confined ..).bind fun _ =>
            (Web.set_flash_confined session _).bind fun _ => .pure _
      | error e =>
          cases e with
          | conflict message | validation message => exact form_error_new_confined form message
          | _ => exact .throw _

theorem edit_confined (path : String) (form : InterfaceForm) :
    Confined (some session) user.id (edit crates session user path form) := by
  refine (AuthUser.require_mutate_confined user).bind fun _ => ?_
  refine (Web.parse_id_confined crates path).bind fun id => ?_
  refine (find_interface_confined id).bind fun iface => ?_
  cases parseForm crates form with
  | error message => exact form_error_edit_confined iface form message
  | ok parsed =>
      refine Confined.bind (.attempt (Web.host_confined _)) fun result => ?_
      cases result with
      | ok _ => exact (Web.set_flash_confined session _).bind fun _ => .pure _
      | error e =>
          cases e with
          | validation message => exact form_error_edit_confined iface form message
          | _ => exact .throw _

/-- The pages that start, stop and delete an interface: an operation, an event and a message. -/
theorem start_confined (path : String) :
    Confined (some session) user.id (start crates session user path) :=
  (AuthUser.require_mutate_confined user).bind fun _ =>
    (Web.parse_id_confined crates path).bind fun _ =>
      (Web.service_confined _).bind fun _ =>
        (Web.audit_confined ..).bind fun _ =>
          (Web.set_flash_confined session _).bind fun _ => .pure _

theorem stop_confined (path : String) :
    Confined (some session) user.id (stop crates session user path) :=
  (AuthUser.require_mutate_confined user).bind fun _ =>
    (Web.parse_id_confined crates path).bind fun _ =>
      (Web.service_confined _).bind fun _ =>
        (Web.audit_confined ..).bind fun _ =>
          (Web.set_flash_confined session _).bind fun _ => .pure _

theorem delete_confined (path : String) :
    Confined (some session) user.id (delete crates session user path) :=
  (AuthUser.require_mutate_confined user).bind fun _ =>
    (Web.parse_id_confined crates path).bind fun _ =>
      (Web.service_confined _).bind fun _ =>
        (Web.audit_confined ..).bind fun _ =>
          (Web.set_flash_confined session _).bind fun _ => .pure _

end Routes.Interfaces

/-! ## Peer pages -/

namespace Routes.Peers

theorem form_error_confined (form : PeerForm) (message : String) :
    Confined (some session) user.id (formError user form message) :=
  (Web.list_confined _).bind fun _ => .pure _

theorem edit_form_error_confined (id : Id PeerMarker) (form : PeerEditForm) (message : String) :
    Confined (some session) user.id (editFormError user id form message) :=
  (Web.host_confined _).attempt.bind fun _ =>
    (Web.list_confined _).bind fun _ => .pure _

theorem list_confined : Confined (some session) user.id (list session user) :=
  (Web.service_confined _).bind fun _ =>
    (Web.service_confined _).bind fun _ =>
      (Web.take_flash_confined session).bind fun _ => .pure _

theorem new_page_confined : Confined (some session) user.id (newPage session user) := by
  refine (Web.service_confined _).bind
    fun interfaces => ?_
  cases interfaces with
  | nil => exact .pure _
  | cons first rest => exact (Web.take_flash_confined session).bind fun _ => .pure _

theorem find_peer_confined (id : Id PeerMarker) : Confined (some session) user.id (findPeer id) :=
  (Web.service_confined _).bind fun _ =>
    Web.or_fail_confined _ _

theorem render_conf_confined (iface : Interface) (peer : Peer) :
    Confined (some session) user.id (renderConf crates iface peer) :=
  Web.endpoint_confined.bind fun _ => Web.of_except_confined _

theorem peer_conf_confined (peer : Peer) : Confined (some session) user.id (peerConf crates peer) :=
  (Web.service_confined _).bind fun _ =>
    (Web.or_fail_confined _ _).bind fun iface => render_conf_confined iface peer

theorem created_confined (peer : Peer) :
    Confined (some session) user.id (created crates user peer) :=
  (Web.repo_confined (.or_else (Issues.request trivial))).bind fun _ =>
    (Web.or_fail_confined _ _).bind fun iface =>
      (render_conf_confined iface peer).bind fun _ =>
        (Web.audit_confined ..).bind fun _ => .pure _

theorem create_confined (form : PeerForm) :
    Confined (some session) user.id (create crates user form) := by
  refine (AuthUser.require_mutate_confined user).bind fun _ => ?_
  cases createInput crates user form with
  | error message => exact form_error_confined form message
  | ok input =>
      refine Confined.bind (.attempt (Web.host_confined _)) fun result => ?_
      cases result with
      | ok peer => exact created_confined peer
      | error e =>
          cases e with
          | validation message | conflict message | ipPoolExhausted message =>
              exact form_error_confined form message
          | _ => exact .throw _

theorem edit_page_confined (path : String) :
    Confined (some session) user.id (editPage crates session user path) :=
  (Web.parse_id_confined crates path).bind fun id =>
    (find_peer_confined id).bind fun _ =>
      (Web.service_confined _).bind fun _ =>
        (Web.take_flash_confined session).bind fun _ => .pure _

theorem edit_confined (path : String) (form : PeerEditForm) :
    Confined (some session) user.id (edit crates session user path form) := by
  refine (AuthUser.require_mutate_confined user).bind fun _ => ?_
  refine (Web.parse_id_confined crates path).bind fun id => ?_
  cases updateInput crates form with
  | error message => exact edit_form_error_confined id form message
  | ok input =>
      refine Confined.bind (.attempt (Web.host_confined _)) fun result => ?_
      cases result with
      | ok peer => exact (Web.set_flash_confined session _).bind fun _ => .pure _
      | error e =>
          cases e with
          | validation message | conflict message =>
              exact edit_form_error_confined id form message
          | _ => exact .throw _

theorem toggle_confined (path : String) :
    Confined (some session) user.id (toggle crates user path) :=
  (AuthUser.require_mutate_confined user).bind fun _ =>
    (Web.parse_id_confined crates path).bind fun id =>
      (find_peer_confined id).bind fun _ =>
        (Web.service_confined _).bind fun _ =>
          (Web.audit_confined ..).bind fun _ => .pure _

theorem delete_confined (path : String) :
    Confined (some session) user.id (delete crates session user path) :=
  (AuthUser.require_mutate_confined user).bind fun _ =>
    (Web.parse_id_confined crates path).bind fun _ =>
      (Web.service_confined _).bind fun _ =>
        (Web.audit_confined ..).bind fun _ =>
          (Web.set_flash_confined session _).bind fun _ => .pure _

theorem download_confined (path : String) :
    Confined (some session) user.id (download crates path) :=
  (Web.parse_id_confined crates path).bind fun id =>
    (find_peer_confined id).bind fun peer =>
      (peer_conf_confined peer).bind fun _ => .pure _

theorem qr_confined (path : String) : Confined (some session) user.id (qr crates path) :=
  (Web.parse_id_confined crates path).bind fun id =>
    (find_peer_confined id).bind fun peer =>
      (peer_conf_confined peer).bind fun _ =>
        (Web.of_except_confined _).bind fun _ => .pure _

end Routes.Peers

/-! ## Profile and settings -/

namespace Routes.Profile

/-- The second factor of the user. -/
theorem update_totp_confined (enabled : Bool) (secret : Option ByteArray) :
    Confined (some session) user.id
      (Web.repo (SqliteUserRepository.updateTotp user.id enabled secret)) :=
  Web.repo_confined (site_now_confined.bind fun _ => .or_else (Issues.request rfl))

theorem index_confined : Confined (some session) user.id (index session user) :=
  (Web.repo_confined (.or_else (Issues.request trivial))).bind fun _ =>
    (Web.or_fail_confined _ _).bind fun _ =>
      (Web.take_flash_confined session).bind fun _ => .pure _

theorem totp_setup_page_confined :
    Confined (some session) user.id (totpSetupPage crates session user) :=
  Web.settings_confined.bind fun _ =>
    (Confined.always (c := .drawTotpSecret) trivial).bind fun _ =>
      (Web.of_except_confined _).bind fun _ =>
        (Web.session_insert_confined session .totpSetup trivial _).bind fun _ =>
          (Web.of_except_confined _).bind fun _ =>
            (Web.take_flash_confined session).bind fun _ => .pure _

theorem enable_confined (secret : String) :
    Confined (some session) user.id (enable crates session user secret) :=
  (Web.of_except_confined _).bind fun _ =>
    (update_totp_confined _ _).bind fun _ =>
      (Web.session_remove_confined session .totpSetup trivial).bind fun _ =>
        (Web.set_flash_confined session _).bind fun _ =>
          (Web.audit_confined ..).bind fun _ => .pure _

theorem totp_confirm_confined (form : TotpForm) :
    Confined (some session) user.id (totpConfirm crates session user form) := by
  refine (Web.session_get_confined session .totpSetup).bind fun found => ?_
  cases found with
  | none => exact .pure _
  | some secret =>
      refine Web.settings_confined.bind fun s => ?_
      refine Confined.bind ⟨Web.verify_code_issues crates trivial _ _ _ _⟩ fun valid => ?_
      exact .ite (enable_confined secret) ((Web.of_except_confined _).bind fun _ => .pure _)

theorem totp_disable_confined : Confined (some session) user.id (totpDisable session user) :=
  (update_totp_confined _ _).bind fun _ =>
    (Web.set_flash_confined session _).bind fun _ =>
      (Web.audit_confined ..).bind fun _ => .pure _

end Routes.Profile

namespace Routes.Settings

variable {config : WebConfig}

theorem index_confined : Confined (some session) user.id (index config session user) :=
  .ite (.throw _) (Web.settings_confined.bind fun _ =>
    (Web.take_flash_confined session).bind fun _ => .pure _)

theorem upserts_confined (values : List (String × Json.Value)) :
    Confined (some session) user.id (forEach (fun entry : String × Json.Value =>
      SqliteSettingsRepository.upsert entry.1 entry.2.display (some user.id)) values) := by
  induction values with
  | nil => exact .pure _
  | cons entry rest ih =>
      refine Confined.bind ?_ fun _ => ih
      exact site_now_confined.bind fun _ => .or_else (Issues.request rfl)

theorem save_confined (form : SettingsForm) :
    Confined (some session) user.id (save config session user form) := by
  refine .ite (.throw _) ?_
  cases form.validate with
  | error message => exact .pure _
  | ok _ =>
      refine (Web.repo_confined ?_).bind fun _ => ?_
      · exact (upserts_confined _).bind fun _ => .always (c := .applyOverrides _) trivial
      · refine Confined.bind ⟨Issues.run_ignore ?_⟩ fun _ => ?_
        · exact Issues.run_or_else (Issues.request trivial)
        · exact (Web.audit_confined ..).bind fun _ =>
            (Web.set_flash_confined session _).bind fun _ => .pure _

end Routes.Settings

/-! ## Other pages -/

namespace Routes.Dashboard

theorem build_confined : Confined (some session) user.id (buildTrafficSnapshot crates) := by
  refine (Web.repo_confined (.or_else (Issues.request trivial))).bind fun latest => ?_
  refine (Web.service_confined _).bind fun peers => ?_
  refine (Web.service_confined _).bind
    fun interfaces => ?_
  refine (Web.repo_confined site_now_confined).bind fun now => ?_
  cases now.add dayBefore with
  | error panic => exact .throw _
  | ok since =>
      exact (Web.repo_confined (.or_else (Issues.request trivial))).bind
        fun _ => .pure _

theorem index_confined : Confined (some session) user.id (index crates session user) :=
  (Web.service_confined _).bind fun _ =>
    (Web.service_confined _).bind fun _ =>
      (Web.list_confined _).bind fun _ =>
        build_confined.bind fun _ =>
          (Web.take_flash_confined session).bind fun _ => .pure _

theorem tick_confined : Confined (some session) user.id (tick crates) := by
  refine build_confined.attempt.bind fun result => ?_
  cases result with
  | ok traffic => exact .pure _
  | error stop =>
      cases stop with
      | error e => exact .pure _
      | panic panic => exact .throw _

theorem ticks_confined (n : Nat) : Confined (some session) user.id (ticks crates n) := by
  induction n with
  | zero => exact .pure _
  | succ n ih => exact tick_confined.bind fun _ => ih.bind fun _ => .pure _

theorem stream_confined (n : Nat) : Confined (some session) user.id (trafficStream crates n) :=
  (ticks_confined n).bind fun _ => .pure _

end Routes.Dashboard

namespace Routes.System

theorem index_confined : Confined (some session) user.id (index session user) :=
  (Web.list_confined _).bind fun _ =>
    (Web.take_flash_confined session).bind fun _ => .pure _

theorem ticks_confined (n : Nat) : Confined (some session) user.id (ticks n) := by
  induction n with
  | zero => exact .pure _
  | succ n ih =>
      exact (Web.list_confined _).bind fun _ =>
        ih.bind fun _ => .pure _

theorem stream_confined (n : Nat) : Confined (some session) user.id (stream n) :=
  (ticks_confined n).bind fun _ => .pure _

end Routes.System

namespace Routes

theorem Audit.list_confined : Confined (some session) user.id (Audit.list crates session user) :=
  .ite (.throw _) ((Web.repo_confined (.or_else (Issues.request trivial))).bind
    fun _ => (Web.take_flash_confined session).bind fun _ => .pure _)

theorem Ws.ticks_confined (n : Nat) : Confined (some session) user.id (Ws.ticks crates n) := by
  induction n with
  | zero => exact .pure _
  | succ n ih =>
      exact (Web.repo_confined site_now_confined).bind fun _ => ih.bind fun _ => .pure _

theorem Ws.events_confined (n : Nat) : Confined (some session) user.id (Ws.events crates n) :=
  (Ws.ticks_confined n).bind fun _ => .pure _

end Routes

/-- The handler of a page is confined to the accounts of its user. -/
theorem WebRoute.handler_confined (config : WebConfig) (route : WebRoute) :
    Confined (some session) user.id (route.handler crates config session user) := by
  cases route with
  | dashboard => exact Routes.Dashboard.index_confined
  | trafficStream ticks => exact Routes.Dashboard.stream_confined ticks
  | interfaces => exact Routes.Interfaces.list_confined
  | newInterface => exact Routes.Interfaces.new_page_confined
  | createInterface form => exact Routes.Interfaces.create_confined form
  | interfacePage path => exact Routes.Interfaces.edit_page_confined path
  | editInterface path form => exact Routes.Interfaces.edit_confined path form
  | startInterface path => exact Routes.Interfaces.start_confined path
  | stopInterface path => exact Routes.Interfaces.stop_confined path
  | deleteInterface path => exact Routes.Interfaces.delete_confined path
  | system => exact Routes.System.index_confined
  | systemStream ticks => exact Routes.System.stream_confined ticks
  | peers => exact Routes.Peers.list_confined
  | newPeer => exact Routes.Peers.new_page_confined
  | createPeer form => exact Routes.Peers.create_confined form
  | peerPage path => exact Routes.Peers.edit_page_confined path
  | editPeer path form => exact Routes.Peers.edit_confined path form
  | togglePeer path => exact Routes.Peers.toggle_confined path
  | deletePeer path => exact Routes.Peers.delete_confined path
  | downloadPeer path => exact Routes.Peers.download_confined path
  | peerQr path => exact Routes.Peers.qr_confined path
  | profile => exact Routes.Profile.index_confined
  | totpSetup => exact Routes.Profile.totp_setup_page_confined
  | totpConfirm form => exact Routes.Profile.totp_confirm_confined form
  | totpDisable => exact Routes.Profile.totp_disable_confined
  | audit => exact Routes.Audit.list_confined
  | settings => exact Routes.Settings.index_confined
  | saveSettings form => exact Routes.Settings.save_confined form
  | events ticks => exact Routes.Ws.events_confined ticks

/-! ## REST handlers -/

namespace Api

/-- A handler that checks the caller's role, reads the request, runs an operation and shows its
result. -/
theorem operation_confined {α β : Type} {input : Except ApiError β} {operation : β → App α}
    {next : α → Api ApiResponse} (hnext : ∀ value, Confined none user.id (next value)) :
    Confined none user.id (do
      ofExcept (ApiAuthUser.requireMutate user)
      let value ← ofExcept input
      let result ← Api.service (operation value)
      next result) :=
  (of_except_confined _).bind fun _ =>
    (of_except_confined input).bind fun _ =>
      (Api.service_confined _).bind hnext

/-- A handler of this kind that also checks the fields of the request, and may read an identifier
first. -/
theorem checked_confined {α β γ : Type} {failed : List String} {path : Except ApiError γ}
    {input : Except ApiError β} {operation : γ → β → App α} {next : α → Api ApiResponse}
    (hnext : ∀ value, Confined none user.id (next value)) :
    Confined none user.id (do
      ofExcept (ApiAuthUser.requireMutate user)
      ofExcept (validate crates failed)
      let id ← ofExcept path
      let value ← ofExcept input
      let result ← Api.service (operation id value)
      next result) :=
  (of_except_confined _).bind fun _ =>
    (of_except_confined _).bind fun _ => (of_except_confined path).bind fun _ =>
      (of_except_confined input).bind fun _ =>
        (Api.service_confined _).bind hnext

theorem Interfaces.list_confined : Confined none user.id (Interfaces.list crates) :=
  (Api.service_confined _).bind fun _ => .pure _

theorem Interfaces.get_one_confined (path : String) :
    Confined none user.id (Interfaces.getOne crates path) :=
  (of_except_confined _).bind fun _ =>
    (Api.service_confined _).bind fun _ =>
      (or_fail_confined _ _).bind fun _ => .pure _

theorem Interfaces.create_confined (req : CreateInterfaceRequest) :
    Confined none user.id (Interfaces.create crates user req) :=
  (of_except_confined _).bind fun _ =>
    (of_except_confined _).bind fun _ => (of_except_confined _).bind fun _ =>
      (Api.service_confined _).bind fun _ => .pure _

theorem Peers.list_confined : Confined none user.id (Peers.list crates) :=
  (Api.service_confined _).bind fun _ => .pure _

theorem Peers.get_one_confined (path : String) : Confined none user.id (Peers.getOne crates path) :=
  (of_except_confined _).bind fun _ =>
    (Api.service_confined _).bind fun _ =>
      (or_fail_confined _ _).bind fun _ => .pure _

theorem Peers.create_confined (req : CreatePeerRequest) :
    Confined none user.id (Peers.create crates user req) :=
  (of_except_confined _).bind fun _ =>
    (of_except_confined _).bind fun _ => (of_except_confined _).bind fun _ =>
      (Api.service_confined _).bind fun _ => .pure _

theorem Peers.peer_conf_confined (path : String) :
    Confined none user.id (Peers.peerConf crates path) :=
  (of_except_confined _).bind fun _ =>
    (Api.service_confined _).bind fun _ =>
      (or_fail_confined _ _).bind fun _ =>
        (Api.service_confined _).bind fun _ =>
          (or_fail_confined _ _).bind fun _ =>
            (Confined.always (c := .readSettings) trivial).bind fun _ => of_except_confined _

theorem Peers.config_confined (path : String) : Confined none user.id (Peers.config crates path) :=
  (Peers.peer_conf_confined path).bind fun _ => .pure _

theorem Peers.qr_confined (path : String) : Confined none user.id (Peers.qr crates path) :=
  (Peers.peer_conf_confined path).bind fun _ => (of_except_confined _).bind fun _ => .pure _

theorem Tokens.list_confined : Confined none user.id (Tokens.list crates user) :=
  (Api.repo_confined (.or_else (Issues.request trivial))).bind fun _ => .pure _

theorem Tokens.expiry_confined (days : Option Int) :
    Confined none user.id (Tokens.expiry days) := by
  cases days with
  | none => exact .pure _
  | some days =>
      refine .ite (Confined.bind (.always (c := .host .utcNow) trivial) fun now => ?_)
        (.throw _)
      cases TimeDelta.days days >>= now.add with
      | ok t => exact .pure _
      | error panic => exact .throw _

theorem Tokens.create_confined (req : CreateTokenRequest) :
    Confined none user.id (Tokens.create crates user req) := by
  refine (of_except_confined _).bind fun _ => (Tokens.expiry_confined _).bind fun _ => ?_
  refine Confined.bind (.always (c := .drawToken) trivial) fun seed => ?_
  refine (Api.repo_confined ?_).bind fun _ => .pure _
  exact Confined.bind (.always (c := .host .uuidV7) trivial) fun _ =>
    site_now_confined.bind fun _ =>
      Confined.bind (.or_else (Issues.request rfl)) fun _ => .pure _

theorem Tokens.revoke_confined (path : String) :
    Confined none user.id (Tokens.revoke crates user path) := by
  refine (of_except_confined _).bind fun id => (Api.repo_confined ?_).bind fun _ => .pure _
  exact site_now_confined.bind fun _ =>
    Confined.bind (.or_else (Issues.request rfl)) fun _ => .ite (.throw _) (.pure _)

end Api

/-- The handler of a REST request is confined to the accounts of its caller. -/
theorem ApiRoute.handler_confined (route : ApiRoute) :
    Confined none user.id (route.handler crates user) := by
  cases route with
  | interfaces => exact Api.Interfaces.list_confined
  | interface path => exact Api.Interfaces.get_one_confined path
  | createInterface req => exact Api.Interfaces.create_confined req
  | updateInterface | updatePeer => exact Api.checked_confined fun _ => .pure _
  | deleteInterface | startInterface | stopInterface | setPeerEnabled | deletePeer =>
      exact Api.operation_confined fun _ => .pure _
  | peers => exact Api.Peers.list_confined
  | peer path => exact Api.Peers.get_one_confined path
  | createPeer req => exact Api.Peers.create_confined req
  | peerConfig path => exact Api.Peers.config_confined path
  | peerQr path => exact Api.Peers.qr_confined path
  | tokens => exact Api.Tokens.list_confined
  | createToken req => exact Api.Tokens.create_confined req
  | revokeToken path => exact Api.Tokens.revoke_confined path

end Handlers

/-! ## Requests -/

/-- The session of a request of a page. -/
def Request.session : Request → Option SessionId
  | web session _ => some session
  | _ => none

/-- The search for the caller only reads. -/
theorem Web.from_parts_state (session : SessionId) (outage : Outage) (s : Site) :
    (eval (serve outage) (AuthUser.fromRequestParts session) s).2 = s := by
  have hreads : Issues SiteCall.Reads (AuthUser.fromRequestParts session).run :=
    Issues.run_bind (Issues.run_or_else (Issues.request trivial)) fun _ => Web.or_fail_issues _ _
  have hframe (call : SiteCall) (h : call.Reads) (s : Site) :
      id (serve outage call s).2 = id s := serve_reads outage h s
  exact hreads.frame hframe s

/-- A handler that runs once the caller is known: for a caller it does what the handler does, and
without one nothing. -/
theorem extracted_confined {ε β : Type} {extract : Fallible SiteCall SiteCall.Reply ε AuthUser}
    {handler : AuthUser → Fallible SiteCall SiteCall.Reply ε β} {outage : Outage} {s : Site}
    {session : Option SessionId} (hextract : (eval (serve outage) extract s).2 = s)
    (hhandler : ∀ user, Confined session user.id (handler user)) :
    match (eval (serve outage) extract s).1.toOption with
    | some user => ConfinedTo session user.id s (eval (serve outage) (extract >>= handler) s).2
    | none => (eval (serve outage) (extract >>= handler) s).2 = s := by
  rw [eval_bind]
  rcases heval : eval (serve outage) extract s with ⟨_ | user, s'⟩ <;> rw [heval] at hextract
  · exact hextract
  · obtain rfl : s' = s := hextract
    exact (hhandler user).keeps outage s'

/-- Whatever the state, the request and the calls that fail: a request with a caller changes no
row, token or session of anybody else, of the caller's row only the second factor, logs nobody in
or out, and signs with the caller what it records and configures; a request of the pages or of the
REST API without a caller changes nothing. -/
theorem requests_confined (server : Server) (s : Site) (a : Served) :
    (∀ caller, a.caller server s = some caller →
      ConfinedTo a.request.session caller.id (s.seen a.moment) (serveStep server s a)) ∧
    ((∀ session ip route, a.request ≠ .visit session ip route) → a.caller server s = none →
      serveStep server s a = s.seen a.moment) := by
  rcases a with ⟨request, moment⟩
  unfold serveStep Served.outcome Request.program
  cases request with
  | visit session clientIp route =>
      constructor
      · intro caller hcaller
        cases hcaller
      · intro hvisit
        exact absurd rfl (hvisit session clientIp route)
  | health =>
      constructor
      · intro caller hcaller
        cases hcaller
      · exact fun _ _ => rfl
  | web session route =>
      -- Extracting the caller changes nothing; the handler runs for whom has been found.
      have hhandler (user : AuthUser) : Confined (some session) user.id
          (route.handler server.crates server.config session user) :=
        WebRoute.handler_confined server.config route
      have hend := extracted_confined (Web.from_parts_state session moment.outage
        (s.seen moment)) hhandler
      rw [exec_map]
      constructor
      · intro caller hcaller
        rw [show (eval _ _ _).1.toOption = some caller from hcaller] at hend
        exact hend
      · intro _ hcaller
        rw [show (eval _ _ _).1.toOption = none from hcaller] at hend
        exact hend
  | api credentials route =>
      have hhandler (user : AuthUser) : Confined none user.id (route.handler server.crates user) :=
        ApiRoute.handler_confined route
      have hend := extracted_confined (ApiAuthUser.from_parts_state server.crates credentials
        moment.outage (s.seen moment)) hhandler
      rw [exec_map]
      constructor
      · intro caller hcaller
        rw [show (eval _ _ _).1.toOption = some caller from hcaller] at hend
        exact hend
      · intro _ hcaller
        rw [show (eval _ _ _).1.toOption = none from hcaller] at hend
        exact hend

/-- A user turns the second factor off. -/
def totpDisabled : Served :=
  ⟨.web ⟨0⟩ .totpDisable, .calm (siteOf ⟨⟨0⟩, "admin", .admin⟩) .inserted⟩

theorem requests_confined_totp :
    let s := siteOf ⟨⟨0⟩, "admin", .admin⟩
    ConfinedTo (some ⟨0⟩) ⟨0⟩ (s.seen totpDisabled.moment)
      (serveStep .transparent s totpDisabled) :=
  (requests_confined .transparent _ totpDisabled).1 ⟨⟨0⟩, "admin", .admin⟩ rfl

end Wireforge
