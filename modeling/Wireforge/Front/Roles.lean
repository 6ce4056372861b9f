import Wireforge.Front.Permitted
import Wireforge.Lifecycle.ServiceRun

/-!
# Roles

Every handler issues only calls that the role of its caller permits. Hence a request of a caller
who cannot mutate leaves interfaces, peers, devices and firewall as they are, and one of a caller
who cannot manage the settings leaves these as they are (`roles_respected`).
-/

namespace Wireforge

open Effect

variable {rights : Rights} {crates : WebCrates} {session : SessionId} {user : AuthUser}

/-! ## Interface pages -/

namespace Routes.Interfaces

theorem gateways_permitted : Permitted rights gateways :=
  (Web.list_permitted GetifaddrsAdapter.list_reading).bind fun _ => .pure _

theorem form_error_new_permitted (form : InterfaceForm) (message : String) :
    Permitted rights (formErrorNew user form message) :=
  gateways_permitted.bind fun _ => .pure _

theorem form_error_edit_permitted (iface : Interface) (form : InterfaceForm) (message : String) :
    Permitted rights (formErrorEdit user iface form message) :=
  gateways_permitted.bind fun _ => .pure _

theorem rows_permitted (interfaces : List Interface) : Permitted rights (rows interfaces) := by
  induction interfaces with
  | nil => exact .pure _
  | cons iface rest ih =>
      exact (Web.service_permitted
        (.inl (SqlitePeerRepository.list_for_interface_reading _))).bind fun _ =>
          ih.bind fun _ => .pure _

theorem list_permitted : Permitted rights (list session user) :=
  (Web.service_permitted (.inl SqliteInterfaceRepository.list_reading)).bind fun _ =>
    (rows_permitted _).bind fun _ =>
      (Web.take_flash_permitted session).bind fun _ => .pure _

theorem fresh_keypair_reading : Reading (freshKeypair crates) := by
  refine ⟨Issues.run_bind ?_ fun _ => Issues.run_pure _⟩
  exact Issues.run_bind (Issues.run_always (Issues.request trivial)) fun _ =>
    Issues.run_bind (of_except_issues _) fun _ =>
      Issues.run_bind (of_except_issues _) fun _ => Issues.run_pure _

theorem new_page_permitted : Permitted rights (newPage crates session user) :=
  (Web.take_flash_permitted session).bind fun _ =>
    (Web.host_permitted (.inl fresh_keypair_reading)).attempt.bind fun _ =>
      gateways_permitted.bind fun _ => .pure _

theorem find_interface_permitted (id : Id InterfaceMarker) : Permitted rights (findInterface id) :=
  (Web.service_permitted (.inl (SqliteInterfaceRepository.find_reading id))).bind fun _ =>
    Web.or_fail_permitted _ _

theorem edit_page_permitted (path : String) :
    Permitted rights (editPage crates session user path) :=
  (Web.parse_id_permitted crates path).bind fun id =>
    (find_interface_permitted id).bind fun _ =>
      (Web.take_flash_permitted session).bind fun _ =>
        gateways_permitted.bind fun _ => .pure _

theorem create_permitted (form : InterfaceForm) :
    Permitted user.role.rights (create crates session user form) := by
  refine AuthUser.require_mutate_bind fun hmutate => ?_
  cases parseForm crates form with
  | error message => exact form_error_new_permitted form message
  | ok parsed =>
      refine Permitted.bind (.attempt (Web.host_permitted (.inr hmutate))) fun result => ?_
      cases result with
      | ok iface =>
          exact (Web.audit_permitted ..).bind fun _ =>
            (Web.set_flash_permitted session _).bind fun _ => .pure _
      | error e =>
          cases e with
          | conflict message | validation message => exact form_error_new_permitted form message
          | _ => exact .throw _

theorem edit_permitted (path : String) (form : InterfaceForm) :
    Permitted user.role.rights (edit crates session user path form) := by
  refine AuthUser.require_mutate_bind fun hmutate => ?_
  refine (Web.parse_id_permitted crates path).bind fun id => ?_
  refine (find_interface_permitted id).bind fun iface => ?_
  cases parseForm crates form with
  | error message => exact form_error_edit_permitted iface form message
  | ok parsed =>
      refine Permitted.bind (.attempt (Web.host_permitted (.inr hmutate))) fun result => ?_
      cases result with
      | ok _ => exact (Web.set_flash_permitted session _).bind fun _ => .pure _
      | error e =>
          cases e with
          | validation message => exact form_error_edit_permitted iface form message
          | _ => exact .throw _

/-- The pages that start, stop and delete an interface: an operation, an event and a message. -/
theorem start_permitted (path : String) :
    Permitted user.role.rights (start crates session user path) :=
  AuthUser.require_mutate_bind fun hmutate =>
    (Web.parse_id_permitted crates path).bind fun _ =>
      (Web.service_permitted (.inr hmutate)).bind fun _ =>
        (Web.audit_permitted ..).bind fun _ =>
          (Web.set_flash_permitted session _).bind fun _ => .pure _

theorem stop_permitted (path : String) :
    Permitted user.role.rights (stop crates session user path) :=
  AuthUser.require_mutate_bind fun hmutate =>
    (Web.parse_id_permitted crates path).bind fun _ =>
      (Web.service_permitted (.inr hmutate)).bind fun _ =>
        (Web.audit_permitted ..).bind fun _ =>
          (Web.set_flash_permitted session _).bind fun _ => .pure _

theorem delete_permitted (path : String) :
    Permitted user.role.rights (delete crates session user path) :=
  AuthUser.require_mutate_bind fun hmutate =>
    (Web.parse_id_permitted crates path).bind fun _ =>
      (Web.service_permitted (.inr hmutate)).bind fun _ =>
        (Web.audit_permitted ..).bind fun _ =>
          (Web.set_flash_permitted session _).bind fun _ => .pure _

end Routes.Interfaces

/-! ## Peer pages -/

namespace Routes.Peers

theorem form_error_permitted (form : PeerForm) (message : String) :
    Permitted rights (formError user form message) :=
  (Web.list_permitted SqliteInterfaceRepository.list_reading).bind fun _ => .pure _

theorem edit_form_error_permitted (id : Id PeerMarker) (form : PeerEditForm) (message : String) :
    Permitted rights (editFormError user id form message) :=
  (Web.host_permitted (.inl (SqlitePeerRepository.find_reading id))).attempt.bind fun _ =>
    (Web.list_permitted SqliteInterfaceRepository.list_reading).bind fun _ => .pure _

theorem list_permitted : Permitted rights (list session user) :=
  (Web.service_permitted (.inl SqliteInterfaceRepository.list_reading)).bind fun _ =>
    (Web.service_permitted (.inl SqlitePeerRepository.list_reading)).bind fun _ =>
      (Web.take_flash_permitted session).bind fun _ => .pure _

theorem new_page_permitted : Permitted rights (newPage session user) := by
  refine (Web.service_permitted (.inl SqliteInterfaceRepository.list_reading)).bind
    fun interfaces => ?_
  cases interfaces with
  | nil => exact .pure _
  | cons first rest => exact (Web.take_flash_permitted session).bind fun _ => .pure _

theorem find_peer_permitted (id : Id PeerMarker) : Permitted rights (findPeer id) :=
  (Web.service_permitted (.inl (SqlitePeerRepository.find_reading id))).bind fun _ =>
    Web.or_fail_permitted _ _

theorem render_conf_permitted (iface : Interface) (peer : Peer) :
    Permitted rights (renderConf crates iface peer) :=
  Web.endpoint_permitted.bind fun _ => Web.of_except_permitted _

theorem peer_conf_permitted (peer : Peer) : Permitted rights (peerConf crates peer) :=
  (Web.service_permitted (.inl (SqliteInterfaceRepository.find_reading _))).bind fun _ =>
    (Web.or_fail_permitted _ _).bind fun iface => render_conf_permitted iface peer

theorem created_permitted (peer : Peer) : Permitted rights (created crates user peer) :=
  (Web.repo_permitted (.or_else (Issues.request trivial))).bind fun _ =>
    (Web.or_fail_permitted _ _).bind fun iface =>
      (render_conf_permitted iface peer).bind fun _ =>
        (Web.audit_permitted ..).bind fun _ => .pure _

theorem create_permitted (form : PeerForm) :
    Permitted user.role.rights (create crates user form) := by
  refine AuthUser.require_mutate_bind fun hmutate => ?_
  cases createInput crates user form with
  | error message => exact form_error_permitted form message
  | ok input =>
      refine Permitted.bind (.attempt (Web.host_permitted (.inr hmutate))) fun result => ?_
      cases result with
      | ok peer => exact created_permitted peer
      | error e =>
          cases e with
          | validation message | conflict message | ipPoolExhausted message =>
              exact form_error_permitted form message
          | _ => exact .throw _

theorem edit_page_permitted (path : String) :
    Permitted rights (editPage crates session user path) :=
  (Web.parse_id_permitted crates path).bind fun id =>
    (find_peer_permitted id).bind fun _ =>
      (Web.service_permitted (.inl SqliteInterfaceRepository.list_reading)).bind fun _ =>
        (Web.take_flash_permitted session).bind fun _ => .pure _

theorem edit_permitted (path : String) (form : PeerEditForm) :
    Permitted user.role.rights (edit crates session user path form) := by
  refine AuthUser.require_mutate_bind fun hmutate => ?_
  refine (Web.parse_id_permitted crates path).bind fun id => ?_
  cases updateInput crates form with
  | error message => exact edit_form_error_permitted id form message
  | ok input =>
      refine Permitted.bind (.attempt (Web.host_permitted (.inr hmutate))) fun result => ?_
      cases result with
      | ok peer => exact (Web.set_flash_permitted session _).bind fun _ => .pure _
      | error e =>
          cases e with
          | validation message | conflict message =>
              exact edit_form_error_permitted id form message
          | _ => exact .throw _

theorem toggle_permitted (path : String) : Permitted user.role.rights (toggle crates user path) :=
  AuthUser.require_mutate_bind fun hmutate =>
    (Web.parse_id_permitted crates path).bind fun id =>
      (find_peer_permitted id).bind fun _ =>
        (Web.service_permitted (.inr hmutate)).bind fun _ =>
          (Web.audit_permitted ..).bind fun _ => .pure _

theorem delete_permitted (path : String) :
    Permitted user.role.rights (delete crates session user path) :=
  AuthUser.require_mutate_bind fun hmutate =>
    (Web.parse_id_permitted crates path).bind fun _ =>
      (Web.service_permitted (.inr hmutate)).bind fun _ =>
        (Web.audit_permitted ..).bind fun _ =>
          (Web.set_flash_permitted session _).bind fun _ => .pure _

theorem download_permitted (path : String) : Permitted rights (download crates path) :=
  (Web.parse_id_permitted crates path).bind fun id =>
    (find_peer_permitted id).bind fun peer =>
      (peer_conf_permitted peer).bind fun _ => .pure _

theorem qr_permitted (path : String) : Permitted rights (qr crates path) :=
  (Web.parse_id_permitted crates path).bind fun id =>
    (find_peer_permitted id).bind fun peer =>
      (peer_conf_permitted peer).bind fun _ =>
        (Web.of_except_permitted _).bind fun _ => .pure _

end Routes.Peers

/-! ## Profile and settings -/

namespace Routes.Profile

theorem update_totp_permitted (id : Id UserMarker) (enabled : Bool) (secret : Option ByteArray) :
    Permitted rights (Web.repo (SqliteUserRepository.updateTotp id enabled secret)) :=
  Web.repo_permitted ⟨SqliteUserRepository.update_totp_issues (.inl trivial)
    (fun _ _ _ _ => trivial) id enabled secret⟩

theorem index_permitted : Permitted rights (index session user) :=
  (Web.repo_permitted (.or_else (Issues.request trivial))).bind fun _ =>
    (Web.or_fail_permitted _ _).bind fun _ =>
      (Web.take_flash_permitted session).bind fun _ => .pure _

theorem totp_setup_page_permitted : Permitted rights (totpSetupPage crates session user) :=
  Web.settings_permitted.bind fun _ =>
    (Permitted.always (c := .drawTotpSecret) trivial).bind fun _ =>
      (Web.of_except_permitted _).bind fun _ =>
        (Web.session_insert_permitted session .totpSetup _).bind fun _ =>
          (Web.of_except_permitted _).bind fun _ =>
            (Web.take_flash_permitted session).bind fun _ => .pure _

theorem enable_permitted (secret : String) :
    Permitted rights (enable crates session user secret) :=
  (Web.of_except_permitted _).bind fun _ =>
    (update_totp_permitted _ _ _).bind fun _ =>
      (Web.session_remove_permitted session .totpSetup).bind fun _ =>
        (Web.set_flash_permitted session _).bind fun _ =>
          (Web.audit_permitted ..).bind fun _ => .pure _

theorem totp_confirm_permitted (form : TotpForm) :
    Permitted rights (totpConfirm crates session user form) := by
  refine (Web.session_get_permitted session .totpSetup).bind fun found => ?_
  cases found with
  | none => exact .pure _
  | some secret =>
      refine Web.settings_permitted.bind fun s => ?_
      refine Permitted.bind ⟨Web.verify_code_issues crates (.inl trivial) _ _ _ _⟩ fun valid => ?_
      exact .ite (enable_permitted secret) ((Web.of_except_permitted _).bind fun _ => .pure _)

theorem totp_disable_permitted : Permitted rights (totpDisable session user) :=
  (update_totp_permitted _ _ _).bind fun _ =>
    (Web.set_flash_permitted session _).bind fun _ =>
      (Web.audit_permitted ..).bind fun _ => .pure _

end Routes.Profile

namespace Routes.Settings

variable {config : WebConfig}

theorem index_permitted : Permitted rights (index config session user) :=
  .ite (.throw _) (Web.settings_permitted.bind fun _ =>
    (Web.take_flash_permitted session).bind fun _ => .pure _)

theorem upserts_permitted (hrights : rights.settings = true)
    (values : List (String × Json.Value)) (actor : Option (Id UserMarker)) :
    Permitted rights (forEach (fun entry : String × Json.Value =>
      SqliteSettingsRepository.upsert entry.1 entry.2.display actor) values) := by
  induction values with
  | nil => exact .pure _
  | cons entry rest ih =>
      refine Permitted.bind ?_ fun _ => ih
      exact site_now_permitted.bind fun _ => .or_else (Issues.request hrights)

theorem save_permitted (hrole : user.role.canManageSettings = true → rights.settings = true)
    (form : SettingsForm) : Permitted rights (save config session user form) := by
  unfold save
  cases hsettings : user.role.canManageSettings with
  | false => exact .throw _
  | true =>
      have hrights := hrole hsettings
      simp only [Bool.not_true, Bool.false_eq_true, if_false]
      cases form.validate with
      | error message => exact .pure _
      | ok _ =>
          refine (Web.repo_permitted ?_).bind fun _ => ?_
          · exact (upserts_permitted hrights _ _).bind fun _ =>
              .always (c := .applyOverrides _) hrights
          · exact Permitted.bind (.ignore (.or_else (Issues.request trivial))) fun _ =>
              (Web.audit_permitted ..).bind fun _ =>
                (Web.set_flash_permitted session _).bind fun _ => .pure _

end Routes.Settings

/-! ## Other pages -/

namespace Routes.Dashboard

theorem build_permitted : Permitted rights (buildTrafficSnapshot crates) := by
  refine (Web.repo_permitted (.or_else (Issues.request trivial))).bind fun latest => ?_
  refine (Web.service_permitted (.inl SqlitePeerRepository.list_reading)).bind fun peers => ?_
  refine (Web.service_permitted (.inl SqliteInterfaceRepository.list_reading)).bind
    fun interfaces => ?_
  refine (Web.repo_permitted site_now_permitted).bind fun now => ?_
  cases now.add dayBefore with
  | error panic => exact .throw _
  | ok since =>
      exact (Web.repo_permitted (.or_else (Issues.request trivial))).bind
        fun _ => .pure _

theorem index_permitted : Permitted rights (index crates session user) :=
  (Web.service_permitted (.inl SqliteInterfaceRepository.list_reading)).bind fun _ =>
    (Web.service_permitted (.inl SqlitePeerRepository.list_reading)).bind fun _ =>
      (Web.list_permitted GetifaddrsAdapter.list_reading).bind fun _ =>
        build_permitted.bind fun _ =>
          (Web.take_flash_permitted session).bind fun _ => .pure _

theorem tick_permitted : Permitted rights (tick crates) := by
  refine build_permitted.attempt.bind fun result => ?_
  cases result with
  | ok traffic => exact .pure _
  | error stop =>
      cases stop with
      | error e => exact .pure _
      | panic panic => exact .throw _

theorem ticks_permitted (n : Nat) : Permitted rights (ticks crates n) := by
  induction n with
  | zero => exact .pure _
  | succ n ih => exact tick_permitted.bind fun _ => ih.bind fun _ => .pure _

theorem stream_permitted (n : Nat) : Permitted rights (trafficStream crates n) :=
  (ticks_permitted n).bind fun _ => .pure _

end Routes.Dashboard

namespace Routes.System

theorem index_permitted : Permitted rights (index session user) :=
  (Web.list_permitted GetifaddrsAdapter.list_reading).bind fun _ =>
    (Web.take_flash_permitted session).bind fun _ => .pure _

theorem ticks_permitted (n : Nat) : Permitted rights (ticks n) := by
  induction n with
  | zero => exact .pure _
  | succ n ih =>
      exact (Web.list_permitted GetifaddrsAdapter.list_reading).bind fun _ =>
        ih.bind fun _ => .pure _

theorem stream_permitted (n : Nat) : Permitted rights (stream n) :=
  (ticks_permitted n).bind fun _ => .pure _

end Routes.System

namespace Routes

theorem Audit.list_permitted : Permitted rights (Audit.list crates session user) :=
  .ite (.throw _) ((Web.repo_permitted (.or_else (Issues.request trivial))).bind
    fun _ => (Web.take_flash_permitted session).bind fun _ => .pure _)

theorem Metrics.handler_permitted : Permitted rights Metrics.handler :=
  (Web.service_permitted (.inl SqliteInterfaceRepository.list_reading)).bind fun _ =>
    (Web.service_permitted (.inl SqlitePeerRepository.list_reading)).bind fun _ => .pure _

theorem Health.readyz_permitted : Permitted rights Health.readyz := by
  refine Permitted.bind (.attempt (.or_else (Issues.request trivial))) fun result => ?_
  cases result <;> exact .pure _

theorem Ws.ticks_permitted (n : Nat) : Permitted rights (Ws.ticks crates n) := by
  induction n with
  | zero => exact .pure _
  | succ n ih =>
      exact (Web.repo_permitted site_now_permitted).bind fun _ => ih.bind fun _ => .pure _

theorem Ws.events_permitted (n : Nat) : Permitted rights (Ws.events crates n) :=
  (Ws.ticks_permitted n).bind fun _ => .pure _

end Routes

/-- The handler of a page issues only calls that the role of its user permits. -/
theorem WebRoute.handler_permitted (config : WebConfig) (route : WebRoute) :
    Permitted user.role.rights (route.handler crates config session user) := by
  cases route with
  | dashboard => exact Routes.Dashboard.index_permitted
  | trafficStream ticks => exact Routes.Dashboard.stream_permitted ticks
  | interfaces => exact Routes.Interfaces.list_permitted
  | newInterface => exact Routes.Interfaces.new_page_permitted
  | createInterface form => exact Routes.Interfaces.create_permitted form
  | interfacePage path => exact Routes.Interfaces.edit_page_permitted path
  | editInterface path form => exact Routes.Interfaces.edit_permitted path form
  | startInterface path => exact Routes.Interfaces.start_permitted path
  | stopInterface path => exact Routes.Interfaces.stop_permitted path
  | deleteInterface path => exact Routes.Interfaces.delete_permitted path
  | system => exact Routes.System.index_permitted
  | systemStream ticks => exact Routes.System.stream_permitted ticks
  | peers => exact Routes.Peers.list_permitted
  | newPeer => exact Routes.Peers.new_page_permitted
  | createPeer form => exact Routes.Peers.create_permitted form
  | peerPage path => exact Routes.Peers.edit_page_permitted path
  | editPeer path form => exact Routes.Peers.edit_permitted path form
  | togglePeer path => exact Routes.Peers.toggle_permitted path
  | deletePeer path => exact Routes.Peers.delete_permitted path
  | downloadPeer path => exact Routes.Peers.download_permitted path
  | peerQr path => exact Routes.Peers.qr_permitted path
  | profile => exact Routes.Profile.index_permitted
  | totpSetup => exact Routes.Profile.totp_setup_page_permitted
  | totpConfirm form => exact Routes.Profile.totp_confirm_permitted form
  | totpDisable => exact Routes.Profile.totp_disable_permitted
  | audit => exact Routes.Audit.list_permitted
  | settings => exact Routes.Settings.index_permitted
  | saveSettings form => exact Routes.Settings.save_permitted id form
  | events ticks => exact Routes.Ws.events_permitted ticks

/-! ## Pages without login -/

namespace Routes.Auth

variable {clientIp : String}

theorem count_permitted : Permitted rights (Web.repo SqliteUserRepository.count) :=
  Web.repo_permitted (.or_else (Issues.request trivial))

theorem touch_permitted (id : Id UserMarker) :
    Permitted rights (Web.repo (SqliteUserRepository.touchLastLogin id)) :=
  Web.repo_permitted
    ⟨SqliteUserRepository.touch_last_login_issues (.inl trivial) (fun _ _ => trivial) id⟩

theorem login_page_permitted : Permitted rights loginPage :=
  count_permitted.bind fun _ => .ite (.pure _) (.pure _)

theorem locked_out_permitted : Permitted rights (lockedOut clientIp) := by
  refine (Web.repo_permitted (.or_else (Issues.request trivial))).bind fun found => ?_
  cases found with
  | none => exact .pure _
  | some ban => exact (Web.repo_permitted site_now_permitted).bind fun _ => .pure _

theorem password_accepted_permitted (row : User) :
    Permitted rights (passwordAccepted session clientIp row) := by
  refine Permitted.bind (.ignore (.or_else (Issues.request trivial))) fun _ => .ite ?_ ?_
  · exact (Web.session_insert_permitted session .pendingUser _).bind fun _ => .pure _
  · exact (touch_permitted _).bind fun _ => (AuthUser.store_permitted session _).bind fun _ =>
      (Web.audit_permitted ..).bind fun _ => .pure _

theorem password_refused_permitted (form : LoginForm) :
    Permitted rights (passwordRefused clientIp form) :=
  Web.settings_permitted.bind fun _ =>
    Permitted.bind
      ⟨SqliteBanRepository.record_row_issues (fun _ _ _ => trivial) _ _ _⟩ fun _ =>
        (Web.audit_permitted ..).bind fun _ => .pure _

theorem authenticate_permitted (username password : String) :
    Permitted rights (AuthService.authenticatePassword crates username password) := by
  refine Permitted.bind (.or_else (Issues.request trivial)) fun found => ?_
  cases found with
  | none => exact .throw _
  | some row =>
      simp only
      cases AuthService.verifyPassword crates password row.passwordHash with
      | error e => exact .throw _
      | ok valid => cases valid <;> exact ⟨trivial⟩

theorem login_submit_permitted (form : LoginForm) :
    Permitted rights (loginSubmit crates session clientIp form) := by
  refine locked_out_permitted.bind fun locked => .ite ?_ ?_
  · exact (Web.audit_permitted ..).bind fun _ => .pure _
  · refine (authenticate_permitted _ _).attempt.bind fun result => ?_
    cases result with
    | ok row => exact password_accepted_permitted row
    | error e =>
        cases e with
        | invalidCredentials => exact password_refused_permitted form
        | _ => exact .throw _

theorem stored_secret_permitted (row : User) : Permitted rights (storedSecret crates row) :=
  (Web.or_fail_permitted _ _).bind fun _ =>
    (Web.of_except_permitted _).bind fun _ => Web.or_fail_permitted _ _

theorem pending_row_permitted (pending : PendingUser) :
    Permitted rights (pendingRow crates pending) :=
  (Web.or_fail_permitted _ _).bind fun _ =>
    (Web.repo_permitted (.or_else (Issues.request trivial))).bind fun _ =>
      Web.or_fail_permitted _ _

theorem code_accepted_permitted (row : User) :
    Permitted rights (codeAccepted session clientIp row) :=
  (Web.session_remove_permitted session .pendingUser).bind fun _ =>
    (touch_permitted _).bind fun _ => (AuthUser.store_permitted session _).bind fun _ =>
      (Web.audit_permitted ..).bind fun _ => .pure _

theorem totp_submit_permitted (form : TotpForm) :
    Permitted rights (totpSubmit crates session clientIp form) := by
  refine (Web.session_get_permitted session .pendingUser).bind fun found => ?_
  cases found with
  | none => exact .pure _
  | some pending =>
      refine (pending_row_permitted pending).bind fun row => ?_
      refine (stored_secret_permitted row).bind fun secret => ?_
      refine Web.settings_permitted.bind fun s => ?_
      refine Permitted.bind ⟨Web.verify_code_issues crates (.inl trivial) _ _ _ _⟩ fun valid => ?_
      exact .ite (code_accepted_permitted row) ((Web.audit_permitted ..).bind fun _ => .pure _)

theorem logout_permitted : Permitted rights (logout session) := by
  refine (Web.session_get_permitted session .authUser).bind fun found => ?_
  refine Permitted.bind ?_ fun _ => (AuthUser.clear_permitted session).bind fun _ =>
    (Web.session_remove_permitted session .pendingUser).bind fun _ => .pure _
  cases found with
  | none => exact .pure _
  | some row => exact Web.audit_permitted ..

theorem setup_page_permitted : Permitted rights setupPage :=
  count_permitted.bind fun _ => .ite (.pure _) (.pure _)

theorem bootstrap_permitted (form : SetupForm) :
    Permitted rights (bootstrap crates session clientIp form) :=
  (Web.repo_permitted ⟨AuthService.register_initial_admin_issues trivial trivial (.inl trivial)
    (.inl trivial) (fun _ => trivial) crates _ _ _⟩).bind fun _ =>
      (AuthUser.store_permitted session _).bind fun _ =>
        (Web.audit_permitted ..).bind fun _ => .pure _

theorem setup_submit_permitted (form : SetupForm) :
    Permitted rights (setupSubmit crates session clientIp form) :=
  count_permitted.bind fun _ =>
    .ite (.pure _) (.ite (.pure _) (.ite (.pure _) (bootstrap_permitted form)))

end Routes.Auth

/-- The handler of a page without login issues only calls that are permitted without any rights. -/
theorem PublicRoute.handler_permitted (clientIp : String) (route : PublicRoute) :
    Permitted rights (route.handler crates session clientIp) := by
  cases route with
  | healthz => exact .pure _
  | readyz => exact Routes.Health.readyz_permitted
  | metrics => exact Routes.Metrics.handler_permitted
  | loginPage => exact Routes.Auth.login_page_permitted
  | login form => exact Routes.Auth.login_submit_permitted form
  | totp form => exact Routes.Auth.totp_submit_permitted form
  | logout => exact Routes.Auth.logout_permitted
  | setupPage => exact Routes.Auth.setup_page_permitted
  | setup form => exact Routes.Auth.setup_submit_permitted form

/-! ## REST handlers -/

namespace Api

/-- A handler that checks the caller's role, reads the request, runs an operation and shows its
result. -/
theorem operation_permitted {α β : Type} {input : Except ApiError β} {operation : β → App α}
    {next : α → Api ApiResponse} (hnext : ∀ value, Permitted user.role.rights (next value)) :
    Permitted user.role.rights (do
      ofExcept (ApiAuthUser.requireMutate user)
      let value ← ofExcept input
      let result ← Api.service (operation value)
      next result) :=
  ApiAuthUser.require_mutate_bind fun hmutate =>
    (of_except_permitted input).bind fun _ =>
      (Api.service_permitted (.inr hmutate)).bind hnext

/-- A handler of this kind that also checks the fields of the request, and may read an identifier
first. -/
theorem checked_permitted {α β γ : Type} {failed : List String} {path : Except ApiError γ}
    {input : Except ApiError β} {operation : γ → β → App α} {next : α → Api ApiResponse}
    (hnext : ∀ value, Permitted user.role.rights (next value)) :
    Permitted user.role.rights (do
      ofExcept (ApiAuthUser.requireMutate user)
      ofExcept (validate crates failed)
      let id ← ofExcept path
      let value ← ofExcept input
      let result ← Api.service (operation id value)
      next result) :=
  ApiAuthUser.require_mutate_bind fun hmutate =>
    (of_except_permitted _).bind fun _ => (of_except_permitted path).bind fun _ =>
      (of_except_permitted input).bind fun _ =>
        (Api.service_permitted (.inr hmutate)).bind hnext

theorem Interfaces.list_permitted : Permitted rights (Interfaces.list crates) :=
  (Api.service_permitted (.inl SqliteInterfaceRepository.list_reading)).bind fun _ => .pure _

theorem Interfaces.get_one_permitted (path : String) :
    Permitted rights (Interfaces.getOne crates path) :=
  (of_except_permitted _).bind fun _ =>
    (Api.service_permitted (.inl (SqliteInterfaceRepository.find_reading _))).bind fun _ =>
      (or_fail_permitted _ _).bind fun _ => .pure _

theorem Interfaces.create_permitted (req : CreateInterfaceRequest) :
    Permitted user.role.rights (Interfaces.create crates user req) :=
  ApiAuthUser.require_mutate_bind fun hmutate =>
    (of_except_permitted _).bind fun _ => (of_except_permitted _).bind fun _ =>
      (Api.service_permitted (.inr hmutate)).bind fun _ => .pure _

theorem Peers.list_permitted : Permitted rights (Peers.list crates) :=
  (Api.service_permitted (.inl SqlitePeerRepository.list_reading)).bind fun _ => .pure _

theorem Peers.get_one_permitted (path : String) : Permitted rights (Peers.getOne crates path) :=
  (of_except_permitted _).bind fun _ =>
    (Api.service_permitted (.inl (SqlitePeerRepository.find_reading _))).bind fun _ =>
      (or_fail_permitted _ _).bind fun _ => .pure _

theorem Peers.create_permitted (req : CreatePeerRequest) :
    Permitted user.role.rights (Peers.create crates user req) :=
  ApiAuthUser.require_mutate_bind fun hmutate =>
    (of_except_permitted _).bind fun _ => (of_except_permitted _).bind fun _ =>
      (Api.service_permitted (.inr hmutate)).bind fun _ => .pure _

theorem Peers.peer_conf_permitted (path : String) :
    Permitted rights (Peers.peerConf crates path) :=
  (of_except_permitted _).bind fun _ =>
    (Api.service_permitted (.inl (SqlitePeerRepository.find_reading _))).bind fun _ =>
      (or_fail_permitted _ _).bind fun _ =>
        (Api.service_permitted (.inl (SqliteInterfaceRepository.find_reading _))).bind fun _ =>
          (or_fail_permitted _ _).bind fun _ =>
            (Permitted.always (c := .readSettings) trivial).bind fun _ => of_except_permitted _

theorem Peers.config_permitted (path : String) : Permitted rights (Peers.config crates path) :=
  (Peers.peer_conf_permitted path).bind fun _ => .pure _

theorem Peers.qr_permitted (path : String) : Permitted rights (Peers.qr crates path) :=
  (Peers.peer_conf_permitted path).bind fun _ => (of_except_permitted _).bind fun _ => .pure _

theorem Tokens.list_permitted : Permitted rights (Tokens.list crates user) :=
  (Api.repo_permitted (.or_else (Issues.request trivial))).bind fun _ => .pure _

theorem Tokens.expiry_permitted (days : Option Int) : Permitted rights (Tokens.expiry days) := by
  cases days with
  | none => exact .pure _
  | some days =>
      refine .ite (Permitted.bind (.always (c := .host .utcNow) (.inl trivial)) fun now => ?_)
        (.throw _)
      cases TimeDelta.days days >>= now.add with
      | ok t => exact .pure _
      | error panic => exact .throw _

theorem Tokens.create_permitted (req : CreateTokenRequest) :
    Permitted rights (Tokens.create crates user req) := by
  refine (of_except_permitted _).bind fun _ => (Tokens.expiry_permitted _).bind fun _ => ?_
  refine Permitted.bind (.always (c := .drawToken) trivial) fun seed => ?_
  refine (Api.repo_permitted ?_).bind fun _ => .pure _
  exact Permitted.bind (.always (c := .host .uuidV7) (.inl trivial)) fun _ =>
    site_now_permitted.bind fun _ =>
      Permitted.bind (.or_else (Issues.request trivial)) fun _ => .pure _

theorem Tokens.revoke_permitted (path : String) :
    Permitted rights (Tokens.revoke crates user path) := by
  refine (of_except_permitted _).bind fun id => (Api.repo_permitted ?_).bind fun _ => .pure _
  exact site_now_permitted.bind fun _ =>
    Permitted.bind (.or_else (Issues.request trivial)) fun _ => .ite (.throw _) (.pure _)

end Api

/-- The handler of a REST request issues only calls that the role of its caller permits. -/
theorem ApiRoute.handler_permitted (route : ApiRoute) :
    Permitted user.role.rights (route.handler crates user) := by
  cases route with
  | interfaces => exact Api.Interfaces.list_permitted
  | interface path => exact Api.Interfaces.get_one_permitted path
  | createInterface req => exact Api.Interfaces.create_permitted req
  | updateInterface | updatePeer => exact Api.checked_permitted fun _ => .pure _
  | deleteInterface | startInterface | stopInterface | setPeerEnabled | deletePeer =>
      exact Api.operation_permitted fun _ => .pure _
  | peers => exact Api.Peers.list_permitted
  | peer path => exact Api.Peers.get_one_permitted path
  | createPeer req => exact Api.Peers.create_permitted req
  | peerConfig path => exact Api.Peers.config_permitted path
  | peerQr path => exact Api.Peers.qr_permitted path
  | tokens => exact Api.Tokens.list_permitted
  | createToken req => exact Api.Tokens.create_permitted req
  | revokeToken path => exact Api.Tokens.revoke_permitted path

/-- The search for the caller of a REST request is permitted without any rights. -/
theorem ApiAuthUser.from_parts_permitted (credentials : Credentials) :
    Permitted rights (ApiAuthUser.fromRequestParts crates credentials) := by
  unfold ApiAuthUser.fromRequestParts
  cases credentials.bearer with
  | none => exact .or_else (AuthUser.from_parts_permitted credentials.session).issues
  | some bearer =>
      refine Permitted.bind (.or_else (Permitted.or_else (Issues.request trivial)).issues)
        fun found => ?_
      refine (Api.or_fail_permitted _ _).bind fun token => ?_
      refine Permitted.bind (.always (c := .host .utcNow) (.inl trivial)) fun now => ?_
      refine (Api.or_fail_permitted _ _).bind fun active => ?_
      refine Permitted.bind (.or_else (Permitted.or_else (Issues.request trivial)).issues)
        fun owner => ?_
      exact (Api.or_fail_permitted _ _).bind fun _ => .pure _

/-! ## Requests -/

section Requests

variable (server : Server)

/-- The caller of a request, if it is authenticated. -/
def Served.caller (a : Served) (s : Site) : Option AuthUser :=
  match a.request with
  | .visit _ _ _ | .health => none
  | .web session _ =>
      (eval (serve a.moment.outage) (AuthUser.fromRequestParts session)
        (s.seen a.moment)).1.toOption
  | .api credentials _ =>
      (eval (serve a.moment.outage) (ApiAuthUser.fromRequestParts server.crates credentials)
        (s.seen a.moment)).1.toOption

section Frames

variable {τ : Type} (part : Site → τ) (weak : Rights → Prop)

/-- A handler that runs on behalf of the caller leaves alone what the caller's role cannot touch;
so does the search for the caller, which is permitted without any rights. -/
theorem extracted_frame {ε β : Type} {extract : Fallible SiteCall SiteCall.Reply ε AuthUser}
    {handler : AuthUser → Fallible SiteCall SiteCall.Reply ε β} {outage : Outage} {s : Site}
    (hextract : Permitted .none extract)
    (hhandler : ∀ user, Permitted user.role.rights (handler user))
    (hframe : ∀ rights, weak rights → ∀ c, c.Permitted rights →
      ∀ s, part (serve outage c s).2 = part s)
    (hnone : weak .none)
    (hcaller : ∀ user, (eval (serve outage) extract s).1.toOption = some user →
      weak user.role.rights) :
    part (eval (serve outage) (extract >>= handler) s).2 = part s := by
  have hsame : part (eval (serve outage) extract s).2 = part s :=
    hextract.issues.frame (hframe .none hnone) s
  rw [eval_bind]
  rcases heval : eval (serve outage) extract s with ⟨_ | user, s'⟩ <;> rw [heval] at hsame hcaller
  · exact hsame
  · have hrest : part (eval (serve outage) (handler user) s').2 = part s' :=
      (hhandler user).issues.frame (hframe user.role.rights (hcaller user rfl)) s'
    exact hrest.trans hsame

/-- A request leaves alone what the role of its caller cannot touch. -/
theorem Served.frame {a : Served} {s : Site}
    (hframe : ∀ rights, weak rights → ∀ c, c.Permitted rights →
      ∀ s, part (serve a.moment.outage c s).2 = part s)
    (hnone : weak .none) (hcaller : ∀ user, a.caller server s = some user → weak user.role.rights) :
    part (serveStep server s a) = part (s.seen a.moment) := by
  rcases a with ⟨request, moment⟩
  unfold serveStep Served.outcome Request.program
  cases request with
  | visit session clientIp route =>
      rw [exec_map]
      exact (PublicRoute.handler_permitted clientIp route).issues.frame (hframe .none hnone) _
  | health => rfl
  | web session route =>
      rw [exec_map]
      exact extracted_frame part weak (AuthUser.from_parts_permitted session)
        (fun user => WebRoute.handler_permitted server.config route) hframe hnone hcaller
  | api credentials route =>
      rw [exec_map]
      exact extracted_frame part weak (ApiAuthUser.from_parts_permitted credentials)
        (fun user => ApiRoute.handler_permitted route) hframe hnone hcaller

end Frames

/-- Whatever the state, the request and its outcome: a caller who cannot mutate leaves the rows of
interfaces and peers, the devices, the firewall and the settings as they are, and a caller who
cannot manage the settings leaves the table of settings and the live settings as they are. -/
theorem roles_respected (s : Site) (a : Served) (user : AuthUser)
    (hcaller : a.caller server s = some user) :
    (user.role.canMutate = false →
      (serveStep server s a).host = s.host.seen a.moment.env ∧
        (serveStep server s a).configuration = s.configuration) ∧
    (user.role.canManageSettings = false →
      (serveStep server s a).configuration = s.configuration) := by
  have hsettings : user.role.canManageSettings = false →
      (serveStep server s a).configuration = s.configuration := by
    intro hrole
    refine Served.frame server Site.configuration (fun rights => rights.settings = false)
      (fun rights hrights c hc => serve_configuration _ hc hrights) rfl fun other hother => ?_
    obtain rfl := Option.some.inj (hother.symm.trans hcaller)
    exact hrole
  refine ⟨fun hrole => ⟨?_, hsettings ?_⟩, hsettings⟩
  · refine Served.frame server Site.host (fun rights => rights.mutate = false)
      (fun rights hrights c hc => serve_host _ hc hrights) rfl fun other hother => ?_
    obtain rfl := Option.some.inj (hother.symm.trans hcaller)
    exact hrole
  · exact Bool.eq_false_iff.mpr fun h => by
      rw [Role.can_mutate_of_settings h] at hrole
      cases hrole

end Requests

/-- A server that nobody has configured, whose sessions all belong to one user. -/
def siteOf (user : AuthUser) : Site :=
  { Site.fresh .default with sessions := fun _ => { Session.fresh with authUser := some user } }

/-- The form of an interface with a name and an IPv4 network. -/
def InterfaceForm.plain (name ipv4Cidr : String) : InterfaceForm where
  name := name
  listenPort := "51820"
  ipv4Cidr := ipv4Cidr
  ipv6Cidr := ""
  mtu := ""
  dns := ""
  gateway := ""
  onUp := ""
  onDown := ""
  publicKey := ""
  privateKey := ""

/-- A viewer asks for a new interface. -/
def viewerCreates : Served :=
  ⟨.web ⟨0⟩ (.createInterface (.plain "wg0" "")), .calm (siteOf ⟨⟨1⟩, "guest", .viewer⟩) .inserted⟩

theorem roles_respected_viewer :
    let s := siteOf ⟨⟨1⟩, "guest", .viewer⟩
    (serveStep .transparent s viewerCreates).host = s.host.seen viewerCreates.moment.env ∧
      (serveStep .transparent s viewerCreates).configuration = s.configuration :=
  (roles_respected .transparent _ viewerCreates ⟨⟨1⟩, "guest", .viewer⟩ rfl).1 rfl

end Wireforge
