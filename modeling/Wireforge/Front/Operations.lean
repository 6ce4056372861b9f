import Wireforge.Front.Roles

/-!
# What a request does to the host

A request performs at most one operation of the services. `Asks` says which operations a request can
ask for: the forms and bodies have been read, and the caller can mutate. By `serve_step_operates`
a request leaves the host as it is or as one of these operations leaves it, so that what every
operation asked for preserves, a request preserves (`front_keeps`).
-/

namespace Wireforge

open Effect

/-! ## Which operations a request asks for -/

/-- The operations that a page asks for. -/
inductive WebRoute.Asks (crates : WebCrates) (user : AuthUser) : WebRoute → ServiceCall → Prop where
  | createInterface {form : InterfaceForm} {parsed : Routes.Interfaces.ParsedForm} :
      Routes.Interfaces.parseForm crates form = .ok parsed →
      Asks crates user (.createInterface form)
        (.interface (.create (Routes.Interfaces.createInput form parsed)))
  | editInterface {path : String} {id : Uuid} {form : InterfaceForm}
      {parsed : Routes.Interfaces.ParsedForm} :
      crates.parseUuid path = some id → Routes.Interfaces.parseForm crates form = .ok parsed →
      Asks crates user (.editInterface path form)
        (.interface (.update ⟨id⟩ (Routes.Interfaces.updateInput form parsed)))
  | startInterface {path : String} {id : Uuid} : crates.parseUuid path = some id →
      Asks crates user (.startInterface path) (.interface (.start ⟨id⟩))
  | stopInterface {path : String} {id : Uuid} : crates.parseUuid path = some id →
      Asks crates user (.stopInterface path) (.interface (.stop ⟨id⟩))
  | deleteInterface {path : String} {id : Uuid} : crates.parseUuid path = some id →
      Asks crates user (.deleteInterface path) (.interface (.delete ⟨id⟩))
  | createPeer {form : PeerForm} {input : CreatePeerInput} :
      Routes.Peers.createInput crates user form = .ok input →
      Asks crates user (.createPeer form) (.createPeer input)
  | editPeer {path : String} {id : Uuid} {form : PeerEditForm} {input : UpdatePeerInput} :
      crates.parseUuid path = some id → Routes.Peers.updateInput crates form = .ok input →
      Asks crates user (.editPeer path form) (.updatePeer ⟨id⟩ input)
  | togglePeer {path : String} {id : Uuid} {enabled : Bool} : crates.parseUuid path = some id →
      Asks crates user (.togglePeer path) (.setEnabled ⟨id⟩ enabled)
  | deletePeer {path : String} {id : Uuid} : crates.parseUuid path = some id →
      Asks crates user (.deletePeer path) (.deletePeer ⟨id⟩)

/-- The operations that a REST request asks for. -/
inductive ApiRoute.Asks (crates : WebCrates) : ApiRoute → ServiceCall → Prop where
  | createInterface {req : CreateInterfaceRequest} {input : CreateInterfaceInput} :
      Api.Interfaces.createInput crates req = .ok input →
      Asks crates (.createInterface req) (.interface (.create input))
  | updateInterface {path : String} {id : Id InterfaceMarker} {req : UpdateInterfaceRequest}
      {input : UpdateInterfaceInput} :
      Api.parseId crates path = .ok id → Api.Interfaces.updateInput crates req = .ok input →
      Asks crates (.updateInterface path req) (.interface (.update id input))
  | deleteInterface {path : String} {id : Id InterfaceMarker} : Api.parseId crates path = .ok id →
      Asks crates (.deleteInterface path) (.interface (.delete id))
  | startInterface {path : String} {id : Id InterfaceMarker} : Api.parseId crates path = .ok id →
      Asks crates (.startInterface path) (.interface (.start id))
  | stopInterface {path : String} {id : Id InterfaceMarker} : Api.parseId crates path = .ok id →
      Asks crates (.stopInterface path) (.interface (.stop id))
  | createPeer {req : CreatePeerRequest} {input : CreatePeerInput} :
      Api.Peers.createInput crates req = .ok input →
      Asks crates (.createPeer req) (.createPeer input)
  | updatePeer {path : String} {id : Id PeerMarker} {req : UpdatePeerRequest}
      {input : UpdatePeerInput} :
      Api.parseId crates path = .ok id → Api.Peers.updateInput crates req = .ok input →
      Asks crates (.updatePeer path req) (.updatePeer id input)
  | setPeerEnabled {path : String} {id : Id PeerMarker} {enabled : Bool} :
      Api.parseId crates path = .ok id →
      Asks crates (.setPeerEnabled path enabled) (.setEnabled id enabled)
  | deletePeer {path : String} {id : Id PeerMarker} : Api.parseId crates path = .ok id →
      Asks crates (.deletePeer path) (.deletePeer id)

/-- The operations that a request asks for on behalf of a caller. -/
def Request.Asks (crates : WebCrates) (user : AuthUser) : Request → ServiceCall → Prop
  | visit _ _ _, _ | health, _ => False
  | web _ route, call => user.role.canMutate = true ∧ route.Asks crates user call
  | api _ route, call => user.role.canMutate = true ∧ route.Asks crates call

/-! ## Programs that perform one operation -/

variable {crates : WebCrates} {asked : ServiceCall → Prop} {α β ε ε' : Type}

/-- The program leaves the host as it is, or as one of the operations asked for leaves it. -/
def Operates (crates : WebCrates) (asked : ServiceCall → Prop)
    (program : Fallible SiteCall SiteCall.Reply ε α) : Prop :=
  ∀ outage s, (eval (serve outage) program s).2.host = s.host ∨
    ∃ call, asked call ∧ (eval (serve outage) program s).2.host =
      serviceStep crates.toCrates s.host ⟨call, outage.host, s.host.env⟩

namespace Operates

variable {program : Fallible SiteCall SiteCall.Reply ε α}

/-- A program that is permitted without the right to mutate performs no operation. -/
theorem of_permitted (rights : Rights) (h : Permitted rights program)
    (hrights : rights.mutate = false) : Operates crates asked program :=
  fun outage s => .inl (h.host hrights outage s)

theorem quiet (h : Permitted .none program) : Operates crates asked program :=
  of_permitted .none h rfl

theorem throw (e : ε) :
    Operates crates asked (MonadExcept.throw e : Fallible SiteCall SiteCall.Reply ε α) :=
  quiet (.throw e)

/-- What comes before the operation is permitted without any rights. -/
theorem after {next : α → Fallible SiteCall SiteCall.Reply ε β} (h : Permitted .none program)
    (hnext : ∀ value, Operates crates asked (next value)) :
    Operates crates asked (program >>= next) := by
  intro outage s
  have hsame := h.host rfl outage s
  rw [eval_bind]
  rcases heval : eval (serve outage) program s with ⟨_ | value, s'⟩ <;> rw [heval] at hsame
  · exact .inl hsame
  · have hrest := hnext value outage s'
    rw [show s'.host = s.host from hsame] at hrest
    exact hrest

/-- What comes after the operation is permitted without any rights. -/
theorem before {next : α → Fallible SiteCall SiteCall.Reply ε β}
    (h : Operates crates asked program) (hnext : ∀ value, Permitted .none (next value)) :
    Operates crates asked (program >>= next) := by
  intro outage s
  have hoperates := h outage s
  rw [eval_bind]
  rcases heval : eval (serve outage) program s with ⟨_ | value, s'⟩ <;> rw [heval] at hoperates
  · exact hoperates
  · have hsame : (eval (serve outage) (next value) s').2.host = s'.host :=
      (hnext value).host rfl outage s'
    simp only [hsame]
    exact hoperates

theorem attempt (h : Operates crates asked program) :
    Operates crates asked
      (Effect.attempt program : Fallible SiteCall SiteCall.Reply ε' (Except ε α)) := by
  intro outage s
  rw [eval_attempt]
  exact h outage s

theorem or_else {program : Repo α} {rename : CoreError → ε}
    (h : Operates crates asked program) : Operates crates asked (orElse rename program.run) := by
  intro outage s
  rw [eval_or_else]
  exact h outage s

/-- A value that has been read is known to what follows. -/
theorem after_api {result : Except ApiError α} {next : α → Api β}
    (hnext : ∀ value, result = .ok value → Operates crates asked (next value)) :
    Operates crates asked (Api.ofExcept result >>= next) := by
  cases result with
  | error e => exact .throw _
  | ok value => exact hnext value rfl

theorem after_id {marker : Type} {path : String} {next : Id marker → Web β}
    (hnext : ∀ id, crates.parseUuid path = some id → Operates crates asked (next ⟨id⟩)) :
    Operates crates asked (Web.parseId crates path >>= next) := by
  unfold Web.parseId
  cases hid : crates.parseUuid path with
  | none => exact .throw _
  | some id => exact hnext id hid

theorem after_mutate {user : AuthUser} {next : Unit → Web β}
    (hnext : user.role.canMutate = true → Operates crates asked (next ())) :
    Operates crates asked (user.requireMutate >>= next) := by
  unfold AuthUser.requireMutate
  split
  next hmutate => exact hnext hmutate
  next => exact .throw _

theorem after_api_mutate {user : AuthUser} {next : Unit → Api β}
    (hnext : user.role.canMutate = true → Operates crates asked (next ())) :
    Operates crates asked (Api.ofExcept (ApiAuthUser.requireMutate user) >>= next) := by
  unfold ApiAuthUser.requireMutate
  split
  next hmutate => exact hnext hmutate
  next => exact .throw _

/-- An operation of a service changes the host as a step of a run of the services does. -/
theorem of_step {program : App α} {call : ServiceCall} (hcall : asked call)
    (hstep : ∀ plan w, (eval (handle plan) program w).2 =
      serviceStep crates.toCrates w ⟨call, plan, w.env⟩) :
    Operates crates asked (Web.host program) := by
  intro outage s
  unfold Web.host
  rw [eval_embed (site_embedding_acts outage)]
  exact .inr ⟨call, hcall, hstep outage.host s.host⟩

end Operates

/-! ## The operations of the services -/

section Services

variable {program : App α}

theorem Web.operates (h : Operates crates asked (Web.host program)) :
    Operates crates asked (Web.service program) :=
  .or_else h

theorem Api.operates (h : Operates crates asked (Web.host program)) :
    Operates crates asked (Api.service program) :=
  .or_else h

/-- Whether the value an operation returns is dropped makes no difference to the world. -/
theorem eval_dropped (plan : Plan) (w : World) :
    (eval (handle plan) program w).2 =
      (eval (handle plan) (do let _ ← program : App Unit) w).2 := by
  rw [eval_bind]
  rcases eval (handle plan) program w with ⟨_ | value, w'⟩ <;> rfl

theorem InterfaceService.create_operates {input : CreateInterfaceInput}
    (h : asked (.interface (.create input))) :
    Operates crates asked (Web.host (InterfaceService.create crates.toCrates input)) :=
  .of_step h eval_dropped

theorem InterfaceService.update_operates {id : Id InterfaceMarker} {input : UpdateInterfaceInput}
    (h : asked (.interface (.update id input))) :
    Operates crates asked (Web.host (InterfaceService.update crates.toCrates id input)) :=
  .of_step h eval_dropped

theorem InterfaceService.start_operates {id : Id InterfaceMarker}
    (h : asked (.interface (.start id))) :
    Operates crates asked (Web.host (InterfaceService.start crates.toCrates id)) :=
  .of_step h eval_dropped

theorem InterfaceService.stop_operates {id : Id InterfaceMarker}
    (h : asked (.interface (.stop id))) :
    Operates crates asked (Web.host (InterfaceService.stop id)) :=
  .of_step h eval_dropped

theorem InterfaceService.delete_operates {id : Id InterfaceMarker}
    (h : asked (.interface (.delete id))) :
    Operates crates asked (Web.host (InterfaceService.delete id)) :=
  .of_step h fun _ _ => rfl

theorem PeerService.create_operates {input : CreatePeerInput} (h : asked (.createPeer input)) :
    Operates crates asked
      (Web.host (PeerService.createWithServerKeypair crates.toCrates input)) :=
  .of_step h fun _ _ => rfl

theorem PeerService.update_operates {id : Id PeerMarker} {input : UpdatePeerInput}
    (h : asked (.updatePeer id input)) :
    Operates crates asked (Web.host (PeerService.update crates.toCrates id input)) :=
  .of_step h fun _ _ => rfl

theorem PeerService.set_enabled_operates {id : Id PeerMarker} {enabled : Bool}
    (h : asked (.setEnabled id enabled)) :
    Operates crates asked (Web.host (PeerService.setEnabled crates.toCrates id enabled)) :=
  .of_step h fun _ _ => rfl

theorem PeerService.delete_operates {id : Id PeerMarker} (h : asked (.deletePeer id)) :
    Operates crates asked (Web.host (PeerService.delete id)) :=
  .of_step h fun _ _ => rfl

end Services

/-! ## Handlers -/

section Handlers

variable {session : SessionId} {user : AuthUser}

/-- What a page does once its operation is over: an event, a message and an answer. -/
theorem Web.recorded_permitted {rights : Rights} {actor : Option (Id UserMarker)}
    {action : AuditAction} {resourceType resourceId : Option String}
    {metadata : Option Json.Object} {flash : Flash} {answer : Response} :
    Permitted rights (do
      Web.auditRecord actor none action resourceType resourceId metadata
      Web.setFlash session flash
      return answer : Web Response) :=
  (Web.audit_permitted ..).bind fun _ => (Web.set_flash_permitted session flash).bind
    fun _ => .pure answer

namespace Routes.Interfaces

theorem create_operates (form : InterfaceForm) :
    Operates crates (Request.Asks crates user (.web session (.createInterface form)))
      (create crates session user form) := by
  refine Operates.after_mutate fun hmutate => ?_
  cases hform : parseForm crates form with
  | error message => exact .quiet (form_error_new_permitted form message)
  | ok parsed =>
      refine (InterfaceService.create_operates ⟨hmutate, .createInterface hform⟩).attempt.before
        fun result => ?_
      cases result with
      | ok iface => exact Web.recorded_permitted
      | error e =>
          cases e with
          | conflict message | validation message => exact form_error_new_permitted form message
          | _ => exact .throw _

theorem edit_operates (path : String) (form : InterfaceForm) :
    Operates crates (Request.Asks crates user (.web session (.editInterface path form)))
      (edit crates session user path form) := by
  refine Operates.after_mutate fun hmutate => Operates.after_id fun id hid => ?_
  refine Operates.after (find_interface_permitted ⟨id⟩) fun iface => ?_
  cases hform : parseForm crates form with
  | error message => exact .quiet (form_error_edit_permitted iface form message)
  | ok parsed =>
      refine (InterfaceService.update_operates ⟨hmutate, .editInterface hid hform⟩).attempt.before
        fun result => ?_
      cases result with
      | ok _ => exact (Web.set_flash_permitted session _).bind fun _ => .pure _
      | error e =>
          cases e with
          | validation message => exact form_error_edit_permitted iface form message
          | _ => exact .throw _

theorem start_operates (path : String) :
    Operates crates (Request.Asks crates user (.web session (.startInterface path)))
      (start crates session user path) :=
  Operates.after_mutate fun hmutate => Operates.after_id fun _ hid =>
    (Web.operates (InterfaceService.start_operates ⟨hmutate, .startInterface hid⟩)).before
      fun _ => Web.recorded_permitted

theorem stop_operates (path : String) :
    Operates crates (Request.Asks crates user (.web session (.stopInterface path)))
      (stop crates session user path) :=
  Operates.after_mutate fun hmutate => Operates.after_id fun _ hid =>
    (Web.operates (InterfaceService.stop_operates ⟨hmutate, .stopInterface hid⟩)).before
      fun _ => Web.recorded_permitted

theorem delete_operates (path : String) :
    Operates crates (Request.Asks crates user (.web session (.deleteInterface path)))
      (delete crates session user path) :=
  Operates.after_mutate fun hmutate => Operates.after_id fun _ hid =>
    (Web.operates (InterfaceService.delete_operates ⟨hmutate, .deleteInterface hid⟩)).before
      fun _ => Web.recorded_permitted

end Routes.Interfaces

namespace Routes.Peers

theorem create_operates (form : PeerForm) :
    Operates crates (Request.Asks crates user (.web session (.createPeer form)))
      (create crates user form) := by
  refine Operates.after_mutate fun hmutate => ?_
  cases hform : createInput crates user form with
  | error message => exact .quiet (form_error_permitted form message)
  | ok input =>
      refine (PeerService.create_operates ⟨hmutate, .createPeer hform⟩).attempt.before
        fun result => ?_
      cases result with
      | ok peer => exact created_permitted peer
      | error e =>
          cases e with
          | validation message | conflict message | ipPoolExhausted message =>
              exact form_error_permitted form message
          | _ => exact .throw _

theorem edit_operates (path : String) (form : PeerEditForm) :
    Operates crates (Request.Asks crates user (.web session (.editPeer path form)))
      (edit crates session user path form) := by
  refine Operates.after_mutate fun hmutate => Operates.after_id fun id hid => ?_
  cases hform : updateInput crates form with
  | error message => exact .quiet (edit_form_error_permitted ⟨id⟩ form message)
  | ok input =>
      refine (PeerService.update_operates ⟨hmutate, .editPeer hid hform⟩).attempt.before
        fun result => ?_
      cases result with
      | ok peer => exact (Web.set_flash_permitted session _).bind fun _ => .pure _
      | error e =>
          cases e with
          | validation message | conflict message =>
              exact edit_form_error_permitted ⟨id⟩ form message
          | _ => exact .throw _

theorem toggle_operates (path : String) :
    Operates crates (Request.Asks crates user (.web session (.togglePeer path)))
      (toggle crates user path) :=
  Operates.after_mutate fun hmutate => Operates.after_id fun id hid =>
    Operates.after (find_peer_permitted ⟨id⟩) fun _ =>
      (Web.operates (PeerService.set_enabled_operates ⟨hmutate, .togglePeer hid⟩)).before
        fun _ => (Web.audit_permitted ..).bind fun _ => .pure _

theorem delete_operates (path : String) :
    Operates crates (Request.Asks crates user (.web session (.deletePeer path)))
      (delete crates session user path) :=
  Operates.after_mutate fun hmutate => Operates.after_id fun _ hid =>
    (Web.operates (PeerService.delete_operates ⟨hmutate, .deletePeer hid⟩)).before
      fun _ => Web.recorded_permitted

end Routes.Peers

/-- A page performs at most one operation that it asks for. -/
theorem WebRoute.handler_operates (config : WebConfig) (route : WebRoute) :
    Operates crates (Request.Asks crates user (.web session route))
      (route.handler crates config session user) := by
  cases route with
  | createInterface form => exact Routes.Interfaces.create_operates form
  | editInterface path form => exact Routes.Interfaces.edit_operates path form
  | startInterface path => exact Routes.Interfaces.start_operates path
  | stopInterface path => exact Routes.Interfaces.stop_operates path
  | deleteInterface path => exact Routes.Interfaces.delete_operates path
  | createPeer form => exact Routes.Peers.create_operates form
  | editPeer path form => exact Routes.Peers.edit_operates path form
  | togglePeer path => exact Routes.Peers.toggle_operates path
  | deletePeer path => exact Routes.Peers.delete_operates path
  | saveSettings form =>
      exact .of_permitted ⟨false, true⟩
        (Routes.Settings.save_permitted (fun _ => rfl) form) rfl
  | dashboard => exact .quiet Routes.Dashboard.index_permitted
  | trafficStream ticks => exact .quiet (Routes.Dashboard.stream_permitted ticks)
  | interfaces => exact .quiet Routes.Interfaces.list_permitted
  | newInterface => exact .quiet Routes.Interfaces.new_page_permitted
  | interfacePage path => exact .quiet (Routes.Interfaces.edit_page_permitted path)
  | system => exact .quiet Routes.System.index_permitted
  | systemStream ticks => exact .quiet (Routes.System.stream_permitted ticks)
  | peers => exact .quiet Routes.Peers.list_permitted
  | newPeer => exact .quiet Routes.Peers.new_page_permitted
  | peerPage path => exact .quiet (Routes.Peers.edit_page_permitted path)
  | downloadPeer path => exact .quiet (Routes.Peers.download_permitted path)
  | peerQr path => exact .quiet (Routes.Peers.qr_permitted path)
  | profile => exact .quiet Routes.Profile.index_permitted
  | totpSetup => exact .quiet Routes.Profile.totp_setup_page_permitted
  | totpConfirm form => exact .quiet (Routes.Profile.totp_confirm_permitted form)
  | totpDisable => exact .quiet Routes.Profile.totp_disable_permitted
  | audit => exact .quiet Routes.Audit.list_permitted
  | settings => exact .quiet Routes.Settings.index_permitted
  | events ticks => exact .quiet (Routes.Ws.events_permitted ticks)

/-! ## REST handlers -/

namespace Api

theorem create_interface_operates {credentials : Credentials} (req : CreateInterfaceRequest) :
    Operates crates (Request.Asks crates user (.api credentials (.createInterface req)))
      (Interfaces.create crates user req) :=
  Operates.after_api_mutate fun hmutate =>
    Operates.after (of_except_permitted _) fun _ => Operates.after_api fun _ hinput =>
      (Api.operates (InterfaceService.create_operates
        ⟨hmutate, .createInterface hinput⟩)).before fun _ => .pure _

theorem update_interface_operates {credentials : Credentials} (path : String)
    (req : UpdateInterfaceRequest) :
    Operates crates (Request.Asks crates user (.api credentials (.updateInterface path req)))
      (Interfaces.update crates user path req) :=
  Operates.after_api_mutate fun hmutate =>
    Operates.after (of_except_permitted _) fun _ => Operates.after_api fun _ hid =>
      Operates.after_api fun _ hinput =>
        (Api.operates (InterfaceService.update_operates
          ⟨hmutate, .updateInterface hid hinput⟩)).before fun _ => .pure _

theorem create_peer_operates {credentials : Credentials} (req : CreatePeerRequest) :
    Operates crates (Request.Asks crates user (.api credentials (.createPeer req)))
      (Peers.create crates user req) :=
  Operates.after_api_mutate fun hmutate =>
    Operates.after (of_except_permitted _) fun _ => Operates.after_api fun _ hinput =>
      (Api.operates (PeerService.create_operates
        ⟨hmutate, .createPeer hinput⟩)).before fun _ => .pure _

theorem update_peer_operates {credentials : Credentials} (path : String)
    (req : UpdatePeerRequest) :
    Operates crates (Request.Asks crates user (.api credentials (.updatePeer path req)))
      (Peers.update crates user path req) :=
  Operates.after_api_mutate fun hmutate =>
    Operates.after (of_except_permitted _) fun _ => Operates.after_api fun _ hid =>
      Operates.after_api fun _ hinput =>
        (Api.operates (PeerService.update_operates
          ⟨hmutate, .updatePeer hid hinput⟩)).before fun _ => .pure _

/-- A handler that reads an identifier, performs an operation and shows its result. -/
theorem identified_operates {marker : Type} {path : String} {operation : Id marker → App α}
    {next : α → Api ApiResponse}
    (h : user.role.canMutate = true → ∀ id, parseId crates path = .ok id →
      Operates crates asked (Web.host (operation id)))
    (hnext : ∀ value, Permitted .none (next value)) :
    Operates crates asked (do
      ofExcept (ApiAuthUser.requireMutate user)
      let id ← ofExcept (parseId crates path)
      let result ← Api.service (operation id)
      next result) :=
  Operates.after_api_mutate fun hmutate => Operates.after_api fun id hid =>
    (Api.operates (h hmutate id hid)).before hnext

end Api

/-- A REST request performs at most one operation that it asks for. -/
theorem ApiRoute.handler_operates (credentials : Credentials) (route : ApiRoute) :
    Operates crates (Request.Asks crates user (.api credentials route))
      (route.handler crates user) := by
  cases route with
  | createInterface req => exact Api.create_interface_operates req
  | updateInterface path req => exact Api.update_interface_operates path req
  | createPeer req => exact Api.create_peer_operates req
  | updatePeer path req => exact Api.update_peer_operates path req
  | deleteInterface path =>
      exact Api.identified_operates (fun hmutate _ hid =>
        InterfaceService.delete_operates ⟨hmutate, .deleteInterface hid⟩) fun _ => .pure _
  | startInterface path =>
      exact Api.identified_operates (fun hmutate _ hid =>
        InterfaceService.start_operates ⟨hmutate, .startInterface hid⟩) fun _ => .pure _
  | stopInterface path =>
      exact Api.identified_operates (fun hmutate _ hid =>
        InterfaceService.stop_operates ⟨hmutate, .stopInterface hid⟩) fun _ => .pure _
  | setPeerEnabled path enabled =>
      exact Api.identified_operates (fun hmutate _ hid =>
        PeerService.set_enabled_operates ⟨hmutate, .setPeerEnabled hid⟩) fun _ => .pure _
  | deletePeer path =>
      exact Api.identified_operates (fun hmutate _ hid =>
        PeerService.delete_operates ⟨hmutate, .deletePeer hid⟩) fun _ => .pure _
  | interfaces => exact .quiet Api.Interfaces.list_permitted
  | interface path => exact .quiet (Api.Interfaces.get_one_permitted path)
  | peers => exact .quiet Api.Peers.list_permitted
  | peer path => exact .quiet (Api.Peers.get_one_permitted path)
  | peerConfig path => exact .quiet (Api.Peers.config_permitted path)
  | peerQr path => exact .quiet (Api.Peers.qr_permitted path)
  | tokens => exact .quiet Api.Tokens.list_permitted
  | createToken req => exact .quiet (Api.Tokens.create_permitted req)
  | revokeToken path => exact .quiet (Api.Tokens.revoke_permitted path)

end Handlers

/-! ## Requests -/

/-- The operations that a request asks for in a state, in which its caller is found. -/
def Served.Asks (server : Server) (s : Site) (a : Served) (call : ServiceCall) : Prop :=
  ∃ user, a.caller server s = some user ∧ a.request.Asks server.crates user call

/-- The operation of a request, with the failures that happen during it and what the host shows. -/
def Served.step (a : Served) (call : ServiceCall) : ServiceStep :=
  ⟨call, a.moment.outage.host, a.moment.env⟩

/-- A handler that runs on behalf of the caller performs at most one operation that the caller asks
for. -/
theorem extracted_operates {extract : Fallible SiteCall SiteCall.Reply ε AuthUser}
    {handler : AuthUser → Fallible SiteCall SiteCall.Reply ε β} {outage : Outage} {s : Site}
    {asked : AuthUser → ServiceCall → Prop} (hextract : Permitted .none extract)
    (hhandler : ∀ user, Operates crates (asked user) (handler user)) :
    (eval (serve outage) (extract >>= handler) s).2.host = s.host ∨
      ∃ call user, (eval (serve outage) extract s).1.toOption = some user ∧ asked user call ∧
        (eval (serve outage) (extract >>= handler) s).2.host =
          serviceStep crates.toCrates s.host ⟨call, outage.host, s.host.env⟩ := by
  have hsame := hextract.host rfl outage s
  rw [eval_bind]
  rcases heval : eval (serve outage) extract s with ⟨_ | user, s'⟩ <;> rw [heval] at hsame
  · exact .inl hsame
  · have hrest := hhandler user outage s'
    rw [show s'.host = s.host from hsame] at hrest
    rcases hrest with hquiet | ⟨call, hasked, hhost⟩
    · exact .inl hquiet
    · exact .inr ⟨call, user, rfl, hasked, hhost⟩

/-- A request leaves the host as it is, or as an operation leaves it that the request asks for. -/
theorem serve_step_operates (server : Server) (s : Site) (a : Served) :
    (serveStep server s a).host = s.host.seen a.moment.env ∨
      ∃ call, a.Asks server s call ∧
        (serveStep server s a).host = serviceStep server.crates.toCrates s.host (a.step call) := by
  rcases a with ⟨request, moment⟩
  unfold serveStep Served.outcome Request.program
  cases request with
  | visit session clientIp route =>
      rw [exec_map]
      have hquiet : Permitted .none (route.handler server.crates session clientIp) :=
        PublicRoute.handler_permitted clientIp route
      exact .inl (hquiet.host rfl _ _)
  | health => exact .inl rfl
  | web session route =>
      rw [exec_map]
      rcases extracted_operates (AuthUser.from_parts_permitted session)
          (fun user => WebRoute.handler_operates server.config route) with
        hquiet | ⟨call, user, hcaller, hasked, hhost⟩
      · exact .inl hquiet
      · exact .inr ⟨call, ⟨user, hcaller, hasked⟩, hhost⟩
  | api credentials route =>
      rw [exec_map]
      rcases extracted_operates (ApiAuthUser.from_parts_permitted credentials)
          (fun user => ApiRoute.handler_operates credentials route) with
        hquiet | ⟨call, user, hcaller, hasked, hhost⟩
      · exact .inl hquiet
      · exact .inr ⟨call, ⟨user, hcaller, hasked⟩, hhost⟩

/-- What does not depend on what the host shows, and what every operation preserves that a request
asks for, the request preserves. -/
theorem front_keeps {server : Server} {s : Site} {a : Served} (inv : World → Prop)
    (hseen : ∀ w env, inv w → inv (w.seen env))
    (hstep : ∀ call, a.Asks server s call → inv s.host →
      inv (serviceStep server.crates.toCrates s.host (a.step call)))
    (h : inv s.host) : inv (serveStep server s a).host := by
  rcases serve_step_operates server s a with hsame | ⟨call, hasked, hhost⟩
  · exact hsame ▸ hseen _ _ h
  · exact hhost ▸ hstep call hasked h

end Wireforge
