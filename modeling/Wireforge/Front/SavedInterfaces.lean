import Wireforge.Front.Families
import Wireforge.Front.SavedPeers
import Wireforge.Front.SealedKeys

/-!
# Saving an unchanged interface form

The page of an interface shows the fields of its row as texts, the DNS servers as one text with
commas, and the endpoint not at all, while saving the page replaces all of them. The other fields
come back as they were, whatever the two front ends stored: `interfaces_shown_run`. So
`saved_interface_iff` shows that saving a page that nobody has changed changes the row exactly if it
has an endpoint or DNS servers that the text with commas does not give back.
-/

namespace Wireforge

open Effect

variable {crates : WebCrates} {server : Server}

/-! ## Rows that the page can show -/

/-- The fields of a request that the page shows as single texts are read back as they are. -/
structure ShownFields (listenPort : UInt16) (gateway onUp onDown : Option String) : Prop where
  port : 0 < listenPort
  gateway : ∀ text ∈ gateway, FieldText text
  onUp : ∀ text ∈ onUp, FieldText text
  onDown : ∀ text ∈ onDown, FieldText text

/-- So are those of a row, whose gateway has passed the check of its characters and whose key was
sealed. -/
structure Interface.Shown (crates : Crates) (row : Interface) : Prop where
  fields : ShownFields row.listenPort row.gateway row.onUp row.onDown
  charset : ∀ gw ∈ row.gateway, gatewayCharsetOk gw = true
  key : ∃ key : WgPrivateKey, crates.seal key.asStr.toUTF8 = .ok row.privateKeySealed

/-- An operation that stores an interface stores fields that are read back. -/
def ServiceCall.StoresShown : ServiceCall → Prop
  | .interface (.create input) =>
      ShownFields input.listenPort input.gateway input.onUp input.onDown
  | .interface (.update _ input) =>
      ShownFields input.listenPort input.gateway input.onUp input.onDown
  | _ => True

/-- A gateway that the host accepts has a valid name. -/
theorem charset_of_accepts {plan : Plan} {env : Env} {gateway : Option String}
    (h : plan.acceptsConfigured env gateway = true) :
    ∀ gw ∈ gateway, gatewayCharsetOk gw = true := by
  intro gw hgw
  obtain rfl := Option.mem_def.mp hgw
  simp only [Plan.acceptsConfigured, Plan.acceptsGateway, Bool.and_eq_true] at h
  exact h.1.1

/-- Such an operation keeps the rows such that they can be shown. -/
theorem interfaces_shown_step {crates : Crates} {w : World} {a : ServiceStep}
    (h : ∀ row ∈ w.db.interfaces.rows, row.Shown crates) (hstores : a.call.StoresShown) :
    ∀ row ∈ (serviceStep crates w a).db.interfaces.rows, row.Shown crates := by
  rcases a with ⟨call, plan, env⟩
  cases call with
  | interface call =>
      refine rows_step w ⟨call, plan, env⟩ ?_ ?_ (fun _ _ h => ⟨h.fields, h.charset, h.key⟩)
        (fun _ _ _ h => ⟨h.fields, h.charset, h.key⟩) h
      · rintro input row w' rfl heval hend
        obtain ⟨id, now, privateKey, publicKey, sealed, hrow⟩ := InterfaceService.create_row heval
        cases hend with
        | created row db key _ _ _ _ hsealed _ haccepts _ =>
            refine ⟨?_, charset_of_accepts haccepts, key, hsealed⟩
            rw [hrow]
            exact hstores
      · rintro id input old row rfl haccepted hold
        have hcharset := charset_of_accepts haccepted.gateway
        rcases rekeyed_ok haccepted.keys with rfl | ⟨key, sealed, hsealed, rfl⟩
        · exact ⟨hstores, hcharset, hold.key⟩
        · exact ⟨hstores, hcharset, key, hsealed⟩
  | _ =>
      rw [service_step_interfaces crates w _ fun call heq => by cases heq]
      exact h

/-! ## Requests -/

theorem field_text_of_web (s : String) : ∀ text ∈ blankToNone s, FieldText text := by
  intro text h
  unfold blankToNone at h
  split at h
  · cases h
  · next hblank =>
      obtain rfl := Option.some.inj h
      exact ⟨Bool.eq_false_iff.mpr hblank, Text.trim_trim s⟩

theorem field_text_of_api (s : Option String) : ∀ text ∈ Api.blankToNone s, FieldText text := by
  intro text h
  obtain ⟨htrimmed, hne⟩ := Option.filter_eq_some_iff.mp h
  obtain ⟨s, -, rfl⟩ := Option.map_eq_some_iff.mp htrimmed
  exact ⟨by simpa using hne, Text.trim_trim s⟩

/-- A port that the form lets through is not zero. -/
theorem Routes.Interfaces.listen_port_pos {s : String} {port : UInt16}
    (h : parseListenPort s = .ok port) : 0 < port := by
  unfold parseListenPort at h
  split at h
  · split at h
    · next hpos =>
        obtain rfl := Except.ok.inj h
        exact hpos
    · cases h
  · cases h

/-- The body of a request for the REST API has the port zero. -/
def Request.Portless : Request → Prop
  | api _ (.createInterface req) => req.listenPort = 0
  | api _ (.updateInterface _ req) => req.listenPort = 0
  | _ => False

/-- A request for the port zero is refused before anything happens. -/
theorem portless_refused {s : Site} {a : Served} (h : a.request.Portless) :
    (serveStep server s a).host = s.host.seen a.moment.env := by
  rcases a with ⟨request, moment⟩
  have hfails : ∀ checks port, port = 0 → ∃ e,
      Api.validate server.crates (checks ++ Api.checkPort port) = .error e := by
    intro checks port hport
    subst hport
    exact ⟨_, if_neg (by simp [Api.checkPort])⟩
  cases request with
  | visit session clientIp route | web session route => exact h.elim
  | health => exact h.elim
  | api credentials route =>
      have hrefused : Permitted .none (apiProgram server.crates credentials route) := by
        refine (ApiAuthUser.from_parts_permitted credentials).bind fun user => ?_
        cases route with
        | createInterface req =>
            obtain ⟨e, hvalidate⟩ := hfails (Api.checkLength "name" req.name 1 15) req.listenPort h
            refine (Api.of_except_permitted _).bind fun _ => ?_
            rw [hvalidate]
            exact .throw _
        | updateInterface path req =>
            obtain ⟨e, hvalidate⟩ := hfails [] req.listenPort h
            rw [List.nil_append] at hvalidate
            refine (Api.of_except_permitted _).bind fun _ => ?_
            rw [hvalidate]
            exact .throw _
        | _ => exact h.elim
      unfold serveStep Served.outcome Request.program
      rw [exec_map]
      exact hrefused.host rfl _ _

theorem shown_of_form {form : InterfaceForm} {parsed : Routes.Interfaces.ParsedForm}
    (h : Routes.Interfaces.parseForm crates form = .ok parsed) :
    ShownFields parsed.listenPort (blankToNone form.gateway) (blankToNone form.onUp)
      (blankToNone form.onDown) := by
  obtain ⟨port, hport, h⟩ := Outcome.bind_ok.mp h
  obtain ⟨ipv4Cidr, -, h⟩ := Outcome.bind_ok.mp h
  obtain ⟨ipv6Cidr, -, h⟩ := Outcome.bind_ok.mp h
  obtain ⟨mtu, -, h⟩ := Outcome.bind_ok.mp h
  obtain rfl := Except.ok.inj h
  exact ⟨Routes.Interfaces.listen_port_pos hport, field_text_of_web _, field_text_of_web _,
    field_text_of_web _⟩

theorem shown_of_body {port : UInt16} (hport : ¬ port = 0) (gateway onUp onDown : Option String) :
    ShownFields port (Api.blankToNone gateway) (Api.blankToNone onUp) (Api.blankToNone onDown) :=
  ⟨UInt16.pos_iff_ne_zero.mpr hport, field_text_of_api _, field_text_of_api _,
    field_text_of_api _⟩

/-- Every other request stores fields that are read back. -/
theorem asks_stores_shown {s : Site} {a : Served} {call : ServiceCall}
    (hport : ¬ a.request.Portless) (hasks : a.Asks server s call) : call.StoresShown := by
  obtain ⟨user, -, hasks⟩ := hasks
  rcases a with ⟨request, moment⟩
  cases request with
  | visit | health => exact hasks.elim
  | web session route =>
      obtain ⟨-, hasks⟩ := hasks
      cases hasks with
      | createInterface hform =>
          simp only [ServiceCall.StoresShown, Routes.Interfaces.createInput]
          exact shown_of_form hform
      | editInterface _ hform =>
          simp only [ServiceCall.StoresShown, Routes.Interfaces.updateInput]
          exact shown_of_form hform
      | _ => trivial
  | api credentials route =>
      obtain ⟨-, hasks⟩ := hasks
      cases hasks with
      | @createInterface req input hinput =>
          obtain ⟨ipv4Cidr, -, hinput⟩ := Outcome.bind_ok.mp hinput
          obtain ⟨ipv6Cidr, -, hinput⟩ := Outcome.bind_ok.mp hinput
          obtain rfl := Except.ok.inj hinput
          exact shown_of_body hport req.gateway req.onUp req.onDown
      | @updateInterface path id req input hpath hinput =>
          obtain ⟨ipv4Cidr, -, hinput⟩ := Outcome.bind_ok.mp hinput
          obtain ⟨ipv6Cidr, -, hinput⟩ := Outcome.bind_ok.mp hinput
          obtain rfl := Except.ok.inj hinput
          exact shown_of_body hport req.gateway req.onUp req.onDown
      | _ => trivial

/-- In every run of requests of both front ends from a site without interfaces, the rows can be
shown. -/
theorem interfaces_shown_run (server : Server) (s : Site) (run : List Served)
    (hempty : s.host.db.interfaces.rows = []) :
    Runs.Always (serveStep server)
      (fun s => ∀ row ∈ s.host.db.interfaces.rows, row.Shown server.crates.toCrates) s run := by
  refine Runs.always_of_step (fun s a h => ?_) ?_ run
  · by_cases hport : a.request.Portless
    · rw [portless_refused hport]
      exact h
    · exact front_keeps
        (fun w => ∀ row ∈ w.db.interfaces.rows, row.Shown server.crates.toCrates)
        (fun _ _ h => h)
        (fun call hasks h => interfaces_shown_step h (asks_stores_shown hport hasks)) h
  · intro row hrow
    rw [hempty] at hrow
    cases hrow

/-! ## The form -/

/-- A form that is submitted as it was shown. -/
def InterfaceFormState.submitted (state : InterfaceFormState) : InterfaceForm where
  name := state.name
  listenPort := state.listenPort
  ipv4Cidr := state.ipv4Cidr
  ipv6Cidr := state.ipv6Cidr
  mtu := state.mtu
  dns := state.dns
  gateway := state.gateway
  onUp := state.onUp
  onDown := state.onDown
  publicKey := state.publicKey
  privateKey := state.privateKey

/-- The form as a browser sends it: the gateway is an option of a list, whose first one is blank. -/
def InterfaceFormState.chosen (state : InterfaceFormState) (gateways : List GatewayOption) :
    InterfaceForm :=
  { state.submitted with
    gateway := if state.gateway ∈ gateways.map GatewayOption.name then state.gateway else "" }

/-- The library reads back what the page shows of an interface. -/
structure Interface.ReadsBack (crates : WebCrates) (row : Interface) : Prop where
  id : crates.parseUuid row.id.display = some row.id.value
  ipv4 : ∀ net ∈ row.ipv4Cidr, crates.parseIpNet net.display = some net
  ipv6 : ∀ net ∈ row.ipv6Cidr, crates.parseIpNet net.display = some net

/-- The DNS servers as the text with commas gives them back. -/
def rereadDns (dns : List String) : List String :=
  ((splitCommas (", ".intercalate dns)).map Text.trim).filter fun s => !s.isEmpty

/-- The row that saving the page leaves, apart from the time of the change. -/
def Interface.reread (row : Interface) (gateway : Option String) : Interface :=
  { row with endpoint := none, gateway, dns := rereadDns row.dns }

namespace Routes.Interfaces

variable {outage : Outage} {s : Site} {session : SessionId} {user : AuthUser} {row : Interface}
  {gateway : Option String} {text : String}

theorem parse_form_shown (h : row.Shown crates.toCrates) (hreads : row.ReadsBack crates)
    (text : String) :
    parseForm crates { (editState crates row).submitted with gateway := text } =
      .ok ⟨row.listenPort, row.ipv4Cidr, row.ipv6Cidr, row.mtu, rereadDns row.dns⟩ := by
  have hport := parse_listen_port_shown h.fields.port
  have hipv4 : parseCidr crates "Invalid IPv4 CIDR" ((row.ipv4Cidr.map IpNet.display).getD "") =
      .ok row.ipv4Cidr := parse_cidr_shown hreads.ipv4
  have hipv6 : parseCidr crates "Invalid IPv6 CIDR" ((row.ipv6Cidr.map IpNet.display).getD "") =
      .ok row.ipv6Cidr := parse_cidr_shown hreads.ipv6
  have hmtu := parse_mtu_shown row.mtu
  simp only [parseForm, editState, InterfaceFormState.submitted, hport, hipv4, hipv6, hmtu]
  rfl

/-- The edit that the page asks for, with a gateway that may differ from the one that was shown. -/
theorem reread_accepted {plan : Plan} {w : World} (h : row.Shown crates.toCrates)
    (hcrates : crates.toCrates.SealsBack) (hrow : row ∈ w.db.interfaces.rows)
    (hstatements : ∀ c, c.isStatement = true → plan.error c = none)
    (htext : blankToNone text = gateway)
    (hgateway : plan.acceptsConfigured w.env gateway = true) :
    InterfaceService.Accepted plan crates.toCrates w row.id
      (updateInput { (editState crates row).submitted with gateway := text }
        ⟨row.listenPort, row.ipv4Cidr, row.ipv6Cidr, row.mtu, rereadDns row.dns⟩)
      row (row.reread gateway) := by
  obtain ⟨key, hseal⟩ := h.key
  -- the key that is shown is the stored one
  have hkey : Text.trim (crates.toCrates.unsealText row.privateKeySealed) =
      crates.toCrates.unsealText row.privateKeySealed := by
    rw [unseal_text_sealed hcrates hseal]
    exact (PlainText.key key.inner).trim
  have hinput : updateInput { (editState crates row).submitted with gateway := text }
      ⟨row.listenPort, row.ipv4Cidr, row.ipv6Cidr, row.mtu, rereadDns row.dns⟩ =
        { listenPort := row.listenPort, endpoint := none, gateway, ipv4Cidr := row.ipv4Cidr
          ipv6Cidr := row.ipv6Cidr, mtu := row.mtu, dns := rereadDns row.dns, onUp := row.onUp
          onDown := row.onDown
          privateKey := crates.toCrates.unsealText row.privateKeySealed } := by
    have hup : blankToNone (row.onUp.getD "") = row.onUp := blank_to_none_shown h.fields.onUp
    have hdown : blankToNone (row.onDown.getD "") = row.onDown :=
      blank_to_none_shown h.fields.onDown
    simp only [updateInput, editState, InterfaceFormState.submitted, revealInterfacePrivateKey, hup,
      hdown, htext, hkey]
  rw [hinput]
  constructor
  · rw [Plan.readInterface, hstatements _ rfl]
    exact Table.find_of_mem hrow
  · exact hgateway
  · show rekeyed crates.toCrates (row.reread gateway)
      (Text.trim (crates.toCrates.unsealText row.privateKeySealed)) = .ok (row.reread gateway)
    rw [hkey, rekeyed, if_neg]
    show ¬ (_ && decide (crates.toCrates.unsealText row.privateKeySealed ≠
      crates.toCrates.unsealText row.privateKeySealed)) = true
    simp
  · rw [Plan.savesInterface, hstatements _ rfl]
    rfl

theorem eval_find_interface (hrow : row ∈ s.host.db.interfaces.rows)
    (hstatements : ∀ c, c.isStatement = true → outage.host.error c = none) :
    eval (serve outage) (findInterface row.id) s = (.ok row, s) := by
  refine eval_bind_ok.mpr ⟨some row, s, ?_, rfl⟩
  rw [Web.service, Web.eval_repo_ok, Web.host, eval_embed (site_embedding_acts outage),
    SqliteInterfaceRepository.eval_find_by_id, Plan.outcome, hstatements _ rfl,
    Table.find_of_mem hrow]
  rfl

theorem find_interface_ok {found : Interface} {s' : Site} (hrow : row ∈ s.host.db.interfaces.rows)
    (h : eval (serve outage) (findInterface row.id) s = (.ok found, s')) :
    found = row ∧ s' = s := by
  obtain ⟨value, middle, hread, hvalue⟩ := eval_bind_ok.mp h
  obtain ⟨rfl, rfl⟩ := Web.eval_or_fail_ok.mp hvalue
  obtain ⟨hvalue, hmiddle⟩ :=
    Web.service_read_ok (fun _ => SqliteInterfaceRepository.eval_find_by_id row.id) hread
  rw [Table.find_of_mem hrow] at hvalue
  exact ⟨Option.some.inj hvalue, hmiddle⟩

/-- Saving the page with the gateway `text` goes on to the list and leaves the row with the fields
as they are read back. -/
theorem eval_edit_reread (hcrates : crates.toCrates.SealsBack)
    (hstatements : ∀ c, c.isStatement = true → outage.host.error c = none)
    (hmutate : user.role.canMutate = true) (hshown : row.Shown crates.toCrates)
    (hrow : row ∈ s.host.db.interfaces.rows) (hreads : row.ReadsBack crates)
    (htext : blankToNone text = gateway)
    (hgateway : outage.host.acceptsConfigured s.host.env gateway = true) :
    let saved := eval (serve outage) (edit crates session user row.id.display
      { (editState crates row).submitted with gateway := text }) s
    saved.1 = .ok (.redirect "/interfaces") ∧ saved.2.host.db.interfaces.find row.id =
      some { row.reread gateway with updatedAt := s.host.env.now } := by
  intro saved
  have haccepted := reread_accepted hshown hcrates hrow hstatements htext hgateway
  have hlists : outage.host.listsPeers row.id = true := by
    rw [Plan.listsPeers, hstatements _ rfl]
    rfl
  obtain ⟨w', heval, hdb⟩ := InterfaceService.update_accepted haccepted hlists
  have hfind : w'.db.interfaces.find row.id =
      some { row.reread gateway with updatedAt := s.host.env.now } := by
    show ((w'.db).interfaces.find row.id) = _
    rw [hdb, Db.updateInterface, Table.find_modify]
    show ((s.host.db.interfaces.find row.id).map
      (Db.setInterface (row.reread gateway) s.host.env.now)) = _
    rw [Table.find_of_mem hrow, Option.map_some, Db.setInterface,
      if_pos (show row.id = (row.reread gateway).id from rfl)]
    rfl
  have hsaved : saved.1 = .ok (.redirect "/interfaces") ∧ saved.2.host = w' := by
    show (eval (serve outage) (edit crates session user row.id.display
      { (editState crates row).submitted with gateway := text }) s).1 = _ ∧
      (eval (serve outage) (edit crates session user row.id.display
        { (editState crates row).submitted with gateway := text }) s).2.host = _
    unfold edit AuthUser.requireMutate
    rw [if_pos hmutate, eval_bind, eval_pure]
    simp only
    rw [eval_bind, Web.eval_parse_id hreads.id]
    simp only
    rw [eval_bind, eval_find_interface hrow hstatements]
    simp only [parse_form_shown hshown hreads text]
    rw [eval_bind, Web.eval_attempt_host, heval]
    simp only
    rw [eval_bind, Web.setFlash, Web.sessionInsert, eval_ignore]
    refine ⟨rfl, ?_⟩
    have hflash : Permitted .none
        (Web.setFlash session (Web.flashSuccess s!"Interface '{row.name}' updated")) :=
      Web.session_insert_permitted session .flash _
    exact hflash.host rfl outage { s with host := w' }
  rw [hsaved.2]
  exact ⟨hsaved.1, hfind⟩

/-- What saving an interface as it is shown should do: the page goes on to the list, and nothing in
the row is new but the time of the change. -/
structure SavedUnchanged (s : Site) (row : Interface)
    (answer : Except (Stop WebError) Response) (s' : Site) : Prop where
  answered : answer = .ok (.redirect "/interfaces")
  row : s'.host.db.interfaces.find row.id = some { row with updatedAt := s.host.env.now }

/-- The fields are read back as they were exactly if there is no endpoint, the gateway is that of
the row, and every DNS server survives the text with commas. -/
theorem edit_reread_iff (hcrates : crates.toCrates.SealsBack)
    (hstatements : ∀ c, c.isStatement = true → outage.host.error c = none)
    (hmutate : user.role.canMutate = true) (hshown : row.Shown crates.toCrates)
    (hrow : row ∈ s.host.db.interfaces.rows) (hreads : row.ReadsBack crates)
    (htext : blankToNone text = gateway)
    (hgateway : outage.host.acceptsConfigured s.host.env gateway = true) :
    let saved := eval (serve outage) (edit crates session user row.id.display
      { (editState crates row).submitted with gateway := text }) s
    SavedUnchanged s row saved.1 saved.2 ↔
      (row.endpoint = none ∧ ∀ server ∈ row.dns, ListEntry server) ∧ gateway = row.gateway := by
  intro saved
  obtain ⟨hanswer, hfind⟩ := @eval_edit_reread crates outage s session user row gateway text
    hcrates hstatements hmutate hshown hrow hreads htext hgateway
  constructor
  · intro h
    have hsame := Option.some.inj (hfind.symm.trans h.row)
    simp only [Interface.reread, Interface.mk.injEq, true_and, and_true] at hsame
    obtain ⟨hendpoint, hgw, hdns⟩ := hsame
    exact ⟨⟨hendpoint.symm, list_round_trip_iff.mp hdns⟩, hgw⟩
  · rintro ⟨⟨hendpoint, hdns⟩, hgw⟩
    refine ⟨hanswer, hfind.trans (congrArg some ?_)⟩
    have hreread : row.reread gateway = row := by
      simp only [Interface.reread, hgw, ← hendpoint]
      rw [show rereadDns row.dns = row.dns from list_round_trip_iff.mpr hdns]
    rw [hreread]

/-! ## The page -/

/-- The host interfaces that the page offers as gateways. -/
def offered (links : List SysInterface) : List GatewayOption :=
  (links.filter fun i => i.name ≠ "lo" && !i.name.startsWith "wg").map fun i => ⟨i.name, i.up⟩

theorem eval_gateways (hlinks : outage.host.error .listLinks = none) (s : Site) :
    eval (serve outage) gateways s = (.ok (offered s.host.env.links), s) := by
  have hlist : eval (handle outage.host) GetifaddrsAdapter.list s.host =
      (.ok s.host.env.links, s.host) := by
    unfold GetifaddrsAdapter.list
    simp only [eval_or_else, exec_request, handle, Plan.read, Plan.outcome, hlinks]
    rfl
  unfold gateways Web.listOrEmpty
  simp only [eval_bind]
  rw [Web.eval_attempt_host, hlist]
  rfl

/-- The page of an interface shows the fields of its row, and the gateways to choose from. -/
theorem edit_interface_page_shows {viewer : AuthUser} {flash : Option Flash}
    {shown name status rules : String} {form : InterfaceFormState}
    {options : List GatewayOption} {s' : Site}
    (hid : crates.parseUuid row.id.display = some row.id.value)
    (hrow : row ∈ s.host.db.interfaces.rows)
    (hlinks : outage.host.error .listLinks = none)
    (h : eval (serve outage) (editPage crates session user row.id.display) s =
      (.ok (.html 200 (.editInterface viewer flash none shown name status form options rules)),
        s')) :
    form = editState crates row ∧ options = offered s.host.env.links := by
  obtain ⟨id, s₁, hparsed, h⟩ := eval_bind_ok.mp h
  obtain ⟨found, s₂, hfound, h⟩ := eval_bind_ok.mp h
  obtain ⟨message, s₃, hflash, h⟩ := eval_bind_ok.mp h
  obtain ⟨gateways, s₄, hgateways, hanswer⟩ := eval_bind_ok.mp h
  rw [Web.eval_parse_id hid] at hparsed
  cases hparsed
  obtain ⟨rfl, rfl⟩ := find_interface_ok hrow hfound
  -- the message of the page is taken from the session
  have hkept : Permitted .none (Web.takeFlash session) := Web.take_flash_permitted session
  have hhost : s₃.host = s₂.host := by
    have hsame := hkept.host rfl outage s₂
    rw [hflash] at hsame
    exact hsame
  rw [eval_gateways hlinks, hhost] at hgateways
  cases hgateways
  cases hanswer
  exact ⟨rfl, rfl⟩

/-- A gateway with a valid name that the host has is offered unless it looks like a tunnel. -/
theorem mem_offered {links : List SysInterface} {gw : String}
    (hcharset : gatewayCharsetOk gw = true) (hexists : links.any (·.name = gw) = true) :
    gw ∈ (offered links).map GatewayOption.name ↔ gw.startsWith "wg" = false := by
  have hne : gw ≠ "lo" := by
    simp only [gatewayCharsetOk, Bool.and_eq_true, decide_eq_true_eq] at hcharset
    exact hcharset.1.2
  constructor
  · intro hmem
    obtain ⟨option, hoption, hname⟩ := List.mem_map.mp hmem
    obtain ⟨link, hlink, heq⟩ := List.mem_map.mp hoption
    subst heq
    subst hname
    have hkept := (List.mem_filter.mp hlink).2
    rw [Bool.and_eq_true, Bool.not_eq_true'] at hkept
    exact hkept.2
  · intro htunnel
    obtain ⟨link, hlink, hname⟩ := List.any_eq_true.mp hexists
    have hname' : link.name = gw := of_decide_eq_true hname
    refine List.mem_map.mpr ⟨⟨link.name, link.up⟩, List.mem_map.mpr ⟨link, ?_, rfl⟩, hname'⟩
    refine List.mem_filter.mpr ⟨hlink, ?_⟩
    simp [hname', hne, htunnel]

/-- A browser sends the gateway of the row, or none. -/
theorem chosen_gateway_cases (hshown : row.Shown crates.toCrates) (options : List GatewayOption) :
    blankToNone ((editState crates row).chosen options).gateway = row.gateway ∨
      blankToNone ((editState crates row).chosen options).gateway = none := by
  unfold InterfaceFormState.chosen
  by_cases hmem : (editState crates row).gateway ∈ options.map GatewayOption.name
  · left
    simp only [if_pos hmem]
    exact blank_to_none_shown hshown.fields.gateway
  · right
    simp only [if_neg hmem]
    decide

/-- The gateway that a browser sends is that of the row exactly if it is offered. -/
theorem chosen_gateway_iff {links : List SysInterface} (hshown : row.Shown crates.toCrates)
    (hexists : ∀ gw ∈ row.gateway, links.any (·.name = gw) = true) :
    blankToNone ((editState crates row).chosen (offered links)).gateway = row.gateway ↔
      ∀ gw ∈ row.gateway, gw.startsWith "wg" = false := by
  have hblank : blankToNone "" = none := by decide
  unfold InterfaceFormState.chosen
  show blankToNone (if row.gateway.getD "" ∈ (offered links).map GatewayOption.name then
    row.gateway.getD "" else "") = row.gateway ↔ _
  cases hgw : row.gateway with
  | none => simp [hblank]
  | some gw =>
      have hfield := (hshown.fields.gateway gw hgw)
      have hread : blankToNone gw = some gw := by
        rw [blankToNone, hfield.2, hfield.1]
        rfl
      have hoffered := mem_offered (hshown.charset gw hgw) (hexists gw hgw)
      show blankToNone (if gw ∈ (offered links).map GatewayOption.name then gw else "") =
        some gw ↔ ∀ gw' ∈ some gw, gw'.startsWith "wg" = false
      by_cases hmem : gw ∈ (offered links).map GatewayOption.name
      · rw [if_pos hmem]
        refine iff_of_true hread fun gw' hgw' => ?_
        rw [← Option.some.inj hgw']
        exact hoffered.mp hmem
      · rw [if_neg hmem, hblank]
        refine iff_of_false (fun hnone => ?_) fun hall => hmem (hoffered.mpr (hall gw rfl))
        cases hnone

/-- The page of an interface leaves the host as it is, so that it shows the row that is saved. -/
theorem shown_interface_iff {page save : Moment} {shown : Site} {viewer : AuthUser}
    {flash : Option Flash} {status rules : String} {form : InterfaceFormState}
    {options : List GatewayOption} (hcrates : crates.toCrates.SealsBack)
    (hshown : row.Shown crates.toCrates) (hrow : row ∈ s.host.db.interfaces.rows)
    (hreads : row.ReadsBack crates)
    (hexists : ∀ gw ∈ row.gateway, page.env.links.any (·.name = gw) = true ∧
      save.env.links.any (·.name = gw) = true)
    (hlinks : page.outage.host.error .listLinks = none ∧
      save.outage.host.error .listLinks = none)
    (hpage : eval (serve page.outage) (editPage crates session user row.id.display)
      (s.seen page) =
        (.ok (.html 200 (.editInterface viewer flash none row.id.display row.name status form
          options rules)), shown))
    (hmutate : user.role.canMutate = true)
    (hstatements : ∀ c, c.isStatement = true → save.outage.host.error c = none) :
    let saved (form : InterfaceForm) := eval (serve save.outage)
      (edit crates session user row.id.display form) (shown.seen save)
    (SavedUnchanged (shown.seen save) row (saved form.submitted).1 (saved form.submitted).2 ↔
        row.endpoint = none ∧ ∀ text ∈ row.dns, ListEntry text) ∧
      (SavedUnchanged (shown.seen save) row (saved (form.chosen options)).1
          (saved (form.chosen options)).2 ↔
        (row.endpoint = none ∧ ∀ text ∈ row.dns, ListEntry text) ∧
          ∀ gw ∈ row.gateway, gw.startsWith "wg" = false) := by
  have hseen : row ∈ (s.seen page).host.db.interfaces.rows := hrow
  obtain ⟨rfl, rfl⟩ := edit_interface_page_shows hreads.id hseen hlinks.1 hpage
  -- the page leaves the host as it is
  have hviewed : Permitted .none (editPage crates session user row.id.display) :=
    edit_page_permitted row.id.display
  have hhost := hviewed.host rfl page.outage (s.seen page)
  rw [hpage] at hhost
  simp only at hhost
  have hmem : row ∈ (shown.seen save).host.db.interfaces.rows := by
    show row ∈ shown.host.db.interfaces.rows
    rw [hhost]
    exact hrow
  have haccepts : save.outage.host.acceptsConfigured save.env row.gateway = true := by
    cases hgw : row.gateway with
    | none => rfl
    | some gw =>
        simp only [Plan.acceptsConfigured, Plan.acceptsGateway, hshown.charset gw hgw, hlinks.2,
          (hexists gw hgw).2]
        rfl
  constructor
  · have htext : blankToNone (row.gateway.getD "") = row.gateway :=
      blank_to_none_shown hshown.fields.gateway
    refine (edit_reread_iff hcrates hstatements hmutate hshown hmem hreads htext haccepts).trans ?_
    exact and_iff_left rfl
  · have hchosen := @chosen_gateway_iff crates row page.env.links hshown
      fun gw hgw => (hexists gw hgw).1
    have haccepts' : save.outage.host.acceptsConfigured save.env
        (blankToNone ((editState crates row).chosen
          (offered page.env.links)).gateway) = true := by
      rcases chosen_gateway_cases hshown (offered page.env.links) with hsame | hnone
      · rw [hsame]
        exact haccepts
      · rw [hnone]
        rfl
    refine (edit_reread_iff hcrates hstatements hmutate hshown hmem hreads rfl haccepts').trans ?_
    exact and_congr_right fun _ => hchosen

/-- After every run of requests of both front ends from a site without interfaces, saving what the
page of an interface shows leaves the row as it is exactly if it has no endpoint and its DNS
servers survive the text with commas; in a browser the gateway has to be one that is offered,
too. -/
theorem saved_interface_iff (server : Server) (hcrates : server.crates.toCrates.SealsBack)
    (start : Site) (run : List Served) (hempty : start.host.db.interfaces.rows = [])
    (row : Interface) (session : SessionId) (user : AuthUser) (page save : Moment)
    (s shown : Site) (viewer : AuthUser) (flash : Option Flash) (status rules : String)
    (form : InterfaceFormState) (options : List GatewayOption)
    (hs : s = Runs.after (serveStep server) start run) (hrow : row ∈ s.host.db.interfaces.rows)
    (hreads : row.ReadsBack server.crates)
    (hexists : ∀ gw ∈ row.gateway, page.env.links.any (·.name = gw) = true ∧
      save.env.links.any (·.name = gw) = true)
    (hlinks : page.outage.host.error .listLinks = none ∧
      save.outage.host.error .listLinks = none)
    (hpage : eval (serve page.outage) (editPage server.crates session user row.id.display)
      (s.seen page) =
        (.ok (.html 200 (.editInterface viewer flash none row.id.display row.name status form
          options rules)), shown))
    (hmutate : user.role.canMutate = true)
    (hstatements : ∀ c, c.isStatement = true → save.outage.host.error c = none) :
    let saved (form : InterfaceForm) := eval (serve save.outage)
      (edit server.crates session user row.id.display form) (shown.seen save)
    (SavedUnchanged (shown.seen save) row (saved form.submitted).1 (saved form.submitted).2 ↔
        row.endpoint = none ∧ ∀ text ∈ row.dns, ListEntry text) ∧
      (SavedUnchanged (shown.seen save) row (saved (form.chosen options)).1
          (saved (form.chosen options)).2 ↔
        (row.endpoint = none ∧ ∀ text ∈ row.dns, ListEntry text) ∧
          ∀ gw ∈ row.gateway, gw.startsWith "wg" = false) := by
  have hshown : row.Shown server.crates.toCrates := by
    subst hs
    exact Runs.always_iff_initial.mp (interfaces_shown_run server start run hempty) run
      List.prefix_rfl row hrow
  exact shown_interface_iff hcrates hshown hrow hreads hexists hlinks hpage hmutate hstatements

/-- The page of an interface comes up if its row can be read. -/
theorem eval_interface_page {page : Moment}
    (hid : crates.parseUuid row.id.display = some row.id.value)
    (hrow : row ∈ s.host.db.interfaces.rows)
    (hstatements : ∀ c, c.isStatement = true → page.outage.host.error c = none) :
    ∃ flash options shown, eval (serve page.outage)
        (editPage crates session user row.id.display) (s.seen page) =
      (.ok (.html 200 (.editInterface user flash none row.id.display row.name row.status.asStr
        (editState crates row) options (generatedRulesFor row))), shown) := by
  obtain ⟨flash, options, hanswer⟩ :=
    @shown_page_key crates session user page.outage row (s.seen page)
  have hseen : row ∈ (s.seen page).host.db.interfaces.rows := hrow
  have hpage : eval (serve page.outage) (editPage crates session user row.id.display)
      (s.seen page) = eval (serve page.outage) (shownPage crates session user row)
        (s.seen page) := by
    unfold editPage shownPage
    rw [eval_bind, Web.eval_parse_id hid]
    simp only
    rw [eval_bind, eval_find_interface hseen hstatements]
  rcases heval : eval (serve page.outage) (shownPage crates session user row) (s.seen page) with
    ⟨answer, shown⟩
  rw [heval] at hanswer
  exact ⟨flash, options, shown, hpage.trans (heval.trans (congrArg (·, shown) hanswer))⟩

/-- A moment at which the host shows an uplink and nothing fails. -/
def uplinkMoment : Moment :=
  .calm { auditedSite with host := .fresh ["eth0"] } .inserted

/-- An interface is created through the REST API. -/
def endpointRun (endpoint : Option String) : List Served :=
  let req : CreateInterfaceRequest :=
    { name := "wg0", listenPort := 51820, endpoint, gateway := some "eth0"
      ipv4Cidr := some "10.7.0.0/24", ipv6Cidr := none, mtu := some 1420
      dns := ["1.1.1.1", "9.9.9.9"], onUp := none, onDown := none, privateKey := none }
  [⟨.api ⟨none, ⟨0⟩⟩ (.createInterface req), uplinkMoment⟩]

/-- The site after that. -/
def endpointSite (endpoint : Option String) : Site :=
  Runs.after (serveStep (.reading .lab)) auditedSite (endpointRun endpoint)

/-- The row is that of the network, with the endpoint. -/
def HasEndpoint (endpoint : Option String) (row : Interface) : Bool :=
  row.id = ⟨0⟩ && row.ipv4Cidr = some .lab && row.ipv6Cidr.isNone && row.gateway = some "eth0" &&
    row.endpoint = endpoint && row.mtu = some 1420 && row.dns = ["1.1.1.1", "9.9.9.9"]

theorem endpoint_rows :
    (endpointSite none).host.db.interfaces.rows.any (HasEndpoint none) = true ∧
      (endpointSite (some "vpn.example.com:51820")).host.db.interfaces.rows.any
        (HasEndpoint (some "vpn.example.com:51820")) = true := by
  decide +kernel

/-- The row can be read back, and its gateway is there. -/
theorem endpoint_reads {endpoint : Option String} (h : HasEndpoint endpoint row = true) :
    row.ReadsBack (Server.reading .lab).crates ∧
      (∀ gw ∈ row.gateway, uplinkMoment.env.links.any (·.name = gw) = true ∧
        uplinkMoment.env.links.any (·.name = gw) = true) ∧
      row.gateway = some "eth0" ∧ row.endpoint = endpoint ∧ row.mtu = some 1420 ∧
      row.dns = ["1.1.1.1", "9.9.9.9"] := by
  simp only [HasEndpoint, Bool.and_eq_true, decide_eq_true_eq, Option.isNone_iff_eq_none] at h
  obtain ⟨⟨⟨⟨⟨⟨hid, hipv4⟩, hipv6⟩, hgateway⟩, hendpoint⟩, hmtu⟩, hdns⟩ := h
  refine ⟨⟨?_, fun net hnet => ?_, fun net hnet => ?_⟩, fun gw hgw => ?_, hgateway, hendpoint, hmtu,
    hdns⟩
  · rw [hid]
    decide +kernel
  · rw [hipv4] at hnet
    exact hnet
  · rw [hipv6] at hnet
    cases hnet
  · rw [hgateway] at hgw
    obtain rfl := Option.some.inj hgw
    decide

/-- A row with a gateway, an MTU and DNS servers is left as it is, by the form and by a browser. -/
theorem saved_interface_uplink : ∃ row flash options shown,
    row ∈ (endpointSite none).host.db.interfaces.rows ∧ row.gateway = some "eth0" ∧
      row.mtu = some 1420 ∧ row.dns = ["1.1.1.1", "9.9.9.9"] ∧
      eval (serve .none) (editPage (Server.reading .lab).crates ⟨0⟩ ⟨⟨0⟩, "admin", .admin⟩
          row.id.display) ((endpointSite none).seen uplinkMoment) =
        (.ok (.html 200 (.editInterface ⟨⟨0⟩, "admin", .admin⟩ flash none row.id.display row.name
          row.status.asStr (editState (Server.reading .lab).crates row) options
          (generatedRulesFor row))), shown) ∧
      let saved (form : InterfaceForm) := eval (serve .none) (edit (Server.reading .lab).crates ⟨0⟩
        ⟨⟨0⟩, "admin", .admin⟩ row.id.display form) (shown.seen uplinkMoment)
      let form := editState (Server.reading .lab).crates row
      SavedUnchanged (shown.seen uplinkMoment) row (saved form.submitted).1
          (saved form.submitted).2 ∧
        SavedUnchanged (shown.seen uplinkMoment) row (saved (form.chosen options)).1
          (saved (form.chosen options)).2 := by
  obtain ⟨row, hrow, hfields⟩ := List.any_eq_true.mp endpoint_rows.1
  obtain ⟨hreads, hexists, hgateway, hendpoint, hmtu, hdns⟩ := endpoint_reads hfields
  obtain ⟨flash, options, shown, hpage⟩ := @eval_interface_page (Server.reading .lab).crates
    (endpointSite none) ⟨0⟩ ⟨⟨0⟩, "admin", .admin⟩ row uplinkMoment hreads.id hrow fun _ _ => rfl
  refine ⟨row, flash, options, shown, hrow, hgateway, hmtu, hdns, hpage, ?_⟩
  obtain ⟨hsubmitted, hchosen⟩ := saved_interface_iff (.reading .lab) Crates.seals_back_transparent
    auditedSite (endpointRun none) rfl row ⟨0⟩ ⟨⟨0⟩, "admin", .admin⟩ uplinkMoment uplinkMoment
    (endpointSite none) shown ⟨⟨0⟩, "admin", .admin⟩ flash row.status.asStr (generatedRulesFor row)
    (editState (Server.reading .lab).crates row) options rfl hrow hreads hexists ⟨rfl, rfl⟩ hpage
    rfl fun _ _ => rfl
  have hkept : row.endpoint = none ∧ ∀ text ∈ row.dns, ListEntry text := by
    have hentries : ∀ text ∈ ["1.1.1.1", "9.9.9.9"],
        text.isEmpty = false ∧ Text.trim text = text ∧ ',' ∉ text.toList := by decide +kernel
    exact ⟨hendpoint, hdns ▸ hentries⟩
  refine ⟨hsubmitted.mpr hkept, hchosen.mpr ⟨hkept, fun gw hgw => ?_⟩⟩
  rw [hgateway] at hgw
  obtain rfl := Option.some.inj hgw
  decide +kernel

/-- The endpoint of an interface is not on its page, and saving the page drops it. -/
theorem saved_interface_endpoint : ¬ ∀ (server : Server) (start : Site) (run : List Served)
    (row : Interface) (session : SessionId) (user : AuthUser) (page save : Moment)
    (s shown : Site) (viewer : AuthUser) (flash : Option Flash) (status rules : String)
    (form : InterfaceFormState) (options : List GatewayOption),
    server.crates.toCrates.SealsBack → start.host.db.interfaces.rows = [] →
      s = Runs.after (serveStep server) start run → row ∈ s.host.db.interfaces.rows →
      row.ReadsBack server.crates →
      (∀ gw ∈ row.gateway, page.env.links.any (·.name = gw) = true ∧
        save.env.links.any (·.name = gw) = true) →
      page.outage.host.error .listLinks = none ∧ save.outage.host.error .listLinks = none →
      eval (serve page.outage) (editPage server.crates session user row.id.display)
        (s.seen page) =
          (.ok (.html 200 (.editInterface viewer flash none row.id.display row.name status form
            options rules)), shown) →
      user.role.canMutate = true →
      (∀ c, c.isStatement = true → save.outage.host.error c = none) →
      let saved := eval (serve save.outage)
        (edit server.crates session user row.id.display form.submitted) (shown.seen save)
      SavedUnchanged (shown.seen save) row saved.1 saved.2 := by
  intro h
  obtain ⟨row, hrow, hfields⟩ := List.any_eq_true.mp endpoint_rows.2
  obtain ⟨hreads, hexists, -, hendpoint, -⟩ := endpoint_reads hfields
  obtain ⟨flash, options, shown, hpage⟩ := @eval_interface_page (Server.reading .lab).crates
    (endpointSite (some "vpn.example.com:51820")) ⟨0⟩ ⟨⟨0⟩, "admin", .admin⟩ row uplinkMoment
    hreads.id hrow fun _ _ => rfl
  have hsaved := h (.reading .lab) auditedSite (endpointRun (some "vpn.example.com:51820")) row
    ⟨0⟩ ⟨⟨0⟩, "admin", .admin⟩ uplinkMoment uplinkMoment
    (endpointSite (some "vpn.example.com:51820")) shown ⟨⟨0⟩, "admin", .admin⟩ flash
    row.status.asStr (generatedRulesFor row) (editState (Server.reading .lab).crates row) options
    Crates.seals_back_transparent rfl rfl hrow hreads hexists ⟨rfl, rfl⟩ hpage rfl fun _ _ => rfl
  have hshown : row.Shown (Server.reading .lab).crates.toCrates :=
    Runs.always_iff_initial.mp
      (interfaces_shown_run (.reading .lab) auditedSite
        (endpointRun (some "vpn.example.com:51820")) rfl) _ List.prefix_rfl row hrow
  have hiff := @shown_interface_iff (Server.reading .lab).crates
    (endpointSite (some "vpn.example.com:51820")) ⟨0⟩ ⟨⟨0⟩, "admin", .admin⟩ row
    uplinkMoment uplinkMoment shown ⟨⟨0⟩, "admin", .admin⟩ flash
    row.status.asStr (generatedRulesFor row) (editState (Server.reading .lab).crates row) options
    Crates.seals_back_transparent hshown hrow hreads hexists ⟨rfl, rfl⟩ hpage rfl fun _ _ => rfl
  obtain ⟨hnone, -⟩ := hiff.1.mp hsaved
  rw [hendpoint] at hnone
  cases hnone

end Routes.Interfaces

end Wireforge
