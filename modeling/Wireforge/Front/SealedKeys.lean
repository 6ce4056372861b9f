import Wireforge.Front.Operations
import Wireforge.Lib.Similar

/-!
# The private keys of interfaces

Whether an answer to a request that only reads tells something of the sealed private keys of
interfaces. Sites that differ in nothing else are compared: a `Discreet` program returns the same
on both of them. All handlers of such requests are discreet, except that of the page of an
interface, whose form shows the private key to whoever may open it.
-/

namespace Wireforge

open Effect

/-- The row without its private key. -/
def Interface.unkeyed (iface : Interface) : Interface :=
  { iface with privateKeySealed := .empty }

/-- The site with another host. -/
def Site.withHost (s : Site) (host : World) : Site :=
  { s with host }

/-- The sites differ in nothing but the sealed private keys of their interfaces. -/
structure SameButKeys (s s' : Site) : Prop where
  interfaces : s.host.db.interfaces.rows.map Interface.unkeyed =
    s'.host.db.interfaces.rows.map Interface.unkeyed
  peers : s.host.db.peers = s'.host.db.peers
  traffic : s.host.db.traffic = s'.host.db.traffic
  host : { s.host with db := s'.host.db } = s'.host
  site : s.withHost s'.host = s'

/-! ## What does not depend on private keys -/

section Blind

variable (rows : List Interface) (iface : Interface)

theorem find_unkeyed (p : Interface → Bool) (hp : ∀ iface, p iface.unkeyed = p iface) :
    (rows.map Interface.unkeyed).find? p = (rows.find? p).map Interface.unkeyed := by
  rw [List.find?_map, show p ∘ Interface.unkeyed = p from funext hp]

theorem count_unkeyed (p : Interface → Bool) (hp : ∀ iface, p iface.unkeyed = p iface) :
    (rows.map Interface.unkeyed).countP p = rows.countP p := by
  rw [List.countP_map, show p ∘ Interface.unkeyed = p from funext hp]

theorem map_unkeyed {α : Type} (f : Interface → α) (hf : ∀ iface, f iface.unkeyed = f iface) :
    (rows.map Interface.unkeyed).map f = rows.map f := by
  rw [List.map_map, show f ∘ Interface.unkeyed = f from funext hf]

theorem sorted_unkeyed :
    sortedBy Interface.name (rows.map Interface.unkeyed) =
      (sortedBy Interface.name rows).map Interface.unkeyed :=
  (List.map_insertionSort _ _ Interface.unkeyed _ fun _ _ _ _ => Iff.rfl).symm

namespace Routes

theorem Peers.options_unkeyed : Peers.options (rows.map Interface.unkeyed) = Peers.options rows :=
  map_unkeyed rows _ fun _ => rfl

theorem Peers.row_unkeyed : Peers.peerRow (rows.map Interface.unkeyed) = Peers.peerRow rows := by
  funext peer
  unfold Peers.peerRow
  rw [find_unkeyed rows _ fun _ => rfl, Option.map_map]
  rfl

theorem Dashboard.row_unkeyed (latest : List PeerTrafficRow) :
    Dashboard.peerRow latest (rows.map Interface.unkeyed) = Dashboard.peerRow latest rows := by
  funext peer
  unfold Dashboard.peerRow
  rw [← List.map_reverse, find_unkeyed rows.reverse _ fun _ => rfl, Option.map_map]
  rfl

theorem Dashboard.view_unkeyed (crates : WebCrates) (latest : List PeerTrafficRow)
    (peers : List Peer) (series : List SeriesPoint) :
    Dashboard.trafficView crates latest peers (rows.map Interface.unkeyed) series =
      Dashboard.trafficView crates latest peers rows series := by
  unfold Dashboard.trafficView Dashboard.top
  rw [Dashboard.row_unkeyed, map_unkeyed rows _ fun _ => rfl]

theorem Interfaces.rows_unkeyed :
    Interfaces.rows (rows.map Interface.unkeyed) = Interfaces.rows rows := by
  induction rows with
  | nil => rfl
  | cons iface rest ih =>
      rw [List.map_cons, Interfaces.rows, Interfaces.rows, ih]
      rfl

end Routes

end Blind

/-! ## The calls -/

/-- Replies that are the same but for private keys of interfaces. -/
inductive SameReplyButKeys : (c c' : SiteCall) → c.Reply → c'.Reply → Prop
  | same {c : SiteCall} (reply : c.Reply) : SameReplyButKeys c c reply reply
  | found {id : Id InterfaceMarker} {reply reply' : Except String (Option Interface)}
      (h : reply.map (Option.map Interface.unkeyed) = reply'.map (Option.map Interface.unkeyed)) :
      SameReplyButKeys (.host (.findInterface id)) (.host (.findInterface id)) reply reply'
  | reread {id : Id InterfaceMarker} {reply reply' : Except String (Option Interface)}
      (h : reply.map (Option.map Interface.unkeyed) = reply'.map (Option.map Interface.unkeyed)) :
      SameReplyButKeys (.rereadInterface id) (.rereadInterface id) reply reply'
  | named {name : String} {reply reply' : Except String (Option Interface)}
      (h : reply.map (Option.map Interface.unkeyed) = reply'.map (Option.map Interface.unkeyed)) :
      SameReplyButKeys (.host (.findInterfaceByName name)) (.host (.findInterfaceByName name))
        reply reply'
  | listed {reply reply' : Except String (List Interface)}
      (h : reply.map (List.map Interface.unkeyed) = reply'.map (List.map Interface.unkeyed)) :
      SameReplyButKeys (.host .listInterfaces) (.host .listInterfaces) reply reply'

/-- The same calls, which change neither interfaces nor peers, and such replies. -/
def butKeys : Similarity SiteCall SiteCall.Reply where
  calls c c' := c = c' ∧ c.Permitted .none
  replies := SameReplyButKeys

/-- Whether it is found or not, an entry of a table is the same but for its private key. -/
theorem SameButKeys.find {s s' : Site} (h : SameButKeys s s') (id : Id InterfaceMarker) :
    (s.host.db.interfaces.find id).map Interface.unkeyed =
      (s'.host.db.interfaces.find id).map Interface.unkeyed := by
  have hfind : ∀ rows : List Interface, ((rows.map Interface.unkeyed).find? (·.id = id)) =
      (rows.find? (·.id = id)).map Interface.unkeyed := fun rows =>
    find_unkeyed rows _ fun _ => rfl
  exact (hfind _).symm.trans ((congrArg _ h.interfaces).trans (hfind _))

/-- A call to the host that reads has the same reply but for private keys. -/
theorem SameButKeys.host_reads {s s' : Site} (h : SameButKeys s s') {call : Sys}
    (hreads : call.Reads) (plan : Plan) :
    SameReplyButKeys (.host call) (.host call) (handle plan call s.host).1
      (handle plan call s'.host).1 := by
  obtain ⟨hinterfaces, hpeers, -, hhost, -⟩ := id h
  have hsame : (handle plan call s.host).1 = (handle plan call s'.host).1 →
      SameReplyButKeys (.host call) (.host call) (handle plan call s.host).1
        (handle plan call s'.host).1 := fun heq => heq ▸ .same _
  have hmap : ∀ {α β : Type} {f : α → β} (c : Sys) {value value' : α}, f value = f value' →
      (plan.outcome c value).map f = (plan.outcome c value').map f := by
    intro α β f c value value' heq
    unfold Plan.outcome
    cases plan.error c with
    | some text => rfl
    | none => exact congrArg Except.ok heq
  cases call with
  | findInterface id => exact .found (hmap _ (h.find id))
  | findInterfaceByName name =>
      refine .named (hmap _ ?_)
      have hfind : ∀ rows : List Interface, (rows.map Interface.unkeyed).find? (·.name = name) =
          (rows.find? (·.name = name)).map Interface.unkeyed := fun rows =>
        find_unkeyed rows _ fun _ => rfl
      exact (hfind _).symm.trans ((congrArg _ hinterfaces).trans (hfind _))
  | listInterfaces =>
      refine .listed (hmap _ ?_)
      exact (sorted_unkeyed _).symm.trans ((congrArg _ hinterfaces).trans (sorted_unkeyed _))
  | findPeer | listPeersOf | listPeers =>
      refine hsame ?_
      simp only [handle, Plan.read, Db.peersOf, hpeers]
  | uuidV7 | utcNow | generateKey | openApi | readDevice | readForward | listLinks =>
      refine hsame ?_
      rw [← hhost]
      rfl
  | _ => exact hreads.elim

/-- An interface that is read again is the same but for its private key. -/
theorem SameButKeys.rereads {s s' : Site} (h : SameButKeys s s') (outage : Outage)
    (id : Id InterfaceMarker) :
    SameReplyButKeys (.rereadInterface id) (.rereadInterface id)
      (serve outage (.rereadInterface id) s).1 (serve outage (.rereadInterface id) s').1 := by
  refine .reread ?_
  simp only [serve, Outage.read, Outage.outcome]
  cases outage.error (.rereadInterface id) with
  | some text => rfl
  | none => exact congrArg Except.ok (h.find id)

/-- A call that does not reach the host does not look at the interfaces, unless it reads one
again. -/
theorem serve_elsewhere (outage : Outage) {c : SiteCall} (hc : ∀ call, c ≠ .host call)
    (hreread : ∀ id, c ≠ .rereadInterface id) (s : Site) (w : World)
    (henv : w.env = s.host.env) (htraffic : w.db.traffic = s.host.db.traffic) :
    serve outage c (s.withHost w) =
      ((serve outage c s).1, (serve outage c s).2.withHost w) := by
  have hrun : ∀ {α : Type} (call : SiteCall) (effect : Site → Except String α × Site),
      effect (s.withHost w) = ((effect s).1, (effect s).2.withHost w) →
      outage.run call effect (s.withHost w) =
        ((outage.run call effect s).1, (outage.run call effect s).2.withHost w) := by
    intro α call effect heffect
    unfold Outage.run
    cases outage.error call with
    | some text => rfl
    | none => exact heffect
  have hwrite : ∀ (call : SiteCall) (change : Accounts → Except String Accounts),
      outage.write call change (s.withHost w) =
        ((outage.write call change s).1, (outage.write call change s).2.withHost w) := by
    intro call change
    refine hrun call _ ?_
    cases hchange : change s.accounts <;> simp only [Site.withHost, hchange]
  cases c with
  | host call => exact absurd rfl (hc call)
  | rereadInterface id => exact absurd rfl (hreread id)
  | insertUser | updateTotp | touchLastLogin | insertToken | upsertSetting | insertAudit =>
      simp only [serve]
      exact hwrite _ _
  | revokeToken | clearBan | insertSession | removeSession =>
      simp only [serve]
      exact hrun _ _ rfl
  | seriesTotals since =>
      simp only [serve]
      refine hrun _ _ ?_
      simp only [Site.withHost, htraffic]
  | latestPerPeer => simp only [serve, Outage.read, Site.withHost, htraffic]
  | recordFailure ip maxAttempts lockout =>
      simp only [serve, Site.withHost, henv]
      cases outage.error (.recordFailure ip maxAttempts lockout) with
      | some text => rfl
      | none =>
          simp only
          cases SqliteBanRepository.recordFailure s.bans ip maxAttempts lockout s.host.env.now <;>
            rfl
  | _ => rfl

/-- Calls that change neither interfaces nor peers tell nothing of private keys. -/
theorem respects_but_keys (outage : Outage) :
    Pool.Respects butKeys SameButKeys (serve outage) (serve outage) := by
  rintro c _ ⟨rfl, hpermitted⟩ s s' h
  have hstate : ∀ s : Site, (serve outage c s).2.host = s.host := fun s =>
    serve_host outage hpermitted rfl s
  by_cases hhost : ∃ call, c = .host call
  · obtain ⟨call, rfl⟩ := hhost
    rcases hpermitted with hreads | hmutate
    · have hsame : ∀ s : Site, (serve outage (.host call) s).2 = s := fun s => by
        show s.withHost (handle outage.host call s.host).2 = s
        rw [handle_reads outage.host hreads]
        rfl
      rw [hsame, hsame]
      exact ⟨h.host_reads hreads outage.host, h⟩
    · cases hmutate
  by_cases hreread : ∃ id, c = .rereadInterface id
  · obtain ⟨id, rfl⟩ := hreread
    exact ⟨h.rereads outage id, h⟩
  · obtain ⟨hinterfaces, hpeers, htraffic, hworld, hsite⟩ := h
    have hserve := serve_elsewhere outage (not_exists.mp hhost) (not_exists.mp hreread) s s'.host
      (hworld ▸ rfl) htraffic.symm
    rw [hsite] at hserve
    show SameReplyButKeys c c (serve outage c s).1 (serve outage c s').1 ∧ _
    rw [hserve]
    refine ⟨.same _, ?_, ?_, ?_, ?_, rfl⟩
    · exact hstate s ▸ hinterfaces
    · exact hstate s ▸ hpeers
    · exact hstate s ▸ htraffic
    · exact hstate s ▸ hworld

/-! ## Discreet programs -/

/-- The calls that read no rows of interfaces and change neither interfaces nor peers. -/
def SiteCall.KeyFree : SiteCall → Prop
  | host (.findInterface _) | host (.findInterfaceByName _) | host .listInterfaces
  | rereadInterface _ => False
  | c => c.Permitted .none

theorem SiteCall.KeyFree.permitted {c : SiteCall} (h : c.KeyFree) : c.Permitted .none := by
  cases c with
  | host call => cases call <;> first | exact h | exact h.elim
  | rereadInterface id => exact h.elim
  | _ => exact h

section Programs

variable {α β ε ε' : Type}

/-- The program returns the same whatever the private keys of interfaces. -/
structure Discreet (program : Fallible SiteCall SiteCall.Reply ε α) : Prop where
  similar : Similar butKeys (SameOutcome Eq) program.run program.run

namespace Discreet

variable {program : Fallible SiteCall SiteCall.Reply ε α}

/-- On sites that differ in private keys only, a discreet program returns the same. -/
theorem outcome (h : Discreet program) (outage : Outage) {s s' : Site}
    (hsame : SameButKeys s s') :
    (eval (serve outage) program s).1 = (eval (serve outage) program s').1 ∧
      SameButKeys (eval (serve outage) program s).2 (eval (serve outage) program s').2 := by
  obtain ⟨hvalue, hstate⟩ := (respects_but_keys outage).exec h.similar hsame
  exact ⟨hvalue.eq, hstate⟩

/-- A program that reads no rows of interfaces. -/
theorem quiet (h : Issues SiteCall.KeyFree program.run) : Discreet program := by
  have hsame : Similar butKeys Eq program.run program.run := by
    refine Similar.of_issues (h.mono fun c hc =>
      ⟨⟨rfl, hc.permitted⟩, fun reply reply' hreply => ?_⟩)
    cases hreply with
    | same => rfl
    | found | reread | named | listed => exact hc.elim
  exact ⟨hsame.mono fun _ _ heq => heq ▸ .refl _⟩

theorem pure (value : α) : Discreet (Pure.pure value : Fallible SiteCall SiteCall.Reply ε α) :=
  quiet trivial

theorem throw (e : ε) : Discreet (MonadExcept.throw e : Fallible SiteCall SiteCall.Reply ε α) :=
  quiet trivial

theorem bind {next : α → Fallible SiteCall SiteCall.Reply ε β} (h : Discreet program)
    (hnext : ∀ value, Discreet (next value)) : Discreet (program >>= next) :=
  ⟨Similar.run_bind h.similar fun value _ heq => heq ▸ (hnext value).similar⟩

theorem ite {c : Prop} [Decidable c] {other : Fallible SiteCall SiteCall.Reply ε α}
    (h : Discreet program) (hother : Discreet other) :
    Discreet (if c then program else other) :=
  ⟨Similar.run_ite h.similar hother.similar⟩

theorem attempt (h : Discreet program) :
    Discreet (Effect.attempt program : Fallible SiteCall SiteCall.Reply ε' (Except ε α)) :=
  ⟨(Similar.run_attempt h.similar).mono fun _ _ hresult => by
    cases hresult with
    | ok hvalue => exact .ok hvalue.eq
    | error e => exact .error e⟩

theorem always {c : SiteCall} (h : c.KeyFree) :
    Discreet (Effect.always c.request : Fallible SiteCall SiteCall.Reply ε c.Reply) :=
  quiet (Issues.run_always (Issues.request h))

/-- A statement whose error is renamed. -/
theorem request {rename : ε' → ε} {calls : Program SiteCall SiteCall.Reply (Except ε' α)}
    (h : Issues SiteCall.KeyFree calls) : Discreet (orElse rename calls) :=
  quiet (Issues.run_or_else h)

theorem or_else {program : Repo α} {rename : CoreError → ε} (h : Discreet program) :
    Discreet (orElse rename program.run) :=
  ⟨Similar.run_or_else h.similar⟩

end Discreet

/-! ## Reading interfaces -/

/-- Replies that are equal without private keys are the same outcome without them. -/
theorem same_outcome_unkeyed {f : α → β} {reply reply' : Except String α}
    (h : reply.map f = reply'.map f) :
    SameOutcome (fun value value' => f value = f value') ((reply.mapError mapErr).mapError id)
      ((reply'.mapError mapErr).mapError id) := by
  cases reply with
  | error text =>
      cases reply' with
      | error text' =>
          obtain rfl : text = text' := Except.error.inj h
          exact .error _
      | ok value' => cases h
  | ok value =>
      cases reply' with
      | error text' => cases h
      | ok value' => exact .ok (Except.ok.inj h)

/-- Programs that go on with values which are equal without private keys do the same if they do
not look at these. -/
theorem Discreet.read_bind {f : α → α} {program : Repo α} {rename : CoreError → ε}
    {next : α → Fallible SiteCall SiteCall.Reply ε β}
    (h : Similar butKeys (SameOutcome fun value value' => f value = f value') program.run
      program.run)
    (hblind : ∀ value, next (f value) = next value) (hnext : ∀ value, Discreet (next value)) :
    Discreet (orElse rename program.run >>= next) := by
  refine ⟨Similar.run_bind (Similar.run_or_else h) fun value value' hvalue => ?_⟩
  have heq : next value = next value' := by rw [← hblind value, ← hblind value', hvalue]
  rw [← heq]
  exact (hnext value).similar

/-- What follows a listing of the interfaces must not look at the private keys. -/
theorem Discreet.list_bind {rename : CoreError → ε}
    {next : List Interface → Fallible SiteCall SiteCall.Reply ε β}
    (hblind : ∀ rows, next (rows.map Interface.unkeyed) = next rows)
    (hnext : ∀ rows, Discreet (next rows)) :
    Discreet (orElse rename (Web.host SqliteInterfaceRepository.list).run >>= next) := by
  refine .read_bind (.call ⟨rfl, .inl trivial⟩ fun reply reply' hreply => .done ?_) hblind hnext
  cases hreply with
  | same => exact same_outcome_unkeyed rfl
  | listed h => exact same_outcome_unkeyed h

/-- What follows a look-up of an interface must not look at its private key. -/
theorem Discreet.find_bind {rename : CoreError → ε} {id : Id InterfaceMarker}
    {next : Option Interface → Fallible SiteCall SiteCall.Reply ε β}
    (hblind : ∀ found, next (found.map Interface.unkeyed) = next found)
    (hnext : ∀ found, Discreet (next found)) :
    Discreet (orElse rename (Web.host (SqliteInterfaceRepository.findById id)).run >>= next) := by
  refine .read_bind (.call ⟨rfl, .inl trivial⟩ fun reply reply' hreply => .done ?_) hblind hnext
  cases hreply with
  | same => exact same_outcome_unkeyed rfl
  | found h => exact same_outcome_unkeyed h

/-! ## Building blocks -/

/-- An operation of a service that reads no rows of interfaces. -/
theorem Web.host_discreet {program : App α}
    (h : Issues (fun call => (SiteCall.host call).KeyFree) program.run) :
    Discreet (Web.host program) :=
  .quiet (Issues.map (Issues.embed h fun _ hc => hc))

theorem Web.of_except_discreet (result : Except WebError α) : Discreet (Web.ofExcept result) := by
  cases result <;> exact .quiet trivial

theorem Api.of_except_discreet (result : Except ApiError α) : Discreet (Api.ofExcept result) := by
  cases result <;> exact .quiet trivial

theorem Web.or_fail_discreet (e : WebError) (value : Option α) :
    Discreet (Web.orFail e value) :=
  .quiet (Web.or_fail_issues e value)

theorem Api.or_fail_discreet (e : ApiError) (value : Option α) :
    Discreet (Api.orFail e value) := by
  cases value <;> exact .quiet trivial

theorem Web.parse_id_discreet {marker : Type} (crates : WebCrates) (path : String) :
    Discreet (Web.parseId crates path : Web (Id marker)) :=
  (Web.or_fail_discreet _ _).bind fun _ => .pure _

theorem Web.links_discreet : Discreet (Web.listOrEmpty GetifaddrsAdapter.list) :=
  (Web.host_discreet (Issues.run_or_else (Issues.request (.inl trivial)))).attempt.bind
    fun _ => .pure _

theorem Web.now_discreet : Discreet (Web.repo siteNow) :=
  .or_else (.quiet (site_now_issues (.inl trivial)))

theorem Web.peers_discreet {rename : CoreError → ε} :
    Discreet (orElse rename (Web.host SqlitePeerRepository.listAll).run) :=
  .or_else (Web.host_discreet (Issues.run_or_else (Issues.request (.inl trivial))))

theorem Web.peer_discreet {rename : CoreError → ε} (id : Id PeerMarker) :
    Discreet (orElse rename (Web.host (SqlitePeerRepository.findById id)).run) :=
  .or_else (Web.host_discreet (Issues.run_or_else (Issues.request (.inl trivial))))

section Session

variable (session : SessionId)

theorem Web.session_insert_discreet (key : SessionKey) (value : key.Value) :
    Discreet (Web.sessionInsert session key value) :=
  .quiet (Issues.run_ignore (Issues.run_or_else (Issues.request trivial)))

theorem Web.take_flash_discreet : Discreet (Web.takeFlash session) :=
  Discreet.bind (.quiet (Web.session_get_issues trivial)) fun _ =>
    .ite (Discreet.bind (.quiet (Issues.run_ignore (Issues.run_or_else
      (Issues.request trivial)))) fun _ => .pure _) (.pure _)

theorem AuthUser.from_parts_discreet : Discreet (AuthUser.fromRequestParts session) :=
  Discreet.bind (.request (Issues.request trivial)) fun _ => Web.or_fail_discreet _ _

end Session

theorem ApiAuthUser.from_parts_discreet {crates : WebCrates} (credentials : Credentials) :
    Discreet (ApiAuthUser.fromRequestParts crates credentials) := by
  unfold fromRequestParts
  cases credentials.bearer with
  | none =>
      exact ⟨Similar.run_or_else (AuthUser.from_parts_discreet credentials.session).similar⟩
  | some bearer =>
      refine Discreet.bind (.or_else (.request (Issues.request trivial))) fun found => ?_
      refine (Api.or_fail_discreet _ found).bind fun token => ?_
      refine Discreet.bind (.always (c := .host .utcNow) (.inl trivial)) fun now => ?_
      refine (Api.or_fail_discreet _ _).bind fun token => ?_
      refine Discreet.bind (.or_else (.request (Issues.request trivial))) fun owner => ?_
      exact (Api.or_fail_discreet _ owner).bind fun _ => .pure _

end Programs

/-! ## Handlers -/

section Handlers

variable {crates : WebCrates} {session : SessionId} {user : AuthUser}

namespace Routes.Dashboard

theorem build_discreet : Discreet (buildTrafficSnapshot crates) := by
  refine Discreet.bind (.or_else (.request (Issues.request trivial))) fun latest => ?_
  refine Web.peers_discreet.bind fun peers => ?_
  refine Discreet.list_bind (fun rows => by simp only [view_unkeyed]) fun rows => ?_
  refine Web.now_discreet.bind fun now => ?_
  cases now.add dayBefore with
  | error panic => exact .throw _
  | ok since =>
      exact Discreet.bind (.or_else (.request (Issues.request trivial))) fun _ => .pure _

theorem index_discreet : Discreet (index crates session user) := by
  refine Discreet.list_bind (fun rows => ?_) fun rows => ?_
  · have hup := count_unkeyed rows (fun iface => iface.status = .up) fun _ => rfl
    simp only [List.length_map, hup]
  · exact Web.peers_discreet.bind fun _ => Web.links_discreet.bind fun _ =>
      build_discreet.bind fun _ => (Web.take_flash_discreet session).bind fun _ => .pure _

theorem tick_discreet : Discreet (tick crates) := by
  refine build_discreet.attempt.bind fun result => ?_
  cases result with
  | ok traffic => exact .pure _
  | error stop =>
      cases stop with
      | error e => exact .pure _
      | panic panic => exact .throw _

theorem ticks_discreet (n : Nat) : Discreet (ticks crates n) := by
  induction n with
  | zero => exact .pure _
  | succ n ih => exact tick_discreet.bind fun _ => ih.bind fun _ => .pure _

end Routes.Dashboard

namespace Routes.Interfaces

theorem rows_discreet (interfaces : List Interface) : Discreet (rows interfaces) := by
  induction interfaces with
  | nil => exact .pure _
  | cons iface rest ih =>
      refine Discreet.bind (.or_else (Web.host_discreet (Issues.run_or_else
        (Issues.request (.inl trivial))))) fun _ => ?_
      exact ih.bind fun _ => .pure _

theorem list_discreet : Discreet (list session user) :=
  .list_bind (fun rows => by simp only [rows_unkeyed]) fun rows =>
    (rows_discreet rows).bind fun _ => (Web.take_flash_discreet session).bind fun _ => .pure _

theorem gateways_discreet : Discreet gateways :=
  Web.links_discreet.bind fun _ => .pure _

theorem new_page_discreet : Discreet (newPage crates session user) := by
  refine (Web.take_flash_discreet session).bind fun flash => ?_
  refine (Web.host_discreet ?_).attempt.bind fun keys =>
    gateways_discreet.bind fun _ => .pure _
  refine Issues.run_bind ?_ fun _ => Issues.run_pure _
  exact Issues.run_bind (Issues.run_always (Issues.request (.inl trivial))) fun _ =>
    Issues.run_bind (of_except_issues _) fun _ =>
      Issues.run_bind (of_except_issues _) fun _ => Issues.run_pure _

end Routes.Interfaces

namespace Routes.Peers

theorem list_discreet : Discreet (list session user) :=
  .list_bind (fun rows => by simp only [row_unkeyed, List.isEmpty_map]) fun _ =>
    Web.peers_discreet.bind fun _ => (Web.take_flash_discreet session).bind fun _ => .pure _

theorem new_page_discreet : Discreet (newPage session user) := by
  refine Discreet.list_bind (fun rows => ?_) fun rows => ?_
  · cases rows with
    | nil => rfl
    | cons first rest =>
        have hoptions := options_unkeyed (first :: rest)
        simp only [List.map_cons] at hoptions ⊢
        rw [hoptions]
        rfl
  · cases rows with
    | nil => exact .pure _
    | cons first rest => exact (Web.take_flash_discreet session).bind fun _ => .pure _

theorem find_peer_discreet (id : Id PeerMarker) : Discreet (findPeer id) :=
  (Web.peer_discreet id).bind fun _ => Web.or_fail_discreet _ _

theorem edit_page_discreet (path : String) : Discreet (editPage crates session user path) :=
  (Web.parse_id_discreet crates path).bind fun id => (find_peer_discreet id).bind fun _ =>
    .list_bind (fun rows => by simp only [options_unkeyed]) fun _ =>
      (Web.take_flash_discreet session).bind fun _ => .pure _

theorem peer_conf_discreet (peer : Peer) : Discreet (peerConf crates peer) := by
  refine Discreet.find_bind (fun found => ?_) fun found => ?_
  · cases found <;> rfl
  · exact (Web.or_fail_discreet _ found).bind fun _ =>
      Discreet.bind (Discreet.bind (.always (c := .readSettings) trivial) fun _ => .pure _)
        fun _ => Web.of_except_discreet _

theorem download_discreet (path : String) : Discreet (download crates path) :=
  (Web.parse_id_discreet crates path).bind fun id => (find_peer_discreet id).bind fun peer =>
    (peer_conf_discreet peer).bind fun _ => .pure _

theorem qr_discreet (path : String) : Discreet (qr crates path) :=
  (Web.parse_id_discreet crates path).bind fun id => (find_peer_discreet id).bind fun peer =>
    (peer_conf_discreet peer).bind fun _ => (Web.of_except_discreet _).bind fun _ => .pure _

end Routes.Peers

namespace Routes

variable {config : WebConfig}

theorem Profile.index_discreet : Discreet (Profile.index session user) :=
  Discreet.bind (.or_else (.request (Issues.request trivial))) fun _ =>
    (Web.or_fail_discreet _ _).bind fun _ =>
      (Web.take_flash_discreet session).bind fun _ => .pure _

theorem Profile.totp_setup_page_discreet :
    Discreet (Profile.totpSetupPage crates session user) :=
  Discreet.bind (.always (c := .readSettings) trivial) fun _ =>
    Discreet.bind (.always (c := .drawTotpSecret) trivial) fun _ =>
      (Web.of_except_discreet _).bind fun _ =>
        (Web.session_insert_discreet session .totpSetup _).bind fun _ =>
          (Web.of_except_discreet _).bind fun _ =>
            (Web.take_flash_discreet session).bind fun _ => .pure _

theorem Settings.index_discreet : Discreet (Settings.index config session user) :=
  .ite (.throw _) (Discreet.bind (.always (c := .readSettings) trivial) fun _ =>
    (Web.take_flash_discreet session).bind fun _ => .pure _)

theorem System.index_discreet : Discreet (System.index session user) :=
  Web.links_discreet.bind fun _ => (Web.take_flash_discreet session).bind fun _ => .pure _

theorem System.ticks_discreet (n : Nat) : Discreet (System.ticks n) := by
  induction n with
  | zero => exact .pure _
  | succ n ih => exact Web.links_discreet.bind fun _ => ih.bind fun _ => .pure _

theorem Audit.list_discreet : Discreet (Audit.list crates session user) :=
  .ite (.throw _) (Discreet.bind (.or_else (.request (Issues.request trivial))) fun _ =>
    (Web.take_flash_discreet session).bind fun _ => .pure _)

theorem Ws.ticks_discreet (n : Nat) : Discreet (Ws.ticks crates n) := by
  induction n with
  | zero => exact .pure _
  | succ n ih => exact Web.now_discreet.bind fun _ => ih.bind fun _ => .pure _

end Routes

namespace Api

theorem Interfaces.list_discreet : Discreet (Interfaces.list crates) :=
  .list_bind (fun rows => by rw [map_unkeyed rows _ fun _ => rfl]) fun _ => .pure _

theorem Interfaces.get_one_discreet (path : String) : Discreet (Interfaces.getOne crates path) := by
  refine (of_except_discreet _).bind fun id => ?_
  refine Discreet.find_bind (fun found => ?_) fun found => ?_
  · cases found <;> rfl
  · exact (or_fail_discreet _ found).bind fun _ => .pure _

theorem Peers.list_discreet : Discreet (Peers.list crates) :=
  Web.peers_discreet.bind fun _ => .pure _

theorem Peers.get_one_discreet (path : String) : Discreet (Peers.getOne crates path) :=
  (of_except_discreet _).bind fun id => (Web.peer_discreet id).bind fun _ =>
    (or_fail_discreet _ _).bind fun _ => .pure _

theorem Peers.peer_conf_discreet (path : String) : Discreet (Peers.peerConf crates path) := by
  refine (of_except_discreet _).bind fun id => ?_
  refine (Web.peer_discreet id).bind fun found => ?_
  refine (or_fail_discreet _ found).bind fun peer => ?_
  refine Discreet.find_bind (fun found => ?_) fun found => ?_
  · cases found <;> rfl
  · exact (or_fail_discreet _ found).bind fun _ =>
      Discreet.bind (.always (c := .readSettings) trivial) fun _ => of_except_discreet _

theorem Peers.config_discreet (path : String) : Discreet (Peers.config crates path) :=
  (peer_conf_discreet path).bind fun _ => .pure _

theorem Peers.qr_discreet (path : String) : Discreet (Peers.qr crates path) :=
  (peer_conf_discreet path).bind fun _ => (of_except_discreet _).bind fun _ => .pure _

theorem Tokens.list_discreet : Discreet (Tokens.list crates user) :=
  Discreet.bind (.or_else (.request (Issues.request trivial))) fun _ => .pure _

end Api

end Handlers

/-! ## Requests that only read -/

/-- The pages for logged-in users that are fetched with `GET`. -/
def WebRoute.Get : WebRoute → Prop
  | dashboard | trafficStream _ | interfaces | newInterface | interfacePage _ | system
  | systemStream _ | peers | newPeer | peerPage _ | downloadPeer _ | peerQr _ | profile
  | totpSetup | audit | settings | events _ => True
  | _ => False

/-- The requests that are made with `GET`. -/
def Request.Get : Request → Prop
  | visit _ _ .healthz | visit _ _ .readyz | visit _ _ .metrics | visit _ _ .loginPage
  | visit _ _ .setupPage | health => True
  | web _ route => route.Get
  | api _ .interfaces | api _ (.interface _) | api _ .peers | api _ (.peer _)
  | api _ (.peerConfig _) | api _ (.peerQr _) | api _ .tokens => True
  | _ => False

section Requests

variable {crates : WebCrates} {session : SessionId} {user : AuthUser}

/-- All pages but that of an interface are discreet. -/
theorem WebRoute.handler_discreet (config : WebConfig) {route : WebRoute} (hget : route.Get)
    (hother : ∀ path, route ≠ .interfacePage path) :
    Discreet (route.handler crates config session user) := by
  cases route with
  | dashboard => exact Routes.Dashboard.index_discreet
  | trafficStream ticks => exact (Routes.Dashboard.ticks_discreet ticks).bind fun _ => .pure _
  | interfaces => exact Routes.Interfaces.list_discreet
  | newInterface => exact Routes.Interfaces.new_page_discreet
  | interfacePage path => exact absurd rfl (hother path)
  | system => exact Routes.System.index_discreet
  | systemStream ticks => exact (Routes.System.ticks_discreet ticks).bind fun _ => .pure _
  | peers => exact Routes.Peers.list_discreet
  | newPeer => exact Routes.Peers.new_page_discreet
  | peerPage path => exact Routes.Peers.edit_page_discreet path
  | downloadPeer path => exact Routes.Peers.download_discreet path
  | peerQr path => exact Routes.Peers.qr_discreet path
  | profile => exact Routes.Profile.index_discreet
  | totpSetup => exact Routes.Profile.totp_setup_page_discreet
  | audit => exact Routes.Audit.list_discreet
  | settings => exact Routes.Settings.index_discreet
  | events ticks => exact (Routes.Ws.ticks_discreet ticks).bind fun _ => .pure _
  | _ => exact hget.elim

/-- All REST requests that only read are discreet. -/
theorem ApiRoute.handler_discreet {credentials : Credentials} {route : ApiRoute}
    (hget : (Request.api credentials route).Get) : Discreet (route.handler crates user) := by
  cases route with
  | interfaces => exact Api.Interfaces.list_discreet
  | interface path => exact Api.Interfaces.get_one_discreet path
  | peers => exact Api.Peers.list_discreet
  | peer path => exact Api.Peers.get_one_discreet path
  | peerConfig path => exact Api.Peers.config_discreet path
  | peerQr path => exact Api.Peers.qr_discreet path
  | tokens => exact Api.Tokens.list_discreet
  | _ => exact hget.elim

/-! ## The page of an interface -/

namespace Routes.Interfaces

variable {outage : Outage} {s s' : Site}

/-- What the page does once it has the row. -/
def shownPage (crates : WebCrates) (session : SessionId) (user : AuthUser) (iface : Interface) :
    Web Response := do
  let flash ← Web.takeFlash session
  let gateways ← gateways
  return .html 200 (.editInterface user flash none iface.id.display iface.name iface.status.asStr
    (editState crates iface) gateways (generatedRulesFor iface))

theorem shown_page_discreet (iface : Interface) :
    Discreet (shownPage crates session user iface) :=
  (Web.take_flash_discreet session).bind fun _ => gateways_discreet.bind fun _ => .pure _

/-- Rows that show the same private key, and are the same otherwise, have one page. -/
theorem shown_page_congr {iface iface' : Interface} (hrow : iface.unkeyed = iface'.unkeyed)
    (hkey : crates.unsealText iface.privateKeySealed = crates.unsealText iface'.privateKeySealed) :
    shownPage crates session user iface = shownPage crates session user iface' := by
  have hrestore : ∀ row : Interface,
      row = { row.unkeyed with privateKeySealed := row.privateKeySealed } := fun _ => rfl
  have hstate : editState crates iface = editState crates iface' := by
    rw [hrestore iface, hrestore iface', hrow]
    exact congrArg (fun key => { editState crates iface' with privateKey := key }) hkey
  have hpart : ∀ {α : Type} (f : Interface → α), (∀ row, f row.unkeyed = f row) →
      f iface = f iface' := fun f hf => by rw [← hf iface, ← hf iface', hrow]
  have hid := hpart Interface.id fun _ => rfl
  have hname := hpart Interface.name fun _ => rfl
  have hstatus := hpart Interface.status fun _ => rfl
  have hrules := hpart generatedRulesFor fun _ => rfl
  unfold shownPage
  rw [hstate, hid, hname, hstatus, hrules]

/-- The page shows the private key that the sealed text reads as. -/
theorem shown_page_key (iface : Interface) (s : Site) :
    ∃ (flash : Option Flash) (gateways : List GatewayOption),
      (eval (serve outage) (shownPage crates session user iface) s).1 =
        .ok (.html 200 (.editInterface user flash none iface.id.display iface.name
          iface.status.asStr (editState crates iface) gateways (generatedRulesFor iface))) := by
  have hflash : ∀ s, ∃ flash s',
      eval (serve outage) (Web.takeFlash session) s = (.ok flash, s') := by
    intro s
    unfold Web.takeFlash Web.sessionGet
    simp only [eval_bind, eval_always, eval_pure]
    split
    · exact ⟨_, _, rfl⟩
    · exact ⟨_, _, rfl⟩
  have hgateways : ∀ s, ∃ rows s', eval (serve outage) gateways s = (.ok rows, s') := by
    intro s
    unfold gateways Web.listOrEmpty
    simp only [eval_bind, eval_attempt, eval_pure]
    exact ⟨_, _, rfl⟩
  obtain ⟨flash, s1, h1⟩ := hflash s
  obtain ⟨rows, s2, h2⟩ := hgateways s1
  refine ⟨flash, rows, ?_⟩
  unfold shownPage
  simp only [eval_bind, h1, h2, eval_pure]

/-- On sites that differ in private keys only, the look-up of an interface finds rows that do so, or
fails in the same way. -/
theorem find_interface_cases (h : SameButKeys s s') (id : Id InterfaceMarker) :
    (∃ iface iface', outage.host.readInterface s.host.db id = some iface ∧
      outage.host.readInterface s'.host.db id = some iface' ∧ iface.unkeyed = iface'.unkeyed ∧
      eval (serve outage) (findInterface id) s = (.ok iface, s) ∧
      eval (serve outage) (findInterface id) s' = (.ok iface', s')) ∨
    (outage.host.readInterface s.host.db id = none ∧
      ∃ e, eval (serve outage) (findInterface id) s = (.error e, s) ∧
        eval (serve outage) (findInterface id) s' = (.error e, s')) := by
  have hread : ∀ s : Site, eval (serve outage) (Web.service (SqliteInterfaceRepository.findById id))
      s = (((outage.host.outcome (.findInterface id) (s.host.db.interfaces.find id)).mapError
        mapErr).mapError fun e => Stop.error (.core e), s) := by
    intro s
    have hhost : eval (serve outage) (Web.host (SqliteInterfaceRepository.findById id)) s =
        ((outage.host.outcome (.findInterface id) (s.host.db.interfaces.find id)).mapError mapErr,
          s) := by
      rw [Web.host, eval_embed (site_embedding_acts outage),
        SqliteInterfaceRepository.eval_find_by_id]
      cases outage.host.outcome (.findInterface id) (s.host.db.interfaces.find id) <;> rfl
    have hrepo : ∀ program : Repo (Option Interface), eval (serve outage) (Web.repo program) s =
        ((eval (serve outage) program s).1.mapError fun e => Stop.error (.core e),
          (eval (serve outage) program s).2) := fun program => eval_or_else _ _ _
    rw [Web.service, hrepo, hhost]
  have hfind := h.find id
  unfold findInterface Plan.readInterface
  simp only [eval_bind, hread, Plan.outcome]
  cases herror : outage.host.error (.findInterface id) with
  | some text => exact .inr ⟨rfl, _, rfl, rfl⟩
  | none =>
      cases hs : s.host.db.interfaces.find id with
      | none =>
          rw [hs, Option.map_none, eq_comm, Option.map_eq_none_iff] at hfind
          rw [hfind]
          exact .inr ⟨rfl, _, rfl, rfl⟩
      | some iface =>
          rw [hs, Option.map_some, eq_comm, Option.map_eq_some_iff] at hfind
          obtain ⟨iface', hs', hrow⟩ := hfind
          rw [hs']
          exact .inl ⟨iface, iface', rfl, rfl, hrow.symm, rfl, rfl⟩

end Routes.Interfaces

/-- The request fetches the page of an interface whose private key reads differently on the two
sites. -/
def Served.Reveals (server : Server) (a : Served) (s s' : Site) : Prop :=
  ∃ session path id iface iface', a.request = .web session (.interfacePage path) ∧
    server.crates.parseUuid path = some id ∧
    a.moment.outage.host.readInterface s.host.db ⟨id⟩ = some iface ∧
    a.moment.outage.host.readInterface s'.host.db ⟨id⟩ = some iface' ∧
    server.crates.unsealText iface.privateKeySealed ≠
      server.crates.unsealText iface'.privateKeySealed

/-- The page of an interface is the same exactly when it shows the same private key. -/
theorem edit_page_same_iff {outage : Outage} {s s' : Site} (h : SameButKeys s s')
    (path : String) :
    (eval (serve outage) (Routes.Interfaces.editPage crates session user path) s).1 =
        (eval (serve outage) (Routes.Interfaces.editPage crates session user path) s').1 ↔
      ¬ ∃ id iface iface', crates.parseUuid path = some id ∧
        outage.host.readInterface s.host.db ⟨id⟩ = some iface ∧
        outage.host.readInterface s'.host.db ⟨id⟩ = some iface' ∧
        crates.unsealText iface.privateKeySealed ≠ crates.unsealText iface'.privateKeySealed := by
  have hpage : Routes.Interfaces.editPage crates session user path =
      Web.parseId crates path >>= fun id => Routes.Interfaces.findInterface id >>=
        Routes.Interfaces.shownPage crates session user := rfl
  rw [hpage]
  cases hid : crates.parseUuid path with
  | none =>
      have hparse : (Web.parseId crates path : Web (Id InterfaceMarker)) = Web.fail .notFound := by
        unfold Web.parseId
        rw [hid]
        rfl
      rw [hparse]
      simp only [Web.fail, eval_bind, eval_throw]
      refine iff_of_true trivial fun hrows => ?_
      obtain ⟨_, _, _, hsome, -⟩ := hrows
      cases hsome
  | some id =>
      have hparse : (Web.parseId crates path : Web (Id InterfaceMarker)) = pure ⟨id⟩ := by
        unfold Web.parseId
        rw [hid]
        rfl
      rw [hparse]
      simp only [eval_bind, eval_pure]
      rcases Routes.Interfaces.find_interface_cases h ⟨id⟩ with
        ⟨iface, iface', hread, hread', hrow, hfind, hfind'⟩ | ⟨hnone, e, hfind, hfind'⟩
      · rw [hfind, hfind']
        simp only
        constructor
        · intro heq
          rintro ⟨_, row, row', ⟨⟩, hrow1, hrow2, hkeys⟩
          obtain rfl := Option.some.inj (hread.symm.trans hrow1)
          obtain rfl := Option.some.inj (hread'.symm.trans hrow2)
          obtain ⟨flash, rows, hshown⟩ := Routes.Interfaces.shown_page_key iface s
          obtain ⟨flash', rows', hshown'⟩ := Routes.Interfaces.shown_page_key iface' s'
          rw [hshown, hshown'] at heq
          injection heq with heq
          injection heq with _ heq
          injection heq with _ _ _ _ _ _ hstate
          exact hkeys (congrArg InterfaceFormState.privateKey hstate)
        · intro hsame
          have hkey : crates.unsealText iface.privateKeySealed =
              crates.unsealText iface'.privateKeySealed := by
            by_contra hkeys
            exact hsame ⟨id, iface, iface', rfl, hread, hread', hkeys⟩
          simp only [Routes.Interfaces.shown_page_congr hrow hkey]
          exact ((Routes.Interfaces.shown_page_discreet iface').outcome outage h).1
      · rw [hfind, hfind']
        refine iff_of_true rfl ?_
        rintro ⟨_, row, row', ⟨⟩, hrow1, -⟩
        rw [hnone] at hrow1
        cases hrow1

/-- The answers to a request that only reads are the same exactly when it does not show a private
key that differs, whoever asks. -/
theorem keys_hidden_iff (server : Server) (s s' : Site) (a : Served) (user : AuthUser)
    (hsame : SameButKeys s s') (hget : a.request.Get) (hcaller : a.caller server s = some user) :
    (a.outcome server s).1 = (a.outcome server s').1 ↔ ¬ a.Reveals server s s' := by
  rcases a with ⟨request, moment⟩
  have hseen : SameButKeys (s.seen moment) (s'.seen moment) :=
    ⟨hsame.interfaces, hsame.peers, hsame.traffic,
      congrArg (fun w => { w with env := moment.env }) hsame.host,
      congrArg (fun s => s.seen moment) hsame.site⟩
  unfold Served.outcome Request.program
  cases request with
  | visit session clientIp route => cases hcaller
  | health => cases hcaller
  | web session route =>
      rw [exec_map, exec_map]
      by_cases hpage : ∃ path, route = .interfacePage path
      · obtain ⟨path, rfl⟩ := hpage
        -- the caller is the same on both sites, and is found without a change
        have hquiet : Permitted .none (AuthUser.fromRequestParts session) :=
          AuthUser.from_parts_permitted session
        have hfound := (AuthUser.from_parts_discreet session).outcome moment.outage hseen
        have hhost := hquiet.host rfl moment.outage (s.seen moment)
        have hhost' := hquiet.host rfl moment.outage (s'.seen moment)
        have hprogram : ∀ s, ((webProgram server.crates server.config session
            (.interfacePage path)).run.exec (serve moment.outage) s) =
              eval (serve moment.outage) (AuthUser.fromRequestParts session >>= fun user =>
                Routes.Interfaces.editPage server.crates session user path) s := fun _ => rfl
        have hoption : (eval (serve moment.outage) (AuthUser.fromRequestParts session)
            (s.seen moment)).1.toOption = some user := hcaller
        cases heval : eval (serve moment.outage) (AuthUser.fromRequestParts session)
            (s.seen moment) with
        | mk result s1 =>
        cases heval' : eval (serve moment.outage) (AuthUser.fromRequestParts session)
            (s'.seen moment) with
        | mk result' s1' =>
        rw [heval] at hfound hhost hoption
        rw [heval'] at hfound hhost'
        obtain ⟨rfl, hstates⟩ := hfound
        cases result with
        | error e => cases hoption
        | ok found =>
            obtain rfl := Option.some.inj hoption
            rw [hprogram, hprogram, eval_bind, eval_bind, heval, heval']
            have hanswer : ∀ {r r'}, Answer.web r = Answer.web r' ↔ r = r' :=
              ⟨Answer.web.inj, congrArg _⟩
            refine hanswer.trans ((edit_page_same_iff hstates path).trans (not_congr ?_))
            rw [hhost, hhost']
            constructor
            · rintro ⟨id, iface, iface', hid, hread, hread', hkeys⟩
              exact ⟨session, path, id, iface, iface', rfl, hid, hread, hread', hkeys⟩
            · rintro ⟨_, _, id, iface, iface', ⟨⟩, hid, hread, hread', hkeys⟩
              exact ⟨id, iface, iface', hid, hread, hread', hkeys⟩
      · have hother : ∀ path, route ≠ .interfacePage path := not_exists.mp hpage
        have hdiscreet : Discreet (webProgram server.crates server.config session route) :=
          (AuthUser.from_parts_discreet session).bind fun _ =>
            WebRoute.handler_discreet server.config hget hother
        refine iff_of_true (congrArg Answer.web (hdiscreet.outcome moment.outage hseen).1) ?_
        rintro ⟨_, path, _, _, _, hrequest, -⟩
        cases hrequest
        exact hother path rfl
  | api credentials route =>
      rw [exec_map, exec_map]
      have hdiscreet : Discreet (apiProgram server.crates credentials route) :=
        (ApiAuthUser.from_parts_discreet credentials).bind fun _ =>
          ApiRoute.handler_discreet hget
      refine iff_of_true (congrArg Answer.api (hdiscreet.outcome moment.outage hseen).1) ?_
      rintro ⟨session, path, id, iface, iface', hrequest, -⟩
      cases hrequest

end Requests

/-! ## Examples -/

/-- The scalar that X25519 makes of a private key. -/
def Key.clamped (key : Key) : Key :=
  ⟨(key.val.modify 0 (· &&& 248)).modify 31 fun b => b &&& 127 ||| 64, by simp [key.property]⟩

/-- A server whose library derives the public key from the scalar. -/
def clampedServer : Server :=
  { Server.transparent with crates := { WebCrates.transparent with publicKey := Key.clamped } }

/-- A site with an admin and a viewer, whose sessions are all others. -/
def sharedSite : Site :=
  { Site.fresh .default with
    sessions := fun id => { Session.fresh with
      authUser := some
        (if id.value = 0 then ⟨⟨0⟩, "admin", .admin⟩ else ⟨⟨1⟩, "guest", .viewer⟩) } }

/-- The admin creates an interface with a private key. -/
def keyedInterface (key : Key) : List Served :=
  [⟨.api ⟨none, ⟨0⟩⟩ (.createInterface
      { name := "wg0", listenPort := 51820, endpoint := none, gateway := none, ipv4Cidr := none
        ipv6Cidr := none, mtu := none, dns := [], onUp := none, onDown := none
        privateKey := some (encodeKey key) }),
    .calm sharedSite .inserted⟩]

/-- The key of zeros but for a bit that the scalar does not depend on. -/
def oddKey : Key := ⟨1 :: List.replicate 31 0, rfl⟩

/-- The site once the interface has been created. -/
def keyedSite (key : Key) : Site :=
  Runs.after (serveStep clampedServer) sharedSite (keyedInterface key)

/-- The calls that change nothing but the host. -/
def SiteCall.ReachesHost (c : SiteCall) : Prop :=
  (∃ call, c = .host call) ∨ c.Reads

theorem Api.service_reaches {α : Type} {program : App α} :
    Issues SiteCall.ReachesHost (Api.service program).run := by
  have hall : Issues (fun _ => True) program.run := Issues.of_forall (fun _ => trivial) _
  exact Issues.run_or_else (Issues.map (Issues.embed hall fun call _ => .inl ⟨call, rfl⟩))

/-- A REST request for an interface by the user of a session changes nothing but the host. -/
theorem create_interface_elsewhere (server : Server) (s : Site) (m : Moment) (session : SessionId)
    (req : CreateInterfaceRequest) :
    serveStep server s ⟨.api ⟨none, session⟩ (.createInterface req), m⟩ =
      (s.seen m).withHost
        (serveStep server s ⟨.api ⟨none, session⟩ (.createInterface req), m⟩).host := by
  have hpure : ∀ {α : Type} (result : Except ApiError α),
      Issues SiteCall.ReachesHost (Api.ofExcept result).run := fun result => by
    cases result <;> exact trivial
  have hextract : Issues SiteCall.ReachesHost
      (ApiAuthUser.fromRequestParts server.crates ⟨none, session⟩).run :=
    Issues.run_or_else (Issues.run_bind (Issues.run_or_else (Issues.request (.inr trivial)))
      fun _ => Web.or_fail_issues _ _)
  have hissues : Issues SiteCall.ReachesHost (apiProgram server.crates ⟨none, session⟩
      (.createInterface req)).run :=
    Issues.run_bind hextract fun _ => Issues.run_bind (hpure _) fun _ =>
      Issues.run_bind (hpure _) fun _ => Issues.run_bind (hpure _) fun _ =>
        Issues.run_bind Api.service_reaches fun _ => trivial
  let elsewhere (s : Site) : Site := s.withHost (.fresh [])
  have hframe : ∀ c, SiteCall.ReachesHost c → ∀ s,
      elsewhere (serve m.outage c s).2 = elsewhere s := by
    intro c hc s
    rcases hc with ⟨call, rfl⟩ | hreads
    · rfl
    · rw [serve_reads m.outage hreads]
  have hsame := hissues.frame hframe (s.seen m)
  generalize hfinal : serveStep server s ⟨.api ⟨none, session⟩ (.createInterface req), m⟩ = final
  have hexec : ((apiProgram server.crates ⟨none, session⟩ (.createInterface req)).run.exec
      (serve m.outage) (s.seen m)).2 = final := by
    rw [← hfinal]
    unfold serveStep Served.outcome Request.program
    rw [exec_map]
  rw [hexec] at hsame
  have hwith := congrArg (fun s : Site => s.withHost final.host) hsame
  exact hwith

/-- An interface that has been created is a row and a device. -/
theorem keyed_site_created {key : Key} (h : (keyedSite key).host.db.interfaces.rows ≠ []) :
    ∃ db : Db, db.peers = Db.empty.peers ∧ db.traffic = [] ∧
      keyedSite key = (sharedSite.seen (.calm sharedSite .inserted)).withHost
        { World.fresh [] with
          db, devices := Plan.none.created "wg0" (World.fresh []).devices } := by
  have hsite : keyedSite key = (sharedSite.seen (.calm sharedSite .inserted)).withHost
      (keyedSite key).host := create_interface_elsewhere _ _ _ _ _
  rcases serve_step_operates clampedServer sharedSite ((keyedInterface key).head nofun) with
    hsame | ⟨call, ⟨user, -, hasks⟩, hhost⟩
  · exact absurd (congrArg (fun w : World => w.db.interfaces.rows) hsame) h
  · cases hasks.2 with
    | @createInterface _ input hinput =>
        have hname : input.name = "wg0" := by
          obtain ⟨_, -, hinput⟩ := Outcome.bind_ok.mp hinput
          obtain ⟨_, -, hinput⟩ := Outcome.bind_ok.mp hinput
          obtain rfl := Except.ok.inj hinput
          show Text.trim "wg0" = "wg0"
          decide +kernel
        obtain ⟨result, w, heval, hend⟩ :=
          InterfaceService.create_spec .none clampedServer.crates.toCrates (World.fresh []) input
        have hworld : (keyedSite key).host = w := hhost.trans (congrArg Prod.snd (eval_drop heval))
        rw [hworld] at h hsite
        cases hend with
        | rejected e => exact absurd rfl h
        | created row db _ hrow _ _ _ _ _ _ hdb =>
            refine ⟨db, (Db.insert_interface_ok hdb).2.2, ?_, ?_⟩
            · unfold Db.insertInterface at hdb
              split_ifs at hdb
              obtain rfl := Except.ok.inj hdb
              rfl
            · rw [hsite, hrow, hname]

theorem keyed_sites_same : SameButKeys (keyedSite .zero) (keyedSite oddKey) := by
  have hrows : (keyedSite .zero).host.db.interfaces.rows.length = 1 ∧
      (keyedSite oddKey).host.db.interfaces.rows.length = 1 ∧
      (keyedSite .zero).host.db.interfaces.rows.map Interface.unkeyed =
        (keyedSite oddKey).host.db.interfaces.rows.map Interface.unkeyed := by decide +kernel
  obtain ⟨hlength, hlength', hinterfaces⟩ := hrows
  obtain ⟨db, hpeers, htraffic, hsite⟩ := keyed_site_created
    (List.ne_nil_of_length_pos (hlength ▸ Nat.one_pos))
  obtain ⟨db', hpeers', htraffic', hsite'⟩ := keyed_site_created
    (List.ne_nil_of_length_pos (hlength' ▸ Nat.one_pos))
  rw [hsite, hsite'] at hinterfaces ⊢
  exact ⟨hinterfaces, hpeers.trans hpeers'.symm, htraffic.trans htraffic'.symm, rfl, rfl⟩

/-- A page that the viewer fetches. -/
def viewerFetches (route : WebRoute) : Served :=
  ⟨.web ⟨1⟩ route, .calm sharedSite .inserted⟩

/-- The list of interfaces tells the viewer nothing. -/
theorem keys_hidden_list :
    ((viewerFetches .interfaces).outcome clampedServer (keyedSite .zero)).1 =
      ((viewerFetches .interfaces).outcome clampedServer (keyedSite oddKey)).1 := by
  refine (keys_hidden_iff clampedServer (keyedSite .zero) (keyedSite oddKey)
    (viewerFetches .interfaces) ⟨⟨1⟩, "guest", .viewer⟩ keyed_sites_same trivial
    (by decide +kernel)).mpr ?_
  rintro ⟨_, _, _, _, _, hrequest, -⟩
  cases hrequest

/-- The private key in the form of a page, if it has one. -/
def Answer.privateKey : Answer → Option String
  | .web (.ok (.html _ (.editInterface _ _ _ _ _ _ form _ _))) => some form.privateKey
  | _ => none

/-- The page of the interface shows its private key to the viewer. -/
theorem key_revealed :
    let a := viewerFetches (.interfacePage (Id.mk 0 : Id InterfaceMarker).display)
    SameButKeys (keyedSite .zero) (keyedSite oddKey) ∧ a.request.Get ∧
      a.caller clampedServer (keyedSite .zero) = some ⟨⟨1⟩, "guest", .viewer⟩ ∧
      Role.viewer.canMutate = false ∧
      (a.outcome clampedServer (keyedSite .zero)).1 ≠
        (a.outcome clampedServer (keyedSite oddKey)).1 := by
  intro a
  have hkeys : (a.outcome clampedServer (keyedSite .zero)).1.privateKey =
        some (encodeKey .zero) ∧
      (a.outcome clampedServer (keyedSite oddKey)).1.privateKey = some (encodeKey oddKey) := by
    decide +kernel
  refine ⟨keyed_sites_same, trivial, by decide +kernel, rfl, fun hsame => ?_⟩
  rw [hsame, hkeys.2] at hkeys
  exact absurd hkeys.1 (by decide +kernel)

end Wireforge
