import Wireforge.Front.Families
import Wireforge.Lib.Along
import Wireforge.Settings.SaveForm

/-!
# The audit log and the rows

Whether a request that changes a row of an interface or a peer leaves an event that names it. The
services record nothing; it is up to each handler to do so once its operation is over. The REST
handlers do not, nor do the two pages that edit a row. Two pages may stop between the change and the
event, and the event for a deleted interface does not name the peers that go with it. In all other
cases the event is there: `mutations_recorded`.
-/

namespace Wireforge

open Effect

/-- What an event can name. -/
inductive Resource where
  | interface (id : Id InterfaceMarker)
  | peer (id : Id PeerMarker)

/-- The event names the resource. -/
def AuditEvent.Names (event : AuditEvent) : Resource → Prop
  | .interface id => event.resourceType = some "interface" ∧ event.resourceId = some id.display
  | .peer id => event.resourceType = some "peer" ∧ event.resourceId = some id.display

/-- Rows are written, added or removed for touched resources only. -/
structure TouchesOnly (touched : Resource → Prop) (db db' : Db) : Prop where
  interfaces : ∀ row : Interface, ¬ (row ∈ db.interfaces.rows ↔ row ∈ db'.interfaces.rows) →
    touched (.interface row.id)
  peers : ∀ row : Peer, ¬ (row ∈ db.peers.rows ↔ row ∈ db'.peers.rows) → touched (.peer row.id)

/-- The events that come on top of those of another site name every touched resource. -/
def Recorded (s s' : Site) : Prop :=
  ∃ events, s'.accounts.audit = s.accounts.audit ++ events ∧
    TouchesOnly (fun resource => ∃ event ∈ events, event.Names resource) s.host.db s'.host.db

/-- The event that a call inserts, if it inserts one. -/
def SiteCall.event? : SiteCall → Option AuditEvent
  | insertAudit event => some event
  | _ => none

/-- A call that inserts an event succeeds. -/
def AuditInserted (outage : Outage) (c : SiteCall) (s : Site) : Prop :=
  ∀ event ∈ c.event?,
    outage.error (.insertAudit event) = none ∧ s.accounts.knows event.actorUserId = true

instance (outage : Outage) (c : SiteCall) (s : Site) : Decidable (AuditInserted outage c s) :=
  inferInstanceAs (Decidable (∀ event ∈ c.event?, _ ∧ _))

/-! ## Touched rows -/

namespace TouchesOnly

variable {touched touched' : Resource → Prop} {db db' : Db}

theorem of_eq (hinterfaces : db'.interfaces = db.interfaces) (hpeers : db'.peers = db.peers) :
    TouchesOnly touched db db' where
  interfaces row h := absurd (by rw [hinterfaces]) h
  peers row h := absurd (by rw [hpeers]) h

theorem mono (h : TouchesOnly touched db db') (himp : ∀ r, touched r → touched' r) :
    TouchesOnly touched' db db' where
  interfaces row hrow := himp _ (h.interfaces row hrow)
  peers row hrow := himp _ (h.peers row hrow)

theorem insert_interface {row : Interface} (hdb : db.insertInterface row = .ok db') :
    TouchesOnly (· = .interface row.id) db db' := by
  obtain ⟨-, hrows, hpeers⟩ := Db.insert_interface_ok hdb
  refine ⟨fun other hother => ?_, fun other hother => absurd (by rw [hpeers]) hother⟩
  rw [hrows other] at hother
  have heq : other = row := by tauto
  rw [heq]

theorem update_interface {row : Interface} {now : DateTime} :
    TouchesOnly (· = .interface row.id) db (db.updateInterface row now) := by
  refine ⟨fun other hother => ?_, fun other hother => absurd Iff.rfl hother⟩
  by_contra hid
  have hne : other.id ≠ row.id := fun heq => hid (congrArg Resource.interface heq)
  refine hother ⟨fun hmem => ?_, fun hmem => ?_⟩
  · exact Db.mem_update_interface.mpr (.inl ⟨hmem, hne⟩)
  · rcases Db.mem_update_interface.mp hmem with ⟨hmem, -⟩ | ⟨old, hold, hid, rfl⟩
    · exact hmem
    · exact absurd rfl hne

/-- The peers of a deleted interface go with it, so there must be none. -/
theorem delete_interface {id : Id InterfaceMarker} (hempty : db.peersOf id = []) :
    TouchesOnly (· = .interface id) db (db.deleteInterface id) := by
  refine ⟨fun other hother => ?_, fun other hother => absurd ?_ hother⟩
  · by_contra hid
    have hne : other.id ≠ id := fun heq => hid (congrArg Resource.interface heq)
    exact hother ⟨fun hmem => Table.mem_filter.mpr ⟨hmem, by simpa using hne⟩,
      fun hmem => (Table.mem_filter.mp hmem).1⟩
  · refine ⟨fun hmem => Table.mem_filter.mpr ⟨hmem, ?_⟩, fun hmem => (Table.mem_filter.mp hmem).1⟩
    have hne : other.interfaceId ≠ id := fun heq =>
      List.not_mem_nil (hempty ▸ mem_peers_of.mpr ⟨hmem, heq⟩)
    simpa using hne

theorem insert_peer {row : Peer} (hdb : db.insertPeer row = .ok db') :
    TouchesOnly (· = .peer row.id) db db' := by
  obtain ⟨-, hrows, hinterfaces⟩ := Db.insert_peer_ok hdb
  refine ⟨fun other hother => absurd (by rw [hinterfaces]) hother, fun other hother => ?_⟩
  rw [hrows, List.mem_append, List.mem_singleton] at hother
  have heq : other = row := by tauto
  rw [heq]

theorem update_peer {row : Peer} {now : DateTime} (hdb : db.updatePeer row now = .ok db') :
    TouchesOnly (· = .peer row.id) db db' := by
  obtain ⟨hrows, hinterfaces⟩ := Db.update_peer_ok hdb
  refine ⟨fun other hother => absurd (by rw [hinterfaces]) hother, fun other hother => ?_⟩
  by_contra hid
  have hne : other.id ≠ row.id := fun heq => hid (congrArg Resource.peer heq)
  have hkeep : ∀ old : Peer, old.id ≠ row.id → Db.setPeer row now old = old := fun old hold =>
    if_neg hold
  refine hother ⟨fun hmem => ?_, fun hmem => ?_⟩ <;> rw [hrows] at *
  · exact List.mem_map.mpr ⟨other, hmem, hkeep other hne⟩
  · obtain ⟨old, hold, heq⟩ := List.mem_map.mp hmem
    have hsame : old.id ≠ row.id := by
      rw [← Db.set_peer_id row now old, heq]
      exact hne
    rw [hkeep old hsame] at heq
    exact heq ▸ hold

theorem delete_peer {id : Id PeerMarker} :
    TouchesOnly (· = .peer id) db (db.deletePeer id) := by
  refine ⟨fun other hother => absurd Iff.rfl hother, fun other hother => ?_⟩
  by_contra hid
  have hne : other.id ≠ id := fun heq => hid (congrArg Resource.peer heq)
  exact hother ⟨fun hmem => Table.mem_filter.mpr ⟨hmem, by simpa using hne⟩,
    fun hmem => (Table.mem_filter.mp hmem).1⟩

end TouchesOnly

/-! ## The audit log -/

section Log

variable {outage : Outage} {α ε : Type}

/-- No call takes an event out of the log. -/
theorem serve_audit_grows (outage : Outage) (c : SiteCall) (s : Site) :
    s.accounts.audit <+: (serve outage c s).2.accounts.audit := by
  have hkeep : ∀ {audit : List AuditEvent}, audit = s.accounts.audit →
      s.accounts.audit <+: audit := fun heq => heq ▸ List.prefix_rfl
  cases c with
  | insertUser row =>
      refine hkeep (Outage.write_frame (·.accounts.audit) (fun s accounts hok => ?_) s)
      unfold Accounts.insertUser at hok
      split_ifs at hok with hid hname hemail
      exact (congrArg Accounts.audit (Except.ok.inj hok)).symm
  | insertToken row =>
      refine hkeep (Outage.write_frame (·.accounts.audit) (fun s accounts hok => ?_) s)
      unfold Accounts.insertToken at hok
      split_ifs at hok with hid hhash howner
      exact (congrArg Accounts.audit (Except.ok.inj hok)).symm
  | upsertSetting key value actor now =>
      refine hkeep (Outage.write_frame (·.accounts.audit) (fun s accounts hok => ?_) s)
      unfold Accounts.upsertSetting at hok
      split_ifs at hok with hknown
      exact (congrArg Accounts.audit (Except.ok.inj hok)).symm
  | updateTotp | touchLastLogin =>
      refine hkeep (Outage.write_frame (·.accounts.audit) (fun s accounts hok => ?_) s)
      obtain rfl := Except.ok.inj hok
      rfl
  | insertAudit event =>
      simp only [serve, Outage.write, Outage.run]
      cases outage.error (.insertAudit event) with
      | some text => exact List.prefix_rfl
      | none =>
          simp only [Accounts.insertAudit]
          by_cases hknown : s.accounts.knows event.actorUserId = true
          · rw [if_pos hknown]
            exact List.prefix_append _ _
          · rw [if_neg hknown]
  | revokeToken | clearBan | insertSession | removeSession | seriesTotals =>
      exact hkeep (Outage.run_frame (·.accounts.audit) (fun _ => rfl) s)
  | recordFailure =>
      exact hkeep (Outage.record_failure_frame (·.accounts.audit) (fun _ _ => rfl) s)
  | _ => exact hkeep rfl

theorem audit_grows (outage : Outage) (program : Fallible SiteCall SiteCall.Reply ε α)
    (s : Site) : s.accounts.audit <+: (eval (serve outage) program s).2.accounts.audit := by
  have hall : Issues (fun _ => True) program.run := Issues.of_forall (fun _ => trivial) _
  have hgrows : ∀ c, True → ∀ s', s.accounts.audit <+: s'.accounts.audit →
      s.accounts.audit <+: (serve outage c s').2.accounts.audit :=
    fun c _ s' h => h.trans (serve_audit_grows outage c s')
  exact hall.keeps hgrows List.prefix_rfl

/-- An event whose insertion succeeds is appended, and nothing else changes. -/
theorem Web.audit_appends {actor : Option (Id UserMarker)} {ip : Option String}
    {action : AuditAction} {resourceType resourceId : Option String}
    {metadata : Option Json.Object} {s : Site}
    (h : Along (serve outage) (AuditInserted outage) (Web.auditRecord (ε := ε) actor ip action
      resourceType resourceId metadata).run s) :
    ∃ event, event.resourceType = resourceType ∧ event.resourceId = resourceId ∧
      eval (serve outage) (Web.auditRecord (ε := ε) actor ip action resourceType resourceId
          metadata) s =
        (.ok (), { s with accounts :=
          { s.accounts with audit := s.accounts.audit ++ [event] } }) := by
  let event : AuditEvent :=
    ⟨actor, ip, action, resourceType, resourceId, metadata, s.host.env.now⟩
  refine ⟨event, rfl, rfl, ?_⟩
  have hcall : AuditInserted outage (.insertAudit event) s := by
    have hnow : eval (serve outage) siteNow s = (.ok s.host.env.now, s) := rfl
    exact (h.run_ignore.run_bind hnow).run_or_else.1
  obtain ⟨hnone, hknown⟩ := hcall event rfl
  have hserve : serve outage (.insertAudit event) s = (.ok (), { s with accounts :=
      { s.accounts with audit := s.accounts.audit ++ [event] } }) := by
    simp only [serve, Outage.write, Outage.run, hnone, Accounts.insertAudit]
    rw [if_pos hknown]
  have hrun : (eval (serve outage) (SqliteAuditRepository.record actor ip action resourceType
      resourceId metadata) s).2 = (serve outage (.insertAudit event) s).2 := rfl
  rw [Web.auditRecord, eval_ignore, hrun, hserve]

end Log

/-! ## Handlers that record their operation -/

section Handlers

variable {outage : Outage} {pre : World → Prop} {α β ε ε' : Type}

/-- From a host with a property, whatever the program changes is recorded, if the insertions of
events that it makes succeed. -/
def Records (outage : Outage) (pre : World → Prop)
    (program : Fallible SiteCall SiteCall.Reply ε α) : Prop :=
  ∀ s, pre s.host → Along (serve outage) (AuditInserted outage) program.run s →
    Recorded s (eval (serve outage) program s).2

/-- From a host with a property, the program changes nothing on the host and appends an event that
names the resource, if the insertions of events that it makes succeed. -/
def Emits (outage : Outage) (pre : World → Prop) (resource : Resource)
    (program : Fallible SiteCall SiteCall.Reply ε α) : Prop :=
  ∀ s, pre s.host → Along (serve outage) (AuditInserted outage) program.run s →
    (eval (serve outage) program s).2.host = s.host ∧
      ∃ events, (eval (serve outage) program s).2.accounts.audit = s.accounts.audit ++ events ∧
        ∃ event ∈ events, event.Names resource

/-- The operation touches one resource if it succeeds, and none if it fails. -/
structure Operation (outage : Outage) (pre : World → Prop) (program : App α)
    (resource : α → Resource) (post : α → World → Prop) : Prop where
  fails : ∀ w e w', pre w → eval (handle outage.host) program w = (.error e, w') →
    TouchesOnly (fun _ => False) w.db w'.db
  done : ∀ w value w', pre w → eval (handle outage.host) program w = (.ok value, w') →
    TouchesOnly (· = resource value) w.db w'.db ∧ post value w'

/-- Events that are appended earlier or later do no harm. -/
theorem Recorded.extend {s s1 s2 s' : Site} (h : Recorded s1 s2) (hhost : s1.host = s.host)
    (hhost' : s'.host = s2.host) (hfirst : s.accounts.audit <+: s1.accounts.audit)
    (hlast : s2.accounts.audit <+: s'.accounts.audit) : Recorded s s' := by
  obtain ⟨events, hevents, htouches⟩ := h
  obtain ⟨before, hbefore⟩ := hfirst
  obtain ⟨later, hlater⟩ := hlast
  refine ⟨before ++ events ++ later, ?_, ?_⟩
  · rw [← hlater, hevents, ← hbefore, List.append_assoc, List.append_assoc, List.append_assoc]
  · rw [hhost', ← hhost]
    refine htouches.mono fun resource ⟨event, hevent, hnames⟩ => ⟨event, ?_, hnames⟩
    simp [hevent]

/-- A site whose tables of interfaces and peers are the same and whose log has grown. -/
theorem Recorded.of_same {s s' : Site}
    (htouches : TouchesOnly (fun _ => False) s.host.db s'.host.db)
    (hlog : s.accounts.audit <+: s'.accounts.audit) : Recorded s s' := by
  obtain ⟨events, hevents⟩ := hlog
  exact ⟨events, hevents.symm, htouches.mono fun _ h => h.elim⟩

/-- To stop at the error of an operation is to look at its outcome. -/
theorem Web.service_bind {program : App α} {next : α → Web β} :
    (Web.service program >>= next) =
      (Effect.attempt (Web.host program) >>= fun result => Web.ofCore result >>= next) := by
  show ExceptT.bind (Web.repo (Web.host program)) next = ExceptT.bind _ _
  unfold Web.repo orElse Effect.attempt
  generalize (Web.host program).run = calls
  induction calls with
  | done result => cases result <;> rfl
  | call c rest ih => exact congrArg (Program.call c) (funext ih)

/-- An operation of a service runs on the host. -/
theorem Web.eval_attempt_host (program : App α) (s : Site) :
    eval (serve outage) (Effect.attempt (Web.host program) :
      Fallible SiteCall SiteCall.Reply ε _) s =
        (.ok (eval (handle outage.host) program s.host).1,
          { s with host := (eval (handle outage.host) program s.host).2 }) := by
  rw [eval_attempt, Web.host, eval_embed (site_embedding_acts outage)]
  cases (eval (handle outage.host) program s.host).1 <;> rfl

namespace Records

variable {program : Fallible SiteCall SiteCall.Reply ε α}

theorem quiet (h : Permitted .none program) : Records outage pre program := by
  intro s _ _
  have hhost := h.host rfl outage s
  exact .of_same (hhost ▸ .of_eq rfl rfl) (audit_grows outage program s)

theorem after {next : α → Fallible SiteCall SiteCall.Reply ε β} (h : Permitted .none program)
    (hnext : ∀ value, Records outage pre (next value)) :
    Records outage pre (program >>= next) := by
  intro s hpre halong
  have hhost := h.host rfl outage s
  have hlog := audit_grows outage program s
  rw [eval_bind]
  cases heval : eval (serve outage) program s with
  | mk result s' =>
      rw [heval] at hhost hlog
      cases result with
      | error e => exact .of_same (hhost ▸ .of_eq rfl rfl) hlog
      | ok value =>
          have hpre' : pre s'.host := by
            rw [hhost]
            exact hpre
          exact (hnext value s' hpre' (halong.run_bind heval)).extend hhost rfl hlog
            List.prefix_rfl

/-- An operation whose outcome is handed on: after a success an event has to follow. -/
theorem attempted {program : App α} {resource : α → Resource} {post : α → World → Prop}
    {next : Except CoreError α → Fallible SiteCall SiteCall.Reply ε β}
    (h : Operation outage pre program resource post)
    (hok : ∀ value, Emits outage (post value) (resource value) (next (.ok value)))
    (herror : ∀ e, Permitted .none (next (.error e))) :
    Records outage pre (Effect.attempt (Web.host program) >>= next) := by
  intro s hpre halong
  have hrun := @Web.eval_attempt_host outage α ε program s
  rw [eval_bind, hrun]
  have hrest := halong.run_bind hrun
  cases heval : eval (handle outage.host) program s.host with
  | mk result w =>
      rw [heval] at hrest
      cases result with
      | error e =>
          have hhost := (herror e).host rfl outage { s with host := w }
          refine .of_same ?_ (audit_grows outage (next (.error e)) { s with host := w })
          simp only [hhost]
          exact h.fails s.host e w hpre heval
      | ok value =>
          obtain ⟨htouches, hpost⟩ := h.done s.host value w hpre heval
          obtain ⟨hhost, events, hlog, hnames⟩ := hok value { s with host := w } hpost hrest
          refine ⟨events, hlog, ?_⟩
          simp only [hhost]
          exact htouches.mono fun r hr => hr ▸ hnames

/-- An operation whose error stops the page: after a success an event has to follow. -/
theorem service {program : App α} {resource : α → Resource} {post : α → World → Prop}
    {next : α → Web β} (h : Operation outage pre program resource post)
    (hok : ∀ value, Emits outage (post value) (resource value) (next value)) :
    Records outage pre (Web.service program >>= next) := by
  rw [Web.service_bind]
  refine attempted h (fun value => ?_) fun e => ?_
  · exact hok value
  · exact .throw (Stop.error (WebError.core e))

end Records

/-! ## The operations -/

/-- The request supplies a public key and no private key. -/
def CreatePeerInput.Keyless (input : CreatePeerInput) : Prop :=
  (Text.trim input.privateKey).isEmpty = true ∧ (Text.trim input.publicKey).isEmpty = false

/-- An event and whatever else follows without touching the host. -/
theorem Emits.of_audit {resource : Resource} {actor : Option (Id UserMarker)}
    {ip : Option String} {action : AuditAction} {resourceType resourceId : Option String}
    {metadata : Option Json.Object} {next : Unit → Web β}
    (hnames : ∀ event : AuditEvent, event.resourceType = resourceType →
      event.resourceId = resourceId → event.Names resource)
    (hnext : Permitted .none (next ())) :
    Emits outage pre resource
      (Web.auditRecord actor ip action resourceType resourceId metadata >>= next) := by
  intro s _ halong
  obtain ⟨event, htype, hid, heval⟩ := Web.audit_appends halong.run_first
  rw [eval_bind, heval]
  obtain ⟨later, hlater⟩ := audit_grows outage (next ())
    { s with accounts := { s.accounts with audit := s.accounts.audit ++ [event] } }
  refine ⟨hnext.host rfl outage _, [event] ++ later, ?_, event, by simp, hnames event htype hid⟩
  rw [← hlater, List.append_assoc]

namespace InterfaceService

theorem create_operation (crates : Crates) (input : CreateInterfaceInput) :
    Operation outage (fun _ => True) (create crates input) (fun row => .interface row.id)
      fun _ _ => True where
  fails w e w' _ heval := by
    obtain ⟨result, final, hspec, hend⟩ := create_spec outage.host crates w input
    obtain ⟨rfl, rfl⟩ := Prod.mk.inj (heval.symm.trans hspec)
    cases hend
    exact .of_eq rfl rfl
  done w row w' _ heval := by
    obtain ⟨result, final, hspec, hend⟩ := create_spec outage.host crates w input
    obtain ⟨rfl, rfl⟩ := Prod.mk.inj (heval.symm.trans hspec)
    cases hend with
    | created _ db key _ _ _ _ _ _ _ hdb => exact ⟨.insert_interface hdb, trivial⟩

theorem start_operation (crates : Crates) (id : Id InterfaceMarker) :
    Operation outage (fun _ => True) (start crates id) (fun row => .interface row.id)
      fun _ _ => True where
  fails w e w' _ heval := by
    obtain ⟨result, final, hspec, hend⟩ := start_spec outage.host crates w id
    obtain ⟨rfl, rfl⟩ := Prod.mk.inj (heval.symm.trans hspec)
    cases hend with
    | unmasqueraded _ _ _ _ _ _ hmasq =>
        exact .of_eq (by rw [hmasq.frame.1]) (by rw [hmasq.frame.1])
    | unsaved _ _ _ _ _ _ hmasq _ =>
        exact .of_eq (by rw [hmasq.frame.1]) (by rw [hmasq.frame.1])
    | _ => exact .of_eq rfl rfl
  done w row w' _ heval := by
    obtain ⟨result, final, hspec, hend⟩ := start_spec outage.host crates w id
    obtain ⟨rfl, rfl⟩ := Prod.mk.inj (heval.symm.trans hspec)
    cases hend
    exact ⟨.update_interface, trivial⟩

theorem stop_operation (id : Id InterfaceMarker) :
    Operation outage (fun _ => True) (stop id) (fun row => .interface row.id)
      fun _ _ => True where
  fails w e w' _ heval := by
    obtain ⟨result, final, hspec, hend⟩ := stop_spec outage.host w id
    obtain ⟨rfl, rfl⟩ := Prod.mk.inj (heval.symm.trans hspec)
    cases hend <;> exact .of_eq rfl rfl
  done w row w' _ heval := by
    obtain ⟨result, final, hspec, hend⟩ := stop_spec outage.host w id
    obtain ⟨rfl, rfl⟩ := Prod.mk.inj (heval.symm.trans hspec)
    cases hend
    exact ⟨.update_interface, trivial⟩

theorem delete_operation (id : Id InterfaceMarker) :
    Operation outage (fun w => w.db.peersOf id = []) (delete id) (fun _ => .interface id)
      fun _ _ => True where
  fails w e w' _ heval := by
    obtain ⟨result, final, hspec, hend⟩ := delete_spec outage.host w id
    obtain ⟨rfl, rfl⟩ := Prod.mk.inj (heval.symm.trans hspec)
    cases hend <;> exact .of_eq rfl rfl
  done w row w' hempty heval := by
    obtain ⟨result, final, hspec, hend⟩ := delete_spec outage.host w id
    obtain ⟨rfl, rfl⟩ := Prod.mk.inj (heval.symm.trans hspec)
    cases hend
    exact ⟨.delete_interface hempty, trivial⟩

end InterfaceService

namespace PeerService

theorem delete_operation (id : Id PeerMarker) :
    Operation outage (fun _ => True) (delete id) (fun _ => .peer id) fun _ _ => True where
  fails w e w' _ heval := by
    obtain ⟨result, final, hspec, hend⟩ := delete_spec outage.host w id
    obtain ⟨rfl, rfl⟩ := Prod.mk.inj (heval.symm.trans hspec)
    cases hend <;> exact .of_eq rfl rfl
  done w row w' _ heval := by
    obtain ⟨result, final, hspec, hend⟩ := delete_spec outage.host w id
    obtain ⟨rfl, rfl⟩ := Prod.mk.inj (heval.symm.trans hspec)
    cases hend
    exact ⟨.delete_peer, trivial⟩

/-- With the interface of a peer at hand, enabling or disabling it fails before the row is written
or not at all. -/
theorem set_enabled_cases {crates : Crates} {id : Id PeerMarker} {enabled : Bool} {plan : Plan}
    {w : World} (hread : ∀ peer, w.db.peers.find id = some peer →
      plan.error (.findInterface peer.interfaceId) = none) :
    (∃ e, eval (handle plan) (setEnabled crates id enabled) w = (.error e, w)) ∨
    ∃ row db w', w.db.updatePeer row w.env.now = .ok db ∧ w'.db = db ∧
      eval (handle plan) (setEnabled crates id enabled) w = (.ok row, w') := by
  unfold setEnabled
  rw [eval_bind]
  rcases eval_get plan w id with ⟨old, hold, hget⟩ | ⟨-, e, hget⟩
  · rw [hget]
    simp only [eval_bind]
    rcases SqlitePeerRepository.eval_update plan w { old with enabled } with
      ⟨db, hdb, hupdate⟩ | ⟨-, e, hupdate⟩
    · rw [hupdate]
      simp only
      -- the row of the interface is there, because the peer refers to it
      rcases eval_get_interface plan { w with db } old.interfaceId with
        ⟨iface, -, hget⟩ | ⟨hnone, -⟩
      · rw [hget]
        simp only [eval_push_peer, eval_pure]
        exact .inr ⟨_, db, _, hdb, rfl, rfl⟩
      · obtain ⟨hmem, rfl⟩ := Plan.read_peer_some hold
        have herror := hread old (Table.find_of_mem hmem)
        have href := w.db.references old hmem
        rw [← (Db.update_peer_ok hdb).2] at href
        rw [Plan.readInterface, herror] at hnone
        exact absurd hnone (Option.isSome_iff_ne_none.mp href)
    · rw [hupdate]
      exact .inl ⟨e, rfl⟩
  · rw [hget]
    exact .inl ⟨e, rfl⟩

theorem set_enabled_operation (crates : Crates) (id : Id PeerMarker) (enabled : Bool) :
    Operation outage (fun w => ∀ peer, w.db.peers.find id = some peer →
        outage.host.error (.findInterface peer.interfaceId) = none)
      (setEnabled crates id enabled) (fun row => .peer row.id) fun _ _ => True where
  fails w e w' hread heval := by
    rcases set_enabled_cases hread with ⟨e', herror⟩ | ⟨row, db, final, -, -, hok⟩
    · obtain rfl := (Prod.mk.inj (heval.symm.trans herror)).2
      exact .of_eq rfl rfl
    · cases heval.symm.trans hok
  done w row w' hread heval := by
    rcases set_enabled_cases hread with ⟨e', herror⟩ | ⟨row', db, final, hdb, rfl, hok⟩
    · cases heval.symm.trans herror
    · obtain ⟨hrow, rfl⟩ := Prod.mk.inj (heval.symm.trans hok)
      obtain rfl := Except.ok.inj hrow
      exact ⟨.update_peer hdb, trivial⟩

/-- The configuration of a new peer can be shown: its interface is read again, and its private key
is unsealed. -/
structure Shows (outage : Outage) (crates : Crates) (peer : Peer) (w : World) : Prop where
  found : (w.db.interfaces.find peer.interfaceId).isSome = true
  reread : outage.error (.rereadInterface peer.interfaceId) = none
  key : ∃ text, PeerConf.privateKey crates peer = .ok text

/-- A private key that was sealed is recovered. -/
theorem private_key_ok {crates : Crates} (hcrates : crates.SealsBack) {peer : Peer}
    {key : WgPrivateKey} {sealed : ByteArray} (hseal : crates.seal key.asStr.toUTF8 = .ok sealed)
    (hsealed : peer.privateKeySealed = some sealed) :
    PeerConf.privateKey crates peer = .ok key.asStr := by
  simp only [PeerConf.privateKey, hsealed, Crates.unseal_seal hcrates hseal, Bind.bind,
    Except.bind, Text.from_utf8_to_utf8]

/-- A new peer is without a private key only if a public key alone was supplied. -/
theorem new_keys_keyless {crates : Crates} {drawn : Key} {newPrivate newPublic : String}
    {publicKey : WgPublicKey}
    (h : newKeys crates drawn newPrivate newPublic = .ok (publicKey, none)) :
    newPrivate.isEmpty = true ∧ newPublic.isEmpty = false := by
  have hpair : ∀ {key : WgPrivateKey}, (crates.seal key.asStr.toUTF8).map
      (fun sealed => (key.public crates, some sealed)) ≠ .ok (publicKey, none) := by
    intro key hkey
    obtain ⟨sealed, -, heq⟩ := Outcome.map_ok.mp hkey
    cases heq
  unfold newKeys at h
  split at h
  · split at h
    · cases h
    · exact absurd h hpair
  next hprivate =>
    split at h
    next hpublic => exact ⟨by simpa using hprivate, by simpa using hpublic⟩
    next => exact absurd h hpair

theorem create_operation {crates : Crates} (hcrates : crates.SealsBack)
    {input : CreatePeerInput} (hkeyless : ¬ input.Keyless)
    (hreread : outage.error (.rereadInterface input.interfaceId) = none) :
    Operation outage (fun _ => True) (createWithServerKeypair crates input)
      (fun row => .peer row.id) (Shows outage crates) where
  fails w e w' _ heval := by
    obtain ⟨result, final, hspec, hend⟩ := create_spec outage.host crates w input
    obtain ⟨rfl, rfl⟩ := Prod.mk.inj (heval.symm.trans hspec)
    cases hend
    exact .of_eq rfl rfl
  done w row w' _ heval := by
    obtain ⟨result, final, hspec, hend⟩ := create_spec outage.host crates w input
    obtain ⟨rfl, rfl⟩ := Prod.mk.inj (heval.symm.trans hspec)
    cases hend with
    | created iface _ db hread _ hkeys hiface _ hdb =>
        obtain ⟨hmem, hid⟩ := Plan.read_interface_some hread
        refine ⟨.insert_peer hdb, ⟨?_, ?_, ?_⟩⟩
        · -- the interface is the one that was read before the insertion
          rw [hiface, (Db.insert_peer_ok hdb).2.2]
          exact Option.isSome_iff_exists.mpr ⟨iface, Table.find_of_mem hmem⟩
        · rw [hiface, hid]
          exact hreread
        · rcases new_keys_ok hkeys with hnone | ⟨key, sealed, hseal, -, hsealed⟩
          · exact absurd (new_keys_keyless (hnone ▸ hkeys)) hkeyless
          · exact ⟨key.asStr, private_key_ok hcrates hseal hsealed⟩

end PeerService

/-! ## The pages -/

section Pages

variable {crates : WebCrates} {session : SessionId} {user : AuthUser}

theorem Records.mono {pre' : World → Prop} {program : Fallible SiteCall SiteCall.Reply ε α}
    (h : Records outage pre' program) (hpre : ∀ w, pre w → pre' w) :
    Records outage pre program :=
  fun s hs => h s (hpre s.host hs)

theorem Records.after_mutate {next : Unit → Web β} (hnext : Records outage pre (next ())) :
    Records outage pre (user.requireMutate >>= next) := by
  unfold AuthUser.requireMutate
  split
  · exact hnext
  · exact .quiet (.throw _)

theorem Records.after_id {marker : Type} {path : String} {next : Id marker → Web β}
    (hnext : ∀ id, crates.parseUuid path = some id → Records outage pre (next ⟨id⟩)) :
    Records outage pre (Web.parseId crates path >>= next) := by
  unfold Web.parseId
  cases hid : crates.parseUuid path with
  | none => exact .quiet (.throw _)
  | some id => exact hnext id hid

namespace Routes.Interfaces

theorem create_records (form : InterfaceForm) :
    Records outage (fun _ => True) (create crates session user form) := by
  refine Records.after_mutate ?_
  cases parseForm crates form with
  | error message => exact .quiet (form_error_new_permitted form message)
  | ok parsed =>
      refine Records.attempted (InterfaceService.create_operation crates.toCrates
        (createInput form parsed)) (fun iface => ?_) fun e => ?_
      · exact .of_audit (fun _ htype hid => ⟨htype, hid⟩)
          ((Web.set_flash_permitted session _).bind fun _ => .pure _)
      · cases e with
        | conflict message | validation message => exact form_error_new_permitted form message
        | _ => exact .throw _

theorem start_records (path : String) :
    Records outage (fun _ => True) (start crates session user path) :=
  .after_mutate <| .after_id fun id _ =>
    .service (InterfaceService.start_operation crates.toCrates ⟨id⟩) fun _ =>
      .of_audit (fun _ htype hid => ⟨htype, hid⟩)
        ((Web.set_flash_permitted session _).bind fun _ => .pure _)

theorem stop_records (path : String) :
    Records outage (fun _ => True) (stop crates session user path) :=
  .after_mutate <| .after_id fun id _ =>
    .service (InterfaceService.stop_operation ⟨id⟩) fun _ =>
      .of_audit (fun _ htype hid => ⟨htype, hid⟩)
        ((Web.set_flash_permitted session _).bind fun _ => .pure _)

/-- The event names the interface, but not the peers that go with it. -/
theorem delete_records (path : String) :
    Records outage (fun w => ∀ id, crates.parseUuid path = some id → w.db.peersOf ⟨id⟩ = [])
      (delete crates session user path) :=
  .after_mutate <| .after_id fun id hid =>
    .mono (.service (InterfaceService.delete_operation ⟨id⟩) fun _ =>
      .of_audit (fun _ htype hid => ⟨htype, hid⟩)
        ((Web.set_flash_permitted session _).bind fun _ => .pure _)) fun _ hempty => hempty id hid

end Routes.Interfaces

namespace Routes.Peers

/-- To read an interface again changes nothing, and may fail. -/
theorem eval_reread_interface (id : Id InterfaceMarker) (s : Site) :
    eval (serve outage) (Web.repo (rereadInterface id)) s =
      (((outage.outcome (.rereadInterface id) (s.host.db.interfaces.find id)).mapError
        mapErr).mapError fun e => Stop.error (.core e), s) := by
  have hrepo : eval (serve outage) (Web.repo (rereadInterface id)) s =
      ((eval (serve outage) (rereadInterface id) s).1.mapError fun e => Stop.error (.core e),
        (eval (serve outage) (rereadInterface id) s).2) := eval_or_else _ _ _
  rw [hrepo]
  rfl

/-- A peer with a private key has a configuration, which is rendered without a change. -/
theorem eval_render_conf {iface : Interface} {peer : Peer} {text : String}
    (hkey : PeerConf.privateKey crates.toCrates peer = .ok text) (s : Site) :
    ∃ config, eval (serve outage) (renderConf crates iface peer) s = (.ok config, s) := by
  let endpoint := s.live.endpoint.getD "vpn.example.com"
  have hrender : ∃ config, renderPeerConf crates.toCrates iface peer endpoint = .ok config := by
    unfold renderPeerConf
    rw [hkey]
    exact ⟨_, rfl⟩
  obtain ⟨config, hconfig⟩ := hrender
  refine ⟨config, ?_⟩
  show (eval (serve outage) (Web.ofCore (renderPeerConf crates.toCrates iface peer endpoint)) s) = _
  rw [hconfig]
  rfl

/-- The audit event of a new peer, and its page. -/
def recordCreated (user : AuthUser) (peer : Peer) (config : String) : Web Response := do
  Web.auditRecord (some user.id) none .peerCreated (some "peer") (some peer.id.display)
    (some [("name", .str peer.name), ("interface_id", .str peer.interfaceId.display)])
  return .html 200 (.peerCreated user none peer.id.display peer.name config)

/-- The page of a new peer is its configuration and its event. -/
theorem created_eq (peer : Peer) : created crates user peer =
    Web.repo (rereadInterface peer.interfaceId) >>= fun found => Web.orFail .notFound found >>=
      fun iface => renderConf crates iface peer >>= recordCreated user peer := rfl

/-- A configuration that can be shown is shown before the event is recorded. -/
theorem eval_created {peer : Peer} {s : Site}
    (h : PeerService.Shows outage crates.toCrates peer s.host) :
    ∃ config, eval (serve outage) (created crates user peer) s =
        eval (serve outage) (recordCreated user peer config) s ∧
      (Along (serve outage) (AuditInserted outage) (created crates user peer).run s →
        Along (serve outage) (AuditInserted outage) (recordCreated user peer config).run s) := by
  obtain ⟨iface, hfind⟩ := Option.isSome_iff_exists.mp h.found
  obtain ⟨text, hkey⟩ := h.key
  obtain ⟨config, hconf⟩ := @eval_render_conf outage crates iface peer text hkey s
  have hread : eval (serve outage) (Web.repo (rereadInterface peer.interfaceId)) s =
      (.ok (some iface), s) := by
    rw [eval_reread_interface, Outage.outcome, h.reread, hfind]
    rfl
  have hiface : eval (serve outage) (Web.orFail .notFound (some iface)) s = (.ok iface, s) := rfl
  refine ⟨config, ?_, fun halong => ?_⟩
  · rw [created_eq, eval_bind, hread]
    simp only [eval_bind, hiface, hconf]
  · rw [created_eq] at halong
    exact ((halong.run_bind hread).run_bind hiface).run_bind hconf

/-- The page of a new peer records it once its configuration has been shown. -/
theorem created_emits (peer : Peer) :
    Emits outage (PeerService.Shows outage crates.toCrates peer) (.peer peer.id)
      (created crates user peer) := by
  intro s hshows halong
  obtain ⟨config, heval, hrest⟩ := eval_created hshows
  rw [heval]
  have hemits : Emits outage (fun _ => True) (.peer peer.id) (recordCreated user peer config) :=
    .of_audit (fun _ htype hid => ⟨htype, hid⟩) (.pure _)
  exact hemits s trivial (hrest halong)

theorem create_records (hcrates : crates.toCrates.SealsBack) (form : PeerForm)
    (hshown : ∀ input, createInput crates user form = .ok input →
      ¬ input.Keyless ∧ outage.error (.rereadInterface input.interfaceId) = none) :
    Records outage (fun _ => True) (create crates user form) := by
  refine Records.after_mutate ?_
  cases hinput : createInput crates user form with
  | error message => exact .quiet (form_error_permitted form message)
  | ok input =>
      obtain ⟨hkeyless, hreread⟩ := hshown input hinput
      refine Records.attempted (PeerService.create_operation hcrates hkeyless hreread)
        created_emits fun e => ?_
      cases e with
      | validation message | conflict message | ipPoolExhausted message =>
          exact form_error_permitted form message
      | _ => exact .throw _

/-- Without the interface of the peer, the page stops after the row has been written. -/
theorem toggle_records (path : String) :
    Records outage (fun w => ∀ id peer, crates.parseUuid path = some id →
        w.db.peers.find ⟨id⟩ = some peer →
        outage.host.error (.findInterface peer.interfaceId) = none)
      (toggle crates user path) :=
  .after_mutate <| .after_id fun id hid => .after (find_peer_permitted ⟨id⟩) fun peer =>
    .mono (.service (PeerService.set_enabled_operation crates.toCrates ⟨id⟩ (!peer.enabled))
      fun _ => .of_audit (fun _ htype hid => ⟨htype, hid⟩) (.pure _))
      fun _ hread peer => hread id peer hid

theorem delete_records (path : String) :
    Records outage (fun _ => True) (delete crates session user path) :=
  .after_mutate <| .after_id fun id _ =>
    .service (PeerService.delete_operation ⟨id⟩) fun _ =>
      .of_audit (fun _ htype hid => ⟨htype, hid⟩)
        ((Web.set_flash_permitted session _).bind fun _ => .pure _)

end Routes.Peers

end Pages

end Handlers

/-! ## Requests -/

section Requests

variable {crates : WebCrates} {outage : Outage} {α β ε : Type}

/-- The requests to pages that leave no event, or none that names all that they touch: edits, the
creation of a peer without a private key or with an interface that cannot be read again, the
switching of a peer whose interface cannot be read, and the deletion of an interface together with
its peers. -/
inductive WebRoute.Skips (crates : WebCrates) (outage : Outage) (user : AuthUser) (db : Db) :
    WebRoute → Prop where
  | editInterface {path : String} {form : InterfaceForm} {call : ServiceCall} :
      Asks crates user (.editInterface path form) call →
      Skips crates outage user db (.editInterface path form)
  | editPeer {path : String} {form : PeerEditForm} {call : ServiceCall} :
      Asks crates user (.editPeer path form) call →
      Skips crates outage user db (.editPeer path form)
  | createPeer {form : PeerForm} {input : CreatePeerInput} :
      Routes.Peers.createInput crates user form = .ok input → input.Keyless →
      Skips crates outage user db (.createPeer form)
  | rereadInterface {form : PeerForm} {input : CreatePeerInput} :
      Routes.Peers.createInput crates user form = .ok input →
      outage.error (.rereadInterface input.interfaceId) ≠ none →
      Skips crates outage user db (.createPeer form)
  | togglePeer {path : String} {id : Uuid} {peer : Peer} : crates.parseUuid path = some id →
      db.peers.find ⟨id⟩ = some peer →
      outage.host.error (.findInterface peer.interfaceId) ≠ none →
      Skips crates outage user db (.togglePeer path)
  | deleteInterface {path : String} {id : Uuid} : crates.parseUuid path = some id →
      db.peersOf ⟨id⟩ ≠ [] → Skips crates outage user db (.deleteInterface path)

/-- A REST request leaves no event at all. -/
def Request.Skips (crates : WebCrates) (outage : Outage) (user : AuthUser) (db : Db) :
    Request → Prop
  | visit _ _ _ | health => False
  | web _ route => user.role.canMutate = true ∧ route.Skips crates outage user db
  | api _ route => user.role.canMutate = true ∧ ∃ call, route.Asks crates call

/-- The request is one of those, made by a caller who can mutate. -/
def Served.Skips (server : Server) (s : Site) (a : Served) : Prop :=
  ∃ user, a.caller server s = some user ∧
    a.request.Skips server.crates a.moment.outage user s.host.db

/-- Every insertion of an event that is attempted while a request is served succeeds. -/
def Served.AuditsInserted (server : Server) (s : Site) (a : Served) : Prop :=
  Along (serve a.moment.outage) (AuditInserted a.moment.outage)
    (a.request.program server.crates server.config) (s.seen a.moment)

instance (server : Server) (s : Site) (a : Served) : Decidable (a.AuditsInserted server s) :=
  inferInstanceAs (Decidable (Along _ _ _ _))

/-- A handler of which no operation is asked. -/
theorem Recorded.unasked {asked : ServiceCall → Prop}
    {program : Fallible SiteCall SiteCall.Reply ε α} (h : Operates crates asked program)
    (hnone : ∀ call, ¬ asked call) (outage : Outage) (s : Site) :
    Recorded s (eval (serve outage) program s).2 := by
  rcases h outage s with hsame | ⟨call, hasked, -⟩
  · exact .of_same (hsame ▸ .of_eq rfl rfl) (audit_grows outage program s)
  · exact absurd hasked (hnone call)

theorem WebRoute.handler_records {config : WebConfig} {session : SessionId} {user : AuthUser}
    (hcrates : crates.toCrates.SealsBack) (route : WebRoute) {s : Site}
    (hskips : ¬ (Request.web session route).Skips crates outage user s.host.db)
    (halong : Along (serve outage) (AuditInserted outage)
      (route.handler crates config session user).run s) :
    Recorded s (eval (serve outage) (route.handler crates config session user) s).2 := by
  have hunasked : (∀ call, ¬ (Request.web session route).Asks crates user call) →
      Recorded s (eval (serve outage) (route.handler crates config session user) s).2 :=
    fun hnone => .unasked (handler_operates config route) hnone outage s
  cases hmutate : user.role.canMutate with
  | false => exact hunasked fun call hasks => absurd (hmutate.symm.trans hasks.1) nofun
  | true =>
      have hroute : ¬ route.Skips crates outage user s.host.db := fun h => hskips ⟨hmutate, h⟩
      cases route with
      | createInterface form =>
          exact Routes.Interfaces.create_records form s trivial halong
      | startInterface path =>
          exact Routes.Interfaces.start_records path s trivial halong
      | stopInterface path =>
          exact Routes.Interfaces.stop_records path s trivial halong
      | deleteInterface path =>
          refine Routes.Interfaces.delete_records path s (fun id hid => ?_) halong
          by_contra hpeers
          exact hroute (.deleteInterface hid hpeers)
      | createPeer form =>
          refine Routes.Peers.create_records hcrates form (fun input hinput =>
            ⟨fun hkeyless => hroute (.createPeer hinput hkeyless), ?_⟩) s trivial halong
          by_contra herror
          exact hroute (.rereadInterface hinput herror)
      | togglePeer path =>
          refine Routes.Peers.toggle_records path s (fun id peer hid hfind => ?_) halong
          by_contra herror
          exact hroute (.togglePeer hid hfind herror)
      | deletePeer path =>
          exact Routes.Peers.delete_records path s trivial halong
      | editInterface path form => exact hunasked fun _ hasks => hroute (.editInterface hasks.2)
      | editPeer path form => exact hunasked fun _ hasks => hroute (.editPeer hasks.2)
      | _ => exact hunasked fun _ hasks => by cases hasks.2

/-- What happens before the caller is known changes nothing that has to be recorded. -/
theorem extracted_records {extract : Fallible SiteCall SiteCall.Reply ε AuthUser}
    {handler : AuthUser → Fallible SiteCall SiteCall.Reply ε β} {s : Site}
    (hextract : Permitted .none extract)
    (halong : Along (serve outage) (AuditInserted outage) (extract >>= handler).run s)
    (hhandler : ∀ user s', (eval (serve outage) extract s).1.toOption = some user →
      s'.host = s.host → Along (serve outage) (AuditInserted outage) (handler user).run s' →
      Recorded s' (eval (serve outage) (handler user) s').2) :
    Recorded s (eval (serve outage) (extract >>= handler) s).2 := by
  have hhost := hextract.host rfl outage s
  have hlog := audit_grows outage extract s
  rw [eval_bind]
  cases heval : eval (serve outage) extract s with
  | mk result s' =>
      rw [heval] at hhost hlog hhandler
      cases result with
      | error e => exact .of_same (hhost ▸ .of_eq rfl rfl) hlog
      | ok user =>
          exact (hhandler user s' rfl hhost (halong.run_bind heval)).extend hhost rfl hlog
            List.prefix_rfl

/-- A request that is not among those is recorded. -/
theorem serve_step_recorded {server : Server} (hcrates : server.crates.toCrates.SealsBack)
    {s : Site} {a : Served} (haudit : a.AuditsInserted server s) (hskips : ¬ a.Skips server s) :
    Recorded s (serveStep server s a) := by
  rcases a with ⟨request, moment⟩
  have hseen : ∀ s', Recorded (s.seen moment) s' → Recorded s s' := fun _ h => h
  refine hseen _ ?_
  unfold Served.AuditsInserted Request.program at haudit
  unfold serveStep Served.outcome Request.program
  cases request with
  | visit session clientIp route =>
      rw [exec_map]
      have hquiet : Permitted .none (route.handler server.crates session clientIp) :=
        PublicRoute.handler_permitted clientIp route
      have hhost := hquiet.host rfl moment.outage (s.seen moment)
      exact .of_same (hhost ▸ .of_eq rfl rfl) (audit_grows moment.outage _ _)
  | health => exact .of_same (.of_eq rfl rfl) List.prefix_rfl
  | web session route =>
      rw [exec_map]
      refine extracted_records (AuthUser.from_parts_permitted session) (along_map.mp haudit)
        fun user s' hcaller hhost halong => ?_
      refine WebRoute.handler_records hcrates route (fun hskip => ?_) halong
      rw [hhost] at hskip
      exact hskips ⟨user, hcaller, hskip⟩
  | api credentials route =>
      rw [exec_map]
      refine extracted_records (ApiAuthUser.from_parts_permitted credentials)
        (along_map.mp haudit) fun user s' hcaller hhost _ => ?_
      refine .unasked (ApiRoute.handler_operates credentials route) (fun call hasks => ?_)
        moment.outage s'
      exact hskips ⟨user, hcaller, hasks.1, call, hasks.2⟩

/-- In every run in which the insertions of events succeed and no request is among those, every
request leaves an event for each row that it touches. -/
theorem mutations_recorded (server : Server) (hcrates : server.crates.toCrates.SealsBack)
    (s : Site) (run : List Served)
    (haudits : Runs.EachStep (serveStep server) (fun s a => a.AuditsInserted server s) s run)
    (hskips : Runs.EachStep (serveStep server) (fun s a => ¬ a.Skips server s) s run) :
    Runs.EachStep (serveStep server) (fun s a => Recorded s (serveStep server s a)) s run :=
  (haudits.and hskips).mono fun _ _ h => serve_step_recorded hcrates h.1 h.2

end Requests

/-! ## Examples -/

/-- The site of an admin whose account is stored. -/
def auditedSite : Site :=
  { siteOf ⟨⟨0⟩, "admin", .admin⟩ with accounts := adminSite.accounts }

/-- An interface and a peer are created on the pages, and the peer is disabled there. -/
def pageRun : List Served :=
  adminServed
    [.web ⟨0⟩ (.createInterface (.plain "wg0" "10.7.0.0/24")),
      .web ⟨0⟩ (.createPeer (.plain "phone" "")),
      .web ⟨0⟩ (.togglePeer (Id.mk 0 : Id PeerMarker).display)]

theorem Routes.Peers.create_input_public {crates : WebCrates} {user : AuthUser} {form : PeerForm}
    {input : CreatePeerInput} (h : createInput crates user form = .ok input) :
    input.publicKey = Text.trim form.publicKey := by
  obtain ⟨interfaceId, -, h⟩ := Outcome.bind_ok.mp h
  obtain ⟨allowedIps, -, h⟩ := Outcome.bind_ok.mp h
  obtain ⟨keepalive, -, h⟩ := Outcome.bind_ok.mp h
  obtain ⟨primaryDns, -, h⟩ := Outcome.bind_ok.mp h
  obtain ⟨secondaryDns, -, h⟩ := Outcome.bind_ok.mp h
  obtain rfl := Except.ok.inj h
  rfl

theorem mutations_recorded_pages :
    Runs.EachStep (serveStep (.reading .lab))
      (fun s a => Recorded s (serveStep (.reading .lab) s a)) auditedSite pageRun := by
  refine mutations_recorded (.reading .lab) Crates.seals_back_transparent auditedSite pageRun
    (by decide +kernel) (Runs.each_step_iff.mpr fun first a rest heq => ?_)
  have hmem : a ∈ pageRun := heq ▸ by simp
  rintro ⟨user, -, hskips⟩
  rcases List.mem_cons.mp hmem with rfl | hmem
  · cases hskips.2
  rcases List.mem_cons.mp hmem with rfl | hmem
  · cases hskips.2 with
    | createPeer hinput hkeyless =>
        rw [CreatePeerInput.Keyless, Routes.Peers.create_input_public hinput] at hkeyless
        exact absurd hkeyless.2 (by decide +kernel)
    | rereadInterface _ herror => exact herror rfl
  · obtain rfl := List.mem_singleton.mp hmem
    cases hskips.2 with
    | togglePeer _ _ herror => exact herror rfl

/-- An interface is created on its page and deleted by a REST request. -/
def restDeletion : List Served :=
  adminServed
    [.web ⟨0⟩ (.createInterface (.plain "wg0" "10.7.0.0/24")),
      .api ⟨none, ⟨0⟩⟩ (.deleteInterface (Id.mk 0 : Id InterfaceMarker).display)]

/-- The deletion removes the row, and no event is inserted. -/
theorem deletion_unrecorded :
    Runs.EachStep (serveStep (.reading .lab)) (fun s a => a.AuditsInserted (.reading .lab) s)
        auditedSite restDeletion ∧
      ¬ Runs.EachStep (serveStep (.reading .lab))
        (fun s a => Recorded s (serveStep (.reading .lab) s a)) auditedSite restDeletion := by
  refine ⟨by decide +kernel, fun h => ?_⟩
  obtain ⟨-, ⟨events, hevents, htouches⟩, -⟩ := h
  let before := Runs.after (serveStep (.reading .lab)) auditedSite (restDeletion.take 1)
  let after := Runs.after (serveStep (.reading .lab)) auditedSite restDeletion
  have hlog : (before.accounts.audit.length, after.accounts.audit.length) = (1, 1) := by
    decide +kernel
  have hrows : (before.host.db.interfaces.rows.length, after.host.db.interfaces.rows) =
      (1, []) := by decide +kernel
  obtain ⟨hbefore, hafter⟩ := Prod.mk.inj hrows
  -- the logs are equally long, so that no event has been added
  have hnone : events = [] := by
    have hlength : after.accounts.audit.length = before.accounts.audit.length + events.length :=
      (congrArg List.length hevents).trans List.length_append
    rw [(Prod.mk.inj hlog).1, (Prod.mk.inj hlog).2] at hlength
    exact List.length_eq_zero_iff.mp (by omega)
  obtain ⟨row, hrow⟩ := List.exists_mem_of_length_pos (hbefore ▸ Nat.one_pos)
  have hgone : row ∉ after.host.db.interfaces.rows := hafter ▸ List.not_mem_nil
  obtain ⟨event, hevent, -⟩ := htouches.interfaces row fun hsame => hgone (hsame.mp hrow)
  exact List.not_mem_nil (hnone ▸ hevent)

end Wireforge
