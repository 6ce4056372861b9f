import Wireforge.Front.Recorded

/-!
# Error pages and new peers

The page that creates a peer still has work to do when the row has been inserted: it reads the
interface again, unseals the private key and renders the configuration of the client, and only then
does it record the event. A peer that is created with a public key alone has no private key to
render, so that its creation ends with an error page, and so does one whose interface cannot be read
again. `created_or_refused_iff` shows that there is no third way in which an error page, or a
missing event, comes with a new row, apart from an event that cannot be stored.
-/

namespace Wireforge

open Effect DefguardAdapter

variable {crates : WebCrates} {outage : Outage} {s : Site} {user : AuthUser}

/-- The answer is an error, or the form again with a message. -/
inductive ShowsError : Except (Stop WebError) Response → Prop where
  | page (e : Stop WebError) : ShowsError (.error e)
  | form (status : Nat) (user : AuthUser) (flash : Option Flash) (message : String)
      (form : PeerFormState) (options : List InterfaceOption) :
      ShowsError (.ok (.html status (.newPeer user flash (some message) form options)))

/-- An error comes with no new row, and every new row has its event. -/
structure AnswersForPeers (s : Site) (answer : Except (Stop WebError) Response) (s' : Site) :
    Prop where
  refused : ShowsError answer →
    ∀ row ∈ s'.host.db.peers.rows, row ∈ s.host.db.peers.rows
  recorded : ∃ events, s'.accounts.audit = s.accounts.audit ++ events ∧
    ∀ row ∈ s'.host.db.peers.rows, row ∉ s.host.db.peers.rows →
      ∃ event ∈ events, event.action = .peerCreated ∧ event.Names (.peer row.id)

namespace PeerService

variable {w : World} {input : CreatePeerInput} {iface : Interface} {row : Peer}

/-- A row that is inserted with a public key alone has no private key to show. -/
theorem Inserts.keyless {crates : Crates} (h : Inserts plan crates w input iface row)
    (hkeyless : input.Keyless) : row.privateKeySealed = none := by
  have hkeys := h.keys
  unfold newKeys at hkeys
  rw [hkeyless.1, hkeyless.2] at hkeys
  obtain ⟨key, -, heq⟩ := Outcome.map_ok.mp hkeys
  exact (Prod.mk.inj heq).2.symm

/-- Any other row that is inserted can be shown if its interface is read again. -/
theorem Inserts.shows {crates : Crates} {db : Db} {outage : Outage}
    (hcrates : crates.SealsBack) (h : Inserts outage.host crates w input iface row)
    (hdb : w.db.insertPeer row = .ok db) (hkeyless : ¬ input.Keyless)
    (hreread : outage.error (.rereadInterface row.interfaceId) = none) (devices : Devices) :
    Shows outage crates row { w with db, devices } := by
  obtain ⟨hmem, -⟩ := Plan.read_interface_some h.interface
  have hown : row.interfaceId = iface.id := by
    rw [← h.fields]
    rfl
  refine ⟨?_, hreread, ?_⟩
  · rw [(Db.insert_peer_ok hdb).2.2, hown]
    exact Option.isSome_iff_exists.mpr ⟨iface, Table.find_of_mem hmem⟩
  · rcases new_keys_ok h.keys with hnone | ⟨key, sealed, hseal, -, hsealed⟩
    · exact absurd (new_keys_keyless (hnone ▸ h.keys)) hkeyless
    · exact ⟨key.asStr, private_key_ok hcrates hseal hsealed⟩

end PeerService

/-! ## The event -/

/-- The event of a new peer. -/
def PeerService.createdEvent (user : AuthUser) (row : Peer) (now : DateTime) : AuditEvent :=
  ⟨some user.id, none, .peerCreated, some "peer", some row.id.display,
    some [("name", .str row.name), ("interface_id", .str row.interfaceId.display)], now⟩

/-- The site after an attempt to insert an event. -/
def Outage.audited (outage : Outage) (event : AuditEvent) (s : Site) : Site :=
  if AuditInserted outage (.insertAudit event) s then
    { s with accounts := { s.accounts with audit := s.accounts.audit ++ [event] } }
  else s

namespace Outage

variable {event : AuditEvent}

@[simp] theorem audited_host : (outage.audited event s).host = s.host := by
  unfold audited
  split <;> rfl

theorem audited_log : (outage.audited event s).accounts.audit =
    s.accounts.audit ++ if AuditInserted outage (.insertAudit event) s then [event] else [] := by
  unfold audited
  split
  · rfl
  · exact (List.append_nil _).symm

end Outage

/-- To record an event is to attempt its insertion. -/
theorem Web.eval_audit_record {ε : Type} {actor : Option (Id UserMarker)} {ip : Option String}
    {action : AuditAction} {resourceType resourceId : Option String}
    {metadata : Option Json.Object} :
    eval (serve outage) (Web.auditRecord (ε := ε) actor ip action resourceType resourceId
        metadata) s =
      (.ok (), outage.audited
        ⟨actor, ip, action, resourceType, resourceId, metadata, s.host.env.now⟩ s) := by
  let event : AuditEvent :=
    ⟨actor, ip, action, resourceType, resourceId, metadata, s.host.env.now⟩
  have hrun : (eval (serve outage) (SqliteAuditRepository.record actor ip action resourceType
      resourceId metadata) s).2 = (serve outage (.insertAudit event) s).2 := rfl
  rw [Web.auditRecord, eval_ignore, hrun]
  show _ = (Except.ok (), outage.audited event s)
  simp only [serve, Outage.write, Outage.run, Outage.audited, AuditInserted, SiteCall.event?]
  cases hfails : outage.error (.insertAudit event) with
  | some text => simp [hfails]
  | none =>
      simp only [Accounts.insertAudit]
      by_cases hknown : s.accounts.knows event.actorUserId = true <;> simp [hknown, hfails]

/-! ## The page -/

namespace Routes.Peers

/-- The page of a new peer is an error page if it has no private key, or if its interface cannot be
read again. -/
theorem eval_created_error {row : Peer} (h : row.privateKeySealed = none ∨
      outage.error (.rereadInterface row.interfaceId) ≠ none) (s : Site) :
    ∃ e, (eval (serve outage) (created crates user row) s).1 = .error e := by
  rcases heval : eval (serve outage) (created crates user row) s with ⟨e | answer, s'⟩
  · exact ⟨e, rfl⟩
  · obtain ⟨found, _, hread, hrest⟩ := eval_bind_ok.mp heval
    obtain ⟨iface, _, -, hrest⟩ := eval_bind_ok.mp hrest
    obtain ⟨config, _, hconf, -⟩ := eval_bind_ok.mp hrest
    rcases h with hkeyless | hfails
    · -- the configuration has been rendered
      have hrender : ∀ endpoint, ∃ e,
          renderPeerConf crates.toCrates iface row endpoint = .error e := by
        intro endpoint
        unfold renderPeerConf PeerConf.privateKey
        rw [hkeyless]
        exact ⟨_, rfl⟩
      obtain ⟨endpoint, _, -, hconf⟩ := eval_bind_ok.mp hconf
      obtain ⟨e, herror⟩ := hrender endpoint
      cases herror.symm.trans (Web.eval_of_core_ok.mp hconf).1
    · -- the interface has been read
      obtain ⟨text, htext⟩ := Option.ne_none_iff_exists'.mp hfails
      rw [eval_reread_interface, Outage.outcome, htext] at hread
      cases (Prod.mk.inj hread).1

/-- The page of a new peer that can be shown appends the event. -/
theorem eval_created_shown {row : Peer} {s : Site}
    (h : PeerService.Shows outage crates.toCrates row s.host) :
    ∃ config, eval (serve outage) (created crates user row) s =
      (.ok (.html 200 (.peerCreated user none row.id.display row.name config)),
        outage.audited (PeerService.createdEvent user row s.host.env.now) s) := by
  obtain ⟨config, heval, -⟩ := eval_created h
  refine ⟨config, ?_⟩
  rw [heval, recordCreated]
  simp only [eval_bind, Web.eval_audit_record]
  rfl

/-- A new row that cannot be shown comes with an error page. -/
theorem unshown_answers {s s' : Site} {row : Peer} (hunshown : row.privateKeySealed = none ∨
      outage.error (.rereadInterface row.interfaceId) ≠ none)
    (hnew : row ∉ s.host.db.peers.rows) (hrow : row ∈ s'.host.db.peers.rows) :
    ¬ AnswersForPeers s (eval (serve outage) (created crates user row) s').1
      (eval (serve outage) (created crates user row) s').2 := by
  intro h
  obtain ⟨e, herror⟩ := @eval_created_error crates outage user row hunshown s'
  have hpermitted : Permitted .none (created crates user row) := created_permitted row
  have hkept : row ∈ (eval (serve outage) (created crates user row) s').2.host.db.peers.rows := by
    rw [hpermitted.host rfl outage s']
    exact hrow
  exact hnew (h.refused (herror ▸ .page e) row hkept)

/-- A new row that is shown has its event if that can be inserted. -/
theorem shown_answers_iff {s s' : Site} {row : Peer}
    (hshows : PeerService.Shows outage crates.toCrates row s'.host)
    (hlog : s'.accounts.audit = s.accounts.audit) (hnew : row ∉ s.host.db.peers.rows)
    (hrows : s'.host.db.peers.rows = s.host.db.peers.rows ++ [row]) :
    AnswersForPeers s (eval (serve outage) (created crates user row) s').1
        (eval (serve outage) (created crates user row) s').2 ↔
      AuditInserted outage
        (.insertAudit (PeerService.createdEvent user row s'.host.env.now)) s' := by
  obtain ⟨config, heval⟩ := @eval_created_shown crates outage user row s' hshows
  have hmem : row ∈ s'.host.db.peers.rows := by
    rw [hrows]
    exact List.mem_append_right _ (List.mem_singleton.mpr rfl)
  rw [heval]
  constructor
  · intro h
    obtain ⟨events, hevents, hall⟩ := h.recorded
    obtain ⟨event, hevent, -⟩ := hall row (by rw [Outage.audited_host]; exact hmem) hnew
    rw [Outage.audited_log, hlog] at hevents
    by_contra hmissing
    -- no event has been added
    have hnil := List.append_cancel_left hevents
    rw [if_neg hmissing] at hnil
    exact List.not_mem_nil (hnil ▸ hevent)
  · intro hadds
    refine ⟨nofun, [PeerService.createdEvent user row s'.host.env.now], ?_, ?_⟩
    · rw [Outage.audited_log, if_pos hadds, hlog]
    · intro other hother hfresh
      rw [Outage.audited_host, hrows] at hother
      have hsame := (List.mem_append.mp hother).resolve_left hfresh
      obtain rfl := List.mem_singleton.mp hsame
      exact ⟨_, List.mem_singleton.mpr rfl, rfl, rfl, rfl⟩

section Create

variable {form : PeerForm} {input : CreatePeerInput} {w' : World}

/-- A created peer is shown. -/
theorem eval_create_ok {row : Peer} (hmutate : user.role.canMutate = true)
    (hinput : createInput crates user form = .ok input)
    (heval : eval (handle outage.host)
      (PeerService.createWithServerKeypair crates.toCrates input) s.host = (.ok row, w')) :
    eval (serve outage) (create crates user form) s =
      eval (serve outage) (created crates user row) { s with host := w' } := by
  unfold create AuthUser.requireMutate
  rw [if_pos hmutate, eval_bind, eval_pure]
  simp only [hinput]
  rw [eval_bind, Web.eval_attempt_host, heval]

/-- A page that creates no peer leaves the host as it is. -/
theorem create_error_host
    (hfails : user.role.canMutate = true → ∀ input, createInput crates user form = .ok input →
      ∃ e, eval (handle outage.host)
        (PeerService.createWithServerKeypair crates.toCrates input) s.host = (.error e, s.host)) :
    (eval (serve outage) (create crates user form) s).2.host = s.host := by
  have hform : ∀ message, Permitted .none (formError user form message) :=
    fun message => form_error_permitted form message
  unfold create AuthUser.requireMutate
  by_cases hmutate : user.role.canMutate = true
  · rw [if_pos hmutate, eval_bind, eval_pure]
    cases hinput : createInput crates user form with
    | error message => exact (hform message).host rfl outage s
    | ok input =>
        obtain ⟨e, heval⟩ := hfails hmutate input hinput
        simp only
        rw [eval_bind, Web.eval_attempt_host, heval]
        cases e with
        | validation message | conflict message | ipPoolExhausted message =>
            exact (hform message).host rfl outage s
        | _ => rfl
  · rw [if_neg hmutate]
    rfl

end Create

/-- The form of a user who may create peers is accepted, and nothing stands in the way of the new
row. -/
structure Inserts (crates : WebCrates) (outage : Outage) (s : Site) (user : AuthUser)
    (form : PeerForm) (input : CreatePeerInput) (row : Peer) : Prop where
  mutate : user.role.canMutate = true
  accepted : createInput crates user form = .ok input
  inserts : ∃ iface, PeerService.Inserts outage.host crates.toCrates s.host input iface row

/-- The error pages come without new rows, and the new rows with their events, exactly if a peer
whose row is inserted has a private key, its interface can be read once more, and its event can be
inserted, too. -/
theorem created_or_refused_iff (crates : WebCrates) (hcrates : crates.toCrates.SealsBack)
    (outage : Outage) (s : Site) (user : AuthUser) (form : PeerForm) :
    AnswersForPeers s (eval (serve outage) (create crates user form) s).1
        (eval (serve outage) (create crates user form) s).2 ↔
      ∀ input row, Inserts crates outage s user form input row → ¬ input.Keyless ∧
        outage.error (.rereadInterface row.interfaceId) = none ∧
        AuditInserted outage
          (.insertAudit (PeerService.createdEvent user row s.host.env.now)) s := by
  by_cases hinserts : ∃ input row, Inserts crates outage s user form input row
  · obtain ⟨input, row, h⟩ := hinserts
    obtain ⟨iface, hrow⟩ := h.inserts
    rcases PeerService.eval_create_iff outage.host crates.toCrates s.host input with
      ⟨iface', row', db, hrow', hdb, heval⟩ | ⟨hnone, -⟩
    · obtain rfl := hrow.unique hrow'
      obtain ⟨hfresh, hrows, -⟩ := Db.insert_peer_ok hdb
      have hnew : row ∉ s.host.db.peers.rows := fun hold => hfresh row hold rfl
      have hmem : row ∈ db.peers.rows := by
        rw [hrows]
        exact List.mem_append_right _ (List.mem_singleton.mpr rfl)
      have honly : ∀ input' row', Inserts crates outage s user form input' row' →
          input' = input ∧ row' = row := by
        intro input' row' h'
        obtain rfl : input = input' := Except.ok.inj (h.accepted.symm.trans h'.accepted)
        obtain ⟨_, hrow''⟩ := h'.inserts
        exact ⟨rfl, (hrow.unique hrow'').symm⟩
      rw [eval_create_ok h.mutate h.accepted heval]
      by_cases hkeyless : input.Keyless
      · exact iff_of_false (unshown_answers (.inl (hrow.keyless hkeyless)) hnew hmem) fun hall =>
          (hall input row h).1 hkeyless
      by_cases hreread : outage.error (.rereadInterface row.interfaceId) = none
      · have hshows := hrow.shows hcrates hdb hkeyless hreread
          (outage.host.installed crates.toCrates iface' row s.host.devices)
        refine (@shown_answers_iff crates outage user s { s with host := _ } row hshows rfl hnew
          hrows).trans ?_
        constructor
        · intro hadds input' row' h'
          obtain ⟨rfl, rfl⟩ := honly input' row' h'
          exact ⟨hkeyless, hreread, hadds⟩
        · exact fun hall => (hall input row h).2.2
      · exact iff_of_false (unshown_answers (.inr hreread) hnew hmem) fun hall =>
          hreread (hall input row h).2.1
    · exact absurd hrow (hnone iface row)
  · refine iff_of_true ?_ fun input row h => absurd ⟨input, row, h⟩ hinserts
    have hhost : (eval (serve outage) (create crates user form) s).2.host = s.host := by
      refine create_error_host fun hmutate input hinput => ?_
      rcases PeerService.eval_create_iff outage.host crates.toCrates s.host input with
        ⟨iface, row, db, hrow, -⟩ | ⟨-, hfails⟩
      · exact absurd ⟨input, row, hmutate, hinput, iface, hrow⟩ hinserts
      · exact hfails
    obtain ⟨events, hevents⟩ := audit_grows outage (create crates user form) s
    refine ⟨fun _ row hmem => hhost ▸ hmem, events, hevents.symm, fun row hmem hnew => ?_⟩
    exact absurd (hhost ▸ hmem) hnew

/-- A site with an interface. -/
def interfaceSite : Site :=
  Runs.after (serveStep (.reading .lab)) auditedSite
    (adminServed [.web ⟨0⟩ (.createInterface (.plain "wg0" "10.7.0.0/24"))])

/-- The form of a peer that keeps its private key for itself. -/
def publicKeyForm : PeerForm :=
  { PeerForm.plain "phone" "" with publicKey := encodeKey .zero }

theorem created_or_refused_plain :
    let result := eval (serve .none) (create (Server.reading .lab).crates ⟨⟨0⟩, "admin", .admin⟩
      (.plain "phone" "")) interfaceSite
    AnswersForPeers interfaceSite result.1 result.2 := by
  intro result
  refine (created_or_refused_iff (Server.reading .lab).crates Crates.seals_back_transparent .none
    interfaceSite ⟨⟨0⟩, "admin", .admin⟩ (.plain "phone" "")).mpr fun input row h =>
      ⟨?_, rfl, ?_⟩
  · rw [CreatePeerInput.Keyless, create_input_public h.accepted]
    exact fun hkeyless => absurd hkeyless.2 (by decide +kernel)
  · intro event hevent
    obtain rfl := Option.some.inj hevent
    exact ⟨rfl, show interfaceSite.accounts.knows (some ⟨0⟩) = true by decide +kernel⟩

/-- The answer to that form, and the site after it. -/
def publicKeyAnswer : Except (Stop WebError) Response × Site :=
  eval (serve .none)
    (create (Server.reading .lab).crates ⟨⟨0⟩, "admin", .admin⟩ publicKeyForm) interfaceSite

/-- A peer with a public key alone is stored, and the answer is an error page. -/
theorem refused_peer_stored :
    ¬ ∀ (crates : WebCrates) (outage : Outage) (s : Site) (user : AuthUser) (form : PeerForm),
      crates.toCrates.SealsBack →
        AnswersForPeers s (eval (serve outage) (create crates user form) s).1
          (eval (serve outage) (create crates user form) s).2 := by
  intro h
  have hfacts : publicKeyAnswer.1.toOption.isNone = true ∧
      interfaceSite.host.db.peers.rows.length = 0 ∧
      publicKeyAnswer.2.host.db.peers.rows.length = 1 := by decide +kernel
  have hanswers : AnswersForPeers interfaceSite publicKeyAnswer.1 publicKeyAnswer.2 :=
    h (Server.reading .lab).crates .none interfaceSite ⟨⟨0⟩, "admin", .admin⟩ publicKeyForm
      Crates.seals_back_transparent
  obtain ⟨hnone, hempty, hlength⟩ := hfacts
  rcases hanswer : publicKeyAnswer with ⟨e | answer, s'⟩ <;>
    rw [hanswer] at hnone hlength hanswers
  · obtain ⟨row, hrow⟩ := List.exists_mem_of_length_pos (hlength ▸ Nat.one_pos)
    have hold := hanswers.refused (.page e) row hrow
    rw [List.length_eq_zero_iff.mp hempty] at hold
    exact List.not_mem_nil hold
  · cases hnone

end Routes.Peers

end Wireforge
