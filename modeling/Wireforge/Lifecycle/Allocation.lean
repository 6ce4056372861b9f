import Wireforge.Lib.Threads
import Wireforge.Lifecycle.Addresses

/-!
# Concurrent allocation

Requests that choose an address automatically read the peers of the interface in one statement and
insert the new peer in another. `allocations_distinct_iff` shows for every interleaving of their
calls that the addresses stay distinct exactly when no request inserts a peer that it chose the
address of before another request inserted one.
-/

namespace Wireforge

open Effect

/-- The request leaves the choice of an address to the service. -/
def CreatePeerInput.Auto (input : CreatePeerInput) : Prop :=
  input.allowedIps = none ∨ input.allowedIps = some []

/-- How far a request has come. -/
inductive AllocationPhase where
  | searching
  | found (iface : Interface)
  | listed (iface : Interface) (existing : List Peer)
  | finished

open AllocationPhase

/-- The calls of a request that concern the database: it reads the interface, lists its peers and
inserts one, with the address that was free in the list. -/
def allocation (id : Id InterfaceMarker) : Protocol Sys Sys.Reply AllocationPhase where
  allowed phase
    | .findInterface id' => id' = id
    | .listPeersOf id' => ∃ iface, phase = found iface ∧ id' = iface.id
    | .insertPeer row => ∃ iface existing, phase = listed iface existing ∧
        row.interfaceId = iface.id ∧ allocate iface existing none = .ok row.allowedIps
    | .uuidV7 => True
    | .utcNow => True
    | .generateKey => True
    | .openApi _ => True
    | .configurePeer _ _ => True
    | _ => False
  next phase
    | .findInterface _, .ok (some iface) => found iface
    | .findInterface _, _ => finished
    | .listPeersOf _, .ok existing =>
        match phase with
        | found iface => listed iface existing
        | _ => finished
    | .listPeersOf _, _ => finished
    | .insertPeer _, _ => finished
    | _, _ => phase

variable {crates : Crates} {id : Id InterfaceMarker} {phase : AllocationPhase}

/-! ## A request -/

theorem of_except_silent {α : Type} (result : Except CoreError α) :
    Silent (allocation id) phase (App.ofExcept result) := by
  cases result <;> rfl

@[simp] theorem follows_of_except {α : Type}
    {post : AllocationPhase → Except CoreError α → Prop} (result : Except CoreError α) :
    Follows (allocation id) post phase (App.ofExcept result).run ↔ post phase result := by
  cases result <;> rfl

/-- Choosing the keys leaves the phase alone. -/
theorem keys_silent (newPrivate newPublic : String) :
    Silent (allocation id) phase (PeerService.keys crates newPrivate newPublic) := by
  refine .ite ?_ (.ite ?_ ?_)
  · refine .bind (of_except_silent _) fun key => .bind (of_except_silent _) fun derived => ?_
    exact .bind (of_except_silent _) fun sealed => .pure _
  · exact .bind (of_except_silent _) fun publicKey => .pure _
  · refine .bind ?_ fun pair => .bind (of_except_silent _) fun sealed => .pure _
    refine .bind (.always ⟨trivial, fun _ => rfl⟩) fun key => ?_
    exact .bind (of_except_silent _) fun privateKey => .bind (of_except_silent _) fun _ => .pure _

/-- Installing a peer leaves the phase alone. -/
theorem apply_peer_silent (iface : Interface) (peer : Peer) :
    Silent (allocation id) phase (DefguardAdapter.applyPeer crates iface peer) := by
  refine .bind (of_except_silent _) fun wgPeer => ?_
  refine .bind (.or_else ⟨trivial, fun reply => ?_⟩) fun _ => .or_else ⟨trivial, fun reply => ?_⟩
  · cases reply <;> rfl
  · cases reply <;> rfl

/-- The interface that a request finds is the one it names. -/
theorem get_interface_follows {post : AllocationPhase → Except CoreError Interface → Prop}
    (hfound : ∀ iface, post (found iface) (.ok iface)) (herror : ∀ e, post finished (.error e)) :
    Follows (allocation id) post phase (PeerService.getInterface id).run := by
  refine Follows.run_bind.mpr (Follows.run_or_else.mpr ⟨rfl, fun reply => ?_⟩)
  match reply with
  | .ok (some iface) => exact hfound iface
  | .ok none => exact herror _
  | .error text => exact herror _

theorem list_follows {post : AllocationPhase → Except CoreError (List Peer) → Prop}
    (iface : Interface) (hlisted : ∀ existing, post (listed iface existing) (.ok existing))
    (herror : ∀ e, post finished (.error e)) :
    Follows (allocation id) post (found iface)
      (SqlitePeerRepository.listForInterface iface.id).run := by
  refine Follows.run_or_else.mpr ⟨⟨iface, rfl, rfl⟩, fun reply => ?_⟩
  cases reply with
  | error text => exact herror _
  | ok existing => exact hlisted existing

/-- Inserting a peer ends the part of a request that concerns the database. -/
theorem insert_follows {post : AllocationPhase → Except CoreError Peer → Prop}
    {iface : Interface} {existing : List Peer} {new : NewPeer}
    (hid : new.interfaceId = iface.id)
    (hallowed : allocate iface existing none = .ok new.allowedIps)
    (hpost : ∀ result, post finished result) :
    Follows (allocation id) post (listed iface existing)
      (SqlitePeerRepository.create new none).run := by
  unfold SqlitePeerRepository.create
  refine Follows.run_bind.mpr (Follows.run_always.mpr ⟨trivial, fun uuid => ?_⟩)
  refine Follows.run_bind.mpr (Follows.run_always.mpr ⟨trivial, fun now => ?_⟩)
  refine Follows.run_bind.mpr (Follows.run_or_else.mpr ?_)
  refine ⟨⟨iface, existing, rfl, hid, hallowed⟩, fun reply => ?_⟩
  cases reply with
  | error text => exact hpost _
  | ok value => exact hpost _

/-- A request that leaves the choice of the address to the service follows the protocol. -/
theorem create_follows (input : CreatePeerInput) (hauto : input.Auto)
    (hid : input.interfaceId = id) :
    Follows (allocation id) (fun _ _ => True) searching
      (PeerService.createWithServerKeypair crates input).run := by
  have hallocate : ∀ iface existing, allocate iface existing input.allowedIps =
      allocate iface existing none := by
    intro iface existing
    rcases hauto with hauto | hauto <;> exact hauto ▸ rfl
  unfold PeerService.createWithServerKeypair
  dsimp only
  rw [Follows.run_ite]
  split
  · trivial
  rw [Follows.run_bind, hid]
  refine get_interface_follows (fun iface => ?_) fun e => trivial
  dsimp only
  rw [Follows.run_bind]
  refine list_follows iface (fun existing => ?_) fun e => trivial
  dsimp only
  rw [Follows.run_bind, follows_of_except, hallocate]
  cases hallowed : allocate iface existing none with
  | error e => trivial
  | ok allowed =>
      dsimp only
      rw [Follows.run_bind]
      refine (keys_silent (Text.trim input.privateKey) (Text.trim input.publicKey)).follows ?_
      intro result
      cases result with
      | error e => trivial
      | ok pair =>
          dsimp only
          rw [Follows.run_bind]
          refine insert_follows rfl hallowed fun result => ?_
          cases result with
          | error e => trivial
          | ok peer =>
              dsimp only
              rw [Follows.run_bind, Follows.run_ignore]
              exact (apply_peer_silent iface peer).follows fun _ => trivial

/-! ## A pool of requests -/

/-- One call of one request, what fails in it and what it sees. -/
structure Turn where
  thread : Nat
  plan : Plan
  env : Env

/-- Requests that are handled at the same time. -/
abbrev Requests : Type := Pool Sys Sys.Reply World (Except CoreError Peer)

/-- The requests as they arrive. -/
def requests (crates : Crates) (w : World) (inputs : List CreatePeerInput) : Requests :=
  ⟨inputs.map fun input => (PeerService.createWithServerKeypair crates input).run, w⟩

/-- The request whose turn it is issues its next call. -/
def requestStep (pool : Requests) (turn : Turn) : Requests :=
  pool.step (fun turn c w => handle turn.plan c (w.seen turn.env)) turn.thread turn

/-- The call stores a peer. -/
def Turn.stores (turn : Turn) (db : Db) : Sys → Bool
  | .insertPeer row => (turn.plan.error (.insertPeer row)).isNone && (db.insertPeer row).isOk
  | _ => false

/-- The call lists the peers of an interface. -/
def Sys.lists : Sys → Bool
  | .listPeersOf _ => true
  | _ => false

/-- The requests, and whether a peer has been stored since each of them listed the peers. -/
structure Watched where
  pool : Requests
  stale : Nat → Bool

namespace Watched

/-- The requests as they arrive. -/
def start (pool : Requests) : Watched :=
  ⟨pool, fun _ => false⟩

/-- What becomes of the lists: a peer that is stored makes every one stale. -/
def staleAfter (s : Watched) (turn : Turn) : Nat → Bool :=
  match s.pool.pending turn.thread with
  | none => s.stale
  | some c =>
      if turn.stores s.pool.state.db c then fun _ => true
      else if c.lists then Function.update s.stale turn.thread false
      else s.stale

def step (s : Watched) (turn : Turn) : Watched :=
  ⟨requestStep s.pool turn, s.staleAfter turn⟩

/-- No request stores a peer after another peer has been stored since it listed them. -/
def Undisturbed (s : Watched) (turn : Turn) : Prop :=
  ∀ c, s.pool.pending turn.thread = some c → turn.stores s.pool.state.db c = true →
    s.stale turn.thread = false

end Watched

/-! ## What a request knows -/

/-- The interface that a request has found is the stored one; its list is that of the stored peers
unless it is stale, and then a stored peer has the address that is free in it. -/
def Known (id : Id InterfaceMarker) (db : Db) (stale : Bool) : AllocationPhase → Prop
  | searching => True
  | found iface => db.interfaces.find id = some iface
  | listed iface existing => db.interfaces.find id = some iface ∧
      if stale then ∃ peer ∈ db.peersOf id, allocate iface existing none = .ok peer.allowedIps
      else existing = db.peersOf id
  | finished => True

variable {plan : Plan} {turn : Turn} {w : World} {db db' : Db} {c : Sys} {row : Peer}

/-- The address that the service chooses is a single one. -/
theorem allocate_auto_ne {iface : Interface} {existing : List Peer} {allowed : List IpNet}
    (h : allocate iface existing none = .ok allowed) : allowed ≠ [] := by
  simp only [allocate] at h
  split at h
  · cases h
  · split at h
    · cases h
    · split at h
      · cases h
      · cases h
        exact List.cons_ne_nil _ _

/-- Of the calls that the protocol allows only a successful insertion changes the database. -/
theorem handle_cases (turn : Turn) (w : World) (h : (allocation id).allowed phase c) :
    turn.stores w.db c = false ∧ (handle turn.plan c w).2.db = w.db ∨
    ∃ row db, c = .insertPeer row ∧ w.db.insertPeer row = .ok db ∧
      turn.stores w.db c = true ∧ (handle turn.plan c w).2.db = db := by
  cases c with
  | insertPeer row =>
      simp only [Turn.stores, handle, Plan.write, Plan.run]
      cases turn.plan.error (.insertPeer row) with
      | some text => exact .inl ⟨rfl, rfl⟩
      | none =>
          cases hdb : w.db.insertPeer row with
          | error text => exact .inl ⟨rfl, rfl⟩
          | ok db => exact .inr ⟨row, db, rfl, hdb, rfl, rfl⟩
  | configurePeer name peer =>
      refine .inl ⟨rfl, ?_⟩
      simp only [handle, Plan.kernel, Plan.run]
      split <;> rfl
  | findInterface | listPeersOf | uuidV7 | utcNow | generateKey | openApi => exact .inl ⟨rfl, rfl⟩
  | _ => exact False.elim h

/-- What a request learns from a reply is so. -/
theorem known_reply {stale : Bool} (hallowed : (allocation id).allowed phase c)
    (hstores : turn.stores w.db c = false) (h : Known id w.db stale phase) :
    Known id w.db (if c.lists then false else stale)
      ((allocation id).next phase c (handle turn.plan c w).1) := by
  cases c with
  | findInterface id' =>
      cases hallowed
      simp only [handle, Plan.read, Plan.outcome]
      cases turn.plan.error (.findInterface id) with
      | some text => trivial
      | none =>
          cases hfind : w.db.interfaces.find id with
          | none => trivial
          | some iface => exact hfind
  | listPeersOf id' =>
      obtain ⟨iface, rfl, rfl⟩ := hallowed
      have hid : iface.id = id := (Table.find_eq_some.mp h).2
      simp only [handle, Plan.read, Plan.outcome]
      cases turn.plan.error (.listPeersOf iface.id) with
      | some text => trivial
      | none => exact ⟨h, congrArg w.db.peersOf hid⟩
  | insertPeer row => trivial
  | uuidV7 | utcNow | generateKey | openApi | configurePeer => exact h
  | _ => exact False.elim hallowed

/-- After a peer has been stored with the address that was free among the stored ones, what the
others know is stale. -/
theorem known_stored {stale : Bool} {iface : Interface} (hdb : db.insertPeer row = .ok db')
    (hiface : db.interfaces.find id = some iface) (hrow : row.interfaceId = iface.id)
    (hallocate : allocate iface (db.peersOf id) none = .ok row.allowedIps)
    (h : Known id db stale phase) : Known id db' true phase := by
  obtain ⟨-, hrows, hinterfaces⟩ := Db.insert_peer_ok hdb
  cases phase with
  | searching => trivial
  | finished => trivial
  | found iface' =>
      show db'.interfaces.find id = _
      rw [hinterfaces]
      exact h
  | listed iface' existing =>
      obtain ⟨hfind, hlist⟩ := h
      refine ⟨by rw [hinterfaces]; exact hfind, ?_⟩
      cases stale with
      | false =>
          obtain rfl : existing = db.peersOf id := hlist
          obtain rfl : iface = iface' := Option.some.inj (hiface.symm.trans hfind)
          have hid : iface.id = id := (Table.find_eq_some.mp hiface).2
          exact ⟨row, mem_peers_of.mpr ⟨by simp [hrows], hrow.trans hid⟩, hallocate⟩
      | true =>
          obtain ⟨peer, hpeer, hfree⟩ := hlist
          obtain ⟨hmem, hid⟩ := mem_peers_of.mp hpeer
          exact ⟨peer, mem_peers_of.mpr ⟨by simp [hrows, hmem], hid⟩, hfree⟩

/-- A peer that is stored with the address that was free among the stored ones shares it with no
other. -/
theorem unique_stored {iface : Interface} (hdb : db.insertPeer row = .ok db')
    (hid : row.interfaceId = id)
    (hallocate : allocate iface (db.peersOf id) none = .ok row.allowedIps)
    (h : UniqueAddresses db) : UniqueAddresses db' := by
  obtain ⟨hfresh, hrows, -⟩ := Db.insert_peer_ok hdb
  refine unique_of_row row h (fun peer hpeer => ?_) fun ip hip peer hpeer hsame _ => ?_
  · rw [hrows, List.mem_append, List.mem_singleton] at hpeer
    rcases hpeer with hpeer | rfl
    · exact .inl ⟨hpeer, hfresh peer hpeer⟩
    · exact .inr ⟨rfl, rfl, rfl⟩
  · exact allocate_free hallocate ip hip peer (mem_peers_of.mpr ⟨hpeer, hsame.trans hid⟩)

/-- A peer that is stored with the addresses of another one of its interface makes them clash. -/
theorem clash_stored {peer : Peer} (hdb : db.insertPeer row = .ok db')
    (hpeer : peer ∈ db.peers.rows) (hid : row.interfaceId = peer.interfaceId)
    (hips : row.allowedIps = peer.allowedIps) (hne : row.allowedIps ≠ []) :
    ¬ UniqueAddresses db' := by
  obtain ⟨hfresh, hrows, -⟩ := Db.insert_peer_ok hdb
  intro h
  obtain ⟨ip, hip⟩ := List.exists_mem_of_ne_nil _ hne
  exact h row (by simp [hrows]) peer (by simp [hrows, hpeer]) (Ne.symm (hfresh peer hpeer)) hid ip
    hip (hips ▸ hip)

/-! ## Every interleaving -/

namespace Watched

variable {s : Watched}

/-- Every request has come as far as it knows, and no address is assigned twice. -/
structure Coherent (id : Id InterfaceMarker) (s : Watched) : Prop where
  unique : UniqueAddresses s.pool.state.db
  known : s.pool.Follows (allocation id) fun thread =>
    Known id s.pool.state.db (s.stale thread)

/-- Every request follows the protocol, and an address is assigned twice. -/
structure Clashing (id : Id InterfaceMarker) (s : Watched) : Prop where
  clash : ¬ UniqueAddresses s.pool.state.db
  follows : s.pool.Follows (allocation id) fun _ _ => True

theorem step_idle (hidle : s.pool.pending turn.thread = none)
    (hstay : requestStep s.pool turn = s.pool) : s.step turn = s := by
  rw [step, staleAfter, hidle, hstay]

theorem stale_after (hpending : s.pool.pending turn.thread = some c) :
    (s.step turn).stale = if turn.stores s.pool.state.db c then fun _ => true
      else if c.lists then Function.update s.stale turn.thread false else s.stale := by
  rw [step, staleAfter, hpending]

/-- A turn that disturbs no one keeps the requests coherent. -/
theorem coherent_step (h : s.Coherent id) (hguard : s.Undisturbed turn) :
    (s.step turn).Coherent id := by
  rcases h.known.step with ⟨hidle, hstay⟩ | ⟨phase, c, hpending, hallowed, hknow, hstate, hnext⟩
  · rw [step_idle hidle hstay]
    exact h
  have hstale := stale_after hpending
  rcases handle_cases turn (s.pool.state.seen turn.env) hallowed with
    ⟨hstores, hdb⟩ | ⟨row, db, rfl, hdb, hstores, hdb'⟩
  · -- The database is as before, and only a request that has listed the peers knows more.
    have hsame : (s.step turn).pool.state.db = s.pool.state.db :=
      (congrArg World.db hstate).trans hdb
    replace hstale : (s.step turn).stale =
        if c.lists then Function.update s.stale turn.thread false else s.stale :=
      hstale.trans (if_neg (Bool.eq_false_iff.mp hstores))
    refine ⟨by rw [hsame]; exact h.unique, ?_⟩
    rw [hsame, hstale]
    refine hnext _ ?_ fun other phase hne hother => ?_
    · have hself := known_reply (w := s.pool.state.seen turn.env) hallowed hstores hknow
      cases hlists : c.lists <;> rw [hlists] at hself <;> simpa using hself
    · cases c.lists
      · exact hother
      · simpa [Function.update_of_ne hne] using hother
  · -- A peer is stored. Its address is free among the stored peers, as the list is up to date.
    have hafter : (s.step turn).pool.state.db = db := (congrArg World.db hstate).trans hdb'
    have hfresh : s.stale turn.thread = false := hguard _ hpending hstores
    replace hstale : (s.step turn).stale = fun _ => true := hstale.trans (if_pos hstores)
    obtain ⟨iface, existing, rfl, hrow, hallocate⟩ := hallowed
    obtain ⟨hiface, hlist⟩ := hknow
    rw [hfresh] at hlist
    obtain rfl : existing = s.pool.state.db.peersOf id := hlist
    have hid : iface.id = id := (Table.find_eq_some.mp hiface).2
    refine ⟨by rw [hafter]; exact unique_stored hdb (hrow.trans hid) hallocate h.unique, ?_⟩
    rw [hafter, hstale]
    refine hnext _ trivial fun other phase _ hother => ?_
    exact known_stored hdb hiface hrow hallocate hother

/-- A request that stores a peer with a stale list gives it the address of another. -/
theorem clashing_of_stale (h : s.Coherent id) (hguard : ¬ s.Undisturbed turn) :
    (s.step turn).Clashing id := by
  simp only [Undisturbed, not_forall, Bool.not_eq_false] at hguard
  obtain ⟨c, hpending, hstores, hstale⟩ := hguard
  rcases h.known.step with ⟨hidle, -⟩ | ⟨phase, c', hpending', hallowed, hknow, hstate, hnext⟩
  · rw [hidle] at hpending
    cases hpending
  obtain rfl : c' = c := Option.some.inj (hpending'.symm.trans hpending)
  rcases handle_cases turn (s.pool.state.seen turn.env) hallowed with
    ⟨hfails, -⟩ | ⟨row, db, rfl, hdb, -, hdb'⟩
  · exact absurd hstores (hfails ▸ Bool.false_ne_true)
  obtain ⟨iface, existing, rfl, hrow, hallocate⟩ := hallowed
  obtain ⟨hiface, hlist⟩ := hknow
  rw [hstale] at hlist
  obtain ⟨peer, hpeer, hfree⟩ := hlist
  obtain ⟨hmem, hpid⟩ := mem_peers_of.mp hpeer
  have hid : iface.id = id := (Table.find_eq_some.mp hiface).2
  have hafter : (s.step turn).pool.state.db = db := (congrArg World.db hstate).trans hdb'
  refine ⟨?_, hnext _ trivial fun _ _ _ _ => trivial⟩
  rw [hafter]
  exact clash_stored hdb hmem (hrow.trans (hid.trans hpid.symm))
    (Except.ok.inj (hallocate.symm.trans hfree)) (allocate_auto_ne hallocate)

/-- No request removes a peer. -/
theorem clashing_step (h : s.Clashing id) : (s.step turn).Clashing id := by
  rcases h.follows.step with ⟨hidle, hstay⟩ | ⟨phase, c, hpending, hallowed, -, hstate, hnext⟩
  · rw [step_idle hidle hstay]
    exact h
  refine ⟨fun hunique => h.clash ?_, hnext _ trivial fun _ _ _ _ => trivial⟩
  refine unique_of_subset hunique fun peer hpeer => ?_
  rcases handle_cases turn (s.pool.state.seen turn.env) hallowed with
    ⟨-, hdb⟩ | ⟨row, db, rfl, hdb, -, hdb'⟩
  · rw [show (s.step turn).pool.state.db = _ from (congrArg World.db hstate).trans hdb]
    exact hpeer
  · rw [show (s.step turn).pool.state.db = _ from (congrArg World.db hstate).trans hdb',
      (Db.insert_peer_ok hdb).2.1]
    exact List.mem_append_left _ hpeer

end Watched

/-- Requests that have just arrived know nothing. -/
theorem requests_coherent {inputs : List CreatePeerInput}
    (hauto : ∀ input ∈ inputs, input.Auto ∧ input.interfaceId = id)
    (hunique : UniqueAddresses w.db) : (Watched.start (requests crates w inputs)).Coherent id := by
  refine ⟨hunique, fun thread program hprogram => ⟨searching, ?_, trivial⟩⟩
  obtain ⟨input, hinput, rfl⟩ := List.mem_map.mp (List.mem_of_getElem? hprogram)
  exact create_follows input (hauto input hinput).1 (hauto input hinput).2

/-- In whatever order the calls of the requests come, no address is assigned twice if and only if
no request stores a peer after another one has been stored since it listed them. -/
theorem allocations_distinct_iff (crates : Crates) (w : World) (id : Id InterfaceMarker)
    (inputs : List CreatePeerInput) (schedule : List Turn)
    (hauto : ∀ input ∈ inputs, input.Auto ∧ input.interfaceId = id)
    (hunique : UniqueAddresses w.db) :
    UniqueAddresses (Runs.after requestStep (requests crates w inputs) schedule).state.db ↔
      Runs.EachStep Watched.step Watched.Undisturbed (.start (requests crates w inputs))
        schedule := by
  have hpool : (Runs.after Watched.step (.start (requests crates w inputs)) schedule).pool =
      Runs.after requestStep (requests crates w inputs) (schedule.map fun turn => turn) :=
    Runs.after_map (fun _ _ _ => rfl) (.of_forall fun _ _ => trivial)
  rw [List.map_id'] at hpool
  rw [← hpool]
  have hprop : ∀ s : Watched, s.Coherent id → UniqueAddresses s.pool.state.db := fun _ h => h.unique
  have hbroken : ∀ s : Watched, s.Clashing id → ¬ UniqueAddresses s.pool.state.db :=
    fun _ h => h.clash
  exact Runs.last_iff_each_step hprop (fun _ _ => Watched.coherent_step)
    (fun _ _ => Watched.clashing_of_stale) (fun _ _ => Watched.clashing_step) hbroken
    (requests_coherent hauto hunique)

instance : Decidable (UniqueAddresses db) :=
  inferInstanceAs (Decidable (∀ peer ∈ db.peers.rows, ∀ other ∈ db.peers.rows, peer.id ≠ other.id →
    peer.interfaceId = other.interfaceId → ∀ ip ∈ peer.allowedIps, ip ∉ other.allowedIps))

instance (s : Watched) (turn : Turn) : Decidable (s.Undisturbed turn) :=
  match hpending : s.pool.pending turn.thread with
  | none => .isTrue fun c hc => by
      rw [hpending] at hc
      cases hc
  | some c =>
      decidable_of_iff (turn.stores s.pool.state.db c = true → s.stale turn.thread = false)
        (by simp [Watched.Undisturbed, hpending])

/-- An interface with free addresses and no peers. -/
def labWorld : World :=
  let input := CreateInterfaceInput.plain "wg0" none none
  serviceStep .transparent (.fresh [])
    ⟨.interface (.create { input with ipv4Cidr := some .lab }), .none, (World.fresh []).env⟩

/-- Turns of the given requests; the peer of a request has the number of the request. -/
def turns (threads : List Nat) : List Turn :=
  threads.map fun thread => ⟨thread, .none, { labWorld.env with uuid := .ofNat 128 thread }⟩

/-- Two requests for a peer of the interface. -/
def twoRequests : Requests :=
  requests .transparent labWorld [.plain "first" ⟨0⟩ none, .plain "second" ⟨0⟩ none]

/-- One after the other the requests get different addresses. -/
theorem allocations_distinct_in_turn :
    UniqueAddresses (Runs.after requestStep twoRequests
      (turns (List.replicate 8 0 ++ List.replicate 8 1))).state.db :=
  (allocations_distinct_iff .transparent labWorld ⟨0⟩
    [.plain "first" ⟨0⟩ none, .plain "second" ⟨0⟩ none] _
    (by simp [CreatePeerInput.Auto, CreatePeerInput.plain]) (by decide +kernel)).mpr
    (by decide +kernel)

/-- When both list the peers before either stores one, they get the same address. -/
theorem allocations_collide :
    let final := Runs.after requestStep twoRequests
      (turns ([0, 0, 1, 1] ++ List.replicate 6 0 ++ List.replicate 6 1))
    UniqueAddresses labWorld.db ∧ final.state.db.peers.rows.map Peer.allowedIps =
      [[.single (ipv4 10 7 0 2)], [.single (ipv4 10 7 0 2)]] ∧
    ¬ UniqueAddresses final.state.db := by
  decide +kernel

end Wireforge
