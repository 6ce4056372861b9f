import Wireforge.Infra.PeerTable
import Wireforge.Lib.Along
import Wireforge.Lifecycle.InterfaceRun
import Wireforge.Task.Enforcement

/-!
# The counters of the kernel

The kernel counts the traffic of every entry of a device, from zero on. A `Counted` host has these
counters: the calls that create entries reset them, and traffic makes them grow. `CountsOn` says of
an operation which entries it creates, and that it leaves the counters of the others alone.
-/

namespace Wireforge

open Effect DefguardAdapter

/-- The bytes that an entry has received and sent. -/
structure Meter where
  rx : UInt64
  tx : UInt64

/-- An entry that has just been created. -/
def Meter.zero : Meter := ⟨0, 0⟩

/-- More traffic; the counters stop at the largest value. -/
def Meter.add (meter sent : Meter) : Meter :=
  ⟨saturatingAdd meter.rx sent.rx, saturatingAdd meter.tx sent.tx⟩

/-- The sum that the poller records. -/
def Meter.total (meter : Meter) : UInt64 :=
  saturatingAdd meter.rx meter.tx

/-- The counters by device and key. -/
abbrev Meters := String → Key → Meter

/-- The device has an entry for the key. -/
def Devices.lists (devices : Devices) (name : String) (key : Key) : Bool :=
  ((devices name).bind (·.peers key)).isSome

/-- The counters after a call, given the world in which it is made. Configuring a device creates
all its entries anew; configuring a peer creates an entry unless there is one. -/
def Sys.meter : Sys → World → Meters → Meters
  | .configureDevice config, _, meters => Function.update meters config.name fun _ => .zero
  | .configurePeer name peer, w, meters =>
      if w.devices.lists name peer.publicKey then meters
      else Function.update meters name (Function.update (meters name) peer.publicKey .zero)
  | _, _, meters => meters

/-- A host and the counters of its kernel. -/
abbrev Counted := World × Meters

/-- What the kernel shows of a device: the entries that are there, with what they have counted. -/
def Counted.shown (s : Counted) (host : String → List HostPeer) (name : String) : List HostPeer :=
  ((host name).filter fun p => s.1.devices.lists name p.publicKey).map fun p =>
    { p with rxBytes := (s.2 name p.publicKey).rx, txBytes := (s.2 name p.publicKey).tx }

/-- The world in which an operation starts. -/
def Counted.seen (s : Counted) (env : Env) : World :=
  s.1.seen { env with counters := s.shown env.counters }

/-- The host after a program during which nothing fails. -/
def Counted.afterwards {ε α : Type} (s : Counted) (env : Env)
    (program : Fallible Sys Sys.Reply ε α) : Counted :=
  (eval (noting (handle .none) Sys.meter) program (s.seen env, s.2)).2

/-! ## Which entries a call creates -/

/-- The call creates no entries but the given ones. -/
def Sys.Creates (created : String → Key → Prop) : Sys → World → Prop
  | .configureDevice config, _ => ∀ peer ∈ config.peers, created config.name peer.publicKey
  | .configurePeer name peer, w =>
      created name peer.publicKey ∨ w.devices.lists name peer.publicKey = true
  | _, _ => True

/-- The call creates no entries. -/
def Sys.CreatesNone : Sys → Prop
  | .configureDevice _ | .configurePeer _ _ => False
  | _ => True

/-- Every entry has just been created, or it was there before and has not been reset. -/
def CountsOn (created : String → Key → Prop) (s s' : Counted) : Prop :=
  ∀ name key, s'.1.devices.lists name key = true → created name key ∨
    s.1.devices.lists name key = true ∧ s'.2 name key = s.2 name key

variable {created : String → Key → Prop} {devices : Devices} {name other : String} {key k : Key}
  {w : World}

theorem Sys.CreatesNone.creates {c : Sys} (h : c.CreatesNone) : c.Creates created w := by
  cases c <;> first | exact trivial | exact h.elim

namespace Devices

theorem lists_configure (config : InterfaceConfiguration) :
    (devices.configure config).lists name key =
      if name = config.name then (peerTable config.peers key).isSome
      else devices.lists name key := by
  unfold lists configure
  by_cases h : name = config.name
  · subst h
    rw [Function.update_self, if_pos rfl]
    rfl
  · rw [Function.update_of_ne h, if_neg h]

theorem lists_create : (devices.create other).lists name key = devices.lists name key := by
  unfold lists create
  by_cases h : name = other
  · subst h
    rw [Function.update_self]
    cases devices name <;> rfl
  · rw [Function.update_of_ne h]

theorem lists_remove (h : (devices.remove other).lists name key = true) :
    devices.lists name key = true := by
  unfold lists remove at h
  by_cases hname : name = other
  · subst hname
    rw [Function.update_self] at h
    cases h
  · rwa [Function.update_of_ne hname] at h

/-- Changing one entry changes no other. -/
theorem lists_set_peer {entry : Option WgPeer}
    (h : (devices.setPeer other k entry).lists name key = true) :
    (name = other ∧ key = k ∧ entry.isSome = true) ∨ devices.lists name key = true := by
  unfold lists setPeer at h
  by_cases hname : name = other
  · subst hname
    rw [Function.update_self] at h
    cases hdevice : devices name with
    | none =>
        rw [hdevice] at h
        cases h
    | some device =>
        rw [hdevice] at h
        replace h : (Function.update device.peers k entry key).isSome = true := h
        by_cases hkey : key = k
        · subst hkey
          rw [Function.update_self] at h
          exact .inl ⟨rfl, rfl, h⟩
        · rw [Function.update_of_ne hkey] at h
          refine .inr ?_
          rwa [lists, hdevice]
  · rw [Function.update_of_ne hname] at h
    exact .inr h

end Devices

/-- The keys of a peer table are those of the peers it was made of. -/
theorem mem_of_peer_table {peers : List WgPeer} (h : (peerTable peers key).isSome = true) :
    ∃ peer ∈ peers, peer.publicKey = key := by
  induction peers using List.reverseRecOn with
  | nil => cases h
  | append_singleton rest peer ih =>
      rw [peerTable, List.foldl_append] at h
      replace h : (Function.update (peerTable rest) peer.publicKey (some peer) key).isSome = true :=
        h
      by_cases hkey : key = peer.publicKey
      · exact ⟨peer, List.mem_append_right _ (List.mem_singleton_self peer), hkey.symm⟩
      · rw [Function.update_of_ne hkey] at h
        obtain ⟨found, hfound, heq⟩ := ih h
        exact ⟨found, List.mem_append_left _ hfound, heq⟩

/-- A statement changes no device. -/
theorem write_devices {plan : Plan} {call : Sys} {change : Db → Except String Db} :
    (plan.write call change w).2.devices = w.devices := by
  unfold Plan.write Plan.run
  cases plan.error call with
  | some text => rfl
  | none => cases hchange : change w.db <;> simp only [hchange]

namespace CountsOn

variable {s s' s'' : Counted}

theorem refl (s : Counted) : CountsOn created s s :=
  fun _ _ h => .inr ⟨h, rfl⟩

/-- Losing entries and keeping the counters. -/
theorem lose (h : CountsOn created s s')
    (hlists : ∀ name key, s''.1.devices.lists name key = true →
      s'.1.devices.lists name key = true) (hmeters : s''.2 = s'.2) : CountsOn created s s'' := by
  intro name key hlisted
  rw [hmeters]
  exact h name key (hlists name key hlisted)

/-- What one call does to the counters. -/
theorem call {c : Sys} (hc : c.Creates created s'.1) (h : CountsOn created s s') :
    CountsOn created s (noting (handle .none) Sys.meter c s').2 := by
  cases c with
  | configureDevice config =>
      intro name key hlisted
      replace hlisted : (s'.1.devices.configure config).lists name key = true := hlisted
      show _ ∨ _ ∧ Function.update s'.2 config.name _ name key = _
      rw [Devices.lists_configure] at hlisted
      by_cases hname : name = config.name
      · subst hname
        rw [if_pos rfl] at hlisted
        obtain ⟨peer, hpeer, rfl⟩ := mem_of_peer_table hlisted
        exact .inl (hc peer hpeer)
      · rw [if_neg hname] at hlisted
        rw [Function.update_of_ne hname]
        exact h name key hlisted
  | configurePeer device peer =>
      intro name key hlisted
      replace hlisted : (s'.1.devices.setPeer device peer.publicKey (some peer)).lists name key =
        true := hlisted
      show _ ∨ _ ∧ (if s'.1.devices.lists device peer.publicKey then s'.2 else _) name key = _
      split
      · -- the entry was there, and has been replaced
        rename_i hthere
        rcases Devices.lists_set_peer hlisted with ⟨rfl, rfl, -⟩ | hbefore
        · exact h name _ hthere
        · exact h name key hbefore
      · rename_i hnew
        have hcreated := hc.resolve_right hnew
        rcases Devices.lists_set_peer hlisted with ⟨rfl, rfl, -⟩ | hbefore
        · exact .inl hcreated
        · by_cases hname : name = device
          · subst hname
            have hkey : key ≠ peer.publicKey := fun heq => hnew (heq ▸ hbefore)
            rw [Function.update_self, Function.update_of_ne hkey]
            exact h name key hbefore
          · rw [Function.update_of_ne hname]
            exact h name key hbefore
  | createDevice device =>
      exact h.lose (fun name key hlisted => by
        rwa [show (noting (handle .none) Sys.meter (.createDevice device) s').2.1.devices =
          s'.1.devices.create device from rfl, Devices.lists_create] at hlisted) rfl
  | removeDevice device => exact h.lose (fun _ _ => Devices.lists_remove) rfl
  | removePeer device key =>
      refine h.lose (fun name k hlisted => ?_) rfl
      exact (Devices.lists_set_peer hlisted).resolve_left fun hremoved => by cases hremoved.2.2
  | insertInterface row => exact h.lose (fun _ _ hlisted => write_devices ▸ hlisted) rfl
  | insertPeer row => exact h.lose (fun _ _ hlisted => write_devices ▸ hlisted) rfl
  | updatePeer row now => exact h.lose (fun _ _ hlisted => write_devices ▸ hlisted) rfl
  | insertSnapshot peerId tx rx lastHandshake now =>
      exact h.lose (fun _ _ hlisted => write_devices ▸ hlisted) rfl
  | _ => exact h.lose (fun _ _ hlisted => hlisted) rfl

/-- A program counts on, apart from the entries that it creates. -/
theorem of_along {ε α : Type} {program : Fallible Sys Sys.Reply ε α} {s : Counted}
    (h : Along (handle .none) (Sys.Creates created) program.run s.1) :
    CountsOn created s (eval (noting (handle .none) Sys.meter) program s).2 :=
  h.noted (fun _ _ hc hinv => hinv.call hc) (refl s)

end CountsOn

/-! ## Programs that create no entries -/

theorem creates_of_issues {α : Type} {program : Program Sys Sys.Reply α}
    (h : Issues Sys.CreatesNone program) (w : World) :
    Along (handle .none) (Sys.Creates created) program w :=
  .of_issues h (fun _ hc _ => hc.creates) w

section CreatesNone

/-- The NAT adapter creates no entries. -/
theorem nat_creates_none {α : Type} {program : App α}
    (h : Issues IptablesNatAdapter.Issued program.run) : Issues Sys.CreatesNone program.run := by
  refine h.mono fun c hc => ?_
  cases c <;> first | exact trivial | exact hc.elim

/-- A pass of the poller creates no entries. -/
theorem poll_once_creates_none : Issues Sys.CreatesNone (ExceptT.run Poller.pollOnce) := by
  refine Poller.poll_once_issues.mono fun c hc => ?_
  cases c <;> first | exact trivial | exact hc.elim

namespace InterfaceService

theorem get_creates_none (id : Id InterfaceMarker) : Issues Sys.CreatesNone (get id).run := by
  refine Issues.run_bind (Issues.run_or_else (Issues.request trivial)) fun found => ?_
  cases found with
  | none => exact Issues.run_throw _
  | some iface => exact Issues.run_pure _

theorem update_creates_none (iface : Interface) :
    Issues Sys.CreatesNone (SqliteInterfaceRepository.update iface).run :=
  Issues.run_bind (Issues.run_always (Issues.request trivial)) fun _ =>
    Issues.run_or_else (Issues.request trivial)

theorem interface_down_creates_none (iface : Interface) :
    Issues Sys.CreatesNone (interfaceDown iface).run :=
  Issues.run_bind (open_api_issues trivial) fun _ => Issues.run_or_else (Issues.request trivial)

theorem run_configured_hook_creates_none (script : Option String) :
    Issues Sys.CreatesNone (runConfiguredHook script).run := by
  cases script with
  | none => exact Issues.run_pure _
  | some script =>
      have hhook := nat_creates_none (IptablesNatAdapter.run_hook_issues script)
      exact Issues.run_ignore hhook

theorem validate_gateway_creates_none (gateway : String) :
    Issues Sys.CreatesNone (validateGateway gateway).run := by
  have hlist : Issues Sys.CreatesNone (do
      let links ← GetifaddrsAdapter.list
      if !links.any (·.name = gateway) then
        throw (.validation s!"gateway '{gateway}' is not a host interface") : App Unit).run :=
    Issues.run_bind (Issues.run_or_else (Issues.request trivial)) fun links =>
      Issues.run_ite (Issues.run_throw _) (Issues.run_pure _)
  unfold validateGateway
  split
  · exact Issues.run_bind (Issues.run_throw _) fun _ => hlist
  · exact hlist

theorem masquerade_creates_none (iface : Interface) :
    Issues Sys.CreatesNone (masquerade iface).run := by
  unfold masquerade
  cases iface.gateway with
  | none => exact Issues.run_pure _
  | some gateway =>
      refine Issues.run_bind (Issues.run_attempt (Issues.run_bind
        (validate_gateway_creates_none gateway) fun _ =>
          nat_creates_none (IptablesNatAdapter.apply_issues iface gateway))) fun result => ?_
      cases result with
      | ok value => exact Issues.run_pure _
      | error e =>
          exact Issues.run_bind (Issues.run_ignore (interface_down_creates_none iface))
            fun _ => Issues.run_throw _

theorem stop_creates_none (id : Id InterfaceMarker) : Issues Sys.CreatesNone (stop id).run := by
  refine Issues.run_bind (get_creates_none id) fun iface => Issues.run_bind ?_ fun _ =>
    Issues.run_bind (run_configured_hook_creates_none iface.onDown) fun _ => Issues.run_bind
      (interface_down_creates_none iface) fun _ => Issues.run_bind (update_creates_none _)
        fun _ => Issues.run_pure _
  cases iface.gateway with
  | none => exact Issues.run_pure _
  | some gateway =>
      exact Issues.run_ignore (nat_creates_none (IptablesNatAdapter.remove_issues iface gateway))

end InterfaceService

end CreatesNone

/-! ## Programs that create entries -/

/-- Bringing an interface up creates the entries of its enabled peers. -/
theorem interface_up_creates (crates : Crates) (iface : Interface) (peers : List Peer)
    (hpeers : ∀ peer ∈ peers, peer.enabled = true → created iface.name peer.publicKey.key)
    (w : World) :
    Along (handle .none) (Sys.Creates created) (interfaceUp crates iface peers).run w := by
  have hconfig (key : WgPrivateKey) (w : World) :
      (Sys.configureDevice (configWith crates iface peers key)).Creates created w := by
    intro entry hentry
    obtain ⟨peer, hpeer, rfl⟩ := List.mem_map.mp hentry
    obtain ⟨hmem, henabled⟩ := List.mem_filter.mp hpeer
    exact hpeers peer hmem henabled
  unfold interfaceUp
  rw [configuration_eq]
  cases unsealPrivate crates iface with
  | error e => trivial
  | ok key => exact ⟨trivial, hconfig key w, trivial, trivial⟩

/-- Starting an interface creates the entries of its enabled peers. -/
theorem start_creates (crates : Crates) (id : Id InterfaceMarker) (w : World)
    (hpeers : ∀ iface, w.db.interfaces.find id = some iface → ∀ peer ∈ w.db.peersOf id,
      peer.enabled = true → created iface.name peer.publicKey.key) :
    Along (handle .none) (Sys.Creates created) (InterfaceService.start crates id).run w := by
  refine (creates_of_issues (InterfaceService.get_creates_none id) w).run_then
    fun iface w' hget => ?_
  have hfind : w.db.interfaces.find id = some iface ∧ w' = w := by
    rcases InterfaceService.eval_get .none w id with ⟨found, hread, heval⟩ | ⟨-, e, heval⟩
    · obtain ⟨hvalue, hworld⟩ := Prod.mk.inj (heval.symm.trans hget)
      exact ⟨hread.trans (congrArg some (Except.ok.inj hvalue)), hworld.symm⟩
    · cases heval.symm.trans hget
  obtain ⟨hfind, rfl⟩ := hfind
  obtain rfl : iface.id = id := (Table.find_eq_some.mp hfind).2
  refine Along.run_then ⟨trivial, trivial⟩ fun peers w'' hlist => ?_
  rw [SqlitePeerRepository.eval_list_for_interface, Plan.outcome_none] at hlist
  obtain ⟨hlisted, rfl⟩ := Prod.mk.inj hlist
  obtain rfl : w'.db.peersOf iface.id = peers := Except.ok.inj hlisted
  refine (interface_up_creates crates iface _ (hpeers iface hfind) w').run_then fun _ w'' _ => ?_
  refine creates_of_issues (Issues.run_bind
    (InterfaceService.run_configured_hook_creates_none _) fun _ => Issues.run_bind
      (InterfaceService.masquerade_creates_none iface) fun _ => Issues.run_bind
        (InterfaceService.update_creates_none _) fun _ => Issues.run_pure _) w''

theorem apply_peer_creates (crates : Crates) (iface : Interface) (peer : Peer)
    (h : created iface.name peer.publicKey.key ∨
      w.devices.lists iface.name peer.publicKey.key = true) :
    Along (handle .none) (Sys.Creates created) (applyPeer crates iface peer).run w := by
  unfold applyPeer
  rw [to_wg_peer_eq]
  exact ⟨trivial, h, trivial⟩

/-- Enabling a peer creates its entry, unless it is there. -/
theorem set_enabled_creates (crates : Crates) (id : Id PeerMarker) (enabled : Bool) (w : World)
    (hpeer : ∀ peer iface, w.db.peers.find id = some peer →
      w.db.interfaces.find peer.interfaceId = some iface → enabled = true →
        created iface.name peer.publicKey.key ∨
          w.devices.lists iface.name peer.publicKey.key = true) :
    Along (handle .none) (Sys.Creates created)
      (PeerService.setEnabled crates id enabled).run w := by
  have hget : Issues Sys.CreatesNone (PeerService.get id).run := by
    refine Issues.run_bind (Issues.run_or_else (Issues.request trivial)) fun found => ?_
    cases found with
    | none => exact Issues.run_throw _
    | some peer => exact Issues.run_pure _
  have hinterface (i : Id InterfaceMarker) :
      Issues Sys.CreatesNone (PeerService.getInterface i).run := by
    refine Issues.run_bind (Issues.run_or_else (Issues.request trivial)) fun found => ?_
    cases found with
    | none => exact Issues.run_throw _
    | some iface => exact Issues.run_pure _
  have hupdate (row : Peer) : Issues Sys.CreatesNone (SqlitePeerRepository.update row).run :=
    Issues.run_bind (Issues.run_always (Issues.request trivial)) fun _ =>
      Issues.run_or_else (Issues.request trivial)
  refine (creates_of_issues hget w).run_then fun old w1 heval => ?_
  rcases PeerService.eval_get .none w id with ⟨peer, hread, hfound⟩ | ⟨-, e, hfound⟩
  · obtain ⟨hvalue, rfl⟩ := Prod.mk.inj (hfound.symm.trans heval)
    obtain rfl := Except.ok.inj hvalue
    refine (creates_of_issues (hupdate { peer with enabled }) w).run_then fun _ w2 heval => ?_
    rcases SqlitePeerRepository.eval_update .none w { peer with enabled } with
      ⟨db, hdb, hsaved⟩ | ⟨-, e, hfailed⟩
    · obtain ⟨-, rfl⟩ := Prod.mk.inj (hsaved.symm.trans heval)
      refine (creates_of_issues (hinterface peer.interfaceId) _).run_then fun iface w3 heval => ?_
      rcases PeerService.eval_get_interface .none { w with db } peer.interfaceId with
        ⟨found, hfind, hfound⟩ | ⟨-, e, hfound⟩
      · obtain ⟨hvalue, rfl⟩ := Prod.mk.inj (hfound.symm.trans heval)
        obtain rfl := Except.ok.inj hvalue
        have hiface : w.db.interfaces.find peer.interfaceId = some found := by
          rw [← (Db.update_peer_ok hdb).2]
          exact hfind
        refine Along.run_then ?_ fun _ _ _ => trivial
        unfold PeerService.pushPeer
        cases enabled with
        | true =>
            exact along_map.mpr (apply_peer_creates crates found _
              (hpeer peer found hread hiface rfl))
        | false =>
            exact creates_of_issues (Issues.run_ignore (remove_peer_issues (fun _ => trivial)
              (fun _ _ => trivial) found peer.publicKey)) _
      · cases hfound.symm.trans heval
    · cases hfailed.symm.trans heval
  · cases hfound.symm.trans heval

/-- A pass of the scheduler creates the entries of the peers that it enables. -/
theorem run_once_creates (crates : Crates) (w : World)
    (hpeers : ∀ peer ∈ w.db.peers.rows, ∀ iface,
      w.db.interfaces.find peer.interfaceId = some iface →
        peer.due crates w.env.now = some true → peer.enabled = false →
          created iface.name peer.publicKey.key) :
    Along (handle .none) (Sys.Creates created) (ExceptT.run (Scheduler.runOnce crates)) w := by
  obtain ⟨w', hpass⟩ := pass_enforces crates w
  have hcalls : ∀ c ∈ trace (handle .none) (Scheduler.runOnce crates) w,
      ∀ w, c.Creates created w := by
    intro c hc
    cases hkernel : c.isKernel with
    | false => cases c <;> first | exact fun _ => trivial | cases hkernel
    | true =>
        have hmem := List.mem_filter.mpr ⟨hc, hkernel⟩
        rw [hpass.kernel] at hmem
        obtain ⟨peer, hpeer, hswitch⟩ := List.mem_flatMap.mp hmem
        have hrow := mem_sorted_by.mp hpeer
        unfold switchCalls at hswitch
        split at hswitch
        · rename_i enabled iface hdue hfind
          split at hswitch
          · cases hswitch
          · rename_i hchanged
            split at hswitch
            · rename_i htrue
              subst htrue
              have hdisabled : peer.enabled = false := by simpa using hchanged
              rcases List.mem_pair.mp hswitch with rfl | rfl
              · exact fun _ => trivial
              · exact fun _ => .inl (hpeers peer hrow iface hfind hdue hdisabled)
            · rcases List.mem_pair.mp hswitch with rfl | rfl <;> exact fun _ => trivial
        · cases hswitch
  exact (along_iff_calls.mpr hcalls).mono fun c w h => h w

/-! ## Runs -/

/-- What creates entries, removes them, counts their traffic or reads the counters. -/
inductive CountedCall where
  | start (id : Id InterfaceMarker)
  | stop (id : Id InterfaceMarker)
  | setEnabled (id : Id PeerMarker) (enabled : Bool)
  | runOnce
  | pollOnce
  | traffic (sent : Meters)

/-- A step, and what the host shows during it apart from the counters. -/
structure CountedStep where
  call : CountedCall
  env : Env

/-- One step. Nothing fails. -/
def countedStep (crates : Crates) (s : Counted) (a : CountedStep) : Counted :=
  match a.call with
  | .start id => s.afterwards a.env (InterfaceService.start crates id)
  | .stop id => s.afterwards a.env (InterfaceService.stop id)
  | .setEnabled id enabled => s.afterwards a.env (PeerService.setEnabled crates id enabled)
  | .runOnce => s.afterwards a.env (Scheduler.runOnce crates)
  | .pollOnce => s.afterwards a.env Poller.pollOnce
  | .traffic sent => (s.1, fun name key => (s.2 name key).add (sent name key))

/-- The entry of the peer is the one with this key on the device of this name. -/
def Peer.IsAt (db : Db) (name : String) (key : Key) (peer : Peer) : Prop :=
  ∃ iface, db.interfaces.find peer.interfaceId = some iface ∧ iface.name = name ∧
    peer.publicKey.key = key

/-- The step creates the entry anew: it starts the interface of an enabled peer, or it enables a
peer. -/
def CountedStep.CreatesEntry (crates : Crates) (s : Counted) (a : CountedStep) (name : String)
    (key : Key) : Prop :=
  ∃ peer ∈ s.1.db.peers.rows, peer.IsAt s.1.db name key ∧
    match a.call with
    | .start id => peer.interfaceId = id ∧ peer.enabled = true
    | .setEnabled id enabled =>
        peer.id = id ∧ enabled = true ∧ s.1.devices.lists name key = false
    | .runOnce => peer.due crates a.env.now = some true ∧ peer.enabled = false
    | _ => False

/-- A step resets the counters of the entries that it creates, and of no others. -/
theorem step_counts_on (crates : Crates) (s : Counted) (a : CountedStep)
    (ha : ∀ sent, a.call ≠ .traffic sent) :
    CountsOn (a.CreatesEntry crates s) s (countedStep crates s a) := by
  rcases a with ⟨call, env⟩
  have hrun {ε α : Type} {program : Fallible Sys Sys.Reply ε α}
      (h : Along (handle .none) (Sys.Creates (CountedStep.CreatesEntry crates s ⟨call, env⟩))
        program.run (s.seen env)) :
      CountsOn (CountedStep.CreatesEntry crates s ⟨call, env⟩) s (s.afterwards env program) :=
    fun name key hlisted => CountsOn.of_along (s := (s.seen env, s.2)) h name key hlisted
  cases call with
  | start id =>
      refine hrun (start_creates crates id _ fun iface hfind peer hpeer henabled => ?_)
      obtain ⟨hrow, hinterface⟩ := mem_peers_of.mp hpeer
      exact ⟨peer, hrow, ⟨iface, hinterface ▸ hfind, rfl, rfl⟩, hinterface, henabled⟩
  | stop id => exact hrun (creates_of_issues (InterfaceService.stop_creates_none id) _)
  | setEnabled id enabled =>
      refine hrun (set_enabled_creates crates id enabled _ fun peer iface hpeer hiface htrue => ?_)
      obtain ⟨hrow, hid⟩ := Table.find_eq_some.mp hpeer
      cases hlisted : s.1.devices.lists iface.name peer.publicKey.key with
      | true => exact .inr hlisted
      | false => exact .inl ⟨peer, hrow, ⟨iface, hiface, rfl, rfl⟩, hid, htrue, hlisted⟩
  | runOnce =>
      refine hrun (run_once_creates crates _ fun peer hpeer iface hiface hdue hdisabled => ?_)
      exact ⟨peer, hpeer, ⟨iface, hiface, rfl, rfl⟩, hdue, hdisabled⟩
  | pollOnce => exact hrun (creates_of_issues poll_once_creates_none _)
  | traffic sent => exact absurd rfl (ha sent)

end Wireforge
