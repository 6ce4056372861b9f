import Wireforge.Infra.WireGuard
import Wireforge.Lib.Issues
import Wireforge.Lib.Threads

/-!
# What the WireGuard adapter does to the devices

For every choice of failing calls: when an operation takes effect, and which devices it leaves. The
last part lists the calls that the operations on peers issue.
-/

namespace Wireforge

open Effect DefguardAdapter

namespace Plan

variable (plan : Plan) (crates : Crates)

/-- The library opens for a device. -/
def opens (name : String) : Bool :=
  (plan.error (.openApi name)).isNone

/-- The device can be removed. -/
def takesDown (name : String) : Bool :=
  plan.opens name && (plan.error (.removeDevice name)).isNone

/-- The devices after an attempt to remove one. -/
def down (name : String) (devices : Devices) : Devices :=
  if plan.takesDown name then devices.remove name else devices

/-- The devices after an attempt to create one. -/
def created (name : String) (devices : Devices) : Devices :=
  if plan.opens name && (plan.error (.createDevice name)).isNone then devices.create name
  else devices

/-- The configuration can be built and the device takes it. -/
def configures (iface : Interface) (peers : List Peer) : Bool :=
  match unsealPrivate crates iface with
  | .ok key => plan.opens iface.name &&
      (plan.error (.configureDevice (configWith crates iface peers key))).isNone
  | .error _ => false

/-- The routes of the peers can be set. -/
def routes (iface : Interface) (peers : List Peer) : Bool :=
  (plan.error (.configurePeerRouting iface.name
    ((peers.filter (·.enabled)).map (Peer.wgPeer crates)))).isNone

/-- The devices after an attempt to bring an interface up. -/
def up (iface : Interface) (peers : List Peer) (devices : Devices) : Devices :=
  match unsealPrivate crates iface with
  | .ok key =>
      if plan.configures crates iface peers then
        devices.configure (configWith crates iface peers key)
      else devices
  | .error _ => devices

/-- The devices after an attempt to install a peer. -/
def installed (iface : Interface) (peer : Peer) (devices : Devices) : Devices :=
  if plan.opens iface.name &&
      (plan.error (.configurePeer iface.name (peer.wgPeer crates))).isNone then
    devices.setPeer iface.name peer.publicKey.key (some (peer.wgPeer crates))
  else devices

/-- The devices after an attempt to remove the entry of a key. -/
def uninstalled (iface : Interface) (key : WgPublicKey) (devices : Devices) : Devices :=
  if plan.opens iface.name && (plan.error (.removePeer iface.name key.key)).isNone then
    devices.setPeer iface.name key.key .none
  else devices

end Plan

variable {plan : Plan} {crates : Crates} {w : World} {iface : Interface} {peers : List Peer}

/-! ## The devices that are up -/

namespace Plan

variable {devices : Devices} {name other : String}

@[simp] theorem has_up :
    (plan.up crates iface peers devices).has other =
      (decide (other = iface.name) && plan.configures crates iface peers ||
        devices.has other) := by
  unfold Plan.up
  split
  · split <;> simp_all [configWith]
  · rename_i hkey
    simp [Plan.configures, hkey]

@[simp] theorem has_down :
    (plan.down name devices).has other =
      (!(decide (other = name) && plan.takesDown name) && devices.has other) := by
  unfold Plan.down
  by_cases h : other = name <;> split <;> simp_all

@[simp] theorem is_up_created : (plan.created name devices).isUp other = devices.isUp other := by
  unfold Plan.created
  split <;> simp

@[simp] theorem is_up_down :
    (plan.down name devices).isUp other =
      (!(decide (other = name) && plan.takesDown name) && devices.isUp other) := by
  unfold Plan.down
  by_cases h : other = name <;> split <;> simp_all

@[simp] theorem is_up_up :
    (plan.up crates iface peers devices).isUp other =
      (decide (other = iface.name) && plan.configures crates iface peers ||
        devices.isUp other) := by
  unfold Plan.up
  split
  · split <;> simp_all [configWith]
  · rename_i hkey
    simp [Plan.configures, hkey]

end Plan

namespace DefguardAdapter

theorem eval_open_api (plan : Plan) (w : World) (name : String) :
    (plan.opens name = true ∧ eval (handle plan) (openApi name) w = (.ok (), w)) ∨
    (plan.opens name = false ∧ ∃ e, eval (handle plan) (openApi name) w = (.error e, w)) := by
  simp only [openApi, eval_or_else, exec_request, handle, Plan.read, Plan.outcome, Plan.opens]
  cases plan.error (.openApi name) with
  | none => exact .inl ⟨rfl, rfl⟩
  | some e => exact .inr ⟨rfl, _, rfl⟩

/-- A call takes effect if neither opening the library nor the call itself fails; otherwise nothing
has changed. -/
theorem eval_call_api (plan : Plan) (w : World) (name : String) (rename : String → CoreError)
    (call : Sys) (change : Devices → Devices)
    (program : Program Sys Sys.Reply (Except String Unit))
    (hprogram : program.exec (handle plan) w = plan.kernel call change w) :
    ((plan.opens name && (plan.error call).isNone) = true ∧
      eval (handle plan) (callApi name rename program) w =
        (.ok (), { w with devices := change w.devices })) ∨
    ((plan.opens name && (plan.error call).isNone) = false ∧
      ∃ e, eval (handle plan) (callApi name rename program) w = (.error e, w)) := by
  rw [callApi, eval_bind]
  rcases eval_open_api plan w name with ⟨hopens, heval⟩ | ⟨hopens, e, heval⟩
  · simp only [heval, eval_or_else, hprogram, Plan.kernel, Plan.run, hopens]
    cases plan.error call with
    | none => exact .inl ⟨rfl, rfl⟩
    | some e => exact .inr ⟨rfl, _, rfl⟩
  · exact .inr ⟨by simp [hopens], e, by rw [heval]⟩

/-- The world after a call whose failure is ignored. -/
theorem call_api_after (plan : Plan) (w : World) (name : String) (rename : String → CoreError)
    (call : Sys) (change : Devices → Devices)
    (program : Program Sys Sys.Reply (Except String Unit))
    (hprogram : program.exec (handle plan) w = plan.kernel call change w) :
    (eval (handle plan) (callApi name rename program) w).2 =
      { w with
        devices := if plan.opens name && (plan.error call).isNone then change w.devices
          else w.devices } := by
  rcases eval_call_api plan w name rename call change program hprogram with
    ⟨h, heval⟩ | ⟨h, e, heval⟩ <;> simp [heval, h]

theorem eval_interface_down (plan : Plan) (w : World) (iface : Interface) :
    (plan.takesDown iface.name = true ∧ eval (handle plan) (interfaceDown iface) w =
      (.ok (), { w with devices := w.devices.remove iface.name })) ∨
    (plan.takesDown iface.name = false ∧
      ∃ e, eval (handle plan) (interfaceDown iface) w = (.error e, w)) :=
  eval_call_api plan w iface.name _ (.removeDevice iface.name) (·.remove iface.name) _ rfl

/-- The world after an attempt to take an interface down. -/
theorem interface_down_after (plan : Plan) (w : World) (iface : Interface) :
    (eval (handle plan) (interfaceDown iface) w).2 =
      { w with devices := plan.down iface.name w.devices } :=
  call_api_after plan w iface.name _ (.removeDevice iface.name) (·.remove iface.name) _ rfl

/-- The world after an attempt to create a device. -/
theorem create_interface_after (plan : Plan) (w : World) (iface : Interface) :
    (eval (handle plan) (createInterface iface) w).2 =
      { w with devices := plan.created iface.name w.devices } :=
  call_api_after plan w iface.name _ (.createDevice iface.name) (·.create iface.name) _ rfl

/-- The world after an attempt to install a peer. -/
theorem apply_peer_after (plan : Plan) (crates : Crates) (w : World) (iface : Interface)
    (peer : Peer) :
    (eval (handle plan) (applyPeer crates iface peer) w).2 =
      { w with devices := plan.installed crates iface peer w.devices } := by
  unfold applyPeer
  rw [to_wg_peer_eq, eval_bind, eval_of_except]
  exact call_api_after plan w iface.name _ (.configurePeer iface.name (peer.wgPeer crates))
    (·.setPeer iface.name peer.publicKey.key (some (peer.wgPeer crates))) _ rfl

/-- The world after an attempt to remove the entry of a key. -/
theorem remove_peer_after (plan : Plan) (w : World) (iface : Interface) (key : WgPublicKey) :
    (eval (handle plan) (removePeer iface key) w).2 =
      { w with devices := plan.uninstalled iface key w.devices } := by
  unfold removePeer decodeB64Key WgPublicKey.asStr
  rw [decode_b64_text, eval_bind, eval_of_except]
  exact call_api_after plan w iface.name _ (.removePeer iface.name key.key)
    (·.setPeer iface.name key.key .none) _ rfl

/-- Bringing an interface up: nothing happens, or the device takes the configuration and the
routes decide about the result. -/
theorem eval_interface_up (plan : Plan) (crates : Crates) (w : World) (iface : Interface)
    (peers : List Peer) :
    (plan.configures crates iface peers = false ∧
      ∃ e, eval (handle plan) (interfaceUp crates iface peers) w = (.error e, w)) ∨
    (plan.configures crates iface peers = true ∧ plan.routes crates iface peers = false ∧
      ∃ e, eval (handle plan) (interfaceUp crates iface peers) w =
        (.error e, { w with devices := plan.up crates iface peers w.devices })) ∨
    (plan.configures crates iface peers = true ∧ plan.routes crates iface peers = true ∧
      eval (handle plan) (interfaceUp crates iface peers) w =
        (.ok (), { w with devices := plan.up crates iface peers w.devices })) := by
  unfold interfaceUp Plan.up
  rw [configuration_eq, eval_bind, eval_of_except]
  cases hkey : unsealPrivate crates iface with
  | error e => exact .inl ⟨by simp [Plan.configures, hkey], e, rfl⟩
  | ok key =>
      have hconfigures : plan.configures crates iface peers = (plan.opens iface.name &&
          (plan.error (.configureDevice (configWith crates iface peers key))).isNone) := by
        simp [Plan.configures, hkey]
      simp only [Except.map, eval_bind]
      rcases eval_call_api plan w iface.name
          (fun e => .wireGuard s!"configure {iface.name}: {e}")
          (.configureDevice (configWith crates iface peers key))
          (·.configure (configWith crates iface peers key))
          (Sys.configureDevice (configWith crates iface peers key)).request rfl with
        ⟨h, heval⟩ | ⟨h, e, heval⟩
      · right
        rw [hconfigures, h, heval]
        simp only [eval_or_else, exec_request, handle, Plan.read, Plan.outcome, Plan.routes,
          configWith, if_true]
        cases plan.error (.configurePeerRouting iface.name
            ((peers.filter (·.enabled)).map (Peer.wgPeer crates))) with
        | some e => exact .inl ⟨trivial, rfl, _, rfl⟩
        | none => exact .inr ⟨trivial, rfl, rfl⟩
      · exact .inl ⟨hconfigures.trans h, e, by rw [heval]⟩

/-- The world after an attempt to bring an interface up. -/
theorem interface_up_after (plan : Plan) (crates : Crates) (w : World) (iface : Interface)
    (peers : List Peer) :
    (eval (handle plan) (interfaceUp crates iface peers) w).2 =
      { w with devices := plan.up crates iface peers w.devices } := by
  rcases eval_interface_up plan crates w iface peers with ⟨h, e, heval⟩ | ⟨_, _, e, heval⟩ |
    ⟨_, _, heval⟩
  · rw [heval, Plan.up, h]
    split <;> rfl
  · rw [heval]
  · rw [heval]

/-- Reading the counters changes nothing. -/
theorem peer_stats_after (plan : Plan) (w : World) (iface : Interface) :
    (eval (handle plan) (peerStats iface) w).2 = w := by
  unfold peerStats
  rw [eval_bind]
  rcases eval_open_api plan w iface.name with ⟨_, heval⟩ | ⟨_, e, heval⟩
  · simp only [heval, eval_bind, eval_or_else, exec_request, handle, Plan.read, Plan.outcome]
    cases plan.error (.readDevice iface.name) with
    | some e => rfl
    | none => simp [Except.mapError]
  · rw [heval]

/-- While nothing fails, the counters of all entries are read. -/
theorem eval_peer_stats (w : World) (iface : Interface) :
    eval (handle .none) (peerStats iface) w =
      (.ok ((w.env.counters iface.name).map HostPeer.stats), w) := by
  unfold peerStats openApi
  simp only [eval_bind, eval_or_else, exec_request, handle, Plan.read, Plan.outcome_none,
    Except.mapError, eval_of_except, map_to_peer_stats]

end DefguardAdapter

/-! ## The calls -/

section Calls

variable {allowed : Sys → Prop}

theorem of_except_issues {α : Type} (result : Except CoreError α) :
    Issues allowed (App.ofExcept result).run := by
  cases result <;> trivial

/-- A computation follows every protocol. -/
theorem of_except_follows {Phase α : Type} {protocol : Protocol Sys Sys.Reply Phase}
    {post : Phase → Except CoreError α → Prop} {phase : Phase} (result : Except CoreError α) :
    Follows protocol post phase (App.ofExcept result).run ↔ post phase result := by
  cases result <;> exact Iff.rfl

namespace DefguardAdapter

theorem open_api_issues {name : String} (hopen : allowed (.openApi name)) :
    Issues allowed (openApi name).run :=
  Issues.run_or_else (Issues.request hopen)

theorem apply_peer_issues (hopen : ∀ name, allowed (.openApi name))
    (hconfigure : ∀ name peer, allowed (.configurePeer name peer)) (crates : Crates)
    (iface : Interface) (peer : Peer) : Issues allowed (applyPeer crates iface peer).run :=
  Issues.run_bind (of_except_issues _) fun _ => Issues.run_bind (open_api_issues (hopen _))
    fun _ => Issues.run_or_else (Issues.request (hconfigure _ _))

theorem remove_peer_issues (hopen : ∀ name, allowed (.openApi name))
    (hremove : ∀ name key, allowed (.removePeer name key)) (iface : Interface) (key : WgPublicKey) :
    Issues allowed (removePeer iface key).run :=
  Issues.run_bind (of_except_issues _) fun _ => Issues.run_bind (open_api_issues (hopen _))
    fun _ => Issues.run_or_else (Issues.request (hremove _ _))

end DefguardAdapter

end Calls

end Wireforge
