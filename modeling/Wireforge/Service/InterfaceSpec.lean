import Wireforge.Infra.NatSpec
import Wireforge.Infra.WireGuardSpec
import Wireforge.Service.Interface

/-!
# The outcomes of the interface service

One relation per operation lists every way it can end, for every choice of failing calls: the
conditions that lead there, the result, and the world it leaves. The `_spec` theorems show that
each run of an operation ends in one of these ways.
-/

namespace Wireforge

open Effect DefguardAdapter

variable {plan : Plan} {crates : Crates} {w : World}

/-- The gateway has a valid name, and the host lists it. -/
def Plan.acceptsGateway (plan : Plan) (env : Env) (gw : String) : Bool :=
  gatewayCharsetOk gw && (plan.error .listLinks).isNone && env.links.any (·.name = gw)

/-- The gateway, if there is one, is accepted. -/
def Plan.acceptsConfigured (plan : Plan) (env : Env) : Option String → Bool
  | some gw => plan.acceptsGateway env gw
  | .none => true

/-- The tunnel can be masqueraded behind its gateway, if it has one. -/
def Plan.masquerades (plan : Plan) (env : Env) (iface : Interface) (net : NetState) : Bool :=
  match iface.gateway with
  | some gw => plan.acceptsGateway env gw && plan.applies iface gw net
  | .none => true

/-- When nothing fails, it is the gateway that decides. -/
theorem Plan.masquerades_none (env : Env) (iface : Interface) (net : NetState) :
    Plan.none.masquerades env iface net = Plan.none.acceptsConfigured env iface.gateway := by
  unfold Plan.masquerades Plan.acceptsConfigured
  cases iface.gateway with
  | none => rfl
  | some gw => simp [Plan.applies_none]

/-- The firewall after the rules for a gateway, if there is one, are removed. -/
def Plan.unmasqueraded (plan : Plan) (iface : Interface) (gateway : Option String)
    (net : NetState) : NetState :=
  match gateway with
  | some gw => plan.removed iface gw net
  | .none => net

/-- The row with another private key. -/
def Interface.withKey (crates : Crates) (iface : Interface) (key : WgPrivateKey)
    (sealed : ByteArray) : Interface :=
  { iface with privateKeySealed := sealed, publicKey := key.public crates }

/-- The row after a key change, if there is one. -/
def rekeyed (crates : Crates) (iface : Interface) (newPrivate : String) :
    Except CoreError Interface :=
  if !newPrivate.isEmpty && newPrivate ≠ crates.unsealText iface.privateKeySealed then
    match WgPrivateKey.fromBase64 newPrivate with
    | .error e => .error e
    | .ok key => (crates.seal key.asStr.toUTF8).map (iface.withKey crates key)
  else .ok iface

/-- A key change touches the keys only, and the new private key is sealed. -/
theorem rekeyed_ok {iface iface' : Interface} {newPrivate : String}
    (h : rekeyed crates iface newPrivate = .ok iface') :
    iface' = iface ∨ ∃ key sealed, crates.seal key.asStr.toUTF8 = .ok sealed ∧
      iface' = iface.withKey crates key sealed := by
  unfold rekeyed at h
  split at h
  · split at h
    · cases h
    · rename_i key _
      cases hsealed : crates.seal key.asStr.toUTF8 with
      | error e =>
          rw [hsealed] at h
          cases h
      | ok sealed =>
          rw [hsealed] at h
          cases h
          exact .inr ⟨key, sealed, hsealed, rfl⟩
  · cases h
    exact .inl rfl

/-- A private key that was sealed is recovered. -/
theorem unseal_private_ok (hcrates : crates.SealsBack) {iface : Interface} {key : WgPrivateKey}
    (h : crates.seal key.asStr.toUTF8 = .ok iface.privateKeySealed) :
    unsealPrivate crates iface = .ok key := by
  simp only [unsealPrivate, Crates.unseal_seal hcrates h, Bind.bind, Except.bind,
    Text.from_utf8_to_utf8, WgPrivateKey.from_base64_as_str]

namespace InterfaceService

/-! ## The parts -/

theorem eval_get (plan : Plan) (w : World) (id : Id InterfaceMarker) :
    (∃ iface, plan.readInterface w.db id = some iface ∧
      eval (handle plan) (get id) w = (.ok iface, w)) ∨
    (plan.readInterface w.db id = none ∧
      ∃ e, eval (handle plan) (get id) w = (.error e, w)) := by
  rw [get, eval_bind, SqliteInterfaceRepository.eval_find_by_id, Plan.readInterface, Plan.outcome]
  cases plan.error (.findInterface id) with
  | some e => exact .inr ⟨rfl, _, rfl⟩
  | none =>
      cases w.db.interfaces.find id with
      | none => exact .inr ⟨rfl, _, rfl⟩
      | some iface => exact .inl ⟨iface, rfl, rfl⟩

theorem eval_validate_gateway (plan : Plan) (w : World) (gw : String) :
    (plan.acceptsGateway w.env gw = true ∧
      eval (handle plan) (validateGateway gw) w = (.ok (), w)) ∨
    (plan.acceptsGateway w.env gw = false ∧
      ∃ e, eval (handle plan) (validateGateway gw) w = (.error e, w)) := by
  unfold validateGateway GetifaddrsAdapter.list Plan.acceptsGateway
  cases hcharset : gatewayCharsetOk gw with
  | false => exact .inr ⟨rfl, _, rfl⟩
  | true =>
      simp only [Bool.not_true, Bool.false_eq_true, if_false, eval_bind, eval_or_else,
        exec_request, handle, Plan.read, Plan.outcome]
      cases plan.error .listLinks with
      | some e => exact .inr ⟨rfl, _, rfl⟩
      | none =>
          cases hlinks : w.env.links.any (·.name = gw) with
          | false => exact .inr ⟨by simp, _, by simp [Except.mapError, hlinks]; rfl⟩
          | true => exact .inl ⟨by simp, by simp [Except.mapError, hlinks]⟩

theorem eval_validate_configured (plan : Plan) (w : World) (gateway : Option String) :
    (plan.acceptsConfigured w.env gateway = true ∧
      eval (handle plan) (validateConfigured gateway) w = (.ok (), w)) ∨
    (plan.acceptsConfigured w.env gateway = false ∧
      ∃ e, eval (handle plan) (validateConfigured gateway) w = (.error e, w)) := by
  cases gateway with
  | none => exact .inl ⟨rfl, rfl⟩
  | some gw => exact eval_validate_gateway plan w gw

/-- A line of a hook script has no effect but the process it spawns. -/
theorem eval_run_line (plan : Plan) (w : World) (line : String) :
    ∃ spawned, eval (handle plan) (IptablesNatAdapter.runLine line) w =
      (.ok (), { w with spawned }) := by
  simp only [IptablesNatAdapter.runLine, eval_ite]
  split
  · exact ⟨w.spawned, rfl⟩
  · split
    · exact ⟨w.spawned, rfl⟩
    · rename_i cmd args _
      simp only [eval_ignore, eval_or_else, exec_request, handle, Plan.run]
      cases plan.error (.spawn cmd args) with
      | some e => exact ⟨w.spawned, rfl⟩
      | none => exact ⟨_, rfl⟩

/-- A hook script has no effect but the processes it spawns. -/
theorem eval_run_configured_hook (plan : Plan) (w : World) (script : Option String) :
    ∃ spawned, eval (handle plan) (runConfiguredHook script) w =
      (.ok (), { w with spawned }) := by
  cases script with
  | none => exact ⟨w.spawned, rfl⟩
  | some script =>
      rw [runConfiguredHook, eval_ignore, IptablesNatAdapter.runHook, eval_ite]
      split
      · exact ⟨w.spawned, rfl⟩
      · generalize Text.lines script = lines
        have hloop : ∃ spawned,
            (eval (handle plan) (forEach IptablesNatAdapter.runLine lines) w).2 =
              { w with spawned } := by
          induction lines generalizing w with
          | nil => exact ⟨w.spawned, rfl⟩
          | cons line rest ih =>
              obtain ⟨spawned, hline⟩ := eval_run_line plan w line
              obtain ⟨spawned', hrest⟩ := ih { w with spawned }
              exact ⟨spawned', by rw [eval_for_each_cons, hline]; exact hrest⟩
        obtain ⟨spawned, hloop⟩ := hloop
        exact ⟨spawned, by rw [hloop]⟩

@[simp] theorem eval_remove_configured (iface : Interface) (gateway : Option String) :
    eval (handle plan) (removeConfigured iface gateway) w =
      (.ok (), { w with net := plan.unmasqueraded iface gateway w.net }) := by
  cases gateway with
  | none => rfl
  | some gw =>
      rw [removeConfigured, eval_ignore, IptablesNatAdapter.eval_remove]
      rfl

theorem eval_rekey (plan : Plan) (w : World) (iface : Interface) (newPrivate : String) :
    eval (handle plan) (rekey crates iface newPrivate) w =
      (rekeyed crates iface newPrivate, w) := by
  unfold rekey rekeyed Crates.sealKeyText
  split
  · simp only [eval_bind, eval_of_except, eval_derive_public_key, eval_pure]
    cases WgPrivateKey.fromBase64 newPrivate with
    | error e => rfl
    | ok key =>
        simp only
        cases crates.seal key.asStr.toUTF8 <;> rfl
  · rfl

theorem eval_list_for_interface (plan : Plan) (w : World) (id : Id InterfaceMarker) :
    (plan.listsPeers id = true ∧ eval (handle plan)
      (SqlitePeerRepository.listForInterface id) w = (.ok (w.db.peersOf id), w)) ∨
    (plan.listsPeers id = false ∧ ∃ e, eval (handle plan)
      (SqlitePeerRepository.listForInterface id) w = (.error e, w)) := by
  rw [SqlitePeerRepository.eval_list_for_interface, Plan.listsPeers, Plan.outcome]
  cases plan.error (.listPeersOf id) with
  | none => exact .inl ⟨rfl, rfl⟩
  | some e => exact .inr ⟨rfl, _, rfl⟩

/-! ## Start -/

/-- How masquerading a tunnel ends, in the world in which the tunnel has come up. -/
inductive Masqueraded (plan : Plan) (iface : Interface) (w : World) :
    Except CoreError Unit → World → Prop where
  | ungated : iface.gateway = none → Masqueraded plan iface w (.ok ()) w
  | rejected (gw : String) (e : CoreError) : iface.gateway = some gw →
      plan.acceptsGateway w.env gw = false →
      Masqueraded plan iface w (.error e)
        { w with devices := plan.down iface.name w.devices }
  | failed (gw : String) (e : CoreError) (net : NetState) : iface.gateway = some gw →
      plan.acceptsGateway w.env gw = true → Applied plan iface gw w.net (.error e) net →
      Masqueraded plan iface w (.error e)
        { w with net, devices := plan.down iface.name w.devices }
  | applied (gw : String) (net : NetState) : iface.gateway = some gw →
      plan.acceptsGateway w.env gw = true → Applied plan iface gw w.net (.ok ()) net →
      Masqueraded plan iface w (.ok ()) { w with net }

theorem masquerade_spec (plan : Plan) (w : World) (iface : Interface) :
    ∃ result w', eval (handle plan) (masquerade iface) w = (result, w') ∧
      Masqueraded plan iface w result w' := by
  unfold masquerade
  cases hgateway : iface.gateway with
  | none => exact ⟨.ok (), w, rfl, .ungated hgateway⟩
  | some gw =>
      simp only [eval_bind, eval_attempt]
      rcases eval_validate_gateway plan w gw with ⟨haccepts, heval⟩ | ⟨haccepts, e, heval⟩
      · obtain ⟨result, net, happly, happlied⟩ :=
          IptablesNatAdapter.apply_spec plan w iface gw
        cases result with
        | ok value =>
            exact ⟨.ok (), _, by simp only [heval, happly, eval_pure],
              .applied gw net hgateway haccepts happlied⟩
        | error e =>
            refine ⟨.error e, _, ?_, .failed gw e net hgateway haccepts happlied⟩
            simp only [heval, happly, eval_bind, eval_ignore, interface_down_after, eval_throw]
      · refine ⟨.error e, _, ?_, .rejected gw e hgateway haccepts⟩
        simp only [heval, eval_bind, eval_ignore, interface_down_after, eval_throw]

theorem Masqueraded.ok_iff {iface : Interface} {result : Except CoreError Unit} {w' : World}
    (h : Masqueraded plan iface w result w') :
    result = .ok () ↔ plan.masquerades w.env iface w.net = true := by
  unfold Plan.masquerades
  cases h with
  | ungated hgateway => simp [hgateway]
  | rejected gw e hgateway haccepts => simp [hgateway, haccepts]
  | failed gw e net hgateway haccepts happlied =>
      simpa [hgateway, haccepts] using happlied.ok_iff
  | applied gw net hgateway haccepts happlied =>
      simpa [hgateway, haccepts] using happlied.ok_iff

/-- The service has read the row and its peers, and the device takes the configuration. -/
structure Configured (plan : Plan) (crates : Crates) (w : World) (id : Id InterfaceMarker)
    (iface : Interface) : Prop where
  read : plan.readInterface w.db id = some iface
  lists : plan.listsPeers iface.id = true
  configures : plan.configures crates iface (w.db.peersOf iface.id) = true

/-- How `start` ends. -/
inductive Started (plan : Plan) (crates : Crates) (w : World) (id : Id InterfaceMarker) :
    Except CoreError Interface → World → Prop where
  | unconfigured (e : CoreError) : (∀ iface, ¬ Configured plan crates w id iface) →
      Started plan crates w id (.error e) w
  | unrouted (e : CoreError) (iface : Interface) : Configured plan crates w id iface →
      plan.routes crates iface (w.db.peersOf iface.id) = false →
      Started plan crates w id (.error e)
        { w with devices := plan.up crates iface (w.db.peersOf iface.id) w.devices }
  | unmasqueraded (e : CoreError) (iface : Interface) (spawned : List (List String))
      (w' : World) : Configured plan crates w id iface →
      plan.routes crates iface (w.db.peersOf iface.id) = true →
      Masqueraded plan iface { w with
        devices := plan.up crates iface (w.db.peersOf iface.id) w.devices
        spawned } (.error e) w' →
      Started plan crates w id (.error e) w'
  | unsaved (e : CoreError) (iface : Interface) (spawned : List (List String)) (w' : World) :
      Configured plan crates w id iface →
      plan.routes crates iface (w.db.peersOf iface.id) = true →
      Masqueraded plan iface { w with
        devices := plan.up crates iface (w.db.peersOf iface.id) w.devices
        spawned } (.ok ()) w' →
      plan.savesInterface (iface.withStatus .up) w.env.now = false →
      Started plan crates w id (.error e) w'
  | saved (iface : Interface) (spawned : List (List String)) (w' : World) :
      Configured plan crates w id iface →
      plan.routes crates iface (w.db.peersOf iface.id) = true →
      Masqueraded plan iface { w with
        devices := plan.up crates iface (w.db.peersOf iface.id) w.devices
        spawned } (.ok ()) w' →
      plan.savesInterface (iface.withStatus .up) w.env.now = true →
      Started plan crates w id (.ok (iface.withStatus .up))
        { w' with db := w.db.updateInterface (iface.withStatus .up) w.env.now }

/-- Masquerading touches neither the database nor what the host shows. -/
theorem Masqueraded.frame {iface : Interface} {result : Except CoreError Unit} {w' : World}
    (h : Masqueraded plan iface w result w') : w'.db = w.db ∧ w'.env = w.env := by
  cases h <;> exact ⟨rfl, rfl⟩

theorem start_spec (plan : Plan) (crates : Crates) (w : World) (id : Id InterfaceMarker) :
    ∃ result w', eval (handle plan) (start crates id) w = (result, w') ∧
      Started plan crates w id result w' := by
  unfold start
  rw [eval_bind]
  rcases eval_get plan w id with ⟨iface, hread, hget⟩ | ⟨hread, e, hget⟩
  · rw [hget]
    simp only [eval_bind]
    rcases eval_list_for_interface plan w iface.id with ⟨hlists, hlist⟩ | ⟨hlists, e, hlist⟩
    · rw [hlist]
      simp only
      rcases eval_interface_up plan crates w iface (w.db.peersOf iface.id) with
        ⟨hconf, e, hup⟩ | ⟨hconf, hroutes, e, hup⟩ | ⟨hconf, hroutes, hup⟩
      · rw [hup]
        refine ⟨_, _, rfl, .unconfigured e fun iface' h => ?_⟩
        obtain rfl : iface = iface' := Option.some.inj (hread.symm.trans h.read)
        exact Bool.false_ne_true (hconf.symm.trans h.configures)
      · rw [hup]
        exact ⟨_, _, rfl, .unrouted e iface ⟨hread, hlists, hconf⟩ hroutes⟩
      · rw [hup]
        simp only
        obtain ⟨spawned, hhook⟩ := eval_run_configured_hook plan
          { w with devices := plan.up crates iface (w.db.peersOf iface.id) w.devices } iface.onUp
        rw [hhook]
        simp only
        obtain ⟨result, w', hmasq, hmasqueraded⟩ := masquerade_spec plan
          { w with devices := plan.up crates iface (w.db.peersOf iface.id) w.devices
                   spawned := spawned } iface
        rw [hmasq]
        cases result with
        | error e =>
            exact ⟨_, _, rfl, .unmasqueraded e iface spawned w' ⟨hread, hlists, hconf⟩ hroutes
              hmasqueraded⟩
        | ok value =>
            obtain ⟨db', devices', net', spawned', env'⟩ := w'
            obtain ⟨rfl, rfl⟩ : db' = w.db ∧ env' = w.env := hmasqueraded.frame
            simp only
            rcases SqliteInterfaceRepository.eval_update plan
                ⟨w.db, devices', net', spawned', w.env⟩ (iface.withStatus .up) with
              ⟨hsaves, hupdate⟩ | ⟨hsaves, e, hupdate⟩
            · exact ⟨_, _, by rw [hupdate]; rfl,
                .saved iface spawned _ ⟨hread, hlists, hconf⟩ hroutes hmasqueraded hsaves⟩
            · exact ⟨_, _, by rw [hupdate],
                .unsaved e iface spawned _ ⟨hread, hlists, hconf⟩ hroutes hmasqueraded hsaves⟩
    · rw [hlist]
      refine ⟨_, _, rfl, .unconfigured e fun iface' h => ?_⟩
      obtain rfl : iface = iface' := Option.some.inj (hread.symm.trans h.read)
      exact Bool.false_ne_true (hlists.symm.trans h.lists)
  · rw [hget]
    refine ⟨_, _, rfl, .unconfigured e fun iface' h => ?_⟩
    cases hread.symm.trans h.read

/-! ## Stop -/

/-- How `stop` ends. -/
inductive Stopped (plan : Plan) (w : World) (id : Id InterfaceMarker) :
    Except CoreError Interface → World → Prop where
  | absent (e : CoreError) : plan.readInterface w.db id = none → Stopped plan w id (.error e) w
  | refused (e : CoreError) (iface : Interface) (spawned : List (List String)) :
      plan.readInterface w.db id = some iface → plan.takesDown iface.name = false →
      Stopped plan w id (.error e)
        { w with net := plan.unmasqueraded iface iface.gateway w.net, spawned }
  | unsaved (e : CoreError) (iface : Interface) (spawned : List (List String)) :
      plan.readInterface w.db id = some iface → plan.takesDown iface.name = true →
      plan.savesInterface (iface.withStatus .down) w.env.now = false →
      Stopped plan w id (.error e)
        { w with
          net := plan.unmasqueraded iface iface.gateway w.net
          spawned
          devices := w.devices.remove iface.name }
  | saved (iface : Interface) (spawned : List (List String)) :
      plan.readInterface w.db id = some iface → plan.takesDown iface.name = true →
      plan.savesInterface (iface.withStatus .down) w.env.now = true →
      Stopped plan w id (.ok (iface.withStatus .down))
        { w with
          net := plan.unmasqueraded iface iface.gateway w.net
          spawned
          devices := w.devices.remove iface.name
          db := w.db.updateInterface (iface.withStatus .down) w.env.now }

theorem stop_spec (plan : Plan) (w : World) (id : Id InterfaceMarker) :
    ∃ result w', eval (handle plan) (stop id) w = (result, w') ∧ Stopped plan w id result w' := by
  unfold stop
  rw [eval_bind]
  rcases eval_get plan w id with ⟨iface, hread, hget⟩ | ⟨hread, e, hget⟩
  · rw [hget]
    simp only [eval_bind, eval_remove_configured]
    obtain ⟨spawned, hhook⟩ := eval_run_configured_hook plan
      { w with net := plan.unmasqueraded iface iface.gateway w.net } iface.onDown
    rw [hhook]
    simp only
    rcases eval_interface_down plan
        { w with net := plan.unmasqueraded iface iface.gateway w.net, spawned := spawned } iface
      with ⟨hdown, heval⟩ | ⟨hdown, e, heval⟩
    · rw [heval]
      simp only
      rcases SqliteInterfaceRepository.eval_update plan
          { w with net := plan.unmasqueraded iface iface.gateway w.net, spawned := spawned
                   devices := w.devices.remove iface.name } (iface.withStatus .down) with
        ⟨hsaves, hupdate⟩ | ⟨hsaves, e, hupdate⟩
      · exact ⟨_, _, by rw [hupdate]; rfl, .saved iface spawned hread hdown hsaves⟩
      · exact ⟨_, _, by rw [hupdate], .unsaved e iface spawned hread hdown hsaves⟩
    · rw [heval]
      exact ⟨_, _, rfl, .refused e iface spawned hread hdown⟩
  · rw [hget]
    exact ⟨_, _, rfl, .absent e hread⟩

/-! ## Update -/

/-- An edit is accepted: the row is there, the new gateway is accepted, the keys are resolved and
the row can be written. -/
structure Accepted (plan : Plan) (crates : Crates) (w : World) (id : Id InterfaceMarker)
    (input : UpdateInterfaceInput) (old iface : Interface) : Prop where
  read : plan.readInterface w.db id = some old
  gateway : plan.acceptsConfigured w.env input.gateway = true
  keys : rekeyed crates (input.edit old) (Text.trim input.privateKey) = .ok iface
  saves : plan.savesInterface iface w.env.now = true

/-- An edit keeps the identity and the status of the row and sets what was asked for. -/
theorem Accepted.row {id : Id InterfaceMarker} {input : UpdateInterfaceInput}
    {old iface : Interface} (h : Accepted plan crates w id input old iface) :
    iface.id = old.id ∧ iface.name = old.name ∧ iface.status = old.status ∧
      iface.gateway = input.gateway ∧ iface.ipv6Cidr = input.ipv6Cidr := by
  rcases rekeyed_ok h.keys with rfl | ⟨key, sealed, _, rfl⟩ <;> exact ⟨rfl, rfl, rfl, rfl, rfl⟩

/-- How the rules change when a running interface is configured anew. -/
inductive Remasqueraded (plan : Plan) (iface : Interface) (oldGateway : Option String)
    (net : NetState) : NetState → Prop where
  | ungated : iface.gateway = none →
      Remasqueraded plan iface oldGateway net (plan.unmasqueraded iface oldGateway net)
  | applied (gw : String) (result : Except CoreError Unit) (net' : NetState) :
      iface.gateway = some gw →
      Applied plan iface gw (plan.unmasqueraded iface oldGateway net) result net' →
      Remasqueraded plan iface oldGateway net net'

theorem eval_reapply (plan : Plan) (crates : Crates) (w : World) (iface : Interface)
    (oldGateway : Option String) :
    (plan.listsPeers iface.id = true ∧ ∃ net, Remasqueraded plan iface oldGateway w.net net ∧
      eval (handle plan) (reapply crates iface oldGateway) w =
        (.ok (), { w with
          devices := plan.up crates iface (w.db.peersOf iface.id) w.devices
          net })) ∨
    (plan.listsPeers iface.id = false ∧
      ∃ e, eval (handle plan) (reapply crates iface oldGateway) w = (.error e, w)) := by
  unfold reapply
  rw [eval_bind]
  rcases eval_list_for_interface plan w iface.id with ⟨hlists, hlist⟩ | ⟨hlists, e, hlist⟩
  · left
    refine ⟨hlists, ?_⟩
    rw [hlist]
    simp only [eval_bind, eval_ignore, interface_up_after, eval_remove_configured]
    cases hgateway : iface.gateway with
    | none => exact ⟨_, .ungated hgateway, rfl⟩
    | some gw =>
        obtain ⟨result, net, happly, happlied⟩ := IptablesNatAdapter.apply_spec plan
          { w with
            devices := plan.up crates iface (w.db.peersOf iface.id) w.devices
            net := plan.unmasqueraded iface oldGateway w.net } iface gw
        refine ⟨net, .applied gw result net hgateway happlied, ?_⟩
        simp only [applyConfigured, eval_ignore, happly]
  · exact .inr ⟨hlists, e, by rw [hlist]⟩

/-- How `update` ends. -/
inductive Updated (plan : Plan) (crates : Crates) (w : World) (id : Id InterfaceMarker)
    (input : UpdateInterfaceInput) : Except CoreError Interface → World → Prop where
  | rejected (e : CoreError) : (∀ old iface, ¬ Accepted plan crates w id input old iface) →
      Updated plan crates w id input (.error e) w
  | idle (old iface : Interface) : Accepted plan crates w id input old iface →
      old.status ≠ .up →
      Updated plan crates w id input (.ok iface)
        { w with db := w.db.updateInterface iface w.env.now }
  | unlisted (e : CoreError) (old iface : Interface) :
      Accepted plan crates w id input old iface → old.status = .up →
      plan.listsPeers old.id = false →
      Updated plan crates w id input (.error e)
        { w with db := w.db.updateInterface iface w.env.now }
  | reapplied (old iface : Interface) (net : NetState) :
      Accepted plan crates w id input old iface → old.status = .up →
      plan.listsPeers old.id = true →
      Remasqueraded plan iface old.gateway w.net net →
      Updated plan crates w id input (.ok iface)
        { w with
          db := w.db.updateInterface iface w.env.now
          devices := plan.up crates iface (w.db.peersOf old.id) w.devices
          net }

theorem update_spec (plan : Plan) (crates : Crates) (w : World) (id : Id InterfaceMarker)
    (input : UpdateInterfaceInput) :
    ∃ result w', eval (handle plan) (update crates id input) w = (result, w') ∧
      Updated plan crates w id input result w' := by
  unfold update
  rw [eval_bind]
  rcases eval_get plan w id with ⟨old, hread, hget⟩ | ⟨hread, e, hget⟩
  · rw [hget]
    simp only [eval_bind]
    have hother : ∀ {old' iface}, Accepted plan crates w id input old' iface → old' = old :=
      fun h => Option.some.inj (h.read.symm.trans hread)
    rcases eval_validate_configured plan w input.gateway with ⟨hgw, heval⟩ | ⟨hgw, e, heval⟩
    · rw [heval]
      simp only [eval_rekey]
      cases hkeys : rekeyed crates (input.edit old) (Text.trim input.privateKey) with
      | error e =>
          refine ⟨_, _, rfl, .rejected e fun old' iface h => ?_⟩
          have := h.keys
          rw [hother h, hkeys] at this
          cases this
      | ok iface =>
          simp only
          rcases SqliteInterfaceRepository.eval_update plan w iface with
            ⟨hsaves, hupdate⟩ | ⟨hsaves, e, hupdate⟩
          · have haccepted : Accepted plan crates w id input old iface :=
              ⟨hread, hgw, hkeys, hsaves⟩
            obtain ⟨hid, -, hstatus, -, -⟩ := haccepted.row
            rw [hupdate]
            simp only [eval_ite]
            by_cases hup : iface.status = .up
            · rw [if_pos hup, eval_bind]
              rcases eval_reapply plan crates
                  { w with db := w.db.updateInterface iface w.env.now } iface old.gateway with
                ⟨hlists, net, hnet, hreapply⟩ | ⟨hlists, e, hreapply⟩
              · rw [hreapply]
                rw [hid] at hlists ⊢
                exact ⟨_, _, rfl, .reapplied old iface net haccepted (hstatus ▸ hup) hlists hnet⟩
              · rw [hreapply]
                rw [hid] at hlists
                exact ⟨_, _, rfl, .unlisted e old iface haccepted (hstatus ▸ hup) hlists⟩
            · rw [if_neg hup]
              exact ⟨_, _, rfl, .idle old iface haccepted (hstatus ▸ hup)⟩
          · rw [hupdate]
            refine ⟨_, _, rfl, .rejected e fun old' iface' h => ?_⟩
            have := h.keys
            rw [hother h, hkeys] at this
            cases this
            exact Bool.false_ne_true (hsaves.symm.trans h.saves)
    · rw [heval]
      exact ⟨_, _, rfl, .rejected e fun old' iface h =>
        Bool.false_ne_true (hgw.symm.trans h.gateway)⟩
  · rw [hget]
    refine ⟨_, _, rfl, .rejected e fun old' iface h => ?_⟩
    cases hread.symm.trans h.read

/-- An accepted edit whose peers can be listed succeeds, and the row is written. -/
theorem update_accepted {id : Id InterfaceMarker} {input : UpdateInterfaceInput}
    {old iface : Interface} (h : Accepted plan crates w id input old iface)
    (hlists : plan.listsPeers old.id = true) :
    ∃ w', eval (handle plan) (update crates id input) w = (.ok iface, w') ∧
      w'.db = w.db.updateInterface iface w.env.now := by
  obtain ⟨result, w', heval, hend⟩ := update_spec plan crates w id input
  have hsame : ∀ {old' iface'}, Accepted plan crates w id input old' iface' →
      old' = old ∧ iface' = iface := by
    intro old' iface' h'
    obtain rfl : old = old' := Option.some.inj (h.read.symm.trans h'.read)
    exact ⟨rfl, Except.ok.inj (h'.keys.symm.trans h.keys)⟩
  cases hend with
  | rejected e hnone => exact absurd h (hnone old iface)
  | idle old' iface' h' hdown =>
      obtain ⟨rfl, rfl⟩ := hsame h'
      exact ⟨_, heval, rfl⟩
  | unlisted e old' iface' h' hup hfails =>
      obtain ⟨rfl, rfl⟩ := hsame h'
      rw [hlists] at hfails
      cases hfails
  | reapplied old' iface' net h' hup hlists' hnet =>
      obtain ⟨rfl, rfl⟩ := hsame h'
      exact ⟨_, heval, rfl⟩

/-! ## Delete -/

/-- How `delete` ends. -/
inductive Deleted (plan : Plan) (w : World) (id : Id InterfaceMarker) :
    Except CoreError Unit → World → Prop where
  | absent (e : CoreError) : plan.readInterface w.db id = none → Deleted plan w id (.error e) w
  | kept (e : CoreError) (iface : Interface) : plan.readInterface w.db id = some iface →
      plan.deletesInterface id = false →
      Deleted plan w id (.error e)
        { w with
          net := plan.unmasqueraded iface iface.gateway w.net
          devices := plan.down iface.name (plan.down iface.name w.devices) }
  | deleted (iface : Interface) : plan.readInterface w.db id = some iface →
      plan.deletesInterface id = true →
      Deleted plan w id (.ok ())
        { w with
          net := plan.unmasqueraded iface iface.gateway w.net
          devices := plan.down iface.name (plan.down iface.name w.devices)
          db := w.db.deleteInterface id }

theorem delete_spec (plan : Plan) (w : World) (id : Id InterfaceMarker) :
    ∃ result w', eval (handle plan) (delete id) w = (result, w') ∧
      Deleted plan w id result w' := by
  unfold delete
  rw [eval_bind]
  rcases eval_get plan w id with ⟨iface, hread, hget⟩ | ⟨hread, e, hget⟩
  · rw [hget]
    simp only [eval_bind, eval_remove_configured, eval_ignore, interface_down_after,
      deleteInterface]
    rcases SqliteInterfaceRepository.eval_delete plan
        { w with
          net := plan.unmasqueraded iface iface.gateway w.net
          devices := plan.down iface.name (plan.down iface.name w.devices) } id with
      ⟨hdeletes, hdelete⟩ | ⟨hdeletes, e, hdelete⟩
    · exact ⟨_, _, hdelete, .deleted iface hread hdeletes⟩
    · exact ⟨_, _, hdelete, .kept e iface hread hdeletes⟩
  · rw [hget]
    exact ⟨_, _, rfl, .absent e hread⟩

/-! ## Create -/

/-- How `create` ends: nothing happens, or a row that is down is added and its device is tried to
be created. -/
inductive Created (plan : Plan) (crates : Crates) (w : World) (input : CreateInterfaceInput) :
    Except CoreError Interface → World → Prop where
  | rejected (e : CoreError) : Created plan crates w input (.error e) w
  | created (row : Interface) (db : Db) (key : WgPrivateKey) :
      row.name = input.name → row.gateway = input.gateway → row.status = .down →
      row.id = ⟨w.env.uuid⟩ → crates.seal key.asStr.toUTF8 = .ok row.privateKeySealed →
      row.publicKey = key.public crates →
      plan.acceptsConfigured w.env row.gateway = true → w.db.insertInterface row = .ok db →
      Created plan crates w input (.ok row)
        { w with db, devices := plan.created row.name w.devices }

theorem eval_keypair (plan : Plan) (crates : Crates) (w : World) (supplied : String) :
    (∃ key, eval (handle plan) (keypair crates supplied) w =
      (.ok (key, key.public crates), w)) ∨
    ∃ e, eval (handle plan) (keypair crates supplied) w = (.error e, w) := by
  unfold keypair
  rw [eval_ite]
  split
  · exact .inl ⟨_, eval_generate_keypair crates⟩
  · rw [eval_bind, eval_of_except]
    cases WgPrivateKey.fromBase64 supplied with
    | error e => exact .inr ⟨e, rfl⟩
    | ok key =>
        simp only [eval_bind, eval_derive_public_key]
        exact .inl ⟨_, rfl⟩

theorem create_spec (plan : Plan) (crates : Crates) (w : World) (input : CreateInterfaceInput) :
    ∃ result w', eval (handle plan) (create crates input) w = (result, w') ∧
      Created plan crates w input result w' := by
  unfold create
  rw [eval_bind, eval_of_except]
  cases validateIfaceName input.name with
  | error e => exact ⟨_, _, rfl, .rejected e⟩
  | ok value =>
      simp only [eval_bind]
      rcases eval_validate_configured plan w input.gateway with ⟨hgw, heval⟩ | ⟨hgw, e, heval⟩
      · rw [heval]
        simp only [SqliteInterfaceRepository.eval_find_by_name]
        cases hfind : (plan.outcome (.findInterfaceByName input.name)
            (w.db.findInterfaceByName input.name)).mapError mapErr with
        | error e => exact ⟨_, _, rfl, .rejected e⟩
        | ok found =>
            simp only [eval_ite]
            cases found with
            | some iface => exact ⟨_, _, rfl, .rejected _⟩
            | none =>
                simp only [Option.isSome_none, Bool.false_eq_true, if_false, eval_bind]
                rcases eval_keypair plan crates w (Text.trim input.privateKey) with
                  ⟨privateKey, hkeys⟩ | ⟨e, hkeys⟩
                · rw [hkeys]
                  simp only [Crates.sealKeyText, eval_of_except]
                  cases hsealed : crates.seal privateKey.asStr.toUTF8 with
                  | error e => exact ⟨_, _, rfl, .rejected e⟩
                  | ok sealed =>
                      simp only
                      rcases SqliteInterfaceRepository.eval_create plan w
                          (newInterface input privateKey (privateKey.public crates)) sealed with
                        ⟨db, hdb, hcreate⟩ | ⟨e, hcreate⟩
                      · rw [hcreate]
                        simp only [eval_ignore, create_interface_after]
                        exact ⟨_, _, rfl,
                          .created _ db privateKey rfl rfl rfl rfl hsealed rfl hgw hdb⟩
                      · rw [hcreate]
                        exact ⟨_, _, rfl, .rejected e⟩
                · rw [hkeys]
                  exact ⟨_, _, rfl, .rejected e⟩
      · rw [heval]
        exact ⟨_, _, rfl, .rejected e⟩

/-- A new row has the fields of the request. -/
theorem create_row {plan : Plan} {crates : Crates} {w w' : World} {input : CreateInterfaceInput}
    {row : Interface} (h : eval (handle plan) (create crates input) w = (.ok row, w')) :
    ∃ id now privateKey publicKey sealed, row =
      SqliteInterfaceRepository.newRow id now (newInterface input privateKey publicKey) sealed := by
  obtain ⟨_, w1, -, h⟩ := eval_bind_ok.mp h
  obtain ⟨_, w2, -, h⟩ := eval_bind_ok.mp h
  obtain ⟨found, w3, -, h⟩ := eval_bind_ok.mp h
  cases found with
  | some iface => cases h
  | none =>
      obtain ⟨⟨privateKey, publicKey⟩, w4, -, h⟩ := eval_bind_ok.mp h
      obtain ⟨sealed, w5, -, h⟩ := eval_bind_ok.mp h
      obtain ⟨iface, w6, hcreate, h⟩ := eval_bind_ok.mp h
      obtain ⟨_, w7, -, h⟩ := eval_bind_ok.mp h
      obtain rfl : iface = row := Except.ok.inj (congrArg Prod.fst h)
      rcases SqliteInterfaceRepository.eval_create plan w5
          (newInterface input privateKey publicKey) sealed with
        ⟨db, -, heval⟩ | ⟨e, heval⟩
      · obtain rfl := Except.ok.inj (congrArg Prod.fst (hcreate.symm.trans heval))
        exact ⟨_, _, _, _, _, rfl⟩
      · cases hcreate.symm.trans heval

end InterfaceService

end Wireforge
