import Wireforge.Lib.Runs
import Wireforge.Service.InterfaceSpec

/-!
# Runs of the interface service

A run is a sequence of operations of the interface service, each with its own choice of failing
calls and with what the host shows while it takes place.
-/

namespace Wireforge

open Effect

/-- The operations of the interface service. -/
inductive InterfaceCall where
  | create (input : CreateInterfaceInput)
  | start (id : Id InterfaceMarker)
  | stop (id : Id InterfaceMarker)
  | update (id : Id InterfaceMarker) (input : UpdateInterfaceInput)
  | delete (id : Id InterfaceMarker)

/-- The program of an operation, without the row it returns. -/
def InterfaceCall.program (crates : Crates) : InterfaceCall → App Unit
  | .create input => do
      let _ ← InterfaceService.create crates input
  | .start id => do
      let _ ← InterfaceService.start crates id
  | .stop id => do
      let _ ← InterfaceService.stop id
  | .update id input => do
      let _ ← InterfaceService.update crates id input
  | .delete id => InterfaceService.delete id

/-- An operation, the failures that happen during it, and what the host shows. -/
structure InterfaceStep where
  call : InterfaceCall
  plan : Plan
  env : Env

/-- The world in which an operation starts. -/
def World.seen (w : World) (env : Env) : World :=
  { w with env }

@[simp] theorem seen_db (w : World) (env : Env) : (w.seen env).db = w.db := rfl

@[simp] theorem seen_devices (w : World) (env : Env) : (w.seen env).devices = w.devices := rfl

@[simp] theorem seen_net (w : World) (env : Env) : (w.seen env).net = w.net := rfl

@[simp] theorem seen_env (w : World) (env : Env) : (w.seen env).env = env := rfl

/-- The meaning of every call at a moment at which nothing fails. -/
def Env.serve (env : Env) : Handler Sys Sys.Reply World := fun c w =>
  handle .none c (w.seen env)

/-- What an operation returns and the world it leaves. -/
def InterfaceStep.outcome (crates : Crates) (a : InterfaceStep) (w : World) :
    Except CoreError Unit × World :=
  eval (handle a.plan) (a.call.program crates) (w.seen a.env)

/-- One operation. -/
def interfaceStep (crates : Crates) (w : World) (a : InterfaceStep) : World :=
  (a.outcome crates w).2

/-- How an operation ends. -/
inductive Ended (crates : Crates) (w : World) :
    InterfaceStep → Except CoreError Unit → World → Prop where
  | create {input : CreateInterfaceInput} {plan : Plan} {env : Env} {w' : World}
      (result : Except CoreError Interface) :
      InterfaceService.Created plan crates (w.seen env) input result w' →
      Ended crates w ⟨.create input, plan, env⟩ (result.map fun _ => ()) w'
  | start {id : Id InterfaceMarker} {plan : Plan} {env : Env} {w' : World}
      (result : Except CoreError Interface) :
      InterfaceService.Started plan crates (w.seen env) id result w' →
      Ended crates w ⟨.start id, plan, env⟩ (result.map fun _ => ()) w'
  | stop {id : Id InterfaceMarker} {plan : Plan} {env : Env} {w' : World}
      (result : Except CoreError Interface) :
      InterfaceService.Stopped plan (w.seen env) id result w' →
      Ended crates w ⟨.stop id, plan, env⟩ (result.map fun _ => ()) w'
  | update {id : Id InterfaceMarker} {input : UpdateInterfaceInput} {plan : Plan} {env : Env}
      {w' : World} (result : Except CoreError Interface) :
      InterfaceService.Updated plan crates (w.seen env) id input result w' →
      Ended crates w ⟨.update id input, plan, env⟩ (result.map fun _ => ()) w'
  | delete {id : Id InterfaceMarker} {plan : Plan} {env : Env} {w' : World}
      (result : Except CoreError Unit) :
      InterfaceService.Deleted plan (w.seen env) id result w' →
      Ended crates w ⟨.delete id, plan, env⟩ result w'

/-- Dropping the value a program returns. -/
theorem eval_drop {α : Type} {plan : Plan} {program : App α} {w w' : World}
    {result : Except CoreError α} (h : eval (handle plan) program w = (result, w')) :
    eval (handle plan) (do let _ ← program : App Unit) w = (result.map fun _ => (), w') := by
  rw [eval_bind, h]
  cases result <;> rfl

/-- Every operation ends as its specification says. -/
theorem ended (crates : Crates) (w : World) (a : InterfaceStep) :
    Ended crates w a (a.outcome crates w).1 (interfaceStep crates w a) := by
  rcases a with ⟨call, plan, env⟩
  unfold interfaceStep InterfaceStep.outcome
  cases call with
  | create input =>
      obtain ⟨result, w', heval, h⟩ := InterfaceService.create_spec plan crates (w.seen env) input
      simp only [InterfaceCall.program, eval_drop heval]
      exact .create result h
  | start id =>
      obtain ⟨result, w', heval, h⟩ := InterfaceService.start_spec plan crates (w.seen env) id
      simp only [InterfaceCall.program, eval_drop heval]
      exact .start result h
  | stop id =>
      obtain ⟨result, w', heval, h⟩ := InterfaceService.stop_spec plan (w.seen env) id
      simp only [InterfaceCall.program, eval_drop heval]
      exact .stop result h
  | update id input =>
      obtain ⟨result, w', heval, h⟩ :=
        InterfaceService.update_spec plan crates (w.seen env) id input
      simp only [InterfaceCall.program, eval_drop heval]
      exact .update result h
  | delete id =>
      obtain ⟨result, w', heval, h⟩ := InterfaceService.delete_spec plan (w.seen env) id
      simp only [InterfaceCall.program, heval]
      exact .delete result h

/-- Whatever fails, an operation keeps a property of all rows that new rows have, that an accepted
edit keeps, and that does not depend on what a write of the status or of the bookkeeping columns
changes. -/
theorem rows_step {crates : Crates} {prop : Interface → Prop} (w : World) (a : InterfaceStep)
    (hcreate : ∀ input row w', a.call = .create input →
      eval (handle a.plan) (InterfaceService.create crates input) (w.seen a.env) = (.ok row, w') →
      InterfaceService.Created a.plan crates (w.seen a.env) input (.ok row) w' → prop row)
    (hupdate : ∀ id input old iface, a.call = .update id input →
      InterfaceService.Accepted a.plan crates (w.seen a.env) id input old iface → prop old →
      prop iface)
    (hstatus : ∀ iface status, prop iface → prop (iface.withStatus status))
    (hstored : ∀ (row old : Interface) now, prop row →
      prop { row with name := old.name, createdAt := old.createdAt, updatedAt := now })
    (h : ∀ row ∈ w.db.interfaces.rows, prop row) :
    ∀ row ∈ (interfaceStep crates w a).db.interfaces.rows, prop row := by
  have hwritten : ∀ (iface : Interface) (now : DateTime), prop iface →
      ∀ row ∈ (w.db.updateInterface iface now).interfaces.rows, prop row := by
    intro iface now hiface row hrow
    rcases Db.mem_update_interface.mp hrow with ⟨hrow, -⟩ | ⟨old, -, -, rfl⟩
    · exact h row hrow
    · exact hstored iface old now hiface
  rcases a with ⟨call, plan, env⟩
  unfold interfaceStep InterfaceStep.outcome
  cases call with
  | create input =>
      obtain ⟨result, w', heval, hend⟩ :=
        InterfaceService.create_spec plan crates (w.seen env) input
      simp only [InterfaceCall.program, eval_drop heval]
      cases hend with
      | rejected e => exact h
      | created row db key hname hgateway hdown hid hsealed hpublic haccepts hdb =>
          intro row' hrow'
          rcases ((Db.insert_interface_ok hdb).2.1 row').mp hrow' with hrow' | rfl
          · exact h row' hrow'
          · exact hcreate input row' _ rfl heval
              (.created row' db key hname hgateway hdown hid hsealed hpublic haccepts hdb)
  | start id =>
      obtain ⟨result, w', heval, hend⟩ := InterfaceService.start_spec plan crates (w.seen env) id
      simp only [InterfaceCall.program, eval_drop heval]
      cases hend with
      | unconfigured => exact h
      | unrouted => exact h
      | unmasqueraded _ _ _ _ _ _ hmasq => exact hmasq.frame.1 ▸ h
      | unsaved _ _ _ _ _ _ hmasq _ => exact hmasq.frame.1 ▸ h
      | saved iface _ _ hconf _ _ _ =>
          exact hwritten _ _ (hstatus iface _ (h iface (Plan.read_interface_some hconf.read).1))
  | stop id =>
      obtain ⟨result, w', heval, hend⟩ := InterfaceService.stop_spec plan (w.seen env) id
      simp only [InterfaceCall.program, eval_drop heval]
      cases hend with
      | saved iface _ hread _ _ =>
          exact hwritten _ _ (hstatus iface _ (h iface (Plan.read_interface_some hread).1))
      | _ => exact h
  | update id input =>
      obtain ⟨result, w', heval, hend⟩ :=
        InterfaceService.update_spec plan crates (w.seen env) id input
      simp only [InterfaceCall.program, eval_drop heval]
      have hnew : ∀ {old iface},
          InterfaceService.Accepted plan crates (w.seen env) id input old iface → prop iface :=
        fun haccepted => hupdate id input _ _ rfl haccepted
          (h _ (Plan.read_interface_some haccepted.read).1)
      cases hend with
      | rejected => exact h
      | idle old iface haccepted _ => exact hwritten _ _ (hnew haccepted)
      | unlisted e old iface haccepted _ _ => exact hwritten _ _ (hnew haccepted)
      | reapplied old iface net haccepted _ _ _ => exact hwritten _ _ (hnew haccepted)
  | delete id =>
      obtain ⟨result, w', heval, hend⟩ := InterfaceService.delete_spec plan (w.seen env) id
      simp only [InterfaceCall.program, heval]
      cases hend with
      | deleted iface hread _ => exact fun row hrow => h row (Db.mem_delete_interface.mp hrow).1
      | _ => exact h

/-- A property of interfaces that new rows have, that an accepted edit keeps, and that does not
depend on what a write of the status or of the bookkeeping columns changes. -/
structure RowInvariant (crates : Crates) (prop : Interface → Prop) : Prop where
  created : ∀ (plan : Plan) (env : Env) (row : Interface) (key : WgPrivateKey),
    crates.seal key.asStr.toUTF8 = .ok row.privateKeySealed → row.publicKey = key.public crates →
    plan.acceptsConfigured env row.gateway = true → prop row
  updated : ∀ plan w id input old iface,
    InterfaceService.Accepted plan crates w id input old iface → prop old → prop iface
  status : ∀ iface status, prop iface → prop (iface.withStatus status)
  stored : ∀ (row old : Interface) now, prop row →
    prop { row with name := old.name, createdAt := old.createdAt, updatedAt := now }

/-- Whatever fails, an operation keeps such a property of all rows. -/
theorem RowInvariant.step {crates : Crates} {prop : Interface → Prop}
    (hinv : RowInvariant crates prop) (w : World) (a : InterfaceStep)
    (h : ∀ row ∈ w.db.interfaces.rows, prop row) :
    ∀ row ∈ (interfaceStep crates w a).db.interfaces.rows, prop row := by
  refine rows_step w a (fun input row w' _ _ hend => ?_)
    (fun id input old iface _ haccepted hold => hinv.updated _ _ _ _ _ _ haccepted hold)
    hinv.status hinv.stored h
  cases hend with
  | created row db key _ _ _ _ hsealed hpublic haccepts _ =>
      exact hinv.created _ _ row key hsealed hpublic haccepts

/-- A world in which one interface has been created and not started. -/
def World.withInterface (row : Interface) : World :=
  { World.fresh row.gateway.toList with
    db :=
      { Db.empty with
        interfaces := ⟨[row], by simp⟩
        uniqueNames := by simp
        references := by simp [Db.empty] }
    devices := Devices.create (fun _ => none) row.name }

/-- A world in which one interface has been created, and a peer on it. -/
def World.withPeer (row : Interface) (peer : Peer) : World :=
  { World.withInterface row with
    db :=
      { (World.withInterface row).db with
        peers := ⟨[{ peer with interfaceId := row.id }], by simp⟩
        references := by simp [World.withInterface, Table.find] } }

/-- An interface and a peer on it. -/
def phoneWorld : World :=
  .withPeer (.plain 0 "wg0" none none) (.plain 0 0 "phone" none none)

/-- An interface is started and stopped. -/
def startedAndStopped : List InterfaceStep :=
  [⟨.start ⟨0⟩, .none, (World.fresh ["eth0"]).env⟩,
    ⟨.stop ⟨0⟩, .none, (World.fresh ["eth0"]).env⟩]

end Wireforge
