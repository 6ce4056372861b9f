import Wireforge.Lifecycle.InterfaceRun
import Wireforge.Task.TaskSpec

/-!
# Runs of all services

A run is a sequence of operations of the two services and of passes of the two background tasks,
one after the other.
-/

namespace Wireforge

open Effect

/-- What changes peers and interfaces. -/
inductive ServiceCall where
  | interface (call : InterfaceCall)
  | createPeer (input : CreatePeerInput)
  | updatePeer (id : Id PeerMarker) (input : UpdatePeerInput)
  | setEnabled (id : Id PeerMarker) (enabled : Bool)
  | deletePeer (id : Id PeerMarker)
  | runOnce
  | pollOnce

/-- An operation or a pass, the failures that happen during it, and what the host shows. -/
structure ServiceStep where
  call : ServiceCall
  plan : Plan
  env : Env

/-- The world after a program has run. -/
def World.afterwards {ε α : Type} (w : World) (plan : Plan)
    (program : Fallible Sys Sys.Reply ε α) : World :=
  (eval (handle plan) program w).2

/-- One operation or pass. -/
def serviceStep (crates : Crates) (w : World) (a : ServiceStep) : World :=
  match a.call with
  | .interface call => interfaceStep crates w ⟨call, a.plan, a.env⟩
  | .createPeer input =>
      (w.seen a.env).afterwards a.plan (PeerService.createWithServerKeypair crates input)
  | .updatePeer id input => (w.seen a.env).afterwards a.plan (PeerService.update crates id input)
  | .setEnabled id enabled =>
      (w.seen a.env).afterwards a.plan (PeerService.setEnabled crates id enabled)
  | .deletePeer id => (w.seen a.env).afterwards a.plan (PeerService.delete id)
  | .runOnce => (w.seen a.env).afterwards a.plan (Scheduler.runOnce crates)
  | .pollOnce => (w.seen a.env).afterwards a.plan Poller.pollOnce

/-- The operations of the interface service add no peer and change none. -/
theorem Ended.peers_subset {crates : Crates} {w w' : World} {a : InterfaceStep}
    {result : Except CoreError Unit} (h : Ended crates w a result w') :
    ∀ peer ∈ w'.db.peers.rows, peer ∈ w.db.peers.rows := by
  cases h with
  | create result hend =>
      cases hend with
      | rejected => exact fun _ => id
      | created row db _ _ _ _ _ _ _ _ hdb =>
          intro peer hpeer
          rwa [(Db.insert_interface_ok hdb).2.2] at hpeer
  | start result hend =>
      cases hend with
      | unconfigured => exact fun _ => id
      | unrouted => exact fun _ => id
      | unmasqueraded _ _ _ _ _ _ hmasq => rw [hmasq.frame.1]; exact fun _ => id
      | unsaved _ _ _ _ _ _ hmasq _ => rw [hmasq.frame.1]; exact fun _ => id
      | saved => exact fun _ => id
  | stop result hend => cases hend <;> exact fun _ => id
  | update result hend => cases hend <;> exact fun _ => id
  | delete result hend =>
      cases hend with
      | deleted => exact fun peer hpeer => (Table.mem_filter.mp hpeer).1
      | _ => exact fun _ => id

/-- The peer service and the background tasks leave the interfaces alone. -/
theorem service_step_interfaces (crates : Crates) (w : World) (a : ServiceStep)
    (hpeers : ∀ call, a.call ≠ .interface call) :
    (serviceStep crates w a).db.interfaces = w.db.interfaces := by
  rcases a with ⟨call, plan, env⟩
  have htasks : TaskInvariant plan crates fun w' => w'.db.interfaces = w.db.interfaces :=
    { switched := fun _ _ _ _ h hcore hswitched => (hswitched.frame hcore).2.1.trans h
      counted := fun _ _ _ h => h
      stored := fun _ _ _ h hdb => (Db.insert_snapshot_ok hdb).2.trans h }
  cases call with
  | interface call => exact absurd rfl (hpeers call)
  | createPeer input =>
      obtain ⟨result, w', heval, hend⟩ :=
        PeerService.create_spec plan crates (w.seen env) input
      simp only [serviceStep, World.afterwards, heval]
      cases hend with
      | rejected e => rfl
      | created iface peer db _ _ _ _ _ hdb => exact (Db.insert_peer_ok hdb).2.2
  | updatePeer id input =>
      obtain ⟨result, w', heval, hend⟩ :=
        PeerService.update_spec plan crates (w.seen env) id input
      simp only [serviceStep, World.afterwards, heval]
      cases hend with
      | rejected e => rfl
      | updated old peer target db _ _ _ _ hdb => exact (Db.update_peer_ok hdb).2
  | setEnabled id enabled => exact htasks.set_enabled id enabled (w.seen env) rfl
  | deletePeer id =>
      obtain ⟨result, w', heval, hend⟩ := PeerService.delete_spec plan (w.seen env) id
      simp only [serviceStep, World.afterwards, heval]
      cases hend <;> rfl
  | runOnce => exact Scheduler.run_once_keeps htasks (w.seen env) rfl
  | pollOnce => exact Poller.poll_once_keeps htasks (w.seen env) rfl

/-- A property of the peers that survives the loss of peers and that does not depend on what the
background tasks change. -/
structure PeerInvariant (inv : Db → Prop) : Prop where
  subset : ∀ db db' : Db, inv db → (∀ peer ∈ db'.peers.rows, peer ∈ db.peers.rows) → inv db'
  cores : ∀ db db' : Db, inv db → db'.cores = db.cores → inv db'

namespace PeerInvariant

variable {inv : Db → Prop}

theorem task_invariant (hinv : PeerInvariant inv) (plan : Plan) (crates : Crates) :
    TaskInvariant plan crates fun w => inv w.db where
  switched _ _ _ _ h hcore hswitched := hinv.cores _ _ h (hswitched.frame hcore).1
  counted _ _ _ h := hinv.cores _ _ h Db.cores_record
  stored _ _ _ h hdb :=
    hinv.cores _ _ h (by rw [Db.cores, (Db.insert_snapshot_ok hdb).1]; rfl)

/-- Only creating and editing a peer can break such a property. -/
theorem step (hinv : PeerInvariant inv) (crates : Crates) (w : World) (a : ServiceStep)
    (h : inv w.db)
    (hcreate : ∀ input, a.call = .createPeer input → ∀ result w',
      PeerService.Created a.plan crates (w.seen a.env) input result w' → inv w'.db)
    (hupdate : ∀ id input, a.call = .updatePeer id input → ∀ result w',
      PeerService.Updated a.plan crates (w.seen a.env) id input result w' → inv w'.db) :
    inv (serviceStep crates w a).db := by
  rcases a with ⟨call, plan, env⟩
  have htasks := hinv.task_invariant plan crates
  cases call with
  | interface call => exact hinv.subset _ _ h (ended crates w ⟨call, plan, env⟩).peers_subset
  | createPeer input =>
      obtain ⟨result, w', heval, hend⟩ :=
        PeerService.create_spec plan crates (w.seen env) input
      simp only [serviceStep, World.afterwards, heval]
      exact hcreate input rfl result w' hend
  | updatePeer id input =>
      obtain ⟨result, w', heval, hend⟩ :=
        PeerService.update_spec plan crates (w.seen env) id input
      simp only [serviceStep, World.afterwards, heval]
      exact hupdate id input rfl result w' hend
  | setEnabled id enabled => exact htasks.set_enabled id enabled (w.seen env) h
  | deletePeer id =>
      obtain ⟨result, w', heval, hend⟩ := PeerService.delete_spec plan (w.seen env) id
      simp only [serviceStep, World.afterwards, heval]
      cases hend with
      | rejected e => exact h
      | kept e peer iface _ _ _ => exact h
      | deleted peer iface _ _ =>
          exact hinv.subset _ _ h fun peer hpeer => (Table.mem_filter.mp hpeer).1
  | runOnce => exact Scheduler.run_once_keeps htasks (w.seen env) h
  | pollOnce => exact Poller.poll_once_keeps htasks (w.seen env) h

end PeerInvariant

end Wireforge
