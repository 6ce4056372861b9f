import Wireforge.Lifecycle.ServiceRun
import Wireforge.Task.Enforcement

/-!
# Peers that are cut off

The poller disables a peer that has used up its quota, and the scheduler switches peers by their
windows without a look at the quota. `cut_off_kept` says when a disabled peer stays disabled
through passes of the two; `cut_off_undone` is a run in which the scheduler enables it again.
-/

namespace Wireforge

open Effect

/-- The peer is there, and it is disabled. -/
def World.disables (w : World) (id : Id PeerMarker) : Bool :=
  (w.db.peers.find id).any (!·.enabled)

/-- A call that keeps the peer and does not enable it. -/
def Sys.Spares (id : Id PeerMarker) : Sys → Prop
  | .updatePeer row _ => row.id = id → row.enabled = false
  | .insertPeer _ | .deletePeer _ | .deleteInterface _ => False
  | _ => True

variable {id : Id PeerMarker} {w w' : World} {crates : Crates} {plan : Plan}

theorem disables_iff :
    w.disables id = true ↔ ∃ row, w.db.peers.find id = some row ∧ row.enabled = false := by
  unfold World.disables
  cases w.db.peers.find id <;> simp

/-- Rewriting the rows keeps a disabled peer if it enables none with its identifier. -/
theorem disables_map {f : Peer → Peer} (hdb : w'.db.peers.find id = (w.db.peers.find id).map f)
    (hrow : ∀ row, row.id = id → row.enabled = false → (f row).enabled = false)
    (h : w.disables id = true) : w'.disables id = true := by
  obtain ⟨row, hfind, hoff⟩ := disables_iff.mp h
  refine disables_iff.mpr ⟨f row, ?_, hrow row (Table.find_eq_some.mp hfind).2 hoff⟩
  rw [hdb, hfind]
  rfl

theorem disables_congr (hdb : w'.db.peers = w.db.peers) (h : w.disables id = true) :
    w'.disables id = true := by
  unfold World.disables
  rw [hdb]
  exact h

/-- A call that spares the peer leaves it disabled. -/
theorem serve_spares {c : Sys} (hc : c.Spares id) (plan : Plan) (w : World)
    (h : w.disables id = true) : (handle plan c w).2.disables id = true := by
  have hwrite {call : Sys} {change : Db → Except String Db}
      (hchange : ∀ db, change w.db = .ok db → ({ w with db } : World).disables id = true) :
      (plan.write call change w).2.disables id = true := by
    unfold Plan.write Plan.run
    cases plan.error call with
    | some text => exact h
    | none =>
        cases hdb : change w.db with
        | error text => simpa only [hdb] using h
        | ok db => simpa only [hdb] using hchange db hdb
  cases c with
  | insertPeer row => exact hc.elim
  | deletePeer i => exact hc.elim
  | deleteInterface i => exact hc.elim
  | insertInterface row =>
      exact hwrite fun db hdb => disables_congr (Db.insert_interface_ok hdb).2.2 h
  | updateInterface row now =>
      exact hwrite fun db hdb => disables_congr (by cases hdb; rfl) h
  | updatePeer row now =>
      refine hwrite fun db hdb => disables_map ((Db.find_update_peer hdb).1 id) ?_ h
      intro old hid hoff
      unfold Db.setPeer
      split
      · exact hc (Eq.symm ‹_› |>.trans hid)
      · exact hoff
  | recordBandwidth i bytes =>
      refine hwrite fun db hdb => ?_
      cases hdb
      refine disables_map (Table.find_modify (h := Db.set_bandwidth_id i bytes)) ?_ h
      intro old _ hoff
      unfold Db.setBandwidth
      split <;> exact hoff
  | insertSnapshot peerId tx rx lastHandshake now =>
      exact hwrite fun db hdb => disables_congr (Db.insert_snapshot_ok hdb).1 h
  | _ =>
      refine disables_congr ?_ h
      simp only [handle, Plan.read, Plan.kernel, Plan.run] <;> split <;> first
        | rfl
        | (split <;> rfl)

theorem keeps_disabled {ε α : Type} {program : Fallible Sys Sys.Reply ε α}
    (h : Issues (Sys.Spares id) program.run) (plan : Plan) :
    Keeps (handle plan) (World.disables · id = true) program := fun _ hoff =>
  h.keeps (fun _ hc state => serve_spares hc plan state) hoff

/-! ## The two passes -/

namespace Poller

theorem poll_once_spares : Issues (Sys.Spares id) (ExceptT.run pollOnce) := by
  refine poll_once_issues.mono fun c hc => ?_
  cases c with
  | updatePeer row now => exact fun _ => hc
  | insertPeer | deletePeer | deleteInterface => exact hc.elim
  | _ => exact trivial

end Poller

namespace Scheduler

/-- The scheduler switches a peer off, or another peer. -/
theorem enforce_spares {now : DateTime} {peer : Peer}
    (hclosed : peer.id = id → peer.due crates now ≠ some true) :
    Issues (Sys.Spares id) (ExceptT.run (enforce crates now peer)) := by
  rw [enforce_eq]
  cases hdue : peer.due crates now with
  | none => exact Issues.run_pure _
  | some enabled =>
      refine Issues.run_ite (Issues.run_pure _) (Issues.run_bind ?_ fun _ =>
        Issues.run_bind ?_ fun found => ?_)
      · refine Issues.run_or_else (Issues.run_bind (Issues.run_always (Issues.request trivial))
          fun _ => Issues.run_or_else (Issues.request fun hid => ?_))
        cases enabled with
        | false => rfl
        | true => exact absurd hdue (hclosed hid)
      · exact Issues.run_or_else (Issues.run_or_else (Issues.request trivial))
      · cases found with
        | none => exact Issues.run_throw _
        | some iface =>
            refine Issues.run_ite (Issues.run_ignore ?_) (Issues.run_ignore ?_)
            · exact DefguardAdapter.apply_peer_issues (fun _ => trivial) (fun _ _ => trivial) _ _ _
            · exact DefguardAdapter.remove_peer_issues (fun _ => trivial) (fun _ _ => trivial) _ _

/-- A pass that does not find the window of the peer open leaves it disabled. -/
theorem run_once_disabled (plan : Plan) (w : World)
    (hclosed : ∀ row ∈ w.db.peers.find id, row.due crates w.env.now ≠ some true)
    (h : w.disables id = true) :
    (eval (handle plan) (runOnce crates) w).2.disables id = true := by
  unfold runOnce
  simp only [eval_bind, eval_task_run, eval_utc_now, SqlitePeerRepository.eval_list_all,
    Except.mapError, Plan.outcome]
  cases plan.error .listPeers with
  | some e => exact h
  | none =>
      have hloop : Keeps (handle plan) (World.disables · id = true)
          (forEach (enforce crates w.env.now) (sortedBy Peer.createdAt w.db.peers.rows)) := by
        refine .for_each fun peer hpeer => keeps_disabled (enforce_spares fun hid => ?_) plan
        exact hclosed peer (Table.find_eq_some.mpr ⟨mem_sorted_by.mp hpeer, hid⟩)
      exact hloop w h

end Scheduler

/-! ## Runs -/

/-- A pass of one of the two tasks. -/
def ServiceStep.IsPass (a : ServiceStep) : Prop :=
  a.call = .pollOnce ∨ a.call = .runOnce

/-- The scheduler does not find the window of the peer open. -/
def FindsClosed (crates : Crates) (id : Id PeerMarker) (w : World) (a : ServiceStep) : Prop :=
  a.call = .runOnce → ∀ row ∈ w.db.peers.find id, row.due crates a.env.now ≠ some true

/-- A pass, whatever fails in it. -/
theorem pass_disabled (crates : Crates) (a : ServiceStep) (ha : a.IsPass)
    (h : w.disables id = true) (hclosed : FindsClosed crates id w a) :
    (serviceStep crates w a).disables id = true := by
  rcases a with ⟨call, plan, env⟩
  rcases ha with rfl | rfl
  · exact keeps_disabled Poller.poll_once_spares plan (w.seen env) h
  · exact Scheduler.run_once_disabled plan (w.seen env) (hclosed rfl) h

/-- A pass in which nothing fails. -/
theorem pass_enables (crates : Crates) (a : ServiceStep) (hplan : a.plan = .none)
    (hopen : ¬ FindsClosed crates id w a) : (serviceStep crates w a).disables id = false := by
  rcases a with ⟨call, plan, env⟩
  obtain rfl : plan = .none := hplan
  unfold FindsClosed at hopen
  push Not at hopen
  obtain ⟨rfl, row, hrow, hdue⟩ := hopen
  obtain ⟨w', hpass⟩ := pass_enforces crates (w.seen env)
  have hstep : serviceStep crates w ⟨.runOnce, .none, env⟩ = w' :=
    congrArg Prod.snd hpass.completes
  have hrow := Table.find_eq_some.mp hrow
  have hmem : row.enforced crates env.now ∈ w'.db.peers.rows := by
    rw [hpass.rows]
    exact List.mem_map_of_mem hrow.1
  have hfind : w'.db.peers.find id = some (row.enforced crates env.now) :=
    Table.find_eq_some.mpr ⟨hmem, (Peer.enforced_id row).trans hrow.2⟩
  unfold World.disables
  rw [hstep, hfind, Option.any_some, Peer.enforced_enabled hdue]
  rfl

/-- A peer that the poller has disabled stays disabled through every run of passes, whatever fails
in them, as long as no pass of the scheduler finds its window open. If nothing fails, a pass that
does enables it again. -/
theorem cut_off_kept (crates : Crates) (id : Id PeerMarker) (w : World)
    (hoff : w.disables id = true) (run : List ServiceStep) (hrun : ∀ a ∈ run, a.IsPass) :
    (Runs.EachStep (serviceStep crates) (FindsClosed crates id) w run →
      Runs.Always (serviceStep crates) (World.disables · id = true) w run) ∧
    ((∀ a ∈ run, a.plan = .none) →
      Runs.Always (serviceStep crates) (World.disables · id = true) w run →
      Runs.EachStep (serviceStep crates) (FindsClosed crates id) w run) := by
  constructor
  · intro hclosed
    have hsteps := hclosed.and (Runs.EachStep.of_mem hrun)
    exact Runs.always_of_each_step (fun s a h hguard => pass_disabled crates a hguard.2 h hguard.1)
      hoff hsteps
  · intro hplan
    have hok : Runs.EachStep (serviceStep crates) (fun _ a => a.IsPass ∧ a.plan = .none) w run :=
      Runs.EachStep.of_mem fun a ha => ⟨hrun a ha, hplan a ha⟩
    refine (Runs.always_iff_each_step (fun s a hstep h hclosed => ?_)
      (fun s a hstep h hopen => ?_) hok hoff).mp
    · exact pass_disabled crates a hstep.1 h hclosed
    · rw [pass_enables crates a hstep.2 hopen]
      exact Bool.false_ne_true

/-- The libraries, with the one schedule that lets a peer connect on a day from one time to another,
and the texts of the two times. -/
def dayCrates (weekday : UInt8) (first last : NaiveTime) : Crates :=
  { Crates.transparent with
    parseSchedule text :=
      if text = "day" then .ok ⟨[weekday], "00:00", "23:59"⟩ else .error text
    parseTime text :=
      if text = "00:00" then some first
      else if text = "23:59" then some last
      else none }

/-- A peer with a quota of ten bytes that may connect on a day. -/
def meteredHost : World :=
  .withPeer ((Interface.plain 0 "wg0" none none).withStatus .up)
    (Peer.plain 0 0 "laptop" (some 10) (some "day"))

/-- What the host shows on a day after thirteen bytes of traffic. -/
def meteredEnv (day : Nat) : Env :=
  { (World.fresh []).env with
    now := ⟨day * (86400 * 10 ^ 9)⟩
    counters := fun _ => [⟨.zero, none, 6, 7, none⟩] }

/-- On a day without a window the passes leave the peer disabled. -/
theorem cut_off_kept_friday :
    let crates := dayCrates 4 0 1439
    let w := serviceStep crates meteredHost ⟨.pollOnce, .none, meteredEnv 0⟩
    Runs.Always (serviceStep crates) (World.disables · ⟨0⟩ = true) w
      [⟨.runOnce, .none, meteredEnv 1⟩, ⟨.pollOnce, .none, meteredEnv 1⟩] := by
  intro crates w
  refine (cut_off_kept crates ⟨0⟩ w (by decide +kernel) _ ?_).1 ⟨fun _ => ?_, nofun, trivial⟩
  · simp [ServiceStep.IsPass]
  · have hclosed : ((w.db.peers.find ⟨0⟩).all fun row =>
        row.due crates (meteredEnv 1).now ≠ some true) = true := by decide +kernel
    intro row hrow
    rw [Option.mem_def.mp hrow] at hclosed
    simpa using hclosed

/-- On Thursday the poller cuts the peer off for its traffic, and the scheduler lets it in again. -/
theorem cut_off_undone :
    let crates := dayCrates 4 0 1439
    let cut := serviceStep crates meteredHost ⟨.pollOnce, .none, meteredEnv 0⟩
    meteredHost.disables ⟨0⟩ = false ∧ cut.disables ⟨0⟩ = true ∧
      cut.db.peers.rows.map (fun peer => (peer.bandwidthUsedBytes, peer.bandwidthQuotaBytes)) =
        [(13, some 10)] ∧
      (serviceStep crates cut ⟨.runOnce, .none, meteredEnv 0⟩).disables ⟨0⟩ = false := by
  decide +kernel

end Wireforge
