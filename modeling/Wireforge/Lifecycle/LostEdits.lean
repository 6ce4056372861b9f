import Wireforge.Lib.Duo
import Wireforge.Lifecycle.ServiceRun

/-!
# Edits during a background pass

A pass of the scheduler, or the poller that disables a peer, and an edit of a peer each read the
row of the peer and later write it back as a whole. The edit sets every column that it does not
take from the row it has read, the status among them, so that it loses nothing the pass has
written. `edits_kept` shows that the two have the effect of one after the other as long as the pass
does not write the row after the edit has written it since the pass read it; `edit_lost` is
a run in which it does.
-/

namespace Wireforge

open Effect

/-! ## What the two write -/

/-- The row apart from the time of its last write. -/
def Peer.untimed (peer : Peer) : Peer :=
  { peer with updatedAt := ⟨0⟩ }

/-- The status that a pass gives the row it has read at a time, if it writes it. -/
abbrev StatusRule : Type :=
  DateTime → Peer → Option Bool

/-- The row after a pass under a rule. -/
def Peer.switched (rule : Peer → Option Bool) (peer : Peer) : Peer :=
  ((rule peer).map fun enabled => { peer with enabled }).getD peer

/-- The scheduler switches a peer whose window has opened or closed. -/
def Scheduler.rule (crates : Crates) : StatusRule := fun now peer =>
  peer.schedule.bind fun scheduleJson =>
    (crates.parseSchedule scheduleJson).toOption.bind fun schedule =>
      if isInWindow crates schedule now = peer.enabled then none
      else some (isInWindow crates schedule now)

/-- The poller disables. -/
def Poller.rule : StatusRule := fun _ _ =>
  some false

/-- The row that an edit writes over a row it has read, given the peers of its interface. -/
def editedRow (crates : Crates) (input : UpdatePeerInput) (old : Peer) (peers : List Peer) :
    Except CoreError Peer := do
  ensureNoConflict input.allowedIps (peers.filter (·.id ≠ old.id))
  PeerService.rekeyed crates (input.edit old) (Text.trim input.privateKey)
    (Text.trim input.publicKey)

/-- The row that an edit of a row writes in a world, if it writes one. -/
def editedIn (crates : Crates) (w : World) (input : UpdatePeerInput) (old : Peer) : Option Peer :=
  if (Text.trim input.name).isEmpty || (w.db.interfaces.find input.interfaceId).isNone then none
  else (editedRow crates input old (w.db.peersOf input.interfaceId)).toOption

/-- The row after an edit. -/
def Peer.overwritten (edited : Option Peer) (peer : Peer) : Peer :=
  (edited.map fun row => Db.setPeer row ⟨0⟩ peer).getD peer

/-! ## The pass -/

/-- How far a pass has come: what it has listed, and the row it has yet to write for the peer. -/
inductive PassPhase where
  | started
  | clocked (now : DateTime)
  | listed (now : DateTime) (peers : List Peer) (todo : Option Peer)
  | failed

namespace PassPhase

/-- The pass has read the clock. -/
def clock (now : DateTime) : PassPhase → PassPhase
  | started => clocked now
  | phase => phase

/-- The row that a pass over a list writes for the peer. -/
def due (id : Id PeerMarker) (rule : Peer → Option Bool) (peers : List Peer) : Option Peer :=
  (peers.find? (·.id = id)).bind fun peer => (rule peer).map fun enabled => { peer with enabled }

/-- The pass has listed the peers. -/
def list (id : Id PeerMarker) (rule : StatusRule) (peers : List Peer) : PassPhase → PassPhase
  | clocked now =>
      if (peers.map Peer.id).Nodup then listed now peers (due id (rule now) peers) else failed
  | _ => failed

/-- The pass has written a row. -/
def write (id : Id PeerMarker) (row : Peer) : PassPhase → PassPhase
  | listed now peers todo => listed now peers (if row.id = id then none else todo)
  | _ => failed

/-- Nothing remains to be written. -/
def Settled : PassPhase → Prop
  | listed _ _ none | failed => True
  | _ => False

end PassPhase

/-- A pass lists peers and writes those of them back that its rule gives another status. -/
def pass (id : Id PeerMarker) (rule : StatusRule) : Protocol Sys Sys.Reply PassPhase where
  allowed phase c :=
    phase = .failed ∨
      match c with
      | .utcNow | .openApi _ | .configurePeer _ _ | .removePeer _ _ => True
      | .listPeers => ∃ now, phase = .clocked now
      | .findPeer i => i = id ∧ ∃ now, phase = .clocked now
      | .findInterface i => ∃ now peers todo, phase = .listed now peers todo ∧
          ∃ peer ∈ peers, peer.interfaceId = i
      | .updatePeer row _ => ∃ now peers todo, phase = .listed now peers todo ∧
          (∃ peer ∈ peers, row = { peer with enabled := row.enabled }) ∧
          (row.id = id → todo = some row)
      | _ => False
  next phase
    | .utcNow, now => phase.clock now
    | .listPeers, .ok peers => phase.list id rule peers
    | .findPeer _, .ok (some peer) => phase.list id rule [peer]
    | .updatePeer row _, .ok _ => phase.write id row
    | .findInterface _, .ok (some _) | .openApi _, _ => phase
    | .configurePeer _ _, _ | .removePeer _ _, _ => phase
    | _, _ => .failed

variable {id : Id PeerMarker} {rule : StatusRule} {crates : Crates}

theorem failed_next (c : Sys) (reply : c.Reply) :
    (pass id rule).next .failed c reply = .failed := by
  unfold pass
  dsimp only
  split <;> rfl

/-- A pass that has met an error may do anything. -/
theorem failed_follows {α : Type} (program : Program Sys Sys.Reply α) :
    Follows (pass id rule) (fun phase _ => phase = .failed) .failed program := by
  induction program with
  | done value => rfl
  | call c next ih =>
      refine ⟨.inl rfl, fun reply => ?_⟩
      rw [failed_next]
      exact ih reply

/-- Installing a peer does not lead a pass anywhere. -/
theorem apply_silent {phase : PassPhase} (iface : Interface) (peer : Peer) :
    Silent (pass id rule) phase (DefguardAdapter.applyPeer crates iface peer) :=
  .of_issues (DefguardAdapter.apply_peer_issues (fun _ => ⟨.inr trivial, fun _ => rfl⟩)
    (fun _ _ => ⟨.inr trivial, fun _ => rfl⟩) crates iface peer)

/-- Removing a peer does not lead a pass anywhere. -/
theorem remove_silent {phase : PassPhase} (iface : Interface) (key : WgPublicKey) :
    Silent (pass id rule) phase (DefguardAdapter.removePeer iface key) :=
  .of_issues (DefguardAdapter.remove_peer_issues (fun _ => ⟨.inr trivial, fun _ => rfl⟩)
    (fun _ _ => ⟨.inr trivial, fun _ => rfl⟩) iface key)

/-- Writing a row back from a list. -/
theorem write_back_follows {now : DateTime} {peers : List Peer} {todo : Option Peer} {peer : Peer}
    {enabled : Bool} {post : PassPhase → Except TaskError Unit → Prop} (hpeer : peer ∈ peers)
    (hdue : peer.id = id → todo = some { peer with enabled })
    (hpost : post (.listed now peers (if peer.id = id then none else todo)) (.ok ()))
    (hfailed : ∀ e, post .failed (.error e)) :
    Follows (pass id rule) post (.listed now peers todo)
      (ExceptT.run (Task.run (SqlitePeerRepository.update { peer with enabled }))) := by
  refine Follows.run_or_else.mpr (Follows.run_bind.mpr (Follows.run_always.mpr ?_))
  refine ⟨.inr trivial, fun t => Follows.run_or_else.mpr ⟨.inr ?_, fun reply => ?_⟩⟩
  · exact ⟨now, peers, todo, rfl, ⟨peer, hpeer, rfl⟩, hdue⟩
  · cases reply with
    | ok value => exact hpost
    | error text => exact hfailed _

/-- Switching a peer of the list writes its row. -/
theorem toggle_follows {now : DateTime} {peers : List Peer} {todo : Option Peer} {peer : Peer}
    {inWindow : Bool} (hpeer : peer ∈ peers)
    (hdue : peer.id = id → todo = some { peer with enabled := inWindow }) :
    Follows (pass id rule)
      (fun phase result => phase = .failed ∨ result = .ok () ∧
        phase = .listed now peers (if peer.id = id then none else todo))
      (.listed now peers todo) (ExceptT.run (Scheduler.toggle crates peer inWindow)) := by
  refine Follows.run_bind.mpr (write_back_follows hpeer hdue ?_ fun e => .inl rfl)
  refine Follows.run_bind.mpr (Follows.run_or_else.mpr (Follows.run_or_else.mpr
    ⟨.inr ⟨now, peers, _, rfl, peer, hpeer, rfl⟩, fun reply => ?_⟩))
  cases reply with
  | error text => exact .inl rfl
  | ok found =>
      cases found with
      | none => exact .inl rfl
      | some iface =>
          refine Follows.run_ite.mpr ?_
          split
          · exact Follows.run_ignore.mpr ((apply_silent iface _).follows fun _ => .inr ⟨rfl, rfl⟩)
          · exact Follows.run_ignore.mpr ((remove_silent iface _).follows fun _ => .inr ⟨rfl, rfl⟩)

/-- A peer that the rule leaves alone is not touched; another one is switched. -/
theorem enforce_cases (crates : Crates) (now : DateTime) (peer : Peer) :
    Scheduler.rule crates now peer = none ∧ Scheduler.enforce crates now peer = pure () ∨
    ∃ inWindow, Scheduler.rule crates now peer = some inWindow ∧
      Scheduler.enforce crates now peer = Scheduler.toggle crates peer inWindow := by
  unfold Scheduler.rule Scheduler.enforce
  cases peer.schedule with
  | none => exact .inl ⟨rfl, rfl⟩
  | some scheduleJson =>
      dsimp only [Option.bind_some]
      cases crates.parseSchedule scheduleJson with
      | error e => exact .inl ⟨rfl, rfl⟩
      | ok schedule =>
          dsimp only [Except.toOption, Option.bind_some]
          split
          · exact .inl ⟨rfl, rfl⟩
          · exact .inr ⟨_, rfl, rfl⟩

theorem due_cons {peer : Peer} {rest : List Peer} {now : DateTime} :
    PassPhase.due id (rule now) (peer :: rest) =
      if peer.id = id then (rule now peer).map fun enabled => { peer with enabled }
      else PassPhase.due id (rule now) rest := by
  unfold PassPhase.due
  rw [List.find?_cons]
  by_cases hid : peer.id = id
  · simp [hid]
  · simp [hid]

/-- Nothing is due for a peer that is not listed. -/
theorem due_of_not_mem {peers : List Peer} {now : DateTime} (h : id ∉ peers.map Peer.id) :
    PassPhase.due id (rule now) peers = none := by
  have hnone : peers.find? (·.id = id) = none := by
    refine List.find?_eq_none.mpr fun peer hpeer hid => h ?_
    exact List.mem_map.mpr ⟨peer, hpeer, by simpa using hid⟩
  unfold PassPhase.due
  rw [hnone]
  rfl

theorem ite_else_same {α : Type} {c : Prop} [Decidable c] {a b d : α} :
    (if c then a else if c then b else d) = if c then a else d := by
  split <;> rfl

/-- The rest of the loop over the list. -/
theorem enforce_all_follows {now : DateTime} {peers rest : List Peer}
    (hrest : ∀ peer ∈ rest, peer ∈ peers) (hnodup : (rest.map Peer.id).Nodup) :
    Follows (pass id (Scheduler.rule crates)) (fun phase _ => phase.Settled)
      (.listed now peers (PassPhase.due id (Scheduler.rule crates now) rest))
      (ExceptT.run (forEach (Scheduler.enforce crates now) rest)) := by
  induction rest with
  | nil => trivial
  | cons peer rest ih =>
      obtain ⟨hpeer, hrest⟩ := List.forall_mem_cons.mp hrest
      obtain ⟨hfirst, hnodup⟩ := List.nodup_cons.mp hnodup
      have hgo := ih hrest hnodup
      have hskip : (if peer.id = id then none
          else PassPhase.due id (Scheduler.rule crates now) rest) =
          PassPhase.due id (Scheduler.rule crates now) rest := by
        split
        · rename_i hid
          exact (due_of_not_mem (hid ▸ hfirst)).symm
        · rfl
      refine Follows.run_bind.mpr ?_
      rw [due_cons]
      rcases enforce_cases crates now peer with ⟨hrule, henforce⟩ | ⟨inWindow, hrule, henforce⟩
      · -- The row is left alone, and nothing is due for it.
        rw [henforce, hrule]
        show Follows _ _ (PassPhase.listed now peers (if peer.id = id then none else _)) _
        rw [hskip]
        exact hgo
      · -- The row is written, and nothing more is due for it.
        rw [henforce, hrule]
        have hwrite : peer.id = id → (if peer.id = id then some { peer with enabled := inWindow }
            else PassPhase.due id (Scheduler.rule crates now) rest) =
            some { peer with enabled := inWindow } := fun hid => if_pos hid
        refine (toggle_follows hpeer hwrite).mono fun phase result hend => ?_
        rcases hend with rfl | ⟨rfl, rfl⟩
        · cases result with
          | error e => trivial
          | ok value => exact (failed_follows _).mono fun _ _ hphase => hphase ▸ trivial
        · show Follows _ _ (PassPhase.listed now peers (if _ then none else if _ then _ else _)) _
          rw [ite_else_same, hskip]
          exact hgo

/-- A pass of the scheduler. -/
theorem run_once_follows (crates : Crates) (id : Id PeerMarker) :
    Follows (pass id (Scheduler.rule crates)) (fun phase _ => phase.Settled) .started
      (ExceptT.run (Scheduler.runOnce crates)) := by
  refine Follows.run_bind.mpr (Follows.run_or_else.mpr (Follows.run_always.mpr
    ⟨.inr trivial, fun now => ?_⟩))
  refine Follows.run_bind.mpr (Follows.run_or_else.mpr (Follows.run_or_else.mpr
    ⟨.inr ⟨now, rfl⟩, fun reply => ?_⟩))
  cases reply with
  | error text => trivial
  | ok peers =>
      show Follows _ _ (if _ then _ else _) (ExceptT.run (forEach _ peers))
      split
      · rename_i hnodup
        exact enforce_all_follows (fun _ hpeer => hpeer) hnodup
      · exact (failed_follows _).mono fun _ _ hphase => hphase ▸ trivial

/-- The poller that disables the peer. It does not look at the clock first. -/
theorem disable_peer_follows (id : Id PeerMarker) :
    Follows (pass id Poller.rule) (fun phase _ => phase.Settled) (.clocked ⟨0⟩)
      (ExceptT.run (Poller.disablePeer id)) := by
  refine Follows.run_bind.mpr (Follows.run_or_else.mpr (Follows.run_or_else.mpr
    ⟨.inr ⟨rfl, _, rfl⟩, fun reply => ?_⟩))
  cases reply with
  | error text => trivial
  | ok found =>
      cases found with
      | none => trivial
      | some peer =>
          have hlist : (PassPhase.clocked ⟨0⟩).list id Poller.rule [peer] =
              .listed ⟨0⟩ [peer] (PassPhase.due id (Poller.rule ⟨0⟩) [peer]) := rfl
          show Follows _ _ ((PassPhase.clocked ⟨0⟩).list id Poller.rule [peer]) _
          rw [hlist, due_cons]
          refine Follows.run_bind.mpr (Follows.run_or_else.mpr (Follows.run_or_else.mpr
            ⟨.inr ⟨_, _, _, rfl, peer, List.mem_singleton_self peer, rfl⟩, fun reply => ?_⟩))
          cases reply with
          | error text => trivial
          | ok found =>
              cases found with
              | none => trivial
              | some iface =>
                  refine Follows.run_bind.mpr (write_back_follows (List.mem_singleton_self peer)
                    (fun hid => if_pos hid) ?_ fun e => trivial)
                  refine Follows.run_ignore.mpr ((remove_silent iface _).follows fun _ => ?_)
                  show PassPhase.Settled (.listed _ _ (if _ then none else if _ then _ else _))
                  rw [ite_else_same]
                  split <;> trivial

/-! ## The edit -/

/-- How far an edit has come: the row it has read and the peers of its interface. -/
inductive EditPhase where
  | started
  | found (old : Peer)
  | targeted (old : Peer)
  | checked (old : Peer) (peers : List Peer)
  | declined
  | wrote
  | failed

/-- An edit reads the row, looks its interface and the peers of it up, and writes the row. -/
def edit (crates : Crates) (id : Id PeerMarker) (input : UpdatePeerInput) :
    Protocol Sys Sys.Reply EditPhase where
  allowed phase c :=
    match phase with
    | .started => c = .findPeer id ∧ (Text.trim input.name).isEmpty = false
    | .found _ => c = .findInterface input.interfaceId
    | .targeted _ => c = .listPeersOf input.interfaceId
    | .checked old peers => c = .utcNow ∨
        ∃ row now, c = .updatePeer row now ∧ editedRow crates input old peers = .ok row
    | .declined => False
    | .wrote => (∃ i, c = .findInterface i) ∨ (∃ name, c = .openApi name) ∨
        (∃ name peer, c = .configurePeer name peer) ∨ ∃ name key, c = .removePeer name key
    | .failed => True
  next
    | .started, .findPeer _, .ok (some old) => .found old
    | .found old, .findInterface _, .ok (some _) => .targeted old
    | .found _, .findInterface _, .ok none => .declined
    | .targeted old, .listPeersOf _, .ok peers => .checked old peers
    | .checked old peers, .utcNow, _ => .checked old peers
    | .checked _ _, .updatePeer _ _, .ok _ => .wrote
    | .wrote, _, _ => .wrote
    | _, _, _ => .failed

/-- The edit has written the row, or nothing is to be written. -/
def EditPhase.Concluded (crates : Crates) (input : UpdatePeerInput) : EditPhase → Prop
  | .started => (Text.trim input.name).isEmpty = true
  | .checked old peers => ∃ e, editedRow crates input old peers = .error e
  | .declined | .wrote | .failed => True
  | _ => False

variable {input : UpdatePeerInput}

/-- A key change is a computation. -/
theorem rekey_pure (crates : Crates) (peer : Peer) (newPrivate newPublic : String) :
    PeerService.rekey crates peer newPrivate newPublic =
      App.ofExcept (PeerService.rekeyed crates peer newPrivate newPublic) := by
  unfold PeerService.rekey PeerService.rekeyed
  dsimp only
  split
  · cases WgPrivateKey.fromBase64 newPrivate with
    | error e => rfl
    | ok key =>
        show (DefguardAdapter.derivePublicKey crates key >>= _) = _
        rw [DefguardAdapter.derive_public_key_pure]
        show (App.ofExcept (crates.seal key.asStr.toUTF8) >>= _) = App.ofExcept (Except.map _ _)
        cases crates.seal key.asStr.toUTF8 <;> rfl
  · split
    · cases WgPublicKey.fromBase64 newPublic <;> rfl
    · rfl

theorem wrote_silent {ε α : Type} {program : Fallible Sys Sys.Reply ε α}
    (h : Issues ((edit crates id input).allowed .wrote) program.run) :
    Silent (edit crates id input) .wrote program :=
  .of_issues (h.mono fun _ hc => ⟨hc, fun _ => rfl⟩)

/-- What an edit does to the kernel comes after its write. -/
theorem push_silent (crates : Crates) (target : Interface) (peer : Peer) :
    Silent (edit crates id input) .wrote (PeerService.pushPeer crates target peer) := by
  refine wrote_silent (Issues.run_ite (Issues.run_ignore ?_) (Issues.run_ignore ?_))
  · exact DefguardAdapter.apply_peer_issues (fun _ => .inr (.inl ⟨_, rfl⟩))
      (fun _ _ => .inr (.inr (.inl ⟨_, _, rfl⟩))) _ _ _
  · exact DefguardAdapter.remove_peer_issues (fun _ => .inr (.inl ⟨_, rfl⟩))
      (fun _ _ => .inr (.inr (.inr ⟨_, _, rfl⟩))) _ _

theorem remove_stale_silent (old peer : Peer) (target : Interface) :
    Silent (edit crates id input) .wrote (PeerService.removeStale old peer target) := by
  have hremove (iface : Interface) : Issues ((edit crates id input).allowed .wrote)
      (DefguardAdapter.removePeer iface old.publicKey).run :=
    DefguardAdapter.remove_peer_issues (fun _ => .inr (.inl ⟨_, rfl⟩))
      (fun _ _ => .inr (.inr (.inr ⟨_, _, rfl⟩))) _ _
  refine wrote_silent (Issues.run_ite (Issues.run_bind (Issues.run_attempt (Issues.run_or_else
    (Issues.request (.inl ⟨_, rfl⟩)))) fun found => ?_)
    (Issues.run_ite (Issues.run_ignore (hremove _)) trivial))
  match found with
  | .ok (some iface) => exact Issues.run_ignore (hremove iface)
  | .ok none => trivial
  | .error e => trivial

/-- The edit writes the row it has computed, if it has computed one. -/
theorem store_follows (old : Peer) (target : Interface) (peers : List Peer) :
    Follows (edit crates id input) (fun phase _ => phase.Concluded crates input)
      (.checked old peers) (do
        App.ofExcept (ensureNoConflict input.allowedIps (peers.filter (·.id ≠ old.id)))
        let peer ← PeerService.rekey crates (input.edit old) (Text.trim input.privateKey)
          (Text.trim input.publicKey)
        SqlitePeerRepository.update peer
        PeerService.removeStale old peer target
        PeerService.pushPeer crates target peer
        return peer : App Peer).run := by
  refine Follows.run_bind.mpr ((of_except_follows _).mpr ?_)
  cases hconflict : ensureNoConflict input.allowedIps (peers.filter (·.id ≠ old.id)) with
  | error e =>
      refine ⟨e, ?_⟩
      unfold editedRow
      rw [hconflict]
      rfl
  | ok value =>
      have hedited : editedRow crates input old peers = PeerService.rekeyed crates
          (input.edit old) (Text.trim input.privateKey) (Text.trim input.publicKey) := by
        unfold editedRow
        rw [hconflict]
        rfl
      rw [rekey_pure]
      refine Follows.run_bind.mpr ((of_except_follows _).mpr ?_)
      cases hrekeyed : PeerService.rekeyed crates (input.edit old) (Text.trim input.privateKey)
          (Text.trim input.publicKey) with
      | error e => exact ⟨e, hedited.trans hrekeyed⟩
      | ok peer =>
          refine Follows.run_bind.mpr (Follows.run_bind.mpr (Follows.run_always.mpr
            ⟨.inl rfl, fun now => Follows.run_or_else.mpr
              ⟨.inr ⟨peer, now, rfl, hedited.trans hrekeyed⟩, fun reply => ?_⟩⟩))
          cases reply with
          | error text => trivial
          | ok value =>
              refine Follows.run_bind.mpr ((remove_stale_silent old peer target).follows ?_)
              intro result
              cases result with
              | error e => trivial
              | ok value =>
                  refine Follows.run_bind.mpr ((push_silent crates target peer).follows ?_)
                  intro result
                  cases result <;> trivial

/-- An edit of the peer service. -/
theorem update_follows (crates : Crates) (id : Id PeerMarker) (input : UpdatePeerInput) :
    Follows (edit crates id input) (fun phase _ => phase.Concluded crates input) .started
      (PeerService.update crates id input).run := by
  unfold PeerService.update
  rw [Follows.run_ite]
  split
  · assumption
  rename_i hname
  refine Follows.run_bind.mpr (Follows.run_bind.mpr (Follows.run_or_else.mpr
    ⟨⟨rfl, Bool.eq_false_iff.mpr hname⟩, fun reply => ?_⟩))
  match reply with
  | .error text => trivial
  | .ok none => trivial
  | .ok (some old) =>
      refine Follows.run_bind.mpr (Follows.run_bind.mpr (Follows.run_or_else.mpr
        ⟨rfl, fun reply => ?_⟩))
      match reply with
      | .error text => trivial
      | .ok none => trivial
      | .ok (some target) =>
          refine Follows.run_bind.mpr (Follows.run_or_else.mpr ⟨rfl, fun reply => ?_⟩)
          cases reply with
          | error text => trivial
          | ok peers => exact store_follows old target peers

/-! ## Rows up to their time -/

section Rows

variable {peer other base row row' : Peer} {status : Peer → Option Bool}

/-- Rows that are the same up to their time agree in every other column. -/
theorem column_of_untimed {β : Type} (h : peer.untimed = other.untimed) (f : Peer → β)
    (hf : ∀ peer, f peer.untimed = f peer) : f peer = f other := by
  rw [← hf, h, hf]

/-- A write depends on neither its time nor the times of the rows. -/
theorem set_peer_untimed (hrow : row.untimed = row'.untimed) (hpeer : peer.untimed = other.untimed)
    (now now' : DateTime) :
    (Db.setPeer row now peer).untimed = (Db.setPeer row' now' other).untimed := by
  have htime (row peer : Peer) (now : DateTime) :
      (Db.setPeer row now peer).untimed = (Db.setPeer row ⟨0⟩ peer).untimed := by
    unfold Db.setPeer
    split <;> rfl
  have hold : (Db.setPeer row ⟨0⟩ peer).untimed = (Db.setPeer row ⟨0⟩ other).untimed := by
    refine column_of_untimed hpeer (fun peer => (Db.setPeer row ⟨0⟩ peer).untimed) fun peer => ?_
    unfold Db.setPeer Peer.untimed
    split <;> rfl
  have hnew : (Db.setPeer row ⟨0⟩ other).untimed = (Db.setPeer row' ⟨0⟩ other).untimed := by
    refine column_of_untimed hrow (fun row => (Db.setPeer row ⟨0⟩ other).untimed) fun row => ?_
    unfold Db.setPeer Peer.untimed
    split <;> rfl
  rw [htime, hold, hnew, ← htime]

/-- A rule that does not look at the time of the last write. -/
def Timeless (status : Peer → Option Bool) : Prop :=
  ∀ peer, status peer.untimed = status peer

theorem switched_of_rule {enabled : Bool} (h : status peer = some enabled) :
    peer.switched status = { peer with enabled } := by
  unfold Peer.switched
  rw [h]
  rfl

theorem switched_of_none (h : status peer = none) : peer.switched status = peer := by
  unfold Peer.switched
  rw [h]
  rfl

/-- Writing a row back with its status switched. -/
theorem written_switched (hstatus : Timeless status) {enabled : Bool}
    (hpeer : peer.untimed = base.untimed) (hother : other.untimed = base.untimed)
    (h : status peer = some enabled) (now : DateTime) :
    (Db.setPeer { peer with enabled } now other).untimed = (base.switched status).untimed := by
  have hbase : status base = some enabled :=
    (column_of_untimed hpeer status hstatus).symm.trans h
  have hrow : ({ peer with enabled } : Peer).untimed = ({ base with enabled } : Peer).untimed :=
    column_of_untimed hpeer (fun peer => ({ peer with enabled } : Peer).untimed) fun _ => rfl
  rw [set_peer_untimed hrow hother now ⟨0⟩, switched_of_rule hbase]
  unfold Db.setPeer
  rw [if_pos rfl]
  rfl

/-- A pass changes no more than the status and the time. -/
theorem switched_row (h : peer.untimed = (base.switched status).untimed) :
    ∃ enabled updatedAt, peer = { base with enabled, updatedAt } := by
  have hswitched : ∃ enabled, base.switched status = { base with enabled } := by
    cases hbase : status base with
    | none => exact ⟨base.enabled, switched_of_none hbase⟩
    | some enabled => exact ⟨enabled, switched_of_rule hbase⟩
  obtain ⟨enabled, hswitched⟩ := hswitched
  refine ⟨enabled, peer.updatedAt, ?_⟩
  calc peer = { peer.untimed with updatedAt := peer.updatedAt } := rfl
    _ = { base with enabled, updatedAt := peer.updatedAt } := by rw [h, hswitched]; rfl

theorem rekeyed_retimed (crates : Crates) (peer : Peer) (updatedAt : DateTime)
    (newPrivate newPublic : String) :
    PeerService.rekeyed crates { peer with updatedAt } newPrivate newPublic =
      (PeerService.rekeyed crates peer newPrivate newPublic).map
        fun row => { row with updatedAt } := by
  unfold PeerService.rekeyed
  dsimp only
  split
  · cases WgPrivateKey.fromBase64 newPrivate with
    | error e => rfl
    | ok key =>
        dsimp only
        cases crates.seal key.asStr.toUTF8 <;> rfl
  · split
    · cases WgPublicKey.fromBase64 newPublic <;> rfl
    · rfl

/-- The addresses of peers are the same if they are up to what a pass changes. -/
theorem conflict_of_cores {want : List IpNet} {peers others : List Peer} (i : Id PeerMarker)
    (h : peers.map Peer.core = others.map Peer.core) :
    ensureNoConflict want (peers.filter (·.id ≠ i)) =
      ensureNoConflict want (others.filter (·.id ≠ i)) := by
  have hmap (peers : List Peer) : (peers.filter (·.id ≠ i)).flatMap (·.allowedIps) =
      ((peers.map Peer.core).filter (·.id ≠ i)).flatMap (·.allowedIps) := by
    rw [List.filter_map, List.flatMap_map]
    rfl
  unfold ensureNoConflict
  rw [hmap peers, hmap others, h]

/-- What an edit writes does not depend on what a pass changes. -/
theorem edited_row_same (crates : Crates) (input : UpdatePeerInput) {peers others : List Peer}
    (enabled : Bool) (updatedAt : DateTime) (h : peers.map Peer.core = others.map Peer.core) :
    editedRow crates input { base with enabled, updatedAt } peers =
      (editedRow crates input base others).map fun row => { row with updatedAt } := by
  have hedit : input.edit { base with enabled, updatedAt } =
      { input.edit base with updatedAt } := rfl
  unfold editedRow
  rw [hedit]
  generalize input.edit base = row
  dsimp only
  rw [conflict_of_cores base.id h]
  cases ensureNoConflict input.allowedIps (others.filter (·.id ≠ base.id)) with
  | error e => rfl
  | ok value =>
      simp only [bind, Except.bind]
      exact rekeyed_retimed crates row updatedAt _ _

end Rows

/-! ## The two at the same time -/

/-- What is noted of the two: the time the pass read first, and whether the edit has written the row
since the pass read it. -/
structure PassNotes where
  clock : Option DateTime
  stale : Bool

/-- The statement writes the row of the peer. -/
def Sys.writesPeer (id : Id PeerMarker) : Sys → Bool
  | .updatePeer row _ => row.id = id
  | _ => false

/-- The pass is the first program, the edit the second. -/
def passObserver (id : Id PeerMarker) : Observer Sys World Env PassNotes := fun r slot _ c =>
  if slot.thread = 0 then
    match c with
    | .utcNow => { r with clock := r.clock.orElse fun _ => some slot.moment.now }
    | .listPeers | .findPeer _ => { r with stale := false }
    | _ => r
  else if c.writesPeer id then { r with stale := true }
  else r

/-- The pass does not write the row after the edit has written it since the pass read it. -/
def PassNotes.Guard (id : Id PeerMarker) (r : PassNotes) (slot : Slot Env) (_ : World) (c : Sys) :
    Prop :=
  slot.thread = 0 → c.writesPeer id = true → r.stale = false

instance (id : Id PeerMarker) (r : PassNotes) (slot : Slot Env) (w : World) (c : Sys) :
    Decidable (r.Guard id slot w c) :=
  inferInstanceAs (Decidable (_ → _ → _))

/-- The row the pass has yet to write over the row it has read, or, once nothing remains, the row
as the pass leaves it. -/
def Due (status : Peer → Option Bool) (base current : Peer) : Option Peer → Prop
  | none => current.untimed = (base.switched status).untimed
  | some row => ∃ peer enabled, peer.untimed = base.untimed ∧ current.untimed = base.untimed ∧
      status peer = some enabled ∧ row = { peer with enabled }

namespace PassPhase

/-- The row before the edit writes it. -/
def Before (rule : StatusRule) (original current : Peer) : PassPhase → Prop
  | started | clocked _ => current = original
  | listed now _ todo => Due (rule now) original current todo
  | failed => False

/-- The row after the edit has written it. -/
def After (rule : StatusRule) (edited : Option Peer) (original current : Peer) (stale : Bool) :
    PassPhase → Prop
  | started | clocked _ => current.untimed = (original.overwritten edited).untimed
  | listed now _ todo =>
      if stale then
        todo = none →
          current.untimed = ((original.switched (rule now)).overwritten edited).untimed
      else Due (rule now) (original.overwritten edited) current todo
  | failed => False

/-- The pass decides by the time it has read, unless it always decides alike. -/
def Timed (rule : StatusRule) (clock : Option DateTime) : PassPhase → Prop
  | started => clock = none
  | clocked now | listed now _ _ => clock = some now ∨ ∀ t, rule t = rule now
  | failed => False

/-- What holds of every peer the pass has listed. -/
def Lists (prop : Peer → Prop) : PassPhase → Prop
  | listed _ peers _ => ∀ peer ∈ peers, prop peer
  | _ => True

end PassPhase

namespace EditPhase

/-- The edit has written the row. -/
def Wrote : EditPhase → Prop
  | wrote => True
  | _ => False

/-- The edit has a name to set, and it has read the row up to its status. -/
def Read (input : UpdatePeerInput) (original old : Peer) : Prop :=
  (Text.trim input.name).isEmpty = false ∧
    ∃ enabled updatedAt, old = { original with enabled, updatedAt }

/-- What the edit has read is still so. -/
def Known (w : World) (input : UpdatePeerInput) (original : Peer) : EditPhase → Prop
  | started | wrote => True
  | found old => Read input original old
  | targeted old => Read input original old ∧ (w.db.interfaces.find input.interfaceId).isSome
  | checked old peers => Read input original old ∧ (w.db.interfaces.find input.interfaceId).isSome ∧
      peers.map Peer.core = (w.db.peersOf input.interfaceId).map Peer.core
  | declined => w.db.interfaces.find input.interfaceId = none
  | failed => False

end EditPhase

/-- A pass and an edit of a row that was read from a world at first. -/
structure Together (first : World) (id : Id PeerMarker) (rule : StatusRule) (crates : Crates)
    (input : UpdatePeerInput) (original : Peer) (phase : PassPhase) (phase' : EditPhase) (w : World)
    (r : PassNotes) : Prop where
  interfaces : w.db.interfaces = first.db.interfaces
  timed : phase.Timed rule r.clock
  listed : phase.Lists fun peer => (first.db.interfaces.find peer.interfaceId).isSome
  known : phase'.Known first input original
  before : ¬ phase'.Wrote → w.db.cores = first.db.cores ∧
    (phase.Lists fun peer => peer.core ∈ first.db.cores) ∧
    ∃ current, w.db.peers.find id = some current ∧ phase.Before rule original current
  after : phase'.Wrote → (editedIn crates first input original).isSome ∧
    ∃ current, w.db.peers.find id = some current ∧
      phase.After rule (editedIn crates first input original) original current r.stale

namespace Together

variable {first w w' : World} {original : Peer} {phase : PassPhase} {phase' : EditPhase}
  {r : PassNotes}

/-- The two concern the database only. -/
theorem congr (h : Together first id rule crates input original phase phase' w r)
    (hdb : w'.db = w.db) : Together first id rule crates input original phase phase' w' r := by
  have hbefore := h.before
  have hafter := h.after
  rw [← hdb] at hbefore hafter
  exact ⟨hdb ▸ h.interfaces, h.timed, h.listed, h.known, hbefore, hafter⟩

/-- The row of the peer is there. -/
theorem row (h : Together first id rule crates input original phase phase' w r) :
    ∃ current, w.db.peers.find id = some current := by
  by_cases hwrote : phase'.Wrote
  · obtain ⟨-, current, hcurrent, -⟩ := h.after hwrote
    exact ⟨current, hcurrent⟩
  · obtain ⟨-, -, current, hcurrent, -⟩ := h.before hwrote
    exact ⟨current, hcurrent⟩

/-- The pass has read the clock. -/
theorem clock (h : Together first id rule crates input original phase phase' w r) (now : DateTime) :
    Together first id rule crates input original (phase.clock now) phase' w
      { r with clock := r.clock.orElse fun _ => some now } := by
  have hkeep {now' : DateTime} (htimed : r.clock = some now' ∨ ∀ t, rule t = rule now') :
      (r.clock.orElse fun _ => some now) = some now' ∨ ∀ t, rule t = rule now' :=
    htimed.imp_left fun hclock => by rw [hclock]; rfl
  cases phase with
  | started =>
      have hclock : r.clock = none := h.timed
      exact ⟨h.interfaces, .inl (by rw [hclock]; rfl), h.listed, h.known, h.before, h.after⟩
  | clocked => exact { h with timed := hkeep h.timed }
  | listed => exact { h with timed := hkeep h.timed }
  | failed => exact h.timed.elim

/-- What is due for a row that is listed. -/
theorem due_of_mem {status : Peer → Option Bool} (hstatus : Timeless status) {peers : List Peer}
    {base current : Peer} (hnodup : (peers.map Peer.id).Nodup) (hmem : current ∈ peers)
    (hid : current.id = id) (hsame : current.untimed = base.untimed) :
    Due status base current (PassPhase.due id status peers) := by
  have hfind : peers.find? (·.id = id) = some current := by
    have hsome : (peers.find? (·.id = id)).isSome :=
      List.find?_isSome.mpr ⟨current, hmem, decide_eq_true hid⟩
    obtain ⟨peer, hpeer⟩ := Option.isSome_iff_exists.mp hsome
    have hpid : peer.id = id := by simpa using List.find?_some hpeer
    rw [hpeer, List.inj_on_of_nodup_map hnodup (List.mem_of_find?_eq_some hpeer) hmem
      (hpid.trans hid.symm)]
  unfold PassPhase.due
  rw [hfind, Option.bind_some]
  cases hcurrent : status current with
  | none =>
      have hbase : status base = none :=
        (column_of_untimed hsame status hstatus).symm.trans hcurrent
      show current.untimed = (base.switched status).untimed
      rw [switched_of_none hbase]
      exact hsame
  | some enabled => exact ⟨current, enabled, hsame, hsame, hcurrent, rfl⟩

/-- The pass has listed rows of the world, the one of the peer among them. -/
theorem list (hrule : ∀ now, Timeless (rule now)) {now : DateTime} {peers : List Peer}
    (h : Together first id rule crates input original (.clocked now) phase' w r)
    (hnodup : (peers.map Peer.id).Nodup) (hrows : ∀ peer ∈ peers, peer ∈ w.db.peers.rows)
    (hhere : ∀ current, w.db.peers.find id = some current → current ∈ peers) :
    Together first id rule crates input original ((PassPhase.clocked now).list id rule peers) phase'
      w { r with stale := false } := by
  have hdue {base current : Peer} (hcurrent : w.db.peers.find id = some current)
      (hsame : current.untimed = base.untimed) :
      Due (rule now) base current (PassPhase.due id (rule now) peers) :=
    due_of_mem (hrule now) hnodup (hhere current hcurrent) (Table.find_eq_some.mp hcurrent).2 hsame
  have hlist : (PassPhase.clocked now).list id rule peers =
      .listed now peers (PassPhase.due id (rule now) peers) := if_pos hnodup
  rw [hlist]
  refine ⟨h.interfaces, h.timed, fun peer hpeer => ?_, h.known, fun hwrote => ?_, fun hwrote => ?_⟩
  · rw [← h.interfaces]
    exact w.db.references peer (hrows peer hpeer)
  · obtain ⟨hcores, -, current, hcurrent, hbefore⟩ := h.before hwrote
    refine ⟨hcores, fun peer hpeer => ?_, current, hcurrent, hdue hcurrent (hbefore ▸ rfl)⟩
    rw [← hcores]
    exact List.mem_map_of_mem (hrows peer hpeer)
  · obtain ⟨hedited, current, hcurrent, hafter⟩ := h.after hwrote
    exact ⟨hedited, current, hcurrent, hdue hcurrent hafter⟩

/-- The row of the peer after a write. -/
theorem find_update {db db' : Db} {row : Peer} {now : DateTime}
    (h : db.updatePeer row now = .ok db') :
    db'.peers.find id = (db.peers.find id).map (Db.setPeer row now) := by
  unfold Db.updatePeer at h
  split at h
  · cases h
    exact Table.find_modify (h := Db.set_peer_id row now)
  · cases h

theorem set_peer_other {row peer : Peer} (h : peer.id ≠ row.id) (now : DateTime) :
    Db.setPeer row now peer = peer :=
  if_neg h

/-- A row that is written back is no longer due, and the others still are. -/
theorem due_written {status : Peer → Option Bool} (hstatus : Timeless status)
    {base current row : Peer} {todo : Option Peer} (h : Due status base current todo)
    (hid : current.id = id) (hdue : row.id = id → todo = some row) (now : DateTime) :
    Due status base (Db.setPeer row now current) (if row.id = id then none else todo) := by
  by_cases hrow : row.id = id
  · rw [hdue hrow] at h
    obtain ⟨peer, enabled, hpeer, hcurrent, hswitch, rfl⟩ := h
    rw [if_pos hrow]
    exact written_switched hstatus hpeer hcurrent hswitch now
  · rw [if_neg hrow, set_peer_other fun heq => hrow (heq.symm.trans hid)]
    exact h

/-- The pass has written a row back. -/
theorem write (hrule : ∀ now, Timeless (rule now)) {now t : DateTime} {peers : List Peer}
    {todo : Option Peer} {row : Peer} {db : Db}
    (h : Together first id rule crates input original (.listed now peers todo) phase' w r)
    (hlist : ∃ peer ∈ peers, row = { peer with enabled := row.enabled })
    (hdue : row.id = id → todo = some row) (hguard : row.id = id → r.stale = false)
    (hdb : w.db.updatePeer row t = .ok db) :
    Together first id rule crates input original
      (.listed now peers (if row.id = id then none else todo)) phase' { w with db } r := by
  obtain ⟨peer, hpeer, hrow⟩ := hlist
  have hfind {current : Peer} (hcurrent : w.db.peers.find id = some current) :
      db.peers.find id = some (Db.setPeer row t current) := by
    rw [find_update hdb, hcurrent]
    rfl
  refine ⟨(Db.update_peer_ok hdb).2.trans h.interfaces, h.timed, h.listed, h.known, ?_, ?_⟩
  · intro hwrote
    obtain ⟨hcores, hlists, current, hcurrent, hbefore⟩ := h.before hwrote
    have hcore : peer.core ∈ w.db.cores := hcores ▸ hlists peer hpeer
    rw [hrow] at hdb
    exact ⟨(Db.cores_update hcore hdb).trans hcores, hlists, _, hfind hcurrent,
      due_written (hrule now) hbefore (Table.find_eq_some.mp hcurrent).2 hdue t⟩
  · intro hwrote
    obtain ⟨hedited, current, hcurrent, hafter⟩ := h.after hwrote
    have hid : current.id = id := (Table.find_eq_some.mp hcurrent).2
    refine ⟨hedited, _, hfind hcurrent, ?_⟩
    cases hstale : r.stale with
    | true =>
        have hne : row.id ≠ id := fun heq => by simp [hguard heq] at hstale
        rw [hstale] at hafter
        rw [if_neg hne, set_peer_other fun heq => hne (heq.symm.trans hid)]
        exact hafter
    | false =>
        rw [hstale] at hafter
        exact due_written (hrule now) hafter hid hdue t

/-- A write that the database takes. -/
theorem serve_update_peer {env : Env} {row : Peer} {t : DateTime} {db : Db}
    (hdb : w.db.updatePeer row t = .ok db) :
    env.serve (.updatePeer row t) w = (.ok (), { w.seen env with db }) := by
  have hseen : (w.seen env).db.updatePeer row t = .ok db := hdb
  simp only [Env.serve, handle, Plan.write, Plan.run, Plan.none, hseen]

/-- A call of the pass. -/
theorem left (hrule : ∀ now, Timeless (rule now)) {c : Sys} (slot : Slot Env)
    (hslot : slot.thread = 0) (hallowed : (pass id rule).allowed phase c)
    (hguard : r.Guard id slot w c)
    (h : Together first id rule crates input original phase phase' w r) :
    Together first id rule crates input original
      ((pass id rule).next phase c (slot.moment.serve c w).1) phase' (slot.moment.serve c w).2
      (passObserver id r slot w c) := by
  have hobserve : passObserver id r slot w c = _ := if_pos hslot
  rw [hobserve]
  have hseen : Together first id rule crates input original phase phase' (w.seen slot.moment) r :=
    h.congr rfl
  rcases hallowed with rfl | hallowed
  · exact h.timed.elim
  cases c with
  | utcNow => exact hseen.clock slot.moment.now
  | openApi name => exact hseen
  | configurePeer name peer => exact hseen.congr rfl
  | removePeer name key => exact hseen.congr rfl
  | listPeers =>
      obtain ⟨now, rfl⟩ := hallowed
      refine hseen.list hrule ?_ (fun peer hpeer => mem_sorted_by.mp hpeer)
        fun current hcurrent => ?_
      · exact nodup_map_sorted_by w.db.peers.nodup
      · exact mem_sorted_by.mpr (Table.find_eq_some.mp hcurrent).1
  | findPeer i =>
      obtain ⟨rfl, now, rfl⟩ := hallowed
      obtain ⟨current, hcurrent⟩ := h.row
      have hreply : (slot.moment.serve (.findPeer i) w).1 = .ok (some current) :=
        congrArg Except.ok hcurrent
      rw [hreply]
      show Together first i rule crates input original
        ((PassPhase.clocked now).list i rule [current]) phase' _ _
      refine hseen.list hrule (List.nodup_singleton _) (fun peer hpeer => ?_) fun other hother => ?_
      · rw [List.mem_singleton.mp hpeer]
        exact (Table.find_eq_some.mp hcurrent).1
      · exact List.mem_singleton.mpr (Option.some.inj (hother.symm.trans hcurrent))
  | findInterface i =>
      obtain ⟨now, peers, todo, rfl, peer, hpeer, rfl⟩ := hallowed
      have hsome : (w.db.interfaces.find peer.interfaceId).isSome := by
        rw [h.interfaces]
        exact h.listed peer hpeer
      obtain ⟨iface, hiface⟩ := Option.isSome_iff_exists.mp hsome
      have hreply : (slot.moment.serve (.findInterface peer.interfaceId) w).1 = .ok (some iface) :=
        congrArg Except.ok hiface
      rw [hreply]
      exact hseen
  | updatePeer row t =>
      obtain ⟨now, peers, todo, rfl, hlist, hdue⟩ := hallowed
      obtain ⟨peer, hpeer, hrow⟩ := hlist
      have hsome : (w.db.interfaces.find row.interfaceId).isSome := by
        rw [h.interfaces, hrow]
        exact h.listed peer hpeer
      obtain ⟨db, hdb⟩ := Db.update_peer_exists hsome t
      rw [serve_update_peer hdb]
      refine hseen.write hrule ⟨peer, hpeer, hrow⟩ hdue (fun hid => ?_) hdb
      exact hguard hslot (decide_eq_true hid)
  | _ => exact hallowed.elim

/-- The row that the edit reads before it writes. -/
theorem reads (h : Together first id rule crates input original phase phase' w r)
    (hwrote : ¬ phase'.Wrote) : ∃ current, w.db.peers.find id = some current ∧
      ∃ enabled updatedAt, current = { original with enabled, updatedAt } := by
  obtain ⟨-, -, current, hcurrent, hbefore⟩ := h.before hwrote
  refine ⟨current, hcurrent, ?_⟩
  have hrow : current = original ∨
      ∃ status, current.untimed = (original.switched status).untimed := by
    cases phase with
    | started => exact .inl hbefore
    | clocked now => exact .inl hbefore
    | failed => exact hbefore.elim
    | listed now peers todo =>
        cases todo with
        | none => exact .inr ⟨_, hbefore⟩
        | some row =>
            obtain ⟨-, -, -, hcurrent, -⟩ := hbefore
            exact .inr ⟨fun _ => none, hcurrent⟩
  rcases hrow with rfl | ⟨status, hrow⟩
  · exact ⟨_, _, rfl⟩
  · exact switched_row hrow

/-- What the peers of an interface have apart from what a pass changes. -/
theorem peers_of_cores {db db' : Db} (h : db.cores = db'.cores) (i : Id InterfaceMarker) :
    (db.peersOf i).map Peer.core = (db'.peersOf i).map Peer.core := by
  have hmap (db : Db) : (db.peersOf i).map Peer.core =
      sortedBy Peer.createdAt (db.cores.filter (·.interfaceId = i)) := by
    have hsort (peers : List Peer) : (sortedBy Peer.createdAt peers).map Peer.core =
        sortedBy Peer.createdAt (peers.map Peer.core) :=
      List.map_insertionSort _ _ _ _ fun _ _ _ _ => Iff.rfl
    unfold Db.peersOf Db.cores
    rw [hsort, List.filter_map]
    rfl
  rw [hmap, hmap, h]

/-- The edit writes the row that it would write at first, up to its time. -/
theorem edited_of_checked {old : Peer} {peers : List Peer}
    (h : (EditPhase.checked old peers).Known first input original) :
    (∀ row, editedRow crates input old peers = .ok row →
      ∃ edited, editedIn crates first input original = some edited ∧ row.untimed = edited.untimed) ∧
    ((∃ e, editedRow crates input old peers = .error e) →
      editedIn crates first input original = none) := by
  obtain ⟨⟨hname, enabled, updatedAt, rfl⟩, hsome, hpeers⟩ := h
  have hnone : (first.db.interfaces.find input.interfaceId).isNone = false := by
    rw [← Option.not_isSome, hsome]
    rfl
  have hedited : editedIn crates first input original =
      (editedRow crates input original (first.db.peersOf input.interfaceId)).toOption := by
    unfold editedIn
    rw [hname, hnone]
    rfl
  rw [edited_row_same crates input enabled updatedAt hpeers, hedited]
  cases editedRow crates input original (first.db.peersOf input.interfaceId) with
  | error e =>
      refine ⟨fun row h => ?_, fun _ => rfl⟩
      cases h
  | ok edited =>
      refine ⟨fun row h => ?_, fun h => ?_⟩
      · cases h
        exact ⟨edited, rfl, rfl⟩
      · obtain ⟨e, h⟩ := h
        cases h

/-- The row that an edit writes is one of the peer, on the interface it is to have. -/
theorem edited_row_id {old row : Peer} {peers : List Peer}
    (h : editedRow crates input old peers = .ok row) :
    row.id = old.id ∧ row.interfaceId = input.interfaceId := by
  obtain ⟨value, -, hrekeyed⟩ := Outcome.bind_ok.mp h
  obtain ⟨hid, hinterface, -⟩ := PeerService.rekeyed_row hrekeyed
  exact ⟨hid, hinterface⟩

/-- The edit has written the row, and what the pass has read before is stale. -/
theorem store {old row : Peer} {peers : List Peer} {t : DateTime} {db : Db}
    (h : Together first id rule crates input original phase (.checked old peers) w r)
    (hrow : editedRow crates input old peers = .ok row) (hdb : w.db.updatePeer row t = .ok db) :
    Together first id rule crates input original phase .wrote { w with db }
      { r with stale := true } := by
  obtain ⟨edited, hedited, huntimed⟩ := (edited_of_checked h.known).1 row hrow
  obtain ⟨-, -, current, hcurrent, hbefore⟩ := h.before fun hwrote => hwrote
  have hfind : db.peers.find id = some (Db.setPeer row t current) := by
    rw [find_update hdb, hcurrent]
    rfl
  have hwritten {base : Peer} (hsame : current.untimed = base.untimed) :
      (Db.setPeer row t current).untimed =
        (base.overwritten (editedIn crates first input original)).untimed := by
    rw [hedited]
    exact set_peer_untimed huntimed hsame _ _
  refine ⟨(Db.update_peer_ok hdb).2.trans h.interfaces, h.timed, h.listed, trivial,
    fun hnot => absurd trivial hnot, fun _ => ⟨by rw [hedited]; rfl, _, hfind, ?_⟩⟩
  cases phase with
  | started => exact hwritten (hbefore ▸ rfl)
  | clocked now => exact hwritten (hbefore ▸ rfl)
  | failed => exact hbefore.elim
  | listed now peers todo =>
      intro htodo
      subst htodo
      exact hwritten hbefore

/-- The edit writes no row but that of the peer. -/
theorem edit_writes {row : Peer} {t : DateTime} (hid : original.id = id)
    (hallowed : (edit crates id input).allowed phase' (.updatePeer row t))
    (h : Together first id rule crates input original phase phase' w r) :
    (Sys.updatePeer row t).writesPeer id = true := by
  cases phase' with
  | started => exact nomatch hallowed.1
  | found old => exact nomatch hallowed
  | targeted old => exact nomatch hallowed
  | checked old peers =>
      obtain hallowed | ⟨row', t', heq, hrow⟩ := hallowed
      · cases hallowed
      · cases heq
        obtain ⟨⟨-, enabled, updatedAt, rfl⟩, -⟩ := h.known
        exact decide_eq_true ((edited_row_id hrow).1.trans hid)
  | declined => exact hallowed.elim
  | wrote =>
      obtain ⟨i, hallowed⟩ | ⟨name, hallowed⟩ | ⟨name, peer, hallowed⟩ | ⟨name, key, hallowed⟩ :=
        hallowed <;> cases hallowed
  | failed => exact h.known.elim

/-- A call of the edit. -/
theorem right {c : Sys} (slot : Slot Env) (hslot : slot.thread = 1)
    (hid : original.id = id) (hallowed : (edit crates id input).allowed phase' c)
    (h : Together first id rule crates input original phase phase' w r) :
    Together first id rule crates input original phase
      ((edit crates id input).next phase' c (slot.moment.serve c w).1) (slot.moment.serve c w).2
      (passObserver id r slot w c) := by
  have hobserve : passObserver id r slot w c = _ := if_neg (by omega)
  rw [hobserve]
  have hseen : Together first id rule crates input original phase phase' (w.seen slot.moment) r :=
    h.congr rfl
  cases phase' with
  | started =>
      obtain ⟨rfl, hname⟩ := hallowed
      obtain ⟨current, hcurrent, hread⟩ := h.reads fun hwrote => hwrote
      have hreply : (slot.moment.serve (.findPeer id) w).1 = .ok (some current) :=
        congrArg Except.ok hcurrent
      rw [hreply]
      exact { hseen with known := ⟨hname, hread⟩ }
  | found old =>
      obtain rfl : c = .findInterface input.interfaceId := hallowed
      have hreply : (slot.moment.serve (.findInterface input.interfaceId) w).1 =
          .ok (first.db.interfaces.find input.interfaceId) := by
        rw [← h.interfaces]
        rfl
      rw [hreply]
      cases hfind : first.db.interfaces.find input.interfaceId with
      | none => exact { hseen with known := hfind }
      | some iface => exact { hseen with known := ⟨h.known, by rw [hfind]; rfl⟩ }
  | targeted old =>
      obtain rfl : c = .listPeersOf input.interfaceId := hallowed
      obtain ⟨hcores, -⟩ := h.before fun hwrote => hwrote
      exact { hseen with known := ⟨h.known.1, h.known.2, peers_of_cores hcores _⟩ }
  | checked old peers =>
      rcases hallowed with rfl | ⟨row, t, rfl, hrow⟩
      · exact hseen
      · obtain ⟨-, hsome, -⟩ := h.known
        have hinterface := (edited_row_id hrow).2
        have hstore : (edit crates id input).allowed (.checked old peers) (.updatePeer row t) :=
          Or.inr ⟨row, t, rfl, hrow⟩
        have hwrites : (Sys.updatePeer row t).writesPeer id = true := edit_writes hid hstore h
        have hexists : (w.db.interfaces.find row.interfaceId).isSome := by
          rw [h.interfaces, hinterface]
          exact hsome
        obtain ⟨db, hdb⟩ := Db.update_peer_exists hexists t
        rw [serve_update_peer hdb, if_pos hwrites]
        exact hseen.store hrow hdb
  | declined => exact hallowed.elim
  | wrote =>
      rcases hallowed with ⟨i, rfl⟩ | ⟨name, rfl⟩ | ⟨name, peer, rfl⟩ | ⟨name, key, rfl⟩
      · exact hseen
      · exact hseen
      · exact hseen.congr rfl
      · exact hseen.congr rfl
  | failed => exact h.known.elim

/-- The calls keep the two together. -/
theorem keeps (hrule : ∀ now, Timeless (rule now)) (hid : original.id = id) :
    Observed.Duo.Keeps (pass id rule) (edit crates id input)
      (Together first id rule crates input original) Env.serve (passObserver id)
      (PassNotes.Guard id) where
  left _ _ _ _ _ _ hslot hallowed hguard h := h.left hrule _ hslot hallowed hguard
  right _ _ _ _ _ _ hslot hallowed _ h := h.right _ hslot hid hallowed

/-- An edit that has ended without a write has nothing to write. -/
theorem unedited (h : Together first id rule crates input original phase phase' w r)
    (hwrote : ¬ phase'.Wrote) (hconcluded : phase'.Concluded crates input) :
    editedIn crates first input original = none := by
  cases phase' with
  | started =>
      have hname : (Text.trim input.name).isEmpty = true := hconcluded
      unfold editedIn
      rw [hname]
      rfl
  | checked old peers => exact (edited_of_checked h.known).2 hconcluded
  | declined =>
      have hfind : first.db.interfaces.find input.interfaceId = none := h.known
      unfold editedIn
      rw [hfind]
      exact if_pos (Bool.or_true _)
  | wrote => exact absurd trivial hwrote
  | failed => exact h.known.elim
  | found old => exact hconcluded.elim
  | targeted old => exact hconcluded.elim

/-- Both have finished: the row is as after the two in one of the two orders. -/
theorem outcome (h : Together first id rule crates input original phase phase' w r)
    (hsettled : phase.Settled) (hconcluded : phase'.Concluded crates input) :
    ∃ current now, w.db.peers.find id = some current ∧
      (r.clock = some now ∨ ∀ t, rule t = rule now) ∧
      ((phase'.Wrote → r.stale = true) → current.untimed = ((original.switched
        (rule now)).overwritten (editedIn crates first input original)).untimed) ∧
      ((phase'.Wrote → r.stale = false) → current.untimed = ((original.overwritten
        (editedIn crates first input original)).switched (rule now)).untimed) := by
  cases phase with
  | failed => exact h.timed.elim
  | started => exact hsettled.elim
  | clocked now => exact hsettled.elim
  | listed now peers todo =>
      have htodo : todo = none := by
        cases todo with
        | none => rfl
        | some row => exact hsettled.elim
      subst htodo
      by_cases hwrote : phase'.Wrote
      · obtain ⟨-, current, hcurrent, hafter⟩ := h.after hwrote
        refine ⟨current, now, hcurrent, h.timed, fun hstale => ?_, fun hstale => ?_⟩
        · rw [hstale hwrote] at hafter
          exact hafter rfl
        · rw [hstale hwrote] at hafter
          exact hafter
      · obtain ⟨-, -, current, hcurrent, hbefore⟩ := h.before hwrote
        rw [h.unedited hwrote hconcluded]
        exact ⟨current, now, hcurrent, h.timed, fun _ => hbefore, fun _ => hbefore⟩

/-! ### One alone -/

/-- Nothing is stale for a pass that has read nothing. -/
theorem fresh {clock : Option DateTime} {stale : Bool}
    (h : Together first id rule crates input original phase phase' w ⟨clock, stale⟩)
    (hphase : ∀ now peers todo, phase ≠ .listed now peers todo) :
    Together first id rule crates input original phase phase' w ⟨clock, false⟩ := by
  refine ⟨h.interfaces, h.timed, h.listed, h.known, h.before, fun hwrote => ?_⟩
  obtain ⟨hedited, current, hcurrent, hafter⟩ := h.after hwrote
  refine ⟨hedited, current, hcurrent, ?_⟩
  cases phase with
  | listed now peers todo => exact absurd rfl (hphase now peers todo)
  | started => exact hafter
  | clocked now => exact hafter
  | failed => exact hafter

/-- The pass alone: it reads no time but that of the moment, and nothing is stale. -/
theorem pass_alone {clock : Option DateTime} {α : Type} {post : PassPhase → α → Prop}
    {program : Program Sys Sys.Reply α}
    (h : Together first id rule crates input original phase phase' w ⟨clock, false⟩)
    (hrule : ∀ now, Timeless (rule now)) (env : Env)
    (hfollows : Follows (pass id rule) post phase program)
    (hclock : ∀ t, clock = some t → t = env.now) :
    ∃ last clock', post last (program.exec env.serve w).1 ∧
      (∀ t, clock' = some t → t = env.now) ∧
      Together first id rule crates input original last phase' (program.exec env.serve w).2
        ⟨clock', false⟩ := by
  have hcall : ∀ phase c w, (pass id rule).allowed phase c →
      (∃ clock, (∀ t, clock = some t → t = env.now) ∧
        Together first id rule crates input original phase phase' w ⟨clock, false⟩) →
      ∃ clock, (∀ t, clock = some t → t = env.now) ∧
        Together first id rule crates input original ((pass id rule).next phase c (env.serve c w).1)
          phase' (env.serve c w).2 ⟨clock, false⟩ := by
    intro phase c w hallowed hknow
    obtain ⟨clock, hclock, h⟩ := hknow
    have hleft := h.left hrule ⟨0, env⟩ rfl hallowed fun _ _ => rfl
    cases c with
    | utcNow =>
        refine ⟨_, fun t ht => ?_, hleft⟩
        cases clock with
        | none => exact (Option.some.inj ht).symm
        | some t' => exact hclock t ht
    | _ => exact ⟨clock, hclock, hleft⟩
  obtain ⟨last, hpost, clock', hclock', htogether⟩ :=
    hfollows.exec hcall ⟨clock, hclock, h⟩
  exact ⟨last, clock', hpost, hclock', htogether⟩

/-- The edit comes to have written the row by writing it. -/
theorem wrote_next {c : Sys} {reply : c.Reply}
    (h : ((edit crates id input).next phase' c reply).Wrote) :
    phase'.Wrote ∨ ∃ row t, c = .updatePeer row t := by
  unfold edit at h
  dsimp only at h
  split at h
  all_goals first
    | exact h.elim
    | exact .inl trivial
    | exact .inr ⟨_, _, rfl⟩

/-- The edit alone: once it has written the row, what has been read before is stale. -/
theorem edit_alone {clock : Option DateTime} {stale : Bool} {α : Type}
    {post : EditPhase → α → Prop} {program : Program Sys Sys.Reply α}
    (h : Together first id rule crates input original phase phase' w ⟨clock, stale⟩)
    (hid : original.id = id) (env : Env)
    (hfollows : Follows (edit crates id input) post phase' program)
    (hstale : phase'.Wrote → stale = true) :
    ∃ last stale', post last (program.exec env.serve w).1 ∧ (last.Wrote → stale' = true) ∧
      Together first id rule crates input original phase last (program.exec env.serve w).2
        ⟨clock, stale'⟩ := by
  have hcall : ∀ phase' c w, (edit crates id input).allowed phase' c →
      (∃ stale, (phase'.Wrote → stale = true) ∧
        Together first id rule crates input original phase phase' w ⟨clock, stale⟩) →
      ∃ stale, (((edit crates id input).next phase' c (env.serve c w).1).Wrote → stale = true) ∧
        Together first id rule crates input original phase
          ((edit crates id input).next phase' c (env.serve c w).1) (env.serve c w).2
          ⟨clock, stale⟩ := by
    intro phase' c w hallowed hknow
    obtain ⟨stale, hstale, h⟩ := hknow
    have hright := h.right ⟨1, env⟩ rfl hid hallowed
    have hobserve : passObserver id ⟨clock, stale⟩ ⟨1, env⟩ w c =
        ⟨clock, if c.writesPeer id then true else stale⟩ := by
      show (if c.writesPeer id then _ else _) = _
      split <;> rfl
    rw [hobserve] at hright
    refine ⟨_, fun hwrote => ?_, hright⟩
    rcases wrote_next hwrote with hwrote | ⟨row, t, rfl⟩
    · rw [hstale hwrote]
      exact ite_self true
    · rw [if_pos (edit_writes hid hallowed h)]
  obtain ⟨last, hpost, stale', hstale', htogether⟩ :=
    hfollows.exec hcall ⟨stale, hstale, h⟩
  exact ⟨last, stale', hpost, hstale', htogether⟩

end Together

/-! ## The passes -/

/-- A background pass: one of the scheduler, or the poller that disables the peer. -/
inductive BackgroundPass where
  | runOnce
  | disablePeer
  deriving DecidableEq

namespace BackgroundPass

/-- The program of a pass. -/
def program (crates : Crates) (id : Id PeerMarker) : BackgroundPass → Program Sys Sys.Reply Unit
  | runOnce => (fun _ => ()) <$> ExceptT.run (Scheduler.runOnce crates)
  | disablePeer => (fun _ => ()) <$> ExceptT.run (Poller.disablePeer id)

/-- The status that a pass gives a row. -/
def statusRule (crates : Crates) : BackgroundPass → StatusRule
  | runOnce => Scheduler.rule crates
  | disablePeer => Poller.rule

/-- The poller does not read the clock first. -/
def start : BackgroundPass → PassPhase
  | runOnce => .started
  | disablePeer => .clocked ⟨0⟩

variable {background : BackgroundPass}

theorem rule_timeless (now : DateTime) : Timeless (background.statusRule crates now) := by
  intro peer
  cases background <;> rfl

theorem program_follows :
    Follows (pass id (background.statusRule crates)) (fun phase _ => phase.Settled) background.start
      (background.program crates id) := by
  cases background with
  | runOnce => exact Follows.map.mpr (run_once_follows crates id)
  | disablePeer => exact Follows.map.mpr (disable_peer_follows id)

/-- The two have not begun. -/
theorem together_start {w : World} {row : Peer} (hrow : w.db.peers.find id = some row)
    (clock : Option DateTime) (hclock : clock = none) (stale : Bool) :
    Together w id (background.statusRule crates) crates input row background.start .started w
      ⟨clock, stale⟩ := by
  subst hclock
  refine ⟨rfl, ?_, ?_, trivial, fun _ => ⟨rfl, ?_, row, hrow, ?_⟩, fun hwrote => hwrote.elim⟩
  · cases background with
    | runOnce => rfl
    | disablePeer => exact .inr fun _ => rfl
  · cases background <;> trivial
  · cases background <;> trivial
  · cases background <;> rfl

end BackgroundPass

/-- The program of an edit. -/
def editProgram (crates : Crates) (id : Id PeerMarker) (input : UpdatePeerInput) :
    Program Sys Sys.Reply Unit :=
  (fun _ => ()) <$> (PeerService.update crates id input).run

theorem edit_program_follows :
    Follows (edit crates id input) (fun phase _ => phase.Concluded crates input) .started
      (editProgram crates id input) := by
  unfold editProgram
  rw [Follows.map]
  exact update_follows crates id input

/-! ## Every interleaving -/

/-- The row of a peer up to its time. -/
def World.peerRow (w : World) (id : Id PeerMarker) : Option Peer :=
  (w.db.peers.find id).map Peer.untimed

/-- Two programs that run one after the other, at one moment. -/
def World.inTurn (w : World) (env : Env) (first second : Program Sys Sys.Reply Unit) : World :=
  (second.exec env.serve (first.exec env.serve w).2).2

/-- A pass and an edit under observation. -/
abbrev WatchedEdit : Type := Observed Sys Sys.Reply World Unit PassNotes

namespace WatchedEdit

/-- A pass and an edit that have not begun. -/
def start (crates : Crates) (w : World) (id : Id PeerMarker) (background : BackgroundPass)
    (input : UpdatePeerInput) : WatchedEdit :=
  ⟨⟨[background.program crates id, editProgram crates id input], w⟩, ⟨none, false⟩⟩

/-- One turn of either. -/
def step (id : Id PeerMarker) : WatchedEdit → Slot Env → WatchedEdit :=
  Observed.step Env.serve (passObserver id)

/-- The pass does not write the row after the edit has written it since the pass read it. -/
def Undisturbed (id : Id PeerMarker) : WatchedEdit → Slot Env → Prop :=
  Observed.Meets (PassNotes.Guard id)

instance (id : Id PeerMarker) (s : WatchedEdit) (slot : Slot Env) :
    Decidable (s.Undisturbed id slot) :=
  inferInstanceAs (Decidable (Observed.Meets _ s slot))

end WatchedEdit

section Orders

variable {w : World} {row : Peer} {background : BackgroundPass} {env : Env}

/-- The rule by which the pass has decided. -/
theorem rule_of_clock {clock : Option DateTime} {now : DateTime}
    (h : clock = some now ∨ ∀ t, rule t = rule now) (hclock : ∀ t, clock = some t → t = env.now) :
    rule now = rule env.now := by
  rcases h with h | h
  · rw [hclock now h]
  · exact (h env.now).symm

/-- The row after the pass and then the edit. -/
theorem pass_then_edit (hrow : w.db.peers.find id = some row) :
    (w.inTurn env (background.program crates id) (editProgram crates id input)).peerRow id =
      some ((row.switched (background.statusRule crates env.now)).overwritten
        (editedIn crates w input row)).untimed := by
  have hid : row.id = id := (Table.find_eq_some.mp hrow).2
  have hpass : Follows (pass id (background.statusRule crates)) (fun phase _ => phase.Settled)
      background.start (background.program crates id) := BackgroundPass.program_follows
  have hstart : Together w id (background.statusRule crates) crates input row background.start
      .started w ⟨none, false⟩ := BackgroundPass.together_start hrow none rfl false
  obtain ⟨phase, clock, hsettled, hclock, hmiddle⟩ :=
    hstart.pass_alone BackgroundPass.rule_timeless env hpass fun t ht => nomatch ht
  obtain ⟨phase', stale, hconcluded, hstale, hend⟩ :=
    hmiddle.edit_alone hid env edit_program_follows fun hwrote => hwrote.elim
  obtain ⟨current, now, hcurrent, hnow, hrest, -⟩ := hend.outcome hsettled hconcluded
  unfold World.peerRow World.inTurn
  rw [hcurrent, ← rule_of_clock hnow hclock, ← hrest hstale]
  rfl

/-- The row after the edit and then the pass. -/
theorem edit_then_pass (hrow : w.db.peers.find id = some row) :
    (w.inTurn env (editProgram crates id input) (background.program crates id)).peerRow id =
      some ((row.overwritten (editedIn crates w input row)).switched
        (background.statusRule crates env.now)).untimed := by
  have hid : row.id = id := (Table.find_eq_some.mp hrow).2
  have hpass : Follows (pass id (background.statusRule crates)) (fun phase _ => phase.Settled)
      background.start (background.program crates id) := BackgroundPass.program_follows
  have hstart : Together w id (background.statusRule crates) crates input row background.start
      .started w ⟨none, false⟩ := BackgroundPass.together_start hrow none rfl false
  obtain ⟨phase', stale, hconcluded, -, hmiddle⟩ :=
    hstart.edit_alone hid env edit_program_follows fun hwrote => hwrote.elim
  have hfresh := hmiddle.fresh fun now peers todo => by
    cases background <;> simp [BackgroundPass.start]
  obtain ⟨phase, clock, hsettled, hclock, hend⟩ :=
    hfresh.pass_alone BackgroundPass.rule_timeless env hpass fun t ht => nomatch ht
  obtain ⟨current, now, hcurrent, hnow, -, hrest⟩ := hend.outcome hsettled hconcluded
  unfold World.peerRow World.inTurn
  rw [hcurrent, ← rule_of_clock hnow hclock, ← hrest fun _ => rfl]
  rfl

end Orders

/-- In whatever order the calls of a pass and of an edit come, the row ends as it would after one
and then the other, at the time the pass has read, as long as the pass does not write the row after
the edit has written it since the pass read it. -/
theorem edits_kept (crates : Crates) (w : World) (id : Id PeerMarker)
    (hpeer : (w.db.peers.find id).isSome) (background : BackgroundPass) (input : UpdatePeerInput)
    (schedule : List (Slot Env)) (final : WatchedEdit)
    (hfinal : final = Runs.after (WatchedEdit.step id) (.start crates w id background input)
      schedule)
    (hdone : final.pool.threads = [.done (), .done ()])
    (hguard : Runs.EachStep (WatchedEdit.step id) (WatchedEdit.Undisturbed id)
      (.start crates w id background input) schedule)
    (env : Env) (hclock : ∀ t, final.record.clock = some t → t = env.now) :
    final.pool.state.peerRow id =
        (w.inTurn env (background.program crates id) (editProgram crates id input)).peerRow id ∨
      final.pool.state.peerRow id =
        (w.inTurn env (editProgram crates id input) (background.program crates id)).peerRow id := by
  obtain ⟨row, hrow⟩ := Option.isSome_iff_exists.mp hpeer
  have hid : row.id = id := (Table.find_eq_some.mp hrow).2
  have hduo : (WatchedEdit.start crates w id background input).Duo
      (pass id (background.statusRule crates)) (fun phase _ => phase.Settled)
      (edit crates id input) (fun phase _ => phase.Concluded crates input)
      (Together w id (background.statusRule crates) crates input row) :=
    ⟨_, _, background.start, .started, rfl, BackgroundPass.program_follows, edit_program_follows,
      BackgroundPass.together_start hrow none rfl false⟩
  have hrun := hduo.run (Together.keeps BackgroundPass.rule_timeless hid) hguard
  rw [pass_then_edit hrow, edit_then_pass hrow]
  have hend : final.Duo _ _ _ _ _ := hfinal ▸ hrun
  obtain ⟨phase, phase', hsettled, hconcluded, htogether⟩ := hend.finished hdone
  obtain ⟨current, now, hcurrent, hnow, hfirst, hsecond⟩ :=
    htogether.outcome hsettled hconcluded
  have hrule := rule_of_clock hnow hclock
  unfold World.peerRow
  rw [hcurrent, ← hrule]
  cases hstale : final.record.stale with
  | true => exact .inl (congrArg some (hfirst fun _ => hstale))
  | false => exact .inr (congrArg some (hsecond fun _ => hstale))

/-- An edit that renames a peer and keeps its keys. -/
def renamed (name : String) : UpdatePeerInput where
  name := name
  interfaceId := ⟨0⟩
  allowedIps := []
  primaryDns := none
  secondaryDns := none
  nat := false
  persistentKeepalive := none
  enabled := true
  publicKey := ""
  privateKey := ""

/-- The poller disables a peer while it is renamed. -/
def renamedWhileDisabled : WatchedEdit :=
  .start .transparent phoneWorld ⟨0⟩ .disablePeer (renamed "tablet")

/-- Turns of the given programs. -/
def editTurns (threads : List Nat) : List (Slot Env) :=
  threads.map fun thread => ⟨thread, (World.fresh []).env⟩

/-- The edit reads the row before the pass has written it and writes it afterwards. -/
theorem edits_kept_rename :
    let final := Runs.after (WatchedEdit.step ⟨0⟩) renamedWhileDisabled
      (editTurns ([0, 1] ++ List.replicate 5 0 ++ List.replicate 6 1))
    final.pool.state.peerRow ⟨0⟩ = (phoneWorld.inTurn (World.fresh []).env
        (BackgroundPass.disablePeer.program .transparent ⟨0⟩)
        (editProgram .transparent ⟨0⟩ (renamed "tablet"))).peerRow ⟨0⟩ ∨
      final.pool.state.peerRow ⟨0⟩ = (phoneWorld.inTurn (World.fresh []).env
        (editProgram .transparent ⟨0⟩ (renamed "tablet"))
        (BackgroundPass.disablePeer.program .transparent ⟨0⟩)).peerRow ⟨0⟩ :=
  edits_kept .transparent phoneWorld ⟨0⟩ rfl .disablePeer (renamed "tablet") _ _ rfl rfl
    (by decide +kernel) (World.fresh []).env fun t ht => by cases ht; rfl

/-- The pass reads the row, the edit writes it, and the pass writes it back: the new name is
lost. -/
theorem edit_lost :
    let final := Runs.after (WatchedEdit.step ⟨0⟩) renamedWhileDisabled
      (editTurns ([0] ++ List.replicate 5 1 ++ List.replicate 5 0 ++ List.replicate 2 1))
    final.pool.threads = [.done (), .done ()] ∧
    final.pool.state.db.peers.rows.map (fun peer => (peer.name, peer.enabled)) =
      [("phone", false)] ∧
    ¬ (final.pool.state.peerRow ⟨0⟩ = (phoneWorld.inTurn (World.fresh []).env
        (BackgroundPass.disablePeer.program .transparent ⟨0⟩)
        (editProgram .transparent ⟨0⟩ (renamed "tablet"))).peerRow ⟨0⟩ ∨
      final.pool.state.peerRow ⟨0⟩ = (phoneWorld.inTurn (World.fresh []).env
        (editProgram .transparent ⟨0⟩ (renamed "tablet"))
        (BackgroundPass.disablePeer.program .transparent ⟨0⟩)).peerRow ⟨0⟩) :=
  ⟨rfl, by decide +kernel, by decide +kernel⟩

end Wireforge
