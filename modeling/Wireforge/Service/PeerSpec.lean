import Wireforge.Lib.Outcome
import Wireforge.Service.InterfaceSpec
import Wireforge.Service.Peer

/-!
# The outcomes of the peer service

One relation per operation lists every way it can end, as for the interface service. `Switched` is
what enabling or disabling a peer does to the world, whoever does it.
-/

namespace Wireforge

open Effect DefguardAdapter

namespace Plan

variable (plan : Plan) (crates : Crates)

/-- The devices after an attempt to bring them in line with a row. -/
def pushed (iface : Interface) (peer : Peer) (devices : Devices) : Devices :=
  if peer.enabled then plan.installed crates iface peer devices
  else plan.uninstalled iface peer.publicKey devices

/-- The devices after an attempt to remove the entry a peer had before an edit. -/
def unstaled (db : Db) (old peer : Peer) (target : Interface) (devices : Devices) : Devices :=
  if peer.interfaceId ≠ old.interfaceId then
    match plan.readInterface db old.interfaceId with
    | some oldIface => plan.uninstalled oldIface old.publicKey devices
    | .none => devices
  else if peer.publicKey ≠ old.publicKey then plan.uninstalled target old.publicKey devices
  else devices

end Plan

variable {plan : Plan} {crates : Crates} {w : World}

theorem mem_peers_of {db : Db} {id : Id InterfaceMarker} {peer : Peer} :
    peer ∈ db.peersOf id ↔ peer ∈ db.peers.rows ∧ peer.interfaceId = id := by
  simp [Db.peersOf]

/-- A row has been written for a peer that is enabled or disabled; unless the write or the look-up
of its interface fails, the kernel is brought in line. -/
inductive Switched (plan : Plan) (crates : Crates) (w : World) (row : Peer) : World → Prop where
  | unsaved : Switched plan crates w row w
  | detached (db : Db) : w.db.updatePeer row w.env.now = .ok db →
      plan.readInterface db row.interfaceId = none → Switched plan crates w row { w with db }
  | pushed (iface : Interface) (db : Db) : w.db.updatePeer row w.env.now = .ok db →
      plan.readInterface db row.interfaceId = some iface →
      Switched plan crates w row { w with db, devices := plan.pushed crates iface row w.devices }

namespace PeerService

/-! ## The keys -/

/-- The row with the pair of a private key. -/
def withKey (crates : Crates) (peer : Peer) (key : WgPrivateKey) (sealed : ByteArray) : Peer :=
  { peer with privateKeySealed := some sealed, publicKey := key.public crates }

/-- The keys of a new peer, from the key that is drawn if none is supplied. -/
def newKeys (crates : Crates) (drawn : Key) (newPrivate newPublic : String) :
    Except CoreError (WgPublicKey × Option ByteArray) :=
  let pair (key : WgPrivateKey) :=
    (crates.seal key.asStr.toUTF8).map fun sealed => (key.public crates, some sealed)
  if !newPrivate.isEmpty then
    match WgPrivateKey.fromBase64 newPrivate with
    | .error e => .error e
    | .ok key => pair key
  else if !newPublic.isEmpty then
    (WgPublicKey.fromBase64 newPublic).map fun key => (key, none)
  else pair ⟨.ofKey drawn⟩

/-- The row after a key change, if there is one. -/
def rekeyed (crates : Crates) (peer : Peer) (newPrivate newPublic : String) :
    Except CoreError Peer :=
  let currentPrivate := (peer.privateKeySealed.map crates.unsealText).getD ""
  if !newPrivate.isEmpty && newPrivate ≠ currentPrivate then
    match WgPrivateKey.fromBase64 newPrivate with
    | .error e => .error e
    | .ok key => (crates.seal key.asStr.toUTF8).map (withKey crates peer key)
  else if newPrivate.isEmpty && !newPublic.isEmpty && newPublic ≠ peer.publicKey.asStr then
    (WgPublicKey.fromBase64 newPublic).map fun publicKey =>
      { peer with publicKey, privateKeySealed := none }
  else .ok peer

/-- The keys of a new peer are a public key alone, or a pair whose private key is sealed. -/
theorem new_keys_ok {drawn : Key} {newPrivate newPublic : String} {publicKey : WgPublicKey}
    {stored : Option ByteArray}
    (h : newKeys crates drawn newPrivate newPublic = .ok (publicKey, stored)) :
    stored = none ∨ ∃ (key : WgPrivateKey) (sealed : ByteArray),
      crates.seal key.asStr.toUTF8 = .ok sealed ∧ publicKey = key.public crates ∧
        stored = some sealed := by
  have hpair : ∀ {key : WgPrivateKey}, (crates.seal key.asStr.toUTF8).map
      (fun sealed => (key.public crates, some sealed)) = .ok (publicKey, stored) →
      ∃ (key : WgPrivateKey) (sealed : ByteArray), crates.seal key.asStr.toUTF8 = .ok sealed ∧
        publicKey = key.public crates ∧ stored = some sealed := by
    intro key hkey
    obtain ⟨sealed, hsealed, heq⟩ := Outcome.map_ok.mp hkey
    cases heq
    exact ⟨key, sealed, hsealed, rfl, rfl⟩
  unfold newKeys at h
  split at h
  · split at h
    · cases h
    · exact .inr (hpair h)
  · split at h
    · obtain ⟨key, -, heq⟩ := Outcome.map_ok.mp h
      cases heq
      exact .inl rfl
    · exact .inr (hpair h)

/-- A key change touches the keys only: it sets a pair whose private key is sealed, or a public key
alone. -/
theorem rekeyed_cases {peer peer' : Peer} {newPrivate newPublic : String}
    (h : rekeyed crates peer newPrivate newPublic = .ok peer') :
    peer' = peer ∨ (∃ publicKey, peer' = { peer with publicKey, privateKeySealed := none }) ∨
      ∃ (key : WgPrivateKey) (sealed : ByteArray), crates.seal key.asStr.toUTF8 = .ok sealed ∧
        peer' = withKey crates peer key sealed := by
  dsimp only [rekeyed] at h
  split at h
  · split at h
    · cases h
    · obtain ⟨sealed, hsealed, rfl⟩ := Outcome.map_ok.mp h
      exact .inr (.inr ⟨_, sealed, hsealed, rfl⟩)
  · split at h
    · obtain ⟨publicKey, -, rfl⟩ := Outcome.map_ok.mp h
      exact .inr (.inl ⟨publicKey, rfl⟩)
    · cases h
      exact .inl rfl

/-- A key change keeps the identity of the row, its interface and its addresses. -/
theorem rekeyed_row {peer peer' : Peer} {newPrivate newPublic : String}
    (h : rekeyed crates peer newPrivate newPublic = .ok peer') :
    peer'.id = peer.id ∧ peer'.interfaceId = peer.interfaceId ∧
      peer'.allowedIps = peer.allowedIps := by
  rcases rekeyed_cases h with rfl | ⟨publicKey, rfl⟩ | ⟨key, sealed, -, rfl⟩ <;>
    exact ⟨rfl, rfl, rfl⟩

/-! ## The parts -/

theorem eval_get (plan : Plan) (w : World) (id : Id PeerMarker) :
    (∃ peer, plan.readPeer w.db id = some peer ∧
      eval (handle plan) (get id) w = (.ok peer, w)) ∨
    (plan.readPeer w.db id = none ∧
      ∃ e, eval (handle plan) (get id) w = (.error e, w)) := by
  rw [get, eval_bind, SqlitePeerRepository.eval_find_by_id, Plan.readPeer, Plan.outcome]
  cases plan.error (.findPeer id) with
  | some e => exact .inr ⟨rfl, _, rfl⟩
  | none =>
      cases w.db.peers.find id with
      | none => exact .inr ⟨rfl, _, rfl⟩
      | some peer => exact .inl ⟨peer, rfl, rfl⟩

theorem eval_get_interface (plan : Plan) (w : World) (id : Id InterfaceMarker) :
    (∃ iface, plan.readInterface w.db id = some iface ∧
      eval (handle plan) (getInterface id) w = (.ok iface, w)) ∨
    (plan.readInterface w.db id = none ∧
      ∃ e, eval (handle plan) (getInterface id) w = (.error e, w)) :=
  InterfaceService.eval_get plan w id

theorem eval_keys (plan : Plan) (crates : Crates) (w : World) (newPrivate newPublic : String) :
    eval (handle plan) (keys crates newPrivate newPublic) w =
      (newKeys crates w.env.key newPrivate newPublic, w) := by
  unfold keys newKeys Crates.sealKeyText
  simp only [eval_ite]
  split
  · simp only [eval_bind, eval_of_except, eval_derive_public_key]
    cases WgPrivateKey.fromBase64 newPrivate with
    | error e => rfl
    | ok key =>
        simp only
        cases crates.seal key.asStr.toUTF8 <;> rfl
  · split
    · simp only [eval_bind, eval_of_except]
      cases WgPublicKey.fromBase64 newPublic <;> rfl
    · simp only [eval_bind, eval_generate_keypair, eval_of_except]
      cases crates.seal _ <;> rfl

theorem eval_rekey (plan : Plan) (crates : Crates) (w : World) (peer : Peer)
    (newPrivate newPublic : String) :
    eval (handle plan) (rekey crates peer newPrivate newPublic) w =
      (rekeyed crates peer newPrivate newPublic, w) := by
  unfold rekey rekeyed Crates.sealKeyText
  simp only [eval_ite]
  split
  · simp only [eval_bind, eval_of_except, eval_derive_public_key]
    cases WgPrivateKey.fromBase64 newPrivate with
    | error e => rfl
    | ok key =>
        simp only
        cases crates.seal key.asStr.toUTF8 <;> rfl
  · split
    · simp only [eval_bind, eval_of_except]
      cases WgPublicKey.fromBase64 newPublic <;> rfl
    · rfl

@[simp] theorem eval_push_peer (iface : Interface) (peer : Peer) :
    eval (handle plan) (pushPeer crates iface peer) w =
      (.ok (), { w with devices := plan.pushed crates iface peer w.devices }) := by
  unfold pushPeer Plan.pushed
  rw [eval_ite]
  split
  · rw [eval_ignore, apply_peer_after]
  · rw [eval_ignore, remove_peer_after]

theorem eval_remove_stale (plan : Plan) (w : World) (old peer : Peer) (target : Interface) :
    eval (handle plan) (removeStale old peer target) w =
      (.ok (), { w with devices := plan.unstaled w.db old peer target w.devices }) := by
  simp only [removeStale, Plan.unstaled, eval_ite, ne_eq, WgPublicKey.as_str_inj]
  split
  · simp only [eval_bind, eval_attempt, SqliteInterfaceRepository.eval_find_by_id,
      Plan.readInterface, Plan.outcome]
    cases plan.error (.findInterface old.interfaceId) with
    | some e => rfl
    | none =>
        cases w.db.interfaces.find old.interfaceId with
        | none => rfl
        | some oldIface =>
            simp only [Except.mapError, eval_ignore, remove_peer_after]
            rfl
  · split
    · rw [eval_ignore, remove_peer_after]
    · rfl

/-! ## Create -/

/-- The row of a new peer with the given addresses and keys. -/
def newRow (w : World) (input : CreatePeerInput) (iface : Interface) (allowed : List IpNet)
    (publicKey : WgPublicKey) (privateKeySealed : Option ByteArray) : Peer :=
  SqlitePeerRepository.newRow w.env.uuid w.env.now
    { interfaceId := iface.id, name := input.name, publicKey, allowedIps := allowed
      primaryDns := input.primaryDns, secondaryDns := input.secondaryDns, nat := input.nat
      endpoint := none, persistentKeepalive := input.persistentKeepalive
      bandwidthQuotaBytes := none, expiresAt := none, ownerUserId := input.ownerUserId
      privateKeySealed } none

/-- Nothing stands in the way of a new row: the interface and its peers can be read, there are
addresses and keys for the peer, and the row can be inserted. -/
structure Inserts (plan : Plan) (crates : Crates) (w : World) (input : CreatePeerInput)
    (iface : Interface) (row : Peer) : Prop where
  named : (Text.trim input.name).isEmpty = false
  interface : plan.readInterface w.db input.interfaceId = some iface
  peers : plan.listsPeers iface.id = true
  allowed : allocate iface (w.db.peersOf iface.id) input.allowedIps = .ok row.allowedIps
  keys : newKeys crates w.env.key (Text.trim input.privateKey) (Text.trim input.publicKey) =
    .ok (row.publicKey, row.privateKeySealed)
  fields : newRow w input iface row.allowedIps row.publicKey row.privateKeySealed = row
  statement : plan.error (.insertPeer row) = none
  stored : ∃ db, w.db.insertPeer row = .ok db

/-- There is one row that can be inserted. -/
theorem Inserts.unique {input : CreatePeerInput} {iface iface' : Interface} {row row' : Peer}
    (h : Inserts plan crates w input iface row) (h' : Inserts plan crates w input iface' row') :
    row = row' := by
  obtain rfl : iface = iface' := Option.some.inj (h.interface.symm.trans h'.interface)
  have hallowed : row.allowedIps = row'.allowedIps :=
    Except.ok.inj (h.allowed.symm.trans h'.allowed)
  obtain ⟨hpublic, hsealed⟩ := Prod.mk.inj (Except.ok.inj (h.keys.symm.trans h'.keys))
  rw [← h.fields, ← h'.fields, hallowed, hpublic, hsealed]

/-- A peer is created exactly if nothing stands in the way of its row. -/
theorem eval_create_iff (plan : Plan) (crates : Crates) (w : World) (input : CreatePeerInput) :
    (∃ iface row db, Inserts plan crates w input iface row ∧ w.db.insertPeer row = .ok db ∧
      eval (handle plan) (createWithServerKeypair crates input) w =
        (.ok row, { w with db, devices := plan.installed crates iface row w.devices })) ∨
    (∀ iface row, ¬ Inserts plan crates w input iface row) ∧
      ∃ e, eval (handle plan) (createWithServerKeypair crates input) w = (.error e, w) := by
  unfold createWithServerKeypair
  simp only [eval_ite, eval_bind, eval_throw]
  split
  next hblank =>
    refine .inr ⟨fun iface row h => ?_, _, rfl⟩
    rw [h.named] at hblank
    cases hblank
  next hnamed =>
    rcases eval_get_interface plan w input.interfaceId with ⟨iface, hread, hget⟩ | ⟨hread, e, hget⟩
    · rw [hget]
      simp only
      have hiface : ∀ {iface' row}, Inserts plan crates w input iface' row → iface' = iface :=
        fun h => Option.some.inj (h.interface.symm.trans hread)
      rcases InterfaceService.eval_list_for_interface plan w iface.id with
        ⟨hpeers, hlist⟩ | ⟨hpeers, e, hlist⟩
      · rw [hlist]
        simp only [eval_of_except]
        cases hallocate : allocate iface (w.db.peersOf iface.id) input.allowedIps with
        | error e =>
            refine .inr ⟨fun iface' row h => ?_, _, rfl⟩
            obtain rfl := hiface h
            cases hallocate.symm.trans h.allowed
        | ok allowed =>
            simp only
            rw [eval_keys]
            cases hkeys : newKeys crates w.env.key (Text.trim input.privateKey)
                (Text.trim input.publicKey) with
            | error e =>
                refine .inr ⟨fun iface' row h => ?_, _, rfl⟩
                cases hkeys.symm.trans h.keys
            | ok pair =>
                obtain ⟨publicKey, privateSealed⟩ := pair
                simp only
                have hrow : ∀ {iface' row}, Inserts plan crates w input iface' row →
                    newRow w input iface allowed publicKey privateSealed = row := by
                  intro iface' row h
                  obtain rfl := hiface h
                  obtain ⟨hpublic, hsealed⟩ :=
                    Prod.mk.inj (Except.ok.inj (hkeys.symm.trans h.keys))
                  rw [Except.ok.inj (hallocate.symm.trans h.allowed), hpublic, hsealed, h.fields]
                rcases SqlitePeerRepository.eval_create plan w _ none with
                  ⟨db, hnone, hdb, hcreate⟩ | ⟨hfails, e, hcreate⟩
                · refine .inl ⟨iface, newRow w input iface allowed publicKey privateSealed, db,
                    ⟨by simpa using hnamed, hread, hpeers, hallocate, hkeys, rfl, hnone, db, hdb⟩,
                    hdb, ?_⟩
                  rw [hcreate]
                  simp only [eval_ignore, apply_peer_after]
                  rfl
                · refine .inr ⟨fun iface' row h => ?_, e, by rw [hcreate]⟩
                  refine hfails ⟨?_, ?_⟩
                  · exact (congrArg (fun row => plan.error (.insertPeer row)) (hrow h)).trans
                      h.statement
                  · obtain ⟨db, hdb⟩ := h.stored
                    exact ⟨db, (congrArg w.db.insertPeer (hrow h)).trans hdb⟩
      · rw [hlist]
        refine .inr ⟨fun iface' row h => ?_, e, rfl⟩
        obtain rfl := hiface h
        cases hpeers.symm.trans h.peers
    · rw [hget]
      refine .inr ⟨fun iface row h => ?_, e, rfl⟩
      cases hread.symm.trans h.interface

/-- How `create_with_server_keypair` ends: nothing happens, or a row with addresses that were free
and the chosen keys is added and its peer is tried to be installed. -/
inductive Created (plan : Plan) (crates : Crates) (w : World) (input : CreatePeerInput) :
    Except CoreError Peer → World → Prop where
  | rejected (e : CoreError) : Created plan crates w input (.error e) w
  | created (iface : Interface) (peer : Peer) (db : Db) :
      plan.readInterface w.db input.interfaceId = some iface →
      allocate iface (w.db.peersOf iface.id) input.allowedIps = .ok peer.allowedIps →
      newKeys crates w.env.key (Text.trim input.privateKey) (Text.trim input.publicKey) =
        .ok (peer.publicKey, peer.privateKeySealed) →
      peer.interfaceId = iface.id → peer.enabled = true → w.db.insertPeer peer = .ok db →
      Created plan crates w input (.ok peer)
        { w with db, devices := plan.installed crates iface peer w.devices }

theorem create_spec (plan : Plan) (crates : Crates) (w : World) (input : CreatePeerInput) :
    ∃ result w', eval (handle plan) (createWithServerKeypair crates input) w = (result, w') ∧
      Created plan crates w input result w' := by
  rcases eval_create_iff plan crates w input with
    ⟨iface, row, db, h, hdb, heval⟩ | ⟨-, e, heval⟩
  · have hiface : row.interfaceId = iface.id := by
      rw [← h.fields]
      rfl
    have henabled : row.enabled = true := by
      rw [← h.fields]
      rfl
    exact ⟨_, _, heval, .created iface row db h.interface h.allowed h.keys hiface henabled hdb⟩
  · exact ⟨_, _, heval, .rejected e⟩

/-! ## Update -/

/-- How `update` ends: nothing happens, or the row is written, its old entry is tried to be
removed and its new one is tried to be brought in line. -/
inductive Updated (plan : Plan) (crates : Crates) (w : World) (id : Id PeerMarker)
    (input : UpdatePeerInput) : Except CoreError Peer → World → Prop where
  | rejected (e : CoreError) : Updated plan crates w id input (.error e) w
  | updated (old peer : Peer) (target : Interface) (db : Db) :
      plan.readPeer w.db id = some old → plan.readInterface w.db input.interfaceId = some target →
      ensureNoConflict input.allowedIps
        ((w.db.peersOf input.interfaceId).filter (·.id ≠ old.id)) = .ok () →
      rekeyed crates (input.edit old) (Text.trim input.privateKey) (Text.trim input.publicKey) =
        .ok peer →
      w.db.updatePeer peer w.env.now = .ok db →
      Updated plan crates w id input (.ok peer)
        { w with
          db
          devices := plan.pushed crates target peer
            (plan.unstaled db old peer target w.devices) }

theorem update_spec (plan : Plan) (crates : Crates) (w : World) (id : Id PeerMarker)
    (input : UpdatePeerInput) :
    ∃ result w', eval (handle plan) (update crates id input) w = (result, w') ∧
      Updated plan crates w id input result w' := by
  unfold update
  simp only [eval_ite, eval_bind, eval_throw]
  split
  · exact ⟨_, _, rfl, .rejected _⟩
  · rcases eval_get plan w id with ⟨old, hread, hget⟩ | ⟨_, e, hget⟩
    · rw [hget]
      simp only
      rcases eval_get_interface plan w input.interfaceId with ⟨target, htarget, hget⟩ | ⟨_, e, hget⟩
      · rw [hget]
        simp only
        rcases InterfaceService.eval_list_for_interface plan w input.interfaceId with
          ⟨_, hlist⟩ | ⟨_, e, hlist⟩
        · rw [hlist]
          simp only [eval_of_except]
          cases hconflict : ensureNoConflict input.allowedIps
              ((w.db.peersOf input.interfaceId).filter (·.id ≠ old.id)) with
          | error e => exact ⟨_, _, rfl, .rejected e⟩
          | ok value =>
              simp only
              rw [eval_rekey]
              cases hkeys : rekeyed crates (input.edit old) (Text.trim input.privateKey)
                  (Text.trim input.publicKey) with
              | error e => exact ⟨_, _, rfl, .rejected e⟩
              | ok peer =>
                  simp only
                  rcases SqlitePeerRepository.eval_update plan w peer with
                    ⟨db, hdb, hupdate⟩ | ⟨_, e, hupdate⟩
                  · rw [hupdate]
                    simp only [eval_remove_stale, eval_push_peer, eval_pure]
                    exact ⟨_, _, rfl, .updated old peer target db hread htarget hconflict hkeys
                      hdb⟩
                  · rw [hupdate]
                    exact ⟨_, _, rfl, .rejected e⟩
        · rw [hlist]
          exact ⟨_, _, rfl, .rejected e⟩
      · rw [hget]
        exact ⟨_, _, rfl, .rejected e⟩
    · rw [hget]
      exact ⟨_, _, rfl, .rejected e⟩

/-- Nothing stands in the way of an edit: the peer, its interface and the peers there can be read,
the addresses are free, the keys are accepted and the row can be written. -/
structure Edits (plan : Plan) (crates : Crates) (w : World) (id : Id PeerMarker)
    (input : UpdatePeerInput) (old row : Peer) (target : Interface) (db : Db) : Prop where
  named : (Text.trim input.name).isEmpty = false
  read : plan.readPeer w.db id = some old
  interface : plan.readInterface w.db input.interfaceId = some target
  peers : plan.listsPeers input.interfaceId = true
  free : ensureNoConflict input.allowedIps
    ((w.db.peersOf input.interfaceId).filter (·.id ≠ old.id)) = .ok ()
  keys : rekeyed crates (input.edit old) (Text.trim input.privateKey) (Text.trim input.publicKey) =
    .ok row
  statement : plan.error (.updatePeer row w.env.now) = none
  stored : w.db.updatePeer row w.env.now = .ok db

theorem Edits.eval {id : Id PeerMarker} {input : UpdatePeerInput} {old row : Peer}
    {target : Interface} {db : Db} (h : Edits plan crates w id input old row target db) :
    eval (handle plan) (update crates id input) w =
      (.ok row, { w with
        db
        devices :=
          plan.pushed crates target row (plan.unstaled db old row target w.devices) }) := by
  unfold update
  simp only [eval_ite, eval_bind, eval_throw]
  rw [if_neg (by rw [h.named]; exact Bool.false_ne_true)]
  rcases eval_get plan w id with ⟨old', hread, hget⟩ | ⟨hnone, -⟩
  · obtain rfl : old = old' := Option.some.inj (h.read.symm.trans hread)
    rw [hget]
    simp only
    rcases eval_get_interface plan w input.interfaceId with ⟨target', htarget, hget⟩ | ⟨hnone, -⟩
    · obtain rfl : target = target' := Option.some.inj (h.interface.symm.trans htarget)
      rw [hget]
      simp only
      rcases InterfaceService.eval_list_for_interface plan w input.interfaceId with
        ⟨-, hlist⟩ | ⟨hpeers, -⟩
      · rw [hlist]
        simp only [eval_of_except, h.free]
        rw [eval_rekey, h.keys]
        simp only
        rcases SqlitePeerRepository.eval_update plan w row with
          ⟨db', hdb, hupdate⟩ | ⟨hsome | ⟨e, herror⟩, -⟩
        · obtain rfl : db = db' := Except.ok.inj (h.stored.symm.trans hdb)
          rw [hupdate]
          simp only [eval_remove_stale, eval_push_peer]
          rfl
        · rw [h.statement] at hsome
          cases hsome
        · cases h.stored.symm.trans herror
      · cases h.peers.symm.trans hpeers
    · cases h.interface.symm.trans hnone
  · cases h.read.symm.trans hnone

/-! ## Enable and disable -/

theorem set_enabled_spec (plan : Plan) (crates : Crates) (w : World) (id : Id PeerMarker)
    (enabled : Bool) :
    (eval (handle plan) (setEnabled crates id enabled) w).2 = w ∨
    ∃ old, plan.readPeer w.db id = some old ∧
      Switched plan crates w { old with enabled }
        (eval (handle plan) (setEnabled crates id enabled) w).2 := by
  unfold setEnabled
  rw [eval_bind]
  rcases eval_get plan w id with ⟨old, hread, hget⟩ | ⟨_, e, hget⟩
  · rw [hget]
    refine .inr ⟨old, hread, ?_⟩
    simp only [eval_bind]
    rcases SqlitePeerRepository.eval_update plan w { old with enabled } with
      ⟨db, hdb, hupdate⟩ | ⟨_, e, hupdate⟩
    · rw [hupdate]
      simp only
      rcases eval_get_interface plan { w with db } old.interfaceId with
        ⟨iface, hiface, hget⟩ | ⟨hiface, e, hget⟩
      · rw [hget]
        simp only [eval_push_peer, eval_pure]
        exact .pushed iface db hdb hiface
      · rw [hget]
        exact .detached db hdb hiface
    · rw [hupdate]
      exact .unsaved
  · rw [hget]
    exact .inl rfl

/-! ## Delete -/

/-- How `delete` ends. -/
inductive Deleted (plan : Plan) (w : World) (id : Id PeerMarker) :
    Except CoreError Unit → World → Prop where
  | rejected (e : CoreError) : Deleted plan w id (.error e) w
  | kept (e : CoreError) (peer : Peer) (iface : Interface) : plan.readPeer w.db id = some peer →
      plan.readInterface w.db peer.interfaceId = some iface →
      plan.error (.deletePeer id) ≠ none →
      Deleted plan w id (.error e)
        { w with devices := plan.uninstalled iface peer.publicKey w.devices }
  | deleted (peer : Peer) (iface : Interface) : plan.readPeer w.db id = some peer →
      plan.readInterface w.db peer.interfaceId = some iface →
      Deleted plan w id (.ok ())
        { w with
          devices := plan.uninstalled iface peer.publicKey w.devices
          db := w.db.deletePeer id }

theorem delete_spec (plan : Plan) (w : World) (id : Id PeerMarker) :
    ∃ result w', eval (handle plan) (delete id) w = (result, w') ∧
      Deleted plan w id result w' := by
  unfold delete
  rw [eval_bind]
  rcases eval_get plan w id with ⟨peer, hread, hget⟩ | ⟨_, e, hget⟩
  · rw [hget]
    simp only [eval_bind]
    rcases eval_get_interface plan w peer.interfaceId with ⟨iface, hiface, hget⟩ | ⟨_, e, hget⟩
    · rw [hget]
      simp only [eval_ignore, remove_peer_after]
      rcases SqlitePeerRepository.eval_delete plan
          { w with devices := plan.uninstalled iface peer.publicKey w.devices } id with
        ⟨_, hdelete⟩ | ⟨hfails, e, hdelete⟩
      · exact ⟨_, _, hdelete, .deleted peer iface hread hiface⟩
      · exact ⟨_, _, hdelete, .kept e peer iface hread hiface hfails⟩
    · rw [hget]
      exact ⟨_, _, rfl, .rejected e⟩
  · rw [hget]
    exact ⟨_, _, rfl, .rejected e⟩

end PeerService

end Wireforge
