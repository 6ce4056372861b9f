import Wireforge.Lifecycle.Agreement

/-!
# Keys

A private key is sealed together with the public key derived from it, and a public key that is set
alone takes the sealed private key away: `keys_matched`. It does so only if it is another public
key than the stored one: `cleared_key_removed_iff`. Nothing compares the key of a peer with
those of the other peers, so that two peers of an interface can get one key: `key_shared`. They do
not as long as no request asks for a key that is in use: `keys_distinct`.
-/

namespace Wireforge

open Effect

/-- The sealed text is that of a private key with the given public key. -/
def Crates.Pairs (crates : Crates) (sealed : ByteArray) (publicKey : WgPublicKey) : Prop :=
  ∃ key : WgPrivateKey, crates.unseal sealed = .ok key.asStr.toUTF8 ∧
    key.public crates = publicKey

/-- Every sealed private key goes with the stored public key. -/
structure KeysMatched (crates : Crates) (db : Db) : Prop where
  interfaces : ∀ iface ∈ db.interfaces.rows, crates.Pairs iface.privateKeySealed iface.publicKey
  peers : ∀ peer ∈ db.peers.rows, ∀ sealed ∈ peer.privateKeySealed,
    crates.Pairs sealed peer.publicKey

variable {crates : Crates} {plan : Plan} {w w' : World} {db db' : Db}

/-- A private key that has just been sealed goes with its public key. -/
theorem Crates.pairs_of_seal (hcrates : crates.SealsBack) {key : WgPrivateKey}
    {sealed : ByteArray} (h : crates.seal key.asStr.toUTF8 = .ok sealed) :
    crates.Pairs sealed (key.public crates) :=
  ⟨key, Crates.unseal_seal hcrates h, rfl⟩

theorem pairs_row_invariant (hcrates : crates.SealsBack) :
    RowInvariant crates fun row => crates.Pairs row.privateKeySealed row.publicKey where
  created _ _ _ _ hsealed hpublic _ := hpublic ▸ Crates.pairs_of_seal hcrates hsealed
  updated plan w id input old iface haccepted hold := by
    rcases rekeyed_ok haccepted.keys with rfl | ⟨key, sealed, hsealed, rfl⟩
    · exact hold
    · exact Crates.pairs_of_seal hcrates hsealed
  status _ _ h := h
  stored _ _ _ h := h

/-! ## Matched pairs -/

/-- The sealed private key of a peer, if it has one, goes with its public key. -/
def PeerMatched (crates : Crates) (peer : Peer) : Prop :=
  ∀ sealed ∈ peer.privateKeySealed, crates.Pairs sealed peer.publicKey

/-- Keys are not among what the background tasks change. -/
theorem matched_peer_invariant :
    PeerInvariant fun db => ∀ peer ∈ db.peers.rows, PeerMatched crates peer where
  subset db db' h hsub peer hpeer := h peer (hsub peer hpeer)
  cores db db' h hcores := by
    intro peer hpeer
    have hcore : peer.core ∈ db.cores := hcores ▸ List.mem_map_of_mem hpeer
    obtain ⟨old, hold, heq⟩ := List.mem_map.mp hcore
    have hmatched : PeerMatched crates old.core := h old hold
    rw [heq] at hmatched
    exact hmatched

theorem peer_created_matched (hcrates : crates.SealsBack) {input : CreatePeerInput}
    {result : Except CoreError Peer} (h : ∀ peer ∈ w.db.peers.rows, PeerMatched crates peer)
    (hend : PeerService.Created plan crates w input result w') :
    ∀ peer ∈ w'.db.peers.rows, PeerMatched crates peer := by
  cases hend with
  | rejected e => exact h
  | created iface row db _ _ hkeys _ _ hdb =>
      intro peer hpeer
      rw [(Db.insert_peer_ok hdb).2.1, List.mem_append, List.mem_singleton] at hpeer
      rcases hpeer with hpeer | rfl
      · exact h peer hpeer
      · intro stored hstored
        rcases PeerService.new_keys_ok hkeys with hnone | ⟨key, sealed, hsealed, hpublic, hsome⟩
        · rw [hnone] at hstored
          cases hstored
        · rw [hsome] at hstored
          cases hstored
          rw [hpublic]
          exact Crates.pairs_of_seal hcrates hsealed

theorem peer_updated_matched (hcrates : crates.SealsBack) {id : Id PeerMarker}
    {input : UpdatePeerInput} {result : Except CoreError Peer}
    (h : ∀ peer ∈ w.db.peers.rows, PeerMatched crates peer)
    (hend : PeerService.Updated plan crates w id input result w') :
    ∀ peer ∈ w'.db.peers.rows, PeerMatched crates peer := by
  cases hend with
  | rejected e => exact h
  | updated old row target db hread _ _ hkeys hdb =>
      have hrow : PeerMatched crates row := by
        have hold : PeerMatched crates (input.edit old) :=
          h old (Plan.read_peer_some hread).1
        rcases PeerService.rekeyed_cases hkeys with heq | ⟨publicKey, heq⟩ |
          ⟨key, sealed, hsealed, heq⟩
        · rw [heq]
          exact hold
        · rw [heq]
          exact fun _ hnone => nomatch hnone
        · rw [heq]
          intro stored hstored
          cases hstored
          exact Crates.pairs_of_seal hcrates hsealed
      intro peer hpeer
      rw [(Db.update_peer_ok hdb).1] at hpeer
      obtain ⟨before, hbefore, rfl⟩ := List.mem_map.mp hpeer
      unfold Db.setPeer
      split
      · exact hrow
      · exact h before hbefore

/-- Whatever fails, an operation keeps the pairs matched. -/
theorem keys_matched_step (hcrates : crates.SealsBack) (w : World) (a : ServiceStep)
    (h : KeysMatched crates w.db) : KeysMatched crates (serviceStep crates w a).db := by
  refine ⟨?_, ?_⟩
  · by_cases hpeers : ∀ call, a.call ≠ .interface call
    · rw [service_step_interfaces crates w a hpeers]
      exact h.interfaces
    · obtain ⟨call, hcall⟩ := not_forall_not.mp hpeers
      rw [serviceStep, hcall]
      exact (pairs_row_invariant hcrates).step w ⟨call, a.plan, a.env⟩ h.interfaces
  · refine matched_peer_invariant.step crates w a h.peers ?_ ?_
    · intro input _ result w' hend
      exact peer_created_matched (w := w.seen a.env) hcrates h.peers hend
    · intro id input _ result w' hend
      exact peer_updated_matched (w := w.seen a.env) hcrates h.peers hend

/-- In every run that starts with matched pairs they stay matched. -/
theorem keys_matched (crates : Crates) (hcrates : crates.SealsBack) (w : World)
    (hmatched : KeysMatched crates w.db) (run : List ServiceStep) :
    Runs.Always (serviceStep crates) (fun w => KeysMatched crates w.db) w run :=
  Runs.always_of_step (keys_matched_step hcrates) hmatched run

/-- An interface and a peer with drawn keys, and an edit that gives the peer a private key. -/
def keysChanged : List ServiceStep :=
  let env := (World.fresh []).env
  let edit : UpdatePeerInput :=
    { name := "laptop", interfaceId := ⟨0⟩, allowedIps := [.single (ipv4 10 7 0 2)]
      primaryDns := none, secondaryDns := none, nat := false, persistentKeepalive := none
      enabled := true, publicKey := "", privateKey := encodeKey .zero }
  [⟨.interface (.create (.plain "wg0" none none)), .none, env⟩,
    ⟨.createPeer (.plain "laptop" ⟨0⟩ (some [.single (ipv4 10 7 0 2)])), .none, env⟩,
    ⟨.updatePeer ⟨0⟩ edit, .none, env⟩]

theorem keys_matched_changed :
    let db := (Runs.after (serviceStep .transparent) (.fresh []) keysChanged).db
    KeysMatched .transparent db ∧ db.peers.rows.length = 1 :=
  ⟨(keys_matched .transparent Crates.seals_back_transparent (.fresh [])
    ⟨by simp [World.fresh, Db.empty], by simp [World.fresh, Db.empty]⟩ keysChanged).last,
    by decide +kernel⟩

/-! ## Cleared private keys -/

/-- The row of a peer has this public key and no sealed private key. -/
def Db.KeyOnly (db : Db) (id : Id PeerMarker) (key : WgPublicKey) : Prop :=
  ∃ row, db.peers.find id = some row ∧ row.publicKey = key ∧ row.privateKeySealed = none

/-- Without a private key, a public key replaces the stored pair if it is another one. -/
theorem rekeyed_public {peer : Peer} {s : String} {key : WgPublicKey}
    (h : WgPublicKey.fromBase64 s = .ok key) :
    PeerService.rekeyed crates peer "" s =
      .ok (if key = peer.publicKey then peer
        else { peer with publicKey := key, privateKeySealed := none }) := by
  obtain rfl := WgPublicKey.from_base64_ok.mp h
  have hnonempty : key.asStr.isEmpty = false := key.inner.text_nonempty
  unfold PeerService.rekeyed
  by_cases hsame : key = peer.publicKey
  · simp [hsame]
  · have htext : key.asStr ≠ peer.publicKey.asStr := fun heq =>
      hsame (WgPublicKey.as_str_inj.mp heq)
    simp [hsame, htext, hnonempty, Except.map]

/-- An edit with a blank private key and a public key leaves the public key alone exactly if it is
another one than the stored one, or if there was no sealed private key. -/
theorem cleared_key_removed_iff (crates : Crates) (plan : Plan) (w w' : World)
    (id : Id PeerMarker) (input : UpdatePeerInput) (old row : Peer) (key : WgPublicKey)
    (h : eval (handle plan) (PeerService.update crates id input) w = (.ok row, w'))
    (hold : w.db.peers.find id = some old) (hprivate : Text.trim input.privateKey = "")
    (hpublic : WgPublicKey.fromBase64 (Text.trim input.publicKey) = .ok key) :
    w'.db.KeyOnly id key ↔ old.publicKey ≠ key ∨ old.privateKeySealed = none := by
  obtain ⟨result, final, heval, hend⟩ := PeerService.update_spec plan crates w id input
  obtain ⟨rfl, rfl⟩ := Prod.mk.inj (heval.symm.trans h)
  cases hend with
  | updated old' row target db hread _ _ hrekeyed hdb =>
      obtain ⟨hmem, rfl⟩ := Plan.read_peer_some hread
      obtain rfl : old = old' := Option.some.inj (hold.symm.trans (Table.find_of_mem hmem))
      rw [hprivate, rekeyed_public hpublic] at hrekeyed
      obtain rfl := Except.ok.inj hrekeyed
      have hfind := (Db.find_update_peer hdb).1 old.id
      rw [hold, Option.map_some] at hfind
      unfold Db.KeyOnly
      by_cases hsame : key = old.publicKey
      · -- the pair stays as it is
        rw [if_pos (show key = (input.edit old).publicKey from hsame), Db.setPeer,
          if_pos (show old.id = (input.edit old).id from rfl)] at hfind
        constructor
        · rintro ⟨row, hrow, -, hsealed⟩
          obtain rfl := Option.some.inj (hfind.symm.trans hrow)
          exact .inr hsealed
        · intro h
          exact ⟨_, hfind, hsame.symm, h.resolve_left fun hne => hne hsame.symm⟩
      · have hne : key ≠ (input.edit old).publicKey := hsame
        rw [if_neg hne, Db.setPeer, if_pos (show old.id = (input.edit old).id from rfl)] at hfind
        exact iff_of_true ⟨_, hfind, rfl, rfl⟩ (.inl (Ne.symm hsame))

/-- A host with a peer whose pair of keys is stored. -/
def sealedHost : World where
  db := .single (.plain 0 "wg0" none none)
    { Peer.plain 0 0 "laptop" none none with
      privateKeySealed := some (encodeKey .zero).toUTF8 } []
  devices _ := none
  net := (World.fresh []).net
  spawned := []
  env := (World.fresh []).env

/-- An edit that sets the public key and leaves the private key blank. -/
def publicOnly (key : Key) : UpdatePeerInput where
  name := "laptop"
  interfaceId := ⟨0⟩
  allowedIps := []
  primaryDns := none
  secondaryDns := none
  nat := false
  persistentKeepalive := none
  enabled := true
  publicKey := encodeKey key
  privateKey := ""

/-- The key whose bytes are all 1. -/
def onesKey : Key := ⟨List.replicate keyLen 1, rfl⟩

/-- The public key is replaced, and the sealed key goes. -/
theorem cleared_key_removed_ones :
    (eval (handle .none) (PeerService.update .transparent ⟨0⟩ (publicOnly onesKey))
      sealedHost).2.db.KeyOnly ⟨0⟩ ⟨.ofKey onesKey⟩ := by
  have hfacts : (eval (handle .none) (PeerService.update .transparent ⟨0⟩ (publicOnly onesKey))
      sealedHost).1.toOption.isSome = true ∧ Text.trim (publicOnly onesKey).privateKey = "" ∧
      WgPublicKey.fromBase64 (Text.trim (publicOnly onesKey).publicKey) = .ok ⟨.ofKey onesKey⟩ ∧
      (sealedHost.db.peers.find ⟨0⟩).all (·.publicKey ≠ ⟨.ofKey onesKey⟩) = true := by
    decide +kernel
  obtain ⟨hok, hprivate, hpublic, hother⟩ := hfacts
  obtain ⟨old, hold⟩ : ∃ old, sealedHost.db.peers.find ⟨0⟩ = some old := ⟨_, rfl⟩
  rw [hold, Option.all_some, decide_eq_true_iff] at hother
  rcases heval : eval (handle .none) (PeerService.update .transparent ⟨0⟩ (publicOnly onesKey))
    sealedHost with ⟨e | row, w'⟩
  · rw [heval] at hok
    cases hok
  · exact (cleared_key_removed_iff .transparent .none sealedHost w' ⟨0⟩ (publicOnly onesKey) old
      row ⟨.ofKey onesKey⟩ heval hold hprivate hpublic).mpr (.inl hother)

/-- The private key is cleared and the public key left as it is: the sealed key stays. -/
theorem cleared_key_kept : ¬ ∀ (crates : Crates) (plan : Plan) (w w' : World)
    (id : Id PeerMarker) (input : UpdatePeerInput) (row : Peer) (key : WgPublicKey),
    eval (handle plan) (PeerService.update crates id input) w = (.ok row, w') →
      Text.trim input.privateKey = "" →
        WgPublicKey.fromBase64 (Text.trim input.publicKey) = .ok key →
          w'.db.KeyOnly id key := by
  intro h
  have hfacts : (eval (handle .none) (PeerService.update .transparent ⟨0⟩ (publicOnly .zero))
      sealedHost).1.toOption.isSome = true ∧ Text.trim (publicOnly .zero).privateKey = "" ∧
      WgPublicKey.fromBase64 (Text.trim (publicOnly .zero).publicKey) = .ok ⟨.ofKey .zero⟩ ∧
      ((eval (handle .none) (PeerService.update .transparent ⟨0⟩ (publicOnly .zero))
        sealedHost).2.db.peers.find ⟨0⟩).all (·.privateKeySealed.isSome) = true := by
    decide +kernel
  obtain ⟨hok, hprivate, hpublic, hkept⟩ := hfacts
  rcases heval : eval (handle .none) (PeerService.update .transparent ⟨0⟩ (publicOnly .zero))
    sealedHost with ⟨e | row, w'⟩
  · rw [heval] at hok
    cases hok
  · obtain ⟨row', hfind, -, hnone⟩ := h _ _ _ _ _ _ _ _ heval hprivate hpublic
    rw [heval, hfind, Option.all_some, hnone] at hkept
    cases hkept

/-! ## Shared keys -/

/-- The request does not ask for a key that another peer of its interface has. -/
def AsksForFreeKey (crates : Crates) (w : World) (a : ServiceStep) : Prop :=
  match a.call with
  | .createPeer input => ∀ publicKey stored,
      PeerService.newKeys crates a.env.key (Text.trim input.privateKey)
        (Text.trim input.publicKey) = .ok (publicKey, stored) →
      ∀ peer ∈ w.db.peers.rows, peer.interfaceId = input.interfaceId →
        peer.publicKey ≠ publicKey
  | .updatePeer id input => ∀ old ∈ w.db.peers.rows, old.id = id → ∀ row,
      PeerService.rekeyed crates (input.edit old) (Text.trim input.privateKey)
        (Text.trim input.publicKey) = .ok row →
      ∀ peer ∈ w.db.peers.rows, peer.interfaceId = input.interfaceId → peer.id ≠ id →
        peer.publicKey ≠ row.publicKey
  | _ => True

theorem distinct_peer_invariant : PeerInvariant KeysDistinct where
  subset _ _ h hsub peer hpeer other hother := h peer (hsub peer hpeer) other (hsub other hother)
  cores _ _ := KeysDistinct.of_cores

/-- One row is added or rewritten, with a key that no other row of its interface has. -/
theorem distinct_of_row (row : Peer) (h : KeysDistinct db)
    (hrows : ∀ peer ∈ db'.peers.rows, peer ∈ db.peers.rows ∧ peer.id ≠ row.id ∨
      peer.id = row.id ∧ peer.interfaceId = row.interfaceId ∧ peer.publicKey = row.publicKey)
    (hfree : ∀ peer ∈ db.peers.rows, peer.interfaceId = row.interfaceId → peer.id ≠ row.id →
      peer.publicKey ≠ row.publicKey) : KeysDistinct db' := by
  intro peer hpeer other hother hsame hkey
  rcases hrows peer hpeer with ⟨hpeer, hpid⟩ | ⟨hpid, hpiface, hpkey⟩ <;>
    rcases hrows other hother with ⟨hother, hoid⟩ | ⟨hoid, hoiface, hokey⟩
  · exact h peer hpeer other hother hsame hkey
  · exact absurd (hkey.trans hokey) (hfree peer hpeer (hsame.trans hoiface) hpid)
  · exact absurd (hkey.symm.trans hpkey) (hfree other hother (hsame.symm.trans hpiface) hoid)
  · exact hpid.trans hoid.symm

/-- Whatever fails, an operation that asks for no key in use keeps the keys distinct. -/
theorem keys_distinct_step (crates : Crates) (w : World) (a : ServiceStep)
    (h : KeysDistinct w.db) (hfree : AsksForFreeKey crates w a) :
    KeysDistinct (serviceStep crates w a).db := by
  refine distinct_peer_invariant.step crates w a h ?_ ?_
  · intro input hcall result w' hend
    rw [AsksForFreeKey, hcall] at hfree
    cases hend with
    | rejected e => exact h
    | created iface row db hread _ hkeys hiface _ hdb =>
        obtain ⟨hfresh, hrows, -⟩ := Db.insert_peer_ok hdb
        have hid := (Plan.read_interface_some hread).2
        refine distinct_of_row row h (fun peer hpeer => ?_) fun peer hpeer hsame _ =>
          hfree _ _ hkeys peer hpeer (hsame.trans (hiface.trans hid))
        rw [hrows, List.mem_append, List.mem_singleton] at hpeer
        rcases hpeer with hpeer | rfl
        · exact .inl ⟨hpeer, hfresh peer hpeer⟩
        · exact .inr ⟨rfl, rfl, rfl⟩
  · intro id input hcall result w' hend
    rw [AsksForFreeKey, hcall] at hfree
    cases hend with
    | rejected e => exact h
    | updated old row target db hread _ _ hkeys hdb =>
        obtain ⟨hold, hid⟩ := Plan.read_peer_some hread
        obtain ⟨hrid, hriface, -⟩ := PeerService.rekeyed_row hkeys
        refine distinct_of_row row h (fun peer hpeer => ?_) fun peer hpeer hsame hne =>
          hfree old hold hid row hkeys peer hpeer (hsame.trans hriface) ?_
        · rw [(Db.update_peer_ok hdb).1] at hpeer
          obtain ⟨before, hbefore, rfl⟩ := List.mem_map.mp hpeer
          unfold Db.setPeer
          split
          · exact .inr ⟨rfl, rfl, rfl⟩
          · rename_i hother
            exact .inl ⟨hbefore, hother⟩
        · rw [← hid]
          exact fun hsameid => hne (hsameid.trans hrid.symm)

/-- In every run in which no request asks for a key in use, no two peers of an interface have one
key. -/
theorem keys_distinct (crates : Crates) (w : World) (run : List ServiceStep)
    (hdistinct : KeysDistinct w.db)
    (hfree : Runs.EachStep (serviceStep crates) (AsksForFreeKey crates) w run) :
    Runs.Always (serviceStep crates) (fun w => KeysDistinct w.db) w run :=
  Runs.always_of_each_step (keys_distinct_step crates) hdistinct hfree

/-- An interface and two peers, each created with a public key. -/
def suppliedKeys (first second : Key) : List ServiceStep :=
  let env := (World.fresh []).env
  let create (name : String) (addr : BitVec 32) (key : Key) (uuid : Uuid) : ServiceStep :=
    ⟨.createPeer { CreatePeerInput.plain name ⟨0⟩ (some [.single addr]) with
      publicKey := encodeKey key }, .none, { env with uuid }⟩
  [⟨.interface (.create (.plain "wg0" none none)), .none, env⟩,
    create "first" (ipv4 10 7 0 2) first 0, create "second" (ipv4 10 7 0 3) second 1]

/-- Two peers are created with one public key. -/
theorem key_shared :
    ¬ KeysDistinct
      (Runs.after (serviceStep .transparent) (.fresh []) (suppliedKeys .zero .zero)).db := by
  decide +kernel

theorem keys_distinct_supplied :
    KeysDistinct
      (Runs.after (serviceStep .transparent) (.fresh []) (suppliedKeys .zero onesKey)).db := by
  refine (keys_distinct .transparent (.fresh []) (suppliedKeys .zero onesKey)
    (by simp [KeysDistinct, World.fresh, Db.empty]) ⟨trivial, ?_, ?_, trivial⟩).last
  · intro publicKey stored _ peer hpeer
    have hnone : (Runs.after (serviceStep .transparent) (.fresh [])
        ((suppliedKeys .zero onesKey).take 1)).db.peers.rows = [] := by decide +kernel
    exact absurd (hnone ▸ hpeer) List.not_mem_nil
  · intro publicKey stored hkeys peer hpeer _ hsame
    have hzero : ∀ peer ∈ (Runs.after (serviceStep .transparent) (.fresh [])
        ((suppliedKeys .zero onesKey).take 2)).db.peers.rows,
        peer.publicKey = ⟨.ofKey .zero⟩ := by decide +kernel
    have hones : PeerService.newKeys .transparent Key.zero (Text.trim "")
        (Text.trim (encodeKey onesKey)) = .ok (⟨.ofKey onesKey⟩, none) := by decide +kernel
    have hkey : publicKey = ⟨.ofKey onesKey⟩ :=
      congrArg Prod.fst (Except.ok.inj (hkeys.symm.trans hones))
    rw [hzero peer hpeer, hkey] at hsame
    exact absurd hsame (by decide +kernel)

end Wireforge
