import Wireforge.Lifecycle.ServiceRun

/-!
# Addresses

An explicit address is compared with the addresses of the other peers of the interface, an
automatic one with their network addresses. `unique_addresses` shows that over any run the two
checks together keep every address with one peer.
-/

namespace Wireforge

open Effect PeerService

/-- No address is assigned to two peers of one interface. -/
def UniqueAddresses (db : Db) : Prop :=
  ∀ peer ∈ db.peers.rows, ∀ other ∈ db.peers.rows, peer.id ≠ other.id →
    peer.interfaceId = other.interfaceId → ∀ ip ∈ peer.allowedIps, ip ∉ other.allowedIps

variable {crates : Crates} {plan : Plan} {w w' : World} {db db' : Db}

/-! ## Choosing addresses -/

theorem ensure_no_conflict_ok {want : List IpNet} {existing : List Peer}
    (h : ensureNoConflict want existing = .ok ()) :
    ∀ ip ∈ want, ∀ peer ∈ existing, ip ∉ peer.allowedIps := by
  unfold ensureNoConflict at h
  split at h
  · cases h
  · rename_i hnone
    intro ip hip peer hpeer hmem
    have := List.find?_eq_none.mp hnone ip hip
    simp only [decide_eq_true_eq] at this
    exact this (List.mem_flatMap.mpr ⟨peer, hpeer, hmem⟩)

/-- The address that is chosen is no peer's network address. -/
theorem next_free_some {cidr : IpNet} {existing : List Peer} {ip : IpAddr}
    (h : nextFreeIpv4 cidr existing = some ip) :
    ∀ peer ∈ existing, ∀ net ∈ peer.allowedIps, net.network ≠ ip := by
  intro peer hpeer net hnet heq
  unfold nextFreeIpv4 at h
  have hfree := IpNet.find_host_some h
  simp only [decide_eq_true_eq] at hfree
  exact hfree (List.mem_flatMap.mpr ⟨peer, hpeer, List.mem_map.mpr ⟨net, hnet, heq⟩⟩)

/-- The address that is chosen is of the interface's family, so that the longest prefix of the
interface leaves it no host bits. -/
theorem next_free_width {cidr : IpNet} {existing : List Peer} {ip : IpAddr}
    (h : nextFreeIpv4 cidr existing = some ip) : maxPrefix cidr = ip.width := by
  obtain ⟨n, -, rfl⟩ := Option.map_eq_some_iff.mp h
  cases cidr <;> rfl

/-- The addresses of a new peer are assigned to no peer of its interface. -/
theorem allocate_free {iface : Interface} {existing : List Peer}
    {requested : Option (List IpNet)} {allowed : List IpNet}
    (h : allocate iface existing requested = .ok allowed) :
    ∀ ip ∈ allowed, ∀ peer ∈ existing, ip ∉ peer.allowedIps := by
  unfold allocate at h
  split at h
  · rename_i ip rest
    cases hconflict : ensureNoConflict (ip :: rest) existing with
    | error e =>
        rw [hconflict] at h
        cases h
    | ok value =>
        rw [hconflict] at h
        cases h
        exact ensure_no_conflict_ok hconflict
  · split at h
    · cases h
    · split at h
      · cases h
      · rename_i cidr _ ip hnext
        split at h
        · cases h
        · rename_i host hhost
          cases h
          intro net hnet peer hpeer hmem
          obtain rfl := List.mem_singleton.mp hnet
          rw [next_free_width hnext] at hhost
          exact next_free_some hnext peer hpeer net hmem (IpNet.network_new_width hhost)

/-! ## The rows -/

theorem unique_of_subset (h : UniqueAddresses db)
    (hsub : ∀ peer ∈ db'.peers.rows, peer ∈ db.peers.rows) : UniqueAddresses db' :=
  fun peer hpeer other hother => h peer (hsub peer hpeer) other (hsub other hother)

/-- Assignments are not among what the background tasks change. -/
theorem unique_of_cores (h : UniqueAddresses db) (hcores : db'.cores = db.cores) :
    UniqueAddresses db' := by
  intro peer hpeer other hother
  obtain ⟨old, hold, hid, hiface, -, hips⟩ := Db.source_of_cores hcores hpeer
  obtain ⟨old', hold', hid', hiface', -, hips'⟩ := Db.source_of_cores hcores hother
  rw [← hid, ← hid', ← hiface, ← hiface', ← hips, ← hips']
  exact h old hold old' hold'

/-- One row is added or rewritten, with addresses that no other row of its interface has. -/
theorem unique_of_row (row : Peer) (h : UniqueAddresses db)
    (hrows : ∀ peer ∈ db'.peers.rows, peer ∈ db.peers.rows ∧ peer.id ≠ row.id ∨
      peer.id = row.id ∧ peer.interfaceId = row.interfaceId ∧ peer.allowedIps = row.allowedIps)
    (hfree : ∀ ip ∈ row.allowedIps, ∀ peer ∈ db.peers.rows,
      peer.interfaceId = row.interfaceId → peer.id ≠ row.id → ip ∉ peer.allowedIps) :
    UniqueAddresses db' := by
  intro peer hpeer other hother hne hsame ip hip hip'
  rcases hrows peer hpeer with ⟨hpeer, hpid⟩ | ⟨hpid, hpiface, hpips⟩ <;>
    rcases hrows other hother with ⟨hother, hoid⟩ | ⟨hoid, hoiface, hoips⟩
  · exact h peer hpeer other hother hne hsame ip hip hip'
  · exact hfree ip (hoips ▸ hip') peer hpeer (hsame.trans hoiface) hpid hip
  · exact hfree ip (hpips ▸ hip) other hother (hsame.symm.trans hpiface) hoid hip'
  · exact hne (hpid.trans hoid.symm)

/-! ## One operation -/

theorem unique_peer_invariant : PeerInvariant UniqueAddresses where
  subset _ _ := unique_of_subset
  cores _ _ := unique_of_cores

theorem created_unique {input : CreatePeerInput} {result : Except CoreError Peer}
    (h : UniqueAddresses w.db) (hend : Created plan crates w input result w') :
    UniqueAddresses w'.db := by
  cases hend with
  | rejected e => exact h
  | created iface peer db hread hallocate _ hiface _ hdb =>
      obtain ⟨hfresh, hrows, -⟩ := Db.insert_peer_ok hdb
      refine unique_of_row peer h (fun other hother => ?_) fun ip hip other hother hsame _ => ?_
      · rw [hrows, List.mem_append, List.mem_singleton] at hother
        rcases hother with hother | rfl
        · exact .inl ⟨hother, hfresh other hother⟩
        · exact .inr ⟨rfl, rfl, rfl⟩
      · refine allocate_free hallocate ip hip other ?_
        simp [Db.peersOf, hother, hsame, hiface]

theorem updated_unique {id : Id PeerMarker} {input : UpdatePeerInput}
    {result : Except CoreError Peer} (h : UniqueAddresses w.db)
    (hend : Updated plan crates w id input result w') : UniqueAddresses w'.db := by
  cases hend with
  | rejected e => exact h
  | updated old peer target db hread _ hconflict hpeer hdb =>
      refine unique_of_row peer h (fun other hother => ?_) fun ip hip other hother hsame hne => ?_
      · rw [(Db.update_peer_ok hdb).1] at hother
        obtain ⟨before, hbefore, rfl⟩ := List.mem_map.mp hother
        unfold Db.setPeer
        split
        · exact .inr ⟨rfl, rfl, rfl⟩
        · rename_i hother
          exact .inl ⟨hbefore, hother⟩
      · obtain ⟨hid, hiface, hips⟩ := rekeyed_row hpeer
        rw [hips] at hip
        rw [hiface] at hsame
        rw [hid] at hne
        refine ensure_no_conflict_ok hconflict ip hip other ?_
        simpa [Db.peersOf, hother] using ⟨hsame, hne⟩

/-- Whatever fails, an operation keeps the addresses unique. -/
theorem unique_addresses_step (crates : Crates) (w : World) (a : ServiceStep)
    (h : UniqueAddresses w.db) : UniqueAddresses (serviceStep crates w a).db := by
  refine unique_peer_invariant.step crates w a h ?_ ?_
  · intro input _ result w' hend
    exact created_unique (w := w.seen a.env) h hend
  · intro id input _ result w' hend
    exact updated_unique (w := w.seen a.env) h hend

/-- In every run from a store without peers no address is assigned to two peers of one
interface. -/
theorem unique_addresses (crates : Crates) (w : World) (run : List ServiceStep)
    (hempty : w.db.peers.rows = []) :
    Runs.Always (serviceStep crates) (fun w => UniqueAddresses w.db) w run :=
  Runs.always_of_step (unique_addresses_step crates) (by simp [UniqueAddresses, hempty]) run

/-- Two peers of one interface: the first asks for the address that the second would have got. -/
def twoPeers : List ServiceStep :=
  let env := (World.fresh []).env
  let input := CreateInterfaceInput.plain "wg0" none none
  [⟨.interface (.create { input with ipv4Cidr := some .lab }), .none, env⟩,
    ⟨.createPeer (.plain "first" ⟨0⟩ (some [.single (ipv4 10 7 0 2)])), .none, env⟩,
    ⟨.createPeer (.plain "second" ⟨0⟩ none), .none, { env with uuid := 1 }⟩]

theorem unique_addresses_two_peers :
    let db := (Runs.after (serviceStep .transparent) (.fresh []) twoPeers).db
    UniqueAddresses db ∧ db.peers.rows.map Peer.allowedIps =
      [[.v4 (ipv4 10 7 0 2) 32], [.v4 (ipv4 10 7 0 3) 32]] :=
  ⟨(unique_addresses .transparent (.fresh []) twoPeers rfl).last, by decide +kernel⟩

end Wireforge
