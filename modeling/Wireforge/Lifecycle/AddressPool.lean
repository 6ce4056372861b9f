import Wireforge.Lifecycle.Allocation

/-!
# The address pool

A peer that asks for no address gets the first host address after the server's conventional one
that is no peer's network address. `auto_allocation` says which one that is and follows a run of
requests until the pool is empty. The two theorems after it are about what the search does not look
at: the host bits of the addresses of the other peers, and the address of the server.
-/

namespace Wireforge

open Effect PeerService

variable {crates : Crates} {addr bits : BitVec 32} {len : Fin 33} {existing : List Peer}

/-! ## The search -/

/-- The addresses that the search may end at: the host addresses after the first one that are no
peer's network address. -/
def freeHosts (cidr : IpNet) (existing : List Peer) : Set (BitVec 32) :=
  {bits | cidr.hostBounds.1 + 1 ≤ bits.toNat ∧ bits.toNat ≤ cidr.hostBounds.2 ∧
    ∀ peer ∈ existing, ∀ net ∈ peer.allowedIps, net.network ≠ .v4 bits}

/-- The number of addresses that a network has for its peers. -/
def poolSize (len : Fin 33) : Nat :=
  if len.val ≤ 30 then 2 ^ (32 - len.val) - 3 else if len.val = 31 then 1 else 0

/-- The first address that a network has for its peers. -/
def poolFirst (addr : BitVec 32) (len : Fin 33) : Nat :=
  (IpNet.v4 addr len).network.toNat + if len.val ≤ 30 then 2 else 1

/-- What the search passes over. -/
def usedNetworks (existing : List Peer) : List IpAddr :=
  existing.flatMap fun p => p.allowedIps.map IpNet.network

theorem mem_used_networks {ip : IpAddr} :
    ip ∈ usedNetworks existing ↔ ∃ peer ∈ existing, ∃ net ∈ peer.allowedIps, net.network = ip := by
  simp [usedNetworks]

/-- The pool lies between the server's conventional address and the end of the network. -/
theorem pool_bounds (addr : BitVec 32) (len : Fin 33) :
    (IpNet.v4 addr len).hostBounds.1 + 1 = poolFirst addr len ∧
      (IpNet.v4 addr len).hostBounds.2 + 1 = poolFirst addr len + poolSize len := by
  have hbroadcast : (IpNet.v4 addr len).broadcast.toNat =
      (IpNet.v4 addr len).network.toNat + (2 ^ (32 - len.val) - 1) := IpNet.to_nat_broadcast_v4
  simp only [IpNet.hostBounds, poolFirst, poolSize]
  generalize (IpNet.v4 addr len).network.toNat = network at hbroadcast ⊢
  generalize (IpNet.v4 addr len).broadcast.toNat = broadcast at hbroadcast ⊢
  by_cases hlen : len.val ≤ 30
  · have hsize : 2 ^ 2 ≤ 2 ^ (32 - len.val) := Nat.pow_le_pow_right (by omega) (by omega)
    rw [if_pos (by omega : len.val < 31), if_pos hlen, if_pos hlen]
    constructor
    · rfl
    · show broadcast - 1 + 1 = _
      omega
  · rw [if_neg (by omega : ¬ len.val < 31), if_neg hlen, if_neg hlen]
    refine ⟨rfl, ?_⟩
    show broadcast + 1 = _
    by_cases hlast : len.val = 31
    · rw [if_pos hlast]
      rw [hlast] at hbroadcast
      omega
    · have hwhole : len.val = 32 := by
        have := len.isLt
        omega
      rw [if_neg hlast]
      rw [hwhole] at hbroadcast
      omega

theorem mem_free_hosts : bits ∈ freeHosts (.v4 addr len) existing ↔
    poolFirst addr len ≤ bits.toNat ∧ bits.toNat < poolFirst addr len + poolSize len ∧
      .v4 bits ∉ usedNetworks existing := by
  obtain ⟨hfirst, hlast⟩ := pool_bounds addr len
  rw [mem_used_networks, freeHosts, Set.mem_ofPred_eq, hfirst]
  refine and_congr_right fun _ => and_congr ?_ (by simp)
  rw [← hlast, Nat.lt_succ_iff]

/-- Every address of the pool is an address. -/
theorem pool_lt (addr : BitVec 32) (len : Fin 33) :
    poolFirst addr len + poolSize len ≤ 2 ^ 32 := by
  rw [← (pool_bounds addr len).2]
  have hlt := (addr ||| (BitVec.allOnes 32 >>> len.val)).isLt
  have hle : (IpNet.v4 addr len).hostBounds.2 ≤ (IpNet.v4 addr len).broadcast.toNat := by
    unfold IpNet.hostBounds
    dsimp only
    split
    · exact Nat.sub_le _ _
    · exact le_refl _
  have heq : (IpNet.v4 addr len).broadcast.toNat =
      (addr ||| (BitVec.allOnes 32 >>> len.val)).toNat := rfl
  omega

/-- The numbers that the search looks at. -/
theorem searched_iff (n : Nat) :
    (poolFirst addr len ≤ n ∧ n < poolFirst addr len + poolSize len ∧
      decide (IpAddr.v4 (BitVec.ofNat 32 n) ∉ usedNetworks existing) = true) ↔
      ∃ bits ∈ freeHosts (.v4 addr len) existing, bits.toNat = n := by
  have hlt := pool_lt addr len
  rw [decide_eq_true_eq]
  constructor
  · rintro ⟨hlow, hhigh, hfree⟩
    have hn : (BitVec.ofNat 32 n).toNat = n := by
      rw [BitVec.toNat_ofNat, Nat.mod_eq_of_lt (by omega)]
    exact ⟨_, mem_free_hosts.mpr ⟨by omega, by omega, hfree⟩, hn⟩
  · rintro ⟨bits, hbits, rfl⟩
    obtain ⟨hlow, hhigh, hfree⟩ := mem_free_hosts.mp hbits
    exact ⟨hlow, hhigh, by rwa [BitVec.ofNat_toNat, BitVec.setWidth_eq]⟩

/-- The search is one over the numbers of the pool. -/
theorem next_free_eq : nextFreeIpv4 (.v4 addr len) existing =
    (findFrom (fun n => decide (IpAddr.v4 (BitVec.ofNat 32 n) ∉ usedNetworks existing))
      (poolFirst addr len) (poolSize len)).map (IpNet.v4 addr len).address := by
  obtain ⟨hfirst, hlast⟩ := pool_bounds addr len
  have hcount : (IpNet.v4 addr len).hostBounds.2 + 1 - poolFirst addr len = poolSize len := by
    omega
  rw [← hcount, ← hfirst]
  rfl

/-- The search ends at the least free address. -/
theorem next_free_eq_some {ip : IpAddr} : nextFreeIpv4 (.v4 addr len) existing = some ip ↔
    ∃ bits, IsLeast (freeHosts (.v4 addr len) existing) bits ∧ ip = .v4 bits := by
  rw [next_free_eq, Option.map_eq_some_iff]
  simp only [find_from_eq_some, searched_iff]
  constructor
  · rintro ⟨n, ⟨⟨bits, hbits, rfl⟩, hleast⟩, rfl⟩
    refine ⟨bits, ⟨hbits, fun other hother => ?_⟩, ?_⟩
    · exact hleast ⟨other, hother, rfl⟩
    · show IpAddr.v4 (BitVec.ofNat 32 bits.toNat) = .v4 bits
      rw [BitVec.ofNat_toNat, BitVec.setWidth_eq]
  · rintro ⟨bits, ⟨hbits, hleast⟩, rfl⟩
    refine ⟨bits.toNat, ⟨⟨bits, hbits, rfl⟩, ?_⟩, ?_⟩
    · rintro n ⟨other, hother, rfl⟩
      exact hleast hother
    · show IpAddr.v4 (BitVec.ofNat 32 bits.toNat) = .v4 bits
      rw [BitVec.ofNat_toNat, BitVec.setWidth_eq]

/-- The search fails if and only if no address is free. -/
theorem next_free_eq_none :
    nextFreeIpv4 (.v4 addr len) existing = none ↔ freeHosts (.v4 addr len) existing = ∅ := by
  rw [next_free_eq, Option.map_eq_none_iff, find_from_eq_none]
  simp only [searched_iff, Set.eq_empty_iff_forall_notMem]
  constructor
  · intro h bits hbits
    exact h bits.toNat ⟨bits, hbits, rfl⟩
  · rintro h n ⟨bits, hbits, -⟩
    exact h bits hbits

/-- The service gives a peer that asks for no address the one that the search ends at. -/
theorem allocate_some {iface : Interface} (hcidr : iface.ipv4Cidr = some (.v4 addr len))
    (h : nextFreeIpv4 (.v4 addr len) existing = some (.v4 bits)) :
    allocate iface existing none = .ok [.single bits] := by
  simp only [allocate, hcidr, h]
  rfl

theorem allocate_none {iface : Interface} (hcidr : iface.ipv4Cidr = some (.v4 addr len))
    (h : nextFreeIpv4 (.v4 addr len) existing = none) :
    allocate iface existing none = .error (.ipPoolExhausted (IpNet.v4 addr len).display) := by
  simp only [allocate, hcidr, h]

/-! ## Requests -/

/-- A request to create a peer, what fails during it and what the host shows. -/
structure CreateRequest where
  input : CreatePeerInput
  plan : Plan
  env : Env

namespace CreateRequest

/-- What a request returns and the world it leaves. -/
def outcome (crates : Crates) (a : CreateRequest) (w : World) : Except CoreError Peer × World :=
  eval (handle a.plan) (createWithServerKeypair crates a.input) (w.seen a.env)

/-- Apart from the choice of an address nothing stands against a request for a peer of an
interface: it has a name, its keys can be taken over, and no call to the database fails. -/
structure Sound (crates : Crates) (id : Id InterfaceMarker) (a : CreateRequest) : Prop where
  auto : a.input.Auto
  target : a.input.interfaceId = id
  named : (Text.trim a.input.name).isEmpty = false
  keys : ∃ pair, newKeys crates a.env.key (Text.trim a.input.privateKey)
    (Text.trim a.input.publicKey) = .ok pair
  reads : a.plan.error (.findInterface id) = none
  lists : a.plan.error (.listPeersOf id) = none
  stores : ∀ row, a.plan.error (.insertPeer row) = none

/-- The identifier that a request draws is new. -/
def Fresh (a : CreateRequest) (db : Db) : Prop :=
  ∀ peer ∈ db.peers.rows, peer.id ≠ ⟨a.env.uuid⟩

instance (a : CreateRequest) (db : Db) : Decidable (a.Fresh db) :=
  inferInstanceAs (Decidable (∀ peer ∈ db.peers.rows, peer.id ≠ ⟨a.env.uuid⟩))

end CreateRequest

/-- The world after a request. -/
def createStep (crates : Crates) (w : World) (a : CreateRequest) : World :=
  (a.outcome crates w).2

variable {id : Id InterfaceMarker} {iface : Interface} {w : World} {a : CreateRequest}

/-- A request that asks for no address is treated as one without a list of addresses. -/
theorem allocate_auto {input : CreatePeerInput} (h : input.Auto) :
    allocate iface existing input.allowedIps = allocate iface existing none := by
  rcases h with h | h
  · rw [h]
  · rw [h]
    rfl

/-- The identifier of a new row decides whether it can be inserted, as its interface exists. -/
theorem insert_exists {db : Db} {row : Peer} (hfresh : ∀ peer ∈ db.peers.rows, peer.id ≠ row.id)
    (href : (db.interfaces.find row.interfaceId).isSome) : ∃ db', db.insertPeer row = .ok db' := by
  unfold Db.insertPeer
  rw [dif_pos (Table.find_eq_none.mpr hfresh), dif_pos href]
  exact ⟨_, rfl⟩

/-- Such a request ends as the choice of an address does. -/
theorem outcome_addresses (hsound : a.Sound crates id) (hfresh : a.Fresh w.db)
    (hiface : w.db.interfaces.find id = some iface) :
    (a.outcome crates w).1.map Peer.allowedIps = allocate iface (w.db.peersOf id) none := by
  have hid : iface.id = id := (Table.find_eq_some.mp hiface).2
  have hget : eval (handle a.plan) (getInterface a.input.interfaceId) (w.seen a.env) =
      (.ok iface, w.seen a.env) := by
    rcases eval_get_interface a.plan (w.seen a.env) a.input.interfaceId with
      ⟨found, hread, hget⟩ | ⟨hread, -⟩
    · rw [Plan.readInterface, hsound.target, hsound.reads] at hread
      obtain rfl : iface = found := Option.some.inj (hiface.symm.trans hread)
      exact hget
    · rw [Plan.readInterface, hsound.target, hsound.reads] at hread
      cases hiface.symm.trans hread
  have hlist : eval (handle a.plan) (SqlitePeerRepository.listForInterface iface.id)
      (w.seen a.env) = (.ok (w.db.peersOf id), w.seen a.env) := by
    rw [SqlitePeerRepository.eval_list_for_interface, Plan.outcome, hid, hsound.lists]
    rfl
  unfold CreateRequest.outcome createWithServerKeypair
  rw [if_neg (Bool.eq_false_iff.mp hsound.named)]
  simp only [eval_bind, hget, hlist, eval_of_except, allocate_auto hsound.auto, eval_keys]
  cases hallocate : allocate iface (w.db.peersOf id) none with
  | error e => rfl
  | ok allowed =>
      obtain ⟨⟨publicKey, stored⟩, hkeys⟩ := hsound.keys
      simp only [seen_env, hkeys]
      generalize hnew : NewPeer.mk _ _ _ _ _ _ _ _ _ _ _ _ _ = new
      have hnewid : new.interfaceId = id := by
        rw [← hnew]
        exact hid
      have href : (w.db.interfaces.find
          (SqlitePeerRepository.newRow a.env.uuid a.env.now new none).interfaceId).isSome := by
        show (w.db.interfaces.find new.interfaceId).isSome
        rw [hnewid, hiface]
        rfl
      have hunused : ∀ peer ∈ w.db.peers.rows,
          peer.id ≠ (SqlitePeerRepository.newRow a.env.uuid a.env.now new none).id := hfresh
      obtain ⟨db, hdb⟩ := insert_exists hunused href
      rcases eval_statement a.plan (w.seen a.env) (.insertPeer _) (·.insertPeer _)
        (Sys.insertPeer (SqlitePeerRepository.newRow a.env.uuid a.env.now new none)).request rfl
        with ⟨db', -, -, heval⟩ | ⟨hfails | ⟨e, hfails⟩, -⟩
      · simp only [SqlitePeerRepository.create, eval_bind, eval_now_v7, eval_utc_now, seen_env,
          heval, eval_pure, eval_ignore]
        show Except.ok new.allowedIps = _
        rw [← hnew]
      · rw [hsound.stores] at hfails
        cases hfails
      · cases hdb.symm.trans hfails

/-! ## A run of requests -/

/-- What the request after `k` granted ones is told. -/
def poolOutcome (addr : BitVec 32) (len : Fin 33) (k : Nat) : Except CoreError (List IpNet) :=
  if k < poolSize len then .ok [.single (.ofNat 32 (poolFirst addr len + k))]
  else .error (.ipPoolExhausted (IpNet.v4 addr len).display)

/-- The peers of the interface have the first `k` addresses of its pool. -/
structure Filled (id : Id InterfaceMarker) (iface : Interface) (first k : Nat) (db : Db) :
    Prop where
  interface : db.interfaces.find id = some iface
  used : ∀ ip, ip ∈ usedNetworks (db.peersOf id) ↔ ∃ i < k, ip = .v4 (.ofNat 32 (first + i))

/-- Numbers of addresses of one pool are equal if the addresses are. -/
theorem of_nat_inj {m n : Nat} (hm : m < 2 ^ 32) (hn : n < 2 ^ 32)
    (h : BitVec.ofNat 32 m = BitVec.ofNat 32 n) : m = n := by
  have hnat := congrArg BitVec.toNat h
  rwa [BitVec.toNat_ofNat, BitVec.toNat_ofNat, Nat.mod_eq_of_lt hm, Nat.mod_eq_of_lt hn] at hnat

/-- With the first `k` addresses gone, the next one is chosen. -/
theorem allocate_filled {db : Db} {k : Nat} (hk : k ≤ poolSize len)
    (hcidr : iface.ipv4Cidr = some (.v4 addr len))
    (h : Filled id iface (poolFirst addr len) k db) :
    allocate iface (db.peersOf id) none = poolOutcome addr len k := by
  have hlt := pool_lt addr len
  unfold poolOutcome
  split
  · rename_i hlast
    have hnat : (BitVec.ofNat 32 (poolFirst addr len + k)).toNat = poolFirst addr len + k := by
      rw [BitVec.toNat_ofNat, Nat.mod_eq_of_lt (by omega)]
    refine allocate_some hcidr (next_free_eq_some.mpr ⟨_, ⟨?_, fun other hother => ?_⟩, rfl⟩)
    · refine mem_free_hosts.mpr ⟨by omega, by omega, fun hused => ?_⟩
      obtain ⟨i, hi, heq⟩ := (h.used _).mp hused
      have := of_nat_inj (by omega) (by omega) (IpAddr.v4.inj heq)
      omega
    · obtain ⟨hlow, hhigh, hfree⟩ := mem_free_hosts.mp hother
      show (BitVec.ofNat 32 (poolFirst addr len + k)).toNat ≤ other.toNat
      rw [hnat]
      by_contra hless
      refine hfree ((h.used _).mpr ⟨other.toNat - poolFirst addr len, by omega, ?_⟩)
      rw [Nat.add_sub_cancel' hlow, BitVec.ofNat_toNat, BitVec.setWidth_eq]
  · rename_i hlast
    refine allocate_none hcidr (next_free_eq_none.mpr ?_)
    refine Set.eq_empty_iff_forall_notMem.mpr fun other hother => ?_
    obtain ⟨hlow, hhigh, hfree⟩ := mem_free_hosts.mp hother
    refine hfree ((h.used _).mpr ⟨other.toNat - poolFirst addr len, by omega, ?_⟩)
    rw [Nat.add_sub_cancel' hlow, BitVec.ofNat_toNat, BitVec.setWidth_eq]

/-- The addresses that are passed over once a peer with a single address has been added. -/
theorem used_insert {db db' : Db} {peer : Peer} (hdb : db.insertPeer peer = .ok db')
    (hid : peer.interfaceId = id) (hips : peer.allowedIps = [.single bits]) (ip : IpAddr) :
    ip ∈ usedNetworks (db'.peersOf id) ↔ ip ∈ usedNetworks (db.peersOf id) ∨ ip = .v4 bits := by
  have hnetwork : (IpNet.single bits).network = .v4 bits := by simp [IpNet.single, IpNet.network]
  have hmem : ∀ other, other ∈ db'.peersOf id ↔ other ∈ db.peersOf id ∨ other = peer := by
    intro other
    rw [mem_peers_of, mem_peers_of, (Db.insert_peer_ok hdb).2.1, List.mem_append,
      List.mem_singleton]
    constructor
    · rintro ⟨hother | rfl, hsame⟩
      · exact .inl ⟨hother, hsame⟩
      · exact .inr rfl
    · rintro (⟨hother, hsame⟩ | rfl)
      · exact ⟨.inl hother, hsame⟩
      · exact ⟨.inr rfl, hid⟩
  rw [mem_used_networks, mem_used_networks]
  constructor
  · rintro ⟨other, hother, net, hnet, rfl⟩
    rcases (hmem other).mp hother with hother | rfl
    · exact .inl ⟨other, hother, net, hnet, rfl⟩
    · rw [hips, List.mem_singleton] at hnet
      exact .inr (hnet ▸ hnetwork)
  · rintro (⟨other, hother, net, hnet, rfl⟩ | rfl)
    · exact ⟨other, (hmem other).mpr (.inl hother), net, hnet, rfl⟩
    · exact ⟨peer, (hmem peer).mpr (.inr rfl), .single bits, by simp [hips], hnetwork⟩

/-- A request takes the next address of the pool, if there is one left. -/
theorem filled_step {k : Nat} (hk : k ≤ poolSize len)
    (hcidr : iface.ipv4Cidr = some (.v4 addr len)) (hsound : a.Sound crates id)
    (hfresh : a.Fresh w.db) (h : Filled id iface (poolFirst addr len) k w.db) :
    (a.outcome crates w).1.map Peer.allowedIps = poolOutcome addr len k ∧
      Filled id iface (poolFirst addr len) (min (k + 1) (poolSize len))
        (createStep crates w a).db := by
  have haddresses := (outcome_addresses hsound hfresh h.interface).trans
    (allocate_filled hk hcidr h)
  refine ⟨haddresses, ?_⟩
  obtain ⟨result, w', heval, hend⟩ := create_spec a.plan crates (w.seen a.env) a.input
  have houtcome : a.outcome crates w = (result, w') := heval
  rw [createStep, houtcome]
  rw [houtcome] at haddresses
  unfold poolOutcome at haddresses
  cases hend with
  | rejected e =>
      split at haddresses
      · cases haddresses
      · rw [min_eq_right (by omega), show poolSize len = k by omega]
        exact h
  | created iface' peer db hread _ _ hrow _ hdb =>
      split at haddresses
      · rename_i hlast
        have hips := Except.ok.inj haddresses
        have hid : peer.interfaceId = id := by
          rw [hrow, (Plan.read_interface_some hread).2]
          exact hsound.target
        rw [min_eq_left (by omega)]
        refine ⟨?_, fun ip => ?_⟩
        · show db.interfaces.find id = _
          rw [(Db.insert_peer_ok hdb).2.2]
          exact h.interface
        · show ip ∈ usedNetworks (db.peersOf id) ↔ _
          have hused : ip ∈ usedNetworks ((w.seen a.env).db.peersOf id) ↔ _ := h.used ip
          rw [used_insert hdb hid hips, hused]
          constructor
          · rintro (⟨i, hi, rfl⟩ | rfl)
            · exact ⟨i, by omega, rfl⟩
            · exact ⟨k, by omega, rfl⟩
          · rintro ⟨i, hi, rfl⟩
            rcases Nat.lt_succ_iff_lt_or_eq.mp hi with hi | rfl
            · exact .inl ⟨i, hi, rfl⟩
            · exact .inr rfl
      · cases haddresses

/-- The requests of a run take the addresses of the pool in their order. -/
theorem filled_run {k : Nat} (hk : k ≤ poolSize len)
    (hcidr : iface.ipv4Cidr = some (.v4 addr len)) (requests : List CreateRequest)
    (hok : Runs.EachStep (createStep crates) (fun w a => a.Sound crates id ∧ a.Fresh w.db) w
      requests)
    (h : Filled id iface (poolFirst addr len) k w.db) {i : Nat} (ha : requests[i]? = some a) :
    (a.outcome crates (Runs.after (createStep crates) w (requests.take i))).1.map
      Peer.allowedIps = poolOutcome addr len (k + i) := by
  induction requests generalizing w k i with
  | nil => cases ha
  | cons first rest ih =>
      obtain ⟨⟨hsound, hfresh⟩, hrest⟩ := hok
      obtain ⟨houtcome, hnext⟩ := filled_step hk hcidr hsound hfresh h
      cases i with
      | zero =>
          obtain rfl := Option.some.inj ha
          exact houtcome
      | succ i =>
          have hlater := ih (min_le_right _ _) hrest hnext ha
          rw [List.take_succ_cons, Runs.after_cons, hlater]
          unfold poolOutcome
          by_cases hlast : k + 1 ≤ poolSize len
          · rw [min_eq_left hlast, Nat.add_right_comm, Nat.add_assoc k i 1]
          · rw [if_neg (by omega), if_neg (by omega)]

/-- With nobody on the interface its pool has not been touched. -/
theorem filled_empty {db : Db} (hiface : db.interfaces.find id = some iface)
    (hempty : db.peersOf id = []) (first : Nat) : Filled id iface first 0 db where
  interface := hiface
  used ip := by simp [hempty, usedNetworks]

/-- Up to prefix 30 the pool reaches from the second address after the network address to the one
before the broadcast address. -/
theorem free_hosts_eq (hlen : len.val ≤ 30) : freeHosts (.v4 addr len) existing =
    {bits | (IpNet.v4 addr len).network.toNat + 2 ≤ bits.toNat ∧
      bits.toNat ≤ (IpNet.v4 addr len).broadcast.toNat - 1 ∧
      ∀ peer ∈ existing, ∀ net ∈ peer.allowedIps, net.network ≠ .v4 bits} := by
  have hbounds : (IpNet.v4 addr len).hostBounds = ((IpNet.v4 addr len).network.toNat + 1,
      (IpNet.v4 addr len).broadcast.toNat - 1) := if_pos (by omega)
  rw [freeHosts, hbounds]

/-- Automatic allocation is ordered and complete: the least address of the pool that is free is
chosen, and on an interface without peers the requests of a run get the addresses of its pool one
after the other until there is none left. -/
theorem auto_allocation (addr : BitVec 32) (len : Fin 33) :
    (len.val ≤ 30 → ∀ existing : List Peer,
      let free : Set (BitVec 32) :=
        {bits | (IpNet.v4 addr len).network.toNat + 2 ≤ bits.toNat ∧
          bits.toNat ≤ (IpNet.v4 addr len).broadcast.toNat - 1 ∧
          ∀ peer ∈ existing, ∀ net ∈ peer.allowedIps, net.network ≠ .v4 bits}
      (∀ ip, nextFreeIpv4 (.v4 addr len) existing = some ip ↔
        ∃ bits, IsLeast free bits ∧ ip = .v4 bits) ∧
      (nextFreeIpv4 (.v4 addr len) existing = none ↔ free = ∅)) ∧
    ∀ (crates : Crates) (w : World) (id : Id InterfaceMarker) (iface : Interface)
      (requests : List CreateRequest), w.db.interfaces.find id = some iface →
      iface.ipv4Cidr = some (.v4 addr len) → w.db.peersOf id = [] →
      Runs.EachStep (createStep crates) (fun w a => a.Sound crates id ∧ a.Fresh w.db) w requests →
      ∀ i a, requests[i]? = some a →
        (a.outcome crates (Runs.after (createStep crates) w (requests.take i))).1.map
          Peer.allowedIps = poolOutcome addr len i := by
  constructor
  · intro hlen existing free
    rw [← show freeHosts (.v4 addr len) existing = free from free_hosts_eq hlen]
    exact ⟨fun ip => next_free_eq_some, next_free_eq_none⟩
  · intro crates w id iface requests hiface hcidr hempty hok i a ha
    have hrun := filled_run (Nat.zero_le _) hcidr requests hok (filled_empty hiface hempty _) ha
    rwa [Nat.zero_add] at hrun

/-- An interface with the network, and no peers. -/
def emptyWorld (cidr : IpNet) : World :=
  let input := CreateInterfaceInput.plain "wg0" none none
  serviceStep .transparent (.fresh [])
    ⟨.interface (.create { input with ipv4Cidr := some cidr }), .none, (World.fresh []).env⟩

/-- A request for a peer with any address, on a host on which nothing fails. -/
def anyAddress (n : Nat) : CreateRequest where
  input := .plain "phone" ⟨0⟩ none
  plan := .none
  env := { (World.fresh []).env with uuid := .ofNat 128 n }

/-- The network `10.7.0.0/30` has one address for its peers. -/
theorem auto_allocation_smallest :
    let w := emptyWorld (.v4 (ipv4 10 7 0 0) 30)
    ((anyAddress 1).outcome .transparent w).1.map Peer.allowedIps =
        .ok [.single (ipv4 10 7 0 2)] ∧
      ((anyAddress 2).outcome .transparent (createStep .transparent w (anyAddress 1))).1.map
        Peer.allowedIps = .error (.ipPoolExhausted "10.7.0.0/30") := by
  intro w
  have hnamed : (Text.trim "phone").isEmpty = false := by decide +kernel
  have hblank : Text.trim "" = "" := by decide +kernel
  have hsound : ∀ n, (anyAddress n).Sound .transparent ⟨0⟩ := by
    intro n
    refine ⟨.inl rfl, rfl, hnamed, ?_, rfl, rfl, fun _ => rfl⟩
    show ∃ pair, newKeys .transparent _ (Text.trim "") (Text.trim "") = .ok pair
    rw [hblank]
    exact ⟨_, rfl⟩
  have hfound : (w.db.interfaces.find ⟨0⟩).map Interface.ipv4Cidr =
      some (some (.v4 (ipv4 10 7 0 0) 30)) := by decide +kernel
  obtain ⟨iface, hiface, hcidr⟩ := Option.map_eq_some_iff.mp hfound
  have hempty : w.db.peersOf ⟨0⟩ = [] := List.isEmpty_iff.mp (by decide +kernel)
  have hfirst : (anyAddress 1).Fresh w.db := by decide +kernel
  have hsecond : (anyAddress 2).Fresh (createStep .transparent w (anyAddress 1)).db := by
    decide +kernel
  have hrun := (auto_allocation (ipv4 10 7 0 0) 30).2 .transparent w ⟨0⟩ iface
    [anyAddress 1, anyAddress 2] hiface hcidr hempty
    ⟨⟨hsound 1, hfirst⟩, ⟨hsound 2, hsecond⟩, trivial⟩
  exact ⟨hrun 0 _ rfl, hrun 1 _ rfl⟩

/-! ## Host bits and the server's address -/

/-- The search cannot end at an address: it is outside of the pool, or it is a peer's network
address, or a smaller address is free. -/
def PassedOver (cidr : IpNet) (existing : List Peer) (bits : BitVec 32) : Prop :=
  bits ∈ freeHosts cidr existing → ∃ other ∈ freeHosts cidr existing, other < bits

/-- The search ends at an address if and only if it is not passed over. -/
theorem next_free_ne_iff :
    nextFreeIpv4 (.v4 addr len) existing ≠ some (.v4 bits) ↔
      PassedOver (.v4 addr len) existing bits := by
  rw [Ne, next_free_eq_some, PassedOver]
  constructor
  · intro h hbits
    by_contra hsmallest
    refine h ⟨bits, ⟨hbits, fun other hother => ?_⟩, rfl⟩
    by_contra hless
    exact hsmallest ⟨other, hother, BitVec.not_le.mp hless⟩
  · rintro h ⟨least, ⟨hmem, hleast⟩, heq⟩
    obtain rfl := IpAddr.v4.inj heq
    obtain ⟨other, hother, hless⟩ := h hmem
    exact absurd (hleast hother) (BitVec.not_le.mpr hless)

/-- A granted request that asks for no address gets the one that the search ends at. -/
theorem granted_address {peer : Peer} (hauto : a.input.Auto)
    (hiface : w.db.interfaces.find a.input.interfaceId = some iface)
    (hcidr : iface.ipv4Cidr = some (.v4 addr len))
    (hgranted : (a.outcome crates w).1 = .ok peer) :
    ∃ bits, nextFreeIpv4 (.v4 addr len) (w.db.peersOf iface.id) = some (.v4 bits) ∧
      peer.allowedIps = [.single bits] := by
  obtain ⟨result, w', heval, hend⟩ := create_spec a.plan crates (w.seen a.env) a.input
  have houtcome : a.outcome crates w = (result, w') := heval
  rw [houtcome] at hgranted
  cases hend with
  | rejected e => cases hgranted
  | created found peer' db hread hallocate _ _ _ _ =>
      obtain rfl := Except.ok.inj hgranted
      obtain ⟨hmem, hid⟩ := Plan.read_interface_some hread
      have hfind : w.db.interfaces.find a.input.interfaceId = some found :=
        Table.find_eq_some.mpr ⟨hmem, hid⟩
      obtain rfl := Option.some.inj (hiface.symm.trans hfind)
      rw [allocate_auto hauto] at hallocate
      cases hnext : nextFreeIpv4 (.v4 addr len) (w.db.peersOf iface.id) with
      | none =>
          rw [seen_db, allocate_none hcidr hnext] at hallocate
          cases hallocate
      | some ip =>
          obtain ⟨bits, -, rfl⟩ := next_free_eq_some.mp hnext
          rw [seen_db, allocate_some hcidr hnext] at hallocate
          exact ⟨bits, rfl, (Except.ok.inj hallocate).symm⟩

/-- The addresses of the client's `Address` line. -/
def Peer.clientAddresses (peer : Peer) : List IpAddr :=
  peer.allowedIps.map IpNet.addr

theorem client_addresses_single {peer : Peer} (h : peer.allowedIps = [.single bits]) :
    peer.clientAddresses = [.v4 bits] := by
  rw [Peer.clientAddresses, h]
  rfl

/-- The chosen address is none of the addresses, with their host bits, that are assigned to the
peers of the interface, exactly when each of those is passed over. Then the client of the new peer
shares no address with the client of another. -/
theorem allocated_once_iff (addr : BitVec 32) (len : Fin 33) :
    (∀ existing : List Peer,
      (∀ ip, nextFreeIpv4 (.v4 addr len) existing = some ip →
        ∀ peer ∈ existing, ∀ net ∈ peer.allowedIps, net.addr ≠ ip) ↔
      ∀ peer ∈ existing, ∀ net ∈ peer.allowedIps, ∀ bits, net.addr = .v4 bits →
        PassedOver (.v4 addr len) existing bits) ∧
    ∀ (crates : Crates) (w : World) (a : CreateRequest) (iface : Interface) (peer : Peer),
      a.input.Auto → w.db.interfaces.find a.input.interfaceId = some iface →
      iface.ipv4Cidr = some (.v4 addr len) → (a.outcome crates w).1 = .ok peer →
      (∀ other ∈ w.db.peersOf iface.id, ∀ net ∈ other.allowedIps, ∀ bits, net.addr = .v4 bits →
        PassedOver (.v4 addr len) (w.db.peersOf iface.id) bits) →
      ∀ other ∈ w.db.peersOf iface.id, peer.clientAddresses.Disjoint other.clientAddresses := by
  constructor
  · intro existing
    constructor
    · intro h peer hpeer net hnet bits hbits
      rw [← next_free_ne_iff]
      intro hnext
      exact h _ hnext peer hpeer net hnet hbits
    · intro h ip hip peer hpeer net hnet heq
      obtain ⟨bits, -, rfl⟩ := next_free_eq_some.mp hip
      exact next_free_ne_iff.mpr (h peer hpeer net hnet bits heq) hip
  · intro crates w a iface peer hauto hiface hcidr hgranted h other hother
    obtain ⟨bits, hnext, hips⟩ := granted_address hauto hiface hcidr hgranted
    rw [client_addresses_single hips, List.singleton_disjoint]
    intro hmem
    obtain ⟨net, hnet, heq⟩ := List.mem_map.mp hmem
    exact next_free_ne_iff.mpr (h other hother net hnet bits heq) hnext

/-- A peer that was given an address together with the prefix of the interface's network. -/
def hostBitsPeer : Peer :=
  { Peer.plain 0 0 "laptop" none none with allowedIps := [.labHost 2] }

/-- The address of a peer with host bits is given to the next peer as well. -/
theorem allocated_twice :
    ¬ ∀ (addr : BitVec 32) (len : Fin 33) (existing : List Peer) (ip : IpAddr),
      nextFreeIpv4 (.v4 addr len) existing = some ip →
        ∀ peer ∈ existing, ∀ net ∈ peer.allowedIps, net.addr ≠ ip := by
  intro h
  exact h (ipv4 10 7 0 0) 24 [hostBitsPeer] (.v4 (ipv4 10 7 0 2)) (by decide +kernel) _
    (List.mem_singleton.mpr rfl) _ (List.mem_singleton.mpr rfl) rfl

/-- A peer that has all addresses of a pool below the given one. -/
def lowerHosts (addr : BitVec 32) (len : Fin 33) (bits : BitVec 32) : Peer :=
  { Peer.plain 0 0 "gateway" none none with
    allowedIps := (List.range (bits.toNat - poolFirst addr len)).map fun i =>
      .single (.ofNat 32 (poolFirst addr len + i)) }

theorem used_lower_hosts {ip : IpAddr} : ip ∈ usedNetworks [lowerHosts addr len bits] ↔
    ∃ i < bits.toNat - poolFirst addr len, ip = .v4 (.ofNat 32 (poolFirst addr len + i)) := by
  have hnetwork : ∀ other, (IpNet.single other).network = .v4 other := fun other => by
    simp [IpNet.single, IpNet.network]
  rw [mem_used_networks]
  constructor
  · rintro ⟨peer, hpeer, net, hnet, rfl⟩
    rw [List.mem_singleton.mp hpeer] at hnet
    obtain ⟨i, hi, rfl⟩ := List.mem_map.mp hnet
    exact ⟨i, List.mem_range.mp hi, hnetwork _⟩
  · rintro ⟨i, hi, rfl⟩
    refine ⟨_, List.mem_singleton.mpr rfl, _, ?_, hnetwork _⟩
    exact List.mem_map.mpr ⟨i, List.mem_range.mpr hi, rfl⟩

/-- With everything below gone an address of the pool is the next one. -/
theorem next_free_lower_hosts (hlow : poolFirst addr len ≤ bits.toNat)
    (hhigh : bits.toNat < poolFirst addr len + poolSize len) :
    nextFreeIpv4 (.v4 addr len) [lowerHosts addr len bits] = some (.v4 bits) := by
  have hlt := bits.isLt
  refine next_free_eq_some.mpr ⟨bits, ⟨?_, fun other hother => ?_⟩, rfl⟩
  · refine mem_free_hosts.mpr ⟨hlow, hhigh, fun hused => ?_⟩
    obtain ⟨i, hi, heq⟩ := used_lower_hosts.mp hused
    have hnat := congrArg BitVec.toNat (IpAddr.v4.inj heq)
    rw [BitVec.toNat_ofNat, Nat.mod_eq_of_lt (by omega)] at hnat
    omega
  · obtain ⟨hfirst, hlast, hfree⟩ := mem_free_hosts.mp hother
    by_contra hless
    have hnat : other.toNat < bits.toNat := BitVec.not_le.mp hless
    refine hfree (used_lower_hosts.mpr ⟨other.toNat - poolFirst addr len, by omega, ?_⟩)
    rw [Nat.add_sub_cancel' hfirst, BitVec.ofNat_toNat, BitVec.setWidth_eq]

/-- A peer with an address alone. -/
def singlePeer : Peer :=
  { Peer.plain 0 0 "phone" none none with allowedIps := [.single (ipv4 10 7 0 2)] }

theorem allocated_once_single :
    nextFreeIpv4 .lab [singlePeer] = some (.v4 (ipv4 10 7 0 3)) ∧
      (IpNet.single (ipv4 10 7 0 2)).addr ≠ .v4 (ipv4 10 7 0 3) := by
  have hnext : nextFreeIpv4 .lab [singlePeer] = some (.v4 (ipv4 10 7 0 3)) := by decide +kernel
  refine ⟨hnext, ((allocated_once_iff (ipv4 10 7 0 0) 24).1 [singlePeer]).mpr ?_ _ hnext singlePeer
    (List.mem_singleton.mpr rfl) _ (List.mem_singleton.mpr rfl)⟩
  intro peer hpeer net hnet bits hbits hmem
  obtain ⟨-, -, hfree⟩ := mem_free_hosts.mp hmem
  rw [List.mem_singleton.mp hpeer] at hnet
  obtain rfl := List.mem_singleton.mp hnet
  obtain rfl := IpAddr.v4.inj hbits
  exact absurd (by decide +kernel) hfree

/-- The server's address, given with the network, is not chosen exactly when it is passed over.
Whoever the peers are, that is so exactly when it is outside of the pool. -/
theorem server_address_kept_iff (addr : BitVec 32) (len : Fin 33) :
    (∀ (crates : Crates) (w : World) (a : CreateRequest) (iface : Interface), a.input.Auto →
      w.db.interfaces.find a.input.interfaceId = some iface →
      iface.ipv4Cidr = some (.v4 addr len) →
      (PassedOver (.v4 addr len) (w.db.peersOf iface.id) addr → ∀ peer,
        (a.outcome crates w).1 = .ok peer → .v4 addr ∉ peer.clientAddresses) ∧
      (a.Sound crates iface.id → a.Fresh w.db →
        (∀ peer, (a.outcome crates w).1 = .ok peer → .v4 addr ∉ peer.clientAddresses) →
        PassedOver (.v4 addr len) (w.db.peersOf iface.id) addr)) ∧
    ((∀ existing, nextFreeIpv4 (.v4 addr len) existing ≠ some (.v4 addr)) ↔
      ¬ (poolFirst addr len ≤ addr.toNat ∧ addr.toNat < poolFirst addr len + poolSize len)) := by
  refine ⟨fun crates w a iface hauto hiface hcidr => ⟨fun h peer hgranted => ?_, ?_⟩, ?_⟩
  · obtain ⟨bits, hnext, hips⟩ := granted_address hauto hiface hcidr hgranted
    rw [client_addresses_single hips, List.mem_singleton]
    rintro heq
    obtain rfl := IpAddr.v4.inj heq
    exact next_free_ne_iff.mpr h hnext
  · intro hsound hfresh h
    rw [← next_free_ne_iff]
    intro hnext
    have hid : iface.id = a.input.interfaceId := (Table.find_eq_some.mp hiface).2
    have haddresses := outcome_addresses hsound hfresh (hid ▸ hiface)
    rw [allocate_some hcidr hnext] at haddresses
    obtain ⟨peer, hgranted, hips⟩ := Outcome.map_ok.mp haddresses
    refine h peer hgranted ?_
    rw [client_addresses_single hips]
    exact List.mem_singleton.mpr rfl
  · constructor
    · rintro h ⟨hlow, hhigh⟩
      exact h _ (next_free_lower_hosts hlow hhigh)
    · intro h existing
      refine next_free_ne_iff.mpr fun hmem => absurd ?_ h
      obtain ⟨hlow, hhigh, -⟩ := mem_free_hosts.mp hmem
      exact ⟨hlow, hhigh⟩

theorem server_address_kept_first :
    nextFreeIpv4 (.v4 (ipv4 10 7 0 1) 24) [singlePeer] ≠ some (.v4 (ipv4 10 7 0 1)) :=
  (server_address_kept_iff (ipv4 10 7 0 1) 24).2.mpr (by decide +kernel) _

/-- A server with the second address of its network gives it to its first peer. -/
theorem server_address_given :
    let w := emptyWorld (.v4 (ipv4 10 7 0 2) 24)
    ¬ ∀ (a : CreateRequest) (peer : Peer), a.input.Auto → a.input.interfaceId = ⟨0⟩ →
      (a.outcome .transparent w).1 = .ok peer → .v4 (ipv4 10 7 0 2) ∉ peer.clientAddresses := by
  intro w h
  have hmade : (((anyAddress 1).outcome .transparent w).1.map Peer.clientAddresses) =
      .ok [.v4 (ipv4 10 7 0 2)] := by decide +kernel
  obtain ⟨peer, hgranted, hips⟩ := Outcome.map_ok.mp hmade
  exact h (anyAddress 1) peer (.inl rfl) rfl hgranted (hips ▸ List.mem_singleton.mpr rfl)

end Wireforge
