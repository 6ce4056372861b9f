import Wireforge.Infra.WireGuardSpec
import Wireforge.Lifecycle.Addresses
import Wireforge.Service.PeerConf

/-!
# Networks and kernel prefixes

A stored network keeps its host bits; the adapter configures devices with network addresses. For
the routes of a peer this is what the kernel does anyway, but the conflict check compares the
networks as they are stored: `conflict_check_exact_iff` shows when the two readings agree. For the
addresses of an interface the host bits are the point, and `configures_stored_iff` shows for which
interfaces none are lost.
-/

namespace Wireforge

open Effect DefguardAdapter

variable {crates : Crates} {want want' : List IpNet} {peer : Peer} {existing existing' : List Peer}

namespace IpNet

/-- The prefix the adapter configures for a network. -/
def mask (net : IpNet) : IpAddrMask :=
  ⟨net.network, net.prefixLenNat⟩

/-- The prefix is all that clearing the host bits keeps. -/
theorem mask_eq_iff {net other : IpNet} : net.mask = other.mask ↔ net.trunc = other.trunc := by
  cases net <;> cases other <;> simp [mask, trunc, network, prefixLenNat, Fin.ext_iff]

theorem shift_shift {w : Nat} (bits : BitVec w) (n : Nat) :
    (((bits >>> n) <<< n) >>> n) <<< n = (bits >>> n) <<< n := by
  ext i hi
  by_cases h : i < n
  · simp [h]
  · have hsub : n + (i - n) = i := by omega
    simp [h, hsub, hi]

/-- There are no host bits left to clear. -/
@[simp] theorem trunc_trunc (net : IpNet) : net.trunc.trunc = net.trunc := by
  cases net <;> simp only [trunc, shift_shift]

/-- A network and the same network with its host bits cleared have one prefix. -/
@[simp] theorem mask_trunc (net : IpNet) : net.trunc.mask = net.mask :=
  mask_eq_iff.mpr (trunc_trunc net)

end IpNet

/-! ## The conflict check -/

/-- The check refuses the requested networks. -/
def Conflicts (want : List IpNet) (existing : List Peer) : Prop :=
  ∃ text, ensureNoConflict want existing = .error (.conflict text)

/-- The adapter installs the peer with a prefix. -/
def Peer.Installs (crates : Crates) (peer : Peer) (mask : IpAddrMask) : Prop :=
  ∃ entry, toWgPeer crates peer = .ok entry ∧ mask ∈ entry.allowedIps

/-- With the requested networks a peer would be installed with a prefix of an existing one. -/
def SharePrefix (crates : Crates) (want : List IpNet) (existing : List Peer) : Prop :=
  ∃ other ∈ existing, ∃ mask,
    Peer.Installs crates { other with allowedIps := want } mask ∧ other.Installs crates mask

/-- Some networks, each as it was or with its host bits cleared. -/
def Truncated : List IpNet → List IpNet → Prop :=
  List.Forall₂ fun net net' => net' = net ∨ net' = net.trunc

/-- Some peers, each with some of its networks truncated. -/
def TruncatedPeers : List Peer → List Peer → Prop :=
  List.Forall₂ fun peer peer' => ∃ nets, Truncated peer.allowedIps nets ∧
    peer' = { peer with allowedIps := nets }

/-- The check decides about prefixes: it refuses the networks that share one, and host bits are
nothing to it. -/
structure ChecksPrefixes (crates : Crates) (want : List IpNet) (existing : List Peer) : Prop where
  exact : Conflicts want existing ↔ SharePrefix crates want existing
  truncated : ∀ want' existing', Truncated want want' → TruncatedPeers existing existing' →
    (Conflicts want' existing' ↔ Conflicts want existing)

/-- The check refuses what is assigned already, network by network. -/
theorem conflicts_iff :
    Conflicts want existing ↔ ∃ net ∈ want, ∃ peer ∈ existing, net ∈ peer.allowedIps := by
  unfold Conflicts ensureNoConflict
  split
  · rename_i net hfind
    have hmem := List.find?_some hfind
    simp only [List.mem_flatMap, decide_eq_true_eq] at hmem
    exact iff_of_true ⟨_, rfl⟩ ⟨net, List.mem_of_find?_eq_some hfind, hmem⟩
  · rename_i hnone
    refine iff_of_false (fun ⟨_, h⟩ => nomatch h) ?_
    rintro ⟨net, hnet, peer, hpeer, hmem⟩
    have hfree := List.find?_eq_none.mp hnone net hnet
    simp only [List.mem_flatMap, decide_eq_true_eq] at hfree
    exact hfree ⟨peer, hpeer, hmem⟩

theorem Peer.installs_iff {mask : IpAddrMask} :
    peer.Installs crates mask ↔ ∃ net ∈ peer.allowedIps, net.mask = mask := by
  unfold Installs
  rw [to_wg_peer_eq]
  constructor
  · rintro ⟨entry, hentry, hmem⟩
    cases hentry
    exact List.mem_map.mp hmem
  · intro h
    exact ⟨_, rfl, List.mem_map.mpr h⟩

theorem share_prefix_iff : SharePrefix crates want existing ↔
    ∃ net ∈ want, ∃ peer ∈ existing, ∃ other ∈ peer.allowedIps, net.mask = other.mask := by
  simp only [SharePrefix, Peer.installs_iff]
  constructor
  · rintro ⟨peer, hpeer, _, ⟨net, hnet, rfl⟩, other, hother, heq⟩
    exact ⟨net, hnet, peer, hpeer, other, hother, heq.symm⟩
  · rintro ⟨net, hnet, peer, hpeer, other, hother, heq⟩
    exact ⟨peer, hpeer, _, ⟨net, hnet, rfl⟩, other, hother, heq.symm⟩

/-! ### Truncated networks -/

theorem Truncated.of_map {f : IpNet → IpNet} (hf : ∀ net, f net = net ∨ f net = net.trunc)
    (nets : List IpNet) : Truncated nets (nets.map f) := by
  induction nets with
  | nil => exact .nil
  | cons net rest ih => exact .cons (hf net) ih

/-- Every truncated network is made from one with its prefix. -/
theorem Truncated.source {nets nets' : List IpNet} {net' : IpNet} (h : Truncated nets nets')
    (hmem : net' ∈ nets') : ∃ net ∈ nets, net.mask = net'.mask := by
  induction h with
  | nil => cases hmem
  | cons hhead _ ih =>
      rcases List.mem_cons.mp hmem with rfl | hmem
      · refine ⟨_, List.mem_cons_self, ?_⟩
        rcases hhead with rfl | rfl
        · rfl
        · exact (IpNet.mask_trunc _).symm
      · obtain ⟨net, hnet, heq⟩ := ih hmem
        exact ⟨net, List.mem_cons_of_mem _ hnet, heq⟩

/-- A network without host bits stays. -/
theorem Truncated.stays {nets nets' : List IpNet} {net : IpNet} (h : Truncated nets nets')
    (hmem : net ∈ nets) (hnet : net.trunc = net) : net ∈ nets' := by
  induction h with
  | nil => cases hmem
  | cons hhead _ ih =>
      rcases List.mem_cons.mp hmem with rfl | hmem
      · rcases hhead with rfl | rfl
        · exact List.mem_cons_self
        · rw [hnet]
          exact List.mem_cons_self
      · exact List.mem_cons_of_mem _ (ih hmem)

theorem TruncatedPeers.of_map {f : IpNet → IpNet} (hf : ∀ net, f net = net ∨ f net = net.trunc)
    (peers : List Peer) :
    TruncatedPeers peers
      (peers.map fun peer => { peer with allowedIps := peer.allowedIps.map f }) := by
  induction peers with
  | nil => exact .nil
  | cons peer rest ih => exact .cons ⟨_, Truncated.of_map hf _, rfl⟩ ih

theorem TruncatedPeers.source (h : TruncatedPeers existing existing') {peer' : Peer}
    (hmem : peer' ∈ existing') :
    ∃ peer ∈ existing, Truncated peer.allowedIps peer'.allowedIps := by
  induction h with
  | nil => cases hmem
  | cons hhead _ ih =>
      rcases List.mem_cons.mp hmem with rfl | hmem
      · obtain ⟨nets, hnets, rfl⟩ := hhead
        exact ⟨_, List.mem_cons_self, hnets⟩
      · obtain ⟨peer, hpeer, hnets⟩ := ih hmem
        exact ⟨peer, List.mem_cons_of_mem _ hpeer, hnets⟩

theorem TruncatedPeers.target (h : TruncatedPeers existing existing') (hmem : peer ∈ existing) :
    ∃ peer' ∈ existing', Truncated peer.allowedIps peer'.allowedIps := by
  induction h with
  | nil => cases hmem
  | cons hhead _ ih =>
      rcases List.mem_cons.mp hmem with rfl | hmem
      · obtain ⟨nets, hnets, rfl⟩ := hhead
        exact ⟨_, List.mem_cons_self, hnets⟩
      · obtain ⟨peer', hpeer, hnets⟩ := ih hmem
        exact ⟨peer', List.mem_cons_of_mem _ hpeer, hnets⟩

/-- What conflicts after truncation shares a prefix before. -/
theorem share_of_conflicts (hwant : Truncated want want')
    (hpeers : TruncatedPeers existing existing')
    (h : Conflicts want' existing') : SharePrefix crates want existing := by
  obtain ⟨net', hnet', peer', hpeer', hmem⟩ := conflicts_iff.mp h
  obtain ⟨net, hnet, heq⟩ := hwant.source hnet'
  obtain ⟨peer, hpeer, hnets⟩ := hpeers.source hpeer'
  obtain ⟨other, hother, heq'⟩ := hnets.source hmem
  exact share_prefix_iff.mpr ⟨net, hnet, peer, hpeer, other, hother, heq.trans heq'.symm⟩

/-- A network without host bits that both sides name conflicts whatever is truncated. -/
theorem conflicts_of_bare (hwant : Truncated want want')
    (hpeers : TruncatedPeers existing existing')
    {net : IpNet} (hbare : net.trunc = net) (hnet : net ∈ want) (hpeer : peer ∈ existing)
    (hmem : net ∈ peer.allowedIps) : Conflicts want' existing' := by
  obtain ⟨peer', hpeer', hnets⟩ := hpeers.target hpeer
  exact conflicts_iff.mpr ⟨net, hwant.stays hnet hbare, peer', hpeer', hnets.stays hmem hbare⟩

/-- Truncate what is requested towards what is requested anyway, and what exists away from it: then
no two networks are equal, unless both sides name one without host bits. -/
theorem conflicts_evaded
    (h : Conflicts (want.map fun net => if net.trunc ∈ want then net.trunc else net)
      (existing.map fun peer => { peer with
        allowedIps :=
          peer.allowedIps.map fun net => if net.trunc ∈ want then net else net.trunc })) :
    ∃ net ∈ want, net.trunc = net ∧ ∃ peer ∈ existing, net ∈ peer.allowedIps := by
  obtain ⟨net', hnet', peer', hpeer', hmem⟩ := conflicts_iff.mp h
  obtain ⟨net, hnet, heq⟩ := List.mem_map.mp hnet'
  obtain ⟨peer, hpeer, rfl⟩ := List.mem_map.mp hpeer'
  obtain ⟨other, hother, heq'⟩ := List.mem_map.mp hmem
  by_cases hwant : net.trunc ∈ want
  · rw [if_pos hwant] at heq
    subst heq
    by_cases hwant' : other.trunc ∈ want
    · rw [if_pos hwant'] at heq'
      subst heq'
      exact ⟨_, hwant, IpNet.trunc_trunc net, peer, hpeer, hother⟩
    · rw [if_neg hwant'] at heq'
      exact absurd (heq' ▸ hwant) hwant'
  · rw [if_neg hwant] at heq
    subst heq
    by_cases hwant' : other.trunc ∈ want
    · rw [if_pos hwant'] at heq'
      exact absurd (heq' ▸ hwant') hwant
    · rw [if_neg hwant'] at heq'
      have hbare : net.trunc = net := by rw [← heq', IpNet.trunc_trunc]
      exact absurd (hbare.symm ▸ hnet) hwant

/-- The check decides about prefixes exactly if the requested networks share none with the existing
peers, or if both sides name one that has no host bits. -/
theorem conflict_check_exact_iff (crates : Crates) (want : List IpNet) (existing : List Peer) :
    ChecksPrefixes crates want existing ↔
      (SharePrefix crates want existing →
        ∃ net ∈ want, net.trunc = net ∧ ∃ peer ∈ existing, net ∈ peer.allowedIps) := by
  constructor
  · intro h hshare
    refine conflicts_evaded ((h.truncated _ _ ?_ ?_).mpr (h.exact.mpr hshare))
    · refine Truncated.of_map (fun net => ?_) want
      split
      · exact .inr rfl
      · exact .inl rfl
    · refine TruncatedPeers.of_map (fun net => ?_) existing
      split
      · exact .inl rfl
      · exact .inr rfl
  · intro h
    have hsame : ∀ want' existing', Truncated want want' → TruncatedPeers existing existing' →
        (Conflicts want' existing' ↔ SharePrefix crates want existing) := by
      intro want' existing' hwant hpeers
      refine ⟨share_of_conflicts hwant hpeers, fun hshare => ?_⟩
      obtain ⟨net, hnet, hbare, peer, hpeer, hmem⟩ := h hshare
      exact conflicts_of_bare hwant hpeers hbare hnet hpeer hmem
    have hself : Conflicts want existing ↔ SharePrefix crates want existing := by
      refine hsame want existing (List.forall₂_same.mpr fun _ _ => .inl rfl)
        (List.forall₂_same.mpr fun peer _ => ⟨peer.allowedIps, ?_, rfl⟩)
      exact List.forall₂_same.mpr fun _ _ => .inl rfl
    exact ⟨hself, fun want' existing' hwant hpeers =>
      (hsame want' existing' hwant hpeers).trans hself.symm⟩

/-- A requested network with a host bit passes beside the same network without it. -/
theorem host_bits_evade_check : ¬ ∀ (want : List IpNet) (existing : List Peer),
    ChecksPrefixes .transparent want existing := by
  intro h
  have hcheck := h [.labHost 5]
    [{ Peer.plain 1 1 "laptop" none none with allowedIps := [IpNet.lab] }]
  have hshare : SharePrefix .transparent [.labHost 5]
      [{ Peer.plain 1 1 "laptop" none none with allowedIps := [IpNet.lab] }] :=
    share_prefix_iff.mpr ⟨_, List.mem_singleton_self _, _, List.mem_singleton_self _, IpNet.lab,
      List.mem_singleton_self _, by decide⟩
  obtain ⟨text, hconflict⟩ := hcheck.exact.mpr hshare
  have hfree : ensureNoConflict [.labHost 5]
      [{ Peer.plain 1 1 "laptop" none none with allowedIps := [IpNet.lab] }] = .ok () := by
    decide
  rw [hfree] at hconflict
  cases hconflict

/-! ## The addresses of a device -/

/-- The networks an interface is configured with. -/
def Interface.cidrs (iface : Interface) : List IpNet :=
  iface.ipv4Cidr.toList ++ iface.ipv6Cidr.toList

/-- What is stored of an interface and its peers, as a configuration: the device has the addresses
of the interface, and a peer's routes are networks. -/
def Interface.stored (crates : Crates) (iface : Interface) (peers : List Peer)
    (key : WgPrivateKey) : InterfaceConfiguration where
  name := iface.name
  prvkey := key.asStr
  addresses := iface.cidrs.map fun cidr => ⟨cidr.addr, cidr.prefixLenNat⟩
  port := iface.listenPort
  peers := (peers.filter (·.enabled)).map (Peer.wgPeer crates)
  mtu := iface.mtu.map UInt16.toUInt32

/-- Bringing the interface up configures what is stored: the configuration can be built, no other
one is passed on, and unless a call fails the device takes it. -/
structure ConfiguresStored (crates : Crates) (iface : Interface) (peers : List Peer)
    (key : WgPrivateKey) : Prop where
  built : configuration crates iface peers = .ok (iface.stored crates peers key)
  passed : Issues (fun call => ∀ config, call = .configureDevice config →
    config = iface.stored crates peers key) (interfaceUp crates iface peers).run
  taken : ∀ w, eval (handle .none) (interfaceUp crates iface peers) w =
    (.ok (), { w with devices := w.devices.configure (iface.stored crates peers key) })

variable {iface : Interface} {peers : List Peer} {key : WgPrivateKey}

/-- The configuration that is built is the stored one if the interface's networks have no host
bits. -/
theorem config_with_eq_stored_iff :
    configWith crates iface peers key = iface.stored crates peers key ↔
      ∀ cidr ∈ iface.cidrs, cidr.addr = cidr.network := by
  have haddresses : configWith crates iface peers key = iface.stored crates peers key ↔
      iface.cidrs.map IpNet.mask =
        iface.cidrs.map fun cidr => ⟨cidr.addr, cidr.prefixLenNat⟩ := by
    constructor
    · exact congrArg InterfaceConfiguration.addresses
    · intro h
      show InterfaceConfiguration.mk _ _ (iface.cidrs.map IpNet.mask) _ _ _ = _
      rw [h]
      rfl
  rw [haddresses, List.map_inj_left]
  simp only [IpNet.mask, IpAddrMask.mk.injEq, and_true, eq_comm]

/-- An interface whose key unseals is configured as it is stored exactly if none of its networks
has host bits. -/
theorem configures_stored_iff (crates : Crates) (iface : Interface) (peers : List Peer)
    (key : WgPrivateKey) (hkey : unsealPrivate crates iface = .ok key) :
    ConfiguresStored crates iface peers key ↔ ∀ cidr ∈ iface.cidrs, cidr.addr = cidr.network := by
  have hbuilt : configuration crates iface peers = .ok (configWith crates iface peers key) := by
    rw [configuration_eq, hkey]
    rfl
  rw [← @config_with_eq_stored_iff crates iface peers key]
  constructor
  · intro h
    exact Except.ok.inj (hbuilt.symm.trans h.built)
  · intro hstored
    refine ⟨hstored ▸ hbuilt, ?_, fun w => ?_⟩
    · unfold interfaceUp
      rw [hbuilt, hstored]
      refine Issues.run_bind (α := Unit) ?_ fun _ => ?_
      · refine Issues.run_bind (open_api_issues fun config h => nomatch h) fun _ => ?_
        exact Issues.run_or_else (Issues.request fun config h => (Sys.configureDevice.inj h).symm)
      · exact Issues.run_or_else (Issues.request fun config h => nomatch h)
    · rcases eval_interface_up .none crates w iface peers with ⟨h, -⟩ | ⟨-, h, -⟩ | ⟨-, -, heval⟩
      · simp [Plan.configures, hkey, Plan.opens, Plan.none] at h
      · simp [Plan.routes, Plan.none] at h
      · rw [heval]
        simp [Plan.up, hkey, Plan.configures, Plan.opens, Plan.none, hstored]

/-- An interface with the conventional address of a server. -/
def labHostInterface : Interface :=
  { Interface.plain 0 "wg0" none none with ipv4Cidr := some (.labHost 1) }

theorem lab_server_key : unsealPrivate .transparent labHostInterface = .ok ⟨.ofKey .zero⟩ :=
  unseal_private_ok Crates.seals_back_transparent rfl

/-- The server's address `10.7.0.1` becomes the address of the network. -/
theorem server_address_lost : ¬ ∀ (crates : Crates) (iface : Interface) (peers : List Peer)
    (key : WgPrivateKey), unsealPrivate crates iface = .ok key →
      ConfiguresStored crates iface peers key := by
  intro h
  have hbuilt := (h .transparent labHostInterface [] _ lab_server_key).built
  rw [configuration_eq, lab_server_key] at hbuilt
  have haddresses := congrArg InterfaceConfiguration.addresses (Except.ok.inj hbuilt)
  exact absurd haddresses (by decide)

/-- An interface whose only network has no host bits. -/
def labInterface : Interface :=
  { Interface.plain 0 "wg0" none none with ipv4Cidr := some .lab }

/-- A peer that is enabled, and one that is not. -/
def labPeers : List Peer :=
  [{ Peer.plain 0 0 "phone" none none with
      publicKey := ⟨.ofKey (.fill 1)⟩, allowedIps := [.single (ipv4 10 7 0 2)] },
    { Peer.plain 1 0 "tablet" none none with
      publicKey := ⟨.ofKey (.fill 2)⟩, allowedIps := [.single (ipv4 10 7 0 3)], enabled := false }]

theorem configures_stored_lab :
    ConfiguresStored .transparent labInterface labPeers ⟨.ofKey .zero⟩ ∧
      (labInterface.stored .transparent labPeers ⟨.ofKey .zero⟩).addresses =
        [⟨.v4 (ipv4 10 7 0 0), 24⟩] ∧
      (labInterface.stored .transparent labPeers ⟨.ofKey .zero⟩).peers.map WgPeer.publicKey =
        [.fill 1] := by
  have hkey : unsealPrivate .transparent labInterface = .ok ⟨.ofKey .zero⟩ :=
    unseal_private_ok Crates.seals_back_transparent rfl
  refine ⟨(configures_stored_iff .transparent labInterface labPeers ⟨.ofKey .zero⟩ hkey).mpr ?_, ?_⟩
  · decide +kernel
  · decide +kernel

end Wireforge
