import Wireforge.Front.AllowedIps
import Wireforge.Lifecycle.Allocation

/-!
# Address families

An interface has a column for its IPv4 network and one for its IPv6 network, of the same type. The
forms and the REST bodies read both with the same parser, which takes networks of either family.
`families_kept` shows that the columns keep their families in every run in which no request puts a
network into the other family's field, and what follows for allocation and masquerading.
-/

namespace Wireforge

open Effect

/-- The networks stand in the columns of their families. -/
structure FamiliesApart (iface : Interface) : Prop where
  v4 : ∀ net, iface.ipv4Cidr = some net → ∃ addr len, net = .v4 addr len
  v6 : ∀ net, iface.ipv6Cidr = some net → ∃ addr len, net = .v6 addr len

/-- Every address that is chosen automatically is an IPv4 address in the interface's network. -/
def AllocatesV4 (iface : Interface) : Prop :=
  ∀ existing requested allowed, requested = none ∨ requested = some [] →
    allocate iface existing requested = .ok allowed →
    ∃ addr len host, iface.ipv4Cidr = some (.v4 addr len) ∧ allowed = [.single host] ∧
      (IpNet.v4 host len).network = (IpNet.v4 addr len).network

/-- IPv6 is masqueraded exactly if the interface has an IPv6 network. -/
def MasqueradesV6 (iface : Interface) : Prop :=
  Family.v6 ∈ iface.families ↔ ∃ addr len, iface.ipv6Cidr = some (.v6 addr len)

/-! ## What follows from separate families -/

/-- A number between the network and the broadcast address is an address of the network. -/
theorem network_of_between {addr : BitVec 32} {len : Fin 33} {n : Nat}
    (hlow : (IpNet.v4 addr len).network.toNat ≤ n)
    (hhigh : n ≤ (IpNet.v4 addr len).broadcast.toNat) :
    (IpNet.v4 (BitVec.ofNat 32 n) len).network = (IpNet.v4 addr len).network := by
  have hbound : n < 2 ^ 32 := lt_of_le_of_lt hhigh (BitVec.isLt _)
  rw [IpNet.to_nat_broadcast_v4, IpNet.to_nat_network_v4] at hhigh
  rw [IpNet.to_nat_network_v4] at hlow
  have hpos : 0 < 2 ^ (32 - len.val) := Nat.two_pow_pos _
  have hdiv : n / 2 ^ (32 - len.val) = addr.toNat / 2 ^ (32 - len.val) := by
    refine Nat.div_eq_of_lt_le hlow ?_
    rw [Nat.succ_mul]
    omega
  have hnumber : (IpNet.v4 (BitVec.ofNat 32 n) len).network.toNat =
      (IpNet.v4 addr len).network.toNat := by
    rw [IpNet.to_nat_network_v4, IpNet.to_nat_network_v4, BitVec.toNat_ofNat,
      Nat.mod_eq_of_lt hbound, hdiv]
  exact congrArg IpAddr.v4 (BitVec.eq_of_toNat_eq hnumber)

/-- The host addresses lie between the network and the broadcast address. -/
theorem host_bounds_between (addr : BitVec 32) (len : Fin 33) :
    (IpNet.v4 addr len).network.toNat ≤ (IpNet.v4 addr len).hostBounds.1 ∧
      (IpNet.v4 addr len).hostBounds.2 ≤ (IpNet.v4 addr len).broadcast.toNat := by
  unfold IpNet.hostBounds
  simp only
  split
  · exact ⟨Nat.le_succ _, Nat.sub_le _ _⟩
  · exact ⟨Nat.le_refl _, Nat.le_refl _⟩

/-- The address that is found is one of the host addresses. -/
theorem find_host_between {net : IpNet} {skip : Nat} {test : IpAddr → Bool} {ip : IpAddr}
    (h : net.findHost skip test = some ip) :
    ∃ n, net.address n = ip ∧ net.hostBounds.1 ≤ n ∧ n ≤ net.hostBounds.2 := by
  cases hbounds : net.hostBounds with
  | mk first last =>
      simp only [IpNet.findHost, hbounds] at h
      obtain ⟨n, hn, hip⟩ := Option.map_eq_some_iff.mp h
      obtain ⟨hlow, hhigh, -⟩ := (find_from_eq_some.mp hn).1
      have hfirst : first ≤ n := by omega
      have hlast : n ≤ last := by omega
      exact ⟨n, hip, hfirst, hlast⟩

theorem FamiliesApart.allocates {iface : Interface} (h : FamiliesApart iface) :
    AllocatesV4 iface := by
  intro existing requested allowed hauto hallocate
  have hnone : allocate iface existing none = .ok allowed := by
    rcases hauto with rfl | rfl <;> exact hallocate
  unfold allocate at hnone
  simp only at hnone
  cases hcidr : iface.ipv4Cidr with
  | none =>
      rw [hcidr] at hnone
      cases hnone
  | some net =>
      obtain ⟨addr, len, rfl⟩ := h.v4 net hcidr
      rw [hcidr] at hnone
      simp only at hnone
      cases hnext : nextFreeIpv4 (.v4 addr len) existing with
      | none =>
          rw [hnext] at hnone
          cases hnone
      | some ip =>
          have hfound := hnext
          unfold nextFreeIpv4 at hfound
          obtain ⟨n, rfl, hlow, hhigh⟩ := find_host_between hfound
          rw [hnext] at hnone
          have hhosts := host_bounds_between addr len
          refine ⟨addr, len, BitVec.ofNat 32 n, rfl, ?_, network_of_between ?_ ?_⟩
          · exact (Except.ok.inj hnone).symm
          · exact hhosts.1.trans hlow
          · exact hhigh.trans hhosts.2

theorem FamiliesApart.masquerades {iface : Interface} (h : FamiliesApart iface) :
    MasqueradesV6 iface := by
  unfold MasqueradesV6
  rw [mem_families]
  constructor
  · intro hsome
    obtain ⟨net, hnet⟩ := Option.isSome_iff_exists.mp (hsome rfl)
    obtain ⟨addr, len, rfl⟩ := h.v6 net hnet
    exact ⟨addr, len, hnet⟩
  · rintro ⟨addr, len, hnet⟩ -
    rw [hnet]
    rfl

/-! ## Operations -/

/-- Both fields of a request hold networks of their families, if any. -/
def RightFamilies (ipv4Cidr ipv6Cidr : Option IpNet) : Prop :=
  (∀ net, ipv4Cidr = some net → ∃ addr len, net = .v4 addr len) ∧
    ∀ net, ipv6Cidr = some net → ∃ addr len, net = .v6 addr len

/-- A network that is read is one that the library reads. -/
theorem parse_cidr_some {crates : WebCrates} {message text : String} {net : IpNet}
    (h : Routes.Interfaces.parseCidr crates message text = .ok (some net)) :
    crates.parseIpNet (Text.trim text) = some net := by
  unfold Routes.Interfaces.parseCidr at h
  split at h
  · cases h
  · split at h
    next net' hnet =>
        obtain rfl := Option.some.inj (Except.ok.inj h)
        exact hnet
    next => cases h

/-- A form whose fields are read as networks of their families, if at all. -/
theorem right_families_of_form {crates : WebCrates} {form : InterfaceForm}
    {parsed : Routes.Interfaces.ParsedForm}
    (h : Routes.Interfaces.parseForm crates form = .ok parsed)
    (hv4 : ∀ net, crates.parseIpNet (Text.trim form.ipv4Cidr) = some net →
      ∃ addr len, net = .v4 addr len)
    (hv6 : ∀ net, crates.parseIpNet (Text.trim form.ipv6Cidr) = some net →
      ∃ addr len, net = .v6 addr len) :
    RightFamilies parsed.ipv4Cidr parsed.ipv6Cidr := by
  obtain ⟨port, -, h⟩ := Outcome.bind_ok.mp h
  obtain ⟨ipv4Cidr, hipv4, h⟩ := Outcome.bind_ok.mp h
  obtain ⟨ipv6Cidr, hipv6, h⟩ := Outcome.bind_ok.mp h
  obtain ⟨mtu, -, h⟩ := Outcome.bind_ok.mp h
  obtain rfl := Except.ok.inj h
  refine ⟨fun net hnet => hv4 net ?_, fun net hnet => hv6 net ?_⟩
  · exact parse_cidr_some (hipv4.trans (congrArg Except.ok hnet))
  · exact parse_cidr_some (hipv6.trans (congrArg Except.ok hnet))

/-- A new interface has the networks of the request. -/
theorem InterfaceService.create_networks {crates : Crates} {plan : Plan} {w w' : World}
    {input : CreateInterfaceInput} {row : Interface}
    (h : eval (handle plan) (create crates input) w = (.ok row, w')) :
    row.ipv4Cidr = input.ipv4Cidr ∧ row.ipv6Cidr = input.ipv6Cidr := by
  obtain ⟨_, _, _, _, _, rfl⟩ := create_row h
  exact ⟨rfl, rfl⟩

/-- An edited interface has the networks of the request. -/
theorem InterfaceService.Accepted.networks {crates : Crates} {plan : Plan} {w : World}
    {id : Id InterfaceMarker} {input : UpdateInterfaceInput} {old iface : Interface}
    (h : Accepted plan crates w id input old iface) :
    iface.ipv4Cidr = input.ipv4Cidr ∧ iface.ipv6Cidr = input.ipv6Cidr := by
  rcases rekeyed_ok h.keys with rfl | ⟨key, sealed, -, -, rfl⟩ <;> exact ⟨rfl, rfl⟩

/-- The operation puts a network into the other family's column of a new or an existing row. -/
def ServiceCall.Misplaces (w : World) : ServiceCall → Prop
  | .interface (.create input) => ¬ RightFamilies input.ipv4Cidr input.ipv6Cidr
  | .interface (.update id input) =>
      (w.db.interfaces.find id).isSome ∧ ¬ RightFamilies input.ipv4Cidr input.ipv6Cidr
  | _ => False

/-- All other operations keep the families apart. -/
theorem families_step {crates : WebCrates} {w : World} {a : ServiceStep}
    (h : ∀ iface ∈ w.db.interfaces.rows, FamiliesApart iface)
    (hplaced : ¬ a.call.Misplaces w) :
    ∀ iface ∈ (serviceStep crates.toCrates w a).db.interfaces.rows, FamiliesApart iface := by
  rcases a with ⟨call, plan, env⟩
  cases call with
  | interface call =>
      refine rows_step w ⟨call, plan, env⟩ ?_ ?_ (fun _ _ h => ⟨h.v4, h.v6⟩)
        (fun _ _ _ h => ⟨h.v4, h.v6⟩) h
      · rintro input row w' rfl heval -
        have hright : RightFamilies input.ipv4Cidr input.ipv6Cidr := not_not.mp hplaced
        obtain ⟨hv4, hv6⟩ := InterfaceService.create_networks heval
        exact ⟨hv4 ▸ hright.1, hv6 ▸ hright.2⟩
      · rintro id input old iface rfl haccepted -
        obtain ⟨hold, hid⟩ := Plan.read_interface_some haccepted.read
        have hfound : (w.db.interfaces.find id).isSome :=
          Option.isSome_of_eq_some (hid ▸ Table.find_of_mem hold)
        have hright : RightFamilies input.ipv4Cidr input.ipv6Cidr :=
          not_not.mp fun hwrong => hplaced ⟨hfound, hwrong⟩
        obtain ⟨hv4, hv6⟩ := haccepted.networks
        exact ⟨hv4 ▸ hright.1, hv6 ▸ hright.2⟩
  | _ =>
      rw [service_step_interfaces crates.toCrates w _ fun call heq => by cases heq]
      exact h

/-! ## Runs -/

/-- The request asks to put a network into the other family's column. -/
def Served.Misplaces (server : Server) (s : Site) (a : Served) : Prop :=
  ∃ call, a.Asks server s call ∧ call.Misplaces s.host

/-- In every run of requests that starts with separate families and in which no request puts a
network into the other family's column, the families stay separate; so addresses are chosen from
IPv4 networks, and IPv6 is masqueraded exactly for IPv6 networks. -/
theorem families_kept (server : Server) (s : Site) (run : List Served)
    (hinit : ∀ iface ∈ s.host.db.interfaces.rows, FamiliesApart iface)
    (hrun : Runs.EachStep (serveStep server) (fun s a => ¬ a.Misplaces server s) s run) :
    Runs.Always (serveStep server) (fun s => ∀ iface ∈ s.host.db.interfaces.rows,
      FamiliesApart iface ∧ AllocatesV4 iface ∧ MasqueradesV6 iface) s run := by
  have happart : Runs.Always (serveStep server)
      (fun s => ∀ iface ∈ s.host.db.interfaces.rows, FamiliesApart iface) s run := by
    refine Runs.always_of_each_step (fun s a h hguard => ?_) hinit hrun
    refine front_keeps (fun w => ∀ iface ∈ w.db.interfaces.rows, FamiliesApart iface)
      (fun _ _ h => h) (fun call hasks h => ?_) h
    exact families_step h fun hmisplaces => hguard ⟨call, hasks, hmisplaces⟩
  exact happart.mono fun s h iface hiface =>
    ⟨h iface hiface, (h iface hiface).allocates, (h iface hiface).masquerades⟩

/-! ## Examples -/

/-- An admin asks for an interface with the given text of its IPv4 network, and for a peer on
it. -/
def interfaceAndPeer (ipv4Cidr : String) : List Served :=
  adminServed
    [.web ⟨0⟩ (.createInterface (.plain "wg0" ipv4Cidr)),
      .web ⟨0⟩ (.createPeer (.plain "phone" ""))]

/-- The server whose library reads the lab's network from its text, and from no other. -/
def labServer : Server :=
  let parseIpNet (text : String) := if text = "10.7.0.0/24" then some IpNet.lab else none
  { Server.transparent with crates := { WebCrates.transparent with parseIpNet } }

theorem families_kept_v4 :
    let s := siteOf ⟨⟨0⟩, "admin", .admin⟩
    Runs.Always (serveStep labServer) (fun s => ∀ iface ∈ s.host.db.interfaces.rows,
      FamiliesApart iface ∧ AllocatesV4 iface ∧ MasqueradesV6 iface) s
      (interfaceAndPeer "10.7.0.0/24") := by
  intro s
  refine families_kept labServer s (interfaceAndPeer "10.7.0.0/24")
    (fun iface hiface => by cases hiface) (Runs.each_step_iff.mpr fun first a rest heq => ?_)
  have hmem : a ∈ interfaceAndPeer "10.7.0.0/24" := heq ▸ by simp
  rcases List.mem_cons.mp hmem with rfl | hmem
  · rintro ⟨call, ⟨user, -, -, hasks⟩, hmisplaces⟩
    cases hasks with
    | createInterface hform =>
        refine hmisplaces (right_families_of_form hform (fun net hnet => ?_) fun net hnet => ?_)
        · have hlab : some IpNet.lab = some net := by
            simpa [labServer, show Text.trim "10.7.0.0/24" = "10.7.0.0/24" by decide +kernel,
              InterfaceForm.plain] using hnet
          exact Option.some.inj hlab ▸ ⟨_, _, rfl⟩
        · simp [labServer, InterfaceForm.plain, show Text.trim "" = "" by decide +kernel] at hnet
  · obtain rfl := List.mem_singleton.mp hmem
    rintro ⟨call, ⟨user, -, -, hasks⟩, hmisplaces⟩
    cases hasks with
    | createPeer hform => exact hmisplaces

/-- An IPv6 network in the IPv4 field is accepted, and a peer gets an IPv6 address from it. -/
theorem family_mixed :
    let net : IpNet := .v6 (0xfd000000000000000000000000000000#128) 64
    let s := Runs.after (serveStep (.reading net)) (siteOf ⟨⟨0⟩, "admin", .admin⟩)
      (interfaceAndPeer "fd00::/64")
    s.host.db.interfaces.rows.map Interface.ipv4Cidr = [some net] ∧
      s.host.db.peers.rows.map Peer.allowedIps =
        [[.v6 (0xfd000000000000000000000000000001#128) 128]] ∧
      ¬ ∀ iface ∈ s.host.db.interfaces.rows, FamiliesApart iface := by
  intro net s
  have hrows : (s.host.db.interfaces.rows.map Interface.ipv4Cidr,
      s.host.db.peers.rows.map Peer.allowedIps) =
        ([some net], [[.v6 (0xfd000000000000000000000000000001#128) 128]]) := by
    decide +kernel
  obtain ⟨hnets, hips⟩ := Prod.mk.inj hrows
  refine ⟨hnets, hips, fun h => ?_⟩
  obtain ⟨iface, hiface, hcidr⟩ := List.mem_map.mp (hnets ▸ List.mem_singleton.mpr rfl)
  obtain ⟨addr, len, heq⟩ := (h iface hiface).v4 net hcidr
  exact absurd heq nofun

end Wireforge
