import Wireforge.Front.ClientConfs
import Wireforge.Lib.CryptokeyRouting
import Wireforge.Lifecycle.Configured

/-!
# Tunnels

The configuration that a client is handed and the device of the interface are two ends of a tunnel.
`tunnels_connect` says that over every run during which nothing fails they fit together: each end
knows the public key of the other, the addresses of the client are routed to the client and to
nobody else, and the client finds the port.
-/

namespace Wireforge

open Effect DefguardAdapter CryptokeyRouting PeerConf

/-! ## Prefixes -/

/-- The network of an address alone. -/
def IpNet.host : IpAddr → IpNet
  | .v4 bits => .v4 bits (.last 32)
  | .v6 bits => .v6 bits (.last 128)

/-- The prefix is what is left of the address when its host bits are cleared. -/
def IpAddrMask.Contains (mask : IpAddrMask) (addr : IpAddr) : Prop :=
  ∃ net : IpNet, net.addr = addr ∧ net.mask = mask

theorem IpNet.contains_host (addr : IpAddr) : (IpNet.host addr).mask.Contains addr :=
  ⟨host addr, by cases addr <;> rfl, rfl⟩

/-- No prefix that contains an address is narrower than that of the address alone. -/
theorem IpAddrMask.Contains.narrowest {mask : IpAddrMask} {addr : IpAddr}
    (h : mask.Contains addr) :
    mask.cidr < (IpNet.host addr).mask.cidr ∨ mask = (IpNet.host addr).mask := by
  obtain ⟨net, rfl, rfl⟩ := h
  cases net with
  | v4 bits len =>
      show len.val < 32 ∨ _
      by_cases hlen : len = 32
      · exact .inr (by rw [hlen]; rfl)
      · exact .inl (by omega)
  | v6 bits len =>
      show len.val < 128 ∨ _
      by_cases hlen : len = 128
      · exact .inr (by rw [hlen]; rfl)
      · exact .inl (by omega)

/-- The network of an address alone has no host bits that clearing could lose. -/
theorem IpNet.eq_host {net : IpNet} {addr : IpAddr} (h : net.mask = (host addr).mask) :
    net = host addr := by
  have hlen : net.prefixLenNat = (host addr).prefixLenNat := congrArg IpAddrMask.cidr h
  have hnetwork : net.network = (host addr).network := congrArg IpAddrMask.address h
  cases net with
  | v4 bits len =>
      cases addr with
      | v4 bits' =>
          obtain rfl : len = .last 32 := Fin.ext hlen
          simpa [network, host] using hnetwork
      | v6 bits' => cases hnetwork
  | v6 bits len =>
      cases addr with
      | v4 bits' => cases hnetwork
      | v6 bits' =>
          obtain rfl : len = .last 128 := Fin.ext hlen
          simpa [network, host] using hnetwork

/-- Clearing host bits twice is clearing them once. -/
theorem IpNet.contains_trunc {cidr : IpNet} {addr : IpAddr} (h : cidr.mask.Contains addr) :
    cidr.trunc.mask.Contains addr := by
  rw [mask_trunc]
  exact h

/-! ## The client -/

/-- What a client takes from its configuration. -/
structure Client where
  privateKey : Key
  addresses : List IpNet
  serverKey : Key
  allowed : List IpNet
  endpoint : String

/-- The value of an item, if it has that key. -/
def confValue (key : String) : KeyValue.Item → Option String
  | .entry key' value => if key' = key.toList then some (String.ofList value) else none
  | _ => none

/-- The values that a configuration has for a key. -/
def confValues (key : String) (items : List KeyValue.Item) : List String :=
  items.filterMap (confValue key)

section ConfValues

variable {name key value : String} {first rest : List KeyValue.Item}

theorem conf_values_nil : confValues name [] = [] := rfl

theorem conf_values_append :
    confValues name (first ++ rest) = confValues name first ++ confValues name rest :=
  List.filterMap_append

theorem conf_values_header {text : List Char} :
    confValues name (.header text :: rest) = confValues name rest := rfl

theorem conf_values_entry :
    confValues name (entry key value :: rest) =
      if key = name then value :: confValues name rest else confValues name rest := by
  by_cases h : key = name
  · have hvalue : confValue name (entry key value) = some value := by
      show (if key.toList = name.toList then some (String.ofList value.toList) else none) = _
      rw [if_pos (congrArg _ h), String.ofList_toList]
    rw [if_pos h, confValues, List.filterMap_cons_some hvalue]
    rfl
  · have hvalue : confValue name (entry key value) = none :=
      if_neg fun heq => h (String.toList_inj.mp heq)
    rw [if_neg h, confValues, List.filterMap_cons_none hvalue]
    rfl

/-- An optional line of another key. -/
theorem conf_values_optional {line : Option String} (h : key ≠ name) :
    confValues name (line.toList.map (entry key)) = [] := by
  cases line with
  | none => rfl
  | some value =>
      show confValues name (entry key value :: []) = []
      rw [conf_values_entry, if_neg h]
      rfl

end ConfValues

/-- The text of a list of networks. -/
def netList (nets : List IpNet) : String :=
  ", ".intercalate (nets.map IpNet.display)

/-- The client is the one that the configuration spells: every field is there exactly once. -/
structure Client.Spelled (client : Client) (items : List KeyValue.Item) : Prop where
  privateKey : confValues "PrivateKey" items = [encodeKey client.privateKey]
  addresses : confValues "Address" items = [netList client.addresses]
  serverKey : confValues "PublicKey" items = [encodeKey client.serverKey]
  allowed : confValues "AllowedIPs" items = [netList client.allowed]
  endpoint : confValues "Endpoint" items = [client.endpoint]

/-- The client as a node. It has one peer. -/
def Client.node (client : Client) : Node Key Key IpAddrMask where
  secret := client.privateKey
  allowed key := if key = client.serverKey then some (client.allowed.map IpNet.mask) else none

/-- A device with a private key as a node. -/
def Device.node (device : Device) (secret : Key) : Node Key Key IpAddrMask where
  secret
  allowed key := (device.peers key).map WgPeer.allowedIps

/-- The length of the prefix that every address has. -/
def openPrefix {n : Nat} : Fin (n + 1) :=
  ⟨0, n.succ_pos⟩

/-- The networks that are routed through the server. -/
def clientAllowed (iface : Interface) (peer : Peer) : List IpNet :=
  if peer.nat || iface.cidrs.isEmpty then [.v4 0 openPrefix, .v6 0 openPrefix]
  else iface.cidrs.map IpNet.trunc

theorem full_tunnel_text :
    netList [.v4 0 openPrefix, .v6 0 openPrefix] = fullTunnel := by
  decide +kernel

theorem client_allowed_text (iface : Interface) (peer : Peer) :
    clientAllowedIps iface peer = netList (clientAllowed iface peer) := by
  unfold clientAllowedIps clientAllowed
  cases hnat : peer.nat with
  | true => exact full_tunnel_text.symm
  | false =>
      show (if (iface.cidrs.map fun c => c.trunc.display).isEmpty then fullTunnel
        else ", ".intercalate (iface.cidrs.map fun c => c.trunc.display)) = _
      cases iface.cidrs with
      | nil => exact full_tunnel_text.symm
      | cons cidr rest => simp [netList, Function.comp_def]

/-- The networks of the interface are routed through the server. -/
theorem contains_allowed {iface : Interface} {cidr : IpNet} {addr : IpAddr} (peer : Peer)
    (hcidr : cidr ∈ iface.cidrs) (h : cidr.mask.Contains addr) :
    ∃ net ∈ clientAllowed iface peer, net.mask.Contains addr := by
  unfold clientAllowed
  split
  · cases addr with
    | v4 bits =>
        exact ⟨.v4 0 openPrefix, by simp, .v4 bits openPrefix, rfl, by
          simp [IpNet.mask, IpNet.network, IpNet.prefixLenNat, openPrefix]⟩
    | v6 bits =>
        exact ⟨.v6 0 openPrefix, by simp, .v6 bits openPrefix, rfl, by
          simp [IpNet.mask, IpNet.network, IpNet.prefixLenNat, openPrefix]⟩
  · exact ⟨cidr.trunc, List.mem_map_of_mem hcidr, IpNet.contains_trunc h⟩

/-- The client that the items of a configuration spell. -/
def clientOf (iface : Interface) (peer : Peer) (serverEndpoint : String) (key : WgPrivateKey) :
    Client where
  privateKey := key.key
  addresses := peer.allowedIps
  serverKey := iface.publicKey.key
  allowed := clientAllowed iface peer
  endpoint := endpoint iface serverEndpoint

theorem client_spelled (iface : Interface) (peer : Peer) (serverEndpoint : String)
    (key : WgPrivateKey) :
    (clientOf iface peer serverEndpoint key).Spelled
      (items iface peer serverEndpoint key.asStr) := by
  have hkey : encodeKey key.key = key.asStr := KeyText.encode_key key.inner
  have hpublic : encodeKey iface.publicKey.key = iface.publicKey.asStr :=
    KeyText.encode_key iface.publicKey.inner
  unfold items clientOf
  rw [client_allowed_text, ← hkey, ← hpublic]
  -- The optional lines have keys of their own.
  constructor <;>
    simp only [conf_values_append, conf_values_header, conf_values_entry, conf_values_optional,
      conf_values_nil, address, netList, ne_eq, String.reduceEq, not_false_eq_true, if_true,
      if_false, List.nil_append, List.append_nil]

/-! ## The two ends -/

/-- The client and the device fit together. Each knows the public key of the other. What is sent to
an address of the client goes through the tunnel, and so does what the client sends to the networks
of the interface. If the server's address has no port, the client connects to the port on which the
device listens. -/
structure Tunnel (crates : Crates) (iface : Interface) (serverEndpoint : String) (client : Client)
    (device : Device) (cfg : InterfaceConfiguration) (secret : Key) : Prop where
  configured : device.config = some cfg
  prvkey : cfg.prvkey = encodeKey secret
  acquainted : Acquainted crates.publicKey client.node (device.node secret)
  received : ∀ addr, IpNet.host addr ∈ client.addresses →
    Routed IpAddrMask.Contains IpAddrMask.cidr (device.node secret) addr
      (crates.publicKey client.privateKey)
  sent : ∀ cidr ∈ iface.cidrs, ∀ addr, cidr.mask.Contains addr →
    Routed IpAddrMask.Contains IpAddrMask.cidr client.node addr (crates.publicKey secret)
  port : ':' ∉ serverEndpoint.toList → client.endpoint = s!"{serverEndpoint}:{cfg.port}"

/-- The configurations of the enabled peers of all interfaces that are up connect them, if the texts
in the configurations are harmless. -/
def TunnelsConnect (crates : Crates) (w : World) : Prop :=
  ∀ iface ∈ w.db.interfaces.rows, iface.status = .up → ∀ peer ∈ w.db.enabledPeers iface.id,
    ∀ serverEndpoint conf, renderPeerConf crates iface peer serverEndpoint = .ok conf →
    Harmless iface peer serverEndpoint →
    ∃ client device cfg secret, client.Spelled (KeyValue.read conf.toList) ∧
      w.devices iface.name = some device ∧
      Tunnel crates iface serverEndpoint client device cfg secret

variable {crates : Crates} {w : World} {db : Db} {devices : Devices} {iface : Interface}
  {peer : Peer}

/-- The public key of a private key, as bytes. -/
theorem public_key_bytes {key : WgPrivateKey} {publicKey : WgPublicKey}
    (h : key.public crates = publicKey) : crates.publicKey key.key = publicKey.key := by
  rw [← h]
  exact (KeyText.key_of_key _).symm

/-- The private key in a configuration is that of the peer's public key. -/
theorem private_key_matched (h : KeysMatched crates db) (hpeer : peer ∈ db.peers.rows)
    {text : String} (htext : privateKey crates peer = .ok text) :
    ∃ key : WgPrivateKey, key.asStr = text ∧ key.public crates = peer.publicKey := by
  unfold privateKey at htext
  cases hsealed : peer.privateKeySealed with
  | none =>
      rw [hsealed] at htext
      cases htext
  | some sealed =>
      obtain ⟨key, hunseal, hpublic⟩ := h.peers peer hpeer sealed hsealed
      simp only [hsealed, hunseal, Bind.bind, Except.bind, Text.from_utf8_to_utf8] at htext
      exact ⟨key, Except.ok.inj htext, hpublic⟩

/-- The device routes an address of its own to the peer that has it. -/
theorem routed_to_peer {device : Device} {secret : Key} {addr : IpAddr}
    (hunique : UniqueAddresses db)
    (hmirrors : Mirrors (db.enabledPeers iface.id) Peer.key (Peer.wgPeer crates) device.peers)
    (hpeer : peer ∈ db.enabledPeers iface.id) (haddr : IpNet.host addr ∈ peer.allowedIps) :
    Routed IpAddrMask.Contains IpAddrMask.cidr (device.node secret) addr peer.key := by
  have hentry : device.peers peer.key = some (peer.wgPeer crates) :=
    (hmirrors _ _).mpr ⟨peer, hpeer, rfl, rfl⟩
  have hnets : (device.node secret).allowed peer.key = some (peer.allowedIps.map IpNet.mask) :=
    congrArg (Option.map WgPeer.allowedIps) hentry
  refine routed_of_narrowest hnets (List.mem_map_of_mem haddr) (IpNet.contains_host addr)
    (fun mask h => h.narrowest) fun key nets hnets' hne hmem => ?_
  obtain ⟨entry, hentry', rfl⟩ := Option.map_eq_some_iff.mp hnets'
  obtain ⟨other, hother, rfl, rfl⟩ := (hmirrors _ _).mp hentry'
  obtain ⟨net, hnet, hmask⟩ := List.mem_map.mp hmem
  -- Another peer with the prefix has the address itself, which is assigned once only.
  obtain rfl := IpNet.eq_host hmask
  have hid : peer.id ≠ other.id := fun hid =>
    hne (congrArg Peer.key (Table.eq_of_key hother.1 hpeer.1 hid.symm))
  exact hunique peer hpeer.1 other hother.1 hid (hpeer.2.1.trans hother.2.1.symm) _ haddr hnet

/-- When rows, keys and devices agree, the configurations connect. -/
theorem tunnels_of_agreement (hmatched : KeysMatched crates w.db)
    (hunique : UniqueAddresses w.db) (hagrees : AgreeIn crates w.db w.devices)
    (hconfigured : ConfiguredIn crates w.db w.devices) : TunnelsConnect crates w := by
  intro iface hiface hup peer hpeer serverEndpoint conf hconf hharmless
  -- The keys of the two ends.
  obtain ⟨text, htext⟩ := private_key_of_conf hconf
  obtain ⟨key, rfl, hpublic⟩ := private_key_matched hmatched hpeer.1 htext
  obtain ⟨secret, peers, hsecret, hconfig⟩ := hconfigured iface hiface hup
  obtain ⟨secret', hsecret', hserver⟩ := unseal_of_pairs (hmatched.interfaces iface hiface)
  obtain rfl := Except.ok.inj (hsecret.symm.trans hsecret')
  obtain ⟨device, hdevice, hmirrors⟩ := hagrees iface hiface hup
  have hcfg : device.config = some (configWith crates iface peers secret) := by
    rw [Devices.config, hdevice] at hconfig
    exact hconfig
  have hkey : crates.publicKey key.key = peer.key := public_key_bytes hpublic
  have hserverKey : crates.publicKey secret.key = iface.publicKey.key := public_key_bytes hserver
  have hreads := (read_conf_iff hconf htext (private_key_value hmatched hpeer.1 htext)).mpr
    hharmless
  refine ⟨clientOf iface peer serverEndpoint key, device, _, secret.key,
    hreads ▸ client_spelled iface peer serverEndpoint key, hdevice, hcfg,
    (KeyText.encode_key secret.inner).symm, ⟨?_, ?_⟩, fun addr haddr => ?_,
    fun cidr hcidr addr haddr => ?_, fun hport => if_neg hport⟩
  · show (if crates.publicKey secret.key = iface.publicKey.key then _ else none).isSome = true
    rw [if_pos hserverKey]
    rfl
  · have hentry : device.peers peer.key = some (peer.wgPeer crates) :=
      (hmirrors _ _).mpr ⟨peer, hpeer, rfl, rfl⟩
    show ((device.peers (crates.publicKey key.key)).map WgPeer.allowedIps).isSome = true
    rw [hkey, hentry]
    rfl
  · show Routed _ _ _ addr (crates.publicKey key.key)
    rw [hkey]
    exact routed_to_peer hunique hmirrors hpeer haddr
  · obtain ⟨net, hnet, hcontains⟩ := contains_allowed peer hcidr haddr
    refine ⟨_, if_pos hserverKey, net.mask, List.mem_map_of_mem hnet, hcontains, ?_⟩
    -- The client has no other peer.
    intro other nets hnets hne
    have hother : other ≠ iface.publicKey.key := hserverKey ▸ hne
    have hnone : (clientOf iface peer serverEndpoint key).node.allowed other = none :=
      if_neg hother
    rw [hnone] at hnets
    cases hnets

/-! ## Runs -/

/-- Rows, keys and devices agree. -/
structure TunnelInvariant (crates : Crates) (w : World) : Prop where
  matched : KeysMatched crates w.db
  distinct : KeysDistinct w.db
  unique : UniqueAddresses w.db
  agrees : Agreement crates w
  configured : ConfiguredIn crates w.db w.devices

/-- A fresh host has neither interfaces nor peers. -/
theorem tunnel_invariant_fresh (crates : Crates) (links : List String) :
    TunnelInvariant crates (.fresh links) where
  matched :=
    ⟨fun _ hrow => absurd hrow List.not_mem_nil, fun _ hrow => absurd hrow List.not_mem_nil⟩
  distinct _ hrow := absurd hrow List.not_mem_nil
  unique _ hrow := absurd hrow List.not_mem_nil
  agrees := agreement_fresh crates links
  configured _ hrow := absurd hrow List.not_mem_nil

theorem tunnel_invariant_step (hcrates : crates.SealsBack) {a : ServiceStep}
    (hplan : a.plan = .none) (hfree : AsksForFreeKey crates w a)
    (hkeeps : KeepsAgreement crates w a) (h : TunnelInvariant crates w) :
    TunnelInvariant crates (serviceStep crates w a) := by
  have hmatched := keys_matched_step hcrates w a h.matched
  have hdistinct := keys_distinct_step crates w a h.distinct hfree
  exact ⟨hmatched, hdistinct, unique_addresses_step crates w a h.unique,
    (agreement_step hplan h.distinct hdistinct h.agrees).mpr hkeeps,
    configured_step hplan hmatched hkeeps h.configured⟩

/-- Over every run of operations and passes from a fresh host during which nothing fails, no peer is
given a key that another peer of its interface has and no interface that is up is started when its
gateway is refused, every client connects with the configuration that it is handed. -/
theorem tunnels_connect (crates : Crates) (hcrates : crates.SealsBack) (links : List String)
    (run : List ServiceStep) (hplans : ∀ a ∈ run, a.plan = .none)
    (hfree : Runs.EachStep (serviceStep crates) (AsksForFreeKey crates) (.fresh links) run)
    (hkeeps : Runs.EachStep (serviceStep crates) (KeepsAgreement crates) (.fresh links) run) :
    Runs.Always (serviceStep crates) (TunnelsConnect crates) (.fresh links) run := by
  have hsteps := (Runs.EachStep.of_mem hplans).and (hfree.and hkeeps)
  have hinv : Runs.Always (serviceStep crates) (TunnelInvariant crates) (.fresh links) run :=
    Runs.always_of_each_step
      (fun w a h hguard => tunnel_invariant_step hcrates hguard.1 hguard.2.1 hguard.2.2 h)
      (tunnel_invariant_fresh crates links) hsteps
  exact hinv.mono fun w h => tunnels_of_agreement h.matched h.unique h.agrees h.configured

/-- An interface, a peer with a drawn key and an automatic address, and a start. -/
def phoneConnects : List ServiceStep :=
  let env := (World.fresh []).env
  let input := CreateInterfaceInput.plain "wg0" none none
  [⟨.interface (.create { input with ipv4Cidr := some .lab }), .none, env⟩,
    ⟨.createPeer (.plain "phone" ⟨0⟩ none), .none, env⟩,
    ⟨.interface (.start ⟨0⟩), .none, env⟩]

theorem tunnels_connect_phone :
    let last := Runs.after (serviceStep .transparent) (.fresh []) phoneConnects
    TunnelsConnect .transparent last ∧
      last.db.interfaces.rows.map Interface.status = [.up] ∧
      last.db.peers.rows.map Peer.allowedIps = [[IpNet.host (.v4 (ipv4 10 7 0 2))]] := by
  refine ⟨(tunnels_connect .transparent Crates.seals_back_transparent [] phoneConnects
    (by simp [phoneConnects]) ⟨trivial, ?_, trivial, trivial⟩
    ⟨trivial, trivial, ?_, trivial⟩).last, by decide +kernel, by decide +kernel⟩
  · intro publicKey stored _ peer hpeer
    have hnone : (Runs.after (serviceStep .transparent) (.fresh [])
        (phoneConnects.take 1)).db.peers.rows = [] := by decide +kernel
    exact absurd (hnone ▸ hpeer) List.not_mem_nil
  · intro iface hconf hup
    have hdown : ∀ row ∈ (Runs.after (serviceStep .transparent) (.fresh [])
        (phoneConnects.take 2)).db.interfaces.rows, row.status = .down := by decide +kernel
    have hstatus := hdown iface (Plan.read_interface_some hconf.read).1
    rw [hup] at hstatus
    cases hstatus

end Wireforge
