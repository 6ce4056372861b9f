import Wireforge.Lib.Groups
import Wireforge.Lib.Text
import Wireforge.Service.InterfaceSpec

/-!
# The interfaces of the host

`getifaddrs` returns a list with an entry for every address of every interface. The adapter walks
it once and groups the entries by the names of the interfaces, and `/sys` says which of the links
are up. `host_listing` says what comes out of the walk, whatever the order of the entries is, and
which gateways are accepted then.
-/

namespace Wireforge

open Effect

/-! ## Entries -/

/-- A socket address, by its family. Netmasks and hardware addresses are bytes in memory. -/
inductive SockAddr where
  | inet (addr : BitVec 32) (netmask : Option (List UInt8))
  | inet6 (addr : BitVec 128) (netmask : Option (List UInt8))
  | packet (addr : List UInt8) (halen : Nat)
  | other

/-- An entry of the list. -/
structure IfAddrs where
  name : Option ByteArray
  flags : UInt32
  addr : Option SockAddr

/-- The files of an interface under `/sys/class/net`, where they can be read. -/
structure SysClassNet where
  operstate : String → Option String
  carrier : String → Option String

namespace SysNet

/-! The flags of a link, as bits of `ifa_flags`. -/

def iffUp : UInt32 := 0x1
def iffBroadcast : UInt32 := 0x2
def iffLoopback : UInt32 := 0x8
def iffPointopoint : UInt32 := 0x10
def iffRunning : UInt32 := 0x40
def iffMulticast : UInt32 := 0x1000

/-- The flags have a bit in common with the mask. -/
def has (flags mask : UInt32) : Bool :=
  flags &&& mask ≠ 0

/-! ## Helpers -/

/-- The bits of a byte that are set. -/
def countOnes (b : UInt8) : Nat :=
  (List.range 8).countP b.toNat.testBit

/-- The bits of a mask that are set. -/
def prefixLen (mask : List UInt8) : Nat :=
  (mask.map countOnes).sum

/-- Bytes in lower-case hexadecimal with colons between them. -/
def formatMac (bytes : List UInt8) : String :=
  ":".intercalate (bytes.map fun b =>
    String.ofList [Nat.digitChar (b.toNat / 16), Nat.digitChar (b.toNat % 16)])

/-- The hardware address, if it has a length that fits. -/
def macAddr (addr : List UInt8) (halen : Nat) : Option String :=
  if halen = 0 || addr.length < halen then none else some (formatMac (addr.take halen))

/-- The state of the link: that of `/sys` if there is one, else that of the flags. -/
def isUp (operstate : Option String) (flags : UInt32) : Bool :=
  match operstate with
  | some state =>
      if state = "up" then true else if state = "unknown" then has flags iffUp else false
  | none => has flags iffUp && has flags iffRunning

/-- A link other than the loopback has no carrier. -/
def noCarrier (flags : UInt32) (carrier : Option Bool) (operstate : Option String) : Bool :=
  !has flags iffLoopback &&
    match carrier, operstate with
    | some false, _ => true
    | none, some state => state ≠ "up" && state ≠ "unknown"
    | _, _ => false

/-- The labels of the flags. -/
def flagLabels (flags : UInt32) (carrier : Option Bool) (operstate : Option String) :
    List String :=
  (if noCarrier flags carrier operstate then ["NO-CARRIER"] else []) ++
    (if has flags iffBroadcast then ["BROADCAST"] else []) ++
    (if has flags iffMulticast then ["MULTICAST"] else []) ++
    (if has flags iffLoopback then ["LOOPBACK"] else []) ++
    if has flags iffPointopoint then ["POINTOPOINT"] else []

/-- The state that `/sys` shows. -/
def readOperstate (sys : SysClassNet) (name : String) : Option String :=
  (sys.operstate name).map Text.trim

/-- Whether there is a carrier, if `/sys` shows it. -/
def readCarrier (sys : SysClassNet) (name : String) : Option Bool :=
  (sys.carrier name).bind fun text =>
    if Text.trim text = "1" then some true
    else if Text.trim text = "0" then some false
    else none

/-! ## The walk -/

/-- What is known of an interface. -/
structure Acc where
  flags : UInt32
  ipv4 : List String
  ipv6 : List String
  mac : Option String

/-- Nothing is known yet. -/
def Acc.default : Acc := ⟨0, [], [], none⟩

/-- The name of an entry, unless it has none or none that is UTF-8. -/
def ifaName (ifa : IfAddrs) : Option String :=
  ifa.name.bind String.fromUTF8?

/-- What an entry adds. -/
def Acc.add (acc : Acc) (ifa : IfAddrs) : Acc :=
  -- Every entry of an interface carries the flags, so the last one wins.
  let acc := { acc with flags := ifa.flags }
  match ifa.addr with
  | none | some .other => acc
  | some (.inet addr netmask) =>
      { acc with ipv4 := acc.ipv4 ++ [s!"{IpAddr.display4 addr}/{netmask.elim 32 prefixLen}"] }
  | some (.inet6 addr netmask) =>
      { acc with ipv6 := acc.ipv6 ++ [s!"{IpAddr.display6 addr}/{netmask.elim 128 prefixLen}"] }
  | some (.packet addr halen) =>
      match macAddr addr halen with
      | some mac => { acc with mac := some mac }
      | none => acc

/-- Walk the list once. -/
def collectRaw (entries : List IfAddrs) : Std.TreeMap String Acc :=
  Groups.collect ifaName Acc.add .default entries

/-- The interface of a name. -/
def interfaceOf (sys : SysClassNet) (entry : String × Acc) : SysInterface where
  name := entry.1
  up := isUp (readOperstate sys entry.1) entry.2.flags
  ipv4 := entry.2.ipv4
  ipv6 := entry.2.ipv6
  mac := entry.2.mac
  flags := flagLabels entry.2.flags (readCarrier sys entry.1) (readOperstate sys entry.1)

/-- Combine what was collected with what `/sys` shows. -/
def assemble (sys : SysClassNet) (map : Std.TreeMap String Acc) : List SysInterface :=
  map.toList.map (interfaceOf sys)

/-! ## What an interface shows -/

/-- The IPv4 address of an entry. -/
def ipv4Text (ifa : IfAddrs) : Option String :=
  match ifa.addr with
  | some (.inet addr netmask) =>
      some s!"{IpAddr.display4 addr}/{netmask.elim 32 prefixLen}"
  | _ => none

/-- The IPv6 address of an entry. -/
def ipv6Text (ifa : IfAddrs) : Option String :=
  match ifa.addr with
  | some (.inet6 addr netmask) =>
      some s!"{IpAddr.display6 addr}/{netmask.elim 128 prefixLen}"
  | _ => none

/-- The hardware address of an entry. -/
def macText (ifa : IfAddrs) : Option String :=
  match ifa.addr with
  | some (.packet addr halen) => macAddr addr halen
  | _ => none

/-- What the entries of an interface add up to: all their addresses in their order, the last
hardware address and the flags of the last entry. -/
def Acc.of (entries : List IfAddrs) : Acc where
  flags := (entries.getLast?.map IfAddrs.flags).getD 0
  ipv4 := entries.filterMap ipv4Text
  ipv6 := entries.filterMap ipv6Text
  mac := (entries.filterMap macText).getLast?

/-- One entry more. -/
theorem Acc.of_snoc (entries : List IfAddrs) (ifa : IfAddrs) :
    Acc.of (entries ++ [ifa]) = (Acc.of entries).add ifa := by
  have hflags : ((entries ++ [ifa]).getLast?.map IfAddrs.flags).getD 0 = ifa.flags := by simp
  unfold Acc.of Acc.add
  rw [hflags, List.filterMap_append, List.filterMap_append, List.filterMap_append]
  rcases ifa with ⟨name, flags, addr⟩
  cases addr with
  | none => simp [ipv4Text, ipv6Text, macText]
  | some addr =>
      cases addr with
      | other => simp [ipv4Text, ipv6Text, macText]
      | inet addr netmask => simp [ipv4Text, ipv6Text, macText]
      | inet6 addr netmask => simp [ipv4Text, ipv6Text, macText]
      | packet addr halen =>
          cases hmac : macAddr addr halen with
          | none => simp [ipv4Text, ipv6Text, macText, hmac]
          | some mac => simp [ipv4Text, ipv6Text, macText, hmac]

/-- The walk over the entries of one interface. -/
theorem Acc.foldl_add (entries : List IfAddrs) :
    entries.foldl Acc.add .default = Acc.of entries := by
  induction entries using List.reverseRecOn with
  | nil => rfl
  | append_singleton rest ifa ih => rw [List.foldl_append, ih, Acc.of_snoc]; rfl

/-! ## Netmasks -/

/-- A byte whose first bits are set. -/
def maskByte (n : Nat) : UInt8 :=
  UInt8.ofNat (256 - 2 ^ (8 - n))

/-- A netmask of `k` bytes whose first `n` bits are set. -/
def maskBytes : (k n : Nat) → List UInt8
  | 0, _ => []
  | k + 1, n => maskByte n :: maskBytes k (n - 8)

theorem count_ones_mask_byte (n : Nat) : countOnes (maskByte n) = min n 8 := by
  by_cases hn : n < 8
  · have hbytes : ∀ n < 8, countOnes (maskByte n) = n := by decide
    rw [hbytes n hn]
    omega
  · have hfull : 8 - n = 0 := by omega
    show countOnes (UInt8.ofNat (256 - 2 ^ (8 - n))) = _
    rw [hfull, Nat.min_eq_right (by omega)]
    rfl

/-- Counting the bits of a netmask gives the length of its prefix. -/
theorem prefix_len_mask (k n : Nat) (hn : n ≤ 8 * k) : prefixLen (maskBytes k n) = n := by
  induction k generalizing n with
  | zero =>
      have hzero : n = 0 := by omega
      subst hzero
      rfl
  | succ k ih =>
      -- The first byte has what it can hold of the prefix, the other bytes have the rest.
      have hrest := ih (n - 8) (by omega)
      show countOnes (maskByte n) + prefixLen (maskBytes k (n - 8)) = n
      rw [count_ones_mask_byte, hrest]
      omega

/-! ## The listing -/

/-- The listing is that of the entries. Every interface is there once, in the order of the names,
and shows its own entries only. -/
structure Lists (sys : SysClassNet) (entries : List IfAddrs) (links : List SysInterface) :
    Prop where
  ascending : links.Pairwise fun link link' => compare link.name link'.name = .lt
  named : ∀ name, (∃ link ∈ links, link.name = name) ↔ ∃ ifa ∈ entries, ifaName ifa = some name
  shown : ∀ link ∈ links,
    link = interfaceOf sys (link.name, Acc.of (Groups.ofKey ifaName link.name entries))

theorem mem_collect_raw (entries : List IfAddrs) (name : String) (acc : Acc) :
    (name, acc) ∈ (collectRaw entries).toList ↔
      (∃ ifa ∈ entries, ifaName ifa = some name) ∧
        Acc.of (Groups.ofKey ifaName name entries) = acc := by
  rw [Std.TreeMap.mem_toList_iff_getElem?_eq_some, collectRaw, Groups.getElem?_collect,
    Acc.foldl_add]

theorem assemble_lists (sys : SysClassNet) (entries : List IfAddrs) :
    Lists sys entries (assemble sys (collectRaw entries)) := by
  refine ⟨?_, fun name => ⟨?_, ?_⟩, ?_⟩
  · exact List.pairwise_map.mpr (collectRaw entries).ordered_keys_toList
  · intro h
    obtain ⟨link, hlink, hname⟩ := h
    obtain ⟨entry, hentry, hshown⟩ := List.mem_map.mp hlink
    have hkey : entry.1 = name := by rw [← hname, ← hshown]; rfl
    exact hkey ▸ ((mem_collect_raw entries entry.1 entry.2).mp hentry).1
  · intro h
    have hentry := (mem_collect_raw entries name _).mpr ⟨h, rfl⟩
    exact ⟨_, List.mem_map_of_mem hentry, rfl⟩
  · intro link hlink
    obtain ⟨entry, hentry, hshown⟩ := List.mem_map.mp hlink
    have hacc := ((mem_collect_raw entries entry.1 entry.2).mp hentry).2
    subst hshown
    show interfaceOf sys entry = interfaceOf sys (entry.1, _)
    rw [show (interfaceOf sys entry).name = entry.1 from rfl, hacc]

/-- There is one listing of the entries, and entries of different interfaces may come in any order
among each other. -/
theorem Lists.unique {sys : SysClassNet} {entries entries' : List IfAddrs}
    {links links' : List SysInterface} (h : Lists sys entries links)
    (h' : Lists sys entries' links')
    (hentries : ∀ name,
      Groups.ofKey ifaName name entries = Groups.ofKey ifaName name entries') :
    links = links' := by
  have named_iff : ∀ name,
      (∃ link ∈ links, link.name = name) ↔ ∃ link ∈ links', link.name = name := by
    intro name
    rw [h.named, h'.named, ← Groups.of_key_ne_nil ifaName, hentries, Groups.of_key_ne_nil]
  have hmem : ∀ link, link ∈ links ↔ link ∈ links' := by
    intro link
    constructor
    -- The entries decide what a link shows, so links of one name are the same.
    · intro hlink
      obtain ⟨link', hlink', hname⟩ := (named_iff link.name).mp ⟨link, hlink, rfl⟩
      rw [h.shown link hlink, hentries, ← hname, ← h'.shown link' hlink']
      exact hlink'
    · intro hlink
      obtain ⟨link', hlink', hname⟩ := (named_iff link.name).mpr ⟨link, hlink, rfl⟩
      rw [h'.shown link hlink, ← hentries, ← hname, ← h.shown link' hlink']
      exact hlink'
  -- Lists in a strict order are the same if they have the same elements.
  have : Std.Irrefl fun link link' : SysInterface => compare link.name link'.name = .lt :=
    ⟨fun link hlt => by
      have hrefl : compare link.name link.name = .eq := Std.ReflCmp.compare_self
      rw [hrefl] at hlt
      cases hlt⟩
  have : Std.Antisymm fun link link' : SysInterface => compare link.name link'.name = .lt :=
    ⟨fun link link' hlt hgt => by
      have hswap : compare link.name link'.name = (compare link'.name link.name).swap :=
        Std.OrientedCmp.eq_swap
      rw [hlt, hgt] at hswap
      cases hswap⟩
  exact h.ascending.eq_of_mem_iff h'.ascending hmem

/-- An interface shows the IPv4 addresses of its entries with the lengths of their prefixes. -/
theorem Lists.address4 {sys : SysClassNet} {entries : List IfAddrs} {links : List SysInterface}
    (h : Lists sys entries links) {ifa : IfAddrs} {name : String} {addr : BitVec 32} {n : Nat}
    (hifa : ifa ∈ entries) (hname : ifaName ifa = some name) (hn : n ≤ 32)
    (haddr : ifa.addr = some (.inet addr (some (maskBytes 4 n)))) :
    ∃ link ∈ links, link.name = name ∧ s!"{IpAddr.display4 addr}/{n}" ∈ link.ipv4 := by
  obtain ⟨link, hlink, hlisted⟩ := (h.named name).mpr ⟨ifa, hifa, hname⟩
  have htext : ipv4Text ifa = some s!"{IpAddr.display4 addr}/{n}" := by
    unfold ipv4Text
    rw [haddr]
    show some s!"{IpAddr.display4 addr}/{prefixLen (maskBytes 4 n)}" = _
    rw [prefix_len_mask 4 n hn]
  refine ⟨link, hlink, hlisted, ?_⟩
  rw [h.shown link hlink]
  exact List.mem_filterMap.mpr
    ⟨ifa, (Groups.mem_of_key ifaName).mpr ⟨hifa, hlisted ▸ hname⟩, htext⟩

/-- An interface shows the IPv6 addresses of its entries with the lengths of their prefixes. -/
theorem Lists.address6 {sys : SysClassNet} {entries : List IfAddrs} {links : List SysInterface}
    (h : Lists sys entries links) {ifa : IfAddrs} {name : String} {addr : BitVec 128} {n : Nat}
    (hifa : ifa ∈ entries) (hname : ifaName ifa = some name) (hn : n ≤ 128)
    (haddr : ifa.addr = some (.inet6 addr (some (maskBytes 16 n)))) :
    ∃ link ∈ links, link.name = name ∧ s!"{IpAddr.display6 addr}/{n}" ∈ link.ipv6 := by
  obtain ⟨link, hlink, hlisted⟩ := (h.named name).mpr ⟨ifa, hifa, hname⟩
  have htext : ipv6Text ifa = some s!"{IpAddr.display6 addr}/{n}" := by
    unfold ipv6Text
    rw [haddr]
    show some s!"{IpAddr.display6 addr}/{prefixLen (maskBytes 16 n)}" = _
    rw [prefix_len_mask 16 n hn]
  refine ⟨link, hlink, hlisted, ?_⟩
  rw [h.shown link hlink]
  exact List.mem_filterMap.mpr
    ⟨ifa, (Groups.mem_of_key ifaName).mpr ⟨hifa, hlisted ▸ hname⟩, htext⟩

open InterfaceService in
/-- On a host whose links are those that the walk finds, the links list the entries. How the entries
of different interfaces are interleaved plays no part, and a gateway is accepted if it has the
characters of a name and an entry has the name. -/
theorem host_listing (sys : SysClassNet) (entries : List IfAddrs) (w : World) (gw : String)
    (hlinks : w.env.links = assemble sys (collectRaw entries)) :
    Lists sys entries w.env.links ∧
      (∀ entries', (∀ name,
          Groups.ofKey ifaName name entries = Groups.ofKey ifaName name entries') →
        assemble sys (collectRaw entries') = w.env.links) ∧
      (eval (handle .none) (validateGateway gw) w = (.ok (), w) ↔
        gatewayCharsetOk gw = true ∧ ∃ ifa ∈ entries, ifaName ifa = some gw) := by
  have hlists : Lists sys entries w.env.links := hlinks ▸ assemble_lists sys entries
  refine ⟨hlists, ?_, ?_⟩
  · intro entries' hentries
    exact ((hlists.unique (assemble_lists sys entries') hentries)).symm
  · have haccepts : Plan.none.acceptsGateway w.env gw = true ↔
        gatewayCharsetOk gw = true ∧ ∃ ifa ∈ entries, ifaName ifa = some gw := by
      rw [← hlists.named]
      simp [Plan.acceptsGateway, Plan.none]
    rcases eval_validate_gateway .none w gw with ⟨htrue, heval⟩ | ⟨hfalse, e, heval⟩
    · exact iff_of_true heval (haccepts.mp htrue)
    · refine iff_of_false (fun h => ?_) fun h => ?_
      · rw [heval] at h
        cases h
      · rw [haccepts.mpr h] at hfalse
        cases hfalse

/-- The files of an uplink that is up and a bridge without a carrier. -/
def hostFiles : SysClassNet where
  operstate name := if name = "eth0" then some "up\n" else some "down\n"
  carrier name := if name = "eth0" then some "1\n" else some "0\n"

/-- The entries of an uplink and a bridge. Those of the uplink are not next to each other. -/
def hostEntries : List IfAddrs :=
  [⟨some "eth0".toUTF8, 0x1043, some (.packet [2, 66, 104, 213, 226, 159, 0, 0] 6)⟩,
    ⟨some "br-lan".toUTF8, 0x1003, none⟩,
    ⟨some "eth0".toUTF8, 0x1043, some (.inet 0xC0A80105 (some [255, 255, 255, 0]))⟩]

theorem host_listing_uplink :
    let host := { World.fresh [] with
      env := { (World.fresh []).env with links := assemble hostFiles (collectRaw hostEntries) } }
    Lists hostFiles hostEntries host.env.links ∧
      eval (handle .none) (InterfaceService.validateGateway "eth0") host = (.ok (), host) := by
  intro host
  have hlisting := host_listing hostFiles hostEntries host "eth0" rfl
  refine ⟨hlisting.1, hlisting.2.2.mpr ⟨by decide +kernel, ?_⟩⟩
  exact ⟨_, List.mem_cons_self, by decide +kernel⟩

end SysNet

end Wireforge
