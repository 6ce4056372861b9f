import Mathlib

/-!
# Addresses and networks

The address types of the source (`IpAddr`, `IpNet`) with the operations its services use: the
network and broadcast address, the range of host addresses, and the text a network prints as.
A network keeps the host bits it was given, so `10.7.0.5/24` and `10.7.0.0/24` are different values
with the same network address.
-/

namespace Wireforge

/-- An IP address. -/
inductive IpAddr where
  | v4 (bits : BitVec 32)
  | v6 (bits : BitVec 128)
  deriving DecidableEq, Repr

/-- An address with a prefix length that fits its family. -/
inductive IpNet where
  | v4 (addr : BitVec 32) (prefixLen : Fin 33)
  | v6 (addr : BitVec 128) (prefixLen : Fin 129)
  deriving DecidableEq, Repr

/-- `a.b.c.d`. -/
def ipv4 (a b c d : Nat) : BitVec 32 :=
  BitVec.ofNat 32 (((a * 256 + b) * 256 + c) * 256 + d)

/-- The network of one address. -/
def IpNet.single (addr : BitVec 32) : IpNet := .v4 addr 32

/-- The network `10.7.0.0/24`. -/
def IpNet.lab : IpNet := .v4 (ipv4 10 7 0 0) 24

/-- An address of that network, with the prefix of the network. -/
def IpNet.labHost (host : Nat) : IpNet := .v4 (ipv4 10 7 0 host) 24

namespace IpAddr

/-- Dotted decimal. -/
def display4 (bits : BitVec 32) : String :=
  let n := bits.toNat
  s!"{n / 2 ^ 24}.{n / 2 ^ 16 % 256}.{n / 2 ^ 8 % 256}.{n % 256}"

/-- The eight 16-bit groups of an IPv6 address. -/
def segments (bits : BitVec 128) : List Nat :=
  (List.range 8).map fun i => bits.toNat / 2 ^ (112 - 16 * i) % 2 ^ 16

/-- The start and length of the first longest run of zeros, given the position, the current run
and the best run so far. -/
def longestZeros : List Nat → Nat → Nat × Nat → Nat × Nat → Nat × Nat
  | [], _, _, best => best
  | 0 :: rest, i, run, best =>
      let run := if run.2 = 0 then (i, 1) else (run.1, run.2 + 1)
      longestZeros rest (i + 1) run (if best.2 < run.2 then run else best)
  | _ :: rest, i, _, best => longestZeros rest (i + 1) (0, 0) best

/-- Lower-case hexadecimal without leading zeros. -/
def hex (n : Nat) : String :=
  String.ofList (Nat.toDigits 16 n)

/-- Colon-separated hexadecimal groups. -/
def displayGroups (groups : List Nat) : String :=
  ":".intercalate (groups.map hex)

/-- The text of an IPv6 address: mapped IPv4 addresses keep their dotted form, and the first
longest run of at least two zero groups is written `::`. -/
def display6 (bits : BitVec 128) : String :=
  if bits.toNat / 2 ^ 32 = 0xffff then s!"::ffff:{display4 (bits.setWidth 32)}"
  else
    let groups := segments bits
    let zeros := longestZeros groups 0 (0, 0) (0, 0)
    if 1 < zeros.2 then
      s!"{displayGroups (groups.take zeros.1)}::{displayGroups (groups.drop (zeros.1 + zeros.2))}"
    else displayGroups groups

/-- The text of an address. -/
def display : IpAddr → String
  | v4 bits => display4 bits
  | v6 bits => display6 bits

end IpAddr

namespace IpNet

/-- The prefix length as a number. -/
def prefixLenNat : IpNet → Nat
  | v4 _ len => len
  | v6 _ len => len

/-- The address with its host bits. -/
def addr : IpNet → IpAddr
  | v4 addr _ => .v4 addr
  | v6 addr _ => .v6 addr

/-- The address with its host bits cleared. -/
def network : IpNet → IpAddr
  | v4 addr len => .v4 ((addr >>> (32 - len.val)) <<< (32 - len.val))
  | v6 addr len => .v6 ((addr >>> (128 - len.val)) <<< (128 - len.val))

/-- The address with its host bits set. -/
def broadcast : IpNet → IpAddr
  | v4 addr len => .v4 (addr ||| (BitVec.allOnes 32 >>> len.val))
  | v6 addr len => .v6 (addr ||| (BitVec.allOnes 128 >>> len.val))

/-- `addr/len`. -/
def display (net : IpNet) : String :=
  s!"{net.addr.display}/{net.prefixLenNat}"

/-- The network of an address and a prefix length, if the length fits the family. -/
def new : IpAddr → Nat → Option IpNet
  | .v4 bits, len => if h : len < 33 then some (v4 bits ⟨len, h⟩) else none
  | .v6 bits, len => if h : len < 129 then some (v6 bits ⟨len, h⟩) else none

end IpNet

namespace IpAddr

/-- The number of bits of an address. -/
def width : IpAddr → Nat
  | v4 _ => 32
  | v6 _ => 128

/-- The address as a number. -/
def toNat : IpAddr → Nat
  | v4 bits => bits.toNat
  | v6 bits => bits.toNat

end IpAddr

namespace IpNet

/-- The address numbered `n` of the network's family. -/
def address (net : IpNet) (n : Nat) : IpAddr :=
  match net with
  | v4 _ _ => .v4 (BitVec.ofNat 32 n)
  | v6 _ _ => .v6 (BitVec.ofNat 128 n)

/-- The numbers of the first and the last host address: IPv4 networks with a prefix below 31 leave
out the network and the broadcast address. -/
def hostBounds (net : IpNet) : Nat × Nat :=
  let first := net.network.toNat
  let last := net.broadcast.toNat
  match net with
  | v4 _ len => if len.val < 31 then (first + 1, last - 1) else (first, last)
  | v6 _ _ => (first, last)

end IpNet

/-- The first of `count` numbers from `low` on that passes the test. -/
def findFrom (test : Nat → Bool) (low : Nat) : Nat → Option Nat
  | 0 => none
  | count + 1 => if test low then some low else findFrom test (low + 1) count

theorem find_from_some {test : Nat → Bool} {low count n : Nat}
    (h : findFrom test low count = some n) : test n = true := by
  induction count generalizing low with
  | zero => cases h
  | succ count ih =>
      rw [findFrom] at h
      split at h
      · cases h
        assumption
      · exact ih h

/-- The first number that passes the test is the least one. -/
theorem find_from_eq_some {test : Nat → Bool} {low count n : Nat} :
    findFrom test low count = some n ↔
      IsLeast {m | low ≤ m ∧ m < low + count ∧ test m = true} n := by
  induction count generalizing low with
  | zero =>
      refine iff_of_false (by simp [findFrom]) fun h => ?_
      have hn := h.1
      simp only [Set.mem_ofPred_eq] at hn
      omega
  | succ count ih =>
      rw [findFrom]
      split
      · rename_i htest
        have hleast : IsLeast {m | low ≤ m ∧ m < low + (count + 1) ∧ test m = true} low :=
          ⟨⟨le_refl _, by omega, htest⟩, fun m hm => hm.1⟩
        rw [Option.some.injEq]
        constructor
        · intro heq
          exact heq ▸ hleast
        · intro h
          exact hleast.unique h
      · rename_i htest
        have hset : {m | low + 1 ≤ m ∧ m < low + 1 + count ∧ test m = true} =
            {m | low ≤ m ∧ m < low + (count + 1) ∧ test m = true} := by
          ext m
          simp only [Set.mem_ofPred_eq]
          constructor
          · rintro ⟨hlow, hhigh, hm⟩
            exact ⟨by omega, by omega, hm⟩
          · rintro ⟨hlow, hhigh, hm⟩
            have hne : m ≠ low := fun heq => htest (heq ▸ hm)
            exact ⟨by omega, by omega, hm⟩
        rw [ih, hset]

/-- No number is found if and only if none passes the test. -/
theorem find_from_eq_none {test : Nat → Bool} {low count : Nat} :
    findFrom test low count = none ↔ {m | low ≤ m ∧ m < low + count ∧ test m = true} = ∅ := by
  rw [← Set.not_nonempty_iff_eq_empty, Option.eq_none_iff_forall_ne_some]
  constructor
  · intro h hne
    exact h _ (find_from_eq_some.mpr (isLeast_csInf hne))
  · intro h n hn
    exact h ⟨n, (find_from_eq_some.mp hn).1⟩

/-- Iterate over the host addresses after the first `skip` ones and return the first that passes
the test. -/
def IpNet.findHost (net : IpNet) (skip : Nat) (test : IpAddr → Bool) : Option IpAddr :=
  let (first, last) := net.hostBounds
  (findFrom (fun n => test (net.address n)) (first + skip) (last + 1 - (first + skip))).map
    net.address

theorem IpNet.find_host_some {net : IpNet} {skip : Nat} {test : IpAddr → Bool} {ip : IpAddr}
    (h : net.findHost skip test = some ip) : test ip = true := by
  obtain ⟨n, hn, rfl⟩ := Option.map_eq_some_iff.mp h
  exact find_from_some hn

/-- A network of a single address is its own network address. -/
theorem IpNet.network_new_width {ip : IpAddr} {net : IpNet}
    (h : IpNet.new ip ip.width = some net) : net.network = ip := by
  cases ip <;> cases h <;> simp [network, IpAddr.width]

namespace IpNet

variable {addr : BitVec 32} {len : Fin 33}

/-- The network address is the multiple of the network's size below the address. -/
theorem to_nat_network_v4 : (v4 addr len).network.toNat =
    addr.toNat / 2 ^ (32 - len.val) * 2 ^ (32 - len.val) := by
  show ((addr >>> (32 - len.val)) <<< (32 - len.val)).toNat = _
  rw [BitVec.toNat_shiftLeft, BitVec.toNat_ushiftRight, Nat.shiftRight_eq_div_pow,
    Nat.shiftLeft_eq]
  refine Nat.mod_eq_of_lt (lt_of_le_of_lt (Nat.div_mul_le_self _ _) addr.isLt)

/-- The broadcast address is the last one before the next multiple. -/
theorem to_nat_broadcast_v4 : (v4 addr len).broadcast.toNat =
    (v4 addr len).network.toNat + (2 ^ (32 - len.val) - 1) := by
  have hones : (BitVec.allOnes 32 >>> len.val).toNat = 2 ^ (32 - len.val) - 1 := by
    rw [BitVec.toNat_ushiftRight, BitVec.toNat_allOnes, Nat.shiftRight_eq_div_pow]
    have hlen := len.isLt
    interval_cases h : len.val <;> rfl
  rw [to_nat_network_v4]
  show (addr ||| (BitVec.allOnes 32 >>> len.val)).toNat = _
  rw [BitVec.toNat_or, hones]
  set size := 32 - len.val
  have hpos : 0 < 2 ^ size := Nat.two_pow_pos size
  have hdiv : addr.toNat = 2 ^ size * (addr.toNat / 2 ^ size) ||| addr.toNat % 2 ^ size := by
    rw [← Nat.two_pow_add_eq_or_of_lt (Nat.mod_lt _ hpos), Nat.div_add_mod]
  have hlow : addr.toNat % 2 ^ size ||| (2 ^ size - 1) = 2 ^ size - 1 := by
    refine Nat.eq_of_testBit_eq fun i => ?_
    rw [Nat.testBit_or, Nat.testBit_mod_two_pow, Nat.testBit_two_pow_sub_one]
    by_cases h : i < size <;> simp [h]
  calc addr.toNat ||| (2 ^ size - 1)
      = 2 ^ size * (addr.toNat / 2 ^ size) ||| (addr.toNat % 2 ^ size ||| (2 ^ size - 1)) := by
        rw [← Nat.or_assoc, ← hdiv]
    _ = addr.toNat / 2 ^ size * 2 ^ size + (2 ^ size - 1) := by
        rw [hlow, ← Nat.two_pow_add_eq_or_of_lt (by omega), Nat.mul_comm]

end IpNet

example : (IpNet.v4 (ipv4 10 7 0 5) 24).network = .v4 (ipv4 10 7 0 0) ∧
    IpNet.lab.findHost 1 (fun _ => true) = some (.v4 (ipv4 10 7 0 2)) ∧
    (IpNet.v4 (ipv4 10 7 0 0) 24).display = "10.7.0.0/24" := by decide

end Wireforge
