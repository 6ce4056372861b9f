import Mathlib.Data.Option.Basic

/-!
# Cryptokey routing

A node of a tunnel has a secret key and knows its peers by their public keys, each with the networks
that are allowed to it. Packets for an address go to the peer with the narrowest network that
contains the address, and packets from it are accepted from no other peer. `routed_of_narrowest`
says when an address is routed to a peer.
-/

namespace CryptokeyRouting

variable {Secret Key Net Addr : Type}

/-- A node, with the allowed networks of its peers. -/
structure Node (Secret Key Net : Type) where
  secret : Secret
  allowed : Key → Option (List Net)

/-- Each node knows the other by its public key, so that they agree on session keys. -/
structure Acquainted (publicOf : Secret → Key) (a b : Node Secret Key Net) : Prop where
  forth : (a.allowed (publicOf b.secret)).isSome
  back : (b.allowed (publicOf a.secret)).isSome

/-! ## Routes -/

variable (Contains : Net → Addr → Prop) (length : Net → Nat)

/-- A network of a peer contains the address, and those of all other peers that contain it are
wider. -/
def Routed (node : Node Secret Key Net) (addr : Addr) (key : Key) : Prop :=
  ∃ nets, node.allowed key = some nets ∧ ∃ net ∈ nets, Contains net addr ∧
    ∀ other nets', node.allowed other = some nets' → other ≠ key →
      ∀ net' ∈ nets', Contains net' addr → length net' < length net

variable {Contains length} {node : Node Secret Key Net} {addr : Addr} {key other : Key}

/-- An address is routed to one peer at most. -/
theorem Routed.unique (h : Routed Contains length node addr key)
    (h' : Routed Contains length node addr other) : key = other := by
  obtain ⟨nets, hnets, net, hnet, hcontains, hwider⟩ := h
  obtain ⟨nets', hnets', net', hnet', hcontains', hwider'⟩ := h'
  by_contra hne
  have hlt := hwider other nets' hnets' (Ne.symm hne) net' hnet' hcontains'
  have hgt := hwider' key nets hnets hne net hnet hcontains
  omega

/-- If no network that contains the address is narrower than a network of the peer, and no other
peer has that network, then the address is routed to the peer. -/
theorem routed_of_narrowest {nets : List Net} {net : Net} (hnets : node.allowed key = some nets)
    (hnet : net ∈ nets) (hcontains : Contains net addr)
    (hnarrowest : ∀ net', Contains net' addr → length net' < length net ∨ net' = net)
    (hothers : ∀ other nets', node.allowed other = some nets' → other ≠ key → net ∉ nets') :
    Routed Contains length node addr key := by
  refine ⟨nets, hnets, net, hnet, hcontains, fun other nets' hnets' hne net' hnet' hcontains' => ?_⟩
  rcases hnarrowest net' hcontains' with hlt | rfl
  · exact hlt
  · exact absurd hnet' (hothers other nets' hnets' hne)

end CryptokeyRouting
