import Wireforge.Domain.Keys
import Wireforge.Domain.Net
import Wireforge.Lib.Outcome

/-!
# Domain entities

The rows of the `interfaces` and `peers` tables and the values the services exchange with the
adapters. Every field of the source records is kept. Identifiers carry the table they belong to in
their type, times count nanoseconds since the epoch, and byte strings are `ByteArray`s.
-/

namespace Wireforge

/-- The failures the application reports, each with the text it prints. -/
inductive CoreError where
  | notFound (text : String)
  | conflict (text : String)
  | validation (text : String)
  | forbidden (text : String)
  | unauthorized
  | invalidCredentials
  | twoFactorRequired
  | twoFactorInvalid
  | crypto (text : String)
  | ipPoolExhausted (text : String)
  | wireGuard (text : String)
  | persistence (text : String)
  | internal (text : String)
  deriving DecidableEq, Repr

/-- Accept a text as a private key. -/
def WgPrivateKey.fromBase64 (s : String) : Except CoreError WgPrivateKey :=
  ((KeyText.fromBase64 s).map .mk).mapError .validation

/-- Accept a text as a public key. -/
def WgPublicKey.fromBase64 (s : String) : Except CoreError WgPublicKey :=
  ((KeyText.fromBase64 s).map .mk).mapError .validation

/-- A stored private key is accepted again. -/
@[simp] theorem WgPrivateKey.from_base64_as_str (k : WgPrivateKey) :
    fromBase64 k.asStr = .ok k := by
  simp [fromBase64, asStr, KeyText.from_base64_text, Except.map, Except.mapError]

/-- A stored public key is accepted again. -/
@[simp] theorem WgPublicKey.from_base64_as_str (k : WgPublicKey) :
    fromBase64 k.asStr = .ok k := by
  simp [fromBase64, asStr, KeyText.from_base64_text, Except.map, Except.mapError]

/-- A text that is accepted as a private key is the text of that key. -/
theorem WgPrivateKey.from_base64_ok {s : String} {key : WgPrivateKey} :
    fromBase64 s = .ok key ↔ key.asStr = s := by
  refine ⟨fun h => ?_, fun h => h ▸ from_base64_as_str key⟩
  obtain ⟨text, htext, rfl⟩ := Outcome.map_ok.mp (Outcome.map_error_ok.mp h)
  exact KeyText.from_base64_ok.mp htext

/-- A text that is accepted as a public key is the text of that key. -/
theorem WgPublicKey.from_base64_ok {s : String} {key : WgPublicKey} :
    fromBase64 s = .ok key ↔ key.asStr = s := by
  refine ⟨fun h => ?_, fun h => h ▸ from_base64_as_str key⟩
  obtain ⟨text, htext, rfl⟩ := Outcome.map_ok.mp (Outcome.map_error_ok.mp h)
  exact KeyText.from_base64_ok.mp htext

inductive InterfaceMarker
inductive PeerMarker
inductive UserMarker

/-- The 128 bits of a UUID. -/
abbrev Uuid := BitVec 128

/-- An identifier of a row of one table. -/
structure Id (Marker : Type) where
  value : Uuid
  deriving Repr

instance {Marker : Type} : DecidableEq (Id Marker) := fun a b =>
  decidable_of_iff (a.value = b.value) (by cases a; cases b; simp)

/-- The text of an identifier: the 32 hexadecimal digits of the UUID in groups of 8, 4, 4, 4
and 12. -/
def Id.display {Marker : Type} (id : Id Marker) : String :=
  let digits := (List.range 32).map fun i => Nat.digitChar (id.value.toNat / 16 ^ (31 - i) % 16)
  let group (start len : Nat) := String.ofList ((digits.drop start).take len)
  s!"{group 0 8}-{group 8 4}-{group 12 4}-{group 16 4}-{group 20 12}"

/-- Different digits are different characters. -/
theorem digit_char_inj {m n : Nat} (hm : m < 16) (hn : n < 16)
    (h : Nat.digitChar m = Nat.digitChar n) : m = n := by
  revert h
  interval_cases m <;> interval_cases n <;> decide

/-- A number below `16 ^ k` is determined by its last `k` hexadecimal digits. -/
theorem eq_of_nibbles {k m n : Nat} (hm : m < 16 ^ k) (hn : n < 16 ^ k)
    (h : ∀ i < k, m / 16 ^ i % 16 = n / 16 ^ i % 16) : m = n := by
  induction k generalizing m n with
  | zero => omega
  | succ k ih =>
      have hlast := h 0 (by omega)
      have hrest : m / 16 = n / 16 := by
        refine ih (by omega) (by omega) fun i hi => ?_
        have hi' := h (i + 1) (by omega)
        rwa [pow_succ', ← Nat.div_div_eq_div_mul, ← Nat.div_div_eq_div_mul] at hi'
      simp only [pow_zero, Nat.div_one] at hlast
      omega

/-- The text of an identifier without its dashes. -/
theorem Id.display_digits {Marker : Type} (id : Id Marker) :
    id.display.toList.filter (· ≠ '-') =
      (List.range 32).map fun i => Nat.digitChar (id.value.toNat / 16 ^ (31 - i) % 16) := by
  have hdigit (n : Nat) : Nat.digitChar (n % 16) ≠ '-' := by
    have h : n % 16 < 16 := Nat.mod_lt _ (by omega)
    interval_cases n % 16 <;> decide
  have hkeep (start len : Nat) :
      ((((List.range 32).map fun i => Nat.digitChar (id.value.toNat / 16 ^ (31 - i) % 16)).drop
        start).take len).filter (· ≠ '-') =
      (((List.range 32).map fun i => Nat.digitChar (id.value.toNat / 16 ^ (31 - i) % 16)).drop
        start).take len := by
    refine List.filter_eq_self.mpr fun c hc => ?_
    obtain ⟨i, -, rfl⟩ := List.mem_map.mp (List.mem_of_mem_drop (List.mem_of_mem_take hc))
    exact decide_eq_true (hdigit _)
  have hdash : "-".toList.filter (· ≠ '-') = [] := rfl
  show List.filter _ (String.toList (String.ofList _ ++ "-" ++ String.ofList _ ++ "-" ++
    String.ofList _ ++ "-" ++ String.ofList _ ++ "-" ++ String.ofList _)) = _
  simp only [String.toList_append, String.toList_ofList, List.filter_append, hkeep, hdash,
    List.append_nil]
  rfl

/-- The text of an identifier tells which one it is. -/
theorem Id.display_injective {Marker : Type} : Function.Injective (@Id.display Marker) := by
  intro a b h
  have hdigits := congrArg (List.filter (· ≠ '-') ∘ String.toList) h
  simp only [Function.comp_apply, Id.display_digits, List.map_inj_left, List.mem_range] at hdigits
  have hvalue : a.value.toNat = b.value.toNat := by
    refine eq_of_nibbles (k := 32) (by have := a.value.isLt; omega) (by have := b.value.isLt; omega)
      fun i hi => ?_
    have hi' := hdigits (31 - i) (by omega)
    rw [show 31 - (31 - i) = i by omega] at hi'
    exact digit_char_inj (Nat.mod_lt _ (by omega)) (Nat.mod_lt _ (by omega)) hi'
  cases a
  cases b
  exact congrArg Id.mk (BitVec.eq_of_toNat_eq hvalue)

/-- A UTC instant. -/
structure DateTime where
  nanos : Int
  deriving DecidableEq, Repr

instance : LE DateTime := ⟨fun a b => a.nanos ≤ b.nanos⟩
instance : DecidableLE DateTime := fun a b => inferInstanceAs (Decidable (a.nanos ≤ b.nanos))

/-- An interface is down, up, or in error. -/
inductive InterfaceStatus where
  | down
  | up
  | error
  deriving DecidableEq, Repr

/-- The name of a status. -/
def InterfaceStatus.asStr : InterfaceStatus → String
  | down => "down"
  | up => "up"
  | error => "error"

/-- A row of `interfaces`. -/
structure Interface where
  id : Id InterfaceMarker
  name : String
  publicKey : WgPublicKey
  privateKeySealed : ByteArray
  listenPort : UInt16
  endpoint : Option String
  gateway : Option String
  ipv4Cidr : Option IpNet
  ipv6Cidr : Option IpNet
  mtu : Option UInt16
  dns : List String
  onUp : Option String
  onDown : Option String
  status : InterfaceStatus
  createdAt : DateTime
  updatedAt : DateTime
  deriving DecidableEq

/-- The row with another status. -/
def Interface.withStatus (iface : Interface) (status : InterfaceStatus) : Interface :=
  { iface with status }

@[simp] theorem Interface.with_status_id (iface : Interface) (status : InterfaceStatus) :
    (iface.withStatus status).id = iface.id := rfl

@[simp] theorem Interface.with_status_status (iface : Interface) (status : InterfaceStatus) :
    (iface.withStatus status).status = status := rfl

/-- An interface that is down, with no more than a name, a gateway and an IPv6 network, and the key
of zeros kept as it is. -/
def Interface.plain (id : Nat) (name : String) (gateway : Option String)
    (ipv6Cidr : Option IpNet) : Interface where
  id := ⟨id⟩
  name := name
  publicKey := ⟨.ofKey .zero⟩
  privateKeySealed := (encodeKey .zero).toUTF8
  listenPort := 51820
  endpoint := none
  gateway := gateway
  ipv4Cidr := none
  ipv6Cidr := ipv6Cidr
  mtu := none
  dns := []
  onUp := none
  onDown := none
  status := .down
  createdAt := ⟨0⟩
  updatedAt := ⟨0⟩

/-- What an interface is created from. -/
structure NewInterface where
  name : String
  privateKey : WgPrivateKey
  publicKey : WgPublicKey
  listenPort : UInt16
  endpoint : Option String
  gateway : Option String
  ipv4Cidr : Option IpNet
  ipv6Cidr : Option IpNet
  mtu : Option UInt16
  dns : List String
  onUp : Option String
  onDown : Option String

/-- A row of `peers`. -/
structure Peer where
  id : Id PeerMarker
  interfaceId : Id InterfaceMarker
  name : String
  publicKey : WgPublicKey
  privateKeySealed : Option ByteArray
  presharedKeySealed : Option ByteArray
  allowedIps : List IpNet
  primaryDns : Option String
  secondaryDns : Option String
  nat : Bool
  endpoint : Option String
  persistentKeepalive : Option UInt16
  bandwidthQuotaBytes : Option UInt64
  bandwidthUsedBytes : UInt64
  expiresAt : Option DateTime
  schedule : Option String
  enabled : Bool
  ownerUserId : Option (Id UserMarker)
  createdAt : DateTime
  updatedAt : DateTime
  deriving DecidableEq

/-- An enabled peer with no more than a name, an interface, a quota and a schedule, and the key of
zeros. -/
def Peer.plain (id interfaceId : Nat) (name : String) (bandwidthQuotaBytes : Option UInt64)
    (schedule : Option String) : Peer where
  id := ⟨id⟩
  interfaceId := ⟨interfaceId⟩
  name := name
  publicKey := ⟨.ofKey .zero⟩
  privateKeySealed := none
  presharedKeySealed := none
  allowedIps := []
  primaryDns := none
  secondaryDns := none
  nat := false
  endpoint := none
  persistentKeepalive := none
  bandwidthQuotaBytes := bandwidthQuotaBytes
  bandwidthUsedBytes := 0
  expiresAt := none
  schedule := schedule
  enabled := true
  ownerUserId := none
  createdAt := ⟨0⟩
  updatedAt := ⟨0⟩

/-- What a peer is created from. -/
structure NewPeer where
  interfaceId : Id InterfaceMarker
  name : String
  publicKey : WgPublicKey
  allowedIps : List IpNet
  primaryDns : Option String
  secondaryDns : Option String
  nat : Bool
  endpoint : Option String
  persistentKeepalive : Option UInt16
  bandwidthQuotaBytes : Option UInt64
  expiresAt : Option DateTime
  ownerUserId : Option (Id UserMarker)
  privateKeySealed : Option ByteArray

/-- Counters of one peer as the kernel reports them. -/
structure PeerStats where
  publicKey : WgPublicKey
  lastHandshake : Option DateTime
  rxBytes : UInt64
  txBytes : UInt64
  endpoint : Option String

/-- A network interface of the host. -/
structure SysInterface where
  name : String
  up : Bool
  ipv4 : List String
  ipv6 : List String
  mac : Option String
  flags : List String

/-- An access window: weekdays from 1 (Monday) to 7 and two times of day. -/
structure Schedule where
  weekdays : List UInt8
  fromTime : String
  toTime : String

/-- A time of day in whole minutes. -/
abbrev NaiveTime := Fin 1440

/-! ## The kernel's view -/

/-- A socket address. -/
structure SocketAddr where
  ip : IpAddr
  port : UInt16
  deriving DecidableEq

/-- An address with a mask. -/
structure IpAddrMask where
  address : IpAddr
  cidr : Nat
  deriving DecidableEq

/-- A peer as it is configured on a device. -/
structure WgPeer where
  publicKey : Key
  allowedIps : List IpAddrMask
  endpoint : Option SocketAddr
  persistentKeepaliveInterval : Option UInt16
  deriving DecidableEq

/-- What a device is configured with. -/
structure InterfaceConfiguration where
  name : String
  prvkey : String
  addresses : List IpAddrMask
  port : UInt16
  peers : List WgPeer
  mtu : Option UInt32
  deriving DecidableEq

/-- A peer as the kernel reports it: its key, the time of its last handshake in seconds, its
counters and its endpoint. -/
structure HostPeer where
  publicKey : Key
  lastHandshake : Option Nat
  rxBytes : UInt64
  txBytes : UInt64
  endpoint : Option String

/-! ## Third-party code -/

/-- The key that seals secrets at rest. -/
structure SealKey where
  passphrase : String

/-- The functions of third-party crates that the services rely on, and the key they seal with.
`encrypt` and `decrypt` are the two directions of `age`; their errors carry the text of the step
that failed. -/
structure Crates where
  sealKey : SealKey
  encrypt : String → ByteArray → Except String ByteArray
  decrypt : String → ByteArray → Except String ByteArray
  publicKey : Key → Key
  parseSocketAddr : String → Option SocketAddr
  parseSchedule : String → Except String Schedule
  parseTime : String → Option NaiveTime

/-- Encrypt at rest. -/
def Crates.seal (crates : Crates) (plaintext : ByteArray) : Except CoreError ByteArray :=
  (crates.encrypt crates.sealKey.passphrase plaintext).mapError .crypto

/-- Decrypt what was sealed. -/
def Crates.unseal (crates : Crates) (ciphertext : ByteArray) : Except CoreError ByteArray :=
  (crates.decrypt crates.sealKey.passphrase ciphertext).mapError .crypto

/-- What is sealed can be unsealed again. -/
def Crates.SealsBack (crates : Crates) : Prop :=
  ∀ key plaintext sealed, crates.encrypt key plaintext = .ok sealed →
    crates.decrypt key sealed = .ok plaintext

theorem Crates.unseal_seal {crates : Crates} (hcrates : crates.SealsBack)
    {plaintext sealed : ByteArray} (h : crates.seal plaintext = .ok sealed) :
    crates.unseal sealed = .ok plaintext := by
  unfold Crates.seal at h
  cases hencrypt : crates.encrypt crates.sealKey.passphrase plaintext with
  | error e => simp [hencrypt, Except.mapError] at h
  | ok bytes =>
      simp only [hencrypt, Except.mapError, Except.ok.injEq] at h
      subst h
      simp [Crates.unseal, hcrates _ _ _ hencrypt, Except.mapError]

/-- Crates that encrypt nothing, derive a public key that is its private key, and parse nothing. -/
def Crates.transparent : Crates where
  sealKey := ⟨""⟩
  encrypt _ plaintext := .ok plaintext
  decrypt _ ciphertext := .ok ciphertext
  publicKey key := key
  parseSocketAddr _ := none
  parseSchedule text := .error text
  parseTime _ := none

theorem Crates.seals_back_transparent : transparent.SealsBack := by
  rintro key plaintext sealed ⟨⟩
  rfl

end Wireforge
