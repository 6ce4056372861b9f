import Wireforge.Infra.WireGuardSpec
import Wireforge.Lib.Mirror

/-!
# Peer tables

`Devices.Shows` says which rows a device shows in its peer table. The lemmas follow the rows a
device shows through the calls of the adapter.
-/

namespace Wireforge

open DefguardAdapter

/-- The key of a peer's entry. -/
def Peer.key (peer : Peer) : Key :=
  peer.publicKey.key

/-- Entries with one key are of one public key. -/
theorem Peer.key_inj {peer other : Peer} :
    peer.key = other.key ↔ peer.publicKey = other.publicKey := by
  constructor
  · intro h
    have := KeyText.key_injective h
    rcases hpeer : peer.publicKey with ⟨inner⟩
    rcases hother : other.publicKey with ⟨inner'⟩
    rw [hpeer, hother] at this
    exact congrArg WgPublicKey.mk this
  · exact congrArg WgPublicKey.key

/-- There is a device of that name, and its peer table has the entries of exactly these peers. -/
def Devices.Shows (crates : Crates) (devices : Devices) (name : String) (peers : Set Peer) : Prop :=
  ∃ device, devices name = some device ∧
    Mirrors peers Peer.key (Peer.wgPeer crates) device.peers

variable {crates : Crates} {plan : Plan} {devices devices' : Devices} {name other : String}
  {peers : Set Peer} {peer : Peer} {iface : Interface} {key : Key} {entry : Option WgPeer}

namespace Devices

/-! ## The other devices -/

theorem create_of_ne (h : other ≠ name) : devices.create name other = devices other :=
  Function.update_of_ne h _ _

theorem configure_of_ne {config : InterfaceConfiguration} (h : other ≠ config.name) :
    devices.configure config other = devices other :=
  Function.update_of_ne h _ _

theorem remove_of_ne (h : other ≠ name) : devices.remove name other = devices other :=
  Function.update_of_ne h _ _

theorem set_peer_of_ne (h : other ≠ name) : devices.setPeer name key entry other = devices other :=
  Function.update_of_ne h _ _

/-! ## One device -/

namespace Shows

theorem has (h : devices.Shows crates name peers) : devices.has name = true := by
  obtain ⟨device, hdevice, -⟩ := h
  simp [Devices.has, hdevice]

theorem congr (h : devices.Shows crates name peers) (hdevice : devices' name = devices name) :
    devices'.Shows crates name peers := by
  obtain ⟨device, heq, hmirrors⟩ := h
  exact ⟨device, hdevice.trans heq, hmirrors⟩

theorem congr_peers {peers' : Set Peer} (h : devices.Shows crates name peers)
    (heq : ∀ peer, peer ∈ peers ↔ peer ∈ peers') : devices.Shows crates name peers' :=
  Set.ext heq ▸ h

/-- Installing a peer replaces whatever peer had its key. -/
theorem install (h : devices.Shows crates name peers) (peer : Peer) :
    (devices.setPeer name peer.key (some (peer.wgPeer crates))).Shows crates name
      (insert peer {other ∈ peers | other.key ≠ peer.key}) := by
  obtain ⟨device, hdevice, hmirrors⟩ := h
  exact ⟨_, (Function.update_self ..).trans (congrArg _ hdevice), hmirrors.install peer⟩

/-- Removing the entry of a key removes the peers with it. -/
theorem uninstall (h : devices.Shows crates name peers) (key : Key) :
    (devices.setPeer name key none).Shows crates name {other ∈ peers | other.key ≠ key} := by
  obtain ⟨device, hdevice, hmirrors⟩ := h
  exact ⟨_, (Function.update_self ..).trans (congrArg _ hdevice), hmirrors.remove key⟩

end Shows

/-- A device that is configured shows the enabled ones among the given peers. -/
theorem shows_configure {l : List Peer} {privateKey : WgPrivateKey}
    (hkeys : ((l.filter (·.enabled)).map Peer.key).Nodup) :
    (devices.configure (configWith crates iface l privateKey)).Shows crates iface.name
      {peer | peer ∈ l ∧ peer.enabled = true} := by
  refine ⟨_, Function.update_self .., ?_⟩
  simp only [configWith, peerTable, List.foldl_map]
  exact (Mirrors.of_list _ hkeys).congr (by ext; simp)

end Devices

/-! ## When nothing fails -/

namespace Plan

theorem uninstalled_none {publicKey : WgPublicKey} : none.uninstalled iface publicKey devices =
    devices.setPeer iface.name publicKey.key .none := rfl

/-- Bringing an interface up replaces its table, unless its private key cannot be recovered. -/
theorem up_none (crates : Crates) (iface : Interface) (l : List Peer) (devices : Devices) :
    (none.configures crates iface l = false ∧ none.up crates iface l devices = devices) ∨
    (none.configures crates iface l = true ∧ ∃ privateKey, none.up crates iface l devices =
      devices.configure (configWith crates iface l privateKey)) := by
  unfold Plan.up
  cases hkey : unsealPrivate crates iface with
  | error e => exact .inl ⟨by simp [Plan.configures, hkey], rfl⟩
  | ok privateKey =>
      have hconfigures : none.configures crates iface l = true := by
        simp [Plan.configures, hkey, Plan.opens, Plan.none]
      exact .inr ⟨hconfigures, privateKey, by simp [hconfigures]⟩

end Plan

end Wireforge
