import Wireforge.Lifecycle.Keys
import Wireforge.Task.Poller

/-!
# Key texts

A key is compared, stored and looked up by its base64 text. The texts that are accepted are
canonical: a text is accepted exactly if it is the text of its bytes. So a comparison of texts is a
comparison of keys, wherever the code makes one.
-/

namespace Wireforge

open Effect

/-- The text is accepted as a public or a private key, with these bytes. -/
def AcceptedAs (s : String) (key : Key) : Prop :=
  (∃ k, WgPublicKey.fromBase64 s = .ok k ∧ k.key = key) ∨
    ∃ k, WgPrivateKey.fromBase64 s = .ok k ∧ k.key = key

/-- A text that is accepted is the text of a key. -/
theorem AcceptedAs.text {s : String} {key : Key} (h : AcceptedAs s key) :
    ∃ k : KeyText, k.text = s ∧ k.key = key := by
  cases h with
  | inl h =>
      obtain ⟨k, hk, hkey⟩ := h
      exact ⟨k.inner, WgPublicKey.from_base64_ok.mp hk, hkey⟩
  | inr h =>
      obtain ⟨k, hk, hkey⟩ := h
      exact ⟨k.inner, WgPrivateKey.from_base64_ok.mp hk, hkey⟩

/-- Public keys have the same text exactly if they have the same bytes. -/
theorem WgPublicKey.as_str_eq_iff (k k' : WgPublicKey) : k.asStr = k'.asStr ↔ k.key = k'.key :=
  KeyText.text_inj

/-- Private keys have the same text exactly if they have the same bytes. -/
theorem WgPrivateKey.as_str_eq_iff (k k' : WgPrivateKey) : k.asStr = k'.asStr ↔ k.key = k'.key :=
  KeyText.text_inj

/-- An edit that supplies a private key compares keys. -/
theorem PeerService.rekeyed_private_by_bytes (crates : Crates) {peer : Peer} {s : String}
    (newPublic : String) {k current : WgPrivateKey} (h : WgPrivateKey.fromBase64 s = .ok k)
    (hcurrent : peer.privateKeySealed.map crates.unsealText = some current.asStr) :
    rekeyed crates peer s newPublic =
      if k.key = current.key then .ok peer
      else (crates.seal k.asStr.toUTF8).map (withKey crates peer k) := by
  obtain rfl := WgPrivateKey.from_base64_ok.mp h
  have hsome : k.asStr.isEmpty = false := k.inner.text_nonempty
  unfold rekeyed
  rw [hcurrent]
  by_cases hkey : k.key = current.key
  · -- the stored key again: nothing changes
    have htext : k.asStr = current.asStr := (WgPrivateKey.as_str_eq_iff _ _).mpr hkey
    rw [if_pos hkey, htext]
    rw [htext] at hsome
    simp [hsome]
  · have htext : k.asStr ≠ current.asStr := mt (WgPrivateKey.as_str_eq_iff _ _).mp hkey
    rw [if_neg hkey]
    simp [htext, hsome]

/-- An edit that supplies a public key alone compares keys. -/
theorem PeerService.rekeyed_by_bytes (crates : Crates) (peer : Peer) {s : String} {k : WgPublicKey}
    (h : WgPublicKey.fromBase64 s = .ok k) :
    rekeyed crates peer "" s =
      .ok (if k.key = peer.publicKey.key then peer
        else { peer with publicKey := k, privateKeySealed := none }) := by
  have hsame : k = peer.publicKey ↔ k.key = peer.publicKey.key :=
    WgPublicKey.as_str_inj.symm.trans (WgPublicKey.as_str_eq_iff k peer.publicKey)
  simp only [rekeyed_public h, hsame]

/-- An edit removes the old entry of a peer that stays on its interface exactly if the key is
another one. -/
theorem PeerService.remove_stale_by_bytes {old peer : Peer} (target : Interface)
    (h : peer.interfaceId = old.interfaceId) :
    removeStale old peer target =
      if peer.publicKey.key = old.publicKey.key then pure ()
      else ignore (DefguardAdapter.removePeer target old.publicKey) := by
  unfold removeStale
  rw [if_neg (not_not.mpr h)]
  by_cases hkey : peer.publicKey.key = old.publicKey.key
  · rw [if_pos hkey, if_neg (not_not.mpr ((WgPublicKey.as_str_eq_iff _ _).mpr hkey))]
  · rw [if_neg hkey, if_pos (mt (WgPublicKey.as_str_eq_iff _ _).mp hkey)]

/-- The poller finds a peer by the text of a key exactly if it has that key. -/
theorem Poller.by_pubkey_by_bytes (peers : List Peer) (key : WgPublicKey) :
    byPubkey peers key.asStr = peers.reverse.find? (·.publicKey.key = key.key) := by
  unfold byPubkey
  simp only [WgPublicKey.as_str_eq_iff]

/-- Accepted texts are canonical, and the comparisons the program makes of them are comparisons of
keys: by an edit that supplies a public key, by an edit that may leave an old entry behind, and by
the poller for the keys the kernel reports. -/
theorem key_texts_canonical (s s' : String) (key key' : Key) (h : AcceptedAs s key)
    (h' : AcceptedAs s' key') :
    encodeKey key = s ∧ (s = s' ↔ key = key') ∧ DefguardAdapter.decodeB64Key s = .ok key ∧
      (∀ crates peer k, WgPublicKey.fromBase64 s = .ok k →
        PeerService.rekeyed crates peer "" s =
          .ok (if peer.publicKey.key = key then peer
            else { peer with publicKey := k, privateKeySealed := none })) ∧
      (∀ crates peer k current newPublic, WgPrivateKey.fromBase64 s = .ok k →
        peer.privateKeySealed.map crates.unsealText = some (WgPrivateKey.asStr current) →
        PeerService.rekeyed crates peer s newPublic =
          if current.key = key then .ok peer
          else (crates.seal s.toUTF8).map (PeerService.withKey crates peer k)) ∧
      (∀ old peer target, peer.interfaceId = old.interfaceId →
        PeerService.removeStale old peer target =
          if peer.publicKey.key = old.publicKey.key then pure ()
          else ignore (DefguardAdapter.removePeer target old.publicKey)) ∧
      ∀ (peers : List Peer) (p : HostPeer), ∃ stat, DefguardAdapter.toPeerStats p = .ok stat ∧
        Poller.byPubkey peers stat.publicKey.asStr =
          peers.reverse.find? (·.publicKey.key = p.publicKey) := by
  obtain ⟨k, rfl, rfl⟩ := h.text
  obtain ⟨k', rfl, rfl⟩ := h'.text
  refine ⟨k.encode_key, KeyText.text_inj, decode_b64_text _ _ k, ?_, ?_, ?_, ?_⟩
  · intro crates peer found hfound
    have htext : found.inner.text = k.text := WgPublicKey.from_base64_ok.mp hfound
    have hkey : found.key = k.key := KeyText.text_inj.mp htext
    rw [PeerService.rekeyed_by_bytes crates peer hfound, hkey]
    simp only [eq_comm]
  · intro crates peer found current newPublic hfound hcurrent
    have htext : found.asStr = k.text := WgPrivateKey.from_base64_ok.mp hfound
    have hkey : found.key = k.key := KeyText.text_inj.mp htext
    rw [PeerService.rekeyed_private_by_bytes crates newPublic hfound hcurrent, hkey, htext]
    simp only [eq_comm]
  · intro old peer target hstays
    exact PeerService.remove_stale_by_bytes target hstays
  · intro peers p
    refine ⟨p.stats, DefguardAdapter.to_peer_stats_eq p, ?_⟩
    rw [Poller.by_pubkey_by_bytes, show p.stats.publicKey.key = p.publicKey from
      KeyText.key_of_key p.publicKey]

/-- The texts of two keys. -/
theorem key_texts_canonical_two :
    (encodeKey .zero = encodeKey onesKey ↔ Key.zero = onesKey) ∧
      DefguardAdapter.decodeB64Key (encodeKey .zero) = .ok .zero :=
  have h := key_texts_canonical (encodeKey .zero) (encodeKey onesKey) .zero onesKey
    (.inl ⟨_, WgPublicKey.from_base64_encode _, KeyText.key_of_key _⟩)
    (.inr ⟨_, WgPrivateKey.from_base64_encode _, KeyText.key_of_key _⟩)
  ⟨h.2.1, h.2.2.1⟩

end Wireforge
