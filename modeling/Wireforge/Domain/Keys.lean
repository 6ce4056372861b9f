import Wireforge.Lib.Base64

/-!
# WireGuard keys

Keys are kept as base64 text. `from_base64` accepts a text exactly when it decodes to 32 bytes, and
the key types carry that fact, so that decoding a stored key never fails.
-/

namespace Wireforge

/-- The length of a key in bytes. -/
def keyLen : Nat := 32

/-- A raw key: 32 bytes. -/
abbrev Key := { bytes : List UInt8 // bytes.length = keyLen }

/-- The key of zeros. -/
def Key.zero : Key := ⟨List.replicate keyLen 0, rfl⟩

/-- The key with one byte everywhere. -/
def Key.fill (byte : UInt8) : Key := ⟨List.replicate keyLen byte, rfl⟩

/-- The bytes of a key text. -/
def decodeKey (s : String) : Option Key :=
  match Base64.decode s.toList with
  | some bytes => if h : bytes.length = keyLen then some ⟨bytes, h⟩ else none
  | none => none

/-- The text of a raw key. -/
def encodeKey (key : Key) : String :=
  String.ofList (Base64.encode key.val)

theorem decode_encode_key (key : Key) : decodeKey (encodeKey key) = some key := by
  simp [decodeKey, encodeKey, Base64.decode_encode, key.property]

theorem encode_decode_key {s : String} {key : Key} (h : decodeKey s = some key) :
    encodeKey key = s := by
  unfold decodeKey at h
  split at h
  · rename_i bytes hbytes
    split at h
    · cases h
      rw [encodeKey, Base64.encode_decode hbytes, String.ofList_toList]
    · cases h
  · cases h

/-- A key text that decodes to 32 bytes. -/
structure KeyText where
  text : String
  valid : (decodeKey text).isSome = true
  deriving DecidableEq

namespace KeyText

/-- The bytes of a key text. -/
def key (k : KeyText) : Key :=
  (decodeKey k.text).get k.valid

/-- The text of a raw key. -/
def ofKey (key : Key) : KeyText :=
  ⟨encodeKey key, by rw [decode_encode_key]; rfl⟩

@[simp] theorem key_of_key (key : Key) : (ofKey key).key = key := by
  simp [KeyText.key, ofKey, decode_encode_key]

/-- The text of a key is the text of its bytes. -/
theorem encode_key (k : KeyText) : encodeKey k.key = k.text :=
  encode_decode_key (Option.some_get k.valid).symm

/-- Keys with the same bytes are the same text. -/
theorem key_injective : Function.Injective key := by
  intro k k' h
  have htext : k.text = k'.text := by rw [← encode_key k, h, encode_key k']
  cases k
  cases k'
  cases htext
  rfl

/-- Texts are equal exactly if their bytes are. -/
theorem text_inj {k k' : KeyText} : k.text = k'.text ↔ k.key = k'.key := by
  constructor
  · intro htext
    rw [show k = k' from by cases k; cases k'; cases htext; rfl]
  · intro hkey
    rw [key_injective hkey]

/-- The text of a key is not blank. -/
theorem text_nonempty (k : KeyText) : k.text.isEmpty = false := by
  refine Bool.eq_false_iff.mpr fun hempty => ?_
  have hvalid := k.valid
  rw [show k.text = "" from String.isEmpty_iff.mp hempty] at hvalid
  exact absurd hvalid (by decide)

/-- Accept a text that decodes to 32 bytes; the errors name what is wrong with it. -/
def fromBase64 (s : String) : Except String KeyText :=
  match Base64.decode s.toList with
  | none => .error "invalid base64 key"
  | some bytes =>
      if h : (decodeKey s).isSome = true then .ok ⟨s, h⟩
      else .error s!"invalid key length {bytes.length} (expected {keyLen})"

theorem from_base64_text (k : KeyText) : fromBase64 k.text = .ok k := by
  have hvalid := k.valid
  unfold fromBase64
  split
  · rename_i hnone
    simp [decodeKey, hnone] at hvalid
  · rw [dif_pos hvalid]

/-- A text that is accepted is the text of its key. -/
theorem from_base64_ok {s : String} {k : KeyText} : fromBase64 s = .ok k ↔ k.text = s := by
  refine ⟨fun h => ?_, fun h => h ▸ from_base64_text k⟩
  unfold fromBase64 at h
  split at h
  · cases h
  · split at h
    · cases h
      rfl
    · cases h

end KeyText

/-- A private key. -/
structure WgPrivateKey where
  inner : KeyText
  deriving DecidableEq

/-- A public key. -/
structure WgPublicKey where
  inner : KeyText
  deriving DecidableEq

/-- The text of a private key. -/
def WgPrivateKey.asStr (k : WgPrivateKey) : String := k.inner.text

/-- The text of a public key. -/
def WgPublicKey.asStr (k : WgPublicKey) : String := k.inner.text

/-- Public keys with one text are one key. -/
theorem WgPublicKey.as_str_inj {k k' : WgPublicKey} : k.asStr = k'.asStr ↔ k = k' := by
  rcases k with ⟨⟨_, _⟩⟩
  rcases k' with ⟨⟨_, _⟩⟩
  simp [asStr]

end Wireforge
