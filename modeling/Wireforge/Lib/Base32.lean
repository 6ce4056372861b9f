import Mathlib

/-!
# Base32

The base32 alphabet without padding, as RFC 4648 section 6 prescribes it: a text is the sequence of
the 5-bit groups of the bytes. The letters of the alphabet are upper-case; a decoder may read
lower-case ones too. `decode_length` and `encode_length` relate the lengths of text and bytes.
-/

namespace Base32

/-- The characters of the alphabet, by their values. -/
def alphabet : List Char := "ABCDEFGHIJKLMNOPQRSTUVWXYZ234567".toList

/-- The value of a character. A caseless decoder reads lower-case letters as upper-case ones. -/
def value? (caseless : Bool) (c : Char) : Option Nat :=
  let c := if caseless then c.toUpper else c
  if c ∈ alphabet then some (alphabet.idxOf c) else none

/-- The character of a value below 32. -/
def digit (v : Nat) : Char := alphabet.getD v 'A'

/-- The lowest `n` bits of a number, from the highest. -/
def bits (n v : Nat) : List Bool :=
  (List.range n).map fun i => v.testBit (n - 1 - i)

/-- The number with the given bits. -/
def ofBits (bits : List Bool) : Nat :=
  bits.foldl (fun v bit => 2 * v + bit.toNat) 0

/-- The complete groups of `n` bits. -/
def groups (n : Nat) (bits : List Bool) : List (List Bool) :=
  (List.range (bits.length / n)).map fun i => (bits.drop (n * i)).take n

/-- Encode bytes; the last group is filled up with zeros. -/
def encode (bytes : List UInt8) : List Char :=
  let stream := bytes.flatMap fun b => bits 8 b.toNat
  (groups 5 (stream ++ List.replicate 4 false)).map fun group => digit (ofBits group)

/-- The values of the characters of a text, if all are in the alphabet. -/
def values (caseless : Bool) : List Char → Option (List Nat)
  | [] => some []
  | c :: rest => do
      let v ← value? caseless c
      let vs ← values caseless rest
      return v :: vs

/-- Decode a text; an incomplete last byte is dropped. -/
def decode (caseless : Bool) (text : List Char) : Option (List UInt8) := do
  let values ← values caseless text
  return (groups 8 (values.flatMap (bits 5))).map fun group => UInt8.ofNat (ofBits group)

theorem values_length {caseless : Bool} {text : List Char} {vs : List Nat}
    (h : values caseless text = some vs) : vs.length = text.length := by
  induction text generalizing vs with
  | nil =>
      cases h
      rfl
  | cons c rest ih =>
      obtain ⟨v, -, hrest⟩ := Option.bind_eq_some_iff.mp h
      obtain ⟨vs', hvs', heq⟩ := Option.bind_eq_some_iff.mp hrest
      cases heq
      rw [List.length_cons, List.length_cons, ih hvs']

theorem length_flat_map_bits {α : Type} (n : Nat) (f : α → Nat) (items : List α) :
    (items.flatMap fun item => bits n (f item)).length = items.length * n := by
  induction items with
  | nil => simp
  | cons item rest ih =>
      rw [List.flatMap_cons, List.length_append, ih, List.length_cons]
      simp [bits, Nat.succ_mul, Nat.add_comm]

@[simp] theorem length_groups (n : Nat) (bits : List Bool) :
    (groups n bits).length = bits.length / n := by
  simp [groups]

/-- Every 8 bits begun take 8/5 characters. -/
theorem encode_length (bytes : List UInt8) :
    (encode bytes).length = (bytes.length * 8 + 4) / 5 := by
  rw [encode, List.length_map, length_groups, List.length_append, List.length_replicate]
  rw [length_flat_map_bits 8 UInt8.toNat]

/-- Every 8/5 characters complete a byte. -/
theorem decode_length {caseless : Bool} {text : List Char} {bytes : List UInt8}
    (h : decode caseless text = some bytes) : bytes.length = text.length * 5 / 8 := by
  obtain ⟨vs, hvs, heq⟩ := Option.bind_eq_some_iff.mp h
  cases heq
  rw [List.length_map, length_groups, length_flat_map_bits 5 (fun v => v), values_length hvs]

/-- A text with a character outside the alphabet is not decoded. -/
theorem decode_eq_none {caseless : Bool} {text : List Char} {c : Char} (hmem : c ∈ text)
    (hc : value? caseless c = none) : decode caseless text = none := by
  have hvalues : values caseless text = none := by
    induction text with
    | nil => cases hmem
    | cons d rest ih =>
        rcases List.mem_cons.mp hmem with rfl | hrest
        · rw [values, hc]
          rfl
        · rw [values, ih hrest]
          cases value? caseless d <;> rfl
  rw [decode, hvalues]
  rfl

example : encode [102, 111, 111, 98, 97, 114] = "MZXW6YTBOI".toList ∧
    decode true "mzxw6YTBOI".toList = some [102, 111, 111, 98, 97, 114] ∧
    decode false "mzxw6".toList = none := by decide

end Base32
