import Mathlib.Tactic.Common

/-!
# Canonical base64

The standard base64 alphabet with mandatory padding, as RFC 4648 section 4 prescribes it: decoding
rejects missing or misplaced padding and non-zero trailing bits. `encode_decode` and
`decode_encode` say that every accepted text is the one encoding of its bytes.
-/

namespace Base64

/-- The value of a character of the alphabet. -/
def value? (c : Char) : Option Nat :=
  if 'A' ≤ c ∧ c ≤ 'Z' then some (c.toNat - 65)
  else if 'a' ≤ c ∧ c ≤ 'z' then some (c.toNat - 97 + 26)
  else if '0' ≤ c ∧ c ≤ '9' then some (c.toNat - 48 + 52)
  else if c = '+' then some 62
  else if c = '/' then some 63
  else none

/-- The character of a value below 64. -/
def digit (n : Nat) : Char :=
  if n < 26 then Char.ofNat (n + 65)
  else if n < 52 then Char.ofNat (n - 26 + 97)
  else if n < 62 then Char.ofNat (n - 52 + 48)
  else if n = 62 then '+'
  else '/'

/-- Decode a text; `none` if it is not the canonical encoding of any bytes. -/
def decode : List Char → Option (List UInt8)
  | [] => some []
  | [a, b, '=', '='] => do
      let va ← value? a
      let vb ← value? b
      if vb % 16 = 0 then some [UInt8.ofNat (va * 4 + vb / 16)] else none
  | [a, b, c, '='] => do
      let va ← value? a
      let vb ← value? b
      let vc ← value? c
      if vc % 4 = 0 then
        some [UInt8.ofNat (va * 4 + vb / 16), UInt8.ofNat (vb % 16 * 16 + vc / 4)]
      else none
  | a :: b :: c :: d :: rest => do
      let va ← value? a
      let vb ← value? b
      let vc ← value? c
      let vd ← value? d
      let bytes ← decode rest
      some (UInt8.ofNat (va * 4 + vb / 16) :: UInt8.ofNat (vb % 16 * 16 + vc / 4) ::
        UInt8.ofNat (vc % 4 * 64 + vd) :: bytes)
  | _ => none

/-- Encode bytes, padding the last group. -/
def encode : List UInt8 → List Char
  | [] => []
  | [x] => [digit (x.toNat / 4), digit (x.toNat % 4 * 16), '=', '=']
  | [x, y] =>
      [digit (x.toNat / 4), digit (x.toNat % 4 * 16 + y.toNat / 16),
        digit (y.toNat % 16 * 4), '=']
  | x :: y :: z :: rest =>
      digit (x.toNat / 4) :: digit (x.toNat % 4 * 16 + y.toNat / 16) ::
        digit (y.toNat % 16 * 4 + z.toNat / 64) :: digit (z.toNat % 64) :: encode rest

/-! ## The alphabet -/

/-- The five ranges of the alphabet. -/
theorem value_cases {c : Char} {n : Nat} (h : value? c = some n) :
    (65 ≤ c.toNat ∧ c.toNat ≤ 90 ∧ n = c.toNat - 65) ∨
    (97 ≤ c.toNat ∧ c.toNat ≤ 122 ∧ n = c.toNat - 97 + 26) ∨
    (48 ≤ c.toNat ∧ c.toNat ≤ 57 ∧ n = c.toNat - 48 + 52) ∨
    (c = '+' ∧ n = 62) ∨ (c = '/' ∧ n = 63) := by
  unfold value? at h
  split at h
  · rename_i hc
    exact .inl ⟨hc.1, hc.2, (Option.some.inj h).symm⟩
  · split at h
    · rename_i hc
      exact .inr (.inl ⟨hc.1, hc.2, (Option.some.inj h).symm⟩)
    · split at h
      · rename_i hc
        exact .inr (.inr (.inl ⟨hc.1, hc.2, (Option.some.inj h).symm⟩))
      · split at h
        · rename_i hc
          exact .inr (.inr (.inr (.inl ⟨hc, (Option.some.inj h).symm⟩)))
        · split at h
          · rename_i hc
            exact .inr (.inr (.inr (.inr ⟨hc, (Option.some.inj h).symm⟩)))
          · cases h

theorem value_lt {c : Char} {n : Nat} (h : value? c = some n) : n < 64 := by
  rcases value_cases h with h | h | h | h | h <;> omega

theorem digit_value {c : Char} {n : Nat} (h : value? c = some n) : digit n = c := by
  have hof : ∀ m, m = c.toNat → Char.ofNat m = c := by
    rintro m rfl
    exact Char.ofNat_toNat c
  rcases value_cases h with ⟨h1, h2, hn⟩ | ⟨h1, h2, hn⟩ | ⟨h1, h2, hn⟩ | ⟨rfl, rfl⟩ | ⟨rfl, rfl⟩
  · rw [digit, if_pos (by omega)]
    exact hof _ (by omega)
  · rw [digit, if_neg (by omega), if_pos (by omega)]
    exact hof _ (by omega)
  · rw [digit, if_neg (by omega), if_neg (by omega), if_pos (by omega)]
    exact hof _ (by omega)
  · rfl
  · rfl

theorem value_digit {n : Nat} (h : n < 64) : value? (digit n) = some n := by
  decide +revert

theorem digit_ne_pad {n : Nat} (h : n < 64) : digit n ≠ '=' := by
  decide +revert

/-! ## Round trips -/

theorem to_nat_of_lt {n : Nat} (h : n < 256) : (UInt8.ofNat n).toNat = n := by
  rw [UInt8.toNat_ofNat']
  exact Nat.mod_eq_of_lt h

/-- Every text that decodes is the encoding of its bytes. -/
theorem encode_decode {text : List Char} {bytes : List UInt8} (h : decode text = some bytes) :
    encode bytes = text := by
  induction text using decode.induct generalizing bytes with
  | case1 =>
      cases h
      rfl
  | case2 a b =>
      simp only [decode, bind, Option.bind_eq_some_iff] at h
      obtain ⟨va, ha, vb, hb, h⟩ := h
      split at h
      · cases h
        have h1 := value_lt ha
        have h2 := value_lt hb
        rw [encode, to_nat_of_lt (by omega), ← digit_value ha, ← digit_value hb]
        congr 2 <;> congr 1 <;> omega
      · cases h
  | case3 a b c hc =>
      simp only [decode, bind, Option.bind_eq_some_iff] at h
      obtain ⟨va, ha, vb, hb, vc, hvc, h⟩ := h
      split at h
      · cases h
        have h1 := value_lt ha
        have h2 := value_lt hb
        have h3 := value_lt hvc
        rw [encode, to_nat_of_lt (by omega), to_nat_of_lt (by omega), ← digit_value ha,
          ← digit_value hb, ← digit_value hvc]
        congr 3 <;> congr 1 <;> omega
      · cases h
  | case4 a b c d rest hpad hpad' ih =>
      rw [decode.eq_4 _ _ _ _ _ hpad hpad'] at h
      simp only [bind, Option.bind_eq_some_iff] at h
      obtain ⟨va, ha, vb, hb, vc, hc, vd, hd, tail, htail, h⟩ := h
      cases h
      have h1 := value_lt ha
      have h2 := value_lt hb
      have h3 := value_lt hc
      have h4 := value_lt hd
      rw [encode, ih htail, to_nat_of_lt (by omega), to_nat_of_lt (by omega),
        to_nat_of_lt (by omega), ← digit_value ha, ← digit_value hb, ← digit_value hc,
        ← digit_value hd]
      congr 4 <;> congr 1 <;> omega
  | case5 text h1 h2 h3 h4 =>
      rw [decode.eq_5 _ h1 h2 h3 h4] at h
      cases h

/-- Decoding gives back the bytes that were encoded. -/
theorem decode_encode (bytes : List UInt8) : decode (encode bytes) = some bytes := by
  induction bytes using encode.induct with
  | case1 => rfl
  | case2 x =>
      have hx := x.toNat_lt
      simp only [encode, decode, value_digit (show x.toNat / 4 < 64 by omega),
        value_digit (show x.toNat % 4 * 16 < 64 by omega), bind, Option.bind_some]
      rw [if_pos (by omega), show x.toNat / 4 * 4 + x.toNat % 4 * 16 / 16 = x.toNat by omega,
        UInt8.ofNat_toNat]
  | case3 x y =>
      have hx := x.toNat_lt
      have hy := y.toNat_lt
      have hlast : y.toNat % 16 * 4 < 64 := by omega
      rw [encode, decode.eq_3 _ _ _ (digit_ne_pad hlast)]
      simp only [value_digit (show x.toNat / 4 < 64 by omega),
        value_digit (show x.toNat % 4 * 16 + y.toNat / 16 < 64 by omega), value_digit hlast, bind,
        Option.bind_some]
      rw [if_pos (by omega),
        show x.toNat / 4 * 4 + (x.toNat % 4 * 16 + y.toNat / 16) / 16 = x.toNat by omega,
        show (x.toNat % 4 * 16 + y.toNat / 16) % 16 * 16 + y.toNat % 16 * 4 / 4 = y.toNat by omega,
        UInt8.ofNat_toNat, UInt8.ofNat_toNat]
  | case4 x y z rest ih =>
      have hx := x.toNat_lt
      have hy := y.toNat_lt
      have hz := z.toNat_lt
      have hlast : z.toNat % 64 < 64 := by omega
      rw [encode, decode.eq_4 _ _ _ _ _ (fun _ hpad _ => digit_ne_pad hlast hpad)
        (fun hpad _ => digit_ne_pad hlast hpad)]
      simp only [value_digit (show x.toNat / 4 < 64 by omega),
        value_digit (show x.toNat % 4 * 16 + y.toNat / 16 < 64 by omega),
        value_digit (show y.toNat % 16 * 4 + z.toNat / 64 < 64 by omega), value_digit hlast, ih,
        bind, Option.bind_some]
      rw [show x.toNat / 4 * 4 + (x.toNat % 4 * 16 + y.toNat / 16) / 16 = x.toNat by omega,
        show (x.toNat % 4 * 16 + y.toNat / 16) % 16 * 16 +
          (y.toNat % 16 * 4 + z.toNat / 64) / 4 = y.toNat by omega,
        show (y.toNat % 16 * 4 + z.toNat / 64) % 4 * 64 + z.toNat % 64 = z.toNat by omega,
        UInt8.ofNat_toNat, UInt8.ofNat_toNat, UInt8.ofNat_toNat]

end Base64
