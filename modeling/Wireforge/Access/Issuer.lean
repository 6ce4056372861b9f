import Wireforge.Access.Totp
import Wireforge.Settings.SaveForm

/-!
# The issuer of one-time passwords

The issuer is a label for authenticators, but verification builds the parameters of an account with
it, and the library refuses a label with a colon. The settings page accepts one. So a change of the
issuer keeps every answer of the verification if neither issuer has a colon, and locks out the
owners of right codes if one has it: `issuer_change_harmless_iff`.
-/

namespace Wireforge

variable {lib : TotpRs} {secret account code issuer : String}

/-- A stored secret that was generated for an account. -/
def Enrolled (lib : TotpRs) (secret account : String) : Prop :=
  ∃ seed issuer totp, generateTotpSecret lib seed issuer account = .ok totp ∧ totp.base32 = secret

/-- A code of the secret for the current period or one next to it. -/
def CurrentCode (lib : TotpRs) (secret code : String) (now : Nat) : Prop :=
  ∃ bytes, (Secret.encoded secret).toBytes lib = .ok bytes ∧
    ∃ i < 2 * Totp.skew + 1, lib.code bytes (now / Totp.step + i - Totp.skew) = code

/-- The parameters are refused for their labels alone if the secret is long enough. -/
theorem Totp.new_labels {bytes : List UInt8} (hlen : 16 ≤ bytes.length) (issuer account : String) :
    (∃ totp, Totp.new bytes issuer account = .ok totp) ↔
      ':' ∉ issuer.toList ∧ ':' ∉ account.toList := by
  have hdigits : ¬ (Totp.digits < 6 ∨ 8 < Totp.digits) := by decide
  have hsize : ¬ bytes.length * 8 < 128 := by omega
  unfold Totp.new
  rw [if_neg hdigits, if_neg hsize]
  by_cases hissuer : ':' ∈ issuer.toList
  · simp [hissuer]
  · by_cases haccount : ':' ∈ account.toList
    · simp [hissuer, haccount]
    · simp [hissuer, haccount]

/-- The account of a generated secret has no colon. -/
theorem Enrolled.account_plain (h : Enrolled lib secret account) : ':' ∉ account.toList := by
  obtain ⟨seed, issuer, totp, hgenerate, -⟩ := h
  obtain ⟨bytes, -, hrest⟩ := Outcome.bind_ok.mp hgenerate
  obtain ⟨parameters, hnew, -⟩ := Outcome.bind_ok.mp hrest
  have hnew' := Outcome.map_error_ok.mp hnew
  intro hcolon
  unfold Totp.new at hnew'
  split_ifs at hnew'

/-- A generated secret that can be read back is long enough. -/
theorem Enrolled.long_enough (h : Enrolled lib secret account) {bytes : List UInt8}
    (hbytes : (Secret.encoded secret).toBytes lib = .ok bytes) : 16 ≤ bytes.length := by
  obtain ⟨seed, issuer, totp, hgenerate, rfl⟩ := h
  rw [(generate_totp_secret_ok hgenerate).1, Secret.toBytes, String.toList_ofList] at hbytes
  split at hbytes
  · rename_i stored hdecode
    cases hbytes
    have hlen := Base32.decode_length hdecode
    rw [length_hex_text, seed.property] at hlen
    omega
  · cases hbytes

/-- A code is accepted for a generated secret exactly if it is current and the issuer has no
colon. -/
theorem Enrolled.verify_iff (h : Enrolled lib secret account) (code issuer : String) (now : Nat) :
    verifyTotp lib secret code issuer account now = true ↔
      ':' ∉ issuer.toList ∧ CurrentCode lib secret code now := by
  unfold verifyTotp CurrentCode
  cases hread : (Secret.encoded secret).toBytes lib with
  | error e => simp
  | ok bytes =>
      have hlabels := Totp.new_labels (h.long_enough hread) issuer account
      have haccount := h.account_plain
      dsimp only
      cases hnew : Totp.new bytes issuer account with
      | error e =>
          -- the issuer is refused, as the account is not
          refine iff_of_false Bool.false_ne_true fun hboth => ?_
          obtain ⟨totp, htotp⟩ := hlabels.mpr ⟨hboth.1, haccount⟩
          rw [hnew] at htotp
          cases htotp
      | ok totp =>
          have hplain : ':' ∉ issuer.toList := (hlabels.mp ⟨totp, hnew⟩).1
          cases Totp.new_ok hnew
          simp [Totp.checkCurrent, hplain]

/-- A change between issuers that the settings page accepts keeps the answer exactly if both of
them have a colon or neither has, or if the code is none of the secret's current ones. -/
theorem issuer_change_harmless_iff (lib : TotpRs) (secret account : String)
    (henrolled : Enrolled lib secret account) (f f' : SettingsForm) (_ : f.validate = .ok ())
    (_ : f'.validate = .ok ()) (code : String) (now : Nat) :
    verifyTotp lib secret code (Text.trim f.totpIssuer) account now =
        verifyTotp lib secret code (Text.trim f'.totpIssuer) account now ↔
      ((':' ∈ (Text.trim f.totpIssuer).toList ↔ ':' ∈ (Text.trim f'.totpIssuer).toList) ∨
        ¬ CurrentCode lib secret code now) := by
  rw [Bool.eq_iff_iff, henrolled.verify_iff, henrolled.verify_iff]
  by_cases hcode : CurrentCode lib secret code now
  · simp only [hcode, and_true, not_true_eq_false, or_false, not_iff_not]
  · simp only [hcode, and_false, not_false_eq_true, or_true]

/-- The secret whose bytes are all 0x22, so that its hexadecimal text is base32. -/
def Seed.twos : Seed := ⟨List.replicate 20 0x22, rfl⟩

/-- The stored text of that secret. -/
def twosText : String := String.ofList (hexText Seed.twos.val)

theorem enrolled_twos : Enrolled .zeros twosText "admin" :=
  ⟨.twos, "Wireforge", _, rfl, rfl⟩

/-- The page accepts issuers with and without a colon. -/
theorem issuers_accepted :
    (issuerForm "Wireforge").validate = .ok () ∧ (issuerForm "My VPN").validate = .ok () ∧
      (issuerForm "Wire:forge").validate = .ok () := by
  decide +kernel

/-- The right code is accepted with another issuer without a colon. -/
theorem issuer_change_harmless_renamed :
    verifyTotp .zeros twosText "000000" (Text.trim "Wireforge") "admin" 0 = true ∧
      verifyTotp .zeros twosText "000000" (Text.trim "My VPN") "admin" 0 = true := by
  have hold : verifyTotp .zeros twosText "000000" (Text.trim "Wireforge") "admin" 0 = true := by
    decide +kernel
  have hsame := (issuer_change_harmless_iff .zeros twosText "admin" enrolled_twos
    (issuerForm "Wireforge") (issuerForm "My VPN") issuers_accepted.1 issuers_accepted.2.1 "000000"
    0).mpr (.inl (by decide +kernel))
  exact ⟨hold, hsame.symm.trans hold⟩

/-- With a colon in the new issuer the right code is rejected. -/
theorem colon_issuer_locks_out : ¬ ∀ (lib : TotpRs) (secret account : String),
    Enrolled lib secret account → ∀ f f' : SettingsForm, f.validate = .ok () →
      f'.validate = .ok () → ∀ (code : String) (now : Nat),
        verifyTotp lib secret code (Text.trim f.totpIssuer) account now =
          verifyTotp lib secret code (Text.trim f'.totpIssuer) account now := by
  intro h
  have hsame := h .zeros twosText "admin" enrolled_twos (issuerForm "Wireforge")
    (issuerForm "Wire:forge") issuers_accepted.1 issuers_accepted.2.2 "000000" 0
  have hdiffer : verifyTotp .zeros twosText "000000" (Text.trim "Wireforge") "admin" 0 ≠
      verifyTotp .zeros twosText "000000" (Text.trim "Wire:forge") "admin" 0 := by
    decide +kernel
  exact hdiffer hsame

end Wireforge
