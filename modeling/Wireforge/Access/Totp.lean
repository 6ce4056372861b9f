import Wireforge.Domain.Entities
import Wireforge.Lib.Base32
import Wireforge.Lib.Outcome

/-!
# Time-based one-time passwords

Enrolment draws a secret, shows it to the authenticator as a provisioning URI, and stores its text.
The text it stores is the hexadecimal form of the bytes, and verification reads it as base32:
`enrolment_never_works`. A secret whose text has a character outside the base32 alphabet accepts no
code at all: `verify_totp_rejects`.
-/

namespace Wireforge

/-- Digits of a code. -/
def Totp.digits : Nat := 6

/-- Periods before and after the current one whose codes are accepted. -/
def Totp.skew : Nat := 1

/-- Seconds in a period. -/
def Totp.step : Nat := 30

/-- Why the library refuses a secret or its parameters. -/
inductive TotpError where
  | parseBase32
  | digitsNumber (digits : Nat)
  | secretSize (bits : Nat)
  | issuer (issuer : String)
  | accountName (account : String)
  deriving DecidableEq, Repr

/-- What a provisioning URI carries. -/
structure ProvisioningUri where
  issuer : String
  account : String
  secret : String
  deriving DecidableEq, Repr

/-- The parts of the library that are not modelled: the code of a secret in a period, the QR code,
the texts of its errors, and whether its base32 decoder reads lower-case letters. -/
structure TotpRs where
  code : List UInt8 → Nat → String
  qrPng : ProvisioningUri → Except String (List UInt8)
  describe : TotpError → String
  caseless : Bool

/-- A secret as raw bytes or as a base32 text. -/
inductive Secret where
  | raw (bytes : List UInt8)
  | encoded (text : String)

/-- The 20 bytes that are drawn for a new secret. -/
abbrev Seed := { bytes : List UInt8 // bytes.length = 20 }

/-- Two hexadecimal digits for each byte. -/
def hexText (bytes : List UInt8) : List Char :=
  bytes.flatMap fun b => [Nat.digitChar (b.toNat / 16), Nat.digitChar (b.toNat % 16)]

namespace Secret

/-- The text of a secret. -/
def display : Secret → String
  | .raw bytes => String.ofList (hexText bytes)
  | .encoded text => text

/-- The bytes of a secret. -/
def toBytes (lib : TotpRs) : Secret → Except TotpError (List UInt8)
  | .raw bytes => .ok bytes
  | .encoded text =>
      match Base32.decode lib.caseless text.toList with
      | some bytes => .ok bytes
      | none => .error .parseBase32

end Secret

/-- The parameters of the codes of one account. -/
structure Totp where
  bytes : List UInt8
  issuer : String
  account : String

namespace Totp

/-- Check the parameters. -/
def new (bytes : List UInt8) (issuer account : String) : Except TotpError Totp :=
  if digits < 6 ∨ 8 < digits then .error (.digitsNumber digits)
  else if bytes.length * 8 < 128 then .error (.secretSize (bytes.length * 8))
  else if ':' ∈ issuer.toList then .error (.issuer issuer)
  else if ':' ∈ account.toList then .error (.accountName account)
  else .ok ⟨bytes, issuer, account⟩

/-- The URI from which an authenticator learns the secret. -/
def getUrl (totp : Totp) : ProvisioningUri :=
  ⟨totp.issuer, totp.account, String.ofList (Base32.encode totp.bytes)⟩

/-- The code is that of the current period or of one next to it. -/
def checkCurrent (lib : TotpRs) (totp : Totp) (code : String) (now : Nat) : Bool :=
  (List.range (2 * skew + 1)).any fun i => lib.code totp.bytes (now / step + i - skew) = code

end Totp

/-- A new secret: its text, its URI and the QR code of the URI. -/
structure TotpSecret where
  base32 : String
  uri : ProvisioningUri
  qrPng : List UInt8

/-- Make a secret of the drawn bytes. -/
def generateTotpSecret (lib : TotpRs) (seed : Seed) (issuer account : String) :
    Except CoreError TotpSecret := do
  let secret := Secret.raw seed.val
  let bytes ← (secret.toBytes lib).mapError fun e =>
    .crypto s!"totp secret: {lib.describe e}"
  let totp ← (Totp.new bytes issuer account).mapError fun e =>
    .crypto s!"totp init: {lib.describe e}"
  let uri := totp.getUrl
  let qrPng ← (lib.qrPng uri).mapError fun e => .crypto s!"totp qr: {e}"
  return ⟨secret.display, uri, qrPng⟩

/-- Verify a code against a stored secret. -/
def verifyTotp (lib : TotpRs) (base32Secret code issuer account : String) (now : Nat) : Bool :=
  match (Secret.encoded base32Secret).toBytes lib with
  | .error _ => false
  | .ok bytes =>
      match Totp.new bytes issuer account with
      | .error _ => false
      | .ok totp => totp.checkCurrent lib code now

/-- The code that an authenticator shows for a URI. -/
def authenticatorCode (lib : TotpRs) (uri : ProvisioningUri) (now : Nat) : Option String :=
  (Base32.decode lib.caseless uri.secret.toList).map fun bytes => lib.code bytes (now / Totp.step)

/-- Enrolment works: the authenticator's codes are accepted, and the stored text denotes the bytes
of the URI. -/
def EnrolmentWorks (lib : TotpRs) (seed : Seed) (issuer account : String) : Prop :=
  ∃ totp, generateTotpSecret lib seed issuer account = .ok totp ∧
    (∀ now, ∃ code, authenticatorCode lib totp.uri now = some code ∧
      verifyTotp lib totp.base32 code issuer account now = true) ∧
    ∃ bytes, Base32.decode lib.caseless totp.uri.secret.toList = some bytes ∧
      (Secret.encoded totp.base32).toBytes lib = .ok bytes

variable {lib : TotpRs} {seed : Seed} {issuer account : String} {totp : TotpSecret}

theorem length_hex_text (bytes : List UInt8) : (hexText bytes).length = 2 * bytes.length := by
  induction bytes with
  | nil => rfl
  | cons b rest ih =>
      rw [hexText, List.flatMap_cons, List.length_append]
      show 2 + (hexText rest).length = 2 * (rest.length + 1)
      omega

theorem Totp.new_ok {bytes : List UInt8} {totp : Totp}
    (h : Totp.new bytes issuer account = .ok totp) : totp = ⟨bytes, issuer, account⟩ := by
  unfold Totp.new at h
  split_ifs at h
  cases h
  rfl

/-- A new secret is stored in hexadecimal, and the URI carries its base32 text. -/
theorem generate_totp_secret_ok (h : generateTotpSecret lib seed issuer account = .ok totp) :
    totp.base32 = String.ofList (hexText seed.val) ∧
      totp.uri.secret = String.ofList (Base32.encode seed.val) := by
  obtain ⟨bytes, hbytes, h⟩ := Outcome.bind_ok.mp h
  obtain ⟨parameters, hnew, h⟩ := Outcome.bind_ok.mp h
  obtain ⟨png, -, h⟩ := Outcome.bind_ok.mp h
  cases Outcome.map_error_ok.mp hbytes
  cases Totp.new_ok (Outcome.map_error_ok.mp hnew)
  cases h
  exact ⟨rfl, rfl⟩

/-- The stored text and the text of the URI denote different bytes: one is read as 25 bytes, the
other as 20. -/
theorem stored_text_differs (caseless : Bool) (seed : Seed) {stored shown : List UInt8}
    (hstored : Base32.decode caseless (hexText seed.val) = some stored)
    (hshown : Base32.decode caseless (Base32.encode seed.val) = some shown) : stored ≠ shown := by
  have hstored' := Base32.decode_length hstored
  have hshown' := Base32.decode_length hshown
  rw [length_hex_text, seed.property] at hstored'
  rw [Base32.encode_length, seed.property] at hshown'
  intro heq
  rw [heq] at hstored'
  omega

/-- A stored text with a character outside the alphabet accepts no code. -/
theorem verify_totp_rejects {text code : String} {c : Char} (hmem : c ∈ text.toList)
    (hc : Base32.value? lib.caseless c = none) (now : Nat) :
    verifyTotp lib text code issuer account now = false := by
  rw [verifyTotp, Secret.toBytes, Base32.decode_eq_none hmem hc]

/-- Enrolment works for no secret. -/
theorem enrolment_never_works (lib : TotpRs) (seed : Seed) (issuer account : String) :
    ¬ EnrolmentWorks lib seed issuer account := by
  rintro ⟨totp, hgenerate, -, bytes, huri, hstored⟩
  obtain ⟨hbase32, hsecret⟩ := generate_totp_secret_ok hgenerate
  rw [hsecret, String.toList_ofList] at huri
  rw [hbase32, Secret.toBytes, String.toList_ofList] at hstored
  split at hstored
  · rename_i stored hdecode
    cases hstored
    exact stored_text_differs lib.caseless seed hdecode huri rfl
  · cases hstored

/-- The secret of 20 zero bytes. -/
def Seed.zero : Seed := ⟨List.replicate 20 0, rfl⟩

/-- A library whose codes are all zeros. -/
def TotpRs.zeros : TotpRs where
  code _ _ := "000000"
  qrPng _ := .ok []
  describe _ := ""
  caseless := true

/-- The secret of zero bytes is stored as a text of zeros, which is not base32, and the code of the
authenticator is rejected. -/
theorem zero_secret_rejected :
    ∃ totp, generateTotpSecret .zeros .zero "Wireforge" "admin" = .ok totp ∧
      authenticatorCode .zeros totp.uri 0 = some "000000" ∧
      verifyTotp .zeros totp.base32 "000000" "Wireforge" "admin" 0 = false ∧
      ¬ EnrolmentWorks .zeros .zero "Wireforge" "admin" := by
  have hrejects : ∀ code now, verifyTotp .zeros (String.ofList (hexText Seed.zero.val)) code
      "Wireforge" "admin" now = false := by
    intro code now
    exact verify_totp_rejects (c := '0') (by decide) (by decide) now
  refine ⟨_, rfl, by decide +kernel, hrejects _ _, ?_⟩
  rintro ⟨totp, hgenerate, haccepts, -⟩
  obtain ⟨code, -, haccepted⟩ := haccepts 0
  rw [(generate_totp_secret_ok hgenerate).1] at haccepted
  exact Bool.false_ne_true ((hrejects code 0).symm.trans haccepted)

end Wireforge
