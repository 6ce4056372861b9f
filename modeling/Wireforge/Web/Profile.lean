import Wireforge.Web.Auth

/-!
# The profile pages

The second factor of the logged-in user. A new secret waits in the session until a code confirms
it; only then is it sealed and stored.
-/

namespace Wireforge

open Effect

namespace Routes.Profile

variable (crates : WebCrates) (session : SessionId) (user : AuthUser)

/-- `GET /profile`. -/
def index : Web Response := do
  let found ← Web.repo (SqliteUserRepository.findById user.id)
  let row ← Web.orFail .notFound found
  let flash ← Web.takeFlash session
  return .html 200 (.profile user flash row.totpEnabled)

/-- The QR code of a provisioning URI. -/
def qr (url : String) : Web String :=
  Web.ofExcept ((crates.qrSvg 220 url).mapError fun e => .internal s!"qr: {e}")

/-- `GET /profile/2fa`. -/
def totpSetupPage : Web Response := do
  let s ← Web.settingsSnapshot
  let seed ← always SiteCall.drawTotpSecret.request
  let totp ← Web.ofCore (generateTotpSecret crates.totp seed s.totpIssuer user.username)
  Web.sessionInsert session .totpSetup totp.base32
  let svg ← qr crates (crates.totpUrl totp.uri)
  let flash ← Web.takeFlash session
  return .html 200 (.totpSetup user flash none totp.base32 svg)

/-- The provisioning URI of a secret that is already known. -/
def totpUri (issuer account secret : String) : String :=
  s!"otpauth://totp/{issuer}:{account}?secret={secret}&issuer={issuer}&digits=6&period=30"

/-- Store a confirmed secret. -/
def enable (secret : String) : Web Response := do
  let blob ← Web.ofCore (crates.seal secret.toUTF8)
  Web.repo (SqliteUserRepository.updateTotp user.id true (some blob))
  Web.sessionRemove session .totpSetup
  Web.setFlash session (Web.flashSuccess "Two-factor authentication enabled")
  Web.auditRecord (some user.id) none .totpEnabled (some "user") (some user.id.display) none
  return .redirect "/profile"

/-- `POST /profile/2fa`. -/
def totpConfirm (form : TotpForm) : Web Response := do
  match ← Web.sessionGet session .totpSetup with
  | none => return .redirect "/profile/2fa"
  | some secret => do
      let s ← Web.settingsSnapshot
      if ← Web.verifyCode crates secret (Text.trim form.code) s.totpIssuer user.username then
        enable crates session user secret
      else do
        let svg ← qr crates (totpUri s.totpIssuer user.username secret)
        return .html 200 (.totpSetup user none
          (some "Invalid code; check the time on your device and retry.") secret svg)

/-- `POST /profile/2fa/disable`. -/
def totpDisable : Web Response := do
  Web.repo (SqliteUserRepository.updateTotp user.id false none)
  Web.setFlash session (Web.flashSuccess "Two-factor authentication disabled")
  Web.auditRecord (some user.id) none .totpDisabled (some "user") (some user.id.display) none
  return .redirect "/profile"

end Routes.Profile

end Wireforge
