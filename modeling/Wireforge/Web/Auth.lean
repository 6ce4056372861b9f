import Wireforge.Web.Context

/-!
# Login, second factor, logout and setup

The pages that create and end the login of a session. A login whose user has a second factor leaves
a pending user in the session, and the code turns the pending user into the user of the session.
-/

namespace Wireforge

open Effect

/-- The fields of the login page. -/
structure LoginForm where
  username : String
  password : String

/-- The fields of the setup page. -/
structure SetupForm where
  username : String
  password : String
  passwordConfirm : String
  email : Option String

/-- The fields of a page that asks for a code. -/
structure TotpForm where
  code : String

namespace Routes.Auth

/-- The login page. -/
def renderLogin (error : Option String) (username : String) : Response :=
  .html 200 (.login error username)

/-- The page that asks for a code. -/
def renderTotp (error : Option String) : Response :=
  .html 200 (.totpChallenge error)

/-- The setup page with an error. -/
def setupErr (message : String) : Response :=
  .html 200 (.setup (some message))

/-- `GET /login`. -/
def loginPage : Web Response := do
  if (← Web.repo SqliteUserRepository.count) = 0 then
    return .redirect "/setup"
  else
    return renderLogin none ""

/-- The IP is locked out. -/
def lockedOut (clientIp : String) : Web Bool := do
  match ← Web.repo (SqliteBanRepository.findRow clientIp) with
  | some ban => do
      let now ← Web.repo siteNow
      return ban.isActive now
  | none => return false

/-- The session's user of a row. -/
def authUser (user : User) : AuthUser :=
  ⟨user.id, user.username, user.role⟩

/-- Log a user in whose password was right, or ask for the code. -/
def passwordAccepted (session : SessionId) (clientIp : String) (user : User) : Web Response := do
  ignore (SqliteBanRepository.clearRow clientIp)
  if user.totpEnabled then do
    Web.sessionInsert session .pendingUser ⟨user.id.display, user.username⟩
    return renderTotp none
  else do
    Web.repo (SqliteUserRepository.touchLastLogin user.id)
    (authUser user).store session
    Web.auditRecord (some user.id) (some clientIp) .userLogin (some "user")
      (some user.id.display) none
    return .redirect "/"

/-- Record a login with a wrong name or password. -/
def passwordRefused (clientIp : String) (form : LoginForm) : Web Response := do
  let s ← Web.settingsSnapshot
  let _ ← SqliteBanRepository.recordRow clientIp s.loginMaxAttempts (.fromSecs s.loginLockoutSecs)
  Web.auditRecord none (some clientIp) .userLoginFailed none none
    (some [("username", .str form.username)])
  return renderLogin (some "Invalid username or password") form.username

/-- `POST /login`. -/
def loginSubmit (crates : WebCrates) (session : SessionId) (clientIp : String)
    (form : LoginForm) : Web Response := do
  if ← lockedOut clientIp then do
    Web.auditRecord none (some clientIp) .userLoginFailed none none
      (some [("reason", .str "ip_locked")])
    return renderLogin (some "Too many failed attempts. Try again later.") form.username
  else do
    match ← attempt (AuthService.authenticatePassword crates form.username form.password) with
    | .ok user => passwordAccepted session clientIp user
    | .error .invalidCredentials => passwordRefused clientIp form
    | .error e => Web.fail (.core e)

/-- The text of a stored secret. -/
def storedSecret (crates : WebCrates) (user : User) : Web String := do
  let blob ← Web.orFail .unauthorized user.totpSecretEncrypted
  let bytes ← Web.ofCore (crates.unseal blob)
  Web.orFail (.internal s!"totp utf8: {Text.utf8Error bytes}") (String.fromUTF8? bytes)

/-- The user that a session waits for. -/
def pendingRow (crates : WebCrates) (pending : PendingUser) : Web User := do
  let id ← Web.orFail .unauthorized (crates.parseUuid pending.userId)
  let found ← Web.repo (SqliteUserRepository.findById ⟨id⟩)
  Web.orFail .unauthorized found

/-- Log a user in whose code was right. -/
def codeAccepted (session : SessionId) (clientIp : String) (user : User) : Web Response := do
  Web.sessionRemove session .pendingUser
  Web.repo (SqliteUserRepository.touchLastLogin user.id)
  (authUser user).store session
  Web.auditRecord (some user.id) (some clientIp) .userLogin (some "user")
    (some user.id.display) (some [("totp", .bool true)])
  return .redirect "/"

/-- `POST /login/totp`. -/
def totpSubmit (crates : WebCrates) (session : SessionId) (clientIp : String)
    (form : TotpForm) : Web Response := do
  match ← Web.sessionGet session .pendingUser with
  | none => return .redirect "/login"
  | some pending => do
      let user ← pendingRow crates pending
      let secret ← storedSecret crates user
      let s ← Web.settingsSnapshot
      if ← Web.verifyCode crates secret (Text.trim form.code) s.totpIssuer user.username then
        codeAccepted session clientIp user
      else do
        Web.auditRecord (some user.id) (some clientIp) .userLoginFailed (some "user")
          (some user.id.display) (some [("reason", .str "totp_invalid")])
        return renderTotp (some "Invalid code")

/-- Record the logout of a user, if there is one. -/
def recordLogout : Option AuthUser → Web Unit
  | some user =>
      Web.auditRecord (some user.id) none .userLogout (some "user") (some user.id.display) none
  | none => pure ()

/-- `POST /logout`. -/
def logout (session : SessionId) : Web Response := do
  let user ← AuthUser.readSessionUser session
  recordLogout user
  AuthUser.clear session
  Web.sessionRemove session .pendingUser
  return .redirect "/login"

/-- `GET /setup`. -/
def setupPage : Web Response := do
  if 0 < (← Web.repo SqliteUserRepository.count) then
    return .redirect "/login"
  else
    return .html 200 (.setup none)

/-- Create the first user and log it in. -/
def bootstrap (crates : WebCrates) (session : SessionId) (clientIp : String)
    (form : SetupForm) : Web Response := do
  let user ← Web.repo
    (AuthService.registerInitialAdmin crates form.username form.password form.email)
  (AuthUser.mk user.id user.username .admin).store session
  Web.auditRecord (some user.id) (some clientIp) .userCreated (some "user")
    (some user.id.display) (some [("bootstrap", .bool true)])
  return .redirect "/"

/-- `POST /setup`. -/
def setupSubmit (crates : WebCrates) (session : SessionId) (clientIp : String)
    (form : SetupForm) : Web Response := do
  if 0 < (← Web.repo SqliteUserRepository.count) then
    return .redirect "/login"
  else if form.password ≠ form.passwordConfirm then
    return setupErr "Passwords do not match"
  else if form.password.utf8ByteSize < 12 then
    return setupErr "Password must be at least 12 characters"
  else
    bootstrap crates session clientIp form

end Routes.Auth

end Wireforge
