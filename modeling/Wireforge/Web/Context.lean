import Wireforge.Service.Accounts
import Wireforge.Web.Pages

/-!
# What web handlers share

The error conversions of the handlers, the session of a request, flash messages, the audit log and
the check of the caller's role.
-/

namespace Wireforge

open Effect

/-- A web handler: it calls the outside world and may stop with a `WebError` or with the process. -/
abbrev Web : Type → Type := Fallible SiteCall SiteCall.Reply (Stop WebError)

/-- The values of the configuration file that the pages show. -/
structure WebConfig where
  databasePath : String
  serverBind : String
  sessionSecure : Bool

namespace Web

variable {α : Type}

/-- Stop with an error. -/
def fail (e : WebError) : Web α :=
  throw (.error e)

/-- Go on with a value, or stop with an error. -/
def ofExcept (result : Except WebError α) : Web α :=
  match result with
  | .ok value => pure value
  | .error e => fail e

/-- A repository method, whose error stops the handler. -/
def repo (program : Repo α) : Web α :=
  orElse (fun e => .error (.core e)) program.run

/-- An operation of a service. -/
def host (program : App α) : Repo α :=
  embed siteEmbedding id program

/-- An operation of a service, whose error stops the handler. -/
def service (program : App α) : Web α :=
  repo (host program)

/-- A value that has to be there; otherwise the handler stops with the error. -/
def orFail (e : WebError) (value : Option α) : Web α :=
  match value with
  | some value => pure value
  | none => fail e

/-- An outcome of the application, whose error stops the handler. -/
def ofCore (result : Except CoreError α) : Web α :=
  ofExcept (result.mapError .core)

/-- The live settings. -/
def settingsSnapshot : Web RuntimeSettings :=
  always SiteCall.readSettings.request

/-- Emit an audit event; a failure is ignored. -/
def auditRecord {ε : Type} (actor : Option (Id UserMarker)) (actorIp : Option String)
    (action : AuditAction) (resourceType resourceId : Option String)
    (metadata : Option Json.Object) : Fallible SiteCall SiteCall.Reply ε Unit :=
  ignore (SqliteAuditRepository.record actor actorIp action resourceType resourceId metadata)

/-- Put a value into a session; a failure is ignored. -/
def sessionInsert (session : SessionId) (key : SessionKey) (value : key.Value) : Web Unit :=
  ignore (orElse mapErr (SiteCall.insertSession session key value).request)

/-- Drop a value of a session; a failure is ignored. -/
def sessionRemove (session : SessionId) (key : SessionKey) : Web Unit :=
  ignore (orElse mapErr (SiteCall.removeSession session key).request)

/-- The value in a session; a failure counts as none. -/
def sessionGet (session : SessionId) (key : SessionKey) : Web (Option key.Value) := do
  let found ← always (SiteCall.getSession session key).request
  return found.toOption.join

/-- Set the message of the next page. -/
def setFlash (session : SessionId) (flash : Flash) : Web Unit :=
  sessionInsert session .flash flash

/-- A message of success. -/
def flashSuccess (message : String) : Flash := ⟨.success, message⟩

/-- Take the message of the page, if there is one. -/
def takeFlash (session : SessionId) : Web (Option Flash) := do
  let flash ← sessionGet session .flash
  if flash.isSome then
    sessionRemove session .flash
  return flash

/-- Verify a code at the current time. -/
def verifyCode (crates : WebCrates) (secret code issuer account : String) : Web Bool := do
  let now ← repo siteNow
  return 0 ≤ now.nanos &&
    verifyTotp crates.totp secret code issuer account (now.nanos / nanosPerSec).toNat

/-- The rows of a listing; a failure counts as none. -/
def listOrEmpty (program : App (List α)) : Web (List α) := do
  let found ← attempt (host program)
  return found.toOption.getD []

/-- The endpoint of the client configurations. -/
def endpoint : Web String := do
  let s ← settingsSnapshot
  return s.endpoint.getD "vpn.example.com"

/-- Read the identifier in a path. -/
def parseId {marker : Type} (crates : WebCrates) (text : String) : Web (Id marker) := do
  let value ← orFail .notFound (crates.parseUuid text)
  return ⟨value⟩

end Web

namespace AuthUser

/-- Log the user into a session. -/
def store (user : AuthUser) (session : SessionId) : Web Unit :=
  orElse (fun e => .error (.internal s!"session insert: {e}"))
    (SiteCall.insertSession session .authUser user).request

/-- Log a session out. -/
def clear (session : SessionId) : Web Unit :=
  orElse (fun e => .error (.internal s!"session remove: {e}"))
    (SiteCall.removeSession session .authUser).request

/-- The user of a request. -/
def fromRequestParts (session : SessionId) : Web AuthUser := do
  let user ← orElse (fun e => Stop.error (.internal s!"session get: {e}"))
    (SiteCall.getSession session .authUser).request
  Web.orFail .unauthorized user

/-- The user of a session, if there is one. -/
def readSessionUser (session : SessionId) : Web (Option AuthUser) :=
  Web.sessionGet session .authUser

/-- The caller may change interfaces and peers. -/
def requireMutate (user : AuthUser) : Web Unit :=
  if user.role.canMutate then pure () else Web.fail .forbidden

end AuthUser

/-! ## Forms -/

/-- The pieces of a text between commas. -/
def splitCommas (s : String) : List String :=
  (IpAddr.splitAt ',' s.toList).map String.ofList

/-- The trimmed text, unless it is blank. -/
def blankToNone (s : String) : Option String :=
  if (Text.trim s).isEmpty then none else some (Text.trim s)

/-- The two ends of a long public key. -/
def shortPk (pk : String) : String :=
  if 12 < pk.utf8ByteSize then
    let first := String.ofList (pk.toList.take 6)
    let last := String.ofList (pk.toList.drop (pk.toList.length - 6))
    s!"{first}...{last}"
  else pk

/-- The text of networks in a form. -/
def displayNets (nets : List IpNet) : String :=
  ", ".intercalate (nets.map IpNet.display)

end Wireforge
