import Wireforge.Infra.Persistence
import Wireforge.Site.Calls

/-!
# Accounts, settings, bans and the audit log

The SQLite repositories of the web server. As for peers and interfaces every method is one
statement, and a statement that writes a row stamps it with the time.
-/

namespace Wireforge

open Effect

/-- A fresh UUID. -/
def siteUuid : Repo Uuid :=
  always (SiteCall.host .uuidV7).request

/-- The time. -/
def siteNow : Repo DateTime :=
  always (SiteCall.host .utcNow).request

namespace SqliteUserRepository

/-- The number of users. -/
def count : Repo Nat :=
  orElse mapErr SiteCall.countUsers.request

/-- The row of a new user, who has no second factor. -/
def newRow (id : Uuid) (now : DateTime) (new : NewUser) : User :=
  { id := ⟨id⟩, username := new.username, email := new.email, passwordHash := new.passwordHash
    role := new.role, totpEnabled := false, totpSecretEncrypted := none, oidcSubject := none
    createdAt := now, updatedAt := now, lastLoginAt := none }

/-- Insert a row for a new user. -/
def create (new : NewUser) : Repo User := do
  let id ← siteUuid
  let now ← siteNow
  let row := newRow id now new
  orElse mapErr (SiteCall.insertUser row).request
  return row

/-- The row with an identifier. -/
def findById (id : Id UserMarker) : Repo (Option User) :=
  orElse mapErr (SiteCall.findUser id).request

/-- The row with a name. -/
def findByUsername (username : String) : Repo (Option User) :=
  orElse mapErr (SiteCall.findUserByName username).request

/-- Set the second factor of a user. -/
def updateTotp (id : Id UserMarker) (enabled : Bool) (secret : Option ByteArray) : Repo Unit := do
  let now ← siteNow
  orElse mapErr (SiteCall.updateTotp id enabled secret now).request

/-- Record a login. -/
def touchLastLogin (id : Id UserMarker) : Repo Unit := do
  let now ← siteNow
  orElse mapErr (SiteCall.touchLastLogin id now).request

end SqliteUserRepository

namespace SqliteApiTokenRepository

/-- The row of a new token. -/
def newRow (id : Uuid) (now : DateTime) (new : NewApiToken) : ApiToken :=
  { id := ⟨id⟩, userId := new.userId, name := new.name, tokenHash := new.tokenHash
    scopes := new.scopes, createdAt := now, expiresAt := new.expiresAt, revokedAt := none }

/-- Insert a row for a new token. -/
def create (new : NewApiToken) : Repo ApiToken := do
  let id ← siteUuid
  let now ← siteNow
  let row := newRow id now new
  orElse mapErr (SiteCall.insertToken row).request
  return row

/-- The row of a hash, unless it is revoked. -/
def findActiveByHash (hash : String) : Repo (Option ApiToken) :=
  orElse mapErr (SiteCall.findActiveToken hash).request

/-- The tokens of a user, the newest first. -/
def listForUser (user : Id UserMarker) : Repo (List ApiToken) :=
  orElse mapErr (SiteCall.listTokens user).request

/-- Revoke a token of its owner; it is an error if there is none to revoke. -/
def revoke (id : Id ApiTokenMarker) (owner : Id UserMarker) : Repo Unit := do
  let now ← siteNow
  let count ← orElse mapErr (SiteCall.revokeToken id owner now).request
  if count = 0 then
    throw (.notFound s!"api token {id.display}")

end SqliteApiTokenRepository

namespace SqliteSettingsRepository

/-- All settings. -/
def all : Repo (List (String × String)) :=
  orElse mapErr SiteCall.allSettings.request

/-- Write a setting. -/
def upsert (key value : String) (actor : Option (Id UserMarker)) : Repo Unit := do
  let now ← siteNow
  orElse mapErr (SiteCall.upsertSetting key value actor now).request

end SqliteSettingsRepository

namespace SqliteAuditRepository

/-- Append an event. -/
def record (actor : Option (Id UserMarker)) (actorIp : Option String) (action : AuditAction)
    (resourceType resourceId : Option String) (metadata : Option Json.Object) : Repo Unit := do
  let now ← siteNow
  orElse mapErr (SiteCall.insertAudit
    ⟨actor, actorIp, action, resourceType, resourceId, metadata, now⟩).request

/-- The newest events, the newest first. -/
def list (limit : Nat) : Repo (List AuditEvent) :=
  orElse mapErr (SiteCall.listAudit limit).request

end SqliteAuditRepository

namespace SqliteBanRepository

/-- Read the row of an IP. -/
def findRow (ip : String) : Repo (Option IpBan) :=
  orElse mapErr (SiteCall.findBan ip).request

/-- Run the transaction that records a failed login. Its own error is handed to the caller; the end
of the process is not. -/
def recordRow {ε : Type} (ip : String) (maxAttempts : UInt32) (lockout : Duration) :
    Fallible SiteCall SiteCall.Reply (Stop ε) (Except CoreError IpBan) := do
  let result ← orElse .panic (SiteCall.recordFailure ip maxAttempts lockout).request
  return result.mapError mapErr

/-- Delete the row of an IP. -/
def clearRow (ip : String) : Repo Unit :=
  orElse mapErr (SiteCall.clearBan ip).request

end SqliteBanRepository

namespace SqliteTrafficRepository

/-- The last counters of every peer. -/
def latestPerPeer : Repo (List PeerTrafficRow) :=
  orElse mapErr SiteCall.latestPerPeer.request

/-- The sums of every minute since a time. -/
def seriesTotals (since : DateTime) : Repo (List SeriesPoint) :=
  orElse mapErr (SiteCall.seriesTotals since).request

end SqliteTrafficRepository

end Wireforge
