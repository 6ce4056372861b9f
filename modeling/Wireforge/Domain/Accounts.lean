import Wireforge.Domain.Time
import Wireforge.Lib.Json

/-!
# Accounts

The rows of the `users`, `api_tokens`, `settings` and `audit_events` tables, and the rights of the
roles.
-/

namespace Wireforge

/-- The roles of users. -/
inductive Role where
  | admin
  | operator
  | auditor
  | viewer
  deriving DecidableEq, Repr

namespace Role

/-- Interfaces and peers may be changed. -/
def canMutate : Role → Bool
  | admin | operator => true
  | auditor | viewer => false

/-- The audit log may be read. -/
def canReadAudit : Role → Bool
  | admin | auditor => true
  | operator | viewer => false

/-- The settings may be changed. -/
def canManageSettings : Role → Bool
  | admin => true
  | operator | auditor | viewer => false

/-- The name of a role. -/
def asStr : Role → String
  | admin => "admin"
  | operator => "operator"
  | auditor => "auditor"
  | viewer => "viewer"

/-- The roles, in the order in which a name is compared with theirs. -/
def all : List Role := [admin, operator, auditor, viewer]

/-- Read the name of a role, whatever the case of its letters. -/
def fromStr (s : String) : Except String Role :=
  match all.find? (·.asStr = s.toLower) with
  | some role => .ok role
  | none => .error s!"unknown role: {s.toLower}"

/-- The name of a role is read as the role. -/
theorem from_str_as_str (role : Role) : fromStr role.asStr = .ok role := by
  cases role <;> decide +kernel

/-- Whoever may change the settings may change interfaces and peers. -/
theorem can_mutate_of_settings {role : Role} (h : role.canManageSettings = true) :
    role.canMutate = true := by
  cases role with
  | admin => rfl
  | operator | auditor | viewer => cases h

end Role

/-- A row of `users`. -/
structure User where
  id : Id UserMarker
  username : String
  email : Option String
  passwordHash : String
  role : Role
  totpEnabled : Bool
  totpSecretEncrypted : Option ByteArray
  oidcSubject : Option String
  createdAt : DateTime
  updatedAt : DateTime
  lastLoginAt : Option DateTime

/-- The fields of a new user. -/
structure NewUser where
  username : String
  email : Option String
  passwordHash : String
  role : Role

inductive ApiTokenMarker

/-- A row of `api_tokens`: of the token itself only a hash is kept. -/
structure ApiToken where
  id : Id ApiTokenMarker
  userId : Id UserMarker
  name : String
  tokenHash : String
  scopes : List String
  createdAt : DateTime
  expiresAt : Option DateTime
  revokedAt : Option DateTime

/-- The token is not revoked, and its expiry, if it has one, is still to come. -/
def ApiToken.isActive (token : ApiToken) (now : DateTime) : Bool :=
  token.revokedAt.isNone && token.expiresAt.all (now < ·)

/-- The fields of a new token. -/
structure NewApiToken where
  userId : Id UserMarker
  name : String
  tokenHash : String
  scopes : List String
  expiresAt : Option DateTime

/-- A row of `settings`. -/
structure SettingRow where
  key : String
  value : String
  updatedBy : Option (Id UserMarker)
  updatedAt : DateTime
  createdAt : DateTime

/-- What is recorded in the audit log. -/
inductive AuditAction where
  | userLogin
  | userLogout
  | userLoginFailed
  | userCreated
  | userDeleted
  | userRoleChanged
  | totpEnabled
  | totpDisabled
  | interfaceCreated
  | interfaceUpdated
  | interfaceDeleted
  | interfaceStarted
  | interfaceStopped
  | peerCreated
  | peerUpdated
  | peerDeleted
  | peerEnabled
  | peerDisabled
  | backupCreated
  | backupRestored
  | settingsUpdated
  deriving DecidableEq, Repr

/-- The name of an action. -/
def AuditAction.asStr : AuditAction → String
  | userLogin => "user.login"
  | userLogout => "user.logout"
  | userLoginFailed => "user.login_failed"
  | userCreated => "user.created"
  | userDeleted => "user.deleted"
  | userRoleChanged => "user.role_changed"
  | totpEnabled => "totp.enabled"
  | totpDisabled => "totp.disabled"
  | interfaceCreated => "interface.created"
  | interfaceUpdated => "interface.updated"
  | interfaceDeleted => "interface.deleted"
  | interfaceStarted => "interface.started"
  | interfaceStopped => "interface.stopped"
  | peerCreated => "peer.created"
  | peerUpdated => "peer.updated"
  | peerDeleted => "peer.deleted"
  | peerEnabled => "peer.enabled"
  | peerDisabled => "peer.disabled"
  | backupCreated => "backup.created"
  | backupRestored => "backup.restored"
  | settingsUpdated => "settings.updated"

/-- A row of `audit_events`, apart from its number. -/
structure AuditEvent where
  actorUserId : Option (Id UserMarker)
  actorIp : Option String
  action : AuditAction
  resourceType : Option String
  resourceId : Option String
  metadata : Option Json.Object
  createdAt : DateTime

end Wireforge
