import Wireforge.Infra.Accounts
import Wireforge.Infra.Rows
import Wireforge.Lib.Stored
import Wireforge.Site.State

/-!
# Stored accounts

The statements on the tables of users, API tokens, settings and audit events, with their positional
parameters and the constraints of the schema, and the decoders of the rows that they return.
-/

namespace Wireforge

open Sql

/-- The functions that store and read columns, among them the parser of JSON objects. -/
structure AccountCrates extends RowCrates where
  parseObject : String → Except String Json.Object

/-- Bind an identifier. -/
def bindId {Marker : Type} (id : Id Marker) : Value :=
  .text id.display

/-! ## Users -/

/-- The columns of `users`. -/
inductive UserColumn where
  | id | username | email | passwordHash | role | totpEnabled | totpSecretEncrypted | oidcSubject
  | createdAt | updatedAt | lastLoginAt
  deriving DecidableEq

namespace Persistence.Users

/-- A row of `users` as it is read. -/
structure UserRow where
  id : String
  username : String
  email : Option String
  passwordHash : String
  role : String
  totpEnabled : Int64
  totpSecretEncrypted : Option ByteArray
  oidcSubject : Option String
  createdAt : DateTime
  updatedAt : DateTime
  lastLoginAt : Option DateTime

namespace UserRow

/-- Read the columns. -/
def fromRow (crates : RowCrates) (row : Row UserColumn) : Except String UserRow := do
  let id ← crates.string (row .id)
  let username ← crates.string (row .username)
  let email ← (row .email).nullable crates.string
  let passwordHash ← crates.string (row .passwordHash)
  let role ← crates.string (row .role)
  let totpEnabled ← crates.int (row .totpEnabled)
  let totpSecretEncrypted ← (row .totpSecretEncrypted).nullable crates.bytes
  let oidcSubject ← (row .oidcSubject).nullable crates.string
  let createdAt ← crates.readTime (row .createdAt)
  let updatedAt ← crates.readTime (row .updatedAt)
  let lastLoginAt ← (row .lastLoginAt).nullable crates.readTime
  return {
    id, username, email, passwordHash, role, totpEnabled, totpSecretEncrypted, oidcSubject,
    createdAt, updatedAt, lastLoginAt }

/-- The user of a row. -/
def intoDomain (crates : RowCrates) (row : UserRow) : Except CoreError User := do
  let id ← (crates.parseUuid row.id).mapError fun e => .persistence s!"user uuid: {e}"
  let role ← (Role.fromStr row.role).mapError fun e => .persistence s!"role: {e}"
  return {
    id := ⟨id⟩
    username := row.username
    email := row.email
    passwordHash := row.passwordHash
    role
    totpEnabled := row.totpEnabled ≠ 0
    totpSecretEncrypted := row.totpSecretEncrypted
    oidcSubject := row.oidcSubject
    createdAt := row.createdAt
    updatedAt := row.updatedAt
    lastLoginAt := row.lastLoginAt }

end UserRow

/-- Insert a user without a second factor. -/
def insert : Insert UserColumn where
  columns := [.id, .username, .email, .passwordHash, .role, .totpEnabled, .totpSecretEncrypted,
    .oidcSubject, .createdAt, .updatedAt]
  values := [.param 1, .param 2, .param 3, .param 4, .param 5, .literal (.integer 0),
    .literal .null, .literal .null, .param 6, .param 6]

/-- Set the password of a user. -/
def passwordUpdate : Update UserColumn where
  sets := [(.passwordHash, .param 1), (.updatedAt, .param 2)]
  wanted := .param 3

/-- Set the second factor of a user. -/
def totpUpdate : Update UserColumn where
  sets := [(.totpEnabled, .param 1), (.totpSecretEncrypted, .param 2), (.updatedAt, .param 3)]
  wanted := .param 4

/-- Record a login. -/
def loginUpdate : Update UserColumn where
  sets := [(.lastLoginAt, .param 1)]
  wanted := .param 2

/-- The rows of `users`. -/
abbrev Rows := Relation UserColumn.id

/-- The constraints of the table, apart from its key. -/
def check (rows : Rows) : Option String :=
  if !rows.distinct .username then some "UNIQUE constraint failed: users.username"
  else if !rows.distinct .email then some "UNIQUE constraint failed: users.email"
  else if !rows.distinct .oidcSubject then some "UNIQUE constraint failed: users.oidc_subject"
  else none

variable (crates : RowCrates)

/-- What the insertion binds. -/
def insertBinds (id : Uuid) (now : DateTime) (new : NewUser) : List Value :=
  [bindId (Id.mk id : Id UserMarker),
    .text new.username,
    .ofOption .text new.email,
    .text new.passwordHash,
    .text new.role.asStr,
    crates.bindTime now]

/-- Insert a row for a new user. -/
def create (id : Uuid) (now : DateTime) (new : NewUser) (rows : Rows) :
    Except CoreError (User × Rows) := do
  let rows ← (Relation.insert check insert (insertBinds crates id now new) rows).mapError mapErr
  return (SqliteUserRepository.newRow id now new, rows)

/-- The user of a row. -/
def decode (row : Row UserColumn) : Except CoreError User := do
  let row ← (UserRow.fromRow crates row).mapError mapErr
  row.intoDomain crates

/-- The number of users. -/
def count (rows : Rows) : Nat :=
  rows.rows.length

/-- The user with an identifier. -/
def findById (id : Id UserMarker) (rows : Rows) : Except CoreError (Option User) :=
  (rows.select (bindId id)).mapM (decode crates)

/-- The user with a name. -/
def findByUsername (username : String) (rows : Rows) : Except CoreError (Option User) :=
  (selectWhere [.equals .username (.param 1)] [.text username] rows.rows).head?.mapM
    (decode crates)

/-- Set the password of a user. -/
def updatePassword (id : Id UserMarker) (hash : String) (now : DateTime) (rows : Rows) :
    Except CoreError Rows :=
  (Relation.update check passwordUpdate [.text hash, crates.bindTime now, bindId id] rfl
    rows).mapError mapErr

/-- Set the second factor of a user. -/
def updateTotp (id : Id UserMarker) (enabled : Bool) (secret : Option ByteArray) (now : DateTime)
    (rows : Rows) : Except CoreError Rows :=
  (Relation.update check totpUpdate
    [.integer enabled.toInt64, .ofOption .blob secret, crates.bindTime now, bindId id] rfl
    rows).mapError mapErr

/-- Record a login. -/
def touchLastLogin (id : Id UserMarker) (now : DateTime) (rows : Rows) : Except CoreError Rows :=
  (Relation.update check loginUpdate [crates.bindTime now, bindId id] rfl rows).mapError mapErr

/-- Every user that the column refers to exists. -/
def refers {κ : Type} (users : Rows) (column : κ) (rows : List (Row κ)) : Bool :=
  rows.all fun row => row column = .null || (users.select (row column)).isSome

end Persistence.Users

/-! ## API tokens -/

/-- The columns of `api_tokens`. -/
inductive TokenColumn where
  | id | userId | name | tokenHash | scopes | createdAt | expiresAt | revokedAt
  deriving DecidableEq

namespace Persistence.Tokens

/-- A row of `api_tokens` as it is read. -/
structure ApiTokenRow where
  id : String
  userId : String
  name : String
  tokenHash : String
  scopes : Option String
  createdAt : DateTime
  expiresAt : Option DateTime
  revokedAt : Option DateTime

namespace ApiTokenRow

/-- Read the columns. -/
def fromRow (crates : RowCrates) (row : Row TokenColumn) : Except String ApiTokenRow := do
  let id ← crates.string (row .id)
  let userId ← crates.string (row .userId)
  let name ← crates.string (row .name)
  let tokenHash ← crates.string (row .tokenHash)
  let scopes ← (row .scopes).nullable crates.string
  let createdAt ← crates.readTime (row .createdAt)
  let expiresAt ← (row .expiresAt).nullable crates.readTime
  let revokedAt ← (row .revokedAt).nullable crates.readTime
  return { id, userId, name, tokenHash, scopes, createdAt, expiresAt, revokedAt }

/-- The token of a row. -/
def intoDomain (crates : RowCrates) (row : ApiTokenRow) : Except CoreError ApiToken := do
  let scopes := crates.readList row.scopes
  let id ← (crates.parseUuid row.id).mapError fun e => .persistence s!"api token uuid: {e}"
  let userId ← (crates.parseUuid row.userId).mapError fun e =>
    .persistence s!"api token user uuid: {e}"
  return {
    id := ⟨id⟩
    userId := ⟨userId⟩
    name := row.name
    tokenHash := row.tokenHash
    scopes
    createdAt := row.createdAt
    expiresAt := row.expiresAt
    revokedAt := row.revokedAt }

end ApiTokenRow

/-- Insert a token. -/
def insert : Insert TokenColumn where
  columns := [.id, .userId, .name, .tokenHash, .scopes, .createdAt, .expiresAt, .revokedAt]
  values := [.param 1, .param 2, .param 3, .param 4, .param 5, .param 6, .param 7, .literal .null]

/-- Revoke a token of its owner, unless it is revoked. -/
def revocation : UpdateWhere TokenColumn where
  sets := [(.revokedAt, .param 1)]
  conditions := [.equals .id (.param 2), .equals .userId (.param 3), .isNull .revokedAt]

/-- The rows of `api_tokens`. -/
abbrev Rows := Relation TokenColumn.id

/-- The constraints of the table, apart from its key. -/
def check (users : Users.Rows) (rows : Rows) : Option String :=
  if !rows.distinct .tokenHash then some "UNIQUE constraint failed: api_tokens.token_hash"
  else if !Users.refers users .userId rows.rows then some "FOREIGN KEY constraint failed"
  else none

variable (crates : RowCrates)

/-- What the insertion binds. -/
def insertBinds (id : Uuid) (now : DateTime) (new : NewApiToken) : List Value :=
  [bindId (Id.mk id : Id ApiTokenMarker),
    bindId new.userId,
    .text new.name,
    .text new.tokenHash,
    .text (crates.listText new.scopes),
    crates.bindTime now,
    .ofOption crates.bindTime new.expiresAt]

/-- Insert a row for a new token. -/
def create (users : Users.Rows) (id : Uuid) (now : DateTime) (new : NewApiToken) (rows : Rows) :
    Except CoreError (ApiToken × Rows) := do
  let rows ← (Relation.insert (check users) insert (insertBinds crates id now new)
    rows).mapError mapErr
  return (SqliteApiTokenRepository.newRow id now new, rows)

/-- The token of a row. -/
def decode (row : Row TokenColumn) : Except CoreError ApiToken := do
  let row ← (ApiTokenRow.fromRow crates row).mapError mapErr
  row.intoDomain crates

/-- The token with a hash, unless it is revoked. -/
def findActiveByHash (hash : String) (rows : Rows) : Except CoreError (Option ApiToken) :=
  (selectWhere [.equals .tokenHash (.param 1), .isNull .revokedAt] [.text hash]
    rows.rows).head?.mapM (decode crates)

/-- The tokens of a user, the newest first. -/
def listForUser (user : Id UserMarker) (rows : Rows) : Except CoreError (List ApiToken) :=
  (descending .createdAt (selectWhere [.equals .userId (.param 1)] [bindId user]
    rows.rows)).mapM (decode crates)

/-- Revoke a token of its owner; it is an error if there is none to revoke. -/
def revoke (users : Users.Rows) (id : Id ApiTokenMarker) (owner : Id UserMarker) (now : DateTime)
    (rows : Rows) : Except CoreError Rows := do
  let (affected, rows) ← (Relation.updateWhere (check users) revocation
    [crates.bindTime now, bindId id, bindId owner] rfl rows).mapError mapErr
  if affected = 0 then .error (.notFound s!"api token {id.display}") else .ok rows

end Persistence.Tokens

/-! ## Settings -/

/-- The columns of `settings`. -/
inductive SettingColumn where
  | key | value | updatedBy | updatedAt | createdAt
  deriving DecidableEq

namespace Persistence.Settings

/-- Insert a setting. -/
def insert : Insert SettingColumn where
  columns := [.key, .value, .updatedBy, .updatedAt, .createdAt]
  values := [.param 1, .param 2, .param 3, .param 4, .param 4]

/-- What the insertion does if the key exists: its values are those that were to be inserted. -/
def onConflict : Update SettingColumn where
  sets := [(.value, .param 2), (.updatedBy, .param 3), (.updatedAt, .param 4)]
  wanted := .param 1

/-- The rows of `settings`. -/
abbrev Rows := Relation SettingColumn.key

/-- The constraint of the table, apart from its key. -/
def check (users : Users.Rows) (rows : Rows) : Option String :=
  if !Users.refers users .updatedBy rows.rows then some "FOREIGN KEY constraint failed" else none

variable (crates : RowCrates)

/-- All settings. -/
def all (rows : Rows) : Except CoreError (List (String × String)) :=
  (rows.rows.mapM fun (row : Row SettingColumn) => do
    let key ← crates.string (row .key)
    let value ← crates.string (row .value)
    return (key, value)).mapError mapErr

/-- What the insertion binds. -/
def upsertBinds (key value : String) (actor : Option (Id UserMarker)) (now : DateTime) :
    List Value :=
  [.text key, .text value, .ofOption bindId actor, crates.bindTime now]

/-- Write a setting. -/
def upsert (users : Users.Rows) (key value : String) (actor : Option (Id UserMarker))
    (now : DateTime) (rows : Rows) : Except CoreError Rows :=
  (Relation.upsert (check users) insert onConflict (upsertBinds crates key value actor now) rfl
    rows).mapError mapErr

end Persistence.Settings

/-! ## Audit events -/

/-- The actions, in the order in which a name is compared with theirs. -/
def AuditAction.all : List AuditAction :=
  [userLogin, userLogout, userLoginFailed, userCreated, userDeleted, userRoleChanged, totpEnabled,
    totpDisabled, interfaceCreated, interfaceUpdated, interfaceDeleted, interfaceStarted,
    interfaceStopped, peerCreated, peerUpdated, peerDeleted, peerEnabled, peerDisabled,
    backupCreated, backupRestored, settingsUpdated]

/-- The columns of `audit_events`. -/
inductive AuditColumn where
  | id | actorUserId | actorIp | action | resourceType | resourceId | metadata | createdAt
  deriving DecidableEq

namespace Persistence.Audit

/-- A row of `audit_events` as it is read. -/
structure AuditRow where
  id : Int64
  actorUserId : Option String
  actorIp : Option String
  action : String
  resourceType : Option String
  resourceId : Option String
  metadata : Option String
  createdAt : DateTime

/-- The action of a name. -/
def parseAction (s : String) : Except CoreError AuditAction :=
  match AuditAction.all.find? (·.asStr = s) with
  | some action => .ok action
  | none => .error (.persistence s!"unknown action: {s}")

namespace AuditRow

/-- Read the columns. -/
def fromRow (crates : RowCrates) (row : Row AuditColumn) : Except String AuditRow := do
  let id ← crates.int (row .id)
  let actorUserId ← (row .actorUserId).nullable crates.string
  let actorIp ← (row .actorIp).nullable crates.string
  let action ← crates.string (row .action)
  let resourceType ← (row .resourceType).nullable crates.string
  let resourceId ← (row .resourceId).nullable crates.string
  let metadata ← (row .metadata).nullable crates.string
  let createdAt ← crates.readTime (row .createdAt)
  return { id, actorUserId, actorIp, action, resourceType, resourceId, metadata, createdAt }

/-- The event of a row, apart from its number. -/
def intoDomain (crates : AccountCrates) (row : AuditRow) : Except CoreError AuditEvent := do
  let actor ← (row.actorUserId.mapM crates.parseUuid).mapError fun e =>
    .persistence s!"audit uuid: {e}"
  let action ← parseAction row.action
  let metadata ← (row.metadata.mapM crates.parseObject).mapError fun e =>
    .persistence s!"audit metadata: {e}"
  return {
    actorUserId := actor.map .mk
    actorIp := row.actorIp
    action
    resourceType := row.resourceType
    resourceId := row.resourceId
    metadata
    createdAt := row.createdAt }

end AuditRow

/-- Insert an event. -/
def insert : Insert AuditColumn where
  columns := [.actorUserId, .actorIp, .action, .resourceType, .resourceId, .metadata, .createdAt]
  values := [.param 1, .param 2, .param 3, .param 4, .param 5, .param 6, .param 7]

/-- The rows of `audit_events` in the order of their numbers. -/
abbrev Rows := List (Row AuditColumn)

variable (crates : AccountCrates)

/-- What the insertion binds. -/
def insertBinds (event : AuditEvent) : List Value :=
  [.ofOption bindId event.actorUserId,
    .ofOption .text event.actorIp,
    .text event.action.asStr,
    .ofOption .text event.resourceType,
    .ofOption .text event.resourceId,
    .ofOption .text (event.metadata.map Json.display),
    crates.bindTime event.createdAt]

/-- Append an event. The new row has the next number. -/
def record (users : Users.Rows) (event : AuditEvent) (rows : Rows) : Except CoreError Rows :=
  let row := Function.update (insert.newRow (insertBinds crates event)) .id
    (.integer (Int64.ofNat (rows.length + 1)))
  if Users.refers users .actorUserId [row] then .ok (rows ++ [row])
  else .error (mapErr "FOREIGN KEY constraint failed")

/-- The event of a row. -/
def decode (row : Row AuditColumn) : Except CoreError AuditEvent := do
  let row ← (AuditRow.fromRow crates.toRowCrates row).mapError mapErr
  row.intoDomain crates

/-- The newest events, the newest first. -/
def list (limit : Nat) (rows : Rows) : Except CoreError (List AuditEvent) :=
  ((descending .createdAt rows).take limit).mapM (decode crates)

end Persistence.Audit

/-! ## All tables -/

/-- The stored accounts. -/
structure AccountRows where
  users : Persistence.Users.Rows
  tokens : Persistence.Tokens.Rows
  settings : Persistence.Settings.Rows
  audit : Persistence.Audit.Rows

/-- The tables after the migrations. -/
def AccountRows.empty : AccountRows where
  users := .empty
  tokens := .empty
  settings := .empty
  audit := []

/-- The statements that write accounts, settings and audit events. -/
inductive AccountStatement where
  | createUser (id : Uuid) (now : DateTime) (new : NewUser)
  | updatePassword (id : Id UserMarker) (hash : String) (now : DateTime)
  | updateTotp (id : Id UserMarker) (enabled : Bool) (secret : Option ByteArray) (now : DateTime)
  | touchLastLogin (id : Id UserMarker) (now : DateTime)
  | createToken (id : Uuid) (now : DateTime) (new : NewApiToken)
  | revokeToken (id : Id ApiTokenMarker) (owner : Id UserMarker) (now : DateTime)
  | upsertSetting (key value : String) (actor : Option (Id UserMarker)) (now : DateTime)
  | record (event : AuditEvent)

/-- Run a statement on the stored rows. -/
def AccountStatement.execute (crates : AccountCrates) (rows : AccountRows) :
    AccountStatement → Except CoreError AccountRows
  | createUser id now new => do
      let (_, users) ← Persistence.Users.create crates.toRowCrates id now new rows.users
      return { rows with users }
  | updatePassword id hash now => do
      let users ← Persistence.Users.updatePassword crates.toRowCrates id hash now rows.users
      return { rows with users }
  | updateTotp id enabled secret now => do
      let users ← Persistence.Users.updateTotp crates.toRowCrates id enabled secret now rows.users
      return { rows with users }
  | touchLastLogin id now => do
      let users ← Persistence.Users.touchLastLogin crates.toRowCrates id now rows.users
      return { rows with users }
  | createToken id now new => do
      let (_, tokens) ← Persistence.Tokens.create crates.toRowCrates rows.users id now new
        rows.tokens
      return { rows with tokens }
  | revokeToken id owner now => do
      let tokens ← Persistence.Tokens.revoke crates.toRowCrates rows.users id owner now rows.tokens
      return { rows with tokens }
  | upsertSetting key value actor now => do
      let settings ← Persistence.Settings.upsert crates.toRowCrates rows.users key value actor now
        rows.settings
      return { rows with settings }
  | record event => do
      let audit ← Persistence.Audit.record crates rows.users event rows.audit
      return { rows with audit }

/-- Run a statement on the decoded tables. -/
def AccountStatement.apply (accounts : Accounts) : AccountStatement → Except CoreError Accounts
  | createUser id now new =>
      (accounts.insertUser (SqliteUserRepository.newRow id now new)).mapError mapErr
  | updatePassword id hash now => .ok (accounts.updatePassword id hash now)
  | updateTotp id enabled secret now => .ok (accounts.updateTotp id enabled secret now)
  | touchLastLogin id now => .ok (accounts.touchLastLogin id now)
  | createToken id now new =>
      (accounts.insertToken (SqliteApiTokenRepository.newRow id now new)).mapError mapErr
  | revokeToken id owner now =>
      if (accounts.revokeToken id owner now).1 = 0 then
        .error (.notFound s!"api token {id.display}")
      else .ok (accounts.revokeToken id owner now).2
  | upsertSetting key value actor now =>
      (accounts.upsertSetting key value actor now).mapError mapErr
  | record event => (accounts.insertAudit event).mapError mapErr

end Wireforge
