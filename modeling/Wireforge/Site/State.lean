import Wireforge.Host.World
import Wireforge.Site.Calls

/-!
# The web server

`Site` is the state behind the calls of the handlers: the host, the tables of accounts, settings
and audit events with their constraints, the bans, the live settings and the sessions.
`serve outage` gives every call its meaning; `Outage` chooses the calls that fail. A failed call
changes nothing.
-/

namespace Wireforge

open Effect

/-! ## Accounts -/

/-- The tables of the web server. User names, e-mail addresses and token hashes are unique, and
every token belongs to a user, as the schema demands. -/
structure Accounts where
  users : Table User.id
  tokens : Table ApiToken.id
  settings : Table SettingRow.key
  audit : List AuditEvent
  uniqueNames : (users.rows.map User.username).Nodup
  uniqueEmails : (users.rows.filterMap User.email).Nodup
  uniqueHashes : (tokens.rows.map ApiToken.tokenHash).Nodup
  owners : ∀ token ∈ tokens.rows, (users.find token.userId).isSome

namespace Accounts

/-- The tables of a fresh installation. -/
def empty : Accounts where
  users := .empty
  tokens := .empty
  settings := .empty
  audit := []
  uniqueNames := by simp [Table.empty]
  uniqueEmails := by simp [Table.empty]
  uniqueHashes := by simp [Table.empty]
  owners := by simp [Table.empty]

/-- `SELECT * FROM users WHERE username = ?`. -/
def findUserByName (accounts : Accounts) (username : String) : Option User :=
  accounts.users.rows.find? (·.username = username)

/-- `SELECT * FROM api_tokens WHERE token_hash = ? AND revoked_at IS NULL`. -/
def findActiveToken (accounts : Accounts) (hash : String) : Option ApiToken :=
  accounts.tokens.rows.find? fun token => token.tokenHash = hash ∧ token.revokedAt.isNone

/-- `SELECT * FROM api_tokens WHERE user_id = ? ORDER BY created_at DESC`. -/
def tokensOf (accounts : Accounts) (user : Id UserMarker) : List ApiToken :=
  (sortedBy ApiToken.createdAt (accounts.tokens.rows.filter (·.userId = user))).reverse

/-- The user of a row with a reference, if it has one, exists. -/
def knows (accounts : Accounts) (user : Option (Id UserMarker)) : Bool :=
  user.all fun id => (accounts.users.find id).isSome

/-- `INSERT INTO users`. -/
def insertUser (accounts : Accounts) (row : User) : Except String Accounts :=
  if hid : accounts.users.find row.id = none then
    if hname : row.username ∉ accounts.users.rows.map User.username then
      if hemail : ∀ email ∈ row.email, email ∉ accounts.users.rows.filterMap User.email then
        .ok { accounts with
          users := accounts.users.insert row hid
          uniqueNames := by
            rw [Table.insert, List.map_append, List.nodup_append]
            refine ⟨accounts.uniqueNames, by simp, fun name hold name' hnew heq => ?_⟩
            simp only [List.map_cons, List.map_nil, List.mem_singleton] at hnew
            exact hname (hnew ▸ heq ▸ hold)
          uniqueEmails := by
            rw [Table.insert, List.filterMap_append, List.nodup_append]
            refine ⟨accounts.uniqueEmails, ?_, fun email hold email' hnew heq => ?_⟩
            · cases hrow : row.email <;> simp [hrow]
            · simp only [List.filterMap_cons, List.filterMap_nil] at hnew
              split at hnew
              · cases hnew
              · rename_i hrow
                obtain rfl := List.mem_singleton.mp hnew
                exact hemail _ hrow (heq ▸ hold)
          owners := fun token htoken => by
            obtain ⟨user, huser⟩ := Option.isSome_iff_exists.mp (accounts.owners token htoken)
            have hmem := Table.find_eq_some.mp huser
            rw [Table.find_eq_some.mpr ⟨Table.mem_insert.mpr (.inl hmem.1), hmem.2⟩]
            rfl }
      else .error "UNIQUE constraint failed: users.email"
    else .error "UNIQUE constraint failed: users.username"
  else .error "UNIQUE constraint failed: users.id"

/-- An `UPDATE users` statement that touches neither identifiers nor names nor addresses. -/
def modifyUsers (accounts : Accounts) (f : User → User) (hid : ∀ user, (f user).id = user.id)
    (hname : ∀ user, (f user).username = user.username)
    (hemail : ∀ user, (f user).email = user.email) : Accounts :=
  { accounts with
    users := accounts.users.modify f hid
    uniqueNames := by
      rw [Table.modify, List.map_map, show User.username ∘ f = User.username from funext hname]
      exact accounts.uniqueNames
    uniqueEmails := by
      rw [Table.modify, List.filterMap_map, show User.email ∘ f = User.email from funext hemail]
      exact accounts.uniqueEmails
    owners := fun token htoken => by
      rw [Table.find_modify, Option.isSome_map]
      exact accounts.owners token htoken }

/-- The row an `UPDATE users SET totp_enabled = …` statement leaves. -/
def setTotp (id : Id UserMarker) (enabled : Bool) (secret : Option ByteArray) (now : DateTime)
    (user : User) : User :=
  if user.id = id then
    { user with totpEnabled := enabled, totpSecretEncrypted := secret, updatedAt := now }
  else user

/-- `UPDATE users SET totp_enabled = ?, totp_secret_encrypted = ?, updated_at = ? WHERE id = ?`. -/
def updateTotp (accounts : Accounts) (id : Id UserMarker) (enabled : Bool)
    (secret : Option ByteArray) (now : DateTime) : Accounts :=
  accounts.modifyUsers (setTotp id enabled secret now)
    (fun user => by unfold setTotp; split <;> rfl)
    (fun user => by unfold setTotp; split <;> rfl) (fun user => by unfold setTotp; split <;> rfl)

/-- The row an `UPDATE users SET password_hash = …` statement leaves. -/
def setPassword (id : Id UserMarker) (hash : String) (now : DateTime) (user : User) : User :=
  if user.id = id then { user with passwordHash := hash, updatedAt := now } else user

/-- `UPDATE users SET password_hash = ?, updated_at = ? WHERE id = ?`. -/
def updatePassword (accounts : Accounts) (id : Id UserMarker) (hash : String) (now : DateTime) :
    Accounts :=
  accounts.modifyUsers (setPassword id hash now)
    (fun user => by unfold setPassword; split <;> rfl)
    (fun user => by unfold setPassword; split <;> rfl)
    (fun user => by unfold setPassword; split <;> rfl)

/-- The row an `UPDATE users SET last_login_at = …` statement leaves. -/
def setLastLogin (id : Id UserMarker) (now : DateTime) (user : User) : User :=
  if user.id = id then { user with lastLoginAt := some now } else user

/-- `UPDATE users SET last_login_at = ? WHERE id = ?`. -/
def touchLastLogin (accounts : Accounts) (id : Id UserMarker) (now : DateTime) : Accounts :=
  accounts.modifyUsers (setLastLogin id now) (fun user => by unfold setLastLogin; split <;> rfl)
    (fun user => by unfold setLastLogin; split <;> rfl)
    (fun user => by unfold setLastLogin; split <;> rfl)

/-- `INSERT INTO api_tokens`. -/
def insertToken (accounts : Accounts) (row : ApiToken) : Except String Accounts :=
  if hid : accounts.tokens.find row.id = none then
    if hhash : row.tokenHash ∉ accounts.tokens.rows.map ApiToken.tokenHash then
      if howner : (accounts.users.find row.userId).isSome then
        .ok { accounts with
          tokens := accounts.tokens.insert row hid
          uniqueHashes := by
            rw [Table.insert, List.map_append, List.nodup_append]
            refine ⟨accounts.uniqueHashes, by simp, fun hash hold hash' hnew heq => ?_⟩
            simp only [List.map_cons, List.map_nil, List.mem_singleton] at hnew
            exact hhash (hnew ▸ heq ▸ hold)
          owners := fun token htoken => by
            rcases Table.mem_insert.mp htoken with htoken | rfl
            · exact accounts.owners token htoken
            · exact howner }
      else .error "FOREIGN KEY constraint failed"
    else .error "UNIQUE constraint failed: api_tokens.token_hash"
  else .error "UNIQUE constraint failed: api_tokens.id"

/-- The rows that a revocation applies to. -/
def revocable (id : Id ApiTokenMarker) (owner : Id UserMarker) (token : ApiToken) : Bool :=
  token.id = id && token.userId = owner && token.revokedAt.isNone

/-- The row a revocation leaves. -/
def setRevoked (id : Id ApiTokenMarker) (owner : Id UserMarker) (now : DateTime)
    (token : ApiToken) : ApiToken :=
  if revocable id owner token then { token with revokedAt := some now } else token

@[simp] theorem set_revoked_id (id : Id ApiTokenMarker) (owner : Id UserMarker) (now : DateTime)
    (token : ApiToken) : (setRevoked id owner now token).id = token.id := by
  unfold setRevoked
  split <;> rfl

@[simp] theorem set_revoked_hash (id : Id ApiTokenMarker) (owner : Id UserMarker)
    (now : DateTime) (token : ApiToken) :
    (setRevoked id owner now token).tokenHash = token.tokenHash := by
  unfold setRevoked
  split <;> rfl

@[simp] theorem set_revoked_user (id : Id ApiTokenMarker) (owner : Id UserMarker)
    (now : DateTime) (token : ApiToken) :
    (setRevoked id owner now token).userId = token.userId := by
  unfold setRevoked
  split <;> rfl

/-- `UPDATE api_tokens SET revoked_at = ? WHERE id = ? AND user_id = ? AND revoked_at IS NULL`:
the number of rows and the table after it. -/
def revokeToken (accounts : Accounts) (id : Id ApiTokenMarker) (owner : Id UserMarker)
    (now : DateTime) : Nat × Accounts :=
  (accounts.tokens.rows.countP (revocable id owner),
    { accounts with
      tokens := accounts.tokens.modify (setRevoked id owner now) (set_revoked_id id owner now)
      uniqueHashes := by
        rw [Table.modify, List.map_map,
          show ApiToken.tokenHash ∘ setRevoked id owner now = ApiToken.tokenHash from
            funext (set_revoked_hash id owner now)]
        exact accounts.uniqueHashes
      owners := fun token htoken => by
        obtain ⟨old, hold, rfl⟩ := Table.mem_modify.mp htoken
        rw [set_revoked_user]
        exact accounts.owners old hold })

/-- `SELECT key, value FROM settings`. -/
def settingEntries (accounts : Accounts) : List (String × String) :=
  accounts.settings.rows.map fun row => (row.key, row.value)

/-- `INSERT INTO settings … ON CONFLICT(key) DO UPDATE`. -/
def upsertSetting (accounts : Accounts) (key value : String) (actor : Option (Id UserMarker))
    (now : DateTime) : Except String Accounts :=
  if accounts.knows actor then
    let created := ((accounts.settings.find key).map SettingRow.createdAt).getD now
    .ok { accounts with settings := accounts.settings.upsert ⟨key, value, actor, now, created⟩ }
  else .error "FOREIGN KEY constraint failed"

/-- `INSERT INTO audit_events`. -/
def insertAudit (accounts : Accounts) (event : AuditEvent) : Except String Accounts :=
  if accounts.knows event.actorUserId then
    .ok { accounts with audit := accounts.audit ++ [event] }
  else .error "FOREIGN KEY constraint failed"

/-- `SELECT * FROM audit_events ORDER BY created_at DESC LIMIT ?`. -/
def auditTail (accounts : Accounts) (limit : Nat) : List AuditEvent :=
  ((sortedBy AuditEvent.createdAt accounts.audit).reverse).take limit

end Accounts

/-! ## Traffic -/

/-- The value of an `INTEGER` column that a counter was bound to, read back as a counter. -/
def storedCounter (n : UInt64) : UInt64 :=
  if n.toNat < 2 ^ 63 then n else 0

/-- The last row of every peer that has one. The statement leaves open which of several rows of the
same time that is; here it is the one stored last. -/
def latestPerPeer (traffic : List TrafficSnapshot) : List PeerTrafficRow :=
  (traffic.map TrafficSnapshot.peerId).dedup.filterMap fun peerId =>
    (sortedBy TrafficSnapshot.recordedAt (traffic.filter (·.peerId = peerId))).getLast?.map
      fun row => ⟨peerId, storedCounter row.tx, storedCounter row.rx, row.lastHandshake⟩

/-- The start of the minute of an instant. That SQLite may round the date up from 23:59:59.9995 on
is left out. -/
def minuteOf (t : DateTime) : DateTime :=
  ⟨t.nanos / (60 * nanosPerSec) * (60 * nanosPerSec)⟩

/-- The sum of a column, which fails when it leaves the range of an `i64`. -/
def sumColumn (column : List Int) : Except String Int :=
  column.foldlM (fun sum n =>
    if -2 ^ 63 ≤ sum + n ∧ sum + n < 2 ^ 63 then .ok (sum + n) else .error "integer overflow") 0

/-- The sums of the counters of every minute since a time. -/
def seriesTotals (traffic : List TrafficSnapshot) (since : DateTime) :
    Except String (List SeriesPoint) := do
  let recent := traffic.filter (since ≤ ·.recordedAt)
  let buckets := sortedBy id (recent.map fun row => minuteOf row.recordedAt).dedup
  buckets.mapM fun bucket => do
    let rows := recent.filter fun row => minuteOf row.recordedAt = bucket
    let tx ← sumColumn (rows.map fun row => asI64 row.tx.toNat)
    let rx ← sumColumn (rows.map fun row => asI64 row.rx.toNat)
    return ⟨bucket, UInt64.ofNat tx.toNat, UInt64.ofNat rx.toNat⟩

/-! ## Sessions -/

/-- What a session holds. -/
structure Session where
  authUser : Option AuthUser
  pendingUser : Option PendingUser
  totpSetup : Option String
  flash : Option Flash

namespace Session

/-- A session that nobody has used. -/
def fresh : Session := ⟨none, none, none, none⟩

/-- The value under a key. -/
def get (session : Session) : (key : SessionKey) → Option key.Value
  | .authUser => session.authUser
  | .pendingUser => session.pendingUser
  | .totpSetup => session.totpSetup
  | .flash => session.flash

/-- Replace the value under a key. -/
def set (session : Session) : (key : SessionKey) → Option key.Value → Session
  | .authUser, value => { session with authUser := value }
  | .pendingUser, value => { session with pendingUser := value }
  | .totpSetup, value => { session with totpSetup := value }
  | .flash, value => { session with flash := value }

end Session

/-! ## The calls -/

/-- What the sources of randomness yield. -/
structure Draws where
  token : TokenSeed
  totp : Seed
  salt : String

/-- The state behind the calls of the handlers. -/
structure Site where
  host : World
  accounts : Accounts
  bans : Bans
  live : RuntimeSettings
  sessions : SessionId → Session
  draws : Draws

/-- The draws of a site whose sources of randomness yield zeros. -/
def Draws.zero : Draws where
  token := ⟨List.replicate 32 0, rfl⟩
  totp := .zero
  salt := ""

/-- A server that nobody has used, with the given settings. -/
def Site.fresh (live : RuntimeSettings) : Site where
  host := .fresh []
  accounts := .empty
  bans := .empty
  live := live
  sessions _ := .fresh
  draws := .zero

/-- The calls that fail: those of the services, and the others with the texts they fail with. A call
ends in the same way whenever a request makes it. The only call that a request makes once more after
an effect, the lookup of a new peer's interface, is a `SiteCall.rereadInterface` then. -/
structure Outage where
  host : Plan
  error : SiteCall → Option String

/-- Nothing fails. -/
def Outage.none : Outage := ⟨.none, fun _ => .none⟩

namespace Outage

variable (outage : Outage)

/-- The outcome of a call that has nothing but a value to return. -/
def outcome {α : Type} (call : SiteCall) (value : α) : Except String α :=
  match outage.error call with
  | some text => .error text
  | .none => .ok value

@[simp] theorem outcome_none {α : Type} (call : SiteCall) (value : α) :
    Outage.none.outcome call value = .ok value := rfl

/-- A call that may fail: it either returns the planned error or has its effect. -/
def run {α : Type} (call : SiteCall) (effect : Site → Except String α × Site) (s : Site) :
    Except String α × Site :=
  match outage.error call with
  | some text => (.error text, s)
  | .none => effect s

/-- A call that reads. -/
def read {α : Type} (call : SiteCall) (value : Site → α) (s : Site) : Except String α × Site :=
  (outage.outcome call (value s), s)

/-- A statement that changes the tables unless a constraint forbids it. -/
def write (call : SiteCall) (change : Accounts → Except String Accounts) :
    Site → Except String Unit × Site :=
  outage.run call fun s =>
    match change s.accounts with
    | .ok accounts => (.ok (), { s with accounts })
    | .error text => (.error text, s)

/-- A call that changes a session. -/
def session (call : SiteCall) (id : SessionId) (change : Session → Session) :
    Site → Except String Unit × Site :=
  outage.run call fun s =>
    (.ok (), { s with sessions := Function.update s.sessions id (change (s.sessions id)) })

end Outage

/-- The meaning of every call. -/
def serve (outage : Outage) : Handler SiteCall SiteCall.Reply Site
  | .host call, s =>
      let (reply, host) := handle outage.host call s.host
      (reply, { s with host })
  | .rereadInterface id, s => outage.read (.rereadInterface id) (·.host.db.interfaces.find id) s
  | .countUsers, s => outage.read .countUsers (·.accounts.users.rows.length) s
  | .findUser id, s => outage.read (.findUser id) (·.accounts.users.find id) s
  | .findUserByName username, s =>
      outage.read (.findUserByName username) (·.accounts.findUserByName username) s
  | .insertUser row, s => outage.write (.insertUser row) (·.insertUser row) s
  | .updateTotp id enabled secret now, s =>
      outage.write (.updateTotp id enabled secret now)
        (fun accounts => .ok (accounts.updateTotp id enabled secret now)) s
  | .touchLastLogin id now, s =>
      outage.write (.touchLastLogin id now)
        (fun accounts => .ok (accounts.touchLastLogin id now)) s
  | .insertToken row, s => outage.write (.insertToken row) (·.insertToken row) s
  | .findActiveToken hash, s =>
      outage.read (.findActiveToken hash) (·.accounts.findActiveToken hash) s
  | .listTokens user, s => outage.read (.listTokens user) (·.accounts.tokensOf user) s
  | .revokeToken id owner now, s =>
      outage.run (.revokeToken id owner now) (fun s =>
        let (count, accounts) := s.accounts.revokeToken id owner now
        (.ok count, { s with accounts })) s
  | .findBan ip, s => outage.read (.findBan ip) (SqliteBanRepository.find ·.bans ip) s
  | .recordFailure ip maxAttempts lockout, s =>
      match outage.error (.recordFailure ip maxAttempts lockout) with
      | some text => (.ok (.error text), s)
      | .none =>
          match SqliteBanRepository.recordFailure s.bans ip maxAttempts lockout s.host.env.now with
          | .ok (ban, bans) => (.ok (.ok ban), { s with bans })
          | .error panic => (.error panic, s)
  | .clearBan ip, s =>
      outage.run (.clearBan ip) (fun s =>
        (.ok (), { s with bans := SqliteBanRepository.clear s.bans ip })) s
  | .upsertSetting key value actor now, s =>
      outage.write (.upsertSetting key value actor now) (·.upsertSetting key value actor now) s
  | .allSettings, s => outage.read .allSettings (·.accounts.settingEntries) s
  | .readSettings, s => (s.live, s)
  | .applyOverrides overrides, s => ((), { s with live := s.live.applyOverrides overrides })
  | .reloadLog level, s => (outage.outcome (.reloadLog level) (), s)
  | .insertAudit event, s => outage.write (.insertAudit event) (·.insertAudit event) s
  | .listAudit limit, s => outage.read (.listAudit limit) (·.accounts.auditTail limit) s
  | .latestPerPeer, s => outage.read .latestPerPeer (latestPerPeer ·.host.db.traffic) s
  | .seriesTotals since, s =>
      outage.run (.seriesTotals since) (fun s => (seriesTotals s.host.db.traffic since, s)) s
  | .getSession id key, s => outage.read (.getSession id key) (fun s => (s.sessions id).get key) s
  | .insertSession id key value, s =>
      outage.session (.insertSession id key value) id (·.set key (some value)) s
  | .removeSession id key, s => outage.session (.removeSession id key) id (·.set key .none) s
  | .drawToken, s => (s.draws.token, s)
  | .drawTotpSecret, s => (s.draws.totp, s)
  | .drawSalt, s => (s.draws.salt, s)

/-- The calls of the services act on the host. -/
theorem site_embedding_acts (outage : Outage) :
    siteEmbedding.Acts (handle outage.host) (serve outage) Site.host
      fun s host => { s with host } where
  reply _ _ := rfl
  state _ _ := rfl
  get_put _ _ := rfl
  put_put _ _ _ := rfl
  put_get _ := rfl

end Wireforge
