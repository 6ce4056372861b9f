import Wireforge.Infra.AccountRows
import Wireforge.Infra.RoundTrip

/-!
# Rows that stand for accounts

Every user, token, setting and event has a row that stands for it, from which it is decoded. The
statements write such rows, and they change them into the rows of what is changed.
-/

namespace Wireforge

open Sql

theorem bind_id_injective {Marker : Type} :
    Function.Injective (bindId : Id Marker → Value) :=
  display_value_injective

theorem bind_id_ne_null {Marker : Type} (id : Id Marker) : bindId id ≠ .null :=
  Value.text_ne_null _

theorem text_injective : Function.Injective Value.text :=
  fun _ _ h => Value.text.inj h

/-- Times of which the libraries read back what they print, and whose texts are in the order of the
times. -/
structure RowCrates.Stamps (crates : RowCrates) (times : DateTime → Prop) : Prop where
  reads : ∀ t, times t → crates.ReadsTime t
  order : ∀ t t', times t → times t' → (crates.printTime t ≤ crates.printTime t' ↔ t ≤ t')

section Stamps

variable {crates : RowCrates} {times : DateTime → Prop} (hstamps : crates.Stamps times)
include hstamps

/-- Times are sorted as their texts are. -/
theorem RowCrates.Stamps.precedes {t t' : DateTime} (ht : times t) (ht' : times t') :
    (crates.bindTime t).precedes (crates.bindTime t') = true ↔ t ≤ t' :=
  decide_eq_true_iff.trans (hstamps.order t t' ht ht')

theorem RowCrates.Stamps.nullable {t : Option DateTime} (ht : ∀ time ∈ t, times time) :
    (Value.ofOption crates.bindTime t).nullable crates.readTime = .ok t :=
  RowCrates.read_time_option fun time htime => hstamps.reads time (ht time htime)

end Stamps

/-! ## Users -/

namespace Persistence.Users

/-- The row that stands for a user. -/
def rowOf (crates : RowCrates) (user : User) : Row UserColumn
  | .id => bindId user.id
  | .username => .text user.username
  | .email => .ofOption .text user.email
  | .passwordHash => .text user.passwordHash
  | .role => .text user.role.asStr
  | .totpEnabled => .integer user.totpEnabled.toInt64
  | .totpSecretEncrypted => .ofOption .blob user.totpSecretEncrypted
  | .oidcSubject => .ofOption .text user.oidcSubject
  | .createdAt => crates.bindTime user.createdAt
  | .updatedAt => crates.bindTime user.updatedAt
  | .lastLoginAt => .ofOption crates.bindTime user.lastLoginAt

/-- What is needed to read a user back. -/
structure ReadsBack (crates : RowCrates) (times : DateTime → Prop) (user : User) : Prop where
  id : crates.ReadsId user.id
  createdAt : times user.createdAt
  updatedAt : times user.updatedAt
  lastLoginAt : ∀ t ∈ user.lastLoginAt, times t

variable {crates : RowCrates} {times : DateTime → Prop} {user : User} {id : Id UserMarker}
  {now : DateTime} {rows : Rows} {users : List User} {binds : List Value}

/-- The row that stands for a user is decoded into the user, whatever the role is. -/
theorem decode_row (hstamps : crates.Stamps times) (h : ReadsBack crates times user) :
    decode crates (rowOf crates user) = .ok user := by
  simp only [decode, UserRow.fromRow, Outcome.bind_ok, Outcome.map_error_ok,
    RowCrates.nullable_string_ok, RowCrates.nullable_bytes_ok, RowCrates.string_ok,
    RowCrates.int_ok]
  refine ⟨_, ⟨_, rfl, _, rfl, _, rfl, _, rfl, _, rfl, _, rfl, _, rfl, _, rfl, _,
    hstamps.reads _ h.createdAt, _, hstamps.reads _ h.updatedAt, _,
    hstamps.nullable h.lastLoginAt, rfl⟩, ?_⟩
  simp only [UserRow.intoDomain, Outcome.bind_ok, Outcome.map_error_ok]
  refine ⟨_, h.id, _, Role.from_str_as_str user.role, ?_⟩
  rw [flag_read]
  rfl

/-- The inserted row stands for the new user. -/
theorem insert_row (crates : RowCrates) (id : Uuid) (now : DateTime) (new : NewUser) :
    insert.newRow (insertBinds crates id now new) =
      rowOf crates (SqliteUserRepository.newRow id now new) := by
  funext column
  cases column <;> rfl

/-- An update of the row of one user changes the row that stands for the user. -/
theorem update_row {statement : Update UserColumn} {changed : User}
    (hwanted : statement.wanted.eval binds = bindId id)
    (hset : ∀ column, (statement.sets.lookup column).elim (rowOf crates user column)
      (Expr.eval binds) = rowOf crates changed column) :
    statement.apply .id binds (rowOf crates user) =
      rowOf crates (if user.id = id then changed else user) := by
  unfold Update.apply
  by_cases hid : user.id = id
  · have hkey : rowOf crates user .id ≠ .null ∧
        rowOf crates user .id = statement.wanted.eval binds :=
      ⟨bind_id_ne_null _, hwanted ▸ congrArg bindId hid⟩
    rw [if_pos hkey, if_pos hid]
    exact funext hset
  · have hkey : rowOf crates user .id ≠ statement.wanted.eval binds := by
      rw [hwanted]
      exact bind_id_injective.ne hid
    rw [if_neg fun h => hkey h.2, if_neg hid]

theorem password_row (crates : RowCrates) (id : Id UserMarker) (hash : String) (now : DateTime)
    (user : User) :
    passwordUpdate.apply .id [.text hash, crates.bindTime now, bindId id] (rowOf crates user) =
      rowOf crates (Accounts.setPassword id hash now user) :=
  update_row rfl fun column => by cases column <;> rfl

theorem totp_row (crates : RowCrates) (id : Id UserMarker) (enabled : Bool)
    (secret : Option ByteArray) (now : DateTime) (user : User) :
    totpUpdate.apply .id [.integer enabled.toInt64, .ofOption .blob secret, crates.bindTime now,
        bindId id] (rowOf crates user) =
      rowOf crates (Accounts.setTotp id enabled secret now user) :=
  update_row rfl fun column => by cases column <;> rfl

theorem login_row (crates : RowCrates) (id : Id UserMarker) (now : DateTime) (user : User) :
    loginUpdate.apply .id [crates.bindTime now, bindId id] (rowOf crates user) =
      rowOf crates (Accounts.setLastLogin id now user) :=
  update_row rfl fun column => by cases column <;> rfl

/-- Users that are not known to an identity provider meet the constraints if they differ in their
names and in their addresses. -/
theorem check_none (hrows : rows.rows = users.map (rowOf crates))
    (hoidc : ∀ user ∈ users, user.oidcSubject = none) :
    check rows = none ↔
      (users.map User.username).Nodup ∧ (users.filterMap User.email).Nodup := by
  have hname : rows.distinct .username = true ↔
      (users.filterMap fun user => some user.username).Nodup :=
    distinct_map hrows (fun _ _ => rfl) text_injective Value.text_ne_null
  have hemail : rows.distinct .email = true ↔ (users.filterMap User.email).Nodup :=
    distinct_map hrows (fun _ _ => rfl) text_injective Value.text_ne_null
  have hsubject : rows.distinct .oidcSubject = true ↔ (users.filterMap User.oidcSubject).Nodup :=
    distinct_map hrows (fun _ _ => rfl) text_injective Value.text_ne_null
  rw [List.filterMap_eq_map'] at hname
  -- Without subjects the third constraint says nothing.
  rw [List.filterMap_eq_nil_iff.mpr hoidc] at hsubject
  unfold check
  rw [hsubject.mpr List.nodup_nil]
  cases hdistinct : rows.distinct .username with
  | false => simp [← hname, hdistinct]
  | true =>
      cases hdistinct' : rows.distinct .email with
      | false => simp [← hemail, hdistinct']
      | true => simp [← hname, ← hemail, hdistinct, hdistinct']

/-- A column of references is one of users that exist. -/
theorem refers_map {κ ρ : Type} {print : ρ → Row κ} {xs : List ρ} {column : κ}
    {reference : ρ → Option (Id UserMarker)} {table : Table User.id}
    (hrows : rows.rows = table.rows.map (rowOf crates))
    (h : ∀ x ∈ xs, print x column = .ofOption bindId (reference x)) :
    refers rows column (xs.map print) = true ↔
      ∀ x ∈ xs, ∀ id ∈ reference x, (table.find id).isSome = true := by
  have hselect (id : Id UserMarker) :
      (rows.select (bindId id)).isSome = (table.find id).isSome := by
    rw [select_map hrows (fun _ => rfl) bind_id_injective bind_id_ne_null, Option.isSome_map]
  unfold refers
  rw [List.all_map, List.all_eq_true]
  refine forall₂_congr fun x hx => ?_
  show (decide (print x column = .null) || (rows.select (print x column)).isSome) = true ↔ _
  rw [h x hx]
  cases reference x with
  | none => simp [Value.ofOption]
  | some id => simp [Value.ofOption, hselect, bind_id_ne_null]

end Persistence.Users

/-! ## API tokens -/

namespace Persistence.Tokens

/-- The row that stands for a token. -/
def rowOf (crates : RowCrates) (token : ApiToken) : Row TokenColumn
  | .id => bindId token.id
  | .userId => bindId token.userId
  | .name => .text token.name
  | .tokenHash => .text token.tokenHash
  | .scopes => .text (crates.listText token.scopes)
  | .createdAt => crates.bindTime token.createdAt
  | .expiresAt => .ofOption crates.bindTime token.expiresAt
  | .revokedAt => .ofOption crates.bindTime token.revokedAt

/-- What is needed to read a token back. -/
structure ReadsBack (crates : RowCrates) (times : DateTime → Prop) (token : ApiToken) : Prop where
  id : crates.ReadsId token.id
  userId : crates.ReadsId token.userId
  scopes : crates.ReadsList token.scopes
  createdAt : times token.createdAt
  expiresAt : ∀ t ∈ token.expiresAt, times t
  revokedAt : ∀ t ∈ token.revokedAt, times t

variable {crates : RowCrates} {times : DateTime → Prop} {token : ApiToken} {now : DateTime}
  {rows : Rows} {tokens : List ApiToken}

theorem decode_row (hstamps : crates.Stamps times) (h : ReadsBack crates times token) :
    decode crates (rowOf crates token) = .ok token := by
  simp only [decode, ApiTokenRow.fromRow, Outcome.bind_ok, Outcome.map_error_ok,
    RowCrates.nullable_string_ok, RowCrates.string_ok]
  refine ⟨_, ⟨_, rfl, _, rfl, _, rfl, _, rfl, some _, rfl, _, hstamps.reads _ h.createdAt, _,
    hstamps.nullable h.expiresAt, _, hstamps.nullable h.revokedAt, rfl⟩, ?_⟩
  simp only [ApiTokenRow.intoDomain, Outcome.bind_ok, Outcome.map_error_ok]
  refine ⟨_, h.id, _, h.userId, ?_⟩
  rw [RowCrates.read_list_text h.scopes]
  rfl

theorem insert_row (crates : RowCrates) (id : Uuid) (now : DateTime) (new : NewApiToken) :
    insert.newRow (insertBinds crates id now new) =
      rowOf crates (SqliteApiTokenRepository.newRow id now new) := by
  funext column
  cases column <;> rfl

/-- The column of the revocation is `NULL` as long as the token is not revoked. -/
theorem revoked_null (token : ApiToken) :
    decide (rowOf crates token .revokedAt = .null) = token.revokedAt.isNone := by
  show decide (Value.ofOption crates.bindTime token.revokedAt = .null) = _
  cases token.revokedAt with
  | none => rfl
  | some t => exact decide_eq_false (Value.text_ne_null _)

/-- A column that holds an identifier holds another one if it is of another value. -/
theorem equals_id {Marker : Type} (id id' : Id Marker) :
    (decide (bindId id ≠ .null) && decide (bindId id = bindId id')) = decide (id = id') := by
  simp [bind_id_ne_null, bind_id_injective.eq_iff]

theorem revocation_meets (crates : RowCrates) (id : Id ApiTokenMarker) (owner : Id UserMarker)
    (now : DateTime) (token : ApiToken) :
    meets revocation.conditions [crates.bindTime now, bindId id, bindId owner]
        (rowOf crates token) =
      Accounts.revocable id owner token := by
  show ((decide (bindId token.id ≠ .null) && decide (bindId token.id = bindId id)) &&
    ((decide (bindId token.userId ≠ .null) && decide (bindId token.userId = bindId owner)) &&
      (decide (rowOf crates token .revokedAt = .null) && true))) = _
  -- The conditions on the identifiers are those of the model, since no identifier is `NULL`.
  rw [equals_id, equals_id, revoked_null, Bool.and_true, Accounts.revocable, Bool.and_assoc]

/-- The rows of a revocation are those of the tokens that are revoked. -/
theorem revocation_row (crates : RowCrates) (id : Id ApiTokenMarker) (owner : Id UserMarker)
    (now : DateTime) (token : ApiToken) :
    revocation.apply [crates.bindTime now, bindId id, bindId owner] (rowOf crates token) =
      rowOf crates (Accounts.setRevoked id owner now token) := by
  unfold UpdateWhere.apply Accounts.setRevoked
  rw [revocation_meets]
  split
  · funext column
    cases column <;> rfl
  · rfl

/-- Tokens meet the constraints if they differ in their hashes and belong to users that exist. -/
theorem check_none {users : Users.Rows} {table : Table User.id}
    (husers : users.rows = table.rows.map (Users.rowOf crates))
    (hrows : rows.rows = tokens.map (rowOf crates)) :
    check users rows = none ↔ (tokens.map ApiToken.tokenHash).Nodup ∧
      ∀ token ∈ tokens, (table.find token.userId).isSome = true := by
  have hhash : rows.distinct .tokenHash = true ↔
      (tokens.filterMap fun token => some token.tokenHash).Nodup :=
    distinct_map hrows (fun _ _ => rfl) text_injective Value.text_ne_null
  have howner : Users.refers users .userId rows.rows = true ↔
      ∀ token ∈ tokens, ∀ id ∈ some token.userId, (table.find id).isSome = true := by
    rw [hrows]
    exact Users.refers_map husers fun _ _ => rfl
  rw [List.filterMap_eq_map'] at hhash
  simp only [Option.mem_some_iff, forall_eq'] at howner
  unfold check
  cases hdistinct : rows.distinct .tokenHash with
  | false => simp [← hhash, hdistinct]
  | true =>
      cases hrefers : Users.refers users .userId rows.rows with
      | false => simp [← howner, hrefers]
      | true => simp [← hhash, ← howner, hdistinct, hrefers]

end Persistence.Tokens

/-! ## Settings -/

namespace Persistence.Settings

/-- The row that stands for a setting. -/
def rowOf (crates : RowCrates) (setting : SettingRow) : Row SettingColumn
  | .key => .text setting.key
  | .value => .text setting.value
  | .updatedBy => .ofOption bindId setting.updatedBy
  | .updatedAt => crates.bindTime setting.updatedAt
  | .createdAt => crates.bindTime setting.createdAt

variable {crates : RowCrates} {rows : Rows} {settings : List SettingRow}

theorem all_rows (hrows : rows.rows = settings.map (rowOf crates)) :
    all crates rows = .ok (settings.map fun setting => (setting.key, setting.value)) := by
  unfold all
  rw [hrows, Outcome.map_error_ok, Outcome.map_m_ok, List.forall₂_map_left_iff,
    List.forall₂_map_right_iff, List.forall₂_same]
  exact fun setting _ => rfl

/-- Settings meet the constraint if whoever has changed them exists. -/
theorem check_none {users : Users.Rows} {table : Table User.id}
    (husers : users.rows = table.rows.map (Users.rowOf crates))
    (hrows : rows.rows = settings.map (rowOf crates)) :
    check users rows = none ↔
      ∀ setting ∈ settings, ∀ id ∈ setting.updatedBy, (table.find id).isSome = true := by
  have hrefers : Users.refers users .updatedBy rows.rows = true ↔
      ∀ setting ∈ settings, ∀ id ∈ setting.updatedBy, (table.find id).isSome = true := by
    rw [hrows]
    exact Users.refers_map husers fun _ _ => rfl
  rw [← hrefers]
  unfold check
  cases Users.refers users .updatedBy rows.rows with
  | false => simp
  | true => simp

section Upserts

variable (key value : String) (actor : Option (Id UserMarker)) (now : DateTime)

/-- A setting that exists keeps the time of its creation. -/
theorem conflict_row (old : SettingRow) :
    onConflict.apply .key (upsertBinds crates key value actor now) (rowOf crates old) =
      rowOf crates (if old.key = key then ⟨key, value, actor, now, old.createdAt⟩ else old) := by
  unfold Update.apply
  by_cases hold : old.key = key
  · have hkey : rowOf crates old .key ≠ .null ∧ rowOf crates old .key =
        onConflict.wanted.eval (upsertBinds crates key value actor now) :=
      ⟨Value.text_ne_null _, congrArg Value.text hold⟩
    rw [if_pos hkey, if_pos hold]
    funext column
    cases column with
    | key => exact congrArg Value.text hold
    | value | updatedBy | updatedAt | createdAt => rfl
  · have hkey : rowOf crates old .key ≠
        onConflict.wanted.eval (upsertBinds crates key value actor now) :=
      text_injective.ne hold
    rw [if_neg fun h => hkey h.2, if_neg hold]

/-- Writing a setting writes its row. -/
theorem upsert_rows (users : Users.Rows) {table : Table SettingRow.key}
    (hrows : rows.rows = table.rows.map (rowOf crates)) :
    ∃ rows' : Rows, rows'.rows = (table.upsert ⟨key, value, actor, now,
        ((table.find key).map SettingRow.createdAt).getD now⟩).rows.map (rowOf crates) ∧
      Relation.upsert (check users) insert onConflict (upsertBinds crates key value actor now) rfl
        rows = Relation.commit (check users) rows' := by
  refine upsert_map (check users) rfl hrows (fun _ => rfl) text_injective rfl
    (fun hnone => ?_) fun old hold => ?_
  · rw [hnone]
    funext column
    cases column <;> rfl
  · rw [conflict_row]
    by_cases hkey : old.key = key
    · have hfind : table.find key = some old := Table.find_eq_some.mpr ⟨hold, hkey⟩
      rw [if_pos hkey, if_pos hkey, hfind]
      rfl
    · rw [if_neg hkey, if_neg hkey]

end Upserts

end Persistence.Settings

/-! ## Audit events -/

/-- The name of an action is read as the action. -/
theorem Persistence.Audit.parse_action_as_str (action : AuditAction) :
    Persistence.Audit.parseAction action.asStr = .ok action := by
  cases action <;> decide +kernel

namespace Persistence.Audit

/-- The row with a number that stands for an event. -/
def rowOf (crates : AccountCrates) (entry : Int64 × AuditEvent) : Row AuditColumn
  | .id => .integer entry.1
  | .actorUserId => .ofOption bindId entry.2.actorUserId
  | .actorIp => .ofOption .text entry.2.actorIp
  | .action => .text entry.2.action.asStr
  | .resourceType => .ofOption .text entry.2.resourceType
  | .resourceId => .ofOption .text entry.2.resourceId
  | .metadata => .ofOption .text (entry.2.metadata.map Json.display)
  | .createdAt => crates.bindTime entry.2.createdAt

/-- What is needed to read an event back. -/
structure ReadsBack (crates : AccountCrates) (times : DateTime → Prop) (event : AuditEvent) :
    Prop where
  actorUserId : ∀ id ∈ event.actorUserId, crates.ReadsId id
  metadata : ∀ object ∈ event.metadata, crates.parseObject (Json.display object) = .ok object
  createdAt : times event.createdAt

variable {crates : AccountCrates} {times : DateTime → Prop} {event : AuditEvent}

/-- The row of an event is decoded into the event, whatever the action is. -/
theorem decode_row (hstamps : crates.Stamps times) (h : ReadsBack crates times event)
    (number : Int64) : decode crates (rowOf crates (number, event)) = .ok event := by
  have hactor : (event.actorUserId.map Id.display).mapM crates.parseUuid =
      .ok (event.actorUserId.map Id.value) := by
    cases hid : event.actorUserId with
    | none => rfl
    | some id =>
        have hread : crates.parseUuid id.display = .ok id.value := h.actorUserId id hid
        simp [hread]
  have hmetadata : (event.metadata.map Json.display).mapM crates.parseObject =
      .ok event.metadata := by
    cases hobject : event.metadata with
    | none => rfl
    | some object => simp [h.metadata object hobject]
  have hmarked : (event.actorUserId.map Id.value).map Id.mk = event.actorUserId := by
    cases event.actorUserId <;> rfl
  have hbind : Value.ofOption bindId event.actorUserId =
      .ofOption .text (event.actorUserId.map Id.display) := by
    cases event.actorUserId <;> rfl
  simp only [decode, AuditRow.fromRow, Outcome.bind_ok, Outcome.map_error_ok,
    RowCrates.nullable_string_ok, RowCrates.string_ok, RowCrates.int_ok]
  refine ⟨_, ⟨_, rfl, _, hbind, _, rfl, _, rfl, _, rfl, _, rfl, _, rfl, _,
    hstamps.reads _ h.createdAt, rfl⟩, ?_⟩
  simp only [AuditRow.intoDomain, Outcome.bind_ok, Outcome.map_error_ok]
  refine ⟨_, hactor, _, parse_action_as_str event.action, _, hmetadata, ?_⟩
  rw [hmarked]
  rfl

theorem insert_row (crates : AccountCrates) (event : AuditEvent) (number : Int64) :
    Function.update (insert.newRow (insertBinds crates event)) .id (.integer number) =
      rowOf crates (number, event) := by
  funext column
  cases column <;> rfl

end Persistence.Audit

end Wireforge
