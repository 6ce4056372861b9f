import Wireforge.Infra.AccountRowsSpec
import Wireforge.Lib.Runs

/-!
# Stored accounts agree with decoded ones

A statement makes of the stored rows what the same statement of the model makes of its tables, and
it fails exactly if that fails. Hence after every run of statements the queries return of the
stored rows what they return of the tables: `accounts_stored`.
-/

namespace Wireforge

open Sql Persistence

/-- The libraries read back what a statement stores. -/
def AccountStatement.Readable (crates : AccountCrates) (times : DateTime → Prop) :
    AccountStatement → Prop
  | createUser id now _ => crates.ReadsId (Id.mk id : Id UserMarker) ∧ times now
  | updatePassword _ _ now | updateTotp _ _ _ now | touchLastLogin _ now
  | revokeToken _ _ now => times now
  | createToken id now new =>
      Tokens.ReadsBack crates.toRowCrates times (SqliteApiTokenRepository.newRow id now new)
  | upsertSetting _ _ _ _ => True
  | record event => Audit.ReadsBack crates times event

/-- The stored rows stand for the tables. -/
structure AccountRows.Hold (crates : AccountCrates) (times : DateTime → Prop) (rows : AccountRows)
    (accounts : Accounts) : Prop where
  users : rows.users.rows = accounts.users.rows.map (Users.rowOf crates.toRowCrates)
  tokens : rows.tokens.rows = accounts.tokens.rows.map (Tokens.rowOf crates.toRowCrates)
  settings : rows.settings.rows = accounts.settings.rows.map (Settings.rowOf crates.toRowCrates)
  audit : ∃ entries : List (Int64 × AuditEvent), rows.audit = entries.map (Audit.rowOf crates) ∧
    accounts.audit = entries.map Prod.snd
  readUsers : ∀ user ∈ accounts.users.rows, Users.ReadsBack crates.toRowCrates times user
  readTokens : ∀ token ∈ accounts.tokens.rows, Tokens.ReadsBack crates.toRowCrates times token
  readEvents : ∀ event ∈ accounts.audit, Audit.ReadsBack crates times event
  subjects : ∀ user ∈ accounts.users.rows, user.oidcSubject = none
  editors : ∀ setting ∈ accounts.settings.rows, ∀ id ∈ setting.updatedBy,
    (accounts.users.find id).isSome = true

/-- What the stored rows and the tables have in common: what the queries return, and whether a
statement fails. -/
structure AccountRows.Agree (crates : AccountCrates) (times : DateTime → Prop) (rows : AccountRows)
    (accounts : Accounts) : Prop where
  count : Users.count rows.users = accounts.users.rows.length
  findById : ∀ id, Users.findById crates.toRowCrates id rows.users = .ok (accounts.users.find id)
  findByUsername : ∀ username, Users.findByUsername crates.toRowCrates username rows.users =
    .ok (accounts.findUserByName username)
  findActiveByHash : ∀ hash, Tokens.findActiveByHash crates.toRowCrates hash rows.tokens =
    .ok (accounts.findActiveToken hash)
  listForUser : ∀ user, Tokens.listForUser crates.toRowCrates user rows.tokens =
    .ok (accounts.tokensOf user)
  all : Settings.all crates.toRowCrates rows.settings = .ok accounts.settingEntries
  list : ∀ limit, Audit.list crates limit rows.audit = .ok (accounts.auditTail limit)
  outcome : ∀ statement : AccountStatement, statement.Readable crates times →
    (statement.execute crates rows).isOk = (statement.apply accounts).isOk

/-- A statement that fails leaves the stored rows as they are. -/
def storedStep (crates : AccountCrates) (rows : AccountRows) (statement : AccountStatement) :
    AccountRows :=
  match statement.execute crates rows with
  | .ok rows => rows
  | .error _ => rows

/-- A statement that fails leaves the tables as they are. -/
def decodedStep (accounts : Accounts) (statement : AccountStatement) : Accounts :=
  match statement.apply accounts with
  | .ok accounts => accounts
  | .error _ => accounts

/-- Both fail, or both succeed and the tables that they leave correspond. -/
def AccountRows.Step (crates : AccountCrates) (times : DateTime → Prop) :
    Except CoreError AccountRows → Except CoreError Accounts → Prop
  | .ok rows, .ok accounts => rows.Hold crates times accounts
  | .error _, .error _ => True
  | _, _ => False

/-! ## Queries -/

namespace AccountRows.Hold

variable {crates : AccountCrates} {times : DateTime → Prop} {rows : AccountRows}
  {accounts : Accounts}

/-- A query that returns at most one row returns the first of them. -/
theorem head_map_m {κ ρ : Type} {print : ρ → Row κ} {decode : Row κ → Except CoreError ρ}
    {xs : List ρ} (h : ∀ x ∈ xs, decode (print x) = .ok x) :
    (xs.map print).head?.mapM decode = .ok xs.head? := by
  cases xs with
  | nil => rfl
  | cons x rest =>
      rw [List.map_cons, List.head?_cons, List.head?_cons, Option.mapM_some,
        h x List.mem_cons_self]
      rfl

variable (hstamps : crates.Stamps times) (h : rows.Hold crates times accounts)
include hstamps h

theorem find_by_id (id : Id UserMarker) :
    Users.findById crates.toRowCrates id rows.users = .ok (accounts.users.find id) := by
  unfold Users.findById
  rw [select_map h.users (fun _ => rfl) bind_id_injective bind_id_ne_null]
  cases hfind : accounts.users.find id with
  | none => rfl
  | some user =>
      have hmem := (Table.find_eq_some.mp hfind).1
      rw [Option.map_some, Option.mapM_some, Users.decode_row hstamps (h.readUsers user hmem)]
      rfl

theorem find_by_username (username : String) :
    Users.findByUsername crates.toRowCrates username rows.users =
      .ok (accounts.findUserByName username) := by
  have hmeets (user : User) : meets [.equals .username (.param 1)] [.text username]
      (Users.rowOf crates.toRowCrates user) = decide (user.username = username) := by
    show ((decide (Value.text user.username ≠ .null) &&
      decide (Value.text user.username = .text username)) && true) = _
    simp [Value.text_ne_null]
  unfold Users.findByUsername
  rw [h.users, select_where_map fun user _ => hmeets user, head_map_m, List.head?_filter]
  · rfl
  · exact fun user huser =>
      Users.decode_row hstamps (h.readUsers user (List.mem_filter.mp huser).1)

theorem find_active_by_hash (hash : String) :
    Tokens.findActiveByHash crates.toRowCrates hash rows.tokens =
      .ok (accounts.findActiveToken hash) := by
  have hmeets (token : ApiToken) :
      meets [.equals .tokenHash (.param 1), .isNull .revokedAt] [.text hash]
        (Tokens.rowOf crates.toRowCrates token) =
      decide (token.tokenHash = hash ∧ token.revokedAt.isNone) := by
    show ((decide (Value.text token.tokenHash ≠ .null) &&
      decide (Value.text token.tokenHash = .text hash)) &&
        (decide (Tokens.rowOf crates.toRowCrates token .revokedAt = .null) && true)) = _
    rw [Tokens.revoked_null, Bool.and_true, Bool.decide_and, Bool.decide_eq_true]
    simp [Value.text_ne_null]
  unfold Tokens.findActiveByHash
  rw [h.tokens, select_where_map fun token _ => hmeets token, head_map_m, List.head?_filter]
  · rfl
  · exact fun token htoken =>
      Tokens.decode_row hstamps (h.readTokens token (List.mem_filter.mp htoken).1)

theorem list_for_user (user : Id UserMarker) :
    Tokens.listForUser crates.toRowCrates user rows.tokens = .ok (accounts.tokensOf user) := by
  have hmeets (token : ApiToken) : meets [.equals .userId (.param 1)] [bindId user]
      (Tokens.rowOf crates.toRowCrates token) = decide (token.userId = user) := by
    show ((decide (bindId token.userId ≠ .null) && decide (bindId token.userId = bindId user)) &&
      true) = _
    rw [Tokens.equals_id, Bool.and_true]
  have hread {token : ApiToken} (htoken : token ∈ accounts.tokens.rows.filter (·.userId = user)) :
      Tokens.ReadsBack crates.toRowCrates times token :=
    h.readTokens token (List.mem_filter.mp htoken).1
  have hsorted : descending .createdAt ((accounts.tokens.rows.filter (·.userId = user)).map
      (Tokens.rowOf crates.toRowCrates)) =
        (accounts.tokensOf user).map (Tokens.rowOf crates.toRowCrates) :=
    descending_map fun x hx y hy => hstamps.precedes (hread hx).createdAt (hread hy).createdAt
  unfold Tokens.listForUser
  rw [h.tokens, select_where_map fun token _ => hmeets token, hsorted]
  refine map_m_decode fun token htoken => Tokens.decode_row hstamps (hread ?_)
  exact mem_sorted_by.mp (List.mem_reverse.mp htoken)

theorem list (limit : Nat) :
    Audit.list crates limit rows.audit = .ok (accounts.auditTail limit) := by
  obtain ⟨entries, hrows, haudit⟩ := h.audit
  have hread {entry : Int64 × AuditEvent} (hentry : entry ∈ entries) :
      Audit.ReadsBack crates times entry.2 :=
    h.readEvents entry.2 (haudit ▸ List.mem_map_of_mem hentry)
  -- The numbers of the events play no part in the order.
  have htail : accounts.auditTail limit =
      (((sortedBy (fun entry => entry.2.createdAt) entries).reverse).take limit).map Prod.snd := by
    unfold Accounts.auditTail sortedBy
    rw [haudit, List.map_take, List.map_reverse, List.map_insertionSort
      (fun entry entry' : Int64 × AuditEvent => entry.2.createdAt ≤ entry'.2.createdAt)
      (fun event event' : AuditEvent => event.createdAt ≤ event'.createdAt) Prod.snd entries
      fun _ _ _ _ => Iff.rfl]
  have hsorted : descending .createdAt (entries.map (Audit.rowOf crates)) =
      (sortedBy (fun entry => entry.2.createdAt) entries).reverse.map (Audit.rowOf crates) :=
    descending_map fun x hx y hy => hstamps.precedes (hread hx).createdAt (hread hy).createdAt
  unfold Audit.list
  rw [hrows, hsorted, ← List.map_take, htail]
  refine Outcome.map_m_ok.mpr (List.forall₂_map_left_iff.mpr (List.forall₂_map_right_iff.mpr
    (List.forall₂_same.mpr fun entry hentry => Audit.decode_row hstamps (hread ?_) entry.1)))
  exact mem_sorted_by.mp (List.mem_reverse.mp (List.mem_of_mem_take hentry))

end AccountRows.Hold

/-! ## Statements -/

/-- An insertion of a user succeeds, or a constraint forbids the row. -/
theorem Accounts.insert_user_cases (accounts : Accounts) (row : User) :
    (∃ (hnone : accounts.users.find row.id = none) (accounts' : Accounts),
      accounts.insertUser row = .ok accounts' ∧ accounts'.users = accounts.users.insert row hnone ∧
        accounts'.tokens = accounts.tokens ∧ accounts'.settings = accounts.settings ∧
          accounts'.audit = accounts.audit) ∨
    ∃ e, accounts.insertUser row = .error e ∧ (accounts.users.find row.id = none →
      ¬ (((accounts.users.rows ++ [row]).map User.username).Nodup ∧
        ((accounts.users.rows ++ [row]).filterMap User.email).Nodup)) := by
  unfold insertUser
  by_cases hid : accounts.users.find row.id = none
  · rw [dif_pos hid]
    by_cases hname : row.username ∉ accounts.users.rows.map User.username
    · rw [dif_pos hname]
      by_cases hemail : ∀ email ∈ row.email, email ∉ accounts.users.rows.filterMap User.email
      · rw [dif_pos hemail]
        exact .inl ⟨hid, _, rfl, rfl, rfl, rfl, rfl⟩
      · rw [dif_neg hemail]
        refine .inr ⟨_, rfl, fun _ hnodup => hemail fun email hrow hold => ?_⟩
        have hemails := hnodup.2
        rw [List.filterMap_append, List.nodup_append] at hemails
        exact hemails.2.2 email hold email (by simp [Option.mem_def.mp hrow]) rfl
    · rw [dif_neg hname]
      refine .inr ⟨_, rfl, fun _ hnodup => hname fun hold => ?_⟩
      have hnames := hnodup.1
      rw [List.map_append, List.nodup_append] at hnames
      exact hnames.2.2 _ hold _ (by simp) rfl
  · rw [dif_neg hid]
    exact .inr ⟨_, rfl, fun hnone => absurd hnone hid⟩

/-- An insertion of a token succeeds, or a constraint forbids the row. -/
theorem Accounts.insert_token_cases (accounts : Accounts) (row : ApiToken) :
    (∃ (hnone : accounts.tokens.find row.id = none) (accounts' : Accounts),
      accounts.insertToken row = .ok accounts' ∧
        accounts'.tokens = accounts.tokens.insert row hnone ∧ accounts'.users = accounts.users ∧
          accounts'.settings = accounts.settings ∧ accounts'.audit = accounts.audit) ∨
    ∃ e, accounts.insertToken row = .error e ∧ (accounts.tokens.find row.id = none →
      ¬ (((accounts.tokens.rows ++ [row]).map ApiToken.tokenHash).Nodup ∧
        ∀ token ∈ accounts.tokens.rows ++ [row], (accounts.users.find token.userId).isSome)) := by
  unfold insertToken
  by_cases hid : accounts.tokens.find row.id = none
  · rw [dif_pos hid]
    by_cases hhash : row.tokenHash ∉ accounts.tokens.rows.map ApiToken.tokenHash
    · rw [dif_pos hhash]
      by_cases howner : (accounts.users.find row.userId).isSome
      · rw [dif_pos howner]
        exact .inl ⟨hid, _, rfl, rfl, rfl, rfl, rfl⟩
      · rw [dif_neg howner]
        exact .inr ⟨_, rfl, fun _ hall => howner (hall.2 row (by simp))⟩
    · rw [dif_neg hhash]
      refine .inr ⟨_, rfl, fun _ hall => hhash fun hold => ?_⟩
      have hhashes := hall.1
      rw [List.map_append, List.nodup_append] at hhashes
      exact hhashes.2.2 _ hold _ (by simp) rfl
  · rw [dif_neg hid]
    exact .inr ⟨_, rfl, fun hnone => absurd hnone hid⟩

namespace AccountRows.Hold

variable {crates : AccountCrates} {times : DateTime → Prop} {rows : AccountRows}
  {accounts accounts' : Accounts}

theorem step_ok {rows' : AccountRows} {stored : Except CoreError AccountRows}
    {decoded : Except CoreError Accounts} (hstored : stored = .ok rows')
    (hdecoded : decoded = .ok accounts') (h : rows'.Hold crates times accounts') :
    Step crates times stored decoded := by
  rw [hstored, hdecoded]
  exact h

theorem step_error {stored : Except CoreError AccountRows} {decoded : Except CoreError Accounts}
    {e e' : CoreError} (hstored : stored = .error e) (hdecoded : decoded = .error e') :
    Step crates times stored decoded := by
  rw [hstored, hdecoded]
  trivial

variable (h : rows.Hold crates times accounts)
include h

/-- The users change, and no user vanishes. -/
theorem change_users {users : Users.Rows} (husers : accounts'.users.rows.map
      (Users.rowOf crates.toRowCrates) = users.rows)
    (hkept : ∀ id, (accounts.users.find id).isSome → (accounts'.users.find id).isSome)
    (hread : ∀ user ∈ accounts'.users.rows, Users.ReadsBack crates.toRowCrates times user ∧
      user.oidcSubject = none)
    (htokens : accounts'.tokens = accounts.tokens)
    (hsettings : accounts'.settings = accounts.settings)
    (haudit : accounts'.audit = accounts.audit) :
    Hold crates times { rows with users } accounts' where
  users := husers.symm
  tokens := by rw [htokens]; exact h.tokens
  settings := by rw [hsettings]; exact h.settings
  audit := by rw [haudit]; exact h.audit
  readUsers user huser := (hread user huser).1
  readTokens := by rw [htokens]; exact h.readTokens
  readEvents := by rw [haudit]; exact h.readEvents
  subjects user huser := (hread user huser).2
  editors := by
    rw [hsettings]
    exact fun setting hsetting id hid => hkept id (h.editors setting hsetting id hid)

/-- A user is inserted, or not, on both levels. -/
theorem create_user (id : Uuid) (now : DateTime) (new : NewUser)
    (hid : crates.ReadsId (Id.mk id : Id UserMarker)) (hnow : times now) :
    Step crates times ((AccountStatement.createUser id now new).execute crates rows)
      ((AccountStatement.createUser id now new).apply accounts) := by
  have hexecute : (AccountStatement.createUser id now new).execute crates rows =
      ((Relation.insert Users.check Users.insert
        (Users.insertBinds crates.toRowCrates id now new) rows.users).mapError mapErr).map
          fun users => { rows with users } := by
    simp only [AccountStatement.execute, Users.create]
    cases Relation.insert Users.check Users.insert _ rows.users <;> rfl
  have happly : (AccountStatement.createUser id now new).apply accounts =
      (accounts.insertUser (SqliteUserRepository.newRow id now new)).mapError mapErr := rfl
  have hinserted {user : User} (huser : user ∈ accounts.users.rows ++
      [SqliteUserRepository.newRow id now new]) :
      Users.ReadsBack crates.toRowCrates times user ∧ user.oidcSubject = none := by
    rcases List.mem_append.mp huser with hold | hnew
    · exact ⟨h.readUsers user hold, h.subjects user hold⟩
    · rw [List.mem_singleton.mp hnew]
      exact ⟨⟨hid, hnow, hnow, fun t ht => by cases ht⟩, rfl⟩
  have hcases := insert_map Users.check h.users (fun _ => rfl) bind_id_injective
    (Users.insert_row crates.toRowCrates id now new)
  rcases accounts.insert_user_cases (SqliteUserRepository.newRow id now new) with
    ⟨hnone, accounts', hinsert, husers, htokens, hsettings, haudit⟩ | ⟨e, hinsert, hclash⟩
  · rcases hcases with ⟨hsome, _⟩ | ⟨_, users, hrows, hcommit⟩
    · rw [hnone] at hsome
      cases hsome
    · have hcheck : Users.check users = none := by
        refine (Users.check_none hrows fun user huser => (hinserted huser).2).mpr ?_
        have hnames := accounts'.uniqueNames
        have hemails := accounts'.uniqueEmails
        rw [husers] at hnames hemails
        exact ⟨hnames, hemails⟩
      refine step_ok (by rw [hexecute, hcommit, Relation.commit_of_none hcheck]; rfl)
        (by rw [happly, hinsert]; rfl) (h.change_users ?_ ?_ ?_ htokens hsettings haudit)
      · rw [husers, hrows]
      · intro i hi
        obtain ⟨user, huser⟩ := Option.isSome_iff_exists.mp hi
        have hmem := Table.find_eq_some.mp huser
        rw [husers, Table.find_eq_some.mpr ⟨Table.mem_insert.mpr (.inl hmem.1), hmem.2⟩]
        rfl
      · rw [husers]
        exact fun user huser => hinserted huser
  · rcases hcases with ⟨_, e', herror⟩ | ⟨hnone, users, hrows, hcommit⟩
    · exact step_error (by rw [hexecute, herror]; rfl) (by rw [happly, hinsert]; rfl)
    · have hcheck : Users.check users ≠ none := fun hcheck => hclash hnone
        ((Users.check_none hrows fun user huser => (hinserted huser).2).mp hcheck)
      obtain ⟨e', herror⟩ := Relation.commit_error hcheck
      exact step_error (by rw [hexecute, hcommit, herror]; rfl) (by rw [happly, hinsert]; rfl)

/-- An update of users that leaves identifiers, names, addresses and subjects alone succeeds on both
levels. -/
theorem modify_users {statement : Update UserColumn} {binds : List Value}
    (hset : statement.sets.lookup .id = none) {f : User → User}
    (hid : ∀ user, (f user).id = user.id)
    (hname : ∀ user, (f user).username = user.username)
    (hemail : ∀ user, (f user).email = user.email)
    (hrow : ∀ user, statement.apply .id binds (Users.rowOf crates.toRowCrates user) =
      Users.rowOf crates.toRowCrates (f user))
    (hread : ∀ user, Users.ReadsBack crates.toRowCrates times user →
      Users.ReadsBack crates.toRowCrates times (f user) ∧
        (f user).oidcSubject = user.oidcSubject) :
    ∃ users, Relation.update Users.check statement binds hset rows.users = .ok users ∧
      Hold crates times { rows with users } (accounts.modifyUsers f hid hname hemail) := by
  have hmodified {user : User} (huser : user ∈ (accounts.users.modify f hid).rows) :
      Users.ReadsBack crates.toRowCrates times user ∧ user.oidcSubject = none := by
    obtain ⟨old, hold, rfl⟩ := Table.mem_modify.mp huser
    obtain ⟨hnew, hsubject⟩ := hread old (h.readUsers old hold)
    exact ⟨hnew, hsubject.trans (h.subjects old hold)⟩
  obtain ⟨users, hrows, hcommit⟩ := update_map Users.check hset hid h.users fun user _ => hrow user
  have hcheck : Users.check users = none := by
    refine (Users.check_none hrows fun user huser => (hmodified huser).2).mpr ?_
    exact ⟨(accounts.modifyUsers f hid hname hemail).uniqueNames,
      (accounts.modifyUsers f hid hname hemail).uniqueEmails⟩
  refine ⟨users, hcommit.trans (Relation.commit_of_none hcheck),
    h.change_users hrows.symm (fun i hi => ?_) (fun user huser => hmodified huser) rfl rfl rfl⟩
  show ((accounts.users.modify f hid).find i).isSome
  rw [Table.find_modify, Option.isSome_map]
  exact hi

theorem update_password (id : Id UserMarker) (hash : String) {now : DateTime} (hnow : times now) :
    Step crates times ((AccountStatement.updatePassword id hash now).execute crates rows)
      ((AccountStatement.updatePassword id hash now).apply accounts) := by
  have hread (user : User) (hread : Users.ReadsBack crates.toRowCrates times user) :
      Users.ReadsBack crates.toRowCrates times (Accounts.setPassword id hash now user) ∧
        (Accounts.setPassword id hash now user).oidcSubject = user.oidcSubject := by
    unfold Accounts.setPassword
    split
    · exact ⟨⟨hread.id, hread.createdAt, hnow, hread.lastLoginAt⟩, rfl⟩
    · exact ⟨hread, rfl⟩
  obtain ⟨users, hupdate, hhold⟩ := h.modify_users rfl _ _ _
    (Users.password_row crates.toRowCrates id hash now) hread
  refine step_ok ?_ rfl hhold
  simp only [AccountStatement.execute, Users.updatePassword, hupdate]
  rfl

theorem update_totp (id : Id UserMarker) (enabled : Bool) (secret : Option ByteArray)
    {now : DateTime} (hnow : times now) :
    Step crates times ((AccountStatement.updateTotp id enabled secret now).execute crates rows)
      ((AccountStatement.updateTotp id enabled secret now).apply accounts) := by
  have hread (user : User) (hread : Users.ReadsBack crates.toRowCrates times user) :
      Users.ReadsBack crates.toRowCrates times (Accounts.setTotp id enabled secret now user) ∧
        (Accounts.setTotp id enabled secret now user).oidcSubject = user.oidcSubject := by
    unfold Accounts.setTotp
    split
    · exact ⟨⟨hread.id, hread.createdAt, hnow, hread.lastLoginAt⟩, rfl⟩
    · exact ⟨hread, rfl⟩
  obtain ⟨users, hupdate, hhold⟩ := h.modify_users rfl _ _ _
    (Users.totp_row crates.toRowCrates id enabled secret now) hread
  refine step_ok ?_ rfl hhold
  simp only [AccountStatement.execute, Users.updateTotp, hupdate]
  rfl

theorem touch_last_login (id : Id UserMarker) {now : DateTime} (hnow : times now) :
    Step crates times ((AccountStatement.touchLastLogin id now).execute crates rows)
      ((AccountStatement.touchLastLogin id now).apply accounts) := by
  have hread (user : User) (hread : Users.ReadsBack crates.toRowCrates times user) :
      Users.ReadsBack crates.toRowCrates times (Accounts.setLastLogin id now user) ∧
        (Accounts.setLastLogin id now user).oidcSubject = user.oidcSubject := by
    unfold Accounts.setLastLogin
    split
    · refine ⟨⟨hread.id, hread.createdAt, hread.updatedAt, fun t ht => ?_⟩, rfl⟩
      obtain rfl : now = t := Option.some.inj ht
      exact hnow
    · exact ⟨hread, rfl⟩
  obtain ⟨users, hupdate, hhold⟩ := h.modify_users rfl _ _ _
    (Users.login_row crates.toRowCrates id now) hread
  refine step_ok ?_ rfl hhold
  simp only [AccountStatement.execute, Users.touchLastLogin, hupdate]
  rfl

/-- The tokens change, and no user does. -/
theorem change_tokens {tokens : Tokens.Rows}
    (htokens : tokens.rows = accounts'.tokens.rows.map (Tokens.rowOf crates.toRowCrates))
    (hread : ∀ token ∈ accounts'.tokens.rows, Tokens.ReadsBack crates.toRowCrates times token)
    (husers : accounts'.users = accounts.users) (hsettings : accounts'.settings = accounts.settings)
    (haudit : accounts'.audit = accounts.audit) :
    Hold crates times { rows with tokens } accounts' where
  users := by rw [husers]; exact h.users
  tokens := htokens
  settings := by rw [hsettings]; exact h.settings
  audit := by rw [haudit]; exact h.audit
  readUsers := by rw [husers]; exact h.readUsers
  readTokens := hread
  readEvents := by rw [haudit]; exact h.readEvents
  subjects := by rw [husers]; exact h.subjects
  editors := by rw [hsettings, husers]; exact h.editors

/-- A token is inserted, or not, on both levels. -/
theorem create_token (id : Uuid) (now : DateTime) (new : NewApiToken)
    (hread : Tokens.ReadsBack crates.toRowCrates times
      (SqliteApiTokenRepository.newRow id now new)) :
    Step crates times ((AccountStatement.createToken id now new).execute crates rows)
      ((AccountStatement.createToken id now new).apply accounts) := by
  have hexecute : (AccountStatement.createToken id now new).execute crates rows =
      ((Relation.insert (Tokens.check rows.users) Tokens.insert
        (Tokens.insertBinds crates.toRowCrates id now new) rows.tokens).mapError mapErr).map
          fun tokens => { rows with tokens } := by
    simp only [AccountStatement.execute, Tokens.create]
    cases Relation.insert (Tokens.check rows.users) Tokens.insert _ rows.tokens <;> rfl
  have happly : (AccountStatement.createToken id now new).apply accounts =
      (accounts.insertToken (SqliteApiTokenRepository.newRow id now new)).mapError mapErr := rfl
  have hcases := insert_map (Tokens.check rows.users) h.tokens (fun _ => rfl) bind_id_injective
    (Tokens.insert_row crates.toRowCrates id now new)
  rcases accounts.insert_token_cases (SqliteApiTokenRepository.newRow id now new) with
    ⟨hnone, accounts', hinsert, htokens, husers, hsettings, haudit⟩ | ⟨e, hinsert, hclash⟩
  · rcases hcases with ⟨hsome, _⟩ | ⟨_, tokens, hrows, hcommit⟩
    · rw [hnone] at hsome
      cases hsome
    · have hcheck : Tokens.check rows.users tokens = none := by
        refine (Tokens.check_none h.users hrows).mpr ?_
        have hhashes := accounts'.uniqueHashes
        have howners := accounts'.owners
        rw [htokens] at hhashes howners
        rw [husers] at howners
        exact ⟨hhashes, howners⟩
      refine step_ok (by rw [hexecute, hcommit, Relation.commit_of_none hcheck]; rfl)
        (by rw [happly, hinsert]; rfl) (h.change_tokens ?_ ?_ husers hsettings haudit)
      · rw [htokens, hrows]
      · rw [htokens]
        intro token htoken
        rcases Table.mem_insert.mp htoken with hold | rfl
        · exact h.readTokens token hold
        · exact hread
  · rcases hcases with ⟨_, e', herror⟩ | ⟨hnone, tokens, hrows, hcommit⟩
    · exact step_error (by rw [hexecute, herror]; rfl) (by rw [happly, hinsert]; rfl)
    · have hcheck : Tokens.check rows.users tokens ≠ none := fun hcheck => hclash hnone
        ((Tokens.check_none h.users hrows).mp hcheck)
      obtain ⟨e', herror⟩ := Relation.commit_error hcheck
      exact step_error (by rw [hexecute, hcommit, herror]; rfl) (by rw [happly, hinsert]; rfl)

/-- A token is revoked, or there is none to revoke, on both levels. -/
theorem revoke_token (id : Id ApiTokenMarker) (owner : Id UserMarker) {now : DateTime}
    (hnow : times now) :
    Step crates times ((AccountStatement.revokeToken id owner now).execute crates rows)
      ((AccountStatement.revokeToken id owner now).apply accounts) := by
  obtain ⟨tokens, hrows, hcommit⟩ := update_where_map (Tokens.check rows.users) rfl
    (Accounts.set_revoked_id id owner now) h.tokens
    (fun token _ => Tokens.revocation_row crates.toRowCrates id owner now token)
    fun token _ => Tokens.revocation_meets crates.toRowCrates id owner now token
  have hcheck : Tokens.check rows.users tokens = none :=
    (Tokens.check_none h.users hrows).mpr
      ⟨(accounts.revokeToken id owner now).2.uniqueHashes,
        (accounts.revokeToken id owner now).2.owners⟩
  rw [Relation.commit_of_none hcheck] at hcommit
  have hexecute : (AccountStatement.revokeToken id owner now).execute crates rows =
      if accounts.tokens.rows.countP (Accounts.revocable id owner) = 0 then
        .error (.notFound s!"api token {id.display}")
      else .ok { rows with tokens } := by
    simp only [AccountStatement.execute, Tokens.revoke, hcommit]
    show (if _ then _ else _ : Except CoreError _) >>= _ = _
    split
    · rfl
    · rfl
  have hhold : Hold crates times { rows with tokens } (accounts.revokeToken id owner now).2 := by
    refine h.change_tokens hrows (fun token htoken => ?_) rfl rfl rfl
    have hmapped : token ∈ accounts.tokens.rows.map (Accounts.setRevoked id owner now) := htoken
    obtain ⟨old, hold, rfl⟩ := List.mem_map.mp hmapped
    have hread := h.readTokens old hold
    unfold Accounts.setRevoked
    split
    · refine ⟨hread.id, hread.userId, hread.scopes, hread.createdAt, hread.expiresAt,
        fun t ht => ?_⟩
      obtain rfl : now = t := Option.some.inj ht
      exact hnow
    · exact hread
  by_cases hcount : accounts.tokens.rows.countP (Accounts.revocable id owner) = 0
  · exact step_error (hexecute.trans (if_pos hcount)) (if_pos hcount)
  · exact step_ok (hexecute.trans (if_neg hcount)) (if_neg hcount) hhold

/-- Whoever the statement names exists on both levels, or on none. -/
theorem refers_knows {κ : Type} {column : κ} {row : Row κ} (actor : Option (Id UserMarker))
    (hrow : row column = .ofOption bindId actor) :
    Users.refers rows.users column [row] = accounts.knows actor := by
  have hiff : Users.refers rows.users column ([()].map fun _ => row) = true ↔
      ∀ _unit ∈ [()], ∀ id ∈ actor, (accounts.users.find id).isSome = true :=
    Users.refers_map h.users fun _ _ => hrow
  rw [Bool.eq_iff_iff, Accounts.knows, Option.all_eq_true]
  exact hiff.trans (by simp)

/-- A setting is written, or not, on both levels. -/
theorem upsert_setting (key value : String) (actor : Option (Id UserMarker)) (now : DateTime) :
    Step crates times ((AccountStatement.upsertSetting key value actor now).execute crates rows)
      ((AccountStatement.upsertSetting key value actor now).apply accounts) := by
  have happly : (AccountStatement.upsertSetting key value actor now).apply accounts =
      (accounts.upsertSetting key value actor now).mapError mapErr := rfl
  have hexecute : (AccountStatement.upsertSetting key value actor now).execute crates rows =
      ((Relation.upsert (Settings.check rows.users) Settings.insert Settings.onConflict
        (Settings.upsertBinds crates.toRowCrates key value actor now) rfl
          rows.settings).mapError mapErr).map fun settings => { rows with settings } := by
    simp only [AccountStatement.execute, Settings.upsert]
    cases Relation.upsert (Settings.check rows.users) Settings.insert Settings.onConflict
      (Settings.upsertBinds crates.toRowCrates key value actor now) rfl rows.settings <;> rfl
  obtain ⟨settings, hrows, hcommit⟩ :=
    Settings.upsert_rows key value actor now rows.users h.settings
  let row : SettingRow :=
    ⟨key, value, actor, now, ((accounts.settings.find key).map SettingRow.createdAt).getD now⟩
  have hcheck : Settings.check rows.users settings = none ↔ accounts.knows actor = true := by
    rw [Settings.check_none h.users hrows, Accounts.knows, Option.all_eq_true]
    constructor
    · intro heditors id hid
      have hwritten := Table.find_upsert (t := accounts.settings) (r := row) (k := row.key)
      rw [if_pos rfl] at hwritten
      exact heditors row (Table.find_eq_some.mp hwritten).1 id hid
    · intro hactor setting hsetting id hid
      have hfind := Table.find_of_mem hsetting
      rw [Table.find_upsert] at hfind
      split at hfind
      · obtain rfl := Option.some.inj hfind
        exact hactor id hid
      · exact h.editors setting (Table.find_eq_some.mp hfind).1 id hid
  rw [hexecute, happly, hcommit]
  unfold Accounts.upsertSetting
  cases hactor : accounts.knows actor with
  | false =>
      obtain ⟨e, herror⟩ := Relation.commit_error fun hnone => by
        rw [hcheck, hactor] at hnone
        cases hnone
      rw [herror]
      trivial
  | true =>
      have hnone := hcheck.mpr hactor
      rw [Relation.commit_of_none hnone]
      exact ⟨h.users, h.tokens, hrows, h.audit, h.readUsers, h.readTokens, h.readEvents,
        h.subjects, (Settings.check_none h.users hrows).mp hnone⟩

/-- An event is recorded, or not, on both levels. -/
theorem record (event : AuditEvent) (hread : Audit.ReadsBack crates times event) :
    Step crates times ((AccountStatement.record event).execute crates rows)
      ((AccountStatement.record event).apply accounts) := by
  have happly : (AccountStatement.record event).apply accounts =
      (accounts.insertAudit event).mapError mapErr := rfl
  have hknows : Users.refers rows.users .actorUserId
      [Audit.rowOf crates (Int64.ofNat (rows.audit.length + 1), event)] =
        accounts.knows event.actorUserId :=
    h.refers_knows event.actorUserId rfl
  have hexecute : (AccountStatement.record event).execute crates rows =
      if accounts.knows event.actorUserId then
        .ok { rows with audit := rows.audit ++
          [Audit.rowOf crates (Int64.ofNat (rows.audit.length + 1), event)] }
      else .error (mapErr "FOREIGN KEY constraint failed") := by
    simp only [AccountStatement.execute, Audit.record, Audit.insert_row, hknows]
    cases accounts.knows event.actorUserId <;> rfl
  rw [hexecute, happly]
  unfold Accounts.insertAudit
  cases hactor : accounts.knows event.actorUserId with
  | false => trivial
  | true =>
      obtain ⟨entries, hrows, haudit⟩ := h.audit
      refine step_ok rfl rfl ⟨h.users, h.tokens, h.settings,
        ⟨entries ++ [(Int64.ofNat (rows.audit.length + 1), event)], ?_, ?_⟩, h.readUsers,
        h.readTokens, ?_, h.subjects, h.editors⟩
      · rw [List.map_append, ← hrows]
        rfl
      · rw [List.map_append, ← haudit]
        rfl
      · intro event' hevent
        rcases List.mem_append.mp hevent with hold | hnew
        · exact h.readEvents event' hold
        · rw [List.mem_singleton.mp hnew]
          exact hread

end AccountRows.Hold

/-- A statement keeps what the two levels have in common, and succeeds on both or on none. -/
theorem AccountRows.Hold.step {crates : AccountCrates} {times : DateTime → Prop}
    {rows : AccountRows} {accounts : Accounts} (h : rows.Hold crates times accounts)
    {statement : AccountStatement} (hread : statement.Readable crates times) :
    Step crates times (statement.execute crates rows) (statement.apply accounts) := by
  cases statement with
  | createUser id now new => exact h.create_user id now new hread.1 hread.2
  | updatePassword id hash now => exact h.update_password id hash hread
  | updateTotp id enabled secret now => exact h.update_totp id enabled secret hread
  | touchLastLogin id now => exact h.touch_last_login id hread
  | createToken id now new => exact h.create_token id now new hread
  | revokeToken id owner now => exact h.revoke_token id owner hread
  | upsertSetting key value actor now => exact h.upsert_setting key value actor now
  | record event => exact h.record event hread

/-- Either both levels succeed or neither does. -/
theorem AccountRows.Step.cases {crates : AccountCrates} {times : DateTime → Prop}
    {stored : Except CoreError AccountRows} {decoded : Except CoreError Accounts}
    (h : Step crates times stored decoded) :
    (∃ rows accounts, stored = .ok rows ∧ decoded = .ok accounts ∧
      rows.Hold crates times accounts) ∨
    ∃ e e', stored = .error e ∧ decoded = .error e' := by
  cases stored with
  | ok rows =>
      cases decoded with
      | ok accounts => exact .inl ⟨rows, accounts, rfl, rfl, h⟩
      | error e' => exact h.elim
  | error e =>
      cases decoded with
      | ok accounts => exact h.elim
      | error e' => exact .inr ⟨e, e', rfl, rfl⟩

/-! ## Runs -/

/-- Both levels make a step. -/
theorem AccountRows.Hold.next {crates : AccountCrates} {times : DateTime → Prop}
    {rows : AccountRows} {accounts : Accounts} (h : rows.Hold crates times accounts)
    {statement : AccountStatement} (hread : statement.Readable crates times) :
    (storedStep crates rows statement).Hold crates times (decodedStep accounts statement) := by
  unfold storedStep decodedStep
  obtain ⟨rows', accounts', hstored, hdecoded, hnext⟩ | ⟨e, e', hstored, hdecoded⟩ :=
    (h.step hread).cases
  · rw [hstored, hdecoded]
    exact hnext
  · -- A statement that fails leaves both levels as they were.
    rw [hstored, hdecoded]
    exact h

theorem AccountRows.hold_empty (crates : AccountCrates) (times : DateTime → Prop) :
    AccountRows.empty.Hold crates times .empty where
  users := rfl
  tokens := rfl
  settings := rfl
  audit := ⟨[], rfl, rfl⟩
  readUsers _ h := by cases h
  readTokens _ h := by cases h
  readEvents _ h := by cases h
  subjects _ h := by cases h
  editors _ h := by cases h

theorem AccountRows.Hold.agree {crates : AccountCrates} {times : DateTime → Prop}
    (hstamps : crates.Stamps times) {rows : AccountRows} {accounts : Accounts}
    (h : rows.Hold crates times accounts) : rows.Agree crates times accounts where
  count := by rw [Users.count, h.users, List.length_map]
  findById := h.find_by_id hstamps
  findByUsername := h.find_by_username hstamps
  findActiveByHash := h.find_active_by_hash hstamps
  listForUser := h.list_for_user hstamps
  all := Settings.all_rows h.settings
  list := h.list hstamps
  outcome statement hread := by
    obtain ⟨_, _, hstored, hdecoded, _⟩ | ⟨_, _, hstored, hdecoded⟩ := (h.step hread).cases
    · rw [hstored, hdecoded]
      rfl
    · rw [hstored, hdecoded]
      rfl

/-- After every run of statements on fresh tables, the queries return of the stored rows what they
return of the tables of the model, with every user, token, setting and event in the same order, and
the next statement succeeds on both levels or on none. -/
theorem accounts_stored (crates : AccountCrates) (times : DateTime → Prop)
    (hstamps : crates.Stamps times) (statements : List AccountStatement)
    (hread : ∀ statement ∈ statements, statement.Readable crates times) :
    (Runs.after (storedStep crates) .empty statements).Agree crates times
      (Runs.after decodedStep .empty statements) := by
  have hrun : ∀ (rows : AccountRows) (accounts : Accounts), rows.Hold crates times accounts →
      (Runs.after (storedStep crates) rows statements).Hold crates times
        (Runs.after decodedStep accounts statements) := by
    induction statements with
    | nil => exact fun _ _ h => h
    | cons statement rest ih =>
        intro rows accounts h
        -- What the two levels have in common after the first statement carries the rest.
        have hnext := h.next (hread statement List.mem_cons_self)
        exact ih (fun other hother => hread other (List.mem_cons_of_mem _ hother)) _ _ hnext
  exact (hrun .empty .empty (AccountRows.hold_empty crates times)).agree hstamps

/-- Libraries that also read back the one list and the one object of a small run. -/
def AccountCrates.lab : AccountCrates where
  toRowCrates := { RowCrates.lab with
    fromJson := fun text => if text = "[\"*\"]" then .ok ["*"] else .error "expected value" }
  parseObject text :=
    if text = "\x7b\"username\":\"ann\"\x7d" then .ok [("username", .str "ann")]
    else .error "expected value"

/-- An auditor sets up a second factor and revokes an API token. -/
def auditorRun : List AccountStatement :=
  [.createUser 0 ⟨0⟩ ⟨"ann", none, "hash", .auditor⟩,
    .createToken 0 ⟨0⟩ ⟨⟨0⟩, "laptop", "digest", ["*"], some ⟨0⟩⟩,
    .updateTotp ⟨0⟩ true (some ⟨#[7]⟩) ⟨0⟩,
    .record ⟨some ⟨0⟩, none, .totpEnabled, some "user", none, some [("username", .str "ann")], ⟨0⟩⟩,
    .revokeToken ⟨0⟩ ⟨0⟩ ⟨0⟩,
    .upsertSetting "web.default_locale" "tr" (some ⟨0⟩) ⟨0⟩]

theorem accounts_stored_auditor :
    (Runs.after (storedStep .lab) .empty auditorRun).Agree .lab (· = ⟨0⟩)
      (Runs.after decodedStep .empty auditorRun) := by
  refine accounts_stored .lab (· = ⟨0⟩) ⟨?_, ?_⟩ auditorRun ?_
  · intro t ht
    rw [ht]
    rfl
  · intro t t' ht ht'
    rw [ht, ht']
    exact iff_of_true le_rfl (Int.le_refl 0)
  · intro statement hstatement
    simp only [auditorRun, List.mem_cons, List.not_mem_nil, or_false] at hstatement
    rcases hstatement with rfl | rfl | rfl | rfl | rfl | rfl
    · exact ⟨rfl, rfl⟩
    · exact ⟨rfl, rfl, ⟨_, rfl, rfl⟩, rfl, fun t ht => (Option.some.inj ht).symm,
        fun t ht => by cases ht⟩
    · rfl
    · exact ⟨fun id hid => Option.some.inj hid ▸ rfl, fun object hobject =>
        Option.some.inj hobject ▸ rfl, rfl⟩
    · rfl
    · trivial

end Wireforge
