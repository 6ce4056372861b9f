import Wireforge.Service.Accounts
import Wireforge.Site.Frames

/-!
# Specifications of the account repositories and services

Which calls the methods issue, and what it takes for them to return a value.
-/

namespace Wireforge

open Effect

variable {allowed : SiteCall → Prop} {outage : Outage} {s s' : Site}

/-! ## Calls -/

theorem site_now_issues (h : allowed (.host .utcNow)) : Issues allowed siteNow.run :=
  Issues.run_always (Issues.request h)

theorem site_uuid_issues (h : allowed (.host .uuidV7)) : Issues allowed siteUuid.run :=
  Issues.run_always (Issues.request h)

namespace SqliteUserRepository

theorem create_issues (hnow : allowed (.host .utcNow)) (huuid : allowed (.host .uuidV7))
    (hinsert : ∀ row, allowed (.insertUser row)) (new : NewUser) :
    Issues allowed (create new).run :=
  Issues.run_bind (site_uuid_issues huuid) fun _ =>
    Issues.run_bind (site_now_issues hnow) fun _ =>
      Issues.run_bind (Issues.run_or_else (Issues.request (hinsert _))) fun _ => Issues.run_pure _

theorem update_totp_issues (hnow : allowed (.host .utcNow))
    (hupdate : ∀ id enabled secret now, allowed (.updateTotp id enabled secret now))
    (id : Id UserMarker) (enabled : Bool) (secret : Option ByteArray) :
    Issues allowed (updateTotp id enabled secret).run :=
  Issues.run_bind (site_now_issues hnow) fun _ =>
    Issues.run_or_else (Issues.request (hupdate _ _ _ _))

theorem touch_last_login_issues (hnow : allowed (.host .utcNow))
    (htouch : ∀ id now, allowed (.touchLastLogin id now)) (id : Id UserMarker) :
    Issues allowed (touchLastLogin id).run :=
  Issues.run_bind (site_now_issues hnow) fun _ =>
    Issues.run_or_else (Issues.request (htouch _ _))

end SqliteUserRepository

namespace AuthService

theorem hash_password_issues (hsalt : allowed .drawSalt) (crates : WebCrates)
    (password : String) : Issues allowed (hashPassword crates password).run := by
  refine Issues.run_bind (Issues.run_always (Issues.request hsalt)) fun salt => ?_
  split
  · exact Issues.run_pure _
  · exact Issues.run_throw _

theorem register_initial_admin_issues (hcount : allowed .countUsers) (hsalt : allowed .drawSalt)
    (hnow : allowed (.host .utcNow)) (huuid : allowed (.host .uuidV7))
    (hinsert : ∀ row, allowed (.insertUser row)) (crates : WebCrates)
    (username password : String) (email : Option String) :
    Issues allowed (registerInitialAdmin crates username password email).run :=
  Issues.run_bind (Issues.run_or_else (Issues.request hcount)) fun _ =>
    Issues.run_ite (Issues.run_throw _) (Issues.run_bind (hash_password_issues hsalt _ _) fun _ =>
      SqliteUserRepository.create_issues hnow huuid hinsert _)

end AuthService

namespace SqliteBanRepository

theorem record_row_issues {ε : Type}
    (h : ∀ ip maxAttempts lockout, allowed (.recordFailure ip maxAttempts lockout))
    (ip : String) (maxAttempts : UInt32) (lockout : Duration) :
    Issues allowed (recordRow (ε := ε) ip maxAttempts lockout).run :=
  Issues.run_bind (Issues.run_or_else (Issues.request (h _ _ _))) fun _ => Issues.run_pure _

end SqliteBanRepository

/-! ## Results -/

/-- A call that reads and succeeds returns what it reads. -/
theorem Outage.read_ok {α ε : Type} {call : SiteCall} {rename : String → ε} {result : α}
    (value : Site → α) (h : (outage.read call value s).1.mapError rename = .ok result) :
    value s = result := by
  unfold read outcome at h
  split at h
  · cases h
  · exact Except.ok.inj h

theorem SqliteUserRepository.find_by_id_ok {id : Id UserMarker} {found : Option User}
    (h : (eval (serve outage) (findById id) s).1 = .ok found) :
    s.accounts.users.find id = found := by
  rw [findById, eval_or_else] at h
  exact Outage.read_ok ((·.accounts.users.find id)) h

theorem SqliteUserRepository.find_by_username_ok {username : String} {found : Option User}
    (h : (eval (serve outage) (findByUsername username) s).1 = .ok found) :
    s.accounts.findUserByName username = found := by
  rw [findByUsername, eval_or_else] at h
  exact Outage.read_ok ((·.accounts.findUserByName username)) h

theorem SqliteUserRepository.count_ok {n : Nat}
    (h : (eval (serve outage) count s).1 = .ok n) : s.accounts.users.rows.length = n := by
  rw [count, eval_or_else] at h
  exact Outage.read_ok ((·.accounts.users.rows.length)) h

/-- A created user has a row, and nothing but the tables of accounts has changed. -/
theorem SqliteUserRepository.create_ok {new : NewUser} {user : User}
    (h : eval (serve outage) (create new) s = (.ok user, s')) :
    (s'.accounts.users.find user.id).isSome ∧ s' = { s with accounts := s'.accounts } := by
  obtain ⟨id, s1, hid, h⟩ := eval_bind_ok.mp h
  obtain rfl : s = s1 := congrArg Prod.snd hid
  obtain ⟨now, s1, hnow, h⟩ := eval_bind_ok.mp h
  obtain rfl : s = s1 := congrArg Prod.snd hnow
  obtain ⟨_, s1, hinsert, h⟩ := eval_bind_ok.mp h
  obtain ⟨rfl, rfl⟩ : newRow id now new = user ∧ s1 = s' :=
    ⟨Except.ok.inj (congrArg Prod.fst h), congrArg Prod.snd h⟩
  rw [eval_or_else] at hinsert
  obtain ⟨accounts, hchange, heffect⟩ := Outage.write_ok (congrArg Prod.fst hinsert)
  obtain rfl : { s with accounts } = s1 := heffect.symm.trans (congrArg Prod.snd hinsert)
  refine ⟨?_, rfl⟩
  have hrows := (Accounts.insert_user_ok hchange).2.1
  have hmem : newRow id now new ∈ accounts.users.rows := by
    rw [hrows]
    exact List.mem_append_right _ (List.mem_singleton_self _)
  rw [Table.find_eq_some.mpr ⟨hmem, rfl⟩]
  rfl

theorem SqliteBanRepository.find_row_ok {ip : String} {found : Option IpBan}
    (h : (eval (serve outage) (findRow ip) s).1 = .ok found) : find s.bans ip = found := by
  rw [findRow, eval_or_else] at h
  exact Outage.read_ok ((SqliteBanRepository.find ·.bans ip)) h

/-- The first user is created in an empty table. -/
theorem AuthService.register_initial_admin_ok {crates : WebCrates} {username password : String}
    {email : Option String} {user : User}
    (h : eval (serve outage) (registerInitialAdmin crates username password email) s =
      (.ok user, s')) :
    s.accounts.users.rows = [] ∧ (s'.accounts.users.find user.id).isSome := by
  obtain ⟨n, s1, hcount, h⟩ := eval_bind_ok.mp h
  have hlength := SqliteUserRepository.count_ok (congrArg Prod.fst hcount)
  split at h
  · cases congrArg Prod.fst h
  · rename_i hpos
    obtain ⟨hash, s2, -, hcreate⟩ := eval_bind_ok.mp h
    have hempty : s.accounts.users.rows.length = 0 := by omega
    exact ⟨List.eq_nil_of_length_eq_zero hempty, (SqliteUserRepository.create_ok hcreate).1⟩

end Wireforge
