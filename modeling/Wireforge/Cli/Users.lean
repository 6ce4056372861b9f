import Wireforge.Access.SecondFactor
import Wireforge.Front.Callers

/-!
# Account commands

The commands `wireforge user …` run next to the server, on the same database. They share the
statements on the table of users with it; only setting a new password is a statement of their own.
In whatever order the calls of requests and commands come, users, tokens and audit events last and
the sessions stay right (`accounts_last`), and no login succeeds with a password of fewer than 12
bytes (`short_passwords_refused`).
-/

namespace Wireforge

open Effect Routes.Auth

/-- Create a user with a password, unless the name is taken. -/
def AuthService.createUser (crates : WebCrates) (username password : String)
    (email : Option String) (role : Role) : Repo User := do
  let found ← SqliteUserRepository.findByUsername username
  if found.isSome then throw (.conflict s!"user '{username}' exists")
  else do
    let hash ← hashPassword crates password
    SqliteUserRepository.create ⟨username, email, hash, role⟩

namespace Cli

/-! ## Calls -/

/-- The calls of the account commands: those of the repositories, the statement that sets a
password, and the terminal. -/
inductive UserCall where
  | site (call : SiteCall)
  | updatePassword (id : Id UserMarker) (hash : String) (now : DateTime)
  | readLine
  | promptPassword (prompt : String)

/-- What a call returns. -/
@[reducible] def UserCall.Reply : UserCall → Type
  | .site call => call.Reply
  | .updatePassword _ _ _ => Except String Unit
  | .readLine | .promptPassword _ => Except String String

/-- The program that issues one call. -/
abbrev UserCall.request (call : UserCall) : Program UserCall UserCall.Reply call.Reply :=
  Program.request call

/-- The calls of the repositories among those of the commands. -/
def userEmbedding : Embedding SiteCall SiteCall.Reply UserCall UserCall.Reply where
  call := .site
  reply _ reply := reply

/-- Why a command fails. -/
inductive UserError where
  | text (message : String)
  | core (error : CoreError)
  | io (message : String)
  deriving DecidableEq

/-- An account command. -/
abbrev UserCommand : Type → Type := Fallible UserCall UserCall.Reply UserError

/-! ## Commands -/

/-- A repository method. -/
def repo {α : Type} (program : Repo α) : UserCommand α :=
  embed userEmbedding .core program

/-- Set the password of a user. -/
def updatePassword (id : Id UserMarker) (hash : String) : UserCommand Unit := do
  let now ← repo siteNow
  orElse (fun text => .core (mapErr text)) (UserCall.updatePassword id hash now).request

/-- The text without the whitespace at its end. -/
def trimEnd (s : String) : String :=
  String.ofList ((s.toList.reverse.dropWhile Text.isWhitespace).reverse)

/-- Read a password from the standard input. -/
def readPasswordStdin : UserCommand String := do
  let line ← orElse .io UserCall.readLine.request
  return trimEnd line

/-- Ask for a password. -/
def promptPassword (prompt : String) : UserCommand String :=
  orElse .io (UserCall.promptPassword prompt).request

/-- The password of a new user. -/
def newPassword (passwordStdin : Bool) : UserCommand String :=
  if passwordStdin then readPasswordStdin else promptPassword "Password: "

/-- Stop unless the password is long enough. -/
def requireLong (password : String) : UserCommand Unit :=
  if password.utf8ByteSize < 12 then throw (.text "password must be at least 12 characters")
  else pure ()

/-- The user with a name, who has to exist. -/
def findUser (username : String) : UserCommand User := do
  let found ← repo (SqliteUserRepository.findByUsername username)
  match found with
  | some user => pure user
  | none => throw (.text "user not found")

variable (crates : WebCrates)

/-- `wireforge user create`. -/
def createUser (username role : String) (passwordStdin : Bool) : UserCommand String := do
  match Role.fromStr role with
  | .error message => throw (.text message)
  | .ok role => do
      let password ← newPassword passwordStdin
      requireLong password
      let user ← repo (AuthService.createUser crates username password none role)
      return s!"Created user {user.username} (id={user.id.display})"

/-- `wireforge user reset-password`. -/
def resetPassword (username : String) : UserCommand String := do
  let user ← findUser username
  let password ← promptPassword "New password: "
  requireLong password
  let hash ← repo (AuthService.hashPassword crates password)
  updatePassword user.id hash
  return s!"Password updated for {username}."

/-- `wireforge user disable-totp`. -/
def disableTotp (username : String) : UserCommand String := do
  let user ← findUser username
  repo (SqliteUserRepository.updateTotp user.id false none)
  return s!"TOTP disabled for {username}."

/-- The account commands. -/
inductive UserCmd where
  | create (username role : String) (passwordStdin : Bool)
  | resetPassword (username : String)
  | disableTotp (username : String)

/-- What a command does, and the line it prints. -/
def UserCmd.run : UserCmd → UserCommand String
  | create username role passwordStdin => Cli.createUser crates username role passwordStdin
  | resetPassword username => Cli.resetPassword crates username
  | disableTotp username => Cli.disableTotp username

/-! ## Requests and commands -/

/-- What the outcome of a call depends on: besides the moment, whether a password can be set, and
what is typed. -/
structure UserMoment extends Moment where
  updateError : Option String
  line : Except String String
  typed : Except String String

/-- The meaning of every call at a moment. -/
def UserMoment.serve (m : UserMoment) : Handler UserCall UserCall.Reply Site
  | .site call, s => m.toMoment.serve call s
  | .updatePassword id hash now, s =>
      match m.updateError with
      | some text => (.error text, s)
      | none => (.ok (), { s with accounts := s.accounts.updatePassword id hash now })
  | .readLine, s => (m.line, s)
  | .promptPassword _, s => (m.typed, s)

/-- A request to the server, or a command. -/
inductive Party where
  | request (request : Request)
  | command (cmd : UserCmd)

/-- The calls of a request or of a command. -/
def Party.program (config : WebConfig) : Party → Program UserCall UserCall.Reply Unit
  | .request r => (fun _ => ()) <$> (r.program crates config).embed userEmbedding
  | .command cmd => (fun _ => ()) <$> (cmd.run crates).run

/-- Requests and commands that run at the same time. -/
abbrev Parties : Type := Pool UserCall UserCall.Reply Site Unit

/-- The requests and commands as they begin. -/
def parties (server : Server) (s : Site) (members : List Party) : Parties :=
  ⟨members.map (Party.program server.crates server.config), s⟩

/-- The request or command whose turn it is issues its next call. -/
def partyStep : Parties → Slot UserMoment → Parties :=
  Pool.turn UserMoment.serve

/-! ## Every interleaving -/

section Guarantees

variable {crates : WebCrates} {s : Site}

/-- A call of a command is truthful, or sets a password that is long enough. -/
def UserCall.Truthful (crates : WebCrates) : UserCall → Site → Prop
  | site call, s => call.Truthful crates s
  | updatePassword _ hash _, _ => crates.Sturdy hash
  | _, _ => True

/-- How the site evolves by a truthful call of a command. -/
theorem UserMoment.serve_evolves (m : UserMoment) (c : UserCall) (s : Site)
    (h : c.Truthful crates s) : s.Evolves crates (m.serve c s).2 := by
  cases c with
  | site call => exact m.toMoment.serve_evolves call s h
  | updatePassword id hash now =>
      unfold UserMoment.serve
      dsimp only
      split
      · exact .refl s
      · refine .modify_users s _ _ _ (fun user => ?_) fun user => ?_
        · unfold Accounts.setPassword
          split <;> rfl
        · unfold Accounts.setPassword
          split
          · exact .inl h
          · exact .inr rfl
  | readLine | promptPassword => exact .refl s

/-- The contract of requests and commands. -/
def members (crates : WebCrates) : Contract UserMoment.serve where
  good := UserCall.Truthful crates
  evolves := Site.Evolves crates
  refl := .refl
  trans _ _ _ := .trans
  step := UserMoment.serve_evolves

/-- What the calls of the repositories guarantee. -/
theorem embed_guarantees {α : Type} {post : α → Site → Prop}
    {program : Program SiteCall SiteCall.Reply α}
    (h : Guarantees (callers crates) post program s) :
    Guarantees (members crates) post (program.embed userEmbedding) s :=
  h.embed UserMoment.toMoment (fun _ _ hs => hs) (fun _ _ hc => hc) (fun _ _ _ => rfl)
    fun _ _ _ => rfl

theorem repo_guarantees {α : Type} {post : Except UserError α → Site → Prop} {program : Repo α}
    (h : Guarantees (callers crates) (fun result s => post (result.mapError .core) s)
      program.run s) : Guarantees (members crates) post (repo program).run s :=
  .map (embed_guarantees h)

/-- What follows a method whose calls are harmless. -/
theorem repo_then {α β : Type} {program : Repo α} {next : α → UserCommand β}
    (h : Issues SiteCall.Harmless program.run)
    (hnext : ∀ value s', s.Evolves crates s' →
      Guarantees (members crates) (fun _ _ => True) (next value).run s') :
    Guarantees (members crates) (fun _ _ => True) (repo program >>= next).run s := by
  have hissues : Issues (fun c => ∀ s, (members crates).good c s) (repo program).run :=
    Issues.map (h.embed fun c hc s => hc.truthful s)
  exact .run_after hissues hnext fun _ _ => trivial

/-- What follows a call of the terminal or a pure step. -/
theorem silent_then {α β : Type} {program : UserCommand α} {next : α → UserCommand β}
    (h : Issues (fun c => ∀ s, c.Truthful crates s) program.run)
    (hnext : ∀ value s', s.Evolves crates s' →
      Guarantees (members crates) (fun _ _ => True) (next value).run s') :
    Guarantees (members crates) (fun _ _ => True) (program >>= next).run s :=
  .run_after h hnext fun _ _ => trivial

/-- What follows the check of a password may use that it is long. -/
theorem long_then {α : Type} {password : String} {next : Unit → UserCommand α}
    (hnext : 12 ≤ password.utf8ByteSize →
      Guarantees (members crates) (fun _ _ => True) (next ()).run s) :
    Guarantees (members crates) (fun _ _ => True) (requireLong password >>= next).run s := by
  unfold requireLong
  split
  · exact .pure fun _ _ => trivial
  · exact hnext (by omega)

/-- A user is created with a long password. -/
theorem create_user_guarantees (username password : String) (email : Option String) (role : Role)
    (hlong : 12 ≤ password.utf8ByteSize) :
    Guarantees (callers crates) (fun _ _ => True)
      (AuthService.createUser crates username password email role).run s := by
  have hfind : Issues SiteCall.Harmless (SqliteUserRepository.findByUsername username).run :=
    Issues.run_or_else (Issues.request trivial)
  refine harmless_then hfind fun found s1 _ => ?_
  split
  · exact .pure fun _ _ => trivial
  refine .run_bind ((hash_password_guarantees password).mono ?_) fun _ _ => trivial
  intro result s2 hhash hash hresult
  obtain ⟨salt, hsalt⟩ := hhash hash hresult
  exact (create_guarantees ⟨username, email, hash, role⟩ ⟨salt, password, hlong, hsalt⟩).mono
    fun _ _ _ => trivial

/-- A command keeps the contract. -/
theorem command_guarantees (cmd : UserCmd) :
    Guarantees (members crates) (fun _ _ => True) (cmd.run crates).run s := by
  have hfind (username : String) :
      Issues (fun c => ∀ s, UserCall.Truthful crates c s) (findUser username).run := by
    have hread : Issues SiteCall.Harmless (SqliteUserRepository.findByUsername username).run :=
      Issues.run_or_else (Issues.request trivial)
    refine Issues.run_bind (Issues.map (hread.embed fun c hc s => hc.truthful s)) fun found => ?_
    cases found <;> trivial
  cases cmd with
  | create username role passwordStdin =>
      show Guarantees _ _ (createUser crates username role passwordStdin).run s
      unfold createUser
      cases Role.fromStr role with
      | error message => exact .pure fun _ _ => trivial
      | ok role =>
          have hpassword : Issues (fun c => ∀ s, UserCall.Truthful crates c s)
              (newPassword passwordStdin).run :=
            Issues.run_ite (Issues.run_bind (Issues.run_or_else (Issues.request fun _ => trivial))
              fun _ => Issues.run_pure _) (Issues.run_or_else (Issues.request fun _ => trivial))
          -- The length is checked before anything is asked of the database.
          refine silent_then hpassword fun password s1 _ => long_then fun hlong => ?_
          have hcreate : Guarantees (members crates) (fun _ _ => True)
              (repo (AuthService.createUser crates username password none role)).run s1 :=
            repo_guarantees (create_user_guarantees username password none role hlong)
          refine .run_bind (hcreate.mono fun _ _ _ _ _ => ?_) fun _ _ => trivial
          exact .pure fun _ _ => trivial
  | resetPassword username =>
      refine silent_then (hfind username) fun user s1 _ => ?_
      refine silent_then (Issues.run_or_else (Issues.request fun _ => trivial))
        fun password s2 _ => long_then fun hlong => ?_
      have hhash : Guarantees (members crates)
          (fun result _ => ∀ hash, result = .ok hash → crates.Sturdy hash)
          (repo (AuthService.hashPassword crates password)).run s2 := by
        refine repo_guarantees ((hash_password_guarantees password).mono ?_)
        intro result s hhash hash hresult
        obtain ⟨salt, hsalt⟩ := hhash hash (Outcome.map_error_ok.mp hresult)
        exact ⟨salt, password, hlong, hsalt⟩
      -- What is stored is the hash of the password that was checked.
      refine .run_bind (hhash.mono fun result s3 hsturdy hash hresult => ?_) fun _ _ => trivial
      have hupdate : Issues (fun c => ∀ s, UserCall.Truthful crates c s)
          (updatePassword user.id hash).run := by
        refine Issues.run_bind (Issues.map (Issues.embed (site_now_issues fun _ => trivial)
          fun _ hc => hc)) fun now => ?_
        exact Issues.run_or_else (Issues.request fun _ => hsturdy hash hresult)
      exact silent_then hupdate fun _ _ _ => .pure fun _ _ => trivial
  | disableTotp username =>
      refine silent_then (hfind username) fun user s1 _ => ?_
      exact repo_then (SqliteUserRepository.update_totp_issues trivial
        (fun _ _ _ _ => trivial) _ _ _) fun _ _ _ => .pure fun _ _ => trivial

/-- Whatever the others do between its calls, a request or a command keeps the contract. -/
theorem party_guarantees (config : WebConfig) (party : Party) :
    Guarantees (members crates) (fun _ _ => True) (party.program crates config) s := by
  cases party with
  | request r => exact .map (embed_guarantees (request_guarantees crates config r s))
  | command cmd => exact .map (command_guarantees cmd)

/-- All requests and commands keep the contract as they begin. -/
theorem parties_guarantee (server : Server) (s : Site) (members : List Party) :
    (parties server s members).Guarantees (Cli.members server.crates) := by
  intro program hprogram
  obtain ⟨party, -, rfl⟩ := List.mem_map.mp hprogram
  exact party_guarantees server.config party

end Guarantees

/-- In whatever order the calls of requests and commands come, no user is lost or changes its name
or role, no token is lost or changed but by its revocation, and no event leaves the audit log; each
session that names nobody, or a user that exists by its name and with its role, does so afterwards,
and passwords stay long. -/
theorem accounts_last (server : Server) (s : Site) (members : List Party)
    (schedule : List (Slot UserMoment)) :
    s.Evolves server.crates (Runs.after partyStep (parties server s members) schedule).state :=
  Pool.evolves (parties_guarantee server s members) schedule

/-- A hash is verified by the password it was made of, and by no other. -/
def VerifiesExactly (crates : WebCrates) : Prop :=
  ∀ salt password hash other, crates.hashPassword salt password = .ok hash →
    crates.verifyPassword other hash = .ok (decide (other = password))

/-- Where passwords are long to begin with, no login with a password of fewer than 12 bytes gets
into a session, in whatever order the calls of requests and commands have come. -/
theorem short_passwords_refused (server : Server) (hverify : VerifiesExactly server.crates)
    (s : Site) (hlong : s.LongPasswords server.crates) (members : List Party)
    (schedule : List (Slot UserMoment)) (outage : Outage) (session : SessionId)
    (clientIp : String) (form : LoginForm) (hshort : form.password.utf8ByteSize < 12) :
    let s' := (Runs.after partyStep (parties server s members) schedule).state
    (eval (serve outage) (loginSubmit server.crates session clientIp form) s').2.sessions =
      s'.sessions := by
  intro s'
  have hlong' : s'.LongPasswords server.crates :=
    (Pool.evolves (parties_guarantee server s members) schedule).passwords hlong
  -- The right password of a user is long.
  have hwrong (user : User) : ¬ PasswordVerified server.crates s' clientIp form user := by
    intro hverified
    obtain ⟨-, hfound, hright⟩ := hverified
    obtain ⟨salt, password, hsize, hhash⟩ := hlong' user (List.mem_of_find?_eq_some hfound)
    rw [hverify salt password user.passwordHash form.password hhash] at hright
    have hsame : form.password = password := of_decide_eq_true (Except.ok.inj hright)
    rw [hsame] at hshort
    omega
  have hrefused : Triple (serve outage) (· = s') (loginSubmit server.crates session clientIp form)
      fun _ s'' => s''.sessions = s'.sessions :=
    login_submit_unless form (fun _ hsame => hsame) fun user hverified =>
      absurd hverified (hwrong user)
  exact hrefused s' rfl

/-- Turns of the only party, to which a password is typed. -/
def typing (password : String) (turns : Nat) : List (Slot UserMoment) :=
  List.replicate turns ⟨0, { Moment.calm (.fresh .default) .inserted with
    updateError := none, line := .error "closed", typed := .ok password }⟩

/-- A user is created with a long password. -/
def userCreated : Parties :=
  Runs.after partyStep (parties .transparent (.fresh .default)
    [.command (.create "alice" "Operator" false)]) (typing "correct horse battery" 7)

theorem short_password_refused_alice :
    userCreated.state.accounts.users.rows.map (fun user => (user.username, user.role)) =
      [("alice", .operator)] ∧
    (eval (serve .none) (loginSubmit .transparent ⟨0⟩ "192.0.2.1" ⟨"alice", "correct"⟩)
      userCreated.state).2.sessions = userCreated.state.sessions :=
  ⟨by decide +kernel, short_passwords_refused .transparent (fun _ _ _ _ h => by cases h; rfl)
    (.fresh .default) (fun _ hrow => absurd hrow List.not_mem_nil) _ _ .none ⟨0⟩ "192.0.2.1"
    ⟨"alice", "correct"⟩ (by decide)⟩

end Cli

end Wireforge
