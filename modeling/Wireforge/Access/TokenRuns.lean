import Wireforge.Access.SecondFactor
import Wireforge.Access.Tokens
import Wireforge.Front.Roles
import Wireforge.Lib.History

/-!
# Bearer tokens over time

A token is issued by a request and revoked by another one, and in between requests of every kind
may come. `token_valid_iff` says which bearer tokens authenticate a request after any run of REST
requests: those that were issued, were not revoked and have not expired.
-/

namespace Wireforge

open Effect

/-! ## Requests that are not about tokens -/

/-- The call leaves the accounts alone. -/
def SiteCall.SparesAccounts (c : SiteCall) : Prop :=
  ∀ outage s, (serve outage c s).2.accounts = s.accounts

theorem SiteCall.host_spares (call : Sys) : (SiteCall.host call).SparesAccounts :=
  fun _ _ => rfl

theorem SiteCall.Reads.spares {c : SiteCall} (h : c.Reads) : c.SparesAccounts :=
  fun outage s => congrArg Site.accounts (serve_reads outage h s)

/-- All calls of the program leave the accounts alone. -/
structure Spares {ε α : Type} (program : Fallible SiteCall SiteCall.Reply ε α) : Prop where
  issues : Issues SiteCall.SparesAccounts program.run

namespace Spares

variable {ε ε' α β : Type} {program : Fallible SiteCall SiteCall.Reply ε α}

theorem pure (value : α) : Spares (Pure.pure value : Fallible SiteCall SiteCall.Reply ε α) :=
  ⟨trivial⟩

theorem bind {next : α → Fallible SiteCall SiteCall.Reply ε β} (h : Spares program)
    (hnext : ∀ value, Spares (next value)) : Spares (program >>= next) :=
  ⟨Issues.run_bind h.issues fun value => (hnext value).issues⟩

theorem always {c : SiteCall} (h : c.Reads) :
    Spares (Effect.always c.request : Fallible SiteCall SiteCall.Reply ε c.Reply) :=
  ⟨Issues.run_always (Issues.request h.spares)⟩

theorem or_else {rename : ε' → ε} {calls : Program SiteCall SiteCall.Reply (Except ε' α)}
    (h : Issues SiteCall.SparesAccounts calls) : Spares (orElse rename calls) :=
  ⟨Issues.run_or_else h⟩

theorem of_except (result : Except ApiError α) : Spares (Api.ofExcept result) := by
  cases result <;> exact ⟨trivial⟩

theorem or_fail (e : ApiError) (value : Option α) : Spares (Api.orFail e value) := by
  cases value <;> exact ⟨trivial⟩

theorem service (program : App α) : Spares (Api.service program) := by
  have hall : Issues (fun _ => True) program.run := Issues.of_forall (fun _ => trivial) _
  exact ⟨Issues.map (Issues.map (Issues.embed hall fun call _ => SiteCall.host_spares call))⟩

/-- What such a program leaves. -/
theorem accounts (h : Spares program) (outage : Outage) (s : Site) :
    (eval (serve outage) program s).2.accounts = s.accounts :=
  h.issues.frame (fun _ hc => hc outage) s

/-- A request of the services that is answered with what they return. -/
theorem respond {result : Except ApiError α} {program : α → App β} {answer : β → ApiResponse} :
    Spares (do
      let value ← Api.ofExcept result
      let outcome ← Api.service (program value)
      return answer outcome) :=
  (of_except _).bind fun _ => (service _).bind fun _ => .pure _

end Spares

theorem Api.Peers.conf_spares (crates : WebCrates) (path : String) :
    Spares (Api.Peers.peerConf crates path) :=
  (Spares.of_except _).bind fun _ => (Spares.service _).bind fun _ =>
    (Spares.or_fail _ _).bind fun _ => (Spares.service _).bind fun _ =>
      (Spares.or_fail _ _).bind fun _ =>
        Spares.bind (.always (c := .readSettings) trivial) fun _ => .of_except _

/-- The routes that write tokens. -/
def ApiRoute.WritesTokens : ApiRoute → Prop
  | createToken _ | revokeToken _ => True
  | _ => False

/-- Every other route leaves the accounts alone. -/
theorem ApiRoute.spares (crates : WebCrates) (user : AuthUser) {route : ApiRoute}
    (h : ¬ route.WritesTokens) : Spares (route.handler crates user) := by
  cases route with
  | createToken | revokeToken => exact absurd trivial h
  | interfaces | peers => exact (Spares.service _).bind fun _ => .pure _
  | tokens =>
      refine Spares.bind (.or_else (Issues.run_or_else ?_)) fun _ => .pure _
      exact Issues.request (SiteCall.Reads.spares (c := .listTokens user.id) trivial)
  | interface path | peer path =>
      exact (Spares.of_except _).bind fun _ => (Spares.service _).bind fun _ =>
        (Spares.or_fail _ _).bind fun _ => .pure _
  | createInterface | createPeer =>
      exact (Spares.of_except _).bind fun _ => (Spares.of_except _).bind fun _ => .respond
  | updateInterface | updatePeer =>
      exact (Spares.of_except _).bind fun _ => (Spares.of_except _).bind fun _ =>
        (Spares.of_except _).bind fun _ => .respond
  | deleteInterface | startInterface | stopInterface | setPeerEnabled | deletePeer =>
      exact (Spares.of_except _).bind fun _ => .respond
  | peerConfig path =>
      exact (Api.Peers.conf_spares crates path).bind fun _ => .pure _
  | peerQr path =>
      exact (Api.Peers.conf_spares crates path).bind fun _ => (Spares.of_except _).bind fun _ =>
        .pure _

/-! ## The caller -/

namespace ApiAuthUser

variable {crates : WebCrates} {outage : Outage} {s : Site}

/-- The search for the caller only reads. -/
theorem from_parts_reads (crates : WebCrates) (credentials : Credentials) :
    Issues SiteCall.Reads (fromRequestParts crates credentials).run := by
  have hfail {α : Type} (e : ApiError) (value : Option α) :
      Issues SiteCall.Reads (Api.orFail e value).run := by
    cases value <;> trivial
  unfold fromRequestParts
  cases credentials.bearer with
  | none => exact Issues.run_or_else (Issues.run_bind (Issues.run_or_else (Issues.request trivial))
      fun _ => Web.or_fail_issues _ _)
  | some bearer =>
      refine Issues.run_bind (Issues.run_or_else (Issues.run_or_else (Issues.request trivial)))
        fun _ => ?_
      refine Issues.run_bind (hfail _ _) fun _ => ?_
      refine Issues.run_bind (Issues.run_always (Issues.request trivial)) fun _ => ?_
      refine Issues.run_bind (hfail _ _) fun _ => ?_
      refine Issues.run_bind (Issues.run_or_else (Issues.run_or_else (Issues.request trivial)))
        fun _ => ?_
      exact Issues.run_bind (hfail _ _) fun _ => trivial

theorem from_parts_state (crates : WebCrates) (credentials : Credentials) (outage : Outage)
    (s : Site) : (eval (serve outage) (fromRequestParts crates credentials) s).2 = s :=
  have hreads (call : SiteCall) (h : call.Reads) (s : Site) :
      id (serve outage call s).2 = id s := serve_reads outage h s
  (from_parts_reads crates credentials).frame hreads s

/-- The active row of a hash, which is the only row with that hash. -/
theorem find_active_iff {accounts : Accounts} {hash : String} {row : ApiToken} :
    accounts.findActiveToken hash = some row ↔
      row ∈ accounts.tokens.rows ∧ row.tokenHash = hash ∧ row.revokedAt.isNone = true := by
  unfold Accounts.findActiveToken
  constructor
  · intro h
    have hrow := List.find?_some h
    simp only [decide_eq_true_eq] at hrow
    exact ⟨List.mem_of_find?_eq_some h, hrow⟩
  · rintro ⟨hmem, hhash, hactive⟩
    cases hfind : accounts.tokens.rows.find? fun token =>
        token.tokenHash = hash ∧ token.revokedAt.isNone with
    | none =>
        have hnone := List.find?_eq_none.mp hfind row hmem
        simp [hhash, hactive] at hnone
    | some found =>
        have hfound := List.find?_some hfind
        simp only [decide_eq_true_eq] at hfound
        exact congrArg some (List.inj_on_of_nodup_map accounts.uniqueHashes
          (List.mem_of_find?_eq_some hfind) hmem (hfound.1.trans hhash.symm))

/-- A bearer token names the owner of the active row with its hash. -/
theorem from_bearer_iff (bearer : String) (user : Id UserMarker)
    (hreads : ∀ call, call.Reads → outage.error call = none) :
    (∃ caller, (eval (serve outage) (fromBearer crates bearer) s).1 = .ok caller ∧
        caller.id = user) ↔
      ∃ row ∈ s.accounts.tokens.rows, row.tokenHash = crates.sha256 bearer ∧
        row.userId = user ∧ row.isActive s.host.env.now = true := by
  have hfind : (SqliteApiTokenRepository.findActiveByHash (crates.sha256 bearer)).run.exec
      (serve outage) s = (.ok (s.accounts.findActiveToken (crates.sha256 bearer)), s) := by
    show eval (serve outage) (SqliteApiTokenRepository.findActiveByHash _) s = _
    unfold SqliteApiTokenRepository.findActiveByHash
    simp only [eval_or_else, exec_request, serve, Outage.read, Outage.outcome,
      hreads (.findActiveToken _) trivial]
    rfl
  have howner (id : Id UserMarker) : (SqliteUserRepository.findById id).run.exec
      (serve outage) s = (.ok (s.accounts.users.find id), s) := by
    show eval (serve outage) (SqliteUserRepository.findById id) s = _
    unfold SqliteUserRepository.findById
    simp only [eval_or_else, exec_request, serve, Outage.read, Outage.outcome,
      hreads (.findUser _) trivial]
    rfl
  have hunique {row row' : ApiToken} (hrow : s.accounts.findActiveToken (crates.sha256 bearer) =
      some row) (hmem : row' ∈ s.accounts.tokens.rows)
      (hhash : row'.tokenHash = crates.sha256 bearer)
      (hactive : row'.isActive s.host.env.now = true) : row' = row := by
    rw [ApiToken.isActive, Bool.and_eq_true] at hactive
    exact Option.some.inj ((find_active_iff.mpr ⟨hmem, hhash, hactive.1⟩).symm.trans hrow)
  unfold fromBearer
  simp only [eval_bind, eval_or_else, hfind]
  cases hrow : s.accounts.findActiveToken (crates.sha256 bearer) with
  | none =>
      refine iff_of_false ?_ ?_
      · rintro ⟨caller, hcaller, -⟩
        cases hcaller
      · rintro ⟨row, hmem, hhash, -, hactive⟩
        rw [ApiToken.isActive, Bool.and_eq_true] at hactive
        cases hrow.symm.trans (find_active_iff.mpr ⟨hmem, hhash, hactive.1⟩)
  | some row =>
      obtain ⟨hmem, hhash, -⟩ := find_active_iff.mp hrow
      obtain ⟨owner, hfound⟩ := Option.isSome_iff_exists.mp (s.accounts.owners row hmem)
      have hid : owner.id = row.userId := (Table.find_eq_some.mp hfound).2
      simp only [Except.mapError, Api.orFail, eval_pure, eval_always, exec_request, serve, handle]
      cases hactive : row.isActive s.host.env.now with
      | false =>
          rw [Option.filter_some, hactive]
          refine iff_of_false ?_ ?_
          · rintro ⟨caller, hcaller, -⟩
            cases hcaller
          · rintro ⟨row', hmem', hhash', -, hactive'⟩
            rw [hunique hrow hmem' hhash' hactive', hactive] at hactive'
            cases hactive'
      | true =>
          rw [Option.filter_some, hactive, if_pos rfl]
          simp only [eval_pure, howner, hfound]
          constructor
          · rintro ⟨caller, hcaller, rfl⟩
            obtain rfl := Except.ok.inj hcaller
            exact ⟨row, hmem, hhash, hid.symm, hactive⟩
          · rintro ⟨row', hmem', hhash', rfl, hactive'⟩
            rw [hunique hrow hmem' hhash' hactive']
            exact ⟨_, rfl, hid⟩

end ApiAuthUser

/-! ## Revocation -/

namespace Api.Tokens

variable {crates : WebCrates} {user : AuthUser} {path : String} {outage : Outage} {s : Site}

/-- What the handler can do: it stops and leaves the rows alone, or it revokes a row of the caller
that was not revoked. -/
inductive RevokeOutcome (crates : WebCrates) (user : AuthUser) (path : String) (s : Site) :
    Except (Stop ApiError) ApiResponse × Site → Prop
  | failed (e : Stop ApiError) (s' : Site)
      (hrows : s'.accounts.tokens.rows = s.accounts.tokens.rows) :
      RevokeOutcome crates user path s (.error e, s')
  | revoked (row : ApiToken) (hpath : crates.parseUuid path = some row.id.value)
      (hmem : row ∈ s.accounts.tokens.rows) (howner : row.userId = user.id)
      (hactive : row.revokedAt = none) :
      RevokeOutcome crates user path s (.ok .noContent,
        { s with accounts := (s.accounts.revokeToken row.id user.id s.host.env.now).2 })

/-- An update that applies to no row changes no row. -/
theorem revoke_token_none {accounts : Accounts} {id : Id ApiTokenMarker} {owner : Id UserMarker}
    {now : DateTime} (h : (accounts.revokeToken id owner now).1 = 0) :
    (accounts.revokeToken id owner now).2.tokens.rows = accounts.tokens.rows := by
  have hnone : ∀ row ∈ accounts.tokens.rows, ¬ Accounts.revocable id owner row = true :=
    List.countP_eq_zero.mp h
  show accounts.tokens.rows.map (Accounts.setRevoked id owner now) = _
  refine (List.map_congr_left fun row hrow => ?_).trans (List.map_id _)
  exact if_neg (hnone row hrow)

theorem revoke_outcome (crates : WebCrates) (user : AuthUser) (path : String) (outage : Outage)
    (s : Site) :
    RevokeOutcome crates user path s (eval (serve outage) (revoke crates user path) s) := by
  unfold revoke Api.parseId
  cases hpath : crates.parseUuid path with
  | none => exact .failed _ s rfl
  | some uuid =>
      simp only [ofExcept, eval_bind, eval_pure, eval_repo, SqliteApiTokenRepository.revoke,
        siteNow, eval_always, exec_request, eval_or_else, serve, handle, Outage.run]
      cases herror : outage.error (.revokeToken ⟨uuid⟩ user.id s.host.env.now) with
      | some text => exact .failed _ s rfl
      | none =>
          simp only [Except.mapError, eval_ite, eval_throw, eval_pure]
          by_cases hcount : (s.accounts.revokeToken ⟨uuid⟩ user.id s.host.env.now).1 = 0
          · simp only [if_pos hcount]
            exact .failed _ _ (revoke_token_none hcount)
          · simp only [if_neg hcount]
            obtain ⟨row, hmem, hrevocable⟩ :=
              List.countP_pos_iff.mp (Nat.pos_of_ne_zero hcount)
            simp only [Accounts.revocable, Bool.and_eq_true, decide_eq_true_eq,
              Option.isNone_iff_eq_none] at hrevocable
            obtain ⟨⟨hid, howner⟩, hactive⟩ := hrevocable
            obtain rfl : uuid = row.id.value := by rw [hid]
            exact .revoked row hpath hmem howner hactive

end Api.Tokens

/-! ## One request -/

/-- A token that can be inserted has an identifier of its own. -/
theorem Accounts.insert_token_fresh {accounts accounts' : Accounts} {row : ApiToken}
    (h : accounts.insertToken row = .ok accounts') : accounts.tokens.find row.id = none := by
  unfold insertToken at h
  split_ifs at h with hid hhash howner
  exact hid

section Requests

variable {server : Server} {s s' : Site} {a : Served}

/-- The request has issued a token: its text, its owner, its identifier and its expiry. -/
def Served.Issued (a : Served) (server : Server) (s : Site) (plain : String)
    (owner : Id UserMarker) (id : Id ApiTokenMarker) (expiry : Option DateTime) : Prop :=
  ∃ credentials req caller info, a.request = .api credentials (.createToken req) ∧
    a.caller server s = some caller ∧
    (a.outcome server s).1 = .api (.ok (.createdToken plain info)) ∧ owner = caller.id ∧
    id = ⟨a.moment.env.uuid⟩ ∧
    expiry = Api.Tokens.expiresAt a.moment.env.now req.expiresInDays

/-- The request has revoked the token with an identifier. -/
def Served.Revoked (a : Served) (server : Server) (s : Site) (id : Id ApiTokenMarker) : Prop :=
  ∃ credentials path, a.request = .api credentials (.revokeToken path) ∧
    server.crates.parseUuid path = some id.value ∧
    (a.outcome server s).1 = .api (.ok .noContent)

/-- What a REST request does to the tokens. -/
inductive TokenStep (server : Server) (s : Site) (a : Served) (s' : Site) : Prop
  | idle (hrows : s'.accounts.tokens.rows = s.accounts.tokens.rows)
      (hissued : ∀ plain owner id expiry, ¬ a.Issued server s plain owner id expiry)
      (hrevoked : ∀ id, ¬ a.Revoked server s id)
  | issued (row : ApiToken) (plain : String)
      (hrows : s'.accounts.tokens.rows = s.accounts.tokens.rows ++ [row])
      (hfresh : s.accounts.tokens.find row.id = none)
      (hhash : row.tokenHash = server.crates.sha256 plain) (hactive : row.revokedAt = none)
      (hissued : ∀ plain' owner id expiry, a.Issued server s plain' owner id expiry ↔
        plain' = plain ∧ owner = row.userId ∧ id = row.id ∧ expiry = row.expiresAt)
      (hrevoked : ∀ id, ¬ a.Revoked server s id)
  | revoked (row : ApiToken) (now : DateTime) (hmem : row ∈ s.accounts.tokens.rows)
      (hactive : row.revokedAt = none)
      (hrows : s'.accounts.tokens.rows =
        s.accounts.tokens.rows.map (Accounts.setRevoked row.id row.userId now))
      (hissued : ∀ plain owner id expiry, ¬ a.Issued server s plain owner id expiry)
      (hrevoked : ∀ id, a.Revoked server s id ↔ id = row.id)

/-- A request that stops neither issues nor revokes a token. -/
theorem TokenStep.of_error {e : Stop ApiError}
    (hanswer : (a.outcome server s).1 = .api (.error e))
    (hrows : s'.accounts.tokens.rows = s.accounts.tokens.rows) : TokenStep server s a s' := by
  refine .idle hrows ?_ ?_
  · rintro plain owner id expiry ⟨_, _, _, _, -, -, hok, -⟩
    cases hanswer.symm.trans hok
  · rintro id ⟨_, _, -, -, hok⟩
    cases hanswer.symm.trans hok

/-- A request whose caller is not found stops; otherwise the handler runs for the caller. -/
theorem api_outcome {credentials : Credentials} {route : ApiRoute}
    (hrequest : a.request = .api credentials route) (server : Server) (s : Site) :
    (∃ e, a.outcome server s = (.api (.error e), s.seen a.moment)) ∨
      ∃ caller, a.caller server s = some caller ∧
        a.outcome server s =
          (.api (eval (serve a.moment.outage) (route.handler server.crates caller)
            (s.seen a.moment)).1,
          (eval (serve a.moment.outage) (route.handler server.crates caller)
            (s.seen a.moment)).2) := by
  have hcaller : a.caller server s = (eval (serve a.moment.outage)
      (ApiAuthUser.fromRequestParts server.crates credentials) (s.seen a.moment)).1.toOption := by
    unfold Served.caller
    rw [hrequest]
  have houtcome : a.outcome server s =
      (.api (eval (serve a.moment.outage) (apiProgram server.crates credentials route)
        (s.seen a.moment)).1,
      (eval (serve a.moment.outage) (apiProgram server.crates credentials route)
        (s.seen a.moment)).2) := by
    unfold Served.outcome
    rw [hrequest]
    exact exec_map _ _ _
  have hsame := ApiAuthUser.from_parts_state server.crates credentials a.moment.outage
    (s.seen a.moment)
  rw [hcaller, houtcome]
  unfold apiProgram
  rw [eval_bind]
  rcases heval : eval (serve a.moment.outage)
    (ApiAuthUser.fromRequestParts server.crates credentials) (s.seen a.moment) with
    ⟨e | caller, t⟩ <;> rw [heval] at hsame <;> obtain rfl : t = s.seen a.moment := hsame
  · exact .inl ⟨e, rfl⟩
  · exact .inr ⟨caller, rfl, rfl⟩

/-- A request for a token, with the caller found. -/
theorem create_step {credentials : Credentials} {req : CreateTokenRequest} {caller : AuthUser}
    (hrequest : a.request = .api credentials (.createToken req))
    (hcaller : a.caller server s = some caller)
    {outcome : Except (Stop ApiError) ApiResponse × Site}
    (houtcome : a.outcome server s = (.api outcome.1, outcome.2))
    (hcreate : Api.Tokens.CreateOutcome server.crates caller req a.moment.outage
      (s.seen a.moment) outcome) :
    TokenStep server s a outcome.2 := by
  cases hcreate with
  | refused | crashed | failed => exact .of_error (by rw [houtcome]) rfl
  | issued row accounts hrange hid howner hhash hexpiry hactive hinsert =>
      obtain ⟨-, -, hrows, -⟩ := Accounts.insert_token_ok hinsert
      refine .issued row _ hrows (Accounts.insert_token_fresh hinsert) hhash hactive ?_ ?_
      · intro plain' owner id expiry
        constructor
        · rintro ⟨_, _, _, _, hrequest', hcaller', hok, rfl, rfl, rfl⟩
          obtain ⟨rfl, hroute⟩ := Request.api.inj (hrequest.symm.trans hrequest')
          obtain rfl := ApiRoute.createToken.inj hroute
          obtain rfl := Option.some.inj (hcaller.symm.trans hcaller')
          rw [houtcome] at hok
          injection hok with hok
          injection hok with hok
          injection hok with hplain hinfo
          exact ⟨hplain.symm, howner.symm, hid.symm, hexpiry.symm⟩
        · rintro ⟨rfl, rfl, rfl, rfl⟩
          exact ⟨credentials, req, caller, _, hrequest, hcaller, by rw [houtcome], howner, hid,
            hexpiry⟩
      · rintro id ⟨_, _, hrequest', -, -⟩
        obtain ⟨-, hroute⟩ := Request.api.inj (hrequest.symm.trans hrequest')
        cases hroute

/-- A request to revoke a token, with the caller found. -/
theorem revoke_step {credentials : Credentials} {path : String} {caller : AuthUser}
    (hrequest : a.request = .api credentials (.revokeToken path))
    {outcome : Except (Stop ApiError) ApiResponse × Site}
    (houtcome : a.outcome server s = (.api outcome.1, outcome.2))
    (hrevoke : Api.Tokens.RevokeOutcome server.crates caller path (s.seen a.moment) outcome) :
    TokenStep server s a outcome.2 := by
  cases hrevoke with
  | failed e s' hrows => exact .of_error (by rw [houtcome]) hrows
  | revoked row hpath hmem howner hactive =>
      refine .revoked row a.moment.env.now hmem hactive ?_ ?_ ?_
      · rw [howner]
        rfl
      · rintro plain owner id expiry ⟨_, _, _, _, hrequest', -⟩
        obtain ⟨-, hroute⟩ := Request.api.inj (hrequest.symm.trans hrequest')
        cases hroute
      · intro id
        constructor
        · rintro ⟨_, _, hrequest', hpath', -⟩
          obtain ⟨-, hroute⟩ := Request.api.inj (hrequest.symm.trans hrequest')
          obtain rfl := ApiRoute.revokeToken.inj hroute
          exact congrArg Id.mk (Option.some.inj (hpath'.symm.trans hpath))
        · rintro rfl
          exact ⟨credentials, path, hrequest, hpath, by rw [houtcome]⟩

theorem rest_step {credentials : Credentials} {route : ApiRoute}
    (hrequest : a.request = .api credentials route) (server : Server) (s : Site) :
    TokenStep server s a (serveStep server s a) := by
  unfold serveStep
  rcases api_outcome hrequest server s with ⟨e, houtcome⟩ | ⟨caller, hcaller, houtcome⟩
  · rw [houtcome]
    exact .of_error (by rw [houtcome]) rfl
  · rw [houtcome]
    by_cases hwrites : route.WritesTokens
    · cases route with
      | createToken req =>
          exact create_step hrequest hcaller houtcome (Api.Tokens.create_outcome _ _ _ _ _)
      | revokeToken path =>
          exact revoke_step hrequest houtcome (Api.Tokens.revoke_outcome _ _ _ _ _)
      | _ => cases hwrites
    · have haccounts := (ApiRoute.spares server.crates caller hwrites).accounts a.moment.outage
        (s.seen a.moment)
      refine .idle (congrArg (·.tokens.rows) haccounts) ?_ ?_
      · rintro plain owner id expiry ⟨_, _, _, _, hrequest', -⟩
        obtain ⟨-, rfl⟩ := Request.api.inj (hrequest.symm.trans hrequest')
        exact hwrites trivial
      · rintro id ⟨_, _, hrequest', -⟩
        obtain ⟨-, rfl⟩ := Request.api.inj (hrequest.symm.trans hrequest')
        exact hwrites trivial

end Requests

/-! ## A run -/

open History

section Run

variable (server : Server) (start : Site)

/-- The last request of a run has issued a token. -/
def issuedAt (plain : String) (owner : Id UserMarker) (id : Id ApiTokenMarker)
    (expiry : Option DateTime) (before : List Served) (a : Served) : Prop :=
  a.Issued server (Runs.after (serveStep server) start before) plain owner id expiry

/-- The last request of a run has revoked a token. -/
def revokedAt (id : Id ApiTokenMarker) (before : List Served) (a : Served) : Prop :=
  a.Revoked server (Runs.after (serveStep server) start before) id

/-- The rows are the tokens that have been issued, and a row is revoked if its token has been. -/
structure TokensRecorded (run : List Served) (s : Site) : Prop where
  known : ∀ row ∈ s.accounts.tokens.rows, ∃ plain, row.tokenHash = server.crates.sha256 plain ∧
    Once (issuedAt server start plain row.userId row.id row.expiresAt) run
  kept : ∀ plain owner id expiry, Once (issuedAt server start plain owner id expiry) run →
    ∃ row ∈ s.accounts.tokens.rows, row.tokenHash = server.crates.sha256 plain ∧
      row.userId = owner ∧ row.id = id ∧ row.expiresAt = expiry
  revoked : ∀ row ∈ s.accounts.tokens.rows,
    row.revokedAt = none ↔ ¬ Once (revokedAt server start row.id) run
  present : ∀ id, Once (revokedAt server start id) run →
    ∃ row ∈ s.accounts.tokens.rows, row.id = id

variable {server start} {run : List Served} {a : Served} {s s' : Site}

theorem Accounts.set_revoked_expiry (id : Id ApiTokenMarker) (owner : Id UserMarker)
    (now : DateTime) (token : ApiToken) :
    (setRevoked id owner now token).expiresAt = token.expiresAt := by
  unfold setRevoked
  split <;> rfl

/-- A revocation concerns the row with the identifier and no other one. -/
theorem set_revoked_active_iff {row other : ApiToken} {now : DateTime}
    (hunique : other.id = row.id → other = row) (hactive : row.revokedAt = none) :
    (Accounts.setRevoked row.id row.userId now other).revokedAt = none ↔
      other.id ≠ row.id ∧ other.revokedAt = none := by
  unfold Accounts.setRevoked
  by_cases hid : other.id = row.id
  · obtain rfl := hunique hid
    rw [if_pos (by simp [Accounts.revocable, hactive])]
    simp
  · rw [if_neg (by simp [Accounts.revocable, hid])]
    simp [hid]

theorem TokensRecorded.step (h : TokensRecorded server start run s)
    (hs : s = Runs.after (serveStep server) start run) (hstep : TokenStep server s a s') :
    TokensRecorded server start (run ++ [a]) s' := by
  have hissue {plain owner id expiry} :
      Once (issuedAt server start plain owner id expiry) (run ++ [a]) ↔
        a.Issued server s plain owner id expiry ∨
          Once (issuedAt server start plain owner id expiry) run := by
    rw [once_snoc, hs]
    rfl
  have hrevoke {id} : Once (revokedAt server start id) (run ++ [a]) ↔
      a.Revoked server s id ∨ Once (revokedAt server start id) run := by
    rw [once_snoc, hs]
    rfl
  cases hstep with
  | idle hrows hissued hrevoked =>
      constructor
      · simpa only [hrows, hissue, hissued, false_or] using h.known
      · simpa only [hrows, hissue, hissued, false_or] using h.kept
      · simpa only [hrows, hrevoke, hrevoked, false_or] using h.revoked
      · simpa only [hrows, hrevoke, hrevoked, false_or] using h.present
  | issued row plain hrows hfresh hhash hactive hissued hrevoked =>
      have hmem {r} : r ∈ s'.accounts.tokens.rows ↔ r ∈ s.accounts.tokens.rows ∨ r = row := by
        rw [hrows, List.mem_append, List.mem_singleton]
      constructor
      · intro r hr
        rcases hmem.mp hr with hr | rfl
        · obtain ⟨plain', hhash', honce⟩ := h.known r hr
          exact ⟨plain', hhash', hissue.mpr (.inr honce)⟩
        · exact ⟨plain, hhash, hissue.mpr (.inl ((hissued _ _ _ _).mpr ⟨rfl, rfl, rfl, rfl⟩))⟩
      · intro plain' owner id expiry honce
        rcases hissue.mp honce with hnow | honce
        · obtain ⟨rfl, rfl, rfl, rfl⟩ := (hissued _ _ _ _).mp hnow
          exact ⟨row, hmem.mpr (.inr rfl), hhash, rfl, rfl, rfl⟩
        · obtain ⟨r, hr, hrest⟩ := h.kept plain' owner id expiry honce
          exact ⟨r, hmem.mpr (.inl hr), hrest⟩
      · intro r hr
        simp only [hrevoke, hrevoked, false_or]
        rcases hmem.mp hr with hr | rfl
        · exact h.revoked r hr
        · -- An identifier that is fresh has not been revoked.
          refine iff_of_true hactive fun honce => ?_
          obtain ⟨other, hother, hid⟩ := h.present r.id honce
          exact Table.find_eq_none.mp hfresh other hother hid
      · intro id honce
        simp only [hrevoke, hrevoked, false_or] at honce
        obtain ⟨r, hr, hid⟩ := h.present id honce
        exact ⟨r, hmem.mpr (.inl hr), hid⟩
  | revoked row now hrow hactive hrows hissued hrevoked =>
      have hmem {r} : r ∈ s'.accounts.tokens.rows ↔ ∃ old ∈ s.accounts.tokens.rows,
          Accounts.setRevoked row.id row.userId now old = r := by
        rw [hrows, List.mem_map]
      constructor
      · intro r hr
        obtain ⟨old, hold, rfl⟩ := hmem.mp hr
        simpa only [hissue, hissued, false_or, Accounts.set_revoked_hash,
          Accounts.set_revoked_user, Accounts.set_revoked_id, Accounts.set_revoked_expiry]
          using h.known old hold
      · intro plain owner id expiry honce
        simp only [hissue, hissued, false_or] at honce
        obtain ⟨old, hold, hrest⟩ := h.kept plain owner id expiry honce
        refine ⟨_, hmem.mpr ⟨old, hold, rfl⟩, ?_⟩
        simpa only [Accounts.set_revoked_hash, Accounts.set_revoked_user,
          Accounts.set_revoked_id, Accounts.set_revoked_expiry] using hrest
      · intro r hr
        obtain ⟨old, hold, rfl⟩ := hmem.mp hr
        rw [set_revoked_active_iff (fun hid => Table.eq_of_key hold hrow hid) hactive,
          Accounts.set_revoked_id, hrevoke, hrevoked, not_or, h.revoked old hold]
      · intro id honce
        rw [hrevoke, hrevoked] at honce
        rcases honce with rfl | honce
        · exact ⟨_, hmem.mpr ⟨row, hrow, rfl⟩, Accounts.set_revoked_id _ _ _ _⟩
        · obtain ⟨old, hold, hid⟩ := h.present id honce
          exact ⟨_, hmem.mpr ⟨old, hold, rfl⟩, (Accounts.set_revoked_id _ _ _ _).trans hid⟩

/-- A run of REST requests from a site without tokens. -/
theorem tokens_recorded (hstart : start.accounts.tokens.rows = []) (run : List Served)
    (hrun : ∀ a ∈ run, ∃ credentials route, a.request = .api credentials route) :
    TokensRecorded server start run (Runs.after (serveStep server) start run) := by
  refine invariant ?_ ?_ run hrun
  · exact ⟨by simp [hstart], by simp, by simp [hstart], by simp⟩
  · rintro run a ⟨credentials, route, hrequest⟩ h
    exact h.step rfl (rest_step hrequest server _)

end Run

/-- After every run of REST requests on a site without tokens, a bearer token authenticates as a
user exactly if it was issued to that user, was not revoked, and has not expired. A revocation by
anyone but the owner, or of a revoked token, is an error and leaves the table of tokens as it is. -/
theorem token_valid_iff (server : Server) (hhash : Function.Injective server.crates.sha256)
    (start : Site) (hstart : start.accounts.tokens.rows = []) :
    (∀ run : List Served,
      (∀ a ∈ run, ∃ credentials route, a.request = .api credentials route) →
      ∀ m : Moment, (∀ call, call.Reads → m.outage.error call = none) →
      ∀ (plain : String) (session : SessionId) (user : Id UserMarker),
        (∃ caller, (eval (serve m.outage)
            (ApiAuthUser.fromRequestParts server.crates ⟨some plain, session⟩)
            ((Runs.after (serveStep server) start run).seen m)).1 = .ok caller ∧
          caller.id = user) ↔
        ∃ id expiry, Once (issuedAt server start plain user id expiry) run ∧
          ¬ Once (revokedAt server start id) run ∧ ∀ t ∈ expiry, m.env.now < t) ∧
    ∀ (s : Site) (outage : Outage) (caller : AuthUser) (path : String),
      (∀ row ∈ s.accounts.tokens.rows, server.crates.parseUuid path = some row.id.value →
        row.userId = caller.id → row.revokedAt ≠ none) →
      ∃ e s', eval (serve outage) (Api.Tokens.revoke server.crates caller path) s =
          (.error e, s') ∧
        s'.accounts.tokens.rows = s.accounts.tokens.rows := by
  constructor
  · intro run hrun m hreads plain session user
    have hrecorded := @tokens_recorded server start hstart run hrun
    refine (ApiAuthUser.from_bearer_iff plain user hreads).trans ?_
    have hactive (row : ApiToken) : row.isActive m.env.now = true ↔
        row.revokedAt = none ∧ ∀ t ∈ row.expiresAt, m.env.now < t := by
      unfold ApiToken.isActive
      rw [Bool.and_eq_true, Option.isNone_iff_eq_none, Option.all_eq_true]
      simp only [decide_eq_true_eq, Option.mem_def]
    constructor
    · rintro ⟨row, hrow, hrowHash, rfl, hrowActive⟩
      obtain ⟨hunrevoked, hexpiry⟩ := (hactive row).mp hrowActive
      obtain ⟨plain', hplain', honce⟩ := hrecorded.known row hrow
      obtain rfl := hhash (hplain'.symm.trans hrowHash)
      exact ⟨row.id, row.expiresAt, honce, (hrecorded.revoked row hrow).mp hunrevoked, hexpiry⟩
    · rintro ⟨id, expiry, honce, hunrevoked, hexpiry⟩
      obtain ⟨row, hrow, hrowHash, rfl, rfl, rfl⟩ := hrecorded.kept plain user id expiry honce
      exact ⟨row, hrow, hrowHash, rfl,
        (hactive row).mpr ⟨(hrecorded.revoked row hrow).mpr hunrevoked, hexpiry⟩⟩
  · intro s outage caller path hforeign
    have houtcome := Api.Tokens.revoke_outcome server.crates caller path outage s
    generalize eval (serve outage) (Api.Tokens.revoke server.crates caller path) s = outcome
      at houtcome ⊢
    cases houtcome with
    | failed e s' hrows => exact ⟨e, s', rfl, hrows⟩
    | revoked row hpath hmem howner hactive =>
        exact absurd hactive (hforeign row hmem hpath howner)

/-- A server whose user is logged in in every session. -/
def signedInSite : Site :=
  { enrolledSite with
    sessions := fun _ => { Session.fresh with authUser := some ⟨⟨0⟩, "admin", .admin⟩ } }

/-- The user asks for a token that never expires. -/
def tokenRequest : Served :=
  ⟨.api ⟨none, ⟨0⟩⟩ (.createToken ⟨"ci", none⟩), .calm signedInSite .inserted⟩

theorem token_valid_once :
    ∃ caller, (eval (serve .none)
        (ApiAuthUser.fromRequestParts Server.transparent.crates
          ⟨some (Api.Tokens.plaintext signedInSite.draws.token), ⟨1⟩⟩)
        ((Runs.after (serveStep .transparent) signedInSite [tokenRequest]).seen
          (.calm signedInSite .inserted))).1 = .ok caller ∧ caller.id = ⟨0⟩ := by
  refine ((token_valid_iff .transparent (fun _ _ h => h) signedInSite rfl).1 [tokenRequest] ?_
    (.calm signedInSite .inserted) (fun _ _ => rfl) _ ⟨1⟩ ⟨0⟩).mpr
      ⟨⟨signedInSite.host.env.uuid⟩, none, ?_, ?_, ?_⟩
  · intro a ha
    rw [List.mem_singleton.mp ha]
    exact ⟨_, _, rfl⟩
  · exact ⟨[], tokenRequest, [], rfl, _, _, ⟨⟨0⟩, "admin", .admin⟩, _, rfl, rfl, rfl, rfl, rfl, rfl⟩
  · rintro ⟨first, a, rest, hrun, credentials, path, hrequest, -⟩
    have ha : a ∈ [tokenRequest] := by
      rw [hrun]
      simp
    rw [List.mem_singleton.mp ha] at hrequest
    cases hrequest
  · intro t ht
    cases ht

end Wireforge
