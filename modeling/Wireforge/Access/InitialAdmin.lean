import Wireforge.Lib.Observed
import Wireforge.Site.Moments
import Wireforge.Web.Auth
import Wireforge.Web.ContextSpec

/-!
# Concurrent setups

The setup page and the service behind it count the users in statements of their own and insert the
first user in a later one. `one_admin_iff` shows for every interleaving of any number of requests
that they create at most one user exactly when none of them inserts a user after another one has
been inserted since it last counted them.
-/

namespace Wireforge

open Effect

/-- How far a request has come. -/
inductive SetupPhase where
  | fresh
  | counted (users : Nat)
  | done

open SetupPhase

/-- A request inserts a user only after it has counted none. -/
def setup : Protocol SiteCall SiteCall.Reply SetupPhase where
  allowed phase
    | .insertUser _ => phase = counted 0
    | .countUsers | .drawSalt | .host .uuidV7 | .host .utcNow => True
    | .insertSession _ _ _ | .insertAudit _ => True
    | _ => False
  next phase
    | .countUsers, .ok users => counted users
    | .countUsers, _ => fresh
    | .insertUser _, _ => done
    | _, _ => phase

variable {crates : WebCrates} {phase : SetupPhase}

/-! ## A request -/

/-- Counting the users, for the setup page or for the service. -/
theorem count_follows {post : SetupPhase → Except CoreError Nat → Prop}
    (hcounted : ∀ users, post (counted users) (.ok users))
    (herror : ∀ e, post fresh (.error e)) :
    Follows setup post phase SqliteUserRepository.count.run := by
  refine Follows.run_or_else.mpr ⟨trivial, fun reply => ?_⟩
  cases reply with
  | ok users => exact hcounted users
  | error text => exact herror _

/-- The service inserts the first user after it has counted none. -/
theorem register_follows {post : SetupPhase → Except CoreError User → Prop}
    (username password : String) (email : Option String)
    (hpost : ∀ phase result, post phase result) :
    Follows setup post phase
      (AuthService.registerInitialAdmin crates username password email).run := by
  refine Follows.run_bind.mpr (count_follows (fun users => ?_) fun e => hpost _ _)
  show Follows setup post _ (if 0 < users then _ else _ : Repo User).run
  rw [Follows.run_ite]
  split
  · exact hpost _ _
  · rename_i hnone
    obtain rfl : users = 0 := Nat.eq_zero_of_not_pos hnone
    have hsilent : Silent setup (counted 0) (AuthService.hashPassword crates password) :=
      .of_issues (AuthService.hash_password_issues ⟨trivial, fun _ => rfl⟩ crates password)
    refine Follows.run_bind.mpr (hsilent.follows fun result => ?_)
    cases result with
    | error e => exact hpost _ _
    | ok hash =>
        refine Follows.run_bind.mpr (Follows.run_always.mpr ⟨trivial, fun uuid => ?_⟩)
        refine Follows.run_bind.mpr (Follows.run_always.mpr ⟨trivial, fun now => ?_⟩)
        refine Follows.run_bind.mpr (Follows.run_or_else.mpr ⟨rfl, fun reply => ?_⟩)
        cases reply with
        | error text => exact hpost _ _
        | ok value => exact hpost _ _

/-- A request of the setup page. -/
theorem setup_submit_follows (session : SessionId) (clientIp : String) (form : SetupForm) :
    Follows setup (fun _ _ => True) fresh
      (Routes.Auth.setupSubmit crates session clientIp form).run := by
  refine Follows.run_bind.mpr (Follows.run_or_else.mpr (count_follows (fun users => ?_) ?_))
  · show Follows setup _ _ (if 0 < users then _ else _ : Web Response).run
    rw [Follows.run_ite]
    split
    · trivial
    rw [Follows.run_ite]
    split
    · trivial
    rw [Follows.run_ite]
    split
    · trivial
    refine Follows.run_bind.mpr (Follows.run_or_else.mpr
      (register_follows form.username form.password form.email fun phase result => ?_))
    cases result with
    | error e => trivial
    | ok user =>
        refine Follows.run_bind.mpr (Follows.run_or_else.mpr ⟨trivial, fun reply => ?_⟩)
        cases reply with
        | error text => trivial
        | ok value =>
            have haudit : Silent (ε := Stop WebError) setup phase
                (Web.auditRecord (some user.id) (some clientIp) .userCreated (some "user")
                  (some user.id.display) (some [("bootstrap", .bool true)])) :=
              .of_issues (Web.audit_record_issues ⟨trivial, fun _ => rfl⟩
                (fun _ => ⟨trivial, fun _ => rfl⟩) _ _ _ _ _ _)
            refine Follows.run_bind.mpr (haudit.follows fun result => ?_)
            cases result <;> trivial
  · intro e
    trivial

/-- A request to create the first user: one of the setup page, or a call of the service. -/
inductive SetupRequest where
  | submit (session : SessionId) (clientIp : String) (form : SetupForm)
  | register (username password : String) (email : Option String)

/-- The program of a request. -/
def SetupRequest.program (crates : WebCrates) :
    SetupRequest → Program SiteCall SiteCall.Reply Unit
  | submit session clientIp form =>
      (fun _ => ()) <$> (Routes.Auth.setupSubmit crates session clientIp form).run
  | register username password email =>
      (fun _ => ()) <$> (AuthService.registerInitialAdmin crates username password email).run

theorem setup_request_follows (request : SetupRequest) :
    Follows setup (fun _ _ => True) fresh (request.program crates) := by
  cases request with
  | submit session clientIp form =>
      exact Follows.map.mpr (setup_submit_follows session clientIp form)
  | register username password email =>
      exact Follows.map.mpr (register_follows username password email fun _ _ => trivial)

/-! ## A pool of requests -/

/-- Requests that are handled at the same time. -/
abbrev SetupRequests : Type := Pool SiteCall SiteCall.Reply Site Unit

/-- The requests as they arrive. -/
def setupRequests (crates : WebCrates) (s : Site) (requests : List SetupRequest) :
    SetupRequests :=
  ⟨requests.map (SetupRequest.program crates), s⟩

/-- The request whose turn it is issues its next call. -/
def setupStep : SetupRequests → Slot Moment → SetupRequests :=
  Pool.turn Moment.serve

/-- The call inserts a user. -/
def insertsUser (m : Moment) (s : Site) : SiteCall → Bool
  | .insertUser row =>
      (m.outage.error (.insertUser row)).isNone && (s.accounts.insertUser row).isOk
  | _ => false

/-- The call counts the users. -/
def SiteCall.counts : SiteCall → Bool
  | .countUsers => true
  | _ => false

/-- Whether a user has been inserted since each request counted them. -/
def staleCounts : Observer SiteCall Site Moment (Nat → Bool) := fun stale slot s c =>
  if insertsUser slot.moment s c then fun _ => true
  else if c.counts then Function.update stale slot.thread false
  else stale

/-- The requests under observation. -/
abbrev WatchedSetups : Type := Observed SiteCall SiteCall.Reply Site Unit (Nat → Bool)

namespace WatchedSetups

/-- One turn of the requests. -/
def step : WatchedSetups → Slot Moment → WatchedSetups :=
  Observed.step Moment.serve staleCounts

/-- The requests as they arrive. -/
def start (crates : WebCrates) (s : Site) (requests : List SetupRequest) : WatchedSetups :=
  ⟨setupRequests crates s requests, fun _ => false⟩

/-- No request inserts a user after another one has been inserted since it counted them. -/
def Undisturbed : WatchedSetups → Slot Moment → Prop :=
  Observed.Meets fun stale slot s c =>
    insertsUser slot.moment s c = true → stale slot.thread = false

instance (w : WatchedSetups) (slot : Slot Moment) : Decidable (w.Undisturbed slot) :=
  inferInstanceAs (Decidable (Observed.Meets _ w slot))

end WatchedSetups

/-! ## What a request knows -/

/-- A count that is not stale is right. -/
def CountKnown (users : Nat) (stale : Bool) : SetupPhase → Prop
  | counted n => stale = false → n = users
  | _ => True

variable {m : Moment} {s : Site} {c : SiteCall}

/-- Of the calls that the protocol allows only an insertion changes the users. -/
theorem setup_call_cases (m : Moment) (s : Site) (h : setup.allowed phase c) :
    insertsUser m s c = false ∧ (m.serve c s).2.accounts.users = s.accounts.users ∨
    ∃ row, c = .insertUser row ∧ insertsUser m s c = true ∧
      (m.serve c s).2.accounts.users.rows = s.accounts.users.rows ++ [row] := by
  cases c with
  | insertUser row =>
      simp only [insertsUser, Moment.serve, serve, Outage.write, Outage.run]
      cases m.outage.error (.insertUser row) with
      | some text => exact .inl ⟨rfl, rfl⟩
      | none =>
          have hsame : (s.seen m).accounts = s.accounts := rfl
          rw [hsame]
          cases hinsert : s.accounts.insertUser row with
          | error text => exact .inl ⟨rfl, rfl⟩
          | ok accounts => exact .inr ⟨row, rfl, rfl, (Accounts.insert_user_ok hinsert).2.1⟩
  | insertAudit event =>
      exact .inl ⟨rfl, Outage.write_frame (fun s => s.accounts.users)
        (fun _ _ haudit => (Accounts.insert_audit_ok haudit).1) (s.seen m)⟩
  | insertSession id key value =>
      exact .inl ⟨rfl, Outage.run_frame (fun s => s.accounts.users) (fun _ => rfl) (s.seen m)⟩
  | countUsers | drawSalt => exact .inl ⟨rfl, rfl⟩
  | host call =>
      cases call with
      | uuidV7 | utcNow => exact .inl ⟨rfl, rfl⟩
      | _ => exact False.elim h
  | _ => exact False.elim h

/-- What a request learns from a reply is so. -/
theorem count_known_reply {stale : Bool} (hallowed : setup.allowed phase c)
    (h : CountKnown s.accounts.users.rows.length stale phase) :
    CountKnown s.accounts.users.rows.length (if c.counts then false else stale)
      (setup.next phase c (m.serve c s).1) := by
  cases c with
  | countUsers =>
      simp only [Moment.serve, serve, Outage.read, Outage.outcome]
      cases m.outage.error .countUsers with
      | some text => trivial
      | none => exact fun _ => rfl
  | insertUser row => trivial
  | insertSession | insertAudit | drawSalt => exact h
  | host call =>
      cases call with
      | uuidV7 | utcNow => exact h
      | _ => exact False.elim hallowed
  | _ => exact False.elim hallowed

/-! ## Every interleaving -/

namespace WatchedSetups

variable {w : WatchedSetups} {slot : Slot Moment}

/-- There is at most one user, and every request has come as far as it knows. -/
structure Coherent (w : WatchedSetups) : Prop where
  single : w.pool.state.accounts.users.rows.length ≤ 1
  created : ∀ thread, w.record thread = true → w.pool.state.accounts.users.rows.length = 1
  known : w.pool.Follows setup fun thread =>
    CountKnown w.pool.state.accounts.users.rows.length (w.record thread)

/-- Every request follows the protocol, and there is more than one user. -/
structure Crowded (w : WatchedSetups) : Prop where
  several : 1 < w.pool.state.accounts.users.rows.length
  follows : w.pool.Follows setup fun _ _ => True

/-- A turn that disturbs no one keeps the requests coherent. -/
theorem coherent_step (h : w.Coherent) (hguard : w.Undisturbed slot) :
    (w.step slot).Coherent := by
  rcases Observed.step_cases h.known with
    ⟨-, hstay⟩ | ⟨phase, c, hpending, hallowed, hknow, hstate, hrecord, hnext⟩
  · rw [show w.step slot = w from hstay]
    exact h
  rcases setup_call_cases slot.moment w.pool.state hallowed with
    ⟨hinserts, husers⟩ | ⟨row, rfl, hinserts, hrows⟩
  · -- No user is inserted, and only a request that has counted them knows more.
    have hsame : (w.step slot).pool.state.accounts.users = w.pool.state.accounts.users :=
      (congrArg (fun s : Site => s.accounts.users) hstate).trans husers
    have hstale : (w.step slot).record =
        if c.counts then Function.update w.record slot.thread false else w.record := by
      show (Observed.step Moment.serve staleCounts w slot).record = _
      rw [hrecord, staleCounts, if_neg (Bool.eq_false_iff.mp hinserts)]
    refine ⟨by rw [hsame]; exact h.single, ?_, ?_⟩
    · intro thread hthread
      rw [hsame]
      rw [hstale] at hthread
      cases hcounts : c.counts with
      | false => exact h.created thread (by simpa [hcounts] using hthread)
      | true =>
          by_cases hself : thread = slot.thread
          · subst hself
            simp [hcounts] at hthread
          · exact h.created thread (by simpa [hcounts, hself] using hthread)
    · rw [hsame, hstale]
      refine hnext _ ?_ fun other phase hne hother => ?_
      · have hself := count_known_reply (m := slot.moment) hallowed hknow
        cases hcounts : c.counts <;> rw [hcounts] at hself <;> simpa using hself
      · cases c.counts
        · exact hother
        · simpa [Function.update_of_ne hne] using hother
  · -- A user is inserted. The request has counted none, and its count is up to date.
    have hfresh : w.record slot.thread = false := hguard _ hpending hinserts
    obtain rfl : phase = counted 0 := hallowed
    have hnone : 0 = w.pool.state.accounts.users.rows.length := hknow hfresh
    have hone : (w.step slot).pool.state.accounts.users.rows.length = 1 := by
      show (Observed.step Moment.serve staleCounts w slot).pool.state.accounts.users.rows.length = 1
      rw [hstate, hrows, List.length_append, ← hnone]
      rfl
    have hstale : (w.step slot).record = fun _ => true := by
      show (Observed.step Moment.serve staleCounts w slot).record = _
      rw [hrecord, staleCounts, if_pos hinserts]
    refine ⟨Nat.le_of_eq hone, fun _ _ => hone, ?_⟩
    rw [hstale]
    refine hnext _ trivial fun other phase _ _ => ?_
    cases phase with
    | counted n =>
        intro h
        cases h
    | fresh => trivial
    | done => trivial

/-- A request that inserts a user with a stale count makes it the second one. -/
theorem crowded_of_stale (h : w.Coherent) (hguard : ¬ w.Undisturbed slot) :
    (w.step slot).Crowded := by
  simp only [Undisturbed, Observed.Meets, not_forall, Bool.not_eq_false] at hguard
  obtain ⟨c, hpending, hinserts, hstale⟩ := hguard
  rcases Observed.step_cases h.known with
    ⟨hidle, -⟩ | ⟨phase, c', hpending', hallowed, -, hstate, -, hnext⟩
  · rw [hidle] at hpending
    cases hpending
  obtain rfl : c' = c := Option.some.inj (hpending'.symm.trans hpending)
  rcases setup_call_cases slot.moment w.pool.state hallowed with
    ⟨hfails, -⟩ | ⟨row, rfl, -, hrows⟩
  · exact absurd hinserts (hfails ▸ Bool.false_ne_true)
  refine ⟨?_, hnext _ trivial fun _ _ _ _ => trivial⟩
  show 1 < (Observed.step Moment.serve staleCounts w slot).pool.state.accounts.users.rows.length
  rw [hstate, hrows, List.length_append, h.created _ hstale, List.length_singleton]
  omega

/-- No request removes a user. -/
theorem crowded_step (h : w.Crowded) : (w.step slot).Crowded := by
  rcases Observed.step_cases h.follows with
    ⟨-, hstay⟩ | ⟨phase, c, -, hallowed, -, hstate, -, hnext⟩
  · rw [show w.step slot = w from hstay]
    exact h
  refine ⟨?_, hnext _ trivial fun _ _ _ _ => trivial⟩
  have hseveral := h.several
  show 1 < (Observed.step Moment.serve staleCounts w slot).pool.state.accounts.users.rows.length
  rw [hstate]
  rcases setup_call_cases slot.moment w.pool.state hallowed with
    ⟨-, husers⟩ | ⟨row, -, -, hrows⟩
  · rw [husers]
    exact hseveral
  · rw [hrows, List.length_append]
    omega

end WatchedSetups

/-- In whatever order the calls of the requests come, at most one user is created if and only if no
request inserts a user after another one has been inserted since it counted them. -/
theorem one_admin_iff (crates : WebCrates) (s : Site) (hempty : s.accounts.users.rows = [])
    (requests : List SetupRequest) (schedule : List (Slot Moment)) :
    (Runs.after setupStep (setupRequests crates s requests)
        schedule).state.accounts.users.rows.length ≤ 1 ↔
      Runs.EachStep WatchedSetups.step WatchedSetups.Undisturbed (.start crates s requests)
        schedule := by
  have hpool : (Runs.after WatchedSetups.step (.start crates s requests) schedule).pool =
      Runs.after setupStep (setupRequests crates s requests) schedule := Observed.pool_after
  have hstart : (WatchedSetups.start crates s requests).Coherent := by
    have hnone : (WatchedSetups.start crates s requests).pool.state.accounts.users.rows.length =
        0 := congrArg List.length hempty
    refine ⟨by omega, fun _ h => absurd h Bool.false_ne_true, fun thread program hprogram => ?_⟩
    obtain ⟨request, -, rfl⟩ := List.mem_map.mp (List.mem_of_getElem? hprogram)
    exact ⟨fresh, setup_request_follows request, trivial⟩
  rw [← hpool]
  have hsingle : ∀ w : WatchedSetups, w.Coherent →
      w.pool.state.accounts.users.rows.length ≤ 1 := fun _ h => h.single
  have hcrowded : ∀ w : WatchedSetups, w.Crowded →
      ¬ w.pool.state.accounts.users.rows.length ≤ 1 := fun _ h => Nat.not_le_of_lt h.several
  exact Runs.last_iff_each_step hsingle (fun _ _ => WatchedSetups.coherent_step)
    (fun _ _ => WatchedSetups.crowded_of_stale) (fun _ _ => WatchedSetups.crowded_step) hcrowded
    hstart

/-- Two visitors who set up a fresh server. -/
def twoSetups : List SetupRequest :=
  [.submit ⟨0⟩ "192.0.2.1" ⟨"alice", "correct horse", "correct horse", none⟩,
    .submit ⟨1⟩ "192.0.2.2" ⟨"mallory", "correct horse", "correct horse", none⟩]

/-- Turns of the given requests; the user of a request has the number of the request. -/
def setupTurns (threads : List Nat) : List (Slot Moment) :=
  threads.map fun thread =>
    let m := Moment.calm (.fresh .default) .inserted
    ⟨thread, { m with env := { m.env with uuid := .ofNat 128 thread } }⟩

/-- One after the other the visitors create one user. -/
theorem one_admin_in_turn :
    (Runs.after setupStep (setupRequests .transparent (.fresh .default) twoSetups)
      (setupTurns (List.replicate 9 0 ++ List.replicate 9 1))).state.accounts.users.rows.length
        ≤ 1 :=
  (one_admin_iff .transparent (.fresh .default) rfl twoSetups _).mpr (by decide +kernel)

/-- When both have passed the checks before either user is inserted, both become administrators. -/
theorem two_admins :
    let final := Runs.after setupStep (setupRequests .transparent (.fresh .default) twoSetups)
      (setupTurns ([0, 0, 1, 1] ++ List.replicate 4 0 ++ List.replicate 4 1))
    final.state.accounts.users.rows.map (fun user => (user.username, user.role)) =
      [("alice", .admin), ("mallory", .admin)] ∧
    ¬ final.state.accounts.users.rows.length ≤ 1 := by
  decide +kernel

end Wireforge
