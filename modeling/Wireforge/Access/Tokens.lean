import Wireforge.Front.Permitted
import Wireforge.Lib.History

/-!
# Bearer tokens

What the handlers that issue and revoke tokens do. The expiry of a token is computed by operations
of the time library that do not return when their result is out of range, and the handler checks
the sign of the number of days only: `create_answers_iff` is the exact range in which it answers.
-/

namespace Wireforge

open Effect

/-- The instant a number of days after another one. -/
def daysAfter (now : DateTime) (days : Int) : DateTime :=
  ⟨now.nanos + days * 86400 * nanosPerSec⟩

theorem days_after_nanos (now : DateTime) (days : Int) :
    (daysAfter now days).nanos = now.nanos + days * 86400 * 1000000000 := rfl

theorem days_ok {days : Int} {delta : TimeDelta} (h : TimeDelta.days days = .ok delta) :
    delta.nanos = days * 86400 * nanosPerSec := by
  unfold TimeDelta.days TimeDelta.ofNanos at h
  split_ifs at h
  cases h
  rfl

/-- Adding days that returns is exact. -/
theorem add_days_ok {now t : DateTime} {days : Int}
    (h : (TimeDelta.days days >>= now.add) = .ok t) : t = daysAfter now days := by
  obtain ⟨delta, hdelta, hadd⟩ := Outcome.bind_ok.mp h
  unfold DateTime.add at hadd
  split at hadd
  · cases hadd
    rw [DateTime.shift, days_ok hdelta]
    rfl
  · cases hadd

/-- Adding a positive number of days returns exactly if the sum is not after the last instant: of
the two limits, that of the delta is never the first one to be reached. -/
theorem add_days_iff {now : DateTime} (hnow : now.InRange) {days : Int} (hdays : 0 < days) :
    (TimeDelta.days days >>= now.add) = .ok (daysAfter now days) ↔
      daysAfter now days ≤ DateTime.maxUtc := by
  have hmin : DateTime.minUtc.nanos ≤ now.nanos := hnow.1
  have hlater : now.nanos ≤ (daysAfter now days).nanos := by
    rw [days_after_nanos]
    omega
  constructor
  · intro h
    obtain ⟨delta, hdelta, hadd⟩ := Outcome.bind_ok.mp h
    unfold DateTime.add at hadd
    split at hadd
    · rename_i hrange
      rw [Except.ok.inj hadd] at hrange
      exact hrange.2
    · cases hadd
  · intro h
    have hmax : (daysAfter now days).nanos ≤ DateTime.maxUtc.nanos := h
    have hfits : -TimeDelta.maxNanos ≤ days * 86400 * nanosPerSec ∧
        days * 86400 * nanosPerSec ≤ TimeDelta.maxNanos := by
      rw [days_after_nanos] at hmax
      unfold DateTime.maxUtc nanosPerSec at hmax
      unfold DateTime.minUtc nanosPerSec at hmin
      unfold TimeDelta.maxNanos nanosPerSec
      simp only at hmax hmin
      omega
    have hdelta : TimeDelta.days days = .ok ⟨days * 86400 * nanosPerSec, hfits⟩ := by
      unfold TimeDelta.days TimeDelta.ofNanos
      rw [dif_pos hfits]
    refine Outcome.bind_ok.mpr ⟨_, hdelta, ?_⟩
    unfold DateTime.add
    refine if_pos ⟨?_, h⟩
    show DateTime.minUtc.nanos ≤ (daysAfter now days).nanos
    omega

namespace Api.Tokens

variable {crates : WebCrates} {user : AuthUser} {req : CreateTokenRequest} {outage : Outage}
  {s : Site}

/-- The expiry of a token that lasts a number of days, or forever. -/
def expiresAt (now : DateTime) (days : Option Int) : Option DateTime :=
  days.map (daysAfter now)

/-- The name is not empty and not too long. -/
def Named (req : CreateTokenRequest) : Prop :=
  1 ≤ req.name.length ∧ req.name.length ≤ 64

/-- The expiry can be computed, if there is one to compute. -/
def Computable (now : DateTime) (days : Option Int) : Prop :=
  ∀ count ∈ days, 0 < count → (TimeDelta.days count >>= now.add) = .ok (daysAfter now count)

/-- What the handler can do: it refuses the request, stops the process, cannot insert the token, or
issues it. -/
inductive CreateOutcome (crates : WebCrates) (user : AuthUser) (req : CreateTokenRequest)
    (outage : Outage) (s : Site) : Except (Stop ApiError) ApiResponse × Site → Prop
  | refused (message : String)
      (hrefused : Named req → ∃ count ∈ req.expiresInDays, ¬ 0 < count) :
      CreateOutcome crates user req outage s (.error (.error (.badRequest message)), s)
  | crashed (panic : Panic) (hnamed : Named req)
      (hrange : ¬ Computable s.host.env.now req.expiresInDays) :
      CreateOutcome crates user req outage s (.error (.panic panic), s)
  | failed (row : ApiToken) (text : String)
      (hrange : Computable s.host.env.now req.expiresInDays)
      (hfails : outage.error (.insertToken row) = some text ∨
        s.accounts.insertToken row = .error text) :
      CreateOutcome crates user req outage s (.error (.error (.fromCore (mapErr text))), s)
  | issued (row : ApiToken) (accounts : Accounts)
      (hrange : Computable s.host.env.now req.expiresInDays) (hid : row.id = ⟨s.host.env.uuid⟩)
      (howner : row.userId = user.id)
      (hhash : row.tokenHash = crates.sha256 (plaintext s.draws.token))
      (hexpiry : row.expiresAt = expiresAt s.host.env.now req.expiresInDays)
      (hactive : row.revokedAt = none) (hinsert : s.accounts.insertToken row = .ok accounts) :
      CreateOutcome crates user req outage s
        (.ok (.createdToken (plaintext s.draws.token) (.from crates row)), { s with accounts })

/-- The computation of the expiry. -/
theorem eval_expiry (outage : Outage) (s : Site) (days : Option Int) :
    (∃ message, (∃ count ∈ days, ¬ 0 < count) ∧ eval (serve outage) (expiry days) s =
        (.error (.error (.badRequest message)), s)) ∨
      (∃ panic, ¬ Computable s.host.env.now days ∧
        eval (serve outage) (expiry days) s = (.error (.panic panic), s)) ∨
      Computable s.host.env.now days ∧
        eval (serve outage) (expiry days) s = (.ok (expiresAt s.host.env.now days), s) := by
  cases days with
  | none => exact .inr (.inr ⟨fun count hcount => (by cases hcount), rfl⟩)
  | some count =>
      by_cases hpos : 0 < count
      · simp only [expiry, if_pos hpos, eval_bind, eval_always, exec_request, serve, handle]
        cases hadd : TimeDelta.days count >>= s.host.env.now.add with
        | error panic =>
            refine .inr (.inl ⟨panic, fun h => ?_, rfl⟩)
            cases hadd.symm.trans (h count rfl hpos)
        | ok t =>
            obtain rfl := add_days_ok hadd
            refine .inr (.inr ⟨fun count' hcount' _ => ?_, rfl⟩)
            obtain rfl := Option.some.inj hcount'
            exact hadd
      · simp only [expiry, if_neg hpos]
        exact .inl ⟨_, ⟨count, rfl, hpos⟩, rfl⟩

theorem eval_repo {α : Type} (program : Repo α) :
    eval (serve outage) (Api.repo program) s =
      ((eval (serve outage) program s).1.mapError fun e => .error (.fromCore e),
        (eval (serve outage) program s).2) :=
  eval_or_else _ _ _

/-- The insertion of a token. -/
theorem eval_insert (outage : Outage) (s : Site) (new : NewApiToken) :
    let row := SqliteApiTokenRepository.newRow s.host.env.uuid s.host.env.now new
    (∃ text, (outage.error (.insertToken row) = some text ∨
        s.accounts.insertToken row = .error text) ∧
      eval (serve outage) (Api.repo (SqliteApiTokenRepository.create new)) s =
        (.error (.error (.fromCore (mapErr text))), s)) ∨
      ∃ accounts, s.accounts.insertToken row = .ok accounts ∧
        eval (serve outage) (Api.repo (SqliteApiTokenRepository.create new)) s =
          (.ok row, { s with accounts }) := by
  intro row
  simp only [eval_repo, SqliteApiTokenRepository.create, siteUuid, siteNow, eval_bind, eval_always,
    exec_request, eval_or_else, serve, handle, Outage.write, Outage.run]
  cases herror : outage.error (.insertToken row) with
  | some text => exact .inl ⟨text, .inl rfl, rfl⟩
  | none =>
      cases hinsert : s.accounts.insertToken row with
      | error text => exact .inl ⟨text, .inr rfl, rfl⟩
      | ok accounts => exact .inr ⟨accounts, rfl, rfl⟩

theorem create_outcome (crates : WebCrates) (user : AuthUser) (req : CreateTokenRequest)
    (outage : Outage) (s : Site) :
    CreateOutcome crates user req outage s (eval (serve outage) (create crates user req) s) := by
  unfold create checkLength
  by_cases hnamed : Named req
  · rw [if_pos (show 1 ≤ req.name.length ∧ req.name.length ≤ 64 from hnamed)]
    simp only [validate, List.isEmpty_nil, if_true, ofExcept, eval_bind, eval_pure]
    rcases eval_expiry outage s req.expiresInDays with
      ⟨message, hcount, heval⟩ | ⟨panic, hrange, heval⟩ | ⟨hrange, heval⟩
    · rw [heval]
      exact .refused message fun _ => hcount
    · rw [heval]
      exact .crashed panic hnamed hrange
    · rw [heval]
      simp only [eval_always, exec_request, serve]
      rcases eval_insert outage s { userId := user.id, name := Text.trim req.name
                                    tokenHash := crates.sha256 (plaintext s.draws.token)
                                    scopes := ["*"]
                                    expiresAt := expiresAt s.host.env.now req.expiresInDays } with
        ⟨text, hfails, hcreate⟩ | ⟨accounts, hinsert, hcreate⟩
      · rw [hcreate]
        exact .failed _ text hrange hfails
      · rw [hcreate]
        exact .issued _ accounts hrange rfl rfl rfl rfl rfl hinsert
  · rw [if_neg (show ¬ (1 ≤ req.name.length ∧ req.name.length ≤ 64) from hnamed)]
    exact .refused _ fun h => absurd h hnamed

/-- The request is answered: it is refused, or a token is issued that expires exactly the number of
days later, unless the insertion fails. -/
def Answers (crates : WebCrates) (user : AuthUser) (req : CreateTokenRequest) (outage : Outage)
    (s : Site) (outcome : Except (Stop ApiError) ApiResponse × Site) : Prop :=
  (∃ message, outcome = (.error (.error (.badRequest message)), s)) ∨
    (∃ row text, (outage.error (.insertToken row) = some text ∨
        s.accounts.insertToken row = .error text) ∧
      outcome = (.error (.error (.fromCore (mapErr text))), s)) ∨
    ∃ row accounts plain, s.accounts.insertToken row = .ok accounts ∧
      row.userId = user.id ∧ row.tokenHash = crates.sha256 plain ∧
      row.expiresAt = expiresAt s.host.env.now req.expiresInDays ∧
      outcome = (.ok (.createdToken plain (.from crates row)), { s with accounts })

/-- With a clock in range, the handler answers exactly if the name is refused, or the token is to
last forever or for a number of days that is not positive, or the last of its days is not after the
last instant of the time library. -/
theorem create_answers_iff (crates : WebCrates) (user : AuthUser) (req : CreateTokenRequest)
    (outage : Outage) (s : Site) (hnow : s.host.env.now.InRange) :
    Answers crates user req outage s (eval (serve outage) (create crates user req) s) ↔
      (Named req → ∀ days ∈ req.expiresInDays, 0 < days →
        daysAfter s.host.env.now days ≤ DateTime.maxUtc) := by
  have hrangeIff : Computable s.host.env.now req.expiresInDays ↔
      ∀ days ∈ req.expiresInDays, 0 < days →
        daysAfter s.host.env.now days ≤ DateTime.maxUtc :=
    forall_congr' fun days => forall_congr' fun _ => forall_congr' fun hpos =>
      add_days_iff hnow hpos
  have houtcome := create_outcome crates user req outage s
  generalize eval (serve outage) (create crates user req) s = outcome at houtcome ⊢
  cases houtcome with
  | refused message hrefused =>
      refine iff_of_true (.inl ⟨message, rfl⟩) fun hnamed days hdays hpos => ?_
      obtain ⟨count, hcount, hneg⟩ := hrefused hnamed
      obtain rfl := Option.some.inj (hcount.symm.trans hdays)
      exact absurd hpos hneg
  | crashed panic hnamed hrange =>
      refine iff_of_false (fun h => ?_) fun h => hrange (hrangeIff.mpr (h hnamed))
      rcases h with ⟨message, h⟩ | ⟨row, text, -, h⟩ | ⟨row, accounts, plain, -, -, -, -, h⟩
      · cases congrArg Prod.fst h
      · cases congrArg Prod.fst h
      · cases congrArg Prod.fst h
  | failed row text hrange hfails =>
      exact iff_of_true (.inr (.inl ⟨row, text, hfails, rfl⟩)) fun _ => hrangeIff.mp hrange
  | issued row accounts hrange hid howner hhash hexpiry hactive hinsert =>
      exact iff_of_true
        (.inr (.inr ⟨row, accounts, _, hinsert, howner, hhash, hexpiry, rfl⟩))
        fun _ => hrangeIff.mp hrange

/-- A number of days beyond the last year of the time library stops the process. -/
theorem create_crashes :
    (eval (serve .none) (create .transparent ⟨⟨1⟩, "ada", .admin⟩ ⟨"ci", some 100000000⟩)
        (.fresh .default)).1 = .error (.panic .dateOverflow) ∧
      ¬ Answers .transparent ⟨⟨1⟩, "ada", .admin⟩ ⟨"ci", some 100000000⟩ .none (.fresh .default)
        (eval (serve .none) (create .transparent ⟨⟨1⟩, "ada", .admin⟩ ⟨"ci", some 100000000⟩)
          (.fresh .default)) := by
  have hcrash : (eval (serve .none) (create .transparent ⟨⟨1⟩, "ada", .admin⟩
      ⟨"ci", some 100000000⟩) (.fresh .default)).1 = .error (.panic .dateOverflow) := by
    rfl
  refine ⟨hcrash, fun h => ?_⟩
  rcases h with ⟨message, h⟩ | ⟨row, text, -, h⟩ | ⟨row, accounts, plain, -, -, -, -, h⟩
  · cases hcrash.symm.trans (congrArg Prod.fst h)
  · cases hcrash.symm.trans (congrArg Prod.fst h)
  · cases hcrash.symm.trans (congrArg Prod.fst h)

theorem create_answers_month :
    Answers .transparent ⟨⟨1⟩, "ada", .admin⟩ ⟨"ci", some 30⟩ .none (.fresh .default)
      (eval (serve .none) (create .transparent ⟨⟨1⟩, "ada", .admin⟩ ⟨"ci", some 30⟩)
        (.fresh .default)) := by
  refine (create_answers_iff .transparent ⟨⟨1⟩, "ada", .admin⟩ ⟨"ci", some 30⟩ .none
    (.fresh .default) (by decide)).mpr fun _ days hdays _ => ?_
  obtain rfl := Option.some.inj hdays
  decide

end Api.Tokens

end Wireforge
