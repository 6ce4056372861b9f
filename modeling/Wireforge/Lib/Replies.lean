import Wireforge.Lib.Runs
import Wireforge.Lib.Threads
import Wireforge.Lib.Observed

/-!
# Programs and the replies they rely on

A program may issue calls that are only in order because of what earlier replies have said. `Given
sensible allowed post program` says that as long as the replies are sensible, the program issues
allowed calls only and returns a value that satisfies `post`. The rules follow the structure of
programs. Where the state of a pool makes the replies sensible and allowed calls keep it so, every
interleaving of such programs keeps it: `Pool.keeps_given`.
-/

namespace Effect

variable {Call : Type} {Reply : Call → Type} {α β ε ε' σ τ : Type}
  {sensible : (c : Call) → Reply c → Prop} {allowed : Call → Prop}

/-- As long as the replies are sensible, all calls are allowed and the outcome satisfies `post`. -/
def Given (sensible : (c : Call) → Reply c → Prop) (allowed : Call → Prop) (post : α → Prop) :
    Program Call Reply α → Prop
  | .done value => post value
  | .call c next =>
      allowed c ∧ ∀ reply, sensible c reply → Given sensible allowed post (next reply)

namespace Given

variable {post : α → Prop} {program : Program Call Reply α}

theorem mono {post' : α → Prop} (h : Given sensible allowed post program)
    (hpost : ∀ value, post value → post' value) : Given sensible allowed post' program := by
  induction program with
  | done value => exact hpost value h
  | call c next ih => exact ⟨h.1, fun reply hreply => ih reply (h.2 reply hreply)⟩

theorem bind {post : β → Prop} {next : α → Program Call Reply β}
    (h : Given sensible allowed (fun value => Given sensible allowed post (next value)) program) :
    Given sensible allowed post (program >>= next) := by
  induction program with
  | done value => exact h
  | call c rest ih => exact ⟨h.1, fun reply hreply => ih reply (h.2 reply hreply)⟩

theorem map {post : β → Prop} {f : α → β}
    (h : Given sensible allowed (fun value => post (f value)) program) :
    Given sensible allowed post (f <$> program) :=
  bind h

theorem request {c : Call} {post : Reply c → Prop} (hc : allowed c)
    (hpost : ∀ reply, sensible c reply → post reply) :
    Given sensible allowed post (Program.request c : Program Call Reply (Reply c)) :=
  ⟨hc, hpost⟩

/-- A program whose calls are allowed whatever the replies are. -/
theorem of_issues (h : Issues allowed program) :
    Given sensible allowed (fun _ => True) program := by
  induction program with
  | done value => trivial
  | call c next ih => exact ⟨h.1, fun reply _ => ih reply (h.2 reply)⟩

/-! ## Programs that may stop with an error -/

section Fallible

variable {program : Fallible Call Reply ε α} {next : α → Fallible Call Reply ε β}

/-- Nothing is promised of the error that a program stops with. -/
def Ok (post : α → Prop) (result : Except ε α) : Prop :=
  ∀ value, result = .ok value → post value

theorem ok_of_true (result : Except ε α) : Ok (fun _ => True) result :=
  fun _ _ => trivial

theorem run_pure {value : α} (h : post value) :
    Given sensible allowed (Ok post) (Pure.pure value : Fallible Call Reply ε α).run := by
  intro value' hvalue
  obtain rfl := Except.ok.inj hvalue
  exact h

theorem run_throw (e : ε) :
    Given sensible allowed (Ok post) (throw e : Fallible Call Reply ε α).run := by
  intro value hvalue
  cases hvalue

theorem run_bind {middle : α → Prop} {post : β → Prop}
    (h : Given sensible allowed (Ok middle) program.run)
    (hnext : ∀ value, middle value → Given sensible allowed (Ok post) (next value).run) :
    Given sensible allowed (Ok post) (program >>= next).run := by
  rw [ExceptT.run_bind]
  refine bind (h.mono fun result hresult => ?_)
  cases result with
  | ok value => exact hnext value (hresult value rfl)
  | error e => exact run_throw e

/-- What follows a program of which nothing is needed but that its calls are allowed. -/
theorem run_after {post : β → Prop} (h : Issues allowed program.run)
    (hnext : ∀ value, Given sensible allowed (Ok post) (next value).run) :
    Given sensible allowed (Ok post) (program >>= next).run :=
  run_bind ((of_issues h).mono fun _ _ => ok_of_true _) fun value _ => hnext value

theorem run_ite {c : Prop} [Decidable c] {left right : Fallible Call Reply ε α}
    (hleft : Given sensible allowed (Ok post) left.run)
    (hright : Given sensible allowed (Ok post) right.run) :
    Given sensible allowed (Ok post) (if c then left else right).run := by
  split
  · exact hleft
  · exact hright

theorem run_or_else {rename : ε' → ε} {calls : Program Call Reply (Except ε' α)}
    (h : Given sensible allowed (Ok post) calls) :
    Given sensible allowed (Ok post) (orElse rename calls).run := by
  refine map (h.mono fun result hresult value hvalue => hresult value ?_)
  cases result with
  | ok value' => exact congrArg Except.ok (Except.ok.inj hvalue)
  | error e => cases hvalue

theorem run_attempt (h : Given sensible allowed (Ok post) program.run) :
    Given sensible allowed (Ok (Ok post))
      (attempt program : Fallible Call Reply ε' (Except ε α)).run := by
  refine map (h.mono fun result hresult value hvalue => ?_)
  obtain rfl := Except.ok.inj hvalue
  exact hresult

theorem run_ignore (h : Given sensible allowed (Ok post) program.run) :
    Given sensible allowed (Ok fun _ => True)
      (ignore program : Fallible Call Reply ε' Unit).run :=
  map (h.mono fun _ _ => ok_of_true _)

/-- A loop over items of which something is known. -/
theorem run_for_each {ι : Type} {body : ι → Fallible Call Reply ε Unit} {items : List ι}
    (h : ∀ item ∈ items, Given sensible allowed (Ok fun _ => True) (body item).run) :
    Given sensible allowed (Ok fun _ => True) (forEach body items).run := by
  induction items with
  | nil => exact ok_of_true _
  | cons item rest ih =>
      exact run_bind (h item List.mem_cons_self) fun _ _ =>
        ih fun item hitem => h item (List.mem_cons_of_mem _ hitem)

end Fallible

end Given

/-! ## Pools -/

namespace Pool

variable {handler : τ → Handler Call Reply σ} {pool : Pool Call Reply σ α}

/-- As long as the replies are sensible, every thread issues allowed calls only. -/
def Given (sensible : (c : Call) → Reply c → Prop) (allowed : Call → Prop)
    (pool : Pool Call Reply σ α) : Prop :=
  ∀ program ∈ pool.threads, Effect.Given sensible allowed (fun _ => True) program

/-- What allowed calls keep, and what makes the replies sensible, a turn keeps. -/
theorem given_turn {inv : σ → Prop} (h : pool.Given sensible allowed) (hinv : inv pool.state)
    (hcall : ∀ t c s, allowed c → inv s →
      inv (handler t c s).2 ∧ sensible c (handler t c s).1) (slot : Slot τ) :
    inv (pool.turn handler slot).state ∧ (pool.turn handler slot).Given sensible allowed := by
  unfold turn
  have hturn : pool.pending slot.thread = none ∧
      pool.step handler slot.thread slot.moment = pool ∨ _ := pool.step_cases
  rcases hturn with ⟨-, hstay⟩ | ⟨c, next, hthread, -, hstep⟩
  · rw [hstay]
    exact ⟨hinv, h⟩
  obtain ⟨hallowed, hnext⟩ := h _ (List.mem_of_getElem? hthread)
  obtain ⟨hkept, hsensible⟩ := hcall slot.moment c pool.state hallowed hinv
  rw [hstep]
  refine ⟨hkept, fun program hprogram => ?_⟩
  -- The other threads stay where they are, so nothing is to be learned of them.
  rcases List.mem_or_eq_of_mem_set hprogram with hold | rfl
  · exact h program hold
  · exact hnext _ hsensible

theorem keeps_given {inv : σ → Prop} (h : pool.Given sensible allowed) (hinv : inv pool.state)
    (hcall : ∀ t c s, allowed c → inv s →
      inv (handler t c s).2 ∧ sensible c (handler t c s).1) (schedule : List (Slot τ)) :
    inv (Runs.after (turn handler) pool schedule).state := by
  induction schedule generalizing pool with
  | nil => exact hinv
  | cons slot rest ih =>
      obtain ⟨hkept, hnext⟩ := given_turn h hinv hcall slot
      exact ih hnext hkept

end Pool

end Effect
