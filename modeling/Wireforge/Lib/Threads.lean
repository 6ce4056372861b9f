import Wireforge.Lib.Issues

/-!
# Concurrent programs

A `Protocol` says which calls a program may issue in each phase and which phase a reply leads to;
`Follows` says that a program keeps to it, whatever the replies are. A `Pool` is a list of programs
that share one state; at each turn one of them issues its next call. `follows_bind` reduces the
protocol of a composition to that of its parts, and `Pool.step_cases` says what a turn can do.
-/

namespace Effect

variable {Call : Type} {Reply : Call → Type} {Phase α β ε ε' σ : Type}

/-- The calls that may be issued in each phase, and the phase a reply leads to. -/
structure Protocol (Call : Type) (Reply : Call → Type) (Phase : Type) where
  allowed : Phase → Call → Prop
  next : Phase → (c : Call) → Reply c → Phase

variable {protocol : Protocol Call Reply Phase}

/-- From the given phase the program issues allowed calls only, and returns in a phase and with a
value that satisfy `post`. -/
def Follows (protocol : Protocol Call Reply Phase) (post : Phase → α → Prop) :
    Phase → Program Call Reply α → Prop
  | phase, .done value => post phase value
  | phase, .call c next =>
      protocol.allowed phase c ∧
        ∀ reply, Follows protocol post (protocol.next phase c reply) (next reply)

namespace Follows

variable {post : Phase → α → Prop} {phase : Phase}

/-- A composition follows the protocol when its first part does and leads into its second. -/
@[simp] theorem bind {post : Phase → β → Prop} {program : Program Call Reply α}
    {next : α → Program Call Reply β} :
    Follows protocol post phase (program >>= next) ↔
      Follows protocol (fun phase value => Follows protocol post phase (next value)) phase
        program := by
  induction program generalizing phase with
  | done value => exact Iff.rfl
  | call c rest ih => exact and_congr_right fun _ => forall_congr' fun reply => ih reply

@[simp] theorem pure (value : α) :
    Follows protocol post phase (Pure.pure value : Program Call Reply α) ↔ post phase value :=
  Iff.rfl

@[simp] theorem request {c : Call} {post : Phase → Reply c → Prop} :
    Follows protocol post phase (Program.request c : Program Call Reply (Reply c)) ↔
      protocol.allowed phase c ∧ ∀ reply, post (protocol.next phase c reply) reply :=
  Iff.rfl

@[simp] theorem map {post : Phase → β → Prop} {f : α → β} {program : Program Call Reply α} :
    Follows protocol post phase (f <$> program) ↔
      Follows protocol (fun phase value => post phase (f value)) phase program :=
  bind

@[simp] theorem ite {c : Prop} [Decidable c] {left right : Program Call Reply α} :
    Follows protocol post phase (if c then left else right) ↔
      if c then Follows protocol post phase left else Follows protocol post phase right := by
  split <;> exact Iff.rfl

/-! ## Programs that may stop with an error -/

@[simp] theorem run_pure {post : Phase → Except ε α → Prop} (value : α) :
    Follows protocol post phase (Pure.pure value : Fallible Call Reply ε α).run ↔
      post phase (.ok value) :=
  Iff.rfl

@[simp] theorem run_throw {post : Phase → Except ε α → Prop} (error : ε) :
    Follows protocol post phase (throw error : Fallible Call Reply ε α).run ↔
      post phase (.error error) :=
  Iff.rfl

/-- An error of the first part is the outcome of the composition. -/
theorem run_bind {post : Phase → Except ε β → Prop} {program : Fallible Call Reply ε α}
    {next : α → Fallible Call Reply ε β} :
    Follows protocol post phase (program >>= next).run ↔
      Follows protocol (fun phase result => match result with
        | .ok value => Follows protocol post phase (next value).run
        | .error error => post phase (.error error)) phase program.run := by
  rw [ExceptT.run_bind, bind]
  refine Iff.of_eq (congrArg (fun p => Follows protocol p phase program.run) ?_)
  funext phase result
  cases result <;> rfl

@[simp] theorem run_ite {post : Phase → Except ε α → Prop} {c : Prop} [Decidable c]
    {left right : Fallible Call Reply ε α} :
    Follows protocol post phase (if c then left else right).run ↔
      if c then Follows protocol post phase left.run
      else Follows protocol post phase right.run := by
  split <;> exact Iff.rfl

@[simp] theorem run_attempt {post : Phase → Except ε' (Except ε α) → Prop}
    {program : Fallible Call Reply ε α} :
    Follows protocol post phase (attempt program).run ↔
      Follows protocol (fun phase result => post phase (.ok result)) phase program.run :=
  map

@[simp] theorem run_ignore {post : Phase → Except ε' Unit → Prop}
    {program : Fallible Call Reply ε α} :
    Follows protocol post phase (ignore program).run ↔
      Follows protocol (fun phase _ => post phase (.ok ())) phase program.run :=
  map

@[simp] theorem run_or_else {post : Phase → Except ε α → Prop} {rename : ε' → ε}
    {program : Program Call Reply (Except ε' α)} :
    Follows protocol post phase (orElse rename program).run ↔
      Follows protocol (fun phase result => post phase (result.mapError rename)) phase program :=
  map

@[simp] theorem run_always {post : Phase → Except ε α → Prop} {program : Program Call Reply α} :
    Follows protocol post phase (always program : Fallible Call Reply ε α).run ↔
      Follows protocol (fun phase value => post phase (.ok value)) phase program :=
  map

theorem mono {post' : Phase → α → Prop} {program : Program Call Reply α}
    (h : Follows protocol post phase program)
    (hpost : ∀ phase value, post phase value → post' phase value) :
    Follows protocol post' phase program := by
  induction program generalizing phase with
  | done value => exact hpost phase value h
  | call c rest ih => exact ⟨h.1, fun reply => ih reply (h.2 reply)⟩

end Follows

/-! ## Programs that leave the phase alone -/

/-- The program issues calls that are allowed in the phase and do not lead out of it. -/
def Silent (protocol : Protocol Call Reply Phase) (phase : Phase)
    (program : Fallible Call Reply ε α) : Prop :=
  Follows protocol (fun phase' _ => phase' = phase) phase program.run

namespace Silent

variable {phase : Phase} {program : Fallible Call Reply ε α}

/-- The outcome of a silent program is returned in the phase it started from. -/
theorem follows {post : Phase → Except ε α → Prop} (h : Silent protocol phase program)
    (hpost : ∀ result, post phase result) : Follows protocol post phase program.run :=
  Follows.mono h fun _ result hphase => hphase ▸ hpost result

theorem pure (value : α) :
    Silent protocol phase (Pure.pure value : Fallible Call Reply ε α) :=
  rfl

theorem bind {next : α → Fallible Call Reply ε β} (h : Silent protocol phase program)
    (hnext : ∀ value, Silent protocol phase (next value)) :
    Silent protocol phase (program >>= next) := by
  refine Follows.run_bind.mpr (h.follows fun result => ?_)
  cases result with
  | ok value => exact hnext value
  | error e => rfl

theorem ite {c : Prop} [Decidable c] {other : Fallible Call Reply ε α}
    (h : Silent protocol phase program) (hother : Silent protocol phase other) :
    Silent protocol phase (if c then program else other) := by
  split
  · exact h
  · exact hother

theorem or_else {rename : ε' → ε} {program : Program Call Reply (Except ε' α)}
    (h : Follows protocol (fun phase' _ => phase' = phase) phase program) :
    Silent protocol phase (orElse rename program) :=
  Follows.run_or_else.mpr h

theorem always {program : Program Call Reply α}
    (h : Follows protocol (fun phase' _ => phase' = phase) phase program) :
    Silent protocol phase (Effect.always program : Fallible Call Reply ε α) :=
  Follows.run_always.mpr h

/-- A program that issues only calls which leave the phase alone. -/
theorem of_issues (h : Issues (fun c => protocol.allowed phase c ∧
    ∀ reply, protocol.next phase c reply = phase) program.run) : Silent protocol phase program := by
  unfold Silent
  generalize program.run = calls at h
  induction calls with
  | done value => rfl
  | call c rest ih =>
      refine ⟨h.1.1, fun reply => ?_⟩
      rw [h.1.2 reply]
      exact ih reply (h.2 reply)

end Silent

/-! ## Pools -/

/-- Programs that run at the same time over one state. -/
structure Pool (Call : Type) (Reply : Call → Type) (σ α : Type) where
  threads : List (Program Call Reply α)
  state : σ

namespace Pool

variable {τ : Type} {handler : τ → Handler Call Reply σ} {pool : Pool Call Reply σ α}
  {thread : Nat} {turn : τ}

/-- The call that a thread issues next. -/
def pending (pool : Pool Call Reply σ α) (thread : Nat) : Option Call :=
  match pool.threads[thread]? with
  | some (.call c _) => some c
  | _ => none

/-- One thread issues its next call; a thread that has returned does nothing. -/
def step (handler : τ → Handler Call Reply σ) (pool : Pool Call Reply σ α) (thread : Nat)
    (turn : τ) : Pool Call Reply σ α :=
  match pool.threads[thread]? with
  | some (.call c next) =>
      ⟨pool.threads.set thread (next (handler turn c pool.state).1),
        (handler turn c pool.state).2⟩
  | _ => pool

/-- A turn does nothing, or issues the pending call of its thread. -/
theorem step_cases :
    pool.pending thread = none ∧ pool.step handler thread turn = pool ∨
    ∃ c next, pool.threads[thread]? = some (.call c next) ∧ pool.pending thread = some c ∧
      pool.step handler thread turn =
        ⟨pool.threads.set thread (next (handler turn c pool.state).1),
          (handler turn c pool.state).2⟩ := by
  unfold pending step
  cases hthread : pool.threads[thread]? with
  | none => exact .inl ⟨rfl, rfl⟩
  | some program =>
      cases program with
      | done value => exact .inl ⟨rfl, rfl⟩
      | call c next => exact .inr ⟨c, next, rfl, rfl, rfl⟩

/-- Every thread follows the protocol, from a phase in which it knows what it needs to. -/
def Follows (protocol : Protocol Call Reply Phase) (know : Nat → Phase → Prop)
    (pool : Pool Call Reply σ α) : Prop :=
  ∀ thread program, pool.threads[thread]? = some program →
    ∃ phase, Effect.Follows protocol (fun _ _ => True) phase program ∧ know thread phase

/-- A turn does nothing, or issues an allowed call. Then the threads keep to the protocol, and each
knows what it can conclude from what it knew and, if it was its turn, from the reply. -/
theorem Follows.step {know : Nat → Phase → Prop} (h : pool.Follows protocol know) :
    pool.pending thread = none ∧ pool.step handler thread turn = pool ∨
    ∃ phase c, pool.pending thread = some c ∧ protocol.allowed phase c ∧ know thread phase ∧
      (pool.step handler thread turn).state = (handler turn c pool.state).2 ∧
      ∀ know' : Nat → Phase → Prop,
        know' thread (protocol.next phase c (handler turn c pool.state).1) →
        (∀ other phase, other ≠ thread → know other phase → know' other phase) →
        (pool.step handler thread turn).Follows protocol know' := by
  rcases pool.step_cases with hidle | ⟨c, next, hthread, hpending, hstep⟩
  · exact .inl hidle
  obtain ⟨phase, ⟨hallowed, hnext⟩, hknow⟩ := h thread _ hthread
  refine .inr ⟨phase, c, hpending, hallowed, hknow, by rw [hstep], ?_⟩
  intro know' hself hother other program hprogram
  rw [hstep, List.getElem?_set] at hprogram
  split at hprogram
  · rename_i heq
    split at hprogram
    · cases hprogram
      exact ⟨_, hnext _, heq ▸ hself⟩
    · cases hprogram
  · rename_i hne
    obtain ⟨phase', hfollows, hknow'⟩ := h other program hprogram
    exact ⟨phase', hfollows, hother other phase' (Ne.symm hne) hknow'⟩

end Pool

end Effect
