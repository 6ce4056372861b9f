import Wireforge.Lib.Runs
import Wireforge.Lib.Threads

/-!
# Observed pools

A schedule names, turn by turn, the thread that issues its next call and the moment at which the
call is served. An observer keeps a record of the calls while the schedule is played; a guard is a
condition on a call and on the record before it. `Observed.step_cases` says what a turn can do when
the threads follow a protocol.
-/

namespace Effect

variable {Call : Type} {Reply : Call → Type} {Phase α σ τ γ : Type}

/-- A thread and the moment of its call. -/
structure Slot (τ : Type) where
  thread : Nat
  moment : τ

/-- One turn of a pool. -/
def Pool.turn (handler : τ → Handler Call Reply σ) (pool : Pool Call Reply σ α) (slot : Slot τ) :
    Pool Call Reply σ α :=
  pool.step handler slot.thread slot.moment

/-- Every thread issues allowed calls only. -/
def Pool.Issues (allowed : Call → Prop) (pool : Pool Call Reply σ α) : Prop :=
  ∀ program ∈ pool.threads, Effect.Issues allowed program

/-- A pool and the record of an observer. -/
structure Observed (Call : Type) (Reply : Call → Type) (σ α γ : Type) where
  pool : Pool Call Reply σ α
  record : γ

/-- What is noted of a call, given the record and the state before it. -/
abbrev Observer (Call σ τ γ : Type) : Type :=
  γ → Slot τ → σ → Call → γ

namespace Observed

variable (handler : τ → Handler Call Reply σ) (observer : Observer Call σ τ γ)

/-- One turn, of which a note is taken if a call is made. -/
def step (s : Observed Call Reply σ α γ) (slot : Slot τ) : Observed Call Reply σ α γ where
  pool := s.pool.turn handler slot
  record :=
    match s.pool.pending slot.thread with
    | none => s.record
    | some c => observer s.record slot s.pool.state c

/-- The call of the turn, if one is made, meets the guard. -/
def Meets (guard : γ → Slot τ → σ → Call → Prop) (s : Observed Call Reply σ α γ)
    (slot : Slot τ) : Prop :=
  ∀ c, s.pool.pending slot.thread = some c → guard s.record slot s.pool.state c

instance {guard : γ → Slot τ → σ → Call → Prop}
    [∀ record slot state c, Decidable (guard record slot state c)]
    (s : Observed Call Reply σ α γ) (slot : Slot τ) : Decidable (s.Meets guard slot) :=
  match hpending : s.pool.pending slot.thread with
  | none => .isTrue fun c hc => by
      rw [hpending] at hc
      cases hc
  | some c =>
      decidable_of_iff (guard s.record slot s.pool.state c) (by simp [Meets, hpending])

variable {handler observer} {s : Observed Call Reply σ α γ} {slot : Slot τ}
  {schedule : List (Slot τ)}

/-- The observer does not disturb the pool. -/
theorem pool_after :
    (Runs.after (step handler observer) s schedule).pool =
      Runs.after (Pool.turn handler) s.pool schedule := by
  induction schedule generalizing s with
  | nil => rfl
  | cons slot rest ih => exact ih

/-- When a note tells whether all calls so far have met the guard, it tells so of a whole run. -/
theorem noted_iff_each {guard : γ → Slot τ → σ → Call → Prop} (noted : γ → Prop)
    (hcall : ∀ record slot state c,
      noted (observer record slot state c) ↔ noted record ∧ guard record slot state c) :
    noted (Runs.after (step handler observer) s schedule).record ↔
      noted s.record ∧ Runs.EachStep (step handler observer) (Meets guard) s schedule := by
  induction schedule generalizing s with
  | nil => exact ⟨fun h => ⟨h, trivial⟩, And.left⟩
  | cons slot rest ih =>
      have hstep : noted (s.step handler observer slot).record ↔
          noted s.record ∧ s.Meets guard slot := by
        unfold step Meets
        cases hpending : s.pool.pending slot.thread with
        | none => simp
        | some c => simpa using hcall s.record slot s.pool.state c
      rw [Runs.after_cons, ih, hstep, and_assoc]
      exact Iff.rfl

/-- A turn does nothing, or issues an allowed call. Then the threads keep to the protocol, and each
knows what it can conclude from what it knew and, if it was its turn, from the reply. -/
theorem step_cases {protocol : Protocol Call Reply Phase} {know : Nat → Phase → Prop}
    (h : s.pool.Follows protocol know) :
    s.pool.pending slot.thread = none ∧ s.step handler observer slot = s ∨
    ∃ phase c, s.pool.pending slot.thread = some c ∧ protocol.allowed phase c ∧
      know slot.thread phase ∧
      (s.step handler observer slot).pool.state = (handler slot.moment c s.pool.state).2 ∧
      (s.step handler observer slot).record = observer s.record slot s.pool.state c ∧
      ∀ know' : Nat → Phase → Prop,
        know' slot.thread (protocol.next phase c (handler slot.moment c s.pool.state).1) →
        (∀ other phase, other ≠ slot.thread → know other phase → know' other phase) →
        (s.step handler observer slot).pool.Follows protocol know' := by
  have hturn : s.pool.pending slot.thread = none ∧
      s.pool.step handler slot.thread slot.moment = s.pool ∨ _ := h.step
  rcases hturn with ⟨hidle, hstay⟩ | ⟨phase, c, hpending, hallowed, hknow, hstate, hnext⟩
  · refine .inl ⟨hidle, ?_⟩
    unfold step
    rw [hidle, Pool.turn, hstay]
  · refine .inr ⟨phase, c, hpending, hallowed, hknow, hstate, ?_, hnext⟩
    unfold step
    rw [hpending]

/-- A turn does nothing, or issues an allowed call if every thread issues allowed calls only. -/
theorem issues_cases {allowed : Call → Prop} (h : s.pool.Issues allowed) :
    s.pool.pending slot.thread = none ∧ s.step handler observer slot = s ∨
    ∃ c, s.pool.pending slot.thread = some c ∧ allowed c ∧
      (s.step handler observer slot).pool.state = (handler slot.moment c s.pool.state).2 ∧
      (s.step handler observer slot).record = observer s.record slot s.pool.state c ∧
      (s.step handler observer slot).pool.Issues allowed := by
  have hturn : s.pool.pending slot.thread = none ∧
      s.pool.step handler slot.thread slot.moment = s.pool ∨ _ := s.pool.step_cases
  rcases hturn with ⟨hidle, hstay⟩ | ⟨c, next, hthread, hpending, hstep⟩
  · refine .inl ⟨hidle, ?_⟩
    unfold step
    rw [hidle, Pool.turn, hstay]
  obtain ⟨hallowed, hnext⟩ := h _ (List.mem_of_getElem? hthread)
  refine .inr ⟨c, hpending, hallowed, ?_, ?_, fun program hprogram => ?_⟩
  · exact congrArg Pool.state hstep
  · unfold step
    rw [hpending]
  · have hmem : program ∈ s.pool.threads.set slot.thread
        (next (handler slot.moment c s.pool.state).1) := by
      rw [show (s.step handler observer slot).pool = _ from hstep] at hprogram
      exact hprogram
    rcases List.mem_or_eq_of_mem_set hmem with hold | rfl
    · exact h program hold
    · exact hnext _

/-- What every allowed call preserves, every interleaving of programs that issue allowed calls only
preserves. -/
theorem run_of_issues {allowed : Call → Prop} {inv : σ → γ → Prop} (h : s.pool.Issues allowed)
    (hinv : inv s.pool.state s.record)
    (hcall : ∀ slot c state record, allowed c → inv state record →
      inv (handler slot.moment c state).2 (observer record slot state c))
    (schedule : List (Slot τ)) :
    inv (Runs.after (step handler observer) s schedule).pool.state
      (Runs.after (step handler observer) s schedule).record := by
  induction schedule generalizing s with
  | nil => exact hinv
  | cons slot rest ih =>
      have hturn : s.pool.pending slot.thread = none ∧ s.step handler observer slot = s ∨ _ :=
        issues_cases h
      rcases hturn with ⟨-, hstay⟩ | ⟨c, -, hallowed, hstate, hrecord, hnext⟩
      · rw [Runs.after_cons, hstay]
        exact ih h hinv
      · refine ih hnext ?_
        rw [hstate, hrecord]
        exact hcall slot c _ _ hallowed hinv

end Observed

end Effect
