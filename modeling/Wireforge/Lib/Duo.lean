import Wireforge.Lib.Observed

/-!
# Two observed programs

Two programs share one state, and each follows a protocol of its own. A relation between the two
phases, the state and the record that every call of either program keeps holds throughout every
interleaving. When both programs have returned, it holds of the phases they have returned in.
`Follows.exec` is the rule for a program that runs alone.
-/

namespace Effect

variable {Call : Type} {Reply : Call → Type} {Phase Phase' α σ τ γ : Type}

/-- A program that runs alone keeps what each call of its protocol keeps, and returns in a phase in
which its postcondition holds. -/
theorem Follows.exec {protocol : Protocol Call Reply Phase} {post : Phase → α → Prop}
    {handler : Handler Call Reply σ} {know : Phase → σ → Prop} {program : Program Call Reply α}
    {phase : Phase} {state : σ} (h : Follows protocol post phase program)
    (hcall : ∀ phase c state, protocol.allowed phase c → know phase state →
      know (protocol.next phase c (handler c state).1) (handler c state).2)
    (hknow : know phase state) :
    ∃ last, post last (program.exec handler state).1 ∧
      know last (program.exec handler state).2 := by
  induction program generalizing phase state with
  | done value => exact ⟨phase, h, hknow⟩
  | call c rest ih => exact ih _ (h.2 _) (hcall phase c state h.1 hknow)

/-- A relation between the phases of two programs, the state and the record. -/
abbrev Joint (Phase Phase' σ γ : Type) : Type :=
  Phase → Phase' → σ → γ → Prop

namespace Observed

/-- Two programs, each in a phase of its own protocol, and the relation that holds between them. -/
def Duo (first : Protocol Call Reply Phase) (post : Phase → α → Prop)
    (second : Protocol Call Reply Phase') (post' : Phase' → α → Prop)
    (joint : Joint Phase Phase' σ γ) (s : Observed Call Reply σ α γ) : Prop :=
  ∃ left right phase phase', s.pool.threads = [left, right] ∧
    Follows first post phase left ∧ Follows second post' phase' right ∧
    joint phase phase' s.pool.state s.record

variable {first : Protocol Call Reply Phase} {post : Phase → α → Prop}
  {second : Protocol Call Reply Phase'} {post' : Phase' → α → Prop}
  {joint : Joint Phase Phase' σ γ} {handler : τ → Handler Call Reply σ}
  {observer : Observer Call σ τ γ} {guard : γ → Slot τ → σ → Call → Prop}
  {s : Observed Call Reply σ α γ} {slot : Slot τ}

/-- Every call that meets the guard keeps the relation, whichever program makes it. -/
structure Duo.Keeps (first : Protocol Call Reply Phase) (second : Protocol Call Reply Phase')
    (joint : Joint Phase Phase' σ γ) (handler : τ → Handler Call Reply σ)
    (observer : Observer Call σ τ γ) (guard : γ → Slot τ → σ → Call → Prop) : Prop where
  left : ∀ slot phase phase' c state record, slot.thread = 0 → first.allowed phase c →
    guard record slot state c → joint phase phase' state record →
    joint (first.next phase c (handler slot.moment c state).1) phase'
      (handler slot.moment c state).2 (observer record slot state c)
  right : ∀ slot phase phase' c state record, slot.thread = 1 → second.allowed phase' c →
    guard record slot state c → joint phase phase' state record →
    joint phase (second.next phase' c (handler slot.moment c state).1)
      (handler slot.moment c state).2 (observer record slot state c)

/-- One turn of either program. -/
theorem Duo.turn (hkeeps : Duo.Keeps first second joint handler observer guard)
    (h : s.Duo first post second post' joint) (hguard : s.Meets guard slot) :
    (s.step handler observer slot).Duo first post second post' joint := by
  have hduo := h
  obtain ⟨left, right, phase, phase', hthreads, hleft, hright, hjoint⟩ := hduo
  have hturn : s.pool.pending slot.thread = none ∧
      s.pool.step handler slot.thread slot.moment = s.pool ∨ _ := s.pool.step_cases
  rcases hturn with ⟨hidle, hstay⟩ | ⟨c, next, hthread, hpending, hstep⟩
  · have hsame : s.step handler observer slot = s := by
      unfold step
      rw [hidle, Pool.turn, hstay]
    rw [hsame]
    exact h
  · have hrecord : (s.step handler observer slot).record =
        observer s.record slot s.pool.state c := by
      unfold step
      rw [hpending]
    have hpool : (s.step handler observer slot).pool = _ := hstep
    have hguarded : guard s.record slot s.pool.state c := hguard c hpending
    rw [hthreads] at hthread hpool
    have hslots : slot.thread = 0 ∨ slot.thread = 1 ∨ 2 ≤ slot.thread := by omega
    rcases hslots with hslot | hslot | hslot
    · rw [hslot] at hthread hpool
      obtain rfl := Option.some.inj hthread
      refine ⟨_, right, _, phase', by rw [hpool]; rfl, hleft.2 _, hright, ?_⟩
      rw [hpool, hrecord]
      exact hkeeps.left slot phase phase' c _ _ hslot hleft.1 hguarded hjoint
    · rw [hslot] at hthread hpool
      obtain rfl := Option.some.inj hthread
      refine ⟨left, _, phase, _, by rw [hpool]; rfl, hleft, hright.2 _, ?_⟩
      rw [hpool, hrecord]
      exact hkeeps.right slot phase phase' c _ _ hslot hright.1 hguarded hjoint
    · rw [List.getElem?_eq_none hslot] at hthread
      cases hthread

/-- Every interleaving whose calls all meet the guard. -/
theorem Duo.run (hkeeps : Duo.Keeps first second joint handler observer guard)
    (h : s.Duo first post second post' joint) {schedule : List (Slot τ)}
    (hguard : Runs.EachStep (step handler observer) (Meets guard) s schedule) :
    (Runs.after (step handler observer) s schedule).Duo first post second post' joint := by
  induction schedule generalizing s with
  | nil => exact h
  | cons slot rest ih => exact ih (h.turn hkeeps hguard.1) hguard.2

/-- The phases in which both programs have returned. -/
theorem Duo.finished {value value' : α} (h : s.Duo first post second post' joint)
    (hdone : s.pool.threads = [.done value, .done value']) :
    ∃ phase phase', post phase value ∧ post' phase' value' ∧
      joint phase phase' s.pool.state s.record := by
  obtain ⟨left, right, phase, phase', hthreads, hleft, hright, hjoint⟩ := h
  rw [hdone] at hthreads
  cases hthreads
  exact ⟨phase, phase', hleft, hright, hjoint⟩

end Observed

end Effect
