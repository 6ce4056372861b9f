import Wireforge.Lib.Issues
import Wireforge.Lib.Trace

/-!
# The calls of a run

`Along handler good program state` says that every call which the program makes when it is run from
a state is a good one in the state in which it is made. Unlike a property of all calls that a
program can issue, it depends on the replies that the handler gives. `Throughout` is a property of
all states of a run. A handler that takes notes of the calls runs a program as before, and what
good calls preserve of the state and of the notes holds at the end.
-/

namespace Effect

variable {Call : Type} {Reply : Call → Type} {α β γ ε ε' σ : Type}

/-- Every call of the run is good in the state in which it is made. -/
def Along (handler : Handler Call Reply σ) (good : Call → σ → Prop) :
    Program Call Reply α → σ → Prop
  | .done _, _ => True
  | .call c next, state =>
      good c state ∧ Along handler good (next (handler c state).1) (handler c state).2

variable {handler : Handler Call Reply σ} {good : Call → σ → Prop}

/-- What can be decided of every call can be decided of a run. -/
instance decidableAlong [∀ c state, Decidable (good c state)] :
    (program : Program Call Reply α) → (state : σ) → Decidable (Along handler good program state)
  | .done _, _ => .isTrue trivial
  | .call c next, state =>
      have := decidableAlong (next (handler c state).1) (handler c state).2
      inferInstanceAs (Decidable (_ ∧ _))

theorem along_bind {program : Program Call Reply α} {next : α → Program Call Reply β}
    {state : σ} :
    Along handler good (program >>= next) state ↔
      Along handler good program state ∧
        Along handler good (next (program.exec handler state).1)
          (program.exec handler state).2 := by
  induction program generalizing state with
  | done value => exact (and_iff_right trivial).symm
  | call c rest ih =>
      show good c state ∧ _ ↔ (good c state ∧ _) ∧ _
      rw [and_assoc]
      exact and_congr_right fun _ => ih _

theorem along_map {f : α → β} {program : Program Call Reply α} {state : σ} :
    Along handler good (f <$> program) state ↔ Along handler good program state :=
  along_bind.trans (and_iff_left trivial)

/-- Calls that are good in every state. -/
theorem along_iff_calls {good : Call → Prop} {program : Program Call Reply α} {state : σ} :
    Along handler (fun c _ => good c) program state ↔
      ∀ c ∈ program.calls handler state, good c := by
  induction program generalizing state with
  | done value => exact ⟨fun _ c hc => absurd hc List.not_mem_nil, fun _ => trivial⟩
  | call c rest ih =>
      show good c ∧ _ ↔ ∀ c' ∈ c :: _, good c'
      rw [List.forall_mem_cons]
      exact and_congr_right fun _ => ih _

theorem Along.mono {good' : Call → σ → Prop} {program : Program Call Reply α} {state : σ}
    (h : Along handler good program state) (himp : ∀ c s, good c s → good' c s) :
    Along handler good' program state := by
  induction program generalizing state with
  | done value => trivial
  | call c rest ih => exact ⟨himp c state h.1, ih _ h.2⟩

/-- A program that issues good calls only makes good calls from every state. -/
theorem Along.of_issues {allowed : Call → Prop} {program : Program Call Reply α}
    (h : Issues allowed program) (hgood : ∀ c, allowed c → ∀ s, good c s) (state : σ) :
    Along handler good program state := by
  induction program generalizing state with
  | done value => trivial
  | call c rest ih => exact ⟨hgood c h.1 state, ih _ (h.2 _) _⟩

/-! ## Programs that may stop with an error -/

namespace Along

variable {program : Fallible Call Reply ε α} {next : α → Fallible Call Reply ε β}
  {state state' : σ}

/-- What follows a program that returns a value runs from the state the program leaves. -/
theorem run_bind {value : α} (h : Along handler good (program >>= next).run state)
    (heval : eval handler program state = (.ok value, state')) :
    Along handler good (next value).run state' := by
  rw [ExceptT.run_bind] at h
  have hrest := (along_bind.mp h).2
  rw [show program.run.exec handler state = (.ok value, state') from heval] at hrest
  exact hrest

/-- A composition makes good calls if its first part does, and what follows the first part does
from the state that it leaves. -/
theorem run_then (h : Along handler good program.run state)
    (hnext : ∀ value state', eval handler program state = (.ok value, state') →
      Along handler good (next value).run state') :
    Along handler good (program >>= next).run state := by
  rw [ExceptT.run_bind, along_bind]
  refine ⟨h, ?_⟩
  have heval : program.run.exec handler state = eval handler program state := rfl
  rw [heval]
  rcases hfirst : eval handler program state with ⟨e | value, state'⟩
  · trivial
  · exact hnext value state' hfirst

theorem run_first (h : Along handler good (program >>= next).run state) :
    Along handler good program.run state :=
  (along_bind.mp h).1

theorem run_ignore
    (h : Along handler good (ignore program : Fallible Call Reply ε' Unit).run state) :
    Along handler good program.run state :=
  along_map.mp h

theorem run_or_else {rename : ε' → ε} {calls : Program Call Reply (Except ε' α)}
    (h : Along handler good (orElse rename calls).run state) : Along handler good calls state :=
  along_map.mp h

end Along

/-! ## Properties of all states of a run -/

section

variable {inv : σ → Prop} {state : σ}

/-- The property holds of every state of the run: of those in which calls are made, and of the
last. -/
def Throughout (handler : Handler Call Reply σ) (inv : σ → Prop)
    (program : Program Call Reply α) (state : σ) : Prop :=
  Along handler (fun _ s => inv s) program state ∧ inv (program.exec handler state).2

namespace Throughout

theorem of_issues {allowed : Call → Prop} {program : Program Call Reply α}
    (h : Issues allowed program)
    (hcall : ∀ c, allowed c → ∀ state, inv state → inv (handler c state).2) (hinv : inv state) :
    Throughout handler inv program state := by
  refine ⟨?_, h.keeps hcall hinv⟩
  induction program generalizing state with
  | done value => trivial
  | call c rest ih => exact ⟨hinv, ih _ (h.2 _) (hcall c h.1 state hinv)⟩

variable {program : Fallible Call Reply ε α} {next : α → Fallible Call Reply ε β}

theorem last (h : Throughout handler inv program.run state) :
    inv (eval handler program state).2 :=
  h.2

/-- What follows a program is run from the state it leaves. -/
theorem run_bind (h : Throughout handler inv program.run state)
    (hnext : ∀ value state', eval handler program state = (.ok value, state') →
      Throughout handler inv (next value).run state') :
    Throughout handler inv (program >>= next).run state := by
  refine ⟨Along.run_then h.1 fun value state' heval => (hnext value state' heval).1, ?_⟩
  show inv (eval handler (program >>= next) state).2
  rw [eval_bind]
  rcases hfirst : eval handler program state with ⟨e | value, state'⟩
  · have hlast := h.last
    rwa [hfirst] at hlast
  · exact (hnext value state' hfirst).last

/-- A loop whose body keeps a property keeps it throughout. -/
theorem run_for_each {ι : Type} {body : ι → Fallible Call Reply ε Unit} {items : List ι}
    (hbody : ∀ item ∈ items, ∀ state, inv state →
      Throughout handler inv (body item).run state) (hinv : inv state) :
    Throughout handler inv (forEach body items).run state := by
  induction items generalizing state with
  | nil => exact ⟨trivial, hinv⟩
  | cons item rest ih =>
      refine run_bind (hbody item List.mem_cons_self state hinv) fun value state' heval => ?_
      have hlast := (hbody item List.mem_cons_self state hinv).last
      rw [heval] at hlast
      exact ih (fun item hitem => hbody item (List.mem_cons_of_mem _ hitem)) hlast

end Throughout

end

/-! ## Notes -/

/-- A handler that takes a note of every call, given the state in which the call is made. -/
def noting (handler : Handler Call Reply σ) (note : Call → σ → γ → γ) :
    Handler Call Reply (σ × γ) :=
  fun c s => ((handler c s.1).1, (handler c s.1).2, note c s.1 s.2)

variable {note : Call → σ → γ → γ}

/-- Taking notes does not disturb a program. -/
theorem exec_noting (program : Program Call Reply α) (s : σ × γ) :
    (program.exec (noting handler note) s).1 = (program.exec handler s.1).1 ∧
      (program.exec (noting handler note) s).2.1 = (program.exec handler s.1).2 := by
  induction program generalizing s with
  | done value => exact ⟨rfl, rfl⟩
  | call c rest ih => exact ih _ _

theorem eval_noting (program : Fallible Call Reply ε α) (s : σ × γ) :
    (eval (noting handler note) program s).2.1 = (eval handler program s.1).2 :=
  (exec_noting program.run s).2

/-- What good calls preserve of the state and of the notes, a run of good calls preserves. -/
theorem Along.noted {inv : σ × γ → Prop} {program : Program Call Reply α} {s : σ × γ}
    (h : Along handler good program s.1)
    (hcall : ∀ c s, good c s.1 → inv s → inv (noting handler note c s).2) (hinv : inv s) :
    inv (program.exec (noting handler note) s).2 := by
  induction program generalizing s with
  | done value => exact hinv
  | call c rest ih => exact ih _ h.2 (hcall c s h.1 hinv)

end Effect
