import Wireforge.Lib.Program

/-!
# The calls of one execution

`trace handler program state` lists the calls that the program issues, in order, when the handler
serves them from the given state. The rules follow the structure of programs: a composition issues
the calls of its first part and then, if that part returns, those of its second.
-/

namespace Effect

variable {Call : Type} {Reply : Call → Type} {α β ε ε' σ ι : Type} {handler : Handler Call Reply σ}
  {state : σ}

/-- The calls of a program, in order. -/
def Program.calls (handler : Handler Call Reply σ) : Program Call Reply α → σ → List Call
  | .done _, _ => []
  | .call c next, state =>
      c :: calls handler (next (handler c state).1) (handler c state).2

/-- The calls of a program that may stop with an error. -/
def trace (handler : Handler Call Reply σ) (program : Fallible Call Reply ε α) (state : σ) :
    List Call :=
  program.run.calls handler state

namespace Program

theorem calls_bind (program : Program Call Reply α) (next : α → Program Call Reply β) (state : σ) :
    (program >>= next).calls handler state = program.calls handler state ++
      (next (program.exec handler state).1).calls handler (program.exec handler state).2 := by
  induction program generalizing state with
  | done value => rfl
  | call c rest ih =>
      show c :: (rest (handler c state).1 >>= next).calls handler (handler c state).2 = _
      rw [ih]
      rfl

@[simp] theorem calls_map (f : α → β) (program : Program Call Reply α) (state : σ) :
    (f <$> program).calls handler state = program.calls handler state := by
  have hbind : (f <$> program).calls handler state = program.calls handler state ++ [] :=
    calls_bind program (fun value => Pure.pure (f value)) state
  rw [hbind, List.append_nil]

@[simp] theorem calls_request (c : Call) (state : σ) :
    (Program.request c : Program Call Reply (Reply c)).calls handler state = [c] := rfl

end Program

@[simp] theorem trace_pure (value : α) :
    trace handler (pure value : Fallible Call Reply ε α) state = [] := rfl

@[simp] theorem trace_throw (error : ε) :
    trace handler (throw error : Fallible Call Reply ε α) state = [] := rfl

/-- A composition whose first part returns. -/
theorem trace_bind_ok {program : Fallible Call Reply ε α} {next : α → Fallible Call Reply ε β}
    {value : α} {middle : σ} (h : eval handler program state = (.ok value, middle)) :
    trace handler (program >>= next) state =
      trace handler program state ++ trace handler (next value) middle := by
  unfold trace
  rw [ExceptT.run_bind, Program.calls_bind, show program.run.exec handler state = _ from h]

/-- A composition whose first part stops. -/
theorem trace_bind_error {program : Fallible Call Reply ε α} {next : α → Fallible Call Reply ε β}
    {error : ε} {middle : σ} (h : eval handler program state = (.error error, middle)) :
    trace handler (program >>= next) state = trace handler program state := by
  unfold trace
  rw [ExceptT.run_bind, Program.calls_bind, show program.run.exec handler state = _ from h]
  exact List.append_nil _

/-- A second part that shows no calls adds none. -/
theorem filter_map_trace_bind {γ : Type} {shown : Call → Option γ}
    {program : Fallible Call Reply ε α} {next : α → Fallible Call Reply ε β}
    (hnext : ∀ value state, (trace handler (next value) state).filterMap shown = []) (state : σ) :
    (trace handler (program >>= next) state).filterMap shown =
      (trace handler program state).filterMap shown := by
  rcases heval : eval handler program state with ⟨error | value, middle⟩
  · rw [trace_bind_error heval]
  · rw [trace_bind_ok heval, List.filterMap_append, hnext, List.append_nil]

@[simp] theorem trace_attempt (program : Fallible Call Reply ε α) :
    trace handler (attempt program : Fallible Call Reply ε' (Except ε α)) state =
      trace handler program state :=
  Program.calls_map _ _ _

@[simp] theorem trace_ignore (program : Fallible Call Reply ε α) :
    trace handler (ignore program : Fallible Call Reply ε' Unit) state =
      trace handler program state :=
  Program.calls_map _ _ _

@[simp] theorem trace_or_else (rename : ε' → ε) (program : Program Call Reply (Except ε' α)) :
    trace handler (orElse rename program) state = program.calls handler state :=
  Program.calls_map _ _ _

@[simp] theorem trace_always (program : Program Call Reply α) :
    trace handler (always program : Fallible Call Reply ε α) state =
      program.calls handler state :=
  Program.calls_map _ _ _

/-- The calls of a loop whose first turn returns. -/
theorem trace_for_each_cons {body : ι → Fallible Call Reply ε Unit} {item : ι} {rest : List ι}
    {middle : σ} (h : eval handler (body item) state = (.ok (), middle)) :
    trace handler (forEach body (item :: rest)) state =
      trace handler (body item) state ++ trace handler (forEach body rest) middle :=
  trace_bind_ok h

/-- A loop whose first turn stops. -/
theorem trace_for_each_cons_error {body : ι → Fallible Call Reply ε Unit} {item : ι}
    {rest : List ι} {error : ε} {middle : σ}
    (h : eval handler (body item) state = (.error error, middle)) :
    trace handler (forEach body (item :: rest)) state = trace handler (body item) state :=
  trace_bind_error h

/-- A loop whose turns never stop, each showing calls that depend on its item alone, shows the
calls of its turns in order. -/
theorem filter_map_trace_for_each {γ : Type} {shown : Call → Option γ}
    {body : ι → Fallible Call Reply ε Unit} {calls : ι → List γ}
    (hok : ∀ item state, (eval handler (body item) state).1 = .ok ())
    (hcalls : ∀ item state, (trace handler (body item) state).filterMap shown = calls item)
    (items : List ι) (state : σ) :
    (eval handler (forEach body items) state).1 = .ok () ∧
      (trace handler (forEach body items) state).filterMap shown = items.flatMap calls := by
  induction items generalizing state with
  | nil => exact ⟨rfl, rfl⟩
  | cons item rest ih =>
      have hturn : eval handler (body item) state =
          (.ok (), (eval handler (body item) state).2) := Prod.ext (hok item state) rfl
      obtain ⟨hrest, hshown⟩ := ih (eval handler (body item) state).2
      constructor
      · rw [eval_for_each_cons, hturn]
        exact hrest
      · rw [trace_for_each_cons hturn, List.filterMap_append, hcalls, hshown, List.flatMap_cons]

/-! ## Programs that may stop early -/

/-- The program shows a part of the calls, and all of them if it returns. -/
def Shows {γ : Type} (handler : Handler Call Reply σ) (shown : Call → Option γ)
    (program : Fallible Call Reply ε α) (state : σ) (calls : List γ) : Prop :=
  (trace handler program state).filterMap shown <+: calls ∧
    ∀ value final, eval handler program state = (.ok value, final) →
      (trace handler program state).filterMap shown = calls

namespace Shows

variable {γ : Type} {shown : Call → Option γ}

/-- A program that shows all the calls, whether it returns or not. -/
theorem of_eq {program : Fallible Call Reply ε α} {calls : List γ}
    (h : (trace handler program state).filterMap shown = calls) :
    Shows handler shown program state calls :=
  ⟨h ▸ List.prefix_rfl, fun _ _ _ => h⟩

/-- A program that stops before it shows any of the calls. -/
theorem of_error {program : Fallible Call Reply ε α} {calls : List γ} {error : ε} {final : σ}
    (hnone : (trace handler program state).filterMap shown = [])
    (h : eval handler program state = (.error error, final)) :
    Shows handler shown program state calls := by
  refine ⟨hnone ▸ List.nil_prefix, fun value final' hok => ?_⟩
  rw [h] at hok
  cases hok

/-- A composition whose first part shows no calls. -/
theorem bind {program : Fallible Call Reply ε α} {next : α → Fallible Call Reply ε β}
    {calls : List γ} (hnone : (trace handler program state).filterMap shown = [])
    (hnext : ∀ value middle, eval handler program state = (.ok value, middle) →
      Shows handler shown (next value) middle calls) :
    Shows handler shown (program >>= next) state calls := by
  rcases heval : eval handler program state with ⟨error | value, middle⟩
  · refine of_error ?_ (eval_bind_error.mpr (.inl heval))
    rw [trace_bind_error heval, hnone]
  · obtain ⟨hstart, hall⟩ := hnext value middle heval
    unfold Shows
    rw [trace_bind_ok heval, List.filterMap_append, hnone, List.nil_append]
    refine ⟨hstart, fun result final hok => hall result final ?_⟩
    rwa [eval_bind, heval] at hok

/-- A loop: `inv` holds of the items that remain. -/
theorem for_each {body : ι → Fallible Call Reply ε Unit} {calls : ι → List γ}
    {inv : List ι → σ → Prop}
    (hbody : ∀ item rest state, inv (item :: rest) state →
      Shows handler shown (body item) state (calls item) ∧
        ∀ final, eval handler (body item) state = (.ok (), final) → inv rest final)
    (items : List ι) (state : σ) (hinv : inv items state) :
    Shows handler shown (forEach body items) state (items.flatMap calls) := by
  induction items generalizing state with
  | nil => exact of_eq rfl
  | cons item rest ih =>
      obtain ⟨⟨hstart, hall⟩, hnext⟩ := hbody item rest state hinv
      rw [List.flatMap_cons]
      rcases hturn : eval handler (body item) state with ⟨error | ⟨⟩, middle⟩
      · unfold Shows
        rw [trace_for_each_cons_error hturn, eval_for_each_cons, hturn]
        refine ⟨hstart.trans (List.prefix_append _ _), fun value final hok => ?_⟩
        cases hok
      · obtain ⟨hrest, hok⟩ := ih middle (hnext middle hturn)
        unfold Shows
        rw [trace_for_each_cons hturn, eval_for_each_cons, hturn, List.filterMap_append,
          hall () middle hturn]
        exact ⟨(List.prefix_append_right_inj _).mpr hrest,
          fun value final h => by rw [hok value final h]⟩

end Shows

end Effect
