import Mathlib.Logic.Function.Basic

/-!
# Programs over an interface of calls

A `Program Call Reply α` is a tree of calls: it either returns a value or issues a call and
continues with the reply. A `Handler` interprets every call as a state transformer, and
`Program.exec` runs a program through a handler. `eval` runs programs that may stop with an
error; `eval_bind` and `eval_attempt` are the two equations the proofs about them use.
-/

namespace Effect

/-- A program that issues calls from `Call`, receives replies of type `Reply call`, and returns a
value of type `α`. -/
inductive Program (Call : Type) (Reply : Call → Type) (α : Type) : Type where
  | done (value : α)
  | call (request : Call) (next : Reply request → Program Call Reply α)

variable {Call : Type} {Reply : Call → Type} {α β ε ε' σ : Type}

namespace Program

/-- Sequential composition: graft `next` onto every leaf. -/
def bind (program : Program Call Reply α) (next : α → Program Call Reply β) :
    Program Call Reply β :=
  match program with
  | .done value => next value
  | .call request rest => .call request fun reply => (rest reply).bind next

instance : Monad (Program Call Reply) where
  pure := .done
  bind := .bind

/-- The program that issues one call and returns its reply. -/
def request (c : Call) : Program Call Reply (Reply c) :=
  .call c .done

end Program

/-- The meaning of every call: its reply and the state it leaves. -/
abbrev Handler (Call : Type) (Reply : Call → Type) (σ : Type) : Type :=
  (c : Call) → σ → Reply c × σ

/-- Run a program through a handler from a state. -/
def Program.exec (handler : Handler Call Reply σ) :
    Program Call Reply α → σ → α × σ
  | .done value, state => (value, state)
  | .call c next, state => (next (handler c state).1).exec handler (handler c state).2

/-- A handler whose replies depend on the moment of the call; the state counts the calls. -/
def timed {τ : Type} (handler : τ → Handler Call Reply σ) (moments : Nat → τ) :
    Handler Call Reply (σ × Nat) :=
  fun c state =>
    let (reply, next) := handler (moments state.2) c state.1
    (reply, next, state.2 + 1)

variable {handler : Handler Call Reply σ}

@[simp] theorem exec_pure (value : α) (state : σ) :
    (pure value : Program Call Reply α).exec handler state = (value, state) := rfl

@[simp] theorem exec_request (c : Call) (state : σ) :
    (Program.request c : Program Call Reply (Reply c)).exec handler state = handler c state := rfl

/-- Running a composition runs the first program and then the second from the state it left. -/
@[simp] theorem exec_bind (program : Program Call Reply α) (next : α → Program Call Reply β)
    (state : σ) :
    (program >>= next).exec handler state =
      (next (program.exec handler state).1).exec handler (program.exec handler state).2 := by
  induction program generalizing state with
  | done value => rfl
  | call c rest ih => exact ih _ _

@[simp] theorem exec_map (f : α → β) (program : Program Call Reply α) (state : σ) :
    (f <$> program).exec handler state =
      (f (program.exec handler state).1, (program.exec handler state).2) :=
  exec_bind program (fun value => pure (f value)) state

/-! ## Programs that may stop with an error -/

/-- A program that returns a value or stops with an error of type `ε`. -/
abbrev Fallible (Call : Type) (Reply : Call → Type) (ε : Type) : Type → Type :=
  ExceptT ε (Program Call Reply)

/-- Run a fallible program: its outcome and the state it leaves. -/
def eval (handler : Handler Call Reply σ) (program : Fallible Call Reply ε α) (state : σ) :
    Except ε α × σ :=
  program.run.exec handler state

/-- Run a program and hand its outcome to the caller as a value, so that the caller goes on after
an error. -/
def attempt (program : Fallible Call Reply ε α) : Fallible Call Reply ε' (Except ε α) :=
  ExceptT.mk (Except.ok <$> program.run)

/-- Run a program for its effects only: its value and its error are dropped. -/
def ignore (program : Fallible Call Reply ε α) : Fallible Call Reply ε' Unit :=
  ExceptT.mk ((fun _ => .ok ()) <$> program.run)

/-- Issue a call whose reply is an `Except`, renaming its error. -/
def orElse (rename : ε' → ε) (program : Program Call Reply (Except ε' α)) :
    Fallible Call Reply ε α :=
  ExceptT.mk (Except.mapError rename <$> program)

/-- Issue a call that cannot fail. -/
def always (program : Program Call Reply α) : Fallible Call Reply ε α :=
  ExceptT.mk (Except.ok <$> program)

@[simp] theorem eval_pure (value : α) (state : σ) :
    eval handler (pure value : Fallible Call Reply ε α) state = (.ok value, state) := rfl

@[simp] theorem eval_throw (error : ε) (state : σ) :
    eval handler (throw error : Fallible Call Reply ε α) state = (.error error, state) := rfl

/-- Running a composition runs the first program; an error stops there, a value is passed on. -/
@[simp] theorem eval_bind (program : Fallible Call Reply ε α)
    (next : α → Fallible Call Reply ε β) (state : σ) :
    eval handler (program >>= next) state =
      match eval handler program state with
      | (.ok value, state') => eval handler (next value) state'
      | (.error error, state') => (.error error, state') := by
  simp only [eval, ExceptT.run_bind, exec_bind]
  rcases program.run.exec handler state with ⟨_ | _, _⟩ <;> rfl

/-- An attempt never stops; its value is the outcome of the attempted program. -/
@[simp] theorem eval_attempt (program : Fallible Call Reply ε α) (state : σ) :
    eval handler (attempt program : Fallible Call Reply ε' (Except ε α)) state =
      (.ok (eval handler program state).1, (eval handler program state).2) := by
  simp only [eval, attempt, ExceptT.run_mk, exec_map]

@[simp] theorem eval_ignore (program : Fallible Call Reply ε α) (state : σ) :
    eval handler (ignore program : Fallible Call Reply ε' Unit) state =
      (.ok (), (eval handler program state).2) := by
  simp only [eval, ignore, ExceptT.run_mk, exec_map]

@[simp] theorem eval_or_else (rename : ε' → ε) (program : Program Call Reply (Except ε' α))
    (state : σ) :
    eval handler (orElse rename program) state =
      ((program.exec handler state).1.mapError rename, (program.exec handler state).2) := by
  simp only [eval, orElse, ExceptT.run_mk, exec_map]

@[simp] theorem eval_always (program : Program Call Reply α) (state : σ) :
    eval handler (always program : Fallible Call Reply ε α) state =
      (.ok (program.exec handler state).1, (program.exec handler state).2) := by
  simp only [eval, always, ExceptT.run_mk, exec_map]

@[simp] theorem eval_ite (c : Prop) [Decidable c] (left right : Fallible Call Reply ε α)
    (state : σ) :
    eval handler (if c then left else right) state =
      if c then eval handler left state else eval handler right state := by
  split <;> rfl

/-- A composition returns a value exactly when both parts do. -/
theorem eval_bind_ok {program : Fallible Call Reply ε α} {next : α → Fallible Call Reply ε β}
    {state final : σ} {result : β} :
    eval handler (program >>= next) state = (.ok result, final) ↔
      ∃ value middle, eval handler program state = (.ok value, middle) ∧
        eval handler (next value) middle = (.ok result, final) := by
  rw [eval_bind]
  rcases eval handler program state with ⟨_ | value, middle⟩
  · simp
  · exact ⟨fun h => ⟨value, middle, rfl, h⟩, fun ⟨_, _, heq, h⟩ => by cases heq; exact h⟩

/-- A composition stops with an error exactly when its first part does, or when its second part
does after the first returned. -/
theorem eval_bind_error {program : Fallible Call Reply ε α} {next : α → Fallible Call Reply ε β}
    {state final : σ} {error : ε} :
    eval handler (program >>= next) state = (.error error, final) ↔
      eval handler program state = (.error error, final) ∨
      ∃ value middle, eval handler program state = (.ok value, middle) ∧
        eval handler (next value) middle = (.error error, final) := by
  rw [eval_bind]
  rcases eval handler program state with ⟨_ | value, middle⟩
  · simp
  · refine ⟨fun h => .inr ⟨value, middle, rfl, h⟩, ?_⟩
    rintro (heq | ⟨_, _, heq, h⟩)
    · cases heq
    · cases heq
      exact h

/-! ## Loops -/

/-- Run the body on every item in order; an error stops the loop. -/
def forEach {ι : Type} (body : ι → Fallible Call Reply ε Unit) : List ι → Fallible Call Reply ε Unit
  | [] => pure ()
  | item :: rest => do
      body item
      forEach body rest

@[simp] theorem eval_for_each_nil {ι : Type} (body : ι → Fallible Call Reply ε Unit)
    (state : σ) : eval handler (forEach body []) state = (.ok (), state) := rfl

/-- A loop runs its body on the first item and then goes on with the others, unless the body
stopped with an error. -/
theorem eval_for_each_cons {ι : Type} (body : ι → Fallible Call Reply ε Unit) (item : ι)
    (rest : List ι) (state : σ) :
    eval handler (forEach body (item :: rest)) state =
      match eval handler (body item) state with
      | (.ok _, state') => eval handler (forEach body rest) state'
      | (.error error, state') => (.error error, state') := by
  rw [forEach, eval_bind]
  rcases eval handler (body item) state with ⟨_ | _, _⟩ <;> rfl

/-- A loop over two lists runs through the first and then, unless the body stopped, through the
second. -/
theorem eval_for_each_append {ι : Type} (body : ι → Fallible Call Reply ε Unit)
    (first second : List ι) (state : σ) :
    eval handler (forEach body (first ++ second)) state =
      match eval handler (forEach body first) state with
      | (.ok _, state') => eval handler (forEach body second) state'
      | (.error error, state') => (.error error, state') := by
  induction first generalizing state with
  | nil => rfl
  | cons item rest ih =>
      rw [List.cons_append, eval_for_each_cons, eval_for_each_cons]
      rcases eval handler (body item) state with ⟨_ | _, state'⟩
      · rfl
      · exact ih state'

/-- A loop whose body never stops folds the effect of the body over the items. -/
theorem eval_for_each_ok {ι : Type} {body : ι → Fallible Call Reply ε Unit} {effect : σ → ι → σ}
    (hbody : ∀ item state, eval handler (body item) state = (.ok (), effect state item))
    (items : List ι) (state : σ) :
    eval handler (forEach body items) state = (.ok (), items.foldl effect state) := by
  induction items generalizing state with
  | nil => rfl
  | cons item rest ih =>
      rw [eval_for_each_cons, hbody]
      exact ih _

/-! ## Pre- and postconditions -/

/-- From every state that satisfies `pre`, the program's outcome and final state satisfy `post`. -/
def Triple (handler : Handler Call Reply σ) (pre : σ → Prop) (program : Fallible Call Reply ε α)
    (post : Except ε α → σ → Prop) : Prop :=
  ∀ state, pre state → post (eval handler program state).1 (eval handler program state).2

/-- The program preserves the invariant, whether it returns or stops with an error. -/
def Keeps (handler : Handler Call Reply σ) (inv : σ → Prop) (program : Fallible Call Reply ε α) :
    Prop :=
  Triple handler inv program fun _ => inv

namespace Triple

variable {pre : σ → Prop} {program : Fallible Call Reply ε α}
  {next : α → Fallible Call Reply ε β}

/-- Sequential rule: the middle condition covers both the value passed on and the error that stops
the composition. -/
theorem bind {middle : Except ε α → σ → Prop} {post : Except ε β → σ → Prop}
    (hprogram : Triple handler pre program middle)
    (hnext : ∀ value, Triple handler (middle (.ok value)) (next value) post)
    (herror : ∀ error state, middle (.error error) state → post (.error error) state) :
    Triple handler pre (program >>= next) post := by
  intro state hpre
  have hmiddle := hprogram state hpre
  rw [eval_bind]
  rcases heval : eval handler program state with ⟨error | value, state'⟩ <;>
    rw [heval] at hmiddle
  · exact herror error state' hmiddle
  · exact hnext value state' hmiddle

/-- Consequence rule for the postcondition. -/
theorem mono {post post' : Except ε α → σ → Prop} (h : Triple handler pre program post)
    (hpost : ∀ result state, post result state → post' result state) :
    Triple handler pre program post' :=
  fun state hpre => hpost _ _ (h state hpre)

end Triple

namespace Keeps

variable {inv : σ → Prop} {program : Fallible Call Reply ε α}

theorem pure (value : α) : Keeps handler inv (Pure.pure value : Fallible Call Reply ε α) :=
  fun _ hinv => hinv

theorem bind {next : α → Fallible Call Reply ε β} (hprogram : Keeps handler inv program)
    (hnext : ∀ value, Keeps handler inv (next value)) : Keeps handler inv (program >>= next) :=
  Triple.bind hprogram hnext fun _ _ h => h

theorem attempt (hprogram : Keeps handler inv program) :
    Keeps handler inv (Effect.attempt program : Fallible Call Reply ε' (Except ε α)) := by
  intro state hinv
  rw [eval_attempt]
  exact hprogram state hinv

theorem ignore (hprogram : Keeps handler inv program) :
    Keeps handler inv (Effect.ignore program : Fallible Call Reply ε' Unit) := by
  intro state hinv
  rw [eval_ignore]
  exact hprogram state hinv

theorem ite {c : Prop} [Decidable c] {other : Fallible Call Reply ε α}
    (hprogram : Keeps handler inv program) (hother : Keeps handler inv other) :
    Keeps handler inv (if c then program else other) := by
  split
  · exact hprogram
  · exact hother

theorem for_each {ι : Type} {body : ι → Fallible Call Reply ε Unit} {items : List ι}
    (hbody : ∀ item ∈ items, Keeps handler inv (body item)) :
    Keeps handler inv (forEach body items) := by
  induction items with
  | nil => exact .pure ()
  | cons item rest ih =>
      exact (hbody item List.mem_cons_self).bind fun _ =>
        ih fun other hother => hbody other (List.mem_cons_of_mem _ hother)

/-- A program that leaves every state as it found it preserves every invariant. -/
theorem of_eq (h : ∀ state, (eval handler program state).2 = state) :
    Keeps handler inv program := by
  intro state hinv
  rw [h state]
  exact hinv

end Keeps

end Effect
