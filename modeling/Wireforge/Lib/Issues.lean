import Wireforge.Lib.Program

/-!
# The calls of a program

`Issues allowed program` says that every call the program can issue, whatever the replies are, is
an allowed one. The rules follow the structure of programs, and `Issues.keeps` turns the property
into an invariant: what every allowed call preserves, the program preserves. An `Embedding` turns
the calls of one interface into calls of a wider one, and `exec_embed` says that an embedded
program acts on a part of the wider state as the program does.
-/

namespace Effect

variable {Call Call' : Type} {Reply : Call → Type} {Reply' : Call' → Type}
  {α β ε ε' σ σ' : Type}

/-- Every call that the program can issue is allowed. -/
def Issues (allowed : Call → Prop) : Program Call Reply α → Prop
  | .done _ => True
  | .call c next => allowed c ∧ ∀ reply, Issues allowed (next reply)

namespace Issues

variable {allowed allowed' : Call → Prop} {program : Program Call Reply α}

theorem mono (h : Issues allowed program) (himp : ∀ c, allowed c → allowed' c) :
    Issues allowed' program := by
  induction program with
  | done value => trivial
  | call c rest ih => exact ⟨himp c h.1, fun reply => ih reply (h.2 reply)⟩

@[simp] theorem pure (value : α) :
    Issues allowed (Pure.pure value : Program Call Reply α) :=
  trivial

theorem bind {next : α → Program Call Reply β} (h : Issues allowed program)
    (hnext : ∀ value, Issues allowed (next value)) : Issues allowed (program >>= next) := by
  induction program with
  | done value => exact hnext value
  | call c rest ih => exact ⟨h.1, fun reply => ih reply (h.2 reply)⟩

theorem request {c : Call} (h : allowed c) :
    Issues allowed (Program.request c : Program Call Reply (Reply c)) :=
  ⟨h, fun _ => trivial⟩

theorem map {f : α → β} (h : Issues allowed program) : Issues allowed (f <$> program) :=
  bind h fun _ => trivial

/-- What every allowed call preserves, a program of allowed calls preserves. -/
theorem keeps {handler : Handler Call Reply σ} {inv : σ → Prop} (h : Issues allowed program)
    (hcall : ∀ c, allowed c → ∀ state, inv state → inv (handler c state).2) {state : σ}
    (hinv : inv state) : inv (program.exec handler state).2 := by
  induction program generalizing state with
  | done value => exact hinv
  | call c rest ih => exact ih _ (h.2 _) (hcall c h.1 state hinv)

/-- What no allowed call changes, a program of allowed calls does not change. -/
theorem frame {handler : Handler Call Reply σ} {τ : Type} {part : σ → τ}
    (h : Issues allowed program)
    (hcall : ∀ c, allowed c → ∀ state, part (handler c state).2 = part state) (state : σ) :
    part (program.exec handler state).2 = part state := by
  have hkeep : ∀ c, allowed c → ∀ state', part state' = part state →
      part (handler c state').2 = part state :=
    fun c hc state' hstate' => (hcall c hc state').trans hstate'
  exact h.keeps hkeep rfl

/-! ## Programs that may stop with an error -/

@[simp] theorem run_pure (value : α) :
    Issues allowed (Pure.pure value : Fallible Call Reply ε α).run :=
  trivial

@[simp] theorem run_throw (error : ε) :
    Issues allowed (throw error : Fallible Call Reply ε α).run :=
  trivial

theorem run_bind {program : Fallible Call Reply ε α} {next : α → Fallible Call Reply ε β}
    (h : Issues allowed program.run) (hnext : ∀ value, Issues allowed (next value).run) :
    Issues allowed (program >>= next).run := by
  rw [ExceptT.run_bind]
  refine bind h fun result => ?_
  cases result with
  | ok value => exact hnext value
  | error e => trivial

theorem run_ite {c : Prop} [Decidable c] {left right : Fallible Call Reply ε α}
    (hleft : Issues allowed left.run) (hright : Issues allowed right.run) :
    Issues allowed (if c then left else right).run := by
  split
  · exact hleft
  · exact hright

theorem run_attempt {program : Fallible Call Reply ε α} (h : Issues allowed program.run) :
    Issues allowed (attempt program : Fallible Call Reply ε' (Except ε α)).run :=
  map h

theorem run_ignore {program : Fallible Call Reply ε α} (h : Issues allowed program.run) :
    Issues allowed (ignore program : Fallible Call Reply ε' Unit).run :=
  map h

theorem run_or_else {rename : ε' → ε} {program : Program Call Reply (Except ε' α)}
    (h : Issues allowed program) : Issues allowed (orElse rename program).run :=
  map h

theorem run_always {program : Program Call Reply α} (h : Issues allowed program) :
    Issues allowed (always program : Fallible Call Reply ε α).run :=
  map h

/-- A loop whose body issues allowed calls only. -/
theorem run_for_each {ι : Type} {body : ι → Fallible Call Reply ε Unit}
    (h : ∀ item, Issues allowed (body item).run) (items : List ι) :
    Issues allowed (forEach body items).run := by
  induction items with
  | nil => trivial
  | cons item rest ih => exact run_bind (h item) fun _ => ih

end Issues

/-! ## Pre- and postconditions -/

namespace Triple

variable {handler : Handler Call Reply σ} {program : Fallible Call Reply ε α}
  {next : α → Fallible Call Reply ε β} {post : Except ε β → σ → Prop}

/-- Sequential rule for a first program that only reads: what it returns is a fact about the state
it starts from. -/
theorem bind_read {state : σ}
    (hread : Issues (fun c => ∀ s, (handler c s).2 = s) program.run)
    (herror : ∀ e, (eval handler program state).1 = .error e → post (.error e) state)
    (hnext : ∀ value, (eval handler program state).1 = .ok value →
      Triple handler (· = state) (next value) post) :
    Triple handler (· = state) (program >>= next) post := by
  have hsame : id (eval handler program state).2 = id state :=
    hread.frame (fun _ hc => hc) state
  rintro _ rfl
  rw [eval_bind]
  rcases heval : eval handler program _ with ⟨e | value, state'⟩ <;> rw [heval] at hsame
  · obtain rfl : state' = _ := hsame
    exact herror e (by rw [heval])
  · obtain rfl : state' = _ := hsame
    exact hnext value (by rw [heval]) _ rfl

/-- Sequential rule for a first program that leaves a part of the state alone. -/
theorem bind_frame {τ : Type} {part : σ → τ} {x : τ}
    (hframe : Issues (fun c => ∀ s, part (handler c s).2 = part s) program.run)
    (herror : ∀ e s, part s = x → post (.error e) s)
    (hnext : ∀ value, Triple handler (part · = x) (next value) post) :
    Triple handler (part · = x) (program >>= next) post := by
  have hprogram : Triple handler (part · = x) program fun _ s => part s = x :=
    fun s hs => (hframe.frame (fun _ hc => hc) s).trans hs
  exact hprogram.bind hnext herror

/-- Sequential rule for a first program whose outcome is ignored. -/
theorem bind_ignored {τ : Type} {part : σ → τ} {x : τ} {first : Fallible Call Reply ε' α}
    {next : Unit → Fallible Call Reply ε β}
    (hframe : Issues (fun c => ∀ s, part (handler c s).2 = part s) first.run)
    (hnext : Triple handler (part · = x) (next ()) post) :
    Triple handler (part · = x) (ignore first >>= next) post := by
  intro s hs
  rw [eval_bind, eval_ignore]
  exact hnext _ ((hframe.frame (fun _ hc => hc) s).trans hs)

/-- What holds from every state with a part holds from a state with that part. -/
theorem at_state {τ : Type} {part : σ → τ} {state : σ} {post : Except ε α → σ → Prop}
    (h : Triple handler (part · = part state) program post) :
    Triple handler (· = state) program post :=
  fun s hs => h s (hs ▸ rfl)

end Triple

/-! ## Embeddings -/

/-- Calls of one interface as calls of another. -/
structure Embedding (Call : Type) (Reply : Call → Type) (Call' : Type) (Reply' : Call' → Type) where
  call : Call → Call'
  reply : (c : Call) → Reply' (call c) → Reply c

variable (e : Embedding Call Reply Call' Reply')

/-- The program over the wider interface. -/
def Program.embed : Program Call Reply α → Program Call' Reply' α
  | .done value => .done value
  | .call c next => .call (e.call c) fun reply => (next (e.reply c reply)).embed

/-- The program over the wider interface, with its errors renamed. -/
def embed (rename : ε → ε') (program : Fallible Call Reply ε α) : Fallible Call' Reply' ε' α :=
  ExceptT.mk (Except.mapError rename <$> program.run.embed e)

/-- On embedded calls a handler acts on a part of its state as another handler does. -/
structure Embedding.Acts (handler : Handler Call Reply σ) (handler' : Handler Call' Reply' σ')
    (get : σ' → σ) (put : σ' → σ → σ') : Prop where
  reply : ∀ c s, e.reply c (handler' (e.call c) s).1 = (handler c (get s)).1
  state : ∀ c s, (handler' (e.call c) s).2 = put s (handler c (get s)).2
  get_put : ∀ s a, get (put s a) = a
  put_put : ∀ s a b, put (put s a) b = put s b
  put_get : ∀ s, put s (get s) = s

variable {e} {handler : Handler Call Reply σ} {handler' : Handler Call' Reply' σ'}
  {get : σ' → σ} {put : σ' → σ → σ'}

/-- An embedded program acts on the part as the program does. -/
theorem exec_embed (h : e.Acts handler handler' get put) (program : Program Call Reply α)
    (state : σ') :
    (program.embed e).exec handler' state =
      ((program.exec handler (get state)).1, put state (program.exec handler (get state)).2) := by
  induction program generalizing state with
  | done value => exact Prod.ext rfl (h.put_get state).symm
  | call c rest ih =>
      show ((rest (e.reply c (handler' (e.call c) state).1)).embed e).exec handler'
        (handler' (e.call c) state).2 = _
      rw [ih, h.reply, h.state, h.get_put, h.put_put]
      rfl

/-- An embedded program that may stop acts on the part as the program does. -/
theorem eval_embed (h : e.Acts handler handler' get put) (rename : ε → ε')
    (program : Fallible Call Reply ε α) (state : σ') :
    eval handler' (embed e rename program) state =
      ((eval handler program (get state)).1.mapError rename,
        put state (eval handler program (get state)).2) := by
  simp only [eval, embed, ExceptT.run_mk, exec_map, exec_embed h]

/-- The calls of an embedded program are embedded calls. -/
theorem Issues.embed {allowed : Call → Prop} {allowed' : Call' → Prop}
    {program : Program Call Reply α} (h : Issues allowed program)
    (hcall : ∀ c, allowed c → allowed' (e.call c)) : Issues allowed' (program.embed e) := by
  induction program with
  | done value => trivial
  | call c rest ih => exact ⟨hcall c h.1, fun reply => ih _ (h.2 _)⟩

/-- Every program issues some calls or other. -/
theorem Issues.of_forall {allowed : Call → Prop} (h : ∀ c, allowed c)
    (program : Program Call Reply α) : Issues allowed program := by
  induction program with
  | done value => trivial
  | call c rest ih => exact ⟨h c, fun reply => ih reply⟩

end Effect
