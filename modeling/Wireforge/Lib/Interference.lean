import Wireforge.Lib.Observed

/-!
# Programs under interference

Programs that run at the same time know of each other only what all of them keep to. A `Contract`
says which calls are good in which states and how the state may evolve; every good call lets it
evolve so. `Guarantees` says of a program that all its calls are good, whatever the others do in
between as long as they keep to the contract. What a program learns from a reply it may use later
if it is stable. In whatever order the calls of such programs come, the state evolves as the
contract says: `Pool.evolves`.
-/

namespace Effect

variable {Call Call' : Type} {Reply : Call → Type} {Reply' : Call' → Type} {α β ε ε' σ τ τ' : Type}

/-- The calls that are good in a state, and how the state may evolve. -/
structure Contract (handler : τ → Handler Call Reply σ) where
  good : Call → σ → Prop
  evolves : σ → σ → Prop
  refl : ∀ s, evolves s s
  trans : ∀ s s' s'', evolves s s' → evolves s' s'' → evolves s s''
  step : ∀ t c s, good c s → evolves s (handler t c s).2

variable {handler : τ → Handler Call Reply σ} {contract : Contract handler}

/-- What holds of a state holds of the states that it may evolve to. -/
def Contract.Stable (contract : Contract handler) (fact : σ → Prop) : Prop :=
  ∀ s s', contract.evolves s s' → fact s → fact s'

/-- Whatever the others do between the calls of the program, each of them is good in the state in
which it is made, and the outcome satisfies `post` from then on. -/
def Guarantees (contract : Contract handler) (post : α → σ → Prop) :
    Program Call Reply α → σ → Prop
  | .done value, s => ∀ s', contract.evolves s s' → post value s'
  | .call c next, s => ∀ s', contract.evolves s s' → contract.good c s' ∧
      ∀ t, Guarantees contract post (next (handler t c s').1) (handler t c s').2

namespace Guarantees

variable {post : α → σ → Prop} {program : Program Call Reply α} {s s' : σ}

/-- The others may act before the program does. -/
theorem later (h : Guarantees contract post program s) (hs : contract.evolves s s') :
    Guarantees contract post program s' := by
  cases program with
  | done value =>
      intro s'' hs'
      exact h s'' (contract.trans s s' s'' hs hs')
  | call c next =>
      intro s'' hs'
      exact h s'' (contract.trans s s' s'' hs hs')

theorem mono {post' : α → σ → Prop} (h : Guarantees contract post program s)
    (hpost : ∀ value s, post value s → post' value s) :
    Guarantees contract post' program s := by
  induction program generalizing s with
  | done value =>
      intro s' hs
      exact hpost value s' (h s' hs)
  | call c next ih =>
      intro s' hs
      obtain ⟨hgood, hnext⟩ := h s' hs
      exact ⟨hgood, fun t => ih _ (hnext t)⟩

/-- A stable fact that holds at the beginning holds at the end. -/
theorem keeps {fact : σ → Prop} (h : Guarantees contract post program s)
    (hstable : contract.Stable fact) (hfact : fact s) :
    Guarantees contract (fun value s => post value s ∧ fact s) program s := by
  induction program generalizing s with
  | done value =>
      intro s' hs
      exact ⟨h s' hs, hstable s s' hs hfact⟩
  | call c next ih =>
      intro s' hs
      obtain ⟨hgood, hnext⟩ := h s' hs
      refine ⟨hgood, fun t => ih _ (hnext t) ?_⟩
      -- The fact outlasts what others do before the call, and then the call itself.
      exact hstable s' _ (contract.step t c s' hgood) (hstable s s' hs hfact)

theorem pure {value : α} (h : ∀ s', contract.evolves s s' → post value s') :
    Guarantees contract post (Pure.pure value : Program Call Reply α) s :=
  h

theorem bind {post : β → σ → Prop} {next : α → Program Call Reply β}
    (h : Guarantees contract (fun value s => Guarantees contract post (next value) s) program s) :
    Guarantees contract post (program >>= next) s := by
  induction program generalizing s with
  | done value => exact h s (contract.refl s)
  | call c rest ih =>
      intro s' hs
      obtain ⟨hgood, hnext⟩ := h s' hs
      exact ⟨hgood, fun t => ih _ (hnext t)⟩

theorem map {post : β → σ → Prop} {f : α → β}
    (h : Guarantees contract (fun value s => post (f value) s) program s) :
    Guarantees contract post (f <$> program) s := by
  show Guarantees contract post (program >>= fun value => Pure.pure (f value)) s
  refine bind ?_
  induction program generalizing s with
  | done value =>
      intro s' hs s'' hs'
      exact h s'' (contract.trans s s' s'' hs hs')
  | call c next ih =>
      intro s' hs
      obtain ⟨hgood, hnext⟩ := h s' hs
      exact ⟨hgood, fun t => ih _ (hnext t)⟩

/-- What a single call learns. -/
theorem request {c : Call} {post : Reply c → σ → Prop}
    (hgood : ∀ s', contract.evolves s s' → contract.good c s')
    (hpost : ∀ t s', contract.evolves s s' → ∀ s'', contract.evolves (handler t c s').2 s'' →
      post (handler t c s').1 s'') :
    Guarantees contract post (Program.request c) s := by
  intro s' hs
  exact ⟨hgood s' hs, fun t => hpost t s' hs⟩

/-- A program all of whose calls are good in every state. -/
theorem of_issues (h : Issues (fun c => ∀ s, contract.good c s) program) :
    Guarantees contract (fun _ _ => True) program s := by
  induction program generalizing s with
  | done value =>
      intro s' _
      trivial
  | call c next ih =>
      intro s' _
      exact ⟨h.1 s', fun t => ih _ (h.2 _)⟩

/-! ## Programs that may stop with an error -/

section Fallible

variable {post : Except ε β → σ → Prop} {program : Fallible Call Reply ε α}
  {next : α → Fallible Call Reply ε β}

/-- What follows a program that returns a value starts from what has been learned of it. -/
theorem run_bind
    (h : Guarantees contract (fun result s => ∀ value, result = .ok value →
      Guarantees contract post (next value).run s) program.run s)
    (herror : ∀ e s, post (.error e) s) : Guarantees contract post (program >>= next).run s := by
  rw [ExceptT.run_bind]
  refine bind (h.mono fun result s hnext => ?_)
  cases result with
  | ok value => exact hnext value rfl
  | error e => exact pure fun s' _ => herror e s'

/-- What follows a program all of whose calls are good in every state. -/
theorem run_after (h : Issues (fun c => ∀ s, contract.good c s) program.run)
    (hnext : ∀ value s', contract.evolves s s' → Guarantees contract post (next value).run s')
    (herror : ∀ e s, post (.error e) s) : Guarantees contract post (program >>= next).run s := by
  have hstable : contract.Stable (contract.evolves s) :=
    fun s' s'' hs hs' => contract.trans s s' s'' hs' hs
  refine run_bind (((of_issues h).keeps hstable (contract.refl s)).mono ?_) herror
  intro result s' hs value _
  exact hnext value s' hs.2

end Fallible

/-! ## Embedded programs -/

/-- A program keeps the contract of a wider interface on whose part the calls mean the same. -/
theorem embed {e : Embedding Call Reply Call' Reply'} {handler' : τ' → Handler Call' Reply' σ}
    {contract' : Contract handler'} (narrow : τ' → τ) (h : Guarantees contract post program s)
    (hevolves : ∀ s s', contract'.evolves s s' → contract.evolves s s')
    (hgood : ∀ c s, contract.good c s → contract'.good (e.call c) s)
    (hreply : ∀ t c s, e.reply c (handler' t (e.call c) s).1 = (handler (narrow t) c s).1)
    (hstate : ∀ t c s, (handler' t (e.call c) s).2 = (handler (narrow t) c s).2) :
    Guarantees contract' post (program.embed e) s := by
  induction program generalizing s with
  | done value =>
      intro s' hs
      exact h s' (hevolves s s' hs)
  | call c next ih =>
      intro s' hs
      obtain ⟨hc, hnext⟩ := h s' (hevolves s s' hs)
      refine ⟨hgood c s' hc, fun t => ?_⟩
      show Guarantees contract' post ((next (e.reply c _)).embed e) _
      rw [hreply, hstate]
      exact ih _ (hnext (narrow t))

end Guarantees

/-! ## Pools -/

namespace Pool

/-- Every thread of the pool keeps the contract from the present state on. -/
def Guarantees (contract : Contract handler) (pool : Pool Call Reply σ α) : Prop :=
  ∀ program ∈ pool.threads, Effect.Guarantees contract (fun _ _ => True) program pool.state

variable {pool : Pool Call Reply σ α}

/-- A turn lets the state evolve, and the threads keep the contract. -/
theorem guarantees_turn (h : pool.Guarantees contract) (slot : Slot τ) :
    contract.evolves pool.state (pool.turn handler slot).state ∧
      (pool.turn handler slot).Guarantees contract := by
  unfold turn
  have hturn : pool.pending slot.thread = none ∧
      pool.step handler slot.thread slot.moment = pool ∨ _ := pool.step_cases
  rcases hturn with ⟨-, hstay⟩ | ⟨c, next, hthread, -, hstep⟩
  · rw [hstay]
    exact ⟨contract.refl _, h⟩
  obtain ⟨hgood, hnext⟩ := h _ (List.mem_of_getElem? hthread) _ (contract.refl _)
  have hevolves := contract.step slot.moment c pool.state hgood
  rw [hstep]
  refine ⟨hevolves, fun program hprogram => ?_⟩
  -- The others have seen one more step; the thread itself goes on with its reply.
  rcases List.mem_or_eq_of_mem_set hprogram with hold | rfl
  · exact (h program hold).later hevolves
  · exact hnext slot.moment

/-- In whatever order the calls of the threads come, the state evolves as the contract says. -/
theorem evolves (h : pool.Guarantees contract) (schedule : List (Slot τ)) :
    contract.evolves pool.state (Runs.after (turn handler) pool schedule).state := by
  induction schedule generalizing pool with
  | nil => exact contract.refl _
  | cons slot rest ih =>
      obtain ⟨hturn, hnext⟩ := guarantees_turn h slot
      exact contract.trans _ _ _ hturn (ih hnext)

end Pool

end Effect
