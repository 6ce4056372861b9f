import Mathlib.Data.List.Forall2
import Wireforge.Lib.Observed

/-!
# Similar programs

Two programs are similar if they issue similar calls as long as they receive similar replies, and
return similar values. A `Similarity` says which calls and which replies are similar. The rules
follow the structure of programs; `Pool.Similar.turn` carries similarity through the turns of two
pools whose handlers take similar states to similar ones.
-/

namespace Effect

variable {Call : Type} {Reply : Call → Type} {α α' β β' ε ε' σ σ' τ : Type}

/-- Which calls are similar, and which replies to them. -/
structure Similarity (Call : Type) (Reply : Call → Type) where
  calls : Call → Call → Prop
  replies : (c c' : Call) → Reply c → Reply c' → Prop

/-- The programs issue similar calls while they receive similar replies, and return values that are
the same in the given sense. -/
inductive Similar (sim : Similarity Call Reply) {α α' : Type} (same : α → α' → Prop) :
    Program Call Reply α → Program Call Reply α' → Prop
  | done {value : α} {value' : α'} (h : same value value') :
      Similar sim same (.done value) (.done value')
  | call {c c' : Call} {next : Reply c → Program Call Reply α}
      {next' : Reply c' → Program Call Reply α'} (hcall : sim.calls c c')
      (hnext : ∀ reply reply', sim.replies c c' reply reply' →
        Similar sim same (next reply) (next' reply')) :
      Similar sim same (.call c next) (.call c' next')

/-- Outcomes are the same if they are the same values or equal errors. -/
inductive SameOutcome {ε α α' : Type} (same : α → α' → Prop) : Except ε α → Except ε α' → Prop
  | ok {value : α} {value' : α'} (h : same value value') : SameOutcome same (.ok value) (.ok value')
  | error (e : ε) : SameOutcome same (.error e) (.error e)

/-- Outcomes with equal values are equal. -/
theorem SameOutcome.eq {outcome outcome' : Except ε α} (h : SameOutcome Eq outcome outcome') :
    outcome = outcome' := by
  cases h with
  | ok hvalue => rw [hvalue]
  | error e => rfl

theorem SameOutcome.refl : (outcome : Except ε α) → SameOutcome Eq outcome outcome
  | .ok _ => .ok rfl
  | .error e => .error e

variable {sim : Similarity Call Reply}

namespace Similar

variable {same : α → α' → Prop} {same' : β → β' → Prop} {program : Program Call Reply α}
  {program' : Program Call Reply α'}

theorem bind {next : α → Program Call Reply β} {next' : α' → Program Call Reply β'}
    (h : Similar sim same program program')
    (hnext : ∀ value value', same value value' → Similar sim same' (next value) (next' value')) :
    Similar sim same' (program >>= next) (program' >>= next') := by
  induction h with
  | done h => exact hnext _ _ h
  | call hcall _ ih => exact .call hcall ih

theorem map {f : α → β} {f' : α' → β'} (h : Similar sim same program program')
    (hf : ∀ value value', same value value' → same' (f value) (f' value')) :
    Similar sim same' (f <$> program) (f' <$> program') :=
  h.bind fun _ _ hvalue => .done (hf _ _ hvalue)

theorem request {c c' : Call} (hcall : sim.calls c c') :
    Similar sim (sim.replies c c') (Program.request c) (Program.request c') :=
  .call hcall fun _ _ h => .done h

theorem mono {other : α → α' → Prop} (h : Similar sim same program program')
    (himp : ∀ value value', same value value' → other value value') :
    Similar sim other program program' := by
  induction h with
  | done h => exact .done (himp _ _ h)
  | call hcall _ ih => exact .call hcall ih

/-- A program is similar to itself if it only issues calls that are similar to themselves and whose
similar replies are equal. -/
theorem of_issues (h : Issues (fun c => sim.calls c c ∧
    ∀ reply reply', sim.replies c c reply reply' → reply = reply') program) :
    Similar sim Eq program program := by
  induction program with
  | done value => exact .done rfl
  | call c next ih =>
      refine .call h.1.1 fun reply reply' hreply => ?_
      obtain rfl := h.1.2 reply reply' hreply
      exact ih reply (h.2 reply)

/-- The calls of a program that is similar to another one, if no reply is without a similar one. -/
theorem issues (hreply : ∀ c c', sim.calls c c' → ∀ reply, ∃ reply', sim.replies c c' reply reply')
    (h : Similar sim same program program') : Issues (fun c => ∃ c', sim.calls c c') program := by
  induction h with
  | done _ => trivial
  | call hcall _ ih =>
      refine ⟨⟨_, hcall⟩, fun reply => ?_⟩
      obtain ⟨reply', hsimilar⟩ := hreply _ _ hcall reply
      exact ih reply reply' hsimilar

/-! ## Programs that may stop with an error -/

theorem run_pure {value : α} {value' : α'} (h : same value value') :
    Similar sim (SameOutcome same) (Pure.pure value : Fallible Call Reply ε α).run
      (Pure.pure value' : Fallible Call Reply ε α').run :=
  .done (.ok h)

theorem run_throw (e : ε) :
    Similar sim (SameOutcome same) (throw e : Fallible Call Reply ε α).run
      (throw e : Fallible Call Reply ε α').run :=
  .done (.error e)

theorem run_bind {program : Fallible Call Reply ε α} {program' : Fallible Call Reply ε α'}
    {next : α → Fallible Call Reply ε β} {next' : α' → Fallible Call Reply ε β'}
    (h : Similar sim (SameOutcome same) program.run program'.run)
    (hnext : ∀ value value', same value value' →
      Similar sim (SameOutcome same') (next value).run (next' value').run) :
    Similar sim (SameOutcome same') (program >>= next).run (program' >>= next').run := by
  rw [ExceptT.run_bind, ExceptT.run_bind]
  refine h.bind fun result result' hresult => ?_
  cases hresult with
  | ok hvalue => exact hnext _ _ hvalue
  | error e => exact .done (.error e)

theorem run_ite {c : Prop} [Decidable c] {left right : Fallible Call Reply ε α}
    {left' right' : Fallible Call Reply ε α'}
    (hleft : Similar sim (SameOutcome same) left.run left'.run)
    (hright : Similar sim (SameOutcome same) right.run right'.run) :
    Similar sim (SameOutcome same) (if c then left else right).run
      (if c then left' else right').run := by
  split
  · exact hleft
  · exact hright

theorem run_attempt {program : Fallible Call Reply ε α} {program' : Fallible Call Reply ε α'}
    (h : Similar sim (SameOutcome same) program.run program'.run) :
    Similar sim (SameOutcome (SameOutcome same))
      (attempt program : Fallible Call Reply ε' (Except ε α)).run
      (attempt program' : Fallible Call Reply ε' (Except ε α')).run :=
  h.map fun _ _ hresult => .ok hresult

theorem run_ignore {program : Fallible Call Reply ε α} {program' : Fallible Call Reply ε α'}
    (h : Similar sim (SameOutcome same) program.run program'.run) :
    Similar sim (SameOutcome Eq) (ignore program : Fallible Call Reply ε' Unit).run
      (ignore program' : Fallible Call Reply ε' Unit).run :=
  h.map fun _ _ _ => .ok rfl

theorem run_or_else {rename : ε' → ε} {program : Program Call Reply (Except ε' α)}
    {program' : Program Call Reply (Except ε' α')}
    (h : Similar sim (SameOutcome same) program program') :
    Similar sim (SameOutcome same) (orElse rename program).run (orElse rename program').run := by
  refine h.map fun _ _ hresult => ?_
  cases hresult with
  | ok hvalue => exact .ok hvalue
  | error e => exact .error (rename e)

/-- Loops over lists of items that are the same, one by one. -/
theorem run_for_each {ι ι' : Type} {items : List ι} {items' : List ι'} {sameItem : ι → ι' → Prop}
    {body : ι → Fallible Call Reply ε Unit} {body' : ι' → Fallible Call Reply ε Unit}
    (hitems : List.Forall₂ sameItem items items')
    (hbody : ∀ item item', sameItem item item' →
      Similar sim (SameOutcome Eq) (body item).run (body' item').run) :
    Similar sim (SameOutcome Eq) (forEach body items).run (forEach body' items').run := by
  induction hitems with
  | nil => exact run_pure rfl
  | cons hitem _ ih => exact run_bind (hbody _ _ hitem) fun _ _ _ => ih

end Similar

/-! ## Pools -/

namespace Pool

/-- The threads are similar and the states related. -/
structure Similar (sim : Similarity Call Reply) (related : σ → σ' → Prop)
    (pool : Pool Call Reply σ α) (pool' : Pool Call Reply σ' α) : Prop where
  threads : List.Forall₂ (Effect.Similar sim fun _ _ => True) pool.threads pool'.threads
  state : related pool.state pool'.state

variable {related : σ → σ' → Prop} {pool : Pool Call Reply σ α} {pool' : Pool Call Reply σ' α}
  {handler : τ → Handler Call Reply σ} {handler' : τ → Handler Call Reply σ'}

/-- Handlers that take similar calls and related states to similar replies and related states. -/
def Respects (sim : Similarity Call Reply) (related : σ → σ' → Prop)
    (handler : Handler Call Reply σ) (handler' : Handler Call Reply σ') : Prop :=
  ∀ c c', sim.calls c c' → ∀ s s', related s s' →
    sim.replies c c' (handler c s).1 (handler' c' s').1 ∧
      related (handler c s).2 (handler' c' s').2

/-- Similar programs return the same under handlers that respect the similarity. -/
theorem Respects.exec {handler : Handler Call Reply σ} {handler' : Handler Call Reply σ'}
    {same : α → α' → Prop} {program : Program Call Reply α} {program' : Program Call Reply α'}
    (hrespects : Respects sim related handler handler')
    (h : Effect.Similar sim same program program') {s : σ} {s' : σ'} (hrelated : related s s') :
    same (program.exec handler s).1 (program'.exec handler' s').1 ∧
      related (program.exec handler s).2 (program'.exec handler' s').2 := by
  induction h generalizing s s' with
  | done hvalue => exact ⟨hvalue, hrelated⟩
  | call hcall _ ih =>
      obtain ⟨hreply, hstate⟩ := hrespects _ _ hcall _ _ hrelated
      exact ih _ _ hreply hstate

/-- Lists that are related item by item have related items, or none, at every position. -/
theorem forall₂_get {ι ι' : Type} {R : ι → ι' → Prop} {l : List ι} {l' : List ι'}
    (h : List.Forall₂ R l l') (i : Nat) :
    l[i]? = none ∧ l'[i]? = none ∨ ∃ a b, l[i]? = some a ∧ l'[i]? = some b ∧ R a b := by
  induction h generalizing i with
  | nil => exact .inl ⟨rfl, rfl⟩
  | cons hab _ ih =>
      cases i with
      | zero => exact .inr ⟨_, _, rfl, rfl, hab⟩
      | succ i => exact ih i

theorem forall₂_set {ι ι' : Type} {R : ι → ι' → Prop} {l : List ι} {l' : List ι'} {a : ι} {b : ι'}
    (h : List.Forall₂ R l l') (i : Nat) (hab : R a b) :
    List.Forall₂ R (l.set i a) (l'.set i b) := by
  induction h generalizing i with
  | nil => exact .nil
  | cons hhead htail ih =>
      cases i with
      | zero => exact .cons hab htail
      | succ i => exact .cons hhead (ih i)

/-- A turn keeps pools similar. -/
theorem Similar.turn (h : pool.Similar sim related pool')
    (hhandler : ∀ moment, Respects sim related (handler moment) (handler' moment))
    (slot : Slot τ) : (pool.turn handler slot).Similar sim related (pool'.turn handler' slot) := by
  unfold Pool.turn Pool.step
  rcases forall₂_get h.threads slot.thread with ⟨hnone, hnone'⟩ | ⟨a, b, ha, hb, hab⟩
  · rw [hnone, hnone']
    exact h
  · rw [ha, hb]
    cases hab with
    | done => exact h
    | call hcall hnext =>
        obtain ⟨hreply, hstate⟩ := hhandler slot.moment _ _ hcall _ _ h.state
        exact ⟨forall₂_set h.threads slot.thread (hnext _ _ hreply), hstate⟩

/-- Turns keep pools similar. -/
theorem Similar.turns (h : pool.Similar sim related pool')
    (hhandler : ∀ moment, Respects sim related (handler moment) (handler' moment))
    (schedule : List (Slot τ)) :
    (Runs.after (Pool.turn handler) pool schedule).Similar sim related
      (Runs.after (Pool.turn handler') pool' schedule) := by
  induction schedule generalizing pool pool' with
  | nil => exact h
  | cons slot rest ih => exact ih (h.turn hhandler slot)

end Pool

end Effect
