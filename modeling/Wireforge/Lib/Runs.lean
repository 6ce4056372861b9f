import Mathlib.Data.List.Infix

/-!
# Runs of a deterministic machine

`after step s run` is the state a list of actions leads to. `Always` says that a property holds in
every state of a run and `EachStep` that a guard holds at every step, in the state the step starts
from. `always_of_each_step` turns a step lemma into a statement about whole runs, and
`always_iff_each_step` shows a guard exact: the property survives the run if and only if every
step meets the guard.
-/

namespace Runs

variable {σ α : Type}

/-- The state a run leads to. -/
def after (step : σ → α → σ) (state : σ) (run : List α) : σ :=
  run.foldl step state

/-- The property holds in every state of the run, the first and the last included. -/
def Always (step : σ → α → σ) (prop : σ → Prop) : σ → List α → Prop
  | state, [] => prop state
  | state, action :: rest => prop state ∧ Always step prop (step state action) rest

/-- Every action of the run meets the guard in the state it starts from. -/
def EachStep (step : σ → α → σ) (guard : σ → α → Prop) : σ → List α → Prop
  | _, [] => True
  | state, action :: rest => guard state action ∧ EachStep step guard (step state action) rest

variable {step : σ → α → σ} {prop inv : σ → Prop} {guard : σ → α → Prop} {state : σ}
  {run : List α}

@[simp] theorem after_nil : after step state [] = state := rfl

@[simp] theorem after_cons (action : α) :
    after step state (action :: run) = after step (step state action) run := rfl

theorem after_append (first second : List α) :
    after step state (first ++ second) = after step (after step state first) second :=
  List.foldl_append

theorem after_snoc (action : α) :
    after step state (run ++ [action]) = step (after step state run) action := by
  simp [after]

/-- A property holds throughout a run exactly when it holds after each of its prefixes. -/
theorem always_iff_initial :
    Always step prop state run ↔ ∀ first, first <+: run → prop (after step state first) := by
  induction run generalizing state with
  | nil =>
      constructor
      · rintro h first hfirst
        rw [List.prefix_nil.mp hfirst]
        exact h
      · exact fun h => h [] List.nil_prefix
  | cons action rest ih =>
      constructor
      · rintro ⟨hhere, hrest⟩ first hfirst
        cases first with
        | nil => exact hhere
        | cons a tail =>
            obtain ⟨rfl, htail⟩ := List.cons_prefix_cons.mp hfirst
            exact ih.mp hrest tail htail
      · intro h
        refine ⟨h [] List.nil_prefix, ih.mpr fun first hfirst => ?_⟩
        exact h (action :: first) (List.cons_prefix_cons.mpr ⟨rfl, hfirst⟩)

/-- A property of every state of a run holds in its last state. -/
theorem Always.last (h : Always step prop state run) : prop (after step state run) :=
  always_iff_initial.mp h run List.prefix_rfl

theorem Always.mono {other : σ → Prop} (h : Always step prop state run)
    (himp : ∀ s, prop s → other s) : Always step other state run :=
  always_iff_initial.mpr fun first hfirst => himp _ (always_iff_initial.mp h first hfirst)

/-- A guard holds at every step of a run exactly when it holds wherever the run is cut before an
action. -/
theorem each_step_iff :
    EachStep step guard state run ↔
      ∀ first action rest, run = first ++ action :: rest →
        guard (after step state first) action := by
  induction run generalizing state with
  | nil => simp [EachStep]
  | cons head tail ih =>
      constructor
      · rintro ⟨hhere, hrest⟩ first action rest heq
        cases first with
        | nil =>
            obtain ⟨rfl, rfl⟩ := List.cons.inj heq
            exact hhere
        | cons a first' =>
            obtain ⟨rfl, htail⟩ := List.cons.inj heq
            exact ih.mp hrest first' action rest htail
      · intro h
        exact ⟨h [] head tail rfl, ih.mpr fun first action rest heq =>
          h (head :: first) action rest (by rw [heq]; rfl)⟩

/-- A guard holds along a composed run exactly when it holds along both parts. -/
theorem each_step_append {first second : List α} :
    EachStep step guard state (first ++ second) ↔
      EachStep step guard state first ∧ EachStep step guard (after step state first) second := by
  induction first generalizing state with
  | nil => simp [EachStep]
  | cons action rest ih =>
      simp only [List.cons_append, EachStep, after_cons, ih, and_assoc]

/-- An invariant that every guarded step preserves holds in every state of a guarded run. -/
theorem always_of_each_step
    (hstep : ∀ s a, inv s → guard s a → inv (step s a)) (hinit : inv state)
    (hguard : EachStep step guard state run) : Always step inv state run := by
  induction run generalizing state with
  | nil => exact hinit
  | cons action rest ih =>
      exact ⟨hinit, ih (hstep state action hinit hguard.1) hguard.2⟩

/-- An invariant that every step preserves holds in every state of every run. -/
theorem always_of_step (hstep : ∀ s a, inv s → inv (step s a)) (hinit : inv state)
    (run : List α) : Always step inv state run := by
  induction run generalizing state with
  | nil => exact hinit
  | cons action rest ih => exact ⟨hinit, ih (hstep state action hinit)⟩

/-- When, under an assumption on every step, guarded steps preserve the property and all others
break it, the property holds throughout a run exactly when every step is guarded. -/
theorem always_iff_each_step {ok : σ → α → Prop}
    (hkeep : ∀ s a, ok s a → prop s → guard s a → prop (step s a))
    (hbreak : ∀ s a, ok s a → prop s → ¬ guard s a → ¬ prop (step s a))
    (hok : EachStep step ok state run) (hprop : prop state) :
    Always step prop state run ↔ EachStep step guard state run := by
  induction run generalizing state with
  | nil => exact ⟨fun _ => trivial, fun _ => hprop⟩
  | cons action rest ih =>
      by_cases hguard : guard state action
      · have hnext := hkeep state action hok.1 hprop hguard
        have hrest := ih hok.2 hnext
        exact ⟨fun h => ⟨hguard, hrest.mp h.2⟩, fun h => ⟨hprop, hrest.mpr h.2⟩⟩
      · have hnext := hbreak state action hok.1 hprop hguard
        refine ⟨fun h => absurd ?_ hnext, fun h => absurd h.1 hguard⟩
        exact always_iff_initial.mp h.2 [] List.nil_prefix

/-- When guarded steps preserve an invariant that has the property, and all others break it for
good, the property holds at the end of a run exactly when every step is guarded. -/
theorem last_iff_each_step {broken : σ → Prop} (hprop : ∀ s, inv s → prop s)
    (hkeep : ∀ s a, inv s → guard s a → inv (step s a))
    (hbreak : ∀ s a, inv s → ¬ guard s a → broken (step s a))
    (hstuck : ∀ s a, broken s → broken (step s a)) (hbroken : ∀ s, broken s → ¬ prop s)
    (hinit : inv state) :
    prop (after step state run) ↔ EachStep step guard state run := by
  induction run generalizing state with
  | nil => exact ⟨fun _ => trivial, fun _ => hprop state hinit⟩
  | cons action rest ih =>
      by_cases hguard : guard state action
      · rw [after_cons, ih (hkeep state action hinit hguard)]
        exact (and_iff_right hguard).symm
      · have hend : Always step broken (step state action) rest :=
          always_of_step hstuck (hbreak state action hinit hguard) rest
        exact iff_of_false (hbroken _ hend.last) fun h => hguard h.1

/-! ## Guards -/

/-- A guard that can be decided at every step can be decided along a run. -/
instance decidableEachStep [∀ s a, Decidable (guard s a)] :
    (state : σ) → (run : List α) → Decidable (EachStep step guard state run)
  | _, [] => .isTrue trivial
  | state, action :: rest =>
      have := decidableEachStep (step state action) rest
      inferInstanceAs (Decidable (_ ∧ _))

theorem EachStep.mono {other : σ → α → Prop} (h : EachStep step guard state run)
    (himp : ∀ s a, guard s a → other s a) : EachStep step other state run :=
  each_step_iff.mpr fun first action rest heq =>
    himp _ _ (each_step_iff.mp h first action rest heq)

/-- A guard that holds everywhere holds at every step. -/
theorem EachStep.of_forall (h : ∀ s a, guard s a) : EachStep step guard state run :=
  each_step_iff.mpr fun _ _ _ _ => h _ _

/-- A condition on every action of the run, whatever state it starts from. -/
theorem EachStep.of_mem {other : α → Prop} (h : ∀ a ∈ run, other a) :
    EachStep step (fun _ a => other a) state run :=
  each_step_iff.mpr fun first action rest heq => h action (by simp [heq])

theorem EachStep.and {other : σ → α → Prop} (h : EachStep step guard state run)
    (h' : EachStep step other state run) :
    EachStep step (fun s a => guard s a ∧ other s a) state run :=
  each_step_iff.mpr fun first action rest heq =>
    ⟨each_step_iff.mp h first action rest heq, each_step_iff.mp h' first action rest heq⟩

/-- A property of every state of a run is a guard on its steps. -/
theorem Always.each_step (h : Always step prop state run) :
    EachStep step (fun s _ => prop s) state run :=
  each_step_iff.mpr fun first action rest heq =>
    always_iff_initial.mp h first (heq ▸ List.prefix_append first (action :: rest))

/-- A property of every state of a run holds after each of its steps. -/
theorem Always.each_next (h : Always step prop state run) :
    EachStep step (fun s a => prop (step s a)) state run :=
  each_step_iff.mpr fun first action rest heq => by
    have hinitial : first ++ [action] <+: run := ⟨rest, by simp [heq]⟩
    have := always_iff_initial.mp h (first ++ [action]) hinitial
    rwa [after_snoc] at this

/-- Properties that agree in every state of a run hold throughout it together. -/
theorem always_congr {other : σ → Prop} (hinv : Always step inv state run)
    (hiff : ∀ s, inv s → (prop s ↔ other s)) :
    Always step prop state run ↔ Always step other state run := by
  simp only [always_iff_initial] at hinv ⊢
  exact forall_congr' fun first => forall_congr' fun hfirst => hiff _ (hinv first hfirst)

/-- A family of properties holds throughout a run exactly when each member does. -/
theorem always_forall_iff {ι : Type} {props : ι → σ → Prop} :
    Always step (fun s => ∀ i, props i s) state run ↔ ∀ i, Always step (props i) state run := by
  simp only [always_iff_initial]
  exact ⟨fun h i first hfirst => h first hfirst i, fun h first hfirst i => h i first hfirst⟩

/-- A family of guards holds at every step exactly when each member does. -/
theorem each_step_forall_iff {ι : Type} {guards : ι → σ → α → Prop} :
    EachStep step (fun s a => ∀ i, guards i s a) state run ↔
      ∀ i, EachStep step (guards i) state run := by
  simp only [each_step_iff]
  exact ⟨fun h i first a rest heq => h first a rest heq i,
    fun h first a rest heq i => h i first a rest heq⟩

/-! ## Simulation -/

section Simulation

variable {τ β : Type} {step' : τ → β → τ} {f : σ → τ} {g : α → β} {ok : σ → α → Prop}

/-- A run of one machine seen through a map of states and actions is a run of the other. -/
theorem after_map (hstep : ∀ s a, ok s a → f (step s a) = step' (f s) (g a))
    (hok : EachStep step ok state run) :
    f (after step state run) = after step' (f state) (run.map g) := by
  induction run generalizing state with
  | nil => rfl
  | cons action rest ih =>
      rw [after_cons, List.map_cons, after_cons, ih hok.2, hstep state action hok.1]

theorem always_map_iff {prop' : τ → Prop}
    (hstep : ∀ s a, ok s a → f (step s a) = step' (f s) (g a))
    (hprop : ∀ s, prop s ↔ prop' (f s)) (hok : EachStep step ok state run) :
    Always step prop state run ↔ Always step' prop' (f state) (run.map g) := by
  induction run generalizing state with
  | nil => exact hprop state
  | cons action rest ih =>
      rw [List.map_cons]
      simp only [Always]
      rw [hprop state, ih hok.2, hstep state action hok.1]

theorem each_step_map_iff {guard' : τ → β → Prop}
    (hstep : ∀ s a, ok s a → f (step s a) = step' (f s) (g a))
    (hguard : ∀ s a, ok s a → (guard s a ↔ guard' (f s) (g a)))
    (hok : EachStep step ok state run) :
    EachStep step guard state run ↔ EachStep step' guard' (f state) (run.map g) := by
  induction run generalizing state with
  | nil => exact Iff.rfl
  | cons action rest ih =>
      rw [List.map_cons]
      simp only [EachStep]
      rw [hguard state action hok.1, ih hok.2, hstep state action hok.1]

end Simulation

end Runs
