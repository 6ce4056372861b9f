import Wireforge.Lib.Runs

/-!
# What has happened in a run

An event is a condition on an action and on the actions before it. `Once` says that an event has
happened in a run, and `Since` that one has happened and that no action after it was a stop. A run
grows at its end: `once_snoc` and `since_snoc` say what one more action does to the two, and
`invariant` proves a relation between a run and the state it leads to.
-/

namespace History

variable {σ α : Type}

/-- The event has happened. -/
def Once (event : List α → α → Prop) (run : List α) : Prop :=
  ∃ first action rest, run = first ++ action :: rest ∧ event first action

/-- The event has happened, and no action after it was a stop. -/
def Since (event : List α → α → Prop) (stop : α → Prop) (run : List α) : Prop :=
  ∃ first action rest, run = first ++ action :: rest ∧ event first action ∧
    ∀ later ∈ rest, ¬ stop later

variable {event event' : List α → α → Prop} {stop : α → Prop} {run : List α} {action : α}

/-- An event that has happened since a stop has happened. -/
theorem Since.once (h : Since event stop run) : Once event run := by
  obtain ⟨first, action, rest, hrun, hevent, -⟩ := h
  exact ⟨first, action, rest, hrun, hevent⟩

/-- To have happened is to have happened since an action that never occurs. -/
theorem once_iff_since : Once event run ↔ Since event (fun _ => False) run :=
  ⟨fun ⟨first, action, rest, hrun, hevent⟩ => ⟨first, action, rest, hrun, hevent, fun _ _ => id⟩,
    Since.once⟩

@[simp] theorem not_since_nil : ¬ Since event stop [] := by
  rintro ⟨first, action, rest, hrun, -, -⟩
  simp at hrun

@[simp] theorem not_once_nil : ¬ Once event [] :=
  fun h => not_since_nil (once_iff_since.mp h)

/-- After one more action an event has happened since a stop exactly when the action is the event,
or when the event had happened before and the action is no stop. -/
theorem since_snoc :
    Since event stop (run ++ [action]) ↔
      event run action ∨ (Since event stop run ∧ ¬ stop action) := by
  constructor
  · rintro ⟨first, a, rest, hrun, hevent, hstop⟩
    rcases rest.eq_nil_or_concat' with rfl | ⟨rest', last, rfl⟩
    · obtain ⟨rfl, rfl⟩ := List.append_inj' hrun rfl |>.imp_right List.singleton_inj.mp
      exact .inl hevent
    · rw [← List.cons_append, ← List.append_assoc] at hrun
      obtain ⟨rfl, rfl⟩ := List.append_inj' hrun rfl |>.imp_right List.singleton_inj.mp
      have hrest : ∀ later ∈ rest', ¬ stop later := fun later hlater =>
        hstop later (List.mem_append_left _ hlater)
      exact .inr ⟨⟨first, a, rest', rfl, hevent, hrest⟩, hstop action (by simp)⟩
  · rintro (hevent | ⟨⟨first, a, rest, rfl, hevent, hstop⟩, haction⟩)
    · exact ⟨run, action, [], rfl, hevent, by simp⟩
    · refine ⟨first, a, rest ++ [action], by simp, hevent, fun later hlater => ?_⟩
      rcases List.mem_append.mp hlater with hlater | hlater
      · exact hstop later hlater
      · rwa [List.mem_singleton.mp hlater]

theorem once_snoc : Once event (run ++ [action]) ↔ event run action ∨ Once event run := by
  simp [once_iff_since, since_snoc]

/-- A relation between runs and states that every step extends holds of every run and the state it
leads to. -/
theorem invariant {step : σ → α → σ} {state : σ} {guard : α → Prop} {inv : List α → σ → Prop}
    (hinit : inv [] state)
    (hstep : ∀ run action, guard action → inv run (Runs.after step state run) →
      inv (run ++ [action]) (step (Runs.after step state run) action))
    (run : List α) (hguard : ∀ action ∈ run, guard action) :
    inv run (Runs.after step state run) := by
  -- The run grows at its end, so that the states before the last action stay what they were.
  induction run using List.reverseRecOn with
  | nil => exact hinit
  | append_singleton run action ih =>
      rw [Runs.after_snoc]
      exact hstep run action (hguard action (by simp))
        (ih fun a ha => hguard a (List.mem_append_left _ ha))

end History
