import Mathlib.Data.Set.Basic
import Wireforge.Lib.Runs

/-!
# A shared flag with a saved value for each holder

Several holders switch one flag on and give it back. `acquire` saves the value the holder saw and
switches the flag on, and `release` switches it off again if the holder saw it off. A holder may
also save "on" without looking (`note`) and drop its saved value without restoring (`forget`).

Two laws are worth having: the flag stays on while somebody holds it, and the flag has its first
value again once nobody does. Neither holds of every run. `stays_on_iff` and `restored_iff` name
the steps that break them, exactly.
-/

namespace SavedFlag

variable {H : Type} [DecidableEq H]

/-- The flag, the value each holder saved, and the set of holders that rely on the flag. -/
@[ext] structure State (H : Type) where
  on : Bool
  saved : H → Option Bool
  held : Set H

/-- The operations. `reads` says whether the flag could be read (an unreadable flag reads as off)
and `writes` whether it could be switched off. -/
inductive Op (H : Type) where
  | acquire (holder : H) (reads : Bool)
  | note (holder : H)
  | release (holder : H) (writes : Bool)
  | forget (holder : H)

/-- The effect of one operation. -/
def step (s : State H) : Op H → State H
  | .acquire h reads =>
      { on := true, saved := Function.update s.saved h (some (reads && s.on)),
        held := insert h s.held }
  | .note h => { s with saved := Function.update s.saved h (some true) }
  | .release h writes =>
      { on := if s.saved h = some false ∧ writes = true then false else s.on,
        saved := Function.update s.saved h none, held := s.held \ {h} }
  | .forget h => { s with saved := Function.update s.saved h none, held := s.held \ {h} }

/-! ## The flag stays on while it is held -/

/-- Whoever holds the flag finds it on. -/
def StaysOn (s : State H) : Prop :=
  (∃ h, h ∈ s.held) → s.on = true

/-- The step does not switch the flag off under another holder. -/
def KeepsOthers (s : State H) : Op H → Prop
  | .release h writes =>
      s.saved h = some false → writes = true → ∀ other ∈ s.held, other = h
  | _ => True

theorem stays_on_step {s : State H} {op : Op H} (h : StaysOn s) (hop : KeepsOthers s op) :
    StaysOn (step s op) := by
  cases op with
  | acquire holder reads => exact fun _ => rfl
  | note holder => exact h
  | release holder writes =>
      rintro ⟨other, hother, hne⟩
      have hon := h ⟨other, hother⟩
      by_cases hoff : s.saved holder = some false ∧ writes = true
      · exact absurd (hop hoff.1 hoff.2 other hother) hne
      · simp [step, hoff, hon]
  | forget holder => exact fun ⟨other, hother, _⟩ => h ⟨other, hother⟩

theorem stays_on_broken {s : State H} {op : Op H} (hop : ¬ KeepsOthers s op) :
    ¬ StaysOn (step s op) := by
  cases op with
  | release holder writes =>
      simp only [KeepsOthers, not_forall] at hop
      obtain ⟨hsaved, hwrites, other, hother, hne⟩ := hop
      intro h
      have hon := h ⟨other, hother, hne⟩
      simp [step, hsaved, hwrites] at hon
  | acquire | note | forget => exact absurd trivial hop

/-- The flag is on for its holders throughout a run exactly when no step switches it off under
another holder. -/
theorem stays_on_iff {s : State H} {run : List (Op H)} (h : StaysOn s) :
    Runs.Always step StaysOn s run ↔ Runs.EachStep step KeepsOthers s run :=
  Runs.always_iff_each_step (fun _ _ _ hs hop => stays_on_step hs hop)
    (fun _ _ _ _ hop => stays_on_broken hop) (.of_forall fun _ _ => trivial) h

/-! ## The flag is given back -/

/-- Some holder still owes the flag its first value. -/
def Owed (s : State H) : Prop :=
  ∃ h, s.saved h = some false

/-- The step does not drop a saved "off": it neither saves over one nor forgets one. -/
def Lossless (s : State H) : Op H → Prop
  | .acquire h _ | .note h | .forget h => s.saved h ≠ some false
  | .release _ _ => True

/-- The operation reads and writes the flag without failure. -/
def Sound : Op H → Prop
  | .acquire _ reads => reads = true
  | .release _ writes => writes = true
  | .note _ | .forget _ => True

/-- The flag differs from its first value exactly while it is owed, and by one holder only. -/
structure Accounted (first : Bool) (s : State H) : Prop where
  on_iff : s.on = true ↔ first = true ∨ Owed s
  owed_off : Owed s → first = false
  unique : ∀ h h', s.saved h = some false → s.saved h' = some false → h = h'

/-- The flag is on for good: it was off at first and nobody owes it any more. -/
structure Stuck (first : Bool) (s : State H) : Prop where
  was_off : first = false
  on : s.on = true
  settled : ¬ Owed s

theorem owed_update {s : State H} {h : H} {value : Option Bool} (hvalue : value ≠ some false)
    {s' : State H} (hs' : s'.saved = Function.update s.saved h value) :
    Owed s' ↔ ∃ h', h' ≠ h ∧ s.saved h' = some false := by
  constructor
  · rintro ⟨h', hh'⟩
    rw [hs'] at hh'
    by_cases heq : h' = h
    · subst heq
      rw [Function.update_self] at hh'
      exact absurd hh' hvalue
    · rw [Function.update_of_ne heq] at hh'
      exact ⟨h', heq, hh'⟩
  · rintro ⟨h', hne, hh'⟩
    exact ⟨h', by rw [hs', Function.update_of_ne hne, hh']⟩

/-- Saving or dropping a value over one that was not "off" leaves the debts as they were. -/
theorem owed_update_of_ne {s : State H} {h : H} {value : Option Bool}
    (hvalue : value ≠ some false) (hold : s.saved h ≠ some false) {s' : State H}
    (hs' : s'.saved = Function.update s.saved h value) : Owed s' ↔ Owed s := by
  rw [owed_update hvalue hs']
  constructor
  · rintro ⟨h', _, hh'⟩
    exact ⟨h', hh'⟩
  · rintro ⟨h', hh'⟩
    exact ⟨h', fun heq => hold (heq ▸ hh'), hh'⟩

omit [DecidableEq H] in
/-- Debts are compared holder by holder. -/
theorem Accounted.congr {first : Bool} {s s' : State H} (hs : Accounted first s)
    (hon : s'.on = s.on) (howed : Owed s' ↔ Owed s)
    (hsub : ∀ h, s'.saved h = some false → s.saved h = some false) : Accounted first s' where
  on_iff := by rw [hon, howed]; exact hs.on_iff
  owed_off h := hs.owed_off (howed.mp h)
  unique h h' hh hh' := hs.unique h h' (hsub h hh) (hsub h' hh')

/-- A value saved over one that was not "off" adds no debt. -/
theorem saved_off_of_update {s : State H} {h : H} {value : Option Bool}
    (hvalue : value ≠ some false) {other : H}
    (hother : Function.update s.saved h value other = some false) : s.saved other = some false := by
  by_cases heq : other = h
  · subst heq
    rw [Function.update_self] at hother
    exact absurd hother hvalue
  · rwa [Function.update_of_ne heq] at hother

theorem accounted_step {first : Bool} {s : State H} {op : Op H} (hs : Accounted first s)
    (hsound : Sound op) (hop : Lossless s op) : Accounted first (step s op) := by
  cases op with
  | acquire h reads =>
      obtain rfl : reads = true := hsound
      cases hon : s.on with
      | true =>
          refine hs.congr (by simp [step, hon]) ?_ ?_
          · exact owed_update_of_ne (by simp [hon]) hop rfl
          · exact fun other => saved_off_of_update (by simp [hon])
      | false =>
          -- The flag was off, so nobody owed it; now `h` does.
          have hnone : ¬ Owed s := fun howed => by
            have := hs.on_iff.mpr (.inr howed)
            rw [hon] at this
            cases this
          have hfirst : first = false := by
            cases first with
            | false => rfl
            | true => exact absurd (hs.on_iff.mpr (.inl rfl)) (by simp [hon])
          have honly : ∀ other,
              (step s (.acquire h true)).saved other = some false → other = h := by
            intro other hother
            by_contra hne
            refine hnone ⟨other, ?_⟩
            simpa [step, Function.update_of_ne hne] using hother
          exact
            { on_iff := ⟨fun _ => .inr ⟨h, by simp [step, hon]⟩, fun _ => rfl⟩
              owed_off := fun _ => hfirst
              unique := fun a b ha hb => (honly a ha).trans (honly b hb).symm }
  | note h =>
      exact hs.congr rfl (owed_update_of_ne (by simp) hop rfl)
        fun other => saved_off_of_update (by simp)
  | forget h =>
      exact hs.congr rfl (owed_update_of_ne (by simp) hop rfl)
        fun other => saved_off_of_update (by simp)
  | release h writes =>
      obtain rfl : writes = true := hsound
      by_cases hoff : s.saved h = some false
      · -- The only debt is paid: the flag goes back to its first value, which was off.
        have hfirst := hs.owed_off ⟨h, hoff⟩
        have hnone : ¬ Owed (step s (.release h true)) := by
          have howed : Owed (step s (.release h true)) ↔ ∃ h', h' ≠ h ∧ s.saved h' = some false :=
            owed_update (by simp) rfl
          rw [howed]
          rintro ⟨h', hne, hh'⟩
          exact hne (hs.unique h' h hh' hoff)
        exact
          { on_iff := ⟨fun hon => by simp [step, hoff] at hon, fun hor => by
              rcases hor with hone | howed
              · rw [hfirst] at hone
                cases hone
              · exact absurd howed hnone⟩
            owed_off := fun howed => absurd howed hnone
            unique := fun a _ ha _ => absurd ⟨a, ha⟩ hnone }
      · refine hs.congr (by simp [step, hoff]) ?_ fun other => saved_off_of_update (by simp)
        exact owed_update_of_ne (by simp) hoff rfl

/-- A step that loses a debt leaves the flag stuck on. -/
theorem stuck_of_lossy {first : Bool} {s : State H} {op : Op H} (hs : Accounted first s)
    (hsound : Sound op) (hop : ¬ Lossless s op) : Stuck first (step s op) := by
  have key : ∀ h, s.saved h = some false → ∀ value : Option Bool, value ≠ some false →
      ∀ s' : State H, s'.saved = Function.update s.saved h value → s'.on = true →
      Stuck first s' := by
    intro h hoff value hvalue s' hs' hon
    refine ⟨hs.owed_off ⟨h, hoff⟩, hon, ?_⟩
    rw [owed_update hvalue hs']
    rintro ⟨h', hne, hh'⟩
    exact hne (hs.unique h' h hh' hoff)
  cases op with
  | acquire h reads =>
      obtain rfl : reads = true := hsound
      have hoff : s.saved h = some false := not_not.mp hop
      have hon : s.on = true := hs.on_iff.mpr (.inr ⟨h, hoff⟩)
      exact key h hoff _ (by simp [hon]) _ rfl rfl
  | note h =>
      have hoff : s.saved h = some false := not_not.mp hop
      exact key h hoff _ (by simp) _ rfl (hs.on_iff.mpr (.inr ⟨h, hoff⟩))
  | forget h =>
      have hoff : s.saved h = some false := not_not.mp hop
      exact key h hoff _ (by simp) _ rfl (hs.on_iff.mpr (.inr ⟨h, hoff⟩))
  | release h writes => exact absurd trivial hop

theorem stuck_step {first : Bool} {s : State H} {op : Op H} (hs : Stuck first s)
    (hsound : Sound op) : Stuck first (step s op) := by
  have hsaved : ∀ h, s.saved h ≠ some false := fun h hoff => hs.settled ⟨h, hoff⟩
  have hon := hs.on
  cases op with
  | acquire h reads =>
      obtain rfl : reads = true := hsound
      refine ⟨hs.was_off, rfl, ?_⟩
      rw [owed_update_of_ne (by simp [hon]) (hsaved h) rfl]
      exact hs.settled
  | note h =>
      refine ⟨hs.was_off, hon, ?_⟩
      rw [owed_update_of_ne (by simp) (hsaved h) rfl]
      exact hs.settled
  | forget h =>
      refine ⟨hs.was_off, hon, ?_⟩
      rw [owed_update_of_ne (by simp) (hsaved h) rfl]
      exact hs.settled
  | release h writes =>
      refine ⟨hs.was_off, by simp [step, hsaved h, hon], ?_⟩
      rw [owed_update_of_ne (by simp) (hsaved h) rfl]
      exact hs.settled

/-- The run accounts for its debts if every step is lossless, and leaves the flag stuck on
otherwise. -/
theorem accounted_or_stuck {first : Bool} {s : State H} {run : List (Op H)}
    (hs : Accounted first s) (hsound : ∀ op ∈ run, Sound op) :
    (Runs.EachStep step Lossless s run ∧ Accounted first (Runs.after step s run)) ∨
      (¬ Runs.EachStep step Lossless s run ∧ Stuck first (Runs.after step s run)) := by
  induction run generalizing s with
  | nil => exact .inl ⟨trivial, hs⟩
  | cons op rest ih =>
      have hop : Sound op := hsound op (by simp)
      have hrest : ∀ op ∈ rest, Sound op := fun op hmem => hsound op (by simp [hmem])
      by_cases hloss : Lossless s op
      · rcases ih (accounted_step hs hop hloss) hrest with ⟨hstep, hend⟩ | ⟨hstep, hend⟩
        · exact .inl ⟨⟨hloss, hstep⟩, hend⟩
        · exact .inr ⟨fun h => hstep h.2, hend⟩
      · refine .inr ⟨fun h => hloss h.1, ?_⟩
        have hsteps : Runs.EachStep step (fun _ op => Sound op) (step s op) rest :=
          Runs.each_step_iff.mpr fun first action tail heq => hrest action (by simp [heq])
        exact (Runs.always_of_each_step (fun _ _ hs hop => stuck_step hs hop)
          (stuck_of_lossy hs hop hloss) hsteps).last

/-- In a run without failures that starts with nothing saved and ends with nothing saved, the flag
has its first value at the end exactly when no step lost a debt. -/
theorem restored_iff {s : State H} {run : List (Op H)} (hsound : ∀ op ∈ run, Sound op)
    (hstart : ∀ h, s.saved h = none) (hend : ∀ h, (Runs.after step s run).saved h = none) :
    (Runs.after step s run).on = s.on ↔ Runs.EachStep step Lossless s run := by
  have hnone : ¬ Owed s := fun ⟨h, hoff⟩ => by simp [hstart h] at hoff
  have hlast : ¬ Owed (Runs.after step s run) := fun ⟨h, hoff⟩ => by simp [hend h] at hoff
  have hs : Accounted s.on s :=
    { on_iff := by simp [hnone]
      owed_off := fun h => absurd h hnone
      unique := fun h _ hoff _ => absurd ⟨h, hoff⟩ hnone }
  rcases accounted_or_stuck hs hsound with ⟨hstep, hdone⟩ | ⟨hstep, hdone⟩
  · refine ⟨fun _ => hstep, fun _ => ?_⟩
    have := hdone.on_iff
    simp only [hlast, or_false] at this
    exact Bool.eq_iff_iff.mpr this
  · refine ⟨fun heq => ?_, fun h => absurd h hstep⟩
    rw [hdone.on, hdone.was_off] at heq
    cases heq

end SavedFlag
