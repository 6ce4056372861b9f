import Mathlib.Data.List.Forall2
import Mathlib.Tactic.Common

/-!
# Outcomes

Inversion of `Except`: a composition returns a value exactly when its parts do, and renaming errors
leaves the values alone.
-/

namespace Outcome

variable {ε ε' α β : Type}

theorem bind_ok {first : Except ε α} {next : α → Except ε β} {result : β} :
    first >>= next = .ok result ↔ ∃ value, first = .ok value ∧ next value = .ok result := by
  cases first with
  | error e => exact ⟨nofun, nofun⟩
  | ok value => exact ⟨fun h => ⟨value, rfl, h⟩, fun ⟨_, heq, h⟩ => by cases heq; exact h⟩

theorem map_ok {outcome : Except ε α} {f : α → β} {result : β} :
    outcome.map f = .ok result ↔ ∃ value, outcome = .ok value ∧ f value = result := by
  cases outcome with
  | error e => exact ⟨nofun, nofun⟩
  | ok value =>
      constructor
      · intro h
        cases h
        exact ⟨value, rfl, rfl⟩
      · rintro ⟨_, heq, rfl⟩
        cases heq
        rfl

@[simp] theorem map_error_ok {rename : ε → ε'} {outcome : Except ε α} {value : α} :
    outcome.mapError rename = .ok value ↔ outcome = .ok value := by
  cases outcome with
  | error e => exact ⟨nofun, nofun⟩
  | ok value' => exact ⟨fun h => by cases h; rfl, fun h => by cases h; rfl⟩

/-! ## Lists -/

/-- A map that may fail succeeds if every one of its values does. -/
theorem map_m_ok {f : α → Except ε β} {l : List α} {result : List β} :
    l.mapM f = .ok result ↔ List.Forall₂ (fun a b => f a = .ok b) l result := by
  induction l generalizing result with
  | nil =>
      rw [List.mapM_nil, List.forall₂_nil_left_iff]
      exact ⟨fun h => by cases h; rfl, fun h => by rw [h]; rfl⟩
  | cons a rest ih =>
      rw [List.mapM_cons, List.forall₂_cons_left_iff]
      constructor
      · intro h
        obtain ⟨b, hb, h⟩ := Outcome.bind_ok.mp h
        obtain ⟨bs, hbs, h⟩ := Outcome.bind_ok.mp h
        cases h
        exact ⟨b, bs, hb, ih.mp hbs, rfl⟩
      · intro h
        obtain ⟨b, bs, hb, hbs, rfl⟩ := h
        rw [hb, ih.mpr hbs]
        rfl

theorem exists_of_forall_2 {r : α → β → Prop} {l : List α} {l' : List β}
    (h : List.Forall₂ r l l') {a : α} (ha : a ∈ l) : ∃ b ∈ l', r a b := by
  induction h with
  | nil => cases ha
  | cons hfirst _ ih =>
      rcases List.mem_cons.mp ha with rfl | ha
      · exact ⟨_, List.mem_cons_self, hfirst⟩
      · obtain ⟨b, hb, hrel⟩ := ih ha
        exact ⟨b, List.mem_cons_of_mem _ hb, hrel⟩

end Outcome
