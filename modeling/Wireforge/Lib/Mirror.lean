import Mathlib.Data.Set.Insert
import Mathlib.Logic.Function.Basic
import Mathlib.Tactic.Tauto

/-!
# Keyed views of a set of rows

A view is a partial map from keys to values. `Mirrors rows key val view` says that the view shows
exactly the given rows: it maps `k` to `v` if and only if some row has key `k` and value `v`. The
rules below say which set of rows a view mirrors after an entry is installed or removed.
-/

variable {ρ κ ν : Type} [DecidableEq κ] {rows rows' : Set ρ} {key : ρ → κ} {val : ρ → ν}
  {view : κ → Option ν}

/-- The view maps each key to the value of its row, and nothing else. -/
def Mirrors (rows : Set ρ) (key : ρ → κ) (val : ρ → ν) (view : κ → Option ν) : Prop :=
  ∀ k v, view k = some v ↔ ∃ r ∈ rows, key r = k ∧ val r = v

namespace Mirrors

omit [DecidableEq κ] in
theorem congr (h : Mirrors rows key val view) (heq : rows = rows') :
    Mirrors rows' key val view :=
  heq ▸ h

omit [DecidableEq κ] in
/-- The empty view mirrors no rows. -/
theorem empty : Mirrors (∅ : Set ρ) key val fun _ => none := by
  simp [Mirrors]

/-- Installing the entry of a row replaces whatever row had its key. -/
theorem install (h : Mirrors rows key val view) (r : ρ) :
    Mirrors (insert r {r' ∈ rows | key r' ≠ key r}) key val
      (Function.update view (key r) (some (val r))) := by
  intro k v
  by_cases hk : k = key r
  · subst hk
    rw [Function.update_self]
    constructor
    · intro hv
      exact ⟨r, .inl rfl, rfl, Option.some.inj hv⟩
    · rintro ⟨r', rfl | ⟨_, hne⟩, hkey, rfl⟩
      · rfl
      · exact absurd hkey hne
  · rw [Function.update_of_ne hk, h k v]
    constructor
    · rintro ⟨r', hr', rfl, rfl⟩
      exact ⟨r', .inr ⟨hr', hk⟩, rfl, rfl⟩
    · rintro ⟨r', rfl | ⟨hr', _⟩, rfl, rfl⟩
      · exact absurd rfl hk
      · exact ⟨r', hr', rfl, rfl⟩

/-- Removing an entry removes the rows with its key. -/
theorem remove (h : Mirrors rows key val view) (k : κ) :
    Mirrors {r ∈ rows | key r ≠ k} key val (Function.update view k none) := by
  intro k' v
  by_cases hk : k' = k
  · subst hk
    rw [Function.update_self]
    constructor
    · intro hv
      cases hv
    · rintro ⟨r, ⟨_, hne⟩, hkey, _⟩
      exact absurd hkey hne
  · rw [Function.update_of_ne hk, h k' v]
    constructor
    · rintro ⟨r, hr, rfl, rfl⟩
      exact ⟨r, ⟨hr, hk⟩, rfl, rfl⟩
    · rintro ⟨r, ⟨hr, _⟩, rfl, rfl⟩
      exact ⟨r, hr, rfl, rfl⟩

/-- Installing the rows of a list one after the other, on top of a view of rows whose keys the
list does not have. -/
theorem install_all (l : List ρ) (hkeys : (l.map key).Nodup)
    (h : Mirrors rows key val view) (hnew : ∀ r ∈ rows, ∀ r' ∈ l, key r ≠ key r') :
    Mirrors {r | r ∈ rows ∨ r ∈ l} key val
      (l.foldl (fun view r => Function.update view (key r) (some (val r))) view) := by
  induction l generalizing rows view with
  | nil => exact h.congr (by ext; simp)
  | cons r rest ih =>
      obtain ⟨hfresh, hrest⟩ := List.nodup_cons.mp hkeys
      have hsame : {r' ∈ rows | key r' ≠ key r} = rows := by
        ext r'
        exact and_iff_left_of_imp fun hr' => hnew r' hr' r (by simp)
      have hstep := h.install r
      rw [hsame] at hstep
      refine (ih hrest hstep ?_).congr ?_
      · rintro r₁ (rfl | hr₁) r₂ hr₂
        · exact fun heq => hfresh (List.mem_map.mpr ⟨r₂, hr₂, heq.symm⟩)
        · exact hnew r₁ hr₁ r₂ (by simp [hr₂])
      · ext r'
        simp only [Set.mem_ofPred_eq, Set.mem_insert_iff, List.mem_cons]
        tauto

/-- The view built from a list with distinct keys mirrors its rows. -/
theorem of_list (l : List ρ) (hkeys : (l.map key).Nodup) :
    Mirrors {r | r ∈ l} key val
      (l.foldl (fun view r => Function.update view (key r) (some (val r))) fun _ => none) :=
  (empty.install_all l hkeys (by simp)).congr (by simp)

end Mirrors
