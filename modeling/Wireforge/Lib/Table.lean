import Mathlib.Data.List.Nodup
import Mathlib.Data.List.Sort

/-!
# Tables with a primary key

A `Table key` is a list of rows in which no two rows share a key. Looking a row up, inserting a row
under a fresh key, rewriting rows without touching their keys and deleting rows are the operations
of a relational table; each keeps the key unique by construction.
-/

/-- A list of rows with distinct keys. -/
structure Table {ρ κ : Type} (key : ρ → κ) where
  rows : List ρ
  nodup : (rows.map key).Nodup

namespace Table

/-- The table without rows. -/
def empty {ρ κ : Type} {key : ρ → κ} : Table key := ⟨[], List.nodup_nil⟩

variable {ρ κ : Type} [DecidableEq κ] {key : ρ → κ}

/-- The row with the given key. -/
def find (t : Table key) (k : κ) : Option ρ :=
  t.rows.find? fun r => key r = k

/-- A new row under a key that no row has. -/
def insert (t : Table key) (r : ρ) (h : t.find (key r) = none) : Table key where
  rows := t.rows ++ [r]
  nodup := by
    rw [List.map_append, List.nodup_append]
    refine ⟨t.nodup, by simp, ?_⟩
    simp only [find, List.find?_eq_none, decide_eq_true_eq] at h
    intro k hk k' hk'
    obtain ⟨r', hr', rfl⟩ := List.mem_map.mp hk
    simp only [List.map_cons, List.map_nil, List.mem_singleton] at hk'
    rw [hk']
    exact h r' hr'

/-- Rewrite every row by a function that keeps the keys. -/
def modify (t : Table key) (f : ρ → ρ) (h : ∀ r, key (f r) = key r) : Table key where
  rows := t.rows.map f
  nodup := by
    rw [List.map_map, show key ∘ f = key from funext h]
    exact t.nodup

/-- Delete the rows that fail the test. -/
def filter (t : Table key) (keep : ρ → Bool) : Table key where
  rows := t.rows.filter keep
  nodup := t.nodup.sublist (List.filter_sublist.map key)

variable {t : Table key} {r r' : ρ} {k : κ}

omit [DecidableEq κ] in
/-- Rows with one key are one row. -/
theorem eq_of_key (hr : r ∈ t.rows) (hr' : r' ∈ t.rows) (h : key r = key r') : r = r' :=
  List.inj_on_of_nodup_map t.nodup hr hr' h

@[simp] theorem find_eq_some : t.find k = some r ↔ r ∈ t.rows ∧ key r = k := by
  constructor
  · intro h
    exact ⟨List.mem_of_find?_eq_some h, by simpa using List.find?_some h⟩
  · rintro ⟨hr, rfl⟩
    have hsome : (t.find (key r)).isSome := List.find?_isSome.mpr ⟨r, hr, by simp⟩
    obtain ⟨r', hr'⟩ := Option.isSome_iff_exists.mp hsome
    have hkey : key r' = key r := by simpa using List.find?_some hr'
    rw [hr', eq_of_key (List.mem_of_find?_eq_some hr') hr hkey]

theorem find_eq_none : t.find k = none ↔ ∀ r ∈ t.rows, key r ≠ k := by
  simp [find, List.find?_eq_none]

theorem find_of_mem (h : r ∈ t.rows) : t.find (key r) = some r :=
  find_eq_some.mpr ⟨h, rfl⟩

@[simp] theorem mem_insert {h : t.find (key r') = none} :
    r ∈ (t.insert r' h).rows ↔ r ∈ t.rows ∨ r = r' := by
  simp [insert]

omit [DecidableEq κ] in
@[simp] theorem mem_modify {f : ρ → ρ} {h : ∀ r, key (f r) = key r} :
    r ∈ (t.modify f h).rows ↔ ∃ r' ∈ t.rows, f r' = r :=
  List.mem_map

omit [DecidableEq κ] in
@[simp] theorem mem_filter {keep : ρ → Bool} :
    r ∈ (t.filter keep).rows ↔ r ∈ t.rows ∧ keep r = true :=
  List.mem_filter

/-- A rewritten table finds the rewritten row. -/
theorem find_modify {f : ρ → ρ} {h : ∀ r, key (f r) = key r} :
    (t.modify f h).find k = (t.find k).map f := by
  simp only [find, modify, List.find?_map, Function.comp_def, h]

/-- Write a row under its key: replace the row of that key, or add it. -/
def upsert (t : Table key) (r : ρ) : Table key :=
  if h : t.find (key r) = none then t.insert r h
  else t.modify (fun old => if key old = key r then r else old) fun old => by
    split
    · rename_i hkey
      exact hkey.symm
    · rfl

/-- A row written under its key is found there, and under no other key. -/
@[simp] theorem find_upsert : (t.upsert r).find k = if k = key r then some r else t.find k := by
  unfold upsert
  split
  · rename_i hnone
    by_cases hk : k = key r
    · subst hk
      rw [if_pos rfl, find_eq_some]
      exact ⟨by simp, rfl⟩
    · rw [if_neg hk]
      simp [find, insert, List.find?_append, Ne.symm hk]
  · rename_i hsome
    rw [find_modify]
    by_cases hk : k = key r
    · subst hk
      obtain ⟨old, hold⟩ := Option.ne_none_iff_exists'.mp hsome
      simp [hold, (find_eq_some.mp hold).2]
    · rw [if_neg hk]
      cases hold : t.find k with
      | none => rfl
      | some old =>
          have hkey : key old ≠ key r := by
            rw [(find_eq_some.mp hold).2]
            exact hk
          rw [Option.map_some, if_neg hkey]

/-! ## Rows that stay -/

/-- Every row is still there, changed as `ages` allows. -/
def Persists (ages : ρ → ρ → Prop) (t t' : Table key) : Prop :=
  ∀ k r, t.find k = some r → ∃ r', t'.find k = some r' ∧ ages r r'

namespace Persists

variable {ages : ρ → ρ → Prop} {t' t'' : Table key}

theorem refl (hages : ∀ r, ages r r) (t : Table key) : Persists ages t t := by
  intro k r hr
  exact ⟨r, hr, hages r⟩

theorem trans (hages : ∀ r r' r'', ages r r' → ages r' r'' → ages r r'')
    (h : Persists ages t t') (h' : Persists ages t' t'') : Persists ages t t'' := by
  intro k r hr
  obtain ⟨r', hr', hage⟩ := h k r hr
  obtain ⟨r'', hr'', hage'⟩ := h' k r' hr'
  exact ⟨r'', hr'', hages r r' r'' hage hage'⟩

/-- Rows that are added take nothing away. -/
theorem of_append (hages : ∀ r, ages r r) {added : List ρ} (h : t'.rows = t.rows ++ added) :
    Persists ages t t' := by
  intro k r hr
  obtain ⟨hmem, hkey⟩ := find_eq_some.mp hr
  have hmem' : r ∈ t'.rows := h ▸ List.mem_append_left added hmem
  exact ⟨r, find_eq_some.mpr ⟨hmem', hkey⟩, hages r⟩

theorem modify {f : ρ → ρ} (hkey : ∀ r, key (f r) = key r) (hages : ∀ r, ages r (f r)) :
    Persists ages t (t.modify f hkey) := by
  intro k r hr
  exact ⟨f r, by rw [find_modify, hr, Option.map_some], hages r⟩

end Persists

end Table

/-! ## Ordering -/

/-- The rows in ascending order of a rank; rows of one rank keep their order. -/
def sortedBy {ρ κ : Type} [LE κ] [DecidableLE κ] (rank : ρ → κ) (rows : List ρ) : List ρ :=
  rows.insertionSort fun a b => rank a ≤ rank b

@[simp] theorem mem_sorted_by {ρ κ : Type} [LE κ] [DecidableLE κ] {rank : ρ → κ} {rows : List ρ}
    {r : ρ} : r ∈ sortedBy rank rows ↔ r ∈ rows :=
  (List.perm_insertionSort _ rows).mem_iff

theorem nodup_map_sorted_by {ρ κ ι : Type} [LE κ] [DecidableLE κ] {rank : ρ → κ} {key : ρ → ι}
    {rows : List ρ} (h : (rows.map key).Nodup) : ((sortedBy rank rows).map key).Nodup :=
  ((List.perm_insertionSort _ rows).map key).nodup_iff.mpr h

/-! ## Lookups -/

/-- The first entry that satisfies a predicate is the same in two lists that have the same entries
of that kind, of which there is at most one. -/
theorem find_eq_of_unique {α : Type} {l l' : List α} {p p' : α → Bool}
    (hmem : ∀ x, x ∈ l ∧ p x = true ↔ x ∈ l' ∧ p' x = true)
    (hunique : ∀ x ∈ l', ∀ y ∈ l', p' x = true → p' y = true → x = y) :
    l.find? p = l'.find? p' := by
  cases hfind : l'.find? p' with
  | none =>
      refine List.find?_eq_none.mpr fun x hx hp => ?_
      obtain ⟨hx', hp'⟩ := (hmem x).mp ⟨hx, hp⟩
      exact List.find?_eq_none.mp hfind x hx' hp'
  | some y =>
      have hy : y ∈ l' := List.mem_of_find?_eq_some hfind
      have hp' : p' y = true := List.find?_some hfind
      obtain ⟨hmine, hp⟩ := (hmem y).mpr ⟨hy, hp'⟩
      cases hmine' : l.find? p with
      | none => exact absurd hp (List.find?_eq_none.mp hmine' y hmine)
      | some x =>
          obtain ⟨hx', hpx'⟩ := (hmem x).mp
            ⟨List.mem_of_find?_eq_some hmine', List.find?_some hmine'⟩
          exact congrArg some (hunique x hx' y hy hpx' hp')
