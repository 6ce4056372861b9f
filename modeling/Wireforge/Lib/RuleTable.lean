import Mathlib.Data.List.Count
import Mathlib.Data.List.Infix

/-!
# Ordered tables edited by probe-and-insert and by delete

An ordered table is a list. `ensureAll` inserts at the front every entry that a probe does not
find, and `eraseAll` deletes the first copy of every entry. The lemmas say what the two do to
membership and to the number of copies, and `Grown` what is left of that when some of the single
insertions do not take place.
-/

namespace RuleTable

variable {ε : Type} [DecidableEq ε]

/-- Insert an entry at the front unless it is already present. -/
def ensure (table : List ε) (entry : ε) : List ε :=
  if entry ∈ table then table else entry :: table

/-- Ensure every entry in turn. -/
def ensureAll (entries table : List ε) : List ε :=
  entries.foldl ensure table

/-- Delete the first copy of every entry in turn. -/
def eraseAll (entries table : List ε) : List ε :=
  entries.foldl List.erase table

@[simp] theorem ensure_all_nil (table : List ε) : ensureAll [] table = table := rfl

@[simp] theorem ensure_all_cons (entry : ε) (entries table : List ε) :
    ensureAll (entry :: entries) table = ensureAll entries (ensure table entry) := rfl

@[simp] theorem erase_all_nil (table : List ε) : eraseAll [] table = table := rfl

@[simp] theorem erase_all_cons (entry : ε) (entries table : List ε) :
    eraseAll (entry :: entries) table = eraseAll entries (table.erase entry) := rfl

@[simp] theorem mem_ensure {table : List ε} {entry other : ε} :
    other ∈ ensure table entry ↔ other = entry ∨ other ∈ table := by
  unfold ensure
  split
  · exact ⟨.inr, fun h => h.elim (fun heq => heq ▸ ‹entry ∈ table›) id⟩
  · exact List.mem_cons

theorem mem_ensure_all {entries table : List ε} {other : ε} :
    other ∈ ensureAll entries table ↔ other ∈ entries ∨ other ∈ table := by
  induction entries generalizing table with
  | nil => simp
  | cons entry rest ih =>
      rw [ensure_all_cons, ih, mem_ensure, List.mem_cons]
      tauto

/-- Ensuring entries never makes a second copy. -/
theorem count_ensure_all_le {entries table : List ε} {other : ε} :
    (ensureAll entries table).count other ≤ max 1 (table.count other) := by
  induction entries generalizing table with
  | nil => exact le_max_right _ _
  | cons entry rest ih =>
      refine ih.trans (max_le (le_max_left _ _) ?_)
      unfold ensure
      split
      · exact le_max_right _ _
      · rename_i hnew
        by_cases heq : entry = other
        · subst heq
          simp [List.count_eq_zero_of_not_mem hnew]
        · rw [List.count_cons_of_ne heq]
          exact le_max_right _ _

/-- Deleting a list of entries takes away as many copies of an entry as the list has. -/
theorem count_erase_all {entries table : List ε} {other : ε} :
    (eraseAll entries table).count other = table.count other - entries.count other := by
  induction entries generalizing table with
  | nil => simp
  | cons entry rest ih =>
      rw [erase_all_cons, ih, List.count_erase, List.count_cons]
      by_cases heq : entry = other
      · simp only [heq, beq_self_eq_true, if_true]
        omega
      · simp [heq]

/-- An entry survives a deletion exactly when the table has more copies of it than are deleted. -/
theorem mem_erase_all {entries table : List ε} {other : ε} :
    other ∈ eraseAll entries table ↔ entries.count other < table.count other := by
  rw [← List.count_pos_iff, count_erase_all]
  omega

theorem mem_erase_all_of_not_mem {entries table : List ε} {other : ε} (h : other ∉ entries) :
    other ∈ eraseAll entries table ↔ other ∈ table := by
  rw [mem_erase_all, List.count_eq_zero_of_not_mem h, List.count_pos_iff]

/-- Deleting distinct entries from a table without copies removes them all. -/
theorem not_mem_erase_all {entries table : List ε} {other : ε} (hmem : other ∈ entries)
    (hcount : table.count other ≤ 1) : other ∉ eraseAll entries table := by
  rw [mem_erase_all, not_lt]
  exact hcount.trans (List.one_le_count_iff.mpr hmem)

/-! ## Partial insertions -/

/-- The table grew at the front by some of the entries. -/
def Grown (entries table table' : List ε) : Prop :=
  ∃ added, table' = added ++ table ∧ ∀ entry ∈ added, entry ∈ entries

omit [DecidableEq ε] in
theorem Grown.refl (entries table : List ε) : Grown entries table table :=
  ⟨[], rfl, by simp⟩

omit [DecidableEq ε] in
theorem Grown.trans {entries table table' table'' : List ε} (h : Grown entries table table')
    (h' : Grown entries table' table'') : Grown entries table table'' := by
  obtain ⟨added, rfl, hadded⟩ := h
  obtain ⟨added', rfl, hadded'⟩ := h'
  refine ⟨added' ++ added, (List.append_assoc _ _ _).symm, fun entry hmem => ?_⟩
  exact (List.mem_append.mp hmem).elim (hadded' entry) (hadded entry)

omit [DecidableEq ε] in
theorem Grown.cons {entries table table' : List ε} {entry : ε} (hmem : entry ∈ entries)
    (h : Grown entries (entry :: table) table') : Grown entries table table' := by
  obtain ⟨added, rfl, hadded⟩ := h
  refine ⟨added ++ [entry], by simp, ?_⟩
  intro other hother
  rcases List.mem_append.mp hother with hother | hother
  · exact hadded other hother
  · exact List.mem_singleton.mp hother ▸ hmem

omit [DecidableEq ε] in
theorem Grown.mono {entries entries' table table' : List ε} (h : Grown entries table table')
    (hsub : ∀ entry ∈ entries, entry ∈ entries') : Grown entries' table table' := by
  obtain ⟨added, rfl, hadded⟩ := h
  exact ⟨added, rfl, fun entry hmem => hsub entry (hadded entry hmem)⟩

omit [DecidableEq ε] in
/-- A grown table still has every entry it had. -/
theorem Grown.mem {entries table table' : List ε} (h : Grown entries table table') {other : ε}
    (hmem : other ∈ table) : other ∈ table' := by
  obtain ⟨added, rfl, _⟩ := h
  exact List.mem_append_right added hmem

/-- The entries have no more copies than one or than before, and everything else is as before. -/
structure Kept (entries table table' : List ε) : Prop where
  count_le : ∀ entry ∈ entries, table'.count entry ≤ max 1 (table.count entry)
  others : table'.filter (· ∉ entries) = table.filter (· ∉ entries)

theorem Kept.refl (entries table : List ε) : Kept entries table table :=
  ⟨fun _ _ => le_max_right _ _, rfl⟩

/-- Ensuring one of the entries keeps the table. -/
theorem Kept.ensure {entries table table' : List ε} {entry : ε} (hmem : entry ∈ entries)
    (h : Kept entries table table') : Kept entries table (RuleTable.ensure table' entry) where
  count_le := fun other hother => by
    have hstep : (ensureAll [entry] table').count other ≤ max 1 (table'.count other) :=
      count_ensure_all_le
    rw [ensure_all_cons, ensure_all_nil] at hstep
    have hbefore := h.count_le other hother
    omega
  others := by
    unfold RuleTable.ensure
    split
    · exact h.others
    · rw [List.filter_cons_of_neg (by simpa using hmem)]
      exact h.others

end RuleTable
