import Mathlib.Algebra.BigOperators.Group.List.Basic
import Mathlib.Data.List.Dedup
import Mathlib.Data.List.Sort

/-!
# Totals by key

`bump` adds a value to the total of its key, and `tally` fills a map of totals entry by entry:
`lookup_tally` is the total of a key and `sum_tally` the total of all. `sum_fibers` sums a list
group by group. `Highest` is what the first entries of a list in descending order are.
-/

namespace Tally

variable {κ υ α : Type} [DecidableEq κ]

section Totals

variable [AddCommMonoid υ]

/-- Add a value to the total of a key, which is zero at first. -/
def bump (k : κ) (v : υ) : List (κ × υ) → List (κ × υ)
  | [] => [(k, 0 + v)]
  | (k', total) :: rest =>
      if k' = k then (k', total + v) :: rest else (k', total) :: bump k v rest

/-- The totals of some entries, by key. -/
def tally (entries : List (κ × υ)) : List (κ × υ) :=
  entries.foldl (fun totals entry => bump entry.1 entry.2 totals) []

/-- The total of a key, zero if it has none. -/
def totalOf (totals : List (κ × υ)) (k : κ) : υ :=
  (totals.lookup k).getD 0

theorem total_of_bump (k k' : κ) (v : υ) (totals : List (κ × υ)) :
    totalOf (bump k v totals) k' = totalOf totals k' + if k = k' then v else 0 := by
  induction totals with
  | nil =>
      by_cases h : k = k'
      · subst h
        simp [totalOf, bump]
      · simp [totalOf, bump, h, beq_false_of_ne (Ne.symm h), List.lookup_cons]
  | cons entry rest ih =>
      obtain ⟨first, total⟩ := entry
      unfold totalOf at ih ⊢
      unfold bump
      by_cases hfirst : first = k
      · subst hfirst
        rw [if_pos rfl]
        by_cases h : first = k'
        · subst h
          simp
        · simp [List.lookup_cons, h, beq_false_of_ne (Ne.symm h)]
      · rw [if_neg hfirst]
        by_cases h : first = k'
        · subst h
          simp [Ne.symm hfirst]
        · simpa [List.lookup_cons, beq_false_of_ne (Ne.symm h)] using ih

theorem sum_bump (k : κ) (v : υ) (totals : List (κ × υ)) :
    ((bump k v totals).map Prod.snd).sum = (totals.map Prod.snd).sum + v := by
  induction totals with
  | nil => simp [bump]
  | cons entry rest ih =>
      obtain ⟨first, total⟩ := entry
      unfold bump
      split
      · simp only [List.map_cons, List.sum_cons]
        rw [add_right_comm]
      · simp only [List.map_cons, List.sum_cons, ih]
        rw [add_assoc]

/-- The total of a key is the sum of the values under it. -/
theorem total_of_tally (entries : List (κ × υ)) (k : κ) :
    totalOf (tally entries) k = ((entries.filter (·.1 = k)).map Prod.snd).sum := by
  -- the entries that come later are added to the totals so far
  suffices h : ∀ totals : List (κ × υ),
      totalOf (entries.foldl (fun totals entry => bump entry.1 entry.2 totals) totals) k =
        totalOf totals k + ((entries.filter (·.1 = k)).map Prod.snd).sum by
    have hempty : totalOf ([] : List (κ × υ)) k = 0 := rfl
    rw [tally, h [], hempty, zero_add]
  induction entries with
  | nil => simp
  | cons entry rest ih =>
      intro totals
      rw [List.foldl_cons, ih, total_of_bump]
      by_cases h : entry.1 = k
      · rw [if_pos h, List.filter_cons_of_pos (by simpa using h), List.map_cons, List.sum_cons,
          add_assoc]
      · rw [if_neg h, List.filter_cons_of_neg (by simpa using h), add_zero]

/-- All totals add up to the sum of all values. -/
theorem sum_tally (entries : List (κ × υ)) :
    ((tally entries).map Prod.snd).sum = (entries.map Prod.snd).sum := by
  suffices h : ∀ totals : List (κ × υ),
      ((entries.foldl (fun totals entry => bump entry.1 entry.2 totals) totals).map
          Prod.snd).sum = (totals.map Prod.snd).sum + (entries.map Prod.snd).sum by
    rw [tally, h [], List.map_nil, List.sum_nil, zero_add]
  induction entries with
  | nil => simp
  | cons entry rest ih =>
      intro totals
      rw [List.foldl_cons, ih, sum_bump, List.map_cons, List.sum_cons, add_assoc]

/-- Of distinct keys, one has the value. -/
theorem sum_single {keys : List κ} (hkeys : keys.Nodup) {k : κ} (hk : k ∈ keys) (v : υ) :
    (keys.map fun k' => if k = k' then v else 0).sum = v := by
  induction keys with
  | nil => cases hk
  | cons first rest ih =>
      obtain ⟨hfresh, hrest⟩ := List.nodup_cons.mp hkeys
      rw [List.map_cons, List.sum_cons]
      by_cases h : k = first
      · have hnone : (rest.map fun k' => if k = k' then v else 0).sum = 0 := by
          refine List.sum_eq_zero fun y hy => ?_
          obtain ⟨k', hk', rfl⟩ := List.mem_map.mp hy
          refine if_neg fun heq : k = k' => hfresh ?_
          rwa [← h, heq]
        rw [if_pos h, hnone, add_zero]
      · rw [if_neg h, zero_add]
        exact ih hrest ((List.mem_cons.mp hk).resolve_left h)

/-- A list is summed group by group, if every element belongs to exactly one group. -/
theorem sum_fibers {keys : List κ} (hkeys : keys.Nodup) (key : α → κ) (f : α → υ) {l : List α}
    (hcover : ∀ x ∈ l, key x ∈ keys) :
    (keys.map fun k => ((l.filter (key · = k)).map f).sum).sum = (l.map f).sum := by
  induction l with
  | nil => simp
  | cons x rest ih =>
      have hrest := ih fun y hy => hcover y (List.mem_cons_of_mem _ hy)
      have hone := sum_single hkeys (hcover x List.mem_cons_self) (f x)
      have hsplit : ∀ k, (((x :: rest).filter (key · = k)).map f).sum =
          (if key x = k then f x else 0) + ((rest.filter (key · = k)).map f).sum := by
        intro k
        by_cases h : key x = k
        · rw [if_pos h, List.filter_cons_of_pos (by simpa using h), List.map_cons, List.sum_cons]
        · rw [if_neg h, List.filter_cons_of_neg (by simpa using h), zero_add]
      simp only [hsplit]
      rw [List.sum_map_add, hone, hrest, List.map_cons, List.sum_cons]

/-- A sum over the values that a map has is one over the keys, of which some have none. -/
theorem sum_filter_map {β : Type} (g : α → Option β) (f : β → υ) (l : List α) :
    ((l.filterMap g).map f).sum = (l.map fun a => ((g a).map f).getD 0).sum := by
  induction l with
  | nil => rfl
  | cons a rest ih =>
      cases h : g a with
      | none => simp [h, ih]
      | some b => simp [h, ih]

theorem sum_flat_map {β : Type} (g : α → List β) (f : β → υ) (l : List α) :
    ((l.flatMap g).map f).sum = (l.map fun a => ((g a).map f).sum).sum := by
  induction l with
  | nil => rfl
  | cons a rest ih => simp [ih]

end Totals

/-! ## The highest entries -/

/-- The first entries in descending order of a rank; entries of one rank keep their order. -/
def highest {α : Type} (n : Nat) (rank : α → Nat) (l : List α) : List α :=
  (l.insertionSort fun a b => rank b ≤ rank a).take n

section Highest

variable {α : Type} {n : Nat} {rank : α → Nat} {l : List α} {a b : α}

theorem mem_of_highest (h : a ∈ highest n rank l) : a ∈ l :=
  (List.perm_insertionSort _ l).mem_iff.mp (List.mem_of_mem_take h)

theorem length_highest : (highest n rank l).length = min n l.length := by
  rw [highest, List.length_take, List.length_insertionSort]

theorem nodup_highest (h : l.Nodup) : (highest n rank l).Nodup :=
  ((List.perm_insertionSort _ l).nodup_iff.mpr h).sublist (List.take_sublist _ _)

/-- The entries in the order of their ranks. -/
theorem ranked_insertion_sort :
    (l.insertionSort fun a b => rank b ≤ rank a).Pairwise fun a b => rank b ≤ rank a := by
  have htotal : Std.Total fun a b : α => rank b ≤ rank a := ⟨fun a b => Nat.le_total _ _⟩
  have htrans : IsTrans α fun a b : α => rank b ≤ rank a := ⟨fun a b c h h' => Nat.le_trans h' h⟩
  exact List.pairwise_insertionSort _ l

/-- The ranks of the highest entries do not increase. -/
theorem ranked_highest : (highest n rank l).Pairwise fun a b => rank b ≤ rank a :=
  ranked_insertion_sort.sublist (List.take_sublist _ _)

/-- No entry that is left out has a higher rank than one that is not. -/
theorem rank_le_highest (ha : a ∈ l) (hout : a ∉ highest n rank l) (hb : b ∈ highest n rank l) :
    rank a ≤ rank b := by
  have hranked := @ranked_insertion_sort α rank l
  rw [← List.take_append_drop n (l.insertionSort _), List.pairwise_append] at hranked
  have hsorted : a ∈ l.insertionSort fun a b => rank b ≤ rank a :=
    (List.perm_insertionSort _ l).mem_iff.mpr ha
  rw [← List.take_append_drop n (l.insertionSort _), List.mem_append] at hsorted
  exact hranked.2.2 b hb a (hsorted.resolve_left hout)

end Highest

end Tally
