import Mathlib.Data.List.Basic
import Std.Data.TreeMap.Lemmas

/-!
# Groups

Items are collected by their keys in a sorted map, whose entry for a key accumulates the items of
that key. `getElem?_collect` says what the entry of a key is: the items of the key, in their order,
decide it, and the items of the other keys play no part.
-/

namespace Groups

open Std

variable {κ ι α : Type} [Ord κ] (key : ι → Option κ) (join : α → ι → α) (init : α)

/-- Join an item to the entry of its key. An item without a key is skipped. -/
def add (groups : TreeMap κ α) (item : ι) : TreeMap κ α :=
  match key item with
  | none => groups
  | some k => groups.alter k fun group => some (join (group.getD init) item)

/-- The entries of all keys. -/
def collect (items : List ι) : TreeMap κ α :=
  items.foldl (add key join init) ∅

variable [DecidableEq κ]

omit [Ord κ] in
/-- The items of a key. -/
def ofKey (k : κ) (items : List ι) : List ι :=
  items.filter fun item => key item = some k

omit [Ord κ] in
theorem mem_of_key {k : κ} {items : List ι} {item : ι} :
    item ∈ ofKey key k items ↔ item ∈ items ∧ key item = some k := by
  simp [ofKey]

omit [Ord κ] in
/-- A key has items if one of all the items has the key. -/
theorem of_key_ne_nil (k : κ) (items : List ι) :
    ofKey key k items ≠ [] ↔ ∃ item ∈ items, key item = some k := by
  simp [ofKey]

variable [TransCmp (compare : κ → κ → Ordering)] [LawfulEqCmp (compare : κ → κ → Ordering)]

theorem getElem?_add (groups : TreeMap κ α) (item : ι) (k : κ) :
    (add key join init groups item)[k]? =
      if key item = some k then some (join (groups[k]?.getD init) item) else groups[k]? := by
  unfold add
  cases hkey : key item with
  | none => rw [if_neg (Option.some_ne_none k).symm]
  | some k' =>
      show (groups.alter k' fun group => some (join (group.getD init) item))[k]? = _
      rw [TreeMap.getElem?_alter]
      by_cases hk : k' = k
      · subst hk
        rw [if_pos (LawfulEqCmp.compare_eq_iff_eq.mpr rfl), if_pos rfl]
      · have hcompare : ¬ compare k' k = .eq := fun h => hk (LawfulEqCmp.compare_eq_iff_eq.mp h)
        rw [if_neg hcompare, if_neg fun h => hk (Option.some.inj h)]

/-- Items that are joined one after the other to the entry of their key. -/
theorem getElem?_foldl (groups : TreeMap κ α) (items : List ι) (k : κ) :
    (items.foldl (add key join init) groups)[k]? =
      (ofKey key k items).foldl (fun group item => some (join (group.getD init) item))
        groups[k]? := by
  induction items generalizing groups with
  | nil => rfl
  | cons item rest ih =>
      rw [List.foldl_cons, ih, getElem?_add]
      by_cases hkey : key item = some k
      · rw [if_pos hkey, ofKey, ofKey, List.filter_cons_of_pos (by simpa using hkey),
          List.foldl_cons]
      · rw [if_neg hkey, ofKey, ofKey, List.filter_cons_of_neg (by simpa using hkey)]

omit [Ord κ] [DecidableEq κ] [TransCmp (compare : κ → κ → Ordering)]
  [LawfulEqCmp (compare : κ → κ → Ordering)] in
theorem foldl_some (items : List ι) (group : α) :
    items.foldl (fun group item => some (join (group.getD init) item)) (some group) =
      some (items.foldl join group) := by
  induction items generalizing group with
  | nil => rfl
  | cons item rest ih => exact ih (join group item)

/-- The entry of a key joins the items of that key in their order. There is none if there are no
such items. -/
theorem getElem?_collect (items : List ι) (k : κ) (group : α) :
    (collect key join init items)[k]? = some group ↔
      (∃ item ∈ items, key item = some k) ∧ (ofKey key k items).foldl join init = group := by
  unfold collect
  rw [getElem?_foldl, TreeMap.getElem?_emptyc]
  cases hitems : ofKey key k items with
  | nil =>
      refine iff_of_false (fun h => by cases h) fun h => ?_
      obtain ⟨item, hitem⟩ := h.1
      exact List.not_mem_nil (hitems ▸ (mem_of_key key).mpr hitem)
  | cons item rest =>
      have hitem : item ∈ items ∧ key item = some k :=
        (mem_of_key key).mp (hitems ▸ List.mem_cons_self)
      rw [List.foldl_cons, Option.getD_none, foldl_some, List.foldl_cons, Option.some_inj]
      exact (and_iff_right ⟨item, hitem⟩).symm

end Groups
