import Mathlib.Data.List.Induction
import Mathlib.Data.List.Nodup
import Mathlib.Logic.Function.Basic

/-!
# Overlays

A record whose fields have keys: `apply` replaces the field of a key as a value says, and `view`
shows the field of a key. A finite map is laid over a record by applying its entries one by one.
`view_apply_all` shows that each field then depends on the entry of its own key only, so that the
order of the entries does not matter.
-/

variable {σ κ ν ι : Type}

/-- Fields that can be replaced one at a time. What becomes of a field depends on the value and on
the field alone. -/
structure Overlay (σ κ ν ι : Type) where
  apply : σ → κ × ν → σ
  view : σ → κ → ι
  ext : ∀ s t, (∀ k, view s k = view t k) → s = t
  view_other : ∀ s k v k', k' ≠ k → view (apply s (k, v)) k' = view s k'
  view_self : ∀ s t k v, view s k = view t k → view (apply s (k, v)) k = view (apply t (k, v)) k

namespace FiniteMap

/-- The entries are those of a finite map, each of them once. -/
structure Lists (f : κ → Option ν) (entries : List (κ × ν)) : Prop where
  nodup : (entries.map Prod.fst).Nodup
  mem : ∀ k v, (k, v) ∈ entries ↔ f k = some v

section FiniteMaps

variable [DecidableEq κ] {f g : κ → Option ν} {entries : List (κ × ν)} {k : κ} {v : ν}

/-- The map after values have been set one after the other. -/
def overwrite (f : κ → Option ν) (entries : List (κ × ν)) : κ → Option ν :=
  entries.foldl (fun f entry => Function.update f entry.1 (some entry.2)) f

theorem overwrite_append (first second : List (κ × ν)) :
    overwrite f (first ++ second) = overwrite (overwrite f first) second :=
  List.foldl_append

/-- A key that has been set has the last value it was set to, and any other key the value it had. -/
theorem overwrite_apply :
    overwrite f entries k = (overwrite (fun _ => none) entries k).or (f k) := by
  induction entries using List.reverseRecOn with
  | nil => rfl
  | append_singleton entries entry ih =>
      rw [overwrite_append, overwrite_append]
      show Function.update (overwrite f entries) entry.1 (some entry.2) k =
        (Function.update (overwrite (fun _ => none) entries) entry.1 (some entry.2) k).or (f k)
      by_cases hk : k = entry.1
      · subst hk
        rw [Function.update_self, Function.update_self]
        rfl
      · rw [Function.update_of_ne hk, Function.update_of_ne hk]
        exact ih

/-- Setting the same values again changes nothing. -/
theorem overwrite_overwrite : overwrite (overwrite f entries) entries = overwrite f entries := by
  funext k
  rw [overwrite_apply, overwrite_apply (f := f)]
  cases overwrite (fun _ => none) entries k <;> rfl

/-- A value that a key has been set to is among the values. -/
theorem mem_of_overwrite (h : overwrite (fun _ => none) entries k = some v) :
    (k, v) ∈ entries := by
  induction entries using List.reverseRecOn with
  | nil => cases h
  | append_singleton entries entry ih =>
      rw [overwrite_append] at h
      replace h : Function.update (overwrite (fun _ => none) entries) entry.1 (some entry.2) k =
          some v := h
      by_cases hk : k = entry.1
      · subst hk
        rw [Function.update_self] at h
        exact List.mem_append_right _ (Option.some.inj h ▸ List.mem_singleton_self entry)
      · rw [Function.update_of_ne hk] at h
        exact List.mem_append_left _ (ih h)

/-- A key that is always set to one value has that value. -/
theorem overwrite_of_agree (hagree : ∀ v', (k, v') ∈ entries → v' = v) (h : (k, v) ∈ entries) :
    overwrite f entries k = some v := by
  induction entries using List.reverseRecOn with
  | nil => cases h
  | append_singleton entries entry ih =>
      rw [overwrite_append]
      show Function.update (overwrite f entries) entry.1 (some entry.2) k = some v
      by_cases hk : k = entry.1
      · subst hk
        rw [Function.update_self]
        exact congrArg some (hagree entry.2 (List.mem_append_right _ (List.mem_singleton_self _)))
      · rw [Function.update_of_ne hk]
        refine ih (fun v' hv' => hagree v' (List.mem_append_left _ hv')) ?_
        refine (List.mem_append.mp h).resolve_right fun hlast => ?_
        exact hk (congrArg Prod.fst (List.mem_singleton.mp hlast))

/-- A key that is never set keeps its value. -/
theorem overwrite_of_not_mem (h : ∀ v, (k, v) ∉ entries) : overwrite f entries k = f k := by
  rw [overwrite_apply]
  cases hset : overwrite (fun _ => none) entries k with
  | none => rfl
  | some v => exact absurd (mem_of_overwrite hset) (h v)

/-- When every key is set once, a key has the value it was set to. -/
theorem overwrite_of_mem (hnodup : (entries.map Prod.fst).Nodup) (h : (k, v) ∈ entries) :
    overwrite f entries k = some v :=
  overwrite_of_agree (fun _ hv' =>
    congrArg Prod.snd (List.inj_on_of_nodup_map hnodup hv' h rfl)) h

omit [DecidableEq κ] in
theorem lists_nil : Lists (fun _ : κ => (none : Option ν)) [] :=
  ⟨List.nodup_nil, fun k v => by simp⟩

omit [DecidableEq κ] in
/-- The entries of a map in another order. -/
theorem Lists.perm {entries' : List (κ × ν)} (h : Lists f entries)
    (hperm : entries'.Perm entries) : Lists f entries' :=
  ⟨(hperm.map Prod.fst).nodup_iff.mpr h.nodup, fun k v => hperm.mem_iff.trans (h.mem k v)⟩

/-- Replace the entry of a key. -/
theorem Lists.replace (h : Lists f entries) (k : κ) (v : ν) :
    Lists (Function.update f k (some v)) (entries.filter (·.1 ≠ k) ++ [(k, v)]) := by
  refine ⟨?_, fun k' v' => ?_⟩
  · rw [List.map_append, List.nodup_append]
    refine ⟨h.nodup.sublist (List.filter_sublist.map _), by simp, ?_⟩
    intro key hkey key' hkey'
    obtain ⟨entry, hentry, rfl⟩ := List.mem_map.mp hkey
    obtain rfl := List.mem_singleton.mp hkey'
    simpa using (List.mem_filter.mp hentry).2
  · by_cases hk : k' = k
    · subst hk
      simp [eq_comm]
    · simp [h.mem, hk]

end FiniteMaps

end FiniteMap

namespace Overlay

open FiniteMap

variable (overlay : Overlay σ κ ν ι)

/-- Apply entries one after the other. -/
def applyAll (s : σ) (entries : List (κ × ν)) : σ :=
  entries.foldl overlay.apply s

/-- The field of a key after a map has been laid over the state. -/
def read (s : σ) (f : κ → Option ν) (k : κ) : ι :=
  match f k with
  | some v => overlay.view (overlay.apply s (k, v)) k
  | none => overlay.view s k

/-- The value decides the field of the key, whatever the field was. -/
def Replaces (k : κ) (v : ν) : Prop :=
  ∀ s t, overlay.view (overlay.apply s (k, v)) k = overlay.view (overlay.apply t (k, v)) k

variable {overlay} {s t : σ} {entries : List (κ × ν)} {f g : κ → Option ν} {k : κ} {v : ν}

theorem view_apply_all_of_not_mem (h : k ∉ entries.map Prod.fst) :
    overlay.view (overlay.applyAll s entries) k = overlay.view s k := by
  induction entries generalizing s with
  | nil => rfl
  | cons entry rest ih =>
      rw [List.map_cons, List.mem_cons, not_or] at h
      show overlay.view (overlay.applyAll (overlay.apply s entry) rest) k = _
      rw [ih h.2]
      exact overlay.view_other s entry.1 entry.2 k h.1

theorem view_apply_all_of_mem (hnodup : (entries.map Prod.fst).Nodup) (h : (k, v) ∈ entries) :
    overlay.view (overlay.applyAll s entries) k = overlay.view (overlay.apply s (k, v)) k := by
  induction entries generalizing s with
  | nil => simp at h
  | cons entry rest ih =>
      rw [List.map_cons, List.nodup_cons] at hnodup
      show overlay.view (overlay.applyAll (overlay.apply s entry) rest) k = _
      rcases List.mem_cons.mp h with rfl | hrest
      · exact view_apply_all_of_not_mem hnodup.1
      · have hne : k ≠ entry.1 := fun heq =>
          hnodup.1 (heq ▸ List.mem_map_of_mem hrest)
        rw [ih hnodup.2 hrest]
        exact overlay.view_self _ _ k v (overlay.view_other s entry.1 entry.2 k hne)

/-- Every field is what the entry of its key makes of it. -/
theorem view_apply_all (h : Lists f entries) (k : κ) :
    overlay.view (overlay.applyAll s entries) k = overlay.read s f k := by
  unfold read
  cases hf : f k with
  | some v => exact view_apply_all_of_mem h.nodup ((h.mem k v).mpr hf)
  | none =>
      refine view_apply_all_of_not_mem fun hk => ?_
      obtain ⟨entry, hentry, rfl⟩ := List.mem_map.mp hk
      cases hf.symm.trans ((h.mem entry.1 entry.2).mp hentry)

/-- A state is a map laid over another one when all its fields are. -/
theorem apply_all_eq_iff (h : Lists f entries) :
    overlay.applyAll s entries = t ↔ ∀ k, overlay.view t k = overlay.read s f k := by
  refine ⟨fun heq k => heq ▸ view_apply_all h k, fun hview => overlay.ext _ _ fun k => ?_⟩
  rw [view_apply_all h, hview]

variable [DecidableEq κ] {changes : List (κ × ν)}

/-- When the new values decide their fields, laying them over a state that a map has been laid over
is laying the overwritten map over the original state. -/
theorem read_overwrite (hreplaces : ∀ entry ∈ changes, overlay.Replaces entry.1 entry.2)
    (ht : ∀ k, overlay.view t k = overlay.read s f k) (k : κ) :
    overlay.read t (overwrite (fun _ => none) changes) k =
      overlay.read s (overwrite f changes) k := by
  unfold read
  rw [overwrite_apply (f := f)]
  cases hg : overwrite (fun _ => none) changes k with
  | some v => exact hreplaces (k, v) (mem_of_overwrite hg) t s
  | none => exact ht k

end Overlay
