import TrackerFilter.Distinct
import Mathlib.Data.List.Induction
import Mathlib.Data.List.Basic

/-!
What is left of a list that keeps the first element of each key: the keys in the order in which they are
first seen, and under each the element that is the first to have it. Nothing else answers to that.
-/
namespace TrackerFilter

variable {α : Type} {key : α → String} {xs ys : List α}

/-- The second list has one element for each key of the first, namely the first one. -/
structure FirstSeen (key : α → String) (xs ys : List α) : Prop where
  keys : ys.map key = (xs.map key).eraseDups
  first : ∀ y ∈ ys, xs.find? (fun x => key x = key y) = some y

theorem map_distinctBy (key : α → String) (xs : List α) :
    (distinctBy key xs).map key = (xs.map key).eraseDups := by
  -- from the end, where both only ask whether the key occurred before
  induction xs using List.reverseRecOn with
  | nil => rfl
  | append_singleton xs a ih =>
    have hr : [key a].removeAll (xs.map key) = if key a ∈ xs.map key then [] else [key a] := by
      simp only [List.removeAll, List.filter_cons, List.filter_nil, List.elem_eq_mem,
        Bool.not_eq_true', decide_eq_false_iff_not, ite_not]
    rw [distinctBy_concat, List.map_append, List.map_singleton, List.eraseDups_append, hr, ← ih]
    split
    · simp
    · simp [List.eraseDups_cons]

theorem distinct_eq_eraseDups (xs : List String) : distinct xs = xs.eraseDups := by
  simpa [distinct] using map_distinctBy id xs

theorem FirstSeen.eq_filterMap (h : FirstSeen key xs ys) :
    ys = (xs.map key).eraseDups.filterMap fun k => xs.find? fun x => key x = k := by
  rw [← h.keys, List.filterMap_map]
  exact ((List.filterMap_congr h.first).trans List.filterMap_some).symm

theorem FirstSeen.map {β : Type} {key' : β → String} {f : α → β} (hf : ∀ a, key' (f a) = key a)
    (h : FirstSeen key xs ys) : FirstSeen key' (xs.map f) (ys.map f) where
  keys := by simpa only [List.map_map, Function.comp_def, hf] using h.keys
  first := by
    intro b hb
    obtain ⟨y, hy, rfl⟩ := List.mem_map.mp hb
    simp only [List.find?_map, Function.comp_def, hf, h.first y hy, Option.map_some]

theorem distinctBy_eq_iff : distinctBy key xs = ys ↔ FirstSeen key xs ys := by
  have hd : FirstSeen key xs (distinctBy key xs) :=
    ⟨map_distinctBy key xs, fun _ hy => mem_distinctBy.mp hy⟩
  constructor
  · intro h
    exact h ▸ hd
  · intro h
    rw [hd.eq_filterMap, ← h.eq_filterMap]

end TrackerFilter
