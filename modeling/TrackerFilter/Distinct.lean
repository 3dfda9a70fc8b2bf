/-!
Lists without repeats, in the order in which their elements are first seen.
-/
namespace TrackerFilter

variable {α : Type}

/-- Keeps the first element of each key. -/
def distinctBy (key : α → String) : List α → List α
  | [] => []
  | a :: rest => a :: (distinctBy key rest).filter fun b => key b ≠ key a

def distinct (xs : List String) : List String := distinctBy id xs

theorem distinctBy_eq_nil {key : α → String} {xs : List α} : distinctBy key xs = [] ↔ xs = [] := by
  cases xs <;> simp [distinctBy]

theorem nodup_map_distinctBy (key : α → String) (xs : List α) : ((distinctBy key xs).map key).Nodup := by
  induction xs with
  | nil => simp [distinctBy]
  | cons a rest ih =>
    have hf : ((distinctBy key rest).filter fun b => key b ≠ key a).map key |>.Nodup :=
      ih.sublist (List.filter_sublist.map key)
    simpa [distinctBy] using hf

theorem nodup_distinct (xs : List String) : (distinct xs).Nodup := by
  simpa [distinct] using nodup_map_distinctBy id xs

theorem mem_map_distinctBy (key : α → String) (xs : List α) (k : String) :
    k ∈ (distinctBy key xs).map key ↔ k ∈ xs.map key := by
  induction xs with
  | nil => simp [distinctBy]
  | cons a rest ih =>
    by_cases h : k = key a
    · simp [distinctBy, h]
    · have hk : k ∈ ((distinctBy key rest).filter fun b => key b ≠ key a).map key ↔
          k ∈ (distinctBy key rest).map key := by
        simp only [List.mem_map, List.mem_filter, decide_eq_true_eq]
        constructor
        · rintro ⟨b, ⟨hb, _⟩, e⟩
          exact ⟨b, hb, e⟩
        · rintro ⟨b, hb, e⟩
          exact ⟨b, ⟨hb, fun e' => h (e ▸ e')⟩, e⟩
      simp only [distinctBy, List.map_cons, List.mem_cons, h, false_or, hk, ih]

theorem mem_distinct (xs : List String) (k : String) : k ∈ distinct xs ↔ k ∈ xs := by
  simpa [distinct] using mem_map_distinctBy id xs k

theorem distinctBy_concat (key : α → String) (xs : List α) (a : α) :
    distinctBy key (xs ++ [a]) =
      if key a ∈ xs.map key then distinctBy key xs else distinctBy key xs ++ [a] := by
  induction xs with
  | nil => simp [distinctBy]
  | cons b rest ih =>
    rw [List.cons_append, distinctBy, ih, distinctBy]
    by_cases hb : key a = key b
    · by_cases hr : key a ∈ rest.map key
      · simp [hb, hb ▸ hr]
      · simp [hb, hb ▸ hr]
    · by_cases hr : key a ∈ rest.map key
      · simp only [List.map_cons, List.mem_cons, hb, hr, or_true, if_true]
      · simp [hb, hr]

theorem mem_distinctBy {key : α → String} {xs : List α} {a : α} :
    a ∈ distinctBy key xs ↔ xs.find? (fun b => key b = key a) = some a := by
  induction xs with
  | nil => simp [distinctBy]
  | cons b rest ih =>
    by_cases hb : key b = key a
    · simp [distinctBy, hb, eq_comm]
    · have hab : a ≠ b := fun e => hb (e ▸ rfl)
      simp [distinctBy, hb, hab, ih, Ne.symm hb]

theorem distinctBy_of_nodup {key : α → String} {xs : List α} (h : (xs.map key).Nodup) :
    distinctBy key xs = xs := by
  induction xs with
  | nil => rfl
  | cons a rest ih =>
    simp only [List.map_cons, List.nodup_cons] at h
    rw [distinctBy, ih h.2, List.filter_eq_self.2]
    intro b hb
    have hn : key b ≠ key a := fun e => h.1 (List.mem_map.2 ⟨b, hb, e⟩)
    simpa using hn

theorem distinct_of_nodup {xs : List String} (h : xs.Nodup) : distinct xs = xs :=
  distinctBy_of_nodup (by simpa using h)

theorem distinct_distinct (xs : List String) : distinct (distinct xs) = distinct xs :=
  distinct_of_nodup (nodup_distinct xs)

end TrackerFilter
