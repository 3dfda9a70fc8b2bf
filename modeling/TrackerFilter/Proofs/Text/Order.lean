import TrackerFilter.Text.Order
import Mathlib.Data.String.Basic

/-!
The order of texts is that of strings, which compare their code points. Sorting by a text is stable: the
elements ascend, and those of one text keep the order they had. No other list does both.
-/
namespace TrackerFilter

namespace Text

theorem charsLe_iff (s t : List Char) : charsLe s t = true ↔ ¬ t < s := by
  induction s generalizing t with
  | nil => simp [charsLe]
  | cons a as ih =>
    cases t with
    | nil => simp [charsLe]
    | cons b bs =>
      have hlt : a.toNat < b.toNat ↔ a < b := Iff.rfl
      rw [charsLe, List.cons_lt_cons_iff]
      by_cases hab : a = b
      · subst hab
        simp [ih]
      · have hba : ¬ b = a := fun e => hab e.symm
        simp only [hab, hba, hlt, if_false, decide_eq_true_eq, false_and, or_false, not_lt]
        exact ⟨le_of_lt, fun h => lt_of_le_of_ne h hab⟩

theorem le_iff (s t : String) : le s t = true ↔ s ≤ t := by
  rw [le, charsLe_iff, String.le_iff_toList_le, not_lt]

end Text

/-- The elements of a list in ascending order of a text, and those of one text in the order they had. -/
structure StablySorted {α : Type} (key : α → String) (xs ys : List α) : Prop where
  ascending : ys.Pairwise fun a b => key a ≤ key b
  stable : ∀ k, (ys.filter fun a => key a = k) = xs.filter fun a => key a = k

section
variable {α : Type} {key : α → String} {xs ys zs : List α}

theorem le_of_mem_ascending {a b : α} (h : (a :: xs).Pairwise fun a b => key a ≤ key b)
    (hb : b ∈ a :: xs) : key a ≤ key b := by
  rcases List.mem_cons.mp hb with rfl | hb
  · exact le_rfl
  · exact (List.pairwise_cons.mp h).1 b hb

theorem mem_of_filter_eq {a : α} (h : ∀ k, (ys.filter fun b => key b = k) = zs.filter fun b => key b = k)
    (ha : a ∈ ys) : a ∈ zs := by
  have hf : a ∈ ys.filter fun b => key b = key a := List.mem_filter.mpr ⟨ha, by simp⟩
  rw [h (key a)] at hf
  exact (List.mem_filter.mp hf).1

theorem eq_of_ascending (hy : ys.Pairwise fun a b => key a ≤ key b)
    (hz : zs.Pairwise fun a b => key a ≤ key b)
    (h : ∀ k, (ys.filter fun a => key a = k) = zs.filter fun a => key a = k) : ys = zs := by
  induction ys generalizing zs with
  | nil =>
    cases zs with
    | nil => rfl
    | cons z zs => exact absurd (mem_of_filter_eq (fun k => (h k).symm) List.mem_cons_self) List.not_mem_nil
  | cons y ys ih =>
    cases zs with
    | nil => exact absurd (mem_of_filter_eq h List.mem_cons_self) List.not_mem_nil
    | cons z zs =>
      have hyz : y ∈ z :: zs := mem_of_filter_eq h List.mem_cons_self
      have hzy : z ∈ y :: ys := mem_of_filter_eq (fun k => (h k).symm) List.mem_cons_self
      have hk : key y = key z := le_antisymm (le_of_mem_ascending hy hzy) (le_of_mem_ascending hz hyz)
      -- both heads are the first element of their common text
      have hhead := h (key z)
      rw [List.filter_cons_of_pos (by simpa using hk), List.filter_cons_of_pos (by simp)] at hhead
      obtain ⟨rfl, _⟩ := List.cons.inj hhead
      refine congrArg (y :: ·) (ih (List.pairwise_cons.mp hy).2 (List.pairwise_cons.mp hz).2 fun k => ?_)
      have htail := h k
      by_cases hyk : key y = k
      · simpa [hyk] using htail
      · simpa [hyk] using htail

theorem stablySorted_iff : StablySorted key xs ys ↔ (ys.Pairwise fun a b => key a ≤ key b) ∧
    ∀ a ∈ xs ++ ys, (ys.filter fun b => key b = key a) = xs.filter fun b => key b = key a := by
  constructor
  · intro h
    exact ⟨h.ascending, fun a _ => h.stable (key a)⟩
  · intro h
    obtain ⟨ha, hs⟩ := h
    refine ⟨ha, fun k => ?_⟩
    by_cases hk : ∃ a ∈ xs ++ ys, key a = k
    · obtain ⟨a, hm, rfl⟩ := hk
      exact hs a hm
    · push Not at hk
      have hnil : ∀ l : List α, (∀ a ∈ l, a ∈ xs ++ ys) → (l.filter fun a => key a = k) = [] :=
        fun l hl => List.filter_eq_nil_iff.mpr fun a hm => by simpa using hk a (hl a hm)
      rw [hnil ys fun a => List.mem_append_right xs, hnil xs fun a => List.mem_append_left ys]

instance [DecidableEq α] : Decidable (StablySorted key xs ys) := decidable_of_iff _ stablySorted_iff.symm

theorem stablySorted_mergeSort (key : α → String) (xs : List α) :
    StablySorted key xs (xs.mergeSort fun a b => Text.le (key a) (key b)) := by
  have htrans : ∀ a b c : α, Text.le (key a) (key b) = true → Text.le (key b) (key c) = true →
      Text.le (key a) (key c) = true := fun a b c => Text.le_trans (key a) (key b) (key c)
  have htotal : ∀ a b : α, (Text.le (key a) (key b) || Text.le (key b) (key a)) = true :=
    fun a b => Text.le_total (key a) (key b)
  constructor
  case ascending =>
    exact (List.pairwise_mergeSort htrans htotal xs).imp fun h => (Text.le_iff _ _).mp h
  case stable =>
    intro k
    have hequal : ∀ a ∈ xs.filter (fun a => key a = k), key a = k := fun a ha => by
      simpa using (List.mem_filter.mp ha).2
    have hle : (xs.filter fun a => key a = k).Pairwise fun a b => Text.le (key a) (key b) = true := by
      refine List.pairwise_of_forall_mem_list fun a ha b hb => ?_
      rw [Text.le_iff, hequal a ha, hequal b hb]
    -- the elements of one text are sorted as they stand, so they stay in order
    have hsub := (List.sublist_mergeSort htrans htotal hle List.filter_sublist).filter fun a => key a = k
    simp only [List.filter_filter, Bool.and_self] at hsub
    exact (hsub.eq_of_length ((List.mergeSort_perm xs _).filter _).length_eq.symm).symm

theorem mergeSort_eq_iff :
    (xs.mergeSort fun a b => Text.le (key a) (key b)) = ys ↔ StablySorted key xs ys := by
  have hs := stablySorted_mergeSort key xs
  constructor
  · intro h
    exact h ▸ hs
  · intro h
    exact eq_of_ascending hs.ascending h.ascending fun k => (hs.stable k).trans (h.stable k).symm

end

end TrackerFilter
