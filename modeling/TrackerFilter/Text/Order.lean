/-!
The order of texts by code points, the shorter of two first where one begins the other.
-/
namespace TrackerFilter

namespace Text

def charsLe : List Char → List Char → Bool
  | [], _ => true
  | _ :: _, [] => false
  | a :: as, b :: bs => if a = b then charsLe as bs else decide (a.toNat < b.toNat)

def le (s t : String) : Bool := charsLe s.toList t.toList

private theorem toNat_ne {a b : Char} (h : a ≠ b) : a.toNat ≠ b.toNat := fun e =>
  h (by rw [← Char.ofNat_toNat a, ← Char.ofNat_toNat b, e])

theorem charsLe_total (s t : List Char) : (charsLe s t || charsLe t s) = true := by
  induction s generalizing t with
  | nil => simp [charsLe]
  | cons a as ih =>
    cases t with
    | nil => simp [charsLe]
    | cons b bs =>
      by_cases h : a = b
      · simpa [charsLe, h] using ih bs
      · have hn := toNat_ne h
        have h' : b ≠ a := fun e => h e.symm
        simp only [charsLe, h, h', if_false, Bool.or_eq_true, decide_eq_true_eq]
        omega

theorem charsLe_trans (s t u : List Char) (h : charsLe s t = true) (k : charsLe t u = true) :
    charsLe s u = true := by
  induction s generalizing t u with
  | nil => simp [charsLe]
  | cons a as ih =>
    cases t with
    | nil => simp [charsLe] at h
    | cons b bs =>
      cases u with
      | nil => simp [charsLe] at k
      | cons c cs =>
        by_cases hab : a = b
        · subst hab
          by_cases hac : a = c
          · subst hac
            simp only [charsLe, if_true] at h k ⊢
            exact ih bs cs h k
          · simpa [charsLe, hac] using k
        · simp only [charsLe, hab, if_false, decide_eq_true_eq] at h
          by_cases hbc : b = c
          · subst hbc
            simpa [charsLe, hab] using h
          · simp only [charsLe, hbc, if_false, decide_eq_true_eq] at k
            have hac : a ≠ c := by
              rintro rfl
              omega
            simp only [charsLe, hac, if_false, decide_eq_true_eq]
            omega

theorem le_total (s t : String) : (le s t || le t s) = true := charsLe_total s.toList t.toList

theorem le_trans (s t u : String) : le s t = true → le t u = true → le s u = true :=
  charsLe_trans s.toList t.toList u.toList

end Text

end TrackerFilter
