import TrackerFilter.Proofs.Query.Conditions
import Mathlib.Algebra.Order.BigOperators.Group.List
import Mathlib.Algebra.Order.Ring.Nat

/-!
How long a query is. Every clause takes room, and so does every value within one. So a query gets shorter
as soon as a filter, or a value that repeats an earlier one, is left out.
-/
namespace TrackerFilter

theorem distinct_sublist (xs : List String) : (distinct xs).Sublist xs := by
  induction xs with
  | nil => exact .slnil
  | cons a rest ih => exact (List.filter_sublist.trans ih).cons_cons a

theorem length_distinct_lt {xs : List String} (h : ¬ xs.Nodup) : (distinct xs).length < xs.length := by
  have hle := (distinct_sublist xs).length_le
  have hne : (distinct xs).length ≠ xs.length := by
    intro he
    have hd := (distinct_sublist xs).eq_of_length he
    exact h (hd ▸ nodup_distinct xs)
  omega

theorem sum_map_lt_of_sublist {α : Type} {w : α → Nat} {xs ys : List α} (h : xs.Sublist ys)
    (hw : ∀ a, 0 < w a) (hl : xs.length < ys.length) : (xs.map w).sum < (ys.map w).sum := by
  induction h with
  | slnil => simp at hl
  | @cons xs ys a hs ih =>
    have hle := (hs.map w).sum_le_sum fun _ _ => Nat.zero_le _
    have ha := hw a
    simp only [List.map_cons, List.sum_cons]
    omega
  | @cons_cons xs ys a hs ih =>
    have hlt := ih (by simpa using hl)
    simp only [List.map_cons, List.sum_cons]
    omega

namespace Text

variable (sep : String)

theorem length_intercalate_add {texts : List String} (h : texts ≠ []) :
    (sep.intercalate texts).length + sep.length =
      (texts.map fun t => t.length + sep.length).sum := by
  obtain ⟨t, ts, rfl⟩ := List.exists_cons_of_ne_nil h
  induction ts generalizing t with
  | nil => simp
  | cons u us ih =>
    have hu := ih u (List.cons_ne_nil u us)
    simp only [String.intercalate_cons_cons, String.length_append, List.map_cons, List.sum_cons] at hu ⊢
    omega

variable {sep} in
theorem length_intercalate_distinct_lt (hsep : 0 < sep.length) (write : String → String)
    {xs : List String} (h : ¬ xs.Nodup) :
    (sep.intercalate ((distinct xs).map write)).length < (sep.intercalate (xs.map write)).length := by
  have hxs : xs ≠ [] := fun hnil => h (hnil ▸ List.nodup_nil)
  have hd : distinct xs ≠ [] := distinctBy_eq_nil.not.mpr hxs
  have hlt := sum_map_lt_of_sublist (distinct_sublist xs)
    (fun x => Nat.add_pos_right (write x).length hsep) (length_distinct_lt h)
  have hall := length_intercalate_add sep (mt List.map_eq_nil_iff.mp hxs : xs.map write ≠ [])
  have hfew := length_intercalate_add sep
    (mt List.map_eq_nil_iff.mp hd : (distinct xs).map write ≠ [])
  simp only [List.map_map, Function.comp_def] at hall hfew
  omega

end Text

def FieldFilter.IsTidy (v : FieldFilter) : Prop := v.inclusion ≠ .empty → v.values.Nodup

namespace Query

theorem clause_normalized_of_isTidy {v : FieldFilter} (h : v.IsTidy) : clause v.normalized = clause v := by
  by_cases hi : v.inclusion = .empty
  · simp [clause, FieldFilter.normalized, hi]
  · have hd := distinct_of_nodup (h hi)
    simp [clause, FieldFilter.normalized, hi, hd]

theorem length_clause_normalized_lt {v : FieldFilter} (h : ¬ v.IsTidy) :
    (clause v.normalized).length < (clause v).length := by
  obtain ⟨hi, hn⟩ := Classical.not_imp.mp h
  have hne : v.values ≠ [] := fun hnil => hn (hnil ▸ List.nodup_nil)
  have hd : distinct v.values ≠ [] := distinctBy_eq_nil.not.mpr hne
  have hcomma : 0 < ",".length := by decide
  have hlist := Text.length_intercalate_distinct_lt hcomma Text.quoted hn
  cases hv : v.inclusion with
  | empty => exact absurd hv hi
  | includeAny =>
    simp only [clause, FieldFilter.normalized, hv, reduceCtorEq, if_false, membership_eq _ _ hne,
      membership_eq _ _ hd, valueList, String.length_append]
    omega
  | excludeAny =>
    simp only [clause, FieldFilter.normalized, hv, reduceCtorEq, if_false, membership_eq _ _ hne,
      membership_eq _ _ hd, valueList, String.length_append]
    omega
  | includeAll =>
    simp only [clause, FieldFilter.normalized, hv, reduceCtorEq, if_false, equations_eq _ hne,
      equations_eq _ hd, conjunction]
    exact Text.length_intercalate_distinct_lt (by decide) _ hn

def room (v : FieldFilter) : Nat := (clause v).length + " AND ".length

theorem room_pos (v : FieldFilter) : 0 < room v := Nat.add_pos_right _ (by decide)

theorem room_normalized_lt {v : FieldFilter} (h : ¬ v.IsTidy) : room v.normalized < room v :=
  Nat.add_lt_add_right (length_clause_normalized_lt h) _

theorem room_normalized_le (v : FieldFilter) : room v.normalized ≤ room v := by
  by_cases h : v.IsTidy
  · rw [room, clause_normalized_of_isTidy h, room]
  · exact (room_normalized_lt h).le

theorem length_render (f : Subscription) :
    (render f).length + " AND ".length =
      ((projectClause f :: issueTypeClauses f).map fun c => c.length + " AND ".length).sum +
        (f.fields.map room).sum + (" " ++ orderClause).length := by
  have hne : projectClause f :: (issueTypeClauses f ++ f.fields.map clause) ≠ [] := List.cons_ne_nil _ _
  have hc := Text.length_intercalate_add " AND " hne
  have hr : f.fields.map room = f.fields.map fun v => (clause v).length + " AND ".length := rfl
  simp only [render, conjunction, hr, String.length_append, List.map_cons, List.map_append,
    List.map_map, List.sum_cons, List.sum_append, Function.comp_def] at hc ⊢
  omega

end Query

end TrackerFilter
