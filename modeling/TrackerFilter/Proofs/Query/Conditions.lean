import TrackerFilter.Proofs.Text.Delimited
import TrackerFilter.Query
import Mathlib.Data.List.Basic

/-!
What a query is made of. A subscription filters by conditions on fields; its query holds the project,
a clause for the issue types and one for each condition, whichever filters the conditions come from.
-/
namespace TrackerFilter

namespace Query

inductive Relation where
  | among (values : List String)
  | outside (values : List String)
  | isEmpty
  | equals (value : String)
  deriving DecidableEq

structure Condition where
  key : String
  relation : Relation
  deriving DecidableEq

inductive Clause where
  | issueTypes (ids : List String)
  | condition (c : Condition)

end Query

/-- A filter that includes all of its values sets one condition for each. -/
def FieldFilter.conditions (v : FieldFilter) : List Query.Condition :=
  match v.inclusion with
  | .includeAny => [⟨v.key, .among v.values⟩]
  | .excludeAny => [⟨v.key, .outside v.values⟩]
  | .empty => [⟨v.key, .isEmpty⟩]
  | .includeAll => v.values.map fun w => ⟨v.key, .equals w⟩

def FieldFilter.IsValued (v : FieldFilter) : Prop := v.inclusion ≠ .empty → v.values ≠ []

def Subscription.conditions (f : Subscription) : List Query.Condition :=
  f.fields.flatMap FieldFilter.conditions

def Subscription.clauses (f : Subscription) : List Query.Clause :=
  (if f.issueTypes = [] then [] else [.issueTypes f.issueTypes]) ++ f.conditions.map .condition

namespace Query

def valueList (values : List String) : String :=
  "(" ++ ",".intercalate (values.map Text.quoted) ++ ")"

def Relation.text : Relation → String
  | among values => "in " ++ valueList values
  | outside values => "not in " ++ valueList values
  | isEmpty => "is EMPTY"
  | equals value => "= " ++ Text.quotedIfNeeded value

def Condition.text (c : Condition) : String := c.key ++ " " ++ c.relation.text

def Clause.text : Clause → String
  | issueTypes ids => "issuetype IN (" ++ ",".intercalate ids ++ ")"
  | condition c => c.text

@[simp] theorem Clause.text_issueTypes (ids : List String) :
    (issueTypes ids).text = "issuetype IN (" ++ ",".intercalate ids ++ ")" := rfl

@[simp] theorem Clause.text_condition (c : Condition) : (condition c).text = c.text := rfl

def separator : List Char := " AND ".toList

def closing : List Char := (" " ++ orderClause).toList

theorem separator_append_ne_closing (x y : List Char) : separator ++ x ≠ closing ++ y := by
  have hsep : separator = ' ' :: 'A' :: ['N', 'D', ' '] := rfl
  obtain ⟨z, hz⟩ : ∃ z, closing = ' ' :: 'O' :: z := ⟨_, rfl⟩
  simp [hsep, hz]

theorem toList_conjunction (c : String) (cs : List String) :
    (conjunction (c :: cs)).toList = c.toList ++ cs.flatMap fun d => separator ++ d.toList :=
  Text.toList_intercalate_cons " AND " c cs

theorem membership_eq {values : List String} (key operator : String) (h : values ≠ []) :
    membership key operator values = key ++ " " ++ (operator ++ " " ++ valueList values) := by
  obtain ⟨v, vs, rfl⟩ := List.exists_cons_of_ne_nil h
  refine String.toList_injective ?_
  simp [membership, valueList]

theorem equations_eq {values : List String} (key : String) (h : values ≠ []) :
    equations key values = conjunction (values.map fun v => Condition.text ⟨key, .equals v⟩) := by
  have ht : ∀ v, key ++ " = " ++ Text.quotedIfNeeded v = Condition.text ⟨key, .equals v⟩ := by
    intro v
    refine String.toList_injective ?_
    simp [Condition.text, Relation.text]
  obtain ⟨v, vs, rfl⟩ := List.exists_cons_of_ne_nil h
  simp only [equations, ht]

theorem clause_eq {v : FieldFilter} (h : v.IsValued) :
    clause v = conjunction (v.conditions.map Condition.text) := by
  cases hi : v.inclusion with
  | empty =>
    refine String.toList_injective ?_
    simp [clause, FieldFilter.conditions, hi, conjunction, Condition.text, Relation.text]
  | includeAny =>
    simp only [clause, FieldFilter.conditions, hi, membership_eq _ _ (h (by simp [hi]))]
    rfl
  | excludeAny =>
    simp only [clause, FieldFilter.conditions, hi, membership_eq _ _ (h (by simp [hi]))]
    rfl
  | includeAll =>
    simp only [clause, FieldFilter.conditions, hi, equations_eq _ (h (by simp [hi])), List.map_map,
      Function.comp_def]

theorem conditions_ne_nil {v : FieldFilter} (h : v.IsValued) : v.conditions ≠ [] := by
  cases hi : v.inclusion with
  | includeAll => simpa [FieldFilter.conditions, hi] using h (by simp [hi])
  | empty | includeAny | excludeAny => simp [FieldFilter.conditions, hi]

theorem separator_conjunction {cs : List String} (h : cs ≠ []) :
    separator ++ (conjunction cs).toList = cs.flatMap fun c => separator ++ c.toList := by
  obtain ⟨c, rest, rfl⟩ := List.exists_cons_of_ne_nil h
  rw [toList_conjunction, List.flatMap_cons, List.append_assoc]

theorem flatMap_clause {fields : List FieldFilter} (h : ∀ v ∈ fields, v.IsValued) :
    (fields.flatMap fun v => separator ++ (clause v).toList) =
      (fields.flatMap FieldFilter.conditions).flatMap fun c => separator ++ c.text.toList := by
  rw [List.flatMap_assoc]
  refine List.flatMap_congr fun v hv => ?_
  have hne : v.conditions.map Condition.text ≠ [] := by simpa using conditions_ne_nil (h v hv)
  rw [clause_eq (h v hv), separator_conjunction hne, List.flatMap_map]

theorem flatMap_clauses {f : Subscription} (hv : ∀ v ∈ f.fields, v.IsValued) :
    ((issueTypeClauses f ++ f.fields.map clause).flatMap fun c => separator ++ c.toList) =
      f.clauses.flatMap fun c => separator ++ c.text.toList := by
  have ht : ((issueTypeClauses f).flatMap fun c => separator ++ c.toList) =
      (if f.issueTypes = [] then [] else [Clause.issueTypes f.issueTypes]).flatMap
        fun c => separator ++ c.text.toList := by
    rw [issueTypeClauses]
    cases f.issueTypes with
    | nil => rfl
    | cons id ids => rw [if_neg (List.cons_ne_nil id ids)]; rfl
  have hc : ((f.fields.map clause).flatMap fun c => separator ++ c.toList) =
      (f.conditions.map Clause.condition).flatMap fun c => separator ++ c.text.toList := by
    rw [List.flatMap_map, flatMap_clause hv, List.flatMap_map]
    simp only [Clause.text_condition, Subscription.conditions]
  rw [List.flatMap_append, ht, hc, Subscription.clauses, List.flatMap_append]

theorem toList_render {f : Subscription} {key : String} (hk : f.projectKey = some key) (hne : key ≠ "")
    (hv : ∀ v ∈ f.fields, v.IsValued) :
    (render f).toList = "project = ".toList ++
      (key.toList ++ (f.clauses.flatMap (fun c => separator ++ c.text.toList) ++ closing)) := by
  have hp : (projectClause f).toList = "project = ".toList ++ key.toList := by
    simp [projectClause, hk, orElseName, hne]
  calc (render f).toList
      = (conjunction (projectClause f :: (issueTypeClauses f ++ f.fields.map clause))).toList ++
          closing := by
        rw [render, String.append_assoc, String.toList_append]
        rfl
    _ = (projectClause f).toList ++ (f.clauses.flatMap fun c => separator ++ c.text.toList) ++
          closing := by
        rw [toList_conjunction, flatMap_clauses hv]
    _ = "project = ".toList ++
          (key.toList ++ (f.clauses.flatMap (fun c => separator ++ c.text.toList) ++ closing)) := by
        simp only [hp, List.append_assoc]

end Query

end TrackerFilter
