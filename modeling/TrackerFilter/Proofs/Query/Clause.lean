import TrackerFilter.Proofs.Query.Reading

/-!
What a clause tells of its filter. Behind the key stands a word for the inclusion, and behind that the
values, read off whatever they say. Only equations do not tell a filter without values from one whose
single value is the placeholder, which stands bare like any other word.
-/
namespace TrackerFilter

def Inclusion.keyword : Inclusion → String
  | includeAny => "in"
  | includeAll => "="
  | excludeAny => "not"
  | empty => "is"

theorem Inclusion.keyword_injective : Function.Injective Inclusion.keyword := by
  intro i j h
  cases i <;> cases j <;> first | rfl | exact absurd h (by decide)

theorem Inclusion.blank_notMem_keyword (i : Inclusion) : ' ' ∉ i.keyword.toList := by
  cases i <;> decide

namespace Query

def operand (values : List String) : String := if values = [] then placeholder else valueList values

def equated (values : List String) : List String := if values = [] then [placeholder] else values

section
variable {key operator : String} {vs ws : List String}

theorem membership_eq_operand (key operator : String) (values : List String) :
    membership key operator values = key ++ " " ++ (operator ++ " " ++ operand values) := by
  by_cases h : values = []
  · subst h
    refine String.toList_injective ?_
    simp [membership, operand]
  · rw [membership_eq key operator h, operand, if_neg h]

theorem placeholder_ne_valueList (values : List String) : placeholder ≠ valueList values := by
  intro h
  have hl := congrArg String.toList h
  simp [placeholder, valueList] at hl

theorem operand_injective : Function.Injective operand := by
  intro vs ws h
  by_cases hv : vs = [] <;> by_cases hw : ws = [] <;>
    simp only [operand, hv, hw, if_true, if_false] at h
  · exact hv.trans hw.symm
  · exact absurd h (placeholder_ne_valueList ws)
  · exact absurd h.symm (placeholder_ne_valueList vs)
  · have hl : (valueList vs).toList ++ [] = (valueList ws).toList ++ [] := by rw [h]
    exact (delimited_valueList trivial trivial trivial trivial hl).1

theorem membership_inj (h : membership key operator vs = membership key operator ws) : vs = ws := by
  rw [membership_eq_operand, membership_eq_operand] at h
  have hl := congrArg String.toList h
  simp only [String.toList_append, List.append_assoc, List.append_right_inj] at hl
  exact operand_injective (String.toList_injective hl)

theorem equated_ne_nil (values : List String) : equated values ≠ [] := by
  by_cases h : values = [] <;> simp [equated, h]

theorem equations_equated (key : String) (values : List String) :
    equations key (equated values) = equations key values := by
  by_cases h : values = []
  · subst h
    have hq : Text.quotedIfNeeded placeholder = placeholder := by decide
    simp [equated, equations, conjunction, hq]
  · rw [equated, if_neg h]

theorem separator_equations (key : String) (h : vs ≠ []) :
    separator ++ (equations key vs).toList =
      vs.flatMap fun v => (separator ++ (key ++ " = ").toList) ++ (Text.quotedIfNeeded v).toList := by
  have hne : vs.map (fun v => Condition.text ⟨key, .equals v⟩) ≠ [] := by simpa using h
  rw [equations_eq key h, separator_conjunction hne, List.flatMap_map]
  refine List.flatMap_congr fun v _ => ?_
  simp [Condition.text, Relation.text]

theorem equations_inj (hv : vs ≠ []) (hw : ws ≠ []) (h : equations key vs = equations key ws) :
    vs = ws := by
  have hread := Text.delimited_quotedIfNeeded.separated (separator ++ (key ++ " = ").toList) closing
    (fun _ => ⟨_, rfl⟩) (fun _ => ⟨_, rfl⟩) fun x y => by
      rw [List.append_assoc]
      exact separator_append_ne_closing _ y
  have hl : separator ++ (equations key vs).toList = separator ++ (equations key ws).toList := by
    rw [h]
  rw [separator_equations key hv, separator_equations key hw] at hl
  exact (hread (fun _ _ => trivial) (fun _ _ => trivial) trivial trivial
    (congrArg (· ++ closing ++ []) hl)).1

theorem equations_eq_iff : equations key vs = equations key ws ↔ equated vs = equated ws := by
  constructor
  · intro h
    rw [← equations_equated key vs, ← equations_equated key ws] at h
    exact equations_inj (equated_ne_nil vs) (equated_ne_nil ws) h
  · intro h
    rw [← equations_equated key vs, h, equations_equated key ws]

theorem equated_eq_iff :
    equated vs = equated ws ↔
      vs = ws ∨ vs = [] ∧ ws = [placeholder] ∨ vs = [placeholder] ∧ ws = [] := by
  by_cases hv : vs = [] <;> by_cases hw : ws = [] <;> simp [equated, hv, hw, eq_comm]

end

theorem exists_keyword (v : FieldFilter) :
    ∃ rest, (clause v).toList = v.key.toList ++ ' ' :: (v.inclusion.keyword.toList ++ ' ' :: rest) := by
  obtain ⟨key, i, values⟩ := v
  cases i with
  | empty => exact ⟨"EMPTY".toList, by simp [clause, Inclusion.keyword]⟩
  | includeAny =>
    refine ⟨(operand values).toList, ?_⟩
    simp [clause, membership_eq_operand, Inclusion.keyword]
  | excludeAny =>
    refine ⟨"in ".toList ++ (operand values).toList, ?_⟩
    simp [clause, membership_eq_operand, Inclusion.keyword]
  | includeAll =>
    obtain ⟨v, vs, hvs⟩ := List.exists_cons_of_ne_nil (equated_ne_nil values)
    have he : (clause ⟨key, .includeAll, values⟩).toList = (equations key (v :: vs)).toList := by
      rw [← hvs, equations_equated]
      rfl
    refine ⟨(Text.quotedIfNeeded v).toList ++
      (vs.map fun u => Condition.text ⟨key, .equals u⟩).flatMap fun d => separator ++ d.toList, ?_⟩
    rw [he, equations_eq key (List.cons_ne_nil v vs), List.map_cons, toList_conjunction]
    simp [Condition.text, Relation.text, Inclusion.keyword]

theorem inclusion_eq_of_clause_eq {v w : FieldFilter} (h : clause v = clause w) (hk : v.key = w.key) :
    v.inclusion = w.inclusion := by
  obtain ⟨x, hx⟩ := exists_keyword v
  obtain ⟨y, hy⟩ := exists_keyword w
  rw [h, hy, hk, List.append_right_inj, List.cons.injEq] at hx
  have hword := (Text.append_stop_inj (Inclusion.blank_notMem_keyword _)
    (Inclusion.blank_notMem_keyword _) hx.2).1
  exact (Inclusion.keyword_injective (String.toList_injective hword)).symm

/-- Two filters on a field have the same clause exactly if they agree in inclusion and values. A filter for
an empty field does not say its values, and all of no values reads as all of the placeholder. -/
theorem clause_eq_iff (key : String) (i j : Inclusion) (vs ws : List String) :
    clause ⟨key, i, vs⟩ = clause ⟨key, j, ws⟩ ↔
      i = j ∧ (i = .empty ∨ vs = ws ∨
        i = .includeAll ∧ (vs = [] ∧ ws = [placeholder] ∨ vs = [placeholder] ∧ ws = [])) := by
  constructor
  · intro h
    obtain rfl : i = j := inclusion_eq_of_clause_eq h rfl
    refine ⟨rfl, ?_⟩
    cases i with
    | empty => exact .inl rfl
    | includeAny => exact .inr (.inl (membership_inj h))
    | excludeAny => exact .inr (.inl (membership_inj h))
    | includeAll =>
      rcases equated_eq_iff.mp (equations_eq_iff.mp h) with he | hp
      · exact .inr (.inl he)
      · exact .inr (.inr ⟨rfl, hp⟩)
  · rintro ⟨rfl, rfl | rfl | ⟨rfl, hp⟩⟩
    · rfl
    · rfl
    · exact equations_eq_iff.mpr (equated_eq_iff.mpr (.inr hp))

theorem clause_shared_by_placeholder :
    clause ⟨"labels", .includeAll, []⟩ = clause ⟨"labels", .includeAll, ["?"]⟩ ∧
      ([] : List String) ≠ ["?"] := by
  decide

end Query

end TrackerFilter
