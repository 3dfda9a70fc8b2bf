import TrackerFilter.Proofs.Query.Conditions
import TrackerFilter.Proofs.Query.Length

/-!
The operands of equations. A value stands bare where it is a word, and else between quotes, where it is
read back whatever it holds. The empty value alone stands bare without being a word, and leaves its
equation without an operand.
-/
namespace TrackerFilter

namespace Text

structure IsBareWord (text : String) : Prop where
  nonempty : text ≠ ""
  unbroken : ∀ c ∈ text.toList, isBlank c = false ∧ c ≠ '"'

/-- Between quotes, a text that is read as the value: a backslash takes the next character as it is, and
no other quote stands without one. -/
def IsLiteral (text value : String) : Prop :=
  ∃ inner, text.toList = '"' :: (inner ++ ['"']) ∧ unescape inner = some value.toList

def IsOperand (text value : String) : Prop := text = value ∧ IsBareWord text ∨ IsLiteral text value

theorem isLiteral_quoted (value : String) : IsLiteral (quoted value) value :=
  ⟨escape value.toList, by simp [quoted], unescape_escape value.toList⟩

theorem isBareWord_of_bare {value : String} (hne : value ≠ "") (h : needsQuotes value = false) :
    IsBareWord value where
  nonempty := hne
  unbroken := by
    intro c hc
    simpa using List.any_eq_false.mp h c hc

theorem IsOperand.length_pos {text value : String} (h : IsOperand text value) : 0 < text.length := by
  rcases h with ⟨-, hw⟩ | ⟨inner, hi, -⟩
  · exact Nat.pos_of_ne_zero fun h0 => hw.nonempty (String.length_eq_zero_iff.mp h0)
  · simp [← String.length_toList, hi]

theorem isOperand_quotedIfNeeded_iff {value : String} :
    IsOperand (quotedIfNeeded value) value ↔ value ≠ "" := by
  constructor
  · rintro h rfl
    exact absurd h.length_pos (by decide)
  · intro hne
    cases hq : needsQuotes value with
    | false =>
      rw [quotedIfNeeded, hq, if_neg Bool.false_ne_true]
      exact .inl ⟨rfl, isBareWord_of_bare hne hq⟩
    | true =>
      rw [quotedIfNeeded, hq, if_pos rfl]
      exact .inr (isLiteral_quoted value)

theorem length_le_length_escape (s : List Char) : s.length ≤ (escape s).length := by
  induction s with
  | nil => exact Nat.le_refl 0
  | cons c rest ih =>
    rw [escape]
    split <;> simp only [List.length_cons] <;> omega

theorem length_escape_le {t s : List Char} (h : unescape t = some s) : (escape s).length ≤ t.length := by
  fun_induction unescape t generalizing s with
  | case1 =>
    obtain rfl : s = [] := by simpa using h.symm
    exact Nat.le_refl 0
  | case2 c rest ih =>
    obtain ⟨u, hu, rfl⟩ := Option.map_eq_some_iff.mp h
    have hle := ih hu
    rw [escape]
    split <;> simp only [List.length_cons] <;> omega
  | case3 => simp at h
  | case4 c rest _ hc ih =>
    obtain ⟨u, hu, rfl⟩ := Option.map_eq_some_iff.mp h
    have hle := ih hu
    rw [escape, if_neg hc]
    simpa using hle

/-- A value takes no more room in an equation than an operand for it. -/
theorem IsOperand.length_quotedIfNeeded_le {text value : String} (h : IsOperand text value) :
    (quotedIfNeeded value).length ≤ text.length := by
  rcases h with ⟨rfl, hw⟩ | ⟨inner, hi, hv⟩
  · have hq : needsQuotes text = false :=
      List.any_eq_false.mpr fun c hc => by simpa using hw.unbroken c hc
    rw [quotedIfNeeded, hq, if_neg Bool.false_ne_true]
  · have hescape := length_escape_le hv
    have hplain := length_le_length_escape value.toList
    have htext : text.length = inner.length + 2 := by
      simp [← String.length_toList, hi]
    have hquoted : (quoted value).length = (escape value.toList).length + 2 := by
      simp [← String.length_toList, quoted]
    rw [String.length_toList] at hplain
    rw [quotedIfNeeded]
    split <;> omega

end Text

namespace Query

def AreEquations (key : String) (values : List String) (text : String) : Prop :=
  ∃ operands, List.Forall₂ Text.IsOperand operands values ∧
    text = conjunction (operands.map fun t => key ++ " = " ++ t)

def equationsRoom (key : String) (sides : List String) : Nat :=
  (sides.map fun t => (key ++ " = " ++ t).length + " AND ".length).sum

theorem equationsRoom_eq {key : String} {sides : List String} (h : sides ≠ []) :
    equationsRoom key sides =
      (conjunction (sides.map fun t => key ++ " = " ++ t)).length + " AND ".length := by
  rw [conjunction, Text.length_intercalate_add _ (mt List.map_eq_nil_iff.mp h), List.map_map]
  rfl

theorem equationsRoom_operands {key : String} {operands values : List String}
    (h : List.Forall₂ Text.IsOperand operands values) :
    equationsRoom key (values.map Text.quotedIfNeeded) ≤ equationsRoom key operands ∧
      ("" ∈ values →
        equationsRoom key (values.map Text.quotedIfNeeded) < equationsRoom key operands) := by
  induction h with
  | nil => exact ⟨Nat.le_refl _, by simp⟩
  | @cons t v ts vs ht _ ih =>
    obtain ⟨hle, hlt⟩ := ih
    have hfirst := ht.length_quotedIfNeeded_le
    simp only [equationsRoom, List.map_cons, List.sum_cons, String.length_append] at hle hlt ⊢
    refine ⟨by omega, fun hm => ?_⟩
    rcases List.mem_cons.mp hm with rfl | hm
    · have hpos := ht.length_pos
      have hbare : (Text.quotedIfNeeded "").length = 0 := by decide
      omega
    · have hrest := hlt hm
      omega

theorem areEquations_equations_iff {key : String} {values : List String} (hne : values ≠ []) :
    AreEquations key values (equations key values) ↔ "" ∉ values := by
  have htext : equations key values =
      conjunction ((values.map Text.quotedIfNeeded).map fun t => key ++ " = " ++ t) := by
    obtain ⟨v, vs, rfl⟩ := List.exists_cons_of_ne_nil hne
    rw [List.map_map]
    rfl
  constructor
  · rintro ⟨operands, hall, ho⟩ hempty
    have hone : operands ≠ [] := by
      rintro rfl
      exact hne (List.forall₂_nil_left_iff.mp hall)
    have hlt : equationsRoom key (values.map Text.quotedIfNeeded) < equationsRoom key operands :=
      (equationsRoom_operands hall).2 hempty
    rw [equationsRoom_eq (mt List.map_eq_nil_iff.mp hne), equationsRoom_eq hone, ← htext, ← ho] at hlt
    exact Nat.lt_irrefl _ hlt
  · intro h
    refine ⟨values.map Text.quotedIfNeeded, ?_, htext⟩
    rw [List.forall₂_map_left_iff, List.forall₂_same]
    intro v hv
    exact Text.isOperand_quotedIfNeeded_iff.mpr fun he => h (he ▸ hv)

/-- A value is written as an operand unless it is empty, and the clause for all of some values gives each
equation its operand unless one of them is. -/
theorem operands_complete_iff (key value : String) (rest : List String) :
    (Text.IsOperand (Text.quotedIfNeeded value) value ↔ value ≠ "") ∧
      (AreEquations key (value :: rest) (clause ⟨key, .includeAll, value :: rest⟩) ↔
        "" ∉ value :: rest) :=
  ⟨Text.isOperand_quotedIfNeeded_iff, areEquations_equations_iff (List.cons_ne_nil _ _)⟩

theorem empty_value_without_operand :
    clause ⟨"labels", .includeAll, ["", "b"]⟩ = "labels =  AND labels = b" ∧
      ¬ Text.IsOperand (Text.quotedIfNeeded "") "" :=
  ⟨by decide, fun h => absurd h.length_pos (by decide)⟩

end Query

end TrackerFilter
