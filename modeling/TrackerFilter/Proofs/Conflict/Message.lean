import TrackerFilter.Proofs.Conflict.Addition

/-!
The message on a conflict. It names the first field of the catalog that a filter is set on and that some
chosen issue type lacks, and after it all chosen issue types that lack this field. Of the filters only
their keys count, and a conflict stays where issue types or filters are added.
-/
namespace TrackerFilter

/-- What an id is called: the name of the last issue type that has it, or the id where none has. -/
def lastName (issueTypes : List IssueType) (id : String) : String :=
  ((issueTypes.filter fun t => t.id = id).getLast?.map IssueType.name).getD id

/-- A filter is set on the field and some chosen issue type lacks it, and no field that stands before it
in the catalog is like that. -/
structure FirstToFail (fields : List CatalogField) (filters : List FieldFilter) (chosen : List String)
    (f : CatalogField) : Prop where
  place : ∃ before after, fields = before ++ f :: after ∧ Compatible before filters chosen
  filtered : f.IsFiltered filters
  lacked : ∃ id ∈ chosen, f.carries id = false

section
variable {fields : List CatalogField} {issueTypes : List IssueType} {filters others : List FieldFilter}
  {chosen : List String} {f : CatalogField} {text : String}

theorem name_resolve (issueTypes : List IssueType) (id : String) :
    (resolve issueTypes id).name = lastName issueTypes id := by
  rw [lastName, List.getLast?_filter, resolve]
  cases issueTypes.reverse.find? fun t => t.id = id <;> rfl

theorem lackingFields_eq_nil :
    lackingFields fields filters chosen = [] ↔ Compatible fields filters chosen := by
  simp [lackingFields, Compatible, CatalogField.IsFiltered]

theorem head?_lackingFields :
    (lackingFields fields filters chosen).head? = some f ↔ FirstToFail fields filters chosen f := by
  rw [lackingFields, List.head?_filter, List.find?_eq_some_iff_append]
  constructor
  · intro h
    obtain ⟨hf, before, after, rfl, hbefore⟩ := h
    simp only [Bool.and_eq_true, List.any_eq_true, Bool.not_eq_true', decide_eq_true_eq] at hf
    obtain ⟨hfiltered, hlacked⟩ := hf
    refine ⟨⟨before, after, rfl, ?_⟩, hfiltered, hlacked⟩
    -- the search has gone past the fields before, so none of them is lacking
    rw [← lackingFields_eq_nil, lackingFields, List.filter_eq_nil_iff]
    intro g hg
    have hg' := hbefore g hg
    rwa [Bool.not_eq_true', Bool.eq_false_iff] at hg'
  · intro h
    obtain ⟨⟨before, after, rfl, hbefore⟩, hfiltered, hlacked⟩ := h
    rw [← lackingFields_eq_nil, lackingFields, List.filter_eq_nil_iff] at hbefore
    refine ⟨?_, before, after, rfl, fun g hg => ?_⟩
    · simp only [Bool.and_eq_true, List.any_eq_true, Bool.not_eq_true', decide_eq_true_eq]
      exact ⟨hfiltered, hlacked⟩
    · rw [Bool.not_eq_true', Bool.eq_false_iff]
      exact hbefore g hg

theorem Conflict.first?_eq_map :
    Conflict.first? fields issueTypes chosen filters =
      (lackingFields fields filters chosen).head?.map fun f => ⟨f, f.lacking issueTypes chosen⟩ := by
  rw [Conflict.first?, conflicts_configured_eq_map, List.head?_map]

theorem CatalogField.names_lacking (f : CatalogField) (issueTypes : List IssueType)
    (chosen : List String) :
    (f.lacking issueTypes chosen).map IssueTypeRef.name =
      (chosen.filter fun id => !f.carries id).map (lastName issueTypes) := by
  rw [CatalogField.lacking, List.map_map]
  exact List.map_congr_left fun id _ => name_resolve issueTypes id

theorem Conflict.message_eq_some :
    (Conflict.first? fields issueTypes chosen filters).map Conflict.message = some text ↔
      ∃ f, FirstToFail fields filters chosen f ∧
        text = f.name ++ " does not exist for issue type(s): " ++ ", ".intercalate
          ((chosen.filter fun id => !f.carries id).map (lastName issueTypes)) ++ "." := by
  simp only [Conflict.first?_eq_map, Option.map_map, Option.map_eq_some_iff, head?_lackingFields,
    Function.comp_apply, Conflict.message, CatalogField.names_lacking, eq_comm (b := text)]

theorem Conflict.first?_congr
    (h : ∀ key, key ∈ others.map FieldFilter.key ↔ key ∈ filters.map FieldFilter.key) :
    Conflict.first? fields issueTypes chosen others =
      Conflict.first? fields issueTypes chosen filters := by
  have hc : configured fields others = configured fields filters :=
    configured_congr fun f _ => by simpa [CatalogField.IsFiltered] using h f.key
  rw [Conflict.first?, Conflict.first?, hc]

/-- There is no conflict exactly if every field that filters are set on is carried by all chosen issue
types. Otherwise the message names the first field that is not, and in the order in which they were
chosen the issue types that lack it. More issue types or filters never end a conflict, and filters with
the same keys give the same answer. -/
theorem conflict_message_iff (fields : List CatalogField) (issueTypes : List IssueType)
    (chosen : List String) (filters : List FieldFilter) :
    (Conflict.first? fields issueTypes chosen filters = none ↔
        ∀ f ∈ fields, (∃ v ∈ filters, v.key = f.key) → ∀ id ∈ chosen, f.carries id = true) ∧
      (∀ text, (Conflict.first? fields issueTypes chosen filters).map Conflict.message = some text ↔
        ∃ f, FirstToFail fields filters chosen f ∧
          text = f.name ++ " does not exist for issue type(s): " ++ ", ".intercalate
            ((chosen.filter fun id => !f.carries id).map (lastName issueTypes)) ++ ".") ∧
      (∀ selection others, (∀ id ∈ chosen, id ∈ selection) → (∀ v ∈ filters, v ∈ others) →
        Conflict.first? fields issueTypes chosen filters ≠ none →
        Conflict.first? fields issueTypes selection others ≠ none) ∧
      ∀ others : List FieldFilter,
        (∀ key, key ∈ others.map FieldFilter.key ↔ key ∈ filters.map FieldFilter.key) →
        Conflict.first? fields issueTypes chosen others =
          Conflict.first? fields issueTypes chosen filters := by
  refine ⟨Conflict.first?_eq_none, fun _ => Conflict.message_eq_some, ?_,
    fun _ => Conflict.first?_congr⟩
  intro selection others hs hv hc hn
  have hall := Conflict.first?_eq_none.mp hn
  exact hc (Conflict.first?_eq_none.mpr (hall.mono hv hs))

end

def renamedIssueTypes : List IssueType := threeIssueTypes ++ [⟨"2", "Chore", false, []⟩]

theorem conflict_message_crossedFields :
    (Conflict.first? crossedFields renamedIssueTypes ["2", "1", "2"] [betaFilter, alphaFilter]).map
        Conflict.message = some "Beta does not exist for issue type(s): Chore, Chore." ∧
      Conflict.first? crossedFields renamedIssueTypes ["1", "2"] [alphaFilter] = none ∧
      Conflict.first? crossedFields renamedIssueTypes ["1", "2", "4"] [alphaFilter, betaFilter] ≠ none ∧
      Conflict.first? crossedFields renamedIssueTypes ["1", "2"]
          [alphaFilter, ⟨"b", .empty, []⟩, alphaFilter] =
        Conflict.first? crossedFields renamedIssueTypes ["1", "2"] [betaFilter, alphaFilter] := by
  have hbeta : FirstToFail crossedFields [betaFilter, alphaFilter] ["2", "1", "2"]
      ⟨"b", "Beta", Schema.plain, .enumerated, [], false, [⟨"1", "Bug"⟩, ⟨"3", "Story"⟩]⟩ := by
    refine ⟨⟨crossedFields.take 1, [], rfl, ?_⟩, ⟨betaFilter, by decide, rfl⟩, "2", by decide, by decide⟩
    exact lackingFields_eq_nil.mp (by decide)
  have htext := conflict_message_iff crossedFields renamedIssueTypes ["2", "1", "2"]
    [betaFilter, alphaFilter]
  have halpha := conflict_message_iff crossedFields renamedIssueTypes ["1", "2"] [alphaFilter]
  have hboth := conflict_message_iff crossedFields renamedIssueTypes ["1", "2"]
    [betaFilter, alphaFilter]
  refine ⟨(htext.2.1 _).mpr ⟨_, hbeta, by decide⟩, halpha.1.mpr (by decide), ?_, ?_⟩
  · exact hboth.2.2.1 _ _ (by decide) (by decide) (by decide)
  · refine hboth.2.2.2 _ fun key => ?_
    simp [alphaFilter, betaFilter, or_comm]

end TrackerFilter
