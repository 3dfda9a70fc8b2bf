import TrackerFilter.Conflict

/-!
When filters and issue types are compatible: every field of the catalog that some filter names is carried
by all of the issue types. Both ways of looking for a conflict decide this, for the chosen issue types or
for the added ones.
-/
namespace TrackerFilter

def CatalogField.IsFiltered (filters : List FieldFilter) (f : CatalogField) : Prop :=
  ∃ v ∈ filters, v.key = f.key

def Compatible (fields : List CatalogField) (filters : List FieldFilter) (chosen : List String) : Prop :=
  ∀ f ∈ fields, f.IsFiltered filters → ∀ id ∈ chosen, f.carries id = true

theorem Compatible.mono {fields : List CatalogField} {filters others : List FieldFilter}
    {chosen selection : List String} (h : Compatible fields filters chosen)
    (hv : ∀ v ∈ others, v ∈ filters) (hs : ∀ id ∈ selection, id ∈ chosen) :
    Compatible fields others selection := by
  intro f hf hfil id hid
  obtain ⟨v, hmem, hk⟩ := hfil
  exact h f hf ⟨v, hv v hmem, hk⟩ id (hs id hid)

theorem Compatible.of_subset {fields : List CatalogField} {filters : List FieldFilter}
    {chosen selection : List String} (h : Compatible fields filters chosen)
    (hs : ∀ id ∈ selection, id ∈ chosen) : Compatible fields filters selection :=
  h.mono (fun _ hv => hv) hs

section
variable {fields : List CatalogField} {filters : List FieldFilter} {issueTypes : List IssueType}
  {chosen previous current : List String} {f : CatalogField} {c : Conflict}

theorem mem_added {id : String} : id ∈ added previous current ↔ id ∈ current ∧ id ∉ previous := by
  simp [added]

/-- Where the old issue types are in no conflict, only the added ones can be. -/
theorem Compatible.of_added (h : Compatible fields filters previous)
    (ha : Compatible fields filters (added previous current)) : Compatible fields filters current := by
  intro f hf hfil id hid
  by_cases ho : id ∈ previous
  · exact h f hf hfil id ho
  · exact ha f hf hfil id (mem_added.mpr ⟨hid, ho⟩)

theorem mem_configured : f ∈ configured fields filters ↔ f ∈ fields ∧ f.IsFiltered filters := by
  simp [configured, CatalogField.IsFiltered]

theorem CatalogField.lacking_eq_nil (f : CatalogField) (issueTypes : List IssueType)
    (chosen : List String) : f.lacking issueTypes chosen = [] ↔ ∀ id ∈ chosen, f.carries id = true := by
  simp [CatalogField.lacking]

theorem mem_conflicts :
    c ∈ conflicts fields chosen issueTypes ↔
      c.field ∈ fields ∧ c.lacking = c.field.lacking issueTypes chosen ∧ c.lacking ≠ [] := by
  simp only [conflicts, List.mem_filterMap]
  constructor
  · intro h
    obtain ⟨f, hf, he⟩ := h
    cases hl : f.lacking issueTypes chosen with
    | nil => simp [hl] at he
    | cons t rest =>
      simp only [hl, Option.some.injEq] at he
      subst he
      exact ⟨hf, hl.symm, List.cons_ne_nil t rest⟩
  · intro h
    obtain ⟨hf, hl, hn⟩ := h
    refine ⟨c.field, hf, ?_⟩
    obtain ⟨f, lacking⟩ := c
    obtain ⟨t, rest, rfl⟩ := List.exists_cons_of_ne_nil hn
    rw [← hl]

theorem conflicts_eq_nil :
    conflicts fields chosen issueTypes = [] ↔ ∀ f ∈ fields, ∀ id ∈ chosen, f.carries id = true := by
  simp only [conflicts, List.filterMap_eq_nil_iff]
  refine forall₂_congr fun f _ => ?_
  rw [← f.lacking_eq_nil issueTypes chosen]
  cases f.lacking issueTypes chosen <;> simp

theorem conflicts_configured_eq_nil (fields : List CatalogField) (issueTypes : List IssueType)
    (filters : List FieldFilter) (chosen : List String) :
    conflicts (configured fields filters) chosen issueTypes = [] ↔
      Compatible fields filters chosen := by
  simp only [conflicts_eq_nil, mem_configured, Compatible, and_imp]

theorem Conflict.first?_eq_none :
    Conflict.first? fields issueTypes chosen filters = none ↔ Compatible fields filters chosen := by
  rw [Conflict.first?, List.head?_eq_none_iff, conflicts_configured_eq_nil]

theorem AdditionConflict.find?_eq_none :
    AdditionConflict.find? fields issueTypes previous current filters = none ↔
      Compatible fields filters (added previous current) := by
  rw [AdditionConflict.find?, ← conflicts_configured_eq_nil _ issueTypes]
  cases h : conflicts (configured fields filters) (added previous current) issueTypes with
  | nil => simp [AdditionConflict.ofConflicts]
  | cons c rest =>
    have hc : c ∈ conflicts (configured fields filters) (added previous current) issueTypes := by
      simp [h]
    simpa [AdditionConflict.ofConflicts] using (mem_conflicts.mp hc).2.2

theorem configured_congr {others : List FieldFilter}
    (h : ∀ f ∈ fields, f.IsFiltered filters ↔ f.IsFiltered others) :
    configured fields filters = configured fields others := by
  refine List.filter_congr fun f hf => ?_
  have hb := h f hf
  simp only [CatalogField.IsFiltered] at hb
  rw [Bool.eq_iff_iff]
  simpa using hb

/-- Where the old issue types are in no conflict, the added ones are in one exactly if the new ones are.
Whatever the old ones are in, the added ones are in a conflict only if the new ones are. -/
theorem addition_eq_none_iff (fields : List CatalogField) (issueTypes : List IssueType)
    (filters : List FieldFilter) (previous current : List String) :
    (Conflict.first? fields issueTypes previous filters = none →
        (AdditionConflict.find? fields issueTypes previous current filters = none ↔
          Conflict.first? fields issueTypes current filters = none)) ∧
      (Conflict.first? fields issueTypes current filters = none →
        AdditionConflict.find? fields issueTypes previous current filters = none) := by
  simp only [Conflict.first?_eq_none, AdditionConflict.find?_eq_none]
  have hadded : Compatible fields filters current → Compatible fields filters (added previous current) :=
    fun h => h.mono (fun _ hv => hv) fun id hid => (mem_added.mp hid).1
  exact ⟨fun hp => ⟨hp.of_added, hadded⟩, hadded⟩

end

def crossedFields : List CatalogField := [
  ⟨"a", "Alpha", Schema.plain, .enumerated, [], false, [⟨"1", "Bug"⟩, ⟨"2", "Task"⟩]⟩,
  ⟨"b", "Beta", Schema.plain, .enumerated, [], false, [⟨"1", "Bug"⟩, ⟨"3", "Story"⟩]⟩]

def threeIssueTypes : List IssueType :=
  [⟨"1", "Bug", false, []⟩, ⟨"2", "Task", false, []⟩, ⟨"3", "Story", false, []⟩]

def alphaFilter : FieldFilter := ⟨"a", .includeAny, ["x"]⟩
def betaFilter : FieldFilter := ⟨"b", .excludeAny, ["y"]⟩

theorem addition_eq_none_alphaFilter :
    Conflict.first? crossedFields threeIssueTypes ["1", "1"] [alphaFilter] = none ∧
      AdditionConflict.find? crossedFields threeIssueTypes ["1", "1"] ["2", "1", "2"] [alphaFilter] = none ∧
      Conflict.first? crossedFields threeIssueTypes ["2", "1", "2"] [alphaFilter] = none ∧
      AdditionConflict.find? crossedFields threeIssueTypes ["1", "1"] ["3", "2"] [alphaFilter] ≠ none := by
  have hp : Conflict.first? crossedFields threeIssueTypes ["1", "1"] [alphaFilter] = none := by decide
  have hn : Conflict.first? crossedFields threeIssueTypes ["2", "1", "2"] [alphaFilter] = none := by
    decide
  have hc : Conflict.first? crossedFields threeIssueTypes ["3", "2"] [alphaFilter] ≠ none := by decide
  refine ⟨hp, (addition_eq_none_iff _ _ _ _ _).2 hn, hn, fun ha => hc ?_⟩
  exact ((addition_eq_none_iff _ _ _ _ _).1 hp).mp ha

end TrackerFilter
