import TrackerFilter.Proofs.Catalog.Selection

/-!
The issue types that the fields of a catalog are valid for. A field of the tracker lists an issue type
once, however many occurrences it gathers. The status field lists one for each workflow, so it lists an
issue type again where the metadata has it again.
-/
namespace TrackerFilter

namespace CatalogField

def issueTypeIds (f : CatalogField) : List String := f.validIssueTypes.map IssueTypeRef.id

end CatalogField

section
variable {m : Option Metadata} {projects selection : List String} {g : GroupedField} {s : CatalogField}

theorem nodup_validIssueTypes (hg : g ∈ groupedFields m projects) :
    (g.validIssueTypes.map IssueTypeRef.id).Nodup := by
  obtain ⟨o, _, rfl⟩ := exists_first_of_mem_groupedFields hg
  exact nodup_map_distinctBy _ _

theorem nodup_issueTypeIds_entry (hg : g ∈ offeredFields m projects) : g.entry.issueTypeIds.Nodup :=
  nodup_validIssueTypes (mem_groupedFields_of_offered hg)

theorem issueTypeIds_addedStatus (hs : addedStatus m projects selection = some s) :
    s.issueTypeIds = workflowIds m :=
  (statusField_spec (statusField_of_addedStatus hs)).2.2.2.2

theorem exists_addedStatus :
    (∃ s, addedStatus m projects selection = some s) ↔
      AdmitsStatus m projects ∧ ∃ d, m = some d ∧ d.ReachesStatus selection := by
  simp only [addedStatus_eq_some, ← statusField_isSome, Option.isSome_iff_exists, AdmitsStatus,
    exists_and_left, and_assoc]

end

/-- The fields of a catalog list each issue type once, but for the status field. So all of them do exactly
if there is no status field in the catalog, or the metadata has one workflow for an issue type. -/
theorem issueTypeIds_distinct_iff (m : Option Metadata) (projects selection : List String) :
    (∀ f ∈ catalog m projects selection, addedStatus m projects selection ≠ some f →
        f.issueTypeIds.Nodup) ∧
      ((∀ f ∈ catalog m projects selection, f.issueTypeIds.Nodup) ↔
        (AdmitsStatus m projects → ∀ d ∈ m, d.ReachesStatus selection →
          (d.workflows.map Workflow.id).Nodup)) := by
  have hothers : ∀ f ∈ catalog m projects selection, addedStatus m projects selection ≠ some f →
      f.issueTypeIds.Nodup := by
    intro f hf hn
    obtain ⟨g, hg, rfl⟩ := (mem_catalog.mp hf).resolve_right hn
    exact nodup_issueTypeIds_entry hg
  refine ⟨hothers, ?_⟩
  constructor
  · intro h hadmits d hd hreach
    obtain ⟨s, hs⟩ := exists_addedStatus.mpr ⟨hadmits, d, hd, hreach⟩
    obtain rfl := Option.mem_def.mp hd
    have hids := h s (mem_catalog.mpr (.inr hs))
    rwa [issueTypeIds_addedStatus hs] at hids
  · intro h f hf
    by_cases hs : addedStatus m projects selection = some f
    · obtain ⟨hadmits, d, rfl, hreach⟩ := exists_addedStatus.mp ⟨f, hs⟩
      rw [issueTypeIds_addedStatus hs]
      exact h hadmits d rfl hreach
    · exact hothers f hf hs

def twiceListed : Metadata where
  projects := [⟨"KT", [⟨"1", "Bug", false, [("labels",
    ⟨none, "Labels", false, ⟨"array", none, some "string", none⟩, none⟩)]⟩]⟩]
  workflows := [⟨"1", "Bug", [⟨"3", "Open"⟩]⟩, ⟨"1", "Bug", []⟩]

theorem issueTypeIds_repeated :
    ∃ f ∈ catalog (some twiceListed) ["KT"] ["1"],
      f.issueTypeIds = ["1", "1"] ∧ ¬ f.issueTypeIds.Nodup := by
  have hs : ∃ s, addedStatus (some twiceListed) ["KT"] ["1"] = some s ∧ s.issueTypeIds = ["1", "1"] :=
    ⟨_, rfl, rfl⟩
  obtain ⟨s, hs, hids⟩ := hs
  exact ⟨s, mem_catalog.mpr (.inr hs), hids, hids ▸ by decide⟩

theorem issueTypeIds_distinct_twiceListed :
    (∀ f ∈ catalog (some twiceListed) ["KT"] ["2"], f.issueTypeIds.Nodup) ∧
      ¬ ∀ f ∈ catalog (some twiceListed) ["KT"] ["1"], f.issueTypeIds.Nodup := by
  have hadmits : AdmitsStatus (some twiceListed) ["KT"] := ⟨List.cons_ne_nil _ _, by decide⟩
  have hreach : twiceListed.ReachesStatus ["1"] := ⟨_, List.mem_cons_self, rfl, by decide⟩
  have hnone : ¬ twiceListed.ReachesStatus ["2"] := by
    rw [← Metadata.reachableStatuses_ne_nil]
    decide
  refine ⟨(issueTypeIds_distinct_iff _ _ _).2.mpr fun _ d hd hr => ?_, fun h => ?_⟩
  · obtain rfl := Option.some.inj hd
    exact absurd hr hnone
  · have hn := (issueTypeIds_distinct_iff _ _ _).2.mp h hadmits twiceListed rfl hreach
    exact absurd hn (by decide)

end TrackerFilter
