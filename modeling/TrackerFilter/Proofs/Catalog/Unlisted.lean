import TrackerFilter.Proofs.Catalog.Selection
import TrackerFilter.Proofs.Metadata.Traversal

/-!
The catalog of projects that the metadata does not list. Such projects have no fields, but the statuses
belong to no project: where the selected issue types reach one, the status field is on offer all the same.
-/
namespace TrackerFilter

section
variable {m : Option Metadata} {projects : List String}

theorem requestedProjects_unlisted (h : ∀ d ∈ m, ∀ p ∈ d.projects, p.key ∉ projects) :
    requestedProjects m projects = [] := by
  rw [requestedProjects, List.filterMap_eq_nil_iff]
  intro key hkey
  refine requestedProject?_eq_none.mpr (.inr fun d hd p hp hk => ?_)
  exact h d hd p hp (hk ▸ hkey)

theorem groupedFields_unlisted (h : ∀ d ∈ m, ∀ p ∈ d.projects, p.key ∉ projects) :
    groupedFields m projects = [] := by
  rw [groupedFields, occurrences_eq_flatMap, requestedProjects_unlisted h]
  rfl

theorem catalog_unlisted (h : ∀ d ∈ m, ∀ p ∈ d.projects, p.key ∉ projects) (selection : List String) :
    catalog m projects selection =
      if projects = [] then [] else (statusField m selection).toList := by
  have he : epicLinkOf m projects = none := by simp [epicLinkOf, groupedFields_unlisted h]
  have ho : ordinaryFields m projects = [] := by simp [ordinaryFields, groupedFields_unlisted h]
  rw [catalog_eq, addedStatus, he, ho]
  by_cases hp : projects = []
  · simp [hp]
  · cases statusField m selection <;> simp [hp]

theorem statusField_eq_none {selection : List String} :
    statusField m selection = none ↔ reachedStatuses m selection = [] := by
  cases m with
  | none => simp [statusField, reachedStatuses]
  | some d => cases hs : d.reachableStatuses selection <;> simp [statusField, reachedStatuses, hs]

end

/-- The catalog of projects that are not listed holds the status field and nothing else, if any project
was asked for. So it is empty exactly if none was, or if no selected issue type reaches a status; and the
same goes for the catalog of a draft whose project is not listed. -/
theorem catalog_unlisted_eq_nil_iff (m : Option Metadata) :
    (∀ projects selection : List String, (∀ d ∈ m, ∀ p ∈ d.projects, p.key ∉ projects) →
      catalog m projects selection =
          (if projects = [] then [] else (statusField m selection).toList) ∧
        (catalog m projects selection = [] ↔ projects = [] ∨
          ∀ d ∈ m, ∀ w ∈ d.workflows, w.selected selection = true → w.statuses = [])) ∧
    ∀ f : Subscription, (∀ d ∈ m, ∀ p ∈ d.projects, f.projectKey ≠ some p.key) →
      (f.catalog m = [] ↔ f.projects = [] ∨
        ∀ d ∈ m, ∀ w ∈ d.workflows, w.selected f.issueTypes = true → w.statuses = []) := by
  have hnil : ∀ projects selection : List String, (∀ d ∈ m, ∀ p ∈ d.projects, p.key ∉ projects) →
      (catalog m projects selection = [] ↔ projects = [] ∨
        ∀ d ∈ m, ∀ w ∈ d.workflows, w.selected selection = true → w.statuses = []) := by
    intro projects selection h
    rw [catalog_unlisted h, ← reachedStatuses_eq_nil, ← statusField_eq_none]
    by_cases hp : projects = [] <;> simp [hp]
  refine ⟨fun projects selection h => ⟨catalog_unlisted h selection, hnil projects selection h⟩, ?_⟩
  intro f h
  have hkey : ∀ d ∈ m, ∀ p ∈ d.projects, p.key ∉ f.projects.take 1 := by
    intro d hd p hp hm
    refine h d hd p hp ?_
    cases hf : f.projects with
    | nil => simp [hf] at hm
    | cons key rest =>
      rw [hf, List.take_succ_cons, List.take_zero, List.mem_singleton] at hm
      rw [Subscription.projectKey, hf, List.head?_cons, hm]
  rw [Subscription.catalog, hnil _ _ hkey]
  simp

theorem catalog_of_unlisted_ne_nil :
    (∀ p ∈ diverselyTracked.projects, p.key ∉ ["GONE"]) ∧
      catalog (some diverselyTracked) ["GONE"] ["1"] ≠ [] ∧
      { bugDraft with projects := ["GONE"] }.catalog (some diverselyTracked) ≠ [] := by
  decide +kernel

theorem catalog_unlisted_storyDraft :
    (∀ d ∈ some diverselyTracked, ∀ p ∈ d.projects, p.key ∉ ["GONE", "LOST"]) ∧
      catalog (some diverselyTracked) ["GONE", "LOST"] ["3"] = [] ∧
      { bugDraft with projects := ["GONE", "KT"] }.catalog (some diverselyTracked) ≠ [] := by
  obtain ⟨hc, hf⟩ := catalog_unlisted_eq_nil_iff (some diverselyTracked)
  have h : ∀ d ∈ some diverselyTracked, ∀ p ∈ d.projects, p.key ∉ ["GONE", "LOST"] := by decide
  have hk : ∀ d ∈ some diverselyTracked, ∀ p ∈ d.projects,
      { bugDraft with projects := ["GONE", "KT"] }.projectKey ≠ some p.key := by decide
  refine ⟨h, (hc _ _ h).2.mpr (.inr (by decide)), fun hn => ?_⟩
  rcases (hf _ hk).mp hn with hp | hs
  · exact absurd hp (by decide)
  · exact absurd hs (by decide)

end TrackerFilter
