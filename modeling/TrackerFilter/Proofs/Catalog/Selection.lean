import TrackerFilter.Draft
import TrackerFilter.Proofs.Catalog.Offer
import Mathlib.Data.Fintype.EquivFin

/-!
What a catalog owes to the selected issue types: the statuses that the status field offers, and whether
there is such a field. A selection counts by its members alone. So one catalog may stand for two
selections of a project if both reach the same statuses or the status field has no room, and one may
stand for all of them only if no status is ever reached or the field has no room.
-/
namespace TrackerFilter

def reachedStatuses (m : Option Metadata) (selection : List String) : List Status :=
  match m with
  | none => []
  | some d => d.reachableStatuses selection

/-- The catalog of some projects has room for a status field: no ordinary field takes its key. -/
def AdmitsStatus (m : Option Metadata) (projects : List String) : Prop :=
  projects ≠ [] ∧ ∀ g ∈ ordinaryFields m projects, g.key ≠ SystemField.status

theorem Status.toOption_injective : Function.Injective Status.toOption := by
  intro s t h
  obtain ⟨i, n⟩ := s
  obtain ⟨j, k⟩ := t
  simpa [toOption] using h

theorem Workflow.selected_congr {selection other : List String}
    (h : ∀ id, id ∈ selection ↔ id ∈ other) (w : Workflow) :
    w.selected selection = w.selected other := by
  have he : selection = [] ↔ other = [] := by
    simp only [List.eq_nil_iff_forall_not_mem, h]
  rw [Bool.eq_iff_iff]
  simp [selected, he, h w.id]

section
variable {m : Option Metadata} {projects selection other : List String}

theorem reachedStatuses_congr (h : ∀ id, id ∈ selection ↔ id ∈ other) :
    reachedStatuses m selection = reachedStatuses m other := by
  cases m with
  | none => rfl
  | some d => simp only [reachedStatuses, Metadata.reachableStatuses, funext (Workflow.selected_congr h)]

theorem reachedStatuses_eq_nil :
    reachedStatuses m selection = [] ↔
      ∀ d ∈ m, ∀ w ∈ d.workflows, w.selected selection = true → w.statuses = [] := by
  cases m with
  | none => simp [reachedStatuses]
  | some d =>
    have h := not_congr (d.reachableStatuses_ne_nil selection)
    simpa [reachedStatuses, Metadata.ReachesStatus] using h

theorem statusField_eq_iff :
    statusField m selection = statusField m other ↔
      reachedStatuses m selection = reachedStatuses m other := by
  cases m with
  | none => simp [statusField, reachedStatuses]
  | some d =>
    simp only [statusField, reachedStatuses]
    cases hs : d.reachableStatuses selection with
    | nil => cases ho : d.reachableStatuses other <;> simp
    | cons s rest =>
      cases ho : d.reachableStatuses other with
      | nil => simp
      | cons t rest' =>
        simp [Status.toOption_injective.eq_iff, Status.toOption_injective.list_map.eq_iff]

theorem addedStatus_eq_iff :
    addedStatus m projects selection = addedStatus m projects other ↔
      (AdmitsStatus m projects → reachedStatuses m selection = reachedStatuses m other) := by
  have hadmits : AdmitsStatus m projects ↔
      ¬ (projects = [] ∨ SystemField.status ∈ (ordinaryFields m projects).map GroupedField.key) := by
    simp [AdmitsStatus]
  by_cases ha : AdmitsStatus m projects
  · rw [addedStatus, if_neg (hadmits.mp ha), addedStatus, if_neg (hadmits.mp ha), statusField_eq_iff]
    exact ⟨fun h _ => h, fun h => h ha⟩
  · have hp := not_not.mp (mt hadmits.mpr ha)
    rw [addedStatus, if_pos hp, addedStatus, if_pos hp]
    exact iff_of_true rfl fun h => absurd h ha

theorem catalog_eq_iff_addedStatus :
    catalog m projects selection = catalog m projects other ↔
      addedStatus m projects selection = addedStatus m projects other := by
  constructor
  · intro h
    have hp := (catalog_perm m projects selection).symm.trans (h ▸ catalog_perm m projects other)
    -- the fields of the tracker are the same in both, so only the status field is left to compare
    have hs := (List.perm_append_left_iff _).mp hp
    revert hs
    cases addedStatus m projects selection <;> cases addedStatus m projects other <;> simp
  · intro h
    rw [catalog_eq, catalog_eq, h]

theorem catalog_eq_iff :
    catalog m projects selection = catalog m projects other ↔
      (AdmitsStatus m projects → reachedStatuses m selection = reachedStatuses m other) :=
  catalog_eq_iff_addedStatus.trans addedStatus_eq_iff

theorem catalog_congr (h : ∀ id, id ∈ selection ↔ id ∈ other) :
    catalog m projects selection = catalog m projects other :=
  catalog_eq_iff.mpr fun _ => reachedStatuses_congr h

theorem exists_selection_without_status (m : Option Metadata) :
    ∃ selection, reachedStatuses m selection = [] := by
  obtain ⟨id, hid⟩ := Infinite.exists_notMem_finset (workflowIds m).toFinset
  refine ⟨[id], reachedStatuses_eq_nil.mpr fun d hd w hw hsel => ?_⟩
  obtain rfl := Option.mem_def.mp hd
  have hwid : w.id = id := by simpa [Workflow.selected] using hsel
  refine absurd ?_ hid
  simpa [workflowIds, ← hwid] using ⟨w, hw, rfl⟩

theorem catalog_eq_all_iff :
    (∀ selection other, catalog m projects selection = catalog m projects other) ↔
      (AdmitsStatus m projects → ∀ d ∈ m, ∀ w ∈ d.workflows, w.statuses = []) := by
  constructor
  · intro h ha
    -- no selected issue type selects all workflows, and one without a workflow selects none
    obtain ⟨hidden, hnone⟩ := exists_selection_without_status m
    have hall := (catalog_eq_iff.mp (h [] hidden) ha).trans hnone
    exact fun d hd w hw => reachedStatuses_eq_nil.mp hall d hd w hw rfl
  · intro h selection other
    refine catalog_eq_iff.mpr fun ha => ?_
    have hnil : ∀ s, reachedStatuses m s = [] := fun s =>
      reachedStatuses_eq_nil.mpr fun d hd w hw _ => h ha d hd w hw
    rw [hnil selection, hnil other]

end

namespace Subscription

/-- The catalog of a draft is that of another draft for the same projects exactly if their issue types
reach the same statuses, as far as there is room for a status field. It is that of all of them exactly if
no issue type reaches a status, or there is no room. -/
theorem catalog_shared_iff {m : Option Metadata} {f g : Subscription} (h : g.projects = f.projects) :
    (g.catalog m = f.catalog m ↔
        (AdmitsStatus m (f.projects.take 1) →
          reachedStatuses m g.issueTypes = reachedStatuses m f.issueTypes)) ∧
      ((∀ e : Subscription, e.projects = f.projects → e.catalog m = f.catalog m) ↔
        (AdmitsStatus m (f.projects.take 1) → ∀ d ∈ m, ∀ w ∈ d.workflows, w.statuses = [])) := by
  constructor
  · rw [catalog, catalog, h]
    exact catalog_eq_iff
  · rw [← catalog_eq_all_iff]
    constructor
    · intro hall selection other
      have hs := hall { f with issueTypes := selection } rfl
      have ho := hall { f with issueTypes := other } rfl
      exact hs.trans ho.symm
    · intro hall e he
      rw [catalog, catalog, he]
      exact hall e.issueTypes f.issueTypes

end Subscription

def diverselyTracked : Metadata where
  projects := [⟨"KT", [⟨"1", "Bug", false, []⟩, ⟨"2", "Task", false, []⟩, ⟨"3", "Story", false, []⟩]⟩]
  workflows := [⟨"1", "Bug", [⟨"3", "Open"⟩]⟩, ⟨"2", "Task", [⟨"4", "Done"⟩]⟩, ⟨"3", "Story", []⟩]

def bugDraft : Subscription := ⟨["event_created"], ["KT"], ["1"], []⟩

namespace Subscription

theorem catalog_depends_on_issueTypes :
    (bugDraft.withIssueTypes ["2"]).projects = bugDraft.projects ∧
      (bugDraft.withIssueTypes ["2"]).catalog (some diverselyTracked) ≠
        bugDraft.catalog (some diverselyTracked) ∧
      (bugDraft.withIssueTypes ["3"]).catalog (some diverselyTracked) ≠
        bugDraft.catalog (some diverselyTracked) := by
  decide +kernel

theorem catalog_shared_bugDraft :
    (bugDraft.withIssueTypes ["3", "1"]).projects = bugDraft.projects ∧
      (bugDraft.withIssueTypes ["3", "1"]).catalog (some diverselyTracked) =
        bugDraft.catalog (some diverselyTracked) ∧
      ¬ ∀ e : Subscription, e.projects = bugDraft.projects →
        e.catalog (some diverselyTracked) = bugDraft.catalog (some diverselyTracked) := by
  have h : (bugDraft.withIssueTypes ["3", "1"]).projects = bugDraft.projects := rfl
  have hadmits : AdmitsStatus (some diverselyTracked) (bugDraft.projects.take 1) :=
    ⟨by decide, by decide⟩
  obtain ⟨hone, hall⟩ := catalog_shared_iff (m := some diverselyTracked) h
  refine ⟨h, hone.mpr fun _ => by decide, fun he => ?_⟩
  exact absurd (hall.mp he hadmits diverselyTracked rfl) (by decide)

end Subscription

end TrackerFilter
