import TrackerFilter.Proofs.Catalog.Keys
import TrackerFilter.Proofs.Draft.Save

/-!
Which filters saving drops: those whose field the catalog does not offer. Of the fields that the tracker
still has, these are the epic links after the first, and the status field where the selected issue types
reach no status.
-/
namespace TrackerFilter

namespace Subscription

def Filters (f : Subscription) (key : String) : Prop := ∃ v ∈ f.fields, v.key = key

def ReachesStatus (m : Option Metadata) (f : Subscription) : Prop :=
  ∃ d, m = some d ∧ d.ReachesStatus f.issueTypes

section
variable {m : Option Metadata} {f : Subscription} {b : Bool} {a : Acceptance} {key : String}
  {g : GroupedField}

theorem mem_removed (hs : f.save m b = .ok a) :
    key ∈ a.removed ↔ f.Filters key ∧ findField (f.catalog m) key = none := by
  obtain ⟨_, _, rfl⟩ := save_eq_ok.mp hs
  simp only [accepted, Gate.accept, Gate.screened, List.mem_map, List.mem_filter,
    Option.isNone_iff_eq_none, Filters]
  constructor
  · intro h
    obtain ⟨v, ⟨hv, hn⟩, rfl⟩ := h
    exact ⟨⟨v, hv, rfl⟩, hn⟩
  · intro h
    obtain ⟨⟨v, hv, rfl⟩, hn⟩ := h
    exact ⟨v, ⟨hv, hn⟩, rfl⟩

theorem projects_take_ne_nil (h : f.Complete m b) : f.projects.take 1 ≠ [] := by
  obtain ⟨key, hk, _⟩ := h.project
  rw [take_projects hk]
  exact List.cons_ne_nil key []

theorem findField_status_eq_none (h : f.Complete m b)
    (hn : ∀ o ∈ offeredFields m (f.projects.take 1), o.key ≠ SystemField.status) :
    findField (f.catalog m) SystemField.status = none ↔ ¬ ReachesStatus m f := by
  have hord : ∀ o ∈ ordinaryFields m (f.projects.take 1), o.key ≠ SystemField.status := fun o ho =>
    hn o (List.mem_append_right _ ho)
  rw [catalog, findField_eq_none, ReachesStatus, ← statusField_isSome, Option.not_isSome_iff_eq_none,
    Option.eq_none_iff_forall_ne_some]
  constructor
  · intro hst s hs
    refine hst.2 s (addedStatus_eq_some.mpr ⟨projects_take_ne_nil h, hord, hs⟩) (key_statusField hs)
  · exact fun hst => ⟨hn, fun s hs => absurd (statusField_of_addedStatus hs) (hst s)⟩

theorem findField_living_eq_none (h : f.Complete m b)
    (hg : g ∈ groupedFields m (f.projects.take 1)) :
    findField (f.catalog m) g.key = none ↔ g ∉ offeredFields m (f.projects.take 1) ∧
      (g.key = SystemField.status → ¬ ReachesStatus m f) := by
  constructor
  · intro hnone
    have hno : g ∉ offeredFields m (f.projects.take 1) := by
      intro ho
      rw [catalog, findField_offered ho] at hnone
      exact Option.some_ne_none _ hnone
    refine ⟨hno, fun hk => (findField_status_eq_none h ?_).mp (hk ▸ hnone)⟩
    exact fun o ho => hk ▸ offered_key_ne hg hno o ho
  · intro h'
    obtain ⟨hno, hst⟩ := h'
    have hkey := offered_key_ne hg hno
    by_cases hk : g.key = SystemField.status
    · rw [hk] at hkey ⊢
      exact (findField_status_eq_none h hkey).mpr (hst hk)
    · refine findField_eq_none.mpr ⟨hkey, fun s hs he => hk ?_⟩
      exact he.symm.trans (key_addedStatus hs)

/-- A filter on a field that the tracker still has is dropped exactly if the field is an epic link after
the first and, where it has the key of the status field, the selected issue types reach no status; and a
filter on the status field, if no field on offer has its key and they reach no status. -/
theorem removed_living_iff (hs : f.save m b = .ok a) :
    (∀ g ∈ groupedFields m (f.projects.take 1), g.descriptor.kind ≠ .unsupported →
      (g.key ∈ a.removed ↔ f.Filters g.key ∧
        (g.isEpicLink = true ∧ epicLinkOf m (f.projects.take 1) ≠ some g) ∧
        (g.key = SystemField.status → ¬ ReachesStatus m f))) ∧
    (SystemField.status ∈ a.removed ↔ f.Filters SystemField.status ∧
      (∀ o ∈ offeredFields m (f.projects.take 1), o.key ≠ SystemField.status) ∧
      ¬ ReachesStatus m f) := by
  have hc := (save_eq_ok.mp hs).1
  constructor
  · intro g hg hk
    rw [mem_removed hs, findField_living_eq_none hc hg, notMem_offeredFields_iff hg hk]
  · rw [mem_removed hs]
    refine and_congr_right fun _ => ⟨fun hnone => ?_, fun h => ?_⟩
    · have hno := (findField_eq_none.mp hnone).1
      exact ⟨hno, (findField_status_eq_none hc hno).mp hnone⟩
    · exact (findField_status_eq_none hc h.1).mpr h.2

end

def doublyLinked : Metadata where
  projects := [⟨"KT", [⟨"1", "Bug", false, [
    ("e1", ⟨some "e1", "Epic Link", false, ⟨"any", some CustomType.epicLink, none, none⟩, none⟩),
    ("e2", ⟨some "e2", "Parent Link", false, ⟨"any", some CustomType.epicLink, none, none⟩, none⟩)]⟩]⟩]
  workflows := [⟨"1", "Bug", []⟩, ⟨"2", "Task", [⟨"3", "Open"⟩]⟩]

def livingDraft : Subscription :=
  ⟨["event_created"], ["KT"], ["1"], [⟨"status", .includeAny, ["3"]⟩, ⟨"e2", .includeAny, ["KT-1"]⟩]⟩

theorem living_filters_removed :
    (livingDraft.save (some doublyLinked) false).map Acceptance.removed = .ok ["status", "e2"] ∧
      (∃ g ∈ groupedFields (some doublyLinked) (livingDraft.projects.take 1),
        g.key = "e2" ∧ g.descriptor.kind ≠ .unsupported) ∧
      ∃ w ∈ doublyLinked.workflows, w.statuses ≠ [] := by
  decide +kernel

theorem removed_living_livingDraft :
    livingDraft.save (some doublyLinked) false =
        .ok (livingDraft.accepted (some doublyLinked) false) ∧
      SystemField.status ∈ (livingDraft.accepted (some doublyLinked) false).removed := by
  have hs : livingDraft.save (some doublyLinked) false =
      .ok (livingDraft.accepted (some doublyLinked) false) := by decide +kernel
  refine ⟨hs, (removed_living_iff hs).2.2 ⟨⟨_, List.mem_cons_self, rfl⟩, ?_, ?_⟩⟩
  · decide +kernel
  · intro hr
    obtain ⟨d, hd, w, hw, hsel, hst⟩ := hr
    obtain rfl := Option.some.inj hd
    have hw' : ∀ w ∈ doublyLinked.workflows, w.selected livingDraft.issueTypes = true →
        w.statuses = [] := by decide
    exact hst (hw' w hw hsel)

end Subscription

end TrackerFilter
