import TrackerFilter.Proofs.Catalog.Keys
import TrackerFilter.Proofs.Draft.Save

/-!
Changes of the issue types of a draft. A change is checked against the catalog of the old selection, and
saving looks at the catalog of the new one. The fields of the tracker are the same in both, so a checked
change never sets them in conflict; the status field may be in the second only, and then the check has
not seen it.
-/
namespace TrackerFilter

theorem compatible_catalog {m : Option Metadata} {projects selection chosen : List String}
    {filters : List FieldFilter} :
    Compatible (catalog m projects selection) filters chosen ↔
      Compatible ((offeredFields m projects).map GroupedField.entry) filters chosen ∧
        ∀ s, addedStatus m projects selection = some s → s.IsFiltered filters →
          ∀ id ∈ chosen, s.carries id = true := by
  constructor
  · intro h
    refine ⟨fun f hf => h f (mem_catalog.mpr (.inl (List.mem_map.mp hf))), ?_⟩
    exact fun s hs => h s (mem_catalog.mpr (.inr hs))
  · intro h f hf
    obtain ⟨ho, hst⟩ := h
    rcases mem_catalog.mp hf with hg | hs
    · exact ho f (List.mem_map.mpr hg)
    · exact hst f hs

namespace Subscription

def checkedFor (f : Subscription) (selection : List String) : List String :=
  if f.issueTypes.length < selection.length then added f.issueTypes selection else selection

theorem objection_eq_none {m : Option Metadata} {f : Subscription} {selection : List String} :
    f.objection m selection = none ↔
      Compatible (f.catalog m) f.fields (f.checkedFor selection) := by
  by_cases h : f.issueTypes.length < selection.length
  · simp [objection, checkedFor, h, AdditionConflict.find?_eq_none]
  · simp [objection, checkedFor, h, Conflict.first?_eq_none]

theorem compatible_of_checked {fields : List CatalogField} {f : Subscription} {selection : List String}
    (h : Compatible fields f.fields f.issueTypes)
    (hc : Compatible fields f.fields (f.checkedFor selection)) :
    Compatible fields f.fields selection := by
  by_cases hl : f.issueTypes.length < selection.length
  · rw [checkedFor, if_pos hl] at hc
    exact h.of_added hc
  · rwa [checkedFor, if_neg hl] at hc

/-- The drafts that checked changes of the issue types lead to, each checked against the one before. -/
inductive Reselected (m : Option Metadata) (f : Subscription) : Subscription → Prop
  | refl : Reselected m f f
  | step {g : Subscription} (h : Reselected m f g) (selection : List String)
      (hs : g.objection m selection = none) : Reselected m f (g.withIssueTypes selection)

/-- A filter is set on the status field of the catalog, and a selected issue type has no workflow. -/
structure StatusClash (m : Option Metadata) (f : Subscription) : Prop where
  shown : (addedStatus m (f.projects.take 1) f.issueTypes).isSome
  filtered : ∃ v ∈ f.fields, v.key = SystemField.status
  unlisted : ∃ id ∈ f.issueTypes, id ∉ workflowIds m

section
variable {m : Option Metadata} {f g : Subscription} {b : Bool} {a : Acceptance}

theorem compatible_iff_not_statusClash
    (h : Compatible ((offeredFields m (f.projects.take 1)).map GroupedField.entry) f.fields f.issueTypes) :
    Compatible (f.catalog m) f.fields f.issueTypes ↔ ¬ StatusClash m f := by
  rw [catalog, compatible_catalog]
  constructor
  · intro hc hclash
    obtain ⟨hshown, ⟨v, hv, hk⟩, id, hid, hn⟩ := hclash
    obtain ⟨s, hs⟩ := Option.isSome_iff_exists.mp hshown
    have hsf := statusField_of_addedStatus hs
    have hcar := hc.2 s hs ⟨v, hv, hk.trans (key_statusField hsf).symm⟩ id hid
    exact hn ((carries_statusField hsf id).mp hcar)
  · intro hn
    refine ⟨h, fun s hs hv id hid => ?_⟩
    have hsf := statusField_of_addedStatus hs
    obtain ⟨v, hvm, hk⟩ := hv
    by_contra hc
    refine hn ⟨by simp [hs], ⟨v, hvm, hk.trans (key_statusField hsf)⟩, id, hid, ?_⟩
    exact fun hw => hc ((carries_statusField hsf id).mpr hw)

/-- What a run of checked changes keeps: all but the issue types, and the compatibility with the fields
of the tracker. -/
structure Settled (m : Option Metadata) (f g : Subscription) : Prop where
  events : g.events = f.events
  projects : g.projects = f.projects
  fields : g.fields = f.fields
  compatible : Compatible ((offeredFields m (g.projects.take 1)).map GroupedField.entry) g.fields
    g.issueTypes

theorem compatible_distinct {fields : List CatalogField} {filters : List FieldFilter}
    {chosen : List String} (h : Compatible fields filters chosen) :
    Compatible fields filters (distinct chosen) :=
  h.of_subset fun id hid => (mem_distinct chosen id).mp hid

theorem Settled.step (h : Settled m f g) {selection : List String}
    (hs : g.objection m selection = none) : Settled m f (g.withIssueTypes selection) := by
  have hc := (compatible_catalog.mp (objection_eq_none.mp hs)).1
  have hn := compatible_of_checked h.compatible hc
  exact ⟨h.events, h.projects, h.fields, compatible_distinct hn⟩

theorem Reselected.settled (hs : f.save m b = .ok a) (h : Reselected m f g) : Settled m f g := by
  induction h with
  | refl => exact ⟨rfl, rfl, rfl, (compatible_catalog.mp (save_eq_ok.mp hs).2.1).1⟩
  | step _ selection ho ih => exact ih.step ho

def StatusValued (f : Subscription) : Prop :=
  ∀ v ∈ f.fields, v.key = SystemField.status → v.inclusion = .empty ∨ v.values ≠ []

theorem faults_eq_nil_iff_of_status {v : FieldFilter} {s : CatalogField} {selection : List String}
    (hs : statusField m selection = some s) (policy : Policy) :
    v.faults policy s = [] ↔ v.inclusion = .empty ∨ v.values ≠ [] := by
  have ht := (statusField_spec hs).2.2.1
  have hne : SchemaType.array ≠ SchemaType.securityLevel := by decide
  simp [FieldFilter.faults, FieldFilter.inclusionFaults, refusedIf_eq_nil, ht, hne, or_iff_not_imp_left]

theorem statusValued_of_complete (h : g.Complete m b) (hc : StatusClash m g) : g.StatusValued := by
  intro v hv hk
  obtain ⟨s, hs⟩ := Option.isSome_iff_exists.mp hc.shown
  have hsf := statusField_of_addedStatus hs
  obtain ⟨field, hf⟩ := findField_isSome (mem_catalog.mpr (.inr hs))
  rw [key_statusField hsf, ← hk] at hf
  have hn := h.filters v hv field hf
  simp only [FieldFilter.faults, List.append_eq_nil_iff, refusedIf_eq_nil] at hn
  simpa [or_iff_not_imp_left] using hn.2

theorem Settled.complete (h : Settled m f g) (hf : f.Complete m b) (hi : g.issueTypes ≠ [])
    (hv : g.StatusValued) : g.Complete m b where
  project := by
    rw [projectKey, h.projects]
    exact hf.project
  events := h.events ▸ hf.events
  known := h.events ▸ hf.known
  issueTypes := hi
  filters := by
    intro v hvm field hfield
    obtain ⟨hk, hcase⟩ := findField_catalog_eq_some.mp hfield
    rcases hcase with ⟨o, ho, rfl⟩ | ⟨hs, _⟩
    · refine hf.filters v (h.fields ▸ hvm) o.entry ?_
      rw [h.projects] at ho
      exact findField_catalog_eq_some.mpr ⟨hk, .inl ⟨o, ho, rfl⟩⟩
    · have hsf := statusField_of_addedStatus hs
      exact (faults_eq_nil_iff_of_status hsf _).mpr (hv v hvm (hk.symm.trans (key_statusField hsf)))

/-- Along checked changes of the issue types of a draft that could be saved, saving is blocked by a
conflict exactly where the selection shows the status field, a filter is set on it and a selected issue
type has no workflow; the other rules come before conflicts. -/
theorem reselected_fieldConflict_iff (hs : f.save m b = .ok a) (hr : Reselected m f g) :
    (∃ c, g.save m b = .error (.fieldConflict c)) ↔
      StatusClash m g ∧ g.issueTypes ≠ [] ∧ g.StatusValued := by
  have hset := hr.settled hs
  rw [exists_fieldConflict, compatible_iff_not_statusClash hset.compatible, not_not]
  constructor
  · intro h
    obtain ⟨hc, hclash⟩ := h
    exact ⟨hclash, hc.issueTypes, statusValued_of_complete hc hclash⟩
  · intro h
    obtain ⟨hclash, hi, hv⟩ := h
    exact ⟨hset.complete (save_eq_ok.mp hs).1 hi hv, hclash⟩

end

end Subscription

def partlyTracked : Metadata where
  projects := [⟨"KT", [⟨"1", "Bug", false, []⟩, ⟨"2", "Task", false, []⟩, ⟨"3", "Story", false, []⟩]⟩]
  workflows := [⟨"2", "Task", [⟨"3", "Open"⟩]⟩]

def statusDraft : Subscription :=
  ⟨["event_created"], ["KT"], ["1", "3"], [⟨"status", .includeAny, ["3"]⟩]⟩

namespace Subscription

theorem checked_change_blocks_saving :
    statusDraft.save (some partlyTracked) false =
        .ok (statusDraft.accepted (some partlyTracked) false) ∧
      statusDraft.objection (some partlyTracked) ["1", "2"] = none ∧
      ((statusDraft.withIssueTypes ["1", "2"]).save (some partlyTracked) false).mapError
          Refusal.message =
        .error "FIELD_CONFLICT: Status does not exist for issue type(s): Bug." := by
  decide +kernel

theorem statusDraft_fieldConflict :
    Reselected (some partlyTracked) statusDraft (statusDraft.withIssueTypes ["1", "2"]) ∧
      ∃ c, (statusDraft.withIssueTypes ["1", "2"]).save (some partlyTracked) false =
        .error (.fieldConflict c) := by
  have hs : statusDraft.save (some partlyTracked) false =
      .ok (statusDraft.accepted (some partlyTracked) false) := by decide +kernel
  have ho : statusDraft.objection (some partlyTracked) ["1", "2"] = none := by decide +kernel
  have hr := Reselected.refl.step ["1", "2"] ho
  have hc : StatusClash (some partlyTracked) (statusDraft.withIssueTypes ["1", "2"]) :=
    ⟨by decide +kernel, ⟨_, List.mem_singleton_self _, rfl⟩, "1", by decide, by decide⟩
  refine ⟨hr, (reselected_fieldConflict_iff hs hr).mpr ⟨hc, by decide, ?_⟩⟩
  intro v hv _
  obtain rfl := List.mem_singleton.mp hv
  exact .inr (List.cons_ne_nil _ _)

end Subscription

end TrackerFilter
