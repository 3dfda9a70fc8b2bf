import TrackerFilter.Proofs.Catalog.Keys
import TrackerFilter.Proofs.Draft.Save
import TrackerFilter.Proofs.Metadata.Entries

/-!
What a saved filter stands for in the metadata. Its field is described by the project, under every
selected issue type, or it is the status field and every selected issue type has a workflow.
-/
namespace TrackerFilter

theorem CatalogField.carries_iff {f : CatalogField} {id : String} :
    f.carries id = true ↔ id ∈ f.validIssueTypes.map IssueTypeRef.id := by
  simp [carries]

namespace Subscription

section
variable {m : Option Metadata} {f : Subscription} {b : Bool} {a : Acceptance} {key : String}
  {d : Metadata} {p : Project} {v : FieldFilter}

theorem Complete.exists_project (h : f.Complete m b) :
    ∃ key d p, f.projectKey = some key ∧ key ≠ "" ∧ m = some d ∧ d.project? key = some p := by
  obtain ⟨key, hk, hne, hp⟩ := h.project
  cases m with
  | none => simp [hasProject] at hp
  | some d =>
    obtain ⟨p, hp⟩ := Option.isSome_iff_exists.mp hp
    exact ⟨key, d, p, hk, hne, rfl, hp⟩

theorem exists_field_of_saved (hs : f.save m b = .ok a) (hv : v ∈ a.subscription.fields) :
    ∃ field, findField (f.catalog m) v.key = some field ∧
      ∀ t ∈ f.issueTypes, field.carries t = true := by
  obtain ⟨u, hu, field, hf, rfl⟩ := (mem_saved hs).mp hv
  obtain ⟨hk, hc⟩ := findField_eq_some hf
  exact ⟨field, hf, (save_eq_ok.mp hs).2.1 field hc ⟨u, hu, hk.symm⟩⟩

theorem saved_on_project_or_status (hs : f.save (some d) b = .ok a) (hk : f.projectKey = some key)
    (hne : key ≠ "") (hp : d.project? key = some p) (hv : v ∈ a.subscription.fields) :
    ((∀ t ∈ f.issueTypes, p.Carries t v.key) ∧
        ∃ e, FirstDescribes p.entries v.key e ∧ e.2.kind ≠ .unsupported) ∨
      v.key = SystemField.status ∧ ∀ t ∈ f.issueTypes, t ∈ workflowIds (some d) := by
  obtain ⟨field, hf, hcar⟩ := exists_field_of_saved hs hv
  rw [catalog, take_projects hk] at hf
  obtain ⟨hkey, hcase⟩ := findField_catalog_eq_some.mp hf
  rcases hcase with ⟨g, hg, rfl⟩ | ⟨hst, _⟩
  · refine .inl ⟨fun t ht => ?_, ?_⟩
    · rw [← hkey]
      refine (mem_validIssueTypes_project hne hp (mem_groupedFields_of_offered hg) t).mp ?_
      exact CatalogField.carries_iff.mp (hcar t ht)
    · obtain ⟨e, he, hd⟩ := exists_entry_of_mem_groupedFields hne hp (mem_groupedFields_of_offered hg)
      refine ⟨e, hkey ▸ he, ?_⟩
      rw [hd]
      exact kind_of_offered hg
  · have hsf := statusField_of_addedStatus hst
    refine .inr ⟨hkey.symm.trans (key_statusField hsf), fun t ht => ?_⟩
    exact (carries_statusField hsf t).mp (hcar t ht)

/-- Every saved filter means something for every selected issue type: the project has an entry of its
field there, or it is a filter on the status and the issue type has a workflow. The first entry of the
field in the project is supported, unless the field has the key of the status field. -/
theorem saved_filters_carried (hs : f.save m b = .ok a) :
    ∃ key d p, f.projectKey = some key ∧ m = some d ∧ d.project? key = some p ∧
      ∀ v ∈ a.subscription.fields, ∀ t ∈ a.subscription.issueTypes,
        (p.Carries t v.key ∨ v.key = "status" ∧ ∃ w ∈ d.workflows, w.id = t) ∧
        (p.Carries t v.key → v.key ≠ "status" →
          ∃ e, FirstDescribes p.entries v.key e ∧ e.2.kind ≠ .unsupported) := by
  obtain ⟨hc, _, ha⟩ := save_eq_ok.mp hs
  obtain ⟨key, d, p, hk, hne, rfl, hp⟩ := hc.exists_project
  refine ⟨key, d, p, hk, rfl, hp, fun v hv t ht => ?_⟩
  have htf : t ∈ f.issueTypes := by
    rw [ha] at ht
    exact ht
  rcases saved_on_project_or_status hs hk hne hp hv with ⟨hall, hkind⟩ | ⟨hkey, hall⟩
  · exact ⟨.inl (hall t htf), fun _ _ => hkind⟩
  · refine ⟨.inr ⟨hkey, ?_⟩, fun _ hn => absurd hkey hn⟩
    simpa [workflowIds] using hall t htf

end

theorem untidyDraft_carried :
    untidyDraft.save (some prioritized) true = .ok tidied ∧
      ∃ p, prioritized.project? "KT" = some p ∧ p.Carries "2" "priority" ∧
        ∃ e, FirstDescribes p.entries "priority" e ∧ e.2.kind ≠ .unsupported := by
  obtain ⟨key, d, p, hk, hd, hp, h⟩ := saved_filters_carried save_untidyDraft
  obtain rfl := Option.some.inj hk
  obtain rfl := Option.some.inj hd
  obtain ⟨hcase, hkind⟩ := h ⟨"priority", .includeAny, ["1"]⟩ List.mem_cons_self "2" (by decide)
  have hc : p.Carries "2" "priority" := hcase.resolve_right (by decide)
  exact ⟨save_untidyDraft, p, hp, hc, hkind hc (by decide)⟩

end Subscription

end TrackerFilter
