import TrackerFilter.Catalog.Status

/-!
When there is a status field, and which issue types carry it. The selection decides whether the field
exists, but not which issue types it is valid for.
-/
namespace TrackerFilter

def Metadata.ReachesStatus (d : Metadata) (selection : List String) : Prop :=
  ∃ w ∈ d.workflows, w.selected selection = true ∧ w.statuses ≠ []

theorem Metadata.reachableStatuses_ne_nil (d : Metadata) (selection : List String) :
    d.reachableStatuses selection ≠ [] ↔ d.ReachesStatus selection := by
  rw [Metadata.reachableStatuses, Ne, distinctBy_eq_nil, List.flatMap_eq_nil_iff]
  simp [Metadata.ReachesStatus]

def workflowIds (m : Option Metadata) : List String :=
  match m with
  | none => []
  | some d => d.workflows.map Workflow.id

theorem statusField_isSome {m : Option Metadata} {selection : List String} :
    (statusField m selection).isSome ↔ ∃ d, m = some d ∧ d.ReachesStatus selection := by
  cases m with
  | none => simp [statusField]
  | some d =>
    have hr := d.reachableStatuses_ne_nil selection
    cases h : d.reachableStatuses selection with
    | nil => simpa [statusField, h] using hr
    | cons s rest => simpa [statusField, h] using hr

section
variable {m : Option Metadata} {selection : List String} {s : CatalogField}

theorem statusField_eq_some :
    statusField m selection = some s ↔ ∃ d, m = some d ∧ d.reachableStatuses selection ≠ [] ∧
      s = ⟨SystemField.status, "Status", { Schema.plain with type := SchemaType.array }, .enumerated,
        (d.reachableStatuses selection).map Status.toOption, false, d.workflows.map Workflow.ref⟩ := by
  cases m with
  | none => simp [statusField]
  | some d =>
    cases hr : d.reachableStatuses selection with
    | nil => simp [statusField, hr]
    | cons t rest => simpa [statusField, hr] using eq_comm

theorem statusField_spec (h : statusField m selection = some s) :
    s.key = SystemField.status ∧ s.kind = .enumerated ∧ s.schema.type = SchemaType.array ∧
      s.userDefined = false ∧ s.validIssueTypes.map IssueTypeRef.id = workflowIds m := by
  obtain ⟨d, rfl, _, rfl⟩ := statusField_eq_some.mp h
  exact ⟨rfl, rfl, rfl, rfl, by simp [workflowIds, Workflow.ref, Function.comp_def]⟩

theorem key_statusField (h : statusField m selection = some s) : s.key = SystemField.status :=
  (statusField_spec h).1

theorem kind_statusField (h : statusField m selection = some s) : s.kind = .enumerated :=
  (statusField_spec h).2.1

theorem carries_statusField (h : statusField m selection = some s) (id : String) :
    s.carries id = true ↔ id ∈ workflowIds m := by
  rw [← (statusField_spec h).2.2.2.2]
  simp [CatalogField.carries]

end

end TrackerFilter
