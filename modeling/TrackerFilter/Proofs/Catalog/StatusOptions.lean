import TrackerFilter.Proofs.Catalog.Status
import TrackerFilter.Proofs.Distinct

/-!
The options of the status field. Each status that a selected workflow lists is an option once, in the
order of the metadata and under the first name that the selected workflows give it. More issue types have
more options, but for none at all: then every workflow is selected.
-/
namespace TrackerFilter

namespace Metadata

/-- The statuses of the selected issue types as their workflows list them, repeats included. Without a
selection those of all issue types. -/
def listedStatuses (d : Metadata) (selection : List String) : List Status :=
  (d.workflows.filter fun w => selection = [] ∨ w.id ∈ selection).flatMap Workflow.statuses

variable {d : Metadata} {selection narrow wide : List String}

theorem reachableStatuses_eq (d : Metadata) (selection : List String) :
    d.reachableStatuses selection = distinctBy Status.id (d.listedStatuses selection) := by
  have hs : Workflow.selected selection = fun w => decide (selection = [] ∨ w.id ∈ selection) := by
    funext w
    rw [Bool.eq_iff_iff]
    simp [Workflow.selected]
  rw [reachableStatuses, listedStatuses, hs]

theorem reachableStatuses_eq_nil :
    d.reachableStatuses selection = [] ↔ d.listedStatuses selection = [] := by
  rw [reachableStatuses_eq, distinctBy_eq_nil]

theorem mem_listedStatuses {s : Status} :
    s ∈ d.listedStatuses selection ↔
      ∃ w ∈ d.workflows, (selection = [] ∨ w.id ∈ selection) ∧ s ∈ w.statuses := by
  simp [listedStatuses, and_assoc]

theorem listedStatuses_subset (hne : narrow ≠ []) (hsub : ∀ id ∈ narrow, id ∈ wide) :
    d.listedStatuses narrow ⊆ d.listedStatuses wide := by
  intro s hs
  obtain ⟨w, hw, hsel, hst⟩ := mem_listedStatuses.mp hs
  exact mem_listedStatuses.mpr ⟨w, hw, .inr (hsub _ (hsel.resolve_left hne)), hst⟩

end Metadata

section
variable {m : Option Metadata} {d : Metadata} {selection narrow wide : List String} {s : CatalogField}

theorem statusField_eq_none_iff :
    statusField m selection = none ↔ ∀ d ∈ m, d.listedStatuses selection = [] := by
  rw [Option.eq_none_iff_forall_ne_some]
  constructor
  · intro h d hd
    by_contra hne
    exact h _ (statusField_eq_some.mpr ⟨d, hd, mt Metadata.reachableStatuses_eq_nil.mp hne, rfl⟩)
  · intro h s hs
    obtain ⟨d, hd, hr, _⟩ := statusField_eq_some.mp hs
    exact hr (Metadata.reachableStatuses_eq_nil.mpr (h d hd))

theorem firstSeen_statusField (h : statusField (some d) selection = some s) :
    FirstSeen FieldOption.value ((d.listedStatuses selection).map Status.toOption) s.values := by
  obtain ⟨_, he, _, rfl⟩ := statusField_eq_some.mp h
  obtain rfl := Option.some.inj he
  exact (distinctBy_eq_iff.mp (d.reachableStatuses_eq selection).symm).map fun _ => rfl

theorem mem_values_statusField {value : String} (h : statusField (some d) selection = some s) :
    value ∈ s.values.map FieldOption.value ↔ value ∈ (d.listedStatuses selection).map Status.id := by
  rw [(firstSeen_statusField h).keys, List.mem_eraseDups, List.map_map]
  rfl

theorem statusField_widened (hne : narrow ≠ []) (hsub : ∀ id ∈ narrow, id ∈ wide)
    (h : statusField m narrow = some s) :
    ∃ t, statusField m wide = some t ∧
      s.values.map FieldOption.value ⊆ t.values.map FieldOption.value := by
  obtain ⟨d, rfl, hr, _⟩ := statusField_eq_some.mp h
  have hmono : d.listedStatuses narrow ⊆ d.listedStatuses wide := Metadata.listedStatuses_subset hne hsub
  have hwide : statusField (some d) wide ≠ none := by
    intro hn
    have hnil := statusField_eq_none_iff.mp hn d rfl
    exact hr (Metadata.reachableStatuses_eq_nil.mpr (List.subset_nil.mp (hnil ▸ hmono)))
  obtain ⟨t, ht⟩ := Option.ne_none_iff_exists'.mp hwide
  refine ⟨t, ht, fun value hv => ?_⟩
  exact (mem_values_statusField ht).mpr (List.map_subset _ hmono ((mem_values_statusField h).mp hv))

end

/-- There is no status field exactly if the selected workflows list no status. Otherwise its options are
the statuses that they list, each once and as it is first seen, and it is valid for all issue types with a
workflow. Of two selections the wider one keeps the field and its options, unless the narrower is empty. -/
theorem statusField_options (m : Option Metadata) (selection : List String) :
    (statusField m selection = none ↔ ∀ d ∈ m, d.listedStatuses selection = []) ∧
      (∀ s, statusField m selection = some s → ∃ d, m = some d ∧
        FirstSeen FieldOption.value ((d.listedStatuses selection).map Status.toOption) s.values ∧
        s.validIssueTypes = d.workflows.map Workflow.ref) ∧
      ∀ other s, selection ≠ [] → (∀ id ∈ selection, id ∈ other) →
        statusField m selection = some s → ∃ t, statusField m other = some t ∧
          s.values.map FieldOption.value ⊆ t.values.map FieldOption.value := by
  refine ⟨statusField_eq_none_iff, fun s h => ?_, fun other s hne hsub h =>
    statusField_widened hne hsub h⟩
  obtain ⟨d, rfl, _, hs⟩ := statusField_eq_some.mp h
  exact ⟨d, rfl, firstSeen_statusField h, by rw [hs]⟩

def sharedStatuses : Metadata where
  projects := []
  workflows := [⟨"1", "Bug", [⟨"3", "Open"⟩, ⟨"4", "Done"⟩]⟩, ⟨"2", "Task", [⟨"3", "To Do"⟩, ⟨"5", "Closed"⟩]⟩,
    ⟨"1", "Bug", [⟨"5", "Gone"⟩, ⟨"3", "Reopened"⟩]⟩]

theorem statusField_options_sharedStatuses :
    ["2"] ≠ ([] : List String) ∧ (∀ id ∈ ["2"], id ∈ ["4", "2", "1"]) ∧
      ∃ s t, statusField (some sharedStatuses) ["2"] = some s ∧
        s.values = [⟨"3", "To Do"⟩, ⟨"5", "Closed"⟩] ∧
        statusField (some sharedStatuses) ["4", "2", "1"] = some t ∧
        t.values = [⟨"3", "Open"⟩, ⟨"4", "Done"⟩, ⟨"5", "Closed"⟩] ∧
        s.values.map FieldOption.value ⊆ t.values.map FieldOption.value := by
  have hne : ["2"] ≠ ([] : List String) := List.cons_ne_nil _ _
  have hsub : ∀ id ∈ ["2"], id ∈ ["4", "2", "1"] := by decide
  obtain ⟨s, hs, hsv⟩ : ∃ s, statusField (some sharedStatuses) ["2"] = some s ∧
      s.values = [⟨"3", "To Do"⟩, ⟨"5", "Closed"⟩] := ⟨_, rfl, by decide⟩
  obtain ⟨_, _, hwiden⟩ := statusField_options (some sharedStatuses) ["2"]
  obtain ⟨t, ht, hst⟩ := hwiden ["4", "2", "1"] s hne hsub hs
  refine ⟨hne, hsub, s, t, hs, hsv, ht, ?_, hst⟩
  obtain rfl := Option.some.inj ht
  decide

end TrackerFilter
