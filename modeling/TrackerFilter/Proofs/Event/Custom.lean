import TrackerFilter.Proofs.Event

/-!
The update events of custom fields, one for each field that has a custom type of its own. Their names come
from the change logs, while fields are told apart by their identity: the two are the same text as soon as
descriptors say their keys, and then an event tells its field.
-/
namespace TrackerFilter

def GroupedField.HasOwnEvent (g : GroupedField) : Prop :=
  ∃ custom ∈ g.descriptor.schema.custom,
    custom ≠ "" ∧ custom ≠ CustomType.sprint ∧ custom ≠ CustomType.rank

instance : DecidablePred GroupedField.HasOwnEvent := fun g =>
  inferInstanceAs (Decidable (∃ custom ∈ g.descriptor.schema.custom,
    custom ≠ "" ∧ custom ≠ CustomType.sprint ∧ custom ≠ CustomType.rank))

def eventfulFields (m : Option Metadata) (projects : List String) : List GroupedField :=
  (groupedFields m projects).filter fun g => g.HasOwnEvent

theorem Descriptor.changeLogId_eq_identity {d : Descriptor} (h : d.key.getD "" ≠ "") (mapKey : String) :
    d.changeLogId = d.identity mapKey := by
  rw [changeLogId, identity, orElseName, orElseName, if_neg h, if_neg h]

namespace Event

theorem customType_isSome {g : GroupedField} : (customType g).isSome = true ↔ g.HasOwnEvent := by
  rw [customType, GroupedField.HasOwnEvent]
  cases g.descriptor.schema.custom with
  | none => simp
  | some custom =>
    have hquiet : custom = "" ∨ custom ∈ quietTypes ↔
        ¬ (custom ≠ "" ∧ custom ≠ CustomType.sprint ∧ custom ≠ CustomType.rank) := by
      simp only [quietTypes, List.mem_cons, List.not_mem_nil, or_false]
      tauto
    by_cases h : custom = "" ∨ custom ∈ quietTypes
    · simp only [h, if_true]
      simpa using hquiet.mp h
    · simp only [h, if_false]
      simpa using not_not.mp (mt hquiet.mpr h)

section
variable {m : Option Metadata} {projects : List String}

theorem custom_eq_map : custom m projects = (eventfulFields m projects).map ofField := by
  rw [custom, eventfulFields]
  induction groupedFields m projects with
  | nil => rfl
  | cons g rest ih =>
    by_cases h : g.HasOwnEvent
    · obtain ⟨custom, hc⟩ := Option.isSome_iff_exists.mp (customType_isSome.mpr h)
      simp [h, hc, ih]
    · have hc : customType g = none := by
        simpa using mt customType_isSome.mp h
      simp [h, hc, ih]

theorem changeLogId_eq_key {g : GroupedField}
    (h : ∀ key ∈ projects, ∀ t ∈ issueTypesOf m (some key), ∀ e ∈ t.fields, e.2.key.getD "" ≠ "")
    (hg : g ∈ groupedFields m projects) : g.changeLogId = g.key := by
  obtain ⟨o, ho, rfl⟩ := exists_first_of_mem_groupedFields hg
  obtain ⟨key, hkey, t, ht, hot⟩ := mem_occurrences.mp (List.mem_of_find?_eq_some ho)
  obtain ⟨e, he, rfl⟩ := List.mem_map.mp hot
  exact Descriptor.changeLogId_eq_identity (h key hkey t ht e he) e.1

/-- The options are those of the fields with events of their own, in order. Where each descriptor of the
projects says its key, the name of an event is the stem and the key of its field, no two options have the
same name, and so the name tells the field. -/
theorem custom_options_keyed (m : Option Metadata) (projects : List String) :
    custom m projects = (eventfulFields m projects).map (fun g =>
        ⟨updateStem ++ g.changeLogId, "Issue Updated: Custom - " ++ g.descriptor.name⟩) ∧
      ((∀ key ∈ projects, ∀ t ∈ issueTypesOf m (some key), ∀ e ∈ t.fields, e.2.key.getD "" ≠ "") →
        (∀ g ∈ eventfulFields m projects, (ofField g).value = updateStem ++ g.key) ∧
          ((custom m projects).map EventOption.value).Nodup ∧
          ∀ g ∈ eventfulFields m projects, ∀ h ∈ eventfulFields m projects,
            (ofField g).value = (ofField h).value → g = h) := by
  refine ⟨custom_eq_map, fun hkeyed => ?_⟩
  have hvalue : ∀ g ∈ eventfulFields m projects, (ofField g).value = updateStem ++ g.key := by
    intro g hg
    rw [ofField, changeLogId_eq_key hkeyed (List.mem_of_mem_filter hg)]
  have hinj : ∀ g ∈ eventfulFields m projects, ∀ h ∈ eventfulFields m projects,
      (ofField g).value = (ofField h).value → g = h := by
    intro g hg h hh he
    rw [hvalue g hg, hvalue h hh] at he
    exact groupedFields_eq_of_key_eq (List.mem_of_mem_filter hg) (List.mem_of_mem_filter hh)
      (String.append_right_inj _ |>.mp he)
  refine ⟨hvalue, ?_, hinj⟩
  have hfields : (groupedFields m projects).Nodup :=
    List.Nodup.of_map GroupedField.key (nodup_keys_groupedFields m projects)
  rw [custom_eq_map, List.map_map]
  exact List.Nodup.map_on hinj (hfields.filter _)

end

def boardProject : Metadata where
  projects := [⟨"KT", [
    ⟨"1", "Bug", false, [("x", ⟨some "customfield_1", "Team", false, ⟨"any", some "team", none, none⟩, none⟩),
      ("customfield_2", ⟨some "customfield_2", "Rank", false, ⟨"any", some CustomType.rank, none, none⟩, none⟩)]⟩,
    ⟨"2", "Task", false, [("customfield_3", ⟨some "customfield_3", "Team", false,
        ⟨"any", some "team", none, none⟩, none⟩),
      ("y", ⟨some "customfield_1", "Squad", false, ⟨"any", none, none, none⟩, none⟩)]⟩]⟩]
  workflows := []

theorem custom_options_boardProject :
    (custom (some boardProject) ["KT"]).map EventOption.value =
        ["event_updated_customfield_1", "event_updated_customfield_3"] ∧
      ((custom (some boardProject) ["KT"]).map EventOption.value).Nodup := by
  obtain ⟨heq, hkeyed⟩ := custom_options_keyed (some boardProject) ["KT"]
  refine ⟨?_, (hkeyed (by decide +kernel)).2.1⟩
  rw [heq]
  decide +kernel

end Event

end TrackerFilter
