import TrackerFilter.Event
import TrackerFilter.Proofs.Metadata.Grouping

/-!
The events on offer against those that are known. A fixed event is known, and an update event is as soon
as something follows the stem of its name. What follows is the name of a custom field in the change logs,
which is empty for a field without a key and a name in its descriptor: such a field offers the bare stem.
-/
namespace TrackerFilter

/-- A custom field whose descriptor, the first of those that are grouped, has neither a key nor a name. -/
structure GroupedField.IsAnonymous (g : GroupedField) : Prop where
  custom : (Event.customType g).isSome = true
  key : g.descriptor.key.getD "" = ""
  name : g.descriptor.name = ""

theorem Descriptor.changeLogId_eq_empty {d : Descriptor} :
    d.changeLogId = "" ↔ d.key.getD "" = "" ∧ d.name = "" := by
  rw [changeLogId, orElseName]
  split <;> simp_all

theorem changeLogId_groupedField {m : Option Metadata} {projects : List String} {g : GroupedField}
    (hg : g ∈ groupedFields m projects) : g.changeLogId = g.descriptor.changeLogId := by
  obtain ⟨o, _, rfl⟩ := exists_first_of_mem_groupedFields hg
  rfl

namespace Event

def offered (m : Option Metadata) (projects : List String) : List String :=
  (fixed ++ custom m projects).map EventOption.value

theorem isKnown_fixed : ∀ o ∈ fixed, isKnown o.value = true := by
  decide +kernel

theorem isKnown_updateStem : isKnown updateStem = false := by
  decide +kernel

theorem isKnown_updateStem_append {name : String} :
    isKnown (updateStem ++ name) = true ↔ name ≠ "" := by
  constructor
  · intro h he
    rw [he, String.append_empty, isKnown_updateStem] at h
    exact Bool.false_ne_true h
  · intro h
    have hlen : 0 < name.toList.length := by
      rw [List.length_pos_iff]
      simpa using h
    simp [isKnown, hlen]

section
variable {m : Option Metadata} {projects : List String}

theorem mem_custom {o : EventOption} :
    o ∈ custom m projects ↔
      ∃ g ∈ groupedFields m projects, (customType g).isSome = true ∧ ofField g = o := by
  simp only [custom, List.mem_filterMap, Option.map_eq_some_iff, Option.isSome_iff_exists,
    exists_and_right]

theorem isKnown_ofField {g : GroupedField} (hg : g ∈ groupedFields m projects)
    (hc : (customType g).isSome = true) :
    isKnown (ofField g).value = true ↔ ¬ g.IsAnonymous := by
  rw [ofField, isKnown_updateStem_append, changeLogId_groupedField hg, Ne,
    Descriptor.changeLogId_eq_empty]
  exact not_congr ⟨fun h => ⟨hc, h.1, h.2⟩, fun h => ⟨h.key, h.name⟩⟩

theorem isKnown_offered {name : String} (h : name ∈ offered m projects) :
    isKnown name = true ↔ name ≠ updateStem := by
  constructor
  · intro hk he
    rw [he, isKnown_updateStem] at hk
    exact Bool.false_ne_true hk
  · intro hne
    obtain ⟨o, ho, rfl⟩ := List.mem_map.mp h
    rcases List.mem_append.mp ho with hf | hc
    · exact isKnown_fixed o hf
    · obtain ⟨g, _, _, rfl⟩ := mem_custom.mp hc
      refine isKnown_updateStem_append.mpr fun he => hne ?_
      rw [ofField, he, String.append_empty]

theorem custom_known_iff :
    (∀ o ∈ custom m projects, isKnown o.value = true) ↔
      ∀ g ∈ groupedFields m projects, ¬ g.IsAnonymous := by
  constructor
  · intro h g hg ha
    exact (isKnown_ofField hg ha.custom).mp (h _ (mem_custom.mpr ⟨g, hg, ha.custom, rfl⟩)) ha
  · intro h o ho
    obtain ⟨g, hg, hc, rfl⟩ := mem_custom.mp ho
    exact (isKnown_ofField hg hc).mpr (h g hg)

end

end Event

end TrackerFilter
