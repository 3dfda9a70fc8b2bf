import TrackerFilter.Proofs.Catalog.Arrangement
import TrackerFilter.Proofs.Catalog.Keys
import TrackerFilter.Proofs.Gate.Verdict

/-!
What the fields of a catalog keep, whatever the tracker says. The kind of a field settles the rest: there
are values to choose from only for an enumerated field, the user makes them up only for free text, which
always takes several, and an epic link stands at the head. A sprint never gets that far.
-/
namespace TrackerFilter

namespace Descriptor

variable {d : Descriptor}

theorem isFilterable_of_kind_ne (h : d.kind ≠ .unsupported) : d.schema.isFilterable = true := by
  by_contra hf
  exact h (by simp [kind, hf])

theorem hasChoices_of_kind (h : d.kind = .enumerated) : d.hasChoices = true := by
  unfold kind at h
  split_ifs at h with _ _ hc
  exact hc

theorem isFreeText_of_kind (h : d.kind = .freeText) : d.isFreeText = true := by
  unfold kind at h
  split_ifs at h with _ _ _ ht
  exact ht

theorem custom_ne_sprint (h : d.kind ≠ .unsupported) : d.schema.custom ≠ some CustomType.sprint := by
  have hf := isFilterable_of_kind_ne h
  simp only [Schema.isFilterable, Schema.isSprint, Bool.and_eq_true, Bool.not_eq_true',
    beq_eq_false_iff_ne] at hf
  exact hf.1

theorem type_of_freeText (h : d.kind = .freeText) : d.schema.type = SchemaType.array := by
  have ht := isFreeText_of_kind h
  simp only [isFreeText, Schema.isArray, Bool.and_eq_true, beq_iff_eq] at ht
  exact ht.1.1

theorem allowedValues_ne_nil (h : d.kind = .enumerated) : d.allowedValues.getD [] ≠ [] := by
  have hc := hasChoices_of_kind h
  unfold hasChoices at hc
  split at hc
  · next hv => simp [hv]
  · exact Bool.noConfusion hc

end Descriptor

structure CatalogField.WellFormed (f : CatalogField) : Prop where
  supported : f.kind ≠ .unsupported
  noSprint : f.schema.custom ≠ some CustomType.sprint
  userDefined : f.userDefined = true ↔ f.kind = .freeText
  values : f.values = [] ↔ f.kind = .freeText ∨ f.kind = .epicLink
  includeAll : ∀ b, .includeAll ∈ f.inclusions b ↔ f.schema.type = SchemaType.array
  freeText : f.kind = .freeText → f.schema.type = SchemaType.array

theorem CatalogField.WellFormed.isConsistent {f : CatalogField} (h : f.WellFormed) :
    f.isConsistent = true := by
  cases hu : f.userDefined with
  | false => simp [CatalogField.isConsistent, hu]
  | true => simp [CatalogField.isConsistent, h.values.mpr (.inl (h.userDefined.mp hu))]

/-- The fields that are made on the way to a catalog. An epic link after the first and a status field
whose key is taken are made and not listed. -/
def builtFields (m : Option Metadata) (projects selection : List String) : List CatalogField :=
  ((groupedFields m projects).filter fun g => g.descriptor.kind ≠ .unsupported).map
      GroupedField.entry ++
    (statusField m selection).toList

section
variable {m : Option Metadata} {projects selection : List String} {g : GroupedField}
  {f s : CatalogField}

theorem mem_builtFields :
    f ∈ builtFields m projects selection ↔
      (∃ g ∈ groupedFields m projects, g.descriptor.kind ≠ .unsupported ∧ g.entry = f) ∨
        statusField m selection = some f := by
  simp [builtFields, and_assoc]

theorem mem_builtFields_of_mem_catalog (hf : f ∈ catalog m projects selection) :
    f ∈ builtFields m projects selection := by
  rcases mem_catalog.mp hf with ⟨g, hg, rfl⟩ | hs
  · exact mem_builtFields.mpr (.inl ⟨g, mem_groupedFields_of_offered hg, kind_of_offered hg, rfl⟩)
  · exact mem_builtFields.mpr (.inr (statusField_of_addedStatus hs))

theorem values_entry_eq_nil (h : g.descriptor.kind ≠ .unsupported) :
    g.entry.values = [] ↔ g.descriptor.kind = .freeText ∨ g.descriptor.kind = .epicLink := by
  have hv : g.entry.values = g.options g.descriptor.kind := rfl
  rw [hv, g.options_eq]
  cases hk : g.descriptor.kind with
  | enumerated => simpa using Descriptor.allowedValues_ne_nil hk
  | freeText => simp
  | epicLink => simp
  | unsupported => exact absurd hk h

theorem wellFormed_entry (h : g.descriptor.kind ≠ .unsupported) : g.entry.WellFormed where
  supported := h
  noSprint := Descriptor.custom_ne_sprint h
  userDefined := beq_iff_eq
  values := values_entry_eq_nil h
  includeAll := fun _ => CatalogField.includeAll_mem_inclusions
  freeText := Descriptor.type_of_freeText

theorem wellFormed_statusField (h : statusField m selection = some s) : s.WellFormed := by
  obtain ⟨d, _, hr, rfl⟩ := statusField_eq_some.mp h
  exact {
    supported := FieldKind.noConfusion
    noSprint := by simp [Schema.plain]
    userDefined := by simp
    values := by simpa using hr
    includeAll := fun _ => CatalogField.includeAll_mem_inclusions
    freeText := fun _ => rfl }

theorem wellFormed_of_mem_builtFields (hf : f ∈ builtFields m projects selection) :
    f.WellFormed := by
  rcases mem_builtFields.mp hf with ⟨g, _, hk, rfl⟩ | hs
  · exact wellFormed_entry hk
  · exact wellFormed_statusField hs

theorem isConsistent_of_mem_catalog (hf : f ∈ catalog m projects selection) :
    f.isConsistent = true :=
  (wellFormed_of_mem_builtFields (mem_builtFields_of_mem_catalog hf)).isConsistent

theorem kind_ne_epicLink_of_mem_tail (hf : f ∈ (catalog m projects selection).tail) :
    f.kind ≠ .epicLink := by
  have hm : f ∈ (ordinaryFields m projects).map GroupedField.entry ++
      (addedStatus m projects selection).toList := by
    rw [catalog_eq] at hf
    cases he : epicLinkOf m projects with
    | none =>
      rw [he, Option.map_none, Option.toList_none, List.nil_append] at hf
      exact List.mem_mergeSort.mp (List.mem_of_mem_tail hf)
    | some e =>
      rw [he, Option.map_some, Option.toList_some, List.singleton_append, List.tail_cons] at hf
      exact List.mem_mergeSort.mp hf
  rcases List.mem_append.mp hm with ho | hs
  · obtain ⟨g, hg, rfl⟩ := List.mem_map.mp ho
    intro hk
    have hn := GroupedField.isOrdinary_eq_false (g := g) (by simpa [GroupedField.isEpicLink] using hk)
    exact absurd (List.mem_filter.mp hg).2 (by simp [hn])
  · rw [kind_statusField (statusField_of_addedStatus (Option.mem_toList.mp hs))]
    exact FieldKind.noConfusion

end

/-- No field is made that contradicts itself, and the fields of a catalog are well formed, with an epic
link at the head or nowhere. -/
theorem catalog_wellFormed (m : Option Metadata) (projects selection : List String) :
    (∀ f ∈ builtFields m projects selection, f.isConsistent = true) ∧
      (∀ f ∈ catalog m projects selection, f ∈ builtFields m projects selection ∧ f.WellFormed) ∧
      ∀ f ∈ (catalog m projects selection).tail, f.kind ≠ .epicLink := by
  refine ⟨fun f hf => (wellFormed_of_mem_builtFields hf).isConsistent, fun f hf => ?_,
    fun f hf => kind_ne_epicLink_of_mem_tail hf⟩
  have hb := mem_builtFields_of_mem_catalog hf
  exact ⟨hb, wellFormed_of_mem_builtFields hb⟩

def twiceLinked : Metadata where
  projects := [⟨"KT", [⟨"1", "Bug", false, [
    ("labels", ⟨none, "Labels", false, ⟨"array", none, some "string", none⟩, none⟩),
    ("e1", ⟨none, "Epic", false, ⟨"any", some CustomType.epicLink, none, none⟩, some [⟨"9", none, none⟩]⟩),
    ("e2", ⟨none, "Parent", false, ⟨"any", some CustomType.epicLink, none, none⟩, none⟩)]⟩]⟩]
  workflows := []

theorem catalog_wellFormed_twiceLinked :
    (∃ f ∈ builtFields (some twiceLinked) ["KT"] [],
        f ∉ catalog (some twiceLinked) ["KT"] [] ∧ f.isConsistent = true) ∧
      ∃ f ∈ (catalog (some twiceLinked) ["KT"] []).tail,
        f.kind = .freeText ∧ f.WellFormed ∧ f.kind ≠ .epicLink := by
  obtain ⟨hbuilt, hlisted, htail⟩ := catalog_wellFormed (some twiceLinked) ["KT"] []
  obtain ⟨f, hf, hn⟩ : ∃ f ∈ builtFields (some twiceLinked) ["KT"] [],
      f ∉ catalog (some twiceLinked) ["KT"] [] := by decide +kernel
  obtain ⟨g, hg, hk⟩ : ∃ g ∈ (catalog (some twiceLinked) ["KT"] []).tail, g.kind = .freeText := by
    decide +kernel
  have hw := (hlisted g (List.mem_of_mem_tail hg)).2
  exact ⟨⟨f, hf, hn, hbuilt f hf⟩, g, hg, hk, hw, htail g hg⟩

end TrackerFilter
