import TrackerFilter.Catalog.Basic
import TrackerFilter.Proofs.Catalog.Status
import TrackerFilter.Proofs.Metadata.Grouping

/-!
What a catalog consists of: the first epic link, the ordinary fields by name, and the status field
where it is added. Only the last depends on the selected issue types.
-/
namespace TrackerFilter

namespace GroupedField

def isEpicLink (g : GroupedField) : Bool := g.descriptor.kind == .epicLink

def isOrdinary (g : GroupedField) : Bool :=
  g.descriptor.kind == .enumerated || g.descriptor.kind == .freeText

def entry (g : GroupedField) : CatalogField := g.toCatalogField g.descriptor.kind

@[simp] theorem key_entry (g : GroupedField) : g.entry.key = g.key := rfl
@[simp] theorem kind_entry (g : GroupedField) : g.entry.kind = g.descriptor.kind := rfl

theorem isOrdinary_eq_false {g : GroupedField} (h : g.isEpicLink = true) : g.isOrdinary = false := by
  have hk : g.descriptor.kind = .epicLink := by simpa [isEpicLink] using h
  simp [isOrdinary, hk]

end GroupedField

/-- Of several epic links the first is offered. -/
def epicLinkOf (m : Option Metadata) (projects : List String) : Option GroupedField :=
  (groupedFields m projects).find? GroupedField.isEpicLink

def ordinaryFields (m : Option Metadata) (projects : List String) : List GroupedField :=
  (groupedFields m projects).filter GroupedField.isOrdinary

def offeredFields (m : Option Metadata) (projects : List String) : List GroupedField :=
  (epicLinkOf m projects).toList ++ ordinaryFields m projects

def addedStatus (m : Option Metadata) (projects selection : List String) : Option CatalogField :=
  if projects = [] ∨ SystemField.status ∈ (ordinaryFields m projects).map GroupedField.key then none
  else statusField m selection

namespace Catalog

theorem ofGroups_eq (gs : List GroupedField) :
    Offer.ofGroups gs = ⟨(gs.find? GroupedField.isEpicLink).map GroupedField.entry,
      (gs.filter GroupedField.isOrdinary).map GroupedField.entry⟩ := by
  induction gs with
  | nil => rfl
  | cons g rest ih =>
    rw [Offer.ofGroups, ih]
    cases hk : g.descriptor.kind <;>
      simp [GroupedField.isEpicLink, GroupedField.isOrdinary, GroupedField.entry, hk]

end Catalog

section
variable (m : Option Metadata) (projects selection : List String)

theorem ofGroups_groupedFields :
    Catalog.Offer.ofGroups (groupedFields m projects) =
      ⟨(epicLinkOf m projects).map GroupedField.entry,
        (ordinaryFields m projects).map GroupedField.entry⟩ :=
  Catalog.ofGroups_eq _

theorem addStatus_groupedFields (hp : projects ≠ []) :
    (Catalog.Offer.ofGroups (groupedFields m projects)).addStatus (statusField m selection) =
      ⟨(epicLinkOf m projects).map GroupedField.entry,
        (ordinaryFields m projects).map GroupedField.entry ++
          (addedStatus m projects selection).toList⟩ := by
  rw [ofGroups_groupedFields]
  cases h : statusField m selection with
  | none =>
    have ha : addedStatus m projects selection = none := by rw [addedStatus, h, ite_self]
    simp [Catalog.Offer.addStatus, ha]
  | some s =>
    have hs : ((ordinaryFields m projects).map GroupedField.entry).any (fun f => f.key = s.key) = true ↔
        SystemField.status ∈ (ordinaryFields m projects).map GroupedField.key := by
      rw [key_statusField h, List.any_map, List.any_eq_true, List.mem_map]
      simp only [Function.comp_apply, decide_eq_true_eq]
      rfl
    by_cases hk : SystemField.status ∈ (ordinaryFields m projects).map GroupedField.key
    · have ha : addedStatus m projects selection = none := if_pos (.inr hk)
      simp [Catalog.Offer.addStatus, hs.mpr hk, ha]
    · have ha : addedStatus m projects selection = some s := by
        rw [addedStatus, if_neg (by simp [hp, hk]), h]
      simp only [Catalog.Offer.addStatus, if_neg (mt hs.mp hk), ha, Option.toList_some]

theorem catalog_eq :
    catalog m projects selection = ((epicLinkOf m projects).map GroupedField.entry).toList ++
      ((ordinaryFields m projects).map GroupedField.entry ++
        (addedStatus m projects selection).toList).mergeSort Catalog.nameLe := by
  by_cases hp : projects = []
  · subst hp
    simp [catalog, epicLinkOf, ordinaryFields, addedStatus, groupedFields, occurrences,
      GroupedField.noteAll]
  · cases m with
    | none => simp [catalog, epicLinkOf, ordinaryFields, addedStatus, groupedFields_none, statusField]
    | some d =>
      have hc : ¬ (((some d : Option Metadata).isNone || projects.isEmpty) = true) := by simp [hp]
      rw [catalog, if_neg hc, addStatus_groupedFields _ _ _ hp]
      rfl

theorem catalog_perm :
    (catalog m projects selection).Perm
      ((offeredFields m projects).map GroupedField.entry ++
        (addedStatus m projects selection).toList) := by
  rw [catalog_eq, offeredFields, List.map_append, List.append_assoc]
  have he : ((epicLinkOf m projects).map GroupedField.entry).toList =
      (epicLinkOf m projects).toList.map GroupedField.entry := by
    cases epicLinkOf m projects <;> rfl
  rw [he]
  exact (List.mergeSort_perm _ _).append_left _

end

section
variable {m : Option Metadata} {projects selection : List String} {g h : GroupedField}
  {f s : CatalogField}

theorem mem_catalog :
    f ∈ catalog m projects selection ↔
      (∃ g ∈ offeredFields m projects, g.entry = f) ∨ addedStatus m projects selection = some f := by
  rw [(catalog_perm m projects selection).mem_iff]
  simp

theorem mem_offeredFields :
    g ∈ offeredFields m projects ↔
      epicLinkOf m projects = some g ∨ g ∈ groupedFields m projects ∧ g.isOrdinary = true := by
  simp [offeredFields, ordinaryFields]

theorem mem_groupedFields_of_offered (hg : g ∈ offeredFields m projects) :
    g ∈ groupedFields m projects := by
  rcases mem_offeredFields.mp hg with he | ho
  · exact List.mem_of_find?_eq_some he
  · exact ho.1

theorem offeredFields_eq_of_key_eq (hg : g ∈ offeredFields m projects)
    (hh : h ∈ offeredFields m projects) (hk : g.key = h.key) : g = h :=
  groupedFields_eq_of_key_eq (mem_groupedFields_of_offered hg) (mem_groupedFields_of_offered hh) hk

theorem addedStatus_eq_some :
    addedStatus m projects selection = some s ↔ projects ≠ [] ∧
      (∀ g ∈ ordinaryFields m projects, g.key ≠ SystemField.status) ∧
      statusField m selection = some s := by
  simp [addedStatus, and_assoc]

theorem statusField_of_addedStatus (h : addedStatus m projects selection = some s) :
    statusField m selection = some s :=
  (addedStatus_eq_some.mp h).2.2

theorem key_addedStatus (h : addedStatus m projects selection = some s) :
    s.key = SystemField.status :=
  key_statusField (statusField_of_addedStatus h)

theorem nodup_keys_offeredFields (m : Option Metadata) (projects : List String) :
    ((offeredFields m projects).map GroupedField.key).Nodup := by
  have hg := nodup_keys_groupedFields m projects
  have ho : ((ordinaryFields m projects).map GroupedField.key).Nodup :=
    hg.sublist (List.filter_sublist.map _)
  cases he : epicLinkOf m projects with
  | none => simpa [offeredFields, he] using ho
  | some e =>
    simp only [offeredFields, he, Option.toList_some, List.singleton_append, List.map_cons,
      List.nodup_cons]
    refine ⟨fun hm => ?_, ho⟩
    obtain ⟨g, hgo, hk⟩ := List.mem_map.mp hm
    have hge := groupedFields_eq_of_key_eq (List.mem_filter.mp hgo).1 (List.mem_of_find?_eq_some he) hk
    have hn := GroupedField.isOrdinary_eq_false (List.find?_some he)
    rw [← hge, (List.mem_filter.mp hgo).2] at hn
    exact Bool.noConfusion hn

theorem isOrdinary_or_isEpicLink (h : g.descriptor.kind ≠ .unsupported) :
    g.isOrdinary = true ∨ g.isEpicLink = true := by
  cases hk : g.descriptor.kind <;> simp_all [GroupedField.isOrdinary, GroupedField.isEpicLink]

/-- Of the supported fields the catalog leaves out the epic links after the first. -/
theorem notMem_offeredFields_iff (hg : g ∈ groupedFields m projects)
    (hk : g.descriptor.kind ≠ .unsupported) :
    g ∉ offeredFields m projects ↔ g.isEpicLink = true ∧ epicLinkOf m projects ≠ some g := by
  rw [mem_offeredFields, not_or]
  constructor
  · intro h
    obtain ⟨he, ho⟩ := h
    exact ⟨(isOrdinary_or_isEpicLink hk).resolve_left fun h => ho ⟨hg, h⟩, he⟩
  · intro h
    obtain ⟨hl, he⟩ := h
    refine ⟨he, fun ho => ?_⟩
    have hf := GroupedField.isOrdinary_eq_false hl
    rw [ho.2] at hf
    exact Bool.noConfusion hf

theorem offered_key_ne (hg : g ∈ groupedFields m projects) (hn : g ∉ offeredFields m projects) :
    ∀ h ∈ offeredFields m projects, h.key ≠ g.key := by
  intro h hh hk
  exact hn (groupedFields_eq_of_key_eq (mem_groupedFields_of_offered hh) hg hk ▸ hh)

end

end TrackerFilter
