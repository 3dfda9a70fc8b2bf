import TrackerFilter.Proofs.Catalog.Offer
import TrackerFilter.Proofs.Text.Order
import Mathlib.Data.List.Forall2
import Mathlib.Data.List.ReduceOption

/-!
The content and the order of a catalog. At its head stands the first epic link, if there is one. The
ordinary fields and the status field follow, in a stable order by name. Each field of the tracker appears
as the metadata describes it, so the catalog is settled by the grouped fields and the status field.
-/
namespace TrackerFilter

/-- An option for a value of the tracker, which goes by its display name, else its raw value, else its id.
An empty name or raw value does not count. -/
structure FieldOption.Shows (o : FieldOption) (v : AllowedValue) : Prop where
  value : o.value = v.id
  label : o.label = ([v.name, v.value].reduceOption.find? fun t => t ≠ "").getD v.id

/-- A field of the catalog for a field of the tracker. An enumerated field has one option for each allowed
value, in their order, and the other kinds have none. -/
structure CatalogField.Shows (f : CatalogField) (g : GroupedField) : Prop where
  key : f.key = g.key
  name : f.name = g.descriptor.name
  schema : f.schema = g.descriptor.schema
  kind : f.kind = g.descriptor.kind
  options : List.Forall₂ FieldOption.Shows f.values
    (if g.descriptor.kind = .enumerated then g.descriptor.allowedValues.getD [] else [])
  userDefined : f.userDefined = true ↔ g.descriptor.kind = .freeText
  validIssueTypes : f.validIssueTypes = g.validIssueTypes

theorem AllowedValue.label_eq (v : AllowedValue) :
    v.label = ([v.name, v.value].reduceOption.find? fun t => t ≠ "").getD v.id := by
  obtain ⟨id, name, value⟩ := v
  have hraw : orElseName (value.getD "") id =
      ([value].reduceOption.find? fun t => t ≠ "").getD id := by
    cases value with
    | none => rfl
    | some r => by_cases hr : r = "" <;> simp [orElseName, List.reduceOption, hr]
  cases name with
  | none => exact hraw
  | some n =>
    rw [AllowedValue.label, Option.getD_some, orElseName, hraw, List.reduceOption_cons_of_some,
      List.find?_cons]
    by_cases hn : n = "" <;> simp [hn]

theorem FieldOption.shows_iff (o : FieldOption) (v : AllowedValue) : o.Shows v ↔ v.toOption = o := by
  constructor
  · intro h
    obtain ⟨value, label⟩ := o
    obtain ⟨hv, hl⟩ := h
    simp only at hv hl
    rw [AllowedValue.toOption, v.label_eq, hv, hl]
  · intro h
    subst h
    exact ⟨rfl, v.label_eq⟩

theorem forall₂_iff_map_eq {α β : Type} {R : α → β → Prop} {f : β → α} (h : ∀ a b, R a b ↔ f b = a)
    {as : List α} {bs : List β} : List.Forall₂ R as bs ↔ bs.map f = as := by
  rw [eq_comm, ← List.forall₂_eq_eq_eq, List.forall₂_map_right_iff]
  have hR : R = fun a b => a = f b := by
    funext a b
    exact propext ((h a b).trans eq_comm)
  rw [hR]

theorem FieldOption.forall₂_shows_iff {os : List FieldOption} {vs : List AllowedValue} :
    List.Forall₂ FieldOption.Shows os vs ↔ vs.map AllowedValue.toOption = os :=
  forall₂_iff_map_eq FieldOption.shows_iff

theorem GroupedField.options_eq (g : GroupedField) (kind : FieldKind) :
    g.options kind = (if kind = .enumerated then g.descriptor.allowedValues.getD [] else []).map
      AllowedValue.toOption := by
  cases kind <;> rfl

theorem CatalogField.shows_iff (f : CatalogField) (g : GroupedField) : f.Shows g ↔ g.entry = f := by
  constructor
  · intro h
    have hvalues := (g.options_eq g.descriptor.kind).trans (FieldOption.forall₂_shows_iff.mp h.options)
    have huser : (g.descriptor.kind == .freeText) = f.userDefined := by
      rw [Bool.eq_iff_iff, h.userDefined, beq_iff_eq]
    rw [GroupedField.entry, GroupedField.toCatalogField, hvalues, huser, ← h.key, ← h.name, ← h.schema,
      ← h.kind, ← h.validIssueTypes]
  · intro h
    subst h
    exact ⟨rfl, rfl, rfl, rfl, FieldOption.forall₂_shows_iff.mpr (g.options_eq _).symm, beq_iff_eq, rfl⟩

theorem CatalogField.forall₂_shows_iff {fs : List CatalogField} {gs : List GroupedField} :
    List.Forall₂ CatalogField.Shows fs gs ↔ gs.map GroupedField.entry = fs :=
  forall₂_iff_map_eq CatalogField.shows_iff

section
variable {m : Option Metadata} {projects selection : List String} {fields : List CatalogField}

theorem toList_epicLinkOf : (epicLinkOf m projects).toList =
    ((groupedFields m projects).filter GroupedField.isEpicLink).take 1 := by
  rw [List.take_one, List.head?_filter, epicLinkOf]

theorem toList_addedStatus (hp : projects ≠ []) : (addedStatus m projects selection).toList =
    if SystemField.status ∈ ((ordinaryFields m projects).map GroupedField.entry).map CatalogField.key
      then [] else (statusField m selection).toList := by
  have hkeys : ((ordinaryFields m projects).map GroupedField.entry).map CatalogField.key =
      (ordinaryFields m projects).map GroupedField.key := by
    rw [List.map_map]
    rfl
  rw [hkeys, addedStatus]
  by_cases hs : SystemField.status ∈ (ordinaryFields m projects).map GroupedField.key
  · rw [if_pos (.inr hs), if_pos hs, Option.toList_none]
  · rw [if_neg (by simp [hp, hs]), if_neg hs]

/-- A catalog is the first epic link, then the ordinary fields in their order and the status field,
unless one of them has its key, in a stable order by name. -/
theorem catalog_arranged_iff (hp : projects ≠ []) :
    catalog m projects selection = fields ↔
      ∃ links ordinary others, fields = links ++ others ∧
        List.Forall₂ CatalogField.Shows links
          (((groupedFields m projects).filter GroupedField.isEpicLink).take 1) ∧
        List.Forall₂ CatalogField.Shows ordinary
          ((groupedFields m projects).filter GroupedField.isOrdinary) ∧
        StablySorted CatalogField.name (ordinary ++
          if SystemField.status ∈ ordinary.map CatalogField.key then []
          else (statusField m selection).toList) others := by
  rw [catalog_eq, Option.toList_map, toList_epicLinkOf, toList_addedStatus hp]
  simp only [CatalogField.forall₂_shows_iff, ← mergeSort_eq_iff]
  constructor
  · intro h
    exact ⟨_, _, _, h.symm, rfl, rfl, rfl⟩
  · intro h
    obtain ⟨links, ordinary, others, hf, rfl, rfl, rfl⟩ := h
    exact hf.symm

end

def mixedProject : Metadata where
  projects := [⟨"KT", [⟨"1", "Bug", false, [
    ("z", ⟨none, "Zone", false, ⟨"option", none, none, none⟩,
      some [⟨"7", some "", some "north"⟩, ⟨"7", none, some ""⟩]⟩),
    ("e1", ⟨none, "Parent", false, ⟨"any", some CustomType.epicLink, none, none⟩, some [⟨"9", none, none⟩]⟩),
    ("a2", ⟨none, "Area", false, ⟨"array", none, some "string", none⟩, none⟩),
    ("a1", ⟨none, "Area", false, ⟨"priority", none, none, none⟩, some [⟨"1", some "High", some "1"⟩]⟩),
    ("e2", ⟨none, "Epic", false, ⟨"any", some CustomType.epicLink, none, none⟩, none⟩),
    ("n", ⟨none, "Notes", false, ⟨"string", none, none, none⟩, none⟩)]⟩]⟩]
  workflows := [⟨"1", "Bug", [⟨"3", "Open"⟩]⟩]

theorem catalog_arranged_mixedProject :
    ["KT"] ≠ ([] : List String) ∧ catalog (some mixedProject) ["KT"] ["1"] = [
      ⟨"e1", "Parent", ⟨"any", some CustomType.epicLink, none, none⟩, .epicLink, [], false, [⟨"1", "Bug"⟩]⟩,
      ⟨"a2", "Area", ⟨"array", none, some "string", none⟩, .freeText, [], true, [⟨"1", "Bug"⟩]⟩,
      ⟨"a1", "Area", ⟨"priority", none, none, none⟩, .enumerated, [⟨"1", "High"⟩], false, [⟨"1", "Bug"⟩]⟩,
      ⟨"status", "Status", ⟨"array", none, none, none⟩, .enumerated, [⟨"3", "Open"⟩], false,
        [⟨"1", "Bug"⟩]⟩,
      ⟨"z", "Zone", ⟨"option", none, none, none⟩, .enumerated, [⟨"7", "north"⟩, ⟨"7", "7"⟩], false,
        [⟨"1", "Bug"⟩]⟩] := by
  have hp : ["KT"] ≠ ([] : List String) := List.cons_ne_nil "KT" []
  refine ⟨hp, (catalog_arranged_iff hp).mpr ⟨_, (ordinaryFields (some mixedProject) ["KT"]).map
    GroupedField.entry, _, List.singleton_append.symm, ?_, ?_, ?_⟩⟩
  · exact CatalogField.forall₂_shows_iff.mpr rfl
  · exact CatalogField.forall₂_shows_iff.mpr rfl
  · decide +kernel

end TrackerFilter
