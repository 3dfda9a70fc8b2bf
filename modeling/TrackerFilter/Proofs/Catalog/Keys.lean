import TrackerFilter.Proofs.Catalog.Offer

/-!
The keys of a catalog. The fields of the tracker have keys of their own, and the status field joins them
unless an ordinary field takes its key; an epic link that takes it is not looked at. So the keys are
distinct except where the epic link and the status field are both offered under the key of the latter.
-/
namespace TrackerFilter

section
variable {m : Option Metadata} {projects selection : List String} {g : GroupedField}
  {f s : CatalogField} {key : String}

theorem findField_eq_some (h : findField (catalog m projects selection) key = some f) :
    f.key = key ∧ f ∈ catalog m projects selection :=
  ⟨by simpa using List.find?_some h, List.mem_of_find?_eq_some h⟩

theorem findField_isSome {fields : List CatalogField} (hf : f ∈ fields) :
    ∃ h, findField fields f.key = some h := by
  have hs : (findField fields f.key).isSome := List.find?_isSome.mpr ⟨f, hf, by simp⟩
  exact Option.isSome_iff_exists.mp hs

theorem findField_epicLink (he : epicLinkOf m projects = some g) :
    findField (catalog m projects selection) g.key = some g.entry := by
  simp [findField, catalog_eq, he]

theorem findField_offered (hg : g ∈ offeredFields m projects) :
    findField (catalog m projects selection) g.key = some g.entry := by
  rcases mem_offeredFields.mp hg with he | ⟨hm, ho⟩
  · exact findField_epicLink he
  · have hin : g.entry ∈ catalog m projects selection := mem_catalog.mpr (.inl ⟨g, hg, rfl⟩)
    obtain ⟨f, hf⟩ := findField_isSome hin
    obtain ⟨hk, hc⟩ := findField_eq_some hf
    rcases mem_catalog.mp hc with ⟨h, hh, rfl⟩ | hs
    · obtain rfl := offeredFields_eq_of_key_eq hg hh hk.symm
      exact hf
    · obtain ⟨_, hno, hst⟩ := addedStatus_eq_some.mp hs
      have hgk : g.key = SystemField.status := hk.symm.trans (key_statusField hst)
      exact absurd hgk (hno g (List.mem_filter.mpr ⟨hm, ho⟩))

theorem findField_unoffered (hn : ∀ g ∈ offeredFields m projects, g.key ≠ key) :
    findField (catalog m projects selection) key =
      (addedStatus m projects selection).filter fun s => s.key = key := by
  cases hf : findField (catalog m projects selection) key with
  | some f =>
    obtain ⟨hk, hc⟩ := findField_eq_some hf
    rcases mem_catalog.mp hc with ⟨g, hg, rfl⟩ | hs
    · exact absurd hk (hn g hg)
    · rw [hs, Option.filter_some_pos (by simpa using hk)]
  | none =>
    cases hs : addedStatus m projects selection with
    | none => rfl
    | some s =>
      have hne : s.key ≠ key := by
        simpa using List.find?_eq_none.mp hf s (mem_catalog.mpr (.inr hs))
      rw [Option.filter_some_neg (by simpa using hne)]

theorem findField_eq_none :
    findField (catalog m projects selection) key = none ↔
      (∀ g ∈ offeredFields m projects, g.key ≠ key) ∧
        ∀ s, addedStatus m projects selection = some s → s.key ≠ key := by
  constructor
  · intro h
    have hno := List.find?_eq_none.mp h
    refine ⟨fun g hg hk => ?_, fun s hs hk => ?_⟩
    · exact hno g.entry (mem_catalog.mpr (.inl ⟨g, hg, rfl⟩)) (decide_eq_true hk)
    · exact hno s (mem_catalog.mpr (.inr hs)) (decide_eq_true hk)
  · intro h
    rw [findField_unoffered h.1, Option.filter_eq_none_iff]
    intro s hs
    simpa using h.2 s hs

theorem findField_catalog_eq_some :
    findField (catalog m projects selection) key = some f ↔ f.key = key ∧
      ((∃ g ∈ offeredFields m projects, g.entry = f) ∨
        addedStatus m projects selection = some f ∧ ∀ g ∈ offeredFields m projects, g.key ≠ key) := by
  by_cases hn : ∀ g ∈ offeredFields m projects, g.key ≠ key
  · rw [findField_unoffered hn, Option.filter_eq_some_iff]
    constructor
    · intro h
      exact ⟨by simpa using h.2, .inr ⟨h.1, hn⟩⟩
    · intro h
      obtain ⟨hk, ⟨g, hg, rfl⟩ | ⟨hs, _⟩⟩ := h
      · exact absurd hk (hn g hg)
      · exact ⟨hs, by simpa using hk⟩
  · push Not at hn
    obtain ⟨g, hg, rfl⟩ := hn
    rw [findField_offered hg, Option.some.injEq]
    constructor
    · intro he
      subst he
      exact ⟨rfl, .inl ⟨g, hg, rfl⟩⟩
    · intro h
      obtain ⟨hk, ⟨h, hh, rfl⟩ | ⟨_, hno⟩⟩ := h
      · rw [offeredFields_eq_of_key_eq hg hh hk.symm]
      · exact absurd rfl (hno g hg)

end

/-- The epic link on offer has the key of the status field, and there is a status field. -/
structure SharedStatusKey (m : Option Metadata) (projects selection : List String) : Prop where
  epicLink : ∃ g, epicLinkOf m projects = some g ∧ g.key = SystemField.status
  reached : ∃ d, m = some d ∧ d.ReachesStatus selection

section
variable {m : Option Metadata} {projects selection : List String}

theorem ordinary_key_ne_of_epicLink {e g : GroupedField} (he : epicLinkOf m projects = some e)
    (hg : g ∈ ordinaryFields m projects) : g.key ≠ e.key := by
  intro hk
  have hn := nodup_keys_offeredFields m projects
  simp only [offeredFields, he, Option.toList_some, List.singleton_append, List.map_cons,
    List.nodup_cons] at hn
  exact hn.1 (hk ▸ List.mem_map_of_mem hg)

theorem SharedStatusKey.exists_entries (h : SharedStatusKey m projects selection) :
    ∃ g s, epicLinkOf m projects = some g ∧ g.key = SystemField.status ∧
      addedStatus m projects selection = some s := by
  obtain ⟨g, he, hk⟩ := h.epicLink
  obtain ⟨s, hs⟩ := Option.isSome_iff_exists.mp (statusField_isSome.mpr h.reached)
  refine ⟨g, s, he, hk, addedStatus_eq_some.mpr ⟨?_, ?_, hs⟩⟩
  · intro hp
    subst hp
    simp [epicLinkOf, groupedFields, occurrences, GroupedField.noteAll] at he
  · exact fun g' hg' => hk ▸ ordinary_key_ne_of_epicLink he hg'

theorem sharedStatusKey_of_offered {g : GroupedField} {s : CatalogField}
    (hs : addedStatus m projects selection = some s) (hg : g ∈ offeredFields m projects)
    (hk : g.key = s.key) : SharedStatusKey m projects selection := by
  obtain ⟨_, hno, hst⟩ := addedStatus_eq_some.mp hs
  have hkey : g.key = SystemField.status := hk.trans (key_statusField hst)
  rcases mem_offeredFields.mp hg with he | ho
  · exact ⟨⟨g, he, hkey⟩, statusField_isSome.mp (Option.isSome_iff_exists.mpr ⟨s, hst⟩)⟩
  · exact absurd hkey (hno g (List.mem_filter.mpr ho))

theorem keys_catalog_perm (m : Option Metadata) (projects selection : List String) :
    ((catalog m projects selection).map CatalogField.key).Perm
      ((offeredFields m projects).map GroupedField.key ++
        (addedStatus m projects selection).toList.map CatalogField.key) := by
  have hp := (catalog_perm m projects selection).map CatalogField.key
  rwa [List.map_append, List.map_map] at hp

theorem nodup_keys_catalog_iff :
    ((catalog m projects selection).map CatalogField.key).Nodup ↔
      ¬ SharedStatusKey m projects selection := by
  rw [(keys_catalog_perm m projects selection).nodup_iff, List.nodup_append]
  constructor
  · intro hn h
    have hd := hn.2.2
    obtain ⟨g, s, he, hk, hs⟩ := h.exists_entries
    refine hd g.key ?_ s.key (by simp [hs]) (hk.trans (key_addedStatus hs).symm)
    exact List.mem_map_of_mem (mem_offeredFields.mpr (.inl he))
  · intro h
    refine ⟨nodup_keys_offeredFields m projects, ?_, ?_⟩
    · cases addedStatus m projects selection <;> simp
    · intro k hk k' hk' he
      obtain ⟨g, hg, hgk⟩ := List.mem_map.mp hk
      obtain ⟨s, hs, hsk⟩ := List.mem_map.mp hk'
      have hgs : g.key = s.key := hgk.trans (he.trans hsk.symm)
      exact h (sharedStatusKey_of_offered (Option.mem_toList.mp hs) hg hgs)

theorem kind_of_epicLinkOf {g : GroupedField} (he : epicLinkOf m projects = some g) :
    g.descriptor.kind = .epicLink := by
  have hg : g.isEpicLink = true := List.find?_some he
  simpa [GroupedField.isEpicLink] using hg

theorem kind_of_offered {g : GroupedField} (hg : g ∈ offeredFields m projects) :
    g.descriptor.kind ≠ .unsupported := by
  rcases mem_offeredFields.mp hg with he | ⟨_, ho⟩
  · rw [kind_of_epicLinkOf he]
    exact FieldKind.noConfusion
  · intro hk
    simp [GroupedField.isOrdinary, hk] at ho

theorem SharedStatusKey.exists_unfound (h : SharedStatusKey m projects selection) :
    ∃ s ∈ catalog m projects selection, findField (catalog m projects selection) s.key ≠ some s := by
  obtain ⟨g, s, he, hk, hs⟩ := h.exists_entries
  refine ⟨s, mem_catalog.mpr (.inr hs), ?_⟩
  rw [key_addedStatus hs, ← hk, findField_epicLink he]
  intro hf
  have hkind : g.entry.kind = s.kind := congrArg CatalogField.kind (Option.some.inj hf)
  rw [g.kind_entry, kind_of_epicLinkOf he, kind_statusField (statusField_of_addedStatus hs)] at hkind
  exact FieldKind.noConfusion hkind

theorem findField_key_iff :
    (∀ f ∈ catalog m projects selection, findField (catalog m projects selection) f.key = some f) ↔
      ¬ SharedStatusKey m projects selection := by
  constructor
  · intro hf h
    obtain ⟨s, hs, hn⟩ := h.exists_unfound
    exact hn (hf s hs)
  · intro h f hf
    rw [findField_catalog_eq_some]
    refine ⟨rfl, ?_⟩
    rcases mem_catalog.mp hf with hg | hs
    · exact .inl hg
    · exact .inr ⟨hs, fun g hg hk => h (sharedStatusKey_of_offered hs hg hk)⟩

/-- The keys of a catalog are distinct, and every field is found again by its key, except where the epic
link has the key of the status field and there is one. -/
theorem catalog_keys_distinct_iff (m : Option Metadata) (projects selection : List String) :
    (((catalog m projects selection).map CatalogField.key).Nodup ↔
        ¬ SharedStatusKey m projects selection) ∧
      ((∀ f ∈ catalog m projects selection,
          findField (catalog m projects selection) f.key = some f) ↔
        ¬ SharedStatusKey m projects selection) :=
  ⟨nodup_keys_catalog_iff, findField_key_iff⟩

end

def epicLinkAsStatus : Metadata where
  projects := [⟨"KT", [⟨"1", "Bug", false, [("status",
    ⟨some "status", "Epic Link", false, ⟨"any", some CustomType.epicLink, none, none⟩, none⟩)]⟩]⟩]
  workflows := [⟨"1", "Bug", [⟨"3", "Open"⟩]⟩]

theorem catalog_repeats_statusKey :
    (catalog (some epicLinkAsStatus) ["KT"] []).map CatalogField.key = ["status", "status"] ∧
      ¬ ((catalog (some epicLinkAsStatus) ["KT"] []).map CatalogField.key).Nodup := by
  decide +kernel

end TrackerFilter
